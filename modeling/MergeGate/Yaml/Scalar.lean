import MergeGate.Yaml.Cursor

/-
  MergeGate/Yaml/Scalar.lean
  ==========================
  **The texts of scalars.**  A scalar is written plain, between quotation marks, or as a block of lines
  after `|` or `>`.  Each reader starts at a cursor and gives the text and the cursor after it.

  A single line end inside a plain or quoted scalar is a space, further ones are kept.  In a folded
  block that holds between lines that begin with neither space nor tab.
-/

namespace MergeGate.Yaml

open MergeGate.Text

/-- What a reader of a scalar gives. -/
abbrev Taken := Except Fault (List Char × Cursor)

/-- A line end and the further ones after it, as they count in a text that is folded. -/
def foldBreaks (first more : List Char) : List Char :=
  if first != ['\n'] then first ++ more else if more.isEmpty then [' '] else more

/-! ### Blocks -/

/-- What is done with the line ends at the end of a block. -/
inductive Chomping where
  | clip
  | strip
  | keep
  deriving DecidableEq, Repr

/-- What a character says about chomping. -/
def Chomping.ofSign? (c : Char) : Option Chomping :=
  if c = '+' then some .keep else if c = '-' then some .strip else none

/-- The line that a block begins with. -/
structure BlockHeader where
  chomping : Chomping
  indentation : Option Nat

/-- Takes a sign, if there is one. -/
def takeChomping (c : Cursor) : Option Chomping × Cursor :=
  match Chomping.ofSign? c.peek with
  | some k => (some k, c.step)
  | none => (none, c)

/-- Takes a digit, if there is one; zero is no indentation. -/
def takeIndentation (c : Cursor) : Except Fault (Option Nat × Cursor) :=
  if !isAsciiDigit c.peek then .ok (none, c)
  else if c.peek = '0' then .error .malformed
  else .ok (some (digitValue c.peek), c.step)

/-- Takes the first line of a block: a sign and a digit in either order, and nothing else. -/
def takeHeader (c : Cursor) : Except Fault (BlockHeader × Cursor) := do
  let (before, c) := takeChomping c
  let (indentation, c) ← takeIndentation c
  let (after, c) := if before.isNone && indentation.isSome then takeChomping c else (none, c)
  if !isGap c.peek then throw .malformed
  else
    let c ← c.endLine
    return (⟨(before.or after).getD .clip, indentation⟩, c)

/-- Takes empty lines and the spaces of the first line that is not; also gives the largest column that
the spaces reach. -/
def takeLeading : Nat → Nat → Cursor → List Char × Nat × Cursor
  | 0, most, c => ([], most, c)
  | n + 1, most, c =>
    if c.peek = ' ' then
      let c := c.step
      takeLeading n (max most c.column) c
    else if isBreak c.peek then
      let (b, c) := c.takeBreak
      let (bs, most, c) := takeLeading n most c
      (b ++ bs, most, c)
    else ([], most, c)

/-- Goes on past spaces that lie before a column. -/
def skipIndent (indent : Nat) (c : Cursor) : Cursor :=
  Cursor.skip (min (indent - c.column) (c.ahead (· == ' ')).length) c

/-- Takes empty lines and the indentation of the line after them. -/
def takeBreaks (indent : Nat) : Nat → Cursor → List Char × Cursor
  | 0, c => ([], c)
  | n + 1, c =>
    let c := skipIndent indent c
    if isBreak c.peek then
      let (b, c) := c.takeBreak
      let (bs, c) := takeBreaks indent n c
      (b ++ bs, c)
    else ([], c)

/-- The lines of a block: their text, the end of the last one, and the empty lines after it. -/
structure BlockBody where
  text : List Char
  lastBreak : List Char
  trailing : List Char
  cursor : Cursor

/-- Takes the lines of a block that begin at a column, `breaks` being the empty lines before. -/
def takeLines (folded : Bool) (indent : Nat) : Nat → List Char → Cursor → BlockBody
  | 0, breaks, c => ⟨[], [], breaks, c⟩
  | n + 1, breaks, c =>
    if c.column ≠ indent || c.peek == endMark then ⟨[], [], breaks, c⟩
    else
      let (line, c₁) := c.takeWhile fun ch => !isLineEnd ch
      let (b, c₂) := c₁.takeBreak
      let (bs, c₃) := takeBreaks indent n c₂
      if c₃.column = indent && c₃.peek != endMark then
        let isFolded := folded && b == ['\n'] && !isInline c.peek && !isInline c₃.peek
        let glue := if isFolded then (if bs.isEmpty then [' '] else []) else b
        let body := takeLines folded indent n bs c₃
        { body with text := breaks ++ line ++ glue ++ body.text }
      else ⟨breaks ++ line, b, bs, c₃⟩

/-- Takes a block after its indicator; `least` is the least column that its lines may begin at. -/
def takeBlock (folded : Bool) (least : Nat) (c : Cursor) : Taken := do
  let (header, c) ← takeHeader c
  let fuel := c.rest.length + 1
  let (breaks, indent, c) :=
    match header.indentation with
    | none =>
      let (bs, most, c) := takeLeading fuel 0 c
      (bs, max least most, c)
    | some n =>
      let indent := least + n - 1
      let (bs, c) := takeBreaks indent fuel c
      (bs, indent, c)
  let body := takeLines folded indent fuel breaks c
  let text :=
    match header.chomping with
    | .strip => body.text
    | .clip => body.text ++ body.lastBreak
    | .keep => body.text ++ body.lastBreak ++ body.trailing
  return (text, body.cursor)

/-! ### Quoted scalars -/

/-- The character that an escape of one letter stands for. -/
def escapeOf? : Char → Option Char
  | '0' => some '\x00'
  | 'a' => some '\x07'
  | 'b' => some '\x08'
  | 't' => some '\t'
  | '\t' => some '\t'
  | 'n' => some '\n'
  | 'v' => some '\x0b'
  | 'f' => some '\x0c'
  | 'r' => some '\r'
  | 'e' => some '\x1b'
  | ' ' => some ' '
  | '\x22' => some '\x22'
  | '\\' => some '\\'
  | '/' => some '/'
  | 'N' => some '\u0085'
  | '_' => some '\u00a0'
  | 'L' => some '\u2028'
  | 'P' => some '\u2029'
  | _ => none

/-- How many digits follow the letter of an escape by code. -/
def codeWidth? : Char → Option Nat
  | 'x' => some 2
  | 'u' => some 4
  | 'U' => some 8
  | _ => none

/-- The number of hexadecimal digits. -/
def hexValue (cs : List Char) : Nat := cs.foldl (fun n c => n * 16 + (hexValue? c).getD 0) 0

/-- Takes a number of `width` hexadecimal digits. -/
def takeHex (width : Nat) (c : Cursor) : Except Fault (Nat × Cursor) :=
  let digits := c.rest.take width
  if digits.length = width && digits.all fun d => (hexValue? d).isSome then
    .ok (hexValue digits, Cursor.skip width c)
  else .error .malformed

/-- Whether a code is the first half of a pair. -/
def isHighHalf (n : Nat) : Bool := 0xd800 ≤ n && n ≤ 0xdbff

/-- Whether a code is the second half of a pair. -/
def isLowHalf (n : Nat) : Bool := 0xdc00 ≤ n && n ≤ 0xdfff

/-- The character of a code.  A half that stands alone is no character, so texts cannot tell which one it
was: U+FFFD stands for all of them. -/
def charOf (n : Nat) : Except Fault Char :=
  if 0x110000 ≤ n then .error (.codeTooLarge (0x80000000 ≤ n))
  else if isHighHalf n || isLowHalf n then .ok '\ufffd'
  else .ok (Char.ofNat n)

/-- Takes a code whose digits are ahead; two halves of a pair are one character. -/
def takeCode (width : Nat) (c : Cursor) : Except Fault (Char × Cursor) := do
  let (n, c) ← takeHex width c
  if isHighHalf n && c.peek == '\\' && c.peekAt 1 == 'u' then
    let (m, c₁) ← takeHex 4 (Cursor.skip 2 c)
    if isLowHalf m then
      return (Char.ofNat (0x10000 + (n - 0xd800) * 0x400 + (m - 0xdc00)), c₁)
    else return (← charOf n, c)
  else return (← charOf n, c)

/-- Takes empty lines inside a quoted scalar, which no separator of documents may interrupt. -/
def takeQuotedBreaks : Nat → Cursor → Taken
  | 0, c => .ok ([], c)
  | n + 1, c => do
    if c.isSeparator then throw .malformed
    else
      let c := c.skipWhile isInline
      if isBreak c.peek then
        let (b, c) := c.takeBreak
        let (bs, c) ← takeQuotedBreaks n c
        return (b ++ bs, c)
      else return ([], c)

/-- Takes white space inside a quoted scalar. -/
def takeQuotedSpaces (n : Nat) (c : Cursor) : Taken := do
  let (spaces, c) := c.takeWhile isInline
  if c.peek = endMark then throw .malformed
  else if isBreak c.peek then
    let (b, c) := c.takeBreak
    let (bs, c) ← takeQuotedBreaks n c
    return (foldBreaks b bs, c)
  else return (spaces, c)

/-- The characters at which a run inside a quoted scalar stops. -/
def stopsQuoted (c : Char) : Bool := isWhite c || c == '\x27' || c == '\x22' || c == '\\'

/-- Takes what an escape stands for, after its backslash. -/
def takeEscape (n : Nat) (c : Cursor) : Taken := do
  match escapeOf? c.peek, codeWidth? c.peek with
  | some ch, _ => return ([ch], c.step)
  | none, some width =>
    let (ch, c) ← takeCode width c.step
    return ([ch], c)
  | none, none =>
    if isBreak c.peek then takeQuotedBreaks n c.takeBreak.2 else throw .malformed

/-- Takes what is no white space inside a quoted scalar. -/
def takeQuotedRun (double : Bool) : Nat → Cursor → Taken
  | 0, c => .ok ([], c)
  | n + 1, c => do
    let (run, c) := c.takeWhile fun ch => !stopsQuoted ch
    let ch := c.peek
    if !double && ch == '\x27' && c.peekAt 1 == '\x27' then
      let (more, c) ← takeQuotedRun double n (Cursor.skip 2 c)
      return (run ++ '\x27' :: more, c)
    else if (double && ch == '\x27') || (!double && (ch == '\x22' || ch == '\\')) then
      let (more, c) ← takeQuotedRun double n c.step
      return (run ++ ch :: more, c)
    else if double && ch == '\\' then
      let (escaped, c) ← takeEscape n c.step
      let (more, c) ← takeQuotedRun double n c
      return (run ++ escaped ++ more, c)
    else return (run, c)

/-- Takes the rest of a quoted scalar and its closing mark. -/
def takeQuotedRest (double : Bool) : Nat → Cursor → Taken
  | 0, _ => .error .malformed
  | n + 1, c => do
    if c.peek = (if double then '\x22' else '\x27') then return ([], c.step)
    else
      let (spaces, c) ← takeQuotedSpaces n c
      let (run, c) ← takeQuotedRun double n c
      let (more, c) ← takeQuotedRest double n c
      return (spaces ++ run ++ more, c)

/-- Takes a quoted scalar after its opening mark. -/
def takeQuoted (double : Bool) (c : Cursor) : Taken := do
  let fuel := c.rest.length + 2
  let (run, c) ← takeQuotedRun double fuel c
  let (more, c) ← takeQuotedRest double fuel c
  return (run ++ more, c)

/-! ### Plain scalars -/

/-- The characters that separate the parts of a flow collection. -/
def isFlowMark (c : Char) : Bool := c == ',' || c == '[' || c == ']' || c == '\x7b' || c == '\x7d'

/-- The characters of a plain scalar up to the next white space or mark. -/
def plainRun (flow : Bool) : List Char → List Char
  | [] => []
  | c :: cs =>
    let next := cs.headD endMark
    if isWhite c || (c == ':' && (isWhite next || flow && isFlowMark next))
        || (flow && (isFlowMark c || c == '?')) then []
    else c :: plainRun flow cs

/-- Takes empty lines and the indentation of the line after them; nothing if a separator of documents
comes. -/
def takePlainBreaks : Nat → Cursor → Option (List Char) × Cursor
  | 0, c => (some [], c)
  | n + 1, c =>
    if c.peek = ' ' then takePlainBreaks n c.step
    else if isBreak c.peek then
      let (b, c) := c.takeBreak
      if c.isSeparator then (none, c)
      else
        let (bs, c) := takePlainBreaks n c
        (bs.map (b ++ ·), c)
    else (some [], c)

/-- Takes white space after a part of a plain scalar; the last component tells whether a line ended. -/
def takePlainSpaces (c : Cursor) : List Char × Cursor × Bool :=
  let (spaces, c) := c.takeWhile (· == ' ')
  if isBreak c.peek then
    let (b, c) := c.takeBreak
    if c.isSeparator then ([], c, true)
    else
      match takePlainBreaks (c.rest.length + 1) c with
      | (some bs, c) => (foldBreaks b bs, c, true)
      | (none, c) => ([], c, true)
  else (spaces, c, false)

/-- Takes a plain scalar, `least` being the least column of its further lines; the last component
tells whether the cursor is on a new line. -/
def takePlain (flow : Bool) (least : Nat) : Nat → List Char → Bool → Cursor → List Char × Cursor × Bool
  | 0, _, fresh, c => ([], c, fresh)
  | n + 1, spaces, fresh, c =>
    if c.peek = '#' then ([], c, fresh)
    else
      let run := plainRun flow c.rest
      if run.isEmpty then ([], c, fresh)
      else
        let (after, c, fresh) := takePlainSpaces (Cursor.skip run.length c)
        let text := spaces ++ run
        if after.isEmpty || c.peek == '#' || (!flow && c.column < least) then (text, c, fresh)
        else
          let (more, c, fresh) := takePlain flow least n after fresh c
          (text ++ more, c, fresh)

end MergeGate.Yaml
