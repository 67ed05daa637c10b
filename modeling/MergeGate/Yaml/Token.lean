import MergeGate.Yaml.Scalar
import MergeGate.Yaml.Tag

/-
  MergeGate/Yaml/Token.lean
  =========================
  **The tokens of a YAML text.**  `tokensOf` cuts a text into tokens.  Indentation becomes tokens too: a
  block collection begins where its first entry lies further right than what is around it, and
  ends where a line begins further left.

  A mapping key is known as one only by the colon after it.  So wherever a key may begin, its place
  is remembered (`Key`), one for each level of flow collections, and when the colon comes a key
  token is put there.  A key ends with its line and has at most `keyLimit` characters; where
  nothing but a key can stand, a missing colon is a fault.

  A text can be at fault behind a place where its structure is already wrong.  Therefore the tokens
  before a fault are given together with it.
-/

namespace MergeGate.Yaml

inductive Token where
  | directive (d : Directive)
  | documentStart
  | documentEnd
  | blockSequence
  | blockMapping
  | blockEnd
  | openList
  | closeList
  | openMapping
  | closeMapping
  | entry
  | comma
  | key
  | value
  | alias (name : List Char)
  | anchor (name : List Char)
  | tag (t : WrittenTag)
  | scalar (text : List Char) (isPlain : Bool)
  deriving DecidableEq, Repr

/-- A place where a key may begin: how many tokens come before it, where it is, and whether nothing
but a key can be there. -/
structure Key where
  number : Nat
  required : Bool
  index : Nat
  line : Nat
  column : Nat

/-- The state of a scan; `tokens` is in reverse. -/
structure Scan where
  cursor : Cursor
  tokens : List Token := []
  /-- How many flow collections are open. -/
  flow : Nat := 0
  /-- The column of the block collection that is open; none outside of all. -/
  indent : Option Nat := none
  /-- The columns of the block collections around it. -/
  outer : List (Option Nat) := []
  /-- Whether a key or an entry of a block collection may begin. -/
  mayBegin : Bool := true
  /-- The places where keys may begin, by the number of open flow collections. -/
  keys : List (Nat × Key) := []

/-- The most characters between the beginning of a key and its colon. -/
def keyLimit : Nat := 1024

namespace Scan

/-- Whether a flow collection is open. -/
def inFlow (s : Scan) : Bool := s.flow != 0

/-- Whether a column lies further right than the open block collection. -/
def isDeeper (s : Scan) (column : Nat) : Bool :=
  match s.indent with
  | none => true
  | some n => n < column

/-- The least column of the further lines of a scalar. -/
def scalarColumn (s : Scan) : Nat :=
  match s.indent with
  | none => 0
  | some n => n + 1

/-! ### Keys -/

/-- Forgets the keys that have become too long or were left behind on another line. -/
def dropStaleKeys (s : Scan) : Except Fault Scan :=
  let isStale (k : Nat × Key) : Bool :=
    k.2.line != s.cursor.line || keyLimit < s.cursor.index - k.2.index
  if s.keys.any fun k => isStale k && k.2.required then .error .malformed
  else .ok { s with keys := s.keys.filter fun k => !isStale k }

/-- Forgets the key of the current level, which must not be a required one. -/
def dropKey (s : Scan) : Except Fault Scan :=
  match s.keys.lookup s.flow with
  | none => .ok s
  | some key =>
    if key.required then .error .malformed
    else .ok { s with keys := s.keys.filter fun k => k.1 != s.flow }

/-- Remembers that a key may begin here. -/
def saveKey (s : Scan) : Except Fault Scan := do
  if s.mayBegin then
    let required := !s.inFlow && s.indent == some s.cursor.column
    let s ← s.dropKey
    let key : Key := ⟨s.tokens.length, required, s.cursor.index, s.cursor.line, s.cursor.column⟩
    return { s with keys := (s.flow, key) :: s.keys }
  else return s

/-- Puts a token behind the first `number` tokens. -/
def insert (s : Scan) (number : Nat) (t : Token) : Scan :=
  { s with tokens := s.tokens.insertIdx (s.tokens.length - number) t }

/-! ### Indentation -/

/-- Closes the block collections that lie right of a column, `none` being left of all; `opened` is how
many there are. -/
def closeBlocks (column : Option Nat) : Nat → Scan → Scan
  | 0, s => s
  | opened + 1, s =>
    let isLeft : Bool :=
      match s.indent, column with
      | some n, some c => decide (c < n)
      | some _, none => true
      | none, _ => false
    if isLeft then
      closeBlocks column opened
        { s with tokens := .blockEnd :: s.tokens, indent := s.outer.headD none, outer := s.outer.tail }
    else s

/-- Closes the block collections that a line at a column does not belong to. -/
def unwind (s : Scan) (column : Option Nat) : Scan :=
  if s.inFlow then s else closeBlocks column (s.outer.length + 1) s

/-- Opens a block collection at a column, if that lies further right than the open one. -/
def openBlock (s : Scan) (column number : Nat) (t : Token) : Scan :=
  if s.isDeeper column then
    let s := s.insert number t
    { s with outer := s.indent :: s.outer, indent := some column }
  else s

/-- Opens a block collection here, if this lies further right than the open one. -/
def openBlockHere (s : Scan) (t : Token) : Scan := s.openBlock s.cursor.column s.tokens.length t

/-! ### Taking one token -/

/-- Goes on past spaces, remarks and line ends. -/
def skipToToken : Nat → Scan → Scan
  | 0, s => s
  | n + 1, s =>
    let c := s.cursor.skipSpaces.skipRemark
    if isBreak c.peek then
      skipToToken n { s with cursor := c.takeBreak.2, mayBegin := s.mayBegin || !s.inFlow }
    else { s with cursor := c }

def takeMark (s : Scan) (t : Token) : Scan := { s with cursor := s.cursor.step, tokens := t :: s.tokens }

/-- Takes a directive, or the mark at one end of a document. -/
def takeOutside (s : Scan) (read : Cursor → Except Fault (Token × Cursor)) : Except Fault Scan := do
  let s ← (s.unwind none).dropKey
  let (t, c) ← read s.cursor
  return { s with cursor := c, mayBegin := false, tokens := t :: s.tokens }

/-- Takes the opening mark of a flow collection. -/
def takeOpening (s : Scan) (t : Token) : Except Fault Scan := do
  let s ← s.saveKey
  return { s.takeMark t with flow := s.flow + 1, mayBegin := true }

/-- Takes the closing mark of a flow collection.  One that closes nothing ends the scan, since no
structure has a place for it. -/
def takeClosing (s : Scan) (t : Token) : Except Fault Scan := do
  if s.flow = 0 then throw .malformed
  else
    let s ← s.dropKey
    return { s.takeMark t with flow := s.flow - 1, mayBegin := false }

/-- Takes the comma between entries of a flow collection. -/
def takeComma (s : Scan) : Except Fault Scan := do
  let s ← { s with mayBegin := true }.dropKey
  return s.takeMark .comma

/-- Takes the mark of an entry, of an explicit key, or of a value without a key before it. -/
def takeIndicator (s : Scan) (collection t : Token) (mayBegin : Bool) : Except Fault Scan := do
  if !s.inFlow && !s.mayBegin then throw .malformed
  else
    let s := if s.inFlow then s else s.openBlockHere collection
    let s ← { s with mayBegin := mayBegin }.dropKey
    return s.takeMark t

def takeValue (s : Scan) : Except Fault Scan := do
  match s.keys.lookup s.flow with
  | some key =>
    let s := { s with keys := s.keys.filter fun k => k.1 != s.flow }
    let s := s.insert key.number .key
    let s := if s.inFlow then s else s.openBlock key.column key.number .blockMapping
    return { s.takeMark .value with mayBegin := false }
  | none => s.takeIndicator .blockMapping .value (!s.inFlow)

/-- Takes a token that may begin a key and that no key may follow directly. -/
def takeNamed (s : Scan) (read : Cursor → Except Fault (Token × Cursor)) : Except Fault Scan := do
  let s ← s.saveKey
  let (t, c) ← read s.cursor
  return { s with cursor := c, mayBegin := false, tokens := t :: s.tokens }

def takeBlockScalar (s : Scan) (folded : Bool) : Except Fault Scan := do
  let s ← { s with mayBegin := true }.dropKey
  let (text, c) ← takeBlock folded (max s.scalarColumn 1) s.cursor.step
  return { s with cursor := c, tokens := .scalar text false :: s.tokens }

def takePlainScalar (s : Scan) : Except Fault Scan := do
  let s ← s.saveKey
  let (text, c, fresh) := takePlain s.inFlow s.scalarColumn (s.cursor.rest.length + 1) [] false s.cursor
  return { s with cursor := c, mayBegin := fresh, tokens := .scalar text true :: s.tokens }

/-- The characters that no plain scalar begins with, unless one of the first three is followed by
something. -/
def isIndicator (c : Char) : Bool := "-?:,[]\x7b\x7d#&*!|>'\x22%@\x60".toList.contains c

/-- Whether a plain scalar begins here. -/
def startsPlain (s : Scan) : Bool :=
  let c := s.cursor.peek
  (!isWhite c && !isIndicator c)
    || (!isWhite (s.cursor.peekAt 1) && (c == '-' || (!s.inFlow && (c == '?' || c == ':'))))

/-- Whether an indicator counts as one: in a flow collection always, elsewhere before white space. -/
def isLone (s : Scan) : Bool := s.inFlow || isWhite (s.cursor.peekAt 1)

/-- Takes the token that begins here. -/
def takeToken (s : Scan) : Except Fault Scan :=
  let c := s.cursor
  let ch := c.peek
  if c.column = 0 && ch == '%' then
    s.takeOutside fun c => do
      let (d, c) ← takeDirective c.step
      return (.directive d, c)
  else if c.column = 0 && c.isMarker ['-', '-', '-'] then
    s.takeOutside fun c => .ok (.documentStart, Cursor.skip 3 c)
  else if c.column = 0 && c.isMarker ['.', '.', '.'] then
    s.takeOutside fun c => .ok (.documentEnd, Cursor.skip 3 c)
  else if ch == '[' then s.takeOpening .openList
  else if ch == '\x7b' then s.takeOpening .openMapping
  else if ch == ']' then s.takeClosing .closeList
  else if ch == '\x7d' then s.takeClosing .closeMapping
  else if ch == ',' then s.takeComma
  else if ch == '-' && isWhite (c.peekAt 1) then s.takeIndicator .blockSequence .entry true
  else if ch == '?' && s.isLone then s.takeIndicator .blockMapping .key (!s.inFlow)
  else if ch == ':' && s.isLone then s.takeValue
  else if ch == '*' then
    s.takeNamed fun c => do
      let (name, c) ← takeAnchor c.step
      return (.alias name, c)
  else if ch == '&' then
    s.takeNamed fun c => do
      let (name, c) ← takeAnchor c.step
      return (.anchor name, c)
  else if ch == '!' then
    s.takeNamed fun c => do
      let (t, c) ← takeTag c
      return (.tag t, c)
  else if ch == '|' && !s.inFlow then s.takeBlockScalar false
  else if ch == '>' && !s.inFlow then s.takeBlockScalar true
  else if ch == '\x27' || ch == '\x22' then
    s.takeNamed fun c => do
      let (text, c) ← takeQuoted (ch == '\x22') c.step
      return (.scalar text false, c)
  else if s.startsPlain then s.takePlainScalar
  else .error .malformed

/-- Takes the rest of the tokens; the fault is what ends them before the text does. -/
def takeAll : Nat → Scan → List Token × Option Fault
  | 0, s => (s.tokens, none)
  | n + 1, s =>
    let s := skipToToken (s.cursor.rest.length + 1) s
    match s.dropStaleKeys with
    | .error fault => (s.tokens, some fault)
    | .ok s =>
      let s := s.unwind (some s.cursor.column)
      if s.cursor.rest.isEmpty then
        let s := s.unwind none
        match s.dropKey with
        | .error fault => (s.tokens, some fault)
        | .ok s => (s.tokens, none)
      else
        match s.takeToken with
        | .error fault => (s.tokens, some fault)
        | .ok s => takeAll n s

end Scan

/-- The tokens of a text, and what ends them if it is not the end of the text. -/
def tokensOf (cs : List Char) : List Token × Option Fault :=
  let cursor : Cursor := ⟨cs, 0, 0, 0⟩
  let start := if cursor.peek == '\ufeff' then cursor.step else cursor
  let (tokens, fault) := Scan.takeAll (cs.length + 1) { cursor := start }
  (tokens.reverse, fault)

end MergeGate.Yaml
