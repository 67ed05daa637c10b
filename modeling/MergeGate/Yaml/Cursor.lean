import MergeGate.Yaml.Fault

/-
  MergeGate/Yaml/Cursor.lean
  ==========================
  **A place in a YAML text.**  Indentation carries meaning in YAML, so whoever reads it has to know the
  column, and simple keys end with their line.  A `Cursor` is what is left of a text together
  with the number of characters, the line and the column before it.

  No YAML text holds the character NUL; looking beyond the end gives it.
-/

namespace MergeGate.Yaml

/-- What is left of a text, and where that begins. -/
structure Cursor where
  rest : List Char
  index : Nat := 0
  line : Nat := 0
  column : Nat := 0

/-- The character that stands for the end. -/
def endMark : Char := '\x00'

/-- The characters that end a line. -/
def isBreak (c : Char) : Bool :=
  c == '\n' || c == '\r' || c == '\u0085' || c == '\u2028' || c == '\u2029'

/-- A line end or the end of the text. -/
def isLineEnd (c : Char) : Bool := c == endMark || isBreak c

/-- A space, a line end or the end of the text. -/
def isGap (c : Char) : Bool := c == ' ' || isLineEnd c

/-- A space, a tab, a line end or the end of the text. -/
def isWhite (c : Char) : Bool := c == '\t' || isGap c

/-- A space or a tab. -/
def isInline (c : Char) : Bool := c == ' ' || c == '\t'

namespace Cursor

/-- The character at a distance. -/
def peekAt (c : Cursor) (n : Nat) : Char := c.rest.getD n endMark

/-- The next character. -/
def peek (c : Cursor) : Char := c.peekAt 0

/-- Goes on by one character.  A byte order mark takes no column. -/
def step (c : Cursor) : Cursor :=
  match c.rest with
  | [] => c
  | ch :: cs =>
    if isBreak ch && !(ch == '\r' && cs.head? == some '\n') then ⟨cs, c.index + 1, c.line + 1, 0⟩
    else ⟨cs, c.index + 1, c.line, if ch == '\ufeff' then c.column else c.column + 1⟩

/-- Goes on by some characters. -/
def skip : Nat → Cursor → Cursor
  | 0, c => c
  | n + 1, c => skip n c.step

/-- The characters ahead that pass a test. -/
def ahead (c : Cursor) (hit : Char → Bool) : List Char := c.rest.takeWhile hit

/-- Goes on past the characters that pass a test. -/
def skipWhile (c : Cursor) (hit : Char → Bool) : Cursor := skip (c.ahead hit).length c

/-- Takes the characters that pass a test. -/
def takeWhile (c : Cursor) (hit : Char → Bool) : List Char × Cursor := (c.ahead hit, c.skipWhile hit)

/-- Takes the line end that is ahead, if there is one. -/
def takeBreak (c : Cursor) : List Char × Cursor :=
  let ch := c.peek
  if ch == '\r' && c.peekAt 1 == '\n' then (['\n'], Cursor.skip 2 c)
  else if ch == '\r' || ch == '\n' || ch == '\u0085' then (['\n'], c.step)
  else if isBreak ch then ([ch], c.step)
  else ([], c)

/-- Goes on past spaces. -/
def skipSpaces (c : Cursor) : Cursor := c.skipWhile (· == ' ')

/-- Goes on past a remark, if one is ahead. -/
def skipRemark (c : Cursor) : Cursor :=
  if c.peek == '#' then c.skipWhile fun ch => !isLineEnd ch else c

/-- Goes on past spaces, a remark and the line end that has to follow. -/
def endLine (c : Cursor) : Except Fault Cursor :=
  let c := c.skipSpaces.skipRemark
  if isLineEnd c.peek then .ok c.takeBreak.2 else .error .malformed

/-- Whether the line ahead begins with a mark and white space. -/
def isMarker (mark : List Char) (c : Cursor) : Bool := c.rest.take 3 == mark && isWhite (c.peekAt 3)

/-- Whether the mark between two documents is ahead. -/
def isSeparator (c : Cursor) : Bool := c.isMarker ['-', '-', '-'] || c.isMarker ['.', '.', '.']

end Cursor

end MergeGate.Yaml
