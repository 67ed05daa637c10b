import MergeGate.Yaml.Cursor
import MergeGate.Text.Utf8

/-
  MergeGate/Yaml/Tag.lean
  =======================
  **Names in a YAML text.**  A node may carry an anchor, which is a word, and a tag, which is a handle
  and a suffix, or a whole name between angle brackets.  Directives before a document declare
  its version and what handles stand for.
-/

namespace MergeGate.Yaml

open MergeGate.Text

def isWordChar (c : Char) : Bool := isAsciiLetter c || isAsciiDigit c || c == '-' || c == '_'

/-- The characters that may follow the name of an anchor. -/
def endsAnchor (c : Char) : Bool :=
  isWhite c || c == '?' || c == ':' || c == ',' || c == ']' || c == '\x7d' || c == '%' || c == '@' || c == '\x60'

/-- Takes a word that is not empty. -/
def takeWord (c : Cursor) : Except Fault (List Char × Cursor) :=
  let (word, c) := c.takeWhile isWordChar
  if word.isEmpty then .error .malformed else .ok (word, c)

/-- Takes the name of an anchor or an alias. -/
def takeAnchor (c : Cursor) : Except Fault (List Char × Cursor) := do
  let (word, c) ← takeWord c
  if endsAnchor c.peek then return (word, c) else throw .malformed

/-- The characters of the name that a tag is made of, percent signs apart. -/
def isNameChar (c : Char) : Bool :=
  isAsciiLetter c || isAsciiDigit c || "-;/?:@&=+$,_.!~*'()[]".toList.contains c

/-- Takes octets that are each written by a percent sign and two digits. -/
def takePercents : Nat → Cursor → Except Fault (List UInt8 × Cursor)
  | 0, c => .ok ([], c)
  | n + 1, c => do
    if c.peek = '%' then
      match hexValue? (c.peekAt 1), hexValue? (c.peekAt 2) with
      | some a, some b =>
        let (bs, c) ← takePercents n (Cursor.skip 3 c)
        return ((a * 16 + b).toUInt8 :: bs, c)
      | _, _ => throw .malformed
    else return ([], c)

def takeNameParts : Nat → Cursor → Except Fault (List Char × Cursor)
  | 0, c => .ok ([], c)
  | n + 1, c => do
    if c.peek = '%' then
      let (octets, c) ← takePercents (c.rest.length + 1) c
      match Encoding.utf8.decode octets with
      | .ok cs =>
        let (more, c) ← takeNameParts n c
        return (cs ++ more, c)
      | .error _ => throw .malformed
    else
      let (run, c) := c.takeWhile isNameChar
      if run.isEmpty then return ([], c)
      else
        let (more, c) ← takeNameParts n c
        return (run ++ more, c)

/-- Takes a name that is not empty. -/
def takeName (c : Cursor) : Except Fault (List Char × Cursor) := do
  if c.peek = '%' || isNameChar c.peek then takeNameParts (c.rest.length + 1) c else throw .malformed

/-- Takes a handle: a word between exclamation marks, or a single one before a space. -/
def takeHandle (c : Cursor) : Except Fault (List Char × Cursor) := do
  if c.peek != '!' then throw .malformed
  else if c.peekAt 1 = ' ' then return (['!'], c.step)
  else
    let (word, c) := c.step.takeWhile isWordChar
    if c.peek = '!' then return ('!' :: word ++ ['!'], c.step) else throw .malformed

/-- A tag as it is written; without a handle the suffix is the whole name. -/
structure WrittenTag where
  handle : Option (List Char)
  suffix : List Char
  deriving DecidableEq, Repr

/-- Takes a tag, whose exclamation mark is ahead. -/
def takeTag (c : Cursor) : Except Fault (WrittenTag × Cursor) := do
  let next := c.peekAt 1
  let (tag, c) ←
    if next = '<' then do
      let (name, c) ← takeName (Cursor.skip 2 c)
      if c.peek = '>' then pure (WrittenTag.mk none name, c.step) else throw .malformed
    else if isWhite next then pure (WrittenTag.mk none ['!'], c.step)
    else do
      let body := c.step.ahead fun ch => !isGap ch
      let (handle, c) ← if body.contains '!' then takeHandle c else pure (['!'], c.step)
      let (suffix, c) ← takeName c
      pure (WrittenTag.mk (some handle) suffix, c)
  if isGap c.peek then return (tag, c) else throw .malformed

/-! ### Directives -/

/-- A directive before a document. -/
inductive Directive where
  | version (major : Nat)
  | handle (name : List Char) (meaning : List Char)
  | other
  deriving DecidableEq, Repr

def takeNumber (c : Cursor) : Except Fault (Nat × Cursor) :=
  let (digits, c) := c.takeWhile isAsciiDigit
  if digits.isEmpty then .error .malformed
  else if digitLimit < digits.length then .error (.integerTooLong digits.length)
  else .ok (numeralValue digits, c)

/-- Takes a version, of which the first number counts. -/
def takeVersion (c : Cursor) : Except Fault (Directive × Cursor) := do
  let (major, c) ← takeNumber c.skipSpaces
  if c.peek != '.' then throw .malformed
  else
    let (_, c) ← takeNumber c.step
    if isGap c.peek then return (.version major, c) else throw .malformed

/-- Takes a handle and what it stands for. -/
def takeMeaning (c : Cursor) : Except Fault (Directive × Cursor) := do
  let (name, c) ← takeHandle c.skipSpaces
  if c.peek != ' ' then throw .malformed
  else
    let (meaning, c) ← takeName c.skipSpaces
    if isGap c.peek then return (.handle name meaning, c) else throw .malformed

/-- Takes a directive after its percent sign. -/
def takeDirective (c : Cursor) : Except Fault (Directive × Cursor) := do
  let (name, c) ← takeWord c
  if !isGap c.peek then throw .malformed
  else
    let (directive, c) ←
      if name = "YAML".toList then takeVersion c
      else if name = "TAG".toList then takeMeaning c
      else pure (.other, c.skipWhile fun ch => !isLineEnd ch)
    return (directive, ← c.endLine)

end MergeGate.Yaml
