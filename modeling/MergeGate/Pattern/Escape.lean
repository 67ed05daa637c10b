import MergeGate.Pattern.Token
import MergeGate.Text.Named

/-
  MergeGate/Pattern/Escape.lean
  =============================
  **Escapes in patterns.**  A backslash and a letter stand for a control character, a class of
  characters, a place, or, with the digits or the name that follow, for a character by its code.
  A backslash and digits refer to a group, or give a character in octal.  Before any other
  character a backslash takes its special meaning away; before any other ASCII letter it is a
  fault.

  Inside a set the places have no meaning, and digits are always octal.
-/

namespace MergeGate

namespace Pattern

open MergeGate.Text

inductive Escape where
  | code (n : Nat)
  | ofClass (kind : CharClass) (negated : Bool)
  | anchor (a : Anchor)
  | reference (index : Nat)
  deriving DecidableEq, Repr

/-- The control character, or the backslash, that a letter stands for. -/
def controlOf? : Char → Option Nat
  | 'a' => some 7
  | 'b' => some 8
  | 'f' => some 12
  | 'n' => some 10
  | 'r' => some 13
  | 't' => some 9
  | 'v' => some 11
  | '\\' => some 92
  | _ => none

/-- The class that a letter stands for. -/
def classOf? : Char → Option Escape
  | 'd' => some (.ofClass .digit false)
  | 'D' => some (.ofClass .digit true)
  | 's' => some (.ofClass .blank false)
  | 'S' => some (.ofClass .blank true)
  | 'w' => some (.ofClass .word false)
  | 'W' => some (.ofClass .word true)
  | _ => none

/-- The place that a letter stands for. -/
def anchorOf? : Char → Option Anchor
  | 'A' => some .textStart
  | 'Z' => some .textEnd
  | 'b' => some .boundary
  | 'B' => some .notBoundary
  | _ => none

/-- Whether `c` is an octal digit. -/
def isOctal (c : Char) : Bool := 48 ≤ c.toNat && c.toNat ≤ 55

/-- Whether `c` is a hexadecimal digit. -/
def isHex (c : Char) : Bool := (hexValue? c).isSome

/-- The number of digits given by their values. -/
def valueIn (base : Nat) (value? : Char → Option Nat) (cs : List Char) : Nat :=
  cs.foldl (fun n c => n * base + (value? c).getD 0) 0

/-- The greatest code point. -/
def lastCode : Nat := 0x10ffff

/-- Reads the `count` hexadecimal digits after `\x`, `\u` or `\U`. -/
def hexEscape (letter : Char) (count : Nat) : Reading Escape := do
  let digits ← takeSome isHex count
  let shown := '\\' :: letter :: digits
  if digits.length < count then failBack (.incompleteEscape shown) shown.length
  else
    let n := valueIn 16 hexValue? digits
    if lastCode < n then failBack (.badEscape shown) shown.length else return .code n

/-- Reads the name after `\N`. -/
def namedEscape : Reading Escape := do
  if !(← accept '\x7b') then failBack .missingBrace
  else
    let name ← takeName '\x7d' "character name"
    match named? name with
    | some n => return .code n
    | none => failBack (.unknownCharacter name) (name.length + 4)

/-- The character of octal digits, which is below 256. -/
def octalCode (digits : List Char) : Reading Escape := do
  let n := valueIn 8 digitValue? digits
  let shown := '\\' :: digits
  if 255 < n then failBack (.octalTooLarge shown) shown.length else return .code n

/-- An escape by code or name that is the same inside and outside of sets. -/
def codeEscape? (c : Char) : Option (Reading Escape) :=
  if c = 'x' then some (hexEscape c 2)
  else if c = 'u' then some (hexEscape c 4)
  else if c = 'U' then some (hexEscape c 8)
  else if c = 'N' then some namedEscape
  else none

/-- A character after a backslash that has no other meaning. -/
def plainEscape (c : Char) : Reading Escape := do
  if isAsciiLetter c || isAsciiDigit c then failBack (.badEscape ['\\', c]) 2 else return .code c.toNat

def setEscape (c : Char) : Reading Escape := do
  match controlOf? c, classOf? c, codeEscape? c with
  | some n, _, _ => return .code n
  | _, some e, _ => return e
  | _, _, some read => read
  | _, _, _ =>
    if isOctal c then octalCode (c :: (← takeSome isOctal 2)) else plainEscape c

def groupReference (digits : List Char) : Reading Escape := do
  let index := valueIn 10 digitValue? digits
  let s ← get
  if s.groupCount < index then failBack (.unknownGroup index) digits.length
  else if (s.closedWidth? index).isNone then failBack .openGroup (digits.length + 1)
  else
    checkLookbehind index
    return .reference index

/-- Reads an escape that begins with a digit other than zero: three octal digits give a character,
anything else refers to a group. -/
def digitEscape (c : Char) : Reading Escape := do
  match ← takeSome isAsciiDigit 1 with
  | [] => groupReference [c]
  | d :: _ =>
    if isOctal c && isOctal d then
      match ← takeSome isOctal 1 with
      | [] => groupReference [c, d]
      | e :: _ => octalCode [c, d, e]
    else groupReference [c, d]

/-- Reads an escape outside of sets. -/
def escape (c : Char) : Reading Escape := do
  match anchorOf? c, classOf? c, controlOf? c, codeEscape? c with
  | some a, _, _, _ => return .anchor a
  | _, some e, _, _ => return e
  | _, _, some n, _ => return .code n
  | _, _, _, some read => read
  | _, _, _, _ =>
    if c = '0' then return .code (valueIn 8 digitValue? (← takeSome isOctal 2))
    else if isAsciiDigit c then digitEscape c
    else plainEscape c

end Pattern

end MergeGate
