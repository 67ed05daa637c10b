import MergeGate.Text.Digit

/-
  MergeGate/Version/Basic.lean
  ============================
  **Versions and their order.**  A version has three numbers, perhaps pre-release identifiers and
  perhaps build identifiers.  Versions are ordered by their numbers; of two with the same
  numbers a release stands above its pre-releases, and pre-releases compare identifier by
  identifier, a longer row standing above its front part.  An identifier of digits is a number
  and stands below every other; other identifiers compare by code points.  Build identifiers
  count neither for the order nor for equality (`Version.compare`).
-/

namespace MergeGate

open MergeGate.Text

/-- An identifier of a pre-release or of a build. -/
abbrev Identifier := List Char

/-- A version; a release has no pre-release identifiers. -/
structure Version where
  major : Nat
  minor : Nat
  patch : Nat
  pre : List Identifier := []
  build : List Identifier := []
  deriving DecidableEq, Repr, Inhabited

namespace Identifier

def isNumber (i : Identifier) : Bool := !i.isEmpty && i.all isDigit

/-- The order of texts by code points. -/
def compareText : List Char → List Char → Ordering
  | [], [] => .eq
  | [], _ :: _ => .lt
  | _ :: _, [] => .gt
  | a :: as, b :: bs => (Ord.compare a.toNat b.toNat).then (compareText as bs)

def compare (a b : Identifier) : Ordering :=
  match isNumber a, isNumber b with
  | true, true => Ord.compare (numeralValue a) (numeralValue b)
  | true, false => .lt
  | false, true => .gt
  | false, false => compareText a b

def compareRows : List Identifier → List Identifier → Ordering
  | [], [] => .eq
  | [], _ :: _ => .lt
  | _ :: _, [] => .gt
  | a :: as, b :: bs => (compare a b).then (compareRows as bs)

end Identifier

namespace Version

/-- The order of pre-releases, no identifiers standing above any. -/
def comparePre : List Identifier → List Identifier → Ordering
  | [], [] => .eq
  | [], _ :: _ => .gt
  | _ :: _, [] => .lt
  | a, b => Identifier.compareRows a b

def compare (u v : Version) : Ordering :=
  (Ord.compare u.major v.major).then <|
    (Ord.compare u.minor v.minor).then <|
      (Ord.compare u.patch v.patch).then (comparePre u.pre v.pre)

/-- Identifiers with a point between them. -/
def identifiersText (is : List Identifier) : List Char := joinWith ['.'] is

/-- The pre-release identifiers as text, if there are any. -/
def preText? (v : Version) : Option (List Char) :=
  if v.pre.isEmpty then none else some (identifiersText v.pre)

/-- The build identifiers as text, if there are any. -/
def buildText? (v : Version) : Option (List Char) :=
  if v.build.isEmpty then none else some (identifiersText v.build)

/-- A mark and a text after it, or nothing. -/
def marked (mark : Char) : Option (List Char) → List Char
  | none => []
  | some cs => mark :: cs

def text (v : Version) : List Char :=
  numeral v.major ++ '.' :: numeral v.minor ++ '.' :: numeral v.patch
    ++ marked '-' v.preText? ++ marked '+' v.buildText?

end Version

end MergeGate
