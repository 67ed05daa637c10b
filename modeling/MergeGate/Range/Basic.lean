import MergeGate.Version.Basic

/-
  MergeGate/Range/Basic.lean
  ==========================
  **Ranges of versions.**  A compiled range is a choice of alternatives, and an alternative is a
  row of bounds that all have to hold.  The empty row accepts every version.  Pre-releases are
  compared like any other version, so a range accepts them whenever its bounds do.
-/

namespace MergeGate

open MergeGate.Text

/-- How a version is compared with the version of a bound. -/
inductive Relation where
  | lt
  | le
  | gt
  | ge
  | eq
  deriving DecidableEq, Repr

namespace Relation

def sign : Relation → List Char
  | .lt => ['<']
  | .le => ['<', '=']
  | .gt => ['>']
  | .ge => ['>', '=']
  | .eq => ['=']

/-- Whether a relation holds of two things that compare in a way. -/
def holds : Relation → Ordering → Bool
  | .lt, o => o == .lt
  | .le, o => o != .gt
  | .gt, o => o == .gt
  | .ge, o => o != .lt
  | .eq, o => o == .eq

end Relation

structure Bound where
  relation : Relation
  version : Version
  deriving DecidableEq, Repr

namespace Bound

def accepts (b : Bound) (v : Version) : Bool := b.relation.holds (v.compare b.version)

def text (b : Bound) : List Char := b.relation.sign ++ b.version.text

end Bound

/-- An alternative: bounds that all have to hold. -/
abbrev Alternative := List Bound

/-- Whether a version satisfies every bound. -/
def Alternative.accepts (a : Alternative) (v : Version) : Bool := a.all fun b => b.accepts v

/-- The bounds with a blank between them; an asterisk if there are none. -/
def Alternative.text (a : Alternative) : List Char :=
  if a.isEmpty then ['*'] else joinWith [' '] (a.map Bound.text)

/-- A compiled range, with the text that it was compiled from. -/
structure Range where
  raw : String
  alternatives : List Alternative
  deriving DecidableEq, Repr

namespace Range

def accepts (r : Range) (v : Version) : Bool := r.alternatives.any fun a => a.accepts v

def text (r : Range) : List Char := joinWith [' ', '|', '|', ' '] (r.alternatives.map Alternative.text)

end Range

theorem Alternative.accepts_nil (v : Version) : Alternative.accepts [] v = true := rfl

theorem Alternative.accepts_append (a b : Alternative) (v : Version) :
    Alternative.accepts (a ++ b) v = (Alternative.accepts a v && Alternative.accepts b v) := by
  simp [Alternative.accepts]

end MergeGate
