import MergeGate.Range.Reader
import MergeGate.Note

/-
  MergeGate/DenyRule.lean
  =======================
  **Deny rules.**  A deny rule bans a package, or the versions of it in a range.  It is written as
  the name, or as the name, an at sign and the range.  A name may itself begin with an at sign and
  hold more of them, so it is the last one, unless it is the first character, that cuts the rule.
  A rule with nothing after that sign bans every version, which is noted.
-/

namespace MergeGate

open MergeGate.Text

/-- Which versions a deny rule names. -/
inductive Scope where
  | unwritten
  | blank
  | range (text : String)
  deriving DecidableEq, Repr

/-- A deny rule, with the text it was read from. -/
structure DenyRule where
  raw : String
  name : String
  scope : Scope
  deriving DecidableEq, Repr

/-- Cuts a text at the last place of a character. -/
def cutLast (sep : Char) : List Char → Option (List Char × List Char)
  | [] => none
  | c :: cs =>
    match cutLast sep cs with
    | some (before, after) => some (c :: before, after)
    | none => if c = sep then some ([], cs) else none

namespace DenyRule

/-- The text of the range, if there is one. -/
def range? (r : DenyRule) : Option String :=
  match r.scope with
  | .range s => some s
  | _ => none

/-- Whether the rule bans every version. -/
def bansAll (r : DenyRule) : Bool := r.range?.isNone

/-- The scope written after the sign. -/
def scopeOf (after : List Char) : Scope :=
  match trim after with
  | [] => .blank
  | cs => .range (String.ofList cs)

def parse (raw : String) : DenyRule :=
  let text := trim raw.toList
  match cutLast '@' text with
  | none => ⟨raw, String.ofList text, .unwritten⟩
  | some ([], _) => ⟨raw, String.ofList text, .unwritten⟩
  | some (before, after) => ⟨raw, String.ofList (trim before), scopeOf after⟩

def notes (r : DenyRule) : List Note :=
  match r.scope with
  | .blank => [.blankRange r.raw r.name]
  | _ => []

theorem parse_raw (s : String) : (parse s).raw = s := by
  simp only [parse]
  split <;> rfl

end DenyRule

theorem cutLast_append (sep : Char) (before after : List Char) (h : sep ∉ after) :
    cutLast sep (before ++ sep :: after) = some (before, after) := by
  have tail : ∀ cs : List Char, sep ∉ cs → cutLast sep cs = none := by
    intro cs hcs
    induction cs with
    | nil => rfl
    | cons c cs ih =>
      simp only [List.mem_cons, not_or] at hcs
      have hc : ¬ c = sep := fun e => hcs.1 e.symm
      simp [cutLast, ih hcs.2, hc]
  induction before with
  | nil => simp [cutLast, tail after h]
  | cons b bs ih => simp [cutLast, ih]

end MergeGate
