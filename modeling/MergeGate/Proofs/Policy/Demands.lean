import MergeGate.Policy.Reader
import MergeGate.Proofs.Policy.Overrides

/-
  MergeGate/Proofs/Policy/Demands.lean
  ====================================
  **What the root of a policy file is asked for.**  Nine places of it are looked at, one after the other:
  three sections, three texts, two lists of texts, and the severities.  A `Demand` is what is found at
  one of them.  It is refused if it has another shape than the one that is asked for, or if a value of
  it that stands for a text cannot be written (`Demand.refusal?`).

  `readingOf` tells what a root holds without refusing anything.  Reading the root gives just that,
  unless a demand is refused: then it fails by the first refusal (`ofEntries_eq`).
-/

namespace MergeGate.Policy

open MergeGate.Text

/-! ### Places -/

/-- The entries of a value that is a mapping; none for any other. -/
def entriesOf : Datum → Entries
  | .mapping es => es
  | _ => []

/-- The value that a section has under a name. -/
def valueIn (root : Entries) (s : Section) (name : String) : Datum := part (entriesOf (part root s.name)) name

def isEntries : Datum → Bool
  | .null => true
  | .mapping _ => true
  | _ => false

def isTextLike : Datum → Bool
  | .mapping _ => false
  | .list _ => false
  | _ => true

def isTexts : Datum → Bool
  | .null => true
  | .text _ => true
  | .list _ => true
  | _ => false

/-- What is found at a place, by what is asked for there. -/
inductive Demand where
  | section (s : Section) (v : Datum)
  | text (name : String) (v : Datum)
  | texts (name : String) (v : Datum)
  | levels (v : Datum)

/-- All that a root is asked for, in this order. -/
def demands (root : Entries) : List Demand :=
  [.section .pullRequest (part root "pull_request"), .section .files (part root "files"),
    .section .dependencies (part root "dependencies"),
    .text "dependencies.lockfile" (valueIn root .dependencies "lockfile"),
    .text "pull_request.title_regex" (valueIn root .pullRequest "title_regex"),
    .texts "files.required" (valueIn root .files "required"),
    .texts "dependencies.denylist" (valueIn root .dependencies "denylist"),
    .levels (part root "severity"), .text "fail_on" (part root "fail_on")]

/-- The values of the entries whose key is the name of a rule, blanks around it apart. -/
def levelValues (es : Entries) : List Datum :=
  es.filterMap fun e =>
    match e.1 with
    | .text key => if Rule.isKnownId (trimmed key) then some e.2 else none
    | _ => none

namespace Demand

def value : Demand → Datum
  | .section _ v => v
  | .text _ v => v
  | .texts _ v => v
  | .levels v => v

def isShaped : Demand → Bool
  | .section _ v => isEntries v
  | .text _ v => isTextLike v
  | .texts _ v => isTexts v
  | .levels v => isEntries v

/-- What is told when the shape is wrong. -/
def fault : Demand → Fault
  | .section s _ => .sectionNotMapping s
  | .text name _ => .notText name
  | .texts name _ => .notTextList name
  | .levels _ => .severityNotMapping

/-- The values that are turned into text. -/
def written : Demand → List Datum
  | .section _ _ => []
  | .text _ v => [v]
  | .texts _ (.list items) => items
  | .texts _ _ => []
  | .levels v => levelValues (entriesOf v)

/-- Why a demand is refused, if it is. -/
def refusal? (d : Demand) : Option Failure :=
  if d.isShaped then (d.written.findSome? Datum.fault?).map .unwritten else some (.fault d.fault)

theorem refusal?_of_not_isShaped {d : Demand} (h : d.isShaped = false) : d.refusal? = some (.fault d.fault) := by
  rw [refusal?, h]
  rfl

theorem refusal?_of_isShaped {d : Demand} (h : d.isShaped = true) :
    d.refusal? = (d.written.findSome? Datum.fault?).map .unwritten := by
  rw [refusal?, h, if_pos rfl]

end Demand

/-! ### What a root holds -/

def textual (v : Datum) : String := String.ofList v.plain

/-- The text of a value, none if it is null. -/
def textAt : Datum → Option String
  | .null => none
  | v => some (textual v)

/-- The text of a level, empty if it is null. -/
def levelAt : Datum → String
  | .null => ""
  | v => textual v

/-- The items of a list; a text is its own only item. -/
def itemsOf : Datum → List Datum
  | .text s => [.text s]
  | .list items => items
  | _ => []

def isNull : Datum → Bool
  | .null => true
  | _ => false

/-- The trimmed texts of the values that are neither null nor blank, in their order. -/
def filledTexts (vs : List Datum) : List String :=
  ((vs.filter fun v => !isNull v).map fun v => trimmed (textual v)).filter fun s => s ≠ ""

/-- The levels that entries give to rules, in their order. -/
def levelsOf (es : Entries) : List (String × Level) :=
  es.filterMap fun e =>
    match e.1 with
    | .text key => if Rule.isKnownId (trimmed key) then some (trimmed key, .text (levelAt e.2)) else none
    | _ => none

/-- The keys that are texts, but neither blank nor the name of a rule. -/
def unknownKeys (es : Entries) : List String :=
  es.filterMap fun e =>
    match e.1 with
    | .text key => if trimmed key ≠ "" ∧ Rule.isKnownId (trimmed key) = false then some key else none
    | _ => none

def notesOf (es : Entries) : List Note := (unknownKeys es).map fun key => .unknownRule (quoted key)

def policyOf (root : Entries) : Policy where
  titlePattern := textAt (valueIn root .pullRequest "title_regex")
  requiredFiles := filledTexts (itemsOf (valueIn root .files "required"))
  denylist := filledTexts (itemsOf (valueIn root .dependencies "denylist"))
  severities := Overrides.ofList (levelsOf (entriesOf (part root "severity")))
  failOn := textAt (part root "fail_on")
  lockfile := filledOr (textAt (valueIn root .dependencies "lockfile")) defaultLockfile

/-- What a root holds where nothing of it is refused. -/
def readingOf (root : Entries) : Reading := ⟨policyOf root, notesOf (entriesOf (part root "severity"))⟩

/-! ### Answers to demands -/

/-- What is read, unless a demand is refused. -/
def answer {α : Type} (ds : List Demand) (a : α) : Except Failure α :=
  match ds.findSome? Demand.refusal? with
  | some f => .error f
  | none => .ok a

section Answers

variable {α β : Type} {d : Demand} {ds : List Demand} {a : α} {f : Failure}

theorem answer_of_refused (h : ds.findSome? Demand.refusal? = some f) : answer ds a = .error f := by
  rw [answer, h]

theorem answer_of_met (h : ds.findSome? Demand.refusal? = none) : answer ds a = .ok a := by
  rw [answer, h]

theorem answer_one : answer [d] a = (match d.refusal? with | some f => .error f | none => .ok a) := by
  rw [answer, List.findSome?_singleton]

theorem answer_bind {b : β} {k : α → Except Failure β} (hk : k a = answer ds b) :
    (answer [d] a >>= k) = answer (d :: ds) b := by
  cases hd : d.refusal? with
  | some f =>
    have hone : answer [d] a = .error f := by rw [answer_one, hd]
    have hall : (d :: ds).findSome? Demand.refusal? = some f := by rw [List.findSome?_cons, hd]
    rw [hone, answer_of_refused hall]
    rfl
  | none =>
    have hone : answer [d] a = .ok a := by rw [answer_one, hd]
    have hall : answer (d :: ds) b = answer ds b := by rw [answer, answer, List.findSome?_cons, hd]
    rw [hone, hall, ← hk]
    rfl

end Answers

/-- A value that stands for a text gives it, unless it cannot be written. -/
theorem textOf_eq (v : Datum) :
    textOf v = match v.fault? with | some cause => .error (.unwritten cause) | none => .ok (textual v) := by
  rw [textOf, Datum.text?]
  cases v.fault? <;> rfl

theorem textOf_of_fault {v : Datum} {cause : Datum.TextFault} (h : v.fault? = some cause) :
    textOf v = .error (.unwritten cause) := by
  rw [textOf_eq, h]

theorem textOf_of_none {v : Datum} (h : v.fault? = none) : textOf v = .ok (textual v) := by
  rw [textOf_eq, h]

theorem sectionOf_eq (root : Entries) (s : Section) :
    sectionOf root s = answer [.section s (part root s.name)] (entriesOf (part root s.name)) := by
  rw [answer_one, sectionOf]
  cases part root s.name <;> rfl

theorem optionalText_eq (name : String) (v : Datum) :
    optionalText name v = answer [.text name v] (textAt v) := by
  have htext : isTextLike v = true → (textOf v).map some = answer [.text name v] (some (textual v)) := by
    intro hshape
    have hshaped : (Demand.text name v).isShaped = true := hshape
    have hone : [v].findSome? Datum.fault? = v.fault? := List.findSome?_singleton
    rw [answer_one, Demand.refusal?_of_isShaped hshaped, Demand.written, hone, textOf_eq]
    cases v.fault? <;> rfl
  rw [answer_one]
  cases v
  case null => rfl
  case mapping es => rfl
  case list items => rfl
  all_goals exact (htext rfl).trans answer_one

/-! ### Lists of texts -/

theorem filled?_eq (s : String) : (filled? s).toList = [trimmed s].filter fun t => t ≠ "" := by
  by_cases h : trimmed s = "" <;> simp [filled?, h]

theorem filledTexts_null (vs : List Datum) : filledTexts (.null :: vs) = filledTexts vs := rfl

theorem filledTexts_cons {v : Datum} (h : isNull v = false) (vs : List Datum) :
    filledTexts (v :: vs) = (filled? (textual v)).toList ++ filledTexts vs := by
  have hkeep : ((v :: vs).filter fun v => !isNull v) = v :: vs.filter fun v => !isNull v :=
    List.filter_cons_of_pos (by rw [h]; rfl)
  rw [filled?_eq, filledTexts, filledTexts, hkeep, List.map_cons, ← List.singleton_append, List.filter_append]

theorem filledItems_cons {v : Datum} (h : isNull v = false) (vs : List Datum) :
    filledItems (v :: vs) = (textOf v).bind fun s => (filledItems vs).map ((filled? s).toList ++ ·) := by
  have hmap : ∀ s : String, (do let rest ← filledItems vs; return (filled? s).toList ++ rest) =
      (filledItems vs).map ((filled? s).toList ++ ·) := by
    intro s
    cases filledItems vs <;> rfl
  cases v
  case null => cases h
  all_goals
    rw [filledItems]
    · simp only [hmap]
      rfl
    · rintro ⟨⟩

/-- Items fail by the first that cannot be written. -/
theorem filledItems_eq (vs : List Datum) :
    filledItems vs = match vs.findSome? Datum.fault? with
      | some cause => .error (.unwritten cause)
      | none => .ok (filledTexts vs) := by
  induction vs with
  | nil => rfl
  | cons v vs ih =>
    rw [List.findSome?_cons]
    cases hnull : isNull v with
    | true =>
      obtain rfl : v = .null := by
        cases v <;> first | rfl | cases hnull
      rw [filledItems, ih, filledTexts_null]
      rfl
    | false =>
      rw [filledItems_cons hnull]
      cases hfault : v.fault? with
      | some cause =>
        rw [textOf_of_fault hfault]
        rfl
      | none =>
        rw [textOf_of_none hfault, filledTexts_cons hnull, ih]
        cases vs.findSome? Datum.fault? <;> rfl

theorem textList_eq (name : String) (v : Datum) :
    textList name v = answer [.texts name v] (filledTexts (itemsOf v)) := by
  rw [answer_one]
  cases v
  case text s =>
    have hone : filledTexts [.text s] = (filled? s).toList := by
      rw [filledTexts_cons rfl, show textual (.text s) = s from String.ofList_toList]
      exact List.append_nil _
    exact congrArg Except.ok hone.symm
  case list items =>
    have hrefusal : (Demand.texts name (.list items)).refusal? =
        (items.findSome? Datum.fault?).map Failure.unwritten :=
      Demand.refusal?_of_isShaped rfl
    rw [hrefusal, textList, filledItems_eq, itemsOf]
    cases items.findSome? Datum.fault? <;> rfl
  all_goals rfl

/-! ### Severities -/

theorem levelText_eq (v : Datum) :
    levelText v = match v.fault? with | some cause => .error (.unwritten cause) | none => .ok (levelAt v) := by
  cases v
  case null => rfl
  all_goals exact textOf_eq _

/-- An entry of the severities is passed over, told of, or sets a level. -/
theorem severitiesOf_cons (known : Overrides) (e : Datum × Datum) (es : Entries) :
    (levelValues (e :: es) = levelValues es ∧ levelsOf (e :: es) = levelsOf es ∧
        ((notesOf (e :: es) = notesOf es ∧ severitiesOf known (e :: es) = severitiesOf known es) ∨
          ∃ note, notesOf (e :: es) = note :: notesOf es ∧
            severitiesOf known (e :: es) = (severitiesOf known es).map fun r => (r.1, note :: r.2))) ∨
      ∃ name, levelValues (e :: es) = e.2 :: levelValues es ∧
        levelsOf (e :: es) = (name, .text (levelAt e.2)) :: levelsOf es ∧ notesOf (e :: es) = notesOf es ∧
        severitiesOf known (e :: es) =
          (levelText e.2).bind fun l => severitiesOf (known.put name (.text l)) es := by
  obtain ⟨k, v⟩ := e
  cases k
  case text key =>
    by_cases hblank : trimmed key = ""
    · refine .inl ⟨?_, ?_, .inl ⟨?_, ?_⟩⟩
      all_goals simp [levelValues, levelsOf, notesOf, unknownKeys, severitiesOf, filled?, hblank,
        show Rule.isKnownId "" = false from rfl]
    · cases hknown : Rule.isKnownId (trimmed key) with
      | false =>
        refine .inl ⟨?_, ?_, .inr ⟨.unknownRule (quoted key), ?_, ?_⟩⟩
        · simp [levelValues, hknown]
        · simp [levelsOf, hknown]
        · simp [notesOf, unknownKeys, hknown, hblank]
        · simp only [severitiesOf, filled?, hblank, hknown, if_false, Bool.false_eq_true]
          cases severitiesOf known es <;> rfl
      | true =>
        refine .inr ⟨trimmed key, ?_, ?_, ?_, ?_⟩
        · simp [levelValues, hknown]
        · simp [levelsOf, hknown]
        · simp [notesOf, unknownKeys, hknown]
        · simp only [severitiesOf, filled?, hblank, hknown, if_true, if_false]
          rfl
  all_goals exact .inl ⟨rfl, rfl, .inl ⟨rfl, rfl⟩⟩

/-- Severities fail by the first level that cannot be written; later levels of a rule replace earlier
    ones. -/
theorem severitiesOf_eq (known : Overrides) (es : Entries) :
    severitiesOf known es = match (levelValues es).findSome? Datum.fault? with
      | some cause => .error (.unwritten cause)
      | none => .ok (known.putAll (levelsOf es), notesOf es) := by
  induction es generalizing known with
  | nil => rfl
  | cons e es ih =>
    rcases severitiesOf_cons known e es with
      ⟨hvalues, hlevels, ⟨hnotes, hread⟩ | ⟨note, hnotes, hread⟩⟩ | ⟨name, hvalues, hlevels, hnotes, hread⟩
    · rw [hvalues, hlevels, hnotes, hread, ih]
    · rw [hvalues, hlevels, hnotes, hread, ih]
      cases (levelValues es).findSome? Datum.fault? <;> rfl
    · rw [hvalues, hlevels, hnotes, hread, levelText_eq, List.findSome?_cons]
      cases e.2.fault? with
      | some cause => rfl
      | none => exact ih _

theorem severities?_eq (v : Datum) :
    severities? v = answer [.levels v] (Overrides.ofList (levelsOf (entriesOf v)), notesOf (entriesOf v)) := by
  rw [answer_one]
  cases v
  case mapping es =>
    have hrefusal : (Demand.levels (.mapping es)).refusal? =
        ((levelValues es).findSome? Datum.fault?).map Failure.unwritten :=
      Demand.refusal?_of_isShaped rfl
    rw [hrefusal, severities?, severitiesOf_eq]
    cases (levelValues es).findSome? Datum.fault? <;> rfl
  all_goals rfl

/-! ### The root -/

/-- A root is read as what it holds, or fails by the first demand that is refused. -/
theorem ofEntries_eq (root : Entries) : ofEntries root = answer (demands root) (readingOf root) := by
  unfold ofEntries
  simp only [sectionOf_eq, optionalText_eq, textList_eq, severities?_eq]
  -- one step for each demand, in the order in which they are made
  iterate 9 apply answer_bind
  rfl

/-! ### Refusals -/

/-- Where all values can be written, a refused demand is one of a wrong shape. -/
theorem findSome?_refusal?_of_written {ds : List Demand}
    (h : ∀ d ∈ ds, ∀ v ∈ d.written, v.fault? = none) :
    ds.findSome? Demand.refusal? = (ds.find? fun d => !d.isShaped).map fun d => .fault d.fault := by
  induction ds with
  | nil => rfl
  | cons d ds ih =>
    have htail := ih fun e he => h e (List.mem_cons_of_mem d he)
    rw [List.findSome?_cons]
    cases hshape : d.isShaped with
    | false =>
      rw [Demand.refusal?_of_not_isShaped hshape, List.find?_cons_of_pos (by rw [hshape]; rfl)]
      rfl
    | true =>
      have hnone : d.written.findSome? Datum.fault? = none :=
        List.findSome?_eq_none_iff.2 (h d List.mem_cons_self)
      rw [Demand.refusal?_of_isShaped hshape, hnone, List.find?_cons_of_neg (by rw [hshape]; decide), htail]
      rfl

end MergeGate.Policy
