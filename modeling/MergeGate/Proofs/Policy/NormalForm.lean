import MergeGate.Proofs.Json.Nesting
import MergeGate.Proofs.Policy.Demands
import MergeGate.Proofs.Text.Words

/-
  MergeGate/Proofs/Policy/NormalForm.lean
  =======================================
  **The normal form of a policy.**  A policy that is read from the root of a file has no blank and no
  untrimmed path or deny rule, gives a level to rules only, to each of them one, and names a lock
  manifest.  Every policy of that form is written back by `Policy.toEntries` so that reading gives it
  again (`ofEntries_toEntries`).

  The domain of reading is exact.  Where the values that stand for texts can be written, a root is
  refused exactly if one of its nine places has a wrong shape, and else read to a policy in normal form
  (`ofEntries_normal`).  They can be if their integers are short and they are nested no deeper than
  `depthLimit` (`fault?_of_fits`).  The proviso is needed: a list that is nested too deep has no text
  (`ofEntries_deepList`).
-/

namespace MergeGate.Policy

open MergeGate.Text

/-! ### Normal forms -/

def IsFilled (s : String) : Prop := s ≠ "" ∧ trimmed s = s

/-- A policy as it is read. -/
structure IsNormal (p : Policy) : Prop where
  requiredFiles : ∀ s ∈ p.requiredFiles, IsFilled s
  denylist : ∀ s ∈ p.denylist, IsFilled s
  levels : ∀ o ∈ p.severities, ∃ (r : Rule) (s : String), o = (r.id, .text s)
  distinct : p.severities.names.Nodup
  lockfile : p.lockfile ≠ ""

theorem isFilled_of_mem_filledTexts {vs : List Datum} {s : String} (h : s ∈ filledTexts vs) : IsFilled s := by
  rw [filledTexts, List.mem_filter, List.mem_map] at h
  obtain ⟨⟨v, -, rfl⟩, hne⟩ := h
  exact ⟨of_decide_eq_true hne, trimmed_trimmed _⟩

theorem exists_rule_of_mem_levelsOf {es : Entries} {o : String × Level} (h : o ∈ levelsOf es) :
    ∃ (r : Rule) (s : String), o = (r.id, .text s) := by
  rw [levelsOf, List.mem_filterMap] at h
  obtain ⟨⟨k, v⟩, -, hk⟩ := h
  cases k
  case text key =>
    cases hknown : Rule.isKnownId (trimmed key) with
    | false => simp [hknown] at hk
    | true =>
      obtain ⟨r, hr⟩ := (Rule.isKnownId_iff _).1 hknown
      refine ⟨r, levelAt v, ?_⟩
      simpa [hknown, hr] using hk.symm
  all_goals cases hk

theorem filledOr_ne_empty (s : Option String) {other : String} (h : other ≠ "") : filledOr s other ≠ "" := by
  cases s with
  | none => exact h
  | some s =>
    by_cases hs : s = ""
    · rw [filledOr, if_pos hs]
      exact h
    · rw [filledOr, if_neg hs]
      exact hs

theorem isNormal_policyOf (root : Entries) : (policyOf root).IsNormal where
  requiredFiles := fun _ hs => isFilled_of_mem_filledTexts hs
  denylist := fun _ hs => isFilled_of_mem_filledTexts hs
  levels := fun _ ho => exists_rule_of_mem_levelsOf (Overrides.mem_ofList ho)
  distinct := Overrides.nodup_ofList _
  lockfile := filledOr_ne_empty _ (by decide)

/-! ### The level of a rule -/

/-- Whether an entry is for a rule, blanks around its key apart. -/
def isFor (r : Rule) (e : Datum × Datum) : Bool :=
  match e.1 with
  | .text key => trimmed key = r.id
  | _ => false

/-- The level that the last entry for a rule gives it. -/
def lastLevel? (r : Rule) (es : Entries) : Option Level :=
  (es.reverse.find? (isFor r)).map fun e => .text (levelAt e.2)

theorem get?_levelsOf (r : Rule) (es : Entries) :
    (Overrides.ofList (levelsOf es)).get? r.id = lastLevel? r es := by
  rw [Overrides.get?_ofList, levelsOf, ← List.filterMap_reverse, lastLevel?]
  induction es.reverse with
  | nil => rfl
  | cons e es ih =>
    obtain ⟨k, v⟩ := e
    cases k
    case text key =>
      by_cases hkey : trimmed key = r.id
      · have hknown : Rule.isKnownId r.id = true := (Rule.isKnownId_iff _).2 ⟨r, rfl⟩
        simp [isFor, hkey, hknown]
      · cases hknown : Rule.isKnownId (trimmed key) with
        | false => simpa [isFor, hkey, hknown] using ih
        | true => simpa [isFor, hkey, hknown] using ih
    all_goals exact ih

/-! ### Writing back -/

/-- The value that a level was read from. -/
def levelValue : Level → Datum
  | .text s => .text s
  | .severity s => .text s.label
  | .other => .null

def optionalValue : Option String → Datum
  | none => .null
  | some s => .text s

def textsValue (ss : List String) : Datum := .list (ss.map Datum.text)

def levelEntries (os : Overrides) : Entries := os.map fun o => (.text o.1, levelValue o.2)

/-- A policy as the root of a file. -/
def toEntries (p : Policy) : Entries :=
  [(.text "pull_request", .mapping [(.text "title_regex", optionalValue p.titlePattern)]),
    (.text "files", .mapping [(.text "required", textsValue p.requiredFiles)]),
    (.text "dependencies",
      .mapping [(.text "denylist", textsValue p.denylist), (.text "lockfile", .text p.lockfile)]),
    (.text "severity", .mapping (levelEntries p.severities)),
    (.text "fail_on", optionalValue p.failOn)]

theorem part_cons (k : String) (v : Datum) (es : Entries) (name : String) :
    part ((.text k, v) :: es) name = if k = name then v.untied else part es name := by
  by_cases h : k = name <;> simp [part, Datum.lookup, h]

theorem untied_optionalValue (t : Option String) : (optionalValue t).untied = optionalValue t := by
  cases t <;> rfl

section Parts

variable (p : Policy)

theorem part_pullRequest :
    part p.toEntries "pull_request" = .mapping [(.text "title_regex", optionalValue p.titlePattern)] := by
  simp only [toEntries, part_cons, String.reduceEq, if_true]
  rfl

theorem part_files : part p.toEntries "files" = .mapping [(.text "required", textsValue p.requiredFiles)] := by
  simp only [toEntries, part_cons, String.reduceEq, if_true, if_false]
  rfl

theorem part_dependencies :
    part p.toEntries "dependencies" =
      .mapping [(.text "denylist", textsValue p.denylist), (.text "lockfile", .text p.lockfile)] := by
  simp only [toEntries, part_cons, String.reduceEq, if_true, if_false]
  rfl

theorem part_severity : part p.toEntries "severity" = .mapping (levelEntries p.severities) := by
  simp only [toEntries, part_cons, String.reduceEq, if_true, if_false]
  rfl

theorem part_failOn : part p.toEntries "fail_on" = optionalValue p.failOn := by
  simp only [toEntries, part_cons, String.reduceEq, if_true, if_false, untied_optionalValue]

theorem valueIn_titlePattern : valueIn p.toEntries .pullRequest "title_regex" = optionalValue p.titlePattern := by
  rw [valueIn, Section.name, part_pullRequest, entriesOf, part_cons, if_pos rfl, untied_optionalValue]

theorem valueIn_requiredFiles : valueIn p.toEntries .files "required" = textsValue p.requiredFiles := by
  rw [valueIn, Section.name, part_files, entriesOf, part_cons, if_pos rfl]
  rfl

theorem valueIn_denylist : valueIn p.toEntries .dependencies "denylist" = textsValue p.denylist := by
  rw [valueIn, Section.name, part_dependencies, entriesOf, part_cons, if_pos rfl]
  rfl

theorem valueIn_lockfile : valueIn p.toEntries .dependencies "lockfile" = .text p.lockfile := by
  rw [valueIn, Section.name, part_dependencies, entriesOf, part_cons, part_cons, if_neg (by decide), if_pos rfl]
  rfl

end Parts

theorem fault?_levelValue (l : Level) : (levelValue l).fault? = none := by
  cases l <;> rfl

theorem textAt_optionalValue (t : Option String) : textAt (optionalValue t) = t := by
  cases t with
  | none => rfl
  | some s => exact congrArg some String.ofList_toList

theorem refusal?_optionalValue (name : String) (t : Option String) :
    (Demand.text name (optionalValue t)).refusal? = none := by
  cases t <;> rfl

theorem refusal?_textsValue (name : String) (ss : List String) :
    (Demand.texts name (textsValue ss)).refusal? = none := by
  have hnone : (ss.map Datum.text).findSome? Datum.fault? = none := by
    rw [List.findSome?_eq_none_iff]
    intro v hv
    obtain ⟨s, -, rfl⟩ := List.mem_map.1 hv
    rfl
  rw [Demand.refusal?_of_isShaped rfl]
  exact congrArg (Option.map Failure.unwritten) hnone

theorem refusal?_levelEntries (os : Overrides) : (Demand.levels (.mapping (levelEntries os))).refusal? = none := by
  have hnone : (levelValues (levelEntries os)).findSome? Datum.fault? = none := by
    rw [List.findSome?_eq_none_iff]
    intro v hv
    rw [levelValues, List.mem_filterMap] at hv
    obtain ⟨e, he, hv⟩ := hv
    obtain ⟨o, -, rfl⟩ := List.mem_map.1 he
    have hvalue : levelValue o.2 = v := by
      by_cases hknown : Rule.isKnownId (trimmed o.1) = true
      · simpa [hknown] using hv
      · simp [hknown] at hv
    rw [← hvalue, fault?_levelValue]
  rw [Demand.refusal?_of_isShaped rfl]
  exact congrArg (Option.map Failure.unwritten) hnone

theorem findSome?_refusal?_toEntries (p : Policy) : (demands p.toEntries).findSome? Demand.refusal? = none := by
  have hsection : ∀ (s : Section) (es : Entries), (Demand.section s (.mapping es)).refusal? = none := by
    intro s es
    rfl
  have hlockfile : (Demand.text "dependencies.lockfile" (.text p.lockfile)).refusal? = none := rfl
  simp only [demands, part_pullRequest, part_files, part_dependencies, part_severity, part_failOn,
    valueIn_titlePattern, valueIn_requiredFiles, valueIn_denylist, valueIn_lockfile]
  simp only [List.findSome?_cons, List.findSome?_nil, hsection, hlockfile, refusal?_optionalValue,
    refusal?_textsValue, refusal?_levelEntries]

theorem filledTexts_textsValue {ss : List String} (h : ∀ s ∈ ss, IsFilled s) :
    filledTexts (itemsOf (textsValue ss)) = ss := by
  change filledTexts (ss.map Datum.text) = ss
  induction ss with
  | nil => rfl
  | cons s ss ih =>
    obtain ⟨hne, htrim⟩ := h s List.mem_cons_self
    have htext : textual (.text s) = s := String.ofList_toList
    have hone : (filled? s).toList = [s] := by rw [filled?, htrim, if_neg hne]; rfl
    rw [List.map_cons, filledTexts_cons rfl, htext, hone, ih fun t ht => h t (List.mem_cons_of_mem s ht)]
    rfl

theorem trimmed_id (r : Rule) : trimmed r.id = r.id := by
  cases r <;> decide +kernel

theorem levelsOf_levelEntries {os : Overrides} (h : ∀ o ∈ os, ∃ (r : Rule) (s : String), o = (r.id, .text s)) :
    levelsOf (levelEntries os) = os := by
  induction os with
  | nil => rfl
  | cons o os ih =>
    obtain ⟨r, s, rfl⟩ := h o List.mem_cons_self
    have htail := ih fun p hp => h p (List.mem_cons_of_mem _ hp)
    have hknown : Rule.isKnownId r.id = true := (Rule.isKnownId_iff _).2 ⟨r, rfl⟩
    have hlevel : levelAt (levelValue (.text s)) = s := String.ofList_toList
    rw [levelEntries, List.map_cons, levelsOf, List.filterMap_cons]
    simp only [trimmed_id, hknown, if_true, hlevel]
    exact congrArg _ htail

theorem notesOf_levelEntries {os : Overrides} (h : ∀ o ∈ os, ∃ (r : Rule) (s : String), o = (r.id, .text s)) :
    notesOf (levelEntries os) = [] := by
  have hnone : unknownKeys (levelEntries os) = [] := by
    rw [unknownKeys, List.filterMap_eq_nil_iff]
    intro e he
    obtain ⟨o, ho, rfl⟩ := List.mem_map.1 he
    obtain ⟨r, s, rfl⟩ := h o ho
    have hknown : Rule.isKnownId r.id = true := (Rule.isKnownId_iff _).2 ⟨r, rfl⟩
    simp [trimmed_id, hknown]
  rw [notesOf, hnone]
  rfl

theorem policyOf_toEntries {p : Policy} (h : p.IsNormal) : policyOf p.toEntries = p := by
  have hlockfile : filledOr (textAt (.text p.lockfile)) defaultLockfile = p.lockfile := by
    have htext : textAt (.text p.lockfile) = some p.lockfile := congrArg some String.ofList_toList
    rw [htext, filledOr, if_neg h.lockfile]
  have hlevels : Overrides.ofList (levelsOf (levelEntries p.severities)) = p.severities := by
    rw [levelsOf_levelEntries h.levels, Overrides.ofList_of_nodup h.distinct]
  rw [policyOf, valueIn_titlePattern, valueIn_requiredFiles, valueIn_denylist, valueIn_lockfile, part_severity,
    part_failOn, textAt_optionalValue, textAt_optionalValue, filledTexts_textsValue h.requiredFiles,
    filledTexts_textsValue h.denylist, entriesOf, hlevels, hlockfile]

/-- A policy in normal form that is written back is read again. -/
theorem ofEntries_toEntries {p : Policy} (h : p.IsNormal) : ofEntries p.toEntries = .ok ⟨p, []⟩ := by
  have hreading : readingOf p.toEntries = ⟨p, []⟩ := by
    rw [readingOf, policyOf_toEntries h, part_severity, entriesOf, notesOf_levelEntries h.levels]
  rw [ofEntries_eq, answer_of_met (findSome?_refusal?_toEntries p), hreading]

/-! ### The domain of reading -/

/-- Where the values that stand for texts have short integers and are nested no deeper than `depthLimit`, all
    of them can be written. -/
theorem fault?_of_fits {root : Entries} (h : ∀ d ∈ demands root, ∀ v ∈ d.written, v.Fits Datum.depthLimit) :
    ∀ d ∈ demands root, ∀ v ∈ d.written, v.fault? = none :=
  fun d hd v hv => (h d hd v hv).fault?

/-- Where all texts can be written, a root is read as what it holds or fails by its first wrong shape. -/
theorem ofEntries_of_written {root : Entries} (hwritten : ∀ d ∈ demands root, ∀ v ∈ d.written, v.fault? = none) :
    ofEntries root = match (demands root).find? fun d => !d.isShaped with
      | some d => .error (.fault d.fault)
      | none => .ok (readingOf root) := by
  rw [ofEntries_eq, answer, findSome?_refusal?_of_written hwritten]
  cases (demands root).find? fun d => !d.isShaped <;> rfl

/-- Where all texts can be written, a root is refused exactly if one of its places has a wrong shape, and
    is told so; otherwise it is read to a policy in normal form, which gives a rule the level of the last
    entry for it.  Writing a policy in normal form back and reading it changes nothing. -/
theorem ofEntries_normal (root : Entries) (hwritten : ∀ d ∈ demands root, ∀ v ∈ d.written, v.fault? = none) :
    ((∃ fault, ofEntries root = .error (.fault fault)) ↔ ∃ d ∈ demands root, d.isShaped = false) ∧
      ((∀ d ∈ demands root, d.isShaped = true) →
        ofEntries root = .ok (readingOf root) ∧ (policyOf root).IsNormal ∧
          (∀ r : Rule, (policyOf root).severities.get? r.id = lastLevel? r (entriesOf (part root "severity"))) ∧
          ofEntries (policyOf root).toEntries = .ok ⟨policyOf root, []⟩) ∧
      ∀ p : Policy, p.IsNormal → ofEntries p.toEntries = .ok ⟨p, []⟩ := by
  have hread := ofEntries_of_written hwritten
  refine ⟨⟨?_, ?_⟩, ?_, fun p hp => ofEntries_toEntries hp⟩
  -- the fault is that of the first demand whose value has the wrong shape
  · rintro ⟨fault, hfault⟩
    rw [hread] at hfault
    cases hfind : (demands root).find? fun d => !d.isShaped with
    | none => rw [hfind] at hfault; cases hfault
    | some d =>
      refine ⟨d, List.mem_of_find?_eq_some hfind, ?_⟩
      simpa using List.find?_some hfind
  · rintro ⟨d, hd, hshape⟩
    obtain ⟨e, he⟩ : ∃ e, (demands root).find? (fun d => !d.isShaped) = some e := by
      rw [← Option.isSome_iff_exists, List.find?_isSome]
      exact ⟨d, hd, by rw [hshape]; rfl⟩
    rw [hread, he]
    exact ⟨e.fault, rfl⟩
  · intro hshaped
    have hnone : (demands root).find? (fun d => !d.isShaped) = none := by
      rw [List.find?_eq_none]
      intro d hd
      rw [hshaped d hd]
      decide
    refine ⟨?_, isNormal_policyOf root, fun r => get?_levelsOf r _, ofEntries_toEntries (isNormal_policyOf root)⟩
    rw [hread, hnone]

/-- A root with values of several kinds, a blank path and two entries for one rule. -/
def looseRoot : Entries :=
  [(.text "files", .mapping [(.text "required", .list [.text " a ", .null, .int 7, .text " "])]),
    (.text "severity", .mapping [(.text "required_files ", .text "warn"), (.text "required_files", .null)]),
    (.text "fail_on", .bool true)]

theorem ofEntries_looseRoot :
    (∀ d ∈ demands looseRoot, ∀ v ∈ d.written, v.fault? = none) ∧
      (∀ d ∈ demands looseRoot, d.isShaped = true) ∧
      ofEntries looseRoot = .ok (readingOf looseRoot) ∧
      (policyOf looseRoot).requiredFiles = ["a", "7"] ∧
      (policyOf looseRoot).severities.get? Rule.requiredFiles.id = some (.text "") := by
  have hwritten : ∀ d ∈ demands looseRoot, ∀ v ∈ d.written, v.fault? = none := by decide +kernel
  have hshaped : ∀ d ∈ demands looseRoot, d.isShaped = true := by decide +kernel
  obtain ⟨-, hread, -⟩ := ofEntries_normal looseRoot hwritten
  obtain ⟨hvalue, -, hlevel, -⟩ := hread hshaped
  refine ⟨hwritten, hshaped, hvalue, by decide +kernel, ?_⟩
  rw [hlevel]
  decide +kernel

/-! ### Values without a text -/

/-- A list with `n` lists inside each other in it. -/
def deepList : Nat → Datum
  | 0 => .list []
  | n + 1 => .list [deepList n]

theorem faultIn_deepList (path : List Nat) {room n : Nat} (h : room ≤ n) :
    (deepList n).faultIn path room = some .tooDeep := by
  induction n generalizing room with
  | zero =>
    obtain rfl : room = 0 := Nat.le_zero.1 h
    rfl
  | succ n ih =>
    cases room with
    | zero => rfl
    | succ room =>
      have hinner := ih (Nat.le_of_succ_le_succ h)
      rw [deepList, Datum.faultIn, if_neg (Nat.succ_ne_zero room), Nat.add_sub_cancel, Datum.faultInItems, hinner]
      rfl

def oneFile (v : Datum) : Entries := [(.text "files", .mapping [(.text "required", .list [v])])]

theorem demands_oneFile (v : Datum) :
    demands (oneFile v) =
      [.section .pullRequest .null, .section .files (.mapping [(.text "required", .list [v])]),
        .section .dependencies .null, .text "dependencies.lockfile" .null, .text "pull_request.title_regex" .null,
        .texts "files.required" (.list [v]), .texts "dependencies.denylist" .null, .levels .null,
        .text "fail_on" .null] := rfl

theorem ofEntries_oneFile_of_fault {v : Datum} {cause : Datum.TextFault} (h : v.fault? = some cause) :
    ofEntries (oneFile v) = .error (.unwritten cause) := by
  have hrefusal : (Demand.texts "files.required" (.list [v])).refusal? = some (.unwritten cause) := by
    rw [Demand.refusal?_of_isShaped rfl, Demand.written, List.findSome?_singleton, h]
    rfl
  rw [ofEntries_eq, demands_oneFile]
  apply answer_of_refused
  simp only [List.findSome?_cons, hrefusal]
  rfl

/-- A path that is a list nested too deep has the shape that is asked for, but no text. -/
theorem ofEntries_deepList :
    (∀ d ∈ demands (oneFile (deepList 1999)), d.isShaped = true) ∧
      ofEntries (oneFile (deepList 1999)) = .error (.unwritten .tooDeep) := by
  constructor
  · rw [demands_oneFile]
    decide
  · exact ofEntries_oneFile_of_fault (faultIn_deepList [] (by decide))

end MergeGate.Policy
