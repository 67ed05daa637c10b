import MergeGate.Proofs.Json.Depth
import MergeGate.Proofs.Json.Nesting
import MergeGate.Proofs.Policy.Demands
import MergeGate.Proofs.Text.Utf8
import MergeGate.Proofs.Text.Words

/-
  MergeGate/Proofs/Policy/Escapes.lean
  ====================================
  **What reading a policy file can come to.**  A file is read to a policy, or it is refused and the author
  is told why, or a cause gets through that is no fault of the policy (`Escapes`): JSON that is nested too
  deep, YAML with a scalar that has no value or nested too deep, or a YAML value that cannot be turned
  into text.  These are all (`ofFile_told_or_escapes`).

  Nothing else gets through from a JSON file, since a value that the reader of JSON gives can be written
  (`fault?_of_areWritten`), and even then the file has more opening brackets than levels.
-/

namespace MergeGate.Policy

open MergeGate.Text

/-- The text of a file, with one kind of line ends. -/
def textOfOctets (encoding : Encoding) (octets : List UInt8) : Except DecodeFault (List Char) :=
  (encoding.decode octets).map unifyLineEnds

/-- A file is neither read nor refused, but fails by a cause of its own. -/
inductive Escapes (encoding : Encoding) (path : Path) (octets : List UInt8) : Failure → Prop where
  | json {cs : List Char} {inObject : Bool} (hpath : isJsonPath path = true)
      (htext : textOfOctets encoding octets = .ok cs) (hread : Json.read cs = .error (.tooDeep inObject)) :
      Escapes encoding path octets (.json (.tooDeep inObject))
  | yaml {cs : List Char} {cause : Yaml.Fault} (hpath : isJsonPath path = false)
      (htext : textOfOctets encoding octets = .ok cs) (hread : Yaml.read cs = .error cause)
      (hcause : cause ≠ .malformed) : Escapes encoding path octets (.yaml cause)
  | unwritten {cs : List Char} {v : Datum} {root : Entries} {cause : Datum.TextFault}
      (hpath : isJsonPath path = false) (htext : textOfOctets encoding octets = .ok cs)
      (hread : Yaml.read cs = .ok v) (hroot : v.untied = .mapping root)
      (hrefused : (demands root).findSome? Demand.refusal? = some (.unwritten cause)) :
      Escapes encoding path octets (.unwritten cause)

/-! ### Values of JSON files -/

/-- A value of a JSON text that can be written. -/
def IsWritten (v : Datum) : Prop := ∃ w, Json.Fits Datum.depthLimit w ∧ v = .ofJson w

/-- The entries of an object of which each value can be written. -/
def AreWritten (es : Entries) : Prop := ∃ ms : Json.Members, (∀ m ∈ ms, IsWritten (.ofJson m.2)) ∧ es = Datum.ofMembers ms

theorem IsWritten.fault? {v : Datum} (h : IsWritten v) : v.fault? = none := by
  obtain ⟨w, hfits, rfl⟩ := h
  exact hfits.ofJson.fault?

theorem untied_ofJson (w : Json) : (Datum.ofJson w).untied = .ofJson w := by
  cases w <;> rfl

theorem IsWritten.items {vs : List Datum} (h : IsWritten (.list vs)) : ∀ v ∈ vs, IsWritten v := by
  obtain ⟨w, hfits, hw⟩ := h
  cases hfits with
  | list hxs =>
    obtain rfl := Datum.list.inj hw
    intro v hv
    obtain ⟨x, hx, rfl⟩ := Datum.mem_ofItems hv
    exact ⟨x, (hxs x hx).mono (Nat.le_succ _), rfl⟩
  | _ => cases hw

theorem IsWritten.entriesOf {v : Datum} (h : IsWritten v) : AreWritten (entriesOf v) := by
  obtain ⟨w, hfits, rfl⟩ := h
  cases hfits with
  | object hms => exact ⟨_, fun m hm => ⟨m.2, (hms m hm).mono (Nat.le_succ _), rfl⟩, rfl⟩
  | _ => exact ⟨[], List.forall_mem_nil _, rfl⟩

theorem AreWritten.part {es : Entries} (h : AreWritten es) (name : String) : IsWritten (part es name) := by
  obtain ⟨ms, hms, rfl⟩ := h
  induction ms with
  | nil => exact ⟨.null, .null, rfl⟩
  | cons m ms ih =>
    have htail := ih fun n hn => hms n (List.mem_cons_of_mem m hn)
    rw [Policy.part, Datum.ofMembers, Datum.lookup]
    split
    · have hhead := hms m List.mem_cons_self
      rwa [Option.getD_some, untied_ofJson]
    · exact htail

theorem AreWritten.values {es : Entries} (h : AreWritten es) : ∀ v ∈ levelValues es, IsWritten v := by
  obtain ⟨ms, hms, rfl⟩ := h
  intro v hv
  rw [levelValues, List.mem_filterMap] at hv
  obtain ⟨e, he, hv⟩ := hv
  obtain ⟨m, hm, rfl⟩ := Datum.mem_ofMembers he
  have hvalue : Datum.ofJson m.2 = v := by
    by_cases hknown : Rule.isKnownId (trimmed m.1) = true
    · simpa [hknown] using hv
    · simp [hknown] at hv
  exact hvalue ▸ hms m hm

theorem IsWritten.written {d : Demand} (h : IsWritten d.value) : ∀ v ∈ d.written, IsWritten v := by
  intro v hv
  cases d with
  | «section» s w => cases hv
  | text name w =>
    obtain rfl := List.mem_singleton.1 hv
    exact h
  | texts name w =>
    cases w
    case list items => exact h.items v hv
    all_goals cases hv
  | levels w => exact h.entriesOf.values v hv

/-- Each place of a root of which all values can be written asks only for texts that can be. -/
theorem fault?_of_areWritten {root : Entries} (h : AreWritten root) :
    ∀ d ∈ demands root, ∀ v ∈ d.written, v.fault? = none := by
  have hvalue : ∀ (s : Section) (name : String), IsWritten (valueIn root s name) := by
    intro s name
    exact (h.part s.name).entriesOf.part name
  have hall : ∀ d ∈ demands root, IsWritten d.value := by
    simp only [demands, List.forall_mem_cons]
    refine ⟨h.part _, h.part _, h.part _, hvalue _ _, hvalue _ _, hvalue _ _, hvalue _ _, h.part _, h.part _, ?_⟩
    exact List.forall_mem_nil _
  intro d hd v hv
  exact ((hall d hd).written v hv).fault?

/-! ### Reading a file -/

/-- A file is read, or refused by a fault that is told. -/
def IsTold {α : Type} (r : Except Failure α) : Prop := (∃ a, r = .ok a) ∨ ∃ fault, r = .error (.fault fault)

theorem isTold_ofEntries {root : Entries} (h : ∀ d ∈ demands root, ∀ v ∈ d.written, v.fault? = none) :
    IsTold (ofEntries root) := by
  rw [ofEntries_eq, answer, findSome?_refusal?_of_written h]
  cases (demands root).find? fun d => !d.isShaped with
  | none => exact .inl ⟨_, rfl⟩
  | some d => exact .inr ⟨_, rfl⟩

theorem isTold_ofValue {v : Datum}
    (h : ∀ root, v.untied = .mapping root → ∀ d ∈ demands root, ∀ x ∈ d.written, x.fault? = none) :
    IsTold (ofValue v) := by
  unfold ofValue
  split
  · exact .inl ⟨_, rfl⟩
  · rename_i root hroot
    exact isTold_ofEntries (h root hroot)
  · exact .inr ⟨_, rfl⟩

/-- Where the root has a refusal of another kind than a wrong shape, a text cannot be written. -/
theorem ofValue_cases (v : Datum) :
    IsTold (ofValue v) ∨ ∃ root cause, v.untied = .mapping root ∧
      (demands root).findSome? Demand.refusal? = some (.unwritten cause) ∧ ofValue v = .error (.unwritten cause) := by
  unfold ofValue
  split
  · exact .inl (.inl ⟨_, rfl⟩)
  · rename_i root hroot
    rw [ofEntries_eq]
    cases hfind : (demands root).findSome? Demand.refusal? with
    | none =>
      rw [answer_of_met hfind]
      exact .inl (.inl ⟨_, rfl⟩)
    | some f =>
      rw [answer_of_refused hfind]
      obtain ⟨d, -, hd⟩ := List.exists_of_findSome?_eq_some hfind
      rw [Demand.refusal?] at hd
      split at hd
      · obtain ⟨cause, -, rfl⟩ := Option.map_eq_some_iff.1 hd
        exact .inr ⟨root, cause, hroot, hfind, rfl⟩
      · obtain rfl := Option.some.inj hd
        exact .inl (.inr ⟨_, rfl⟩)
  · exact .inl (.inr ⟨_, rfl⟩)

theorem ofFile_of_value {encoding : Encoding} {path : Path} {octets : List UInt8} {v : Datum}
    (h : fileValue encoding path octets = .ok v) :
    ofFile encoding path (some octets) =
      (ofValue v).map fun reading => (some reading.policy, reading.notes) := by
  rw [ofFile, h]
  cases h : ofValue v <;> simp [bind, Except.bind, Except.map, h, pure, Except.pure]

theorem ofFile_of_error {encoding : Encoding} {path : Path} {octets : List UInt8} {f : Failure}
    (h : fileValue encoding path octets = .error f) : ofFile encoding path (some octets) = .error f := by
  rw [ofFile, h]
  rfl

theorem fileValue_of_text {encoding : Encoding} {path : Path} {octets : List UInt8} {cs : List Char}
    (h : textOfOctets encoding octets = .ok cs) :
    fileValue encoding path octets = if isJsonPath path then jsonValue path cs else yamlValue path cs := by
  unfold textOfOctets at h
  unfold fileValue
  cases hdecode : encoding.decode octets with
  | error e => rw [hdecode] at h; cases h
  | ok raw =>
    rw [hdecode] at h
    cases h
    rfl

theorem fileValue_of_undecodable {encoding : Encoding} {path : Path} {octets : List UInt8} {fault : DecodeFault}
    (h : textOfOctets encoding octets = .error fault) :
    fileValue encoding path octets = .error (.fault (.notDecodable path.text fault)) := by
  unfold textOfOctets at h
  unfold fileValue
  cases hdecode : encoding.decode octets with
  | error e =>
    rw [hdecode] at h
    cases h
    rfl
  | ok raw => rw [hdecode] at h; cases h

/-! ### JSON and YAML -/

theorem openingCount_of_isEmpty {cs : List Char} (h : (trim cs).isEmpty = true) : Json.openingCount cs = 0 := by
  obtain ⟨g, k, hg, hk, hcs⟩ := exists_trim cs
  have hgap : Gap cs := by
    rw [hcs, List.isEmpty_iff.1 h, List.append_nil]
    exact hg.append hk
  refine List.countP_eq_zero.2 fun c hc hopen => ?_
  have hblank := hgap c hc
  simp only [Json.isOpening, Bool.or_eq_true, decide_eq_true_eq] at hopen
  rcases hopen with rfl | rfl
  · exact absurd hblank (by decide)
  · exact absurd hblank (by decide)

/-- Only a text that is not blank is nested too deep. -/
theorem jsonValue_of_tooDeep {path : Path} {cs : List Char} {inObject : Bool}
    (h : Json.read cs = .error (.tooDeep inObject)) :
    jsonValue path cs = .error (.json (.tooDeep inObject)) := by
  have hcount := Json.openingCount_of_tooDeep h
  have hfilled : ¬ (trim cs).isEmpty = true := by
    intro hblank
    rw [openingCount_of_isEmpty hblank] at hcount
    exact absurd hcount (Nat.not_lt_zero _)
  rw [jsonValue, if_neg hfilled, h]

theorem jsonValue_cases (path : Path) (cs : List Char) :
    (∃ v, jsonValue path cs = .ok v ∧ IsWritten v) ∨ (∃ fault, jsonValue path cs = .error (.fault fault)) ∨
      ∃ inObject, Json.read cs = .error (.tooDeep inObject) := by
  unfold jsonValue
  split
  · exact .inl ⟨.null, rfl, .null, .null, rfl⟩
  · split
    · rename_i w hread
      exact .inl ⟨_, rfl, w, Json.fits_of_read hread, rfl⟩
    · rename_i inObject hread
      exact .inr (.inr ⟨inObject, hread⟩)
    · exact .inr (.inl ⟨_, rfl⟩)

theorem yamlValue_of_error {path : Path} {cs : List Char} {cause : Yaml.Fault} (h : Yaml.read cs = .error cause)
    (hcause : cause ≠ .malformed) : yamlValue path cs = .error (.yaml cause) := by
  unfold yamlValue
  rw [h]
  cases cause
  case malformed => exact absurd rfl hcause
  all_goals rfl

theorem yamlValue_of_ok {path : Path} {cs : List Char} {v : Datum} (h : Yaml.read cs = .ok v) :
    yamlValue path cs = .ok v := by
  unfold yamlValue
  rw [h]

/-! ### What gets through -/

/-- A file that exists gives a policy, or a fault that is told. -/
def IsAnswered (encoding : Encoding) (path : Path) (octets : List UInt8) : Prop :=
  (∃ policy notes, ofFile encoding path (some octets) = .ok (some policy, notes)) ∨
    ∃ fault, ofFile encoding path (some octets) = .error (.fault fault)

section Files

variable {encoding : Encoding} {path : Path} {octets : List UInt8}

theorem isAnswered_of_value {v : Datum} (h : fileValue encoding path octets = .ok v) (hv : IsTold (ofValue v)) :
    IsAnswered encoding path octets := by
  rcases hv with ⟨reading, hv⟩ | ⟨fault, hv⟩
  · exact .inl ⟨reading.policy, reading.notes, by rw [ofFile_of_value h, hv]; rfl⟩
  · exact .inr ⟨fault, by rw [ofFile_of_value h, hv]; rfl⟩

theorem isAnswered_or_escapes_of_json (hpath : isJsonPath path = true) {cs : List Char}
    (htext : textOfOctets encoding octets = .ok cs) :
    IsAnswered encoding path octets ∨ ∃ f, Escapes encoding path octets f := by
  have hvalue : fileValue encoding path octets = jsonValue path cs := by
    rw [fileValue_of_text htext, if_pos hpath]
  rcases jsonValue_cases path cs with ⟨v, hv, hwritten⟩ | ⟨fault, hfault⟩ | ⟨inObject, hread⟩
  · refine .inl (isAnswered_of_value (hvalue.trans hv) (isTold_ofValue fun root hroot => ?_))
    have hentries : AreWritten (entriesOf v.untied) := by
      obtain ⟨w, hfits, rfl⟩ := hwritten
      rw [untied_ofJson]
      exact IsWritten.entriesOf ⟨w, hfits, rfl⟩
    rw [hroot] at hentries
    exact fault?_of_areWritten hentries
  · exact .inl (.inr ⟨fault, ofFile_of_error (hvalue.trans hfault)⟩)
  · exact .inr ⟨_, .json hpath htext hread⟩

theorem isAnswered_or_escapes_of_yaml (hpath : isJsonPath path = false) {cs : List Char}
    (htext : textOfOctets encoding octets = .ok cs) :
    IsAnswered encoding path octets ∨ ∃ f, Escapes encoding path octets f := by
  have hvalue : fileValue encoding path octets = yamlValue path cs := by
    rw [fileValue_of_text htext, hpath]
    rfl
  cases hread : Yaml.read cs with
  | error cause =>
    by_cases hcause : cause = .malformed
    · refine .inl (.inr ⟨.notYaml path.text, ofFile_of_error (hvalue.trans ?_)⟩)
      rw [yamlValue, hread, hcause]
    · exact .inr ⟨_, .yaml hpath htext hread hcause⟩
  | ok v =>
    rcases ofValue_cases v with htold | ⟨root, cause, hroot, hrefused, -⟩
    · exact .inl (isAnswered_of_value (hvalue.trans (yamlValue_of_ok hread)) htold)
    · exact .inr ⟨_, .unwritten hpath htext hread hroot hrefused⟩

theorem isAnswered_or_escapes (encoding : Encoding) (path : Path) (octets : List UInt8) :
    IsAnswered encoding path octets ∨ ∃ f, Escapes encoding path octets f := by
  cases htext : textOfOctets encoding octets with
  | error fault => exact .inl (.inr ⟨_, ofFile_of_error (fileValue_of_undecodable htext)⟩)
  | ok cs =>
    cases hpath : isJsonPath path with
    | true => exact isAnswered_or_escapes_of_json hpath htext
    | false => exact isAnswered_or_escapes_of_yaml hpath htext

/-- What gets through is what reading fails by. -/
theorem Escapes.ofFile {f : Failure} (h : Escapes encoding path octets f) :
    ofFile encoding path (some octets) = .error f := by
  cases h with
  | json hpath htext hread =>
    apply ofFile_of_error
    rw [fileValue_of_text htext, if_pos hpath]
    exact jsonValue_of_tooDeep hread
  | yaml hpath htext hread hcause =>
    apply ofFile_of_error
    rw [fileValue_of_text htext, hpath]
    exact yamlValue_of_error hread hcause
  | @unwritten cs v root cause hpath htext hread hroot hrefused =>
    have hvalue : fileValue encoding path octets = .ok v := by
      rw [fileValue_of_text htext, hpath]
      exact yamlValue_of_ok hread
    rw [ofFile_of_value hvalue, ofValue, hroot]
    dsimp only
    rw [ofEntries_eq, answer_of_refused hrefused]
    rfl

theorem Escapes.ne_fault {f : Failure} (h : Escapes encoding path octets f) (fault : Fault) : f ≠ .fault fault := by
  cases h <;> rintro ⟨⟩

/-- From a JSON file only its nesting gets through. -/
theorem Escapes.of_json {f : Failure} (h : Escapes encoding path octets f) (hjson : isJsonPath path = true) :
    ∃ cs inObject, f = .json (.tooDeep inObject) ∧ textOfOctets encoding octets = .ok cs ∧
      Json.maxDepth < Json.openingCount cs := by
  cases h with
  | json _ htext hread => exact ⟨_, _, rfl, htext, Json.openingCount_of_tooDeep hread⟩
  | yaml hpath => exact absurd (hjson.symm.trans hpath) (by decide)
  | unwritten hpath => exact absurd (hjson.symm.trans hpath) (by decide)

end Files

/-- A file is read, or it is refused and the author is told why, or a cause gets through.

    1. One of the three happens.
    2. What gets through is exactly what reading fails by without telling the author.
    3. From a JSON file that is only its nesting, and then it has more opening brackets than levels.
    4. Every JSON file that opens so many objects inside each other gets through, whatever follows. -/
theorem ofFile_told_or_escapes (encoding : Encoding) (path : Path) (octets : List UInt8) :
    ((∃ policy notes, ofFile encoding path (some octets) = .ok (some policy, notes)) ∨
        (∃ fault, ofFile encoding path (some octets) = .error (.fault fault)) ∨
        ∃ f, Escapes encoding path octets f) ∧
      (∀ f, Escapes encoding path octets f ↔
        ofFile encoding path (some octets) = .error f ∧ ∀ fault, f ≠ .fault fault) ∧
      (isJsonPath path = true → ∀ f, Escapes encoding path octets f →
        ∃ cs inObject, f = .json (.tooDeep inObject) ∧ textOfOctets encoding octets = .ok cs ∧
          Json.maxDepth < Json.openingCount cs) ∧
      ∀ (names : List String) (rest : List Char),
        isJsonPath path = true → textOfOctets encoding octets = .ok (Json.openings names ++ rest) →
        (∀ n ∈ names, Json.IsPlainText n.toList) → Json.maxDepth < names.length →
        Escapes encoding path octets (.json (.tooDeep true)) := by
  refine ⟨?_, ?_, fun hpath f hf => hf.of_json hpath, ?_⟩
  · rcases isAnswered_or_escapes encoding path octets with (hread | htold) | hescapes
    · exact .inl hread
    · exact .inr (.inl htold)
    · exact .inr (.inr hescapes)
  · intro f
    refine ⟨fun hf => ⟨hf.ofFile, hf.ne_fault⟩, ?_⟩
    rintro ⟨hread, hnot⟩
    rcases isAnswered_or_escapes encoding path octets with (⟨_, _, hok⟩ | ⟨fault, htold⟩) | ⟨g, hg⟩
    · exact absurd (hread.symm.trans hok) (by rintro ⟨⟩)
    · exact absurd (Except.error.inj (hread.symm.trans htold)) (hnot fault)
    · rwa [Except.error.inj (hread.symm.trans hg.ofFile)]
  · intro names rest hpath htext hnames hdepth
    exact .json hpath htext (Json.read_openings hnames hdepth rest)

/-! ### A date that does not exist -/

/-- The cause that reading a text fails by. -/
def causeOf? : Except Yaml.Fault Datum → Option Yaml.Fault
  | .error cause => some cause
  | .ok _ => none

theorem eq_error_of_causeOf? {r : Except Yaml.Fault Datum} {cause : Yaml.Fault} (h : causeOf? r = some cause) :
    r = .error cause := by
  cases r with
  | error e => exact congrArg Except.error (Option.some.inj h)
  | ok v => cases h

def dateFile : List Char := "fail_on: 2024-99-99\n".toList

/-- A threshold that has the form of a date, but no month of the year, is no fault that is told. -/
theorem escapes_dateFile :
    Escapes .utf8 (Path.ofString defaultPolicyFile) (encodeUtf8 dateFile) (.yaml (.badDate .month)) := by
  have htext : textOfOctets .utf8 (encodeUtf8 dateFile) = .ok dateFile := by
    rw [textOfOctets, (decode_utf8_eq_ok_iff _ _).mpr rfl]
    rfl
  have hread : Yaml.read dateFile = .error (.badDate .month) := eq_error_of_causeOf? (by decide +kernel)
  exact .yaml (by decide +kernel) htext hread (by decide)

end MergeGate.Policy
