import MergeGate.Proofs.Manifest.Walk
import MergeGate.Proofs.Text.Utf8

/-
  MergeGate/Proofs/Manifest/Reading.lean
  ======================================
  **What a manifest is like.**  Whatever the content, what is read from it is of one shape
  (`Manifest.read_isReadingOf`).  It is missing exactly if there is no content, and invalid exactly
  if the content stands for no text, or for one without a value, or for a value that is no object
  (`Content.IsUnreadable`); exactly then it carries an error.  Otherwise it lists the first of the
  two tables that is an object with members, each record of it once and at its first place.

  A content is read to its end on one way only, since it stands for one text at most
  (`Content.Decodes.unique`).  So every clause follows from what is read in the three cases
  (`Manifest.read_cases`) and from the cases excluding each other.
-/

namespace MergeGate

open MergeGate.Text

/-! ### Records at their first place -/

/-- The records `rs` are those of `all`, each of them once and in the order of their first places. -/
structure Record.IsFirsts (all rs : List Record) : Prop where
  nodup : rs.Nodup
  mem_iff : ∀ r, r ∈ rs ↔ r ∈ all
  ordered : rs.Pairwise fun a b => all.idxOf a < all.idxOf b

theorem Record.nodup_distinctFrom (seen rs : List Record) : (distinctFrom seen rs).Nodup := by
  induction rs generalizing seen with
  | nil => exact List.nodup_nil
  | cons r rs ih =>
    rw [distinctFrom]
    split_ifs with hseen
    · exact ih seen
    · refine List.nodup_cons.mpr ⟨?_, ih (r :: seen)⟩
      rw [mem_distinctFrom]
      exact fun h => h.2 List.mem_cons_self

/-- What remains stands in the order of the first places, also when some were seen before. -/
theorem Record.pairwise_distinctFrom (seen rs : List Record) :
    (distinctFrom seen rs).Pairwise fun a b => rs.idxOf a < rs.idxOf b := by
  induction rs generalizing seen with
  | nil => exact .nil
  | cons r rs ih =>
    -- all other records stand one place further behind `r`
    have hshift : ∀ {seen : List Record}, r ∈ seen → ∀ a ∈ distinctFrom seen rs,
        (r :: rs).idxOf a = rs.idxOf a + 1 := by
      intro seen hr a ha
      have hne : r ≠ a := fun heq => (mem_distinctFrom.mp ha).2 (heq ▸ hr)
      exact List.idxOf_cons_ne _ hne
    have hrest : ∀ {seen : List Record}, r ∈ seen → (distinctFrom seen rs).Pairwise
        fun a b => (r :: rs).idxOf a < (r :: rs).idxOf b := by
      intro seen hr
      refine (ih seen).imp_of_mem ?_
      intro a b ha hb hlt
      rw [hshift hr a ha, hshift hr b hb]
      exact Nat.succ_lt_succ hlt
    rw [distinctFrom]
    split_ifs with hseen
    · exact hrest (List.contains_iff_mem.mp hseen)
    · refine List.pairwise_cons.mpr ⟨?_, hrest List.mem_cons_self⟩
      intro a ha
      rw [hshift List.mem_cons_self a ha, List.idxOf_cons_self]
      exact Nat.succ_pos _

/-- Dropping repetitions keeps every record at its first place. -/
theorem Record.isFirsts_distinct (all : List Record) : IsFirsts all (distinct all) where
  nodup := nodup_distinctFrom [] all
  mem_iff _ := mem_distinct
  ordered := pairwise_distinctFrom [] all

/-! ### Records have names and versions -/

theorem filled_of_recordOf? {name : String} {entry : Json} {r : Record}
    (h : recordOf? name entry = some r) : r.name ≠ "" ∧ r.version ≠ "" := by
  obtain ⟨-, hversion, rfl, hname⟩ := recordOf?_eq_some_iff.mp h
  exact ⟨hname, hversion⟩

theorem flatRecord?_eq_some {path : String} {entry : Json} {r : Record}
    (h : flatRecord? path entry = some r) :
    path ≠ "" ∧ recordOf? (flatName path entry) entry = some r := by
  unfold flatRecord? at h
  split_ifs at h with hpath
  exact ⟨hpath, h⟩

theorem exists_recordOf?_of_mem_preorder {es : List (String × Json)} {r : Record}
    (h : r ∈ Tree.preorder es) : ∃ name entry, recordOf? name entry = some r := by
  rw [preorder_eq_filterMap] at h
  obtain ⟨n, -, hn⟩ := List.mem_filterMap.mp h
  exact ⟨_, _, hn⟩

theorem Manifest.filled_of_mem_recordsOf {schema : Schema} {table : Json.Members} {r : Record}
    (h : r ∈ recordsOf schema table) : r.name ≠ "" ∧ r.version ≠ "" := by
  cases schema with
  | packages =>
    obtain ⟨e, -, he⟩ := List.mem_filterMap.mp h
    exact filled_of_recordOf? (flatRecord?_eq_some he).2
  | dependencies =>
    rw [recordsOf, treeRecords_eq_preorder] at h
    obtain ⟨name, entry, hentry⟩ := exists_recordOf?_of_mem_preorder h
    exact filled_of_recordOf? hentry

/-- The flat table without the entry of the project itself. -/
def installed (table : Json.Members) : Json.Members := table.filter fun e => e.1 ≠ ""

/-- The project itself is not one of its packages. -/
theorem flatRecords_installed (table : Json.Members) :
    flatRecords (installed table) = flatRecords table := by
  rw [flatRecords, installed, List.filterMap_filter, flatRecords]
  apply List.filterMap_congr
  intro e he
  by_cases hpath : e.1 = ""
  · simp [flatRecord?, hpath]
  · simp [hpath]

/-! ### What a content stands for -/

/-- A content stands for characters: its text is made of them, or its octets are what is written
    for them. -/
def Content.Decodes (cs : List Char) : Content → Prop
  | .text s => s.toList = cs
  | .octets bs => encodeUtf8 cs = bs

/-- Why a content holds no object. -/
inductive Content.IsUnreadable (c : Content) : Prop where
  | undecodable (h : ∀ cs, ¬ c.Decodes cs)
  | malformed {cs : List Char} (h : c.Decodes cs) {e : Json.ReadError} (hread : Json.read cs = .error e)
  | rootless {cs : List Char} (h : c.Decodes cs) {v : Json} (hread : Json.read cs = .ok v)
      (hroot : ∀ root, v ≠ .object root)

theorem Content.decodes_octets_iff {cs : List Char} {bs : List UInt8} :
    (Content.octets bs).Decodes cs ↔ Encoding.utf8.decode bs = .ok cs :=
  (decode_utf8_eq_ok_iff bs cs).symm

/-- A content stands for one text at most. -/
theorem Content.Decodes.unique {c : Content} {cs ds : List Char} (h : c.Decodes cs)
    (h' : c.Decodes ds) : cs = ds := by
  cases c with
  | text s => exact h.symm.trans h'
  | octets bs =>
    rw [decodes_octets_iff] at h h'
    exact Except.ok.inj (h.symm.trans h')

theorem Content.holds_iff {root : Json.Members} {c : Content} :
    c.Holds root ↔ ∃ cs, c.Decodes cs ∧ Json.read cs = .ok (.object root) := by
  cases c with
  | text s => simp [Holds, Decodes]
  | octets bs => simp [Holds, decodes_octets_iff]

theorem Content.IsUnreadable.not_holds {c : Content} (h : c.IsUnreadable) (root : Json.Members) :
    ¬ c.Holds root := by
  rw [holds_iff]
  rintro ⟨ds, hds, hobject⟩
  cases h with
  | undecodable h => exact h ds hds
  | malformed h hread =>
    rw [hds.unique h, hread] at hobject
    cases hobject
  | rootless h hread hroot =>
    rw [hds.unique h, hread] at hobject
    exact hroot root (Except.ok.inj hobject)

/-! ### The shape of a manifest -/

namespace Manifest

/-- The table of a schema: an object with members. -/
def IsTable (root : Json.Members) (schema : Schema) (table : Json.Members) : Prop :=
  table ≠ [] ∧ root.get? schema.label = some (.object table)

/-- A manifest lists a root object: the table of its packages if there is one, else the table of its
    dependencies, else nothing. -/
structure Lists (root : Json.Members) (m : Manifest) : Prop where
  packages_iff : m.schema? = some .packages ↔ ∃ table, IsTable root .packages table
  dependencies_iff : m.schema? = some .dependencies ↔
    (¬ ∃ table, IsTable root .packages table) ∧ ∃ table, IsTable root .dependencies table
  records_nil : m.schema? = none → m.records = []
  isFirsts_packages : ∀ table, m.schema? = some .packages → IsTable root .packages table →
    Record.IsFirsts (flatRecords table) m.records
  /-- The entry of the project itself adds nothing. -/
  isFirsts_installed : ∀ table, m.schema? = some .packages → IsTable root .packages table →
    Record.IsFirsts (flatRecords (installed table)) m.records
  isFirsts_dependencies : ∀ table, m.schema? = some .dependencies → IsTable root .dependencies table →
    Record.IsFirsts (treeRecords table) m.records
  filled : ∀ r ∈ m.records, r.name ≠ "" ∧ r.version ≠ ""

/-- What is read from a content: why there are no records, with an error if the content is at
    fault, or else the list of a root object. -/
structure IsReadingOf (content : Option Content) (source : Option String) (m : Manifest) : Prop where
  source_eq : m.source = source
  missing_iff : m.absence? = some "missing" ↔ content = none
  invalid_iff : m.absence? = some "invalid" ↔ ∃ c, content = some c ∧ c.IsUnreadable
  available_iff : m.absence? = none ↔ ∃ c root, content = some c ∧ Content.Holds root c
  error_iff : m.error?.isSome ↔ m.absence? = some "invalid"
  empty_of_absent : m.absence? ≠ none → m.records = [] ∧ m.schema? = none
  lists : ∀ c root, content = some c → Content.Holds root c → m.Lists root

theorem table?_eq_some_iff {root : Json.Members} {schema : Schema} {table : Json.Members} :
    table? root schema = some table ↔ IsTable root schema table := by
  unfold table? IsTable
  split
  · rename_i m ms hget
    rw [hget]
    constructor
    · rintro ⟨rfl⟩
      exact ⟨List.cons_ne_nil m ms, rfl⟩
    · rintro ⟨-, ⟨rfl⟩⟩
      rfl
  · rename_i hno
    constructor
    · rintro ⟨⟩
    · rintro ⟨hne, hget⟩
      obtain ⟨m, ms, rfl⟩ := List.exists_cons_of_ne_nil hne
      exact absurd hget (hno m ms)

theorem table?_eq_none_iff {root : Json.Members} {schema : Schema} :
    table? root schema = none ↔ ¬ ∃ table, IsTable root schema table := by
  simp only [← table?_eq_some_iff, ← Option.isSome_iff_exists, Option.not_isSome_iff_eq_none]

/-- The root object alone decides what is listed. -/
theorem lists_ofRoot (root : Json.Members) (source : Option String) :
    (ofRoot root source).Lists root := by
  -- the schema that is chosen has a table, and its records are listed
  have hfilled : ∀ schema table, ∀ r ∈ Record.distinct (recordsOf schema table),
      r.name ≠ "" ∧ r.version ≠ "" := by
    intro schema table r hr
    exact filled_of_mem_recordsOf (Record.mem_distinct.mp hr)
  have hfirsts : ∀ schema table chosen, table? root schema = some chosen →
      IsTable root schema table →
      Record.IsFirsts (recordsOf schema table) (Record.distinct (recordsOf schema chosen)) := by
    intro schema table chosen hchosen htable
    rw [← table?_eq_some_iff, hchosen] at htable
    cases htable
    exact Record.isFirsts_distinct _
  unfold ofRoot
  cases hpackages : table? root .packages with
  | some table =>
    have htable := table?_eq_some_iff.mp hpackages
    have hlisted : ∀ table', IsTable root .packages table' →
        Record.IsFirsts (flatRecords table') (Record.distinct (recordsOf .packages table)) :=
      fun table' => hfirsts .packages table' table hpackages
    refine ⟨?_, ?_, by simp [schema?], fun table' _ => hlisted table', ?_, by simp [schema?],
      hfilled .packages table⟩
    · simpa [schema?] using ⟨table, htable⟩
    · simpa [schema?] using fun h => absurd htable (h table)
    · intro table' _ htable'
      rw [flatRecords_installed]
      exact hlisted table' htable'
  | none =>
    have hnone := not_exists.mp (table?_eq_none_iff.mp hpackages)
    cases hdependencies : table? root .dependencies with
    | some table =>
      have htable := table?_eq_some_iff.mp hdependencies
      refine ⟨?_, ?_, by simp [schema?], by simp [schema?], by simp [schema?], ?_, hfilled .dependencies table⟩
      · simpa [schema?] using hnone
      · simpa [schema?] using ⟨hnone, table, htable⟩
      · exact fun table' _ => hfirsts .dependencies table' table hdependencies
    | none =>
      have hnone' := not_exists.mp (table?_eq_none_iff.mp hdependencies)
      refine ⟨?_, ?_, fun _ => rfl, by simp [schema?], by simp [schema?], by simp [schema?], by simp [records]⟩
      · simpa [schema?] using hnone
      · simpa [schema?] using fun _ => hnone'

/-! ### Reading -/

/-- Reading goes on with the text that a content stands for. -/
theorem read_of_decodes {c : Content} {cs : List Char} (h : c.Decodes cs) (source : Option String) :
    read (some c) source = ofText cs source := by
  cases c with
  | text s =>
    cases h
    rfl
  | octets bs =>
    rw [read, Content.decodes_octets_iff.mp h]

/-- A content either holds an object, which is listed, or is unreadable, which is told. -/
theorem read_cases (c : Content) (source : Option String) :
    (∃ root, Content.Holds root c ∧ read (some c) source = ofRoot root source) ∨
    (c.IsUnreadable ∧ ∃ e, read (some c) source = .invalid (some e) source) := by
  by_cases hdecodes : ∃ cs, c.Decodes cs
  · obtain ⟨cs, hcs⟩ := hdecodes
    rw [read_of_decodes hcs, ofText]
    cases hread : Json.read cs with
    | error e => exact .inr ⟨.malformed hcs hread, _, rfl⟩
    | ok v =>
      cases v with
      | object root => exact .inl ⟨root, Content.holds_iff.mpr ⟨cs, hcs, hread⟩, rfl⟩
      | _ => exact .inr ⟨.rootless hcs hread (by simp), _, rfl⟩
  · rw [not_exists] at hdecodes
    refine .inr ⟨.undecodable hdecodes, ?_⟩
    cases c with
    | text s => exact absurd rfl (hdecodes s.toList)
    | octets bs =>
      cases hdecode : Encoding.utf8.decode bs with
      | ok cs => exact absurd (Content.decodes_octets_iff.mpr hdecode) (hdecodes cs)
      | error e => exact ⟨_, by rw [read, hdecode]⟩

theorem ofRoot_available (root : Json.Members) (source : Option String) :
    ∃ schema rs, ofRoot root source = .available schema rs source := by
  unfold ofRoot
  split
  · exact ⟨_, _, rfl⟩
  · split
    · exact ⟨_, _, rfl⟩
    · exact ⟨_, _, rfl⟩

/-- **Every manifest that is read is well formed.** -/
theorem read_isReadingOf (content : Option Content) (source : Option String) :
    (read content source).IsReadingOf content source := by
  cases content with
  | none =>
    exact ⟨rfl, by simp [read, absence?], by simp [read, absence?], by simp [read, absence?],
      by simp [read, absence?, error?], fun _ => ⟨rfl, rfl⟩, by simp⟩
  | some c =>
    rcases read_cases c source with ⟨root, hroot, hread⟩ | ⟨hunreadable, e, hread⟩
    · have hreadable : ¬ c.IsUnreadable := fun h => h.not_holds root hroot
      -- a content holds one root at most, so the tables are those of the root that was read
      have hlists : ∀ c' root', some c = some c' → Content.Holds root' c' →
          (read (some c) source).Lists root' := by
        rintro c' root' ⟨rfl⟩ hroot'
        rw [hroot'.read]
        exact lists_ofRoot root' source
      refine ⟨?_, ?_, ?_, ?_, ?_, ?_, hlists⟩
      all_goals
        obtain ⟨schema, rs, havailable⟩ := ofRoot_available root source
        rw [hread, havailable]
      · rfl
      · simp [absence?]
      · simpa [absence?] using hreadable
      · simpa [absence?] using ⟨root, hroot⟩
      · simp [absence?, error?]
      · simp [absence?]
    · have hnone := hunreadable.not_holds
      rw [hread]
      refine ⟨rfl, by simp [absence?], by simpa [absence?] using hunreadable, ?_,
        by simp [absence?, error?], fun _ => ⟨rfl, rfl⟩, ?_⟩
      · simpa [absence?] using hnone
      · rintro c' root ⟨rfl⟩ hroot
        exact absurd hroot (hnone root)

/-- A manifest with both tables, in which a package is installed twice. -/
def twoTables : Content :=
  .text ("\x7b\"packages\": \x7b\"\": \x7b\"version\": \"9.0.0\"\x7d, "
    ++ "\"node_modules/b\": \x7b\"version\": \"1.0.0\"\x7d, \"node_modules/a\": \x7b\"version\": \"2.0.0\"\x7d, "
    ++ "\"node_modules/a/node_modules/b\": \x7b\"version\": \"1.0.0\"\x7d\x7d, "
    ++ "\"dependencies\": \x7b\"c\": \x7b\"version\": \"3.0.0\"\x7d\x7d\x7d")

/-- The first table is listed, and the package that is installed twice comes once. -/
theorem read_isReadingOf_twoTables :
    read (some twoTables) (some "package-lock.json") =
      .available (some .packages) [⟨"b", "1.0.0"⟩, ⟨"a", "2.0.0"⟩] (some "package-lock.json") ∧
    (read (some twoTables) (some "package-lock.json")).IsReadingOf (some twoTables) (some "package-lock.json") :=
  ⟨by decide +kernel, read_isReadingOf (some twoTables) (some "package-lock.json")⟩

end Manifest

end MergeGate
