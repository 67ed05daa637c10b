import Mathlib.Data.List.Permutation
import MergeGate.Manifest.Reader
import MergeGate.Proofs.Json.Depth
import MergeGate.Proofs.Json.RoundTrip
import MergeGate.Proofs.Manifest.InstallPath

/-
  MergeGate/Proofs/Manifest/Listing.lean
  ======================================
  **The flat table of a tree.**  A dependency tree can be listed: every node, in the order of the
  document, under the path where it is installed and with its version (`flatListing`).  The paths
  of the listing are all different, and its records are those of the tree, in the same order.  So
  a manifest that holds the listing and a manifest that holds the tree are read to the same
  records.

  Both sides are compared with the nodes of the tree (`treeNodes`): the walk over the tree makes a
  record of each node under the last of its names, and the flat table recovers that name from the
  path.  Nodes without a record are passed over on both sides, and what lies below them is not.
-/

namespace MergeGate

open MergeGate.Text

/-! ### Trees and their nodes -/

/-- A dependency tree: no two entries at one place have the same name, no name holds the install
    mark, and every entry is an object without a name of its own, below which is a tree again. -/
inductive IsTree : Json.Members → Prop where
  | nil : IsTree []
  | cons {name : String} {ms es : Json.Members} (hname : IsUnmarked name)
      (hfresh : name ∉ es.map Prod.fst) (hown : Json.Members.get? ms "name" = none)
      (hbelow : IsTree (nested (.object ms))) (hrest : IsTree es) :
      IsTree ((name, .object ms) :: es)

/-- The nodes of a tree in the order of the document, each with the names that lead to it. -/
def treeNodes : Json.Members → List (List String × Json)
  | [] => []
  | (name, entry) :: es =>
    ([name], entry) :: (treeNodes (nested entry)).map (fun n => (name :: n.1, n.2)) ++ treeNodes es
termination_by es => Json.sizeMembers es
decreasing_by
  · have := sizeMembers_nested_lt entry
    simp only [Json.sizeMembers]
    omega
  · have := entry.size_pos
    simp only [Json.sizeMembers]
    omega

/-- An entry of which only the version is left. -/
def versionEntry (entry : Json) : Json :=
  match entry.get? "version" with
  | some v => .object [("version", v)]
  | none => .object []

/-- The nodes of a tree listed under their install paths. -/
def flatListing (t : Json.Members) : Json.Members :=
  (treeNodes t).map fun n => (installPath n.1, versionEntry n.2)

theorem treeNodes_nil : treeNodes [] = [] := by
  rw [treeNodes]

theorem treeNodes_cons (name : String) (entry : Json) (es : Json.Members) :
    treeNodes ((name, entry) :: es) = ([name], entry) ::
      (treeNodes (nested entry)).map (fun n => (name :: n.1, n.2)) ++ treeNodes es := by
  rw [treeNodes]

theorem ne_nil_of_mem_treeNodes {t : Json.Members} {n : List String × Json}
    (h : n ∈ treeNodes t) : n.1 ≠ [] := by
  induction t with
  | nil =>
    rw [treeNodes_nil] at h
    cases h
  | cons e es ih =>
    obtain ⟨name, entry⟩ := e
    rw [treeNodes_cons, List.mem_append, List.mem_cons, List.mem_map] at h
    rcases h with (rfl | ⟨m, -, rfl⟩) | h
    · simp
    · simp
    · exact ih h

/-- The names that lead to a node of a tree do not hold the install mark. -/
theorem IsTree.isUnmarked {t : Json.Members} (ht : IsTree t) :
    ∀ n ∈ treeNodes t, ∀ name ∈ n.1, IsUnmarked name := by
  induction ht with
  | nil => simp [treeNodes_nil]
  | cons hname _ _ _ _ ihbelow ihrest =>
    intro n hn
    rw [treeNodes_cons, List.mem_append, List.mem_cons, List.mem_map] at hn
    rcases hn with (rfl | ⟨m, hm, rfl⟩) | hn
    · simpa using hname
    · rw [List.forall_mem_cons]
      exact ⟨hname, ihbelow m hm⟩
    · exact ihrest n hn

/-- The first name that leads to a node stands in the tree itself. -/
theorem head_mem_of_mem_treeNodes {t : Json.Members} {n : List String × Json}
    (h : n ∈ treeNodes t) : ∀ name ∈ n.1.head?, name ∈ t.map Prod.fst := by
  induction t with
  | nil =>
    rw [treeNodes_nil] at h
    cases h
  | cons e es ih =>
    obtain ⟨name, entry⟩ := e
    rw [treeNodes_cons, List.mem_append, List.mem_cons, List.mem_map] at h
    rcases h with (rfl | ⟨m, -, rfl⟩) | h
    · simp
    · simp
    · intro first hfirst
      exact List.mem_cons_of_mem _ (ih h first hfirst)

/-- Different nodes of a tree have different names that lead to them. -/
theorem IsTree.nodup_names {t : Json.Members} (ht : IsTree t) :
    ((treeNodes t).map Prod.fst).Nodup := by
  induction ht with
  | nil => simp [treeNodes_nil]
  | @cons name ms es _ hfresh _ _ _ ihbelow ihrest =>
    have hbelow : (((treeNodes (nested (.object ms))).map Prod.fst).map (name :: ·)).Nodup :=
      ihbelow.map (List.cons_injective)
    have hself : [name] ∉ ((treeNodes (nested (.object ms))).map Prod.fst).map (name :: ·) := by
      intro h
      obtain ⟨row, hrow, hcons⟩ := List.mem_map.mp h
      obtain ⟨n, hn, rfl⟩ := List.mem_map.mp hrow
      exact ne_nil_of_mem_treeNodes hn (List.cons.inj hcons).2
    have hapart : ∀ row ∈ (treeNodes es).map Prod.fst, ∀ rest, row ≠ name :: rest := by
      rintro row hrow rest rfl
      obtain ⟨n, hn, hnames⟩ := List.mem_map.mp hrow
      exact hfresh (head_mem_of_mem_treeNodes hn name (by rw [hnames]; rfl))
    rw [treeNodes_cons, List.map_append, List.map_cons, List.map_map]
    have hmap : Prod.fst ∘ (fun n : List String × Json => (name :: n.1, n.2)) =
        (name :: ·) ∘ Prod.fst := rfl
    rw [hmap, ← List.map_map]
    refine List.nodup_append.mpr ⟨List.nodup_cons.mpr ⟨hself, hbelow⟩, ihrest, ?_⟩
    intro row hrow row' hrow'
    rcases List.mem_cons.mp hrow with rfl | hrow
    · exact (hapart row' hrow' []).symm
    · obtain ⟨rest, -, rfl⟩ := List.mem_map.mp hrow
      exact (hapart row' hrow' rest).symm

/-! ### The records of both sides -/

theorem get?_version_versionEntry (entry : Json) :
    (versionEntry entry).get? "version" = entry.get? "version" := by
  unfold versionEntry
  cases h : entry.get? "version" with
  | none => rfl
  | some v => rfl

theorem get?_name_versionEntry (entry : Json) : (versionEntry entry).get? "name" = none := by
  unfold versionEntry
  cases entry.get? "version" with
  | none => rfl
  | some v => simp [Json.get?, Json.Members.get?]

theorem recordOf?_versionEntry (name : String) (entry : Json) :
    recordOf? name (versionEntry entry) = recordOf? name entry := by
  rw [recordOf?, recordOf?, get?_version_versionEntry]

/-- The record of a node: of its entry under the last of its names. -/
def nodeRecord? (n : List String × Json) : Option Record := recordOf? (n.1.getLastD "") n.2

/-- In the listing a node has its own record. -/
theorem flatRecord?_installPath {names : List String} (hne : names ≠ [])
    (hnames : ∀ name ∈ names, IsUnmarked name) (entry : Json) :
    flatRecord? (installPath names) (versionEntry entry) = nodeRecord? (names, entry) := by
  obtain ⟨front, name, rfl⟩ := (List.eq_nil_or_concat' names).resolve_left hne
  have hname : IsUnmarked name := hnames name (by simp)
  have hflat : flatName (installPath (front ++ [name])) (versionEntry entry) = name := by
    rw [flatName, get?_name_versionEntry]
    exact nameOfPath_installPath hname front
  rw [flatRecord?, if_neg (installPath_concat_ne_empty front name), hflat, recordOf?_versionEntry,
    nodeRecord?, List.getLastD_concat]

theorem IsTree.flatRecords_flatListing {t : Json.Members} (ht : IsTree t) :
    flatRecords (flatListing t) = (treeNodes t).filterMap nodeRecord? := by
  rw [flatRecords, flatListing, List.filterMap_map]
  apply List.filterMap_congr
  intro n hn
  exact flatRecord?_installPath (ne_nil_of_mem_treeNodes hn) (ht.isUnmarked n hn) n.2

/-- Below an entry the last name stays what it is. -/
theorem nodeRecord?_cons (name : String) {n : List String × Json} (h : n.1 ≠ []) :
    nodeRecord? (name :: n.1, n.2) = nodeRecord? n := by
  obtain ⟨names, entry⟩ := n
  obtain ⟨front, last, rfl⟩ := (List.eq_nil_or_concat' names).resolve_left h
  have hlast : (name :: (front ++ [last])).getLastD "" = (front ++ [last]).getLastD "" := by
    rw [← List.cons_append, List.getLastD_concat, List.getLastD_concat]
  rw [nodeRecord?, nodeRecord?, hlast]

/-- The walk by recursion makes the records of the nodes. -/
theorem preorder_eq_filterMap (t : Json.Members) :
    Tree.preorder t = (treeNodes t).filterMap nodeRecord? := by
  induction t using treeNodes.induct with
  | case1 => simp [Tree.preorder, treeNodes_nil]
  | case2 name entry es ihbelow ihrest =>
    have hbelow : ((treeNodes (nested entry)).map fun n => (name :: n.1, n.2)).filterMap
        nodeRecord? = (treeNodes (nested entry)).filterMap nodeRecord? := by
      rw [List.filterMap_map]
      apply List.filterMap_congr
      intro n hn
      exact nodeRecord?_cons name (ne_nil_of_mem_treeNodes hn)
    have hself : ∀ rest, (([name], entry) :: rest).filterMap nodeRecord? =
        (recordOf? name entry).toList ++ rest.filterMap nodeRecord? := by
      intro rest
      have hrecord : nodeRecord? ([name], entry) = recordOf? name entry := rfl
      rw [List.filterMap_cons, hrecord]
      cases recordOf? name entry with
      | none => rfl
      | some r => rfl
    rw [treeNodes_cons, List.filterMap_append, hself, hbelow, ← ihbelow, ← ihrest, Tree.preorder,
      Tree.entryRecords_eq]

theorem treeRecords_eq_preorder (table : Json.Members) : treeRecords table = Tree.preorder table :=
  walk_eq_preorder (Nat.lt_succ_self _)

/-- The records of the listing are those of the tree. -/
theorem IsTree.flatRecords_eq {t : Json.Members} (ht : IsTree t) :
    flatRecords (flatListing t) = treeRecords t := by
  rw [ht.flatRecords_flatListing, ← preorder_eq_filterMap, treeRecords_eq_preorder]

/-- The paths of the listing are all different. -/
theorem IsTree.nodup_paths {t : Json.Members} (ht : IsTree t) :
    ((flatListing t).map Prod.fst).Nodup := by
  have hpaths : (flatListing t).map Prod.fst = ((treeNodes t).map Prod.fst).map installPath := by
    simp [flatListing, Function.comp_def]
  rw [hpaths]
  refine ht.nodup_names.map_on ?_
  intro names hnames names' hnames' hpath
  obtain ⟨n, hn, rfl⟩ := List.mem_map.mp hnames
  obtain ⟨n', hn', rfl⟩ := List.mem_map.mp hnames'
  exact installPath_injective (ht.isUnmarked n hn) (ht.isUnmarked n' hn') hpath

theorem flatListing_ne_nil {t : Json.Members} (h : t ≠ []) : flatListing t ≠ [] := by
  obtain ⟨⟨name, entry⟩, es, rfl⟩ := List.exists_cons_of_ne_nil h
  simp [flatListing, treeNodes_cons]

/-! ### Reading both sides -/

/-- A content holds a JSON object with these members. -/
def Content.Holds (root : Json.Members) : Content → Prop
  | .text s => Json.read s.toList = .ok (.object root)
  | .octets bs => ∃ cs, Encoding.utf8.decode bs = .ok cs ∧ Json.read cs = .ok (.object root)

theorem Content.Holds.read {root : Json.Members} {c : Content} (h : c.Holds root)
    (source : Option String) : Manifest.read (some c) source = Manifest.ofRoot root source := by
  cases c with
  | text s =>
    have hread : Json.read s.toList = .ok (.object root) := h
    rw [Manifest.read, Manifest.ofText, hread]
  | octets bs =>
    obtain ⟨cs, hdecode, hread⟩ := h
    simp only [Manifest.read, hdecode, Manifest.ofText, hread]

/-- The root object alone decides whether there is a list of records. -/
theorem Manifest.isAvailable_ofRoot (root : Json.Members) (source : Option String) :
    (Manifest.ofRoot root source).isAvailable = true := by
  unfold Manifest.ofRoot
  split
  · rfl
  · split
    · rfl
    · rfl

theorem Manifest.isAvailable_ofText_iff (cs : List Char) (source : Option String) :
    (Manifest.ofText cs source).isAvailable = true ↔ ∃ root, Json.read cs = .ok (.object root) := by
  unfold Manifest.ofText
  split
  · rename_i e he
    simp [Manifest.isAvailable, he]
  · rename_i root hroot
    simp [Manifest.isAvailable_ofRoot, hroot]
  · rename_i v hv hread
    constructor
    · intro h
      cases h
    · rintro ⟨root, hroot⟩
      rw [hread] at hroot
      exact absurd (Except.ok.inj hroot) (hv root)

/-- There is a list of records exactly if the content holds a JSON object. -/
theorem Manifest.isAvailable_read_iff (content : Option Content) (source : Option String) :
    (Manifest.read content source).isAvailable = true ↔
      ∃ c root, content = some c ∧ Content.Holds root c := by
  cases content with
  | none => simp [Manifest.read, Manifest.isAvailable]
  | some c =>
    cases c with
    | text s => simp [Manifest.read, Manifest.isAvailable_ofText_iff, Content.Holds]
    | octets bs =>
      cases hdecode : Encoding.utf8.decode bs with
      | error e => simp [Manifest.read, Manifest.isAvailable, Content.Holds, hdecode]
      | ok cs => simp [Manifest.read, Manifest.isAvailable_ofText_iff, Content.Holds, hdecode]

theorem Manifest.ofRoot_packages {table : Json.Members} (h : table ≠ []) (source : Option String) :
    Manifest.ofRoot [("packages", .object table)] source =
      .available (some .packages) (Record.distinct (flatRecords table)) source := by
  obtain ⟨m, ms, rfl⟩ := List.exists_cons_of_ne_nil h
  rfl

theorem Manifest.ofRoot_dependencies {table : Json.Members} (h : table ≠ [])
    (source : Option String) :
    Manifest.ofRoot [("dependencies", .object table)] source =
      .available (some .dependencies) (Record.distinct (treeRecords table)) source := by
  obtain ⟨m, ms, rfl⟩ := List.exists_cons_of_ne_nil h
  rfl

/-- **The two tables of one tree agree.**  The paths of the listing are all different, and its
    records are those of the tree in the same order.  Contents that hold the listing and contents
    that hold the tree are therefore read to the same records, each one once. -/
theorem IsTree.read_flatListing {t : Json.Members} (ht : IsTree t) :
    ((flatListing t).map Prod.fst).Nodup ∧
    flatRecords (flatListing t) = treeRecords t ∧
    (t ≠ [] → ∀ source,
      (∀ c, Content.Holds [("packages", .object (flatListing t))] c →
        Manifest.read (some c) source =
          .available (some .packages) (Record.distinct (treeRecords t)) source) ∧
      (∀ c, Content.Holds [("dependencies", .object t)] c →
        Manifest.read (some c) source =
          .available (some .dependencies) (Record.distinct (treeRecords t)) source)) := by
  refine ⟨ht.nodup_paths, ht.flatRecords_eq, fun hne source => ⟨?_, ?_⟩⟩
  · intro c hc
    rw [hc.read, Manifest.ofRoot_packages (flatListing_ne_nil hne), ht.flatRecords_eq]
  · intro c hc
    rw [hc.read, Manifest.ofRoot_dependencies hne]

/-- A package without a version that has a package of a scope below it. -/
def scopedTree : Json.Members :=
  [("a", .object [("dependencies", .object [("@s/b", .object [("version", .text "2.0.0")])])]),
    ("c", .object [("version", .text "1.0.0"), ("resolved", .text "x")])]

theorem scopedTree_isTree : IsTree scopedTree := by
  have hbelow : IsTree [("@s/b", .object [("version", .text "2.0.0")])] :=
    .cons (by rfl) (by simp) (by simp [Json.Members.get?]) .nil .nil
  have hrest : IsTree [("c", .object [("version", .text "1.0.0"), ("resolved", .text "x")])] :=
    .cons (by rfl) (by simp) (by simp [Json.Members.get?]) .nil .nil
  exact .cons (by rfl) (by simp) (by simp [Json.Members.get?]) hbelow hrest

theorem flatListing_scopedTree : flatListing scopedTree =
    [("node_modules/a", .object []),
      ("node_modules/a/node_modules/@s/b", .object [("version", .text "2.0.0")]),
      ("node_modules/c", .object [("version", .text "1.0.0")])] := by
  have hnodes : treeNodes scopedTree =
      [(["a"],
          .object [("dependencies", .object [("@s/b", .object [("version", .text "2.0.0")])])]),
        (["a", "@s/b"], .object [("version", .text "2.0.0")]),
        (["c"], .object [("version", .text "1.0.0"), ("resolved", .text "x")])] := by
    simp [scopedTree, treeNodes_cons, treeNodes_nil, nested, Json.get?, Json.Members.get?]
  rw [flatListing, hnodes]
  rfl

set_option maxRecDepth 2000 in
theorem read_flatListing_scopedTree :
    ((flatListing scopedTree).map Prod.fst).Nodup ∧
    flatRecords (flatListing scopedTree) = treeRecords scopedTree ∧
    Manifest.read (some (.text (Json.writeCompact
        (.object [("packages", .object (flatListing scopedTree))])))) none =
      .available (some .packages) [⟨"@s/b", "2.0.0"⟩, ⟨"c", "1.0.0"⟩] none ∧
    Manifest.read (some (.text (Json.writeCompact
        (.object [("dependencies", .object scopedTree)])))) none =
      .available (some .dependencies) [⟨"@s/b", "2.0.0"⟩, ⟨"c", "1.0.0"⟩] none := by
  have hrecords : Record.distinct (treeRecords scopedTree) =
      [⟨"@s/b", "2.0.0"⟩, ⟨"c", "1.0.0"⟩] := by decide
  have hpackages : Content.Holds [("packages", .object (flatListing scopedTree))]
      (.text (Json.writeCompact (.object [("packages", .object (flatListing scopedTree))]))) := by
    rw [Content.Holds, flatListing_scopedTree, Json.writeCompact, String.toList_ofList]
    cbv
  have hdependencies : Content.Holds [("dependencies", .object scopedTree)]
      (.text (Json.writeCompact (.object [("dependencies", .object scopedTree)]))) := by
    rw [Content.Holds, Json.writeCompact, String.toList_ofList]
    cbv
  obtain ⟨hpaths, hsame, hread⟩ := IsTree.read_flatListing scopedTree_isTree
  obtain ⟨hflat, htree⟩ := hread (by simp [scopedTree]) none
  rw [← hrecords]
  exact ⟨hpaths, hsame, hflat _ hpackages, htree _ hdependencies⟩

/-! ### Trees that are nested too deep -/

/-- A package that is installed below itself, again and again. -/
def deepTree : Nat → Json.Members
  | 0 => [("a", .object [("version", .text "1.0.0")])]
  | n + 1 =>
    [("a", .object [("dependencies", .object (deepTree n)), ("version", .text "1.0.0")])]

/-- The names of the objects that the text of such a tree opens one after the other. -/
def deepNames : Nat → List String
  | 0 => []
  | n + 1 => "a" :: "dependencies" :: deepNames n

theorem nested_deepTree_succ (n : Nat) :
    nested (.object [("dependencies", .object (deepTree n)), ("version", .text "1.0.0")]) =
      deepTree n := rfl

theorem deepTree_isTree (n : Nat) : IsTree (deepTree n) := by
  induction n with
  | zero => exact .cons (by rfl) (by simp) (by simp [Json.Members.get?]) .nil .nil
  | succ n ih => exact .cons (by rfl) (by simp) (by simp [Json.Members.get?]) ih .nil

theorem deepTree_ne_nil (n : Nat) : deepTree n ≠ [] := by
  cases n <;> simp [deepTree]

/-- The text of such a tree begins with the openings of its objects. -/
theorem exists_writeAt_deepTree (n depth : Nat) : ∃ rest,
    Json.writeAt none depth (.object (deepTree n)) = Json.openings (deepNames n) ++ rest := by
  induction n generalizing depth with
  | zero => exact ⟨_, rfl⟩
  | succ n ih =>
    obtain ⟨rest, hrest⟩ := ih (depth + 2)
    refine ⟨rest ++ ",\x22version\x22:\x221.0.0\x22\x7d\x7d".toList, ?_⟩
    rw [deepTree, Json.writeAt, Json.writeAt, hrest]
    simp [deepNames, Json.openings, Json.opening, Json.writeText, Json.lineBreak, Json.colon,
      Json.writeMembers, Json.writeAt, Json.escapeChar]

theorem exists_writeCompact_deepTree (n : Nat) : ∃ rest,
    (Json.writeCompact (.object [("dependencies", .object (deepTree n))])).toList =
      Json.openings ("dependencies" :: deepNames n) ++ rest := by
  obtain ⟨rest, hrest⟩ := exists_writeAt_deepTree n 1
  refine ⟨rest ++ ['\x7d'], ?_⟩
  rw [Json.writeCompact, String.toList_ofList, Json.write, Json.writeAt, hrest]
  simp [Json.openings, Json.opening, Json.writeText, Json.lineBreak, Json.colon, Json.writeMembers,
    Json.escapeChar]

theorem length_deepNames (n : Nat) : (deepNames n).length = 2 * n := by
  induction n with
  | zero => rfl
  | succ n ih =>
    simp only [deepNames, List.length_cons, ih]
    omega

theorem mem_deepNames {n : Nat} {name : String} (h : name ∈ deepNames n) :
    name = "a" ∨ name = "dependencies" := by
  induction n with
  | zero => cases h
  | succ n ih =>
    rcases List.mem_cons.mp h with rfl | h
    · exact .inl rfl
    · rcases List.mem_cons.mp h with rfl | h
      · exact .inr rfl
      · exact ih h

/-- The text of a tree with more levels than the reader opens gives no records. -/
theorem read_deepTree {n : Nat} (h : Json.maxDepth ≤ 2 * n) :
    Manifest.read (some (.text (Json.writeCompact
        (.object [("dependencies", .object (deepTree n))])))) none =
      .invalid (some ("not valid JSON: " ++ (Json.ReadError.tooDeep true).message)) none := by
  have hnames : ∀ name ∈ "dependencies" :: deepNames n, name = "a" ∨ name = "dependencies" := by
    rw [List.forall_mem_cons]
    exact ⟨.inr rfl, fun _ => mem_deepNames⟩
  have hplain : ∀ name ∈ "dependencies" :: deepNames n, Json.IsPlainText name.toList := by
    intro name hname
    rcases hnames name hname with rfl | rfl <;> simp [Json.IsPlainText]
  have hdepth : Json.maxDepth < ("dependencies" :: deepNames n).length := by
    rw [List.length_cons, length_deepNames]
    omega
  obtain ⟨rest, htext⟩ := exists_writeCompact_deepTree n
  rw [Manifest.read, htext, Manifest.ofText, Json.read_openings hplain hdepth]

theorem preorder_deepTree (n : Nat) :
    Tree.preorder (deepTree n) = List.replicate (n + 1) ⟨"a", "1.0.0"⟩ := by
  induction n with
  | zero => rfl
  | succ n ih =>
    have hrecord : recordOf? "a"
        (.object [("dependencies", .object (deepTree n)), ("version", .text "1.0.0")]) =
      some ⟨"a", "1.0.0"⟩ := rfl
    rw [deepTree, Tree.preorder, Tree.entryRecords_eq, nested_deepTree_succ, ih, hrecord]
    simp [Tree.preorder, List.replicate_succ]

theorem distinct_replicate (n : Nat) (r : Record) :
    Record.distinct (List.replicate (n + 1) r) = [r] := by
  have hseen : ∀ n, Record.distinctFrom [r] (List.replicate n r) = [] := by
    intro n
    induction n with
    | zero => rfl
    | succ n ih => simp [List.replicate_succ, Record.distinctFrom, ih]
  simp [Record.distinct, List.replicate_succ, Record.distinctFrom, hseen]

/-- Every node of a deep tree has the one version. -/
theorem version_of_mem_deepTree {n : Nat} {node : List String × Json} (h : node ∈ treeNodes (deepTree n)) :
    node.2.get? "version" = some (.text "1.0.0") := by
  induction n generalizing node with
  | zero =>
    rw [deepTree, treeNodes_cons, treeNodes_nil] at h
    obtain rfl : node = _ := by simpa [nested, Json.get?, Json.Members.get?, treeNodes_nil] using h
    rfl
  | succ n ih =>
    rw [deepTree, treeNodes_cons, nested_deepTree_succ, treeNodes_nil, List.append_nil] at h
    rcases List.mem_cons.1 h with rfl | hbelow
    · rfl
    · obtain ⟨below, hmem, rfl⟩ := List.mem_map.1 hbelow
      have hversion : below.2.get? "version" = some (.text "1.0.0") := ih hmem
      exact hversion

/-- However deep a tree is, its listing is a flat document. -/
theorem isData_flatListing_deepTree (n : Nat) :
    Json.IsData Json.maxDepth (.object [("packages", .object (flatListing (deepTree n)))]) := by
  refine .object (List.nodup_singleton _) (List.forall_mem_singleton.2 (.object (deepTree_isTree n).nodup_paths ?_))
  intro m hm
  obtain ⟨node, hnode, rfl⟩ := List.mem_map.1 hm
  dsimp only
  rw [versionEntry, version_of_mem_deepTree hnode]
  exact .object (List.nodup_singleton _) (List.forall_mem_singleton.2 (.text _))

theorem holds_flatListing_deepTree (n : Nat) :
    Content.Holds [("packages", .object (flatListing (deepTree n)))]
      (.text (Json.writeCompact (.object [("packages", .object (flatListing (deepTree n)))]))) := by
  have hread := (isData_flatListing_deepTree n).read_write none (List.forall_mem_nil _)
  rw [List.append_nil] at hread
  rw [Content.Holds, Json.writeCompact, String.toList_ofList]
  exact hread

/-- The listing of a deep tree is read to the one record of the tree, and the tree is not read. -/
theorem read_flatListing_deepTree :
    IsTree (deepTree 1300) ∧ deepTree 1300 ≠ [] ∧
    (Manifest.read (some (.text (Json.writeCompact
      (.object [("packages", .object (flatListing (deepTree 1300)))])))) none).records = [⟨"a", "1.0.0"⟩] ∧
    (Manifest.read (some (.text (Json.writeCompact
      (.object [("dependencies", .object (deepTree 1300))])))) none).records = [] := by
  have htree := deepTree_isTree 1300
  have hne := deepTree_ne_nil 1300
  refine ⟨htree, hne, ?_, ?_⟩
  · rw [(holds_flatListing_deepTree 1300).read, Manifest.ofRoot_packages (flatListing_ne_nil hne),
      htree.flatRecords_eq, treeRecords_eq_preorder, preorder_deepTree]
    exact distinct_replicate 1300 _
  · rw [read_deepTree (by decide)]
    rfl

end MergeGate
