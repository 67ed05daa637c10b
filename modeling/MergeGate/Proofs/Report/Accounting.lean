import MergeGate.Proofs.Json.Ordered
import MergeGate.Proofs.Report.Showing
import MergeGate.Proofs.Report.Table
import MergeGate.Proofs.Text.Lines

/-
  MergeGate/Proofs/Report/Accounting.lean
  =======================================
  **Every violation is accounted for.**  However a report is shown to people, nothing of it is lost, told
  twice or miscounted.  Its tally (`IsTally`) has the severities that occur, the gravest first, and its
  numbers add up to the number of violations; the summary line of the text tells just this tally
  (`IsSummary`), and it is what the table of the comment reads back to (`CountLines`).

  The text holds a block for every violation (`IsText`), with its severity, its rule, its message and the
  way to mend it (`IsBlock`).  The comment quotes the same (`IsQuotation`) of the violations before its
  limit, which is taken as a place in the list from either end (`IsSlice`), and announces how many it has
  left out (`IsComment`).  `accounts_for_violations` puts the two together.
-/

namespace MergeGate

open MergeGate.Text

/-! ### Counting and cutting -/

/-- The severities that occur among violations, the gravest first, each with the number of those that
    have it; together they are all. -/
structure IsTally (vs : List Violation) (tally : List (Severity × Nat)) : Prop where
  sorted : (tally.map Prod.fst).Pairwise fun s t => t.rank < s.rank
  occurs : ∀ s, s ∈ tally.map Prod.fst ↔ ∃ v ∈ vs, v.severity = s
  numbers : ∀ p ∈ tally, p.2 = (vs.filter fun v => v.severity = p.1).length
  total : (tally.map Prod.snd).sum = vs.length

/-- The items before a place, which is counted from the front, or from the end if it is negative. -/
structure IsSlice {α : Type} (place : Int) (xs shown : List α) : Prop where
  front : shown <+: xs
  length : (shown.length : Int) = if 0 ≤ place then min place xs.length else max 0 (xs.length + place)

theorem isSlice_limited {α : Type} (limit : Int) (xs : List α) : IsSlice limit xs (limited limit xs) := by
  unfold limited
  by_cases hlimit : 0 ≤ limit
  · rw [if_pos hlimit]
    refine ⟨List.take_prefix _ _, ?_⟩
    rw [if_pos hlimit, List.length_take]
    omega
  · rw [if_neg hlimit]
    refine ⟨List.take_prefix _ _, ?_⟩
    rw [if_neg hlimit, List.length_take]
    omega

namespace Report

variable {r : Report} {status : Status}

theorem mem_counts_iff {p : Severity × Nat} : p ∈ r.counts ↔ p.2 = r.count p.1 ∧ p.2 ≠ 0 := by
  obtain ⟨s, n⟩ := p
  simp only [counts, List.mem_filter, List.mem_map, Prod.mk.injEq, decide_eq_true_iff]
  constructor
  · rintro ⟨⟨s, -, rfl, rfl⟩, hn⟩
    exact ⟨rfl, hn⟩
  · rintro ⟨rfl, hn⟩
    exact ⟨⟨s, s.mem_ordered, rfl, rfl⟩, hn⟩

theorem counts_sublist (r : Report) : (r.counts.map Prod.fst).Sublist Severity.ordered := by
  have hmap : (r.counts.map Prod.fst).Sublist ((Severity.ordered.map fun s => (s, r.count s)).map Prod.fst) :=
    List.filter_sublist.map Prod.fst
  rwa [List.map_map, show Prod.fst ∘ (fun s => (s, r.count s)) = id from rfl, List.map_id] at hmap

theorem isTally_counts (r : Report) : IsTally r.violations r.counts where
  sorted := List.Pairwise.sublist r.counts_sublist (by decide)
  occurs := by
    intro s
    constructor
    · intro hs
      obtain ⟨p, hp, rfl⟩ := List.mem_map.mp hs
      obtain ⟨hcount, hne⟩ := mem_counts_iff.mp hp
      rw [hcount] at hne
      simpa [count] using List.countP_pos_iff.mp (Nat.pos_of_ne_zero hne)
    · rintro ⟨v, hv, rfl⟩
      have hpos : 0 < r.count v.severity := List.countP_pos_iff.mpr ⟨v, hv, by simp⟩
      exact List.mem_map.mpr ⟨(v.severity, r.count v.severity), mem_counts_iff.mpr ⟨rfl, hpos.ne'⟩, rfl⟩
  numbers := by
    intro p hp
    rw [(mem_counts_iff.mp hp).1, count, List.countP_eq_length_filter]
  total := by
    rw [← r.count_error_add_count_warn]
    by_cases he : r.count .error = 0 <;> by_cases hw : r.count .warn = 0 <;>
      simp [counts, Severity.ordered, List.filter, he, hw]

/-! ### The summary line -/

/-- A severity in words. -/
def toldSeverity : Severity → String
  | .warn => "warn"
  | .error => "error"

/-- A tally in words. -/
def toldTally (tally : List (Severity × Nat)) : String :=
  String.intercalate ", " (tally.map fun p => toString p.2 ++ " " ++ toldSeverity p.1)

/-- Whether the gate fails, in words. -/
def toldFailing (failing : Bool) : String := if failing then "failing" else "not failing"

/-- The single line that sums a report up with its tally. -/
structure IsSummary (r : Report) (status : Status) (tally : List (Severity × Nat)) (line : List Char) : Prop where
  one : IsOneLine line
  clear : r.violations = [] → line = (status.mark ++ " No violations").toList
  found : r.violations ≠ [] → line = (status.mark ++ " " ++ toString r.violations.length ++ " violations ("
    ++ toldTally tally ++ ") [" ++ status.label ++ ", " ++ toldFailing r.failing ++ "]").toList

theorem summaryLine_of_nil (h : r.violations = []) (status : Status) :
    r.summaryLine status = status.mark ++ " No violations" := by
  rw [summaryLine, h]
  rfl

theorem summaryLine_of_ne_nil (h : r.violations ≠ []) (status : Status) :
    r.summaryLine status = status.mark ++ " " ++ toString r.violations.length ++ " violations ("
      ++ toldTally r.counts ++ ") [" ++ r.status ++ ", " ++ toldFailing r.failing ++ "]" := by
  rw [summaryLine, if_neg (by simpa using h)]
  rfl

theorem isOneLine_toldTally (tally : List (Severity × Nat)) : IsOneLine (toldTally tally).toList := by
  apply isOneLine_intercalate (by decide)
  intro s hs
  obtain ⟨⟨severity, n⟩, -, rfl⟩ := List.mem_map.mp hs
  have hword : IsOneLine (toldSeverity severity).toList := by cases severity <;> decide
  rw [String.toList_append, String.toList_append, isOneLine_append, isOneLine_append]
  exact ⟨⟨isOneLine_numeral n, by decide⟩, hword⟩

theorem isSummary_summaryLine (h : r.status = status.label) :
    r.IsSummary status r.counts (r.summaryLine status).toList where
  one := by
    have hmark : IsOneLine status.mark.toList := by cases status <;> decide
    have hlabel : IsOneLine status.label.toList := by cases status <;> decide
    have hfailing : IsOneLine (toldFailing r.failing).toList := by cases r.failing <;> decide
    by_cases hnil : r.violations = []
    · rw [summaryLine_of_nil hnil, String.toList_append, isOneLine_append]
      exact ⟨hmark, by decide⟩
    · rw [summaryLine_of_ne_nil hnil, h]
      simp only [String.toList_append, isOneLine_append, hmark, hlabel, hfailing, isOneLine_numeral,
        isOneLine_toldTally, true_and, and_true]
      decide
  clear := fun hnil => congrArg String.toList (summaryLine_of_nil hnil status)
  found := fun hne => congrArg String.toList (h ▸ summaryLine_of_ne_nil hne status)

/-- The summary line ends with a character that is not blank. -/
theorem summaryLine_last (r : Report) (status : Status) :
    ∃ front c, (r.summaryLine status).toList = front ++ [c] ∧ isBlank c = false := by
  by_cases hnil : r.violations = []
  · rw [summaryLine_of_nil hnil]
    exact ⟨status.mark.toList ++ " No violation".toList, 's', by simp, rfl⟩
  · rw [summaryLine_of_ne_nil hnil, String.toList_append]
    exact ⟨_, ']', rfl, rfl⟩

/-! ### Lines on a violation -/

/-- The line for a text, between a front and a back; for a text that is absent or empty there is none. -/
inductive IsLineOf (front back : String) : Option String → List String → Prop where
  | absent : IsLineOf front back none []
  | empty : IsLineOf front back (some "") []
  | told {s : String} (h : s ≠ "") : IsLineOf front back (some s) [front ++ s ++ back]

/-- The word for a severity, in capitals. -/
inductive Shouts : Severity → String → Prop where
  | warn : Shouts .warn "WARN"
  | error : Shouts .error "ERROR"

/-- The values of a violation, each on a line with its name, in the order of the names. -/
def AreValues (context : Json.Members) (lines : List String) : Prop :=
  ∃ ms : Json.Members, ms.Perm context ∧ ms.Pairwise (fun m n => m.1 ≤ n.1) ∧
    lines = ms.map fun m => "    " ++ m.1 ++ ": " ++ m.2.literal

/-- The block of a violation in a text: its severity and rule, its message, and the way to mend it if one
    is known.  The verbose form goes on with its values. -/
inductive IsBlock (v : Violation) : Verbosity → List String → Prop where
  | normal {word : String} {fix : List String} (hword : Shouts v.severity word)
      (hfix : IsLineOf "    fix: " "" v.remediation fix) :
      IsBlock v .normal (("  ✗ " ++ word ++ " [" ++ v.rule ++ "]") :: ("    " ++ v.message) :: fix)
  | verbose {word : String} {fix values : List String} (hword : Shouts v.severity word)
      (hfix : IsLineOf "    fix: " "" v.remediation fix) (hvalues : AreValues v.context values) :
      IsBlock v .verbose
        (("  ✗ " ++ word ++ " [" ++ v.rule ++ "]") :: ("    " ++ v.message) :: (fix ++ values))

/-- The quotation of a violation in a comment: its severity and rule, its message, and the way to mend it
    if one is known. -/
inductive IsQuotation (v : Violation) : List String → Prop where
  | quoted {word : String} {fix : List String} (hword : Shouts v.severity word)
      (hfix : IsLineOf "> *" "*" v.remediation fix) :
      IsQuotation v (("> **" ++ word ++ "** `" ++ v.rule ++ "`") :: ("> " ++ v.message) :: fix)

theorem shouts_loudLabel (s : Severity) : Shouts s s.loudLabel := by
  cases s with
  | warn => exact .warn
  | error => exact .error

theorem isLineOf_ite (front back s : String) :
    IsLineOf front back (some s) (if s = "" then [] else [front ++ s ++ back]) := by
  by_cases hs : s = ""
  · rw [if_pos hs, hs]
    exact .empty
  · rw [if_neg hs]
    exact .told hs

theorem areValues_inNameOrder (context : Json.Members) :
    AreValues context ((inNameOrder context).map fun m => "    " ++ m.1 ++ ": " ++ m.2.literal) :=
  ⟨_, List.mergeSort_perm _ _, Json.pairwise_mergeSort Prod.fst context, rfl⟩

theorem isBlock_block {verbosity : Verbosity} (h : verbosity ≠ .quiet) (v : Violation) :
    IsBlock v verbosity (block verbosity v) := by
  obtain ⟨rule, severity, message, remediation, context⟩ := v
  have hword := shouts_loudLabel severity
  have hvalues := areValues_inNameOrder context
  have hfix (s : String) :
      IsLineOf "    fix: " "" (some s) (if s = "" then [] else ["    fix: " ++ s]) := by
    simpa using isLineOf_ite "    fix: " "" s
  cases verbosity with
  | quiet => exact absurd rfl h
  | normal =>
    cases remediation with
    | none => exact .normal hword .absent
    | some s =>
      dsimp only [block]
      rw [List.append_nil]
      exact .normal hword (hfix s)
  | verbose =>
    cases remediation with
    | none => exact .verbose hword .absent hvalues
    | some s => exact .verbose hword (hfix s) hvalues

theorem isQuotation_quotation (v : Violation) :
    ∃ lines, IsQuotation v lines ∧ quotation v = lines.map String.toList := by
  obtain ⟨rule, severity, message, remediation, context⟩ := v
  have hword := shouts_loudLabel severity
  cases remediation with
  | none =>
    refine ⟨_, .quoted hword .absent, ?_⟩
    simp [quotation, ticked]
  | some s =>
    refine ⟨_, .quoted hword (isLineOf_ite "> *" "*" s), ?_⟩
    simp [quotation, ticked, apply_ite (List.map String.toList)]

theorem forall₂_blocks {verbosity : Verbosity} (h : verbosity ≠ .quiet) (vs : List Violation) :
    List.Forall₂ (fun v lines => IsBlock v verbosity lines) vs (vs.map (block verbosity)) := by
  rw [List.forall₂_map_right_iff, List.forall₂_same]
  exact fun v _ => isBlock_block h v

theorem exists_quotations (vs : List Violation) :
    ∃ quotes, List.Forall₂ IsQuotation vs quotes ∧
      vs.flatMap (fun v => quotation v ++ [[]]) =
        quotes.flatMap fun lines => lines.map String.toList ++ [[]] := by
  induction vs with
  | nil => exact ⟨[], .nil, rfl⟩
  | cons v vs ih =>
    obtain ⟨lines, hlines, hquotation⟩ := isQuotation_quotation v
    obtain ⟨quotes, hquotes, hquotations⟩ := ih
    refine ⟨lines :: quotes, .cons hlines hquotes, ?_⟩
    rw [List.flatMap_cons, List.flatMap_cons, hquotation, hquotations]

/-! ### The text -/

/-- The lines before the summary: the verbose form tells the tool, the policy file if it is known, and the
    threshold. -/
inductive IsFront (r : Report) : Verbosity → List String → Prop where
  | normal : IsFront r .normal []
  | verbose {path : List String} (hpath : IsLineOf "config: " "" r.configPath path) :
      IsFront r .verbose ((r.tool ++ " " ++ r.version) :: (path ++ ["fail_on: " ++ toldSeverity r.threshold, ""]))

/-- A text in one of the three forms: the quiet one is the summary, with which the normal one begins,
    and all others hold a block for every violation, in order. -/
structure IsText (r : Report) (line : List Char) (verbosity : Verbosity) (text : List Char) : Prop where
  closed : IsClosed text
  quiet : verbosity = .quiet → text = line ++ ['\n']
  first : verbosity = .normal → line ++ ['\n'] <+: text
  whole : verbosity ≠ .quiet → ∃ front blocks, r.IsFront verbosity front ∧
    List.Forall₂ (fun v lines => IsBlock v verbosity lines) r.violations blocks ∧
    HoldsLines (front.map String.toList ++ [line, []] ++ blocks.flatten.map String.toList) text

/-- The lines of the text: those before the summary, the summary and a block for each violation. -/
def textLines (r : Report) (line : List Char) (verbosity : Verbosity) : List (List Char) :=
  (r.preamble verbosity).map String.toList ++ [line, []]
    ++ (r.violations.map (block verbosity)).flatten.map String.toList

theorem isLineOf_shownPath (front back : String) (r : Report) :
    IsLineOf front back r.configPath (r.shownPath?.toList.map fun path => front ++ path ++ back) := by
  unfold shownPath?
  cases r.configPath with
  | none => exact .absent
  | some path =>
    by_cases hpath : path = ""
    · subst hpath
      exact .empty
    · simpa [Option.filter, hpath] using IsLineOf.told hpath

theorem isFront_preamble {verbosity : Verbosity} (h : verbosity ≠ .quiet) (r : Report) :
    r.IsFront verbosity (r.preamble verbosity) := by
  cases verbosity with
  | quiet => exact absurd rfl h
  | normal => exact .normal
  | verbose => exact .verbose (by simpa using isLineOf_shownPath "config: " "" r)

theorem textWith_of_ne_quiet {verbosity : Verbosity} (h : verbosity ≠ .quiet) (r : Report) (status : Status) :
    r.textWith status verbosity =
      trimBack (joinWith ['\n'] (r.textLines (r.summaryLine status).toList verbosity)) ++ ['\n'] := by
  cases verbosity with
  | quiet => exact absurd rfl h
  | normal => simp [textWith, joinLines, textLines, List.flatMap_def]
  | verbose => simp [textWith, joinLines, textLines, List.flatMap_def]

theorem isText_textWith (r : Report) (status : Status) (verbosity : Verbosity) :
    r.IsText (r.summaryLine status).toList verbosity (r.textWith status verbosity) := by
  -- the summary ends with a solid character, so no trimming reaches into it
  obtain ⟨front, c, hline, hsolid⟩ := r.summaryLine_last status
  have hmem : (r.summaryLine status).toList ∈ r.textLines (r.summaryLine status).toList verbosity := by
    simp [textLines]
  refine ⟨?_, ?_, ?_, ?_⟩
  · by_cases hquiet : verbosity = .quiet
    · subst hquiet
      exact ⟨front, c, by rw [textWith_quiet, hline, List.append_assoc]; rfl, hsolid⟩
    · rw [textWith_of_ne_quiet hquiet]
      exact isClosed_trimBack (mem_joinWith_of_mem hmem (by simp [hline])) hsolid
  · rintro rfl
    exact textWith_quiet status r
  · rintro rfl
    have hlines : r.textLines (r.summaryLine status).toList .normal = (r.summaryLine status).toList :: [] ::
        (r.violations.map (block .normal)).flatten.map String.toList := rfl
    rw [textWith_of_ne_quiet (by decide), hlines, joinWith_cons (by simp), List.append_assoc, List.singleton_append]
    apply feed_prefix_trimBack
    intro d hd
    rw [hline, List.getLast?_concat] at hd
    rwa [← Option.some.inj hd]
  · intro hquiet
    refine ⟨_, _, isFront_preamble hquiet r, forall₂_blocks hquiet r.violations, ?_⟩
    rw [textWith_of_ne_quiet hquiet]
    exact holdsLines_trimBack (List.ne_nil_of_mem hmem)

/-! ### The comment -/

/-- A severity as it heads a row of the table. -/
def headedSeverity : Severity → String
  | .warn => "Warn"
  | .error => "Error"

/-- The lines of the comment that count: without violations they say so, else they give the total and
    a table that reads back to the tally. -/
inductive CountLines (r : Report) (tally : List (Severity × Nat)) : List (List Char) → Prop
  | clear (h : r.violations = []) : CountLines r tally ["No policy violations. 🎉".toList, []]
  | found {table : List Char} {rule : Table.Row} (h : r.violations ≠ [])
      (hcells : (splitAt (· = '\n') table).map Table.cellsOf =
        ["Severity".toList, "Count".toList] :: rule ::
          tally.map fun p => [(headedSeverity p.1).toList, (toString p.2).toList]) :
      CountLines r tally
        [("#### Violations (" ++ toString r.violations.length ++ " total)").toList, [], table, []]

/-- The lines that announce what is not shown: none when all is. -/
inductive Announces (total shown : Nat) : List (List Char) → Prop
  | all (h : shown = total) : Announces total shown []
  | rest {k : Nat} (hk : 0 < k) (h : shown + k = total) :
      Announces total shown [("*… and " ++ toString k ++ " more.*").toList, []]

def footerLines (r : Report) : List (List Char) :=
  ["---".toList, ("*Generated by policygate v" ++ r.version ++ "*").toList]

/-- The lines of the header: the marker, a heading, and one line for the status, the threshold and the
    policy file if it is known. -/
inductive IsHeader (r : Report) (status : Status) : List String → Prop where
  | header {path : List String} (hpath : IsLineOf "**Config:** `" "`" r.configPath path) :
      IsHeader r status ["<!-- repo-policy-gate -->", "### 🛡 Repo Policy Gate", "",
        String.intercalate " | " (("**Status:** " ++ status.emblem) ::
          ("**Fail on:** `" ++ toldSeverity r.threshold ++ "`") :: path), ""]

/-- A comment that begins with the marker, counts all violations, quotes those that are shown, in order and
    with an empty line after each, and announces the rest. -/
structure IsComment (r : Report) (status : Status) (tally : List (Severity × Nat)) (shown : List Violation)
    (text : List Char) : Prop where
  marked : commentMarker.toList <+: text
  whole : ∃ header counting quotes announcing, r.IsHeader status header ∧ r.CountLines tally counting ∧
    List.Forall₂ IsQuotation shown quotes ∧ Announces r.violations.length shown.length announcing ∧
      text = ended (header.map String.toList ++ counting
        ++ quotes.flatMap (fun lines => lines.map String.toList ++ [[]]) ++ announcing ++ r.footerLines)

theorem ticked_append (front s : String) : front ++ ticked s = front ++ "`" ++ s ++ "`" := by
  simp [ticked, String.append_assoc]

theorem isHeader_header (r : Report) (status : Status) : ∃ lines, r.IsHeader status lines ∧
    commentMarker.toList :: r.headerRest status = lines.map String.toList := by
  refine ⟨_, .header (isLineOf_shownPath "**Config:** `" "`" r), ?_⟩
  unfold headerRest
  simp only [ticked_append]
  rfl

theorem isPlain_headedSeverity (s : Severity) : Table.IsPlain (headedSeverity s).toList := by
  cases s <;> exact ⟨by decide, by decide, by decide⟩

theorem isPlain_numeral (n : Nat) : Table.IsPlain (toString n).toList where
  bars := fun hbar => absurd (toNat_of_mem_numeral hbar).2 (by decide)
  feeds := fun hfeed => absurd (toNat_of_mem_numeral hfeed).1 (by decide)
  trimmed := (solid_numeral n).trim_eq

theorem cells_countTable (r : Report) : ∃ rule, (splitAt (· = '\n') r.countTable).map Table.cellsOf =
    ["Severity".toList, "Count".toList] :: rule ::
      r.counts.map fun p => [(headedSeverity p.1).toList, (toString p.2).toList] := by
  refine ⟨_, Table.cells_layout (by simp) ?_ ?_ ?_⟩
  · rw [List.forall_mem_map]
    exact fun p _ => ⟨by simp, Nat.le_refl 2⟩
  · simp only [List.forall_mem_cons, List.not_mem_nil, false_implies, implies_true, and_true]
    exact ⟨⟨by decide, by decide, by decide⟩, ⟨by decide, by decide, by decide⟩⟩
  · rw [List.forall_mem_map]
    intro p _
    simp only [List.forall_mem_cons, List.not_mem_nil, false_implies, implies_true, and_true]
    exact ⟨isPlain_headedSeverity p.1, isPlain_numeral p.2⟩

/-- The lines of the comment that count the violations. -/
def countingLines (r : Report) : List (List Char) :=
  if r.violations = [] then ["No policy violations. 🎉".toList, []]
  else [("#### Violations (" ++ toString r.violations.length ++ " total)").toList, [], r.countTable, []]

theorem countLines_countingLines (r : Report) : r.CountLines r.counts r.countingLines := by
  unfold countingLines
  split
  · rename_i hnil
    exact .clear hnil
  · rename_i hne
    obtain ⟨rule, hcells⟩ := r.cells_countTable
    exact .found hne hcells

theorem announces_cutLines {total shown : Nat} (h : shown ≤ total) :
    Announces total shown (cutLines (total - shown)) := by
  unfold cutLines
  split
  · exact .all (by omega)
  · exact .rest (by omega) (by omega)

/-- The lines that quote the violations before a limit and announce the rest. -/
def quotingLines (limit : Int) (r : Report) : List (List Char) :=
  (limited limit r.violations).flatMap (fun v => quotation v ++ [[]])
    ++ cutLines (r.violations.length - (limited limit r.violations).length)

theorem commentLines_ne_nil {ls : List (List Char)} {l : List Char} {c : Char} (hl : l ∈ ls) (hc : c ∈ l) :
    commentLines ls ≠ [] :=
  List.ne_nil_of_mem (mem_joinWith_of_mem hl hc)

theorem summary_eq (r : Report) : r.summary = commentLines r.countingLines := by
  by_cases hnil : r.violations = []
  · rw [summary, countingLines, hnil]
    rfl
  · rw [summary, countingLines, if_neg (by simpa using hnil), if_neg hnil]

theorem summary_ne_nil (r : Report) : commentLines r.countingLines ≠ [] := by
  unfold countingLines
  split
  · exact commentLines_ne_nil List.mem_cons_self (show 'N' ∈ _ by decide)
  · exact commentLines_ne_nil List.mem_cons_self (show '#' ∈ _ by simp)

theorem quotingLines_of_nil (h : r.violations = []) (limit : Int) : quotingLines limit r = [] := by
  have hnone : limited limit ([] : List Violation) = [] := by simp [limited]
  rw [quotingLines, h, hnone]
  rfl

theorem quotations_eq (limit : Int) (r : Report) : quotations limit r = commentLines (quotingLines limit r) := by
  by_cases hnil : r.violations = []
  · rw [quotingLines_of_nil hnil, quotations, hnil]
    rfl
  · rw [quotations, if_neg (by simpa using hnil)]
    rfl

/-- With violations there is something to quote or something to announce. -/
theorem quotations_ne_nil (h : r.violations ≠ []) (limit : Int) : commentLines (quotingLines limit r) ≠ [] := by
  unfold quotingLines
  cases hshown : limited limit r.violations with
  | nil =>
    have hcut : r.violations.length ≠ 0 := by simpa using h
    have hlines : cutLines (r.violations.length - ([] : List Violation).length) =
        [("*… and " ++ toString r.violations.length ++ " more.*").toList, []] := if_neg hcut
    rw [hlines]
    exact commentLines_ne_nil List.mem_cons_self (show '*' ∈ _ by simp)
  | cons v vs =>
    exact commentLines_ne_nil List.mem_cons_self (show '>' ∈ _ by simp)

theorem footer_eq (r : Report) : r.footer = commentLines r.footerLines := by
  simp [footer, footerLines, commentLines, joinWith]

/-- The lines of the comment, section by section. -/
def sections (status : Status) (limit : Int) (r : Report) : List (List (List Char)) :=
  [commentMarker.toList :: r.headerRest status, r.countingLines, quotingLines limit r, r.footerLines]

/-- Only the section of the quotations may be empty, and then it has no lines. -/
theorem eq_nil_of_section (status : Status) (limit : Int) (r : Report) :
    ∀ s ∈ sections status limit r, commentLines s = [] → s = [] := by
  simp only [sections, List.forall_mem_cons, List.not_mem_nil, false_implies, implies_true, and_true]
  refine ⟨?_, ?_, ?_, ?_⟩
  · exact fun hnil => absurd hnil (commentLines_ne_nil List.mem_cons_self (show '<' ∈ _ by decide))
  · exact fun hnil => absurd hnil r.summary_ne_nil
  · intro hempty
    by_contra hlines
    exact quotations_ne_nil (fun hnil => hlines (quotingLines_of_nil hnil limit)) limit hempty
  · exact fun hnil => absurd hnil (commentLines_ne_nil List.mem_cons_self (show '-' ∈ _ by decide))

theorem commentWith_eq (status : Status) (limit : Int) (r : Report) :
    commentWith status limit r = ended (sections status limit r).flatten := by
  have hsections : [r.header status, r.summary, quotations limit r, r.footer] =
      (sections status limit r).map commentLines := by
    rw [summary_eq, quotations_eq, footer_eq]
    rfl
  rw [commentWith, hsections]
  exact joinWith_sections (eq_nil_of_section status limit r) (List.cons_ne_nil _ _)

theorem isComment_commentWith (status : Status) (limit : Int) (r : Report) :
    r.IsComment status r.counts (limited limit r.violations) (commentWith status limit r) := by
  obtain ⟨header, hheader, hmarked⟩ := r.isHeader_header status
  obtain ⟨quotes, hquotes, hquoted⟩ := exists_quotations (limited limit r.violations)
  have hlines : (sections status limit r).flatten = commentMarker.toList :: r.headerRest status ++ r.countingLines
      ++ (limited limit r.violations).flatMap (fun v => quotation v ++ [[]])
      ++ cutLines (r.violations.length - (limited limit r.violations).length) ++ r.footerLines := by
    simp [sections, quotingLines]
  refine ⟨?_, header, _, quotes, _, hheader, r.countLines_countingLines, hquotes,
    announces_cutLines (limited_length_le limit r.violations), ?_⟩
  · rw [commentWith_eq, hlines]
    exact List.prefix_append _ _
  · rw [commentWith_eq, hlines, hmarked, hquoted]

/-! ### All forms -/

theorem status?_of_label (h : r.status = status.label) : r.status? = .ok status := by
  rw [status?, h, Status.ofLabel?_label]

/-- Only a value that the verbose form tells of can keep a text from being shown. -/
theorem checkedText_cases {verbosity : Verbosity} {text : String} (h : r.toText verbosity = .ok text) :
    r.checkedText verbosity = .ok text ∨ verbosity = .verbose ∧ ∃ t, r.checkedText verbosity = .error (.value t) := by
  cases hfault : (r.toldValues verbosity).findSome? fun x => (Datum.ofJson x).fault? with
  | none =>
    refine .inl ?_
    rw [Report.checkedText, h, hfault]
    rfl
  | some t =>
    refine .inr ⟨?_, t, by rw [Report.checkedText, h, hfault]; rfl⟩
    cases verbosity with
    | verbose => rfl
    | quiet => cases hfault
    | normal => cases hfault

/-- **Every violation is accounted for.**  A report with a status that can be shown has one tally of its
    violations and one summary line that tells it.

    1. It has a text in each form, which is shown unless that is the verbose form and a value that it
       tells of has no text.  The text is closed by a single line feed that no blank stands before.  The
       quiet one is the summary line, which is the first line of the normal one; the others hold the
       block of every violation in order, whole but for blanks at the very end.
    2. It is always shown as a comment, which begins with the marker and reads back to the tally.
       Whatever the limit, the comment quotes the violations before it, in order, and announces how many
       it has left out if there are any. -/
theorem accounts_for_violations {r : Report} {status : Status} (h : r.status = status.label) :
    ∃ tally line, IsTally r.violations tally ∧ r.IsSummary status tally line ∧
      (∀ verbosity, ∃ text, r.toText verbosity = .ok text ∧
        (r.checkedText verbosity = .ok text ∨
          verbosity = .verbose ∧ ∃ t, r.checkedText verbosity = .error (.value t)) ∧
        r.IsText line verbosity text.toList) ∧
      ∀ limit, ∃ text shown, r.toComment limit = .ok text ∧ r.checkedComment limit = .ok text ∧
        IsSlice limit r.violations shown ∧ r.IsComment status tally shown text.toList := by
  have hstatus := status?_of_label h
  refine ⟨r.counts, (r.summaryLine status).toList, r.isTally_counts, isSummary_summaryLine h, ?_, ?_⟩
  · intro verbosity
    have htext : r.toText verbosity = .ok (String.ofList (r.textWith status verbosity)) := by
      rw [toText, hstatus]
      rfl
    refine ⟨_, htext, checkedText_cases htext, ?_⟩
    rw [String.toList_ofList]
    exact r.isText_textWith status verbosity
  · intro limit
    have hcomment : r.toComment limit = .ok (String.ofList (commentWith status limit r)) := by
      rw [toComment, hstatus]
      rfl
    refine ⟨_, _, hcomment, checkedComment_eq hstatus limit, isSlice_limited limit r.violations, ?_⟩
    rw [String.toList_ofList]
    exact isComment_commentWith status limit r

/-- A report of a warning and two errors, of which the last has blanks at its end. -/
def mixedReport : Report where
  tool := "policygate"
  version := "1.0.0"
  status := "fail"
  failing := true
  threshold := .error
  violations := [⟨"branch", .warn, "No such branch.", none, []⟩, ⟨"title", .error, "Bad title.", some "Mend it.", []⟩,
    ⟨"files", .error, "Files missing.  ", none, [("paths", .list [.text "LICENSE"])]⟩]

/-- The lines of its text: the blanks at the very end are trimmed. -/
def mixedText : List String :=
  ["✗ 3 violations (2 error, 1 warn) [fail, failing]", "",
    "  ✗ WARN [branch]", "    No such branch.",
    "  ✗ ERROR [title]", "    Bad title.", "    fix: Mend it.",
    "  ✗ ERROR [files]", "    Files missing."]

/-- The lines of its verbose text, in which the blanks are followed by a value. -/
def mixedDetails : List String :=
  ["policygate 1.0.0", "fail_on: error", "",
    "✗ 3 violations (2 error, 1 warn) [fail, failing]", "",
    "  ✗ WARN [branch]", "    No such branch.",
    "  ✗ ERROR [title]", "    Bad title.", "    fix: Mend it.",
    "  ✗ ERROR [files]", "    Files missing.  ", "    paths: ['LICENSE']"]

/-- The lines of its comment when the limit leaves out the last violation. -/
def mixedComment : List String :=
  ["<!-- repo-policy-gate -->", "### 🛡 Repo Policy Gate", "", "**Status:** ❌ Fail | **Fail on:** `error`", "",
    "#### Violations (3 total)", "",
    "| Severity | Count |", "|----------|-------|", "| Error    | 2     |", "| Warn     | 1     |", "",
    "> **WARN** `branch`", "> No such branch.", "",
    "> **ERROR** `title`", "> Bad title.", "> *Mend it.*", "",
    "*… and 1 more.*", "", "---", "*Generated by policygate v1.0.0*"]

/-- The text with these lines. -/
def inLines (ls : List String) : String := String.ofList (ended (ls.map String.toList))

set_option maxRecDepth 4000 in
theorem accounts_for_violations_mixedReport : mixedReport.status = Status.fail.label ∧
    mixedReport.toText .quiet = .ok "✗ 3 violations (2 error, 1 warn) [fail, failing]\n" ∧
      mixedReport.toText .normal = .ok (inLines mixedText) ∧
      mixedReport.toText .verbose = .ok (inLines mixedDetails) ∧
      mixedReport.toComment (-1) = .ok (inLines mixedComment) ∧
        ∃ tally line, IsTally mixedReport.violations tally ∧ mixedReport.IsSummary .fail tally line ∧
          mixedReport.IsText line .normal (inLines mixedText).toList ∧
          mixedReport.IsText line .verbose (inLines mixedDetails).toList ∧
          ∃ shown, shown.map Violation.rule = ["branch", "title"] ∧ IsSlice (-1) mixedReport.violations shown ∧
            mixedReport.IsComment .fail tally shown (inLines mixedComment).toList := by
  have hstatus : mixedReport.status = Status.fail.label := rfl
  have hnormal : mixedReport.toText .normal = .ok (inLines mixedText) := by cbv
  have hverbose : mixedReport.toText .verbose = .ok (inLines mixedDetails) := by cbv
  have hlimited : mixedReport.toComment (-1) = .ok (inLines mixedComment) := by cbv
  obtain ⟨tally, line, htally, hline, htexts, hcomments⟩ := accounts_for_violations hstatus
  obtain ⟨text, htext, -, htells⟩ := htexts .normal
  obtain ⟨details, hdetails, -, hdetailed⟩ := htexts .verbose
  obtain ⟨comment, shown, hcomment, -, hslice, hquotes⟩ := hcomments (-1)
  obtain rfl : text = inLines mixedText := Except.ok.inj (htext.symm.trans hnormal)
  obtain rfl : details = inLines mixedDetails := Except.ok.inj (hdetails.symm.trans hverbose)
  obtain rfl : comment = inLines mixedComment := Except.ok.inj (hcomment.symm.trans hlimited)
  refine ⟨hstatus, rfl, hnormal, hverbose, hlimited, tally, line, htally, hline, htells, hdetailed, shown, ?_,
    hslice, hquotes⟩
  -- a front part of two out of three violations
  have hshown : shown = mixedReport.violations.take shown.length := List.prefix_iff_eq_take.mp hslice.front
  have htwo : shown.length = 2 := Int.ofNat.inj hslice.length
  rw [hshown, htwo]
  rfl

end Report

end MergeGate
