import Mathlib.Data.List.Forall2
import MergeGate.Proofs.Range.Sizes
import MergeGate.Proofs.Version.Complete

/-
  MergeGate/Proofs/Range/Printing.lean
  ====================================
  **Ranges written out and read again.**  A compiled range is written with its bounds, each a sign
  and a full version, so it is read again in one way only: each bound as a simple that stands for
  it alone (`Alternative.read_text`).  No bound is a hyphen, so none of the alternatives is taken
  for a hyphen range.

  Reading fails in one case.  Where a number of a bound is one higher than the one written, it may
  have a digit too many (`Partial.read?_text`).  Apart from that a range comes back with the same
  alternatives (`Range.parse_text_iff`).
-/

namespace MergeGate

open MergeGate.Text MergeGate.Version

/-! ### Versions of bounds -/

/-- A version whose identifiers a range may hold. -/
structure Version.IsWritable (v : Version) : Prop where
  pre : ∀ i ∈ v.pre, isRangePreIdentifier i = true
  build : ∀ i ∈ v.build, isBuildIdentifier i = true

theorem Version.lowest_isWritable (a b c : Nat) : (Version.lowest a b c).IsWritable where
  pre := by
    rw [Version.lowest, List.forall_mem_singleton]
    decide
  build := by simp [Version.lowest]

theorem Partial.limits_isWritable (p : Partial) : ∀ v ∈ p.limits, v.IsWritable := by
  cases p <;> simp [Partial.limits, Version.lowest_isWritable]

theorem WritesMarked.allowed {mark : Char} {isAllowed : Identifier → Bool} {t : List Char}
    {is : List Identifier} (h : WritesMarked mark isAllowed t is) :
    ∀ i ∈ is, isAllowed i = true := by
  rcases h with ⟨rfl, -⟩ | ⟨-, his, -⟩
  · simp
  · exact his

theorem Partial.ofNumbers_isWritable {pre build : List Identifier}
    (hpre : ∀ i ∈ pre, isRangePreIdentifier i = true)
    (hbuild : ∀ i ∈ build, isBuildIdentifier i = true) (a b c : Option Nat) :
    (Partial.ofNumbers pre build a b c).floor.IsWritable := by
  cases a with
  | none => exact Version.lowest_isWritable 0 0 0
  | some m =>
    cases b with
    | none => exact Version.lowest_isWritable m 0 0
    | some n =>
      cases c with
      | none => exact Version.lowest_isWritable m n 0
      | some q => exact ⟨hpre, hbuild⟩

theorem WritesNumbers.floor_isWritable {t : List Char} {p : Partial} (h : WritesNumbers t p) :
    p.floor.IsWritable := by
  cases h with
  | one _ => exact Partial.ofNumbers_isWritable (by simp) (by simp) _ _ _
  | two _ _ => exact Partial.ofNumbers_isWritable (by simp) (by simp) _ _ _
  | three _ _ _ hm =>
    obtain ⟨t₁, t₂, hpre, hbuild, -⟩ := hm
    exact Partial.ofNumbers_isWritable hpre.allowed hbuild.allowed _ _ _

theorem WritesPartial.bounds_isWritable {t : List Char} {p : Partial} (h : WritesPartial t p)
    {s : Sign} {b : Bound} (hb : b ∈ p.bounds s) : b.version.IsWritable := by
  rcases Partial.version_of_mem_bounds hb with hfloor | hlimit
  · rw [hfloor]
    rcases h with h | ⟨u, -, h⟩
    · exact h.floor_isWritable
    · exact h.floor_isWritable
  · exact p.limits_isWritable _ hlimit

/-! ### Numbers and versions -/

/-- Whether the numbers of a version have at most `maxDigits` digits. -/
def Version.IsWithin (v : Version) : Prop := ∀ n ∈ v.numbers, n < numberCap

instance (v : Version) : Decidable v.IsWithin :=
  inferInstanceAs (Decidable (∀ n ∈ v.numbers, n < numberCap))

theorem Version.IsShort.isWithin_iff {v : Version} (h : v.IsShort) :
    v.IsWithin ↔ numberCap ∉ v.numbers := by
  have hle : ∀ n ∈ v.numbers, n ≤ numberCap := by
    simp only [Version.numbers, List.forall_mem_cons]
    exact ⟨h.major, h.minor, h.patch, List.forall_mem_nil _⟩
  constructor
  · intro hwithin hmem
    exact Nat.lt_irrefl _ (hwithin _ hmem)
  · intro hnot n hn
    apply Nat.lt_of_le_of_ne (hle n hn)
    rintro rfl
    exact hnot hn

/-- The numeral of a number is read again unless it has too many digits. -/
theorem readNumber?_numeral (n : Nat) {rest : List Char}
    (hrest : ∀ c ∈ rest.head?, isDigit c = false) :
    readNumber? (numeral n ++ rest) = if n < numberCap then some (some n, rest) else none := by
  rcases numeral_first n with hzero | ⟨c, ds, hfirst, hc⟩
  · obtain rfl := eq_zero_of_numeral hzero
    rfl
  · have hdigits : ∀ d ∈ c :: ds, isAsciiDigit d = true := by
      intro d hd
      rw [← hfirst] at hd
      exact isAsciiDigit_of_mem_numeral hd
    have hspan : (ds ++ rest).span isDigit = (ds, rest) :=
      span_append (fun d hd => isDigit_of_isAsciiDigit (hdigits d (by simp [hd]))) hrest
    have hwild : ¬ ((c = 'x' ∨ c = 'X') ∨ c = '*') :=
      fun hwild => (isAsciiDigit_apart (hdigits c (by simp))).1 (or_assoc.mp hwild)
    have hlength : ds.length < maxDigits ↔ n < numberCap := by
      have hle := @numeral_length_le_iff n maxDigits (by decide)
      rwa [hfirst] at hle
    have hvalue := numeralValue_numeral n
    rw [hfirst] at hvalue
    simp only [hfirst, List.cons_append, readNumber?_cons, Bool.or_eq_true, decide_eq_true_eq, hwild, hc,
      hdigits c (by simp), if_true, if_false, hspan, hlength, hvalue]

/-- The text of a version is read as the version unless a number has too many digits. -/
theorem Partial.read?_text {v : Version} (hv : v.IsWritable) :
    Partial.read? v.text = if v.IsWithin then some (.full v) else none := by
  have hpoint : ∀ rest, ∀ c ∈ ('.' :: rest).head?, isDigit c = false :=
    fun rest => first_cons (by decide) rest
  have hend : ∀ c ∈ (marked '-' v.preText? ++ marked '+' v.buildText?).head?,
      isDigit c = false := by
    intro c hc
    rcases v.first_marks c hc with rfl | rfl <;> decide
  have hmarks : readMarks? isRangePreIdentifier isBuildIdentifier
      (marked '-' v.preText? ++ marked '+' v.buildText?) = some (v.pre, v.build) :=
    readMarks?_complete (fun _ => isWordChar_of_rangePre)
      ((writesMarked_iff _ _ _ _).mpr ⟨hv.pre, rfl⟩)
      ((writesMarked_iff _ _ _ _).mpr ⟨hv.build, rfl⟩)
  have hdrop : dropV v.text = v.text := by
    obtain ⟨c, cs, htext, hc⟩ := v.text_first
    rw [htext]
    unfold dropV
    split
    · rename_i hcs
      exact absurd (List.cons.inj hcs).1 (isAsciiDigit_apart hc).2.1
    · rfl
  have hwithin : v.IsWithin ↔ v.major < numberCap ∧ v.minor < numberCap ∧ v.patch < numberCap := by
    simp [Version.IsWithin, Version.numbers]
  rw [Partial.read?_eq]
  rw [hdrop, Version.text_eq, readNumber?_numeral _ (hpoint _)]
  by_cases hmajor : v.major < numberCap
  · simp only [hmajor, if_true]
    rw [readNumber?_numeral _ (hpoint _)]
    by_cases hminor : v.minor < numberCap
    · simp only [hminor, if_true]
      rw [readNumber?_numeral _ hend]
      by_cases hpatch : v.patch < numberCap
      · simp only [hpatch, if_true, hmarks, Option.map_some]
        rw [if_pos (hwithin.mpr ⟨hmajor, hminor, hpatch⟩)]
        rfl
      · rw [if_neg hpatch, if_neg fun h => hpatch (hwithin.mp h).2.2]
    · rw [if_neg hminor, if_neg fun h => hminor (hwithin.mp h).2.1]
  · rw [if_neg hmajor, if_neg fun h => hmajor (hwithin.mp h).1]

/-! ### Bounds -/

/-- The sign that stands for a relation before a full version. -/
def Relation.toSign : Relation → Sign
  | .lt => .below
  | .le => .atMost
  | .gt => .above
  | .ge => .atLeast
  | .eq => .exact

/-- A bound as an author writes it. -/
def Bound.simple (b : Bound) : Sign × Partial := (b.relation.toSign, .full b.version)

theorem Bound.bounds_simple (b : Bound) : b.simple.2.bounds b.simple.1 = [b] := by
  obtain ⟨relation, v⟩ := b
  cases relation <;> rfl

theorem Relation.writesSign (r : Relation) : WritesSign r.sign r.toSign := by
  cases r with
  | lt => exact .below
  | le => exact .atMost Gap.nil
  | gt => exact .above
  | ge => exact .atLeast Gap.nil
  | eq => exact .exact

theorem Relation.sign_isSignChar (r : Relation) : ∀ c ∈ r.sign, isSignChar c = true := by
  cases r <;> simp [sign, isSignChar]

theorem Relation.sign_ne_nil (r : Relation) : r.sign ≠ [] := by
  cases r <;> simp [sign]

/-- Signs before a character other than a blank stay as they are. -/
theorem closeGaps_signs {o : List Char} (ho : ∀ d ∈ o, isSignChar d = true) {c : Char}
    (hc : isBlank c = false) (skipping : Bool) (cs : List Char) :
    closeGaps skipping (o ++ c :: cs) = o ++ closeGaps false (c :: cs) := by
  induction o generalizing skipping with
  | nil => rw [List.nil_append, closeGaps_cons _ hc, closeGaps_cons _ hc, List.nil_append]
  | cons d o ih =>
    have hd : isSignChar d = true := ho d (by simp)
    have htail := ih (fun x hx => ho x (by simp [hx])) (isSignChar d)
    rw [List.cons_append, closeGaps_cons _ (isBlank_of_isSignChar hd), htail, List.cons_append]

/-- A word that stays as it is between blanks, and is no hyphen. -/
structure IsTight (w : List Char) : Prop where
  solid : Solid w
  ne_nil : w ≠ []
  ne_hyphen : w ≠ ['-']
  closed : ∀ cs, closeGaps false (w ++ cs) = w ++ closeGaps false cs
  bar : '|' ∉ w

theorem isTight_asterisk : IsTight ['*'] where
  solid := by
    intro c hc
    rw [List.mem_singleton.mp hc]
    decide
  ne_nil := List.cons_ne_nil _ _
  ne_hyphen := by decide
  closed := by
    intro cs
    exact (closeGaps_cons false (by decide) cs).trans rfl
  bar := by decide

namespace Bound

variable {b : Bound} (hb : b.version.IsWritable)

include hb

theorem version_plain : ∀ c ∈ b.version.text, IsPlain c := by
  apply Version.text_plain
  · exact fun i hi => isWordChar_of_rangePre (hb.pre i hi)
  · exact fun i hi => isWordChar_of_build (hb.build i hi)

theorem text_isTight : IsTight b.text := by
  obtain ⟨c, ds, htext, hc⟩ := b.version.text_first
  have hplain := version_plain hb
  have hsign : Solid b.relation.sign :=
    fun d hd => isBlank_of_isSignChar (b.relation.sign_isSignChar d hd)
  have hversion : Solid b.version.text := fun d hd => (hplain d hd).1
  refine ⟨hsign.append hversion, ?_, ?_, ?_, ?_⟩
  · rw [text, htext]
    simp
  · intro hhyphen
    obtain ⟨d, hd⟩ := List.exists_mem_of_ne_nil _ b.relation.sign_ne_nil
    have hmem : d ∈ b.text := List.mem_append_left _ hd
    rw [hhyphen] at hmem
    have hchar := b.relation.sign_isSignChar d hd
    rw [List.mem_singleton.mp hmem] at hchar
    exact absurd hchar (by decide)
  -- no blanks stand after the sign, so closing gaps leaves the text as it is
  · intro cs
    calc closeGaps false (b.text ++ cs)
        = closeGaps false (b.relation.sign ++ c :: (ds ++ cs)) := by simp [text, htext]
      _ = b.relation.sign ++ closeGaps false (b.version.text ++ cs) := by
        rw [htext]
        exact closeGaps_signs b.relation.sign_isSignChar (isPlain_of_isAsciiDigit hc).1 false _
      _ = b.text ++ closeGaps false cs := by
        rw [closeGaps_plain hplain, text, List.append_assoc]
  · intro hmem
    rcases List.mem_append.mp hmem with hmem | hmem
    · exact absurd (b.relation.sign_isSignChar '|' hmem) (by decide)
    · exact not_mem_separator_of_plain (by decide) hplain hmem

/-- A bound is read as the simple that stands for it unless a number has too many digits. -/
theorem readSimple?_text :
    readSimple? b.text = if b.version.IsWithin then some b.simple else none := by
  obtain ⟨c, ds, htext, hc⟩ := b.version.text_first
  have hsolid : Solid b.relation.sign :=
    fun d hd => isBlank_of_isSignChar (b.relation.sign_isSignChar d hd)
  have hsign : readSign b.text = (b.relation.toSign, b.version.text) := by
    rw [text, htext]
    exact readSign_append b.relation.writesSign hsolid (isPlain_of_isAsciiDigit hc) ds
  rw [readSimple?_eq, hsign, Partial.read?_text hb]
  by_cases hwithin : b.version.IsWithin
  · rw [if_pos hwithin, if_pos hwithin]
    rfl
  · rw [if_neg hwithin, if_neg hwithin]
    rfl

end Bound

/-! ### Alternatives -/

section Tight

variable {ws : List (List Char)} (h : ∀ w ∈ ws, IsTight w)

include h

theorem words_joinWith : words (joinWith [' '] ws) = ws := by
  induction ws with
  | nil => rfl
  | cons w ws ih =>
    have hw : IsTight w := h w (by simp)
    by_cases hnil : ws = []
    · rw [hnil]
      exact words_solid hw.solid hw.ne_nil
    · have hopen : Open ([' '] ++ joinWith [' '] ws) := by
        intro c hc
        cases hc
        decide
      have htail := ih fun x hx => h x (by simp [hx])
      rw [joinWith_cons hnil, List.append_assoc, words_append hw.solid hw.ne_nil hopen,
        words_gap_append (gap_singleton (by decide)), htail]

theorem closeGaps_joinWith : closeGaps false (joinWith [' '] ws) = joinWith [' '] ws := by
  induction ws with
  | nil => rfl
  | cons w ws ih =>
    have hw : IsTight w := h w (by simp)
    by_cases hnil : ws = []
    · rw [hnil, joinWith]
      have hclosed := hw.closed []
      rwa [List.append_nil, closeGaps, List.append_nil] at hclosed
    · have htail := ih fun x hx => h x (by simp [hx])
      rw [joinWith_cons hnil, List.append_assoc, hw.closed,
        closeGaps_false_gap (gap_singleton (by decide)), htail]

theorem joinWith_ends : (∀ c ∈ (joinWith [' '] ws).head?, isBlank c = false) ∧
    ∀ c ∈ (joinWith [' '] ws).getLast?, isBlank c = false := by
  induction ws with
  | nil => simp [joinWith]
  | cons w ws ih =>
    have hw : IsTight w := h w (by simp)
    have hws : ∀ x ∈ ws, IsTight x := fun x hx => h x (by simp [hx])
    by_cases hnil : ws = []
    · rw [hnil, joinWith]
      exact ⟨fun c hc => hw.solid c (List.mem_of_mem_head? hc),
        fun c hc => hw.solid c (List.mem_of_mem_getLast? hc)⟩
    · have hrest : joinWith [' '] ws ≠ [] := by
        intro hempty
        have hwords := words_joinWith hws
        rw [hempty] at hwords
        exact hnil hwords.symm
      rw [joinWith_cons hnil]
      constructor
      · intro c hc
        rw [List.append_assoc, List.head?_append_of_ne_nil _ hw.ne_nil] at hc
        exact hw.solid c (List.mem_of_mem_head? hc)
      · intro c hc
        rw [List.getLast?_append_of_ne_nil _ hrest] at hc
        exact (ih hws).2 c hc

theorem trim_joinWith : trim (joinWith [' '] ws) = joinWith [' '] ws := by
  obtain ⟨hfirst, hlast⟩ := joinWith_ends h
  have htrim := trim_append Gap.nil Gap.nil hfirst hlast
  rwa [List.append_nil, List.nil_append] at htrim

/-- Tight words with blanks between are read one by one, and never as a hyphen range. -/
theorem Clause.read_joinWith {g g' : List Char} (hg : Gap g) (hg' : Gap g') :
    Clause.read (g ++ joinWith [' '] ws ++ g') = (readSimples ws).map Clause.all := by
  rw [Clause.read_between hg hg']
  rw [Clause.read_eq]
  rw [words_joinWith h]
  split
  · exact absurd rfl (h ['-'] (by simp)).ne_hyphen
  · rw [trim_joinWith h, closeGaps_joinWith h, words_joinWith h]
    cases readSimples ws <;> rfl

end Tight

namespace Alternative

/-- The words of an alternative as it is written out. -/
def printed (a : Alternative) : List (List Char) :=
  if a.isEmpty then [['*']] else a.map Bound.text

/-- The simples that the words of an alternative stand for. -/
def simples (a : Alternative) : List (Sign × Partial) :=
  if a.isEmpty then [(.exact, .any)] else a.map Bound.simple

/-- Whether no number in the bounds has too many digits. -/
def IsWithin (a : Alternative) : Prop := ∀ b ∈ a, b.version.IsWithin

theorem text_eq (a : Alternative) : a.text = joinWith [' '] a.printed := by
  unfold text printed
  cases a.isEmpty <;> rfl

theorem bounds_simples (a : Alternative) : (Clause.all a.simples).bounds = a := by
  cases a with
  | nil => rfl
  | cons b a =>
    have hbounds : ∀ bs : List Bound, (Clause.all (bs.map Bound.simple)).bounds = bs := by
      intro bs
      induction bs with
      | nil => rfl
      | cons b bs ih => rw [List.map_cons, Clause.bounds_all_cons, b.bounds_simple, ih]; rfl
    exact hbounds (b :: a)

variable {a : Alternative} (ha : ∀ b ∈ a, b.version.IsWritable)

include ha

theorem printed_isTight : ∀ w ∈ a.printed, IsTight w := by
  intro w hw
  cases a with
  | nil =>
    rw [List.mem_singleton.mp hw]
    exact isTight_asterisk
  | cons b a =>
    obtain ⟨b', hb', rfl⟩ := List.mem_map.mp hw
    exact Bound.text_isTight (ha b' hb')

theorem readSimples_text (ss : List (Sign × Partial)) :
    readSimples (a.map Bound.text) = .ok ss ↔ a.IsWithin ∧ ss = a.map Bound.simple := by
  induction a generalizing ss with
  | nil =>
    constructor
    · intro h
      cases h
      exact ⟨by simp [IsWithin], rfl⟩
    · rintro ⟨-, rfl⟩
      rfl
  | cons b a ih =>
    have hb := Bound.readSimple?_text (ha b (by simp))
    have htail := ih fun x hx => ha x (by simp [hx])
    have hwithin : IsWithin (b :: a) ↔ b.version.IsWithin ∧ IsWithin a := List.forall_mem_cons
    rw [List.map_cons, List.map_cons, readSimples_cons, hb, hwithin]
    by_cases hfirst : b.version.IsWithin
    · rw [if_pos hfirst]
      constructor
      · intro h
        split at h
        · cases h
        · rename_i s hs
          split at h
          · cases h
          · rename_i ss' hss'
            cases h
            obtain ⟨hrest, rfl⟩ := (htail ss').mp hss'
            cases hs
            exact ⟨⟨hfirst, hrest⟩, rfl⟩
      · rintro ⟨⟨-, hrest⟩, rfl⟩
        simp only [(htail _).mpr ⟨hrest, rfl⟩]
    · rw [if_neg hfirst]
      simp only [hfirst, false_and, iff_false]
      exact fun h => by cases h

/-- The words are read as the simples unless a number has too many digits. -/
theorem readSimples_printed (ss : List (Sign × Partial)) :
    readSimples a.printed = .ok ss ↔ a.IsWithin ∧ ss = a.simples := by
  cases a with
  | nil =>
    constructor
    · intro h
      cases h
      exact ⟨by simp [IsWithin], rfl⟩
    · rintro ⟨-, rfl⟩
      rfl
  | cons b a => exact readSimples_text ha ss

/-- An alternative is read again as a row of simples that stand for its bounds. -/
theorem read_text {g g' : List Char} (hg : Gap g) (hg' : Gap g') (c : Clause) :
    Clause.read (g ++ a.text ++ g') = .ok c ↔ a.IsWithin ∧ c = .all a.simples := by
  rw [text_eq, Clause.read_joinWith (printed_isTight ha) hg hg']
  constructor
  · intro h
    cases hread : readSimples a.printed with
    | error e =>
      rw [hread] at h
      cases h
    | ok ss =>
      rw [hread] at h
      obtain ⟨hwithin, rfl⟩ := (readSimples_printed ha ss).mp hread
      cases h
      exact ⟨hwithin, rfl⟩
  · rintro ⟨hwithin, rfl⟩
    rw [(readSimples_printed ha _).mpr ⟨hwithin, rfl⟩]
    rfl

theorem not_mem_bar : '|' ∉ a.text := by
  rw [text_eq]
  intro hmem
  rcases mem_joinWith hmem with hblank | ⟨w, hw, hbar⟩
  · simp at hblank
  · exact (printed_isTight ha w hw).bar hbar

end Alternative

/-! ### Ranges -/

/-- A text with gaps around it. -/
def IsPadded (p t : List Char) : Prop := ∃ g h, Gap g ∧ Gap h ∧ p = g ++ t ++ h

/-- Texts without bars that are joined with a bar between gaps come back with gaps around them. -/
theorem splitBars_joinWith_padded {ts : List (List Char)} (hne : ts ≠ []) (hts : ∀ t ∈ ts, '|' ∉ t)
    {g : List Char} (hg : Gap g) :
    List.Forall₂ IsPadded (splitBars (g ++ joinWith [' ', '|', '|', ' '] ts)) ts := by
  have hblank : Gap [' '] := gap_singleton (by decide)
  induction ts generalizing g with
  | nil => exact absurd rfl hne
  | cons t ts ih =>
    have ht : '|' ∉ t := hts t (by simp)
    have hbar : ∀ {x : List Char}, Gap x → '|' ∉ x := not_mem_separator_of_gap (by decide)
    by_cases hnil : ts = []
    · rw [hnil, joinWith, splitBars_of_not_mem (by simp [hbar hg, ht])]
      exact .cons ⟨g, [], hg, Gap.nil, by simp⟩ .nil
    · have hshape : g ++ joinWith [' ', '|', '|', ' '] (t :: ts) =
          (g ++ t ++ [' ']) ++ '|' :: '|' :: ([' '] ++ joinWith [' ', '|', '|', ' '] ts) := by
        rw [joinWith_cons hnil]
        simp
      rw [hshape, splitBars_append (by simp [hbar hg, ht])]
      exact .cons ⟨g, [' '], hg, hblank, rfl⟩ (ih hnil (fun x hx => hts x (by simp [hx])) hblank)

/-- Padded alternatives are read one by one, unless a number has too many digits. -/
theorem readClauses_padded {as : List Alternative}
    (has : ∀ a ∈ as, ∀ b ∈ a, Version.IsWritable b.version) {ps : List (List Char)}
    (hps : List.Forall₂ IsPadded ps (as.map Alternative.text)) (cs : List Clause) :
    readClauses ps = .ok cs ↔
      (∀ a ∈ as, Alternative.IsWithin a) ∧ cs = as.map fun a => .all (Alternative.simples a) := by
  rw [readClauses_eq_ok_iff]
  induction as generalizing ps cs with
  | nil =>
    cases hps
    simp
  | cons a as ih =>
    obtain ⟨p, ps, ⟨g, g', hg, hg', rfl⟩, hrest, rfl⟩ := List.forall₂_cons_right_iff.mp hps
    have ha : ∀ b ∈ a, Version.IsWritable b.version := has a (by simp)
    have htail := fun cs => ih (fun x hx => has x (by simp [hx])) hrest cs
    have hhead : ∀ c, WritesClause (g ++ Alternative.text a ++ g') c ↔
        Alternative.IsWithin a ∧ c = .all (Alternative.simples a) :=
      fun c => (Clause.read_eq_ok_iff _ c).symm.trans (Alternative.read_text ha hg hg' c)
    rw [List.forall₂_cons_left_iff, List.forall_mem_cons, List.map_cons]
    constructor
    · rintro ⟨c, cs, hc, hcs, rfl⟩
      obtain ⟨hwithin, rfl⟩ := (hhead c).mp hc
      obtain ⟨hothers, rfl⟩ := (htail cs).mp hcs
      exact ⟨⟨hwithin, hothers⟩, rfl⟩
    · rintro ⟨⟨hwithin, hothers⟩, rfl⟩
      exact ⟨_, _, (hhead _).mpr ⟨hwithin, rfl⟩, (htail _).mpr ⟨hothers, rfl⟩, rfl⟩

namespace Range

variable {s : String} {r : Range} (h : Range.parse s = .ok r)

include h

theorem bounds_isWritable : ∀ a ∈ r.alternatives, ∀ b ∈ a, Version.IsWritable b.version := by
  intro a ha b hb
  obtain ⟨u, p, sign, hu, hb⟩ := Range.exists_partial h ha hb
  exact hu.bounds_isWritable hb

theorem alternatives_ne_nil : r.alternatives ≠ [] := by
  obtain ⟨cs, ⟨ps, hne, -, hclauses⟩, rfl⟩ := (Range.parse_eq_ok_iff s r).mp h
  intro hnil
  rw [List.map_eq_nil_iff.mp hnil] at hclauses
  cases hclauses
  exact hne rfl

/-- The pieces of a range as it is written out are its alternatives between gaps. -/
theorem splitBars_text :
    List.Forall₂ IsPadded (splitBars r.text) (r.alternatives.map Alternative.text) := by
  apply splitBars_joinWith_padded _ _ Gap.nil
  · simpa using alternatives_ne_nil h
  · intro t ht
    obtain ⟨a, ha, rfl⟩ := List.mem_map.mp ht
    exact Alternative.not_mem_bar (bounds_isWritable h a ha)

/-- A range as it is written out compiles unless a number has too many digits, and then to the same
    alternatives. -/
theorem parse_text_iff (r' : Range) :
    Range.parse (String.ofList r.text) = .ok r' ↔
      (∀ a ∈ r.alternatives, Alternative.IsWithin a) ∧
        r' = ⟨String.ofList r.text, r.alternatives⟩ := by
  have hread := readClauses_padded (bounds_isWritable h) (splitBars_text h)
  have hbounds : (r.alternatives.map fun a => Clause.all (Alternative.simples a)).map
      Clause.bounds = r.alternatives := by
    rw [List.map_map]
    exact List.map_id'' (fun a => Alternative.bounds_simples a) r.alternatives
  rw [Range.parse_eq]
  rw [String.toList_ofList]
  constructor
  · intro hparse
    split at hparse
    · cases hparse
    · rename_i cs hcs
      obtain ⟨hwithin, rfl⟩ := (hread cs).mp hcs
      cases hparse
      exact ⟨hwithin, by rw [hbounds]⟩
  · rintro ⟨hwithin, rfl⟩
    rw [(hread _).mpr ⟨hwithin, rfl⟩]
    simp only [hbounds]

/-- The pieces are the alternatives as they are written out, once trimmed. -/
theorem map_trim_splitBars_text :
    (splitBars r.text).map trim = r.alternatives.map Alternative.text := by
  have hpadded : ∀ {ps ts : List (List Char)}, List.Forall₂ IsPadded ps ts →
      (∀ t ∈ ts, trim t = t) → ps.map trim = ts := by
    intro ps ts hps
    induction hps with
    | nil =>
      intro _
      rfl
    | cons hp _ ih =>
      intro hts
      obtain ⟨g, g', hg, hg', rfl⟩ := hp
      rw [List.forall_mem_cons] at hts
      rw [List.map_cons, trim_between hg hg', hts.1, ih hts.2]
  apply hpadded (splitBars_text h)
  intro t ht
  obtain ⟨a, ha, rfl⟩ := List.mem_map.mp ht
  rw [Alternative.text_eq]
  exact trim_joinWith (Alternative.printed_isTight (bounds_isWritable h a ha))

/-- No alternative that is written out has the words of a hyphen range. -/
theorem words_splitBars_text :
    ∀ p ∈ splitBars r.text, ∀ low high, words p ≠ [low, ['-'], high] := by
  intro p hp low high hwords
  have htrim : trim p ∈ r.alternatives.map Alternative.text := by
    rw [← map_trim_splitBars_text h]
    exact List.mem_map_of_mem hp
  obtain ⟨a, ha, htext⟩ := List.mem_map.mp htrim
  have htight := Alternative.printed_isTight (bounds_isWritable h a ha)
  have hprinted : a.printed = [low, ['-'], high] := by
    rw [← hwords, ← words_trim, ← htext, Alternative.text_eq, words_joinWith htight]
  rw [hprinted] at htight
  exact (htight ['-'] (by simp)).ne_hyphen rfl

/-- **A range comes back from its own text.**  Take any range that compiles.  What it is written out
    as compiles again exactly if no bound has the number 10¹⁶, which is one higher than any number
    that can be written.  If it does, the alternatives are the same, bound by bound, and so is the
    text.  Each alternative is written for itself, an empty one as an asterisk, and none is taken
    for a hyphen range. -/
theorem parse_text_faithful :
    ((∃ r', Range.parse (String.ofList r.text) = .ok r') ↔
      ∀ a ∈ r.alternatives, ∀ b ∈ a, 10 ^ 16 ∉ b.version.numbers) ∧
    (∀ r', Range.parse (String.ofList r.text) = .ok r' →
      r'.alternatives = r.alternatives ∧ r'.text = r.text) ∧
    (splitBars r.text).map trim = r.alternatives.map Alternative.text ∧
    Alternative.text [] = ['*'] ∧
    ∀ p ∈ splitBars r.text, ∀ low high, words p ≠ [low, ['-'], high] := by
  have hcap : numberCap = 10 ^ 16 := by rfl
  refine ⟨?_, ?_, map_trim_splitBars_text h, rfl, words_splitBars_text h⟩
  · have hwithin : ∀ a ∈ r.alternatives, ∀ b ∈ a,
        b.version.IsWithin ↔ 10 ^ 16 ∉ b.version.numbers :=
      fun a ha b hb => hcap ▸ (Range.parse_isShort h a ha b hb).isWithin_iff
    simp only [parse_text_iff h, exists_eq_right]
    constructor
    · intro hall a ha b hb
      exact (hwithin a ha b hb).mp (hall a ha b hb)
    · intro hall a ha b hb
      exact (hwithin a ha b hb).mpr (hall a ha b hb)
  · intro r' hr'
    obtain ⟨-, rfl⟩ := (parse_text_iff h r').mp hr'
    exact ⟨rfl, rfl⟩

omit h in
/-- A range with an empty alternative and one that accepts nothing comes back; one whose upper end
    is one higher than the highest number does not. -/
theorem parse_text_faithful_samples :
    (∃ r', Range.parse ">=1.2.3-0001.5 <2.0.0-0 || * || <0.0.0-0" = .ok r' ∧
      r'.alternatives =
        [[⟨.ge, ⟨1, 2, 3, [['0', '0', '0', '1'], ['5']], []⟩⟩, ⟨.lt, .lowest 2 0 0⟩], [],
          nothing]) ∧
    ¬ ∃ r', Range.parse ">=9999999999999999.0.0-0 <10000000000000000.0.0-0" = .ok r' := by
  have hfirst : Range.parse "^1.2.3-0001.5 || || <x" =
      .ok ⟨"^1.2.3-0001.5 || || <x",
        [[⟨.ge, ⟨1, 2, 3, [['0', '0', '0', '1'], ['5']], []⟩⟩, ⟨.lt, .lowest 2 0 0⟩], [],
          nothing]⟩ := by rfl
  have hsecond : Range.parse "^9999999999999999" =
      .ok ⟨"^9999999999999999",
        [[⟨.ge, .lowest 9999999999999999 0 0⟩, ⟨.lt, .lowest 10000000000000000 0 0⟩]]⟩ := by rfl
  obtain ⟨hcompiles, hsame, -⟩ := parse_text_faithful hfirst
  obtain ⟨hfails, -⟩ := parse_text_faithful hsecond
  constructor
  · obtain ⟨r', hr'⟩ := hcompiles.mpr (by decide)
    exact ⟨r', hr', (hsame r' hr').1⟩
  · intro hsome
    exact absurd (hfails.mp hsome) (by decide)

end Range

end MergeGate
