import MergeGate.Proofs.Denylist.Matches
import MergeGate.Proofs.Range.Meaning

/-
  MergeGate/Proofs/Denylist/Written.lean
  ======================================
  **Deny rules mean what is written.**  A rule is cut at its last at sign.  That is the sign before
  the range, whatever signs the name holds, since no range that can be read holds one
  (`WritesRange.not_mem_separator`).  So a name, a sign and a range, with gaps anywhere, are read as
  this name and this range (`parse_range`); with no range after the sign, or with no sign but one
  at the front, the rule is for every version of the name (`parse_blank`, `parse_unwritten`).

  What such a rule bans when it is evaluated alone is stated by `BansExactly`.
-/

namespace MergeGate

open MergeGate.Text

/-- A range holds no separators of rules, since no clause does. -/
theorem WritesRange.not_mem_at {t : List Char} {cs : List Clause} (h : WritesRange t cs) :
    '@' ∉ t := by
  obtain ⟨ps, -, rfl, hps⟩ := h
  intro hmem
  rcases mem_joinWith hmem with hbar | ⟨p, hp, hc⟩
  · simp at hbar
  · exact not_mem_separator_of_forall₂ (by decide) hps p hp hc

namespace DenyRule

/-! ### How rules are read -/

theorem scopeOf_trimBack (after : List Char) : scopeOf (trimBack after) = scopeOf after := by
  obtain ⟨h, hh, hafter⟩ := exists_trimBack after
  have htrim : trim after = trim (trimBack after) := by
    conv_lhs => rw [hafter]
    exact trim_between Gap.nil hh (trimBack after)
  rw [scopeOf, scopeOf, htrim]

theorem scopeOf_gap {g : List Char} (hg : Gap g) : scopeOf g = .blank := by
  have htrim : trim g = [] := by
    have hbetween := trim_between hg Gap.nil []
    rwa [List.append_nil, List.append_nil] at hbetween
  rw [scopeOf, htrim]

theorem scopeOf_range {g h : List Char} (hg : Gap g) (hh : Gap h) {r : String}
    (hr : trim r.toList ≠ []) : scopeOf (g ++ r.toList ++ h) = .range (trimmed r) := by
  rw [scopeOf, trim_between hg hh]
  split
  · rename_i hnil
    exact absurd hnil hr
  · rfl

theorem cutLast_sound {sep : Char} {cs before after : List Char}
    (h : cutLast sep cs = some (before, after)) : cs = before ++ sep :: after := by
  induction cs generalizing before with
  | nil => cases h
  | cons c cs ih =>
    unfold cutLast at h
    split at h
    · rename_i front rest hcut
      cases h
      rw [ih hcut, List.cons_append]
    · split at h
      · rename_i hc
        cases h
        rw [hc, List.nil_append]
      · cases h

section Reading

variable {name : List Char} (hne : name ≠ []) (hname : trim name = name)

include hne hname

/-- A rule is cut at the sign after its name if there is none in what follows. -/
theorem parse_cut {g after : List Char} (hg : Gap g) (hafter : '@' ∉ after) :
    parse (String.ofList (g ++ (name ++ '@' :: after))) =
      ⟨String.ofList (g ++ (name ++ '@' :: after)), String.ofList name, scopeOf after⟩ := by
  obtain ⟨h, hh, hback⟩ := exists_trimBack after
  have htext : trim (g ++ (name ++ '@' :: after)) = name ++ '@' :: trimBack after := by
    have hwhole : g ++ (name ++ '@' :: after) = g ++ (name ++ '@' :: trimBack after) ++ h := by
      conv_lhs => rw [hback]
      simp
    rw [hwhole]
    apply trim_append hg hh
    · intro c hc
      rw [List.head?_append_of_ne_nil _ hne, ← hname] at hc
      exact trim_first name c hc
    · intro c hc
      rw [List.getLast?_append_of_ne_nil _ (List.cons_ne_nil _ _)] at hc
      rcases List.eq_nil_or_concat' (trimBack after) with hnil | ⟨t, d, hlast⟩
      · rw [hnil] at hc
        cases hc
        decide
      · rw [hlast, ← List.cons_append, List.getLast?_append_of_ne_nil _ (by simp)] at hc
        apply trimBack_last after
        rwa [hlast, List.getLast?_append_of_ne_nil _ (by simp)]
  have hsign : '@' ∉ trimBack after := by
    intro hmem
    rw [hback] at hafter
    exact hafter (List.mem_append_left h hmem)
  unfold parse
  rw [String.toList_ofList]
  dsimp only
  rw [htext, cutLast_append '@' name (trimBack after) hsign]
  obtain ⟨c, cs, rfl⟩ := List.exists_cons_of_ne_nil hne
  simp only [hname, scopeOf_trimBack]

end Reading

/-- A rule without a sign after its first character is a name. -/
theorem parse_unwritten {raw : String} (h : '@' ∉ (trim raw.toList).tail) :
    parse raw = ⟨raw, trimmed raw, .unwritten⟩ := by
  unfold parse
  dsimp only
  split
  · rfl
  · rfl
  · rename_i before after hbefore hcut
    have htext := cutLast_sound hcut
    cases before with
    | nil => exact (hbefore rfl).elim
    | cons c before =>
      rw [htext] at h
      exact absurd (by simp) h

end DenyRule

namespace Denylist

/-! ### What a rule bans alone -/

/-- The matches of a written rule if it bans the records with a property. -/
def matchesOf (raw : String) (bans : Record → Prop) [DecidablePred bans] (rs : List Record) :
    List Match :=
  (rs.filter fun r => bans r).map fun r => ⟨DenyRule.parse raw, r⟩

/-- A written rule, evaluated alone against any list of records, bans those with a property and
    reports nothing else: if there are any, one violation tells all of them, in their order.  The
    warnings that are noted are `warned`. -/
def BansExactly (raw : String) (bans : Record → Prop) [DecidablePred bans] (warned : List Note) :
    Prop :=
  ∀ absence m, m.isAvailable = true →
    OneIf (∃ r ∈ m.records, bans r) (Violation.TellsBanned (matchesOf raw bans m.records))
        (evaluate absence [raw] m).violations ∧
      (evaluate absence [raw] m).notes.filter (Note.isShown .warning) = warned

theorem matchesOf_ne_nil_iff (raw : String) (bans : Record → Prop) [DecidablePred bans]
    (rs : List Record) : matchesOf raw bans rs ≠ [] ↔ ∃ r ∈ rs, bans r := by
  simp [matchesOf, List.filter_eq_nil_iff]

theorem warnings_notes (r : DenyRule) : r.notes.filter (Note.isShown .warning) = r.notes := by
  unfold DenyRule.notes
  cases r.scope <;> rfl

/-- A rule that is not refused bans what it bans as it is written, and warns as it is read. -/
theorem bansExactly_of_bans {raw : String} (hsound : isRefused raw = false)
    {bans : Record → Prop} [DecidablePred bans] (hbans : ∀ r, Bans raw r ↔ bans r) :
    BansExactly raw bans (DenyRule.parse raw).notes := by
  intro absence m hm
  rcases compile_cases raw with ⟨-, c, hcompile, hrule, hc⟩ | ⟨e, -, hsome⟩
  · have hinvalid : invalid [DenyRule.parse raw] = [] := by
      simp [invalid, hcompile]
    have hcompiled : compiled [DenyRule.parse raw] = [c] := by
      simp [compiled, hcompile, Except.toOption]
    have htest : c.bans = fun r => decide (bans r) := by
      funext r
      rw [Bool.eq_iff_iff, hc r, hbans r, decide_eq_true_iff]
    have hfound : found [c] m.records = matchesOf raw bans m.records := by
      simp [found, CompiledRule.found, matchesOf, htest, hrule]
    unfold evaluate
    simp only [List.isEmpty_cons, Bool.false_eq_true, if_false, List.map_cons, List.map_nil,
      hinvalid, hcompiled, hm, hfound, List.isEmpty_nil, Bool.and_self, if_true,
      List.isEmpty_iff, List.flatMap_cons, List.flatMap_nil, List.append_nil, List.filter_append,
      warnings_notes]
    refine ⟨?_, List.append_nil _⟩
    rw [← matchesOf_ne_nil_iff raw, ← ite_not]
    exact oneIf_ite fun _ => Violation.tellsBanned_foundViolation _
  · have hrefused := (rejection?_eq_some hsome).1
    exact absurd (hsound.symm.trans hrefused) (by decide)

/-- A rule that is read with a range bans the records whose version satisfies it. -/
theorem bansExactly_ranged {raw name r : String} {range : Range}
    (hparse : DenyRule.parse raw = ⟨raw, name, .range (trimmed r)⟩)
    (hrange : Range.parse r = .ok range) :
    BansExactly raw
      (fun record => record.name = name ∧ satisfies record.version (.text r) = .ok true) [] := by
  have htrimmed := Range.parse_trimmed hrange
  have hsound : isRefused raw = false := by
    simp [isRefused, hparse, DenyRule.range?, Range.isValid, Range.ofJson, htrimmed, Except.toBool]
  have hbans : ∀ record, Bans raw record ↔
      record.name = name ∧ satisfies record.version (.text r) = .ok true := by
    intro record
    have hsame : satisfies record.version (.text (trimmed r)) = .ok true ↔
        satisfies record.version (.text r) = .ok true := by
      rw [satisfies_eq_ok_true_iff htrimmed, satisfies_eq_ok_true_iff hrange]
      rfl
    simp [Bans, hparse, DenyRule.range?, hsame]
  have hexact := bansExactly_of_bans hsound hbans
  rwa [hparse] at hexact

/-- A rule that is read without a range bans every version of its name. -/
theorem bansExactly_unranged {raw name : String} {scope : Scope}
    (hparse : DenyRule.parse raw = ⟨raw, name, scope⟩)
    (hscope : DenyRule.range? ⟨raw, name, scope⟩ = none) :
    BansExactly raw (fun record => record.name = name) (DenyRule.notes ⟨raw, name, scope⟩) := by
  have hsound : isRefused raw = false := by
    simp [isRefused, hparse, hscope]
  have hbans : ∀ record, Bans raw record ↔ record.name = name := by
    intro record
    simp [Bans, hparse, hscope]
  have hexact := bansExactly_of_bans hsound hbans
  rwa [hparse] at hexact

/-! ### The result -/

/-- **A deny rule means what its author wrote.**  Take any name, with at signs or without.  Followed
    by a sign and a range that compiles, it bans the versions of the name that satisfy the range;
    followed by a sign and blanks, it bans every version of the name, with one warning; and a rule
    that is the name alone, with no sign but at its front, bans every version without a warning. -/
theorem bansExactly_written {name : List Char} (hne : name ≠ []) (hname : trim name = name) :
    (∀ (r : String) (range : Range), Range.parse r = .ok range → trim r.toList ≠ [] →
      ∀ g before after, Gap g → Gap before → Gap after →
        ∀ raw, raw = String.ofList (g ++ (name ++ '@' :: (before ++ r.toList ++ after))) →
          DenyRule.parse raw = ⟨raw, String.ofList name, .range (trimmed r)⟩ ∧
          BansExactly raw (fun record => record.name = String.ofList name ∧
            satisfies record.version (.text r) = .ok true) []) ∧
    (∀ g blank, Gap g → Gap blank →
      ∀ raw, raw = String.ofList (g ++ (name ++ '@' :: blank)) →
        DenyRule.parse raw = ⟨raw, String.ofList name, .blank⟩ ∧
        BansExactly raw (fun record => record.name = String.ofList name)
          [.blankRange raw (String.ofList name)]) ∧
    (∀ raw, trim raw.toList = name → '@' ∉ name.tail →
      DenyRule.parse raw = ⟨raw, String.ofList name, .unwritten⟩ ∧
      BansExactly raw (fun record => record.name = String.ofList name) []) := by
  have hgap : ∀ {h : List Char}, Gap h → '@' ∉ h := not_mem_separator_of_gap (by decide)
  refine ⟨?_, ?_, ?_⟩
  · intro r range hrange hr g before after hg hbefore hafter raw hraw
    obtain ⟨cs, hcs, -⟩ := (Range.parse_eq_ok_iff r range).mp hrange
    have hsign : '@' ∉ before ++ r.toList ++ after := by
      simp [hgap hbefore, hcs.not_mem_at, hgap hafter]
    have hparse : DenyRule.parse raw = ⟨raw, String.ofList name, .range (trimmed r)⟩ := by
      rw [hraw, DenyRule.parse_cut hne hname hg hsign, DenyRule.scopeOf_range hbefore hafter hr]
    exact ⟨hparse, bansExactly_ranged hparse hrange⟩
  · intro g blank hg hblank raw hraw
    have hparse : DenyRule.parse raw = ⟨raw, String.ofList name, .blank⟩ := by
      rw [hraw, DenyRule.parse_cut hne hname hg (hgap hblank), DenyRule.scopeOf_gap hblank]
    exact ⟨hparse, bansExactly_unranged hparse rfl⟩
  · intro raw htext hsign
    have hparse : DenyRule.parse raw = ⟨raw, String.ofList name, .unwritten⟩ := by
      rw [DenyRule.parse_unwritten (htext ▸ hsign), trimmed, htext]
    exact ⟨hparse, bansExactly_unranged hparse rfl⟩

/-- A rule for a scoped name with a range between gaps, with blanks after the sign, and with no
    sign after the first. -/
theorem bansExactly_written_scoped :
    (DenyRule.parse " @a/b@ <2 " = ⟨" @a/b@ <2 ", "@a/b", .range "<2"⟩ ∧
      BansExactly " @a/b@ <2 "
        (fun record => record.name = "@a/b" ∧ satisfies record.version (.text "<2") = .ok true)
        []) ∧
    BansExactly "@a/b@ " (fun record => record.name = "@a/b") [.blankRange "@a/b@ " "@a/b"] ∧
    BansExactly "@a/b" (fun record => record.name = "@a/b") [] := by
  have hname : trim ['@', 'a', '/', 'b'] = ['@', 'a', '/', 'b'] := by decide
  have hgap : Gap [' '] := gap_singleton (by decide)
  obtain ⟨hranged, hblank, hunwritten⟩ := bansExactly_written (List.cons_ne_nil _ _) hname
  have hrange : Range.parse "<2" = .ok ⟨"<2", [[⟨.lt, .lowest 2 0 0⟩]]⟩ := by rfl
  refine ⟨?_, ?_, ?_⟩
  · exact hranged "<2" _ hrange (by decide) [' '] [' '] [' '] hgap hgap hgap _ rfl
  · exact (hblank [] [' '] Gap.nil hgap _ rfl).2
  · exact (hunwritten "@a/b" (by decide) (by decide)).2

end Denylist

end MergeGate
