import Mathlib.Data.List.Infix
import MergeGate.Pattern.Reader

/-
  MergeGate/Proofs/Pattern/Reading.lean
  =====================================
  **Invariants of a reading.**  While the tokens of a pattern are read, what is left is always an
  end of them, and every mode learnt so far was written by one of them (`Scan.Within`).  `Reads`
  says of a step of a reading that it keeps this, that its value has some property, and that its
  fault, if it stops with one, is accounted for by the tokens (`Accounted`): a count that is too
  long to be read stands there digit by digit.

  A step made of other steps is treated by the rules of the first section, one for each way to
  put steps together.
-/

namespace MergeGate

namespace Pattern

open MergeGate.Text

variable {α β : Type} {whole : List Token}

/-- A mode that one of the tokens is the letter of. -/
def IsWritten (whole : List Token) (m : Mode) : Prop :=
  ∃ c, Token.plain c ∈ whole ∧ Mode.ofLetter? c = some m

/-- A state in which the reading of some tokens may be. -/
structure Scan.Within (whole : List Token) (s : Scan) : Prop where
  /-- What is left is an end of the tokens. -/
  rest : s.rest <:+ whole
  /-- What was learnt of modes was written. -/
  modes : ∀ m ∈ s.modes, IsWritten whole m

/-- A cause that tokens may give rise to while they are read.  A count is too long only if as many
    digits stand among them; contrary modes are not noticed before the end. -/
def Accounted (whole : List Token) : Cause → Prop
  | .countTooLong n =>
    digitLimit < n ∧ ∃ ds : List Char, ds.length = n ∧ (∀ d ∈ ds, isAsciiDigit d = true) ∧
      ds.map Token.plain <:+: whole
  | .contraryModes => False
  | _ => True

/-- A step that keeps to the tokens, with a property of its value. -/
def Reads (whole : List Token) (r : Reading α) (post : α → Prop) : Prop :=
  ∀ s, s.Within whole →
    match r s with
    | .ok (a, s') => s'.Within whole ∧ post a
    | .error f => Accounted whole f.cause

/-- A step that keeps to the tokens. -/
def Keeps (whole : List Token) (r : Reading α) : Prop := Reads whole r fun _ => True

/-! ### Steps put together -/

/-- A step after another one. -/
theorem bind_apply (r : Reading α) (f : α → Reading β) (s : Scan) :
    (r >>= f) s =
      match r s with
      | .ok (a, s') => f a s'
      | .error e => .error e := by
  cases h : r s with
  | error e => simp [Bind.bind, StateT.bind, Except.bind, h]
  | ok p => simp [Bind.bind, StateT.bind, Except.bind, h]

theorem pure_apply (a : α) (s : Scan) : (pure a : Reading α) s = .ok (a, s) := rfl

theorem Reads.pure {post : α → Prop} {a : α} (h : post a) : Reads whole (pure a) post :=
  fun _ hs => ⟨hs, h⟩

theorem Reads.bind {r : Reading α} {f : α → Reading β} {post : α → Prop} {post' : β → Prop}
    (hr : Reads whole r post) (hf : ∀ a, post a → Reads whole (f a) post') :
    Reads whole (r >>= f) post' := by
  intro s hs
  have hfirst := hr s hs
  rw [bind_apply]
  cases h : r s with
  | error e =>
    rw [h] at hfirst
    exact hfirst
  | ok p =>
    rw [h] at hfirst
    exact hf p.1 hfirst.2 p.2 hfirst.1

theorem keeps_pure (a : α) : Keeps whole (pure a) :=
  Reads.pure trivial

theorem Keeps.bind {r : Reading α} {f : α → Reading β} {post : β → Prop} (hr : Keeps whole r)
    (hf : ∀ a, Reads whole (f a) post) : Reads whole (r >>= f) post :=
  Reads.bind hr fun a _ => hf a

/-- Two steps of which one is taken, and what follows either of them. -/
theorem Reads.ite_bind {c : Prop} [Decidable c] {r r' : Reading α} {f : α → Reading β}
    {post : α → Prop} {post' : β → Prop} (hr : Reads whole r post) (hr' : Reads whole r' post)
    (hf : ∀ a, post a → Reads whole (f a) post') :
    Reads whole (if c then r >>= f else r' >>= f) post' := by
  split
  · exact hr.bind hf
  · exact hr'.bind hf

theorem reads_get : Reads whole get (Scan.Within whole) :=
  fun _ hs => ⟨hs, hs⟩

theorem keeps_set {s : Scan} (h : s.Within whole) : Keeps whole (set s) :=
  fun _ _ => ⟨h, trivial⟩

theorem keeps_modify {f : Scan → Scan} (h : ∀ s, s.Within whole → (f s).Within whole) :
    Keeps whole (modify f) :=
  fun s hs => ⟨h s hs, trivial⟩

theorem reads_failBack {cause : Cause} (h : Accounted whole cause) {back : Nat}
    {post : α → Prop} : Reads whole (failBack cause back) post :=
  fun _ _ => h

theorem reads_failAt {cause : Cause} (h : Accounted whole cause) {position : Nat}
    {post : α → Prop} : Reads whole (failAt cause position) post :=
  fun _ _ => h

theorem reads_failWhole {cause : Cause} (h : Accounted whole cause) {post : α → Prop} :
    Reads whole (failWhole cause) post :=
  fun _ _ => h

/-! ### Tokens -/

theorem mem_of_head? {s : Scan} (hs : s.Within whole) {t : Token} (h : s.rest.head? = some t) :
    t ∈ whole :=
  hs.rest.subset (List.mem_of_head? h)

theorem reads_peek : Reads whole peek fun t => ∀ x ∈ t, x ∈ whole :=
  fun _ hs => ⟨hs, fun _ hx => mem_of_head? hs hx⟩

/-- Taking a token leaves the rest behind it, and fails only before a single backslash. -/
theorem advance_cases (s : Scan) :
    (∃ s', s.advance = .ok s' ∧ s'.rest = s.rest.tail ∧ s'.modes = s.modes) ∨
    ∃ position, s.advance = .error ⟨.escapeAtEnd, some position⟩ := by
  unfold Scan.advance
  cases hrest : s.rest with
  | nil => exact .inl ⟨s, rfl, hrest, rfl⟩
  | cons t ts =>
    by_cases hlast : (ts.isEmpty && s.dangling) = true
    · refine .inr ⟨s.position + t.chars.length, ?_⟩
      simp only [hlast, if_true]
    · refine .inl ⟨{ s with rest := ts, position := s.position + t.chars.length }, ?_, rfl, rfl⟩
      simp only [hlast, Bool.false_eq_true, if_false]

theorem reads_take : Reads whole take fun t => ∀ x ∈ t, x ∈ whole := by
  intro s hs
  unfold take
  rcases advance_cases s with ⟨s', hs', hrest, hmodes⟩ | ⟨position, herror⟩
  · rw [hs']
    refine ⟨⟨?_, ?_⟩, fun _ hx => mem_of_head? hs hx⟩
    · rw [hrest]
      exact (List.tail_suffix s.rest).trans hs.rest
    · rw [hmodes]
      exact hs.modes
  · rw [herror]
    trivial

theorem keeps_accept (c : Char) : Keeps whole (accept c) := by
  unfold accept
  refine reads_peek.bind fun t _ => ?_
  split
  · exact reads_take.bind fun _ _ => keeps_pure _
  · exact keeps_pure _

theorem get_apply (s : Scan) : (get : Reading Scan) s = .ok (s, s) := rfl

theorem peek_apply (s : Scan) : peek s = .ok (s.rest.head?, s) := rfl

/-- Taking a token, or the end of the tokens. -/
theorem take_cases (s : Scan) :
    (∃ s', take s = .ok (s.rest.head?, s') ∧ s'.rest = s.rest.tail ∧ s'.modes = s.modes) ∨
    ∃ position, take s = .error ⟨.escapeAtEnd, some position⟩ := by
  unfold take
  rcases advance_cases s with ⟨s', hs', hrest, hmodes⟩ | ⟨position, herror⟩
  · exact .inl ⟨s', by rw [hs'], hrest, hmodes⟩
  · exact .inr ⟨position, by rw [herror]⟩

/-- The characters that are taken one by one stand before what is left. -/
theorem takeSome_cases (hit : Char → Bool) (n : Nat) (s : Scan) :
    (∃ cs s', takeSome hit n s = .ok (cs, s') ∧ s.rest = cs.map Token.plain ++ s'.rest ∧
      (∀ c ∈ cs, hit c = true) ∧ s'.modes = s.modes) ∨
    ∃ position, takeSome hit n s = .error ⟨.escapeAtEnd, some position⟩ := by
  induction n generalizing s with
  | zero => exact .inl ⟨[], s, rfl, rfl, by simp, rfl⟩
  | succ n ih =>
    simp only [takeSome, bind_apply, peek_apply]
    cases hrest : s.rest with
    | nil => exact .inl ⟨[], s, rfl, hrest.symm, by simp, rfl⟩
    | cons t ts =>
      cases t with
      | escaped c => exact .inl ⟨[], s, rfl, hrest.symm, by simp, rfl⟩
      | plain c =>
        by_cases hc : hit c = true
        · simp only [List.head?_cons, hc, if_true, bind_apply]
          rcases take_cases s with ⟨s₁, htake, hrest₁, hmodes₁⟩ | ⟨position, herror⟩
          · rw [hrest] at htake hrest₁
            rcases ih s₁ with ⟨cs, s₂, hsome, hrest₂, hcs, hmodes₂⟩ | ⟨position, herror⟩
            · refine .inl ⟨c :: cs, s₂, ?_, ?_, ?_, hmodes₂.trans hmodes₁⟩
              · simp only [htake, hsome, pure_apply]
              · rw [List.map_cons, List.cons_append, ← hrest₂, hrest₁, List.tail_cons]
              · rw [List.forall_mem_cons]
                exact ⟨hc, hcs⟩
            · refine .inr ⟨position, ?_⟩
              simp only [htake, herror]
          · refine .inr ⟨position, ?_⟩
            simp only [herror]
        · simp only [List.head?_cons, hc, Bool.false_eq_true, if_false]
          exact .inl ⟨[], s, rfl, hrest.symm, by simp, rfl⟩

/-- The characters taken stand together among the tokens. -/
theorem reads_takeSome (hit : Char → Bool) (n : Nat) :
    Reads whole (takeSome hit n) fun cs =>
      (∀ c ∈ cs, hit c = true) ∧ cs.map Token.plain <:+: whole := by
  intro s hs
  rcases takeSome_cases hit n s with ⟨cs, s', hsome, hrest, hcs, hmodes⟩ | ⟨position, herror⟩
  · rw [hsome]
    have hsuffix : s'.rest <:+ s.rest := ⟨cs.map Token.plain, hrest.symm⟩
    have hwithin : cs.map Token.plain <:+: s.rest := ⟨[], s'.rest, by rw [hrest]; rfl⟩
    exact ⟨⟨hsuffix.trans hs.rest, hmodes ▸ hs.modes⟩, hcs, hwithin.trans hs.rest.isInfix⟩
  · rw [herror]
    trivial

theorem reads_takeAll (hit : Char → Bool) :
    Reads whole (takeAll hit) fun cs =>
      (∀ c ∈ cs, hit c = true) ∧ cs.map Token.plain <:+: whole := by
  unfold takeAll
  exact reads_get.bind fun s _ => reads_takeSome hit _

theorem keeps_takeNameFrom (closer : Char) (what : String) (n : Nat) (taken : List Char) :
    Keeps whole (takeNameFrom closer what n taken) := by
  induction n generalizing taken with
  | zero => exact reads_failBack (by trivial)
  | succ n ih =>
    unfold takeNameFrom
    refine reads_take.bind fun t _ => ?_
    cases t with
    | none =>
      dsimp only
      split
      · exact reads_failBack (by trivial)
      · exact reads_failBack (by trivial)
    | some t =>
      dsimp only
      split
      · split
        · exact reads_failBack (by trivial)
        · exact keeps_pure _
      · exact ih _

theorem keeps_takeName (closer : Char) (what : String) : Keeps whole (takeName closer what) := by
  unfold takeName
  exact reads_get.bind fun _ _ => keeps_takeNameFrom closer what _ _

theorem keeps_skipPast (c : Char) (n : Nat) : Keeps whole (skipPast c n) := by
  induction n with
  | zero => exact keeps_pure _
  | succ n ih =>
    unfold skipPast
    refine reads_take.bind fun t _ => ?_
    cases t with
    | none => exact keeps_pure _
    | some t =>
      dsimp only
      split
      · exact keeps_pure _
      · exact ih

end Pattern

end MergeGate
