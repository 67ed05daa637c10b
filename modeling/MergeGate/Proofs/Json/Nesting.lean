import MergeGate.Datum
import MergeGate.Proofs.Json.RoundTrip

/-
  MergeGate/Proofs/Json/Nesting.lean
  ==================================
  **What a JSON text can hold.**  The reader gives values that are nested no deeper than the levels it
  was given, and whose integers have no more than `digitLimit` digits (`Fits`).  It gives up because of
  the nesting only if the text has more opening brackets than levels.  Both follow from one induction
  along the reader (`reads_readValue`), for which what is left has to be an end of what was there.

  A value of a document that fits can be written as part of a text (`Datum.Fits.faultIn`), and so can what is
  read from JSON (`Fits.ofJson`).
-/

namespace MergeGate.Json

open MergeGate.Text

/-- Nested at most `room` levels deep, with no integer that is too long to be written. -/
inductive Fits : Nat → Json → Prop where
  | null {room : Nat} : Fits room .null
  | bool {room : Nat} (b : Bool) : Fits room (.bool b)
  | int {room : Nat} {n : Int} (h : Datum.isOversized n = false) : Fits room (.int n)
  | number {room : Nat} (x : Decimal.Binary) : Fits room (.number x)
  | text {room : Nat} (s : String) : Fits room (.text s)
  | list {room : Nat} {xs : List Json} (h : ∀ x ∈ xs, Fits room x) : Fits (room + 1) (.list xs)
  | object {room : Nat} {ms : Members} (h : ∀ m ∈ ms, Fits room m.2) : Fits (room + 1) (.object ms)

theorem Fits.mono {room more : Nat} {v : Json} (h : Fits room v) (hle : room ≤ more) : Fits more v := by
  induction h generalizing more with
  | null => exact .null
  | bool b => exact .bool b
  | int h => exact .int h
  | number x => exact .number x
  | text s => exact .text s
  | list _ ih =>
    obtain ⟨more, rfl⟩ : ∃ m, more = m + 1 := ⟨more - 1, by omega⟩
    exact .list fun x hx => ih x hx (Nat.le_of_succ_le_succ hle)
  | object _ ih =>
    obtain ⟨more, rfl⟩ : ∃ m, more = m + 1 := ⟨more - 1, by omega⟩
    exact .object fun m hm => ih m hm (Nat.le_of_succ_le_succ hle)

theorem isOversized_of_digits {n : Int} {ds : List Char} (hvalue : n.natAbs = numeralValue ds)
    (hlength : ds.length ≤ digitLimit) : Datum.isOversized n = false := by
  simp only [Datum.isOversized, Bool.and_eq_false_iff, decide_eq_false_iff_not, Nat.not_le, hvalue]
  exact .inr (numeralValue_lt_pow_of_le hlength)

/-- What a text keeps can be written. -/
theorem IsData.fits {depth : Nat} {v : Json} (h : IsData depth v) : Fits depth v := by
  induction h with
  | null => exact .null
  | bool b => exact .bool b
  | int h => exact .int (isOversized_of_digits (numeralValue_numeral _).symm h)
  | text s => exact .text s
  | list _ ih => exact .list ih
  | object _ _ ih => exact .object ih

end Json

/-! ### Writing -/

namespace Datum

open MergeGate.Text

/-- Nested at most `room` levels deep, with integers of at most `digitLimit` digits.  A knot is no level, and
    what a loop stands for is not entered again. -/
inductive Fits : Nat → Datum → Prop where
  | null {room : Nat} : Fits room .null
  | bool {room : Nat} (b : Bool) : Fits room (.bool b)
  | int {room : Nat} {n : Int} (h : n.natAbs < 10 ^ digitLimit) : Fits room (.int n)
  | number {room : Nat} (x : Decimal.Binary) : Fits room (.number x)
  | text {room : Nat} (s : String) : Fits room (.text s)
  | octets {room : Nat} (bs : List UInt8) : Fits room (.octets bs)
  | date {room : Nat} (d : Calendar.Date) : Fits room (.date d)
  | moment {room : Nat} (t : Calendar.Moment) : Fits room (.moment t)
  | list {room : Nat} {vs : List Datum} (h : ∀ v ∈ vs, Fits room v) : Fits (room + 1) (.list vs)
  | pair {room : Nat} {a b : Datum} (hfst : Fits room a) (hsnd : Fits room b) : Fits (room + 1) (.pair a b)
  | set {room : Nat} {vs : List Datum} (h : ∀ v ∈ vs, Fits room v) : Fits (room + 1) (.set vs)
  | mapping {room : Nat} {es : List (Datum × Datum)} (hkeys : ∀ e ∈ es, Fits room e.1)
      (hvalues : ∀ e ∈ es, Fits room e.2) : Fits (room + 1) (.mapping es)
  | knot {room : Nat} (id : Nat) {body : Datum} (h : Fits room body) : Fits room (.knot id body)
  | loop {room : Nat} (id : Nat) (ofMapping : Bool) : Fits room (.loop id ofMapping)

theorem isOversized_eq_false_iff (n : Int) : isOversized n = false ↔ n.natAbs < 10 ^ digitLimit := by
  -- so few bits have fewer digits than the limit
  have hbits : ∀ k ≤ 14284, 2 ^ k ≤ 10 ^ digitLimit := by
    intro k hk
    exact (Nat.pow_le_pow_right (by decide) hk).trans (by decide +kernel)
  have hpow : ∀ k, Nat.pow 10 k = 10 ^ k := fun _ => rfl
  rw [isOversized, hpow, Bool.and_eq_false_iff, decide_eq_false_iff_not, decide_eq_false_iff_not, Nat.not_lt,
    Nat.not_le]
  constructor
  · rintro (hlog | hlt)
    · exact Nat.lt_log2_self.trans_le (hbits _ (Nat.succ_le_succ hlog))
    · exact hlt
  · exact Or.inr

section Writing

variable {path : List Nat} {room : Nat}

theorem faultInItems_eq_none {vs : List Datum} (h : ∀ v ∈ vs, v.faultIn path room = none) :
    faultInItems path room vs = none := by
  induction vs with
  | nil => rfl
  | cons v vs ih =>
    rw [faultInItems, h v List.mem_cons_self, ih fun w hw => h w (List.mem_cons_of_mem v hw)]
    rfl

theorem faultInEntries_eq_none {es : List (Datum × Datum)} (hkeys : ∀ e ∈ es, e.1.faultIn path room = none)
    (hvalues : ∀ e ∈ es, e.2.faultIn path room = none) : faultInEntries path room es = none := by
  induction es with
  | nil => rfl
  | cons e es ih =>
    have htail := ih (fun d hd => hkeys d (List.mem_cons_of_mem e hd)) fun d hd => hvalues d (List.mem_cons_of_mem e hd)
    rw [faultInEntries, hkeys e List.mem_cons_self, hvalues e List.mem_cons_self, htail]
    rfl

/-- A value that fits into the room can be written, whatever the knots around it. -/
theorem Fits.faultIn {v : Datum} (h : v.Fits room) (path : List Nat) : v.faultIn path room = none := by
  induction h generalizing path with
  | int h =>
    rw [Datum.faultIn, (isOversized_eq_false_iff _).2 h]
    rfl
  | list _ ih => exact faultInItems_eq_none fun v hv => ih v hv path
  | pair _ _ ihfst ihsnd =>
    rw [Datum.faultIn, if_neg (Nat.succ_ne_zero _), Nat.add_sub_cancel, ihfst path, ihsnd path]
    rfl
  | set _ ih => exact faultInItems_eq_none fun v hv => ih v hv path
  | mapping _ _ ihkeys ihvalues =>
    exact faultInEntries_eq_none (fun e he => ihkeys e he path) fun e he => ihvalues e he path
  | knot id _ ih =>
    rw [Datum.faultIn]
    split
    · rfl
    · exact ih _
  | _ => rfl

/-- A value of short integers that is nested no deeper than `depthLimit` has a text. -/
theorem Fits.fault? {v : Datum} (h : v.Fits depthLimit) : v.fault? = none := h.faultIn []

theorem mem_ofItems {xs : List Json} {v : Datum} (h : v ∈ ofItems xs) : ∃ x ∈ xs, v = .ofJson x := by
  induction xs with
  | nil => cases h
  | cons x xs ih =>
    rw [ofItems] at h
    rcases List.mem_cons.1 h with rfl | htail
    · exact ⟨x, List.mem_cons_self, rfl⟩
    · obtain ⟨y, hy, hv⟩ := ih htail
      exact ⟨y, List.mem_cons_of_mem x hy, hv⟩

theorem mem_ofMembers {ms : Json.Members} {e : Datum × Datum} (h : e ∈ ofMembers ms) :
    ∃ m ∈ ms, e = (.text m.1, .ofJson m.2) := by
  induction ms with
  | nil => cases h
  | cons m ms ih =>
    rw [ofMembers] at h
    rcases List.mem_cons.1 h with rfl | htail
    · exact ⟨m, List.mem_cons_self, rfl⟩
    · obtain ⟨n, hn, he⟩ := ih htail
      exact ⟨n, List.mem_cons_of_mem m hn, he⟩

end Writing

end Datum

namespace Json

open MergeGate.Text

/-- What fits as JSON fits as a value of a document. -/
theorem Fits.ofJson {room : Nat} {v : Json} (h : Fits room v) : (Datum.ofJson v).Fits room := by
  induction h with
  | null => exact .null
  | bool b => exact .bool b
  | int h => exact .int ((Datum.isOversized_eq_false_iff _).1 h)
  | number x => exact .number x
  | text s => exact .text s
  | list _ ih =>
    refine .list fun v hv => ?_
    obtain ⟨x, hx, rfl⟩ := Datum.mem_ofItems hv
    exact ih x hx
  | object _ ih =>
    refine .mapping (fun e he => ?_) fun e he => ?_
    · obtain ⟨m, hm, rfl⟩ := Datum.mem_ofMembers he
      exact .text m.1
    · obtain ⟨m, hm, rfl⟩ := Datum.mem_ofMembers he
      exact ih m hm

/-! ### Brackets -/

def isOpening (c : Char) : Bool := c = '[' || c = '\x7b'

/-- How many lists and objects a text opens at most. -/
def openingCount (cs : List Char) : Nat := cs.countP isOpening

theorem openingCount_le_of_suffix {cs ds : List Char} (h : cs <:+ ds) : openingCount cs ≤ openingCount ds :=
  h.sublist.countP_le

theorem openingCount_cons {c : Char} (h : isOpening c = true) (cs : List Char) :
    openingCount (c :: cs) = openingCount cs + 1 :=
  List.countP_cons_of_pos h

/-! ### One run of the reader -/

/-- What a run of the reader gives with some levels: a value that fits and an end of the text, or a fault,
    which is one of nesting only if the text has enough brackets. -/
def Reads (room levels : Nat) (cs : List Char) : Except Fault (Json × List Char) → Prop
  | .ok (v, rest) => Fits room v ∧ rest <:+ cs
  | .error (.tooDeep _) => levels < openingCount cs
  | .error _ => True

theorem Reads.of_suffix {room levels : Nat} {cs ds : List Char} {r : Except Fault (Json × List Char)}
    (h : Reads room levels cs r) (hs : cs <:+ ds) : Reads room levels ds r := by
  match r, h with
  | .ok (v, rest), h => exact ⟨h.1, h.2.trans hs⟩
  | .error (.tooDeep _), h => exact Nat.lt_of_lt_of_le h (openingCount_le_of_suffix hs)
  | .error (.malformed _ _), _ => exact trivial
  | .error (.tooManyDigits _), _ => exact trivial

theorem skipGap_suffix (cs : List Char) : skipGap cs <:+ cs := List.dropWhile_suffix isGap

theorem readCode?_suffix {cs rest : List Char} {n : Nat} (h : readCode? cs = some (n, rest)) : rest <:+ cs := by
  unfold readCode? at h
  split at h
  · split at h
    · cases h
      exact ⟨[_, _, _, _], rfl⟩
    · cases h
  · cases h

theorem suffix_two_cons {cs ds : List Char} (h : cs <:+ ds) (c d : Char) : cs <:+ c :: d :: ds :=
  h.trans ((List.suffix_cons d ds).trans (List.suffix_cons c (d :: ds)))

theorem readText_suffix {fuel : Nat} {done cs rest : List Char} {s : String}
    (h : readText fuel done cs = .ok (s, rest)) : rest <:+ cs := by
  fun_induction readText fuel done cs
  case case3 =>
    cases h
    exact List.suffix_cons _ _
  -- the first half of a pair that stands before another escape
  case case7 hcode _ ih => exact suffix_two_cons ((ih h).trans (readCode?_suffix hcode)) _ _
  case case9 hlow _ _ hcode _ ih =>
    have hmore := suffix_two_cons ((ih h).trans (readCode?_suffix hlow)) '\\' 'u'
    exact suffix_two_cons (hmore.trans (readCode?_suffix hcode)) _ _
  case case10 hcode _ ih => exact suffix_two_cons ((ih h).trans (readCode?_suffix hcode)) _ _
  -- any other escape
  case case11 hcode _ _ _ _ ih => exact suffix_two_cons ((ih h).trans (readCode?_suffix hcode)) _ _
  case case12 hcode _ _ _ ih => exact suffix_two_cons ((ih h).trans (readCode?_suffix hcode)) _ _
  case case13 ih => exact suffix_two_cons (ih h) _ _
  case case16 ih => exact (ih h).trans (List.suffix_cons _ _)
  all_goals cases h

theorem suffix_of_spanDigits {cs ds rest : List Char} (h : spanDigits cs = (ds, rest)) : rest <:+ cs := by
  rw [spanDigits, List.span_eq_takeWhile_dropWhile] at h
  cases h
  exact List.dropWhile_suffix isAsciiDigit

theorem readFraction_suffix (cs : List Char) : (readFraction cs).2 <:+ cs := by
  unfold readFraction
  split
  · split
    · exact List.suffix_rfl
    · exact (suffix_of_spanDigits rfl).trans (List.suffix_cons _ _)
  · exact List.suffix_rfl

theorem readExponent_suffix (cs : List Char) : (readExponent cs).2 <:+ cs := by
  unfold readExponent
  split
  · rename_i e rest
    split
    · dsimp only
      split
      · exact List.suffix_rfl
      · rename_i hspan
        refine (suffix_of_spanDigits hspan).trans (List.IsSuffix.trans ?_ (List.suffix_cons e rest))
        -- the sign is dropped, if there is one
        split
        · exact List.suffix_cons _ _
        · exact List.suffix_cons _ _
        · exact List.suffix_rfl
    · exact List.suffix_rfl
  · exact List.suffix_rfl

/-- A number gives a value that fits, whatever the room, and never a fault of nesting. -/
theorem reads_readNumber {negative : Bool} {cs : List Char} {r : Except Fault (Json × List Char)}
    (h : readNumber negative cs = some r) (room levels : Nat) : Reads room levels cs r := by
  unfold readNumber at h
  dsimp only at h
  rw [Option.map_eq_some_iff] at h
  obtain ⟨⟨ds, rest⟩, hwhole, hr⟩ := h
  have hrest : rest <:+ cs := by
    split at hwhole
    · cases hwhole
    · rename_i c tail
      split at hwhole
      · cases hwhole
        exact List.suffix_cons _ _
      · split at hwhole
        · exact suffix_of_spanDigits (Option.some.inj hwhole)
        · cases hwhole
  have hexponent := (readExponent_suffix (readFraction rest).2).trans ((readFraction_suffix rest).trans hrest)
  dsimp only at hr
  split at hr
  · split at hr
    · subst hr
      exact trivial
    · rename_i hlength
      subst hr
      refine ⟨.int (isOversized_of_digits ?_ (Nat.le_of_not_lt hlength)), hrest⟩
      cases negative
      · exact Int.natAbs_natCast _
      · exact (Int.natAbs_neg _).trans (Int.natAbs_natCast _)
  · subst hr
    exact ⟨.number _, hexponent⟩

theorem dropLead_suffix {pat cs rest : List Char} (h : dropLead pat cs = some rest) : rest <:+ cs := by
  induction pat generalizing cs with
  | nil =>
    cases h
    exact List.suffix_rfl
  | cons p pat ih =>
    cases cs with
    | nil => cases h
    | cons c cs =>
      rw [dropLead] at h
      split at h
      · exact (ih h).trans (List.suffix_cons c cs)
      · cases h

theorem reads_readScalar (cs : List Char) (room levels : Nat) : Reads room levels cs (readScalar cs) := by
  have hnumber : ∀ (negative : Bool) (more : List Char), more <:+ cs →
      Reads room levels cs ((readNumber negative more).getD (.error (.malformed .expectedValue cs.length))) := by
    intro negative more hmore
    cases h : readNumber negative more with
    | none => exact trivial
    | some r => exact (reads_readNumber h room levels).of_suffix hmore
  unfold readScalar
  dsimp only
  split
  · rename_i hword
    exact ⟨.null, dropLead_suffix hword⟩
  split
  · rename_i hword
    exact ⟨.bool true, dropLead_suffix hword⟩
  split
  · rename_i hword
    exact ⟨.bool false, dropLead_suffix hword⟩
  split
  · rename_i hword
    exact ⟨.number _, dropLead_suffix hword⟩
  split
  · rename_i hword
    exact ⟨.number _, dropLead_suffix hword⟩
  split
  · rename_i hword
    exact ⟨.number _, dropLead_suffix hword⟩
  split
  · exact hnumber true _ (List.suffix_cons _ _)
  · exact hnumber false cs List.suffix_rfl

theorem reads_toFault (room levels : Nat) (start cs : List Char) (e : TextFault) :
    Reads room levels cs (.error (e.toFault start)) := by
  cases e <;> exact trivial

/-! ### The whole reader -/

/-- A member that is put into others is one of them or the new one. -/
theorem Members.mem_put {ms : Members} {name : String} {v : Json} {m : String × Json}
    (h : m ∈ Members.put ms name v) : m ∈ ms ∨ m = (name, v) := by
  induction ms with
  | nil => exact .inr (List.mem_singleton.1 h)
  | cons n ms ih =>
    obtain ⟨k, w⟩ := n
    rw [Members.put] at h
    split at h
    · rename_i hk
      rcases List.mem_cons.1 h with rfl | htail
      · exact .inr (by rw [hk])
      · exact .inl (List.mem_cons_of_mem _ htail)
    · rcases List.mem_cons.1 h with rfl | htail
      · exact .inl List.mem_cons_self
      · exact (ih htail).imp_left (List.mem_cons_of_mem _)

theorem Members.mem_ofList {ms : List (String × Json)} {m : String × Json} (h : m ∈ Members.ofList ms) :
    m ∈ ms := by
  have hfold : ∀ out : Members, m ∈ ms.foldl (fun out m => Members.put out m.1 m.2) out → m ∈ out ∨ m ∈ ms := by
    clear h
    induction ms with
    | nil => exact fun out h => .inl h
    | cons n ms ih =>
      intro out h
      rcases ih _ h with hput | htail
      · rcases Members.mem_put hput with hout | rfl
        · exact .inl hout
        · exact .inr List.mem_cons_self
      · exact .inr (List.mem_cons_of_mem n htail)
  exact (hfold [] h).resolve_left List.not_mem_nil

/-- A fault says nothing of the room. -/
theorem Reads.error {room other levels : Nat} {cs : List Char} {e : Fault}
    (h : Reads room levels cs (.error e)) : Reads other levels cs (.error e) := by
  cases e <;> exact h

/-- What is read behind an opening bracket has one level less. -/
theorem Reads.opened {room levels : Nat} {cs ds : List Char} {r : Except Fault (Json × List Char)} {c : Char}
    (h : Reads room levels ds r) (hs : ds <:+ cs) (hc : isOpening c = true) :
    Reads room (levels + 1) (c :: cs) r := by
  have hcount := openingCount_cons hc cs
  match r, h.of_suffix hs with
  | .ok (v, rest), h => exact ⟨h.1, h.2.trans (List.suffix_cons c cs)⟩
  | .error (.tooDeep _), h =>
    change levels + 1 < openingCount (c :: cs)
    rw [hcount]
    exact Nat.succ_lt_succ h
  | .error (.malformed _ _), _ => exact trivial
  | .error (.tooManyDigits _), _ => exact trivial

theorem suffix_of_skipGap {cs rest : List Char} {c : Char} (h : skipGap cs = c :: rest) : rest <:+ cs :=
  (List.suffix_cons c rest).trans (h ▸ skipGap_suffix cs)

/-- What the reader of items, or of members, does with some fuel. -/
def ReadsItems (fuel : Nat) : Prop :=
  ∀ (depth : Nat) (done : List Json) (cs : List Char), (∀ x ∈ done, Fits depth x) →
    Reads (depth + 1) depth cs (readItems fuel depth done cs)

def ReadsMembers (fuel : Nat) : Prop :=
  ∀ (depth : Nat) (done : Members) (cs : List Char), (∀ m ∈ done, Fits depth m.2) →
    Reads (depth + 1) depth cs (readMembers fuel depth done cs)

def ReadsValue (fuel : Nat) : Prop :=
  ∀ (depth : Nat) (cs : List Char), Reads depth depth cs (readValue fuel depth cs)

section Step

variable {fuel : Nat}

theorem readsValue_succ (hitems : ReadsItems fuel) (hmembers : ReadsMembers fuel) : ReadsValue (fuel + 1) := by
  intro depth cs
  cases cs with
  | nil => exact trivial
  | cons c cs =>
    unfold readValue
    split
    · split
      · rename_i htext
        exact ⟨.text _, (readText_suffix htext).trans (List.suffix_cons c cs)⟩
      · exact reads_toFault _ _ _ _ _
    split
    · rename_i hbrace
      have hopen : isOpening c = true := by rw [hbrace]; rfl
      cases depth with
      | zero =>
        -- no level is left, and the bracket itself is one more than none
        change 0 < openingCount (c :: cs)
        rw [openingCount_cons hopen]
        exact Nat.succ_pos _
      | succ depth =>
        dsimp only
        split
        · rename_i hgap
          exact ⟨.object (by simp), (suffix_of_skipGap hgap).trans (List.suffix_cons c cs)⟩
        · exact (hmembers depth [] _ (by simp)).opened (skipGap_suffix cs) hopen
    split
    · rename_i hbracket
      have hopen : isOpening c = true := by rw [hbracket]; rfl
      cases depth with
      | zero =>
        change 0 < openingCount (c :: cs)
        rw [openingCount_cons hopen]
        exact Nat.succ_pos _
      | succ depth =>
        dsimp only
        split
        · rename_i hgap
          exact ⟨.list (by simp), (suffix_of_skipGap hgap).trans (List.suffix_cons c cs)⟩
        · exact (hitems depth [] _ (by simp)).opened (skipGap_suffix cs) hopen
    · exact reads_readScalar (c :: cs) depth depth

theorem readsItems_succ (hvalues : ReadsValue fuel) (hitems : ReadsItems fuel) : ReadsItems (fuel + 1) := by
  intro depth done cs hdone
  have hvalue := hvalues depth cs
  rw [readItems]
  split
  · rename_i hread
    rw [hread] at hvalue
    exact hvalue.error
  · rename_i v rest hread
    rw [hread] at hvalue
    obtain ⟨hfits, hrest⟩ := hvalue
    have hall : ∀ x ∈ v :: done, Fits depth x := List.forall_mem_cons.2 ⟨hfits, hdone⟩
    split
    · rename_i hgap
      refine ⟨.list ?_, (suffix_of_skipGap hgap).trans hrest⟩
      intro x hx
      exact hall x (List.mem_reverse.1 hx)
    · rename_i hgap
      have hnext := (skipGap_suffix _).trans ((suffix_of_skipGap hgap).trans hrest)
      exact (hitems depth _ _ hall).of_suffix hnext
    · exact trivial

theorem readsMembers_succ (hvalues : ReadsValue fuel) (hmembers : ReadsMembers fuel) :
    ReadsMembers (fuel + 1) := by
  intro depth done cs hdone
  unfold readMembers
  split
  · rename_i cs'
    split
    · exact reads_toFault _ _ _ _ _
    · rename_i name rest htext
      split
      · rename_i rest' hgap
        have hbefore : skipGap rest' <:+ '\x22' :: cs' :=
          (skipGap_suffix rest').trans ((suffix_of_skipGap hgap).trans
            ((readText_suffix htext).trans (List.suffix_cons _ cs')))
        have hvalue := hvalues depth (skipGap rest')
        split
        · rename_i hread
          rw [hread] at hvalue
          exact (hvalue.of_suffix hbefore).error
        · rename_i v rest'' hread
          rw [hread] at hvalue
          obtain ⟨hfits, hrest⟩ := hvalue
          have hall : ∀ m ∈ (name, v) :: done, Fits depth m.2 := List.forall_mem_cons.2 ⟨hfits, hdone⟩
          split
          · rename_i hgap
            refine ⟨.object ?_, (suffix_of_skipGap hgap).trans (hrest.trans hbefore)⟩
            intro m hm
            exact hall m (List.mem_reverse.1 (Members.mem_ofList hm))
          · rename_i hgap
            have hnext := (skipGap_suffix _).trans ((suffix_of_skipGap hgap).trans (hrest.trans hbefore))
            exact (hmembers depth _ _ hall).of_suffix hnext
          · exact trivial
      · exact trivial
  · exact trivial

end Step

theorem reads_all (fuel : Nat) : ReadsValue fuel ∧ ReadsItems fuel ∧ ReadsMembers fuel := by
  induction fuel with
  | zero => exact ⟨fun _ _ => trivial, fun _ _ _ _ => trivial, fun _ _ _ _ => trivial⟩
  | succ fuel ih =>
    obtain ⟨hvalue, hitems, hmembers⟩ := ih
    exact ⟨readsValue_succ hitems hmembers, readsItems_succ hvalue hitems, readsMembers_succ hvalue hmembers⟩

theorem readWhole_cases (cs : List Char) :
    (∃ v, readWhole cs = .ok v ∧ Fits maxDepth v) ∨
      ∃ e, readWhole cs = .error e ∧ ∀ inObject, e = .tooDeep inObject → maxDepth < openingCount cs := by
  have hvalue := ((reads_all (2 * cs.length + 1)).1 maxDepth (skipGap cs)).of_suffix (skipGap_suffix cs)
  unfold readWhole
  split
  · exact .inr ⟨_, rfl, by rintro _ ⟨⟩⟩
  · split
    · rename_i e hread
      rw [hread] at hvalue
      refine .inr ⟨e, rfl, ?_⟩
      rintro inObject rfl
      exact hvalue
    · rename_i v rest hread
      rw [hread] at hvalue
      split
      · exact .inl ⟨v, rfl, hvalue.1⟩
      · exact .inr ⟨_, rfl, by rintro _ ⟨⟩⟩

/-- A value that is read can be written. -/
theorem fits_of_read {cs : List Char} {v : Json} (h : read cs = .ok v) : Fits maxDepth v := by
  rw [read] at h
  rcases readWhole_cases cs with ⟨w, hread, hfits⟩ | ⟨e, hread, -⟩
  · rw [hread] at h
    cases h
    exact hfits
  · rw [hread] at h
    cases h

/-- Only a text with more opening brackets than levels is nested too deep. -/
theorem openingCount_of_tooDeep {cs : List Char} {inObject : Bool} (h : read cs = .error (.tooDeep inObject)) :
    maxDepth < openingCount cs := by
  rw [read] at h
  rcases readWhole_cases cs with ⟨w, hread, -⟩ | ⟨e, hread, hdeep⟩
  · rw [hread] at h
    cases h
  · rw [hread] at h
    cases e with
    | tooDeep b => exact hdeep b rfl
    | malformed d left => cases h
    | tooManyDigits n => cases h

end MergeGate.Json
