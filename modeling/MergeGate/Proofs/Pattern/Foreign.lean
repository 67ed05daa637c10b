import MergeGate.Proofs.Pattern.Reading

/-
  MergeGate/Proofs/Pattern/Foreign.lean
  =====================================
  **Where foreign faults come from.**  A fault of a pattern is foreign if it lies outside the
  grammar of patterns.  There are two kinds, and both can be seen in the text of the pattern
  (`ofText_foreign`): it holds more digits in a row than a number may have, or it holds the
  letters of both modes that exclude each other.

  Every step of the reading keeps the invariants of `Scan.Within`, and only two places make up a
  foreign cause: reading a count, and looking at the modes when the end is reached.  The four
  parts of the recursion over groups are treated together, by induction on the fuel.
-/

namespace MergeGate

namespace Pattern

open MergeGate.Text

variable {α : Type} {whole : List Token}

/-! ### Groups and escapes -/

theorem keeps_openGroup (name : Option (List Char)) : Keeps whole (openGroup name) := by
  unfold openGroup
  refine reads_get.bind fun s _ => ?_
  dsimp only
  refine Keeps.bind (keeps_modify ?_) fun _ => ?_
  · exact fun s hs => ⟨hs.rest, hs.modes⟩
  · cases name with
    | none => exact keeps_pure _
    | some name =>
      refine reads_get.bind fun s' _ => ?_
      split
      · exact reads_failBack (by trivial)
      · refine Keeps.bind (keeps_modify ?_) fun _ => keeps_pure _
        exact fun s hs => ⟨hs.rest, hs.modes⟩

theorem keeps_closeGroup (index : Nat) (width : Width) : Keeps whole (closeGroup index width) :=
  keeps_modify fun _ hs => ⟨hs.rest, hs.modes⟩

theorem keeps_checkLookbehind (index : Nat) : Keeps whole (checkLookbehind index) := by
  unfold checkLookbehind
  refine reads_get.bind fun s _ => ?_
  split
  · exact keeps_pure _
  · split
    · exact reads_failBack (by trivial)
    · split
      · exact reads_failBack (by trivial)
      · exact keeps_pure _

theorem keeps_hexEscape (letter : Char) (count : Nat) : Keeps whole (hexEscape letter count) := by
  unfold hexEscape
  refine (reads_takeSome isHex count).bind fun digits _ => ?_
  dsimp only
  split
  · exact reads_failBack (by trivial)
  · split
    · exact reads_failBack (by trivial)
    · exact keeps_pure _

theorem keeps_namedEscape : Keeps whole namedEscape := by
  unfold namedEscape
  refine (keeps_accept _).bind fun found => ?_
  split
  · exact reads_failBack (by trivial)
  · refine (keeps_takeName _ _).bind fun name => ?_
    split
    · exact keeps_pure _
    · exact reads_failBack (by trivial)

theorem keeps_octalCode (digits : List Char) : Keeps whole (octalCode digits) := by
  unfold octalCode
  dsimp only
  split
  · exact reads_failBack (by trivial)
  · exact keeps_pure _

theorem keeps_of_codeEscape? {c : Char} {read : Reading Escape} (h : codeEscape? c = some read) :
    Keeps whole read := by
  unfold codeEscape? at h
  split at h
  · cases h
    exact keeps_hexEscape _ _
  · split at h
    · cases h
      exact keeps_hexEscape _ _
    · split at h
      · cases h
        exact keeps_hexEscape _ _
      · split at h
        · cases h
          exact keeps_namedEscape
        · cases h

theorem keeps_plainEscape (c : Char) : Keeps whole (plainEscape c) := by
  unfold plainEscape
  split
  · exact reads_failBack (by trivial)
  · exact keeps_pure _

theorem keeps_setEscape (c : Char) : Keeps whole (setEscape c) := by
  unfold setEscape
  split
  · exact keeps_pure _
  · exact keeps_pure _
  · rename_i h _ _
    exact keeps_of_codeEscape? h
  · split
    · exact (reads_takeSome isOctal 2).bind fun _ _ => keeps_octalCode _
    · exact keeps_plainEscape c

theorem keeps_groupReference (digits : List Char) : Keeps whole (groupReference digits) := by
  unfold groupReference
  dsimp only
  refine reads_get.bind fun s _ => ?_
  split
  · exact reads_failBack (by trivial)
  · split
    · exact reads_failBack (by trivial)
    · exact (keeps_checkLookbehind _).bind fun _ => keeps_pure _

theorem keeps_digitEscape (c : Char) : Keeps whole (digitEscape c) := by
  unfold digitEscape
  refine (reads_takeSome isAsciiDigit 1).bind fun ds _ => ?_
  split
  · exact keeps_groupReference _
  · split
    · refine (reads_takeSome isOctal 1).bind fun es _ => ?_
      split
      · exact keeps_groupReference _
      · exact keeps_octalCode _
    · exact keeps_groupReference _

theorem keeps_escape (c : Char) : Keeps whole (escape c) := by
  unfold escape
  split
  · exact keeps_pure _
  · exact keeps_pure _
  · exact keeps_pure _
  · rename_i h _ _ _
    exact keeps_of_codeEscape? h
  · split
    · exact (reads_takeSome isOctal 2).bind fun _ _ => keeps_pure _
    · split
      · exact keeps_digitEscape c
      · exact keeps_plainEscape c

/-! ### Sets -/

theorem keeps_setMember (t : Token) : Keeps whole (setMember t) := by
  unfold setMember
  cases t with
  | plain c => exact keeps_pure _
  | escaped c =>
    refine (keeps_setEscape c).bind fun e => ?_
    split
    · exact keeps_pure _
    · exact keeps_pure _
    · exact reads_failBack (by trivial)

theorem keeps_setRange (low high : SetItem) (shownLow shownHigh : List Char) :
    Keeps whole (setRange low high shownLow shownHigh) := by
  unfold setRange
  dsimp only
  split
  · split
    · exact reads_failBack (by trivial)
    · exact keeps_pure _
  · exact reads_failBack (by trivial)

theorem keeps_setItems (opened n : Nat) (items : List SetItem) :
    Keeps whole (setItems opened n items) := by
  induction n generalizing items with
  | zero => exact reads_failAt (by trivial)
  | succ n ih =>
    unfold setItems
    refine reads_take.bind fun t _ => ?_
    cases t with
    | none => exact reads_failAt (by trivial)
    | some t =>
      dsimp only
      split
      · exact keeps_pure _
      · refine (keeps_setMember t).bind fun low => ?_
        refine (keeps_accept '-').bind fun found => ?_
        split
        · refine reads_take.bind fun u _ => ?_
          cases u with
          | none => exact reads_failAt (by trivial)
          | some u =>
            dsimp only
            split
            · exact keeps_pure _
            · refine (keeps_setMember u).bind fun high => ?_
              exact (keeps_setRange _ _ _ _).bind fun _ => ih _
        · exact ih _

theorem keeps_readSet : Keeps whole readSet := by
  unfold readSet
  refine reads_get.bind fun s _ => ?_
  refine (keeps_accept '^').bind fun negated => ?_
  refine reads_get.bind fun s' _ => ?_
  refine (keeps_setItems _ _ _).bind fun items => ?_
  split
  · exact keeps_pure _
  · exact keeps_pure _

/-! ### Repetition -/

/-- A count that is too long is a row of digits that stands in the pattern. -/
theorem keeps_readCount {digits : List Char}
    (h : (∀ c ∈ digits, isAsciiDigit c = true) ∧ digits.map Token.plain <:+: whole) :
    Keeps whole (readCount digits) := by
  unfold readCount
  split
  · exact keeps_pure _
  · split
    · rename_i hlimit
      have haccounted : Accounted whole (.countTooLong digits.length) := ⟨hlimit, digits, rfl, h⟩
      exact reads_failWhole haccounted
    · dsimp only
      split
      · exact reads_failWhole (by trivial)
      · exact keeps_pure _

theorem keeps_readBraces : Keeps whole readBraces := by
  unfold readBraces
  refine reads_get.bind fun opened hopened => ?_
  refine reads_peek.bind fun t _ => ?_
  split
  · exact keeps_pure _
  · refine (reads_takeAll isAsciiDigit).bind fun low hlow => ?_
    refine (keeps_accept ',').bind fun comma => ?_
    dsimp only
    refine Reads.ite_bind (reads_takeAll isAsciiDigit) (Reads.pure hlow) fun high hhigh => ?_
    refine (keeps_accept '\x7d').bind fun closed => ?_
    split
    · exact (keeps_set hopened).bind fun _ => keeps_pure _
    · refine (keeps_readCount hlow).bind fun least => ?_
      refine (keeps_readCount hhigh).bind fun greatest => ?_
      split
      · split
        · exact reads_failAt (by trivial)
        · exact keeps_pure _
      · exact keeps_pure _

theorem keeps_readBounds (c : Char) : Keeps whole (readBounds c) := by
  unfold readBounds
  split
  · exact keeps_pure _
  · split
    · exact keeps_pure _
    · split
      · exact keeps_pure _
      · exact keeps_readBraces

theorem keeps_readGreed : Keeps whole readGreed := by
  unfold readGreed
  refine (keeps_accept '?').bind fun lazily => ?_
  split
  · exact keeps_pure _
  · refine (keeps_accept '+').bind fun possessively => ?_
    split
    · exact keeps_pure _
    · exact keeps_pure _

theorem keeps_repeatLast (opened : Nat) (bounds : Bounds) (parts : List Part) :
    Keeps whole (repeatLast opened bounds parts) := by
  unfold repeatLast
  cases parts with
  | nil => exact reads_failAt (by trivial)
  | cons p ps =>
    dsimp only
    split
    · exact reads_failAt (by trivial)
    · exact reads_failAt (by trivial)
    · exact keeps_readGreed.bind fun _ => keeps_pure _

/-! ### Flags -/

/-- Switches for the whole pattern come from its letters. -/
def Switches.AreWritten (whole : List Token) : Switches → Prop
  | .whole on => ∀ m ∈ on, IsWritten whole m
  | .part _ _ => True

theorem accounted_flagFault (t : Token) {cause : Cause} (h : Accounted whole cause) :
    Accounted whole (flagFault t cause) := by
  unfold flagFault
  split
  · split
    · trivial
    · exact h
  · exact h

theorem isWritten_of_modeOf? {t : Token} {m : Mode} (ht : t ∈ whole) (h : modeOf? t = some m) :
    IsWritten whole m := by
  cases t with
  | plain c => exact ⟨c, ht, h⟩
  | escaped c => cases h

theorem reads_flagsOff (on : List Mode) (n : Nat) (off : List Mode) (m : Mode) :
    Reads whole (flagsOff on n off m) (Switches.AreWritten whole) := by
  induction n generalizing off m with
  | zero => exact reads_failBack (by trivial)
  | succ n ih =>
    unfold flagsOff
    split
    · exact reads_failBack (by trivial)
    · dsimp only
      refine reads_take.bind fun t _ => ?_
      cases t with
      | none => exact reads_failBack (by trivial)
      | some t =>
        dsimp only
        split
        · split
          · exact reads_failBack (by trivial)
          · split
            · exact reads_failBack (by trivial)
            · exact Reads.pure trivial
        · split
          · exact ih _ _
          · exact reads_failBack (accounted_flagFault t (by trivial))

theorem reads_flagsEnd {on : List Mode} (hon : ∀ m ∈ on, IsWritten whole m) (ending : Char) :
    Reads whole (flagsEnd on ending) (Switches.AreWritten whole) := by
  unfold flagsEnd
  split
  · exact Reads.pure hon
  · split
    · exact reads_failBack (by trivial)
    · split
      · refine reads_take.bind fun t _ => ?_
        cases t with
        | none => exact reads_failBack (by trivial)
        | some t =>
          dsimp only
          split
          · exact reads_get.bind fun _ _ => reads_flagsOff on _ _ _
          · exact reads_failBack (accounted_flagFault t (by trivial))
      · exact Reads.pure trivial

theorem reads_flagsOn {on : List Mode} (hon : ∀ m ∈ on, IsWritten whole m) (n : Nat) {m : Mode}
    (hm : IsWritten whole m) : Reads whole (flagsOn n on m) (Switches.AreWritten whole) := by
  induction n generalizing on m with
  | zero => exact reads_failBack (by trivial)
  | succ n ih =>
    have hon' : ∀ m' ∈ on ++ [m], IsWritten whole m' := by
      intro m' hm'
      rcases List.mem_append.mp hm' with hm' | hm'
      · exact hon m' hm'
      · rw [List.mem_singleton.mp hm']
        exact hm
    unfold flagsOn
    split
    · exact reads_failBack (by trivial)
    · dsimp only
      split
      · exact reads_failBack (by trivial)
      · refine reads_take.bind fun t ht => ?_
        cases t with
        | none => exact reads_failBack (by trivial)
        | some t =>
          dsimp only
          split
          · exact reads_flagsEnd hon' _
          · split
            · exact reads_flagsEnd hon' _
            · split
              · exact reads_flagsEnd hon' _
              · split
                · rename_i m' hmode
                  exact ih hon' (isWritten_of_modeOf? (ht t rfl) hmode)
                · exact reads_failBack (accounted_flagFault t (by trivial))

theorem reads_readFlags {first : Option Mode} (h : ∀ m ∈ first, IsWritten whole m) :
    Reads whole (readFlags first) (Switches.AreWritten whole) := by
  unfold readFlags
  cases first with
  | none => exact reads_flagsEnd (by simp) _
  | some m => exact reads_get.bind fun _ _ => reads_flagsOn (by simp) _ (h m rfl)

/-! ### Kinds of groups -/

/-- Flags for the whole pattern come from its letters. -/
def GroupKind.IsWritten (whole : List Token) : GroupKind → Prop
  | .whole on => ∀ m ∈ on, Pattern.IsWritten whole m
  | _ => True

theorem keeps_namedGroup (name : List Char) : Keeps whole (namedGroup name) := by
  unfold namedGroup
  refine reads_get.bind fun s _ => ?_
  split
  · exact reads_failBack (by trivial)
  · split
    · exact reads_failBack (by trivial)
    · exact (keeps_checkLookbehind _).bind fun _ => keeps_pure _

theorem keeps_checkName (name : List Char) : Keeps whole (checkName name) := by
  unfold checkName
  split
  · exact keeps_pure _
  · exact reads_failBack (by trivial)

theorem reads_namedKind : Reads whole namedKind (GroupKind.IsWritten whole) := by
  unfold namedKind
  refine (keeps_accept '<').bind fun opens => ?_
  split
  · refine (keeps_takeName _ _).bind fun name => ?_
    exact (keeps_checkName name).bind fun _ => Reads.pure trivial
  · refine (keeps_accept '=').bind fun refers => ?_
    split
    · refine (keeps_takeName _ _).bind fun name => ?_
      refine (keeps_checkName name).bind fun _ => ?_
      exact (keeps_namedGroup name).bind fun _ => Reads.pure trivial
    · refine reads_take.bind fun t _ => ?_
      cases t with
      | none => exact reads_failBack (by trivial)
      | some t => exact reads_failBack (by trivial)

theorem keeps_numberedGroup (name : List Char) : Keeps whole (numberedGroup name) := by
  unfold numberedGroup
  split
  · split
    · exact reads_failBack (by trivial)
    · split
      · exact reads_failBack (by trivial)
      · refine reads_get.bind fun s hs => ?_
        dsimp only
        split
        · refine Keeps.bind (keeps_set ?_) fun _ => keeps_pure _
          exact ⟨hs.rest, hs.modes⟩
        · exact keeps_pure _
  · exact reads_failBack (by trivial)

theorem reads_conditionKind : Reads whole conditionKind (GroupKind.IsWritten whole) := by
  unfold conditionKind
  refine (keeps_takeName _ _).bind fun name => ?_
  dsimp only
  have hcheck : ∀ index, Reads whole (do checkLookbehind index; return .conditional index)
      (GroupKind.IsWritten whole) :=
    fun index => (keeps_checkLookbehind index).bind fun _ => Reads.pure trivial
  split
  · refine reads_get.bind fun s _ => ?_
    split
    · exact (keeps_pure _).bind hcheck
    · exact Keeps.bind (reads_failBack (by trivial)) hcheck
  · exact (keeps_numberedGroup name).bind hcheck

theorem reads_groupKind (opened : Nat) :
    Reads whole (groupKind opened) (GroupKind.IsWritten whole) := by
  unfold groupKind
  refine (keeps_accept '?').bind fun special => ?_
  split
  · exact Reads.pure trivial
  · refine reads_take.bind fun t ht => ?_
    cases t with
    | none => exact reads_failBack (by trivial)
    | some t =>
      dsimp only
      split
      · exact reads_namedKind
      · exact Reads.pure trivial
      · refine reads_get.bind fun s _ => ?_
        refine (keeps_skipPast _ _).bind fun found => ?_
        split
        · exact Reads.pure trivial
        · exact reads_failAt (by trivial)
      · exact Reads.pure trivial
      · exact Reads.pure trivial
      · refine reads_take.bind fun u _ => ?_
        split
        · exact reads_failBack (by trivial)
        · exact Reads.pure trivial
        · exact Reads.pure trivial
        · exact reads_failBack (by trivial)
      · exact reads_conditionKind
      · exact Reads.pure trivial
      · split
        · have hfirst : ∀ m ∈ modeOf? t, Pattern.IsWritten whole m :=
            fun m hm => isWritten_of_modeOf? (ht t rfl) hm
          refine (reads_readFlags hfirst).bind fun switches hswitches => ?_
          cases switches with
          | whole on => exact Reads.pure hswitches
          | part on off => exact Reads.pure trivial
        · exact reads_failBack (by trivial)

theorem keeps_closeParenthesis (opened : Nat) : Keeps whole (closeParenthesis opened) := by
  unfold closeParenthesis
  refine (keeps_accept ')').bind fun closed => ?_
  split
  · exact reads_failAt (by trivial)
  · exact keeps_pure _

theorem keeps_escapeNode (e : Escape) : Keeps whole (escapeNode e) := by
  unfold escapeNode
  cases e with
  | code n => exact keeps_pure _
  | ofClass kind negated => exact keeps_pure _
  | anchor a => exact keeps_pure _
  | reference index => exact reads_get.bind fun _ _ => keeps_pure _

theorem keeps_insideLookbehind {read : Reading α} (h : Keeps whole read) :
    Keeps whole (insideLookbehind read) := by
  unfold insideLookbehind
  refine reads_get.bind fun s _ => ?_
  dsimp only
  refine Keeps.bind (keeps_modify ?_) fun _ => ?_
  · exact fun s hs => ⟨hs.rest, hs.modes⟩
  · refine h.bind fun a => ?_
    refine Keeps.bind (keeps_modify ?_) fun _ => keeps_pure _
    exact fun s hs => ⟨hs.rest, hs.modes⟩

/-! ### Sequences and alternatives -/

variable {n : Nat}

/-- Alternatives whose sequences keep to the tokens. -/
theorem keeps_alternatives_succ
    (hsequence : ∀ depth spaced leading parts,
      Keeps whole (sequence n depth spaced leading parts))
    (halternatives : ∀ depth spaced before, Keeps whole (alternatives n depth spaced before))
    (depth : Nat) (spaced : Bool) (before : List Node) :
    Keeps whole (alternatives (n + 1) depth spaced before) := by
  unfold alternatives
  split
  · exact reads_failWhole (by trivial)
  · refine (hsequence _ _ _ _).bind fun node => ?_
    refine (keeps_accept '|').bind fun more => ?_
    split
    · exact reads_get.bind fun s _ => halternatives _ _ _
    · exact keeps_pure _

/-- The branches of a condition whose sequences keep to the tokens. -/
theorem keeps_branches_succ
    (hsequence : ∀ depth spaced leading parts,
      Keeps whole (sequence n depth spaced leading parts))
    (depth : Nat) (spaced : Bool) (opened index : Nat) :
    Keeps whole (branches (n + 1) depth spaced opened index) := by
  unfold branches
  split
  · exact reads_failWhole (by trivial)
  · refine (hsequence _ _ _ _).bind fun yes => ?_
    refine (keeps_accept '|').bind fun more => ?_
    dsimp only
    have hclose : ∀ no, Keeps whole (do
        closeParenthesis opened
        return Node.conditional index yes no) :=
      fun no => (keeps_closeParenthesis opened).bind fun _ => keeps_pure _
    split
    · refine (hsequence _ _ _ _).bind fun no => ?_
      refine reads_peek.bind fun t _ => ?_
      split
      · exact Keeps.bind (reads_failBack (by trivial)) hclose
      · exact (keeps_pure _).bind hclose
    · exact (keeps_pure _).bind hclose

/-- The content of a group whose alternatives keep to the tokens. -/
theorem keeps_content_succ
    (halternatives : ∀ depth spaced before, Keeps whole (alternatives n depth spaced before))
    (depth : Nat) (spaced : Bool) (opened : Nat) (kind : GroupKind) :
    Keeps whole (content (n + 1) depth spaced opened kind) := by
  have hbody : ∀ (spaced : Bool) (f : Node → Node), Keeps whole (do
      let body ← alternatives n (depth + 2) spaced []
      closeParenthesis opened
      return f body) := by
    intro spaced f
    refine (halternatives _ _ _).bind fun body => ?_
    exact (keeps_closeParenthesis opened).bind fun _ => keeps_pure _
  unfold content
  split
  · exact hbody spaced _
  · refine (keeps_insideLookbehind (halternatives _ _ _)).bind fun body => ?_
    exact (keeps_closeParenthesis opened).bind fun _ => keeps_pure _
  · refine (keeps_openGroup _).bind fun index => ?_
    refine (halternatives _ _ _).bind fun body => ?_
    refine (keeps_closeParenthesis opened).bind fun _ => ?_
    exact (keeps_closeGroup index body.width).bind fun _ => keeps_pure _
  · exact hbody _ _
  · exact hbody spaced _
  · exact hbody spaced _

/-- A group in a sequence, of which the rest of the sequence, the branches and the content keep to
    the tokens. -/
theorem keeps_group
    (hsequence : ∀ depth spaced leading parts,
      Keeps whole (sequence n depth spaced leading parts))
    (hbranches : ∀ depth spaced opened index,
      Keeps whole (branches n depth spaced opened index))
    (hcontent : ∀ depth spaced opened kind, Keeps whole (content n depth spaced opened kind))
    (depth : Nat) (spaced leading : Bool) (parts : List Part) (opened : Nat) :
    Keeps whole (do
      match ← groupKind opened with
      | .remark => sequence n depth spaced leading parts
      | .whole on =>
        modify fun s => { s with modes := s.modes ++ on }
        if !leading || !parts.isEmpty then failAt .lateFlags opened
        else
          let s ← get
          sequence n depth s.isSpaced leading parts
      | .reference index width =>
        sequence n depth spaced leading (⟨.reference index width, .other⟩ :: parts)
      | .conditional index =>
        let node ← branches n depth spaced opened index
        sequence n depth spaced leading (⟨node, .other⟩ :: parts)
      | kind =>
        let node ← content n depth spaced opened kind
        sequence n depth spaced leading (⟨node, .other⟩ :: parts)) := by
  refine (reads_groupKind opened).bind fun kind hkind => ?_
  split
  · exact hsequence _ _ _ _
  · rename_i on
    refine Keeps.bind (keeps_modify ?_) fun _ => ?_
    · intro s hs
      refine ⟨hs.rest, fun m hm => ?_⟩
      rcases List.mem_append.mp hm with hm | hm
      · exact hs.modes m hm
      · exact hkind m hm
    · split
      · exact reads_failAt (by trivial)
      · exact reads_get.bind fun s _ => hsequence _ _ _ _
  · exact hsequence _ _ _ _
  · exact (hbranches _ _ _ _).bind fun node => hsequence _ _ _ _
  · exact (hcontent _ _ _ _).bind fun node => hsequence _ _ _ _

theorem keeps_sequence_succ
    (hsequence : ∀ depth spaced leading parts,
      Keeps whole (sequence n depth spaced leading parts))
    (hbranches : ∀ depth spaced opened index,
      Keeps whole (branches n depth spaced opened index))
    (hcontent : ∀ depth spaced opened kind, Keeps whole (content n depth spaced opened kind))
    (depth : Nat) (spaced leading : Bool) (parts : List Part) :
    Keeps whole (sequence (n + 1) depth spaced leading parts) := by
  unfold sequence
  refine reads_peek.bind fun t _ => ?_
  split
  · exact keeps_pure _
  · exact keeps_pure _
  · exact keeps_pure _
  · rename_i token _ _ _
    refine reads_get.bind fun s _ => ?_
    dsimp only
    refine reads_take.bind fun _ _ => ?_
    cases token with
    | escaped c =>
      refine (keeps_escape c).bind fun e => ?_
      exact (keeps_escapeNode e).bind fun part => hsequence _ _ _ _
    | plain c =>
      dsimp only
      split
      · exact hsequence _ _ _ _
      · split
        · refine reads_get.bind fun s' _ => ?_
          exact (keeps_skipPast _ _).bind fun _ => hsequence _ _ _ _
        · split
          · exact keeps_readSet.bind fun node => hsequence _ _ _ _
          · split
            · refine (keeps_readBounds c).bind fun bounds => ?_
              split
              · exact hsequence _ _ _ _
              · exact (keeps_repeatLast _ _ _).bind fun parts' => hsequence _ _ _ _
            · split
              · exact hsequence _ _ _ _
              · split
                · exact hsequence _ _ _ _
                · split
                  · exact hsequence _ _ _ _
                  · split
                    · exact keeps_group hsequence hbranches hcontent _ _ _ _ _
                    · exact hsequence _ _ _ _

/-- The four parts of the recursion, by induction on the fuel that they share. -/
theorem keeps_recursion (n : Nat) :
    (∀ depth spaced before, Keeps whole (alternatives n depth spaced before)) ∧
    (∀ depth spaced leading parts, Keeps whole (sequence n depth spaced leading parts)) ∧
    (∀ depth spaced opened index, Keeps whole (branches n depth spaced opened index)) ∧
    (∀ depth spaced opened kind, Keeps whole (content n depth spaced opened kind)) := by
  induction n with
  | zero =>
    refine ⟨?_, ?_, ?_, ?_⟩
    · intro depth spaced before
      unfold alternatives
      exact reads_failWhole (by trivial)
    · intro depth spaced leading parts
      unfold sequence
      exact reads_failWhole (by trivial)
    · intro depth spaced opened index
      unfold branches
      exact reads_failWhole (by trivial)
    · intro depth spaced opened kind
      unfold content
      exact reads_failWhole (by trivial)
  | succ n ih =>
    obtain ⟨halternatives, hsequence, hbranches, hcontent⟩ := ih
    exact ⟨keeps_alternatives_succ hsequence halternatives,
      keeps_sequence_succ hsequence hbranches hcontent,
      keeps_branches_succ hsequence,
      keeps_content_succ halternatives⟩

theorem keeps_alternatives (n depth : Nat) (spaced : Bool) (before : List Node) :
    Keeps whole (alternatives n depth spaced before) :=
  (keeps_recursion n).1 depth spaced before

/-! ### The text of a pattern -/

/-- The tokens of a text, written one after the other, and what is left behind them. -/
theorem flatMap_chars_tokensOf (cs : List Char) :
    ∃ tail, (tokensOf cs).1.flatMap Token.chars ++ tail = cs := by
  induction cs using tokensOf.induct with
  | case1 => exact ⟨[], rfl⟩
  | case2 => exact ⟨['\\'], rfl⟩
  | case3 c cs ih =>
    obtain ⟨tail, htail⟩ := ih
    refine ⟨tail, ?_⟩
    rw [tokensOf]
    simp only [List.flatMap_cons, Token.chars, List.cons_append, List.nil_append, htail]
  | case4 c cs hlast hescape ih =>
    obtain ⟨tail, htail⟩ := ih
    refine ⟨tail, ?_⟩
    rw [tokensOf]
    · simp only [List.flatMap_cons, Token.chars, List.cons_append, List.nil_append, htail]
    · exact hlast
    · exact hescape

/-- Plain tokens in a row are characters in a row. -/
theorem isInfix_of_map_plain {ds cs : List Char}
    (h : ds.map Token.plain <:+: (tokensOf cs).1) : ds <:+: cs := by
  obtain ⟨before, behind, htokens⟩ := h
  obtain ⟨tail, htail⟩ := flatMap_chars_tokensOf cs
  have hplain : (ds.map Token.plain).flatMap Token.chars = ds := by
    rw [List.flatMap_map]
    exact List.flatMap_singleton' ds
  refine ⟨before.flatMap Token.chars, behind.flatMap Token.chars ++ tail, ?_⟩
  rw [← htail, ← htokens]
  simp only [List.flatMap_append, hplain, List.append_assoc]

theorem eq_a_of_ofLetter? {c : Char} (h : Mode.ofLetter? c = some .ascii) : c = 'a' := by
  unfold Mode.ofLetter? at h
  split at h <;> cases h
  rfl

theorem eq_u_of_ofLetter? {c : Char} (h : Mode.ofLetter? c = some .unicode) : c = 'u' := by
  unfold Mode.ofLetter? at h
  split at h <;> cases h
  rfl

/-- What keeps a tree from being matched is a fault of the pattern itself. -/
theorem isForeign_of_fault? {plain : Bool} {node : Node} {cause : Cause}
    (h : node.fault? plain = some cause) : cause.isForeign = false := by
  have hor : ∀ {a b : Node}, (a.fault? plain = some cause → cause.isForeign = false) →
      (b.fault? plain = some cause → cause.isForeign = false) →
      (a.fault? plain).or (b.fault? plain) = some cause → cause.isForeign = false := by
    intro a b ha hb hcause
    rcases Option.or_eq_some_iff.mp hcause with hcause | ⟨_, hcause⟩
    · exact ha hcause
    · exact hb hcause
  -- a fault is a node's own, which is never foreign, or that of one of its parts
  induction node with
  | cat a b iha ihb => exact hor iha ihb h
  | alt a b iha ihb => exact hor iha ihb h
  | conditional index a b iha ihb => exact hor iha ihb h
  | group index body ih => exact ih h
  | «scoped» on off body ih => exact ih h
  | atomic body ih => exact ih h
  | ahead negated body ih => exact ih h
  | behind width negated body ih =>
    simp only [Node.fault?] at h
    split at h
    · cases h
      rfl
    · split at h
      · cases h
        rfl
      · exact ih h
  | repeated least greatest greed body ih =>
    simp only [Node.fault?] at h
    split at h
    · cases h
      rfl
    · exact ih h
  | empty => cases h
  | code n => cases h
  | notCode n => cases h
  | any => cases h
  | set negated items => cases h
  | anchor a => cases h
  | reference index width => cases h

/-- A reading that reaches its end has a foreign fault only for contrary modes. -/
theorem finish_foreign {node : Node} {s : Scan} {f : Fault} (h : finish node s = .error f)
    (hforeign : f.cause.isForeign = true) :
    f.cause = .contraryModes ∧ Mode.ascii ∈ s.modes ∧ Mode.unicode ∈ s.modes := by
  unfold finish at h
  split at h
  · rename_i hmodes
    rw [Bool.and_eq_true, List.contains_iff_mem, List.contains_iff_mem] at hmodes
    cases h
    exact ⟨rfl, hmodes⟩
  · split at h
    · cases h
      cases hforeign
    · split at h
      · cases h
        cases hforeign
      · split at h
        · rename_i cause hcause
          cases h
          rw [isForeign_of_fault? hcause] at hforeign
          cases hforeign
        · cases h

/-- A fault that is none of the grammar of patterns comes from a count with more digits than a
    number may have, or from the letters of two contrary modes. -/
theorem ofText_foreign {cs : List Char} {f : Fault} (h : ofText cs = .error f)
    (hforeign : f.cause.isForeign = true) :
    (∃ ds : List Char, ds <:+: cs ∧ (∀ d ∈ ds, isAsciiDigit d = true) ∧ digitLimit < ds.length ∧
      f.cause = .countTooLong ds.length) ∨
    (f.cause = .contraryModes ∧ 'a' ∈ cs ∧ 'u' ∈ cs) := by
  have hmem : ∀ {c : Char}, Token.plain c ∈ (tokensOf cs).1 → c ∈ cs := by
    intro c hc
    have hwithin : [c].map Token.plain <:+: (tokensOf cs).1 := (List.singleton_infix_iff _ _).mpr hc
    exact (List.singleton_infix_iff _ _).mp (isInfix_of_map_plain hwithin)
  unfold ofText at h
  dsimp only at h
  split at h
  · cases h
    cases hforeign
  · have hstart : Scan.Within (tokensOf cs).1
        { rest := (tokensOf cs).1, dangling := (tokensOf cs).2 } := by
      exact ⟨List.suffix_refl _, by simp⟩
    -- the reader keeps what it has met within the text, so a foreign cause is one of the text
    have hrun := keeps_alternatives (3 * cs.length + 3) 0 false [] _ hstart
    simp only [StateT.run] at h
    split at h
    · rename_i fault herror
      cases h
      rw [herror] at hrun
      obtain ⟨cause, position⟩ := f
      cases cause with
      | countTooLong n =>
        obtain ⟨hlimit, ds, rfl, hds, hwithin⟩ := hrun
        exact .inl ⟨ds, isInfix_of_map_plain hwithin, hds, hlimit, rfl⟩
      | contraryModes => exact hrun.elim
      | _ => cases hforeign
    · rename_i node s hok
      rw [hok] at hrun
      obtain ⟨hcause, hascii, hunicode⟩ := finish_foreign h hforeign
      obtain ⟨c, hc, hletter⟩ := hrun.1.modes _ hascii
      obtain ⟨d, hd, hletter'⟩ := hrun.1.modes _ hunicode
      rw [eq_a_of_ofLetter? hletter] at hc
      rw [eq_u_of_ofLetter? hletter'] at hd
      exact .inr ⟨hcause, hmem hc, hmem hd⟩

end Pattern

end MergeGate
