import MergeGate.Violation

/-
  MergeGate/Proofs/Policy/Overrides.lean
  ======================================
  **Levels given one after the other.**  A level that is given to a rule replaces the one that the rule
  had, so of several the last counts (`get?_ofList`), and each rule has one (`nodup_ofList`).  Levels
  of distinct rules stand as they are given (`ofList_of_nodup`).
-/

namespace MergeGate.Overrides

def putAll (os : Overrides) (ps : List (String × Level)) : Overrides := ps.foldl (fun os p => os.put p.1 p.2) os

def ofList (ps : List (String × Level)) : Overrides := putAll [] ps

def names (os : Overrides) : List String := os.map Prod.fst

theorem get?_put (os : Overrides) (name other : String) (l : Level) :
    (os.put name l).get? other = if name = other then some l else os.get? other := by
  induction os with
  | nil => rfl
  | cons p os ih =>
    obtain ⟨k, m⟩ := p
    by_cases hk : k = name
    · subst hk
      by_cases ho : k = other <;> simp [put, get?, ho]
    · rw [put, if_neg hk, get?, get?, ih]
      by_cases ho : k = other
      · have hne : ¬ name = other := fun h => hk (ho.trans h.symm)
        rw [if_pos ho, if_pos ho, if_neg hne]
      · rw [if_neg ho, if_neg ho]

theorem names_put_of_mem {os : Overrides} {name : String} (h : name ∈ os.names) (l : Level) :
    (os.put name l).names = os.names := by
  induction os with
  | nil => cases h
  | cons p os ih =>
    obtain ⟨k, m⟩ := p
    by_cases hk : k = name
    · rw [put, if_pos hk]
      rfl
    · have htail : name ∈ names os := by
        rcases List.mem_cons.1 h with heq | htail
        · exact absurd heq.symm hk
        · exact htail
      rw [put, if_neg hk]
      exact congrArg (k :: ·) (ih htail)

theorem put_of_not_mem {os : Overrides} {name : String} (h : name ∉ os.names) (l : Level) :
    os.put name l = os ++ [(name, l)] := by
  induction os with
  | nil => rfl
  | cons p os ih =>
    obtain ⟨k, m⟩ := p
    have hk : ¬ k = name := fun heq => h (heq ▸ List.mem_cons_self)
    have htail : name ∉ names os := fun hmem => h (List.mem_cons_of_mem k hmem)
    rw [put, if_neg hk, ih htail]
    rfl

theorem nodup_put {os : Overrides} (h : os.names.Nodup) (name : String) (l : Level) :
    (os.put name l).names.Nodup := by
  by_cases hmem : name ∈ os.names
  · rw [names_put_of_mem hmem]
    exact h
  · rw [put_of_not_mem hmem, names, List.map_append]
    refine List.nodup_append.2 ⟨h, List.pairwise_singleton _ _, ?_⟩
    intro a ha b hb heq
    obtain rfl : b = name := List.mem_singleton.1 hb
    exact hmem (heq ▸ ha)

theorem mem_put {os : Overrides} {name : String} {l : Level} {p : String × Level}
    (h : p ∈ os.put name l) : p ∈ os ∨ p = (name, l) := by
  induction os with
  | nil => exact .inr (List.mem_singleton.1 h)
  | cons q os ih =>
    obtain ⟨k, m⟩ := q
    by_cases hk : k = name
    · rw [put, if_pos hk] at h
      rcases List.mem_cons.1 h with rfl | htail
      · exact .inr (by rw [hk])
      · exact .inl (List.mem_cons_of_mem _ htail)
    · rw [put, if_neg hk] at h
      rcases List.mem_cons.1 h with rfl | htail
      · exact .inl List.mem_cons_self
      · exact (ih htail).imp_left (List.mem_cons_of_mem _)

theorem putAll_cons (os : Overrides) (p : String × Level) (ps : List (String × Level)) :
    os.putAll (p :: ps) = (os.put p.1 p.2).putAll ps := rfl

/-- Of the levels that are given to a rule the last counts. -/
theorem get?_putAll (os : Overrides) (ps : List (String × Level)) (name : String) :
    (os.putAll ps).get? name = ((ps.reverse.find? fun p => p.1 = name).map Prod.snd).or (os.get? name) := by
  induction ps generalizing os with
  | nil => rfl
  | cons p ps ih =>
    rw [putAll_cons, ih, get?_put, List.reverse_cons, List.find?_append]
    cases ps.reverse.find? fun p => p.1 = name with
    | some q => rfl
    | none => by_cases h : p.1 = name <;> simp [h]

theorem get?_ofList (ps : List (String × Level)) (name : String) :
    (ofList ps).get? name = (ps.reverse.find? fun p => p.1 = name).map Prod.snd := by
  rw [ofList, get?_putAll]
  exact Option.or_none

theorem nodup_putAll {os : Overrides} (h : os.names.Nodup) (ps : List (String × Level)) :
    (os.putAll ps).names.Nodup := by
  induction ps generalizing os with
  | nil => exact h
  | cons p ps ih => exact ih (nodup_put h p.1 p.2)

theorem nodup_ofList (ps : List (String × Level)) : (ofList ps).names.Nodup := by
  have hnil : (names []).Nodup := List.nodup_nil
  exact nodup_putAll hnil ps

theorem mem_putAll {os : Overrides} {ps : List (String × Level)} {p : String × Level}
    (h : p ∈ os.putAll ps) : p ∈ os ∨ p ∈ ps := by
  induction ps generalizing os with
  | nil => exact .inl h
  | cons q ps ih =>
    rcases ih h with hput | htail
    · rcases mem_put hput with hos | rfl
      · exact .inl hos
      · exact .inr List.mem_cons_self
    · exact .inr (List.mem_cons_of_mem q htail)

theorem mem_ofList {ps : List (String × Level)} {p : String × Level} (h : p ∈ ofList ps) : p ∈ ps :=
  (mem_putAll h).resolve_left List.not_mem_nil

/-- Levels of distinct rules stand as they are given. -/
theorem putAll_of_nodup {os : Overrides} {ps : List (String × Level)} (h : (names (os ++ ps)).Nodup) :
    os.putAll ps = os ++ ps := by
  induction ps generalizing os with
  | nil => exact (List.append_nil os).symm
  | cons p ps ih =>
    have hshift : os ++ p :: ps = (os ++ [p]) ++ ps := by rw [List.append_assoc, List.singleton_append]
    have hfresh : p.1 ∉ os.names := by
      intro hmem
      rw [names, List.map_append] at h
      exact (List.nodup_append.1 h).2.2 _ hmem _ List.mem_cons_self rfl
    rw [putAll_cons, put_of_not_mem hfresh, hshift]
    exact ih (hshift ▸ h)

theorem ofList_of_nodup {ps : List (String × Level)} (h : (names ps).Nodup) : ofList ps = ps := by
  have hnil : (names ([] ++ ps)).Nodup := h
  exact putAll_of_nodup hnil

end MergeGate.Overrides
