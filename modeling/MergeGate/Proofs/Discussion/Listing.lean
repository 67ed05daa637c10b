import MergeGate.Proofs.Discussion.Server

/-
  MergeGate/Proofs/Discussion/Listing.lean
  ========================================
  **Page after page.**  An errand that reads asks for the pages one after the other, as long as what
  it gets is a full page (`Response.IsFull`).  Any responses are some full pages and then, if there is
  more, one that is not full.  The full pages only add their comments to those found
  (`Errand.runFrom_full`), and the next response ends the reading.

  A server that keeps a list of any items and gives it out in slices (`Lists`) is therefore asked for as
  many pages as are full and for one more, and the comments among the items are what is found
  (`Lists.run_list`).
-/

namespace MergeGate.Discussion

open MergeGate.Text

/-! ### What a response lists -/

/-- The items that a response lists; none if it is refused or is no list. -/
def Response.items (r : Response) : List Json :=
  match r.value with
  | .ok (.list items) => items
  | _ => []

def Response.comments (r : Response) : List Json := r.items.filter isComment

/-- A list of as many items as a page can have. -/
def Response.IsFull (r : Response) : Prop := pageSize ≤ r.items.length

instance (r : Response) : Decidable r.IsFull := inferInstanceAs (Decidable (pageSize ≤ r.items.length))

section Responses

variable {r : Response} {v : Json}

theorem Response.IsFull.value_eq (h : r.IsFull) : r.value = .ok (.list r.items) := by
  unfold IsFull at h
  unfold items at h ⊢
  split at h
  · rename_i items hvalue
    rw [hvalue]
  · exact absurd h (by decide)

theorem Response.Grants.items_eq {vs : List Json} (h : r.Grants (.list vs)) : r.items = vs := by
  rw [Response.items, h.value_eq]

theorem Response.readPage_eq (h : r.value = .ok v) : readPage v = (r.comments, decide r.IsFull) := by
  cases v with
  | list vs => simp [readPage, Response.comments, Response.IsFull, Response.items, h]
  | null | bool | int | number | text | object =>
    simp [readPage, Response.comments, Response.IsFull, Response.items, h, pageSize]

end Responses

/-! ### Reading -/

/-- The requests for the first pages. -/
def firstPages (issue : Issue) (k : Nat) : List Request := (List.range' 1 k).map (.page issue)

theorem firstPages_succ (issue : Issue) (k : Nat) :
    firstPages issue (k + 1) = firstPages issue k ++ [.page issue (k + 1)] := by
  rw [firstPages, List.range'_1_concat, List.map_append, List.map_singleton, Nat.add_comm 1, firstPages]

theorem length_firstPages (issue : Issue) (k : Nat) : (firstPages issue k).length = k := by
  simp [firstPages]

namespace Errand

variable {r : Response} {v : Json} {full : List Response}

theorem advance_full (e : Errand) (issue : Issue) (page : Nat) (found : List Json) (h : r.IsFull) :
    e.advance (.reading issue page found) r = (.reading issue (page + 1) (found ++ r.comments), []) := by
  rw [advance, h.value_eq]
  simp only [Response.readPage_eq h.value_eq, decide_eq_true h]
  rfl

theorem advance_last (e : Errand) (issue : Issue) (page : Nat) (found : List Json) (h : ¬ r.IsFull)
    (hvalue : r.value = .ok v) :
    e.advance (.reading issue page found) r = e.afterReading (found ++ r.comments) := by
  rw [advance, hvalue]
  simp only [Response.readPage_eq hvalue, decide_eq_false h]
  rfl

theorem afterReading_list (issue : Issue) (found : List Json) :
    (Errand.list issue).afterReading found = (.over (.ok (.list found)), []) := rfl

/-- Full pages are read one after the other, and then the errand goes on with all that they list. -/
theorem runFrom_full (e : Errand) (issue : Issue) (page : Nat) (found : List Json)
    (h : ∀ r ∈ full, r.IsFull) (rest : List Response) :
    e.runFrom (.reading issue page found) (full ++ rest) =
      let later := e.runFrom (.reading issue (page + full.length) (found ++ full.flatMap Response.comments)) rest
      { later with requests := (List.range' page full.length).map (.page issue) ++ later.requests } := by
  induction full generalizing page found with
  | nil => simp
  | cons r full ih =>
    rw [List.forall_mem_cons] at h
    rw [List.cons_append, e.runFrom_asks rfl, e.advance_full issue page found h.1]
    dsimp only
    rw [ih (page + 1) (found ++ r.comments) h.2, List.length_cons, List.range'_succ, List.flatMap_cons,
      List.append_assoc, Nat.add_assoc, Nat.add_comm 1]
    rfl

/-- A page that is not full is the last one, and all comments that were listed are known. -/
theorem runFrom_last (e : Errand) (issue : Issue) (hfull : ∀ r ∈ full, r.IsFull) (hlast : ¬ r.IsFull)
    (hvalue : r.value = .ok v) (rest : List Response) :
    e.runFrom (.reading issue 1 []) (full ++ r :: rest) =
      let after := e.afterReading (full.flatMap Response.comments ++ r.comments)
      let later := e.runFrom after.1 rest
      { later with requests := firstPages issue (full.length + 1) ++ later.requests
                   notes := after.2 ++ later.notes } := by
  rw [e.runFrom_full issue 1 [] hfull, List.nil_append, e.runFrom_asks rfl, e.advance_last _ _ _ hlast hvalue,
    firstPages_succ, Nat.add_comm 1]
  dsimp only
  rw [List.append_assoc]
  rfl

end Errand

/-! ### A server with any items -/

/-- The items on a page, counted from zero. -/
def slice (items : List Json) (p : Nat) : List Json := (items.drop (p * pageSize)).take pageSize

/-- A server that keeps items lists them page by page. -/
def Lists (issue : Issue) (items : List Json) (serve : Request → Response) : Prop :=
  ∀ p, (serve (.page issue (p + 1))).Grants (.list (slice items p))

namespace Lists

variable {issue : Issue} {items : List Json} {serve : Request → Response}

theorem comments_page (h : Lists issue items serve) (p : Nat) :
    (serve (.page issue (p + 1))).comments = (slice items p).filter isComment := by
  rw [Response.comments, (h p).items_eq]

/-- A page is full if the items reach to its end. -/
theorem isFull_page_iff (h : Lists issue items serve) (p : Nat) :
    (serve (.page issue (p + 1))).IsFull ↔ (p + 1) * pageSize ≤ items.length := by
  have hpositive : 0 < pageSize := by decide
  rw [Response.IsFull, (h p).items_eq, slice, List.length_take, List.length_drop, Nat.succ_mul]
  omega

theorem isFull_firstPages (h : Lists issue items serve) {k : Nat} (hk : k * pageSize ≤ items.length) :
    ∀ r ∈ (firstPages issue k).map serve, r.IsFull := by
  induction k with
  | zero => simp [firstPages]
  | succ k ih =>
    rw [firstPages_succ, List.map_append, List.forall_mem_append]
    have hbefore : k * pageSize ≤ items.length := (Nat.mul_le_mul_right pageSize (Nat.le_succ k)).trans hk
    exact ⟨ih hbefore, by simpa using (h.isFull_page_iff k).mpr hk⟩

theorem comments_firstPages (h : Lists issue items serve) (k : Nat) :
    ((firstPages issue k).map serve).flatMap Response.comments = (items.take (k * pageSize)).filter isComment := by
  induction k with
  | zero => simp [firstPages]
  | succ k ih =>
    rw [firstPages_succ, List.map_append, List.flatMap_append, ih, List.map_singleton, List.flatMap_singleton,
      h.comments_page, ← List.filter_append, slice, ← List.take_add, ← Nat.succ_mul]

/-- **The whole list is read, and reading stops.**  The server of an issue keeps any number of items of
    any kind and lists them in slices.  Whatever it would respond later, the errand asks for the pages
    from the first on, for one more than there are full ones and for no other, and what it brings are the
    comments among the items, in order. -/
theorem run_list (h : Lists issue items serve) (rest : List Response) :
    let requests := firstPages issue (items.length / 100 + 1)
    (Errand.list issue).run (requests.map serve ++ rest) =
        { requests := requests, outcome := .ok (.list (items.filter isComment)), left := rest } ∧
      (requests.map fun request => (request.method, request.path, request.query?)) =
        (List.range' 1 (items.length / 100 + 1)).map fun page =>
          ("GET", Request.commentsPath issue, some ("per_page=100&page=" ++ toString page)) := by
  intro requests
  -- the pages before the last are full, and the last, which holds the remainder, is not
  have hfull := h.isFull_firstPages (Nat.div_mul_le_self items.length pageSize)
  have hpast : items.length < (items.length / pageSize + 1) * pageSize := by
    rw [Nat.mul_comm]
    exact Nat.lt_mul_div_succ items.length (by decide)
  have hlast : ¬ (serve (.page issue (items.length / pageSize + 1))).IsFull := by
    rw [h.isFull_page_iff]
    exact Nat.not_le_of_lt hpast
  have hcomments := h.comments_firstPages (items.length / pageSize + 1)
  rw [List.take_of_length_le hpast.le, firstPages_succ, List.map_append, List.flatMap_append, List.map_singleton,
    List.flatMap_singleton] at hcomments
  have hpages : requests = firstPages issue (items.length / pageSize) ++
      [.page issue (items.length / pageSize + 1)] := firstPages_succ issue (items.length / 100)
  have hrun := (Errand.list issue).runFrom_last issue hfull hlast (h _).value_eq rest
  rw [hcomments, List.length_map, length_firstPages] at hrun
  constructor
  · rw [Errand.run, Errand.start, hpages, List.map_append, List.map_singleton, List.append_assoc,
      List.singleton_append, hrun, ← firstPages_succ, Errand.afterReading_list]
    dsimp only
    rw [Errand.runFrom_over, List.append_nil]
    rfl
  · rw [show requests = firstPages issue (items.length / 100 + 1) from rfl, firstPages, List.map_map]
    rfl

end Lists

/-- The plain server of a list of items. -/
def serveItems (items : List Json) : Request → Response
  | .page _ number => .granting (.list (slice items (number - 1)))
  | _ => ⟨404, .text "Not Found"⟩

theorem lists_serveItems (issue : Issue) (items : List Json) : Lists issue items (serveItems items) :=
  fun _ => Response.grants_granting _

/-- Two full pages with one comment among values that are none: a third page is asked for. -/
theorem Lists.run_list_fullPages :
    let issue : Issue := ⟨"octo/app", .figure 7⟩
    let comment : Json := .object [("id", .int 1), ("body", .text "fine")]
    let items := List.replicate 199 .null ++ [comment]
    Lists issue items (serveItems items) ∧
      (Errand.list issue).run ([.page issue 1, .page issue 2, .page issue 3].map (serveItems items)) =
        { requests := [.page issue 1, .page issue 2, .page issue 3], outcome := .ok (.list [comment]) } := by
  intro issue comment items
  have hlists := lists_serveItems issue items
  have hpages : firstPages issue (items.length / 100 + 1) = [.page issue 1, .page issue 2, .page issue 3] := by
    rw [List.length_append, List.length_replicate, List.length_singleton]
    rfl
  have hcomments : items.filter isComment = [comment] := by
    rw [List.filter_append, List.filter_replicate_of_neg Bool.false_ne_true]
    rfl
  have hrun := (hlists.run_list []).1
  rw [hpages, hcomments, List.append_nil] at hrun
  exact ⟨hlists, hrun⟩

end MergeGate.Discussion
