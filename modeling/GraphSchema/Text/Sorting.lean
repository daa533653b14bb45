/-!
Stable sorting by a text key: items of equal keys keep their order. Texts are in the order of their
code points. A list has one stable sort only, so that a list which is put in order in another way is
compared with the sort by what a stable sort is.
-/

namespace GraphSchema.Text

variable {α : Type}

/-- Puts an item before the first one whose key is not less than its own. -/
def insertBy (key : α → String) (item : α) : List α → List α
  | [] => [item]
  | other :: rest =>
      if key item ≤ key other then item :: other :: rest else other :: insertBy key item rest

def sortBy (key : α → String) : List α → List α
  | [] => []
  | item :: rest => insertBy key item (sortBy key rest)

theorem perm_insertBy (key : α → String) (item : α) (items : List α) :
    (insertBy key item items).Perm (item :: items) := by
  induction items with
  | nil => exact List.Perm.refl _
  | cons other rest ih =>
      rw [insertBy]
      split
      · exact List.Perm.refl _
      · exact (ih.cons other).trans (List.Perm.swap item other rest)

theorem perm_sortBy (key : α → String) (items : List α) : (sortBy key items).Perm items := by
  induction items with
  | nil => exact List.Perm.refl _
  | cons item rest ih => exact (perm_insertBy key item _).trans (ih.cons item)

theorem pairwise_insertBy {key : α → String} {items : List α}
    (sorted : items.Pairwise fun left right => key left ≤ key right) (item : α) :
    (insertBy key item items).Pairwise fun left right => key left ≤ key right := by
  induction items with
  | nil => exact List.pairwise_singleton _ _
  | cons other rest ih =>
      obtain ⟨before, sortedRest⟩ := List.pairwise_cons.1 sorted
      rw [insertBy]
      split
      · rename_i inFront
        refine List.pairwise_cons.2 ⟨?_, sorted⟩
        exact List.forall_mem_cons.2
          ⟨inFront, fun later member => String.le_trans inFront (before later member)⟩
      · rename_i behind
        refine List.pairwise_cons.2 ⟨?_, ih sortedRest⟩
        intro later member
        rcases List.mem_cons.1 ((perm_insertBy key item rest).mem_iff.1 member) with rfl | inRest
        · exact (String.le_total (key later) (key other)).resolve_left behind
        · exact before later inRest

theorem pairwise_sortBy (key : α → String) (items : List α) :
    (sortBy key items).Pairwise fun left right => key left ≤ key right := by
  induction items with
  | nil => exact List.Pairwise.nil
  | cons item rest ih => exact pairwise_insertBy ih item

/-- A list has the items of another in the order of their keys, and those of one key in the order
that they had. -/
structure StableSort (key : α → String) (items sorted : List α) : Prop where
  ordered : sorted.Pairwise fun left right => key left ≤ key right
  stable : ∀ text, sorted.filter (key · = text) = items.filter (key · = text)

/-- An item passes only items of smaller keys on its way in. -/
theorem filter_insertBy (key : α → String) (item : α) (items : List α) (text : String) :
    (insertBy key item items).filter (key · = text) = (item :: items).filter (key · = text) := by
  induction items with
  | nil => rfl
  | cons other rest ih =>
      rw [insertBy]
      split
      · rfl
      · rename_i behind
        have differ : key other ≠ key item := fun same => behind (same ▸ String.le_refl _)
        rw [List.filter_cons, ih]
        by_cases own : key item = text
        · have foreign : key other ≠ text := fun same => differ (same.trans own.symm)
          simp [own, foreign]
        · simp [own, List.filter_cons]

theorem sortBy_stable (key : α → String) (items : List α) :
    StableSort key items (sortBy key items) where
  ordered := pairwise_sortBy key items
  stable text := by
    induction items with
    | nil => rfl
    | cons item rest ih => rw [sortBy, filter_insertBy, List.filter_cons, List.filter_cons, ih]

namespace StableSort

variable {key : α → String} {items sorted resorted : List α}

theorem mem_iff (stably : StableSort key items sorted) (item : α) :
    item ∈ sorted ↔ item ∈ items := by
  have sameMembers := congrArg (item ∈ ·) (stably.stable (key item))
  simpa using sameMembers

theorem eq_of_ordered (stably : StableSort key items sorted)
    (ordered : items.Pairwise fun left right => key left ≤ key right) : sorted = items := by
  induction items generalizing sorted with
  | nil =>
      refine List.eq_nil_iff_forall_not_mem.2 fun item member => ?_
      exact List.not_mem_nil ((stably.mem_iff item).1 member)
  | cons item rest ih =>
      have ofItem := stably.stable (key item)
      rw [List.filter_cons_of_pos (by simp)] at ofItem
      cases sorted with
      | nil => cases ofItem
      | cons other others =>
          obtain ⟨first, _⟩ := List.pairwise_cons.1 stably.ordered
          obtain ⟨least, orderedRest⟩ := List.pairwise_cons.1 ordered
          have itemAmong : item ∈ other :: others := (stably.mem_iff item).2 List.mem_cons_self
          have otherAmong : other ∈ item :: rest := (stably.mem_iff other).1 List.mem_cons_self
          have sameKey : key other = key item := by
            rcases List.mem_cons.1 itemAmong with rfl | later
            · rfl
            · rcases List.mem_cons.1 otherAmong with rfl | behind
              · rfl
              · exact String.le_antisymm (first item later) (least other behind)
          rw [List.filter_cons_of_pos (by simp [sameKey])] at ofItem
          obtain rfl : other = item := (List.cons.inj ofItem).1
          have ofRest : StableSort key rest others := by
            refine ⟨(List.pairwise_cons.1 stably.ordered).2, fun text => ?_⟩
            have same := stably.stable text
            by_cases own : key other = text <;> simpa [own] using same
          rw [ih ofRest orderedRest]

theorem unique (first : StableSort key items sorted) (second : StableSort key items resorted) :
    sorted = resorted :=
  eq_of_ordered ⟨first.ordered, fun text => (first.stable text).trans (second.stable text).symm⟩
    second.ordered

end StableSort

end GraphSchema.Text
