/-!
# Orders of lists

Lists are sorted by insertion.  Values of which each may come before the other stay in the order in
which they are given.  What is kept in no order may come in any.
-/

namespace ZoneKeeper

universe u

variable {α : Type u}

/-- Puts a value before the first of the values that it may come before. -/
def insertSorted (before : α → α → Bool) (value : α) : List α → List α
  | [] => [value]
  | head :: rest =>
      if before value head then value :: head :: rest
      else head :: insertSorted before value rest

/-- The values in an order in which each may come before the next. -/
def sortBy (before : α → α → Bool) (values : List α) : List α :=
  values.foldr (insertSorted before) []

/-- An order in which values may come, whatever they are. -/
structure Shuffle (α : Type u) where
  arrange : List α → List α
  perm : ∀ values, (arrange values).Perm values

namespace Shuffle

def asGiven : Shuffle α where
  arrange := id
  perm := List.Perm.refl

def reversed : Shuffle α where
  arrange := List.reverse
  perm := List.reverse_perm

@[simp]
theorem mem_arrange {shuffle : Shuffle α} {value : α} {values : List α} :
    value ∈ shuffle.arrange values ↔ value ∈ values :=
  (shuffle.perm values).mem_iff

end Shuffle

theorem insertSorted_perm (before : α → α → Bool) (value : α) (values : List α) :
    (insertSorted before value values).Perm (value :: values) := by
  induction values with
  | nil => exact List.Perm.refl _
  | cons head rest ih =>
      rw [insertSorted]
      split
      · exact List.Perm.refl _
      · exact (ih.cons head).trans (List.Perm.swap value head rest)

theorem sortBy_perm (before : α → α → Bool) (values : List α) :
    (sortBy before values).Perm values := by
  induction values with
  | nil => exact List.Perm.refl _
  | cons value values ih =>
      have inserted := insertSorted_perm before value (sortBy before values)
      exact inserted.trans (ih.cons value)

@[simp]
theorem mem_sortBy {before : α → α → Bool} {value : α} {values : List α} :
    value ∈ sortBy before values ↔ value ∈ values :=
  (sortBy_perm before values).mem_iff

variable {before : α → α → Bool} {value : α} {values : List α}

theorem insertSorted_of_forall (first : ∀ other ∈ values, before value other = true) :
    insertSorted before value values = value :: values := by
  cases values with
  | nil => rfl
  | cons head rest => rw [insertSorted, if_pos (first head List.mem_cons_self)]

theorem pairwise_insertSorted
    (trans : ∀ one two three, before one two → before two three → before one three)
    (total : ∀ one two, ¬ before one two → before two one)
    (sorted : values.Pairwise fun one two => before one two) :
    (insertSorted before value values).Pairwise fun one two => before one two := by
  induction values with
  | nil => simp [insertSorted]
  | cons head rest ih =>
      obtain ⟨least, sortedRest⟩ := List.pairwise_cons.1 sorted
      rw [insertSorted]
      split
      · rename_i earlier
        refine List.pairwise_cons.2 ⟨?_, sorted⟩
        exact List.forall_mem_cons.2 ⟨earlier, fun other later =>
          trans value head other earlier (least other later)⟩
      · rename_i later
        refine List.pairwise_cons.2 ⟨fun other present => ?_, ih sortedRest⟩
        rcases List.mem_cons.1 ((insertSorted_perm before value rest).mem_iff.1 present)
          with rfl | among
        · exact total _ _ later
        · exact least other among

theorem pairwise_sortBy
    (trans : ∀ one two three, before one two → before two three → before one three)
    (total : ∀ one two, ¬ before one two → before two one) (values : List α) :
    (sortBy before values).Pairwise fun one two => before one two := by
  induction values with
  | nil => exact List.Pairwise.nil
  | cons value values ih => exact pairwise_insertSorted trans total ih

theorem filter_insertSorted (keep : α → Bool)
    (trans : ∀ one two three, before one two → before two three → before one three)
    (sorted : values.Pairwise fun one two => before one two) :
    (insertSorted before value values).filter keep =
      if keep value then insertSorted before value (values.filter keep)
      else values.filter keep := by
  induction values with
  | nil =>
      by_cases kept : keep value
      · simp [insertSorted, kept]
      · simp [insertSorted, kept]
  | cons head rest ih =>
      obtain ⟨least, sortedRest⟩ := List.pairwise_cons.1 sorted
      rw [insertSorted]
      split
      · rename_i earlier
        -- What comes before the head of a sorted list comes before all of it.
        have first : ∀ other ∈ (head :: rest).filter keep, before value other = true := by
          intro other present
          rcases List.mem_cons.1 (List.mem_filter.1 present).1 with rfl | later
          · exact earlier
          · exact trans value head other earlier (least other later)
        rw [List.filter_cons, insertSorted_of_forall first]
      · rename_i later
        by_cases kept : keep head
        · rw [List.filter_cons_of_pos kept, List.filter_cons_of_pos kept, ih sortedRest,
            insertSorted, if_neg later]
          split <;> rfl
        · rw [List.filter_cons_of_neg kept, List.filter_cons_of_neg kept, ih sortedRest]

/-- It does not matter whether some values are left out before or after the sorting. -/
theorem sortBy_filter (keep : α → Bool)
    (trans : ∀ one two three, before one two → before two three → before one three)
    (total : ∀ one two, ¬ before one two → before two one) (values : List α) :
    sortBy before (values.filter keep) = (sortBy before values).filter keep := by
  induction values with
  | nil => rfl
  | cons value values ih =>
      have sorted := pairwise_sortBy trans total values
      have whole : sortBy before (value :: values) =
          insertSorted before value (sortBy before values) := rfl
      rw [whole, filter_insertSorted keep trans sorted, ← ih]
      by_cases kept : keep value
      · rw [List.filter_cons_of_pos kept, if_pos kept]
        rfl
      · rw [List.filter_cons_of_neg kept, if_neg kept]

end ZoneKeeper
