/-!
# Sorting

Elements are put in order one by one, by recursion on the list, so that what is sorted can be computed
in a proof.  Elements that may precede each other keep their order.
-/

namespace Docwright.Sorting

variable {α : Type} (before : α → α → Bool)

/-- A list with an element put in front of the first one that it may precede. -/
def insert (a : α) : List α → List α
  | [] => [a]
  | b :: rest => if before a b then a :: b :: rest else b :: insert a rest

/-- The elements of a list in order. -/
def sort (l : List α) : List α :=
  l.foldr (insert before) []

@[simp]
theorem sort_nil : sort before [] = [] := rfl

variable {before}

/-- What is in order stays as it is. -/
theorem sort_of_pairwise {l : List α} (ordered : l.Pairwise fun a b => before a b) :
    sort before l = l := by
  induction ordered with
  | nil => rfl
  | @cons a rest first _ ih =>
      rw [sort, List.foldr_cons, ← sort, ih]
      cases rest with
      | nil => rfl
      | cons b rest => rw [insert, if_pos (first b List.mem_cons_self)]

end Docwright.Sorting
