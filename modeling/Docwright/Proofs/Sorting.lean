import Docwright.Sorting
import Mathlib.Data.List.Perm.Basic

/-!
# What sorting leaves

Sorting rearranges a list (`sort_perm`), and puts it in order if any two elements may
stand in one order or the other (`pairwise_sort`).  A list without repetitions that is in
strict order is determined by its elements (`eq_of_mem_iff`), so such a list is the same
in whatever order its elements came.
-/

namespace Docwright.Sorting

variable {α : Type} {before : α → α → Bool} {a b : α} {l l' : List α}

theorem insert_perm (a : α) (l : List α) : (insert before a l).Perm (a :: l) := by
  induction l with
  | nil => rfl
  | cons c rest ih =>
      rw [insert]
      split
      · rfl
      · exact (ih.cons c).trans (.swap a c rest)

/-- Sorting is a rearrangement. -/
theorem sort_perm (l : List α) : (sort before l).Perm l := by
  induction l with
  | nil => rfl
  | cons a rest ih => exact (insert_perm a _).trans (ih.cons a)

theorem mem_insert : b ∈ insert before a l ↔ b = a ∨ b ∈ l :=
  (insert_perm a l).mem_iff.trans List.mem_cons

/-- Sorting keeps the elements. -/
theorem mem_sort : b ∈ sort before l ↔ b ∈ l :=
  (sort_perm l).mem_iff

section Order

variable (total : ∀ a b, before a b = true ∨ before b a = true)
  (trans : ∀ a b c, before a b = true → before b c = true → before a c = true)

include total trans

theorem pairwise_insert (ordered : l.Pairwise fun a b => before a b = true) :
    (insert before a l).Pairwise fun a b => before a b = true := by
  induction ordered with
  | nil => exact List.pairwise_singleton _ _
  | @cons c rest first ordered ih =>
      rw [insert]
      split
      · next may =>
          refine List.pairwise_cons.mpr ⟨fun d member => ?_, List.pairwise_cons.mpr ⟨first, ordered⟩⟩
          obtain rfl | member := List.mem_cons.mp member
          · exact may
          · exact trans a c d may (first d member)
      · next other =>
          refine List.pairwise_cons.mpr ⟨fun d member => ?_, ih⟩
          obtain rfl | member := mem_insert.mp member
          · exact (total c d).resolve_right other
          · exact first d member

/-- What is sorted is in order. -/
theorem pairwise_sort (l : List α) : (sort before l).Pairwise fun a b => before a b = true := by
  induction l with
  | nil => exact .nil
  | cons a rest ih => exact pairwise_insert total trans ih

end Order

/-- Lists in a strict order are the same if their elements are. -/
theorem eq_of_mem_iff {less : α → α → Prop} (asymm : ∀ a b, less a b → ¬ less b a)
    (ordered : l.Pairwise less) (ordered' : l'.Pairwise less) (same : ∀ a, a ∈ l ↔ a ∈ l') : l = l' := by
  have distinct : ∀ {l : List α}, l.Pairwise less → l.Nodup := by
    intro l ordered
    refine ordered.imp fun first => ?_
    rintro rfl
    exact asymm _ _ first first
  have perm : l.Perm l' := (List.perm_ext_iff_of_nodup (distinct ordered) (distinct ordered')).mpr same
  exact perm.eq_of_pairwise (fun a b _ _ first second => absurd second (asymm a b first)) ordered ordered'

/-- A list in a strict order is known by what its elements are. -/
theorem eq_iff_of_mem {less : α → α → Prop} {holds : α → Prop} (asymm : ∀ a b, less a b → ¬ less b a)
    (ordered : l.Pairwise less) (mem : ∀ a, a ∈ l ↔ holds a) :
    l = l' ↔ l'.Pairwise less ∧ ∀ a, a ∈ l' ↔ holds a := by
  constructor
  · rintro rfl
    exact ⟨ordered, mem⟩
  · rintro ⟨ordered', mem'⟩
    exact eq_of_mem_iff asymm ordered ordered' fun a => (mem a).trans (mem' a).symm

end Docwright.Sorting
