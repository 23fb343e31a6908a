import Mathlib.Data.List.Sort

/-!
# Sorting by a comparison

A comparison function is a total preorder; ties are allowed.  Comparisons are
made from others by reading a key and by falling back on a second one.  Sorting
is stable, so what it returns depends on the order of its input only where two
elements are tied.
-/

namespace Comparison

open List

universe u v

variable {α : Type u} {β : Type v}

/-- `le a b` says that `a` does not come after `b`. -/
structure IsComparison (le : α → α → Bool) : Prop where
  total : ∀ a b, le a b = true ∨ le b a = true
  trans : ∀ a b c, le a b = true → le b c = true → le a c = true

/-- Compare by `le`, and where it ties by `next`. -/
def andThen (le next : α → α → Bool) (a b : α) : Bool :=
  if le a b && le b a then next a b else le a b

namespace IsComparison

variable {le next : α → α → Bool}

theorem comap (h : IsComparison le) (key : β → α) : IsComparison fun a b => le (key a) (key b) :=
  ⟨fun _ _ => h.total _ _, fun _ _ _ => h.trans _ _ _⟩

theorem flip (h : IsComparison le) : IsComparison fun a b => le b a :=
  ⟨fun _ _ => h.total _ _, fun _ _ _ hab hbc => h.trans _ _ _ hbc hab⟩

theorem andThen (h : IsComparison le) (hnext : IsComparison next) :
    IsComparison (andThen le next) := by
  constructor
  · intro a b
    unfold Comparison.andThen
    have hle := h.total a b
    have hnx := hnext.total a b
    grind
  · intro a b c hab hbc
    have htrans := h.trans
    have hnx := hnext.trans a b c
    unfold Comparison.andThen at hab hbc ⊢
    grind

end IsComparison

/-- Elements tied by both comparisons. -/
theorem andThen_antisymm {le next : α → α → Bool} {a b : α}
    (hab : andThen le next a b = true) (hba : andThen le next b a = true) :
    le a b = true ∧ le b a = true ∧ next a b = true ∧ next b a = true := by
  unfold andThen at hab hba
  grind

/-- `xs.sort(compare)`. -/
def sortBy (le : α → α → Bool) (xs : List α) : List α :=
  xs.insertionSort fun a b => le a b = true

section Sorting

variable {le : α → α → Bool} {xs ys : List α}

theorem sortBy_perm (le : α → α → Bool) (xs : List α) : (sortBy le xs).Perm xs :=
  perm_insertionSort _ xs

theorem mem_sortBy {a : α} : a ∈ sortBy le xs ↔ a ∈ xs :=
  (sortBy_perm le xs).mem_iff

/-- Sorting by a key and sorting the keys. -/
theorem map_sortBy (key : β → α) (xs : List β) :
    (sortBy (fun a b => le (key a) (key b)) xs).map key = sortBy le (xs.map key) :=
  map_insertionSort _ _ key xs fun _ _ _ _ => Iff.rfl

theorem IsComparison.pairwise_sortBy (h : IsComparison le) (xs : List α) :
    (sortBy le xs).Pairwise fun a b => le a b = true := by
  have : Std.Total fun a b => le a b = true := ⟨h.total⟩
  have : IsTrans α fun a b => le a b = true := ⟨h.trans⟩
  exact pairwise_insertionSort _ xs

theorem head?_sortBy_cons (x : α) (xs : List α) :
    (sortBy le (x :: xs)).head? =
      some ((sortBy le xs).head?.elim x fun y => if le x y = true then x else y) := by
  change (List.orderedInsert _ x (sortBy le xs)).head? = _
  cases sortBy le xs with
  | nil => rfl
  | cons y ys =>
    rw [List.orderedInsert, List.head?_cons, Option.elim_some]
    split <;> rfl

theorem IsComparison.le_of_head?_sortBy (h : IsComparison le) {a b : α}
    (ha : (sortBy le xs).head? = some a) (hb : b ∈ xs) : le a b = true := by
  obtain ⟨rest, hrest⟩ := List.head?_eq_some_iff.mp ha
  have hsorted := h.pairwise_sortBy xs
  rw [← @mem_sortBy _ le, hrest] at hb
  rw [hrest, pairwise_cons] at hsorted
  rcases mem_cons.mp hb with rfl | hb
  · exact or_self_iff.mp (h.total b b)
  · exact hsorted.1 b hb

/-- What comes first after some elements were added is one of them, or came
first before. -/
theorem IsComparison.head?_sortBy_add (h : IsComparison le) {before extra after : List α} {a : α}
    (ha : (sortBy le (before ++ extra ++ after)).head? = some a) :
    a ∈ extra ∨ (sortBy le (before ++ after)).head? = some a := by
  induction before generalizing a with
  | nil =>
    induction extra generalizing a with
    | nil => exact .inr ha
    | cons e extra ih =>
      rw [nil_append, cons_append, head?_sortBy_cons] at ha
      cases hrest : (sortBy le (extra ++ after)).head? <;> grind
  | cons x before ih =>
    rw [cons_append, cons_append, head?_sortBy_cons] at ha
    rw [cons_append, head?_sortBy_cons]
    cases hold : (sortBy le (before ++ after)).head? with
    | none => cases hnew : (sortBy le (before ++ extra ++ after)).head? <;> grind
    | some y =>
      have hy : y ∈ before ++ extra ++ after := by
        have := mem_sortBy.mp (mem_of_head? hold)
        grind
      cases hnew : (sortBy le (before ++ extra ++ after)).head? with
      | none =>
        rw [List.head?_eq_none_iff] at hnew
        rw [← @mem_sortBy _ le, hnew] at hy
        cases hy
      | some z =>
        -- an added element at the front is not after the one that was first
        have hz := h.le_of_head?_sortBy hnew hy
        have htrans := h.trans x z y
        grind

/-- Where no two elements are tied, the order of the input does not matter. -/
theorem IsComparison.sortBy_eq_of_perm (h : IsComparison le)
    (hties : ∀ a ∈ xs, ∀ b ∈ xs, le a b = true → le b a = true → a = b)
    (hperm : xs.Perm ys) : sortBy le xs = sortBy le ys := by
  refine List.Perm.eq_of_pairwise ?_ (h.pairwise_sortBy xs) (h.pairwise_sortBy ys) ?_
  · intro a b ha hb hab hba
    exact hties a (mem_sortBy.mp ha) b (hperm.mem_iff.mpr (mem_sortBy.mp hb)) hab hba
  · exact (sortBy_perm le xs).trans (hperm.trans (sortBy_perm le ys).symm)

/-- A front that comes after everything else ends up at the back. -/
theorem sortBy_append_of_after {front back : List α} (h : ∀ a ∈ front, ∀ b ∈ back, le a b = false) :
    sortBy le (front ++ back) = sortBy le back ++ sortBy le front := by
  have hinsert : ∀ (a : α) (before after : List α), (∀ b ∈ before, le a b = false) →
      List.orderedInsert (fun a b => le a b = true) a (before ++ after) =
        before ++ List.orderedInsert (fun a b => le a b = true) a after := by
    intro a before after hbefore
    induction before with
    | nil => rfl
    | cons b before ih =>
      rw [forall_mem_cons] at hbefore
      rw [cons_append, List.orderedInsert, if_neg (by simp [hbefore.1]),
        ih hbefore.2, cons_append]
  induction front with
  | nil =>
    exact (append_nil _).symm
  | cons a front ih =>
    rw [forall_mem_cons] at h
    have hrest : sortBy le (front ++ back) = sortBy le back ++ sortBy le front := ih h.2
    unfold sortBy at hrest ⊢
    rw [cons_append, insertionSort_cons, hrest, insertionSort_cons]
    refine hinsert a _ _ fun b hb => h.1 b ?_
    exact mem_sortBy.mp hb

end Sorting

end Comparison
