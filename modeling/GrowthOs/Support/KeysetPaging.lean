import Mathlib.Data.List.Basic
import Mathlib.Data.List.Perm.Basic

/-!
# Paging with a key as the cursor

A list is delivered in pages of at most `limit` items.  The cursor of a page is
the key of its last item, and the next page starts behind the first item that
has this key.  Delivery is exact when every page that is not the last one ends
at the first item with its key, and only then: otherwise the next page starts
too early, and what is delivered once more is never made up for.
-/

namespace KeysetPaging

open List

universe u v

variable {α : Type u} {κ : Type v} [DecidableEq κ]
variable (key : α → κ) (items : List α) (limit : Nat)

/-- The position behind the first item that has the key of `x`. -/
def resume (x : α) : Nat :=
  items.findIdx (fun y => decide (key y = key x)) + 1

/-- The pages delivered from position `start` on, until there is no more. -/
inductive Walk : Nat → List (List α) → Prop
  | last {start : Nat} (h : items.length ≤ start + limit) :
      Walk start [(items.drop start).take limit]
  | more {start : Nat} {x : α} {pages : List (List α)} (hx : items[start + limit - 1]? = some x)
      (h : start + limit < items.length)
      (rest : Walk (resume key items x) pages) :
      Walk start ((items.drop start).take limit :: pages)

/-- The item before position `stop` is the first one with its key. -/
def EndsFresh (stop : Nat) : Prop :=
  ∀ x, items[stop - 1]? = some x → ∀ y ∈ items.take (stop - 1), key y ≠ key x

variable {key items limit}

variable (key) in
/-- The next page never starts behind the end of the one before. -/
theorem resume_le {x : α} {stop : Nat} (hx : items[stop - 1]? = some x)
    (hstop : 0 < stop) : resume key items x ≤ stop := by
  obtain ⟨hlt, hget⟩ := List.getElem?_eq_some_iff.mp hx
  have hfound : items.findIdx (fun y => decide (key y = key x)) ≤ stop - 1 := by
    by_contra hlate
    have hnot := not_of_lt_findIdx (Nat.lt_of_not_le hlate)
    simp [hget] at hnot
  unfold resume
  omega

variable (key) in
/-- It starts right there exactly when the page ends at the first item with
its key. -/
theorem resume_eq_iff {x : α} {stop : Nat} (hx : items[stop - 1]? = some x) (hstop : 0 < stop) :
    resume key items x = stop ↔ EndsFresh key items stop := by
  obtain ⟨hlt, hget⟩ := List.getElem?_eq_some_iff.mp hx
  have hsame : resume key items x = stop ↔
      items.findIdx (fun y => decide (key y = key x)) = stop - 1 := by
    unfold resume
    omega
  rw [hsame, findIdx_eq hlt]
  constructor
  · rintro ⟨-, hbefore⟩ x' hx' y hy
    obtain rfl : x = x' := Option.some.inj (hx.symm.trans hx')
    obtain ⟨j, hj, hjy⟩ := mem_take_iff_getElem.mp hy
    have hne := hbefore j (by omega)
    rw [hjy] at hne
    exact of_decide_eq_false hne
  · intro hfresh
    refine ⟨by simp [hget], ?_⟩
    intro j hj
    apply decide_eq_false
    apply hfresh x hx
    exact mem_take_iff_getElem.mpr ⟨j, by omega, rfl⟩

theorem length_page (start : Nat) :
    ((items.drop start).take limit).length = min limit (items.length - start) := by
  rw [length_take, length_drop]

/-- Whatever the keys are, a walk that ends has delivered everything behind its
start. -/
theorem Walk.length_le {start : Nat} {pages : List (List α)} (hlimit : 0 < limit)
    (h : Walk key items limit start pages) : items.length ≤ start + pages.flatten.length := by
  induction h with
  | last h =>
    rw [flatten_singleton, length_page]
    omega
  | more hx h _ ih =>
    have hback := resume_le key hx (by omega)
    rw [flatten_cons, length_append, length_page]
    omega

/-- A walk from `start` that delivers no item twice has fresh page ends. -/
theorem Walk.endsFresh {start : Nat} {pages : List (List α)} (hlimit : 0 < limit)
    (h : Walk key items limit start pages)
    (hlength : start + pages.flatten.length ≤ items.length) (j : Nat)
    (hj : start + (j + 1) * limit < items.length) :
    EndsFresh key items (start + (j + 1) * limit) := by
  induction h generalizing j with
  | @last start h =>
    have : limit ≤ (j + 1) * limit := Nat.le_mul_of_pos_left limit (Nat.succ_pos j)
    omega
  | @more start x pages hx h rest ih =>
    have hback := resume_le key hx (by omega)
    have hrest := rest.length_le hlimit
    rw [flatten_cons, length_append, length_page] at hlength
    have hresume : resume key items x = start + limit := by omega
    cases j with
    | zero =>
      rw [Nat.zero_add, Nat.one_mul]
      exact (resume_eq_iff key hx (by omega)).mp hresume
    | succ j =>
      have hstep : start + (j + 1 + 1) * limit = resume key items x + (j + 1) * limit := by
        rw [hresume, Nat.succ_mul (j + 1) limit]
        omega
      rw [hstep] at hj ⊢
      exact ih (by omega) j hj

/-- With fresh page ends the walk delivers exactly what lies behind its
start. -/
theorem exists_walk (hlimit : 0 < limit) (hfresh : ∀ j, (j + 1) * limit < items.length →
      EndsFresh key items ((j + 1) * limit)) (i : Nat) :
    ∃ pages, Walk key items limit (i * limit) pages ∧ pages.flatten = items.drop (i * limit) := by
  -- on the number of items still to come
  induction hleft : items.length - i * limit using Nat.strongRecOn generalizing i with
  | _ left ih =>
    have hsucc : (i + 1) * limit = i * limit + limit := Nat.succ_mul i limit
    by_cases hlast : items.length ≤ i * limit + limit
    · refine ⟨_, .last hlast, ?_⟩
      rw [flatten_singleton]
      apply take_of_length_le
      rw [length_drop]
      omega
    · have hmore : i * limit + limit < items.length := Nat.lt_of_not_le hlast
      obtain ⟨x, hx⟩ : ∃ x, items[i * limit + limit - 1]? = some x :=
        ⟨_, List.getElem?_eq_getElem (by omega)⟩
      have hends := hfresh i (by omega)
      rw [hsucc] at hends
      have hresume := (resume_eq_iff key hx (by omega)).mpr hends
      obtain ⟨pages, hwalk, hflat⟩ := ih _ (by omega) (i + 1) rfl
      rw [hsucc, ← hresume] at hwalk
      refine ⟨_, .more hx hmore hwalk, ?_⟩
      rw [flatten_cons, hflat, hsucc, ← drop_drop, take_append_drop]

variable (key items) in
/-- The pages hold every item as often as the list does exactly when no page
before the last one ends behind the first item with its key. -/
theorem walk_exact_iff (hlimit : 0 < limit) :
    (∃ pages, Walk key items limit 0 pages ∧ pages.flatten.Perm items) ↔
      ∀ j, (j + 1) * limit < items.length → EndsFresh key items ((j + 1) * limit) := by
  constructor
  · rintro ⟨pages, hwalk, hperm⟩ j hj
    have h := hwalk.endsFresh hlimit (by rw [hperm.length_eq]; omega) j (by omega)
    rwa [Nat.zero_add] at h
  · intro hfresh
    obtain ⟨pages, hwalk, hflat⟩ := exists_walk hlimit hfresh 0
    rw [Nat.zero_mul] at hwalk hflat
    exact ⟨pages, hwalk, by rw [hflat, drop_zero]⟩

end KeysetPaging
