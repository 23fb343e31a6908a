import GrowthOs.Support.Comparison
import Mathlib.Data.List.Induction

/-!
# Grouping entries by their key

An insertion-ordered map from keys to lists: an entry is pushed onto the list
under its key, and a new key is added at the end.  The lists under the keys and
the keys themselves depend on the order of the entries only up to a
permutation.
-/

namespace Grouping

open List

universe u v

variable {κ : Type u} {α : Type v} [DecidableEq κ]

/-- Push an entry onto the list under its key. -/
def push : List (κ × List α) → κ × α → List (κ × List α)
  | [], entry => [(entry.1, [entry.2])]
  | group :: groups, entry =>
    if group.1 = entry.1 then (group.1, group.2 ++ [entry.2]) :: groups
    else group :: push groups entry

def group (entries : List (κ × α)) : List (κ × List α) :=
  entries.foldl push []

/-- The values under a key, in the order they were pushed. -/
def valuesOf (entries : List (κ × α)) (key : κ) : List α :=
  (entries.filter fun entry => entry.1 = key).map Prod.snd

variable {entries entries' : List (κ × α)}

theorem mem_valuesOf {key : κ} {a : α} : a ∈ valuesOf entries key ↔ (key, a) ∈ entries := by
  simp [valuesOf]

theorem valuesOf_append (entries rest : List (κ × α)) (key : κ) :
    valuesOf (entries ++ rest) key = valuesOf entries key ++ valuesOf rest key := by
  simp [valuesOf]

theorem valuesOf_perm (h : entries.Perm entries') (key : κ) :
    (valuesOf entries key).Perm (valuesOf entries' key) :=
  (h.filter _).map _

theorem map_fst_push (groups : List (κ × List α)) (entry : κ × α) :
    (push groups entry).map Prod.fst =
      if entry.1 ∈ groups.map Prod.fst then groups.map Prod.fst
      else groups.map Prod.fst ++ [entry.1] := by
  induction groups with
  | nil => simp [push]
  | cons head groups ih =>
    by_cases hkey : head.1 = entry.1
    · simp [push, hkey]
    · have hne : ¬entry.1 = head.1 := fun h => hkey h.symm
      rw [push, if_neg hkey, map_cons, ih, map_cons]
      by_cases hmem : entry.1 ∈ groups.map Prod.fst
      · rw [if_pos hmem, if_pos (mem_cons_of_mem _ hmem)]
      · rw [if_neg hmem, if_neg (by simp only [mem_cons, hne, hmem, or_self,
          not_false_eq_true]), cons_append]

/-- A group after a push was there before or is the one of the entry. -/
theorem mem_push {groups : List (κ × List α)} {entry : κ × α} {other : κ × List α}
    (hnodup : (groups.map Prod.fst).Nodup) (h : other ∈ push groups entry) :
    other ∈ groups ∧ other.1 ≠ entry.1 ∨ other.1 = entry.1 ∧
      ((∃ values, (entry.1, values) ∈ groups ∧ other.2 = values ++ [entry.2]) ∨
        entry.1 ∉ groups.map Prod.fst ∧ other.2 = [entry.2]) := by
  induction groups with
  | nil => simp_all [push]
  | cons head groups ih =>
    rw [map_cons, nodup_cons] at hnodup
    rw [push] at h
    split at h
    next hkey => grind
    next hkey => grind

/-- What the groups are after some entries: each key once, with its values. -/
structure Groups (entries : List (κ × α)) (groups : List (κ × List α)) : Prop where
  nodup : (groups.map Prod.fst).Nodup
  keys : ∀ key, key ∈ groups.map Prod.fst ↔ key ∈ entries.map Prod.fst
  values : ∀ entry ∈ groups, entry.2 = valuesOf entries entry.1

theorem Groups.push {groups : List (κ × List α)} (h : Groups entries groups) (entry : κ × α) :
    Groups (entries ++ [entry]) (push groups entry) := by
  refine ⟨?_, ?_, ?_⟩
  · rw [map_fst_push]
    split
    next => exact h.nodup
    next hnew =>
      rw [nodup_append]
      refine ⟨h.nodup, nodup_singleton _, ?_⟩
      rintro key hkey other hother rfl
      rw [mem_singleton] at hother
      exact hnew (hother ▸ hkey)
  · intro key
    rw [map_fst_push, map_append, mem_append, ← h.keys key, map_singleton,
      mem_singleton]
    split
    next hold =>
      constructor
      · exact .inl
      · rintro (hkey | rfl)
        · exact hkey
        · exact hold
    next => rw [mem_append, mem_singleton]
  · intro other hother
    rw [valuesOf_append]
    obtain ⟨hold, hne⟩ | ⟨heq, ⟨values, hvalues, hother⟩ | ⟨hnew, hother⟩⟩ :=
      mem_push h.nodup hother
    · simp [h.values other hold, valuesOf, hne.symm]
    · rw [hother, heq, ← h.values _ hvalues]
      simp [valuesOf]
    · have hnone : valuesOf entries entry.1 = [] := by
        rw [h.keys] at hnew
        rw [valuesOf, map_eq_nil_iff, filter_eq_nil_iff]
        intro other hother heq
        exact hnew (mem_map.mpr ⟨other, hother, of_decide_eq_true heq⟩)
      rw [hother, heq, hnone]
      simp [valuesOf]

theorem groups_group (entries : List (κ × α)) : Groups entries (group entries) := by
  induction entries using List.reverseRecOn with
  | nil => exact ⟨nodup_nil, fun _ => Iff.rfl, nofun⟩
  | append_singleton entries entry ih =>
    rw [group, foldl_append]
    exact ih.push entry

/-- Groups sorted by their key are the sorted keys with their values. -/
theorem sorted_group_eq (le : κ → κ → Bool) (entries : List (κ × α)) :
    Comparison.sortBy (fun a b => le a.1 b.1) (group entries) =
      (Comparison.sortBy le ((group entries).map Prod.fst)).map fun key =>
        (key, valuesOf entries key) := by
  have hgroups := groups_group entries
  rw [← Comparison.map_sortBy, map_map]
  conv_lhs => rw [← map_id (Comparison.sortBy _ _)]
  refine map_congr_left fun entry hentry => ?_
  rw [Function.comp_apply, ← hgroups.values entry (Comparison.mem_sortBy.mp hentry)]
  rfl

theorem map_fst_group_perm (h : entries.Perm entries') :
    ((group entries).map Prod.fst).Perm ((group entries').map Prod.fst) := by
  rw [perm_ext_iff_of_nodup (groups_group entries).nodup (groups_group entries').nodup]
  intro key
  rw [(groups_group entries).keys, (groups_group entries').keys, (h.map _).mem_iff]

end Grouping
