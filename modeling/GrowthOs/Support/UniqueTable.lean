import GrowthOs.Support.Table
import Mathlib.Data.List.Pairwise

/-!
# Tables with uniqueness constraints

A unique key is a function from rows to `Option κ`; as in SQL, rows whose key
is `NULL` are not compared.  The table carries the proof that no two of its
rows share a key, so a statement that would break a constraint has no table to
return: `insert` answers `none`, the duplicate-key error.
-/

namespace Table

open List

variable {α κ : Type*}

/-- The rows share a value of one of the unique keys. -/
def Clash (keys : List (α → Option κ)) (a b : α) : Prop :=
  ∃ key ∈ keys, key a ≠ none ∧ key a = key b

instance Clash.decidable [DecidableEq κ] (keys : List (α → Option κ))
    (a b : α) : Decidable (Clash keys a b) :=
  inferInstanceAs (Decidable (∃ key ∈ keys, key a ≠ none ∧ key a = key b))

variable {keys : List (α → Option κ)}

theorem Clash.symm {a b : α} (h : Clash keys a b) : Clash keys b a := by
  obtain ⟨key, hmem, hsome, heq⟩ := h
  exact ⟨key, hmem, heq ▸ hsome, heq.symm⟩

/-- `a'` has no value of a unique key that `a` has not. -/
def Narrows (keys : List (α → Option κ)) (a a' : α) : Prop :=
  ∀ key ∈ keys, key a' = key a ∨ key a' = none

theorem Narrows.refl (keys : List (α → Option κ)) (a : α) : Narrows keys a a :=
  fun _ _ => .inl rfl

theorem Clash.of_narrows {a a' b b' : α} (ha : Narrows keys a a') (hb : Narrows keys b b')
    (h : Clash keys a' b') : Clash keys a b := by
  obtain ⟨key, hmem, hsome, heq⟩ := h
  have hleft : key a' = key a := (ha key hmem).resolve_right hsome
  have hright : key b' = key b :=
    (hb key hmem).resolve_right (heq ▸ hsome)
  exact ⟨key, hmem, hleft ▸ hsome, by rw [← hleft, heq, hright]⟩

/-- The rows of a table, no two of which share a value of a unique key. -/
structure UniqueTable (keys : List (α → Option κ)) where
  rows : List α
  unique : rows.Pairwise fun a b => ¬Clash keys a b

namespace UniqueTable

def empty : UniqueTable keys :=
  ⟨[], List.Pairwise.nil⟩

variable {t : UniqueTable keys} {key : α → Option κ}

/-- A value of a unique key determines its row. -/
theorem eq_of_key {a b : α} {k : κ} (hkey : key ∈ keys) (ha : a ∈ t.rows) (hb : b ∈ t.rows)
    (hka : key a = some k) (hkb : key b = some k) : a = b := by
  by_contra hne
  have hsymm : Std.Symm fun a b => ¬Clash keys a b :=
    ⟨fun _ _ hab hba => hab hba.symm⟩
  apply t.unique.forall ha hb hne
  refine ⟨key, hkey, ?_, ?_⟩
  · rw [hka]
    exact Option.some_ne_none k
  · rw [hka, hkb]

theorem countP_le_one {k : κ} {p : α → Bool} (hkey : key ∈ keys)
    (hp : ∀ row, p row = true → key row = some k) : t.rows.countP p ≤ 1 := by
  have hlist : ∀ rows : List α, (rows.Pairwise fun a b => ¬Clash keys a b) → rows.countP p ≤ 1 := by
    intro rows hrows
    induction rows with
    | nil => simp
    | cons row rows ih =>
      rw [pairwise_cons] at hrows
      by_cases hrow : p row = true
      · have hnone : rows.countP p = 0 := by
          rw [countP_eq_zero]
          intro other hother hsel
          refine hrows.1 other hother ⟨key, hkey, ?_, ?_⟩
          · rw [hp row hrow]
            exact Option.some_ne_none k
          · rw [hp row hrow, hp other hsel]
        have hcount : (row :: rows).countP p = rows.countP p + 1 :=
          countP_cons_of_pos hrow
        omega
      · rw [countP_cons_of_neg hrow]
        exact ih hrows.2
  exact hlist t.rows t.unique

/-- `INSERT`, refused when the row clashes with one that is there. -/
def insert [DecidableEq κ] (t : UniqueTable keys) (row : α) : Option (UniqueTable keys) :=
  if h : ∃ other ∈ t.rows, Clash keys other row then none
  else some
    { rows := t.rows ++ [row]
      unique := by
        rw [pairwise_append]
        refine ⟨t.unique, pairwise_singleton _ _, ?_⟩
        intro a ha b hb hclash
        obtain rfl := mem_singleton.mp hb
        exact h ⟨a, ha, hclash⟩ }

variable {row : α}

theorem insert_eq_some [DecidableEq κ] {t' : UniqueTable keys} (h : t.insert row = some t') :
    t'.rows = t.rows ++ [row] ∧ ∀ other ∈ t.rows, ¬Clash keys other row := by
  unfold insert at h
  split at h
  next => cases h
  next hfree =>
    cases h
    exact ⟨rfl, fun other hmem hclash => hfree ⟨other, hmem, hclash⟩⟩

/-- `INSERT IGNORE`. -/
def insertIgnore [DecidableEq κ] (t : UniqueTable keys) (row : α) : UniqueTable keys :=
  (t.insert row).getD t

variable {row' : α}

theorem mem_insertIgnore [DecidableEq κ] (h : row' ∈ (t.insertIgnore row).rows) :
    row' ∈ t.rows ∨ row' = row := by
  unfold insertIgnore at h
  cases hinsert : t.insert row with
  | none =>
    rw [hinsert] at h
    exact .inl h
  | some t' =>
    rw [hinsert, Option.getD_some, (insert_eq_some hinsert).1] at h
    rw [mem_append, mem_singleton] at h
    exact h

theorem mem_insertIgnore_of_mem [DecidableEq κ] (h : row' ∈ t.rows) :
    row' ∈ (t.insertIgnore row).rows := by
  unfold insertIgnore
  cases hinsert : t.insert row with
  | none => exact h
  | some t' =>
    rw [Option.getD_some, (insert_eq_some hinsert).1]
    exact mem_append_left _ h

/-- `INSERT IGNORE ... SELECT`. -/
def insertAllIgnore [DecidableEq κ] (t : UniqueTable keys) (rows : List α) : UniqueTable keys :=
  rows.foldl insertIgnore t

variable {rows : List α}

theorem mem_insertAllIgnore [DecidableEq κ] (h : row' ∈ (t.insertAllIgnore rows).rows) :
    row' ∈ t.rows ∨ row' ∈ rows := by
  induction rows generalizing t with
  | nil => exact .inl h
  | cons row rows ih =>
    obtain hmem | hmem := ih h
    · obtain hmem | rfl := mem_insertIgnore hmem
      · exact .inl hmem
      · exact .inr mem_cons_self
    · exact .inr (mem_cons_of_mem _ hmem)

theorem mem_insertAllIgnore_of_mem [DecidableEq κ] (h : row' ∈ t.rows) :
    row' ∈ (t.insertAllIgnore rows).rows := by
  induction rows generalizing t with
  | nil => exact h
  | cons row rows ih => exact ih (mem_insertIgnore_of_mem h)

/-- A row that `INSERT IGNORE` leaves out clashes with one that is there. -/
theorem insertIgnore_covers [DecidableEq κ] (t : UniqueTable keys) (row : α) :
    ∃ row' ∈ (t.insertIgnore row).rows, row' = row ∨ Clash keys row' row := by
  unfold insertIgnore insert
  by_cases hclash : ∃ other ∈ t.rows, Clash keys other row
  · obtain ⟨other, hmem, hother⟩ := hclash
    rw [dif_pos ⟨other, hmem, hother⟩]
    exact ⟨other, hmem, .inr hother⟩
  · rw [dif_neg hclash]
    exact ⟨row, mem_append_right _ mem_cons_self, .inl rfl⟩

theorem insertAllIgnore_covers [DecidableEq κ] (h : row ∈ rows) :
    ∃ row' ∈ (t.insertAllIgnore rows).rows, row' = row ∨ Clash keys row' row := by
  induction rows generalizing t with
  | nil => cases h
  | cons first rows ih =>
    rcases mem_cons.mp h with rfl | hrest
    · obtain ⟨row', hmem, hrow'⟩ := insertIgnore_covers t row
      have hkept : row' ∈ ((t.insertIgnore row).insertAllIgnore rows).rows :=
        mem_insertAllIgnore_of_mem hmem
      exact ⟨row', hkept, hrow'⟩
    · exact ih hrest

/-- `UPDATE ... SET f WHERE p`, for an `f` that takes no new key. -/
def update (t : UniqueTable keys) (p : α → Bool) (f : α → α)
    (hf : ∀ row, Narrows keys row (f row)) : UniqueTable keys where
  rows := Table.update p f t.rows
  unique := by
    rw [Table.update, pairwise_map]
    apply t.unique.imp
    intro a b hab hclash
    have hrow : ∀ row, Narrows keys row (if p row then f row else row) := by
      intro row
      by_cases hp : p row
      · rw [if_pos hp]
        exact hf row
      · rw [if_neg hp]
        exact Narrows.refl keys row
    exact hab (hclash.of_narrows (hrow a) (hrow b))

end UniqueTable

end Table
