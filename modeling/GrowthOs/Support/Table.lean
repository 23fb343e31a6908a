import Mathlib.Data.List.Basic
import Mathlib.Data.List.Nodup
import Mathlib.Logic.Relation

/-!
# Tables as lists of rows

A table is the list of its rows.  `update p f` is `UPDATE ... SET f WHERE p`.
An update that keeps a column keeps every uniqueness constraint on it.

A transaction that inserts and deletes nothing is described by what it may do
to one row: `Evolves R rows rows'` says that every row has changed along `R`.
-/

namespace Table

open List

variable {α κ : Type*}

/-- Change the rows selected by `p`. -/
def update (p : α → Bool) (f : α → α) (rows : List α) : List α :=
  rows.map fun row => if p row then f row else row

variable {p : α → Bool} {f : α → α} {rows : List α} {row' : α}

theorem mem_update :
    row' ∈ update p f rows ↔ ∃ row ∈ rows, row' = if p row then f row else row := by
  simp only [update, mem_map, eq_comm]

variable {key : α → κ}

/-- A column the update does not touch. -/
theorem map_update (hkey : ∀ row, key (f row) = key row) (rows : List α) :
    (update p f rows).map key = rows.map key := by
  simp only [update, map_map]
  apply map_congr_left
  intro row _
  by_cases h : p row <;> simp [h, hkey]

variable {row : α} {sel : α → Bool}

/-- An update that selects one row by its key. -/
theorem mem_update_of_unique {target : α} (hunique : (rows.map key).Nodup) (hmem : target ∈ rows)
    (htarget : p target = true) (hp : ∀ row, p row = true → key row = key target)
    (h : row' ∈ update p f rows) : (row' ∈ rows ∧ key row' ≠ key target) ∨ row' = f target := by
  obtain ⟨row, hrow, rfl⟩ := mem_update.mp h
  cases hsel : p row with
  | true =>
    obtain rfl := inj_on_of_nodup_map hunique hrow hmem (hp row hsel)
    simp
  | false =>
    left
    refine ⟨by simpa using hrow, fun hkey => ?_⟩
    obtain rfl := inj_on_of_nodup_map hunique hrow hmem hkey
    rw [htarget] at hsel
    cases hsel

/-- A selection whose rows a change leaves alone. -/
theorem filter_map_of_fixed {g : α → α} (hsel : ∀ row ∈ rows, sel (g row) = sel row)
    (hfix : ∀ row ∈ rows, sel row = true → g row = row) :
    (rows.map g).filter sel = rows.filter sel := by
  have hcongr : rows.filter (sel ∘ g) = rows.filter sel := filter_congr hsel
  have hsame : ∀ row ∈ rows.filter sel, g row = id row := by
    intro row hrow
    obtain ⟨hmem, hsel⟩ := mem_filter.mp hrow
    exact hfix row hmem hsel
  rw [filter_map, hcongr, map_congr_left hsame, map_id]

/-- Finding a row by a column the update does not touch. -/
theorem find?_update (hsel : ∀ row, sel (f row) = sel row) (rows : List α) :
    (update p f rows).find? sel = (rows.find? sel).map fun row => if p row then f row else row := by
  rw [update, List.find?_map]
  congr 2
  funext row
  by_cases hp : p row <;> simp [hp, hsel]

theorem getElem?_set_cases {i j : Nat} (h : (rows.set i row)[j]? = some row') :
    j = i ∧ row' = row ∨ j ≠ i ∧ rows[j]? = some row' := by
  rw [List.getElem?_set] at h
  split_ifs at h with hindex hlength
  · exact .inl ⟨hindex.symm, (Option.some.inj h).symm⟩
  · exact .inr ⟨Ne.symm hindex, h⟩

theorem getElem?_concat_cases {i : Nat} (h : (rows ++ [row])[i]? = some row') :
    rows[i]? = some row' ∨ i = rows.length ∧ row' = row := by
  obtain hlt | hge := Nat.lt_or_ge i rows.length
  · rw [List.getElem?_append_left hlt] at h
    exact .inl h
  · rw [List.getElem?_append_right hge, List.getElem?_singleton] at h
    split_ifs at h with hindex
    exact .inr ⟨by omega, (Option.some.inj h).symm⟩

/-! ## Row-wise evolution -/

/-- Every row of the table has changed along `R`. -/
def Evolves (R : α → α → Prop) (rows rows' : List α) : Prop :=
  ∃ g : α → α, rows' = rows.map g ∧ ∀ row ∈ rows, R row (g row)

variable {R S : α → α → Prop} {rows' rows'' : List α}

theorem Evolves.refl (hrefl : ∀ row ∈ rows, R row row) : Evolves R rows rows :=
  ⟨id, by simp, hrefl⟩

theorem evolves_update (hsel : ∀ row ∈ rows, p row = true → R row (f row))
    (hkeep : ∀ row ∈ rows, p row = false → R row row) : Evolves R rows (update p f rows) := by
  refine ⟨fun row => if p row then f row else row, rfl, ?_⟩
  intro row hmem
  cases hp : p row with
  | false => simpa [hp] using hkeep row hmem hp
  | true => simpa [hp] using hsel row hmem hp

theorem Evolves.mono (h : Evolves R rows rows')
    (himp : ∀ row ∈ rows, ∀ row', R row row' → S row row') : Evolves S rows rows' := by
  obtain ⟨g, rfl, hg⟩ := h
  exact ⟨g, rfl, fun row hmem => himp row hmem _ (hg row hmem)⟩

theorem Evolves.comp (h₁ : Evolves R rows rows') (h₂ : Evolves S rows' rows'') :
    Evolves (Relation.Comp R S) rows rows'' := by
  obtain ⟨g, rfl, hg⟩ := h₁
  obtain ⟨k, rfl, hk⟩ := h₂
  refine ⟨k ∘ g, by simp, ?_⟩
  intro row hmem
  exact ⟨g row, hg row hmem, hk _ (mem_map_of_mem hmem)⟩

/-- Where a row comes from. -/
theorem Evolves.origin (h : Evolves R rows rows') (hmem : row' ∈ rows') :
    ∃ row ∈ rows, R row row' := by
  obtain ⟨g, rfl, hg⟩ := h
  obtain ⟨row, hrow, rfl⟩ := mem_map.mp hmem
  exact ⟨row, hrow, hg row hrow⟩

/-- What becomes of a row. -/
theorem Evolves.image (h : Evolves R rows rows') (hmem : row ∈ rows) :
    ∃ row' ∈ rows', R row row' := by
  obtain ⟨g, rfl, hg⟩ := h
  exact ⟨g row, mem_map_of_mem hmem, hg row hmem⟩

/-- A column no change along `R` touches. -/
theorem Evolves.map_eq (h : Evolves R rows rows')
    (hkey : ∀ row row', R row row' → key row' = key row) : rows'.map key = rows.map key := by
  obtain ⟨g, rfl, hg⟩ := h
  rw [map_map]
  exact map_congr_left fun row hmem => hkey _ _ (hg row hmem)

/-- What a `LIMIT` keeps of rows that are in the order of a key: those with fewer
than `n` rows before them. -/
theorem mem_take_of_sorted {key : α → Nat}
    (hsorted : rows.Pairwise fun a b => key a < key b) (n : Nat) (row : α) :
    row ∈ rows.take n ↔
      row ∈ rows ∧ rows.countP (fun other => decide (key other < key row)) < n := by
  induction rows generalizing n with
  | nil => simp
  | cons first rows ih =>
    rw [pairwise_cons] at hsorted
    cases n with
    | zero => simp
    | succ n =>
      rw [take_succ_cons, mem_cons, mem_cons, ih hsorted.2]
      constructor
      · rintro (rfl | ⟨hmem, hcount⟩)
        · have hnone : rows.countP (fun other => decide (key other < key row)) = 0 := by
            rw [countP_eq_zero]
            intro other hother
            have := hsorted.1 other hother
            simp only [decide_eq_true_eq]
            omega
          refine ⟨.inl rfl, ?_⟩
          rw [countP_cons_of_neg (by simp), hnone]
          omega
        · refine ⟨.inr hmem, ?_⟩
          rw [countP_cons_of_pos (by simpa using hsorted.1 row hmem)]
          omega
      · rintro ⟨rfl | hmem, hcount⟩
        · exact .inl rfl
        · right
          rw [countP_cons_of_pos (by simpa using hsorted.1 row hmem)] at hcount
          exact ⟨hmem, by omega⟩

end Table
