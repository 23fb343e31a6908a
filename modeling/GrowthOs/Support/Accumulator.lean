import Mathlib.Data.List.Basic

/-!
# Accumulators that only switch on

A loop folds rows into an accumulator.  A property of the accumulator is a latch
when a row either leaves it as it is or switches it on, whatever came before.
At the end it holds exactly when it held at the start or some row switched it
on, so the order of the rows does not matter and more rows can only switch on
more.
-/

namespace Accumulator

universe u v

variable {α : Type u} {ρ : Type v} {step : α → ρ → α} {P : α → Prop} {switches : ρ → Prop}

/-- `P` is switched on by the rows that satisfy `switches`, and never off. -/
def Latch (step : α → ρ → α) (P : α → Prop) (switches : ρ → Prop) : Prop :=
  ∀ acc row, P (step acc row) ↔ P acc ∨ switches row

theorem Latch.foldl_iff (h : Latch step P switches) (rows : List ρ) (acc : α) :
    P (rows.foldl step acc) ↔ P acc ∨ ∃ row ∈ rows, switches row := by
  induction rows generalizing acc with
  | nil => simp
  | cons row rows ih =>
    rw [List.foldl_cons, ih, h, or_assoc]
    simp

/-- More rows switch on more. -/
theorem Latch.mono (h : Latch step P switches) {rows rows' : List ρ}
    (hsub : rows ⊆ rows') {acc : α} (hrows : P (rows.foldl step acc)) :
    P (rows'.foldl step acc) := by
  rw [h.foldl_iff] at hrows ⊢
  rcases hrows with hacc | ⟨row, hrow, hswitches⟩
  · exact .inl hacc
  · exact .inr ⟨row, hsub hrow, hswitches⟩

end Accumulator
