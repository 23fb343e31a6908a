import Mathlib.Data.List.Basic
import Mathlib.Data.List.Count
import Mathlib.Logic.Basic

/-!
# Labelled transition systems and their finite runs

A system is a step relation `step : σ → α → σ → Prop`.  A run records the
labels it went through, so that properties of a history (an order of events,
an event happening at most once) are properties of a list.  The rules below
turn a fact about one step into a fact about every run.
-/

namespace Transition

open List

variable {σ α : Type*}

/-- `Run step s as t`: the labels `as` lead from `s` to `t`. -/
inductive Run (step : σ → α → σ → Prop) : σ → List α → σ → Prop
  | nil (s : σ) : Run step s [] s
  | cons {s t u : σ} {a : α} {as : List α} : step s a t → Run step t as u → Run step s (a :: as) u

/-- The steps of `step` whose label is admissible in the state it starts
from. -/
def restrict (step : σ → α → σ → Prop) (G : σ → α → Prop) : σ → α → σ → Prop :=
  fun s a t => step s a t ∧ G s a

variable {step : σ → α → σ → Prop}

namespace Run

variable {s t : σ}

theorem single {a : α} (h : step s a t) : Run step s [a] t :=
  cons h (nil t)

variable {u : σ} {as : List α}

theorem append {bs : List α} (h₁ : Run step s as t) (h₂ : Run step t bs u) :
    Run step s (as ++ bs) u := by
  induction h₁ with
  | nil s => exact h₂
  | cons hstep _ ih => exact cons hstep (ih h₂)

theorem split {bs : List α} (h : Run step s (as ++ bs) u) :
    ∃ t, Run step s as t ∧ Run step t bs u := by
  induction as generalizing s with
  | nil => exact ⟨s, nil s, h⟩
  | cons a as ih =>
    cases h with
    | cons hstep hrest =>
      obtain ⟨t, hleft, hright⟩ := ih hrest
      exact ⟨t, cons hstep hleft, hright⟩

/-- A label of a run is the label of one of its steps. -/
theorem exists_step_of_mem {a : α} (h : Run step s as u) (ha : a ∈ as) :
    ∃ before after s' t', as = before ++ a :: after ∧
      Run step s before s' ∧ step s' a t' ∧ Run step t' after u := by
  obtain ⟨before, after, rfl⟩ := append_of_mem ha
  obtain ⟨s', hleft, hright⟩ := split h
  cases hright with
  | cons hstep hrest =>
    exact ⟨before, after, s', _, rfl, hleft, hstep, hrest⟩

/-- Forget the admissibility of the steps, or weaken it. -/
theorem mono {step' : σ → α → σ → Prop} (hsub : ∀ s a t, step s a t → step' s a t)
    (h : Run step s as t) : Run step' s as t := by
  induction h with
  | nil s => exact nil s
  | cons hstep _ ih => exact cons (hsub _ _ _ hstep) ih

theorem of_restrict {G : σ → α → Prop} (h : Run (restrict step G) s as t) : Run step s as t :=
  h.mono fun _ _ _ hstep => hstep.1

variable {I : σ → Prop}

/-- The invariant rule: what every step keeps, every run keeps. -/
theorem invariant (hkeep : ∀ s a t, I s → step s a t → I t) (h : Run step s as t) (hs : I s) :
    I t := by
  induction h with
  | nil s => exact hs
  | cons hstep _ ih => exact ih (hkeep _ _ _ hs hstep)

/-- The rule for what depends on the history: `I as s` holds of the labels
`as` that led to `s`. -/
theorem history {I : List α → σ → Prop}
    (hkeep : ∀ as s a t, I as s → step s a t → I (as ++ [a]) t) {before : List α}
    (h : Run step s as t) (hs : I before s) : I (before ++ as) t := by
  induction h generalizing before with
  | nil s => simpa using hs
  | cons hstep _ ih => simpa using ih (hkeep _ _ _ _ hs hstep)

/-- A run of steps that keep `I` is a run of steps that start in `I`. -/
theorem strengthen (hkeep : ∀ s a t, I s → step s a t → I t) (h : Run step s as t) (hs : I s) :
    Run (restrict step fun s _ => I s) s as t := by
  induction h with
  | nil s => exact nil s
  | cons hstep _ ih =>
    exact cons ⟨hstep, hs⟩ (ih (hkeep _ _ _ hs hstep))

/-- The simulation rule: a view under which every step is a step of another
system maps runs to runs of that system. -/
theorem simulates {τ : Type*} {step' : τ → α → τ → Prop} {f : σ → τ}
    (hsim : ∀ s a t, step s a t → step' (f s) a (f t)) (h : Run step s as t) :
    Run step' (f s) as (f t) := by
  induction h with
  | nil s => exact nil _
  | cons hstep _ ih => exact cons (hsim _ _ _ hstep) ih

/-- The latch rule: if `I` holds until a label of `R`, and no step from `I` has
a label of `Q`, then a run from `I` has no label of `Q` before one of `R`. -/
theorem latch {R Q : α → Prop} (hkeep : ∀ s a t, I s → step s a t → ¬R a → I t)
    (hshut : ∀ s a t, I s → step s a t → ¬Q a) (h : Run step s as t) (hs : I s)
    (hnone : ∀ a ∈ as, ¬R a) : ∀ a ∈ as, ¬Q a := by
  induction h with
  | nil s => simp
  | cons hstep _ ih =>
    rw [forall_mem_cons] at hnone ⊢
    exact ⟨hshut _ _ _ hs hstep, ih (hkeep _ _ _ hs hstep hnone.1) hnone.2⟩

/-- If emitting an event of kind `p` spends something that stays spent, and
nothing spent can be emitted again, then at most one event of the run is of
kind `p`. -/
theorem countP_le_one {p : α → Bool} {Q : σ → Prop}
    (hspend : ∀ s a t, step s a t → p a = true → Q t) (hkeep : ∀ s a t, Q s → step s a t → Q t)
    (honce : ∀ s a t, Q s → step s a t → p a = false) (h : Run step s as t) : as.countP p ≤ 1 := by
  have hnone : ∀ {s t : σ} {as : List α}, Run step s as t → Q s → as.countP p = 0 := by
    intro s t as hrun
    induction hrun with
    | nil s => intro _; rfl
    | cons hstep _ ih =>
      intro hspent
      rw [countP_cons_of_neg (by simp [honce _ _ _ hspent hstep])]
      exact ih (hkeep _ _ _ hspent hstep)
  induction h with
  | nil s => simp
  | @cons s t u a as hstep hrest ih =>
    cases hp : p a with
    | false =>
      rw [countP_cons_of_neg (by simp [hp])]
      exact ih
    | true =>
      have hzero := hnone hrest (hspend _ _ _ hstep hp)
      rw [countP_cons_of_pos hp]
      omega

/-- An order on the events of a run: if the step emitting `a` establishes
`Q a`, every later step keeps `Q a`, and no step from `Q a` emits an event
that may not follow `a`, then the events are pairwise in order. -/
theorem pairwise {R : α → α → Prop} {Q : α → σ → Prop} (hest : ∀ s a t, step s a t → Q a t)
    (hkeep : ∀ a s b t, Q a s → step s b t → Q a t) (hord : ∀ a s b t, Q a s → step s b t → R a b)
    (h : Run step s as t) : as.Pairwise R := by
  have hlater : ∀ {a : α} {s t : σ} {as : List α}, Run step s as t → Q a s → ∀ b ∈ as, R a b := by
    intro a s t as hrun
    induction hrun with
    | nil s => intro _ b hb; cases hb
    | cons hstep _ ih =>
      intro hQ b hb
      rcases mem_cons.mp hb with rfl | hb
      · exact hord _ _ _ _ hQ hstep
      · exact ih (hkeep _ _ _ _ hQ hstep) b hb
  induction h with
  | nil s => exact List.Pairwise.nil
  | cons hstep hrest ih =>
    exact pairwise_cons.mpr ⟨hlater hrest (hest _ _ _ hstep), ih⟩

end Run

end Transition
