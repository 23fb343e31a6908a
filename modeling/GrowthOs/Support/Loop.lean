import Mathlib.Order.Basic

/-!
# Loops that may return early

A loop is a function `body` from the loop's state to a round: either the next
state, or the value the loop returns.  Fuel bounds the number of rounds; a
measure that every round lowers says how much fuel is enough.
-/

namespace Loop

universe u v

variable {σ : Type u} {ρ : Type v}

/-- What one round of a loop does. -/
inductive Round (σ : Type u) (ρ : Type v)
  | next (s : σ)
  | done (r : ρ)

/-- Run rounds until one returns; `none` if the fuel runs out first. -/
def iterate (body : σ → Round σ ρ) : Nat → σ → Option ρ
  | 0, _ => none
  | fuel + 1, s =>
    match body s with
    | .done r => some r
    | .next s' => iterate body fuel s'

variable {body : σ → Round σ ρ}

variable {s : σ} {I : σ → Prop} {P : ρ → Prop} {μ : σ → Nat}

/-- The partial-correctness rule: an invariant of the rounds that gives the
postcondition where the loop returns. -/
theorem iterate_post (hnext : ∀ s s', I s → body s = .next s' → I s')
    (hdone : ∀ s r, I s → body s = .done r → P r) {fuel : Nat} {r : ρ} (hs : I s)
    (h : iterate body fuel s = some r) : P r := by
  induction fuel generalizing s with
  | zero => cases h
  | succ fuel ih =>
    unfold iterate at h
    split at h
    next r' hbody =>
      obtain rfl := Option.some.inj h
      exact hdone s r' hs hbody
    next s' hbody => exact ih (hnext s s' hs hbody) h

/-- The termination rule: fuel above the measure of the first state is
enough. -/
theorem iterate_isSome (hdecr : ∀ s s', body s = .next s' → μ s' < μ s) {fuel : Nat}
    (hfuel : μ s < fuel) : (iterate body fuel s).isSome := by
  induction fuel generalizing s with
  | zero => omega
  | succ fuel ih =>
    unfold iterate
    split
    next => rfl
    next s' hbody =>
      have hless := hdecr s s' hbody
      exact ih (by omega)

/-- A loop whose measure every round lowers. -/
def run (body : σ → Round σ ρ) (μ : σ → Nat)
    (hdecr : ∀ s s', body s = .next s' → μ s' < μ s) (s : σ) : ρ :=
  (iterate body (μ s + 1) s).get (iterate_isSome hdecr (Nat.lt_succ_self _))

theorem run_post {hdecr : ∀ s s', body s = .next s' → μ s' < μ s}
    (hnext : ∀ s s', I s → body s = .next s' → I s') (hdone : ∀ s r, I s → body s = .done r → P r)
    (hs : I s) : P (run body μ hdecr s) :=
  iterate_post hnext hdone hs (Option.some_get _).symm

end Loop
