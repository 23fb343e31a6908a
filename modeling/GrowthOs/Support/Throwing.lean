import Mathlib.Data.List.Forall2

/-!
# Throwing computations

A computation that may throw is an `Except`.  The lemmas here take a
successful computation apart, one statement at a time.
-/

namespace Throwing

open List

universe u v

variable {ε : Type u} {α β : Type v}

/-- `if (c) throw e`. -/
def rejectIf (c : Prop) [Decidable c] (e : ε) : Except ε Unit :=
  if c then .error e else .ok ()

variable {e : ε}

@[simp] theorem rejectIf_eq_ok {c : Prop} [Decidable c] {u : Unit} : rejectIf c e = .ok u ↔ ¬c := by
  by_cases h : c <;> simp [rejectIf, h]

theorem rejectIf_eq_error {c : Prop} [Decidable c] {e' : ε} :
    rejectIf c e = .error e' ↔ c ∧ e = e' := by
  by_cases h : c <;> simp [rejectIf, h]

instance decidableEqOkTrue {ε : Type u} (x : Except ε Bool) : Decidable (x = .ok true) :=
  match x with
  | .ok true => isTrue rfl
  | .ok false => isFalse (by simp)
  | .error _ => isFalse (by simp)

variable {f : α → Except ε β} {a : α}

theorem ok_bind : (Except.ok a >>= f) = f a :=
  rfl

variable {x : Except ε α} {b : β}

/-- A sequence succeeds exactly when both of its parts do. -/
theorem bind_eq_ok : (x >>= f) = .ok b ↔ ∃ a, x = .ok a ∧ f a = .ok b := by
  cases x with
  | error e | ok a => simp [bind, Except.bind]

/-- A sequence throws what its first part throws, or what its second part
throws after it. -/
theorem bind_eq_error : (x >>= f) = .error e ↔ x = .error e ∨ ∃ a, x = .ok a ∧ f a = .error e := by
  cases x with
  | error e => simp [bind, Except.bind]
  | ok a => simp [bind, Except.bind]

variable {xs : List α} {ys : List β}

/-- Mapping a throwing function over a list succeeds exactly when it succeeds on
every element. -/
theorem mapM_eq_ok : xs.mapM f = .ok ys ↔ List.Forall₂ (fun x y => f x = .ok y) xs ys := by
  induction xs generalizing ys with
  | nil =>
    simp only [mapM_nil, forall₂_nil_left_iff]
    constructor
    · rintro ⟨⟩
      rfl
    · rintro rfl
      rfl
  | cons x xs ih =>
    simp only [mapM_cons, bind_eq_ok, forall₂_cons_left_iff]
    constructor
    · rintro ⟨y, hy, rest, hrest, hpure⟩
      cases hpure
      exact ⟨y, rest, hy, ih.mp hrest, rfl⟩
    · rintro ⟨y, rest, hy, hrest, rfl⟩
      exact ⟨y, hy, rest, ih.mpr hrest, rfl⟩

theorem exists_of_mem_mapM (h : xs.mapM f = .ok ys) {y : β} (hy : y ∈ ys) :
    ∃ x ∈ xs, f x = .ok y := by
  have hall := mapM_eq_ok.mp h
  clear h
  induction hall with
  | nil => cases hy
  | cons hx _ ih =>
    rcases mem_cons.mp hy with rfl | hy
    · exact ⟨_, mem_cons_self, hx⟩
    · obtain ⟨x, hmem, hfx⟩ := ih hy
      exact ⟨x, mem_cons_of_mem _ hmem, hfx⟩

theorem exists_of_mem_of_mapM (h : xs.mapM f = .ok ys) {x : α} (hx : x ∈ xs) :
    ∃ y ∈ ys, f x = .ok y := by
  have hall := mapM_eq_ok.mp h
  clear h
  induction hall with
  | nil => cases hx
  | cons hfirst _ ih =>
    rcases mem_cons.mp hx with rfl | hx
    · exact ⟨_, mem_cons_self, hfirst⟩
    · obtain ⟨y, hmem, hfx⟩ := ih hx
      exact ⟨y, mem_cons_of_mem _ hmem, hfx⟩

/-! ## Predicates that may throw -/

/-- `xs.filter(p)`. -/
def select {γ : Type} (p : γ → Except ε Bool) : List γ → Except ε (List γ)
  | [] => .ok []
  | x :: xs => do
    let keep ← p x
    let rest ← select p xs
    .ok (if keep then x :: rest else rest)

/-- `xs.some(p)`. -/
def anyOf {γ : Type} (p : γ → Except ε Bool) : List γ → Except ε Bool
  | [] => .ok false
  | x :: xs => do
    let found ← p x
    if found then .ok true else anyOf p xs

section

variable {γ : Type} {p : γ → Except ε Bool} {items kept : List γ}

theorem mem_select (h : select p items = .ok kept) (y : γ) :
    y ∈ kept ↔ y ∈ items ∧ p y = .ok true := by
  induction items generalizing kept with
  | nil =>
    cases h
    simp
  | cons x items ih =>
    simp only [select, bind_eq_ok] at h
    obtain ⟨keep, hkeep, rest, hrest, h⟩ := h
    cases h
    have hrest := ih hrest
    by_cases hx : y = x
    · subst hx
      cases keep with
      | true => simp [hkeep]
      | false => simp [hkeep, hrest]
    · cases keep with
      | true | false => simp [hx, hrest]

/-- A filter succeeds exactly when its predicate does on every element. -/
theorem select_total : (∃ kept, select p items = .ok kept) ↔ ∀ x ∈ items, ∃ b, p x = .ok b := by
  induction items with
  | nil => simp [select]
  | cons x items ih =>
    rw [forall_mem_cons, ← ih]
    simp only [select, bind_eq_ok]
    constructor
    · rintro ⟨_, keep, hkeep, rest, hrest, _⟩
      exact ⟨⟨keep, hkeep⟩, rest, hrest⟩
    · rintro ⟨⟨keep, hkeep⟩, rest, hrest⟩
      exact ⟨_, keep, hkeep, rest, hrest, rfl⟩

theorem anyOf_total (h : ∀ x ∈ items, ∃ b, p x = .ok b) : ∃ b, anyOf p items = .ok b := by
  induction items with
  | nil => exact ⟨false, rfl⟩
  | cons x items ih =>
    rw [forall_mem_cons] at h
    obtain ⟨⟨found, hfound⟩, hrest⟩ := h
    unfold anyOf
    rw [hfound, ok_bind]
    cases found with
    | true => exact ⟨true, rfl⟩
    | false => exact ih hrest

end

/-- Mapping a throwing function that does not throw here. -/
theorem mapM_total (h : ∀ x ∈ xs, ∃ y, f x = .ok y) : ∃ ys, xs.mapM f = .ok ys := by
  induction xs with
  | nil => exact ⟨[], rfl⟩
  | cons x xs ih =>
    rw [forall_mem_cons] at h
    obtain ⟨⟨y, hy⟩, hrest⟩ := h
    obtain ⟨ys, hys⟩ := ih hrest
    refine ⟨y :: ys, ?_⟩
    simp only [mapM_cons, hy, hys, ok_bind]
    rfl

theorem ok_of_toOption (h : x.toOption = some a) : x = .ok a := by
  cases x <;> simp_all [Except.toOption]

theorem exists_of_isOk (h : x.isOk = true) : ∃ a, x = .ok a := by
  cases x with
  | ok a => exact ⟨a, rfl⟩
  | error e => cases h

theorem exists_ok_of_any {p : α → Prop} [DecidablePred p]
    (h : (x.toOption.any fun a => decide (p a)) = true) : ∃ a, x = .ok a ∧ p a := by
  cases x with
  | ok a => exact ⟨a, rfl, of_decide_eq_true h⟩
  | error e => cases h

/-! ## Two runs side by side -/

/-- Both computations return related results or throw the same error. -/
def Agree (R : α → β → Prop) : Except ε α → Except ε β → Prop
  | .ok a, .ok b => R a b
  | .error e, .error e' => e = e'
  | _, _ => False

variable {R : α → β → Prop} {y : Except ε β}

theorem Agree.exists_ok (h : Agree R x y) (hy : y = .ok b) : ∃ a, x = .ok a ∧ R a b := by
  subst hy
  cases x with
  | ok a => exact ⟨a, rfl, h⟩
  | error e => exact h.elim

theorem Agree.of_eq {R : α → α → Prop} (hrefl : ∀ a, R a a) {y : Except ε α} (h : x = y) :
    Agree R x y := by
  subst h
  cases x with
  | ok a => exact hrefl a
  | error e => rfl

theorem Agree.bind {γ δ : Type v} {S : γ → δ → Prop} {f : α → Except ε γ} {g : β → Except ε δ}
    (h : Agree R x y) (hnext : ∀ a b, R a b → Agree S (f a) (g b)) :
    Agree S (x >>= f) (y >>= g) := by
  cases x with
  | error e =>
    cases y with
    | error e' => exact h
    | ok b => exact h.elim
  | ok a =>
    cases y with
    | error e => exact h.elim
    | ok b => exact hnext a b h

/-- Two loops over one list whose bodies agree. -/
theorem Agree.foldlM {κ : Type} {f : α → κ → Except ε α} {g : β → κ → Except ε β} {xs : List κ}
    (hstep : ∀ x ∈ xs, ∀ a b, R a b → Agree R (f a x) (g b x)) (h : R a b) :
    Agree R (xs.foldlM f a) (xs.foldlM g b) := by
  induction xs generalizing a b with
  | nil => exact h
  | cons x xs ih =>
    rw [forall_mem_cons] at hstep
    exact Agree.bind (hstep.1 a b h) fun a' b' h' => ih hstep.2 h'

end Throwing
