import Mathlib.Logic.Relation

/-!
# Acyclic relations

When a relation stays acyclic: it shrinks, or it gains an edge whose source
cannot be reached from its target.
-/

namespace Digraph

open Relation

variable {α : Type*} {r r' : α → α → Prop}

/-- No walk of at least one edge comes back to its start. -/
def Acyclic (r : α → α → Prop) : Prop :=
  ∀ x, ¬TransGen r x x

theorem Acyclic.mono (hr : Acyclic r) (hsub : ∀ a b, r' a b → r a b) : Acyclic r' :=
  fun x hx => hr x (TransGen.mono hsub x x hx)

/-- A walk in a relation with one more edge avoids it, or goes to its source
and comes from its target. -/
theorem transGen_of_extra {source target x y : α}
    (hsub : ∀ a b, r' a b → r a b ∨ a = source ∧ b = target) (h : TransGen r' x y) :
    TransGen r x y ∨ ReflTransGen r x source ∧ ReflTransGen r target y := by
  induction h with
  | single hab =>
    rcases hsub _ _ hab with hab | ⟨rfl, rfl⟩
    · exact .inl (.single hab)
    · exact .inr ⟨.refl, .refl⟩
  | tail _ hbc ih =>
    rcases hsub _ _ hbc with hbc | ⟨rfl, rfl⟩
    · rcases ih with hwalk | ⟨hto, hfrom⟩
      · exact .inl (hwalk.tail hbc)
      · exact .inr ⟨hto, hfrom.tail hbc⟩
    · rcases ih with hwalk | ⟨hto, _⟩
      · exact .inr ⟨hwalk.to_reflTransGen, .refl⟩
      · exact .inr ⟨hto, .refl⟩

/-- An edge may be added when its source is out of reach of its target. -/
theorem Acyclic.extra (hr : Acyclic r) {source target : α}
    (hsub : ∀ a b, r' a b → r a b ∨ a = source ∧ b = target)
    (hfar : ¬ReflTransGen r target source) : Acyclic r' := by
  intro x hx
  rcases transGen_of_extra hsub hx with hwalk | ⟨hto, hfrom⟩
  · exact hr x hwalk
  · exact hfar (hfrom.trans hto)

end Digraph
