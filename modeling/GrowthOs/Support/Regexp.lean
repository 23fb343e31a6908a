import Mathlib.Data.List.Basic

/-!
# Regular expressions over classes of letters

The letters of an expression are decidable classes, and words are matched by
derivatives.  `search` looks for a match anywhere in a word, `matchesAll` wants
the whole word.  An expression that avoids a letter cannot match across it:
this is what `search_append` says about two words joined by the letter.
-/

universe u

/-- A regular expression; `fail` matches nothing and `done` the empty word. -/
inductive Regexp (α : Type u)
  | fail
  | done
  | one (p : α → Bool)
  | alt (r s : Regexp α)
  | seq (r s : Regexp α)
  | star (r : Regexp α)

namespace Regexp

open List

variable {α : Type u}

/-! ## Building expressions -/

/-- One or more times. -/
def plus (r : Regexp α) : Regexp α :=
  .seq r (.star r)

/-- Once or not at all. -/
def opt (r : Regexp α) : Regexp α :=
  .alt r .done

/-- One expression after the other. -/
def all : List (Regexp α) → Regexp α
  | [] => .done
  | r :: rs => .seq r (all rs)

/-- One of the expressions. -/
def any : List (Regexp α) → Regexp α
  | [] => .fail
  | r :: rs => .alt r (any rs)

/-- The letters of a word in order, each up to `same`. -/
def word (same : α → α → Bool) : List α → Regexp α
  | [] => .done
  | a :: as => .seq (.one (same a)) (word same as)

/-! ## Matching -/

/-- Whether the empty word matches. -/
def nullable : Regexp α → Bool
  | .fail => false
  | .done => true
  | .one _ => false
  | .alt r s => r.nullable || s.nullable
  | .seq r s => r.nullable && s.nullable
  | .star _ => true

/-- A choice without branches that cannot match. -/
def choose : Regexp α → Regexp α → Regexp α
  | .fail, s => s
  | r, .fail => r
  | r, s => .alt r s

/-- A sequence without parts that match nothing. -/
def follow : Regexp α → Regexp α → Regexp α
  | .fail, _ => .fail
  | .done, s => s
  | r, s => .seq r s

/-- What is left to match after the letter `a`. -/
def deriv (a : α) : Regexp α → Regexp α
  | .fail => .fail
  | .done => .fail
  | .one p => if p a then .done else .fail
  | .alt r s => choose (r.deriv a) (s.deriv a)
  | .seq r s =>
    if r.nullable then choose (follow (r.deriv a) s) (s.deriv a)
    else follow (r.deriv a) s
  | .star r => follow (r.deriv a) (.star r)

/-- Some beginning of the word matches. -/
def matchesHere (r : Regexp α) : List α → Bool
  | [] => r.nullable
  | a :: as => r.nullable || (r.deriv a).matchesHere as

/-- Some part of the word matches. -/
def search (r : Regexp α) : List α → Bool
  | [] => r.nullable
  | a :: as => r.matchesHere (a :: as) || search r as

/-- The whole word matches. -/
def matchesAll (r : Regexp α) : List α → Bool
  | [] => r.nullable
  | a :: as => (r.deriv a).matchesAll as

/-! ## Expressions that avoid a letter -/

/-- No class of the expression has the letter. -/
def avoids (c : α) : Regexp α → Bool
  | .fail => true
  | .done => true
  | .one p => !p c
  | .alt r s => r.avoids c && s.avoids c
  | .seq r s => r.avoids c && s.avoids c
  | .star r => r.avoids c

section

variable {c : α} {r s : Regexp α}

theorem avoids_choose (hr : r.avoids c = true) (hs : s.avoids c = true) :
    (choose r s).avoids c = true := by
  unfold choose
  split
  · exact hs
  · exact hr
  · simp [avoids, hr, hs]

theorem avoids_follow (hr : r.avoids c = true) (hs : s.avoids c = true) :
    (follow r s).avoids c = true := by
  unfold follow
  split
  · rfl
  · exact hs
  · simp [avoids, hr, hs]

theorem avoids_deriv (h : r.avoids c = true) (a : α) : (r.deriv a).avoids c = true := by
  induction r with
  | fail | done => rfl
  | one p =>
    unfold deriv
    split <;> rfl
  | alt r s ihr ihs =>
    obtain ⟨hr, hs⟩ := Bool.and_eq_true_iff.mp h
    exact avoids_choose (ihr hr) (ihs hs)
  | seq r s ihr ihs =>
    obtain ⟨hr, hs⟩ := Bool.and_eq_true_iff.mp h
    unfold deriv
    split
    · exact avoids_choose (avoids_follow (ihr hr) hs) (ihs hs)
    · exact avoids_follow (ihr hr) hs
  | star r ih => exact avoids_follow (ih h) h

/-- After a letter it avoids, an expression cannot match any more. -/
theorem deriv_of_avoids (h : r.avoids c = true) : r.deriv c = .fail := by
  induction r with
  | fail => rfl
  | done => rfl
  | one p =>
    have hp : p c = false := by simpa [avoids] using h
    simp [deriv, hp]
  | alt r s ihr ihs =>
    obtain ⟨hr, hs⟩ := Bool.and_eq_true_iff.mp h
    simp [deriv, ihr hr, ihs hs, choose]
  | seq r s ihr ihs =>
    obtain ⟨hr, hs⟩ := Bool.and_eq_true_iff.mp h
    simp [deriv, ihr hr, ihs hs, choose, follow]
  | star r ih => simp [deriv, ih h, follow]

theorem matchesHere_fail (xs : List α) : (fail : Regexp α).matchesHere xs = false := by
  induction xs with
  | nil => rfl
  | cons a xs ih => simpa [matchesHere, nullable, deriv] using ih

theorem matchesAll_fail (xs : List α) : (fail : Regexp α).matchesAll xs = false := by
  induction xs with
  | nil => rfl
  | cons a xs ih => exact ih

/-- A match that starts before the letter ends before it. -/
theorem matchesHere_append (h : r.avoids c = true) (xs ys : List α) :
    r.matchesHere (xs ++ c :: ys) = r.matchesHere xs := by
  induction xs generalizing r with
  | nil => simp [matchesHere, deriv_of_avoids h, matchesHere_fail]
  | cons a xs ih => simp only [cons_append, matchesHere, ih (avoids_deriv h a)]

/-- A match in two words joined by the letter is a match in one of them. -/
theorem search_append (h : r.avoids c = true) (xs ys : List α) :
    r.search (xs ++ c :: ys) = (r.search xs || r.search ys) := by
  induction xs with
  | nil =>
    have hhere : r.matchesHere (c :: ys) = r.nullable :=
      matchesHere_append h [] ys
    simp [search, hhere]
  | cons a xs ih =>
    rw [cons_append, search, search, ih, ← cons_append,
      matchesHere_append h, Bool.or_assoc]

/-- No word with the letter matches as a whole. -/
theorem matchesAll_append (h : r.avoids c = true) (xs ys : List α) :
    r.matchesAll (xs ++ c :: ys) = false := by
  induction xs generalizing r with
  | nil => simp [matchesAll, deriv_of_avoids h, matchesAll_fail]
  | cons a xs ih => exact ih (avoids_deriv h a)

end

/-! ## Words with too few letters -/

/-- Whether the expression can match with these letters at all. -/
def usable (letters : List α) : Regexp α → Bool
  | .fail => false
  | .done => true
  | .one p => letters.any p
  | .alt r s => r.usable letters || s.usable letters
  | .seq r s => r.usable letters && s.usable letters
  | .star _ => true

section

variable {letters : List α} {r s : Regexp α}

theorem usable_word (same : α → α → Bool) (as : List α) :
    (word same as).usable letters = as.all fun a => letters.any (same a) := by
  induction as with
  | nil => rfl
  | cons a as ih => rw [word, usable, usable, ih, all_cons]

theorem usable_of_nullable (h : r.nullable = true) : r.usable letters = true := by
  induction r with
  | fail => cases h
  | done => rfl
  | one p => cases h
  | alt r s ihr ihs =>
    rw [usable, Bool.or_eq_true]
    exact (Bool.or_eq_true_iff.mp h).imp ihr ihs
  | seq r s ihr ihs =>
    rw [usable, Bool.and_eq_true]
    exact (Bool.and_eq_true_iff.mp h).imp ihr ihs
  | star r _ => rfl

theorem usable_choose (h : (choose r s).usable letters = true) :
    r.usable letters = true ∨ s.usable letters = true := by
  unfold choose at h
  split at h
  · exact .inr h
  · exact .inl h
  · exact Bool.or_eq_true_iff.mp h

theorem usable_follow (h : (follow r s).usable letters = true) :
    r.usable letters = true ∧ s.usable letters = true := by
  unfold follow at h
  split at h
  · cases h
  · exact ⟨rfl, h⟩
  · exact Bool.and_eq_true_iff.mp h

theorem usable_of_deriv {a : α} (ha : a ∈ letters)
    (h : (r.deriv a).usable letters = true) : r.usable letters = true := by
  induction r with
  | fail => exact h
  | done => rfl
  | one p =>
    unfold deriv at h
    split at h
    · next hp => exact any_eq_true.mpr ⟨a, ha, hp⟩
    · cases h
  | alt r s ihr ihs =>
    rw [usable, Bool.or_eq_true]
    exact (usable_choose h).imp ihr ihs
  | seq r s ihr ihs =>
    rw [usable, Bool.and_eq_true]
    unfold deriv at h
    split at h
    · next hnull =>
        rcases usable_choose h with h | h
        · exact (usable_follow h).imp_left ihr
        · exact ⟨usable_of_nullable hnull, ihs h⟩
    · exact (usable_follow h).imp_left ihr
  | star r _ => rfl

variable {xs : List α}

theorem usable_of_matchesHere (hxs : ∀ a ∈ xs, a ∈ letters) (h : r.matchesHere xs = true) :
    r.usable letters = true := by
  induction xs generalizing r with
  | nil => exact usable_of_nullable h
  | cons a xs ih =>
    rw [forall_mem_cons] at hxs
    rcases Bool.or_eq_true_iff.mp h with h | h
    · exact usable_of_nullable h
    · exact usable_of_deriv hxs.1 (ih hxs.2 h)

/-- A word that lacks a letter every match needs has no match. -/
theorem search_eq_false (h : r.usable xs = false) : r.search xs = false := by
  have hpart : ∀ ys, (∀ a ∈ ys, a ∈ xs) → r.search ys = true → r.usable xs = true := by
    intro ys
    induction ys with
    | nil => exact fun _ hsearch => usable_of_nullable hsearch
    | cons a ys ih =>
      intro hys hsearch
      rcases Bool.or_eq_true_iff.mp hsearch with hhere | hrest
      · exact usable_of_matchesHere hys hhere
      · exact ih (fun b hb => hys b (mem_cons_of_mem _ hb)) hrest
  apply eq_false_of_ne_true
  intro hsearch
  rw [hpart xs (fun _ ha => ha) hsearch] at h
  cases h

theorem matchesAll_eq_false (h : r.usable xs = false) : r.matchesAll xs = false := by
  have hpart : ∀ ys (s : Regexp α), (∀ a ∈ ys, a ∈ xs) → s.matchesAll ys = true →
      s.usable xs = true := by
    intro ys
    induction ys with
    | nil => exact fun _ _ hmatch => usable_of_nullable hmatch
    | cons a ys ih =>
      intro s hys hmatch
      rw [forall_mem_cons] at hys
      exact usable_of_deriv hys.1 (ih _ hys.2 hmatch)
  apply eq_false_of_ne_true
  intro hmatch
  rw [hpart xs r (fun _ ha => ha) hmatch] at h
  cases h

end

end Regexp
