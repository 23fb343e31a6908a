import Mathlib.Data.List.Basic
import Mathlib.Data.List.Count
import Mathlib.Data.List.Induction
import Mathlib.Order.Basic

/-!
# Programs that ask their environment

An `Interaction` asks questions and goes on with the answers; nothing is assumed about
the answers.  `Obeys guard post` says what a program does whatever is answered: which
questions it asks after which past, and with which past it returns.  The rules for it
follow the ways programs are put together.

Calls that run side by side share nothing but their environment, so a run of them is a
list of questions and answers in which every call sees its own program.
-/

/-- A program with questions `Q`, answers `A` and result `R`. -/
inductive Interaction (Q A R : Type)
  | ret (r : R)
  | ask (q : Q) (next : A → Interaction Q A R)

namespace Interaction

open List

variable {Q A R S : Type}

/-- `p`, then `f` on its result. -/
def bind : Interaction Q A R → (R → Interaction Q A S) → Interaction Q A S
  | .ret r, f => f r
  | .ask q next, f => .ask q fun a => (next a).bind f

/-- The program `p` becomes `p'` by the questions and answers of the log. -/
inductive Follows : Interaction Q A R → List (Q × A) → Interaction Q A R → Prop
  | nil (p : Interaction Q A R) : Follows p [] p
  | cons {q : Q} {next : A → Interaction Q A R} {a : A} {log : List (Q × A)}
      {p' : Interaction Q A R} :
      Follows (next a) log p' → Follows (.ask q next) ((q, a) :: log) p'

/-- After the past, every question of the program is one that `guard` admits, and every
result one that `post` admits. -/
def Obeys (guard : List (Q × A) → Q → Prop) (post : List (Q × A) → R → Prop)
    (past : List (Q × A)) : Interaction Q A R → Prop
  | .ret r => post past r
  | .ask q next => guard past q ∧ ∀ a, Obeys guard post (past ++ [(q, a)]) (next a)

section Rules

variable {guard : List (Q × A) → Q → Prop} {past : List (Q × A)}

variable {p : Interaction Q A R} {post : List (Q × A) → R → Prop}

theorem obeys_bind {post : List (Q × A) → S → Prop} {f : R → Interaction Q A S} :
    Obeys guard post past (p.bind f) ↔
      Obeys guard (fun past r => Obeys guard post past (f r)) past p := by
  induction p generalizing past with
  | ret r => exact Iff.rfl
  | ask q next ih => exact and_congr_right fun _ => forall_congr' fun a => ih a

theorem Obeys.mono {post' : List (Q × A) → R → Prop} (h : Obeys guard post past p)
    (hpost : ∀ past r, post past r → post' past r) : Obeys guard post' past p := by
  induction p generalizing past with
  | ret r => exact hpost _ _ h
  | ask q next ih => exact ⟨h.1, fun a => ih a (h.2 a)⟩

/-- What holds of the rest of a program after a log. -/
theorem Obeys.follows {p' : Interaction Q A R} {log : List (Q × A)} (h : Obeys guard post past p)
    (hlog : Follows p log p') : Obeys guard post (past ++ log) p' := by
  induction hlog generalizing past with
  | nil p => simpa using h
  | cons _ ih => simpa using ih (h.2 _)

end Rules

/-- A log splits as its program goes through it. -/
theorem Follows.split {p p' : Interaction Q A R} {before after : List (Q × A)}
    (h : Follows p (before ++ after) p') :
    ∃ middle, Follows p before middle ∧ Follows middle after p' := by
  induction before generalizing p with
  | nil => exact ⟨p, .nil p, h⟩
  | cons entry before ih =>
    cases h with
    | cons hrest =>
      obtain ⟨middle, hleft, hright⟩ := ih hrest
      exact ⟨middle, .cons hleft, hright⟩

/-- The log of a program under the given answers. -/
def replay : Interaction Q A R → List A → List (Q × A)
  | .ask q next, a :: answers => (q, a) :: (next a).replay answers
  | _, _ => []

/-- What is left of a program after the given answers. -/
def rest : Interaction Q A R → List A → Interaction Q A R
  | .ask _ next, a :: answers => (next a).rest answers
  | p, _ => p

theorem follows_replay (p : Interaction Q A R) (answers : List A) :
    Follows p (p.replay answers) (p.rest answers) := by
  induction answers generalizing p with
  | nil => cases p <;> exact .nil _
  | cons a answers ih =>
    cases p with
    | ret r => exact .nil _
    | ask q next => exact .cons (ih (next a))

section Logs

variable {guard : List (Q × A) → Q → Prop} {post : List (Q × A) → R → Prop}
  {p p' : Interaction Q A R} {log : List (Q × A)}

/-- A question of the log was admitted by the guard. -/
theorem Obeys.guard_of_follows (h : Obeys guard post [] p) {before after : List (Q × A)}
    {q : Q} {a : A} (hlog : Follows p (before ++ (q, a) :: after) p') : guard before q := by
  obtain ⟨middle, hleft, hright⟩ := hlog.split
  have hmiddle := h.follows hleft
  cases hright with
  | cons _ => simpa using hmiddle.1

/-- A finished program has what `post` says. -/
theorem Obeys.post_of_follows (h : Obeys guard post [] p) {r : R} (hlog : Follows p log (.ret r)) :
    post log r :=
  h.follows hlog

/-- If every use finds more grants than uses in the past, there are never more uses than
grants. -/
theorem Obeys.countP_le (h : Obeys guard post [] p) {isUse isGrant : Q × A → Bool}
    (hguard : ∀ past q a, guard past q → isUse (q, a) = true →
      past.countP isUse < past.countP isGrant) (hlog : Follows p log p') :
    log.countP isUse ≤ log.countP isGrant := by
  induction log using List.reverseRecOn generalizing p' with
  | nil => simp
  | append_singleton log entry ih =>
    obtain ⟨q, a⟩ := entry
    obtain ⟨middle, hleft, _⟩ := hlog.split
    have hle := ih hleft
    rw [countP_append, countP_append]
    cases huse : isUse (q, a) with
    | false =>
      rw [countP_singleton, huse]
      simp
      omega
    | true =>
      have hlt := hguard log q a (h.guard_of_follows hlog) huse
      rw [countP_singleton, huse, if_pos rfl]
      omega

end Logs

/-! ## Programs that may throw -/

/-- An asynchronous function: its calls and the function itself return or throw. -/
structure Async (Q ε A α : Type) where
  run : Interaction Q (Except ε A) (Except ε α)

namespace Async

variable {ε α β : Type}

/-- What comes after one of the two ways a program ends. -/
def resume (failed : ε → Async Q ε A β) (next : α → Async Q ε A β) :
    Except ε α → Interaction Q (Except ε A) (Except ε β)
  | .ok a => (next a).run
  | .error e => (failed e).run

/-- Take the two ways a program ends apart. -/
def cases (p : Async Q ε A α) (failed : ε → Async Q ε A β) (next : α → Async Q ε A β) :
    Async Q ε A β :=
  ⟨p.run.bind (resume failed next)⟩

/-- A computation without calls. -/
def lift (x : Except ε α) : Async Q ε A α :=
  ⟨.ret x⟩

/-- `await f(...)`. -/
def call (q : Q) : Async Q ε A A :=
  ⟨.ask q .ret⟩

instance : Monad (Async Q ε A) where
  pure a := lift (.ok a)
  bind p f := p.cases (fun e => lift (.error e)) f

variable {guard : List (Q × Except ε A) → Q → Prop}
  {post : List (Q × Except ε A) → Except ε β → Prop} {past : List (Q × Except ε A)}
  {failed : ε → Async Q ε A β}

/-- The rule for a program by what its first part does. -/
theorem obeys_cases {middle : List (Q × Except ε A) → Except ε α → Prop} {p : Async Q ε A α}
    {next : α → Async Q ε A β} (hp : Obeys guard middle past p.run)
    (hfailed : ∀ past e, middle past (.error e) → Obeys guard post past (failed e).run)
    (hnext : ∀ past a, middle past (.ok a) → Obeys guard post past (next a).run) :
    Obeys guard post past (p.cases failed next).run := by
  refine obeys_bind.mpr (hp.mono fun past r hr => ?_)
  cases r with
  | ok a => exact hnext past a hr
  | error e => exact hfailed past e hr

/-- A call, and what comes after its two ways to end. -/
theorem obeys_call_cases {q : Q} {next : A → Async Q ε A β} (hguard : guard past q)
    (hfailed : ∀ e, Obeys guard post (past ++ [(q, .error e)]) (failed e).run)
    (hnext : ∀ a, Obeys guard post (past ++ [(q, .ok a)]) (next a).run) :
    Obeys guard post past ((call q).cases failed next).run := by
  refine ⟨hguard, fun answer => ?_⟩
  cases answer with
  | ok a => exact hnext a
  | error e => exact hfailed e

/-- A call, and what comes after it. -/
theorem obeys_call {q : Q} {f : A → Async Q ε A β} (hguard : guard past q)
    (herror : ∀ e, post (past ++ [(q, .error e)]) (.error e))
    (hok : ∀ a, Obeys guard post (past ++ [(q, .ok a)]) (f a).run) :
    Obeys guard post past (call q >>= f).run :=
  obeys_call_cases hguard herror hok

/-- A computation, and what comes after it. -/
theorem obeys_lift {x : Except ε α} {f : α → Async Q ε A β}
    (herror : ∀ e, x = .error e → post past (.error e))
    (hok : ∀ a, x = .ok a → Obeys guard post past (f a).run) :
    Obeys guard post past (lift x >>= f).run := by
  cases x with
  | ok a => exact hok a rfl
  | error e => exact herror e rfl

end Async

/-! ## Programs side by side -/

section Interleaving

variable {ι : Type} [DecidableEq ι]

/-- The questions and answers of one call. -/
def threadLog (i : ι) (events : List (ι × Q × A)) : List (Q × A) :=
  (events.filter fun event => event.1 == i).map Prod.snd

/-- Every call has gone some way through its program. -/
def Interleaving (program : ι → Interaction Q A R) (events : List (ι × Q × A)) : Prop :=
  ∀ i, ∃ rest, Follows (program i) (threadLog i events) rest

theorem threadLog_append (i : ι) (before after : List (ι × Q × A)) :
    threadLog i (before ++ after) = threadLog i before ++ threadLog i after := by
  simp [threadLog]

theorem threadLog_cons_self (i : ι) (q : Q) (a : A) (events : List (ι × Q × A)) :
    threadLog i ((i, q, a) :: events) = (q, a) :: threadLog i events := by
  simp [threadLog]

theorem threadLog_map (i j : ι) (log : List (Q × A)) :
    threadLog i (log.map (Prod.mk j)) = if j = i then log else [] := by
  rw [threadLog, filter_map, map_map]
  by_cases h : j = i <;> simp [Function.comp_def, h]

/-- The guard of a call admits its questions after what it has seen itself. -/
theorem Interleaving.guard {program : ι → Interaction Q A R}
    {guard : ι → List (Q × A) → Q → Prop} {post : ι → List (Q × A) → R → Prop}
    (hobeys : ∀ i, Obeys (guard i) (post i) [] (program i))
    {before after : List (ι × Q × A)} {i : ι} {q : Q} {a : A}
    (h : Interleaving program (before ++ (i, q, a) :: after)) : guard i (threadLog i before) q := by
  obtain ⟨rest, hlog⟩ := h i
  rw [threadLog_append, threadLog_cons_self] at hlog
  exact (hobeys i).guard_of_follows hlog

/-- What no call does more often than another thing, all of them together do not. -/
theorem countP_le_of_threads {p g : ι → Q × A → Bool} {events : List (ι × Q × A)}
    (h : ∀ i, (threadLog i events).countP (p i) ≤ (threadLog i events).countP (g i)) :
    events.countP (fun event => p event.1 event.2) ≤
      events.countP fun event => g event.1 event.2 := by
  have hown : ∀ (p : ι → Q × A → Bool) (i : ι) (events : List (ι × Q × A)),
      (threadLog i events).countP (p i) =
        (events.filter fun event => event.1 == i).countP fun event => p event.1 event.2 := by
    intro p i events
    rw [threadLog, countP_map]
    refine countP_congr fun event hevent => ?_
    have hi : event.1 = i := by simpa using (mem_filter.mp hevent).2
    simp [hi]
  -- by the number of events: the call of the first one is taken out
  induction hlength : events.length using Nat.strongRecOn generalizing events with
  | _ n ih =>
    cases events with
    | nil => simp
    | cons event rest =>
      let others := (event :: rest).filter fun other => !(other.1 == event.1)
      have hshort : others.length < n := by
        rw [← hlength]
        refine Nat.lt_of_le_of_lt ?_ (Nat.lt_succ_self rest.length)
        simpa [others] using length_filter_le _ rest
      have hlog : ∀ i, threadLog i others =
          if i = event.1 then [] else threadLog i (event :: rest) := by
        intro i
        rw [threadLog, filter_filter]
        by_cases hi : i = event.1
        · simp [hi]
        · rw [if_neg hi, threadLog]
          congr 1
          refine filter_congr fun other _ => ?_
          by_cases hother : other.1 = i
          · simp [hother, hi]
          · simp [hother]
      have hothers := ih _ hshort (fun i => by
        rw [hlog i]
        split_ifs
        · simp
        · exact h i) rfl
      have hfirst := h event.1
      rw [hown p, hown g] at hfirst
      rw [countP_eq_countP_filter_add (event :: rest) _ fun e => e.1 == event.1,
        countP_eq_countP_filter_add (event :: rest) (fun event => g event.1 event.2)
          fun e => e.1 == event.1]
      exact Nat.add_le_add hfirst hothers

end Interleaving

end Interaction
