import GrowthOs.Support.Transition

/-!
# Calls that read a record, decide and write it back

A call reads the stored record, decides on it (it throws, returns, or computes a log
entry and the next record), appends the entry to a log and then stores the next record.
The three accesses are atomic, the call is not: other calls come between them.

What the decision keeps holds of the stored record in every interleaving.  Where every
write finds the record its call has read, a run is a sequence of atomic decisions.
-/

namespace ReadModifyWrite

open List

variable {ρ κ η ε : Type}

/-- A call that has decided to write. -/
structure Pending (ρ κ η : Type) where
  call : κ
  read : ρ
  entry : η
  next : ρ
  logged : Bool

structure State (ρ κ η : Type) where
  stored : ρ
  log : List η
  pending : List (Pending ρ κ η)

/-- The state before any call. -/
def State.start (record : ρ) : State ρ κ η :=
  ⟨record, [], []⟩

inductive Event (ρ κ η ε : Type)
  | refused (call : κ) (error : ε)
  | unchanged (call : κ)
  | loaded (call : κ)
  | logged (call : κ)
  | wrote (write : Pending ρ κ η)
  | failed (call : κ)

/-- One access of one call.  `refused`, `unchanged` and `loaded` are the read and the
decision; a pending call may also fail at any time. -/
inductive Step (decide : κ → ρ → Except ε (Option (η × ρ))) :
    State ρ κ η → Event ρ κ η ε → State ρ κ η → Prop
  | refused {s : State ρ κ η} {call : κ} {error : ε} :
      decide call s.stored = .error error → Step decide s (.refused call error) s
  | unchanged {s : State ρ κ η} {call : κ} :
      decide call s.stored = .ok none → Step decide s (.unchanged call) s
  | loaded {s : State ρ κ η} {call : κ} {entry : η} {next : ρ} :
      decide call s.stored = .ok (some (entry, next)) →
      Step decide s (.loaded call)
        { s with pending := s.pending ++ [⟨call, s.stored, entry, next, false⟩] }
  | logged {s : State ρ κ η} {write : Pending ρ κ η} {before after : List (Pending ρ κ η)} :
      s.pending = before ++ write :: after → write.logged = false →
      Step decide s (.logged write.call)
        { s with log := s.log ++ [write.entry]
                 pending := before ++ { write with logged := true } :: after }
  | wrote {s : State ρ κ η} {write : Pending ρ κ η} {before after : List (Pending ρ κ η)} :
      s.pending = before ++ write :: after → write.logged = true →
      Step decide s (.wrote write) { s with stored := write.next, pending := before ++ after }
  | failed {s : State ρ κ η} {write : Pending ρ κ η} {before after : List (Pending ρ κ η)} :
      s.pending = before ++ write :: after →
      Step decide s (.failed write.call) { s with pending := before ++ after }

/-- A write finds the record its call has read. -/
def Undisturbed (s : State ρ κ η) (event : Event ρ κ η ε) : Prop :=
  ∀ write, event = .wrote write → s.stored = write.read

variable {decide : κ → ρ → Except ε (Option (η × ρ))}

/-- Every pending write is the decision of its call on the record it has read, and that
record satisfied `I`. -/
def Sound (decide : κ → ρ → Except ε (Option (η × ρ))) (I : ρ → Prop) (s : State ρ κ η) : Prop :=
  I s.stored ∧ ∀ write ∈ s.pending,
    decide write.call write.read = .ok (some (write.entry, write.next)) ∧ I write.read

variable {I : ρ → Prop}

theorem Sound.start {record : ρ} (h : I record) : Sound decide I (State.start record) :=
  ⟨h, nofun⟩

variable {s s' : State ρ κ η} {event : Event ρ κ η ε}

/-- What every decision keeps, every access keeps, whatever comes in between. -/
theorem Sound.step (hkeep : ∀ call record entry next, I record →
      decide call record = .ok (some (entry, next)) → I next) (h : Sound decide I s)
    (hstep : Step decide s event s') : Sound decide I s' := by
  cases hstep with
  | refused | unchanged => exact h
  | loaded hdecide =>
    refine ⟨h.1, fun write hmem => ?_⟩
    rcases mem_append.mp hmem with hmem | hmem
    · exact h.2 write hmem
    · rw [mem_singleton] at hmem
      subst hmem
      exact ⟨hdecide, h.1⟩
  | @logged write before after hpending hlogged =>
    have hwrite := h.2 write (by simp [hpending])
    refine ⟨h.1, fun other hmem => ?_⟩
    rcases mem_append.mp hmem with hmem | hmem
    · exact h.2 other (by simp [hpending, hmem])
    · rcases mem_cons.mp hmem with rfl | hmem
      · exact hwrite
      · exact h.2 other (by simp [hpending, hmem])
  | @wrote write before after hpending hlogged =>
    obtain ⟨hdecide, hread⟩ := h.2 write (by simp [hpending])
    refine ⟨hkeep _ _ _ _ hread hdecide, fun other hmem => h.2 other ?_⟩
    rcases mem_append.mp hmem with hmem | hmem <;> simp [hpending, hmem]
  | @failed write before after hpending =>
    refine ⟨h.1, fun other hmem => h.2 other ?_⟩
    rcases mem_append.mp hmem with hmem | hmem <;> simp [hpending, hmem]

theorem sound_of_run (hkeep : ∀ call record entry next, I record →
      decide call record = .ok (some (entry, next)) → I next) {record : ρ}
    {events : List (Event ρ κ η ε)}
    (hrun : Transition.Run (Step decide) (State.start record) events s) (hstart : I record) :
    Sound decide I s :=
  hrun.invariant (fun _ _ _ h hstep => h.step hkeep hstep) (Sound.start hstart)

/-- An undisturbed access leaves the record alone or makes one decision on it. -/
theorem Sound.atomic (h : Sound decide I s) (hstep : Step decide s event s')
    (hundisturbed : Undisturbed s event) :
    ((∀ write, event ≠ .wrote write) ∧ s'.stored = s.stored) ∨ ∃ write, event = .wrote write ∧
        decide write.call s.stored = .ok (some (write.entry, s'.stored)) := by
  cases hstep with
  | @wrote write before after hpending hlogged =>
    obtain ⟨hdecide, _⟩ := h.2 write (by simp [hpending])
    rw [hundisturbed write rfl]
    exact .inr ⟨write, rfl, hdecide⟩
  | _ => exact .inl ⟨nofun, rfl⟩

/-- A call that nothing comes between. -/
theorem run_call {call : κ} {entry : η} {next : ρ}
    (h : decide call s.stored = .ok (some (entry, next))) :
    Transition.Run (Transition.restrict (Step decide) Undisturbed) s
      [.loaded call, .logged call, .wrote ⟨call, s.stored, entry, next, true⟩]
      ⟨next, s.log ++ [entry], s.pending⟩ := by
  have hlogged : Step decide
      ⟨s.stored, s.log, s.pending ++ [⟨call, s.stored, entry, next, false⟩]⟩ (.logged call)
      ⟨s.stored, s.log ++ [entry], s.pending ++ [⟨call, s.stored, entry, next, true⟩]⟩ :=
    @Step.logged _ _ _ _ _ _ ⟨call, s.stored, entry, next, false⟩ s.pending [] rfl rfl
  have hwrote : Step decide
      ⟨s.stored, s.log ++ [entry], s.pending ++ [⟨call, s.stored, entry, next, true⟩]⟩
      (.wrote ⟨call, s.stored, entry, next, true⟩)
      ⟨next, s.log ++ [entry], s.pending ++ []⟩ :=
    @Step.wrote _ _ _ _ _ _ ⟨call, s.stored, entry, next, true⟩ s.pending [] rfl rfl
  rw [append_nil] at hwrote
  refine .cons ⟨.loaded h, nofun⟩ (.cons ⟨hlogged, nofun⟩ (.single ⟨hwrote, ?_⟩))
  intro write hwrite
  cases hwrite
  rfl

end ReadModifyWrite
