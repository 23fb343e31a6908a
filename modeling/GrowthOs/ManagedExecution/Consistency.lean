import GrowthOs.ManagedExecution.Effects

/-!
# The projected state is never contradictory

That no contradiction is projected is not kept by the operations alone.  What they keep:
at most one hold is open, no step runs while a hold is open or the run is final, and a
completed run has no unfinished step.  The one gap is a status update whose status is no
string: the checks of `syncManagedExecutionRunStatus` compare it with `===` and are
skipped.
-/

namespace GrowthOs.ManagedExecution

open Js Table Throwing List

/-! ## The invariant -/

/-- What holds of the status, the holds and the steps of a run. -/
structure ConsistentRows (status : RunStatus) (holds : List HoldRow) (steps : List StepRow) :
    Prop where
  one_open : (holds.filter HoldRow.isOpen).length ≤ 1
  open_stops : ∀ hold ∈ holds, hold.status = .opened →
    status ≠ .running ∧ status ≠ .completed ∧ NoneRunning steps
  final_stops : status.isTerminal = true → NoneRunning steps
  completed_done : status = .completed →
    ∀ step ∈ steps, step.status = .completed ∨ step.status = .skipped

def Consistent (s : ManagedRun) : Prop :=
  ConsistentRows s.run.status s.holds s.steps

variable {s s' : ManagedRun} {holds : List HoldRow} {steps : List StepRow} {status : RunStatus}

theorem Rewrites.consistent (h : Rewrites s s' status holds steps)
    (hrows : ConsistentRows status holds steps) : Consistent s' := by
  unfold Consistent
  rw [h.status_eq, h.holds_eq, h.steps_eq]
  exact hrows

theorem Consistent.contradictions_eq_nil (h : Consistent s) :
    contradictions s.run s.holds s.steps = [] := by
  unfold contradictions
  have hopen : ¬((s.holds.any HoldRow.isOpen &&
      (s.run.status == .running || s.run.status == .completed)) = true) := by
    intro hfound
    simp only [Bool.and_eq_true, any_eq_true, HoldRow.isOpen, beq_iff_eq,
      Bool.or_eq_true] at hfound
    obtain ⟨⟨hold, hmem, hopened⟩, hstatus⟩ := hfound
    obtain ⟨hrunning, hcompleted, _⟩ := h.open_stops hold hmem hopened
    exact hstatus.elim hrunning hcompleted
  have hfinal : ¬((s.run.status.isTerminal &&
      s.steps.any (fun step => step.status == .running)) = true) := by
    intro hfound
    simp only [Bool.and_eq_true, any_eq_true, beq_iff_eq] at hfound
    obtain ⟨hterminal, step, hmem, hrunning⟩ := hfound
    exact h.final_stops hterminal step hmem hrunning
  have hcompleted : ¬((s.run.status == .completed && s.steps.any (fun step =>
      step.status == .failed || step.status == .awaiting || step.status == .pending)) = true) := by
    intro hfound
    simp only [Bool.and_eq_true, any_eq_true, beq_iff_eq, Bool.or_eq_true] at hfound
    obtain ⟨hstatus, step, hmem, hunfinished⟩ := hfound
    obtain hdone | hdone := h.completed_done hstatus step hmem <;>
      simp [hdone] at hunfinished
  rw [if_neg hopen, if_neg hfinal, if_neg hcompleted]
  rfl

/-! ## Holds and steps after an update -/

variable {holdId stepRunId : String} {hold : HoldRow} {found : StepRow}

theorem FoundOpen.mem (h : FoundOpen s holdId hold) : hold ∈ s.holds ∧ hold.holdId = holdId := by
  have : hold ∈ s.holds.filter (fun hold => hold.holdId == holdId) := by simp [h.1]
  simpa using mem_filter.mp this

theorem FoundStep.mem (h : FoundStep s stepRunId found) : found ∈ s.steps := by
  have : found ∈ s.steps.filter (fun step => step.stepRunId == stepRunId) := by
    rw [h]
    exact mem_singleton_self found
  exact (mem_filter.mp this).1

theorem Settlement.ne_opened {status : HoldStatus} {runStatus : RunStatus}
    (h : Settlement status runStatus) : status ≠ .opened := by
  cases h <;> nofun

/-- Deciding the only open hold leaves none open. -/
theorem FoundOpen.decided {status : HoldStatus} (h : FoundOpen s holdId hold)
    (hone : (s.holds.filter HoldRow.isOpen).length ≤ 1) (hstatus : status ≠ .opened) :
    AllDecided (s.setHold holdId status).holds := by
  intro row hrow hrowOpen
  obtain ⟨old, hold_mem, rfl⟩ := mem_update.mp hrow
  split_ifs at hrowOpen with hsel
  · exact hstatus hrowOpen
  · -- an open row is the open hold, which the update selects
    have hboth : old = hold := by
      have hin : old ∈ s.holds.filter HoldRow.isOpen :=
        mem_filter.mpr ⟨hold_mem, by simp [HoldRow.isOpen, hrowOpen]⟩
      have hin' : hold ∈ s.holds.filter HoldRow.isOpen :=
        mem_filter.mpr ⟨h.mem.1, by simp [HoldRow.isOpen, h.2]⟩
      obtain ⟨only, honly⟩ := length_eq_one_iff.mp
        (Nat.le_antisymm hone (length_pos_of_mem hin))
      rw [honly, mem_singleton] at hin hin'
      rw [hin, hin']
    subst hboth
    simp [h.mem.2, HoldRow.isOpen, h.2] at hsel

theorem AllDecided.filter_isOpen (h : AllDecided holds) : holds.filter HoldRow.isOpen = [] := by
  rw [filter_eq_nil_iff]
  intro hold hmem hopen
  exact h hold hmem (by simpa [HoldRow.isOpen] using hopen)

theorem allDecided_of_openHolds (h : openHolds s = []) : AllDecided s.holds := by
  intro hold hmem hopen
  have := filter_eq_nil_iff.mp h hold hmem
  simp [HoldRow.isOpen, hopen] at this

theorem noneActive_of_activeSteps (h : activeSteps s none = []) : NoneActive s.steps := by
  intro step hmem
  have := filter_eq_nil_iff.mp h step hmem
  simpa [StepRow.isActive] using this

theorem FoundStep.eq_of_id {row : StepRow} (h : FoundStep s stepRunId found) (hmem : row ∈ s.steps)
    (hid : row.stepRunId = stepRunId) : row = found := by
  have hfound : row ∈ s.steps.filter (fun step => step.stepRunId == stepRunId) :=
    mem_filter.mpr ⟨hmem, by simpa using hid⟩
  rwa [h, mem_singleton] at hfound

/-- No step is active besides a found one that is not. -/
theorem FoundStep.noneActive (h : FoundStep s stepRunId found)
    (hstep : found.status.isActive = false) (hothers : activeSteps s (some stepRunId) = []) :
    NoneActive s.steps := by
  intro row hmem
  by_cases hid : row.stepRunId = stepRunId
  · rw [h.eq_of_id hmem hid]
    exact hstep
  · have hother := filter_eq_nil_iff.mp hothers row hmem
    simpa [StepRow.isActive, hid] using hother

variable {next : StepStatus}

/-- After the update of a step, a row is one from before or that of the step. -/
theorem FoundStep.mem_setStep {row : StepRow} (h : FoundStep s stepRunId found)
    (hrow : row ∈ (s.setStep stepRunId next).steps) :
    row ∈ s.steps ∨ row.status = next ∧ row.stepKey = found.stepKey := by
  obtain ⟨old, hold, rfl⟩ := mem_update.mp hrow
  by_cases hid : old.stepRunId = stepRunId
  · right
    rw [if_pos (by simpa using hid), h.eq_of_id hold hid]
    exact ⟨rfl, rfl⟩
  · simp [hid, hold]

theorem stepTransitionAllowed_active {current : StepStatus}
    (h : stepTransitionAllowed current next = true) : current.isActive = true := by
  cases current <;> first | rfl | cases h

theorem NoneActive.noneRunning (h : NoneActive steps) : NoneRunning steps := by
  intro step hmem hrunning
  have hactive := h step hmem
  rw [hrunning] at hactive
  cases hactive

theorem allDecided_cancelledRun (s : ManagedRun) : AllDecided (cancelledRun s).holds := by
  intro hold hmem hopen
  obtain ⟨old, _, rfl⟩ := mem_update.mp hmem
  split_ifs at hopen with hsel
  exact hsel (by simp [HoldRow.isOpen, hopen])

theorem noneActive_cancelledRun (s : ManagedRun) : NoneActive (cancelledRun s).steps := by
  intro step hmem
  obtain ⟨old, _, rfl⟩ := mem_update.mp hmem
  split_ifs with hsel
  · rfl
  · simpa [StepRow.isActive] using hsel

/-! ## The checks of a status update -/

variable {text given : String}

theorem assertTransition_ok {current next : RunStatus}
    (h : assertManagedExecutionTransition current text = .ok next) :
    next.text = text ∧ (current = next ∨ transitionAllowed current next = true) := by
  unfold assertManagedExecutionTransition at h
  split at h
  · cases h
  · rename_i status hstatus
    split_ifs at h with hallowed
    cases h
    exact ⟨RunStatus.text_of_ofText hstatus, hallowed⟩

theorem toStr_or_str (h : ((Val.str text).or (.str "")).toStr = .ok given) : given = text := by
  unfold Val.or at h
  split_ifs at h with htruthy
  · exact (Except.ok.inj h).symm
  · cases h
    have hempty : text = "" := by simpa [Val.truthy] using htruthy
    exact hempty.symm

variable {o : Oracle} {nextStatus : Val} {env : Platform}

theorem assertRunning_ok (h : assertRunning o s nextStatus = .ok ())
    (hrunning : isText nextStatus "running" = true) : AllDecided s.holds := by
  rw [assertRunning, if_pos hrunning] at h
  split at h
  · cases h
  · rename_i hnone
    intro hold hmem hopen
    have := List.find?_eq_none.mp hnone hold hmem
    simp [HoldRow.isOpen, hopen] at this

theorem assertTerminal_ok (h : assertTerminal s nextStatus = .ok ()) :
    (isTerminalText nextStatus = true → activeSteps s none = []) ∧
      (isText nextStatus "completed" = true → ∀ step ∈ s.steps, step.status ≠ .failed) := by
  simp only [assertTerminal, bind_eq_ok, rejectIf_eq_ok, not_and, not_not] at h
  obtain ⟨_, hactive, hfailed⟩ := h
  refine ⟨hactive, fun hcompleted step hmem => ?_⟩
  have := hfailed hcompleted
  simp only [any_eq_true, not_exists, not_and, beq_iff_eq] at this
  exact this step hmem

/-- A status update by a string: it starts only without an open hold, and ends only
without active steps. -/
theorem syncRun_string {next : RunStatus} (hgiven : ((Val.str text).or (.str "")).toStr = .ok given)
    (hallowed : assertManagedExecutionTransition s.run.status given = .ok next)
    (hrunning : assertRunning o s (.str text) = .ok ())
    (hterminal : assertTerminal s (.str text) = .ok ()) :
    (next = .running → AllDecided s.holds) ∧ (next.isTerminal = true → NoneActive s.steps) ∧
      (next = .completed → ∀ step ∈ s.steps, step.status ≠ .failed) := by
  obtain rfl := toStr_or_str hgiven
  obtain ⟨htext, _⟩ := assertTransition_ok hallowed
  obtain ⟨hactive, hfailed⟩ := assertTerminal_ok hterminal
  subst htext
  refine ⟨?_, ?_, ?_⟩
  · rintro rfl
    exact assertRunning_ok hrunning rfl
  · intro hfinal
    apply noneActive_of_activeSteps
    apply hactive
    cases next <;> first | rfl | cases hfinal
  · rintro rfl
    exact hfailed rfl

/-! ## What every operation keeps -/

/-- Holds that are all decided, and a status that asks nothing of the steps. -/
theorem consistentRows_of_decided (hdecided : AllDecided holds)
    (hstatus : status.isTerminal = false) : ConsistentRows status holds steps where
  one_open := by simp [hdecided.filter_isOpen]
  open_stops := fun hold hmem hopen => (hdecided hold hmem hopen).elim
  final_stops := fun hfinal => by simp [hstatus] at hfinal
  completed_done := by
    rintro rfl
    cases hstatus

/-- A run that has ended, with nothing running and no open hold. -/
theorem consistentRows_of_ended (hdecided : AllDecided holds) (hrunning : NoneRunning steps)
    (hstatus : status ≠ .completed) :
    ConsistentRows status holds steps where
  one_open := by simp [hdecided.filter_isOpen]
  open_stops := fun hold hmem hopen => (hdecided hold hmem hopen).elim
  final_stops := fun _ => hrunning
  completed_done := fun hcompleted => (hstatus hcompleted).elim

theorem AllDecided.one_open (h : AllDecided holds) (added : HoldRow) :
    ((holds ++ [added]).filter HoldRow.isOpen).length ≤ 1 := by
  rw [filter_append, h.filter_isOpen, nil_append]
  exact length_filter_le _ _

/-- A hold opened where none was, while no step runs. -/
theorem consistentRows_of_opened {added : HoldRow} (hdecided : AllDecided holds)
    (hrunning : NoneRunning steps) :
    ConsistentRows .awaitingApproval (holds ++ [added]) steps where
  one_open := hdecided.one_open added
  open_stops := fun _ _ _ => ⟨nofun, nofun, hrunning⟩
  final_stops := nofun
  completed_done := nofun

theorem assertHoldsEligible_ok {authority : AuthoritySnapshot} {now : Int}
    (h : assertHoldsEligible authority holds now = .ok ()) :
    (∀ hold ∈ holds, hold.status ≠ .opened ∧ hold.status ≠ .rejected ∧ hold.status ≠ .expired) ∧
      (authority.approvalRequired = true → ∃ hold ∈ holds, hold.status = .approved) := by
  simp only [assertHoldsEligible, bind_eq_ok] at h
  obtain ⟨_, _, h⟩ := h
  split at h
  · cases h
  · rename_i hnone
    simp only [bind_eq_ok, rejectIf_eq_ok] at h
    obtain ⟨_, hinvalid, happroved⟩ := h
    refine ⟨fun hold hmem => ⟨fun hopen => ?_, fun hrejected => ?_, fun hexpired => ?_⟩, ?_⟩
    · have := List.find?_eq_none.mp hnone hold hmem
      simp [HoldRow.isOpen, hopen] at this
    · exact hinvalid (any_eq_true.mpr ⟨hold, hmem, by simp [hrejected]⟩)
    · exact hinvalid (any_eq_true.mpr ⟨hold, hmem, by simp [hexpired]⟩)
    · intro hrequired
      by_contra hnot
      refine happroved ⟨hrequired, ?_⟩
      rw [any_eq_false]
      intro hold hmem hstatus
      exact hnot ⟨hold, hmem, by simpa using hstatus⟩

theorem eligibility_ok {run : RunRow} {now : Int}
    (h : assertManagedExecutionStepEligibility run holds now = .ok ()) :
    (run.status = .pending ∨ run.status = .running) ∧
      assertHoldsEligible run.authority holds now = .ok () := by
  simp only [assertManagedExecutionStepEligibility, bind_eq_ok, rejectIf_eq_ok, not_and,
    not_not] at h
  obtain ⟨_, hstatus, hholds⟩ := h
  refine ⟨?_, hholds⟩
  by_cases hpending : run.status = .pending
  · exact .inl hpending
  · exact .inr (hstatus hpending)

theorem assertStart_ok (h : assertStart o s next = .ok ()) (hrunning : next = .running) :
    openHolds s = [] ∧
      (s.run.status = .pending ∨ s.run.status = .running ∨ s.run.status = .paused) := by
  rw [assertStart, if_pos hrunning] at h
  simp only [bind_eq_ok, rejectIf_eq_ok] at h
  obtain ⟨_, hopen, _, _, hstatus⟩ := h
  refine ⟨assertNoOpenHolds_ok hopen, ?_⟩
  by_contra hneither
  rw [not_or, not_or] at hneither
  exact hstatus hneither

/-- A step update keeps the invariant. -/
theorem consistent_stepSynced (h : Consistent s) (hfound : FoundStep s stepRunId found)
    (hallowed : stepTransitionAllowed found.status next = true)
    (hstart : assertStart o s next = .ok ()) :
    ConsistentRows (statusAfterStep s.run.status next) s.holds
      (s.setStep stepRunId next).steps := by
  by_cases hrunning : next = .running
  · obtain ⟨hopen, _⟩ := assertStart_ok hstart hrunning
    subst hrunning
    exact consistentRows_of_decided (allDecided_of_openHolds hopen) rfl
  · have hsteps : NoneRunning s.steps → NoneRunning (s.setStep stepRunId next).steps := by
      intro hnone row hrow
      obtain hmem | ⟨hnext, _⟩ := hfound.mem_setStep hrow
      · exact hnone row hmem
      · rw [hnext]
        exact hrunning
    by_cases hfailed : next = .failed
    · subst hfailed
      exact
        { one_open := h.one_open
          open_stops := fun hold hmem hopen =>
            ⟨nofun, nofun, hsteps (h.open_stops hold hmem hopen).2.2⟩
          final_stops := nofun
          completed_done := nofun }
    · have hstatus : statusAfterStep s.run.status next = s.run.status := by
        cases next <;> first | rfl | exact (hrunning rfl).elim | exact (hfailed rfl).elim
      rw [hstatus]
      refine
        { one_open := h.one_open
          open_stops := fun hold hmem hopen => ?_
          final_stops := fun hfinal => hsteps (h.final_stops hfinal)
          completed_done := fun hcompleted => ?_ }
      · obtain ⟨hnot, hnot', hnone⟩ := h.open_stops hold hmem hopen
        exact ⟨hnot, hnot', hsteps hnone⟩
      · -- a step of a completed run has no transition left
        have hdone := h.completed_done hcompleted found hfound.mem
        obtain hdone | hdone := hdone <;> simp [hdone, stepTransitionAllowed] at hallowed

/-- The status given to a status update of the run is a string. -/
def GivenAsString : Operation → Prop
  | .syncRun _ _ nextStatus => ∃ text, nextStatus = .str text
  | _ => True

theorem Consistent.step {operation : Operation} (h : Consistent s)
    (heffect : Effect env s operation s') (hstring : GivenAsString operation) : Consistent s' := by
  cases heffect with
  | unchanged => exact h
  | stepCreated heligible hinserts =>
    obtain ⟨hstatus, hholds⟩ := eligibility_ok heligible
    apply hinserts.writes.consistent
    refine consistentRows_of_decided
      (fun hold hmem => ((assertHoldsEligible_ok hholds).1 hold hmem).1) ?_
    obtain hstatus | hstatus := hstatus <;> rw [hstatus] <;> rfl
  | decided hfound hsettles hrejects hwrites =>
    have hdecided := hfound.decided h.one_open hsettles.ne_opened
    have hnone := (h.open_stops _ hfound.mem.1 hfound.2).2.2
    apply hwrites.consistent
    cases hsettles with
    | expired | approved => exact consistentRows_of_decided hdecided rfl
    | rejected => exact consistentRows_of_ended hdecided hnone nofun
  | holdEscalated hfound hadded hwrites =>
    apply hwrites.consistent
    exact consistentRows_of_opened (hfound.decided h.one_open nofun)
      (h.open_stops _ hfound.mem.1 hfound.2).2.2
  | runSynced hgiven hallowed hrunning hterminal hwrites =>
    obtain ⟨text, rfl⟩ := hstring
    obtain ⟨hstarts, hends, hcompletes⟩ := syncRun_string hgiven hallowed hrunning hterminal
    obtain ⟨_, htransition⟩ := assertTransition_ok hallowed
    apply hwrites.consistent
    refine
      { one_open := h.one_open
        open_stops := fun hold hmem hopen => ⟨?_, ?_, (h.open_stops hold hmem hopen).2.2⟩
        final_stops := fun hfinal => (hends hfinal).noneRunning
        completed_done := ?_ }
    · intro hnext
      exact hstarts hnext hold hmem hopen
    · -- only a running run completes, and a running run has no open hold
      rintro rfl
      obtain ⟨hnot, hnot', _⟩ := h.open_stops hold hmem hopen
      obtain hsame | hallowed := htransition
      · exact hnot' hsame
      · revert hallowed hnot
        cases s.run.status <;> simp [transitionAllowed]
    · rintro rfl step hmem
      have hinactive := hends rfl step hmem
      have hnotFailed := hcompletes rfl step hmem
      revert hinactive hnotFailed
      cases step.status <;> simp [StepStatus.isActive]
  | stepSynced hfound hnext hallowed hstart hwrites =>
    exact hwrites.consistent (consistent_stepSynced h hfound hallowed hstart)
  | retried hfound hfailed hstatus hopen hothers hwrites =>
    exact hwrites.consistent (consistentRows_of_decided (allDecided_of_openHolds hopen) rfl)
  | escalated hstatus hrunning hopen hadded hwrites =>
    exact hwrites.consistent (consistentRows_of_opened (allDecided_of_openHolds hopen) hrunning)
  | cancelled hstatus hwrites =>
    exact hwrites.consistent (consistentRows_of_ended (allDecided_cancelledRun s)
      (noneActive_cancelledRun s).noneRunning nofun)
  | rollbackRequested hstatus hopen hinactive hkey hinserts =>
    exact hinserts.writes.consistent (consistentRows_of_decided (allDecided_of_openHolds hopen) rfl)
  | rollbackFinalized hfound hcompleted hothers hwrites =>
    have hnone := (hfound.noneActive (by rw [hcompleted]; rfl) hothers).noneRunning
    apply hwrites.consistent
    exact
      { one_open := h.one_open
        open_stops := fun _ _ _ => ⟨nofun, nofun, hnone⟩
        final_stops := fun _ => hnone
        completed_done := nofun }

theorem Created.shape (h : Created s) :
    s.steps = [] ∧ ∃ gate o envelope access effect,
      resolveManagedExecutionGate access effect = .ok gate ∧ s = newManagedRun o envelope gate := by
  obtain ⟨o, input, reply, h⟩ := h
  simp only [createManagedExecutionRun, bind_eq_ok, creationRequest, insertRun] at h
  obtain ⟨⟨envelope, gate⟩, ⟨envelope', _, _, _, access, _, gate', hgate, hpair⟩, s',
    ⟨_, _, _, _, _, _, _, _, hnew⟩, h⟩ := h
  cases hpair
  cases hnew
  cases h
  exact ⟨rfl, gate, o, envelope, access, _, hgate, rfl⟩

theorem Created.consistent (h : Created s) : Consistent s := by
  obtain ⟨_, gate, o, envelope, access, effect, hgate, rfl⟩ := h.shape
  simp only [resolveManagedExecutionGate, bind_eq_ok] at hgate
  obtain ⟨_, _, hgate⟩ := hgate
  cases hgate
  cases strongerHold (effectHold effect) (accessHold access) with
  | none => exact consistentRows_of_decided (by simp [newManagedRun, gateForHold, AllDecided]) rfl
  | some hold =>
    refine
      { one_open := length_filter_le _ _
        open_stops := fun _ _ _ => ?_
        final_stops := fun _ => by simp [newManagedRun, NoneRunning]
        completed_done := fun _ => by simp [newManagedRun] }
    by_cases hreview : hold.holdType = .review <;>
      simp [newManagedRun, gateForHold, hreview, NoneRunning]

/-- The steps of the operations whose status updates are strings. -/
def StringStep (env : Platform) : ManagedRun → Operation → ManagedRun → Prop :=
  Transition.restrict (RunStep env) fun _ operation => GivenAsString operation

theorem consistent_of_run {s₀ : ManagedRun} {operations : List Operation} (hcreated : Created s₀)
    (hrun : Transition.Run (StringStep env) s₀ operations s) : Consistent s :=
  hrun.invariant (fun _ _ _ h hstep => h.step hstep.1.effect hstep.2) hcreated.consistent

/-- After any operations whose status updates are given as strings, the projected state
has no contradiction. -/
theorem projection_not_contradictory {env : Platform} {s₀ s : ManagedRun}
    {operations : List Operation} (hcreated : Created s₀)
    (hrun : Transition.Run (StringStep env) s₀ operations s) :
    (projectManagedExecutionState s.run s.holds s.steps s.binding.lifecycleState).contradictions
      = [] :=
  (consistent_of_run hcreated hrun).contradictions_eq_nil

/-- The input of a step. -/
def stepInput (key : String) : Val :=
  .obj [("step_key", .str key), ("idempotency_key", .str key)]

/-- A step is created and started. -/
def startedStep : List Operation :=
  [.createStep (calmOracle "s1") "run1" (stepInput "a"),
    .syncStep (calmOracle "") "run1" "s1" (.str "running")]

/-- The platform of the runs below. -/
def plainPlatform : Platform :=
  { runtime := ⟨id, fun _ => none, fun _ => ""⟩, sameText := fun a b => a == b }

def admitsStrings (_ : ManagedRun) : Operation → Bool
  | .syncRun _ _ (.str _) => true
  | .syncRun _ _ _ => false
  | _ => true

theorem givenAsString_of_admits (s : ManagedRun) (operation : Operation)
    (h : admitsStrings s operation = true) : GivenAsString operation := by
  cases operation with
  | syncRun o runId nextStatus =>
    cases nextStatus with
    | str text => exact ⟨text, rfl⟩
    | _ => cases h
  | _ => trivial

theorem completed_run_not_contradictory :
    ∃ operations s, Transition.Run (StringStep plainPlatform) (createdRun .readOnly) operations s ∧
      (s.run.status == .completed && !s.steps.isEmpty) = true ∧
      (projectManagedExecutionState s.run s.holds s.steps
        s.binding.lifecycleState).contradictions = [] := by
  have hrows : ((performAll plainPlatform admitsStrings (createdRun .readOnly)
      (startedStep ++ [.syncStep (calmOracle "") "run1" "s1" (.str "completed"),
        .syncRun (calmOracle "") "run1" (.str "completed")])).any fun s =>
      s.run.status == .completed && !s.steps.isEmpty) = true := by
    decide +kernel
  obtain ⟨s, hs, hcompleted⟩ := (Option.any_eq_true _ _).mp hrows
  have hrun := run_of_performAll givenAsString_of_admits hs
  exact ⟨_, s, hrun, hcompleted, projection_not_contradictory (created_createdRun _) hrun⟩

/-- A status update by the array `["completed"]` completes the run under its running
step. -/
theorem array_status_contradicts :
    ∃ s, Transition.Run (RunStep plainPlatform) (createdRun .readOnly)
        (startedStep ++ [.syncRun (calmOracle "") "run1" (.arr [.str "completed"])]) s ∧
      (projectManagedExecutionState s.run s.holds s.steps
        s.binding.lifecycleState).contradictions = [.terminalRunHasRunningSteps] := by
  have hrows : ((performAll plainPlatform (fun _ _ => true) (createdRun .readOnly)
      (startedStep ++ [.syncRun (calmOracle "") "run1" (.arr [.str "completed"])])).any fun s =>
      (projectManagedExecutionState s.run s.holds s.steps
        s.binding.lifecycleState).contradictions == [.terminalRunHasRunningSteps]) = true := by
    decide +kernel
  obtain ⟨s, hs, hfound⟩ := (Option.any_eq_true _ _).mp hrows
  exact ⟨s, run_of_performAll_true hs, by simpa using hfound⟩

end GrowthOs.ManagedExecution
