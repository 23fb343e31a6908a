import GrowthOs.ManagedExecution.Consistency

/-!
# A rejected or expired approval stops the run

The holds are checked when a step is created, not when it starts: a start asks only that
no hold is open and that the run is pending, running or paused.  A rejection or an expiry
leaves the run in a status from which nothing starts; what takes it out again is a retry,
an escalation or the update of a step to `failed`.  A rollback request takes it out too,
but with no step left that could start besides the compensation.
-/

namespace GrowthOs.ManagedExecution

open Js Table Throwing List

/-- Some hold of the run is rejected or expired. -/
def HeldBack (holds : List HoldRow) : Prop :=
  ∃ hold ∈ holds, hold.status = .rejected ∨ hold.status = .expired

/-- The operations that would take up a stopped run are made only while no hold is
rejected or expired. -/
def HeedsHolds (s : ManagedRun) : Operation → Prop
  | .retry .. => ¬HeldBack s.holds
  | .escalate .. => ¬HeldBack s.holds
  | .syncStep _ _ _ nextStatus =>
    ∀ given, requiredString nextStatus "status" 32 = .ok given →
      toLowerCase given = "failed" → ¬HeldBack s.holds
  | _ => True

def HeedingStep (env : Platform) : ManagedRun → Operation → ManagedRun → Prop :=
  Transition.restrict (RunStep env) HeedsHolds

/-- A step that was not running before, and is no rollback compensation, runs only if
the holds pass the check made at its creation. -/
def StartsEligible (s s' : ManagedRun) : Prop :=
  ∀ row' ∈ s'.steps, row'.status = .running → row'.stepKey ≠ managedRollbackStepKey →
    (∃ row ∈ s.steps, row.stepRunId = row'.stepRunId ∧ row.status = .running) ∨
      ∀ now, assertHoldsEligible s.run.authority s.holds now = .ok ()

/-! ## The invariant -/

/-- The statuses a run is in behind a rejected or expired hold. -/
def IsStopped (status : RunStatus) : Prop :=
  status = .failed ∨ status = .awaitingApproval ∨ status = .cancelled

/-- Some step is no rollback compensation. -/
def Ordinary (steps : List StepRow) : Prop :=
  ∃ step ∈ steps, step.stepKey ≠ managedRollbackStepKey

/-- No step is at work besides rollback compensations. -/
def Idle (steps : List StepRow) : Prop :=
  ∀ step ∈ steps, step.stepKey ≠ managedRollbackStepKey → step.status.isActive = false

def Approved (holds : List HoldRow) : Prop :=
  ∃ hold ∈ holds, hold.status = .approved

structure StoppedRows (authority : AuthoritySnapshot) (status : RunStatus)
    (holds : List HoldRow) (steps : List StepRow) : Prop where
  one_open : (holds.filter HoldRow.isOpen).length ≤ 1
  decided : HeldBack holds → AllDecided holds
  stopped : HeldBack holds → IsStopped status ∨ Idle steps
  approved : authority.approvalRequired = true → Ordinary steps → Approved holds

def StopsBehindHolds (s : ManagedRun) : Prop :=
  StoppedRows s.run.authority s.run.status s.holds s.steps

variable {s s' : ManagedRun} {holds : List HoldRow} {status : RunStatus} {steps : List StepRow}
  {authority : AuthoritySnapshot} {holdId : String} {env : Platform}

theorem Rewrites.stopsBehindHolds (h : Rewrites s s' status holds steps)
    (hrows : StoppedRows s.run.authority status holds steps) : StopsBehindHolds s' := by
  unfold StopsBehindHolds
  rw [h.authority_eq, h.status_eq, h.holds_eq, h.steps_eq]
  exact hrows

/-- With the holds as they are, the status and the steps are left to check. -/
theorem Rewrites.sameHolds (hwrites : Rewrites s s' status s.holds steps)
    (h : StopsBehindHolds s) (hstopped : HeldBack s.holds → IsStopped status ∨ Idle steps)
    (hordinary : Ordinary steps → Ordinary s.steps) : StopsBehindHolds s' :=
  hwrites.stopsBehindHolds ⟨h.one_open, h.decided, hstopped,
    fun hrequired hsteps => h.approved hrequired (hordinary hsteps)⟩

/-- With every hold decided, the status and the approvals are left to check. -/
theorem stoppedRows_of_decided (hdecided : AllDecided holds)
    (hstopped : HeldBack holds → IsStopped status)
    (happroved : authority.approvalRequired = true → Ordinary steps → Approved holds) :
    StoppedRows authority status holds steps :=
  ⟨by simp [hdecided.filter_isOpen], fun _ => hdecided, fun hheld => .inl (hstopped hheld),
    happroved⟩

/-- With nothing held back, the open holds and the approvals are. -/
theorem stoppedRows_of_free (hfree : ¬HeldBack holds)
    (hone : (holds.filter HoldRow.isOpen).length ≤ 1)
    (happroved : authority.approvalRequired = true → Ordinary steps → Approved holds) :
    StoppedRows authority status holds steps :=
  ⟨hone, fun hheld => (hfree hheld).elim, fun hheld => (hfree hheld).elim, happroved⟩

/-- An update of open holds keeps the approvals made before it. -/
theorem Approved.update {p : HoldRow → Bool} {f : HoldRow → HoldRow} (h : Approved holds)
    (hopen : ∀ hold, p hold = true → hold.isOpen = true) : Approved (update p f holds) := by
  obtain ⟨hold, hmem, happroved⟩ := h
  refine ⟨hold, mem_update.mpr ⟨hold, hmem, (if_neg fun hsel => ?_).symm⟩, happroved⟩
  have := hopen hold hsel
  simp [HoldRow.isOpen, happroved] at this

theorem Approved.setHold {status : HoldStatus} (h : Approved s.holds) :
    Approved (s.setHold holdId status).holds :=
  h.update fun _ hsel => (Bool.and_eq_true_iff.mp hsel).2

theorem Approved.append (h : Approved holds) (added : HoldRow) : Approved (holds ++ [added]) := by
  obtain ⟨hold, hmem, happroved⟩ := h
  exact ⟨hold, mem_append_left _ hmem, happroved⟩

/-- A decision other than a rejection or an expiry holds nothing back. -/
theorem heldBack_setHold {status : HoldStatus} (h : HeldBack (s.setHold holdId status).holds)
    (hstatus : status ≠ .rejected ∧ status ≠ .expired) : HeldBack s.holds := by
  obtain ⟨hold, hmem, hheld⟩ := h
  obtain ⟨old, hold_mem, rfl⟩ := mem_update.mp hmem
  split_ifs at hheld with hsel
  · exact (hheld.elim hstatus.1 hstatus.2).elim
  · exact ⟨old, hold_mem, hheld⟩

theorem heldBack_append_opened {added : HoldRow} (hadded : added.status = .opened)
    (h : HeldBack (holds ++ [added])) : HeldBack holds := by
  obtain ⟨hold, hmem, hheld⟩ := h
  rcases mem_append.mp hmem with hmem | hmem
  · exact ⟨hold, hmem, hheld⟩
  · rw [mem_singleton] at hmem
    subst hmem
    simp [hadded] at hheld

/-- The keys of the steps after an update that keeps them. -/
theorem ordinary_of_update {p : StepRow → Bool} {f : StepRow → StepRow}
    (h : Ordinary (update p f steps)) (hkey : ∀ step, (f step).stepKey = step.stepKey) :
    Ordinary steps := by
  obtain ⟨step, hmem, hordinary⟩ := h
  obtain ⟨old, hold, rfl⟩ := mem_update.mp hmem
  refine ⟨old, hold, ?_⟩
  split_ifs at hordinary with hsel
  · rwa [hkey] at hordinary
  · exact hordinary

/-- Nothing is held back while a hold is open. -/
theorem StopsBehindHolds.not_heldBack {hold : HoldRow} (h : StopsBehindHolds s)
    (hfound : FoundOpen s holdId hold) : ¬HeldBack s.holds :=
  fun hheld => h.decided hheld hold hfound.mem.1 hfound.2

/-- An inserted compensation is no ordinary step. -/
theorem mem_of_ordinary {row step : StepRow} (hkey : step.stepKey = managedRollbackStepKey)
    (hmem : row ∈ steps ++ [step]) (hordinary : row.stepKey ≠ managedRollbackStepKey) :
    row ∈ steps := by
  refine (mem_append.mp hmem).resolve_right fun hmem => ?_
  rw [mem_singleton] at hmem
  exact hordinary (hmem ▸ hkey)

/-- A step that changes its status while no other is at work is the compensation. -/
theorem Idle.setStep {stepRunId : String} {step : StepRow} {next : StepStatus}
    (h : Idle s.steps) (hfound : FoundStep s stepRunId step)
    (hallowed : stepTransitionAllowed step.status next = true) :
    step.stepKey = managedRollbackStepKey ∧ Idle (s.setStep stepRunId next).steps := by
  have hkey : step.stepKey = managedRollbackStepKey := by
    by_contra hordinary
    have hactive := stepTransitionAllowed_active hallowed
    rw [h step hfound.mem hordinary] at hactive
    cases hactive
  refine ⟨hkey, fun row hrow hordinary => ?_⟩
  obtain hmem | ⟨-, hsame⟩ := hfound.mem_setStep hrow
  · exact h row hmem hordinary
  · exact absurd (hsame.trans hkey) hordinary

theorem StopsBehindHolds.step {operation : Operation} (h : StopsBehindHolds s)
    (heffect : Effect env s operation s') (hheeds : HeedsHolds s operation) :
    StopsBehindHolds s' := by
  cases heffect with
  | unchanged => exact h
  | stepCreated heligible hinserts =>
    obtain ⟨_, hholds⟩ := eligibility_ok heligible
    obtain ⟨hvalid, happroved⟩ := assertHoldsEligible_ok hholds
    have hfree : ¬HeldBack s.holds := by
      rintro ⟨hold, hmem, hheld⟩
      exact hheld.elim (hvalid hold hmem).2.1 (hvalid hold hmem).2.2
    exact hinserts.writes.stopsBehindHolds
      (stoppedRows_of_free hfree h.one_open fun hrequired _ => happroved hrequired)
  | decided hfound hsettles hrejects hwrites =>
    have hfree := h.not_heldBack hfound
    apply hwrites.stopsBehindHolds
    refine stoppedRows_of_decided (hfound.decided h.one_open hsettles.ne_opened) (fun hheld => ?_)
      fun hrequired hsteps => (h.approved hrequired hsteps).setHold
    cases hsettles with
    | expired => exact .inr (.inl rfl)
    | approved => exact (hfree (heldBack_setHold hheld ⟨nofun, nofun⟩)).elim
    | rejected => exact .inl rfl
  | holdEscalated hfound hadded hwrites =>
    apply hwrites.stopsBehindHolds
    refine stoppedRows_of_free (fun hheld => h.not_heldBack hfound
      (heldBack_setHold (heldBack_append_opened hadded hheld) ⟨nofun, nofun⟩))
      (AllDecided.one_open ?_ _)
      fun hrequired hsteps => (h.approved hrequired hsteps).setHold.append _
    exact hfound.decided h.one_open nofun
  | runSynced hgiven hallowed hrunning hterminal hwrites =>
    refine hwrites.sameHolds h (fun hheld => (h.stopped hheld).imp_left fun hstopped => ?_) id
    obtain ⟨_, hsame | htransition⟩ := assertTransition_ok hallowed
    · exact hsame ▸ hstopped
    · -- the only transition out of these statuses leads to `cancelled`
      obtain hstatus | hstatus | hstatus := hstopped <;> rw [hstatus] at htransition
      · cases htransition
      · exact .inr (.inr (by simpa [transitionAllowed] using htransition))
      · cases htransition
  | @stepSynced o runId stepRunId nextStatus _ step next hfound hnext hallowed hstart hwrites =>
    obtain ⟨given, hgiven, htext⟩ := hnext
    refine hwrites.sameHolds h (fun hheld => ?_) (ordinary_of_update · fun _ => rfl)
    refine (h.stopped hheld).imp (fun hstopped => ?_) fun hidle => (hidle.setStep hfound hallowed).2
    by_cases hrunning : next = .running
    · obtain ⟨_, hstatus⟩ := assertStart_ok hstart hrunning
      obtain hstop | hstop | hstop := hstopped <;> rw [hstop] at hstatus <;> simp at hstatus
    · have hnotFailed : next ≠ .failed := by
        rintro rfl
        have hfailed : toLowerCase given = "failed" :=
          (StepStatus.text_of_ofText htext).symm
        exact hheeds given hgiven hfailed hheld
      have hsame : statusAfterStep s.run.status next = s.run.status := by
        cases next <;> first | rfl | exact (hrunning rfl).elim | exact (hnotFailed rfl).elim
      rw [hsame]
      exact hstopped
  | retried hfound hfailed hstatus hopen hothers hwrites =>
    exact hwrites.sameHolds h (fun hheld => (hheeds hheld).elim) (ordinary_of_update · fun _ => rfl)
  | escalated hstatus hrunning hopen hadded hwrites =>
    apply hwrites.stopsBehindHolds
    exact stoppedRows_of_free (mt (heldBack_append_opened hadded) hheeds)
      ((allDecided_of_openHolds hopen).one_open _)
      fun hrequired hsteps => (h.approved hrequired hsteps).append _
  | cancelled hstatus hwrites =>
    apply hwrites.stopsBehindHolds
    refine stoppedRows_of_decided (allDecided_cancelledRun s) (fun _ => .inr (.inr rfl))
      fun hrequired hsteps => ?_
    exact (h.approved hrequired (ordinary_of_update hsteps fun _ => rfl)).update fun _ hsel => hsel
  | rollbackRequested hstatus hopen hinactive hkey hinserts =>
    refine hinserts.writes.sameHolds h (fun _ => .inr fun row hmem hordinary => ?_) ?_
    · exact noneActive_of_activeSteps hinactive row (mem_of_ordinary hkey hmem hordinary)
    · rintro ⟨row, hmem, hordinary⟩
      exact ⟨row, mem_of_ordinary hkey hmem hordinary, hordinary⟩
  | rollbackFinalized hfound hcompleted hothers hwrites =>
    exact hwrites.sameHolds h (fun _ => .inl (.inr (.inr rfl))) id

theorem Created.stopsBehindHolds (h : Created s) : StopsBehindHolds s := by
  have hone := h.consistent.one_open
  obtain ⟨hsteps, gate, o, envelope, access, effect, _, rfl⟩ := h.shape
  have hfree : ¬HeldBack (newManagedRun o envelope gate).holds := by
    rintro ⟨hold, hmem, hheld⟩
    cases hhold : gate.hold <;> simp [newManagedRun, hhold] at hmem
    simp [hmem] at hheld
  exact stoppedRows_of_free hfree hone fun _ hordinary => by
    simp [newManagedRun, Ordinary] at hordinary

theorem stopsBehindHolds_of_run {s₀ : ManagedRun} {operations : List Operation}
    (hcreated : Created s₀) (hrun : Transition.Run (HeedingStep env) s₀ operations s) :
    StopsBehindHolds s :=
  hrun.invariant (fun _ _ _ h hstep => h.step hstep.1.effect hstep.2) hcreated.stopsBehindHolds

/-! ## Starts -/

theorem assertHoldsEligible_of_valid (hopen : AllDecided holds) (hfree : ¬HeldBack holds)
    (happroved : authority.approvalRequired = true → Approved holds) (now : Int) :
    assertHoldsEligible authority holds now = .ok () := by
  have hevidence : ¬(authority.approvalRequired = true ∧ holds = []) := by
    rintro ⟨hrequired, rfl⟩
    obtain ⟨hold, hmem, _⟩ := happroved hrequired
    cases hmem
  have hnone : holds.find? HoldRow.isOpen = none := by
    rw [List.find?_eq_none]
    intro hold hmem hisOpen
    exact hopen hold hmem (by simpa [HoldRow.isOpen] using hisOpen)
  have hvalid : ¬((holds.any fun hold =>
      hold.status == .rejected || hold.status == .expired) = true) := by
    intro hfound
    obtain ⟨hold, hmem, hheld⟩ := any_eq_true.mp hfound
    exact hfree ⟨hold, hmem, by simpa using hheld⟩
  have happroval : ¬(authority.approvalRequired = true ∧
      (holds.any fun hold => hold.status == .approved) = false) := by
    rintro ⟨hrequired, hfound⟩
    obtain ⟨hold, hmem, hstatus⟩ := happroved hrequired
    rw [any_eq_false] at hfound
    exact hfound hold hmem (by simp [hstatus])
  unfold assertHoldsEligible
  rw [rejectIf, if_neg hevidence, ok_bind, hnone]
  rw [rejectIf, if_neg hvalid, ok_bind, rejectIf, if_neg happroval]

/-- The update of a step to `running` behind the invariant. -/
theorem StopsBehindHolds.starts {o : Oracle} {stepRunId : String} {step : StepRow}
    (h : StopsBehindHolds s) (hfound : FoundStep s stepRunId step)
    (hallowed : stepTransitionAllowed step.status .running = true)
    (hstart : assertStart o s .running = .ok ()) (hordinary : step.stepKey ≠ managedRollbackStepKey)
    (now : Int) : assertHoldsEligible s.run.authority s.holds now = .ok () := by
  obtain ⟨hopen, hstatus⟩ := assertStart_ok hstart rfl
  refine assertHoldsEligible_of_valid (allDecided_of_openHolds hopen) ?_
    (fun hrequired => h.approved hrequired ⟨step, hfound.mem, hordinary⟩) now
  intro hheld
  obtain hstopped | hidle := h.stopped hheld
  · obtain hstop | hstop | hstop := hstopped <;> rw [hstop] at hstatus <;> simp at hstatus
  · exact hordinary (hidle.setStep hfound hallowed).1

/-- Steps among which nothing starts. -/
theorem startsEligible_of_steps
    (h : ∀ row' ∈ s'.steps, row'.status = .running → row' ∈ s.steps) : StartsEligible s s' :=
  fun row' hmem hrunning _ => .inl ⟨row', h row' hmem hrunning, rfl, hrunning⟩

/-- In a run that heeds its holds, a step other than the rollback compensation starts
only where the holds pass the check made at its creation. -/
theorem start_needs_valid_holds {env : Platform} {s₀ s s' : ManagedRun}
    {operations : List Operation} {operation : Operation} (hcreated : Created s₀)
    (hrun : Transition.Run (HeedingStep env) s₀ operations s)
    (hstep : HeedingStep env s operation s') : StartsEligible s s' := by
  have h := stopsBehindHolds_of_run hcreated hrun
  have hsame : s'.steps = s.steps → StartsEligible s s' := by
    intro hsteps
    apply startsEligible_of_steps
    intro row' hmem _
    rwa [hsteps] at hmem
  have hadded : ∀ step : StepRow, step.status = .pending → s'.steps = s.steps ++ [step] →
      StartsEligible s s' := by
    intro step hpending hsteps
    apply startsEligible_of_steps
    intro row' hmem hrunning
    rw [hsteps, mem_append, mem_singleton] at hmem
    obtain hmem | rfl := hmem
    · exact hmem
    · rw [hpending] at hrunning
      cases hrunning
  cases hstep.1.effect with
  | unchanged => exact hsame rfl
  | stepCreated heligible hinserts => exact hadded _ hinserts.pending hinserts.writes.steps_eq
  | decided hfound hsettles hrejects hwrites
  | holdEscalated hfound hadded hwrites
  | runSynced hgiven hallowed hrunning hterminal hwrites
  | escalated hstatus hrunning hopen hadded hwrites => exact hsame hwrites.steps_eq
  | rollbackRequested hstatus hopen hinactive hkey hinserts =>
    exact hadded _ hinserts.pending hinserts.writes.steps_eq
  | rollbackFinalized hfound hcompleted hothers hwrites => exact hsame hwrites.steps_eq
  | stepSynced hfound hnext hallowed hstart hwrites =>
    intro row' hmem hrunning hordinary
    rw [hwrites.steps_eq] at hmem
    obtain hmem | ⟨hnext', hkey⟩ := hfound.mem_setStep hmem
    · exact .inl ⟨row', hmem, rfl, hrunning⟩
    · rw [hnext'] at hrunning
      subst hrunning
      exact .inr (h.starts hfound hallowed hstart (hkey ▸ hordinary))
  | retried hfound hfailed hstatus hopen hothers hwrites =>
    apply startsEligible_of_steps
    intro row' hmem hrunning
    rw [hwrites.steps_eq] at hmem
    obtain ⟨old, hold, rfl⟩ := mem_update.mp hmem
    split_ifs at hrunning ⊢ with hsel
    exact hold
  | cancelled hstatus hwrites =>
    intro row' hmem hrunning
    rw [hwrites.steps_eq] at hmem
    exact ((noneActive_cancelledRun s).noneRunning row' hmem hrunning).elim

/-! ## A start behind an approved hold, and one behind a rejected one -/

/-- The supervisor approves, a step is created, started and fails. -/
def failedStep : List Operation :=
  .decide (calmOracle "") "h1" (.str "approved") :: startedStep ++
    [.syncStep (calmOracle "") "run1" "s1" (.str "failed")]

/-- The failed step brings up a second hold, which is rejected; the step is retried. -/
def retriedAfterRejection : List Operation :=
  failedStep ++ [.escalate (calmOracle "h2") "run1" .undefined .undefined,
      .decide (calmOracle "") "h2" (.str "rejected"),
      .retry (calmOracle "") "run1" "s1" (.str "again") .undefined .undefined]

/-- The operation that starts the step. -/
def startStep : Operation :=
  .syncStep (calmOracle "") "run1" "s1" (.str "running")

/-- Some step runs after the operation that did not run before. -/
def startsSomething (s : ManagedRun) : Bool :=
  (performAll plainPlatform (fun _ _ => true) s [startStep]).any fun s' =>
    s'.steps.any fun row' => row'.status == .running && row'.stepKey != managedRollbackStepKey &&
      s.steps.all fun row => row.stepRunId != row'.stepRunId || row.status != .running

def admitsWithoutRejection (s : ManagedRun) (_ : Operation) : Bool :=
  s.holds.all fun hold => hold.status != .rejected && hold.status != .expired

theorem heedsHolds_of_admits (s : ManagedRun) (operation : Operation)
    (h : admitsWithoutRejection s operation = true) : HeedsHolds s operation := by
  have hfree : ¬HeldBack s.holds := by
    rintro ⟨hold, hmem, hheld⟩
    have := all_eq_true.mp h hold hmem
    obtain hheld | hheld := hheld <;> simp [hheld] at this
  cases operation with
  | syncStep => exact fun _ _ _ => hfree
  | retry | escalate => exact hfree
  | _ => trivial

theorem started_again_with_approval :
    ∃ operations s s', Transition.Run (HeedingStep plainPlatform) (createdRun .destructive)
        operations s ∧ HeedingStep plainPlatform s startStep s' ∧ startsSomething s = true ∧
      StartsEligible s s' := by
  have hrows : ((performAll plainPlatform admitsWithoutRejection (createdRun .destructive)
      (failedStep ++ [.retry (calmOracle "") "run1" "s1" (.str "again") .undefined .undefined])).any
      fun s => startsSomething s && admitsWithoutRejection s startStep &&
        (perform plainPlatform s startStep).isOk) = true := by
    decide +kernel
  obtain ⟨s, hs, hfound⟩ := (Option.any_eq_true _ _).mp hrows
  simp only [Bool.and_eq_true] at hfound
  obtain ⟨⟨hstarts, hadmits⟩, hok⟩ := hfound
  obtain ⟨⟨reply, s'⟩, hperform⟩ := exists_of_isOk hok
  have hrun := run_of_performAll heedsHolds_of_admits hs
  have hstep : HeedingStep plainPlatform s startStep s' :=
    ⟨.done hperform, heedsHolds_of_admits s startStep hadmits⟩
  exact ⟨_, s, s', hrun, hstep, hstarts, start_needs_valid_holds (created_createdRun _) hrun hstep⟩

theorem started_after_rejection :
    ∃ s s', Transition.Run (RunStep plainPlatform) (createdRun .destructive)
        retriedAfterRejection s ∧ RunStep plainPlatform s startStep s' ∧
      (s.holds.any fun hold => hold.status == .rejected) = true ∧ ¬StartsEligible s s' := by
  have hrows : ((performAll plainPlatform (fun _ _ => true) (createdRun .destructive)
      retriedAfterRejection).any fun s => startsSomething s &&
        s.holds.any fun hold => hold.status == .rejected) = true := by
    decide +kernel
  obtain ⟨s, hs, hfound⟩ := (Option.any_eq_true _ _).mp hrows
  rw [Bool.and_eq_true] at hfound
  obtain ⟨hstarts, hrejected⟩ := hfound
  obtain ⟨s', hs', hentered⟩ := (Option.any_eq_true _ _).mp hstarts
  cases run_of_performAll_true hs' with
  | cons hstep hnil =>
    cases hnil
    refine ⟨s, s', run_of_performAll_true hs, hstep, hrejected, fun heligible => ?_⟩
    obtain ⟨row', hmem, hrow'⟩ := any_eq_true.mp hentered
    simp only [Bool.and_eq_true, beq_iff_eq, bne_iff_ne, all_eq_true, Bool.or_eq_true] at hrow'
    obtain ⟨⟨hrunning, hordinary⟩, hnew⟩ := hrow'
    obtain ⟨row, hrow, hid, hwas⟩ | hvalid := heligible row' hmem hrunning hordinary
    · exact (hnew row hrow).elim (fun hne => hne hid) (fun hne => hne hwas)
    · obtain ⟨hold, hhold, hstatus⟩ := any_eq_true.mp hrejected
      exact ((assertHoldsEligible_ok (hvalid 0)).1 hold hhold).2.1 (beq_iff_eq.mp hstatus)

end GrowthOs.ManagedExecution
