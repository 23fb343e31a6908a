import GrowthOs.ManagedExecution.Operations
import GrowthOs.Support.Transition

/-!
# What an operation does to a managed run

Every operation is taken apart once: the checks it has passed and what it has written of
the status of the run, its holds and its steps.  The results on whole runs are derived
from this description.
-/

namespace GrowthOs.ManagedExecution

open Js
open Table (update)
open Throwing

/-- How a decision closes a hold, and the status it gives the run. -/
inductive Settlement : HoldStatus → RunStatus → Prop
  | expired : Settlement .expired .awaitingApproval
  | approved : Settlement .approved .running
  | rejected : Settlement .rejected .failed

/-- The status of the run after a step has got a new one. -/
def statusAfterStep (status : RunStatus) : StepStatus → RunStatus
  | .running => .running
  | .failed => .paused
  | _ => status

/-- The columns of a run that the checks of the operations read, and its requests. -/
structure Rewrites (s s' : ManagedRun) (status : RunStatus) (holds : List HoldRow)
    (steps : List StepRow) : Prop where
  status_eq : s'.run.status = status
  authority_eq : s'.run.authority = s.run.authority
  holds_eq : s'.holds = holds
  steps_eq : s'.steps = steps
  runId_eq : s'.run.runId = s.run.runId
  requests_eq : s'.requests = s.requests

/-- No hold is open any more. -/
def AllDecided (holds : List HoldRow) : Prop :=
  ∀ hold ∈ holds, hold.status ≠ .opened

def NoneRunning (steps : List StepRow) : Prop :=
  ∀ step ∈ steps, step.status ≠ .running

def NoneActive (steps : List StepRow) : Prop :=
  ∀ step ∈ steps, step.status.isActive = false

/-- The hold is the only one with the id, and it is open. -/
def FoundOpen (s : ManagedRun) (holdId : String) (hold : HoldRow) : Prop :=
  s.holds.filter (fun hold => hold.holdId == holdId) = [hold] ∧ hold.status = .opened

/-- The step is the only one with the id. -/
def FoundStep (s : ManagedRun) (stepRunId : String) (step : StepRow) : Prop :=
  s.steps.filter (fun step => step.stepRunId == stepRunId) = [step]

/-- A step and its request are inserted: the id and the key are new. -/
structure Inserts (env : Platform) (s s' : ManagedRun) (status : RunStatus) (step : StepRow)
    (key : String) : Prop where
  fresh : step.stepRunId ∉ s.steps.map StepRow.stepRunId
  unused : s.requests.filter (fun request => env.sameText request.idempotencyKey key) = []
  pending : step.status = .pending
  writes : Rewrites { s with requests := s.requests ++ [⟨step.stepRunId, key, step.stepKey⟩] } s'
    status s.holds (s.steps ++ [step])

/-- The checks behind each operation that writes something, and what it writes. -/
inductive Effect (env : Platform) (s : ManagedRun) : Operation → ManagedRun → Prop
  | unchanged {operation : Operation} : Effect env s operation s
  | stepCreated {o : Oracle} {runId key : String} {input : Val} {s' : ManagedRun} {step : StepRow}
      (heligible : assertManagedExecutionStepEligibility s.run s.holds o.now = .ok ())
      (hinserts : Inserts env s s' s.run.status step key)
      (hstepKey : requiredString (input.member "step_key") "step_key" 128 = .ok step.stepKey) :
      Effect env s (.createStep o runId input) s'
  | decided {o : Oracle} {holdId : String} {decision : Val} {s' : ManagedRun} {hold : HoldRow}
      {status : HoldStatus} {runStatus : RunStatus} (hfound : FoundOpen s holdId hold)
      (hsettles : Settlement status runStatus)
      (hrejects : status = .rejected → Decision.ofVal decision = some .rejected)
      (hwrites : Rewrites s s' runStatus (s.setHold holdId status).holds s.steps) :
      Effect env s (.decide o holdId decision) s'
  | holdEscalated {o : Oracle} {holdId : String} {decision : Val} {s' : ManagedRun}
      {hold added : HoldRow} (hfound : FoundOpen s holdId hold) (hadded : added.status = .opened)
      (hwrites : Rewrites s s' .awaitingApproval ((s.setHold holdId .escalated).holds ++ [added])
        s.steps) :
      Effect env s (.decide o holdId decision) s'
  | runSynced {o : Oracle} {runId : String} {nextStatus : Val} {s' : ManagedRun}
      {given : String} {next : RunStatus}
      (hgiven : (nextStatus.or (.str "")).toStr = .ok given)
      (hallowed : assertManagedExecutionTransition s.run.status given = .ok next)
      (hrunning : assertRunning o s nextStatus = .ok ())
      (hterminal : assertTerminal s nextStatus = .ok ())
      (hwrites : Rewrites s s' next s.holds s.steps) :
      Effect env s (.syncRun o runId nextStatus) s'
  | stepSynced {o : Oracle} {runId stepRunId : String} {nextStatus : Val} {s' : ManagedRun}
      {step : StepRow} {next : StepStatus} (hfound : FoundStep s stepRunId step)
      (hnext : ∃ given, requiredString nextStatus "status" 32 = .ok given ∧
        StepStatus.ofText (toLowerCase given) = some next)
      (hallowed : stepTransitionAllowed step.status next = true)
      (hstart : assertStart o s next = .ok ())
      (hwrites : Rewrites s s' (statusAfterStep s.run.status next) s.holds
        (s.setStep stepRunId next).steps) :
      Effect env s (.syncStep o runId stepRunId nextStatus) s'
  | retried {o : Oracle} {runId stepRunId : String} {idempotencyKey reason maxAttempts : Val}
      {s' : ManagedRun} {step : StepRow} {attempt : Nat} (hfound : FoundStep s stepRunId step)
      (hfailed : step.status = .failed)
      (hstatus : s.run.status = .paused ∨ s.run.status = .failed)
      (hopen : openHolds s = []) (hothers : activeSteps s (some stepRunId) = [])
      (hwrites : Rewrites s s' .running s.holds (update (fun step => step.stepRunId == stepRunId)
          (fun step => { step with status := .pending, attempt }) s.steps)) :
      Effect env s (.retry o runId stepRunId idempotencyKey reason maxAttempts) s'
  | escalated {o : Oracle} {runId : String} {reason assignedTo : Val} {s' : ManagedRun}
      {added : HoldRow} (hstatus : s.run.status = .paused ∨ s.run.status = .failed)
      (hrunning : NoneRunning s.steps) (hopen : openHolds s = [])
      (hadded : added.status = .opened)
      (hwrites : Rewrites s s' .awaitingApproval (s.holds ++ [added]) s.steps) :
      Effect env s (.escalate o runId reason assignedTo) s'
  | cancelled {runId : String} {reason : Val} {s' : ManagedRun}
      (hstatus : s.run.status.isTerminal = false)
      (hwrites : Rewrites s s' .cancelled (cancelledRun s).holds (cancelledRun s).steps) :
      Effect env s (.cancel runId reason) s'
  | rollbackRequested {o : Oracle} {runId key : String} {idempotencyKey assignedTo reason : Val}
      {s' : ManagedRun} {step : StepRow} (hstatus : isRollbackSource s.run.status = true)
      (hopen : openHolds s = []) (hinactive : activeSteps s none = [])
      (hkey : step.stepKey = managedRollbackStepKey) (hinserts : Inserts env s s' .running step key)
      (hread : requiredString idempotencyKey "idempotency_key" 191 = .ok key)
      (hended : ∀ row ∈ s.steps, row.stepKey = managedRollbackStepKey →
        row.status = .failed ∨ row.status = .skipped) :
      Effect env s (.rollback o runId idempotencyKey assignedTo reason) s'
  | rollbackFinalized {o : Oracle} {runId stepRunId : String} {s' : ManagedRun} {step : StepRow}
      (hfound : FoundStep s stepRunId step) (hcompleted : step.status = .completed)
      (hothers : activeSteps s (some stepRunId) = [])
      (hwrites : Rewrites s s' .cancelled s.holds s.steps) :
      Effect env s (.finalizeRollback o runId stepRunId) s'

/-! ## Each operation -/

variable {env : Platform} {o : Oracle} {s s' : ManagedRun} {runId stepRunId : String}
  {step : StepRow} {reply nextStatus : Val}

theorem findStep_ok (h : findStep s stepRunId = .ok step) : FoundStep s stepRunId step := by
  unfold findStep at h
  split at h
  · rename_i found hfound
    cases h
    exact hfound
  · cases h
  · cases h

theorem assertNoOpenHolds_ok {operation : String} {u : Unit}
    (h : assertNoOpenHolds s operation = .ok u) : openHolds s = [] := by
  simpa [assertNoOpenHolds] using h

theorem insertStep_ok {key : String} (h : insertStep s step key = .ok s') :
    step.stepRunId ∉ s.steps.map StepRow.stepRunId ∧
      s' = { s with
        steps := s.steps ++ [step]
        requests := s.requests ++ [⟨step.stepRunId, key, step.stepKey⟩] } := by
  simp only [insertStep, bind_eq_ok, rejectIf_eq_ok] at h
  obtain ⟨_, hfresh, h⟩ := h
  cases h
  exact ⟨by simpa using hfresh, rfl⟩

theorem insertHold_ok {hold : HoldRow} (h : insertHold s hold = .ok s') :
    s' = { s with
      holds := s.holds ++ [hold]
      binding := { s.binding with approvalHoldId := some hold.holdId } } := by
  simp only [insertHold, bind_eq_ok] at h
  obtain ⟨_, _, h⟩ := h
  cases h
  rfl

theorem createBeside_unchanged {creation : CreationOracle} {input : Val}
    (h : createBesideManagedExecutionRun env creation input s = .ok (reply, s')) : s' = s := by
  simp only [createBesideManagedExecutionRun, bind_eq_ok] at h
  obtain ⟨request, _, h⟩ := h
  split at h
  · simp only [bind_eq_ok] at h
    obtain ⟨_, _, h⟩ := h
    cases h
    rfl
  · simp only [bind_eq_ok] at h
    obtain ⟨_, _, h⟩ := h
    cases h
    rfl

theorem createStep_effect {input : Val}
    (h : createManagedExecutionStep env o runId input s = .ok (reply, s')) :
    Effect env s (.createStep o runId input) s' := by
  simp only [createManagedExecutionStep, bind_eq_ok] at h
  obtain ⟨stepKey, hstepKey, given, _, _, _, key, _, _, _, _, _, ⟨⟩, heligible, _, _, _, _, h⟩ := h
  split at h
  · cases h
    exact .unchanged
  · rename_i hunused
    simp only [bind_eq_ok] at h
    obtain ⟨assignedTo, _, inserted, hinserted, h⟩ := h
    cases h
    obtain ⟨hfresh, rfl⟩ := insertStep_ok hinserted
    exact .stepCreated heligible ⟨hfresh, hunused, rfl, rfl, rfl, rfl, rfl, rfl, rfl⟩ hstepKey
  · cases h

theorem decide_effect {holdId : String} {decision : Val}
    (h : decideManagedExecutionApproval o holdId decision s = .ok (reply, s')) :
    Effect env s (.decide o holdId decision) s' := by
  unfold decideManagedExecutionApproval at h
  split at h
  · rename_i hold hfound
    simp only [bind_eq_ok, rejectIf_eq_ok, not_not] at h
    obtain ⟨_, hopen, h⟩ := h
    split at h
    · cases h
      exact .decided ⟨hfound, hopen⟩ .expired (fun h => by cases h) ⟨rfl, rfl, rfl, rfl, rfl, rfl⟩
    · split at h
      · cases h
      · simp only [bind_eq_ok] at h
        obtain ⟨_, _, h⟩ := h
        cases h
        exact .decided ⟨hfound, hopen⟩ .approved (fun h => by cases h)
          ⟨rfl, rfl, rfl, rfl, rfl, rfl⟩
      · rename_i hdecision
        cases h
        exact .decided ⟨hfound, hopen⟩ .rejected (fun _ => hdecision) ⟨rfl, rfl, rfl, rfl, rfl, rfl⟩
      · simp only [escalateHold, bind_eq_ok] at h
        obtain ⟨inserted, hinserted, h⟩ := h
        cases h
        obtain rfl := insertHold_ok hinserted
        refine .holdEscalated ⟨hfound, hopen⟩ ?_ ⟨rfl, rfl, rfl, rfl, rfl, rfl⟩
        rfl
  · cases h

theorem syncRun_effect (h : syncManagedExecutionRunStatus o runId nextStatus s = .ok (reply, s')) :
    Effect env s (.syncRun o runId nextStatus) s' := by
  simp only [syncManagedExecutionRunStatus, bind_eq_ok] at h
  obtain ⟨_, _, _, _, given, hgiven, next, hnext, _, _, h⟩ := h
  split at h
  · cases h
    exact .unchanged
  · simp only [bind_eq_ok] at h
    obtain ⟨⟨⟩, hrunning, ⟨⟩, hterminal, h⟩ := h
    cases h
    exact .runSynced hgiven hnext hrunning hterminal ⟨rfl, rfl, rfl, rfl, rfl, rfl⟩

theorem assertStepTransition_ok {current next : StepStatus} {text : String}
    (hother : current.text ≠ text)
    (h : assertManagedExecutionStepTransition current text = .ok next) :
    StepStatus.ofText text = some next ∧ stepTransitionAllowed current next = true := by
  unfold assertManagedExecutionStepTransition at h
  split at h
  · cases h
  · rename_i status hstatus
    split_ifs at h with hallowed
    cases h
    refine ⟨hstatus, hallowed.resolve_left ?_⟩
    rintro rfl
    exact hother (StepStatus.text_of_ofText hstatus)

theorem syncStep_effect
    (h : syncManagedExecutionStepStatus o runId stepRunId nextStatus s = .ok (reply, s')) :
    Effect env s (.syncStep o runId stepRunId nextStatus) s' := by
  simp only [syncManagedExecutionStepStatus, bind_eq_ok] at h
  obtain ⟨_, _, given, hgiven, _, _, step, hstep, h⟩ := h
  split at h
  · cases h
    exact .unchanged
  · rename_i hother
    simp only [bind_eq_ok] at h
    obtain ⟨next, hnext, ⟨⟩, hstart, h⟩ := h
    cases h
    obtain ⟨htext, hallowed⟩ := assertStepTransition_ok hother hnext
    refine .stepSynced (findStep_ok hstep) ⟨given, hgiven, htext⟩ hallowed hstart ?_
    cases next <;> exact ⟨rfl, rfl, rfl, rfl, rfl, rfl⟩

variable {reason idempotencyKey assignedTo : Val}

theorem retry_effect {maxAttempts : Val}
    (h : retryManagedExecutionStep env o runId stepRunId idempotencyKey reason maxAttempts s =
      .ok (reply, s')) :
    Effect env s (.retry o runId stepRunId idempotencyKey reason maxAttempts) s' := by
  simp only [retryManagedExecutionStep, bind_eq_ok] at h
  obtain ⟨key, _, _, _, _, _, step, hstep, h⟩ := h
  split at h
  · cases h
    exact .unchanged
  · simp only [bind_eq_ok, rejectIf_eq_ok, not_not] at h
    obtain ⟨_, hfailed, _, hstatus, _, hopen, _, hothers, attempt, _, _, _, h⟩ := h
    cases h
    refine .retried (findStep_ok hstep) hfailed ?_ (assertNoOpenHolds_ok hopen) hothers
      ⟨rfl, rfl, rfl, rfl, rfl, rfl⟩
    by_contra hneither
    exact hstatus (not_or.mp hneither)

theorem escalate_effect
    (h : escalateManagedExecutionRun o runId reason assignedTo s = .ok (reply, s')) :
    Effect env s (.escalate o runId reason assignedTo) s' := by
  simp only [escalateManagedExecutionRun, bind_eq_ok, rejectIf_eq_ok] at h
  obtain ⟨_, _, assignee, _, _, _, _, hstatus, _, hrunning, h⟩ := h
  split at h
  · rename_i hopen
    simp only [bind_eq_ok] at h
    obtain ⟨_, _, inserted, hinserted, h⟩ := h
    cases h
    obtain rfl := insertHold_ok hinserted
    refine .escalated ?_ ?_ hopen ?_ ⟨rfl, rfl, rfl, rfl, rfl, rfl⟩
    · by_contra hneither
      exact hstatus (not_or.mp hneither)
    · simpa [NoneRunning] using hrunning
    · rfl
  · split at h
    · cases h
      exact .unchanged
    · cases h

theorem cancel_effect (h : cancelManagedExecutionRun runId reason s = .ok (reply, s')) :
    Effect env s (.cancel runId reason) s' := by
  simp only [cancelManagedExecutionRun, bind_eq_ok] at h
  obtain ⟨_, _, _, _, h⟩ := h
  split at h
  · cases h
    exact .unchanged
  · simp only [bind_eq_ok, rejectIf_eq_ok, Bool.not_eq_true] at h
    obtain ⟨_, hstatus, h⟩ := h
    cases h
    exact .cancelled hstatus ⟨rfl, rfl, rfl, rfl, rfl, rfl⟩

/-- Of one earlier rollback step at most, none is in use. -/
theorem ended_of_not_inUse
    (hfew : ¬1 < (s.steps.filter fun step => step.stepKey == managedRollbackStepKey).length)
    (hunused : ¬rollbackStepInUse (s.steps.filter fun step =>
      step.stepKey == managedRollbackStepKey) = true) (hstep : step ∈ s.steps)
    (hkey : step.stepKey = managedRollbackStepKey) :
    step.status = .failed ∨ step.status = .skipped := by
  have hmem : step ∈ s.steps.filter fun step => step.stepKey == managedRollbackStepKey :=
    List.mem_filter.mpr ⟨hstep, beq_iff_eq.mpr hkey⟩
  generalize s.steps.filter (fun step => step.stepKey == managedRollbackStepKey) = found at *
  obtain ⟨only, rfl⟩ := List.length_eq_one_iff.mp
    (Nat.le_antisymm (Nat.not_lt.mp hfew) (List.length_pos_of_mem hmem))
  obtain rfl := List.mem_singleton.mp hmem
  by_contra hneither
  simp only [not_or] at hneither
  exact hunused (by simpa [rollbackStepInUse] using hneither)

theorem rollback_effect
    (h : requestManagedExecutionRollback env o runId idempotencyKey assignedTo reason s =
      .ok (reply, s')) : Effect env s (.rollback o runId idempotencyKey assignedTo reason) s' := by
  simp only [requestManagedExecutionRollback, bind_eq_ok] at h
  obtain ⟨key, hread, assignee, _, _, _, _, _, h⟩ := h
  split at h
  · cases h
    exact .unchanged
  · simp only [bind_eq_ok, rejectIf_eq_ok, not_not, Bool.not_eq_false] at h
    obtain ⟨_, hstatus, _, _, _, hopen, _, hinactive, h⟩ := h
    split at h
    · cases h
      exact .unchanged
    · rename_i hunused
      simp only [insertRollbackStep, bind_eq_ok, rejectIf_eq_ok] at h
      obtain ⟨_, hfew, h⟩ := h
      split at h
      · cases h
        exact .unchanged
      · rename_i hinUse
        simp only [bind_eq_ok] at h
        obtain ⟨_, _, _, _, inserted, hinserted, h⟩ := h
        cases h
        obtain ⟨hfresh, rfl⟩ := insertStep_ok hinserted
        exact .rollbackRequested hstatus (assertNoOpenHolds_ok hopen) hinactive rfl
          ⟨hfresh, hunused, rfl, rfl, rfl, rfl, rfl, rfl, rfl⟩ hread
          fun _ => ended_of_not_inUse hfew hinUse
    · cases h

theorem finalizeRollback_effect
    (h : finalizeManagedExecutionRollback o runId stepRunId s = .ok (reply, s')) :
    Effect env s (.finalizeRollback o runId stepRunId) s' := by
  simp only [finalizeManagedExecutionRollback, bind_eq_ok] at h
  obtain ⟨_, _, _, _, h⟩ := h
  split at h
  · cases h
    exact .unchanged
  · simp only [bind_eq_ok, rejectIf_eq_ok, not_not] at h
    obtain ⟨step, hstep, _, _, _, hcompleted, _, hothers, h⟩ := h
    cases h
    exact .rollbackFinalized (findStep_ok hstep) hcompleted hothers ⟨rfl, rfl, rfl, rfl, rfl, rfl⟩

/-- What a step of the run can do. -/
theorem RunStep.effect {operation : Operation} (h : RunStep env s operation s') :
    Effect env s operation s' := by
  cases h with
  | thrown => exact .unchanged
  | done h =>
    cases operation with
    | createRun o input =>
      obtain rfl := createBeside_unchanged h
      exact .unchanged
    | createStep => exact createStep_effect h
    | decide => exact decide_effect h
    | syncRun => exact syncRun_effect h
    | syncStep => exact syncStep_effect h
    | retry => exact retry_effect h
    | escalate => exact escalate_effect h
    | cancel => exact cancel_effect h
    | rollback => exact rollback_effect h
    | finalizeRollback => exact finalizeRollback_effect h

/-! ## Running a list of operations -/

/-- The rows after operations that all succeed and are all admitted. -/
def performAll (env : Platform) (admits : ManagedRun → Operation → Bool) :
    ManagedRun → List Operation → Option ManagedRun
  | s, [] => some s
  | s, operation :: operations =>
    if admits s operation then
      match perform env s operation with
      | .ok (_, s') => performAll env admits s' operations
      | .error _ => none
    else none

variable {operations : List Operation}

theorem run_of_performAll {admits : ManagedRun → Operation → Bool}
    {G : ManagedRun → Operation → Prop}
    (hadmits : ∀ s operation, admits s operation = true → G s operation)
    (h : performAll env admits s operations = some s') :
    Transition.Run (Transition.restrict (RunStep env) G) s operations s' := by
  induction operations generalizing s with
  | nil =>
    cases h
    exact .nil _
  | cons operation operations ih =>
    rw [performAll] at h
    split_ifs at h with hadmitted
    split at h
    · rename_i reply t hperform
      exact .cons ⟨.done hperform, hadmits s operation hadmitted⟩ (ih h)
    · cases h

theorem run_of_performAll_true (h : performAll env (fun _ _ => true) s operations = some s') :
    Transition.Run (RunStep env) s operations s' :=
  (run_of_performAll (G := fun _ _ => True) (fun _ _ _ => trivial) h).of_restrict

/-- A call in which every check from outside passes, at time 0. -/
def calmOracle (uuid : String) : Oracle :=
  { authority := .ok (), assignee := .ok (), payload := .ok (), now := 0, databaseNow := 0, uuid }

/-- A request for an execution of the given effect. -/
def requestInput (effect : EffectClass) : Val :=
  .obj [("effect_class", .str effect.text), ("tenant_id", .str "t1"), ("user_id", .str "u1"),
    ("parent_ticket_id", .str "p1"), ("workflow_key", .str "w1"),
    ("capability_key", .str "c1"), ("resource_type", .str "site"), ("resource_ref", .str "r1"),
    ("idempotency_key", .str "k1")]

def calmCreation : CreationOracle :=
  { calmOracle "h1" with
    invocation := .ok (), access := .ok .allowSelfServe, parentTicket := some "open"
    resolvedAuthority := .ok (), taskTicket := .ok (), runId := "run1" }

/-- The run such a request creates. -/
def createdRun (effect : EffectClass) : ManagedRun :=
  newManagedRun calmCreation ⟨"t1", "u1", "p1", "w1", "c1", "site", "r1", effect, false, "k1"⟩
    (gateForHold (effectHold effect))

theorem created_of_rows (o : CreationOracle) (input : Val)
    (h : (createManagedExecutionRun o input).toOption.map Prod.snd = some s) : Created s := by
  obtain ⟨⟨reply, rows⟩, hcreate, rfl⟩ := Option.map_eq_some_iff.mp h
  exact ⟨o, input, reply, ok_of_toOption hcreate⟩

theorem created_createdRun (effect : EffectClass) : Created (createdRun effect) := by
  apply created_of_rows calmCreation (requestInput effect)
  cases effect <;> decide +kernel

end GrowthOs.ManagedExecution
