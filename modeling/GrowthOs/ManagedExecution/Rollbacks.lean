import GrowthOs.ManagedExecution.FinalStatuses
import GrowthOs.ManagedExecution.RepeatedRequests

/-!
# Repeated rollbacks

A rollback adds a compensation step.  When that step has failed, a second rollback adds
another one; the two rows then count as corruption, and a third rollback is refused.  As
long as no second one is asked for, no rollback is refused for that reason.
-/

namespace GrowthOs.ManagedExecution

open Js Throwing List
open Table (map_update)

def StepRow.isRollback (step : StepRow) : Bool :=
  step.stepKey == managedRollbackStepKey

/-- A compensation step that is neither failed nor skipped. -/
def StepRow.compensates (step : StepRow) : Bool :=
  step.isRollback && step.status != .failed && step.status != .skipped

/-- No rollback is asked for under a new key once a compensation step has failed or was
skipped, and no step is created under the reserved key beside a compensation step. -/
def asksOnce (env : Platform) (s : ManagedRun) : Operation → Bool
  | .createStep _ _ input =>
    (requiredString (input.member "step_key") "step_key" 128).toOption !=
      some managedRollbackStepKey || s.steps.all fun step => !step.isRollback
  | .rollback _ _ idempotencyKey _ _ =>
    (s.steps.all fun step => !step.isRollback || step.compensates) ||
      (requiredString idempotencyKey "idempotency_key" 191).toOption.any fun key =>
        s.requests.any fun request => env.sameText request.idempotencyKey key
  | _ => true

/-- A rollback under a fresh key passes every check but the one on earlier rollbacks. -/
structure RollbackDue (env : Platform) (o : Oracle) (s : ManagedRun) (runId : String)
    (idempotencyKey assignedTo reason : Val) : Prop extends TakesRollback s where
  run : s.run.runId = runId
  key : ∃ key, requiredString idempotencyKey "idempotency_key" 191 = .ok key ∧
    s.requests.filter (fun request => env.sameText request.idempotencyKey key) = []
  assignee : ∃ assignee, optionalString assignedTo 64 = .ok assignee ∧
    assertAssignee o assignee = .ok ()
  reason : ∃ text, optionalString reason 512 = .ok text
  ended : ∀ step ∈ s.steps, step.compensates = false
  authority : o.authority = .ok ()
  fresh : ∀ step ∈ s.steps, step.stepRunId ≠ o.uuid

def rollbackAmbiguous : Val :=
  managedError 409 "managed_execution_rollback_step_ambiguous"
    "Managed execution has multiple rollback steps." []

variable {env : Platform} {o : Oracle} {s s' : ManagedRun} {runId : String}
  {idempotencyKey assignedTo reason : Val} {operation : Operation} {step : StepRow}

/-! ## One compensation step -/

theorem countP_isRollback (steps : List StepRow) :
    steps.countP StepRow.isRollback =
      (steps.map StepRow.stepKey).count managedRollbackStepKey := by
  rw [List.count, countP_map]
  rfl

theorem rollbacks_append (hnone : ∀ row ∈ s.steps, row.isRollback = false)
    (hsteps : s'.steps = s.steps ++ [step]) : s'.steps.countP StepRow.isRollback ≤ 1 := by
  have hzero : s.steps.countP StepRow.isRollback = 0 := countP_eq_zero.mpr (by simpa using hnone)
  rw [hsteps, countP_append, hzero, Nat.zero_add]
  exact countP_le_length

theorem RunStep.rollbacks (h : RunStep env s operation s') (hasks : asksOnce env s operation = true)
    (hone : s.steps.countP StepRow.isRollback ≤ 1) : s'.steps.countP StepRow.isRollback ≤ 1 := by
  cases h.effect with
  | unchanged => exact hone
  | stepCreated _ hinserts hstepKey =>
    simp only [asksOnce, hstepKey, Except.toOption, Bool.or_eq_true, bne_iff_ne, ne_eq,
      Option.some.injEq, all_eq_true, Bool.not_eq_eq_eq_not, Bool.not_true] at hasks
    rcases hasks with hother | hnone
    · rw [hinserts.writes.steps_eq, countP_append, countP_singleton]
      simpa [StepRow.isRollback, hother] using hone
    · exact rollbacks_append hnone hinserts.writes.steps_eq
  | rollbackRequested _ _ _ _ hinserts hread hended =>
    refine rollbacks_append (fun row hrow => ?_) hinserts.writes.steps_eq
    by_contra hrollback
    rw [Bool.not_eq_false] at hrollback
    -- the step is over, and the key is new
    rcases Bool.or_eq_true_iff.mp hasks with hall | hused
    · have hlive := all_eq_true.mp hall row hrow
      rcases hended row hrow (beq_iff_eq.mp hrollback) with hstatus | hstatus <;>
        simp [StepRow.compensates, hrollback, hstatus] at hlive
    · simp only [hread, Except.toOption, Option.any_some, any_eq_true] at hused
      obtain ⟨request, hrequest, hsame⟩ := hused
      exact filter_eq_nil_iff.mp hinserts.unused request hrequest hsame
  | decided _ _ _ hwrites | holdEscalated _ _ hwrites | runSynced _ _ _ _ hwrites
  | escalated _ _ _ _ hwrites | rollbackFinalized _ _ _ hwrites => rwa [hwrites.steps_eq]
  | stepSynced _ _ _ _ hwrites | retried _ _ _ _ _ hwrites | cancelled _ hwrites =>
    have hkeys : s'.steps.map StepRow.stepKey = s.steps.map StepRow.stepKey := by
      rw [hwrites.steps_eq]
      apply map_update
      exact fun _ => rfl
    rwa [countP_isRollback, hkeys, ← countP_isRollback]

/-! ## Refusals -/

theorem ne_rollbackAmbiguous {status : Nat} {code message : String}
    {details : List (String × Val)} (h : code ≠ "managed_execution_rollback_step_ambiguous") :
    managedError status code message details ≠ rollbackAmbiguous := by
  simp [managedError, rollbackAmbiguous, h]

theorem normalizedText_ne (value : Val) : normalizedText value ≠ .error rollbackAmbiguous := by
  intro h
  simp only [normalizedText, bind_eq_error, reduceCtorEq, and_false, exists_false, or_false] at h
  have herror := Val.toStr_error h
  simp [rollbackAmbiguous, managedError, Val.typeError] at herror

theorem optionalString_ne (value : Val) (max : Nat) :
    optionalString value max ≠ .error rollbackAmbiguous := by
  simp [optionalString, bind_eq_error, normalizedText_ne]

theorem requiredString_ne (value : Val) (field : String) (max : Nat) :
    requiredString value field max ≠ .error rollbackAmbiguous := by
  simp [requiredString, bind_eq_error, rejectIf_eq_error, normalizedText_ne, ne_rollbackAmbiguous]

/-- A rollback is refused as ambiguous only beside two compensation steps, unless a check
from outside says so. -/
theorem rollbacks_of_ambiguous
    (h : requestManagedExecutionRollback env o runId idempotencyKey assignedTo reason s =
      .error rollbackAmbiguous) (hassignee : o.assignee ≠ .error rollbackAmbiguous)
    (hauthority : o.authority ≠ .error rollbackAmbiguous) :
    1 < s.steps.countP StepRow.isRollback := by
  have hgiven : ∀ assignee, assertAssignee o assignee ≠ .error rollbackAmbiguous := by
    intro assignee
    unfold assertAssignee
    split
    · exact hassignee
    · simp
  have hduplicate : duplicateEntry ≠ rollbackAmbiguous := by
    simp [duplicateEntry, rollbackAmbiguous, managedError]
  simp only [requestManagedExecutionRollback, bind_eq_error, rejectIf_eq_error, requiredString_ne,
    optionalString_ne, assertRun, assertNoOpenHolds, ne_eq, ne_rollbackAmbiguous, and_false,
    false_or, String.reduceEq, not_false_eq_true] at h
  obtain ⟨key, -, assignee, -, _, -, _, -, h⟩ := h
  split at h
  · cases h
  · simp only [bind_eq_error, rejectIf_eq_error, ne_rollbackAmbiguous, and_false, false_or, ne_eq,
      String.reduceEq, not_false_eq_true] at h
    obtain ⟨_, -, _, -, _, -, _, -, h⟩ := h
    split at h
    · cases h
    · simp only [insertRollbackStep, bind_eq_error, rejectIf_eq_error] at h
      rcases h with ⟨hmany, -⟩ | ⟨_, -, h⟩
      · rwa [countP_eq_length_filter]
      · split at h
        · cases h
        · simp [bind_eq_error, hgiven, hauthority, insertStep, rejectIf_eq_error, hduplicate] at h
    · simp [ne_rollbackAmbiguous] at h

theorem rollbackStepInUse_eq (hover : ∀ step ∈ s.steps, step.compensates = false) :
    rollbackStepInUse (s.steps.filter StepRow.isRollback) = false := by
  unfold rollbackStepInUse
  split
  · rename_i found hfound
    obtain ⟨hmem, hrollback⟩ := mem_filter.mp (hfound ▸ mem_singleton_self found)
    simpa [StepRow.compensates, hrollback] using hover found hmem
  · rfl

/-- A rollback that is due adds a compensation step, unless there are two already. -/
theorem rollback_of_due (hfew : s.steps.countP StepRow.isRollback ≤ 1)
    (hdue : RollbackDue env o s runId idempotencyKey assignedTo reason) :
    ∃ step : StepRow, step.compensates = true ∧
      (perform env s (.rollback o runId idempotencyKey assignedTo reason)).map
        (fun answer => answer.2.steps) = .ok (s.steps ++ [step]) := by
  obtain ⟨key, hkey, hunused⟩ := hdue.key
  obtain ⟨assignee, hassignee, hmember⟩ := hdue.assignee
  obtain ⟨text, hreason⟩ := hdue.reason
  have hfree : rollbackStepInUse (s.steps.filter fun step =>
      step.stepKey == managedRollbackStepKey) = false := rollbackStepInUse_eq hdue.ended
  have hfresh : ¬(s.steps.any fun row => row.stepRunId == o.uuid) = true := by
    simpa using hdue.fresh
  have hfew : ¬1 < (s.steps.filter fun step => step.stepKey == managedRollbackStepKey).length :=
    Nat.not_lt.mpr (countP_eq_length_filter.symm.trans_le hfew)
  refine ⟨⟨o.uuid, managedRollbackStepKey, "managed_op", .pending, 1, assignee⟩, rfl, ?_⟩
  rw [(rollback_of_takes hkey hassignee hreason hdue.run hdue.toTakesRollback).2 hunused,
    insertRollbackStep]
  simp only [rejectIf, if_neg hfew, hfree, hmember, hdue.authority, insertStep, if_neg hfresh,
    ok_bind, Bool.false_eq_true, if_false]
  rfl

/-- As long as no second compensation step is asked for, at most one is neither failed nor
skipped, no rollback is refused as ambiguous, and a rollback that is due adds a step. -/
theorem rollback_never_ambiguous {s₀ : ManagedRun} {operations : List Operation}
    (hcreated : Created s₀)
    (hrun : Transition.Run (Transition.restrict (RunStep env) fun s operation =>
      asksOnce env s operation = true) s₀ operations s) :
    s.steps.countP StepRow.compensates ≤ 1 ∧
      ∀ (o : Oracle) runId idempotencyKey assignedTo reason,
        (o.assignee ≠ .error rollbackAmbiguous → o.authority ≠ .error rollbackAmbiguous →
          perform env s (.rollback o runId idempotencyKey assignedTo reason) ≠
            .error rollbackAmbiguous) ∧
        (RollbackDue env o s runId idempotencyKey assignedTo reason →
          ∃ step : StepRow, step.compensates = true ∧
            (perform env s (.rollback o runId idempotencyKey assignedTo reason)).map
              (fun answer => answer.2.steps) = .ok (s.steps ++ [step])) := by
  have hone : s.steps.countP StepRow.isRollback ≤ 1 :=
    hrun.invariant (I := fun s => s.steps.countP StepRow.isRollback ≤ 1)
      (fun _ _ _ hone hstep => hstep.1.rollbacks hstep.2 hone) (by simp [hcreated.shape.1])
  refine ⟨(countP_mono_left fun step _ hstep => ?_).trans hone, ?_⟩
  · simp only [StepRow.compensates, Bool.and_eq_true] at hstep
    exact hstep.1.1
  · intro o runId idempotencyKey assignedTo reason
    refine ⟨?_, rollback_of_due hone⟩
    intro hassignee hauthority hrefused
    exact Nat.not_lt.mpr hone (rollbacks_of_ambiguous hrefused hassignee hauthority)

/-- A rollback whose step then fails. -/
def failedRollback (id : String) : List Operation :=
  [.rollback (calmOracle id) "run1" (.str id) .undefined .undefined,
    .syncStep (calmOracle "") "run1" id (.str "failed")]

/-- The next rollback is due. -/
def dueAgain (s : ManagedRun) : Bool :=
  s.requests.filter (fun request => request.idempotencyKey == "r2") == [] &&
    s.run.runId == "run1" && s.binding.lifecycleState != .rolledBack &&
    isRollbackSource s.run.status && s.run.authority.effectClass != .readOnly &&
    openHolds s == [] && activeSteps s none == [] &&
    (s.steps.all fun step => !step.compensates && step.stepRunId != "r2")

theorem rollback_again_after_failure :
    ∃ s, Transition.Run (Transition.restrict (RunStep plainPlatform) fun s operation =>
        asksOnce plainPlatform s operation = true) (createdRun .destructive)
        (failedStep ++ failedRollback "r1") s ∧
      ∃ step : StepRow, step.compensates = true ∧
        (perform plainPlatform s (.rollback (calmOracle "r2") "run1" (.str "r2") .undefined
          .undefined)).map (fun answer => answer.2.steps) = .ok (s.steps ++ [step]) := by
  have hrows : ((performAll plainPlatform (asksOnce plainPlatform) (createdRun .destructive)
      (failedStep ++ failedRollback "r1")).any dueAgain) = true := by
    decide +kernel
  obtain ⟨s, hs, hdue⟩ := (Option.any_eq_true _ _).mp hrows
  have hrun := run_of_performAll (fun _ _ h => h) hs
  simp only [dueAgain, Bool.and_eq_true, beq_iff_eq, bne_iff_ne, all_eq_true,
    Bool.not_eq_eq_eq_not, Bool.not_true] at hdue
  obtain ⟨⟨⟨⟨⟨⟨⟨hunused, hid⟩, hlifecycle⟩, hstatus⟩, heffect⟩, hholds⟩, hactive⟩, hsteps⟩ := hdue
  refine ⟨s, hrun, ((rollback_never_ambiguous (created_createdRun _) hrun).2 (calmOracle "r2")
    "run1" (.str "r2") .undefined .undefined).2 ?_⟩
  exact ⟨⟨hlifecycle, hstatus, heffect, hholds, hactive⟩, hid, ⟨"r2", rfl, hunused⟩,
    ⟨none, rfl, rfl⟩, ⟨none, rfl⟩, fun step hstep => (hsteps step hstep).1, rfl,
    fun step hstep => (hsteps step hstep).2⟩

def refusedWith (code : String) : Outcome → Bool
  | .error error => isText (error.member "code") code
  | .ok _ => false

/-- Every rollback is over, nothing is open or active, and the next rollback is refused. -/
def rollbackStuck (s : ManagedRun) : Bool :=
  s.run.status == .paused && openHolds s == [] && activeSteps s none == [] &&
    (s.steps.all fun step => !step.compensates) &&
    refusedWith "managed_execution_rollback_step_ambiguous" (perform plainPlatform s
      (.rollback (calmOracle "r3") "run1" (.str "r3") .undefined .undefined))

/-- Two rollbacks have failed, and the third is refused. -/
theorem third_rollback_refused :
    ∃ s, Transition.Run (RunStep plainPlatform) (createdRun .destructive)
        (failedStep ++ failedRollback "r1" ++ failedRollback "r2") s ∧ rollbackStuck s = true := by
  have hrows : ((performAll plainPlatform (fun _ _ => true) (createdRun .destructive)
      (failedStep ++ failedRollback "r1" ++ failedRollback "r2")).any rollbackStuck) = true := by
    decide +kernel
  obtain ⟨s, hs, hstuck⟩ := (Option.any_eq_true _ _).mp hrows
  exact ⟨s, run_of_performAll_true hs, hstuck⟩

end GrowthOs.ManagedExecution
