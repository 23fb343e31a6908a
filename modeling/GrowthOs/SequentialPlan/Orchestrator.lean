import GrowthOs.Delegation.Policy
import GrowthOs.SequentialPlan.Compile
import GrowthOs.Support.Table
import Mathlib.Data.List.Sort

/-!
# The transactions of the sequential plan orchestrator

Each transaction of `sequentialPlanOrchestrator.js` as a function on the
store.  A transaction that throws is rolled back, so it returns no store.
`randomUUID` is an argument: what each call of it returns is chosen by the
caller of the transaction.
-/

namespace GrowthOs.SequentialPlan

open Js Delegation Throwing Table

/-- An error with a status of its own. -/
def planError (status : Nat) (message code : String) : Val :=
  .obj [("message", .str message), ("status", .num (.ofNat status)), ("code", .str code)]

def resolveUniqueSequentialRow {α : Type} (rows : List α)
    (ambiguityCode ambiguityMessage : String) : Except Val (Option α) :=
  match rows with
  | [] => .ok none
  | [row] => .ok (some row)
  | _ => .error (planError 409 ambiguityMessage ambiguityCode)

/-! ## Reading and writing rows -/

def Store.selectPlans (s : Store) (planId : String) : List PlanRow :=
  s.plans.filter fun plan => plan.planId == planId

/-- `SELECT * FROM execution_plan_steps WHERE plan_id = ? ORDER BY
step_order`. -/
def Store.selectSteps (s : Store) (planId : String) : List StepRow :=
  (s.steps.filter fun step => step.planId == planId).insertionSort
    fun a b => a.stepOrder ≤ b.stepOrder

def Store.updateSteps (s : Store) (p : StepRow → Bool) (f : StepRow → StepRow) : Store :=
  { s with steps := update p f s.steps }

def Store.appendEvent (s : Store) (event : EventRow) : Store :=
  { s with events := s.events ++ [event] }

/-- `updatePlanRuntimeStatus(connection, planId, runtimeStatus, tenantId)`; an
empty tenant leaves the tenant out of the `WHERE` clause. -/
def updatePlanRuntimeStatus (s : Store) (planId : String)
    (status : PlanStatus) (tenantId : String) : Store :=
  { s with
    plans := update (fun plan => plan.planId == planId &&
        (tenantId == "" || plan.tenantId == tenantId))
      (fun plan => plan.withStatus status) s.plans }

/-- The evidence of an event, `{ ...evidence, secrets_included: false }`. -/
def evidence (fields : List (String × Val)) : Val :=
  .obj (Val.setField fields "secrets_included" (.bool false))

/-! ## Compilation -/

/-- The value an `INT UNSIGNED` column takes, `none` where the statement
fails. -/
def unsignedColumn : Number → Option Nat
  | .finite d => if 0 ≤ d.round then some d.round.toNat else none
  | _ => none

def sqlError (code message : String) : Val :=
  .obj [("message", .str message), ("code", .str code)]

def compiledRow (step : CompiledStep) (maxAttempts : Nat) : StepRow :=
  { planStepId := step.planStepId
    planId := step.planId
    tenantId := step.tenantId
    stepOrder := step.stepOrder
    stepKey := step.stepKey
    stepType := step.stepType
    workflowId := step.workflowId
    workflowKey := step.workflowKey
    dependsOn := step.dependsOn
    inputJson := json step.input
    successCriteriaJson := json step.successCriteria
    retryPolicyJson := json step.retryPolicy
    maxAttempts
    idempotencyKey := step.idempotencyKey
    approvalPolicyJson := json step.approvalPolicy
    status := step.status
    attemptCount := 0
    claimToken := none
    outputJson := .null
    errorJson := .null }

/-- The unique keys of `execution_plan_steps`. -/
def StepRow.conflicts (row other : StepRow) : Bool :=
  row.planStepId == other.planStepId || (row.planId == other.planId &&
      (row.stepKey == other.stepKey || row.idempotencyKey == other.idempotencyKey))

/-- `INSERT INTO execution_plan_steps`. -/
def insertStep (rows : List StepRow) (step : CompiledStep) : Except Val (List StepRow) :=
  match unsignedColumn step.maxAttempts with
  | none =>
    .error (sqlError "ER_BAD_FIELD_ERROR" "Unknown column in field list")
  | some maxAttempts => do
    let row := compiledRow step maxAttempts
    rejectIf (rows.any row.conflicts) (sqlError "ER_DUP_ENTRY" "Duplicate entry for key")
    .ok (rows ++ [row])

structure CompileResponse where
  planId : String
  planStatus : PlanStatus
  stepCount : Nat
  steps : List CompiledStep

variable (rt : Runtime)

def persistCompiledSequentialPlan (uuids : Nat → String) (planId tenantId : String) (steps : Val)
    (actorId : Option String) (s : Store) : Except Val (CompileResponse × Store) := do
  let compiled ← compileSequentialPlanSteps rt uuids planId tenantId steps
  let found ← resolveUniqueSequentialRow (s.selectPlans planId) "sequential_plan_identity_ambiguous"
    "Execution plan identity resolved to multiple rows."
  match found with
  | none =>
    .error (validationError "Execution plan not found for tenant." "sequential_plan_not_found")
  | some plan =>
    rejectIf (plan.tenantId ≠ tenantId) (validationError "Execution plan not found for tenant."
        "sequential_plan_not_found")
    let status := effectivePlanStatus plan
    rejectIf (status ≠ .draft ∧ status ≠ .validated)
      (validationError "Only draft or validated plans may be recompiled."
        "sequential_plan_recompile_forbidden")
    let kept := s.steps.filter fun step => step.planId != planId
    let rows ← compiled.foldlM insertStep kept
    let s :=
      { s with
        steps := rows
        plans := update (fun plan => plan.planId == planId)
          (fun plan => plan.withStatus .validated) s.plans }
    let s := s.appendEvent
      { planId, planStepId := none, tenantId
        eventType := .planCompiled
        fromStatus := some status.text
        toStatus := some PlanStatus.validated.text
        actorId
        evidenceJson :=
          evidence [("step_count", .num (.ofNat compiled.length))] }
    .ok (⟨planId, .validated, compiled.length, compiled⟩, s)

/-! ## Claiming -/

/-- `byKey.get(key)`: of two entries with one key, the later one stays. -/
def byKey (steps : List StepRow) (key : String) : Option StepRow :=
  steps.reverse.find? fun step => step.stepKey == key

def dependenciesCompleted (step : StepRow) (steps : List StepRow) : Bool :=
  step.dependsOn.all fun key =>
    (byKey steps key).any fun dependency => dependency.status == .completed

def isTruthy (value : Val) : Except Val Bool :=
  match value with
  | .bool true => .ok true
  | .num n =>
    if n = .ofNat 1 then .ok true
    else .ok (toLowerCase n.toString == "true")
  | .str "1" => .ok true
  | value => do
    let text ← (value.or (.str "")).toStr
    .ok (toLowerCase text == "true")

def approvalRequired (step : StepRow) : Except Val Bool := do
  let policy := parseJson step.approvalPolicyJson (.obj [])
  let approved ← isTruthy (← policy.get "approved")
  if approved then .ok false
  else if step.stepType = .approval then .ok true
  else isTruthy (policy.member "required")

/-- The source under which the orchestrator files its holds and runs. -/
def orchestratorSource : String := "sequential_plan_orchestrator"

def requirementsVal : Option Decision → Val
  | none => .null
  | some d =>
    let r := d.approvalRequirements
    .obj [("require_delegator_approval", .bool r.requireDelegatorApproval),
      ("delegated_by", .str r.delegatedBy),
      ("delegated_to", .str r.delegatedTo),
      ("expected_step_fingerprint", .str r.expectedStepFingerprint),
      ("separation_of_duties_required", .bool r.separationOfDutiesRequired)]

def holdContext (plan : PlanRow) (step : StepRow) (decision : Option Decision) : Val :=
  .obj [("source", .str orchestratorSource), ("plan_id", .str plan.planId),
    ("plan_step_id", .str step.planStepId),
    ("delegation_approval_requirements", requirementsVal decision),
    ("secrets_included", .bool false)]

/-- `INSERT INTO workflow_runs ... ON DUPLICATE KEY UPDATE`. -/
def upsertWorkflowRun (runs : List WorkflowRunRow) (run : WorkflowRunRow) : List WorkflowRunRow :=
  if runs.any fun other => other.runId == run.runId then
    update (fun other => other.runId == run.runId) (fun other =>
        { other with
          status := run.status
          currentStep := run.currentStep
          inputJson := run.inputJson }) runs
  else runs ++ [run]

/-- The hold `createApprovalHold` inserts. -/
def approvalHold (plan : PlanRow) (step : StepRow) (actorId : Option String)
    (decision : Option Decision) (holdId : String) : HoldRow :=
  { holdId
    runId := plan.planId
    tenantId := plan.tenantId
    requestedBy := actorId
    requiredRole :=
      ((parseJson step.approvalPolicyJson (.obj [])).member "required_role").or (.str "supervisor")
    status := .opened
    decisionBy := none
    decisionNote := none
    executionContextJson := holdContext plan step decision }

def createApprovalHold (s : Store) (plan : PlanRow) (step : StepRow)
    (actorId : Option String) (decision : Option Decision) (holdId : String) : Store :=
  { s with
    workflowRuns := upsertWorkflowRun s.workflowRuns
      { runId := plan.planId
        tenantId := plan.tenantId
        userId := plan.userId
        workflowKey := orchestratorSource
        planId := some plan.planId
        serviceMode :=
          if plan.serviceMode = "" then "self_serve" else plan.serviceMode
        status := .awaitingApproval
        currentStep := some step.stepKey
        inputJson := .obj [("source", .str orchestratorSource),
          ("plan_step_id", .str step.planStepId),
          ("delegation_approval_requirements", requirementsVal decision),
          ("secrets_included", .bool false)] }
    holds := s.holds ++ [approvalHold plan step actorId decision holdId] }

inductive ClaimResult
  | stop (reason : String) (planStatus : PlanStatus) (holdId : Option String)
      (step : Option StepRow) (delegation : Option Decision)
  | dispatch (plan : PlanRow) (step : StepRow) (claimToken : String)

/-- The promotion loop.  The array and the map share their rows, so a row
promoted earlier is seen promoted: `visited` holds the rows the loop has left
behind. -/
def promoteLoop (visited : List StepRow) : List StepRow → List StepRow
  | [] => visited
  | step :: rest =>
    let step :=
      if step.status = .pending ∧ dependenciesCompleted step (visited ++ step :: rest) then
        { step with status := .ready }
      else step
    promoteLoop (visited ++ [step]) rest

/-- The `UPDATE ... SET status = 'ready' WHERE plan_step_id = ? AND status =
'pending'` of every promoted row. -/
def markPromoted (s : Store) (promoted : List StepRow) : Store :=
  s.updateSteps (fun row => row.status == .pending && promoted.any fun step =>
      step.planStepId == row.planStepId && step.status == .ready)
    (fun row => { row with status := .ready })

/-- The status a plan is left in when nothing is ready. -/
def checkpointStatus (steps : List StepRow) : PlanStatus :=
  if steps.any fun step =>
      step.status == .failed || step.status == .blocked then .blocked
  else if steps.all fun step => step.status.terminal then .completed
  else if steps.any fun step => step.status == .awaitingApproval then
    .awaitingApproval
  else if steps.any fun step => step.status == .claimed ||
      step.status == .running || step.status == .verifying then .executing
  else .paused

/-- The branch of `claimNextStep` without a ready step. -/
def claimNothing (plan : PlanRow) (actorId : Option String)
    (steps : List StepRow) (s : Store) : ClaimResult × Store :=
  let completed := steps.all fun step => step.status.terminal
  let awaiting := steps.any fun step => step.status == .awaitingApproval
  let status := checkpointStatus steps
  let s := updatePlanRuntimeStatus s plan.planId status plan.tenantId
  let s := s.appendEvent
    { planId := plan.planId
      planStepId := none
      tenantId := plan.tenantId
      eventType := .planCheckpoint
      fromStatus := some (effectivePlanStatus plan).text
      toStatus := some status.text
      actorId
      evidenceJson := evidence [("reason", .str
        (if completed then "all_steps_terminal" else "no_ready_step"))] }
  let reason :=
    if completed then "completed"
    else if awaiting then "awaiting_approval" else "no_ready_step"
  (.stop reason status none none none, s)

/-- Stop at `next` and wait for an approval of it. -/
def claimHeld (plan : PlanRow) (next : StepRow) (actorId : Option String)
    (decision : Option Decision) (holdId : String) (s : Store) : ClaimResult × Store :=
  let s := createApprovalHold s plan next actorId decision holdId
  let s := s.updateSteps (fun row => row.planStepId == next.planStepId)
    (fun row => { row with status := .awaitingApproval })
  let s := updatePlanRuntimeStatus s plan.planId .awaitingApproval plan.tenantId
  let s := s.appendEvent
    { planId := plan.planId
      planStepId := some next.planStepId
      tenantId := plan.tenantId
      eventType := .approvalRequested
      fromStatus := some StepStatus.ready.text
      toStatus := some StepStatus.awaitingApproval.text
      actorId
      evidenceJson := evidence (match decision with
        | none => [("hold_id", .str holdId)]
        | some d =>
          [("hold_id", .str holdId), ("delegation_policy_decision", .str d.decision.text),
            ("expected_step_fingerprint", .str d.stepFingerprint)]) }
  let reason :=
    match decision with
    | none => "awaiting_approval"
    | some d => d.decision.text
  (.stop reason .awaitingApproval (some holdId) (some next) decision, s)

def nextActionVal (a : NextAction) : Val :=
  .obj ([("action", .str a.action), ("reason_code", .str a.reasonCode)] ++
    match a.escalationType with
    | some t => [("escalation_type", .str t)]
    | none => [])

def blockersVal (blockers : List String) : Val :=
  .arr (blockers.map .str)

/-- Stop at `next` because its grant pauses or blocks it. -/
def claimRefused (plan : PlanRow) (next : StepRow) (actorId : Option String)
    (decision : Decision) (s : Store) : ClaimResult × Store :=
  let stepStatus : StepStatus :=
    if decision.pauseRequired then .paused else .blocked
  let planStatus : PlanStatus :=
    if decision.pauseRequired then .paused else .blocked
  let s := s.updateSteps (fun row => row.planStepId == next.planStepId && row.status == .ready)
    (fun row => { row with status := stepStatus })
  let s := updatePlanRuntimeStatus s plan.planId planStatus plan.tenantId
  let s := s.appendEvent
    { planId := plan.planId
      planStepId := some next.planStepId
      tenantId := plan.tenantId
      eventType :=
        if decision.decision = .pausedOnDrift then .delegationBoundaryDrift
        else .delegationPolicyBlocked
      fromStatus := some StepStatus.ready.text
      toStatus := some stepStatus.text
      actorId
      evidenceJson := evidence [("decision", .str decision.decision.text),
          ("blockers", blockersVal decision.blockers),
          ("next_action", nextActionVal decision.nextAction)] }
  (.stop decision.decision.text planStatus none (some next) (some decision), s)

/-- Hand `next` to the caller. -/
def claimDispatch (plan : PlanRow) (next : StepRow) (actorId : Option String) (claimToken : String)
    (s : Store) : ClaimResult × Store :=
  let s := s.updateSteps (fun row => row.planStepId == next.planStepId && row.status == .ready)
    (fun row =>
      { row with
        status := .claimed
        claimToken := some claimToken
        attemptCount := row.attemptCount + 1 })
  let s := updatePlanRuntimeStatus s plan.planId .executing plan.tenantId
  let s := s.appendEvent
    { planId := plan.planId
      planStepId := some next.planStepId
      tenantId := plan.tenantId
      eventType := .stepClaimed
      fromStatus := some StepStatus.ready.text
      toStatus := some StepStatus.claimed.text
      actorId
      evidenceJson := evidence [("claim_token_sha256", .str (rt.sha256 claimToken))] }
  (.dispatch plan { next with claimToken := some claimToken } claimToken, s)

def delegationEvent (plan : PlanRow) (next : StepRow) (actorId : Option String)
    (d : Decision) : EventRow :=
  { planId := plan.planId
    planStepId := some next.planStepId
    tenantId := plan.tenantId
    eventType := .delegationPolicyDecided
    fromStatus := some StepStatus.ready.text
    toStatus := some (if d.dispatchAllowed then StepStatus.ready.text
      else if d.pauseRequired then StepStatus.paused.text
      else if d.approvalRequired then StepStatus.awaitingApproval.text
      else StepStatus.blocked.text)
    actorId
    evidenceJson := evidence [("decision", .str d.decision.text),
        ("approval_mode", .str d.approvalMode.text),
        ("blockers", blockersVal d.blockers),
        ("step_fingerprint", .str d.stepFingerprint),
        ("next_action", nextActionVal d.nextAction)] }

/-- What `claimNextStep` does with its next step. -/
inductive Admission
  | dispatch (decision : Option Decision)
  | hold (decision : Option Decision)
  | refuse (decision : Decision)

/-- The tests on the next step: its delegation grant decides, and without a
grant its approval policy does. -/
def admission (clock : Int) (plan : PlanRow) (next : StepRow) (actorId : Option String) :
    Except Val Admission := do
  let decision ←
    evaluateSequentialStepDelegationPolicy rt clock plan next actorId
  match decision with
  | some d =>
    if d.dispatchAllowed then .ok (.dispatch (some d))
    else if d.approvalRequired then .ok (.hold (some d))
    else .ok (.refuse d)
  | none => do
    let held ← approvalRequired next
    if held then .ok (.hold none) else .ok (.dispatch none)

def Admission.decision : Admission → Option Decision
  | .dispatch decision => decision
  | .hold decision => decision
  | .refuse decision => some decision

/-- The event a delegation decision leaves before it is acted on. -/
def recordAdmission (plan : PlanRow) (next : StepRow) (actorId : Option String)
    (admitted : Admission) (s : Store) : Store :=
  match admitted.decision with
  | some d => s.appendEvent (delegationEvent plan next actorId d)
  | none => s

/-- The branch of `claimNextStep` with a ready step. -/
def claimReady (plan : PlanRow) (next : StepRow) (actorId : Option String)
    (holdId claimToken : String) (admitted : Admission) (s : Store) : ClaimResult × Store :=
  let s := recordAdmission plan next actorId admitted s
  match admitted with
  | .dispatch _ => claimDispatch rt plan next actorId claimToken s
  | .hold decision => claimHeld plan next actorId decision holdId s
  | .refuse decision => claimRefused plan next actorId decision s

/-- `readySteps[0]`. -/
def nextReady (steps : List StepRow) : Option StepRow :=
  (steps.filter fun step => step.status == .ready).head?

/-- `claimNextStep(pool, planId, actorId)` at wall-clock time `clock`. -/
def claimNextStep (clock : Int) (planId : String) (actorId : Option String)
    (holdId claimToken : String) (s : Store) : Except Val (ClaimResult × Store) := do
  let found ← resolveUniqueSequentialRow (s.selectPlans planId)
    "sequential_plan_claim_identity_ambiguous"
    "Execution plan claim identity resolved to multiple rows."
  match found with
  | none =>
    .error (validationError "Execution plan not found." "sequential_plan_not_found")
  | some plan =>
    if (effectivePlanStatus plan).terminal then
      .ok (.stop "plan_terminal" (effectivePlanStatus plan) none none none, s)
    else do
      let steps := s.selectSteps planId
      rejectIf (steps.isEmpty) (validationError "Plan has no compiled steps."
          "sequential_plan_not_compiled")
      let steps := promoteLoop [] steps
      let s := markPromoted s steps
      match nextReady steps with
      | none => .ok (claimNothing plan actorId steps s)
      | some next => do
        let admitted ← admission rt clock plan next actorId
        .ok (claimReady rt plan next actorId holdId claimToken admitted s)

/-! ## Finalising a claim -/

structure FinalizeResponse where
  stepStatus : StepStatus
  planStatus : PlanStatus

/-- How `finalizeClaim` judges an outcome. -/
def claimSucceeded (result error : Val) : Bool :=
  !error.truthy && !(result.member "ok").isFalse

def claimRetryable (step : StepRow) (result error : Val) : Bool :=
  !claimSucceeded result error && !(error.member "non_retryable").truthy &&
    decide (step.attemptCount <
      if step.maxAttempts = 0 then 1 else step.maxAttempts)

/-- The status a finalised step is first written with. -/
def finalStatus (step : StepRow) (result error : Val) : StepStatus :=
  if claimSucceeded result error then .completed
  else if claimRetryable step result error then .retrying else .failed

def errorCode (error : Val) : Val :=
  (error.member "code").or (.str "step_execution_failed")

/-- The columns written when a claim is finalised. -/
def writeOutcome (status : StepStatus) (result error : Val) (row : StepRow) : StepRow :=
  let safeResult :=
    if claimSucceeded result error then sanitizeSecretPayload result 0
    else .null
  let safeError :=
    if error.truthy then
      sanitizeSecretPayload (.obj [("code", errorCode error),
        ("message", error.member "message")]) 0
    else .null
  { row with
    status
    outputJson := if safeResult.truthy then json safeResult else .null
    errorJson := if safeError.truthy then json safeError else .null
    claimToken := none }

/-- Both updates of the claimed step. -/
def settleStep (step : StepRow) (claimToken : String) (result error : Val) (s : Store) : Store :=
  let s := s.updateSteps (fun row => row.planStepId == step.planStepId &&
      row.claimToken == some claimToken)
    (writeOutcome (finalStatus step result error) result error)
  if claimRetryable step result error then
    s.updateSteps (fun row => row.planStepId == step.planStepId && row.status == .retrying)
      (fun row => { row with status := .ready })
  else s

def finalizeClaim (planStepId claimToken : String) (result error : Val)
    (actorId : Option String) (s : Store) :
    Except Val (FinalizeResponse × Store) := do
  let found ← resolveUniqueSequentialRow (s.steps.filter fun row =>
      row.planStepId == planStepId && row.claimToken == some claimToken)
    "sequential_step_claim_ambiguous"
    "Plan step claim resolved to multiple rows."
  match found with
  | none =>
    .error (validationError "Plan step claim was lost." "sequential_step_claim_lost")
  | some step =>
    let succeeded := claimSucceeded result error
    let retryable := claimRetryable step result error
    let status := finalStatus step result error
    let s := settleStep step claimToken result error s
    let planStatus : PlanStatus :=
      if succeeded then .executing
      else if retryable then .executing else .blocked
    let s := updatePlanRuntimeStatus s step.planId planStatus step.tenantId
    let s := s.appendEvent
      { planId := step.planId
        planStepId := some step.planStepId
        tenantId := step.tenantId
        eventType :=
          if succeeded then .stepCompleted
          else if retryable then .stepRetryScheduled else .stepFailed
        fromStatus := some StepStatus.claimed.text
        toStatus := some status.text
        actorId
        evidenceJson := evidence (if succeeded then [("result_ok", .bool true)]
          else [("error_code", errorCode error)]) }
    .ok (⟨if retryable then .ready else status, planStatus⟩, s)

/-! ## Approval decisions -/

inductive HoldDecision
  | approved | rejected | escalated
deriving DecidableEq, Repr

def HoldDecision.ofText : String → Option HoldDecision
  | "approved" => some .approved
  | "rejected" => some .rejected
  | "escalated" => some .escalated
  | _ => none

def HoldDecision.text : HoldDecision → String
  | .approved => "approved"
  | .rejected => "rejected"
  | .escalated => "escalated"

def HoldDecision.holdStatus : HoldDecision → HoldStatus
  | .approved => .approved
  | .rejected => .rejected
  | .escalated => .escalated

/-- An approved step of type `approval` has nothing left to execute. -/
def HoldDecision.stepStatus (decision : HoldDecision) (step : StepRow) : StepStatus :=
  match decision with
  | .approved => if step.stepType = .approval then .completed else .ready
  | .escalated => .blocked
  | .rejected => .failed

def HoldDecision.planStatus : HoldDecision → PlanStatus
  | .approved => .validated
  | .escalated => .paused
  | .rejected => .blocked

def HoldDecision.workflowStatus : HoldDecision → WorkflowRunStatus
  | .approved => .pending
  | .escalated => .paused
  | .rejected => .failed

structure ApprovalResponse where
  holdId : String
  decision : HoldDecision
  planId : String
  planStepId : String
  planStatus : PlanStatus
  stepStatus : StepStatus

/-- `JSON_SET(document, '$.key', value)`: only an object has members. -/
def jsonSet (document : Val) (key : String) (value : Val) : Val :=
  match document with
  | .obj fields => .obj (Val.setField fields key value)
  | document => document

/-- The policy a decision leaves behind. -/
def decidedPolicy (policy : Val) (decision : HoldDecision)
    (decisionBy : Option String) (fingerprint : Val) : Val :=
  jsonSet (jsonSet (jsonSet policy "approved" (.bool (decision == .approved))) "approved_by"
        (if decision = .approved then optionVal decisionBy else .null))
    "expected_step_fingerprint" (if decision = .approved then fingerprint else .null)

/-- The plan and step an orchestrator hold is about. -/
def holdSubject (context : Val) : Except Val (String × String) := do
  let source ← context.get "source"
  match source, context.member "plan_id", context.member "plan_step_id" with
  | .str source, .str planId, .str planStepId =>
    if source = orchestratorSource ∧ planId ≠ "" ∧ planStepId ≠ "" then
      .ok (planId, planStepId)
    else
      .error (planError 409 "Approval hold is not owned by the sequential plan orchestrator."
        "sequential_plan_approval_hold_mismatch")
  | _, _, _ =>
    .error (planError 409 "Approval hold is not owned by the sequential plan orchestrator."
      "sequential_plan_approval_hold_mismatch")

def requireDecision (decision : String) : Except Val HoldDecision :=
  match HoldDecision.ofText decision with
  | some d => .ok d
  | none =>
    .error (validationError "decision must be approved, rejected, or escalated."
      "sequential_plan_approval_decision_invalid")

def requireOpenHold (s : Store) (holdId : String) : Except Val HoldRow :=
  match (s.holds.filter fun hold => hold.holdId == holdId).head? with
  | none =>
    .error (planError 404 "Approval hold not found." "sequential_plan_approval_hold_not_found")
  | some hold =>
    if hold.status = .opened then .ok hold
    else
      .error (planError 409 ("Hold is already '" ++ hold.status.text ++ "'.")
        "sequential_plan_approval_hold_closed")

def requireAwaitingStep (s : Store) (planId planStepId : String) : Except Val StepRow :=
  match (s.steps.filter fun row =>
      row.planStepId == planStepId && row.planId == planId).head? with
  | some step =>
    if step.status = .awaitingApproval then .ok step
    else
      .error (planError 409 "Sequential plan step is not awaiting this approval."
        "sequential_plan_approval_step_mismatch")
  | none =>
    .error (planError 409 "Sequential plan step is not awaiting this approval."
      "sequential_plan_approval_step_mismatch")

/-- The writes of an admissible decision. -/
def recordDecision (s : Store) (holdId : String) (step : StepRow)
    (decision : HoldDecision) (decisionBy decisionNote : Option String)
    (fingerprint : Val) : Store :=
  let stepStatus := decision.stepStatus step
  let s :=
    { s with
      holds := update (fun hold => hold.holdId == holdId && hold.status == HoldStatus.opened)
        (fun hold =>
          { hold with
            status := decision.holdStatus, decisionBy, decisionNote }) s.holds }
  let s := s.updateSteps (fun row => row.planStepId == step.planStepId &&
      row.planId == step.planId && row.status == .awaitingApproval)
    (fun row =>
      { row with
        status := stepStatus
        approvalPolicyJson :=
          decidedPolicy row.approvalPolicyJson decision decisionBy fingerprint })
  let s := updatePlanRuntimeStatus s step.planId decision.planStatus step.tenantId
  let s :=
    { s with
      workflowRuns := update (fun run => run.runId == step.planId &&
          run.workflowKey == orchestratorSource)
        (fun run =>
          { run with
            status := decision.workflowStatus
            currentStep := some step.stepKey }) s.workflowRuns }
  s.appendEvent
    { planId := step.planId
      planStepId := some step.planStepId
      tenantId := step.tenantId
      eventType := .approvalDecided
      fromStatus := some StepStatus.awaitingApproval.text
      toStatus := some stepStatus.text
      actorId := decisionBy
      evidenceJson := evidence [("hold_id", .str holdId), ("decision", .str decision.text)] }

def decideSequentialPlanApproval (holdId decision : String)
    (decisionBy decisionNote : Option String) (s : Store) :
    Except Val (ApprovalResponse × Store) := do
  let decision ← requireDecision decision
  let hold ← requireOpenHold s holdId
  let context := parseJson hold.executionContextJson (.obj [])
  let (planId, planStepId) ← holdSubject context
  let step ← requireAwaitingStep s planId planStepId
  assertDelegationApprovalDecision rt step.approvalPolicyJson
    (decision == .approved) decisionBy context
  let requirements :=
    parseJson (context.member "delegation_approval_requirements") (.obj [])
  let fingerprint ← requirements.get "expected_step_fingerprint"
  rejectIf ((s.holds.filter fun hold =>
      hold.holdId == holdId && hold.status == .opened).length ≠ 1)
    (planError 409 "Approval hold changed before the decision could be recorded."
      "sequential_plan_approval_hold_race")
  rejectIf ((s.steps.filter fun row => row.planStepId == step.planStepId &&
      row.planId == step.planId && row.status == .awaitingApproval).length ≠ 1)
    (planError 409 "Sequential plan step changed before the decision could be recorded."
      "sequential_plan_approval_step_race")
  .ok (⟨holdId, decision, step.planId, step.planStepId, decision.planStatus,
        decision.stepStatus step⟩,
      recordDecision s holdId step decision decisionBy decisionNote (fingerprint.or .null))

/-! ## Resuming -/

structure ResumeResponse where
  planId : String
  planStatus : PlanStatus
  resumedStepId : Option String

/-- The first step that can be taken up again. -/
def resumable (steps : List StepRow) : Option StepRow :=
  steps.find? fun step => step.status == .paused || step.status == .blocked ||
    step.status == .retrying

def markResumed (target : Option StepRow) (s : Store) : Store :=
  match target with
  | some step =>
    s.updateSteps (fun row => row.planStepId == step.planStepId)
      (fun row => { row with status := .ready })
  | none => s

def resumeSequentialPlan (planId : String) (actorId : Option String)
    (s : Store) : Except Val (ResumeResponse × Store) :=
  match s.selectSteps planId with
  | [] =>
    .error (validationError "Compiled plan not found." "sequential_plan_not_compiled")
  | first :: rest =>
    let target := resumable (first :: rest)
    let s := markResumed target s
    let s := updatePlanRuntimeStatus s planId .validated first.tenantId
    let resumedStepId := target.map fun step => step.planStepId
    let s := s.appendEvent
      { planId
        planStepId := none
        tenantId := first.tenantId
        eventType := .planResumed
        fromStatus := none
        toStatus := some PlanStatus.validated.text
        actorId
        evidenceJson :=
          evidence [("resumed_step_id", optionVal resumedStepId)] }
    .ok (⟨planId, .validated, resumedStepId⟩, s)

end GrowthOs.SequentialPlan
