import GrowthOs.ManagedExecution.Core
import GrowthOs.Support.Table

/-!
# The operations on one managed run

`managedExecutionRunService.js`, `managedExecutionDecisionService.js` and
`managedExecutionRecoveryService.js` over the rows of one managed run: the run itself,
its binding, its approval holds, its steps, the requests that created them and the retry
events.  Every operation is one transaction: it returns its reply and the new rows, or
throws and leaves the rows as they were.

What an operation is told from outside is its `Oracle`: whether the authority is still
effective, whether an assignee is a member of the tenant, whether a payload is free of
secrets, the two clocks and the identifiers drawn at random.
-/

namespace GrowthOs.ManagedExecution

open Js
open Table (update)
open Throwing (rejectIf)

/-! ## Rows and their surroundings -/

/-- A row of `managed_execution_bindings`: the scope of the run and its public state. -/
structure BindingRow where
  tenantId : String
  parentTicketId : String
  capabilityKey : String
  resourceType : String
  resourceRef : String
  effectClass : EffectClass
  idempotencyKey : String
  lifecycleState : LifecycleState
  customerStatus : CustomerStatus
  approvalHoldId : Option String
deriving DecidableEq, Repr

/-- A row of `managed_execution_step_requests`. -/
structure StepRequest where
  stepRunId : String
  idempotencyKey : String
  stepKey : String
deriving DecidableEq, Repr

/-- The rows of one managed run.  `retryEvents` are the idempotency digests of its
`managed_step_retry_requested` events, newest first. -/
structure ManagedRun where
  run : RunRow
  binding : BindingRow
  holds : List HoldRow
  steps : List StepRow
  requests : List StepRequest
  retryEvents : List String
deriving DecidableEq, Repr

structure Oracle where
  authority : Except Val Unit
  assignee : Except Val Unit
  payload : Except Val Unit
  now : Int
  databaseNow : Int
  uuid : String

/-- The digest of the platform, and equality of texts in the collation of the
database. -/
structure Platform where
  runtime : Runtime
  sameText : String → String → Bool

/-- What an operation returns. -/
abbrev Outcome := Except Val (Val × ManagedRun)

/-! ## Arguments -/

/-- `String(value ?? "").trim()`. -/
def normalizedText (value : Val) : Except Val String := do
  let raw ← (value.coalesce (.str "")).toStr
  .ok (trim raw)

def requiredString (value : Val) (field : String) (max : Nat) : Except Val String := do
  let normalized ← normalizedText value
  rejectIf (normalized = "")
    (managedError 400 "managed_execution_missing_field" (field ++ " is required.")
      [("field", .str field)])
  rejectIf (max < utf16Length normalized) (managedError 400 "managed_execution_field_too_long"
      (field ++ " exceeds " ++ toString max ++ " characters.")
      [("field", .str field), ("max", .num (.ofNat max))])
  .ok normalized

def optionalString (value : Val) (max : Nat) : Except Val (Option String) := do
  let normalized ← normalizedText value
  .ok (if normalized = "" then none else some (cut max normalized))

/-- `value === text`. -/
def isText (value : Val) (text : String) : Bool :=
  match value with
  | .str s => s == text
  | _ => false

/-- `SELECT * FROM workflow_runs WHERE run_id = ?`. -/
def assertRun (s : ManagedRun) (runId : String) : Except Val Unit :=
  rejectIf (s.run.runId ≠ runId)
    (managedError 404 "managed_execution_run_not_found" "Managed execution run was not found." [])

/-- A row that breaks a unique key. -/
def duplicateEntry : Val :=
  .obj [("code", .str "ER_DUP_ENTRY")]

/-! ## Parts shared by the operations -/

def findStep (s : ManagedRun) (stepRunId : String) : Except Val StepRow :=
  match s.steps.filter fun step => step.stepRunId == stepRunId with
  | [step] => .ok step
  | [] =>
    .error (managedError 404 "managed_execution_step_not_found"
      "Managed execution step was not found." [])
  | _ =>
    .error (managedError 409 "managed_execution_step_ambiguous"
      "Managed execution step is ambiguous." [])

def activeSteps (s : ManagedRun) (excluded : Option String) : List StepRow :=
  s.steps.filter fun step => step.isActive && some step.stepRunId != excluded

def openHolds (s : ManagedRun) : List HoldRow :=
  s.holds.filter HoldRow.isOpen

/-- `rows.map((row) => row.id)`. -/
def idList (ids : List String) : Val :=
  .arr (ids.map .str)

def assertNoOpenHolds (s : ManagedRun) (operation : String) : Except Val Unit :=
  rejectIf (openHolds s ≠ []) (managedError 409 "managed_execution_approval_pending"
      ("Managed execution cannot " ++ operation ++ " while an approval hold is open.")
      [("hold_ids", idList ((openHolds s).map HoldRow.holdId))])

/-- `UPDATE workflow_runs SET status = ?`. -/
def ManagedRun.setStatus (s : ManagedRun) (status : RunStatus) : ManagedRun :=
  { s with run := { s.run with status } }

/-- `UPDATE managed_execution_bindings SET lifecycle_state = ?, customer_status = ?`. -/
def ManagedRun.setBinding (s : ManagedRun) (lifecycleState : LifecycleState)
    (customerStatus : CustomerStatus) : ManagedRun :=
  { s with binding := { s.binding with lifecycleState, customerStatus } }

/-- `UPDATE approval_holds SET status = ? WHERE hold_id = ? AND status = 'open'`. -/
def ManagedRun.setHold (s : ManagedRun) (holdId : String) (status : HoldStatus) : ManagedRun :=
  { s with
    holds := update (fun hold => hold.holdId == holdId && hold.isOpen)
      (fun hold => { hold with status }) s.holds }

/-- `UPDATE step_runs SET status = ? WHERE step_run_id = ?`. -/
def ManagedRun.setStep (s : ManagedRun) (stepRunId : String) (status : StepStatus) : ManagedRun :=
  { s with
    steps := update (fun step => step.stepRunId == stepRunId)
      (fun step => { step with status }) s.steps }

/-- The fields every reply about the run ends with. -/
def stateFields (s : ManagedRun) : List (String × Val) :=
  [("lifecycle_state", .str s.binding.lifecycleState.text),
    ("customer_status", .str s.binding.customerStatus.text), ("secrets_included", .bool false)]

def okReply (reused : Bool) (fields : List (String × Val)) : Val :=
  .obj ([("ok", .bool true), ("reused", .bool reused)] ++ fields)

/-! ## Steps -/

def managedStepTypes : List String :=
  ["action", "review", "approval", "managed_op", "branch", "wait", "end"]

def managedRollbackStepKey : String := "__managed_rollback__"

def assertGenericManagedExecutionStepMode (authority : AuthoritySnapshot) : Except Val Unit :=
  rejectIf (authority.dryRun = true)
    (managedError 409 "managed_execution_dry_run_step_executor_required"
      ("Dry-run managed executions cannot create generic managed steps; a dedicated dry-run " ++
        "step executor is required.") [])

/-- The two rows of a new step.  Both tables have unique keys. -/
def insertStep (s : ManagedRun) (step : StepRow) (idempotencyKey : String) :
    Except Val ManagedRun := do
  rejectIf (s.steps.any fun row => row.stepRunId == step.stepRunId) duplicateEntry
  .ok { s with
        steps := s.steps ++ [step]
        requests := s.requests ++ [⟨step.stepRunId, idempotencyKey, step.stepKey⟩] }

def stepReply (step : StepRow) : Val :=
  .obj [("step_run_id", .str step.stepRunId), ("step_key", .str step.stepKey),
    ("step_type", .str step.stepType), ("status", .str step.status.text)]

def requestReply (request : StepRequest) : Val :=
  .obj [("step_run_id", .str request.stepRunId),
    ("idempotency_key", .str request.idempotencyKey), ("step_key", .str request.stepKey)]

/-- A request made before, with its step. -/
def reusedStep (s : ManagedRun) (request : StepRequest) (fields : List (String × Val)) : Val :=
  okReply true (fields ++ [("request", requestReply request),
    ("step", match s.steps.find? fun step => step.stepRunId == request.stepRunId with
      | some step => stepReply step
      | none => .null),
    ("secrets_included", .bool false)])

variable (env : Platform) (o : Oracle)

def createManagedExecutionStep (runId : String) (input : Val) (s : ManagedRun) : Outcome := do
  let stepKey ← requiredString (input.member "step_key") "step_key" 128
  let given ← optionalString (input.member "step_type") 32
  let stepType := given.getD "action"
  rejectIf (managedStepTypes.contains stepType = false)
    (managedError 400 "managed_execution_step_type_invalid"
      ("Unsupported step_type '" ++ stepType ++ "'.") [])
  let idempotencyKey ← requiredString
    ((input.member "idempotency_key").or (input.member "request_id")) "idempotency_key" 191
  o.payload
  assertRun s runId
  assertManagedExecutionStepEligibility s.run s.holds o.now
  assertGenericManagedExecutionStepMode s.run.authority
  o.authority
  match s.requests.filter fun request => env.sameText request.idempotencyKey idempotencyKey with
  | [request] => .ok (reusedStep s request [], s)
  | [] => do
    let assignedTo ← optionalString (input.member "assigned_to") 64
    let step : StepRow := ⟨o.uuid, stepKey, stepType, .pending, 1, assignedTo⟩
    let s' ← insertStep s step idempotencyKey
    .ok (okReply false [("step", stepReply step), ("secrets_included", .bool false)], s')
  | _ =>
    .error (managedError 409 "managed_execution_step_idempotency_ambiguous"
      "Step idempotency key resolved to multiple requests." [])

/-- The checks made before a step starts. -/
def assertStart (s : ManagedRun) (next : StepStatus) : Except Val Unit :=
  if next = .running then do
    assertNoOpenHolds s "start a step"
    o.authority
    rejectIf (s.run.status ≠ .pending ∧ s.run.status ≠ .running ∧ s.run.status ≠ .paused)
      (managedError 409 "managed_execution_run_not_recoverable"
        ("Run status '" ++ s.run.status.text ++ "' is not eligible to start a managed step.")
        [])
  else .ok ()

/-- What a new status of a step does to the run and its binding. -/
def afterStep (s : ManagedRun) : StepStatus → ManagedRun
  | .running =>
    (s.setStatus .running).setBinding
      (if s.binding.lifecycleState = .rollbackExecuting then .rollbackExecuting
        else .executing) .inProgress
  | .failed => (s.setStatus .paused).setBinding .blocked .blocked
  | _ => s

def syncManagedExecutionStepStatus (runId stepRunId : String) (nextStatus : Val) (s : ManagedRun) :
    Outcome := do
  o.payload
  let given ← requiredString nextStatus "status" 32
  let normalized := toLowerCase given
  assertRun s runId
  let step ← findStep s stepRunId
  if step.status.text = normalized then
    .ok (okReply true [("run_id", .str runId), ("step_run_id", .str stepRunId),
      ("status", .str step.status.text), ("secrets_included", .bool false)], s)
  else do
    let next ← assertManagedExecutionStepTransition step.status normalized
    assertStart o s next
    let s' := afterStep (s.setStep stepRunId next) next
    .ok (okReply false ([("run_id", .str runId), ("step_run_id", .str stepRunId),
      ("status", .str normalized)] ++ stateFields s'), s')

/-! ## Approval decisions -/

inductive Decision
  | approved
  | rejected
  | escalated
deriving DecidableEq, Repr

def Decision.text : Decision → String
  | approved => "approved"
  | rejected => "rejected"
  | escalated => "escalated"

/-- `["approved", "rejected", "escalated"].includes(decision)`. -/
def Decision.ofVal (value : Val) : Option Decision :=
  [approved, rejected, escalated].find? fun decision => isText value decision.text

def decisionFields (s : ManagedRun) (holdId : String) : List (String × Val) :=
  [("hold_id", .str holdId), ("run_id", .str s.run.runId),
    ("run_status", .str s.run.status.text)] ++ stateFields s

/-- The branch for a hold whose time is over. -/
def expireHold (s : ManagedRun) (holdId : String) : Val × ManagedRun :=
  let s' := ((s.setHold holdId .expired).setStatus .awaitingApproval).setBinding
    .approvalExpired .needsYourInput
  (.obj ([("ok", .bool false), ("status_code", .num (.ofNat 409)),
      ("error", .obj [("code", .str "managed_execution_approval_expired"),
        ("message", .str "Managed execution approval has expired.")])] ++
    decisionFields s' holdId), s')

/-- Twenty-four hours, in milliseconds. -/
def holdLifetime : Int := 24 * 60 * 60 * 1000

/-- A hold for a supervisor. -/
def supervisorHold : HoldRow :=
  { holdId := o.uuid, status := .opened, holdType := .supervisorApproval
    requiredRole := "supervisor", expiresAt := some (o.databaseNow + holdLifetime) }

/-- A new hold; `hold_id` is unique. -/
def insertHold (s : ManagedRun) (hold : HoldRow) : Except Val ManagedRun := do
  rejectIf (s.holds.any fun row => row.holdId == hold.holdId) duplicateEntry
  .ok { s with holds := s.holds ++ [hold]
               binding := { s.binding with approvalHoldId := some hold.holdId } }

/-- The decision `escalated`: the hold is closed and a supervisor's opened. -/
def escalateHold (s : ManagedRun) (holdId : String) : Outcome := do
  let s' ← insertHold (s.setHold holdId .escalated) (supervisorHold o)
  let s' := (s'.setStatus .awaitingApproval).setBinding .escalated .waitingForApproval
  .ok (.obj ([("ok", .bool true), ("decision", .str "escalated"),
    ("escalated_hold_id", .str o.uuid)] ++ decisionFields s' holdId), s')

/-- The decisions `approved` and `rejected`. -/
def settleHold (s : ManagedRun) (holdId : String) (approved : Bool) : Val × ManagedRun :=
  let s' :=
    if approved then
      ((s.setHold holdId .approved).setStatus .running).setBinding .executing .inProgress
    else ((s.setHold holdId .rejected).setStatus .failed).setBinding .approvalRejected .failed
  (.obj ([("ok", .bool true), ("decision", .str (if approved then "approved" else "rejected"))] ++
    decisionFields s' holdId), s')

def decideManagedExecutionApproval (holdId : String) (decision : Val) (s : ManagedRun) : Outcome :=
  match s.holds.filter fun hold => hold.holdId == holdId with
  | [hold] => do
    rejectIf (hold.status ≠ .opened) (managedError 409 "managed_execution_hold_already_decided"
        ("Hold is already '" ++ hold.status.text ++ "'.") [])
    if hold.expiredAt o.now then .ok (expireHold s holdId)
    else
      match Decision.ofVal decision with
      | none =>
        .error (managedError 400 "managed_execution_decision_invalid"
          "decision must be approved, rejected, or escalated." [])
      | some .approved => do
        o.authority
        .ok (settleHold s holdId true)
      | some .rejected => .ok (settleHold s holdId false)
      | some .escalated => escalateHold o s holdId
  | _ =>
    .error (managedError 404 "managed_execution_hold_not_found"
      "Managed execution approval hold was not found." [])

/-! ## Status updates of the run -/

def assertGenericManagedExecutionCompletionMode (authority : AuthoritySnapshot)
    (nextStatus : Val) : Except Val Unit :=
  rejectIf (isText nextStatus "completed" = true ∧ authority.dryRun = true)
    (managedError 409 "managed_execution_dry_run_completion_executor_required"
      ("Dry-run managed executions cannot be completed through generic run-status updates; " ++
        "a dedicated dry-run executor with readback evidence is required.") [])

/-- The checks behind `nextStatus === "running"`. -/
def assertRunning (s : ManagedRun) (nextStatus : Val) : Except Val Unit :=
  if isText nextStatus "running" then
    match s.holds.find? HoldRow.isOpen with
    | some hold =>
      .error (if hold.expiredAt o.now then
        managedError 409 "managed_execution_approval_expired"
          "Managed execution approval has expired." []
      else managedError 409 "managed_execution_approval_pending"
        "Managed execution is still awaiting approval." [])
    | none => do
      rejectIf (s.run.authority.approvalRequired = true ∧
          (s.holds.any fun hold => hold.status == .approved) = false)
        (managedError 409 "managed_execution_approval_evidence_missing"
          "Managed execution requires an approved hold before running." [])
      o.authority
  else .ok ()

/-- `["completed", "failed", "cancelled"].includes(nextStatus)`. -/
def isTerminalText (nextStatus : Val) : Bool :=
  isText nextStatus "completed" || isText nextStatus "failed" || isText nextStatus "cancelled"

/-- The checks behind a terminal status. -/
def assertTerminal (s : ManagedRun) (nextStatus : Val) : Except Val Unit := do
  rejectIf (isTerminalText nextStatus = true ∧ activeSteps s none ≠ [])
    (managedError 409 "managed_execution_terminal_steps_active"
      "Managed execution cannot enter a terminal state while linked steps remain active."
      [("active_steps", idList ((activeSteps s none).map StepRow.stepRunId))])
  rejectIf (isText nextStatus "completed" = true ∧
      (s.steps.any fun step => step.status == .failed) = true)
    (managedError 409 "managed_execution_completion_has_failed_steps"
      "Managed execution cannot complete while linked steps are failed." [])

/-- The lifecycle state and the customer status of a status update. -/
def updateBinding (nextStatus : Val) : LifecycleState × CustomerStatus :=
  if isText nextStatus "completed" then (.verified, .completed)
  else if isText nextStatus "failed" then (.failed, .failed)
  else if isText nextStatus "cancelled" then (.cancelled, .cancelled)
  else if isText nextStatus "paused" then (.blocked, .blocked)
  else (.executing, .inProgress)

def syncManagedExecutionRunStatus (runId : String) (nextStatus : Val) (s : ManagedRun) :
    Outcome := do
  o.payload
  assertRun s runId
  let given ← (nextStatus.or (.str "")).toStr
  let next ← assertManagedExecutionTransition s.run.status given
  assertGenericManagedExecutionCompletionMode s.run.authority nextStatus
  if isText nextStatus s.run.status.text then
    .ok (okReply true ([("run_id", .str runId), ("status", .str s.run.status.text)] ++
      stateFields s), s)
  else do
    assertRunning o s nextStatus
    assertTerminal s nextStatus
    let s' := (s.setStatus next).setBinding (updateBinding nextStatus).1
      (updateBinding nextStatus).2
    .ok (okReply false ([("run_id", .str runId), ("status", nextStatus)] ++ stateFields s'), s')

/-! ## Recovery operations -/

/-- `assertManagedExecutionRetryBound({ attempt, maxAttempts })`, the next attempt. -/
def assertManagedExecutionRetryBound (attempt : Nat) (maxAttempts : Val) : Except Val Nat := do
  let given := if maxAttempts.isUndefined then .num (.ofNat 3) else maxAttempts
  let limit ← (given.or (.num (.ofNat 3))).toNumber
  match integerOf limit with
  | none =>
    .error (managedError 400 "managed_execution_retry_limit_invalid"
      "Managed execution retry limit must be between 1 and 10." [])
  | some limit => do
    rejectIf (limit < 1 ∨ 10 < limit) (managedError 400 "managed_execution_retry_limit_invalid"
        "Managed execution retry limit must be between 1 and 10." [])
    let current := if attempt = 0 then 1 else attempt
    rejectIf (limit ≤ (current : Int)) (managedError 409 "managed_execution_retry_limit_reached"
        ("Managed execution step reached the retry limit of " ++ toString limit ++ " attempts.")
        [("attempt", .num (.ofNat current)), ("max_attempts", .num (.finite (.ofInt limit)))])
    .ok (current + 1)

def idempotencySha (key : String) : String :=
  env.runtime.sha256 key

/-- The step and the run of a retry. -/
def retriedRun (s : ManagedRun) (stepRunId keyHash : String) (attempt : Nat) : ManagedRun :=
  ({ s with
      steps := update (fun step => step.stepRunId == stepRunId)
        (fun step => { step with status := .pending, attempt }) s.steps
      retryEvents := keyHash :: s.retryEvents }.setStatus .running).setBinding
    .executing .inProgress

def retryManagedExecutionStep (runId stepRunId : String) (idempotencyKey reason maxAttempts : Val)
    (s : ManagedRun) : Outcome := do
  let key ← requiredString idempotencyKey "idempotency_key" 191
  let _ ← optionalString reason 512
  let keyHash := idempotencySha env key
  assertRun s runId
  let step ← findStep s stepRunId
  if (s.retryEvents.take 25).contains keyHash then
    .ok (okReply true [("run_id", .str runId), ("step_run_id", .str stepRunId),
      ("attempt", .num (.ofNat (if step.attempt = 0 then 1 else step.attempt))),
      ("secrets_included", .bool false)], s)
  else do
    rejectIf (step.status ≠ .failed)
      (managedError 409 "managed_execution_retry_requires_failed_step"
        "Only a failed managed execution step can be retried." [])
    rejectIf (s.run.status ≠ .paused ∧ s.run.status ≠ .failed)
      (managedError 409 "managed_execution_retry_run_status_invalid"
        ("Run status '" ++ s.run.status.text ++ "' is not eligible for retry.") [])
    assertNoOpenHolds s "retry a step"
    rejectIf (activeSteps s (some stepRunId) ≠ [])
      (managedError 409 "managed_execution_retry_other_steps_active"
        "Managed execution retry requires all other linked steps to be inactive."
        [("active_steps", idList ((activeSteps s (some stepRunId)).map StepRow.stepRunId))])
    let attempt ← assertManagedExecutionRetryBound step.attempt maxAttempts
    o.authority
    let s' := retriedRun s stepRunId keyHash attempt
    .ok (okReply false ([("run_id", .str runId), ("step_run_id", .str stepRunId),
      ("status", .str "pending"), ("attempt", .num (.ofNat attempt))] ++ stateFields s'), s')

/-- The membership of an assignee, if one is given. -/
def assertAssignee (assignee : Option String) : Except Val Unit :=
  if assignee.isSome then o.assignee else .ok ()

def escalateManagedExecutionRun (runId : String) (reason assignedTo : Val) (s : ManagedRun) :
    Outcome := do
  let _ ← optionalString reason 512
  let assignee ← optionalString assignedTo 64
  assertRun s runId
  rejectIf (s.run.status ≠ .paused ∧ s.run.status ≠ .failed)
    (managedError 409 "managed_execution_escalation_status_invalid"
      "Managed execution escalation requires a paused or failed run." [])
  rejectIf ((s.steps.any fun step => step.status == .running) = true)
    (managedError 409 "managed_execution_escalation_steps_running"
      "Managed execution cannot escalate while linked steps are running." [])
  if openHolds s = [] then do
    assertAssignee o assignee
    let s' ← insertHold s (supervisorHold o)
    let s' := (s'.setStatus .awaitingApproval).setBinding .escalated .waitingForApproval
    .ok (okReply false ([("run_id", .str runId), ("hold_id", .str o.uuid),
      ("run_status", .str "awaiting_approval")] ++ stateFields s'), s')
  else
    match (openHolds s).find? fun hold =>
        toLowerCase (trim hold.requiredRole) == "supervisor" with
    | some hold =>
      .ok (okReply true [("run_id", .str runId), ("hold_id", .str hold.holdId),
        ("run_status", .str "awaiting_approval"), ("lifecycle_state", .str "escalated"),
        ("secrets_included", .bool false)], s)
    | none =>
      .error (managedError 409 "managed_execution_escalation_hold_conflict"
        "A different approval hold is already open for this managed execution." [])

/-- The rows of a cancelled run: active steps are skipped, open holds rejected. -/
def cancelledRun (s : ManagedRun) : ManagedRun :=
  ({ s with
      steps := update StepRow.isActive (fun step => { step with status := .skipped }) s.steps
      holds := update HoldRow.isOpen (fun hold => { hold with status := .rejected }) s.holds
    }.setStatus .cancelled).setBinding .cancelled .cancelled

def cancelManagedExecutionRun (runId : String) (reason : Val) (s : ManagedRun) : Outcome := do
  let _ ← optionalString reason 512
  assertRun s runId
  if s.run.status = .cancelled then
    .ok (okReply true ([("run_id", .str runId), ("status", .str "cancelled")] ++ stateFields s), s)
  else do
    rejectIf (s.run.status.isTerminal = true)
      (managedError 409 "managed_execution_run_not_cancellable"
        ("Run status '" ++ s.run.status.text ++ "' cannot be cancelled.") [])
    .ok (okReply false ([("run_id", .str runId), ("status", .str "cancelled")] ++
      stateFields (cancelledRun s) ++
      [("skipped_step_count", .num (.ofNat (activeSteps s none).length)),
        ("rejected_hold_count", .num (.ofNat (openHolds s).length))]), cancelledRun s)

/-- `ROLLBACK_SOURCE_RUN_STATUSES`. -/
def isRollbackSource : RunStatus → Bool
  | .completed => true
  | .failed => true
  | .paused => true
  | .cancelled => true
  | _ => false

/-- A rollback step that is neither failed nor skipped is used again. -/
def rollbackStepInUse : List StepRow → Bool
  | [step] => step.status != .failed && step.status != .skipped
  | _ => false

/-- The part of `requestManagedExecutionRollback` that inserts the compensation step. -/
def insertRollbackStep (runId key : String) (assignee : Option String) (s : ManagedRun) :
    Outcome := do
  let rollbackSteps := s.steps.filter fun step => step.stepKey == managedRollbackStepKey
  rejectIf (1 < rollbackSteps.length) (managedError 409 "managed_execution_rollback_step_ambiguous"
      "Managed execution has multiple rollback steps." [])
  if rollbackStepInUse rollbackSteps then
    .ok (okReply true [("finalized", .bool false),
      ("step", (rollbackSteps.head?.map stepReply).getD .null),
      ("secrets_included", .bool false)], s)
  else do
    assertAssignee o assignee
    o.authority
    let step : StepRow := ⟨o.uuid, managedRollbackStepKey, "managed_op", .pending, 1, assignee⟩
    let s' ← insertStep s step key
    let s' := (s'.setStatus .running).setBinding .rollbackExecuting .inProgress
    .ok (okReply false ([("finalized", .bool false), ("run_id", .str runId),
      ("request", requestReply ⟨o.uuid, key, managedRollbackStepKey⟩),
      ("step", stepReply step)] ++ stateFields s'), s')

def requestManagedExecutionRollback (runId : String) (idempotencyKey assignedTo reason : Val)
    (s : ManagedRun) : Outcome := do
  let key ← requiredString idempotencyKey "idempotency_key" 191
  let assignee ← optionalString assignedTo 64
  let _ ← optionalString reason 512
  assertRun s runId
  if s.binding.lifecycleState = .rolledBack then
    .ok (okReply true ([("finalized", .bool true), ("run_id", .str runId)] ++ stateFields s), s)
  else do
    rejectIf (isRollbackSource s.run.status = false)
      (managedError 409 "managed_execution_rollback_status_invalid"
        ("Run status '" ++ s.run.status.text ++ "' is not eligible for rollback.") [])
    rejectIf (s.run.authority.effectClass = .readOnly)
      (managedError 409 "managed_execution_rollback_not_required"
        "Read-only managed execution does not support rollback." [])
    assertNoOpenHolds s "request rollback"
    rejectIf (activeSteps s none ≠ []) (managedError 409 "managed_execution_rollback_steps_active"
        "Rollback requires all linked steps to be inactive."
        [("active_steps", idList ((activeSteps s none).map StepRow.stepRunId))])
    match s.requests.filter fun request => env.sameText request.idempotencyKey key with
    | [request] => .ok (reusedStep s request [("finalized", .bool false)], s)
    | [] => insertRollbackStep o runId key assignee s
    | _ =>
      .error (managedError 409 "managed_execution_rollback_idempotency_ambiguous"
        "Rollback idempotency key resolved to multiple requests." [])

def finalizeManagedExecutionRollback (runId stepRunId : String) (s : ManagedRun) : Outcome := do
  o.payload
  assertRun s runId
  if s.binding.lifecycleState = .rolledBack then
    .ok (okReply true ([("run_id", .str runId)] ++ stateFields s), s)
  else do
    let step ← findStep s stepRunId
    rejectIf (step.stepKey ≠ managedRollbackStepKey ∨ step.stepType ≠ "managed_op")
      (managedError 409 "managed_execution_rollback_step_required"
        "Rollback finalization requires the managed rollback compensation step." [])
    rejectIf (step.status ≠ .completed)
      (managedError 409 "managed_execution_rollback_step_incomplete"
        "Rollback compensation step must be completed before finalization." [])
    rejectIf (activeSteps s (some stepRunId) ≠ [])
      (managedError 409 "managed_execution_rollback_other_steps_active"
        "Rollback finalization requires all other linked steps to be inactive."
        [("active_steps", idList ((activeSteps s (some stepRunId)).map StepRow.stepRunId))])
    let s' := (s.setStatus .cancelled).setBinding .rolledBack .cancelled
    .ok (okReply false ([("run_id", .str runId), ("step_run_id", .str stepRunId),
      ("run_status", .str "cancelled")] ++ stateFields s'), s')

/-! ## New runs -/

/-- What `normalizeManagedExecutionEnvelope` returns, as far as the run depends on it. -/
structure Envelope where
  tenantId : String
  userId : String
  parentTicketId : String
  workflowKey : String
  capabilityKey : String
  resourceType : String
  resourceRef : String
  effectClass : EffectClass
  dryRun : Bool
  idempotencyKey : String

/-- `optionalString(value, 32)?.toLowerCase() || null`. -/
def modeText (value : Val) : Except Val (Option String) := do
  let text ← optionalString value 32
  .ok (text.map toLowerCase)

/-- The execution mode of the input: whether it is `dry_run`. -/
def executionMode (input : Val) : Except Val Bool := do
  let inputJson := input.member "input_json"
  let nested ←
    modeText (if inputJson.isPlainObject then inputJson.member "execution_mode" else .null)
  let explicit ← modeText (input.member "execution_mode")
  rejectIf (explicit.isSome = true ∧ nested.isSome = true ∧ explicit ≠ nested)
    (managedError 400 "managed_execution_execution_mode_conflict"
      "Top-level execution_mode conflicts with input_json.execution_mode." [])
  let mode := (explicit.or nested).getD "live"
  rejectIf (mode ≠ "live" ∧ mode ≠ "dry_run")
    (managedError 400 "managed_execution_execution_mode_invalid"
      ("Unsupported execution_mode '" ++ mode ++ "'.") [("execution_mode", .str mode)])
  .ok (mode == "dry_run")

/-- The effect class of the input. -/
def effectClassOf (input : Val) : Except Val EffectClass := do
  let given ← requiredString (input.member "effect_class") "effect_class" 64
  match EffectClass.ofText (toLowerCase given) with
  | some effect => .ok effect
  | none =>
    .error (managedError 400 "managed_execution_effect_class_invalid"
      ("Unsupported effect_class '" ++ toLowerCase given ++ "'.") [])

def normalizeManagedExecutionEnvelope (input : Val) : Except Val Envelope := do
  let effectClass ← effectClassOf input
  let dryRun ← executionMode input
  let tenantId ← requiredString (input.member "tenant_id") "tenant_id" 64
  let userId ← requiredString ((input.member "user_id").or (input.member "requester_id"))
    "user_id" 64
  let parentTicketId ← requiredString (input.member "parent_ticket_id") "parent_ticket_id" 64
  let workflowKey ← requiredString (input.member "workflow_key") "workflow_key" 128
  let capabilityKey ← requiredString (input.member "capability_key") "capability_key" 191
  let resourceType ← requiredString (input.member "resource_type") "resource_type" 128
  let resourceRef ← requiredString (input.member "resource_ref") "resource_ref" 255
  let idempotencyKey ← requiredString
    ((input.member "idempotency_key").or (input.member "request_id")) "idempotency_key" 191
  let serviceMode ← optionalString (input.member "service_mode") 32
  rejectIf (["self_serve", "assisted", "managed"].contains (serviceMode.getD "managed") = false)
    (managedError 400 "managed_execution_service_mode_invalid"
      ("Unsupported service_mode '" ++ serviceMode.getD "managed" ++ "'.") [])
  o.payload
  .ok { tenantId, userId, parentTicketId, workflowKey, capabilityKey, resourceType,
        resourceRef, effectClass, dryRun, idempotencyKey }

/-- What the creation of a run is told besides: the invocation context, the decision of
the access engine, the status of the parent ticket, the authority and the task ticket,
and the identifier of the run. -/
structure CreationOracle extends Oracle where
  invocation : Except Val Unit
  access : Except Val AccessDecision
  parentTicket : Option String
  resolvedAuthority : Except Val Unit
  taskTicket : Except Val Unit
  runId : String

/-- The rows of a new run. -/
def newManagedRun (o : CreationOracle) (envelope : Envelope) (gate : Gate) : ManagedRun :=
  { run :=
      { runId := o.runId, userId := envelope.userId, status := gate.initialStatus
        authority := ⟨envelope.effectClass, envelope.dryRun, gate.requiresApproval⟩ }
    binding :=
      { tenantId := envelope.tenantId, parentTicketId := envelope.parentTicketId
        capabilityKey := envelope.capabilityKey, resourceType := envelope.resourceType
        resourceRef := envelope.resourceRef, effectClass := envelope.effectClass
        idempotencyKey := envelope.idempotencyKey, lifecycleState := gate.lifecycleState
        customerStatus := gate.customerStatus
        approvalHoldId := gate.hold.map fun _ => o.uuid }
    holds :=
      match gate.hold with
      | none => []
      | some hold =>
        [{ holdId := o.uuid, status := .opened, holdType := hold.holdType
           requiredRole := hold.requiredRole
           expiresAt := some (o.databaseNow + holdLifetime) }]
    steps := []
    requests := []
    retryEvents := [] }

def openParentStatuses : List String :=
  ["open", "in_review", "awaiting_approval"]

/-- The lifecycle states that no longer reserve their scope. -/
def LifecycleState.isClosed : LifecycleState → Bool
  | .verified => true
  | .failed => true
  | .cancelled => true
  | .approvalRejected => true
  | .approvalExpired => true
  | .rolledBack => true
  | _ => false

/-- The binding of the run is active in the scope of the request. -/
def sameScope (envelope : Envelope) (s : ManagedRun) : Bool :=
  env.sameText s.binding.tenantId envelope.tenantId && env.sameText s.run.userId envelope.userId &&
    env.sameText s.binding.parentTicketId envelope.parentTicketId &&
    env.sameText s.binding.capabilityKey envelope.capabilityKey &&
    env.sameText s.binding.resourceType envelope.resourceType &&
    env.sameText s.binding.resourceRef envelope.resourceRef &&
    s.binding.effectClass == envelope.effectClass && !s.binding.lifecycleState.isClosed

/-- Which of the two reuse rules finds the run. -/
def reuseReason (envelope : Envelope) (s : ManagedRun) : Option String :=
  if env.sameText s.binding.tenantId envelope.tenantId &&
      env.sameText s.binding.idempotencyKey envelope.idempotencyKey then some "idempotency_key"
  else if sameScope env envelope s then some "active_scope"
  else none

def assertManagedExecutionReuseMode (s : ManagedRun) (dryRun : Bool) (reason : String) :
    Except Val Unit :=
  rejectIf (s.run.authority.dryRun ≠ dryRun) (managedError 409
      (if reason = "idempotency_key" then "managed_execution_idempotency_mode_conflict"
        else "managed_execution_active_scope_mode_conflict")
      "Existing managed execution mode does not match the requested execution mode."
      [("reuse_reason", .str reason)])

def createdReply (s : ManagedRun) : Val :=
  okReply false ([("run_id", .str s.run.runId), ("status", .str s.run.status.text),
    ("holds", idList (s.holds.map HoldRow.holdId))] ++ stateFields s)

/-- The part of `createManagedExecutionRun` that inserts a run. -/
def insertRun (o : CreationOracle) (envelope : Envelope) (gate : Gate) : Except Val ManagedRun := do
  rejectIf (o.parentTicket = none) (managedError 404 "managed_execution_parent_ticket_not_found"
      "Parent ticket was not found for the tenant." [])
  rejectIf (openParentStatuses.contains (o.parentTicket.getD "") = false)
    (managedError 409 "managed_execution_parent_ticket_terminal"
      "Parent ticket is already terminal." [])
  o.resolvedAuthority
  o.taskTicket
  .ok (newManagedRun o envelope gate)

/-- The checked request of `createManagedExecutionRun` and its gate. -/
def creationRequest (o : CreationOracle) (input : Val) : Except Val (Envelope × Gate) := do
  let envelope ← normalizeManagedExecutionEnvelope o.toOracle input
  o.invocation
  let access ← o.access
  let gate ← resolveManagedExecutionGate access envelope.effectClass
  .ok (envelope, gate)

/-- `createManagedExecutionRun({ input })` when it finds no run to reuse. -/
def createManagedExecutionRun (o : CreationOracle) (input : Val) : Outcome := do
  let request ← creationRequest o input
  let s ← insertRun o request.1 request.2
  .ok (createdReply s, s)

/-- `createManagedExecutionRun({ input })` beside a run that exists: it is returned as it
is, or another run is inserted. -/
def createBesideManagedExecutionRun (o : CreationOracle) (input : Val) (s : ManagedRun) :
    Outcome := do
  let request ← creationRequest o input
  match reuseReason env request.1 s with
  | some reason => do
    assertManagedExecutionReuseMode s request.1.dryRun reason
    .ok (okReply true ([("reuse_reason", .str reason), ("run_id", .str s.run.runId)] ++
      stateFields s), s)
  | none => do
    let other ← insertRun o request.1 request.2
    .ok (createdReply other, s)

/-! ## The ten operations -/

inductive Operation
  | createRun (o : CreationOracle) (input : Val)
  | createStep (o : Oracle) (runId : String) (input : Val)
  | decide (o : Oracle) (holdId : String) (decision : Val)
  | syncRun (o : Oracle) (runId : String) (nextStatus : Val)
  | syncStep (o : Oracle) (runId stepRunId : String) (nextStatus : Val)
  | retry (o : Oracle) (runId stepRunId : String) (idempotencyKey reason maxAttempts : Val)
  | escalate (o : Oracle) (runId : String) (reason assignedTo : Val)
  | cancel (runId : String) (reason : Val)
  | rollback (o : Oracle) (runId : String) (idempotencyKey assignedTo reason : Val)
  | finalizeRollback (o : Oracle) (runId stepRunId : String)

/-- The outcome of an operation on the rows. -/
def perform (s : ManagedRun) : Operation → Outcome
  | .createRun o input => createBesideManagedExecutionRun env o input s
  | .createStep o runId input => createManagedExecutionStep env o runId input s
  | .decide o holdId decision => decideManagedExecutionApproval o holdId decision s
  | .syncRun o runId nextStatus => syncManagedExecutionRunStatus o runId nextStatus s
  | .syncStep o runId stepRunId nextStatus =>
    syncManagedExecutionStepStatus o runId stepRunId nextStatus s
  | .retry o runId stepRunId idempotencyKey reason maxAttempts =>
    retryManagedExecutionStep env o runId stepRunId idempotencyKey reason maxAttempts s
  | .escalate o runId reason assignedTo => escalateManagedExecutionRun o runId reason assignedTo s
  | .cancel runId reason => cancelManagedExecutionRun runId reason s
  | .rollback o runId idempotencyKey assignedTo reason =>
    requestManagedExecutionRollback env o runId idempotencyKey assignedTo reason s
  | .finalizeRollback o runId stepRunId => finalizeManagedExecutionRollback o runId stepRunId s

/-- One transaction: an operation that throws leaves the rows alone. -/
inductive RunStep (env : Platform) : ManagedRun → Operation → ManagedRun → Prop
  | done {s s' : ManagedRun} {operation : Operation} {reply : Val} :
      perform env s operation = .ok (reply, s') → RunStep env s operation s'
  | thrown {s : ManagedRun} {operation : Operation} {error : Val} :
      perform env s operation = .error error → RunStep env s operation s

/-- The rows a run starts with. -/
def Created (s : ManagedRun) : Prop :=
  ∃ o input reply, createManagedExecutionRun o input = .ok (reply, s)

end GrowthOs.ManagedExecution
