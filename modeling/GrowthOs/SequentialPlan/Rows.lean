import GrowthOs.SequentialPlan.Payload

/-!
# The tables of the sequential plan orchestrator

Rows of `execution_plans`, `execution_plan_steps`, `approval_holds`,
`workflow_runs` and `execution_plan_events`, with the columns the orchestrator
and the durable control service read or write.  Time stamps are left out: no
transaction reads one.  A JSON column holds the value its text denotes; the
dependencies of a step are always a list of strings.
-/

namespace GrowthOs.SequentialPlan

open Js

/-! ## Statuses -/

inductive PlanStatus
  | draft | validated | approved | executing | awaitingApproval
  | paused | blocked | completed | failed | cancelled
deriving DecidableEq, Repr

def PlanStatus.text : PlanStatus → String
  | .draft => "draft"
  | .validated => "validated"
  | .approved => "approved"
  | .executing => "executing"
  | .awaitingApproval => "awaiting_approval"
  | .paused => "paused"
  | .blocked => "blocked"
  | .completed => "completed"
  | .failed => "failed"
  | .cancelled => "cancelled"

/-- `TERMINAL_PLAN_STATUSES.has(status)`. -/
def PlanStatus.terminal : PlanStatus → Bool
  | .completed => true
  | .failed => true
  | .cancelled => true
  | _ => false

inductive StepStatus
  | pending | ready | claimed | running | verifying | awaitingApproval
  | blocked | paused | retrying | completed | failed | skipped | cancelled
deriving DecidableEq, Repr

def StepStatus.text : StepStatus → String
  | .pending => "pending"
  | .ready => "ready"
  | .claimed => "claimed"
  | .running => "running"
  | .verifying => "verifying"
  | .awaitingApproval => "awaiting_approval"
  | .blocked => "blocked"
  | .paused => "paused"
  | .retrying => "retrying"
  | .completed => "completed"
  | .failed => "failed"
  | .skipped => "skipped"
  | .cancelled => "cancelled"

/-- `TERMINAL_STEP_STATUSES.has(status)`. -/
def StepStatus.terminal : StepStatus → Bool
  | .completed => true
  | .failed => true
  | .skipped => true
  | .cancelled => true
  | _ => false

/-- `STEP_TYPES`. -/
inductive StepType
  | workflow | analysis | checkpoint | approval | stop
deriving DecidableEq, Repr

def StepType.ofText : String → Option StepType
  | "workflow" => some .workflow
  | "analysis" => some .analysis
  | "checkpoint" => some .checkpoint
  | "approval" => some .approval
  | "stop" => some .stop
  | _ => none

inductive HoldStatus
  | opened | approved | rejected | escalated | expired
deriving DecidableEq, Repr

def HoldStatus.text : HoldStatus → String
  | .opened => "open"
  | .approved => "approved"
  | .rejected => "rejected"
  | .escalated => "escalated"
  | .expired => "expired"

inductive WorkflowRunStatus
  | pending | running | awaitingApproval | awaitingReview
  | paused | completed | failed | cancelled
deriving DecidableEq, Repr

/-- The `event_type` of a timeline entry. -/
inductive EventType
  | planCompiled | planCheckpoint | delegationPolicyDecided
  | approvalRequested | delegationBoundaryDrift | delegationPolicyBlocked
  | stepClaimed | stepCompleted | stepRetryScheduled | stepFailed
  | approvalDecided | planResumed | planTransitioned | planCancelled
deriving DecidableEq, Repr

/-! ## Rows -/

structure PlanRow where
  planId : String
  tenantId : String
  userId : Option String
  intentKey : Option String
  agentId : Option String
  serviceMode : String
  planStatus : PlanStatus
  runtimeStatus : Option PlanStatus

/-- The columns of a step that its `INSERT` writes and nothing updates. -/
structure StepSpec where
  planStepId : String
  planId : String
  tenantId : String
  stepOrder : Nat
  stepKey : String
  stepType : StepType
  workflowId : Val
  workflowKey : Val
  dependsOn : List String
  inputJson : Val
  successCriteriaJson : Val
  retryPolicyJson : Val
  maxAttempts : Nat
  idempotencyKey : String

structure StepRow extends StepSpec where
  approvalPolicyJson : Val
  status : StepStatus
  attemptCount : Nat
  claimToken : Option String
  outputJson : Val
  errorJson : Val

structure HoldRow where
  holdId : String
  runId : String
  tenantId : String
  requestedBy : Option String
  requiredRole : Val
  status : HoldStatus
  decisionBy : Option String
  decisionNote : Option String
  executionContextJson : Val

structure WorkflowRunRow where
  runId : String
  tenantId : String
  userId : Option String
  workflowKey : String
  planId : Option String
  serviceMode : String
  status : WorkflowRunStatus
  currentStep : Option String
  inputJson : Val

structure EventRow where
  planId : String
  planStepId : Option String
  tenantId : String
  eventType : EventType
  fromStatus : Option String
  toStatus : Option String
  actorId : Option String
  evidenceJson : Val

structure Store where
  plans : List PlanRow
  steps : List StepRow
  holds : List HoldRow
  workflowRuns : List WorkflowRunRow
  events : List EventRow

/-! ## Status of a plan -/

/-- `effectivePlanStatus(plan)`: the runtime status where there is one. -/
def effectivePlanStatus (plan : PlanRow) : PlanStatus :=
  plan.runtimeStatus.getD plan.planStatus

/-- `persistedPlanStatus(runtimeStatus)`: the coarser column has no value for
the statuses a running plan can stop in. -/
def persistedPlanStatus : PlanStatus → PlanStatus
  | .blocked => .failed
  | .awaitingApproval => .validated
  | .paused => .validated
  | status => status

def PlanRow.withStatus (plan : PlanRow) (status : PlanStatus) : PlanRow :=
  { plan with
    planStatus := persistedPlanStatus status
    runtimeStatus := some status }

@[simp] theorem effectivePlanStatus_withStatus (plan : PlanRow) (status : PlanStatus) :
    effectivePlanStatus (plan.withStatus status) = status := rfl

end GrowthOs.SequentialPlan
