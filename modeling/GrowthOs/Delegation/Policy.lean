import GrowthOs.SequentialPlan.Rows
import Mathlib.Data.List.Sort

/-!
# The delegation execution policy

`delegationExecutionPolicyService.js`: a step whose approval policy carries a
delegation grant is dispatched, held, paused or blocked by the grant instead
of by the plain approval bit.  Grants, executions and approvals arrive as
untyped JSON and are normalised first.  The digests that only document a
decision are left out; the step fingerprint an approval is compared with is
not.
-/

namespace GrowthOs.Delegation

open Js
open SequentialPlan (PlanRow StepRow StepType)
open Throwing (rejectIf)

def policyError (status : Nat) (code message : String) (details : List (String × Val)) : Val :=
  .obj [("message", .str message), ("status", .num (.ofNat status)),
    ("code", .str code),
    ("details", .obj (Val.setField details "secrets_included" (.bool false)))]

/-! ## Normalisation -/

/-- `MODES`. -/
inductive ApprovalMode
  | userApprovalOnly | agentRecommendOnly | agentQueueForApproval
  | delegatedLowRisk | delegatedPlanBound | humanOnException
  | multiAgentApproval
deriving DecidableEq, Repr

def ApprovalMode.ofText : String → Option ApprovalMode
  | "user_approval_only" => some .userApprovalOnly
  | "agent_recommend_only" => some .agentRecommendOnly
  | "agent_queue_for_approval" => some .agentQueueForApproval
  | "delegated_low_risk" => some .delegatedLowRisk
  | "delegated_plan_bound" => some .delegatedPlanBound
  | "human_on_exception" => some .humanOnException
  | "multi_agent_approval" => some .multiAgentApproval
  | _ => none

def ApprovalMode.text : ApprovalMode → String
  | .userApprovalOnly => "user_approval_only"
  | .agentRecommendOnly => "agent_recommend_only"
  | .agentQueueForApproval => "agent_queue_for_approval"
  | .delegatedLowRisk => "delegated_low_risk"
  | .delegatedPlanBound => "delegated_plan_bound"
  | .humanOnException => "human_on_exception"
  | .multiAgentApproval => "multi_agent_approval"

/-- The keys of `RISK_ORDER`. -/
inductive RiskTier
  | readOnly | low | medium | high | critical
deriving DecidableEq, Repr

def RiskTier.ofText : String → Option RiskTier
  | "read_only" => some .readOnly
  | "low" => some .low
  | "medium" => some .medium
  | "high" => some .high
  | "critical" => some .critical
  | _ => none

def RiskTier.text : RiskTier → String
  | .readOnly => "read_only"
  | .low => "low"
  | .medium => "medium"
  | .high => "high"
  | .critical => "critical"

/-- `RISK_ORDER[tier]`. -/
def RiskTier.order : RiskTier → Nat
  | .readOnly => 0
  | .low => 1
  | .medium => 2
  | .high => 3
  | .critical => 4

def reservedIntents : List String :=
  ["repo.pr.merge", "production.deploy", "database.migration.apply",
    "credential.write", "permission.write", "billing.write",
    "external.publish", "external.send", "destructive.execute"]

/-- `DRIFT_FIELDS`, each with the upper-case form its blocker carries. -/
def driftFields : List (String × String) :=
  [("plan_hash", "PLAN_HASH"),
    ("resource_snapshot_hash", "RESOURCE_SNAPSHOT_HASH"),
    ("head_sha", "HEAD_SHA"), ("base_sha", "BASE_SHA"),
    ("migration_checksum", "MIGRATION_CHECKSUM"), ("cost", "COST"),
    ("risk_tier", "RISK_TIER"), ("required_authority", "REQUIRED_AUTHORITY"),
    ("provider_behavior", "PROVIDER_BEHAVIOR")]

def compact (value : Val) (max : Nat) : Except Val String := do
  let text ← (value.coalesce (.str "")).toStr
  .ok (String.ofList ((trimChars text.toList).take max))

def lower (value : Val) (max : Nat) : Except Val String := do
  let text ← compact value max
  .ok (toLowerCase text)

/-- `text || null`. -/
def nonEmpty (text : String) : Option String :=
  if text = "" then none else some text

/-- `/^[0-9a-f]{64}$/.test(text)`. -/
def isDigest (text : String) : Bool :=
  text.toList.length == 64 &&
    text.toList.all fun c => c.isDigit || ('a' ≤ c && c ≤ 'f')

/-- A non-negative integer, as the usage and limit checks demand. -/
def naturalOf : Number → Option Nat
  | .finite d =>
    if d.isInteger && decide (0 ≤ d.mantissa) then some d.mantissa.toNat
    else none
  | _ => none

def normalizeStringList : Val → Except Val (List String)
  | .arr elems => do
    let items ← elems.mapM fun item => compact item 191
    .ok ((items.filter (· != "")).eraseDups.insertionSort
      fun a b => keyLe a b)
  | _ => .ok []

structure ResourceEntry where
  resourceUri : String
  snapshotHash : String
deriving DecidableEq

def normalizeResourceEntry (entry : Val) : Except Val ResourceEntry := do
  let resourceUri ← compact (entry.member "resource_uri") 500
  let snapshotHash ← lower (entry.member "snapshot_hash") 64
  .ok ⟨resourceUri, snapshotHash⟩

/-- `normalizeResourceScope(value)`.  The entries are only ever searched, so
their final order is not modelled. -/
def normalizeResourceScope : Val → Except Val (List ResourceEntry)
  | .arr elems => do
    let entries ← (elems.filter Val.isPlainObject).mapM normalizeResourceEntry
    .ok (entries.filter fun entry =>
      entry.resourceUri != "" && isDigest entry.snapshotHash)
  | _ => .ok []

structure GrantLimits where
  maxMutations : Nat
  maxRetries : Nat
  maxPullRequests : Nat
deriving DecidableEq

structure Grant where
  grantId : Option String
  status : String
  delegatedBy : String
  delegatedTo : String
  approvalMode : ApprovalMode
  planId : String
  planHash : String
  resourceScope : List ResourceEntry
  allowedIntents : List String
  deniedIntents : List String
  maxRiskTier : RiskTier
  limits : GrantLimits
  requireReadback : Bool
  stopOnDrift : Bool
  expiresAt : Int
  policyVersion : Option String

def limitOf (field : String) (value : Number) : Except Val Nat :=
  match naturalOf value with
  | some n => .ok n
  | none =>
    .error (policyError 400 "DELEGATION_POLICY_LIMIT_INVALID"
      (field ++ " must be a non-negative integer.") [("field", .str field)])

def normalizeLimits (input : Val) : Except Val GrantLimits := do
  let limits := input.member "limits"
  let mutations ←
    ((limits.member "max_mutations").coalesce (.num (.ofNat 0))).toNumber
  let retries ←
    ((limits.member "max_retries").coalesce (.num (.ofNat 0))).toNumber
  let pulls ←
    ((limits.member "max_pull_requests").coalesce (.num (.ofNat 0))).toNumber
  let maxMutations ← limitOf "max_mutations" mutations
  let maxRetries ← limitOf "max_retries" retries
  let maxPullRequests ← limitOf "max_pull_requests" pulls
  .ok ⟨maxMutations, maxRetries, maxPullRequests⟩

def requireMode (mode : String) : Except Val ApprovalMode :=
  match ApprovalMode.ofText mode with
  | some m => .ok m
  | none =>
    .error (policyError 400 "DELEGATION_POLICY_MODE_INVALID"
      "approval_mode is not supported by the execution policy."
      [("approval_mode", if mode = "" then .null else .str mode)])

def requireRisk (code message tier : String) : Except Val RiskTier :=
  match RiskTier.ofText tier with
  | some t => .ok t
  | none => .error (policyError 400 code message [])

def requireExpiry (time : Option Int) : Except Val Int :=
  match time with
  | some t => .ok t
  | none =>
    .error (policyError 400 "DELEGATION_POLICY_EXPIRY_INVALID"
      "expires_at must be an ISO date-time." [])

variable (rt : Runtime)

def normalizeGrant (input : Val) : Except Val Grant := do
  let approvalMode ← requireMode (← lower (input.member "approval_mode") 64)
  let maxRiskTier ← requireRisk "DELEGATION_POLICY_RISK_INVALID"
    "max_risk_tier is invalid." (← lower (input.member "max_risk_tier") 32)
  let expiresAt ← requireExpiry (rt.timeOf (input.member "expires_at"))
  let delegatedBy ← compact (input.member "delegated_by") 191
  let delegatedTo ← compact (input.member "delegated_to") 191
  rejectIf (delegatedBy = "" ∨ delegatedTo = "")
    (policyError 400 "DELEGATION_POLICY_PRINCIPAL_REQUIRED"
      "delegated_by and delegated_to are required." [])
  let limits ← normalizeLimits input
  let grantId ← compact (input.member "grant_id") 64
  let status ← lower (input.member "status") 32
  let planId ← compact (input.member "plan_id") 64
  let planHash ← lower (input.member "plan_hash") 64
  let resourceScope ← normalizeResourceScope (input.member "resource_scope")
  let allowedIntents ← normalizeStringList (input.member "allowed_intents")
  let deniedIntents ← normalizeStringList (input.member "denied_intents")
  let policyVersion ← compact (input.member "policy_version") 64
  .ok
    { grantId := nonEmpty grantId
      status, delegatedBy, delegatedTo, approvalMode, planId, planHash
      resourceScope, allowedIntents, deniedIntents, maxRiskTier, limits
      requireReadback := (input.member "require_readback").isTrue
      stopOnDrift := (input.member "stop_on_drift").isTrue
      expiresAt
      policyVersion := nonEmpty policyVersion }

structure Execution where
  planId : String
  planHash : String
  intentKey : String
  resourceSnapshotHash : String
  riskTier : RiskTier
  operationKey : Option String
  planStepId : Option String
  stepKey : Option String
  isMutation : Bool
  readbackSupported : Bool
  certifiedWorkflow : Bool
  separationOfDutiesRequired : Bool
  mutationCount : Nat
  retryCount : Nat
  pullRequestCount : Nat
  stepFingerprint : String

def usageOf (field : String) (value : Number) : Except Val Nat :=
  match naturalOf value with
  | some n => .ok n
  | none =>
    .error (policyError 400 "DELEGATION_POLICY_USAGE_INVALID"
      (field ++ " must be a non-negative integer.") [("field", .str field)])

def optionVal : Option String → Val
  | some s => .str s
  | none => .null

/-- The descriptor whose digest is the default fingerprint of a step. -/
def Execution.descriptor (e : Execution) : Val :=
  .obj [("plan_id", .str e.planId), ("plan_hash", .str e.planHash),
    ("intent_key", .str e.intentKey),
    ("resource_snapshot_hash", .str e.resourceSnapshotHash),
    ("risk_tier", .str e.riskTier.text),
    ("operation_key", optionVal e.operationKey),
    ("plan_step_id", optionVal e.planStepId),
    ("step_key", optionVal e.stepKey),
    ("is_mutation", .bool e.isMutation),
    ("readback_supported", .bool e.readbackSupported),
    ("certified_workflow", .bool e.certifiedWorkflow),
    ("separation_of_duties_required", .bool e.separationOfDutiesRequired),
    ("mutation_count", .num (.ofNat e.mutationCount)),
    ("retry_count", .num (.ofNat e.retryCount)),
    ("pull_request_count", .num (.ofNat e.pullRequestCount))]

def normalizeExecution (input : Val) : Except Val Execution := do
  let riskTier ← requireRisk "DELEGATION_POLICY_EXECUTION_RISK_INVALID"
    "execution.risk_tier is invalid."
    (← lower ((input.member "risk_tier").or (.str "read_only")) 32)
  let planId ← compact (input.member "plan_id") 64
  let planHash ← lower (input.member "plan_hash") 64
  let intentKey ← compact (input.member "intent_key") 191
  let resourceSnapshotHash ← lower (input.member "resource_snapshot_hash") 64
  let operationKey ← compact (input.member "operation_key") 191
  let planStepId ← compact (input.member "plan_step_id") 64
  let stepKey ← compact (input.member "step_key") 191
  let mutations ←
    ((input.member "mutation_count").or (.num (.ofNat 0))).toNumber
  let retries ← ((input.member "retry_count").or (.num (.ofNat 0))).toNumber
  let pulls ←
    ((input.member "pull_request_count").or (.num (.ofNat 0))).toNumber
  let mutationCount ← usageOf "mutation_count" mutations
  let retryCount ← usageOf "retry_count" retries
  let pullRequestCount ← usageOf "pull_request_count" pulls
  let given ← lower (input.member "step_fingerprint") 64
  let execution : Execution :=
    { planId, planHash, intentKey, resourceSnapshotHash, riskTier
      operationKey := nonEmpty operationKey
      planStepId := nonEmpty planStepId
      stepKey := nonEmpty stepKey
      isMutation := (input.member "is_mutation").isTrue
      readbackSupported := (input.member "readback_supported").isTrue
      certifiedWorkflow := (input.member "certified_workflow").isTrue
      separationOfDutiesRequired :=
        (input.member "separation_of_duties_required").isTrue
      mutationCount, retryCount, pullRequestCount
      stepFingerprint := given }
  .ok
    { execution with
      stepFingerprint :=
        if isDigest given then given
        else rt.sha256 (stableStringify execution.descriptor) }

structure Approval where
  approved : Bool
  approvedBy : Option String
  expectedStepFingerprint : Option String
  explicitReservedActionApproval : Bool
  reviewerApproved : Bool
  reviewerId : Option String

def normalizeApproval (input : Val) : Except Val Approval := do
  let approvedBy ← compact (input.member "approved_by") 191
  let fingerprint ← lower (input.member "expected_step_fingerprint") 64
  let reviewerId ← compact (input.member "reviewer_id") 191
  .ok
    { approved := (input.member "approved").isTrue
      approvedBy := nonEmpty approvedBy
      expectedStepFingerprint := nonEmpty fingerprint
      explicitReservedActionApproval :=
        (input.member "explicit_reserved_action_approval").isTrue
      reviewerApproved := (input.member "reviewer_approved").isTrue
      reviewerId := nonEmpty reviewerId }

structure Actors where
  plannerAgentId : Option String
  reviewerAgentId : Option String
  executorAgentId : Option String

def normalizeActors (input : Val) : Except Val Actors := do
  let planner ← compact (input.member "planner_agent_id") 191
  let reviewer ← compact (input.member "reviewer_agent_id") 191
  let executor ← compact (input.member "executor_agent_id") 191
  .ok ⟨nonEmpty planner, nonEmpty reviewer, nonEmpty executor⟩

/-! ## The decision -/

inductive Verdict
  | blocked | pausedOnDrift | recommendOnly | userApprovalRequired
  | queuedForApproval | dispatchAllowed
deriving DecidableEq, Repr

def Verdict.text : Verdict → String
  | .blocked => "blocked"
  | .pausedOnDrift => "paused_on_drift"
  | .recommendOnly => "recommend_only"
  | .userApprovalRequired => "user_approval_required"
  | .queuedForApproval => "queued_for_approval"
  | .dispatchAllowed => "dispatch_allowed"

structure ApprovalRequirements where
  requireDelegatorApproval : Bool
  delegatedBy : String
  delegatedTo : String
  expectedStepFingerprint : String
  separationOfDutiesRequired : Bool

structure NextAction where
  action : String
  reasonCode : String
  escalationType : Option String

/-- The fields of `resultEnvelope` that vary. -/
structure Decision where
  decision : Verdict
  approvalMode : ApprovalMode
  grantId : Option String
  stepFingerprint : String
  dispatchAllowed : Bool
  approvalRequired : Bool
  pauseRequired : Bool
  blockers : List String
  approvalRequirements : ApprovalRequirements
  nextAction : NextAction

variable (grant : Grant)

def exactApprovalSatisfied (execution : Execution) (approval : Approval) : Bool :=
  approval.approved && approval.approvedBy == some grant.delegatedBy &&
    approval.approvedBy != some grant.delegatedTo &&
    approval.expectedStepFingerprint == some execution.stepFingerprint

def resourceBindingMatches (execution : Execution) : Bool :=
  grant.resourceScope.any fun entry =>
    entry.snapshotHash == execution.resourceSnapshotHash

def flag (condition : Bool) (code : String) : List String :=
  if condition then [code] else []

/-- What one field of the drift evidence contributes. -/
def driftReasons (evidence : Val) (code : String) : Except Val (List String) :=
  match evidence with
  | .obj fields => do
    let expected := Val.lookup fields "expected"
    let observed := Val.lookup fields "observed"
    let differs ←
      if expected.isUndefined || observed.isUndefined then .ok false
      else do
        let a ← expected.toStr
        let b ← observed.toStr
        .ok (a != b)
    .ok (flag (Val.lookup fields "changed").isTrue code ++ flag differs code)
  | evidence => .ok (flag evidence.isTrue code)

def detectDrift (drift : Val) : Except Val (List String) := do
  let reasons ← driftFields.mapM fun field =>
    driftReasons (drift.member field.1) ("DELEGATION_DRIFT_" ++ field.2)
  .ok reasons.flatten.eraseDups

def separationOfDutiesBlockers (actors : Actors) (required : Bool) : List String :=
  if !required then []
  else if actors.plannerAgentId.isNone || actors.reviewerAgentId.isNone ||
      actors.executorAgentId.isNone then
    ["DELEGATION_SEPARATION_OF_DUTIES_IDENTITIES_REQUIRED"]
  else
    flag (actors.plannerAgentId == actors.reviewerAgentId)
        "DELEGATION_PLANNER_REVIEWER_COLLISION" ++
      flag (actors.plannerAgentId == actors.executorAgentId)
        "DELEGATION_PLANNER_EXECUTOR_COLLISION" ++
      flag (actors.reviewerAgentId == actors.executorAgentId)
        "DELEGATION_REVIEWER_EXECUTOR_COLLISION"

/-- Whether `now` is at or past the expiry, or no date at all. -/
def grantExpired (now : Option Int) : Bool :=
  match now with
  | some t => decide (grant.expiresAt ≤ t)
  | none => true

/-- The blockers no approval can lift. -/
def hardBlockers (execution : Execution) (approval : Approval) (actors : Actors) (now : Option Int)
    (separationRequired : Bool) : List String :=
  flag (grant.status != "active") "DELEGATION_GRANT_NOT_ACTIVE" ++
  flag (grantExpired grant now) "DELEGATION_GRANT_EXPIRED" ++
  flag (grant.delegatedBy == grant.delegatedTo)
    "DELEGATION_SELF_DELEGATION_FORBIDDEN" ++
  flag (!grant.requireReadback) "DELEGATION_READBACK_POLICY_REQUIRED" ++
  flag (!grant.stopOnDrift) "DELEGATION_STOP_ON_DRIFT_REQUIRED" ++
  flag (!grant.allowedIntents.contains execution.intentKey)
    "DELEGATION_INTENT_NOT_ALLOWED" ++
  flag (grant.deniedIntents.contains execution.intentKey)
    "DELEGATION_INTENT_DENIED" ++
  flag (decide (grant.limits.maxMutations ≤ execution.mutationCount) &&
      execution.isMutation)
    "DELEGATION_MUTATION_LIMIT_EXHAUSTED" ++
  flag (decide (grant.limits.maxRetries < execution.retryCount))
    "DELEGATION_RETRY_LIMIT_EXHAUSTED" ++
  flag (decide (grant.limits.maxPullRequests < execution.pullRequestCount))
    "DELEGATION_PULL_REQUEST_LIMIT_EXHAUSTED" ++
  flag (execution.isMutation && !execution.readbackSupported)
    "DELEGATION_MUTATION_READBACK_UNAVAILABLE" ++
  flag (actors.executorAgentId.isSome &&
      actors.executorAgentId != some grant.delegatedTo)
    "DELEGATION_EXECUTOR_BINDING_MISMATCH" ++
  flag (approval.approved && approval.approvedBy == some grant.delegatedTo)
    "DELEGATION_SELF_APPROVAL_FORBIDDEN" ++
  separationOfDutiesBlockers actors separationRequired

/-- The blockers found by comparing the execution with what was granted, on
top of the drift evidence itself. -/
def driftBlockers (execution : Execution) (evidence : List String) : List String :=
  evidence ++
  flag (execution.planId != grant.planId) "DELEGATION_DRIFT_PLAN_ID" ++
  flag (execution.planHash != grant.planHash) "DELEGATION_DRIFT_PLAN_HASH" ++
  flag (!resourceBindingMatches grant execution)
    "DELEGATION_DRIFT_RESOURCE_SNAPSHOT_HASH" ++
  flag (decide (grant.maxRiskTier.order < execution.riskTier.order))
    "DELEGATION_DRIFT_RISK_TIER"

/-- `resultEnvelope` with every optional field at its default. -/
def envelope (decision : Verdict) (grant : Grant) (execution : Execution)
    (nextAction : NextAction) : Decision :=
  { decision
    approvalMode := grant.approvalMode
    grantId := grant.grantId
    stepFingerprint := execution.stepFingerprint
    dispatchAllowed := false
    approvalRequired := false
    pauseRequired := false
    blockers := []
    approvalRequirements :=
      { requireDelegatorApproval := false
        delegatedBy := grant.delegatedBy
        delegatedTo := grant.delegatedTo
        expectedStepFingerprint := execution.stepFingerprint
        separationOfDutiesRequired := false }
    nextAction }

def Decision.withBlockers (d : Decision) (blockers : List String) : Decision :=
  { d with blockers := blockers.eraseDups }

def Decision.withSeparation (d : Decision) (required : Bool) : Decision :=
  { d with approvalRequirements :=
      { d.approvalRequirements with separationOfDutiesRequired := required } }

/-- An approval by the delegating principal is required. -/
def Decision.requiringDelegator (d : Decision) : Decision :=
  { d with
    approvalRequired := true
    approvalRequirements :=
      { d.approvalRequirements with requireDelegatorApproval := true } }

/-- The branches of `evaluateDelegationExecutionPolicy` by approval mode, once
no blocker and no drift was found. -/
def decideByMode (execution : Execution) (approval : Approval) (actors : Actors)
    (separationRequired : Bool) : Decision :=
  let approvalSatisfied := exactApprovalSatisfied grant execution approval
  let reservedIntent := reservedIntents.contains execution.intentKey
  let allowed : Decision :=
    { (envelope .dispatchAllowed grant execution
        ⟨"dispatch_delegated_step", "DELEGATION_POLICY_SATISFIED", none⟩)
        |>.withSeparation separationRequired with dispatchAllowed := true }
  match grant.approvalMode with
  | .agentRecommendOnly =>
    { envelope .recommendOnly grant execution
        ⟨"present_agent_recommendation", "DELEGATION_RECOMMEND_ONLY", none⟩
      with pauseRequired := true }
  | .userApprovalOnly =>
    if execution.isMutation && !approvalSatisfied then
      (envelope .userApprovalRequired grant execution
        ⟨"request_user_step_approval", "DELEGATION_USER_APPROVAL_REQUIRED",
          none⟩).requiringDelegator.withSeparation separationRequired
    else allowed
  | .agentQueueForApproval =>
    if !approvalSatisfied then
      (envelope .queuedForApproval grant execution
        ⟨"queue_compatible_steps_for_approval",
          "DELEGATION_QUEUE_APPROVAL_REQUIRED", none⟩).requiringDelegator
        |>.withSeparation separationRequired
    else allowed
  | .delegatedLowRisk =>
    let blockers :=
      flag (decide (RiskTier.low.order < execution.riskTier.order))
          "DELEGATION_LOW_RISK_CEILING_EXCEEDED" ++
        flag reservedIntent "DELEGATION_RESERVED_INTENT_USER_CONTROLLED"
    match blockers with
    | [] => allowed
    | first :: _ =>
      (envelope .blocked grant execution
        ⟨"request_narrower_or_explicit_grant", first, none⟩).withBlockers
        blockers
  | .delegatedPlanBound =>
    if reservedIntent &&
        !(approvalSatisfied && approval.explicitReservedActionApproval) then
      (envelope .userApprovalRequired grant execution
        ⟨"request_reserved_action_approval",
          "DELEGATION_RESERVED_ACTION_APPROVAL_REQUIRED",
          none⟩).requiringDelegator.withSeparation separationRequired
    else allowed
  | .humanOnException =>
    if !execution.certifiedWorkflow then
      (envelope .blocked grant execution
        ⟨"certify_workflow_or_use_manual_approval",
          "DELEGATION_CERTIFIED_WORKFLOW_REQUIRED", none⟩).withBlockers
        ["DELEGATION_CERTIFIED_WORKFLOW_REQUIRED"]
    else allowed
  | .multiAgentApproval =>
    if !approval.reviewerApproved ||
        approval.reviewerId != actors.reviewerAgentId then
      { (envelope .userApprovalRequired grant execution
          ⟨"request_independent_agent_review",
            "DELEGATION_INDEPENDENT_REVIEW_REQUIRED", none⟩).withSeparation
          true with approvalRequired := true }
    else allowed

/-- `evaluateDelegationExecutionPolicy`; `none` without a grant. -/
def evaluateDelegationExecutionPolicy
    (grantInput executionInput approvalInput actorsInput drift now : Val) :
    Except Val (Option Decision) := do
  if !grantInput.truthy then .ok none
  else
    let grant ← normalizeGrant rt grantInput
    let execution ← normalizeExecution rt executionInput
    let approval ← normalizeApproval approvalInput
    let actors ← normalizeActors actorsInput
    let evidence ← detectDrift drift
    let separationRequired := execution.separationOfDutiesRequired ||
      grant.approvalMode == .multiAgentApproval
    let hard := hardBlockers grant execution approval actors (rt.timeOf now)
      separationRequired
    let drifted := (driftBlockers grant execution evidence).eraseDups
    match hard, drifted with
    | first :: _, _ =>
      .ok (some ((envelope .blocked grant execution
        ⟨"resolve_delegation_policy_blockers", first, none⟩).withBlockers hard
        |>.withSeparation separationRequired))
    | [], first :: _ =>
      .ok (some
        { ((envelope .pausedOnDrift grant execution
            ⟨"request_human_drift_review", first,
              some "delegation_boundary_drift"⟩).withBlockers drifted
            |>.requiringDelegator.withSeparation separationRequired) with
          pauseRequired := true })
    | [], [] =>
      .ok (some
        (decideByMode grant execution approval actors separationRequired))

/-- `evaluateSequentialStepDelegationPolicy`.  Neither a plan hash nor a
resource snapshot is a column of `execution_plans`, so both come from the
policy alone; `clock` is the wall-clock time in milliseconds. -/
def evaluateSequentialStepDelegationPolicy (clock : Int) (plan : PlanRow) (step : StepRow)
    (actorId : Option String) : Except Val (Option Decision) :=
  let policy := parseObject step.approvalPolicyJson
  if !(policy.member "delegation_grant").truthy then .ok none
  else
    let context := parseObject (policy.member "delegation_execution")
    let usage := context.member "usage"
    let actors := context.member "actors"
    let workflowOrKey := step.workflowKey.or (.str step.stepKey)
    let isMutation :=
      if (context.member "is_mutation").isUndefined then
        decide (step.stepType = .workflow)
      else (context.member "is_mutation").isTrue
    let execution : Val :=
      .obj [("plan_id", .str plan.planId),
        ("plan_hash", (context.member "plan_hash").or .undefined),
        ("intent_key", (context.member "intent_key").or
          ((optionVal plan.intentKey).or workflowOrKey)),
        ("resource_snapshot_hash",
          (context.member "resource_snapshot_hash").or .undefined),
        ("risk_tier", (context.member "risk_tier").or (.str "read_only")),
        ("operation_key", (context.member "operation_key").or workflowOrKey),
        ("plan_step_id", .str step.planStepId),
        ("step_key", .str step.stepKey),
        ("step_fingerprint", context.member "step_fingerprint"),
        ("is_mutation", .bool isMutation),
        ("readback_supported",
          .bool (context.member "readback_supported").isTrue),
        ("certified_workflow",
          .bool (context.member "certified_workflow").isTrue),
        ("separation_of_duties_required",
          .bool (context.member "separation_of_duties_required").isTrue),
        ("mutation_count", usage.member "mutation_count"),
        ("retry_count", usage.member "retry_count"),
        ("pull_request_count", usage.member "pull_request_count")]
    let approval : Val :=
      .obj [("approved", .bool (policy.member "approved").isTrue),
        ("approved_by", policy.member "approved_by"),
        ("expected_step_fingerprint",
          policy.member "expected_step_fingerprint"),
        ("explicit_reserved_action_approval",
          .bool (policy.member "explicit_reserved_action_approval").isTrue),
        ("reviewer_approved", .bool (policy.member "reviewer_approved").isTrue),
        ("reviewer_id", policy.member "reviewer_id")]
    let actorFields : Val :=
      .obj [("planner_agent_id", actors.member "planner_agent_id"),
        ("reviewer_agent_id", actors.member "reviewer_agent_id"),
        ("executor_agent_id", (actors.member "executor_agent_id").or
          ((optionVal plan.agentId).or (optionVal actorId)))]
    evaluateDelegationExecutionPolicy rt (policy.member "delegation_grant")
      execution approval actorFields
      ((context.member "drift").or (.obj []))
      ((context.member "now").or (.str (rt.isoString clock)))

/-- `assertDelegationApprovalDecision`: who may approve a step that runs under
a grant. -/
def assertDelegationApprovalDecision (approvalPolicy : Val) (approves : Bool)
    (decisionBy : Option String) (holdContext : Val) : Except Val Unit := do
  let policy := parseObject approvalPolicy
  if !(policy.member "delegation_grant").truthy || !approves then .ok ()
  else
    let grant ← normalizeGrant rt (policy.member "delegation_grant")
    let actor ← compact (optionVal decisionBy) 191
    rejectIf (actor = "")
      (policyError 403 "DELEGATION_APPROVAL_ACTOR_REQUIRED"
        "An authenticated approval actor is required." [])
    rejectIf (actor = grant.delegatedTo)
      (policyError 403 "DELEGATION_SELF_APPROVAL_FORBIDDEN"
        "The delegated Agent cannot approve its own execution." [])
    let requirements := parseObject
      ((policy.member "delegation_approval_requirements").or
        (holdContext.member "delegation_approval_requirements"))
    rejectIf ((requirements.member "require_delegator_approval").isTrue ∧
        actor ≠ grant.delegatedBy)
      (policyError 403 "DELEGATION_DELEGATOR_APPROVAL_REQUIRED"
        "The delegating principal must approve this step."
        [("delegated_by", .str grant.delegatedBy)])
    if (requirements.member "separation_of_duties_required").isTrue then
      let planner ← compact (requirements.member "planner_agent_id") 191
      let executor ← compact (requirements.member "executor_agent_id") 191
      rejectIf (actor = planner ∨ actor = executor)
        (policyError 403 "DELEGATION_INDEPENDENT_REVIEWER_REQUIRED"
          "Approval must be independent from planner and executor." [])
    else .ok ()

end GrowthOs.Delegation
