import GrowthOs.Js.Text
import GrowthOs.Support.Throwing

/-!
# Statuses and gates of managed executions

The pure part of `managedExecutionCore.js`: the statuses of a managed run, of its steps
and of its approval holds, the gate a new run starts behind, the transitions between
statuses, the check a step must pass before it is created, and the projected state of a
run with its contradictions.
-/

namespace GrowthOs.ManagedExecution

open Js
open Throwing (rejectIf)

def managedError (status : Nat) (code message : String) (details : List (String × Val)) : Val :=
  .obj ([("message", .str message), ("status", .num (.ofNat status)), ("code", .str code)] ++
    if details.isEmpty then [] else [("details", .obj details)])

/-! ## Statuses -/

/-- `workflow_runs.status`. -/
inductive RunStatus
  | pending
  | running
  | awaitingApproval
  | awaitingReview
  | paused
  | completed
  | failed
  | cancelled
deriving DecidableEq, Repr

namespace RunStatus

def text : RunStatus → String
  | pending => "pending"
  | running => "running"
  | awaitingApproval => "awaiting_approval"
  | awaitingReview => "awaiting_review"
  | paused => "paused"
  | completed => "completed"
  | failed => "failed"
  | cancelled => "cancelled"

def all : List RunStatus :=
  [pending, running, awaitingApproval, awaitingReview, paused, completed, failed, cancelled]

def ofText (s : String) : Option RunStatus :=
  all.find? fun status => status.text == s

theorem text_of_ofText {s : String} {status : RunStatus} (h : ofText s = some status) :
    status.text = s := by
  simpa using List.find?_some h

/-- `TERMINAL_RUN_STATUSES`. -/
def isTerminal : RunStatus → Bool
  | completed => true
  | failed => true
  | cancelled => true
  | _ => false

end RunStatus

/-- `step_runs.status`. -/
inductive StepStatus
  | pending
  | running
  | completed
  | failed
  | skipped
  | awaiting
deriving DecidableEq, Repr

namespace StepStatus

def text : StepStatus → String
  | pending => "pending"
  | running => "running"
  | completed => "completed"
  | failed => "failed"
  | skipped => "skipped"
  | awaiting => "awaiting"

def all : List StepStatus :=
  [pending, running, completed, failed, skipped, awaiting]

def ofText (s : String) : Option StepStatus :=
  all.find? fun status => status.text == s

theorem text_of_ofText {s : String} {status : StepStatus} (h : ofText s = some status) :
    status.text = s := by
  simpa using List.find?_some h

/-- `ACTIVE_STEP_STATUSES`. -/
def isActive : StepStatus → Bool
  | pending => true
  | running => true
  | awaiting => true
  | _ => false

end StepStatus

/-- `approval_holds.status`. -/
inductive HoldStatus
  | opened
  | approved
  | rejected
  | escalated
  | expired
deriving DecidableEq, Repr

def HoldStatus.text : HoldStatus → String
  | opened => "open"
  | approved => "approved"
  | rejected => "rejected"
  | escalated => "escalated"
  | expired => "expired"

/-! ## Policies and gates -/

inductive EffectClass
  | readOnly
  | stateChange
  | destructive
  | externalSend
  | managedOperation
deriving DecidableEq, Repr

namespace EffectClass

def text : EffectClass → String
  | readOnly => "read_only"
  | stateChange => "state_change"
  | destructive => "destructive"
  | externalSend => "external_send"
  | managedOperation => "managed_operation"

def all : List EffectClass :=
  [readOnly, stateChange, destructive, externalSend, managedOperation]

def ofText (s : String) : Option EffectClass :=
  all.find? fun effect => effect.text == s

end EffectClass

inductive HoldType
  | review
  | managedHandoff
  | supervisorApproval
deriving DecidableEq, Repr

namespace HoldType

/-- `HOLD_RANK`. -/
def rank : HoldType → Nat
  | review => 1
  | managedHandoff => 2
  | supervisorApproval => 3

end HoldType

structure HoldPolicy where
  holdType : HoldType
  requiredRole : String
deriving DecidableEq, Repr

/-- `EFFECT_POLICIES`, the hold of each. -/
def effectHold : EffectClass → Option HoldPolicy
  | .readOnly => none
  | .stateChange => some ⟨.review, "certified_reviewer"⟩
  | .destructive => some ⟨.supervisorApproval, "supervisor"⟩
  | .externalSend => some ⟨.supervisorApproval, "supervisor"⟩
  | .managedOperation => some ⟨.managedHandoff, "managed_operator"⟩

/-- The decisions of the access engine. -/
inductive AccessDecision
  | allowSelfServe
  | allowWithOptionalAssistance
  | requireReview
  | requireSupervisorApproval
  | routeToManagedService
  | deny
deriving DecidableEq, Repr

/-- `ACCESS_HOLD_POLICIES`. -/
def accessHold : AccessDecision → Option HoldPolicy
  | .requireReview => some ⟨.review, "certified_reviewer"⟩
  | .requireSupervisorApproval => some ⟨.supervisorApproval, "supervisor"⟩
  | .routeToManagedService => some ⟨.managedHandoff, "managed_operator"⟩
  | _ => none

def strongerHold : Option HoldPolicy → Option HoldPolicy → Option HoldPolicy
  | none, right => right
  | left, none => left
  | some left, some right =>
    if right.holdType.rank ≤ left.holdType.rank then some left else some right

/-- `managed_execution_bindings.lifecycle_state`. -/
inductive LifecycleState
  | executionReady
  | awaitingApproval
  | managedHandoffRequired
  | approvalExpired
  | approvalRejected
  | escalated
  | executing
  | blocked
  | verified
  | failed
  | cancelled
  | rollbackExecuting
  | rolledBack
deriving DecidableEq, Repr

def LifecycleState.text : LifecycleState → String
  | executionReady => "execution_ready"
  | awaitingApproval => "awaiting_approval"
  | managedHandoffRequired => "managed_handoff_required"
  | approvalExpired => "approval_expired"
  | approvalRejected => "approval_rejected"
  | escalated => "escalated"
  | executing => "executing"
  | blocked => "blocked"
  | verified => "verified"
  | failed => "failed"
  | cancelled => "cancelled"
  | rollbackExecuting => "rollback_executing"
  | rolledBack => "rolled_back"

/-- `managed_execution_bindings.customer_status`. -/
inductive CustomerStatus
  | inProgress
  | waitingForApproval
  | needsYourInput
  | blocked
  | completed
  | failed
  | cancelled
  | underReview
deriving DecidableEq, Repr

def CustomerStatus.text : CustomerStatus → String
  | inProgress => "in_progress"
  | waitingForApproval => "waiting_for_approval"
  | needsYourInput => "needs_your_input"
  | blocked => "blocked"
  | completed => "completed"
  | failed => "failed"
  | cancelled => "cancelled"
  | underReview => "under_review"

/-- What a new run starts with. -/
structure Gate where
  initialStatus : RunStatus
  lifecycleState : LifecycleState
  customerStatus : CustomerStatus
  hold : Option HoldPolicy
deriving DecidableEq, Repr

def Gate.requiresApproval (gate : Gate) : Bool :=
  gate.hold.isSome

def gateForHold : Option HoldPolicy → Gate
  | none => ⟨.pending, .executionReady, .inProgress, none⟩
  | some hold =>
    { initialStatus := if hold.holdType = .review then .awaitingReview else .awaitingApproval
      lifecycleState :=
        if hold.holdType = .managedHandoff then .managedHandoffRequired else .awaitingApproval
      customerStatus := .waitingForApproval
      hold := some hold }

def resolveManagedExecutionGate (access : AccessDecision) (effect : EffectClass) :
    Except Val Gate := do
  rejectIf (access = .deny) (managedError 403 "managed_execution_access_denied"
      "Effective access denied managed execution." [])
  .ok (gateForHold (strongerHold (effectHold effect) (accessHold access)))

/-! ## Rows -/

/-- What the operations read of `execution_context_json.authority_snapshot`. -/
structure AuthoritySnapshot where
  effectClass : EffectClass
  dryRun : Bool
  approvalRequired : Bool
deriving DecidableEq, Repr

/-- A row of `workflow_runs`. -/
structure RunRow where
  runId : String
  userId : String
  status : RunStatus
  authority : AuthoritySnapshot
deriving DecidableEq, Repr

/-- A row of `approval_holds`; `expiresAt` in milliseconds. -/
structure HoldRow where
  holdId : String
  status : HoldStatus
  holdType : HoldType
  requiredRole : String
  expiresAt : Option Int
deriving DecidableEq, Repr

/-- `hold.expires_at && new Date(hold.expires_at).getTime() <= now`. -/
def HoldRow.expiredAt (hold : HoldRow) (now : Int) : Bool :=
  match hold.expiresAt with
  | none => false
  | some expiresAt => decide (expiresAt ≤ now)

def HoldRow.isOpen (hold : HoldRow) : Bool :=
  hold.status == .opened

/-- A row of `step_runs`. -/
structure StepRow where
  stepRunId : String
  stepKey : String
  stepType : String
  status : StepStatus
  attempt : Nat
  assignedTo : Option String
deriving DecidableEq, Repr

def StepRow.isActive (step : StepRow) : Bool :=
  step.status.isActive

/-! ## Checks -/

/-- `assertManagedExecutionTransition({ current_status, next_status })` on the text of
the next status. -/
def transitionAllowed : RunStatus → RunStatus → Bool
  | .pending, next => next == .running || next == .cancelled
  | .running, next =>
    next == .paused || next == .completed || next == .failed || next == .cancelled
  | .paused, next => next == .running || next == .cancelled
  | .awaitingReview, next => next == .cancelled
  | .awaitingApproval, next => next == .cancelled
  | _, _ => false

def assertManagedExecutionTransition (current : RunStatus) (next : String) : Except Val RunStatus :=
  let refusal := managedError 409 "managed_execution_transition_forbidden"
    ("Managed execution cannot transition from '" ++ current.text ++ "' to '" ++ next ++ "'.")
    []
  match RunStatus.ofText next with
  | none => .error refusal
  | some status =>
    if current = status ∨ transitionAllowed current status then .ok status
    else .error refusal

/-- `assertManagedExecutionStepTransition({ current_status, next_status })` for a next
status that is not the current one. -/
def stepTransitionAllowed : StepStatus → StepStatus → Bool
  | .pending, next =>
    next == .running || next == .failed || next == .skipped || next == .awaiting
  | .running, next =>
    next == .completed || next == .failed || next == .skipped || next == .awaiting
  | .awaiting, next =>
    next == .pending || next == .running || next == .failed || next == .skipped
  | _, _ => false

def assertManagedExecutionStepTransition (current : StepStatus) (next : String) :
    Except Val StepStatus :=
  let refusal := managedError 409 "managed_execution_step_transition_forbidden"
    ("Managed execution step cannot transition from '" ++ current.text ++ "' to '" ++ next ++ "'.")
    []
  match StepStatus.ofText next with
  | none => .error refusal
  | some status =>
    if current = status ∨ stepTransitionAllowed current status then .ok status
    else .error refusal

/-- The part of `assertManagedExecutionStepEligibility` that looks at the holds. -/
def assertHoldsEligible (authority : AuthoritySnapshot) (holds : List HoldRow) (now : Int) :
    Except Val Unit := do
  rejectIf (authority.approvalRequired = true ∧ holds = [])
    (managedError 409 "managed_execution_approval_evidence_missing"
      "Managed execution requires approval evidence before steps can be created." [])
  match holds.find? HoldRow.isOpen with
  | some hold =>
    .error (if hold.expiredAt now then
      managedError 409 "managed_execution_approval_expired"
        "Managed execution approval has expired." []
    else managedError 409 "managed_execution_approval_pending"
      "Managed execution is still awaiting approval." [])
  | none => do
    rejectIf (holds.any fun hold => hold.status == .rejected || hold.status == .expired)
      (managedError 409 "managed_execution_approval_not_valid"
        "Managed execution approval is rejected or expired." [])
    rejectIf (authority.approvalRequired = true ∧
        (holds.any fun hold => hold.status == .approved) = false)
      (managedError 409 "managed_execution_approval_evidence_missing"
        "Managed execution requires an approved hold before steps can be created." [])

/-- `assertManagedExecutionStepEligibility({ run, holds, now })` for a run of this
contract. -/
def assertManagedExecutionStepEligibility (run : RunRow) (holds : List HoldRow) (now : Int) :
    Except Val Unit := do
  rejectIf (run.status ≠ .pending ∧ run.status ≠ .running)
    (managedError 409 "managed_execution_run_not_eligible"
      ("Run status '" ++ run.status.text ++ "' is not eligible for step creation.") [])
  assertHoldsEligible run.authority holds now

inductive Contradiction
  | runActiveWhileApprovalOpen
  | terminalRunHasRunningSteps
  | completedRunHasIncompleteSteps
deriving DecidableEq, Repr

/-- `contradictions` of `projectManagedExecutionState({ run, holds, steps })`. -/
def contradictions (run : RunRow) (holds : List HoldRow) (steps : List StepRow) :
    List Contradiction :=
  (if (holds.any HoldRow.isOpen) && (run.status == .running || run.status == .completed) then
      [.runActiveWhileApprovalOpen]
    else []) ++
    (if run.status.isTerminal && steps.any (fun step => step.status == .running) then
      [.terminalRunHasRunningSteps]
    else []) ++
    (if run.status == .completed && steps.any (fun step =>
        step.status == .failed || step.status == .awaiting || step.status == .pending) then
      [.completedRunHasIncompleteSteps]
    else [])

/-- `next_action` of the projected state. -/
inductive NextAction
  | reconcileLinkedStates
  | approvalDecisionRequired
  | none
  | continueExecution
deriving DecidableEq, Repr

/-- What `projectManagedExecutionState` returns; no `lifecycleState` stands for
`reconciliation_required`. -/
structure ProjectedState where
  lifecycleState : Option LifecycleState
  customerStatus : CustomerStatus
  approvalPending : Bool
  contradictions : List Contradiction
  nextAction : NextAction
deriving DecidableEq, Repr

def projectManagedExecutionState (run : RunRow) (holds : List HoldRow) (steps : List StepRow)
    (lifecycleState : LifecycleState) : ProjectedState :=
  let found := contradictions run holds steps
  let openHolds := holds.any HoldRow.isOpen
  { lifecycleState := if found.isEmpty then some lifecycleState else none
    customerStatus :=
      if !found.isEmpty then .underReview
      else if openHolds then .waitingForApproval
      else match run.status with
        | .completed => .completed
        | .failed => .failed
        | .cancelled => .cancelled
        | .paused => .blocked
        | _ => .inProgress
    approvalPending := openHolds
    contradictions := found
    nextAction :=
      if !found.isEmpty then .reconcileLinkedStates
      else if openHolds then .approvalDecisionRequired
      else if run.status.isTerminal then .none
      else .continueExecution }

end GrowthOs.ManagedExecution
