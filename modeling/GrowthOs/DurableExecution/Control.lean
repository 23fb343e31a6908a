import GrowthOs.SequentialPlan.Effects

/-!
# The durable control service

`durableExecutionControlService.js` writes the plan rows that the orchestrator
writes, under a transition table of its own.  This module has the table, the
projection of the next action, and the two transactions that change a plan:
`transitionDurableExecution` and `cancelDurableExecution`.
-/

namespace GrowthOs.DurableExecution

open Js SequentialPlan Throwing

def durableError (message code : String) (status : Nat) (extra : List (String × Val)) : Val :=
  .obj (Val.spread [("message", .str message), ("code", .str code),
    ("status", .num (.ofNat status))] extra)

def resolveUnique {α : Type} (rows : List α) (code message : String) : Except Val (Option α) :=
  match rows with
  | [] => .ok none
  | [row] => .ok (some row)
  | _ => .error (durableError message code 409 [])

theorem resolveUnique_ok {α : Type} {rows : List α} {code message : String}
    {row : α} (h : resolveUnique rows code message = .ok (some row)) : rows = [row] := by
  match rows, h with
  | [_], h => cases h; rfl

/-! ## The transition table -/

/-- The statuses with an entry in `PLAN_TRANSITIONS`. -/
def planStatusOfText : String → Option PlanStatus
  | "draft" => some .draft
  | "validated" => some .validated
  | "approved" => some .approved
  | "executing" => some .executing
  | "awaiting_approval" => some .awaitingApproval
  | "paused" => some .paused
  | "blocked" => some .blocked
  | "completed" => some .completed
  | "failed" => some .failed
  | "cancelled" => some .cancelled
  | _ => none

@[simp] theorem planStatusOfText_text (status : PlanStatus) :
    planStatusOfText status.text = some status := by
  cases status <;> rfl

theorem text_eq_iff {status status' : PlanStatus} :
    status.text = status'.text ↔ status = status' := by
  refine ⟨fun h => ?_, fun h => h ▸ rfl⟩
  have hsome := congrArg planStatusOfText h
  simpa using hsome

def planTransitions : PlanStatus → List PlanStatus
  | .draft => [.validated, .cancelled]
  | .validated => [.approved, .executing, .paused, .blocked, .cancelled]
  | .approved => [.executing, .paused, .blocked, .cancelled]
  | .executing =>
    [.awaitingApproval, .paused, .blocked, .completed, .failed, .cancelled]
  | .awaitingApproval =>
    [.validated, .executing, .paused, .blocked, .failed, .cancelled]
  | .paused => [.validated, .executing, .blocked, .cancelled]
  | .blocked => [.validated, .paused, .failed, .cancelled]
  | .completed => []
  | .failed => []
  | .cancelled => []

def assertDurablePlanTransition (fromStatus toStatus : String) : Except Val Unit :=
  let source := if fromStatus = "" then "draft" else fromStatus
  match planStatusOfText source with
  | none =>
    .error (durableError ("Unknown current plan status '" ++ source ++ "'.")
      "durable_execution_status_unknown" 409 [])
  | some status =>
    if source = toStatus then .ok ()
    else if (planTransitions status).any fun next => next.text == toStatus then
      .ok ()
    else
      .error (durableError ("Plan transition '" ++ source ++ "' -> '" ++ toStatus ++
          "' is not allowed.")
        "durable_execution_transition_forbidden" 409
        [("from_status", .str source), ("to_status", .str toStatus)])

/-- On statuses, the check is membership in the table or no change. -/
theorem assertDurablePlanTransition_ok {source target : PlanStatus} :
    assertDurablePlanTransition source.text target.text = .ok () ↔
      source = target ∨ target ∈ planTransitions source := by
  have hne : source.text ≠ "" := by cases source <;> decide
  simp only [assertDurablePlanTransition, hne, if_false, planStatusOfText_text,
    text_eq_iff, List.any_eq_true, beq_iff_eq, exists_eq_right]
  split
  next heq => simp [heq]
  next hdiff =>
    split
    next hmem => simp [hmem]
    next hmem => simp [hdiff, hmem]

def assertDurableRequestedStatus (toStatus : Val) : Except Val PlanStatus := do
  let requestedStatus := trim (← (toStatus.or (.str "")).toStr)
  match planStatusOfText requestedStatus with
  | some status => .ok status
  | none =>
    .error (durableError ("Unknown requested plan status '" ++
        (if requestedStatus = "" then "(empty)" else requestedStatus) ++ "'.")
      "invalid_status" 400 [])

/-! ## The next action -/

inductive DurableNextAction
  | approvalRequired (planStepId stepKey : Option String)
  | repairRequired (blockerCode : Val) (planStepId stepKey : Option String)
  | resume
  | compile
  | executeStep (planStepId stepKey : String)
  | poll
  | run

/-- `projectDurableNextAction({ plan, steps, blockers })`; `none` on a terminal
plan. -/
def projectDurableNextAction (status : PlanStatus) (steps : List StepRow)
    (blockers : List Val) : Except Val (Option DurableNextAction) := do
  if status.terminal then .ok none
  else
    let awaiting ← resolveUnique (steps.filter fun step => step.status == .awaitingApproval)
      "durable_execution_approval_candidate_ambiguous"
      "Multiple execution steps are awaiting approval; no arbitrary candidate may be selected."
    if status = .awaitingApproval ∨ awaiting.isSome then
      .ok (some (.approvalRequired (awaiting.map fun step => step.planStepId)
        (awaiting.map fun step => step.stepKey)))
    else
      let failed ← resolveUnique (steps.filter fun step =>
          step.status == .blocked || step.status == .failed)
        "durable_execution_repair_candidate_ambiguous"
        "Multiple execution steps require repair; no arbitrary candidate may be selected."
      if status = .blocked ∨ failed.isSome ∨ blockers ≠ [] then
        let errorOf : Option StepRow → Val
          | some step => step.errorJson
          | none => .undefined
        let blockerCode :=
          ((blockers.head?.getD .undefined).member "code").or (((errorOf failed).member "code").or
              (.str "durable_execution_blocked"))
        .ok (some (.repairRequired blockerCode (failed.map fun step => step.planStepId)
          (failed.map fun step => step.stepKey)))
      else if status = .paused then .ok (some .resume)
      else if status = .draft then .ok (some .compile)
      else
        let ready ← resolveUnique (steps.filter fun step => step.status == .ready)
          "durable_execution_ready_candidate_ambiguous"
          "Multiple execution steps are ready; no arbitrary candidate may be selected."
        match ready with
        | some step => .ok (some (.executeStep step.planStepId step.stepKey))
        | none =>
          if steps.any fun step => step.status == .claimed ||
              step.status == .running || step.status == .verifying then
            .ok (some .poll)
          else .ok (some .run)

/-! ## Transactions -/

/-- `tenantId && String(plan.tenant_id) !== String(tenantId)`. -/
def foreignTenant (plan : PlanRow) (tenantId : Option String) : Bool :=
  match tenantId with
  | some tenant => tenant != "" && plan.tenantId != tenant
  | none => false

def planNotFound : Val :=
  durableError "Execution plan not found for tenant." "durable_execution_not_found" 404 []

/-- Read the plan of a tenant. -/
def requirePlan (s : Store) (planId : String) (tenantId : Option String) : Except Val PlanRow := do
  let found ← resolveUnique (s.selectPlans planId) "durable_execution_plan_ambiguous"
    "Execution plan identity resolved to multiple rows."
  match found with
  | none => .error planNotFound
  | some plan =>
    if foreignTenant plan tenantId then .error planNotFound else .ok plan

/-- `UPDATE execution_plans SET plan_status, runtime_status WHERE plan_id = ?
AND tenant_id = ?`. -/
def setPlanStatus (s : Store) (plan : PlanRow) (status : PlanStatus) : Store :=
  { s with
    plans := Table.update (fun row => row.planId == plan.planId && row.tenantId == plan.tenantId)
      (fun row => row.withStatus status) s.plans }

/-- `reason || fallback`. -/
def reasonOr (reason : Option String) (fallback : Val) : Val :=
  match reason with
  | some text => (Val.str text).or fallback
  | none => fallback

structure TransitionResponse where
  planId : String
  planStatus : PlanStatus
  previousStatus : PlanStatus
  nextAction : Option DurableNextAction

def transitionDurableExecution (planId : String) (tenantId : Option String)
    (toStatus : Val) (actorId reason : Option String) (s : Store) :
    Except Val (TransitionResponse × Store) := do
  let target ← assertDurableRequestedStatus toStatus
  let plan ← requirePlan s planId tenantId
  let source := effectivePlanStatus plan
  assertDurablePlanTransition source.text target.text
  let s' :=
    if source ≠ target then
      (setPlanStatus s plan target).appendEvent
        { planId
          planStepId := none
          tenantId := plan.tenantId
          eventType := .planTransitioned
          fromStatus := some source.text
          toStatus := some target.text
          actorId
          evidenceJson := evidence [("reason", reasonOr reason .null)] }
    else s
  let nextAction ← projectDurableNextAction target [] []
  .ok (⟨planId, target, source, nextAction⟩, s')

structure CancelResponse where
  planId : String
  idempotentReplay : Bool

/-- `status NOT IN ('completed','failed','skipped','cancelled')` of the plan. -/
def cancelSteps (s : Store) (planId : String) : Store :=
  s.updateSteps (fun row => row.planId == planId && !row.status.terminal)
    (fun row => { row with status := .cancelled, claimToken := none })

def cancelDurableExecution (planId : String) (tenantId actorId : Option String)
    (reason : Option String) (s : Store) :
    Except Val (CancelResponse × Store) := do
  let plan ← requirePlan s planId tenantId
  let source := effectivePlanStatus plan
  if source = .cancelled then .ok (⟨planId, true⟩, s)
  else do
    rejectIf (source.terminal = true)
      (durableError ("Terminal plan '" ++ source.text ++ "' cannot be cancelled.")
        "durable_execution_terminal_invariant" 409 [])
    assertDurablePlanTransition source.text PlanStatus.cancelled.text
    let s := cancelSteps s planId
    let s := setPlanStatus s plan .cancelled
    let s := s.appendEvent
      { planId
        planStepId := none
        tenantId := plan.tenantId
        eventType := .planCancelled
        fromStatus := some source.text
        toStatus := some PlanStatus.cancelled.text
        actorId
        evidenceJson :=
          evidence [("reason", reasonOr reason (.str "user_requested"))] }
    .ok (⟨planId, false⟩, s)

/-! ## What the transactions do -/

variable {s : Store} {planId : String} {tenantId : Option String} {plan : PlanRow}

theorem requirePlan_ok (h : requirePlan s planId tenantId = .ok plan) :
    s.selectPlans planId = [plan] := by
  simp only [requirePlan, bind_eq_ok] at h
  obtain ⟨found, hfound, h⟩ := h
  cases found with
  | none => cases h
  | some row =>
    simp only at h
    split at h
    next => cases h
    next =>
      cases h
      exact resolveUnique_ok hfound

theorem wrote_setPlanStatus {s' : Store} {status : PlanStatus}
    (hplan : s.selectPlans planId = [plan])
    (hplans : s'.plans = (setPlanStatus s plan status).plans) : Wrote s s' planId status := by
  have hid := (mem_of_selectPlans hplan).2
  exact wrote_of_update (find_of_selectPlans hplan) (by simp) (by simp +contextual [hid]) hplans

/-- A committed transition changes the status of one plan, along the table. -/
structure TransitionStep (planId : String) (s : Store)
    (out : TransitionResponse × Store) : Prop where
  status : s.planStatus planId = some out.1.previousStatus
  allowed : out.1.previousStatus = out.1.planStatus ∨
    out.1.planStatus ∈ planTransitions out.1.previousStatus
  wrote : out.1.previousStatus = out.1.planStatus ∧ out.2 = s ∨
    Wrote s out.2 planId out.1.planStatus
  steps : out.2.steps = s.steps
  holds : out.2.holds = s.holds

theorem transitionDurableExecution_ok {toStatus : Val} {actorId reason : Option String}
    {out : TransitionResponse × Store}
    (h : transitionDurableExecution planId tenantId toStatus actorId reason s = .ok out) :
    TransitionStep planId s out := by
  simp only [transitionDurableExecution, bind_eq_ok] at h
  obtain ⟨target, -, plan, hplan, _, hallowed, nextAction, -, h⟩ := h
  cases h
  have hplan := requirePlan_ok hplan
  refine ⟨planStatus_of_selectPlans hplan, assertDurablePlanTransition_ok.mp hallowed, ?_, ?_, ?_⟩
  · by_cases hsame : effectivePlanStatus plan = target
    · exact .inl ⟨hsame, by simp [hsame]⟩
    · refine .inr (wrote_setPlanStatus hplan ?_)
      simp [hsame, Store.appendEvent]
  · split <;> rfl
  · split <;> rfl

theorem TransitionStep.after {out : TransitionResponse × Store} (h : TransitionStep planId s out) :
    out.2.planStatus planId = some out.1.planStatus := by
  obtain ⟨hsame, hstore⟩ | hwrote := h.wrote
  · rw [hstore, h.status, hsame]
  · exact hwrote.written

/-- A committed cancellation either replays one or ends a live plan. -/
inductive CancelStep (planId : String) (s : Store) : CancelResponse × Store → Prop
  | replay (hstatus : s.planStatus planId = some .cancelled) :
      CancelStep planId s (⟨planId, true⟩, s)
  | cancel {s' : Store} {status : PlanStatus} (hstatus : s.planStatus planId = some status)
      (hlive : status.terminal = false)
      (hsteps : s'.steps = (cancelSteps s planId).steps)
      (hwrote : Wrote s s' planId .cancelled) (hholds : s'.holds = s.holds) :
      CancelStep planId s (⟨planId, false⟩, s')

variable {out : CancelResponse × Store} {row' : StepRow}

theorem cancelDurableExecution_ok {actorId reason : Option String}
    (h : cancelDurableExecution planId tenantId actorId reason s = .ok out) :
    CancelStep planId s out := by
  simp only [cancelDurableExecution, bind_eq_ok] at h
  obtain ⟨plan, hplan, h⟩ := h
  have hplan := requirePlan_ok hplan
  have hstatus := planStatus_of_selectPlans hplan
  split at h
  next hcancelled =>
    cases h
    exact .replay (hcancelled ▸ hstatus)
  next =>
    simp only [bind_eq_ok, rejectIf_eq_ok] at h
    obtain ⟨_, hlive, _, -, h⟩ := h
    cases h
    refine .cancel hstatus (by simpa using hlive) rfl ?_ rfl
    exact wrote_setPlanStatus hplan rfl

/-- Cancelling leaves a row alone, which is over if it belongs to the plan, or
ends it. -/
theorem mem_cancelSteps (h : row' ∈ (cancelSteps s planId).steps) :
    (row' ∈ s.steps ∧ (row'.planId = planId → row'.status.terminal = true)) ∨
      ∃ row ∈ s.steps, row.status.terminal = false ∧
        row' = { row with status := .cancelled, claimToken := none } := by
  obtain ⟨row, hrow, rfl⟩ := Table.mem_update.mp h
  cases hlive : row.planId == planId && !row.status.terminal with
  | true =>
    simp only [Bool.and_eq_true, Bool.not_eq_true'] at hlive
    exact .inr ⟨row, hrow, hlive.2, if_pos rfl⟩
  | false =>
    refine .inl ⟨hrow, fun hplan => ?_⟩
    have hplan : row.planId = planId := hplan
    simpa [hplan] using hlive

/-- A row after a cancellation is one of the rows before it, or a live row that
has been cancelled. -/
theorem CancelStep.origin (h : CancelStep planId s out) (hmem : row' ∈ out.2.steps) :
    row' ∈ s.steps ∨ ∃ row ∈ s.steps, row.status.terminal = false ∧
      row' = { row with status := .cancelled, claimToken := none } := by
  cases h with
  | replay => exact .inl hmem
  | cancel _ _ hsteps _ _ =>
    rw [hsteps] at hmem
    exact (mem_cancelSteps hmem).imp_left And.left

theorem terminal_of_cancelSteps {s' : Store} (h : s'.steps = (cancelSteps s planId).steps)
    {row : StepRow} (hmem : row ∈ s'.steps) (hplan : row.planId = planId) :
    row.status.terminal = true := by
  rw [h] at hmem
  obtain ⟨-, hover⟩ | ⟨_, -, -, rfl⟩ := mem_cancelSteps hmem
  · exact hover hplan
  · rfl

end GrowthOs.DurableExecution
