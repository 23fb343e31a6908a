import GrowthOs.Delegation.Policy

/-!
# What a dispatch under a grant requires

`evaluateDelegationExecutionPolicy` collects blockers and drift before it looks
at the approval mode.  Read positively, a dispatch is allowed exactly when every
one of the conditions of `Grant.Permits` holds.
-/

namespace GrowthOs.Delegation

open Js
open Throwing (bind_eq_ok rejectIf_eq_ok)

/-! ## Normalised grants -/

/-- What the fields of a normalised grant are read from. -/
structure Grant.ReadFrom (rt : Runtime) (input : Val) (grant : Grant) : Prop where
  approvalMode : ∃ text, lower (input.member "approval_mode") 64 = .ok text ∧
    ApprovalMode.ofText text = some grant.approvalMode
  maxRiskTier : ∃ text, lower (input.member "max_risk_tier") 32 = .ok text ∧
    RiskTier.ofText text = some grant.maxRiskTier
  expiresAt : rt.timeOf (input.member "expires_at") = some grant.expiresAt
  delegatedBy : compact (input.member "delegated_by") 191 = .ok grant.delegatedBy
  delegatedTo : compact (input.member "delegated_to") 191 = .ok grant.delegatedTo
  principals : ¬(grant.delegatedBy = "" ∨ grant.delegatedTo = "")
  limits : normalizeLimits input = .ok grant.limits
  status : lower (input.member "status") 32 = .ok grant.status
  planId : compact (input.member "plan_id") 64 = .ok grant.planId
  planHash : lower (input.member "plan_hash") 64 = .ok grant.planHash
  resourceScope : normalizeResourceScope (input.member "resource_scope") =
    .ok grant.resourceScope
  allowedIntents : normalizeStringList (input.member "allowed_intents") =
    .ok grant.allowedIntents
  deniedIntents : normalizeStringList (input.member "denied_intents") =
    .ok grant.deniedIntents
  requireReadback : grant.requireReadback = (input.member "require_readback").isTrue
  stopOnDrift : grant.stopOnDrift = (input.member "stop_on_drift").isTrue

theorem requireMode_ok {text : String} {mode : ApprovalMode}
    (h : requireMode text = .ok mode) : ApprovalMode.ofText text = some mode := by
  unfold requireMode at h
  split at h
  · next m hm =>
      cases h
      exact hm
  · cases h

theorem requireRisk_ok {code message text : String} {tier : RiskTier}
    (h : requireRisk code message text = .ok tier) : RiskTier.ofText text = some tier := by
  unfold requireRisk at h
  split at h
  · next t ht =>
      cases h
      exact ht
  · cases h

theorem requireExpiry_ok {time : Option Int} {t : Int}
    (h : requireExpiry time = .ok t) : time = some t := by
  cases time with
  | none => cases h
  | some u =>
    cases h
    rfl

variable {rt : Runtime} {execution : Execution} {grant : Grant}

theorem normalizeGrant_ok {input : Val} (h : normalizeGrant rt input = .ok grant) :
    grant.ReadFrom rt input := by
  simp only [normalizeGrant, bind_eq_ok, rejectIf_eq_ok] at h
  obtain ⟨modeText, hmodeText, mode, hmode, riskText, hriskText, risk, hrisk,
    expiresAt, hexpires, delegatedBy, hby, delegatedTo, hto, _, hprincipals,
    limits, hlimits, grantId, -, status, hstatus, planId, hplanId, planHash,
    hplanHash, scope, hscope, allowed, hallowed, denied, hdenied, version, -,
    heq⟩ := h
  cases heq
  exact
    { approvalMode := ⟨modeText, hmodeText, requireMode_ok hmode⟩
      maxRiskTier := ⟨riskText, hriskText, requireRisk_ok hrisk⟩
      expiresAt := requireExpiry_ok hexpires
      delegatedBy := hby
      delegatedTo := hto
      principals := hprincipals
      limits := hlimits
      status := hstatus
      planId := hplanId
      planHash := hplanHash
      resourceScope := hscope
      allowedIntents := hallowed
      deniedIntents := hdenied
      requireReadback := rfl
      stopOnDrift := rfl }

theorem usageOf_ok {field : String} {value : Number} {n : Nat}
    (h : usageOf field value = .ok n) : naturalOf value = some n := by
  unfold usageOf at h
  split at h
  · next found hfound =>
      cases h
      exact hfound
  · cases h

/-- What a normalised execution says about mutations. -/
theorem normalizeExecution_mutation {input : Val}
    (h : normalizeExecution rt input = .ok execution) :
    execution.isMutation = (input.member "is_mutation").isTrue ∧
      ∃ count, ((input.member "mutation_count").or (.num (.ofNat 0))).toNumber = .ok count ∧
        naturalOf count = some execution.mutationCount := by
  simp only [normalizeExecution, bind_eq_ok] at h
  obtain ⟨_, -, _, -, _, -, _, -, _, -, _, -, _, -, _, -, _, -, count, hcount,
    _, -, _, -, mutationCount, hmutations, _, -, _, -, _, -, heq⟩ := h
  cases heq
  exact ⟨rfl, count, hcount, usageOf_ok hmutations⟩

/-! ## The decision -/

@[simp] theorem flag_eq_nil {condition : Bool} {code : String} :
    flag condition code = [] ↔ condition = false := by
  cases condition <;> simp [flag]

@[simp] theorem eraseDups_eq_nil {codes : List String} : codes.eraseDups = [] ↔ codes = [] := by
  constructor
  · intro h
    cases codes with
    | nil => rfl
    | cons code codes => simp [List.eraseDups_cons] at h
  · rintro rfl
    exact List.eraseDups_nil

/-- The execution is separated into planner, reviewer and executor when it asks
for that or the grant is a multi-agent one. -/
def separationRequired (grant : Grant) (execution : Execution) : Bool :=
  execution.separationOfDutiesRequired || grant.approvalMode == .multiAgentApproval

/-- Nothing stands against dispatching `execution` under `grant` at the time
`now`. -/
structure Grant.Permits (grant : Grant) (execution : Execution)
    (approval : Approval) (actors : Actors) (now : Option Int) : Prop where
  active : grant.status = "active"
  unexpired : grantExpired grant now = false
  delegated : grant.delegatedBy ≠ grant.delegatedTo
  readback : grant.requireReadback = true
  stopOnDrift : grant.stopOnDrift = true
  planId : execution.planId = grant.planId
  planHash : execution.planHash = grant.planHash
  allowedIntent : execution.intentKey ∈ grant.allowedIntents
  notDenied : execution.intentKey ∉ grant.deniedIntents
  resource : resourceBindingMatches grant execution = true
  risk : execution.riskTier.order ≤ grant.maxRiskTier.order
  mutations : execution.isMutation = true → execution.mutationCount < grant.limits.maxMutations
  retries : execution.retryCount ≤ grant.limits.maxRetries
  pullRequests : execution.pullRequestCount ≤ grant.limits.maxPullRequests
  mutationReadback : execution.isMutation = true → execution.readbackSupported = true
  executor : actors.executorAgentId.isSome = true → actors.executorAgentId = some grant.delegatedTo
  noSelfApproval : approval.approved = true → approval.approvedBy ≠ some grant.delegatedTo
  separated : separationOfDutiesBlockers actors (separationRequired grant execution) = []
  mode : (decideByMode grant execution approval actors
    (separationRequired grant execution)).dispatchAllowed = true

theorem grantExpired_eq_false {now : Option Int} :
    grantExpired grant now = false ↔ ∃ t, now = some t ∧ t < grant.expiresAt := by
  cases now <;> simp [grantExpired]

/-- No hard blocker and no drift, condition by condition. -/
theorem blockers_eq_nil_iff {approval : Approval} {actors : Actors} {now : Option Int}
    {evidence : List String} :
    (hardBlockers grant execution approval actors now (separationRequired grant execution) = [] ∧
      driftBlockers grant execution evidence = [] ∧
      (decideByMode grant execution approval actors
        (separationRequired grant execution)).dispatchAllowed = true) ↔
      evidence = [] ∧ grant.Permits execution approval actors now := by
  simp only [hardBlockers, driftBlockers, List.append_eq_nil_iff, flag_eq_nil,
    bne_eq_false_iff_eq, beq_eq_false_iff_ne, Bool.not_eq_false',
    Bool.and_eq_false_imp, decide_eq_true_eq, decide_eq_false_iff_not,
    List.contains_eq_mem, not_lt]
  constructor
  · rintro ⟨⟨⟨⟨⟨⟨⟨⟨⟨⟨⟨⟨⟨⟨hactive, hunexpired⟩, hdelegated⟩, hreadback⟩, hstop⟩,
      hallowed⟩, hdenied⟩, hmutations⟩, hretries⟩, hpulls⟩, hsupported⟩,
      hexecutor⟩, hself⟩, hseparated⟩,
      ⟨⟨⟨⟨hevidence, hplanId⟩, hplanHash⟩, hresource⟩, hrisk⟩, hmode⟩
    refine ⟨hevidence,
      { active := hactive, unexpired := hunexpired, delegated := hdelegated
        readback := hreadback, stopOnDrift := hstop, planId := hplanId
        planHash := hplanHash, allowedIntent := hallowed
        notDenied := hdenied, resource := hresource, risk := hrisk
        mutations := ?_, retries := hretries, pullRequests := hpulls
        mutationReadback := hsupported, executor := hexecutor
        noSelfApproval := hself, separated := hseparated, mode := hmode }⟩
    intro hmutation
    by_contra hexhausted
    have hread := hmutations (not_lt.mp hexhausted)
    rw [hmutation] at hread
    cases hread
  · rintro ⟨hevidence, h⟩
    refine ⟨⟨⟨⟨⟨⟨⟨⟨⟨⟨⟨⟨⟨⟨h.active, h.unexpired⟩, h.delegated⟩, h.readback⟩,
      h.stopOnDrift⟩, h.allowedIntent⟩, h.notDenied⟩, ?_⟩, h.retries⟩,
      h.pullRequests⟩, h.mutationReadback⟩, h.executor⟩, h.noSelfApproval⟩,
      h.separated⟩,
      ⟨⟨⟨⟨hevidence, h.planId⟩, h.planHash⟩, h.resource⟩, h.risk⟩, h.mode⟩
    intro hexhausted
    by_contra hmutation
    have hbelow := h.mutations (by simpa using hmutation)
    omega

/-- `evaluateDelegationExecutionPolicy(...)?.dispatch_allowed === true`. -/
def DispatchAllowed (rt : Runtime) (grant execution approval actors drift now : Val) : Prop :=
  ∃ decision, evaluateDelegationExecutionPolicy rt grant execution approval
    actors drift now = .ok (some decision) ∧ decision.dispatchAllowed = true

instance decidableDispatchAllowed (rt : Runtime) (grant execution approval actors drift now : Val) :
    Decidable (DispatchAllowed rt grant execution approval actors drift now) :=
  decidable_of_iff ((evaluateDelegationExecutionPolicy rt grant execution approval actors drift
    now).toOption.join.any (·.dispatchAllowed) = true) (by
    unfold DispatchAllowed
    rcases evaluateDelegationExecutionPolicy rt grant execution approval actors drift now with
      e | _ | decision <;> simp [Except.toOption])

/-- A dispatch is allowed exactly when the grant permits it and no drift was
reported. -/
theorem dispatchAllowed_iff {grantInput executionInput approvalInput actorsInput drift now : Val} :
    DispatchAllowed rt grantInput executionInput approvalInput actorsInput drift now ↔
      grantInput.truthy = true ∧
      ∃ grant execution approval actors,
        normalizeGrant rt grantInput = .ok grant ∧
        normalizeExecution rt executionInput = .ok execution ∧
        normalizeApproval approvalInput = .ok approval ∧
        normalizeActors actorsInput = .ok actors ∧
        detectDrift drift = .ok [] ∧
        grant.Permits execution approval actors (rt.timeOf now) := by
  constructor
  · rintro ⟨decision, hevaluate, hallowed⟩
    unfold evaluateDelegationExecutionPolicy at hevaluate
    by_cases htruthy : grantInput.truthy = true
    · rw [htruthy] at hevaluate
      simp only [Bool.not_true, Bool.false_eq_true, if_false, bind_eq_ok]
        at hevaluate
      obtain ⟨grant, hgrant, execution, hexecution, approval, happroval,
        actors, hactors, evidence, hevidence, hdecide⟩ := hevaluate
      refine ⟨htruthy, grant, execution, approval, actors, hgrant, hexecution,
        happroval, hactors, ?_⟩
      split at hdecide
      · cases hdecide
        cases hallowed
      · cases hdecide
        cases hallowed
      · next hhard hdrift =>
          cases hdecide
          have hnone := blockers_eq_nil_iff.mp ⟨hhard, eraseDups_eq_nil.mp hdrift, hallowed⟩
          rw [hnone.1] at hevidence
          exact ⟨hevidence, hnone.2⟩
    · simp [htruthy] at hevaluate
  · rintro ⟨htruthy, grant, execution, approval, actors, hgrant, hexecution,
      happroval, hactors, hdrift, hpermits⟩
    obtain ⟨hhard, hnodrift, hmode⟩ :=
      blockers_eq_nil_iff.mpr ⟨rfl, hpermits⟩
    refine ⟨decideByMode grant execution approval actors
      (separationRequired grant execution), ?_, hmode⟩
    unfold evaluateDelegationExecutionPolicy
    rw [htruthy]
    simp only [Bool.not_true, Bool.false_eq_true, if_false, bind_eq_ok]
    refine ⟨grant, hgrant, execution, hexecution, approval, happroval, actors,
      hactors, [], hdrift, ?_⟩
    have hhard' : hardBlockers grant execution approval actors
        (rt.timeOf now) (execution.separationOfDutiesRequired ||
          grant.approvalMode == .multiAgentApproval) = [] := hhard
    rw [hhard', hnodrift]
    rfl

end GrowthOs.Delegation
