import GrowthOs.Delegation.CanonicalForm

/-!
# What a renewal can widen

A renewal that the check allows is within the current grant (`Grant.Within`) in
everything that matters for a dispatch but two fields: the check never looks at
the status, and it does not see the case of the plan id.  The main theorem says
that these two are exactly what a renewal can widen.
-/

namespace GrowthOs.Delegation

open Js Throwing List

/-! ## A renewal stays within the current grant -/

/-- `requested` grants nothing beyond `current`, its status and its plan id
apart. -/
structure Grant.Within (requested current : Grant) : Prop where
  delegatedBy : current.delegatedBy = requested.delegatedBy
  delegatedTo : current.delegatedTo = requested.delegatedTo
  approvalMode : current.approvalMode = requested.approvalMode
  planHash : current.planHash = requested.planHash
  requireReadback : current.requireReadback = true
  stopOnDrift : current.stopOnDrift = true
  resourceScope : ∀ entry ∈ requested.resourceScope,
    ∃ bound ∈ current.resourceScope, bound.snapshotHash = entry.snapshotHash
  allowedIntents : ∀ intent ∈ requested.allowedIntents, intent ∈ current.allowedIntents
  deniedIntents : ∀ intent ∈ current.deniedIntents, intent ∈ requested.deniedIntents
  maxRiskTier : requested.maxRiskTier.order ≤ current.maxRiskTier.order
  maxMutations : requested.limits.maxMutations ≤ current.limits.maxMutations
  maxRetries : requested.limits.maxRetries ≤ current.limits.maxRetries
  maxPullRequests : requested.limits.maxPullRequests ≤ current.limits.maxPullRequests
  expiresAt : requested.expiresAt ≤ current.expiresAt

/-- All digests have one length, so the key of a binding determines its
digest. -/
theorem snapshotHash_eq_of_key {a b : ResourceEntry}
    (ha : isDigest a.snapshotHash = true) (hb : isDigest b.snapshotHash = true)
    (hkey : a.key = b.key) : a.snapshotHash = b.snapshotHash := by
  simp only [isDigest, Bool.and_eq_true, beq_iff_eq] at ha hb
  have hlists := congrArg String.toList hkey
  simp only [ResourceEntry.key, String.toList_append] at hlists
  have hsuffix := (append_inj' hlists (ha.1.trans hb.1.symm)).2
  exact String.toList_inj.mp hsuffix

variable {rt : Runtime}

theorem renewalBlockers_of_allowed {localeLe : String → String → Bool}
    {currentGrant requestedGrant approvedBy : Val} {renewal : RenewalDecision}
    (h : evaluateDelegationRenewalPolicy rt localeLe currentGrant
      requestedGrant approvedBy = .ok renewal) (hallowed : renewal.decision = .renewalAllowed) :
    ∃ current requested,
      normalizeCanonicalGrant rt localeLe currentGrant = .ok current ∧
      normalizeCanonicalGrant rt localeLe requestedGrant = .ok requested ∧
      renewalBlockers current requested = [] := by
  simp only [evaluateDelegationRenewalPolicy, evaluateDelegationRenewalNoWidening, bind_eq_ok] at h
  obtain ⟨report, ⟨current, hcurrent, requested, hrequested, _, -, _, -,
    hreport⟩, grant, -, actor, -, hrenewal⟩ := h
  refine ⟨current, requested, hcurrent, hrequested, ?_⟩
  rw [← Except.ok.inj hrenewal, ← Except.ok.inj hreport] at hallowed
  by_contra hblocked
  simp [hblocked] at hallowed

variable {current requested : Grant} {canonical : CanonicalGrant}

theorem within_of_renewalBlockers {canonical' : CanonicalGrant}
    (hcurrent : Agrees current canonical) (hrequested : Agrees requested canonical')
    (hreadback : current.requireReadback = true) (hstop : current.stopOnDrift = true)
    (h : renewalBlockers canonical canonical' = []) : requested.Within current := by
  simp only [renewalBlockers, append_eq_nil_iff, flag_eq_nil,
    bne_eq_false_iff_eq, Bool.not_eq_false', decide_eq_false_iff_not, not_lt,
    resourceScopeIsSubset, setIsSubset, all_eq_true,
    contains_eq_mem, decide_eq_true_eq, mem_map] at h
  obtain ⟨⟨⟨⟨⟨⟨⟨⟨⟨⟨⟨⟨⟨⟨-, hby⟩, hto⟩, hmode⟩, -⟩, hplanHash⟩, -⟩, hscope⟩,
    hallowed⟩, hdenied⟩, hrisk⟩, hmutations⟩, hretries⟩, hpulls⟩, hexpiry⟩ := h
  refine
    { delegatedBy := ?_, delegatedTo := ?_, approvalMode := ?_, planHash := ?_
      requireReadback := hreadback, stopOnDrift := hstop
      resourceScope := ?_, allowedIntents := ?_, deniedIntents := ?_
      maxRiskTier := ?_, maxMutations := ?_, maxRetries := ?_
      maxPullRequests := ?_, expiresAt := ?_ }
  · rw [hcurrent.delegatedBy, hby, hrequested.delegatedBy]
  · rw [hcurrent.delegatedTo, hto, hrequested.delegatedTo]
  · rw [hcurrent.approvalMode, hrequested.approvalMode] at hmode
    exact CanonicalMode.policy.inj hmode
  · rw [hcurrent.planHash, hplanHash, hrequested.planHash]
  · intro entry hentry
    obtain ⟨bound, hbound, hkey⟩ :=
      hscope entry (hrequested.resourceScope.mem_iff.mp hentry)
    have hmem := hcurrent.resourceScope.mem_iff.mpr hbound
    exact ⟨bound, hmem, snapshotHash_eq_of_key (hcurrent.digests bound hmem)
      (hrequested.digests entry hentry) hkey⟩
  · rw [hcurrent.allowedIntents, hrequested.allowedIntents]
    exact hallowed
  · rw [hcurrent.deniedIntents, hrequested.deniedIntents]
    exact hdenied
  · rw [hcurrent.maxRiskTier, hrequested.maxRiskTier]
    exact hrisk
  · rw [hcurrent.limits, hrequested.limits]
    exact hmutations
  · rw [hcurrent.limits, hrequested.limits]
    exact hretries
  · rw [hcurrent.limits, hrequested.limits]
    exact hpulls
  · rw [hcurrent.expiresAt, hrequested.expiresAt]
    exact hexpiry

variable {execution : Execution} {approval : Approval} {actors : Actors} {separated : Bool}

/-- Of the grant, the branch by approval mode reads the mode and the two
principals only. -/
theorem decideByMode_congr (hmode : current.approvalMode = requested.approvalMode)
    (hby : current.delegatedBy = requested.delegatedBy)
    (hto : current.delegatedTo = requested.delegatedTo) :
    (decideByMode current execution approval actors separated).dispatchAllowed =
      (decideByMode requested execution approval actors separated).dispatchAllowed := by
  have happroval : exactApprovalSatisfied current execution approval =
      exactApprovalSatisfied requested execution approval := by
    simp only [exactApprovalSatisfied, hby, hto]
  unfold decideByMode
  rw [hmode, happroval]
  cases requested.approvalMode with
  | agentRecommendOnly => rfl
  | _ => dsimp only; split <;> rfl

/-- What a narrower grant permits, the wider one permits, if it is active and
names the same plan. -/
theorem Grant.Permits.of_within {now : Option Int}
    (h : requested.Permits execution approval actors now) (hwithin : requested.Within current)
    (hactive : current.status = "active") (hplan : current.planId = requested.planId) :
    current.Permits execution approval actors now := by
  have hseparation : separationRequired current execution =
      separationRequired requested execution := by
    simp only [separationRequired, hwithin.approvalMode]
  refine
    { active := hactive
      unexpired := ?_
      delegated := ?_
      readback := hwithin.requireReadback
      stopOnDrift := hwithin.stopOnDrift
      planId := h.planId.trans hplan.symm
      planHash := h.planHash.trans hwithin.planHash.symm
      allowedIntent := hwithin.allowedIntents _ h.allowedIntent
      notDenied := fun hdenied => h.notDenied (hwithin.deniedIntents _ hdenied)
      resource := ?_
      risk := h.risk.trans hwithin.maxRiskTier
      mutations := fun hm =>
        Nat.lt_of_lt_of_le (h.mutations hm) hwithin.maxMutations
      retries := h.retries.trans hwithin.maxRetries
      pullRequests := h.pullRequests.trans hwithin.maxPullRequests
      mutationReadback := h.mutationReadback
      executor := ?_
      noSelfApproval := ?_
      separated := ?_
      mode := ?_ }
  · obtain ⟨t, hnow, hbefore⟩ := grantExpired_eq_false.mp h.unexpired
    exact grantExpired_eq_false.mpr ⟨t, hnow, hbefore.trans_le hwithin.expiresAt⟩
  · rw [hwithin.delegatedBy, hwithin.delegatedTo]
    exact h.delegated
  · have hrequested := h.resource
    simp only [resourceBindingMatches, any_eq_true, beq_iff_eq]
      at hrequested ⊢
    obtain ⟨entry, hentry, hhash⟩ := hrequested
    obtain ⟨bound, hbound, hsame⟩ := hwithin.resourceScope entry hentry
    exact ⟨bound, hbound, hsame.trans hhash⟩
  · rw [hwithin.delegatedTo]
    exact h.executor
  · rw [hwithin.delegatedTo]
    exact h.noSelfApproval
  · rw [hseparation]
    exact h.separated
  · rw [hseparation, decideByMode_congr hwithin.approvalMode
      hwithin.delegatedBy hwithin.delegatedTo]
    exact h.mode

/-! ## Grants under which anything can be dispatched -/

/-- Some execution can be dispatched under the grant. -/
structure Grant.Usable (rt : Runtime) (grant : Grant) : Prop where
  active : grant.status = "active"
  delegated : grant.delegatedBy ≠ grant.delegatedTo
  dispatching : grant.approvalMode ≠ .agentRecommendOnly
  lowRiskIntent : grant.approvalMode = .delegatedLowRisk →
    ∃ intent ∈ grant.allowedIntents, intent ∉ reservedIntents
  unexpired : ∃ now time, rt.timeOf now = some time ∧ time < grant.expiresAt

variable {grant : Grant}

theorem Grant.Permits.usable {now : Val}
    (h : grant.Permits execution approval actors (rt.timeOf now)) : grant.Usable rt := by
  refine ⟨h.active, h.delegated, ?_, ?_, now, grantExpired_eq_false.mp h.unexpired⟩
  · intro hmode
    have hallowed := h.mode
    simp [decideByMode, hmode, envelope] at hallowed
  · intro hmode
    refine ⟨execution.intentKey, h.allowedIntent, ?_⟩
    intro hreserved
    have hallowed := h.mode
    unfold decideByMode at hallowed
    rw [hmode] at hallowed
    dsimp only at hallowed
    split at hallowed
    · next hnone =>
        simp [hreserved] at hnone
    · cases hallowed

/-- A digest to approve. -/
def sampleFingerprint : String :=
  "0000000000000000000000000000000000000000000000000000000000000000"

/-- An execution of the granted plan that only reads. -/
def readingExecution (grant intent snapshotHash : Val) : Val :=
  .obj [("plan_id", grant.member "plan_id"),
    ("plan_hash", grant.member "plan_hash"), ("intent_key", intent),
    ("resource_snapshot_hash", snapshotHash),
    ("certified_workflow", .bool true),
    ("step_fingerprint", .str sampleFingerprint)]

/-- The delegating principal and the reviewer both agree. -/
def fullApproval (grant : Val) (reviewer : String) : Val :=
  .obj [("approved", .bool true), ("approved_by", grant.member "delegated_by"),
    ("expected_step_fingerprint", .str sampleFingerprint),
    ("explicit_reserved_action_approval", .bool true),
    ("reviewer_approved", .bool true), ("reviewer_id", .str reviewer)]

/-- The grantee executes what two other agents planned and reviewed. -/
def separateActors (grant : Val) (planner reviewer : String) : Val :=
  .obj [("planner_agent_id", .str planner), ("reviewer_agent_id", .str reviewer),
    ("executor_agent_id", grant.member "delegated_to")]

variable {text field : String} {max : Nat}

set_option maxRecDepth 1000 in
theorem lower_sampleFingerprint : lower (.str sampleFingerprint) 64 = .ok sampleFingerprint :=
  rfl

theorem normalizeReadingExecution {grant intent hash : Val}
    {planId planHash intentKey snapshotHash : String}
    (hplanId : compact (grant.member "plan_id") 64 = .ok planId)
    (hplanHash : lower (grant.member "plan_hash") 64 = .ok planHash)
    (hintent : compact intent 191 = .ok intentKey) (hhash : lower hash 64 = .ok snapshotHash) :
    normalizeExecution rt (readingExecution grant intent hash) = .ok
      { planId, planHash, intentKey
        resourceSnapshotHash := snapshotHash
        riskTier := .readOnly
        operationKey := none
        planStepId := none
        stepKey := none
        isMutation := false
        readbackSupported := false
        certifiedWorkflow := true
        separationOfDutiesRequired := false
        mutationCount := 0
        retryCount := 0
        pullRequestCount := 0
        stepFingerprint := sampleFingerprint } := by
  simp only [normalizeExecution, bind_eq_ok]
  refine ⟨"read_only", rfl, .readOnly, rfl, planId, hplanId, planHash,
    hplanHash, intentKey, hintent, snapshotHash, hhash, "", rfl, "", rfl, "",
    rfl, .ofNat 0, rfl, .ofNat 0, rfl, .ofNat 0, rfl, 0, rfl, 0, rfl, 0, rfl,
    sampleFingerprint, lower_sampleFingerprint, ?_⟩
  rfl

theorem exists_bystanders (agent : String) :
    ∃ planner reviewer : String,
      compact (.str planner) 191 = .ok planner ∧
      compact (.str reviewer) 191 = .ok reviewer ∧
      nonEmpty planner = some planner ∧ nonEmpty reviewer = some reviewer ∧
      planner ≠ reviewer ∧ planner ≠ agent ∧ reviewer ≠ agent := by
  by_cases hp : agent = "p"
  · subst hp
    exact ⟨"q", "r", rfl, rfl, rfl, rfl, by decide⟩
  · by_cases hq : agent = "q"
    · subst hq
      exact ⟨"p", "r", rfl, rfl, rfl, rfl, by decide⟩
    · exact ⟨"p", "q", rfl, rfl, rfl, rfl, by decide, Ne.symm hp, Ne.symm hq⟩

theorem exists_compact_of_mem {value : Val} {texts : List String}
    (h : normalizeStringList value = .ok texts) (hmem : text ∈ texts) :
    ∃ raw, compact raw 191 = .ok text := by
  cases value with
  | arr elems =>
    simp only [normalizeStringList, bind_eq_ok] at h
    obtain ⟨items, hitems, heq⟩ := h
    cases heq
    rw [mem_insertionSort, mem_eraseDups, mem_filter] at hmem
    obtain ⟨raw, -, hraw⟩ := exists_of_mem_mapM hitems hmem.1
    exact ⟨raw, hraw⟩
  | _ => cases h; cases hmem

theorem exists_snapshotHash_of_mem {value : Val} {scope : List ResourceEntry}
    (h : normalizeResourceScope value = .ok scope) {entry : ResourceEntry} (hmem : entry ∈ scope) :
    ∃ raw, lower raw 64 = .ok entry.snapshotHash := by
  cases value with
  | arr elems =>
    simp only [normalizeResourceScope, bind_eq_ok] at h
    obtain ⟨entries, hentries, heq⟩ := h
    cases heq
    obtain ⟨raw, -, hraw⟩ :=
      exists_of_mem_mapM hentries (mem_filter.mp hmem).1
    simp only [normalizeResourceEntry, bind_eq_ok] at hraw
    obtain ⟨uri, -, hash, hhash, heq⟩ := hraw
    cases heq
    exact ⟨raw.member "snapshot_hash", hhash⟩
  | _ => cases h; cases hmem

theorem Grant.Usable.exists_intent (h : grant.Usable rt) (hsome : grant.allowedIntents ≠ []) :
    ∃ intent ∈ grant.allowedIntents,
      grant.approvalMode = .delegatedLowRisk → intent ∉ reservedIntents := by
  by_cases hlow : grant.approvalMode = .delegatedLowRisk
  · obtain ⟨intent, hmem, hfree⟩ := h.lowRiskIntent hlow
    exact ⟨intent, hmem, fun _ => hfree⟩
  · obtain ⟨intent, hmem⟩ := exists_mem_of_ne_nil _ hsome
    exact ⟨intent, hmem, fun hmode => absurd hmode hlow⟩

/-- A certified read with every approval passes each approval mode that
dispatches at all. -/
theorem decideByMode_of_approved (hmode : grant.approvalMode ≠ .agentRecommendOnly)
    (hintent : grant.approvalMode = .delegatedLowRisk → execution.intentKey ∉ reservedIntents)
    (hread : execution.isMutation = false) (hrisk : execution.riskTier = .readOnly)
    (hcertified : execution.certifiedWorkflow = true)
    (happroval : exactApprovalSatisfied grant execution approval = true)
    (hexplicit : approval.explicitReservedActionApproval = true)
    (hreview : approval.reviewerApproved = true)
    (hreviewer : approval.reviewerId = actors.reviewerAgentId) :
    (decideByMode grant execution approval actors separated).dispatchAllowed = true := by
  unfold decideByMode
  cases hgrant : grant.approvalMode with
  | agentRecommendOnly => exact absurd hgrant hmode
  | userApprovalOnly => simp [hread]
  | agentQueueForApproval => simp [happroval]
  | delegatedLowRisk =>
    have hfree := hintent hgrant
    simp [hrisk, RiskTier.order, flag, hfree]
  | delegatedPlanBound => simp [happroval, hexplicit]
  | humanOnException => simp [hcertified]
  | multiAgentApproval => simp [hreview, hreviewer]

/-- Under a usable grant of which a canonical form exists, something is
dispatched. -/
theorem Grant.Usable.exists_dispatch {input : Val} (hgrant : normalizeGrant rt input = .ok grant)
    (hcanonical : canonical.ReadFrom rt input) (h : grant.Usable rt) :
    ∃ execution approval actors drift now,
      DispatchAllowed rt input execution approval actors drift now := by
  have hread := normalizeGrant_ok hgrant
  have hagrees := agrees_of_readFrom hread hcanonical
  have hsome : grant.allowedIntents ≠ [] := by
    rw [hagrees.allowedIntents]
    exact hcanonical.someIntent
  obtain ⟨entries, hentries, -, hentriesNe, -⟩ := hcanonical.resourceScope
  rw [hread.resourceScope] at hentries
  cases hentries
  obtain ⟨intentKey, hintentMem, hintentFree⟩ := h.exists_intent hsome
  obtain ⟨intent, hintent⟩ := exists_compact_of_mem hread.allowedIntents hintentMem
  obtain ⟨entry, hentry⟩ := exists_mem_of_ne_nil _ hentriesNe
  obtain ⟨hash, hhash⟩ := exists_snapshotHash_of_mem hread.resourceScope hentry
  obtain ⟨now, hbefore⟩ := h.unexpired
  obtain ⟨planner, reviewer, hplanner, hreviewer, hplannerSome, hreviewerSome,
    hdistinct, hplannerOther, hreviewerOther⟩ :=
    exists_bystanders grant.delegatedTo
  have hbySome : nonEmpty grant.delegatedBy = some grant.delegatedBy :=
    if_neg fun hempty => hread.principals (.inl hempty)
  have htoSome : nonEmpty grant.delegatedTo = some grant.delegatedTo :=
    if_neg fun hempty => hread.principals (.inr hempty)
  have happroval : normalizeApproval (fullApproval input reviewer) = .ok
      ⟨true, some grant.delegatedBy, some sampleFingerprint, true, true, some reviewer⟩ := by
    simp only [normalizeApproval, bind_eq_ok]
    refine ⟨grant.delegatedBy, hread.delegatedBy, sampleFingerprint,
      lower_sampleFingerprint, reviewer, hreviewer, ?_⟩
    rw [hbySome, hreviewerSome]
    rfl
  have hactors : normalizeActors (separateActors input planner reviewer) = .ok
      ⟨some planner, some reviewer, some grant.delegatedTo⟩ := by
    simp only [normalizeActors, bind_eq_ok]
    refine ⟨planner, hplanner, reviewer, hreviewer, grant.delegatedTo, hread.delegatedTo, ?_⟩
    rw [hplannerSome, hreviewerSome, htoSome]
  refine ⟨readingExecution input intent hash, fullApproval input reviewer,
    separateActors input planner reviewer, .obj [], now,
    dispatchAllowed_iff.mpr ⟨hcanonical.truthy, grant, _, _, _, hgrant,
      normalizeReadingExecution hread.planId hread.planHash hintent hhash,
      happroval, hactors, rfl, ?_⟩⟩
  refine
    { active := h.active
      unexpired := grantExpired_eq_false.mpr hbefore
      delegated := h.delegated
      readback := hread.requireReadback.trans hcanonical.requireReadback
      stopOnDrift := hread.stopOnDrift.trans hcanonical.stopOnDrift
      planId := rfl
      planHash := rfl
      allowedIntent := hintentMem
      notDenied := ?_
      resource := ?_
      risk := Nat.zero_le _
      mutations := by simp
      retries := Nat.zero_le _
      pullRequests := Nat.zero_le _
      mutationReadback := by simp
      executor := fun _ => rfl
      noSelfApproval := fun _ hself => h.delegated (Option.some.inj hself)
      separated := ?_
      mode := ?_ }
  · rw [hagrees.deniedIntents]
    rw [hagrees.allowedIntents] at hintentMem
    exact hcanonical.disjoint intentKey hintentMem
  · simp only [resourceBindingMatches, any_eq_true, beq_iff_eq]
    exact ⟨entry, hentry, rfl⟩
  · simp [separationOfDutiesBlockers, flag, hdistinct, hplannerOther, hreviewerOther]
  · apply decideByMode_of_approved h.dispatching hintentFree rfl rfl rfl ?_ rfl
      rfl rfl
    simp [exactApprovalSatisfied, h.delegated]

/-! ## What a renewal can widen -/

/-- A renewal that the policy allows lets nothing be dispatched that could not
be dispatched before, exactly when the requested grant is not usable or the
current one is active and spells the plan id the same way. -/
theorem renewal_widens_only_status_and_plan (rt : Runtime) (localeLe : String → String → Bool)
    (currentGrant requestedGrant approvedBy : Val) {current requested : Grant}
    (hcurrent : normalizeGrant rt currentGrant = .ok current)
    (hrequested : normalizeGrant rt requestedGrant = .ok requested) {renewal : RenewalDecision}
    (hrenewal : evaluateDelegationRenewalPolicy rt localeLe currentGrant
      requestedGrant approvedBy = .ok renewal) (hallowed : renewal.decision = .renewalAllowed) :
    (∀ execution approval actors drift now,
      DispatchAllowed rt requestedGrant execution approval actors drift now →
        DispatchAllowed rt currentGrant execution approval actors drift now) ↔
      (requested.Usable rt → current.status = "active" ∧ current.planId = requested.planId) := by
  obtain ⟨canonical, canonical', hcanonical, hcanonical', hblockers⟩ :=
    renewalBlockers_of_allowed hrenewal hallowed
  have hread := normalizeCanonicalGrant_ok hcanonical
  have hread' := normalizeCanonicalGrant_ok hcanonical'
  have hcurrentRead := normalizeGrant_ok hcurrent
  have hrequestedRead := normalizeGrant_ok hrequested
  have hwithin : requested.Within current :=
    within_of_renewalBlockers (agrees_of_readFrom hcurrentRead hread)
      (agrees_of_readFrom hrequestedRead hread')
      (hcurrentRead.requireReadback.trans hread.requireReadback)
      (hcurrentRead.stopOnDrift.trans hread.stopOnDrift) hblockers
  constructor
  · intro hall husable
    obtain ⟨execution, approval, actors, drift, now, hdispatch⟩ :=
      husable.exists_dispatch hrequested hread'
    have hbefore := hall execution approval actors drift now hdispatch
    rw [dispatchAllowed_iff] at hdispatch hbefore
    obtain ⟨-, _, e, _, _, hgrant, hexecution, -, -, -, hpermits⟩ := hdispatch
    obtain ⟨-, _, e', _, _, hgrant', hexecution', -, -, -, hpermits'⟩ := hbefore
    cases hrequested.symm.trans hgrant
    cases hcurrent.symm.trans hgrant'
    cases hexecution.symm.trans hexecution'
    exact ⟨hpermits'.active, hpermits'.planId.symm.trans hpermits.planId⟩
  · intro hsame execution approval actors drift now hdispatch
    rw [dispatchAllowed_iff] at hdispatch ⊢
    obtain ⟨-, _, e, a, ac, hgrant, hexecution, happroval, hactors, hdrift, hpermits⟩ := hdispatch
    cases hrequested.symm.trans hgrant
    obtain ⟨hactive, hplan⟩ := hsame hpermits.usable
    exact ⟨hread.truthy, current, e, a, ac, hcurrent, hexecution, happroval,
      hactors, hdrift, hpermits.of_within hwithin hactive hplan⟩

/-- A platform that knows two instants. -/
def twoInstants : Runtime where
  sha256 := fun _ => "digest"
  timeOf := fun
    | .str "2026-07-31T09:00:00.000Z" => some 9
    | .str "2026-07-31T10:00:00.000Z" => some 10
    | _ => none
  isoString := fun t =>
    if t = 9 then "2026-07-31T09:00:00.000Z" else "2026-07-31T10:00:00.000Z"

/-- A grant of `user-1` to `agent-1`. -/
def sampleGrant (status : CanonicalStatus) (maxMutations : Nat) : CanonicalGrant where
  grantId := "11111111-1111-4111-8111-111111111111"
  delegatedBy := "user-1"
  delegatedTo := "agent-1"
  approvalMode := .policy .delegatedPlanBound
  planId := "22222222-2222-4222-8222-222222222222"
  planHash := sampleFingerprint
  resourceScope := [⟨"github://owner/repo", sampleFingerprint⟩]
  allowedIntents := ["repo.patch.apply"]
  deniedIntents := []
  maxRiskTier := .medium
  limits := ⟨maxMutations, 1, 1⟩
  policyVersion := none
  status := status
  createdAt := none
  expiresAt := 10
  revokedAt := none

def sampleInput (status : CanonicalStatus) (maxMutations : Nat) : Val :=
  (sampleGrant status maxMutations).toVal twoInstants

theorem normalizeGrant_sample {maxMutations : Nat} (h : maxMutations = 1 ∨ maxMutations = 2) :
    ∃ grant, normalizeGrant twoInstants (sampleInput .active maxMutations) = .ok grant ∧
      grant.status = "active" ∧ grant.planId = "22222222-2222-4222-8222-222222222222" := by
  rcases h with rfl | rfl <;> exact exists_ok_of_any (by decide +kernel)

/-- A read of the granted plan. -/
def sampleExecution : Val :=
  readingExecution (sampleInput .active 1) (.str "repo.patch.apply") (.str sampleFingerprint)

/-- A revoked grant is renewed as an active one: nothing could be dispatched
under it any more, and now a step is. -/
theorem revoked_grant_renewed_active :
    (∃ renewal, evaluateDelegationRenewalPolicy twoInstants
        (fun a b => keyLe a b) (sampleInput .revoked 1) (sampleInput .active 1)
        (.str "user-1") = .ok renewal ∧
      renewal.decision = .renewalAllowed) ∧
      DispatchAllowed twoInstants (sampleInput .active 1) sampleExecution
        (.obj []) (.obj []) (.obj []) (.str "2026-07-31T09:00:00.000Z") ∧
      ¬DispatchAllowed twoInstants (sampleInput .revoked 1) sampleExecution
        (.obj []) (.obj []) (.obj []) (.str "2026-07-31T09:00:00.000Z") := by
  exact ⟨exists_ok_of_any (by decide +kernel), by decide +kernel, by decide +kernel⟩

/-- Renewing an active grant with fewer mutations lets nothing new be
dispatched. -/
theorem renewal_widens_only_status_and_plan_narrowed :
    (∃ renewal, evaluateDelegationRenewalPolicy twoInstants
        (fun a b => keyLe a b) (sampleInput .active 2) (sampleInput .active 1)
        (.str "user-1") = .ok renewal ∧
      renewal.decision = .renewalAllowed) ∧
      ¬∃ execution approval actors drift now,
        DispatchAllowed twoInstants (sampleInput .active 1) execution approval actors drift now ∧
        ¬DispatchAllowed twoInstants (sampleInput .active 2) execution approval
          actors drift now := by
  obtain ⟨renewal, hrenewal, hdecision⟩ : ∃ renewal, evaluateDelegationRenewalPolicy twoInstants
      (fun a b => keyLe a b) (sampleInput .active 2) (sampleInput .active 1)
      (.str "user-1") = .ok renewal ∧ renewal.decision = .renewalAllowed :=
    exists_ok_of_any (by decide +kernel)
  refine ⟨⟨renewal, hrenewal, hdecision⟩, ?_⟩
  rintro ⟨execution, approval, actors, drift, now, hnew, hold⟩
  obtain ⟨current, hcurrent, hactive, hplan⟩ := normalizeGrant_sample (.inr rfl)
  obtain ⟨requested, hrequested, -, hplan'⟩ := normalizeGrant_sample (.inl rfl)
  apply hold
  exact (renewal_widens_only_status_and_plan twoInstants _ _ _ _ hcurrent hrequested hrenewal
    hdecision).mpr (fun _ => ⟨hactive, hplan.trans hplan'.symm⟩) execution approval actors drift
    now hnew

end GrowthOs.Delegation
