import GrowthOs.Delegation.Dispatch
import GrowthOs.Execution.ApprovalGate
import Mathlib.Data.List.Perm.Subperm

/-!
# Executing a plan under one delegation grant

The policy is asked about one step at a time, and what it is told about the run
so far is stored with the step: how many mutations have been made, whether the
step is one, and what time it is.  If every step that is about to be handed out
reports at least what is true, the plan stays within its grant over the whole
run; if not, neither the limit nor the expiry of the grant means anything.
-/

namespace GrowthOs.Execution

open Js SequentialPlan Delegation Throwing Transition List

/-! ## What a step reports -/

def grantOf (row : StepRow) : Val :=
  (parseObject row.approvalPolicyJson).member "delegation_grant"

/-- The `delegation_execution` context stored with the step. -/
def contextOf (row : StepRow) : Val :=
  parseObject ((parseObject row.approvalPolicyJson).member "delegation_execution")

/-- The number of earlier mutations the context reports, if it is a number. -/
def reportedMutations (row : StepRow) : Option Nat :=
  match ((((contextOf row).member "usage").member "mutation_count").or
      (.num (.ofNat 0))).toNumber with
  | .ok count => naturalOf count
  | .error _ => none

/-- The workflow steps of the plan that have been claimed. -/
def startedWorkflows (s : Store) (planId : String) : List StepRow :=
  (stepsOf s planId).filter fun row =>
    row.stepType == .workflow && decide (0 < row.attemptCount)

/-- The context of `next` does not deny that a workflow step is a mutation,
counts at least the other workflow steps that have been claimed, and does not
put the clock back. -/
structure TruthfulContext (rt : Runtime) (clock : Int) (planId : String)
    (s : Store) (next : StepRow) : Prop where
  mutation : next.stepType = .workflow →
    ((contextOf next).member "is_mutation").isUndefined = true ∨
      ((contextOf next).member "is_mutation").isTrue = true
  usage : next.stepType = .workflow → ∀ reported ∈ reportedMutations next,
    ((startedWorkflows s planId).filter fun row =>
      row.planStepId != next.planStepId).length ≤ reported
  time : ((contextOf next).member "now").truthy = true →
    ∀ t ∈ rt.timeOf ((contextOf next).member "now"), clock ≤ t

/-- A claim that would hand out a step finds a truthful context in it. -/
def ReportsTruly (rt : Runtime) (planId : String) (w : World) (e : Event) : Prop :=
  match e.op with
  | .claim clock target actorId _ _ => target = planId →
      ∀ next, WouldDispatch rt clock planId actorId w.store next →
        TruthfulContext rt clock planId w.store next
  | _ => True

variable {rt : Runtime} {planId : String} {actorId : Option String} {s : Store} {clock : Int}
  {grant : Grant}

theorem ReportsTruly.context {w : World} {e : Event} {next : StepRow} {holdId token : String}
    (h : ReportsTruly rt planId w e) (hclaim : e.op = .claim clock planId actorId holdId token)
    (hwould : WouldDispatch rt clock planId actorId w.store next) :
    TruthfulContext rt clock planId w.store next := by
  unfold ReportsTruly at h
  rw [hclaim] at h
  exact h rfl next hwould

/-- A dispatched step with a grant passed the execution policy, which was told
what its context says. -/
theorem permits_of_wouldDispatch {next : StepRow} {input : Val}
    (h : WouldDispatch rt clock planId actorId s next) (hinput : grantOf next = input)
    (htruthy : input.truthy = true) (hgrant : normalizeGrant rt input = .ok grant) :
    ∃ execution approval actors,
      grant.Permits execution approval actors (rt.timeOf (((contextOf next).member "now").or
          (.str (rt.isoString clock)))) ∧
      execution.isMutation = (if ((contextOf next).member "is_mutation").isUndefined then
          decide (next.stepType = .workflow)
        else ((contextOf next).member "is_mutation").isTrue) ∧
      execution.mutationCount ∈ reportedMutations next := by
  obtain ⟨plan, decision, -, -, -, hadmitted⟩ := h
  simp only [admission, bind_eq_ok] at hadmitted
  obtain ⟨found, hevaluate, hadmitted⟩ := hadmitted
  unfold evaluateSequentialStepDelegationPolicy at hevaluate
  subst hinput
  have htruthy' : ((parseObject next.approvalPolicyJson).member
      "delegation_grant").truthy = true := htruthy
  simp only [htruthy', Bool.not_true, Bool.false_eq_true, if_false]
    at hevaluate
  cases found with
  | none =>
    -- A step with a grant always gets a decision.
    simp only [evaluateDelegationExecutionPolicy, htruthy', Bool.not_true,
      Bool.false_eq_true, if_false, bind_eq_ok] at hevaluate
    obtain ⟨_, -, _, -, _, -, _, -, _, -, hnone⟩ := hevaluate
    split at hnone <;> cases hnone
  | some d =>
    have hallowed : d.dispatchAllowed = true := by
      by_contra hnot
      simp only [hnot, if_false] at hadmitted
      split at hadmitted <;> cases hadmitted
    obtain ⟨-, found, execution, approval, actors, hfound, hexecution, -, -,
      -, hpermits⟩ := dispatchAllowed_iff.mp ⟨d, hevaluate, hallowed⟩
    obtain rfl : found = grant := Except.ok.inj (hfound.symm.trans hgrant)
    obtain ⟨hmutation, count, hcount, hnatural⟩ :=
      normalizeExecution_mutation hexecution
    refine ⟨execution, approval, actors, hpermits, hmutation, ?_⟩
    have hreported : ((((contextOf next).member "usage").member
        "mutation_count").or (.num (.ofNat 0))).toNumber = .ok count := hcount
    unfold reportedMutations
    simp only [hreported]
    exact hnatural

/-! ## Where an attempt comes from -/

variable {row' row : StepRow} {fresh : Option String}

theorem attemptCount_of_rowStep (h : RowStep s fresh row row') :
    row.attemptCount ≤ row'.attemptCount ∧
      (fresh = none → row'.attemptCount = row.attemptCount) := by
  cases h with
  | claim hready hfresh =>
    refine ⟨Nat.le_succ _, fun hnone => ?_⟩
    rw [hnone] at hfresh
    cases hfresh
  | _ => exact ⟨Nat.le_refl _, fun _ => rfl⟩

/-- Attempts are never taken back, and only a claim makes one. -/
theorem attemptCount_of_rowSteps (h : RowSteps s fresh row row') :
    row.attemptCount ≤ row'.attemptCount ∧
      (fresh = none → row'.attemptCount = row.attemptCount) := by
  refine h.invariant (P := fun r => row.attemptCount ≤ r.attemptCount ∧
    (fresh = none → r.attemptCount = row.attemptCount)) ?_
    ⟨Nat.le_refl _, fun _ => rfl⟩
  intro r r' hstep hr
  obtain ⟨hle, hsame⟩ := attemptCount_of_rowStep hstep
  exact ⟨hr.1.trans hle, fun hnone => (hsame hnone).trans (hr.2 hnone)⟩

/-! ## Staying within the grant -/

/-- `new Date(new Date(t).toISOString()).getTime()` is `t`. -/
def IsoDates (rt : Runtime) : Prop :=
  ∀ t, rt.timeOf (.str (rt.isoString t)) = some t

def startedIds (s : Store) (planId : String) : List String :=
  (startedWorkflows s planId).map fun row => row.planStepId

theorem mem_startedIds {id : String} :
    id ∈ startedIds s planId ↔ ∃ row ∈ stepsOf s planId,
      row.stepType = .workflow ∧ 0 < row.attemptCount ∧ row.planStepId = id := by
  simp [startedIds, startedWorkflows, and_assoc]

theorem startedIds_nodup (hs : s.WellFormed) (planId : String) : (startedIds s planId).Nodup := by
  have hsub : (startedIds s planId).Sublist (s.steps.map fun row => row.planStepId) :=
    (filter_sublist.trans filter_sublist).map _
  exact List.Nodup.sublist hsub hs.stepIds

/-- The plan has been executed within the grant so far. -/
structure WithinGrant (planId : String) (input : Val) (grant : Grant)
    (history : List Event) (w : World) : Prop where
  wellFormed : w.WellFormed
  carried : ∀ row ∈ stepsOf w.store planId, grantOf row = input
  started : ∀ e ∈ history, ∀ row, Dispatches planId row e →
    row.stepType = .workflow → row.planStepId ∈ startedIds w.store planId
  limited : (startedIds w.store planId).length ≤ grant.limits.maxMutations
  timely : ∀ e ∈ history, ∀ clock actorId holdId claimToken row,
    e.op = .claim clock planId actorId holdId claimToken →
      Dispatches planId row e → clock < grant.expiresAt

section Step

variable {w w' : World} {e : Event} {input : Val} {history : List Event}

variable {next : StepRow} {id : String}

section Started

variable (hw : w.WellFormed) (hstep : Step rt w e w') (hop : e.op.executes = true)

include hw hstep hop

theorem startedIds_mono (hid : id ∈ startedIds w.store planId) :
    id ∈ startedIds w'.store planId := by
  obtain ⟨row, hrow, htype, hattempts, rfl⟩ := mem_startedIds.mp hid
  rw [mem_stepsOf] at hrow
  obtain ⟨row', hrow', hsteps⟩ := (hstep.rowSteps hw hop).image hrow.1
  have hspec := hsteps.toStepSpec_eq
  refine mem_startedIds.mpr ⟨row', mem_stepsOf.mpr ⟨hrow', ?_⟩, ?_,
    Nat.lt_of_lt_of_le hattempts (attemptCount_of_rowSteps hsteps).1, ?_⟩
  · rw [hspec]
    exact hrow.2
  · rw [hspec]
    exact htype
  · rw [hspec]

/-- A started step was started before, or a claim on the plan has just handed
it out. -/
theorem startedIds_origin (hid : id ∈ startedIds w'.store planId) :
    id ∈ startedIds w.store planId ∨ ∃ clock actorId holdId claimToken next,
      e.op = .claim clock planId actorId holdId claimToken ∧
      WouldDispatch rt clock planId actorId w.store next ∧
      id = next.planStepId ∧ next.stepType = .workflow := by
  obtain ⟨row', hrow', htype, hattempts, rfl⟩ := mem_startedIds.mp hid
  obtain ⟨row, hrow, hsteps⟩ | ⟨_, _, _, _, next, hclaim, hwould, rfl⟩ :=
    hstep.row_source hw hop hrow'
  · have hcount := (attemptCount_of_rowSteps hsteps).2 rfl
    rw [hsteps.toStepSpec_eq] at htype ⊢
    exact .inl (mem_startedIds.mpr ⟨row, hrow, htype, hcount ▸ hattempts, rfl⟩)
  · exact .inr ⟨_, _, _, _, next, hclaim, hwould, rfl, htype⟩

/-- The started steps after a claim that hands out `next`. -/
theorem startedIds_of_dispatch (hwould : WouldDispatch rt clock planId actorId w.store next)
    (hid : id ∈ startedIds w'.store planId) :
    id ∈ startedIds w.store planId ∨ id = next.planStepId ∧ next.stepType = .workflow := by
  obtain hold | ⟨_, _, _, _, next', -, hwould', rfl, htype⟩ :=
    startedIds_origin hw hstep hop hid
  · exact .inl hold
  · obtain ⟨_, _, _, _, hnext, -⟩ := hwould
    obtain ⟨_, _, _, _, hnext', -⟩ := hwould'
    cases hnext.symm.trans hnext'
    exact .inr ⟨rfl, htype⟩

end Started

section

variable (h : WithinGrant planId input grant history w)

include h

theorem WithinGrant.carried_next (hnext : w.store.firstReady planId = some next) :
    grantOf next = input := by
  obtain ⟨hmem, hplan, -⟩ := firstReady_mem hnext
  obtain hold | ⟨row, hrow⟩ := promote_origin hmem
  · exact h.carried next (mem_stepsOf.mpr ⟨hold, hplan⟩)
  · obtain ⟨hold, hplan, -, -, rfl⟩ := hrow
    exact h.carried row (mem_stepsOf.mpr ⟨hold, hplan⟩)

theorem WithinGrant.carried_step (hstep : Step rt w e w') (hop : e.op.executes = true) :
    ∀ row ∈ stepsOf w'.store planId, grantOf row = input := by
  intro row' hrow'
  obtain ⟨row, hrow, hchange⟩ :=
    hstep.origin h.wellFormed hop hrow'
  exact ((sameGate_rowChange hchange).grant).trans (h.carried row hrow)

theorem WithinGrant.started_step (hstep : Step rt w e w') (hop : e.op.executes = true) :
    ∀ a ∈ history ++ [e], ∀ row, Dispatches planId row a →
      row.stepType = .workflow → row.planStepId ∈ startedIds w'.store planId := by
  intro a ha row hdispatch htype
  rcases mem_append.mp ha with ha | ha
  · exact startedIds_mono h.wellFormed hstep hop (h.started a ha row hdispatch htype)
  · obtain rfl := mem_singleton.mp ha
    obtain ⟨_, _, _, claimToken, _, next, -, hrow, hfrom⟩ :=
      hstep.dispatchedFrom h.wellFormed hdispatch
    refine mem_startedIds.mpr ⟨_, hfrom.mem, ?_, Nat.succ_pos _, ?_⟩
    · rw [hrow] at htype
      exact htype
    · rw [admittedRow_toStepSpec, hrow]

theorem WithinGrant.carried_would (hwould : WouldDispatch rt clock planId actorId w.store next) :
    grantOf next = input := by
  obtain ⟨_, _, _, _, hnext, -⟩ := hwould
  exact h.carried_next hnext

variable (htruthy : input.truthy = true) (hgrant : normalizeGrant rt input = .ok grant)

include htruthy hgrant

theorem WithinGrant.limited_step (hstep : Step rt w e w') (hop : e.op.executes = true)
    (hreports : ReportsTruly rt planId w e) :
    (startedIds w'.store planId).length ≤ grant.limits.maxMutations := by
  have hnodup := startedIds_nodup (hstep.wellFormed h.wellFormed).store planId
  have hbound : ∀ ids : List String, startedIds w'.store planId ⊆ ids →
      (startedIds w'.store planId).length ≤ ids.length :=
    fun _ hsub => (subperm_of_subset hnodup hsub).length_le
  by_cases hclaims : ∃ clock actorId holdId claimToken next,
      e.op = .claim clock planId actorId holdId claimToken ∧
        WouldDispatch rt clock planId actorId w.store next
  · obtain ⟨clock, actorId, holdId, claimToken, next, hclaim, hwould⟩ := hclaims
    have horigin : ∀ {id : String}, id ∈ startedIds w'.store planId →
        id ∈ startedIds w.store planId ∨ id = next.planStepId ∧ next.stepType = .workflow :=
      startedIds_of_dispatch h.wellFormed hstep hop hwould
    by_cases htype : next.stepType = .workflow
    · have htruthful := hreports.context hclaim hwould
      obtain ⟨execution, _, _, hpermits, hmutation, hreported⟩ :=
        permits_of_wouldDispatch hwould (h.carried_would hwould) htruthy hgrant
      have hcounted := htruthful.usage htype _ hreported
      have hmutates : execution.isMutation = true := by
        rw [hmutation]
        rcases htruthful.mutation htype with hundefined | htrue
        · simp [hundefined, htype]
        · split
          · simp [htype]
          · exact htrue
      have hbelow := hpermits.mutations hmutates
      -- The new step apart, every started step was counted by the context.
      have hsub : startedIds w'.store planId ⊆ next.planStepId ::
          ((startedWorkflows w.store planId).filter fun row =>
            row.planStepId != next.planStepId).map fun row =>
              row.planStepId := by
        intro id hid
        rcases horigin hid with hold | ⟨rfl, -⟩
        · by_cases hsame : id = next.planStepId
          · rw [hsame]
            exact mem_cons_self
          · obtain ⟨row, hrow, rfl⟩ := mem_map.mp hold
            apply mem_cons_of_mem
            apply mem_map_of_mem
            exact mem_filter.mpr ⟨hrow, by simpa using hsame⟩
        · exact mem_cons_self
      have hlength := hbound _ hsub
      rw [length_cons, length_map] at hlength
      omega
    · refine (hbound _ fun id hid => ?_).trans h.limited
      exact (horigin hid).resolve_right fun hnew => htype hnew.2
  · refine (hbound _ fun id hid => ?_).trans h.limited
    obtain hold | ⟨_, _, _, _, next, hclaim, hwould, -⟩ :=
      startedIds_origin h.wellFormed hstep hop hid
    · exact hold
    · exact absurd ⟨_, _, _, _, next, hclaim, hwould⟩ hclaims

theorem WithinGrant.timely_step (hdates : IsoDates rt) (hstep : Step rt w e w')
    (hreports : ReportsTruly rt planId w e) :
    ∀ a ∈ history ++ [e], ∀ clock actorId holdId claimToken row,
      a.op = .claim clock planId actorId holdId claimToken →
        Dispatches planId row a → clock < grant.expiresAt := by
  intro a ha clock actorId holdId claimToken row hclaim hdispatch
  rcases mem_append.mp ha with ha | ha
  · exact h.timely a ha clock actorId holdId claimToken row hclaim hdispatch
  · obtain rfl := mem_singleton.mp ha
    obtain ⟨_, _, _, _, _, next, hclaim', -, hfrom⟩ :=
      hstep.dispatchedFrom h.wellFormed hdispatch
    cases hclaim.symm.trans hclaim'
    have hwould := hfrom.wouldDispatch
    obtain ⟨_, _, _, hpermits, -, -⟩ :=
      permits_of_wouldDispatch hwould (h.carried_would hwould) htruthy hgrant
    obtain ⟨t, htime, hbefore⟩ := grantExpired_eq_false.mp hpermits.unexpired
    by_cases hnow : ((contextOf next).member "now").truthy = true
    · rw [Val.or, if_pos hnow] at htime
      exact ((hreports.context hclaim hwould).time hnow t htime).trans_lt hbefore
    · rw [Val.or, if_neg hnow, hdates clock] at htime
      exact Option.some.inj htime ▸ hbefore

theorem WithinGrant.step (hdates : IsoDates rt) (hstep : Step rt w e w')
    (hop : e.op.executes = true) (hreports : ReportsTruly rt planId w e) :
    WithinGrant planId input grant (history ++ [e]) w' :=
  ⟨hstep.wellFormed h.wellFormed, h.carried_step hstep hop, h.started_step hstep hop,
    h.limited_step htruthy hgrant hstep hop hreports,
    h.timely_step htruthy hgrant hdates hstep hreports⟩

end

end Step

theorem withinGrant_compiled {w w₀ : World} {uuids : Nat → String} {tenantId : String}
    {steps : Val} {response : CompileResponse} {input : Val} (hw : w.WellFormed)
    (h : Step rt w (compiledEvent uuids planId tenantId steps actorId response) w₀)
    (hcarried : ∀ row ∈ stepsOf w₀.store planId, grantOf row = input) :
    WithinGrant planId input grant [] w₀ := by
  obtain ⟨stored, hcompile⟩ := h.compiled hw
  have hnone : startedIds w₀.store planId = [] := by
    apply eq_nil_iff_forall_not_mem.mpr
    intro id hid
    obtain ⟨row, hrow, -, hattempts, -⟩ := mem_startedIds.mp hid
    rw [stepsOf_compile hcompile] at hrow
    have hzero := (hcompile.fresh row hrow).attemptCount_eq
    omega
  refine ⟨h.wellFormed hw, hcarried, ?_, ?_, ?_⟩
  · intro e he
    cases he
  · rw [hnone]
    exact Nat.zero_le _
  · intro e he
    cases he

/-- The workflow steps with the ids `ids` have all been claimed. -/
def ClaimedIn (history : List Event) (planId : String) (ids : List String) : Prop :=
  ∀ id ∈ ids, ∃ e ∈ history, ∃ row, Dispatches planId row e ∧
    row.planStepId = id ∧ row.stepType = .workflow

/-- In every run of a plan whose steps carry one grant, in which every step that
is handed out reports the run truthfully, no more workflow steps are claimed
than the grant allows, and none at or after its expiry. -/
theorem delegated_run_within_grant (rt : Runtime) (hdates : IsoDates rt)
    {w w₀ w' : World} {uuids : Nat → String} {planId tenantId : String}
    {steps : Val} {actorId : Option String} {response : CompileResponse}
    {history : List Event} {input : Val} {grant : Grant} (hreach : Reachable rt w)
    (hcompile : Step rt w (compiledEvent uuids planId tenantId steps actorId response) w₀)
    (hcarried : ∀ row ∈ stepsOf w₀.store planId, grantOf row = input)
    (htruthy : input.truthy = true) (hgrant : normalizeGrant rt input = .ok grant)
    (hrun : Run (restrict (Step rt) fun v e =>
      e.op.executes = true ∧ ReportsTruly rt planId v e) w₀ history w') :
    (∀ ids : List String, ids.Nodup → ClaimedIn history planId ids →
      ids.length ≤ grant.limits.maxMutations) ∧
    ∀ e ∈ history, ∀ clock actorId holdId claimToken row,
      e.op = .claim clock planId actorId holdId claimToken →
        Dispatches planId row e → clock < grant.expiresAt := by
  have hfirst : WithinGrant planId input grant [] w₀ :=
    withinGrant_compiled hreach.wellFormed hcompile hcarried
  have hwithin := hrun.history (I := fun history v => WithinGrant planId input grant history v)
    (fun history v e v' hv hstep =>
      hv.step htruthy hgrant hdates hstep.1 hstep.2.1 hstep.2.2)
    hfirst
  refine ⟨?_, hwithin.timely⟩
  intro ids hnodup hclaimed
  have hsub : ids ⊆ startedIds w'.store planId := by
    intro id hid
    obtain ⟨e, he, row, hdispatch, rfl, htype⟩ := hclaimed id hid
    exact hwithin.started e he row hdispatch htype
  exact (subperm_of_subset hnodup hsub).length_le.trans hwithin.limited

/-! ## A plan of two writes under a grant for one -/

/-- Milliseconds as marks, those before the epoch as dashes. -/
def readTally (marks : List Char) : Option Int :=
  if marks.all fun c => c == '+' || c == '-' then some (marks.count '+' - marks.count '-')
  else none

/-- The dates of the plan below are ISO texts, other times tallies. -/
def tallyRuntime : Runtime where
  sha256 := id
  timeOf := fun
    | .str s => (readTally s.toList).or
        (if s = "1970-01-01T00:00:00.001Z" then some 1
        else if s = "1970-01-01T00:00:00.004Z" then some 4 else none)
    | _ => none
  isoString := fun t =>
    if t = 1 then "1970-01-01T00:00:00.001Z" else if t = 4 then "1970-01-01T00:00:00.004Z"
    else String.ofList (replicate t.toNat '+' ++ replicate (-t).toNat '-')

theorem isoDates_tallyRuntime : IsoDates tallyRuntime := by
  intro t
  by_cases hone : t = 1
  · rw [hone]
    rfl
  by_cases hfour : t = 4
  · rw [hfour]
    rfl
  have hread : readTally (replicate t.toNat '+' ++ replicate (-t).toNat '-') = some t := by
    have hcount : max t 0 - max (-t) 0 = t := by omega
    simp [readTally, count_replicate, hcount]
  simp only [tallyRuntime, if_neg hone, if_neg hfour, String.toList_ofList, hread, Option.some_or]

def sampleDigest : String :=
  "0000000000000000000000000000000000000000000000000000000000000000"

/-- A grant for one mutation until time 4. -/
def oneWriteGrant : Val :=
  .obj [("status", .str "active"), ("delegated_by", .str "user"), ("delegated_to", .str "agent"),
    ("approval_mode", .str "delegated_plan_bound"), ("plan_id", .str "plan"),
    ("resource_scope", .arr [.obj [("resource_uri", .str "repo"),
        ("snapshot_hash", .str sampleDigest)]]),
    ("allowed_intents", .arr [.str "apply"]), ("max_risk_tier", .str "low"),
    ("limits", .obj [("max_mutations", .num (.ofNat 1))]),
    ("require_readback", .bool true), ("stop_on_drift", .bool true),
    ("expires_at", .str "1970-01-01T00:00:00.004Z")]

/-- The policy of a write that reports no usage and the time 1. -/
def oneWritePolicy : Val :=
  .obj [("delegation_grant", oneWriteGrant), ("delegation_execution",
      .obj [("intent_key", .str "apply"), ("resource_snapshot_hash", .str sampleDigest),
        ("readback_supported", .bool true), ("now", .str "1970-01-01T00:00:00.001Z")])]

def twoWrites : List Val :=
  [describeStep "first" [] [("approval_policy", oneWritePolicy)],
    describeStep "second" [] [("approval_policy", oneWritePolicy)]]

def writeRow (planStepId stepKey : String) (stepOrder : Nat) (status : StepStatus) : StepRow where
  planStepId := planStepId
  planId := "plan"
  tenantId := "tenant"
  stepOrder := stepOrder
  stepKey := stepKey
  stepType := .workflow
  workflowId := .null
  workflowKey := .null
  dependsOn := []
  inputJson := .obj []
  successCriteriaJson := .obj [("result_ok", .bool true)]
  retryPolicyJson := .obj [("max_attempts", .num (.ofNat 1))]
  maxAttempts := 1
  idempotencyKey := "plan|" ++ stepKey
  approvalPolicyJson := oneWritePolicy
  status := status
  attemptCount := 0
  claimToken := none
  outputJson := .null
  errorJson := .null

/-- The plan as it is compiled. -/
def twoWritesWorld : World where
  store :=
    { draftWorld.store with
      plans := [draftPlan.withStatus .validated]
      steps :=
        [writeRow "step0" "first" 1 .ready, writeRow "step1" "second" 2 .pending]
      events := (draftWorld.perform tallyRuntime (compileOp "step" twoWrites)).store.events }
  issued := ["step0", "step1"]

theorem step_twoWritesWorld :
    ∃ response, Step tallyRuntime draftWorld (compiledEvent (numbered "step")
      "plan" "tenant" (.arr twoWrites) none response) twoWritesWorld :=
  ⟨_, ⟨rfl, by decide, by decide, rfl⟩⟩

theorem twoWrites_carried :
    ∀ row ∈ stepsOf twoWritesWorld.store "plan", grantOf row = oneWriteGrant := by
  intro row hrow
  obtain ⟨hmem, -⟩ := mem_stepsOf.mp hrow
  rcases mem_cons.mp hmem with rfl | hmem
  · rfl
  · obtain rfl := mem_singleton.mp hmem
    rfl

theorem oneWriteGrant_ok :
    ∃ grant, normalizeGrant tallyRuntime oneWriteGrant = .ok grant ∧
      grant.limits.maxMutations = 1 ∧ grant.expiresAt = 4 :=
  ⟨_, rfl, rfl, rfl⟩

/-- Claim the plan at the time `clock`. -/
def claimAt (clock : Int) (holdId claimToken : String) : Op :=
  .claim clock "plan" none holdId claimToken

def secondClaimWorld : World :=
  twoWritesWorld.perform tallyRuntime (claimAt 9 "hold1" "token1")

/-- Both writes are handed out at time 9. -/
theorem both_writes_dispatched :
    (∃ row, Dispatches "plan" row (twoWritesWorld.event tallyRuntime (claimAt 9 "hold1" "token1")) ∧
      row.planStepId = "step0" ∧ row.stepType = .workflow) ∧
    ∃ row, Dispatches "plan" row
        (secondClaimWorld.event tallyRuntime (claimAt 9 "hold2" "token2")) ∧
      row.planStepId = "step1" ∧ row.stepType = .workflow :=
  ⟨⟨_, ⟨9, none, "hold1", "token1", _, rfl, rfl⟩, rfl, rfl⟩,
    ⟨_, ⟨9, none, "hold2", "token2", _, rfl, rfl⟩, rfl, rfl⟩⟩

/-- Two writes are claimed under a grant for one, and after its expiry: neither
step reports the usage of the grant, and both carry a time of their own. -/
theorem grant_overrun_by_stored_context :
    ∃ response grant history w,
      Step tallyRuntime draftWorld (compiledEvent (numbered "step") "plan"
        "tenant" (.arr twoWrites) none response) twoWritesWorld ∧
      (∀ row ∈ stepsOf twoWritesWorld.store "plan", grantOf row = oneWriteGrant) ∧
      normalizeGrant tallyRuntime oneWriteGrant = .ok grant ∧
      Run (restrict (Step tallyRuntime) fun _ e => e.op.executes = true) twoWritesWorld history w ∧
      (ClaimedIn history "plan" ["step0", "step1"] ∧ grant.limits.maxMutations < 2) ∧
      ∃ e ∈ history, ∃ row, e.op = claimAt 9 "hold1" "token1" ∧
        Dispatches "plan" row e ∧ grant.expiresAt ≤ 9 := by
  obtain ⟨response, hcompile⟩ := step_twoWritesWorld
  obtain ⟨grant, hgrant, hlimit, hexpiry⟩ := oneWriteGrant_ok
  obtain ⟨⟨row, hrow, hid, htype⟩, ⟨row', hrow', hid', htype'⟩⟩ :=
    both_writes_dispatched
  have hplays : twoWritesWorld.Plays tallyRuntime (fun _ e => e.op.executes = true)
      [claimAt 9 "hold1" "token1", claimAt 9 "hold2" "token2"] := by
    decide
  refine ⟨response, grant, _, _, hcompile, twoWrites_carried, hgrant,
    run_play hplays, ⟨?_, by omega⟩, _, mem_cons_self, row, rfl, hrow,
    by omega⟩
  intro id hmem
  rcases mem_cons.mp hmem with rfl | hmem
  · exact ⟨_, mem_cons_self, row, hrow, hid, htype⟩
  · obtain rfl := mem_singleton.mp hmem
    exact ⟨_, mem_cons_of_mem _ mem_cons_self, row', hrow', hid', htype'⟩

/-- A first claim at time 1 finds a truthful context. -/
theorem delegated_run_within_grant_oneWrite :
    (∃ row, Dispatches "plan" row (twoWritesWorld.event tallyRuntime (claimAt 1 "hold1" "token1")) ∧
      row.stepType = .workflow) ∧
      ∃ grant, normalizeGrant tallyRuntime oneWriteGrant = .ok grant ∧
        1 < grant.expiresAt ∧
        ¬ClaimedIn (twoWritesWorld.events tallyRuntime
          [claimAt 1 "hold1" "token1"]) "plan" ["step0", "step1"] := by
  obtain ⟨response, hcompile⟩ := step_twoWritesWorld
  obtain ⟨grant, hgrant, hlimit, -⟩ := oneWriteGrant_ok
  have hdispatch : ∃ row, Dispatches "plan" row
      (twoWritesWorld.event tallyRuntime (claimAt 1 "hold1" "token1")) ∧ row.stepType = .workflow :=
    ⟨_, ⟨1, none, "hold1", "token1", _, rfl, rfl⟩, rfl⟩
  have hreports : ReportsTruly tallyRuntime "plan" twoWritesWorld
      (twoWritesWorld.event tallyRuntime (claimAt 1 "hold1" "token1")) := by
    intro _ next hwould
    obtain ⟨_, _, _, _, hnext, -⟩ := hwould
    obtain rfl : writeRow "step0" "first" 1 .ready = next :=
      Option.some.inj hnext
    refine ⟨fun _ => .inl rfl, ?_, ?_⟩
    · intro _ reported _
      exact Nat.zero_le reported
    · intro _ t ht
      obtain rfl : (1 : Int) = t := Option.some.inj ht
      exact Int.le_refl 1
  have hplays : twoWritesWorld.Plays tallyRuntime
      (fun v e => e.op.executes = true ∧ ReportsTruly tallyRuntime "plan" v e)
      [claimAt 1 "hold1" "token1"] :=
    ⟨⟨by decide, rfl, hreports⟩, trivial⟩
  have hrun := run_play hplays
  obtain ⟨hlimited, htimely⟩ := delegated_run_within_grant tallyRuntime
    isoDates_tallyRuntime (reachable_draftWorld tallyRuntime) hcompile
    twoWrites_carried rfl hgrant hrun
  refine ⟨hdispatch, grant, hgrant, ?_, ?_⟩
  · obtain ⟨row, hrow, -⟩ := hdispatch
    exact htimely _ mem_cons_self 1 none "hold1" "token1" row rfl hrow
  · intro hclaimed
    have hle := hlimited _ (by decide) hclaimed
    rw [hlimit] at hle
    exact absurd hle (by decide)

end GrowthOs.Execution
