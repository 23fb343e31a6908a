import GrowthOs.SequentialPlan.Promotion

/-!
# What each transaction does

One inversion lemma for each transaction of the orchestrator.  A committed
transaction is described by the tests it passed and by the store it leaves;
what follows for a single step row is the relation `RowStep`, and what follows
for the status of a plan is `Wrote`.
-/

namespace GrowthOs.SequentialPlan

open Js Delegation Throwing List Table

/-! ## Identities the transactions rely on -/

/-- The constraints of the schema, and a claim token on exactly the claimed
steps. -/
structure Store.WellFormed (s : Store) : Prop where
  planIds : (s.plans.map fun plan => plan.planId).Nodup
  stepIds : (s.steps.map fun row => row.planStepId).Nodup
  stepKeys : (s.steps.map fun row => (row.planId, row.stepKey)).Nodup
  owned : ∀ row ∈ s.steps, ∃ plan ∈ s.plans, plan.planId = row.planId ∧ plan.tenantId = row.tenantId
  tokens : ∀ row ∈ s.steps, row.claimToken.isSome ↔ row.status = .claimed

namespace Store.WellFormed

variable {s : Store}

variable {row row' : StepRow}

theorem row_eq (hs : s.WellFormed) (hmem : row ∈ s.steps) (hmem' : row' ∈ s.steps)
    (h : row.planStepId = row'.planStepId) : row = row' :=
  inj_on_of_nodup_map hs.stepIds hmem hmem' h

theorem row_eq_of_key (hs : s.WellFormed) (hmem : row ∈ s.steps) (hmem' : row' ∈ s.steps)
    (hplan : row.planId = row'.planId) (hkey : row.stepKey = row'.stepKey) : row = row' :=
  inj_on_of_nodup_map hs.stepKeys hmem hmem' (by rw [hplan, hkey])

theorem find_plan (hs : s.WellFormed) {plan : PlanRow} (hmem : plan ∈ s.plans) :
    (s.plans.find? fun other => other.planId == plan.planId) = some plan := by
  have hsome : (s.plans.find? fun other => other.planId == plan.planId).isSome :=
    List.find?_isSome.mpr ⟨plan, hmem, by simp⟩
  obtain ⟨found, hfound⟩ := Option.isSome_iff_exists.mp hsome
  have hid : found.planId = plan.planId := by
    simpa using List.find?_some hfound
  rw [hfound, inj_on_of_nodup_map hs.planIds (mem_of_find?_eq_some hfound) hmem hid]

/-- The plan of a step, as every `UPDATE` by plan and tenant finds it. -/
theorem find_owner (hs : s.WellFormed) (hmem : row ∈ s.steps) :
    ∃ plan, (s.plans.find? fun plan => plan.planId == row.planId) = some plan ∧
      plan.tenantId = row.tenantId := by
  obtain ⟨plan, hplan, hid, htenant⟩ := hs.owned row hmem
  exact ⟨plan, hid ▸ hs.find_plan hplan, htenant⟩

end Store.WellFormed

/-! ## Writing the status of a plan -/

/-- Between `s` and `s'` the status of one plan was written, and no plan was
added, removed or given to another tenant. -/
structure Wrote (s s' : Store) (planId : String) (status : PlanStatus) : Prop where
  written : s'.planStatus planId = some status
  others : ∀ other, other ≠ planId → s'.planStatus other = s.planStatus other
  identities : (s'.plans.map fun plan => (plan.planId, plan.tenantId)) =
    s.plans.map fun plan => (plan.planId, plan.tenantId)

variable {s s' : Store} {planId : String} {status : PlanStatus}

variable {plan : PlanRow}

theorem wrote_of_update {p : PlanRow → Bool}
    (hplan : (s.plans.find? fun plan => plan.planId == planId) = some plan) (hsel : p plan = true)
    (honly : ∀ other, p other = true → other.planId = planId)
    (hplans : s'.plans = update p (fun plan => plan.withStatus status) s.plans) :
    Wrote s s' planId status := by
  have hfind : ∀ other, (s'.plans.find? fun plan => plan.planId == other) =
      (s.plans.find? fun plan => plan.planId == other).map fun plan =>
        if p plan then plan.withStatus status else plan := by
    intro other
    rw [hplans]
    exact find?_update (by intro plan; rfl) _
  refine ⟨?_, ?_, ?_⟩
  · simp [Store.planStatus, hfind, hplan, hsel]
  · intro other hne
    rw [Store.planStatus, Store.planStatus, hfind, Option.map_map]
    refine Option.map_congr fun found hfound => ?_
    have hid : found.planId = other := by
      simpa using List.find?_some hfound
    have hp : p found = false := by
      by_contra h
      exact hne (hid ▸ honly found (by simpa using h))
    simp [hp]
  · rw [hplans]
    exact map_update (by intro plan; rfl) _

variable {tenantId : String}

theorem wrote_of_updatePlanRuntimeStatus
    (hplan : (s.plans.find? fun plan => plan.planId == planId) = some plan)
    (htenant : plan.tenantId = tenantId)
    (hplans : s'.plans = (updatePlanRuntimeStatus s planId status tenantId).plans) :
    Wrote s s' planId status := by
  have hid : plan.planId = planId := by
    simpa using List.find?_some hplan
  exact wrote_of_update hplan (by simp [hid, htenant]) (by simp +contextual) hplans

/-! ## Compilation -/

/-- The ids a compilation of `steps` draws. -/
def compileIds (uuids : Nat → String) (steps : Val) : List String :=
  match steps with
  | .arr sources => (List.range sources.length).map uuids
  | _ => []

/-- A step row as the compiler inserts it. -/
structure FreshRow (planId tenantId : String) (row : StepRow) : Prop where
  planId_eq : row.planId = planId
  tenantId_eq : row.tenantId = tenantId
  attemptCount_eq : row.attemptCount = 0
  claimToken_eq : row.claimToken = none
  one_le_maxAttempts : 1 ≤ row.maxAttempts
  status_cases : row.status = .pending ∨ row.status = .ready ∧ row.dependsOn = []

/-- The row an accepted `INSERT` of a compiled step adds. -/
def StoredAs (step : CompiledStep) (row : StepRow) : Prop :=
  ∃ maxAttempts, unsignedColumn step.maxAttempts = some maxAttempts ∧
    row = compiledRow step maxAttempts

variable {compiled : List CompiledStep}

theorem foldlM_insertStep_ok {rows rows' : List StepRow}
    (h : compiled.foldlM insertStep rows = .ok rows') :
    ∃ stored, rows' = rows ++ stored ∧ List.Forall₂ StoredAs compiled stored := by
  induction compiled generalizing rows with
  | nil =>
    cases h
    exact ⟨[], by simp, .nil⟩
  | cons step rest ih =>
    rw [foldlM_cons, bind_eq_ok] at h
    obtain ⟨next, hinsert, h⟩ := h
    obtain ⟨stored, rfl, hstored⟩ := ih h
    unfold insertStep at hinsert
    split at hinsert
    next => cases hinsert
    next maxAttempts hmax =>
      simp only [bind_eq_ok, rejectIf_eq_ok] at hinsert
      obtain ⟨_, -, hinsert⟩ := hinsert
      cases hinsert
      exact ⟨compiledRow step maxAttempts :: stored, by simp,
        .cons ⟨maxAttempts, hmax, rfl⟩ hstored⟩

theorem one_le_unsignedColumn {attempts : Number} {n : Nat}
    (h : unsignedColumn (Number.max (.ofNat 1) attempts) = some n) : 1 ≤ n := by
  cases hmax : Number.max (.ofNat 1) attempts with
  | finite d =>
    have hround := Number.one_le_round_of_max hmax
    rw [hmax] at h
    simp only [unsignedColumn] at h
    rw [if_pos (by omega)] at h
    cases h
    omega
  | nan | infinity negative => simp [hmax, unsignedColumn] at h

variable {row : StepRow} {stored : List StepRow}

theorem freshRow_of_compiledAt {uuid : String} {index : Nat} {keys : List String}
    {step : CompiledStep} (hstep : CompiledAt planId tenantId uuid index keys step)
    (hrow : StoredAs step row) : FreshRow planId tenantId row := by
  obtain ⟨maxAttempts, hmax, rfl⟩ := hrow
  obtain ⟨attempts, hattempts⟩ := hstep.maxAttempts_eq
  rw [hattempts] at hmax
  refine ⟨hstep.planId_eq, hstep.tenantId_eq, rfl, rfl, one_le_unsignedColumn hmax, ?_⟩
  simp only [compiledRow, hstep.status_eq]
  split
  next hfirst => exact .inr ⟨rfl, hfirst.2⟩
  next => exact .inl rfl

/-- A committed compilation; `stored` are the rows it inserted. -/
structure CompileStep (rt : Runtime) (uuids : Nat → String)
    (planId tenantId : String) (steps : Val) (s : Store)
    (stored : List StepRow) (out : CompileResponse × Store) : Prop where
  compiled : compileSequentialPlanSteps rt uuids planId tenantId steps =
    .ok out.1.steps
  stored_as : List.Forall₂ StoredAs out.1.steps stored
  tenant_ne : tenantId ≠ ""
  plan : ∃ plan, s.selectPlans planId = [plan] ∧ plan.tenantId = tenantId ∧
    (effectivePlanStatus plan = .draft ∨ effectivePlanStatus plan = .validated)
  fresh : ∀ row ∈ stored, FreshRow planId tenantId row
  ids : (stored.map fun row => row.planStepId) = compileIds uuids steps
  keys : (stored.map fun row => row.stepKey).Nodup
  steps_eq : out.2.steps = (s.steps.filter fun row => row.planId != planId) ++ stored
  wrote : Wrote s out.2 planId .validated
  holds : out.2.holds = s.holds

/-- A column that is stored as it was compiled. -/
theorem storedAs_map {β : Type} {f : CompiledStep → β} {g : StepRow → β}
    (hcolumn : ∀ step n, g (compiledRow step n) = f step)
    (h : List.Forall₂ StoredAs compiled stored) : stored.map g = compiled.map f := by
  have heq : List.Forall₂ Eq (stored.map g) (compiled.map f) := by
    rw [forall₂_map_left_iff, forall₂_map_right_iff]
    refine List.Forall₂.flip (h.imp fun step row hrow => ?_)
    obtain ⟨n, -, rfl⟩ := hrow
    exact hcolumn step n
  rwa [forall₂_eq_eq_eq] at heq

theorem storedAs_origin (h : List.Forall₂ StoredAs compiled stored) (hmem : row ∈ stored) :
    ∃ step ∈ compiled, StoredAs step row := by
  induction h with
  | nil => cases hmem
  | @cons step first _ _ hfirst _ ih =>
    rcases mem_cons.mp hmem with rfl | hmem
    · exact ⟨step, mem_cons_self, hfirst⟩
    · obtain ⟨step, hstep, hrow⟩ := ih hmem
      exact ⟨step, mem_cons_of_mem _ hstep, hrow⟩

variable {rt : Runtime} {actorId : Option String}

theorem persistCompiledSequentialPlan_ok {uuids : Nat → String} {steps : Val}
    {out : CompileResponse × Store}
    (h : persistCompiledSequentialPlan rt uuids planId tenantId steps actorId s = .ok out) :
    ∃ stored, CompileStep rt uuids planId tenantId steps s stored out := by
  simp only [persistCompiledSequentialPlan, bind_eq_ok] at h
  obtain ⟨compiled, hcompiled, found, hfound, h⟩ := h
  cases found with
  | none => cases h
  | some plan =>
    simp only [bind_eq_ok, rejectIf_eq_ok] at h
    obtain ⟨_, htenant, _, hstatus, rows, hrows, h⟩ := h
    cases h
    have hplan := resolveUniqueSequentialRow_ok hfound
    obtain ⟨-, htenantNe, sources, rfl, -, hfrom⟩ :=
      compileSequentialPlanSteps_ok hcompiled
    obtain ⟨stored, rfl, hstored⟩ := foldlM_insertStep_ok hrows
    refine ⟨stored, hcompiled, hstored, htenantNe,
      ⟨plan, hplan, not_not.mp htenant, ?_⟩, ?_, ?_, ?_, rfl, ?_, rfl⟩
    · by_contra hnot
      push Not at hnot
      exact hstatus hnot
    · intro row hrow
      obtain ⟨step, hmem, hstep⟩ := storedAs_origin hstored hrow
      obtain ⟨i, earlier, -, -, hat⟩ := compileFrom_forall hfrom step hmem
      exact freshRow_of_compiledAt hat hstep
    · rw [storedAs_map (f := CompiledStep.planStepId) (fun _ _ => rfl) hstored,
        compileFrom_planStepIds hfrom, compileIds, range_eq_range']
    · rw [storedAs_map (f := CompiledStep.stepKey) (fun _ _ => rfl) hstored]
      exact (compileFrom_stepKeys hfrom).1
    · have hid := (mem_of_selectPlans hplan).2
      exact wrote_of_update (find_of_selectPlans hplan) (by simp [hid]) (by simp) rfl

/-! ## Step rows -/

/-- The status `finalizeClaim` leaves a step in, after both of its updates. -/
def settledStatus (row : StepRow) (result error : Val) : StepStatus :=
  if claimSucceeded result error then .completed
  else if claimRetryable row result error then .ready else .failed

/-- The status `finalizeClaim` leaves the plan in. -/
def settledPlanStatus (row : StepRow) (result error : Val) : PlanStatus :=
  if claimSucceeded result error then .executing
  else if claimRetryable row result error then .executing else .blocked

/-- The row `finalizeClaim` leaves behind. -/
def settledRow (result error : Val) (row : StepRow) : StepRow :=
  writeOutcome (settledStatus row result error) result error row

/-- The row `decideSequentialPlanApproval` leaves behind. -/
def decidedRow (decision : HoldDecision) (decisionBy : Option String)
    (fingerprint : Val) (row : StepRow) : StepRow :=
  { row with
    status := decision.stepStatus row
    approvalPolicyJson :=
      decidedPolicy row.approvalPolicyJson decision decisionBy fingerprint }

/-- What one transaction can do to one step row; `s` is the store the
transaction started from and `fresh` the claim token it drew. -/
inductive RowStep (s : Store) (fresh : Option String) : StepRow → StepRow → Prop
  | promote {row : StepRow} (hpending : row.status = .pending)
      (hdone : ∀ key ∈ row.dependsOn, s.Done row.planId key) :
      RowStep s fresh row { row with status := .ready }
  | hold {row : StepRow} (hready : row.status = .ready) :
      RowStep s fresh row { row with status := .awaitingApproval }
  | refuse {row : StepRow} {status : StepStatus} (hready : row.status = .ready)
      (hstatus : status = .paused ∨ status = .blocked) :
      RowStep s fresh row { row with status }
  | claim {row : StepRow} {token : String} (hready : row.status = .ready)
      (hfresh : fresh = some token) :
      RowStep s fresh row
        { row with
          status := .claimed
          claimToken := some token
          attemptCount := row.attemptCount + 1 }
  | settle {row : StepRow} {token : String} {result error : Val}
      (htoken : row.claimToken = some token) :
      RowStep s fresh row (settledRow result error row)
  | decide {row : StepRow} {decision : HoldDecision}
      {decisionBy : Option String} {fingerprint : Val}
      (hawaiting : row.status = .awaitingApproval) :
      RowStep s fresh row (decidedRow decision decisionBy fingerprint row)
  | resume {row : StepRow} (hstopped : row.status = .paused ∨
      row.status = .blocked ∨ row.status = .retrying) :
      RowStep s fresh row { row with status := .ready }

/-- Any number of such changes. -/
abbrev RowSteps (s : Store) (fresh : Option String) : StepRow → StepRow → Prop :=
  Relation.ReflTransGen (RowStep s fresh)

variable {fresh : Option String} {row' : StepRow}

theorem RowStep.toStepSpec_eq (h : RowStep s fresh row row') :
    row'.toStepSpec = row.toStepSpec := by
  cases h <;> rfl

/-- The invariant rule for rows. -/
theorem RowSteps.invariant {P : StepRow → Prop}
    (hkeep : ∀ row row', RowStep s fresh row row' → P row → P row')
    (h : RowSteps s fresh row row') (hrow : P row) : P row' := by
  induction h with
  | refl => exact hrow
  | tail _ hstep ih => exact hkeep _ _ hstep ih

theorem RowSteps.toStepSpec_eq (h : RowSteps s fresh row row') : row'.toStepSpec = row.toStepSpec :=
  h.invariant (P := fun r => r.toStepSpec = row.toStepSpec)
    (fun _ _ hstep heq => hstep.toStepSpec_eq.trans heq) rfl

theorem evolves_promote (s : Store) (fresh : Option String) (planId : String) :
    Table.Evolves (RowSteps s fresh) s.steps (s.promote planId).steps := by
  refine ⟨_, rfl, fun row _ => ?_⟩
  by_cases hplan : row.planId = planId
  · simp only [hplan, if_true]
    unfold promoteRow
    split
    next h =>
      refine .single (.promote h.1 fun key hkey => ?_)
      exact hplan ▸ done_of_dependenciesCompleted h.2 key hkey
    next => exact .refl
  · simp only [hplan, if_false]
    exact .refl

theorem RowSteps.comp {rows rows' rows'' : List StepRow}
    (h₁ : Table.Evolves (RowSteps s fresh) rows rows')
    (h₂ : Table.Evolves (RowSteps s fresh) rows' rows'') :
    Table.Evolves (RowSteps s fresh) rows rows'' :=
  (h₁.comp h₂).mono fun _ _ _ ⟨_, hfirst, hsecond⟩ => hfirst.trans hsecond

variable {f : StepRow → StepRow}

/-- An update by the id of one step. -/
theorem evolves_updateStep {rows : List StepRow} {target : StepRow} {p : StepRow → Bool}
    (hids : (rows.map fun row => row.planStepId).Nodup) (hmem : target ∈ rows)
    (hp : ∀ row, p row = true → row.planStepId = target.planStepId)
    (hstep : RowStep s fresh target (f target)) :
    Table.Evolves (RowSteps s fresh) rows (update p f rows) := by
  refine evolves_update (fun row hrow hsel => ?_) fun _ _ _ => .refl
  obtain rfl := inj_on_of_nodup_map hids hrow hmem (hp row hsel)
  exact .single hstep

/-! ## Claiming -/

/-- The first step `claimNextStep` finds ready on this plan. -/
def Store.firstReady (s : Store) (planId : String) : Option StepRow :=
  nextReady (promoteLoop [] (s.selectSteps planId))

variable {next : StepRow}

theorem firstReady_mem (h : s.firstReady planId = some next) :
    next ∈ (s.promote planId).steps ∧ next.planId = planId ∧
      next.status = .ready := by
  have hmem := mem_of_head? h
  rw [mem_filter, mem_promote] at hmem
  exact ⟨hmem.1.1, hmem.1.2, by simpa using hmem.2⟩

/-- The first ready step was ready, or pending and has just been promoted. -/
theorem firstReady_source (h : s.firstReady planId = some next) :
    ∃ row ∈ s.steps, row.toStepSpec = next.toStepSpec ∧
      (row.status = .ready ∨ row.status = .pending) := by
  obtain ⟨hmem, -, hready⟩ := firstReady_mem h
  obtain hold | ⟨row, hfrom⟩ := promote_origin hmem
  · exact ⟨next, hold, rfl, .inl hready⟩
  · exact ⟨row, hfrom.mem, by rw [hfrom.promoted], .inr hfrom.pending⟩

/-- Without a ready step nothing has been promoted either. -/
theorem promoteLoop_of_firstReady_none (h : s.firstReady planId = none) :
    promoteLoop [] (s.selectSteps planId) = s.selectSteps planId := by
  apply promoteLoop_of_not_ready
  intro step hstep hready
  have hfilter := List.head?_eq_none_iff.mp h
  rw [filter_eq_nil_iff] at hfilter
  exact hfilter step hstep (by simp [hready])

theorem dependenciesCompleted_of_done (hs : s.WellFormed)
    (h : ∀ key ∈ row.dependsOn, s.Done planId key) :
    dependenciesCompleted row (s.selectSteps planId) = true := by
  refine all_eq_true.mpr fun key hkey => ?_
  obtain ⟨done, hdone, hplan, rfl, hcompleted⟩ := h key hkey
  have hsome : (byKey (s.selectSteps planId) done.stepKey).isSome := by
    refine List.find?_isSome.mpr ⟨done, ?_, by simp⟩
    exact mem_reverse.mpr (mem_selectSteps.mpr ⟨hdone, hplan⟩)
  obtain ⟨found, hfound⟩ := Option.isSome_iff_exists.mp hsome
  obtain ⟨hmem, hsame⟩ := mem_selectSteps.mp (mem_reverse.mp (mem_of_find?_eq_some hfound))
  obtain rfl := hs.row_eq_of_key hmem hdone (hsame.trans hplan.symm)
    (by simpa using List.find?_some hfound)
  simp [hfound, hcompleted]

/-- A claim finds a step if one is ready, or pending with its dependencies
completed. -/
theorem firstReady_ne_none (hs : s.WellFormed) (hrow : row ∈ s.steps) (hplan : row.planId = planId)
    (hready : row.status = .ready ∨
      row.status = .pending ∧ ∀ key ∈ row.dependsOn, s.Done planId key) :
    s.firstReady planId ≠ none := by
  intro hnone
  have hpromoted : (promoteRow (s.selectSteps planId) row).status = .ready := by
    rcases hready with hready | ⟨hpending, hdone⟩
    · simp [promoteRow, hready]
    · simp [promoteRow, hpending, dependenciesCompleted_of_done hs hdone]
  have hloop := mem_map_of_mem (f := promoteRow (s.selectSteps planId))
    (mem_selectSteps.mpr ⟨hrow, hplan⟩)
  rw [← promoteLoop_nil] at hloop
  exact filter_eq_nil_iff.mp (head?_eq_none_iff.mp hnone) _ hloop (by simp [hpromoted])

/-- The committed outcomes of `claimNextStep`. -/
inductive ClaimStep (rt : Runtime) (clock : Int) (planId : String)
    (actorId : Option String) (holdId claimToken : String) (s : Store) :
    ClaimResult × Store → Prop
  | terminal {plan : PlanRow} (hplan : s.selectPlans planId = [plan])
      (hterminal : (effectivePlanStatus plan).terminal = true) :
      ClaimStep rt clock planId actorId holdId claimToken s
        (.stop "plan_terminal" (effectivePlanStatus plan) none none none, s)
  | nothing {plan : PlanRow} (hplan : s.selectPlans planId = [plan])
      (hterminal : (effectivePlanStatus plan).terminal = false)
      (hsteps : s.selectSteps planId ≠ [])
      (hnone : s.firstReady planId = none) :
      ClaimStep rt clock planId actorId holdId claimToken s
        (claimNothing plan actorId (promoteLoop [] (s.selectSteps planId)) (s.promote planId))
  | ready {plan : PlanRow} {next : StepRow} {admitted : Admission}
      (hplan : s.selectPlans planId = [plan])
      (hterminal : (effectivePlanStatus plan).terminal = false)
      (hnext : s.firstReady planId = some next)
      (hadmitted : admission rt clock plan next actorId = .ok admitted) :
      ClaimStep rt clock planId actorId holdId claimToken s
        (claimReady rt plan next actorId holdId claimToken admitted (s.promote planId))

variable {clock : Int} {holdId claimToken : String}

section ClaimStep

variable {out : ClaimResult × Store}

theorem claimNextStep_ok (hs : s.WellFormed)
    (h : claimNextStep rt clock planId actorId holdId claimToken s = .ok out) :
    ClaimStep rt clock planId actorId holdId claimToken s out := by
  simp only [claimNextStep, bind_eq_ok] at h
  obtain ⟨found, hfound, h⟩ := h
  cases found with
  | none => cases h
  | some plan =>
    have hplan := resolveUniqueSequentialRow_ok hfound
    cases hterminal : (effectivePlanStatus plan).terminal with
    | true =>
      simp only [hterminal, if_true] at h
      cases h
      exact .terminal hplan hterminal
    | false =>
      simp only [hterminal, Bool.false_eq_true, if_false, bind_eq_ok,
        rejectIf_eq_ok, markPromoted_eq hs.stepIds] at h
      obtain ⟨_, hsteps, h⟩ := h
      cases hnext : s.firstReady planId with
      | none =>
        rw [Store.firstReady] at hnext
        simp only [hnext] at h
        cases h
        exact .nothing hplan hterminal (by simpa using hsteps) hnext
      | some next =>
        have hfirst := hnext
        rw [Store.firstReady] at hnext
        simp only [hnext, bind_eq_ok] at h
        obtain ⟨admitted, hadmitted, h⟩ := h
        cases h
        exact .ready hplan hterminal hfirst hadmitted

theorem promote_stepIds (s : Store) (planId : String) :
    ((s.promote planId).steps.map fun row => row.planStepId) =
      s.steps.map fun row => row.planStepId :=
  (evolves_promote s none planId).map_eq fun _ _ h => by rw [h.toStepSpec_eq]

theorem promote_nodup (hs : s.WellFormed) (planId : String) :
    ((s.promote planId).steps.map fun row => row.planStepId).Nodup :=
  promote_stepIds s planId ▸ hs.stepIds

/-- The admission is recorded as events only. -/
@[simp] theorem recordAdmission_frame (plan : PlanRow) (next : StepRow)
    (actorId : Option String) (admitted : Admission) (s : Store) :
    (recordAdmission plan next actorId admitted s).steps = s.steps ∧
      (recordAdmission plan next actorId admitted s).plans = s.plans ∧
      (recordAdmission plan next actorId admitted s).holds = s.holds := by
  unfold recordAdmission
  split <;> exact ⟨rfl, rfl, rfl⟩

/-- What `claimReady` makes of the next step. -/
def admittedRow (claimToken : String) (admitted : Admission) (row : StepRow) : StepRow :=
  match admitted with
  | .dispatch _ =>
    { row with
      status := .claimed
      claimToken := some claimToken
      attemptCount := row.attemptCount + 1 }
  | .hold _ => { row with status := .awaitingApproval }
  | .refuse decision =>
    { row with
      status := if decision.pauseRequired then .paused else .blocked }

@[simp] theorem admittedRow_toStepSpec (claimToken : String)
    (admitted : Admission) (row : StepRow) :
    (admittedRow claimToken admitted row).toStepSpec = row.toStepSpec := by
  cases admitted <;> rfl

/-- The next step is the only row with its id, so a test of its status in the
`WHERE` clause changes nothing. -/
theorem update_ready_eq {rows : List StepRow} (hids : (rows.map fun row => row.planStepId).Nodup)
    (hnext : next ∈ rows) (hready : next.status = .ready) :
    update (fun row => row.planStepId == next.planStepId && row.status == .ready) f rows =
      update (fun row => row.planStepId == next.planStepId) f rows := by
  refine map_congr_left fun row hrow => ?_
  by_cases hid : row.planStepId = next.planStepId
  · obtain rfl := inj_on_of_nodup_map hids hrow hnext hid
    simp [hready]
  · simp [hid]

variable {admitted : Admission}

/-- The rows `claimReady` leaves, from the rows of the promoted store. -/
theorem claimReady_steps (hids : (s.steps.map fun row => row.planStepId).Nodup)
    (hnext : next ∈ s.steps) (hready : next.status = .ready) :
    (claimReady rt plan next actorId holdId claimToken admitted s).2.steps =
      update (fun row => row.planStepId == next.planStepId)
        (admittedRow claimToken admitted) s.steps := by
  cases admitted with
  | dispatch decision =>
    simp only [claimReady, claimDispatch, Store.updateSteps,
      updatePlanRuntimeStatus, Store.appendEvent, recordAdmission_frame,
      update_ready_eq hids hnext hready]
    rfl
  | hold decision =>
    simp only [claimReady, claimHeld, createApprovalHold, Store.updateSteps,
      updatePlanRuntimeStatus, Store.appendEvent, recordAdmission_frame]
    rfl
  | refuse decision =>
    simp only [claimReady, claimRefused, Store.updateSteps,
      updatePlanRuntimeStatus, Store.appendEvent, recordAdmission_frame,
      update_ready_eq hids hnext hready]
    rfl

theorem rowStep_admittedRow (hready : next.status = .ready)
    (hfresh : ∀ decision, admitted = .dispatch decision → fresh = some claimToken) :
    RowStep s fresh next (admittedRow claimToken admitted next) := by
  cases admitted with
  | dispatch decision => exact .claim hready (hfresh decision rfl)
  | hold decision => exact .hold hready
  | refuse decision =>
    refine .refuse hready ?_
    cases decision.pauseRequired <;> simp

theorem ClaimStep.rows (hs : s.WellFormed)
    (h : ClaimStep rt clock planId actorId holdId claimToken s out) :
    Table.Evolves (RowSteps s (some claimToken)) s.steps out.2.steps := by
  cases h with
  | terminal => exact .refl fun _ _ => .refl
  | nothing => exact evolves_promote s _ planId
  | ready hplan hterminal hnext hadmitted =>
    obtain ⟨hmem, -, hready⟩ := firstReady_mem hnext
    have hids := promote_nodup hs planId
    rw [claimReady_steps hids hmem hready]
    exact RowSteps.comp (evolves_promote s _ planId)
      (evolves_updateStep hids hmem (by simp) (rowStep_admittedRow hready fun _ _ => rfl))

/-- The next step as a committed claim found it. -/
structure Admitted (rt : Runtime) (clock : Int) (planId : String)
    (actorId : Option String) (holdId claimToken : String) (s : Store)
    (out : ClaimResult × Store) (plan : PlanRow) (next : StepRow)
    (admitted : Admission) : Prop where
  plan_eq : s.selectPlans planId = [plan]
  live : (effectivePlanStatus plan).terminal = false
  next_eq : s.firstReady planId = some next
  admitted_eq : admission rt clock plan next actorId = .ok admitted
  out_eq : out = claimReady rt plan next actorId holdId claimToken admitted (s.promote planId)

theorem ClaimStep.origin (hs : s.WellFormed)
    (h : ClaimStep rt clock planId actorId holdId claimToken s out) (hmem : row' ∈ out.2.steps) :
    row' ∈ s.steps ∨ (∃ row, PromotedFrom s planId row row') ∨
      ∃ plan next admitted, Admitted rt clock planId actorId holdId claimToken s
        out plan next admitted ∧ row' = admittedRow claimToken admitted next := by
  cases h with
  | terminal => exact .inl hmem
  | nothing => exact (promote_origin hmem).imp_right .inl
  | @ready plan next admitted hplan hterminal hnext hadmitted =>
    obtain ⟨hnextMem, -, hready⟩ := firstReady_mem hnext
    have hids := promote_nodup hs planId
    rw [claimReady_steps hids hnextMem hready] at hmem
    obtain ⟨hkept, -⟩ | rfl := mem_update_of_unique hids hnextMem (by simp) (by simp) hmem
    · exact (promote_origin hkept).imp_right .inl
    · exact .inr (.inr ⟨plan, next, admitted, ⟨hplan, hterminal, hnext, hadmitted, rfl⟩, rfl⟩)

/-- The plan status a committed claim reports and leaves. -/
def ClaimResult.planStatus : ClaimResult → PlanStatus
  | .stop _ planStatus _ _ _ => planStatus
  | .dispatch _ _ _ => .executing

/-- The plan status `claimReady` writes. -/
def Admission.planStatus : Admission → PlanStatus
  | .dispatch _ => .executing
  | .hold _ => .awaitingApproval
  | .refuse decision => if decision.pauseRequired then .paused else .blocked

theorem claimReady_planStatus :
    (claimReady rt plan next actorId holdId claimToken admitted s).1.planStatus =
      admitted.planStatus := by
  cases admitted <;> rfl

theorem claimReady_plans :
    let out := claimReady rt plan next actorId holdId claimToken admitted s
    out.2.plans = (updatePlanRuntimeStatus s plan.planId out.1.planStatus plan.tenantId).plans := by
  cases admitted with
  | dispatch decision =>
    simp [claimReady, claimDispatch, Store.updateSteps, Store.appendEvent,
      updatePlanRuntimeStatus, ClaimResult.planStatus]
  | hold decision =>
    simp [claimReady, claimHeld, createApprovalHold, Store.updateSteps,
      Store.appendEvent, updatePlanRuntimeStatus, ClaimResult.planStatus]
  | refuse decision =>
    simp [claimReady, claimRefused, Store.updateSteps, Store.appendEvent,
      updatePlanRuntimeStatus, ClaimResult.planStatus]

/-- The step is in the hands of a worker. -/
def InHands (row : StepRow) : Prop :=
  row.status = .claimed ∨ row.status = .running ∨ row.status = .verifying

/-- What the steps are like when nothing is ready and the plan is left in this
status. -/
inductive Checkpoint (steps : List StepRow) : PlanStatus → Prop
  | blocked {step : StepRow} (hmem : step ∈ steps)
      (hfailed : step.status = .failed ∨ step.status = .blocked) : Checkpoint steps .blocked
  | completed (hover : ∀ step ∈ steps, step.status.terminal = true ∧ step.status ≠ .failed) :
      Checkpoint steps .completed
  | awaiting {step : StepRow} (hmem : step ∈ steps) (hawaits : step.status = .awaitingApproval)
      (hsound : ∀ step ∈ steps, step.status ≠ .failed ∧ step.status ≠ .blocked) :
      Checkpoint steps .awaitingApproval
  | executing {step : StepRow} (hmem : step ∈ steps) (hhands : InHands step)
      (hfree : ∀ step ∈ steps, step.status ≠ .awaitingApproval) : Checkpoint steps .executing
  | paused {step : StepRow} (hmem : step ∈ steps) (hopen : step.status.terminal = false)
      (hfree : ∀ step ∈ steps, step.status ≠ .awaitingApproval ∧ ¬InHands step) :
      Checkpoint steps .paused

theorem checkpoint (steps : List StepRow) : Checkpoint steps (checkpointStatus steps) := by
  simp only [checkpointStatus]
  split
  next hfailed =>
    obtain ⟨step, hmem, hstatus⟩ := any_eq_true.mp hfailed
    exact .blocked hmem (by simpa using hstatus)
  next hfailed =>
    have hsound : ∀ step ∈ steps, step.status ≠ .failed ∧ step.status ≠ .blocked := by
      simpa using hfailed
    split
    next hover =>
      exact .completed fun step hmem => ⟨all_eq_true.mp hover step hmem, (hsound step hmem).1⟩
    next hopen =>
      split
      next hawaits =>
        obtain ⟨step, hmem, hstatus⟩ := any_eq_true.mp hawaits
        exact .awaiting hmem (by simpa using hstatus) hsound
      next hawaits =>
        have hfree : ∀ step ∈ steps, step.status ≠ .awaitingApproval := by
          simpa using hawaits
        split
        next hhands =>
          obtain ⟨step, hmem, hstatus⟩ := any_eq_true.mp hhands
          exact .executing hmem (by simpa [InHands, or_assoc] using hstatus) hfree
        next hhands =>
          obtain ⟨step, hmem, hstatus⟩ := all_eq_false.mp (by simpa using hopen)
          refine .paused hmem (by simpa using hstatus) fun step hmem =>
            ⟨hfree step hmem, fun hstep => hhands ?_⟩
          exact any_eq_true.mpr ⟨step, hmem, by simpa [InHands, or_assoc] using hstep⟩

theorem wrote_claimNothing (hplan : s.selectPlans planId = [plan]) (actorId : Option String)
    (steps : List StepRow) :
    Wrote s (claimNothing plan actorId steps (s.promote planId)).2 planId
      (checkpointStatus steps) := by
  obtain ⟨-, rfl⟩ := mem_of_selectPlans hplan
  exact wrote_of_updatePlanRuntimeStatus (find_of_selectPlans hplan) rfl rfl

theorem wrote_claimReady (hplan : s.selectPlans planId = [plan]) :
    Wrote s (claimReady rt plan next actorId holdId claimToken admitted
      (s.promote planId)).2 planId admitted.planStatus := by
  obtain ⟨-, rfl⟩ := mem_of_selectPlans hplan
  rw [← claimReady_planStatus]
  exact wrote_of_updatePlanRuntimeStatus (find_of_selectPlans hplan) rfl claimReady_plans

/-- A dispatched step comes with the token of the claim. -/
theorem ClaimStep.token_eq {token : String}
    (h : ClaimStep rt clock planId actorId holdId claimToken s
      (.dispatch plan row token, s')) : token = claimToken := by
  generalize hout : (ClaimResult.dispatch plan row token, s') = out at h
  cases h with
  | terminal | nothing => cases hout
  | @ready _ _ admitted _ _ _ _ =>
    cases admitted with
    | hold decision | refuse decision => cases hout
    | dispatch decision =>
      exact (ClaimResult.dispatch.inj (congrArg Prod.fst hout)).2.2

section

variable (h : ClaimStep rt clock planId actorId holdId claimToken s out)

include h

/-- A claim on a terminal plan commits nothing. -/
theorem ClaimStep.eq_of_terminal
    (hstatus : s.planStatus planId = some status) (hterminal : status.terminal = true) :
    out.2 = s := by
  have hlive : ∀ {plan : PlanRow}, s.selectPlans planId = [plan] →
      (effectivePlanStatus plan).terminal ≠ false := by
    intro plan hplan
    cases (planStatus_of_selectPlans hplan).symm.trans hstatus
    simp [hterminal]
  cases h with
  | terminal => rfl
  | nothing hplan hnot | ready hplan hnot => exact absurd hnot (hlive hplan)

/-- A claim on a plan that is not terminal writes its status. -/
theorem ClaimStep.wrote : out.2 = s ∨ Wrote s out.2 planId out.1.planStatus := by
  cases h with
  | terminal => exact .inl rfl
  | nothing hplan hterminal _ _ => exact .inr (wrote_claimNothing hplan _ _)
  | ready hplan hterminal hnext hadmitted =>
    rw [claimReady_planStatus]
    exact .inr (wrote_claimReady hplan)

/-- A claim opens a hold exactly when its next step has to be approved. -/
theorem ClaimStep.holds :
    out.2.holds = s.holds ∨ ∃ plan next decision, s.selectPlans planId = [plan] ∧
        s.firstReady planId = some next ∧
        out.1 = .stop (match decision with
          | none => "awaiting_approval"
          | some d => d.decision.text)
          .awaitingApproval (some holdId) (some next) decision ∧
        out.2.holds = s.holds ++ [approvalHold plan next actorId decision holdId] := by
  cases h with
  | terminal | nothing => exact .inl rfl
  | @ready plan next admitted hplan hterminal hnext hadmitted =>
    cases admitted with
    | dispatch decision =>
      simp [claimReady, claimDispatch, Store.updateSteps, Store.appendEvent,
        updatePlanRuntimeStatus, Store.promote]
    | hold decision =>
      refine .inr ⟨plan, next, decision, hplan, hnext, rfl, ?_⟩
      simp [claimReady, claimHeld, createApprovalHold, Store.updateSteps,
        Store.appendEvent, updatePlanRuntimeStatus, Store.promote]
    | refuse decision =>
      simp [claimReady, claimRefused, Store.updateSteps, Store.appendEvent,
        updatePlanRuntimeStatus, Store.promote]

end

end ClaimStep

variable {planStepId : String}

/-- The step a hold of the orchestrator is about. -/
theorem holdSubject_approvalHold {step : StepRow} {decision : Option Decision}
    (h : holdSubject (parseJson (approvalHold plan step actorId decision
      holdId).executionContextJson (.obj [])) = .ok (planId, planStepId)) :
    planId = plan.planId ∧ planStepId = step.planStepId := by
  have hsource : (holdContext plan step decision).get "source" =
      .ok (.str orchestratorSource) := by
    simp [holdContext, Val.get, Val.member, Val.lookup]
  have hplan : (holdContext plan step decision).member "plan_id" = .str plan.planId := by
    simp [holdContext, Val.member, Val.lookup]
  have hstep : (holdContext plan step decision).member "plan_step_id" = .str step.planStepId := by
    simp [holdContext, Val.member, Val.lookup]
  have hcontext : parseJson (approvalHold plan step actorId decision
      holdId).executionContextJson (.obj []) = holdContext plan step decision :=
    rfl
  rw [hcontext, holdSubject, hsource, hplan, hstep] at h
  simp only [bind, Except.bind] at h
  split at h
  next =>
    cases h
    exact ⟨rfl, rfl⟩
  next => cases h

/-! ## Finalising a claim -/

/-- A committed `finalizeClaim` found the claimed row. -/
structure FinalizeStep (planStepId claimToken : String) (result error : Val)
    (s : Store) (row : StepRow) (out : FinalizeResponse × Store) : Prop where
  mem : row ∈ s.steps
  planStepId_eq : row.planStepId = planStepId
  claimToken_eq : row.claimToken = some claimToken
  response : out.1 = ⟨settledStatus row result error, settledPlanStatus row result error⟩
  steps : out.2.steps = update (fun other => other.planStepId == planStepId)
    (settledRow result error) s.steps
  plans : out.2.plans = (updatePlanRuntimeStatus s row.planId
    (settledPlanStatus row result error) row.tenantId).plans
  holds : out.2.holds = s.holds

variable {result error : Val} (target : Option StepRow) {decision : String} {d : HoldDecision}

/-- The two updates by id and token are one update by id. -/
theorem settleStep_steps (hs : s.WellFormed) (hrow : row ∈ s.steps)
    (htoken : row.claimToken = some claimToken) :
    (settleStep row claimToken result error s).steps =
      update (fun other => other.planStepId == row.planStepId)
        (settledRow result error) s.steps := by
  have hother : ∀ other ∈ s.steps, other ≠ row → other.planStepId ≠ row.planStepId :=
    fun other hmem hne hid => hne (hs.row_eq hmem hrow hid)
  cases hretry : claimRetryable row result error with
  | false =>
    simp only [settleStep, hretry, Bool.false_eq_true, if_false, Store.updateSteps, update]
    refine map_congr_left fun other hmem => ?_
    by_cases hsame : other = row
    · subst hsame
      simp [htoken, settledRow, settledStatus, finalStatus, hretry]
    · simp [hother other hmem hsame]
  | true =>
    have hfailed : claimSucceeded result error = false := by
      simp only [claimRetryable, Bool.and_eq_true, Bool.not_eq_true'] at hretry
      exact hretry.1.1
    simp only [settleStep, hretry, if_true, Store.updateSteps, update, map_map]
    refine map_congr_left fun other hmem => ?_
    by_cases hsame : other = row
    · subst hsame
      simp [htoken, settledRow, settledStatus, finalStatus, hretry, hfailed, writeOutcome]
    · simp [hother other hmem hsame]

theorem settleStep_frame (s : Store) (row : StepRow) (claimToken : String) (result error : Val) :
    (settleStep row claimToken result error s).plans = s.plans ∧
      (settleStep row claimToken result error s).holds = s.holds := by
  unfold settleStep
  split <;> exact ⟨rfl, rfl⟩

theorem finalizeClaim_ok {out : FinalizeResponse × Store} (hs : s.WellFormed)
    (h : finalizeClaim planStepId claimToken result error actorId s = .ok out) :
    ∃ row, FinalizeStep planStepId claimToken result error s row out := by
  simp only [finalizeClaim, bind_eq_ok] at h
  obtain ⟨found, hfound, h⟩ := h
  cases found with
  | none => cases h
  | some row =>
    have hrows := resolveUniqueSequentialRow_ok hfound
    have hmem : row ∈ s.steps.filter fun row =>
        row.planStepId == planStepId && row.claimToken == some claimToken := by
      simp [hrows]
    simp only [mem_filter, Bool.and_eq_true, beq_iff_eq] at hmem
    obtain ⟨hrow, rfl, htoken⟩ := hmem
    cases h
    refine ⟨row, hrow, rfl, htoken, ?_, settleStep_steps hs hrow htoken, ?_,
      (settleStep_frame _ _ _ _ _).2⟩
    · simp only [settledStatus, settledPlanStatus, finalStatus]
      cases hsucc : claimSucceeded result error with
      | true => simp [claimRetryable, hsucc]
      | false => cases claimRetryable row result error <;> rfl
    · simp only [Store.appendEvent, updatePlanRuntimeStatus, settleStep_frame]
      rfl

section FinalizeStep

variable {out : FinalizeResponse × Store} (hs : s.WellFormed)
  (h : FinalizeStep planStepId claimToken result error s row out)

include hs h

theorem FinalizeStep.rows : Table.Evolves (RowSteps s none) s.steps out.2.steps := by
  rw [h.steps]
  refine evolves_updateStep hs.stepIds h.mem ?_ (.settle h.claimToken_eq)
  rw [h.planStepId_eq]
  simp

theorem FinalizeStep.wrote : Wrote s out.2 row.planId (settledPlanStatus row result error) := by
  obtain ⟨plan, hplan, htenant⟩ := hs.find_owner h.mem
  exact wrote_of_updatePlanRuntimeStatus hplan htenant h.plans

theorem FinalizeStep.origin (hmem : row' ∈ out.2.steps) :
    (row' ∈ s.steps ∧ row'.planStepId ≠ row.planStepId) ∨ row' = settledRow result error row := by
  rw [h.steps] at hmem
  exact mem_update_of_unique hs.stepIds h.mem (by simp [h.planStepId_eq])
    (by simp [h.planStepId_eq]) hmem

end FinalizeStep

/-! ## Approval decisions -/

/-- The hold is an orchestrator's hold on the step `row`. -/
def HoldRow.names (hold : HoldRow) (row : StepRow) : Bool :=
  match holdSubject (parseJson hold.executionContextJson (.obj [])) with
  | .ok (planId, planStepId) =>
    planId == row.planId && planStepId == row.planStepId
  | .error _ => false

/-- The open hold `holdId` is about the step `row`, which waits for it. -/
structure Store.Awaits (s : Store) (holdId : String) (row : StepRow) : Prop where
  held : ∃ hold ∈ s.holds, hold.holdId = holdId ∧ hold.status = .opened ∧ hold.names row = true
  mem : row ∈ s.steps
  awaiting : row.status = .awaitingApproval

/-- A committed decision. -/
structure DecideStep (holdId decision : String)
    (decisionBy decisionNote : Option String) (s : Store) (row : StepRow)
    (d : HoldDecision) (out : ApprovalResponse × Store) : Prop where
  decision_eq : HoldDecision.ofText decision = some d
  awaits : s.Awaits holdId row
  response : out.1 = ⟨holdId, d, row.planId, row.planStepId, d.planStatus, d.stepStatus row⟩
  store : ∃ fingerprint, out.2 = recordDecision s holdId row d decisionBy decisionNote fingerprint

theorem requireDecision_ok (h : requireDecision decision = .ok d) :
    HoldDecision.ofText decision = some d := by
  unfold requireDecision at h
  split at h
  next hd =>
    cases h
    exact hd
  next => cases h

theorem holdDecision_text {text : String} (h : HoldDecision.ofText text = some d) :
    text = d.text := by
  unfold HoldDecision.ofText at h
  split at h
  all_goals cases h
  all_goals rfl

theorem requireOpenHold_ok {hold : HoldRow} (h : requireOpenHold s holdId = .ok hold) :
    hold ∈ s.holds ∧ hold.holdId = holdId ∧ hold.status = .opened := by
  unfold requireOpenHold at h
  split at h
  next => cases h
  next found hfound =>
    split at h
    next hopen =>
      cases h
      have hmem := mem_of_head? hfound
      simp only [mem_filter, beq_iff_eq] at hmem
      exact ⟨hmem.1, hmem.2, hopen⟩
    next => cases h

theorem requireAwaitingStep_ok (h : requireAwaitingStep s planId planStepId = .ok row) :
    row ∈ s.steps ∧ row.planId = planId ∧ row.planStepId = planStepId ∧
      row.status = .awaitingApproval := by
  unfold requireAwaitingStep at h
  split at h
  next found hfound =>
    split at h
    next hawaiting =>
      cases h
      have hmem := mem_of_head? hfound
      simp only [mem_filter, Bool.and_eq_true, beq_iff_eq] at hmem
      exact ⟨hmem.1, hmem.2.2, hmem.2.1, hawaiting⟩
    next => cases h
  next => cases h

theorem decideSequentialPlanApproval_ok {decisionBy decisionNote : Option String}
    {out : ApprovalResponse × Store}
    (h : decideSequentialPlanApproval rt holdId decision decisionBy decisionNote s = .ok out) :
    ∃ row d, DecideStep holdId decision decisionBy decisionNote s row d out := by
  simp only [decideSequentialPlanApproval, bind_eq_ok] at h
  obtain ⟨d, hd, hold, hhold, ⟨planId, planStepId⟩, hsubject, row, hrow, _, -,
    fingerprint, -, _, -, _, -, h⟩ := h
  cases h
  obtain ⟨hmem, rfl, rfl, hawaiting⟩ := requireAwaitingStep_ok hrow
  obtain ⟨hholdMem, hholdId, hopen⟩ := requireOpenHold_ok hhold
  have hnames : hold.names row = true := by
    simp [HoldRow.names, hsubject]
  exact ⟨row, d, requireDecision_ok hd,
    ⟨⟨hold, hholdMem, hholdId, hopen, hnames⟩, hmem, hawaiting⟩, rfl, _, rfl⟩

section DecideStep

variable {decisionBy decisionNote : Option String} {out : ApprovalResponse × Store}
  (hs : s.WellFormed) (h : DecideStep holdId decision decisionBy decisionNote s row d out)

include hs h

theorem DecideStep.rows : Table.Evolves (RowSteps s none) s.steps out.2.steps := by
  obtain ⟨fingerprint, hout⟩ := h.store
  rw [hout]
  have hstep : RowStep s none row (decidedRow d decisionBy fingerprint row) :=
    .decide h.awaits.awaiting
  exact evolves_updateStep hs.stepIds h.awaits.mem (by simp +contextual) hstep

theorem DecideStep.origin (hmem : row' ∈ out.2.steps) :
    (row' ∈ s.steps ∧ row'.planStepId ≠ row.planStepId) ∨
      ∃ fingerprint, row' = decidedRow d decisionBy fingerprint row := by
  obtain ⟨fingerprint, hout⟩ := h.store
  rw [hout] at hmem
  refine (mem_update_of_unique hs.stepIds h.awaits.mem ?_ ?_ hmem).imp_right
    fun heq => ⟨fingerprint, heq⟩
  · simp [h.awaits.awaiting]
  · simp +contextual

theorem DecideStep.wrote : Wrote s out.2 row.planId d.planStatus := by
  obtain ⟨fingerprint, hout⟩ := h.store
  obtain ⟨plan, hplan, htenant⟩ := hs.find_owner h.awaits.mem
  exact wrote_of_updatePlanRuntimeStatus hplan htenant (by rw [hout]; rfl)

end DecideStep

/-! ## Resuming -/

/-- A committed `resumeSequentialPlan`; `target` is the step it made ready. -/
structure ResumeStep (planId : String) (s : Store) (target : Option StepRow)
    (out : ResumeResponse × Store) : Prop where
  compiled : ∃ row ∈ s.steps, row.planId = planId
  resumable : ∀ row ∈ target, row ∈ s.steps ∧ row.planId = planId ∧
    (row.status = .paused ∨ row.status = .blocked ∨ row.status = .retrying)
  steps : out.2.steps = (markResumed target s).steps
  plans : ∃ row ∈ s.steps, row.planId = planId ∧ out.2.plans =
    (updatePlanRuntimeStatus s planId .validated row.tenantId).plans
  holds : out.2.holds = s.holds

theorem markResumed_frame (s : Store) :
    (markResumed target s).plans = s.plans ∧ (markResumed target s).holds = s.holds := by
  cases target <;> exact ⟨rfl, rfl⟩

theorem resumeSequentialPlan_ok {out : ResumeResponse × Store}
    (h : resumeSequentialPlan planId actorId s = .ok out) :
    ∃ target, ResumeStep planId s target out := by
  unfold resumeSequentialPlan at h
  split at h
  next => cases h
  next first rest hsteps =>
    have hfirst : first ∈ s.selectSteps planId := by simp [hsteps]
    rw [mem_selectSteps] at hfirst
    cases h
    refine ⟨resumable (first :: rest), ⟨first, hfirst⟩, ?_, rfl,
      ⟨first, hfirst.1, hfirst.2, ?_⟩, ?_⟩
    · intro row hrow
      have hmem := mem_of_find?_eq_some hrow
      rw [← hsteps, mem_selectSteps] at hmem
      refine ⟨hmem.1, hmem.2, ?_⟩
      simpa [or_assoc] using List.find?_some hrow
    · simp only [Store.appendEvent, updatePlanRuntimeStatus, markResumed_frame]
    · exact (markResumed_frame _ _).2

section ResumeStep

variable {target} {out : ResumeResponse × Store} (hs : s.WellFormed)
  (h : ResumeStep planId s target out)

include hs h

theorem ResumeStep.rows : Table.Evolves (RowSteps s none) s.steps out.2.steps := by
  rw [h.steps]
  cases target with
  | none => exact .refl fun _ _ => .refl
  | some row =>
    obtain ⟨hmem, -, hstopped⟩ := h.resumable row rfl
    exact evolves_updateStep hs.stepIds hmem (by simp) (.resume hstopped)

theorem ResumeStep.origin (hmem : row' ∈ out.2.steps) :
    row' ∈ s.steps ∨ ∃ row ∈ target, row' = { row with status := .ready } := by
  rw [h.steps] at hmem
  cases target with
  | none => exact .inl hmem
  | some row =>
    have hrow := (h.resumable row rfl).1
    refine (mem_update_of_unique hs.stepIds hrow ?_ ?_ hmem).imp
      (fun hold => hold.1) fun heq => ⟨row, rfl, heq⟩
    · simp
    · simp

theorem ResumeStep.wrote : Wrote s out.2 planId .validated := by
  obtain ⟨row, hmem, rfl, hplans⟩ := h.plans
  obtain ⟨plan, hplan, htenant⟩ := hs.find_owner hmem
  exact wrote_of_updatePlanRuntimeStatus hplan htenant hplans

end ResumeStep

end GrowthOs.SequentialPlan
