import GrowthOs.Execution.Invariant

/-!
# The steps of one plan

What a step does from the point of view of a single plan: it leaves the plan's
status and step rows alone, or it is an operation on that plan.
-/

namespace GrowthOs.Execution

open Js SequentialPlan DurableExecution List Table

/-- The step rows of a plan. -/
def stepsOf (s : Store) (planId : String) : List StepRow :=
  s.steps.filter fun row => row.planId == planId

variable {s : Store} {planId : String} {row : StepRow}

@[simp] theorem mem_stepsOf : row ∈ stepsOf s planId ↔ row ∈ s.steps ∧ row.planId = planId := by
  simp [stepsOf]

variable {s' : Store}

theorem stepsOf_congr (h : s'.steps = s.steps) (planId : String) :
    stepsOf s' planId = stepsOf s planId := by
  rw [stepsOf, stepsOf, h]

/-- Neither the status nor the rows of the plan have changed. -/
structure Untouched (s s' : Store) (planId : String) : Prop where
  status : s'.planStatus planId = s.planStatus planId
  steps : stepsOf s' planId = stepsOf s planId

theorem Untouched.refl (s : Store) (planId : String) : Untouched s s planId :=
  ⟨rfl, rfl⟩

variable {other : String} {f : StepRow → StepRow} {p : StepRow → Bool}

/-- A change of the rows of another plan. -/
theorem stepsOf_map_of_ne {g : StepRow → StepRow} (hne : other ≠ planId)
    (hspec : ∀ row, (g row).planId = row.planId)
    (hfix : ∀ row ∈ s.steps, row.planId ≠ planId → g row = row)
    (hsteps : s'.steps = s.steps.map g) : stepsOf s' other = stepsOf s other := by
  rw [stepsOf, stepsOf, hsteps]
  apply filter_map_of_fixed
  · simp [hspec]
  · intro row hrow hsel
    apply hfix row hrow
    have hother : row.planId = other := by simpa using hsel
    rwa [hother]

theorem stepsOf_update_of_ne (hne : other ≠ planId) (hspec : ∀ row, (f row).planId = row.planId)
    (hp : ∀ row ∈ s.steps, p row = true → row.planId = planId)
    (hsteps : s'.steps = update p f s.steps) : stepsOf s' other = stepsOf s other := by
  refine stepsOf_map_of_ne hne ?_ ?_ hsteps
  · intro row
    split
    · exact hspec row
    · rfl
  · intro row hrow hother
    have hsel : p row = false := by
      by_contra h
      exact hother (hp row hrow (by simpa using h))
    simp [hsel]

theorem stepsOf_promote_of_ne (hne : other ≠ planId) :
    stepsOf (s.promote planId) other = stepsOf s other := by
  refine stepsOf_map_of_ne hne ?_ ?_ rfl
  · intro row
    split
    · simp
    · rfl
  · intro row _ hother
    simp [hother]

/-- An update by the id of one step touches the plan of that step alone. -/
theorem stepsOf_updateStep_of_ne (hids : (s.steps.map fun row => row.planStepId).Nodup)
    {target : StepRow} (hmem : target ∈ s.steps) (hne : other ≠ target.planId)
    (hspec : ∀ row, (f row).planId = row.planId)
    (hp : ∀ row, p row = true → row.planStepId = target.planStepId)
    (hsteps : s'.steps = update p f s.steps) : stepsOf s' other = stepsOf s other := by
  refine stepsOf_update_of_ne hne hspec ?_ hsteps
  intro row hrow hsel
  rw [inj_on_of_nodup_map hids hrow hmem (hp row hsel)]

variable {rt : Runtime} {response : CompileResponse} {uuids : Nat → String} {tenantId : String}
  {steps : Val} {stored : List StepRow}

/-- After a compilation, the plan has the rows that were inserted. -/
theorem stepsOf_compile (h : CompileStep rt uuids planId tenantId steps s stored (response, s')) :
    stepsOf s' planId = stored := by
  have hkept : ((s.steps.filter fun row => row.planId != planId).filter
      fun row => row.planId == planId) = [] := by
    simp
  have hstored : (stored.filter fun row => row.planId == planId) = stored := by
    rw [filter_eq_self]
    intro row hrow
    simp [(h.fresh row hrow).planId_eq]
  rw [stepsOf, h.steps_eq, filter_append, hkept, hstored, nil_append]

/-! ## Operations on other plans -/

section Untouched

variable {claimToken holdId : String}

theorem untouched_of_compile
    (h : CompileStep rt uuids planId tenantId steps s stored (response, s'))
    (hne : other ≠ planId) : Untouched s s' other := by
  refine ⟨h.wrote.others other hne, ?_⟩
  have hstored : stored.filter (fun row => row.planId == other) = [] := by
    rw [filter_eq_nil_iff]
    intro row hrow
    simpa [(h.fresh row hrow).planId_eq] using hne.symm
  have hkept : (s.steps.filter fun row => row.planId != planId).filter
      (fun row => row.planId == other) = stepsOf s other := by
    rw [filter_filter, stepsOf]
    refine filter_congr fun row _ => ?_
    by_cases hrow : row.planId = other
    · simp [hrow, hne]
    · simp [hrow]
  rw [stepsOf, h.steps_eq, filter_append, hstored, hkept, append_nil]

theorem untouched_of_claim {clock : Int} {actorId : Option String}
    {out : ClaimResult × Store} (hs : s.WellFormed)
    (h : ClaimStep rt clock planId actorId holdId claimToken s out) (hne : other ≠ planId) :
    Untouched s out.2 other := by
  constructor
  · obtain hsame | hwrote := h.wrote
    · rw [hsame]
    · exact hwrote.others other hne
  · cases h with
    | terminal => rfl
    | nothing => exact stepsOf_promote_of_ne hne
    | ready hplan hterminal hnext hadmitted =>
      obtain ⟨hmem, rfl, hready⟩ := firstReady_mem hnext
      have hids := promote_nodup hs
      exact (stepsOf_updateStep_of_ne (hids _) hmem hne (by simp) (by simp)
        (claimReady_steps (hids _) hmem hready)).trans
        (stepsOf_promote_of_ne hne)

theorem untouched_of_finalize {planStepId : String} {result error : Val}
    {response : FinalizeResponse} (hs : s.WellFormed)
    (h : FinalizeStep planStepId claimToken result error s row (response, s'))
    (hne : other ≠ row.planId) : Untouched s s' other := by
  refine ⟨(h.wrote hs).others other hne, ?_⟩
  exact stepsOf_updateStep_of_ne hs.stepIds h.mem hne (by intro row; rfl)
    (by simp [h.planStepId_eq]) h.steps

theorem untouched_of_decide {decision : String} {decisionBy decisionNote : Option String}
    {d : HoldDecision} {response : ApprovalResponse} (hs : s.WellFormed)
    (h : DecideStep holdId decision decisionBy decisionNote s row d (response, s'))
    (hne : other ≠ row.planId) : Untouched s s' other := by
  refine ⟨(h.wrote hs).others other hne, ?_⟩
  obtain ⟨fingerprint, rfl⟩ := h.store
  exact stepsOf_updateStep_of_ne hs.stepIds h.awaits.mem hne (by intro row; rfl)
    (by simp +contextual) rfl

theorem untouched_of_resume {target : Option StepRow} {response : ResumeResponse}
    (hs : s.WellFormed) (h : ResumeStep planId s target (response, s')) (hne : other ≠ planId) :
    Untouched s s' other := by
  refine ⟨(h.wrote hs).others other hne, ?_⟩
  cases target with
  | none => exact stepsOf_congr h.steps other
  | some row =>
    obtain ⟨hmem, rfl, -⟩ := h.resumable row rfl
    exact stepsOf_updateStep_of_ne hs.stepIds hmem hne (by intro row; rfl) (by simp) h.steps

theorem untouched_of_transition {response : TransitionResponse}
    (h : TransitionStep planId s (response, s')) (hne : other ≠ planId) : Untouched s s' other := by
  constructor
  · obtain ⟨-, rfl⟩ | hwrote := h.wrote
    · rfl
    · exact hwrote.others other hne
  · exact stepsOf_congr h.steps other

theorem untouched_of_cancel {response : CancelResponse} (h : CancelStep planId s (response, s'))
    (hne : other ≠ planId) : Untouched s s' other := by
  cases h with
  | replay => exact .refl s other
  | cancel hstatus hlive hsteps hwrote hholds =>
    refine ⟨hwrote.others other hne, ?_⟩
    exact stepsOf_update_of_ne hne (by intro row; rfl) (by simp +contextual) hsteps

end Untouched

/-! ## The view of one plan -/

/-- A step, as one plan sees it. -/
inductive PlanStep (rt : Runtime) (planId : String) (s : Store) : Op → Outcome → Store → Prop
  | untouched {op : Op} {outcome : Outcome} {s' : Store}
      (h : Untouched s s' planId) : PlanStep rt planId s op outcome s'
  | compile {uuids : Nat → String} {tenantId : String} {steps : Val}
      {actorId : Option String} {stored : List StepRow}
      {response : CompileResponse} {s' : Store}
      (h : CompileStep rt uuids planId tenantId steps s stored (response, s')) :
      PlanStep rt planId s (.compile uuids planId tenantId steps actorId) (.compiled response) s'
  | claim {clock : Int} {actorId : Option String} {holdId claimToken : String}
      {result : ClaimResult} {s' : Store}
      (h : ClaimStep rt clock planId actorId holdId claimToken s (result, s')) :
      PlanStep rt planId s (.claim clock planId actorId holdId claimToken) (.claimed result) s'
  | finalize {planStepId claimToken : String} {result error : Val}
      {actorId : Option String} {row : StepRow} {response : FinalizeResponse}
      {s' : Store}
      (h : FinalizeStep planStepId claimToken result error s row (response, s'))
      (hplan : row.planId = planId) :
      PlanStep rt planId s (.finalize planStepId claimToken result error actorId)
        (.finalized response) s'
  | decide {holdId decision : String} {decisionBy decisionNote : Option String}
      {row : StepRow} {d : HoldDecision} {response : ApprovalResponse}
      {s' : Store}
      (h : DecideStep holdId decision decisionBy decisionNote s row d (response, s'))
      (hplan : row.planId = planId) :
      PlanStep rt planId s (.decide holdId decision decisionBy decisionNote) (.decided response) s'
  | resume {actorId : Option String} {target : Option StepRow}
      {response : ResumeResponse} {s' : Store}
      (h : ResumeStep planId s target (response, s')) :
      PlanStep rt planId s (.resume planId actorId) (.resumed response) s'
  | transition {tenantId : Option String} {toStatus : Val}
      {actorId reason : Option String} {response : TransitionResponse}
      {s' : Store} (h : TransitionStep planId s (response, s')) :
      PlanStep rt planId s (.transition planId tenantId toStatus actorId reason)
        (.transitioned response) s'
  | cancel {tenantId actorId reason : Option String} {response : CancelResponse} {s' : Store}
      (h : CancelStep planId s (response, s')) :
      PlanStep rt planId s (.cancel planId tenantId actorId reason) (.cancelled response) s'

theorem PlanStep.of_target {op : Op} {outcome : Outcome} {target : String}
    (hon : planId = target → PlanStep rt planId s op outcome s')
    (hoff : planId ≠ target → Untouched s s' planId) : PlanStep rt planId s op outcome s' := by
  by_cases heq : planId = target
  · exact hon heq
  · exact .untouched (hoff heq)

theorem Effect.onPlan {op : Op} {outcome : Outcome} (hs : s.WellFormed)
    (h : Effect rt s op outcome s') (planId : String) : PlanStep rt planId s op outcome s' := by
  cases h with
  | threw => exact .untouched (.refl s planId)
  | compile h => exact .of_target (by rintro rfl; exact .compile h) (untouched_of_compile h)
  | claim h => exact .of_target (by rintro rfl; exact .claim h) (untouched_of_claim hs h)
  | finalize h => exact .of_target (.finalize h ·.symm) (untouched_of_finalize hs h)
  | decide h => exact .of_target (.decide h ·.symm) (untouched_of_decide hs h)
  | resume h => exact .of_target (by rintro rfl; exact .resume h) (untouched_of_resume hs h)
  | transition h =>
    exact .of_target (by rintro rfl; exact .transition h) (untouched_of_transition h)
  | cancel h => exact .of_target (by rintro rfl; exact .cancel h) (untouched_of_cancel h)

variable {w w' : World} {e : Event}

theorem Step.onPlan (h : Step rt w e w') (hw : w.WellFormed) (planId : String) :
    PlanStep rt planId w.store e.op e.outcome w'.store :=
  (effect_of_exec hw.store h.runs).onPlan hw.store planId

/-- Where a row of the plan comes from, unless the plan was compiled. -/
theorem Step.origin (h : Step rt w e w') (hw : w.WellFormed) (hop : e.op.executes = true)
    {row' : StepRow} (hmem : row' ∈ stepsOf w'.store planId) :
    ∃ row ∈ stepsOf w.store planId, RowChange w.store e.op.freshToken row row' := by
  rw [mem_stepsOf] at hmem
  obtain ⟨row, hrow, hchange⟩ :=
    ((effect_of_exec hw.store h.runs).evolves hw.store (Op.isCompile_of_executes hop)).origin hmem.1
  refine ⟨row, mem_stepsOf.mpr ⟨hrow, ?_⟩, hchange⟩
  rw [← hmem.2, hchange.toStepSpec_eq]

/-- The compilation of a plan, as an event. -/
def compiledEvent (uuids : Nat → String) (planId tenantId : String)
    (steps : Val) (actorId : Option String) (response : CompileResponse) : Event :=
  ⟨.compile uuids planId tenantId steps actorId, .compiled response⟩

variable {actorId : Option String}

theorem Step.compiled {w₀ : World} (hw : w.WellFormed)
    (h : Step rt w (compiledEvent uuids planId tenantId steps actorId response) w₀) :
    ∃ stored, CompileStep rt uuids planId tenantId steps w.store stored (response, w₀.store) := by
  have heffect := effect_of_exec hw.store h.runs
  cases heffect with
  | compile hcompile => exact ⟨_, hcompile⟩

/-- What becomes of a row of the plan while plans are executed. -/
theorem Step.rowSteps (h : Step rt w e w') (hw : w.WellFormed) (hop : e.op.executes = true) :
    Table.Evolves (RowSteps w.store e.op.freshToken) w.store.steps
      w'.store.steps :=
  (effect_of_exec hw.store h.runs).rowSteps hw.store hop

/-! ## Dispatching a step -/

/-- A claim on the plan would hand out `next`. -/
def WouldDispatch (rt : Runtime) (clock : Int) (planId : String)
    (actorId : Option String) (s : Store) (next : StepRow) : Prop :=
  ∃ plan decision, s.selectPlans planId = [plan] ∧
    (effectivePlanStatus plan).terminal = false ∧
    s.firstReady planId = some next ∧
    admission rt clock plan next actorId = .ok (.dispatch decision)

/-- The claim handed the step `row` of the plan to its caller. -/
def Dispatches (planId : String) (row : StepRow) (e : Event) : Prop :=
  ∃ clock actorId holdId claimToken plan,
    e.op = .claim clock planId actorId holdId claimToken ∧
    e.outcome = .claimed (.dispatch plan row claimToken)

/-- What a claim that dispatches found and did. -/
structure DispatchedFrom (rt : Runtime) (clock : Int) (planId : String)
    (actorId : Option String) (claimToken : String) (s s' : Store)
    (plan : PlanRow) (next : StepRow) : Prop where
  plan_eq : s.selectPlans planId = [plan]
  live : (effectivePlanStatus plan).terminal = false
  next_eq : s.firstReady planId = some next
  admitted : ∃ decision, admission rt clock plan next actorId = .ok (.dispatch decision)
  wrote : Wrote s s' planId .executing
  steps_eq : s'.steps = update (fun row => row.planStepId == next.planStepId)
    (admittedRow claimToken (.dispatch none)) (s.promote planId).steps

variable {clock : Int} {claimToken holdId : String} {plan : PlanRow} {next : StepRow}

theorem dispatchedFrom_of_claim (hs : s.WellFormed)
    (h : ClaimStep rt clock planId actorId holdId claimToken s
      (.dispatch plan row claimToken, s')) :
    ∃ next, row = { next with claimToken := some claimToken } ∧
      DispatchedFrom rt clock planId actorId claimToken s s' plan next := by
  generalize hout : (ClaimResult.dispatch plan row claimToken, s') = out at h
  cases h with
  | terminal | nothing => cases hout
  | @ready found next admitted hplan hlive hnext hadmitted =>
    obtain ⟨hmem, -, hready⟩ := firstReady_mem hnext
    have hids := promote_nodup hs planId
    cases admitted with
    | hold decision | refuse decision => cases hout
    | dispatch decision =>
      have hstore : s' = _ := congrArg Prod.snd hout
      have hresult := ClaimResult.dispatch.inj (congrArg Prod.fst hout)
      obtain ⟨rfl, hrow, -⟩ := hresult
      refine ⟨next, hrow, hplan, hlive, hnext, ⟨decision, hadmitted⟩, ?_, ?_⟩
      · rw [hstore]
        exact wrote_claimReady hplan
      · rw [hstore]
        exact claimReady_steps hids hmem hready

theorem DispatchedFrom.wouldDispatch
    (h : DispatchedFrom rt clock planId actorId claimToken s s' plan next) :
    WouldDispatch rt clock planId actorId s next := by
  obtain ⟨decision, hadmitted⟩ := h.admitted
  exact ⟨plan, decision, h.plan_eq, h.live, h.next_eq, hadmitted⟩

theorem DispatchedFrom.mem (h : DispatchedFrom rt clock planId actorId claimToken s s' plan next) :
    admittedRow claimToken (.dispatch none) next ∈ stepsOf s' planId := by
  obtain ⟨hmem, hplan, -⟩ := firstReady_mem h.next_eq
  refine mem_stepsOf.mpr ⟨?_, by simpa using hplan⟩
  rw [h.steps_eq]
  exact mem_update.mpr ⟨next, hmem, by simp⟩

theorem Step.dispatchedFrom (h : Step rt w e w') (hw : w.WellFormed)
    (hd : Dispatches planId row e) :
    ∃ clock actorId holdId claimToken plan next,
      e.op = .claim clock planId actorId holdId claimToken ∧
      row = { next with claimToken := some claimToken } ∧
      DispatchedFrom rt clock planId actorId claimToken w.store w'.store plan
        next := by
  obtain ⟨clock, actorId, holdId, claimToken, plan, hop, hout⟩ := hd
  have heffect := effect_of_exec hw.store h.runs
  rw [hop, hout] at heffect
  cases heffect with
  | claim hclaim =>
    obtain ⟨next, hrow, hfrom⟩ := dispatchedFrom_of_claim hw.store hclaim
    exact ⟨clock, actorId, holdId, claimToken, plan, next, hop, hrow, hfrom⟩

/-! ## Where a row comes from -/

variable {row' : StepRow}

theorem row_source_of_claim {out : ClaimResult × Store} (hs : s.WellFormed)
    (h : ClaimStep rt clock planId actorId holdId claimToken s out)
    (hmem : row' ∈ stepsOf out.2 planId) :
    (∃ row ∈ stepsOf s planId, RowSteps s none row row') ∨
      ∃ next, WouldDispatch rt clock planId actorId s next ∧
        row' = admittedRow claimToken (.dispatch none) next := by
  have hunclaimed : ∀ {row}, row ∈ s.steps → RowSteps s none row row' →
      ∃ row ∈ stepsOf s planId, RowSteps s none row row' := by
    intro row hrow hsteps
    refine ⟨row, mem_stepsOf.mpr ⟨hrow, ?_⟩, hsteps⟩
    rw [← (mem_stepsOf.mp hmem).2, hsteps.toStepSpec_eq]
  obtain hold | ⟨row, hrow⟩ | ⟨plan, next, admitted, hnext, rfl⟩ :=
    h.origin hs (mem_stepsOf.mp hmem).1
  · exact .inl (hunclaimed hold .refl)
  · obtain ⟨hold, rfl, hpending, hdone, rfl⟩ := hrow
    exact .inl (hunclaimed hold (.single (.promote hpending hdone)))
  · obtain ⟨hready, -, hstatus⟩ := firstReady_mem hnext.next_eq
    obtain ⟨row, hrow, hsteps⟩ := (evolves_promote s none planId).origin hready
    cases admitted with
    | dispatch decision =>
      exact .inr ⟨next, ⟨plan, decision, hnext.plan_eq, hnext.live, hnext.next_eq,
        hnext.admitted_eq⟩, rfl⟩
    | _ => exact .inl (hunclaimed hrow (hsteps.tail (rowStep_admittedRow hstatus (by simp))))

/-- A row of the plan has changed without being claimed, or a claim on the plan
has just handed it out. -/
theorem Step.row_source (hw : w.WellFormed) (hstep : Step rt w e w')
    (hop : e.op.executes = true) (hmem : row' ∈ stepsOf w'.store planId) :
    (∃ row ∈ stepsOf w.store planId, RowSteps w.store none row row') ∨
      ∃ clock actorId holdId claimToken next,
        e.op = .claim clock planId actorId holdId claimToken ∧
        WouldDispatch rt clock planId actorId w.store next ∧
        row' = admittedRow claimToken (.dispatch none) next := by
  by_cases hfresh : e.op.freshToken = none
  · obtain ⟨hrow', hplan⟩ := mem_stepsOf.mp hmem
    obtain ⟨row, hrow, hsteps⟩ := (hstep.rowSteps hw hop).origin hrow'
    rw [hfresh] at hsteps
    refine .inl ⟨row, mem_stepsOf.mpr ⟨hrow, ?_⟩, hsteps⟩
    rw [← hplan, hsteps.toStepSpec_eq]
  · -- Only claims draw a token; one on another plan leaves this one alone.
    have hview := hstep.onPlan hw planId
    obtain ⟨op, outcome⟩ := e
    cases hview with
    | untouched h => exact .inl ⟨row', h.steps ▸ hmem, .refl⟩
    | claim h =>
      obtain hold | ⟨next, hwould, hrow⟩ := row_source_of_claim hw.store h hmem
      · exact .inl hold
      · exact .inr ⟨_, _, _, _, next, rfl, hwould, hrow⟩
    | compile h => cases hop
    | finalize h hplan | decide h hplan | resume h => exact absurd rfl hfresh
    | transition h | cancel h => cases hop

end GrowthOs.Execution
