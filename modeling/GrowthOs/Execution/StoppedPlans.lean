import GrowthOs.Execution.SingleClaim

/-!
# Stopped plans

A plan that is paused, blocked or waiting for an approval is stopped.  A stop
is lifted by resuming the plan, by an approval, or by a transition to another
status.  `claimNextStep` does not look for a stop: it hands out whatever is
ready.  What keeps a stopped plan from executing is that nothing in it is ready
or claimed.  That is so as long as the plan was stopped at the one step that was
at work, and plans whose dependencies order their steps are stopped in no other
way by the orchestrator.
-/

namespace GrowthOs.Execution

open Js SequentialPlan DurableExecution Transition

def stopped : PlanStatus → Bool
  | .paused => true
  | .blocked => true
  | .awaitingApproval => true
  | _ => false

def Stopped (s : Store) (planId : String) : Prop :=
  ∃ status, s.planStatus planId = some status ∧ stopped status = true

instance (s : Store) (planId : String) : Decidable (Stopped s planId) :=
  decidable_of_iff ((s.planStatus planId).any stopped = true) (by
    simp [Stopped, Option.any_eq_true])

/-- The events that lift a stop of the plan. -/
def Releases (planId : String) (e : Event) : Prop :=
  match e.op with
  | .resume target _ => target = planId ∧ e.outcome.committed = true
  | .decide _ _ _ _ => ∃ response, e.outcome = .decided response ∧
      response.planId = planId ∧ response.decision = .approved
  | .transition target _ _ _ _ => target = planId ∧ ∃ response,
      e.outcome = .transitioned response ∧ stopped response.planStatus = false
  | _ => False

/-! ## Steps at work -/

/-- The step is in the hands of a worker or within reach of a claim: ready, or
pending with its dependencies completed. -/
def AtWork (s : Store) (row : StepRow) : Prop :=
  InHands row ∨ row.status = .ready ∨
    row.status = .pending ∧ ∀ key ∈ row.dependsOn, s.Done row.planId key

/-- No step of the plan is at work, apart from the given one. -/
def Rests (s : Store) (planId : String) (planStepId : Option String) : Prop :=
  ∀ row ∈ stepsOf s planId, AtWork s row → planStepId = some row.planStepId

instance (s : Store) (planId key : String) : Decidable (s.Done planId key) :=
  inferInstanceAs (Decidable (∃ row ∈ s.steps, _ ∧ _ ∧ _))

instance (row : StepRow) : Decidable (InHands row) :=
  inferInstanceAs (Decidable (_ ∨ _ ∨ _))

instance (s : Store) (row : StepRow) : Decidable (AtWork s row) :=
  inferInstanceAs (Decidable (_ ∨ _ ∨ _ ∧ _))

instance (s : Store) (planId : String) (planStepId : Option String) :
    Decidable (Rests s planId planStepId) :=
  inferInstanceAs (Decidable (∀ row ∈ stepsOf s planId, _ → _))

/-- The step is over without success, or it waits for an operator. -/
def SetAside (row : StepRow) : Prop :=
  row.status ∈ [.awaitingApproval, .paused, .blocked, .failed]

variable {s s' : Store} {planId : String} {row : StepRow} {planStepId : Option String}

/-- If all that has changed is that the given step was set aside, nothing is at
work any more. -/
theorem rests_of_setAside (h : Rests s planId planStepId)
    (hrows : ∀ row ∈ stepsOf s' planId, SetAside row ∨
      row ∈ stepsOf s planId ∧ planStepId ≠ some row.planStepId) : Rests s' planId none := by
  intro row hrow hwork
  obtain haside | ⟨hold, hne⟩ := hrows row hrow
  · simp only [SetAside, List.mem_cons, List.not_mem_nil, or_false] at haside
    rcases haside with hs | hs | hs | hs <;> simp [AtWork, InHands, hs] at hwork
  · refine absurd (h row hold (hwork.imp_right (Or.imp_right (And.imp_right ?_)))) hne
    -- No step has been completed.
    intro hdone key hkey
    obtain ⟨found, hmem, hplan, hkey', hcompleted⟩ := hdone key hkey
    have hfound : found ∈ stepsOf s' planId :=
      mem_stepsOf.mpr ⟨hmem, hplan.trans (mem_stepsOf.mp hrow).2⟩
    obtain haside | ⟨hold', -⟩ := hrows found hfound
    · simp [SetAside, hcompleted] at haside
    · exact ⟨found, (mem_stepsOf.mp hold').1, hplan, hkey', hcompleted⟩

theorem rests_congr (h : ∀ row, row ∈ stepsOf s' planId ↔ row ∈ stepsOf s planId)
    (hrests : Rests s planId none) : Rests s' planId none :=
  rests_of_setAside hrests fun row hrow => .inr ⟨(h row).mp hrow, by simp⟩

/-- The step a claim would take is at work. -/
theorem atWork_of_firstReady {next : StepRow} (h : s.firstReady planId = some next) :
    ∃ row ∈ stepsOf s planId, row.planStepId = next.planStepId ∧ AtWork s row := by
  obtain ⟨hmem, hplan, hready⟩ := firstReady_mem h
  obtain hold | ⟨row, hfrom⟩ := promote_origin hmem
  · exact ⟨next, mem_stepsOf.mpr ⟨hold, hplan⟩, rfl, .inr (.inl hready)⟩
  · refine ⟨row, mem_stepsOf.mpr ⟨hfrom.mem, hfrom.planId_eq⟩, by rw [hfrom.promoted], ?_⟩
    exact .inr (.inr ⟨hfrom.pending, hfrom.planId_eq ▸ hfrom.done⟩)

theorem Rests.firstReady_eq_none (h : Rests s planId none) : s.firstReady planId = none := by
  cases hnext : s.firstReady planId with
  | none => rfl
  | some next =>
    obtain ⟨row, hrow, -, hwork⟩ := atWork_of_firstReady hnext
    cases h row hrow hwork

/-- Where no claim finds a step, only steps in the hands of workers are at
work. -/
theorem inHands_of_atWork (hs : s.WellFormed) (hnone : s.firstReady planId = none)
    (hrow : row ∈ stepsOf s planId) (hwork : AtWork s row) : InHands row := by
  obtain ⟨hmem, hplan⟩ := mem_stepsOf.mp hrow
  exact hwork.resolve_right fun h => firstReady_ne_none hs hmem hplan (hplan ▸ h) hnone

/-! ## Stopping at rest -/

/-- The operations that stop the plan, and the step at work at which they do. -/
inductive Stops (rt : Runtime) (planId : String) (s : Store) : Op → Option String → Prop
  | refuse {clock : Int} {actorId : Option String} {holdId claimToken : String} {plan : PlanRow}
      {next : StepRow} {admitted : Admission} (hplan : s.selectPlans planId = [plan])
      (hlive : (effectivePlanStatus plan).terminal = false)
      (hnext : s.firstReady planId = some next)
      (hadmitted : admission rt clock plan next actorId = .ok admitted)
      (hrefused : ∀ decision, admitted ≠ .dispatch decision) :
      Stops rt planId s (.claim clock planId actorId holdId claimToken) (some next.planStepId)
  | checkpoint {clock : Int} {actorId : Option String} {holdId claimToken : String}
      {plan : PlanRow} {row : StepRow} (hplan : s.selectPlans planId = [plan])
      (hlive : (effectivePlanStatus plan).terminal = false)
      (hnone : s.firstReady planId = none) (hrow : row ∈ stepsOf s planId)
      (haside : row.status ∈ [.failed, .blocked, .awaitingApproval]) :
      Stops rt planId s (.claim clock planId actorId holdId claimToken) none
  | fail {row : StepRow} {planStepId claimToken : String} {result error : Val}
      {actorId : Option String} (hrow : row ∈ stepsOf s planId) (hid : row.planStepId = planStepId)
      (htoken : row.claimToken = some claimToken) (hfailed : claimSucceeded result error = false)
      (hfinal : claimRetryable row result error = false) :
      Stops rt planId s (.finalize planStepId claimToken result error actorId) (some planStepId)
  | reject {row : StepRow} {holdId decision : String} {decisionBy decisionNote : Option String}
      {d : HoldDecision} (hrow : row ∈ stepsOf s planId) (hawaits : s.Awaits holdId row)
      (hdecision : HoldDecision.ofText decision = some d) (hrejected : d ≠ .approved) :
      Stops rt planId s (.decide holdId decision decisionBy decisionNote) none
  | transition {tenantId : Option String} {toStatus : Val} {actorId reason : Option String}
      {status : PlanStatus} (htarget : assertDurableRequestedStatus toStatus = .ok status)
      (hstop : stopped status = true) :
      Stops rt planId s (.transition planId tenantId toStatus actorId reason) none

/-- Whoever stops the plan does so while no other step of it is at work. -/
def StopsAtRest (rt : Runtime) (planId : String) (w : World) (e : Event) : Prop :=
  ¬Stopped w.store planId → ∀ planStepId, Stops rt planId w.store e.op planStepId →
    Rests w.store planId planStepId

/-- A claim that finds the only step at work, or finds none at work. -/
theorem stopsAtRest_of_claim {rt : Runtime} {w : World} {clock : Int} {actorId : Option String}
    {holdId claimToken : String} {outcome : Outcome}
    (h : Rests w.store planId ((w.store.firstReady planId).map (·.planStepId))) :
    StopsAtRest rt planId w ⟨.claim clock planId actorId holdId claimToken, outcome⟩ := by
  intro _ _ hstops
  cases hstops with
  | refuse _ _ hnext => rwa [hnext] at h
  | checkpoint _ _ hnone => rwa [hnone] at h

/-! ## Ordered plans -/

theorem due_of_atWork (hmet : DependenciesMet s planId) (hrow : row ∈ stepsOf s planId)
    (h : AtWork s row) : Due s planId row := by
  obtain ⟨-, hplan⟩ := mem_stepsOf.mp hrow
  rcases h with (h | h | h) | h | ⟨h, hdone⟩
  · exact due_of_begun hmet hrow (by simp [h]) (by simp [h])
  · exact due_of_begun hmet hrow (by simp [h]) (by simp [h])
  · exact due_of_begun hmet hrow (by simp [h]) (by simp [h])
  · exact due_of_begun hmet hrow (by simp [h]) (by simp [h])
  · exact ⟨hrow, by simp [h], hplan ▸ hdone⟩

/-- A plan whose dependencies order its steps comes to a stop at rest, unless it
is stopped from outside by a transition. -/
theorem stopsAtRest_of_ordered {rt : Runtime} {w : World} {e : Event} (hw : w.WellFormed)
    (hmet : DependenciesMet w.store planId) (hordered : Ordered w.store planId)
    (hop : e.op.executes = true) : StopsAtRest rt planId w e := by
  intro _ planStepId hstops
  -- The step the plan is stopped at leaves no other step its turn.
  have hbeside : ∀ {row}, Due w.store planId row → Rests w.store planId (some row.planStepId) :=
    fun hdue other hother hwork => by
      rw [hordered.eq_of_due hw.store hmet hdue (due_of_atWork hmet hother hwork)]
  have hbegun : ∀ {row}, row ∈ stepsOf w.store planId → SetAside row →
      Rests w.store planId none := by
    intro row hrow haside other hother hwork
    have hdue : Due w.store planId row :=
      due_of_begun hmet hrow (by rintro h; simp [SetAside, h] at haside)
        (by rintro h; simp [SetAside, h] at haside)
    obtain rfl := hordered.eq_of_due hw.store hmet hdue (due_of_atWork hmet hother hwork)
    simp only [SetAside, List.mem_cons, List.not_mem_nil, or_false] at haside
    rcases haside with hs | hs | hs | hs <;> simp [AtWork, InHands, hs] at hwork
  obtain ⟨op, outcome⟩ := e
  cases hstops with
  | refuse _ _ hnext =>
    obtain ⟨row, hrow, hid, hwork⟩ := atWork_of_firstReady hnext
    exact hid ▸ hbeside (due_of_atWork hmet hrow hwork)
  | checkpoint _ _ _ hrow haside =>
    refine hbegun hrow ?_
    simp only [List.mem_cons, List.not_mem_nil, or_false] at haside
    rcases haside with h | h | h <;> simp [SetAside, h]
  | fail hrow hid htoken =>
    have hclaimed := (hw.store.tokens _ (mem_stepsOf.mp hrow).1).mp (by simp [htoken])
    exact hid ▸ hbeside (due_of_begun hmet hrow (by simp [hclaimed]) (by simp [hclaimed]))
  | reject hrow hawaits => exact hbegun hrow (by simp [SetAside, hawaits.awaiting])
  | transition => cases hop

section Step

variable {rt : Runtime} {w w' : World} {e : Event} {clock : Int} {actorId : Option String}
  {holdId claimToken : String} {plan : PlanRow} {next : StepRow} {admitted : Admission}

theorem Step.requested {tenantId reason : Option String} {toStatus : Val}
    {response : TransitionResponse} (h : Step rt w
      ⟨.transition planId tenantId toStatus actorId reason, .transitioned response⟩ w') :
    assertDurableRequestedStatus toStatus = .ok response.planStatus := by
  have hruns := h.runs
  simp only [exec] at hruns
  cases hdone : transitionDurableExecution planId tenantId toStatus actorId reason w.store with
  | error error => simp [hdone, commit] at hruns
  | ok done =>
    simp only [hdone, commit, Prod.mk.injEq, Outcome.transitioned.injEq] at hruns
    simp only [transitionDurableExecution, Throwing.bind_eq_ok] at hdone
    obtain ⟨target, htarget, _, _, _, _, _, _, hout⟩ := hdone
    cases hout
    rw [htarget, ← hruns.1]

/-- Where the rows come from when a claim has found a step. -/
theorem origin_of_claimReady (hs : s.WellFormed) (hnext : s.firstReady planId = some next)
    (hrow : row ∈ stepsOf
      (claimReady rt plan next actorId holdId claimToken admitted (s.promote planId)).2 planId) :
    (row ∈ stepsOf s planId ∧ row.planStepId ≠ next.planStepId) ∨
      (∃ source, PromotedFrom s planId source row ∧ row.planStepId ≠ next.planStepId) ∨
      row = admittedRow claimToken admitted next := by
  obtain ⟨hmem, -, hready⟩ := firstReady_mem hnext
  obtain ⟨hrow, hplan⟩ := mem_stepsOf.mp hrow
  have hids := promote_nodup hs planId
  rw [claimReady_steps hids hmem hready] at hrow
  obtain ⟨hkept, hne⟩ | rfl := Table.mem_update_of_unique hids hmem (by simp) (by simp) hrow
  · obtain hold | ⟨source, hfrom⟩ := promote_origin hkept
    · exact .inl ⟨mem_stepsOf.mpr ⟨hold, hplan⟩, hne⟩
    · exact .inr (.inl ⟨source, hfrom, hne⟩)
  · exact .inr (.inr rfl)

/-- A claim that does not hand out the one step at work. -/
theorem rests_of_refused (hs : s.WellFormed) (hnext : s.firstReady planId = some next)
    (hrefused : ∀ decision, admitted ≠ .dispatch decision)
    (hrests : Rests s planId (some next.planStepId)) :
    Rests (claimReady rt plan next actorId holdId claimToken admitted (s.promote planId)).2
      planId none := by
  refine rests_of_setAside hrests fun row hrow => ?_
  obtain ⟨hold, hne⟩ | ⟨source, hfrom, hne⟩ | rfl := origin_of_claimReady hs hnext hrow
  · exact .inr ⟨hold, fun heq => hne (Option.some.inj heq).symm⟩
  · -- A second step that could be promoted would be at work beside `next`.
    have hsame := hrests source (mem_stepsOf.mpr ⟨hfrom.mem, hfrom.planId_eq⟩)
      (.inr (.inr ⟨hfrom.pending, hfrom.planId_eq ▸ hfrom.done⟩))
    rw [hfrom.promoted] at hne
    exact absurd (Option.some.inj hsame).symm hne
  · left
    cases admitted with
    | dispatch decision => exact absurd rfl (hrefused decision)
    | hold decision => simp [SetAside, admittedRow]
    | refuse decision =>
      simp only [SetAside, admittedRow]
      split <;> simp

variable (plan actorId) in
/-- A claim that finds no step leaves the rows as they are. -/
theorem stepsOf_claimNothing (hnone : s.firstReady planId = none) (row : StepRow) :
    row ∈ stepsOf (claimNothing plan actorId (promoteLoop [] (s.selectSteps planId))
      (s.promote planId)).2 planId ↔ row ∈ stepsOf s planId := by
  have hrows : row ∈ promoteLoop [] (s.selectSteps planId) ↔ row ∈ s.selectSteps planId := by
    rw [promoteLoop_of_firstReady_none hnone]
  rw [mem_promote, mem_selectSteps, ← mem_stepsOf, ← mem_stepsOf] at hrows
  exact hrows

theorem stopped_iff_of_wrote {status : PlanStatus} (h : Wrote s s' planId status) :
    Stopped s' planId ↔ stopped status = true := by
  simp [Stopped, h.written]

/-- A result stops the plan only as a final failure. -/
theorem failed_of_stopped {result error : Val}
    (h : stopped (settledPlanStatus row result error) = true) :
    claimSucceeded result error = false ∧ claimRetryable row result error = false := by
  unfold settledPlanStatus at h
  split at h
  next => cases h
  next hfailed =>
    split at h
    next => cases h
    next hfinal => exact ⟨by simpa using hfailed, by simpa using hfinal⟩

theorem rests_of_fail {id : String} {result error : Val} {out : FinalizeResponse × Store}
    (hs : s.WellFormed) (h : FinalizeStep id claimToken result error s row out)
    (hfailed : claimSucceeded result error = false ∧ claimRetryable row result error = false)
    (hrests : Rests s planId (some id)) : Rests out.2 planId none := by
  refine rests_of_setAside hrests fun row' hrow' => ?_
  obtain ⟨hmem, hplan⟩ := mem_stepsOf.mp hrow'
  obtain ⟨hold, hne⟩ | rfl := h.origin hs hmem
  · rw [← h.planStepId_eq]
    exact .inr ⟨mem_stepsOf.mpr ⟨hold, hplan⟩, fun heq => hne (Option.some.inj heq).symm⟩
  · left
    simp [SetAside, settledRow, writeOutcome, settledStatus, hfailed]

theorem rests_of_reject {decision : String} {decisionBy decisionNote : Option String}
    {d : HoldDecision} {out : ApprovalResponse × Store} (hs : s.WellFormed)
    (h : DecideStep holdId decision decisionBy decisionNote s row d out)
    (hrejected : d ≠ .approved) (hrests : Rests s planId none) : Rests out.2 planId none := by
  refine rests_of_setAside hrests fun row' hrow' => ?_
  obtain ⟨hmem, hplan⟩ := mem_stepsOf.mp hrow'
  obtain ⟨hold, -⟩ | ⟨fingerprint, rfl⟩ := h.origin hs hmem
  · exact .inr ⟨mem_stepsOf.mpr ⟨hold, hplan⟩, by simp⟩
  · left
    cases d with
    | approved => exact absurd rfl hrejected
    | rejected | escalated => simp [SetAside, decidedRow, HoldDecision.stepStatus]

/-! ## Runs -/

/-- Nothing can be handed out: the plan is stopped or over, and at rest. -/
structure Latched (s : Store) (planId : String) : Prop where
  status : ∃ status, s.planStatus planId = some status ∧
    (stopped status = true ∨ status.terminal = true)
  rests : Rests s planId none

/-- A claim on a plan at rest finds nothing and leaves it stopped, unless all
its steps are over. -/
theorem latched_of_claim {out : ClaimResult × Store} (hlatched : Latched s planId)
    (h : ClaimStep rt clock planId actorId holdId claimToken s out) : Latched out.2 planId := by
  cases h with
  | terminal => exact hlatched
  | ready _ _ hnext => cases hlatched.rests.firstReady_eq_none.symm.trans hnext
  | @nothing plan hplan hlive _ hnone =>
    have hwrote := wrote_claimNothing hplan actorId (promoteLoop [] (s.selectSteps planId))
    have hcheckpoint := checkpoint (s.selectSteps planId)
    refine ⟨⟨_, hwrote.written, ?_⟩, rests_congr (stepsOf_claimNothing actorId plan hnone)
      hlatched.rests⟩
    rw [promoteLoop_of_firstReady_none hnone]
    generalize checkpointStatus (s.selectSteps planId) = status at hcheckpoint
    cases hcheckpoint with
    | blocked | awaiting | paused => exact .inl rfl
    | completed => exact .inr rfl
    | executing hmem hhands =>
      cases hlatched.rests _ (mem_stepsOf.mpr (mem_selectSteps.mp hmem)) (.inl hhands)

/-- One step keeps the plan latched unless it lifts the stop. -/
theorem latched_step (hw : w.WellFormed) (h : Latched w.store planId) (hstep : Step rt w e w') :
    Latched w'.store planId ∨ Releases planId e ∧ ¬Stopped w'.store planId := by
  have hview := hstep.onPlan hw planId
  obtain ⟨op, outcome⟩ := e
  obtain ⟨s', issued⟩ := w'
  cases hview with
  | untouched hsame =>
    exact .inl ⟨hsame.status ▸ h.status, rests_congr (fun row => by rw [hsame.steps]) h.rests⟩
  | compile hcompile =>
    obtain ⟨plan, hplan, -, hopen⟩ := hcompile.plan
    obtain ⟨status, hstatus, hshut⟩ := h.status
    cases (planStatus_of_selectPlans hplan).symm.trans hstatus
    rcases hopen with hs | hs <;> simp [hs, stopped, PlanStatus.terminal] at hshut
  | claim hclaim => exact .inl (latched_of_claim h hclaim)
  | @finalize _ _ _ _ _ row _ _ hfinal hplan =>
    have hclaimed := (hw.store.tokens row hfinal.mem).mp (by simp [hfinal.claimToken_eq])
    cases h.rests row (mem_stepsOf.mpr ⟨hfinal.mem, hplan⟩) (.inl (.inl hclaimed))
  | @decide _ _ _ _ row d response _ hdecide hplan =>
    have hwrote := hplan ▸ hdecide.wrote hw.store
    have hresponse : response = _ := hdecide.response
    cases d with
    | approved =>
      refine .inr ⟨⟨response, rfl, ?_, ?_⟩, fun hstopped => ?_⟩
      · rw [hresponse]
        exact hplan
      · rw [hresponse]
      · cases (stopped_iff_of_wrote hwrote).mp hstopped
    | rejected | escalated =>
      exact .inl ⟨⟨_, hwrote.written, .inl rfl⟩,
        rests_of_reject hw.store hdecide (by decide) h.rests⟩
  | resume hresume =>
    refine .inr ⟨⟨rfl, rfl⟩, fun hstopped => ?_⟩
    cases (stopped_iff_of_wrote (hresume.wrote hw.store)).mp hstopped
  | @transition _ _ _ _ response _ htransition =>
    cases hstop : stopped response.planStatus with
    | true =>
      exact .inl ⟨⟨_, htransition.after, .inl hstop⟩,
        rests_congr (fun row => by rw [stepsOf_congr htransition.steps]) h.rests⟩
    | false =>
      refine .inr ⟨⟨rfl, response, rfl, hstop⟩, ?_⟩
      rintro ⟨status, hstatus, hstop'⟩
      cases htransition.after.symm.trans hstatus
      simp [hstop] at hstop'
  | cancel hcancel =>
    cases hcancel with
    | replay => exact .inl h
    | cancel _ _ hsteps hwrote _ =>
      refine .inl ⟨⟨_, hwrote.written, .inr rfl⟩, fun row hrow hwork => ?_⟩
      obtain ⟨hmem, hplan⟩ := mem_stepsOf.mp hrow
      have hover := terminal_of_cancelSteps hsteps hmem hplan
      rcases hwork with (hs | hs | hs) | hs | ⟨hs, -⟩ <;> simp [hs, StepStatus.terminal] at hover

/-- A claim that stops the plan without handing out a step. -/
theorem rests_of_claim {out : ClaimResult × Store} (hs : s.WellFormed)
    (h : ClaimStep rt clock planId actorId holdId claimToken s out) (hbefore : ¬Stopped s planId)
    (hguard : ∀ planStepId,
      Stops rt planId s (.claim clock planId actorId holdId claimToken) planStepId →
        Rests s planId planStepId) (hstopped : Stopped out.2 planId) : Rests out.2 planId none := by
  cases h with
  | terminal => exact absurd hstopped hbefore
  | nothing hplan hlive _ hnone =>
    obtain ⟨status, hstatus, hstop⟩ := hstopped
    have hcheckpoint := checkpoint (s.selectSteps planId)
    have hwritten := (wrote_claimNothing hplan actorId _).written.symm.trans hstatus
    rw [promoteLoop_of_firstReady_none hnone, Option.some.injEq] at hwritten
    rw [hwritten] at hcheckpoint
    refine rests_congr (stepsOf_claimNothing _ _ hnone) ?_
    have hsteps : ∀ {step}, step ∈ s.selectSteps planId → step ∈ stepsOf s planId :=
      fun hmem => mem_stepsOf.mpr (mem_selectSteps.mp hmem)
    cases hcheckpoint with
    | blocked hmem hfailed =>
      exact hguard _ (.checkpoint hplan hlive hnone (hsteps hmem)
        (by rcases hfailed with h | h <;> simp [h]))
    | awaiting hmem hawaits =>
      exact hguard _ (.checkpoint hplan hlive hnone (hsteps hmem) (by simp [hawaits]))
    | paused _ _ hfree =>
      -- Nobody has a step in hand, and none is within reach of a claim.
      intro row hrow hwork
      exact absurd (inHands_of_atWork hs hnone hrow hwork)
        (hfree row (mem_selectSteps.mpr (mem_stepsOf.mp hrow))).2
    | completed | executing => cases hstop
  | @ready plan next admitted hplan hlive hnext hadmitted =>
    have hrefused : ∀ decision, admitted ≠ .dispatch decision := by
      rintro decision rfl
      cases (stopped_iff_of_wrote (wrote_claimReady hplan)).mp hstopped
    exact rests_of_refused hs hnext hrefused
      (hguard _ (.refuse hplan hlive hnext hadmitted hrefused))

/-- Whenever the plan is stopped, it is at rest. -/
theorem rests_step (hw : w.WellFormed) (hrests : Stopped w.store planId → Rests w.store planId none)
    (hstep : Step rt w e w') (hguard : StopsAtRest rt planId w e) :
    Stopped w'.store planId → Rests w'.store planId none := by
  intro hstopped
  by_cases hbefore : Stopped w.store planId
  · obtain ⟨status, hstatus, hstop⟩ := id hbefore
    obtain hlatched | ⟨-, hrunning⟩ :=
      latched_step hw ⟨⟨status, hstatus, .inl hstop⟩, hrests hbefore⟩ hstep
    · exact hlatched.rests
    · exact absurd hstopped hrunning
  have hguard := hguard hbefore
  have hview := hstep.onPlan hw planId
  obtain ⟨op, outcome⟩ := e
  obtain ⟨s', issued⟩ := w'
  cases hview with
  | untouched hsame =>
    obtain ⟨status, hstatus, hstop⟩ := hstopped
    exact absurd ⟨status, hsame.status ▸ hstatus, hstop⟩ hbefore
  | compile hcompile => cases (stopped_iff_of_wrote hcompile.wrote).mp hstopped
  | claim hclaim => exact rests_of_claim hw.store hclaim hbefore hguard hstopped
  | finalize hfinal hplan =>
    have hfailed := failed_of_stopped
      ((stopped_iff_of_wrote (hplan ▸ hfinal.wrote hw.store)).mp hstopped)
    exact rests_of_fail hw.store hfinal hfailed (hguard _ (.fail
      (mem_stepsOf.mpr ⟨hfinal.mem, hplan⟩) hfinal.planStepId_eq hfinal.claimToken_eq hfailed.1
      hfailed.2))
  | @decide _ _ _ _ row d _ _ hdecide hplan =>
    have hrejected : d ≠ .approved := by
      rintro rfl
      cases (stopped_iff_of_wrote (hplan ▸ hdecide.wrote hw.store)).mp hstopped
    exact rests_of_reject hw.store hdecide hrejected (hguard none (.reject
      (mem_stepsOf.mpr ⟨hdecide.awaits.mem, hplan⟩) hdecide.awaits hdecide.decision_eq hrejected))
  | resume hresume => cases (stopped_iff_of_wrote (hresume.wrote hw.store)).mp hstopped
  | transition htransition =>
    obtain ⟨status, hstatus, hstop⟩ := hstopped
    cases htransition.after.symm.trans hstatus
    exact rests_congr (fun row => by rw [stepsOf_congr htransition.steps])
      (hguard none (.transition hstep.requested hstop))
  | cancel hcancel =>
    cases hcancel with
    | replay => exact absurd hstopped hbefore
    | cancel _ _ _ hwrote _ => cases (stopped_iff_of_wrote hwrote).mp hstopped

end Step

/-- In every run that stops the plan at rest only, from every state in which the
plan is stopped, no step of it is handed out before an event that lifts the
stop. -/
theorem stopped_plan_dispatches_nothing (rt : Runtime) (planId : String)
    {w₀ w w' : World} {before history : List Event} (hinit : Initial w₀)
    (hbefore : Run (restrict (Step rt) (StopsAtRest rt planId)) w₀ before w)
    (hstopped : Stopped w.store planId) (hrun : Run (Step rt) w history w')
    (hrelease : ∀ e ∈ history, ¬Releases planId e) :
    ∀ e ∈ history, ¬∃ row, Dispatches planId row e := by
  have hstart : Stopped w₀.store planId → Rests w₀.store planId none := by
    intro _ row hrow
    simp [stepsOf, hinit.steps] at hrow
  obtain ⟨hw, hrests⟩ := hbefore.invariant
    (I := fun v => v.WellFormed ∧ (Stopped v.store planId → Rests v.store planId none))
    (fun v e v' hv hstep => ⟨hstep.1.wellFormed hv.1, rests_step hv.1 hv.2 hstep.1 hstep.2⟩)
    ⟨hinit.wellFormed, hstart⟩
  obtain ⟨status, hstatus, hstop⟩ := id hstopped
  refine hrun.latch (I := fun v => v.WellFormed ∧ Latched v.store planId)
    ?_ ?_ ⟨hw, ⟨status, hstatus, .inl hstop⟩, hrests hstopped⟩ hrelease
  · intro v e v' hv hstep hnot
    exact ⟨hstep.wellFormed hv.1,
      (latched_step hv.1 hv.2 hstep).resolve_right fun h => hnot h.1⟩
  · rintro v e v' hv hstep ⟨row, hd⟩
    obtain ⟨_, _, _, _, _, _, -, -, hfrom⟩ := hstep.dispatchedFrom hv.1 hd
    cases hv.2.rests.firstReady_eq_none.symm.trans hfrom.next_eq

def rejectOp (holdId : String) : Op :=
  .decide holdId "rejected" (some "approver") none

/-- The plan waits at its gate; the approval is refused, and claims before and
after that find nothing to hand out. -/
theorem stopped_plan_dispatches_nothing_gated :
    Stopped (draftWorld.play plainRuntime stopAtGate).store "plan" ∧
      ∀ e ∈ (draftWorld.play plainRuntime stopAtGate).events plainRuntime
          [claimOp "hold3" "token3", rejectOp "hold2", claimOp "hold4" "token4"],
        ¬∃ row, Dispatches "plan" row e := by
  have hstopped : Stopped (draftWorld.play plainRuntime stopAtGate).store "plan" := by
    decide
  have hbefore : draftWorld.Plays plainRuntime (StopsAtRest plainRuntime "plan") stopAtGate := by
    refine ⟨⟨by decide, ?_⟩, ⟨by decide, stopsAtRest_of_claim (by decide)⟩, ⟨by decide, ?_⟩,
      ⟨by decide, stopsAtRest_of_claim (by decide)⟩, trivial⟩
    · intro _ _ hstops
      cases hstops
    · intro _ _ hstops
      cases hstops with
      | fail _ _ _ hfailed => cases hfailed
  have hplays : (draftWorld.play plainRuntime stopAtGate).Plays plainRuntime (fun _ _ => True)
      [claimOp "hold3" "token3", rejectOp "hold2", claimOp "hold4" "token4"] := by
    decide
  refine ⟨hstopped, stopped_plan_dispatches_nothing plainRuntime "plan" initial_draftWorld
    (run_play hbefore) hstopped (run_play hplays).of_restrict ?_⟩
  intro e he
  simp only [World.events, List.mem_cons, List.not_mem_nil, or_false] at he
  rcases he with rfl | rfl | rfl
  · exact id
  · rintro ⟨response, hout, -, happroved⟩
    cases hout
    cases happroved
  · exact id

/-- The first of two independent steps is claimed and fails for good. -/
def failFirst : List Op :=
  [compileOp "step" independentSteps, claimOp "hold1" "token1", failOp "step0" "token1"]

/-- The failure blocks the plan; the next claim hands out the other step. -/
theorem blocked_plan_dispatches :
    ∃ history w e w' row, Initial draftWorld ∧
      Run (Step plainRuntime) draftWorld history w ∧
      w.store.planStatus "plan" = some .blocked ∧
      Step plainRuntime w e w' ∧ Dispatches "plan" row e := by
  have hplays : draftWorld.Plays plainRuntime (fun _ _ => True) failFirst := by
    decide
  have hstep : Step plainRuntime (draftWorld.play plainRuntime failFirst) _ _ :=
    step_perform plainRuntime (show World.FreshFor _ (claimOp "hold2" "token2") by
      decide)
  exact ⟨_, _, _, _, _, initial_draftWorld, (run_play hplays).of_restrict,
    by decide, hstep, 0, none, "hold2", "token2", _, rfl, rfl⟩

end GrowthOs.Execution
