import GrowthOs.Execution.Recompilation
import GrowthOs.Execution.StoppedPlans

/-!
# The orchestrator and the plan status machine

The durable control service moves a plan along `PLAN_TRANSITIONS`; the
orchestrator writes the same column by its own rules, and looks at the steps
more than at the status it replaces.  A claim on a validated plan may leave it
awaiting an approval, a late result may set a blocked plan back to `executing`.
In orderly operation the status and the steps of a plan go together, and then
every run of both services is a run of the machine, seen through the status of
one plan.
-/

namespace GrowthOs.Execution

open Js SequentialPlan DurableExecution Transition

/-! ## The machine -/

/-- A move from one status to another, or none. -/
def Allowed (source target : PlanStatus) : Prop :=
  source = target ∨ target ∈ planTransitions source

instance (source target : PlanStatus) : Decidable (Allowed source target) :=
  inferInstanceAs (Decidable (_ ∨ _))

/-- The status machine of one plan; a plan is neither created nor deleted. -/
def MachineStep (source : Option PlanStatus) (_ : Event) (target : Option PlanStatus) : Prop :=
  match source, target with
  | some source, some target =>
    assertDurablePlanTransition source.text target.text = .ok ()
  | none, none => True
  | _, _ => False

theorem machineStep_refl (status : Option PlanStatus) (e : Event) :
    MachineStep status e status := by
  cases status with
  | none => trivial
  | some status => exact assertDurablePlanTransition_ok.mpr (.inl rfl)

variable {s s' : Store} {planId : String} {status source : PlanStatus} {row : StepRow}

/-- A plan that has been compiled and is not over can be stopped, or goes on. -/
theorem allowed_of_live (hlive : source.terminal = false) (hdraft : source ≠ .draft) :
    Allowed source .paused ∧ Allowed source .blocked ∧
      (stopped source = false → Allowed source .executing) := by
  revert hlive hdraft
  cases source <;> decide

/-! ## Orderly operation -/

/-- The step is in the hands of a worker or waits for an approval. -/
def Active (row : StepRow) : Prop :=
  InHands row ∨ row.status = .awaitingApproval

instance (row : StepRow) : Decidable (Active row) :=
  inferInstanceAs (Decidable (_ ∨ _))

/-- No step of the plan is active. -/
def Idle (s : Store) (planId : String) : Prop :=
  ∀ row ∈ stepsOf s planId, ¬Active row

instance (s : Store) (planId : String) : Decidable (Idle s planId) :=
  inferInstanceAs (Decidable (∀ row ∈ stepsOf s planId, _))

def Admission.isHold : Admission → Bool
  | .hold _ => true
  | _ => false

/-- The plan is executed one step at a time.  Nobody claims a step of it while
another is active or the plan is stopped, and a plan that is not executing yet, or
not again, is claimed only if a step is ready that needs no approval; the plan is
resumed, and moved by the control service, while no step is active, and resumed
only from a stop. -/
def Orderly (rt : Runtime) (planId : String) (s : Store) : Op → Prop
  | .claim clock target actorId _ _ => target = planId → stepsOf s planId ≠ [] →
      ¬Stopped s planId ∧ Idle s planId ∧ ∀ plan ∈ s.selectPlans planId,
        (effectivePlanStatus plan).terminal = false → effectivePlanStatus plan ≠ .executing →
        ∃ next ∈ s.firstReady planId,
          (admission rt clock plan next actorId).toOption.any Admission.isHold = false
  | .resume target _ => target = planId → stepsOf s planId ≠ [] →
      Stopped s planId ∧ Idle s planId
  | .transition target _ toStatus _ _ => target = planId → ∀ status,
      assertDurableRequestedStatus toStatus = .ok status → s.planStatus planId ≠ some status →
      Idle s planId
  | _ => True

/-- How the status of a plan and its steps go together in orderly operation. -/
structure Coherent (status : Option PlanStatus) (rows : List StepRow) : Prop where
  drafts : status = some .draft → rows = []
  hands : ∀ row ∈ rows, InHands row → status = some .executing
  awaits : ∀ row ∈ rows, row.status = .awaitingApproval →
    ∃ source, status = some source ∧ stopped source = true
  single : ∀ row ∈ rows, ∀ row' ∈ rows, Active row → Active row' → row = row'

/-- The plan moves along the machine, and its status and steps still go
together. -/
def Follows (s s' : Store) (planId : String) : Prop :=
  (∀ e, MachineStep (s.planStatus planId) e (s'.planStatus planId)) ∧
    Coherent (s'.planStatus planId) (stepsOf s' planId)

section Step

variable {rt : Runtime} {clock : Int} {actorId : Option String} {holdId claimToken : String}

theorem follows_of_wrote (hsource : s.planStatus planId = some source)
    (hwrote : Wrote s s' planId status) (hallowed : Allowed source status)
    (hcoherent : Coherent (some status) (stepsOf s' planId)) : Follows s s' planId := by
  rw [Follows, hsource, hwrote.written]
  exact ⟨fun _ => assertDurablePlanTransition_ok.mpr hallowed, hcoherent⟩

/-- A transaction that leaves no step active. -/
theorem follows_of_idle (hsource : s.planStatus planId = some source)
    (hwrote : Wrote s s' planId status) (hallowed : Allowed source status)
    (hdraft : status ≠ .draft) (hidle : Idle s' planId) : Follows s s' planId :=
  follows_of_wrote hsource hwrote hallowed
    { drafts := fun h => absurd (Option.some.inj h) hdraft
      hands := fun row hrow h => absurd (.inl h) (hidle row hrow)
      awaits := fun row hrow h => absurd (.inr h) (hidle row hrow)
      single := fun row hrow _ _ h => absurd h (hidle row hrow) }

variable (hs : s.WellFormed) (h : Coherent (s.planStatus planId) (stepsOf s planId))

include h

theorem Coherent.ne_draft (hrow : row ∈ stepsOf s planId)
    (hstatus : s.planStatus planId = some status) : status ≠ .draft := by
  rintro rfl
  simp [h.drafts hstatus] at hrow

theorem follows_of_untouched (hsame : Untouched s s' planId) : Follows s s' planId := by
  rw [Follows, hsame.status, hsame.steps]
  exact ⟨machineStep_refl _, h⟩

/-- The active step is settled, and no other step is active. -/
theorem idle_of_settled (hrow : row ∈ stepsOf s planId) (hactive : Active row)
    (horigin : ∀ row' ∈ s'.steps,
      (row' ∈ s.steps ∧ row'.planStepId ≠ row.planStepId) ∨ ¬Active row') : Idle s' planId := by
  intro row' hrow' hactive'
  obtain ⟨hmem, hplan⟩ := mem_stepsOf.mp hrow'
  obtain ⟨hold, hne⟩ | hnot := horigin row' hmem
  · rw [h.single row' (mem_stepsOf.mpr ⟨hold, hplan⟩) row hrow hactive' hactive] at hne
    exact hne rfl
  · exact hnot hactive'

include hs

/-- A claim that finds a step. -/
theorem follows_of_claimReady {plan : PlanRow} {next : StepRow} {admitted : Admission}
    (hplan : s.selectPlans planId = [plan]) (hlive : (effectivePlanStatus plan).terminal = false)
    (hnext : s.firstReady planId = some next) (hrunning : ¬Stopped s planId)
    (hidle : Idle s planId)
    (hhold : ∀ decision, admitted = .hold decision → effectivePlanStatus plan = .executing)
    (hout : s' = (claimReady rt plan next actorId holdId claimToken admitted
      (s.promote planId)).2) : Follows s s' planId := by
  have hwrote : Wrote s s' planId admitted.planStatus := hout ▸ wrote_claimReady hplan
  have hsource := planStatus_of_selectPlans hplan
  obtain ⟨source, hmem, -⟩ := atWork_of_firstReady hnext
  obtain ⟨hpaused, hblocked, hexecuting⟩ := allowed_of_live hlive (h.ne_draft hmem hsource)
  -- Only the step that was found can be active now.
  have honly : ∀ row ∈ stepsOf s' planId, Active row →
      row = admittedRow claimToken admitted next := by
    intro row hrow hactive
    obtain ⟨hold, -⟩ | ⟨_, hfrom, -⟩ | hadmitted := origin_of_claimReady hs hnext (hout ▸ hrow)
    · exact absurd hactive (hidle row hold)
    · simp [hfrom.promoted, Active, InHands] at hactive
    · exact hadmitted
  have hsingle : ∀ row ∈ stepsOf s' planId, ∀ row' ∈ stepsOf s' planId, Active row →
      Active row' → row = row' := by
    intro row hrow row' hrow' hactive hactive'
    rw [honly row hrow hactive, honly row' hrow' hactive']
  cases admitted with
  | dispatch decision =>
    have hgoes : stopped (effectivePlanStatus plan) = false := by
      by_contra hstop
      exact hrunning ⟨_, hsource, by simpa using hstop⟩
    refine follows_of_wrote hsource hwrote (hexecuting hgoes)
      ⟨by simp [Admission.planStatus], fun _ _ _ => rfl, fun row hrow hawaits => ?_, hsingle⟩
    rw [honly row hrow (.inr hawaits)] at hawaits
    cases hawaits
  | hold decision =>
    rw [hhold decision rfl] at hsource
    refine follows_of_wrote hsource hwrote (show Allowed _ .awaitingApproval by decide)
      ⟨by simp [Admission.planStatus], fun row hrow hhands => ?_, fun _ _ _ => ⟨_, rfl, rfl⟩,
        hsingle⟩
    rw [honly row hrow (.inl hhands)] at hhands
    simp [InHands, admittedRow] at hhands
  | refuse decision =>
    refine follows_of_idle hsource hwrote ?_ (admission_planStatus_ne _).1
      fun row hrow hactive => ?_
    · simp only [Admission.planStatus]
      split
      · exact hpaused
      · exact hblocked
    · rw [honly row hrow hactive] at hactive
      simp only [Active, InHands, admittedRow] at hactive
      split at hactive <;> simp at hactive

theorem follows_of_claim {out : ClaimResult × Store}
    (hclaim : ClaimStep rt clock planId actorId holdId claimToken s out)
    (horderly : Orderly rt planId s (.claim clock planId actorId holdId claimToken)) :
    Follows s out.2 planId := by
  cases hclaim with
  | terminal => exact follows_of_untouched h (.refl s planId)
  | @nothing plan hplan hlive hne hnone =>
    obtain ⟨first, hfirst⟩ := List.exists_mem_of_ne_nil _ hne
    obtain ⟨-, hidle, hbusy⟩ :=
      horderly rfl (List.ne_nil_of_mem (mem_stepsOf.mpr (mem_selectSteps.mp hfirst)))
    have hexecuting : effectivePlanStatus plan = .executing := by
      by_contra hnot
      obtain ⟨next, hnext, -⟩ := hbusy plan (by simp [hplan]) hlive hnot
      cases hnone.symm.trans hnext
    have hwrote := wrote_claimNothing hplan actorId (promoteLoop [] (s.selectSteps planId))
    have hcheckpoint := checkpoint (promoteLoop [] (s.selectSteps planId))
    generalize checkpointStatus (promoteLoop [] (s.selectSteps planId)) = status
      at hwrote hcheckpoint
    refine follows_of_idle (planStatus_of_selectPlans hplan) hwrote ?_ ?_ fun row hrow =>
      hidle row ((stepsOf_claimNothing actorId plan hnone row).mp hrow)
    · rw [hexecuting]
      cases hcheckpoint <;> decide
    · cases hcheckpoint <;> decide
  | ready hplan hlive hnext hadmitted =>
    obtain ⟨row, hrow, -⟩ := atWork_of_firstReady hnext
    obtain ⟨hrunning, hidle, hbusy⟩ := horderly rfl (List.ne_nil_of_mem hrow)
    refine follows_of_claimReady hs h hplan hlive hnext hrunning hidle ?_ rfl
    rintro decision rfl
    by_contra hnot
    obtain ⟨next, hnext', hfree⟩ := hbusy _ (by simp [hplan]) hlive hnot
    cases hnext.symm.trans hnext'
    rw [hadmitted] at hfree
    cases hfree

/-- A result settles the step in hand, and the plan was executing. -/
theorem follows_of_finalize {planStepId : String} {result error : Val}
    {out : FinalizeResponse × Store} (hplan : row.planId = planId)
    (hfinal : FinalizeStep planStepId claimToken result error s row out) :
    Follows s out.2 planId := by
  have hclaimed := (hs.tokens row hfinal.mem).mp (by simp [hfinal.claimToken_eq])
  have hrow := mem_stepsOf.mpr ⟨hfinal.mem, hplan⟩
  refine follows_of_idle (h.hands row hrow (.inl hclaimed)) (hplan ▸ hfinal.wrote hs) ?_
    (settledPlanStatus_ne _ _ _).1 (idle_of_settled h hrow (.inl (.inl hclaimed)) fun row' hrow' =>
      (hfinal.origin hs hrow').imp_right ?_)
  · unfold settledPlanStatus
    split_ifs <;> decide
  · rintro rfl
    simp only [Active, InHands, settledRow, writeOutcome, settledStatus]
    split_ifs <;> simp

/-- A decision ends the only approval the plan waits for. -/
theorem follows_of_decide {decision : String} {decisionBy decisionNote : Option String}
    {d : HoldDecision} {out : ApprovalResponse × Store} (hplan : row.planId = planId)
    (hdecide : DecideStep holdId decision decisionBy decisionNote s row d out) :
    Follows s out.2 planId := by
  have hrow := mem_stepsOf.mpr ⟨hdecide.awaits.mem, hplan⟩
  obtain ⟨status, hstatus, hstop⟩ := h.awaits row hrow hdecide.awaits.awaiting
  refine follows_of_idle hstatus (hplan ▸ hdecide.wrote hs) ?_ (by cases d <;> decide)
    (idle_of_settled h hrow (.inr hdecide.awaits.awaiting) fun row' hrow' =>
      (hdecide.origin hs hrow').imp_right ?_)
  · revert hstop
    cases status <;> cases d <;> decide
  · rintro ⟨_, rfl⟩
    cases d with
    | approved =>
      by_cases htype : row.stepType = .approval <;>
        simp [Active, InHands, decidedRow, HoldDecision.stepStatus, htype]
    | rejected | escalated => simp [Active, InHands, decidedRow, HoldDecision.stepStatus]

omit h

/-- Resuming takes up a stopped plan. -/
theorem follows_of_resume {target : Option StepRow} {out : ResumeResponse × Store}
    (hresume : ResumeStep planId s target out)
    (horderly : Orderly rt planId s (.resume planId actorId)) : Follows s out.2 planId := by
  obtain ⟨row, hmem, hplan⟩ := hresume.compiled
  obtain ⟨⟨status, hstatus, hstop⟩, hidle⟩ :=
    horderly rfl (List.ne_nil_of_mem (mem_stepsOf.mpr ⟨hmem, hplan⟩))
  refine follows_of_idle hstatus (hresume.wrote hs) ?_ (by decide) fun row hrow hactive => ?_
  · revert hstop
    cases status <;> decide
  · obtain ⟨hmem, hplan⟩ := mem_stepsOf.mp hrow
    obtain hold | ⟨_, -, rfl⟩ := hresume.origin hs hmem
    · exact hidle row (mem_stepsOf.mpr ⟨hold, hplan⟩) hactive
    · simp [Active, InHands] at hactive

omit hs
include h

theorem follows_of_transition {out : TransitionResponse × Store}
    (htransition : TransitionStep planId s out)
    (hguard : s.planStatus planId ≠ some out.1.planStatus → Idle s planId) :
    Follows s out.2 planId := by
  have hsteps := stepsOf_congr htransition.steps planId
  by_cases hsame : s.planStatus planId = some out.1.planStatus
  · exact follows_of_untouched h ⟨htransition.after.trans hsame.symm, hsteps⟩
  have hchanged : out.1.previousStatus ≠ out.1.planStatus :=
    fun heq => hsame (heq ▸ htransition.status)
  have hmoved := htransition.allowed.resolve_left hchanged
  have hwrote := htransition.wrote.resolve_left fun heq => hchanged heq.1
  have hidle := hguard hsame
  rw [Idle, ← hsteps] at hidle
  refine follows_of_idle htransition.status hwrote (.inr hmoved) (fun hdraft => ?_) hidle
  rw [hdraft] at hmoved
  revert hmoved
  cases out.1.previousStatus <;> decide

theorem follows_of_cancel {out : CancelResponse × Store} (hcancel : CancelStep planId s out) :
    Follows s out.2 planId := by
  cases hcancel with
  | replay => exact follows_of_untouched h (.refl s planId)
  | @cancel s' source hstatus hlive hsteps hwrote _ =>
    refine follows_of_idle hstatus hwrote ?_ (by decide) fun row hrow hactive => ?_
    · revert hlive
      cases source <;> decide
    · obtain ⟨hmem, hplan⟩ := mem_stepsOf.mp hrow
      have hover := terminal_of_cancelSteps hsteps hmem hplan
      rcases hactive with (hs | hs | hs) | hs <;> simp [hs, StepStatus.terminal] at hover

omit h

theorem follows_of_compile {uuids : Nat → String} {tenantId : String} {steps : Val}
    {stored : List StepRow} {out : CompileResponse × Store}
    (hcompile : CompileStep rt uuids planId tenantId steps s stored out) :
    Follows s out.2 planId := by
  obtain ⟨plan, hplan, -, hopen⟩ := hcompile.plan
  refine follows_of_idle (planStatus_of_selectPlans hplan) hcompile.wrote ?_ (by decide)
    fun row hrow hactive => ?_
  · rcases hopen with hs | hs <;> rw [hs] <;> decide
  · rw [stepsOf_compile hcompile] at hrow
    rcases (hcompile.fresh row hrow).status_cases with hs | ⟨hs, -⟩ <;>
      simp [Active, InHands, hs] at hactive

/-- An orderly step moves the plan along the machine, and keeps its status and its
steps together. -/
theorem follows_of_step {w w' : World} {e : Event} (hw : w.WellFormed)
    (h : Coherent (w.store.planStatus planId) (stepsOf w.store planId)) (hstep : Step rt w e w')
    (horderly : Orderly rt planId w.store e.op) : Follows w.store w'.store planId := by
  have hview := hstep.onPlan hw planId
  obtain ⟨op, outcome⟩ := e
  obtain ⟨s', issued⟩ := w'
  cases hview with
  | untouched hsame => exact follows_of_untouched h hsame
  | compile hcompile => exact follows_of_compile hcompile
  | claim hclaim => exact follows_of_claim hw.store h hclaim horderly
  | finalize hfinal hplan => exact follows_of_finalize hw.store h hplan hfinal
  | decide hdecide hplan => exact follows_of_decide hw.store h hplan hdecide
  | resume hresume => exact follows_of_resume hw.store hresume horderly
  | transition htransition =>
    exact follows_of_transition h htransition (horderly rfl _ hstep.requested)
  | cancel hcancel => exact follows_of_cancel h hcancel

end Step

/-- Every orderly run of both services is, seen through the status of one plan,
a run of the machine. -/
theorem orchestrator_refines_plan_machine (rt : Runtime) (planId : String)
    {w₀ w : World} {history : List Event} (hinit : Initial w₀)
    (hrun : Run (restrict (Step rt) fun v e => Orderly rt planId v.store e.op) w₀ history w) :
    Run MachineStep (w₀.store.planStatus planId) history (w.store.planStatus planId) := by
  have hempty : stepsOf w₀.store planId = [] := by
    rw [stepsOf, hinit.steps, List.filter_nil]
  have hstart : Coherent (w₀.store.planStatus planId) (stepsOf w₀.store planId) := by
    rw [hempty]
    exact ⟨fun _ => rfl, by simp, by simp, by simp⟩
  have hstrong := hrun.strengthen
    (I := fun v => v.WellFormed ∧ Coherent (v.store.planStatus planId) (stepsOf v.store planId))
    (fun v e v' hv hstep => ⟨hstep.1.wellFormed hv.1,
      (follows_of_step hv.1 hv.2 hstep.1 hstep.2).2⟩) ⟨hinit.wellFormed, hstart⟩
  exact hstrong.simulates (f := fun v => v.store.planStatus planId) fun v e v' hstep =>
    (follows_of_step hstep.2.1 hstep.2.2 hstep.1.1 hstep.1.2).1 e

/-- The first step completes, the second is held, approved, claimed and
completed, and the plan is found completed. -/
def finishAfterGate : List Op :=
  stopAtGate ++ [approveOp "hold2", claimOp "hold3" "token3", succeedOp "step1" "token3",
    claimOp "hold4" "token4"]

theorem orchestrator_refines_plan_machine_gated :
    Run MachineStep (some .draft) (draftWorld.events plainRuntime finishAfterGate)
      (some .completed) := by
  have hplays : draftWorld.Plays plainRuntime
      (fun v e => Orderly plainRuntime "plan" v.store e.op) finishAfterGate :=
    ⟨⟨by decide, trivial⟩, ⟨by decide, fun _ _ => by decide⟩, ⟨by decide, trivial⟩,
      ⟨by decide, fun _ _ => by decide⟩, ⟨by decide, trivial⟩,
      ⟨by decide, fun _ _ => by decide⟩, ⟨by decide, trivial⟩, ⟨by decide, fun _ _ => by decide⟩,
      trivial⟩
  have hrun := orchestrator_refines_plan_machine plainRuntime "plan" initial_draftWorld
    (run_play hplays)
  exact hrun

/-- One step that needs an approval. -/
def approvalFirst : List Val :=
  [describeStep "publish" [] [("approval_policy", .obj [("required", .bool true)])]]

def approvalFirstWorld : World :=
  draftWorld.perform plainRuntime (compileOp "step" approvalFirst)

/-- The first claim moves the plan from `validated` to `awaiting_approval`. -/
theorem validated_plan_awaits_approval :
    ∃ history e w, Initial draftWorld ∧
      Run (Step plainRuntime) draftWorld history approvalFirstWorld ∧
      Step plainRuntime approvalFirstWorld e w ∧ e.op.orchestrates = true ∧
      ¬MachineStep (approvalFirstWorld.store.planStatus "plan") e (w.store.planStatus "plan") := by
  have hcompile : Step plainRuntime draftWorld _ approvalFirstWorld :=
    step_perform plainRuntime (by decide)
  have hclaim := step_perform plainRuntime
    (show approvalFirstWorld.FreshFor (claimOp "hold1" "token1") by decide)
  refine ⟨_, _, _, initial_draftWorld, .single hcompile, hclaim, rfl, ?_⟩
  intro hmove
  exact absurd (assertDurablePlanTransition_ok.mp hmove)
    (show ¬Allowed .validated .awaitingApproval by decide)

end GrowthOs.Execution
