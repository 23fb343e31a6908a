import GrowthOs.Execution.Plan

/-!
# Recompilation after execution has started

Compiling a plan deletes its step rows, so a plan that has started must refuse
to be compiled again.  The guard reads the status of the plan only, and two
operations set that status back to `validated` in the middle of an execution:
resuming a plan and approving a step.  Without those two, a started plan is
never in a status the guard lets pass.
-/

namespace GrowthOs.Execution

open Js SequentialPlan Transition

/-- A step of the plan has been claimed at some time. -/
def Started (s : Store) (planId : String) : Prop :=
  ∃ row ∈ stepsOf s planId, 0 < row.attemptCount ∨ row.status = .claimed ∨ row.status = .completed

instance (s : Store) (planId : String) : Decidable (Started s planId) :=
  inferInstanceAs (Decidable (∃ row ∈ _, _))

/-- The transactions of the orchestrator. -/
def Op.orchestrates : Op → Bool
  | .transition .. => false
  | .cancel .. => false
  | _ => true

/-- The operation does not reopen the plan for compilation: it resumes the
plan before it has started, and of its steps it approves only one that is left
to execute, again before the plan has started. -/
def KeepsClosed (planId : String) (w : World) (e : Event) : Prop :=
  match e.op with
  | .decide holdId decision _ _ =>
    decision = "approved" → ∀ row, w.store.Awaits holdId row → row.planId = planId →
        row.stepType ≠ .approval ∧ ¬Started w.store planId
  | .resume target _ => target = planId → ¬Started w.store planId
  | _ => True

/-- The plan is in a status in which the guard refuses it. -/
def Closed (s : Store) (planId : String) : Prop :=
  ∀ status, s.planStatus planId = some status → status ≠ .draft ∧ status ≠ .validated

variable {rt : Runtime} {s : Store} {planId : String}

theorem compile_throws (h : Closed s planId) (uuids : Nat → String) (tenantId : String)
    (steps : Val) (actorId : Option String) :
    ∃ error, exec rt (.compile uuids planId tenantId steps actorId) s = (.threw error, s) := by
  cases hresult : persistCompiledSequentialPlan rt uuids planId tenantId steps actorId s with
  | error e => exact ⟨e, congrArg (commit s .compiled) hresult⟩
  | ok done =>
    obtain ⟨stored, hcompile⟩ := persistCompiledSequentialPlan_ok hresult
    obtain ⟨plan, hplan, -, hstatus⟩ := hcompile.plan
    obtain ⟨hdraft, hvalidated⟩ := h _ (planStatus_of_selectPlans hplan)
    exact absurd hstatus (by simp [hdraft, hvalidated])

/-! ## One step -/

theorem checkpointStatus_ne (steps : List StepRow) :
    checkpointStatus steps ≠ .draft ∧ checkpointStatus steps ≠ .validated := by
  have h := checkpoint steps
  generalize checkpointStatus steps = status at h ⊢
  cases h <;> simp

theorem admission_planStatus_ne (admitted : Admission) :
    admitted.planStatus ≠ .draft ∧ admitted.planStatus ≠ .validated := by
  cases admitted with
  | dispatch decision | hold decision => simp [Admission.planStatus]
  | refuse decision =>
    cases h : decision.pauseRequired <;> simp [Admission.planStatus, h]

theorem closed_of_wrote {s' : Store} {status : PlanStatus} (h : Wrote s s' planId status)
    (hstatus : status ≠ .draft ∧ status ≠ .validated) : Closed s' planId := by
  intro found hfound
  rw [h.written] at hfound
  cases hfound
  exact hstatus

/-- A claim never leaves a plan open for compilation. -/
theorem closed_of_claim {clock : Int} {actorId : Option String} {holdId claimToken : String}
    {out : ClaimResult × Store} (h : ClaimStep rt clock planId actorId holdId claimToken s out) :
    Closed out.2 planId := by
  cases h with
  | terminal hplan hterminal =>
    intro status hstatus
    rw [planStatus_of_selectPlans hplan] at hstatus
    cases hstatus
    constructor <;> intro heq <;> rw [heq] at hterminal <;> cases hterminal
  | nothing hplan _ _ _ =>
    exact closed_of_wrote (wrote_claimNothing hplan _ _) (checkpointStatus_ne _)
  | ready hplan _ _ _ =>
    exact closed_of_wrote (wrote_claimReady hplan) (admission_planStatus_ne _)

theorem settledPlanStatus_ne (row : StepRow) (result error : Val) :
    settledPlanStatus row result error ≠ .draft ∧
      settledPlanStatus row result error ≠ .validated := by
  unfold settledPlanStatus
  repeat' split
  all_goals decide

/-- Nothing has started if every row keeps its attempts and gets no status of
a started step. -/
theorem not_started_of_rows {s' : Store} (h : ¬Started s planId)
    (hrows : ∀ row' ∈ stepsOf s' planId, ∃ row ∈ stepsOf s planId,
      row'.attemptCount = row.attemptCount ∧ (row'.status = row.status ∨
        row'.status ≠ .claimed ∧ row'.status ≠ .completed)) : ¬Started s' planId := by
  rintro ⟨row', hmem', hstarted⟩
  obtain ⟨row, hmem, hcount, hstatus⟩ := hrows row' hmem'
  refine h ⟨row, hmem, ?_⟩
  rw [← hcount]
  rcases hstatus with hsame | ⟨hclaimed, hcompleted⟩
  · rwa [← hsame]
  · exact .inl (hstarted.resolve_right (by simp [hclaimed, hcompleted]))

/-- A started plan refuses to be compiled, and stays that way as long as it is
not reopened. -/
theorem closed_step {w w' : World} {e : Event} (hw : w.WellFormed)
    (hI : Started w.store planId → Closed w.store planId) (hstep : Step rt w e w')
    (hop : e.op.orchestrates = true) (hkeep : KeepsClosed planId w e) :
    Started w'.store planId → Closed w'.store planId := by
  have hview := hstep.onPlan hw planId
  obtain ⟨op, outcome⟩ := e
  intro hstarted
  cases hview with
  | untouched h =>
    unfold Started at hstarted
    rw [h.steps] at hstarted
    intro status hstatus
    rw [h.status] at hstatus
    exact hI hstarted status hstatus
  | compile h =>
    obtain ⟨row, hrow, hrowStarted⟩ := hstarted
    rw [stepsOf_compile h] at hrow
    have hfresh := h.fresh row hrow
    rcases hfresh.status_cases with hstatus | ⟨hstatus, -⟩ <;>
      simp [hfresh.attemptCount_eq, hstatus] at hrowStarted
  | claim h => exact closed_of_claim h
  | finalize h hplan =>
    subst hplan
    exact closed_of_wrote (h.wrote hw.store) (settledPlanStatus_ne _ _ _)
  | @decide _ _ _ _ row d _ _ h hplan =>
    subst hplan
    cases d with
    | approved =>
      obtain ⟨htype, hnot⟩ :=
        hkeep (holdDecision_text h.decision_eq) row h.awaits rfl
      refine absurd hstarted (not_started_of_rows hnot ?_)
      intro row' hmem
      rw [mem_stepsOf] at hmem
      obtain ⟨hold, -⟩ | ⟨fingerprint, rfl⟩ := h.origin hw.store hmem.1
      · exact ⟨row', mem_stepsOf.mpr ⟨hold, hmem.2⟩, rfl, .inl rfl⟩
      · refine ⟨row, mem_stepsOf.mpr ⟨h.awaits.mem, rfl⟩, rfl, .inr ?_⟩
        simp [decidedRow, HoldDecision.stepStatus, htype]
    | rejected | escalated =>
      exact closed_of_wrote (h.wrote hw.store) ⟨by decide, by decide⟩
  | resume h =>
    refine absurd hstarted (not_started_of_rows (hkeep rfl) ?_)
    intro row' hmem
    rw [mem_stepsOf] at hmem
    obtain hold | ⟨row, hrow, rfl⟩ := h.origin hw.store hmem.1
    · exact ⟨row', mem_stepsOf.mpr ⟨hold, hmem.2⟩, rfl, .inl rfl⟩
    · obtain ⟨hold, hplan, -⟩ := h.resumable row hrow
      exact ⟨row, mem_stepsOf.mpr ⟨hold, hplan⟩, rfl, .inr (by simp)⟩
  | transition h | cancel h => cases hop

/-! ## Runs -/

/-- In every run of the orchestrator's transactions that never reopens the
plan, a started plan refuses to be compiled again and keeps its rows. -/
theorem started_plan_never_recompiled (rt : Runtime) (planId : String)
    {w₀ w : World} {history : List Event} (hinit : Initial w₀)
    (hrun : Run (restrict (Step rt) fun w e =>
      e.op.orchestrates = true ∧ KeepsClosed planId w e) w₀ history w)
    (hstarted : Started w.store planId) (uuids : Nat → String)
    (tenantId : String) (steps : Val) (actorId : Option String) :
    ∃ error, exec rt (.compile uuids planId tenantId steps actorId) w.store =
      (.threw error, w.store) := by
  have hstart : Started w₀.store planId → Closed w₀.store planId := by
    rintro ⟨row, hrow, -⟩
    simp [stepsOf, hinit.steps] at hrow
  have hclosed := invariant_of_run (I := fun v => Started v.store planId → Closed v.store planId)
    (fun v e v' hv hI hstep hG => closed_step hv hI hstep hG.1 hG.2)
    hrun hinit.wellFormed hstart hstarted
  exact compile_throws hclosed uuids tenantId steps actorId

/-- The plan is compiled and its first step claimed. -/
def claimFirst : List Op :=
  [compileOp "step" gatedSteps, claimOp "hold1" "token1"]

theorem started_plan_never_recompiled_claimed :
    ∃ error, exec plainRuntime (compileOp "other" gatedSteps)
        (draftWorld.play plainRuntime claimFirst).store =
      (.threw error, (draftWorld.play plainRuntime claimFirst).store) := by
  have hplays : draftWorld.Plays plainRuntime
      (fun w e => e.op.orchestrates = true ∧ KeepsClosed "plan" w e)
      claimFirst :=
    ⟨⟨by decide, rfl, trivial⟩, ⟨by decide, rfl, trivial⟩, trivial⟩
  exact started_plan_never_recompiled plainRuntime "plan" initial_draftWorld
    (run_play hplays) (by decide) _ _ _ _

/-- The first step runs to completion, then the second is approved. -/
def completeThenApprove : List Op :=
  claimFirst ++ [succeedOp "step0" "token1", claimOp "hold2" "token2", approveOp "hold2"]

/-- The approval sets the plan back to `validated`, so it can be compiled
again; the row of the completed step is deleted. -/
theorem recompiled_after_approval :
    ∃ history w, Initial draftWorld ∧
      Run (restrict (Step plainRuntime) fun _ e => e.op.orchestrates = true) draftWorld history w ∧
      Started w.store "plan" ∧
      ¬∃ error, exec plainRuntime (compileOp "other" gatedSteps) w.store =
        (.threw error, w.store) := by
  have hplays : draftWorld.Plays plainRuntime
      (fun _ e => e.op.orchestrates = true) completeThenApprove := by
    decide
  have hstarted : Started (draftWorld.play plainRuntime completeThenApprove).store "plan" := by
    decide
  have hdeleted : ¬Started (exec plainRuntime (compileOp "other" gatedSteps)
      (draftWorld.play plainRuntime completeThenApprove).store).2 "plan" := by
    decide
  refine ⟨_, _, initial_draftWorld, run_play hplays, hstarted, ?_⟩
  rintro ⟨error, hthrew⟩
  rw [hthrew] at hdeleted
  exact hdeleted hstarted

end GrowthOs.Execution
