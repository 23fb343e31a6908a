import GrowthOs.Execution.Plan

/-!
# Terminal plans

Compiling, claiming, transitions and cancellations test whether the plan is
terminal.  Resuming, finalizing a claim and deciding an approval do not: they
look at the step rows only, and each of them writes a live plan status.  A
terminal plan stays as it is in every run that avoids those three.
-/

namespace GrowthOs.Execution

open Js SequentialPlan DurableExecution Transition

/-- The operations that take up a plan whatever its status is: settling a claim
that is held on one of its steps, deciding an approval one of them awaits, and
resuming it. -/
inductive Reopens (planId : String) (s : Store) : Op → Prop
  | finalize {row : StepRow} {planStepId claimToken : String}
      {result error : Val} {actorId : Option String}
      (hrow : row ∈ stepsOf s planId) (hid : row.planStepId = planStepId)
      (htoken : row.claimToken = some claimToken) :
      Reopens planId s (.finalize planStepId claimToken result error actorId)
  | decide {row : StepRow} {holdId decision : String}
      {decisionBy decisionNote : Option String} {d : HoldDecision}
      (hrow : row ∈ stepsOf s planId) (hawaits : s.Awaits holdId row)
      (hdecision : HoldDecision.ofText decision = some d) :
      Reopens planId s (.decide holdId decision decisionBy decisionNote)
  | resume {row : StepRow} {actorId : Option String}
      (hrow : row ∈ stepsOf s planId) : Reopens planId s (.resume planId actorId)

variable {status : PlanStatus}

theorem planTransitions_of_terminal (h : status.terminal = true) : planTransitions status = [] := by
  cases status <;> first | rfl | cases h

/-- One step leaves a terminal plan alone or takes it up again. -/
theorem untouched_or_reopens {rt : Runtime} {planId : String} {w w' : World} {e : Event}
    (hw : w.WellFormed) (hstep : Step rt w e w')
    (hstatus : w.store.planStatus planId = some status) (hterminal : status.terminal = true) :
    Untouched w.store w'.store planId ∨
      Reopens planId w.store e.op ∧ e.outcome.committed = true := by
  have hview := hstep.onPlan hw planId
  obtain ⟨op, outcome⟩ := e
  obtain ⟨s', issued⟩ := w'
  cases hview with
  | untouched h => exact .inl h
  | compile h =>
    obtain ⟨plan, hplan, -, hopen⟩ := h.plan
    cases (planStatus_of_selectPlans hplan).symm.trans hstatus
    rcases hopen with hs | hs <;> simp [hs, PlanStatus.terminal] at hterminal
  | claim h =>
    obtain rfl : s' = w.store := h.eq_of_terminal hstatus hterminal
    exact .inl (.refl _ planId)
  | finalize h hplan =>
    exact .inr ⟨.finalize (mem_stepsOf.mpr ⟨h.mem, hplan⟩) h.planStepId_eq h.claimToken_eq, rfl⟩
  | decide h hplan =>
    exact .inr ⟨.decide (mem_stepsOf.mpr ⟨h.awaits.mem, hplan⟩) h.awaits h.decision_eq, rfl⟩
  | resume h =>
    obtain ⟨row, hrow, hplan⟩ := h.compiled
    exact .inr ⟨.resume (mem_stepsOf.mpr ⟨hrow, hplan⟩), rfl⟩
  | transition h =>
    cases h.status.symm.trans hstatus
    have hsame := h.allowed
    simp only [planTransitions_of_terminal hterminal, List.not_mem_nil, or_false] at hsame
    exact .inl ⟨h.after.trans (hsame ▸ hstatus.symm), stepsOf_congr h.steps planId⟩
  | cancel h =>
    cases h with
    | replay => exact .inl (.refl _ planId)
    | cancel hlive hnot =>
      cases hlive.symm.trans hstatus
      simp [hterminal] at hnot

/-- Nobody takes the plan up again while it is terminal. -/
def RespectsTerminal (planId : String) (w : World) (e : Event) : Prop :=
  ∀ status, w.store.planStatus planId = some status → status.terminal = true →
    ¬Reopens planId w.store e.op

/-- From every reachable state with a terminal plan, no run that respects it
changes its status or one of its step rows. -/
theorem terminal_plan_stays_terminal (rt : Runtime) (planId : String)
    {w w' : World} {history : List Event} {status : PlanStatus} (hreach : Reachable rt w)
    (hstatus : w.store.planStatus planId = some status) (hterminal : status.terminal = true)
    (hrun : Run (restrict (Step rt) (RespectsTerminal planId)) w history w') :
    w'.store.planStatus planId = some status ∧
      stepsOf w'.store planId = stepsOf w.store planId := by
  refine invariant_of_run (I := fun v => v.store.planStatus planId = some status ∧
      stepsOf v.store planId = stepsOf w.store planId) ?_
    hrun hreach.wellFormed ⟨hstatus, rfl⟩
  intro v e v' hv hI hstep hrespects
  obtain h | ⟨hreopens, -⟩ := untouched_or_reopens hv hstep hI.1 hterminal
  · exact ⟨h.status.trans hI.1, h.steps.trans hI.2⟩
  · exact absurd hreopens (hrespects status hI.1 hterminal)

/-- The plan is compiled, its first step claimed, and the plan cancelled. -/
def cancelWhileClaimed : List Op :=
  [compileOp "step" gatedSteps, claimOp "hold1" "token1", .cancel "plan" none none none]

/-- The worker comes back too late, and the next tick finds nothing to do. -/
theorem terminal_plan_stays_terminal_cancelled :
    ((draftWorld.play plainRuntime cancelWhileClaimed).play plainRuntime
      [succeedOp "step0" "token1", claimOp "hold2" "token2"]).store.planStatus
        "plan" = some .cancelled := by
  have hreach : Reachable plainRuntime (draftWorld.play plainRuntime cancelWhileClaimed) :=
    ⟨_, _, initial_draftWorld, (run_play (G := fun _ _ => True) (by decide)).of_restrict⟩
  have hplays : (draftWorld.play plainRuntime cancelWhileClaimed).Plays
      plainRuntime (RespectsTerminal "plan")
      [succeedOp "step0" "token1", claimOp "hold2" "token2"] := by
    refine ⟨⟨by decide, ?_⟩, ⟨by decide, ?_⟩, trivial⟩
    · have hfree : ∀ row ∈ stepsOf (draftWorld.play plainRuntime
          cancelWhileClaimed).store "plan", row.claimToken = none := by
        decide
      intro _ _ _ hreopens
      cases hreopens with
      | finalize hrow hid htoken => simp [hfree _ hrow] at htoken
    · intro _ _ _ hreopens
      cases hreopens
  exact (terminal_plan_stays_terminal plainRuntime "plan" hreach (by decide)
    (by decide) (run_play hplays)).1

/-- The plan is compiled, its step claimed, and the plan declared failed by an
operator. -/
def failWhileClaimed : List Op :=
  [compileOp "step" retriedSteps, claimOp "hold1" "token1",
    .transition "plan" none (.str "failed") none none]

/-- The worker reports an error that may be retried: the step is ready again,
the plan executes again. -/
theorem failed_plan_executes_again :
    ∃ history w w', Initial draftWorld ∧
      Run (Step plainRuntime) draftWorld history w ∧
      w.store.planStatus "plan" = some .failed ∧
      Step plainRuntime w (w.event plainRuntime (.finalize "step0" "token1"
        .undefined (.obj [("message", .str "timeout")]) none)) w' ∧
      w'.store.planStatus "plan" = some .executing ∧
      (∃ row ∈ stepsOf w'.store "plan", row.status = .ready) ∧
      ∀ row ∈ stepsOf w.store "plan", row.status ≠ .ready := by
  have hplays : draftWorld.Plays plainRuntime (fun _ _ => True) failWhileClaimed := by
    decide
  exact ⟨_, _, _, initial_draftWorld, (run_play hplays).of_restrict, by decide,
    step_perform plainRuntime (by decide), by decide, by decide, by decide⟩

end GrowthOs.Execution
