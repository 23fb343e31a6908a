import GrowthOs.Execution.Attempts

/-!
# Progress of a plan

A compiled step depends on earlier steps of its plan or on itself, so a plan
without a ready step waits for one of its own steps.  Nothing that happens to
other plans makes a difference to it.
-/

namespace GrowthOs.Execution

open Js SequentialPlan Transition List

/-! ## Dependencies point backwards -/

/-- Each step depends on keys among `keys`, on the steps before it and on
itself. -/
def Backward : List String → List StepSpec → Prop
  | _, [] => True
  | keys, spec :: rest =>
    (∀ key ∈ spec.dependsOn, key ∈ spec.stepKey :: keys) ∧ Backward (spec.stepKey :: keys) rest

/-- What the steps of a plan were compiled to. -/
def specsOf (s : Store) (planId : String) : List StepSpec :=
  (stepsOf s planId).map StepRow.toStepSpec

section Step

variable {rt : Runtime} {planId tenantId : String} {uuids : Nat → String}

theorem backward_of_compileFrom {index : Nat} {previous : Option Val} {keys : List String}
    {sources : List Val} {steps : List CompiledStep} {stored : List StepRow}
    (h : compileFrom rt planId tenantId uuids index previous keys sources = .ok steps)
    (hstored : Forall₂ StoredAs steps stored) : Backward keys (stored.map StepRow.toStepSpec) := by
  induction sources generalizing index previous keys steps stored with
  | nil =>
    cases h
    cases hstored
    trivial
  | cons source rest ih =>
    obtain ⟨step, others, rfl, hstep, hothers⟩ := compileFrom_cons_ok h
    cases hstored with
    | cons hrow hrest =>
      obtain ⟨_, -, rfl⟩ := hrow
      exact ⟨hstep.dependsOn_known, ih hothers hrest⟩

theorem backward_step {w w' : World} {e : Event} (hw : w.WellFormed) (hstep : Step rt w e w')
    (hback : ∀ planId, Backward [] (specsOf w.store planId)) (planId : String) :
    Backward [] (specsOf w'.store planId) := by
  have hview := hstep.onPlan hw planId
  cases hop : e.op.isCompile with
  | false =>
    have hspecs := ((effect_of_exec hw.store hstep.runs).evolves hw.store hop).map_eq
      fun _ _ hchange => hchange.toStepSpec_eq
    replace hspecs := congrArg (filter fun spec => spec.planId == planId) hspecs
    rw [filter_map, filter_map] at hspecs
    exact (congrArg (Backward []) hspecs).mpr (hback planId)
  | true =>
    obtain ⟨op, outcome⟩ := e
    cases hview with
    | untouched h =>
      rw [specsOf, h.steps]
      exact hback planId
    | compile h =>
      obtain ⟨-, -, sources, -, -, hfrom⟩ := compileSequentialPlanSteps_ok h.compiled
      rw [specsOf, stepsOf_compile h]
      exact backward_of_compileFrom hfrom h.stored_as
    | _ => cases hop

end Step

/-! ## What a plan waits for -/

variable {s : Store} {planId : String} {row : StepRow}

/-- The step waits for a worker or an operator, or for itself. -/
def Waiting (row : StepRow) : Prop :=
  row.status ∉ [.pending, .ready, .completed] ∨
    row.status = .pending ∧ row.stepKey ∈ row.dependsOn

/-- The first open step of a plan without a ready one is waiting. -/
theorem completed_or_waiting (hs : s.WellFormed) (hnone : s.firstReady planId = none)
    {keys : List String} {rows : List StepRow} (hrows : rows ⊆ stepsOf s planId)
    (hkeys : ∀ key ∈ keys, s.Done planId key)
    (hback : Backward keys (rows.map StepRow.toStepSpec)) :
    (∀ row ∈ rows, row.status = .completed) ∨ ∃ row ∈ rows, Waiting row := by
  induction rows generalizing keys with
  | nil => simp
  | cons row rest ih =>
    obtain ⟨hrow, hrest⟩ := cons_subset.mp hrows
    obtain ⟨hmem, hplan⟩ := mem_stepsOf.mp hrow
    rw [exists_mem_cons_iff, forall_mem_cons]
    by_cases hcompleted : row.status = .completed
    · have hdone : ∀ key ∈ row.stepKey :: keys, s.Done planId key :=
        forall_mem_cons.mpr ⟨⟨row, hmem, hplan, rfl, hcompleted⟩, hkeys⟩
      exact (ih hrest hdone hback.2).imp (⟨hcompleted, ·⟩) .inr
    · refine .inr (.inl ?_)
      have hunready := fun h => firstReady_ne_none hs hmem hplan h hnone
      by_cases hpending : row.status = .pending
      · refine .inr ⟨hpending, by_contra fun hself => hunready (.inr ⟨hpending, ?_⟩)⟩
        exact fun key hkey => hkeys key
          ((mem_cons.mp (hback.1 key hkey)).resolve_left fun heq => hself (heq ▸ hkey))
      · have hready : row.status ≠ .ready := fun hready => hunready (.inl hready)
        exact .inl (by simp [hpending, hready, hcompleted])

/-- In every reachable state, a plan in which no claim finds a ready step has
completed all its steps, or waits for a step that is claimed, stopped or over
without success, or for one that depends on itself. -/
theorem plan_without_ready_step_waits (rt : Runtime) {w : World} (hreach : Reachable rt w)
    (hnone : w.store.firstReady planId = none) :
    (∀ row ∈ stepsOf w.store planId, row.status = .completed) ∨
      ∃ row ∈ stepsOf w.store planId, Waiting row := by
  obtain ⟨w₀, history, hinit, hrun⟩ := hreach
  have hback := hrun.invariant
    (I := fun v => v.WellFormed ∧ ∀ planId, Backward [] (specsOf v.store planId))
    (fun v e v' hv hstep => ⟨hstep.wellFormed hv.1, backward_step hv.1 hstep hv.2⟩)
    ⟨hinit.wellFormed, by simp [hinit.steps, specsOf, stepsOf, Backward]⟩
  exact completed_or_waiting hback.1.store hnone (Subset.refl _) (by simp) (hback.2 planId)

/-- A step that depends on itself is compiled, and its plan waits for it. -/
theorem plan_waits_for_itself :
    ∃ row ∈ stepsOf (draftWorld.perform plainRuntime
      (compileOp "step" [describeStep "loop" ["loop"] []])).store "plan", Waiting row := by
  have hstep := @step_perform plainRuntime draftWorld
    (compileOp "step" [describeStep "loop" ["loop"] []]) (by decide)
  have hreach : Reachable plainRuntime _ := ⟨_, _, initial_draftWorld, .single hstep⟩
  exact (plan_without_ready_step_waits plainRuntime hreach rfl).resolve_left (by decide)

/-! ## Plans do not touch each other -/

/-- The operation is about the plan. -/
def Op.Concerns (s : Store) (planId : String) : Op → Prop
  | .finalize planStepId .. => ∃ row ∈ stepsOf s planId, row.planStepId = planStepId
  | .decide holdId .. => ∃ row ∈ stepsOf s planId, s.Awaits holdId row
  | .compile _ target .. | .claim _ target .. | .resume target _ | .transition target ..
  | .cancel target .. => target = planId

/-- In every run of operations about other plans, throwing ones included, a plan
keeps its status and its steps. -/
theorem plan_untouched_by_others (rt : Runtime) {w w' : World} {history : List Event}
    (hreach : Reachable rt w) (hrun : Run (restrict (Step rt) fun v e =>
      ¬e.op.Concerns v.store planId) w history w') :
    Untouched w.store w'.store planId := by
  refine invariant_of_run (I := fun v => Untouched w.store v.store planId) ?_ hrun
    hreach.wellFormed (.refl _ _)
  intro v e v' hv hsame hstep hother
  have hview := hstep.onPlan hv planId
  obtain ⟨op, outcome⟩ := e
  cases hview with
  | untouched h => exact ⟨h.status.trans hsame.status, h.steps.trans hsame.steps⟩
  | finalize h hplan => exact absurd ⟨_, mem_stepsOf.mpr ⟨h.mem, hplan⟩, h.planStepId_eq⟩ hother
  | decide h hplan => exact absurd ⟨_, mem_stepsOf.mpr ⟨h.awaits.mem, hplan⟩, h.awaits⟩ hother
  | _ => exact absurd rfl hother

/-- Compiling another plan leaves the steps of a compiled one. -/
theorem plan_untouched_by_compile :
    let w : World := ⟨⟨[draftPlan, { draftPlan with planId := "other" }], [], [], [], []⟩, []⟩
    let op : Op := .compile (numbered "late") "other" "tenant" (.arr gatedSteps) none
    let w₁ := w.perform plainRuntime (compileOp "step" gatedSteps)
    (stepsOf w₁.store "plan").map (·.stepKey) = ["draft", "publish"] ∧
      Untouched w₁.store (w₁.perform plainRuntime op).store "plan" := by
  intro w op w₁
  have hinit : Initial w := ⟨by decide, rfl, fun hold hmem => absurd hmem not_mem_nil⟩
  have hcompile := @step_perform plainRuntime w (compileOp "step" gatedSteps) (by decide)
  have hstep := @step_perform plainRuntime w₁ op (by decide)
  have hother : "other" ≠ "plan" := by decide
  exact ⟨by decide, plan_untouched_by_others plainRuntime ⟨w, _, hinit, .single hcompile⟩
    (.single ⟨hstep, hother⟩)⟩

end GrowthOs.Execution
