import GrowthOs.SequentialPlan.Orchestrator

/-!
# Promotion and plan statuses

`claimNextStep` promotes pending steps in a loop that mutates the rows it
reads.  Promotion never makes a step completed, so the loop tests every step
against the rows as they were selected: it is a map, and the updates it issues
are one update of the table.
-/

namespace GrowthOs.SequentialPlan

open List

/-! ## Reading the tables -/

variable {s : Store} {planId : String} {row : StepRow}

theorem mem_selectSteps : row ∈ s.selectSteps planId ↔ row ∈ s.steps ∧ row.planId = planId := by
  simp [Store.selectSteps, mem_insertionSort]

variable {plan : PlanRow} (steps : List StepRow) {row' : StepRow}

theorem mem_of_selectPlans (h : s.selectPlans planId = [plan]) :
    plan ∈ s.plans ∧ plan.planId = planId := by
  have hmem : plan ∈ s.selectPlans planId := by simp [h]
  simpa [Store.selectPlans] using hmem

theorem resolveUniqueSequentialRow_ok {α : Type} {rows : List α} {code message : String} {row : α}
    (h : resolveUniqueSequentialRow rows code message = .ok (some row)) : rows = [row] := by
  match rows, h with
  | [_], h => cases h; rfl

/-- The effective status of a plan, `none` for an unknown plan. -/
def Store.planStatus (s : Store) (planId : String) : Option PlanStatus :=
  (s.plans.find? fun plan => plan.planId == planId).map effectivePlanStatus

theorem find_of_selectPlans (h : s.selectPlans planId = [plan]) :
    (s.plans.find? fun plan => plan.planId == planId) = some plan := by
  rw [← List.head?_filter]
  simp only [Store.selectPlans] at h
  simp [h]

theorem planStatus_of_selectPlans (h : s.selectPlans planId = [plan]) :
    s.planStatus planId = some (effectivePlanStatus plan) := by
  rw [Store.planStatus, find_of_selectPlans h, Option.map_some]

/-! ## The promotion loop -/

/-- A step of the plan with this key is completed. -/
def Store.Done (s : Store) (planId key : String) : Prop :=
  ∃ row ∈ s.steps, row.planId = planId ∧ row.stepKey = key ∧ row.status = .completed

/-- What `dependenciesCompleted` reads of a row. -/
def completion (row : StepRow) : String × Bool :=
  (row.stepKey, row.status == .completed)

theorem dependenciesCompleted_eq (row : StepRow) (steps : List StepRow) :
    dependenciesCompleted row steps = row.dependsOn.all fun key =>
      ((steps.map completion).reverse.find? fun c => c.1 == key).any fun c => c.2 := by
  simp only [dependenciesCompleted, byKey, ← map_reverse, List.find?_map, Option.any_map]
  rfl

theorem dependenciesCompleted_congr {steps steps' : List StepRow}
    (hdeps : row'.dependsOn = row.dependsOn) (h : steps'.map completion = steps.map completion) :
    dependenciesCompleted row' steps' = dependenciesCompleted row steps := by
  rw [dependenciesCompleted_eq, dependenciesCompleted_eq, hdeps, h]

theorem done_of_dependenciesCompleted
    (h : dependenciesCompleted row (s.selectSteps planId) = true) :
    ∀ key ∈ row.dependsOn, s.Done planId key := by
  intro key hkey
  have hany := all_eq_true.mp h key hkey
  obtain ⟨found, hfound, hstatus⟩ := (Option.any_eq_true _ _).mp hany
  have hmem : found ∈ s.selectSteps planId :=
    mem_reverse.mp (mem_of_find?_eq_some hfound)
  obtain ⟨hrow, hplan⟩ := mem_selectSteps.mp hmem
  have hfoundKey : found.stepKey = key := by
    simpa using List.find?_some hfound
  exact ⟨found, hrow, hplan, hfoundKey, by simpa using hstatus⟩

/-- One row of the promotion loop, tested against the rows `steps`. -/
def promoteRow (steps : List StepRow) (row : StepRow) : StepRow :=
  if row.status = .pending ∧ dependenciesCompleted row steps then
    { row with status := .ready }
  else row

@[simp] theorem completion_promoteRow (row : StepRow) :
    completion (promoteRow steps row) = completion row := by
  unfold promoteRow
  split
  next h => simp [completion, h.1]
  next => rfl

theorem promoteLoop_eq_map (done todo : List StepRow) :
    promoteLoop (done.map (promoteRow (done ++ todo))) todo =
      (done ++ todo).map (promoteRow (done ++ todo)) := by
  induction todo generalizing done with
  | nil => simp [promoteLoop]
  | cons step rest ih =>
    have hsame : dependenciesCompleted step
        (done.map (promoteRow (done ++ step :: rest)) ++ step :: rest) =
        dependenciesCompleted step (done ++ step :: rest) := by
      apply dependenciesCompleted_congr rfl
      simp [Function.comp_def]
    have hnext := ih (done ++ [step])
    simp only [append_assoc, singleton_append, map_append,
      map_cons, map_nil] at hnext
    simp only [promoteLoop, hsame, map_append, map_cons]
    exact hnext

theorem promoteLoop_nil : promoteLoop [] steps = steps.map (promoteRow steps) := by
  simpa using promoteLoop_eq_map [] steps

/-- The loop makes ready what it changes. -/
theorem promoteLoop_of_not_ready {steps : List StepRow}
    (h : ∀ step ∈ promoteLoop [] steps, step.status ≠ .ready) : promoteLoop [] steps = steps := by
  rw [promoteLoop_nil] at h ⊢
  have hsame : steps.map (promoteRow steps) = steps.map id := by
    apply map_congr_left
    intro step hstep
    have hready := h _ (mem_map_of_mem hstep)
    unfold promoteRow at hready ⊢
    split at hready
    next => exact absurd rfl hready
    next hkept => rw [if_neg hkept, id]
  rw [hsame, map_id]

@[simp] theorem promoteRow_toStepSpec (row : StepRow) :
    (promoteRow steps row).toStepSpec = row.toStepSpec := by
  unfold promoteRow
  split <;> rfl

/-- The store after the promotion loop of `claimNextStep`. -/
def Store.promote (s : Store) (planId : String) : Store :=
  { s with
    steps := s.steps.map fun row =>
      if row.planId = planId then promoteRow (s.selectSteps planId) row
      else row }

theorem mem_promote :
    row ∈ promoteLoop [] (s.selectSteps planId) ↔
      row ∈ (s.promote planId).steps ∧ row.planId = planId := by
  simp only [promoteLoop_nil, mem_map, mem_selectSteps, Store.promote]
  constructor
  · rintro ⟨old, ⟨hmem, hplan⟩, rfl⟩
    exact ⟨⟨old, hmem, by simp [hplan]⟩, by simpa using hplan⟩
  · rintro ⟨⟨old, hmem, rfl⟩, hplan⟩
    by_cases hold : old.planId = planId
    · exact ⟨old, ⟨hmem, hold⟩, by simp [hold]⟩
    · simp [hold] at hplan

/-- A row is promoted once all its dependencies are completed. -/
structure PromotedFrom (s : Store) (planId : String) (row row' : StepRow) : Prop where
  mem : row ∈ s.steps
  planId_eq : row.planId = planId
  pending : row.status = .pending
  done : ∀ key ∈ row.dependsOn, s.Done planId key
  promoted : row' = { row with status := .ready }

theorem promote_origin (h : row' ∈ (s.promote planId).steps) :
    row' ∈ s.steps ∨ ∃ row, PromotedFrom s planId row row' := by
  obtain ⟨row, hrow, rfl⟩ := mem_map.mp h
  by_cases hplan : row.planId = planId
  · by_cases hready : row.status = .pending ∧
        dependenciesCompleted row (s.selectSteps planId) = true
    · exact .inr ⟨row, hrow, hplan, hready.1, done_of_dependenciesCompleted hready.2, by
          simp [promoteRow, hplan, hready]⟩
    · left
      simpa [promoteRow, hplan, hready] using hrow
  · left
    simpa [hplan] using hrow

/-- A pending row is among the promoted ones if the loop made it ready. -/
theorem any_promoted_iff (planId : String) (hids : (s.steps.map fun row => row.planStepId).Nodup)
    (hrow : row ∈ s.steps) (hpending : row.status = .pending) :
    ((promoteLoop [] (s.selectSteps planId)).any fun step =>
        step.planStepId == row.planStepId && step.status == .ready) = true ↔
      row.planId = planId ∧ dependenciesCompleted row (s.selectSteps planId) = true := by
  simp only [promoteLoop_nil, any_map, any_eq_true, mem_selectSteps]
  constructor
  · rintro ⟨old, ⟨hold, hplan⟩, htest⟩
    simp only [Function.comp_apply, promoteRow_toStepSpec, Bool.and_eq_true, beq_iff_eq] at htest
    obtain rfl := inj_on_of_nodup_map hids hold hrow htest.1
    refine ⟨hplan, ?_⟩
    by_contra hdeps
    simp [promoteRow, hdeps, hpending] at htest
  · rintro ⟨hplan, hdeps⟩
    exact ⟨row, ⟨hrow, hplan⟩, by simp [promoteRow, hpending, hdeps]⟩

/-- The updates of the loop, each by the id of one step, promote what the loop
promoted. -/
theorem markPromoted_eq (hids : (s.steps.map fun row => row.planStepId).Nodup) :
    markPromoted s (promoteLoop [] (s.selectSteps planId)) =
      s.promote planId := by
  simp only [markPromoted, Store.promote, Store.updateSteps, Table.update]
  congr 1
  refine map_congr_left fun row hrow => ?_
  by_cases hpending : row.status = .pending
  · have hiff := any_promoted_iff planId hids hrow hpending
    by_cases hready : row.planId = planId ∧ dependenciesCompleted row (s.selectSteps planId) = true
    · simp [hiff.mpr hready, hpending, hready, promoteRow]
    · have hnot := mt hiff.mp hready
      by_cases hplan : row.planId = planId
      · have hdeps : ¬dependenciesCompleted row (s.selectSteps planId) = true :=
          fun hdeps => hready ⟨hplan, hdeps⟩
        simp [hnot, hplan, promoteRow, hdeps]
      · simp [hnot, hplan]
  · simp [hpending, promoteRow]

end GrowthOs.SequentialPlan
