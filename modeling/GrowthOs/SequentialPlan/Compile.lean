import GrowthOs.SequentialPlan.Rows
import Mathlib.Data.List.Nodup

/-!
# Compiling a plan

`compileSequentialPlanSteps` turns the caller's untyped step list into the
rows of a plan.  The keys seen so far accumulate along the list, and a step's
own key is among them when its dependencies are checked.
-/

namespace GrowthOs.SequentialPlan

open Js Throwing List

/-- A compiled step, before it is stored. -/
structure CompiledStep where
  planStepId : String
  planId : String
  tenantId : String
  stepOrder : Nat
  stepKey : String
  stepType : StepType
  workflowId : Val
  workflowKey : Val
  dependsOn : List String
  input : Val
  successCriteria : Val
  retryPolicy : Val
  approvalPolicy : Val
  status : StepStatus
  maxAttempts : Number
  idempotencyKey : String

/-- `String(source.step_key || source.key || default)`, not yet trimmed. -/
def rawStepKey (source : Val) (index : Nat) : Except Val String := do
  let stepKey ← source.get "step_key"
  let fallback := Val.str ("step_" ++ Nat.repr (index + 1))
  (stepKey.or ((source.member "key").or fallback)).toStr

def requireStepType (text : String) : Except Val StepType :=
  match StepType.ofText text with
  | some stepType => .ok stepType
  | none =>
    .error (validationError ("Unsupported step_type '" ++ text ++ "'.")
      validationFailed)

/-- The declared dependencies, or the predecessor's key as it was given. -/
def declaredDependencies (source : Val) (previous : Option Val) (index : Nat) : Except Val Val :=
  let declared :=
    (source.member "depends_on").or (source.member "depends_on_json")
  if declared.truthy then .ok declared
  else
    match previous with
    | none => .ok (.arr [])
    | some before => do
      let key ← rawStepKey before (index - 1)
      .ok (.arr [.str key])

def requireKnownKey (stepKey : String) (keys : List String)
    (dependency : Val) : Except Val String := do
  let key ← dependency.toStr
  rejectIf (key ∉ keys) (validationError ("Step '" ++ stepKey ++
    "' depends on unknown or later step '" ++ key ++ "'.") validationFailed)
  .ok key

def requireDependencies (stepKey : String) (keys : List String) :
    Val → Except Val (List String)
  | .arr dependencies => dependencies.mapM (requireKnownKey stepKey keys)
  | _ =>
    .error (validationError ("depends_on must be an array for '" ++
      stepKey ++ "'.") validationFailed)

/-- `source.max_attempts || retryPolicy.max_attempts || 1`. -/
def declaredAttempts (source retryPolicy : Val) : Except Val Val :=
  let declared := source.member "max_attempts"
  if declared.truthy then .ok declared
  else do
    let fromPolicy ← retryPolicy.get "max_attempts"
    .ok (fromPolicy.or (.num (.ofNat 1)))

/-- `Math.max(1, Math.min(Number(...), 10))`. -/
def boundedAttempts (source retryPolicy : Val) : Except Val Number := do
  let value ← declaredAttempts source retryPolicy
  let attempts ← value.toNumber
  .ok (Number.max (.ofNat 1) (Number.min attempts (.ofNat 10)))

/-- The body of the `map` callback, with the keys of the earlier steps. -/
def compileStep (rt : Runtime) (planId tenantId uuid : String)
    (previous : Option Val) (index : Nat) (keys : List String) (source : Val) :
    Except Val CompiledStep := do
  let stepKey := trim (← rawStepKey source index)
  rejectIf (stepKey = "" ∨ stepKey ∈ keys)
    (validationError ("Duplicate or empty step_key: " ++
      (if stepKey = "" then "(empty)" else stepKey)) validationFailed)
  let typeText ← ((source.member "step_type").or
    ((source.member "type").or (.str "workflow"))).toStr
  let stepType ← requireStepType (trim typeText)
  let declared ← declaredDependencies source previous index
  let dependsOn ← requireDependencies stepKey (stepKey :: keys) declared
  let input :=
    parseJson ((source.member "input_json").or (source.member "input")) (.obj [])
  let successCriteria :=
    parseJson ((source.member "success_criteria_json").or
      (source.member "success_criteria")) (.obj [("result_ok", .bool true)])
  let retryPolicy :=
    parseJson ((source.member "retry_policy_json").or
      (source.member "retry_policy")) (.obj [])
  let approvalPolicy :=
    parseJson ((source.member "approval_policy_json").or
      (source.member "approval_policy")) (.obj [])
  let path := "steps[" ++ Nat.repr index ++ "]."
  assertSecretFreePayload input (path ++ "input") 0
  assertSecretFreePayload successCriteria (path ++ "success_criteria") 0
  assertSecretFreePayload retryPolicy (path ++ "retry_policy") 0
  assertSecretFreePayload approvalPolicy (path ++ "approval_policy") 0
  let maxAttempts ← boundedAttempts source retryPolicy
  let idempotencyKey ← ((source.member "idempotency_key").or
    (.str (rt.sha256 (planId ++ "|" ++ stepKey)))).toStr
  .ok
    { planStepId := uuid
      planId, tenantId
      stepOrder := index + 1
      stepKey, stepType
      workflowId := (source.member "workflow_id").or .null
      workflowKey := (source.member "workflow_key").or .null
      dependsOn, input, successCriteria
      retryPolicy := .obj
        (Val.spread [("max_attempts", .num maxAttempts)] retryPolicy.ownFields)
      approvalPolicy
      status := if index = 0 ∧ dependsOn = [] then .ready else .pending
      maxAttempts, idempotencyKey }

/-- The `map` over the steps from position `index` on. -/
def compileFrom (rt : Runtime) (planId tenantId : String) (uuids : Nat → String) :
    Nat → Option Val → List String → List Val →
      Except Val (List CompiledStep)
  | _, _, _, [] => .ok []
  | index, previous, keys, source :: rest => do
    let step ←
      compileStep rt planId tenantId (uuids index) previous index keys source
    let others ← compileFrom rt planId tenantId uuids (index + 1)
      (some source) (step.stepKey :: keys) rest
    .ok (step :: others)

/-- `compileSequentialPlanSteps(steps, { planId, tenantId })`; `uuids i` is
what the `i`-th call of `randomUUID` returns. -/
def compileSequentialPlanSteps (rt : Runtime) (uuids : Nat → String)
    (planId tenantId : String) (steps : Val) : Except Val (List CompiledStep) :=
  if planId = "" ∨ tenantId = "" then
    .error (validationError "planId and tenantId are required." validationFailed)
  else
    match steps with
    | .arr (first :: rest) =>
      if 100 < (first :: rest).length then
        .error (validationError
          "A sequential plan may contain at most 100 steps." validationFailed)
      else compileFrom rt planId tenantId uuids 0 none [] (first :: rest)
    | _ =>
      .error (validationError "At least one plan step is required."
        validationFailed)

/-! ## What a compiled step looks like -/

/-- The facts about a step compiled at position `index` after the steps with
the keys `keys`. -/
structure CompiledAt (planId tenantId uuid : String) (index : Nat)
    (keys : List String) (step : CompiledStep) : Prop where
  planStepId_eq : step.planStepId = uuid
  planId_eq : step.planId = planId
  tenantId_eq : step.tenantId = tenantId
  stepOrder_eq : step.stepOrder = index + 1
  stepKey_fresh : step.stepKey ∉ keys
  dependsOn_known : ∀ key ∈ step.dependsOn, key ∈ step.stepKey :: keys
  status_eq : step.status =
    if index = 0 ∧ step.dependsOn = [] then .ready else .pending
  maxAttempts_eq : ∃ attempts, step.maxAttempts =
    Number.max (.ofNat 1) (Number.min attempts (.ofNat 10))

variable {stepKey : String} {keys found : List String}

theorem requireKnownKey_ok {key : String} {dependency : Val}
    (h : requireKnownKey stepKey keys dependency = .ok key) : key ∈ keys := by
  simp only [requireKnownKey, bind_eq_ok, rejectIf_eq_ok] at h
  obtain ⟨text, -, -, hmem, heq⟩ := h
  cases heq
  exact not_not.mp hmem

theorem mapM_requireKnownKey_ok {dependencies : List Val}
    (h : dependencies.mapM (requireKnownKey stepKey keys) = .ok found) :
    ∀ key ∈ found, key ∈ keys := by
  intro key hkey
  obtain ⟨dependency, -, hfound⟩ := exists_of_mem_mapM h hkey
  exact requireKnownKey_ok hfound

theorem requireDependencies_ok {declared : Val}
    (h : requireDependencies stepKey keys declared = .ok found) : ∀ key ∈ found, key ∈ keys := by
  cases declared with
  | arr dependencies => exact mapM_requireKnownKey_ok h
  | _ => cases h

variable {source : Val}

theorem boundedAttempts_ok {retryPolicy : Val} {n : Number}
    (h : boundedAttempts source retryPolicy = .ok n) :
    ∃ attempts, n = Number.max (.ofNat 1) (Number.min attempts (.ofNat 10)) := by
  simp only [boundedAttempts, bind_eq_ok] at h
  obtain ⟨value, -, attempts, -, heq⟩ := h
  cases heq
  exact ⟨attempts, rfl⟩

variable {rt : Runtime} {planId tenantId : String} {previous : Option Val} {index : Nat}

theorem compileStep_ok {uuid : String} {step : CompiledStep}
    (h : compileStep rt planId tenantId uuid previous index keys source = .ok step) :
    CompiledAt planId tenantId uuid index keys step := by
  simp only [compileStep, bind_eq_ok, rejectIf_eq_ok] at h
  obtain ⟨rawKey, -, _, hkey, typeText, -, stepType, -, declared, -,
    dependsOn, hdeps, _, -, _, -, _, -, _, -, maxAttempts, hattempts,
    idempotencyKey, -, heq⟩ := h
  cases heq
  push Not at hkey
  exact
    { planStepId_eq := rfl
      planId_eq := rfl
      tenantId_eq := rfl
      stepOrder_eq := rfl
      stepKey_fresh := hkey.2
      dependsOn_known := requireDependencies_ok hdeps
      status_eq := rfl
      maxAttempts_eq := boundedAttempts_ok hattempts }

variable {uuids : Nat → String} {steps : List CompiledStep}

theorem compileFrom_cons_ok {rest : List Val}
    (h : compileFrom rt planId tenantId uuids index previous keys
      (source :: rest) = .ok steps) :
    ∃ step others, steps = step :: others ∧
      CompiledAt planId tenantId (uuids index) index keys step ∧
      compileFrom rt planId tenantId uuids (index + 1) (some source)
        (step.stepKey :: keys) rest = .ok others := by
  simp only [compileFrom, bind_eq_ok] at h
  obtain ⟨step, hstep, others, hothers, heq⟩ := h
  cases heq
  exact ⟨step, others, rfl, compileStep_ok hstep, hothers⟩

variable {sources : List Val}

section

variable (h : compileFrom rt planId tenantId uuids index previous keys sources = .ok steps)

include h

/-- Every compiled step is well formed at its own position. -/
theorem compileFrom_forall :
    ∀ step ∈ steps, ∃ i earlier, index ≤ i ∧ i < index + sources.length ∧
      CompiledAt planId tenantId (uuids i) i earlier step := by
  induction sources generalizing index previous keys steps with
  | nil =>
    cases h
    simp
  | cons source rest ih =>
    obtain ⟨step, others, rfl, hstep, hothers⟩ := compileFrom_cons_ok h
    intro st hst
    rcases mem_cons.mp hst with rfl | hst
    · exact ⟨index, keys, le_refl _, by simp, hstep⟩
    · obtain ⟨i, earlier, hle, hlt, hat⟩ := ih hothers st hst
      refine ⟨i, earlier, by omega, ?_, hat⟩
      rw [length_cons]
      omega

theorem compileFrom_planStepIds :
    steps.map CompiledStep.planStepId =
      (List.range' index sources.length).map uuids := by
  induction sources generalizing index previous keys steps with
  | nil =>
    cases h
    rfl
  | cons source rest ih =>
    obtain ⟨step, others, rfl, hstep, hothers⟩ := compileFrom_cons_ok h
    simp only [map_cons, length_cons, List.range'_succ]
    rw [hstep.planStepId_eq, ih hothers]

/-- No two steps share a key, and none repeats an earlier one. -/
theorem compileFrom_stepKeys :
    (steps.map CompiledStep.stepKey).Nodup ∧
      ∀ key ∈ steps.map CompiledStep.stepKey, key ∉ keys := by
  induction sources generalizing index previous keys steps with
  | nil =>
    cases h
    simp
  | cons source rest ih =>
    obtain ⟨step, others, rfl, hstep, hothers⟩ := compileFrom_cons_ok h
    obtain ⟨hnodup, hfresh⟩ := ih hothers
    simp only [map_cons, nodup_cons, mem_cons]
    refine ⟨⟨?_, hnodup⟩, ?_⟩
    · intro hmem
      exact hfresh _ hmem mem_cons_self
    · rintro key (rfl | hmem)
      · exact hstep.stepKey_fresh
      · intro hkey
        exact hfresh _ hmem (mem_cons_of_mem _ hkey)

end

theorem compileSequentialPlanSteps_ok {steps : Val} {compiled : List CompiledStep}
    (h : compileSequentialPlanSteps rt uuids planId tenantId steps = .ok compiled) :
    planId ≠ "" ∧ tenantId ≠ "" ∧
      ∃ sources, steps = .arr sources ∧ sources ≠ [] ∧
        compileFrom rt planId tenantId uuids 0 none [] sources =
          .ok compiled := by
  unfold compileSequentialPlanSteps at h
  split at h
  · cases h
  next hids =>
    push Not at hids
    refine ⟨hids.1, hids.2, ?_⟩
    split at h
    · split at h
      · cases h
      · exact ⟨_, rfl, cons_ne_nil _ _, h⟩
    · cases h

end GrowthOs.SequentialPlan
