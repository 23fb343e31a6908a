import GrowthOs.DurableExecution.Control
import GrowthOs.Support.Transition

/-!
# Executions of plans

Any number of workers, approvers and operators issue operations on one
database.  Each transaction is atomic, so an execution is a sequence of
operations, each of which commits or throws.  Between a claim and its
finalisation the executor runs outside of the database, and what it returns is
arbitrary.  The one assumption on the platform is that `randomUUID` never
returns an id twice.
-/

namespace GrowthOs.Execution

open Js SequentialPlan DurableExecution Transition

/-! ## Operations -/

inductive Op
  | compile (uuids : Nat → String) (planId tenantId : String) (steps : Val)
      (actorId : Option String)
  | claim (clock : Int) (planId : String) (actorId : Option String) (holdId claimToken : String)
  | finalize (planStepId claimToken : String) (result error : Val) (actorId : Option String)
  | decide (holdId decision : String) (decisionBy decisionNote : Option String)
  | resume (planId : String) (actorId : Option String)
  | transition (planId : String) (tenantId : Option String) (toStatus : Val)
      (actorId reason : Option String)
  | cancel (planId : String) (tenantId actorId reason : Option String)

inductive Outcome
  | compiled (response : CompileResponse)
  | claimed (result : ClaimResult)
  | finalized (response : FinalizeResponse)
  | decided (response : ApprovalResponse)
  | resumed (response : ResumeResponse)
  | transitioned (response : TransitionResponse)
  | cancelled (response : CancelResponse)
  | threw (error : Val)

def Outcome.committed : Outcome → Bool
  | .threw _ => false
  | _ => true

/-- A transaction that throws is rolled back. -/
def commit {α : Type} (s : Store) (label : α → Outcome)
    (result : Except Val (α × Store)) : Outcome × Store :=
  match result with
  | .ok (a, s') => (label a, s')
  | .error e => (.threw e, s)

def exec (rt : Runtime) (op : Op) (s : Store) : Outcome × Store :=
  match op with
  | .compile uuids planId tenantId steps actorId =>
    commit s .compiled (persistCompiledSequentialPlan rt uuids planId tenantId steps actorId s)
  | .claim clock planId actorId holdId claimToken =>
    commit s .claimed (claimNextStep rt clock planId actorId holdId claimToken s)
  | .finalize planStepId claimToken result error actorId =>
    commit s .finalized (finalizeClaim planStepId claimToken result error actorId s)
  | .decide holdId decision decisionBy decisionNote =>
    commit s .decided (decideSequentialPlanApproval rt holdId decision decisionBy decisionNote s)
  | .resume planId actorId =>
    commit s .resumed (resumeSequentialPlan planId actorId s)
  | .transition planId tenantId toStatus actorId reason =>
    commit s .transitioned (transitionDurableExecution planId tenantId toStatus actorId reason s)
  | .cancel planId tenantId actorId reason =>
    commit s .cancelled (cancelDurableExecution planId tenantId actorId reason s)

/-- The ids an operation draws from `randomUUID`. -/
def Op.newIds : Op → List String
  | .compile uuids _ _ steps _ => compileIds uuids steps
  | .claim _ _ _ holdId claimToken => [holdId, claimToken]
  | _ => []

/-- Claims, finalisations, decisions and resumptions, on any plan. -/
def Op.executes : Op → Bool
  | .claim .. => true
  | .finalize .. => true
  | .decide .. => true
  | .resume .. => true
  | _ => false

/-! ## Worlds and steps -/

/-- The database, and the ids drawn so far. -/
structure World where
  store : Store
  issued : List String

structure Event where
  op : Op
  outcome : Outcome

structure Step (rt : Runtime) (w : World) (e : Event) (w' : World) : Prop where
  runs : exec rt e.op w.store = (e.outcome, w'.store)
  distinct : e.op.newIds.Nodup
  fresh : ∀ id ∈ e.op.newIds, id ∉ w.issued
  issued : w'.issued = e.op.newIds ++ w.issued

/-- A database without compiled plans: the plans are in any status, and the
ids its approval holds mention have been drawn. -/
structure Initial (w : World) : Prop where
  planIds : (w.store.plans.map fun plan => plan.planId).Nodup
  steps : w.store.steps = []
  holds : ∀ hold ∈ w.store.holds, ∀ planId planStepId,
    holdSubject (parseJson hold.executionContextJson (.obj [])) =
      .ok (planId, planStepId) → planStepId ∈ w.issued

def Reachable (rt : Runtime) (w : World) : Prop :=
  ∃ w₀ history, Initial w₀ ∧ Run (Step rt) w₀ history w

/-! ## Playing a list of operations -/

/-- Perform one operation. -/
def World.perform (rt : Runtime) (w : World) (op : Op) : World :=
  ⟨(exec rt op w.store).2, op.newIds ++ w.issued⟩

/-- The event of performing one operation. -/
def World.event (rt : Runtime) (w : World) (op : Op) : Event :=
  ⟨op, (exec rt op w.store).1⟩

/-- The ids of an operation are new. -/
def World.FreshFor (w : World) (op : Op) : Prop :=
  op.newIds.Nodup ∧ ∀ id ∈ op.newIds, id ∉ w.issued

instance (w : World) (op : Op) : Decidable (w.FreshFor op) :=
  inferInstanceAs (Decidable (_ ∧ _))

theorem step_perform (rt : Runtime) {w : World} {op : Op}
    (h : w.FreshFor op) : Step rt w (w.event rt op) (w.perform rt op) :=
  ⟨rfl, h.1, h.2, rfl⟩

/-- Perform the operations in order. -/
def World.play (rt : Runtime) (w : World) : List Op → World
  | [] => w
  | op :: ops => (w.perform rt op).play rt ops

def World.events (rt : Runtime) (w : World) : List Op → List Event
  | [] => []
  | op :: ops => w.event rt op :: (w.perform rt op).events rt ops

/-- Every operation draws new ids and is admissible when it is performed. -/
def World.Plays (rt : Runtime) (G : World → Event → Prop) (w : World) : List Op → Prop
  | [] => True
  | op :: ops => (w.FreshFor op ∧ G w (w.event rt op)) ∧ (w.perform rt op).Plays rt G ops

instance World.decidablePlays (rt : Runtime) (G : World → Event → Prop)
    [∀ w e, Decidable (G w e)] (w : World) : ∀ ops, Decidable (w.Plays rt G ops)
  | [] => .isTrue trivial
  | op :: ops =>
    haveI := decidablePlays rt G (w.perform rt op) ops
    inferInstanceAs (Decidable ((_ ∧ _) ∧ _))

theorem run_play {rt : Runtime} {G : World → Event → Prop} {w : World}
    {ops : List Op} (h : w.Plays rt G ops) :
    Run (restrict (Step rt) G) w (w.events rt ops) (w.play rt ops) := by
  induction ops generalizing w with
  | nil => exact .nil w
  | cons op ops ih => exact .cons ⟨step_perform rt h.1.1, h.1.2⟩ (ih h.2)

/-! ## A database with one draft plan -/

/-- A platform for concrete runs; no date is valid on it. -/
def plainRuntime : Runtime where
  sha256 := id
  timeOf := fun _ => none
  isoString := fun _ => ""

/-- A platform with one digest. -/
def digestRuntime : Runtime :=
  { plainRuntime with sha256 := fun _ => "digest" }

def draftPlan : PlanRow where
  planId := "plan"
  tenantId := "tenant"
  userId := none
  intentKey := none
  agentId := none
  serviceMode := "self_serve"
  planStatus := .draft
  runtimeStatus := none

def draftWorld : World where
  store := ⟨[draftPlan], [], [], [], []⟩
  issued := []

theorem initial_draftWorld : Initial draftWorld := by
  refine ⟨by decide, rfl, ?_⟩
  intro hold hmem
  cases hmem

theorem reachable_draftWorld (rt : Runtime) : Reachable rt draftWorld :=
  ⟨draftWorld, [], initial_draftWorld, .nil draftWorld⟩

/-- Numbered ids. -/
def numbered (name : String) (index : Nat) : String :=
  name ++ Nat.repr index

/-- The caller's description of a step: its key, its dependencies and further
fields. -/
def describeStep (key : String) (dependsOn : List String) (fields : List (String × Val)) : Val :=
  .obj (("step_key", .str key) :: ("depends_on", .arr (dependsOn.map .str)) :: fields)

/-- Two steps, the second of which needs an approval. -/
def gatedSteps : List Val :=
  [describeStep "draft" [] [], describeStep "publish" ["draft"]
      [("approval_policy", .obj [("required", .bool true)])]]

/-- Compile the draft plan. -/
def compileOp (name : String) (steps : List Val) : Op :=
  .compile (numbered name) "plan" "tenant" (.arr steps) none

def claimOp (holdId claimToken : String) : Op :=
  .claim 0 "plan" none holdId claimToken

/-- The executor returned `{ ok: true }`. -/
def succeedOp (planStepId claimToken : String) : Op :=
  .finalize planStepId claimToken (.obj [("ok", .bool true)]) .null none

/-- The executor threw an error that must not be retried. -/
def failOp (planStepId claimToken : String) : Op :=
  .finalize planStepId claimToken .undefined
    (.obj [("message", .str "failed"), ("non_retryable", .bool true)]) none

def approveOp (holdId : String) : Op :=
  .decide holdId "approved" (some "approver") none

/-- The first step completes, the second is held, approved and claimed. -/
def passTheGate : List Op :=
  [claimOp "hold1" "token1", succeedOp "step0" "token1",
    claimOp "hold2" "token2", approveOp "hold2", claimOp "hold3" "token3"]

def gatedWorld : World :=
  draftWorld.perform plainRuntime (compileOp "step" gatedSteps)

theorem step_gatedWorld :
    Step plainRuntime draftWorld
      (draftWorld.event plainRuntime (compileOp "step" gatedSteps)) gatedWorld :=
  step_perform plainRuntime (by decide)

theorem plays_passTheGate :
    gatedWorld.Plays plainRuntime (fun _ e => e.op.executes = true)
      passTheGate := by
  decide

/-- The first step is done and the second one held for its approval. -/
def stopAtGate : List Op :=
  [compileOp "step" gatedSteps, claimOp "hold1" "token1",
    succeedOp "step0" "token1", claimOp "hold2" "token2"]

/-- One step that may be attempted twice. -/
def retriedSteps : List Val :=
  [describeStep "send" [] [("max_attempts", .num (.ofNat 2))]]

/-- Two steps that do not depend on each other. -/
def independentSteps : List Val :=
  [describeStep "left" [] [], describeStep "right" [] []]

def independentWorld : World :=
  draftWorld.perform plainRuntime (compileOp "step" independentSteps)

theorem step_independentWorld :
    Step plainRuntime draftWorld (draftWorld.event plainRuntime (compileOp "step" independentSteps))
      independentWorld :=
  step_perform plainRuntime (by decide)

/-! ## The effect of a step -/

/-- What an operation does to the store, by outcome. -/
inductive Effect (rt : Runtime) (s : Store) : Op → Outcome → Store → Prop
  | threw (op : Op) (error : Val) : Effect rt s op (.threw error) s
  | compile {uuids : Nat → String} {planId tenantId : String} {steps : Val}
      {actorId : Option String} {stored : List StepRow}
      {response : CompileResponse} {s' : Store}
      (h : CompileStep rt uuids planId tenantId steps s stored (response, s')) :
      Effect rt s (.compile uuids planId tenantId steps actorId) (.compiled response) s'
  | claim {clock : Int} {planId : String} {actorId : Option String}
      {holdId claimToken : String} {result : ClaimResult} {s' : Store}
      (h : ClaimStep rt clock planId actorId holdId claimToken s (result, s')) :
      Effect rt s (.claim clock planId actorId holdId claimToken) (.claimed result) s'
  | finalize {planStepId claimToken : String} {result error : Val}
      {actorId : Option String} {row : StepRow} {response : FinalizeResponse}
      {s' : Store}
      (h : FinalizeStep planStepId claimToken result error s row (response, s')) :
      Effect rt s (.finalize planStepId claimToken result error actorId) (.finalized response) s'
  | decide {holdId decision : String} {decisionBy decisionNote : Option String}
      {row : StepRow} {d : HoldDecision} {response : ApprovalResponse}
      {s' : Store}
      (h : DecideStep holdId decision decisionBy decisionNote s row d (response, s')) :
      Effect rt s (.decide holdId decision decisionBy decisionNote) (.decided response) s'
  | resume {planId : String} {actorId : Option String}
      {target : Option StepRow} {response : ResumeResponse} {s' : Store}
      (h : ResumeStep planId s target (response, s')) :
      Effect rt s (.resume planId actorId) (.resumed response) s'
  | transition {planId : String} {tenantId : Option String} {toStatus : Val}
      {actorId reason : Option String} {response : TransitionResponse}
      {s' : Store} (h : TransitionStep planId s (response, s')) :
      Effect rt s (.transition planId tenantId toStatus actorId reason) (.transitioned response) s'
  | cancel {planId : String} {tenantId actorId reason : Option String}
      {response : CancelResponse} {s' : Store}
      (h : CancelStep planId s (response, s')) :
      Effect rt s (.cancel planId tenantId actorId reason) (.cancelled response) s'

variable {rt : Runtime} {op : Op} {s s' : Store} {outcome : Outcome}

/-- A transaction that throws is rolled back. -/
theorem Effect.of_commit {α : Type} {label : α → Outcome} {result : Except Val (α × Store)}
    (h : commit s label result = (outcome, s'))
    (hdone : ∀ a, result = .ok (a, s') → Effect rt s op (label a) s') :
    Effect rt s op outcome s' := by
  cases result with
  | error e =>
    cases h
    exact .threw _ e
  | ok done =>
    cases h
    exact hdone _ rfl

theorem effect_of_exec (hs : s.WellFormed) (h : exec rt op s = (outcome, s')) :
    Effect rt s op outcome s' := by
  cases op with
  | compile uuids planId tenantId steps actorId =>
    refine .of_commit h fun r hr => ?_
    obtain ⟨stored, hstored⟩ := persistCompiledSequentialPlan_ok hr
    exact .compile hstored
  | claim clock planId actorId holdId claimToken =>
    exact .of_commit h fun r hr => .claim (claimNextStep_ok hs hr)
  | finalize planStepId claimToken result error actorId =>
    refine .of_commit h fun r hr => ?_
    obtain ⟨row, hrow⟩ := finalizeClaim_ok hs hr
    exact .finalize hrow
  | decide holdId decision decisionBy decisionNote =>
    refine .of_commit h fun r hr => ?_
    obtain ⟨row, d, hrow⟩ := decideSequentialPlanApproval_ok hr
    exact .decide hrow
  | resume planId actorId =>
    refine .of_commit h fun r hr => ?_
    obtain ⟨target, htarget⟩ := resumeSequentialPlan_ok hr
    exact .resume htarget
  | transition planId tenantId toStatus actorId reason =>
    exact .of_commit h fun r hr => .transition (transitionDurableExecution_ok hr)
  | cancel planId tenantId actorId reason =>
    exact .of_commit h fun r hr => .cancel (cancelDurableExecution_ok hr)

end GrowthOs.Execution
