import GrowthOs.DurableExecution.Receipts
import GrowthOs.Execution.Plan
import GrowthOs.SequentialPlan.Verification

/-!
# Ticks through the receipt-aware executor

A tick claims a step, runs the wrapped executor on it, judges the answer and
finalizes the claim.  The claim, the two ends of the wrapper and the
finalization are separate transactions; between them other ticks and the other
operations on the plans go on, and a tick may stop anywhere.
-/

namespace GrowthOs.Execution

open Js SequentialPlan DurableExecution Transition

/-- Where a tick is.  An executor runs under a receipt unless the step is not a
workflow. -/
inductive TickPhase
  | claimed
  | executing (receiptId : Option String)
  | judged (result error : Val)
  | finished
  | crashed

instance (phase : TickPhase) : Decidable (phase = .claimed) :=
  match phase with
  | .claimed => isTrue rfl
  | .executing _ => isFalse (by simp)
  | .judged _ _ => isFalse (by simp)
  | .finished => isFalse (by simp)
  | .crashed => isFalse (by simp)

/-- The receipt an executor runs under. -/
def TickPhase.receipt : TickPhase → Option String
  | .executing receiptId => receiptId
  | _ => none

/-- A tick that has claimed a step. -/
structure Tick where
  step : StepRow
  claimToken : String
  actorId : Option String
  phase : TickPhase

/-- The plans, the receipts and the ticks so far. -/
structure Engine where
  world : World
  receipts : List ReceiptRow
  ticks : List Tick

inductive EngineOp
  | orchestrate (op : Op)
  | enter (tick : Nat) (receiptId : String)
  | settle (tick : Nat) (outcome : ExecutorOutcome)
  | finalize (tick : Nat)
  | crash (tick : Nat)

/-- A claim that hands out a step starts a tick. -/
def newTicks (e : Event) : List Tick :=
  match e.op, e.outcome with
  | .claim _ _ actorId _ _, .claimed (.dispatch _ step claimToken) =>
    [⟨step, claimToken, actorId, .claimed⟩]
  | _, _ => []

variable (g : Engine)

def Engine.setPhase (index : Nat) (tick : Tick) (phase : TickPhase) : List Tick :=
  g.ticks.set index { tick with phase }

/-- The phase after the answer of the wrapper. -/
def Tick.judgedBy (tick : Tick) (answer : Except Val Val) : TickPhase :=
  .judged (judge tick.step answer).1 (judge tick.step answer).2

/-- The unwrapped executor's answer. -/
def answerOf : ExecutorOutcome → Except Val Val
  | .returned value => .ok value
  | .threw error => .error error

/-- `finalizeClaim` of the tick. -/
def Tick.finalizeOp (tick : Tick) (result error : Val) : Op :=
  .finalize tick.step.planStepId tick.claimToken result error tick.actorId

/-- The phase after the first transaction of the wrapper. -/
def Tick.entered (tick : Tick) : Entry → TickPhase
  | .direct => .executing none
  | .dispatch receiptId => .executing (some receiptId)
  | .replay result => tick.judgedBy (.ok result)

def Engine.enter (rt : Runtime) (g : Engine) (index : Nat) (receiptId : String)
    (tick : Tick) : Engine :=
  match tick.phase with
  | .claimed =>
    match enterExecutor rt receiptId tick.step g.receipts with
    | .ok (entry, receipts) =>
      ⟨g.world, receipts, g.setPhase index tick (tick.entered entry)⟩
    | .error error =>
      ⟨g.world, g.receipts, g.setPhase index tick (tick.judgedBy (.error error))⟩
  | _ => g

def Engine.settle (index : Nat) (outcome : ExecutorOutcome) (tick : Tick) : Engine :=
  match tick.phase with
  | .executing none =>
    ⟨g.world, g.receipts, g.setPhase index tick (tick.judgedBy (answerOf outcome))⟩
  | .executing (some receiptId) =>
    let settled := settleReceipt receiptId outcome g.receipts
    ⟨g.world, settled.2, g.setPhase index tick (tick.judgedBy settled.1)⟩
  | _ => g

def Engine.finalize (rt : Runtime) (g : Engine) (index : Nat) (tick : Tick) : Engine :=
  match tick.phase with
  | .judged result error =>
    ⟨g.world.perform rt (tick.finalizeOp result error), g.receipts, g.setPhase index tick .finished⟩
  | _ => g

def Engine.crash (index : Nat) (tick : Tick) : Engine :=
  match tick.phase with
  | .finished => g
  | _ => ⟨g.world, g.receipts, g.setPhase index tick .crashed⟩

def Engine.onTick (index : Nat) (action : Tick → Engine) : Engine :=
  match g.ticks[index]? with
  | some tick => action tick
  | none => g

def Engine.perform (rt : Runtime) (g : Engine) : EngineOp → Engine
  | .orchestrate op =>
    ⟨g.world.perform rt op, g.receipts, g.ticks ++ newTicks (g.world.event rt op)⟩
  | .enter index receiptId => g.onTick index (g.enter rt index receiptId)
  | .settle index outcome => g.onTick index (g.settle index outcome)
  | .finalize index => g.onTick index (g.finalize rt index)
  | .crash index => g.onTick index (g.crash index)

/-- Only ticks finalize claims. -/
def Op.isFinalize : Op → Bool
  | .finalize .. => true
  | _ => false

/-- The ids an operation draws are new. -/
def EngineOp.Fresh : EngineOp → Prop
  | .orchestrate op => op.isFinalize = false ∧ g.world.FreshFor op
  | .enter _ receiptId => (∀ row ∈ g.receipts, row.receiptId ≠ receiptId) ∧
      ∀ tick ∈ g.ticks, tick.phase.receipt ≠ some receiptId
  | _ => True

instance (g : Engine) (op : EngineOp) : Decidable (op.Fresh g) := by
  cases op <;> unfold EngineOp.Fresh <;> infer_instance

structure EngineStep (rt : Runtime) (g : Engine) (op : EngineOp) (g' : Engine) : Prop where
  fresh : op.Fresh g
  performed : g' = g.perform rt op

/-- Perform the operations in order. -/
def Engine.play (rt : Runtime) (g : Engine) : List EngineOp → Engine
  | [] => g
  | op :: ops => (g.perform rt op).play rt ops

/-- Every operation draws new ids and is admissible when it is performed. -/
def Engine.Plays (rt : Runtime) (G : Engine → EngineOp → Prop) (g : Engine) : List EngineOp → Prop
  | [] => True
  | op :: ops => (op.Fresh g ∧ G g op) ∧ (g.perform rt op).Plays rt G ops

instance Engine.decidablePlays (rt : Runtime) (g : Engine) :
    ∀ ops, Decidable (g.Plays rt (fun _ _ => True) ops)
  | [] => .isTrue trivial
  | op :: ops =>
    haveI := decidablePlays rt (g.perform rt op) ops
    inferInstanceAs (Decidable ((_ ∧ _) ∧ _))

theorem Engine.run_play {rt : Runtime} {G : Engine → EngineOp → Prop}
    {g : Engine} {ops : List EngineOp} (h : g.Plays rt G ops) :
    Run (restrict (EngineStep rt) G) g ops (g.play rt ops) := by
  induction ops generalizing g with
  | nil => exact .nil g
  | cons op ops ih => exact .cons ⟨⟨h.1.1, rfl⟩, h.1.2⟩ (ih h.2)

/-- Plans that were never compiled, no receipts and no ticks. -/
structure Engine.Initial : Prop where
  world : GrowthOs.Execution.Initial g.world
  receipts : g.receipts = []
  ticks : g.ticks = []

/-! ## The effect of a step -/

/-- The tick's claim is still held. -/
def TickPhase.isOpen : TickPhase → Bool
  | .finished => false
  | _ => true

/-- What an operation does to the engine. -/
inductive EngineEffect (rt : Runtime) (g : Engine) : EngineOp → Engine → Prop
  | idle (op : EngineOp) : EngineEffect rt g op g
  | orchestrate {op : Op} (hop : op.isFinalize = false)
      (hstep : Step rt g.world (g.world.event rt op) (g.world.perform rt op)) :
      EngineEffect rt g (.orchestrate op) ⟨g.world.perform rt op, g.receipts,
          g.ticks ++ newTicks (g.world.event rt op)⟩
  | enter {index : Nat} {receiptId : String} {tick : Tick} {entry : Entry}
      {receipts : List ReceiptRow} (htick : g.ticks[index]? = some tick)
      (hphase : tick.phase = .claimed)
      (hfresh : (EngineOp.enter index receiptId).Fresh g)
      (henter : EnterStep rt receiptId tick.step g.receipts (entry, receipts)) :
      EngineEffect rt g (.enter index receiptId)
        ⟨g.world, receipts, g.setPhase index tick (tick.entered entry)⟩
  | refused {index : Nat} {receiptId : String} {tick : Tick} {error : Val}
      (htick : g.ticks[index]? = some tick) (hphase : tick.phase = .claimed) :
      EngineEffect rt g (.enter index receiptId) ⟨g.world, g.receipts,
          g.setPhase index tick (tick.judgedBy (.error error))⟩
  | answer {index : Nat} {outcome : ExecutorOutcome} {tick : Tick}
      (htick : g.ticks[index]? = some tick)
      (hphase : tick.phase = .executing none) :
      EngineEffect rt g (.settle index outcome) ⟨g.world, g.receipts,
          g.setPhase index tick (tick.judgedBy (answerOf outcome))⟩
  | settle {index : Nat} {outcome : ExecutorOutcome} {tick : Tick}
      {receiptId : String} (htick : g.ticks[index]? = some tick)
      (hphase : tick.phase = .executing (some receiptId)) :
      EngineEffect rt g (.settle index outcome)
        ⟨g.world, (settleReceipt receiptId outcome g.receipts).2, g.setPhase index tick
            (tick.judgedBy (settleReceipt receiptId outcome g.receipts).1)⟩
  | finalize {index : Nat} {tick : Tick} {result error : Val} (htick : g.ticks[index]? = some tick)
      (hphase : tick.phase = .judged result error)
      (hstep : Step rt g.world (g.world.event rt (tick.finalizeOp result error))
        (g.world.perform rt (tick.finalizeOp result error))) :
      EngineEffect rt g (.finalize index)
        ⟨g.world.perform rt (tick.finalizeOp result error), g.receipts,
          g.setPhase index tick .finished⟩
  | crash {index : Nat} {tick : Tick} (htick : g.ticks[index]? = some tick)
      (hopen : tick.phase.isOpen = true) :
      EngineEffect rt g (.crash index) ⟨g.world, g.receipts, g.setPhase index tick .crashed⟩

theorem EngineStep.effect {rt : Runtime} {g g' : Engine} {op : EngineOp}
    (h : EngineStep rt g op g') : EngineEffect rt g op g' := by
  obtain ⟨hfresh, rfl⟩ := h
  cases op with
  | orchestrate op => exact .orchestrate hfresh.1 (step_perform rt hfresh.2)
  | enter index receiptId =>
    simp only [Engine.perform, Engine.onTick]
    split
    next tick htick =>
      unfold Engine.enter
      split
      next hphase =>
        split
        next entry receipts henter =>
          exact .enter htick hphase hfresh (enterExecutor_ok henter)
        next error herror => exact .refused htick hphase
      next => exact .idle _
    next => exact .idle _
  | settle index outcome =>
    simp only [Engine.perform, Engine.onTick]
    split
    next tick htick =>
      unfold Engine.settle
      split
      next hphase => exact .answer htick hphase
      next receiptId hphase => exact .settle htick hphase
      next => exact .idle _
    next => exact .idle _
  | finalize index =>
    simp only [Engine.perform, Engine.onTick]
    split
    next tick htick =>
      unfold Engine.finalize
      split
      next result error hphase =>
        exact .finalize htick hphase (step_perform rt ⟨.nil, nofun⟩)
      next => exact .idle _
    next => exact .idle _
  | crash index =>
    simp only [Engine.perform, Engine.onTick]
    split
    next tick htick =>
      unfold Engine.crash
      split
      next => exact .idle _
      next hopen =>
        refine .crash htick ?_
        cases hphase : tick.phase with
        | finished => exact absurd hphase hopen
        | _ => rfl
    next => exact .idle _

end GrowthOs.Execution
