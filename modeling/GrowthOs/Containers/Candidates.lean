import GrowthOs.Containers.Graph

/-!
# Merging the candidates of a dimension

`resolveContainerDimensionCandidates` of `dynamicContainerAuthority.js`, with
its seven strategies.  The candidates are resource bindings, which have an
effect, or classifications, which have a value.
-/

namespace GrowthOs.Containers

open Js

structure MergeCandidate where
  sourceId : String
  depth : Nat
  priority : Int
  effect : Option BindingEffect
  value : Val

variable (localeLe : String → String → Bool)

/-- The comparison of `sortCandidates`: the nearest first, then the highest
priority. -/
def MergeCandidate.le (a b : MergeCandidate) : Bool :=
  if a.depth ≠ b.depth then decide (a.depth < b.depth)
  else if a.priority ≠ b.priority then decide (b.priority < a.priority)
  else localeLe a.sourceId b.sourceId

def sortCandidates (candidates : List MergeCandidate) : List MergeCandidate :=
  candidates.insertionSort fun a b => a.le localeLe b = true

structure MergeResult where
  strategy : MergeStrategy
  decision : String
  blocked : Bool
  ambiguous : Bool
  value : Val
  sourceIds : List String
  /-- Absent, `null` or a text. -/
  code : Option (Option String)

def MergeResult.toVal (r : MergeResult) : Val :=
  .obj ([("strategy", .str r.strategy.text), ("decision", .str r.decision),
    ("blocked", .bool r.blocked), ("ambiguous", .bool r.ambiguous),
    ("value", r.value), ("sourceIds", .arr (r.sourceIds.map .str))] ++
    (r.code.map fun code => ("code", optionVal code)).toList)

/-- `result.code || fallback`. -/
def MergeResult.codeOr (r : MergeResult) (fallback : String) : String :=
  match r.code with
  | some (some code) => if code = "" then fallback else code
  | _ => fallback

def sourceIdsOf (candidates : List MergeCandidate) : List String :=
  (candidates.map (·.sourceId)).filter fun id => id != ""

def selectedResult (strategy : MergeStrategy) (candidates : List MergeCandidate)
    (value : Val) : MergeResult :=
  { strategy
    decision := "resolved"
    blocked := false
    ambiguous := false
    value
    sourceIds := sourceIdsOf candidates
    code := none }

def blockedResult (strategy : MergeStrategy) (code : String) : MergeResult :=
  { strategy
    decision := "blocked"
    blocked := true
    ambiguous := false
    value := .null
    sourceIds := []
    code := some (some code) }

/-! ## The strategies -/

/-- The effects, strongest first. -/
def effectOrder : List BindingEffect :=
  [.deny, .restrict, .require, .allow, .delegate, .share]

def denyWinsCode : BindingEffect → Option String
  | .deny => some "inherited_policy_restriction"
  | .require => some "resource_requirement_unsatisfied"
  | _ => none

/-- The strongest effect among the candidates. -/
def strongestEffect (candidates : List MergeCandidate) : Option BindingEffect :=
  effectOrder.find? fun effect => candidates.any fun c => c.effect == some effect

def denyWins (ordered : List MergeCandidate) : MergeResult :=
  match strongestEffect ordered with
  | none =>
    { selectedResult .denyWins [] (.str "none") with
      decision := "none"
      code := some none }
  | some effect =>
    { selectedResult .denyWins (ordered.filter fun c => c.effect == some effect)
        (.str effect.text) with
      decision := effect.text
      blocked := effect == .deny || effect == .require
      code := some (denyWinsCode effect) }

/-- The texts of a value, each once. -/
def valueTexts (value : Val) : Except Val (List String) := do
  let texts ←
    match value with
    | .arr items => items.mapM Val.toStr
    | value => [value].mapM Val.toStr
  .ok texts.eraseDups

def sortedTexts (texts : List String) : Val :=
  .arr ((texts.insertionSort fun a b => keyLe a b = true).map .str)

def unionOf (sets : List (List String)) : List String :=
  sets.flatten.eraseDups

def intersectionOf : List (List String) → List String
  | [] => []
  | first :: rest => first.filter fun text => rest.all fun set => set.contains text

/-- `Number.isFinite(n)`. -/
def isFiniteNumber : Number → Bool
  | .finite _ => true
  | _ => false

/-- `Math.min(...numbers)` or `Math.max(...numbers)`, and what an empty list
leads to. -/
def extremum (strategy : MergeStrategy) (pick : Number → Number → Number)
    (ordered : List MergeCandidate) : Except Val MergeResult := do
  let numbers ← ordered.mapM fun c => c.value.toNumber
  match numbers.filter isFiniteNumber with
  | [] => .ok (blockedResult strategy "classification_conflict")
  | first :: rest => .ok (selectedResult strategy ordered (.num (rest.foldl pick first)))

/-- The rows at the least value of a metric. -/
def leastRows {α : Type} (metric : α → Int) (rows : List α) : List α :=
  match (rows.map metric).min? with
  | none => []
  | some least => rows.filter fun row => metric row == least

/-- The finalists must agree on one value. -/
def replaceBy (strategy : MergeStrategy) (finalists : List MergeCandidate) : MergeResult :=
  if 1 < (finalists.map fun c => stableStringify c.value).eraseDups.length then
    { strategy
      decision := "ambiguous"
      blocked := true
      ambiguous := true
      value := .null
      sourceIds := sourceIdsOf finalists
      code := some (some "container_path_ambiguous") }
  else
    selectedResult strategy finalists ((finalists.getLast?.map (·.value)).getD .undefined)

def nearestMetric (c : MergeCandidate) : Int := c.depth

def priorityMetric (c : MergeCandidate) : Int := -c.priority

def resolveContainerDimensionCandidates (candidates : List MergeCandidate)
    (strategy : MergeStrategy) : Except Val MergeResult :=
  if candidates.isEmpty then
    .ok { blockedResult strategy "" with
      decision := "empty", blocked := false, code := none }
  else if defaultLimits.maxCandidateBindings < candidates.length then
    .ok (blockedResult strategy "container_resolution_limit_exceeded")
  else
    let ordered := sortCandidates localeLe candidates
    match strategy with
    | .denyWins => .ok (denyWins ordered)
    | .union => do
      let sets ← ordered.mapM fun c => valueTexts c.value
      .ok (selectedResult .union ordered (sortedTexts (unionOf sets)))
    | .intersection => do
      let sets ← ordered.mapM fun c => valueTexts c.value
      .ok (selectedResult .intersection ordered (sortedTexts (intersectionOf sets)))
    | .minimum => extremum .minimum Number.min ordered
    | .maximum => extremum .maximum Number.max ordered
    | .nearestReplace =>
      .ok (replaceBy .nearestReplace (leastRows priorityMetric (leastRows nearestMetric ordered)))
    | .priorityReplace =>
      .ok (replaceBy .priorityReplace (leastRows nearestMetric (leastRows priorityMetric ordered)))

end GrowthOs.Containers
