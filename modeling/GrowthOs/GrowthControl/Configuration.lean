import GrowthOs.GrowthControl.Schema
import GrowthOs.GrowthControl.Scopes
import GrowthOs.Support.Grouping

/-!
# Effective configuration

`resolveEffectiveConfiguration` collects, field by field, the default of the
definition and the values of all versions stored under a scope of the
hierarchy, and merges them with the operator the definition names for the
field.  A field that cannot be merged is a conflict and has no value.
`localeLe s t` says that `s.localeCompare(t)` is not positive.
-/

namespace GrowthOs.GrowthControl

open Js Comparison Grouping

/-! ## Candidates -/

/-- `GROWTH_CONTROL_MERGE_OPERATORS`. -/
inductive MergeOperator
  | priorityReplace | denyWins | strictIntersection | minimum | maximum | guardedUnion
  | appendUnique | blockOnAmbiguity
deriving DecidableEq, Repr

/-- `GROWTH_CONTROL_MERGE_OPERATORS.includes(operator)`, with the operator. -/
def MergeOperator.ofVal : Val → Option MergeOperator
  | .str "priority_replace" => some .priorityReplace
  | .str "deny_wins" => some .denyWins
  | .str "strict_intersection" => some .strictIntersection
  | .str "minimum" => some .minimum
  | .str "maximum" => some .maximum
  | .str "guarded_union" => some .guardedUnion
  | .str "append_unique" => some .appendUnique
  | .str "block_on_ambiguity" => some .blockOnAmbiguity
  | _ => none

/-- A value for a field, with where it comes from. -/
structure Candidate where
  value : Val
  rank : Int
  versionNumber : Decimal
  sourceId : String
  scopeKey : String
  revision : Number

variable (localeLe : String → String → Bool)

/-- The order of candidates: by falling rank and version number, then by
source. -/
def candidateLe : Candidate → Candidate → Bool :=
  andThen (fun a b => decide (b.rank ≤ a.rank))
    (andThen (fun a b => !a.versionNumber.blt b.versionNumber)
      (fun a b => localeLe a.sourceId b.sourceId))

structure Merged where
  /-- The code of a blocked merge. -/
  code : Option String
  value : Val
  selected : List Candidate
  rejected : List Candidate

def Merged.blocked (code : String) (rejected : List Candidate) : Merged :=
  { code := some code, value := .null, selected := [], rejected }

/-! ## Merging -/

def denyValue (value : Val) : Bool :=
  value.isFalse || isText value "deny" || isText value "disabled" || isText value "blocked"

/-- `map.set(key, value)` on the entries of a map. -/
def setEntry {κ α : Type} [DecidableEq κ] : List (κ × α) → κ → α → List (κ × α)
  | [], key, value => [(key, value)]
  | entry :: entries, key, value =>
    if entry.1 = key then (key, value) :: entries else entry :: setEntry entries key value

/-- The comparison of serialised values; `sort` moves `undefined` to the end. -/
def serializedLe (a b : Val) : Bool :=
  match stableSerialize a, stableSerialize b with
  | _, none => true
  | none, some _ => false
  | some s, some t => localeLe s t

def uniqueSorted (values : List Val) : List Val :=
  sortBy (serializedLe localeLe)
    ((values.foldl (fun entries value => setEntry entries (stableSerialize value) value)
      []).map Prod.snd)

def mergeDenyWins (first : Candidate) (rest : List Candidate) : Merged :=
  let denied := (first :: rest).filter fun entry => denyValue entry.value
  match denied with
  | [] => { code := none, value := first.value, selected := [first], rejected := rest }
  | entry :: _ =>
    { code := none, value := entry.value, selected := denied,
      rejected := (first :: rest).filter fun entry => !denyValue entry.value }

/-- `Number(entry.value)` where it is finite. -/
def finiteOf (value : Val) : Except Val (Option Decimal) := do
  let number ← value.toNumber
  match number with
  | .finite d => .ok (some d)
  | _ => .ok none

/-- `Math.min` of two numbers, or `Math.max` with the comparison turned. -/
def closest (less : Decimal → Decimal → Bool) (a b : Decimal) : Decimal :=
  if less b a then b else a

def mergeNumeric (less : Decimal → Decimal → Bool) (ordered : List Candidate) :
    Except Val Merged := do
  let numbers ← ordered.mapM fun entry => finiteOf entry.value
  match numbers.filterMap id with
  | [] => .ok (.blocked "GROWTH_CONTROL_MERGE_TYPE_CONFLICT" ordered)
  | first :: rest =>
    let target := rest.foldl (closest less) first
    let marked := ordered.zip numbers
    .ok { code := none, value := .num (.finite target)
          selected := (marked.filter fun entry => entry.2 == some target).map Prod.fst
          rejected := (marked.filter fun entry => entry.2 != some target).map Prod.fst }

/-- The elements of an array value. -/
def elementsOf : Val → Option (List Val)
  | .arr elems => some elems
  | _ => none

def mergeArrays (intersect : Bool) (ordered : List Candidate) : Merged :=
  match ordered.mapM fun entry => elementsOf entry.value with
  | none => .blocked "GROWTH_CONTROL_MERGE_TYPE_CONFLICT" ordered
  | some arrays =>
    let value :=
      if intersect then
        (uniqueSorted localeLe (arrays.headD [])).filter fun item =>
          arrays.tail.all fun elems => elems.any fun other => sameSerialized other item
      else uniqueSorted localeLe arrays.flatten
    { code := none, value := .arr value, selected := ordered, rejected := [] }

def mergeTopRank (first : Candidate) (rest : List Candidate) : Merged :=
  let finalists := (first :: rest).filter fun entry => entry.rank == first.rank
  if finalists.all fun entry => sameSerialized entry.value first.value then
    { code := none, value := first.value, selected := finalists,
      rejected := (first :: rest).filter fun entry => entry.rank != first.rank }
  else .blocked "GROWTH_CONTROL_CONFIG_CONFLICT" (first :: rest)

/-- The merge of candidates in order, with a known operator. -/
def mergeOrdered (operator : MergeOperator) (ordered : List Candidate) : Except Val Merged :=
  match ordered with
  | [] => .ok { code := none, value := .undefined, selected := [], rejected := [] }
  | first :: rest =>
    match operator with
    | .denyWins => .ok (mergeDenyWins first rest)
    | .minimum => mergeNumeric Decimal.blt (first :: rest)
    | .maximum => mergeNumeric (fun a b => b.blt a) (first :: rest)
    | .strictIntersection => .ok (mergeArrays localeLe true (first :: rest))
    | .guardedUnion => .ok (mergeArrays localeLe false (first :: rest))
    | .appendUnique => .ok (mergeArrays localeLe false (first :: rest))
    | .priorityReplace => .ok (mergeTopRank first rest)
    | .blockOnAmbiguity => .ok (mergeTopRank first rest)

def mergeConfigurationCandidates (candidates : List Candidate) (operator : Val) :
    Except Val Merged :=
  match MergeOperator.ofVal operator with
  | none => .ok (.blocked "GROWTH_CONTROL_MERGE_OPERATOR_UNSUPPORTED" candidates)
  | some operator => mergeOrdered localeLe operator (sortBy (candidateLe localeLe) candidates)

/-! ## Resolving -/

/-- A row of the configuration versions: its id, the scope it is stored under,
its numbers and its values, an object. -/
structure ConfigurationVersion where
  configVersionId : String
  scopeKey : String
  versionNumber : Decimal
  versionRevision : Number
  values : List (String × Val)
  distinct : (values.map Prod.fst).Nodup

variable (scopeHierarchy : List Scope)

/-- `scopeRank.get(scopeKey)`; of two scopes with one key the later one counts. -/
def scopeRank (scopeKey : String) : Option Nat :=
  (scopeHierarchy.reverse.find? fun scope => scope.scopeKey == scopeKey).map Scope.rank

/-- The version is stored under a scope of the hierarchy. -/
def takesPart (version : ConfigurationVersion) : Bool :=
  (scopeRank scopeHierarchy version.scopeKey).isSome

/-- What one version pushes: a candidate for each of its fields. -/
def versionEntries (version : ConfigurationVersion) : List (String × Candidate) :=
  match scopeRank scopeHierarchy version.scopeKey with
  | none => []
  | some rank => version.values.map fun (key, value) =>
    (key, { value, rank, versionNumber := version.versionNumber,
            sourceId := version.configVersionId, scopeKey := version.scopeKey,
            revision := version.versionRevision })

def defaultEntries (configKey : String) (defaults : Val) (revision : Number) :
    List (String × Candidate) :=
  (defaults.or (.obj [])).ownFields.map fun (key, value) =>
    (key, { value, rank := -1, versionNumber := .ofInt 0, sourceId := configKey ++ ":default",
            scopeKey := "default", revision })

/-- Where a candidate of the lineage comes from. -/
structure Source where
  sourceId : String
  scopeKey : String
  revision : Number

def Candidate.source (candidate : Candidate) : Source :=
  ⟨candidate.sourceId, candidate.scopeKey, candidate.revision⟩

structure Lineage where
  operator : Val
  selected : List Source
  rejected : List Source

inductive Conflict
  | unmerged (field code : String) (sourceIds : List String)
  | schema (issues : List Val)

/-- The objects the loop over the fields fills. -/
structure Resolution where
  values : List (String × Val)
  lineage : List (String × Lineage)
  versions : List (String × Number)
  conflicts : List Conflict

/-- `object[key] = value`; `__proto__` is not a field. -/
def assign {α : Type} (object : List (String × α)) (key : String) (value : α) : List (String × α) :=
  if key = "__proto__" then object else setEntry object key value

/-- `revisionVector.versions[candidate.sourceId] = candidate.revision`, for the
candidates of versions. -/
def recordRevision (versions : List (String × Number)) (candidate : Candidate) :
    List (String × Number) :=
  if endsWith candidate.sourceId ":default" then versions
  else assign versions candidate.sourceId candidate.revision

/-- `mergeProfile[field] || "priority_replace"`, for a profile that is an object, as
stored ones are.  What it inherits is truthy and no operator; written as JSON, it
is left out. -/
def operatorOf (mergeProfile : Val) (field : String) : Val :=
  if mergeProfile.inherits field then .undefined
  else (mergeProfile.member field).or (.str "priority_replace")

/-- `values[field] = merged.value`, unless the merge is blocked or empty. -/
def assignValue (values : List (String × Val)) (field : String) (merged : Merged) :
    List (String × Val) :=
  if merged.code.isSome || merged.value.isUndefined then values
  else assign values field merged.value

def conflictOf (field : String) (candidates : List Candidate) (merged : Merged) : List Conflict :=
  merged.code.toList.map fun code => .unmerged field code (candidates.map Candidate.sourceId)

/-- One round of the loop over the fields. -/
def resolveField (mergeProfile : Val) (resolution : Resolution) (entry : String × List Candidate) :
    Except Val Resolution := do
  let operator := operatorOf mergeProfile entry.1
  let merged ← mergeConfigurationCandidates localeLe entry.2 operator
  .ok { values := assignValue resolution.values entry.1 merged
        lineage := assign resolution.lineage entry.1
          { operator, selected := merged.selected.map Candidate.source,
            rejected := merged.rejected.map Candidate.source }
        versions := entry.2.foldl recordRevision resolution.versions
        conflicts := resolution.conflicts ++ conflictOf entry.1 entry.2 merged }

def Source.toVal (source : Source) : Val :=
  .obj [("sourceId", .str source.sourceId), ("scopeKey", .str source.scopeKey),
    ("revision", .num source.revision)]

def Lineage.toVal (lineage : Lineage) : Val :=
  .obj [("operator", lineage.operator), ("selected", .arr (lineage.selected.map Source.toVal)),
    ("rejected", .arr (lineage.rejected.map Source.toVal))]

def Conflict.toVal : Conflict → Val
  | .unmerged field code sourceIds =>
    .obj [("field", .str field), ("code", .str code), ("sourceIds", .arr (sourceIds.map .str))]
  | .schema issues =>
    .obj [("field", .str "$"), ("code", .str "GROWTH_CONTROL_EFFECTIVE_SCHEMA_INVALID"),
      ("issues", .arr issues)]

/-- `{ configKey, values, lineage, revisionVector, conflicts }`. -/
def resolvedVal (configKey : String) (definitionRevision : Number) (resolution : Resolution) :
    Val :=
  .obj [("configKey", .str configKey), ("values", .obj resolution.values),
    ("lineage", .obj (resolution.lineage.map fun (field, lineage) => (field, lineage.toVal))),
    ("revisionVector", .obj [("definition", .num definitionRevision),
      ("versions", .obj (resolution.versions.map fun (id, revision) =>
        (id, .num revision)))]),
    ("conflicts", .arr (resolution.conflicts.map Conflict.toVal))]

/-- The effective configuration. -/
structure EffectiveConfiguration extends Resolution where
  configKey : String
  definitionRevision : Number
  blocked : Bool
  sha256 : String

/-- What is read from a definition. -/
structure Definition where
  configKey : String
  schema : Val
  defaults : Val
  mergeProfile : Val
  revision : Number

def readDefinition (definition : Val) : Except Val Definition := do
  let configKey ← requireCanonicalKey (either definition "configKey" "config_key") "configKey"
  let schema := either definition "schema" "schema_json"
  let defaults := (either definition "defaultValues" "default_values").coalesce (.obj [])
  let mergeProfile := (either definition "mergeProfile" "merge_profile").coalesce (.obj [])
  assertNoSecretFields (.obj [("defaults", defaults), ("mergeProfile", mergeProfile)]) "$"
  validateSchemaDefinition schema "$"
  let revision ← ((definition.member "revision").or (.num (.ofNat 0))).toNumber
  .ok { configKey, schema, defaults, mergeProfile, revision }

/-- Everything pushed onto the map of fields. -/
def fieldEntries (definition : Definition) (versions : List ConfigurationVersion)
    (scopeHierarchy : List Scope) : List (String × Candidate) :=
  defaultEntries definition.configKey definition.defaults definition.revision ++
    versions.flatMap (versionEntries scopeHierarchy)

/-- `[...fields.entries()].sort(([a], [b]) => a.localeCompare(b))`. -/
def sortedFields (entries : List (String × Candidate)) : List (String × List Candidate) :=
  sortBy (fun a b => localeLe a.1 b.1) (group entries)

/-- The schema check of the merged values. -/
def withSchemaConflict (resolution : Resolution) (issues : List Val) : Resolution :=
  if issues.isEmpty then resolution
  else { resolution with conflicts := resolution.conflicts ++ [.schema issues] }

def effectiveOf (rt : Runtime) (definition : Definition) (resolution : Resolution) :
    EffectiveConfiguration :=
  { resolution with
    configKey := definition.configKey
    definitionRevision := definition.revision
    blocked := !resolution.conflicts.isEmpty
    sha256 := stableSha256 rt (resolvedVal definition.configKey definition.revision resolution) }

/-- What is done once the definition is read. -/
def resolveVersions (rt : Runtime) (regExp : String → Option (String → Bool))
    (localeLe : String → String → Bool) (definition : Definition)
    (versions : List ConfigurationVersion) (scopeHierarchy : List Scope) :
    Except Val EffectiveConfiguration := do
  let resolution ← (sortedFields localeLe (fieldEntries definition versions scopeHierarchy)).foldlM
      (resolveField localeLe definition.mergeProfile) ⟨[], [], [], []⟩
  let issues ← validateValueAgainstSchema regExp (.obj resolution.values) definition.schema "$"
  .ok (effectiveOf rt definition (withSchemaConflict resolution issues))

def resolveEffectiveConfiguration (rt : Runtime)
    (regExp : String → Option (String → Bool)) (localeLe : String → String → Bool)
    (definition : Val) (versions : List ConfigurationVersion) (scopeHierarchy : List Scope) :
    Except Val EffectiveConfiguration := do
  let definition ← readDefinition definition
  resolveVersions rt regExp localeLe definition versions scopeHierarchy

end GrowthOs.GrowthControl
