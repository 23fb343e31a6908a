import GrowthOs.Containers.Authority
import GrowthOs.Containers.Candidates
import GrowthOs.Containers.Paths
import GrowthOs.Containers.Requests
import Mathlib.Data.List.Induction

/-!
# Roles, classifications and bindings along the paths of a container

The parts of `dynamicContainerAuthorityResolver.js` that read nothing from the
database: what a request is normalised to, and what the loaded rows say about
it on every path from a root down to the target container.
-/

namespace GrowthOs.Containers

open Js List Throwing
open Throwing (rejectIf select anyOf)

/-- The status of `stableError(code, …)`. -/
def stableStatus (code : String) : Nat :=
  if code = "container_not_found" then 404
  else if code ∈ ["container_cross_tenant_boundary", "role_permission_insufficient"] then
    403
  else if code ∈ ["container_cycle_detected", "container_path_ambiguous",
      "container_authority_epoch_changed", "idempotency_key_conflict"] then 409
  else 422

def stableError (code message : String) (details : List Val) : Val :=
  serviceError (stableStatus code) code message (.arr details)

/-- `parseObject(value, fallback)` of the resolver. -/
def parseObjectOr (value fallback : Val) : Val :=
  if value.isObject then value
  else
    match textOf value with
    | .ok text => (jsonParse text).getD fallback
    | .error _ => fallback

/-- `new Map(rows.map(row => [String(row[key]), row])).get(k)`. -/
def lastRow {α : Type} (key : α → String) (rows : List α) (k : String) : Option α :=
  rows.reverse.find? fun row => key row == k

/-- `items.includes(text)`. -/
def includesText (items : List Val) (text : String) : Bool :=
  items.any fun item =>
    match item with
    | .str s => s == text
    | _ => false

/-- An eligible container type, where the list of them is not empty. -/
def isEligible (eligibleTypes : Val) (containerTypeKey : String) : Bool :=
  match eligibleTypes with
  | .arr items => items.isEmpty || includesText items containerTypeKey
  | _ => true

/-! ## Requests -/

def normalizePrincipal (principal : Val) : Except Val Principal := do
  let principal := if principal.isUndefined then .obj [] else principal
  let given ← principal.get "type"
  let type ← trimmedTextOf given
  let id ← trimmedTextOf (principal.member "id")
  let invalid := stableError "principal_invalid"
    "A valid principal type and id are required." []
  let type ← requireRow (PrincipalType.ofText (toLowerCase type)) invalid
  rejectIf (id = "") invalid
  .ok ⟨type, id⟩

def indexDetails (index : Nat) : List Val :=
  [.obj [("index", .num (.ofNat index))]]

def normalizeDimensionRequest (request : Val) (index : Nat) :
    Except Val DimensionRequest := do
  let dimension ← trimmedTextOf (request.member "dimension")
  let resourceType ← trimmedTextOf
    ((request.member "resourceType").or (request.member "resource_type"))
  let resourceRef ← trimmedTextOf
    ((request.member "resourceRef").or (request.member "resource_ref"))
  let operation ← trimmedTextOf (request.member "operation")
  let capabilityKey ← textIfTruthy (request.member "capabilityKey")
  rejectIf (dimension = "" ∨ resourceType = "" ∨ resourceRef = "" ∨ operation = "")
    (stableError "dimension_request_invalid"
      ("dimensionRequests[" ++ toString index ++ "] is incomplete.")
      (indexDetails index))
  rejectIf (resourceRef = "*" ∨ operation = "*")
    (stableError "dimension_request_invalid"
      "Wildcard resources and operations are forbidden." (indexDetails index))
  .ok { dimension, resourceType, resourceRef, operation, capabilityKey }

def normalizeDimensionRequests (requests : Val) : Except Val (List DimensionRequest) :=
  let invalid := stableError "dimension_requests_invalid"
    "dimensionRequests must contain between 1 and 50 entries." []
  match requests with
  | .arr items => do
    rejectIf (items.length < 1 ∨ 50 < items.length) invalid
    items.zipIdx.mapM fun item => normalizeDimensionRequest item.1 item.2
  | _ => .error invalid

def readWords : List String :=
  ["get", "list", "read", "search", "preview", "inspect", "metadata", "status",
    "catalog", "resolve", "download"]

/-- `isReadOperation(operation)`: one of the words stands between the dots. -/
def isReadOperation (operation : String) : Bool :=
  let normalized := toLowerCase operation
  ((normalized.toList.splitOn '.').any fun segment =>
      readWords.any fun word => word.toList == segment) ||
    startsWith normalized "read." || endsWith normalized ".read_only"

/-! ## Values of a classification -/

/-- `Number(bound)` where it is finite. -/
def finiteNumber (bound : Val) : Except Val (Option Decimal) := do
  let n ← bound.toNumber
  .ok (match n with
    | .finite d => some d
    | _ => none)

/-- A number lies within the bounds a schema gives, each only where finite. -/
def withinBounds (schema : Val) (least most : String) (size : Decimal) :
    Except Val Bool := do
  let least ← finiteNumber (schema.member least)
  if least.any fun d => size.blt d then .ok false
  else do
    let most ← finiteNumber (schema.member most)
    .ok !(most.any fun d => d.blt size)

def validateNumber (schema value : Val) (integer : Bool) : Except Val Bool :=
  match value with
  | .num (.finite d) =>
    if integer && !d.isInteger then .ok false
    else withinBounds schema "minimum" "maximum" d
  | _ => .ok false

/-- The check of a value against the `type` of a schema. -/
def validateType (schema value : Val) : Except Val Bool :=
  match schema.member "type" with
  | .str "array" => .ok (value.isObject && !value.isPlainObject)
  | .str "object" => .ok value.isPlainObject
  | .str "string" =>
    match value with
    | .str s => withinBounds schema "minLength" "maxLength" (.ofInt (utf16Length s))
    | _ => .ok false
  | .str "number" => validateNumber schema value false
  | .str "integer" => validateNumber schema value true
  | .str "boolean" =>
    match value with
    | .bool _ => .ok true
    | _ => .ok false
  | _ => .ok true

def validateSimpleSchema (value schema : Val) : Except Val Bool :=
  let parsed := parseObjectOr schema (.obj [])
  if !parsed.isObject then .ok true
  else
    let listed :=
      match parsed.member "enum" with
      | .arr items => items.any fun item => jsonStringify item == jsonStringify value
      | _ => true
    if !listed then .ok false else validateType parsed value

/-! ## Roles -/

/-- `pathDepthMap(path).get(containerId)`: how far above the target. -/
def ContainerPath.depthOf (path : ContainerPath) (containerId : String) : Option Nat :=
  path.containerIds.reverse.idxOf? containerId

/-- `operationPatternMatches(pattern, operation)` on a pattern of any type. -/
def patternMatches (operation : String) (pattern : Val) : Except Val Bool := do
  let text ← textOf pattern
  .ok (operationPatternMatches text operation)

def rolePermissionMatches (permission : Val) (request : DimensionRequest) :
    Except Val Bool := do
  let dimensionKey ← permission.get "dimension_key"
  let dimension ← textOf (dimensionKey.or (permission.member "dimension"))
  if dimension ≠ request.dimension then .ok false
  else
    match parseObjectOr
      ((permission.member "operation_patterns_json").coalesce
        (permission.member "operations")) (.arr []) with
    | .arr patterns =>
      if patterns.isEmpty then .ok true
      else anyOf (patternMatches request.operation) patterns
    | _ => .ok true

structure AppliedAssignment where
  assignmentId : String
  containerId : String
  roleTemplateKey : Option String
  composedRoleTemplateKeys : List String
  permissions : List Val
  inheritanceMode : InheritanceMode
  depth : Nat
  roleRank : Number

def AppliedAssignment.toVal (a : AppliedAssignment) : Val :=
  .obj [("assignmentId", .str a.assignmentId), ("containerId", .str a.containerId),
    ("roleTemplateKey", optionVal a.roleTemplateKey),
    ("composedRoleTemplateKeys", .arr (a.composedRoleTemplateKeys.map .str)),
    ("permissions", .arr a.permissions),
    ("inheritanceMode", .str a.inheritanceMode.text),
    ("depth", .num (.ofNat a.depth)), ("roleRank", .num a.roleRank)]

/-- What becomes of one role assignment on a path. -/
inductive AssignmentOutcome
  | skipped
  | blocked (code : String)
  | applied (a : AppliedAssignment)

def AssignmentOutcome.code? : AssignmentOutcome → Option String
  | .blocked code => some code
  | _ => none

def AssignmentOutcome.assignment? : AssignmentOutcome → Option AppliedAssignment
  | .applied a => some a
  | _ => none

/-- A permission of a composed role template, as it is handed on. -/
def RolePermissionRow.toVal (row : RolePermissionRow) : Val :=
  .obj [("source", .str "role_template"),
    ("roleTemplateKey", .str row.roleTemplateKey),
    ("dimension", .str row.dimensionKey), ("permissionKey", .str row.permissionKey),
    ("effect", .str row.effect.text),
    ("operations",
      parseObjectOr (jsonColumn row.operationPatternsJson) (.arr [])),
    ("priority", .num (.finite (.ofInt row.mergePriority)))]

/-- An assignment through a role template. -/
def applyTemplate (state : AuthorityState) (assignment : RoleAssignmentRow)
    (container : ContainerRow) (roleTemplateKey : String) (inline : List Val)
    (depth : Nat) : Except Val AssignmentOutcome := do
  let composition ← resolveRoleTemplateComposition defaultLimits
    (fun template => parseStringArray (jsonColumn template.compositionJson))
    roleTemplateKey state.roleTemplates
  match composition with
  | .error failure => .ok (.blocked failure.code)
  | .ok templateKeys =>
    match lastRow (·.roleTemplateKey) state.roleTemplates roleTemplateKey with
    | none => .ok (.blocked "role_assignment_invalid")
    | some rootTemplate =>
      if !isEligible
        (parseObjectOr (jsonColumn rootTemplate.eligibleContainerTypesJson) (.arr []))
        container.containerTypeKey
      then .ok (.blocked "role_assignment_invalid")
      else
        .ok (.applied
          { assignmentId := assignment.assignmentId
            containerId := assignment.containerId
            roleTemplateKey := some roleTemplateKey
            composedRoleTemplateKeys := templateKeys
            permissions :=
              ((state.rolePermissions.filter fun row =>
                templateKeys.contains row.roleTemplateKey).map
                  RolePermissionRow.toVal) ++ inline
            inheritanceMode := assignment.inheritanceMode
            depth
            roleRank := .ofNat rootTemplate.authorityRank })

/-- An assignment that lists its permissions itself. -/
def applyInline (assignment : RoleAssignmentRow) (inline : List Val) (depth : Nat) :
    Except Val AssignmentOutcome :=
  if inline.isEmpty then .ok (.blocked "role_assignment_invalid")
  else do
    let roleRank ← (((jsonColumn assignment.metadataJson).member "authority_rank").or
      (.num (.ofNat 1))).toNumber
    .ok (.applied
      { assignmentId := assignment.assignmentId
        containerId := assignment.containerId
        roleTemplateKey := none
        composedRoleTemplateKeys := []
        permissions := inline
        inheritanceMode := assignment.inheritanceMode
        depth
        roleRank })

def inlinePermissions (assignment : RoleAssignmentRow) : List Val :=
  match parseObjectOr (jsonColumn assignment.inlinePermissionsJson) (.arr []) with
  | .arr items => items
  | _ => []

/-- One round of the loop of `applicableRoleAssignments`. -/
def applyAssignment (path : ContainerPath) (state : AuthorityState)
    (targetContainerId : String) (assignment : RoleAssignmentRow) : Except Val AssignmentOutcome :=
  match path.depthOf assignment.containerId with
  | none => .ok .skipped
  | some depth =>
    if assignment.inheritanceMode = .localOnly ∧
        assignment.containerId ≠ targetContainerId then .ok .skipped
    else
      match lastRow (·.containerId) state.containers assignment.containerId with
      | none => .ok (.blocked "role_assignment_invalid")
      | some container =>
        let inline := inlinePermissions assignment
        if assignment.roleTemplateKey.getD "" ≠ "" then
          applyTemplate state assignment container
            (assignment.roleTemplateKey.getD "") inline depth
        else applyInline assignment inline depth

structure PathRoles where
  pathHash : String
  minimumRoleRank : Number
  assignments : List AppliedAssignment

def PathRoles.toVal (r : PathRoles) : Val :=
  .obj [("pathHash", .str r.pathHash), ("minimumRoleRank", .num r.minimumRoleRank),
    ("assignments", .arr (r.assignments.map AppliedAssignment.toVal))]

/-- `Math.min(...numbers)`, and 0 for none. -/
def lowestOf : List Number → Number
  | [] => .ofNat 0
  | first :: rest => rest.foldl Number.min first

/-- `Number(assignment.roleRank || 0)`. -/
def AppliedAssignment.rank (a : AppliedAssignment) : Number :=
  if (Val.num a.roleRank).truthy then a.roleRank else .ofNat 0

/-- The highest rank held at a container. -/
def rankAt (assignments : List AppliedAssignment) (containerId : String) : Number :=
  (assignments.filter fun a => a.containerId == containerId).foldl
    (fun rank a => Number.max rank a.rank) (.ofNat 0)

def minimumRank (assignments : List AppliedAssignment) : Number :=
  lowestOf ((assignments.map (·.containerId)).eraseDups.map (rankAt assignments))

/-- The permission forbids what it matches. -/
def deniesPermission (permission : Val) : Except Val Bool := do
  let effect ← textOf (permission.member "effect")
  .ok (toLowerCase effect == "deny" || toLowerCase effect == "restrict")

def deniedByRoles (assignments : List AppliedAssignment) (request : DimensionRequest) :
    Except Val Bool := do
  let matching ← assignments.mapM fun a =>
    select (fun permission => rolePermissionMatches permission request) a.permissions
  anyOf deniesPermission matching.flatten

/-- `if (condition) blockingCodes.add(code)`. -/
def codeIf (condition : Bool) (code : String) : List String :=
  if condition then [code] else []

/-- One round of the loop of `resolveRoles`, with the codes it adds. -/
def rolesOnPath (state : AuthorityState) (targetContainerId : String)
    (requests : List DimensionRequest) (path : ContainerPath) :
    Except Val (PathRoles × List String) := do
  let outcomes ← state.roleAssignments.mapM
    (applyAssignment path state targetContainerId)
  let assignments := outcomes.filterMap AssignmentOutcome.assignment?
  let rank := minimumRank assignments
  let denied ← requests.mapM (deniedByRoles assignments)
  .ok
    (⟨path.pathHash, rank, assignments⟩,
      outcomes.filterMap AssignmentOutcome.code? ++
        codeIf assignments.isEmpty "role_assignment_missing" ++
        codeIf ((requests.any fun request => !isReadOperation request.operation) &&
          rank.blt (.ofNat 2)) "role_permission_insufficient" ++
        denied.flatMap fun denied => codeIf denied "role_permission_insufficient")

structure RoleResult where
  pathRoles : List PathRoles
  effectiveRoleRank : Number
  blockingCodes : List String

def resolveRoles (paths : List ContainerPath) (state : AuthorityState)
    (targetContainerId : String) (requests : List DimensionRequest) :
    Except Val RoleResult := do
  let results ← paths.mapM (rolesOnPath state targetContainerId requests)
  .ok
    { pathRoles := results.map (·.1)
      effectiveRoleRank := lowestOf (results.map (·.1.minimumRoleRank))
      blockingCodes := (results.flatMap (·.2)).eraseDups }

/-! ## Classifications -/

/-- What becomes of one classification on a path. -/
inductive ClassificationOutcome
  | skipped
  | invalid
  | candidate (c : MergeCandidate)

def ClassificationOutcome.candidate? : ClassificationOutcome → Option MergeCandidate
  | .candidate c => some c
  | _ => none

def ClassificationOutcome.isInvalid : ClassificationOutcome → Bool
  | .invalid => true
  | _ => false

def classifyOnPath (state : AuthorityState) (targetContainerId : String)
    (type : ClassificationTypeRow) (path : ContainerPath)
    (assignment : ClassificationRow) : Except Val ClassificationOutcome :=
  if assignment.classificationTypeKey ≠ type.classificationTypeKey then .ok .skipped
  else
    match path.depthOf assignment.containerId with
    | none => .ok .skipped
    | some depth =>
      if assignment.inheritanceMode = .localOnly ∧
          assignment.containerId ≠ targetContainerId then .ok .skipped
      else
        match lastRow (·.containerId) state.containers assignment.containerId with
        | none => .ok .invalid
        | some container =>
          if !isEligible
            (parseObjectOr (jsonColumn type.eligibleContainerTypesJson) (.arr []))
            container.containerTypeKey
          then .ok .invalid
          else do
            let column := jsonColumn assignment.valueJson
            let value := parseObjectOr column column
            let valid ← validateSimpleSchema value (jsonColumn type.valueSchemaJson)
            if valid then
              .ok (.candidate
                { sourceId := assignment.classificationId
                  depth
                  priority := assignment.mergePriority
                  effect := none
                  value })
            else .ok .invalid

variable (localeLe : String → String → Bool)

/-- One classification type: its result, where there is a candidate, and the
codes it adds. -/
def resolveClassification (paths : List ContainerPath) (state : AuthorityState)
    (targetContainerId : String) (type : ClassificationTypeRow) :
    Except Val (Option (String × MergeResult) × List String) := do
  let outcomes ← paths.mapM fun path =>
    state.classifications.mapM (classifyOnPath state targetContainerId type path)
  let candidates := outcomes.flatten.filterMap ClassificationOutcome.candidate?
  let invalid := codeIf (outcomes.flatten.any ClassificationOutcome.isInvalid)
    "classification_invalid"
  if candidates.isEmpty then .ok (none, invalid)
  else do
    let result ← resolveContainerDimensionCandidates localeLe candidates
      type.mergeStrategy
    .ok (some (type.classificationTypeKey, result),
      invalid ++ codeIf result.blocked (result.codeOr "classification_conflict"))

structure ClassificationResult where
  /-- The results by the key of their type. -/
  effective : Val
  blockingCodes : List String

def resolveClassifications (paths : List ContainerPath) (state : AuthorityState)
    (targetContainerId : String) : Except Val ClassificationResult := do
  let results ← state.classificationTypes.mapM
    (resolveClassification localeLe paths state targetContainerId)
  .ok
    { effective := .obj (Val.spread []
        ((results.filterMap (·.1)).map fun result => (result.1, result.2.toVal)))
      blockingCodes := (results.flatMap (·.2)).eraseDups }

/-! ## Resource bindings -/

def maxSafeInteger : Nat := 9007199254740991

/-- A binding that takes part in a decision, with the effect it has there. -/
structure BindingCandidate where
  row : BindingRow
  effect : BindingEffect
  depth : Nat
  priority : Int
  pathHash : String
  relationshipId : Option String

def BindingCandidate.merge (c : BindingCandidate) : MergeCandidate :=
  { sourceId := c.row.bindingId
    depth := c.depth
    priority := c.priority
    effect := some c.effect
    value := .undefined }

def candidateForPath (path : ContainerPath) (targetContainerId : String)
    (inheritanceCeilingDepth : Nat) (binding : BindingRow) : Option BindingCandidate :=
  match path.depthOf binding.containerId with
  | none => none
  | some depth =>
    if inheritanceCeilingDepth < depth then none
    else if binding.inheritanceMode = .localOnly ∧
        binding.containerId ≠ targetContainerId then none
    else if binding.inheritanceMode = .explicitShare then none
    else if binding.effect = .share ∨ binding.effect = .delegate then none
    else
      some
        { row := binding
          effect := binding.effect
          depth
          priority := binding.mergePriority
          pathHash := path.pathHash
          relationshipId := none }

/-- The depth above which nothing is inherited. -/
def inheritanceCeiling (path : ContainerPath) (matching : List BindingRow) : Nat :=
  (((matching.filter fun b => b.inheritanceMode == .blockInheritance).filterMap
    fun b => path.depthOf b.containerId).min?).getD maxSafeInteger

/-- The relationships of a class that lead to the target. -/
def incoming (state : AuthorityState) (targetContainerId : String)
    (relationshipClass : RelationshipClass) : List RelationshipRow :=
  state.relationships.filter fun row =>
    row.toContainerId == targetContainerId &&
      ((lastRow (·.relationshipTypeKey) state.relationshipTypes
        row.relationshipTypeKey).any fun type =>
          type.relationshipClass == relationshipClass)

/-- A binding that a sharing relationship brings in. -/
def isShared (request : DimensionRequest) (share : RelationshipRow)
    (binding : BindingRow) : Except Val Bool :=
  if binding.containerId ≠ share.fromContainerId then .ok false
  else do
    let covered ← bindingMatchesDimensionRequest binding.toVal request
    .ok (covered && (binding.effect == .allow || binding.effect == .share) &&
      (binding.inheritanceMode == .explicitShare || binding.effect == .share))

/-- A binding that a delegation relationship brings in. -/
def isDelegated (request : DimensionRequest) (delegation : RelationshipRow)
    (binding : BindingRow) : Except Val Bool :=
  if binding.containerId = delegation.fromContainerId ∧ binding.effect = .delegate ∧
      binding.delegatorResolutionId.getD "" ≠ "" ∧
      binding.delegationRelationshipId.getD "" = delegation.relationshipId then
    bindingMatchesDimensionRequest binding.toVal request
  else .ok false

/-- A binding that a relationship brings to the target. -/
def relatedCandidate (path : ContainerPath) (relationship : RelationshipRow)
    (effect : BindingEffect) (binding : BindingRow) : BindingCandidate :=
  { row := binding
    effect
    depth := maxSafeInteger
    priority := relationship.priority
    pathHash := path.pathHash
    relationshipId := some relationship.relationshipId }

/-- What relationships bring to the target: the bindings that pass a test. -/
def relatedCandidates (path : ContainerPath) (effect : BindingEffect)
    (test : RelationshipRow → BindingRow → Except Val Bool)
    (relationships : List RelationshipRow) (bindings : List BindingRow) :
    Except Val (List BindingCandidate) := do
  let found ← relationships.mapM fun relationship => do
    let selected ← select (test relationship) bindings
    .ok (selected.map (relatedCandidate path relationship effect))
  .ok found.flatten

/-- The candidates on one path: what is inherited along it, and what the
relationships to the target bring in. -/
def pathCandidates (request : DimensionRequest) (state : AuthorityState)
    (targetContainerId : String) (shares delegations : List RelationshipRow)
    (path : ContainerPath) : Except Val (List BindingCandidate) := do
  let matching ← select
    (fun binding => bindingMatchesDimensionRequest binding.toVal request) state.bindings
  let shared ← relatedCandidates path .share (isShared request) shares state.bindings
  let delegated ← relatedCandidates path .delegate (isDelegated request) delegations
    state.bindings
  .ok (matching.filterMap
      (candidateForPath path targetContainerId (inheritanceCeiling path matching)) ++
    shared ++ delegated)

/-- A delegated binding that names its delegation. -/
def isExactDelegation (request : DimensionRequest) (c : BindingCandidate) : Except Val Bool :=
  if c.effect = .delegate ∧ c.row.delegatorResolutionId.getD "" ≠ "" ∧
      c.row.delegationRelationshipId.getD "" ≠ "" then
    bindingMatchesDimensionRequest c.row.toVal request
  else .ok false

structure PathResult where
  pathHash : String
  result : MergeResult
  declaredMergeStrategy : MergeStrategy
  candidateIds : List String

/-- What one path contributes: its result, its candidates and the codes it
adds. -/
structure PathOutcome where
  pathResult : PathResult
  candidates : List BindingCandidate
  codes : List String

def resolveOnPath (request : DimensionRequest) (dimension : DimensionRow) (state : AuthorityState)
    (targetContainerId : String) (shares delegations : List RelationshipRow)
    (path : ContainerPath) : Except Val PathOutcome := do
  let candidates ← pathCandidates request state targetContainerId shares delegations path
  let result ← resolveContainerDimensionCandidates localeLe
    (candidates.map BindingCandidate.merge) .denyWins
  let exact ← anyOf (isExactDelegation request) candidates
  .ok
    { pathResult :=
        { pathHash := path.pathHash
          result
          declaredMergeStrategy := dimension.defaultMergeStrategy
          candidateIds := candidates.map (·.row.bindingId) }
      candidates
      codes :=
        codeIf candidates.isEmpty "resource_binding_missing" ++
          codeIf result.blocked (result.codeOr "resource_binding_conflict") ++
          codeIf ((candidates.any fun c => c.effect == .share) &&
            !isReadOperation request.operation && !exact)
            "sharing_write_not_delegated" }

/-- `map.set(candidate.binding_id, candidate)`. -/
def putCandidate (candidates : List BindingCandidate) (c : BindingCandidate) :
    List BindingCandidate :=
  match candidates with
  | [] => [c]
  | other :: rest =>
    if other.row.bindingId = c.row.bindingId then c :: rest
    else other :: putCandidate rest c

/-- `[...new Map(candidates.map(c => [c.binding_id, c])).values()]`. -/
def uniqueCandidates (candidates : List BindingCandidate) : List BindingCandidate :=
  candidates.foldl putCandidate []

/-- The binding lets its holder act. -/
def BindingEffect.grants (effect : BindingEffect) : Bool :=
  effect == .allow || effect == .delegate

structure DimensionResult where
  request : DimensionRequest
  dimension : Option DimensionRow
  decision : String
  blockingCodes : List String
  candidates : List BindingCandidate
  pathResults : List PathResult

def missingDimension (request : DimensionRequest) : DimensionResult :=
  { request
    dimension := none
    decision := "deny"
    blockingCodes := ["resource_binding_missing"]
    candidates := []
    pathResults := [] }

/-- What the outcomes of all paths amount to. -/
def dimensionResult (request : DimensionRequest) (dimension : DimensionRow)
    (outcomes : List PathOutcome) : DimensionResult :=
  let candidates := uniqueCandidates (outcomes.flatMap (·.candidates))
  let codes := (outcomes.flatMap (·.codes) ++
    codeIf (request.dimension == "connections" &&
      !(candidates.any fun c => c.effect.grants))
      "connection_not_bound_to_effective_context").eraseDups
  { request
    dimension := some dimension
    decision :=
      if !codes.isEmpty then "deny"
      else if outcomes.any fun outcome =>
        outcome.pathResult.result.decision == "restrict" then "restrict"
      else "allow"
    blockingCodes := codes
    candidates
    pathResults := outcomes.map (·.pathResult) }

/-- `dimension.supports_… ? state.relationships.filter(…) : []`. -/
def supported (flag : Int) (relationships : List RelationshipRow) : List RelationshipRow :=
  if flag = 1 then relationships else []

def resolveDimensionRequest (paths : List ContainerPath) (state : AuthorityState)
    (targetContainerId : String) (request : DimensionRequest) : Except Val DimensionResult :=
  match state.dimensions.find? fun row => row.dimensionKey == request.dimension with
  | none => .ok (missingDimension request)
  | some dimension => do
    let outcomes ← paths.mapM
      (resolveOnPath localeLe request dimension state targetContainerId
        (supported dimension.supportsSharing
          (incoming state targetContainerId .sharing))
        (supported dimension.supportsDelegation
          (incoming state targetContainerId .delegation)))
    .ok (dimensionResult request dimension outcomes)

/-! ### What takes part in a decision -/

section

variable {request : DimensionRequest} {state : AuthorityState} {target : String}
  {shares delegations : List RelationshipRow} {path : ContainerPath}
  {candidates : List BindingCandidate} {c : BindingCandidate}

/-- The binding is about the resource and covers the operation. -/
def BindingRow.Matches (binding : BindingRow) (request : DimensionRequest) : Prop :=
  bindingMatchesDimensionRequest binding.toVal request = .ok true

theorem mem_relatedCandidates {effect : BindingEffect}
    {test : RelationshipRow → BindingRow → Except Val Bool}
    {relationships : List RelationshipRow} {bindings : List BindingRow}
    (h : relatedCandidates path effect test relationships bindings = .ok candidates) :
    c ∈ candidates ↔ ∃ relationship ∈ relationships, ∃ b ∈ bindings,
      test relationship b = .ok true ∧
        relatedCandidate path relationship effect b = c := by
  obtain ⟨found, hfound, heq⟩ := bind_eq_ok.mp h
  obtain rfl := Except.ok.inj heq
  have hall := mapM_eq_ok.mp hfound
  clear hfound h heq
  induction hall with
  | nil => simp
  | cons hrow _ ih =>
    obtain ⟨selected, hselect, hrow⟩ := bind_eq_ok.mp hrow
    obtain rfl := Except.ok.inj hrow
    have hmem := mem_select hselect
    rw [flatten_cons, mem_append, exists_mem_cons_iff, mem_map]
    refine or_congr ?_ ih
    constructor
    · rintro ⟨b, hb, rfl⟩
      obtain ⟨hstate, htest⟩ := (hmem b).mp hb
      exact ⟨b, hstate, htest, rfl⟩
    · rintro ⟨b, hstate, htest, rfl⟩
      exact ⟨b, (hmem b).mpr ⟨hstate, htest⟩, rfl⟩

/-- The candidates on a path are inherited, shared or delegated. -/
theorem mem_pathCandidates
    (h : pathCandidates request state target shares delegations path = .ok candidates) :
    ∃ matching, (∀ b, b ∈ matching ↔ b ∈ state.bindings ∧ b.Matches request) ∧
      ∀ c, c ∈ candidates ↔
        (∃ b ∈ matching,
          candidateForPath path target (inheritanceCeiling path matching) b = some c) ∨
        (∃ share ∈ shares, ∃ b ∈ state.bindings, isShared request share b = .ok true ∧
          relatedCandidate path share .share b = c) ∨
        ∃ delegation ∈ delegations, ∃ b ∈ state.bindings,
          isDelegated request delegation b = .ok true ∧
            relatedCandidate path delegation .delegate b = c := by
  simp only [pathCandidates, bind_eq_ok] at h
  obtain ⟨matching, hmatching, shared, hshared, delegated, hdelegated, h⟩ := h
  cases h
  refine ⟨matching, fun b => mem_select hmatching b, ?_⟩
  intro c
  rw [append_assoc, mem_append, mem_append, mem_filterMap,
    mem_relatedCandidates hshared, mem_relatedCandidates hdelegated]

variable {b : BindingRow}

theorem matches_of_isShared {share : RelationshipRow} (h : isShared request share b = .ok true) :
    b.Matches request ∧ (b.effect = .allow ∧ b.inheritanceMode = .explicitShare ∨
      b.effect = .share) := by
  unfold isShared at h
  split at h
  next => cases h
  next =>
    obtain ⟨covered, hcovered, h⟩ := bind_eq_ok.mp h
    have hall := Except.ok.inj h
    simp only [Bool.and_eq_true, Bool.or_eq_true, beq_iff_eq] at hall
    obtain ⟨⟨rfl, heffect⟩, hshare⟩ := hall
    refine ⟨hcovered, ?_⟩
    rcases hshare with hmode | hshare
    · rcases heffect with heffect | heffect
      · exact .inl ⟨heffect, hmode⟩
      · exact .inr heffect
    · exact .inr hshare

theorem isDelegated_eq_true {delegation : RelationshipRow} :
    isDelegated request delegation b = .ok true ↔
      b.containerId = delegation.fromContainerId ∧ b.effect = .delegate ∧
        b.delegatorResolutionId.getD "" ≠ "" ∧
        b.delegationRelationshipId.getD "" = delegation.relationshipId ∧
        b.Matches request := by
  unfold isDelegated BindingRow.Matches
  split
  next h =>
    constructor
    · intro hmatches
      exact ⟨h.1, h.2.1, h.2.2.1, h.2.2.2, hmatches⟩
    · rintro ⟨_, _, _, _, hmatches⟩
      exact hmatches
  next h =>
    constructor
    · intro hfalse
      cases hfalse
    · rintro ⟨hfrom, heffect, hresolution, hid, _⟩
      exact absurd ⟨hfrom, heffect, hresolution, hid⟩ h

theorem candidateForPath_eq_some {ceiling : Nat} :
    candidateForPath path target ceiling b = some c ↔
      ∃ depth, path.depthOf b.containerId = some depth ∧ depth ≤ ceiling ∧
        (b.inheritanceMode = .localOnly → b.containerId = target) ∧
        b.inheritanceMode ≠ .explicitShare ∧ b.effect ≠ .share ∧
        b.effect ≠ .delegate ∧
        c = ⟨b, b.effect, depth, b.mergePriority, path.pathHash, none⟩ := by
  unfold candidateForPath
  cases hdepth : path.depthOf b.containerId with
  | none => simp
  | some depth =>
    dsimp only
    constructor
    · intro h
      split_ifs at h with hceiling hlocal hshare heffect
      rw [not_or] at heffect
      refine ⟨depth, rfl, by omega, ?_, hshare, heffect.1, heffect.2,
        (Option.some.inj h).symm⟩
      intro hmode
      by_contra hne
      exact hlocal ⟨hmode, hne⟩
    · rintro ⟨depth', hsame, hceiling, hlocal, hshare, heffect, hdelegate, rfl⟩
      cases hsame
      rw [if_neg (by omega), if_neg (fun h => h.2 (hlocal h.1)), if_neg hshare,
        if_neg (not_or.mpr ⟨heffect, hdelegate⟩)]

/-- The effect a binding has where it takes part. -/
def BindingRow.effectThere (b : BindingRow) : BindingEffect :=
  if b.effect = .allow ∧ b.inheritanceMode = .explicitShare then .share else b.effect

theorem BindingRow.effectThere_of_ne_allow (h : b.effect ≠ .allow) : b.effectThere = b.effect :=
  if_neg fun hboth => h hboth.1

/-- A candidate is a loaded binding, with the effect its row determines. -/
theorem effect_of_mem_pathCandidates
    (h : pathCandidates request state target shares delegations path = .ok candidates)
    (hc : c ∈ candidates) :
    c.row ∈ state.bindings ∧ c.row.Matches request ∧ c.effect = c.row.effectThere := by
  obtain ⟨matching, hmatching, hmem⟩ := mem_pathCandidates h
  rcases (hmem c).mp hc with ⟨b, hb, hcand⟩ | ⟨share, _, b, hb, hshared, rfl⟩ |
    ⟨delegation, _, b, hb, hdelegated, rfl⟩
  · obtain ⟨hstate, hmatches⟩ := (hmatching b).mp hb
    obtain ⟨_, _, _, _, hmode, _, _, rfl⟩ := candidateForPath_eq_some.mp hcand
    exact ⟨hstate, hmatches, (if_neg fun h => hmode h.2).symm⟩
  · obtain ⟨hmatches, heffect⟩ := matches_of_isShared hshared
    refine ⟨hb, hmatches, ?_⟩
    rcases heffect with hallow | hshare
    · exact (if_pos hallow).symm
    · exact ((BindingRow.effectThere_of_ne_allow (by simp [hshare])).trans hshare).symm
  · obtain ⟨_, heffect, _, _, hmatches⟩ := isDelegated_eq_true.mp hdelegated
    refine ⟨hb, hmatches, ?_⟩
    exact ((BindingRow.effectThere_of_ne_allow (by simp [heffect])).trans heffect).symm

end

section

variable {candidates : List BindingCandidate} {c : BindingCandidate}

theorem mem_of_mem_putCandidate {c' : BindingCandidate}
    (h : c' ∈ putCandidate candidates c) : c' = c ∨ c' ∈ candidates := by
  induction candidates with
  | nil => exact .inl (mem_singleton.mp h)
  | cons other rest ih =>
    unfold putCandidate at h
    split at h
    next =>
      rcases mem_cons.mp h with rfl | h
      · exact .inl rfl
      · exact .inr (mem_cons_of_mem _ h)
    next =>
      rcases mem_cons.mp h with rfl | h
      · exact .inr mem_cons_self
      · rcases ih h with rfl | h
        · exact .inl rfl
        · exact .inr (mem_cons_of_mem _ h)

/-- The identifiers after a candidate is put: the old ones and its own. -/
theorem ids_putCandidate (id : String) :
    id ∈ (putCandidate candidates c).map (·.row.bindingId) ↔
      id = c.row.bindingId ∨ id ∈ candidates.map (·.row.bindingId) := by
  induction candidates with
  | nil => simp [putCandidate]
  | cons other rest ih =>
    unfold putCandidate
    by_cases hsame : other.row.bindingId = c.row.bindingId
    · simp [hsame]
    · rw [if_neg hsame, map_cons, mem_cons, ih, map_cons, mem_cons, or_left_comm]

/-- Every candidate that is kept was one, and every identifier is kept. -/
theorem uniqueCandidates_spec (candidates : List BindingCandidate) :
    (∀ c ∈ uniqueCandidates candidates, c ∈ candidates) ∧
      ∀ id, id ∈ (uniqueCandidates candidates).map (·.row.bindingId) ↔
        id ∈ candidates.map (·.row.bindingId) := by
  induction candidates using List.reverseRecOn with
  | nil => simp [uniqueCandidates]
  | append_singleton candidates c ih =>
    have hfold : uniqueCandidates (candidates ++ [c]) =
        putCandidate (uniqueCandidates candidates) c := by
      simp [uniqueCandidates, foldl_append]
    rw [hfold]
    constructor
    · intro c' hc'
      rcases mem_of_mem_putCandidate hc' with rfl | hc'
      · simp
      · exact mem_append_left _ (ih.1 c' hc')
    · intro id
      rw [ids_putCandidate, ih.2, map_append, mem_append, or_comm]
      simp

end

section

variable {localeLe} {request : DimensionRequest} {dimension : DimensionRow} {state : AuthorityState}
  {target : String} {shares delegations : List RelationshipRow} {paths : List ContainerPath}
  {path : ContainerPath} {outcome : PathOutcome} {result : DimensionResult}

theorem resolveOnPath_ok
    (h : resolveOnPath localeLe request dimension state target shares delegations path =
      .ok outcome) :
    pathCandidates request state target shares delegations path =
        .ok outcome.candidates ∧
      outcome.pathResult.pathHash = path.pathHash ∧
      outcome.pathResult.candidateIds = outcome.candidates.map (·.row.bindingId) := by
  simp only [resolveOnPath, bind_eq_ok] at h
  obtain ⟨candidates, hcandidates, _, _, _, _, h⟩ := h
  cases h
  exact ⟨hcandidates, rfl, rfl⟩

theorem denyWins_total (localeLe : String → String → Bool) (candidates : List MergeCandidate) :
    ∃ result, resolveContainerDimensionCandidates localeLe candidates .denyWins =
      .ok result := by
  unfold resolveContainerDimensionCandidates
  split_ifs
  · exact ⟨_, rfl⟩
  · exact ⟨_, rfl⟩
  · exact ⟨_, rfl⟩

theorem relatedCandidates_total {effect : BindingEffect}
    {test : RelationshipRow → BindingRow → Except Val Bool}
    {relationships : List RelationshipRow} {bindings : List BindingRow}
    (h : ∀ relationship, ∀ b ∈ bindings, ∃ v, test relationship b = .ok v) :
    ∃ candidates, relatedCandidates path effect test relationships bindings =
      .ok candidates := by
  obtain ⟨found, hfound⟩ : ∃ found, (relationships.mapM fun relationship => do
      let selected ← select (test relationship) bindings
      .ok (selected.map (relatedCandidate path relationship effect))) =
        (.ok found : Except Val _) := by
    apply mapM_total
    intro relationship _
    obtain ⟨selected, hselected⟩ := select_total.mpr (h relationship)
    rw [hselected, ok_bind]
    exact ⟨_, rfl⟩
  refine ⟨found.flatten, ?_⟩
  unfold relatedCandidates
  rw [hfound, ok_bind]

/-- A path has an outcome exactly when every loaded binding can be compared with
the request. -/
theorem resolveOnPath_total :
    (∃ outcome, resolveOnPath localeLe request dimension state target shares delegations
      path = .ok outcome) ↔
    ∀ b ∈ state.bindings, ∃ v, bindingMatchesDimensionRequest b.toVal request = .ok v := by
  constructor
  · rintro ⟨outcome, houtcome⟩
    have hcandidates := (resolveOnPath_ok houtcome).1
    simp only [pathCandidates, bind_eq_ok] at hcandidates
    obtain ⟨matching, hmatching, _⟩ := hcandidates
    exact select_total.mp ⟨matching, hmatching⟩
  · intro hreadable
    obtain ⟨matching, hmatching⟩ := select_total.mpr hreadable
    have hrelated : ∀ relationship, ∀ b ∈ state.bindings,
        (∃ v, isShared request relationship b = .ok v) ∧
          ∃ v, isDelegated request relationship b = .ok v := by
      intro relationship b hb
      obtain ⟨v, hv⟩ := hreadable b hb
      unfold isShared isDelegated
      rw [hv]
      constructor
      all_goals
        split_ifs
        · exact ⟨_, rfl⟩
        · exact ⟨_, rfl⟩
    obtain ⟨shared, hshared⟩ : ∃ shared, relatedCandidates path .share
        (isShared request) shares state.bindings = .ok shared :=
      relatedCandidates_total fun share b hb => (hrelated share b hb).1
    obtain ⟨delegated, hdelegated⟩ : ∃ delegated, relatedCandidates path .delegate
        (isDelegated request) delegations state.bindings = .ok delegated :=
      relatedCandidates_total fun delegation b hb => (hrelated delegation b hb).2
    obtain ⟨candidates, hcandidates⟩ : ∃ candidates, pathCandidates request state target
        shares delegations path = .ok candidates := by
      unfold pathCandidates
      rw [hmatching, ok_bind, hshared, ok_bind, hdelegated, ok_bind]
      exact ⟨_, rfl⟩
    obtain ⟨merged, hmerged⟩ := denyWins_total localeLe
      (candidates.map BindingCandidate.merge)
    obtain ⟨exact, hexact⟩ : ∃ v, anyOf (isExactDelegation request) candidates =
        .ok v := by
      apply anyOf_total
      intro c hc
      obtain ⟨v, hv⟩ :=
        hreadable c.row (effect_of_mem_pathCandidates hcandidates hc).1
      unfold isExactDelegation
      rw [hv]
      split_ifs
      · exact ⟨_, rfl⟩
      · exact ⟨_, rfl⟩
    unfold resolveOnPath
    rw [hcandidates, ok_bind, hmerged, ok_bind, hexact,
      ok_bind]
    exact ⟨_, rfl⟩

/-- The candidates of a result are those of its paths, up to which path a binding
is listed with. -/
structure DimensionResult.Collects (result : DimensionResult) (paths : List ContainerPath)
    (candidatesOn : ContainerPath → Except Val (List BindingCandidate)) : Prop where
  hashes : result.pathResults.map (·.pathHash) = paths.map (·.pathHash)
  listed : ∀ pathResult ∈ result.pathResults, ∃ path ∈ paths, ∃ candidates,
    candidatesOn path = .ok candidates ∧
      pathResult.candidateIds = candidates.map (·.row.bindingId)
  sound : ∀ c ∈ result.candidates, ∃ path ∈ paths, ∃ candidates,
    candidatesOn path = .ok candidates ∧ c ∈ candidates
  complete : ∀ path ∈ paths, ∀ candidates, candidatesOn path = .ok candidates →
    ∀ c ∈ candidates, ∃ c' ∈ result.candidates, c'.row.bindingId = c.row.bindingId

theorem dimensionResult_collects {outcomes : List PathOutcome} (h : paths.mapM
      (resolveOnPath localeLe request dimension state target shares delegations) =
        .ok outcomes) :
    (dimensionResult request dimension outcomes).Collects paths
      (pathCandidates request state target shares delegations) := by
  have hall := mapM_eq_ok.mp h
  obtain ⟨hkept, hids⟩ := uniqueCandidates_spec (outcomes.flatMap (·.candidates))
  constructor
  · have hhashes : outcomes.map (·.pathResult.pathHash) = paths.map (·.pathHash) := by
      clear h hkept hids
      induction hall with
      | nil => rfl
      | cons hpath _ ih =>
        rw [map_cons, map_cons, (resolveOnPath_ok hpath).2.1, ih]
    unfold dimensionResult
    rw [← hhashes, map_map]
    rfl
  · intro pathResult hmem
    obtain ⟨outcome, houtcome, rfl⟩ := mem_map.mp hmem
    obtain ⟨path, hpath, hresolve⟩ := exists_of_mem_mapM h houtcome
    obtain ⟨hcandidates, _, hlisted⟩ := resolveOnPath_ok hresolve
    exact ⟨path, hpath, _, hcandidates, hlisted⟩
  · intro c hc
    obtain ⟨outcome, houtcome, hmem⟩ := mem_flatMap.mp (hkept c hc)
    obtain ⟨path, hpath, hresolve⟩ := exists_of_mem_mapM h houtcome
    exact ⟨path, hpath, _, (resolveOnPath_ok hresolve).1, hmem⟩
  · intro path hpath candidates hcandidates c hc
    obtain ⟨outcome, houtcome, hresolve⟩ := exists_of_mem_of_mapM h hpath
    obtain rfl : candidates = outcome.candidates :=
      Except.ok.inj (hcandidates.symm.trans (resolveOnPath_ok hresolve).1)
    have hid : c.row.bindingId ∈
        (outcomes.flatMap (·.candidates)).map (·.row.bindingId) :=
      mem_map.mpr ⟨c, mem_flatMap.mpr ⟨outcome, houtcome, hc⟩, rfl⟩
    obtain ⟨c', hc', hsame⟩ := mem_map.mp ((hids _).mpr hid)
    exact ⟨c', hc', hsame⟩

/-- The candidates on a path for a dimension of the state. -/
def candidatesOn (request : DimensionRequest) (state : AuthorityState)
    (targetContainerId : String) (dimension : DimensionRow) (path : ContainerPath) :
    Except Val (List BindingCandidate) :=
  pathCandidates request state targetContainerId
    (supported dimension.supportsSharing (incoming state targetContainerId .sharing))
    (supported dimension.supportsDelegation
      (incoming state targetContainerId .delegation)) path

/-- What a result on a registered dimension consists of. -/
theorem resolveDimensionRequest_ok
    (hdimension : (state.dimensions.find? fun row =>
      row.dimensionKey == request.dimension) = some dimension)
    (h : resolveDimensionRequest localeLe paths state target request = .ok result) :
    result.Collects paths (candidatesOn request state target dimension) ∧
      (paths ≠ [] → ∀ b ∈ state.bindings,
        ∃ v, bindingMatchesDimensionRequest b.toVal request = .ok v) := by
  unfold resolveDimensionRequest at h
  rw [hdimension] at h
  obtain ⟨outcomes, houtcomes, heq⟩ := bind_eq_ok.mp h
  cases heq
  refine ⟨dimensionResult_collects houtcomes, ?_⟩
  intro hpaths
  obtain ⟨path, hpath⟩ := exists_mem_of_ne_nil paths hpaths
  obtain ⟨outcome, _, houtcome⟩ := exists_of_mem_of_mapM houtcomes hpath
  exact resolveOnPath_total.mp ⟨outcome, houtcome⟩

end

end GrowthOs.Containers
