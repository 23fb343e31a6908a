import GrowthOs.Containers.Graph

/-!
# Bindings, role templates and stored resolutions

The remaining pure checks of `dynamicContainerAuthority.js`: which operations a
pattern and a binding cover, what a role template is composed of, and whether a
delegation stays within a resolution read back from the ledger.
-/

namespace GrowthOs.Containers

open Js Table

/-! ## Operations a binding covers -/

def operationPatternMatches (pattern operation : String) : Bool :=
  let normalizedPattern := toLowerCase (trim pattern)
  let normalizedOperation := toLowerCase (trim operation)
  if normalizedPattern = "" ∨ normalizedOperation = "" ∨ normalizedPattern = "*" then
    false
  else if normalizedPattern = normalizedOperation then true
  else if !endsWith normalizedPattern ".*" then false
  else
    let stem := normalizedPattern.toList.dropLast
    stem.isPrefixOf normalizedOperation.toList &&
      decide (stem.length < normalizedOperation.toList.length)

/-- `bindingMatchesDimensionRequest(binding, request)`, for a row of the
bindings table or an entry of a resolution alike. -/
def bindingMatchesDimensionRequest (binding : Val) (request : DimensionRequest) :
    Except Val Bool := do
  let dimensionKey ← binding.get "dimension_key"
  let dimension ← textOf (dimensionKey.or (binding.member "dimension"))
  if dimension ≠ request.dimension then .ok false
  else do
    let resourceType ← textOf (binding.member "resource_type")
    if resourceType ≠ request.resourceType then .ok false
    else do
      let resourceRef ← textOf (binding.member "resource_ref")
      if resourceRef ≠ request.resourceRef then .ok false
      else do
        let patterns ← parseStringArray ((binding.member "operation_patterns_json").coalesce
            (binding.member "operations"))
        .ok (patterns.isEmpty || patterns.any fun pattern =>
            operationPatternMatches pattern request.operation)

/-- A loaded binding, with the columns the matcher reads. -/
def BindingRow.toVal (row : BindingRow) : Val :=
  .obj [("binding_id", .str row.bindingId), ("container_id", .str row.containerId),
    ("dimension_key", .str row.dimensionKey),
    ("resource_type", .str row.resourceType),
    ("resource_ref", .str row.resourceRef),
    ("effect", .str row.effect.text),
    ("operation_patterns_json", jsonColumn row.operationPatternsJson)]

@[simp] theorem textOf_str (s : String) : textOf (.str s) = .ok s := by
  unfold textOf Val.or
  by_cases h : s = ""
  · simp [h, Val.truthy, Val.toStr]
  · simp [h, Val.truthy, Val.toStr]

theorem parseStringArray_coalesce_undefined (v : Val) :
    parseStringArray (v.coalesce .undefined) = parseStringArray v := by
  unfold Val.coalesce
  split
  next h => cases v <;> simp_all [Val.isNullish, parseStringArray]
  next => rfl

/-- The operations a loaded binding covers. -/
def BindingRow.covers (row : BindingRow) (operation : String) : Except Val Bool := do
  let patterns ← parseStringArray (jsonColumn row.operationPatternsJson)
  .ok (patterns.isEmpty || patterns.any fun pattern => operationPatternMatches pattern operation)

/-- A loaded binding matches when it is about the resource and covers the
operation. -/
theorem bindingMatchesDimensionRequest_row {row : BindingRow} {request : DimensionRequest} :
    bindingMatchesDimensionRequest row.toVal request =
      if row.dimensionKey = request.dimension ∧ row.resourceType = request.resourceType ∧
          row.resourceRef = request.resourceRef
      then row.covers request.operation else .ok false := by
  have hget : row.toVal.get "dimension_key" = .ok (.str row.dimensionKey) := rfl
  have hother : row.toVal.member "dimension" = .undefined := rfl
  have htype : row.toVal.member "resource_type" = .str row.resourceType := rfl
  have href : row.toVal.member "resource_ref" = .str row.resourceRef := rfl
  have hpatterns : row.toVal.member "operation_patterns_json" =
      jsonColumn row.operationPatternsJson := rfl
  have hoperations : row.toVal.member "operations" = .undefined := rfl
  have hkey : textOf ((Val.str row.dimensionKey).or .undefined) =
      .ok row.dimensionKey := by
    by_cases hempty : row.dimensionKey = ""
    · rw [hempty]
      rfl
    · have hor : (Val.str row.dimensionKey).or .undefined = .str row.dimensionKey := by
        simp [Val.or, Val.truthy, hempty]
      rw [hor, textOf_str]
  unfold bindingMatchesDimensionRequest BindingRow.covers
  rw [hget, hother, htype, href, hpatterns, hoperations, parseStringArray_coalesce_undefined]
  simp only [Throwing.ok_bind, hkey, textOf_str]
  split_ifs <;> simp_all

/-! ## Composition of role templates -/

structure CompositionFailure where
  code : String
  path : Option (List String)

def CompositionFailure.toVal (f : CompositionFailure) : Val :=
  .obj ([("ok", .bool false), ("blocked", .bool true), ("code", .str f.code)] ++
    (f.path.map fun path => ("path", Val.arr (path.map .str))).toList ++
    [("templateKeys", .arr [])])

/-- Why the composition stops: something threw, or a check failed. -/
inductive CompositionStop
  | thrown (e : Val)
  | failed (f : CompositionFailure)

structure Composition where
  visited : List String
  visiting : List String
  ordered : List String

def failComposition {α : Type} (code : String) (path : List String) : Except CompositionStop α :=
  .error (.failed ⟨code, some path⟩)

/-- `parseStringArray(column)` on a column as the database returns it. -/
def stringArrayColumn : Option Val → List String
  | some (.arr items) =>
    match nonEmptyTexts items with
    | .ok texts => texts
    | .error _ => []
  | _ => []

/-- The sorted keys of a composition, however it was read. -/
def composedOf (read : Except Val (List String)) : Except CompositionStop (List String) :=
  match read with
  | .ok children => .ok (children.insertionSort fun a b => keyLe a b = true)
  | .error e => .error (.thrown e)

/-- `visit(key, depth, path)`, with `maxDepth + 1 - depth` as the first number;
`read` gives the composition of a template, whose column is parsed or not. -/
def visitTemplate (limits : ResolutionLimits) (read : RoleTemplateRow → Except Val (List String))
    (templates : List RoleTemplateRow) :
    Nat → String → List String → Composition → Except CompositionStop Composition
  | 0, _, path, _ => failComposition "container_resolution_limit_exceeded" path
  | left + 1, key, path, c =>
    if limits.maxVisitedContainers < c.visited.length then
      failComposition "container_resolution_limit_exceeded" path
    else if c.visiting.contains key then
      failComposition "role_template_cycle_detected" (path ++ [key])
    else if c.visited.contains key then .ok c
    else
      match (rowOf (·.roleTemplateKey) templates key).filter (·.status.isActive) with
      | none => failComposition "role_template_not_registered" (path ++ [key])
      | some template => do
        let children ← composedOf (read template)
        let c ← children.foldlM (fun c child =>
            visitTemplate limits read templates left child (path ++ [key]) c)
          { c with visiting := key :: c.visiting }
        .ok
          { visiting := c.visiting.erase key
            visited := key :: c.visited
            ordered := c.ordered ++ [key] }

/-- `resolveRoleTemplateComposition({ rootRoleTemplateKey, roleTemplates })`:
the keys of the templates, or the failed result. -/
def resolveRoleTemplateComposition (limits : ResolutionLimits)
    (read : RoleTemplateRow → Except Val (List String))
    (rootRoleTemplateKey : String) (templates : List RoleTemplateRow) :
    Except Val (Except CompositionFailure (List String)) :=
  match (rowOf (·.roleTemplateKey) templates rootRoleTemplateKey).filter (·.status.isActive) with
  | none => .ok (.error ⟨"role_template_not_registered", none⟩)
  | some _ =>
    match visitTemplate limits read templates (limits.maxDepth + 1)
      rootRoleTemplateKey [] ⟨[], [], []⟩ with
    | .ok c => .ok (.ok c.ordered)
    | .error (.failed f) => .ok (.error f)
    | .error (.thrown e) => .error e

/-! ## Resolutions in the ledger -/

/-- A row of `container_effective_context_ledger`. -/
structure LedgerRow where
  resolutionId : String
  requestId : Val
  idempotencyKey : Val
  principal : Principal
  tenantId : String
  targetContainerId : String
  mode : String
  decision : String
  authorityEpoch : Nat
  resolverVersion : String
  requestSha256 : String
  containerPathHash : String
  registrySnapshotHash : String
  resolutionSha256 : String
  requestContextJson : Val
  selectedPathsJson : Val
  effectiveClassificationsJson : Val
  effectiveRolesJson : Val
  effectiveBindingsJson : Val
  appliedDeniesJson : Val
  appliedDelegationsJson : Val
  blockingCodesJson : Val
  overrideRequestId : Val
  expiresAt : Option Nat

def ledgerKeys (sql : Sql) : List (LedgerRow → Option (List String)) :=
  [fun row => some [sql.collate row.resolutionId]]

/-- `readContainerResolution(resolutionId, { tenantId, principalId })`; an empty
tenant or principal is no condition.  The JSON columns, which are never `NULL`,
hold the values their texts denote. -/
def readContainerResolution {sql : Sql} (ledger : UniqueTable (ledgerKeys sql))
    (resolutionId tenantId principalId : String) : Option LedgerRow :=
  ledger.rows.find? fun row =>
    sql.collate row.resolutionId == sql.collate resolutionId &&
      (tenantId == "" || sql.collate row.tenantId == sql.collate tenantId) &&
      (principalId == "" || sql.collate row.principal.id == sql.collate principalId)

/-- `["allow","delegate"].includes(String(binding.effect || "").toLowerCase())`
and the binding matches. -/
def grantMatches (request : DimensionRequest) (binding : Val) : Except Val Bool := do
  let effect ← binding.get "effect"
  let text ← textOf effect
  if toLowerCase text = "allow" ∨ toLowerCase text = "delegate" then
    bindingMatchesDimensionRequest binding request
  else .ok false

/-- `grants.some(…)`. -/
def someGrant (request : DimensionRequest) : List Val → Except Val Bool
  | [] => .ok false
  | binding :: rest => do
    let found ← grantMatches request binding
    if found then .ok true else someGrant request rest

/-- An operation without a wildcard. -/
def isExactOperation (operation : String) : Bool :=
  operation != "" && operation != "*" && !endsWith operation ".*"

/-- `validateDelegationAgainstResolution({ delegation, delegatorResolution })`:
whether the result is `ok`. -/
def validateDelegationAgainstResolution (delegation : DimensionRequest)
    (delegatorResolution : Option LedgerRow) : Except Val Bool :=
  match delegatorResolution with
  | none => .ok false
  | some resolution =>
    if resolution.decision ≠ "allow" then .ok false
    else if !isExactOperation delegation.operation then .ok false
    else
      match resolution.effectiveBindingsJson with
      | .arr grants => someGrant delegation grants
      | _ => .ok false

end GrowthOs.Containers
