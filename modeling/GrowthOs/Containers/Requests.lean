import GrowthOs.Containers.Override
import GrowthOs.Containers.Graph

/-!
# Requests to create relationships, role assignments and resource bindings

The part of `dynamicContainerAuthorityMutationService.js` that reads nothing
from the database: what each of the three services makes of its input, and the
value whose digest identifies the request.
-/

namespace GrowthOs.Containers

open Js
open Throwing (rejectIf)

/-- `{ idempotencyKey, ifMatch, actorId }`. -/
structure CallOptions where
  idempotencyKey : Val
  ifMatch : Val
  actorId : Val

/-- `actorId = "platform_admin"`. -/
def CallOptions.actor (opts : CallOptions) : Val :=
  if opts.actorId.isUndefined then .str "platform_admin" else opts.actorId

/-- `String(ifMatch).match(/(\d+)/)`, as a number. -/
def firstNumber (s : String) : Option Nat :=
  let digits := (s.toList.dropWhile fun c => !c.isDigit).takeWhile Char.isDigit
  if digits.isEmpty then none else some (digitsValue 10 decimalDigit digits)

def parseEpochTag (ifMatch : Val) : Except Val (Option Nat) :=
  if !ifMatch.truthy then .ok none
  else do
    let text ← ifMatch.toStr
    .ok (firstNumber text)

def assertEpoch (expectedEpoch : Option Nat) (actualEpoch : Nat) : Except Val Unit :=
  rejectIf (expectedEpoch.any (· != actualEpoch))
    (serviceError 409 "container_authority_epoch_changed"
      "Authority epoch changed before mutation."
      (.arr [.obj [("expected", .num (.ofNat (expectedEpoch.getD 0))),
        ("actual", .num (.ofNat actualEpoch))]]))

/-- `value ? String(value) : null`. -/
def textIfTruthy (value : Val) : Except Val (Option String) :=
  if value.truthy then do
    let text ← value.toStr
    .ok (some text)
  else .ok none

/-- `Array.isArray(value) ? value.map(String) : []`. -/
def textsOf : Val → Except Val (List String)
  | .arr items => items.mapM Val.toStr
  | _ => .ok []

/-! ## Requests -/

/-- The `request` of `createContainerRoleAssignment`, and what is inserted
beside it. -/
structure RoleAssignmentRequest where
  assignmentId : String
  tenantId : String
  containerId : String
  principalType : String
  principalId : String
  roleTemplateKey : Option String
  inlinePermissions : Option (List Val)
  inheritanceMode : String
  validUntil : Val
  issuedBy : Val
  approvedBy : Val
  metadata : Val

/-- The `request` of `createContainerResourceBinding`, and what is inserted
beside it. -/
structure BindingRequest where
  bindingId : String
  tenantId : String
  containerId : String
  dimension : String
  resourceType : String
  resourceRef : String
  effect : BindingEffect
  permissionKey : Option String
  operations : List String
  capabilityKeys : List String
  inheritanceMode : String
  conditions : Val
  validUntil : Val
  delegatedByPrincipalType : Option String
  delegatedByPrincipalId : Option String
  delegatorResolutionId : Option String
  delegationRelationshipId : Option String
  mergePriority : Number
  sourceTable : Val
  sourcePk : Val
  createdBy : Val
  approvedBy : Val
  metadata : Val

inductive MutationRequest
  | relationship (r : RelationshipRequest)
  | roleAssignment (r : RoleAssignmentRequest)
  | resourceBinding (r : BindingRequest)

def RelationshipRequest.toVal (r : RelationshipRequest) : Val :=
  .obj [("relationship_id", .str r.relationshipId), ("tenant_id", .str r.tenantId),
    ("from_container_id", .str r.fromContainerId),
    ("to_container_id", .str r.toContainerId),
    ("relationship_type_key", .str r.relationshipTypeKey),
    ("priority", .num r.priority), ("conditions_json", r.conditions),
    ("valid_from", r.validFrom), ("valid_until", r.validUntil),
    ("status", .str "active"), ("version", .num (.ofNat 1)),
    ("created_by", r.createdBy), ("approved_by", r.approvedBy),
    ("metadata_json", r.metadata)]

def RoleAssignmentRequest.principal (r : RoleAssignmentRequest) : Val :=
  .obj [("type", .str r.principalType), ("id", .str r.principalId)]

def RoleAssignmentRequest.toVal (r : RoleAssignmentRequest) : Val :=
  .obj [("assignmentId", .str r.assignmentId), ("tenantId", .str r.tenantId),
    ("containerId", .str r.containerId), ("principal", r.principal),
    ("roleTemplateKey", optionVal r.roleTemplateKey),
    ("inlinePermissions", (r.inlinePermissions.map Val.arr).getD .null),
    ("inheritanceMode", .str r.inheritanceMode), ("validUntil", r.validUntil)]

def BindingRequest.toVal (r : BindingRequest) : Val :=
  .obj [("bindingId", .str r.bindingId), ("tenantId", .str r.tenantId),
    ("containerId", .str r.containerId), ("dimension", .str r.dimension),
    ("resourceType", .str r.resourceType), ("resourceRef", .str r.resourceRef),
    ("effect", .str r.effect.text), ("permissionKey", optionVal r.permissionKey),
    ("operations", .arr (r.operations.map .str)),
    ("capabilityKeys", .arr (r.capabilityKeys.map .str)),
    ("inheritanceMode", .str r.inheritanceMode), ("conditions", r.conditions),
    ("validUntil", r.validUntil),
    ("delegatedByPrincipalType", optionVal r.delegatedByPrincipalType),
    ("delegatedByPrincipalId", optionVal r.delegatedByPrincipalId),
    ("delegatorResolutionId", optionVal r.delegatorResolutionId),
    ("delegationRelationshipId", optionVal r.delegationRelationshipId)]

/-- The value whose digest identifies a request. -/
def MutationRequest.toVal : MutationRequest → Val
  | .relationship r => r.toVal
  | .roleAssignment r => r.toVal
  | .resourceBinding r => r.toVal

def MutationRequest.resultId : MutationRequest → String
  | .relationship r => r.relationshipId
  | .roleAssignment r => r.assignmentId
  | .resourceBinding r => r.bindingId

def MutationRequest.resultType : MutationRequest → String
  | .relationship _ => "relationship"
  | .roleAssignment _ => "role_assignment"
  | .resourceBinding _ => "resource_binding"

def MutationRequest.scopeKey : MutationRequest → String
  | .relationship r => "container-relationship:" ++ r.tenantId
  | .roleAssignment r => "container-role:" ++ r.tenantId
  | .resourceBinding r => "container-binding:" ++ r.tenantId

/-- `input[field] || randomUUID()`. -/
def givenOrDrawn (input : Val) (field drawnId : String) : Except Val String := do
  let given ← input.get field
  (given.or (.str drawnId)).toStr

def readRelationshipRequest (input : Val) (actor : Val) (drawnId : String) :
    Except Val RelationshipRequest := do
  let relationshipId ← givenOrDrawn input "relationshipId" drawnId
  let tenantId ← textOf (input.member "tenantId")
  let fromContainerId ← textOf (input.member "fromContainerId")
  let toContainerId ← textOf (input.member "toContainerId")
  let relationshipTypeKey ← textOf (input.member "relationshipType")
  let priority ← ((input.member "priority").or (.num (.ofNat 0))).toNumber
  rejectIf (tenantId = "" ∨ fromContainerId = "" ∨ toContainerId = "" ∨
      relationshipTypeKey = "")
    (serviceError 400 "container_relationship_invalid"
      "tenantId, fromContainerId, toContainerId, and relationshipType are required."
      (.arr []))
  .ok
    { relationshipId, tenantId, fromContainerId, toContainerId
      relationshipTypeKey, priority
      conditions := (input.member "conditions").or (.obj [])
      validFrom := (input.member "validFrom").or .null
      validUntil := (input.member "validUntil").or .null
      createdBy := actor
      approvedBy := (input.member "approvedBy").or .null
      metadata := (input.member "metadata").or (.obj []) }

def readRoleAssignmentRequest (input : Val) (actor : Val) (drawnId : String) :
    Except Val RoleAssignmentRequest := do
  let assignmentId ← givenOrDrawn input "assignmentId" drawnId
  let tenantId ← textOf (input.member "tenantId")
  let principalType ← textOf ((input.member "principal").member "type")
  let principalId ← textOf ((input.member "principal").member "id")
  let roleTemplateKey ← textIfTruthy (input.member "roleTemplateKey")
  let inlinePermissions :=
    match input.member "inlinePermissions" with
    | .arr items => some items
    | _ => none
  let hasTemplate := roleTemplateKey.getD "" != ""
  rejectIf (tenantId = "" ∨ (input.member "containerId").truthy = false ∨
      principalType = "" ∨ principalId = "" ∨
      hasTemplate = inlinePermissions.isSome)
    (serviceError 400 "container_role_assignment_invalid"
      ("Exactly one roleTemplateKey or inlinePermissions value is required with tenant, " ++
        "container, and principal context.") (.arr []))
  let containerId ← (input.member "containerId").toStr
  let inheritanceMode ←
    ((input.member "inheritanceMode").or (.str "local_only")).toStr
  .ok
    { assignmentId, tenantId, containerId, principalType, principalId
      roleTemplateKey, inlinePermissions, inheritanceMode
      validUntil := (input.member "validUntil").or .null
      issuedBy := actor
      approvedBy := (input.member "approvedBy").or .null
      metadata := (input.member "metadata").or (.obj []) }

def bindingInvalid : Val :=
  serviceError 400 "container_resource_binding_invalid"
    "Container, dimension, resource, and a supported effect are required." (.arr [])

def readBindingRequest (input : Val) (actor : Val) (drawnId : String) :
    Except Val BindingRequest := do
  let bindingId ← givenOrDrawn input "bindingId" drawnId
  let tenantId ← textOf (input.member "tenantId")
  let effectText ← textOf (input.member "effect")
  let operations ← textsOf (input.member "operations")
  let containerId ← textOf (input.member "containerId")
  let dimension ← textOf (input.member "dimension")
  let resourceType ← textOf (input.member "resourceType")
  let resourceRef ← textOf (input.member "resourceRef")
  let permissionKey ← textIfTruthy (input.member "permissionKey")
  let capabilityKeys ← textsOf (input.member "capabilityKeys")
  let inheritanceMode ←
    ((input.member "inheritanceMode").or (.str "local_only")).toStr
  let delegatedByPrincipalType ←
    textIfTruthy (input.member "delegatedByPrincipalType")
  let delegatedByPrincipalId ← textIfTruthy (input.member "delegatedByPrincipalId")
  let delegatorResolutionId ← textIfTruthy (input.member "delegatorResolutionId")
  let delegationRelationshipId ←
    textIfTruthy (input.member "delegationRelationshipId")
  let mergePriority ← ((input.member "mergePriority").or (.num (.ofNat 0))).toNumber
  rejectIf (tenantId = "" ∨ containerId = "" ∨ dimension = "" ∨
    resourceType = "" ∨ resourceRef = "") bindingInvalid
  let effect ← requireRow (BindingEffect.ofText (toLowerCase effectText))
    bindingInvalid
  rejectIf (resourceRef = "*" ∨ operations.contains "*")
    (serviceError 422 "container_resource_binding_invalid"
      "Wildcard resources or operations are forbidden." (.arr []))
  .ok
    { bindingId, tenantId, containerId, dimension, resourceType, resourceRef
      effect, permissionKey, operations, capabilityKeys, inheritanceMode
      conditions := (input.member "conditions").or (.obj [])
      validUntil := (input.member "validUntil").or .null
      delegatedByPrincipalType, delegatedByPrincipalId, delegatorResolutionId
      delegationRelationshipId, mergePriority
      sourceTable := (input.member "sourceTable").coalesce .null
      sourcePk := (input.member "sourcePk").coalesce .null
      createdBy := actor
      approvedBy := (input.member "approvedBy").or .null
      metadata := (input.member "metadata").or (.obj []) }

/-- The three services. -/
inductive MutationKind
  | relationship | roleAssignment | resourceBinding
deriving DecidableEq, Repr

def MutationKind.readRequest (kind : MutationKind) (input actor : Val)
    (drawnId : String) : Except Val MutationRequest :=
  match kind with
  | .relationship => do
    let r ← readRelationshipRequest input actor drawnId
    .ok (.relationship r)
  | .roleAssignment => do
    let r ← readRoleAssignmentRequest input actor drawnId
    .ok (.roleAssignment r)
  | .resourceBinding => do
    let r ← readBindingRequest input actor drawnId
    .ok (.resourceBinding r)

/-- A call up to its first statement. -/
structure PreparedCall where
  request : MutationRequest
  key : String

def PreparedCall.requestSha256 (rt : Runtime) (call : PreparedCall) : String :=
  stableSha256 rt call.request.toVal

/-- What a call computes before it reads the database; `drawnId` is the
identifier drawn when the input has none. -/
def prepareCall (kind : MutationKind) (input : Val) (opts : CallOptions)
    (drawnId : String) : Except Val PreparedCall := do
  assertNoSecret
    "Secret-like fields are forbidden in container authority metadata." input
  let key ← requireIdempotencyKey opts.idempotencyKey
  let request ← kind.readRequest input opts.actor drawnId
  .ok ⟨request, key⟩

end GrowthOs.Containers
