import GrowthOs.Containers.Metadata
import GrowthOs.Support.UniqueTable

/-!
# Container overrides

`dynamicContainerOverrideService.js` and the override functions of
`dynamicContainerAuthorityRepository.js`: a principal that a resolution denied
asks for an override, other principals approve or reject it, and an execution
consumes it once.  Tables that these functions only read (the resolution
ledger, the capability envelopes, the dimensions, the authority epochs) are
given to each call as it finds them.
-/

namespace GrowthOs.Containers

open Js Table
open Throwing (rejectIf)

/-! ## Rows -/

inductive OverrideStatus
  | pending | readyRequiresApproval | ready | rejected | expired | consumed
  | stale | revoked
deriving DecidableEq, Repr

def OverrideStatus.text : OverrideStatus → String
  | .pending => "pending"
  | .readyRequiresApproval => "ready_requires_approval"
  | .ready => "ready"
  | .rejected => "rejected"
  | .expired => "expired"
  | .consumed => "consumed"
  | .stale => "stale"
  | .revoked => "revoked"

inductive OverrideDecision
  | approved | rejected
deriving DecidableEq, Repr

def OverrideDecision.text : OverrideDecision → String
  | .approved => "approved"
  | .rejected => "rejected"

def OverrideDecision.ofText : String → Option OverrideDecision
  | "approved" => some .approved
  | "rejected" => some .rejected
  | _ => none

/-- The columns of `container_override_requests` that its `INSERT` writes and
nothing updates. -/
structure OverrideSpec where
  overrideId : String
  capabilityEnvelopeId : String
  originalResolutionId : String
  originalResolutionSha256 : String
  originalDecision : String
  originalBlockingCodes : List String
  authorityEpoch : Nat
  registrySnapshotHash : String
  tenantId : String
  requester : Principal
  targetContainerId : String
  containerPathHash : String
  dimensionKey : String
  resourceType : String
  resourceRef : String
  operationKey : String
  riskClass : String
  reason : String
  requiredApprovalCount : Nat
  overrideSha256 : String
  /-- In milliseconds, a whole number of seconds. -/
  expiresAt : Nat

structure OverrideRow extends OverrideSpec where
  approvalCount : Nat
  status : OverrideStatus
  consumedAt : Option Nat

/-- A row of `container_override_approvals`. -/
structure ApprovalRow where
  approvalId : String
  overrideId : String
  approver : Principal
  decision : OverrideDecision
  decisionNote : String
  approvalSha256 : String

/-- A row of `container_override_consumptions`. -/
structure ConsumptionRow where
  consumptionId : String
  overrideId : String
  executionRef : String
  resolutionId : Val
  resolutionSha256 : Val
  authorityEpoch : Val
  actionKey : Val
  endpointKey : Val
  bindingRef : Val
  readbackRef : Val
  consumptionSha256 : String

variable (collate : String → String)

/-- The primary key and `uq_cor_override_hash`. -/
def overrideKeys : List (OverrideRow → Option (List String)) :=
  [fun row => some [collate row.overrideId], fun row => some [collate row.overrideSha256]]

/-- The primary key, `uq_coa_distinct_approver` and `uq_coa_hash`. -/
def approvalKeys : List (ApprovalRow → Option (List String)) :=
  [fun row => some [collate row.approvalId],
    fun row => some [collate row.overrideId, row.approver.type.text, collate row.approver.id],
    fun row => some [collate row.approvalSha256]]

/-- The primary key, `uq_coc_override_once`, `uq_coc_execution` and
`uq_coc_hash`. -/
def consumptionKeys : List (ConsumptionRow → Option (List String)) :=
  [fun row => some [collate row.consumptionId], fun row => some [collate row.overrideId],
    fun row => some [collate row.executionRef],
    fun row => some [collate row.consumptionSha256]]

/-- The override tables and the clock, in milliseconds. -/
structure OverrideStore where
  overrides : UniqueTable (overrideKeys collate)
  approvals : UniqueTable (approvalKeys collate)
  consumptions : UniqueTable (consumptionKeys collate)
  now : Nat

/-- A row of `container_override_policy_registry`. -/
structure OverridePolicyRow where
  riskClass : String
  selfApprovalAllowed : Nat
  active : Bool

/-! ## Requests -/

/-- `CRITICAL_OVERRIDE_RISK_CLASSES`. -/
def criticalRiskClasses : List String :=
  ["critical", "destructive", "credential_touching", "deployment_affecting"]

/-- `DUAL_APPROVAL_OVERRIDE_RISK_CLASSES`. -/
def dualApprovalRiskClasses : List String :=
  ["destructive", "credential_touching", "deployment_affecting"]

structure OverridePolicy where
  riskClass : String
  maximumTtlMinutes : Nat
  ttlMinutes : Nat
  requiredApprovalCount : Nat

/-- `Math.floor` of a positive number. -/
def floorOfPositive : Number → Option Nat
  | .finite d =>
    if 0 < d.mantissa then some (d.mantissa / 10 ^ d.scale).toNat else none
  | _ => none

def resolveOverridePolicy (riskClass requestedTtlMinutes : Val) : Except Val OverridePolicy := do
  let text ← (riskClass.or (.str "standard")).toStr
  let normalizedRisk := toLowerCase (trim text)
  let maximum := if criticalRiskClasses.contains normalizedRisk then 15 else 60
  let requested ← (requestedTtlMinutes.or (.num (.ofNat maximum))).toNumber
  .ok
    { riskClass := normalizedRisk
      maximumTtlMinutes := maximum
      ttlMinutes := ((floorOfPositive requested).map (min · maximum)).getD maximum
      requiredApprovalCount :=
        if dualApprovalRiskClasses.contains normalizedRisk then 2 else 1 }

def requireExactValue (value : Val) (field : String) (maxLength : Nat) : Except Val String := do
  let normalized ← trimmedTextOf value
  rejectIf (normalized = "" ∨ normalized = "*" ∨ endsWith normalized ".*" ∨
      maxLength < utf16Length normalized)
    (serviceError 422 "override_scope_mismatch"
      (field ++ " must be an exact non-wildcard value.") (.arr []))
  .ok normalized

/-- What `readContainerResolution` returns, as far as an override request
reads it. -/
structure OriginalResolution where
  principalId : String
  tenantId : String
  targetContainerId : String
  decision : String
  authorityEpoch : Nat
  resolutionSha256 : String
  registrySnapshotHash : String
  containerPathHash : String
  blockingCodes : List String
  dimensionRequests : List DimensionRequest

/-- A row of `capability_resolution_envelope_ledger`. -/
structure Envelope where
  tenantId : Option String
  capabilityKey : String
  operationIntent : Option String
  riskClass : Val
  authorityStatus : String
  envelopeStatus : String
  dispatchAllowed : Nat
  applyAllowed : Nat
  blockingGapCount : Nat
  envelopeSha256 : String
  expiresAt : Nat

structure DimensionOverridePolicy where
  overrideAllowed : Nat
  defaultOverrideRiskClass : Val

/-- What an override request finds in the tables it reads; `replay` is the
request digest stored under its idempotency key. -/
structure RequestContext where
  original : Option OriginalResolution
  envelope : Option Envelope
  currentEpoch : Nat
  dimensionPolicy : Option DimensionOverridePolicy
  replay : Option String

def scopeMismatch (status : Nat) (message : String) : Val :=
  serviceError status "override_scope_mismatch" message (.arr [])

/-- The value of an optional row, or the error thrown without it. -/
def requireRow {α : Type} (row : Option α) (e : Val) : Except Val α :=
  match row with
  | some a => .ok a
  | none => .error e

theorem requireRow_eq_ok {α : Type} {row : Option α} {e : Val} {a : α} :
    requireRow row e = .ok a ↔ row = some a := by
  cases row with
  | none | some b => simp [requireRow]

def requireIdempotencyKey (value : Val) : Except Val String := do
  let key ← trimmedTextOf value
  rejectIf (utf16Length key < 8 ∨ 128 < utf16Length key) (serviceError 400 "idempotency_key_invalid"
      "Idempotency-Key must contain 8 to 128 characters." (.arr []))
  .ok key

def assertNoSecret (message : String) (value : Val) : Except Val Unit :=
  let violations := validateNoSecretMetadata value
  rejectIf (violations ≠ []) (serviceError 422 "container_secret_field_forbidden" message
      (.arr violations))

def Envelope.readyForGovernance (envelope : Envelope) : Bool :=
  (envelope.envelopeStatus == "ready_for_dispatch" ||
    envelope.envelopeStatus == "ready_requires_approval") &&
    envelope.authorityStatus == "passed" && envelope.blockingGapCount == 0

/-- `new Date(ms).toISOString().slice(0,19).replace("T"," ")`. -/
def sqlTimeText (rt : Runtime) (ms : Nat) : String :=
  String.ofList (((rt.isoString ms).toList.take 19).map fun c =>
    if c == 'T' then ' ' else c)

/-- The checks of a request against the resolution it wants overridden. -/
def checkOriginal (ctx : RequestContext) (principal : Principal) :
    Except Val OriginalResolution := do
  let original ← requireRow ctx.original (serviceError 404 "container_resolution_not_found"
      "Original container resolution was not found." (.arr []))
  rejectIf (original.decision = "allow") (serviceError 409 "override_required"
      "An override cannot be requested for an already allowed resolution."
      (.arr []))
  rejectIf (original.principalId ≠ principal.id ∧ principal.type ≠ .service) (scopeMismatch 403
      "Requester principal does not own the original resolution.")
  .ok original

/-- The checks of a request against its capability envelope. -/
def checkEnvelope (ctx : RequestContext) (original : OriginalResolution)
    (now : Nat) : Except Val Envelope := do
  let envelope ← requireRow ctx.envelope (serviceError 404 "capability_envelope_not_found"
      "Capability envelope was not found." (.arr []))
  rejectIf (envelope.tenantId.getD "" ≠ original.tenantId) (scopeMismatch 403
      "Capability envelope tenant does not match the resolution tenant.")
  rejectIf (envelope.readyForGovernance = false) (serviceError 409 "override_required"
      "Capability envelope is not ready for override governance." (.arr []))
  rejectIf (envelope.expiresAt ≤ now)
    (serviceError 409 "override_expired" "Capability envelope expired." (.arr []))
  rejectIf (ctx.currentEpoch ≠ original.authorityEpoch) (serviceError 409 "override_snapshot_stale"
      "Original resolution authority epoch is stale." (.arr []))
  .ok envelope

/-- The dimension, resource and operation of a request, which must be one of
those the original resolution was about. -/
def checkScope (original : OriginalResolution) (input : Val) : Except Val DimensionRequest := do
  let targetContainerId ← requireExactValue (input.member "targetContainerId")
    "targetContainerId" 36
  let dimensionKey ← requireExactValue ((input.member "dimension").or (input.member "dimensionKey"))
    "dimension" 191
  let resourceType ← requireExactValue (input.member "resourceType") "resourceType" 128
  let resourceRef ← requireExactValue (input.member "resourceRef") "resourceRef" 512
  let operationKey ← requireExactValue (input.member "operation") "operation" 191
  rejectIf (targetContainerId ≠ original.targetContainerId) (scopeMismatch 422
      "Target container does not match the original resolution.")
  requireRow (original.dimensionRequests.find? fun request =>
      request.dimension == dimensionKey && request.resourceType == resourceType &&
        request.resourceRef == resourceRef && request.operation == operationKey)
    (scopeMismatch 422
      "Override dimension, resource, or operation is outside the original resolution.")

def checkDimensionPolicy (ctx : RequestContext) (request : DimensionRequest)
    (envelope : Envelope) : Except Val DimensionOverridePolicy := do
  let policy ← requireRow ctx.dimensionPolicy (serviceError 422 "resource_dimension_not_registered"
      "Override dimension is not registered or active." (.arr []))
  rejectIf (policy.overrideAllowed ≠ 1) (serviceError 403 "override_scope_mismatch"
      "This resource dimension cannot be overridden."
      (.arr [.obj [("dimension", .str request.dimension)]]))
  let intent := envelope.operationIntent.getD ""
  rejectIf (intent ≠ "" ∧ intent ≠ request.operation ∧
      envelope.capabilityKey ≠ request.capabilityKey.getD "")
    (scopeMismatch 422
      "Capability envelope operation/capability does not match the requested override.")
  .ok policy

/-- The payload whose digest identifies a request. -/
def OverrideSpec.payload (o : OverrideSpec) (expiresAt : String) : Val :=
  .obj [("overrideId", .str o.overrideId), ("capabilityEnvelopeId", .str o.capabilityEnvelopeId),
    ("originalResolutionId", .str o.originalResolutionId),
    ("originalResolutionSha256", .str o.originalResolutionSha256),
    ("originalDecision", .str o.originalDecision),
    ("originalBlockingCodes", .arr (o.originalBlockingCodes.map .str)),
    ("authorityEpoch", .num (.ofNat o.authorityEpoch)),
    ("registrySnapshotHash", .str o.registrySnapshotHash),
    ("tenantId", .str o.tenantId),
    ("requesterPrincipalType", .str o.requester.type.text),
    ("requesterPrincipalId", .str o.requester.id),
    ("targetContainerId", .str o.targetContainerId),
    ("containerPathHash", .str o.containerPathHash),
    ("dimensionKey", .str o.dimensionKey),
    ("resourceType", .str o.resourceType),
    ("resourceRef", .str o.resourceRef),
    ("operationKey", .str o.operationKey),
    ("riskClass", .str o.riskClass), ("reason", .str o.reason),
    ("requiredApprovalCount", .num (.ofNat o.requiredApprovalCount)),
    ("status", .str OverrideStatus.readyRequiresApproval.text),
    ("expiresAt", .str expiresAt)]

variable {collate} (rt : Runtime)

/-- `createContainerOverrideRequestRecord(record)`; a duplicate key throws. -/
def createContainerOverrideRequestRecord (spec : OverrideSpec)
    (s : OverrideStore collate) : Except Val (OverrideStore collate) := do
  let overrides ← requireRow (s.overrides.insert
      { toOverrideSpec := spec
        approvalCount := 0
        status := .readyRequiresApproval
        consumedAt := none })
    (.obj [("code", .str "ER_DUP_ENTRY")])
  .ok { s with overrides }

variable (s : OverrideStore collate)

/-- `requestContainerOverride(input, { idempotencyKey, requesterPrincipal })`;
`drawnId` is the identifier drawn when the input has none.  A replay inserts
nothing. -/
def requestContainerOverride (ctx : RequestContext) (input idempotencyKey requesterPrincipal : Val)
    (drawnId : String) (s : OverrideStore collate) : Except Val (OverrideStore collate) := do
  assertNoSecret "Secret-like fields are forbidden in override requests." input
  let _key ← requireIdempotencyKey idempotencyKey
  let principal ← principalOf requesterPrincipal
    (input.member "requesterPrincipal") "Valid requester principal required."
  let originalResolutionId ← requireExactValue
    (input.member "originalResolutionId") "originalResolutionId" 36
  let capabilityEnvelopeId ← requireExactValue
    (input.member "capabilityEnvelopeId") "capabilityEnvelopeId" 36
  let original ← checkOriginal ctx principal
  let envelope ← checkEnvelope ctx original s.now
  let request ← checkScope original input
  let dimensionPolicy ← checkDimensionPolicy ctx request envelope
  let reason ← trimmedTextOf (input.member "reason")
  rejectIf (utf16Length reason < 20 ∨ 1000 < utf16Length reason)
    (serviceError 400 "override_reason_invalid"
      "Override reason must contain 20 to 1000 characters." (.arr []))
  let policy ← resolveOverridePolicy
    (((input.member "riskClass").or dimensionPolicy.defaultOverrideRiskClass).or
      (envelope.riskClass.or (.str "standard")))
    (input.member "requestedTtlMinutes")
  let overrideId ← ((input.member "overrideId").or (.str drawnId)).toStr
  let expiry := s.now + policy.ttlMinutes * 60 * 1000
  let spec : OverrideSpec :=
    { overrideId, capabilityEnvelopeId, originalResolutionId
      originalResolutionSha256 := original.resolutionSha256
      originalDecision := original.decision
      originalBlockingCodes := original.blockingCodes
      authorityEpoch := original.authorityEpoch
      registrySnapshotHash := original.registrySnapshotHash
      tenantId := original.tenantId
      requester := principal
      targetContainerId := original.targetContainerId
      containerPathHash := original.containerPathHash
      dimensionKey := request.dimension
      resourceType := request.resourceType
      resourceRef := request.resourceRef
      operationKey := request.operation
      riskClass := policy.riskClass
      reason
      requiredApprovalCount := policy.requiredApprovalCount
      overrideSha256 := ""
      expiresAt := expiry / 1000 * 1000 }
  let payload := spec.payload (sqlTimeText rt expiry)
  match ctx.replay with
  | some stored => do
    rejectIf (stored ≠ stableSha256 rt payload) (serviceError 409 "idempotency_key_conflict"
        "Idempotency key was used for a different override request." (.arr []))
    .ok s
  | none =>
    createContainerOverrideRequestRecord
      { spec with
        overrideSha256 := stableSha256 rt
          (.obj (Val.setField payload.ownFields "capabilityEnvelopeSha256"
            (.str envelope.envelopeSha256))) } s

/-! ## Approvals -/

def readContainerOverrideForUpdate (overrideId : String) : Option OverrideRow :=
  s.overrides.rows.find? fun row => collate row.overrideId == collate overrideId

/-- The decisions on an override. -/
def approvalsOf (overrideId : String) : List ApprovalRow :=
  s.approvals.rows.filter fun row =>
    collate row.overrideId == collate overrideId

/-- `SUM(decision=...)` over the decisions on an override. -/
def countDecisions (overrideId : String) (decision : OverrideDecision) : Nat :=
  (approvalsOf s overrideId).countP fun row => row.decision == decision

/-- `self_approval_allowed` of the active policy of the risk class. -/
def selfApprovalAllowed (collate : String → String)
    (policies : List OverridePolicyRow) (riskClass : String) : Bool :=
  match policies.find? fun policy =>
      collate policy.riskClass == collate riskClass && policy.active with
  | some policy => policy.selfApprovalAllowed == 1
  | none => false

/-- An update that keeps the columns of the request takes no key. -/
theorem narrows_of_spec {row row' : OverrideRow} (h : row'.toOverrideSpec = row.toOverrideSpec) :
    Narrows (overrideKeys collate) row row' := by
  intro key hmem
  simp only [overrideKeys, List.mem_cons, List.not_mem_nil, or_false] at hmem
  left
  obtain rfl | rfl := hmem
  · simp only [h]
  · simp only [h]

/-- `UPDATE container_override_requests SET ... WHERE override_id=?`. -/
def OverrideStore.updateOverride (overrideId : String) (f : OverrideRow → OverrideRow)
    (hf : ∀ row, (f row).toOverrideSpec = row.toOverrideSpec) : OverrideStore collate :=
  { s with
    overrides := s.overrides.update (fun row => collate row.overrideId == collate overrideId) f
      (fun row => narrows_of_spec (hf row)) }

/-- The status an override has after a decision. -/
def statusAfterDecision (approved rejected required : Nat) : OverrideStatus :=
  if 0 < rejected then .rejected
  else if required ≤ approved then .ready else .readyRequiresApproval

/-- `addContainerOverrideApproval(...)`.  On an override that has run out the
mark it makes is rolled back with the transaction. -/
def addContainerOverrideApproval (policies : List OverridePolicyRow) (overrideId : String)
    (approver : Principal) (decision : OverrideDecision) (decisionNote approvalId : String)
    (s : OverrideStore collate) : Except Val (OverrideStore collate) := do
  let override ← requireRow (readContainerOverrideForUpdate s overrideId)
    (serviceError 404 "container_override_not_found" "Container override was not found." .undefined)
  rejectIf (override.status = .consumed) (serviceError 409 "override_already_consumed"
      "Container override is not approvable." .undefined)
  rejectIf (override.status = .rejected ∨ override.status = .revoked)
    (serviceError 409 "override_scope_mismatch" "Container override is not approvable." .undefined)
  rejectIf (override.expiresAt ≤ s.now)
    (serviceError 409 "override_expired" "Container override expired." .undefined)
  rejectIf (override.requester = approver ∧
      selfApprovalAllowed collate policies override.riskClass = false)
    (serviceError 403 "override_second_approver_required"
      "Override requester cannot approve this risk class." .undefined)
  let approvals ← requireRow (s.approvals.insert
      { approvalId, overrideId, approver, decision, decisionNote
        approvalSha256 := stableSha256 rt (.obj [("overrideId", .str overrideId),
            ("approverPrincipalType", .str approver.type.text),
            ("approverPrincipalId", .str approver.id),
            ("decision", .str decision.text),
            ("decisionNote", .str decisionNote)]) })
    (.obj [("code", .str "ER_DUP_ENTRY")])
  let s := { s with approvals }
  let approved := countDecisions s overrideId .approved
  let status := statusAfterDecision approved
    (countDecisions s overrideId .rejected) override.requiredApprovalCount
  .ok (s.updateOverride overrideId
    (fun row => { row with approvalCount := approved, status }) fun _ => rfl)

def approveContainerOverride (policies : List OverridePolicyRow) (overrideId : String)
    (input approverPrincipal : Val) (approvalId : String) (s : OverrideStore collate) :
    Except Val (OverrideStore collate) := do
  assertNoSecret "Secret-like fields are forbidden in override approvals." input
  let principal ← principalOf approverPrincipal
    (input.member "approverPrincipal") "Valid approver principal required."
  let decisionText ← trimmedTextOf (input.member "decision")
  let decisionNote ← trimmedTextOf (input.member "decisionNote")
  let decision ← requireRow (OverrideDecision.ofText (toLowerCase decisionText))
    (serviceError 400 "override_approval_invalid"
      "decision must be approved or rejected." (.arr []))
  rejectIf (utf16Length decisionNote < 10 ∨ 512 < utf16Length decisionNote)
    (serviceError 400 "override_approval_invalid"
      "decisionNote must contain 10 to 512 characters." (.arr []))
  addContainerOverrideApproval rt policies overrideId principal decision decisionNote approvalId s

/-! ## Consumption -/

/-- What a consumption finds in the tables it only reads: the capability
envelopes by identifier and the authority epochs by tenant. -/
structure ConsumeContext where
  envelopes : String → Option Envelope
  epochs : String → Nat

def Envelope.readyForDispatch (envelope : Envelope) (tenantId : String) : Bool :=
  envelope.tenantId.getD "" == tenantId && envelope.authorityStatus == "passed" &&
    envelope.envelopeStatus == "ready_for_dispatch" &&
    envelope.dispatchAllowed == 1 && envelope.applyAllowed == 1 &&
    envelope.blockingGapCount == 0

/-- The checks of `consumeContainerOverride` up to the reading of the epoch. -/
def checkConsumable (ctx : ConsumeContext) (args : Val) (overrideId : String)
    (s : OverrideStore collate) : Except Val OverrideRow := do
  rejectIf (((args.member "executionRef").truthy &&
      (args.member "readbackRef").truthy && (args.member "actionKey").truthy &&
      (args.member "endpointKey").truthy) = false)
    (serviceError 422 "override_scope_mismatch"
      "Execution, action, endpoint, and same-cycle readback references are required."
      .undefined)
  let override ← requireRow (readContainerOverrideForUpdate s overrideId)
    (serviceError 404 "container_override_not_found" "Container override was not found." .undefined)
  let notReady := serviceError 409 "override_required"
    "Capability envelope is not ready for override consumption." .undefined
  let envelope ← requireRow (ctx.envelopes override.capabilityEnvelopeId) notReady
  rejectIf (envelope.readyForDispatch override.tenantId = false) notReady
  rejectIf (envelope.expiresAt ≤ s.now)
    (serviceError 409 "override_expired" "Capability envelope expired." .undefined)
  rejectIf (override.status = .consumed) (serviceError 409 "override_already_consumed"
      "Container override already consumed." .undefined)
  rejectIf (override.status ≠ .ready)
    (serviceError 409 "override_required" "Container override is not ready." .undefined)
  rejectIf (override.expiresAt ≤ s.now)
    (serviceError 409 "override_expired" "Container override expired." .undefined)
  .ok override

def scopeMatches (override : OverrideRow) (args : Val) : Except Val Bool := do
  let resolution := args.member "resolution"
  let target ← textOf ((args.member "targetContainerId").or (resolution.member "targetContainerId"))
  let dimension ← textOf (args.member "dimensionKey")
  let resourceType ← textOf (args.member "resourceType")
  let resourceRef ← textOf (args.member "resourceRef")
  let operation ← textOf (args.member "operationKey")
  let pathHash ← textOf (resolution.member "containerPathHash")
  .ok (override.targetContainerId == target &&
    override.dimensionKey == dimension && override.resourceType == resourceType &&
    override.resourceRef == resourceRef && override.operationKey == operation &&
    override.containerPathHash == pathHash)

/-- Whether the override was requested for the resolution at hand, at the
present epoch. -/
def snapshotCurrent (ctx : ConsumeContext) (override : OverrideRow)
    (args : Val) : Except Val Bool := do
  let resolution := args.member "resolution"
  let epoch ← (resolution.member "authorityEpoch").toNumber
  let digest ← (resolution.member "resolutionSha256").toStr
  .ok (ctx.epochs override.tenantId == override.authorityEpoch &&
    epoch == .ofNat override.authorityEpoch &&
    override.originalResolutionSha256 == digest)

/-- `payload`. -/
def consumptionPayload (args : Val) (overrideId : String) : Val :=
  let resolution := args.member "resolution"
  .obj [("overrideId", .str overrideId), ("executionRef", args.member "executionRef"),
    ("resolutionId", resolution.member "resolutionId"),
    ("resolutionSha256", resolution.member "resolutionSha256"),
    ("authorityEpoch", resolution.member "authorityEpoch"),
    ("targetContainerId", args.member "targetContainerId"),
    ("dimensionKey", args.member "dimensionKey"),
    ("resourceType", args.member "resourceType"),
    ("resourceRef", args.member "resourceRef"),
    ("operationKey", args.member "operationKey"),
    ("actionKey", args.member "actionKey"),
    ("endpointKey", args.member "endpointKey"),
    ("bindingRef", (args.member "bindingRef").coalesce .null),
    ("readbackRef", args.member "readbackRef")]

/-- A call that throws inside a transaction leaves behind what the transaction
has written so far. -/
def inTransaction {α : Type} (s : OverrideStore collate) (x : Except Val α) :
    Except (Val × OverrideStore collate) α :=
  match x with
  | .ok a => .ok a
  | .error e => .error (e, s)

/-- The statements of `consumeContainerOverride(...)`. -/
def consumeContainerOverride (ctx : ConsumeContext) (args : Val) (overrideId consumptionId : String)
    (s : OverrideStore collate) : Except (Val × OverrideStore collate) (OverrideStore collate) := do
  let override ← inTransaction s (checkConsumable ctx args overrideId s)
  let matched ← inTransaction s (scopeMatches override args)
  rejectIf (matched = false) (serviceError 409 "override_scope_mismatch"
      "Container override scope does not match the execution." .undefined, s)
  let current ← inTransaction s (snapshotCurrent ctx override args)
  rejectIf (current = false) (serviceError 409 "override_snapshot_stale"
      "Container override snapshot is stale." .undefined,
      s.updateOverride overrideId (fun row => { row with status := .stale }) fun _ => rfl)
  let executionRef ← inTransaction s (args.member "executionRef").toStr
  let resolution := args.member "resolution"
  let consumptions ← inTransaction s (requireRow (s.consumptions.insert
      { consumptionId, overrideId, executionRef
        resolutionId := resolution.member "resolutionId"
        resolutionSha256 := resolution.member "resolutionSha256"
        authorityEpoch := resolution.member "authorityEpoch"
        actionKey := args.member "actionKey"
        endpointKey := args.member "endpointKey"
        bindingRef := (args.member "bindingRef").coalesce .null
        readbackRef := args.member "readbackRef"
        consumptionSha256 :=
          stableSha256 rt (consumptionPayload args overrideId) })
    (.obj [("code", .str "ER_DUP_ENTRY")]))
  let s := { s with consumptions }
  .ok (s.updateOverride overrideId
    (fun row => { row with status := .consumed, consumedAt := some s.now })
    fun _ => rfl)

/-! ## The system -/

/-- One call by anyone, or time passing.  A consumption with
`manageTransaction: false` runs inside a transaction of its caller, who
commits it even when the consumption throws if `keepOnError` is set. -/
inductive OverrideOp
  | request (ctx : RequestContext) (input idempotencyKey requester : Val) (drawnId : String)
  | approve (overrideId : String) (input approver : Val) (approvalId : String)
  | consume (ctx : ConsumeContext) (args : Val)
      (overrideId consumptionId : String) (keepOnError : Bool)
  | tick (milliseconds : Nat)

/-- A call and the override it consumed, if it did. -/
structure OverrideEvent where
  op : OverrideOp
  consumed : Option String

def settleOverride (outcome : Except Val (OverrideStore collate)) : OverrideStore collate :=
  match outcome with
  | .ok s' => s'
  | .error _ => s

/-- The store after a call, and the override the call consumed. -/
def OverrideOp.perform (policies : List OverridePolicyRow) (s : OverrideStore collate) :
    OverrideOp → OverrideStore collate × Option String
  | .request ctx input key requester drawnId =>
    (settleOverride s (requestContainerOverride rt ctx input key requester drawnId s), none)
  | .approve overrideId input approver approvalId =>
    (settleOverride s (approveContainerOverride rt policies overrideId input
      approver approvalId s), none)
  | .consume ctx args overrideId consumptionId keepOnError =>
    match consumeContainerOverride rt ctx args overrideId consumptionId s with
    | .ok s' => (s', some overrideId)
    | .error (_, written) => (if keepOnError then written else s, none)
  | .tick milliseconds => ({ s with now := s.now + milliseconds }, none)

/-- One step of the override system. -/
def OverrideStep (policies : List OverridePolicyRow) (s : OverrideStore collate) (e : OverrideEvent)
    (s' : OverrideStore collate) : Prop :=
  (s', e.consumed) = e.op.perform rt policies s

end GrowthOs.Containers
