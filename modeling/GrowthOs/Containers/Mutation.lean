import GrowthOs.Containers.Authority
import GrowthOs.Containers.Repository
import GrowthOs.Containers.Requests

/-!
# Creating relationships, role assignments and resource bindings

`dynamicContainerAuthorityMutationService.js`.  The three services go through
the same steps: the request is read from the input and digested, a result kept
under the idempotency key is returned, one transaction checks and inserts, and
its response is kept.  The steps are separate functions, since calls interleave
between them.
-/

namespace GrowthOs.Containers

open Js Table Throwing
open Throwing (rejectIf)

variable {sql : Sql}

/-! ## Inserting a relationship -/

variable (reg : Registry)

/-- The checks of `createContainerRelationship` inside its transaction. -/
def checkRelationship (r : RelationshipRequest) (s : AuthorityStore sql) : Except Val Unit := do
  let state := loadContainerAuthorityState reg s r.tenantId r.toContainerId
    ⟨.service, "container-mutation"⟩
  let validation ← validateContainerRelationship r state.relationships
    state.containers state.containerTypes state.relationshipTypes
  rejectIf (validation.errors.isEmpty = false) (serviceError 422
      ((validation.errors.head?.map (·.code)).getD "container_relationship_not_allowed")
      "Container relationship validation failed."
      (.arr (validation.errors.map FieldError.toVal)))
  let type := validation.relationshipType
  rejectIf (type.any (·.requiresApproval == 1) ∧ r.approvedBy.truthy = false)
    (serviceError 403 "approval_required"
      "This relationship type requires explicit approval evidence." (.arr []))
  let cycle := detectContainmentCycle defaultLimits state.relationships r state.relationshipTypes
  rejectIf ((type.any fun t => t.contributesToAncestry != 0 ||
      t.relationshipClass == .containment) ∧ cycle.blocked)
    (serviceError 409 (cycle.code.getD "container_cycle_detected")
      "Containment relationship would create an invalid graph."
      (.arr [cycle.toVal]))

/-- `INSERT INTO container_relationships`. -/
def insertRelationship (r : RelationshipRequest) (s : AuthorityStore sql) :
    Except Val (AuthorityStore sql) := do
  let priority ← requireRow (intColumn r.priority) (sqlError "ER_WARN_DATA_OUT_OF_RANGE")
  let validFrom ← datetimeColumn sql r.validFrom
  let validUntil ← datetimeColumn sql r.validUntil
  let relationships ← requireRow (s.relationships.insert
      { relationshipId := r.relationshipId
        tenantId := r.tenantId
        fromContainerId := r.fromContainerId
        toContainerId := r.toContainerId
        relationshipTypeKey := r.relationshipTypeKey
        priority
        conditionsJson := jsonValue r.conditions
        validFrom
        validUntil
        status := .active
        version := 1
        createdBy := r.createdBy
        approvedBy := r.approvedBy
        metadataJson := jsonValue r.metadata })
    (sqlError "ER_DUP_ENTRY")
  .ok { s with relationships }

/-- The `work` of `createContainerRelationship`. -/
def relationshipWork (r : RelationshipRequest) (expectedEpoch : Option Nat) (currentEpoch : Nat)
    (s : AuthorityStore sql) : Except Val (List (String × Val) × AuthorityStore sql) := do
  assertEpoch expectedEpoch currentEpoch
  checkRelationship reg r s
  let s ← insertRelationship r s
  .ok ([("relationshipId", .str r.relationshipId), ("tenantId", .str r.tenantId),
    ("fromContainerId", .str r.fromContainerId),
    ("toContainerId", .str r.toContainerId),
    ("relationshipType", .str r.relationshipTypeKey), ("status", .str "active")], s)

/-! ## Inserting a role assignment -/

/-- `SELECT … FROM containers WHERE container_id=? AND tenant_id=? AND
status='active' LIMIT 1`. -/
def activeContainer (sql : Sql) (reg : Registry) (containerId tenantId : String) :
    Option ContainerRow :=
  reg.containers.find? fun row =>
    sql.collate row.containerId == sql.collate containerId &&
      sql.collate row.tenantId == sql.collate tenantId && row.status.isActive

/-- `parseJsonArray(column)` on a column as the database returns it. -/
def jsonArrayColumn : Option Val → List String
  | some (.arr items) =>
    match items.mapM Val.toStr with
    | .ok texts => texts
    | .error _ => []
  | _ => []

/-- The checks on the role template of an assignment, if it has one. -/
def checkRoleTemplate (roleTemplateKey : String) (container : ContainerRow) : Except Val Unit :=
  let templates := reg.roleTemplates.filter (·.status.isActive)
  if roleTemplateKey = "" then .ok ()
  else
    match resolveRoleTemplateComposition defaultLimits
      (fun template => .ok (stringArrayColumn template.compositionJson))
      roleTemplateKey templates with
    | .error e => .error e
    | .ok (.error failure) =>
      .error (serviceError 422 failure.code "Role template composition is invalid."
        (.arr [failure.toVal]))
    | .ok (.ok _) =>
      let root := templates.find? fun template =>
        template.roleTemplateKey == roleTemplateKey
      let eligibleTypes :=
        jsonArrayColumn (root.bind (·.eligibleContainerTypesJson))
      rejectIf (!eligibleTypes.isEmpty && !eligibleTypes.contains container.containerTypeKey)
        (serviceError 422 "container_role_assignment_invalid"
          "Role template is not eligible for the target container type."
          (.arr [.obj [("roleTemplateKey", .str roleTemplateKey),
            ("containerType", .str container.containerTypeKey)]]))

def principalTypeColumn (sql : Sql) (text : String) : Except Val PrincipalType :=
  requireRow (enumColumn sql [.user, .agent, .service, .group] PrincipalType.text text)
    (sqlError "WARN_DATA_TRUNCATED")

/-- `INSERT INTO container_role_assignments`. -/
def insertRoleAssignment (r : RoleAssignmentRequest) (s : AuthorityStore sql) :
    Except Val (AuthorityStore sql) := do
  let principalType ← principalTypeColumn sql r.principalType
  let inheritanceMode ← requireRow
    (enumColumn sql [.localOnly, .inheritDown] InheritanceMode.text r.inheritanceMode)
    (sqlError "WARN_DATA_TRUNCATED")
  let validUntil ← datetimeColumn sql r.validUntil
  let roleAssignments ← requireRow (s.roleAssignments.insert
      { assignmentId := r.assignmentId
        tenantId := r.tenantId
        containerId := r.containerId
        principalType
        principalId := r.principalId
        roleTemplateKey := r.roleTemplateKey
        inlinePermissionsJson := r.inlinePermissions.bind fun items =>
          jsonValue (.arr items)
        inheritanceMode
        validFrom := some s.now
        validUntil
        status := .active
        version := 1
        issuedBy := r.issuedBy
        approvedBy := r.approvedBy
        metadataJson := jsonValue r.metadata })
    (sqlError "ER_DUP_ENTRY")
  .ok { s with roleAssignments }

/-- The `work` of `createContainerRoleAssignment`. -/
def roleAssignmentWork (r : RoleAssignmentRequest) (expectedEpoch : Option Nat) (currentEpoch : Nat)
    (s : AuthorityStore sql) : Except Val (List (String × Val) × AuthorityStore sql) := do
  assertEpoch expectedEpoch currentEpoch
  let container ← requireRow (activeContainer sql reg r.containerId r.tenantId)
    (serviceError 404 "container_not_found" "Role target container was not found." (.arr []))
  checkRoleTemplate reg (r.roleTemplateKey.getD "") container
  let s ← insertRoleAssignment r s
  .ok ([("assignmentId", .str r.assignmentId), ("tenantId", .str r.tenantId),
    ("containerId", .str r.containerId), ("principal", r.principal),
    ("roleTemplateKey", optionVal r.roleTemplateKey),
    ("inheritanceMode", .str r.inheritanceMode), ("status", .str "active")], s)

/-! ## Inserting a resource binding -/

def bindingAuthorityError (status : Nat) (code message : String) : Val :=
  .obj [("message", .str message), ("status", .num (.ofNat status)), ("code", .str code)]

def requireExactlyOne {α : Type} (rows : List α) (resourceType : String) : Except Val α :=
  match rows with
  | [] =>
    .error (bindingAuthorityError 404 "container_binding_resource_not_found"
      (resourceType ++ " resource was not found."))
  | [row] => .ok row
  | _ :: _ :: _ =>
    .error (bindingAuthorityError 409 "container_binding_resource_ambiguous"
      (resourceType ++ " resource reference did not resolve uniquely."))

def activeValue (value : Val) : Except Val Bool := do
  let text ← (value.coalesce (.str "")).toStr
  .ok (["active", "enabled", "true", "1", "yes"].contains (toLowerCase (trim text)))

structure CanonicalResource where
  resourceRef : String
  sourceTable : String
  sourcePk : String

def resourceInactive (what : String) : Val :=
  bindingAuthorityError 409 "container_binding_resource_inactive"
    ("Only active canonical " ++ what ++ " can receive container bindings.")

def resolveCanonicalContainerBindingResource (sql : Sql) (reg : Registry)
    (dimension resourceType resourceRef : String) : Except Val (Option CanonicalResource) :=
  let ref := trim resourceRef
  if trim dimension = "agents" ∧ trim resourceType = "agent" then do
    let agent ← requireExactlyOne ((reg.agents.filter fun row =>
        sql.collate row.agentId == sql.collate ref).take 2) "agent"
    rejectIf (toLowerCase agent.status ≠ "active") (resourceInactive "agents")
    .ok (some ⟨agent.agentId, "agents", agent.agentId⟩)
  else if trim dimension = "workflows" ∧ trim resourceType = "workflow" then do
    let workflow ← requireExactlyOne ((reg.workflows.filter fun row =>
        sql.collate row.workflowId == sql.collate ref ||
          sql.collate row.workflowKey == sql.collate ref).take 3) "workflow"
    let active ← activeValue workflow.active
    let status ← activeValue workflow.status
    rejectIf (active = false ∧ status = false) (resourceInactive "workflows")
    .ok (some ⟨if workflow.workflowKey = "" then workflow.workflowId else workflow.workflowKey,
        "workflows", workflow.workflowId⟩)
  else .ok none

/-- What a binding request asks to delegate, one operation at a time. -/
def BindingRequest.delegation (r : BindingRequest) (resourceRef operation : String) :
    DimensionRequest :=
  { dimension := r.dimension
    resourceType := r.resourceType
    resourceRef
    operation
    capabilityKey := none }

/-- Every operation is within the delegator's resolution. -/
def checkDelegatedOperations (r : BindingRequest) (resourceRef message : String)
    (details : String → Val) (resolution : Option LedgerRow) :
    List String → Except Val Unit
  | [] => .ok ()
  | operation :: rest => do
    let covered ← validateDelegationAgainstResolution
      (r.delegation resourceRef operation) resolution
    rejectIf (covered = false) (serviceError 403 "delegation_exceeds_delegator_authority" message
        (.arr [details operation]))
    checkDelegatedOperations r resourceRef message details resolution rest

/-- What `createContainerResourceBinding` checks between its replay and its
transaction: a delegation is read against the delegator's resolution. -/
def authorizeDelegation (ledger : UniqueTable (ledgerKeys sql)) (r : BindingRequest) :
    Except Val (Option LedgerRow) :=
  if r.effect ≠ .delegate then .ok none
  else do
    rejectIf (r.approvedBy.truthy = false) (serviceError 403 "approval_required"
        "Delegated resource bindings require explicit approval evidence." (.arr []))
    rejectIf (r.operations = [] ∨ (r.operations.any fun op => endsWith op ".*") ∨
        r.delegatorResolutionId.getD "" = "" ∨
        r.delegationRelationshipId.getD "" = "" ∨
        r.delegatedByPrincipalType.getD "" = "" ∨
        r.delegatedByPrincipalId.getD "" = "")
      (serviceError 422 "delegation_exceeds_delegator_authority"
        ("Delegation requires exact operations, an explicit delegation relationship, and " ++
          "delegator resolution identity.") (.arr []))
    let resolution := readContainerResolution ledger
      (r.delegatorResolutionId.getD "") r.tenantId (r.delegatedByPrincipalId.getD "")
    checkDelegatedOperations r r.resourceRef "Delegation exceeds the delegator effective authority."
      (fun operation => .obj [("operation", .str operation)]) resolution r.operations
    .ok resolution

/-- `SELECT relationship_id FROM container_relationships WHERE …`: a valid
relationship of type `delegates` between the two containers. -/
def delegationRelationship (s : AuthorityStore sql)
    (relationshipId tenantId fromContainerId toContainerId : String) : Option RelationshipRow :=
  s.relationships.rows.find? fun row =>
    sql.collate row.relationshipId == sql.collate relationshipId &&
      sql.collate row.tenantId == sql.collate tenantId &&
      sql.collate row.fromContainerId == sql.collate fromContainerId &&
      sql.collate row.toContainerId == sql.collate toContainerId &&
      sql.collate row.relationshipTypeKey == sql.collate "delegates" &&
      row.status.isActive && validAt s.now row.validFrom row.validUntil

/-- The provenance a caller gives must agree with the canonical one. -/
def checkProvenance (field : String) (given : Val) (expected : String) : Except Val Unit :=
  if given.truthy then do
    let received ← given.toStr
    rejectIf (received ≠ expected) (serviceError 422 "container_binding_source_provenance_mismatch"
        ("Caller " ++ field ++ " conflicts with canonical resource provenance.")
        (.arr [.obj [("expected", .str expected), ("received", .str received)]]))
  else .ok ()

def checkCanonicalProvenance (r : BindingRequest) : Option CanonicalResource → Except Val Unit
  | none => .ok ()
  | some resource => do
    checkProvenance "sourceTable" r.sourceTable resource.sourceTable
    checkProvenance "sourcePk" r.sourcePk resource.sourcePk

/-- The checks on the dimension of a binding. -/
def checkDimension (sql : Sql) (reg : Registry) (r : BindingRequest) : Except Val Unit := do
  let dimension ← requireRow (reg.dimensions.find? fun row =>
      sql.collate row.dimensionKey == sql.collate r.dimension && row.status.isActive)
    (serviceError 422 "resource_dimension_not_registered"
      "Resource dimension was not found or inactive." (.arr []))
  rejectIf (r.effect = .share ∧ dimension.supportsSharing = 0)
    (serviceError 422 "container_relationship_not_allowed"
      "Dimension does not support sharing." (.arr []))
  rejectIf (r.effect = .delegate ∧ dimension.supportsDelegation = 0)
    (serviceError 422 "container_relationship_not_allowed"
      "Dimension does not support delegation." (.arr []))

/-- The checks of a delegation inside the transaction. -/
def checkDelegation (r : BindingRequest) (resourceRef : String)
    (resolution : Option LedgerRow) (s : AuthorityStore sql) : Except Val Unit :=
  if r.effect ≠ .delegate then .ok ()
  else do
    checkDelegatedOperations r resourceRef
      "Delegation does not cover the canonical resolved resource."
      (fun operation => .obj [("operation", .str operation), ("resourceRef", .str resourceRef)])
      resolution r.operations
    let delegator ← requireRow resolution
      (Val.typeError "Cannot read properties of null (reading 'targetContainerId')")
    let _row ← requireRow (delegationRelationship s (r.delegationRelationshipId.getD "") r.tenantId
        delegator.targetContainerId r.containerId)
      (serviceError 422 "container_relationship_not_allowed"
        "Delegation relationship does not match the delegator and target containers."
        (.arr []))
    .ok ()

/-- `INSERT INTO container_resource_bindings`. -/
def insertBinding (r : BindingRequest) (resourceRef : String)
    (sourceTable sourcePk : Val) (s : AuthorityStore sql) :
    Except Val (AuthorityStore sql) := do
  let inheritanceMode ← requireRow
    (enumColumn sql [.localOnly, .inheritDown, .explicitShare, .blockInheritance]
      InheritanceMode.text r.inheritanceMode)
    (sqlError "WARN_DATA_TRUNCATED")
  let mergePriority ← requireRow (intColumn r.mergePriority) (sqlError "ER_WARN_DATA_OUT_OF_RANGE")
  let validUntil ← datetimeColumn sql r.validUntil
  let delegatedByPrincipalType ←
    r.delegatedByPrincipalType.mapM (principalTypeColumn sql)
  let bindings ← requireRow (s.bindings.insert
      { bindingId := r.bindingId
        tenantId := r.tenantId
        containerId := r.containerId
        dimensionKey := r.dimension
        resourceType := r.resourceType
        resourceRef
        effect := r.effect
        permissionKey := r.permissionKey
        operationPatternsJson := some (.arr (r.operations.map .str))
        capabilityKeysJson := some (.arr (r.capabilityKeys.map .str))
        inheritanceMode
        mergePriority
        conditionsJson := jsonValue r.conditions
        validFrom := some s.now
        validUntil
        status := .active
        version := 1
        sourceTable
        sourcePk
        delegatedByPrincipalType
        delegatedByPrincipalId := r.delegatedByPrincipalId
        delegatorResolutionId := r.delegatorResolutionId
        delegationRelationshipId := r.delegationRelationshipId
        createdBy := r.createdBy
        approvedBy := r.approvedBy
        metadataJson := jsonValue r.metadata })
    (sqlError "ER_DUP_ENTRY")
  .ok { s with bindings }

/-- The `work` of `createContainerResourceBinding`. -/
def bindingWork (r : BindingRequest) (resolution : Option LedgerRow) (expectedEpoch : Option Nat)
    (currentEpoch : Nat) (s : AuthorityStore sql) :
    Except Val (List (String × Val) × AuthorityStore sql) := do
  assertEpoch expectedEpoch currentEpoch
  let _container ← requireRow (activeContainer sql reg r.containerId r.tenantId)
    (serviceError 404 "container_not_found" "Binding target container was not found." (.arr []))
  checkDimension sql reg r
  let canonical ← resolveCanonicalContainerBindingResource sql reg r.dimension
    r.resourceType r.resourceRef
  let resourceRef := (canonical.map (·.resourceRef)).getD r.resourceRef
  checkCanonicalProvenance r canonical
  checkDelegation r resourceRef resolution s
  let s ← insertBinding r resourceRef
    ((canonical.map fun resource => Val.str resource.sourceTable).getD r.sourceTable)
    ((canonical.map fun resource => Val.str resource.sourcePk).getD r.sourcePk) s
  .ok ([("bindingId", .str r.bindingId), ("tenantId", .str r.tenantId),
    ("containerId", .str r.containerId), ("dimension", .str r.dimension),
    ("resourceType", .str r.resourceType), ("resourceRef", .str resourceRef),
    ("effect", .str r.effect.text), ("status", .str "active")], s)

/-! ## The steps of a call -/

/-- `{ ...replay, idempotentReplay: true }`. -/
def replayed (response : Val) : Val :=
  .obj (Val.setField response.ownFields "idempotentReplay" (.bool true))

variable (rt : Runtime)

/-- The first statement of a call: what is kept under its key is returned. -/
def readReplay (call : PreparedCall) (s : AuthorityStore sql) : Except Val (Option Val) := do
  let replay ← returnIdempotentOrConflict s call.request.scopeKey call.key (call.requestSha256 rt)
  .ok (replay.map replayed)

/-- What a call checks before its transaction. -/
def authorizeCall (ledger : UniqueTable (ledgerKeys sql)) (call : PreparedCall) :
    Except Val (Option LedgerRow) :=
  match call.request with
  | .resourceBinding r => authorizeDelegation ledger r
  | _ => .ok none

def MutationRequest.tenantId : MutationRequest → String
  | .relationship r => r.tenantId
  | .roleAssignment r => r.tenantId
  | .resourceBinding r => r.tenantId

/-- The `work` of a call. -/
def MutationRequest.work (request : MutationRequest) (reg : Registry)
    (resolution : Option LedgerRow) (expectedEpoch : Option Nat) (currentEpoch : Nat)
    (s : AuthorityStore sql) : Except Val (List (String × Val) × AuthorityStore sql) :=
  match request with
  | .relationship r => relationshipWork reg r expectedEpoch currentEpoch s
  | .roleAssignment r => roleAssignmentWork reg r expectedEpoch currentEpoch s
  | .resourceBinding r => bindingWork reg r resolution expectedEpoch currentEpoch s

/-- Only a relationship changes the closure. -/
def MutationRequest.rebuildsClosure : MutationRequest → Bool
  | .relationship _ => true
  | _ => false

/-- The response of a committed mutation; only that of a relationship counts the
rows of the closure. -/
def responseOf (request : MutationRequest) (outcome : MutationOutcome) : Val :=
  let closureRows :=
    if request.rebuildsClosure then
      [("closureRows", Val.num (.ofNat (outcome.closureRows.getD 0)))]
    else []
  .obj ([("ok", .bool true)] ++ outcome.result ++
    [("authorityEpoch", .num (.ofNat outcome.authorityEpoch))] ++ closureRows ++
    [("secretsIncluded", .bool false)])

/-- The transaction of a call. -/
def commitCall (localeLe : String → String → Bool) (reg : Registry) (call : PreparedCall)
    (resolution : Option LedgerRow) (expectedEpoch : Option Nat) (s : AuthorityStore sql) :
    Except Val (Val × AuthorityStore sql) := do
  let (outcome, s) ← withContainerAuthorityMutation rt localeLe reg
    call.request.tenantId call.request.rebuildsClosure
    (call.request.work reg resolution expectedEpoch) s
  .ok (responseOf call.request outcome, s)

/-- The last statement of a call. -/
def storeResult (call : PreparedCall) (response : Val) (s : AuthorityStore sql) :
    AuthorityStore sql :=
  storeIdempotentResult s call.request.scopeKey call.key (call.requestSha256 rt)
    call.request.resultType call.request.resultId response 60

/-- A whole call, with nothing in between its steps. -/
def createContainerEntity (kind : MutationKind) (rt : Runtime)
    (localeLe : String → String → Bool) (reg : Registry)
    (ledger : UniqueTable (ledgerKeys sql)) (input : Val) (opts : CallOptions)
    (drawnId : String) (s : AuthorityStore sql) :
    Except Val (Val × AuthorityStore sql) := do
  let call ← prepareCall kind input opts drawnId
  let replay ← readReplay rt call s
  match replay with
  | some response => .ok (response, s)
  | none => do
    let resolution ← authorizeCall ledger call
    let expectedEpoch ← parseEpochTag opts.ifMatch
    let (response, s) ← commitCall rt localeLe reg call resolution expectedEpoch s
    .ok (response, storeResult rt call response s)

variable {localeLe : String → String → Bool} {reg} {response : Val}

/-- A committed call has done its `work`. -/
theorem commitCall_ok {rt : Runtime} {call : PreparedCall} {resolution : Option LedgerRow}
    {expectedEpoch : Option Nat} {s s' : AuthorityStore sql}
    (h : commitCall rt localeLe reg call resolution expectedEpoch s = .ok (response, s')) :
    ∃ outcome written,
      call.request.work reg resolution expectedEpoch
          (readContainerAuthorityEpoch s call.request.tenantId) s =
        .ok (outcome.result, written) ∧
      written.SameRows s' ∧ response = responseOf call.request outcome := by
  obtain ⟨⟨outcome, committed⟩, hmutation, h⟩ := bind_eq_ok.mp h
  cases h
  obtain ⟨written, hwork, hsame, _⟩ := withContainerAuthorityMutation_ok hmutation
  exact ⟨outcome, written, hwork, hsame, rfl⟩

/-- A call that returns has found its result under its key, or has committed
and kept it. -/
theorem createContainerEntity_ok {kind : MutationKind} {rt : Runtime}
    {ledger : UniqueTable (ledgerKeys sql)} {input : Val} {opts : CallOptions} {drawnId : String}
    {s s' : AuthorityStore sql}
    (h : createContainerEntity kind rt localeLe reg ledger input opts drawnId s =
      .ok (response, s')) :
    ∃ call, prepareCall kind input opts drawnId = .ok call ∧
      ((readReplay rt call s = .ok (some response) ∧ s' = s) ∨ ∃ resolution expectedEpoch committed,
          readReplay rt call s = .ok none ∧
          authorizeCall ledger call = .ok resolution ∧
          parseEpochTag opts.ifMatch = .ok expectedEpoch ∧
          commitCall rt localeLe reg call resolution expectedEpoch s =
            .ok (response, committed) ∧
          s' = storeResult rt call response committed) := by
  obtain ⟨call, hprepare, h⟩ := bind_eq_ok.mp h
  obtain ⟨replay, hreplay, h⟩ := bind_eq_ok.mp h
  refine ⟨call, hprepare, ?_⟩
  cases replay with
  | some kept =>
    cases h
    exact .inl ⟨hreplay, rfl⟩
  | none =>
    obtain ⟨resolution, hauthorize, h⟩ := bind_eq_ok.mp h
    obtain ⟨expectedEpoch, hepoch, h⟩ := bind_eq_ok.mp h
    obtain ⟨⟨result, committed⟩, hcommit, h⟩ := bind_eq_ok.mp h
    cases h
    exact .inr ⟨resolution, expectedEpoch, committed, hreplay, hauthorize, hepoch, hcommit, rfl⟩

def createContainerRelationship (localeLe : String → String → Bool) (reg : Registry)
    (ledger : UniqueTable (ledgerKeys sql)) (input : Val) (opts : CallOptions) (drawnId : String)
    (s : AuthorityStore sql) : Except Val (Val × AuthorityStore sql) :=
  createContainerEntity .relationship rt localeLe reg ledger input opts drawnId s

def createContainerRoleAssignment (localeLe : String → String → Bool) (reg : Registry)
    (ledger : UniqueTable (ledgerKeys sql)) (input : Val) (opts : CallOptions) (drawnId : String)
    (s : AuthorityStore sql) : Except Val (Val × AuthorityStore sql) :=
  createContainerEntity .roleAssignment rt localeLe reg ledger input opts drawnId s

def createContainerResourceBinding (localeLe : String → String → Bool) (reg : Registry)
    (ledger : UniqueTable (ledgerKeys sql)) (input : Val) (opts : CallOptions) (drawnId : String)
    (s : AuthorityStore sql) : Except Val (Val × AuthorityStore sql) :=
  createContainerEntity .resourceBinding rt localeLe reg ledger input opts drawnId s

/-! ## Two activities -/

/-- Texts compare as they are; a number is the time it denotes. -/
def plainSql : Sql where
  collate := id
  datetime v :=
    match v with
    | .num (.finite d) => some d.mantissa.toNat
    | _ => none

def plainRuntime : Runtime where
  sha256 := id
  timeOf _ := none
  isoString _ := ""

/-- Activities `a` and `b` of tenant `t`, and the type `contains`. -/
def activityRegistry : Registry where
  containers :=
    [⟨"a", "t", "activity", .active, 1⟩, ⟨"b", "t", "activity", .active, 1⟩,
      ⟨"c", "t", "activity", .active, 1⟩]
  containerTypes :=
    [⟨"activity", some (.arr [.str "workspace", .str "brand", .str "activity"]),
      some (.arr [.str "activity", .str "workflow"]), 1, .active, 1⟩]
  relationshipTypes := [⟨"contains", .containment, 1, 0, .active, 1⟩]
  classificationTypes := []
  classifications := []
  roleTemplates := []
  rolePermissions := []
  dimensions := []
  agents := []
  workflows := []

def emptyAuthority : AuthorityStore plainSql where
  relationships := .empty
  roleAssignments := .empty
  bindings := .empty
  epochs := []
  closure := []
  idempotency := []
  now := 1

def keyedCall (key : String) : CallOptions :=
  ⟨.str key, .undefined, .undefined⟩

end GrowthOs.Containers
