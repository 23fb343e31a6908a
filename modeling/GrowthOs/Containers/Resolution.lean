import GrowthOs.Containers.Mutation
import GrowthOs.Containers.Resolver

/-!
# Resolving the effective context of a container

`resolveEffectiveContainerContext` of `dynamicContainerAuthorityResolver.js`:
the evidence it builds from the loaded rows, the cache of the process in front
of it, and the ledger every resolution is written to.  Durations, performance
samples and the evidence of the authority scope shadow are left out; none of
them changes what is resolved.
-/

namespace GrowthOs.Containers

open Js Table
open Throwing (rejectIf)

variable {sql : Sql}

/-- `CONTAINER_AUTHORITY_RESOLVER_VERSION`. -/
def resolverVersion : String := "dynamic-container-authority-v1"

/-! ## The request -/

inductive ResolutionMode
  | preview | shadow | enforce
deriving DecidableEq, Repr

def ResolutionMode.text : ResolutionMode → String
  | .preview => "preview"
  | .shadow => "shadow"
  | .enforce => "enforce"

def ResolutionMode.ofText : String → Option ResolutionMode
  | "preview" => some .preview
  | "shadow" => some .shadow
  | "enforce" => some .enforce
  | _ => none

structure ResolveInput where
  principal : Principal
  tenantId : String
  targetContainerId : String
  dimensionRequests : List DimensionRequest
  mode : ResolutionMode
  expectedAuthorityEpoch : Val
  expectedRegistrySnapshotHash : Val
  legacyDecision : Val
  legacyEvidenceRef : Val
  requestId : Val
  idempotencyKey : Val

/-- The `input` that is made of `rawInput`, and its checks. -/
def readResolveInput (enforcementEnabled : Bool) (rawInput : Val) : Except Val ResolveInput := do
  let principal ← normalizePrincipal (rawInput.member "principal")
  let tenantId ← trimmedTextOf (rawInput.member "tenantId")
  let targetContainerId ← trimmedTextOf (rawInput.member "targetContainerId")
  let dimensionRequests ← normalizeDimensionRequests (rawInput.member "dimensionRequests")
  let modeText ← ((rawInput.member "mode").or (.str "preview")).toStr
  rejectIf (tenantId = "" ∨ targetContainerId = "")
    (stableError "container_not_found" "tenantId and targetContainerId are required." [])
  let mode ← requireRow (ResolutionMode.ofText (toLowerCase modeText))
    (stableError "mode_invalid" "mode must be preview, shadow, or enforce." [])
  rejectIf (mode = .enforce ∧ enforcementEnabled = false) (stableError "effective_context_blocked"
      "Container authority enforcement is disabled; use preview or shadow mode." [])
  rejectIf ((validateNoSecretMetadata rawInput).isEmpty = false)
    (stableError "container_secret_field_forbidden"
      "Secret-like fields are forbidden in container authority requests."
      (validateNoSecretMetadata rawInput))
  .ok
    { principal, tenantId, targetContainerId, dimensionRequests, mode
      expectedAuthorityEpoch := rawInput.member "expectedAuthorityEpoch"
      expectedRegistrySnapshotHash :=
        (rawInput.member "expectedRegistrySnapshotHash").or .null
      legacyDecision := (rawInput.member "legacyDecision").or (.str "unknown")
      legacyEvidenceRef := (rawInput.member "legacyEvidenceRef").or .null
      requestId := (rawInput.member "requestId").or .null
      idempotencyKey := (rawInput.member "idempotencyKey").or .null }

def dimensionRequestsVal (requests : List DimensionRequest) : Val :=
  .arr (requests.map DimensionRequest.toVal)

/-- The fields of `requestContext`. -/
def ResolveInput.contextFields (input : ResolveInput) : List (String × Val) :=
  [("principal", input.principal.toVal), ("tenantId", .str input.tenantId),
    ("targetContainerId", .str input.targetContainerId),
    ("dimensionRequests", dimensionRequestsVal input.dimensionRequests),
    ("mode", .str input.mode.text),
    ("expectedAuthorityEpoch", input.expectedAuthorityEpoch.coalesce .null),
    ("expectedRegistrySnapshotHash", input.expectedRegistrySnapshotHash.or .null)]

variable (rt : Runtime) (localeLe : String → String → Bool)

/-- The digest a resolution is kept under, with what the shadow compares. -/
def ResolveInput.idempotencyRequestSha256 (input : ResolveInput) : String :=
  stableSha256 rt (.obj (input.contextFields ++ [("legacyDecision", input.legacyDecision),
      ("legacyEvidenceRef", input.legacyEvidenceRef)]))

def ResolveInput.idempotencyScope (input : ResolveInput) : String :=
  "container-resolution:" ++ input.tenantId ++ ":" ++ input.principal.type.text ++
    ":" ++ input.principal.id

/-! ## The registry snapshot -/

/-- `Number(row.version || 1)`. -/
def versionVal (version : Nat) : Val :=
  .num (.ofNat (if version = 0 then 1 else version))

/-- `rows.sort()`, which compares the texts of the rows. -/
def sortRows (rows : List Val) : Except Val (List Val) :=
  if rows.length < 2 then .ok rows
  else do
    let texts ← rows.mapM Val.toStr
    .ok (((texts.zip rows).insertionSort fun a b => keyLe a.1 b.1 = true).map (·.2))

def sortedVersions {α : Type} (rows : List α) (columns : α → List Val) : Except Val Val := do
  let sorted ← sortRows (rows.map fun row => .arr (columns row))
  .ok (.arr sorted)

def registrySnapshot (state : AuthorityState) : Except Val Val := do
  let containerTypes ← sortedVersions state.containerTypes fun row =>
    [.str row.containerTypeKey, versionVal row.version]
  let containers ← sortedVersions state.containers fun row =>
    [.str row.containerId, versionVal row.version]
  let relationshipTypes ← sortedVersions state.relationshipTypes fun row =>
    [.str row.relationshipTypeKey, versionVal row.version]
  let relationships ← sortedVersions state.relationships fun row =>
    [.str row.relationshipId, versionVal row.version]
  let classificationTypes ← sortedVersions state.classificationTypes fun row =>
    [.str row.classificationTypeKey, versionVal row.version]
  let classifications ← sortedVersions state.classifications fun row =>
    [.str row.classificationId, versionVal row.version]
  let roleTemplates ← sortedVersions state.roleTemplates fun row =>
    [.str row.roleTemplateKey, versionVal row.version, .num (.ofNat row.authorityRank),
      jsonColumn row.compositionJson, jsonColumn row.eligibleContainerTypesJson]
  let rolePermissions ← sortedVersions state.rolePermissions fun row =>
    [.str row.roleTemplateKey, .str row.dimensionKey, .str row.permissionKey,
      .str row.effect.text, jsonColumn row.operationPatternsJson,
      .num (.finite (.ofInt row.mergePriority))]
  let roleAssignments ← sortedVersions state.roleAssignments fun row =>
    [.str row.assignmentId, versionVal row.version]
  let dimensions ← sortedVersions state.dimensions fun row =>
    [.str row.dimensionKey, versionVal row.version, .str row.defaultMergeStrategy.text,
      .num (.finite (.ofInt row.overrideAllowed))]
  let bindings ← sortedVersions state.bindings fun row =>
    [.str row.bindingId, versionVal row.version]
  .ok (.obj [("containerTypeVersions", containerTypes),
    ("containerVersions", containers), ("relationshipTypeVersions", relationshipTypes),
    ("relationshipVersions", relationships),
    ("classificationTypeVersions", classificationTypes),
    ("classificationVersions", classifications), ("roleTemplateVersions", roleTemplates),
    ("rolePermissionVersions", rolePermissions),
    ("roleAssignmentVersions", roleAssignments), ("dimensionVersions", dimensions),
    ("bindingVersions", bindings), ("authorityEpoch", .num (.ofNat state.authorityEpoch)),
    ("resolverVersion", .str resolverVersion)])

/-! ## The evidence of a resolution -/

/-- An entry of `effectiveBindings`. -/
def BindingCandidate.evidence (c : BindingCandidate) : Val :=
  .obj [("bindingId", .str c.row.bindingId), ("containerId", .str c.row.containerId),
    ("dimension", .str c.row.dimensionKey), ("resourceType", .str c.row.resourceType),
    ("resourceRef", .str c.row.resourceRef), ("effect", .str c.effect.text),
    ("permissionKey", optionVal c.row.permissionKey),
    ("operationPatterns", parseObjectOr (jsonColumn c.row.operationPatternsJson) (.arr [])),
    ("pathHash", .str c.pathHash),
    ("delegatorResolutionId", textOrNull (c.row.delegatorResolutionId.getD ""))]

/-- The part of the evidence that is hashed. -/
structure EvidenceCore where
  principal : Principal
  tenantId : String
  targetContainerId : String
  mode : ResolutionMode
  decision : String
  authorityEpoch : Nat
  containerPaths : List ContainerPath
  effectiveClassifications : Val
  effectiveRoles : List PathRoles
  effectiveBindings : List Val
  appliedDenies : List Val
  appliedDelegations : List Val
  blockingCodes : List String
  registrySnapshotHash : String
  containerPathHash : String
  requestSha256 : String

def EvidenceCore.fields (e : EvidenceCore) : List (String × Val) :=
  [("principal", e.principal.toVal), ("tenantId", .str e.tenantId),
    ("targetContainerId", .str e.targetContainerId), ("mode", .str e.mode.text),
    ("decision", .str e.decision), ("authorityEpoch", .num (.ofNat e.authorityEpoch)),
    ("resolverVersion", .str resolverVersion),
    ("containerPaths", .arr (e.containerPaths.map ContainerPath.toVal)),
    ("effectiveClassifications", e.effectiveClassifications),
    ("effectiveRoles", .arr (e.effectiveRoles.map PathRoles.toVal)),
    ("effectiveBindings", .arr e.effectiveBindings),
    ("appliedDenies", .arr e.appliedDenies),
    ("appliedDelegations", .arr e.appliedDelegations),
    ("blockingCodes", .arr (e.blockingCodes.map .str)),
    ("registrySnapshotHash", .str e.registrySnapshotHash),
    ("containerPathHash", .str e.containerPathHash),
    ("requestSha256", .str e.requestSha256)]

structure Evidence extends EvidenceCore where
  resolutionSha256 : String
  requestContext : Val

/-- The decision that the codes and the results lead to. -/
def decisionOf (blockingCodes : List String) (dimensionResults : List DimensionResult) : String :=
  if !blockingCodes.isEmpty then
    if blockingCodes.contains "container_path_ambiguous" then "ambiguous"
    else if blockingCodes.any fun code => startsWith code "override_" then
      "requires_override"
    else "deny"
  else if dimensionResults.any fun result => result.pathResults.any fun path =>
    path.result.decision == "restrict" then "restrict"
  else "allow"

def buildResolutionEvidence (input : ResolveInput) (state : AuthorityState)
    (paths : List ContainerPath) (roles : RoleResult) (classifications : ClassificationResult)
    (dimensionResults : List DimensionResult) (blockingCodes : List String) :
    Except Val Evidence := do
  let candidates := dimensionResults.flatMap (·.candidates)
  let snapshot ← registrySnapshot state
  let requestContext : Val := .obj input.contextFields
  let core : EvidenceCore :=
    { principal := input.principal
      tenantId := input.tenantId
      targetContainerId := input.targetContainerId
      mode := input.mode
      decision := decisionOf blockingCodes dimensionResults
      authorityEpoch := state.authorityEpoch
      containerPaths := paths
      effectiveClassifications := classifications.effective
      effectiveRoles := roles.pathRoles
      effectiveBindings := candidates.map BindingCandidate.evidence
      appliedDenies := (candidates.filter fun c =>
        c.effect == .deny || c.effect == .restrict).map BindingCandidate.evidence
      appliedDelegations := (candidates.filter fun c =>
        c.effect == .delegate).map BindingCandidate.evidence
      blockingCodes := blockingCodes.eraseDups.insertionSort fun a b => keyLe a b = true
      registrySnapshotHash := stableSha256 rt snapshot
      containerPathHash := stableSha256 rt (.arr (paths.map fun p => .str p.pathHash))
      requestSha256 := stableSha256 rt requestContext }
  .ok
    { toEvidenceCore := core
      resolutionSha256 := stableSha256 rt (.obj core.fields)
      requestContext }

/-- The paths of the target, or the error of a climb that fails. -/
def pathsOf (input : ResolveInput) (state : AuthorityState) : Except Val (List ContainerPath) :=
  match enumerateContainerPaths rt localeLe defaultLimits input.targetContainerId
    state.relationships state.relationshipTypes with
  | .ok paths => .ok paths
  | .error failure =>
    .error (stableError failure.code "Container path resolution failed." [.obj failure.fields])

/-- `expected && expected !== hash`. -/
def differsFrom (expected : Val) (hash : String) : Bool :=
  expected.truthy &&
    match expected with
    | .str s => s != hash
    | _ => true

/-- What an attempt computes when nothing is cached. -/
def evidenceOf (input : ResolveInput) (state : AuthorityState) (target : ContainerRow) :
    Except Val Evidence := do
  let paths ← pathsOf rt localeLe input state
  let roles ← resolveRoles paths state target.containerId input.dimensionRequests
  let classifications ← resolveClassifications localeLe paths state target.containerId
  let dimensionResults ← input.dimensionRequests.mapM
    (resolveDimensionRequest localeLe paths state target.containerId)
  let evidence ← buildResolutionEvidence rt input state paths roles classifications dimensionResults
    (roles.blockingCodes ++ classifications.blockingCodes ++
      dimensionResults.flatMap (·.blockingCodes))
  rejectIf (differsFrom input.expectedRegistrySnapshotHash evidence.registrySnapshotHash)
    (stableError "container_authority_epoch_changed"
      "Registry snapshot differs from the expected value." [])
  .ok evidence

/-! ## The cache of the process -/

structure CacheItem where
  key : String
  tenantId : String
  authorityEpoch : Nat
  expiresAtMs : Nat
  value : Evidence

abbrev Cache := List CacheItem

def buildContainerResolutionCacheKey (input : ResolveInput) (authorityEpoch : Nat) : String :=
  stableSha256 rt (.obj [("tenantId", .str input.tenantId), ("principal", input.principal.toVal),
    ("targetContainerId", .str input.targetContainerId),
    ("dimensionRequests", dimensionRequestsVal input.dimensionRequests),
    ("authorityEpoch", .num (.ofNat authorityEpoch)),
    ("resolverVersion", .str resolverVersion)])

variable (cache : Cache)

def Cache.find (key : String) : Option CacheItem :=
  List.find? (fun item => item.key == key) cache

def Cache.remove (key : String) : Cache :=
  List.filter (fun item => item.key != key) cache

/-- `resolutionCache.set(key, item)`. -/
def Cache.put (item : CacheItem) : Cache :=
  cache.remove item.key ++ [item]

/-- `cacheGet(key, epoch, nowMs)`; an item that is out of date is deleted. -/
def cacheGet (key : String) (epoch nowMs : Nat) : Option Evidence × Cache :=
  match cache.find key with
  | none => (none, cache)
  | some item =>
    if item.authorityEpoch ≠ epoch ∨ item.expiresAtMs ≤ nowMs then
      (none, cache.remove key)
    else (some item.value, cache)

/-- `invalidateContainerAuthorityCache(tenantId)`; an empty tenant is all of
them. -/
def invalidateContainerAuthorityCache (tenantId : String) : Cache :=
  if tenantId = "" then [] else List.filter (fun item => item.tenantId != tenantId) cache

/-! ## Two attempts -/

/-- What one attempt finds: the tables when it loads them and when it reads the
epoch again, and the time of the process. -/
structure AttemptView (sql : Sql) where
  loaded : AuthorityStore sql
  ending : AuthorityStore sql
  nowMs : Nat

inductive AttemptOutcome
  | resolved (evidence : Evidence) (cacheHit : Bool)
  | failed (e : Val)
  | again

def epochChanged (message : String) : Val :=
  stableError "container_authority_epoch_changed" message []

/-- The epoch the request expects is the loaded one. -/
def checkExpectedEpoch (input : ResolveInput) (state : AuthorityState) : Except Val Unit :=
  if input.expectedAuthorityEpoch.isUndefined then .ok ()
  else do
    let expected ← input.expectedAuthorityEpoch.toNumber
    rejectIf (expected ≠ .ofNat state.authorityEpoch)
      (stableError "container_authority_epoch_changed"
        "Authority epoch differs from the expected value."
        [.obj [("expected", input.expectedAuthorityEpoch),
          ("actual", .num (.ofNat state.authorityEpoch))]])

/-- The checks on the loaded state. -/
def checkTarget (input : ResolveInput) (state : AuthorityState) : Except Val ContainerRow := do
  let target ← requireRow state.target (stableError "container_not_found"
      "Target container was not found in the authenticated tenant." [])
  rejectIf (target.tenantId ≠ input.tenantId) (stableError "container_cross_tenant_boundary"
      "Target container is outside the authenticated tenant." [])
  checkExpectedEpoch input state
  .ok target

/-- An epoch that moved: the first attempt is made again, unless it enforces. -/
def unstable (input : ResolveInput) (first : Bool) (message : String) : AttemptOutcome :=
  if first ∧ input.mode ≠ .enforce then .again else .failed (epochChanged message)

section

variable (reg : Registry)

/-- One round of the loop. -/
def attemptResolution (input : ResolveInput) (first : Bool) (view : AttemptView sql)
    (cache : Cache) : AttemptOutcome × Cache :=
  let state := loadContainerAuthorityState reg view.loaded input.tenantId
    input.targetContainerId input.principal
  let endingEpoch := readContainerAuthorityEpoch view.ending input.tenantId
  match checkTarget input state with
  | .error e => (.failed e, cache)
  | .ok target =>
    let key := buildContainerResolutionCacheKey rt input state.authorityEpoch
    match cacheGet cache key state.authorityEpoch view.nowMs with
    | (some cached, cache) =>
      if endingEpoch ≠ state.authorityEpoch then
        (unstable input first "Authority changed after the cached decision was created.",
          invalidateContainerAuthorityCache cache input.tenantId)
      else (.resolved cached true, cache)
    | (none, cache) =>
      match evidenceOf rt localeLe input state target with
      | .error e => (.failed e, cache)
      | .ok evidence =>
        if endingEpoch ≠ state.authorityEpoch then
          (unstable input first "Authority changed during resolution.", cache)
        else
          (.resolved evidence false, cache.put
              { key
                tenantId := input.tenantId
                authorityEpoch := state.authorityEpoch
                expiresAtMs := view.nowMs + 30000
                value := evidence })

/-- Both rounds. -/
def resolveEvidence (input : ResolveInput) (first second : AttemptView sql)
    (cache : Cache) : Except Val (Evidence × Bool) × Cache :=
  match attemptResolution rt localeLe reg input true first cache with
  | (.resolved evidence hit, cache) => (.ok (evidence, hit), cache)
  | (.failed e, cache) => (.error e, cache)
  | (.again, cache) =>
    match attemptResolution rt localeLe reg input false second cache with
    | (.resolved evidence hit, cache) => (.ok (evidence, hit), cache)
    | (.failed e, cache) => (.error e, cache)
    | (.again, cache) =>
      (.error (epochChanged "Resolution could not stabilize on one authority epoch."), cache)

end

/-! ## Writing a resolution -/

structure Resolution where
  evidence : Evidence
  resolutionId : String
  requestId : Val
  idempotencyKey : Val
  expiresAt : String
  cacheHit : Bool

def Resolution.toVal (r : Resolution) : Val :=
  .obj (r.evidence.fields ++ [("resolutionSha256", .str r.evidence.resolutionSha256),
      ("requestContext", r.evidence.requestContext), ("providerCallMade", .bool false),
      ("credentialPayloadRead", .bool false), ("secretsIncluded", .bool false),
      ("resolutionId", .str r.resolutionId), ("requestId", r.requestId),
      ("idempotencyKey", r.idempotencyKey), ("expiresAt", .str r.expiresAt),
      ("cacheHit", .bool r.cacheHit)])

/-- The row of a resolution. -/
def Resolution.row (r : Resolution) (expiresAt : Option Nat) : LedgerRow :=
  { resolutionId := r.resolutionId
    requestId := r.requestId.or .null
    idempotencyKey := r.idempotencyKey.or .null
    principal := r.evidence.principal
    tenantId := r.evidence.tenantId
    targetContainerId := r.evidence.targetContainerId
    mode := r.evidence.mode.text
    decision := r.evidence.decision
    authorityEpoch := r.evidence.authorityEpoch
    resolverVersion := resolverVersion
    requestSha256 := r.evidence.requestSha256
    containerPathHash := r.evidence.containerPathHash
    registrySnapshotHash := r.evidence.registrySnapshotHash
    resolutionSha256 := r.evidence.resolutionSha256
    requestContextJson := json r.evidence.requestContext
    selectedPathsJson := json (.arr (r.evidence.containerPaths.map ContainerPath.toVal))
    effectiveClassificationsJson := json r.evidence.effectiveClassifications
    effectiveRolesJson := json (.arr (r.evidence.effectiveRoles.map PathRoles.toVal))
    effectiveBindingsJson := json (.arr r.evidence.effectiveBindings)
    appliedDeniesJson := json (.arr r.evidence.appliedDenies)
    appliedDelegationsJson := json (.arr r.evidence.appliedDelegations)
    blockingCodesJson := json (.arr (r.evidence.blockingCodes.map .str))
    overrideRequestId := .null
    expiresAt }

def persistContainerResolution (ledger : UniqueTable (ledgerKeys sql))
    (r : Resolution) : Except Val (UniqueTable (ledgerKeys sql)) := do
  let expiresAt ← datetimeColumn sql (textOrNull r.expiresAt)
  requireRow (ledger.insert (r.row expiresAt)) (sqlError "ER_DUP_ENTRY")

/-- A row of `container_shadow_comparisons`. -/
structure ShadowComparison where
  resolutionId : String
  tenantId : String
  targetContainerId : String
  capabilityKey : Option String
  legacyDecision : Val
  containerDecision : String
  comparisonStatus : String
  mismatchCodes : List String
  legacyEvidenceRef : Val

/-- What the older decision is called here. -/
def normalizedLegacy (legacy : String) : String :=
  if legacy ∈ ["allow", "ready", "pass", "authorized"] then "allow"
  else if legacy ∈ ["deny", "blocked", "fail", "unauthorized"] then "deny"
  else legacy

def compareShadowDecision (legacyDecision : Val) (containerDecision : String) :
    Except Val (String × List String) := do
  let legacyText ← (legacyDecision.or (.str "unknown")).toStr
  let legacy := toLowerCase legacyText
  let container := if containerDecision = "restrict" then "allow" else containerDecision
  .ok (if legacy = "unknown" then ("not_comparable", [])
    else if normalizedLegacy legacy = container then ("match", [])
    else
      ("mismatch", ["legacy_" ++ normalizedLegacy legacy ++ "_container_" ++ container]))

/-- The tables and the cache a call changes. -/
structure ResolverWorld (sql : Sql) where
  cache : Cache
  store : AuthorityStore sql
  ledger : UniqueTable (ledgerKeys sql)
  comparisons : List ShadowComparison

/-- `existing ? …`: what is kept under the key of the request. -/
def readKeptResolution (rt : Runtime) (input : ResolveInput) (s : AuthorityStore sql) :
    Except Val (Option Val) :=
  if input.idempotencyKey.truthy = false then .ok none
  else do
    let key ← input.idempotencyKey.toStr
    match readIdempotentResult s input.idempotencyScope key with
    | none => .ok none
    | some existing => do
      rejectIf (existing.requestSha256 ≠ input.idempotencyRequestSha256 rt)
        (stableError "idempotency_key_conflict"
          "Idempotency key was already used with a different container resolution request."
          [])
      .ok (some (replayed existing.responseJson))

/-- The comparison that shadow mode records. -/
def shadowComparison (input : ResolveInput) (r : Resolution) : Except Val (List ShadowComparison) :=
  if input.mode ≠ .shadow then .ok []
  else do
    let (comparisonStatus, mismatchCodes) ←
      compareShadowDecision input.legacyDecision r.evidence.decision
    .ok
      [{ resolutionId := r.resolutionId
         tenantId := input.tenantId
         targetContainerId := input.targetContainerId
         capabilityKey := input.dimensionRequests.findSome? fun request =>
           request.capabilityKey.filter fun key => key != ""
         legacyDecision := input.legacyDecision
         containerDecision := r.evidence.decision
         comparisonStatus
         mismatchCodes
         legacyEvidenceRef := input.legacyEvidenceRef }]

/-- `storeIdempotency({ … })`, where the request has a key. -/
def keepResolution (rt : Runtime) (input : ResolveInput) (r : Resolution)
    (s : AuthorityStore sql) : Except Val (AuthorityStore sql) :=
  if input.idempotencyKey.truthy = false then .ok s
  else do
    let key ← input.idempotencyKey.toStr
    .ok (storeIdempotentResult s input.idempotencyScope key
      (input.idempotencyRequestSha256 rt) "container_resolution" r.resolutionId
      r.toVal 5)

/-- What a resolved call writes; a statement that fails leaves what was written
before it. -/
def writeResolution (rt : Runtime) (input : ResolveInput) (r : Resolution)
    (w : ResolverWorld sql) : Except Val Unit × ResolverWorld sql :=
  match persistContainerResolution w.ledger r with
  | .error e => (.error e, w)
  | .ok ledger =>
    match shadowComparison input r with
    | .error e => (.error e, { w with ledger })
    | .ok comparisons =>
      let w := { w with ledger, comparisons := w.comparisons ++ comparisons }
      match keepResolution rt input r w.store with
      | .error e => (.error e, w)
      | .ok store => (.ok (), { w with store })

/-- A resolution of this call, or the kept one of an earlier call. -/
inductive ResolveResult
  | fresh (r : Resolution)
  | replay (response : Val)

/-- What a call draws and reads beside its input. -/
structure ResolveCall (sql : Sql) where
  drawnId : String
  /-- Five minutes after the clock of the process. -/
  expiresAt : String
  first : AttemptView sql
  second : AttemptView sql

def resolveEffectiveContainerContext (rt : Runtime)
    (localeLe : String → String → Bool) (reg : Registry) (enforcementEnabled : Bool)
    (rawInput : Val) (call : ResolveCall sql) (w : ResolverWorld sql) :
    Except Val ResolveResult × ResolverWorld sql :=
  match readResolveInput enforcementEnabled rawInput with
  | .error e => (.error e, w)
  | .ok input =>
    match readKeptResolution rt input w.store with
    | .error e => (.error e, w)
    | .ok (some response) => (.ok (.replay response), w)
    | .ok none =>
      match resolveEvidence rt localeLe reg input call.first call.second w.cache with
      | (.error e, cache) => (.error e, { w with cache })
      | (.ok (evidence, cacheHit), cache) =>
        let r : Resolution :=
          { evidence
            resolutionId := call.drawnId
            requestId := input.requestId
            idempotencyKey := input.idempotencyKey
            expiresAt := call.expiresAt
            cacheHit }
        match writeResolution rt input r { w with cache } with
        | (.error e, w) => (.error e, w)
        | (.ok (), w) => (.ok (.fresh r), w)

end GrowthOs.Containers
