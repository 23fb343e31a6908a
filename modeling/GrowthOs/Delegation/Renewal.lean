import GrowthOs.Delegation.Policy
import GrowthOs.Js.Text

/-!
# Renewing a delegation grant

`evaluateDelegationRenewalNoWidening` of `delegationGrantLifecycleShadowService.js`
compares a requested grant with the current one, both in the canonical form of
that service, and `evaluateDelegationRenewalPolicy` of
`delegationExecutionPolicyService.js` adds who may approve the renewal.  Dates
are kept as times; their ISO texts, which denote the same times, appear in the
digests only.  `localeLe a b` stands for `a.localeCompare(b) <= 0`.
-/

namespace GrowthOs.Delegation

open Js
open Throwing (rejectIf)

def lifecycleError (status : Nat) (code message : String) (details : List (String × Val)) : Val :=
  policyError status code message details

/-! ## The canonical form of a grant -/

/-- `APPROVAL_MODES`: the modes of the execution policy and one more. -/
inductive CanonicalMode
  | policy (mode : ApprovalMode)
  | breakGlass
deriving DecidableEq, Repr

def CanonicalMode.ofText (text : String) : Option CanonicalMode :=
  if text = "break_glass" then some .breakGlass
  else (ApprovalMode.ofText text).map .policy

def CanonicalMode.text : CanonicalMode → String
  | .policy mode => mode.text
  | .breakGlass => "break_glass"

/-- `CANONICAL_STATUSES`. -/
inductive CanonicalStatus
  | preview | active | revoked | expired | exhausted | completed | denied
deriving DecidableEq, Repr

def CanonicalStatus.ofText : String → Option CanonicalStatus
  | "preview" => some .preview
  | "active" => some .active
  | "revoked" => some .revoked
  | "expired" => some .expired
  | "exhausted" => some .exhausted
  | "completed" => some .completed
  | "denied" => some .denied
  | _ => none

def CanonicalStatus.text : CanonicalStatus → String
  | .preview => "preview"
  | .active => "active"
  | .revoked => "revoked"
  | .expired => "expired"
  | .exhausted => "exhausted"
  | .completed => "completed"
  | .denied => "denied"

/-- A pattern with one class for each character. -/
def matchesClasses : List (Char → Bool) → List Char → Bool
  | [], [] => true
  | charClass :: classes, c :: cs => charClass c && matchesClasses classes cs
  | _, _ => false

/-- `UUID_PATTERN`.  It ignores case, but is only tested on lowered texts. -/
def uuidPattern : List (Char → Bool) :=
  List.replicate 8 isLowerHex ++ [(· == '-')] ++
    List.replicate 4 isLowerHex ++ [(· == '-')] ++
    [fun c => '1' ≤ c && c ≤ '5'] ++ List.replicate 3 isLowerHex ++
    [(· == '-')] ++
    [fun c => c == '8' || c == '9' || c == 'a' || c == 'b'] ++
    List.replicate 3 isLowerHex ++ [(· == '-')] ++
    List.replicate 12 isLowerHex

def normalizeUuid (value : Val) (field : String) : Except Val String := do
  let normalized ← lower value 64
  rejectIf (matchesClasses uuidPattern normalized.toList = false)
    (lifecycleError 400 "DELEGATION_LIFECYCLE_UUID_INVALID"
      (field ++ " must be a UUID.") [("field", .str field)])
  .ok normalized

def normalizeHash (value : Val) (field : String) : Except Val String := do
  let normalized ← lower value 64
  rejectIf (isDigest normalized = false)
    (lifecycleError 400 "DELEGATION_LIFECYCLE_HASH_INVALID"
      (field ++ " must be a lowercase SHA-256 hash.") [("field", .str field)])
  .ok normalized

variable (rt : Runtime) (localeLe : String → String → Bool)

def parseDate (value : Val) (field : String) : Except Val Int :=
  match rt.timeOf value with
  | some t => .ok t
  | none =>
    .error (lifecycleError 400 "DELEGATION_LIFECYCLE_DATE_INVALID"
      (field ++ " must be an ISO date-time.") [("field", .str field)])

/-- `parseDate(value, field, { required: false })`. -/
def parseOptionalDate (value : Val) (field : String) : Except Val (Option Int) :=
  match value with
  | .undefined => .ok none
  | .null => .ok none
  | .str "" => .ok none
  | value => do
    let t ← parseDate rt value field
    .ok (some t)

def normalizeStringSet (value : Val) (field : String) (required : Bool) :
    Except Val (List String) :=
  match value with
  | .arr elems => do
    let normalized ← normalizeStringList (.arr elems)
    rejectIf (required ∧ normalized = [])
      (lifecycleError 400 "DELEGATION_LIFECYCLE_LIST_REQUIRED"
        (field ++ " must include at least one value.")
        [("field", .str field)])
    rejectIf (100 < normalized.length)
      (lifecycleError 400 "DELEGATION_LIFECYCLE_LIST_TOO_LARGE"
        (field ++ " exceeds the maximum item count.")
        [("field", .str field), ("maximum", .num (.ofNat 100))])
    .ok normalized
  | _ =>
    .error (lifecycleError 400 "DELEGATION_LIFECYCLE_LIST_INVALID"
      (field ++ " must be an array.") [("field", .str field)])

/-- One item of `resource_scope`. -/
def normalizeScopeEntry (index : Nat) (entry : Val) :
    Except Val ResourceEntry := do
  rejectIf (entry.isPlainObject = false)
    (lifecycleError 400 "DELEGATION_LIFECYCLE_RESOURCE_SCOPE_INVALID"
      "Each resource_scope item must be an object."
      [("index", .num (.ofNat index))])
  let resourceUri ← compact (entry.member "resource_uri") 500
  rejectIf (resourceUri = "")
    (lifecycleError 400 "DELEGATION_LIFECYCLE_RESOURCE_URI_REQUIRED"
      "resource_uri is required." [("index", .num (.ofNat index))])
  let snapshotHash ← normalizeHash (entry.member "snapshot_hash")
    ("resource_scope[" ++ Nat.repr index ++ "].snapshot_hash")
  .ok ⟨resourceUri, snapshotHash⟩

/-- The key under which a binding is looked up. -/
def ResourceEntry.key (entry : ResourceEntry) : String :=
  entry.resourceUri ++ "\n" ++ entry.snapshotHash

/-- The items of `resource_scope` in order; `seen` holds the keys of those
before. -/
def collectScope (index : Nat) (seen : List String) :
    List Val → Except Val (List ResourceEntry)
  | [] => .ok []
  | entry :: rest => do
    let normalized ← normalizeScopeEntry index entry
    rejectIf (normalized.key ∈ seen)
      (lifecycleError 409 "DELEGATION_LIFECYCLE_RESOURCE_SCOPE_DUPLICATE"
        "Duplicate resource scope binding."
        [("resource_uri", .str normalized.resourceUri)])
    let others ← collectScope (index + 1) (normalized.key :: seen) rest
    .ok (normalized :: others)

/-- The comparison `resource_scope` is sorted by. -/
def scopeLe (left right : ResourceEntry) : Bool :=
  if localeLe left.resourceUri right.resourceUri &&
      localeLe right.resourceUri left.resourceUri then
    localeLe left.snapshotHash right.snapshotHash
  else localeLe left.resourceUri right.resourceUri

/-- The items of `resource_scope`; there must be one. -/
def scopeElements : Val → Except Val (List Val)
  | .arr (first :: rest) => .ok (first :: rest)
  | _ =>
    .error (lifecycleError 400 "DELEGATION_LIFECYCLE_RESOURCE_SCOPE_REQUIRED"
      "resource_scope must include at least one resource." [])

/-- `normalizeResourceScope(value)` of the lifecycle service. -/
def normalizeCanonicalScope (value : Val) : Except Val (List ResourceEntry) := do
  let elems ← scopeElements value
  rejectIf (50 < elems.length)
    (lifecycleError 400 "DELEGATION_LIFECYCLE_RESOURCE_SCOPE_TOO_LARGE"
      "resource_scope exceeds the maximum item count." [])
  let normalized ← collectScope 0 [] elems
  .ok (normalized.insertionSort fun a b => scopeLe localeLe a b)

/-- A limit from zero to `maximum`. -/
def canonicalLimit (field : String) (maximum : Nat) (value : Number) :
    Except Val Nat := do
  let invalid := lifecycleError 400 "DELEGATION_LIFECYCLE_LIMIT_INVALID"
    (field ++ " must be an integer from 0 to " ++ Nat.repr maximum ++ ".")
    [("field", .str field), ("maximum", .num (.ofNat maximum))]
  match naturalOf value with
  | some n =>
    rejectIf (maximum < n) invalid
    .ok n
  | none => .error invalid

/-- `normalizeLimits(input)` of the lifecycle service; a missing `input` is an
empty object. -/
def normalizeCanonicalLimits (input : Val) : Except Val GrantLimits := do
  let limits := if input.isUndefined then .obj [] else input
  let mutations ← (← limits.get "max_mutations").toNumber
  let retries ← (← limits.get "max_retries").toNumber
  let pulls ← (← limits.get "max_pull_requests").toNumber
  let maxMutations ← canonicalLimit "max_mutations" 100 mutations
  let maxRetries ← canonicalLimit "max_retries" 10 retries
  let maxPullRequests ← canonicalLimit "max_pull_requests" 10 pulls
  .ok ⟨maxMutations, maxRetries, maxPullRequests⟩

/-- A grant in canonical form; `require_readback` and `stop_on_drift` are true
and `secrets_included` is false in every one. -/
structure CanonicalGrant where
  grantId : String
  delegatedBy : String
  delegatedTo : String
  approvalMode : CanonicalMode
  planId : String
  planHash : String
  resourceScope : List ResourceEntry
  allowedIntents : List String
  deniedIntents : List String
  maxRiskTier : RiskTier
  limits : GrantLimits
  policyVersion : Option String
  status : CanonicalStatus
  createdAt : Option Int
  expiresAt : Int
  revokedAt : Option Int

/-- `DELEGATION_GRANT_SCHEMA_VERSION`. -/
def grantSchemaVersion : String := "spec011-delegation-grant-v1"

/-- `v === text`. -/
def isText (text : String) : Val → Bool
  | .str s => s == text
  | _ => false

def requireSome {α : Type} (error : Val) : Option α → Except Val α
  | some a => .ok a
  | none => .error error

/-- The parts of a canonical grant checked before its principals. -/
structure CanonicalHeader where
  approvalMode : CanonicalMode
  maxRiskTier : RiskTier
  status : CanonicalStatus
  createdAt : Option Int
  expiresAt : Int
  revokedAt : Option Int

def normalizeCanonicalHeader (input : Val) : Except Val CanonicalHeader := do
  rejectIf (isText grantSchemaVersion (← input.get "schema_version") = false)
    (lifecycleError 400 "DELEGATION_LIFECYCLE_SCHEMA_VERSION_INVALID"
      "The canonical delegation grant schema version is required." [])
  let approvalMode ← requireSome
    (lifecycleError 400 "DELEGATION_LIFECYCLE_APPROVAL_MODE_INVALID"
      "approval_mode is invalid." [])
    (CanonicalMode.ofText (← lower (input.member "approval_mode") 191))
  let maxRiskTier ← requireSome
    (lifecycleError 400 "DELEGATION_LIFECYCLE_RISK_TIER_INVALID"
      "max_risk_tier is invalid." [])
    (RiskTier.ofText (← lower (input.member "max_risk_tier") 191))
  let status ← requireSome
    (lifecycleError 400 "DELEGATION_LIFECYCLE_STATUS_INVALID"
      "status is invalid." [])
    (CanonicalStatus.ofText (← lower (input.member "status") 191))
  rejectIf ((input.member "require_readback").isTrue = false ∨
      (input.member "stop_on_drift").isTrue = false)
    (lifecycleError 409 "DELEGATION_LIFECYCLE_FAIL_CLOSED_POLICY_REQUIRED"
      "require_readback and stop_on_drift must both be true." [])
  rejectIf ((input.member "secrets_included").isFalse = false)
    (lifecycleError 400 "DELEGATION_LIFECYCLE_SECRETS_FLAG_INVALID"
      "secrets_included must be false." [])
  let createdAt ← parseOptionalDate rt (input.member "created_at") "created_at"
  let expiresAt ← parseDate rt (input.member "expires_at") "expires_at"
  rejectIf (∃ created ∈ createdAt, expiresAt ≤ created)
    (lifecycleError 400 "DELEGATION_LIFECYCLE_EXPIRY_INVALID"
      "expires_at must be after created_at." [])
  let revokedAt ← parseOptionalDate rt (input.member "revoked_at") "revoked_at"
  .ok { approvalMode, maxRiskTier, status, createdAt, expiresAt, revokedAt }

def normalizeCanonicalGrant (input : Val) : Except Val CanonicalGrant := do
  let header ← normalizeCanonicalHeader rt input
  let delegatedBy ← compact (input.member "delegated_by") 191
  let delegatedTo ← compact (input.member "delegated_to") 191
  rejectIf (delegatedBy = "" ∨ delegatedTo = "")
    (lifecycleError 400 "DELEGATION_LIFECYCLE_PRINCIPAL_REQUIRED"
      "delegated_by and delegated_to are required." [])
  let allowedIntents ← normalizeStringSet (input.member "allowed_intents")
    "allowed_intents" true
  let deniedIntents ← normalizeStringSet (input.member "denied_intents")
    "denied_intents" false
  let overlap := allowedIntents.filter fun intent =>
    deniedIntents.contains intent
  rejectIf (overlap ≠ [])
    (lifecycleError 409 "DELEGATION_LIFECYCLE_INTENT_CONFLICT"
      "An intent cannot be both allowed and denied."
      [("overlapping_intents", .arr (overlap.map .str))])
  let grantId ← normalizeUuid (input.member "grant_id") "grant_id"
  let planId ← normalizeUuid (input.member "plan_id") "plan_id"
  let planHash ← normalizeHash (input.member "plan_hash") "plan_hash"
  let resourceScope ← normalizeCanonicalScope localeLe
    (input.member "resource_scope")
  let limits ← normalizeCanonicalLimits (input.member "limits")
  let policyVersion ← compact (input.member "policy_version") 64
  .ok
    { grantId, delegatedBy, delegatedTo
      approvalMode := header.approvalMode
      planId, planHash, resourceScope, allowedIntents, deniedIntents
      maxRiskTier := header.maxRiskTier
      limits
      policyVersion := nonEmpty policyVersion
      status := header.status
      createdAt := header.createdAt
      expiresAt := header.expiresAt
      revokedAt := header.revokedAt }

/-! ## Comparing two grants -/

/-- The canonical grant as the object it is in the source. -/
def CanonicalGrant.toVal (grant : CanonicalGrant) : Val :=
  let date : Option Int → Val := fun time =>
    optionVal (time.map rt.isoString)
  .obj [("schema_version", .str grantSchemaVersion),
    ("grant_id", .str grant.grantId),
    ("delegated_by", .str grant.delegatedBy),
    ("delegated_to", .str grant.delegatedTo),
    ("approval_mode", .str grant.approvalMode.text),
    ("plan_id", .str grant.planId), ("plan_hash", .str grant.planHash),
    ("resource_scope", .arr (grant.resourceScope.map fun entry =>
      .obj [("resource_uri", .str entry.resourceUri),
        ("snapshot_hash", .str entry.snapshotHash)])),
    ("allowed_intents", .arr (grant.allowedIntents.map .str)),
    ("denied_intents", .arr (grant.deniedIntents.map .str)),
    ("max_risk_tier", .str grant.maxRiskTier.text),
    ("limits",
      .obj [("max_mutations", .num (.ofNat grant.limits.maxMutations)),
        ("max_retries", .num (.ofNat grant.limits.maxRetries)),
        ("max_pull_requests", .num (.ofNat grant.limits.maxPullRequests))]),
    ("require_readback", .bool true), ("stop_on_drift", .bool true),
    ("policy_version", optionVal grant.policyVersion),
    ("status", .str grant.status.text),
    ("created_at", date grant.createdAt),
    ("expires_at", .str (rt.isoString grant.expiresAt)),
    ("revoked_at", date grant.revokedAt),
    ("secrets_included", .bool false)]

/-- `canonicalGrantHash(grant)`, which normalises the grant once more. -/
def canonicalGrantHash (grant : CanonicalGrant) : Except Val String := do
  let normalized ← normalizeCanonicalGrant rt localeLe (grant.toVal rt)
  .ok (rt.sha256 (stableStringify (normalized.toVal rt)))

def resourceScopeIsSubset (requested current : List ResourceEntry) : Bool :=
  requested.all fun entry => (current.map ResourceEntry.key).contains entry.key

def setIsSubset (requested current : List String) : Bool :=
  requested.all fun entry => current.contains entry

/-- The blockers of a renewal. -/
def renewalBlockers (current requested : CanonicalGrant) : List String :=
  flag (current.grantId != requested.grantId)
    "DELEGATION_RENEWAL_GRANT_ID_CHANGED" ++
  flag (current.delegatedBy != requested.delegatedBy)
    "DELEGATION_RENEWAL_DELEGATED_BY_CHANGED" ++
  flag (current.delegatedTo != requested.delegatedTo)
    "DELEGATION_RENEWAL_DELEGATED_TO_CHANGED" ++
  flag (current.approvalMode != requested.approvalMode)
    "DELEGATION_RENEWAL_APPROVAL_MODE_CHANGED" ++
  flag (current.planId != requested.planId)
    "DELEGATION_RENEWAL_PLAN_ID_CHANGED" ++
  flag (current.planHash != requested.planHash)
    "DELEGATION_RENEWAL_PLAN_HASH_CHANGED" ++
  flag (current.policyVersion != requested.policyVersion)
    "DELEGATION_RENEWAL_POLICY_VERSION_CHANGED" ++
  flag (!resourceScopeIsSubset requested.resourceScope current.resourceScope)
    "DELEGATION_RENEWAL_RESOURCE_SCOPE_WIDENED" ++
  flag (!setIsSubset requested.allowedIntents current.allowedIntents)
    "DELEGATION_RENEWAL_ALLOWED_INTENTS_WIDENED" ++
  flag (!setIsSubset current.deniedIntents requested.deniedIntents)
    "DELEGATION_RENEWAL_DENIED_INTENTS_NARROWED" ++
  flag (decide (current.maxRiskTier.order < requested.maxRiskTier.order))
    "DELEGATION_RENEWAL_RISK_WIDENED" ++
  flag (decide (current.limits.maxMutations < requested.limits.maxMutations))
    "DELEGATION_RENEWAL_MAX_MUTATIONS_WIDENED" ++
  flag (decide (current.limits.maxRetries < requested.limits.maxRetries))
    "DELEGATION_RENEWAL_MAX_RETRIES_WIDENED" ++
  flag
    (decide (current.limits.maxPullRequests < requested.limits.maxPullRequests))
    "DELEGATION_RENEWAL_MAX_PULL_REQUESTS_WIDENED" ++
  flag (decide (current.expiresAt < requested.expiresAt))
    "DELEGATION_RENEWAL_EXPIRY_EXTENDED"

structure NoWideningReport where
  eligible : Bool
  currentGrantHash : String
  requestedGrantHash : String
  blockers : List String
  newApprovalRequired : Bool

def evaluateDelegationRenewalNoWidening (currentGrant requestedGrant : Val) :
    Except Val NoWideningReport := do
  let current ← normalizeCanonicalGrant rt localeLe currentGrant
  let requested ← normalizeCanonicalGrant rt localeLe requestedGrant
  let blockers := (renewalBlockers current requested).eraseDups
  let currentGrantHash ← canonicalGrantHash rt localeLe current
  let requestedGrantHash ← canonicalGrantHash rt localeLe requested
  .ok
    { eligible := blockers.isEmpty
      currentGrantHash, requestedGrantHash, blockers
      newApprovalRequired := !blockers.isEmpty }

inductive RenewalVerdict
  | renewalAllowed | blocked
deriving DecidableEq, Repr

structure RenewalDecision where
  decision : RenewalVerdict
  blockers : List String
  currentGrantHash : String
  requestedGrantHash : String
  newApprovalRequired : Bool

def evaluateDelegationRenewalPolicy (currentGrant requestedGrant approvedBy : Val) :
    Except Val RenewalDecision := do
  let noWidening ←
    evaluateDelegationRenewalNoWidening rt localeLe currentGrant requestedGrant
  let current ← normalizeGrant rt currentGrant
  let actor ← compact approvedBy 191
  let blockers := (noWidening.blockers ++
    flag (actor == "") "DELEGATION_RENEWAL_USER_APPROVAL_REQUIRED" ++
    flag (nonEmpty actor == some current.delegatedTo)
      "DELEGATION_RENEWAL_SELF_APPROVAL_FORBIDDEN" ++
    flag (actor != "" && actor != current.delegatedBy)
      "DELEGATION_RENEWAL_DELEGATOR_APPROVAL_REQUIRED").eraseDups
  .ok
    { decision := if blockers.isEmpty then .renewalAllowed else .blocked
      blockers
      currentGrantHash := noWidening.currentGrantHash
      requestedGrantHash := noWidening.requestedGrantHash
      newApprovalRequired := !blockers.isEmpty }

end GrowthOs.Delegation
