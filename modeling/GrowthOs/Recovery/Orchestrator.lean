import GrowthOs.Js.Equality
import GrowthOs.Support.Interaction
import GrowthOs.Support.Regexp
import GrowthOs.Support.Throwing

/-!
# The recovery orchestrator

`executeRecovery` of `recoveryOrchestrator.js` as a program over the calls it awaits:
the store, the capability's `inspect` and `execute`, the approval and evidence verifiers
and the lease.  Every call answers with any value or throws any value.
`registry.lookup` is called once and without waiting; what it answers is part of the call.
-/

namespace GrowthOs.Recovery.Orchestrator

open Js
open Throwing (rejectIf)
open Interaction

/-- What the code takes from its platform, and which objects are one object. -/
structure Host extends Runtime where
  identical : Val → Val → Bool

/-- `refuse(code, status)`. -/
def refusal (code : String) (status : Nat) : Val :=
  .obj [("message", .str code), ("code", .str code), ("status", .num (.ofNat status)),
    ("secrets_included", .bool false)]

/-- What is there, or an error. -/
def present {α : Type} (found : Option α) (error : Val) : Except Val α :=
  match found with
  | some a => .ok a
  | none => .error error

@[simp] theorem present_eq_ok {α : Type} {found : Option α} {error : Val} {a : α} :
    present found error = .ok a ↔ found = some a := by
  cases found <;> simp [present]

/-! ## Texts -/

/-- `SHA`. -/
def isSha (s : String) : Bool :=
  s.toList.length == 40 && s.toList.all isLowerHex

/-- A first character and two to 127 more. -/
def isName (first : Char → Bool) (s : String) : Bool :=
  match s.toList with
  | [] => false
  | c :: cs => first c && 2 ≤ cs.length && cs.length ≤ 127

def isNameChar (c : Char) : Bool :=
  c == '_' || c == '.' || c == ':' || c == '-'

def isLowerAlnum (c : Char) : Bool :=
  ('a' ≤ c && c ≤ 'z') || ('0' ≤ c && c ≤ '9')

/-- `KEY`. -/
def isKey (s : String) : Bool :=
  isName (fun c => 'a' ≤ c && c ≤ 'z') s && s.toList.all fun c => isLowerAlnum c || isNameChar c

/-- `SAFE_ID`. -/
def isSafeId (s : String) : Bool :=
  isName isAsciiAlnum s && s.toList.all fun c => isAsciiAlnum c || isNameChar c

/-- A `.` of a regular expression. -/
def anyChar : Regexp Char :=
  .one fun c => !(c == '\n' || c == '\r' || c.toNat == 0x2028 || c.toNat == 0x2029)

def foldedWord (word : String) : Regexp Char :=
  .word (fun a b => foldChar b == a) word.toList

def forbiddenFields : Regexp Char :=
  .any [foldedWord "password", foldedWord "secret", foldedWord "token",
    foldedWord "credential", foldedWord "authorization",
    .all [foldedWord "private", anyChar, foldedWord "key"],
    .all [foldedWord "connection", anyChar, foldedWord "string"],
    .all [foldedWord "raw", anyChar, foldedWord "sql"],
    foldedWord "shell", foldedWord "command", .all [foldedWord "api", anyChar, foldedWord "key"]]

def isUnsafeField (key : String) : Bool :=
  forbiddenFields.search key.toList || key == "__proto__" || key == "constructor" ||
    key == "prototype"

mutual

def noSecrets (depth : Nat) : Val → Except Val Unit
  | .arr elems => do
    rejectIf (12 < depth) (refusal "recovery_orchestrator_data_too_deep" 400)
    noSecretElements (depth + 1) elems
  | .obj fields => do
    rejectIf (12 < depth) (refusal "recovery_orchestrator_data_too_deep" 400)
    noSecretFields (depth + 1) fields
  | _ => rejectIf (12 < depth) (refusal "recovery_orchestrator_data_too_deep" 400)

def noSecretElements (depth : Nat) : List Val → Except Val Unit
  | [] => .ok ()
  | v :: rest => do
    noSecrets depth v
    noSecretElements depth rest

def noSecretFields (depth : Nat) : List (String × Val) → Except Val Unit
  | [] => .ok ()
  | (key, v) :: rest =>
    -- an attestation that no secrets are included is not a secret
    if key == "secrets_included" && v.isFalse then noSecretFields depth rest
    else do
      rejectIf (isUnsafeField key = true)
        (refusal "recovery_orchestrator_sensitive_or_unsafe_field" 400)
      noSecrets depth v
      noSecretFields depth rest

end

def requireText (value : Val) (pattern : String → Bool) (code : String) : Except Val String :=
  match value with
  | .str s => do
    rejectIf (pattern s = false) (refusal code 400)
    .ok s
  | _ => .error (refusal code 400)

/-! ## The scope of a plan -/

/-- A scope whose fields have passed their patterns. -/
structure Scope where
  tenantId : String
  resourceId : String
  resourceFingerprint : String
  environment : String
  sourceSha : String
  issuer : String

def Scope.toVal (scope : Scope) : Val :=
  .obj [("tenant_id", .str scope.tenantId), ("resource_id", .str scope.resourceId),
    ("resource_fingerprint", .str scope.resourceFingerprint),
    ("environment", .str scope.environment), ("source_sha", .str scope.sourceSha),
    ("issuer", .str scope.issuer)]

/-- `only(binding, [...], "recovery_orchestrator_binding_invalid")`. -/
def hasOnlyScopeFields : Val → Bool
  | .obj fields => fields.all fun field =>
    ["tenant_id", "resource_id", "resource_fingerprint", "environment", "source_sha",
      "issuer"].contains field.1
  | _ => false

def trustedScope (binding : Val) : Except Val Scope := do
  rejectIf (hasOnlyScopeFields binding = false)
    (refusal "recovery_orchestrator_binding_invalid" 400)
  let environment ← requireText (binding.member "environment")
    (["staging", "production", "local_windows"].contains ·)
    "recovery_orchestrator_environment_invalid"
  let tenantId ← requireText (binding.member "tenant_id") isSafeId
    "recovery_orchestrator_tenant_missing"
  let resourceId ← requireText (binding.member "resource_id") isSafeId
    "recovery_orchestrator_resource_missing"
  let resourceFingerprint ← requireText (binding.member "resource_fingerprint") isSha256
    "recovery_orchestrator_resource_fingerprint_missing"
  let sourceSha ← requireText (binding.member "source_sha") isSha
    "recovery_orchestrator_source_missing"
  let issuer ← requireText (binding.member "issuer") isKey
    "recovery_orchestrator_binding_issuer_missing"
  .ok { tenantId, resourceId, resourceFingerprint, environment, sourceSha, issuer }

variable (host : Host)

/-- `Object.keys(current).some((k) => current[k] !== plan.binding[k])` fails. -/
def Scope.Matches (scope : Scope) (binding : Val) : Prop :=
  binding.member "tenant_id" = .str scope.tenantId ∧
    binding.member "resource_id" = .str scope.resourceId ∧
    binding.member "resource_fingerprint" = .str scope.resourceFingerprint ∧
    binding.member "environment" = .str scope.environment ∧
    binding.member "source_sha" = .str scope.sourceSha ∧
    binding.member "issuer" = .str scope.issuer

instance (v : Val) (s : String) : Decidable (v = .str s) :=
  decidable_of_iff (isText v s = true) isText_iff

instance (scope : Scope) (binding : Val) : Decidable (scope.Matches binding) :=
  inferInstanceAs (Decidable (_ ∧ _))

/-! ## Plans -/

def sha256 (value : Val) : String :=
  host.sha256 (stableStringify value)

/-- A plan without its id and its hash. -/
def unsignedPlan (plan : Val) : Val :=
  .obj (plan.ownFields.filter fun field => !(field.1 == "plan_hash" || field.1 == "plan_id"))

/-- `"plan:" + plan_hash.slice(0, 32)`. -/
def planIdOf (planHash : String) : String :=
  "plan:" ++ cut 32 planHash

/-- The hash and the id of the plan are those of its contents. -/
def IsUntampered (plan : Val) : Prop :=
  isSha256 (sha256 host (unsignedPlan plan)) = true ∧
    plan.member "plan_hash" = .str (sha256 host (unsignedPlan plan)) ∧
    plan.member "plan_id" = .str (planIdOf (sha256 host (unsignedPlan plan)))

instance (host : Host) (plan : Val) : Decidable (IsUntampered host plan) :=
  inferInstanceAs (Decidable (_ ∧ _))

/-- `assertPlan(plan)`.  The pattern is tried on `String(plan_hash)`, which may throw. -/
def assertPlan (plan : Val) : Except Val Val := do
  rejectIf (¬(plan.isPlainObject = true ∧
      plan.member "contract" = .str "mad4b.recovery-orchestrator-plan.v1"))
    (refusal "recovery_orchestrator_plan_missing" 404)
  let _ ← (plan.member "plan_hash").toStr
  rejectIf (¬IsUntampered host plan) (refusal "recovery_orchestrator_plan_tampered" 409)
  let _ ← trustedScope (plan.member "binding")
  noSecrets 0 plan
  .ok plan

/-- `Number.isSafeInteger(now)`, with the number. -/
def safeInteger : Val → Option Int
  | .num n =>
    match integerOf n with
    | some i => if -9007199254740991 ≤ i ∧ i ≤ 9007199254740991 then some i else none
    | none => none
  | _ => none

/-- The plan is in its time: it does not start later, and has not ended. -/
def assertUnexpired (now : Val) (plan : Val) : Except Val Unit :=
  match safeInteger now with
  | none => .error (refusal "recovery_orchestrator_plan_expired" 409)
  | some i => do
    let created ← (plan.member "created_at_ms").toNumber
    rejectIf ((Number.finite (.ofInt i)).blt created = true)
      (refusal "recovery_orchestrator_plan_expired" 409)
    let expires ← (plan.member "expires_at_ms").toNumber
    rejectIf ((Number.finite (.ofInt i)).bge expires = true)
      (refusal "recovery_orchestrator_plan_expired" 409)

/-- `JSON.parse(JSON.stringify(value))`. -/
def copy (value : Val) : Val :=
  json value

/-! ## Receipts and approvals -/

/-- The comparisons of an answer with the plan. -/
def bindsPlan (answer plan : Val) : Bool :=
  strictEq host.identical (answer.member "plan_hash") (plan.member "plan_hash") &&
    ["source_sha", "environment", "resource_fingerprint", "tenant_id", "resource_id"].all
      fun field => strictEq host.identical (answer.member field)
        ((plan.member "binding").member field)

/-- `PATTERN.test(String(value || ""))`. -/
def testText (pattern : String → Bool) (value : Val) : Except Val Bool := do
  let given ← (value.or (.str "")).toStr
  .ok (pattern given)

def assertReceipt (receipt plan : Val) : Except Val Unit := do
  let unverified := refusal "recovery_orchestrator_independent_readback_unverified" 409
  rejectIf (¬(receipt.isPlainObject = true ∧
      (receipt.member "independent_of_executor").isTrue = true ∧
      (receipt.member "readback_verified").isTrue = true ∧
      (receipt.member "postconditions_passed").isTrue = true ∧
      bindsPlan host receipt plan = true)) unverified
  let verifier ← testText isKey (receipt.member "verifier_id")
  rejectIf (verifier = false) unverified
  let evidence ← testText isSha256 (receipt.member "evidence_sha256")
  rejectIf (evidence = false) unverified
  rejectIf ((receipt.member "secrets_included").isFalse = false) unverified

def assertProof (proof plan : Val) : Except Val Unit :=
  rejectIf (¬(proof.isPlainObject = true ∧ (proof.member "approved").isTrue = true ∧
      bindsPlan host proof plan = true ∧ (proof.member "single_use").isTrue = true ∧
      (proof.member "secrets_included").isFalse = true))
    (refusal "recovery_orchestrator_approval_binding_invalid" 403)

/-! ## What a call is given -/

/-- An entry of the registry; which of its members are functions. -/
structure RegistryEntry where
  publicDescriptor : Val
  inspects : Bool
  executes : Bool

/-- The arguments of `executeRecovery`.  An object with methods is its data and the names
under which it has functions. -/
structure ExecuteCall where
  planId : Val
  planHash : Val
  registry : Option (Val → Except Val (Option RegistryEntry))
  store : Val
  storeMethods : List String
  binding : Val
  mode : Val
  approvalVerifier : List String
  lease : List String
  evidenceVerifier : List String
  now : Val

/-- The calls it awaits, with their arguments. -/
inductive Request
  | getPlan (planId : Val)
  | inspect (args : Val)
  | verifyApproval (args : Val)
  | acquireLease (args : Val)
  | claimStep (args : Val)
  | appendIntent (args : Val)
  | getIntent (args : Val)
  | assertFence (args : Val)
  | execute (args : Val)
  | verifyEvidence (args : Val)
  | finishStep (args : Val)
  | markUnknown (args : Val)
  | failBeforeDispatch (args : Val)
  | releaseLease (args : Val)

abbrev Answer := Except Val Val
abbrev Log := List (Request × Answer)
abbrev Program := Async Request Val Val

open Async (call lift)

def validateStore (store : Val) (methods : List String) (method : String) : Except Val Unit := do
  rejectIf (¬(store.isPlainObject = true ∧ methods.contains method = true))
    (refusal "recovery_orchestrator_durable_store_unavailable" 503)
  rejectIf (¬(store.member "recovery_store_contract" = .str "mad4b.recovery-durable-store.v1" ∧
      (store.member "independent_of_target_databases").isTrue = true ∧
      (store.member "shared_replica_safe").isTrue = true ∧
      (store.member "payload_integrity_verified_on_read").isTrue = true ∧
      store.member "target_database_binding" = .str "forbidden"))
    (refusal "recovery_orchestrator_durable_store_authority_unverified" 503)

def validateStoreMethods (store : Val) (methods : List String) : List String → Except Val Unit
  | [] => .ok ()
  | method :: rest => do
    validateStore store methods method
    validateStoreMethods store methods rest

variable (c : ExecuteCall)

/-- The checks of what the call is given; the registry's `lookup`. -/
def assertAuthorities : Except Val (Val → Except Val (Option RegistryEntry)) := do
  rejectIf (¬c.mode = .str "staging") (refusal "recovery_orchestrator_execution_disabled" 403)
  let lookup ← present c.registry (refusal "recovery_orchestrator_registry_missing" 503)
  validateStoreMethods c.store c.storeMethods
    ["getPlan", "claimStep", "appendIntent", "getIntent", "markUnknown", "failBeforeDispatch",
      "finishStep"]
  rejectIf (¬(c.approvalVerifier.contains "verify" = true ∧
      ["acquire", "assertFence", "release"].all c.lease.contains = true ∧
      c.evidenceVerifier.contains "verify" = true))
    (refusal "recovery_orchestrator_execution_authorities_missing" 503)
  .ok lookup

/-- The scope of the call, which must be one of staging. -/
def stagingScope (binding : Val) : Except Val Scope := do
  let current ← trustedScope binding
  rejectIf (¬current.environment = "staging")
    (refusal "recovery_orchestrator_production_execution_forbidden" 403)
  .ok current

/-! ## The capability -/

/-- `operations.find((o) => o.key === plan.operation)`. -/
def findOperation (host : Host) (operation : Val) : List Val → Except Val (Option Val)
  | [] => .ok none
  | o :: rest => do
    let key ← o.get "key"
    if strictEq host.identical key operation then .ok (some o)
    else findOperation host operation rest

/-- `entry?.publicDescriptor?.operations?.find(...)`. -/
def operationOf (entry : RegistryEntry) (plan : Val) : Except Val (Option Val) :=
  match entry.publicDescriptor.member "operations" with
  | .undefined => .ok none
  | .null => .ok none
  | .arr operations => findOperation host (plan.member "operation") operations
  | _ => .error (Val.typeError "entry.publicDescriptor.operations.find is not a function")

/-- `environments.includes("staging")`, of an array or a text. -/
def includesStaging : Val → Except Val Bool
  | .arr environments => .ok (environments.any (isText · "staging"))
  | .str s => .ok (includes s "staging")
  | _ => .error (Val.typeError "entry.publicDescriptor.environments.includes is not a function")

/-- The operation is there, it mutates, and the entry can execute it. -/
def executableOperation (entry : RegistryEntry) (operation : Option Val) : Except Val Val := do
  let unavailable := refusal "recovery_orchestrator_execution_capability_unavailable" 403
  let op ← present operation unavailable
  rejectIf (¬(op.truthy = true ∧ ¬op.member "risk" = .str "read_only" ∧ entry.executes = true))
    unavailable
  .ok op

/-- The descriptor of the entry is the one the plan was made with. -/
def IsUnchanged (entry : RegistryEntry) (op plan : Val) : Prop :=
  plan.member "capability_descriptor_sha256" = .str (sha256 host entry.publicDescriptor) ∧
    strictEq host.identical (plan.member "risk") (op.member "risk") = true ∧
    strictEq host.identical (plan.member "provider_id")
      (entry.publicDescriptor.member "provider_id") = true ∧
    strictEq host.identical (plan.member "resource_kind")
      (entry.publicDescriptor.member "resource_kind") = true

instance (host : Host) (entry : RegistryEntry) (op plan : Val) :
    Decidable (IsUnchanged host entry op plan) :=
  inferInstanceAs (Decidable (_ ∧ _))

/-- The entry of the plan's capability, unchanged since the plan was made. -/
def resolveCapability (lookup : Val → Except Val (Option RegistryEntry)) (plan : Val) :
    Except Val RegistryEntry := do
  let found ← lookup (plan.member "capability_id")
  let entry ← present found (refusal "recovery_orchestrator_execution_capability_unavailable" 403)
  let operation ← operationOf host entry plan
  let op ← executableOperation entry operation
  let staging ← includesStaging (entry.publicDescriptor.member "environments")
  rejectIf (staging = false) (refusal "recovery_orchestrator_capability_environment_mismatch" 403)
  rejectIf (¬IsUnchanged host entry op plan)
    (refusal "recovery_orchestrator_adapter_changed_since_plan" 409)
  rejectIf (entry.inspects = false) (Val.typeError "entry.inspect is not a function")
  .ok entry

/-- The resource is still in the state the plan was made for. -/
def assertFresh (fresh plan : Val) : Except Val Unit :=
  rejectIf (¬(fresh.isPlainObject = true ∧ (fresh.member "read_only").isTrue = true ∧
      (fresh.member "mutation_performed").isFalse = true ∧
      (fresh.member "secrets_included").isFalse = true ∧
      strictEq host.identical (fresh.member "state_fingerprint")
        (plan.member "observed_state_fingerprint") = true))
    (refusal "recovery_orchestrator_resource_state_drift" 409)

/-- The reference of the call, the time and the scope fit the plan. -/
def assertReference (current : Scope) (host : Host) (plan : Val) : Except Val Unit := do
  rejectIf (¬(strictEq host.identical (plan.member "plan_id") c.planId = true ∧
      strictEq host.identical (plan.member "plan_hash") c.planHash = true))
    (refusal "recovery_orchestrator_plan_reference_mismatch" 409)
  assertUnexpired c.now plan
  rejectIf (¬current.Matches (plan.member "binding"))
    (refusal "recovery_orchestrator_scope_drift" 409)

def inspectArgs (current : Scope) (plan : Val) : Val :=
  .obj [("binding", current.toVal), ("operation", plan.member "operation")]

def approvalArgs (current : Scope) (plan : Val) : Val :=
  .obj [("plan", copy plan), ("scope", current.toVal)]

/-! ## The protected part -/

/-- The lease of a call. -/
def assertLease (lock : Val) : Except Val Unit := do
  let missing := refusal "recovery_orchestrator_fenced_lease_missing" 409
  rejectIf (¬(lock.isPlainObject = true ∧ (lock.member "acquired").isTrue = true)) missing
  let safe ← testText isSafeId (lock.member "fence_token")
  rejectIf (safe = false) missing

def claimArgs (fenceToken : Val) : Val :=
  .obj [("plan_id", c.planId), ("plan_hash", c.planHash), ("fence_token", fenceToken)]

def fenceArgs (fenceToken : Val) : Val :=
  .obj [("plan_id", c.planId), ("fence_token", fenceToken)]

/-- `claimed?.claimed === true && claimed?.durable === true`. -/
def isGranted (claimed : Val) : Bool :=
  (claimed.member "claimed").isTrue && (claimed.member "durable").isTrue

def immutableIntent (current : Scope) (fenceToken : Val) : List (String × Val) :=
  [("contract", .str "mad4b.recovery-intent.v1"), ("plan_id", c.planId),
    ("plan_hash", c.planHash), ("fence_token", fenceToken),
    ("source_sha", .str current.sourceSha), ("environment", .str current.environment),
    ("tenant_id", .str current.tenantId), ("resource_id", .str current.resourceId)]

def intentHashOf (current : Scope) (fenceToken : Val) : String :=
  sha256 host (.obj (immutableIntent c current fenceToken))

def intentArgs (current : Scope) (fenceToken : Val) : Val :=
  .obj (immutableIntent c current fenceToken ++
    [("intent_hash", .str (intentHashOf host c current fenceToken))])

def assertIntent (intentHash : String) (intent : Val) : Except Val Unit := do
  let notDurable := refusal "recovery_orchestrator_intent_not_durable" 503
  rejectIf (¬((intent.member "durable").isTrue = true ∧
      strictEq host.identical (intent.member "plan_hash") c.planHash = true ∧
      intent.member "intent_hash" = .str intentHash)) notDurable
  let evidence ← testText isSha256 (intent.member "evidence_sha256")
  rejectIf (evidence = false) notDurable

/-- The stored intent is committed, and is the one that was appended. -/
def IsCommitted (intentHash : String) (intent fenceToken storedIntent : Val) : Prop :=
  (storedIntent.member "durable").isTrue = true ∧
    storedIntent.member "commit_state" = .str "committed" ∧
    strictEq host.identical (storedIntent.member "plan_hash") c.planHash = true ∧
    storedIntent.member "intent_hash" = .str intentHash ∧
    strictEq host.identical (storedIntent.member "evidence_sha256")
      (intent.member "evidence_sha256") = true ∧
    strictEq host.identical (storedIntent.member "fence_token") fenceToken = true

instance (host : Host) (c : ExecuteCall) (intentHash : String)
    (intent fenceToken storedIntent : Val) :
    Decidable (IsCommitted host c intentHash intent fenceToken storedIntent) :=
  inferInstanceAs (Decidable (_ ∧ _))

/-- `claimStep`, up to `executionClaimed = true`. -/
def claimExecution (fenceToken : Val) : Program Unit := do
  let claimed ← call (.claimStep (claimArgs c fenceToken))
  lift (rejectIf (isGranted claimed = false)
    (refusal "recovery_orchestrator_atomic_claim_denied" 409))

/-- The intent and the fence, up to `dispatched = true`. -/
def recordIntent (current : Scope) (fenceToken : Val) : Program Val := do
  let intentHash := intentHashOf host c current fenceToken
  let intent ← call (.appendIntent (intentArgs host c current fenceToken))
  lift (assertIntent host c intentHash intent)
  let storedIntent ← call (.getIntent (claimArgs c fenceToken))
  lift (rejectIf (¬IsCommitted host c intentHash intent fenceToken storedIntent)
    (refusal "recovery_orchestrator_intent_readback_unverified" 503))
  let fence ← call (.assertFence (fenceArgs c fenceToken))
  lift (rejectIf ((fence.member "valid").isTrue = false)
    (refusal "recovery_orchestrator_fence_lost" 409))
  pure intent

def safeStatus (state : String) (plan : Val) : Val :=
  .obj [("contract", .str "mad4b.recovery-orchestrator.v1"), ("status", .str state),
    ("plan_id", plan.member "plan_id"), ("plan_hash", plan.member "plan_hash"),
    ("production_mutation_authorized", .bool false), ("secrets_included", .bool false)]

/-- An answer of the store that confirms a status. -/
def confirms (answer : Val) (status : String) : Bool :=
  (answer.member "durable").isTrue && isText (answer.member "status") status

def evidenceArgs (plan execution : Val) : Val :=
  .obj [("plan", copy plan), ("execution", execution)]

def finishArgs (fenceToken receipt : Val) : Val :=
  .obj [("plan_id", c.planId), ("plan_hash", c.planHash), ("fence_token", fenceToken),
    ("evidence_sha256", receipt.member "evidence_sha256"), ("status", .str "recovered")]

def unknownArgs (fenceToken : Val) : Val :=
  .obj [("plan_id", c.planId), ("plan_hash", c.planHash), ("fence_token", fenceToken),
    ("expected_status", .str "executing"), ("status", .str "execution_outcome_unknown"),
    ("retry_forbidden", .bool true)]

def executeArgs (plan fenceToken intent : Val) : Val :=
  .obj [("plan", copy plan), ("fence_token", fenceToken),
    ("intent_evidence_sha256", intent.member "evidence_sha256")]

/-- The dispatch and everything after it that may throw. -/
def dispatch (plan fenceToken intent : Val) : Program Val := do
  let execution ← call (.execute (executeArgs plan fenceToken intent))
  let receipt ← call (.verifyEvidence (evidenceArgs plan execution))
  lift (assertReceipt host receipt plan)
  let final ← call (.finishStep (finishArgs c fenceToken receipt))
  lift (rejectIf (confirms final "recovered" = false)
    (refusal "recovery_orchestrator_finalization_unverified" 503))
  pure (safeStatus "recovered" plan)

/-- `typeof error?.code === "string" ? error.code : "internal_error"`. -/
def errorCode (error : Val) : String :=
  match error.member "code" with
  | .str code => code
  | _ => "internal_error"

/-- The catch block after the dispatch. -/
def recordUnknown (plan fenceToken : Val) : Program Val :=
  (call (.markUnknown (unknownArgs c fenceToken))).cases (fun _ => lift (.error
      (refusal "recovery_orchestrator_unknown_state_persistence_failed" 503)))
    fun recorded => lift (
      if confirms recorded "execution_outcome_unknown" then
        .ok (safeStatus "execution_outcome_unknown" plan)
      else .error (refusal "recovery_orchestrator_unknown_state_persistence_failed" 503))

/-- The catch block between the claim and the dispatch. -/
def abortClaim (fenceToken error : Val) : Program Val :=
  (call (.failBeforeDispatch (.obj [("plan_id", c.planId), ("plan_hash", c.planHash),
    ("fence_token", fenceToken), ("expected_status", .str "executing"),
    ("status", .str "blocked_pre_dispatch"), ("dispatched", .bool false),
    ("error_code", .str (errorCode error))]))).cases
    (fun _ => lift (.error (refusal "recovery_orchestrator_pre_dispatch_state_unverified" 503)))
    fun aborted => lift (.error (
      if confirms aborted "blocked_pre_dispatch" then error
      else refusal "recovery_orchestrator_pre_dispatch_state_unverified" 503))

/-- The try statement.  An error meets the flags as they stand where it is thrown. -/
def executeClaimed (current : Scope) (plan fenceToken : Val) : Program Val :=
  (claimExecution c fenceToken).cases (fun error => lift (.error error)) fun _ =>
    (recordIntent host c current fenceToken).cases (abortClaim c fenceToken) fun intent =>
      (dispatch host c plan fenceToken intent).cases (fun _ => recordUnknown c plan fenceToken) pure

/-- The finally block: a failed release changes nothing. -/
def releasing (fenceToken : Val) (result : Except Val Val) : Program Val :=
  (call (.releaseLease (fenceArgs c fenceToken))).cases (fun _ => lift result) fun _ => lift result

def executeRecovery : Program Val := do
  let lookup ← lift (assertAuthorities c)
  let current ← lift (stagingScope c.binding)
  let stored ← call (.getPlan c.planId)
  let plan ← lift (assertPlan host stored)
  lift (assertReference c current host plan)
  let _ ← lift (resolveCapability host lookup plan)
  let fresh ← call (.inspect (inspectArgs current plan))
  lift (assertFresh host fresh plan)
  let proof ← call (.verifyApproval (approvalArgs current plan))
  lift (assertProof host proof plan)
  let lock ← call (.acquireLease (.obj [("plan_id", c.planId), ("plan_hash", c.planHash),
    ("scope", current.toVal)]))
  lift (assertLease lock)
  let fenceToken := lock.member "fence_token"
  (executeClaimed host c current plan fenceToken).cases
    (fun error => releasing c fenceToken (.error error))
    fun result => releasing c fenceToken (.ok result)

end GrowthOs.Recovery.Orchestrator
