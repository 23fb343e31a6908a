import GrowthOs.GrowthControl.Documents
import GrowthOs.Support.Comparison

/-!
# The policy compiler

`growthControlPolicyCompiler.js`: immutable policy versions and a context are
checked and normalised, the policies whose conditions all hold are matched, and
their effects are folded into one decision, its requirements and its denials.
`localeLe s t` says that `s.localeCompare(t)` is not positive.
-/

namespace GrowthOs.GrowthControl.PolicyCompiler

open Js Throwing Comparison

def maxPolicyCount : Nat := 100
def maxConditionCount : Nat := 25
def maxEffectCount : Nat := 25
def maxInputBytes : Nat := 262144

/-- `fail(code, message, field, issue, extra)`. -/
def policyError (code message field issue : String) (extra : List (String × Val)) : Val :=
  planeError code message 422 [.obj ([("field", .str field), ("issue", .str issue)] ++ extra)]

/-! ## Checks of the whole input -/

def assertBoundedInput (value : Val) : Except Val Unit :=
  rejectIf (maxInputBytes < ((jsonStringify value).getD "").utf8ByteSize)
    (policyError "GROWTH_CONTROL_POLICY_INPUT_OVERSIZED"
      "Policy compiler input exceeds the supported byte bound." "input" "oversized" [])

/-- Two words with an optional underscore or dash between them. -/
def joinedWords (first second : String) : Regexp Char :=
  .all [.word sameIgnoringCase first.toList, .opt (.one fun c => c == '_' || c == '-'),
    .word sameIgnoringCase second.toList]

/-- `SENSITIVE_KEY_RE`. -/
def sensitiveKey : Regexp Char :=
  .any (["secret", "token", "password", "passwd", "credential", "authorization", "cookie",
      "session"].map (fun word => .word sameIgnoringCase word.toList) ++
    [joinedWords "private" "key", joinedWords "client" "secret", joinedWords "api" "key"])

/-- A character of a bearer token. -/
def isBearerChar (c : Char) : Bool :=
  isAsciiAlnum c || "._~+-/".toList.contains c

/-- `SENSITIVE_VALUE_RE`; what may follow a token does not change the test. -/
def sensitiveValue : Regexp Char :=
  .any [.all [.word sameIgnoringCase "bearer".toList, .plus (.one isWhiteSpace),
      .plus (.one isBearerChar)],
    .all [.word sameIgnoringCase "-----begin ".toList,
      .star (.one fun c => isKeyStart (lowerChar c) || c == ' '),
      .word sameIgnoringCase "private key-----".toList]]

mutual

def assertSensitiveFree : Val → String → Nat → Except Val Unit
  | .str s, field, depth =>
    rejectIf (depth ≤ 12 ∧ sensitiveValue.search s.toList = true)
      (policyError "GROWTH_CONTROL_POLICY_SENSITIVE_INPUT"
        "Policy compiler input contains a secret-like value." field
        "forbidden_sensitive_value" [])
  | .arr elems, field, depth =>
    if 12 < depth then .ok () else sensitiveFreeElems elems field 0 (depth + 1)
  | .obj fields, field, depth =>
    if 12 < depth then .ok () else sensitiveFreeFields fields field (depth + 1)
  | _, _, _ => .ok ()

def sensitiveFreeElems : List Val → String → Nat → Nat → Except Val Unit
  | [], _, _, _ => .ok ()
  | v :: rest, field, index, depth => do
    assertSensitiveFree v (field ++ "[" ++ toString index ++ "]") depth
    sensitiveFreeElems rest field (index + 1) depth

def sensitiveFreeFields : List (String × Val) → String → Nat → Except Val Unit
  | [], _, _ => .ok ()
  | (key, v) :: rest, field, depth => do
    rejectIf (sensitiveKey.search key.toList = true)
      (policyError "GROWTH_CONTROL_POLICY_SENSITIVE_INPUT"
        "Policy compiler input contains a forbidden sensitive field."
        (field ++ "." ++ key) "forbidden_sensitive_field" [])
    assertSensitiveFree v (field ++ "." ++ key) depth
    sensitiveFreeFields rest field depth

end

/-! ## Fields -/

def canonical (value : Val) (field : String) : Except Val String := do
  let text ← textOf value
  rejectIf (isKeyUpTo 191 (toLowerCase (trim text)) = false)
    (policyError "GROWTH_CONTROL_POLICY_INVALID" (field ++ " must be a canonical key.") field
      "invalid_canonical_key" [])
  .ok (toLowerCase (trim text))

def isIdentifierChar (c : Char) : Bool :=
  isAsciiAlnum c || ":._/-".toList.contains c

/-- `OPAQUE_ID_RE.test(text)`. -/
def isOpaqueId (text : String) : Bool :=
  match text.toList with
  | [] => false
  | c :: rest => isAsciiAlnum c && rest.all isIdentifierChar && rest.length ≤ 190

def identifier (value : Val) (field : String) : Except Val String := do
  let text ← textOf value
  rejectIf (isOpaqueId (trim text) = false) (policyError "GROWTH_CONTROL_POLICY_INVALID"
      (field ++ " must be a bounded opaque identifier.") field "invalid_identifier" [])
  .ok (trim text)

/-- `value == null || value === ""`. -/
def isAbsent : Val → Bool
  | .str s => s == ""
  | v => v.isNullish

def nullableIdentifier (value : Val) (field : String) : Except Val (Option String) :=
  if isAbsent value then .ok none
  else do
    let id ← identifier value field
    .ok (some id)

def sha256 (value : Val) (field : String) : Except Val (Option String) :=
  if isAbsent value then .ok none
  else do
    let text ← textOf value
    rejectIf (isSha256 (toLowerCase (trim text)) = false)
      (policyError "GROWTH_CONTROL_POLICY_INVALID" (field ++ " must be SHA-256.") field
        "invalid_sha256" [])
    .ok (some (toLowerCase (trim text)))

/-- The bounds in an error. -/
def boundsOf (minimum maximum : Int) : List (String × Val) :=
  [("minimum", .num (.finite (.ofInt minimum))), ("maximum", .num (.finite (.ofInt maximum)))]

def outOfRange (field : String) (minimum maximum : Int) : Val :=
  policyError "GROWTH_CONTROL_POLICY_INVALID" (field ++ " is outside the supported bounds.")
    field "out_of_range" (boundsOf minimum maximum)

/-- `boundedInteger(value, field, minimum, maximum, fallback)`; the bounds are
safe integers and not negative. -/
def boundedInteger (value : Val) (field : String) (minimum maximum : Nat)
    (fallback : Option Nat) : Except Val Nat := do
  let number ← if value.isNullish then .ok ((fallback.map Number.ofNat).getD .nan)
    else value.toNumber
  match integerOf number with
  | some n =>
    if minimum ≤ n ∧ n ≤ maximum then .ok n.toNat
    else .error (outOfRange field minimum maximum)
  | none => .error (outOfRange field minimum maximum)

def boundedNumber (value : Val) (field : String) (minimum maximum : Int) : Except Val Decimal := do
  let number ← value.toNumber
  match number with
  | .finite d =>
    if d.blt (.ofInt minimum) || (Decimal.ofInt maximum).blt d then
      .error (outOfRange field minimum maximum)
    else .ok d
  | _ => .error (outOfRange field minimum maximum)

/-- The elements of `sortedUnique`. -/
def boundedElems (values : Val) (field : String) : Except Val (List Val) :=
  match values with
  | .undefined => .ok []
  | .null => .ok []
  | .arr elems =>
    if 100 < elems.length then
      .error (policyError "GROWTH_CONTROL_POLICY_INVALID"
        (field ++ " must be a bounded array.") field "invalid_or_oversized_array"
        [("maximum", .num (.ofNat 100))])
    else .ok elems
  | _ => .error (policyError "GROWTH_CONTROL_POLICY_INVALID"
      (field ++ " must be a bounded array.") field "invalid_or_oversized_array"
      [("maximum", .num (.ofNat 100))])

def sortedUnique {α : Type} [BEq α] (le : α → α → Bool)
    (normalize : Val → String → Except Val α) (required : Bool) (values : Val)
    (field : String) : Except Val (List α) := do
  let elems ← boundedElems values field
  let normalized ← elems.zipIdx.mapM fun (value, index) =>
    normalize value (field ++ "[" ++ toString index ++ "]")
  rejectIf (required = true ∧ (sortBy le normalized.eraseDups).isEmpty = true)
    (policyError "GROWTH_CONTROL_POLICY_INVALID" (field ++ " must not be empty.") field
      "required" [])
  .ok (sortBy le normalized.eraseDups)

/-- A list of canonical keys. -/
def keyList (required : Bool) (values : Val) (field : String) : Except Val (List String) :=
  sortedUnique keyLe canonical required values field

/-! ## Contexts -/

/-- `ENVIRONMENTS`. -/
inductive Environment
  | development | test | staging | canary | production
deriving DecidableEq, Repr

def Environment.text : Environment → String
  | .development => "development"
  | .test => "test"
  | .staging => "staging"
  | .canary => "canary"
  | .production => "production"

def Environment.ofText (text : String) : Option Environment :=
  [Environment.development, .test, .staging, .canary, .production].find? fun environment =>
    environment.text == text

/-- `CONTEXT_FIELDS`. -/
inductive ContextField
  | tenantId | workspaceId | brandId | activityBindingId | operationKey | capabilityKey
  | actionIds | resourceIds | resourceCount | environment | effectClass | actorRoles
  | providerWrite | externalWrite | budgetAmount | concurrency | certificationKeys
  | delegationRequested | planHashSha256 | requestHashSha256
deriving DecidableEq, Repr

def ContextField.all : List ContextField :=
  [.tenantId, .workspaceId, .brandId, .activityBindingId, .operationKey, .capabilityKey,
    .actionIds, .resourceIds, .resourceCount, .environment, .effectClass, .actorRoles,
    .providerWrite, .externalWrite, .budgetAmount, .concurrency, .certificationKeys,
    .delegationRequested, .planHashSha256, .requestHashSha256]

def ContextField.text : ContextField → String
  | .tenantId => "tenant_id"
  | .workspaceId => "workspace_id"
  | .brandId => "brand_id"
  | .activityBindingId => "activity_binding_id"
  | .operationKey => "operation_key"
  | .capabilityKey => "capability_key"
  | .actionIds => "action_ids"
  | .resourceIds => "resource_ids"
  | .resourceCount => "resource_count"
  | .environment => "environment"
  | .effectClass => "effect_class"
  | .actorRoles => "actor_roles"
  | .providerWrite => "provider_write"
  | .externalWrite => "external_write"
  | .budgetAmount => "budget_amount"
  | .concurrency => "concurrency"
  | .certificationKeys => "certification_keys"
  | .delegationRequested => "delegation_requested"
  | .planHashSha256 => "plan_hash_sha256"
  | .requestHashSha256 => "request_hash_sha256"

def ContextField.ofText (text : String) : Option ContextField :=
  ContextField.all.find? fun field => field.text == text

structure Context where
  tenantId : String
  workspaceId : Option String
  brandId : Option String
  activityBindingId : Option String
  operationKey : String
  capabilityKey : String
  actionIds : List String
  resourceIds : List String
  resourceCount : Nat
  environment : Environment
  effectClass : String
  actorRoles : List String
  providerWrite : Bool
  externalWrite : Bool
  budgetAmount : Decimal
  concurrency : Nat
  certificationKeys : List String
  delegationRequested : Bool
  planHashSha256 : Option String
  requestHashSha256 : Option String

/-- A value a context holds. -/
inductive ContextValue
  | text (value : Option String)
  | texts (values : List String)
  | number (value : Decimal)
  | flag (value : Bool)

def ContextValue.toVal : ContextValue → Val
  | .text value => optionText value
  | .texts values => .arr (values.map .str)
  | .number value => .num (.finite value)
  | .flag value => .bool value

/-- `Number(value)`. -/
def ContextValue.toNumber : ContextValue → Number
  | .text (some s) => stringToNumber s
  | .text none => .ofNat 0
  | .texts values => stringToNumber (",".intercalate values)
  | .number value => .finite value
  | .flag true => .ofNat 1
  | .flag false => .ofNat 0

/-- `context[field]`. -/
def Context.value (context : Context) : ContextField → ContextValue
  | .tenantId => .text (some context.tenantId)
  | .workspaceId => .text context.workspaceId
  | .brandId => .text context.brandId
  | .activityBindingId => .text context.activityBindingId
  | .operationKey => .text (some context.operationKey)
  | .capabilityKey => .text (some context.capabilityKey)
  | .actionIds => .texts context.actionIds
  | .resourceIds => .texts context.resourceIds
  | .resourceCount => .number (.ofInt context.resourceCount)
  | .environment => .text (some context.environment.text)
  | .effectClass => .text (some context.effectClass)
  | .actorRoles => .texts context.actorRoles
  | .providerWrite => .flag context.providerWrite
  | .externalWrite => .flag context.externalWrite
  | .budgetAmount => .number context.budgetAmount
  | .concurrency => .number (.ofInt context.concurrency)
  | .certificationKeys => .texts context.certificationKeys
  | .delegationRequested => .flag context.delegationRequested
  | .planHashSha256 => .text context.planHashSha256
  | .requestHashSha256 => .text context.requestHashSha256

def Context.toVal (context : Context) : Val :=
  .obj (ContextField.all.map fun field => (field.text, (context.value field).toVal))

/-- `environment` after it was found canonical. -/
def environmentOf (code field text : String) : Except Val Environment :=
  match Environment.ofText text with
  | some environment => .ok environment
  | none => .error (policyError code (field ++ " is unsupported.") field
      "unsupported_environment" [])

def unknownFields (fields : List (String × Val)) : List String :=
  (fields.map Prod.fst).filter fun name => (ContextField.ofText name).isNone

/-- The number of resources, counted where it is not given. -/
def resourceCountOf (value : Val) (resourceIds : List String) : Except Val Nat :=
  if value.isNullish then .ok resourceIds.length
  else boundedInteger value "context.resource_count" 0 10000 none

def budgetOf (value : Val) : Except Val Decimal :=
  if value.isNullish then .ok (.ofInt 0)
  else boundedNumber value "context.budget_amount" 0 1000000000

def concurrencyOf (value : Val) : Except Val Nat :=
  if value.isNullish then .ok 1
  else boundedInteger value "context.concurrency" 1 1000 none

def normalizeContext (source : Val) : Except Val Context := do
  rejectIf (source.isPlainObject = false)
    (policyError "GROWTH_CONTROL_POLICY_CONTEXT_INVALID" "context must be an object."
      "context" "invalid_type" [])
  rejectIf ((unknownFields source.ownFields).isEmpty = false)
    (policyError "GROWTH_CONTROL_POLICY_CONTEXT_INVALID"
      "context contains unsupported fields." "context" "unknown_fields"
      [("fields", .arr ((sortBy keyLe (unknownFields source.ownFields)).map .str))])
  let resourceIds ← sortedUnique keyLe identifier false (source.member "resource_ids")
    "context.resource_ids"
  let actionIds ← keyList false (source.member "action_ids") "context.action_ids"
  let resourceCount ← resourceCountOf (source.member "resource_count") resourceIds
  rejectIf (resourceCount ≠ resourceIds.length) (policyError "GROWTH_CONTROL_POLICY_CONTEXT_INVALID"
      "context.resource_count must equal the canonical resource_ids count."
      "context.resource_count" "count_mismatch"
      [("expected", .num (.ofNat resourceIds.length)), ("observed", .num (.ofNat resourceCount))])
  let environmentKey ← canonical
    ((source.member "environment").coalesce (.str "development")) "context.environment"
  let environment ← environmentOf "GROWTH_CONTROL_POLICY_CONTEXT_INVALID"
    "context.environment" environmentKey
  let tenantId ← identifier (source.member "tenant_id") "context.tenant_id"
  let workspaceId ← nullableIdentifier (source.member "workspace_id") "context.workspace_id"
  let brandId ← nullableIdentifier (source.member "brand_id") "context.brand_id"
  let activityBindingId ← nullableIdentifier (source.member "activity_binding_id")
    "context.activity_binding_id"
  let operationKey ← canonical (source.member "operation_key") "context.operation_key"
  let capabilityKey ← canonical (source.member "capability_key") "context.capability_key"
  let effectClass ← canonical
    ((source.member "effect_class").coalesce (.str "no_effect")) "context.effect_class"
  let actorRoles ← keyList false (source.member "actor_roles") "context.actor_roles"
  let budgetAmount ← budgetOf (source.member "budget_amount")
  let concurrency ← concurrencyOf (source.member "concurrency")
  let certificationKeys ← keyList false (source.member "certification_keys")
    "context.certification_keys"
  let planHashSha256 ← sha256 (source.member "plan_hash_sha256") "context.plan_hash_sha256"
  let requestHashSha256 ← sha256 (source.member "request_hash_sha256") "context.request_hash_sha256"
  .ok { tenantId, workspaceId, brandId, activityBindingId, operationKey, capabilityKey,
        actionIds, resourceIds, resourceCount, environment, effectClass, actorRoles,
        providerWrite := (source.member "provider_write").isTrue,
        externalWrite := (source.member "external_write").isTrue,
        budgetAmount, concurrency, certificationKeys,
        delegationRequested := (source.member "delegation_requested").isTrue,
        planHashSha256, requestHashSha256 }

/-! ## Conditions -/

/-- A value a condition compares with. -/
inductive Scalar
  | text (value : String)
  | number (value : Number)
  | flag (value : Bool)
  | null
deriving DecidableEq

def Scalar.toVal : Scalar → Val
  | .text value => .str value
  | .number value => .num value
  | .flag value => .bool value
  | .null => .null

/-- `String(value)`, by which `sort()` compares. -/
def Scalar.toText : Scalar → String
  | .text value => value
  | .number value => value.toString
  | .flag true => "true"
  | .flag false => "false"
  | .null => "null"

/-- An operator with the value it compares with. -/
inductive ConditionTest
  | equals (value : Scalar)
  | notEquals (value : Scalar)
  | isIn (values : List Scalar)
  | notIn (values : List Scalar)
  | isPresent (expected : Bool)
  | lessThan (value : Decimal)
  | lessThanOrEqual (value : Decimal)
  | greaterThan (value : Decimal)
  | greaterThanOrEqual (value : Decimal)
  | containsAll (values : List Scalar)

structure Condition where
  field : ContextField
  test : ConditionTest

/-- A condition's text, trimmed and not longer than 191 characters. -/
def conditionText (text field : String) : Except Val Scalar := do
  rejectIf (trim text = "" ∨ 191 < utf16Length (trim text))
    (policyError "GROWTH_CONTROL_POLICY_CONDITION_INVALID" (field ++ " is invalid.") field
      "invalid_value" [])
  .ok (.text (trim text))

/-- The `normalize` of the operators on lists. -/
def conditionCandidate (candidate : Val) (field : String) : Except Val Scalar :=
  match candidate with
  | .num n => .ok (.number n)
  | .bool b => .ok (.flag b)
  | candidate => do
    let text ← textOf candidate
    conditionText text field

def conditionList (value : Val) (field : String) : Except Val (List Scalar) :=
  sortedUnique (fun a b => keyLe a.toText b.toText) conditionCandidate false value field

def conditionBound (value : Val) (field : String) : Except Val Decimal :=
  boundedNumber value field (-1000000000) 1000000000

/-- The value of `equals` and `not_equals`. -/
def conditionScalar (value : Val) (field : String) : Except Val Scalar :=
  match value with
  | .str s => conditionText s (field ++ ".value")
  | .num n => .ok (.number n)
  | .bool b => .ok (.flag b)
  | .null => .ok .null
  | _ => .error (policyError "GROWTH_CONTROL_POLICY_CONDITION_INVALID"
      (field ++ ".value must be scalar.") (field ++ ".value") "invalid_scalar" [])

def conditionTest (operator : String) (value : Val) (field : String) : Except Val ConditionTest :=
  match operator with
  | "equals" => .equals <$> conditionScalar value field
  | "not_equals" => .notEquals <$> conditionScalar value field
  | "in" => .isIn <$> conditionList value (field ++ ".value")
  | "not_in" => .notIn <$> conditionList value (field ++ ".value")
  | "exists" => .ok (.isPresent !value.isFalse)
  | "less_than" => .lessThan <$> conditionBound value (field ++ ".value")
  | "less_than_or_equal" => .lessThanOrEqual <$> conditionBound value (field ++ ".value")
  | "greater_than" => .greaterThan <$> conditionBound value (field ++ ".value")
  | "greater_than_or_equal" =>
    .greaterThanOrEqual <$> conditionBound value (field ++ ".value")
  | "contains_all" => .containsAll <$> conditionList value (field ++ ".value")
  | _ => .error (policyError "GROWTH_CONTROL_POLICY_CONDITION_INVALID"
      (field ++ ".operator is unsupported.") (field ++ ".operator") "unsupported_operator" [])

def contextFieldOf (text field : String) : Except Val ContextField :=
  match ContextField.ofText text with
  | some contextField => .ok contextField
  | none => .error (policyError "GROWTH_CONTROL_POLICY_CONDITION_INVALID"
      (field ++ ".field is unsupported.") (field ++ ".field") "unsupported_context_field" [])

def normalizeCondition (source : Val) (field : String) : Except Val Condition := do
  rejectIf (source.isPlainObject = false)
    (policyError "GROWTH_CONTROL_POLICY_CONDITION_INVALID" (field ++ " must be an object.")
      field "invalid_type" [])
  let fieldText ← textOf (source.member "field")
  let contextField ← contextFieldOf (trim fieldText) field
  let operator ← textOf (source.member "operator")
  let test ← conditionTest (toLowerCase (trim operator)) (source.member "value") field
  .ok { field := contextField, test }

variable (rt : Runtime) (localeLe : String → String → Bool)

def stableEqual (left right : Val) : Bool :=
  stableSha256 rt left == stableSha256 rt right

/-- `a <= b`; false as soon as one side is not a number. -/
def numberLe : Number → Number → Bool
  | .nan, _ => false
  | _, .nan => false
  | a, b => !b.blt a

def ContextValue.isPresent : ContextValue → Bool
  | .text none => false
  | _ => true

/-- `actual.some((item) => stableEqual(item, candidate))` on a list. -/
def ContextValue.holds (actual : ContextValue) (candidate : Scalar) : Bool :=
  match actual with
  | .texts values => values.any fun item => stableEqual rt (.str item) candidate.toVal
  | _ => false

def ContextValue.isList : ContextValue → Bool
  | .texts _ => true
  | _ => false

def conditionMatches (condition : Condition) (context : Context) : Bool :=
  let actual := context.value condition.field
  match condition.test with
  | .equals value => stableEqual rt actual.toVal value.toVal
  | .notEquals value => !stableEqual rt actual.toVal value.toVal
  | .isIn values => values.any fun candidate => stableEqual rt candidate.toVal actual.toVal
  | .notIn values => values.all fun candidate => !stableEqual rt candidate.toVal actual.toVal
  | .isPresent expected => if expected then actual.isPresent else !actual.isPresent
  | .lessThan value => actual.toNumber.blt (.finite value)
  | .lessThanOrEqual value => numberLe actual.toNumber (.finite value)
  | .greaterThan value => (Number.finite value).blt actual.toNumber
  | .greaterThanOrEqual value => numberLe (.finite value) actual.toNumber
  | .containsAll values => actual.isList && values.all fun candidate => actual.holds rt candidate

/-! ## Effects -/

structure ApprovalProfile where
  requiredRoles : List String
  separationOfDuties : Bool
  expiresInSeconds : Nat
  delegationAllowed : Bool
  maxResourceCount : Nat

inductive EffectKind
  | requireApproval (profile : ApprovalProfile)
  | requireTypedConfirmation (confirmationKey : String)
  | requireResourceAuthority (authorityKeys : List String)
  | requireCertification (certificationKeys : List String)
  | requireReadback (readbackKeys : List String)
  | requireRollback (rollbackKeys : List String)
  | limitResources (maximum : Nat)
  | limitConcurrency (maximum : Nat)
  | limitBudget (maximum : Decimal)
  | forceEnvironment (environment : Environment)
  | forceProviderWriteFalse
  | deny

structure Effect where
  kind : EffectKind
  reasonCode : Option String

def policyEffects : List String :=
  ["require_approval", "require_typed_confirmation", "require_resource_authority",
    "require_certification", "require_readback", "require_rollback", "limit_resources",
    "limit_concurrency", "limit_budget", "force_environment", "force_provider_write_false",
    "deny"]

def normalizeApprovalProfile (source : Val) (field : String) : Except Val ApprovalProfile := do
  let profile := source.coalesce (.obj [])
  rejectIf (profile.isPlainObject = false)
    (policyError "GROWTH_CONTROL_POLICY_EFFECT_INVALID" (field ++ " must be an object.") field
      "invalid_type" [])
  let requiredRoles ← keyList true
    ((profile.member "required_roles").coalesce (.arr [.str "supervisor"]))
    (field ++ ".required_roles")
  let expiresInSeconds ← boundedInteger (profile.member "expires_in_seconds")
    (field ++ ".expires_in_seconds") 300 604800 (some 3600)
  let maxResourceCount ← boundedInteger (profile.member "max_resource_count")
    (field ++ ".max_resource_count") 1 10000 (some 10000)
  .ok { requiredRoles,
        separationOfDuties := (profile.member "separation_of_duties").isTrue,
        expiresInSeconds,
        delegationAllowed := (profile.member "delegation_allowed").isTrue,
        maxResourceCount }

/-- A list of keys an effect requires, with the default of its type. -/
def requiredKeys (source : Val) (field name : String) (fallback : Val) : Except Val (List String) :=
  keyList true ((source.member name).coalesce fallback) (field ++ "." ++ name)

def effectKind (type : String) (source : Val) (field : String) : Except Val EffectKind :=
  match type with
  | "require_approval" =>
    .requireApproval <$> normalizeApprovalProfile (source.member "profile") (field ++ ".profile")
  | "require_typed_confirmation" =>
    .requireTypedConfirmation <$> canonical
      ((source.member "confirmation_key").coalesce (.str "confirmation.required"))
      (field ++ ".confirmation_key")
  | "require_resource_authority" =>
    .requireResourceAuthority <$> requiredKeys source field "authority_keys"
      (.arr [.str "resource.authority"])
  | "require_certification" =>
    .requireCertification <$> requiredKeys source field "certification_keys" .undefined
  | "require_readback" =>
    .requireReadback <$> requiredKeys source field "readback_keys" (.arr [.str "mutation.readback"])
  | "require_rollback" =>
    .requireRollback <$> requiredKeys source field "rollback_keys" (.arr [.str "mutation.rollback"])
  | "limit_resources" =>
    .limitResources <$> boundedInteger (source.member "maximum") (field ++ ".maximum") 0 10000 none
  | "limit_concurrency" =>
    .limitConcurrency <$> boundedInteger (source.member "maximum") (field ++ ".maximum") 1 1000 none
  | "limit_budget" =>
    .limitBudget <$> boundedNumber (source.member "maximum") (field ++ ".maximum") 0 1000000000
  | "force_environment" => do
    let environment ← canonical (source.member "environment") (field ++ ".environment")
    .forceEnvironment <$> environmentOf "GROWTH_CONTROL_POLICY_EFFECT_INVALID"
      (field ++ ".environment") environment
  | "force_provider_write_false" => .ok .forceProviderWriteFalse
  | "deny" => .ok .deny
  | _ => .error (policyError "GROWTH_CONTROL_POLICY_EFFECT_INVALID"
      (field ++ ".type is unsupported.") (field ++ ".type") "unsupported_effect" [])

def reasonCodeOf (value : Val) (field : String) : Except Val (Option String) :=
  if value.isNullish then .ok none else some <$> canonical value field

/-- A denial has a reason code in any case. -/
def effectReason (kind : EffectKind) (reasonCode : Option String) : Option String :=
  match kind with
  | .deny => some (reasonCode.getD "policy.denied")
  | _ => reasonCode

def normalizeEffect (source : Val) (field : String) : Except Val Effect := do
  rejectIf (source.isPlainObject = false)
    (policyError "GROWTH_CONTROL_POLICY_EFFECT_INVALID" (field ++ " must be an object.") field
      "invalid_type" [])
  let typeText ← textOf ((source.member "type").coalesce (source.member "effect"))
  rejectIf (toLowerCase (trim typeText) ∉ policyEffects)
    (policyError "GROWTH_CONTROL_POLICY_EFFECT_INVALID" (field ++ ".type is unsupported.")
      (field ++ ".type") "unsupported_effect" [])
  let reasonCode ← reasonCodeOf (source.member "reason_code") (field ++ ".reason_code")
  let kind ← effectKind (toLowerCase (trim typeText)) source field
  .ok { kind, reasonCode := effectReason kind reasonCode }

/-! ## Policies -/

structure Policy where
  policyKey : String
  policyVersionId : String
  version : Nat
  priority : Nat
  conditions : List Condition
  effects : List Effect

/-- `conditions`, an array of at most 25. -/
def conditionsOf (value : Val) (field : String) : Except Val (List Val) :=
  match value with
  | .arr elems =>
    if maxConditionCount < elems.length then
      .error (policyError "GROWTH_CONTROL_POLICY_INVALID"
        (field ++ ".conditions exceeds the supported bound.") (field ++ ".conditions")
        "invalid_or_oversized_array" [])
    else .ok elems
  | _ => .error (policyError "GROWTH_CONTROL_POLICY_INVALID"
      (field ++ ".conditions exceeds the supported bound.") (field ++ ".conditions")
      "invalid_or_oversized_array" [])

/-- `effects`, a non-empty array of at most 25. -/
def effectsOf (value : Val) (field : String) : Except Val (List Val) :=
  match value with
  | .arr elems =>
    if elems.isEmpty = true ∨ maxEffectCount < elems.length then
      .error (policyError "GROWTH_CONTROL_POLICY_INVALID"
        (field ++ ".effects must be a non-empty bounded array.") (field ++ ".effects")
        "invalid_or_oversized_array" [])
    else .ok elems
  | _ => .error (policyError "GROWTH_CONTROL_POLICY_INVALID"
      (field ++ ".effects must be a non-empty bounded array.") (field ++ ".effects")
      "invalid_or_oversized_array" [])

/-- `String(source.status ?? "active")`, read only for an immutable version. -/
def statusText (source : Val) : Except Val String :=
  if (source.member "immutable").isTrue then
    ((source.member "status").coalesce (.str "active")).toStr
  else .ok ""

def normalizePolicy (source : Val) (index : Nat) : Except Val Policy := do
  let field := "policies[" ++ toString index ++ "]"
  rejectIf (source.isPlainObject = false)
    (policyError "GROWTH_CONTROL_POLICY_INVALID" (field ++ " must be an object.") field
      "invalid_type" [])
  let status ← statusText source
  rejectIf (status ≠ "active") (policyError "GROWTH_CONTROL_POLICY_VERSION_INVALID"
      "Only immutable active policy versions may be compiled." field
      "version_not_active_immutable" [])
  let conditionValues ← conditionsOf ((source.member "conditions").coalesce (.arr [])) field
  let effectValues ← effectsOf ((source.member "effects").coalesce (.arr [])) field
  let policyKey ← canonical (source.member "policy_key") (field ++ ".policy_key")
  let policyVersionId ← identifier (source.member "policy_version_id")
    (field ++ ".policy_version_id")
  let version ← boundedInteger (source.member "version") (field ++ ".version") 1 1000000 none
  let priority ← boundedInteger (source.member "priority") (field ++ ".priority") 0 10000 (some 0)
  let conditions ← conditionValues.zipIdx.mapM fun (condition, i) =>
    normalizeCondition condition (field ++ ".conditions[" ++ toString i ++ "]")
  let effects ← effectValues.zipIdx.mapM fun (effect, i) =>
    normalizeEffect effect (field ++ ".effects[" ++ toString i ++ "]")
  .ok { policyKey, policyVersionId, version, priority, conditions, effects }

def policyMatches (context : Context) (policy : Policy) : Bool :=
  policy.conditions.all fun condition => conditionMatches rt condition context

/-! ## Requirements -/

structure Denial where
  policyKey : String
  policyVersionId : String
  reasonCode : Option String

/-- The profile of all approvals, for the actions and resources of the
context. -/
structure RequiredApproval where
  profile : ApprovalProfile
  context : Context
  environment : Environment

inductive Requirement
  | forceProviderWriteFalse
  | forceEnvironment (environment : Environment) (priority : Nat)
  | limitResources (maximum : Nat)
  | limitConcurrency (maximum : Nat)
  | limitBudget (maximum : Decimal)
  | requireResourceAuthority (authorityKeys : List String)
  | requireCertification (certificationKeys : List String)
  | requireApproval (approval : RequiredApproval)
  | requireTypedConfirmation (confirmationKeys : List String)
  | requireReadback (readbackKeys : List String)
  | requireRollback (rollbackKeys : List String)

/-- `REQUIREMENT_ORDER`. -/
def Requirement.order : Requirement → Nat
  | .forceProviderWriteFalse => 0
  | .forceEnvironment .. => 1
  | .limitResources _ => 2
  | .limitConcurrency _ => 3
  | .limitBudget _ => 4
  | .requireResourceAuthority _ => 5
  | .requireCertification _ => 6
  | .requireApproval _ => 7
  | .requireTypedConfirmation _ => 8
  | .requireReadback _ => 9
  | .requireRollback _ => 10

/-- `set.add(value)`. -/
def addKey (keys : List String) (key : String) : List String :=
  if key ∈ keys then keys else keys ++ [key]

def addAll (keys values : List String) : List String :=
  values.foldl addKey keys

/-- `Math.min(a, b)` of finite numbers. -/
def decimalMin (a b : Decimal) : Decimal :=
  if b.blt a then b else a

/-- `limit == null ? maximum : Math.min(limit, maximum)`. -/
def tighten {α : Type} (min : α → α → α) (limit : Option α) (maximum : α) : Option α :=
  match limit with
  | some limit => some (min limit maximum)
  | none => some maximum

/-- The local variables of `compileRequirements`. -/
structure Accumulated where
  reasonCodes : List String
  denials : List Denial
  approvalRoles : List String
  confirmationKeys : List String
  authorityKeys : List String
  certificationKeys : List String
  readbackKeys : List String
  rollbackKeys : List String
  approvalRequired : Bool
  separationOfDuties : Bool
  approvalExpiry : Nat
  delegationAllowed : Bool
  approvalMaxResourceCount : Nat
  resourceLimit : Option Nat
  concurrencyLimit : Option Nat
  budgetLimit : Option Decimal
  forceProviderWriteFalse : Bool

def Accumulated.initial : Accumulated where
  reasonCodes := []
  denials := []
  approvalRoles := []
  confirmationKeys := []
  authorityKeys := []
  certificationKeys := []
  readbackKeys := []
  rollbackKeys := []
  approvalRequired := false
  separationOfDuties := false
  approvalExpiry := 604800
  delegationAllowed := true
  approvalMaxResourceCount := 10000
  resourceLimit := none
  concurrencyLimit := none
  budgetLimit := none
  forceProviderWriteFalse := false

variable (acc : Accumulated)

/-- The `switch` of the loop. -/
def Accumulated.addKind (policy : Policy) (effect : Effect) : Accumulated :=
  match effect.kind with
  | .deny =>
    { acc with denials := acc.denials ++
        [⟨policy.policyKey, policy.policyVersionId, effect.reasonCode⟩] }
  | .requireApproval profile =>
    { acc with
      approvalRequired := true
      approvalRoles := addAll acc.approvalRoles profile.requiredRoles
      separationOfDuties := acc.separationOfDuties || profile.separationOfDuties
      approvalExpiry := min acc.approvalExpiry profile.expiresInSeconds
      delegationAllowed := acc.delegationAllowed && profile.delegationAllowed
      approvalMaxResourceCount := min acc.approvalMaxResourceCount profile.maxResourceCount }
  | .requireTypedConfirmation key =>
    { acc with confirmationKeys := addKey acc.confirmationKeys key }
  | .requireResourceAuthority keys =>
    { acc with authorityKeys := addAll acc.authorityKeys keys }
  | .requireCertification keys =>
    { acc with certificationKeys := addAll acc.certificationKeys keys }
  | .requireReadback keys => { acc with readbackKeys := addAll acc.readbackKeys keys }
  | .requireRollback keys => { acc with rollbackKeys := addAll acc.rollbackKeys keys }
  | .limitResources maximum =>
    { acc with resourceLimit := tighten min acc.resourceLimit maximum }
  | .limitConcurrency maximum =>
    { acc with concurrencyLimit := tighten min acc.concurrencyLimit maximum }
  | .limitBudget maximum =>
    { acc with budgetLimit := tighten decimalMin acc.budgetLimit maximum }
  | .forceProviderWriteFalse => { acc with forceProviderWriteFalse := true }
  | .forceEnvironment _ => acc

def Accumulated.addRow (row : Policy × Effect) : Accumulated :=
  let codes := match row.2.reasonCode with
    | some code => addKey acc.reasonCodes code
    | none => acc.reasonCodes
  { acc with reasonCodes := codes }.addKind row.1 row.2

def effectRows (matched : List Policy) : List (Policy × Effect) :=
  matched.flatMap fun policy => policy.effects.map fun effect => (policy, effect)

/-- The environments the rows force, with the priority of their policy. -/
def forcedBy (rows : List (Policy × Effect)) : List (Environment × Nat) :=
  rows.filterMap fun row =>
    match row.2.kind with
    | .forceEnvironment environment => some (environment, row.1.priority)
    | _ => none

/-- The environments forced with the highest priority. -/
def highestForced (candidates : List (Environment × Nat)) (priority : Nat) : List Environment :=
  sortBy (fun a b => keyLe a.text b.text)
    ((candidates.filter fun candidate => candidate.2 == priority).map Prod.fst).eraseDups

def resolveForcedEnvironment (rows : List (Policy × Effect)) :
    Except Val (Option (Environment × Nat)) :=
  let candidates := forcedBy rows
  let priority := (candidates.map Prod.snd).foldl max 0
  match candidates, highestForced candidates priority with
  | [], _ => .ok none
  | _ :: _, [environment] => .ok (some (environment, priority))
  | _ :: _, values => .error (policyError "POLICY_AMBIGUOUS"
      "Equal-priority policies force contradictory environments."
      "policies.effects.force_environment" "equal_priority_conflict"
      [("priority", .num (.ofNat priority)),
        ("values", .arr (values.map fun environment => .str environment.text))])

/-- A requirement on keys, if there are any. -/
def keysRequired (requirement : List String → Requirement) (keys : List String) :
    List Requirement :=
  if keys.isEmpty then [] else [requirement (sortBy keyLe keys)]

def Accumulated.profile : ApprovalProfile where
  requiredRoles := sortBy keyLe acc.approvalRoles
  separationOfDuties := acc.separationOfDuties
  expiresInSeconds := acc.approvalExpiry
  delegationAllowed := acc.delegationAllowed
  maxResourceCount := acc.approvalMaxResourceCount

/-- `forcedEnvironment?.environment ?? context.environment`. -/
def forcedOr (forced : Option (Environment × Nat)) (environment : Environment) : Environment :=
  (forced.map Prod.fst).getD environment

def forcedRequirement (forced : Environment × Nat) : Requirement :=
  .forceEnvironment forced.1 forced.2

def Accumulated.requirements (forced : Option (Environment × Nat)) (context : Context) :
    List Requirement :=
  (if acc.forceProviderWriteFalse then [.forceProviderWriteFalse] else []) ++
  forced.toList.map forcedRequirement ++
  acc.resourceLimit.toList.map .limitResources ++
  acc.concurrencyLimit.toList.map .limitConcurrency ++
  acc.budgetLimit.toList.map .limitBudget ++
  keysRequired .requireResourceAuthority acc.authorityKeys ++
  keysRequired .requireCertification acc.certificationKeys ++
  (if acc.approvalRequired then
    [.requireApproval ⟨acc.profile, context, forcedOr forced context.environment⟩] else []) ++
  keysRequired .requireTypedConfirmation acc.confirmationKeys ++
  keysRequired .requireReadback acc.readbackKeys ++
  keysRequired .requireRollback acc.rollbackKeys

structure Compiled where
  requirements : List Requirement
  denials : List Denial
  reasonCodes : List String

def denialLe : Denial → Denial → Bool :=
  andThen (fun left right => localeLe left.policyKey right.policyKey)
    (fun left right => localeLe left.policyVersionId right.policyVersionId)

def compileRequirements (matched : List Policy) (context : Context) : Except Val Compiled := do
  let acc := (effectRows matched).foldl Accumulated.addRow .initial
  let forced ← resolveForcedEnvironment (effectRows matched)
  .ok { requirements := sortBy (fun left right => left.order ≤ right.order)
          (acc.requirements forced context)
        denials := sortBy (denialLe localeLe) acc.denials
        reasonCodes := sortBy keyLe acc.reasonCodes }

/-! ## The decision -/

inductive Verdict
  | deny | allowWithRequirements | allow
deriving DecidableEq, Repr

def Verdict.text : Verdict → String
  | .deny => "deny"
  | .allowWithRequirements => "allow_with_requirements"
  | .allow => "allow"

/-- An entry of `matched_policy_versions`. -/
structure MatchedVersion where
  policyKey : String
  policyVersionId : String
  version : Nat
  priority : Nat

structure PolicyDecision where
  decision : Verdict
  requirements : List Requirement
  denials : List Denial
  matchedPolicyVersions : List MatchedVersion
  reasonCodes : List String
  contextSha256 : String
  decisionSha256 : String

def texts (values : List String) : Val :=
  .arr (values.map .str)

def RequiredApproval.toVal (approval : RequiredApproval) : Val :=
  let context := approval.context
  .obj [("required_roles", texts approval.profile.requiredRoles),
    ("separation_of_duties", .bool approval.profile.separationOfDuties),
    ("expires_in_seconds", .num (.ofNat approval.profile.expiresInSeconds)),
    ("delegation_allowed", .bool approval.profile.delegationAllowed),
    ("max_resource_count", .num (.ofNat approval.profile.maxResourceCount)),
    ("target_scope", .obj [("tenant_id", .str context.tenantId),
      ("workspace_id", optionText context.workspaceId),
      ("brand_id", optionText context.brandId),
      ("activity_binding_id", optionText context.activityBindingId)]),
    ("action_ids", texts context.actionIds), ("resource_ids", texts context.resourceIds),
    ("resource_count", .num (.ofNat context.resourceCount)),
    ("environment", .str approval.environment.text),
    ("effect_class", .str context.effectClass),
    ("plan_hash_sha256", optionText context.planHashSha256),
    ("request_hash_sha256", optionText context.requestHashSha256),
    ("provider_write_allowed", .bool false), ("grants_authority", .bool false)]

def Requirement.toVal : Requirement → Val
  | .forceProviderWriteFalse =>
    .obj [("type", .str "force_provider_write_false"), ("required", .bool true)]
  | .forceEnvironment environment priority =>
    .obj [("type", .str "force_environment"), ("environment", .str environment.text),
      ("priority", .num (.ofNat priority))]
  | .limitResources maximum =>
    .obj [("type", .str "limit_resources"), ("maximum", .num (.ofNat maximum))]
  | .limitConcurrency maximum =>
    .obj [("type", .str "limit_concurrency"), ("maximum", .num (.ofNat maximum))]
  | .limitBudget maximum =>
    .obj [("type", .str "limit_budget"), ("maximum", .num (.finite maximum))]
  | .requireResourceAuthority keys =>
    .obj [("type", .str "require_resource_authority"), ("authority_keys", texts keys)]
  | .requireCertification keys =>
    .obj [("type", .str "require_certification"), ("certification_keys", texts keys)]
  | .requireApproval approval =>
    .obj [("type", .str "require_approval"), ("approval_profile", approval.toVal)]
  | .requireTypedConfirmation keys =>
    .obj [("type", .str "require_typed_confirmation"), ("confirmation_keys", texts keys)]
  | .requireReadback keys =>
    .obj [("type", .str "require_readback"), ("readback_keys", texts keys)]
  | .requireRollback keys =>
    .obj [("type", .str "require_rollback"), ("rollback_keys", texts keys)]

def Denial.toVal (denial : Denial) : Val :=
  .obj [("policy_key", .str denial.policyKey), ("policy_version_id", .str denial.policyVersionId),
    ("reason_code", optionText denial.reasonCode)]

def MatchedVersion.toVal (version : MatchedVersion) : Val :=
  .obj [("policy_key", .str version.policyKey), ("policy_version_id", .str version.policyVersionId),
    ("version", .num (.ofNat version.version)), ("priority", .num (.ofNat version.priority))]

/-- `withoutHash`; a decision never grants anything by itself. -/
def decisionVal (decision : Verdict) (compiled : Compiled)
    (versions : List MatchedVersion) (contextSha256 : String) : Val :=
  .obj [("contract_version", .str "growth-control-policy-decision-v1"),
    ("decision", .str decision.text),
    ("requirements", .arr (compiled.requirements.map Requirement.toVal)),
    ("denials", .arr (compiled.denials.map Denial.toVal)),
    ("matched_policy_versions", .arr (versions.map MatchedVersion.toVal)),
    ("reason_codes", texts compiled.reasonCodes), ("context_sha256", .str contextSha256),
    ("grants_authority", .bool false), ("provider_calls", .bool false),
    ("provider_dispatch_allowed", .bool false), ("provider_apply_allowed", .bool false),
    ("external_writes", .bool false), ("secrets_included", .bool false)]

def verdictOf (compiled : Compiled) : Verdict :=
  if compiled.denials.isEmpty = false then .deny
  else if compiled.requirements.isEmpty = false then .allowWithRequirements
  else .allow

def Policy.identity (policy : Policy) : String :=
  policy.policyKey ++ ":" ++ policy.policyVersionId

/-- The loop over the identities. -/
def assertDistinct (seen : List String) : List Policy → Except Val Unit
  | [] => .ok ()
  | policy :: rest => do
    rejectIf (policy.identity ∈ seen) (policyError "GROWTH_CONTROL_POLICY_VERSION_INVALID"
        "Duplicate policy-version identity is forbidden." "policies"
        "duplicate_policy_version" [("identity", .str policy.identity)])
    assertDistinct (seen ++ [policy.identity]) rest

/-- The order of matched policies: by falling priority, then by key and
version. -/
def policyLe : Policy → Policy → Bool :=
  andThen (fun left right => right.priority ≤ left.priority)
    (andThen (fun left right => localeLe left.policyKey right.policyKey)
      (fun left right => localeLe left.policyVersionId right.policyVersionId))

/-- `policies`, an array of at most 100. -/
def policiesOf (policies : Val) : Except Val (List Val) :=
  match policies with
  | .arr elems =>
    if maxPolicyCount < elems.length then
      .error (policyError "GROWTH_CONTROL_POLICY_INPUT_INVALID"
        "policies must be a bounded array." "policies" "invalid_or_oversized_array"
        [("maximum", .num (.ofNat maxPolicyCount))])
    else .ok elems
  | _ => .error (policyError "GROWTH_CONTROL_POLICY_INPUT_INVALID"
      "policies must be a bounded array." "policies" "invalid_or_oversized_array"
      [("maximum", .num (.ofNat maxPolicyCount))])

/-- The default of a parameter. -/
def withDefault (value fallback : Val) : Val :=
  if value.isUndefined then fallback else value

def matchedPolicies (context : Context) (policies : List Policy) : List Policy :=
  sortBy (policyLe localeLe) (policies.filter fun policy => policyMatches rt context policy)

def decisionOf (context : Context) (matched : List Policy) (compiled : Compiled) : PolicyDecision :=
  let versions := matched.map fun policy =>
    { policyKey := policy.policyKey, policyVersionId := policy.policyVersionId,
      version := policy.version, priority := policy.priority : MatchedVersion }
  let contextSha256 := stableSha256 rt context.toVal
  { decision := verdictOf compiled
    requirements := compiled.requirements
    denials := compiled.denials
    matchedPolicyVersions := versions
    reasonCodes := compiled.reasonCodes
    contextSha256
    decisionSha256 := stableSha256 rt
      (decisionVal (verdictOf compiled) compiled versions contextSha256) }

def compileGrowthControlPolicyDecision (policiesInput contextInput : Val) :
    Except Val PolicyDecision := do
  let policies := withDefault policiesInput (.arr [])
  let contextValue := withDefault contextInput (.obj [])
  let input : Val := .obj [("policies", policies), ("context", contextValue)]
  assertBoundedInput input
  assertSensitiveFree input "input" 0
  let elems ← policiesOf policies
  let context ← normalizeContext contextValue
  let normalized ← elems.zipIdx.mapM fun (policy, index) => normalizePolicy policy index
  assertDistinct [] normalized
  let matched := matchedPolicies rt localeLe context normalized
  let compiled ← compileRequirements localeLe matched context
  .ok (decisionOf rt context matched compiled)

end GrowthOs.GrowthControl.PolicyCompiler
