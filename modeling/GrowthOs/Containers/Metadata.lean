import GrowthOs.Js.Text
import GrowthOs.Support.Throwing

/-!
# Shared checks of the container authority services

`dynamicContainerAuthority.js` and the services around it: secret-like field
names are refused anywhere in a request, requests are identified by the digest
of their canonical serialisation, and a principal has one of four types.
-/

namespace GrowthOs.Containers

open Js
open Throwing (rejectIf)

def serviceError (status : Nat) (code message : String) (details : Val) : Val :=
  .obj [("message", .str message), ("status", .num (.ofNat status)),
    ("code", .str code), ("details", details)]

/-! ## Secret-like fields -/

/-- The alternatives of `SECRET_KEY_PATTERN`. -/
def secretWords : List String :=
  ["secret", "password", "token", "private_key", "client_secret",
    "refresh_token", "access_token", "api_key", "credential_payload"]

/-- One of the words stands here, up to the end or an underscore. -/
def secretWordAt (cs : List Char) : Bool :=
  secretWords.any fun word =>
    word.toList.isPrefixOf cs && ((cs.drop word.length).head?.all fun c => c == '_')

/-- The words are looked for at the start and after every underscore. -/
def secretWordIn (boundary : Bool) : List Char → Bool
  | [] => false
  | c :: cs =>
    (boundary && secretWordAt (c :: cs)) || secretWordIn (c == '_') cs

/-- `SECRET_KEY_PATTERN.test(key)`. -/
def isSecretKey (key : String) : Bool :=
  secretWordIn true (toLowerCase key).toList

def secretViolation (path : String) : Val :=
  .obj [("code", .str "container_secret_field_forbidden"), ("path", .str path)]

mutual

/-- `visit(current, path)`. -/
def secretViolations : Val → String → List Val
  | .arr elems, path => elementViolations elems 0 path
  | .obj fields, path => fieldViolations fields path
  | _, _ => []

def elementViolations : List Val → Nat → String → List Val
  | [], _, _ => []
  | v :: rest, index, path =>
    secretViolations v (path ++ "[" ++ toString index ++ "]") ++
      elementViolations rest (index + 1) path

def fieldViolations : List (String × Val) → String → List Val
  | [], _ => []
  | (key, v) :: rest, path =>
    (if isSecretKey key then [secretViolation (path ++ "." ++ key)] else []) ++
      secretViolations v (path ++ "." ++ key) ++ fieldViolations rest path

end

/-- `validateNoSecretMetadata(value).violations`. -/
def validateNoSecretMetadata (value : Val) : List Val :=
  secretViolations value "$"

/-! ## Canonical digests and texts -/

def stableSha256 (rt : Runtime) (value : Val) : String :=
  rt.sha256 (stableStringify value)

/-- `String(value || "")`. -/
def textOf (value : Val) : Except Val String :=
  (value.or (.str "")).toStr

/-- `String(value || "").trim()`. -/
def trimmedTextOf (value : Val) : Except Val String := do
  let text ← textOf value
  .ok (trim text)

/-- `text ? text : null`. -/
def optionVal : Option String → Val
  | some text => .str text
  | none => .null

/-! ## Principals -/

inductive PrincipalType
  | user | agent | service | group
deriving DecidableEq, Repr

def PrincipalType.text : PrincipalType → String
  | .user => "user"
  | .agent => "agent"
  | .service => "service"
  | .group => "group"

def PrincipalType.ofText : String → Option PrincipalType
  | "user" => some .user
  | "agent" => some .agent
  | "service" => some .service
  | "group" => some .group
  | _ => none

structure Principal where
  type : PrincipalType
  id : String
deriving DecidableEq, Repr

def Principal.toVal (principal : Principal) : Val :=
  .obj [("type", .str principal.type.text), ("id", .str principal.id)]

/-- A principal given by its caller, or by the input, or the default. -/
def principalOf (given input : Val) (message : String) : Except Val Principal := do
  let type ← (((given.member "type").or (input.member "type")).or (.str "service")).toStr
  let id ← trimmedTextOf ((given.member "id").or (input.member "id"))
  match PrincipalType.ofText (toLowerCase (trim type)) with
  | none => .error (serviceError 400 "principal_invalid" message (.arr []))
  | some type => do
    rejectIf (id = "") (serviceError 400 "principal_invalid" message (.arr []))
    .ok ⟨type, id⟩

/-! ## Requests on a dimension -/

structure DimensionRequest where
  dimension : String
  resourceType : String
  resourceRef : String
  operation : String
  capabilityKey : Option String
deriving DecidableEq

def DimensionRequest.toVal (request : DimensionRequest) : Val :=
  .obj [("dimension", .str request.dimension), ("resourceType", .str request.resourceType),
    ("resourceRef", .str request.resourceRef),
    ("operation", .str request.operation),
    ("capabilityKey", optionVal request.capabilityKey)]

end GrowthOs.Containers
