import GrowthOs.Js.Text
import GrowthOs.Support.Regexp
import GrowthOs.Support.Throwing

/-!
# Control-plane documents

The helpers every part of `domain/growthControlPlane` shares: its error, the
canonical serialisation of a document and its digest, canonical keys, and the
check that a document has no field that looks like a secret.
-/

namespace GrowthOs.GrowthControl

open Js Throwing

/-- `new GrowthControlPlaneError(code, message, status, details)`. -/
def planeError (code message : String) (status : Nat) (details : List Val) : Val :=
  .obj [("name", .str "GrowthControlPlaneError"), ("message", .str message),
    ("code", .str code), ("status", .num (.ofNat status)), ("details", .arr details)]

/-- `{ field, issue }`. -/
def issueAt (field issue : String) : Val :=
  .obj [("field", .str field), ("issue", .str issue)]

/-- `String(value ?? "")`. -/
def textOf (value : Val) : Except Val String :=
  (value.coalesce (.str "")).toStr

def clean (value : Val) : Except Val (Option String) := do
  let text ← textOf value
  .ok (if trim text = "" then none else some (trim text))

def optionText : Option String → Val
  | some text => .str text
  | none => .null

/-! ## Canonical documents -/

mutual

/-- `canonicalize(value)`.  Assigning to `__proto__` sets the prototype of the
copy and leaves no field. -/
def canonicalize : Val → Val
  | .arr elems => .arr (canonicalizeElems elems)
  | .obj fields => .obj (canonicalizeFields fields)
  | v => v

def canonicalizeElems : List Val → List Val
  | [] => []
  | v :: rest => canonicalize v :: canonicalizeElems rest

def canonicalizeFields : List (String × Val) → List (String × Val)
  | [] => []
  | (key, v) :: rest =>
    if key = "__proto__" then canonicalizeFields rest
    else insertField (key, canonicalize v) (canonicalizeFields rest)

end

/-- `stableSerialize(value)`; `JSON.stringify(undefined)` is `undefined`. -/
def stableSerialize (value : Val) : Option String :=
  jsonStringify (canonicalize value)

/-- `stableSha256(value)`.  No caller hands over `undefined`, which the digest
would refuse. -/
def stableSha256 (rt : Runtime) (value : Val) : String :=
  rt.sha256 ((stableSerialize value).getD "undefined")

/-! ## Keys -/

def isKeyStart (c : Char) : Bool :=
  'a' ≤ c && c ≤ 'z'

def isKeyChar (c : Char) : Bool :=
  isKeyStart c || ('0' ≤ c && c ≤ '9') || c == '_' || c == '.' || c == '-'

/-- `/^[a-z][a-z0-9_.-]{2,max}$/`. -/
def isKeyUpTo (max : Nat) (text : String) : Bool :=
  match text.toList with
  | [] => false
  | c :: rest => isKeyStart c && rest.all isKeyChar && 2 ≤ rest.length && rest.length ≤ max

/-- `CANONICAL_KEY.test(text)`. -/
def isCanonicalKey (text : String) : Bool :=
  isKeyUpTo 127 text

def requireCanonicalKey (value : Val) (field : String) : Except Val String := do
  let normalized ← clean value
  match normalized with
  | some text =>
    if isCanonicalKey text then .ok text
    else .error (planeError "GROWTH_CONTROL_CANONICAL_KEY_INVALID"
      (field ++ " must be a canonical lowercase key.") 422
      [issueAt field "invalid_canonical_key"])
  | none => .error (planeError "GROWTH_CONTROL_CANONICAL_KEY_INVALID"
      (field ++ " must be a canonical lowercase key.") 422
      [issueAt field "invalid_canonical_key"])

/-! ## Secrets -/

/-- Two characters that agree up to case, as `/i` compares them. -/
def sameIgnoringCase (a b : Char) : Bool :=
  lowerChar b == a

/-- The words of `SECRET_KEY`. -/
def secretWords : List String :=
  ["secret", "password", "token", "private_key", "client_secret", "refresh_token",
    "access_token", "api_key", "credential_payload"]

/-- `SECRET_KEY.test(key)`: one of the words, with an underscore or an end of
the key on both sides. -/
def isSecretKey (key : String) : Bool :=
  (Regexp.all [.one (· == '_'),
    .any (secretWords.map fun word => .word sameIgnoringCase word.toList),
    .one (· == '_')]).search ('_' :: key.toList ++ ['_'])

mutual

/-- The violations `visit(current, currentPath)` collects. -/
def secretViolations : Val → String → List Val
  | .arr elems, path => secretElems elems path 0
  | .obj fields, path => secretFields fields path
  | _, _ => []

def secretElems : List Val → String → Nat → List Val
  | [], _, _ => []
  | v :: rest, path, index =>
    secretViolations v (path ++ "[" ++ toString index ++ "]") ++ secretElems rest path (index + 1)

def secretFields : List (String × Val) → String → List Val
  | [], _ => []
  | (key, v) :: rest, path =>
    (if isSecretKey key then [issueAt (path ++ "." ++ key) "secret_field_forbidden"]
      else []) ++
      secretViolations v (path ++ "." ++ key) ++ secretFields rest path

end

def assertNoSecretFields (value : Val) (path : String) : Except Val Unit :=
  rejectIf ((secretViolations value path).isEmpty = false)
    (planeError "GROWTH_CONTROL_SECRET_FIELD_FORBIDDEN"
      "Control-plane documents cannot contain credential or secret fields." 422
      (secretViolations value path))

end GrowthOs.GrowthControl
