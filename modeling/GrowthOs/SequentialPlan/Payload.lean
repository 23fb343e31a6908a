import GrowthOs.Js.Json
import GrowthOs.Support.Throwing

/-!
# Secret-free payloads

The two traversals of `sequentialPlanOrchestrator.js` that keep secrets out of
stored plans: `assertSecretFreePayload` rejects a caller's payload and
`sanitizeSecretPayload` redacts an executor's.  Both stop looking below depth
ten.  The regular expressions ignore case, so they are matched on the lowered
text.
-/

namespace GrowthOs.SequentialPlan

open Js
open Throwing (rejectIf)

def validationError (message code : String) : Val :=
  .obj [("message", .str message), ("status", .num (.ofNat 400)), ("code", .str code)]

/-- The code of a validation error that names none. -/
def validationFailed : String := "sequential_plan_validation_failed"

/-! ## The patterns -/

/-- Match a literal at the start of a text. -/
def literalAt (lit : String) (cs : List Char) : Option (List Char) :=
  if lit.toList.isPrefixOf cs then some (cs.drop lit.length) else none

/-- `[_-]?`. -/
def skipSeparator : List Char → List Char
  | '_' :: cs => cs
  | '-' :: cs => cs
  | cs => cs

/-- `first[_-]?second`. -/
def joinedAt (first second : String) (cs : List Char) : Option (List Char) :=
  (literalAt first cs).bind fun rest => literalAt second (skipSeparator rest)

/-- A pattern without anchors matches at some position of the text. -/
def anywhere (p : List Char → Bool) : List Char → Bool
  | [] => p []
  | c :: cs => p (c :: cs) || anywhere p cs

def secretKeyAt (cs : List Char) : Bool :=
  [literalAt "secret" cs, literalAt "token" cs, literalAt "password" cs,
    literalAt "passwd" cs, literalAt "credential" cs,
    joinedAt "private" "key" cs, joinedAt "client" "secret" cs,
    joinedAt "api" "key" cs, literalAt "authorization" cs,
    literalAt "cookie" cs, literalAt "session" cs].any Option.isSome

/-- `SECRET_KEY_PATTERN.test(key)`. -/
def secretKey (key : String) : Bool :=
  anywhere secretKeyAt (key.toList.map lowerChar)

def bearerChar (c : Char) : Bool :=
  ('a' ≤ c && c ≤ 'z') || c.isDigit ||
    c == '.' || c == '_' || c == '~' || c == '+' || c == '-' || c == '/'

/-- The word `Bearer`, white space, and at least one character of a token. -/
def bearerAt (cs : List Char) : Bool :=
  match literalAt "bearer" cs with
  | some (space :: rest) =>
    isWhiteSpace space &&
      match rest.dropWhile isWhiteSpace with
      | c :: _ => bearerChar c
      | [] => false
  | _ => false

/-- A secret's name followed by `=([^&\s]+)`. -/
def assignmentAt (cs : List Char) : Bool :=
  [joinedAt "api" "key" cs, joinedAt "access" "token" cs,
    joinedAt "refresh" "token" cs, literalAt "password" cs,
    literalAt "secret" cs].any fun rest =>
      match rest with
      | some ('=' :: c :: _) => c != '&' && !isWhiteSpace c
      | _ => false

/-- `[A-Z ]*PRIVATE KEY-----`. -/
def privateKeyTail : List Char → Bool
  | [] => false
  | c :: cs =>
    (literalAt "private key-----" (c :: cs)).isSome ||
      ((('a' ≤ c && c ≤ 'z') || c == ' ') && privateKeyTail cs)

/-- `-----BEGIN [A-Z ]*PRIVATE KEY-----`. -/
def privateKeyAt (cs : List Char) : Bool :=
  match literalAt "-----begin " cs with
  | some rest => privateKeyTail rest
  | none => false

/-- `SECRET_VALUE_PATTERNS.some((pattern) => pattern.test(value))`. -/
def secretValue (value : String) : Bool :=
  let text := value.toList.map lowerChar
  anywhere bearerAt text || anywhere assignmentAt text || anywhere privateKeyAt text

/-! ## The traversals -/

/-- The depth below which neither traversal looks. -/
def maxPayloadDepth : Nat := 10

def secretPayloadRejected (what path : String) : Val :=
  validationError ("Secret-like " ++ what ++ " is not allowed at " ++ path ++ ".")
    "sequential_plan_secret_payload_rejected"

mutual

def assertSecretFreePayload : Val → String → Nat → Except Val Unit
  | .str s, path, depth =>
    if maxPayloadDepth < depth then .ok ()
    else if secretValue s then .error (secretPayloadRejected "value" path)
    else .ok ()
  | .arr elems, path, depth =>
    if maxPayloadDepth < depth then .ok ()
    else assertSecretFreeElements elems path 0 (depth + 1)
  | .obj fields, path, depth =>
    if maxPayloadDepth < depth then .ok ()
    else assertSecretFreeFields fields path (depth + 1)
  | _, _, _ => .ok ()

def assertSecretFreeElements : List Val → String → Nat → Nat → Except Val Unit
  | [], _, _, _ => .ok ()
  | v :: rest, path, index, depth => do
    assertSecretFreePayload v (path ++ "[" ++ Nat.repr index ++ "]") depth
    assertSecretFreeElements rest path (index + 1) depth

def assertSecretFreeFields : List (String × Val) → String → Nat → Except Val Unit
  | [], _, _ => .ok ()
  | (key, v) :: rest, path, depth => do
    rejectIf (secretKey key) (secretPayloadRejected "field" (path ++ "." ++ key))
    assertSecretFreePayload v (path ++ "." ++ key) depth
    assertSecretFreeFields rest path depth

end

mutual

def sanitizeSecretPayload : Val → Nat → Val
  | .str s, depth =>
    if maxPayloadDepth < depth then .str "[max-depth]"
    else if secretValue s then .str "[redacted]"
    else .str s
  | .arr elems, depth =>
    if maxPayloadDepth < depth then .str "[max-depth]"
    else .arr (sanitizeElements elems (depth + 1))
  | .obj fields, depth =>
    if maxPayloadDepth < depth then .str "[max-depth]"
    else .obj (sanitizeFields fields (depth + 1))
  | v, depth => if maxPayloadDepth < depth then .str "[max-depth]" else v

def sanitizeElements : List Val → Nat → List Val
  | [], _ => []
  | v :: rest, depth =>
    sanitizeSecretPayload v depth :: sanitizeElements rest depth

def sanitizeFields : List (String × Val) → Nat → List (String × Val)
  | [], _ => []
  | (key, v) :: rest, depth =>
    let safe :=
      if secretKey key then .str "[redacted]"
      else sanitizeSecretPayload v depth
    -- An assignment to `__proto__` stores no field.
    if key = "__proto__" then sanitizeFields rest depth
    else (key, safe) :: sanitizeFields rest depth

end

end GrowthOs.SequentialPlan
