import GrowthOs.Js.Text
import GrowthOs.Support.Throwing
import GrowthOs.Support.UniqueTable
import Mathlib.Data.List.Sort

/-!
# Repository operation leases

`repositoryOperationLeaseService.js` over the table
`repository_operation_leases`: a run that wants to mutate a branch takes an
exclusive lease on it, renews and releases it, and every mutation asserts that
its run holds the lease.  Expiry is lazy: a lease past its `expires_at` stays
`active` until some statement marks it.

Strings are compared by the database through the collation of the table, here
an arbitrary `collate`: two strings are equal in SQL when their collation keys
are.  The service itself compares with `===`.
-/

namespace GrowthOs.RepositoryLease

open Js Table
open Throwing (rejectIf)

def leaseError (code message : String) (status : Nat) (details : List (String × Val)) : Val :=
  .obj [("message", .str message), ("code", .str code),
    ("status", .num (.ofNat status)),
    ("details", .obj (Val.setField details "secrets_included" (.bool false)))]

/-! ## Validation of the arguments -/

def protectedBranches : List String :=
  ["main", "master", "production", "prod", "staging", "release"]

def defaultTtlSeconds : Int := 900
def minTtlSeconds : Int := 30
def maxTtlSeconds : Int := 3600

def invalidInput (field message : String) (details : List (String × Val)) : Val :=
  leaseError "repository_operation_lease_invalid_input" message 400
    (("field", .str field) :: details)

/-- `String(value ?? "").trim()`. -/
def trimmedText (value : Val) : Except Val String := do
  let text ← (value.coalesce (.str "")).toStr
  .ok (trim text)

/-- `requiredString(value, field, { max, pattern })`; the minimal length is 1
everywhere. -/
def requiredString (value : Val) (field : String) (max : Nat)
    (pattern : String → Bool) : Except Val String := do
  let normalized ← trimmedText value
  rejectIf (utf16Length normalized < 1 ∨ max < utf16Length normalized ∨
      pattern normalized = false)
    (invalidInput field (field ++ " is invalid.") [])
  .ok normalized

/-- The pattern of a field that has none. -/
def anyText : String → Bool := fun _ => true

/-- `/^[A-Za-z0-9_.-]+$/`. -/
def repositoryPattern : String → Bool :=
  matchesAll fun c => isAsciiAlnum c || c == '_' || c == '.' || c == '-'

/-- `/^[A-Za-z0-9._:-]+$/`. -/
def identifierPattern : String → Bool :=
  matchesAll fun c =>
    isAsciiAlnum c || c == '.' || c == '_' || c == ':' || c == '-'

def boundedInteger (value : Val) (fallback min max : Int) (field : String) :
    Except Val Int := do
  let numeric ←
    match value with
    | .undefined => .ok (.finite (.ofInt fallback))
    | .null => .ok (.finite (.ofInt fallback))
    | .str "" => .ok (.finite (.ofInt fallback))
    | value => value.toNumber
  let refusal := invalidInput field
    (field ++ " must be an integer between " ++ toString min ++ " and " ++
      toString max ++ ".")
    [("min", .num (.finite (.ofInt min))), ("max", .num (.finite (.ofInt max)))]
  match integerOf numeric with
  | none => .error refusal
  | some n => do
    rejectIf (n < min ∨ max < n) refusal
    .ok n

/-- `/[\x00-\x20~^:?*[\]\\]/`, on one character. -/
def forbiddenInBranch (c : Char) : Bool :=
  c.toNat ≤ 0x20 || c == '~' || c == '^' || c == ':' || c == '?' || c == '*' ||
    c == '[' || c == ']' || c == '\\'

def isProtectedBranch (branch : String) : Bool :=
  protectedBranches.contains (toLowerCase branch)

def isMalformedBranch (branch : String) : Bool :=
  startsWith branch "/" || endsWith branch "/" || endsWith branch "." ||
    endsWith branch ".lock" || includes branch ".." ||
    includes branch "@\x7b" || branch.toList.any forbiddenInBranch

def validateBranchName (value : Val) : Except Val String := do
  let branch ← requiredString value "branch_name" 255 anyText
  rejectIf (isProtectedBranch branch)
    (leaseError "repository_operation_lease_protected_branch"
      "Repository operation leases cannot target a protected/default branch."
      403 [("branch_name", .str branch)])
  rejectIf (isMalformedBranch branch)
    (leaseError "repository_operation_lease_invalid_branch"
      "branch_name is not a valid governed Git branch name."
      400 [("branch_name", .str branch)])
  .ok branch

def repositoryOperationLeaseResourceKey (args : Val) : Except Val String := do
  let owner ← requiredString (args.member "repository_owner")
    "repository_owner" 100 repositoryPattern
  let repo ← requiredString (args.member "repository_name")
    "repository_name" 100 repositoryPattern
  let branch ← validateBranchName (args.member "branch_name")
  .ok ("github://" ++ owner ++ "/" ++ repo ++ "/branch/" ++ branch)

/-- `LEASE_MODE`, the only value of the column. -/
inductive LeaseMode
  | exclusiveMutation
deriving DecidableEq, Repr

def LeaseMode.text : LeaseMode → String
  | .exclusiveMutation => "exclusive_mutation"

/-- What a lease is for and who holds it. -/
structure LeaseIdentity where
  repositoryOwner : String
  repositoryName : String
  branchName : String
  resourceKey : String
  operationKey : String
  operationFingerprint : String
  resourceFingerprint : String
  holderRunId : String
  holderActorType : String
  holderActorId : Option String
  leaseMode : LeaseMode

structure LeaseInput extends LeaseIdentity where
  ttlSeconds : Nat

/-- `sha256(value)` of an object. -/
def sha256Of (rt : Runtime) (fields : List (String × Val)) : String :=
  rt.sha256 ((jsonStringify (.obj fields)).getD "")

/-- `String(value || "").trim()`. -/
def optionalText (value : Val) : Except Val String := do
  let text ← (value.or (.str "")).toStr
  .ok (trim text)

/-- `String(value || "").trim() || null`, if it is an identifier. -/
def normalizeHolderActorId (value : Val) : Except Val (Option String) := do
  let text ← optionalText value
  if text = "" then .ok none
  else do
    rejectIf (64 < utf16Length text ∨ identifierPattern text = false)
      (invalidInput "holder_actor_id" "holder_actor_id is invalid." [])
    .ok (some text)

/-- The fingerprint given, or the digest of the operation and its run. -/
def normalizeOperationFingerprint (rt : Runtime) (value : Val) (operationKey holderRunId : String) :
    Except Val String := do
  let given ← optionalText value
  let fingerprint :=
    if toLowerCase given = "" then
      sha256Of rt [("operation_key", .str operationKey),
        ("holder_run_id", .str holderRunId)]
    else toLowerCase given
  rejectIf (isSha256 fingerprint = false)
    (leaseError "repository_operation_lease_invalid_fingerprint"
      "operation_fingerprint must be a SHA-256 hash." 400
      [("field", .str "operation_fingerprint")])
  .ok fingerprint

def normalizeRepositoryOperationLeaseInput (rt : Runtime) (args : Val) : Except Val LeaseInput := do
  let repositoryOwner ← requiredString (args.member "repository_owner")
    "repository_owner" 100 repositoryPattern
  let repositoryName ← requiredString (args.member "repository_name")
    "repository_name" 100 repositoryPattern
  let branchName ← validateBranchName (args.member "branch_name")
  let operationKey ← requiredString (args.member "operation_key")
    "operation_key" 128 identifierPattern
  let holderRunId ← requiredString (args.member "holder_run_id")
    "holder_run_id" 64 identifierPattern
  let holderActorType ← requiredString
    ((args.member "holder_actor_type").or (.str "platform_orchestrator"))
    "holder_actor_type" 64 identifierPattern
  let holderActorId ← normalizeHolderActorId (args.member "holder_actor_id")
  let operationFingerprint ← normalizeOperationFingerprint rt
    (args.member "operation_fingerprint") operationKey holderRunId
  let ttlSeconds ← boundedInteger (args.member "ttl_seconds")
    defaultTtlSeconds minTtlSeconds maxTtlSeconds "ttl_seconds"
  let resourceKey ← repositoryOperationLeaseResourceKey
    (.obj [("repository_owner", .str repositoryOwner),
      ("repository_name", .str repositoryName),
      ("branch_name", .str branchName)])
  let resourceFingerprint := sha256Of rt
    [("resource_key", .str resourceKey), ("operation_key", .str operationKey),
      ("operation_fingerprint", .str operationFingerprint),
      ("holder_run_id", .str holderRunId),
      ("holder_actor_type", .str holderActorType),
      ("holder_actor_id", textOrNull (holderActorId.getD ""))]
  .ok
    { repositoryOwner, repositoryName, branchName, resourceKey, operationKey
      operationFingerprint, resourceFingerprint, holderRunId, holderActorType
      holderActorId
      leaseMode := .exclusiveMutation
      ttlSeconds := ttlSeconds.toNat }

/-! ## The table -/

inductive LeaseStatus
  | active | released | expired
deriving DecidableEq, Repr

def LeaseStatus.text : LeaseStatus → String
  | .active => "active"
  | .released => "released"
  | .expired => "expired"

/-- A row of `repository_operation_leases`; time stamps are seconds of the
database clock. -/
structure LeaseRow extends LeaseIdentity where
  leaseId : String
  status : LeaseStatus
  acquiredAt : Nat
  renewedAt : Option Nat
  expiresAt : Nat
  releasedAt : Option Nat
  releaseReason : Option String

/-- The generated column `active_resource_key`. -/
def LeaseRow.activeResourceKey (row : LeaseRow) : Option String :=
  if row.status = .active then some row.resourceKey else none

/-- The primary key and `uq_repository_operation_leases_active_resource`. -/
def leaseKeys (collate : String → String) : List (LeaseRow → Option String) :=
  [fun row => some (collate row.leaseId),
    fun row => row.activeResourceKey.map collate]

/-- The table and the database clock. -/
structure LeaseStore (collate : String → String) where
  leases : UniqueTable (leaseKeys collate)
  now : Nat

variable {collate : String → String} (rt : Runtime)

def timeVal : Option Nat → Val
  | some t => .num (.ofNat t)
  | none => .null

def publicLease : Option LeaseRow → Val
  | none => .null
  | some row =>
    .obj [("lease_id", textOrNull row.leaseId),
      ("repository_owner", textOrNull row.repositoryOwner),
      ("repository_name", textOrNull row.repositoryName),
      ("branch_name", textOrNull row.branchName),
      ("resource_key", textOrNull row.resourceKey),
      ("operation_key", textOrNull row.operationKey),
      ("operation_fingerprint", textOrNull row.operationFingerprint),
      ("resource_fingerprint", textOrNull row.resourceFingerprint),
      ("holder_run_id", textOrNull row.holderRunId),
      ("holder_actor_type", textOrNull row.holderActorType),
      ("holder_actor_id", textOrNull (row.holderActorId.getD "")),
      ("lease_mode", .str row.leaseMode.text),
      ("status", .str row.status.text),
      ("acquired_at", timeVal (some row.acquiredAt)),
      ("renewed_at", timeVal row.renewedAt),
      ("expires_at", timeVal (some row.expiresAt)),
      ("released_at", timeVal row.releasedAt),
      ("release_reason", textOrNull (row.releaseReason.getD "")),
      ("secrets_included", .bool false)]

/-- What a successful call returns, beside `ok` and `secrets_included`. -/
structure LeaseReply where
  classification : String
  reused : Option Bool
  lease : Val

variable (s : LeaseStore collate)

def readLeaseById (leaseId : String) : Option LeaseRow :=
  s.leases.rows.find? fun row => collate row.leaseId == collate leaseId

/-- `status='active' AND expires_at<=CURRENT_TIMESTAMP`. -/
def LeaseRow.stale (now : Nat) (row : LeaseRow) : Bool :=
  row.status == .active && decide (row.expiresAt ≤ now)

def LeaseRow.expire (row : LeaseRow) : LeaseRow :=
  { row with status := .expired }

def LeaseRow.extend (now ttl : Nat) (row : LeaseRow) : LeaseRow :=
  { row with renewedAt := some now, expiresAt := now + ttl }

def LeaseRow.release (now : Nat) (reason : String) (row : LeaseRow) : LeaseRow :=
  { row with
    status := .released
    releasedAt := some now
    releaseReason := some reason }

/-- An update that leaves the identity of a lease alone and does not activate
it takes no key. -/
theorem narrows_of_status {row row' : LeaseRow} (hid : row'.leaseId = row.leaseId)
    (hkey : row'.resourceKey = row.resourceKey)
    (hstatus : row'.status = row.status ∨ row'.status ≠ .active) :
    Narrows (leaseKeys collate) row row' := by
  intro key hmem
  simp only [leaseKeys, List.mem_cons, List.not_mem_nil, or_false] at hmem
  obtain rfl | rfl := hmem
  · left
    simp only [hid]
  · obtain hsame | hinactive := hstatus
    · left
      simp only [LeaseRow.activeResourceKey, hsame, hkey]
    · right
      simp only [LeaseRow.activeResourceKey, if_neg hinactive, Option.map_none]

theorem narrows_expire (row : LeaseRow) : Narrows (leaseKeys collate) row row.expire :=
  narrows_of_status rfl rfl (.inr (by simp [LeaseRow.expire]))

theorem narrows_extend (now ttl : Nat) (row : LeaseRow) :
    Narrows (leaseKeys collate) row (row.extend now ttl) :=
  narrows_of_status rfl rfl (.inl rfl)

theorem narrows_release (now : Nat) (reason : String) (row : LeaseRow) :
    Narrows (leaseKeys collate) row (row.release now reason) :=
  narrows_of_status rfl rfl (.inr (by simp [LeaseRow.release]))

/-- Expire the stale leases among those `p` selects. -/
def LeaseStore.expireWhere (p : LeaseRow → Bool) : LeaseStore collate :=
  { s with
    leases := s.leases.update (fun row => p row && row.stale s.now)
      LeaseRow.expire narrows_expire }

/-- `UPDATE ... SET f WHERE lease_id=? AND status='active'`. -/
def LeaseStore.updateActive (leaseId : String) (f : LeaseRow → LeaseRow)
    (hf : ∀ row, Narrows (leaseKeys collate) row (f row)) : LeaseStore collate :=
  { s with
    leases := s.leases.update
      (fun row => collate row.leaseId == collate leaseId &&
        row.status == .active) f hf }

def markExpiredForResource (resourceKey : String) : LeaseStore collate :=
  s.expireWhere fun row => collate row.resourceKey == collate resourceKey

/-- The `SELECT ... LIMIT 1` of the active lease of a resource. -/
def activeLease (resourceKey : String) : Option LeaseRow :=
  s.leases.rows.find? fun row =>
    collate row.resourceKey == collate resourceKey && row.status == .active

/-! ## Acquisition -/

variable (input : LeaseInput)

/-- The row of a new lease. -/
def newLease (leaseId : String) (now : Nat) : LeaseRow :=
  { toLeaseIdentity := input.toLeaseIdentity
    leaseId
    status := .active
    acquiredAt := now
    renewedAt := none
    expiresAt := now + input.ttlSeconds
    releasedAt := none
    releaseReason := none }

def conflictWith (existing : LeaseRow) : Val :=
  leaseError "repository_operation_lease_conflict"
    "Another repository operation holds an active lease for this branch." 409
    [("resource_key", .str input.resourceKey),
      ("active_lease_id", .str existing.leaseId),
      ("active_operation_key", .str existing.operationKey),
      ("active_holder_run_id", .str existing.holderRunId),
      ("expires_at", timeVal (some existing.expiresAt))]

/-- The branch with an active lease: its own holder renews it. -/
def reuseLease (existing : LeaseRow) (s : LeaseStore collate) :
    Except Val (LeaseReply × LeaseStore collate) := do
  rejectIf (existing.holderRunId ≠ input.holderRunId ∨
      existing.resourceFingerprint ≠ input.resourceFingerprint)
    (conflictWith input existing)
  let s := s.updateActive existing.leaseId
    (LeaseRow.extend s.now input.ttlSeconds) (narrows_extend _ _)
  .ok (⟨"repository_operation_lease_reused", some true,
    publicLease (readLeaseById s existing.leaseId)⟩, s)

/-- Whether a lease reads back as it was created. -/
def readsBack (created : Option LeaseRow) (input : LeaseInput) : Bool :=
  match created with
  | none => false
  | some row => row.status == .active &&
      row.resourceFingerprint == input.resourceFingerprint

/-- The branch without one. -/
def createLease (leaseId : String) (s : LeaseStore collate) :
    Except Val (LeaseReply × LeaseStore collate) :=
  match s.leases.insert (newLease input leaseId s.now) with
  | none =>
    .error (leaseError "repository_operation_lease_conflict"
      "A concurrent repository operation acquired the branch lease." 409
      [("resource_key", .str input.resourceKey)])
  | some leases => do
    let s := { s with leases }
    let created := readLeaseById s leaseId
    rejectIf (readsBack created input = false)
      (leaseError "repository_operation_lease_readback_failed"
        "Repository operation lease creation could not be verified." 500
        [("lease_id", .str leaseId), ("resource_key", .str input.resourceKey)])
    .ok (⟨"repository_operation_lease_acquired", some false,
      publicLease created⟩, s)

/-- `acquireRepositoryOperationLease(args)`; `leaseId` is the identifier drawn
for a new lease. -/
def acquireRepositoryOperationLease (args : Val) (leaseId : String) (s : LeaseStore collate) :
    Except Val (LeaseReply × LeaseStore collate) := do
  let input ← normalizeRepositoryOperationLeaseInput rt args
  let s := markExpiredForResource s input.resourceKey
  match activeLease s input.resourceKey with
  | some existing => reuseLease input existing s
  | none => createLease input leaseId s

/-! ## Ownership -/

def assertLeaseOwnership (row : Option LeaseRow)
    (holderRunId expectedFingerprint : String) : Except Val LeaseRow :=
  match row with
  | none =>
    .error (leaseError "repository_operation_lease_not_found"
      "Repository operation lease was not found." 404 [])
  | some row => do
    rejectIf (row.holderRunId ≠ holderRunId)
      (leaseError "repository_operation_lease_holder_mismatch"
        "Repository operation lease belongs to another run." 409
        [("lease_id", .str row.leaseId),
          ("holder_run_id", .str row.holderRunId)])
    rejectIf (expectedFingerprint ≠ "" ∧
        row.resourceFingerprint ≠ expectedFingerprint)
      (leaseError "repository_operation_lease_fingerprint_mismatch"
        "Repository operation lease fingerprint does not match the expected operation."
        409 [("lease_id", .str row.leaseId)])
    .ok row

/-- The `lease_id` and `holder_run_id` every call on a lease carries. -/
def leaseIdOf (args : Val) : Except Val String :=
  requiredString (args.member "lease_id") "lease_id" 64 anyText

def holderRunIdOf (args : Val) : Except Val String :=
  requiredString (args.member "holder_run_id") "holder_run_id" 64 anyText

/-- `String(args.resource_fingerprint || "").trim().toLowerCase()`. -/
def expectedFingerprintOf (args : Val) : Except Val String := do
  let text ← optionalText (args.member "resource_fingerprint")
  .ok (toLowerCase text)

/-- `status='active' AND expires_at>CURRENT_TIMESTAMP`. -/
def LeaseRow.live (now : Nat) (row : LeaseRow) : Bool :=
  row.status == .active && decide (now < row.expiresAt)

/-- What `assertRepositoryOperationLeaseHolder` throws without a live lease. -/
def notLive (any : Option LeaseRow) (leaseId holderRunId fingerprint : String) : Val :=
  let expired := any.filter fun row => row.status == .active
  match expired, assertLeaseOwnership any holderRunId fingerprint with
  | some row, _ =>
    leaseError "repository_operation_lease_expired"
      "Repository operation lease has expired." 409
      [("lease_id", .str leaseId), ("expires_at", timeVal (some row.expiresAt))]
  | none, .error e => e
  | none, .ok row =>
    leaseError "repository_operation_lease_not_active"
      "Repository operation lease is not active." 409
      [("lease_id", .str leaseId), ("status", .str row.status.text)]

def assertRepositoryOperationLeaseHolder (args : Val) (s : LeaseStore collate) :
    Except Val LeaseReply := do
  let leaseId ← leaseIdOf args
  let holderRunId ← holderRunIdOf args
  let fingerprint ← expectedFingerprintOf args
  rejectIf (fingerprint ≠ "" ∧ isSha256 fingerprint = false)
    (leaseError "repository_operation_lease_invalid_fingerprint"
      "resource_fingerprint must be a SHA-256 hash." 400 [])
  let active := s.leases.rows.find? fun row =>
    collate row.leaseId == collate leaseId && row.live s.now
  match active with
  | none =>
    .error (notLive (readLeaseById s leaseId) leaseId holderRunId fingerprint)
  | some row => do
    let row ← assertLeaseOwnership (some row) holderRunId fingerprint
    .ok ⟨"repository_operation_lease_holder_verified", none,
      publicLease (some row)⟩

/-! ## Renewal, release and expiry -/

/-- `renewRepositoryOperationLease(args)`.  A refusal rolls the expiry mark
back with the rest of the transaction. -/
def renewRepositoryOperationLease (args : Val) (s : LeaseStore collate) :
    Except Val (LeaseReply × LeaseStore collate) := do
  let leaseId ← leaseIdOf args
  let holderRunId ← holderRunIdOf args
  let ttlSeconds ← boundedInteger (args.member "ttl_seconds")
    defaultTtlSeconds minTtlSeconds maxTtlSeconds "ttl_seconds"
  let s := s.expireWhere fun row => collate row.leaseId == collate leaseId
  let fingerprint ← expectedFingerprintOf args
  let row ← assertLeaseOwnership (readLeaseById s leaseId) holderRunId
    fingerprint
  rejectIf (row.status ≠ .active)
    (leaseError
      (if row.status = .expired then "repository_operation_lease_expired"
      else "repository_operation_lease_not_active")
      "Repository operation lease cannot be renewed because it is not active."
      409 [("lease_id", .str leaseId), ("status", .str row.status.text)])
  let s := s.updateActive leaseId (LeaseRow.extend s.now ttlSeconds.toNat)
    (narrows_extend _ _)
  .ok (⟨"repository_operation_lease_renewed", none,
    publicLease (readLeaseById s leaseId)⟩, s)

/-- `String(args.release_reason || "operation_complete").trim().slice(0, 500)`,
and the default again if nothing is left. -/
def releaseReasonOf (args : Val) : Except Val String := do
  let text ← ((args.member "release_reason").or
    (.str "operation_complete")).toStr
  let reason := String.ofList ((trimChars text.toList).take 500)
  .ok (if reason = "" then "operation_complete" else reason)

/-- `released && released.status === "released"`. -/
def isReleased : Option LeaseRow → Bool
  | some row => row.status == .released
  | none => false

def releaseRepositoryOperationLease (args : Val) (s : LeaseStore collate) :
    Except Val (LeaseReply × LeaseStore collate) := do
  let leaseId ← leaseIdOf args
  let holderRunId ← holderRunIdOf args
  let reason ← releaseReasonOf args
  let fingerprint ← expectedFingerprintOf args
  let row ← assertLeaseOwnership (readLeaseById s leaseId) holderRunId
    fingerprint
  if row.status ≠ .active then
    .ok (⟨"repository_operation_lease_already_inactive", some true,
      publicLease (some row)⟩, s)
  else do
    let s := s.updateActive leaseId (LeaseRow.release s.now reason)
      (narrows_release _ _)
    let released := readLeaseById s leaseId
    rejectIf (isReleased released = false)
      (leaseError "repository_operation_lease_release_readback_failed"
        "Repository operation lease release could not be verified." 500
        [("lease_id", .str leaseId)])
    .ok (⟨"repository_operation_lease_released", some false,
      publicLease released⟩, s)

/-- The leases `ORDER BY expires_at ASC LIMIT limit` visits.  Leases with the
same expiry come in an order of the database's choice, here by `rank`. -/
def staleLeases (rank : LeaseRow → Nat) (limit : Nat) : List LeaseRow :=
  ((s.leases.rows.filter (LeaseRow.stale s.now)).insertionSort fun a b =>
    a.expiresAt < b.expiresAt ||
      (a.expiresAt == b.expiresAt && decide (rank a ≤ rank b))).take limit

/-- `expireStaleRepositoryOperationLeases(args)`, with the number of leases
expired and the limit. -/
def expireStaleRepositoryOperationLeases (args : Val) (rank : LeaseRow → Nat)
    (s : LeaseStore collate) :
    Except Val ((Nat × Nat) × LeaseStore collate) := do
  let limit ← boundedInteger (args.member "limit") 100 1 500 "limit"
  let chosen := staleLeases s rank limit.toNat
  let s := s.expireWhere fun row =>
    chosen.any fun other => other.leaseId == row.leaseId
  .ok ((chosen.length, limit.toNat), s)

/-! ## The system -/

/-- One transaction of any run against the table, or time passing. -/
inductive LeaseOp
  | acquire (args : Val) (leaseId : String)
  | renew (args : Val)
  | release (args : Val)
  | expireStale (args : Val) (rank : LeaseRow → Nat)
  | tick (seconds : Nat)

/-- The store a call leaves behind: a call that throws changes nothing. -/
def settle {ρ : Type} (s : LeaseStore collate)
    (outcome : Except Val (ρ × LeaseStore collate)) : LeaseStore collate :=
  match outcome with
  | .ok (_, s') => s'
  | .error _ => s

def LeaseOp.apply : LeaseOp → LeaseStore collate
  | .acquire args leaseId =>
    settle s (acquireRepositoryOperationLease rt args leaseId s)
  | .renew args => settle s (renewRepositoryOperationLease args s)
  | .release args => settle s (releaseRepositoryOperationLease args s)
  | .expireStale args rank =>
    settle s (expireStaleRepositoryOperationLeases args rank s)
  | .tick seconds => { s with now := s.now + seconds }

/-- One step of the system: any call, by anyone, at any time. -/
def LeaseStep (op : LeaseOp) (s' : LeaseStore collate) : Prop :=
  s' = op.apply rt s

end GrowthOs.RepositoryLease
