import GrowthOs.Containers.Override
import GrowthOs.Containers.Paths

/-!
# Transactions on the container tables

The rest of `dynamicContainerAuthorityRepository.js`: results kept under an
idempotency key, the authority epoch of a tenant, the closure table, and
`withContainerAuthorityMutation`, one transaction that changes them together.
What the transaction only logs is left out.
-/

namespace GrowthOs.Containers

open Js
open Throwing (rejectIf)

variable {sql : Sql} (s : AuthorityStore sql)

/-- An error of the database driver. -/
def sqlError (code : String) : Val :=
  .obj [("code", .str code)]

/-- A `DATETIME` parameter. -/
def datetimeColumn (sql : Sql) (value : Val) : Except Val (Option Nat) :=
  if value.isNullish then .ok none
  else do
    let t ← requireRow (sql.datetime value) (sqlError "ER_TRUNCATED_WRONG_VALUE")
    .ok (some t)

/-! ## Results under an idempotency key -/

def IdempotencyRow.hasKey (sql : Sql) (row : IdempotencyRow)
    (scopeKey idempotencyKey : String) : Bool :=
  sql.collate row.scopeKey == sql.collate scopeKey &&
    sql.collate row.idempotencyKey == sql.collate idempotencyKey

def readIdempotentResult (s : AuthorityStore sql)
    (scopeKey idempotencyKey : String) : Option IdempotencyRow :=
  s.idempotency.find? fun row =>
    row.hasKey sql scopeKey idempotencyKey && decide (s.now < row.expiresAt)

/-- `storeIdempotentResult({ … })`: a row with the key is overwritten. -/
def storeIdempotentResult (s : AuthorityStore sql)
    (scopeKey idempotencyKey requestSha256 resultType resultId : String)
    (response : Val) (ttlMinutes : Nat) : AuthorityStore sql :=
  let row : IdempotencyRow :=
    { scopeKey, idempotencyKey, requestSha256, resultType, resultId
      responseJson := json response
      expiresAt := s.now + max 1 (min 1440 ttlMinutes) * 60 }
  if s.idempotency.any fun other => other.hasKey sql scopeKey idempotencyKey then
    { s with
      idempotency := s.idempotency.map fun other =>
        if other.hasKey sql scopeKey idempotencyKey then
          { row with
            scopeKey := other.scopeKey
            idempotencyKey := other.idempotencyKey }
        else other }
  else { s with idempotency := s.idempotency ++ [row] }

/-- Keeping a result writes nothing else. -/
theorem storeIdempotentResult_eq
    (scopeKey idempotencyKey requestSha256 resultType resultId : String) (response : Val)
    (ttlMinutes : Nat) :
    ∃ idempotency, storeIdempotentResult s scopeKey idempotencyKey requestSha256
      resultType resultId response ttlMinutes = { s with idempotency } := by
  unfold storeIdempotentResult
  split
  next => exact ⟨_, rfl⟩
  next => exact ⟨_, rfl⟩

def idempotencyConflict : Val :=
  serviceError 409 "idempotency_key_conflict"
    "Idempotency key was already used with a different request." (.arr [])

def returnIdempotentOrConflict (s : AuthorityStore sql)
    (scopeKey idempotencyKey requestSha256 : String) : Except Val (Option Val) :=
  match readIdempotentResult s scopeKey idempotencyKey with
  | none => .ok none
  | some existing => do
    rejectIf (existing.requestSha256 ≠ requestSha256) idempotencyConflict
    .ok (if existing.responseJson.truthy then some existing.responseJson else none)

/-! ## One transaction -/

/-- `advanceAuthorityEpoch`, on the row that `lockAuthorityEpoch` locked or
inserted. -/
def advanceAuthorityEpoch (s : AuthorityStore sql) (tenantId : String)
    (nextEpoch : Nat) : AuthorityStore sql :=
  if s.epochs.any fun row => sql.collate row.tenantId == sql.collate tenantId then
    { s with
      epochs := s.epochs.map fun row =>
        if sql.collate row.tenantId == sql.collate tenantId then
          { row with authorityEpoch := nextEpoch }
        else row }
  else { s with epochs := s.epochs ++ [⟨tenantId, nextEpoch⟩] }

/-- The error of a closure that cannot be built. -/
def closureError (failure : PathFailure) : Val :=
  .obj [("message", .str "Container closure rebuild failed."),
    ("code", .str failure.code), ("status", .num (.ofNat 409)),
    ("details", .obj (failure.fields ++ [("rows", .arr [])]))]

def rebuildContainerClosure (rt : Runtime) (localeLe : String → String → Bool)
    (reg : Registry) (tenantId : String) (authorityEpoch : Nat)
    (s : AuthorityStore sql) : Except Val (Nat × AuthorityStore sql) :=
  match buildContainerClosureRows rt localeLe defaultLimits tenantId
    (loadedContainers sql reg tenantId) (loadedRelationships s tenantId)
    (reg.relationshipTypes.filter (·.status.isActive)) authorityEpoch with
  | .error failure => .error (closureError failure)
  | .ok rows =>
    let others := s.closure.filter fun row =>
      sql.collate row.tenantId != sql.collate tenantId
    .ok (rows.length, { s with closure := others ++ rows })

/-- What `withContainerAuthorityMutation` returns. -/
structure MutationOutcome where
  /-- The fields of `result`. -/
  result : List (String × Val)
  authorityEpoch : Nat
  closureRows : Option Nat

/-- `withContainerAuthorityMutation({ tenantId, rebuildClosure, work })`: what
`work`, the next epoch and the closure write is committed together, or
nothing is. -/
def withContainerAuthorityMutation (rt : Runtime)
    (localeLe : String → String → Bool) (reg : Registry) (tenantId : String) (rebuildClosure : Bool)
    (work : Nat → AuthorityStore sql → Except Val (List (String × Val) × AuthorityStore sql))
    (s : AuthorityStore sql) : Except Val (MutationOutcome × AuthorityStore sql) := do
  let currentEpoch := readContainerAuthorityEpoch s tenantId
  let (result, s) ← work currentEpoch s
  let s := advanceAuthorityEpoch s tenantId (currentEpoch + 1)
  if rebuildClosure then do
    let (count, s) ← rebuildContainerClosure rt localeLe reg tenantId (currentEpoch + 1) s
    .ok (⟨result, currentEpoch + 1, some count⟩, s)
  else .ok (⟨result, currentEpoch + 1, none⟩, s)

/-- The tables that only a `work` writes, and the clock, are the same. -/
structure AuthorityStore.SameRows (s s' : AuthorityStore sql) : Prop where
  relationships : s'.relationships = s.relationships
  roleAssignments : s'.roleAssignments = s.roleAssignments
  bindings : s'.bindings = s.bindings
  idempotency : s'.idempotency = s.idempotency
  now : s'.now = s.now

theorem sameRows_advanceAuthorityEpoch (tenantId : String) (nextEpoch : Nat) :
    s.SameRows (advanceAuthorityEpoch s tenantId nextEpoch) := by
  unfold advanceAuthorityEpoch
  split
  next => exact ⟨rfl, rfl, rfl, rfl, rfl⟩
  next => exact ⟨rfl, rfl, rfl, rfl, rfl⟩

variable {localeLe : String → String → Bool} {tenantId : String} {reg : Registry}

theorem sameRows_rebuildContainerClosure {rt : Runtime} {authorityEpoch count : Nat}
    {s s' : AuthorityStore sql}
    (h : rebuildContainerClosure rt localeLe reg tenantId authorityEpoch s = .ok (count, s')) :
    s.SameRows s' := by
  unfold rebuildContainerClosure at h
  split at h
  next => cases h
  next =>
    cases h
    exact ⟨rfl, rfl, rfl, rfl, rfl⟩

theorem AuthorityStore.SameRows.trans {s t u : AuthorityStore sql}
    (h : s.SameRows t) (h' : t.SameRows u) : s.SameRows u :=
  ⟨h'.relationships.trans h.relationships,
    h'.roleAssignments.trans h.roleAssignments, h'.bindings.trans h.bindings,
    h'.idempotency.trans h.idempotency, h'.now.trans h.now⟩

/-- A committed mutation leaves the rows that its `work` wrote, in the next
epoch of its tenant. -/
theorem withContainerAuthorityMutation_ok {rt : Runtime} {rebuildClosure : Bool}
    {work : Nat → AuthorityStore sql → Except Val (List (String × Val) × AuthorityStore sql)}
    {s s' : AuthorityStore sql} {outcome : MutationOutcome}
    (h : withContainerAuthorityMutation rt localeLe reg tenantId rebuildClosure
      work s = .ok (outcome, s')) :
    ∃ written, work (readContainerAuthorityEpoch s tenantId) s =
        .ok (outcome.result, written) ∧ written.SameRows s' ∧
      outcome.authorityEpoch = readContainerAuthorityEpoch s tenantId + 1 := by
  obtain ⟨⟨result, written⟩, hwork, h⟩ := Throwing.bind_eq_ok.mp h
  have hepoch := sameRows_advanceAuthorityEpoch written tenantId
    (readContainerAuthorityEpoch s tenantId + 1)
  dsimp only at h
  split at h
  next =>
    obtain ⟨⟨count, s''⟩, hclosure, h⟩ := Throwing.bind_eq_ok.mp h
    cases h
    exact ⟨written, hwork, hepoch.trans (sameRows_rebuildContainerClosure hclosure),
      rfl⟩
  next =>
    cases h
    exact ⟨written, hwork, hepoch, rfl⟩

end GrowthOs.Containers
