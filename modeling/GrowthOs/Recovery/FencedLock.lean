import GrowthOs.Recovery.ControlStore
import GrowthOs.Support.Transition
import Mathlib.Data.List.Nodup

/-!
# The fenced recovery lock

`createFencedLock` of `productionRecoveryControlStore.js` over the table
`recovery_control_locks`.  A holder acquires a target under a new lease and fencing
token, renews it by heartbeats, asserts it before every consequential call and
releases it.  Expiry is lazy: a row keeps its lease until someone takes it over.

The database compares target keys through a collation, here an arbitrary `collate`;
lease ids and tokens are compared by the code with `===`.  A transaction that finds
the row of its target holds the lock on it and is atomic.  One that finds no row
holds nothing: another call may come between its `SELECT` and its `INSERT`, which
then fails on the primary key.  Every statement reads the clock of the database, so
every call brings the readings it made, in microseconds.
-/

namespace GrowthOs.Recovery

open Js Throwing List

/-! ## Numbers -/

/-- The double closest to an integer, ties to even. -/
def nearestDouble (n : Nat) : Nat :=
  let unit := 2 ^ (n.log2 - 52)
  let below := n / unit
  let rest := n % unit
  if 2 * rest < unit ∨ 2 * rest = unit ∧ below % 2 = 0 then below * unit
  else (below + 1) * unit

/-- `Number(current.fence_counter) + 1`. -/
def nextCounter (counter : Nat) : Nat :=
  nearestDouble (nearestDouble counter + 1)

variable {n : Nat}

theorem nearestDouble_of_lt (h : n < 2 ^ 53) : nearestDouble n = n := by
  have hlog : n.log2 - 52 = 0 := by
    by_cases hn : n = 0
    · subst hn
      rfl
    · have := (Nat.log2_lt hn).mpr h
      omega
  unfold nearestDouble
  simp [hlog, Nat.mod_one]

theorem nextCounter_of_lt (h : n < 2 ^ 53) : nextCounter n = n + 1 := by
  rw [nextCounter, nearestDouble_of_lt h]
  obtain hlt | heq : n + 1 < 2 ^ 53 ∨ n + 1 = 2 ^ 53 := by omega
  · exact nearestDouble_of_lt hlt
  · rw [heq]
    decide

/-- Beyond `2 ^ 53` a double no longer tells a number from its successor. -/
theorem nextCounter_stops : nextCounter (2 ^ 53) = 2 ^ 53 := by
  decide

theorem le_nextCounter (h : n ≤ 2 ^ 53) : n ≤ nextCounter n := by
  obtain hlt | rfl := Nat.lt_or_eq_of_le h
  · rw [nextCounter_of_lt hlt]
    omega
  · exact Nat.le_of_eq nextCounter_stops.symm

theorem nextCounter_le (h : n ≤ 2 ^ 53) : nextCounter n ≤ 2 ^ 53 := by
  obtain hlt | rfl := Nat.lt_or_eq_of_le h
  · rw [nextCounter_of_lt hlt]
    omega
  · exact Nat.le_of_eq nextCounter_stops

/-! ## Rows and calls -/

/-- A row of `recovery_control_locks`. -/
structure LockRow where
  targetKey : String
  fenceCounter : Nat
  leaseId : Option String
  fencingToken : Option String
  planHash : Option String
  expiresAt : Option Nat
deriving DecidableEq, Repr

/-- The rows by the collation key of their target. -/
abbrev LockTable (κ : Type) := κ → Option LockRow

/-- The lease `lockResult` returns. -/
structure LockLease where
  targetKey : String
  planHash : Option String
  leaseId : String
  fencingToken : String
  fenceCounter : Nat
  expiresAt : Option Nat
deriving DecidableEq, Repr

def lockResult (row : LockRow) : Option LockLease := do
  let leaseId ← row.leaseId
  let fencingToken ← row.fencingToken
  if leaseId = "" ∨ fencingToken = "" then none
  else
    some { targetKey := row.targetKey, planHash := row.planHash, leaseId, fencingToken,
           fenceCounter := nearestDouble row.fenceCounter, expiresAt := row.expiresAt }

/-- `RECOVERY_LOCK_LEASE_BOUNDS`. -/
def minimumSeconds : Number := .finite ⟨1, 1, by decide⟩
def maximumSeconds : Number := .ofNat 600

def boundedTtl (value : Val) : Except Val Number := do
  let parsed ← value.toNumber
  match parsed with
  | .finite d => .ok (minimumSeconds.max ((Number.finite d).min maximumSeconds))
  | _ => .ok maximumSeconds

/-- `Math.round(boundedTtl(value) * 1_000_000)`. -/
def ttlMicros (value : Val) : Except Val Nat := do
  let seconds ← boundedTtl value
  match seconds with
  | .finite d => .ok (Decimal.normalize (d.mantissa * 1000000) d.scale).round.toNat
  | _ => .ok 0

/-- What `acquire` works with: its checked arguments and the two identifiers it draws
at random. -/
structure AcquireCall where
  targetKey : String
  planHash : Option String
  ttlMicros : Nat
  leaseId : String
  tokenUuid : String

/-- The arguments of `acquire`. -/
def acquireCall (args : Val) (leaseUuid tokenUuid : String) : Except Val AcquireCall := do
  let args ← destructured args
  let targetKey ← requiredId (args.member "target_key") "target_key"
  let planHash ← text (args.member "plan_hash") 64
  let ttl := args.member "ttl_seconds"
  let micros ← ttlMicros (if ttl.isUndefined then .num maximumSeconds else ttl)
  .ok { targetKey, planHash := if planHash = "" then none else some planHash,
        ttlMicros := micros, leaseId := "lease:" ++ leaseUuid, tokenUuid }

/-- What a holder presents to `heartbeat` and `assertFence`. -/
structure FenceContext where
  targetKey : String
  leaseId : String
  fencingToken : String

def fenceContext (context : Val) : Except Val FenceContext := do
  let context := if context.isUndefined then .obj [] else context
  let targetKey ← context.get "target_key"
  let targetKey ← requiredId targetKey "target_key"
  let leaseId ← requiredId (context.member "lease_id") "lease_id"
  let fencingToken ← requiredId (context.member "fencing_token") "fencing_token"
  .ok { targetKey, leaseId, fencingToken }

inductive AcquireReply
  | busy
  | acquired (lease : Option LockLease)
deriving DecidableEq, Repr

inductive HeartbeatReply
  | refused
  | renewed (lease : Option LockLease)
deriving DecidableEq, Repr

inductive ReleaseReply
  | noLock
  | staleFence
  | released
deriving DecidableEq, Repr

/-- `lease_id IS NULL OR expires_at IS NULL OR expires_at <= CURRENT_TIMESTAMP(6)`. -/
def LockRow.available (row : LockRow) (now : Nat) : Bool :=
  row.leaseId.isNone ||
    match row.expiresAt with
    | none => true
    | some expiresAt => decide (expiresAt ≤ now)

/-- `expires_at > CURRENT_TIMESTAMP(6)`. -/
def LockRow.unexpired (row : LockRow) (now : Nat) : Bool :=
  match row.expiresAt with
  | none => false
  | some expiresAt => decide (now < expiresAt)

/-- The row carries this lease and this token, unexpired. -/
def LockRow.accepts (row : LockRow) (context : FenceContext) (now : Nat) : Bool :=
  row.leaseId == some context.leaseId && row.fencingToken == some context.fencingToken &&
    row.unexpired now

/-- The columns a new lease gets. -/
def AcquireCall.row (call : AcquireCall) (targetKey : String) (counter writeAt : Nat) : LockRow :=
  { targetKey, fenceCounter := counter, leaseId := some call.leaseId
    fencingToken := some (toString counter ++ ":" ++ call.tokenUuid)
    planHash := call.planHash, expiresAt := some (writeAt + call.ttlMicros) }

section

variable {κ : Type} [DecidableEq κ] (collate : String → κ)

/-- `acquire` from the row it has found and locked. -/
def acquireFound (call : AcquireCall) (row : LockRow) (readAt writeAt : Nat)
    (table : LockTable κ) : AcquireReply × LockTable κ :=
  if row.available readAt then
    let row' := call.row row.targetKey (nextCounter row.fenceCounter) writeAt
    (.acquired (lockResult row'), Function.update table (collate call.targetKey) (some row'))
  else (.busy, table)

/-- The `INSERT` of an `acquire` that found no row, and what follows it. -/
def acquireInsert (call : AcquireCall) (writeAt : Nat) (table : LockTable κ) :
    Except Val (AcquireReply × LockTable κ) :=
  match table (collate call.targetKey) with
  | some _ => .error (.obj [("code", .str "ER_DUP_ENTRY")])
  | none =>
    let row := call.row call.targetKey 1 writeAt
    .ok (.acquired (lockResult row), Function.update table (collate call.targetKey) (some row))

def heartbeat (context : Val) (readAt writeAt : Nat) (table : LockTable κ) :
    Except Val (HeartbeatReply × LockTable κ) := do
  let holder ← fenceContext context
  let micros ← ttlMicros ((context.member "ttl_seconds").coalesce (.num maximumSeconds))
  match table (collate holder.targetKey) with
  | none => .ok (.refused, table)
  | some row =>
    if row.accepts holder readAt then
      let row' := { row with expiresAt := some (writeAt + micros) }
      .ok (.renewed (lockResult row'), Function.update table (collate holder.targetKey) (some row'))
    else .ok (.refused, table)

/-- `assertFence(context)`, the field `valid` of its answer. -/
def assertFence (context : Val) (readAt : Nat) (table : LockTable κ) : Except Val Bool := do
  let holder ← fenceContext context
  match table (collate holder.targetKey) with
  | none => .ok false
  | some row => .ok (row.accepts holder readAt)

/-- `row.lease_id !== lock.lease_id || row.fencing_token !== lock.fencing_token`. -/
def LockRow.isOf (row : LockRow) (lock : Val) : Bool :=
  match lock.member "lease_id", lock.member "fencing_token" with
  | .str leaseId, .str fencingToken =>
    row.leaseId == some leaseId && row.fencingToken == some fencingToken
  | _, _ => false

def release (args : Val) (table : LockTable κ) : Except Val (ReleaseReply × LockTable κ) := do
  let args ← destructured args
  let targetKey ← requiredId (args.member "target_key") "target_key"
  let lock := args.member "lock"
  if (lock.member "lease_id").truthy && (lock.member "fencing_token").truthy then
    match table (collate targetKey) with
    | none => .ok (.staleFence, table)
    | some row =>
      if row.isOf lock then
        .ok (.released, Function.update table (collate targetKey)
          (some { row with leaseId := none, fencingToken := none, planHash := none
                           expiresAt := none }))
      else .ok (.staleFence, table)
  else .ok (.noLock, table)

/-! ## Interleavings -/

/-- What happened in one step, with the outcome of a call that ended in it. -/
inductive LockEvent
  | acquireRejected (args : Val) (error : Val)
  | acquire (call : AcquireCall) (reply : AcquireReply)
  | select (call : AcquireCall)
  | insert (call : AcquireCall) (outcome : Except Val AcquireReply)
  | heartbeat (context : Val) (outcome : Except Val HeartbeatReply)
  | assertFence (context : Val) (outcome : Except Val Bool)
  | release (args : Val) (outcome : Except Val ReleaseReply)

/-- The table, the acquiring calls between their `SELECT` that found no row and their
`INSERT`, and the lease ids drawn so far. -/
structure LockState (κ : Type) where
  table : LockTable κ
  pending : List AcquireCall
  drawn : List String

def LockState.empty : LockState κ :=
  ⟨fun _ => none, [], []⟩

/-- One step of any of the calls.  Lease ids are drawn fresh. -/
inductive LockStep : LockState κ → LockEvent → LockState κ → Prop
  | acquireRejected {s : LockState κ} {args error : Val} {leaseUuid tokenUuid : String} :
      acquireCall args leaseUuid tokenUuid = .error error →
      LockStep s (.acquireRejected args error) s
  | acquire {s : LockState κ} {args : Val} {leaseUuid tokenUuid : String}
      {call : AcquireCall} {row : LockRow} {readAt writeAt : Nat} :
      acquireCall args leaseUuid tokenUuid = .ok call →
      s.table (collate call.targetKey) = some row →
      call.leaseId ∉ s.drawn →
      LockStep s (.acquire call (acquireFound collate call row readAt writeAt s.table).1)
        { s with table := (acquireFound collate call row readAt writeAt s.table).2
                 drawn := call.leaseId :: s.drawn }
  | select {s : LockState κ} {args : Val} {leaseUuid tokenUuid : String} {call : AcquireCall} :
      acquireCall args leaseUuid tokenUuid = .ok call →
      s.table (collate call.targetKey) = none →
      call.leaseId ∉ s.drawn →
      LockStep s (.select call)
        { s with pending := call :: s.pending, drawn := call.leaseId :: s.drawn }
  | insert {s : LockState κ} {call : AcquireCall} {writeAt : Nat} {reply : AcquireReply}
      {table : LockTable κ} {before after : List AcquireCall} :
      s.pending = before ++ call :: after →
      acquireInsert collate call writeAt s.table = .ok (reply, table) →
      LockStep s (.insert call (.ok reply)) { s with table, pending := before ++ after }
  | insertFails {s : LockState κ} {call : AcquireCall} {writeAt : Nat} {error : Val}
      {before after : List AcquireCall} :
      s.pending = before ++ call :: after →
      acquireInsert collate call writeAt s.table = .error error →
      LockStep s (.insert call (.error error)) { s with pending := before ++ after }
  | heartbeat {s : LockState κ} {context : Val} {readAt writeAt : Nat}
      {reply : HeartbeatReply} {table : LockTable κ} :
      heartbeat collate context readAt writeAt s.table = .ok (reply, table) →
      LockStep s (.heartbeat context (.ok reply)) { s with table }
  | heartbeatFails {s : LockState κ} {context error : Val} {readAt writeAt : Nat} :
      heartbeat collate context readAt writeAt s.table = .error error →
      LockStep s (.heartbeat context (.error error)) s
  | assertFence {s : LockState κ} {context : Val} {readAt : Nat} :
      LockStep s (.assertFence context (assertFence collate context readAt s.table)) s
  | release {s : LockState κ} {args : Val} {reply : ReleaseReply} {table : LockTable κ} :
      release collate args s.table = .ok (reply, table) →
      LockStep s (.release args (.ok reply)) { s with table }
  | releaseFails {s : LockState κ} {args error : Val} :
      release collate args s.table = .error error →
      LockStep s (.release args (.error error)) s

variable {collate}

/-- The target and the lease of a successful acquire. -/
def LockEvent.grant (collate : String → κ) : LockEvent → Option (κ × String)
  | .acquire call (.acquired _) => some (collate call.targetKey, call.leaseId)
  | .insert call (.ok (.acquired _)) => some (collate call.targetKey, call.leaseId)
  | _ => none

/-- The successful acquires of a run, in order. -/
def grants (collate : String → κ) (events : List LockEvent) : List (κ × String) :=
  events.filterMap (LockEvent.grant collate)

/-- `fence_counter` of a target, 0 before its first row. -/
def LockState.counter (s : LockState κ) (key : κ) : Nat :=
  match s.table key with
  | none => 0
  | some row => row.fenceCounter

/-! ## What one step does -/

/-- A row that was not taken over: it may have been renewed or released. -/
def RowKept : Option LockRow → Option LockRow → Prop
  | none, none => True
  | some row, some row' =>
    row'.fenceCounter = row.fenceCounter ∧ (row'.leaseId = row.leaseId ∨ row'.leaseId = none)
  | _, _ => False

theorem RowKept.refl (row : Option LockRow) : RowKept row row := by
  cases row with
  | none => trivial
  | some row => exact ⟨rfl, .inl rfl⟩

variable {table table' : LockTable κ}

theorem heartbeat_cases {context : Val} {readAt writeAt : Nat} {reply : HeartbeatReply}
    (h : heartbeat collate context readAt writeAt table = .ok (reply, table')) :
    reply = .refused ∧ table' = table ∨ ∃ holder row micros, fenceContext context = .ok holder ∧
        table (collate holder.targetKey) = some row ∧ row.accepts holder readAt = true ∧
        table' = Function.update table (collate holder.targetKey)
          (some { row with expiresAt := some (writeAt + micros) }) := by
  simp only [heartbeat, bind_eq_ok] at h
  obtain ⟨holder, hholder, micros, _, h⟩ := h
  cases hrow : table (collate holder.targetKey) with
  | none =>
    rw [hrow] at h
    cases h
    exact .inl ⟨rfl, rfl⟩
  | some row =>
    rw [hrow] at h
    dsimp only at h
    split_ifs at h with haccepts
    · cases h
      exact .inr ⟨holder, row, micros, hholder, hrow, haccepts, rfl⟩
    · cases h
      exact .inl ⟨rfl, rfl⟩

theorem release_cases {args : Val} {reply : ReleaseReply}
    (h : release collate args table = .ok (reply, table')) :
    reply ≠ .released ∧ table' = table ∨ ∃ key row, table key = some row ∧
        (∃ given, destructured args = .ok given ∧ row.isOf (given.member "lock") = true) ∧
        table' = Function.update table key
          (some { row with leaseId := none, fencingToken := none, planHash := none
                           expiresAt := none }) := by
  simp only [release, bind_eq_ok] at h
  obtain ⟨given, hgiven, targetKey, _, h⟩ := h
  split_ifs at h with hlock
  · cases hrow : table (collate targetKey) with
    | none =>
      rw [hrow] at h
      cases h
      exact .inl ⟨by decide, rfl⟩
    | some row =>
      rw [hrow] at h
      dsimp only at h
      split_ifs at h with hof
      · cases h
        exact .inr ⟨_, row, hrow, ⟨given, hgiven, hof⟩, rfl⟩
      · cases h
        exact .inl ⟨by decide, rfl⟩
  · cases h
    exact .inl ⟨by decide, rfl⟩

theorem acquireInsert_ok {call : AcquireCall} {writeAt : Nat} {reply : AcquireReply}
    (h : acquireInsert collate call writeAt table = .ok (reply, table')) :
    table (collate call.targetKey) = none ∧ (∃ lease, reply = .acquired lease) ∧
      table' = Function.update table (collate call.targetKey)
        (some (call.row call.targetKey 1 writeAt)) := by
  unfold acquireInsert at h
  split at h
  · cases h
  · rename_i hnone
    cases h
    exact ⟨hnone, ⟨_, rfl⟩, rfl⟩

theorem acquireFound_cases (collate : String → κ) (call : AcquireCall) (row : LockRow)
    (readAt writeAt : Nat) (table : LockTable κ) :
    acquireFound collate call row readAt writeAt table = (.busy, table) ∨
      ∃ lease, acquireFound collate call row readAt writeAt table =
        (.acquired lease, Function.update table (collate call.targetKey)
          (some (call.row row.targetKey (nextCounter row.fenceCounter) writeAt))) := by
  unfold acquireFound
  split_ifs
  · exact .inr ⟨_, rfl⟩
  · exact .inl rfl

variable {key : κ}

theorem rowKept_update_of_ne {k : κ} {row' : Option LockRow} (hk : k ≠ key) :
    RowKept (table k) (Function.update table key row' k) := by
  rw [Function.update_of_ne hk]
  exact RowKept.refl _

/-- A table in which one row has been replaced. -/
theorem rowKept_update {row row' : LockRow} (hrow : table key = some row)
    (hkept : RowKept (some row) (some row')) (k : κ) :
    RowKept (table k) (Function.update table key (some row') k) := by
  by_cases hk : k = key
  · subst hk
    rw [Function.update_self, hrow]
    exact hkept
  · exact rowKept_update_of_ne hk

variable {s s' : LockState κ} {event : LockEvent}

/-- A step takes over the row of the target it acquires, under the next counter, and
keeps every other row. -/
theorem LockStep.row (h : LockStep collate s event s') (key : κ) :
    (∃ lease row', event.grant collate = some (key, lease) ∧ s'.table key = some row' ∧
        row'.leaseId = some lease ∧ s'.counter key = nextCounter (s.counter key)) ∨
      (∀ lease, event.grant collate ≠ some (key, lease)) ∧
        RowKept (s.table key) (s'.table key) := by
  have hkeep : ∀ {t : LockState κ} {e : LockEvent}, e.grant collate = none →
      t.table = s.table → (∀ lease, e.grant collate ≠ some (key, lease)) ∧
        RowKept (s.table key) (t.table key) := by
    intro t e hgrant htable
    rw [hgrant, htable]
    exact ⟨by simp, RowKept.refl _⟩
  cases h with
  | @acquire args leaseUuid tokenUuid call row readAt writeAt hcall hrow hfresh =>
    obtain hbusy | ⟨lease, hgot⟩ :=
      acquireFound_cases collate call row readAt writeAt s.table
    · rw [hbusy]
      exact .inr (hkeep rfl rfl)
    · rw [hgot]
      by_cases hkey : key = collate call.targetKey
      · subst hkey
        refine .inl ⟨call.leaseId, _, rfl, Function.update_self .., rfl, ?_⟩
        simp [LockState.counter, hrow, AcquireCall.row]
      · refine .inr ⟨fun l => by simp [LockEvent.grant, Ne.symm hkey], ?_⟩
        exact rowKept_update_of_ne hkey
  | @insert call writeAt reply table before after hpending hinsert =>
    obtain ⟨hnone, ⟨lease, rfl⟩, rfl⟩ := acquireInsert_ok hinsert
    by_cases hkey : key = collate call.targetKey
    · subst hkey
      refine .inl ⟨call.leaseId, _, rfl, Function.update_self .., rfl, ?_⟩
      simp only [LockState.counter, hnone, Function.update_self, AcquireCall.row]
      decide
    · refine .inr ⟨fun l => by simp [LockEvent.grant, Ne.symm hkey], ?_⟩
      exact rowKept_update_of_ne hkey
  | heartbeat hbeat =>
    refine .inr ⟨by simp [LockEvent.grant], ?_⟩
    obtain ⟨_, rfl⟩ | ⟨holder, row, micros, _, hrow, _, rfl⟩ := heartbeat_cases hbeat
    · exact RowKept.refl _
    · refine rowKept_update hrow ?_ key
      exact ⟨rfl, .inl rfl⟩
  | release hrelease =>
    refine .inr ⟨by simp [LockEvent.grant], ?_⟩
    obtain ⟨_, rfl⟩ | ⟨k, row, hrow, _, rfl⟩ := release_cases hrelease
    · exact RowKept.refl _
    · refine rowKept_update hrow ?_ key
      exact ⟨rfl, .inr rfl⟩
  | _ => exact .inr (hkeep rfl rfl)

/-- The leases that were granted or are about to be inserted. -/
def leasesOf (collate : String → κ) (events : List LockEvent) (s : LockState κ) : List String :=
  (grants collate events).map Prod.snd ++ s.pending.map AcquireCall.leaseId

omit [DecidableEq κ] in
theorem grants_concat (events : List LockEvent) (event : LockEvent) :
    grants collate (events ++ [event]) = grants collate events ++ (event.grant collate).toList := by
  simp only [grants, filterMap_append]
  cases h : event.grant collate <;> simp [h]

/-- Leases are drawn once. -/
def FreshLeases (collate : String → κ) (events : List LockEvent) (s : LockState κ) : Prop :=
  (leasesOf collate events s).Nodup ∧ ∀ lease ∈ leasesOf collate events s, lease ∈ s.drawn

variable {events : List LockEvent} {lease : String} {events' : List LockEvent}

omit [DecidableEq κ] in
/-- A step that reorders the leases, or drops some. -/
theorem FreshLeases.of_subperm (h : FreshLeases collate events s) (hdrawn : s.drawn ⊆ s'.drawn)
    (hsub : (leasesOf collate events' s').Subperm (leasesOf collate events s)) :
    FreshLeases collate events' s' := by
  obtain ⟨leases, hperm, hsublist⟩ := hsub
  refine ⟨hperm.nodup_iff.mp (hsublist.nodup h.1), ?_⟩
  intro lease hlease
  exact hdrawn (h.2 lease (hsublist.subset (hperm.mem_iff.mpr hlease)))

omit [DecidableEq κ] in
/-- A step that draws a lease. -/
theorem FreshLeases.of_perm_cons (h : FreshLeases collate events s) (hfresh : lease ∉ s.drawn)
    (hdrawn : s'.drawn = lease :: s.drawn)
    (hperm : (leasesOf collate events' s').Perm (lease :: leasesOf collate events s)) :
    FreshLeases collate events' s' := by
  refine ⟨?_, ?_⟩
  · rw [hperm.nodup_iff, nodup_cons]
    exact ⟨fun hmem => hfresh (h.2 lease hmem), h.1⟩
  · intro l hl
    rw [hperm.mem_iff, mem_cons] at hl
    rw [hdrawn, mem_cons]
    exact hl.imp_right (h.2 l)

theorem LockStep.freshLeases (hinv : FreshLeases collate events s)
    (h : LockStep collate s event s') : FreshLeases collate (events ++ [event]) s' := by
  have hquiet : ∀ {t : LockState κ} {e : LockEvent}, e.grant collate = none →
      s.drawn ⊆ t.drawn → t.pending.Sublist s.pending →
      FreshLeases collate (events ++ [e]) t := by
    intro t e hgrant hdrawn hpending
    apply hinv.of_subperm hdrawn
    rw [leasesOf, grants_concat, hgrant, Option.toList_none, append_nil]
    exact ((hpending.map _).append_left _).subperm
  cases h with
  | @acquire args leaseUuid tokenUuid call row readAt writeAt hcall hrow hfresh =>
    obtain hbusy | ⟨lease, hgot⟩ :=
      acquireFound_cases collate call row readAt writeAt s.table
    · rw [hbusy]
      exact hquiet rfl (subset_cons_self _ _) (List.Sublist.refl _)
    · rw [hgot]
      refine hinv.of_perm_cons hfresh rfl ?_
      simp only [leasesOf, grants_concat, LockEvent.grant, Option.toList_some,
        map_append, map_cons, map_nil, append_assoc, cons_append,
        nil_append]
      exact perm_middle
  | select hcall hnone hfresh =>
    refine hinv.of_perm_cons hfresh rfl ?_
    simp only [leasesOf, grants_concat, LockEvent.grant, Option.toList_none,
      append_nil, map_cons]
    exact perm_middle
  | @insert call writeAt reply table before after hpending hinsert =>
    obtain ⟨_, ⟨lease, rfl⟩, _⟩ := acquireInsert_ok hinsert
    refine hinv.of_subperm (List.Subset.refl s.drawn) ?_
    simp only [leasesOf, grants_concat, LockEvent.grant, Option.toList_some, hpending,
      map_append, map_cons, map_nil, append_assoc, cons_append,
      nil_append]
    exact (List.Perm.append_left _ perm_middle.symm).subperm
  | insertFails hpending hinsert =>
    refine hquiet rfl (List.Subset.refl _) ?_
    rw [hpending]
    exact (sublist_cons_self _ _).append_left _
  | _ => exact hquiet rfl (List.Subset.refl _) (List.Sublist.refl _)

/-! ## Every run -/

/-- The last successful acquire of a target. -/
def LastGrant (grants : List (κ × String)) (key : κ) (lease : String) : Prop :=
  ∃ before after, grants = before ++ (key, lease) :: after ∧ ∀ grant ∈ after, grant.1 ≠ key

omit [DecidableEq κ] in
theorem LastGrant.concat {grants : List (κ × String)} (h : LastGrant grants key lease)
    {grant : Option (κ × String)} (hother : ∀ lease', grant ≠ some (key, lease')) :
    LastGrant (grants ++ grant.toList) key lease := by
  obtain ⟨before, after, rfl, hafter⟩ := h
  refine ⟨before, after ++ grant.toList, by simp, ?_⟩
  intro g hg hkey
  rcases mem_append.mp hg with hg | hg
  · exact hafter g hg hkey
  · obtain rfl := Option.mem_toList.mp hg
    exact hother g.2 (by rw [← hkey])

/-- What holds of the table after a history: every lease in it is the last one
granted on its target. -/
structure LockHistory (collate : String → κ) (events : List LockEvent) (s : LockState κ) :
    Prop where
  fresh : FreshLeases collate events s
  last : ∀ key row lease, s.table key = some row → row.leaseId = some lease →
    LastGrant (grants collate events) key lease
  counter : ∀ key, s.counter key ≤ 2 ^ 53

omit [DecidableEq κ] in
theorem RowKept.counter_eq (h : RowKept (s.table key) (s'.table key)) :
    s'.counter key = s.counter key := by
  unfold LockState.counter
  rcases hrow : s.table key with _ | row <;> rcases hrow' : s'.table key with _ | row' <;>
    rw [hrow, hrow'] at h
  · exact h.elim
  · exact h.elim
  · exact h.1

omit [DecidableEq κ] in
theorem RowKept.leaseId {o : Option LockRow} {row' : LockRow} (h : RowKept o (some row'))
    (hlease : row'.leaseId = some lease) : ∃ row, o = some row ∧ row.leaseId = some lease := by
  cases o with
  | none => exact h.elim
  | some row =>
    obtain ⟨_, hsame | hnone⟩ := h
    · exact ⟨row, rfl, hsame ▸ hlease⟩
    · rw [hnone] at hlease
      cases hlease

theorem LockHistory.step (hinv : LockHistory collate events s) (h : LockStep collate s event s') :
    LockHistory collate (events ++ [event]) s' where
  fresh := h.freshLeases hinv.fresh
  last := by
    intro key row lease hrow hlease
    rw [grants_concat]
    obtain ⟨lease', row', hgrant, hrow', hlease', _⟩ | ⟨hother, hkept⟩ := h.row key
    · rw [hrow] at hrow'
      cases hrow'
      rw [hlease] at hlease'
      cases hlease'
      exact ⟨grants collate events, [], by simp [hgrant], by simp⟩
    · rw [hrow] at hkept
      obtain ⟨old, hold, hsame⟩ := hkept.leaseId hlease
      exact (hinv.last key old lease hold hsame).concat hother
  counter := by
    intro key
    obtain ⟨_, _, _, _, _, hcounter⟩ | ⟨_, hkept⟩ := h.row key
    · rw [hcounter]
      exact nextCounter_le (hinv.counter key)
    · rw [hkept.counter_eq]
      exact hinv.counter key

theorem lockHistory_of_run (hrun : Transition.Run (LockStep collate) LockState.empty events s) :
    LockHistory collate events s := by
  have hempty : LockHistory collate [] (LockState.empty : LockState κ) :=
    { fresh := ⟨nodup_nil, by simp [leasesOf, grants, LockState.empty]⟩
      last := by
        intro key row lease hrow
        cases hrow
      counter := fun key => Nat.zero_le _ }
  exact hrun.history (I := LockHistory collate)
    (fun events s event s' hinv hstep => hinv.step hstep) hempty

/-- The lease was granted on the target, and the target has been acquired again. -/
def Superseded (collate : String → κ) (events : List LockEvent) (key : κ) (lease : String) : Prop :=
  ∃ before after lease', grants collate events = before ++ (key, lease) :: after ∧
    (key, lease') ∈ after

omit [DecidableEq κ] in
theorem LockHistory.superseded_not_held (hinv : LockHistory collate events s)
    (hsuperseded : Superseded collate events key lease) (key' : κ) (row : LockRow)
    (hrow : s.table key' = some row) : row.leaseId ≠ some lease := by
  intro hlease
  have hlast := hinv.last key' row lease hrow hlease
  have hnodup : ((grants collate events).map Prod.snd).Nodup :=
    (nodup_append.mp hinv.fresh.1).1
  obtain ⟨before, after, lease', hgrants, hlater⟩ := hsuperseded
  obtain ⟨before', after', hgrants', hnone⟩ := hlast
  -- the lease occurs once among the grants: on one target, and at one place
  obtain rfl : key = key' := by
    have hmem : (key, lease) ∈ grants collate events := by simp [hgrants]
    have hmem' : (key', lease) ∈ grants collate events := by simp [hgrants']
    exact congrArg Prod.fst (inj_on_of_nodup_map hnodup hmem hmem' rfl)
  have honce := hnodup.of_map
  rw [hgrants'] at hgrants honce
  have hnotMem := (nodup_middle.mp honce).notMem
  rw [mem_append, not_or] at hnotMem
  obtain ⟨_, _, rfl⟩ := (append_cons_inj_of_notMem hnotMem.1 hnotMem.2).mp hgrants
  exact hnone _ hlater rfl

/-- The pair a call presents is accepted by `assertFence` or by `heartbeat`, with the
clock at `now`. -/
def AcceptedAt (collate : String → κ) (table : LockTable κ) (now : Nat)
    (holder : FenceContext) : Prop :=
  ∃ context, fenceContext context = .ok holder ∧
    (assertFence collate context now table = .ok true ∨ ∃ writeAt lease table',
        heartbeat collate context now writeAt table = .ok (.renewed lease, table'))

theorem AcceptedAt.row {now : Nat} {holder : FenceContext}
    (h : AcceptedAt collate table now holder) :
    ∃ row, table (collate holder.targetKey) = some row ∧ row.accepts holder now = true := by
  obtain ⟨context, hcontext, hassert | ⟨writeAt, lease, table', hbeat⟩⟩ := h
  · rw [assertFence, hcontext, ok_bind] at hassert
    cases hrow : table (collate holder.targetKey) with
    | none =>
      rw [hrow] at hassert
      cases hassert
    | some row =>
      rw [hrow] at hassert
      exact ⟨row, rfl, Except.ok.inj hassert⟩
  · obtain ⟨hrefused, _⟩ | ⟨holder', row, _, hholder', hrow, haccepts, _⟩ :=
      heartbeat_cases hbeat
    · cases hrefused
    · rw [hcontext] at hholder'
      cases hholder'
      exact ⟨row, hrow, haccepts⟩

theorem LockRow.accepts_iff {row : LockRow} {holder : FenceContext} {now : Nat} :
    row.accepts holder now = true ↔ row.leaseId = some holder.leaseId ∧
      row.fencingToken = some holder.fencingToken ∧ row.unexpired now = true := by
  simp [LockRow.accepts, and_assoc]

theorem LockRow.isOf_leaseId {row : LockRow} {lock : Val} (h : row.isOf lock = true)
    (hlock : lock.member "lease_id" = .str lease) : row.leaseId = some lease := by
  unfold LockRow.isOf at h
  rw [hlock] at h
  split at h
  · rename_i leaseId _ heq _
    cases heq
    simp only [Bool.and_eq_true, beq_iff_eq] at h
    exact h.1
  · cases h

/-- In every interleaving, at each instant one pair of a target is accepted; the
counter of a target never decreases and increases with every acquire while it is below
`2 ^ 53`; and a superseded lease is accepted nowhere, renews nothing and releases
nothing, however the run has continued. -/
theorem fenced_lock {events : List LockEvent} {s : LockState κ}
    (hrun : Transition.Run (LockStep collate) LockState.empty events s) :
    (∀ now holder holder', AcceptedAt collate s.table now holder →
        AcceptedAt collate s.table now holder' →
        collate holder.targetKey = collate holder'.targetKey →
        holder.leaseId = holder'.leaseId ∧ holder.fencingToken = holder'.fencingToken) ∧
      (∀ event s' key, LockStep collate s event s' → s.counter key ≤ s'.counter key ∧
          (∀ lease, event.grant collate = some (key, lease) → s.counter key < 2 ^ 53 →
            s.counter key < s'.counter key)) ∧
      (∀ key lease, Superseded collate events key lease →
        (∀ now holder, AcceptedAt collate s.table now holder → holder.leaseId ≠ lease) ∧
        (∀ context holder readAt writeAt reply table', fenceContext context = .ok holder →
          holder.leaseId = lease →
          heartbeat collate context readAt writeAt s.table = .ok (reply, table') →
          reply = .refused ∧ table' = s.table) ∧
        (∀ args given reply table', destructured args = .ok given →
          (given.member "lock").member "lease_id" = .str lease →
          release collate args s.table = .ok (reply, table') →
          reply ≠ .released ∧ table' = s.table)) := by
  have hinv := lockHistory_of_run hrun
  refine ⟨?_, ?_, ?_⟩
  · intro now holder holder' haccepted haccepted' htarget
    obtain ⟨row, hrow, haccepts⟩ := haccepted.row
    obtain ⟨row', hrow', haccepts'⟩ := haccepted'.row
    rw [← htarget, hrow] at hrow'
    cases hrow'
    rw [LockRow.accepts_iff] at haccepts haccepts'
    constructor
    · exact Option.some.inj (haccepts.1.symm.trans haccepts'.1)
    · exact Option.some.inj (haccepts.2.1.symm.trans haccepts'.2.1)
  · intro event s' key hstep
    obtain ⟨_, _, _, _, _, hcounter⟩ | ⟨hother, hkept⟩ := hstep.row key
    · rw [hcounter]
      refine ⟨le_nextCounter (hinv.counter key), fun _ _ hlt => ?_⟩
      rw [nextCounter_of_lt hlt]
      omega
    · exact ⟨Nat.le_of_eq hkept.counter_eq.symm, fun lease hgrant => (hother lease hgrant).elim⟩
  · intro key lease hsuperseded
    have hgone := hinv.superseded_not_held hsuperseded
    refine ⟨?_, ?_, ?_⟩
    · intro now holder haccepted hlease
      obtain ⟨row, hrow, haccepts⟩ := haccepted.row
      exact hgone _ row hrow (hlease ▸ (LockRow.accepts_iff.mp haccepts).1)
    · intro context holder readAt writeAt reply table' hcontext hlease hbeat
      obtain hrefused | ⟨holder', row, _, hholder', hrow, haccepts, _⟩ := heartbeat_cases hbeat
      · exact hrefused
      · rw [hcontext] at hholder'
        cases hholder'
        exact (hgone _ row hrow (hlease ▸ (LockRow.accepts_iff.mp haccepts).1)).elim
    · intro args given reply table' hgiven hlock hrelease
      obtain hkept | ⟨key', row, hrow, ⟨given', hgiven', hof⟩, _⟩ := release_cases hrelease
      · exact hkept
      · rw [hgiven] at hgiven'
        cases hgiven'
        exact (hgone _ row hrow (LockRow.isOf_leaseId hof hlock)).elim

end

/-! ## Acquiring one target again and again -/

/-- A call that asks for the target `db` with the default TTL. -/
def dbArgs : Val :=
  .obj [("target_key", .str "db")]

def dbCall (leaseUuid : String) : AcquireCall :=
  ⟨"db", none, 600000000, "lease:" ++ leaseUuid, "token"⟩

variable (leaseUuid : String)

theorem acquireCall_dbArgs : acquireCall dbArgs leaseUuid "token" = .ok (dbCall leaseUuid) :=
  rfl

/-- The state after the first insertion. -/
def afterInsert (leaseUuid : String) : LockState String :=
  { table := Function.update (fun _ => none) "db" (some ((dbCall leaseUuid).row "db" 1 0))
    pending := [], drawn := ["lease:" ++ leaseUuid] }

/-- The first acquire of the target. -/
theorem run_first_insert :
    ∃ lease, Transition.Run (LockStep id) LockState.empty
      [.select (dbCall leaseUuid), .insert (dbCall leaseUuid) (.ok (.acquired lease))]
      (afterInsert leaseUuid) := by
  have hselect : LockStep id LockState.empty (.select (dbCall leaseUuid))
      ⟨fun _ => none, [dbCall leaseUuid], ["lease:" ++ leaseUuid]⟩ :=
    LockStep.select (acquireCall_dbArgs leaseUuid) rfl (by simp [LockState.empty])
  have hinsert : LockStep id ⟨fun _ => none, [dbCall leaseUuid], ["lease:" ++ leaseUuid]⟩
      (.insert (dbCall leaseUuid) (.ok (.acquired (lockResult ((dbCall leaseUuid).row "db" 1 0)))))
      (afterInsert leaseUuid) :=
    @LockStep.insert _ _ id _ _ 0 _ _ [] [] rfl rfl
  exact ⟨_, .cons hselect (.single hinsert)⟩

/-- An acquire at the instant the lease before it expires. -/
theorem step_acquire_again {s : LockState String} {row : LockRow} {expiry : Nat}
    (hrow : s.table "db" = some row) (hexpires : row.expiresAt = some expiry)
    (hfresh : "lease:" ++ leaseUuid ∉ s.drawn) :
    ∃ lease, LockStep id s (.acquire (dbCall leaseUuid) (.acquired lease)) { s with
        table := Function.update s.table "db"
          (some ((dbCall leaseUuid).row row.targetKey (nextCounter row.fenceCounter) expiry))
        drawn := ("lease:" ++ leaseUuid) :: s.drawn } := by
  have hstep := @LockStep.acquire _ _ id s _ _ _ _ row expiry expiry
    (acquireCall_dbArgs leaseUuid) hrow hfresh
  have havailable : row.available expiry = true := by
    simp [LockRow.available, hexpires]
  rw [show acquireFound id (dbCall leaseUuid) row expiry expiry s.table = _ from
    if_pos havailable] at hstep
  exact ⟨_, hstep⟩

theorem first_lease_superseded :
    ∃ events s, Transition.Run (LockStep id) LockState.empty events s ∧
      Superseded id events "db" "lease:a" ∧
      ∀ now holder, AcceptedAt id s.table now holder → holder.leaseId ≠ "lease:a" := by
  obtain ⟨lease, hfirst⟩ := run_first_insert "a"
  have hrow : (afterInsert "a").table "db" = some ((dbCall "a").row "db" 1 0) := rfl
  obtain ⟨lease', hagain⟩ := step_acquire_again "b" hrow rfl (by decide)
  have hrun := hfirst.append (.single hagain)
  have hsuperseded : Superseded id
      [.select (dbCall "a"), .insert (dbCall "a") (.ok (.acquired lease)),
        .acquire (dbCall "b") (.acquired lease')] "db" "lease:a" :=
    ⟨[], [("db", "lease:b")], "lease:b", rfl, mem_cons_self⟩
  exact ⟨_, _, hrun, hsuperseded, ((fenced_lock hrun).2.2 _ _ hsuperseded).1⟩

/-- Texts of different lengths, one for each number. -/
def uuidOf (i : Nat) : String :=
  String.ofList (List.replicate i 'a')

theorem lease_uuidOf_inj {i j : Nat} (h : "lease:" ++ uuidOf i = "lease:" ++ uuidOf j) : i = j := by
  have hlength := congrArg String.length h
  simpa [uuidOf] using hlength

/-- The counter after `n + 1` acquires. -/
theorem counter_reaches (n : Nat) (hn : n < 2 ^ 53) :
    ∃ events s row, Transition.Run (LockStep id) LockState.empty events s ∧
      s.table "db" = some row ∧ row.fenceCounter = n + 1 ∧ row.expiresAt.isSome = true ∧
      ∀ lease ∈ s.drawn, ∃ i ≤ n, lease = "lease:" ++ uuidOf i := by
  induction n with
  | zero =>
    obtain ⟨lease, hfirst⟩ := run_first_insert (uuidOf 0)
    have hrow : (afterInsert (uuidOf 0)).table "db" = some ((dbCall (uuidOf 0)).row "db" 1 0) := rfl
    refine ⟨_, _, _, hfirst, hrow, rfl, rfl, ?_⟩
    intro l hl
    exact ⟨0, le_rfl, mem_singleton.mp hl⟩
  | succ n ih =>
    obtain ⟨events, s, row, hrun, hrow, hcounter, hsome, hdrawn⟩ := ih (by omega)
    obtain ⟨expiresAt, hexpires⟩ := Option.isSome_iff_exists.mp hsome
    have hfresh : "lease:" ++ uuidOf (n + 1) ∉ s.drawn := by
      intro hmem
      obtain ⟨i, hi, heq⟩ := hdrawn _ hmem
      have := lease_uuidOf_inj heq
      omega
    obtain ⟨lease, hagain⟩ := step_acquire_again _ hrow hexpires hfresh
    refine ⟨_, _, (dbCall (uuidOf (n + 1))).row row.targetKey
      (nextCounter row.fenceCounter) expiresAt, hrun.append (.single hagain),
      ?_, ?_, rfl, ?_⟩
    · exact Function.update_self "db" _ s.table
    · change nextCounter row.fenceCounter = n + 1 + 1
      rw [hcounter, nextCounter_of_lt hn]
    · intro l hl
      rcases mem_cons.mp hl with rfl | hl
      · exact ⟨n + 1, le_rfl, rfl⟩
      · obtain ⟨i, hi, rfl⟩ := hdrawn l hl
        exact ⟨i, by omega, rfl⟩

/-- After `2 ^ 53` acquires the next one succeeds under the counter of the last. -/
theorem counter_repeats :
    ∃ events s event s' lease, Transition.Run (LockStep id) LockState.empty events s ∧
      LockStep id s event s' ∧ event.grant id = some ("db", lease) ∧
      ¬s.counter "db" < s'.counter "db" := by
  obtain ⟨events, s, row, hrun, hrow, hcounter, hsome, hdrawn⟩ :=
    counter_reaches (2 ^ 53 - 1) (by decide)
  obtain ⟨expiresAt, hexpires⟩ := Option.isSome_iff_exists.mp hsome
  have hfresh : "lease:" ++ uuidOf (2 ^ 53) ∉ s.drawn := by
    intro hmem
    obtain ⟨i, hi, heq⟩ := hdrawn _ hmem
    have := lease_uuidOf_inj heq
    omega
  obtain ⟨lease, hagain⟩ := step_acquire_again _ hrow hexpires hfresh
  refine ⟨events, s, _, _, _, hrun, hagain, rfl, ?_⟩
  have hfull : row.fenceCounter = 2 ^ 53 := by omega
  have hold : s.counter "db" = 2 ^ 53 := by simp [LockState.counter, hrow, hfull]
  rw [hold, Nat.not_lt]
  change nextCounter row.fenceCounter ≤ 2 ^ 53
  rw [hfull, nextCounter_stops]

end GrowthOs.Recovery
