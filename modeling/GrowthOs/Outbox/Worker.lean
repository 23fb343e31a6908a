import GrowthOs.Support.UniqueTable
import Mathlib.Algebra.Order.Ring.Int
import Mathlib.Data.List.Sort

/-!
# The delivery statements of the platform outbox

`platformOutbox.js`: an event is queued together with one delivery row for
each consumer, and the workers of a consumer claim batches of its rows, post
them and record the result.  Each function here is one SQL statement or one
transaction; a worker that stalls or dies between two of them simply takes no
further step.  What a batch contains is left out: no statement depends on it.

Time is the database clock in microseconds, and strings are compared by the
database through the collation of its tables.
-/

namespace GrowthOs.Outbox

open Table

/-! ## Rows -/

/-- The columns of `platform_outbox_events` that the delivery statements
read. -/
structure OutboxEvent where
  id : Nat
  eventId : String
  eventType : String
  occurredAt : Nat
  availableAt : Nat
  retentionExpiresAt : Option Nat

inductive DeliveryStatus
  | pending | claimed | delivered | failed | deadLetter | skipped
deriving DecidableEq, Repr

/-- A row of `platform_outbox_deliveries`. -/
structure DeliveryRow where
  eventId : String
  consumerKey : String
  status : DeliveryStatus
  attemptCount : Nat
  claimToken : Option String
  claimExpiresAt : Option Nat
  nextAttemptAt : Option Nat
  responseStatus : Option Nat
  lastErrorCode : Option String
  lastErrorMessage : Option String
  deliveredAt : Option Nat
deriving DecidableEq

/-- What a worker reads from `platform_outbox_consumers` when it starts. -/
structure Consumer where
  consumerKey : String
  maxAttempts : Nat
  retryBaseSeconds : Nat

/-- `Number(consumer.max_attempts || 8)`. -/
def Consumer.attemptLimit (consumer : Consumer) : Nat :=
  if consumer.maxAttempts = 0 then 8 else consumer.maxAttempts

theorem Consumer.attemptLimit_pos (consumer : Consumer) : 0 < consumer.attemptLimit := by
  unfold Consumer.attemptLimit
  split
  · decide
  · omega

/-- The event types with status `active` and the consumers with status
`shadow` or `active`, at the time of a statement. -/
structure Registry where
  activeEventTypes : List String
  enabledConsumers : List String

/-- A row as `claimPendingRows` returned it to a worker. -/
structure ClaimedRow where
  eventId : String
  attemptCount : Nat
deriving DecidableEq

/-- The batch a worker was handed: its token and the rows selected. -/
structure Claim where
  claimToken : String
  rows : List ClaimedRow
deriving DecidableEq

variable (collate : String → String)

def eventKeys : List (OutboxEvent → Option String) :=
  [fun event => some (collate event.eventId)]

/-- `uq_platform_outbox_deliveries_event_consumer`. -/
def deliveryKeys : List (DeliveryRow → Option (String × String)) :=
  [fun row => some (collate row.eventId, collate row.consumerKey)]

/-- The tables, the claims handed out so far, and the clock. -/
structure OutboxStore where
  events : UniqueTable (eventKeys collate)
  deliveries : UniqueTable (deliveryKeys collate)
  claims : List Claim
  now : Nat

variable {collate}

/-- An update that keeps event and consumer takes no key. -/
theorem narrows_of_identity {row row' : DeliveryRow} (hevent : row'.eventId = row.eventId)
    (hconsumer : row'.consumerKey = row.consumerKey) : Narrows (deliveryKeys collate) row row' := by
  intro key hmem
  simp only [deliveryKeys, List.mem_cons, List.not_mem_nil, or_false] at hmem
  subst hmem
  left
  simp only [hevent, hconsumer]

/-! ## New deliveries -/

def newDelivery (eventId consumerKey : String) (now : Nat) : DeliveryRow where
  eventId := eventId
  consumerKey := consumerKey
  status := .pending
  attemptCount := 0
  claimToken := none
  claimExpiresAt := none
  nextAttemptAt := some now
  responseStatus := none
  lastErrorCode := none
  lastErrorMessage := none
  deliveredAt := none

variable (registry : Registry)

/-- `insertEventAndDeliveries(executor, event)`; a duplicate event identifier
rolls the transaction back. -/
def insertEventAndDeliveries (event : OutboxEvent) (s : OutboxStore collate) :
    OutboxStore collate :=
  match s.events.insert event with
  | none => s
  | some events =>
    { s with
      events
      deliveries := s.deliveries.insertAllIgnore (registry.enabledConsumers.map fun key =>
          newDelivery event.eventId key s.now) }

/-- Whether the event can be delivered now: its type is active, it is
available and not past its retention. -/
def OutboxEvent.deliverable (collate : String → String) (registry : Registry)
    (now : Nat) (event : OutboxEvent) : Bool :=
  registry.activeEventTypes.any (fun t => collate t == collate event.eventType) &&
    decide (event.availableAt ≤ now) &&
    event.retentionExpiresAt.all fun t => decide (now < t)

def ensurePendingDeliveries (consumer : Consumer) (limit : Nat) (s : OutboxStore collate) :
    OutboxStore collate :=
  let enabled := registry.enabledConsumers.filter fun key =>
    collate key == collate consumer.consumerKey
  let events := (s.events.rows.filter
    (OutboxEvent.deliverable collate registry s.now)).insertionSort fun a b => a.id ≤ b.id
  let rows := (events.flatMap fun event =>
    enabled.map fun key => newDelivery event.eventId key s.now).take limit
  { s with deliveries := s.deliveries.insertAllIgnore rows }

/-! ## Claims -/

/-- The columns `releaseExpiredClaims` writes.  The assignments of an `UPDATE`
are made from left to right, so `next_attempt_at` is computed from the count
that has already been raised. -/
def DeliveryRow.releaseClaim (limit now : Nat) (row : DeliveryRow) : DeliveryRow :=
  { row with
    status := if limit ≤ row.attemptCount + 1 then .deadLetter else .failed
    attemptCount := row.attemptCount + 1
    nextAttemptAt :=
      if limit ≤ row.attemptCount + 1 + 1 then none else some now
    claimToken := none
    claimExpiresAt := none
    lastErrorCode := some "outbox_claim_expired"
    lastErrorMessage :=
      some "The worker claim expired before delivery acknowledgement." }

/-- `status = 'claimed' AND claim_expires_at IS NOT NULL AND
claim_expires_at <= UTC_TIMESTAMP(6)`. -/
def DeliveryRow.claimExpired (now : Nat) (row : DeliveryRow) : Bool :=
  row.status == .claimed && row.claimExpiresAt.any fun t => decide (t ≤ now)

def releaseExpiredClaims (consumer : Consumer) (s : OutboxStore collate) : OutboxStore collate :=
  { s with
    deliveries := s.deliveries.update
      (fun row => collate row.consumerKey == collate consumer.consumerKey && row.claimExpired s.now)
      (DeliveryRow.releaseClaim consumer.attemptLimit s.now)
      (fun _ => narrows_of_identity rfl rfl) }

/-- `x IS NULL OR x <= UTC_TIMESTAMP(6)`. -/
def dueBy (now : Nat) (time : Option Nat) : Bool :=
  time.all fun t => decide (t ≤ now)

/-- The conditions on the delivery row in the `SELECT` of
`claimPendingRows`. -/
def DeliveryRow.claimable (now : Nat) (row : DeliveryRow) : Bool :=
  (row.status == .pending || row.status == .failed) &&
    dueBy now row.nextAttemptAt && dueBy now row.claimExpiresAt

/-- The rows the `SELECT` of `claimPendingRows` returns. -/
def pendingRows (consumer : Consumer) (limit : Nat) (s : OutboxStore collate) : List DeliveryRow :=
  let events := (s.events.rows.filter
    (OutboxEvent.deliverable collate registry s.now)).insertionSort fun a b =>
      a.occurredAt < b.occurredAt ∨ a.occurredAt = b.occurredAt ∧ a.id ≤ b.id
  (events.flatMap fun event => s.deliveries.rows.filter fun row =>
    collate row.eventId == collate event.eventId &&
      collate row.consumerKey == collate consumer.consumerKey &&
      row.claimable s.now).take limit

/-- Five minutes. -/
def claimDuration : Nat := 5 * 60 * 1000000

def DeliveryRow.takeClaim (claimToken : String) (now : Nat) (row : DeliveryRow) : DeliveryRow :=
  { row with
    status := .claimed
    claimToken := some claimToken
    claimExpiresAt := some (now + claimDuration) }

/-- `claimPendingRows(pool, consumerKey, limit)`, which draws `claimToken`. -/
def claimPendingRows (consumer : Consumer) (limit : Nat) (claimToken : String)
    (s : OutboxStore collate) : OutboxStore collate :=
  let rows := pendingRows registry consumer limit s
  if rows.isEmpty then s
  else
    { s with
      deliveries := s.deliveries.update
        (fun row => collate row.consumerKey == collate consumer.consumerKey &&
          rows.any fun other => collate other.eventId == collate row.eventId)
        (DeliveryRow.takeClaim claimToken s.now)
        (fun _ => narrows_of_identity rfl rfl)
      claims := s.claims ++ [⟨claimToken, rows.map fun row => ⟨row.eventId, row.attemptCount⟩⟩] }

/-! ## Results -/

/-- `consumer_key = ? AND claim_token = ?`. -/
def DeliveryRow.carries (collate : String → String) (consumer : Consumer)
    (claimToken : String) (row : DeliveryRow) : Bool :=
  collate row.consumerKey == collate consumer.consumerKey &&
    row.claimToken.map collate == some (collate claimToken)

def DeliveryRow.deliver (responseStatus now : Nat) (row : DeliveryRow) : DeliveryRow :=
  { row with
    status := .delivered
    responseStatus := some responseStatus
    deliveredAt := some now
    claimToken := none
    claimExpiresAt := none
    lastErrorCode := none
    lastErrorMessage := none }

/-- The update of the rows in `markBatchDelivered(pool, consumer, claimToken,
rows, responseStatus)`. -/
def markBatchDelivered (consumer : Consumer) (claim : Claim)
    (responseStatus : Nat) (s : OutboxStore collate) : OutboxStore collate :=
  { s with
    deliveries := s.deliveries.update (fun row => row.carries collate consumer claim.claimToken &&
        claim.rows.any fun other => collate other.eventId == collate row.eventId)
      (DeliveryRow.deliver responseStatus s.now)
      (fun _ => narrows_of_identity rfl rfl) }

/-- What went wrong with a batch, and the clock of the worker in milliseconds
when it records that. -/
structure Failure where
  errorCode : String
  errorMessage : String
  responseStatus : Option Nat
  workerNow : Nat

/-- `String(text || fallback).slice(0, max)`. -/
def cutText (text fallback : String) (max : Nat) : String :=
  String.ofList ((if text = "" then fallback else text).toList.take max)

/-- The retry delay in seconds. -/
def retryDelaySeconds (consumer : Consumer) (nextAttempt : Nat) : Nat :=
  min ((if consumer.retryBaseSeconds = 0 then 30
      else consumer.retryBaseSeconds) * 2 ^ min (nextAttempt - 1) 8)
    86400

/-- The columns written for a row read with `attempt_count = attempts`. -/
def DeliveryRow.fail (consumer : Consumer) (attempts : Nat) (failure : Failure)
    (row : DeliveryRow) : DeliveryRow :=
  let nextAttempt := attempts + 1
  let dead := decide (consumer.attemptLimit ≤ nextAttempt)
  { row with
    status := if dead then .deadLetter else .failed
    attemptCount := nextAttempt
    responseStatus := failure.responseStatus
    lastErrorCode :=
      some (cutText failure.errorCode "outbox_delivery_failed" 120)
    lastErrorMessage :=
      some (cutText failure.errorMessage "Outbox delivery failed." 500)
    nextAttemptAt :=
      if dead then none
      else some (failure.workerNow * 1000 + retryDelaySeconds consumer nextAttempt * 1000000)
    claimToken := none
    claimExpiresAt := none }

/-- One iteration of the loop of `markBatchFailed(pool, consumer, claimToken,
rows, ...)`. -/
def markRowFailed (consumer : Consumer) (claim : Claim) (target : ClaimedRow)
    (failure : Failure) (s : OutboxStore collate) : OutboxStore collate :=
  { s with
    deliveries := s.deliveries.update (fun row => row.carries collate consumer claim.claimToken &&
        collate row.eventId == collate target.eventId)
      (DeliveryRow.fail consumer target.attemptCount failure)
      (fun _ => narrows_of_identity rfl rfl) }

/-! ## The system -/

/-- One statement or transaction of any worker, a producer queueing an event,
or time passing. -/
inductive OutboxOp
  | enqueue (registry : Registry) (event : OutboxEvent)
  | ensurePending (registry : Registry) (limit : Nat)
  | releaseExpired
  | claimPending (registry : Registry) (limit : Nat) (claimToken : String)
  | markDelivered (claim : Claim) (responseStatus : Nat)
  | markFailed (claim : Claim) (target : ClaimedRow) (failure : Failure)
  | tick (microseconds : Nat)

/-- A claim token is drawn at random, so it is a new one; and a worker records
results for a batch it was handed. -/
def OutboxOp.enabled (s : OutboxStore collate) : OutboxOp → Prop
  | .claimPending _ _ claimToken =>
    ∀ claim ∈ s.claims, collate claim.claimToken ≠ collate claimToken
  | .markDelivered claim _ => claim ∈ s.claims
  | .markFailed claim target _ => claim ∈ s.claims ∧ target ∈ claim.rows
  | _ => True

instance OutboxOp.decidableEnabled (s : OutboxStore collate) (op : OutboxOp) :
    Decidable (op.enabled s) :=
  match op with
  | .claimPending _ _ claimToken =>
    inferInstanceAs (Decidable (∀ claim ∈ s.claims, collate claim.claimToken ≠ collate claimToken))
  | .markDelivered claim _ => inferInstanceAs (Decidable (claim ∈ s.claims))
  | .markFailed claim target _ =>
    inferInstanceAs (Decidable (claim ∈ s.claims ∧ target ∈ claim.rows))
  | .enqueue _ _ => isTrue trivial
  | .ensurePending _ _ => isTrue trivial
  | .releaseExpired => isTrue trivial
  | .tick _ => isTrue trivial

def OutboxOp.apply (consumer : Consumer) (s : OutboxStore collate) : OutboxOp → OutboxStore collate
  | .enqueue registry event => insertEventAndDeliveries registry event s
  | .ensurePending registry limit =>
    ensurePendingDeliveries registry consumer limit s
  | .releaseExpired => releaseExpiredClaims consumer s
  | .claimPending registry limit claimToken =>
    claimPendingRows registry consumer limit claimToken s
  | .markDelivered claim responseStatus =>
    markBatchDelivered consumer claim responseStatus s
  | .markFailed claim target failure =>
    markRowFailed consumer claim target failure s
  | .tick microseconds => { s with now := s.now + microseconds }

/-- One step of the workers of `consumer`. -/
def OutboxStep (consumer : Consumer) (s : OutboxStore collate) (op : OutboxOp)
    (s' : OutboxStore collate) : Prop :=
  op.enabled s ∧ s' = op.apply consumer s

end GrowthOs.Outbox
