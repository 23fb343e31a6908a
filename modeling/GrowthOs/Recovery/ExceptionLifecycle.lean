import GrowthOs.Recovery.ControlStore
import GrowthOs.Support.ReadModifyWrite
import Mathlib.Data.List.Dedup

/-!
# Recovery exceptions

`recoveryExceptionLifecycle.js` over the production control store.  A call loads the
durable record of the exception, checks it, appends an event and stores the whole record
with its new state; `getException`, `appendExceptionEvent` and `putException` are atomic
each.  An exception is approved by its quorum of distinct principals, activated, and
then consumed, revoked or expired.
-/

namespace GrowthOs.Recovery

open Js Throwing List

/-! ## Records -/

/-- `EXCEPTION_LIFECYCLE_STATES`. -/
inductive ExceptionState
  | draft
  | awaitingApproval
  | approved
  | active
  | consumed
  | revoked
  | expired
  | failedClosed
deriving DecidableEq, Repr

def ExceptionState.text : ExceptionState → String
  | draft => "draft"
  | awaitingApproval => "awaiting_approval"
  | approved => "approved"
  | active => "active"
  | consumed => "consumed"
  | revoked => "revoked"
  | expired => "expired"
  | failedClosed => "failed_closed"

def exceptionLifecycleTransitions : ExceptionState → List ExceptionState
  | .draft => [.awaitingApproval, .approved, .failedClosed]
  | .awaitingApproval => [.awaitingApproval, .approved, .expired, .revoked, .failedClosed]
  | .approved => [.active, .expired, .revoked, .failedClosed]
  | .active => [.active, .consumed, .expired, .revoked, .failedClosed]
  | .consumed => []
  | .revoked => []
  | .expired => []
  | .failedClosed => []

/-- `["consumed", "revoked", "expired", "failed_closed"].includes(state)`. -/
def ExceptionState.isTerminal : ExceptionState → Bool
  | consumed => true
  | revoked => true
  | expired => true
  | failedClosed => true
  | _ => false

/-- `EXCEPTION_CLASSES`. -/
inductive ExceptionClass
  | E0
  | E1
  | E2
  | E3
  | E4
  | E5
  | E6
deriving DecidableEq, Repr

/-- `REQUIRED_REVIEWER_COUNTS`. -/
def requiredReviewerCount : ExceptionClass → Nat
  | .E0 => 0
  | .E6 => 2
  | _ => 1

structure ExceptionApproval where
  approvalId : String
  approvalHash : String
  principalFingerprint : String
  approvedAt : Int

/-- An event of the lifecycle, without its random id and its digest. -/
structure LifecycleEvent where
  event : String
  previousState : ExceptionState
  state : ExceptionState
  at_ : Int
  details : List (String × Val)

/-- The record of an exception; times in milliseconds. -/
structure ExceptionRecord where
  exceptionId : String
  exceptionClass : ExceptionClass
  expiresAt : Int
  maxUses : Nat
  uses : Nat
  requiredApprovals : Nat
  approvals : List ExceptionApproval
  state : ExceptionState
  events : List LifecycleEvent

/-! ## Checks -/

/-- `fail(status, code, message, details)`. -/
def lifecycleError (status : Nat) (code message : String) (details : List (String × Val)) : Val :=
  .obj [("message", .str message), ("status", .num (.ofNat status)), ("code", .str code),
    ("details", .obj (Val.spread details [("secrets_included", .bool false)]))]

def isRefChar (c : Char) : Bool :=
  isAsciiAlnum c || c == '.' || c == '_' || c == ':' || c == '-'

/-- `SAFE_REF_RE`, `/^[A-Za-z0-9][A-Za-z0-9._:-]{7,159}$/u`. -/
def isSafeRef (s : String) : Bool :=
  match s.toList with
  | [] => false
  | first :: rest =>
    isAsciiAlnum first && rest.all isRefChar && 7 ≤ rest.length && rest.length ≤ 159

def safeRef (value : Val) (field : String) : Except Val String := do
  let normalized ← text value 160
  rejectIf (isSafeRef normalized = false) (lifecycleError 400 "RECOVERY_REFERENCE_INVALID"
      (field ++ " must be a bounded repository-safe reference.") [])
  .ok normalized

def exactHash (value : Val) (field : String) : Except Val String := do
  let given ← text value 128
  rejectIf (isSha256 (toLowerCase given) = false)
    (lifecycleError 400 "RECOVERY_DIGEST_INVALID" (field ++ " must be a SHA-256 digest.") [])
  .ok (toLowerCase given)

variable (record : ExceptionRecord)

def lifecycleEvent (event : String) (nextState : ExceptionState) (details : List (String × Val))
    (now : Int) : Except Val LifecycleEvent := do
  rejectIf ((exceptionLifecycleTransitions record.state).contains nextState = false)
    (lifecycleError 409 "EXCEPTION_STATE_TRANSITION_INVALID"
      "Exception lifecycle transition is not permitted."
      [("state", .str record.state.text), ("next_state", .str nextState.text)])
  .ok ⟨event, record.state, nextState, now, details⟩

/-- The record with a new state and the event that led to it. -/
def ExceptionRecord.advance (event : LifecycleEvent) : ExceptionRecord :=
  { record with state := event.state, events := record.events ++ [event] }

/-- `Date.parse(record.expires_at) <= now`. -/
def assertUnexpired (now : Int) (message : String) : Except Val Unit :=
  rejectIf (record.expiresAt ≤ now) (lifecycleError 409 "EXCEPTION_EXPIRED" message [])

/-- The principals of the approvals, each once. -/
def ExceptionRecord.principals : List String :=
  (record.approvals.map ExceptionApproval.principalFingerprint).dedup

/-! ## The calls -/

/-- The event and the record a call writes; none where it returns the record as it is. -/
abbrev LifecycleDecision := Except Val (Option (LifecycleEvent × ExceptionRecord))

/-- The event of an approval. -/
def approvalEvent (decisions : List ExceptionApproval) (now : Int) : Except Val LifecycleEvent :=
  if record.requiredApprovals ≤ decisions.length then
    lifecycleEvent record "exception_approved" .approved
      [("approval_count", .num (.ofNat decisions.length)),
        ("dual_control_satisfied", .bool (record.requiredApprovals != 2 ||
          (decisions.map ExceptionApproval.principalFingerprint).dedup.length == 2))] now
  else
    lifecycleEvent record "exception_approval_recorded" .awaitingApproval
      [("approval_count", .num (.ofNat decisions.length))] now

def approveExceptionLifecycle (approvalInput : Val) (now : Int) (record : ExceptionRecord) :
    LifecycleDecision := do
  rejectIf (record.state ≠ .awaitingApproval) (lifecycleError 409 "EXCEPTION_APPROVAL_NOT_ALLOWED"
      "The exception is not awaiting approval." [])
  assertUnexpired record now "The exception has expired before approval."
  let principalFingerprint ← exactHash (approvalInput.member "principal_fingerprint")
    "principal_fingerprint"
  let approvalHash ← exactHash (approvalInput.member "approval_hash") "approval_hash"
  rejectIf ((record.approvals.any fun approval =>
      approval.principalFingerprint == principalFingerprint) = true)
    (lifecycleError 409 "EXCEPTION_DUPLICATE_APPROVAL"
      "A principal cannot provide more than one approval for the same exception." [])
  let approvalId ← safeRef (approvalInput.member "approval_id") "approval_id"
  let decisions := record.approvals ++ [⟨approvalId, approvalHash, principalFingerprint, now⟩]
  rejectIf (record.requiredApprovals < decisions.length)
    (lifecycleError 409 "EXCEPTION_APPROVAL_OVERFLOW"
      "The exception approval count exceeds its policy." [])
  let event ← approvalEvent record decisions now
  .ok (some (event, { record with approvals := decisions }.advance event))

def activateExceptionLifecycle (now : Int) (record : ExceptionRecord) : LifecycleDecision := do
  rejectIf (record.state ≠ .approved) (lifecycleError 409 "EXCEPTION_APPROVAL_REQUIRED"
      "The exception requires all policy approvals before activation." [])
  assertUnexpired record now "The exception has expired before activation."
  rejectIf (record.exceptionClass = .E6 ∧ record.principals.length < 2)
    (lifecycleError 403 "EXCEPTION_DUAL_CONTROL_REQUIRED"
      "E6 disaster exceptions require two distinct approved principal fingerprints." [])
  let event ← lifecycleEvent record "exception_activated" .active
    [("execution_allowed", .bool false), ("provider_connected", .bool false)] now
  .ok (some (event, record.advance event))

def heartbeatExceptionLease (heartbeatRef : Val) (now : Int) (record : ExceptionRecord) :
    LifecycleDecision := do
  rejectIf (record.state ≠ .active) (lifecycleError 409 "EXCEPTION_LEASE_NOT_ACTIVE"
      "Only an active exception can receive a heartbeat." [])
  assertUnexpired record now "The exception lease has expired."
  let ref ← safeRef heartbeatRef "heartbeat_ref"
  let event ← lifecycleEvent record "exception_heartbeat" .active [("heartbeat_ref", .str ref)] now
  .ok (some (event, record.advance event))

def consumeExceptionLifecycle (consumeRef : Val) (now : Int) (record : ExceptionRecord) :
    LifecycleDecision := do
  rejectIf (record.state ≠ .active)
    (lifecycleError 409 "EXCEPTION_NOT_ACTIVE" "Only an active exception can be consumed." [])
  assertUnexpired record now "The exception lease has expired."
  rejectIf (record.maxUses ≤ record.uses) (lifecycleError 409 "EXCEPTION_CONSUMED"
      "The exception has reached its single-use limit." [])
  let ref ← safeRef consumeRef "consume_ref"
  let event ← lifecycleEvent record "exception_consumed" .consumed
    [("consume_ref", .str ref), ("use_number", .num (.ofNat (record.uses + 1))),
      ("runtime_mutation_performed", .bool false)] now
  .ok (some (event, { record with uses := record.uses + 1 }.advance event))

def revokeExceptionLifecycle (reasonRef : Val) (now : Int) (record : ExceptionRecord) :
    LifecycleDecision := do
  rejectIf (record.state.isTerminal = true)
    (lifecycleError 409 "EXCEPTION_REVOKE_NOT_ALLOWED" "The exception is already terminal." [])
  let ref ← safeRef reasonRef "reason_ref"
  let event ← lifecycleEvent record "exception_revoked" .revoked [("reason_ref", .str ref)] now
  .ok (some (event, record.advance event))

def expireExceptionLifecycle (now : Int) (record : ExceptionRecord) : LifecycleDecision := do
  rejectIf (now < record.expiresAt) (lifecycleError 409 "EXCEPTION_NOT_EXPIRED"
      "The exception has not reached its expiry time." [])
  if record.state.isTerminal then .ok none
  else do
    let event ← lifecycleEvent record "exception_expired" .expired [] now
    .ok (some (event, record.advance event))

inductive ExceptionCall
  | approve (approvalInput : Val) (now : Int)
  | activate (now : Int)
  | heartbeat (heartbeatRef : Val) (now : Int)
  | consume (consumeRef : Val) (now : Int)
  | revoke (reasonRef : Val) (now : Int)
  | expire (now : Int)

/-- What a call decides on the record it has loaded. -/
def ExceptionCall.decision : ExceptionCall → ExceptionRecord → LifecycleDecision
  | .approve approvalInput now => approveExceptionLifecycle approvalInput now
  | .activate now => activateExceptionLifecycle now
  | .heartbeat heartbeatRef now => heartbeatExceptionLease heartbeatRef now
  | .consume consumeRef now => consumeExceptionLifecycle consumeRef now
  | .revoke reasonRef now => revokeExceptionLifecycle reasonRef now
  | .expire now => expireExceptionLifecycle now

/-- The record `createExceptionLifecycle` stores. -/
def createdException (exceptionId : String) (exceptionClass : ExceptionClass)
    (expiresAt now : Int) : ExceptionRecord :=
  let required := requiredReviewerCount exceptionClass
  let state : ExceptionState := if required = 0 then .approved else .awaitingApproval
  { exceptionId, exceptionClass, expiresAt, maxUses := 1, uses := 0
    requiredApprovals := required, approvals := [], state
    events := [⟨"exception_created", .draft, state, now,
      [("required_approvals", .num (.ofNat required)),
        ("approval_satisfied", .bool (required == 0))]⟩] }

abbrev ExceptionSystem := ReadModifyWrite.State ExceptionRecord ExceptionCall LifecycleEvent
abbrev ExceptionEvent := ReadModifyWrite.Event ExceptionRecord ExceptionCall LifecycleEvent Val

/-- The accesses of any number of calls on one exception. -/
abbrev ExceptionStep : ExceptionSystem → ExceptionEvent → ExceptionSystem → Prop :=
  ReadModifyWrite.Step ExceptionCall.decision

/-- The steps in which a record is stored only over the one its call has read. -/
def UndisturbedStep : ExceptionSystem → ExceptionEvent → ExceptionSystem → Prop :=
  Transition.restrict ExceptionStep ReadModifyWrite.Undisturbed

/-- A consume call stores its record and returns ok. -/
def isConsumed : ExceptionEvent → Bool
  | .wrote write =>
    match write.call with
    | .consume .. => true
    | _ => false
  | _ => false

/-! ## What a decision does -/

variable {record} {now : Int} {event : LifecycleEvent}

theorem lifecycleEvent_ok {name : String} {nextState : ExceptionState}
    {details : List (String × Val)}
    (h : lifecycleEvent record name nextState details now = .ok event) :
    nextState ∈ exceptionLifecycleTransitions record.state ∧ event.state = nextState := by
  simp only [lifecycleEvent, bind_eq_ok, rejectIf_eq_ok, Bool.not_eq_false] at h
  obtain ⟨_, hallowed, h⟩ := h
  cases h
  exact ⟨by simpa using hallowed, rfl⟩

/-- The principals are distinct, and enough of them stand behind an approved or active
exception. -/
structure Quorum (record : ExceptionRecord) : Prop where
  distinct : (record.approvals.map ExceptionApproval.principalFingerprint).Nodup
  enough : record.state = .approved ∨ record.state = .active →
    record.requiredApprovals ≤ record.approvals.length

theorem Quorum.principals (h : Quorum record)
    (hstate : record.state = .approved ∨ record.state = .active) :
    record.requiredApprovals ≤ record.principals.length := by
  rw [ExceptionRecord.principals, List.Nodup.dedup h.distinct, length_map]
  exact h.enough hstate

theorem Quorum.advance (h : Quorum record)
    (henough : event.state = .approved ∨ event.state = .active →
      record.state = .approved ∨ record.state = .active) : Quorum (record.advance event) :=
  ⟨h.distinct, fun hstate => h.enough (henough hstate)⟩

variable {next : ExceptionRecord}

/-- An approval adds a new principal, and approves once there are enough. -/
theorem approve_quorum {approvalInput : Val} (hquorum : Quorum record)
    (h : approveExceptionLifecycle approvalInput now record = .ok (some (event, next))) :
    Quorum next := by
  simp only [approveExceptionLifecycle, bind_eq_ok, rejectIf_eq_ok] at h
  obtain ⟨_, _, _, _, principal, _, approvalHash, _, _, hnew, approvalId, _, _, _, entry,
    hentry, h⟩ := h
  cases h
  constructor
  · simp only [ExceptionRecord.advance, map_append, map_cons, map_nil]
    rw [nodup_append]
    refine ⟨hquorum.distinct, nodup_singleton _, ?_⟩
    intro a ha b hb hab
    rw [mem_singleton] at hb
    subst hab
    subst hb
    obtain ⟨approval, hmem, hsame⟩ := mem_map.mp ha
    exact hnew (any_eq_true.mpr ⟨approval, hmem, by simpa using hsame⟩)
  · intro hstate
    unfold approvalEvent at hentry
    split_ifs at hentry with henough
    · exact henough
    · obtain ⟨_, hawaiting⟩ := lifecycleEvent_ok hentry
      simp [ExceptionRecord.advance, hawaiting] at hstate

theorem decision_quorum (call : ExceptionCall) (record : ExceptionRecord)
    (event : LifecycleEvent) (next : ExceptionRecord) (hquorum : Quorum record)
    (h : call.decision record = .ok (some (event, next))) : Quorum next := by
  cases call with
  | approve approvalInput now => exact approve_quorum hquorum h
  | activate now =>
    simp only [ExceptionCall.decision, activateExceptionLifecycle, bind_eq_ok, rejectIf_eq_ok,
      not_not] at h
    obtain ⟨_, happroved, _, _, _, _, entry, _, h⟩ := h
    cases h
    exact hquorum.advance fun _ => .inl happroved
  | heartbeat heartbeatRef now =>
    simp only [ExceptionCall.decision, heartbeatExceptionLease, bind_eq_ok, rejectIf_eq_ok,
      not_not] at h
    obtain ⟨_, hactive, _, _, _, _, entry, _, h⟩ := h
    cases h
    exact hquorum.advance fun _ => .inr hactive
  | consume consumeRef now =>
    simp only [ExceptionCall.decision, consumeExceptionLifecycle, bind_eq_ok, rejectIf_eq_ok,
      not_not] at h
    obtain ⟨_, hactive, _, _, _, _, _, _, entry, _, h⟩ := h
    cases h
    exact ⟨hquorum.distinct, fun _ => hquorum.enough (.inr hactive)⟩
  | revoke reasonRef now =>
    simp only [ExceptionCall.decision, revokeExceptionLifecycle, bind_eq_ok] at h
    obtain ⟨_, _, _, _, entry, hentry, h⟩ := h
    cases h
    obtain ⟨_, hrevoked⟩ := lifecycleEvent_ok hentry
    exact hquorum.advance (by simp [hrevoked])
  | expire now =>
    simp only [ExceptionCall.decision, expireExceptionLifecycle, bind_eq_ok] at h
    obtain ⟨_, _, h⟩ := h
    split_ifs at h
    · cases h
    · simp only [bind_eq_ok] at h
      obtain ⟨entry, hentry, h⟩ := h
      cases h
      obtain ⟨_, hexpired⟩ := lifecycleEvent_ok hentry
      exact hquorum.advance (by simp [hexpired])

/-- A record of these states is never written again. -/
theorem decision_not_terminal {call : ExceptionCall}
    (h : call.decision record = .ok (some (event, next))) : record.state.isTerminal = false := by
  by_contra hterminal
  rw [Bool.not_eq_false] at hterminal
  cases call with
  | revoke reasonRef now =>
    simp only [ExceptionCall.decision, revokeExceptionLifecycle, bind_eq_ok, rejectIf_eq_ok] at h
    obtain ⟨_, hopen, _⟩ := h
    exact hopen hterminal
  | expire now =>
    simp only [ExceptionCall.decision, expireExceptionLifecycle, bind_eq_ok, hterminal,
      if_true] at h
    obtain ⟨_, _, h⟩ := h
    cases h
  | _ =>
    -- the other calls begin with a test for one state
    simp only [ExceptionCall.decision, approveExceptionLifecycle, activateExceptionLifecycle,
      heartbeatExceptionLease, consumeExceptionLifecycle, bind_eq_ok, rejectIf_eq_ok,
      not_not] at h
    obtain ⟨_, hstate, _⟩ := h
    simp [hstate, ExceptionState.isTerminal] at hterminal

theorem consume_state {consumeRef : Val}
    (h : (ExceptionCall.consume consumeRef now).decision record = .ok (some (event, next))) :
    next.state = .consumed := by
  simp only [ExceptionCall.decision, consumeExceptionLifecycle, bind_eq_ok] at h
  obtain ⟨_, _, _, _, _, _, _, _, entry, hentry, h⟩ := h
  cases h
  exact (lifecycleEvent_ok hentry).2

/-! ## Runs -/

theorem Quorum.created (exceptionId : String) (exceptionClass : ExceptionClass)
    (expiresAt now : Int) : Quorum (createdException exceptionId exceptionClass expiresAt now) := by
  refine ⟨nodup_nil, fun hstate => ?_⟩
  by_cases hrequired : requiredReviewerCount exceptionClass = 0
  · simp [createdException, hrequired]
  · simp [createdException, hrequired] at hstate

variable {s : ExceptionSystem} {events : List ExceptionEvent}

/-- The quorum stands in every interleaving, lost updates included. -/
theorem quorum_of_run {exceptionId : String} {exceptionClass : ExceptionClass} {expiresAt : Int}
    (hrun : Transition.Run ExceptionStep
      (.start (createdException exceptionId exceptionClass expiresAt now)) events s) :
    Quorum s.stored :=
  (ReadModifyWrite.sound_of_run decision_quorum hrun (.created _ _ _ _)).1

/-- Every pending write is the decision of its call. -/
def Decided (s : ExceptionSystem) : Prop :=
  ReadModifyWrite.Sound ExceptionCall.decision (fun _ => True) s

variable {s' : ExceptionSystem} {e : ExceptionEvent}

theorem Decided.step (h : Decided s) (hstep : ExceptionStep s e s') : Decided s' :=
  ReadModifyWrite.Sound.step (fun _ _ _ _ _ _ => trivial) h hstep

/-- A terminal record is written by no undisturbed step. -/
theorem terminal_step (h : Decided s) (hterminal : s.stored.state.isTerminal = true)
    (hstep : UndisturbedStep s e s') : (∀ write, e ≠ .wrote write) ∧ s'.stored = s.stored := by
  rcases h.atomic hstep.1 hstep.2 with hkept | ⟨write, _, hdecision⟩
  · exact hkept
  · rw [decision_not_terminal hdecision] at hterminal
    cases hterminal

theorem consumed_step (h : Decided s) (hstep : UndisturbedStep s e s')
    (hconsumed : isConsumed e = true) : s'.stored.state.isTerminal = true := by
  rcases h.atomic hstep.1 hstep.2 with
    ⟨hnone, _⟩ | ⟨⟨call, read, entry, next, logged⟩, rfl, hdecision⟩
  · cases e with
    | wrote write => exact absurd rfl (hnone write)
    | _ => cases hconsumed
  · cases call with
    | consume consumeRef now => rw [consume_state hdecision]; rfl
    | _ => cases hconsumed

theorem consumed_at_most_once (hdecided : Decided s)
    (hrun : Transition.Run UndisturbedStep s events s') : events.countP isConsumed ≤ 1 := by
  -- the steps of the run start in states whose pending writes are decisions
  refine (hrun.strengthen (fun _ _ _ h hstep => h.step hstep.1) hdecided).countP_le_one
    (Q := fun s => s.stored.state.isTerminal = true) ?_ ?_ ?_
  · rintro s event s' ⟨hstep, h⟩ hconsumed
    exact consumed_step h hstep hconsumed
  · rintro s event s' hterminal ⟨hstep, h⟩
    rw [(terminal_step h hterminal hstep).2]
    exact hterminal
  · rintro s event s' hterminal ⟨hstep, h⟩
    cases event with
    | wrote write => exact absurd rfl ((terminal_step h hterminal hstep).1 write)
    | _ => rfl

/-! ## One activated exception -/

/-- An exception of class E0 needs no approval. -/
def sampleException : ExceptionRecord :=
  createdException "exception:0001" .E0 1800000 0

def sampleActivation : LifecycleEvent :=
  ⟨"exception_activated", .approved, .active, 1,
    [("execution_allowed", .bool false), ("provider_connected", .bool false)]⟩

def activatedException : ExceptionRecord :=
  sampleException.advance sampleActivation

theorem sample_activates :
    (ExceptionCall.activate 1).decision sampleException
      = .ok (some (sampleActivation, activatedException)) :=
  rfl

def sampleConsumption : LifecycleEvent :=
  ⟨"exception_consumed", .active, .consumed, 2,
    [("consume_ref", .str "consume:0001"), ("use_number", .num (.ofNat 1)),
      ("runtime_mutation_performed", .bool false)]⟩

def consumedException : ExceptionRecord :=
  { activatedException with uses := 1 }.advance sampleConsumption

theorem sample_consumes :
    (ExceptionCall.consume (.str "consume:0001") 2).decision activatedException
      = .ok (some (sampleConsumption, consumedException)) :=
  rfl

/-- Where no call stores its record over one it has not read, an exception is consumed at
most once, a terminal record stays as it is, and an approved or active one has its
quorum. -/
theorem exception_single_use {exceptionId : String} {exceptionClass : ExceptionClass}
    {expiresAt now : Int} {events : List ExceptionEvent} {s : ExceptionSystem}
    (hrun : Transition.Run UndisturbedStep
      (.start (createdException exceptionId exceptionClass expiresAt now)) events s) :
    events.countP isConsumed ≤ 1 ∧
      (s.stored.state = .consumed ∨ s.stored.state = .revoked ∨ s.stored.state = .expired →
        ∀ later s', Transition.Run UndisturbedStep s later s' → s'.stored = s.stored) ∧
      (s.stored.state = .approved ∨ s.stored.state = .active →
        s.stored.requiredApprovals ≤ s.stored.principals.length) := by
  have hstart : Decided (.start (createdException exceptionId exceptionClass expiresAt now)) :=
    ReadModifyWrite.Sound.start trivial
  have hdecided : Decided s := hrun.invariant (fun _ _ _ h hstep => h.step hstep.1) hstart
  refine ⟨consumed_at_most_once hstart hrun, ?_, (quorum_of_run hrun.of_restrict).principals⟩
  intro hfinal later s' hlater
  have hterminal : s.stored.state.isTerminal = true := by
    rcases hfinal with h | h | h <;> rw [h] <;> rfl
  refine (hlater.invariant (I := fun t => Decided t ∧ t.stored = s.stored) ?_ ⟨hdecided, rfl⟩).2
  rintro t event t' ⟨ht, hsame⟩ hstep
  refine ⟨ht.step hstep.1, ?_⟩
  rw [(terminal_step ht (by rw [hsame]; exact hterminal) hstep).2, hsame]

theorem consumed_once_in_sequence :
    ∃ events s, Transition.Run UndisturbedStep (.start sampleException) events s ∧
      s.stored.state = .consumed ∧ events.countP isConsumed ≤ 1 ∧
      ∀ later s', Transition.Run UndisturbedStep s later s' → s'.stored = s.stored := by
  have hrun := (ReadModifyWrite.run_call (s := .start sampleException) sample_activates).append
    (ReadModifyWrite.run_call sample_consumes)
  obtain ⟨honce, hfinal, _⟩ := exception_single_use hrun
  exact ⟨_, _, hrun, rfl, honce, hfinal (.inl rfl)⟩

/-- Two consume calls read the active record, and both store theirs. -/
theorem two_consumes_succeed :
    ∃ events s, Transition.Run ExceptionStep (.start sampleException) events s ∧
      events.countP isConsumed = 2 := by
  let call := ExceptionCall.consume (.str "consume:0001") 2
  let waiting : ReadModifyWrite.Pending ExceptionRecord ExceptionCall LifecycleEvent :=
    ⟨call, activatedException, sampleConsumption, consumedException, false⟩
  let ready := { waiting with logged := true }
  have hactive := (ReadModifyWrite.run_call (s := .start sampleException)
    sample_activates).of_restrict
  have hboth : Transition.Run ExceptionStep ⟨activatedException, [sampleActivation], []⟩
      [.loaded call, .loaded call, .logged call, .logged call, .wrote ready, .wrote ready]
      ⟨consumedException, [sampleActivation, sampleConsumption, sampleConsumption], []⟩ :=
    .cons (.loaded sample_consumes) <|
    .cons (.loaded sample_consumes) <|
    .cons (@ReadModifyWrite.Step.logged _ _ _ _ _ _ waiting [] [waiting] rfl rfl) <|
    .cons (@ReadModifyWrite.Step.logged _ _ _ _ _ _ waiting [ready] [] rfl rfl) <|
    .cons (@ReadModifyWrite.Step.wrote _ _ _ _ _ _ ready [] [ready] rfl rfl) <|
    .single (@ReadModifyWrite.Step.wrote _ _ _ _ _ _ ready [] [] rfl rfl)
  exact ⟨_, _, hactive.append hboth, rfl⟩

end GrowthOs.Recovery
