import GrowthOs.Js.Text
import GrowthOs.Js.Value
import GrowthOs.Support.Throwing

/-!
# Credential intake sessions

`credentialIntakeSingleUse.js` reads a session with `FOR UPDATE`, runs its callbacks and
writes the session in one transaction.  Calls for the same token take turns: the row stays
locked until the transaction of a call has ended.
-/

namespace GrowthOs.CredentialIntake

open Js Throwing List

inductive SessionStatus
  | pending | used | expired | revoked | error
deriving DecidableEq

def SessionStatus.text : SessionStatus → String
  | .pending => "pending"
  | .used => "used"
  | .expired => "expired"
  | .revoked => "revoked"
  | .error => "error"

/-- A row of `credential_intake_sessions`; `expiresAt` is `none` for an invalid date. -/
structure SessionRow where
  status : SessionStatus
  expiresAt : Option Int
  connectionId : Option String
  revokedReason : Option String

/-- The clock and the callbacks of one call, which return a value or throw. -/
structure Call where
  now : Int
  validateSession : Option (Except Val Val)
  createConnection : Except Val Val

inductive Reply
  | intakeError (code : String) (status : Nat)
  | ok (session : SessionRow) (connectionId : String) (created : Val)

/-- How a transaction ends.  A commit stores the session and, where `createConnection` has
run, the connection it has made. -/
inductive Ending
  | rollback (code : String) (status : Nat)
  | commit (session : SessionRow) (connection : Option String) (reply : Reply)

def connectionIdMissing : Val :=
  .obj [("message", .str "Credential intake connection creation did not return connectionId."),
    ("code", .str "credential_intake_connection_id_missing"), ("status", .num (.ofNat 500))]

/-- The transaction once the session is valid.  The row is locked and pending, so that the
conditional update affects it. -/
def useSession (call : Call) (session : SessionRow) : Except Val Ending := do
  let created ← call.createConnection
  let text ← ((created.member "connectionId").or (.str "")).toStr
  if trim text = "" then .error connectionIdMissing
  else .ok (.commit { session with status := .used, connectionId := trim text }
    (trim text) (.ok session (trim text) created))

/-- The transaction of a call on the row it has locked; what it throws rolls it back. -/
def atomicallyConsumeCredentialIntakeSession (call : Call) :
    Option SessionRow → Except Val Ending
  | none => .ok (.rollback "credential_intake_session_not_found" 404)
  | some session =>
    if session.status ≠ .pending then
      .ok (.rollback ("credential_intake_session_" ++ session.status.text) 410)
    else if session.expiresAt.any (· ≤ call.now) then
      .ok (.commit { session with status := .expired } none
        (.intakeError "credential_intake_session_expired" 410))
    else
      match call.validateSession with
      | none => useSession call session
      | some validateSession => do
        let validation ← validateSession
        if (validation.member "ok").truthy then useSession call session
        else
          let code ← ((validation.member "code").or
            (.str "credential_intake_authority_revoked")).toStr
          .ok (.commit { session with status := .revoked, revokedReason := cut 128 code } none
            (.intakeError (cut 128 code) 410))

/-- The connection a reply reports. -/
def Reply.connection : Reply → Option String
  | .ok _ connectionId _ => some connectionId
  | .intakeError .. => none

/-- A transaction that commits has found the session pending; the connection it has made is
the one it reports and the session is used for. -/
def Ending.Ends (old : SessionRow) : Ending → Prop
  | .rollback .. => True
  | .commit session connection reply =>
    old.status = .pending ∧ reply.connection = connection ∧
      ∀ id ∈ connection, session.status = .used ∧ session.connectionId = some id

variable {call : Call} {session : SessionRow} {ending : Ending}

theorem useSession_ends (hpending : session.status = .pending)
    (h : useSession call session = .ok ending) : ending.Ends session := by
  obtain ⟨created, -, h⟩ := bind_eq_ok.mp h
  obtain ⟨text, -, h⟩ := bind_eq_ok.mp h
  split_ifs at h
  cases h
  simp [Ending.Ends, Reply.connection, hpending]

theorem atomicallyConsumeCredentialIntakeSession_ends
    (h : atomicallyConsumeCredentialIntakeSession call (some session) = .ok ending) :
    ending.Ends session := by
  simp only [atomicallyConsumeCredentialIntakeSession] at h
  split_ifs at h with hended
  · cases h
    trivial
  · cases h
    simp_all [Ending.Ends, Reply.connection]
  · have hpending := not_not.mp hended
    split at h
    · exact useSession_ends hpending h
    · obtain ⟨validation, -, h⟩ := bind_eq_ok.mp h
      split_ifs at h
      · exact useSession_ends hpending h
      · obtain ⟨code, -, h⟩ := bind_eq_ok.mp h
        cases h
        simp [Ending.Ends, Reply.connection, hpending]

/-! ## Calls that take turns -/

/-- The stored session, the transaction that holds its row, the connections whose creation
is committed, and the replies of the calls that have returned. -/
structure Intake where
  session : SessionRow
  lock : Option (Except Val Ending)
  connections : List String
  replies : List Reply

inductive Event
  | select (call : Call)
  | finish (acknowledged : Bool)
  | fail

/-- A call that finds the row locked waits for a later event.  A commit may take place
without the call learning of it; a transaction that fails, or whose callbacks throw, leaves
nothing behind. -/
def Intake.step (s : Intake) : Event → Intake
  | .select call =>
    if s.lock.isSome then s
    else { s with lock := atomicallyConsumeCredentialIntakeSession call s.session }
  | .finish acknowledged =>
    match s.lock with
    | some (.ok (.commit session connection reply)) =>
      ⟨session, none, s.connections ++ connection.toList,
        s.replies ++ if acknowledged then [reply] else []⟩
    | some (.ok (.rollback code status)) =>
      { s with lock := none, replies := s.replies ++ [.intakeError code status] }
    | _ => { s with lock := none }
  | .fail => { s with lock := none }

/-- The row is as its holder has read it, and what is committed and reported is the
connection the session is used for. -/
structure Intake.Kept (s : Intake) : Prop where
  read : ∀ ending, s.lock = some (.ok ending) → ending.Ends s.session
  reported : s.replies.filterMap Reply.connection <+ s.connections
  recorded : s.connections = [] ∨
    s.session.status = .used ∧ s.connections = s.session.connectionId.toList

variable {s : Intake}

theorem Intake.Kept.step (hs : s.Kept) (e : Event) :
    (s.step e).Kept ∧ (s.session.status ≠ .pending → (s.step e).session = s.session) := by
  obtain ⟨hread, hreported, hrecorded⟩ := hs
  fun_cases Intake.step s e with
  | case1 call hlock => exact ⟨⟨hread, hreported, hrecorded⟩, fun _ => rfl⟩
  | case2 call hlock =>
    refine ⟨⟨fun ending h => ?_, hreported, hrecorded⟩, fun _ => rfl⟩
    exact atomicallyConsumeCredentialIntakeSession_ends (Option.some.inj h)
  | case3 acknowledged session connection reply hlock =>
    obtain ⟨hpending, hreply, hmade⟩ := hread _ hlock
    -- a session that is still pending has not been used before
    have hnone : s.connections = [] := hrecorded.resolve_right (by simp [hpending])
    rw [hnone, sublist_nil] at hreported
    refine ⟨⟨by simp, ?_, ?_⟩, fun h => absurd hpending h⟩
    · cases acknowledged <;> cases connection <;> simp [*]
    · cases connection <;> simp_all
  | case4 acknowledged code status hlock =>
    exact ⟨⟨by simp, by simpa [filterMap_cons, Reply.connection], hrecorded⟩, fun _ => rfl⟩
  | case5 | case6 => exact ⟨⟨by simp, hreported, hrecorded⟩, fun _ => rfl⟩

theorem Intake.Kept.run (events : List Event) (hs : s.Kept) :
    (events.foldl Intake.step s).Kept ∧
      (s.session.status ≠ .pending → (events.foldl Intake.step s).session = s.session) := by
  induction events generalizing s with
  | nil => exact ⟨hs, fun _ => rfl⟩
  | cons e events ih =>
    obtain ⟨hkept, hsession⟩ := hs.step e
    obtain ⟨hrest, hlast⟩ := ih hkept
    refine ⟨hrest, fun hended => ?_⟩
    exact (hlast (by rwa [hsession hended])).trans (hsession hended)

/-- However calls for one token take turns, at most one is answered with a connection and
at most one connection is committed, which is the one the session is used for and records;
a session that is used, expired or revoked stays as it is. -/
theorem credential_intake_is_single_use (session : SessionRow) (past future : List Event) :
    let s := past.foldl Intake.step ⟨session, none, [], []⟩
    let t := future.foldl Intake.step s
    (t.replies.filterMap Reply.connection).length ≤ 1 ∧
      (∀ reply ∈ t.replies, ∀ id ∈ reply.connection, id ∈ t.connections) ∧
      (t.connections = [] ∨
        t.session.status = .used ∧ t.connections = t.session.connectionId.toList) ∧
      (s.session.status ≠ .pending → t.session = s.session) := by
  intro s t
  have hstart : Intake.Kept ⟨session, none, [], []⟩ := ⟨by simp, .slnil, .inl rfl⟩
  have hs : s.Kept := (hstart.run past).1
  obtain ⟨⟨-, hreported, hrecorded⟩, hended⟩ := hs.run future
  refine ⟨hreported.length_le.trans ?_, ?_, hrecorded, hended⟩
  · obtain h | ⟨-, h⟩ := hrecorded <;> rw [h]
    · simp
    · cases t.session.connectionId <;> simp
  · intro reply hreply id hid
    exact hreported.subset (mem_filterMap.mpr ⟨reply, hreply, hid⟩)

end GrowthOs.CredentialIntake
