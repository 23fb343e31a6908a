import GrowthOs.Containers.Mutation
import GrowthOs.Support.Transition

/-!
# Repeated and concurrent calls under one idempotency key

Any number of calls with the same input and key run concurrently, one
statement or transaction at a time, and may crash in between.  The digest that
a call compares includes the identifier of the row it would insert.  When the
input carries that identifier all calls have the same digest, and the primary
key admits one of their insertions; when it does not, every call draws its own.
-/

namespace GrowthOs.Containers

open Js Table Transition List
open Throwing (bind_eq_ok)

variable {sql : Sql}

/-! ## The row a call inserts -/

/-- The identifiers in the table that a service inserts into. -/
def rowIds (kind : MutationKind) (s : AuthorityStore sql) : List String :=
  match kind with
  | .relationship => s.relationships.rows.map (·.relationshipId)
  | .roleAssignment => s.roleAssignments.rows.map (·.assignmentId)
  | .resourceBinding => s.bindings.rows.map (·.bindingId)

def MutationRequest.kind : MutationRequest → MutationKind
  | .relationship _ => .relationship
  | .roleAssignment _ => .roleAssignment
  | .resourceBinding _ => .resourceBinding

/-- One row is added, under an identifier that was free, and nothing of the
kept results changes. -/
structure MutationRequest.Inserts (request : MutationRequest)
    (s s' : AuthorityStore sql) : Prop where
  ids : rowIds request.kind s' = rowIds request.kind s ++ [request.resultId]
  fresh : ∀ id ∈ rowIds request.kind s, sql.collate id ≠ sql.collate request.resultId
  idempotency : s'.idempotency = s.idempotency
  now : s'.now = s.now

/-- An insertion into a table whose only key is the collated identifier. -/
theorem insert_fresh {α : Type} (idOf : α → String)
    {t t' : UniqueTable [fun row => some [sql.collate (idOf row)]]} {row : α}
    (h : t.insert row = some t') :
    t'.rows.map idOf = t.rows.map idOf ++ [idOf row] ∧
      ∀ other ∈ t.rows.map idOf, sql.collate other ≠ sql.collate (idOf row) := by
  obtain ⟨hrows, hfree⟩ := UniqueTable.insert_eq_some h
  constructor
  · rw [hrows, map_append, map_singleton]
  · intro other hother hsame
    obtain ⟨old, hold, rfl⟩ := mem_map.mp hother
    refine hfree old hold ⟨_, mem_singleton_self _, ?_⟩
    simp [hsame]

variable {s s' : AuthorityStore sql}

theorem insertRelationship_inserts {r : RelationshipRequest} (h : insertRelationship r s = .ok s') :
    (MutationRequest.relationship r).Inserts s s' := by
  simp only [insertRelationship, bind_eq_ok, requireRow_eq_ok] at h
  obtain ⟨_, _, _, _, _, _, relationships, hinsert, h⟩ := h
  obtain ⟨hids, hfresh⟩ := insert_fresh RelationshipRow.relationshipId hinsert
  cases h
  exact ⟨hids, hfresh, rfl, rfl⟩

theorem insertRoleAssignment_inserts {r : RoleAssignmentRequest}
    (h : insertRoleAssignment r s = .ok s') : (MutationRequest.roleAssignment r).Inserts s s' := by
  simp only [insertRoleAssignment, bind_eq_ok, requireRow_eq_ok] at h
  obtain ⟨_, _, _, _, _, _, roleAssignments, hinsert, h⟩ := h
  obtain ⟨hids, hfresh⟩ := insert_fresh RoleAssignmentRow.assignmentId hinsert
  cases h
  exact ⟨hids, hfresh, rfl, rfl⟩

theorem insertBinding_inserts {r : BindingRequest} {resourceRef : String}
    {sourceTable sourcePk : Val} (h : insertBinding r resourceRef sourceTable sourcePk s = .ok s') :
    (MutationRequest.resourceBinding r).Inserts s s' := by
  simp only [insertBinding, bind_eq_ok, requireRow_eq_ok] at h
  obtain ⟨_, _, _, _, _, _, _, _, bindings, hinsert, h⟩ := h
  obtain ⟨hids, hfresh⟩ := insert_fresh BindingRow.bindingId hinsert
  cases h
  exact ⟨hids, hfresh, rfl, rfl⟩

variable {resolution : Option LedgerRow} {reg : Registry} {expectedEpoch : Option Nat}

/-- The `work` of a call inserts its row, and returns JSON data. -/
theorem work_inserts {request : MutationRequest} {currentEpoch : Nat} {result : List (String × Val)}
    (h : request.work reg resolution expectedEpoch currentEpoch s = .ok (result, s')) :
    request.Inserts s s' ∧ jsonFields result = result := by
  have htext : ∀ text : Option String, jsonValue (optionVal text) = some (optionVal text) := by
    intro text
    cases text <;> rfl
  cases request with
  | relationship r =>
    simp only [MutationRequest.work, relationshipWork, bind_eq_ok] at h
    obtain ⟨_, _, _, _, inserted, hinsert, h⟩ := h
    cases h
    exact ⟨insertRelationship_inserts hinsert, rfl⟩
  | roleAssignment r =>
    simp only [MutationRequest.work, roleAssignmentWork, bind_eq_ok] at h
    obtain ⟨_, _, _, _, _, _, inserted, hinsert, h⟩ := h
    cases h
    refine ⟨insertRoleAssignment_inserts hinsert, ?_⟩
    simp [jsonFields, jsonValue, htext, RoleAssignmentRequest.principal]
  | resourceBinding r =>
    simp only [MutationRequest.work, bindingWork, bind_eq_ok] at h
    obtain ⟨_, _, _, _, _, _, _, _, _, _, _, _, inserted, hinsert, h⟩ := h
    cases h
    exact ⟨insertBinding_inserts hinsert, rfl⟩

variable {rt : Runtime} {localeLe : String → String → Bool} {response : Val} {call : PreparedCall}

/-- What a committed call inserts and answers. -/
theorem commitCall_inserts
    (h : commitCall rt localeLe reg call resolution expectedEpoch s = .ok (response, s')) :
    call.request.Inserts s s' ∧ json response = response ∧ response.truthy = true := by
  obtain ⟨outcome, written, hwork, hsame, rfl⟩ := commitCall_ok h
  obtain ⟨hinserts, hplain⟩ := work_inserts hwork
  refine ⟨?_, ?_, rfl⟩
  · have hids : rowIds call.request.kind s' = rowIds call.request.kind written := by
      unfold rowIds
      rw [hsame.relationships, hsame.roleAssignments, hsame.bindings]
    constructor
    · rw [hids, hinserts.ids]
    · exact hinserts.fresh
    · rw [hsame.idempotency, hinserts.idempotency]
    · rw [hsame.now, hinserts.now]
  · unfold responseOf json
    split <;> simp [jsonValue, jsonFields_append, hplain, jsonFields, Number.ofNat]

/-! ## Calls that share their input and key -/

/-- The arguments all calls have in common; what they expect of the authority
epoch may differ. -/
structure SharedCall where
  kind : MutationKind
  input : Val
  idempotencyKey : Val
  actorId : Val

def SharedCall.prepare (shared : SharedCall) (drawnId : String) : Except Val PreparedCall :=
  prepareCall shared.kind shared.input ⟨shared.idempotencyKey, .undefined, shared.actorId⟩ drawnId

/-- How far a call has come. -/
inductive CallPhase
  | idle
  | prepared (call : PreparedCall)
  | authorized (call : PreparedCall) (resolution : Option LedgerRow)
  | committed (call : PreparedCall) (response : Val)
  | over

structure Calls (sql : Sql) where
  store : AuthorityStore sql
  phase : Nat → CallPhase

def Calls.put (c : Calls sql) (i : Nat) (phase : CallPhase) : Calls sql :=
  { c with phase := Function.update c.phase i phase }

/-- What a call `i` is seen to do; only its first statement can answer with a
conflict of its key. -/
inductive CallEvent
  | began (i : Nat)
  | authorized (i : Nat)
  | inserted (i : Nat)
  | returned (i : Nat) (result : Val)
  | conflicted (i : Nat) (e : Val)
  | failed (i : Nat) (e : Val)
  | crashed (i : Nat)
  | ticked

/-- Which step is taken, with what the call finds outside the tables it
writes. -/
inductive CallCommand (sql : Sql)
  | start (i : Nat) (drawnId : String)
  | authorize (i : Nat) (ledger : UniqueTable (ledgerKeys sql))
  | commit (i : Nat) (reg : Registry) (ifMatch : Val)
  | finish (i : Nat)
  | crash (i : Nat)
  | tick (now : Nat)

section

variable (rt) (localeLe) (shared : SharedCall)

/-- The first statement of call `i`. -/
def Calls.start (c : Calls sql) (i : Nat) (drawnId : String) : CallEvent × Calls sql :=
  match shared.prepare drawnId with
  | .error e => (.failed i e, c.put i .over)
  | .ok call =>
    match readReplay rt call c.store with
    | .error e => (.conflicted i e, c.put i .over)
    | .ok (some result) => (.returned i result, c.put i .over)
    | .ok none => (.began i, c.put i (.prepared call))

/-- The check of a delegation against the ledger. -/
def Calls.authorize (c : Calls sql) (i : Nat) (ledger : UniqueTable (ledgerKeys sql))
    (call : PreparedCall) : CallEvent × Calls sql :=
  match authorizeCall ledger call with
  | .error e => (.failed i e, c.put i .over)
  | .ok resolution => (.authorized i, c.put i (.authorized call resolution))

/-- The transaction; one that throws is rolled back. -/
def Calls.commit (c : Calls sql) (i : Nat) (reg : Registry) (ifMatch : Val)
    (call : PreparedCall) (resolution : Option LedgerRow) : CallEvent × Calls sql :=
  match parseEpochTag ifMatch with
  | .error e => (.failed i e, c.put i .over)
  | .ok expectedEpoch =>
    match commitCall rt localeLe reg call resolution expectedEpoch c.store with
    | .error e => (.failed i e, c.put i .over)
    | .ok (response, store) =>
      (.inserted i, { c.put i (.committed call response) with store })

def Calls.exec (c : Calls sql) : CallCommand sql → Option (CallEvent × Calls sql)
  | .start i drawnId =>
    match c.phase i with
    | .idle => some (c.start rt shared i drawnId)
    | _ => none
  | .authorize i ledger =>
    match c.phase i with
    | .prepared call => some (c.authorize i ledger call)
    | _ => none
  | .commit i reg ifMatch =>
    match c.phase i with
    | .authorized call resolution =>
      some (c.commit rt localeLe i reg ifMatch call resolution)
    | _ => none
  | .finish i =>
    match c.phase i with
    | .committed call response =>
      some (.returned i response,
        { c.put i .over with store := storeResult rt call response c.store })
    | _ => none
  | .crash i => some (.crashed i, c.put i .over)
  | .tick now =>
    if c.store.now ≤ now then
      some (.ticked, { c with store := { c.store with now } })
    else none

/-- One step of one of the calls, or of the clock. -/
def CallStep (c : Calls sql) (e : CallEvent) (c' : Calls sql) : Prop :=
  ∃ command, c.exec rt localeLe shared command = some (e, c')

end

/-! ## When all calls prepare the same request -/

/-- A phase of a call, once `answer` is the response of the committed one. -/
def CallPhase.Agrees (call₀ : PreparedCall) (answer : Option Val) : CallPhase → Prop
  | .idle => True
  | .prepared call => call = call₀
  | .authorized call _ => call = call₀
  | .committed call response => call = call₀ ∧ answer = some response
  | .over => True

/-- A call that returns gives the answer, or the answer marked as a replay. -/
def CallEvent.Agrees (answer : Option Val) : CallEvent → Prop
  | .returned _ result =>
    ∃ response, answer = some response ∧ (result = response ∨ result = replayed response)
  | .conflicted _ _ => False
  | _ => True

/-- What holds after any steps of calls that all prepare `call₀`: `answer` is
the response of the one committed call, if there is one. -/
structure Calls.Agree (rt : Runtime) (call₀ : PreparedCall) (before : Nat)
    (answer : Option Val) (history : List CallEvent) (c : Calls sql) : Prop where
  rows : (rowIds call₀.request.kind c.store).length = before + answer.toList.length
  taken : ∀ response, answer = some response → json response = response ∧
    ∃ id ∈ rowIds call₀.request.kind c.store, sql.collate id = sql.collate call₀.request.resultId
  kept : ∀ row ∈ c.store.idempotency, row.hasKey sql call₀.request.scopeKey call₀.key = true →
      c.store.now < row.expiresAt →
        row.requestSha256 = call₀.requestSha256 rt ∧ answer = some row.responseJson
  phases : ∀ i, (c.phase i).Agrees call₀ answer
  events : ∀ e ∈ history, e.Agrees answer

section

variable {shared : SharedCall} {call₀ : PreparedCall} {before : Nat} {answer : Option Val}
  {history : List CallEvent} {c c' : Calls sql} {e : CallEvent}

variable {i : Nat} {row : IdempotencyRow} {phase : CallPhase}

/-- What holds of every phase, after one call has moved. -/
theorem phases_put {P : CallPhase → Prop} (h : ∀ j, P (c.phase j)) (hphase : P phase) :
    ∀ j, P ((c.put i phase).phase j) :=
  (Function.forall_update_iff c.phase fun _ phase => P phase).mpr ⟨hphase, fun j _ => h j⟩

theorem events_append (h : ∀ e ∈ history, e.Agrees answer) (he : e.Agrees answer) :
    ∀ e' ∈ history ++ [e], e'.Agrees answer :=
  forall_mem_append.mpr ⟨h, forall_mem_singleton.mpr he⟩

/-- A step that only moves one call. -/
theorem Calls.Agree.move (h : c.Agree rt call₀ before answer history)
    (hphase : phase.Agrees call₀ answer) (he : e.Agrees answer) :
    (c.put i phase).Agree rt call₀ before answer (history ++ [e]) :=
  ⟨h.rows, h.taken, h.kept, phases_put h.phases hphase, events_append h.events he⟩

theorem readIdempotentResult_mem {scopeKey key : String}
    (h : readIdempotentResult s scopeKey key = some row) :
    row ∈ s.idempotency ∧ row.hasKey sql scopeKey key = true ∧ s.now < row.expiresAt := by
  have hfound := List.find?_some h
  obtain ⟨hkey, hlive⟩ := Bool.and_eq_true_iff.mp hfound
  exact ⟨mem_of_find?_eq_some h, hkey, of_decide_eq_true hlive⟩

/-- The first statement finds nothing, or the answer. -/
theorem Calls.Agree.readReplay (h : c.Agree rt call₀ before answer history) :
    readReplay rt call₀ c.store = .ok none ∨ ∃ response, answer = some response ∧
        readReplay rt call₀ c.store = .ok (some (replayed response)) := by
  unfold Containers.readReplay returnIdempotentOrConflict
  cases hread : readIdempotentResult c.store call₀.request.scopeKey call₀.key with
  | none => exact .inl rfl
  | some row =>
    obtain ⟨hmem, hkey, hlive⟩ := readIdempotentResult_mem hread
    obtain ⟨hsha, hanswer⟩ := h.kept row hmem hkey hlive
    have hpass : Throwing.rejectIf (row.requestSha256 ≠ call₀.requestSha256 rt)
        idempotencyConflict = .ok () := by
      rw [Throwing.rejectIf_eq_ok]
      exact fun hne => hne hsha
    simp only [hpass, Throwing.ok_bind]
    by_cases htruthy : row.responseJson.truthy = true
    · right
      rw [if_pos htruthy]
      exact ⟨row.responseJson, hanswer, rfl⟩
    · left
      rw [if_neg htruthy]
      rfl

theorem Calls.Agree.start {drawnId : String} (h : c.Agree rt call₀ before answer history)
    (hsame : ∀ drawnId call, shared.prepare drawnId = .ok call → call = call₀)
    (hstart : c.start rt shared i drawnId = (e, c')) :
    c'.Agree rt call₀ before answer (history ++ [e]) := by
  unfold Calls.start at hstart
  split at hstart
  next error _ =>
    cases hstart
    exact h.move trivial trivial
  next call hprepare =>
    obtain rfl := hsame drawnId call hprepare
    rcases h.readReplay with hread | ⟨response, hanswer, hread⟩
    · rw [hread] at hstart
      cases hstart
      exact h.move rfl trivial
    · rw [hread] at hstart
      cases hstart
      exact h.move trivial ⟨response, hanswer, .inr rfl⟩

theorem Calls.Agree.authorize {ledger : UniqueTable (ledgerKeys sql)}
    (h : c.Agree rt call₀ before answer history)
    (hauthorize : c.authorize i ledger call₀ = (e, c')) :
    c'.Agree rt call₀ before answer (history ++ [e]) := by
  unfold Calls.authorize at hauthorize
  split at hauthorize
  next =>
    cases hauthorize
    exact h.move trivial trivial
  next =>
    cases hauthorize
    exact h.move rfl trivial

/-- Before a commit no call has an answer, so none is wrong afterwards. -/
theorem agrees_of_none (call₀ : PreparedCall) (response : Val) :
    (∀ phase : CallPhase, phase.Agrees call₀ none → phase.Agrees call₀ (some response)) ∧
    ∀ e : CallEvent, e.Agrees none → e.Agrees (some response) := by
  constructor
  · intro phase hphase
    cases phase with
    | committed call kept => cases hphase.2
    | _ => exact hphase
  · intro e he
    cases e with
    | returned i result =>
      obtain ⟨_, hnone, _⟩ := he
      cases hnone
    | _ => exact he

theorem Calls.Agree.commit {ifMatch : Val} (h : c.Agree rt call₀ before answer history)
    (hcommit : c.commit rt localeLe i reg ifMatch call₀ resolution = (e, c')) :
    ∃ answer', c'.Agree rt call₀ before answer' (history ++ [e]) := by
  unfold Calls.commit at hcommit
  split at hcommit
  next =>
    cases hcommit
    exact ⟨answer, h.move trivial trivial⟩
  next expectedEpoch _ =>
    split at hcommit
    next =>
      cases hcommit
      exact ⟨answer, h.move trivial trivial⟩
    next response store hok =>
      cases hcommit
      obtain ⟨hinserts, hplain, _⟩ := commitCall_inserts hok
      -- the identifier was free, so no call had committed before
      obtain rfl : answer = none := by
        cases answer with
        | none => rfl
        | some kept =>
          obtain ⟨_, id, hid, hcollate⟩ := h.taken kept rfl
          exact absurd hcollate (hinserts.fresh id hid)
      obtain ⟨hphases, hevents⟩ := agrees_of_none call₀ response
      refine ⟨some response, ?_, ?_, ?_, ?_, ?_⟩
      · have hrows := h.rows
        simp only [hinserts.ids, length_append, length_singleton,
          Option.toList_some, Option.toList_none, length_nil] at hrows ⊢
        omega
      · intro kept hkept
        cases hkept
        refine ⟨hplain, call₀.request.resultId, ?_, rfl⟩
        simp only [hinserts.ids]
        exact mem_append_right _ mem_cons_self
      · intro row hrow hkey hlive
        simp only [hinserts.idempotency] at hrow
        simp only [hinserts.now] at hlive
        obtain ⟨_, hnone⟩ := h.kept row hrow hkey hlive
        cases hnone
      · exact phases_put (fun j => hphases _ (h.phases j)) ⟨rfl, rfl⟩
      · exact events_append (fun e he => hevents e (h.events e he)) trivial

/-- What is under the key after a result is kept. -/
theorem mem_storeIdempotentResult {scopeKey key sha type id : String} {ttl : Nat}
    (h : row ∈ (storeIdempotentResult s scopeKey key sha type id response ttl).idempotency)
    (hkey : row.hasKey sql scopeKey key = true) :
    row.requestSha256 = sha ∧ row.responseJson = json response := by
  unfold storeIdempotentResult at h
  split at h
  next =>
    obtain ⟨other, _, rfl⟩ := mem_map.mp h
    by_cases hother : other.hasKey sql scopeKey key = true
    · rw [if_pos hother]
      exact ⟨rfl, rfl⟩
    · rw [if_neg hother] at hkey
      exact absurd hkey hother
  next hnone =>
    rcases mem_append.mp h with hold | hnew
    · exact absurd (any_eq_true.mpr ⟨row, hold, hkey⟩) hnone
    · obtain rfl := mem_singleton.mp hnew
      exact ⟨rfl, rfl⟩

theorem Calls.Agree.finish (h : c.Agree rt call₀ before answer history)
    (hanswer : answer = some response) :
    Calls.Agree rt call₀ before answer (history ++ [.returned i response])
      { c.put i .over with store := storeResult rt call₀ response c.store } := by
  obtain ⟨idempotency, hstore⟩ := storeIdempotentResult_eq c.store
    call₀.request.scopeKey call₀.key (call₀.requestSha256 rt)
    call₀.request.resultType call₀.request.resultId response 60
  have hids : rowIds call₀.request.kind (storeResult rt call₀ response c.store) =
      rowIds call₀.request.kind c.store := by
    unfold storeResult
    rw [hstore]
    rfl
  refine ⟨?_, ?_, ?_, ?_, ?_⟩
  · rw [← h.rows]
    exact congrArg List.length hids
  · intro kept hkept
    obtain ⟨hplain, hid⟩ := h.taken kept hkept
    refine ⟨hplain, ?_⟩
    rw [hids]
    exact hid
  · intro row hrow hkey _
    obtain ⟨hsha, hresponse⟩ := mem_storeIdempotentResult hrow hkey
    rw [hresponse, (h.taken response hanswer).1]
    exact ⟨hsha, hanswer⟩
  · exact phases_put h.phases trivial
  · exact events_append h.events ⟨response, hanswer, .inl rfl⟩

theorem Calls.Agree.step (h : c.Agree rt call₀ before answer history)
    (hsame : ∀ drawnId call, shared.prepare drawnId = .ok call → call = call₀)
    (hstep : CallStep rt localeLe shared c e c') :
    ∃ answer', c'.Agree rt call₀ before answer' (history ++ [e]) := by
  obtain ⟨command, hexec⟩ := hstep
  cases command with
  | start i drawnId =>
    dsimp only [Calls.exec] at hexec
    split at hexec
    next => exact ⟨answer, h.start hsame (Option.some.inj hexec)⟩
    next => cases hexec
  | authorize i ledger =>
    dsimp only [Calls.exec] at hexec
    split at hexec
    next call hphase =>
      have hcall := h.phases i
      rw [hphase] at hcall
      obtain rfl : call = call₀ := hcall
      exact ⟨answer, h.authorize (Option.some.inj hexec)⟩
    next => cases hexec
  | commit i reg ifMatch =>
    dsimp only [Calls.exec] at hexec
    split at hexec
    next call resolution hphase =>
      have hcall := h.phases i
      rw [hphase] at hcall
      obtain rfl : call = call₀ := hcall
      exact h.commit (Option.some.inj hexec)
    next => cases hexec
  | finish i =>
    dsimp only [Calls.exec] at hexec
    split at hexec
    next call response hphase =>
      have hcall := h.phases i
      rw [hphase] at hcall
      obtain ⟨rfl, hanswer⟩ := hcall
      cases hexec
      exact ⟨answer, h.finish hanswer⟩
    next => cases hexec
  | crash i =>
    cases hexec
    exact ⟨answer, h.move trivial trivial⟩
  | tick now =>
    dsimp only [Calls.exec] at hexec
    split at hexec
    next hnow =>
      cases hexec
      refine ⟨answer, h.rows, h.taken, ?_, h.phases, events_append h.events trivial⟩
      intro row hrow hkey hlive
      exact h.kept row hrow hkey (lt_of_le_of_lt hnow hlive)
    next => cases hexec

end

/-! ## Calls that give their identifier -/

/-- The member of the input that names the row. -/
def MutationKind.idField : MutationKind → String
  | .relationship => "relationshipId"
  | .roleAssignment => "assignmentId"
  | .resourceBinding => "bindingId"

/-- The input has an identifier, so that no call draws one. -/
def SharedCall.GivesId (shared : SharedCall) : Prop :=
  (shared.input.member shared.kind.idField).truthy = true

theorem givenOrDrawn_given {input : Val} {field : String}
    (h : (input.member field).truthy = true) (drawnId drawnId' : String) :
    givenOrDrawn input field drawnId = givenOrDrawn input field drawnId' := by
  unfold givenOrDrawn
  cases hget : input.get field with
  | error e => rfl
  | ok given =>
    have hgiven : given.truthy = true := by
      rw [Val.get_ok hget]
      exact h
    simp only [Throwing.ok_bind, Val.or, hgiven, if_true]

variable {shared : SharedCall}

theorem SharedCall.GivesId.prepare_eq (h : shared.GivesId) (drawnId drawnId' : String) :
    shared.prepare drawnId = shared.prepare drawnId' := by
  obtain ⟨kind, input, key, actor⟩ := shared
  have hid := givenOrDrawn_given h drawnId drawnId'
  have hread : ∀ actor : Val,
      kind.readRequest input actor drawnId = kind.readRequest input actor drawnId' := by
    intro actor
    cases kind <;> dsimp only [MutationKind.idField] at hid <;>
      simp only [MutationKind.readRequest, readRelationshipRequest, readRoleAssignmentRequest,
        readBindingRequest, hid]
  unfold SharedCall.prepare prepareCall
  simp only [hread]

theorem SharedCall.prepare_kind {drawnId : String} (h : shared.prepare drawnId = .ok call) :
    call.request.kind = shared.kind := by
  obtain ⟨kind, input, key, actor⟩ := shared
  simp only [SharedCall.prepare, prepareCall, bind_eq_ok] at h
  obtain ⟨_, _, _, _, request, hrequest, h⟩ := h
  cases h
  cases kind
  all_goals
    simp only [MutationKind.readRequest, bind_eq_ok] at hrequest
    obtain ⟨_, _, hrequest⟩ := hrequest
    cases hrequest
    rfl

/-- What holds when the input is refused before the first statement. -/
structure Calls.Refused (kind : MutationKind) (ids : List String)
    (history : List CallEvent) (c : Calls sql) : Prop where
  rows : rowIds kind c.store = ids
  phases : ∀ i, c.phase i = .idle ∨ c.phase i = .over
  events : ∀ e ∈ history, e.Agrees none

variable {ids : List String} {c : Calls sql} {history : List CallEvent} {kind : MutationKind}
  {e : CallEvent}

theorem Calls.Refused.move {i : Nat} (h : c.Refused kind ids history) (he : e.Agrees none) :
    (c.put i .over).Refused kind ids (history ++ [e]) :=
  ⟨h.rows, phases_put (P := fun phase => phase = .idle ∨ phase = .over) h.phases (.inr rfl),
    events_append h.events he⟩

theorem Calls.Refused.step {c' : Calls sql} (h : c.Refused kind ids history)
    (hrefused : ∀ drawnId call, shared.prepare drawnId ≠ .ok call)
    (hstep : CallStep rt localeLe shared c e c') : c'.Refused kind ids (history ++ [e]) := by
  obtain ⟨command, hexec⟩ := hstep
  cases command with
  | start i drawnId =>
    dsimp only [Calls.exec] at hexec
    split at hexec
    next =>
      have hstart := Option.some.inj hexec
      unfold Calls.start at hstart
      split at hstart
      next =>
        cases hstart
        exact h.move trivial
      next call hprepare => exact absurd hprepare (hrefused drawnId call)
    next => cases hexec
  | authorize i _
  | commit i _ _
  | finish i => rcases h.phases i with hphase | hphase <;> simp [Calls.exec, hphase] at hexec
  | crash i =>
    cases hexec
    exact h.move trivial
  | tick now =>
    dsimp only [Calls.exec] at hexec
    split at hexec
    next =>
      cases hexec
      refine ⟨?_, h.phases, events_append h.events trivial⟩
      rw [← h.rows]
      rfl
    next => cases hexec

variable {events : List CallEvent}

/-- What the events of a run show, when they all agree on one answer. -/
theorem agreed_events {answer : Option Val} (h : ∀ e ∈ events, e.Agrees answer) :
    (∃ response, ∀ i result, .returned i result ∈ events →
      result = response ∨ result = replayed response) ∧
    ∀ i e, .conflicted i e ∉ events := by
  refine ⟨⟨answer.getD .null, ?_⟩, ?_⟩
  · intro i result hmem
    obtain ⟨response, hanswer, hresult⟩ := h _ hmem
    rw [hanswer]
    exact hresult
  · intro i e hmem
    exact h _ hmem

/-- However the calls interleave and wherever they crash: when the shared input
names the row to insert, at most one row is inserted, every call that returns
returns the same result, and no call is answered with a conflict. -/
theorem repeated_calls_agree_with_given_id (rt : Runtime)
    (localeLe : String → String → Bool) (shared : SharedCall)
    (hgiven : shared.GivesId) {c₀ c : Calls sql} {events : List CallEvent}
    (hidle : ∀ i, c₀.phase i = .idle) (hunused : ∀ drawnId call, shared.prepare drawnId = .ok call →
      readIdempotentResult c₀.store call.request.scopeKey call.key = none)
    (hrun : Run (CallStep rt localeLe shared) c₀ events c) :
    (rowIds shared.kind c.store).length ≤ (rowIds shared.kind c₀.store).length + 1 ∧
    (∃ response, ∀ i result, .returned i result ∈ events →
      result = response ∨ result = replayed response) ∧
    ∀ i e, .conflicted i e ∉ events := by
  cases hprepare : shared.prepare "" with
  | error e =>
    have hrefused : ∀ drawnId call, shared.prepare drawnId ≠ .ok call := by
      intro drawnId call hok
      rw [hgiven.prepare_eq drawnId "", hprepare] at hok
      cases hok
    have hstart : c₀.Refused shared.kind (rowIds shared.kind c₀.store) [] :=
      ⟨rfl, fun i => .inl (hidle i), fun e he => absurd he not_mem_nil⟩
    have hend := hrun.history (fun _ _ _ _ h hstep => Calls.Refused.step h hrefused hstep) hstart
    refine ⟨?_, agreed_events hend.events⟩
    rw [hend.rows]
    exact Nat.le_succ _
  | ok call₀ =>
    have hsame : ∀ drawnId call, shared.prepare drawnId = .ok call → call = call₀ := by
      intro drawnId call hok
      rw [hgiven.prepare_eq drawnId "", hprepare] at hok
      exact (Except.ok.inj hok).symm
    have hkind := SharedCall.prepare_kind hprepare
    have hstart : c₀.Agree rt call₀ (rowIds call₀.request.kind c₀.store).length none [] := by
      refine ⟨rfl, ?_, ?_, ?_, ?_⟩
      · intro response hsome
        cases hsome
      · intro row hrow hkey hlive
        -- a live row under the key would be found
        have hnone := hunused "" call₀ hprepare
        have hnot := List.find?_eq_none.mp hnone row hrow
        simp [hkey, hlive] at hnot
      · intro i
        rw [hidle i]
        trivial
      · intro e he
        exact absurd he not_mem_nil
    obtain ⟨answer, hend⟩ := hrun.history (I := fun history c => ∃ answer, Calls.Agree rt call₀
        (rowIds call₀.request.kind c₀.store).length answer history c)
      (fun _ _ _ _ ⟨_, h⟩ hstep => h.step hsame hstep) ⟨none, hstart⟩
    refine ⟨?_, agreed_events hend.events⟩
    rw [← hkind, hend.rows]
    have hone : answer.toList.length ≤ 1 := by cases answer <;> simp
    omega

/-! ## Calls on the two activities -/

/-- The events of a list of commands, each of which must be possible. -/
def Calls.execAll (rt : Runtime) (localeLe : String → String → Bool)
    (shared : SharedCall) (c : Calls sql) :
    List (CallCommand sql) → Option (List CallEvent × Calls sql)
  | [] => some ([], c)
  | command :: commands => do
    let (e, c') ← c.exec rt localeLe shared command
    let (events, last) ← c'.execAll rt localeLe shared commands
    some (e :: events, last)

theorem run_execAll {commands : List (CallCommand sql)} {last : Calls sql}
    (h : c.execAll rt localeLe shared commands = some (events, last)) :
    Run (CallStep rt localeLe shared) c events last := by
  induction commands generalizing c events with
  | nil =>
    obtain ⟨rfl, rfl⟩ := Prod.mk.inj (Option.some.inj h)
    exact .nil c
  | cons command commands ih =>
    simp only [Calls.execAll, Option.bind_eq_bind, Option.bind_eq_some_iff] at h
    obtain ⟨⟨e, c'⟩, hexec, ⟨rest, last'⟩, hrest, h⟩ := h
    obtain ⟨rfl, rfl⟩ := Prod.mk.inj (Option.some.inj h)
    exact .cons ⟨command, hexec⟩ (ih hrest)

def idleCalls : Calls plainSql := ⟨emptyAuthority, fun _ => .idle⟩

/-- Calls that put `b` under `a`, with or without an identifier. -/
def placeCall (relationshipId : Val) : SharedCall where
  kind := .relationship
  input := .obj [("relationshipId", relationshipId), ("tenantId", .str "t"),
    ("fromContainerId", .str "a"), ("toContainerId", .str "b"),
    ("relationshipType", .str "contains")]
  idempotencyKey := .str "place-b-under-a"
  actorId := .undefined

/-- All steps of call `i`. -/
def fullCall (i : Nat) (drawnId : String) : List (CallCommand plainSql) :=
  [.start i drawnId, .authorize i .empty, .commit i activityRegistry .undefined, .finish i]

def CallEvent.isConflict : CallEvent → Bool
  | .conflicted _ _ => true
  | _ => false

def CallEvent.isReturn : CallEvent → Bool
  | .returned _ _ => true
  | _ => false

/-- How often a run returns and conflicts, and the identifiers it leaves. -/
def summary (commands : List (CallCommand plainSql)) (shared : SharedCall) :
    Option (Nat × Nat × List String) := do
  let (events, c) ← idleCalls.execAll plainRuntime keyLe shared commands
  some (events.countP CallEvent.isReturn, events.countP CallEvent.isConflict,
    rowIds shared.kind c.store)

theorem run_of_summary {commands : List (CallCommand plainSql)} {returns conflicts : Nat}
    (h : summary commands shared = some (returns, conflicts, ids)) :
    ∃ events c, Run (CallStep plainRuntime keyLe shared) idleCalls events c ∧
      events.countP CallEvent.isReturn = returns ∧
      events.countP CallEvent.isConflict = conflicts ∧
      rowIds shared.kind c.store = ids := by
  simp only [summary, Option.bind_eq_bind, Option.bind_eq_some_iff] at h
  obtain ⟨⟨events, c⟩, hexec, h⟩ := h
  obtain ⟨hreturns, h⟩ := Prod.mk.inj (Option.some.inj h)
  obtain ⟨hconflicts, hids⟩ := Prod.mk.inj h
  exact ⟨events, c, run_execAll hexec, hreturns, hconflicts, hids⟩

theorem place_summaries :
    summary (fullCall 0 "u1" ++ [.start 1 "u2"]) (placeCall .undefined) = some (1, 1, ["u1"]) ∧
      summary (.start 1 "u2" :: fullCall 0 "u1" ++ (fullCall 1 "u2").tail)
        (placeCall .undefined) = some (2, 0, ["u1", "u2"]) ∧
      summary (.start 1 "u2" :: fullCall 0 "u1" ++
        ((fullCall 1 "u2").tail.take 2 ++ [.start 2 "u3"])) (placeCall (.str "r1")) =
          some (2, 0, ["r1"]) := by
  decide +kernel

/-- Without an identifier of its own in the input, the same call made again is
answered with a conflict, and two concurrent ones insert two rows. -/
theorem repeated_call_without_id_conflicts :
    (∃ events c, Run (CallStep plainRuntime keyLe (placeCall .undefined))
      idleCalls events c ∧ events.countP CallEvent.isConflict = 1) ∧
    ∃ events c, Run (CallStep plainRuntime keyLe (placeCall .undefined))
      idleCalls events c ∧ events.countP CallEvent.isReturn = 2 ∧
      rowIds .relationship c.store = ["u1", "u2"] := by
  obtain ⟨events, c, hrun, _, hconflict, _⟩ := run_of_summary place_summaries.1
  obtain ⟨events', c', hrun', hreturns, _, hids⟩ := run_of_summary place_summaries.2.1
  exact ⟨⟨events, c, hrun, hconflict⟩, events', c', hrun', hreturns, hids⟩

/-- Three calls with an identifier: the second begins before the first commits
and fails on the primary key, the third is a replay. -/
theorem repeated_calls_agree_with_given_id_place :
    ∃ events c, Run (CallStep plainRuntime keyLe (placeCall (.str "r1")))
      idleCalls events c ∧ events.countP CallEvent.isReturn = 2 ∧
      rowIds .relationship c.store = ["r1"] ∧
      (∃ response, ∀ i result, .returned i result ∈ events →
        result = response ∨ result = replayed response) ∧
      ∀ i e, .conflicted i e ∉ events := by
  obtain ⟨events, c, hrun, hreturns, _, hids⟩ := run_of_summary place_summaries.2.2
  obtain ⟨_, hsame, hnone⟩ := repeated_calls_agree_with_given_id plainRuntime keyLe
    (placeCall (.str "r1")) rfl (fun _ => rfl) (fun _ _ _ => rfl) hrun
  exact ⟨events, c, hrun, hreturns, hids, hsame, hnone⟩

end GrowthOs.Containers
