import GrowthOs.DurableExecution.Receipts
import GrowthOs.Execution.System

/-!
# At most one dispatch of a request

Any number of workers enter the wrapper for any steps.  The calls of the wrapped
executor they make run side by side: each ends by returning, by throwing, or not
at all, and readbacks may settle open receipts meanwhile.  The receipt of a
request is the only thing the workers share.
-/

namespace GrowthOs.Execution

open Js SequentialPlan DurableExecution Transition List Table

/-! ## The system -/

/-- Where a call of the wrapped executor is: running, given up without a
receipt, or recorded. -/
inductive CallPhase
  | inFlight
  | crashed
  | finalized (status : DispatchStatus)
deriving DecidableEq

/-- A call of the wrapped executor, under the receipt it was made with. -/
structure Call where
  step : StepRow
  receiptId : String
  phase : CallPhase

/-- The receipts and all calls so far, in the order they were made. -/
structure Desk where
  receipts : List ReceiptRow
  calls : List Call

inductive DeskOp
  | start (receiptId : String) (step : StepRow)
  | settle (call : Nat) (outcome : ExecutorOutcome)
  | crash (call : Nat)
  | reconcile (receiptId : String) (conclusive : Bool) (replay readback : Val)

/-- The phase a call ends in. -/
def endPhase (outcome : ExecutorOutcome) : CallPhase :=
  match outcome.dispatchStatus with
  | none => .crashed
  | some status => .finalized status

def Desk.setPhase (d : Desk) (index : Nat) (call : Call) (phase : CallPhase) : List Call :=
  d.calls.set index { call with phase }

def Desk.perform (rt : Runtime) (d : Desk) : DeskOp → Desk
  | .start receiptId step =>
    match enterExecutor rt receiptId step d.receipts with
    | .ok (.dispatch receiptId, receipts) =>
      ⟨receipts, d.calls ++ [⟨step, receiptId, .inFlight⟩]⟩
    | .ok (_, receipts) => { d with receipts }
    | .error _ => d
  | .settle index outcome =>
    match d.calls[index]? with
    | some call =>
      if call.phase = .inFlight then
        ⟨(settleReceipt call.receiptId outcome d.receipts).2,
          d.setPhase index call (endPhase outcome)⟩
      else d
    | none => d
  | .crash index =>
    match d.calls[index]? with
    | some call =>
      if call.phase = .inFlight then
        { d with calls := d.setPhase index call .crashed }
      else d
    | none => d
  | .reconcile receiptId conclusive replay readback =>
    { d with receipts :=
        reconcileReceipt receiptId conclusive replay readback d.receipts }

/-- A UUID that is drawn is new to the table. -/
def DeskOp.Fresh (d : Desk) : DeskOp → Prop
  | .start receiptId _ => ∀ row ∈ d.receipts, row.receiptId ≠ receiptId
  | _ => True

structure DeskStep (rt : Runtime) (d : Desk) (op : DeskOp) (d' : Desk) : Prop where
  fresh : op.Fresh d
  performed : d' = d.perform rt op

/-- The table with its two unique keys, before the first call. -/
structure Desk.Initial (d : Desk) : Prop where
  receiptIds : (d.receipts.map ReceiptRow.receiptId).Nodup
  requests : (d.receipts.map ReceiptRow.request).Nodup
  calls : d.calls = []

/-! ## The invariant -/

/-- What holds between the table and the calls. -/
structure Desk.Kept (rt : Runtime) (d : Desk) : Prop where
  receiptIds : (d.receipts.map ReceiptRow.receiptId).Nodup
  requests : (d.receipts.map ReceiptRow.request).Nodup
  held : ∀ call ∈ d.calls,
    (call.receiptId, requestOf rt call.step) ∈ d.receipts.map ReceiptRow.identity
  serial : ∀ (i j : Nat) (call call' : Call), i < j →
    d.calls[i]? = some call → d.calls[j]? = some call' →
    requestOf rt call.step = requestOf rt call'.step → call.phase = .finalized .failedPreDispatch
  closed : ∀ row ∈ d.receipts, row.dispatchStatus = .failedPreDispatch →
    ∀ call ∈ d.calls, requestOf rt call.step = row.request →
      call.phase = .finalized .failedPreDispatch

theorem Desk.Initial.kept {rt : Runtime} {d : Desk} (h : d.Initial) : d.Kept rt := by
  refine ⟨h.receiptIds, h.requests, ?_, ?_, ?_⟩ <;> simp [h.calls]

section Kept

variable {rt : Runtime} {d : Desk} {receipts : List ReceiptRow}

section

variable (h : d.Kept rt)

include h

/-- Rewriting receipts without setting one to `failed_pre_dispatch`. -/
theorem Desk.Kept.rewrite (hkeys : receipts.map ReceiptRow.identity =
      d.receipts.map ReceiptRow.identity)
    (hrows : ∀ row ∈ receipts, row.dispatchStatus = .failedPreDispatch →
      row ∈ d.receipts) : Desk.Kept rt { d with receipts } := by
  obtain ⟨hids, hrequests⟩ := keys_of_identities hkeys
  refine ⟨by rw [hids]; exact h.receiptIds, by rw [hrequests]; exact h.requests, ?_, h.serial, ?_⟩
  · intro call hcall
    rw [hkeys]
    exact h.held call hcall
  · intro row hrow hstatus
    exact h.closed row (hrows row hrow hstatus) hstatus

variable {index : Nat} {call : Call}

/-- A running call is the last one for its request. -/
theorem Desk.Kept.newest {j : Nat} {c : Call}
    (hcall : d.calls[index]? = some call) (hphase : call.phase = .inFlight) (hj : index < j)
    (hc : d.calls[j]? = some c) : requestOf rt call.step ≠ requestOf rt c.step := by
  intro hsame
  have hdone := h.serial index j call c hj hcall hc hsame
  simp [hphase] at hdone

/-- The receipt a call runs under is one of its request. -/
theorem Desk.Kept.request_eq (hcall : call ∈ d.calls) {row : ReceiptRow}
    (hrow : row ∈ d.receipts) (hid : row.receiptId = call.receiptId) :
    row.request = requestOf rt call.step := by
  obtain ⟨other, hother, hidentity⟩ := mem_map.mp (h.held call hcall)
  obtain ⟨hotherId, hotherRequest⟩ := Prod.mk.inj hidentity
  rw [inj_on_of_nodup_map h.receiptIds hrow hother (hid.trans hotherId.symm)]
  exact hotherRequest

/-- The end of a running call: it may only set its own receipt to
`failed_pre_dispatch`, and only if that is how it ended. -/
theorem Desk.Kept.finish {phase : CallPhase} (hcall : d.calls[index]? = some call)
    (hphase : call.phase = .inFlight)
    (hkeys : receipts.map ReceiptRow.identity = d.receipts.map ReceiptRow.identity)
    (hrows : ∀ row ∈ receipts, row.dispatchStatus = .failedPreDispatch →
      row ∈ d.receipts ∨ row.receiptId = call.receiptId ∧ phase = .finalized .failedPreDispatch) :
    Desk.Kept rt ⟨receipts, d.setPhase index call phase⟩ := by
  obtain ⟨hids, hrequests⟩ := keys_of_identities hkeys
  -- Every call is an old one, up to the phase of the call that ends.
  have horigin : ∀ (i : Nat) (c : Call),
      (d.setPhase index call phase)[i]? = some c → i = index ∧ c = { call with phase } ∨
          i ≠ index ∧ d.calls[i]? = some c :=
    fun _ _ => getElem?_set_cases
  have hmem := mem_of_getElem? hcall
  refine ⟨by rw [hids]; exact h.receiptIds, by rw [hrequests]; exact h.requests, ?_, ?_, ?_⟩
  · intro c hc
    rw [hkeys]
    obtain ⟨i, hi⟩ := mem_iff_getElem?.mp hc
    obtain ⟨-, rfl⟩ | ⟨-, hold⟩ := horigin i c hi
    · exact h.held call hmem
    · exact h.held c (mem_of_getElem? hold)
  · intro i j c c' hij hc hc' hsame
    obtain ⟨rfl, rfl⟩ | ⟨-, hold⟩ := horigin i c hc
    · obtain ⟨rfl, -⟩ | ⟨-, hold'⟩ := horigin j c' hc'
      · exact absurd hij (Nat.lt_irrefl _)
      · have hother := h.newest hcall hphase hij hold'
        exact absurd hsame hother
    · obtain ⟨rfl, rfl⟩ | ⟨-, hold'⟩ := horigin j c' hc'
      · exact h.serial i j c call hij hold hcall hsame
      · exact h.serial i j c c' hij hold hold' hsame
  · intro row hrow hstatus c hc hsame
    obtain ⟨i, hi⟩ := mem_iff_getElem?.mp hc
    obtain hold | ⟨hid, hended⟩ := hrows row hrow hstatus
    · obtain ⟨-, rfl⟩ | ⟨-, hcold⟩ := horigin i c hi
      · have hdone := h.closed row hold hstatus call hmem hsame
        simp [hphase] at hdone
      · exact h.closed row hold hstatus c (mem_of_getElem? hcold) hsame
    · obtain ⟨-, rfl⟩ | ⟨hne, hcold⟩ := horigin i c hi
      · exact hended
      · -- The identities are those of before, so the row had this request.
        have hidentity : row.identity ∈ d.receipts.map ReceiptRow.identity := by
          rw [← hkeys]
          exact mem_map_of_mem hrow
        obtain ⟨old, hold, heq⟩ := mem_map.mp hidentity
        obtain ⟨holdId, holdRequest⟩ := Prod.mk.inj heq
        rw [← holdRequest, h.request_eq hmem hold (holdId.trans hid)] at hsame
        obtain hlt | hgt := Nat.lt_or_gt_of_ne hne
        · exact h.serial i index c call hlt hcold hcall hsame
        · exact absurd hsame.symm (h.newest hcall hphase hgt hcold)

variable {receiptId : String}

/-- A request whose receipts all failed before dispatch, or that has none, has
no other calls. -/
theorem Desk.Kept.calls_failed {step : StepRow} {out : Entry × List ReceiptRow}
    (henter : EnterStep rt receiptId step d.receipts out) {id : String}
    (hdispatch : out.1 = .dispatch id) :
    ∀ call ∈ d.calls, requestOf rt call.step = requestOf rt step →
      call.phase = .finalized .failedPreDispatch := by
  intro call hcall hsame
  cases henter with
  | direct | replay => cases hdispatch
  | @again row _ hselect hstatus =>
    have hrow : row ∈ selectReceipts d.receipts (requestOf rt step) := by
      simp [hselect]
    obtain ⟨hmem, hrequest⟩ := mem_selectReceipts.mp hrow
    exact h.closed row hmem hstatus call hcall (hsame.trans hrequest.symm)
  | first _ hselect =>
    obtain ⟨row, hrow, hidentity⟩ := mem_map.mp (h.held call hcall)
    have hfound : row ∈ selectReceipts d.receipts (requestOf rt step) :=
      mem_selectReceipts.mpr ⟨hrow, (Prod.mk.inj hidentity).2.trans hsame⟩
    simp [hselect] at hfound

/-- A new call under a receipt that is no longer `failed_pre_dispatch`. -/
theorem Desk.Kept.begin {step : StepRow} (hids : (receipts.map ReceiptRow.receiptId).Nodup)
    (hrequests : (receipts.map ReceiptRow.request).Nodup)
    (hkept : ∀ identity ∈ d.receipts.map ReceiptRow.identity,
      identity ∈ receipts.map ReceiptRow.identity)
    (hheld : (receiptId, requestOf rt step) ∈ receipts.map ReceiptRow.identity)
    (hrows : ∀ row ∈ receipts, row.dispatchStatus = .failedPreDispatch →
      row ∈ d.receipts ∧ row.request ≠ requestOf rt step)
    (hfailed : ∀ call ∈ d.calls, requestOf rt call.step = requestOf rt step →
      call.phase = .finalized .failedPreDispatch) :
    Desk.Kept rt ⟨receipts, d.calls ++ [⟨step, receiptId, .inFlight⟩]⟩ := by
  refine ⟨hids, hrequests, ?_, ?_, ?_⟩
  · intro call hcall
    obtain hold | rfl := by simpa using hcall
    · exact hkept _ (h.held call hold)
    · exact hheld
  · intro i j call call' hij hcall hcall' hsame
    have hlength : ∀ {k : Nat} {c : Call}, d.calls[k]? = some c →
        k < d.calls.length := fun h => (List.getElem?_eq_some_iff.mp h).1
    obtain hold | ⟨rfl, rfl⟩ := getElem?_concat_cases hcall <;>
      obtain hold' | ⟨rfl, rfl⟩ := getElem?_concat_cases hcall'
    · exact h.serial i j call call' hij hold hold' hsame
    · exact hfailed call (mem_of_getElem? hold) hsame
    · exact absurd (hlength hold') (Nat.lt_asymm hij)
    · exact absurd hij (Nat.lt_irrefl _)
  · intro row hrow hstatus call hcall hsame
    obtain ⟨hold, hother⟩ := hrows row hrow hstatus
    obtain hcall | rfl := by simpa using hcall
    · exact h.closed row hold hstatus call hcall hsame
    · exact absurd hsame.symm hother

theorem Desk.Kept.start {step : StepRow} {id : String}
    (hfresh : ∀ row ∈ d.receipts, row.receiptId ≠ receiptId)
    (henter : EnterStep rt receiptId step d.receipts (.dispatch id, receipts)) :
    Desk.Kept rt ⟨receipts, d.calls ++ [⟨step, id, .inFlight⟩]⟩ := by
  have hfailed := h.calls_failed henter rfl
  generalize hout : (Entry.dispatch id, receipts) = out at henter
  cases henter with
  | direct | replay => cases hout
  | @again row _ hselect hstatus =>
    cases hout
    have hrow : row ∈ selectReceipts d.receipts (requestOf rt step) := by
      simp [hselect]
    obtain ⟨hmem, hrequest⟩ := mem_selectReceipts.mp hrow
    have hkeys := reopen_identities row.receiptId d.receipts
    obtain ⟨hids, hrequests⟩ := keys_of_identities hkeys
    refine h.begin (by rw [hids]; exact h.receiptIds)
      (by rw [hrequests]; exact h.requests) (by rw [hkeys]; exact fun _ => id) ?_
      ?_ hfailed
    · rw [hkeys]
      exact mem_map.mpr ⟨row, hmem, by rw [ReceiptRow.identity, hrequest]⟩
    · intro row' hrow' hstatus'
      obtain ⟨hold, hother⟩ | rfl := mem_update_of_unique h.receiptIds
        hmem (beq_self_eq_true row.receiptId) (fun _ => beq_iff_eq.mp) hrow'
      · refine ⟨hold, fun hsame => hother ?_⟩
        rw [inj_on_of_nodup_map h.requests hold hmem (hsame.trans hrequest.symm)]
      · cases hstatus'
  | first _ hselect =>
    cases hout
    have hnone : ∀ row ∈ d.receipts, row.request ≠ requestOf rt step := by
      intro row hrow hsame
      have hfound := mem_selectReceipts.mpr ⟨hrow, hsame⟩
      simp [hselect] at hfound
    refine h.begin ?_ ?_ ?_ ?_ ?_ hfailed
    · exact nodup_receiptIds h.receiptIds hfresh
    · rw [map_append]
      refine nodup_append.mpr ⟨h.requests, by simp, ?_⟩
      simpa [pendingReceipt, ReceiptRow.request, requestOf] using hnone
    · intro identity hmem
      rw [map_append]
      exact mem_append_left _ hmem
    · simp [ReceiptRow.identity, ReceiptRow.request, pendingReceipt, requestOf]
    · intro row hrow hstatus
      obtain hold | rfl := by simpa using hrow
      · exact ⟨hold, hnone row hold⟩
      · cases hstatus

theorem Desk.Kept.settle (hcall : d.calls[index]? = some call)
    (hphase : call.phase = .inFlight) (outcome : ExecutorOutcome) :
    Desk.Kept rt ⟨(settleReceipt call.receiptId outcome d.receipts).2,
      d.setPhase index call (endPhase outcome)⟩ := by
  rw [settleReceipt_receipts]
  cases hstatus : outcome.dispatchStatus with
  | none => exact h.finish hcall hphase rfl fun row hrow _ => .inl hrow
  | some status =>
    refine h.finish hcall hphase (finalizeMutationReceipt_identities _ _ _ _ _) ?_
    intro row hrow hfailed
    obtain hold | ⟨old, -, hid, hidentity, hwritten, -⟩ :=
      mem_finalizeMutationReceipt hrow
    · exact .inl hold
    · refine .inr ⟨(Prod.mk.inj hidentity).1.trans hid, ?_⟩
      rw [endPhase, hstatus, ← hwritten, hfailed]

theorem Desk.Kept.reconcile (receiptId : String) (conclusive : Bool) (replay readback : Val) :
    Desk.Kept rt (d.perform rt (.reconcile receiptId conclusive replay readback)) := by
  refine h.rewrite (reconcileReceipt_identities _ _ _ _ _) ?_
  intro row hrow hfailed
  obtain ⟨old, hold, rfl⟩ := mem_update.mp hrow
  split at hfailed
  next => cases conclusive <;> cases hfailed
  next hkept => rwa [if_neg hkept]

theorem Desk.Kept.step {op : DeskOp} {d' : Desk} (hstep : DeskStep rt d op d') : d'.Kept rt := by
  obtain ⟨hfresh, rfl⟩ := hstep
  cases op with
  | start receiptId step =>
    simp only [Desk.perform]
    split
    next id receipts henter => exact h.start hfresh (enterExecutor_ok henter)
    next entry receipts hother henter =>
      have hsame : receipts = d.receipts := by
        cases enterExecutor_ok henter with
        | direct | replay => rfl
        | again | first => exact (hother _ rfl).elim
      rw [hsame]
      exact h
    next => exact h
  | settle index outcome =>
    simp only [Desk.perform]
    split
    next call hcall =>
      split
      next hphase => exact h.settle hcall hphase outcome
      next => exact h
    next => exact h
  | crash index =>
    simp only [Desk.perform]
    split
    next call hcall =>
      split
      next hphase => exact h.finish hcall hphase rfl fun row hrow _ => .inl hrow
      next => exact h
    next => exact h
  | reconcile receiptId conclusive replay readback =>
    exact h.reconcile receiptId conclusive replay readback

end

end Kept

/-! ## Runs -/

/-- In every run of any number of workers: when the wrapped executor is invoked
for a request, every earlier call for that request has already been recorded as
failed before dispatch; none is running, crashed, or recorded otherwise. -/
theorem invoked_again_only_after_failed_pre_dispatch (rt : Runtime)
    {d₀ d : Desk} {history : List DeskOp} (hinit : d₀.Initial)
    (hrun : Run (DeskStep rt) d₀ history d) {receiptId id : String}
    {step : StepRow} {receipts : List ReceiptRow}
    (hinvoked : enterExecutor rt receiptId step d.receipts =
      .ok (.dispatch id, receipts)) :
    ∀ call ∈ d.calls, requestOf rt call.step = requestOf rt step →
      call.phase = .finalized .failedPreDispatch := by
  have hkept : d.Kept rt := hrun.invariant (I := Desk.Kept rt)
    (fun _ _ _ hd hstep => hd.step hstep) hinit.kept
  exact hkept.calls_failed (enterExecutor_ok hinvoked) rfl

/-- A claimed workflow step. -/
def sendStep : StepRow where
  planStepId := "step0"
  planId := "plan"
  tenantId := "tenant"
  stepOrder := 1
  stepKey := "send"
  stepType := .workflow
  workflowId := .null
  workflowKey := .str "send_mail"
  dependsOn := []
  inputJson := .obj []
  successCriteriaJson := .obj [("result_ok", .bool true)]
  retryPolicyJson := .obj []
  maxAttempts := 2
  idempotencyKey := "send"
  approvalPolicyJson := .obj []
  status := .claimed
  attemptCount := 1
  claimToken := some "token1"
  outputJson := .null
  errorJson := .null

def emptyDesk : Desk :=
  ⟨[], []⟩

/-- The first call is made and refused. -/
def refusedDesk : Desk :=
  (emptyDesk.perform digestRuntime (.start "receipt1" sendStep)).perform
    digestRuntime (.settle 0 refusal)

theorem invoked_again_only_after_failed_pre_dispatch_refused :
    refusedDesk.calls.length = 1 ∧ ∀ call ∈ refusedDesk.calls,
      requestOf digestRuntime call.step = requestOf digestRuntime sendStep →
        call.phase = .finalized .failedPreDispatch := by
  have hinit : emptyDesk.Initial := ⟨.nil, .nil, rfl⟩
  have hrun : Run (DeskStep digestRuntime) emptyDesk
      [.start "receipt1" sendStep, .settle 0 refusal] refusedDesk :=
    .cons ⟨forall_mem_nil _, rfl⟩ (.single ⟨trivial, rfl⟩)
  obtain ⟨receipts, hinvoked⟩ : ∃ receipts, enterExecutor digestRuntime
      "receipt2" sendStep refusedDesk.receipts =
        .ok (.dispatch "receipt1", receipts) :=
    ⟨_, rfl⟩
  exact ⟨rfl, invoked_again_only_after_failed_pre_dispatch digestRuntime hinit hrun hinvoked⟩

end GrowthOs.Execution
