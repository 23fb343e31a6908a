import GrowthOs.DurableExecution.Control

/-!
# Mutation receipts

`createDurableReceiptAwareExecutor` wraps the executor of a workflow step: a
transaction claims a receipt for the request, the executor runs outside of any
transaction, and a separate write records how it ended.  The wrapper is modelled
as its two ends, `enterExecutor` and `settleReceipt`; what happens in between,
and whether the second one happens at all, is up to the run.
-/

namespace GrowthOs.DurableExecution

open Js SequentialPlan Throwing Table

/-! ## The table -/

/-- The column `dispatch_status`. -/
inductive DispatchStatus
  | pending | succeeded | failedPreDispatch | unknownOutcome | reconciled
deriving DecidableEq, Repr

structure ReceiptRow where
  receiptId : String
  planId : String
  planStepId : String
  tenantId : String
  operationKey : String
  idempotencyKey : String
  requestSha256 : String
  dispatchStatus : DispatchStatus
  providerStatus : Val
  providerReceiptJson : Val
  readbackJson : Val
  recoveredFromTransport : Bool

/-- The columns of the unique key `uq_execution_plan_mutation_receipt_request`. -/
def ReceiptRow.request (row : ReceiptRow) : String × String :=
  (row.planStepId, row.requestSha256)

variable (rt : Runtime)

/-- What no update of a receipt changes. -/
def ReceiptRow.identity (row : ReceiptRow) : String × String × String :=
  (row.receiptId, row.request)

/-! ## Claiming a receipt -/

def receiptRequestHash (step : StepRow) : String :=
  rt.sha256 (stableStringify (.obj
    [("plan_id", .str step.planId), ("plan_step_id", .str step.planStepId),
      ("step_key", .str step.stepKey),
      ("workflow_id", step.workflowId.or .null),
      ("workflow_key", step.workflowKey.or .null),
      ("input", parseJson step.inputJson (.obj [])),
      ("idempotency_key", .str step.idempotencyKey)]))

/-- The request a call of the wrapped executor is made for. -/
def requestOf (step : StepRow) : String × String :=
  (step.planStepId, receiptRequestHash rt step)

inductive ReceiptClaim
  | replay (receiptId requestSha256 : String) (result : Val)
  | dispatch (receiptId requestSha256 : String)

def selectReceipts (receipts : List ReceiptRow) (request : String × String) : List ReceiptRow :=
  receipts.filter fun row => row.request == request

/-- The operation a receipt is written for. -/
def operationKey (step : StepRow) : Except Val String :=
  (step.workflowKey.or (step.workflowId.or
    ((Val.str step.stepKey).or (.str "workflow_dispatch")))).toStr

/-- The `INSERT` of `claimMutationReceipt`. -/
def pendingReceipt (step : StepRow) (receiptId operation requestSha256 : String) : ReceiptRow where
  receiptId := receiptId
  planId := step.planId
  planStepId := step.planStepId
  tenantId := step.tenantId
  operationKey := operation
  idempotencyKey := step.idempotencyKey
  requestSha256 := requestSha256
  dispatchStatus := .pending
  providerStatus := .null
  providerReceiptJson := .null
  readbackJson := .null
  recoveredFromTransport := false

/-- The `UPDATE` that takes a receipt up again. -/
def ReceiptRow.reopen (row : ReceiptRow) : ReceiptRow :=
  { row with
    dispatchStatus := .pending
    providerStatus := .null
    providerReceiptJson := .null
    readbackJson := .null
    recoveredFromTransport := false }

/-- The error for a receipt whose outcome is not known. -/
def readbackRequired (receiptId : String) : Val :=
  durableError
    "A prior mutation attempt has a pending or unknown outcome; readback is required before retry."
    "durable_execution_readback_required" 409
    [("non_retryable", .bool true), ("unknown_outcome", .bool true), ("receipt_id", .str receiptId)]

/-- `claimMutationReceipt(pool, step)`, one transaction; `receiptId` is the
UUID it draws if it inserts a row. -/
def claimMutationReceipt (receiptId : String) (step : StepRow) (receipts : List ReceiptRow) :
    Except Val (ReceiptClaim × List ReceiptRow) := do
  let requestSha256 := receiptRequestHash rt step
  let existing ← resolveUnique (selectReceipts receipts (step.planStepId, requestSha256))
    "durable_execution_receipt_ambiguous"
    "Mutation receipt identity resolved to multiple rows."
  match existing with
  | some row =>
    match row.dispatchStatus with
    | .succeeded | .reconciled =>
      .ok (.replay row.receiptId requestSha256
        (parseJson row.providerReceiptJson (.obj [("ok", .bool true),
          ("idempotent_replay", .bool true)])), receipts)
    | .pending | .unknownOutcome => .error (readbackRequired row.receiptId)
    | .failedPreDispatch =>
      .ok (.dispatch row.receiptId requestSha256,
        update (fun other => other.receiptId == row.receiptId) ReceiptRow.reopen receipts)
  | none => do
    let operation ← operationKey step
    .ok (.dispatch receiptId requestSha256,
      receipts ++ [pendingReceipt step receiptId operation requestSha256])

/-! ## Recording how a call ended -/

/-- The payload of `finalizeMutationReceipt`, as stored. -/
def storedPayload (payload : Val) : Val :=
  let safePayload :=
    if payload.isObject then payload.ownFields
    else [("value", payload.coalesce .null)]
  json (.obj (Val.spread safePayload [("secrets_included", .bool false)]))

def finalizeMutationReceipt (receiptId : String) (status : DispatchStatus)
    (payload providerStatus : Val) (receipts : List ReceiptRow) : List ReceiptRow :=
  update (fun row => row.receiptId == receiptId) (fun row =>
      { row with
        dispatchStatus := status
        providerStatus := providerStatus
        providerReceiptJson := storedPayload payload
        recoveredFromTransport := decide (status = .unknownOutcome) })
    receipts

/-- How a call of the wrapped executor ends if it does.  A returned value that
cannot be recorded takes the path of a thrown error. -/
inductive ExecutorOutcome
  | returned (value : Val)
  | threw (error : Val)

/-- The provider refuses the request. -/
def refusal : ExecutorOutcome :=
  .threw (.obj [("status", .num (.ofNat 422))])

/-- `Number(error?.status || 500) < 500 && error?.unknown_outcome !== true`. -/
def preDispatch (error : Val) : Except Val Bool := do
  let status ← ((error.member "status").or (.num (.ofNat 500))).toNumber
  .ok (status.blt (.ofNat 500) && !(error.member "unknown_outcome").isTrue)

def failurePayload (error : Val) : Val :=
  .obj [("code", (error.member "code").or (.str "durable_execution_dispatch_failed")),
      ("message", (error.member "message").or (.str "Workflow dispatch failed."))]

/-- A primitive has no fields to assign. -/
def cannotMark (kind text : String) : Val :=
  Val.typeError ("Cannot create property 'non_retryable' on " ++ kind ++ " '" ++ text ++ "'")

/-- The error after the three assignments that mark an unknown outcome; on
anything but an object the first of them throws. -/
def markUnknown (receiptId : String) : Val → Val
  | .undefined =>
    Val.typeError "Cannot set properties of undefined (setting 'non_retryable')"
  | .null => Val.typeError "Cannot set properties of null (setting 'non_retryable')"
  | .bool true => cannotMark "boolean" "true"
  | .bool false => cannotMark "boolean" "false"
  | .num n => cannotMark "number" n.toString
  | .str s => cannotMark "string" s
  | error =>
    .obj (Val.spread error.ownFields
      [("non_retryable", .bool true), ("unknown_outcome", .bool true),
        ("receipt_id", .str receiptId)])

/-- `{ ...result, receipt_id, idempotent_replay }`. -/
def wrapResult (result : Val) (receiptId : String) (replay : Bool) : Val :=
  .obj (Val.spread result.ownFields
    [("receipt_id", .str receiptId), ("idempotent_replay", .bool replay)])

/-- The end of the wrapper, after the executor has returned or thrown: what the
wrapper returns or throws, and the table. -/
def settleReceipt (receiptId : String) (outcome : ExecutorOutcome)
    (receipts : List ReceiptRow) : Except Val Val × List ReceiptRow :=
  match outcome with
  | .returned value =>
    (.ok (wrapResult value receiptId false), finalizeMutationReceipt receiptId .succeeded value
        ((value.member "provider_status").or .null) receipts)
  | .threw error =>
    match preDispatch error with
    | .error failure => (.error failure, receipts)
    | .ok true =>
      (.error error, finalizeMutationReceipt receiptId .failedPreDispatch
          (failurePayload error) ((error.member "status").or .null) receipts)
    | .ok false =>
      (.error (markUnknown receiptId error), finalizeMutationReceipt receiptId .unknownOutcome
          (failurePayload error) ((error.member "status").or .null) receipts)

/-! ## The wrapper -/

/-- Where the wrapper goes after its first transaction. -/
inductive Entry
  | direct
  | replay (result : Val)
  | dispatch (receiptId : String)

/-- The start of the wrapped executor. -/
def enterExecutor (receiptId : String) (step : StepRow) (receipts : List ReceiptRow) :
    Except Val (Entry × List ReceiptRow) :=
  if step.stepType ≠ .workflow then .ok (.direct, receipts)
  else do
    let (claim, receipts) ← claimMutationReceipt rt receiptId step receipts
    match claim with
    | .replay receiptId _ result =>
      .ok (.replay (wrapResult result receiptId true), receipts)
    | .dispatch receiptId _ => .ok (.dispatch receiptId, receipts)

/-- The result of a replay. -/
def replayOf : Except Val (Entry × List ReceiptRow) → Option Val
  | .ok (.replay result, _) => some result
  | _ => none

/-- What a provider readback writes to the table: `reconciled` if it is
conclusive, and only over a receipt whose outcome is open. -/
def reconcileReceipt (receiptId : String) (conclusive : Bool)
    (replay readback : Val) (receipts : List ReceiptRow) : List ReceiptRow :=
  update (fun row => row.receiptId == receiptId &&
      (row.dispatchStatus == .pending || row.dispatchStatus == .unknownOutcome))
    (fun row =>
      if conclusive then
        { row with
          dispatchStatus := .reconciled
          providerReceiptJson := json replay
          readbackJson := json readback
          recoveredFromTransport := true }
      else
        { row with
          dispatchStatus := .unknownOutcome
          readbackJson := json readback
          recoveredFromTransport := true })
    receipts

/-! ## What the wrapper does to the table -/

/-- The ways into the wrapper. -/
inductive EnterStep (rt : Runtime) (receiptId : String) (step : StepRow)
    (receipts : List ReceiptRow) : Entry × List ReceiptRow → Prop
  | direct (hstep : step.stepType ≠ .workflow) :
      EnterStep rt receiptId step receipts (.direct, receipts)
  | replay {row : ReceiptRow} (hstep : step.stepType = .workflow)
      (hselect : selectReceipts receipts (requestOf rt step) = [row])
      (hstatus : row.dispatchStatus = .succeeded ∨ row.dispatchStatus = .reconciled) :
      EnterStep rt receiptId step receipts (.replay (wrapResult (parseJson row.providerReceiptJson
          (.obj [("ok", .bool true), ("idempotent_replay", .bool true)]))
            row.receiptId true), receipts)
  | again {row : ReceiptRow} (hstep : step.stepType = .workflow)
      (hselect : selectReceipts receipts (requestOf rt step) = [row])
      (hstatus : row.dispatchStatus = .failedPreDispatch) :
      EnterStep rt receiptId step receipts (.dispatch row.receiptId,
        update (fun other => other.receiptId == row.receiptId) ReceiptRow.reopen receipts)
  | first {operation : String} (hstep : step.stepType = .workflow)
      (hselect : selectReceipts receipts (requestOf rt step) = []) :
      EnterStep rt receiptId step receipts (.dispatch receiptId,
        receipts ++ [pendingReceipt step receiptId operation (receiptRequestHash rt step)])

theorem resolveUnique_none {α : Type} {rows : List α} {code message : String}
    (h : resolveUnique rows code message = .ok none) : rows = [] := by
  match rows, h with
  | [], _ => rfl
  | [_], h => cases h
  | _ :: _ :: _, h => cases h

variable {receiptId : String} {receipts : List ReceiptRow} {step : StepRow}

theorem enterExecutor_ok {rt : Runtime} {out : Entry × List ReceiptRow}
    (h : enterExecutor rt receiptId step receipts = .ok out) :
    EnterStep rt receiptId step receipts out := by
  by_cases hstep : step.stepType = .workflow
  · simp only [enterExecutor, hstep, ne_eq, not_true_eq_false, if_false,
      claimMutationReceipt, bind_eq_ok] at h
    obtain ⟨claimed, ⟨existing, hexisting, hclaim⟩, hout⟩ := h
    cases existing with
    | none =>
      simp only [bind_eq_ok] at hclaim
      obtain ⟨operation, -, hclaim⟩ := hclaim
      cases hclaim
      cases hout
      exact .first hstep (resolveUnique_none hexisting)
    | some row =>
      have hselect := resolveUnique_ok hexisting
      cases hstatus : row.dispatchStatus <;> simp only [hstatus] at hclaim <;>
        cases hclaim <;> cases hout
      · exact .replay hstep hselect (.inl hstatus)
      · exact .again hstep hselect hstatus
      · exact .replay hstep hselect (.inr hstatus)
  · simp only [enterExecutor, hstep, ne_eq, not_false_eq_true, if_true] at h
    cases h
    exact .direct hstep

theorem mem_selectReceipts {request : String × String} {row : ReceiptRow} :
    row ∈ selectReceipts receipts request ↔ row ∈ receipts ∧ row.request = request := by
  simp [selectReceipts]

/-- A table with the same receipts is as good as the old one for what only
depends on their keys. -/
theorem keys_of_identities {receipts' : List ReceiptRow}
    (h : receipts'.map ReceiptRow.identity = receipts.map ReceiptRow.identity) :
    receipts'.map ReceiptRow.receiptId = receipts.map ReceiptRow.receiptId ∧
      receipts'.map ReceiptRow.request = receipts.map ReceiptRow.request := by
  constructor
  · have := congrArg (List.map Prod.fst) h
    simpa [Function.comp_def, ReceiptRow.identity] using this
  · have := congrArg (List.map Prod.snd) h
    simpa [Function.comp_def, ReceiptRow.identity] using this

theorem reopen_identities (receiptId : String) (receipts : List ReceiptRow) :
    (update (fun row => row.receiptId == receiptId) ReceiptRow.reopen
      receipts).map ReceiptRow.identity = receipts.map ReceiptRow.identity :=
  map_update (by intro row; rfl) receipts

theorem nodup_receiptIds {operation hash : String} (h : (receipts.map ReceiptRow.receiptId).Nodup)
    (hfresh : ∀ row ∈ receipts, row.receiptId ≠ receiptId) :
    ((receipts ++ [pendingReceipt step receiptId operation hash]).map
      ReceiptRow.receiptId).Nodup := by
  rw [List.map_append]
  refine List.nodup_append.mpr ⟨h, by simp, ?_⟩
  simpa [pendingReceipt] using hfresh

section Enter

variable {rt} {out : Entry × List ReceiptRow}

theorem EnterStep.receiptIds (h : EnterStep rt receiptId step receipts out)
    (hids : (receipts.map ReceiptRow.receiptId).Nodup)
    (hfresh : ∀ row ∈ receipts, row.receiptId ≠ receiptId) :
    (out.2.map ReceiptRow.receiptId).Nodup := by
  cases h with
  | direct | replay => exact hids
  | again =>
    rw [(keys_of_identities (reopen_identities _ _)).1]
    exact hids
  | first => exact nodup_receiptIds hids hfresh

/-- A row after the first transaction is one of the rows before it, or the
pending receipt the executor is called with. -/
theorem EnterStep.origin (h : EnterStep rt receiptId step receipts out)
    (hids : (receipts.map ReceiptRow.receiptId).Nodup)
    (hfresh : ∀ row ∈ receipts, row.receiptId ≠ receiptId)
    {row' : ReceiptRow} (hmem : row' ∈ out.2) :
    (row' ∈ receipts ∧ out.1 ≠ .dispatch row'.receiptId) ∨
      (row'.dispatchStatus = .pending ∧ row'.request = requestOf rt step ∧
        ((∃ row ∈ receipts, row.identity = row'.identity) ∨ row'.receiptId = receiptId)) := by
  cases h with
  | direct | replay => exact .inl ⟨hmem, by simp⟩
  | @again row _ hselect _ =>
    have hrow : row ∈ selectReceipts receipts (requestOf rt step) := by
      simp [hselect]
    obtain ⟨hold, hrequest⟩ := mem_selectReceipts.mp hrow
    obtain ⟨hkept, hother⟩ | rfl := mem_update_of_unique hids hold
      (beq_self_eq_true row.receiptId) (fun _ => beq_iff_eq.mp) hmem
    · exact .inl ⟨hkept, by simpa using Ne.symm hother⟩
    · exact .inr ⟨rfl, hrequest, .inl ⟨row, hold, rfl⟩⟩
  | first =>
    obtain hold | rfl := by simpa using hmem
    · exact .inl ⟨hold, by simpa using Ne.symm (hfresh row' hold)⟩
    · exact .inr ⟨rfl, rfl, .inr rfl⟩

end Enter

/-- The status the wrapper writes for an outcome, if it gets to write one. -/
def ExecutorOutcome.dispatchStatus : ExecutorOutcome → Option DispatchStatus
  | .returned _ => some .succeeded
  | .threw error =>
    match preDispatch error with
    | .error _ => none
    | .ok true => some .failedPreDispatch
    | .ok false => some .unknownOutcome

/-- What it writes along with the status. -/
def ExecutorOutcome.payload : ExecutorOutcome → Val
  | .returned value => value
  | .threw error => failurePayload error

def ExecutorOutcome.providerStatus : ExecutorOutcome → Val
  | .returned value => (value.member "provider_status").or .null
  | .threw error => (error.member "status").or .null

theorem settleReceipt_receipts (receiptId : String) (outcome : ExecutorOutcome)
    (receipts : List ReceiptRow) :
    (settleReceipt receiptId outcome receipts).2 =
      match outcome.dispatchStatus with
      | none => receipts
      | some status => finalizeMutationReceipt receiptId status outcome.payload
          outcome.providerStatus receipts := by
  cases outcome with
  | returned value => rfl
  | threw error =>
    simp only [settleReceipt, ExecutorOutcome.dispatchStatus]
    cases preDispatch error with
    | error failure => rfl
    | ok pre => cases pre <;> rfl

theorem finalizeMutationReceipt_identities (receiptId : String)
    (status : DispatchStatus) (payload providerStatus : Val) (receipts : List ReceiptRow) :
    (finalizeMutationReceipt receiptId status payload providerStatus
      receipts).map ReceiptRow.identity = receipts.map ReceiptRow.identity :=
  map_update (by intro row; rfl) receipts

variable {status : DispatchStatus}

/-- A row after the write is one of the rows before it, or the row of the
receipt with what has been written. -/
theorem mem_finalizeMutationReceipt {payload providerStatus : Val} {row' : ReceiptRow}
    (h : row' ∈ finalizeMutationReceipt receiptId status payload providerStatus receipts) :
    row' ∈ receipts ∨ ∃ row ∈ receipts, row.receiptId = receiptId ∧
      row'.identity = row.identity ∧ row'.dispatchStatus = status ∧
      row'.providerReceiptJson = storedPayload payload := by
  obtain ⟨row, hrow, rfl⟩ := mem_update.mp h
  cases hid : row.receiptId == receiptId with
  | true => exact .inr ⟨row, hrow, beq_iff_eq.mp hid, rfl, rfl, rfl⟩
  | false => exact .inl hrow

/-- Only a returned value is recorded as a success. -/
theorem dispatchStatus_cases {outcome : ExecutorOutcome}
    (h : outcome.dispatchStatus = some status) :
    (status = .succeeded ∧ ∃ value, outcome = .returned value) ∨
      status = .failedPreDispatch ∨ status = .unknownOutcome := by
  cases outcome with
  | returned value =>
    cases h
    exact .inl ⟨rfl, value, rfl⟩
  | threw error =>
    simp only [ExecutorOutcome.dispatchStatus] at h
    split at h <;> cases h
    · exact .inr (.inl rfl)
    · exact .inr (.inr rfl)

theorem reconcileReceipt_identities (receiptId : String) (conclusive : Bool)
    (replay readback : Val) (receipts : List ReceiptRow) :
    (reconcileReceipt receiptId conclusive replay readback receipts).map
      ReceiptRow.identity = receipts.map ReceiptRow.identity :=
  map_update (fun _ => by cases conclusive <;> rfl) receipts

end GrowthOs.DurableExecution
