import GrowthOs.Execution.Ticks

/-!
# Replays of results

The wrapper records a receipt as `succeeded` for any value the executor returns,
and replays it when the same request comes again; whether the value is a success
is decided afterwards, by the tick.  If the executor returns only results the
tick accepts, then a succeeded receipt stores such a result, and a step with a
succeeded receipt is never claimed again.
-/

namespace GrowthOs.Execution

open Js SequentialPlan DurableExecution Transition List Table

/-! ## Rows that are claimed or over -/

theorem TokenWhileClaimed.eq_none {row : StepRow} (h : TokenWhileClaimed row)
    (hstatus : row.status ≠ .claimed) : row.claimToken = none := by
  cases htoken : row.claimToken with
  | none => rfl
  | some token => exact absurd (h.mp (by simp [htoken])) hstatus

variable {row' : StepRow}

/-- What becomes of a row outside of `finalizeClaim`: it stays, it ends, or it
was neither claimed nor over. -/
theorem Step.row_held {rt : Runtime} {w w' : World} {e : Event} (h : Step rt w e w')
    (hw : w.WellFormed) (hop : e.op.isFinalize = false) (hmem : row' ∈ w'.store.steps)
    (hissued : row'.planStepId ∈ w.issued) :
    ∃ row ∈ w.store.steps, row.planStepId = row'.planStepId ∧
      (row' = row ∨ row'.status.terminal = true ∨
        row.claimToken = none ∧ row.status.terminal = false) := by
  have hfree : ∀ row ∈ w.store.steps, row.status ≠ .claimed →
      row.status.terminal = false → row.claimToken = none ∧ row.status.terminal = false :=
    fun row hrow hstatus hlive =>
      ⟨TokenWhileClaimed.eq_none (hw.store.tokens row hrow) hstatus, hlive⟩
  have heffect := effect_of_exec hw.store h.runs
  have hfresh := h.fresh
  obtain ⟨op, outcome⟩ := e
  obtain ⟨s', issued⟩ := w'
  cases heffect with
  | threw => exact ⟨row', hmem, rfl, .inl rfl⟩
  | compile hcompile =>
    have hsteps := hcompile.steps_eq
    rw [hsteps, mem_append] at hmem
    obtain hold | hstored := hmem
    · exact ⟨row', (mem_filter.mp hold).1, rfl, .inl rfl⟩
    · refine absurd hissued (hfresh _ ?_)
      change row'.planStepId ∈ compileIds _ _
      rw [← hcompile.ids]
      exact mem_map_of_mem hstored
  | claim hclaim =>
    obtain hold | ⟨row, hfrom⟩ | ⟨plan, next, admitted, hnext, rfl⟩ :=
      hclaim.origin hw.store hmem
    · exact ⟨row', hold, rfl, .inl rfl⟩
    · refine ⟨row, hfrom.mem, by rw [hfrom.promoted], .inr (.inr ?_)⟩
      exact hfree row hfrom.mem (by simp [hfrom.pending])
        (by simp [hfrom.pending, StepStatus.terminal])
    · obtain ⟨row, hrow, hspec, hstatus⟩ := firstReady_source hnext.next_eq
      refine ⟨row, hrow, by simp [hspec], .inr (.inr (hfree row hrow ?_ ?_))⟩ <;>
        rcases hstatus with hs | hs <;> simp [hs, StepStatus.terminal]
  | finalize => cases hop
  | decide hdecide =>
    obtain ⟨hold, -⟩ | ⟨_, rfl⟩ := hdecide.origin hw.store hmem
    · exact ⟨row', hold, rfl, .inl rfl⟩
    · have hawaiting := hdecide.awaits.awaiting
      exact ⟨_, hdecide.awaits.mem, rfl, .inr (.inr
        (hfree _ hdecide.awaits.mem (by simp [hawaiting])
          (by simp [hawaiting, StepStatus.terminal])))⟩
  | resume hresume =>
    obtain hold | ⟨row, hrow, rfl⟩ := hresume.origin hw.store hmem
    · exact ⟨row', hold, rfl, .inl rfl⟩
    · obtain ⟨hold, -, hstopped⟩ := hresume.resumable row hrow
      refine ⟨row, hold, rfl, .inr (.inr (hfree row hold ?_ ?_))⟩ <;>
        rcases hstopped with hs | hs | hs <;> simp [hs, StepStatus.terminal]
  | transition htransition =>
    have hsteps : s'.steps = w.store.steps := htransition.steps
    exact ⟨row', hsteps ▸ hmem, rfl, .inl rfl⟩
  | cancel hcancel =>
    obtain hold | ⟨row, hrow, -, rfl⟩ := hcancel.origin hmem
    · exact ⟨row', hold, rfl, .inl rfl⟩
    · exact ⟨row, hrow, rfl, .inr (.inl rfl)⟩

/-! ## Results the tick accepts -/

/-- The result passes the verification of the step and is not marked as a
failure. -/
def IsSuccess (step : StepRow) (result : Val) : Prop :=
  passes step result = true ∧ (result.member "ok").isFalse = false

instance (step : StepRow) (result : Val) : Decidable (IsSuccess step result) :=
  inferInstanceAs (Decidable (_ ∧ _))

/-- The fields the wrapper adds to a result. -/
def reservedFields : List String :=
  ["receipt_id", "idempotent_replay", "secrets_included"]

/-- A JSON object that is a success for the step; no required output field leads
into a field the wrapper sets. -/
structure Acceptable (step : StepRow) (value : Val) : Prop where
  success : IsSuccess step value
  data : ∃ fields, value = .obj fields ∧ jsonFields fields = fields
  paths : ∀ names, requiredOutputFields (successCriteria step) = .ok names →
    ∀ name ∈ names, ∀ segment rest, fieldSegments name = segment :: rest →
      segment ∈ reservedFields → rest = []

section Acceptable

variable {step : StepRow} {value : Val}

/-- Reserved fields can be added. -/
theorem Acceptable.spread {fields extra : List (String × Val)} (h : Acceptable step (.obj fields))
    (hreserved : ∀ field ∈ extra, field.1 ∈ reservedFields)
    (hextra : ∀ field ∈ extra, field.2.isNullish = false) :
    passes step (.obj (Val.spread fields extra)) = true := by
  refine passes_spread h.success.1 ?_ hextra ?_
  · intro field hfield hok
    have hmem := hreserved field hfield
    rw [hok] at hmem
    exact absurd hmem (by decide)
  · intro names hnames name hname segment rest hsegments hmem
    obtain ⟨field, hfield, rfl⟩ := mem_map.mp hmem
    exact h.paths names hnames name hname _ rest hsegments (hreserved field hfield)

/-- A reserved field is not `ok`. -/
theorem lookup_ok_spread {fields extra : List (String × Val)}
    (hreserved : ∀ field ∈ extra, field.1 ∈ reservedFields) :
    Val.lookup (Val.spread fields extra) "ok" = Val.lookup fields "ok" := by
  obtain ⟨-, hlookup⟩ | ⟨field, hfield, hname, -⟩ :=
    Val.lookup_spread fields extra "ok"
  · exact hlookup
  · have hmem := hreserved field hfield
    rw [hname] at hmem
    exact absurd hmem (by decide)

theorem Acceptable.stored (h : Acceptable step value) : IsSuccess step (storedPayload value) := by
  obtain ⟨fields, rfl, hdata⟩ := h.data
  have hstored : storedPayload (.obj fields) =
      .obj (Val.spread fields [("secrets_included", .bool false)]) := by
    have hjson : jsonFields (Val.setField fields "secrets_included" (.bool false)) = _ :=
      jsonFields_setField hdata rfl
    simp [storedPayload, Val.isObject, Val.ownFields, Val.spread, json, jsonValue, hjson]
  have hreserved : ∀ field ∈ [("secrets_included", Val.bool false)], field.1 ∈ reservedFields := by
    simp [reservedFields]
  rw [hstored]
  refine ⟨h.spread hreserved (by simp [Val.isNullish]), ?_⟩
  rw [Val.member, lookup_ok_spread hreserved]
  exact h.success.2

/-- A tick completes the step with it. -/
theorem Acceptable.judged (h : Acceptable step value) (receiptId : String) :
    judge step (.ok (wrapResult value receiptId false)) =
        (wrapResult value receiptId false, .null) ∧
      claimSucceeded (wrapResult value receiptId false) .null = true := by
  obtain ⟨fields, rfl, hdata⟩ := h.data
  have hreserved : ∀ field ∈ [("receipt_id", Val.str receiptId),
      ("idempotent_replay", .bool false)], field.1 ∈ reservedFields := by
    simp [reservedFields]
  have hpassed : passes step (wrapResult (.obj fields) receiptId false) = true :=
    h.spread hreserved (by simp [Val.isNullish])
  refine ⟨judge_of_passes hpassed, ?_⟩
  have hok : (wrapResult (.obj fields) receiptId false).member "ok" =
      Val.lookup fields "ok" := lookup_ok_spread hreserved
  have hnot : (Val.lookup fields "ok").isFalse = false := h.success.2
  simp [claimSucceeded, hok, hnot, Val.truthy]

end Acceptable

/-! ## The invariant -/

/-- A tick in this phase neither enters the executor nor fails its step. -/
def TickPhase.safe : TickPhase → Bool
  | .claimed => false
  | .executing _ => false
  | .judged result error => claimSucceeded result error
  | .finished => true
  | .crashed => true

theorem TickPhase.safe_of_not_open {phase : TickPhase}
    (h : phase.isOpen = false) : phase.safe = true := by
  cases phase <;> first | rfl | cases h

/-- What a succeeded receipt means: it stores a result that passes the
verification of its step, and the step is claimed by a tick that completes it, or
over. -/
structure Sealed (g : Engine) (receipt : ReceiptRow) : Prop where
  passed : ∃ tick ∈ g.ticks, tick.step.planStepId = receipt.planStepId ∧
    IsSuccess tick.step receipt.providerReceiptJson
  rows : ∀ row ∈ g.world.store.steps, row.planStepId = receipt.planStepId →
    row.claimToken.isSome = true ∨ row.status.terminal = true
  ticks : ∀ tick ∈ g.ticks, tick.step.planStepId = receipt.planStepId → tick.phase.safe = true

structure Engine.Kept (g : Engine) : Prop where
  world : g.world.WellFormed
  issued : ∀ tick ∈ g.ticks, tick.step.planStepId ∈ g.world.issued
  claims : ∀ tick ∈ g.ticks, tick.phase.isOpen = true →
    ∀ row ∈ g.world.store.steps, row.planStepId = tick.step.planStepId →
      row.claimToken = some tick.claimToken ∨ row.status.terminal = true
  single : ∀ (i j : Nat) (tick tick' : Tick), g.ticks[i]? = some tick →
    g.ticks[j]? = some tick' → tick.phase.isOpen = true →
    tick'.phase.isOpen = true → tick.step.planStepId = tick'.step.planStepId → i = j
  receiptIds : (g.receipts.map ReceiptRow.receiptId).Nodup
  owner : ∀ tick ∈ g.ticks, ∀ receiptId,
    tick.phase = .executing (some receiptId) → ∀ receipt ∈ g.receipts,
      receipt.receiptId = receiptId → receipt.planStepId = tick.step.planStepId
  unreconciled : ∀ receipt ∈ g.receipts, receipt.dispatchStatus ≠ .reconciled
  sealed : ∀ receipt ∈ g.receipts, receipt.dispatchStatus = .succeeded → Sealed g receipt

theorem Engine.Initial.kept {g : Engine} (h : g.Initial) : g.Kept := by
  refine ⟨h.world.wellFormed, ?_, ?_, ?_, ?_, ?_, ?_, ?_⟩ <;>
    simp [h.ticks, h.receipts]

section Move

variable {g : Engine} {index : Nat} {tick : Tick} {phase : TickPhase} {receipt : ReceiptRow}

theorem mem_setPhase {tick' : Tick} (h : tick' ∈ g.setPhase index tick phase) :
    tick' = { tick with phase } ∨ tick' ∈ g.ticks :=
  (mem_or_eq_of_mem_set h).symm

theorem self_mem_setPhase (h : g.ticks[index]? = some tick) :
    { tick with phase } ∈ g.setPhase index tick phase :=
  mem_set (List.getElem?_eq_some_iff.mp h).1 _

/-- Every tick is still there, up to its phase. -/
theorem exists_mem_setPhase (h : g.ticks[index]? = some tick) {old : Tick} (hold : old ∈ g.ticks) :
    ∃ tick' ∈ g.setPhase index tick phase, tick'.step = old.step := by
  obtain ⟨i, hi⟩ := mem_iff_getElem?.mp hold
  by_cases hindex : i = index
  · subst hindex
    cases h.symm.trans hi
    exact ⟨_, self_mem_setPhase h, rfl⟩
  · refine ⟨old, mem_iff_getElem?.mpr ⟨i, ?_⟩, rfl⟩
    rw [Engine.setPhase, List.getElem?_set_ne (Ne.symm hindex)]
    exact hi

/-- A sealed receipt stays sealed while a tick moves on from a safe phase only
to a safe one. -/
theorem Sealed.setPhase (h : Sealed g receipt) (htick : g.ticks[index]? = some tick)
    (hsafe : tick.phase.safe = true → phase.safe = true) (receipts : List ReceiptRow) :
    Sealed ⟨g.world, receipts, g.setPhase index tick phase⟩ receipt := by
  refine ⟨?_, h.rows, ?_⟩
  · obtain ⟨old, hold, hid, hpassed⟩ := h.passed
    obtain ⟨tick', htick', hsame⟩ := exists_mem_setPhase htick hold
    exact ⟨tick', htick', by rw [hsame, hid], by rw [hsame]; exact hpassed⟩
  · intro tick' htick' hid
    obtain rfl | hold := mem_setPhase htick'
    · exact hsafe (h.ticks tick (mem_of_getElem? htick) hid)
    · exact h.ticks tick' hold hid

/-- A receipt is sealed by the open tick on its step: no other tick on that step
is open. -/
theorem Engine.Kept.seal (h : g.Kept) (htick : g.ticks[index]? = some tick)
    (hopen : tick.phase.isOpen = true) (hsafe : phase.safe = true)
    (hstep : receipt.planStepId = tick.step.planStepId)
    (hpassed : IsSuccess tick.step receipt.providerReceiptJson) (receipts : List ReceiptRow) :
    Sealed ⟨g.world, receipts, g.setPhase index tick phase⟩ receipt := by
  refine ⟨⟨_, self_mem_setPhase htick, hstep.symm, hpassed⟩, ?_, ?_⟩
  · intro row hrow hid
    have hclaim := h.claims tick (mem_of_getElem? htick) hopen row hrow (hid.trans hstep)
    exact hclaim.imp_left fun htoken => by rw [htoken]; rfl
  · intro tick' htick' hid
    obtain ⟨i, hi⟩ := mem_iff_getElem?.mp htick'
    obtain ⟨-, rfl⟩ | ⟨hne, hold⟩ := getElem?_set_cases hi
    · exact hsafe
    · apply TickPhase.safe_of_not_open
      by_contra hopen'
      rw [Bool.not_eq_false] at hopen'
      exact hne (h.single i index tick' tick hold htick hopen' hopen (hid.trans hstep))

/-- A step of one tick that leaves the plans alone.  A receipt it sets to
`succeeded` is one of its own step and stores a result that passes. -/
theorem Engine.Kept.move {receipts : List ReceiptRow} (h : g.Kept)
    (htick : g.ticks[index]? = some tick) (hopen : tick.phase.isOpen = true)
    (hsafe : tick.phase.safe = true → phase.safe = true)
    (hids : (receipts.map ReceiptRow.receiptId).Nodup)
    (howner : ∀ receiptId, phase = .executing (some receiptId) →
      ∀ receipt ∈ receipts, receipt.receiptId = receiptId →
        receipt.planStepId = tick.step.planStepId)
    (horigin : ∀ receipt ∈ receipts, (∃ old ∈ g.receipts, old.identity = receipt.identity) ∨
        ∀ tick ∈ g.ticks, tick.phase.receipt ≠ some receipt.receiptId)
    (hstatus : ∀ receipt ∈ receipts, receipt.dispatchStatus ≠ .reconciled)
    (hsucceeded : ∀ receipt ∈ receipts, receipt.dispatchStatus = .succeeded →
      receipt ∈ g.receipts ∨ receipt.planStepId = tick.step.planStepId ∧
        IsSuccess tick.step receipt.providerReceiptJson ∧
        phase.safe = true) : Engine.Kept ⟨g.world, receipts, g.setPhase index tick phase⟩ := by
  have hmem := mem_of_getElem? htick
  refine ⟨h.world, ?_, ?_, ?_, hids, ?_, hstatus, ?_⟩
  · intro tick' htick'
    obtain rfl | hold := mem_setPhase htick'
    · exact h.issued tick hmem
    · exact h.issued tick' hold
  · intro tick' htick' hopen'
    obtain rfl | hold := mem_setPhase htick'
    · exact h.claims tick hmem hopen
    · exact h.claims tick' hold hopen'
  · intro i j a b ha hb hopenA hopenB hsame
    obtain ⟨rfl, rfl⟩ | ⟨-, holdA⟩ := getElem?_set_cases ha <;>
      obtain ⟨rfl, rfl⟩ | ⟨-, holdB⟩ := getElem?_set_cases hb
    · rfl
    · exact h.single _ _ _ _ htick holdB hopen hopenB hsame
    · exact h.single _ _ _ _ holdA htick hopenA hopen hsame
    · exact h.single _ _ _ _ holdA holdB hopenA hopenB hsame
  · intro tick' htick' receiptId hphase receipt hreceipt hid
    obtain rfl | hold := mem_setPhase htick'
    · exact howner receiptId hphase receipt hreceipt hid
    · obtain ⟨old, holdReceipt, hidentity⟩ | hunused := horigin receipt hreceipt
      · obtain ⟨hsameId, hrequest⟩ := Prod.mk.inj hidentity
        have howned := h.owner tick' hold receiptId hphase old holdReceipt (hsameId.trans hid)
        exact (Prod.mk.inj hrequest).1.symm.trans howned
      · refine absurd ?_ (hunused tick' hold)
        rw [hphase, hid]
        rfl
  · intro receipt hreceipt hsuccess
    obtain hold | ⟨hstep, hpassed, hsafe'⟩ := hsucceeded receipt hreceipt hsuccess
    · exact (h.sealed receipt hold hsuccess).setPhase htick hsafe receipts
    · exact h.seal htick hopen hsafe' hstep hpassed receipts

/-- A step of one tick that leaves the plans and the receipts alone. -/
theorem Engine.Kept.pass (h : g.Kept) (htick : g.ticks[index]? = some tick)
    (hopen : tick.phase.isOpen = true) (hsafe : tick.phase.safe = true → phase.safe = true)
    (hphase : ∀ receiptId, phase ≠ .executing (some receiptId)) :
    Engine.Kept ⟨g.world, g.receipts, g.setPhase index tick phase⟩ :=
  h.move htick hopen hsafe h.receiptIds
    (fun receiptId hexecuting => absurd hexecuting (hphase receiptId))
    (fun receipt hreceipt => .inl ⟨receipt, hreceipt, rfl⟩) h.unreconciled
    fun _ hreceipt _ => .inl hreceipt

end Move

/-! ## Steps -/

section Step

variable {rt : Runtime} {g : Engine} {index : Nat} {tick : Tick}

/-- A tick that is about to enter the executor has no succeeded receipt. -/
theorem Engine.Kept.not_succeeded (h : g.Kept) (htick : tick ∈ g.ticks)
    (hphase : tick.phase.safe = false) {receipt : ReceiptRow} (hreceipt : receipt ∈ g.receipts)
    (hid : receipt.planStepId = tick.step.planStepId) : receipt.dispatchStatus ≠ .succeeded := by
  intro hsuccess
  have hsafe := (h.sealed receipt hreceipt hsuccess).ticks tick htick hid.symm
  simp [hphase] at hsafe

variable {receiptId : String}

/-- It gets no replay. -/
theorem Engine.Kept.not_replay (h : g.Kept) (htick : tick ∈ g.ticks)
    (hphase : tick.phase = .claimed) {out : Entry × List ReceiptRow}
    (henter : EnterStep rt receiptId tick.step g.receipts out) (result : Val) :
    out.1 ≠ .replay result := by
  cases henter with
  | direct | again | first => simp
  | @replay row _ hselect hstatus =>
    have hrow : row ∈ selectReceipts g.receipts (requestOf rt tick.step) := by
      simp [hselect]
    obtain ⟨hmem, hrequest⟩ := mem_selectReceipts.mp hrow
    obtain hsuccess | hreconciled := hstatus
    · exact absurd hsuccess (h.not_succeeded htick (by rw [hphase]; rfl) hmem
        (Prod.mk.inj hrequest).1)
    · exact absurd hreconciled (h.unreconciled row hmem)

theorem Engine.Kept.enter (h : g.Kept) (htick : g.ticks[index]? = some tick)
    (hphase : tick.phase = .claimed) (hfresh : (EngineOp.enter index receiptId).Fresh g)
    {entry : Entry} {receipts : List ReceiptRow}
    (henter : EnterStep rt receiptId tick.step g.receipts (entry, receipts)) :
    Engine.Kept ⟨g.world, receipts, g.setPhase index tick (tick.entered entry)⟩ := by
  obtain ⟨hnew, hunused⟩ := hfresh
  have horigin : ∀ row' ∈ receipts, _ :=
    fun row' hrow' => henter.origin h.receiptIds hnew hrow'
  refine h.move htick (by rw [hphase]; rfl) (by simp [hphase, TickPhase.safe])
    (henter.receiptIds h.receiptIds hnew) ?_ ?_ ?_ ?_
  · intro id hexecuting receipt hreceipt hid
    have hentry : entry = .dispatch id := by
      cases entry <;> simp [Tick.entered, Tick.judgedBy] at hexecuting ⊢
      exact hexecuting
    obtain ⟨-, hother⟩ | ⟨-, hrequest, -⟩ := horigin receipt hreceipt
    · exact absurd (hid ▸ hentry) hother
    · exact (Prod.mk.inj hrequest).1
  · intro receipt hreceipt
    obtain ⟨hold, -⟩ | ⟨-, -, hold | hid⟩ := horigin receipt hreceipt
    · exact .inl ⟨receipt, hold, rfl⟩
    · exact .inl hold
    · exact .inr (hid ▸ hunused)
  · intro receipt hreceipt
    obtain ⟨hold, -⟩ | ⟨hpending, -⟩ := horigin receipt hreceipt
    · exact h.unreconciled receipt hold
    · simp [hpending]
  · intro receipt hreceipt hsuccess
    obtain ⟨hold, -⟩ | ⟨hpending, -⟩ := horigin receipt hreceipt
    · exact .inl hold
    · simp [hpending] at hsuccess

/-- The end of a call: a value that is recorded as a success is one the tick
accepts. -/
theorem Engine.Kept.settle (h : g.Kept) (htick : g.ticks[index]? = some tick)
    (hphase : tick.phase = .executing (some receiptId)) {outcome : ExecutorOutcome}
    (hhonest : ∀ value, outcome = .returned value → Acceptable tick.step value) :
    Engine.Kept ⟨g.world, (settleReceipt receiptId outcome g.receipts).2, g.setPhase index tick
        (tick.judgedBy (settleReceipt receiptId outcome g.receipts).1)⟩ := by
  have hmem := mem_of_getElem? htick
  have hopen : tick.phase.isOpen = true := by rw [hphase]; rfl
  have hnotSafe : tick.phase.safe = false := by rw [hphase]; rfl
  cases hstatus : outcome.dispatchStatus with
  | none =>
    rw [settleReceipt_receipts, hstatus]
    exact h.pass htick hopen (by simp [hnotSafe]) (by simp [Tick.judgedBy])
  | some status =>
    have hreceipts : (settleReceipt receiptId outcome g.receipts).2 =
        finalizeMutationReceipt receiptId status outcome.payload
          outcome.providerStatus g.receipts := by
      rw [settleReceipt_receipts, hstatus]
    rw [hreceipts]
    refine h.move htick hopen (by simp [hnotSafe]) ?_ (by simp [Tick.judgedBy]) ?_ ?_ ?_
    · rw [(keys_of_identities (finalizeMutationReceipt_identities _ _ _ _ _)).1]
      exact h.receiptIds
    · intro receipt hreceipt
      obtain hold | ⟨old, hold, -, hidentity, -⟩ :=
        mem_finalizeMutationReceipt hreceipt
      · exact .inl ⟨receipt, hold, rfl⟩
      · exact .inl ⟨old, hold, hidentity.symm⟩
    · intro receipt hreceipt
      obtain hold | ⟨_, -, -, -, hwritten, -⟩ :=
        mem_finalizeMutationReceipt hreceipt
      · exact h.unreconciled receipt hold
      · rcases dispatchStatus_cases hstatus with ⟨hs, -⟩ | hs | hs <;>
          simp [hwritten, hs]
    · intro receipt hreceipt hsuccess
      obtain hold | ⟨old, hold, hid, hidentity, hwritten, hpayload⟩ :=
        mem_finalizeMutationReceipt hreceipt
      · exact .inl hold
      · rw [hsuccess] at hwritten
        obtain ⟨-, value, rfl⟩ | hs | hs := dispatchStatus_cases hstatus
        · have haccept := hhonest value rfl
          obtain ⟨hjudged, hsucceeded⟩ := haccept.judged receiptId
          have hrequest := (Prod.mk.inj hidentity).2
          refine .inr ⟨?_, ?_, ?_⟩
          · exact (Prod.mk.inj hrequest).1.trans (h.owner tick hmem receiptId hphase old hold hid)
          · rw [hpayload]
            exact haccept.stored
          · rw [Tick.judgedBy, settleReceipt, hjudged]
            exact hsucceeded
        · simp [hs] at hwritten
        · simp [hs] at hwritten

variable {w' : World}

/-- A transaction that changes the rows of the plans. -/
theorem Engine.Kept.onWorld (h : g.Kept) (hw : w'.WellFormed)
    (hissued : ∀ id ∈ g.world.issued, id ∈ w'.issued)
    (hclaims : ∀ tick ∈ g.ticks, tick.phase.isOpen = true →
      ∀ row ∈ w'.store.steps, row.planStepId = tick.step.planStepId →
        row.claimToken = some tick.claimToken ∨ row.status.terminal = true)
    (hrows : ∀ receipt ∈ g.receipts, receipt.dispatchStatus = .succeeded →
      ∀ row ∈ w'.store.steps, row.planStepId = receipt.planStepId →
        row.claimToken.isSome = true ∨ row.status.terminal = true) :
    Engine.Kept ⟨w', g.receipts, g.ticks⟩ where
  world := hw
  issued tick htick := hissued _ (h.issued tick htick)
  claims := hclaims
  single := h.single
  receiptIds := h.receiptIds
  owner := h.owner
  unreconciled := h.unreconciled
  sealed receipt hreceipt hsuccess :=
    have hsealed := h.sealed receipt hreceipt hsuccess
    ⟨hsealed.passed, hrows receipt hreceipt hsuccess, hsealed.ticks⟩

variable {e : Event}

theorem finalizeOp_origin {w : World} {result error : Val} (hw : w.WellFormed)
    (hop : e.op = tick.finalizeOp result error) (hstep : Step rt w e w')
    (hmem : row' ∈ w'.store.steps) :
    row' ∈ w.store.steps ∨ ∃ row, row.planStepId = tick.step.planStepId ∧
      row' = settledRow result error row := by
  have heffect := effect_of_exec hw.store hstep.runs
  obtain ⟨op, outcome⟩ := e
  obtain ⟨s', issued⟩ := w'
  cases hop
  cases heffect with
  | threw => exact .inl hmem
  | finalize hfinal =>
    obtain ⟨hold, -⟩ | hsettled := hfinal.origin hw.store hmem
    · exact .inl hold
    · exact .inr ⟨_, hfinal.planStepId_eq, hsettled⟩

/-- A finalized claim: the row of a succeeded receipt is completed. -/
theorem Engine.Kept.finalize (h : g.Kept) (htick : g.ticks[index]? = some tick)
    {result error : Val} (hphase : tick.phase = .judged result error)
    (hop : e.op = tick.finalizeOp result error) (hstep : Step rt g.world e w') :
    Engine.Kept ⟨w', g.receipts, g.setPhase index tick .finished⟩ := by
  have hmem := mem_of_getElem? htick
  have hopen : tick.phase.isOpen = true := by rw [hphase]; rfl
  have hfinished : Engine.Kept ⟨g.world, g.receipts, g.setPhase index tick .finished⟩ :=
    h.pass htick hopen (fun _ => rfl) (by simp)
  refine hfinished.onWorld (hstep.wellFormed h.world) (fun id => hstep.issued_mono) ?_ ?_
  · intro tick' htick' hopen' row' hrow' hid
    obtain hold | ⟨row, hrow, rfl⟩ :=
      finalizeOp_origin h.world hop hstep hrow'
    · exact hfinished.claims tick' htick' hopen' row' hold hid
    · -- No other open tick has claimed the step.
      obtain ⟨i, hi⟩ := mem_iff_getElem?.mp htick'
      obtain ⟨-, rfl⟩ | ⟨hne, hi⟩ := getElem?_set_cases hi
      · cases hopen'
      · exact absurd (h.single i index tick' tick hi htick hopen' hopen (hid.symm.trans hrow)) hne
  · intro receipt hreceipt hsuccess row' hrow' hid
    have hsealed := h.sealed receipt hreceipt hsuccess
    obtain hold | ⟨row, hrow, rfl⟩ :=
      finalizeOp_origin h.world hop hstep hrow'
    · exact hsealed.rows row' hold hid
    · right
      have hsafe := hsealed.ticks tick hmem (hrow.symm.trans hid)
      rw [hphase] at hsafe
      have hcompleted : (settledRow result error row).status = .completed :=
        if_pos hsafe
      rw [hcompleted]
      rfl

/-- A new tick has claimed a step that was ready or pending. -/
theorem newTicks_cases {w : World} (hw : w.WellFormed) (hstep : Step rt w e w') :
    newTicks e = [] ∨ ∃ tick planId, newTicks e = [tick] ∧ tick.phase = .claimed ∧
      (∃ row ∈ w.store.steps, row.planStepId = tick.step.planStepId ∧
        (row.status = .ready ∨ row.status = .pending)) ∧
      ∃ row' ∈ stepsOf w'.store planId,
        row'.planStepId = tick.step.planStepId ∧
        row'.claimToken = some tick.claimToken := by
  unfold newTicks
  split
  next clock planId actorId holdId token plan step claimToken hop houtcome =>
    right
    have htoken : claimToken = token := by
      have heffect := effect_of_exec hw.store hstep.runs
      rw [hop, houtcome] at heffect
      cases heffect with
      | claim hclaim => exact hclaim.token_eq
    subst htoken
    obtain ⟨_, _, _, _, _, next, hop', rfl, hfrom⟩ :=
      hstep.dispatchedFrom hw ⟨clock, actorId, holdId, claimToken, plan, hop, houtcome⟩
    cases hop.symm.trans hop'
    obtain ⟨row, hrow, hspec, hstatus⟩ := firstReady_source hfrom.next_eq
    exact ⟨_, planId, rfl, rfl, ⟨row, hrow, by rw [hspec], hstatus⟩,
      _, hfrom.mem, by simp, by simp [admittedRow]⟩
  next => exact .inl rfl

/-- A tick on a step that no open tick and no succeeded receipt is about. -/
theorem Engine.Kept.addTick (h : g.Kept) (hphase : tick.phase = .claimed)
    (hissued : tick.step.planStepId ∈ g.world.issued)
    (hclaims : ∀ row ∈ g.world.store.steps, row.planStepId = tick.step.planStepId →
        row.claimToken = some tick.claimToken)
    (hticks : ∀ old ∈ g.ticks, old.phase.isOpen = true → old.step.planStepId ≠ tick.step.planStepId)
    (hreceipts : ∀ receipt ∈ g.receipts, receipt.dispatchStatus = .succeeded →
      receipt.planStepId ≠ tick.step.planStepId) :
    Engine.Kept ⟨g.world, g.receipts, g.ticks ++ [tick]⟩ := by
  have hcases : ∀ {t : Tick}, t ∈ g.ticks ++ [tick] → t ∈ g.ticks ∨ t = tick := by
    simp
  refine ⟨h.world, ?_, ?_, ?_, h.receiptIds, ?_, h.unreconciled, ?_⟩
  · intro t ht
    obtain hold | rfl := hcases ht
    · exact h.issued t hold
    · exact hissued
  · intro t ht hopen row hrow hid
    obtain hold | rfl := hcases ht
    · exact h.claims t hold hopen row hrow hid
    · exact .inl (hclaims row hrow hid)
  · intro i j a b ha hb hopenA hopenB hsame
    obtain holdA | ⟨rfl, rfl⟩ := getElem?_concat_cases ha <;>
      obtain holdB | ⟨rfl, rfl⟩ := getElem?_concat_cases hb
    · exact h.single i j a b holdA holdB hopenA hopenB hsame
    · exact absurd hsame (hticks a (mem_of_getElem? holdA) hopenA)
    · exact absurd hsame.symm (hticks b (mem_of_getElem? holdB) hopenB)
    · rfl
  · intro t ht receiptId hexecuting receipt hreceipt hid
    obtain hold | rfl := hcases ht
    · exact h.owner t hold receiptId hexecuting receipt hreceipt hid
    · simp [hphase] at hexecuting
  · intro receipt hreceipt hsuccess
    have hsealed := h.sealed receipt hreceipt hsuccess
    refine ⟨?_, hsealed.rows, ?_⟩
    · obtain ⟨old, hold, hid, hpassed⟩ := hsealed.passed
      exact ⟨old, mem_append_left _ hold, hid, hpassed⟩
    · intro t ht hid
      obtain hold | rfl := hcases ht
      · exact hsealed.ticks t hold hid
      · exact absurd hid.symm (hreceipts receipt hreceipt hsuccess)

/-- A transaction on the plans outside of `finalizeClaim`. -/
theorem Engine.Kept.orchestrate (h : g.Kept) (hop : e.op.isFinalize = false)
    (hstep : Step rt g.world e w') : Engine.Kept ⟨w', g.receipts, g.ticks ++ newTicks e⟩ := by
  have hw := h.world
  have hw' := hstep.wellFormed hw
  have hkept : Engine.Kept ⟨w', g.receipts, g.ticks⟩ := by
    refine h.onWorld hw' (fun id => hstep.issued_mono) ?_ ?_
    · intro tick htick hopen row' hrow' hid
      obtain ⟨row, hrow, hsame, rfl | hover | ⟨hnone, hlive⟩⟩ :=
        hstep.row_held h.world hop hrow' (hid ▸ h.issued tick htick)
      · exact h.claims tick htick hopen row' hrow hid
      · exact .inr hover
      · have hheld := h.claims tick htick hopen row hrow (hsame.trans hid)
        simp [hnone, hlive] at hheld
    · intro receipt hreceipt hsuccess row' hrow' hid
      have hsealed := h.sealed receipt hreceipt hsuccess
      obtain ⟨tick, htick, htickId, -⟩ := hsealed.passed
      obtain ⟨row, hrow, hsame, rfl | hover | ⟨hnone, hlive⟩⟩ :=
        hstep.row_held h.world hop hrow' (hid ▸ htickId ▸ h.issued tick htick)
      · exact hsealed.rows row' hrow hid
      · exact .inr hover
      · have hheld := hsealed.rows row hrow (hsame.trans hid)
        simp [hnone, hlive] at hheld
  obtain hnone | ⟨tick, planId, hnew, hphase, ⟨source, hsource, hsourceId,
    hstatus⟩, row', hrow', hrowId, htoken⟩ := newTicks_cases h.world hstep
  · rw [hnone, append_nil]
    exact hkept
  · rw [hnew]
    obtain ⟨hmem', -⟩ := mem_stepsOf.mp hrow'
    have hfree : source.claimToken = none ∧ source.status.terminal = false := by
      have htokens := hw.store.tokens source hsource
      rcases hstatus with hs | hs <;>
        exact ⟨TokenWhileClaimed.eq_none htokens (by simp [hs]),
          by simp [hs, StepStatus.terminal]⟩
    refine hkept.addTick hphase ?_ ?_ ?_ ?_
    · rw [← hrowId]
      exact hw'.stepIssued row' hmem'
    · intro row hrow hid
      rw [hw'.store.row_eq hrow hmem' (hid.trans hrowId.symm)]
      exact htoken
    · intro old hold hopen hsame
      have hheld := h.claims old hold hopen source hsource (hsourceId.trans hsame.symm)
      simp [hfree] at hheld
    · intro receipt hreceipt hsuccess hsame
      have hheld := (h.sealed receipt hreceipt hsuccess).rows source hsource
        (hsourceId.trans hsame.symm)
      simp [hfree] at hheld

/-- The wrapped executor returns only results the tick accepts. -/
def Honest (g : Engine) (op : EngineOp) : Prop :=
  match op with
  | .settle index (.returned value) => ∀ tick receiptId,
      g.ticks[index]? = some tick → tick.phase = .executing (some receiptId) →
        Acceptable tick.step value
  | _ => True

/-- Every step with an honest executor keeps the invariant. -/
theorem Engine.Kept.step (h : g.Kept) {op : EngineOp} {g' : Engine}
    (hstep : EngineStep rt g op g') (hhonest : Honest g op) : g'.Kept := by
  cases hstep.effect with
  | idle => exact h
  | orchestrate hop hworld => exact h.orchestrate hop hworld
  | enter htick hphase hfresh henter => exact h.enter htick hphase hfresh henter
  | refused htick hphase | answer htick hphase =>
    exact h.pass htick (by rw [hphase]; rfl) (by simp [hphase, TickPhase.safe])
      (by simp [Tick.judgedBy])
  | settle htick hphase =>
    refine h.settle htick hphase ?_
    rintro value rfl
    exact hhonest _ _ htick hphase
  | finalize htick hphase hworld =>
    exact h.finalize htick hphase rfl hworld
  | crash htick hopen => exact h.pass htick hopen (fun _ => rfl) (by simp)

end Step

/-! ## Runs -/

/-- In every run of ticks with an honest executor, a succeeded receipt stores a
success of its step, and a tick on a workflow step, after a retry or not,
invokes the executor or fails: it is never given a replay. -/
theorem replays_only_real_successes (rt : Runtime) {g₀ g : Engine}
    {history : List EngineOp} (hinit : g₀.Initial)
    (hrun : Run (restrict (EngineStep rt) Honest) g₀ history g) :
    (∀ receipt ∈ g.receipts, receipt.dispatchStatus = .succeeded →
      ∃ tick ∈ g.ticks, tick.step.planStepId = receipt.planStepId ∧
        IsSuccess tick.step receipt.providerReceiptJson) ∧
    (∀ tick ∈ g.ticks, tick.phase = .claimed → tick.step.stepType = .workflow → ∀ receiptId,
        (∃ id receipts, enterExecutor rt receiptId tick.step g.receipts =
          .ok (.dispatch id, receipts)) ∨
        ∃ error, enterExecutor rt receiptId tick.step g.receipts =
          .error error) := by
  have hkept : g.Kept := hrun.invariant (I := Engine.Kept)
    (fun _ _ _ hg hstep => hg.step hstep.1 hstep.2) hinit.kept
  refine ⟨fun receipt hreceipt hsuccess =>
    (hkept.sealed receipt hreceipt hsuccess).passed, ?_⟩
  intro tick htick hphase hworkflow receiptId
  cases henter : enterExecutor rt receiptId tick.step g.receipts with
  | error error => exact .inr ⟨error, rfl⟩
  | ok out =>
    obtain ⟨entry, receipts⟩ := out
    have hstep := enterExecutor_ok henter
    cases entry with
    | dispatch id => exact .inl ⟨id, receipts, rfl⟩
    | replay result =>
      exact absurd rfl (hkept.not_replay htick hphase hstep result)
    | direct =>
      cases hstep with
      | direct hother => exact absurd hworkflow hother

def draftEngine : Engine :=
  ⟨draftWorld, [], []⟩

/-- The first attempt of a step ends with `outcome`, and the next tick has
claimed the step again. -/
def attemptTwice (outcome : ExecutorOutcome) : List EngineOp :=
  [.orchestrate (compileOp "step" retriedSteps),
    .orchestrate (claimOp "hold1" "token1"), .enter 0 "receipt1",
    .settle 0 outcome, .finalize 0, .orchestrate (claimOp "hold2" "token2")]

/-- The executor returns whether it succeeded. -/
def answers (ok : Bool) : ExecutorOutcome :=
  .returned (.obj [("ok", .bool ok)])

/-- The first attempt is refused before dispatch, the second succeeds. -/
def recover : List EngineOp :=
  attemptTwice refusal ++ [.enter 1 "receipt2", .settle 1 (answers true)]

theorem replays_only_real_successes_recovered :
    ∃ receipt ∈ (draftEngine.play digestRuntime recover).receipts,
      receipt.dispatchStatus = .succeeded ∧
      ∃ tick ∈ (draftEngine.play digestRuntime recover).ticks,
        tick.step.planStepId = receipt.planStepId ∧
        IsSuccess tick.step receipt.providerReceiptJson := by
  have hinit : draftEngine.Initial := ⟨initial_draftWorld, rfl, rfl⟩
  have hsteps : ∀ tick ∈ (draftEngine.play digestRuntime
      (attemptTwice refusal ++ [.enter 1 "receipt2"])).ticks,
      IsSuccess tick.step (.obj [("ok", .bool true)]) ∧
        (requiredOutputFields (successCriteria tick.step)).toOption = some [] := by
    decide +kernel
  have hplays : draftEngine.Plays digestRuntime Honest recover := by
    refine ⟨⟨by decide, trivial⟩, ⟨by decide, trivial⟩, ⟨by decide, trivial⟩,
      ⟨by decide, trivial⟩, ⟨by decide, trivial⟩, ⟨by decide, trivial⟩,
      ⟨by decide +kernel, trivial⟩, ⟨trivial, ?_⟩, trivial⟩
    intro tick receiptId htick _
    obtain ⟨hsuccess, hnone⟩ := hsteps tick (mem_of_getElem? htick)
    refine ⟨hsuccess, ⟨_, rfl, rfl⟩, ?_⟩
    intro names hnames
    rw [hnames] at hnone
    cases hnone
    simp
  obtain ⟨receipt, hreceipt, hsuccess⟩ :
      ∃ receipt ∈ (draftEngine.play digestRuntime recover).receipts,
        receipt.dispatchStatus = .succeeded := by
    decide +kernel
  exact ⟨receipt, hreceipt, hsuccess, (replays_only_real_successes digestRuntime
    hinit (Engine.run_play hplays)).1 receipt hreceipt hsuccess⟩

/-- The executor returns `{ ok: false }`.  The receipt is recorded as succeeded,
the tick fails and is retried, and the next tick is given the failure as a
replay. -/
theorem failed_result_replayed :
    ∃ g, draftEngine.Initial ∧
      Run (EngineStep digestRuntime) draftEngine (attemptTwice (answers false)) g ∧
      (∃ receipt ∈ g.receipts, receipt.dispatchStatus = .succeeded ∧
        ∀ tick ∈ g.ticks, tick.step.planStepId = receipt.planStepId →
          ¬IsSuccess tick.step receipt.providerReceiptJson) ∧
      ∃ tick ∈ g.ticks, tick.phase = .claimed ∧ tick.step.stepType = .workflow ∧
        ∃ result ∈ replayOf (enterExecutor digestRuntime "receipt2" tick.step g.receipts),
          ¬IsSuccess tick.step result := by
  have hplays : draftEngine.Plays digestRuntime (fun _ _ => True)
      (attemptTwice (answers false)) := by
    decide
  exact ⟨_, ⟨initial_draftWorld, rfl, rfl⟩, (Engine.run_play hplays).of_restrict,
    by decide +kernel, by decide +kernel⟩

end GrowthOs.Execution
