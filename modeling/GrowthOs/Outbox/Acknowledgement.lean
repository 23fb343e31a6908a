import GrowthOs.Outbox.DeliveryStates

/-!
# What a worker acknowledges

A call of `runPlatformOutboxWorker` that was handed a batch posts it and, when the
endpoint accepts it, marks the rows that still carry its token and reports the whole
batch as delivered.  The report is true of every call whose claim did not run out
before an expiry pass of some worker while the call was still waiting.
-/

namespace GrowthOs.Outbox

open Table Transition List

variable {collate : String → String}

/-! ## Calls that are under way -/

/-- What a call returns once the endpoint has answered. -/
structure WorkerResult where
  ok : Bool
  attemptedCount : Nat
  deliveredCount : Nat
  responseStatus : Option Nat
  eventIds : List String

/-- The result of a call whose batch was accepted. -/
def acknowledgement (claim : Claim) (responseStatus : Nat) : WorkerResult where
  ok := true
  attemptedCount := claim.rows.length
  deliveredCount := claim.rows.length
  responseStatus := some responseStatus
  eventIds := claim.rows.map (·.eventId)

/-- The tables, the batches whose calls wait for an answer, and those whose calls
record a failure. -/
structure OutboxWorkers (collate : String → String) where
  store : OutboxStore collate
  posting : List Claim
  failing : List Claim

/-- What happens in the process of a worker. -/
inductive WorkerEvent
  /-- A statement of a worker or a producer, or time passing. -/
  | statement (op : OutboxOp)
  /-- The endpoint refused the batch or did not answer in time. -/
  | rejected (claim : Claim)
  /-- The worker died. -/
  | died (claim : Claim)
  /-- The rows are marked and the call returns. -/
  | acknowledged (claim : Claim) (responseStatus : Nat)
  /-- The rows are marked, and the next statement of the call throws. -/
  | interrupted (claim : Claim) (responseStatus : Nat)

/-- The statements a call makes before it has a batch or after a failure. -/
def OutboxOp.besideAcknowledgement (failing : List Claim) : OutboxOp → Prop
  | .markDelivered _ _ => False
  | .markFailed claim _ _ => claim ∈ failing
  | _ => True

def withoutClaim (claim : Claim) (claims : List Claim) : List Claim :=
  claims.filter fun other => other ≠ claim

variable (consumer : Consumer)

/-- One step of the calls of `consumer`. -/
def WorkerStep (w : OutboxWorkers collate) : WorkerEvent → OutboxWorkers collate → Prop
  | .statement op, w' =>
    OutboxStep consumer w.store op w'.store ∧ op.besideAcknowledgement w.failing ∧
      w'.posting = w.posting ++ op.newClaims consumer w.store ∧
      w'.failing = w.failing
  | .rejected claim, w' =>
    claim ∈ w.posting ∧ w' = ⟨w.store, withoutClaim claim w.posting, claim :: w.failing⟩
  | .died claim, w' => w' = { w with posting := withoutClaim claim w.posting }
  | .acknowledged claim responseStatus, w' =>
    claim ∈ w.posting ∧ 200 ≤ responseStatus ∧ responseStatus < 300 ∧
      OutboxStep consumer w.store (.markDelivered claim responseStatus) w'.store ∧
      w'.posting = withoutClaim claim w.posting ∧ w'.failing = w.failing
  | .interrupted claim responseStatus, w' =>
    claim ∈ w.posting ∧ 200 ≤ responseStatus ∧ responseStatus < 300 ∧
      OutboxStep consumer w.store (.markDelivered claim responseStatus) w'.store ∧
      w'.posting = withoutClaim claim w.posting ∧ w'.failing = claim :: w.failing

/-- An expiry pass finds no claim run out whose call still waits. -/
def LeaseKept (w : OutboxWorkers collate) (e : WorkerEvent) : Prop :=
  e = .statement .releaseExpired → ∀ claim ∈ w.posting, ∀ row ∈ w.store.deliveries.rows,
    row.claimToken = some claim.claimToken → row.claimExpired w.store.now = false

/-- The rows that were not delivered before and are delivered afterwards. -/
def movedCount (s s' : OutboxStore collate) : Nat :=
  (s.deliveries.rows.zip s'.deliveries.rows).countP fun rows =>
    rows.1.status != .delivered && rows.2.status == .delivered

/-- The report of a call is what its statement did. -/
structure Truthful (claim : Claim) (responseStatus : Nat) (s s' : OutboxStore collate) : Prop where
  moved : ∀ eventId ∈ (acknowledgement claim responseStatus).eventIds,
    ∃ row ∈ s.deliveries.rows, collate row.eventId = collate eventId ∧
      collate row.consumerKey = collate consumer.consumerKey ∧
      row.status ≠ .delivered ∧ row.deliver responseStatus s.now ∈ s'.deliveries.rows
  counted : (acknowledgement claim responseStatus).deliveredCount = movedCount s s'

/-! ## Batches list each event once -/

/-- Two rows of different events. -/
def DeliveryRow.Apart (collate : String → String) (a b : DeliveryRow) : Prop :=
  collate a.eventId ≠ collate b.eventId

theorem events_apart (s : OutboxStore collate) :
    s.events.rows.Pairwise fun a b => collate a.eventId ≠ collate b.eventId := by
  refine s.events.unique.imp ?_
  intro a b hfree heq
  refine hfree ⟨_, mem_cons_self, ?_, ?_⟩
  · exact Option.some_ne_none _
  · rw [heq]

theorem pendingRows_apart (registry : Registry) (consumer : Consumer) (limit : Nat)
    (s : OutboxStore collate) :
    (pendingRows registry consumer limit s).Pairwise (DeliveryRow.Apart collate) := by
  refine List.Pairwise.take ?_
  rw [pairwise_flatMap]
  constructor
  · -- one event has one row of the consumer
    intro event _
    refine (s.deliveries.unique.filter _).imp_of_mem ?_
    intro a b ha hb hfree heq
    have hsa := (mem_filter.mp ha).2
    have hsb := (mem_filter.mp hb).2
    simp only [Bool.and_eq_true, beq_iff_eq] at hsa hsb
    refine hfree ⟨_, mem_cons_self, Option.some_ne_none _, ?_⟩
    rw [heq, hsa.1.2, hsb.1.2]
  · have hsorted := (perm_insertionSort (fun a b : OutboxEvent => a.occurredAt < b.occurredAt ∨
        a.occurredAt = b.occurredAt ∧ a.id ≤ b.id)
      (s.events.rows.filter (OutboxEvent.deliverable collate registry s.now)))
    have hapart := hsorted.symm.pairwise ((events_apart s).filter _) Ne.symm
    refine hapart.imp ?_
    intro event event' hne a ha b hb heq
    have hsa := (mem_filter.mp ha).2
    have hsb := (mem_filter.mp hb).2
    simp only [Bool.and_eq_true, beq_iff_eq] at hsa hsb
    exact hne (hsa.1.1.symm.trans (heq.trans hsb.1.1))

/-! ## Rows that are held -/

/-- The row is the target of a claim and carries its token. -/
structure DeliveryRow.HeldFor (collate : String → String) (consumer : Consumer)
    (claim : Claim) (target : ClaimedRow) (row : DeliveryRow) : Prop where
  event : collate row.eventId = collate target.eventId
  ofConsumer : collate row.consumerKey = collate consumer.consumerKey
  token : row.claimToken = some claim.claimToken

/-- The batches of the calls that wait are held. -/
structure WellHeld (w : OutboxWorkers collate) : Prop where
  well : WellClaimed w.store
  issued : ∀ claim ∈ w.posting, claim ∈ w.store.claims
  apart : ∀ claim ∈ w.posting, claim.rows.Pairwise fun a b => collate a.eventId ≠ collate b.eventId
  failing : ∀ claim ∈ w.failing, claim ∈ w.store.claims ∧ claim ∉ w.posting
  held : ∀ claim ∈ w.posting, ∀ target ∈ claim.rows,
    ∃ row ∈ w.store.deliveries.rows, row.HeldFor collate consumer claim target

section

variable {consumer} {s s' : OutboxStore collate} {op : OutboxOp} {claim : Claim}
  {w w' : OutboxWorkers collate} {row : DeliveryRow}

/-- A held row stays as it is under every statement that is not a result of its
claim and does not find the claim expired. -/
theorem OutboxStep.keeps_held (h : OutboxStep consumer s op s') (hs : WellClaimed s)
    (hclaim : claim ∈ s.claims) (hrow : row ∈ s.deliveries.rows)
    (htoken : row.claimToken = some claim.claimToken)
    (hlease : op = .releaseExpired → row.claimExpired s.now = false)
    (hother : ∀ c ∈ s.claims, op.resultOf = some c → c ≠ claim) : row ∈ s'.deliveries.rows := by
  have howner : ∀ c ∈ s.claims, row.claimToken = some c.claimToken → c = claim := by
    intro c hc hcarries
    rw [htoken] at hcarries
    exact hs.claim_unique hc hclaim (congrArg collate (Option.some.inj hcarries).symm)
  obtain ⟨row', hrow', hchange⟩ := (h.deliveriesChange hs).image row hrow
  cases hchange with
  | keep => exact hrow'
  | release hop hexpired =>
    rw [hlease hop] at hexpired
    cases hexpired
  | claim registry limit token hop hpending =>
    have hclaimed : row.status = .claimed := (hs.token_iff row hrow).mp (by simp [htoken])
    rcases DeliveryRow.status_of_claimable (mem_pendingRows hpending).2.1 with heq | heq
    · rw [hclaimed] at heq
      cases heq
    · rw [hclaimed] at heq
      cases heq
  | deliver c responseStatus hop hcarries =>
    subst hop
    exact absurd (howner c h.1 hcarries) (hother c h.1 rfl)
  | fail c target failure hop hcarries _ =>
    subst hop
    exact absurd (howner c h.1.1 hcarries) (hother c h.1.1 rfl)

/-- A batch is held when it has just been handed out. -/
theorem OutboxStep.new_claim_held (h : OutboxStep consumer s op s')
    (hclaim : claim ∈ op.newClaims consumer s) :
    claim.rows.Pairwise (fun a b => collate a.eventId ≠ collate b.eventId) ∧ ∀ target ∈ claim.rows,
        ∃ row ∈ s'.deliveries.rows, row.HeldFor collate consumer claim target := by
  obtain ⟨registry, limit, token, rfl, rfl, _⟩ := h.new_claim hclaim
  obtain ⟨_, rfl⟩ := h
  have hnonempty : (pendingRows registry consumer limit s).isEmpty = false := by
    simp only [OutboxOp.newClaims] at hclaim
    by_contra hempty
    rw [Bool.not_eq_false] at hempty
    rw [if_pos hempty] at hclaim
    cases hclaim
  constructor
  · unfold batchOf
    rw [pairwise_map]
    exact pendingRows_apart registry consumer limit s
  · intro target htarget
    obtain ⟨row, hrow, rfl⟩ := mem_map.mp htarget
    obtain ⟨hmem, _, hconsumer⟩ := mem_pendingRows hrow
    refine ⟨row.takeClaim token s.now, ?_, rfl, hconsumer, rfl⟩
    simp only [OutboxOp.apply, claimPendingRows]
    rw [if_neg (by simp [hnonempty])]
    refine mem_update.mpr ⟨row, hmem, ?_⟩
    rw [if_pos]
    simp only [Bool.and_eq_true, beq_iff_eq, any_eq_true]
    exact ⟨hconsumer, row, hrow, rfl⟩

theorem mem_withoutClaim {claims : List Claim} {other : Claim} :
    other ∈ withoutClaim claim claims ↔ other ∈ claims ∧ other ≠ claim := by
  simp [withoutClaim]

/-- One claim is no longer posted, and the rows of the others are kept. -/
theorem WellHeld.withdraw (hw : WellHeld consumer w) (hwell : WellClaimed w'.store)
    (hclaims : ∀ c ∈ w.store.claims, c ∈ w'.store.claims)
    (hrows : ∀ c ∈ w.posting, c ≠ claim → ∀ row ∈ w.store.deliveries.rows,
      row.claimToken = some c.claimToken → row ∈ w'.store.deliveries.rows)
    (hposting : w'.posting = withoutClaim claim w.posting)
    (hfailing : ∀ c ∈ w'.failing, c = claim ∧ claim ∈ w.store.claims ∨ c ∈ w.failing) :
    WellHeld consumer w' := by
  have hrest : ∀ c ∈ w'.posting, c ∈ w.posting ∧ c ≠ claim := by
    intro c hc
    rw [hposting] at hc
    exact mem_withoutClaim.mp hc
  refine ⟨hwell, ?_, ?_, ?_, ?_⟩
  · intro c hc
    exact hclaims c (hw.issued c (hrest c hc).1)
  · intro c hc
    exact hw.apart c (hrest c hc).1
  · intro c hc
    rcases hfailing c hc with ⟨rfl, hissued⟩ | hold
    · exact ⟨hclaims _ hissued, fun hposted => (hrest _ hposted).2 rfl⟩
    · obtain ⟨hissued, hnot⟩ := hw.failing c hold
      exact ⟨hclaims c hissued, fun hposted => hnot (hrest c hposted).1⟩
  · intro c hc target htarget
    obtain ⟨hcw, hne⟩ := hrest c hc
    obtain ⟨row, hrow, hheld⟩ := hw.held c hcw target htarget
    exact ⟨row, hrows c hcw hne row hrow hheld.token, hheld⟩

/-- A result is written for its own claim only. -/
theorem WellHeld.of_result (hw : WellHeld consumer w)
    (hstep : OutboxStep consumer w.store op w'.store)
    (hop : op.resultOf = some claim) (hclaim : claim ∈ w.store.claims)
    (hposting : w'.posting = withoutClaim claim w.posting)
    (hfailing : ∀ c ∈ w'.failing, c = claim ∨ c ∈ w.failing) : WellHeld consumer w' := by
  refine hw.withdraw (wellClaimed_step hw.well hstep) (fun _ => hstep.mem_claims) ?_ hposting
    fun c hc => (hfailing c hc).imp_left fun h => ⟨h, hclaim⟩
  intro c hc hne row hrow htoken
  apply hstep.keeps_held hw.well (hw.issued c hc) hrow htoken
  · intro hrelease
    rw [hrelease] at hop
    cases hop
  · intro c' _ hresult
    rw [hop] at hresult
    rw [← Option.some.inj hresult]
    exact hne.symm

/-- Statements that are no acknowledgement leave every batch held. -/
theorem WellHeld.of_statement (hw : WellHeld consumer w)
    (hstep : OutboxStep consumer w.store op w'.store) (hbeside : op.besideAcknowledgement w.failing)
    (hposting : w'.posting = w.posting ++ op.newClaims consumer w.store)
    (hfailing : w'.failing = w.failing)
    (hlease : LeaseKept w (.statement op)) : WellHeld consumer w' := by
  refine ⟨wellClaimed_step hw.well hstep, ?_, ?_, ?_, ?_⟩
  · intro c hc
    rw [hposting] at hc
    rw [hstep.claims_eq]
    exact mem_append.mpr ((mem_append.mp hc).imp_left (hw.issued c))
  · intro c hc
    rw [hposting] at hc
    rcases mem_append.mp hc with hold | hnew
    · exact hw.apart c hold
    · exact (hstep.new_claim_held hnew).1
  · intro c hc
    rw [hfailing] at hc
    obtain ⟨hissued, hnot⟩ := hw.failing c hc
    refine ⟨hstep.mem_claims hissued, ?_⟩
    intro hposted
    rw [hposting] at hposted
    rcases mem_append.mp hposted with hold | hnew
    · exact hnot hold
    · obtain ⟨_, _, token, _, rfl, hunused⟩ := hstep.new_claim hnew
      exact hunused _ hissued rfl
  · intro c hc target htarget
    rw [hposting] at hc
    rcases mem_append.mp hc with hold | hnew
    · obtain ⟨row, hrow, hheld⟩ := hw.held c hold target htarget
      refine ⟨row, ?_, hheld⟩
      apply hstep.keeps_held hw.well (hw.issued c hold) hrow hheld.token
      · intro hrelease
        subst hrelease
        exact hlease rfl c hold row hrow hheld.token
      · intro c' _ hresult heq
        subst heq
        -- a result outside an acknowledgement is one of a call that failed
        cases op with
        | markFailed claim' target' failure =>
          cases hresult
          exact (hw.failing _ hbeside).2 hold
        | markDelivered claim' responseStatus => exact hbeside
        | _ => cases hresult
    · exact (hstep.new_claim_held hnew).2 target htarget

theorem wellHeld_step {e : WorkerEvent} (hw : WellHeld consumer w)
    (hstep : WorkerStep consumer w e w') (hlease : LeaseKept w e) : WellHeld consumer w' := by
  cases e with
  | statement op =>
    obtain ⟨hop, hbeside, hposting, hfailing⟩ := hstep
    exact hw.of_statement hop hbeside hposting hfailing hlease
  | rejected claim =>
    obtain ⟨hposted, rfl⟩ := hstep
    refine hw.withdraw hw.well (fun _ h => h) (fun _ _ _ _ h _ => h) rfl ?_
    intro c hc
    exact (mem_cons.mp hc).imp_left fun h => ⟨h, hw.issued claim hposted⟩
  | died claim =>
    obtain rfl := hstep
    exact hw.withdraw hw.well (fun _ h => h) (fun _ _ _ _ h _ => h) rfl fun c hc => .inr hc
  | acknowledged claim responseStatus =>
    obtain ⟨hposted, _, _, hop, hposting, hfailing⟩ := hstep
    refine hw.of_result hop rfl (hw.issued claim hposted) hposting ?_
    intro c hc
    rw [hfailing] at hc
    exact .inr hc
  | interrupted claim responseStatus =>
    obtain ⟨hposted, _, _, hop, hposting, hfailing⟩ := hstep
    refine hw.of_result hop rfl (hw.issued claim hposted) hposting ?_
    intro c hc
    rw [hfailing] at hc
    exact mem_cons.mp hc

/-! ## The report -/

/-- The rows that `markBatchDelivered` updates. -/
def DeliveryRow.marked (collate : String → String) (consumer : Consumer) (claim : Claim)
    (row : DeliveryRow) : Bool :=
  row.carries collate consumer claim.claimToken &&
    claim.rows.any fun other => collate other.eventId == collate row.eventId

theorem DeliveryRow.HeldFor.marked {target : ClaimedRow}
    (h : row.HeldFor collate consumer claim target) (htarget : target ∈ claim.rows) :
    row.marked collate consumer claim = true := by
  simp only [DeliveryRow.marked, DeliveryRow.carries, Bool.and_eq_true, beq_iff_eq,
    any_eq_true]
  refine ⟨⟨h.ofConsumer, ?_⟩, target, htarget, h.event.symm⟩
  rw [h.token]
  rfl

theorem movedCount_markDelivered (hs : WellClaimed s) (hclaim : claim ∈ s.claims)
    (responseStatus : Nat) :
    movedCount s (markBatchDelivered consumer claim responseStatus s) =
      s.deliveries.rows.countP fun row => row.marked collate consumer claim := by
  have hrows : (markBatchDelivered consumer claim responseStatus s).deliveries.rows =
      s.deliveries.rows.map fun row =>
        if row.marked collate consumer claim then row.deliver responseStatus s.now
        else row := rfl
  have hzip := zip_map' (f := id) (g := fun row : DeliveryRow =>
    if row.marked collate consumer claim then row.deliver responseStatus s.now else row)
    (l := s.deliveries.rows)
  rw [map_id] at hzip
  unfold movedCount
  rw [hrows, hzip, countP_map]
  apply countP_congr
  intro row hrow
  by_cases hmarked : row.marked collate consumer claim = true
  · have hcarries : row.carries collate consumer claim.claimToken = true := by
      simp only [DeliveryRow.marked, Bool.and_eq_true] at hmarked
      exact hmarked.1
    have htoken := hs.token_eq hclaim hrow hcarries
    have hclaimed : row.status = .claimed := (hs.token_iff row hrow).mp (by simp [htoken])
    simp [hmarked, hclaimed, DeliveryRow.deliver]
  · simp [hmarked]

/-- As many rows are marked as the batch has, where the whole batch is held. -/
theorem countP_marked
    (hapart : claim.rows.Pairwise fun a b => collate a.eventId ≠ collate b.eventId)
    (hheld : ∀ target ∈ claim.rows,
      ∃ row ∈ s.deliveries.rows, row.HeldFor collate consumer claim target) :
    s.deliveries.rows.countP (fun row => row.marked collate consumer claim) =
      claim.rows.length := by
  have hmarkedApart : (s.deliveries.rows.filter fun row =>
      row.marked collate consumer claim).Pairwise (DeliveryRow.Apart collate) := by
    refine (s.deliveries.unique.filter _).imp_of_mem ?_
    intro a b ha hb hfree heq
    have hsa := (mem_filter.mp ha).2
    have hsb := (mem_filter.mp hb).2
    simp only [DeliveryRow.marked, DeliveryRow.carries, Bool.and_eq_true, beq_iff_eq]
      at hsa hsb
    refine hfree ⟨_, mem_cons_self, Option.some_ne_none _, ?_⟩
    rw [heq, hsa.1.1, hsb.1.1]
  have hperm : ((s.deliveries.rows.filter fun row =>
        row.marked collate consumer claim).map fun row => collate row.eventId).Perm
      (claim.rows.map fun target => collate target.eventId) := by
    rw [perm_ext_iff_of_nodup (pairwise_map.mpr hmarkedApart)
      (pairwise_map.mpr hapart)]
    intro event
    rw [mem_map, mem_map]
    constructor
    · rintro ⟨row, hrow, rfl⟩
      have hmarked := (mem_filter.mp hrow).2
      simp only [DeliveryRow.marked, Bool.and_eq_true, any_eq_true, beq_iff_eq]
        at hmarked
      obtain ⟨_, target, htarget, hevent⟩ := hmarked
      exact ⟨target, htarget, hevent⟩
    · rintro ⟨target, htarget, rfl⟩
      obtain ⟨row, hrow, hrowHeld⟩ := hheld target htarget
      exact ⟨row, mem_filter.mpr ⟨hrow, hrowHeld.marked htarget⟩, hrowHeld.event⟩
  rw [countP_eq_length_filter]
  simpa using hperm.length_eq

/-- The report of a call whose batch is held is true. -/
theorem truthful_of_held (hw : WellHeld consumer w) (hposted : claim ∈ w.posting)
    (responseStatus : Nat) :
    Truthful consumer claim responseStatus w.store
      (markBatchDelivered consumer claim responseStatus w.store) := by
  have hheld := hw.held claim hposted
  constructor
  · intro eventId heventId
    obtain ⟨target, htarget, rfl⟩ := mem_map.mp heventId
    obtain ⟨row, hrow, hrowHeld⟩ := hheld target htarget
    refine ⟨row, hrow, hrowHeld.event, hrowHeld.ofConsumer, ?_, ?_⟩
    · have hclaimed : row.status = .claimed :=
        (hw.well.token_iff row hrow).mp (by simp [hrowHeld.token])
      rw [hclaimed]
      exact nofun
    · refine mem_update.mpr ⟨row, hrow, ?_⟩
      exact (if_pos (hrowHeld.marked htarget)).symm
  · rw [movedCount_markDelivered hw.well (hw.issued claim hposted),
      countP_marked (hw.apart claim hposted) hheld]
    rfl

/-- In every interleaving in which no expiry pass finds the claim of a waiting call run
out, what a call reports as delivered is what it moved to delivered. -/
theorem acknowledgements_truthful {w₀ w₁ : OutboxWorkers collate}
    {events : List WorkerEvent} (hwell : WellClaimed w₀.store) (hposting : w₀.posting = [])
    (hfailing : w₀.failing = [])
    (hrun : Run (restrict (WorkerStep consumer) LeaseKept) w₀ events w₁)
    (before after : List WorkerEvent) (claim : Claim) (responseStatus : Nat)
    (hevents : events = before ++ .acknowledged claim responseStatus :: after) :
    ∃ w w' : OutboxWorkers collate,
      Run (restrict (WorkerStep consumer) LeaseKept) w₀ before w ∧
      WorkerStep consumer w (.acknowledged claim responseStatus) w' ∧
      Truthful consumer claim responseStatus w.store w'.store := by
  subst hevents
  obtain ⟨w, hbefore, hrest⟩ := hrun.split
  obtain ⟨w', hstep⟩ : ∃ w', WorkerStep consumer w (.acknowledged claim responseStatus) w' := by
    cases hrest with
    | cons hstep _ => exact ⟨_, hstep.1⟩
  have hstart : WellHeld consumer w₀ := by
    refine ⟨hwell, ?_, ?_, ?_, ?_⟩ <;> simp [hposting, hfailing]
  have hw : WellHeld consumer w :=
    hbefore.invariant (I := WellHeld consumer)
      (fun _ _ _ hw hstep => wellHeld_step hw hstep.1 hstep.2) hstart
  refine ⟨w, w', hbefore, hstep, ?_⟩
  obtain ⟨hposted, _, _, ⟨_, hstore⟩, _⟩ := hstep
  rw [hstore]
  exact truthful_of_held hw hposted responseStatus

end

/-! ## A worker that waits for five minutes -/

/-- The endpoint takes its time, and another worker looks for expired claims. -/
def slowEvents (claimedFor : Nat) : List WorkerEvent :=
  [.statement (.enqueue openRegistry createdEvent),
    .statement (.claimPending openRegistry 10 "first"), .statement (.tick claimedFor),
    .statement .releaseExpired]

/-- The tables after that. -/
def slowStore (claimedFor : Nat) : OutboxStore id :=
  [OutboxOp.enqueue openRegistry createdEvent, .claimPending openRegistry 10 "first",
    .tick claimedFor, .releaseExpired].foldl (OutboxOp.apply twoAttempts) emptyOutbox

def noWorkers : OutboxWorkers id := ⟨emptyOutbox, [], []⟩

def slowWorkers (claimedFor : Nat) : OutboxWorkers id :=
  ⟨slowStore claimedFor, [batch "first" 0], []⟩

def acknowledgedWorkers (claimedFor : Nat) : OutboxWorkers id :=
  ⟨markBatchDelivered twoAttempts (batch "first" 0) 200 (slowStore claimedFor), [], []⟩

/-- The tables before the expiry pass. -/
def waitingWorkers (claimedFor : Nat) : OutboxWorkers id :=
  ⟨[OutboxOp.enqueue openRegistry createdEvent, .claimPending openRegistry 10 "first",
    .tick claimedFor].foldl (OutboxOp.apply twoAttempts) emptyOutbox,
    [batch "first" 0], []⟩

theorem waiting_run (claimedFor : Nat) :
    Run (restrict (WorkerStep twoAttempts) LeaseKept) noWorkers
      [.statement (.enqueue openRegistry createdEvent),
        .statement (.claimPending openRegistry 10 "first"),
        .statement (.tick claimedFor)] (waitingWorkers claimedFor) := by
  refine .cons (t := ⟨_, [], []⟩) ⟨⟨⟨trivial, rfl⟩, trivial, rfl, rfl⟩, nofun⟩ ?_
  refine .cons (t := ⟨_, [batch "first" 0], []⟩)
    ⟨⟨⟨by decide, rfl⟩, trivial, by decide, rfl⟩, nofun⟩ ?_
  exact .single ⟨⟨⟨trivial, rfl⟩, trivial, rfl, rfl⟩, nofun⟩

theorem release_step (claimedFor : Nat) :
    WorkerStep twoAttempts (waitingWorkers claimedFor) (.statement .releaseExpired)
      (slowWorkers claimedFor) :=
  ⟨⟨trivial, rfl⟩, trivial, rfl, rfl⟩

/-- After five minutes the claim has been released: the call reports one delivery and
has moved none. -/
theorem late_acknowledgement_untruthful :
    ∃ w w' : OutboxWorkers id,
      Run (WorkerStep twoAttempts) noWorkers (slowEvents claimDuration) w ∧
      WorkerStep twoAttempts w (.acknowledged (batch "first" 0) 200) w' ∧
      (acknowledgement (batch "first" 0) 200).ok = true ∧
      (acknowledgement (batch "first" 0) 200).deliveredCount = 1 ∧
      movedCount w.store w'.store = 0 := by
  refine ⟨slowWorkers claimDuration, acknowledgedWorkers claimDuration,
    (waiting_run claimDuration).of_restrict.append (.single (release_step claimDuration)),
    ⟨?_, by decide, by decide, ⟨?_, rfl⟩, ?_, rfl⟩, rfl, rfl, ?_⟩
  · exact mem_singleton_self _
  · decide
  · decide
  · decide

/-- A call that is answered at once reports what it did. -/
theorem acknowledgements_truthful_at_once :
    ∃ w w' : OutboxWorkers id,
      WorkerStep twoAttempts w (.acknowledged (batch "first" 0) 200) w' ∧
      (acknowledgement (batch "first" 0) 200).deliveredCount = 1 ∧
      Truthful twoAttempts (batch "first" 0) 200 w.store w'.store := by
  have hkept : LeaseKept (waitingWorkers 0) (.statement .releaseExpired) := by
    intro _
    decide
  have hlast : WorkerStep twoAttempts (slowWorkers 0) (.acknowledged (batch "first" 0) 200)
      (acknowledgedWorkers 0) := by
    refine ⟨mem_singleton_self _, by decide, by decide, ⟨?_, rfl⟩, ?_, rfl⟩
    · decide
    · decide
  have hrun := ((waiting_run 0).append (.single ⟨release_step 0, hkept⟩)).append
    (.single ⟨hlast, nofun⟩)
  obtain ⟨w, w', _, hstep, htrue⟩ := acknowledgements_truthful
    (wellClaimed_initial ⟨rfl, rfl⟩) rfl rfl hrun (slowEvents 0) [] (batch "first" 0) 200 rfl
  exact ⟨w, w', hstep, rfl, htrue⟩

end GrowthOs.Outbox
