import GrowthOs.Outbox.Worker
import GrowthOs.Support.Transition

/-!
# The life of a delivery

A delivery is claimed, and each claim ends in a delivery or costs one attempt;
when the last attempt is spent the delivery is a dead letter.  `Progress.Step`
says this for one delivery.  The statements of the workers keep to it, whatever
their interleaving, because a claim token is the right to write a row: as long
as a row carries a token, only the claim it was issued to can have read its
attempt count.
-/

namespace GrowthOs.Outbox

open Table Transition List

/-! ## One delivery and its budget -/

structure Progress where
  status : DeliveryStatus
  attempts : Nat

/-- What can happen to a delivery with a budget of `limit` attempts. -/
inductive Progress.Step (limit : Nat) : Progress → Progress → Prop
  | claim {status : DeliveryStatus} {n : Nat} (h : status = .pending ∨ status = .failed) :
      Step limit ⟨status, n⟩ ⟨.claimed, n⟩
  | deliver {n : Nat} : Step limit ⟨.claimed, n⟩ ⟨.delivered, n⟩
  | retry {n : Nat} (h : n + 1 < limit) : Step limit ⟨.claimed, n⟩ ⟨.failed, n + 1⟩
  | exhaust {n : Nat} (h : limit ≤ n + 1) : Step limit ⟨.claimed, n⟩ ⟨.deadLetter, n + 1⟩

/-- The budget is spent exactly by the dead letters. -/
structure Progress.WithinBudget (limit : Nat) (p : Progress) : Prop where
  attempts_le : p.attempts ≤ limit
  dead_iff : p.status = .deadLetter ↔ p.attempts = limit

/-- A delivery that is delivered or dead. -/
def Progress.Final (p : Progress) : Prop :=
  p.status = .delivered ∨ p.status = .deadLetter

variable {limit : Nat} {p q : Progress}

theorem Progress.Step.withinBudget (h : Step limit p q) (hp : p.WithinBudget limit) :
    q.WithinBudget limit := by
  obtain ⟨hle, hdead⟩ := hp
  cases h with
  | claim hstatus =>
    have hne := mt hdead.mpr (by rcases hstatus with rfl | rfl <;> simp)
    exact ⟨hle, by simpa using hne⟩
  | deliver => exact ⟨hle, by simpa using hdead⟩
  | retry hlt => exact ⟨Nat.le_of_lt hlt, by simpa using Nat.ne_of_lt hlt⟩
  | @exhaust n hge =>
    have hne : n ≠ limit := by simpa using hdead
    have heq : n + 1 = limit := by
      simp only at hle
      omega
    exact ⟨Nat.le_of_eq heq, by simpa using heq⟩

theorem Progress.Step.attempts_le (h : Step limit p q) : p.attempts ≤ q.attempts := by
  cases h <;> simp

theorem Progress.Step.not_final (h : Step limit p q) : ¬p.Final := by
  cases h with
  | claim hstatus => rcases hstatus with rfl | rfl <;> simp [Progress.Final]
  | _ => simp [Progress.Final]

/-- What any number of steps keeps of a delivery. -/
structure Progress.Later (p q : Progress) : Prop where
  attempts_le : p.attempts ≤ q.attempts
  final_eq : p.Final → q.status = p.status

theorem Progress.Later.refl (p : Progress) : Later p p :=
  ⟨Nat.le_refl _, fun _ => rfl⟩

theorem Progress.Later.trans {r : Progress} (h : Later p q) (h' : Later q r) : Later p r := by
  refine ⟨h.attempts_le.trans h'.attempts_le, fun hfinal => ?_⟩
  have hq := h.final_eq hfinal
  have hfinal' : q.Final := by
    unfold Progress.Final
    rw [hq]
    exact hfinal
  rw [h'.final_eq hfinal', hq]

theorem Progress.Step.later (h : Step limit p q) : Later p q :=
  ⟨h.attempts_le, fun hfinal => absurd hfinal h.not_final⟩

def DeliveryRow.progress (row : DeliveryRow) : Progress :=
  ⟨row.status, row.attemptCount⟩

/-! ## Claims and tokens -/

variable {collate : String → String}

/-- What the store knows about the claims it handed out. -/
structure WellClaimed (s : OutboxStore collate) : Prop where
  /-- A row carries a token exactly while it is claimed. -/
  token_iff : ∀ row ∈ s.deliveries.rows, row.claimToken.isSome = true ↔ row.status = .claimed
  /-- A token on a row was issued. -/
  issued : ∀ row ∈ s.deliveries.rows, ∀ token, row.claimToken = some token →
    ∃ claim ∈ s.claims, claim.claimToken = token
  /-- No token was issued twice. -/
  distinct : s.claims.Pairwise fun c c' =>
    collate c.claimToken ≠ collate c'.claimToken
  /-- The count a worker read is still the count of the row, as long as the
  row carries the worker's token. -/
  current : ∀ claim ∈ s.claims, ∀ target ∈ claim.rows,
    ∀ row ∈ s.deliveries.rows, row.claimToken = some claim.claimToken →
      collate row.eventId = collate target.eventId →
      row.attemptCount = target.attemptCount

variable {s : OutboxStore collate}

/-- A token determines its claim. -/
theorem WellClaimed.claim_unique (h : WellClaimed s) {c c' : Claim} (hc : c ∈ s.claims)
    (hc' : c' ∈ s.claims) (htoken : collate c.claimToken = collate c'.claimToken) : c = c' := by
  by_contra hne
  have hsymm : Std.Symm fun c c' : Claim =>
      collate c.claimToken ≠ collate c'.claimToken :=
    ⟨fun _ _ hcc => Ne.symm hcc⟩
  exact h.distinct.forall hc hc' hne htoken

variable {consumer : Consumer} {claim : Claim} {row : DeliveryRow}

/-- A row that carries the token of a claim up to the collation carries that
very token. -/
theorem WellClaimed.token_eq (h : WellClaimed s) (hclaim : claim ∈ s.claims)
    (hrow : row ∈ s.deliveries.rows)
    (hcarries : row.carries collate consumer claim.claimToken = true) :
    row.claimToken = some claim.claimToken := by
  simp only [DeliveryRow.carries, Bool.and_eq_true, beq_iff_eq, Option.map_eq_some_iff] at hcarries
  obtain ⟨-, token, htoken, hcollate⟩ := hcarries
  obtain ⟨owner, howner, rfl⟩ := h.issued row hrow token htoken
  rw [htoken, h.claim_unique howner hclaim hcollate]

/-! ## What a statement does to a row -/

/-- What one statement does to one delivery row. -/
inductive RowChange (consumer : Consumer) (s : OutboxStore collate)
    (op : OutboxOp) (row : DeliveryRow) : DeliveryRow → Prop
  | keep : RowChange consumer s op row row
  | release : op = .releaseExpired → row.claimExpired s.now = true → RowChange consumer s op row
        (row.releaseClaim consumer.attemptLimit s.now)
  | claim (registry : Registry) (limit : Nat) (token : String) :
      op = .claimPending registry limit token →
      row ∈ pendingRows registry consumer limit s →
      RowChange consumer s op row (row.takeClaim token s.now)
  | deliver (claim : Claim) (responseStatus : Nat) : op = .markDelivered claim responseStatus →
      row.claimToken = some claim.claimToken →
      RowChange consumer s op row (row.deliver responseStatus s.now)
  | fail (claim : Claim) (target : ClaimedRow) (failure : Failure) :
      op = .markFailed claim target failure →
      row.claimToken = some claim.claimToken →
      row.attemptCount = target.attemptCount →
      RowChange consumer s op row (row.fail consumer target.attemptCount failure)

variable {op : OutboxOp} {row' : DeliveryRow} {registry : Registry}

theorem RowChange.identity (h : RowChange consumer s op row row') :
    row'.eventId = row.eventId ∧ row'.consumerKey = row.consumerKey := by
  cases h <;> exact ⟨rfl, rfl⟩

theorem mem_pendingRows (h : row ∈ pendingRows registry consumer limit s) :
    row ∈ s.deliveries.rows ∧ row.claimable s.now = true ∧
      collate row.consumerKey = collate consumer.consumerKey := by
  obtain ⟨event, -, hrow⟩ := mem_flatMap.mp (mem_of_mem_take h)
  obtain ⟨hmem, hsel⟩ := mem_filter.mp hrow
  simp only [Bool.and_eq_true, beq_iff_eq] at hsel
  exact ⟨hmem, hsel.2, hsel.1.2⟩

theorem DeliveryRow.status_of_claimable {now : Nat} (h : row.claimable now = true) :
    row.status = .pending ∨ row.status = .failed := by
  simp only [DeliveryRow.claimable, Bool.and_eq_true, Bool.or_eq_true, beq_iff_eq] at h
  exact h.1.1

theorem DeliveryRow.status_of_claimExpired {now : Nat} (h : row.claimExpired now = true) :
    row.status = .claimed := by
  simp only [DeliveryRow.claimExpired, Bool.and_eq_true, beq_iff_eq] at h
  exact h.1

/-- A failed attempt, however it is recorded. -/
theorem progress_spend (hclaimed : row.status = .claimed)
    (hstatus : row'.status = if limit ≤ row.attemptCount + 1 then .deadLetter else .failed)
    (hattempts : row'.attemptCount = row.attemptCount + 1) :
    Progress.Step limit row.progress row'.progress := by
  unfold DeliveryRow.progress
  rw [hclaimed, hstatus, hattempts]
  by_cases hlimit : limit ≤ row.attemptCount + 1
  · rw [if_pos hlimit]
    exact .exhaust hlimit
  · rw [if_neg hlimit]
    exact .retry (Nat.lt_of_not_le hlimit)

/-- Every statement moves every row along the life of a delivery. -/
theorem RowChange.progress (h : RowChange consumer s op row row')
    (htoken : row.claimToken.isSome = true ↔ row.status = .claimed) :
    row' = row ∨ Progress.Step consumer.attemptLimit row.progress row'.progress := by
  cases h with
  | keep => exact .inl rfl
  | release _ hexpired =>
    exact .inr (progress_spend (DeliveryRow.status_of_claimExpired hexpired)
      rfl rfl)
  | claim _ _ _ _ hpending =>
    exact .inr (.claim (DeliveryRow.status_of_claimable (mem_pendingRows hpending).2.1))
  | deliver claim _ _ hcarries =>
    have hclaimed : row.status = .claimed := htoken.mp (by simp [hcarries])
    right
    unfold DeliveryRow.progress
    rw [hclaimed]
    exact .deliver
  | fail claim target failure _ hcarries hcount =>
    have hclaimed : row.status = .claimed := htoken.mp (by simp [hcarries])
    refine .inr (progress_spend hclaimed ?_ ?_)
    · simp [DeliveryRow.fail, hcount]
    · simp [DeliveryRow.fail, hcount]

/-- A delivery as it is inserted. -/
def DeliveryRow.Fresh (row : DeliveryRow) : Prop :=
  row.status = .pending ∧ row.attemptCount = 0 ∧ row.claimToken = none

/-- What one statement does to the deliveries: it changes rows that are there
and adds new ones. -/
structure DeliveriesChange (consumer : Consumer) (s : OutboxStore collate)
    (op : OutboxOp) (s' : OutboxStore collate) : Prop where
  image : ∀ row ∈ s.deliveries.rows, ∃ row' ∈ s'.deliveries.rows, RowChange consumer s op row row'
  origin : ∀ row' ∈ s'.deliveries.rows,
    (∃ row ∈ s.deliveries.rows, RowChange consumer s op row row') ∨ row'.Fresh

variable {s' : OutboxStore collate}

theorem deliveriesChange_of_eq (h : s'.deliveries = s.deliveries) :
    DeliveriesChange consumer s op s' := by
  refine ⟨fun row hrow => ⟨row, ?_, .keep⟩, fun row hrow => .inl ⟨row, ?_, .keep⟩⟩
  · rw [h]
    exact hrow
  · rw [← h]
    exact hrow

theorem deliveriesChange_of_update {p : DeliveryRow → Bool} {f : DeliveryRow → DeliveryRow}
    (hrows : s'.deliveries.rows = Table.update p f s.deliveries.rows)
    (hsel : ∀ row ∈ s.deliveries.rows, p row = true → RowChange consumer s op row (f row)) :
    DeliveriesChange consumer s op s' := by
  have hevolves : Evolves (RowChange consumer s op) s.deliveries.rows
      s'.deliveries.rows := by
    rw [hrows]
    exact evolves_update hsel fun _ _ _ => .keep
  exact ⟨fun row hrow => hevolves.image hrow, fun row' hrow' => .inl (hevolves.origin hrow')⟩

theorem deliveriesChange_of_insert {rows : List DeliveryRow}
    (hrows : s'.deliveries = s.deliveries.insertAllIgnore rows) (hfresh : ∀ row ∈ rows, row.Fresh) :
    DeliveriesChange consumer s op s' := by
  constructor
  · intro row hrow
    refine ⟨row, ?_, .keep⟩
    rw [hrows]
    exact UniqueTable.mem_insertAllIgnore_of_mem hrow
  · intro row' hrow'
    rw [hrows] at hrow'
    obtain hold | hnew := UniqueTable.mem_insertAllIgnore hrow'
    · exact .inl ⟨row', hold, .keep⟩
    · exact .inr (hfresh row' hnew)

/-- Event and consumer determine a delivery. -/
theorem eq_of_event (hmem : row ∈ s.deliveries.rows) (hmem' : row' ∈ s.deliveries.rows)
    (hevent : collate row.eventId = collate row'.eventId)
    (hconsumer : collate row.consumerKey = collate row'.consumerKey) : row = row' := by
  have hkey : (fun row : DeliveryRow =>
      some (collate row.eventId, collate row.consumerKey)) ∈
        deliveryKeys collate := mem_cons_self
  apply UniqueTable.eq_of_key hkey hmem hmem' _ rfl
  rw [hevent, hconsumer]

/-- The rows that `claimPendingRows` updates are the rows it selected. -/
theorem mem_pendingRows_of_updated (hmem : row ∈ s.deliveries.rows)
    (hsel : (collate row.consumerKey == collate consumer.consumerKey &&
      (pendingRows registry consumer limit s).any fun other =>
        collate other.eventId == collate row.eventId) = true) :
    row ∈ pendingRows registry consumer limit s := by
  simp only [Bool.and_eq_true, beq_iff_eq, any_eq_true] at hsel
  obtain ⟨hconsumer, other, hother, hevent⟩ := hsel
  obtain ⟨hotherMem, -, hotherConsumer⟩ := mem_pendingRows hother
  have hsame := eq_of_event hotherMem hmem hevent (hotherConsumer.trans hconsumer.symm)
  rw [← hsame]
  exact hother

/-- Every statement changes the deliveries row by row. -/
theorem OutboxStep.deliveriesChange (h : OutboxStep consumer s op s') (hs : WellClaimed s) :
    DeliveriesChange consumer s op s' := by
  obtain ⟨henabled, rfl⟩ := h
  cases op with
  | enqueue registry event =>
    simp only [OutboxOp.apply, insertEventAndDeliveries]
    cases s.events.insert event with
    | none => exact deliveriesChange_of_eq rfl
    | some events =>
      apply deliveriesChange_of_insert rfl
      intro row hrow
      obtain ⟨key, -, rfl⟩ := mem_map.mp hrow
      exact ⟨rfl, rfl, rfl⟩
  | ensurePending registry limit =>
    apply deliveriesChange_of_insert rfl
    intro row hrow
    obtain ⟨event, -, hrow⟩ := mem_flatMap.mp (mem_of_mem_take hrow)
    obtain ⟨key, -, rfl⟩ := mem_map.mp hrow
    exact ⟨rfl, rfl, rfl⟩
  | releaseExpired =>
    apply deliveriesChange_of_update rfl
    intro row _ hsel
    rw [Bool.and_eq_true] at hsel
    exact .release rfl hsel.2
  | claimPending registry limit token =>
    simp only [OutboxOp.apply, claimPendingRows]
    by_cases hempty : (pendingRows registry consumer limit s).isEmpty = true
    · rw [if_pos hempty]
      exact deliveriesChange_of_eq rfl
    · rw [if_neg hempty]
      apply deliveriesChange_of_update rfl
      intro row hmem hsel
      exact .claim registry limit token rfl (mem_pendingRows_of_updated hmem hsel)
  | markDelivered claim responseStatus =>
    apply deliveriesChange_of_update rfl
    intro row hmem hsel
    rw [Bool.and_eq_true] at hsel
    exact .deliver claim responseStatus rfl (hs.token_eq henabled hmem hsel.1)
  | markFailed claim target failure =>
    apply deliveriesChange_of_update rfl
    intro row hmem hsel
    rw [Bool.and_eq_true, beq_iff_eq] at hsel
    have htoken := hs.token_eq henabled.1 hmem hsel.1
    exact .fail claim target failure rfl htoken
      (hs.current claim henabled.1 target henabled.2 row hmem htoken hsel.2)
  | tick microseconds => exact deliveriesChange_of_eq rfl

/-! ## Tokens along a run -/

/-- The batch a `SELECT` of pending rows is handed out as. -/
def batchOf (token : String) (rows : List DeliveryRow) : Claim :=
  ⟨token, rows.map fun row => ⟨row.eventId, row.attemptCount⟩⟩

/-- The claim a statement hands out. -/
def OutboxOp.newClaims (consumer : Consumer) (s : OutboxStore collate) : OutboxOp → List Claim
  | .claimPending registry limit token =>
    if (pendingRows registry consumer limit s).isEmpty then []
    else [batchOf token (pendingRows registry consumer limit s)]
  | _ => []

theorem OutboxStep.claims_eq (h : OutboxStep consumer s op s') :
    s'.claims = s.claims ++ op.newClaims consumer s := by
  obtain ⟨-, rfl⟩ := h
  cases op with
  | enqueue registry event =>
    simp only [OutboxOp.apply, insertEventAndDeliveries, OutboxOp.newClaims, append_nil]
    cases s.events.insert event <;> rfl
  | claimPending registry limit token =>
    simp only [OutboxOp.apply, claimPendingRows, OutboxOp.newClaims]
    by_cases hempty : (pendingRows registry consumer limit s).isEmpty = true
    · simp [hempty]
    · simp [hempty, batchOf]
  | _ => simp [OutboxOp.apply, OutboxOp.newClaims, ensurePendingDeliveries,
      releaseExpiredClaims, markBatchDelivered, markRowFailed]

/-- What a new claim is: its token is new, and it lists rows of the table. -/
theorem OutboxStep.new_claim (h : OutboxStep consumer s op s')
    (hclaim : claim ∈ op.newClaims consumer s) :
    ∃ registry limit token, op = .claimPending registry limit token ∧
      claim = batchOf token (pendingRows registry consumer limit s) ∧
      ∀ old ∈ s.claims, collate old.claimToken ≠ collate token := by
  cases op with
  | claimPending registry limit token =>
    simp only [OutboxOp.newClaims] at hclaim
    split at hclaim
    · cases hclaim
    · exact ⟨registry, limit, token, rfl, mem_singleton.mp hclaim, h.1⟩
  | _ => cases hclaim

theorem OutboxStep.mem_claims (h : OutboxStep consumer s op s') (hclaim : claim ∈ s.claims) :
    claim ∈ s'.claims := by
  rw [h.claims_eq]
  exact mem_append_left _ hclaim

theorem RowChange.token_iff (h : RowChange consumer s op row row')
    (htoken : row.claimToken.isSome = true ↔ row.status = .claimed) :
    row'.claimToken.isSome = true ↔ row'.status = .claimed := by
  cases h with
  | keep => exact htoken
  | release =>
    simp only [DeliveryRow.releaseClaim]
    split <;> simp
  | claim => simp [DeliveryRow.takeClaim]
  | deliver => simp [DeliveryRow.deliver]
  | fail =>
    simp only [DeliveryRow.fail]
    split <;> simp

variable {token : String} {ops : List OutboxOp}

/-- A token on a row after a statement was there before or is the one just
drawn. -/
theorem RowChange.token_cases (h : RowChange consumer s op row row')
    (htoken : row'.claimToken = some token) :
    row' = row ∨ ∃ registry limit, op = .claimPending registry limit token ∧
      row ∈ pendingRows registry consumer limit s ∧
      row'.eventId = row.eventId ∧ row'.attemptCount = row.attemptCount := by
  cases h with
  | keep => exact .inl rfl
  | claim registry limit drawn hop hpending =>
    have hdrawn : drawn = token := Option.some.inj htoken
    subst hdrawn
    exact .inr ⟨registry, limit, hop, hpending, rfl, rfl⟩
  | _ => cases htoken

section Step

variable (hs : WellClaimed s) (h : OutboxStep consumer s op s')

include hs h

theorem token_iff_step (hrow' : row' ∈ s'.deliveries.rows) :
    row'.claimToken.isSome = true ↔ row'.status = .claimed := by
  obtain ⟨row, hrow, hstep⟩ | hfresh := (h.deliveriesChange hs).origin row' hrow'
  · exact hstep.token_iff (hs.token_iff row hrow)
  · simp [hfresh.1, hfresh.2.2]

/-- The row carried its token before, or has just been claimed. -/
theorem carrier_origin (hrow' : row' ∈ s'.deliveries.rows) (htoken : row'.claimToken = some token) :
    row' ∈ s.deliveries.rows ∨ ∃ registry limit, ∃ row ∈ pendingRows registry consumer limit s,
        op = .claimPending registry limit token ∧
        row'.eventId = row.eventId ∧ row'.attemptCount = row.attemptCount := by
  obtain ⟨row, hrow, hstep⟩ | hfresh := (h.deliveriesChange hs).origin row' hrow'
  · obtain rfl | ⟨registry, limit, hop, hpending, hevent, hcount⟩ :=
      hstep.token_cases htoken
    · exact .inl hrow
    · exact .inr ⟨registry, limit, row, hpending, hop, hevent, hcount⟩
  · rw [hfresh.2.2] at htoken
    cases htoken

theorem issued_step (hrow' : row' ∈ s'.deliveries.rows) (htoken : row'.claimToken = some token) :
    ∃ claim ∈ s'.claims, claim.claimToken = token := by
  obtain hrow | ⟨registry, limit, row, hpending, rfl, -, -⟩ :=
    carrier_origin hs h hrow' htoken
  · obtain ⟨claim, hclaim, heq⟩ := hs.issued row' hrow token htoken
    exact ⟨claim, h.mem_claims hclaim, heq⟩
  · refine ⟨batchOf token (pendingRows registry consumer limit s), ?_, rfl⟩
    have hnonempty : (pendingRows registry consumer limit s).isEmpty = false := by
      rw [isEmpty_eq_false_iff]
      exact ne_nil_of_mem hpending
    rw [h.claims_eq, OutboxOp.newClaims, hnonempty]
    simp

theorem distinct_step :
    s'.claims.Pairwise fun c c' =>
      collate c.claimToken ≠ collate c'.claimToken := by
  rw [h.claims_eq, pairwise_append]
  refine ⟨hs.distinct, ?_, ?_⟩
  · cases op with
    | claimPending registry limit token =>
      simp only [OutboxOp.newClaims]
      split
      · exact List.Pairwise.nil
      · exact pairwise_singleton _ _
    | _ => exact List.Pairwise.nil
  · intro old hold claim hclaim
    obtain ⟨_, _, token, -, rfl, hnew⟩ := h.new_claim hclaim
    exact hnew old hold

theorem current_step
    (hclaim : claim ∈ s'.claims) {target : ClaimedRow} (htarget : target ∈ claim.rows)
    (hrow' : row' ∈ s'.deliveries.rows) (htoken : row'.claimToken = some claim.claimToken)
    (hevent : collate row'.eventId = collate target.eventId) :
    row'.attemptCount = target.attemptCount := by
  rw [h.claims_eq, mem_append] at hclaim
  obtain hrow | ⟨registry, limit, row, hpending, hop, heventRow, hcount⟩ :=
    carrier_origin hs h hrow' htoken
  · obtain hold | hnew := hclaim
    · exact hs.current claim hold target htarget row' hrow htoken hevent
    · -- the row carried the token before it was drawn
      obtain ⟨_, _, token, -, rfl, hunused⟩ := h.new_claim hnew
      obtain ⟨old, hold, heq⟩ := hs.issued row' hrow token htoken
      exact absurd (congrArg collate heq) (hunused old hold)
  · obtain hold | hnew := hclaim
    · -- the token was drawn although a claim had it
      subst hop
      exact absurd rfl (h.1 claim hold)
    · obtain ⟨_, _, token, -, rfl, -⟩ := h.new_claim hnew
      obtain ⟨found, hfound, rfl⟩ := mem_map.mp htarget
      obtain ⟨hmem, -, hconsumer⟩ := mem_pendingRows hpending
      obtain ⟨hmem', -, hconsumer'⟩ := mem_pendingRows hfound
      rw [heventRow] at hevent
      rw [hcount, eq_of_event hmem hmem' hevent (hconsumer.trans hconsumer'.symm)]

theorem wellClaimed_step : WellClaimed s' where
  token_iff _ hrow := token_iff_step hs h hrow
  issued _ hrow _ htoken := issued_step hs h hrow htoken
  distinct := distinct_step hs h
  current _ hclaim _ htarget _ hrow htoken hevent :=
    current_step hs h hclaim htarget hrow htoken hevent

end Step

/-! ## Every run -/

/-- No delivery exists and no claim has been handed out. -/
def Initial (s : OutboxStore collate) : Prop :=
  s.deliveries.rows = [] ∧ s.claims = []

theorem wellClaimed_initial (h : Initial s) : WellClaimed s := by
  obtain ⟨hrows, hclaims⟩ := h
  constructor
  · simp [hrows]
  · simp [hrows]
  · simp [hclaims]
  · simp [hclaims]

/-- What holds of every reachable store: its claims are in order and every
delivery is within its budget. -/
structure Sound (consumer : Consumer) (s : OutboxStore collate) : Prop where
  claims : WellClaimed s
  budget : ∀ row ∈ s.deliveries.rows, row.progress.WithinBudget consumer.attemptLimit

theorem sound_initial (h : Initial s) : Sound consumer s :=
  ⟨wellClaimed_initial h, by simp [h.1]⟩

theorem withinBudget_fresh (h : row.Fresh) : row.progress.WithinBudget consumer.attemptLimit := by
  have hpos := consumer.attemptLimit_pos
  obtain ⟨hstatus, hcount, -⟩ := h
  constructor
  · simp [DeliveryRow.progress, hcount]
  · simp [DeliveryRow.progress, hstatus, hcount]
    omega

theorem sound_step (hs : Sound consumer s) (h : OutboxStep consumer s op s') :
    Sound consumer s' := by
  refine ⟨wellClaimed_step hs.claims h, ?_⟩
  intro row' hrow'
  obtain ⟨row, hrow, hstep⟩ | hfresh :=
    (h.deliveriesChange hs.claims).origin row' hrow'
  · obtain rfl | hprogress := hstep.progress (hs.claims.token_iff row hrow)
    · exact hs.budget _ hrow
    · exact hprogress.withinBudget (hs.budget row hrow)
  · exact withinBudget_fresh hfresh

theorem sound_run (h : Run (OutboxStep consumer) s ops s') (hs : Sound consumer s) :
    Sound consumer s' :=
  h.invariant (fun _ _ _ hs hstep => sound_step hs hstep) hs

/-- A delivery is never lost, and what becomes of it is later in its life. -/
theorem later_run (h : Run (OutboxStep consumer) s ops s') (hs : Sound consumer s)
    (hrow : row ∈ s.deliveries.rows) :
    ∃ row' ∈ s'.deliveries.rows, row'.eventId = row.eventId ∧
      row'.consumerKey = row.consumerKey ∧
      row.progress.Later row'.progress := by
  have hsound := h.strengthen (fun _ _ _ hs hstep => sound_step hs hstep) hs
  refine hsound.invariant (I := fun s' => ∃ row' ∈ s'.deliveries.rows,
    row'.eventId = row.eventId ∧ row'.consumerKey = row.consumerKey ∧
      row.progress.Later row'.progress) ?_ ⟨row, hrow, rfl, rfl, .refl _⟩
  rintro t op t' ⟨mid, hmid, hevent, hconsumer, hlater⟩ ⟨hstep, ht⟩
  obtain ⟨row', hrow', hchange⟩ :=
    (hstep.deliveriesChange ht.claims).image mid hmid
  refine ⟨row', hrow', hchange.identity.1.trans hevent, hchange.identity.2.trans hconsumer, ?_⟩
  obtain rfl | hprogress := hchange.progress (ht.claims.token_iff mid hmid)
  · exact hlater
  · exact hlater.trans hprogress.later

/-- The batch whose result a statement records. -/
def OutboxOp.resultOf : OutboxOp → Option Claim
  | .markDelivered claim _ => some claim
  | .markFailed claim _ _ => some claim
  | _ => none

/-- A statement that changes a row and records the result of a batch finds the
token of the batch on the row; any other finds no token there, or one that has
run out. -/
theorem OutboxStep.changed (h : OutboxStep consumer s op s') (hs : WellClaimed s)
    (hrow : row ∈ s.deliveries.rows) (hchanged : row ∉ s'.deliveries.rows) :
    (∀ claim, op.resultOf = some claim → row.claimToken = some claim.claimToken) ∧
    (op.resultOf = none → row.claimToken = none ∨ row.claimExpired s.now = true) := by
  obtain ⟨row', hrow', hchange⟩ := (h.deliveriesChange hs).image row hrow
  cases hchange with
  | keep => exact absurd hrow' hchanged
  | release hop hexpired => simp [hop, OutboxOp.resultOf, hexpired]
  | claim registry limit token hop hpending =>
    have hstatus :=
      DeliveryRow.status_of_claimable (mem_pendingRows hpending).2.1
    have hnone : row.claimToken = none := by
      rw [← Option.not_isSome_iff_eq_none, hs.token_iff row hrow]
      rcases hstatus with heq | heq <;> simp [heq]
    simp [hop, OutboxOp.resultOf, hnone]
  | deliver claim responseStatus hop htoken | fail claim target failure hop htoken _ =>
    simp [hop, OutboxOp.resultOf, htoken]

/-- In every interleaving of the workers of a consumer, from an empty table:
the attempts of a delivery stay within its budget and a dead letter is a
delivery that has spent it; a delivery is never lost, its attempts never
decrease and a final status is never left; and a worker that records a result
changes a row only while the row carries the token it was issued. -/
theorem deliveries_keep_their_budget {consumer : Consumer}
    {s₀ s s' : OutboxStore collate} {ops ops' : List OutboxOp}
    (hinit : Initial s₀) (hrun : Run (OutboxStep consumer) s₀ ops s)
    (hrun' : Run (OutboxStep consumer) s ops' s') :
    (∀ row ∈ s.deliveries.rows, row.attemptCount ≤ consumer.attemptLimit ∧
      (row.status = .deadLetter ↔ row.attemptCount = consumer.attemptLimit)) ∧
    (∀ row ∈ s.deliveries.rows, ∃ row' ∈ s'.deliveries.rows,
      row'.eventId = row.eventId ∧ row'.consumerKey = row.consumerKey ∧
      row.attemptCount ≤ row'.attemptCount ∧
      (row.status = .delivered ∨ row.status = .deadLetter → row'.status = row.status)) ∧
    (∀ op s'', OutboxStep consumer s op s'' → ∀ row ∈ s.deliveries.rows, row ∉ s''.deliveries.rows →
        (∀ claim, op.resultOf = some claim → row.claimToken = some claim.claimToken) ∧
        (op.resultOf = none → row.claimToken = none ∨ row.claimExpired s.now = true)) := by
  have hsound : Sound consumer s := sound_run hrun (sound_initial hinit)
  refine ⟨?_, ?_, ?_⟩
  · intro row hrow
    have hbudget := hsound.budget row hrow
    exact ⟨hbudget.attempts_le, hbudget.dead_iff⟩
  · intro row hrow
    obtain ⟨row', hrow', hevent, hconsumer, hlater⟩ := later_run hrun' hsound hrow
    exact ⟨row', hrow', hevent, hconsumer, hlater.attempts_le, hlater.final_eq⟩
  · intro op s'' hstep row hrow hchanged
    exact hstep.changed hsound.claims hrow hchanged

/-! ## A late worker -/

def twoAttempts : Consumer := ⟨"consumer", 2, 30⟩

def openRegistry : Registry := ⟨["created"], ["consumer"]⟩

def createdEvent : OutboxEvent := ⟨1, "event", "created", 0, 0, none⟩

def batch (token : String) (attempts : Nat) : Claim :=
  ⟨token, [⟨"event", attempts⟩]⟩

def timeout : Failure := ⟨"timeout", "", none, 0⟩

/-- The claim of a first worker runs out and a second worker claims the row. -/
def reissue : List OutboxOp :=
  [.enqueue openRegistry createdEvent, .claimPending openRegistry 10 "first",
    .tick claimDuration, .releaseExpired,
    .claimPending openRegistry 10 "second"]

def emptyOutbox : OutboxStore id := ⟨.empty, .empty, [], 0⟩

def reissued : OutboxStore id :=
  reissue.foldl (OutboxOp.apply twoAttempts) emptyOutbox

/-- The first worker reports its failure after that. -/
def lateFailure : OutboxOp :=
  .markFailed (batch "first" 0) ⟨"event", 0⟩ timeout

theorem late_failure_without_effect :
    ∃ row ∈ reissued.deliveries.rows,
      row.claimToken = some "second" ∧ row.attemptCount = 1 ∧
      row ∈ (lateFailure.apply twoAttempts reissued).deliveries.rows := by
  have hrun : Run (OutboxStep twoAttempts) emptyOutbox reissue reissued :=
    .cons ⟨by decide, rfl⟩ (.cons ⟨by decide, rfl⟩ (.cons ⟨by decide, rfl⟩
      (.cons ⟨by decide, rfl⟩ (.cons ⟨by decide, rfl⟩ (.nil _)))))
  have hstep : OutboxStep twoAttempts reissued lateFailure
      (lateFailure.apply twoAttempts reissued) := ⟨by decide, rfl⟩
  obtain ⟨row, hrow, htoken, hcount⟩ : ∃ row ∈ reissued.deliveries.rows,
      row.claimToken = some "second" ∧ row.attemptCount = 1 := by decide
  refine ⟨row, hrow, htoken, hcount, ?_⟩
  by_contra hchanged
  have hholder := ((deliveries_keep_their_budget ⟨rfl, rfl⟩ hrun (.nil _)).2.2
    lateFailure _ hstep row hrow hchanged).1 (batch "first" 0) rfl
  rw [htoken] at hholder
  exact absurd hholder (by decide)

end GrowthOs.Outbox
