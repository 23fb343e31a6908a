import GrowthOs.Outbox.DeliveryStates

/-!
# Deliveries for events that have none

`ensurePendingDeliveries` inserts deliveries for the oldest events of a consumer, up
to a limit, and ignores those that are there.  It selects the same events each time,
so an event gets its delivery in the first call or in none: what decides is how many
events that can be delivered are older.
-/

namespace GrowthOs.Outbox

open Table Transition List

variable {collate : String → String}

/-! ## Events and their deliveries -/

variable (registry : Registry)

variable (consumer : Consumer)

/-- The event can be delivered to the consumer now. -/
@[mk_iff] structure Eligible (s : OutboxStore collate) (event : OutboxEvent) : Prop where
  stored : event ∈ s.events.rows
  deliverable : event.deliverable collate registry s.now = true
  enabled : ∃ key ∈ registry.enabledConsumers, collate key = collate consumer.consumerKey

/-- There is a delivery of the event for the consumer. -/
def HasDelivery (s : OutboxStore collate) (event : OutboxEvent) : Prop :=
  ∃ row ∈ s.deliveries.rows, collate row.eventId = collate event.eventId ∧
    collate row.consumerKey = collate consumer.consumerKey

/-- The events that can be delivered and are older. -/
def olderCount (s : OutboxStore collate) (event : OutboxEvent) : Nat :=
  (s.events.rows.filter (OutboxEvent.deliverable collate registry s.now)).countP
    fun other => decide (other.id < event.id)

/-- The primary keys of the tables: events have their own numbers, and a consumer
stands once in its table. -/
structure PrimaryKeys (s : OutboxStore collate) : Prop where
  events : s.events.rows.Pairwise fun a b => a.id ≠ b.id
  consumers : registry.enabledConsumers.Pairwise fun a b => collate a ≠ collate b

/-- A statement of the workers while no event is queued and no time passes; deliveries
are ensured with the same registry and limit. -/
def OutboxOp.backfills (limit : Nat) : OutboxOp → Prop
  | .enqueue _ _ => False
  | .tick _ => False
  | .ensurePending registry' limit' => registry' = registry ∧ limit' = limit
  | _ => True

def OutboxOp.ensures : OutboxOp → Bool
  | .ensurePending _ _ => true
  | _ => false

/-- While some event has no delivery a call adds one, and after finitely many calls,
whatever the workers do between them, every event has one. -/
structure Backfills (limit : Nat) (s : OutboxStore collate) : Prop where
  adds : (∃ event, Eligible registry consumer s event ∧ ¬HasDelivery consumer s event) →
    ∃ event, Eligible registry consumer s event ∧ ¬HasDelivery consumer s event ∧
      HasDelivery consumer (ensurePendingDeliveries registry consumer limit s) event
  completes : ∃ n, ∀ ops s', Run (OutboxStep consumer) s ops s' →
    (∀ op ∈ ops, op.backfills registry limit) → n ≤ ops.countP OutboxOp.ensures →
      ∀ event, Eligible registry consumer s event → HasDelivery consumer s' event

section

variable {registry} {consumer} {limit : Nat} {s s' : OutboxStore collate} {op : OutboxOp}
  {event : OutboxEvent}

/-! ## One call -/

/-- The events one call looks at. -/
def window (collate : String → String) (registry : Registry) (limit : Nat)
    (s : OutboxStore collate) : List OutboxEvent :=
  ((s.events.rows.filter (OutboxEvent.deliverable collate registry s.now)).insertionSort
    fun a b => a.id ≤ b.id).take limit

theorem mem_window (hkeys : PrimaryKeys registry s) :
    event ∈ window collate registry limit s ↔
      (event ∈ s.events.rows ∧ event.deliverable collate registry s.now = true) ∧
        olderCount registry s event < limit := by
  set rows := s.events.rows.filter (OutboxEvent.deliverable collate registry s.now)
    with hrows
  have hperm := perm_insertionSort (fun a b : OutboxEvent => a.id ≤ b.id) rows
  have hdistinct : (rows.insertionSort fun a b => a.id ≤ b.id).Pairwise fun a b => a.id ≠ b.id :=
    hperm.symm.pairwise (hkeys.events.filter _) Ne.symm
  have hsorted : (rows.insertionSort fun a b => a.id ≤ b.id).Pairwise fun a b => a.id < b.id := by
    have hle : (rows.insertionSort fun a b => a.id ≤ b.id).Pairwise fun a b => a.id ≤ b.id := by
      exact pairwise_insertionSort _ rows
    exact hle.imp₂ (fun _ _ h hne => Nat.lt_of_le_of_ne h hne) hdistinct
  unfold window
  rw [← hrows, mem_take_of_sorted hsorted, mem_insertionSort, hperm.countP_eq, hrows,
    mem_filter]
  rfl

theorem enabled_singleton (hkeys : PrimaryKeys registry s) {key : String}
    (hkey : key ∈ registry.enabledConsumers) (hsame : collate key = collate consumer.consumerKey) :
    (registry.enabledConsumers.filter fun other =>
      collate other == collate consumer.consumerKey) = [key] := by
  have hmem : key ∈ registry.enabledConsumers.filter fun other =>
      collate other == collate consumer.consumerKey :=
    mem_filter.mpr ⟨hkey, by simpa using hsame⟩
  have hapart := hkeys.consumers.filter fun other =>
    collate other == collate consumer.consumerKey
  have hsameAll : ∀ other ∈ registry.enabledConsumers.filter fun other =>
      collate other == collate consumer.consumerKey,
      collate other = collate consumer.consumerKey := by
    simp
  generalize (registry.enabledConsumers.filter fun other =>
    collate other == collate consumer.consumerKey) = keys at hmem hapart hsameAll
  match keys with
  | [] => cases hmem
  | [only] => rw [mem_singleton.mp hmem]
  | a :: b :: rest =>
    have hne := (pairwise_cons.mp hapart).1 b mem_cons_self
    have ha := hsameAll a mem_cons_self
    have hb := hsameAll b (mem_cons_of_mem _ mem_cons_self)
    exact absurd (ha.trans hb.symm) hne

/-- What one call inserts. -/
theorem ensurePendingDeliveries_eq (hkeys : PrimaryKeys registry s) {key : String}
    (hkey : key ∈ registry.enabledConsumers) (hsame : collate key = collate consumer.consumerKey) :
    (ensurePendingDeliveries registry consumer limit s).deliveries =
      s.deliveries.insertAllIgnore ((window collate registry limit s).map fun event =>
        newDelivery event.eventId key s.now) := by
  unfold ensurePendingDeliveries window
  rw [enabled_singleton hkeys hkey hsame, map_take]
  simp only [map_cons, map_nil, ← map_eq_flatMap]

theorem event_unique {a b : OutboxEvent} (ha : a ∈ s.events.rows) (hb : b ∈ s.events.rows)
    (h : collate a.eventId = collate b.eventId) : a = b := by
  have hkey : (fun event : OutboxEvent => some (collate event.eventId)) ∈
      eventKeys collate := mem_cons_self
  apply UniqueTable.eq_of_key hkey ha hb _ rfl
  rw [h]

/-- A call gives a delivery to the events it looks at, and to no others. -/
theorem hasDelivery_ensure (hkeys : PrimaryKeys registry s)
    (hevent : Eligible registry consumer s event) :
    HasDelivery consumer (ensurePendingDeliveries registry consumer limit s) event ↔
      HasDelivery consumer s event ∨ event ∈ window collate registry limit s := by
  obtain ⟨key, hkey, hsame⟩ := hevent.enabled
  unfold HasDelivery
  rw [ensurePendingDeliveries_eq hkeys hkey hsame]
  constructor
  · rintro ⟨row, hrow, hid, hconsumer⟩
    rcases UniqueTable.mem_insertAllIgnore hrow with hold | hnew
    · exact .inl ⟨row, hold, hid, hconsumer⟩
    · right
      obtain ⟨other, hother, rfl⟩ := mem_map.mp hnew
      have hstored := ((mem_window hkeys).mp hother).1.1
      rw [← event_unique hstored hevent.stored hid]
      exact hother
  · rintro (⟨row, hrow, hid, hconsumer⟩ | hwindow)
    · exact ⟨row, UniqueTable.mem_insertAllIgnore_of_mem hrow, hid, hconsumer⟩
    · obtain ⟨row, hrow, rfl | hclash⟩ :=
        UniqueTable.insertAllIgnore_covers (t := s.deliveries)
          (mem_map_of_mem (f := fun event => newDelivery event.eventId key s.now) hwindow)
      · exact ⟨_, hrow, rfl, hsame⟩
      · obtain ⟨_, hmem, _, heq⟩ := hclash
        obtain rfl := mem_singleton.mp hmem
        obtain ⟨hid, hconsumer⟩ := Prod.mk.inj (Option.some.inj heq)
        exact ⟨row, hrow, hid, hconsumer.trans hsame⟩

/-! ## Many calls -/

variable {f : DeliveryRow → DeliveryRow} {p : DeliveryRow → Bool}

/-- The statements that ensure nothing keep every delivery and add none. -/
theorem hasDelivery_update
    (hf : ∀ row, (f row).eventId = row.eventId ∧ (f row).consumerKey = row.consumerKey)
    (hrows : s'.deliveries.rows = Table.update p f s.deliveries.rows) :
    HasDelivery consumer s' event ↔ HasDelivery consumer s event := by
  have hsame : ∀ row, (if p row then f row else row).eventId = row.eventId ∧
      (if p row then f row else row).consumerKey = row.consumerKey := by
    intro row
    split
    next => exact hf row
    next => exact ⟨rfl, rfl⟩
  unfold HasDelivery
  rw [hrows]
  constructor
  · rintro ⟨row', hrow', hid, hconsumer⟩
    obtain ⟨row, hrow, rfl⟩ := mem_update.mp hrow'
    rw [(hsame row).1] at hid
    rw [(hsame row).2] at hconsumer
    exact ⟨row, hrow, hid, hconsumer⟩
  · rintro ⟨row, hrow, hid, hconsumer⟩
    refine ⟨_, mem_update.mpr ⟨row, hrow, rfl⟩, ?_, ?_⟩
    · rw [(hsame row).1]
      exact hid
    · rw [(hsame row).2]
      exact hconsumer

/-- What a statement of the workers does to events and deliveries. -/
structure BackfillStep (registry : Registry) (consumer : Consumer) (limit : Nat)
    (s : OutboxStore collate) (op : OutboxOp) (s' : OutboxStore collate) : Prop where
  events : s'.events = s.events
  now : s'.now = s.now
  deliveries : ∀ event, Eligible registry consumer s event →
    (HasDelivery consumer s' event ↔ HasDelivery consumer s event ∨
      op.ensures = true ∧ event ∈ window collate registry limit s)

theorem backfillStep_of_update
    (hf : ∀ row, (f row).eventId = row.eventId ∧ (f row).consumerKey = row.consumerKey)
    (hevents : s'.events = s.events) (hnow : s'.now = s.now)
    (hrows : s'.deliveries.rows = Table.update p f s.deliveries.rows) (hop : op.ensures = false) :
    BackfillStep registry consumer limit s op s' := by
  refine ⟨hevents, hnow, ?_⟩
  intro event _
  rw [hasDelivery_update hf hrows, hop]
  simp

theorem OutboxStep.backfillStep (hkeys : PrimaryKeys registry s)
    (h : OutboxStep consumer s op s') (hop : op.backfills registry limit) :
    BackfillStep registry consumer limit s op s' := by
  obtain ⟨_, rfl⟩ := h
  cases op with
  | enqueue registry' event | tick microseconds => exact hop.elim
  | ensurePending registry' limit' =>
    obtain ⟨rfl, rfl⟩ := hop
    refine ⟨rfl, rfl, ?_⟩
    intro event hevent
    rw [OutboxOp.apply, hasDelivery_ensure hkeys hevent]
    simp [OutboxOp.ensures]
  | releaseExpired =>
    exact backfillStep_of_update (f := DeliveryRow.releaseClaim consumer.attemptLimit s.now)
      (fun _ => ⟨rfl, rfl⟩) rfl rfl rfl rfl
  | claimPending registry' limit' token =>
    simp only [OutboxOp.apply, claimPendingRows]
    by_cases hempty : (pendingRows registry' consumer limit' s).isEmpty = true
    · rw [if_pos hempty]
      refine ⟨rfl, rfl, ?_⟩
      simp [OutboxOp.ensures]
    · rw [if_neg hempty]
      exact backfillStep_of_update (f := DeliveryRow.takeClaim token s.now)
        (fun _ => ⟨rfl, rfl⟩) rfl rfl rfl rfl
  | markDelivered claim responseStatus =>
    exact backfillStep_of_update (f := DeliveryRow.deliver responseStatus s.now)
      (fun _ => ⟨rfl, rfl⟩) rfl rfl rfl rfl
  | markFailed claim target failure =>
    exact backfillStep_of_update (f := DeliveryRow.fail consumer target.attemptCount failure)
      (fun _ => ⟨rfl, rfl⟩) rfl rfl rfl rfl

section

variable (h : BackfillStep registry consumer limit s op s')

include h

theorem BackfillStep.eligible :
    Eligible registry consumer s' event ↔ Eligible registry consumer s event := by
  rw [eligible_iff, eligible_iff, h.events, h.now]

theorem BackfillStep.window_eq :
    window collate registry limit s' = window collate registry limit s := by
  unfold window
  rw [h.events, h.now]

theorem BackfillStep.primaryKeys
    (hkeys : PrimaryKeys registry s) : PrimaryKeys registry s' := by
  refine ⟨?_, hkeys.consumers⟩
  rw [h.events]
  exact hkeys.events

end

/-- Whatever the workers do, an event has a delivery in the end if it had one, or if a
call was made that looked at it. -/
theorem hasDelivery_run {ops : List OutboxOp} (hkeys : PrimaryKeys registry s)
    (hrun : Run (OutboxStep consumer) s ops s') (hops : ∀ op ∈ ops, op.backfills registry limit)
    (hevent : Eligible registry consumer s event) :
    HasDelivery consumer s' event ↔ HasDelivery consumer s event ∨
      0 < ops.countP OutboxOp.ensures ∧ event ∈ window collate registry limit s := by
  induction hrun with
  | nil s => simp
  | cons hstep _ ih =>
    rw [forall_mem_cons] at hops
    have hback := hstep.backfillStep hkeys hops.1
    rw [ih (hback.primaryKeys hkeys) hops.2 (hback.eligible.mpr hevent),
      hback.deliveries event hevent, hback.window_eq, countP_cons]
    constructor
    · rintro ((hhas | ⟨hensures, hwindow⟩) | ⟨hpos, hwindow⟩)
      · exact .inl hhas
      · exact .inr ⟨by simp [hensures], hwindow⟩
      · exact .inr ⟨by omega, hwindow⟩
    · rintro (hhas | ⟨hpos, hwindow⟩)
      · exact .inl (.inl hhas)
      · split at hpos
        next hensures => exact .inl (.inr ⟨hensures, hwindow⟩)
        next => exact .inr ⟨hpos, hwindow⟩

/-- Some number of calls as a run. -/
theorem run_ensure (registry : Registry) (consumer : Consumer) (limit n : Nat)
    (s : OutboxStore collate) :
    ∃ s', Run (OutboxStep consumer) s (List.replicate n (.ensurePending registry limit)) s' := by
  induction n generalizing s with
  | zero => exact ⟨s, .nil s⟩
  | succ n ih =>
    obtain ⟨s', hrun⟩ := ih (ensurePendingDeliveries registry consumer limit s)
    exact ⟨s', .cons ⟨trivial, rfl⟩ hrun⟩

/-- Events are not lost to the backfill exactly when each event that has no delivery
has fewer than `limit` older ones that can be delivered. -/
theorem backfills_iff (hkeys : PrimaryKeys registry s) :
    Backfills registry consumer limit s ↔
      ∀ event, Eligible registry consumer s event → ¬HasDelivery consumer s event →
        olderCount registry s event < limit := by
  have hwindow : ∀ event, Eligible registry consumer s event →
      (event ∈ window collate registry limit s ↔ olderCount registry s event < limit) := by
    intro event hevent
    rw [mem_window hkeys]
    exact and_iff_right ⟨hevent.stored, hevent.deliverable⟩
  constructor
  · intro hbackfills event hevent hnone
    obtain ⟨n, hcompletes⟩ := hbackfills.completes
    obtain ⟨s', hrun⟩ := run_ensure registry consumer limit n s
    have hops : ∀ op ∈ List.replicate n (OutboxOp.ensurePending registry limit),
        op.backfills registry limit := by
      intro op hop
      rw [(mem_replicate.mp hop).2]
      exact ⟨rfl, rfl⟩
    have hcount : n ≤ (List.replicate n (OutboxOp.ensurePending registry limit)).countP
        OutboxOp.ensures := by
      rw [countP_replicate]
      simp [OutboxOp.ensures]
    have hhas := hcompletes _ s' hrun hops hcount event hevent
    rw [hasDelivery_run hkeys hrun hops hevent] at hhas
    exact (hwindow event hevent).mp (hhas.resolve_left hnone).2
  · intro hfew
    constructor
    · rintro ⟨event, hevent, hnone⟩
      refine ⟨event, hevent, hnone, (hasDelivery_ensure hkeys hevent).mpr (.inr ?_)⟩
      exact (hwindow event hevent).mpr (hfew event hevent hnone)
    · refine ⟨1, ?_⟩
      intro ops s' hrun hops hcount event hevent
      rw [hasDelivery_run hkeys hrun hops hevent]
      by_cases hhas : HasDelivery consumer s event
      · exact .inl hhas
      · exact .inr ⟨hcount, (hwindow event hevent).mpr (hfew event hevent hhas)⟩

end

/-! ## Two events and room for one -/

def laterEvent : OutboxEvent := ⟨2, "later", "created", 0, 0, none⟩

/-- Both events are stored, and deliveries have been ensured for one of them. -/
def halfBackfilled : OutboxStore id :=
  ensurePendingDeliveries openRegistry twoAttempts 1
    { emptyOutbox with
      events := UniqueTable.empty.insertAllIgnore [createdEvent, laterEvent] }

theorem halfBackfilled_keys : PrimaryKeys openRegistry halfBackfilled :=
  ⟨by decide, by decide⟩

theorem laterEvent_eligible : Eligible openRegistry twoAttempts halfBackfilled laterEvent := by
  have hstored : laterEvent ∈ [createdEvent, laterEvent] :=
    mem_cons_of_mem _ mem_cons_self
  exact ⟨hstored, by decide, by decide⟩

/-- The older event, which has its delivery, hides the later one from every call. -/
theorem later_event_never_backfilled :
    Eligible openRegistry twoAttempts halfBackfilled laterEvent ∧
      ¬HasDelivery twoAttempts halfBackfilled laterEvent ∧
      (ensurePendingDeliveries openRegistry twoAttempts 1 halfBackfilled).deliveries.rows =
        halfBackfilled.deliveries.rows := by
  refine ⟨laterEvent_eligible, ?_, ?_⟩
  · unfold HasDelivery
    decide
  · decide

/-- With room for two, both events get their deliveries. -/
theorem backfills_iff_two :
    Backfills openRegistry twoAttempts 2 halfBackfilled ∧
      ¬HasDelivery twoAttempts halfBackfilled laterEvent := by
  have hnone : ¬HasDelivery twoAttempts halfBackfilled laterEvent := by
    unfold HasDelivery
    decide
  refine ⟨(backfills_iff halfBackfilled_keys).mpr ?_, hnone⟩
  intro event hevent _
  have hstored : event ∈ [createdEvent, laterEvent] := hevent.stored
  rcases mem_pair.mp hstored with rfl | rfl
  · decide
  · decide

end GrowthOs.Outbox
