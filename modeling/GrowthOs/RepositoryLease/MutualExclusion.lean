import GrowthOs.RepositoryLease.Service
import GrowthOs.Support.Transition

/-!
# At most one holder of a repository

A transaction expires, extends or releases leases that are active, and adds at
most one new lease; a lease that is no longer active is never written again.
With the unique key on active resources this makes the lease a lock: at any
instant one run at most passes the holder check of a resource.
-/

namespace GrowthOs.RepositoryLease

open Js Table Throwing Transition

variable {collate : String → String}

/-! ## What a transaction does to a lease -/

/-- What one statement does to one lease at time `now`. -/
inductive RowStep (now : Nat) (row : LeaseRow) : LeaseRow → Prop
  | keep : RowStep now row row
  | expire : row.stale now = true → RowStep now row row.expire
  | extend (ttl : Nat) : row.live now = true → RowStep now row (row.extend now ttl)
  | release (reason : String) : row.status = .active → RowStep now row (row.release now reason)

variable {now : Nat} {row : LeaseRow}

theorem LeaseRow.status_of_stale (h : row.stale now = true) : row.status = .active := by
  simp only [LeaseRow.stale, Bool.and_eq_true, beq_iff_eq] at h
  exact h.1

theorem LeaseRow.status_of_live (h : row.live now = true) : row.status = .active := by
  simp only [LeaseRow.live, Bool.and_eq_true, beq_iff_eq] at h
  exact h.1

/-- An active lease that is not stale is live. -/
theorem LeaseRow.live_of_not_stale (hactive : row.status = .active)
    (hstale : row.stale now = false) : row.live now = true := by
  simp only [LeaseRow.stale, hactive, beq_self_eq_true, Bool.true_and,
    decide_eq_false_iff_not, Nat.not_le] at hstale
  simp only [LeaseRow.live, hactive, beq_self_eq_true, Bool.true_and, decide_eq_true_eq]
  exact hstale

variable {row' : LeaseRow}

theorem RowStep.eq_of_inactive (h : RowStep now row row') (hstatus : row.status ≠ .active) :
    row' = row := by
  cases h with
  | keep => rfl
  | expire hstale => exact absurd (LeaseRow.status_of_stale hstale) hstatus
  | extend ttl hlive => exact absurd (LeaseRow.status_of_live hlive) hstatus
  | release reason hactive => exact absurd hactive hstatus

/-- The rows change one statement at a time. -/
def RowsChange (now : Nat) : List LeaseRow → List LeaseRow → Prop :=
  Evolves (Relation.ReflTransGen (RowStep now))

theorem RowsChange.refl (now : Nat) (rows : List LeaseRow) : RowsChange now rows rows :=
  Evolves.refl fun _ _ => .refl

theorem RowsChange.trans {rows rows' rows'' : List LeaseRow} (h : RowsChange now rows rows')
    (h' : RowsChange now rows' rows'') : RowsChange now rows rows'' := by
  apply (Evolves.comp h h').mono
  rintro row _ row' ⟨mid, hleft, hright⟩
  exact hleft.trans hright

theorem rowsChange_expireWhere (s : LeaseStore collate) (p : LeaseRow → Bool) :
    RowsChange s.now s.leases.rows (s.expireWhere p).leases.rows := by
  apply evolves_update
  · intro row _ hsel
    rw [Bool.and_eq_true] at hsel
    exact .single (.expire hsel.2)
  · intro row _ _
    exact .refl

variable {s : LeaseStore collate} {leaseId : String} {p : LeaseRow → Bool}

theorem rowsChange_updateActive {f : LeaseRow → LeaseRow}
    {hf : ∀ row, Narrows (leaseKeys collate) row (f row)}
    (hstep : ∀ row ∈ s.leases.rows, collate row.leaseId = collate leaseId →
      row.status = .active → RowStep s.now row (f row)) :
    RowsChange s.now s.leases.rows (s.updateActive leaseId f hf).leases.rows := by
  apply evolves_update
  · intro row hmem hsel
    simp only [Bool.and_eq_true, beq_iff_eq] at hsel
    exact .single (hstep row hmem hsel.1 hsel.2)
  · intro row _ _
    exact .refl

/-- Once the selected stale leases are expired, no selected lease is stale. -/
theorem not_stale_of_mem_expireWhere (hmem : row ∈ (s.expireWhere p).leases.rows)
    (hsel : p row = true) : row.stale s.now = false := by
  obtain ⟨old, _, rfl⟩ := mem_update.mp hmem
  by_cases hold : (p old && old.stale s.now) = true
  · rw [if_pos hold]
    rfl
  · rw [if_neg hold] at hsel ⊢
    rw [hsel, Bool.true_and, Bool.not_eq_true] at hold
    exact hold

/-- What a transaction does to the store: it changes leases that are there and
may add one. -/
structure StoreChange (s s' : LeaseStore collate) : Prop where
  now_eq : s'.now = s.now
  rows : ∃ rows, RowsChange s.now s.leases.rows rows ∧ (s'.leases.rows = rows ∨
      ∃ row, row.status = .active ∧ s'.leases.rows = rows ++ [row])

theorem StoreChange.refl (s : LeaseStore collate) : StoreChange s s :=
  ⟨rfl, _, .refl _ _, .inl rfl⟩

theorem StoreChange.settle {ρ : Type} {outcome : Except Val (ρ × LeaseStore collate)}
    (h : ∀ reply s', outcome = .ok (reply, s') → StoreChange s s') :
    StoreChange s (settle s outcome) := by
  cases outcome with
  | error e => exact .refl s
  | ok result => exact h result.1 result.2 rfl

/-! ## The transactions -/

theorem eq_of_leaseId (hmem : row ∈ s.leases.rows) (hmem' : row' ∈ s.leases.rows)
    (hid : collate row.leaseId = collate row'.leaseId) : row = row' :=
  UniqueTable.eq_of_key (List.mem_cons_self : (fun row => some (collate row.leaseId)) ∈
      leaseKeys collate)
    hmem hmem' (congrArg some hid) rfl

variable {s' : LeaseStore collate} {reply : LeaseReply} {input : LeaseInput}

theorem storeChange_reuseLease {existing : LeaseRow} (hmem : existing ∈ s.leases.rows)
    (hlive : existing.live s.now = true) (h : reuseLease input existing s = .ok (reply, s')) :
    StoreChange s s' := by
  simp only [reuseLease, bind_eq_ok, rejectIf_eq_ok] at h
  obtain ⟨-, -, h⟩ := h
  cases h
  refine ⟨rfl, _, rowsChange_updateActive ?_, .inl rfl⟩
  intro row hrow hid _
  rw [eq_of_leaseId hrow hmem hid]
  exact .extend _ hlive

theorem storeChange_createLease (h : createLease input leaseId s = .ok (reply, s')) :
    StoreChange s s' := by
  unfold createLease at h
  split at h
  next => cases h
  next leases hinsert =>
    simp only [bind_eq_ok] at h
    obtain ⟨-, -, h⟩ := h
    cases h
    have hrows := (UniqueTable.insert_eq_some hinsert).1
    exact ⟨rfl, _, .refl _ _, .inr ⟨_, rfl, hrows⟩⟩

/-- A transaction that first expires stale leases. -/
theorem StoreChange.of_expireWhere (h : StoreChange (s.expireWhere p) s') : StoreChange s s' := by
  obtain ⟨hnow, rows, hchange, hrows⟩ := h
  exact ⟨hnow, rows, (rowsChange_expireWhere s p).trans hchange, hrows⟩

variable {rt : Runtime} {args : Val}

theorem storeChange_acquire
    (h : acquireRepositoryOperationLease rt args leaseId s = .ok (reply, s')) :
    StoreChange s s' := by
  simp only [acquireRepositoryOperationLease, bind_eq_ok] at h
  obtain ⟨input, -, h⟩ := h
  apply StoreChange.of_expireWhere
  split at h
  next existing hactive =>
    have hmem := List.mem_of_find?_eq_some hactive
    have hfound := List.find?_some hactive
    rw [Bool.and_eq_true, beq_iff_eq] at hfound
    have hlive := LeaseRow.live_of_not_stale (beq_iff_eq.mp hfound.2)
      (not_stale_of_mem_expireWhere hmem (beq_iff_eq.mpr hfound.1))
    exact storeChange_reuseLease hmem hlive h
  next => exact storeChange_createLease h

theorem storeChange_renew (h : renewRepositoryOperationLease args s = .ok (reply, s')) :
    StoreChange s s' := by
  simp only [renewRepositoryOperationLease, bind_eq_ok, rejectIf_eq_ok] at h
  obtain ⟨leaseId, -, _, -, ttl, -, _, -, _, -, -, -, h⟩ := h
  cases h
  apply StoreChange.of_expireWhere
  refine ⟨rfl, _, rowsChange_updateActive ?_, .inl rfl⟩
  intro row hrow hid hactive
  have hstale : row.stale s.now = false :=
    not_stale_of_mem_expireWhere hrow (beq_iff_eq.mpr hid)
  exact .extend _ (LeaseRow.live_of_not_stale hactive hstale)

theorem storeChange_release (h : releaseRepositoryOperationLease args s = .ok (reply, s')) :
    StoreChange s s' := by
  simp only [releaseRepositoryOperationLease, bind_eq_ok] at h
  obtain ⟨leaseId, -, _, -, reason, -, _, -, row, -, h⟩ := h
  by_cases hactive : row.status ≠ .active
  · rw [if_pos hactive] at h
    cases h
    exact .refl s
  · rw [if_neg hactive] at h
    simp only [bind_eq_ok] at h
    obtain ⟨-, -, h⟩ := h
    cases h
    refine ⟨rfl, _, rowsChange_updateActive ?_, .inl rfl⟩
    intro row _ _ hrow
    exact .release _ hrow

theorem storeChange_expireStale {rank : LeaseRow → Nat} {count : Nat × Nat}
    (h : expireStaleRepositoryOperationLeases args rank s = .ok (count, s')) :
    StoreChange s s' := by
  simp only [expireStaleRepositoryOperationLeases, bind_eq_ok] at h
  obtain ⟨limit, -, h⟩ := h
  cases h
  exact ⟨rfl, _, rowsChange_expireWhere _ _, .inl rfl⟩

/-- Every step is a transaction of this shape, or time passes. -/
theorem LeaseStep.change {op : LeaseOp} (h : LeaseStep rt s op s') :
    StoreChange s s' ∨ ∃ seconds, s' = { s with now := s.now + seconds } := by
  subst h
  cases op with
  | acquire args leaseId =>
    exact .inl (.settle fun _ _ h => storeChange_acquire h)
  | renew args => exact .inl (.settle fun _ _ h => storeChange_renew h)
  | release args => exact .inl (.settle fun _ _ h => storeChange_release h)
  | expireStale args rank =>
    exact .inl (.settle fun _ _ h => storeChange_expireStale h)
  | tick seconds => exact .inr ⟨seconds, rfl⟩

/-! ## Leases that have ended -/

theorem rowSteps_eq_of_inactive (h : Relation.ReflTransGen (RowStep now) row row')
    (hstatus : row.status ≠ .active) : row' = row := by
  induction h with
  | refl => rfl
  | tail _ hstep ih =>
    subst ih
    exact hstep.eq_of_inactive hstatus

/-- A lease that has ended is never written again. -/
theorem LeaseStep.ended_mem {op : LeaseOp} (h : LeaseStep rt s op s')
    (hstatus : row.status ≠ .active) (hmem : row ∈ s.leases.rows) : row ∈ s'.leases.rows := by
  obtain hchange | ⟨seconds, rfl⟩ := h.change
  · obtain ⟨rows, hrows, hafter⟩ := hchange.rows
    obtain ⟨row', hrow', hsteps⟩ := hrows.image hmem
    rw [rowSteps_eq_of_inactive hsteps hstatus] at hrow'
    obtain hsame | ⟨new, _, hnew⟩ := hafter
    · rw [hsame]
      exact hrow'
    · rw [hnew]
      exact List.mem_append_left _ hrow'
  · exact hmem

theorem ended_mem_of_run {ops : List LeaseOp} (h : Run (LeaseStep rt) s ops s')
    (hstatus : row.status ≠ .active) (hmem : row ∈ s.leases.rows) : row ∈ s'.leases.rows :=
  h.invariant (I := fun s => row ∈ s.leases.rows)
    (fun _ _ _ hrow hstep => hstep.ended_mem hstatus hrow) hmem

/-! ## The holder check -/

theorem textOrNull_injective {a b : String} (h : textOrNull a = textOrNull b) : a = b := by
  unfold textOrNull at h
  split_ifs at h with ha hb
  · rw [ha, hb]
  · cases h
    rfl

theorem assertLeaseOwnership_ok {found : Option LeaseRow} {holderRunId fingerprint : String}
    (h : assertLeaseOwnership found holderRunId fingerprint = .ok row) :
    found = some row ∧ row.holderRunId = holderRunId := by
  cases found with
  | none => cases h
  | some found =>
    simp only [assertLeaseOwnership, bind_eq_ok, rejectIf_eq_ok, not_not] at h
    obtain ⟨-, hholder, -, -, h⟩ := h
    cases h
    exact ⟨rfl, hholder⟩

/-- A run passes the check only with a live lease of its own. -/
theorem holder_verified (h : assertRepositoryOperationLeaseHolder args s = .ok reply) :
    ∃ row ∈ s.leases.rows, row.live s.now = true ∧
      holderRunIdOf args = .ok row.holderRunId ∧
      reply.lease = publicLease (some row) := by
  simp only [assertRepositoryOperationLeaseHolder, bind_eq_ok] at h
  obtain ⟨leaseId, -, holderRunId, hholder, fingerprint, -, -, -, h⟩ := h
  split at h
  next => cases h
  next row hfind =>
    simp only [bind_eq_ok] at h
    obtain ⟨owned, howned, h⟩ := h
    obtain ⟨hsame, hrun⟩ := assertLeaseOwnership_ok howned
    cases hsame
    cases h
    have hfound := List.find?_some hfind
    rw [Bool.and_eq_true] at hfound
    refine ⟨row, List.mem_of_find?_eq_some hfind, hfound.2, ?_, rfl⟩
    rw [hholder, hrun]

theorem mem_leaseKeys_active :
    (fun row => row.activeResourceKey.map collate) ∈ leaseKeys collate := by
  simp [leaseKeys]

theorem activeKey_of_status {resourceKey : String} (hactive : row.status = .active)
    (hkey : row.resourceKey = resourceKey) :
    row.activeResourceKey.map collate = some (collate resourceKey) := by
  simp [LeaseRow.activeResourceKey, hactive, hkey]

theorem eq_of_active (hmem : row ∈ s.leases.rows) (hmem' : row' ∈ s.leases.rows)
    (hactive : row.status = .active) (hactive' : row'.status = .active)
    (hkey : row.resourceKey = row'.resourceKey) : row = row' :=
  UniqueTable.eq_of_key mem_leaseKeys_active hmem hmem'
    (activeKey_of_status hactive hkey) (activeKey_of_status hactive' rfl)

/-- In every run of the lease service, from any table and at any time: a
resource has at most one active lease, the holder check of a resource succeeds
for one run at most, and a lease that was released or expired stays so and is
never verified again. -/
theorem leases_mutually_exclusive {rt : Runtime} {s s' : LeaseStore collate}
    {ops : List LeaseOp} (h : Run (LeaseStep rt) s ops s') :
    (∀ resourceKey, (s'.leases.rows.countP fun row =>
      row.status == .active && row.resourceKey == resourceKey) ≤ 1) ∧
    (∀ args args' reply reply', assertRepositoryOperationLeaseHolder args s' = .ok reply →
      assertRepositoryOperationLeaseHolder args' s' = .ok reply' →
      reply.lease.member "resource_key" = reply'.lease.member "resource_key" →
      holderRunIdOf args = holderRunIdOf args') ∧
    (∀ row ∈ s.leases.rows, row.status ≠ .active →
      (∀ row' ∈ s'.leases.rows, row'.leaseId = row.leaseId → row'.status = row.status) ∧
      ∀ args reply,
        assertRepositoryOperationLeaseHolder args s' = .ok reply →
        reply.lease.member "lease_id" ≠ textOrNull row.leaseId) := by
  refine ⟨?_, ?_, ?_⟩
  · intro resourceKey
    apply UniqueTable.countP_le_one mem_leaseKeys_active
    intro row hrow
    rw [Bool.and_eq_true, beq_iff_eq, beq_iff_eq] at hrow
    exact activeKey_of_status hrow.1 hrow.2
  · intro args args' reply reply' hok hok' hkey
    obtain ⟨row, hmem, hlive, hholder, hlease⟩ := holder_verified hok
    obtain ⟨row', hmem', hlive', hholder', hlease'⟩ := holder_verified hok'
    rw [hlease, hlease'] at hkey
    have hrow : row = row' := eq_of_active hmem hmem'
      (LeaseRow.status_of_live hlive) (LeaseRow.status_of_live hlive')
      (textOrNull_injective hkey)
    rw [hholder, hholder', hrow]
  · intro row hmem hstatus
    have hkept := ended_mem_of_run h hstatus hmem
    have hunique : ∀ row' ∈ s'.leases.rows, row'.leaseId = row.leaseId → row' = row := by
      intro row' hmem' hid
      exact eq_of_leaseId hmem' hkept (congrArg collate hid)
    constructor
    · intro row' hmem' hid
      rw [hunique row' hmem' hid]
    · intro args reply hok hid
      obtain ⟨row', hmem', hlive, -, hlease⟩ := holder_verified hok
      rw [hlease] at hid
      rw [hunique row' hmem' (textOrNull_injective hid)] at hlive
      exact hstatus (LeaseRow.status_of_live hlive)

/-- A platform with one digest. -/
def leaseRuntime : Runtime where
  sha256 := fun _ => String.ofList (List.replicate 64 '0')
  timeOf := fun _ => none
  isoString := fun _ => ""

def leaseArgs (holderRunId : String) : Val :=
  .obj [("repository_owner", .str "owner"), ("repository_name", .str "repo"),
    ("branch_name", .str "work"), ("operation_key", .str "edit"),
    ("holder_run_id", .str holderRunId)]

/-- A second run takes the branch over once the lease of the first has run
out. -/
def takeover : List LeaseOp :=
  [.acquire (leaseArgs "run1") "lease1", .tick 900, .acquire (leaseArgs "run2") "lease2"]

def takenOver : LeaseStore id :=
  takeover.foldl (fun s op => op.apply leaseRuntime s) ⟨.empty, 0⟩

/-- The first run tries to renew what it has lost. -/
def renewLost : LeaseOp :=
  .renew (.obj [("lease_id", .str "lease1"), ("holder_run_id", .str "run1")])

theorem lost_lease_never_verified :
    ∃ row ∈ takenOver.leases.rows,
      row.leaseId = "lease1" ∧ row.status = .expired ∧
      ∀ args reply, assertRepositoryOperationLeaseHolder args
          (renewLost.apply leaseRuntime takenOver) = .ok reply →
        reply.lease.member "lease_id" ≠ .str "lease1" := by
  obtain ⟨row, hmem, hid, hstatus⟩ : ∃ row ∈ takenOver.leases.rows,
      row.leaseId = "lease1" ∧ row.status = .expired := by decide
  refine ⟨row, hmem, hid, hstatus, ?_⟩
  intro args reply hok
  have hrun : Run (LeaseStep leaseRuntime) takenOver [renewLost]
      (renewLost.apply leaseRuntime takenOver) := .single rfl
  have hended : row.status ≠ .active := by
    rw [hstatus]
    decide
  have hlost :=
    ((leases_mutually_exclusive hrun).2.2 row hmem hended).2 args reply hok
  rw [hid] at hlost
  exact hlost

end GrowthOs.RepositoryLease
