import GrowthOs.Containers.Override
import GrowthOs.Support.Transition

/-!
# The quorum of an override

Consumption looks only at the status column.  What makes that sound is an
invariant of the tables: the status is `ready` only while enough distinct
principals have approved the override and none has rejected it, because every
decision recomputes it from the decisions on record and nothing else sets it.
-/

namespace GrowthOs.Containers

open Js Throwing Transition List Table

variable {collate : String → String}

/-! ## What a call does -/

/-- The principals whose approval of the override counts. -/
def approversOf (s : OverrideStore collate) (overrideId : String) : List Principal :=
  ((approvalsOf s overrideId).filter fun row => row.decision == .approved).map
    fun row => row.approver

/-- The columns written by a decision. -/
def decided (s : OverrideStore collate) (override : OverrideRow)
    (overrideId : String) (row : OverrideRow) : OverrideRow :=
  { row with
    approvalCount := countDecisions s overrideId .approved
    status := statusAfterDecision (countDecisions s overrideId .approved)
      (countDecisions s overrideId .rejected) override.requiredApprovalCount }

def consumedAt (now : Nat) (row : OverrideRow) : OverrideRow :=
  { row with status := .consumed, consumedAt := some now }

def markStale (row : OverrideRow) : OverrideRow :=
  { row with status := .stale }

/-- `override_id=?`. -/
def isOverride (collate : String → String) (overrideId : String) (row : OverrideRow) : Bool :=
  collate row.overrideId == collate overrideId

/-- What a call does to requests and decisions, and which override it
consumes. -/
inductive Change (policies : List OverridePolicyRow)
    (s s' : OverrideStore collate) : Option String → Prop
  | idle (hrows : s'.overrides = s.overrides)
      (happrovals : s'.approvals = s.approvals) : Change policies s s' none
  | request (row : OverrideRow) (hstatus : row.status = .readyRequiresApproval)
      (hnew : ∀ other ∈ s.overrides.rows, collate other.overrideId ≠ collate row.overrideId)
      (hrows : s'.overrides.rows = s.overrides.rows ++ [row])
      (happrovals : s'.approvals = s.approvals) : Change policies s s' none
  | decide (override : OverrideRow) (approval : ApprovalRow) (hmem : override ∈ s.overrides.rows)
      (hid : collate override.overrideId = collate approval.overrideId)
      (hopen : override.status ≠ .consumed)
      (hself : selfApprovalAllowed collate policies override.riskClass = false →
        approval.approver ≠ override.requester)
      (happrovals : s'.approvals.rows = s.approvals.rows ++ [approval])
      (hrows : s'.overrides.rows = update (isOverride collate approval.overrideId)
          (decided s' override approval.overrideId) s.overrides.rows) :
      Change policies s s' none
  | consume (override : OverrideRow) (overrideId : String) (hmem : override ∈ s.overrides.rows)
      (hid : collate override.overrideId = collate overrideId)
      (hready : override.status = .ready)
      (hlive : s.now < override.expiresAt)
      (happrovals : s'.approvals = s.approvals)
      (hrows : s'.overrides.rows = update (isOverride collate overrideId) (consumedAt s.now)
          s.overrides.rows) :
      Change policies s s' (some overrideId)
  | stale (override : OverrideRow) (overrideId : String) (hmem : override ∈ s.overrides.rows)
      (hid : collate override.overrideId = collate overrideId)
      (hready : override.status = .ready)
      (happrovals : s'.approvals = s.approvals)
      (hrows : s'.overrides.rows = update (isOverride collate overrideId) markStale
          s.overrides.rows) :
      Change policies s s' none

variable {policies : List OverridePolicyRow} {rt : Runtime} {s s' : OverrideStore collate}
  {overrideId approvalId : String} {row override : OverrideRow}

theorem mem_of_readContainerOverrideForUpdate
    (h : readContainerOverrideForUpdate s overrideId = some row) :
    row ∈ s.overrides.rows ∧ collate row.overrideId = collate overrideId := by
  have hfound := List.find?_some h
  exact ⟨mem_of_find?_eq_some h, beq_iff_eq.mp hfound⟩

theorem change_createRecord {spec : OverrideSpec}
    (h : createContainerOverrideRequestRecord spec s = .ok s') : Change policies s s' none := by
  simp only [createContainerOverrideRequestRecord, bind_eq_ok] at h
  obtain ⟨overrides, hinsert, h⟩ := h
  cases h
  obtain ⟨hrows, hfree⟩ := UniqueTable.insert_eq_some (requireRow_eq_ok.mp hinsert)
  refine .request _ rfl ?_ hrows rfl
  intro other hother hsame
  refine hfree other hother ⟨_, mem_cons_self, by simp, ?_⟩
  simp only [hsame]

theorem change_request {ctx : RequestContext} {input key requester : Val} {drawnId : String}
    (h : requestContainerOverride rt ctx input key requester drawnId s = .ok s') :
    Change policies s s' none := by
  simp only [requestContainerOverride, bind_eq_ok] at h
  obtain ⟨-, -, -, -, principal, -, _, -, _, -, original, -, envelope, -,
    request, -, dimensionPolicy, -, reason, -, -, -, policy, -, _, -, h⟩ := h
  cases hreplay : ctx.replay with
  | none =>
    rw [hreplay] at h
    exact change_createRecord h
  | some stored =>
    rw [hreplay] at h
    simp only [bind_eq_ok] at h
    obtain ⟨-, -, h⟩ := h
    cases h
    exact .idle rfl rfl

theorem change_addApproval {decisionNote : String} {approver : Principal}
    {decision : OverrideDecision}
    (h : addContainerOverrideApproval rt policies overrideId approver decision
      decisionNote approvalId s = .ok s') : Change policies s s' none := by
  simp only [addContainerOverrideApproval, bind_eq_ok, rejectIf_eq_ok] at h
  obtain ⟨override, hread, -, hconsumed, -, -, -, -, -, hself, approvals, hinsert, h⟩ := h
  cases h
  obtain ⟨hmem, hid⟩ :=
    mem_of_readContainerOverrideForUpdate (requireRow_eq_ok.mp hread)
  have happrovals := (UniqueTable.insert_eq_some (requireRow_eq_ok.mp hinsert)).1
  refine .decide override _ hmem hid hconsumed ?_ happrovals rfl
  intro hforbidden hsame
  exact hself ⟨hsame.symm, hforbidden⟩

theorem change_approve {input approver : Val}
    (h : approveContainerOverride rt policies overrideId input approver approvalId s = .ok s') :
    Change policies s s' none := by
  simp only [approveContainerOverride, bind_eq_ok] at h
  obtain ⟨-, -, principal, -, _, -, _, -, decision, -, -, -, h⟩ := h
  exact change_addApproval h

variable {ctx : ConsumeContext} {args : Val} {consumptionId : String} {e : OverrideEvent}

theorem checkConsumable_ok (h : checkConsumable ctx args overrideId s = .ok override) :
    override ∈ s.overrides.rows ∧ collate override.overrideId = collate overrideId ∧
      override.status = .ready ∧ s.now < override.expiresAt := by
  simp only [checkConsumable, bind_eq_ok, rejectIf_eq_ok] at h
  obtain ⟨-, -, found, hread, envelope, -, -, -, -, -, -, -, -, hready, -, hlive, h⟩ := h
  cases h
  obtain ⟨hmem, hid⟩ :=
    mem_of_readContainerOverrideForUpdate (requireRow_eq_ok.mp hread)
  exact ⟨hmem, hid, not_not.mp hready, Nat.lt_of_not_le hlive⟩

theorem inTransaction_ok {α : Type} {x : Except Val α} {a : α} (h : inTransaction s x = .ok a) :
    x = .ok a := by
  cases x with
  | error e => cases h
  | ok b =>
    cases h
    rfl

theorem change_consume
    (h : consumeContainerOverride rt ctx args overrideId consumptionId s = .ok s') :
    Change policies s s' (some overrideId) := by
  simp only [consumeContainerOverride, bind_eq_ok] at h
  obtain ⟨override, hcheck, -, -, -, -, -, -, -, -, _, -, consumptions, -, h⟩ := h
  cases h
  obtain ⟨hmem, hid, hready, hlive⟩ :=
    checkConsumable_ok (inTransaction_ok hcheck)
  exact .consume override overrideId hmem hid hready hlive rfl rfl

theorem inTransaction_error {α : Type} {x : Except Val α} {e : Val}
    (h : inTransaction s x = .error (e, s')) : s' = s := by
  cases x with
  | error e =>
    cases h
    rfl
  | ok a => cases h

/-- A consumption that throws has written nothing but a stale mark. -/
theorem change_consume_error {e : Val}
    (h : consumeContainerOverride rt ctx args overrideId consumptionId s = .error (e, s')) :
    Change policies s s' none := by
  have hkept : s' = s → Change policies s s' none := by
    rintro rfl
    exact .idle rfl rfl
  simp only [consumeContainerOverride, bind_eq_error, rejectIf_eq_error, Prod.mk.injEq] at h
  obtain h | ⟨override, hcheck, h⟩ := h
  · exact hkept (inTransaction_error h)
  obtain h | ⟨matched, -, h⟩ := h
  · exact hkept (inTransaction_error h)
  obtain ⟨-, -, rfl⟩ | ⟨-, -, h⟩ := h
  · exact hkept rfl
  obtain h | ⟨current, -, h⟩ := h
  · exact hkept (inTransaction_error h)
  obtain ⟨-, -, rfl⟩ | ⟨-, -, h⟩ := h
  · obtain ⟨hmem, hid, hready, -⟩ := checkConsumable_ok (inTransaction_ok hcheck)
    exact .stale override overrideId hmem hid hready rfl rfl
  obtain h | ⟨_, -, h⟩ := h
  · exact hkept (inTransaction_error h)
  obtain h | ⟨consumptions, -, h⟩ := h
  · exact hkept (inTransaction_error h)
  · cases h

theorem OverrideStep.change (h : OverrideStep rt policies s e s') :
    Change policies s s' e.consumed := by
  obtain ⟨op, consumed⟩ := e
  simp only [OverrideStep] at h ⊢
  have hsettled : ∀ {outcome : Except Val (OverrideStore collate)},
      (∀ t, outcome = .ok t → Change policies s t none) →
        Change policies s (settleOverride s outcome) none := by
    intro outcome houtcome
    cases outcome with
    | error e => exact .idle rfl rfl
    | ok t => exact houtcome t rfl
  cases op with
  | request ctx input key requester drawnId =>
    cases h
    exact hsettled fun t ht => change_request ht
  | approve overrideId input approver approvalId =>
    cases h
    exact hsettled fun t ht => change_approve ht
  | consume ctx args overrideId consumptionId keepOnError =>
    simp only [OverrideOp.perform] at h
    cases hconsume : consumeContainerOverride rt ctx args overrideId consumptionId s with
    | ok t =>
      rw [hconsume] at h
      cases h
      exact change_consume hconsume
    | error failure =>
      rw [hconsume] at h
      cases h
      cases keepOnError with
      | true => exact change_consume_error hconsume
      | false => exact .idle rfl rfl
  | tick milliseconds =>
    cases h
    exact .idle rfl rfl

/-! ## The decisions on an override -/

theorem approvalsOf_congr (happrovals : s'.approvals = s.approvals) {id id' : String}
    (hid : collate id = collate id') : approvalsOf s' id = approvalsOf s id' := by
  unfold approvalsOf
  rw [happrovals, hid]

variable {approval : ApprovalRow}

theorem approvalsOf_append_of_ne {id : String}
    (happrovals : s'.approvals.rows = s.approvals.rows ++ [approval])
    (hne : collate approval.overrideId ≠ collate id) : approvalsOf s' id = approvalsOf s id := by
  unfold approvalsOf
  rw [happrovals, filter_append]
  simp [hne]

theorem mem_approvalsOf_append {other : ApprovalRow} {id : String}
    (happrovals : s'.approvals.rows = s.approvals.rows ++ [approval])
    (h : other ∈ approvalsOf s' id) : other ∈ approvalsOf s id ∨ other = approval := by
  unfold approvalsOf at h ⊢
  rw [happrovals, filter_append, mem_append] at h
  obtain hold | hnew := h
  · exact .inl hold
  · exact .inr (mem_singleton.mp (mem_of_mem_filter hnew))

theorem statusAfterDecision_ready {approved rejected required : Nat}
    (h : statusAfterDecision approved rejected required = .ready) :
    required ≤ approved ∧ rejected = 0 := by
  unfold statusAfterDecision at h
  split_ifs at h with hrejected happroved
  exact ⟨happroved, Nat.eq_zero_of_not_pos hrejected⟩

/-- The counted approvers are distinct: the table has one decision per
principal. -/
theorem approversOf_nodup (s : OverrideStore collate) (overrideId : String) :
    (approversOf s overrideId).Nodup := by
  unfold approversOf approvalsOf
  rw [filter_filter, List.Nodup, pairwise_map, pairwise_filter]
  apply s.approvals.unique.imp
  intro a b hclash ha hb hsame
  simp only [Bool.and_eq_true, beq_iff_eq] at ha hb
  apply hclash
  refine ⟨fun row => some [collate row.overrideId, row.approver.type.text,
    collate row.approver.id], ?_, by simp, ?_⟩
  · simp [approvalKeys]
  · simp only [ha.2, hb.2, hsame]

theorem length_approversOf (s : OverrideStore collate) (overrideId : String) :
    (approversOf s overrideId).length = countDecisions s overrideId .approved := by
  unfold approversOf countDecisions
  rw [length_map, countP_eq_length_filter]

/-! ## The invariant -/

/-- What ties the status of an override to the decisions on record. -/
structure QuorumKept (policies : List OverridePolicyRow) (s : OverrideStore collate) : Prop where
  known : ∀ approval ∈ s.approvals.rows, ∃ row ∈ s.overrides.rows,
    collate row.overrideId = collate approval.overrideId
  ready : ∀ row ∈ s.overrides.rows, row.status = .ready →
    row.requiredApprovalCount ≤ countDecisions s row.overrideId .approved ∧
      countDecisions s row.overrideId .rejected = 0
  independent : ∀ row ∈ s.overrides.rows,
    selfApprovalAllowed collate policies row.riskClass = false →
    ∀ approval ∈ approvalsOf s row.overrideId, approval.approver ≠ row.requester

theorem eq_of_overrideId (hrow : row ∈ s.overrides.rows) (hmem : override ∈ s.overrides.rows)
    (hid : collate row.overrideId = collate override.overrideId) : row = override := by
  have hkey : (fun row : OverrideRow => some [collate row.overrideId]) ∈
      overrideKeys collate := mem_cons_self
  apply UniqueTable.eq_of_key hkey hrow hmem _ rfl
  rw [hid]

/-- A statement with `override_id=?` selects one row. -/
theorem eq_of_isOverride {id : String} (hrow : row ∈ s.overrides.rows)
    (hmem : override ∈ s.overrides.rows) (hid : collate override.overrideId = collate id)
    (hsel : isOverride collate id row = true) : row = override :=
  eq_of_overrideId hrow hmem ((beq_iff_eq.mp hsel).trans hid.symm)

variable {f : OverrideRow → OverrideRow} {p : OverrideRow → Bool}

/-- A change of statuses alone that makes no override ready. -/
theorem quorumKept_of_update (hs : QuorumKept policies s) (happrovals : s'.approvals = s.approvals)
    (hspec : ∀ row, (f row).toOverrideSpec = row.toOverrideSpec)
    (hready : ∀ row, (f row).status ≠ .ready)
    (hrows : s'.overrides.rows = update p f s.overrides.rows) : QuorumKept policies s' := by
  have horigin : ∀ row' ∈ s'.overrides.rows, ∃ row ∈ s.overrides.rows,
      row'.toOverrideSpec = row.toOverrideSpec ∧ (row'.status = .ready → row.status = .ready) := by
    intro row' hrow'
    rw [hrows] at hrow'
    obtain ⟨row, hrow, rfl⟩ := mem_update.mp hrow'
    refine ⟨row, hrow, ?_, ?_⟩
    · split <;> simp [hspec]
    · split <;> simp [hready]
  have hcount : ∀ id decision, countDecisions s' id decision = countDecisions s id decision := by
    intro id decision
    unfold countDecisions
    rw [approvalsOf_congr happrovals rfl]
  constructor
  · intro approval happroval
    rw [happrovals] at happroval
    obtain ⟨row, hrow, hid⟩ := hs.known approval happroval
    refine ⟨if p row then f row else row, ?_, ?_⟩
    · rw [hrows]
      exact mem_update.mpr ⟨row, hrow, rfl⟩
    · split <;> simp [hspec, hid]
  · intro row' hrow' hstatus
    obtain ⟨row, hrow, hsame, hwas⟩ := horigin row' hrow'
    rw [hcount, hcount, hsame]
    exact hs.ready row hrow (hwas hstatus)
  · intro row' hrow' hforbidden approval happroval
    obtain ⟨row, hrow, hsame, -⟩ := horigin row' hrow'
    rw [approvalsOf_congr happrovals rfl, hsame] at happroval
    rw [hsame] at hforbidden ⊢
    exact hs.independent row hrow hforbidden approval happroval

theorem quorumKept_of_request (hs : QuorumKept policies s) {new : OverrideRow}
    (hstatus : new.status = .readyRequiresApproval)
    (hnew : ∀ other ∈ s.overrides.rows, collate other.overrideId ≠ collate new.overrideId)
    (hrows : s'.overrides.rows = s.overrides.rows ++ [new])
    (happrovals : s'.approvals = s.approvals) : QuorumKept policies s' := by
  -- nobody has decided on an override that did not exist
  have hnone : ∀ approval, approval ∉ approvalsOf s new.overrideId := by
    intro approval happroval
    obtain ⟨hmem, hid⟩ := mem_filter.mp happroval
    obtain ⟨row, hrow, hknown⟩ := hs.known approval hmem
    exact hnew row hrow (hknown.trans (beq_iff_eq.mp hid))
  have hcases : ∀ row ∈ s'.overrides.rows, row ∈ s.overrides.rows ∨ row = new := by
    intro row hrow
    rw [hrows, mem_append, mem_singleton] at hrow
    exact hrow
  constructor
  · intro approval happroval
    rw [happrovals] at happroval
    obtain ⟨row, hrow, hid⟩ := hs.known approval happroval
    refine ⟨row, ?_, hid⟩
    rw [hrows]
    exact mem_append_left _ hrow
  · intro row hrow hready
    unfold countDecisions
    rw [approvalsOf_congr happrovals rfl]
    obtain hold | rfl := hcases row hrow
    · exact hs.ready row hold hready
    · rw [hstatus] at hready
      cases hready
  · intro row hrow hforbidden approval happroval
    rw [approvalsOf_congr happrovals rfl] at happroval
    obtain hold | rfl := hcases row hrow
    · exact hs.independent row hold hforbidden approval happroval
    · exact absurd happroval (hnone approval)

theorem quorumKept_of_decide (hs : QuorumKept policies s) (hmem : override ∈ s.overrides.rows)
    (hid : collate override.overrideId = collate approval.overrideId)
    (hself : selfApprovalAllowed collate policies override.riskClass = false →
      approval.approver ≠ override.requester)
    (happrovals : s'.approvals.rows = s.approvals.rows ++ [approval])
    (hrows : s'.overrides.rows = update (isOverride collate approval.overrideId)
        (decided s' override approval.overrideId) s.overrides.rows) : QuorumKept policies s' := by
  -- a row of the new table is an untouched one or the override decided on
  have hcases : ∀ row' ∈ s'.overrides.rows,
      (row' ∈ s.overrides.rows ∧ collate approval.overrideId ≠ collate row'.overrideId) ∨
      row' = decided s' override approval.overrideId override := by
    intro row' hrow'
    rw [hrows] at hrow'
    obtain ⟨row, hrow, rfl⟩ := mem_update.mp hrow'
    by_cases hsel : isOverride collate approval.overrideId row = true
    · rw [if_pos hsel, eq_of_isOverride hrow hmem hid hsel]
      exact .inr rfl
    · rw [if_neg hsel]
      exact .inl ⟨hrow, fun heq => hsel (beq_iff_eq.mpr heq.symm)⟩
  constructor
  · intro other hother
    have hknown : ∃ row ∈ s.overrides.rows, collate row.overrideId = collate other.overrideId := by
      rw [happrovals, mem_append, mem_singleton] at hother
      obtain hold | rfl := hother
      · exact hs.known other hold
      · exact ⟨override, hmem, hid⟩
    obtain ⟨row, hrow, hrowId⟩ := hknown
    refine ⟨if isOverride collate approval.overrideId row then
      decided s' override approval.overrideId row else row, ?_, ?_⟩
    · rw [hrows]
      exact mem_update.mpr ⟨row, hrow, rfl⟩
    · split <;> simp [decided, hrowId]
  · intro row' hrow' hready
    obtain ⟨hold, hne⟩ | rfl := hcases row' hrow'
    · unfold countDecisions
      rw [approvalsOf_append_of_ne happrovals hne]
      exact hs.ready row' hold hready
    · have hquorum := statusAfterDecision_ready hready
      unfold countDecisions at hquorum ⊢
      rw [← approvalsOf_congr rfl hid] at hquorum
      exact hquorum
  · intro row' hrow' hforbidden other hother
    obtain ⟨hold, hne⟩ | rfl := hcases row' hrow'
    · rw [approvalsOf_append_of_ne happrovals hne] at hother
      exact hs.independent row' hold hforbidden other hother
    · obtain hprior | rfl := mem_approvalsOf_append happrovals hother
      · exact hs.independent override hmem hforbidden other hprior
      · exact hself hforbidden

variable {consumed : Option String}

theorem quorumKept_step (hs : QuorumKept policies s) (h : Change policies s s' consumed) :
    QuorumKept policies s' := by
  cases h with
  | idle hrows happrovals =>
    apply quorumKept_of_update hs happrovals (p := fun _ => false)
      (f := markStale) (fun _ => rfl) (fun _ => by simp [markStale])
    rw [hrows]
    simp [update]
  | request row hstatus hnew hrows happrovals =>
    exact quorumKept_of_request hs hstatus hnew hrows happrovals
  | decide override approval hmem hid _ hself happrovals hrows =>
    exact quorumKept_of_decide hs hmem hid hself happrovals hrows
  | consume override overrideId _ _ _ _ happrovals hrows =>
    exact quorumKept_of_update hs happrovals (f := consumedAt s.now)
      (fun _ => rfl) (fun _ => by simp [consumedAt]) hrows
  | stale override overrideId _ _ _ happrovals hrows =>
    exact quorumKept_of_update hs happrovals (f := markStale)
      (fun _ => rfl) (fun _ => by simp [markStale]) hrows

/-! ## Single use -/

/-- The override has been consumed. -/
def IsConsumed (overrideId : String) (s : OverrideStore collate) : Prop :=
  ∃ row ∈ s.overrides.rows, collate row.overrideId = collate overrideId ∧ row.status = .consumed

/-- The call consumed the override. -/
def OverrideEvent.consumes (collate : String → String) (overrideId : String)
    (e : OverrideEvent) : Bool :=
  e.consumed.any fun id => collate id == collate overrideId

/-- An update of an override that is not consumed leaves the consumed ones. -/
theorem mem_update_of_consumed {id : String} (hrow : row ∈ s.overrides.rows)
    (hstatus : row.status = .consumed) (hmem : override ∈ s.overrides.rows)
    (hid : collate override.overrideId = collate id) (hopen : override.status ≠ .consumed) :
    row ∈ update (isOverride collate id) f s.overrides.rows := by
  have hsel : ¬isOverride collate id row = true := by
    intro hsel
    rw [eq_of_isOverride hrow hmem hid hsel] at hstatus
    exact hopen hstatus
  exact mem_update.mpr ⟨row, hrow, by rw [if_neg hsel]⟩

/-- Consumption is final. -/
theorem Change.keeps_consumed (h : Change policies s s' consumed) (hrow : row ∈ s.overrides.rows)
    (hstatus : row.status = .consumed) : row ∈ s'.overrides.rows := by
  cases h with
  | idle hrows _ =>
    rw [hrows]
    exact hrow
  | request new _ _ hrows _ =>
    rw [hrows]
    exact mem_append_left _ hrow
  | decide override approval hmem hid hopen _ _ hrows =>
    rw [hrows]
    exact mem_update_of_consumed hrow hstatus hmem hid hopen
  | consume override id hmem hid hready _ _ hrows | stale override id hmem hid hready _ hrows =>
    rw [hrows]
    exact mem_update_of_consumed hrow hstatus hmem hid (by simp [hready])

theorem Change.isConsumed {id : String}
    (h : Change policies s s' (some id)) : IsConsumed id s' := by
  cases h with
  | consume override _ hmem hid _ _ _ hrows =>
    have hsel : isOverride collate id override = true := beq_iff_eq.mpr hid
    refine ⟨consumedAt s.now override, ?_, hid, rfl⟩
    rw [hrows]
    refine mem_update.mpr ⟨override, hmem, ?_⟩
    rw [if_pos hsel]

theorem Change.not_consumed_before {id : String}
    (h : Change policies s s' (some id)) : ¬IsConsumed id s := by
  cases h with
  | consume override _ hmem hid hready _ _ _ =>
    rintro ⟨row, hrow, hrowId, hstatus⟩
    have hsame := eq_of_overrideId hrow hmem (hrowId.trans hid.symm)
    rw [hsame, hready] at hstatus
    cases hstatus

/-- A call that consumes the override is the first to do so. -/
theorem OverrideStep.consumes (hstep : OverrideStep rt policies s e s')
    (h : e.consumes collate overrideId = true) :
    ¬IsConsumed overrideId s ∧ IsConsumed overrideId s' := by
  unfold OverrideEvent.consumes at h
  rw [Option.any_eq_true] at h
  obtain ⟨id, hconsumed, hid⟩ := h
  have hchange := hstep.change
  rw [hconsumed] at hchange
  have hsame : ∀ t : OverrideStore collate, IsConsumed overrideId t ↔ IsConsumed id t := by
    simp [IsConsumed, beq_iff_eq.mp hid]
  rw [hsame, hsame]
  exact ⟨hchange.not_consumed_before, hchange.isConsumed⟩

theorem consumed_at_most_once {es : List OverrideEvent}
    (h : Run (OverrideStep rt policies) s es s') :
    es.countP (OverrideEvent.consumes collate overrideId) ≤ 1 := by
  apply Run.countP_le_one (Q := IsConsumed overrideId) ?_ ?_ ?_ h
  · intro t e t' hstep hconsumes
    exact (hstep.consumes hconsumes).2
  · rintro t e t' ⟨row, hrow, hid, hstatus⟩ hstep
    exact ⟨row, hstep.change.keeps_consumed hrow hstatus, hid, hstatus⟩
  · intro t e t' hspent hstep
    by_contra hconsumes
    rw [Bool.not_eq_false] at hconsumes
    exact (hstep.consumes hconsumes).1 hspent

/-! ## The quorum at the moment of consumption -/

/-- What entitles a call to consume the override of `row`. -/
structure Quorum (policies : List OverridePolicyRow) (s : OverrideStore collate)
    (row : OverrideRow) : Prop where
  distinct : (approversOf s row.overrideId).Nodup
  enough : row.requiredApprovalCount ≤ (approversOf s row.overrideId).length
  unanimous : ∀ approval ∈ approvalsOf s row.overrideId, approval.decision ≠ .rejected
  unexpired : s.now < row.expiresAt
  independent : selfApprovalAllowed collate policies row.riskClass = false →
    row.requester ∉ approversOf s row.overrideId

theorem quorum_of_ready (hs : QuorumKept policies s) (hrow : row ∈ s.overrides.rows)
    (hready : row.status = .ready) (hlive : s.now < row.expiresAt) : Quorum policies s row := by
  obtain ⟨henough, hnone⟩ := hs.ready row hrow hready
  constructor
  · exact approversOf_nodup s row.overrideId
  · rw [length_approversOf]
    exact henough
  · intro approval happroval hrejected
    unfold countDecisions at hnone
    rw [countP_eq_zero] at hnone
    exact hnone approval happroval (beq_iff_eq.mpr hrejected)
  · exact hlive
  · intro hforbidden hmem
    obtain ⟨approval, happroval, hsame⟩ := mem_map.mp hmem
    exact hs.independent row hrow hforbidden approval (mem_of_mem_filter happroval) hsame

/-- An update that consumes nothing. -/
theorem mem_of_mem_update {rows : List OverrideRow} (hf : ∀ row, (f row).status ≠ .consumed)
    (h : row ∈ update p f rows) (hstatus : row.status = .consumed) : row ∈ rows := by
  obtain ⟨old, hold, rfl⟩ := mem_update.mp h
  by_cases hsel : p old = true
  · rw [if_pos hsel] at hstatus
    exact absurd hstatus (hf old)
  · rw [if_neg hsel]
    exact hold

/-- An override becomes consumed only by a call that consumes it, and then its
quorum is there. -/
theorem quorum_of_consumed (hs : QuorumKept policies s) (h : Change policies s s' consumed)
    {row' : OverrideRow} (hrow' : row' ∈ s'.overrides.rows) (hstatus : row'.status = .consumed) :
    row' ∈ s.overrides.rows ∨ ∃ row ∈ s.overrides.rows, row.toOverrideSpec = row'.toOverrideSpec ∧
        (∃ id, consumed = some id ∧ collate id = collate row'.overrideId) ∧
        Quorum policies s row := by
  cases h with
  | idle hrows _ =>
    rw [hrows] at hrow'
    exact .inl hrow'
  | request new hnew _ hrows _ =>
    rw [hrows, mem_append, mem_singleton] at hrow'
    obtain hold | rfl := hrow'
    · exact .inl hold
    · rw [hnew] at hstatus
      cases hstatus
  | decide override approval hmem hid hopen _ _ hrows =>
    rw [hrows] at hrow'
    refine .inl (mem_of_mem_update (fun row => ?_) hrow' hstatus)
    simp only [decided, statusAfterDecision]
    split_ifs <;> simp
  | consume override id hmem hid hready hlive _ hrows =>
    rw [hrows] at hrow'
    obtain ⟨row, hrow, rfl⟩ := mem_update.mp hrow'
    by_cases hsel : isOverride collate id row = true
    · right
      rw [if_pos hsel, eq_of_isOverride hrow hmem hid hsel]
      exact ⟨override, hmem, rfl, ⟨id, rfl, hid.symm⟩, quorum_of_ready hs hmem hready hlive⟩
    · left
      rw [if_neg hsel]
      exact hrow
  | stale override id hmem hid hready _ hrows =>
    rw [hrows] at hrow'
    exact .inl (mem_of_mem_update (fun row => by simp [markStale]) hrow' hstatus)

/-- No override has been requested. -/
def NoOverrides (s : OverrideStore collate) : Prop :=
  s.overrides.rows = [] ∧ s.approvals.rows = []

theorem quorumKept_initial (h : NoOverrides s) : QuorumKept policies s := by
  constructor
  · simp [h.2]
  · simp [h.1]
  · simp [h.1]

/-- In every interleaving of requests, decisions and consumptions, an override
is consumed at most once, and whenever an override becomes consumed, enough
distinct principals have approved it, none has rejected it, it has not run
out, and unless its risk class allows self-approval its requester is not among
the approvers that count. -/
theorem override_quorum_and_single_use {rt : Runtime}
    {policies : List OverridePolicyRow} {s₀ s : OverrideStore collate}
    {es : List OverrideEvent} (hinit : NoOverrides s₀)
    (hrun : Run (OverrideStep rt policies) s₀ es s) :
    (∀ overrideId, es.countP (OverrideEvent.consumes collate overrideId) ≤ 1) ∧
    (∀ e s', OverrideStep rt policies s e s' → ∀ row' ∈ s'.overrides.rows, row'.status = .consumed →
        row' ∈ s.overrides.rows ∨
          ∃ row ∈ s.overrides.rows, row.toOverrideSpec = row'.toOverrideSpec ∧
            e.consumes collate row'.overrideId = true ∧
            Quorum policies s row) := by
  have hkept : QuorumKept policies s :=
    hrun.invariant (I := QuorumKept policies)
      (fun _ _ _ hs hstep => quorumKept_step hs hstep.change)
      (quorumKept_initial hinit)
  refine ⟨fun overrideId => consumed_at_most_once hrun, ?_⟩
  intro e s' hstep row' hrow' hstatus
  obtain hold | ⟨row, hrow, hspec, ⟨id, hconsumed, hid⟩, hquorum⟩ :=
    quorum_of_consumed hkept hstep.change hrow' hstatus
  · exact .inl hold
  · refine .inr ⟨row, hrow, hspec, ?_, hquorum⟩
    simp [OverrideEvent.consumes, hconsumed, hid]

/-! ## An override of a critical operation -/

def overrideRuntime : Runtime where
  sha256 := id
  timeOf := fun _ => none
  isoString := fun _ => ""

/-- Critical operations forbid self-approval. -/
def criticalPolicies : List OverridePolicyRow := [⟨"critical", 0, true⟩]

def deployRequest : DimensionRequest :=
  ⟨"workflows", "workflow", "deploy", "run", none⟩

def deniedResolution : OriginalResolution where
  principalId := "agent"
  tenantId := "tenant"
  targetContainerId := "container"
  decision := "deny"
  authorityEpoch := 3
  resolutionSha256 := "digest"
  registrySnapshotHash := "snapshot"
  containerPathHash := "paths"
  blockingCodes := ["resource_binding_missing"]
  dimensionRequests := [deployRequest]

def readyEnvelope : Envelope where
  tenantId := some "tenant"
  capabilityKey := "capability"
  operationIntent := none
  riskClass := .str "critical"
  authorityStatus := "passed"
  envelopeStatus := "ready_for_dispatch"
  dispatchAllowed := 1
  applyAllowed := 1
  blockingGapCount := 0
  envelopeSha256 := "envelope digest"
  expiresAt := 1000000

def deployScope : List (String × Val) :=
  [("targetContainerId", .str "container"), ("resourceType", .str "workflow"),
    ("resourceRef", .str "deploy")]

def requestOp : OverrideOp :=
  .request
    { original := some deniedResolution
      envelope := some readyEnvelope
      currentEpoch := 3
      dimensionPolicy := some ⟨1, .str "critical"⟩
      replay := none }
    (.obj (deployScope ++ [("originalResolutionId", .str "resolution"),
      ("capabilityEnvelopeId", .str "envelope"),
      ("dimension", .str "workflows"), ("operation", .str "run"),
      ("reason", .str "the release is blocked without it"),
      ("overrideId", .str "override")]))
    (.str "request-key") (.obj [("type", .str "agent"), ("id", .str "agent")]) ""

def approveOverrideOp : OverrideOp :=
  .approve "override" (.obj [("decision", .str "approved"),
      ("decisionNote", .str "checked by operations")])
    (.obj [("type", .str "user"), ("id", .str "operator")]) "approval"

def consumeOp : OverrideOp :=
  .consume ⟨fun _ => some readyEnvelope, fun _ => 3⟩
    (.obj (deployScope ++ [("dimensionKey", .str "workflows"),
      ("operationKey", .str "run"), ("executionRef", .str "execution"),
      ("readbackRef", .str "readback"), ("actionKey", .str "action"),
      ("endpointKey", .str "endpoint"),
      ("resolution", .obj [("resolutionId", .str "resolution"), ("containerPathHash", .str "paths"),
        ("authorityEpoch", .num (.ofNat 3)),
        ("resolutionSha256", .str "digest")])]))
    "override" "consumption" false

def OverrideOp.after (op : OverrideOp) (s : OverrideStore id) : OverrideStore id :=
  (op.perform overrideRuntime criticalPolicies s).1

theorem overrideStep_after (op : OverrideOp) (s : OverrideStore id) :
    OverrideStep overrideRuntime criticalPolicies s
      ⟨op, (op.perform overrideRuntime criticalPolicies s).2⟩ (op.after s) :=
  rfl

def noOverrides : OverrideStore id := ⟨.empty, .empty, .empty, 0⟩

def approvedStore : OverrideStore id :=
  approveOverrideOp.after (requestOp.after noOverrides)

theorem consumed_override_has_quorum :
    ∃ row ∈ approvedStore.overrides.rows,
      row.requiredApprovalCount = 1 ∧ Quorum criticalPolicies approvedStore row := by
  have hrun : Run (OverrideStep overrideRuntime criticalPolicies) noOverrides
      [_, _] approvedStore :=
    .cons (overrideStep_after requestOp noOverrides) (.single (overrideStep_after approveOverrideOp
        (requestOp.after noOverrides)))
  have hready : ∀ row ∈ approvedStore.overrides.rows,
      row.status = .ready ∧ row.requiredApprovalCount = 1 := by decide +kernel
  obtain ⟨row', hrow', hstatus⟩ :
      ∃ row' ∈ (consumeOp.after approvedStore).overrides.rows,
        row'.status = .consumed := by decide +kernel
  have hinit : NoOverrides noOverrides := ⟨rfl, rfl⟩
  obtain hold | ⟨row, hrow, -, -, hquorum⟩ :=
    (override_quorum_and_single_use hinit hrun).2 _ _
      (overrideStep_after consumeOp approvedStore) row' hrow' hstatus
  · have hboth := (hready row' hold).1.symm.trans hstatus
    cases hboth
  · exact ⟨row, hrow, (hready row hrow).2, hquorum⟩

end GrowthOs.Containers
