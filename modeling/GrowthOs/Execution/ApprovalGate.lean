import GrowthOs.Execution.Plan

/-!
# The approval gate

A step is gated when its type is `approval` or its policy requires an
approval.  The approval bit lives in the same policy document that the caller
supplies, so a caller that sends it opens the gate.  Where no gated step comes
with the bit set, every gated step that is claimed or completed has had an
approval hold of its own decided `approved`.
-/

namespace GrowthOs.Execution

open Js Delegation SequentialPlan Throwing Transition List

/-! ## Reading a policy -/

/-- The policy as `approvalRequired` reads it. -/
def policyOf (row : StepRow) : Val :=
  parseJson row.approvalPolicyJson (.obj [])

def Gated (row : StepRow) : Prop :=
  row.stepType = .approval ∨ isTruthy ((policyOf row).member "required") = .ok true

instance (row : StepRow) : Decidable (Gated row) :=
  inferInstanceAs (Decidable (_ ∨ _))

/-- The policy carries the approval bit. -/
def BitSet (row : StepRow) : Prop :=
  isTruthy ((policyOf row).member "approved") = .ok true

instance (row : StepRow) : Decidable (BitSet row) :=
  inferInstanceAs (Decidable (_ = Except.ok true))

/-- The policy carries a delegation grant. -/
def Granted (row : StepRow) : Prop :=
  ((parseObject row.approvalPolicyJson).member "delegation_grant").truthy = true

instance (row : StepRow) : Decidable (Granted row) :=
  inferInstanceAs (Decidable (_ = true))

variable {row : StepRow}

/-- Without the bit, a gated step is held. -/
theorem bitSet_of_not_required (h : approvalRequired row = .ok false) (hgated : Gated row) :
    BitSet row := by
  simp only [approvalRequired, bind_eq_ok] at h
  obtain ⟨value, hvalue, approved, happroved, h⟩ := h
  cases approved with
  | true =>
    rw [Val.get_ok hvalue] at happroved
    exact happroved
  | false =>
    simp only [Bool.false_eq_true, if_false] at h
    split at h
    next => cases h
    next htype =>
      have hrequired := hgated.resolve_left htype
      rw [policyOf, h] at hrequired
      cases hrequired

variable {actorId decisionBy : Option String} {decision : Option Decision} {d : HoldDecision}
  {plan : PlanRow}

/-- Without a grant, a step is dispatched only if no approval is required. -/
theorem not_required_of_dispatch {rt : Runtime} {clock : Int} {next : StepRow}
    (hgrant : ¬Granted next) (h : admission rt clock plan next actorId = .ok (.dispatch decision)) :
    approvalRequired next = .ok false := by
  have hnone : evaluateSequentialStepDelegationPolicy rt clock plan next actorId =
      .ok none := by
    simp only [Granted, Bool.not_eq_true] at hgrant
    simp [evaluateSequentialStepDelegationPolicy, hgrant]
  simp only [admission, hnone, bind_eq_ok] at h
  obtain ⟨_, hdecision, h⟩ := h
  cases hdecision
  simp only [bind_eq_ok] at h
  obtain ⟨held, hheld, h⟩ := h
  cases held with
  | true => cases h
  | false => exact hheld

/-! ## What a decision leaves of a policy -/

theorem decidedPolicy_member (policy : Val) (d : HoldDecision)
    (decisionBy : Option String) (fingerprint : Val) {key : String}
    (hkey : key ≠ "approved" ∧ key ≠ "approved_by" ∧ key ≠ "expected_step_fingerprint") :
    (parseJson (decidedPolicy policy d decisionBy fingerprint)
      (.obj [])).member key = (parseJson policy (.obj [])).member key := by
  obtain ⟨happroved, hby, hfingerprint⟩ := hkey
  cases policy with
  | obj fields =>
    simp only [decidedPolicy, jsonSet, parseJson, Val.member]
    rw [Val.lookup_setField_of_ne _ _ hfingerprint, Val.lookup_setField_of_ne _ _ hby,
      Val.lookup_setField_of_ne _ _ happroved]
  | _ => rfl

theorem decidedPolicy_grant (policy : Val) (d : HoldDecision)
    (decisionBy : Option String) (fingerprint : Val) :
    (parseObject (decidedPolicy policy d decisionBy fingerprint)).member
      "delegation_grant" = (parseObject policy).member "delegation_grant" := by
  cases policy with
  | obj fields =>
    simp only [decidedPolicy, jsonSet, parseObject, Val.truthy, Bool.not_true,
      Bool.false_eq_true, if_false, Val.member]
    rw [Val.lookup_setField_of_ne _ _ (by decide), Val.lookup_setField_of_ne _ _ (by decide),
      Val.lookup_setField_of_ne _ _ (by decide)]
  | _ => rfl

/-- Only an approval sets the bit. -/
theorem bitSet_decidedRow {fingerprint : Val}
    (h : BitSet (decidedRow d decisionBy fingerprint row)) : d = .approved ∨ BitSet row := by
  unfold BitSet policyOf at h ⊢
  simp only [decidedRow] at h
  cases hpolicy : row.approvalPolicyJson with
  | obj fields =>
    left
    rw [hpolicy] at h
    simp only [decidedPolicy, jsonSet, parseJson, Val.member] at h
    rw [Val.lookup_setField_of_ne _ _ (by decide), Val.lookup_setField_of_ne _ _ (by decide),
      Val.lookup_setField_self] at h
    cases d with
    | approved => rfl
    | rejected | escalated =>
      cases h
  | _ =>
    rw [hpolicy] at h
    exact .inr h

/-- What never changes about a row: whether it is gated or granted. -/
structure SameGate (row row' : StepRow) : Prop where
  spec : row'.toStepSpec = row.toStepSpec
  required : (policyOf row').member "required" = (policyOf row).member "required"
  grant : (parseObject row'.approvalPolicyJson).member "delegation_grant" =
    (parseObject row.approvalPolicyJson).member "delegation_grant"

theorem SameGate.refl (row : StepRow) : SameGate row row :=
  ⟨rfl, rfl, rfl⟩

variable {row' : StepRow} {fresh : Option String} {history : List Event} {planStepId : String}

theorem SameGate.trans {row'' : StepRow} (h : SameGate row row') (h' : SameGate row' row'') :
    SameGate row row'' :=
  ⟨h'.spec.trans h.spec, h'.required.trans h.required, h'.grant.trans h.grant⟩

theorem SameGate.gated_iff (h : SameGate row row') : Gated row' ↔ Gated row := by
  unfold Gated
  rw [h.spec, h.required]

theorem SameGate.granted_iff (h : SameGate row row') : Granted row' ↔ Granted row := by
  unfold Granted
  rw [h.grant]

theorem sameGate_decidedRow (d : HoldDecision) (decisionBy : Option String)
    (fingerprint : Val) (row : StepRow) : SameGate row (decidedRow d decisionBy fingerprint row) :=
  ⟨rfl, decidedPolicy_member _ _ _ _ (by decide), decidedPolicy_grant _ _ _ _⟩

theorem sameGate_rowStep {s : Store} (h : RowStep s fresh row row') : SameGate row row' := by
  cases h with
  | decide => exact sameGate_decidedRow _ _ _ _
  | _ => exact ⟨rfl, rfl, rfl⟩

theorem sameGate_rowChange {s : Store} (h : RowChange s fresh row row') : SameGate row row' := by
  cases h with
  | cancel => exact ⟨rfl, rfl, rfl⟩
  | steps h =>
    exact h.invariant (P := SameGate row)
      (fun _ _ hstep hrow => hrow.trans (sameGate_rowStep hstep)) (.refl row)

/-! ## The approvals of a history -/

/-- The claim stopped at the step and opened a hold for it. -/
def OpensHold (planStepId holdId : String) (e : Event) : Prop :=
  ∃ clock planId actorId claimToken reason next decision,
    e.op = .claim clock planId actorId holdId claimToken ∧
    e.outcome = .claimed (.stop reason .awaitingApproval (some holdId) (some next) decision) ∧
    next.planStepId = planStepId

/-- The hold was decided `approved`. -/
def Approves (holdId : String) (e : Event) : Prop :=
  ∃ decisionBy decisionNote response,
    e.op = .decide holdId "approved" decisionBy decisionNote ∧
    e.outcome = .decided response

/-- A hold that a claim opened for the step was decided `approved`
afterwards. -/
def ApprovedIn (history : List Event) (planStepId : String) : Prop :=
  ∃ holdId before opened between approval after,
    history = before ++ opened :: (between ++ approval :: after) ∧
    OpensHold planStepId holdId opened ∧ Approves holdId approval

theorem ApprovedIn.append (h : ApprovedIn history planStepId) (e : Event) :
    ApprovedIn (history ++ [e]) planStepId := by
  obtain ⟨holdId, before, opened, between, approval, after, rfl, hopen, happrove⟩ := h
  exact ⟨holdId, before, opened, between, approval, after ++ [e], by simp, hopen, happrove⟩

theorem approvedIn_of_mem {holdId : String} {opened approval : Event} (hmem : opened ∈ history)
    (hopen : OpensHold planStepId holdId opened) (happrove : Approves holdId approval) :
    ApprovedIn (history ++ [approval]) planStepId := by
  obtain ⟨before, after, rfl⟩ := append_of_mem hmem
  exact ⟨holdId, before, opened, after, approval, [], by simp, hopen, happrove⟩

/-! ## The invariant -/

/-- An approval stands behind every gated step that is past the gate, and a
claim behind every hold. -/
structure GateKept (planId : String) (history : List Event) (w : World) : Prop where
  granted : ∀ row ∈ stepsOf w.store planId, ¬Granted row
  past : ∀ row ∈ stepsOf w.store planId, Gated row →
    BitSet row ∨ row.status = .claimed ∨ row.status = .completed → ApprovedIn history row.planStepId
  holds : ∀ hold ∈ w.store.holds, ∀ row ∈ stepsOf w.store planId, hold.names row = true →
      ∃ e ∈ history, OpensHold row.planStepId hold.holdId e

section Step

variable {rt : Runtime} {planId : String} {w w' : World} {e : Event}

theorem GateKept.granted_step (h : GateKept planId history w)
    (hw : w.WellFormed) (hstep : Step rt w e w') (hop : e.op.executes = true) :
    ∀ row ∈ stepsOf w'.store planId, ¬Granted row := by
  intro row' hrow'
  obtain ⟨row, hrow, hchange⟩ :=
    hstep.origin hw hop hrow'
  rw [(sameGate_rowChange hchange).granted_iff]
  exact h.granted row hrow

theorem names_congr {hold hold' : HoldRow}
    (hcontext : hold.executionContextJson = hold'.executionContextJson)
    (hspec : row'.toStepSpec = row.toStepSpec) : hold.names row = hold'.names row' := by
  unfold HoldRow.names
  rw [hcontext, hspec]

variable {holdId : String}

theorem names_eq_true {hold : HoldRow} : hold.names row = true ↔
    holdSubject (parseJson hold.executionContextJson (.obj [])) =
      .ok (row.planId, row.planStepId) := by
  unfold HoldRow.names
  split <;> simp [*]

theorem planStepId_of_names {next : StepRow}
    (h : (approvalHold plan next actorId decision holdId).names row = true) :
    next.planStepId = row.planStepId :=
  (holdSubject_approvalHold (names_eq_true.mp h)).2.symm

section

variable (h : GateKept planId history w)

include h

theorem GateKept.holds_step
    (hw : w.WellFormed) (hstep : Step rt w e w') (hop : e.op.executes = true) :
    ∀ hold ∈ w'.store.holds, ∀ row ∈ stepsOf w'.store planId,
      hold.names row = true → ∃ e' ∈ history ++ [e], OpensHold row.planStepId hold.holdId e' := by
  intro hold' hhold' row' hrow' hnames
  obtain ⟨row, hrow, hchange⟩ :=
    hstep.origin hw hop hrow'
  have horigin := (effect_of_exec hw.store hstep.runs).hold_origin hhold'
  obtain ⟨hold, hhold, hid, hcontext⟩ | ⟨clock, target, actorId, holdId,
    claimToken, plan, next, decision, reason, hclaim, -, -, hout, rfl⟩ := horigin
  · rw [← names_congr hcontext hchange.toStepSpec_eq] at hnames
    obtain ⟨e', hmem, hopen⟩ := h.holds hold hhold row hrow hnames
    rw [hchange.toStepSpec_eq, ← hid]
    exact ⟨e', mem_append_left _ hmem, hopen⟩
  · exact ⟨e, by simp, clock, target, actorId, claimToken, reason, next,
      decision, hclaim, hout, planStepId_of_names hnames⟩

/-- The next step of a claim has no grant, and its bit is an approval. -/
theorem GateKept.next {next : StepRow} (hnext : w.store.firstReady planId = some next) :
    ¬Granted next ∧ (Gated next → BitSet next → ApprovedIn history next.planStepId) := by
  obtain ⟨hmem, hplan, -⟩ := firstReady_mem hnext
  obtain hold | ⟨row, hold, hrowPlan, -, -, rfl⟩ := promote_origin hmem
  · have hrow := mem_stepsOf.mpr ⟨hold, hplan⟩
    exact ⟨h.granted next hrow, fun hgated hbit =>
      h.past next hrow hgated (.inl hbit)⟩
  · have hrow := mem_stepsOf.mpr ⟨hold, hrowPlan⟩
    exact ⟨h.granted row hrow, fun hgated hbit =>
      h.past row hrow hgated (.inl hbit)⟩

theorem GateKept.past_claim (hw : w.WellFormed) {clock : Int} {claimToken : String}
    {out : ClaimResult × Store}
    (hclaim : ClaimStep rt clock planId actorId holdId claimToken w.store out)
    (hmem : row' ∈ stepsOf out.2 planId) (hgated : Gated row')
    (hpast : BitSet row' ∨ row'.status = .claimed ∨ row'.status = .completed) :
    ApprovedIn history row'.planStepId := by
  rw [mem_stepsOf] at hmem
  obtain hold | ⟨row, hold, hplan, -, -, rfl⟩ |
    ⟨plan, next, admitted, hnext, rfl⟩ := hclaim.origin hw.store hmem.1
  · exact h.past row' (mem_stepsOf.mpr ⟨hold, hmem.2⟩) hgated hpast
  · have hbit : BitSet row := hpast.resolve_right (by simp)
    exact h.past row (mem_stepsOf.mpr ⟨hold, hplan⟩) hgated (.inl hbit)
  · obtain ⟨hgrant, happroved⟩ := h.next hnext.next_eq
    cases admitted with
    | dispatch decision =>
      have hrequired := not_required_of_dispatch hgrant hnext.admitted_eq
      exact happroved hgated (bitSet_of_not_required hrequired hgated)
    | hold decision =>
      exact happroved hgated (hpast.resolve_right (by simp [admittedRow]))
    | refuse decision =>
      refine happroved hgated (hpast.resolve_right ?_)
      cases hpause : decision.pauseRequired <;> simp [admittedRow, hpause]

theorem GateKept.past_decide (hw : w.WellFormed) {decision : String}
    {decisionNote : Option String} {out : ApprovalResponse × Store}
    (hdecide : DecideStep holdId decision decisionBy decisionNote w.store row d out)
    (hplan : row.planId = planId) (hmem : row' ∈ stepsOf out.2 planId) (hgated : Gated row')
    (hpast : BitSet row' ∨ row'.status = .claimed ∨ row'.status = .completed) :
    ApprovedIn (history ++ [⟨.decide holdId decision decisionBy decisionNote,
      .decided out.1⟩]) row'.planStepId := by
  rw [mem_stepsOf] at hmem
  obtain ⟨hold, -⟩ | ⟨fingerprint, rfl⟩ := hdecide.origin hw.store hmem.1
  · exact (h.past row' (mem_stepsOf.mpr ⟨hold, hmem.2⟩) hgated hpast).append _
  · have hrow := mem_stepsOf.mpr ⟨hdecide.awaits.mem, hplan⟩
    have hdecision : d = .approved ∨ BitSet row := by
      rcases hpast with hbit | hclaimed | hcompleted
      · exact bitSet_decidedRow hbit
      · exact absurd hclaimed (stepStatus_ne_claimed d row)
      · cases d with
        | approved => exact .inl rfl
        | rejected | escalated => cases hcompleted
    rcases hdecision with rfl | hbit
    · -- The hold being decided was opened by an earlier claim of this step.
      obtain ⟨hold, hhold, rfl, -, hnames⟩ := hdecide.awaits.held
      obtain ⟨opened, hopened, hopen⟩ := h.holds hold hhold row hrow hnames
      obtain rfl := holdDecision_text hdecide.decision_eq
      exact approvedIn_of_mem hopened hopen ⟨decisionBy, decisionNote, _, rfl, rfl⟩
    · rw [(sameGate_decidedRow _ _ _ _).gated_iff] at hgated
      exact (h.past row hrow hgated (.inl hbit)).append _

theorem GateKept.past_step
    (hw : w.WellFormed) (hstep : Step rt w e w') (hop : e.op.executes = true) :
    ∀ row ∈ stepsOf w'.store planId, Gated row →
      BitSet row ∨ row.status = .claimed ∨ row.status = .completed →
        ApprovedIn (history ++ [e]) row.planStepId := by
  intro row' hmem hgated hpast
  have hview := hstep.onPlan hw planId
  obtain ⟨op, outcome⟩ := e
  cases hview with
  | untouched hsame =>
    rw [hsame.steps] at hmem
    exact (h.past row' hmem hgated hpast).append _
  | claim hclaim => exact (h.past_claim hw hclaim hmem hgated hpast).append _
  | @finalize _ _ result error _ row _ _ hfinalize hplan =>
    rw [mem_stepsOf] at hmem
    obtain ⟨hold, -⟩ | rfl := hfinalize.origin hw.store hmem.1
    · exact (h.past row' (mem_stepsOf.mpr ⟨hold, hmem.2⟩) hgated hpast).append _
    · -- A finalised step was claimed, so it was past the gate before.
      have hclaimed : row.status = .claimed :=
        (hw.store.tokens row hfinalize.mem).mp (by
          simp [hfinalize.claimToken_eq])
      have hrow := mem_stepsOf.mpr ⟨hfinalize.mem, hplan⟩
      exact (h.past row hrow hgated (.inr (.inl hclaimed))).append _
  | decide hdecide hplan => exact h.past_decide hw hdecide hplan hmem hgated hpast
  | resume hresume =>
    rw [mem_stepsOf] at hmem
    obtain hold | ⟨row, hrow, rfl⟩ := hresume.origin hw.store hmem.1
    · exact (h.past row' (mem_stepsOf.mpr ⟨hold, hmem.2⟩) hgated hpast).append _
    · obtain ⟨hold, hplan, -⟩ := hresume.resumable row hrow
      have hbit : BitSet row := hpast.resolve_right (by simp)
      exact (h.past row (mem_stepsOf.mpr ⟨hold, hplan⟩) hgated (.inl hbit)).append _
  | _ => cases hop

theorem GateKept.step (hw : w.WellFormed) (hstep : Step rt w e w') (hop : e.op.executes = true) :
    GateKept planId (history ++ [e]) w' :=
  ⟨h.granted_step hw hstep hop, h.past_step hw hstep hop, h.holds_step hw hstep hop⟩

end

end Step

/-! ## Runs -/

theorem gateKept_compiled {rt : Runtime} {w w₀ : World} {uuids : Nat → String}
    {planId tenantId : String} {steps : Val} {response : CompileResponse} (hw : w.WellFormed)
    (h : Step rt w (compiledEvent uuids planId tenantId steps actorId response) w₀)
    (hgrant : ∀ row ∈ stepsOf w₀.store planId, ¬Granted row)
    (hbit : ∀ row ∈ stepsOf w₀.store planId, Gated row → ¬BitSet row) : GateKept planId [] w₀ := by
  obtain ⟨stored, hcompile⟩ := h.compiled hw
  have hrows := stepsOf_compile hcompile
  refine ⟨hgrant, ?_, ?_⟩
  · intro row hrow hgated hpast
    have hstatus := hpast.resolve_left (hbit row hrow hgated)
    rw [hrows] at hrow
    rcases (hcompile.fresh row hrow).status_cases with h | ⟨h, -⟩ <;>
      simp [h] at hstatus
  · -- A hold that is already there cannot name a step with a new id.
    intro hold hhold row hrow hnames
    rw [hcompile.holds] at hhold
    rw [hrows] at hrow
    have hnew : row.planStepId ∈ compileIds uuids steps := by
      rw [← hcompile.ids]
      exact mem_map_of_mem hrow
    have hissued := hw.holdIssued hold hhold _ _ (names_eq_true.mp hnames)
    exact absurd hissued (h.fresh _ hnew)

/-- Where no gated step of the compiled plan carries the approval bit, a gated
step is claimed or completed only after a hold opened for it by a claim was
decided `approved`. -/
theorem gated_step_approved (rt : Runtime) {w w₀ w' : World}
    {uuids : Nat → String} {planId tenantId : String} {steps : Val}
    {actorId : Option String} {response : CompileResponse}
    {history : List Event} (hreach : Reachable rt w)
    (hcompile : Step rt w (compiledEvent uuids planId tenantId steps actorId response) w₀)
    (hgrant : ∀ row ∈ stepsOf w₀.store planId, ¬Granted row)
    (hbit : ∀ row ∈ stepsOf w₀.store planId, Gated row → ¬BitSet row)
    (hrun : Run (restrict (Step rt) fun _ e => e.op.executes = true) w₀ history w')
    {row₀ row : StepRow} (hrow₀ : row₀ ∈ stepsOf w₀.store planId)
    (hgated : Gated row₀) (hrow : row ∈ stepsOf w'.store planId)
    (hid : row.planStepId = row₀.planStepId)
    (hpast : row.status = .claimed ∨ row.status = .completed) :
    ApprovedIn history row₀.planStepId := by
  have hw₀ := hcompile.wellFormed hreach.wellFormed
  have hkept := hrun.history (I := fun history v => v.WellFormed ∧ GateKept planId history v ∧
      ∀ row ∈ stepsOf v.store planId, ∃ row₀ ∈ stepsOf w₀.store planId, SameGate row₀ row)
    (fun history v e v' hv hstep => by
      obtain ⟨hwf, hgate, hsame⟩ := hv
      refine ⟨hstep.1.wellFormed hwf, hgate.step hwf hstep.1 hstep.2, ?_⟩
      intro row' hrow'
      obtain ⟨row, hrow, hchange⟩ :=
        hstep.1.origin hwf hstep.2 hrow'
      obtain ⟨row₀, hrow₀, hfirst⟩ := hsame row hrow
      exact ⟨row₀, hrow₀, hfirst.trans (sameGate_rowChange hchange)⟩)
    ⟨hw₀, gateKept_compiled hreach.wellFormed hcompile hgrant hbit,
      fun row hrow => ⟨row, hrow, .refl row⟩⟩
  obtain ⟨-, hgate, hsame⟩ := hkept
  obtain ⟨first, hfirst, hsameGate⟩ := hsame row hrow
  have heq : first = row₀ := by
    apply hw₀.store.row_eq (mem_stepsOf.mp hfirst).1 (mem_stepsOf.mp hrow₀).1
    rw [← hid, hsameGate.spec]
  subst heq
  rw [← hid]
  exact hgate.past row hrow (hsameGate.gated_iff.mpr hgated) (.inr hpast)

theorem gated_step_approved_publish :
    ApprovedIn (gatedWorld.events plainRuntime passTheGate) "step1" := by
  obtain ⟨row₀, hrow₀, hgated, hid₀⟩ :
      ∃ row ∈ stepsOf gatedWorld.store "plan", Gated row ∧ row.planStepId = "step1" := by
    decide
  obtain ⟨row, hrow, hclaimed, hid⟩ :
      ∃ row ∈ stepsOf (gatedWorld.play plainRuntime passTheGate).store "plan",
        row.status = .claimed ∧ row.planStepId = "step1" := by
    decide
  rw [← hid₀]
  exact gated_step_approved plainRuntime (reachable_draftWorld plainRuntime)
    step_gatedWorld (by decide) (by decide) (run_play plays_passTheGate) hrow₀ hgated
    hrow (hid.trans hid₀.symm) (.inl hclaimed)

/-- A step that requires an approval and claims to have it. -/
def selfApprovedSteps : List Val :=
  [describeStep "publish" [] [("approval_policy",
    .obj [("required", .bool true), ("approved", .bool true)])]]

def selfApprovedWorld : World :=
  draftWorld.perform plainRuntime (compileOp "step" selfApprovedSteps)

/-- The first claim dispatches it; no hold was ever opened. -/
theorem self_approved_step_dispatched :
    ∃ response history w row₀ row,
      Step plainRuntime draftWorld (compiledEvent (numbered "step") "plan"
        "tenant" (.arr selfApprovedSteps) none response) selfApprovedWorld ∧
      (∀ row ∈ stepsOf selfApprovedWorld.store "plan", ¬Granted row) ∧
      Run (restrict (Step plainRuntime) fun _ e => e.op.executes = true)
        selfApprovedWorld history w ∧
      row₀ ∈ stepsOf selfApprovedWorld.store "plan" ∧ Gated row₀ ∧
      row ∈ stepsOf w.store "plan" ∧ row.planStepId = row₀.planStepId ∧
      row.status = .claimed ∧ ¬ApprovedIn history row₀.planStepId := by
  have hcompile := step_perform plainRuntime
    (show draftWorld.FreshFor (compileOp "step" selfApprovedSteps) by decide)
  have hplays : selfApprovedWorld.Plays plainRuntime
      (fun _ e => e.op.executes = true) [claimOp "hold1" "token1"] :=
    ⟨⟨by decide, rfl⟩, trivial⟩
  obtain ⟨row₀, hrow₀, hgated, hid₀⟩ :
      ∃ row ∈ stepsOf selfApprovedWorld.store "plan", Gated row ∧ row.planStepId = "step0" := by
    decide
  obtain ⟨row, hrow, hclaimed, hid⟩ :
      ∃ row ∈ stepsOf (selfApprovedWorld.play plainRuntime [claimOp "hold1" "token1"]).store "plan",
        row.status = .claimed ∧ row.planStepId = "step0" := by
    decide
  refine ⟨_, _, _, row₀, row, hcompile, by decide, run_play hplays, hrow₀, hgated,
    hrow, hid.trans hid₀.symm, hclaimed, ?_⟩
  rintro ⟨holdId, before, opened, between, approval, after, heq, -, -⟩
  have hlength := congrArg List.length heq
  simp only [World.events, length_append, length_cons, length_nil] at hlength
  omega

end GrowthOs.Execution
