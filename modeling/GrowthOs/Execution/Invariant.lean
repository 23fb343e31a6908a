import GrowthOs.Execution.System

/-!
# Well-formed worlds

Every step keeps the uniqueness constraints of the schema, the ownership of
steps by plans, and the claim tokens on exactly the claimed steps; and every
id in the database has been drawn, so a fresh id is new to the database.
-/

namespace GrowthOs.Execution

open Js SequentialPlan Transition List

/-! ## Changes of rows -/

/-- What a step that is no compilation can do to a row. -/
inductive RowChange (s : Store) (fresh : Option String) : StepRow → StepRow → Prop
  | steps {row row' : StepRow} (h : RowSteps s fresh row row') : RowChange s fresh row row'
  | cancel {row : StepRow} (h : row.status.terminal = false) :
      RowChange s fresh row { row with status := .cancelled, claimToken := none }

variable {s : Store} {fresh : Option String} {row row' : StepRow}

theorem RowChange.toStepSpec_eq (h : RowChange s fresh row row') :
    row'.toStepSpec = row.toStepSpec := by
  cases h with
  | steps h => exact h.toStepSpec_eq
  | cancel h => rfl

/-- A claim token exactly while the step is claimed. -/
def TokenWhileClaimed (row : StepRow) : Prop :=
  row.claimToken.isSome ↔ row.status = .claimed

theorem settledStatus_ne_claimed (row : StepRow) (result error : Val) :
    settledStatus row result error ≠ .claimed := by
  unfold settledStatus
  split
  · decide
  · split <;> decide

theorem stepStatus_ne_claimed (decision : HoldDecision) (row : StepRow) :
    decision.stepStatus row ≠ .claimed := by
  cases decision with
  | approved =>
    simp only [HoldDecision.stepStatus]
    split <;> decide
  | rejected | escalated => simp [HoldDecision.stepStatus]

theorem tokenWhileClaimed_rowStep (h : RowStep s fresh row row') (hrow : TokenWhileClaimed row) :
    TokenWhileClaimed row' := by
  unfold TokenWhileClaimed at hrow ⊢
  cases h with
  | promote hpending => simp [hrow, hpending]
  | hold hready => simp [hrow, hready]
  | refuse hready hstatus =>
    rcases hstatus with rfl | rfl <;> simp [hrow, hready]
  | claim hready => simp
  | settle htoken =>
    simp [settledRow, writeOutcome, settledStatus_ne_claimed]
  | decide hawaiting =>
    simp [decidedRow, stepStatus_ne_claimed, hrow, hawaiting]
  | resume hstopped =>
    rcases hstopped with h | h | h <;> simp [hrow, h]

/-- No transaction changes a step in a terminal status. -/
theorem not_rowStep_of_terminal (htoken : TokenWhileClaimed row)
    (hrow : row.status.terminal = true) : ¬RowStep s fresh row row' := by
  intro h
  cases h with
  | promote hpending => simp [hpending, StepStatus.terminal] at hrow
  | hold hready | refuse hready _ | claim hready _ => simp [hready, StepStatus.terminal] at hrow
  | settle hsome =>
    have hclaimed : row.status = .claimed := htoken.mp (by simp [hsome])
    simp [hclaimed, StepStatus.terminal] at hrow
  | decide hawaiting => simp [hawaiting, StepStatus.terminal] at hrow
  | resume hstopped =>
    rcases hstopped with h | h | h <;> simp [h, StepStatus.terminal] at hrow

/-- Nor does a cancellation. -/
theorem RowChange.eq_of_terminal (h : RowChange s fresh row row') (htoken : TokenWhileClaimed row)
    (hrow : row.status.terminal = true) : row' = row := by
  cases h with
  | steps h =>
    exact (Relation.reflTransGen_iff_eq fun _ => not_rowStep_of_terminal htoken hrow).mp h
  | cancel hlive => simp [hrow] at hlive

theorem RowChange.tokenWhileClaimed (h : RowChange s fresh row row')
    (hrow : TokenWhileClaimed row) : TokenWhileClaimed row' := by
  cases h with
  | steps h => exact h.invariant (fun _ _ => tokenWhileClaimed_rowStep) hrow
  | cancel h => simp [TokenWhileClaimed]

def Op.isCompile : Op → Bool
  | .compile .. => true
  | _ => false

/-- The claim token an operation draws. -/
def Op.freshToken : Op → Option String
  | .claim _ _ _ _ claimToken => some claimToken
  | _ => none

variable {op : Op}

theorem Op.isCompile_of_executes (h : op.executes = true) : op.isCompile = false := by
  cases op <;> simp_all [Op.executes, Op.isCompile]

variable {token : String}

theorem Op.freshToken_mem (h : op.freshToken = some token) : token ∈ op.newIds := by
  cases op <;> simp_all [Op.freshToken, Op.newIds]

variable {rt : Runtime} {s' : Store} {outcome : Outcome}

/-- What executing a plan does to its rows. -/
theorem Effect.rowSteps (hs : s.WellFormed) (h : Effect rt s op outcome s')
    (hop : op.executes = true) : Table.Evolves (RowSteps s op.freshToken) s.steps s'.steps := by
  cases h with
  | threw => exact .refl fun _ _ => .refl
  | claim h | finalize h | decide h | resume h => exact h.rows hs
  | _ => cases hop

/-- Every step but a compilation changes rows and adds none. -/
theorem Effect.evolves (hs : s.WellFormed) (h : Effect rt s op outcome s')
    (hop : op.isCompile = false) : Table.Evolves (RowChange s op.freshToken) s.steps s'.steps := by
  by_cases hexecutes : op.executes = true
  · exact (h.rowSteps hs hexecutes).mono fun _ _ _ => .steps
  · cases h with
    | threw => exact .refl fun _ _ => .steps .refl
    | compile h => cases hop
    | transition h => rw [h.steps]; exact .refl fun _ _ => .steps .refl
    | cancel h =>
      cases h with
      | replay => exact .refl fun _ _ => .steps .refl
      | cancel hstatus hlive hrows hwrote hholds =>
        rw [hrows]
        refine Table.evolves_update (fun row _ hsel => ?_) fun _ _ _ => .steps .refl
        simp only [Bool.and_eq_true, Bool.not_eq_true'] at hsel
        exact .cancel hsel.2
    | _ => exact absurd rfl hexecutes

/-- No step adds a plan, removes one or moves it to another tenant. -/
theorem Effect.identities (hs : s.WellFormed) (h : Effect rt s op outcome s') :
    (s'.plans.map fun plan => (plan.planId, plan.tenantId)) =
      s.plans.map fun plan => (plan.planId, plan.tenantId) := by
  cases h with
  | threw => rfl
  | compile h => exact h.wrote.identities
  | claim h =>
    obtain rfl | hwrote := h.wrote
    · rfl
    · exact hwrote.identities
  | finalize h | decide h | resume h => exact (h.wrote hs).identities
  | transition h =>
    obtain ⟨-, rfl⟩ | hwrote := h.wrote
    · rfl
    · exact hwrote.identities
  | cancel h =>
    cases h with
    | replay => rfl
    | cancel hstatus hlive hrows hwrote hholds => exact hwrote.identities

/-! ## Stores -/

section Identities

variable (hplans : (s'.plans.map fun plan => (plan.planId, plan.tenantId)) =
    s.plans.map fun plan => (plan.planId, plan.tenantId))

include hplans

theorem planIds_of_identities :
    (s'.plans.map fun plan => plan.planId) = s.plans.map fun plan => plan.planId := by
  have hids := congrArg (List.map Prod.fst) hplans
  simpa only [map_map, Function.comp_def] using hids

theorem owner_of_identities (h : ∃ plan ∈ s.plans,
      plan.planId = row.planId ∧ plan.tenantId = row.tenantId) :
    ∃ plan ∈ s'.plans, plan.planId = row.planId ∧ plan.tenantId = row.tenantId := by
  obtain ⟨plan, hplan, hid, htenant⟩ := h
  have hmem : (row.planId, row.tenantId) ∈
      s'.plans.map fun plan => (plan.planId, plan.tenantId) := by
    rw [hplans, ← hid, ← htenant]
    exact mem_map_of_mem hplan
  obtain ⟨plan', hplan', heq⟩ := mem_map.mp hmem
  exact ⟨plan', hplan', (Prod.mk.inj heq).1, (Prod.mk.inj heq).2⟩

end Identities

theorem wellFormed_of_evolves (hs : s.WellFormed)
    (hrows : Table.Evolves (RowChange s fresh) s.steps s'.steps)
    (hplans : (s'.plans.map fun plan => (plan.planId, plan.tenantId)) =
      s.plans.map fun plan => (plan.planId, plan.tenantId)) :
    s'.WellFormed where
  planIds := by
    rw [planIds_of_identities hplans]
    exact hs.planIds
  stepIds := by
    rw [hrows.map_eq fun _ _ h => by rw [h.toStepSpec_eq]]
    exact hs.stepIds
  stepKeys := by
    rw [hrows.map_eq fun _ _ h => by rw [h.toStepSpec_eq]]
    exact hs.stepKeys
  owned := by
    intro row' hrow'
    obtain ⟨row, hrow, hchange⟩ := hrows.origin hrow'
    rw [hchange.toStepSpec_eq]
    exact owner_of_identities hplans (hs.owned row hrow)
  tokens := by
    intro row' hrow'
    obtain ⟨row, hrow, hchange⟩ := hrows.origin hrow'
    exact hchange.tokenWhileClaimed (hs.tokens row hrow)

/-! ## Worlds -/

/-- A world whose store is well formed and whose ids have all been drawn. -/
structure World.WellFormed (w : World) : Prop where
  store : w.store.WellFormed
  stepIssued : ∀ row ∈ w.store.steps, row.planStepId ∈ w.issued
  tokenIssued : ∀ row ∈ w.store.steps, ∀ token, row.claimToken = some token → token ∈ w.issued
  holdIssued : ∀ hold ∈ w.store.holds, ∀ planId planStepId,
    holdSubject (parseJson hold.executionContextJson (.obj [])) =
      .ok (planId, planStepId) → planStepId ∈ w.issued

variable {w : World} {history : List Event}

theorem Initial.wellFormed (h : Initial w) : w.WellFormed := by
  refine ⟨⟨h.planIds, ?_, ?_, ?_, ?_⟩, ?_, ?_, h.holds⟩
  all_goals simp [h.steps]

theorem wellFormed_of_compile {uuids : Nat → String} {planId tenantId : String} {steps : Val}
    {stored : List StepRow} {response : CompileResponse} (hs : s.WellFormed)
    (h : CompileStep rt uuids planId tenantId steps s stored (response, s'))
    (hdistinct : (compileIds uuids steps).Nodup)
    (hnew : ∀ row ∈ s.steps, row.planStepId ∉ compileIds uuids steps) :
    s'.WellFormed where
  planIds := by
    rw [planIds_of_identities h.wrote.identities]
    exact hs.planIds
  stepIds := by
    rw [h.steps_eq, map_append, nodup_append]
    refine ⟨hs.stepIds.sublist (filter_sublist.map _), h.ids ▸ hdistinct, ?_⟩
    rintro id hkept _ hstored rfl
    rw [h.ids] at hstored
    obtain ⟨row, hrow, rfl⟩ := mem_map.mp hkept
    exact hnew row (mem_of_mem_filter hrow) hstored
  stepKeys := by
    rw [h.steps_eq, map_append, nodup_append]
    refine ⟨hs.stepKeys.sublist (filter_sublist.map _), ?_, ?_⟩
    · have hpairs : (stored.map fun row => (row.planId, row.stepKey)) =
          (stored.map fun row => row.stepKey).map (Prod.mk planId) := by
        rw [map_map]
        refine map_congr_left fun row hrow => ?_
        simp [(h.fresh row hrow).planId_eq]
      rw [hpairs]
      exact h.keys.map (Prod.mk_right_injective planId)
    · rintro pair hkept _ hstored rfl
      obtain ⟨row, hrow, rfl⟩ := mem_map.mp hkept
      obtain ⟨row', hrow', heq⟩ := mem_map.mp hstored
      have hother : row.planId ≠ planId := by
        simpa using (mem_filter.mp hrow).2
      exact hother ((Prod.mk.inj heq).1 ▸ (h.fresh row' hrow').planId_eq)
  owned := by
    intro row hrow
    apply owner_of_identities h.wrote.identities
    rw [h.steps_eq] at hrow
    rcases mem_append.mp hrow with hkept | hstored
    · exact hs.owned row (mem_of_mem_filter hkept)
    · obtain ⟨plan, hplan, htenant, -⟩ := h.plan
      obtain ⟨hmem, hid⟩ := mem_of_selectPlans hplan
      have hfresh := h.fresh row hstored
      exact ⟨plan, hmem, hid.trans hfresh.planId_eq.symm, htenant.trans hfresh.tenantId_eq.symm⟩
  tokens := by
    intro row hrow
    rw [h.steps_eq] at hrow
    rcases mem_append.mp hrow with hkept | hstored
    · exact hs.tokens row (mem_of_mem_filter hkept)
    · have hfresh := h.fresh row hstored
      rcases hfresh.status_cases with hstatus | ⟨hstatus, -⟩ <;>
        simp [hfresh.claimToken_eq, hstatus]

theorem claimToken_rowStep (h : RowStep s fresh row row') (htoken : row'.claimToken = some token) :
    fresh = some token ∨ row.claimToken = some token := by
  cases h with
  | claim _ hfresh =>
    rw [hfresh]
    exact .inl htoken
  | settle => simp [settledRow, writeOutcome] at htoken
  | _ => exact .inr htoken

/-- A claim token was there before or has just been drawn. -/
theorem RowChange.claimToken (h : RowChange s fresh row row')
    (htoken : row'.claimToken = some token) : fresh = some token ∨ row.claimToken = some token := by
  cases h with
  | cancel => simp at htoken
  | steps h =>
    induction h with
    | refl => exact .inr htoken
    | tail _ hstep ih =>
      exact (claimToken_rowStep hstep htoken).elim .inl ih

/-- Where the holds of the next store come from. -/
theorem Effect.hold_origin (h : Effect rt s op outcome s') {hold' : HoldRow}
    (hmem : hold' ∈ s'.holds) :
    (∃ hold ∈ s.holds, hold.holdId = hold'.holdId ∧
        hold.executionContextJson = hold'.executionContextJson) ∨
      ∃ clock planId actorId holdId claimToken plan next decision reason,
        op = .claim clock planId actorId holdId claimToken ∧
        s.selectPlans planId = [plan] ∧ s.firstReady planId = some next ∧
        outcome = .claimed (.stop reason .awaitingApproval (some holdId) (some next) decision) ∧
        hold' = approvalHold plan next actorId decision holdId := by
  have hkeep : s'.holds = s.holds → ∃ hold ∈ s.holds,
      hold.holdId = hold'.holdId ∧ hold.executionContextJson = hold'.executionContextJson :=
    fun heq => ⟨hold', heq ▸ hmem, rfl, rfl⟩
  cases h with
  | threw => exact .inl (hkeep rfl)
  | compile h => exact .inl (hkeep h.holds)
  | claim h =>
    obtain hsame | ⟨plan, next, decision, hplan, hnext, hout, hholds⟩ := h.holds
    · exact .inl (hkeep hsame)
    · rw [hholds, mem_append, mem_singleton] at hmem
      rcases hmem with hold | rfl
      · exact .inl ⟨hold', hold, rfl, rfl⟩
      · subst hout
        exact .inr ⟨_, _, _, _, _, plan, next, decision, _, rfl, hplan, hnext,
          rfl, rfl⟩
  | finalize h => exact .inl (hkeep h.holds)
  | decide h =>
    obtain ⟨fingerprint, rfl⟩ := h.store
    obtain ⟨hold, hhold, rfl⟩ := Table.mem_update.mp hmem
    refine .inl ⟨hold, hhold, ?_⟩
    split <;> exact ⟨rfl, rfl⟩
  | resume h | transition h => exact .inl (hkeep h.holds)
  | cancel h =>
    cases h with
    | replay => exact .inl (hkeep rfl)
    | cancel hstatus hlive hrows hwrote hholds => exact .inl (hkeep hholds)

section Step

variable {w' : World} {e : Event}

section

variable (h : Step rt w e w')

include h

theorem Step.issued_mono {id : String} (hid : id ∈ w.issued) : id ∈ w'.issued := by
  rw [h.issued]
  exact mem_append_right _ hid

theorem Step.issued_new {id : String} (hid : id ∈ e.op.newIds) : id ∈ w'.issued := by
  rw [h.issued]
  exact mem_append_left _ hid

theorem Step.holdIssued (hw : w.WellFormed) :
    ∀ hold ∈ w'.store.holds, ∀ planId planStepId,
      holdSubject (parseJson hold.executionContextJson (.obj [])) =
        .ok (planId, planStepId) → planStepId ∈ w'.issued := by
  intro hold' hmem planId planStepId hsubject
  apply h.issued_mono
  have horigin := (effect_of_exec hw.store h.runs).hold_origin hmem
  obtain ⟨hold, hhold, -, hcontext⟩ | ⟨_, _, _, _, _, plan, next, decision, _,
    -, -, hnext, -, rfl⟩ := horigin
  · exact hw.holdIssued hold hhold planId planStepId (hcontext ▸ hsubject)
  · obtain ⟨row, hrow, hspec, -⟩ := firstReady_source hnext
    rw [(holdSubject_approvalHold hsubject).2, ← hspec]
    exact hw.stepIssued row hrow

/-- A row was there before, or a compilation has just inserted it. -/
theorem Step.row_origin (hw : w.WellFormed) (hmem : row' ∈ w'.store.steps) :
    (∃ row ∈ w.store.steps, RowChange w.store e.op.freshToken row row') ∨
      (∃ planId tenantId, FreshRow planId tenantId row') ∧ row'.planStepId ∈ e.op.newIds := by
  have heffect := effect_of_exec hw.store h.runs
  cases hop : e.op.isCompile with
  | false => exact .inl ((heffect.evolves hw.store hop).origin hmem)
  | true =>
    obtain ⟨op, outcome⟩ := e
    obtain ⟨s', issued⟩ := w'
    cases heffect with
    | threw => exact .inl ⟨row', hmem, .steps .refl⟩
    | compile hcompile =>
      rw [hcompile.steps_eq] at hmem
      rcases mem_append.mp hmem with hkept | hstored
      · exact .inl ⟨row', mem_of_mem_filter hkept, .steps .refl⟩
      · refine .inr ⟨⟨_, _, hcompile.fresh row' hstored⟩, ?_⟩
        rw [Op.newIds, ← hcompile.ids]
        exact mem_map_of_mem hstored
    | _ => cases hop

theorem Step.store_wellFormed (hw : w.WellFormed) : w'.store.WellFormed := by
  have heffect := effect_of_exec hw.store h.runs
  cases hop : e.op.isCompile with
  | false =>
    exact wellFormed_of_evolves hw.store (heffect.evolves hw.store hop)
      (heffect.identities hw.store)
  | true =>
    obtain ⟨op, outcome⟩ := e
    obtain ⟨s', issued⟩ := w'
    cases heffect with
    | threw => exact hw.store
    | compile hcompile =>
      exact wellFormed_of_compile hw.store hcompile h.distinct
        fun row hrow hmem => h.fresh _ hmem (hw.stepIssued row hrow)
    | _ => cases hop

theorem Step.wellFormed (hw : w.WellFormed) : w'.WellFormed := by
  refine ⟨h.store_wellFormed hw, ?_, ?_, h.holdIssued hw⟩
  · intro row' hrow'
    obtain ⟨row, hrow, hchange⟩ | ⟨-, hnew⟩ := h.row_origin hw hrow'
    · rw [hchange.toStepSpec_eq]
      exact h.issued_mono (hw.stepIssued row hrow)
    · exact h.issued_new hnew
  · intro row' hrow' token htoken
    obtain ⟨row, hrow, hchange⟩ | ⟨⟨_, _, hfresh⟩, -⟩ := h.row_origin hw hrow'
    · rcases hchange.claimToken htoken with hnew | hold
      · exact h.issued_new (Op.freshToken_mem hnew)
      · exact h.issued_mono (hw.tokenIssued row hrow token hold)
    · rw [hfresh.claimToken_eq] at htoken
      cases htoken

end

end Step

theorem wellFormed_of_run {w' : World} (hrun : Run (Step rt) w history w') (hw : w.WellFormed) :
    w'.WellFormed :=
  hrun.invariant (fun _ _ _ hw hstep => hstep.wellFormed hw) hw

theorem Reachable.wellFormed (h : Reachable rt w) : w.WellFormed := by
  obtain ⟨w₀, history, hinit, hrun⟩ := h
  exact wellFormed_of_run hrun hinit.wellFormed

/-- The invariant rule for runs of admissible steps, with well-formedness at
hand in every state. -/
theorem invariant_of_run {G : World → Event → Prop} {I : World → Prop}
    (hkeep : ∀ w e w', w.WellFormed → I w → Step rt w e w' → G w e → I w') {w' : World}
    (hrun : Run (restrict (Step rt) G) w history w') (hw : w.WellFormed) (hI : I w) : I w' := by
  have hboth : ∀ v e v', v.WellFormed ∧ I v → restrict (Step rt) G v e v' → v'.WellFormed ∧ I v' :=
    fun v e v' hv hstep =>
      ⟨hstep.1.wellFormed hv.1, hkeep v e v' hv.1 hv.2 hstep.1 hstep.2⟩
  exact (hrun.invariant hboth ⟨hw, hI⟩).2

end GrowthOs.Execution
