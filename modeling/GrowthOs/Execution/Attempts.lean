import GrowthOs.Execution.Plan

/-!
# Bounded attempts and one result per claim

Attempts are counted when a step is claimed, and a retry is decided when the
claim is finalised.  In between, resuming and approving put steps back to
`ready`.  Still every step keeps within its attempts, because it can become
ready again only with an attempt left; a claim token is accepted once, because
it is drawn fresh and cleared when it is accepted; and a step that is completed
or failed is never handed out again.
-/

namespace GrowthOs.Execution

open Js SequentialPlan Transition

/-! ## Attempts -/

/-- The statuses from which a step can come to be claimed. -/
def claimable : StepStatus → Bool
  | .pending => true
  | .ready => true
  | .awaitingApproval => true
  | .blocked => true
  | .paused => true
  | .retrying => true
  | _ => false

/-- A step that can still be claimed has an attempt left. -/
structure AttemptsBounded (row : StepRow) : Prop where
  one_le : 1 ≤ row.maxAttempts
  le : row.attemptCount ≤ row.maxAttempts
  lt : claimable row.status = true → row.attemptCount < row.maxAttempts

variable {row : StepRow}

theorem attemptsBounded_settledRow (h : AttemptsBounded row) (result error : Val) :
    AttemptsBounded (settledRow result error row) := by
  refine ⟨h.one_le, h.le, ?_⟩
  intro hclaimable
  simp only [settledRow, writeOutcome, settledStatus] at hclaimable ⊢
  cases hsucc : claimSucceeded result error with
  | true => simp [hsucc, claimable] at hclaimable
  | false =>
    cases hretry : claimRetryable row result error with
    | false => simp [hsucc, hretry, claimable] at hclaimable
    | true =>
      simp only [claimRetryable, Bool.and_eq_true, decide_eq_true_eq] at hretry
      have hlt := hretry.2
      have hone := h.one_le
      split at hlt <;> omega

theorem attemptsBounded_decidedRow (h : AttemptsBounded row)
    (hawaiting : row.status = .awaitingApproval) (d : HoldDecision) (decisionBy : Option String)
    (fingerprint : Val) : AttemptsBounded (decidedRow d decisionBy fingerprint row) :=
  ⟨h.one_le, h.le, fun _ => h.lt (by simp [hawaiting, claimable])⟩

variable {row' : StepRow} {fresh : Option String}

theorem attemptsBounded_rowStep {s : Store} (hstep : RowStep s fresh row row')
    (h : AttemptsBounded row) : AttemptsBounded row' := by
  cases hstep with
  | promote hpending =>
    exact ⟨h.one_le, h.le, fun _ => h.lt (by simp [hpending, claimable])⟩
  | hold hready | refuse hready _ =>
    exact ⟨h.one_le, h.le, fun _ => h.lt (by simp [hready, claimable])⟩
  | claim hready _ =>
    have hlt := h.lt (by simp [hready, claimable])
    exact ⟨h.one_le, hlt, by simp [claimable]⟩
  | settle _ => exact attemptsBounded_settledRow h _ _
  | decide hawaiting => exact attemptsBounded_decidedRow h hawaiting _ _ _
  | resume hstopped =>
    refine ⟨h.one_le, h.le, fun _ => h.lt ?_⟩
    rcases hstopped with hs | hs | hs <;> simp [hs, claimable]

theorem attemptsBounded_rowChange {s : Store} (hchange : RowChange s fresh row row')
    (h : AttemptsBounded row) : AttemptsBounded row' := by
  cases hchange with
  | steps hsteps =>
    exact hsteps.invariant (fun _ _ => attemptsBounded_rowStep) h
  | cancel => exact ⟨h.one_le, h.le, by simp [claimable]⟩

theorem attemptsBounded_freshRow {planId tenantId : String} (h : FreshRow planId tenantId row) :
    AttemptsBounded row := by
  have hone := h.one_le_maxAttempts
  have hzero := h.attemptCount_eq
  exact ⟨hone, by omega, fun _ => by omega⟩

variable {w : World}

theorem attemptsBounded_step {rt : Runtime} {w' : World} {e : Event} (hw : w.WellFormed)
    (h : ∀ row ∈ w.store.steps, AttemptsBounded row) (hstep : Step rt w e w') :
    ∀ row ∈ w'.store.steps, AttemptsBounded row := by
  intro row' hrow'
  obtain ⟨row, hrow, hchange⟩ | ⟨⟨_, _, hfresh⟩, -⟩ := hstep.row_origin hw hrow'
  · exact attemptsBounded_rowChange hchange (h row hrow)
  · exact attemptsBounded_freshRow hfresh

/-! ## Claim tokens -/

/-- No two steps hold the same claim token. -/
def TokensDistinct (s : Store) : Prop :=
  ∀ row ∈ s.steps, ∀ row' ∈ s.steps, ∀ token,
    row.claimToken = some token → row'.claimToken = some token → row = row'

/-- The token has been drawn, and no step holds it any more. -/
def Spent (token : String) (w : World) : Prop :=
  token ∈ w.issued ∧ ∀ row ∈ w.store.steps, row.claimToken ≠ some token

/-- `finalizeClaim` accepted the token. -/
def acceptsToken (token : String) (e : Event) : Bool :=
  match e.op, e.outcome with
  | .finalize _ claimToken _ _ _, .finalized _ => claimToken == token
  | _, _ => false

section Step

variable {rt : Runtime} {w' : World} {e : Event} {token : String} (hw : w.WellFormed)
  (hstep : Step rt w e w')

include hw hstep

theorem freshToken_row (hfresh : e.op.freshToken = some token) (hmem : row' ∈ w'.store.steps)
    (htoken : row'.claimToken = some token) :
    ∃ planId next, w.store.firstReady planId = some next ∧
      (∃ clock actorId holdId claimToken, e.op = .claim clock planId actorId holdId claimToken) ∧
      row'.planStepId = next.planStepId := by
  have hnew : ∀ row ∈ w.store.steps, row.claimToken ≠ some token := by
    intro row hrow hold
    exact hstep.fresh token (Op.freshToken_mem hfresh) (hw.tokenIssued row hrow token hold)
  have heffect := effect_of_exec hw.store hstep.runs
  obtain ⟨op, outcome⟩ := e
  obtain ⟨s', issued⟩ := w'
  cases heffect with
  | threw => exact absurd htoken (hnew row' hmem)
  | @claim clock planId actorId holdId claimToken _ _ hclaim =>
    obtain hold | ⟨row, hpromoted⟩ | ⟨plan, next, admitted, hnext, rfl⟩ :=
      hclaim.origin hw.store hmem
    · exact absurd htoken (hnew row' hold)
    · obtain ⟨hrow, -, -, -, rfl⟩ := hpromoted
      exact absurd htoken (hnew row hrow)
    · exact ⟨planId, next, hnext.next_eq, ⟨clock, actorId, holdId, claimToken, rfl⟩, by simp⟩
  | _ => cases hfresh

/-- A token is fresh or was held before, and not both. -/
theorem token_origin (hmem : row' ∈ w'.store.steps) (htoken : row'.claimToken = some token) :
    e.op.freshToken = some token ∧ token ∉ w.issued ∨
      ∃ row ∈ w.store.steps, row.planStepId = row'.planStepId ∧ row.claimToken = some token := by
  obtain ⟨row, hrow, hchange⟩ | ⟨⟨_, _, hfresh⟩, -⟩ := hstep.row_origin hw hmem
  · obtain hnew | hold := hchange.claimToken htoken
    · exact .inl ⟨hnew, hstep.fresh token (Op.freshToken_mem hnew)⟩
    · exact .inr ⟨row, hrow, by rw [hchange.toStepSpec_eq], hold⟩
  · rw [hfresh.claimToken_eq] at htoken
    cases htoken

theorem tokensDistinct_step (h : TokensDistinct w.store) : TokensDistinct w'.store := by
  intro a ha b hb token htokenA htokenB
  apply (hstep.wellFormed hw).store.row_eq ha hb
  obtain ⟨hnewA, hfresh⟩ | ⟨rowA, hrowA, hidA, hA⟩ := token_origin hw hstep ha htokenA <;>
    obtain ⟨hnewB, hfresh⟩ | ⟨rowB, hrowB, hidB, hB⟩ := token_origin hw hstep hb htokenB
  · obtain ⟨planA, nextA, hnextA, ⟨_, _, _, _, hopA⟩, hidA⟩ :=
      freshToken_row hw hstep hnewA ha htokenA
    obtain ⟨planB, nextB, hnextB, ⟨_, _, _, _, hopB⟩, hidB⟩ :=
      freshToken_row hw hstep hnewB hb htokenB
    rw [hopA] at hopB
    cases hopB
    rw [hnextA] at hnextB
    cases hnextB
    exact hidA.trans hidB.symm
  · exact absurd (hw.tokenIssued rowB hrowB token hB) hfresh
  · exact absurd (hw.tokenIssued rowA hrowA token hA) hfresh
  · rw [← hidA, ← hidB, h rowA hrowA rowB hrowB token hA hB]

/-- An accepted token was on a step. -/
theorem finalizeStep_of_accepts (h : acceptsToken token e = true) :
    ∃ planStepId result error row response,
      FinalizeStep planStepId token result error w.store row (response, w'.store) := by
  have heffect := effect_of_exec hw.store hstep.runs
  obtain ⟨op, outcome⟩ := e
  obtain ⟨s', issued⟩ := w'
  cases heffect with
  | @finalize _ claimToken _ _ _ _ _ _ hfinalize =>
    obtain rfl : claimToken = token := by simpa [acceptsToken] using h
    exact ⟨_, _, _, _, _, hfinalize⟩
  | threw =>
    cases op <;> cases h
  | _ => cases h

theorem spent_of_accepts (hdistinct : TokensDistinct w.store) (h : acceptsToken token e = true) :
    Spent token w' := by
  obtain ⟨_, _, _, row, _, hfinalize⟩ := finalizeStep_of_accepts hw hstep h
  refine ⟨hstep.issued_mono (hw.tokenIssued row hfinalize.mem token hfinalize.claimToken_eq), ?_⟩
  intro row' hrow' htoken
  obtain ⟨hold, hne⟩ | rfl := hfinalize.origin hw.store hrow'
  · exact hne (by rw [hdistinct row' hold row hfinalize.mem token htoken hfinalize.claimToken_eq])
  · cases htoken

theorem spent_step (h : Spent token w) : Spent token w' := by
  refine ⟨hstep.issued_mono h.1, ?_⟩
  intro row' hrow' htoken
  obtain ⟨-, hfresh⟩ | ⟨row, hrow, -, hold⟩ := token_origin hw hstep hrow' htoken
  · exact hfresh h.1
  · exact h.2 row hrow hold

theorem not_accepts_of_spent (h : Spent token w) : acceptsToken token e = false := by
  by_contra haccepts
  obtain ⟨_, _, _, row, _, hfinalize⟩ :=
    finalizeStep_of_accepts hw hstep (by simpa using haccepts)
  exact h.2 row hfinalize.mem hfinalize.claimToken_eq

/-! ## Finished steps -/

/-- The step with this id is in a terminal status for good: its row is, and no
other row can get the id. -/
def Finished (planStepId : String) (w : World) : Prop :=
  planStepId ∈ w.issued ∧ ∀ row ∈ w.store.steps,
    row.planStepId = planStepId → row.status.terminal = true

variable {planStepId : String} (h : Finished planStepId w)

include h

theorem finished_step : Finished planStepId w' := by
  refine ⟨hstep.issued_mono h.1, ?_⟩
  intro row' hrow' hid
  obtain ⟨row, hrow, hchange⟩ | ⟨-, hnew⟩ := hstep.row_origin hw hrow'
  · have hterminal := h.2 row hrow (by rw [← hid, hchange.toStepSpec_eq])
    rwa [hchange.eq_of_terminal (hw.store.tokens row hrow) hterminal]
  · exact absurd h.1 (hstep.fresh _ (hid ▸ hnew))

theorem not_dispatches_of_finished {planId : String}
    (hd : Dispatches planId row e) : row.planStepId ≠ planStepId := by
  intro hid
  obtain ⟨_, _, _, _, _, next, -, rfl, hfrom⟩ := hstep.dispatchedFrom hw hd
  obtain ⟨hmem, -, hready⟩ := firstReady_mem hfrom.next_eq
  obtain hold | ⟨before, hold, -, hpending, -, rfl⟩ := promote_origin hmem
  · simpa [hready, StepStatus.terminal] using h.2 next hold hid
  · simpa [hpending, StepStatus.terminal] using h.2 before hold hid

end Step

/-! ## Runs -/

/-- What the three bounds rest on in every state. -/
structure ClaimsKept (w : World) : Prop where
  wellFormed : w.WellFormed
  attempts : ∀ row ∈ w.store.steps, AttemptsBounded row
  tokens : TokensDistinct w.store

theorem ClaimsKept.step {rt : Runtime} {w' : World} {e : Event} (h : ClaimsKept w)
    (hstep : Step rt w e w') : ClaimsKept w' :=
  ⟨hstep.wellFormed h.wellFormed, attemptsBounded_step h.wellFormed h.attempts hstep,
    tokensDistinct_step h.wellFormed hstep h.tokens⟩

theorem Initial.claimsKept (h : Initial w) : ClaimsKept w := by
  refine ⟨h.wellFormed, ?_, ?_⟩
  · intro row hrow
    simp [h.steps] at hrow
  · intro row hrow
    simp [h.steps] at hrow

/-- In every run, of any number of workers: no step exceeds its attempts, no
claim token is accepted twice, and a step that is completed or failed is never
handed out again. -/
theorem attempts_bounded_and_claims_settled_once (rt : Runtime)
    {w₀ w₁ w₂ : World} {past future : List Event} (hinit : Initial w₀)
    (hpast : Run (Step rt) w₀ past w₁) (hfuture : Run (Step rt) w₁ future w₂) :
    (∀ row ∈ w₂.store.steps, row.attemptCount ≤ row.maxAttempts) ∧
    (∀ token, (past ++ future).countP (acceptsToken token) ≤ 1) ∧
    (∀ row ∈ w₁.store.steps, row.status = .completed ∨ row.status = .failed →
      ∀ e ∈ future, ∀ planId dispatched, Dispatches planId dispatched e →
        dispatched.planStepId ≠ row.planStepId) := by
  have hkeep : ∀ v e v', ClaimsKept v → Step rt v e v' → ClaimsKept v' :=
    fun v e v' hv hstep => hv.step hstep
  have hrun := hpast.append hfuture
  have hmiddle := hpast.invariant hkeep hinit.claimsKept
  refine ⟨?_, ?_, ?_⟩
  · intro row hrow
    exact ((hfuture.invariant hkeep hmiddle).attempts row hrow).le
  · intro token
    refine (hrun.strengthen hkeep hinit.claimsKept).countP_le_one (Q := Spent token) ?_ ?_ ?_
    · exact fun v e v' hstep h =>
        spent_of_accepts hstep.2.wellFormed hstep.1 hstep.2.tokens h
    · exact fun v e v' h hstep => spent_step hstep.2.wellFormed hstep.1 h
    · exact fun v e v' h hstep =>
        not_accepts_of_spent hstep.2.wellFormed hstep.1 h
  · intro row hrow hstatus e he planId dispatched hd
    have hfinished : Finished row.planStepId w₁ := by
      refine ⟨hmiddle.wellFormed.stepIssued row hrow, ?_⟩
      intro other hother hid
      rw [hmiddle.wellFormed.store.row_eq hother hrow hid]
      rcases hstatus with h | h <;> simp [h, StepStatus.terminal]
    obtain ⟨before, after, v, v', -, hbefore, hstep, -⟩ :=
      hfuture.exists_step_of_mem he
    have hv : v.WellFormed ∧ Finished row.planStepId v :=
      hbefore.invariant (I := fun u => u.WellFormed ∧ Finished row.planStepId u)
        (fun u e u' hu hstep => ⟨hstep.wellFormed hu.1,
          finished_step hu.1 hstep hu.2⟩) ⟨hmiddle.wellFormed, hfinished⟩
    exact not_dispatches_of_finished hv.1 hstep hv.2 hd

theorem attempts_bounded_and_claims_settled_once_gated :
    (∀ row ∈ (gatedWorld.play plainRuntime passTheGate).store.steps,
      row.attemptCount ≤ row.maxAttempts) ∧
    ∀ token, (gatedWorld.events plainRuntime passTheGate).countP (acceptsToken token) ≤ 1 := by
  have hrun := (run_play plays_passTheGate).of_restrict
  obtain ⟨hattempts, htokens, -⟩ := attempts_bounded_and_claims_settled_once
    plainRuntime initial_draftWorld (.single step_gatedWorld) hrun
  refine ⟨hattempts, fun token => ?_⟩
  have hcount := htokens token
  rw [List.countP_append] at hcount
  omega

end GrowthOs.Execution
