import GrowthOs.Execution.DependencyOrder

/-!
# One claimed step at a time

`claimNextStep` hands out the first ready step, whatever the other steps of the
plan are doing.  Two claimed steps never depend on each other, not even through
other steps, so a plan whose dependencies order its steps is executed one
claimed step at a time.  Steps that do not depend on each other are ready
together, and two workers claim both.
-/

namespace GrowthOs.Execution

open Js SequentialPlan Transition

/-! ## Where a claimed row comes from -/

variable {planId : String} {row' row : StepRow}

theorem not_claimed_of_rowStep {s : Store} (h : RowStep s none row row') :
    row'.status ≠ .claimed := by
  cases h with
  | claim _ hfresh => cases hfresh
  | refuse _ hstatus => rcases hstatus with rfl | rfl <;> simp
  | settle => exact settledStatus_ne_claimed _ _ _
  | decide => exact stepStatus_ne_claimed _ _
  | _ => simp

/-- A claimed row was claimed before, or a claim on its plan has just handed it
out. -/
theorem claimed_origin {rt : Runtime} {w w' : World} {e : Event} (hw : w.WellFormed)
    (hstep : Step rt w e w') (hop : e.op.executes = true)
    (hmem : row' ∈ stepsOf w'.store planId) (hclaimed : row'.status = .claimed) :
    row' ∈ stepsOf w.store planId ∨ ∃ clock actorId holdId claimToken next,
        e.op = .claim clock planId actorId holdId claimToken ∧
        WouldDispatch rt clock planId actorId w.store next ∧
        row' = admittedRow claimToken (.dispatch none) next := by
  refine (hstep.row_source hw hop hmem).imp_left ?_
  rintro ⟨row, hrow, hsteps⟩
  cases hsteps with
  | refl => exact hrow
  | tail _ hlast => exact absurd hclaimed (not_claimed_of_rowStep hlast)

/-! ## Claimed steps are independent -/

/-- One of the two steps depends on the other, possibly through other steps. -/
def Linked (s : Store) (planId key key' : String) : Prop :=
  Relation.TransGen (DependsOn s planId) key key' ∨ Relation.TransGen (DependsOn s planId) key' key

/-- The dependencies of the step are completed, and the step is not. -/
structure Due (s : Store) (planId : String) (row : StepRow) : Prop where
  mem : row ∈ stepsOf s planId
  incomplete : row.status ≠ .completed
  deps : ∀ key ∈ row.dependsOn, s.Done planId key

section Due

variable {s : Store} (hs : s.WellFormed) (hmet : DependenciesMet s planId)

include hmet

theorem due_of_begun (hrow : row ∈ stepsOf s planId) (hbegun : row.status ≠ .pending)
    (hincomplete : row.status ≠ .completed) : Due s planId row :=
  ⟨hrow, hincomplete, hmet row hrow hbegun⟩

include hs

theorem not_linked_of_due (h : Due s planId row) (h' : Due s planId row') :
    ¬Linked s planId row.stepKey row'.stepKey := by
  have hopen : ∀ a b, Due s planId a → Due s planId b →
      ¬Relation.TransGen (DependsOn s planId) a.stepKey b.stepKey := by
    intro a b ha hb hchain
    obtain ⟨found, hfound, hplan, hkey, hcompleted⟩ :=
      done_of_chain hs hmet ha.mem ha.deps hchain
    obtain ⟨hmem, hplanB⟩ := mem_stepsOf.mp hb.mem
    obtain rfl := hs.row_eq_of_key hfound hmem (hplan.trans hplanB.symm) hkey
    exact hb.incomplete hcompleted
  rintro (hchain | hchain)
  · exact hopen row row' h h' hchain
  · exact hopen row' row h' h hchain

end Due

/-- The dependencies order the plan: of any two steps, one depends on the
other. -/
def Ordered (s : Store) (planId : String) : Prop :=
  ∀ row ∈ stepsOf s planId, ∀ row' ∈ stepsOf s planId,
    row ≠ row' → Linked s planId row.stepKey row'.stepKey

/-- An ordered plan has one step at a time whose turn it is. -/
theorem Ordered.eq_of_due {s : Store} (hs : s.WellFormed) (hmet : DependenciesMet s planId)
    (hordered : Ordered s planId) (h : Due s planId row) (h' : Due s planId row') : row = row' :=
  by_contra fun hne => not_linked_of_due hs hmet h h' (hordered row h.mem row' h'.mem hne)

/-! ## Runs -/

/-- At most one step of the plan is claimed. -/
def SingleClaim (s : Store) (planId : String) : Prop :=
  ∀ row ∈ stepsOf s planId, ∀ row' ∈ stepsOf s planId,
    row.status = .claimed → row'.status = .claimed → row = row'

/-- A claim that would hand out a step is made only while every claimed step of
the plan is linked to it; in particular, while none is claimed. -/
def ClaimsInTurn (rt : Runtime) (planId : String) (w : World) (e : Event) : Prop :=
  match e.op with
  | .claim clock target actorId _ _ => target = planId →
      ∀ next, WouldDispatch rt clock planId actorId w.store next →
        ∀ row ∈ stepsOf w.store planId, row.status = .claimed →
          Linked w.store planId next.stepKey row.stepKey
  | _ => True

/-- On a plan whose dependencies order its steps, every claim is in turn. -/
theorem claimsInTurn_of_ordered {rt : Runtime} {w : World} (hordered : Ordered w.store planId)
    (e : Event) : ClaimsInTurn rt planId w e := by
  obtain ⟨op, outcome⟩ := e
  cases op with
  | claim =>
    rintro rfl next ⟨_, _, _, _, hnext, _⟩ row hrow hclaimed
    obtain ⟨source, hsource, hspec, hstatus⟩ := firstReady_source hnext
    obtain ⟨-, hplan, -⟩ := firstReady_mem hnext
    have hne : source ≠ row := by
      rintro rfl
      simp [hclaimed] at hstatus
    rw [← hspec]
    exact hordered source (mem_stepsOf.mpr ⟨hsource, by rw [hspec, hplan]⟩) row hrow hne
  | _ => trivial

/-- What one claimed step at a time rests on. -/
structure InTurn (planId : String) (w : World) : Prop where
  wellFormed : w.WellFormed
  met : DependenciesMet w.store planId
  single : SingleClaim w.store planId

section Step

variable {rt : Runtime} {w w' : World} {e : Event}

theorem linked_step (hw : w.WellFormed) (hstep : Step rt w e w')
    (hop : e.op.executes = true) {key key' : String}
    (h : Linked w.store planId key key') : Linked w'.store planId key key' :=
  have hkeep := fun a b (hdep : DependsOn w.store planId a b) =>
    dependsOn_step hw hstep hop hdep
  h.imp (Relation.TransGen.mono hkeep _ _) (Relation.TransGen.mono hkeep _ _)

theorem InTurn.step (h : InTurn planId w) (hstep : Step rt w e w')
    (hop : e.op.executes = true) (hturn : ClaimsInTurn rt planId w e) : InTurn planId w' := by
  have hw' := hstep.wellFormed h.wellFormed
  have hmet' := dependenciesMet_step h.wellFormed h.met hstep hop
  -- A step that is handed out and a step claimed before would be linked.
  have hnew : ∀ a ∈ stepsOf w'.store planId, a.status = .claimed →
      ∀ b ∈ stepsOf w'.store planId, b.status = .claimed →
        b ∈ stepsOf w.store planId → ∀ clock actorId holdId claimToken next,
          e.op = .claim clock planId actorId holdId claimToken →
            WouldDispatch rt clock planId actorId w.store next →
              a ≠ admittedRow claimToken (.dispatch none) next := by
    rintro a ha hclaimedA b hb hclaimedB holdB clock actorId holdId claimToken
      next hop' hwould rfl
    rw [ClaimsInTurn, hop'] at hturn
    have hdue : ∀ row ∈ stepsOf w'.store planId, row.status = .claimed → Due w'.store planId row :=
      fun row hrow hclaimed => due_of_begun hmet' hrow (by simp [hclaimed]) (by simp [hclaimed])
    exact not_linked_of_due hw'.store hmet' (hdue _ ha hclaimedA) (hdue _ hb hclaimedB)
      (linked_step h.wellFormed hstep hop (hturn rfl next hwould b holdB hclaimedB))
  refine ⟨hw', hmet', ?_⟩
  intro a ha b hb hclaimedA hclaimedB
  obtain holdA | ⟨_, _, _, _, nextA, hopA, hwouldA, hrowA⟩ :=
    claimed_origin h.wellFormed hstep hop ha hclaimedA
  · obtain holdB | ⟨_, _, _, _, nextB, hopB, hwouldB, hrowB⟩ :=
      claimed_origin h.wellFormed hstep hop hb hclaimedB
    · exact h.single a holdA b holdB hclaimedA hclaimedB
    · exact absurd hrowB (hnew b hb hclaimedB a ha hclaimedA holdA _ _ _ _ nextB hopB hwouldB)
  · obtain holdB | ⟨_, _, _, _, nextB, hopB, hwouldB, rfl⟩ :=
      claimed_origin h.wellFormed hstep hop hb hclaimedB
    · exact absurd hrowA (hnew a ha hclaimedA b hb hclaimedB holdB _ _ _ _ nextA hopA hwouldA)
    · cases hopA.symm.trans hopB
      obtain ⟨_, _, _, _, hnextA, -⟩ := hwouldA
      obtain ⟨_, _, _, _, hnextB, -⟩ := hwouldB
      cases hnextA.symm.trans hnextB
      exact hrowA

end Step

/-- In every run from a compiled plan in which a step is handed out only while
the claimed steps are linked to it, at most one step is claimed at any time. -/
theorem one_claimed_step_at_a_time (rt : Runtime) {w w₀ w₁ : World}
    {uuids : Nat → String} {planId tenantId : String} {steps : Val}
    {actorId : Option String} {response : CompileResponse}
    {history : List Event} (hreach : Reachable rt w)
    (hcompile : Step rt w (compiledEvent uuids planId tenantId steps actorId response) w₀)
    (hrun : Run (restrict (Step rt) fun v e =>
      e.op.executes = true ∧ ClaimsInTurn rt planId v e) w₀ history w₁) :
    SingleClaim w₁.store planId := by
  have hw₀ := hcompile.wellFormed hreach.wellFormed
  obtain ⟨stored, hstored⟩ := hcompile.compiled hreach.wellFormed
  have hstart : InTurn planId w₀ := by
    refine ⟨hw₀, dependenciesMet_compiled hstored, ?_⟩
    intro row hrow _ _ hclaimed _
    rw [stepsOf_compile hstored] at hrow
    rcases (hstored.fresh row hrow).status_cases with hs | ⟨hs, -⟩ <;>
      simp [hs] at hclaimed
  exact (hrun.invariant (I := InTurn planId)
    (fun v e v' hv hstep => hv.step hstep.1 hstep.2.1 hstep.2.2) hstart).single

theorem one_claimed_step_at_a_time_gated :
    SingleClaim (gatedWorld.play plainRuntime passTheGate).store "plan" := by
  have hfree : ∀ {v : World} {holdId token : String},
      (∀ row ∈ stepsOf v.store "plan", row.status ≠ .claimed) → ClaimsInTurn plainRuntime "plan" v
          (v.event plainRuntime (claimOp holdId token)) := by
    intro v _ _ h _ _ _ row hrow hclaimed
    exact absurd hclaimed (h row hrow)
  have hplays : gatedWorld.Plays plainRuntime
      (fun v e => e.op.executes = true ∧ ClaimsInTurn plainRuntime "plan" v e)
      passTheGate :=
    ⟨⟨by decide, rfl, hfree (by decide)⟩, ⟨by decide, rfl, trivial⟩,
      ⟨by decide, rfl, hfree (by decide)⟩, ⟨by decide, rfl, trivial⟩,
      ⟨by decide, rfl, hfree (by decide)⟩, trivial⟩
  exact one_claimed_step_at_a_time plainRuntime
    (reachable_draftWorld plainRuntime) step_gatedWorld (run_play hplays)

/-- Two workers claim one after the other and each holds a step. -/
theorem both_steps_claimed :
    ∃ response history w, Reachable plainRuntime draftWorld ∧
      Step plainRuntime draftWorld (compiledEvent (numbered "step") "plan"
        "tenant" (.arr independentSteps) none response) independentWorld ∧
      Run (restrict (Step plainRuntime) fun _ e => e.op.executes = true)
        independentWorld history w ∧
      ¬SingleClaim w.store "plan" := by
  obtain ⟨response, hcompiled⟩ : ∃ response, draftWorld.event plainRuntime
      (compileOp "step" independentSteps) = compiledEvent (numbered "step") "plan"
        "tenant" (.arr independentSteps) none response := ⟨_, rfl⟩
  have hcompile := step_independentWorld
  rw [hcompiled] at hcompile
  have hplays : independentWorld.Plays plainRuntime (fun _ e => e.op.executes = true)
      [claimOp "hold1" "token1", claimOp "hold2" "token2"] := by
    decide
  refine ⟨response, _, _, reachable_draftWorld plainRuntime, hcompile, run_play hplays, ?_⟩
  obtain ⟨row, hrow, row', hrow', hclaimed, hclaimed', hne⟩ :
      ∃ row ∈ stepsOf (independentWorld.play plainRuntime
        [claimOp "hold1" "token1", claimOp "hold2" "token2"]).store "plan",
      ∃ row' ∈ stepsOf (independentWorld.play plainRuntime
        [claimOp "hold1" "token1", claimOp "hold2" "token2"]).store "plan",
        row.status = .claimed ∧ row'.status = .claimed ∧ row.planStepId ≠ row'.planStepId := by
    decide
  intro hsingle
  exact hne (by rw [hsingle row hrow row' hrow' hclaimed hclaimed'])

end GrowthOs.Execution
