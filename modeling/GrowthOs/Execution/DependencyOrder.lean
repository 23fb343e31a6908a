import GrowthOs.Execution.Plan

/-!
# Steps run in dependency order

From its compilation on, a step leaves the status `pending` only when all the
steps it depends on are completed, and a completed step stays completed.  So
whatever a claimed step depends on, directly or not, was completed before, and
the claims of a run are a linear extension of the dependencies.
-/

namespace GrowthOs.Execution

open Js SequentialPlan Transition

/-! ## Single rows -/

variable {s : Store} {row row' : StepRow} {fresh : Option String}

/-- A completed step is final. -/
theorem completed_rowSteps (h : RowSteps s fresh row row') (htoken : TokenWhileClaimed row)
    (hrow : row.status = .completed) : row'.status = .completed := by
  rw [RowChange.eq_of_terminal (.steps h) htoken (by simp [hrow, StepStatus.terminal]), hrow]

/-- A step leaves `pending` only when its dependencies are completed. -/
theorem pending_rowSteps (h : RowSteps s fresh row row') (htoken : TokenWhileClaimed row)
    (hrow : row.status = .pending) :
    row'.status = .pending ∨ ∀ key ∈ row.dependsOn, s.Done row.planId key := by
  refine (h.invariant (P := fun r => r.toStepSpec = row.toStepSpec ∧
    TokenWhileClaimed r ∧ (r.status = .pending ∨ ∀ key ∈ row.dependsOn, s.Done row.planId key)) ?_
    ⟨rfl, htoken, .inl hrow⟩).2.2
  rintro r r' hstep ⟨hspec, hr, hdone⟩
  refine ⟨hstep.toStepSpec_eq.trans hspec, tokenWhileClaimed_rowStep hstep hr, ?_⟩
  rcases hdone with hpending | hdone
  · cases hstep with
    | promote _ hdeps => exact .inr (hspec ▸ hdeps)
    | hold hready | refuse hready _ | claim hready _ => simp [hready] at hpending
    | settle hsome => simp [TokenWhileClaimed, hsome, hpending] at hr
    | decide hawaiting => simp [hawaiting] at hpending
    | resume hstopped => simp [hpending] at hstopped
  · exact .inr hdone

/-! ## The invariant -/

/-- Every step that is not pending has its dependencies completed. -/
def DependenciesMet (s : Store) (planId : String) : Prop :=
  ∀ row ∈ stepsOf s planId, row.status ≠ .pending → ∀ key ∈ row.dependsOn, s.Done planId key

section Step

variable {rt : Runtime} {planId : String} {w w' : World} {e : Event}

theorem done_step (hw : w.WellFormed) (hstep : Step rt w e w')
    (hop : e.op.executes = true) {key : String}
    (h : w.store.Done planId key) : w'.store.Done planId key := by
  obtain ⟨row, hrow, rfl, rfl, hcompleted⟩ := h
  obtain ⟨row', hrow', hsteps⟩ := (hstep.rowSteps hw hop).image hrow
  have hspec := hsteps.toStepSpec_eq
  exact ⟨row', hrow', by rw [hspec], by rw [hspec],
    completed_rowSteps hsteps (hw.store.tokens row hrow) hcompleted⟩

theorem dependenciesMet_step (hw : w.WellFormed)
    (h : DependenciesMet w.store planId) (hstep : Step rt w e w')
    (hop : e.op.executes = true) : DependenciesMet w'.store planId := by
  intro row' hrow' hstatus key hkey
  obtain ⟨hmem', hplan'⟩ := mem_stepsOf.mp hrow'
  obtain ⟨row, hrow, hsteps⟩ := (hstep.rowSteps hw hop).origin hmem'
  have hspec := hsteps.toStepSpec_eq
  have hplan : row.planId = planId := by rw [← hplan', hspec]
  rw [hspec] at hkey
  apply done_step hw hstep hop
  by_cases hpending : row.status = .pending
  · have hdone := (pending_rowSteps hsteps (hw.store.tokens row hrow) hpending).resolve_left hstatus
    exact hplan ▸ hdone key hkey
  · exact h row (mem_stepsOf.mpr ⟨hrow, hplan⟩) hpending key hkey

end Step

variable {planId key : String}

theorem dependenciesMet_compiled {rt : Runtime} {uuids : Nat → String} {tenantId : String}
    {steps : Val} {s' : Store} {stored : List StepRow} {response : CompileResponse}
    (h : CompileStep rt uuids planId tenantId steps s stored (response, s')) :
    DependenciesMet s' planId := by
  intro row hrow hstatus key hkey
  rw [stepsOf_compile h] at hrow
  rcases (h.fresh row hrow).status_cases with hpending | ⟨-, hnone⟩
  · exact absurd hpending hstatus
  · rw [hnone] at hkey
    cases hkey

/-! ## Chains of dependencies -/

/-- The step `key` names the step `key'` in its `depends_on`. -/
def DependsOn (s : Store) (planId key key' : String) : Prop :=
  ∃ row ∈ stepsOf s planId, row.stepKey = key ∧ key' ∈ row.dependsOn

theorem dependsOn_step {rt : Runtime} {w w' : World} {e : Event} (hw : w.WellFormed)
    (hstep : Step rt w e w') (hop : e.op.executes = true) {key' : String}
    (h : DependsOn w.store planId key key') : DependsOn w'.store planId key key' := by
  obtain ⟨row, hrow, rfl, hkey⟩ := h
  obtain ⟨hmem, hplan⟩ := mem_stepsOf.mp hrow
  obtain ⟨row', hmem', hsteps⟩ := (hstep.rowSteps hw hop).image hmem
  have hspec := hsteps.toStepSpec_eq
  refine ⟨row', mem_stepsOf.mpr ⟨hmem', ?_⟩, ?_, ?_⟩
  · rw [hspec, hplan]
  · rw [hspec]
  · rwa [hspec]

/-- Once the dependencies of a step are completed, so is whatever it depends on
through others. -/
theorem done_of_chain (hs : s.WellFormed) (hmet : DependenciesMet s planId)
    (hrow : row ∈ stepsOf s planId) (hdeps : ∀ key ∈ row.dependsOn, s.Done planId key)
    (h : Relation.TransGen (DependsOn s planId) row.stepKey key) : s.Done planId key := by
  have hedge : ∀ {r : StepRow} {next : String}, r ∈ stepsOf s planId →
      (∀ key ∈ r.dependsOn, s.Done planId key) → DependsOn s planId r.stepKey next →
        s.Done planId next := by
    rintro r next hr hdone ⟨other, hother, hkey, hdep⟩
    obtain rfl : other = r := by
      refine hs.row_eq_of_key (mem_stepsOf.mp hother).1 (mem_stepsOf.mp hr).1 ?_ hkey
      rw [(mem_stepsOf.mp hother).2, (mem_stepsOf.mp hr).2]
    exact hdone next hdep
  induction h with
  | single hdep => exact hedge hrow hdeps hdep
  | tail _ hdep ih =>
    obtain ⟨done, hmem, hplan, rfl, hcompleted⟩ := ih
    have hdone := mem_stepsOf.mpr ⟨hmem, hplan⟩
    exact hedge hdone (hmet done hdone (by simp [hcompleted])) hdep

/-- The next step of a claim is not completed. -/
theorem not_done_of_firstReady (hs : s.WellFormed) {next : StepRow}
    (h : s.firstReady planId = some next) : ¬s.Done planId next.stepKey := by
  rintro ⟨row, hrow, hplan, hkey, hcompleted⟩
  obtain ⟨-, hnextPlan, -⟩ := firstReady_mem h
  obtain ⟨source, hsource, hspec, hstatus⟩ := firstReady_source h
  obtain rfl := hs.row_eq_of_key hrow hsource
    (by rw [hplan, hspec, hnextPlan]) (by rw [hkey, hspec])
  rcases hstatus with hs | hs <;> simp [hs] at hcompleted

/-! ## Runs -/

/-- If both events hand out a step of the plan, the step of the first does not
depend on the step of the second. -/
def InOrder (s : Store) (planId : String) (first second : Event) : Prop :=
  ∀ row row', Dispatches planId row first → Dispatches planId row' second →
    ¬Relation.TransGen (DependsOn s planId) row.stepKey row'.stepKey

/-- What the order of claims rests on in every state: `s₀` is the store the
plan was compiled in. -/
structure OrderKept (s₀ : Store) (planId : String) (w : World) : Prop where
  wellFormed : w.WellFormed
  met : DependenciesMet w.store planId
  kept : ∀ key key', DependsOn s₀ planId key key' → DependsOn w.store planId key key'

section Run

variable {rt : Runtime} {s₀ : Store} {w w' : World} {e : Event} {history : List Event}

theorem OrderKept.step (h : OrderKept s₀ planId w) (hstep : Step rt w e w')
    (hop : e.op.executes = true) : OrderKept s₀ planId w' where
  wellFormed := hstep.wellFormed h.wellFormed
  met := dependenciesMet_step h.wellFormed h.met hstep hop
  kept key key' hdep :=
    dependsOn_step h.wellFormed hstep hop (h.kept key key' hdep)

/-- What a dispatched step depends on is completed when it is dispatched. -/
theorem OrderKept.dispatch (h : OrderKept s₀ planId w) (hstep : Step rt w e w')
    (hop : e.op.executes = true) (hd : Dispatches planId row e)
    (hchain : Relation.TransGen (DependsOn s₀ planId) row.stepKey key) :
    w'.store.Done planId key := by
  have h' := h.step hstep hop
  obtain ⟨_, _, _, _, _, next, -, rfl, hfrom⟩ := hstep.dispatchedFrom h.wellFormed hd
  exact done_of_chain h'.wellFormed.store h'.met hfrom.mem
    (h'.met _ hfrom.mem (by simp [admittedRow])) (Relation.TransGen.mono h'.kept _ _ hchain)

theorem OrderKept.inOrder (h : OrderKept s₀ planId w)
    (hrun : Run (restrict (Step rt) fun _ e => e.op.executes = true) w history w') :
    history.Pairwise (InOrder s₀ planId) := by
  have hstrong := hrun.strengthen (I := OrderKept s₀ planId)
    (fun v e v' hv hstep => hv.step hstep.1 hstep.2) h
  refine hstrong.pairwise (Q := fun e v => ∀ row, Dispatches planId row e → ∀ key,
      Relation.TransGen (DependsOn s₀ planId) row.stepKey key → v.store.Done planId key) ?_ ?_ ?_
  · intro v e v' hstep row hd key hchain
    exact hstep.2.dispatch hstep.1.1 hstep.1.2 hd hchain
  · intro first v e v' hdone hstep row hd key hchain
    exact done_step hstep.2.wellFormed hstep.1.1 hstep.1.2 (hdone row hd key hchain)
  · intro first v e v' hdone hstep row row' hd hd' hchain
    obtain ⟨_, _, _, _, _, next, -, rfl, hfrom⟩ :=
      hstep.1.1.dispatchedFrom hstep.2.wellFormed hd'
    exact not_done_of_firstReady hstep.2.wellFormed.store hfrom.next_eq (hdone row hd _ hchain)

/-- Completed is final along a run. -/
theorem completed_run (hw : w.WellFormed)
    (hrun : Run (restrict (Step rt) fun _ e => e.op.executes = true) w history w')
    (hrow : row ∈ stepsOf w.store planId) (hcompleted : row.status = .completed) :
    ∃ row' ∈ stepsOf w'.store planId,
      row'.toStepSpec = row.toStepSpec ∧ row'.status = .completed := by
  refine invariant_of_run (I := fun v => ∃ row' ∈ stepsOf v.store planId,
    row'.toStepSpec = row.toStepSpec ∧ row'.status = .completed) ?_ hrun hw
    ⟨row, hrow, rfl, hcompleted⟩
  rintro v e v' hv ⟨found, hfound, hspec, hstatus⟩ hstep hop
  obtain ⟨hmem, hplan⟩ := mem_stepsOf.mp hfound
  obtain ⟨found', hmem', hsteps⟩ := (hstep.rowSteps hv hop).image hmem
  have hsame := hsteps.toStepSpec_eq
  exact ⟨found', mem_stepsOf.mpr ⟨hmem', by rw [hsame, hplan]⟩, hsame.trans hspec,
    completed_rowSteps hsteps (hv.store.tokens found hmem) hstatus⟩

end Run

/-- From the compilation of a plan on, in every run of claims, finalisations,
decisions and resumptions: a step that is not pending has its dependencies
completed, a completed step stays completed, and the order of the claims is a
linear extension of the dependencies. -/
theorem claims_extend_dependencies (rt : Runtime) {w w₀ w₁ w₂ : World}
    {uuids : Nat → String} {planId tenantId : String} {steps : Val}
    {actorId : Option String} {response : CompileResponse}
    {past future : List Event} (hreach : Reachable rt w)
    (hcompile : Step rt w (compiledEvent uuids planId tenantId steps actorId response) w₀)
    (hpast : Run (restrict (Step rt) fun _ e => e.op.executes = true) w₀ past w₁)
    (hfuture : Run (restrict (Step rt) fun _ e => e.op.executes = true) w₁ future w₂) :
    (∀ row ∈ stepsOf w₂.store planId, row.status ≠ .pending →
      ∀ key ∈ row.dependsOn, w₂.store.Done planId key) ∧
    (∀ row ∈ stepsOf w₁.store planId, row.status = .completed → ∃ row' ∈ stepsOf w₂.store planId,
        row'.toStepSpec = row.toStepSpec ∧ row'.status = .completed) ∧
    (past ++ future).Pairwise (InOrder w₀.store planId) := by
  obtain ⟨stored, hstored⟩ := hcompile.compiled hreach.wellFormed
  have hw₀ := hcompile.wellFormed hreach.wellFormed
  have hstart : OrderKept w₀.store planId w₀ :=
    ⟨hw₀, dependenciesMet_compiled hstored, fun _ _ hdep => hdep⟩
  have hrun := hpast.append hfuture
  have hend := hrun.invariant (I := OrderKept w₀.store planId)
    (fun v e v' hv hstep => hv.step hstep.1 hstep.2) hstart
  have hw₁ := wellFormed_of_run hpast.of_restrict hw₀
  exact ⟨hend.met, fun row hrow hcompleted =>
    completed_run hw₁ hfuture hrow hcompleted, hstart.inOrder hrun⟩

theorem claims_extend_dependencies_gated :
    (gatedWorld.events plainRuntime passTheGate).Pairwise (InOrder gatedWorld.store "plan") := by
  have horder := claims_extend_dependencies plainRuntime
    (reachable_draftWorld plainRuntime) step_gatedWorld
    (run_play plays_passTheGate) (.nil _)
  simpa using horder.2.2

end GrowthOs.Execution
