import GrowthOs.ManagedExecution.Consistency

/-!
# Final statuses are final

`assertManagedExecutionTransition` has no transition out of `completed`, `failed` and
`cancelled`, but the approval decision, the update of a step to `failed` and the
finalization of a rollback write the status of the run without asking it.  They find
nothing to act on as long as a run does not end with an open hold or an active step.
-/

namespace GrowthOs.ManagedExecution

open Js Throwing

/-- The operations that may take a run out of a final status. -/
def Reopens : Operation → Prop
  | .retry .. => True
  | .escalate .. => True
  | .rollback .. => True
  | _ => False

/-- The run does not end with an open hold or an active step: it is not set to
`cancelled` under an open hold, not rejected while a step is active, and a rollback is
not finalized under an open hold or on a run that is completed or failed. -/
def EndsClean (s : ManagedRun) : Operation → Prop
  | .syncRun _ _ nextStatus =>
    ∃ text, nextStatus = .str text ∧ (text = "cancelled" → openHolds s = [])
  | .decide _ _ decision =>
    Decision.ofVal decision = some .rejected → activeSteps s none = []
  | .finalizeRollback .. =>
    openHolds s = [] ∧ s.run.status ≠ .completed ∧ s.run.status ≠ .failed
  | _ => True

def CleanStep (env : Platform) : ManagedRun → Operation → ManagedRun → Prop :=
  Transition.restrict (RunStep env) EndsClean

/-- A final run has nothing left to decide or to do. -/
structure Settled (s : ManagedRun) : Prop where
  consistent : Consistent s
  decided : s.run.status.isTerminal = true → AllDecided s.holds
  inactive : s.run.status.isTerminal = true → NoneActive s.steps

variable {s : ManagedRun} {operation : Operation}

theorem EndsClean.givenAsString (h : EndsClean s operation) : GivenAsString operation := by
  cases operation with
  | syncRun o runId nextStatus =>
    obtain ⟨text, rfl, _⟩ := h
    exact ⟨text, rfl⟩
  | _ => trivial

variable {next current : RunStatus} {env : Platform}

theorem transitionAllowed_of_terminal (h : current.isTerminal = true) :
    transitionAllowed current next = false := by
  cases current <;> first | rfl | cases h

/-- Only a running run completes or fails by a status update. -/
theorem running_of_transition (h : transitionAllowed current next = true)
    (hterminal : next.isTerminal = true) : next = .cancelled ∨ current = .running := by
  cases current <;> cases next <;> simp_all [transitionAllowed, RunStatus.isTerminal]

/-- A status update that ends the run leaves no hold open. -/
theorem Settled.decided_runSynced {text given : String} (h : Settled s)
    (hgiven : ((Val.str text).or (.str "")).toStr = .ok given)
    (hallowed : assertManagedExecutionTransition s.run.status given = .ok next)
    (hclean : text = "cancelled" → openHolds s = []) (hterminal : next.isTerminal = true) :
    AllDecided s.holds := by
  obtain rfl := toStr_or_str hgiven
  obtain ⟨htext, hsame | htransition⟩ := assertTransition_ok hallowed
  · rw [← hsame] at hterminal
    exact h.decided hterminal
  · obtain rfl | hrunning := running_of_transition htransition hterminal
    · exact allDecided_of_openHolds (hclean htext.symm)
    · intro hold hmem hopen
      exact (h.consistent.open_stops hold hmem hopen).1 hrunning

theorem Settled.step {s' : ManagedRun} (h : Settled s) (heffect : Effect env s operation s')
    (hclean : EndsClean s operation) : Settled s' := by
  have hconsistent := h.consistent.step heffect hclean.givenAsString
  -- a run that goes on needs nothing more than its consistency
  have hgoesOn : ∀ {status}, s'.run.status = status → status.isTerminal = false → Settled s' := by
    rintro _ rfl hstatus
    exact ⟨hconsistent, by simp [hstatus], by simp [hstatus]⟩
  cases heffect with
  | unchanged => exact h
  | stepCreated heligible hinserts =>
    apply hgoesOn hinserts.writes.status_eq
    obtain hstatus | hstatus := (eligibility_ok heligible).1 <;> rw [hstatus] <;> rfl
  | decided hfound hsettles hrejects hwrites =>
    cases hsettles with
    | expired | approved => exact hgoesOn hwrites.status_eq rfl
    | rejected =>
      refine ⟨hconsistent, fun _ => ?_, fun _ => ?_⟩
      · rw [hwrites.holds_eq]
        exact hfound.decided h.consistent.one_open nofun
      · rw [hwrites.steps_eq]
        exact noneActive_of_activeSteps (hclean (hrejects rfl))
  | holdEscalated hfound hadded hwrites => exact hgoesOn hwrites.status_eq rfl
  | runSynced hgiven hallowed hrunning hterminal hwrites =>
    obtain ⟨text, rfl, hcancels⟩ := hclean
    obtain ⟨_, hends, _⟩ := syncRun_string hgiven hallowed hrunning hterminal
    refine ⟨hconsistent, fun hfinal => ?_, fun hfinal => ?_⟩
    · rw [hwrites.status_eq] at hfinal
      rw [hwrites.holds_eq]
      exact h.decided_runSynced hgiven hallowed hcancels hfinal
    · rw [hwrites.status_eq] at hfinal
      rw [hwrites.steps_eq]
      exact hends hfinal
  | @stepSynced o runId stepRunId nextStatus _ step next hfound hnext hallowed hstart hwrites =>
    apply hgoesOn hwrites.status_eq
    -- the step was active, so the run was not final
    have hactive := stepTransitionAllowed_active hallowed
    have hstatus : s.run.status.isTerminal = false := by
      by_contra hfinal
      rw [Bool.not_eq_false] at hfinal
      rw [h.inactive hfinal step hfound.mem] at hactive
      cases hactive
    cases next <;> first | rfl | exact hstatus
  | retried hfound hfailed hstatus hopen hothers hwrites
  | escalated hstatus hrunning hopen hadded hwrites => exact hgoesOn hwrites.status_eq rfl
  | cancelled hstatus hwrites =>
    refine ⟨hconsistent, fun _ => ?_, fun _ => ?_⟩
    · rw [hwrites.holds_eq]
      exact allDecided_cancelledRun s
    · rw [hwrites.steps_eq]
      exact noneActive_cancelledRun s
  | rollbackRequested hstatus hopen hinactive hkey hinserts =>
    exact hgoesOn hinserts.writes.status_eq rfl
  | rollbackFinalized hfound hcompleted hothers hwrites =>
    refine ⟨hconsistent, fun _ => ?_, fun _ => ?_⟩
    · rw [hwrites.holds_eq]
      exact allDecided_of_openHolds hclean.1
    · rw [hwrites.steps_eq]
      exact hfound.noneActive (by rw [hcompleted]; rfl) hothers

theorem Created.settled (h : Created s) : Settled s := by
  refine ⟨h.consistent, fun hfinal => ?_, fun _ => by simp [h.shape.1, NoneActive]⟩
  obtain ⟨_, gate, o, envelope, access, effect, hgate, rfl⟩ := h.shape
  simp only [resolveManagedExecutionGate, bind_eq_ok] at hgate
  obtain ⟨_, _, hgate⟩ := hgate
  cases hgate
  cases hhold : strongerHold (effectHold effect) (accessHold access) with
  | none => simp [newManagedRun, gateForHold, AllDecided]
  | some hold =>
    by_cases hreview : hold.holdType = .review <;>
      simp [newManagedRun, hhold, gateForHold, hreview, RunStatus.isTerminal] at hfinal

theorem settled_of_run {s₀ : ManagedRun} {operations : List Operation} (hcreated : Created s₀)
    (hrun : Transition.Run (CleanStep env) s₀ operations s) : Settled s :=
  hrun.invariant (fun _ _ _ h hstep => h.step hstep.1.effect hstep.2) hcreated.settled

/-- In a run whose operations all end it clean, a final status is left only by a retry,
an escalation or a rollback request. -/
theorem final_status_kept {env : Platform} {s₀ s s' : ManagedRun} {operations : List Operation}
    {operation : Operation} (hcreated : Created s₀)
    (hrun : Transition.Run (CleanStep env) s₀ operations s)
    (hstep : CleanStep env s operation s') (hfinal : s.run.status.isTerminal = true)
    (hreopens : ¬Reopens operation) : s'.run.status = s.run.status := by
  have h := settled_of_run hcreated hrun
  obtain ⟨hstep, hclean⟩ := hstep
  cases hstep.effect with
  | unchanged => rfl
  | stepCreated heligible hinserts => exact hinserts.writes.status_eq
  | decided hfound hsettles hrejects hwrites | holdEscalated hfound hadded hwrites =>
    exact (h.decided hfinal _ hfound.mem.1 hfound.2).elim
  | runSynced hgiven hallowed hrunning hterminal hwrites =>
    rw [hwrites.status_eq]
    obtain ⟨_, hsame | htransition⟩ := assertTransition_ok hallowed
    · exact hsame.symm
    · rw [transitionAllowed_of_terminal hfinal] at htransition
      cases htransition
  | stepSynced hfound hnext hallowed hstart hwrites =>
    have hactive := stepTransitionAllowed_active hallowed
    rw [h.inactive hfinal _ hfound.mem] at hactive
    cases hactive
  | retried | escalated => exact (hreopens trivial).elim
  | cancelled hstatus hwrites =>
    rw [hfinal] at hstatus
    cases hstatus
  | rollbackRequested => exact (hreopens trivial).elim
  | rollbackFinalized hfound hcompleted hothers hwrites =>
    rw [hwrites.status_eq]
    obtain ⟨_, hnotCompleted, hnotFailed⟩ := hclean
    revert hfinal hnotCompleted hnotFailed
    cases s.run.status <;> simp [RunStatus.isTerminal]

theorem exists_runStep (env : Platform) (s : ManagedRun) (operation : Operation) :
    ∃ s', RunStep env s operation s' := by
  cases hperform : perform env s operation with
  | error e => exact ⟨s, .thrown hperform⟩
  | ok result => exact ⟨result.2, .done hperform⟩

/-- The operations of the run below. -/
def admitsClean (_ : ManagedRun) : Operation → Bool
  | .syncRun _ _ (.str text) => text != "cancelled"
  | .decide _ _ decision => Decision.ofVal decision != some .rejected
  | .createStep .. => true
  | .syncStep .. => true
  | _ => false

theorem endsClean_of_admits (s : ManagedRun) (operation : Operation)
    (h : admitsClean s operation = true) : EndsClean s operation := by
  cases operation with
  | syncRun o runId nextStatus =>
    cases nextStatus with
    | str text =>
      refine ⟨text, rfl, ?_⟩
      rintro rfl
      cases h
    | _ => cases h
  | decide o holdId decision => exact fun hrejected => absurd hrejected (bne_iff_ne.mp h)
  | createStep | syncStep => trivial
  | _ => cases h

/-- A run is approved and completed, then its hold is rejected. -/
theorem completed_stays_completed :
    ∃ operations s s', Transition.Run (CleanStep plainPlatform) (createdRun .destructive)
        operations s ∧
      CleanStep plainPlatform s (.decide (calmOracle "") "h1" (.str "rejected")) s' ∧
      (s.run.status == .completed && s.holds.any fun hold => hold.status == .approved) = true ∧
      s'.run.status = s.run.status := by
  have hrows : ((performAll plainPlatform admitsClean (createdRun .destructive)
      (.decide (calmOracle "") "h1" (.str "approved") :: startedStep ++
        [.syncStep (calmOracle "") "run1" "s1" (.str "completed"),
          .syncRun (calmOracle "") "run1" (.str "completed")])).any fun s =>
      (s.run.status == .completed && s.holds.any fun hold => hold.status == .approved) &&
        (activeSteps s none).isEmpty) = true := by
    decide +kernel
  obtain ⟨s, hs, hfound⟩ := (Option.any_eq_true _ _).mp hrows
  rw [Bool.and_eq_true] at hfound
  obtain ⟨hcompleted, hinactive⟩ := hfound
  have hrun := run_of_performAll endsClean_of_admits hs
  obtain ⟨s', hstep⟩ := exists_runStep plainPlatform s
    (.decide (calmOracle "") "h1" (.str "rejected"))
  have hclean : CleanStep plainPlatform s (.decide (calmOracle "") "h1" (.str "rejected")) s' :=
    ⟨hstep, fun _ => List.isEmpty_iff.mp hinactive⟩
  have hfinal : s.run.status.isTerminal = true := by
    rw [beq_iff_eq.mp (Bool.and_eq_true_iff.mp hcompleted).1]
    rfl
  exact ⟨_, s, s', hrun, hclean, hcompleted,
    final_status_kept (created_createdRun _) hrun hclean hfinal id⟩

/-- A run cancelled by a status update keeps its open hold, and approving the hold starts
the run again. -/
theorem cancelled_run_restarts :
    ∃ s s', Transition.Run (RunStep plainPlatform) (createdRun .destructive)
        [.syncRun (calmOracle "") "run1" (.str "cancelled")] s ∧
      s.run.status = .cancelled ∧
      RunStep plainPlatform s (.decide (calmOracle "") "h1" (.str "approved")) s' ∧
      s'.run.status = .running := by
  have hrows : ((performAll plainPlatform (fun _ _ => true) (createdRun .destructive)
      [.syncRun (calmOracle "") "run1" (.str "cancelled")]).any fun s =>
      s.run.status == .cancelled && (performAll plainPlatform (fun _ _ => true) s
          [.decide (calmOracle "") "h1" (.str "approved")]).any fun s' =>
            s'.run.status == .running) = true := by
    decide +kernel
  obtain ⟨s, hs, hfound⟩ := (Option.any_eq_true _ _).mp hrows
  rw [Bool.and_eq_true, beq_iff_eq] at hfound
  obtain ⟨s', hs', hrunning⟩ := (Option.any_eq_true _ _).mp hfound.2
  cases run_of_performAll_true hs' with
  | cons hstep hnil =>
    cases hnil
    exact ⟨s, s', run_of_performAll_true hs, hfound.1, hstep, beq_iff_eq.mp hrunning⟩

end GrowthOs.ManagedExecution
