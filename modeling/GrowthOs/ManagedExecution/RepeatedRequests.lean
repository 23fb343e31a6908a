import GrowthOs.ManagedExecution.StoppedRuns

/-!
# Repeated recovery requests

A retry leaves the digest of its idempotency key behind, a rollback a request under the
key, unless it is answered with a compensation step that is in use already.  No operation
takes a request or a step away, adds a second request under an equal key, or adds a step
under an id in use.  So a repeated retry finds the first one as long as the digest is
among the 25 newest events, and a repeated rollback is answered alike in the states in
which the source gets as far as looking for the first one and still finds the same.
-/

namespace GrowthOs.ManagedExecution

open Js Throwing List

def stepIds (s : ManagedRun) : List String :=
  s.steps.map StepRow.stepRunId

/-- The id of a step and its key, which no operation changes. -/
def StepRow.name (step : StepRow) : String × String :=
  (step.stepRunId, step.stepKey)

def rollbackSteps (s : ManagedRun) : List StepRow :=
  s.steps.filter fun step => step.stepKey == managedRollbackStepKey

/-- The request is the only one under the key. -/
def RequestedAs (env : Platform) (s : ManagedRun) (key : String) (request : StepRequest) : Prop :=
  s.requests.filter (fun row => env.sameText row.idempotencyKey key) = [request]

/-- What a later operation leaves as it is, and what it adds is new. -/
structure Keeps (env : Platform) (s s' : ManagedRun) : Prop where
  runId_eq : s'.run.runId = s.run.runId
  steps : ∃ added, s'.steps.map StepRow.name = s.steps.map StepRow.name ++ added ∧
    ∀ name ∈ added, name.1 ∉ stepIds s
  requests : ∀ key request, RequestedAs env s key request → RequestedAs env s' key request
  added : ∀ request ∈ s'.requests, request ∈ s.requests ∨ request.stepRunId ∉ stepIds s

variable {env : Platform} {s s' : ManagedRun} {status : RunStatus} {holds : List HoldRow}
  {steps : List StepRow} {operation : Operation}

theorem map_fst_name (steps : List StepRow) :
    (steps.map StepRow.name).map Prod.fst = steps.map StepRow.stepRunId := by
  rw [map_map]
  rfl

theorem Keeps.stepIds_eq (h : Keeps env s s') :
    ∃ added, stepIds s' = stepIds s ++ added ∧ ∀ id ∈ added, id ∉ stepIds s := by
  obtain ⟨added, hsteps, hnew⟩ := h.steps
  refine ⟨added.map Prod.fst, ?_, forall_mem_map.mpr hnew⟩
  rw [stepIds, stepIds, ← map_fst_name, hsteps, map_append, map_fst_name]

theorem Keeps.count (h : Keeps env s s') {id : String} (hone : (stepIds s).count id = 1) :
    (stepIds s').count id = 1 := by
  obtain ⟨added, hids, hnew⟩ := h.stepIds_eq
  have hmem : id ∈ stepIds s := count_pos_iff.mp (by omega)
  rw [hids, count_append, hone, count_eq_zero.mpr fun hadded => hnew id hadded hmem]

/-- The only compensation step stays the one it was. -/
theorem Keeps.rollbackStep (h : Keeps env s s') {step step' : StepRow}
    (hstep : rollbackSteps s = [step]) (hstep' : rollbackSteps s' = [step']) :
    step'.stepRunId = step.stepRunId := by
  have hnames : ∀ t : ManagedRun, ((t.steps.map StepRow.name).filter fun name =>
      name.2 == managedRollbackStepKey) = (rollbackSteps t).map StepRow.name := by
    intro t
    rw [filter_map]
    rfl
  obtain ⟨added, hsteps, -⟩ := h.steps
  have hboth := congrArg (filter fun name => name.2 == managedRollbackStepKey) hsteps
  rw [filter_append, hnames, hnames, hstep, hstep'] at hboth
  exact congrArg Prod.fst (cons.inj hboth).1

theorem Keeps.refl (s : ManagedRun) : Keeps env s s :=
  ⟨rfl, ⟨[], (append_nil _).symm, by simp⟩, fun _ _ h => h, fun _ h => .inl h⟩

theorem Keeps.trans {t : ManagedRun} (h₁ : Keeps env s t) (h₂ : Keeps env t s') :
    Keeps env s s' := by
  obtain ⟨added, hsteps, hnew⟩ := h₁.steps
  obtain ⟨added', hsteps', hnew'⟩ := h₂.steps
  obtain ⟨_, hids, -⟩ := h₁.stepIds_eq
  have hold : ∀ id, id ∉ stepIds t → id ∉ stepIds s := by
    intro id hid hmem
    exact hid (hids ▸ mem_append_left _ hmem)
  refine ⟨h₂.runId_eq.trans h₁.runId_eq, ⟨added ++ added', ?_, ?_⟩,
    fun key request hrequested => h₂.requests key request (h₁.requests key request hrequested), ?_⟩
  · rw [hsteps', hsteps, append_assoc]
  · exact forall_mem_append.mpr ⟨hnew, fun name hname => hold _ (hnew' name hname)⟩
  · intro request hrequest
    rcases h₂.added request hrequest with hmem | hfresh
    · exact h₁.added request hmem
    · exact .inr (hold _ hfresh)

theorem Rewrites.keeps (h : Rewrites s s' status holds steps)
    (hnames : steps.map StepRow.name = s.steps.map StepRow.name) : Keeps env s s' where
  runId_eq := h.runId_eq
  steps := ⟨[], by rw [h.steps_eq, hnames, append_nil], by simp⟩
  requests key request hrequested := by rwa [RequestedAs, h.requests_eq]
  added request hrequest := .inl (h.requests_eq ▸ hrequest)

section Collation

variable (hequal : Equivalence fun a b => env.sameText a b = true)
include hequal

theorem Inserts.keeps {step : StepRow} {key : String} (h : Inserts env s s' status step key) :
    Keeps env s s' where
  runId_eq := h.writes.runId_eq
  steps := ⟨[step.name], by rw [h.writes.steps_eq, map_append]; rfl,
    forall_mem_singleton.mpr h.fresh⟩
  requests other request hrequested := by
    have hfound : request ∈ s.requests ∧ env.sameText request.idempotencyKey other = true := by
      simpa using mem_filter.mp (hrequested ▸ mem_singleton_self request)
    -- a key equal to both would have found the request before
    have hother : env.sameText key other = false := by
      by_contra hsame
      have hsame := Bool.not_eq_false _ ▸ hsame
      have hkey := hequal.trans hfound.2 (hequal.symm hsame)
      exact filter_eq_nil_iff.mp h.unused request hfound.1 hkey
    rw [RequestedAs, h.writes.requests_eq, filter_append, hrequested]
    simp [hother]
  added request hrequest := by
    rw [h.writes.requests_eq] at hrequest
    rcases mem_append.mp hrequest with hmem | hmem
    · exact .inl hmem
    · obtain rfl := mem_singleton.mp hmem
      exact .inr h.fresh

theorem Effect.keeps (h : Effect env s operation s') : Keeps env s s' := by
  cases h with
  | unchanged => exact .refl s
  | stepCreated _ hinserts | rollbackRequested _ _ _ _ hinserts => exact hinserts.keeps hequal
  | decided _ _ _ hwrites | holdEscalated _ _ hwrites
  | runSynced _ _ _ _ hwrites | escalated _ _ _ _ hwrites
  | rollbackFinalized _ _ _ hwrites => exact hwrites.keeps rfl
  | stepSynced _ _ _ _ hwrites
  | retried _ _ _ _ _ hwrites
  | cancelled _ hwrites => exact hwrites.keeps (by apply Table.map_update; exact fun _ => rfl)

theorem keeps_of_run {operations : List Operation}
    (h : Transition.Run (RunStep env) s operations s') : Keeps env s s' :=
  h.invariant (fun _ _ _ hkeeps hstep => hkeeps.trans (hstep.effect.keeps hequal)) (.refl s)

end Collation

/-! ## The first call and its repetition -/

/-- The step a reply names. -/
def namedStep : Operation → Val → Val
  | .retry .., reply => reply.member "step_run_id"
  | _, reply => ((reply.member "request").coalesce (reply.member "step")).member "step_run_id"

inductive SameCall : Operation → Operation → Prop
  | retry {o o' : Oracle} {runId stepRunId : String}
      {idempotencyKey reason reason' maxAttempts maxAttempts' : Val} :
      SameCall (.retry o runId stepRunId idempotencyKey reason maxAttempts)
        (.retry o' runId stepRunId idempotencyKey reason' maxAttempts')
  | rollback {o o' : Oracle} {runId : String}
      {idempotencyKey assignedTo assignedTo' reason reason' : Val} :
      SameCall (.rollback o runId idempotencyKey assignedTo reason)
        (.rollback o' runId idempotencyKey assignedTo' reason')

/-- The source gets as far as looking for an earlier rollback. -/
structure TakesRollback (s : ManagedRun) : Prop where
  lifecycle : s.binding.lifecycleState ≠ .rolledBack
  status : isRollbackSource s.run.status = true
  effect : s.run.authority.effectClass ≠ .readOnly
  holds : openHolds s = []
  steps : activeSteps s none = []

/-- Nothing was requested under the key, but a compensation step is in use. -/
def SharesStep (env : Platform) (s : ManagedRun) (key : String) : Prop :=
  s.requests.filter (fun request => env.sameText request.idempotencyKey key) = [] ∧
    rollbackStepInUse (rollbackSteps s) = true

/-- What a repetition of the call needs, between the state before the first call and the
one before the repetition. -/
def AnswersAgain (env : Platform) (s₀ s : ManagedRun) : Operation → Prop
  | .retry _ _ _ idempotencyKey reason _ =>
    (∃ text, optionalString reason 512 = .ok text) ∧
      ∀ key, requiredString idempotencyKey "idempotency_key" 191 = .ok key →
        idempotencySha env key ∈ s.retryEvents.take 25
  | .rollback _ _ idempotencyKey assignedTo reason =>
    (∃ text, optionalString assignedTo 64 = .ok text) ∧
      (∃ text, optionalString reason 512 = .ok text) ∧
      (s₀.binding.lifecycleState = .rolledBack ∧ s.binding.lifecycleState = .rolledBack ∨
        s₀.binding.lifecycleState ≠ .rolledBack ∧ TakesRollback s ∧
          ∀ key, requiredString idempotencyKey "idempotency_key" 191 = .ok key →
            SharesStep env s₀ key → SharesStep env s key)
  | _ => False

/-- The call is answered from its record and changes nothing. -/
def Replayed (env : Platform) (s : ManagedRun) (operation : Operation) (named : Val) : Prop :=
  ∃ reply, perform env s operation = .ok (reply, s) ∧ reply.member "ok" = .bool true ∧
    reply.member "reused" = .bool true ∧ namedStep operation reply = named

variable {o : Oracle} {runId stepRunId : String}
  {idempotencyKey reason reply maxAttempts assignedTo named : Val}

theorem count_stepIds (s : ManagedRun) (id : String) :
    (stepIds s).count id = (s.steps.filter fun step => step.stepRunId == id).length := by
  rw [stepIds, List.count, countP_map, countP_eq_length_filter]
  rfl

/-- What a successful retry has read, and the step it names. -/
theorem retry_named
    (h : retryManagedExecutionStep env o runId stepRunId idempotencyKey reason maxAttempts s =
      .ok (reply, s')) :
    (∃ key, requiredString idempotencyKey "idempotency_key" 191 = .ok key) ∧
      s.run.runId = runId ∧ (stepIds s).count stepRunId = 1 ∧
      reply.member "step_run_id" = .str stepRunId := by
  simp only [retryManagedExecutionStep, bind_eq_ok] at h
  obtain ⟨key, hkey, _, _, _, hrun, step, hstep, h⟩ := h
  refine ⟨⟨key, hkey⟩, by simpa [assertRun] using hrun, ?_, ?_⟩
  · rw [count_stepIds, findStep_ok hstep]
    rfl
  · split at h
    · cases h
      rfl
    · simp only [bind_eq_ok] at h
      obtain ⟨_, _, _, _, _, _, _, _, attempt, _, _, _, h⟩ := h
      cases h
      rfl

theorem retry_replayed_iff {key : String}
    (hkey : requiredString idempotencyKey "idempotency_key" 191 = .ok key)
    (hrunId : s.run.runId = runId) (hone : (stepIds s).count stepRunId = 1) :
    Replayed env s (.retry o runId stepRunId idempotencyKey reason maxAttempts) (.str stepRunId) ↔
      (∃ text, optionalString reason 512 = .ok text) ∧
        idempotencySha env key ∈ s.retryEvents.take 25 := by
  rw [count_stepIds] at hone
  obtain ⟨step, hstep⟩ := length_eq_one_iff.mp hone
  constructor
  · rintro ⟨reply, h, -, hreused, -⟩
    simp only [perform, retryManagedExecutionStep, hkey, ok_bind, bind_eq_ok] at h
    obtain ⟨text, htext, _, _, _, _, h⟩ := h
    refine ⟨⟨text, htext⟩, ?_⟩
    split at h
    · rename_i hfound
      exact contains_iff_mem.mp hfound
    · simp only [bind_eq_ok] at h
      obtain ⟨_, _, _, _, _, _, _, _, attempt, _, _, _, h⟩ := h
      obtain ⟨rfl, -⟩ := Prod.mk.inj (Except.ok.inj h)
      cases hreused
  · rintro ⟨⟨text, htext⟩, hevent⟩
    refine ⟨okReply true [("run_id", .str runId), ("step_run_id", .str stepRunId),
      ("attempt", .num (.ofNat (if step.attempt = 0 then 1 else step.attempt))),
      ("secrets_included", .bool false)], ?_, rfl, rfl, rfl⟩
    simp [perform, retryManagedExecutionStep, hkey, htext, assertRun, hrunId, findStep, hstep,
      hevent, ok_bind, rejectIf]

/-- The four answers of a rollback: whether it is a reused one, the step it names and the
rows it leaves. -/
inductive RollbackAnswer (env : Platform) (s : ManagedRun) (key : String) :
    Bool → Val → ManagedRun → Prop
  | finalized {named : Val} (hlifecycle : s.binding.lifecycleState = .rolledBack)
      (hnamed : named = .undefined) : RollbackAnswer env s key true named s
  | requested {named : Val} {request : StepRequest} (htakes : TakesRollback s)
      (hrequested : RequestedAs env s key request) (hnamed : named = .str request.stepRunId) :
      RollbackAnswer env s key true named s
  | shared {named : Val} {step : StepRow} (htakes : TakesRollback s)
      (hshares : SharesStep env s key) (hstep : rollbackSteps s = [step])
      (hnamed : named = .str step.stepRunId) : RollbackAnswer env s key true named s
  | inserted {named : Val} {request : StepRequest} {s' : ManagedRun} (htakes : TakesRollback s)
      (hfree : ¬SharesStep env s key) (hrequested : RequestedAs env s' key request)
      (hnamed : named = .str request.stepRunId) : RollbackAnswer env s key false named s'

theorem exists_of_inUse (h : rollbackStepInUse steps = true) :
    ∃ step, steps = [step] := by
  unfold rollbackStepInUse at h
  split at h
  · exact ⟨_, rfl⟩
  · cases h

theorem rollback_answer (hequal : Equivalence fun a b => env.sameText a b = true)
    (h : requestManagedExecutionRollback env o runId idempotencyKey assignedTo reason s =
      .ok (reply, s')) :
    ∃ key, requiredString idempotencyKey "idempotency_key" 191 = .ok key ∧
      (∃ text, optionalString assignedTo 64 = .ok text) ∧
      (∃ text, optionalString reason 512 = .ok text) ∧ s.run.runId = runId ∧
      ∃ reused, reply.member "reused" = .bool reused ∧ RollbackAnswer env s key reused
        (namedStep (.rollback o runId idempotencyKey assignedTo reason) reply) s' := by
  simp only [requestManagedExecutionRollback, bind_eq_ok] at h
  obtain ⟨key, hkey, assignee, hassignee, text, htext, _, hrun, h⟩ := h
  refine ⟨key, hkey, ⟨assignee, hassignee⟩, ⟨text, htext⟩, by simpa [assertRun] using hrun, ?_⟩
  split at h
  · rename_i hlifecycle
    cases h
    exact ⟨true, rfl, .finalized hlifecycle rfl⟩
  · rename_i hlifecycle
    simp only [bind_eq_ok, rejectIf_eq_ok, not_not, Bool.not_eq_false] at h
    obtain ⟨_, hstatus, _, heffect, _, hopen, _, hactive, h⟩ := h
    have htakes : TakesRollback s :=
      ⟨hlifecycle, hstatus, heffect, assertNoOpenHolds_ok hopen, hactive⟩
    split at h
    · rename_i request hrequest
      cases h
      exact ⟨true, rfl, .requested htakes hrequest rfl⟩
    · rename_i hunused
      simp only [insertRollbackStep, bind_eq_ok] at h
      obtain ⟨_, _, h⟩ := h
      split at h
      · rename_i hinUse
        obtain ⟨step, hstep⟩ := exists_of_inUse hinUse
        rw [hstep] at h
        cases h
        exact ⟨true, rfl, .shared htakes ⟨hunused, hinUse⟩ hstep rfl⟩
      · rename_i hfree
        simp only [bind_eq_ok] at h
        obtain ⟨_, _, _, _, inserted, hinserted, h⟩ := h
        cases h
        obtain ⟨_, rfl⟩ := insertStep_ok hinserted
        refine ⟨false, rfl, .inserted htakes (fun hshares => hfree hshares.2) ?_ rfl⟩
        have hself : env.sameText key key = true := hequal.refl key
        simp [RequestedAs, ManagedRun.setStatus, ManagedRun.setBinding, hunused, hself]
    · cases h

section Calls

variable {key : String} {assignee text : Option String}
  (hkey : requiredString idempotencyKey "idempotency_key" 191 = .ok key)
  (hassignee : optionalString assignedTo 64 = .ok assignee)
  (htext : optionalString reason 512 = .ok text) (hrunId : s.run.runId = runId)

include hkey hassignee htext hrunId

/-- Past its checks, a rollback looks for a request under its key. -/
theorem rollback_of_takes (htakes : TakesRollback s) :
    (∀ request, RequestedAs env s key request →
      perform env s (.rollback o runId idempotencyKey assignedTo reason) =
        .ok (reusedStep s request [("finalized", .bool false)], s)) ∧
    (s.requests.filter (fun request => env.sameText request.idempotencyKey key) = [] →
      perform env s (.rollback o runId idempotencyKey assignedTo reason) =
        insertRollbackStep o runId key assignee s) := by
  simp +contextual [-filter_eq_nil_iff, RequestedAs, perform, requestManagedExecutionRollback, hkey,
    hassignee, htext, assertRun, hrunId, htakes.lifecycle, htakes.status, htakes.effect,
    assertNoOpenHolds, htakes.holds, htakes.steps, ok_bind, rejectIf]

theorem rollback_replayed (h : RollbackAnswer env s key true named s) :
    Replayed env s (.rollback o runId idempotencyKey assignedTo reason) named := by
  cases h with
  | finalized hlifecycle hnamed =>
    refine ⟨okReply true ([("finalized", .bool true), ("run_id", .str runId)] ++ stateFields s),
      ?_, rfl, rfl, ?_⟩
    · simp [perform, requestManagedExecutionRollback, hkey, hassignee, htext, assertRun, hrunId,
        hlifecycle, ok_bind, rejectIf]
    · exact hnamed.symm
  | requested htakes hrequested hnamed =>
    exact ⟨_, (rollback_of_takes hkey hassignee htext hrunId htakes).1 _ hrequested, rfl, rfl,
      hnamed.symm⟩
  | shared htakes hshares hstep hnamed =>
    refine ⟨okReply true [("finalized", .bool false), ("step", stepReply _),
      ("secrets_included", .bool false)], ?_, rfl, rfl, hnamed.symm⟩
    have hinUse := hshares.2
    rw [hstep] at hinUse
    rw [rollbackSteps] at hstep
    rw [(rollback_of_takes hkey hassignee htext hrunId htakes).2 hshares.1]
    simp [insertRollbackStep, hstep, hinUse, ok_bind, rejectIf]

end Calls

theorem rollback_replayed_iff {s₀ s₁ : ManagedRun} {o' : Oracle} {assignedTo' reason' : Val}
    (hequal : Equivalence fun a b => env.sameText a b = true)
    (hfirst : requestManagedExecutionRollback env o runId idempotencyKey assignedTo reason s₀ =
      .ok (reply, s₁)) (hstart : Keeps env s₀ s₁) (hkeeps : Keeps env s₁ s) :
    Replayed env s (.rollback o' runId idempotencyKey assignedTo' reason')
        (namedStep (.rollback o runId idempotencyKey assignedTo reason) reply) ↔
      AnswersAgain env s₀ s (.rollback o' runId idempotencyKey assignedTo' reason') := by
  obtain ⟨key, hkey, -, -, hrunId, reused, -, hanswer⟩ := rollback_answer hequal hfirst
  generalize namedStep (.rollback o runId idempotencyKey assignedTo reason) reply = named
    at hanswer ⊢
  constructor
  · rintro ⟨reply', hagain, -, hreused, hsame⟩
    obtain ⟨key', hkey', hassignee, htext, -, reused', hreused', hanswer'⟩ :=
      rollback_answer hequal hagain
    cases hkey.symm.trans hkey'
    cases hreused.symm.trans hreused'
    rw [hsame] at hanswer'
    refine ⟨hassignee, htext, ?_⟩
    have htaken : TakesRollback s₀ → TakesRollback s →
        (SharesStep env s₀ key → SharesStep env s key) →
        s₀.binding.lifecycleState ≠ .rolledBack ∧ TakesRollback s ∧
          ∀ key, requiredString idempotencyKey "idempotency_key" 191 = .ok key →
            SharesStep env s₀ key → SharesStep env s key := by
      intro htakes htakes' hshares
      refine ⟨htakes.lifecycle, htakes', fun other hother => ?_⟩
      cases hkey.symm.trans hother
      exact hshares
    cases hanswer' with
    | finalized hlifecycle' hnamed' =>
      cases hanswer with
      | finalized hlifecycle => exact .inl ⟨hlifecycle, hlifecycle'⟩
      | requested _ _ hnamed | shared _ _ _ hnamed | inserted _ _ _ hnamed =>
        cases hnamed.symm.trans hnamed'
    | requested htakes' hrequested' hnamed' =>
      cases hanswer with
      | finalized _ hnamed => cases hnamed.symm.trans hnamed'
      | requested htakes hrequested =>
        refine .inr (htaken htakes htakes' fun hshares => ?_)
        cases hrequested.symm.trans hshares.1
      | inserted htakes hfree =>
        exact .inr (htaken htakes htakes' fun hshares => (hfree hshares).elim)
      | shared htakes hshares hstep hnamed =>
        -- a request made since names a step that is newer than the shared one
        exfalso
        have hid := Val.str.inj (hnamed'.symm.trans hnamed)
        have hmem := mem_map_of_mem (f := StepRow.stepRunId)
          (mem_of_mem_filter (hstep ▸ mem_singleton_self _ : _ ∈ rollbackSteps s₀))
        obtain ⟨hrequest, hsameKey⟩ := mem_filter.mp (hrequested' ▸ mem_singleton_self _)
        rcases hkeeps.added _ hrequest with hold | hnew
        · exact filter_eq_nil_iff.mp hshares.1 _ hold hsameKey
        · exact hnew (hid ▸ hmem)
    | shared htakes' hshares' _ hnamed' =>
      cases hanswer with
      | finalized _ hnamed => cases hnamed.symm.trans hnamed'
      | requested htakes | shared htakes | inserted htakes =>
        exact .inr (htaken htakes htakes' fun _ => hshares')
  · rintro ⟨⟨assignee, hassignee⟩, ⟨text, htext⟩, hstates⟩
    refine rollback_replayed hkey hassignee htext
      (hkeeps.runId_eq.trans (hstart.runId_eq.trans hrunId)) ?_
    rcases hstates with ⟨hlifecycle₀, hlifecycle⟩ | ⟨hlifecycle₀, htakes', hshares'⟩
    · cases hanswer with
      | finalized _ hnamed => exact .finalized hlifecycle hnamed
      | requested htakes | shared htakes | inserted htakes =>
        exact absurd hlifecycle₀ htakes.lifecycle
    · cases hanswer with
      | finalized hlifecycle => exact absurd hlifecycle hlifecycle₀
      | requested _ hrequested hnamed | inserted _ _ hrequested hnamed =>
        exact .requested htakes' (hkeeps.requests _ _ hrequested) hnamed
      | shared _ hshares hstep hnamed =>
        have hagain := hshares' key hkey hshares
        obtain ⟨step', hstep'⟩ := exists_of_inUse hagain.2
        refine .shared htakes' hagain hstep' ?_
        rw [hnamed, hkeeps.rollbackStep hstep hstep']

/-- A retry or rollback that succeeded is answered alike when it is repeated, and changes
nothing, exactly when the source still finds what it found or left. -/
theorem repeated_call_replayed_iff {s₀ s₁ : ManagedRun} {first again : Operation}
    {operations : List Operation} (hequal : Equivalence fun a b => env.sameText a b = true)
    (hfirst : perform env s₀ first = .ok (reply, s₁))
    (hrun : Transition.Run (RunStep env) s₁ operations s) (hsame : SameCall first again) :
    Replayed env s again (namedStep first reply) ↔ AnswersAgain env s₀ s again := by
  have hstart := (RunStep.done hfirst).effect.keeps hequal
  have hkeeps := keeps_of_run hequal hrun
  cases hsame with
  | retry =>
    obtain ⟨⟨key, hkey⟩, hrunId, hone, hnamed⟩ := retry_named hfirst
    rw [namedStep, hnamed, retry_replayed_iff hkey
      (hkeeps.runId_eq.trans (hstart.runId_eq.trans hrunId)) (hkeeps.count (hstart.count hone))]
    simp only [AnswersAgain, hkey, Except.ok.injEq, forall_eq']
  | rollback => exact rollback_replayed_iff hequal hfirst hstart hkeeps

/-- The failed step is retried. -/
def retryCall : Operation :=
  .retry (calmOracle "") "run1" "s1" (.str "again") .undefined .undefined

def rollbackCall (uuid : String) : Operation :=
  .rollback (calmOracle uuid) "run1" (.str "undo") .undefined .undefined

theorem exists_answer {p : Val × ManagedRun → Bool}
    (h : (perform env s operation).toOption.any p = true) :
    ∃ answer, perform env s operation = .ok answer ∧ p answer = true := by
  obtain ⟨answer, hanswer, hp⟩ := (Option.any_eq_true _ _).mp h
  exact ⟨answer, ok_of_toOption hanswer, hp⟩

/-- A retry repeated after the step was started again. -/
theorem retry_replayed_after_start :
    ∃ s₀ reply s₁ s,
      Transition.Run (RunStep plainPlatform) (createdRun .destructive) failedStep s₀ ∧
      perform plainPlatform s₀ retryCall = .ok (reply, s₁) ∧
      Transition.Run (RunStep plainPlatform) s₁ [startStep] s ∧
      Replayed plainPlatform s retryCall (namedStep retryCall reply) := by
  have hrows : ((performAll plainPlatform (fun _ _ => true) (createdRun .destructive)
      failedStep).any fun s₀ => (perform plainPlatform s₀ retryCall).toOption.any fun answer =>
        (performAll plainPlatform (fun _ _ => true) answer.2 [startStep]).any fun s =>
          (s.retryEvents.take 25).contains "again") = true := by
    decide +kernel
  obtain ⟨s₀, hs₀, hrows⟩ := (Option.any_eq_true _ _).mp hrows
  obtain ⟨⟨reply, s₁⟩, hfirst, hrows⟩ := exists_answer hrows
  obtain ⟨s, hs, hevents⟩ := (Option.any_eq_true _ _).mp hrows
  have hequal : Equivalence fun a b => plainPlatform.sameText a b = true := by
    simpa [plainPlatform] using eq_equivalence
  have hagain : AnswersAgain plainPlatform s₀ s retryCall := by
    refine ⟨⟨none, rfl⟩, fun key hkey => ?_⟩
    cases hkey
    exact contains_iff_mem.mp hevents
  exact ⟨s₀, reply, s₁, s, run_of_performAll_true hs₀, hfirst, run_of_performAll_true hs,
    (repeated_call_replayed_iff hequal hfirst (run_of_performAll_true hs) .retry).mpr hagain⟩

/-- The rollback sets the run running, and repeated at once it is refused. -/
theorem repeated_rollback_refused :
    ∃ s₀ reply s₁ error,
      Transition.Run (RunStep plainPlatform) (createdRun .destructive) failedStep s₀ ∧
      perform plainPlatform s₀ (rollbackCall "r1") = .ok (reply, s₁) ∧
      perform plainPlatform s₁ (rollbackCall "r2") = .error error := by
  have hrows : ((performAll plainPlatform (fun _ _ => true) (createdRun .destructive)
      failedStep).any fun s₀ => (perform plainPlatform s₀ (rollbackCall "r1")).toOption.any
        fun answer => !(perform plainPlatform answer.2 (rollbackCall "r2")).isOk) = true := by
    decide +kernel
  obtain ⟨s₀, hs₀, hrows⟩ := (Option.any_eq_true _ _).mp hrows
  obtain ⟨⟨reply, s₁⟩, hfirst, hrows⟩ := exists_answer hrows
  cases hagain : perform plainPlatform s₁ (rollbackCall "r2") with
  | error e => exact ⟨s₀, reply, s₁, e, run_of_performAll_true hs₀, hfirst, hagain⟩
  | ok answer =>
    rw [hagain] at hrows
    cases hrows

end GrowthOs.ManagedExecution
