import GrowthOs.Recovery.Orchestrator

/-!
# One dispatch, and a truthful outcome

Whatever its environment answers, a call of `executeRecovery` dispatches only after all
of its checks and after a claim the store has granted to it, and its result says what has
been recorded.  Calls side by side dispatch a plan no more often than its claim is
granted.
-/

namespace GrowthOs.Recovery.Orchestrator

open Js Throwing Interaction List

/-! ## What a dispatching call has verified -/

/-- The safe integer `now` is not before the plan's creation and not at or after its
expiry; a time that is no number excludes nothing. -/
def InTime (now plan : Val) : Prop :=
  ∃ i created expires, safeInteger now = some i ∧
    (plan.member "created_at_ms").toNumber = .ok created ∧
    (plan.member "expires_at_ms").toNumber = .ok expires ∧
    (Number.finite (.ofInt i)).blt created = false ∧
    (Number.finite (.ofInt i)).bge expires = false

/-- An answer names the hash of the plan and the scope. -/
def BoundTo (answer planHash : Val) (scope : Scope) : Prop :=
  answer.member "plan_hash" = planHash ∧ answer.member "source_sha" = .str scope.sourceSha ∧
    answer.member "environment" = .str scope.environment ∧
    answer.member "resource_fingerprint" = .str scope.resourceFingerprint ∧
    answer.member "tenant_id" = .str scope.tenantId ∧
    answer.member "resource_id" = .str scope.resourceId

variable (host : Host) (c : ExecuteCall)

/-- The plan a call works on, as its checks leave it. -/
structure Checked (scope : Scope) (plan : Val) : Prop where
  untampered : IsUntampered host plan
  planId : plan.member "plan_id" = c.planId
  planHash : plan.member "plan_hash" = c.planHash
  inTime : InTime c.now plan
  trusted : trustedScope c.binding = .ok scope
  staging : scope.environment = "staging"
  bound : scope.Matches (plan.member "binding")
  unchanged : ∃ lookup entry op, c.registry = some lookup ∧
    lookup (plan.member "capability_id") = .ok (some entry) ∧
    operationOf host entry plan = .ok (some op) ∧ IsUnchanged host entry op plan

def Request.isDispatch : Request → Bool
  | .execute _ => true
  | _ => false

/-- What the log of a call shows before its claim. -/
structure Prepared (past : Log) (scope : Scope) (plan : Val) : Prop where
  checked : Checked host c scope plan
  read : (.getPlan c.planId, .ok plan) ∈ past
  state : ∃ fresh, (.inspect (inspectArgs scope plan), .ok fresh) ∈ past ∧
    assertFresh host fresh plan = .ok ()
  approval : ∃ proof, (.verifyApproval (approvalArgs scope plan), .ok proof) ∈ past ∧
    (proof.member "approved").isTrue = true ∧ BoundTo proof c.planHash scope
  first : ∀ entry ∈ past, entry.1.isDispatch = false

/-- What the log of a call shows before its dispatch, with the intent it appended. -/
structure Cleared (past : Log) (scope : Scope) (plan fenceToken intent : Val) : Prop extends
    Prepared host c past scope plan where
  claim : ∃ claimed, (.claimStep (claimArgs c fenceToken), .ok claimed) ∈ past ∧
    isGranted claimed = true
  committed : ∃ stored,
    (.appendIntent (intentArgs host c scope fenceToken), .ok intent) ∈ past ∧
    (.getIntent (claimArgs c fenceToken), .ok stored) ∈ past ∧
    IsCommitted host c (intentHashOf host c scope fenceToken) intent fenceToken stored
  fence : ∃ fence, (.assertFence (fenceArgs c fenceToken), .ok fence) ∈ past ∧
    (fence.member "valid").isTrue = true

/-- The recovery is confirmed: a receipt bound to the plan passed, and the store has
confirmed the end of the step. -/
def Recovered (log : Log) (plan : Val) : Prop :=
  ∃ scope, Checked host c scope plan ∧ (.getPlan c.planId, .ok plan) ∈ log ∧
    ∃ execution receipt fenceToken final,
      (.verifyEvidence (evidenceArgs plan execution), .ok receipt) ∈ log ∧
      assertReceipt host receipt plan = .ok () ∧ BoundTo receipt c.planHash scope ∧
      (.finishStep (finishArgs c fenceToken receipt), .ok final) ∈ log ∧
      confirms final "recovered" = true

/-- The unknown outcome is recorded. -/
def UnknownRecorded (log : Log) : Prop :=
  ∃ fenceToken recorded, (.markUnknown (unknownArgs c fenceToken), .ok recorded) ∈ log ∧
    confirms recorded "execution_outcome_unknown" = true

/-- What a returned status says is in the log. -/
def Truthful (log : Log) (result : Except Val Val) : Prop :=
  ∀ status, result = .ok status →
    ∃ plan, (status = safeStatus "recovered" plan ∧ Recovered host c log plan) ∨
      (status = safeStatus "execution_outcome_unknown" plan ∧ UnknownRecorded c log)

/-- Only a cleared call dispatches, with its plan, its fence and its intent. -/
def Guard (past : Log) : Request → Prop
  | .execute args => ∃ scope plan fenceToken intent,
    args = executeArgs plan fenceToken intent ∧ Cleared host c past scope plan fenceToken intent
  | _ => True

/-! ## The checks taken apart -/

variable {host c} {scope : Scope} {plan : Val}

theorem assertPlan_ok {stored : Val} (h : assertPlan host stored = .ok plan) :
    stored = plan ∧ IsUntampered host plan := by
  simp only [assertPlan, bind_eq_ok, rejectIf_eq_ok, not_not] at h
  obtain ⟨_, _, _, _, _, huntampered, _, _, _, _, h⟩ := h
  cases h
  exact ⟨rfl, huntampered⟩

theorem assertUnexpired_ok {now : Val} (h : assertUnexpired now plan = .ok ()) :
    InTime now plan := by
  unfold assertUnexpired at h
  cases hi : safeInteger now with
  | none =>
    rw [hi] at h
    cases h
  | some i =>
    simp only [hi, bind_eq_ok, rejectIf_eq_ok, Bool.not_eq_true] at h
    obtain ⟨created, hcreated, _, hstarted, expires, hexpires, hopen⟩ := h
    exact ⟨i, created, expires, hi, hcreated, hexpires, hstarted, hopen⟩

variable {lookup : Val → Except Val (Option RegistryEntry)} {entry : RegistryEntry}

theorem resolveCapability_ok (h : resolveCapability host lookup plan = .ok entry) :
    lookup (plan.member "capability_id") = .ok (some entry) ∧
      ∃ op, operationOf host entry plan = .ok (some op) ∧ IsUnchanged host entry op plan := by
  simp only [resolveCapability, executableOperation, bind_eq_ok, rejectIf_eq_ok, present_eq_ok,
    not_not] at h
  obtain ⟨found, hfound, entry', rfl, operation, hoperation, op, ⟨op', rfl, _, _, hop⟩, _, _, _,
    _, _, hunchanged, _, _, h⟩ := h
  obtain rfl := Except.ok.inj h
  obtain rfl := Except.ok.inj hop
  exact ⟨hfound, op', hoperation, hunchanged⟩

theorem assertAuthorities_ok (h : assertAuthorities c = .ok lookup) : c.registry = some lookup := by
  simp only [assertAuthorities, bind_eq_ok, present_eq_ok] at h
  obtain ⟨_, _, found, hfound, _, _, _, _, h⟩ := h
  rw [hfound, Except.ok.inj h]

/-- Everything about the plan is checked before the resource is inspected. -/
theorem checked_of_ok {stored : Val} (hlookup : assertAuthorities c = .ok lookup)
    (hscope : stagingScope c.binding = .ok scope) (hplan : assertPlan host stored = .ok plan)
    (hreference : assertReference c scope host plan = .ok ())
    (hentry : resolveCapability host lookup plan = .ok entry) : Checked host c scope plan := by
  obtain ⟨_, huntampered⟩ := assertPlan_ok hplan
  simp only [stagingScope, bind_eq_ok, rejectIf_eq_ok, not_not] at hscope
  obtain ⟨scope', htrusted, _, hstaging, hscope⟩ := hscope
  cases hscope
  simp only [assertReference, bind_eq_ok, rejectIf_eq_ok, not_not] at hreference
  obtain ⟨_, ⟨hid, hhash⟩, _, htime, hmatches⟩ := hreference
  obtain ⟨hfound, op, hop, hunchanged⟩ := resolveCapability_ok hentry
  -- the id and the hash of an untampered plan are texts
  have htext : ∀ {a b : Val} {s : String}, a = .str s →
      strictEq host.identical a b = true → a = b := by
    rintro a b s rfl h
    cases b with
    | str t => simpa [strictEq] using h
    | _ => simp [strictEq] at h
  exact {
    untampered := huntampered
    planId := htext huntampered.2.2 hid
    planHash := htext huntampered.2.1 hhash
    inTime := assertUnexpired_ok htime
    trusted := htrusted
    staging := hstaging
    bound := hmatches
    unchanged := ⟨lookup, entry, op, assertAuthorities_ok hlookup, hfound, hop, hunchanged⟩ }

theorem Checked.boundTo {answer : Val} (h : Checked host c scope plan)
    (hbinds : bindsPlan host answer plan = true) : BoundTo answer c.planHash scope := by
  obtain ⟨htenant, hresource, hfingerprint, henvironment, hsource, _⟩ := h.bound
  obtain ⟨_, hhash, _⟩ := h.untampered
  simp only [bindsPlan, all_cons, all_nil, Bool.and_true, Bool.and_eq_true, htenant,
    hresource, hfingerprint, henvironment, hsource, hhash] at hbinds
  obtain ⟨h₁, h₂, h₃, h₄, h₅, h₆⟩ := hbinds
  rw [BoundTo, ← h.planHash, hhash]
  exact ⟨eq_of_strictEq_str h₁, eq_of_strictEq_str h₂, eq_of_strictEq_str h₃,
    eq_of_strictEq_str h₄, eq_of_strictEq_str h₅, eq_of_strictEq_str h₆⟩

/-! ## The parts of the program -/

/-- The log has grown from the past, and still has no dispatch. -/
def Quiet (past log : Log) : Prop :=
  past ⊆ log ∧ ∀ entry ∈ log, entry.1.isDispatch = false

variable {past log : Log}

theorem Quiet.refl (h : ∀ entry ∈ past, entry.1.isDispatch = false) : Quiet past past :=
  ⟨List.Subset.refl _, h⟩

theorem Quiet.ask (h : Quiet past log) {q : Request} {a : Answer} (hq : q.isDispatch = false) :
    Quiet past (log ++ [(q, a)]) := by
  refine ⟨subset_append_of_subset_left _ h.1, fun entry hmem => ?_⟩
  rcases mem_append.mp hmem with hmem | hmem
  · exact h.2 entry hmem
  · rw [mem_singleton] at hmem
    rw [hmem]
    exact hq

variable {fenceToken intent : Val} {result : Except Val Val}

/-- A claim is granted or the part throws. -/
theorem claimExecution_obeys (h : Quiet past past) :
    Obeys (Guard host c) (fun log r => Quiet past log ∧
      (r = .ok () → ∃ claimed, (.claimStep (claimArgs c fenceToken), .ok claimed) ∈ log ∧
        isGranted claimed = true)) past (claimExecution c fenceToken).run := by
  refine Async.obeys_call trivial (fun error => ⟨h.ask rfl, nofun⟩) fun claimed => ?_
  refine ⟨h.ask rfl, fun hgranted => ?_⟩
  rw [rejectIf_eq_ok, Bool.not_eq_false] at hgranted
  exact ⟨claimed, by simp, hgranted⟩

/-- The intent is committed and the fence holds, or the part throws. -/
theorem recordIntent_obeys (h : Quiet past past) :
    Obeys (Guard host c) (fun log r => Quiet past log ∧ ∀ intent, r = .ok intent →
        (∃ stored, (.appendIntent (intentArgs host c scope fenceToken), .ok intent) ∈ log ∧
          (.getIntent (claimArgs c fenceToken), .ok stored) ∈ log ∧
          IsCommitted host c (intentHashOf host c scope fenceToken) intent fenceToken stored) ∧
        ∃ fence, (.assertFence (fenceArgs c fenceToken), .ok fence) ∈ log ∧
          (fence.member "valid").isTrue = true)
      past (recordIntent host c scope fenceToken).run := by
  refine Async.obeys_call trivial (fun error => ⟨h.ask rfl, nofun⟩) fun intent => ?_
  refine Async.obeys_lift (fun error _ => ⟨h.ask rfl, nofun⟩) fun _ _ => ?_
  refine Async.obeys_call trivial (fun error => ⟨(h.ask rfl).ask rfl, nofun⟩) fun stored => ?_
  refine Async.obeys_lift (fun error _ => ⟨(h.ask rfl).ask rfl, nofun⟩) fun _ hcommitted => ?_
  refine Async.obeys_call trivial (fun error => ⟨((h.ask rfl).ask rfl).ask rfl, nofun⟩)
    fun fence => ?_
  refine Async.obeys_lift (fun error _ => ⟨((h.ask rfl).ask rfl).ask rfl, nofun⟩) fun _ hvalid => ?_
  rw [rejectIf_eq_ok, not_not] at hcommitted
  rw [rejectIf_eq_ok, Bool.not_eq_false] at hvalid
  refine ⟨((h.ask rfl).ask rfl).ask rfl, fun intent' hintent => ?_⟩
  cases hintent
  exact ⟨⟨stored, by simp, by simp, hcommitted⟩, fence, by simp, hvalid⟩

theorem assertReceipt_binds {receipt : Val} (h : assertReceipt host receipt plan = .ok ()) :
    bindsPlan host receipt plan = true := by
  simp only [assertReceipt, bind_eq_ok, rejectIf_eq_ok, not_not] at h
  obtain ⟨_, ⟨_, _, _, _, hbinds⟩, _⟩ := h
  exact hbinds

/-- A cleared dispatch ends with a confirmed recovery or throws. -/
theorem dispatch_obeys (hcleared : Cleared host c past scope plan fenceToken intent) :
    Obeys (Guard host c) (fun log r => ∀ status, r = .ok status →
      status = safeStatus "recovered" plan ∧ Recovered host c log plan)
      past (dispatch host c plan fenceToken intent).run := by
  refine Async.obeys_call ⟨scope, plan, fenceToken, intent, rfl, hcleared⟩ (fun _ _ => nofun)
    fun execution => ?_
  refine Async.obeys_call trivial (fun _ _ => nofun) fun receipt => ?_
  refine Async.obeys_lift (fun _ _ _ => nofun) fun _ hreceipt => ?_
  refine Async.obeys_call trivial (fun _ _ => nofun) fun final => ?_
  refine Async.obeys_lift (fun _ _ _ => nofun) fun _ hfinal => ?_
  rw [rejectIf_eq_ok, Bool.not_eq_false] at hfinal
  intro status hstatus
  cases hstatus
  refine ⟨rfl, scope, hcleared.checked, ?_, execution, receipt, fenceToken, final, ?_, hreceipt,
    hcleared.checked.boundTo (assertReceipt_binds hreceipt), ?_, hfinal⟩
  · exact mem_append_left _ (mem_append_left _ (mem_append_left _ hcleared.read))
  · exact mem_append_left _ (mem_append_right _ mem_cons_self)
  · exact mem_append_right _ mem_cons_self

theorem recordUnknown_obeys :
    Obeys (Guard host c) (Truthful host c) past (recordUnknown c plan fenceToken).run := by
  refine Async.obeys_call_cases trivial (fun error => nofun) fun recorded => ?_
  intro status hstatus
  split_ifs at hstatus with hconfirmed
  cases hstatus
  exact ⟨plan, .inr ⟨rfl, fenceToken, recorded, mem_append_right _ mem_cons_self, hconfirmed⟩⟩

theorem abortClaim_obeys {error : Val} :
    Obeys (Guard host c) (Truthful host c) past (abortClaim c fenceToken error).run :=
  Async.obeys_call_cases trivial (fun _ => nofun) fun _ => nofun

theorem releasing_obeys (h : ∀ answer, Truthful host c
      (past ++ [(.releaseLease (fenceArgs c fenceToken), answer)]) result) :
    Obeys (Guard host c) (Truthful host c) past (releasing c fenceToken result).run :=
  Async.obeys_call_cases trivial (fun _ => h _) fun _ => h _

theorem Prepared.mono (h : Prepared host c past scope plan) (hquiet : Quiet past log) :
    Prepared host c log scope plan where
  checked := h.checked
  read := hquiet.1 h.read
  state := h.state.imp fun _ hfresh => ⟨hquiet.1 hfresh.1, hfresh.2⟩
  approval := h.approval.imp fun _ hproof => ⟨hquiet.1 hproof.1, hproof.2⟩
  first := hquiet.2

theorem Truthful.mono {log' : Log} (h : Truthful host c log result) (hsub : log ⊆ log') :
    Truthful host c log' result := by
  intro status hstatus
  obtain ⟨plan, ⟨hstatus, scope, hchecked, hread, evidence, receipt, token, final, hevidence,
    hreceipt, hbound, hfinish, hfinal⟩ | ⟨hstatus, token, recorded, hmarked, hrecorded⟩⟩ :=
    h status hstatus
  · exact ⟨plan, .inl ⟨hstatus, scope, hchecked, hsub hread, evidence, receipt, token, final,
      hsub hevidence, hreceipt, hbound, hsub hfinish, hfinal⟩⟩
  · exact ⟨plan, .inr ⟨hstatus, token, recorded, hsub hmarked, hrecorded⟩⟩

theorem executeClaimed_obeys (hprepared : Prepared host c past scope plan) :
    Obeys (Guard host c) (Truthful host c) past
      (executeClaimed host c scope plan fenceToken).run := by
  refine Async.obeys_cases (claimExecution_obeys (.refl hprepared.first)) (fun _ _ _ => nofun) ?_
  rintro log₁ _ ⟨hquiet₁, hclaim⟩
  obtain ⟨claimed, hclaimed, hgranted⟩ := hclaim rfl
  refine Async.obeys_cases (recordIntent_obeys (.refl hquiet₁.2)) (fun _ _ _ => abortClaim_obeys) ?_
  rintro log₂ intent ⟨hquiet₂, hrecorded⟩
  obtain ⟨⟨stored, happended, hstored, hcommitted⟩, hfence⟩ := hrecorded intent rfl
  have hcleared : Cleared host c log₂ scope plan fenceToken intent := {
    toPrepared := (hprepared.mono hquiet₁).mono hquiet₂
    claim := ⟨claimed, hquiet₂.1 hclaimed, hgranted⟩
    committed := ⟨stored, happended, hstored, hcommitted⟩
    fence := hfence }
  refine Async.obeys_cases (dispatch_obeys hcleared) (fun _ _ _ => recordUnknown_obeys) ?_
  intro log₃ status hrecovered status' hstatus
  cases hstatus
  exact ⟨plan, .inl (hrecovered status rfl)⟩

/-- A call of `executeRecovery`, whatever is answered. -/
theorem executeRecovery_obeys (host : Host) (c : ExecuteCall) :
    Obeys (Guard host c) (Truthful host c) [] (executeRecovery host c).run := by
  have h₀ : Quiet [] [] := .refl nofun
  refine Async.obeys_lift (fun _ _ => nofun) fun lookup hlookup => ?_
  refine Async.obeys_lift (fun _ _ => nofun) fun scope hscope => ?_
  refine Async.obeys_call trivial (fun _ => nofun) fun stored => ?_
  refine Async.obeys_lift (fun _ _ => nofun) fun plan hplan => ?_
  refine Async.obeys_lift (fun _ _ => nofun) fun _ hreference => ?_
  refine Async.obeys_lift (fun _ _ => nofun) fun entry hentry => ?_
  obtain ⟨rfl, _⟩ := assertPlan_ok hplan
  have hchecked := checked_of_ok hlookup hscope hplan hreference hentry
  refine Async.obeys_call trivial (fun _ => nofun) fun fresh => ?_
  refine Async.obeys_lift (fun _ _ => nofun) fun _ hfresh => ?_
  refine Async.obeys_call trivial (fun _ => nofun) fun proof => ?_
  refine Async.obeys_lift (fun _ _ => nofun) fun _ hproof => ?_
  refine Async.obeys_call trivial (fun _ => nofun) fun lock => ?_
  refine Async.obeys_lift (fun _ _ => nofun) fun _ _ => ?_
  simp only [assertProof, rejectIf_eq_ok, not_not] at hproof
  obtain ⟨_, happroved, hbinds, _⟩ := hproof
  refine Async.obeys_cases (executeClaimed_obeys ⟨hchecked, ?_, ⟨fresh, ?_, hfresh⟩,
    ⟨proof, ?_, happroved, hchecked.boundTo hbinds⟩, ?_⟩) ?_ ?_
  · simp
  · simp
  · simp
  · exact ((((h₀.ask rfl).ask rfl).ask rfl).ask rfl).2
  · exact fun log error _ => releasing_obeys fun _ => nofun
  · exact fun log result h => releasing_obeys fun _ => h.mono (subset_append_left _ _)

/-! ## Calls side by side -/

/-- The store grants the claim of the plan. -/
def grantsClaim (planId planHash : String) : Request × Answer → Bool
  | (.claimStep args, .ok claimed) =>
    isText (args.member "plan_id") planId && isText (args.member "plan_hash") planHash &&
      isGranted claimed
  | _ => false

/-- A call for the plan dispatches. -/
def dispatches (c : ExecuteCall) (planId planHash : String) (entry : Request × Answer) : Bool :=
  entry.1.isDispatch && isText c.planId planId && isText c.planHash planHash

/-- A cleared call for the plan has been granted its claim. -/
theorem Cleared.grants {planId planHash : String}
    (h : Cleared host c past scope plan fenceToken intent) (hid : c.planId = .str planId)
    (hhash : c.planHash = .str planHash) : 0 < past.countP (grantsClaim planId planHash) := by
  obtain ⟨claimed, hmem, hgranted⟩ := h.claim
  refine countP_pos_iff.mpr ⟨_, hmem, ?_⟩
  simp [grantsClaim, claimArgs, hid, hhash, Val.member, Val.lookup, hgranted]

/-- A call dispatches a plan no more often than it is granted the claim. -/
theorem dispatches_le_grants (host : Host) (c : ExecuteCall) (planId planHash : String)
    {p : Interaction Request Answer (Except Val Val)}
    (hlog : Follows (executeRecovery host c).run log p) :
    log.countP (dispatches c planId planHash) ≤ log.countP (grantsClaim planId planHash) := by
  refine (executeRecovery_obeys host c).countP_le ?_ hlog
  intro past q answer hguard huse
  simp only [dispatches, Bool.and_eq_true, isText_iff] at huse
  obtain ⟨⟨hdispatch, hid⟩, hhash⟩ := huse
  cases q with
  | execute args =>
    obtain ⟨scope, plan, fenceToken, intent, -, hcleared⟩ := hguard
    have hnone : past.countP (dispatches c planId planHash) = 0 := by
      rw [countP_eq_zero]
      intro entry hmem
      simp [dispatches, hcleared.first entry hmem]
    rw [hnone]
    exact hcleared.grants hid hhash
  | _ => cases hdispatch

/-- For any calls side by side over a store that grants each plan's claim at most once:
each plan is dispatched at most once, by a call that has verified everything; and what a
call returns has been recorded, so that a call that neither throws nor returns a
confirmed recovery has recorded the unknown outcome. -/
theorem dispatched_once_truthfully {ι : Type} [DecidableEq ι] (host : ι → Host)
    (calls : ι → ExecuteCall) (events : List (ι × Request × Answer))
    (hrun : Interleaving (fun i => (executeRecovery (host i) (calls i)).run) events)
    (hclaims : ∀ planId planHash,
      events.countP (fun event => grantsClaim planId planHash event.2) ≤ 1) :
    (∀ planId planHash,
      events.countP (fun event => dispatches (calls event.1) planId planHash event.2) ≤ 1) ∧
    (∀ before i args answer after, events = before ++ (i, .execute args, answer) :: after →
      ∃ scope plan fenceToken intent, args = executeArgs plan fenceToken intent ∧
        Cleared (host i) (calls i) (threadLog i before) scope plan fenceToken intent) ∧
    (∀ i result, Follows (executeRecovery (host i) (calls i)).run (threadLog i events)
      (.ret result) → Truthful (host i) (calls i) (threadLog i events) result) := by
  refine ⟨fun planId planHash => ?_, ?_, ?_⟩
  · refine Nat.le_trans (countP_le_of_threads (p := fun i => dispatches (calls i) planId planHash)
      (g := fun _ => grantsClaim planId planHash) fun i => ?_) (hclaims planId planHash)
    obtain ⟨rest, hlog⟩ := hrun i
    exact dispatches_le_grants (host i) (calls i) planId planHash hlog
  · rintro before i args answer after rfl
    exact hrun.guard (fun i => executeRecovery_obeys (host i) (calls i))
  · intro i result hdone
    exact (executeRecovery_obeys (host i) (calls i)).post_of_follows hdone

/-! ## Two calls for one plan -/

def digestText (last : Char) : String :=
  "aaaaaaaaaaaaaaaaaaaaaaaaaaaaaaaaaaaaaaaaaaaaaaaaaaaaaaaaaaaaaaa" ++ String.singleton last

/-- A platform whose digest tells the length of a text. -/
def sampleHost : Host where
  sha256 text := digestText (hexDigit (text.utf8ByteSize % 16))
  timeOf _ := none
  isoString _ := ""
  identical _ _ := false

def sampleScope : List (String × Val) :=
  [("environment", .str "staging"), ("issuer", .str "issuer"),
    ("resource_fingerprint", .str (digestText 'f')), ("resource_id", .str "resource-1"),
    ("source_sha", .str "bbbbbbbbbbbbbbbbbbbbbbbbbbbbbbbbbbbbbbbb"),
    ("tenant_id", .str "tenant-1")]

def sampleEntry : RegistryEntry where
  publicDescriptor := .obj [("environments", .arr [.str "staging"]),
    ("operations", .arr [.obj [("key", .str "rebuild"), ("risk", .str "bounded_mutation")]]),
    ("provider_id", .str "provider"), ("resource_kind", .str "index")]
  inspects := true
  executes := true

def sampleCall : ExecuteCall where
  planId := .str "plan:aaaaaaaaaaaaaaaaaaaaaaaaaaaaaaaa"
  planHash := .str (digestText '5')
  registry := some fun _ => .ok (some sampleEntry)
  store := .obj [("recovery_store_contract", .str "mad4b.recovery-durable-store.v1"),
    ("independent_of_target_databases", .bool true), ("shared_replica_safe", .bool true),
    ("payload_integrity_verified_on_read", .bool true),
    ("target_database_binding", .str "forbidden")]
  storeMethods := ["getPlan", "claimStep", "appendIntent", "getIntent", "markUnknown",
    "failBeforeDispatch", "finishStep"]
  binding := .obj sampleScope
  mode := .str "staging"
  approvalVerifier := ["verify"]
  lease := ["acquire", "assertFence", "release"]
  evidenceVerifier := ["verify"]
  now := .num (.ofNat 1)

def samplePlan : Val :=
  .obj [("binding", .obj sampleScope),
    ("capability_descriptor_sha256", .str (digestText '8')), ("capability_id", .str "cache"),
    ("contract", .str "mad4b.recovery-orchestrator-plan.v1"),
    ("created_at_ms", .num (.ofNat 0)), ("expires_at_ms", .num (.ofNat 300000)),
    ("observed_state_fingerprint", .str "clean"), ("operation", .str "rebuild"),
    ("provider_id", .str "provider"), ("resource_kind", .str "index"),
    ("risk", .str "bounded_mutation"), ("plan_id", sampleCall.planId),
    ("plan_hash", sampleCall.planHash)]

/-- What the environment answers to a call up to its claim. -/
def answersToClaim (fenceToken : String) (claimed : Bool) : List Answer :=
  [.ok samplePlan,
    .ok (.obj [("read_only", .bool true), ("mutation_performed", .bool false),
      ("secrets_included", .bool false), ("state_fingerprint", .str "clean")]),
    .ok (.obj (sampleScope ++ [("approved", .bool true), ("plan_hash", sampleCall.planHash),
      ("single_use", .bool true), ("secrets_included", .bool false)])),
    .ok (.obj [("acquired", .bool true), ("fence_token", .str fenceToken)]),
    .ok (.obj [("claimed", .bool claimed), ("durable", .bool true)])]

/-- What it answers to the call that is granted the claim. -/
def answersToDispatch : List Answer :=
  let intent := [("durable", .bool true), ("plan_hash", sampleCall.planHash),
    ("intent_hash", .str (digestText '2')), ("evidence_sha256", .str (digestText 'e'))]
  [.ok (.obj intent),
    .ok (.obj (intent ++ [("commit_state", .str "committed"), ("fence_token", .str "fence-1")])),
    .ok (.obj [("valid", .bool true)]),
    .ok (.obj []),
    .ok (.obj (sampleScope ++ [("independent_of_executor", .bool true),
      ("readback_verified", .bool true), ("postconditions_passed", .bool true),
      ("plan_hash", sampleCall.planHash), ("verifier_id", .str "verifier"),
      ("evidence_sha256", .str (digestText 'e')), ("secrets_included", .bool false)])),
    .ok (.obj [("durable", .bool true), ("status", .str "recovered")]),
    .ok (.obj [])]

def sampleProgram : Interaction Request Answer (Except Val Val) :=
  (executeRecovery sampleHost sampleCall).run

def grantedLog : Log :=
  sampleProgram.replay (answersToClaim "fence-1" true ++ answersToDispatch)

def refusedLog : Log :=
  sampleProgram.replay (answersToClaim "fence-2" false ++ [.ok (.obj [])])

/-- The second call runs between the claim and the dispatch of the first. -/
def sampleEvents : List (Bool × Request × Answer) :=
  (grantedLog.take 5).map (Prod.mk true) ++ refusedLog.map (Prod.mk false) ++
    (grantedLog.drop 5).map (Prod.mk true)

/-- The store grants the claim of some plan. -/
def grantsAny : Request × Answer → Bool
  | (.claimStep _, .ok claimed) => isGranted claimed
  | _ => false

theorem sampleEvents_counts :
    (refusedLog.length, sampleEvents.countP fun event => event.2.1.isDispatch,
      sampleEvents.countP fun event => grantsAny event.2) = (6, 1, 1) := by
  decide +kernel

theorem sampleEvents_interleave : Interleaving (fun _ => sampleProgram) sampleEvents := by
  have hgranted : threadLog true sampleEvents = grantedLog := by
    simp [sampleEvents, threadLog_append, threadLog_map, -map_take, -map_drop]
  have hrefused : threadLog false sampleEvents = refusedLog := by
    simp [sampleEvents, threadLog_append, threadLog_map, -map_take, -map_drop]
  intro i
  cases i with
  | false =>
    rw [hrefused]
    exact ⟨_, follows_replay _ _⟩
  | true =>
    rw [hgranted]
    exact ⟨_, follows_replay _ _⟩

/-- A second call for the plan gets as far as its claim, and only the first dispatches. -/
theorem sample_dispatched_once :
    (refusedLog.length = 6 ∧ sampleEvents.countP (fun event => event.2.1.isDispatch) = 1) ∧
      ∀ planId planHash, sampleEvents.countP
        (fun event => dispatches sampleCall planId planHash event.2) ≤ 1 := by
  obtain ⟨hrefused, hcounts⟩ := Prod.mk.inj sampleEvents_counts
  obtain ⟨hdispatch, hclaims⟩ := Prod.mk.inj hcounts
  refine ⟨⟨hrefused, hdispatch⟩, ?_⟩
  have hgrants : ∀ planId planHash, sampleEvents.countP
      (fun event => grantsClaim planId planHash event.2) ≤ 1 := by
    intro planId planHash
    rw [← hclaims]
    refine countP_mono_left fun event _ hgrant => ?_
    obtain ⟨i, q, answer⟩ := event
    cases q with
    | claimStep args =>
      cases answer with
      | error e => cases hgrant
      | ok claimed => exact (Bool.and_eq_true_iff.mp hgrant).2
    | _ => cases hgrant
  exact (dispatched_once_truthfully (fun _ => sampleHost) (fun _ => sampleCall) _
    sampleEvents_interleave hgrants).1

end GrowthOs.Recovery.Orchestrator
