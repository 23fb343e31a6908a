import GrowthOs.GrowthControl.PolicyCompiler
import GrowthOs.Js.NumberOrder
import GrowthOs.Support.Accumulator

/-!
# A further policy never weakens a decision

Every accumulator of `compileRequirements` is read through properties that a
matched effect can only switch on: a key that is required, a limit that is at
most some number, an option that is off.  So they hold after more policies if
they held after fewer, in whatever order the policies are matched.
-/

namespace GrowthOs.GrowthControl.PolicyCompiler

open Js Throwing Comparison Accumulator List

/-! ## Sets and limits -/

variable {keys : List String} {α : Type} {limit : Option α}

theorem mem_addKey {key other : String} : other ∈ addKey keys key ↔ other ∈ keys ∨ other = key := by
  unfold addKey
  split
  next hmem =>
    constructor
    · exact .inl
    · rintro (hother | rfl)
      · exact hother
      · exact hmem
  next => rw [mem_append, mem_singleton]

theorem mem_addAll {values : List String} {other : String} :
    other ∈ addAll keys values ↔ other ∈ keys ∨ other ∈ values := by
  have hlatch : Latch addKey (fun keys => other ∈ keys) (fun key => other = key) :=
    fun _ _ => mem_addKey
  rw [addAll, hlatch.foldl_iff]
  simp

/-- A limit of at most `bound`. -/
def LimitedTo {α : Type} (le : α → α → Prop) (limit : Option α) (bound : α) : Prop :=
  ∃ n ∈ limit, le n bound

theorem limitedTo_tighten {le : α → α → Prop} {min : α → α → α}
    (hmin : ∀ a b bound, le (min a b) bound ↔ le a bound ∨ le b bound) {maximum bound : α} :
    LimitedTo le (tighten min limit maximum) bound ↔
      LimitedTo le limit bound ∨ le maximum bound := by
  cases limit with
  | none => simp [LimitedTo, tighten]
  | some limit => simp [LimitedTo, tighten, hmin]

/-- `a ≤ b` of finite numbers. -/
def DecimalLe (a b : Decimal) : Prop :=
  b.blt a = false

theorem decimalMin_le_iff (a b bound : Decimal) :
    DecimalLe (decimalMin a b) bound ↔ DecimalLe a bound ∨ DecimalLe b bound := by
  unfold DecimalLe decimalMin
  split
  next hlt =>
    -- the other bound is above the minimum and the minimum is the bound
    have hle : a.blt b = false := by
      rcases Decimal.blt_total a b with h | h
      · exact h
      · rw [hlt] at h
        cases h
    constructor
    · exact .inr
    · rintro (ha | hb)
      · exact Decimal.not_blt_trans hle ha
      · exact hb
  next hle =>
    constructor
    · exact .inl
    · rintro (ha | hb)
      · exact ha
      · exact Decimal.not_blt_trans (eq_false_of_ne_true hle) hb

/-! ## What a row switches on -/

/-- What the accumulators can come to ask for. -/
inductive Facet
  | denial
  | noProviderWrite
  | approval
  | approvalRole (role : String)
  | separationOfDuties
  | approvalExpiry (bound : Nat)
  | noDelegation
  | approvedResources (bound : Nat)
  | confirmation (key : String)
  | authority (key : String)
  | certification (key : String)
  | readback (key : String)
  | rollback (key : String)
  | resources (bound : Nat)
  | concurrency (bound : Nat)
  | budget (bound : Decimal)

def Accumulated.Asks (acc : Accumulated) : Facet → Prop
  | .denial => acc.denials ≠ []
  | .noProviderWrite => acc.forceProviderWriteFalse = true
  | .approval => acc.approvalRequired = true
  | .approvalRole role => role ∈ acc.approvalRoles
  | .separationOfDuties => acc.separationOfDuties = true
  | .approvalExpiry bound => acc.approvalExpiry ≤ bound
  | .noDelegation => acc.delegationAllowed = false
  | .approvedResources bound => acc.approvalMaxResourceCount ≤ bound
  | .confirmation key => key ∈ acc.confirmationKeys
  | .authority key => key ∈ acc.authorityKeys
  | .certification key => key ∈ acc.certificationKeys
  | .readback key => key ∈ acc.readbackKeys
  | .rollback key => key ∈ acc.rollbackKeys
  | .resources bound => LimitedTo (· ≤ ·) acc.resourceLimit bound
  | .concurrency bound => LimitedTo (· ≤ ·) acc.concurrencyLimit bound
  | .budget bound => LimitedTo DecimalLe acc.budgetLimit bound

/-- The effect asks for it. -/
def EffectKind.Asks : EffectKind → Facet → Prop
  | .deny, .denial => True
  | .forceProviderWriteFalse, .noProviderWrite => True
  | .requireApproval _, .approval => True
  | .requireApproval profile, .approvalRole role => role ∈ profile.requiredRoles
  | .requireApproval profile, .separationOfDuties => profile.separationOfDuties = true
  | .requireApproval profile, .approvalExpiry bound => profile.expiresInSeconds ≤ bound
  | .requireApproval profile, .noDelegation => profile.delegationAllowed = false
  | .requireApproval profile, .approvedResources bound => profile.maxResourceCount ≤ bound
  | .requireTypedConfirmation required, .confirmation key => key = required
  | .requireResourceAuthority keys, .authority key => key ∈ keys
  | .requireCertification keys, .certification key => key ∈ keys
  | .requireReadback keys, .readback key => key ∈ keys
  | .requireRollback keys, .rollback key => key ∈ keys
  | .limitResources maximum, .resources bound => maximum ≤ bound
  | .limitConcurrency maximum, .concurrency bound => maximum ≤ bound
  | .limitBudget maximum, .budget bound => DecimalLe maximum bound
  | _, _ => False

theorem latch_asks (facet : Facet) :
    Latch Accumulated.addRow (·.Asks facet) (fun row => row.2.kind.Asks facet) := by
  rintro acc ⟨policy, kind, code⟩
  unfold Accumulated.addRow
  cases facet with
  | noDelegation =>
    cases kind <;> simp [Accumulated.addKind, Accumulated.Asks, EffectKind.Asks,
      -Bool.and_eq_false_imp, Bool.and_eq_false_iff]
  | resources | concurrency =>
    cases kind <;> simp [Accumulated.addKind, Accumulated.Asks, EffectKind.Asks,
      limitedTo_tighten fun _ _ _ => min_le_iff]
  | budget =>
    cases kind <;> simp [Accumulated.addKind, Accumulated.Asks, EffectKind.Asks,
      limitedTo_tighten decimalMin_le_iff]
  | _ =>
    cases kind <;> simp [Accumulated.addKind, Accumulated.Asks, EffectKind.Asks, mem_addAll,
      mem_addKey]

/-! ## Stricter accumulators -/

/-- What was asked for is asked for still. -/
def Accumulated.Stricter (acc acc' : Accumulated) : Prop :=
  ∀ facet, acc.Asks facet → acc'.Asks facet

theorem decimalLe_refl (a : Decimal) : DecimalLe a a := by
  rcases Decimal.blt_total a a with h | h <;> exact h

variable {rows : List (Policy × Effect)} {rows' : List (Policy × Effect)}

/-- The accumulators depend on the rows as a set. -/
theorem stricter_of_subset (hsub : rows ⊆ rows') :
    (rows.foldl Accumulated.addRow .initial).Stricter
      (rows'.foldl Accumulated.addRow .initial) :=
  fun facet => (latch_asks facet).mono hsub

/-! ## Requirements that are kept -/

/-- A requirement and one of the same type that asks for at least as much. -/
inductive Requirement.KeptBy : Requirement → Requirement → Prop
  | forceProviderWriteFalse : KeptBy .forceProviderWriteFalse .forceProviderWriteFalse
  | forceEnvironment (environment environment' : Environment) (priority priority' : Nat) :
      KeptBy (.forceEnvironment environment priority) (.forceEnvironment environment' priority')
  | limitResources {maximum maximum' : Nat} (h : maximum' ≤ maximum) :
      KeptBy (.limitResources maximum) (.limitResources maximum')
  | limitConcurrency {maximum maximum' : Nat} (h : maximum' ≤ maximum) :
      KeptBy (.limitConcurrency maximum) (.limitConcurrency maximum')
  | limitBudget {maximum maximum' : Decimal} (h : DecimalLe maximum' maximum) :
      KeptBy (.limitBudget maximum) (.limitBudget maximum')
  | requireResourceAuthority {keys keys' : List String} (h : keys ⊆ keys') :
      KeptBy (.requireResourceAuthority keys) (.requireResourceAuthority keys')
  | requireCertification {keys keys' : List String} (h : keys ⊆ keys') :
      KeptBy (.requireCertification keys) (.requireCertification keys')
  | requireApproval {approval approval' : RequiredApproval}
      (requiredRoles : approval.profile.requiredRoles ⊆ approval'.profile.requiredRoles)
      (separationOfDuties : approval.profile.separationOfDuties = true →
        approval'.profile.separationOfDuties = true)
      (expiresInSeconds : approval'.profile.expiresInSeconds ≤ approval.profile.expiresInSeconds)
      (delegationAllowed : approval.profile.delegationAllowed = false →
        approval'.profile.delegationAllowed = false)
      (maxResourceCount : approval'.profile.maxResourceCount ≤ approval.profile.maxResourceCount) :
      KeptBy (.requireApproval approval) (.requireApproval approval')
  | requireTypedConfirmation {keys keys' : List String} (h : keys ⊆ keys') :
      KeptBy (.requireTypedConfirmation keys) (.requireTypedConfirmation keys')
  | requireReadback {keys keys' : List String} (h : keys ⊆ keys') :
      KeptBy (.requireReadback keys) (.requireReadback keys')
  | requireRollback {keys keys' : List String} (h : keys ⊆ keys') :
      KeptBy (.requireRollback keys) (.requireRollback keys')

variable {requirement : List String → Requirement}

theorem mem_keysRequired {r : Requirement} :
    r ∈ keysRequired requirement keys ↔ keys ≠ [] ∧ r = requirement (sortBy keyLe keys) := by
  cases keys <;> simp [keysRequired]

/-- Every requirement is kept by one of the others. -/
def Kept (before after : List Requirement) : Prop :=
  ∀ r ∈ before, ∃ r' ∈ after, r.KeptBy r'

theorem Kept.append {before after before' after' : List Requirement}
    (h : Kept before after) (h' : Kept before' after') :
    Kept (before ++ before') (after ++ after') := by
  intro r hr
  rcases mem_append.mp hr with hr | hr
  · obtain ⟨r', hr', hkept⟩ := h r hr
    exact ⟨r', mem_append_left _ hr', hkept⟩
  · obtain ⟨r', hr', hkept⟩ := h' r hr
    exact ⟨r', mem_append_right _ hr', hkept⟩

theorem kept_flag {b b' : Bool} (h : b = true → b' = true) {r r' : Requirement}
    (hkept : r.KeptBy r') : Kept (if b then [r] else []) (if b' then [r'] else []) := by
  cases b with
  | false => simp [Kept]
  | true => simpa [Kept, h rfl] using hkept

theorem kept_limit {le : α → α → Prop} {limit' : Option α} {requirement : α → Requirement}
    (h : ∀ n ∈ limit, LimitedTo le limit' n)
    (hkept : ∀ n n', le n' n → (requirement n).KeptBy (requirement n')) :
    Kept (limit.toList.map requirement) (limit'.toList.map requirement) := by
  intro r hr
  obtain ⟨n, hn, rfl⟩ := mem_map.mp hr
  obtain ⟨n', hn', hle⟩ := h n (Option.mem_toList.mp hn)
  exact ⟨_, mem_map_of_mem (Option.mem_toList.mpr hn'), hkept n n' hle⟩

theorem kept_keys {keys' : List String} (hsub : keys ⊆ keys')
    (hkept : ∀ {ks ks' : List String}, ks ⊆ ks' →
      (requirement ks).KeptBy (requirement ks')) :
    Kept (keysRequired requirement keys) (keysRequired requirement keys') := by
  intro r hr
  obtain ⟨hne, rfl⟩ := mem_keysRequired.mp hr
  obtain ⟨key, hkey⟩ := exists_mem_of_ne_nil keys hne
  refine ⟨_, mem_keysRequired.mpr ⟨ne_nil_of_mem (hsub hkey), rfl⟩, hkept ?_⟩
  intro other hother
  exact mem_sortBy.mpr (hsub (mem_sortBy.mp hother))

variable {forced : Option (Environment × Nat)} {forced' : Option (Environment × Nat)}

theorem kept_forced (h : forced ≠ none → forced' ≠ none) :
    Kept (forced.toList.map forcedRequirement) (forced'.toList.map forcedRequirement) := by
  cases forced with
  | none => simp [Kept]
  | some entry =>
    obtain ⟨entry', hentry'⟩ := Option.ne_none_iff_exists'.mp (h (Option.some_ne_none _))
    intro r hr
    obtain rfl := mem_singleton.mp hr
    subst hentry'
    exact ⟨_, mem_singleton_self _, .forceEnvironment _ _ _ _⟩

theorem kept_requirements {acc acc' : Accumulated} (h : acc.Stricter acc')
    (hforced : forced ≠ none → forced' ≠ none) (context : Context) :
    Kept (acc.requirements forced context) (acc'.requirements forced' context) := by
  have happroval : (Requirement.requireApproval
      ⟨acc.profile, context, forcedOr forced context.environment⟩).KeptBy
      (.requireApproval ⟨acc'.profile, context, forcedOr forced' context.environment⟩) := by
    refine .requireApproval (fun role hrole => ?_) (h .separationOfDuties)
      (h (.approvalExpiry _) (Nat.le_refl _)) (h .noDelegation)
      (h (.approvedResources _) (Nat.le_refl _))
    exact mem_sortBy.mpr (h (.approvalRole role) (mem_sortBy.mp hrole))
  have hleading := (kept_flag (h .noProviderWrite) .forceProviderWriteFalse).append
    (kept_forced hforced)
  have hlimits := ((hleading.append (kept_limit (fun n hn =>
      h (.resources n) ⟨n, hn, Nat.le_refl n⟩) fun _ _ => .limitResources)).append
    (kept_limit (fun n hn => h (.concurrency n) ⟨n, hn, Nat.le_refl n⟩)
      fun _ _ => .limitConcurrency)).append
    (kept_limit (fun n hn => h (.budget n) ⟨n, hn, decimalLe_refl n⟩) fun _ _ => .limitBudget)
  exact (((((hlimits.append
    (kept_keys (fun key => h (.authority key)) .requireResourceAuthority)).append
    (kept_keys (fun key => h (.certification key)) .requireCertification)).append
    (kept_flag (h .approval) happroval)).append
    (kept_keys (fun key => h (.confirmation key)) .requireTypedConfirmation)).append
    (kept_keys (fun key => h (.readback key)) .requireReadback)).append
    (kept_keys (fun key => h (.rollback key)) .requireRollback)

/-! ## One requirement of each type -/

section Order

variable {n : Nat}

theorem order_flag (r : Requirement) (h : r.order = n) (b : Bool) :
    ((if b then [r] else []).map Requirement.order).Sublist [n] := by
  cases b with
  | false => exact nil_sublist _
  | true => rw [if_pos rfl, map_singleton, h]

theorem order_option (requirement : α → Requirement) (h : ∀ a, (requirement a).order = n)
    (limit : Option α) : ((limit.toList.map requirement).map Requirement.order).Sublist [n] := by
  cases limit with
  | none => exact nil_sublist _
  | some a => rw [Option.toList_some, map_singleton, map_singleton, h]

theorem order_keysRequired (requirement : List String → Requirement)
    (h : ∀ keys, (requirement keys).order = n) (keys : List String) :
    ((keysRequired requirement keys).map Requirement.order).Sublist [n] := by
  unfold keysRequired
  split
  next => exact nil_sublist _
  next => rw [map_singleton, h]

end Order

/-- The types come in the order of `REQUIREMENT_ORDER`, each at most once. -/
theorem order_requirements (acc : Accumulated) (forced : Option (Environment × Nat))
    (context : Context) :
    ((acc.requirements forced context).map Requirement.order).Sublist
      ([0] ++ [1] ++ [2] ++ [3] ++ [4] ++ [5] ++ [6] ++ [7] ++ [8] ++ [9] ++ [10]) := by
  simp only [Accumulated.requirements, map_append]
  have hleading := (order_flag .forceProviderWriteFalse rfl
    acc.forceProviderWriteFalse).append (order_option forcedRequirement (fun _ => rfl) forced)
  have hlimits := ((hleading.append
    (order_option .limitResources (fun _ => rfl) acc.resourceLimit)).append
    (order_option .limitConcurrency (fun _ => rfl) acc.concurrencyLimit)).append
    (order_option .limitBudget (fun _ => rfl) acc.budgetLimit)
  exact (((((hlimits.append
    (order_keysRequired .requireResourceAuthority (fun _ => rfl) acc.authorityKeys)).append
    (order_keysRequired .requireCertification (fun _ => rfl) acc.certificationKeys)).append
    (order_flag _ rfl acc.approvalRequired)).append
    (order_keysRequired .requireTypedConfirmation (fun _ => rfl) acc.confirmationKeys)).append
    (order_keysRequired .requireReadback (fun _ => rfl) acc.readbackKeys)).append
    (order_keysRequired .requireRollback (fun _ => rfl) acc.rollbackKeys)

/-! ## Two compilations -/

/-- The second decision asks for at least as much as the first. -/
structure AtLeastAsRestrictive (before after : PolicyDecision) : Prop where
  deny : before.decision = .deny → after.decision = .deny
  requirements : before.decision = .allowWithRequirements → after.decision ≠ .allow
  kept : ∀ r ∈ before.requirements, ∃ r' ∈ after.requirements, r.KeptBy r'
  /-- So `kept` speaks of the only requirement of that type. -/
  single : (after.requirements.map Requirement.order).Nodup

/-- An environment is forced exactly when some row forces one. -/
theorem resolveForcedEnvironment_ne_none (h : resolveForcedEnvironment rows = .ok forced) :
    forced ≠ none ↔ forcedBy rows ≠ [] := by
  unfold resolveForcedEnvironment at h
  simp only at h
  split at h
  next hnil =>
    cases h
    simp [hnil]
  next hcons _ =>
    cases h
    simp [hcons]
  next => cases h

variable {matched matched' : List Policy}

theorem effectRows_subset (hsub : matched ⊆ matched') :
    effectRows matched ⊆ effectRows matched' := by
  intro row hrow
  obtain ⟨policy, hpolicy, heffect⟩ := mem_flatMap.mp hrow
  exact mem_flatMap.mpr ⟨policy, hsub hpolicy, heffect⟩

variable {rt : Runtime} {localeLe : String → String → Bool} {context : Context}

theorem matchedPolicies_subset {policies policies' : List Policy} (hsub : policies ⊆ policies') :
    matchedPolicies rt localeLe context policies ⊆
      matchedPolicies rt localeLe context policies' := by
  intro policy hpolicy
  obtain ⟨hmem, hmatches⟩ := mem_filter.mp (mem_sortBy.mp hpolicy)
  exact mem_sortBy.mpr (mem_filter.mpr ⟨hsub hmem, hmatches⟩)

variable {compiled compiled' : Compiled} {policies : List Val}

theorem verdictOf_eq_deny : verdictOf compiled = .deny ↔ compiled.denials ≠ [] := by
  unfold verdictOf
  cases compiled.denials <;> cases compiled.requirements <;> simp

theorem verdictOf_eq_allow :
    verdictOf compiled = .allow ↔ compiled.denials = [] ∧ compiled.requirements = [] := by
  unfold verdictOf
  cases compiled.denials <;> cases compiled.requirements <;> simp

theorem verdictOf_eq_allowWithRequirements (h : verdictOf compiled = .allowWithRequirements) :
    compiled.requirements ≠ [] := by
  intro hnil
  unfold verdictOf at h
  rw [hnil] at h
  cases hdenials : compiled.denials <;> simp [hdenials] at h

/-- What `compileRequirements` returns, up to the order of its lists. -/
theorem compileRequirements_ok (h : compileRequirements localeLe matched context = .ok compiled) :
    ∃ forced, resolveForcedEnvironment (effectRows matched) = .ok forced ∧
      compiled.requirements.Perm
        (((effectRows matched).foldl Accumulated.addRow .initial).requirements forced context) ∧
      compiled.denials.Perm ((effectRows matched).foldl Accumulated.addRow .initial).denials := by
  simp only [compileRequirements, bind_eq_ok] at h
  obtain ⟨forced, hforced, h⟩ := h
  cases h
  exact ⟨forced, hforced, sortBy_perm _ _, sortBy_perm _ _⟩

/-- More matched policies give requirements that are at least as strict. -/
theorem compiled_mono (hsub : matched ⊆ matched')
    (h : compileRequirements localeLe matched context = .ok compiled)
    (h' : compileRequirements localeLe matched' context = .ok compiled') :
    (compiled.denials ≠ [] → compiled'.denials ≠ []) ∧
      Kept compiled.requirements compiled'.requirements ∧
      (compiled'.requirements.map Requirement.order).Nodup := by
  have hrows := effectRows_subset hsub
  have hstricter := stricter_of_subset hrows
  obtain ⟨forced, hforced, hrequirements, hdenials⟩ := compileRequirements_ok h
  obtain ⟨forced', hforced', hrequirements', hdenials'⟩ := compileRequirements_ok h'
  refine ⟨?_, ?_, ?_⟩
  · intro hne
    obtain ⟨denial, hdenial⟩ := exists_mem_of_ne_nil _ hne
    obtain ⟨denial', hdenial'⟩ := exists_mem_of_ne_nil _
      (hstricter .denial (ne_nil_of_mem (hdenials.mem_iff.mp hdenial)))
    exact ne_nil_of_mem (hdenials'.mem_iff.mpr hdenial')
  · have hkeeps : forced ≠ none → forced' ≠ none := by
      rw [resolveForcedEnvironment_ne_none hforced, resolveForcedEnvironment_ne_none hforced']
      intro hne
      obtain ⟨candidate, hcandidate⟩ := exists_mem_of_ne_nil _ hne
      exact ne_nil_of_mem (filterMap_subset _ hrows hcandidate)
    intro r hr
    obtain ⟨r', hr', hkept⟩ :=
      kept_requirements hstricter hkeeps context r (hrequirements.mem_iff.mp hr)
    exact ⟨r', hrequirements'.mem_iff.mpr hr', hkept⟩
  · rw [(hrequirements'.map _).nodup_iff]
    exact (order_requirements _ _ _).nodup (by decide)

theorem atLeastAsRestrictive_decisionOf
    (hdenials : compiled.denials ≠ [] → compiled'.denials ≠ [])
    (hkept : Kept compiled.requirements compiled'.requirements)
    (hsingle : (compiled'.requirements.map Requirement.order).Nodup) :
    AtLeastAsRestrictive (decisionOf rt context matched compiled)
      (decisionOf rt context matched' compiled') := by
  constructor
  · intro hdeny
    exact verdictOf_eq_deny.mpr (hdenials (verdictOf_eq_deny.mp hdeny))
  · intro hrequirements hallow
    obtain ⟨r, hr⟩ := exists_mem_of_ne_nil _ (verdictOf_eq_allowWithRequirements hrequirements)
    obtain ⟨r', hr', -⟩ := hkept r hr
    exact ne_nil_of_mem hr' (verdictOf_eq_allow.mp hallow).2
  · exact hkept
  · exact hsingle

theorem policiesOf_arr {elems : List Val} (h : policiesOf (.arr policies) = .ok elems) :
    elems = policies := by
  unfold policiesOf at h
  simp only at h
  split at h
  · cases h
  · exact (Except.ok.inj h).symm

theorem compileGrowthControlPolicyDecision_ok {contextInput : Val} {decision : PolicyDecision}
    (h : compileGrowthControlPolicyDecision rt localeLe (.arr policies) contextInput =
      .ok decision) :
    ∃ context normalized compiled,
      normalizeContext (withDefault contextInput (.obj [])) = .ok context ∧
      policies.zipIdx.mapM (fun (policy, index) => normalizePolicy policy index) =
        .ok normalized ∧
      compileRequirements localeLe (matchedPolicies rt localeLe context normalized) context =
        .ok compiled ∧
      decision = decisionOf rt context (matchedPolicies rt localeLe context normalized)
        compiled := by
  simp only [compileGrowthControlPolicyDecision, bind_eq_ok] at h
  obtain ⟨_, -, _, -, elems, helems, context, hcontext, normalized, hnormalized, _, -,
    compiled, hcompiled, h⟩ := h
  obtain rfl := policiesOf_arr helems
  exact ⟨context, normalized, compiled, hcontext, hnormalized, hcompiled, (Except.ok.inj h).symm⟩

/-- Adding a policy to a list that compiles never weakens the decision. -/
theorem adding_policy_never_weakens (rt : Runtime) (localeLe : String → String → Bool)
    (policies : List Val) (extra context : Val) (before after : PolicyDecision)
    (hbefore : compileGrowthControlPolicyDecision rt localeLe (.arr policies) context =
      .ok before)
    (hafter : compileGrowthControlPolicyDecision rt localeLe (.arr (policies ++ [extra]))
      context = .ok after) : AtLeastAsRestrictive before after := by
  obtain ⟨normal, normalized, compiled, hcontext, hnormalized, hcompiled, rfl⟩ :=
    compileGrowthControlPolicyDecision_ok hbefore
  obtain ⟨normal', normalized', compiled', hcontext', hnormalized', hcompiled', rfl⟩ :=
    compileGrowthControlPolicyDecision_ok hafter
  cases hcontext.symm.trans hcontext'
  rw [zipIdx_append, mapM_append, hnormalized, ok_bind, bind_eq_ok] at hnormalized'
  obtain ⟨added, -, hnormalized'⟩ := hnormalized'
  cases hnormalized'
  obtain ⟨hdenials, hkept, hsingle⟩ := compiled_mono
    (matchedPolicies_subset (subset_append_left _ _)) hcompiled hcompiled'
  exact atLeastAsRestrictive_decisionOf hdenials hkept hsingle

def sampleRuntime : Runtime where
  sha256 := id
  timeOf _ := none
  isoString _ := ""

def sampleContext : Val :=
  .obj [("tenant_id", .str "t1"), ("operation_key", .str "run"), ("capability_key", .str "cap")]

/-- An active policy that limits the resources. -/
def samplePolicy (key : String) (maximum : Nat) : Val :=
  .obj [("policy_key", .str key), ("policy_version_id", .str "v1"),
    ("version", .num (.ofNat 1)), ("immutable", .bool true),
    ("effects", .arr [.obj [("type", .str "limit_resources"), ("maximum", .num (.ofNat maximum))]])]

theorem sample_compiles : ∃ before, compileGrowthControlPolicyDecision sampleRuntime keyLe
    (.arr [samplePolicy "first" 5]) sampleContext = .ok before :=
  exists_of_isOk (by decide +kernel)

theorem sample_compiles_with_extra : ∃ after,
    compileGrowthControlPolicyDecision sampleRuntime keyLe
      (.arr ([samplePolicy "first" 5] ++ [samplePolicy "second" 3])) sampleContext =
        .ok after :=
  exists_of_isOk (by decide +kernel)

theorem adding_tighter_limit : ∃ before after,
    compileGrowthControlPolicyDecision sampleRuntime keyLe (.arr [samplePolicy "first" 5])
      sampleContext = .ok before ∧
    compileGrowthControlPolicyDecision sampleRuntime keyLe
      (.arr ([samplePolicy "first" 5] ++ [samplePolicy "second" 3])) sampleContext =
        .ok after ∧
    AtLeastAsRestrictive before after := by
  obtain ⟨before, hbefore⟩ := sample_compiles
  obtain ⟨after, hafter⟩ := sample_compiles_with_extra
  exact ⟨before, after, hbefore, hafter,
    adding_policy_never_weakens _ _ _ _ _ before after hbefore hafter⟩

end GrowthOs.GrowthControl.PolicyCompiler
