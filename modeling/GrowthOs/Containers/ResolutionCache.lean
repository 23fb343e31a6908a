import GrowthOs.Containers.Resolution
import GrowthOs.Support.Transition

/-!
# Whether the resolution cache can be seen

A process answers any sequence of requests while nobody writes the tables.  The
database reads its clock at each request, and rows come and go with their
validity windows though no row changes and the epoch stays.  The key of a cached
resolution leaves out the mode of the request, the epoch and the snapshot it
expects, and the time.  Where requests with the same key agree on the first three
and find the same rows valid, every answer is the one an empty cache would give.
-/

namespace GrowthOs.Containers

open Js Transition List
open Throwing (bind_eq_ok)

variable {sql : Sql} {rawInput : Val}

/-! ## Requests over unchanged tables -/

structure ResolveRequest where
  rawInput : Val
  drawnId : String
  expiresAt : String
  nowMs : Nat

/-- Both attempts of the call find the same tables. -/
def ResolveRequest.call (request : ResolveRequest) (s : AuthorityStore sql) : ResolveCall sql :=
  { drawnId := request.drawnId
    expiresAt := request.expiresAt
    first := ⟨s, s, request.nowMs⟩
    second := ⟨s, s, request.nowMs⟩ }

/-- The request has no idempotency key. -/
def ResolveRequest.Keyless (request : ResolveRequest) : Prop :=
  (request.rawInput.member "idempotencyKey").truthy = false

/-- The tables as they are read when the clock of the database shows `now`. -/
def AuthorityStore.atTime (s : AuthorityStore sql) (now : Nat) : AuthorityStore sql :=
  { s with now }

/-- `resolved now ..` reads the tables at the time `now` of the database. -/
inductive CacheEvent
  | resolved (now : Nat) (request : ResolveRequest) (result : Except Val ResolveResult)
  | invalidated (tenantId : String)

section

variable (rt : Runtime) (localeLe : String → String → Bool) (reg : Registry)
  (enforcementEnabled : Bool) (s : AuthorityStore sql)

/-- One call of the process. -/
def answer (request : ResolveRequest) (w : ResolverWorld sql) :
    Except Val ResolveResult × ResolverWorld sql :=
  resolveEffectiveContainerContext rt localeLe reg enforcementEnabled request.rawInput
    (request.call s) w

/-- Both attempts find the same tables at the same time. -/
def steadyEvidence (input : ResolveInput) (nowMs : Nat) (cache : Cache) :
    Except Val (Evidence × Bool) × Cache :=
  resolveEvidence rt localeLe reg input ⟨s, s, nowMs⟩ ⟨s, s, nowMs⟩ cache

/-- The same tables with nothing cached. -/
def ResolverWorld.uncached (w : ResolverWorld sql) : ResolverWorld sql :=
  { w with cache := [] }

/-- A request is answered, or the cache is invalidated for a tenant. -/
def CacheStep (w : ResolverWorld sql) (e : CacheEvent) (w' : ResolverWorld sql) : Prop :=
  match e with
  | .resolved now request result =>
    request.Keyless ∧
      answer rt localeLe reg enforcementEnabled (s.atTime now) request w = (result, w')
  | .invalidated tenantId =>
    w' = { w with cache := invalidateContainerAuthorityCache w.cache tenantId }

/-- The state the request of an input loads. -/
def ResolveInput.state (input : ResolveInput) : AuthorityState :=
  loadContainerAuthorityState reg s input.tenantId input.targetContainerId input.principal

def ResolveInput.cacheKey (input : ResolveInput) : String :=
  buildContainerResolutionCacheKey rt input (input.state reg s).authorityEpoch

/-- The rows of a tenant that are valid at one time are those valid at the other. -/
structure WindowsKeep (tenantId : String) (now now' : Nat) : Prop where
  relationships : ∀ row ∈ s.relationships.rows, sql.collate row.tenantId = sql.collate tenantId →
    validAt now row.validFrom row.validUntil = validAt now' row.validFrom row.validUntil
  classifications : ∀ row ∈ reg.classifications, sql.collate row.tenantId = sql.collate tenantId →
    validAt now row.validFrom row.validUntil = validAt now' row.validFrom row.validUntil
  roleAssignments : ∀ row ∈ s.roleAssignments.rows,
    sql.collate row.tenantId = sql.collate tenantId →
    validAt now row.validFrom row.validUntil = validAt now' row.validFrom row.validUntil
  bindings : ∀ row ∈ s.bindings.rows, sql.collate row.tenantId = sql.collate tenantId →
    validAt now row.validFrom row.validUntil = validAt now' row.validFrom row.validUntil

/-- Requests with the same key agree on all that a resolution depends on. -/
def KeysAgree (events : List CacheEvent) : Prop :=
  ∀ now₁ request₁ result₁ now₂ request₂ result₂ input₁ input₂,
    .resolved now₁ request₁ result₁ ∈ events → .resolved now₂ request₂ result₂ ∈ events →
    readResolveInput enforcementEnabled request₁.rawInput = .ok input₁ →
    readResolveInput enforcementEnabled request₂.rawInput = .ok input₂ →
    input₁.cacheKey rt reg s = input₂.cacheKey rt reg s →
      input₁.contextFields = input₂.contextFields ∧
        WindowsKeep reg s input₁.tenantId now₁ now₂

end

/-- Resolutions that agree in what they say. -/
structure Resolution.SaysSame (r r' : Resolution) : Prop where
  decision : r.evidence.decision = r'.evidence.decision
  mode : r.evidence.mode = r'.evidence.mode
  requestSha256 : r.evidence.requestSha256 = r'.evidence.requestSha256
  resolutionSha256 : r.evidence.resolutionSha256 = r'.evidence.resolutionSha256
  registrySnapshotHash : r.evidence.registrySnapshotHash = r'.evidence.registrySnapshotHash
  blockingCodes : r.evidence.blockingCodes = r'.evidence.blockingCodes
  effectiveBindings : r.evidence.effectiveBindings = r'.evidence.effectiveBindings

/-- The same error, or resolutions that say the same. -/
inductive SameOutcome : Except Val ResolveResult → Except Val ResolveResult → Prop
  | error (e : Val) : SameOutcome (.error e) (.error e)
  | fresh {r r' : Resolution} : r.SaysSame r' → SameOutcome (.ok (.fresh r)) (.ok (.fresh r'))

/-! ## Evidence depends on the context of a request -/

theorem Principal.toVal_injective {p q : Principal} (h : p.toVal = q.toVal) : p = q := by
  obtain ⟨type, id⟩ := p
  obtain ⟨type', id'⟩ := q
  simp only [Principal.toVal, Val.obj.injEq, List.cons.injEq, Prod.mk.injEq,
    Val.str.injEq, true_and, and_true] at h
  obtain ⟨htype, rfl⟩ := h
  have hsame : type = type' := by
    cases type <;> cases type' <;> first | rfl | (exact absurd htype (by decide))
  rw [hsame]

theorem DimensionRequest.toVal_injective {p q : DimensionRequest}
    (h : p.toVal = q.toVal) : p = q := by
  obtain ⟨dimension, resourceType, resourceRef, operation, capabilityKey⟩ := p
  obtain ⟨dimension', resourceType', resourceRef', operation', capabilityKey'⟩ := q
  simp only [DimensionRequest.toVal, Val.obj.injEq, List.cons.injEq, Prod.mk.injEq,
    Val.str.injEq, true_and, and_true] at h
  obtain ⟨rfl, rfl, rfl, rfl, hkey⟩ := h
  have hsame : capabilityKey = capabilityKey' := by
    cases capabilityKey <;> cases capabilityKey' <;> simp_all [optionVal]
  rw [hsame]

theorem ResolutionMode.text_injective {m n : ResolutionMode} (h : m.text = n.text) : m = n := by
  cases m <;> cases n <;> first | rfl | (exact absurd h (by decide))

/-- The snapshot a request expects is `null` or truthy. -/
def ResolveInput.Normal (input : ResolveInput) : Prop :=
  input.expectedRegistrySnapshotHash.or .null = input.expectedRegistrySnapshotHash

theorem readResolveInput_normal {enforcementEnabled : Bool} {input : ResolveInput}
    (h : readResolveInput enforcementEnabled rawInput = .ok input) : input.Normal := by
  simp only [readResolveInput, bind_eq_ok] at h
  obtain ⟨_, _, _, _, _, _, _, _, _, _, _, _, _, _, _, _, _, _, h⟩ := h
  cases h
  unfold ResolveInput.Normal
  by_cases htruthy : (rawInput.member "expectedRegistrySnapshotHash").truthy = true
  · simp [Val.or, htruthy]
  · simp [Val.or, htruthy]

/-- All that evidence is computed from. -/
structure ResolveInput.SameContext (input₁ input₂ : ResolveInput) : Prop where
  principal : input₁.principal = input₂.principal
  tenantId : input₁.tenantId = input₂.tenantId
  targetContainerId : input₁.targetContainerId = input₂.targetContainerId
  dimensionRequests : input₁.dimensionRequests = input₂.dimensionRequests
  mode : input₁.mode = input₂.mode
  expectedRegistrySnapshotHash :
    input₁.expectedRegistrySnapshotHash = input₂.expectedRegistrySnapshotHash
  contextFields : input₁.contextFields = input₂.contextFields

theorem ResolveInput.sameContext_of_fields {input₁ input₂ : ResolveInput}
    (hnormal₁ : input₁.Normal) (hnormal₂ : input₂.Normal)
    (h : input₁.contextFields = input₂.contextFields) : input₁.SameContext input₂ := by
  have hfields := h
  simp only [ResolveInput.contextFields, List.cons.injEq, Prod.mk.injEq, Val.str.injEq,
    true_and, and_true] at hfields
  obtain ⟨hprincipal, htenant, htarget, hrequests, hmode, _, hhash⟩ := hfields
  refine ⟨Principal.toVal_injective hprincipal, htenant, htarget, ?_,
    ResolutionMode.text_injective hmode, ?_, h⟩
  · simp only [dimensionRequestsVal, Val.arr.injEq] at hrequests
    exact map_injective_iff.mpr (fun _ _ => DimensionRequest.toVal_injective) hrequests
  · rw [← hnormal₁, ← hnormal₂]
    exact hhash

theorem evidenceOf_congr {rt : Runtime} {localeLe : String → String → Bool}
    {input₁ input₂ : ResolveInput} (h : input₁.SameContext input₂)
    (state : AuthorityState) (target : ContainerRow) :
    evidenceOf rt localeLe input₁ state target = evidenceOf rt localeLe input₂ state target := by
  unfold evidenceOf pathsOf buildResolutionEvidence
  rw [h.targetContainerId, h.dimensionRequests, h.expectedRegistrySnapshotHash,
    h.principal, h.tenantId, h.mode, h.contextFields]

section

variable {rt : Runtime} {localeLe : String → String → Bool} {reg : Registry}
  {enforcementEnabled : Bool} {s : AuthorityStore sql} {input : ResolveInput}
  {cache : Cache} {now nowMs : Nat}

/-- While the windows keep, a request loads the same state. -/
theorem ResolveInput.SameContext.state_eq {input' : ResolveInput} {now' : Nat}
    (h : input'.SameContext input) (hkeep : WindowsKeep reg s input'.tenantId now' now) :
    input'.state reg (s.atTime now') = input.state reg (s.atTime now) := by
  rw [h.tenantId] at hkeep
  unfold ResolveInput.state
  rw [h.tenantId, h.targetContainerId, h.principal]
  have hvalid : ∀ {taken valid valid' : Bool}, (taken = true → valid = valid') →
      (taken && valid) = (taken && valid') := by
    intro taken valid valid' h
    cases taken with
    | false => rfl
    | true => exact h rfl
  have hrelationships : loadedRelationships (s.atTime now') input.tenantId =
      loadedRelationships (s.atTime now) input.tenantId :=
    filter_congr fun row hrow => hvalid fun h =>
      hkeep.relationships row hrow (by simp_all)
  unfold loadContainerAuthorityState
  rw [hrelationships, AuthorityState.mk.injEq]
  refine ⟨rfl, rfl, rfl, rfl, rfl, rfl, rfl, ?_, ?_, rfl, rfl, rfl, ?_, rfl⟩
  · exact filter_congr fun row hrow => hvalid fun h =>
      hkeep.classifications row hrow (by simp_all)
  · exact filter_congr fun row hrow => hvalid fun h =>
      hkeep.roleAssignments row hrow (by simp_all)
  · exact filter_congr fun row hrow => hvalid fun h =>
      hkeep.bindings row hrow (by simp_all)

/-! ## What is in the cache -/

/-- Over unchanged tables the first attempt decides. -/
theorem steadyEvidence_eq (rt : Runtime) (localeLe : String → String → Bool)
    (reg : Registry) (s : AuthorityStore sql) (input : ResolveInput) (cache : Cache) (nowMs : Nat) :
    steadyEvidence rt localeLe reg s input nowMs cache =
      match checkTarget input (input.state reg s) with
      | .error e => (.error e, cache)
      | .ok target =>
        match cacheGet cache (input.cacheKey rt reg s) (input.state reg s).authorityEpoch nowMs with
        | (some cached, cache) => (.ok (cached, true), cache)
        | (none, cache) =>
          match evidenceOf rt localeLe input (input.state reg s) target with
          | .error e => (.error e, cache)
          | .ok evidence =>
            (.ok (evidence, false), cache.put
                { key := input.cacheKey rt reg s
                  tenantId := input.tenantId
                  authorityEpoch := (input.state reg s).authorityEpoch
                  expiresAtMs := nowMs + 30000
                  value := evidence }) := by
  have hstate : loadContainerAuthorityState reg s input.tenantId
      input.targetContainerId input.principal = input.state reg s := rfl
  have hepoch : readContainerAuthorityEpoch s input.tenantId =
      (input.state reg s).authorityEpoch := rfl
  have hkey : buildContainerResolutionCacheKey rt input
      (input.state reg s).authorityEpoch = input.cacheKey rt reg s := rfl
  unfold steadyEvidence resolveEvidence attemptResolution
  dsimp only
  rw [hstate, hepoch, hkey]
  cases checkTarget input (input.state reg s) with
  | error e => rfl
  | ok target =>
    dsimp only
    rcases cacheGet cache (input.cacheKey rt reg s)
      (input.state reg s).authorityEpoch nowMs with ⟨_ | cached, kept⟩
    · cases evidenceOf rt localeLe input (input.state reg s) target with
      | error e => rfl
      | ok evidence => simp only [ne_eq, not_true_eq_false, if_false]
    · simp only [ne_eq, not_true_eq_false, if_false]

/-- An item is what an earlier request computed under its key. -/
def CacheItem.Faithful (rt : Runtime) (localeLe : String → String → Bool)
    (reg : Registry) (enforcementEnabled : Bool) (s : AuthorityStore sql)
    (history : List CacheEvent) (item : CacheItem) : Prop :=
  ∃ now request result input target, .resolved now request result ∈ history ∧
    readResolveInput enforcementEnabled request.rawInput = .ok input ∧
    item.key = input.cacheKey rt reg s ∧
    checkTarget input (input.state reg (s.atTime now)) = .ok target ∧
    evidenceOf rt localeLe input (input.state reg (s.atTime now)) target = .ok item.value

variable {item : CacheItem}

theorem mem_cacheGet {key : String} {epoch : Nat}
    (h : item ∈ (cacheGet cache key epoch nowMs).2) : item ∈ cache := by
  unfold cacheGet at h
  split at h
  next => exact h
  next =>
    split at h
    next => exact (mem_filter.mp h).1
    next => exact h

theorem cacheGet_some {key : String} {epoch : Nat} {cached : Evidence} {kept : Cache}
    (h : cacheGet cache key epoch nowMs = (some cached, kept)) :
    ∃ item ∈ cache, item.key = key ∧ item.value = cached := by
  unfold cacheGet at h
  split at h
  next => cases (Prod.mk.inj h).1
  next item hitem =>
    split at h
    next => cases (Prod.mk.inj h).1
    next =>
      have hkey := List.find?_some hitem
      exact ⟨item, mem_of_find?_eq_some hitem, by simpa using hkey,
        Option.some.inj (Prod.mk.inj h).1⟩

/-- What a call leaves in the cache was there, or is what it computed. -/
theorem mem_steadyEvidence
    (h : item ∈ (steadyEvidence rt localeLe reg s input nowMs cache).2) :
    item ∈ cache ∨ item.key = input.cacheKey rt reg s ∧
      ∃ target, checkTarget input (input.state reg s) = .ok target ∧
        evidenceOf rt localeLe input (input.state reg s) target = .ok item.value := by
  rw [steadyEvidence_eq] at h
  split at h
  next => exact .inl h
  next target htarget =>
    split at h
    next cached kept hget =>
      left
      apply mem_cacheGet
      rw [hget]
      exact h
    next kept hget =>
      have hkept : ∀ item ∈ kept, item ∈ cache := by
        intro item hmem
        apply mem_cacheGet
        rw [hget]
        exact hmem
      split at h
      next => exact .inl (hkept item h)
      next evidence hevidence =>
        rcases mem_append.mp h with hold | hnew
        · exact .inl (hkept item (mem_filter.mp hold).1)
        · obtain rfl := mem_singleton.mp hnew
          exact .inr ⟨rfl, target, htarget, hevidence⟩

theorem checkTarget_ok {state : AuthorityState} {target : ContainerRow}
    (h : checkTarget input state = .ok target) : state.target = some target := by
  simp only [checkTarget, bind_eq_ok, requireRow_eq_ok] at h
  obtain ⟨row, hrow, _, _, _, _, h⟩ := h
  rw [hrow, Except.ok.inj h]

variable {history : List CacheEvent} {request : ResolveRequest}

/-- The cache gives what an empty one would lead to, where it is faithful and
the keys agree. -/
theorem steadyEvidence_transparent {result : Except Val ResolveResult} (hfaithful : ∀ item ∈ cache,
      item.Faithful rt localeLe reg enforcementEnabled s history)
    (hagree : KeysAgree rt reg enforcementEnabled s (history ++ [.resolved now request result]))
    (hread : readResolveInput enforcementEnabled request.rawInput = .ok input) :
    (steadyEvidence rt localeLe reg (s.atTime now) input nowMs cache).1.map Prod.fst =
      (steadyEvidence rt localeLe reg (s.atTime now) input nowMs []).1.map Prod.fst := by
  have hempty : ∀ key epoch, cacheGet [] key epoch nowMs = (none, []) :=
    fun _ _ => rfl
  rw [steadyEvidence_eq, steadyEvidence_eq, hempty]
  cases htarget : checkTarget input (input.state reg (s.atTime now)) with
  | error e => rfl
  | ok target =>
    dsimp only
    rcases hget : cacheGet cache (input.cacheKey rt reg (s.atTime now))
      (input.state reg (s.atTime now)).authorityEpoch nowMs with ⟨_ | cached, kept⟩
    · cases evidenceOf rt localeLe input (input.state reg (s.atTime now)) target with
      | error e | ok evidence => rfl
    · obtain ⟨item, hitem, hkey, rfl⟩ := cacheGet_some hget
      obtain ⟨now', request', result', input', target', hmem, hread', hkey', htarget',
        hevidence⟩ := hfaithful item hitem
      -- The key holds the epoch, which the clock does not move.
      obtain ⟨hfields, hkeep⟩ := hagree now' request' result' now request result input' input
        (mem_append_left _ hmem) (mem_append_right _ mem_cons_self)
        hread' hread (hkey'.symm.trans hkey)
      have hcontext := ResolveInput.sameContext_of_fields
        (readResolveInput_normal hread') (readResolveInput_normal hread) hfields
      rw [hcontext.state_eq hkeep] at hevidence htarget'
      obtain rfl := Option.some.inj ((checkTarget_ok htarget').symm.trans (checkTarget_ok htarget))
      rw [evidenceOf_congr hcontext] at hevidence
      rw [hevidence]
      rfl

/-! ## Whole calls -/

theorem readResolveInput_idempotencyKey
    (h : readResolveInput enforcementEnabled rawInput = .ok input)
    (hkeyless : (rawInput.member "idempotencyKey").truthy = false) :
    input.idempotencyKey.truthy = false := by
  simp only [readResolveInput, bind_eq_ok] at h
  obtain ⟨_, _, _, _, _, _, _, _, _, _, _, _, _, _, _, _, _, _, h⟩ := h
  cases h
  have hnull : (rawInput.member "idempotencyKey").or .null = .null := by
    simp [Val.or, hkeyless]
  rw [hnull]
  rfl

variable (rt input) in
/-- What a call writes does not touch the cache. -/
theorem writeResolution_cache (r : Resolution) (w : ResolverWorld sql) :
    (writeResolution rt input r w).2.cache = w.cache := by
  unfold writeResolution
  cases persistContainerResolution w.ledger r with
  | error e => rfl
  | ok ledger =>
    dsimp only
    cases shadowComparison input r with
    | error e => rfl
    | ok comparisons =>
      cases keepResolution rt input r w.store with
      | error e | ok store => rfl

/-- Whether a resolution came from the cache is not written without a key. -/
theorem writeResolution_cacheHit (hkeyless : input.idempotencyKey.truthy = false)
    (r : Resolution) (hit : Bool) (w : ResolverWorld sql) (cache' : Cache) :
    (writeResolution rt input { r with cacheHit := hit } { w with cache := cache' }).1 =
      (writeResolution rt input r w).1 := by
  have hkept : ∀ r : Resolution, keepResolution rt input r w.store = .ok w.store := by
    intro r
    unfold keepResolution
    rw [if_pos hkeyless]
  have hpersist : persistContainerResolution w.ledger { r with cacheHit := hit } =
      persistContainerResolution w.ledger r := rfl
  have hcompare : shadowComparison input { r with cacheHit := hit } =
      shadowComparison input r := rfl
  unfold writeResolution
  dsimp only
  rw [hpersist, hcompare, hkept, hkept]
  cases persistContainerResolution w.ledger r with
  | error e => rfl
  | ok ledger =>
    cases shadowComparison input r with
    | error e | ok comparisons => rfl

/-- The resolution a call makes of evidence. -/
def ResolveRequest.resolution (request : ResolveRequest) (input : ResolveInput)
    (evidence : Evidence) (cacheHit : Bool) : Resolution :=
  { evidence
    resolutionId := request.drawnId
    requestId := input.requestId
    idempotencyKey := input.idempotencyKey
    expiresAt := request.expiresAt
    cacheHit }

/-- A call without a key looks for evidence and writes what it finds. -/
theorem answer_keyless (hkeyless : request.Keyless)
    (hread : readResolveInput enforcementEnabled request.rawInput = .ok input)
    (w : ResolverWorld sql) :
    answer rt localeLe reg enforcementEnabled s request w =
      match steadyEvidence rt localeLe reg s input request.nowMs w.cache with
      | (.error e, cache) => (.error e, { w with cache })
      | (.ok (evidence, cacheHit), cache) =>
        match writeResolution rt input (request.resolution input evidence cacheHit)
          { w with cache } with
        | (.error e, w) => (.error e, w)
        | (.ok (), w) => (.ok (.fresh (request.resolution input evidence cacheHit)), w) := by
  have hkey := readResolveInput_idempotencyKey hread hkeyless
  have hkept : readKeptResolution rt input w.store = .ok none := by
    unfold readKeptResolution
    rw [if_pos hkey]
  unfold answer resolveEffectiveContainerContext
  rw [hread]
  dsimp only
  rw [hkept]
  rfl

variable (rt localeLe reg s) in
theorem answer_cache (hkeyless : request.Keyless) (w : ResolverWorld sql) :
    (answer rt localeLe reg enforcementEnabled s request w).2.cache = w.cache ∨
      ∃ input, readResolveInput enforcementEnabled request.rawInput = .ok input ∧
        (answer rt localeLe reg enforcementEnabled s request w).2.cache =
          (steadyEvidence rt localeLe reg s input request.nowMs w.cache).2 := by
  cases hread : readResolveInput enforcementEnabled request.rawInput with
  | error e =>
    left
    unfold answer resolveEffectiveContainerContext
    rw [hread]
  | ok input =>
    right
    refine ⟨input, rfl, ?_⟩
    rw [answer_keyless hkeyless hread]
    obtain ⟨e | ⟨evidence, hit⟩, cache⟩ :=
      steadyEvidence rt localeLe reg s input request.nowMs w.cache
    · rfl
    · have hcache := writeResolution_cache rt input
        (request.resolution input evidence hit) { w with cache }
      dsimp only
      split
      all_goals next hwrite =>
        rw [hwrite] at hcache
        exact hcache

/-- Calls that find the same evidence have the same outcome. -/
theorem answer_same (hkeyless : request.Keyless)
    (hread : readResolveInput enforcementEnabled request.rawInput = .ok input)
    (w : ResolverWorld sql) (cache' : Cache)
    (hsame : (steadyEvidence rt localeLe reg s input request.nowMs w.cache).1.map Prod.fst =
      (steadyEvidence rt localeLe reg s input request.nowMs cache').1.map Prod.fst) :
    SameOutcome (answer rt localeLe reg enforcementEnabled s request w).1
      (answer rt localeLe reg enforcementEnabled s request { w with cache := cache' }).1 := by
  have hkey := readResolveInput_idempotencyKey hread hkeyless
  rw [answer_keyless hkeyless hread, answer_keyless hkeyless hread]
  revert hsame
  generalize steadyEvidence rt localeLe reg s input request.nowMs w.cache = found
  generalize steadyEvidence rt localeLe reg s input request.nowMs cache' = found'
  intro hsame
  obtain ⟨e | ⟨evidence, hit⟩, cache⟩ := found <;>
    obtain ⟨e' | ⟨evidence', hit'⟩, kept⟩ := found'
  · rw [Except.error.inj hsame]
    exact .error e'
  · cases hsame
  · cases hsame
  · obtain rfl : evidence = evidence' := Except.ok.inj hsame
    have hwrite : (writeResolution rt input (request.resolution input evidence hit')
        { w with cache := kept }).1 =
      (writeResolution rt input (request.resolution input evidence hit) { w with cache }).1 :=
      writeResolution_cacheHit hkey (request.resolution input evidence hit) hit'
        { w with cache } kept
    dsimp only at hwrite ⊢
    revert hwrite
    generalize writeResolution rt input (request.resolution input evidence hit)
      { w with cache } = written
    generalize writeResolution rt input (request.resolution input evidence hit')
      { w with cache := kept } = written'
    intro hwrite
    obtain ⟨e | _, w₁⟩ := written <;> obtain ⟨e' | _, w₂⟩ := written'
    · rw [Except.error.inj hwrite]
      exact .error e
    · cases hwrite
    · cases hwrite
    · exact .fresh ⟨rfl, rfl, rfl, rfl, rfl, rfl, rfl⟩

/-! ## Whole runs -/

theorem CacheItem.Faithful.mono (h : item.Faithful rt localeLe reg enforcementEnabled s history)
    (later : List CacheEvent) :
    item.Faithful rt localeLe reg enforcementEnabled s (history ++ later) := by
  obtain ⟨now, request, result, input, target, hmem, hrest⟩ := h
  exact ⟨now, request, result, input, target, mem_append_left _ hmem, hrest⟩

theorem CacheStep.faithful {w w' : ResolverWorld sql} {e : CacheEvent}
    (hstep : CacheStep rt localeLe reg enforcementEnabled s w e w') (hfaithful : ∀ item ∈ w.cache,
      item.Faithful rt localeLe reg enforcementEnabled s history) :
    ∀ item ∈ w'.cache, item.Faithful rt localeLe reg enforcementEnabled s (history ++ [e]) := by
  intro item hitem
  cases e with
  | resolved now request result =>
    obtain ⟨hkeyless, hanswer⟩ := hstep
    have hw' : (answer rt localeLe reg enforcementEnabled (s.atTime now) request w).2 = w' := by
      rw [hanswer]
    rw [← hw'] at hitem
    rcases answer_cache rt localeLe reg (s.atTime now) hkeyless w with hsame |
      ⟨input, hread, hcache⟩
    · rw [hsame] at hitem
      exact (hfaithful item hitem).mono _
    · rw [hcache] at hitem
      rcases mem_steadyEvidence hitem with hold | ⟨hkey, target, htarget, hevidence⟩
      · exact (hfaithful item hold).mono _
      · exact ⟨now, request, result, input, target,
          mem_append_right _ mem_cons_self, hread, hkey, htarget, hevidence⟩
  | invalidated tenantId =>
    obtain rfl : w' = _ := hstep
    have hkept : item ∈ w.cache := by
      unfold invalidateContainerAuthorityCache at hitem
      split at hitem
      next => cases hitem
      next => exact (mem_filter.mp hitem).1
    exact (hfaithful item hkept).mono _

/-- Every item of the cache was computed by a request of the history. -/
theorem faithful_of_run {w w' : ResolverWorld sql} {events : List CacheEvent}
    (hempty : w.cache = [])
    (hrun : Run (CacheStep rt localeLe reg enforcementEnabled s) w events w') :
    ∀ item ∈ w'.cache, item.Faithful rt localeLe reg enforcementEnabled s events := by
  have hstart : ∀ item ∈ w.cache, item.Faithful rt localeLe reg enforcementEnabled s [] := by
    rw [hempty]
    intro item hitem
    cases hitem
  exact hrun.history (I := fun history w => ∀ item ∈ w.cache,
      item.Faithful rt localeLe reg enforcementEnabled s history)
    (fun _ _ _ _ hkept hstep => hstep.faithful hkept) hstart

theorem KeysAgree.subset {events events' : List CacheEvent}
    (h : KeysAgree rt reg enforcementEnabled s events) (hsub : events' ⊆ events) :
    KeysAgree rt reg enforcementEnabled s events' := by
  intro now₁ request₁ result₁ now₂ request₂ result₂ input₁ input₂ hmem₁ hmem₂
  exact h now₁ request₁ result₁ now₂ request₂ result₂ input₁ input₂ (hsub hmem₁) (hsub hmem₂)

/-- A request of a run has the outcome it would have with an empty cache. -/
theorem cached_answers_agree {w w' : ResolverWorld sql} {events : List CacheEvent}
    (hempty : w.cache = [])
    (hrun : Run (CacheStep rt localeLe reg enforcementEnabled s) w events w')
    (hagree : KeysAgree rt reg enforcementEnabled s events)
    (before after : List CacheEvent) (now : Nat) (request : ResolveRequest)
    (result : Except Val ResolveResult)
    (hevents : events = before ++ .resolved now request result :: after) :
    ∃ w₁ w₂, Run (CacheStep rt localeLe reg enforcementEnabled s) w before w₁ ∧
      answer rt localeLe reg enforcementEnabled (s.atTime now) request w₁ = (result, w₂) ∧
      SameOutcome result
        (answer rt localeLe reg enforcementEnabled (s.atTime now) request w₁.uncached).1 := by
  subst hevents
  obtain ⟨w₁, hbefore, hrest⟩ := hrun.split
  obtain ⟨w₂, ⟨hkeyless, hanswer⟩⟩ : ∃ w₂, CacheStep rt localeLe reg enforcementEnabled s
      w₁ (.resolved now request result) w₂ := by
    cases hrest with
    | cons hstep _ => exact ⟨_, hstep⟩
  have hresult : (answer rt localeLe reg enforcementEnabled (s.atTime now) request w₁).1 =
      result := by
    rw [hanswer]
  refine ⟨w₁, w₂, hbefore, hanswer, ?_⟩
  rw [← hresult]
  have hprefix : before ++ [.resolved now request result] ⊆
      before ++ .resolved now request result :: after := by
    intro e he
    simp only [mem_append, mem_cons, not_mem_nil, or_false] at he ⊢
    exact he.imp_right .inl
  cases hread : readResolveInput enforcementEnabled request.rawInput with
  | error e =>
    unfold answer resolveEffectiveContainerContext
    rw [hread]
    exact .error e
  | ok input =>
    exact answer_same hkeyless hread w₁ []
      (steadyEvidence_transparent (faithful_of_run hempty hbefore) (hagree.subset hprefix) hread)

end

/-! ## Two requests for one activity -/

/-- A request to read a folder of activity `a`. -/
def activityRequest (mode drawnId : String) : ResolveRequest where
  rawInput := .obj [("principal", .obj [("type", .str "user"), ("id", .str "u")]),
      ("tenantId", .str "t"), ("targetContainerId", .str "a"),
      ("dimensionRequests", .arr [.obj [("dimension", .str "files"),
        ("resourceType", .str "folder"), ("resourceRef", .str "f"),
        ("operation", .str "files.read")]]),
      ("mode", .str mode)]
  drawnId
  expiresAt := ""
  nowMs := 0

/-- Activity `a` is classified until the time 10. -/
def classifiedRegistry : Registry :=
  { activityRegistry with
    classifications :=
      [⟨"k", "t", "a", "secret", none, .inheritDown, 0, none, some 10, .active, 1⟩] }

def freshWorld : ResolverWorld plainSql where
  cache := []
  store := emptyAuthority
  ledger := .empty
  comparisons := []

abbrev activityAnswer (now : Nat) (request : ResolveRequest) (w : ResolverWorld plainSql) :
    Except Val ResolveResult × ResolverWorld plainSql :=
  answer plainRuntime keyLe classifiedRegistry false (emptyAuthority.atTime now) request w

/-- The mode of a resolution, and whether it was cached. -/
def modeAndHit : Except Val ResolveResult → Option (ResolutionMode × Bool)
  | .ok (.fresh r) => some (r.evidence.mode, r.cacheHit)
  | _ => none

theorem modeAndHit_of_same {result result' : Except Val ResolveResult}
    (h : SameOutcome result result') :
    (modeAndHit result).map Prod.fst = (modeAndHit result').map Prod.fst := by
  cases h with
  | error e => rfl
  | fresh h => exact congrArg some h.mode

/-- The activity after a preview at the time 1. -/
def previewedWorld : ResolverWorld plainSql :=
  (activityAnswer 1 (activityRequest "preview" "r1") freshWorld).2

theorem activity_answers :
    modeAndHit (activityAnswer 5 (activityRequest "shadow" "r2") previewedWorld).1 =
        some (.preview, true) ∧
      modeAndHit (activityAnswer 5 (activityRequest "shadow" "r2")
        previewedWorld.uncached).1 = some (.shadow, false) ∧
      modeAndHit (activityAnswer 5 (activityRequest "preview" "r2") previewedWorld).1 =
        some (.preview, true) := by
  decide +kernel

/-- A preview at the time 1, and a request at the time 5. -/
abbrev activityEvents (mode : String) : List CacheEvent :=
  [.resolved 1 (activityRequest "preview" "r1")
      (activityAnswer 1 (activityRequest "preview" "r1") freshWorld).1,
    .resolved 5 (activityRequest mode "r2")
      (activityAnswer 5 (activityRequest mode "r2") previewedWorld).1]

theorem activityEvents_run (mode : String) :
    Run (CacheStep plainRuntime keyLe classifiedRegistry false emptyAuthority) freshWorld
      (activityEvents mode) (activityAnswer 5 (activityRequest mode "r2") previewedWorld).2 :=
  .cons ⟨rfl, rfl⟩ (.cons ⟨rfl, rfl⟩ (.nil _))

/-- After a preview the same request in shadow mode is answered by the preview. -/
theorem cached_preview_answers_shadow :
    ∃ (result : Except Val ResolveResult) (w₁ w₂ : ResolverWorld plainSql),
      Run (CacheStep plainRuntime keyLe classifiedRegistry false emptyAuthority) freshWorld
        [.resolved 1 (activityRequest "preview" "r1")
            (activityAnswer 1 (activityRequest "preview" "r1") freshWorld).1,
          .resolved 5 (activityRequest "shadow" "r2") result] w₂ ∧
      w₁ = previewedWorld ∧
      activityAnswer 5 (activityRequest "shadow" "r2") w₁ = (result, w₂) ∧
      ¬SameOutcome result
        (activityAnswer 5 (activityRequest "shadow" "r2") w₁.uncached).1 := by
  refine ⟨(activityAnswer 5 (activityRequest "shadow" "r2") previewedWorld).1,
    previewedWorld, (activityAnswer 5 (activityRequest "shadow" "r2") previewedWorld).2,
    activityEvents_run "shadow", rfl, Prod.mk.eta.symm, ?_⟩
  intro hsame
  have hmodes := modeAndHit_of_same hsame
  rw [activity_answers.1, activity_answers.2.1] at hmodes
  exact absurd hmodes (by decide)

theorem activityEvents_agree :
    KeysAgree plainRuntime classifiedRegistry false emptyAuthority (activityEvents "preview") := by
  have hraw : ∀ now request result, .resolved now request result ∈ activityEvents "preview" →
      request.rawInput = (activityRequest "preview" "r1").rawInput ∧ now < 10 := by
    intro now request result hmem
    rcases mem_pair.mp hmem with h | h
    · obtain ⟨rfl, rfl, -⟩ := CacheEvent.resolved.inj h
      exact ⟨rfl, by decide⟩
    · obtain ⟨rfl, rfl, -⟩ := CacheEvent.resolved.inj h
      exact ⟨rfl, by decide⟩
  intro now₁ request₁ result₁ now₂ request₂ result₂ input₁ input₂ hmem₁ hmem₂ hread₁ hread₂ _
  obtain ⟨hraw₁, hbefore₁⟩ := hraw _ _ _ hmem₁
  obtain ⟨hraw₂, hbefore₂⟩ := hraw _ _ _ hmem₂
  rw [hraw₁] at hread₁
  rw [hraw₂, hread₁] at hread₂
  refine ⟨by rw [Except.ok.inj hread₂], fun _ h => absurd h not_mem_nil, ?_,
    fun _ h => absurd h not_mem_nil, fun _ h => absurd h not_mem_nil⟩
  intro row hrow _
  obtain rfl := mem_singleton.mp hrow
  simp [validAt, hbefore₁, hbefore₂]

/-- A preview asked for again before the classification ends comes from the cache. -/
theorem cached_answers_agree_preview :
    ∃ (result : Except Val ResolveResult) (w₁ w₂ : ResolverWorld plainSql),
      modeAndHit result = some (.preview, true) ∧
      activityAnswer 5 (activityRequest "preview" "r2") w₁ = (result, w₂) ∧
      SameOutcome result
        (activityAnswer 5 (activityRequest "preview" "r2") w₁.uncached).1 := by
  obtain ⟨w₁, w₂, _, hanswer, hsame⟩ := cached_answers_agree rfl (activityEvents_run "preview")
    activityEvents_agree [_] [] 5 (activityRequest "preview" "r2")
    (activityAnswer 5 (activityRequest "preview" "r2") previewedWorld).1 rfl
  exact ⟨(activityAnswer 5 (activityRequest "preview" "r2") previewedWorld).1, w₁, w₂,
    activity_answers.2.2, hanswer, hsame⟩

end GrowthOs.Containers
