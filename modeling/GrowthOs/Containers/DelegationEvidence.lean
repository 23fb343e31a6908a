import GrowthOs.Containers.ResolutionCache

/-!
# The delegation check against the resolver's own evidence

A resolution that allows is written to the ledger and read back by
`validateDelegationAgainstResolution`.  The evidence names its fields as
`resourceType`, `resourceRef` and `operationPatterns`, and the matcher looks for
`resource_type`, `resource_ref` and `operation_patterns_json`.  So the check finds no
resource and no pattern in an entry: it refuses what the resolution allows, unless
nothing in it is allowed or delegated.
-/

namespace GrowthOs.Containers

open Js Table List Throwing
open Throwing (bind_eq_ok)

variable {sql : Sql} (c : BindingCandidate) (q : DimensionRequest)
  (candidates : List BindingCandidate) {input : ResolveInput} {r : Resolution}

/-! ## What the matcher reads in an entry -/

/-- The fields the check looks for, in an entry as it is read back. -/
structure ReadsEntry (c : BindingCandidate) (entry : Val) : Prop where
  effect : entry.get "effect" = .ok (.str c.effect.text)
  dimensionKey : entry.get "dimension_key" = .ok .undefined
  dimension : entry.member "dimension" = .str c.row.dimensionKey
  resourceType : entry.member "resource_type" = .undefined
  resourceRef : entry.member "resource_ref" = .undefined
  patterns : entry.member "operation_patterns_json" = .undefined
  operations : entry.member "operations" = .undefined

theorem readsEntry_evidence : ReadsEntry c (json c.evidence) := by
  have hpermission : jsonValue (optionVal c.row.permissionKey) =
      some (optionVal c.row.permissionKey) := by
    cases c.row.permissionKey with
    | none | some key => rfl
  have hdelegator : jsonValue (textOrNull (c.row.delegatorResolutionId.getD "")) =
      some (textOrNull (c.row.delegatorResolutionId.getD "")) := by
    unfold textOrNull
    split
    next => rfl
    next => rfl
  unfold json BindingCandidate.evidence
  simp only [jsonValue, jsonFields, hpermission, hdelegator, Option.getD_some]
  -- Patterns that are not written leave the other fields where they are.
  cases jsonValue (parseObjectOr (jsonColumn c.row.operationPatternsJson) (.arr [])) with
  | none | some patterns => exact ⟨rfl, rfl, rfl, rfl, rfl, rfl, rfl⟩

/-- The entry grants and is in the dimension of a request for no resource. -/
def BindingCandidate.passesFor (c : BindingCandidate) (q : DimensionRequest) : Bool :=
  c.effect.grants && (c.row.dimensionKey == q.dimension &&
    (q.resourceType == "" && q.resourceRef == ""))

theorem BindingEffect.grants_iff (effect : BindingEffect) :
    (toLowerCase effect.text = "allow" ∨ toLowerCase effect.text = "delegate") ↔
      effect.grants = true := by
  cases effect <;> decide +kernel

theorem textOf_undefined : textOf .undefined = .ok "" := rfl

theorem grantMatches_evidence : grantMatches q (json c.evidence) = .ok (c.passesFor q) := by
  have hreads := readsEntry_evidence c
  have hdimension : textOf (Val.undefined.or (.str c.row.dimensionKey)) =
      .ok c.row.dimensionKey := textOf_str _
  have hpatterns : parseStringArray (Val.undefined.coalesce .undefined) = .ok [] := rfl
  unfold grantMatches BindingCandidate.passesFor
  rw [hreads.effect, ok_bind, textOf_str, ok_bind]
  by_cases hgrants : c.effect.grants = true
  · rw [if_pos ((BindingEffect.grants_iff _).mpr hgrants), hgrants, Bool.true_and]
    unfold bindingMatchesDimensionRequest
    rw [hreads.dimensionKey, hreads.dimension, hreads.resourceType, hreads.resourceRef,
      hreads.patterns, hreads.operations, ok_bind, hdimension, ok_bind,
      textOf_undefined, hpatterns]
    by_cases hkey : c.row.dimensionKey = q.dimension
    · by_cases htype : "" = q.resourceType
      · by_cases href : "" = q.resourceRef
        · simp [hkey, ← htype, ← href, ok_bind]
        · simp [hkey, ← htype, href, Ne.symm href, ok_bind]
      · simp [hkey, htype, Ne.symm htype, ok_bind]
    · simp [hkey]
  · rw [if_neg (fun h => hgrants ((BindingEffect.grants_iff _).mp h)),
      Bool.not_eq_true _ |>.mp hgrants]
    rfl

theorem jsonElements_evidence :
    jsonElements (candidates.map BindingCandidate.evidence) =
      candidates.map fun c => json c.evidence := by
  induction candidates with
  | nil => rfl
  | cons c rest ih =>
    rw [map_cons, map_cons, ← ih]
    rfl

theorem someGrant_evidence :
    someGrant q (candidates.map fun c => json c.evidence) =
      .ok (candidates.any fun c => c.passesFor q) := by
  induction candidates with
  | nil => rfl
  | cons c rest ih =>
    rw [map_cons, any_cons]
    unfold someGrant
    rw [grantMatches_evidence, ok_bind, ih]
    cases c.passesFor q with
    | true | false => rfl

/-! ## The resolution in the ledger -/

theorem persistContainerResolution_read {ledger ledger' : UniqueTable (ledgerKeys sql)}
    (h : persistContainerResolution ledger r = .ok ledger') :
    ∃ expiresAt, readContainerResolution ledger' r.resolutionId r.evidence.tenantId
      r.evidence.principal.id = some (r.row expiresAt) := by
  simp only [persistContainerResolution, bind_eq_ok, requireRow_eq_ok] at h
  obtain ⟨expiresAt, _, hinsert⟩ := h
  refine ⟨expiresAt, ?_⟩
  have hmem : r.row expiresAt ∈ ledger'.rows := by
    rw [(UniqueTable.insert_eq_some hinsert).1]
    exact mem_append_right _ mem_cons_self
  unfold readContainerResolution
  cases hfound : ledger'.rows.find? _ with
  | none =>
    have hnot := List.find?_eq_none.mp hfound _ hmem
    simp [Resolution.row] at hnot
  | some row =>
    have hid := List.find?_some hfound
    simp only [Bool.and_eq_true, beq_iff_eq] at hid
    have hsame : row = r.row expiresAt := by
      apply UniqueTable.eq_of_key (mem_singleton_self _)
        (mem_of_find?_eq_some hfound) hmem (k := [sql.collate r.resolutionId])
      · rw [hid.1.1]
      · rfl
    rw [hsame]

section

variable {rt : Runtime} {localeLe : String → String → Bool} {reg : Registry}
  {enforcementEnabled : Bool} {s : AuthorityStore sql} {request : ResolveRequest}
  {w w' : ResolverWorld sql} {state : AuthorityState} {evidence : Evidence}

theorem writeResolution_ledger (h : writeResolution rt input r w = (.ok (), w')) :
    persistContainerResolution w.ledger r = .ok w'.ledger := by
  unfold writeResolution at h
  split at h
  next => cases (Prod.mk.inj h).1
  next ledger hpersist =>
    split at h
    next => cases (Prod.mk.inj h).1
    next =>
      dsimp only at h
      split at h
      next => cases (Prod.mk.inj h).1
      next => rw [hpersist, ← (Prod.mk.inj h).2]

/-- A resolution that a call makes is evidence it found, written to the ledger. -/
theorem answer_fresh
    (h : answer rt localeLe reg enforcementEnabled s request w = (.ok (.fresh r), w')) :
    ∃ input, readResolveInput enforcementEnabled request.rawInput = .ok input ∧
      (steadyEvidence rt localeLe reg s input request.nowMs w.cache).1 =
        .ok (r.evidence, r.cacheHit) ∧
      persistContainerResolution w.ledger r = .ok w'.ledger := by
  unfold answer resolveEffectiveContainerContext at h
  split at h
  next => cases (Prod.mk.inj h).1
  next input hread =>
    refine ⟨input, hread, ?_⟩
    split at h
    next => cases (Prod.mk.inj h).1
    next => cases (Prod.mk.inj h).1
    next =>
      split at h
      next => cases (Prod.mk.inj h).1
      next evidence hit cache hfound =>
        dsimp only at h
        split at h
        next => cases (Prod.mk.inj h).1
        next w₂ hwrite =>
          obtain ⟨hr, rfl⟩ := Prod.mk.inj h
          obtain rfl := ResolveResult.fresh.inj (Except.ok.inj hr)
          exact ⟨congrArg Prod.fst hfound, writeResolution_ledger (w := { w with cache }) hwrite⟩

/-- What is cached for the request says what the tables say. -/
def CacheHolds (rt : Runtime) (localeLe : String → String → Bool) (reg : Registry)
    (s : AuthorityStore sql) (input : ResolveInput) (cache : Cache) : Prop :=
  ∀ item ∈ cache, item.key = input.cacheKey rt reg s →
    ∃ target evidence, checkTarget input (input.state reg s) = .ok target ∧
      evidenceOf rt localeLe input (input.state reg s) target = .ok evidence ∧
      item.value.decision = evidence.decision ∧
      item.value.effectiveBindings = evidence.effectiveBindings

theorem steadyEvidence_holds {nowMs : Nat} {cache : Cache} {hit : Bool}
    (hcache : CacheHolds rt localeLe reg s input cache)
    (h : (steadyEvidence rt localeLe reg s input nowMs cache).1 = .ok (evidence, hit)) :
    ∃ target computed, checkTarget input (input.state reg s) = .ok target ∧
      evidenceOf rt localeLe input (input.state reg s) target = .ok computed ∧
      evidence.decision = computed.decision ∧
      evidence.effectiveBindings = computed.effectiveBindings := by
  rw [steadyEvidence_eq] at h
  split at h
  next => cases h
  next target htarget =>
    split at h
    next cached kept hget =>
      obtain ⟨item, hitem, hkey, rfl⟩ := cacheGet_some hget
      obtain ⟨rfl, _⟩ := Prod.mk.inj (Except.ok.inj h)
      exact hcache item hitem hkey
    next kept hget =>
      split at h
      next => cases h
      next computed hcomputed =>
        obtain ⟨rfl, _⟩ := Prod.mk.inj (Except.ok.inj h)
        exact ⟨target, computed, htarget, hcomputed, rfl, rfl⟩

/-! ## What evidence is made of -/

theorem decisionOf_allow {codes : List String} {results : List DimensionResult}
    (h : decisionOf codes results = "allow") : codes = [] := by
  unfold decisionOf at h
  by_contra hne
  have hempty : (!codes.isEmpty) = true := by simpa using hne
  split_ifs at h
  all_goals exact absurd h (by decide)

/-- Evidence that allows has a registered dimension and no code for any request. -/
theorem evidenceOf_allow {target : ContainerRow}
    (h : evidenceOf rt localeLe input state target = .ok evidence)
    (hallow : evidence.decision = "allow") :
    ∃ paths results, pathsOf rt localeLe input state = .ok paths ∧
      input.dimensionRequests.mapM
        (resolveDimensionRequest localeLe paths state target.containerId) = .ok results ∧
      (∀ result ∈ results, result.blockingCodes = []) ∧
      evidence.effectiveBindings =
        (results.flatMap (·.candidates)).map BindingCandidate.evidence := by
  simp only [evidenceOf, buildResolutionEvidence, bind_eq_ok] at h
  obtain ⟨paths, hpaths, roles, _, classifications, _, results, hresults, evidence', hbuild,
    _, _, h⟩ := h
  cases h
  obtain ⟨snapshot, _, hbuild⟩ := hbuild
  cases hbuild
  refine ⟨paths, results, hpaths, hresults, ?_, rfl⟩
  have hcodes := decisionOf_allow hallow
  rw [append_eq_nil_iff] at hcodes
  exact flatMap_eq_nil_iff.mp hcodes.2

theorem registered_of_unblocked {paths : List ContainerPath} {target : String}
    {q : DimensionRequest} {result : DimensionResult}
    (h : resolveDimensionRequest localeLe paths state target q = .ok result)
    (hcodes : result.blockingCodes = []) :
    ∃ dimension, (state.dimensions.find? fun row => row.dimensionKey == q.dimension) =
      some dimension := by
  cases hfound : state.dimensions.find? fun row => row.dimensionKey == q.dimension with
  | some dimension => exact ⟨dimension, rfl⟩
  | none =>
    unfold resolveDimensionRequest at h
    rw [hfound] at h
    rw [← Except.ok.inj h] at hcodes
    cases hcodes

end

/-! ## What grants an operation -/

/-- An allowing binding that the target inherits on some way to a root. -/
structure BindingRow.InheritedBy (state : AuthorityState) (target : String)
    (q : DimensionRequest) (b : BindingRow) : Prop where
  effect : b.effect = .allow
  inherited : b.inheritanceMode ≠ .explicitShare
  here : b.inheritanceMode = .localOnly → b.containerId = target
  way : ∃ a depth,
    Climbs (ancestryRows state.relationshipTypes state.relationships) (.start target) a ∧
    IsRoot (ancestryRows state.relationshipTypes state.relationships) a.nodeId ∧
    a.nodePath.idxOf? b.containerId = some depth ∧
    ∀ blocker ∈ state.bindings, blocker.Matches q →
      blocker.inheritanceMode = .blockInheritance →
      ∀ d, a.nodePath.idxOf? blocker.containerId = some d → depth ≤ d

/-- A binding that a delegation relationship brings to the target. -/
structure BindingRow.DelegatedTo (state : AuthorityState) (target : String)
    (q : DimensionRequest) (b : BindingRow) : Prop where
  effect : b.effect = .delegate
  resolution : b.delegatorResolutionId.getD "" ≠ ""
  supported : ∃ dimension, (state.dimensions.find? fun row =>
    row.dimensionKey == q.dimension) = some dimension ∧ dimension.supportsDelegation = 1
  relationship : ∃ relationship ∈ incoming state target .delegation,
    b.containerId = relationship.fromContainerId ∧
      b.delegationRelationshipId.getD "" = relationship.relationshipId

/-- Some loaded binding allows or delegates the operation at the target. -/
def Granted (state : AuthorityState) (target : String) (q : DimensionRequest) : Prop :=
  ∃ b ∈ state.bindings, b.Matches q ∧ (b.InheritedBy state target q ∨ b.DelegatedTo state target q)

theorem le_inheritanceCeiling {path : ContainerPath} {matching : List BindingRow}
    {depth : Nat} (hsafe : depth ≤ maxSafeInteger) :
    depth ≤ inheritanceCeiling path matching ↔
      ∀ blocker ∈ matching, blocker.inheritanceMode = .blockInheritance →
        ∀ d, path.depthOf blocker.containerId = some d → depth ≤ d := by
  unfold inheritanceCeiling
  set depths := (matching.filter fun b => b.inheritanceMode == .blockInheritance).filterMap
    fun b => path.depthOf b.containerId with hdepths
  have hmem : ∀ d, d ∈ depths ↔ ∃ blocker ∈ matching,
      blocker.inheritanceMode = .blockInheritance ∧ path.depthOf blocker.containerId = some d := by
    simp [hdepths, mem_filterMap, mem_filter, and_assoc]
  have hrule : depth ≤ depths.min?.getD maxSafeInteger ↔ ∀ d ∈ depths, depth ≤ d := by
    cases hmin : depths.min? with
    | none =>
      rw [List.min?_eq_none_iff] at hmin
      simp [hmin, hsafe]
    | some m => exact List.le_min?_iff hmin
  rw [hrule]
  constructor
  · intro h blocker hblocker hmode d hd
    exact h d ((hmem d).mpr ⟨blocker, hblocker, hmode, hd⟩)
  · intro h d hd
    obtain ⟨blocker, hblocker, hmode, hdepth⟩ := (hmem d).mp hd
    exact h blocker hblocker hmode d hdepth

theorem depthOf_eq {path : ContainerPath} {a : Ascent} {target : String}
    (h : path.toPathBody = a.body target) (id : String) :
    path.depthOf id = a.nodePath.idxOf? id := by
  rw [ContainerPath.depthOf, h, Ascent.body, reverse_reverse]

section

variable {rt : Runtime} {localeLe : String → String → Bool} {state : AuthorityState}
  {target : String} {paths : List ContainerPath} {path : ContainerPath} {q}
  {result : DimensionResult} (hpaths : enumerateContainerPaths rt localeLe defaultLimits target
    state.relationships state.relationshipTypes = .ok paths)

include hpaths

/-- Each path is a way from the target to a root, whose containers have safe depths. -/
theorem path_way (hpath : path ∈ paths) :
    ∃ a, Climbs (ancestryRows state.relationshipTypes state.relationships) (.start target) a ∧
      IsRoot (ancestryRows state.relationshipTypes state.relationships) a.nodeId ∧
      ∀ id, path.depthOf id = a.nodePath.idxOf? id := by
  obtain ⟨a, hclimb, hroot, hbody⟩ :=
    (mem_enumerateContainerPaths hpaths path.toPathBody).mp ⟨path, hpath, rfl⟩
  exact ⟨a, hclimb, hroot, depthOf_eq hbody⟩

theorem way_path {a : Ascent}
    (hclimb : Climbs (ancestryRows state.relationshipTypes state.relationships) (.start target) a)
    (hroot : IsRoot (ancestryRows state.relationshipTypes state.relationships) a.nodeId) :
    ∃ path ∈ paths, ∀ id, path.depthOf id = a.nodePath.idxOf? id := by
  obtain ⟨path, hpath, hbody⟩ :=
    (mem_enumerateContainerPaths hpaths (a.body target)).mpr ⟨a, hclimb, hroot, rfl⟩
  exact ⟨path, hpath, depthOf_eq hbody⟩

theorem depthOf_safe (hpath : path ∈ paths) {id : String} {depth : Nat}
    (hdepth : path.depthOf id = some depth) : depth ≤ maxSafeInteger := by
  obtain ⟨a, hclimb, _, hbody⟩ :=
    (mem_enumerateContainerPaths hpaths path.toPathBody).mp ⟨path, hpath, rfl⟩
  have hbound : a.depth ≤ defaultLimits.maxDepth := by
    have hpathDepth := (enumerateContainerPaths_bounded hpaths).2 path hpath
    rw [hbody] at hpathDepth
    exact hpathDepth
  rw [depthOf_eq hbody] at hdepth
  have hlt := (List.idxOf?_eq_some_iff.mp hdepth).1
  rw [hclimb.length_nodePath] at hlt
  have hsmall : defaultLimits.maxDepth ≤ maxSafeInteger := by decide
  omega

variable {dimension : DimensionRow}
  (hdimension : (state.dimensions.find? fun row => row.dimensionKey == q.dimension) =
    some dimension)

include hdimension

/-- A candidate that grants is a binding that the rows grant. -/
theorem granted_of_candidate
    (hresolve : resolveDimensionRequest localeLe paths state target q = .ok result)
    {c : BindingCandidate} (hc : c ∈ result.candidates) (hgrants : c.effect.grants = true) :
    Granted state target q := by
  obtain ⟨path, hpath, candidates, hcandidates, hmem⟩ :=
    (resolveDimensionRequest_ok hdimension hresolve).1.sound c hc
  obtain ⟨hloaded, hmatches, _⟩ := effect_of_mem_pathCandidates hcandidates hmem
  obtain ⟨matching, hmatching, hall⟩ := mem_pathCandidates hcandidates
  refine ⟨c.row, hloaded, hmatches, ?_⟩
  rcases (hall c).mp hmem with ⟨b, hb, hcand⟩ | ⟨_, _, b, _, _, rfl⟩ |
    ⟨delegation, hdelegation, b, _, hdelegated, rfl⟩
  · left
    obtain ⟨depth, hdepth, hceiling, hlocal, hmode, _, hdelegate, rfl⟩ :=
      candidateForPath_eq_some.mp hcand
    have hsafe := depthOf_safe hpaths hpath hdepth
    obtain ⟨a, hclimb, hroot, hway⟩ := path_way hpaths hpath
    refine ⟨?_, hmode, hlocal, a, depth, hclimb, hroot, ?_, ?_⟩
    · unfold BindingEffect.grants at hgrants
      rw [Bool.or_eq_true, beq_iff_eq, beq_iff_eq] at hgrants
      exact hgrants.resolve_right hdelegate
    · rw [← hway]
      exact hdepth
    · intro blocker hblocker hcovers hblocks d hd
      rw [← hway] at hd
      exact (le_inheritanceCeiling hsafe).mp hceiling blocker
        ((hmatching blocker).mpr ⟨hblocker, hcovers⟩) hblocks d hd
  · cases hgrants
  · right
    obtain ⟨hfrom, heffect, hresolution, hid, _⟩ := isDelegated_eq_true.mp hdelegated
    unfold supported at hdelegation
    split at hdelegation
    next hflag =>
      exact ⟨heffect, hresolution, ⟨dimension, hdimension, hflag⟩, delegation,
        hdelegation, hfrom, hid⟩
    next => cases hdelegation

/-- A binding that the rows grant is a candidate on some path. -/
theorem candidate_of_granted (hreadable : ∀ b ∈ state.bindings,
      ∃ v, bindingMatchesDimensionRequest b.toVal q = .ok v) {b : BindingRow}
    (hb : b ∈ state.bindings) (hmatches : b.Matches q)
    (hgranted : b.InheritedBy state target q ∨ b.DelegatedTo state target q) :
    ∃ path ∈ paths, ∃ candidates,
      candidatesOn q state target dimension path = .ok candidates ∧
        ∃ c ∈ candidates, c.row = b := by
  have hcandidatesOn : ∀ path, ∃ candidates,
      candidatesOn q state target dimension path = .ok candidates := by
    intro path
    obtain ⟨outcome, houtcome⟩ : ∃ outcome, resolveOnPath localeLe q dimension state target
        (supported dimension.supportsSharing (incoming state target .sharing))
        (supported dimension.supportsDelegation (incoming state target .delegation))
        path = .ok outcome := resolveOnPath_total.mpr hreadable
    exact ⟨_, (resolveOnPath_ok houtcome).1⟩
  rcases hgranted with hinherited | hdelegated
  · obtain ⟨a, depth, hclimb, hroot, hdepth, hblockers⟩ := hinherited.way
    obtain ⟨path, hpath, hway⟩ := way_path hpaths hclimb hroot
    rw [← hway] at hdepth
    obtain ⟨candidates, hcandidates⟩ := hcandidatesOn path
    obtain ⟨matching, hmatching, hall⟩ := mem_pathCandidates hcandidates
    have hceiling : depth ≤ inheritanceCeiling path matching := by
      rw [le_inheritanceCeiling (depthOf_safe hpaths hpath hdepth)]
      intro blocker hblocker hblocks d hd
      obtain ⟨hloaded, hcovers⟩ := (hmatching blocker).mp hblocker
      rw [hway] at hd
      exact hblockers blocker hloaded hcovers hblocks d hd
    have hcandidate : candidateForPath path target (inheritanceCeiling path matching) b =
        some ⟨b, b.effect, depth, b.mergePriority, path.pathHash, none⟩ := by
      rw [candidateForPath_eq_some]
      refine ⟨depth, hdepth, hceiling, hinherited.here, hinherited.inherited, ?_, ?_, rfl⟩
      all_goals
        rw [hinherited.effect]
        exact nofun
    exact ⟨path, hpath, candidates, hcandidates, _,
      (hall _).mpr (.inl ⟨b, (hmatching b).mpr ⟨hb, hmatches⟩, hcandidate⟩), rfl⟩
  · obtain ⟨path, hpath⟩ :=
      exists_mem_of_ne_nil paths (enumerateContainerPaths_bounded hpaths).1
    obtain ⟨candidates, hcandidates⟩ := hcandidatesOn path
    obtain ⟨matching, hmatching, hall⟩ := mem_pathCandidates hcandidates
    obtain ⟨relationship, hincoming, hfrom, hid⟩ := hdelegated.relationship
    have hflag : dimension.supportsDelegation = 1 := by
      obtain ⟨dimension', hfound, hflag⟩ := hdelegated.supported
      rw [Option.some.inj (hdimension.symm.trans hfound)]
      exact hflag
    refine ⟨path, hpath, candidates, hcandidates, _,
      (hall _).mpr (.inr (.inr ⟨relationship, ?_, b, hb, ?_, rfl⟩)), rfl⟩
    · unfold supported
      rw [if_pos hflag]
      exact hincoming
    · exact isDelegated_eq_true.mpr ⟨hfrom, hdelegated.effect, hdelegated.resolution, hid, hmatches⟩

/-- Whether a result has a candidate that grants is decided by the rows. -/
theorem grants_iff_granted
    (hresolve : resolveDimensionRequest localeLe paths state target q = .ok result)
    (hunique : ∀ b ∈ state.bindings, ∀ b' ∈ state.bindings, b.bindingId = b'.bindingId → b = b') :
    (∃ c ∈ result.candidates, c.effect.grants = true) ↔ Granted state target q := by
  obtain ⟨hcollects, hreadable⟩ := resolveDimensionRequest_ok hdimension hresolve
  constructor
  · rintro ⟨c, hc, hgrants⟩
    exact granted_of_candidate hpaths hdimension hresolve hc hgrants
  · rintro ⟨b, hb, hmatches, hgranted⟩
    obtain ⟨path, hpath, candidates, hcandidates, c, hc, rfl⟩ :=
      candidate_of_granted hpaths hdimension
        (hreadable (enumerateContainerPaths_bounded hpaths).1) hb hmatches hgranted
    obtain ⟨c', hc', hid⟩ := hcollects.complete path hpath candidates hcandidates c hc
    -- The identifier is listed once, with the binding it belongs to.
    obtain ⟨_, _, candidates', hcandidates', hmem'⟩ := hcollects.sound c' hc'
    obtain ⟨hloaded', _, heffect'⟩ := effect_of_mem_pathCandidates hcandidates' hmem'
    have hrow : c'.row = c.row := hunique _ hloaded' _ hb hid
    refine ⟨c', hc', ?_⟩
    rw [heffect', hrow]
    unfold BindingRow.effectThere
    rcases hgranted with hinherited | hdelegated
    · rw [if_neg fun h => hinherited.inherited h.2, hinherited.effect]
      rfl
    · rw [hdelegated.effect]
      rfl

end

/-! ## The check and the evidence -/

theorem readResolveInput_resourceType {enforcementEnabled : Bool} {rawInput : Val}
    (h : readResolveInput enforcementEnabled rawInput = .ok input) :
    ∀ q ∈ input.dimensionRequests, q.resourceType ≠ "" := by
  simp only [readResolveInput, bind_eq_ok] at h
  obtain ⟨_, _, _, _, _, _, requests, hrequests, _, _, _, _, _, _, _, _, _, _, h⟩ := h
  cases h
  intro q hq
  unfold normalizeDimensionRequests at hrequests
  split at hrequests
  next items =>
    obtain ⟨_, _, hmap⟩ := bind_eq_ok.mp hrequests
    obtain ⟨item, _, hitem⟩ := exists_of_mem_mapM hmap hq
    simp only [normalizeDimensionRequest, bind_eq_ok, rejectIf_eq_ok] at hitem
    obtain ⟨_, _, resourceType, _, _, _, _, _, _, _, _, hcomplete, _, _, heq⟩ := hitem
    rw [← Except.ok.inj heq]
    exact fun hempty => hcomplete (.inr (.inl hempty))
  next => cases hrequests

/-- A result on a request, over the paths of the target. -/
def ResultFor (rt : Runtime) (localeLe : String → String → Bool) (input : ResolveInput)
    (state : AuthorityState) (q : DimensionRequest) (result : DimensionResult) : Prop :=
  ∃ paths, pathsOf rt localeLe input state = .ok paths ∧
    resolveDimensionRequest localeLe paths state input.targetContainerId q = .ok result

/-- A check accepts the operations that were requested and granted, and refuses those
that no granting candidate covers. -/
structure EvidenceRespected (rt : Runtime) (localeLe : String → String → Bool)
    (input : ResolveInput) (state : AuthorityState)
    (check : DimensionRequest → Except Val Bool) : Prop where
  granted : ∀ q ∈ input.dimensionRequests, isExactOperation q.operation = true →
    ∀ result, ResultFor rt localeLe input state q result →
      (∃ c ∈ result.candidates, c.effect.grants = true) → check q = .ok true
  refused : ∀ q, isExactOperation q.operation = true →
    (∀ p ∈ input.dimensionRequests, ∀ result, ResultFor rt localeLe input state p result →
      ∀ c ∈ result.candidates, c.effect.grants = true → ¬c.row.Matches q) →
    check q = .ok false

/-- The delegation check on a resolution of the ledger. -/
def storedCheck (ledger : UniqueTable (ledgerKeys sql)) (r : Resolution)
    (q : DimensionRequest) : Except Val Bool :=
  validateDelegationAgainstResolution q
    (readContainerResolution ledger r.resolutionId r.evidence.tenantId r.evidence.principal.id)

theorem storedCheck_persisted {ledger ledger' : UniqueTable (ledgerKeys sql)}
    (h : persistContainerResolution ledger r = .ok ledger')
    (hallow : r.evidence.decision = "allow") {candidates : List BindingCandidate}
    (hbindings : r.evidence.effectiveBindings = candidates.map BindingCandidate.evidence)
    {q : DimensionRequest} (hexact : isExactOperation q.operation = true) :
    storedCheck ledger' r q = .ok (candidates.any fun c => c.passesFor q) := by
  obtain ⟨expiresAt, hstored⟩ := persistContainerResolution_read h
  have hjson : (r.row expiresAt).effectiveBindingsJson =
      .arr (candidates.map fun c => json c.evidence) := by
    rw [← jsonElements_evidence, ← hbindings]
    rfl
  have hdecision : (r.row expiresAt).decision = "allow" := hallow
  unfold storedCheck validateDelegationAgainstResolution
  rw [hstored]
  dsimp only
  rw [hjson, hexact, if_neg (not_not.mpr hdecision), if_neg (by decide)]
  exact someGrant_evidence q candidates

theorem BindingRow.Matches.resourceType {b : BindingRow} {q : DimensionRequest}
    (h : b.Matches q) : b.resourceType = q.resourceType := by
  unfold BindingRow.Matches at h
  rw [bindingMatchesDimensionRequest_row] at h
  split at h
  next hresource => exact hresource.2.1
  next => cases h

theorem state_target {reg : Registry} {s : AuthorityStore sql} {target : ContainerRow}
    (h : checkTarget input (input.state reg s) = .ok target) :
    target.containerId = input.targetContainerId := by
  have hfound := List.find?_some (checkTarget_ok h)
  simpa using hfound

theorem stored_of_loaded {reg : Registry} {s : AuthorityStore sql} {b : BindingRow}
    (h : b ∈ (input.state reg s).bindings) : b ∈ s.bindings.rows :=
  mem_of_mem_filter h

theorem loadedBindings_unique (reg : Registry) (s : AuthorityStore sql) (input : ResolveInput) :
    ∀ b ∈ (input.state reg s).bindings, ∀ b' ∈ (input.state reg s).bindings,
      b.bindingId = b'.bindingId → b = b' := by
  intro b hb b' hb' hid
  apply UniqueTable.eq_of_key (mem_singleton_self _) (stored_of_loaded hb)
    (stored_of_loaded hb') (k := [sql.collate b'.bindingId])
  · rw [hid]
  · rfl

/-- The check agrees with the evidence of a resolution that allows exactly when no
loaded binding allows or delegates any requested operation. -/
theorem delegation_check_agrees_iff (rt : Runtime) (localeLe : String → String → Bool)
    (reg : Registry) (enforcementEnabled : Bool) (s : AuthorityStore sql)
    (request : ResolveRequest) {w w' : ResolverWorld sql} {r : Resolution} {input : ResolveInput}
    (hread : readResolveInput enforcementEnabled request.rawInput = .ok input)
    (hcache : CacheHolds rt localeLe reg s input w.cache)
    (h : answer rt localeLe reg enforcementEnabled s request w = (.ok (.fresh r), w'))
    (hallow : r.evidence.decision = "allow") :
    EvidenceRespected rt localeLe input (input.state reg s) (storedCheck w'.ledger r) ↔
      ∀ q ∈ input.dimensionRequests, ¬Granted (input.state reg s) input.targetContainerId q := by
  obtain ⟨input', hread', hfound, hpersist⟩ := answer_fresh h
  obtain rfl : input' = input := Except.ok.inj (hread'.symm.trans hread)
  obtain ⟨target, computed, htarget, hcomputed, hdecision, hbindings⟩ :=
    steadyEvidence_holds hcache hfound
  obtain ⟨paths, results, hpaths, hresults, hunblocked, heffective⟩ :=
    evidenceOf_allow hcomputed (hdecision.symm.trans hallow)
  rw [state_target htarget] at hresults
  have hcheck := fun (q : DimensionRequest) (hexact : isExactOperation q.operation = true) =>
    storedCheck_persisted hpersist hallow (hbindings.trans heffective) hexact
  have henumerated : enumerateContainerPaths rt localeLe defaultLimits
      input'.targetContainerId (input'.state reg s).relationships
      (input'.state reg s).relationshipTypes = .ok paths := by
    unfold pathsOf at hpaths
    split at hpaths
    next paths' hok => rw [hok, Except.ok.inj hpaths]
    next => cases hpaths
  have hgrants : ∀ q result, resolveDimensionRequest localeLe paths (input'.state reg s)
      input'.targetContainerId q = .ok result → result ∈ results →
      ((∃ c ∈ result.candidates, c.effect.grants = true) ↔
        Granted (input'.state reg s) input'.targetContainerId q) := by
    intro q result hresolve hresult
    obtain ⟨dimension, hdimension⟩ :=
      registered_of_unblocked hresolve (hunblocked result hresult)
    exact grants_iff_granted henumerated hdimension hresolve (loadedBindings_unique reg s input')
  constructor
  · intro hrespected q hq hgranted
    obtain ⟨result, hresult, hresolve⟩ := exists_of_mem_of_mapM hresults hq
    obtain ⟨c, hc, hcgrants⟩ := (hgrants q result hresolve hresult).mpr hgranted
    -- The entry passes for a request that names no resource, which nothing covers.
    have hexact : isExactOperation "x" = true := by decide
    have hrefused := hrespected.refused ⟨c.row.dimensionKey, "", "", "x", none⟩ hexact (by
        rintro p hp result' ⟨paths', hpaths', hresolve'⟩ c' hc' _ hmatches
        cases hpaths'.symm.trans hpaths
        obtain ⟨result'', hresult'', hresolve''⟩ :=
          exists_of_mem_of_mapM hresults hp
        cases hresolve''.symm.trans hresolve'
        obtain ⟨dimension, hdimension⟩ :=
          registered_of_unblocked hresolve' (hunblocked _ hresult'')
        obtain ⟨_, _, candidates, hcandidates, hmem⟩ :=
          (resolveDimensionRequest_ok hdimension hresolve').1.sound c' hc'
        have hmatchesp := (effect_of_mem_pathCandidates hcandidates hmem).2.1
        apply readResolveInput_resourceType hread p hp
        rw [← hmatchesp.resourceType, hmatches.resourceType])
    rw [hcheck _ hexact] at hrefused
    have hpasses : (results.flatMap (·.candidates)).any
        (fun c' => c'.passesFor ⟨c.row.dimensionKey, "", "", "x", none⟩) = true := by
      rw [any_eq_true]
      refine ⟨c, mem_flatMap.mpr ⟨result, hresult, hc⟩, ?_⟩
      simp [BindingCandidate.passesFor, hcgrants]
    rw [hpasses] at hrefused
    cases hrefused
  · intro hnone
    have hgrantless : ∀ q ∈ input'.dimensionRequests, ∀ result ∈ results,
        resolveDimensionRequest localeLe paths (input'.state reg s)
          input'.targetContainerId q = .ok result →
        ¬∃ c ∈ result.candidates, c.effect.grants = true := by
      intro q hq result hresult hresolve hcandidate
      exact hnone q hq ((hgrants q result hresolve hresult).mp hcandidate)
    constructor
    · rintro q hq _ result ⟨paths', hpaths', hresolve⟩ hcandidate
      cases hpaths'.symm.trans hpaths
      obtain ⟨result', hresult', hresolve'⟩ := exists_of_mem_of_mapM hresults hq
      cases hresolve'.symm.trans hresolve
      exact absurd hcandidate (hgrantless q hq _ hresult' hresolve)
    · intro q hexact _
      have hnot : (results.flatMap (·.candidates)).any (fun c => c.passesFor q) = false := by
        rw [any_eq_false]
        intro c hc hpasses
        obtain ⟨result, hresult, hmem⟩ := mem_flatMap.mp hc
        obtain ⟨p, hp, hresolve⟩ := exists_of_mem_mapM hresults hresult
        unfold BindingCandidate.passesFor at hpasses
        rw [Bool.and_eq_true] at hpasses
        exact hgrantless p hp result hresult hresolve ⟨c, hmem, hpasses.1⟩
      rw [hcheck q hexact, hnot]

/-! ## A folder that is allowed, and one that is shared -/

/-- The activities, a sharing type, and folders that can be shared. -/
def sharingRegistry : Registry :=
  { activityRegistry with
    relationshipTypes :=
      [⟨"contains", .containment, 1, 0, .active, 1⟩, ⟨"shares", .sharing, 0, 0, .active, 1⟩]
    dimensions := [⟨"files", 1, 1, .denyWins, 0, .active, 1⟩] }

/-- Folder `f` bound to an activity. -/
def folderBinding (containerId : String) (effect : BindingEffect) : BindingRow where
  bindingId := "x"
  tenantId := "t"
  containerId
  dimensionKey := "files"
  resourceType := "folder"
  resourceRef := "f"
  effect
  permissionKey := none
  operationPatternsJson := some (.arr [.str "files.read"])
  capabilityKeysJson := none
  inheritanceMode := .inheritDown
  mergePriority := 0
  conditionsJson := none
  validFrom := none
  validUntil := none
  status := .active
  version := 1
  sourceTable := .null
  sourcePk := .null
  delegatedByPrincipalType := none
  delegatedByPrincipalId := none
  delegatorResolutionId := none
  delegationRelationshipId := none
  createdBy := .null
  approvedBy := .null
  metadataJson := none

/-- Activity `b` shares with activity `a`. -/
def sharesRow : RelationshipRow where
  relationshipId := "d"
  tenantId := "t"
  fromContainerId := "b"
  toContainerId := "a"
  relationshipTypeKey := "shares"
  priority := 0
  conditionsJson := none
  validFrom := none
  validUntil := none
  status := .active
  version := 1
  createdBy := .null
  approvedBy := .null
  metadataJson := none

/-- User `u` may read at activity `a`. -/
def readerRow : RoleAssignmentRow where
  assignmentId := "reader"
  tenantId := "t"
  containerId := "a"
  principalType := .user
  principalId := "u"
  roleTemplateKey := none
  inlinePermissionsJson := some (.arr [.obj [("dimension", .str "files"),
    ("permissionKey", .str "files.read"), ("effect", .str "allow")]])
  inheritanceMode := .localOnly
  validFrom := none
  validUntil := none
  status := .active
  version := 1
  issuedBy := .null
  approvedBy := .null
  metadataJson := none

def boundStore (containerId : String) (effect : BindingEffect) : AuthorityStore plainSql :=
  { emptyAuthority with
    relationships := (UniqueTable.empty.insert sharesRow).getD .empty
    roleAssignments := (UniqueTable.empty.insert readerRow).getD .empty
    bindings := (UniqueTable.empty.insert (folderBinding containerId effect)).getD .empty }

/-- Reading folder `f`. -/
def readFolder : DimensionRequest :=
  ⟨"files", "folder", "f", "files.read", none⟩

/-- A preview of reading the folder at `a`, and what the resolver finds for it. -/
structure FolderAnswer (s : AuthorityStore plainSql) where
  input : ResolveInput
  r : Resolution
  after : ResolverWorld plainSql
  paths : List ContainerPath
  result : DimensionResult
  read : readResolveInput false (activityRequest "preview" "r1").rawInput = .ok input
  answered : answer plainRuntime keyLe sharingRegistry false s
    (activityRequest "preview" "r1") freshWorld = (.ok (.fresh r), after)
  climbed : pathsOf plainRuntime keyLe input (input.state sharingRegistry s) = .ok paths
  resolved : resolveDimensionRequest keyLe paths (input.state sharingRegistry s)
    input.targetContainerId readFolder = .ok result

def folderAnswer (s : AuthorityStore plainSql) : Option (FolderAnswer s) :=
  match read : readResolveInput false (activityRequest "preview" "r1").rawInput with
  | .error _ => none
  | .ok input =>
    match answered : answer plainRuntime keyLe sharingRegistry false s
      (activityRequest "preview" "r1") freshWorld with
    | (.ok (.fresh r), after) =>
      match climbed : pathsOf plainRuntime keyLe input (input.state sharingRegistry s) with
      | .error _ => none
      | .ok paths =>
        match resolved : resolveDimensionRequest keyLe paths
          (input.state sharingRegistry s) input.targetContainerId readFolder with
        | .error _ => none
        | .ok result =>
          some ⟨input, r, after, paths, result, read, answered, climbed, resolved⟩
    | _ => none

/-- What is requested, decided and found, and what the check says. -/
structure FolderAnswerSummary where
  requested : Bool
  decision : String
  effects : List BindingEffect
  checked : Option Bool
deriving DecidableEq

def FolderAnswer.summary {s : AuthorityStore plainSql} (a : FolderAnswer s) :
    FolderAnswerSummary where
  requested := a.input.dimensionRequests == [readFolder]
  decision := a.r.evidence.decision
  effects := a.result.candidates.map (·.effect)
  checked := (storedCheck a.after.ledger a.r readFolder).toOption

theorem folderAnswer_summaries :
    (folderAnswer (boundStore "a" .allow)).map FolderAnswer.summary =
        some ⟨true, "allow", [.allow], some false⟩ ∧
      (folderAnswer (boundStore "b" .share)).map FolderAnswer.summary =
        some ⟨true, "allow", [.share], some false⟩ := by
  decide +kernel

/-- Reading the folder is allowed at `a`, and the check refuses to delegate it. -/
theorem delegation_check_refuses_allowed :
    ∃ a : FolderAnswer (boundStore "a" .allow), a.r.evidence.decision = "allow" ∧
      readFolder ∈ a.input.dimensionRequests ∧
      isExactOperation readFolder.operation = true ∧
      (∃ c ∈ a.result.candidates, c.effect.grants = true) ∧
      storedCheck a.after.ledger a.r readFolder = .ok false := by
  obtain ⟨a, _, hsummary⟩ := Option.map_eq_some_iff.mp folderAnswer_summaries.1
  injection hsummary with hrequested hdecision heffects hchecked
  refine ⟨a, hdecision, ?_, by decide, ?_, ?_⟩
  · rw [beq_iff_eq.mp hrequested]
    exact mem_singleton_self _
  · have hallow : BindingEffect.allow ∈ a.result.candidates.map (·.effect) := by
      rw [heffects]
      exact mem_singleton_self _
    obtain ⟨c, hc, heffect⟩ := mem_map.mp hallow
    refine ⟨c, hc, ?_⟩
    rw [heffect]
    rfl
  · cases hcheck : storedCheck a.after.ledger a.r readFolder with
    | error e =>
      rw [hcheck] at hchecked
      cases hchecked
    | ok checked =>
      rw [hcheck] at hchecked
      rw [Option.some.inj hchecked]

/-- Where the folder is shared only, the check agrees that nothing can be delegated. -/
theorem delegation_check_agrees_iff_shared :
    ∃ a : FolderAnswer (boundStore "b" .share), a.r.evidence.decision = "allow" ∧
      readFolder ∈ a.input.dimensionRequests ∧
      EvidenceRespected plainRuntime keyLe a.input
        (a.input.state sharingRegistry (boundStore "b" .share))
        (storedCheck a.after.ledger a.r) := by
  obtain ⟨a, _, hsummary⟩ := Option.map_eq_some_iff.mp folderAnswer_summaries.2
  injection hsummary with hrequested hdecision _ _
  refine ⟨a, hdecision, ?_, ?_⟩
  · rw [beq_iff_eq.mp hrequested]
    exact mem_singleton_self _
  · have hcache : CacheHolds plainRuntime keyLe sharingRegistry (boundStore "b" .share)
        a.input freshWorld.cache := by
      intro item hitem
      cases hitem
    apply (delegation_check_agrees_iff plainRuntime keyLe sharingRegistry false
      (boundStore "b" .share) (activityRequest "preview" "r1") a.read hcache a.answered
      hdecision).mpr
    rintro q _ ⟨b, hb, _, hgranted⟩
    have hstored : b ∈ [folderBinding "b" .share] := stored_of_loaded hb
    obtain rfl := mem_singleton.mp hstored
    rcases hgranted with hinherited | hdelegated
    · cases hinherited.effect
    · cases hdelegated.effect

end GrowthOs.Containers
