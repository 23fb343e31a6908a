import GrowthOs.ContextKernel.CapsuleForm
import GrowthOs.Js.JsonRoundTrip

/-!
# What a capsule is bound to

A digest determines the capsule it was made for.  A capsule that was created
passes the integrity check again, unless the resource type and the resource
reference are so long that their join is no valid reference any more: the
automatic dependency on the resource is set without a check and refused when
it is read back.
-/

namespace GrowthOs.ContextKernel.ExecutionCapsule

open Js Throwing Comparison List

/-! ## The automatic dependencies -/

variable (refs : CapsuleReferences)

theorem CapsuleReferences.automatic_keys : (refs.automatic.map dependencyKey).Nodup := by
  have hdomains : (refs.automatic.map Dependency.domain).Nodup := by
    cases hbrand : refs.brandRef <;> simp [automatic, hbrand]
  rw [List.Nodup, pairwise_map] at hdomains ⊢
  exact hdomains.imp fun hne hkey => hne (dependencyKey_injective hkey).1

theorem CapsuleReferences.mem_automatic_resource :
    ⟨.resource, refs.resourceType ++ ":" ++ refs.resourceRef, refs.contextRevision,
      .static⟩ ∈ refs.automatic := by
  simp [automatic]

/-- Of the automatic dependencies only the resource may be too long. -/
theorem CapsuleReferences.Normal.automatic {refs : CapsuleReferences} (h : refs.Normal) :
    ∀ dependency ∈ refs.automatic, FieldText dependency.revision ∧
      (FieldText dependency.ref ∨
        dependency.ref = refs.resourceType ++ ":" ++ refs.resourceRef) := by
  have hregistry : FieldText "context-registry" :=
    fieldText_of_urlChars (by decide) (by decide) (by decide)
  intro dependency hmem
  simp only [CapsuleReferences.automatic, mem_append, mem_cons, not_mem_nil,
    or_false, Option.mem_toList, Option.map_eq_some_iff] at hmem
  rcases hmem with ((rfl | rfl | rfl | rfl) | ⟨ref, href, rfl⟩) | rfl | rfl | rfl | rfl |
    rfl | rfl
  · exact ⟨h.contextRevision, .inl h.principalRef⟩
  · exact ⟨h.contextRevision, .inl h.effectiveSubjectRef⟩
  · exact ⟨h.contextRevision, .inl h.tenantRef⟩
  · exact ⟨h.contextRevision, .inl h.workspaceRef⟩
  · exact ⟨h.contextRevision, .inl (h.brandRef ref href)⟩
  · exact ⟨h.contextRevision, .inr rfl⟩
  · exact ⟨h.contextRevision, .inl h.connectionRef⟩
  · exact ⟨h.authorityRevision, .inl h.authorityPathRef⟩
  · exact ⟨h.capabilityRevision, .inl h.capabilityKey⟩
  · exact ⟨h.registryRevision, .inl hregistry⟩
  · exact ⟨h.credentialReadinessRevision, .inl h.connectionRef⟩

variable {localeLe : String → String → Bool} {d : CapsuleDescriptor}
  {dependencies : List Dependency}

/-- The dependency vector of an object that carries a normal descriptor. -/
theorem createExecutionCapsuleDependencyVector_eq (h : d.toCapsuleReferences.Normal)
    {object : Val} (hobject : Carries object d) (given : List Val) :
    createExecutionCapsuleDependencyVector localeLe object (.arr given) = (do
      rejectIf (maxCapsuleDependencies < given.length)
        (Val.typeError ("invalidationDependencies may contain at most " ++
          toString maxCapsuleDependencies ++ " dependencies."))
      let normalized ← normalizeDependencies "invalidationDependencies" given
      let dependencies ← normalized.foldlM addDependency d.automatic
      .ok (sortBy (dependencyLe localeLe) dependencies)) := by
  have hautomatic : d.automatic.foldlM addDependency [] = .ok d.automatic :=
    foldlM_addDependency_of_nodup (by simpa using d.automatic_keys)
  simp only [createExecutionCapsuleDependencyVector, readReferences_of_normal h hobject,
    hautomatic, ok_bind]

/-! ## The vector of a created capsule -/

/-- A vector made of the automatic dependencies of a descriptor and others that
were normalised. -/
structure IsVector (localeLe : String → String → Bool) (d : CapsuleDescriptor)
    (dependencies extra : List Dependency) : Prop where
  sorted : dependencies = sortBy (dependencyLe localeLe) (d.automatic ++ extra)
  keys : ((d.automatic ++ extra).map dependencyKey).Nodup
  normal : ∀ dependency ∈ extra, dependency.Normal
  few : extra.length ≤ maxCapsuleDependencies

theorem carries_descriptor (d : CapsuleDescriptor) : Carries (.obj d.fields) d := by
  have h := carries_fields d []
  rwa [append_nil] at h

theorem exists_isVector (hd : d.toCapsuleReferences.Normal) {given : Val}
    (h : createExecutionCapsuleDependencyVector localeLe (.obj d.fields) given = .ok dependencies) :
    ∃ extra, IsVector localeLe d dependencies extra := by
  cases given with
  | arr given =>
    rw [createExecutionCapsuleDependencyVector_eq hd (carries_descriptor d)] at h
    simp only [bind_eq_ok, rejectIf_eq_ok] at h
    obtain ⟨-, hfew, normalized, hnormalized, all, hall, h⟩ := h
    obtain ⟨hlength, hnormal⟩ := normal_of_normalizeDependencies hnormalized
    obtain ⟨extra, rfl, hsub, hkeys⟩ := foldlM_addDependency_ok hall d.automatic_keys
    refine ⟨extra, (Except.ok.inj h).symm, hkeys, ?_, ?_⟩
    · intro dependency hmem
      exact hnormal dependency (hsub.subset hmem)
    · have := hsub.length_le
      omega
  | _ =>
    simp only [createExecutionCapsuleDependencyVector,
      readReferences_of_normal hd (carries_descriptor d), ok_bind] at h
    cases h

/-- `localeCompare` orders different texts. -/
structure LocaleOrder (localeLe : String → String → Bool) : Prop extends IsComparison localeLe where
  antisymm : ∀ s t, localeLe s t = true → localeLe t s = true → s = t

theorem isComparison_dependencyLe (h : IsComparison localeLe) :
    IsComparison (dependencyLe localeLe) :=
  (h.comap _).andThen ((h.comap _).andThen (h.comap _))

namespace IsVector

variable {extra : List Dependency}

theorem perm (h : IsVector localeLe d dependencies extra) :
    dependencies.Perm (d.automatic ++ extra) := by
  rw [h.sorted]
  exact sortBy_perm _ _

/-- The filter of the integrity check finds the other dependencies again. -/
theorem additional_perm (h : IsVector localeLe d dependencies extra) :
    (additionalDependencies (sortBy (dependencyLe localeLe) d.automatic) dependencies).Perm
      extra := by
  have hkeys := h.keys
  rw [map_append, nodup_append] at hkeys
  have hautomatic : ∀ dependency ∈ d.automatic,
      dependencyKey dependency ∈ (sortBy (dependencyLe localeLe) d.automatic).map dependencyKey :=
    fun _ hmem => mem_map_of_mem (mem_sortBy.mpr hmem)
  have hextra : ∀ dependency ∈ extra,
      dependencyKey dependency ∉
        (sortBy (dependencyLe localeLe) d.automatic).map dependencyKey := by
    intro dependency hmem hkey
    obtain ⟨other, hother, heq⟩ := mem_map.mp hkey
    exact hkeys.2.2 _ (mem_map_of_mem (mem_sortBy.mp hother)) _ (mem_map_of_mem hmem) heq
  refine (h.perm.filter _).trans ?_
  rw [filter_append, filter_eq_nil_iff.mpr, filter_eq_self.mpr, nil_append]
  · intro dependency hmem
    simpa using hextra dependency hmem
  · intro dependency hmem
    simpa using hautomatic dependency hmem

/-- Sorting the same dependencies again gives the same vector. -/
theorem sortBy_eq (hlocale : LocaleOrder localeLe)
    (h : IsVector localeLe d dependencies extra) {other : List Dependency}
    (hother : other.Perm extra) :
    sortBy (dependencyLe localeLe) (d.automatic ++ other) = dependencies := by
  rw [h.sorted]
  symm
  apply (isComparison_dependencyLe hlocale.toIsComparison).sortBy_eq_of_perm
  · intro first hfirst second hsecond hle hge
    obtain ⟨hdomain, hdomain', hnext, hnext'⟩ := andThen_antisymm hle hge
    obtain ⟨href, href', -⟩ := andThen_antisymm hnext hnext'
    apply inj_on_of_nodup_map h.keys hfirst hsecond
    simp only [dependencyKey]
    rw [hlocale.antisymm _ _ hdomain hdomain', hlocale.antisymm _ _ href href']
  · exact (List.Perm.append_left _ hother).symm

end IsVector

/-! ## Creating and checking -/

variable {rt : Runtime} {input : Val} {capsule : Capsule}

theorem createExecutionCapsule_ok (h : createExecutionCapsule rt localeLe input = .ok capsule) :
    readDescriptor rt input = .ok capsule.descriptor ∧
      (∃ given, createExecutionCapsuleDependencyVector localeLe
        (.obj capsule.descriptor.fields) given = .ok capsule.invalidationDependencies) ∧
      createExecutionCapsuleHash rt
        (hashedVal capsule.descriptor capsule.invalidationDependencies) =
          .ok capsule.capsuleHash ∧
      capsule.capsuleRef = capsuleRefOf capsule.capsuleHash := by
  simp only [createExecutionCapsule, buildCapsule, bind_eq_ok] at h
  obtain ⟨_, -, descriptor, hd, dependencies, hdependencies, capsuleHash, hhash, _, -, h⟩ := h
  cases h
  exact ⟨hd, ⟨_, hdependencies⟩, hhash, rfl⟩

theorem assertExecutionCapsuleIntegrity_ok {object : Val}
    (h : assertExecutionCapsuleIntegrity rt localeLe object = .ok capsule) :
    (∃ input, createExecutionCapsule rt localeLe input = .ok capsule) ∧
      object.member "capsuleHash" = .str capsule.capsuleHash := by
  simp only [assertExecutionCapsuleIntegrity, bind_eq_ok, rejectIf_eq_ok, not_not] at h
  obtain ⟨_, -, _, -, _, -, given, -, capsuleHash, hclaimed, dependencies, -, automatic, -,
    _, -, canonical, hcanonical, _, hhash, h⟩ := h
  cases h
  refine ⟨⟨_, hcanonical⟩, ?_⟩
  unfold claimedHash at hclaimed
  split at hclaimed
  · next text hmember =>
      simp only [bind_eq_ok] at hclaimed
      obtain ⟨-, -, hclaimed⟩ := hclaimed
      rw [hmember, hhash, Except.ok.inj hclaimed]
  · cases hclaimed

/-- Whether the join of resource type and reference is a valid reference. -/
def ResourceRefFits (input : Val) : Prop :=
  ∀ resourceType resourceRef, input.member "resourceType" = .str resourceType →
    input.member "resourceRef" = .str resourceRef →
      utf16Length (trim resourceType) + 1 + utf16Length (trim resourceRef) ≤ maxFieldLength

theorem resourceRefFits_iff (hiso : ReadsIso rt) (h : readDescriptor rt input = .ok d) :
    ResourceRefFits input ↔ FieldText (d.resourceType ++ ":" ++ d.resourceRef) := by
  obtain ⟨hnormal, htype, href⟩ := readDescriptor_ok hiso h
  rw [fieldText_join_iff hnormal.refs.resourceType hnormal.refs.resourceRef]
  obtain ⟨resourceType, htype, heq, -⟩ := requireString_ok htype
  obtain ⟨resourceRef, href, heq', -⟩ := requireString_ok href
  rw [heq, heq']
  constructor
  · intro hfits
    exact hfits _ _ htype href
  · intro hshort type ref htype' href'
    rw [htype] at htype'
    rw [href] at href'
    obtain rfl := Val.str.inj htype'
    obtain rfl := Val.str.inj href'
    exact hshort

theorem carries_toVal (capsule : Capsule) : Carries capsule.toVal capsule.descriptor :=
  carries_fields _ _

theorem claimedHash_toVal (capsule : Capsule) (h : isSha256 capsule.capsuleHash = true) :
    claimedHash capsule.toVal = .ok capsule.capsuleHash := by
  have hmember : capsule.toVal.member "capsuleHash" = .str capsule.capsuleHash := by
    simp [Capsule.toVal, CapsuleDescriptor.fields, Val.member, Val.lookup]
  simp [claimedHash, hmember, h, rejectIf, ok_bind]

/-- The first checks of the integrity check pass on a capsule. -/
theorem capsule_form (capsule : Capsule) :
    capsule.toVal.isPlainObject = true ∧
      isSchemaVersion (capsule.toVal.member "schemaVersion") = true ∧
      (capsule.toVal.member "executionAllowed").isFalse = true ∧
      (capsule.toVal.member "secretsIncluded").isFalse = true ∧
      capsuleDependencyList capsule.toVal =
        .ok (capsule.invalidationDependencies.map Dependency.toVal) ∧
      capsule.toVal.member "capsuleRef" = .str capsule.capsuleRef := by
  refine ⟨rfl, ?_, ?_, ?_, ?_, ?_⟩ <;>
    simp [Capsule.toVal, CapsuleDescriptor.fields, Val.member, Val.lookup, isSchemaVersion,
      Val.isFalse, capsuleDependencyList, dependenciesVal]

theorem rebuildInput_members (object : Val) (additional : List Dependency) :
    (rebuildInput object additional).member "invalidationDependencies" =
        dependenciesVal additional ∧
      (rebuildInput object additional).member "capsuleRef" = object.member "capsuleRef" := by
  constructor <;> simp [rebuildInput, rebuiltNames, Val.member, Val.lookup]

theorem CapsuleReferences.length_automatic : refs.automatic.length ≤ 11 := by
  cases hbrand : refs.brandRef <;> simp [automatic, hbrand]

/-- Built again from its own fields, a capsule stays the same. -/
theorem createExecutionCapsule_again (hiso : ReadsIso rt) (hlocale : LocaleOrder localeLe)
    (h : createExecutionCapsule rt localeLe input = .ok capsule) {extra : List Dependency}
    (hvector : IsVector localeLe capsule.descriptor capsule.invalidationDependencies extra)
    {other : List Dependency} (hother : other.Perm extra) :
    createExecutionCapsule rt localeLe (rebuildInput capsule.toVal other) = .ok capsule := by
  obtain ⟨hd, -, hhash, href⟩ := createExecutionCapsule_ok h
  obtain ⟨hnormal, -⟩ := readDescriptor_ok hiso hd
  obtain ⟨hdependencies, hclaimed⟩ := rebuildInput_members capsule.toVal other
  have hread : readDescriptor rt (rebuildInput capsule.toVal other) =
      .ok capsule.descriptor :=
    readDescriptor_of_normal hnormal (carries_rebuildInput (carries_toVal capsule) other)
  have hfew : ¬maxCapsuleDependencies < (other.map Dependency.toVal).length := by
    have := hvector.few
    rw [length_map, hother.length_eq]
    omega
  have hkeys : ((capsule.descriptor.automatic ++ other).map dependencyKey).Nodup :=
    ((List.Perm.append_left _ hother).map _).nodup_iff.mpr hvector.keys
  have hvector' : createExecutionCapsuleDependencyVector localeLe
      (.obj capsule.descriptor.fields) (dependenciesVal other) =
        .ok capsule.invalidationDependencies := by
    rw [dependenciesVal, createExecutionCapsuleDependencyVector_eq hnormal.refs
      (carries_descriptor _), rejectIf, if_neg hfew, ok_bind,
      normalizeDependencies_toVal (fun dependency hmem =>
        hvector.normal dependency (hother.subset hmem)),
      ok_bind, foldlM_addDependency_of_nodup hkeys, ok_bind,
      hvector.sortBy_eq hlocale hother]
  have hor : (dependenciesVal other).or (.arr []) = dependenciesVal other := rfl
  have hsame : claimsOther (.str capsule.capsuleRef) capsule.capsuleRef = false := by
    simp [claimsOther]
  have haccess : firstAccess (rebuildInput capsule.toVal other) =
      .ok ((rebuildInput capsule.toVal other).member "issuedAt") := rfl
  simp only [createExecutionCapsule, haccess, hread, hdependencies, hor, hclaimed,
    (capsule_form capsule).2.2.2.2.2, buildCapsule, hvector', hhash, hsame, ok_bind, rejectIf,
    Bool.false_eq_true, if_false, ← href]

/-- A created capsule passes the integrity check, as long as its reference to
the resource can be read back. -/
theorem integrity_of_fieldText (hiso : ReadsIso rt) (hlocale : LocaleOrder localeLe)
    (hdigest : isSha256 capsule.capsuleHash = true)
    (h : createExecutionCapsule rt localeLe input = .ok capsule)
    (hfits : FieldText (capsule.descriptor.resourceType ++ ":" ++ capsule.descriptor.resourceRef)) :
    assertExecutionCapsuleIntegrity rt localeLe capsule.toVal = .ok capsule := by
  obtain ⟨hd, ⟨given, hgiven⟩, -⟩ := createExecutionCapsule_ok h
  obtain ⟨hnormal, -⟩ := readDescriptor_ok hiso hd
  obtain ⟨extra, hvector⟩ := exists_isVector hnormal.refs hgiven
  obtain ⟨hobject, hversion, hallowed, hsecrets, hlist, -⟩ := capsule_form capsule
  have hmap : buildDependencyMap (capsule.invalidationDependencies.map Dependency.toVal)
      "capsuleDependencies" (maxCapsuleDependencies + DependencyDomain.all.length) =
        .ok capsule.invalidationDependencies := by
    have hlength := hvector.perm.length_eq
    have hautomatic := capsule.descriptor.length_automatic
    have hfew := hvector.few
    have hbound : ¬maxCapsuleDependencies + DependencyDomain.all.length <
        (capsule.invalidationDependencies.map Dependency.toVal).length := by
      rw [length_map, hlength, length_append]
      have : DependencyDomain.all.length = 18 := rfl
      omega
    rw [buildDependencyMap, rejectIf, if_neg hbound, ok_bind,
      mapDependencies_toVal _ 0 [] _, nil_append]
    · intro dependency hmem
      rcases mem_append.mp (hvector.perm.mem_iff.mp hmem) with hmem | hmem
      · obtain ⟨hrevision, href⟩ := hnormal.refs.automatic dependency hmem
        exact ⟨href.elim id fun hjoin => hjoin ▸ hfits, hrevision⟩
      · exact hvector.normal dependency hmem
    · exact (hvector.perm.map _).nodup_iff.mpr hvector.keys
  have hautomatic : createExecutionCapsuleDependencyVector localeLe capsule.toVal (.arr []) =
      .ok (sortBy (dependencyLe localeLe) capsule.descriptor.automatic) := by
    rw [createExecutionCapsuleDependencyVector_eq hnormal.refs (carries_toVal capsule)]
    rfl
  have hfew : ¬maxCapsuleDependencies < (additionalDependencies
      (sortBy (dependencyLe localeLe) capsule.descriptor.automatic)
      capsule.invalidationDependencies).length := by
    rw [hvector.additional_perm.length_eq]
    exact Nat.not_lt.mpr hvector.few
  have hagain := createExecutionCapsule_again hiso hlocale h hvector hvector.additional_perm
  simp only [assertExecutionCapsuleIntegrity, hobject, hversion, hallowed, hsecrets, hlist,
    claimedHash_toVal capsule hdigest, hmap, hautomatic, hfew, hagain, ok_bind, rejectIf,
    Bool.true_eq_false, or_self, ne_eq, not_true_eq_false, if_false]

/-- A capsule that passes has a reference to its resource that can be read
back. -/
theorem fieldText_of_integrity (hiso : ReadsIso rt)
    (h : createExecutionCapsule rt localeLe input = .ok capsule) {canonical : Capsule}
    (hpass : assertExecutionCapsuleIntegrity rt localeLe capsule.toVal = .ok canonical) :
    FieldText (capsule.descriptor.resourceType ++ ":" ++ capsule.descriptor.resourceRef) := by
  obtain ⟨hd, ⟨given, hgiven⟩, -⟩ := createExecutionCapsule_ok h
  obtain ⟨hnormal, -⟩ := readDescriptor_ok hiso hd
  obtain ⟨extra, hvector⟩ := exists_isVector hnormal.refs hgiven
  obtain ⟨-, -, -, -, hlist, -⟩ := capsule_form capsule
  simp only [assertExecutionCapsuleIntegrity, hlist, ok_bind, bind_eq_ok] at hpass
  obtain ⟨_, -, _, -, _, -, _, -, dependencies, hmap, -⟩ := hpass
  simp only [buildDependencyMap, bind_eq_ok] at hmap
  obtain ⟨-, -, hmap⟩ := hmap
  have hmem : (⟨.resource, capsule.descriptor.resourceType ++ ":" ++
      capsule.descriptor.resourceRef, capsule.descriptor.contextRevision, .static⟩ :
        Dependency) ∈ capsule.invalidationDependencies :=
    hvector.perm.mem_iff.mpr (mem_append_left _ capsule.descriptor.mem_automatic_resource)
  obtain ⟨index, normalized, hnormalized⟩ :=
    exists_normalized_of_mapDependencies hmap (mem_map_of_mem hmem)
  refine fieldText_of_normalizeDependency_toVal ?_ hnormalized
  have htype := hnormal.refs.resourceType
  have href := hnormal.refs.resourceRef
  rw [String.toList_append, String.toList_append]
  exact htype.trimmed.append href.trimmed (mt String.toList_eq_nil_iff.mp htype.nonempty)
    (mt String.toList_eq_nil_iff.mp href.nonempty) _

/-! ## The digest determines the capsule -/

/-- Fields and their texts. -/
def Prints (field : String × Val) (entry : String × String) : Prop :=
  field.1 = entry.1 ∧ jsonStringify field.2 = some entry.2

variable {fields : List (String × Val)} {entries : List (String × String)} {d' : CapsuleDescriptor}

theorem forall₂_prints_insert {field : String × Val} {entry : String × String}
    (h : Prints field entry) (hall : List.Forall₂ Prints fields entries) :
    List.Forall₂ Prints (insertField field fields) (insertText entry entries) := by
  induction hall with
  | nil => exact .cons h .nil
  | @cons first firstEntry _ _ hfirst hrest ih =>
    unfold insertField insertText
    rw [h.1, hfirst.1]
    by_cases hle : keyLe entry.1 firstEntry.1 = true
    · rw [if_pos hle, if_pos hle]
      exact .cons h (.cons hfirst hrest)
    · rw [if_neg hle, if_neg hle]
      exact .cons hfirst ih

theorem memberTexts_of_prints (h : List.Forall₂ Prints fields entries) :
    memberTexts fields = entries.map fun entry => quote entry.1 ++ ":" ++ entry.2 := by
  induction h with
  | nil => rfl
  | @cons field entry _ _ hfirst _ ih =>
    obtain ⟨key, v⟩ := field
    obtain ⟨rfl, htext⟩ := hfirst
    simp only [memberTexts, htext, ih, map_cons]

open JsonText

mutual

/-- The canonical form of the source is the text of the sorted value. -/
theorem jsonStringify_stableValue : ∀ v : Val, Writable v →
    jsonStringify (stableValue v) = some (canonicalize v)
  | .undefined, h => h.elim
  | .null, _ => rfl
  | .bool true, _ => rfl
  | .bool false, _ => rfl
  | .num _, _ => rfl
  | .str _, _ => rfl
  | .arr elems, h => by
    rw [stableValue, jsonStringify, elementTexts_stableElements elems h, canonicalize]
  | .obj fields, h => by
    rw [stableValue, jsonStringify,
      memberTexts_of_prints (prints_stableFields fields h), canonicalize]

theorem elementTexts_stableElements : ∀ elems : List Val, WritableElems elems →
    elementTexts (stableElements elems) = canonicalElems elems
  | [], _ => rfl
  | v :: rest, h => by
    rw [stableElements, elementTexts, jsonStringify_stableValue v h.1,
      elementTexts_stableElements rest h.2, canonicalElems, Option.getD_some]

theorem prints_stableFields : ∀ fields : List (String × Val),
    WritableFields fields →
      List.Forall₂ Prints (stableFields fields) (canonicalFields fields)
  | [], _ => .nil
  | (_, v) :: rest, h =>
    forall₂_prints_insert ⟨rfl, jsonStringify_stableValue v h.2.1⟩ (prints_stableFields rest h.2.2)

end

theorem canonicalize_injective {v w : Val} (hv : Writable v)
    (hw : Writable w) (h : canonicalize v = canonicalize w) : stableValue v = stableValue w := by
  apply stableStringify_injective hv hw
  unfold stableStringify
  rw [jsonStringify_stableValue v hv, jsonStringify_stableValue w hw, h]

theorem writable_toVal (dependency : Dependency) : Writable dependency.toVal := by
  refine ⟨?_, trivial, ?_, trivial, ?_, trivial, ?_, trivial, trivial⟩ <;> simp

theorem writable_dependenciesVal (dependencies : List Dependency) :
    Writable (dependenciesVal dependencies) := by
  induction dependencies with
  | nil => trivial
  | cons dependency rest ih => exact ⟨writable_toVal dependency, ih⟩

theorem optionVal_injective {first second : Option String}
    (h : stableValue (optionVal first) = stableValue (optionVal second)) : first = second := by
  cases first <;> cases second <;> cases h <;> rfl

/-- Same canonical form, same fields. -/
theorem stableValue_lookup {fields' : List (String × Val)}
    (hfields : WritableFields fields) (hfields' : WritableFields fields')
    (h : stableValue (.obj fields) = stableValue (.obj fields')) (name : String) :
    stableValue (Val.lookup fields name) = stableValue (Val.lookup fields' name) := by
  rw [← lookup_stableFields hfields, ← lookup_stableFields hfields']
  exact congrArg (fun v => Val.member v name) h

theorem Dependency.toVal_injective {first second : Dependency}
    (h : stableValue first.toVal = stableValue second.toVal) : first = second := by
  have hlookup := stableValue_lookup (writable_toVal first) (writable_toVal second) h
  have hdomain := Val.str.inj (hlookup "domain")
  have href := Val.str.inj (hlookup "ref")
  have hrevision := Val.str.inj (hlookup "revision")
  have hclass := Val.str.inj (hlookup "refreshClass")
  have hdomain' : first.domain = second.domain := by
    have hof := congrArg DependencyDomain.ofText hdomain
    rwa [DependencyDomain.ofText_text, DependencyDomain.ofText_text, Option.some.injEq] at hof
  have hclass' : first.refreshClass = second.refreshClass := by
    cases hfirst : first.refreshClass <;> cases hsecond : second.refreshClass <;>
      rw [hfirst, hsecond] at hclass <;> first | rfl | exact absurd hclass (by decide)
  cases first
  simp_all

theorem dependenciesVal_injective {first second : List Dependency}
    (h : stableValue (dependenciesVal first) = stableValue (dependenciesVal second)) :
    first = second := by
  have hmap : ∀ elems, stableElements elems = elems.map stableValue := by
    intro elems
    induction elems with
    | nil => rfl
    | cons v rest ih => rw [stableElements, ih, map_cons]
  have helems := Val.arr.inj h
  rw [hmap, hmap, map_map, map_map] at helems
  exact map_injective_iff.mpr (fun _ _ => Dependency.toVal_injective) helems

theorem writable_hashedVal (d : CapsuleDescriptor) (dependencies : List Dependency) :
    Writable (hashedVal d dependencies) := by
  refine writableFields_iff.mpr ⟨?_, ?_⟩
  · rw [map_append, nodup_append]
    refine ⟨d.fields_nodup, nodup_singleton _, ?_⟩
    intro name hname other hother
    obtain rfl := mem_singleton.mp hother
    rintro rfl
    exact absurd hname (by simp [CapsuleDescriptor.fields])
  · intro field hfield
    rcases mem_append.mp hfield with hfield | hfield
    · have hbrand : Writable (optionVal d.brandRef) := by
        cases d.brandRef <;> trivial
      simp only [CapsuleDescriptor.fields, mem_cons, not_mem_nil, or_false]
        at hfield
      rcases hfield with rfl | rfl | rfl | rfl | rfl | rfl | rfl | rfl | rfl | rfl | rfl |
        rfl | rfl | rfl | rfl | rfl | rfl | rfl | rfl | rfl
      · exact readsBack_one
      all_goals first | exact hbrand | trivial
    · obtain rfl := mem_singleton.mp hfield
      exact writable_dependenciesVal dependencies

/-- The values of fields with distinct names, read by name. -/
theorem map_stableValue (hkeys : (fields.map Prod.fst).Nodup) (rest : List (String × Val)) :
    fields.map (fun field => stableValue field.2) = (fields.map Prod.fst).map fun name =>
        stableValue (Val.lookup (fields ++ rest) name) := by
  rw [map_map]
  apply map_congr_left
  intro field hfield
  rw [Function.comp_apply, lookup_append_of_mem hkeys hfield]

theorem CapsuleDescriptor.eq_of_fields (h : d.fields.map (fun field => stableValue field.2) =
      d'.fields.map fun field => stableValue field.2) : d = d' := by
  obtain ⟨refs, contextHash, principalType, issuedAt, expiresAt⟩ := d
  cases refs
  simp only [fields, map_cons, map_nil, List.cons.injEq, stableValue,
    Val.str.injEq, true_and, and_true] at h
  obtain ⟨rfl, rfl, rfl, rfl, rfl, rfl, rfl, hbrand, rfl, rfl, rfl, rfl, rfl, rfl, rfl, rfl,
    rfl, rfl, rfl⟩ := h
  obtain rfl := optionVal_injective hbrand
  rfl

/-- What is hashed determines descriptor and dependencies. -/
theorem hashedVal_injective {dependencies' : List Dependency}
    (h : stableValue (hashedVal d dependencies) = stableValue (hashedVal d' dependencies')) :
    d = d' ∧ dependencies = dependencies' := by
  have hlookup := stableValue_lookup (writable_hashedVal d dependencies)
    (writable_hashedVal d' dependencies') h
  have hnames : d.fields.map Prod.fst = d'.fields.map Prod.fst := rfl
  constructor
  · have hvalues : d.fields.map (fun field => stableValue field.2) =
        d'.fields.map fun field => stableValue field.2 := by
      rw [map_stableValue d.fields_nodup _, hnames, map_congr_left
        (fun name _ => hlookup name), ← map_stableValue d'.fields_nodup]
    exact CapsuleDescriptor.eq_of_fields hvalues
  · have hlast := hlookup "invalidationDependencies"
    exact dependenciesVal_injective hlast

/-- One digest, one capsule. -/
theorem capsule_eq_of_hash (hsha : Function.Injective rt.sha256) {input' : Val}
    {capsule' : Capsule} (h : createExecutionCapsule rt localeLe input = .ok capsule)
    (h' : createExecutionCapsule rt localeLe input' = .ok capsule')
    (hhash : capsule.capsuleHash = capsule'.capsuleHash) : capsule = capsule' := by
  obtain ⟨-, -, hdigest, href⟩ := createExecutionCapsule_ok h
  obtain ⟨-, -, hdigest', href'⟩ := createExecutionCapsule_ok h'
  simp only [createExecutionCapsuleHash, bind_eq_ok] at hdigest hdigest'
  obtain ⟨-, -, hdigest⟩ := hdigest
  obtain ⟨-, -, hdigest'⟩ := hdigest'
  have htext := hsha ((Except.ok.inj hdigest).trans (hhash.trans (Except.ok.inj hdigest').symm))
  have hcanonical : canonicalize (hashedVal capsule.descriptor
      capsule.invalidationDependencies) = canonicalize (hashedVal capsule'.descriptor
        capsule'.invalidationDependencies) := by
    simpa using htext
  obtain ⟨hd, hdependencies⟩ := hashedVal_injective
    (canonicalize_injective (writable_hashedVal _ _) (writable_hashedVal _ _) hcanonical)
  cases capsule
  cases capsule'
  simp only at hd hdependencies hhash href href'
  subst hd hdependencies hhash
  rw [href, href']

/-- A created capsule passes the integrity check and comes back unchanged
exactly when resource type and resource reference are together at most as long
as one reference may be; and objects that pass with one digest stand for one
capsule. -/
theorem capsule_round_trip_iff (rt : Runtime) (localeLe : String → String → Bool) :
    (ReadsIso rt → LocaleOrder localeLe → ∀ input capsule,
      createExecutionCapsule rt localeLe input = .ok capsule → isSha256 capsule.capsuleHash = true →
          (assertExecutionCapsuleIntegrity rt localeLe capsule.toVal = .ok capsule ↔
            ResourceRefFits input)) ∧
      (Function.Injective rt.sha256 → ∀ object object' capsule capsule',
        assertExecutionCapsuleIntegrity rt localeLe object = .ok capsule →
          assertExecutionCapsuleIntegrity rt localeLe object' = .ok capsule' →
            object.member "capsuleHash" = object'.member "capsuleHash" → capsule = capsule') := by
  constructor
  · intro hiso hlocale input capsule h hdigest
    rw [resourceRefFits_iff hiso (createExecutionCapsule_ok h).1]
    exact ⟨fieldText_of_integrity hiso h, integrity_of_fieldText hiso hlocale hdigest h⟩
  · intro hsha object object' capsule capsule' hpass hpass' hhash
    obtain ⟨⟨input, h⟩, hmember⟩ := assertExecutionCapsuleIntegrity_ok hpass
    obtain ⟨⟨input', h'⟩, hmember'⟩ := assertExecutionCapsuleIntegrity_ok hpass'
    rw [hmember, hmember'] at hhash
    exact capsule_eq_of_hash hsha h h' (Val.str.inj hhash)

/-! ## Two capsules -/

/-- A normal descriptor is made into a capsule as it is. -/
theorem createExecutionCapsule_of_normal (h : d.Normal rt)
    (hsize : (canonicalize (hashedVal d (sortBy (dependencyLe localeLe) d.automatic))).utf8ByteSize
      ≤ maxCanonicalBytes) :
    ∃ capsule, createExecutionCapsule rt localeLe (.obj d.fields) = .ok capsule ∧
      capsule.descriptor = d ∧ capsule.capsuleHash = rt.sha256 ("execution-capsule-v1:" ++
        canonicalize (hashedVal d (sortBy (dependencyLe localeLe) d.automatic))) := by
  have hvector : createExecutionCapsuleDependencyVector localeLe (.obj d.fields) (.arr []) =
      .ok (sortBy (dependencyLe localeLe) d.automatic) := by
    rw [createExecutionCapsuleDependencyVector_eq h.refs (carries_descriptor d)]
    rfl
  have habsent : ∀ name, name ∉ d.fields.map Prod.fst →
      (Val.obj d.fields).member name = .undefined := by
    intro name hname
    have hlookup : Val.lookup (d.fields ++ []) name = Val.lookup [] name :=
      lookup_append_of_not_mem hname
    rwa [append_nil] at hlookup
  have hgiven := habsent "invalidationDependencies" (by simp [CapsuleDescriptor.fields])
  have hclaimed := habsent "capsuleRef" (by simp [CapsuleDescriptor.fields])
  have hor : Val.undefined.or (.arr []) = .arr [] := rfl
  have haccess : firstAccess (.obj d.fields) = .ok ((Val.obj d.fields).member "issuedAt") :=
    rfl
  have hother : ∀ text, claimsOther .undefined text = false := fun _ => rfl
  refine ⟨⟨d, capsuleRefOf (rt.sha256 ("execution-capsule-v1:" ++ canonicalize
    (hashedVal d (sortBy (dependencyLe localeLe) d.automatic)))), _,
    sortBy (dependencyLe localeLe) d.automatic⟩, ?_, rfl, rfl⟩
  simp only [createExecutionCapsule, haccess, readDescriptor_of_normal h
      (carries_descriptor d), hgiven, hor, hclaimed, buildCapsule, hvector,
      createExecutionCapsuleHash, rejectIf, if_neg (Nat.not_lt.mpr hsize), hother, ok_bind,
      Bool.false_eq_true, if_false]

/-- A descriptor whose texts are one letter long, the resource aside. -/
def sampleDescriptor (resourceType resourceRef : String) : CapsuleDescriptor where
  contextHash := "a"
  contextRevision := "a"
  principalType := "a"
  principalRef := "a"
  effectiveSubjectRef := "a"
  tenantRef := "a"
  workspaceRef := "a"
  brandRef := none
  resourceType := resourceType
  resourceRef := resourceRef
  connectionRef := "a"
  authorityPathRef := "a"
  capabilityKey := "a"
  authorityRevision := "a"
  capabilityRevision := "a"
  registryRevision := "a"
  credentialReadinessRevision := "a"
  issuedAt := "1970-01-01T00:00:00.000Z"
  expiresAt := "1971-01-01T00:00:00.000Z"

/-- A digest with the shape of SHA-256 for one text, and two dates. -/
def sampleRuntime (hashed : String) : Runtime where
  sha256 text :=
    if text = hashed then String.ofList (List.replicate 64 '0') else "x" ++ text
  timeOf
    | .str "1970-01-01T00:00:00.000Z" => some 0
    | .str "1971-01-01T00:00:00.000Z" => some 31536000000
    | _ => none
  isoString time :=
    if time = 0 then "1970-01-01T00:00:00.000Z" else "1971-01-01T00:00:00.000Z"

theorem readsIso_sampleRuntime (hashed : String) : ReadsIso (sampleRuntime hashed) := by
  intro value time htime
  simp only [sampleRuntime] at htime
  split at htime <;> cases htime <;> rfl

theorem sha256_sampleRuntime (hashed : String) :
    (sampleRuntime hashed).sha256 hashed = String.ofList (List.replicate 64 '0') :=
  if_pos rfl

theorem sha256_sampleRuntime_injective (hashed : String) :
    Function.Injective (sampleRuntime hashed).sha256 := by
  have hzero : ∀ text, String.ofList (List.replicate 64 '0') ≠ "x" ++ text := by
    intro text heq
    simpa using congrArg String.toList heq
  intro s t heq
  simp only [sampleRuntime] at heq
  split_ifs at heq with hs ht ht
  · rw [hs, ht]
  · exact absurd heq (hzero t)
  · exact absurd heq.symm (hzero s)
  · simpa using heq

theorem localeOrder_keyLe : LocaleOrder keyLe where
  total _ _ := unitsLe_total _ _
  trans _ _ _ := unitsLe_trans
  antisymm _ _ := keyLe_antisymm

variable {resourceType resourceRef : String}

theorem sampleDescriptor_normal (hashed : String) (htype : FieldText resourceType)
    (href : FieldText resourceRef) :
    (sampleDescriptor resourceType resourceRef).Normal (sampleRuntime hashed) := by
  have ha : FieldText "a" := fieldText_of_urlChars (by decide) (by decide) (by decide)
  refine ⟨⟨ha, ha, ha, ha, ha, ?_, htype, href, ha, ha, ha, ha, ha, ha, ha⟩, ha, ha,
    rfl, rfl, rfl⟩
  intro ref hmem
  cases hmem

def sampleHashed (resourceType resourceRef : String) : String :=
  "execution-capsule-v1:" ++ canonicalize (hashedVal (sampleDescriptor resourceType resourceRef)
    (sortBy (dependencyLe keyLe) (sampleDescriptor resourceType resourceRef).automatic))

theorem sample_created (htype : FieldText resourceType) (href : FieldText resourceRef)
    (hsize : (canonicalize (hashedVal (sampleDescriptor resourceType resourceRef) (sortBy
      (dependencyLe keyLe) (sampleDescriptor resourceType resourceRef).automatic))).utf8ByteSize ≤
        maxCanonicalBytes) :
    ∃ capsule, createExecutionCapsule (sampleRuntime (sampleHashed resourceType resourceRef))
        keyLe (.obj (sampleDescriptor resourceType resourceRef).fields) = .ok capsule ∧
      capsule.descriptor = sampleDescriptor resourceType resourceRef ∧
        isSha256 capsule.capsuleHash = true := by
  obtain ⟨capsule, hcreated, hd, hhash⟩ := createExecutionCapsule_of_normal
    (sampleDescriptor_normal (sampleHashed resourceType resourceRef) htype href) hsize
  have hzeros : capsule.capsuleHash = String.ofList (List.replicate 64 '0') :=
    hhash.trans (sha256_sampleRuntime (sampleHashed resourceType resourceRef))
  refine ⟨capsule, hcreated, hd, ?_⟩
  rw [hzeros]
  decide +kernel

theorem capsule_round_trip_short :
    ∃ capsule, createExecutionCapsule (sampleRuntime (sampleHashed "a" "a")) keyLe
        (.obj (sampleDescriptor "a" "a").fields) = .ok capsule ∧
      assertExecutionCapsuleIntegrity (sampleRuntime (sampleHashed "a" "a")) keyLe
        capsule.toVal = .ok capsule ∧
      ∀ object canonical, assertExecutionCapsuleIntegrity
        (sampleRuntime (sampleHashed "a" "a")) keyLe object = .ok canonical →
          object.member "capsuleHash" = capsule.toVal.member "capsuleHash" →
            canonical = capsule := by
  have ha : FieldText "a" := fieldText_of_urlChars (by decide) (by decide) (by decide)
  obtain ⟨capsule, hcreated, -, hdigest⟩ := sample_created ha ha (by decide +kernel)
  obtain ⟨hround, hbound⟩ := capsule_round_trip_iff (sampleRuntime (sampleHashed "a" "a")) keyLe
  have hpass := (hround (readsIso_sampleRuntime _) localeOrder_keyLe _ capsule hcreated
    hdigest).mpr (by
      intro resourceType resourceRef htype href
      obtain rfl := Val.str.inj htype
      obtain rfl := Val.str.inj href
      decide)
  refine ⟨capsule, hcreated, hpass, ?_⟩
  intro object canonical hobject hhash
  exact hbound (sha256_sampleRuntime_injective _) object _ canonical capsule hobject hpass hhash

def letters (n : Nat) : String := String.ofList (List.replicate n 'a')

theorem length_letters (n : Nat) : (letters n).toList.length = n := by
  rw [letters, String.toList_ofList, length_replicate]

theorem urlChars_letters (n : Nat) : (letters n).toList.all isUrlChar = true := by
  rw [letters, String.toList_ofList, all_eq_true]
  intro c hc
  rw [eq_of_mem_replicate hc]
  decide

theorem fieldText_letters {n : Nat} (hpos : 0 < n) (hshort : n ≤ maxFieldLength) :
    FieldText (letters n) := by
  refine fieldText_of_urlChars ?_ ?_ (urlChars_letters n)
  · intro heq
    have hlength := length_letters n
    rw [heq] at hlength
    exact Nat.ne_of_lt hpos hlength
  · rw [length_letters]
    exact hshort

theorem quote_ofList (cs : List Char) :
    quote (String.ofList cs) = String.ofList ('"' :: cs.flatMap escapeChar ++ ['"']) := by
  rw [quote, String.toList_ofList]

theorem size_letters :
    (canonicalize (hashedVal (sampleDescriptor (letters 300) (letters 300))
      (sortBy (dependencyLe keyLe)
        (sampleDescriptor (letters 300) (letters 300)).automatic))).utf8ByteSize ≤
          maxCanonicalBytes := by
  have hsorted : sortBy (dependencyLe keyLe)
      (sampleDescriptor (letters 300) (letters 300)).automatic =
      [⟨.authority, "a", "a", .static⟩, ⟨.capability, "a", "a", .static⟩,
        ⟨.connection, "a", "a", .static⟩, ⟨.credentialReadiness, "a", "a", .dynamic⟩,
        ⟨.effectiveSubject, "a", "a", .static⟩, ⟨.principal, "a", "a", .static⟩,
        ⟨.registry, "context-registry", "a", .static⟩,
        ⟨.resource, letters 300 ++ ":" ++ letters 300, "a", .static⟩,
        ⟨.tenant, "a", "a", .static⟩, ⟨.workspace, "a", "a", .static⟩] := by
    decide +kernel
  have hjoin : letters 300 ++ ":" ++ letters 300 =
      String.ofList (replicate 300 'a' ++ [':'] ++ replicate 300 'a') := by
    rw [String.ofList_append, String.ofList_append]
    rfl
  -- the long texts are quoted as lists of characters before the sizes are computed
  rw [hsorted, hjoin]
  simp only [hashedVal, dependenciesVal, CapsuleDescriptor.fields, cons_append, nil_append,
    canonicalize, canonicalFields, canonicalElems, sampleDescriptor, map_cons, map_nil,
    Dependency.toVal, jsonStringify, Option.getD_some, letters, quote_ofList]
  decide +kernel

/-- Resource type and reference of 300 letters each. -/
theorem long_resource_refused :
    ∃ capsule, createExecutionCapsule
        (sampleRuntime (sampleHashed (letters 300) (letters 300))) keyLe
          (.obj (sampleDescriptor (letters 300) (letters 300)).fields) = .ok capsule ∧
      ∀ canonical, assertExecutionCapsuleIntegrity
        (sampleRuntime (sampleHashed (letters 300) (letters 300))) keyLe capsule.toVal ≠
          .ok canonical := by
  have hlong : FieldText (letters 300) := fieldText_letters (by decide) (by decide)
  obtain ⟨capsule, hcreated, hd, -⟩ := sample_created hlong hlong size_letters
  refine ⟨capsule, hcreated, ?_⟩
  intro canonical hpass
  have hfits := fieldText_of_integrity (readsIso_sampleRuntime _) hcreated hpass
  rw [hd] at hfits
  have hshort := (fieldText_join_iff hlong hlong).mp hfits
  rw [utf16Length_of_urlChars (urlChars_letters 300), length_letters] at hshort
  exact absurd hshort (by decide)

end GrowthOs.ContextKernel.ExecutionCapsule
