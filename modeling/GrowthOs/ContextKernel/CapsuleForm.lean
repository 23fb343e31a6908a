import GrowthOs.ContextKernel.ExecutionCapsule

/-!
# What the fields of a capsule read back

Texts, dependencies and descriptors in the form the checks leave them in are
left alone when they are checked again.  The one text that is put together
after the check, the reference to the resource, is valid only when its parts
are short enough.
-/

namespace GrowthOs.ContextKernel.ExecutionCapsule

open Js Throwing List

/-! ## Texts that pass the check -/

/-- What `requireString` returns. -/
structure FieldText (text : String) : Prop where
  trimmed : Trimmed text.toList
  nonempty : text ≠ ""
  short : utf16Length text ≤ maxFieldLength
  open_ : isSecretValue text = false

variable {value : Val} {fieldName text second first : String} (domain : DependencyDomain)

theorem requireString_ok (h : requireString value fieldName = .ok text) :
    ∃ s, value = .str s ∧ text = trim s ∧ FieldText text := by
  unfold requireString at h
  split at h
  · next s =>
      simp only [bind_eq_ok, rejectIf_eq_ok] at h
      obtain ⟨-, hne, -, hshort, -, hopen, h⟩ := h
      cases h
      exact ⟨s, rfl, rfl, trimmed_trim s, hne, Nat.le_of_not_lt hshort,
        Bool.eq_false_of_not_eq_true hopen⟩
  · cases h

/-- The check returns a text that has passed it. -/
theorem requireString_of_fieldText (h : FieldText text) (fieldName : String) :
    requireString (.str text) fieldName = .ok text := by
  have hshort : ¬maxFieldLength < utf16Length text := Nat.not_lt.mpr h.short
  simp [requireString, trim_of_trimmed h.trimmed, rejectIf, h.nonempty, hshort, h.open_,
    ok_bind]

theorem optionalString_ok {text : Option String} (h : optionalString value fieldName = .ok text) :
    ∀ t ∈ text, FieldText t := by
  have hread : ∀ v, (do
      let t ← requireString v fieldName
      Except.ok (some t)) = .ok text → ∀ t ∈ text, FieldText t := by
    intro v hv t ht
    obtain ⟨t', ht', heq⟩ := bind_eq_ok.mp hv
    cases heq
    obtain rfl := Option.mem_some.mp ht
    obtain ⟨-, -, -, htext⟩ := requireString_ok ht'
    exact htext
  unfold optionalString at h
  split at h
  · cases h
    simp
  · cases h
    simp
  · split at h
    · cases h
      simp
    · exact hread _ h
  · exact hread _ h

theorem optionalString_of_fieldText {text : Option String}
    (h : ∀ t ∈ text, FieldText t) (fieldName : String) :
    optionalString (optionVal text) fieldName = .ok text := by
  cases text with
  | none => rfl
  | some t =>
    have ht := h t rfl
    simp [optionVal, optionalString, ht.nonempty, requireString_of_fieldText ht, ok_bind]

theorem utf16Length_append (s t : String) :
    utf16Length (s ++ t) = utf16Length s + utf16Length t := by
  simp [utf16Length]

/-- No secret pattern matches across the colon. -/
theorem isSecretValue_join (hfirst : isSecretValue first = false)
    (hsecond : isSecretValue second = false) : isSecretValue (first ++ ":" ++ second) = false := by
  have hbearer : bearerPattern.avoids ':' = true := by decide
  have hkey : privateKeyPattern.avoids ':' = true := by decide
  have hassign : assignmentPattern.avoids ':' = true := by decide
  have htoken : tokenPattern.avoids ':' = true := by decide
  have hjoin : (first ++ ":" ++ second).toList = first.toList ++ ':' :: second.toList := by
    simp
  simp only [isSecretValue, Bool.or_eq_false_iff] at hfirst hsecond
  obtain ⟨⟨⟨hb, hk⟩, ha⟩, -⟩ := hfirst
  obtain ⟨⟨⟨hb', hk'⟩, ha'⟩, -⟩ := hsecond
  simp only [isSecretValue, hjoin, Regexp.search_append hbearer, hb, hb',
    Regexp.search_append hkey, hk, hk', Regexp.search_append hassign, ha, ha',
    Regexp.matchesAll_append htoken, Bool.or_false]

/-- Two texts joined by a colon pass the check exactly when they are short
enough together. -/
theorem fieldText_join_iff (hfirst : FieldText first) (hsecond : FieldText second) :
    FieldText (first ++ ":" ++ second) ↔
      utf16Length first + 1 + utf16Length second ≤ maxFieldLength := by
  have hlength : utf16Length (first ++ ":" ++ second) =
      utf16Length first + 1 + utf16Length second := by
    rw [utf16Length_append, utf16Length_append]
    rfl
  rw [← hlength]
  constructor
  · exact FieldText.short
  · intro hshort
    refine ⟨?_, ?_, hshort, isSecretValue_join hfirst.open_ hsecond.open_⟩
    · rw [String.toList_append, String.toList_append]
      exact hfirst.trimmed.append hsecond.trimmed (mt String.toList_eq_nil_iff.mp hfirst.nonempty)
        (mt String.toList_eq_nil_iff.mp hsecond.nonempty) _
    · intro hempty
      have := congrArg String.toList hempty
      simp at this

/-! ## Dependencies read back -/

/-- A dependency that the normalisation leaves alone. -/
def Dependency.Normal (dependency : Dependency) : Prop :=
  FieldText dependency.ref ∧ FieldText dependency.revision

/-- What a letter, a digit, an underscore or a dash is not. -/
theorem urlChar_ne {c : Char} (h : isUrlChar c = true) :
    isWhiteSpace c = false ∧ c ≠ '=' ∧ c ≠ '.' ∧ c.toNat < 0x10000 := by
  have hrange : (0x41 ≤ c.toNat ∧ c.toNat ≤ 0x5A) ∨ (0x61 ≤ c.toNat ∧ c.toNat ≤ 0x7A) ∨
      (0x30 ≤ c.toNat ∧ c.toNat ≤ 0x39) ∨ c.toNat = 0x5F ∨ c.toNat = 0x2D := by
    simp only [isUrlChar, isAsciiAlnum, Bool.or_eq_true, Bool.and_eq_true,
      decide_eq_true_eq, Char.le_def, UInt32.le_iff_toNat_le, beq_iff_eq] at h
    rcases h with (((h | h) | h) | rfl) | rfl <;> simp_all
  refine ⟨?_, ?_, ?_, by omega⟩
  · simp only [isWhiteSpace, Bool.or_eq_false_iff, Bool.and_eq_false_iff,
      decide_eq_false_iff_not, beq_eq_false_iff_ne]
    omega
  all_goals
    rintro rfl
    revert hrange
    decide

theorem utf16Length_of_urlChars (h : text.toList.all isUrlChar = true) :
    utf16Length text = text.toList.length := by
  have hunits : text.toList.map (fun c => (codeUnits c).length) =
      text.toList.map fun _ => 1 := by
    apply map_congr_left
    intro c hc
    rw [codeUnits, if_pos (urlChar_ne (all_eq_true.mp h c hc)).2.2.2,
      length_singleton]
  rw [utf16Length, length_flatMap, hunits]
  simp

/-- A short text of such characters passes the check: every secret pattern
needs white space, an equality sign or a full stop. -/
theorem fieldText_of_urlChars (hne : text ≠ "") (hlength : text.toList.length ≤ maxFieldLength)
    (h : text.toList.all isUrlChar = true) : FieldText text := by
  have hall : ∀ c ∈ text.toList, isUrlChar c = true := all_eq_true.mp h
  have hspace : text.toList.any isWhiteSpace = false := by
    rw [any_eq_false]
    intro c hc
    rw [(urlChar_ne (hall c hc)).1]
    exact Bool.false_ne_true
  have hother : ∀ d : Char, (∀ c, isUrlChar c = true → c ≠ d) →
      text.toList.any (· == d) = false := by
    intro d hd
    rw [any_eq_false]
    intro c hc heq
    exact hd c (hall c hc) (eq_of_beq heq)
  refine ⟨⟨?_, ?_⟩, hne, ?_, ?_⟩
  · intro c hc
    exact (urlChar_ne (hall c (mem_of_mem_head? hc))).1
  · intro c hc
    exact (urlChar_ne (hall c (mem_of_mem_getLast? hc))).1
  · rw [utf16Length_of_urlChars h]
    exact hlength
  · have hbearer : bearerPattern.usable text.toList = false := by
      simp [bearerPattern, Regexp.usable, Regexp.all, Regexp.plus, hspace]
    have hkey : privateKeyPattern.usable text.toList = false := by
      have hword : (Regexp.word (· == ·) "-----BEGIN ".toList).usable text.toList =
          false := by
        rw [Regexp.usable_word, all_eq_false]
        refine ⟨' ', by decide, ?_⟩
        intro hany
        obtain ⟨c, hc, heq⟩ := any_eq_true.mp hany
        have hblank := (urlChar_ne (hall c hc)).1
        rw [← eq_of_beq heq] at hblank
        exact absurd hblank (by decide)
      rw [privateKeyPattern, Regexp.all, Regexp.usable, hword, Bool.false_and]
    have hassign : assignmentPattern.usable text.toList = false := by
      have heq := hother '=' fun c hc => (urlChar_ne hc).2.1
      simp [assignmentPattern, Regexp.usable, heq]
    have htoken : tokenPattern.usable text.toList = false := by
      have hdot := hother '.' fun c hc => (urlChar_ne hc).2.2.1
      simp [tokenPattern, Regexp.usable, Regexp.all, hdot]
    simp only [isSecretValue, Regexp.search_eq_false hbearer, Regexp.search_eq_false hkey,
      Regexp.search_eq_false hassign, Regexp.matchesAll_eq_false htoken, Bool.or_false]

theorem DependencyDomain.fieldText : FieldText domain.text := by
  cases domain <;> exact fieldText_of_urlChars (by decide) (by decide) (by decide)

theorem DependencyDomain.ofText_text : DependencyDomain.ofText domain.text = some domain := by
  cases domain <;> decide

variable {index : Nat} {dependency : Dependency}

theorem normalizeDependency_ok (h : normalizeDependency value index fieldName = .ok dependency) :
    dependency.Normal := by
  simp only [normalizeDependency, bind_eq_ok] at h
  obtain ⟨_, -, _, -, _, -, _, -, ref, href, revision, hrevision, h⟩ := h
  cases h
  obtain ⟨-, -, -, href⟩ := requireString_ok href
  obtain ⟨-, -, -, hrevision⟩ := requireString_ok hrevision
  exact ⟨href, hrevision⟩

theorem normalizeDependency_toVal (h : dependency.Normal) (index : Nat) (fieldName : String) :
    normalizeDependency dependency.toVal index fieldName = .ok dependency := by
  have hclass : dependencyClass
      ((Val.str dependency.refreshClass.text).or (.str "static")) =
        .ok dependency.refreshClass := by
    cases dependency.refreshClass <;> rfl
  have hdomain : dependencyDomain dependency.domain.text = .ok dependency.domain := by
    simp [dependencyDomain, DependencyDomain.ofText_text]
  simp [normalizeDependency, Dependency.toVal, Val.isPlainObject, Val.member, Val.lookup,
    rejectIf, ok_bind, requireString_of_fieldText (DependencyDomain.fieldText _), hdomain,
    hclass, requireString_of_fieldText h.1, requireString_of_fieldText h.2]

/-- An entry whose reference is too long is refused. -/
theorem fieldText_of_normalizeDependency_toVal {normalized : Dependency}
    (htrimmed : Trimmed dependency.ref.toList)
    (h : normalizeDependency dependency.toVal index fieldName = .ok normalized) :
    FieldText dependency.ref := by
  simp only [normalizeDependency, bind_eq_ok] at h
  obtain ⟨-, -, -, -, -, -, -, -, ref, href, -⟩ := h
  obtain ⟨s, hs, rfl, href⟩ := requireString_ok href
  obtain rfl : dependency.ref = s := by
    simpa [Dependency.toVal, Val.member, Val.lookup] using hs
  rwa [trim_of_trimmed htrimmed] at href

/-! ## Maps of dependencies -/

/-- A domain has no colon, so the key determines domain and reference. -/
theorem dependencyKey_injective {first second : Dependency}
    (h : dependencyKey first = dependencyKey second) :
    first.domain = second.domain ∧ first.ref = second.ref := by
  have hlist : first.domain.text.toList ++ ':' :: first.ref.toList =
      second.domain.text.toList ++ ':' :: second.ref.toList := by
    simpa [dependencyKey] using congrArg String.toList h
  have hdomain : ∀ (domain : DependencyDomain) (ref : List Char),
      (domain.text.toList ++ ':' :: ref).takeWhile (· != ':') = domain.text.toList := by
    intro domain ref
    have hcolon : domain.text.toList.all (· != ':') = true := by
      cases domain <;> rfl
    rw [takeWhile_append_of_pos (all_eq_true.mp hcolon)]
    simp
  have htext := congrArg (List.takeWhile (· != ':')) hlist
  rw [hdomain, hdomain] at htext
  constructor
  · have hof := congrArg DependencyDomain.ofText (String.toList_injective htext)
    rwa [DependencyDomain.ofText_text, DependencyDomain.ofText_text,
      Option.some.injEq] at hof
  · rw [htext] at hlist
    exact String.toList_injective (by simpa using hlist)

variable {dependencies : List Dependency} {values : List Val}

theorem mapDependencies_toVal (hnormal : ∀ dependency ∈ dependencies, dependency.Normal)
    (index : Nat) (result : List Dependency)
    (hkeys : ((result ++ dependencies).map dependencyKey).Nodup) :
    mapDependencies fieldName (dependencies.map Dependency.toVal) index result =
      .ok (result ++ dependencies) := by
  induction dependencies generalizing index result with
  | nil => simp [mapDependencies]
  | cons dependency rest ih =>
    rw [forall_mem_cons] at hnormal
    have hnew : ¬∃ other ∈ result, dependencyKey other = dependencyKey dependency := by
      rintro ⟨other, hother, hkey⟩
      rw [map_append, nodup_append] at hkeys
      exact hkeys.2.2 _ (mem_map_of_mem hother) _
        (mem_map_of_mem mem_cons_self) hkey
    rw [map_cons, mapDependencies, normalizeDependency_toVal hnormal.1, ok_bind,
      rejectIf, if_neg hnew, ok_bind, ih hnormal.2, append_assoc]
    · rfl
    · rwa [append_assoc]

/-- Every entry of a map was normalised. -/
theorem exists_normalized_of_mapDependencies {result : List Dependency}
    (h : mapDependencies fieldName values index result = .ok dependencies)
    (hvalue : value ∈ values) :
    ∃ i normalized, normalizeDependency value i fieldName = .ok normalized := by
  induction values generalizing index result with
  | nil => cases hvalue
  | cons first rest ih =>
    simp only [mapDependencies, bind_eq_ok] at h
    obtain ⟨normalized, hfirst, -, -, hrest⟩ := h
    rcases mem_cons.mp hvalue with rfl | hvalue
    · exact ⟨index, normalized, hfirst⟩
    · exact ih hrest hvalue

theorem normalizeDependencies_toVal (hnormal : ∀ dependency ∈ dependencies, dependency.Normal) :
    normalizeDependencies fieldName (dependencies.map Dependency.toVal) =
      .ok dependencies := by
  have hall : ∀ start, List.Forall₂
      (fun entry dependency => normalizeDependency entry.1 entry.2 fieldName =
        .ok dependency)
      ((dependencies.map Dependency.toVal).zipIdx start) dependencies := by
    induction dependencies with
    | nil => exact fun _ => .nil
    | cons dependency rest ih =>
      rw [forall_mem_cons] at hnormal
      intro start
      exact .cons (normalizeDependency_toVal hnormal.1 _ _) (ih hnormal.2 (start + 1))
  exact mapM_eq_ok.mpr (hall 0)

theorem normal_of_normalizeDependencies
    (h : normalizeDependencies fieldName values = .ok dependencies) :
    dependencies.length = values.length ∧
      ∀ dependency ∈ dependencies, dependency.Normal := by
  constructor
  · have hlength := (mapM_eq_ok.mp h).length_eq
    rw [length_zipIdx] at hlength
    exact hlength.symm
  · intro dependency hdependency
    obtain ⟨entry, -, hentry⟩ := exists_of_mem_mapM h hdependency
    exact normalizeDependency_ok hentry

/-- What adding dependencies one by one leads to: nothing is lost, and no key
occurs twice. -/
theorem foldlM_addDependency_ok {target given : List Dependency}
    (h : given.foldlM addDependency target = .ok dependencies)
    (hkeys : (target.map dependencyKey).Nodup) :
    ∃ extra, dependencies = target ++ extra ∧ extra.Sublist given ∧
      (dependencies.map dependencyKey).Nodup := by
  induction given generalizing target with
  | nil =>
    cases h
    exact ⟨[], by simp, List.Sublist.slnil, hkeys⟩
  | cons dependency rest ih =>
    rw [foldlM_cons, bind_eq_ok] at h
    obtain ⟨next, hadd, hrest⟩ := h
    unfold addDependency at hadd
    split at hadd
    · simp only [bind_eq_ok] at hadd
      obtain ⟨-, -, hadd⟩ := hadd
      cases hadd
      obtain ⟨extra, heq, hsub, hnodup⟩ := ih hrest hkeys
      exact ⟨extra, heq, hsub.cons _, hnodup⟩
    · next hnone =>
        cases hadd
        have hnext : ((target ++ [dependency]).map dependencyKey).Nodup := by
          rw [map_append, map_singleton, nodup_append]
          refine ⟨hkeys, nodup_singleton _, ?_⟩
          intro key hkey other hother
          obtain ⟨existing, hmem, rfl⟩ := mem_map.mp hkey
          obtain rfl := mem_singleton.mp hother
          simpa using List.find?_eq_none.mp hnone existing hmem
        obtain ⟨extra, heq, hsub, hnodup⟩ := ih hrest hnext
        refine ⟨dependency :: extra, ?_, hsub.cons_cons _, hnodup⟩
        rw [heq, append_assoc, singleton_append]

/-- Dependencies with new keys are all added. -/
theorem foldlM_addDependency_of_nodup {target given : List Dependency}
    (hkeys : ((target ++ given).map dependencyKey).Nodup) :
    given.foldlM addDependency target = .ok (target ++ given) := by
  induction given generalizing target with
  | nil => simp; rfl
  | cons dependency rest ih =>
    have hnone : (target.find? fun other =>
        dependencyKey other == dependencyKey dependency) = none := by
      apply List.find?_eq_none.mpr
      intro other hother
      rw [map_append, nodup_append] at hkeys
      have hne := hkeys.2.2 _ (mem_map_of_mem hother) _
        (mem_map_of_mem mem_cons_self)
      simpa using hne
    rw [foldlM_cons, addDependency, hnone]
    simp only [ok_bind]
    rw [ih (by rwa [append_assoc]), append_assoc, singleton_append]

/-! ## Descriptors read back -/

structure CapsuleReferences.Normal (refs : CapsuleReferences) : Prop where
  contextRevision : FieldText refs.contextRevision
  principalRef : FieldText refs.principalRef
  effectiveSubjectRef : FieldText refs.effectiveSubjectRef
  tenantRef : FieldText refs.tenantRef
  workspaceRef : FieldText refs.workspaceRef
  brandRef : ∀ ref ∈ refs.brandRef, FieldText ref
  resourceType : FieldText refs.resourceType
  resourceRef : FieldText refs.resourceRef
  connectionRef : FieldText refs.connectionRef
  authorityPathRef : FieldText refs.authorityPathRef
  capabilityKey : FieldText refs.capabilityKey
  authorityRevision : FieldText refs.authorityRevision
  capabilityRevision : FieldText refs.capabilityRevision
  registryRevision : FieldText refs.registryRevision
  credentialReadinessRevision : FieldText refs.credentialReadinessRevision

structure CapsuleDescriptor.Normal (rt : Runtime) (d : CapsuleDescriptor) : Prop where
  refs : d.toCapsuleReferences.Normal
  contextHash : FieldText d.contextHash
  principalType : FieldText d.principalType
  issuedAt : normalizeDate rt (.str d.issuedAt) "issuedAt" = .ok d.issuedAt
  expiresAt : normalizeDate rt (.str d.expiresAt) "expiresAt" = .ok d.expiresAt
  later : notLater rt d.expiresAt d.issuedAt = false

/-- A time printed by `toISOString` is read back. -/
def ReadsIso (rt : Runtime) : Prop :=
  ∀ value time, rt.timeOf value = some time →
    rt.timeOf (.str (rt.isoString time)) = some time

variable {rt : Runtime}

theorem normalizeDate_again (hiso : ReadsIso rt) (h : normalizeDate rt value fieldName = .ok text)
    (fieldName' : String) : normalizeDate rt (.str text) fieldName' = .ok text := by
  unfold normalizeDate at h
  split at h
  · next time htime =>
      cases h
      simp [normalizeDate, hiso value time htime]
  · cases h

variable {d : CapsuleDescriptor}

theorem readDescriptor_ok (hiso : ReadsIso rt) {input : Val} (h : readDescriptor rt input = .ok d) :
    d.Normal rt ∧ requireString (input.member "resourceType") "resourceType" =
        .ok d.resourceType ∧
      requireString (input.member "resourceRef") "resourceRef" = .ok d.resourceRef := by
  simp only [readDescriptor, bind_eq_ok, rejectIf_eq_ok] at h
  obtain ⟨issuedAt, hissued, expiresAt, hexpires, -, hlater, contextHash, hhash,
    contextRevision, hrevision, principalType, htype, principalRef, hprincipal,
    effectiveSubjectRef, hsubject, tenantRef, htenant, workspaceRef, hworkspace,
    brandRef, hbrand, resourceType, hresourceType, resourceRef, hresourceRef,
    connectionRef, hconnection, authorityPathRef, hpath, capabilityKey, hcapability,
    authorityRevision, hauthority, capabilityRevision, hcapabilityRevision,
    registryRevision, hregistry, credentialReadinessRevision, hcredential, h⟩ := h
  cases h
  have htext : ∀ {value : Val} {name text : String},
      requireString value name = .ok text → FieldText text := by
    intro value name text hread
    obtain ⟨-, -, -, hfield⟩ := requireString_ok hread
    exact hfield
  refine ⟨⟨⟨htext hrevision, htext hprincipal, htext hsubject, htext htenant,
    htext hworkspace, optionalString_ok hbrand, htext hresourceType, htext hresourceRef,
    htext hconnection, htext hpath, htext hcapability, htext hauthority,
    htext hcapabilityRevision, htext hregistry, htext hcredential⟩, htext hhash,
    htext htype, normalizeDate_again hiso hissued _, normalizeDate_again hiso hexpires _,
    Bool.eq_false_of_not_eq_true hlater⟩, hresourceType, hresourceRef⟩

/-- An object that has the fields of a descriptor, the schema version aside. -/
def Carries (object : Val) (d : CapsuleDescriptor) : Prop :=
  ∀ name v, (name, v) ∈ d.fields.tail → object.member name = v

variable {object : Val} {name : String}

theorem lookup_append_of_mem {fields rest : List (String × Val)} {v : Val}
    (hkeys : (fields.map Prod.fst).Nodup) (h : (name, v) ∈ fields) :
    Val.lookup (fields ++ rest) name = v := by
  induction fields with
  | nil => cases h
  | cons field fields ih =>
    rw [map_cons, nodup_cons] at hkeys
    rcases mem_cons.mp h with rfl | h
    · simp [Val.lookup]
    · have hne : field.1 ≠ name := by
        rintro rfl
        exact hkeys.1 (mem_map.mpr ⟨_, h, rfl⟩)
      simp [Val.lookup, hne, ih hkeys.2 h]

theorem lookup_append_of_not_mem {fields rest : List (String × Val)}
    (h : name ∉ fields.map Prod.fst) : Val.lookup (fields ++ rest) name = Val.lookup rest name := by
  induction fields with
  | nil => rfl
  | cons field fields ih =>
    rw [map_cons, mem_cons, not_or] at h
    simp [Val.lookup, Ne.symm h.1, ih h.2]

theorem CapsuleDescriptor.fields_nodup (d : CapsuleDescriptor) : (d.fields.map Prod.fst).Nodup := by
  change List.Nodup ["schemaVersion", "contextHash", "contextRevision", "principalType",
    "principalRef", "effectiveSubjectRef", "tenantRef", "workspaceRef", "brandRef",
    "resourceType", "resourceRef", "connectionRef", "authorityPathRef", "capabilityKey",
    "authorityRevision", "capabilityRevision", "registryRevision",
    "credentialReadinessRevision", "issuedAt", "expiresAt"]
  decide

theorem carries_fields (d : CapsuleDescriptor) (rest : List (String × Val)) :
    Carries (.obj (d.fields ++ rest)) d := by
  intro name v h
  exact lookup_append_of_mem d.fields_nodup (mem_of_mem_tail h)

theorem Carries.member_eq (hobject : Carries object d) (h : name ∈ d.fields.tail.map Prod.fst) :
    object.member name = Val.lookup d.fields name := by
  obtain ⟨⟨_, v⟩, hmem, rfl⟩ := mem_map.mp h
  rw [hobject _ v hmem, ← carries_fields d [] _ v hmem, append_nil]
  rfl

theorem readReferences_of_normal (h : d.toCapsuleReferences.Normal) (hobject : Carries object d) :
    readReferences object = .ok d.toCapsuleReferences := by
  have hbrand := optionalString_of_fieldText h.brandRef "brandRef"
  obtain ⟨_, _, _, _, _, _, _, _, _, _, _, _, _, _, _⟩ := h
  simp [readReferences, hobject.member_eq, CapsuleDescriptor.fields, Val.lookup, ok_bind,
    requireString_of_fieldText, *]

theorem readDescriptor_of_normal (h : d.Normal rt) (hobject : Carries object d) :
    readDescriptor rt object = .ok d := by
  have hbrand := optionalString_of_fieldText h.refs.brandRef "brandRef"
  obtain ⟨⟨_, _, _, _, _, _, _, _, _, _, _, _, _, _, _⟩, _, _, _, _, _⟩ := h
  simp [readDescriptor, hobject.member_eq, CapsuleDescriptor.fields, Val.lookup, ok_bind, rejectIf,
    requireString_of_fieldText, *]

theorem carries_rebuildInput {capsule : Val} (h : Carries capsule d)
    (additional : List Dependency) : Carries (rebuildInput capsule additional) d := by
  intro name v hmem
  rw [← h name v hmem]
  have hname : name ∈ d.fields.tail.map Prod.fst := mem_map.mpr ⟨_, hmem, rfl⟩
  apply lookup_append_of_mem
  · exact (by decide : (rebuiltNames.map id).Nodup)
  · exact mem_map_of_mem hname

end GrowthOs.ContextKernel.ExecutionCapsule
