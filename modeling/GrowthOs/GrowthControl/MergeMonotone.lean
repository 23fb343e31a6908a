import GrowthOs.GrowthControl.RowOrder

/-!
# More versions restrict

What a merge operator makes of the candidates for a field depends, all but for
the candidate that replaces, on which candidates there are and not on their
order.  One more version in the hierarchy adds candidates of its own rank, so
it can only deny more, lower a minimum, raise a maximum, take items from an
intersection and add items to a union, and it replaces nothing of a higher rank.
-/

namespace GrowthOs.GrowthControl

open Js Throwing Comparison Grouping List

/-! ## What a merge computes -/

/-- The items of an array value, up to their serialisation. -/
def serializedItems (value : Val) : List (Option String) :=
  ((elementsOf value).getD []).map stableSerialize

theorem mem_of_mem_setEntry {κ α : Type} [DecidableEq κ] {entries : List (κ × α)} {key : κ}
    {value : α} {entry : κ × α} (h : entry ∈ setEntry entries key value) :
    entry = (key, value) ∨ entry ∈ entries := by
  induction entries with
  | nil => exact .inl (mem_singleton.mp h)
  | cons first entries ih =>
    unfold setEntry at h
    split at h
    · exact (mem_cons.mp h).imp_right (mem_cons_of_mem _)
    · rcases mem_cons.mp h with rfl | h
      · exact .inr mem_cons_self
      · exact (ih h).imp_right (mem_cons_of_mem _)

/-- Sorting out repeated values keeps every serialisation. -/
theorem mem_serialized_uniqueSorted {localeLe : String → String → Bool} {values : List Val}
    {s : Option String} :
    s ∈ (uniqueSorted localeLe values).map stableSerialize ↔ s ∈ values.map stableSerialize := by
  have hrun : ∀ (values : List Val) (entries : List (Option String × Val)),
      (∀ entry ∈ entries, stableSerialize entry.2 = entry.1) →
      (s ∈ ((values.foldl (fun entries value => setEntry entries (stableSerialize value) value)
        entries).map Prod.snd).map stableSerialize ↔
          s ∈ entries.map Prod.fst ∨ s ∈ values.map stableSerialize) := by
    intro values
    induction values with
    | nil =>
      intro entries hentries
      have hsame : entries.map (stableSerialize ∘ Prod.snd) = entries.map Prod.fst :=
        map_congr_left hentries
      simp [hsame]
    | cons value values ih =>
      intro entries hentries
      rw [foldl_cons, ih, mem_keys_setEntry, map_cons, mem_cons, or_assoc, or_left_comm]
      · intro entry hentry
        rcases mem_of_mem_setEntry hentry with rfl | hold
        · rfl
        · exact hentries entry hold
  have hvalues := hrun values [] (by simp)
  rw [uniqueSorted, ((sortBy_perm _ _).map stableSerialize).mem_iff, hvalues]
  simp

variable {ordered : List Candidate} {merged : Merged} {first : Candidate} {rest : List Candidate}

theorem arrays_eq {arrays : List (List Val)}
    (h : (ordered.mapM fun entry => elementsOf entry.value) = some arrays) :
    arrays = ordered.map fun c => (elementsOf c.value).getD [] := by
  induction ordered generalizing arrays with
  | nil => simpa using h.symm
  | cons c ordered ih =>
    simp only [mapM_cons, Option.bind_eq_bind, Option.bind_eq_some_iff] at h
    obtain ⟨elems, helems, others, hothers, harrays⟩ := h
    rw [← Option.some.inj harrays, ih hothers, map_cons, helems, Option.getD_some]

section Arrays

variable (localeLe : String → String → Bool)

theorem mem_union (hcode : (mergeArrays localeLe false ordered).code = none) (s : Option String) :
    s ∈ serializedItems (mergeArrays localeLe false ordered).value ↔
      ∃ c ∈ ordered, s ∈ serializedItems c.value := by
  unfold mergeArrays at hcode ⊢
  split at hcode
  next => cases hcode
  next arrays harrays =>
    change s ∈ (uniqueSorted localeLe arrays.flatten).map stableSerialize ↔ _
    rw [mem_serialized_uniqueSorted, arrays_eq harrays]
    simp only [serializedItems, mem_map, mem_flatten]
    grind

theorem mem_intersection (hcode : (mergeArrays localeLe true (first :: rest)).code = none)
    (s : Option String) :
    s ∈ serializedItems (mergeArrays localeLe true (first :: rest)).value ↔
      ∀ c ∈ first :: rest, s ∈ serializedItems c.value := by
  unfold mergeArrays at hcode ⊢
  split at hcode
  next => cases hcode
  next arrays harrays =>
    have hunique := @mem_serialized_uniqueSorted localeLe ((elementsOf first.value).getD []) s
    simp only [serializedItems, elementsOf, Option.getD_some, if_true, arrays_eq harrays,
      map_cons, headD_cons, tail_cons, mem_map, mem_filter,
      all_eq_true, any_eq_true, sameSerialized, beq_iff_eq, forall_mem_cons,
      forall_exists_index, and_imp, forall_apply_eq_imp_iff₂] at hunique ⊢
    rw [← hunique]
    constructor
    · rintro ⟨item, ⟨hitem, hrest⟩, rfl⟩
      exact ⟨⟨item, hitem, rfl⟩, hrest⟩
    · rintro ⟨⟨item, hitem, rfl⟩, hrest⟩
      exact ⟨item, ⟨hitem, hrest⟩, rfl⟩

end Arrays

section Numbers

variable {less : Decimal → Decimal → Bool} (hless : IsComparison fun a b => !less b a)

include hless

theorem foldl_closest (first : Decimal) (rest : List Decimal) :
    rest.foldl (closest less) first ∈ first :: rest ∧
      ∀ d ∈ first :: rest, less d (rest.foldl (closest less) first) = false := by
  induction rest generalizing first with
  | nil => simpa using hless.total first first
  | cons next rest ih =>
    have hfirst : less first (closest less first next) = false := by
      have := hless.total first first
      have := hless.total first next
      unfold closest
      grind
    have hnext : less next (closest less first next) = false := by
      have := hless.total next next
      unfold closest
      grind
    have hchosen : closest less first next = first ∨ closest less first next = next := by
      unfold closest
      grind
    obtain ⟨hmem, hleast⟩ := ih (closest less first next)
    rw [forall_mem_cons] at hleast
    refine ⟨?_, ?_⟩
    · grind
    · have htrans := hless.trans
      grind

theorem mergeNumeric_ok (h : mergeNumeric less ordered = .ok merged) (hcode : merged.code = none) :
    ∃ target, merged.value = .num (.finite target) ∧
      (∃ c ∈ ordered, finiteOf c.value = .ok (some target)) ∧
      ∀ c ∈ ordered, ∀ d, finiteOf c.value = .ok (some d) → less d target = false := by
  obtain ⟨numbers, hnumbers, h⟩ := bind_eq_ok.mp h
  split at h
  next =>
    cases h
    cases hcode
  next first rest hfinite =>
    cases h
    obtain ⟨hmem, hleast⟩ := foldl_closest hless first rest
    simp only [← hfinite, mem_filterMap, id, exists_eq_right] at hmem hleast
    refine ⟨_, rfl, exists_of_mem_mapM hnumbers hmem, ?_⟩
    intro c hc d hd
    obtain ⟨number, hnumber, hread⟩ := exists_of_mem_of_mapM hnumbers hc
    rw [hd] at hread
    exact hleast d (Except.ok.inj hread ▸ hnumber)

end Numbers

theorem denyValue_mergeDenyWins (h : ∃ c ∈ first :: rest, denyValue c.value = true) :
    denyValue (mergeDenyWins first rest).value = true := by
  unfold mergeDenyWins
  dsimp only
  split
  next hnone =>
    obtain ⟨c, hc, hdeny⟩ := h
    exact absurd hdeny (filter_eq_nil_iff.mp hnone c hc)
  next entry _ hsome =>
    have hmem : entry ∈ (first :: rest).filter fun entry => denyValue entry.value := by
      rw [hsome]
      exact mem_cons_self
    exact (mem_filter.mp hmem).2

theorem mergeTopRank_ok (hcode : (mergeTopRank first rest).code = none) :
    (mergeTopRank first rest).value = first.value ∧
      ∀ c ∈ (mergeTopRank first rest).selected, c.rank = first.rank := by
  unfold mergeTopRank at hcode ⊢
  dsimp only at hcode ⊢
  split at hcode
  next hsame =>
    rw [if_pos hsame]
    exact ⟨rfl, fun c hc => by simpa using (mem_filter.mp hc).2⟩
  next => cases hcode

/-! ## One more version -/

/-- What candidates of rank `rank` can do to a value that was merged of
`candidates`, of which it selected `selected`. -/
def Restricts (operator : MergeOperator) (candidates selected : List Candidate) (rank : Int)
    (value value' : Val) : Prop :=
  match operator with
  | .denyWins => (∃ c ∈ candidates, denyValue c.value = true) → denyValue value' = true
  | .minimum => ∃ m m', value = .num (.finite m) ∧ value' = .num (.finite m') ∧ m.blt m' = false
  | .maximum => ∃ m m', value = .num (.finite m) ∧ value' = .num (.finite m') ∧ m'.blt m = false
  | .strictIntersection => serializedItems value' ⊆ serializedItems value
  | .guardedUnion | .appendUnique => serializedItems value ⊆ serializedItems value'
  | .priorityReplace | .blockOnAmbiguity => value' ≠ value → ∀ c ∈ selected, c.rank ≤ rank

variable {localeLe : String → String → Bool} {operator : MergeOperator} {merged' : Merged}
  {before extra after : List Candidate} {rank : Int} {field : String}

theorem mergeOrdered_restricts (hlocale : IsComparison localeLe)
    (hextra : ∀ c ∈ extra, c.rank = rank)
    (h : mergeOrdered localeLe operator (sortBy (candidateLe localeLe) (before ++ after)) =
      .ok merged) (hcode : merged.code = none) (hvalue : merged.value.isUndefined = false)
    (h' : mergeOrdered localeLe operator
      (sortBy (candidateLe localeLe) (before ++ extra ++ after)) = .ok merged')
    (hcode' : merged'.code = none) :
    Restricts operator (before ++ after) merged.selected rank merged.value merged'.value := by
  have hcompare := isComparison_candidateLe hlocale
  have hhead := @IsComparison.head?_sortBy_add _ _ hcompare before extra after
  have hsorted := hcompare.pairwise_sortBy (before ++ extra ++ after)
  have hsub : ∀ c ∈ sortBy (candidateLe localeLe) (before ++ after),
      c ∈ sortBy (candidateLe localeLe) (before ++ extra ++ after) := by
    intro c hc
    rw [mem_sortBy] at hc ⊢
    grind
  cases hlist : sortBy (candidateLe localeLe) (before ++ after) with
  | nil =>
    rw [hlist] at h
    cases h
    cases hvalue
  | cons first rest =>
    cases hlist' : sortBy (candidateLe localeLe) (before ++ extra ++ after) with
    | nil =>
      rw [hlist, hlist'] at hsub
      exact absurd (hsub first mem_cons_self) not_mem_nil
    | cons first' rest' =>
      simp only [hlist, hlist'] at h h' hsub hhead hsorted
      have hnumeric : ∀ {less : Decimal → Decimal → Bool},
          IsComparison (fun a b => !less b a) → mergeNumeric less (first :: rest) = .ok merged →
          mergeNumeric less (first' :: rest') = .ok merged' →
          ∃ m m', merged.value = .num (.finite m) ∧ merged'.value = .num (.finite m') ∧
            less m m' = false := by
        intro less hless h h'
        obtain ⟨m, hm, ⟨c, hc, hread⟩, -⟩ := mergeNumeric_ok hless h hcode
        obtain ⟨m', hm', -, hleast⟩ := mergeNumeric_ok hless h' hcode'
        exact ⟨m, m', hm, hm', hleast c (hsub c hc) m hread⟩
      cases operator with
      | denyWins =>
        cases h'
        rintro ⟨c, hc, hdeny⟩
        exact denyValue_mergeDenyWins ⟨c, hsub c (hlist ▸ mem_sortBy.mpr hc), hdeny⟩
      | minimum => exact hnumeric isComparison_not_blt.flip h h'
      | maximum => exact hnumeric isComparison_not_blt h h'
      | strictIntersection =>
        cases h
        cases h'
        intro s hs
        rw [mem_intersection localeLe hcode]
        intro c hc
        exact (mem_intersection localeLe hcode' s).mp hs c (hsub c hc)
      | guardedUnion | appendUnique =>
        cases h
        cases h'
        intro s hs
        obtain ⟨c, hc, hs⟩ := (mem_union localeLe hcode s).mp hs
        exact (mem_union localeLe hcode' s).mpr ⟨c, hsub c hc, hs⟩
      | priorityReplace | blockOnAmbiguity =>
        cases h
        cases h'
        obtain ⟨hvalue, hselected⟩ := mergeTopRank_ok hcode
        intro hchanged c hc
        rw [hselected c hc]
        rcases hhead rfl with hnew | hold
        · -- a first candidate of the new version comes before the old first one
          rw [← hextra first' hnew]
          rcases mem_cons.mp (hsub first mem_cons_self) with rfl | hrest
          · exact le_rfl
          · exact rank_le_of_candidateLe ((pairwise_cons.mp hsorted).1 first hrest)
        · rw [(mergeTopRank_ok hcode').1, hvalue, Option.some.inj hold] at hchanged
          exact absurd rfl hchanged

/-! ## The effective configuration -/

/-- A value of the result comes from a merge that is not blocked. -/
theorem merged_of_mem_values {mergeProfile : Val} {candidatesOf : String → List Candidate}
    {names : List String} {start result : Resolution} (h : names.foldlM (fun resolution field =>
      resolveField localeLe mergeProfile resolution (field, candidatesOf field)) start = .ok result)
    {value : Val} (hmem : (field, value) ∈ result.values) :
    (field, value) ∈ start.values ∨ ∃ operator merged,
      MergeOperator.ofVal (operatorOf mergeProfile field) = some operator ∧
      mergeOrdered localeLe operator (sortBy (candidateLe localeLe) (candidatesOf field)) =
        .ok merged ∧
      merged.code = none ∧ merged.value.isUndefined = false ∧ merged.value = value := by
  induction names generalizing start with
  | nil =>
    cases h
    exact .inl hmem
  | cons name names ih =>
    rw [foldlM_cons, resolveField_eq] at h
    obtain ⟨next, hnext, h⟩ := bind_eq_ok.mp h
    obtain ⟨merged, hmerged, hnext⟩ := bind_eq_ok.mp hnext
    cases hnext
    rcases ih h with hvalue | hfound
    · simp only [afterField, assignValue] at hvalue
      split at hvalue
      next => exact .inl hvalue
      next hkept =>
        simp only [Bool.or_eq_true, not_or, Bool.not_eq_true, Option.isSome_eq_false_iff,
          Option.isNone_iff_eq_none] at hkept
        unfold assign at hvalue
        split at hvalue
        next => exact .inl hvalue
        next =>
          rcases mem_of_mem_setEntry hvalue with hentry | hold
          · cases hentry
            unfold mergeConfigurationCandidates at hmerged
            split at hmerged
            next =>
              cases hmerged
              cases hkept.1
            next operator hoperator =>
              exact .inr ⟨operator, merged, hoperator, hmerged, hkept.1, hkept.2, rfl⟩
          · exact .inl hold
    · exact .inr hfound

variable {rt : Runtime} {regExp : String → Option (String → Bool)} {definition : Definition}
  {versions : List ConfigurationVersion} {scopeHierarchy : List Scope}

theorem merged_of_resolved {r : EffectiveConfiguration}
    (h : resolveVersions rt regExp localeLe definition versions scopeHierarchy = .ok r)
    {value : Val} (hmem : (field, value) ∈ r.values) :
    ∃ operator merged,
      MergeOperator.ofVal (operatorOf definition.mergeProfile field) = some operator ∧
      mergeOrdered localeLe operator (sortBy (candidateLe localeLe)
        (fieldCandidates definition versions scopeHierarchy field)) = .ok merged ∧
      merged.code = none ∧ merged.value.isUndefined = false ∧ merged.value = value := by
  rw [resolveVersions_eq] at h
  obtain ⟨resolution, hresolution, h⟩ := bind_eq_ok.mp h
  obtain ⟨issues, -, h⟩ := bind_eq_ok.mp h
  cases h
  have hvalues : (withSchemaConflict resolution issues).values = resolution.values := by
    unfold withSchemaConflict
    split <;> rfl
  change (field, value) ∈ (withSchemaConflict resolution issues).values at hmem
  rw [hvalues] at hmem
  exact (merged_of_mem_values hresolution hmem).resolve_left (by simp)

theorem versionCandidates_append (versions others : List ConfigurationVersion)
    (scopeHierarchy : List Scope) (field : String) :
    versionCandidates (versions ++ others) scopeHierarchy field =
      versionCandidates versions scopeHierarchy field ++
        versionCandidates others scopeHierarchy field := by
  rw [versionCandidates, flatMap_append, valuesOf_append]
  rfl

/-- One more version stored under a scope of the hierarchy only restricts the
fields that have a value with it and without it. -/
theorem added_version_restricts (rt : Runtime) (regExp : String → Option (String → Bool))
    {localeLe : String → String → Bool} (hlocale : IsComparison localeLe) {definition : Val}
    {before after : List ConfigurationVersion} {version : ConfigurationVersion}
    {scopeHierarchy : List Scope} {rank : Nat}
    (hrank : scopeRank scopeHierarchy version.scopeKey = some rank) {r r' : EffectiveConfiguration}
    (h : resolveEffectiveConfiguration rt regExp localeLe definition (before ++ after)
      scopeHierarchy = .ok r)
    (h' : resolveEffectiveConfiguration rt regExp localeLe definition (before ++ version :: after)
      scopeHierarchy = .ok r')
    {field : String} {value value' : Val} (hvalue : (field, value) ∈ r.values)
    (hvalue' : (field, value') ∈ r'.values) :
    ∃ read operator merged, readDefinition definition = .ok read ∧
      MergeOperator.ofVal (operatorOf read.mergeProfile field) = some operator ∧
      mergeConfigurationCandidates localeLe
        (fieldCandidates read (before ++ after) scopeHierarchy field)
        (operatorOf read.mergeProfile field) = .ok merged ∧ merged.value = value ∧
      Restricts operator (fieldCandidates read (before ++ after) scopeHierarchy field)
        merged.selected rank value value' := by
  obtain ⟨read, hread, h⟩ := bind_eq_ok.mp h
  obtain ⟨read', hread', h'⟩ := bind_eq_ok.mp h'
  cases hread.symm.trans hread'
  obtain ⟨operator, merged, hoperator, hmerge, hcode, hdefined, rfl⟩ := merged_of_resolved h hvalue
  obtain ⟨operator', merged', hoperator', hmerge', hcode', -, rfl⟩ := merged_of_resolved h' hvalue'
  cases hoperator.symm.trans hoperator'
  refine ⟨read, operator, merged, hread, hoperator, ?_, rfl, ?_⟩
  · rw [mergeConfigurationCandidates, hoperator]
    exact hmerge
  · rw [← singleton_append, fieldCandidates_eq, versionCandidates_append,
      versionCandidates_append, ← append_assoc, ← append_assoc] at hmerge'
    rw [fieldCandidates_eq, versionCandidates_append, ← append_assoc] at hmerge ⊢
    refine mergeOrdered_restricts hlocale ?_ hmerge hcode hdefined hmerge' hcode'
    intro c hc
    obtain ⟨_, hmem, hentry⟩ := mem_versionCandidates.mp hc
    obtain rfl := mem_singleton.mp hmem
    obtain ⟨found, hfound, -, hentry⟩ := mem_versionEntries hentry
    cases hrank.symm.trans hfound
    exact congrArg Candidate.rank hentry

/-- A definition under which the least budget counts. -/
def leastBudget : Val :=
  .obj [("configKey", .str "site.limits"), ("schema", .obj []),
    ("mergeProfile", .obj [("budget", .str "minimum")])]

def leastAtPlatform (versions : List ConfigurationVersion) : Except Val EffectiveConfiguration :=
  resolveEffectiveConfiguration ⟨id, fun _ => none, fun _ => ""⟩ (fun _ => none) keyLe
    leastBudget versions [platformScope]

/-- The values of the configuration, as text. -/
def leastValues (versions : List ConfigurationVersion) : Option (List (String × Option String)) :=
  (leastAtPlatform versions).toOption.map fun r =>
    r.values.map fun field => (field.1, stableSerialize field.2)

theorem exists_of_leastValues {key text : String}
    (h : leastValues versions = some [(key, some text)]) :
    ∃ r value, leastAtPlatform versions = .ok r ∧ (key, value) ∈ r.values ∧
      stableSerialize value = some text := by
  obtain ⟨r, hr, hvalues⟩ := Option.map_eq_some_iff.mp h
  obtain ⟨⟨_, value⟩, hmem, heq⟩ := mem_map.mp (hvalues ▸ mem_singleton_self (key, some text))
  obtain ⟨rfl, htext⟩ := Prod.mk.inj heq
  exact ⟨r, value, ok_of_toOption hr, hmem, htext⟩

theorem added_version_lowers_budget : ∃ r r' value value',
    leastAtPlatform [platformVersion "v1" "budget" 5] = .ok r ∧
    leastAtPlatform [platformVersion "v1" "budget" 5, platformVersion "v2" "budget" 3] = .ok r' ∧
    ("budget", value) ∈ r.values ∧ stableSerialize value = some "5" ∧
    ("budget", value') ∈ r'.values ∧ stableSerialize value' = some "3" ∧
    ∃ m m', value = .num (.finite m) ∧ value' = .num (.finite m') ∧ m.blt m' = false := by
  obtain ⟨r, value, hr, hvalue, htext⟩ := exists_of_leastValues (by decide +kernel :
    leastValues [platformVersion "v1" "budget" 5] = some [("budget", some "5")])
  obtain ⟨r', value', hr', hvalue', htext'⟩ := exists_of_leastValues (by decide +kernel :
    leastValues [platformVersion "v1" "budget" 5, platformVersion "v2" "budget" 3] =
      some [("budget", some "3")])
  obtain ⟨read, operator, merged, hread, hoperator, -, rfl, hrestricts⟩ :=
    @added_version_restricts _ _ _ isComparison_keyLe _ [platformVersion "v1" "budget" 5] []
      (platformVersion "v2" "budget" 3) [platformScope] 0 rfl r r' hr hr' _ _ _ hvalue hvalue'
  obtain ⟨least, hleast, hminimum⟩ := exists_ok_of_any (by decide +kernel :
    ((readDefinition leastBudget).toOption.any fun read =>
      decide (MergeOperator.ofVal (operatorOf read.mergeProfile "budget") = some .minimum)) = true)
  cases hread.symm.trans hleast
  cases hoperator.symm.trans hminimum
  exact ⟨r, r', merged.value, value', hr, hr', hvalue, htext, hvalue', htext', hrestricts⟩

end GrowthOs.GrowthControl
