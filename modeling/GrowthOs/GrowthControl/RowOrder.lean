import GrowthOs.GrowthControl.Configuration
import GrowthOs.Js.NumberOrder
import Mathlib.Data.List.Induction

/-!
# Effective configuration and the order of rows

The candidates of a field are sorted before they are merged, the fields before
they are resolved, and the digest sorts all keys; so the order of the version
rows shows only where the candidates are used as they were pushed, in the
conflict of a field whose merge is refused, and where `localeCompare` does not
tell two names of fields apart.
-/

namespace GrowthOs.GrowthControl

open Js Throwing Comparison Grouping List

/-! ## Documents whose fields are permuted -/

theorem isComparison_keyLe : IsComparison keyLe :=
  ⟨fun _ _ => unitsLe_total _ _, fun _ _ _ => unitsLe_trans⟩

theorem insertField_eq (field : String × Val) (fields : List (String × Val)) :
    insertField field fields = fields.orderedInsert (fun a b => keyLe a.1 b.1 = true) field := by
  induction fields with
  | nil => rfl
  | cons other fields ih => rw [insertField, List.orderedInsert, ih]

theorem canonicalizeFields_eq (fields : List (String × Val)) :
    canonicalizeFields fields = sortBy (fun a b => keyLe a.1 b.1)
        ((fields.filter fun field => field.1 ≠ "__proto__").map fun field =>
          (field.1, canonicalize field.2)) := by
  induction fields with
  | nil => rfl
  | cons field fields ih =>
    obtain ⟨key, v⟩ := field
    by_cases hproto : key = "__proto__"
    · simp [canonicalizeFields, hproto, ih]
    · simp [canonicalizeFields, hproto, ih, insertField_eq, sortBy]

theorem canonicalizeFields_perm {fields fields' : List (String × Val)}
    (hperm : fields.Perm fields') (hnodup : (fields.map Prod.fst).Nodup) :
    canonicalizeFields fields = canonicalizeFields fields' := by
  rw [canonicalizeFields_eq, canonicalizeFields_eq]
  refine (isComparison_keyLe.comap Prod.fst).sortBy_eq_of_perm ?_ ((hperm.filter _).map _)
  intro a ha b hb hab hba
  obtain ⟨field, hfield, rfl⟩ := mem_map.mp ha
  obtain ⟨other, hother, rfl⟩ := mem_map.mp hb
  have hkey : field.1 = other.1 := keyLe_antisymm hab hba
  rw [inj_on_of_nodup_map hnodup (mem_of_mem_filter hfield)
    (mem_of_mem_filter hother) hkey]

/-! ## Candidates and rows -/

/-- The candidates of the versions for a field. -/
def versionCandidates (versions : List ConfigurationVersion) (scopeHierarchy : List Scope)
    (field : String) : List Candidate :=
  valuesOf (versions.flatMap (versionEntries scopeHierarchy)) field

def defaultCandidates (definition : Definition) (field : String) : List Candidate :=
  valuesOf (defaultEntries definition.configKey definition.defaults definition.revision) field

/-- The candidates of a field, as they are pushed. -/
def fieldCandidates (definition : Definition) (versions : List ConfigurationVersion)
    (scopeHierarchy : List Scope) (field : String) : List Candidate :=
  valuesOf (fieldEntries definition versions scopeHierarchy) field

/-- The version has a value for the field and takes part. -/
def carries (scopeHierarchy : List Scope) (field : String) (version : ConfigurationVersion) :
    Bool :=
  takesPart scopeHierarchy version && decide (field ∈ version.values.map Prod.fst)

/-- `localeCompare` is a total order on these names. -/
structure OrdersNames (localeLe : String → String → Bool) (names : List String) : Prop
    extends IsComparison localeLe where
  antisymm : ∀ a ∈ names, ∀ b ∈ names, localeLe a b = true → localeLe b a = true → a = b

/-- Two candidates of the highest rank whose values differ. -/
def TopConflict (candidates : List Candidate) : Prop :=
  ∃ a ∈ candidates, ∃ b ∈ candidates, (∀ c ∈ candidates, c.rank ≤ a.rank) ∧
    b.rank = a.rank ∧ sameSerialized b.value a.value = false

/-- The candidates of a field cannot be merged by this operator. -/
def Refused (operator : Val) (candidates : List Candidate) : Prop :=
  match MergeOperator.ofVal operator with
  | none => True
  | some .denyWins => False
  | some .minimum => ∀ c ∈ candidates, finiteOf c.value = .ok none
  | some .maximum => ∀ c ∈ candidates, finiteOf c.value = .ok none
  | some .strictIntersection => ∃ c ∈ candidates, elementsOf c.value = none
  | some .guardedUnion => ∃ c ∈ candidates, elementsOf c.value = none
  | some .appendUnique => ∃ c ∈ candidates, elementsOf c.value = none
  | some .priorityReplace => TopConflict candidates
  | some .blockOnAmbiguity => TopConflict candidates

/-- The names of the fields, as they are resolved. -/
def fieldNames (localeLe : String → String → Bool) (definition : Definition)
    (versions : List ConfigurationVersion) (scopeHierarchy : List Scope) : List String :=
  sortBy localeLe ((group (fieldEntries definition versions scopeHierarchy)).map Prod.fst)

/-- `localeCompare` tells the names of the fields apart. -/
def FieldsApart (localeLe : String → String → Bool) (definition : Definition)
    (versions : List ConfigurationVersion) (scopeHierarchy : List Scope) : Prop :=
  OrdersNames localeLe ((fieldEntries definition versions scopeHierarchy).map Prod.fst)

/-- The same rows in another order, whose names `localeCompare` tells apart. -/
structure Rearranged (localeLe : String → String → Bool) (definition : Definition)
    (scopeHierarchy : List Scope) (versions' versions : List ConfigurationVersion) : Prop where
  order : OrdersNames localeLe (versions.map ConfigurationVersion.configVersionId)
  apart : FieldsApart localeLe definition versions scopeHierarchy
  ids : (versions.map ConfigurationVersion.configVersionId).Nodup
  perm : versions'.Perm versions

/-- Every field whose merge is refused comes from one version at most. -/
def RefusalsUnshared (definition : Definition) (versions : List ConfigurationVersion)
    (scopeHierarchy : List Scope) : Prop :=
  ∀ field, Refused (operatorOf definition.mergeProfile field)
      (fieldCandidates definition versions scopeHierarchy field) →
    (versions.filter (carries scopeHierarchy field)).length ≤ 1

/-- What a round of the loop makes of a merge. -/
def afterField (mergeProfile : Val) (resolution : Resolution) (field : String)
    (candidates : List Candidate) (merged : Merged) : Resolution :=
  { values := assignValue resolution.values field merged
    lineage := assign resolution.lineage field
      { operator := operatorOf mergeProfile field
        selected := merged.selected.map Candidate.source
        rejected := merged.rejected.map Candidate.source }
    versions := candidates.foldl recordRevision resolution.versions
    conflicts := resolution.conflicts ++ conflictOf field candidates merged }

/-- The loop over the fields, by name. -/
def resolveFields (localeLe : String → String → Bool) (definition : Definition)
    (versions : List ConfigurationVersion) (scopeHierarchy : List Scope) (names : List String) :
    Except Val Resolution :=
  names.foldlM (fun resolution field => resolveField localeLe definition.mergeProfile resolution
    (field, fieldCandidates definition versions scopeHierarchy field)) ⟨[], [], [], []⟩

/-- Two resolutions with the same values and, if `P` holds, lineage and conflicts. -/
structure SameOutput (P : Prop) (after' after : Resolution) : Prop where
  values : after'.values = after.values
  lineage : P → after'.lineage = after.lineage
  conflicts : P → after'.conflicts = after.conflicts

/-- The candidate's revision is recorded. -/
def Candidate.Recorded (candidate : Candidate) : Prop :=
  endsWith candidate.sourceId ":default" = false ∧ candidate.sourceId ≠ "__proto__"

/-- The object of revisions after some candidates: each id once. -/
structure Revisions (candidates : List Candidate) (recorded : List (String × Number)) : Prop where
  nodup : (recorded.map Prod.fst).Nodup
  mem : ∀ entry, entry ∈ recorded ↔
    ∃ c ∈ candidates, c.Recorded ∧ entry = (c.sourceId, c.revision)

/-- One id has one revision. -/
def OneRevision (candidates : List Candidate) : Prop :=
  ∀ a ∈ candidates, ∀ b ∈ candidates, a.Recorded → a.sourceId = b.sourceId →
    a.revision = b.revision

/-- Two results that are equal as values; the fields of an object have no order. -/
structure SameConfiguration (r' r : EffectiveConfiguration) : Prop where
  configKey : r'.configKey = r.configKey
  values : r'.values = r.values
  lineage : r'.lineage = r.lineage
  definitionRevision : r'.definitionRevision = r.definitionRevision
  versions : r'.versions.Perm r.versions
  conflicts : r'.conflicts = r.conflicts
  blocked : r'.blocked = r.blocked
  sha256 : r'.sha256 = r.sha256

section Rows

variable {localeLe : String → String → Bool} {definition : Definition}
  {versions versions' : List ConfigurationVersion} {scopeHierarchy : List Scope}
  {version : ConfigurationVersion} {entry : String × Candidate} {configKey field : String}
  {revision : Number} {candidate : Candidate} {candidates candidates' ordered : List Candidate}
  {merged : Merged} {mergeProfile operator : Val} {names : List String}
  {before before' after after' : Resolution}

/-! ## Where candidates come from -/

theorem mem_defaultEntries {defaults : Val}
    (h : entry ∈ defaultEntries configKey defaults revision) :
    entry.2.rank = -1 ∧ entry.2.sourceId = configKey ++ ":default" := by
  obtain ⟨field, -, rfl⟩ := mem_map.mp h
  exact ⟨rfl, rfl⟩

/-- A candidate of a version has the version's id and numbers. -/
theorem mem_versionEntries (h : entry ∈ versionEntries scopeHierarchy version) :
    ∃ rank : Nat, scopeRank scopeHierarchy version.scopeKey = some rank ∧
      (entry.1, entry.2.value) ∈ version.values ∧
        entry.2 = { value := entry.2.value, rank, versionNumber := version.versionNumber,
                    sourceId := version.configVersionId, scopeKey := version.scopeKey,
                    revision := version.versionRevision } := by
  unfold versionEntries at h
  split at h
  next => cases h
  next rank hrank =>
    obtain ⟨field, hfield, rfl⟩ := mem_map.mp h
    exact ⟨rank, hrank, hfield, rfl⟩

theorem versionEntries_unique {key : String} {a b : Candidate}
    (ha : (key, a) ∈ versionEntries scopeHierarchy version)
    (hb : (key, b) ∈ versionEntries scopeHierarchy version) : a = b := by
  obtain ⟨rank, hrank, hvalue, ha⟩ := mem_versionEntries ha
  obtain ⟨rank', hrank', hvalue', hb⟩ := mem_versionEntries hb
  cases hrank.symm.trans hrank'
  have hfield : (key, a.value) = (key, b.value) :=
    inj_on_of_nodup_map version.distinct hvalue hvalue' rfl
  have hsame : a.value = b.value := congrArg Prod.snd hfield
  dsimp only at ha hb
  rw [ha, hb, hsame]

theorem fieldCandidates_eq :
    fieldCandidates definition versions scopeHierarchy field =
      defaultCandidates definition field ++ versionCandidates versions scopeHierarchy field :=
  valuesOf_append _ _ field

theorem mem_versionCandidates :
    candidate ∈ versionCandidates versions scopeHierarchy field ↔
      ∃ version ∈ versions, (field, candidate) ∈ versionEntries scopeHierarchy version := by
  rw [versionCandidates, mem_valuesOf, mem_flatMap]

theorem valuesOf_versionEntries :
    (valuesOf (versionEntries scopeHierarchy version) field).map Candidate.sourceId =
      if carries scopeHierarchy field version then [version.configVersionId] else [] := by
  unfold versionEntries
  cases hrank : scopeRank scopeHierarchy version.scopeKey with
  | none => simp [valuesOf, carries, takesPart, hrank]
  | some rank =>
    have hcarries : carries scopeHierarchy field version =
        decide (field ∈ version.values.map Prod.fst) := by
      rw [carries, takesPart, hrank, Option.isSome_some, Bool.true_and]
    -- the fields of a version are distinct
    have hcount : (version.values.countP fun entry => entry.1 = field) = _ :=
      countP_map.symm.trans (version.distinct.count (a := field))
    rw [countP_eq_length_filter] at hcount
    rw [hcarries, if_congr decide_eq_true_iff rfl rfl]
    simp only [valuesOf, filter_map, map_map, Function.comp_def, map_const', hcount]
    split <;> rfl

theorem sourceId_versionCandidates :
    (versionCandidates versions scopeHierarchy field).map Candidate.sourceId =
      (versions.filter (carries scopeHierarchy field)).map
        ConfigurationVersion.configVersionId := by
  induction versions with
  | nil => rfl
  | cons version versions ih =>
    unfold versionCandidates at ih ⊢
    rw [flatMap_cons, valuesOf_append, map_append, ih, valuesOf_versionEntries,
      filter_cons]
    split <;> rfl

/-! ## Candidates in order -/

theorem isComparison_not_blt : IsComparison fun a b : Decimal => !a.blt b := by
  constructor
  · intro a b
    simp only [Bool.not_eq_true']
    exact Decimal.blt_total _ _
  · intro a b c hab hbc
    simp only [Bool.not_eq_true'] at *
    exact Decimal.not_blt_trans hbc hab

theorem isComparison_candidateLe (h : IsComparison localeLe) :
    IsComparison (candidateLe localeLe) := by
  refine IsComparison.andThen ⟨?_, ?_⟩
    (IsComparison.andThen (isComparison_not_blt.comap _) (h.comap _))
  · intro a b
    simp only [decide_eq_true_eq]
    omega
  · intro a b c hab hbc
    simp only [decide_eq_true_eq] at *
    omega

theorem rank_le_of_candidateLe {a b : Candidate} (h : candidateLe localeLe a b = true) :
    b.rank ≤ a.rank := by
  by_contra hlt
  simp [candidateLe, andThen, hlt] at h

theorem versionCandidates_untied
    (horder : OrdersNames localeLe (versions.map ConfigurationVersion.configVersionId))
    (hids : (versions.map ConfigurationVersion.configVersionId).Nodup) {a b : Candidate}
    (ha : a ∈ versionCandidates versions scopeHierarchy field)
    (hb : b ∈ versionCandidates versions scopeHierarchy field)
    (hab : candidateLe localeLe a b = true) (hba : candidateLe localeLe b a = true) : a = b := by
  obtain ⟨version, hversion, ha⟩ := mem_versionCandidates.mp ha
  obtain ⟨other, hother, hb⟩ := mem_versionCandidates.mp hb
  obtain ⟨-, -, htie, htie'⟩ := andThen_antisymm hab hba
  obtain ⟨-, -, hle, hle'⟩ := andThen_antisymm htie htie'
  obtain ⟨_, -, -, ha'⟩ := mem_versionEntries ha
  obtain ⟨_, -, -, hb'⟩ := mem_versionEntries hb
  have hida : a.sourceId = version.configVersionId := congrArg Candidate.sourceId ha'
  have hidb : b.sourceId = other.configVersionId := congrArg Candidate.sourceId hb'
  rw [hida, hidb] at hle hle'
  have hid := horder.antisymm _ (mem_map_of_mem hversion) _ (mem_map_of_mem hother)
    hle hle'
  obtain rfl := inj_on_of_nodup_map hids hversion hother hid
  exact versionEntries_unique ha hb

theorem versionCandidates_perm (hperm : versions'.Perm versions) :
    (versionCandidates versions' scopeHierarchy field).Perm
      (versionCandidates versions scopeHierarchy field) :=
  valuesOf_perm (hperm.flatMap_right _) _

/-- The default comes after every version. -/
theorem sort_fieldCandidates :
    sortBy (candidateLe localeLe) (fieldCandidates definition versions scopeHierarchy field) =
      sortBy (candidateLe localeLe) (versionCandidates versions scopeHierarchy field) ++
        sortBy (candidateLe localeLe) (defaultCandidates definition field) := by
  rw [fieldCandidates_eq]
  refine sortBy_append_of_after fun a ha b hb => ?_
  have hdefault := (mem_defaultEntries (mem_valuesOf.mp ha)).1
  obtain ⟨version, -, hb⟩ := mem_versionCandidates.mp hb
  obtain ⟨rank, -, -, hb⟩ := mem_versionEntries hb
  have hrank : b.rank = rank := congrArg Candidate.rank hb
  have hlt : ¬b.rank ≤ a.rank := by
    dsimp only at hdefault
    omega
  simp [candidateLe, andThen, hlt]

/-! ## Refused merges -/

theorem code_mergeDenyWins (first : Candidate) (rest : List Candidate) :
    (mergeDenyWins first rest).code = none := by
  unfold mergeDenyWins
  dsimp only
  split <;> rfl

theorem code_mergeNumeric {less : Decimal → Decimal → Bool}
    (h : mergeNumeric less ordered = .ok merged) :
    merged.code ≠ none ↔ ∀ c ∈ ordered, finiteOf c.value = .ok none := by
  obtain ⟨numbers, hnumbers, h⟩ := bind_eq_ok.mp h
  have hall : numbers.filterMap id = [] ↔ ∀ c ∈ ordered, finiteOf c.value = .ok none := by
    rw [filterMap_eq_nil_iff]
    constructor
    · intro hnone c hc
      obtain ⟨number, hmem, hfinite⟩ := exists_of_mem_of_mapM hnumbers hc
      rw [hfinite, ← hnone number hmem, id]
    · intro hnone number hmem
      obtain ⟨c, hc, hfinite⟩ := exists_of_mem_mapM hnumbers hmem
      rw [hnone c hc] at hfinite
      exact (Except.ok.inj hfinite).symm
  rw [← hall]
  split at h
  next hnil =>
    cases h
    exact ⟨fun _ => hnil, fun _ => by simp [Merged.blocked]⟩
  next hcons =>
    cases h
    rw [hcons]
    simp

theorem code_mergeArrays (intersect : Bool) :
    (mergeArrays localeLe intersect ordered).code ≠ none ↔
      ∃ c ∈ ordered, elementsOf c.value = none := by
  have hnone : ∀ candidates : List Candidate,
      (candidates.mapM fun entry => elementsOf entry.value) = none ↔
        ∃ c ∈ candidates, elementsOf c.value = none := by
    intro candidates
    induction candidates with
    | nil => simp
    | cons c candidates ih =>
      simp only [mapM_cons, mem_cons, exists_eq_or_imp]
      cases helements : elementsOf c.value with
      | none => simp
      | some elems =>
        rw [← ih]
        cases hrest : candidates.mapM fun entry => elementsOf entry.value <;> simp
  rw [← hnone]
  unfold mergeArrays
  split
  next hmap => simp [Merged.blocked, hmap]
  next arrays hmap => simp [hmap]

theorem code_mergeTopRank {first : Candidate} {rest : List Candidate}
    (hfirst : ∀ c ∈ rest, c.rank ≤ first.rank) :
    (mergeTopRank first rest).code ≠ none ↔ TopConflict (first :: rest) := by
  have htop : ∀ c ∈ first :: rest, c.rank ≤ first.rank :=
    forall_mem_cons.mpr ⟨Int.le_refl _, hfirst⟩
  unfold mergeTopRank
  dsimp only
  split
  next hall =>
    simp only [all_eq_true, mem_filter, beq_iff_eq, and_imp] at hall
    refine ⟨fun h => (h rfl).elim, ?_⟩
    rintro ⟨a, ha, b, hb, hmax, hrank, hdiffer⟩
    have harank : a.rank = first.rank :=
      Int.le_antisymm (htop a ha) (hmax first mem_cons_self)
    have hsa := hall a ha harank
    have hsb := hall b hb (hrank.trans harank)
    simp only [sameSerialized, beq_iff_eq, beq_eq_false_iff_ne] at hsa hsb hdiffer
    exact (hdiffer (hsb.trans hsa.symm)).elim
  next hsome =>
    refine ⟨fun _ => ?_, fun _ => by simp [Merged.blocked]⟩
    simp only [all_eq_true, mem_filter, beq_iff_eq, and_imp, not_forall] at hsome
    obtain ⟨b, hb, hrank, hdiffer⟩ := hsome
    exact ⟨first, mem_cons_self, b, hb, htop, hrank, by simpa using hdiffer⟩

theorem refused_perm (hmem : ∀ c, c ∈ ordered ↔ c ∈ candidates) :
    Refused operator ordered ↔ Refused operator candidates := by
  unfold Refused TopConflict
  simp only [hmem]

/-- A merge is blocked exactly when the candidates cannot be merged. -/
theorem code_mergeConfigurationCandidates (hlocale : IsComparison localeLe) (hne : candidates ≠ [])
    (h : mergeConfigurationCandidates localeLe candidates operator = .ok merged) :
    merged.code ≠ none ↔ Refused operator candidates := by
  have hmem : ∀ c, c ∈ sortBy (candidateLe localeLe) candidates ↔ c ∈ candidates :=
    fun c => mem_sortBy
  have hsorted := (isComparison_candidateLe hlocale).pairwise_sortBy candidates
  rw [← refused_perm hmem]
  unfold mergeConfigurationCandidates at h
  unfold Refused
  cases hop : MergeOperator.ofVal operator with
  | none =>
    rw [hop] at h
    cases h
    simp [Merged.blocked]
  | some op =>
    rw [hop] at h
    cases hlist : sortBy (candidateLe localeLe) candidates with
    | nil =>
      obtain ⟨c, hc⟩ := exists_mem_of_ne_nil _ hne
      rw [← hmem, hlist] at hc
      cases hc
    | cons first rest =>
      rw [hlist] at h hsorted
      have hfirst : ∀ c ∈ rest, c.rank ≤ first.rank := by
        intro c hc
        exact rank_le_of_candidateLe ((pairwise_cons.mp hsorted).1 c hc)
      cases op with
      | denyWins =>
        cases h
        simp [code_mergeDenyWins]
      | minimum | maximum => exact code_mergeNumeric h
      | strictIntersection =>
        cases h
        exact code_mergeArrays true
      | guardedUnion | appendUnique =>
        cases h
        exact code_mergeArrays false
      | priorityReplace | blockOnAmbiguity =>
        cases h
        exact code_mergeTopRank hfirst

/-! ## Fields in order -/

theorem OrdersNames.mono {names' : List String} (h : OrdersNames localeLe names)
    (hsub : ∀ name ∈ names', name ∈ names) : OrdersNames localeLe names' :=
  { h.toIsComparison with
    antisymm := fun a ha b hb => h.antisymm a (hsub a ha) b (hsub b hb) }

theorem sortedFields_eq :
    sortedFields localeLe (fieldEntries definition versions scopeHierarchy) =
      (fieldNames localeLe definition versions scopeHierarchy).map fun field =>
        (field, fieldCandidates definition versions scopeHierarchy field) :=
  sorted_group_eq localeLe _

theorem mem_fieldNames :
    field ∈ fieldNames localeLe definition versions scopeHierarchy ↔
      fieldCandidates definition versions scopeHierarchy field ≠ [] := by
  rw [fieldNames, mem_sortBy, (groups_group _).keys, ne_eq, eq_nil_iff_forall_not_mem]
  simp [fieldCandidates, mem_valuesOf]

theorem fieldEntries_perm (hperm : versions'.Perm versions) :
    (fieldEntries definition versions' scopeHierarchy).Perm
      (fieldEntries definition versions scopeHierarchy) :=
  (hperm.flatMap_right _).append_left _

section

variable (h : Rearranged localeLe definition scopeHierarchy versions' versions)

include h

theorem Rearranged.symm : Rearranged localeLe definition scopeHierarchy versions versions' := by
  exact ⟨h.order.mono fun _ => (h.perm.map _).mem_iff.mp,
    h.apart.mono fun _ => ((fieldEntries_perm h.perm).map _).mem_iff.mp,
    (h.perm.map _).nodup_iff.mpr h.ids, h.perm.symm⟩

theorem Rearranged.fieldNames_eq :
    fieldNames localeLe definition versions' scopeHierarchy =
      fieldNames localeLe definition versions scopeHierarchy := by
  refine (h.order.toIsComparison.sortBy_eq_of_perm ?_
    (map_fst_group_perm (fieldEntries_perm h.perm)).symm).symm
  intro a ha b hb
  rw [(groups_group _).keys] at ha hb
  exact h.apart.antisymm a ha b hb

/-- Sorted, the candidates of a field do not depend on the order of the rows. -/
theorem Rearranged.sort_eq :
    sortBy (candidateLe localeLe) (fieldCandidates definition versions' scopeHierarchy field) =
      sortBy (candidateLe localeLe) (fieldCandidates definition versions scopeHierarchy field) := by
  rw [sort_fieldCandidates, sort_fieldCandidates]
  congr 1
  refine ((isComparison_candidateLe h.order.toIsComparison).sortBy_eq_of_perm ?_
    (versionCandidates_perm h.perm).symm).symm
  intro a ha b hb
  exact versionCandidates_untied h.order h.ids ha hb

end

/-! ## Merging permuted candidates -/

theorem resolveField_eq :
    resolveField localeLe mergeProfile before (field, candidates) =
      (mergeConfigurationCandidates localeLe candidates (operatorOf mergeProfile field) >>=
        fun merged => .ok (afterField mergeProfile before field candidates merged)) :=
  rfl

/-- A field is resolved to one value whatever the order of its candidates, and
if its merge is not refused, or its candidates stay as they are, with one lineage
and the same conflicts. -/
theorem resolveField_output {P : Prop} (hlocale : IsComparison localeLe)
    (hsort : sortBy (candidateLe localeLe) candidates' = sortBy (candidateLe localeLe) candidates)
    (hne : candidates ≠ []) (hrefused : P → Refused (operatorOf mergeProfile field) candidates →
      candidates' = candidates) (hbefore : SameOutput P before' before) :
    Agree (SameOutput P) (resolveField localeLe mergeProfile before' (field, candidates'))
      (resolveField localeLe mergeProfile before (field, candidates)) := by
  rw [resolveField_eq, resolveField_eq]
  by_cases hcase : P ∧ Refused (operatorOf mergeProfile field) candidates
  · rw [hrefused hcase.1 hcase.2]
    refine Agree.bind (Agree.of_eq (fun _ => rfl) rfl) fun merged merged' heq => ?_
    subst heq
    exact ⟨congrArg (assignValue · field merged) hbefore.values,
      fun hp => congrArg (assign · field _) (hbefore.lineage hp),
      fun hp => congrArg (· ++ _) (hbefore.conflicts hp)⟩
  cases hoperator : MergeOperator.ofVal (operatorOf mergeProfile field) with
  | none =>
    have hnot : ¬P := fun hp => hcase ⟨hp, by simp [Refused, hoperator]⟩
    simp only [mergeConfigurationCandidates, hoperator, ok_bind]
    exact ⟨hbefore.values, fun hp => absurd hp hnot, fun hp => absurd hp hnot⟩
  | some op =>
    -- the merge sees the sorted candidates only
    have hsame : mergeConfigurationCandidates localeLe candidates' (operatorOf mergeProfile field) =
        mergeConfigurationCandidates localeLe candidates (operatorOf mergeProfile field) := by
      simp only [mergeConfigurationCandidates, hoperator, hsort]
    rw [hsame]
    cases hmerge : mergeConfigurationCandidates localeLe candidates
        (operatorOf mergeProfile field) with
    | error e => rfl
    | ok merged =>
      refine ⟨congrArg (assignValue · field merged) hbefore.values,
        fun hp => congrArg (assign · field _) (hbefore.lineage hp), fun hp => ?_⟩
      have hcode : merged.code = none := by
        by_contra hcode
        exact hcase ⟨hp, (code_mergeConfigurationCandidates hlocale hne hmerge).mp hcode⟩
      simp [afterField, conflictOf, hcode, hbefore.conflicts hp]

/-! ## Whole runs -/

/-- What a run over some fields records and which conflicts it adds. -/
theorem resolveField_run {candidatesOf : String → List Candidate}
    (h : names.foldlM (fun resolution field =>
      resolveField localeLe mergeProfile resolution (field, candidatesOf field)) before =
        .ok after) :
    after.versions = (names.flatMap candidatesOf).foldl recordRevision before.versions ∧
      (∀ field ∈ names, ∃ merged, mergeConfigurationCandidates localeLe (candidatesOf field)
        (operatorOf mergeProfile field) = .ok merged) ∧
      ∀ conflict, conflict ∈ after.conflicts ↔ conflict ∈ before.conflicts ∨
        ∃ field ∈ names, ∃ merged,
          mergeConfigurationCandidates localeLe (candidatesOf field)
            (operatorOf mergeProfile field) = .ok merged ∧
          conflict ∈ conflictOf field (candidatesOf field) merged := by
  induction names generalizing before with
  | nil =>
    cases h
    simp
  | cons field names ih =>
    rw [foldlM_cons, resolveField_eq] at h
    obtain ⟨next, hnext, h⟩ := bind_eq_ok.mp h
    obtain ⟨merged, hmerged, hnext⟩ := bind_eq_ok.mp hnext
    cases hnext
    obtain ⟨hversions, hmerges, hconflicts⟩ := ih h
    refine ⟨?_, forall_mem_cons.mpr ⟨⟨merged, hmerged⟩, hmerges⟩, ?_⟩
    · rw [hversions, flatMap_cons, foldl_append]
      rfl
    · intro conflict
      rw [hconflicts]
      simp only [afterField, mem_append, mem_cons, exists_eq_or_imp, hmerged,
        Except.ok.injEq, exists_eq_left', or_assoc]

theorem mem_setEntry {κ α : Type} [DecidableEq κ] {entries : List (κ × α)} {key : κ}
    {value : α} (hnodup : (entries.map Prod.fst).Nodup) (entry : κ × α) :
    entry ∈ setEntry entries key value ↔
      entry = (key, value) ∨ entry.1 ≠ key ∧ entry ∈ entries := by
  induction entries with
  | nil => simp [setEntry]
  | cons first entries ih =>
    by_cases hkey : first.1 = key
    · rw [setEntry, if_pos hkey]
      grind
    · rw [setEntry, if_neg hkey]
      grind

theorem mem_keys_setEntry {κ α : Type} [DecidableEq κ] {entries : List (κ × α)} {key other : κ}
    {value : α} : other ∈ (setEntry entries key value).map Prod.fst ↔
      other = key ∨ other ∈ entries.map Prod.fst := by
  induction entries with
  | nil => simp [setEntry]
  | cons first entries ih =>
    by_cases hkey : first.1 = key
    · simp [setEntry, hkey]
    · rw [setEntry, if_neg hkey, map_cons, mem_cons, ih, map_cons, mem_cons, or_left_comm]

theorem nodup_setEntry {κ α : Type} [DecidableEq κ] {entries : List (κ × α)} (key : κ)
    (value : α) (hnodup : (entries.map Prod.fst).Nodup) :
    ((setEntry entries key value).map Prod.fst).Nodup := by
  induction entries with
  | nil => exact nodup_singleton _
  | cons first entries ih =>
    rw [map_cons, nodup_cons] at hnodup
    by_cases hkey : first.1 = key
    · rw [setEntry, if_pos hkey, map_cons, nodup_cons, ← hkey]
      exact hnodup
    · rw [setEntry, if_neg hkey, map_cons, nodup_cons]
      rw [mem_keys_setEntry, not_or]
      exact ⟨⟨hkey, hnodup.1⟩, ih hnodup.2⟩

theorem Revisions.record {recorded : List (String × Number)} (h : Revisions candidates recorded)
    (hone : OneRevision (candidates ++ [candidate])) :
    Revisions (candidates ++ [candidate]) (recordRevision recorded candidate) := by
  by_cases hrecorded : candidate.Recorded
  · have hstep : recordRevision recorded candidate =
        setEntry recorded candidate.sourceId candidate.revision := by
      simp [recordRevision, assign, hrecorded.1, hrecorded.2]
    refine ⟨hstep ▸ nodup_setEntry _ _ h.nodup, fun entry => ?_⟩
    rw [hstep, mem_setEntry h.nodup, h.mem]
    constructor
    · rintro (rfl | ⟨-, c, hc, hrec, rfl⟩)
      · exact ⟨candidate, by simp, hrecorded, rfl⟩
      · exact ⟨c, mem_append_left _ hc, hrec, rfl⟩
    · rintro ⟨c, hc, hrec, rfl⟩
      by_cases hid : c.sourceId = candidate.sourceId
      · left
        rw [hid, hone c hc candidate (by simp) hrec hid]
      · right
        rcases mem_append.mp hc with hc | hc
        · exact ⟨hid, c, hc, hrec, rfl⟩
        · exact absurd (congrArg Candidate.sourceId (mem_singleton.mp hc)) hid
  · have hstep : recordRevision recorded candidate = recorded := by
      unfold recordRevision assign
      split
      next => rfl
      next hends =>
        rw [if_pos]
        by_contra hproto
        exact hrecorded ⟨by simpa using hends, hproto⟩
    rw [hstep]
    refine ⟨h.nodup, fun entry => ?_⟩
    rw [h.mem]
    simp [or_and_right, exists_or, hrecorded]

theorem revisions_foldl (hone : OneRevision candidates) :
    Revisions candidates (candidates.foldl recordRevision []) := by
  induction candidates using List.reverseRecOn with
  | nil => exact ⟨nodup_nil, by simp⟩
  | append_singleton candidates candidate ih =>
    rw [foldl_append]
    refine (ih fun a ha b hb => ?_).record hone
    exact hone a (mem_append_left _ ha) b (mem_append_left _ hb)

theorem endsWith_default : endsWith (configKey ++ ":default") ":default" = true := by
  rw [endsWith, isSuffixOf_iff_suffix, String.toList_append]
  exact suffix_append _ _

theorem fieldCandidates_perm (hperm : versions'.Perm versions) :
    (fieldCandidates definition versions' scopeHierarchy field).Perm
      (fieldCandidates definition versions scopeHierarchy field) :=
  valuesOf_perm (fieldEntries_perm hperm) _

/-- The recorded candidates are those of versions, whose ids are distinct. -/
theorem oneRevision_candidates
    (hids : (versions.map ConfigurationVersion.configVersionId).Nodup) :
    OneRevision (names.flatMap (fieldCandidates definition versions scopeHierarchy)) := by
  have hversion : ∀ c ∈ names.flatMap (fieldCandidates definition versions scopeHierarchy),
      endsWith c.sourceId ":default" = false → ∃ version ∈ versions,
        c.sourceId = version.configVersionId ∧ c.revision = version.versionRevision := by
    intro c hc hdefault
    obtain ⟨field, -, hc⟩ := mem_flatMap.mp hc
    rw [fieldCandidates_eq, mem_append] at hc
    rcases hc with hc | hc
    · have hid := (mem_defaultEntries (mem_valuesOf.mp hc)).2
      rw [hid, endsWith_default] at hdefault
      cases hdefault
    · obtain ⟨version, hmem, hc⟩ := mem_versionCandidates.mp hc
      obtain ⟨_, -, -, hc⟩ := mem_versionEntries hc
      exact ⟨version, hmem, congrArg Candidate.sourceId hc, congrArg Candidate.revision hc⟩
  intro a ha b hb hrecorded hid
  obtain ⟨version, hmem, hida, hreva⟩ := hversion a ha hrecorded.1
  obtain ⟨other, hmem', hidb, hrevb⟩ := hversion b hb (hid ▸ hrecorded.1)
  obtain rfl := inj_on_of_nodup_map hids hmem hmem' (hida.symm.trans (hid.trans hidb))
  rw [hreva, hrevb]

theorem Revisions.perm {recorded recorded' : List (String × Number)}
    (h : Revisions candidates recorded) (h' : Revisions candidates' recorded')
    (hmem : ∀ c, c ∈ candidates' ↔ c ∈ candidates) : recorded'.Perm recorded := by
  rw [perm_ext_iff_of_nodup (List.Nodup.of_map _ h'.nodup) (List.Nodup.of_map _ h.nodup)]
  intro entry
  rw [h.mem, h'.mem]
  simp only [hmem]

/-- The digest does not see the order of the revisions. -/
theorem canonicalize_resolvedVal (houtput : SameOutput True after' after)
    (hversions : after'.versions.Perm after.versions)
    (hnodup : (after'.versions.map Prod.fst).Nodup) :
    canonicalize (resolvedVal configKey revision after') =
      canonicalize (resolvedVal configKey revision after) := by
  have hfields : ∀ field : String × Number → String × Val,
      (∀ entry, (field entry).1 = entry.1) → canonicalizeFields (after'.versions.map field) =
        canonicalizeFields (after.versions.map field) := by
    intro field hfield
    refine canonicalizeFields_perm (hversions.map _) ?_
    rw [map_map, funext hfield (f := Prod.fst ∘ field)]
    exact hnodup
  unfold resolvedVal
  rw [houtput.values, houtput.lineage trivial, houtput.conflicts trivial]
  simp only [canonicalize, canonicalizeFields]
  rw [hfields _ fun _ => rfl]

/-! ## The order of the rows -/

section Result

variable {rt : Runtime} {regExp : String → Option (String → Bool)}

/-- The loop records the revisions of the candidates. -/
theorem revisions_resolveFields (hids : (versions.map ConfigurationVersion.configVersionId).Nodup)
    (h : resolveFields localeLe definition versions scopeHierarchy names = .ok after) :
    Revisions (names.flatMap (fieldCandidates definition versions scopeHierarchy))
      after.versions := by
  rw [(resolveField_run h).1]
  exact revisions_foldl (oneRevision_candidates hids)

theorem resolveVersions_eq :
    resolveVersions rt regExp localeLe definition versions scopeHierarchy =
      (resolveFields localeLe definition versions scopeHierarchy
        (fieldNames localeLe definition versions scopeHierarchy) >>= fun resolution =>
          validateValueAgainstSchema regExp (.obj resolution.values) definition.schema "$" >>=
            fun issues =>
              .ok (effectiveOf rt definition (withSchemaConflict resolution issues))) := by
  rw [resolveVersions, sortedFields_eq, foldlM_map]
  rfl

theorem length_versionCandidates :
    (versionCandidates versions scopeHierarchy field).length =
      (versions.filter (carries scopeHierarchy field)).length := by
  rw [← length_map, sourceId_versionCandidates, length_map]

/-- A field that one version carries at most has the same candidates in every
order of the rows. -/
theorem fieldCandidates_eq_of_unshared (hperm : versions'.Perm versions)
    (hone : (versions.filter (carries scopeHierarchy field)).length ≤ 1) :
    fieldCandidates definition versions' scopeHierarchy field =
      fieldCandidates definition versions scopeHierarchy field := by
  rw [fieldCandidates_eq, fieldCandidates_eq]
  congr 1
  have hcandidates : (versionCandidates versions' scopeHierarchy field).Perm
      (versionCandidates versions scopeHierarchy field) := versionCandidates_perm hperm
  rw [← length_versionCandidates] at hone
  generalize versionCandidates versions scopeHierarchy field = candidates at hcandidates hone
  obtain _ | ⟨c, _ | ⟨c', candidates⟩⟩ := candidates
  · exact hcandidates.eq_nil
  · exact perm_singleton.mp hcandidates
  · simp at hone

theorem SameOutput.withSchemaConflict (h : SameOutput True after' after) (issues : List Val) :
    SameOutput True (withSchemaConflict after' issues) (withSchemaConflict after issues) := by
  unfold GrowthControl.withSchemaConflict
  split
  next => exact h
  next => exact ⟨h.values, h.lineage, fun hp => congrArg (· ++ _) (h.conflicts hp)⟩

theorem sameConfiguration_effectiveOf (houtput : SameOutput True after' after)
    (hversions : after'.versions.Perm after.versions)
    (hnodup : (after'.versions.map Prod.fst).Nodup) (issues : List Val) :
    SameConfiguration (effectiveOf rt definition (withSchemaConflict after' issues))
      (effectiveOf rt definition (withSchemaConflict after issues)) := by
  have hchecked := houtput.withSchemaConflict issues
  have hkept : ∀ after, (withSchemaConflict after issues).versions = after.versions := by
    intro after
    unfold withSchemaConflict
    split <;> rfl
  rw [← hkept after'] at hversions hnodup
  rw [← hkept after] at hversions
  have hconflicts := hchecked.conflicts trivial
  refine ⟨rfl, hchecked.values, hchecked.lineage trivial, rfl, hversions, hconflicts, ?_, ?_⟩
  · simp only [effectiveOf, hconflicts]
  · simp only [effectiveOf, stableSha256, stableSerialize,
      canonicalize_resolvedVal hchecked hversions hnodup]

theorem length_le_one_of_reverse {ids : List String} (hnodup : ids.Nodup)
    (h : ids.reverse = ids) : ids.length ≤ 1 := by
  obtain _ | ⟨first, _ | ⟨second, rest⟩⟩ := ids
  · exact Nat.zero_le 1
  · exact Nat.le_refl 1
  · have hlast : (first :: second :: rest).getLast? = some first := by
      rw [← List.head?_reverse, h, List.head?_cons]
    rw [List.getLast?_cons_cons] at hlast
    exact absurd (mem_of_getLast? hlast) (nodup_cons.mp hnodup).1

variable {r : EffectiveConfiguration}
  (h : resolveVersions rt regExp localeLe definition versions scopeHierarchy = .ok r)

include h

/-- What a result says about the loop over the fields. -/
theorem resolveVersions_ok :
    ∃ after issues,
      resolveFields localeLe definition versions scopeHierarchy
        (fieldNames localeLe definition versions scopeHierarchy) = .ok after ∧
      validateValueAgainstSchema regExp (.obj after.values) definition.schema "$" =
        .ok issues ∧
      r = effectiveOf rt definition (withSchemaConflict after issues) := by
  rw [resolveVersions_eq] at h
  obtain ⟨after, hafter, h⟩ := bind_eq_ok.mp h
  obtain ⟨issues, hissues, h⟩ := bind_eq_ok.mp h
  exact ⟨after, issues, hafter, hissues, (Except.ok.inj h).symm⟩

/-- Whether there is a result does not depend on the order of the rows; where no
refused field is shared, nor does the result. -/
theorem Rearranged.resolved
    (hrows : Rearranged localeLe definition scopeHierarchy versions' versions) :
    ∃ r', resolveVersions rt regExp localeLe definition versions' scopeHierarchy = .ok r' ∧
      (RefusalsUnshared definition versions scopeHierarchy → SameConfiguration r' r) := by
  obtain ⟨after, issues, hafter, hissues, rfl⟩ := resolveVersions_ok h
  have hagree : Agree (SameOutput (RefusalsUnshared definition versions scopeHierarchy))
      (resolveFields localeLe definition versions' scopeHierarchy
        (fieldNames localeLe definition versions scopeHierarchy))
      (resolveFields localeLe definition versions scopeHierarchy
        (fieldNames localeLe definition versions scopeHierarchy)) := by
    refine Agree.foldlM (fun field hfield before' before hbefore => ?_)
      ⟨rfl, fun _ => rfl, fun _ => rfl⟩
    exact resolveField_output hrows.order.toIsComparison hrows.sort_eq (mem_fieldNames.mp hfield)
      (fun hunshared hrefused => fieldCandidates_eq_of_unshared hrows.perm
        (hunshared field hrefused)) hbefore
  obtain ⟨after', hafter', houtput⟩ := hagree.exists_ok hafter
  refine ⟨effectiveOf rt definition (withSchemaConflict after' issues), ?_, fun hunshared => ?_⟩
  · rw [resolveVersions_eq, hrows.fieldNames_eq, hafter', ok_bind, houtput.values, hissues, ok_bind]
  have hrecorded := revisions_resolveFields hrows.ids hafter
  have hrecorded' := revisions_resolveFields hrows.symm.ids hafter'
  have hversions : after'.versions.Perm after.versions := by
    refine hrecorded.perm hrecorded' fun c => ?_
    simp only [mem_flatMap, (fieldCandidates_perm hrows.perm).mem_iff]
  exact sameConfiguration_effectiveOf ⟨houtput.values, fun _ => houtput.lineage hunshared,
    fun _ => houtput.conflicts hunshared⟩ hversions hrecorded'.nodup issues

/-- The conflict of a field whose merge is refused names the candidates in the
order they were pushed. -/
theorem unmerged_mem_iff (hlocale : IsComparison localeLe) {sourceIds : List String} :
    (∃ code, Conflict.unmerged field code sourceIds ∈ r.conflicts) ↔
      fieldCandidates definition versions scopeHierarchy field ≠ [] ∧
      Refused (operatorOf definition.mergeProfile field)
        (fieldCandidates definition versions scopeHierarchy field) ∧
      sourceIds = (fieldCandidates definition versions scopeHierarchy field).map
        Candidate.sourceId := by
  obtain ⟨after, issues, hafter, -, rfl⟩ := resolveVersions_ok h
  obtain ⟨-, hmerges, hconflicts⟩ := resolveField_run hafter
  have hschema : ∀ code, Conflict.unmerged field code sourceIds ∈
      (effectiveOf rt definition (withSchemaConflict after issues)).conflicts ↔
        Conflict.unmerged field code sourceIds ∈ after.conflicts := by
    intro code
    change _ ∈ (withSchemaConflict after issues).conflicts ↔ _
    unfold withSchemaConflict
    split
    next => rfl
    next => simp
  simp only [hschema, hconflicts, not_mem_nil, false_or]
  constructor
  · rintro ⟨code, other, hother, merged, hmerged, hmem⟩
    obtain ⟨code', hcode, heq⟩ := mem_map.mp hmem
    obtain ⟨rfl, rfl, rfl⟩ := Conflict.unmerged.inj heq
    have hne := mem_fieldNames.mp hother
    refine ⟨hne, (code_mergeConfigurationCandidates hlocale hne hmerged).mp ?_, rfl⟩
    rw [Option.mem_toList.mp hcode]
    simp
  · rintro ⟨hne, hrefused, rfl⟩
    have hfield : field ∈ fieldNames localeLe definition versions scopeHierarchy :=
      mem_fieldNames.mpr hne
    obtain ⟨merged, hmerged⟩ := hmerges field hfield
    obtain ⟨code, hcode⟩ := Option.ne_none_iff_exists'.mp
      ((code_mergeConfigurationCandidates hlocale hne hmerged).mpr hrefused)
    refine ⟨code, field, hfield, merged, hmerged, ?_⟩
    exact mem_map.mpr ⟨code, Option.mem_toList.mpr hcode, rfl⟩

/-- Two versions that share a refused field show their order. -/
theorem refusalsUnshared_of_perm (hlocale : IsComparison localeLe)
    (hids : (versions.map ConfigurationVersion.configVersionId).Nodup) {r' : EffectiveConfiguration}
    (h' : resolveVersions rt regExp localeLe definition versions.reverse scopeHierarchy =
      .ok r') (hconflicts : r'.conflicts = r.conflicts) :
    RefusalsUnshared definition versions scopeHierarchy := by
  intro field hrefused
  by_cases hne : fieldCandidates definition versions scopeHierarchy field = []
  · rw [fieldCandidates_eq, append_eq_nil_iff] at hne
    rw [← length_versionCandidates, hne.2]
    exact Nat.zero_le 1
  · obtain ⟨code, hmem⟩ := (unmerged_mem_iff h hlocale).mpr ⟨hne, hrefused, rfl⟩
    rw [← hconflicts] at hmem
    obtain ⟨-, -, hsame⟩ := (unmerged_mem_iff h' hlocale).mp ⟨code, hmem⟩
    rw [fieldCandidates_eq, fieldCandidates_eq, map_append, map_append,
      append_cancel_left_eq, sourceId_versionCandidates, sourceId_versionCandidates,
      filter_reverse, map_reverse] at hsame
    have hnodup : ((versions.filter (carries scopeHierarchy field)).map
        ConfigurationVersion.configVersionId).Nodup :=
      hids.sublist (filter_sublist.map _)
    have hlength := length_le_one_of_reverse hnodup hsame.symm
    rwa [length_map] at hlength

end Result

end Rows

/-- Where all orders of the version rows give one result, every field whose merge
is refused comes from one version at most.  Where `localeCompare` tells the names
of the fields apart, that is the exact condition, and whether there is a result
does not depend on the order. -/
theorem row_order_iff (rt : Runtime) (regExp : String → Option (String → Bool))
    (localeLe : String → String → Bool) (definition : Val)
    (versions : List ConfigurationVersion) (scopeHierarchy : List Scope)
    (hids : (versions.map ConfigurationVersion.configVersionId).Nodup)
    (horder : OrdersNames localeLe (versions.map ConfigurationVersion.configVersionId)) :
    (∀ r, resolveEffectiveConfiguration rt regExp localeLe definition versions scopeHierarchy =
        .ok r →
      (∀ versions' : List ConfigurationVersion, versions'.Perm versions →
        ∃ r', resolveEffectiveConfiguration rt regExp localeLe definition versions'
          scopeHierarchy = .ok r' ∧ SameConfiguration r' r) →
      ∀ read, readDefinition definition = .ok read →
        RefusalsUnshared read versions scopeHierarchy) ∧
    ((∀ read, readDefinition definition = .ok read →
        FieldsApart localeLe read versions scopeHierarchy) →
      (∀ versions' : List ConfigurationVersion, versions'.Perm versions →
        ((∃ r', resolveEffectiveConfiguration rt regExp localeLe definition versions'
            scopeHierarchy = .ok r') ↔
          ∃ r, resolveEffectiveConfiguration rt regExp localeLe definition versions
            scopeHierarchy = .ok r)) ∧
      ∀ r, resolveEffectiveConfiguration rt regExp localeLe definition versions scopeHierarchy =
          .ok r →
        ((∀ versions' : List ConfigurationVersion, versions'.Perm versions →
          ∃ r', resolveEffectiveConfiguration rt regExp localeLe definition versions'
            scopeHierarchy = .ok r' ∧ SameConfiguration r' r) ↔
          ∀ read, readDefinition definition = .ok read →
            RefusalsUnshared read versions scopeHierarchy)) := by
  cases hread : readDefinition definition with
  | error e =>
    have herror : ∀ rows, resolveEffectiveConfiguration rt regExp localeLe definition rows
        scopeHierarchy = .error e := by
      intro rows
      rw [resolveEffectiveConfiguration, hread]
      rfl
    simp [herror]
  | ok read =>
    have hok : ∀ rows, resolveEffectiveConfiguration rt regExp localeLe definition rows
        scopeHierarchy = resolveVersions rt regExp localeLe read rows scopeHierarchy := by
      intro rows
      rw [resolveEffectiveConfiguration, hread, ok_bind]
    simp only [hok, Except.ok.injEq, forall_eq']
    have hunshared : ∀ r, resolveVersions rt regExp localeLe read versions scopeHierarchy = .ok r →
        (∀ versions' : List ConfigurationVersion, versions'.Perm versions →
          ∃ r', resolveVersions rt regExp localeLe read versions' scopeHierarchy = .ok r' ∧
            SameConfiguration r' r) → RefusalsUnshared read versions scopeHierarchy := by
      intro r hr hall
      obtain ⟨r', hr', hsame⟩ := hall versions.reverse (reverse_perm versions)
      exact refusalsUnshared_of_perm hr horder.toIsComparison hids hr' hsame.conflicts
    refine ⟨hunshared, fun hapart => ?_⟩
    have hrows : ∀ versions' : List ConfigurationVersion, versions'.Perm versions →
        Rearranged localeLe read scopeHierarchy versions' versions :=
      fun versions' hperm => ⟨horder, hapart, hids, hperm⟩
    refine ⟨fun versions' hperm => ⟨?_, ?_⟩, fun r hr => ⟨hunshared r hr, ?_⟩⟩
    · rintro ⟨r', hr'⟩
      exact ((hrows versions' hperm).symm.resolved hr').imp fun _ => And.left
    · rintro ⟨r, hr⟩
      exact ((hrows versions' hperm).resolved hr).imp fun _ => And.left
    · intro hrefusals versions' hperm
      obtain ⟨r', hr', hsame⟩ := (hrows versions' hperm).resolved hr
      exact ⟨r', hr', hsame hrefusals⟩

/-! ### Two rows at the platform -/

def platformScope : Scope :=
  { scopeType := .platform, tenantId := none, workspaceId := none, brandKey := none,
    activityTypeKey := none, activityBindingId := none, profileKey := none,
    workflowKey := none, workflowVersion := .null, workflowNodeId := none, planId := none,
    executionId := none, scopeKey := "platform", rank := 0 }

/-- A version that gives one field a number. -/
def platformVersion (configVersionId field : String) (value : Nat) : ConfigurationVersion :=
  { configVersionId, scopeKey := "platform", versionNumber := .ofInt 1,
    versionRevision := .ofNat 1, values := [(field, .num (.ofNat value))],
    distinct := nodup_singleton _ }

/-- The configuration of these versions, with the digested text as its digest. -/
def resolvedAtPlatform (versions : List ConfigurationVersion) : Except Val EffectiveConfiguration :=
  resolveEffectiveConfiguration ⟨id, fun _ => none, fun _ => ""⟩ (fun _ => none) keyLe
    (.obj [("configKey", .str "site.limits"), ("schema", .obj [])]) versions [platformScope]

theorem resolved_rows : ∃ r, resolvedAtPlatform
    [platformVersion "v1" "budget" 5, platformVersion "v2" "limit" 7] = .ok r :=
  exists_of_isOk (by decide +kernel)

theorem row_order_of_two_fields : ∃ r r',
    resolvedAtPlatform [platformVersion "v1" "budget" 5, platformVersion "v2" "limit" 7] =
      .ok r ∧
    resolvedAtPlatform [platformVersion "v2" "limit" 7, platformVersion "v1" "budget" 5] =
      .ok r' ∧
    SameConfiguration r' r := by
  obtain ⟨r, hr⟩ := resolved_rows
  have horder : ∀ names, OrdersNames keyLe names := fun names =>
    { isComparison_keyLe with antisymm := fun _ _ _ _ => keyLe_antisymm }
  have hunshared : ∀ read, RefusalsUnshared read
      [platformVersion "v1" "budget" 5, platformVersion "v2" "limit" 7] [platformScope] := by
    intro read field _
    by_cases hfield : field = "budget"
    · subst hfield
      decide
    · have hcarries : carries [platformScope] field (platformVersion "v1" "budget" 5) =
          false := by
        simp [carries, platformVersion, hfield]
      rw [filter_cons_of_neg (by simp [hcarries])]
      exact length_filter_le _ _
  have hall := (((row_order_iff _ _ keyLe _ _ [platformScope] (by decide) (horder _)).2
    fun _ _ => horder _).2 r hr).mpr fun read _ => hunshared read
  obtain ⟨r', hr', hsame⟩ := hall
    [platformVersion "v2" "limit" 7, platformVersion "v1" "budget" 5] (List.Perm.swap _ _ _)
  exact ⟨r, r', hr, hr', hsame⟩

/-- The ids of a conflict. -/
def Conflict.sourceIds : Conflict → List String
  | .unmerged _ _ sourceIds => sourceIds
  | .schema _ => []

/-- The ids of all conflicts, with the digest. -/
def conflictIds (versions : List ConfigurationVersion) : Option (List (List String) × String) :=
  (resolvedAtPlatform versions).toOption.map fun r =>
    (r.conflicts.map Conflict.sourceIds, r.sha256)

/-- Two values of one rank are a conflict, which lists its sources as the rows
came. -/
theorem shared_conflict_shows_order :
    (conflictIds [platformVersion "v1" "budget" 5, platformVersion "v2" "budget" 7]).map
        Prod.fst = some [["v1", "v2"]] ∧
      (conflictIds [platformVersion "v2" "budget" 7, platformVersion "v1" "budget" 5]).map
        Prod.fst = some [["v2", "v1"]] ∧
      (conflictIds [platformVersion "v1" "budget" 5, platformVersion "v2" "budget" 7]).map
          Prod.snd ≠
        (conflictIds [platformVersion "v2" "budget" 7, platformVersion "v1" "budget" 5]).map
          Prod.snd := by
  refine ⟨by decide +kernel, by decide +kernel, by decide +kernel⟩

end GrowthOs.GrowthControl
