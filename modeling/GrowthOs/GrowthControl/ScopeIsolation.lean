import GrowthOs.GrowthControl.Configuration
import GrowthOs.GrowthControl.Places

/-!
# What a scope key stands for

The scopes that `normalizeGrowthControlScope` accepts stand for the valid
places.  A version is resolved for every context that has its scope key, so the
versions of one place reach another one where the two share a key.
-/

namespace GrowthOs.GrowthControl

open Js Throwing Comparison List

/-! ## The place of a scope -/

variable {text : Option String}

theorem clean_ok {value : Val} (h : clean value = .ok text) : ∀ t ∈ text, IsIdentifier t := by
  simp only [clean, bind_eq_ok] at h
  obtain ⟨raw, -, h⟩ := h
  cases h
  intro t ht
  split at ht
  next => cases ht
  next hne =>
    cases ht
    exact ⟨hne, trimmed_trim raw⟩

theorem clean_identifier {text : String} (h : IsIdentifier text) :
    clean (.str text) = .ok (some text) := by
  have htrim : trim text = text := trim_of_trimmed h.trimmed
  have htext : textOf (.str text) = .ok text := rfl
  rw [clean, htext, ok_bind, htrim, if_neg h.nonempty]

/-- The text of a version in a key. -/
def ScopeFields.version (fields : ScopeFields) : String :=
  match versionText fields.workflowVersion with
  | .ok text => text
  | .error _ => ""

/-- The type of a scope and the identifiers of that type. -/
def ScopeFields.place (fields : ScopeFields) : Place :=
  let t := partOf fields.tenantId
  let w := partOf fields.workspaceId
  let b := partOf fields.brandKey
  let k := partOf fields.workflowKey
  match fields.scopeType with
  | .platform => .platform
  | .activity => .activity (partOf fields.activityTypeKey)
  | .tenant => .tenant t
  | .workspace => .workspace t w
  | .brand => .brand t w b
  | .profile => .profile t w b (partOf fields.profileKey)
  | .workflow => .workflow t w b k fields.version
  | .workflowNode => .workflowNode t w b k fields.version (partOf fields.workflowNodeId)
  | .plan => .plan t w b (partOf fields.planId)
  | .execution => .execution t w b (partOf fields.executionId)

theorem scopeKeyParts_eq (fields : ScopeFields) :
    scopeKeyParts fields fields.version = fields.place.parts := by
  unfold scopeKeyParts ScopeFields.place
  cases fields.scopeType <;> rfl

/-- The identifiers that were read. -/
structure ScopeFields.Clean (fields : ScopeFields) : Prop where
  tenantId : ∀ t ∈ fields.tenantId, IsIdentifier t
  workspaceId : ∀ t ∈ fields.workspaceId, IsIdentifier t
  brandKey : ∀ t ∈ fields.brandKey, IsIdentifier t
  activityTypeKey : ∀ t ∈ fields.activityTypeKey, IsIdentifier t
  activityBindingId : ∀ t ∈ fields.activityBindingId, IsIdentifier t
  profileKey : ∀ t ∈ fields.profileKey, IsIdentifier t
  workflowKey : ∀ t ∈ fields.workflowKey, IsIdentifier t
  workflowNodeId : ∀ t ∈ fields.workflowNodeId, IsIdentifier t
  planId : ∀ t ∈ fields.planId, IsIdentifier t
  executionId : ∀ t ∈ fields.executionId, IsIdentifier t

/-- The names a context or an input gives, read as `normalizeGrowthControlScope`
reads them. -/
def cleanText (value : Val) : String :=
  match clean value with
  | .ok text => partOf text
  | .error _ => ""

theorem cleanText_eq {value : Val} (h : clean value = .ok text) :
    cleanText value = partOf text := by
  rw [cleanText, h]

structure Names where
  tenantId : String
  workspaceId : String
  brandKey : String
  activityTypeKey : String
  profileKey : String
  workflowKey : String
  version : String
  workflowNodeId : String
  planId : String
  executionId : String

def namesOf (input : Val) : Names where
  tenantId := cleanText (either input "tenantId" "tenant_id")
  workspaceId := cleanText (either input "workspaceId" "workspace_id")
  brandKey := cleanText (either input "brandKey" "brand_key")
  activityTypeKey := cleanText (either input "activityTypeKey" "activity_type_key")
  profileKey := cleanText (either input "profileKey" "profile_key")
  workflowKey := cleanText (either input "workflowKey" "workflow_key")
  version :=
    match versionText ((either input "workflowVersion" "workflow_version").coalesce .null) with
    | .ok text => text
    | .error _ => ""
  workflowNodeId := cleanText (either input "workflowNodeId" "workflow_node_id")
  planId := cleanText (either input "planId" "plan_id")
  executionId := cleanText (either input "executionId" "execution_id")

/-- The place of a scope of the given type with these names. -/
def Names.place (names : Names) : ScopeType → Place
  | .platform => .platform
  | .activity => .activity names.activityTypeKey
  | .tenant => .tenant names.tenantId
  | .workspace => .workspace names.tenantId names.workspaceId
  | .brand => .brand names.tenantId names.workspaceId names.brandKey
  | .profile => .profile names.tenantId names.workspaceId names.brandKey names.profileKey
  | .workflow => .workflow names.tenantId names.workspaceId names.brandKey names.workflowKey
      names.version
  | .workflowNode => .workflowNode names.tenantId names.workspaceId names.brandKey
      names.workflowKey names.version names.workflowNodeId
  | .plan => .plan names.tenantId names.workspaceId names.brandKey names.planId
  | .execution => .execution names.tenantId names.workspaceId names.brandKey names.executionId

theorem readScopeFields_ok {input : Val} {fields : ScopeFields}
    (h : readScopeFields input = .ok fields) :
    fields.Clean ∧ fields.place = (namesOf input).place fields.scopeType ∧
      ∃ text, clean (either input "scopeType" "scope_type") = .ok text ∧
        scopeTypeOf text = .ok fields.scopeType := by
  simp only [readScopeFields, bind_eq_ok] at h
  obtain ⟨typeText, htypeText, scopeType, hscopeType, tenantId, htenant, workspaceId,
    hworkspace, brandKey, hbrand, activityTypeKey, hactivity, activityBindingId, hbinding,
    profileKey, hprofile, workflowKey, hworkflow, workflowNodeId, hnode, planId, hplan,
    executionId, hexecution, h⟩ := h
  cases h
  refine ⟨⟨clean_ok htenant, clean_ok hworkspace, clean_ok hbrand, clean_ok hactivity,
    clean_ok hbinding, clean_ok hprofile, clean_ok hworkflow, clean_ok hnode, clean_ok hplan,
    clean_ok hexecution⟩, ?_, typeText, htypeText, hscopeType⟩
  simp only [ScopeFields.place, namesOf, cleanText_eq htenant, cleanText_eq hworkspace,
    cleanText_eq hbrand, cleanText_eq hactivity, cleanText_eq hprofile,
    cleanText_eq hworkflow, cleanText_eq hnode, cleanText_eq hplan, cleanText_eq hexecution,
    ScopeFields.version, Names.place]

theorem isIdentifier_partOf {value : Option String} (hclean : ∀ t ∈ value, IsIdentifier t)
    (hne : value ≠ none) : IsIdentifier (partOf value) := by
  obtain ⟨t, rfl⟩ := Option.ne_none_iff_exists'.mp hne
  exact hclean t rfl

theorem valid_of_requireFields {fields : ScopeFields} (hclean : fields.Clean)
    (h : requireFields fields = .ok ()) : fields.place.Valid := by
  simp only [requireFields, requireScopeField, bind_eq_ok, rejectIf_eq_ok, not_and] at h
  obtain ⟨-, hactivity, -, htenant, -, hworkspace, -, hbrand, -, hprofile, -, hworkflow, -,
    hnode, -, hplan, hexecution⟩ := h
  have ht := fun hmem => isIdentifier_partOf hclean.tenantId (htenant hmem)
  have hw := fun hmem => isIdentifier_partOf hclean.workspaceId (hworkspace hmem)
  have hb := fun hmem => isIdentifier_partOf hclean.brandKey (hbrand hmem)
  have hbrandLevel : ∀ {p : Prop}, fields.scopeType ∈ brandLevel → p →
      IsIdentifier (partOf fields.tenantId) ∧ IsIdentifier (partOf fields.workspaceId) ∧
        IsIdentifier (partOf fields.brandKey) ∧ p :=
    fun hmem hp => ⟨ht (by simp [hmem]), hw (by simp [hmem]), hb hmem, hp⟩
  unfold ScopeFields.place
  cases hscope : fields.scopeType with
  | platform => trivial
  | activity => exact isIdentifier_partOf hclean.activityTypeKey (hactivity (by simp [hscope]))
  | tenant => exact ht (by simp [hscope])
  | workspace => exact ⟨ht (by simp [hscope]), hw (by simp [hscope])⟩
  | brand =>
    have hmem : fields.scopeType ∈ brandLevel := by simp [hscope, brandLevel]
    exact ⟨ht (by simp [hmem]), hw (by simp [hmem]), hb hmem⟩
  | profile =>
    exact hbrandLevel (by simp [hscope, brandLevel])
      (isIdentifier_partOf hclean.profileKey (hprofile (by simp [hscope])))
  | workflow =>
    exact hbrandLevel (by simp [hscope, brandLevel])
      (isIdentifier_partOf hclean.workflowKey (hworkflow (by simp [hscope])))
  | workflowNode =>
    exact hbrandLevel (by simp [hscope, brandLevel])
      ⟨isIdentifier_partOf hclean.workflowKey (hworkflow (by simp [hscope])),
        isIdentifier_partOf hclean.workflowNodeId (hnode (by simp [hscope]))⟩
  | plan =>
    exact hbrandLevel (by simp [hscope, brandLevel])
      (isIdentifier_partOf hclean.planId (hplan (by simp [hscope])))
  | execution =>
    exact hbrandLevel (by simp [hscope, brandLevel])
      (isIdentifier_partOf hclean.executionId (hexecution (by simp [hscope])))

/-- A scope that was accepted. -/
def Accepted (scope : Scope) : Prop :=
  ∃ input, normalizeGrowthControlScope input = .ok scope

variable {scope : Scope}

theorem normalizeGrowthControlScope_ok {input : Val}
    (h : normalizeGrowthControlScope input = .ok scope) :
    scope.place.Valid ∧ scope.scopeKey = scope.place.key ∧
      scope.place = (namesOf input).place scope.scopeType ∧
        ∃ text, clean (either input "scopeType" "scope_type") = .ok text ∧
          scopeTypeOf text = .ok scope.scopeType := by
  simp only [normalizeGrowthControlScope, bind_eq_ok] at h
  obtain ⟨-, -, fields, hfields, _, hrequired, version, hversion, h⟩ := h
  cases h
  obtain ⟨hclean, hplace, htype⟩ := readScopeFields_ok hfields
  have hversion' : fields.version = version := by
    rw [ScopeFields.version, hversion]
  refine ⟨valid_of_requireFields hclean hrequired, ?_, hplace, htype⟩
  rw [← hversion', scopeKeyParts_eq, Place.key]

theorem Accepted.valid (h : Accepted scope) : scope.place.Valid := by
  obtain ⟨input, hinput⟩ := h
  exact (normalizeGrowthControlScope_ok hinput).1

theorem Accepted.scopeKey_eq (h : Accepted scope) : scope.scopeKey = scope.place.key := by
  obtain ⟨input, hinput⟩ := h
  exact (normalizeGrowthControlScope_ok hinput).2.1

/-! ## Every place is accepted -/

/-- A value whose text is the version; `""` itself would stand for `active`. -/
def versionVal (version : String) : Val :=
  if version = "" then .arr [] else .str version

theorem versionText_versionVal (version : String) :
    versionText (versionVal version) = .ok version := by
  by_cases h : version = ""
  · subst h
    rfl
  · simp [versionVal, h, versionText, Val.or, Val.truthy, Val.toStr]

def noFields (scopeType : ScopeType) : ScopeFields :=
  { scopeType, tenantId := none, workspaceId := none, brandKey := none,
    activityTypeKey := none, activityBindingId := none, profileKey := none,
    workflowKey := none, workflowVersion := .null, workflowNodeId := none, planId := none,
    executionId := none }

def brandFields (scopeType : ScopeType) (t w b : String) : ScopeFields :=
  { noFields scopeType with tenantId := some t, workspaceId := some w, brandKey := some b }

def Place.fields : Place → ScopeFields
  | .platform => noFields .platform
  | .activity a => { noFields .activity with activityTypeKey := some a }
  | .tenant t => { noFields .tenant with tenantId := some t }
  | .workspace t w => { noFields .workspace with tenantId := some t, workspaceId := some w }
  | .brand t w b => brandFields .brand t w b
  | .profile t w b p => { brandFields .profile t w b with profileKey := some p }
  | .workflow t w b k v =>
    { brandFields .workflow t w b with workflowKey := some k, workflowVersion := versionVal v }
  | .workflowNode t w b k v n =>
    { brandFields .workflowNode t w b with
      workflowKey := some k, workflowVersion := versionVal v, workflowNodeId := some n }
  | .plan t w b p => { brandFields .plan t w b with planId := some p }
  | .execution t w b e => { brandFields .execution t w b with executionId := some e }

variable (place : Place)

theorem Place.place_fields : place.fields.place = place := by
  cases place <;>
    simp [Place.fields, ScopeFields.place, brandFields, noFields, partOf,
      ScopeFields.version, versionText_versionVal]

theorem Place.requireFields_fields : requireFields place.fields = .ok () := by
  cases place <;>
    simp [Place.fields, requireFields, requireScopeField, rejectIf, brandFields, noFields,
      brandLevel, ok_bind]

theorem Place.exists_versionText :
    ∃ version, versionText place.fields.workflowVersion = .ok version := by
  cases place with
  | workflow t w b k v | workflowNode t w b k v n => exact ⟨v, versionText_versionVal v⟩
  | _ => exact ⟨"active", rfl⟩

theorem Place.fields_clean {place : Place} (h : place.Valid) : place.fields.Clean := by
  cases place <;>
    constructor <;>
      simp_all [Place.fields, brandFields, noFields, Place.Valid]

/-- The input that names these fields. -/
def ScopeFields.input (fields : ScopeFields) : Val :=
  .obj [("scopeType", .str fields.scopeType.text), ("tenantId", optionText fields.tenantId),
    ("workspaceId", optionText fields.workspaceId), ("brandKey", optionText fields.brandKey),
    ("activityTypeKey", optionText fields.activityTypeKey),
    ("activityBindingId", optionText fields.activityBindingId),
    ("profileKey", optionText fields.profileKey), ("workflowKey", optionText fields.workflowKey),
    ("workflowVersion", fields.workflowVersion),
    ("workflowNodeId", optionText fields.workflowNodeId), ("planId", optionText fields.planId),
    ("executionId", optionText fields.executionId)]

theorem clean_optionText (h : ∀ t ∈ text, IsIdentifier t) :
    clean ((optionText text).coalesce .undefined) = .ok text := by
  cases text with
  | none => rfl
  | some t => exact clean_identifier (h t rfl)

variable (scopeType : ScopeType)

theorem scopeTypeOf_text : scopeTypeOf (some scopeType.text) = .ok scopeType := by
  cases scopeType <;> rfl

theorem isIdentifier_scopeType : IsIdentifier scopeType.text := by
  refine ⟨by cases scopeType <;> decide, ?_, ?_⟩
  all_goals
    intro c hc
    cases scopeType <;>
    · simp [ScopeType.text] at hc
      subst hc
      decide

theorem readScopeFields_input {fields : ScopeFields} (hclean : fields.Clean)
    (hversion : (fields.workflowVersion.coalesce .undefined).coalesce .null =
      fields.workflowVersion) : readScopeFields fields.input = .ok fields := by
  have hversion' : (either fields.input "workflowVersion" "workflow_version").coalesce .null =
      fields.workflowVersion := hversion
  simp only [readScopeFields, bind_eq_ok, hversion']
  exact ⟨_, clean_identifier (isIdentifier_scopeType _), _, scopeTypeOf_text _,
    _, clean_optionText hclean.tenantId, _, clean_optionText hclean.workspaceId,
    _, clean_optionText hclean.brandKey, _, clean_optionText hclean.activityTypeKey,
    _, clean_optionText hclean.activityBindingId, _, clean_optionText hclean.profileKey,
    _, clean_optionText hclean.workflowKey, _, clean_optionText hclean.workflowNodeId,
    _, clean_optionText hclean.planId, _, clean_optionText hclean.executionId, rfl⟩

theorem Place.coalesce_version :
    (place.fields.workflowVersion.coalesce .undefined).coalesce .null =
      place.fields.workflowVersion := by
  have hval : ∀ version, ((versionVal version).coalesce .undefined).coalesce .null =
      versionVal version := by
    intro version
    unfold versionVal
    split <;> rfl
  cases place with
  | workflow t w b k v | workflowNode t w b k v n => exact hval v
  | _ => rfl

/-- Every valid place is the place of an accepted scope. -/
theorem Place.exists_accepted {place : Place} (h : place.Valid) :
    ∃ scope, Accepted scope ∧ scope.place = place := by
  obtain ⟨version, hversion⟩ := place.exists_versionText
  refine ⟨{ place.fields with
      scopeKey := ":".intercalate (scopeKeyParts place.fields version)
      rank := place.fields.scopeType.rank }, ⟨place.fields.input, ?_⟩, place.place_fields⟩
  have hinput : scopeInput place.fields.input = .ok () := rfl
  rw [normalizeGrowthControlScope, hinput, ok_bind,
    readScopeFields_input (fields_clean h) place.coalesce_version, ok_bind,
    place.requireFields_fields, ok_bind, hversion, ok_bind]

/-! ## The scopes of a context -/

theorem mem_scopeIf {condition : Bool} {input : Val} {scopes : List Scope}
    (h : scopeIf condition input = .ok scopes) (hmem : scope ∈ scopes) :
    condition = true ∧ normalizeGrowthControlScope input = .ok scope := by
  unfold scopeIf at h
  split at h
  next hcondition =>
    obtain ⟨own, hown, h⟩ := bind_eq_ok.mp h
    cases h
    obtain rfl := mem_singleton.mp hmem
    exact ⟨hcondition, hown⟩
  next =>
    cases h
    cases hmem

variable {scopeType} {context : Val} {name : String}

theorem member_withScopeType (htype : name ≠ "scopeType") (hlength : name ≠ "length") :
    (withScopeType scopeType context).member name = context.member name := by
  have hfields : (withScopeType scopeType context).member name =
      Val.lookup context.ownFields name := by
    unfold withScopeType
    split
    next => rfl
    next => simp [Val.member, Val.lookup, htype.symm]
  rw [hfields]
  cases context <;> simp [Val.ownFields, Val.member, hlength, Val.lookup]

theorem namesOf_withScopeType (context : Val) :
    namesOf (withScopeType scopeType context) = namesOf context := by
  simp [namesOf, either, member_withScopeType]

theorem place_of_withScopeType
    (h : normalizeGrowthControlScope (withScopeType scopeType context) = .ok scope) :
    scope.place = (namesOf context).place scope.scopeType := by
  rw [(normalizeGrowthControlScope_ok h).2.2.1, namesOf_withScopeType]

variable {names : List String}

theorem member_scopeOf (htype : name ≠ "scopeType") (hmem : name ∈ names) :
    (scopeOf scopeType context names).member name = context.member name := by
  have hlookup : ∀ names : List String, name ∈ names →
      Val.lookup (names.map fun name => (name, context.member name)) name =
        context.member name := by
    intro names hmem
    induction names with
    | nil => cases hmem
    | cons head names ih =>
      by_cases hhead : head = name
      · simp [Val.lookup, hhead]
      · rw [map_cons, Val.lookup, if_neg hhead]
        exact ih ((mem_cons.mp hmem).resolve_left (Ne.symm hhead))
  have hcons : (scopeOf scopeType context names).member name =
      Val.lookup (names.map fun name => (name, context.member name)) name := by
    rw [scopeOf, Val.member, Val.lookup, if_neg htype.symm]
  rw [hcons, hlookup names hmem]

theorem either_of_truthy {input : Val} {camel snake : String}
    (h : (input.member camel).truthy = true) : either input camel snake = input.member camel := by
  unfold either
  cases hval : input.member camel with
  | undefined | null => simp [hval, Val.truthy] at h
  | _ => rfl

theorem either_scopeOf {camel : String} (snake : String) (htype : camel ≠ "scopeType")
    (hmem : camel ∈ names) (hall : hasAll context names = true) :
    either (scopeOf scopeType context names) camel snake = either context camel snake := by
  have htruthy := all_eq_true.mp hall camel hmem
  have hmember : (scopeOf scopeType context names).member camel = context.member camel :=
    member_scopeOf htype hmem
  rw [either_of_truthy htruthy, either_of_truthy (by rw [hmember]; exact htruthy), hmember]

theorem scopeType_scopeOf
    (h : normalizeGrowthControlScope (scopeOf scopeType context names) = .ok scope) :
    scope.scopeType = scopeType := by
  obtain ⟨-, -, -, text, htext, htype⟩ := normalizeGrowthControlScope_ok h
  have hown : clean (either (scopeOf scopeType context names) "scopeType" "scope_type") =
      .ok (some scopeType.text) := clean_identifier (isIdentifier_scopeType scopeType)
  cases hown.symm.trans htext
  exact (Except.ok.inj ((scopeTypeOf_text scopeType).symm.trans htype)).symm

/-- The scopes that are made from fields the context has, with these fields. -/
def namedScopes : List (ScopeType × List String) :=
  [(.platform, []), (.activity, ["activityTypeKey"]), (.tenant, ["tenantId"]),
    (.workspace, ["tenantId", "workspaceId"]),
    (.brand, ["tenantId", "workspaceId", "brandKey"])]

theorem place_of_scopeOf (entry : ScopeType × List String) (hentry : entry ∈ namedScopes)
    (hall : hasAll context entry.2 = true)
    (h : normalizeGrowthControlScope (scopeOf entry.1 context entry.2) = .ok scope) :
    scope.place = (namesOf context).place scope.scopeType := by
  have htype := scopeType_scopeOf h
  rw [(normalizeGrowthControlScope_ok h).2.2.1, htype]
  have heither : ∀ camel snake, camel ≠ "scopeType" → camel ∈ entry.2 →
      either (scopeOf entry.1 context entry.2) camel snake = either context camel snake :=
    fun camel snake hne hmem => either_scopeOf snake hne hmem hall
  simp only [namedScopes, mem_cons, not_mem_nil, or_false] at hentry
  rcases hentry with rfl | rfl | rfl | rfl | rfl
  · rfl
  · simp [Names.place, namesOf, heither "activityTypeKey"]
  · simp [Names.place, namesOf, heither "tenantId"]
  · simp [Names.place, namesOf, heither "tenantId", heither "workspaceId"]
  · simp [Names.place, namesOf, heither "tenantId", heither "workspaceId", heither "brandKey"]

variable {hierarchy : List Scope}

/-- The scopes of a context are accepted, and their places share one set of
names. -/
theorem mem_hierarchy (h : buildGrowthControlScopeHierarchy context = .ok hierarchy)
    (hmem : scope ∈ hierarchy) :
    Accepted scope ∧ scope.place = (namesOf context).place scope.scopeType := by
  simp only [buildGrowthControlScopeHierarchy, bind_eq_ok] at h
  obtain ⟨-, -, platform, hplatform, activity, hactivity, tenant, htenant, workspace,
    hworkspace, brand, hbrand, profile, hprofile, workflow, hworkflow, workflowNode, hnode,
    plan, hplan, execution, hexecution, h⟩ := h
  cases h
  have hnamed : ∀ (entry : ScopeType × List String) {scopes : List Scope},
      entry ∈ namedScopes →
      scopeIf (hasAll context entry.2) (scopeOf entry.1 context entry.2) = .ok scopes →
      scope ∈ scopes →
      Accepted scope ∧ scope.place = (namesOf context).place scope.scopeType := by
    intro entry scopes hentry hscopes hmem
    obtain ⟨hall, hnormal⟩ := mem_scopeIf hscopes hmem
    exact ⟨⟨_, hnormal⟩, place_of_scopeOf entry hentry hall hnormal⟩
  have hspread : ∀ {scopeType : ScopeType} {condition : Bool} {scopes : List Scope},
      scopeIf condition (withScopeType scopeType context) = .ok scopes → scope ∈ scopes →
      Accepted scope ∧ scope.place = (namesOf context).place scope.scopeType := by
    intro scopeType condition scopes hscopes hmem
    obtain ⟨-, hnormal⟩ := mem_scopeIf hscopes hmem
    exact ⟨⟨_, hnormal⟩, place_of_withScopeType hnormal⟩
  simp only [mem_sortBy, mem_append, mem_singleton, or_assoc] at hmem
  rcases hmem with rfl | hmem | hmem | hmem | hmem | hmem | hmem | hmem | hmem | hmem
  · exact ⟨⟨_, hplatform⟩, place_of_scopeOf (.platform, []) (by simp [namedScopes]) rfl hplatform⟩
  · exact hnamed (.activity, _) (by simp [namedScopes]) hactivity hmem
  · exact hnamed (.tenant, _) (by simp [namedScopes]) htenant hmem
  · exact hnamed (.workspace, _) (by simp [namedScopes]) hworkspace hmem
  · exact hnamed (.brand, _) (by simp [namedScopes]) hbrand hmem
  · exact hspread hprofile hmem
  · exact hspread hworkflow hmem
  · exact hspread hnode hmem
  · exact hspread hplan hmem
  · exact hspread hexecution hmem

theorem join_cons_inj (part x y : String) (xs ys : List String) :
    ":".intercalate (part :: x :: xs) = ":".intercalate (part :: y :: ys) ↔
      ":".intercalate (x :: xs) = ":".intercalate (y :: ys) := by
  simp only [String.intercalate_cons_of_ne_nil, ne_eq, reduceCtorEq, not_false_eq_true,
    String.append_right_inj]

theorem join_singleton_ne (part y : String) (ys : List String) :
    ":".intercalate [part] ≠ ":".intercalate (part :: y :: ys) := by
  intro h
  have hlist := congrArg String.toList h
  simp [String.intercalate_cons_of_ne_nil] at hlist

theorem join_label_eq {label label' : String} {xs ys : List String} (h : ':' ∉ label.toList)
    (h' : ':' ∉ label'.toList)
    (heq : ":".intercalate (label :: xs) = ":".intercalate (label' :: ys)) : label = label' := by
  have hfirst : ∀ (label : String) (xs : List String), ':' ∉ label.toList →
      (":".intercalate (label :: xs)).toList.takeWhile (· != ':') = label.toList := by
    intro label xs hfree
    have hlabel : ∀ c ∈ label.toList, (c != ':') = true := by
      intro c hc
      simpa using fun hcolon : c = ':' => hfree (hcolon ▸ hc)
    cases xs with
    | nil =>
      rw [String.intercalate_singleton, ← append_nil label.toList,
        takeWhile_append_of_pos hlabel]
      simp
    | cons x xs =>
      rw [String.intercalate_cons_of_ne_nil (by simp), String.toList_append,
        String.toList_append, append_assoc, takeWhile_append_of_pos hlabel]
      simp
  apply String.toList_injective
  rw [← hfirst label xs h, ← hfirst label' ys h', heq]

/-- With one set of names no two types share a key. -/
theorem Names.scopeType_eq {names : Names} {a b : ScopeType}
    (h : (names.place a).key = (names.place b).key) : a = b := by
  cases a <;> cases b <;>
    simp only [Names.place, Place.key, Place.parts, join_cons_inj, join_singleton_ne,
      (join_singleton_ne _ _ _).symm, reduceCtorEq] at h ⊢
  all_goals exact absurd (join_label_eq (by decide) (by decide) h) (by decide)

/-! ## Isolation -/

theorem takesPart_iff {scopeHierarchy : List Scope} {version : ConfigurationVersion} :
    takesPart scopeHierarchy version = true ↔
      ∃ own ∈ scopeHierarchy, own.scopeKey = version.scopeKey := by
  simp [takesPart, scopeRank, List.find?_isSome]

/-- The versions that take no part leave no trace. -/
theorem fieldEntries_filter (definition : Definition) (versions : List ConfigurationVersion)
    (scopeHierarchy : List Scope) :
    fieldEntries definition (versions.filter (takesPart scopeHierarchy)) scopeHierarchy =
      fieldEntries definition versions scopeHierarchy := by
  unfold fieldEntries
  congr 1
  induction versions with
  | nil => rfl
  | cons version versions ih =>
    rw [filter_cons]
    split
    next => rw [flatMap_cons, flatMap_cons, ih]
    next hpart =>
      have hnone : scopeRank scopeHierarchy version.scopeKey = none := by
        simpa [takesPart] using hpart
      rw [flatMap_cons, ih, versionEntries, hnone, nil_append]

theorem Accepted.unique_iff (h : Accepted scope) :
    (∀ other, Accepted other → other.scopeKey = scope.scopeKey → other.place = scope.place) ↔
      scope.place.Safe := by
  rw [← Place.keyIsUnique_iff h.valid]
  constructor
  · intro hscopes place hvalid hkey
    obtain ⟨other, hother, rfl⟩ := Place.exists_accepted hvalid
    exact hscopes other hother (by rw [hother.scopeKey_eq, h.scopeKey_eq, hkey])
  · intro hunique other hother hkey
    refine hunique other.place hother.valid ?_
    rw [← hother.scopeKey_eq, ← h.scopeKey_eq, hkey]

/-- Two scopes of one context with one key stand for one place. -/
theorem place_eq_of_hierarchy {own own' : Scope}
    (h : buildGrowthControlScopeHierarchy context = .ok hierarchy) (hown : own ∈ hierarchy)
    (hown' : own' ∈ hierarchy) (hkey : own.place.key = own'.place.key) :
    own.place = own'.place := by
  have hplace := (mem_hierarchy h hown).2
  have hplace' := (mem_hierarchy h hown').2
  rw [hplace, hplace'] at hkey ⊢
  rw [Names.scopeType_eq hkey]

/-- A version of a place that is none of the context's own is resolved for the
context, unless the keys of all its scopes are their own. -/
theorem hierarchy_isolated_iff (h : buildGrowthControlScopeHierarchy context = .ok hierarchy) :
    (∀ (version : ConfigurationVersion) (stored : Scope), Accepted stored →
      version.scopeKey = stored.scopeKey → takesPart hierarchy version = true →
      ∃ own ∈ hierarchy, own.place = stored.place) ↔
      ∀ own ∈ hierarchy, own.place.Safe := by
  constructor
  · intro hisolated own hown
    have haccepted := (mem_hierarchy h hown).1
    refine haccepted.unique_iff.mp fun other hother hkey => ?_
    let version : ConfigurationVersion :=
      { configVersionId := "", scopeKey := other.scopeKey, versionNumber := .ofInt 1,
        versionRevision := .ofNat 1, values := [], distinct := nodup_nil }
    obtain ⟨own', hown', hplace⟩ := hisolated version other hother rfl
      (takesPart_iff.mpr ⟨own, hown, hkey.symm⟩)
    rw [← hplace]
    refine place_eq_of_hierarchy h hown' hown ?_
    rw [hplace, ← hother.scopeKey_eq, ← haccepted.scopeKey_eq, hkey]
  · intro hsafe version stored hstored hkey hpart
    obtain ⟨own, hown, hownKey⟩ := takesPart_iff.mp hpart
    refine ⟨own, hown, ?_⟩
    have haccepted := (mem_hierarchy h hown).1
    exact (haccepted.unique_iff.mpr (hsafe own hown) stored hstored
      (hkey.symm.trans hownKey.symm)).symm

/-- A scope key stands for one type and one set of identifiers exactly where the
place is safe; the versions of other places are kept from a context exactly
where all its own places are. -/
theorem scope_isolation_iff (scope : Scope) (context : Val) (hierarchy : List Scope)
    (rt : Runtime) (regExp : String → Option (String → Bool))
    (localeLe : String → String → Bool) (definition : Val) (versions : List ConfigurationVersion) :
    (Accepted scope → ((∀ other, Accepted other → other.scopeKey = scope.scopeKey →
        other.place = scope.place) ↔ scope.place.Safe)) ∧
    (buildGrowthControlScopeHierarchy context = .ok hierarchy →
      ((∀ (version : ConfigurationVersion) (stored : Scope), Accepted stored →
        version.scopeKey = stored.scopeKey → takesPart hierarchy version = true →
        ∃ own ∈ hierarchy, own.place = stored.place) ↔
        ∀ own ∈ hierarchy, own.place.Safe)) ∧
    (∀ other, Accepted scope → Accepted other → scope.place.ColonFree →
      other.place.ColonFree → scope.scopeKey = other.scopeKey → scope.place = other.place) ∧
    resolveEffectiveConfiguration rt regExp localeLe definition
        (versions.filter (takesPart hierarchy)) hierarchy =
      resolveEffectiveConfiguration rt regExp localeLe definition versions hierarchy := by
  refine ⟨fun h => h.unique_iff, fun h => hierarchy_isolated_iff h, ?_, ?_⟩
  · intro other hscope hother hfree hfree' hkey
    rw [hscope.scopeKey_eq, hother.scopeKey_eq] at hkey
    exact Place.key_injective hfree hfree' hkey
  · simp only [resolveEffectiveConfiguration, resolveVersions, fieldEntries_filter]

/-- The places of the scopes of a context, where they can be built. -/
def hierarchyPlaces (context : Val) : Option (List Place) :=
  (buildGrowthControlScopeHierarchy context).toOption.map fun scopes =>
    scopes.map fun scope => scope.place

theorem exists_hierarchy {places : List Place} (h : hierarchyPlaces context = some places) :
    ∃ hierarchy, buildGrowthControlScopeHierarchy context = .ok hierarchy ∧
      hierarchy.map (fun scope => scope.place) = places := by
  unfold hierarchyPlaces at h
  cases hbuild : buildGrowthControlScopeHierarchy context with
  | error e => simp [hbuild, Except.toOption] at h
  | ok hierarchy => simpa [hbuild, Except.toOption] using h

theorem safe_tenant_t1 : (Place.tenant "t1").Safe := by
  intro x y _ _ heq
  have hlength := congrArg String.length heq
  simp only [String.length_append] at hlength
  have hworkspace : ":workspace:".length = 11 := rfl
  have ht1 : "t1".length = 2 := rfl
  omega

theorem isolated_tenant_t1 : ∃ hierarchy,
    buildGrowthControlScopeHierarchy (.obj [("tenantId", .str "t1")]) = .ok hierarchy ∧
      ∀ (version : ConfigurationVersion) (stored : Scope), Accepted stored →
        version.scopeKey = stored.scopeKey → takesPart hierarchy version = true →
        ∃ own ∈ hierarchy, own.place = stored.place := by
  obtain ⟨hierarchy, hbuild, hplaces⟩ :=
    exists_hierarchy (show hierarchyPlaces (.obj [("tenantId", .str "t1")]) =
      some [.platform, .tenant "t1"] by decide +kernel)
  obtain ⟨scope, -⟩ := Place.exists_accepted (show Place.platform.Valid from trivial)
  have hisolated := (scope_isolation_iff scope _ hierarchy ⟨id, fun _ => none, fun _ => ""⟩
    (fun _ => none) keyLe .null []).2.1 hbuild
  refine ⟨hierarchy, hbuild, hisolated.mpr ?_⟩
  intro own hown
  have hplace : own.place ∈ [Place.platform, .tenant "t1"] :=
    hplaces ▸ mem_map_of_mem hown
  simp only [mem_cons, not_mem_nil, or_false] at hplace
  obtain hplace | hplace := hplace <;> rw [hplace]
  · trivial
  · exact safe_tenant_t1

/-- A version stored for the tenant `t1:workspace:w1`. -/
def foreignVersion : ConfigurationVersion :=
  { configVersionId := "v1", scopeKey := "tenant:t1:workspace:w1", versionNumber := .ofInt 1,
    versionRevision := .ofNat 1, values := [("budget", .num (.ofNat 5))],
    distinct := nodup_singleton _ }

/-- The fields that are resolved for a context. -/
def resolvedFields (context : Val) (versions : List ConfigurationVersion) :
    Option (List String) := do
  let hierarchy ← (buildGrowthControlScopeHierarchy context).toOption
  let resolved ← (resolveEffectiveConfiguration ⟨id, fun _ => none, fun _ => ""⟩
    (fun _ => none) keyLe (.obj [("configKey", .str "site.limits"), ("schema", .obj [])])
    versions hierarchy).toOption
  some (resolved.values.map Prod.fst)

/-- A version of the tenant `t1:workspace:w1` gives a value to workspace `w1` of
tenant `t1`. -/
theorem version_of_other_tenant_resolved : ∃ hierarchy stored,
    buildGrowthControlScopeHierarchy
      (.obj [("tenantId", .str "t1"), ("workspaceId", .str "w1")]) = .ok hierarchy ∧
    hierarchy.map (fun scope => scope.place) = [.platform, .tenant "t1", .workspace "t1" "w1"] ∧
    normalizeGrowthControlScope (.obj [("scopeType", .str "tenant"),
      ("tenantId", .str "t1:workspace:w1")]) = .ok stored ∧
    stored.place = .tenant "t1:workspace:w1" ∧
    foreignVersion.scopeKey = stored.scopeKey ∧ takesPart hierarchy foreignVersion = true ∧
    resolvedFields (.obj [("tenantId", .str "t1"), ("workspaceId", .str "w1")])
      [foreignVersion] = some ["budget"] ∧
    resolvedFields (.obj [("tenantId", .str "t1"), ("workspaceId", .str "w1")]) [] = some [] := by
  obtain ⟨hierarchy, hbuild, hplaces⟩ :=
    exists_hierarchy (show hierarchyPlaces
      (.obj [("tenantId", .str "t1"), ("workspaceId", .str "w1")]) =
        some [.platform, .tenant "t1", .workspace "t1" "w1"] by decide +kernel)
  have hpart : takesPart hierarchy foreignVersion = true := by
    have hmem : Place.workspace "t1" "w1" ∈ hierarchy.map fun scope => scope.place := by
      simp [hplaces]
    obtain ⟨own, hown, hplace⟩ := mem_map.mp hmem
    refine takesPart_iff.mpr ⟨own, hown, ?_⟩
    rw [(mem_hierarchy hbuild hown).1.scopeKey_eq, hplace]
    rfl
  exact ⟨hierarchy, _, hbuild, hplaces, rfl, rfl, rfl, hpart, by decide +kernel,
    by decide +kernel⟩

end GrowthOs.GrowthControl
