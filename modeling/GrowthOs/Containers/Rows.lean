import GrowthOs.Containers.Metadata
import GrowthOs.Support.UniqueTable

/-!
# The container authority tables

The rows of the tables behind `dynamicContainerAuthorityRepository.js`, with
the columns that its functions and those of the resolver read or write, and
`loadContainerAuthorityState`, which selects what is active and valid now.
Times are whole seconds, as a `DATETIME` column keeps them.
-/

namespace GrowthOs.Containers

open Js Table

/-- What the code takes from its database: which texts compare equal, and the
time a `DATETIME` column stores for a parameter, `none` where the statement
fails. -/
structure Sql where
  collate : String → String
  datetime : Val → Option Nat

/-! ## Columns of an enumerated type -/

inductive RowStatus
  | draft | active | disabled | deprecated | archived | revoked | expired
deriving DecidableEq, Repr

def RowStatus.isActive (status : RowStatus) : Bool :=
  status == .active

inductive RelationshipClass
  | containment | sharing | delegation | reference | management
deriving DecidableEq, Repr

inductive InheritanceMode
  | localOnly | inheritDown | explicitShare | blockInheritance
  | inheritUntilBlocked | registryDefault
deriving DecidableEq, Repr

def InheritanceMode.text : InheritanceMode → String
  | .localOnly => "local_only"
  | .inheritDown => "inherit_down"
  | .explicitShare => "explicit_share"
  | .blockInheritance => "block_inheritance"
  | .inheritUntilBlocked => "inherit_until_blocked"
  | .registryDefault => "registry_default"

inductive BindingEffect
  | allow | deny | restrict | require | share | delegate
deriving DecidableEq, Repr

def BindingEffect.text : BindingEffect → String
  | .allow => "allow"
  | .deny => "deny"
  | .restrict => "restrict"
  | .require => "require"
  | .share => "share"
  | .delegate => "delegate"

def BindingEffect.all : List BindingEffect :=
  [.allow, .deny, .restrict, .require, .share, .delegate]

def BindingEffect.ofText (text : String) : Option BindingEffect :=
  BindingEffect.all.find? fun effect => effect.text == text

inductive MergeStrategy
  | denyWins | union | intersection | minimum | maximum | nearestReplace
  | priorityReplace
deriving DecidableEq, Repr

def MergeStrategy.text : MergeStrategy → String
  | .denyWins => "deny_wins"
  | .union => "union"
  | .intersection => "intersection"
  | .minimum => "minimum"
  | .maximum => "maximum"
  | .nearestReplace => "nearest_replace"
  | .priorityReplace => "priority_replace"

/-- What a column of an enumerated type stores for a text, which the collation
compares with each of its values. -/
def enumColumn {α : Type} (sql : Sql) (values : List α) (text : α → String)
    (given : String) : Option α :=
  values.find? fun value => sql.collate (text value) == sql.collate given

/-- What an `INT` column stores for a number. -/
def intColumn : Number → Option Int
  | .finite d =>
    if -2147483648 ≤ d.round ∧ d.round ≤ 2147483647 then some d.round else none
  | _ => none

/-! ## JSON columns -/

/-- `normalizeRowJson` on one column: `none` stands for `NULL`, an empty text
and a text that does not parse. -/
def jsonColumn (column : Option Val) : Val :=
  column.getD (.obj [])

def nonEmptyTexts (items : List Val) : Except Val (List String) := do
  let texts ← items.mapM Val.toStr
  .ok (texts.filter fun text => text != "")

/-- `parseStringArray(value)`; a text is parsed inside a `try`. -/
def parseStringArray : Val → Except Val (List String)
  | .arr items => nonEmptyTexts items
  | .str s =>
    if trim s = "" then .ok []
    else
      match jsonParse s with
      | some (.arr items) =>
        match nonEmptyTexts items with
        | .ok texts => .ok texts
        | .error _ => .ok []
      | _ => .ok []
  | _ => .ok []

/-! ## Registries -/

structure ContainerRow where
  containerId : String
  tenantId : String
  containerTypeKey : String
  status : RowStatus
  version : Nat

structure ContainerTypeRow where
  containerTypeKey : String
  allowedParentTypesJson : Option Val
  allowedChildTypesJson : Option Val
  supportsMultiParent : Int
  status : RowStatus
  version : Nat

structure RelationshipTypeRow where
  relationshipTypeKey : String
  relationshipClass : RelationshipClass
  contributesToAncestry : Int
  requiresApproval : Int
  status : RowStatus
  version : Nat

structure ClassificationTypeRow where
  classificationTypeKey : String
  valueSchemaJson : Option Val
  eligibleContainerTypesJson : Option Val
  mergeStrategy : MergeStrategy
  status : RowStatus
  version : Nat

structure ClassificationRow where
  classificationId : String
  tenantId : String
  containerId : String
  classificationTypeKey : String
  valueJson : Option Val
  inheritanceMode : InheritanceMode
  mergePriority : Int
  validFrom : Option Nat
  validUntil : Option Nat
  status : RowStatus
  version : Nat

structure RoleTemplateRow where
  roleTemplateKey : String
  compositionJson : Option Val
  authorityRank : Nat
  eligibleContainerTypesJson : Option Val
  status : RowStatus
  version : Nat

structure RolePermissionRow where
  roleTemplateKey : String
  dimensionKey : String
  permissionKey : String
  effect : BindingEffect
  operationPatternsJson : Option Val
  mergePriority : Int
  status : RowStatus

structure DimensionRow where
  dimensionKey : String
  supportsSharing : Int
  supportsDelegation : Int
  defaultMergeStrategy : MergeStrategy
  overrideAllowed : Int
  status : RowStatus
  version : Nat

/-- A row of `agents`. -/
structure AgentRow where
  agentId : String
  status : String

/-- A row of `workflows`. -/
structure WorkflowRow where
  workflowId : String
  workflowKey : String
  status : Val
  active : Val

/-- The tables that no function modelled here writes. -/
structure Registry where
  containers : List ContainerRow
  containerTypes : List ContainerTypeRow
  relationshipTypes : List RelationshipTypeRow
  classificationTypes : List ClassificationTypeRow
  classifications : List ClassificationRow
  roleTemplates : List RoleTemplateRow
  rolePermissions : List RolePermissionRow
  dimensions : List DimensionRow
  agents : List AgentRow
  workflows : List WorkflowRow

/-! ## Tables with validity windows -/

structure RelationshipRow where
  relationshipId : String
  tenantId : String
  fromContainerId : String
  toContainerId : String
  relationshipTypeKey : String
  priority : Int
  conditionsJson : Option Val
  validFrom : Option Nat
  validUntil : Option Nat
  status : RowStatus
  version : Nat
  createdBy : Val
  approvedBy : Val
  metadataJson : Option Val

structure RoleAssignmentRow where
  assignmentId : String
  tenantId : String
  containerId : String
  principalType : PrincipalType
  principalId : String
  roleTemplateKey : Option String
  inlinePermissionsJson : Option Val
  inheritanceMode : InheritanceMode
  validFrom : Option Nat
  validUntil : Option Nat
  status : RowStatus
  version : Nat
  issuedBy : Val
  approvedBy : Val
  metadataJson : Option Val

structure BindingRow where
  bindingId : String
  tenantId : String
  containerId : String
  dimensionKey : String
  resourceType : String
  resourceRef : String
  effect : BindingEffect
  permissionKey : Option String
  operationPatternsJson : Option Val
  capabilityKeysJson : Option Val
  inheritanceMode : InheritanceMode
  mergePriority : Int
  conditionsJson : Option Val
  validFrom : Option Nat
  validUntil : Option Nat
  status : RowStatus
  version : Nat
  sourceTable : Val
  sourcePk : Val
  delegatedByPrincipalType : Option PrincipalType
  delegatedByPrincipalId : Option String
  delegatorResolutionId : Option String
  delegationRelationshipId : Option String
  createdBy : Val
  approvedBy : Val
  metadataJson : Option Val

variable (sql : Sql)

/-- The primary keys. -/
def relationshipKeys : List (RelationshipRow → Option (List String)) :=
  [fun row => some [sql.collate row.relationshipId]]

def roleAssignmentKeys : List (RoleAssignmentRow → Option (List String)) :=
  [fun row => some [sql.collate row.assignmentId]]

def bindingKeys : List (BindingRow → Option (List String)) :=
  [fun row => some [sql.collate row.bindingId]]

/-- A row of `container_closure`. -/
structure ClosureRow where
  tenantId : String
  ancestorContainerId : String
  descendantContainerId : String
  shortestDepth : Nat
  longestDepth : Nat
  pathCount : Nat
  pathHash : String
  authorityEpoch : Nat

/-- A row of `container_authority_epochs`. -/
structure EpochRow where
  tenantId : String
  authorityEpoch : Nat

/-- A row of `container_authority_idempotency`. -/
structure IdempotencyRow where
  scopeKey : String
  idempotencyKey : String
  requestSha256 : String
  resultType : String
  resultId : String
  responseJson : Val
  expiresAt : Nat

/-- The tables the mutations write, and the clock. -/
structure AuthorityStore where
  relationships : UniqueTable (relationshipKeys sql)
  roleAssignments : UniqueTable (roleAssignmentKeys sql)
  bindings : UniqueTable (bindingKeys sql)
  epochs : List EpochRow
  closure : List ClosureRow
  idempotency : List IdempotencyRow
  now : Nat

/-! ## What is active and valid -/

/-- `(valid_from IS NULL OR valid_from<=now) AND (valid_until IS NULL OR
valid_until>now)`. -/
def validAt (now : Nat) (validFrom validUntil : Option Nat) : Bool :=
  (validFrom.all fun t => decide (t ≤ now)) && validUntil.all fun t => decide (now < t)

theorem validAt_iff {now : Nat} {validFrom validUntil : Option Nat} :
    validAt now validFrom validUntil = true ↔
      (∀ t, validFrom = some t → t ≤ now) ∧ ∀ t, validUntil = some t → now < t := by
  unfold validAt
  rw [Bool.and_eq_true]
  constructor
  · rintro ⟨hfrom, huntil⟩
    constructor
    · rintro t rfl
      exact of_decide_eq_true hfrom
    · rintro t rfl
      exact of_decide_eq_true huntil
  · rintro ⟨hfrom, huntil⟩
    constructor
    · cases validFrom with
      | none => rfl
      | some t => exact decide_eq_true (hfrom t rfl)
    · cases validUntil with
      | none => rfl
      | some t => exact decide_eq_true (huntil t rfl)

/-- What `loadContainerAuthorityState` returns. -/
structure AuthorityState where
  tenantId : String
  target : Option ContainerRow
  containers : List ContainerRow
  containerTypes : List ContainerTypeRow
  relationships : List RelationshipRow
  relationshipTypes : List RelationshipTypeRow
  classificationTypes : List ClassificationTypeRow
  classifications : List ClassificationRow
  roleAssignments : List RoleAssignmentRow
  roleTemplates : List RoleTemplateRow
  rolePermissions : List RolePermissionRow
  dimensions : List DimensionRow
  bindings : List BindingRow
  authorityEpoch : Nat

variable {sql}

/-- `Number(epochRows[0]?.authority_epoch || 0)`. -/
def readContainerAuthorityEpoch (s : AuthorityStore sql) (tenantId : String) : Nat :=
  ((s.epochs.find? fun row =>
    sql.collate row.tenantId == sql.collate tenantId).map (·.authorityEpoch)).getD 0

/-- The relationships of a tenant that are active and valid now. -/
def loadedRelationships (s : AuthorityStore sql) (tenantId : String) : List RelationshipRow :=
  s.relationships.rows.filter fun row =>
    sql.collate row.tenantId == sql.collate tenantId && row.status.isActive &&
      validAt s.now row.validFrom row.validUntil

def loadedContainers (sql : Sql) (reg : Registry) (tenantId : String) : List ContainerRow :=
  reg.containers.filter fun row =>
    sql.collate row.tenantId == sql.collate tenantId && row.status.isActive

def loadContainerAuthorityState (reg : Registry) (s : AuthorityStore sql)
    (tenantId targetContainerId : String) (principal : Principal) : AuthorityState :=
  let ofTenant (t : String) : Bool := sql.collate t == sql.collate tenantId
  { tenantId
    target := (loadedContainers sql reg tenantId).find? fun row =>
      row.containerId == targetContainerId
    containers := loadedContainers sql reg tenantId
    containerTypes := reg.containerTypes.filter (·.status.isActive)
    relationships := loadedRelationships s tenantId
    relationshipTypes := reg.relationshipTypes.filter (·.status.isActive)
    classificationTypes := reg.classificationTypes.filter (·.status.isActive)
    classifications := reg.classifications.filter fun row =>
      ofTenant row.tenantId && row.status.isActive && validAt s.now row.validFrom row.validUntil
    roleAssignments := s.roleAssignments.rows.filter fun row =>
      ofTenant row.tenantId && row.principalType == principal.type &&
        sql.collate row.principalId == sql.collate principal.id &&
        row.status.isActive && validAt s.now row.validFrom row.validUntil
    roleTemplates := reg.roleTemplates.filter (·.status.isActive)
    rolePermissions := reg.rolePermissions.filter (·.status.isActive)
    dimensions := reg.dimensions.filter (·.status.isActive)
    bindings := s.bindings.rows.filter fun row =>
      ofTenant row.tenantId && row.status.isActive && validAt s.now row.validFrom row.validUntil
    authorityEpoch := readContainerAuthorityEpoch s tenantId }

end GrowthOs.Containers
