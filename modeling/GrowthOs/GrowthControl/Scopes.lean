import GrowthOs.GrowthControl.Documents
import GrowthOs.Support.Comparison

/-!
# Configuration scopes

`normalizeGrowthControlScope` checks the fields a scope of its type needs and
writes them into one text, the scope key; `buildGrowthControlScopeHierarchy`
lists the scopes of a context, from the platform to the execution.
-/

namespace GrowthOs.GrowthControl

open Js Throwing Comparison

/-- `GROWTH_CONTROL_SCOPE_TYPES`. -/
inductive ScopeType
  | platform | activity | tenant | workspace | brand | profile | workflow | workflowNode
  | plan | execution
deriving DecidableEq, Repr

namespace ScopeType

def all : List ScopeType :=
  [.platform, .activity, .tenant, .workspace, .brand, .profile, .workflow, .workflowNode,
    .plan, .execution]

def text : ScopeType → String
  | .platform => "platform"
  | .activity => "activity"
  | .tenant => "tenant"
  | .workspace => "workspace"
  | .brand => "brand"
  | .profile => "profile"
  | .workflow => "workflow"
  | .workflowNode => "workflow_node"
  | .plan => "plan"
  | .execution => "execution"

def ofText (text : String) : Option ScopeType :=
  all.find? fun scopeType => scopeType.text == text

/-- `SCOPE_RANK`. -/
def rank : ScopeType → Nat
  | .platform => 0
  | .activity => 10
  | .tenant => 20
  | .workspace => 30
  | .brand => 40
  | .profile => 50
  | .workflow => 60
  | .workflowNode => 70
  | .plan => 80
  | .execution => 90

end ScopeType

/-- The fields of a scope, before its key is made. -/
structure ScopeFields where
  scopeType : ScopeType
  tenantId : Option String
  workspaceId : Option String
  brandKey : Option String
  activityTypeKey : Option String
  activityBindingId : Option String
  profileKey : Option String
  workflowKey : Option String
  workflowVersion : Val
  workflowNodeId : Option String
  planId : Option String
  executionId : Option String

structure Scope extends ScopeFields where
  scopeKey : String
  rank : Nat

/-- `input[camel] ?? input[snake]`. -/
def either (input : Val) (camel snake : String) : Val :=
  (input.member camel).coalesce (input.member snake)

/-- `requireScopeField(value, field, scopeType)` for the scope types in a list;
the value is clean already, and cleaning it again changes nothing. -/
def requireScopeField (scopeTypes : List ScopeType) (scopeType : ScopeType)
    (value : Option String) (field : String) : Except Val Unit :=
  rejectIf (scopeType ∈ scopeTypes ∧ value = none) (planeError "GROWTH_CONTROL_SCOPE_FIELD_REQUIRED"
      (field ++ " is required for " ++ scopeType.text ++ " scope.") 422
      [issueAt field "required"])

def scopeTypeOf (text : Option String) : Except Val ScopeType :=
  match text.bind ScopeType.ofText with
  | some scopeType => .ok scopeType
  | none => .error (planeError "GROWTH_CONTROL_SCOPE_INVALID"
      "Unsupported configuration scope." 422 [])

def readScopeFields (input : Val) : Except Val ScopeFields := do
  let typeText ← clean (either input "scopeType" "scope_type")
  let scopeType ← scopeTypeOf typeText
  let tenantId ← clean (either input "tenantId" "tenant_id")
  let workspaceId ← clean (either input "workspaceId" "workspace_id")
  let brandKey ← clean (either input "brandKey" "brand_key")
  let activityTypeKey ← clean (either input "activityTypeKey" "activity_type_key")
  let activityBindingId ← clean (either input "activityBindingId" "activity_binding_id")
  let profileKey ← clean (either input "profileKey" "profile_key")
  let workflowKey ← clean (either input "workflowKey" "workflow_key")
  let workflowNodeId ← clean (either input "workflowNodeId" "workflow_node_id")
  let planId ← clean (either input "planId" "plan_id")
  let executionId ← clean (either input "executionId" "execution_id")
  .ok { scopeType, tenantId, workspaceId, brandKey, activityTypeKey, activityBindingId,
        profileKey, workflowKey,
        workflowVersion := (either input "workflowVersion" "workflow_version").coalesce .null,
        workflowNodeId, planId, executionId }

/-- The scope types below a brand. -/
def brandLevel : List ScopeType :=
  [.brand, .profile, .workflow, .workflowNode, .plan, .execution]

def requireFields (fields : ScopeFields) : Except Val Unit := do
  let scopeType := fields.scopeType
  requireScopeField [.activity] scopeType fields.activityTypeKey "activityTypeKey"
  requireScopeField (.tenant :: .workspace :: brandLevel) scopeType fields.tenantId "tenantId"
  requireScopeField (.workspace :: brandLevel) scopeType fields.workspaceId "workspaceId"
  requireScopeField brandLevel scopeType fields.brandKey "brandKey"
  requireScopeField [.profile] scopeType fields.profileKey "profileKey"
  requireScopeField [.workflow, .workflowNode] scopeType fields.workflowKey "workflowKey"
  requireScopeField [.workflowNode] scopeType fields.workflowNodeId "workflowNodeId"
  requireScopeField [.plan] scopeType fields.planId "planId"
  requireScopeField [.execution] scopeType fields.executionId "executionId"

/-- `String(scope.workflowVersion || "active")`. -/
def versionText (version : Val) : Except Val String :=
  (version.or (.str "active")).toStr

/-- A part of a key; `join` writes nothing for `null`. -/
def partOf (value : Option String) : String :=
  value.getD ""

/-- `scopeKeyParts[scopeType]`. -/
def scopeKeyParts (fields : ScopeFields) (version : String) : List String :=
  let tenant := ["tenant", partOf fields.tenantId]
  let workspace := tenant ++ ["workspace", partOf fields.workspaceId]
  let brand := workspace ++ ["brand", partOf fields.brandKey]
  let workflow := brand ++ ["workflow", partOf fields.workflowKey, version]
  match fields.scopeType with
  | .platform => ["platform"]
  | .activity => ["activity", partOf fields.activityTypeKey]
  | .tenant => tenant
  | .workspace => workspace
  | .brand => brand
  | .profile => brand ++ ["profile", partOf fields.profileKey]
  | .workflow => workflow
  | .workflowNode => workflow ++ ["node", partOf fields.workflowNodeId]
  | .plan => brand ++ ["plan", partOf fields.planId]
  | .execution => brand ++ ["execution", partOf fields.executionId]

/-- The first access to the input; the default of the parameter stands in for
`undefined` only. -/
def scopeInput (input : Val) : Except Val Unit :=
  if input.isUndefined then .ok () else do
    let _ ← input.get "scopeType"
    .ok ()

def normalizeGrowthControlScope (input : Val) : Except Val Scope := do
  scopeInput input
  let fields ← readScopeFields input
  requireFields fields
  let version ← versionText fields.workflowVersion
  .ok { fields with
        scopeKey := ":".intercalate (scopeKeyParts fields version)
        rank := fields.scopeType.rank }

/-! ## The hierarchy of a context -/

/-- `{ scopeType, ...context }`: a scope type of the context's own takes the
place of the given one. -/
def withScopeType (scopeType : ScopeType) (context : Val) : Val :=
  .obj (if Val.hasField context.ownFields "scopeType" then context.ownFields
    else ("scopeType", .str scopeType.text) :: context.ownFields)

/-- `{ scopeType, [name]: context[name], ... }`. -/
def scopeOf (scopeType : ScopeType) (context : Val) (names : List String) : Val :=
  .obj (("scopeType", .str scopeType.text) :: names.map fun name => (name, context.member name))

/-- `if (condition) scopes.push(normalizeGrowthControlScope(input))`. -/
def scopeIf (condition : Bool) (input : Val) : Except Val (List Scope) :=
  if condition then do
    let scope ← normalizeGrowthControlScope input
    .ok [scope]
  else .ok []

/-- Whether all these fields of the context are truthy. -/
def hasAll (context : Val) (names : List String) : Bool :=
  names.all fun name => (context.member name).truthy

def contextInput (context : Val) : Except Val Unit :=
  if context.isUndefined then .ok () else do
    let _ ← context.get "activityTypeKey"
    .ok ()

def buildGrowthControlScopeHierarchy (context : Val) : Except Val (List Scope) := do
  contextInput context
  let platform ← normalizeGrowthControlScope (scopeOf .platform context [])
  let activity ← scopeIf (hasAll context ["activityTypeKey"])
    (scopeOf .activity context ["activityTypeKey"])
  let tenant ← scopeIf (hasAll context ["tenantId"]) (scopeOf .tenant context ["tenantId"])
  let workspace ← scopeIf (hasAll context ["tenantId", "workspaceId"])
    (scopeOf .workspace context ["tenantId", "workspaceId"])
  let brand ← scopeIf (hasAll context ["tenantId", "workspaceId", "brandKey"])
    (scopeOf .brand context ["tenantId", "workspaceId", "brandKey"])
  let profile ← scopeIf (hasAll context ["profileKey"]) (withScopeType .profile context)
  let workflow ← scopeIf (hasAll context ["workflowKey"]) (withScopeType .workflow context)
  let workflowNode ← scopeIf (hasAll context ["workflowKey", "workflowNodeId"])
    (withScopeType .workflowNode context)
  let plan ← scopeIf (hasAll context ["planId"]) (withScopeType .plan context)
  let execution ← scopeIf (hasAll context ["executionId"]) (withScopeType .execution context)
  .ok (sortBy (fun a b => a.rank ≤ b.rank) ([platform] ++ activity ++ tenant ++ workspace ++
    brand ++ profile ++ workflow ++ workflowNode ++ plan ++ execution))

end GrowthOs.GrowthControl
