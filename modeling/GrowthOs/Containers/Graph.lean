import GrowthOs.Containers.Rows
import GrowthOs.Support.Loop
import GrowthOs.Support.Digraph
import Mathlib.Data.List.Sort

/-!
# The container graph

The graph functions of `dynamicContainerAuthority.js`: the checks of a new
relationship, the search for a cycle it would close, and the enumeration of
the paths from the roots down to a container.  Both searches are loops over an
explicit stack, whose top is the head of the list here.
-/

namespace GrowthOs.Containers

open Js List
open Loop (Round)

structure ResolutionLimits where
  maxDepth : Nat
  maxPaths : Nat
  maxVisitedContainers : Nat
  maxTraversedRelationships : Nat
  maxCandidateBindings : Nat

/-- `DEFAULT_CONTAINER_RESOLUTION_LIMITS`. -/
def defaultLimits : ResolutionLimits :=
  { maxDepth := 16
    maxPaths := 256
    maxVisitedContainers := 2048
    maxTraversedRelationships := 4096
    maxCandidateBindings := 5000 }

/-- `rowsToMap(rows, [key]).get(k)`: the last row with the key, and no row has
an empty one. -/
def rowOf {α : Type} (key : α → String) (rows : List α) (k : String) : Option α :=
  if k = "" then none else rows.reverse.find? fun row => key row == k

/-- `ancestryTypes.has(typeKey)`. -/
def isAncestryType (types : List RelationshipTypeRow) (typeKey : String) : Bool :=
  (rowOf (·.relationshipTypeKey) types typeKey).any fun type =>
    type.status.isActive && type.contributesToAncestry == 1

/-- The rows both searches keep. -/
def ancestryRows (types : List RelationshipTypeRow) (rows : List RelationshipRow) :
    List RelationshipRow :=
  rows.filter fun row =>
    row.status.isActive && isAncestryType types row.relationshipTypeKey

/-- `parent` contains `child`, by one of the rows. -/
def Contains (rows : List RelationshipRow) (parent child : String) : Prop :=
  ∃ row ∈ rows, row.fromContainerId = parent ∧ row.toContainerId = child

/-! ## Checking a new relationship -/

/-- The `request` of `createContainerRelationship`. -/
structure RelationshipRequest where
  relationshipId : String
  tenantId : String
  fromContainerId : String
  toContainerId : String
  relationshipTypeKey : String
  priority : Number
  conditions : Val
  validFrom : Val
  validUntil : Val
  createdBy : Val
  approvedBy : Val
  metadata : Val

structure FieldError where
  code : String
  /-- The field the check is about, with its value. -/
  field : Option (String × String)

def FieldError.toVal (e : FieldError) : Val :=
  .obj (("code", .str e.code) ::
    match e.field with
    | none => []
    | some (field, value) => [("field", .str field), ("value", .str value)])

/-- `if (condition) errors.push(error)`. -/
def errorIf (condition : Bool) (code field value : String) : List FieldError :=
  if condition then [⟨code, some (field, value)⟩] else []

/-- The active relationships that already give the container a parent. -/
def activeParents (r : RelationshipRequest) (relationships : List RelationshipRow)
    (relationshipTypes : List RelationshipTypeRow) : List RelationshipRow :=
  (ancestryRows relationshipTypes relationships).filter fun row =>
    row.toContainerId == r.toContainerId && row.relationshipId != r.relationshipId

/-- The checks of a containment relationship. -/
def containmentErrors (r : RelationshipRequest)
    (relationships : List RelationshipRow) (containerTypes : List ContainerTypeRow)
    (relationshipTypes : List RelationshipTypeRow) (fromContainer toContainer : ContainerRow) :
    Except Val (List FieldError) :=
  match rowOf (·.containerTypeKey) containerTypes fromContainer.containerTypeKey,
    rowOf (·.containerTypeKey) containerTypes toContainer.containerTypeKey with
  | some parentType, some childType =>
    if !parentType.status.isActive || !childType.status.isActive then
      .ok [⟨"container_type_not_registered", none⟩]
    else do
      let allowedChildren ←
        parseStringArray (jsonColumn parentType.allowedChildTypesJson)
      let allowedParents ←
        parseStringArray (jsonColumn childType.allowedParentTypesJson)
      .ok (errorIf (!allowedChildren.contains "*" &&
            !allowedChildren.contains childType.containerTypeKey)
          "container_relationship_not_allowed" "child_container_type"
          childType.containerTypeKey ++
        errorIf (!allowedParents.contains "*" &&
            !allowedParents.contains parentType.containerTypeKey)
          "container_relationship_not_allowed" "parent_container_type"
          parentType.containerTypeKey ++
        errorIf (childType.supportsMultiParent != 1 &&
            !(activeParents r relationships relationshipTypes).isEmpty)
          "container_multiple_parents_not_allowed" "to_container_id"
          r.toContainerId)
  | _, _ => .ok [⟨"container_type_not_registered", none⟩]

structure RelationshipValidation where
  errors : List FieldError
  relationshipType : Option RelationshipTypeRow

/-- The checks that need both containers of a relationship. -/
def endpointErrors (r : RelationshipRequest)
    (relationships : List RelationshipRow) (containerTypes : List ContainerTypeRow)
    (relationshipTypes : List RelationshipTypeRow) (relationshipType : Option RelationshipTypeRow) :
    Option ContainerRow → Option ContainerRow → Except Val (List FieldError)
  | some fromContainer, some toContainer =>
    let tenant := if r.tenantId = "" then fromContainer.tenantId else r.tenantId
    let crossTenant := errorIf (fromContainer.tenantId != toContainer.tenantId ||
        tenant != fromContainer.tenantId)
      "container_cross_tenant_boundary" "tenant_id" tenant
    if relationshipType.any fun type => type.relationshipClass == .containment then do
      let containment ← containmentErrors r relationships containerTypes
        relationshipTypes fromContainer toContainer
      .ok (crossTenant ++ containment)
    else .ok crossTenant
  | _, _ => .ok []

def validateContainerRelationship (r : RelationshipRequest)
    (relationships : List RelationshipRow) (containers : List ContainerRow)
    (containerTypes : List ContainerTypeRow) (relationshipTypes : List RelationshipTypeRow) :
    Except Val RelationshipValidation := do
  let fromContainer := rowOf (·.containerId) containers r.fromContainerId
  let toContainer := rowOf (·.containerId) containers r.toContainerId
  let relationshipType :=
    rowOf (·.relationshipTypeKey) relationshipTypes r.relationshipTypeKey
  let endpoints ← endpointErrors r relationships containerTypes relationshipTypes
    relationshipType fromContainer toContainer
  .ok
    { errors :=
        errorIf fromContainer.isNone "container_not_found" "from_container_id" r.fromContainerId ++
          errorIf toContainer.isNone "container_not_found" "to_container_id" r.toContainerId ++
          errorIf (r.fromContainerId != "" && r.fromContainerId == r.toContainerId)
            "container_cycle_detected" "to_container_id" r.toContainerId ++
          errorIf (!relationshipType.any fun type => type.status.isActive)
            "container_relationship_not_allowed" "relationship_type_key"
            r.relationshipTypeKey ++
          endpoints
      relationshipType }

/-! ## Looking for the cycle a new relationship would close -/

/-- What `detectContainmentCycle` returns. -/
structure CycleCheck where
  hasCycle : Bool
  blocked : Bool
  code : Option String
  path : List String
  visitedCount : Option Nat
  traversedRelationshipCount : Option Nat

def CycleCheck.toVal (c : CycleCheck) : Val :=
  .obj ([("hasCycle", .bool c.hasCycle), ("blocked", .bool c.blocked),
      ("code", optionVal c.code), ("path", .arr (c.path.map .str))] ++
    (c.visitedCount.map fun n => ("visitedCount", Val.num (.ofNat n))).toList ++
    (c.traversedRelationshipCount.map fun n =>
      ("traversedRelationshipCount", Val.num (.ofNat n))).toList)

/-- An entry of the stack. -/
structure Visit where
  node : String
  path : List String
  depth : Nat

structure CycleSearch where
  stack : List Visit
  visited : List String

/-- `adjacency.get(node) || []`. -/
def targetsOf (rows : List RelationshipRow) (node : String) : List String :=
  ((rows.filter fun row => row.fromContainerId == node).map
    (·.toContainerId)).insertionSort fun a b => keyLe a b = true

variable {rows : List RelationshipRow} {node : String}

theorem mem_targetsOf {target : String} :
    target ∈ targetsOf rows node ↔ Contains rows node target := by
  unfold targetsOf Contains
  rw [mem_insertionSort, mem_map]
  constructor
  · rintro ⟨row, hrow, htarget⟩
    obtain ⟨hmem, hfrom⟩ := mem_filter.mp hrow
    exact ⟨row, hmem, by simpa using hfrom, htarget⟩
  · rintro ⟨row, hmem, hfrom, htarget⟩
    exact ⟨row, mem_filter.mpr ⟨hmem, by simpa using hfrom⟩, htarget⟩

theorem length_targetsOf (rows : List RelationshipRow) (node : String) :
    (targetsOf rows node).length = rows.countP fun row => row.fromContainerId == node := by
  unfold targetsOf
  rw [length_insertionSort, length_map, countP_eq_length_filter]

def cycleLimitExceeded (path : List String) (visitedCount : Nat) : CycleCheck :=
  { hasCycle := false
    blocked := true
    code := some "container_resolution_limit_exceeded"
    path
    visitedCount := some visitedCount
    traversedRelationshipCount := none }

/-- One round of the search from `toId` for `fromId`. -/
def cycleRound (limits : ResolutionLimits) (rows : List RelationshipRow)
    (fromId : String) (s : CycleSearch) : Round CycleSearch CycleCheck :=
  match s.stack with
  | [] =>
    .done
      { hasCycle := false
        blocked := false
        code := none
        path := []
        visitedCount := some s.visited.length
        traversedRelationshipCount := some rows.length }
  | current :: rest =>
    if s.visited.contains current.node then .next { s with stack := rest }
    else
      let visited := current.node :: s.visited
      let targets := targetsOf rows current.node
      if limits.maxVisitedContainers < visited.length then
        .done (cycleLimitExceeded current.path visited.length)
      else if limits.maxDepth ≤ current.depth ∧ targets ≠ [] then
        .done (cycleLimitExceeded current.path visited.length)
      else if targets.contains fromId then
        .done
          { hasCycle := true
            blocked := true
            code := some "container_cycle_detected"
            path := fromId :: current.path ++ [fromId]
            visitedCount := some visited.length
            traversedRelationshipCount := none }
      else
        .next
          { stack := (targets.map fun target =>
              ⟨target, current.path ++ [target], current.depth + 1⟩) ++ rest
            visited }

/-- The rounds a search has left: what is on the stack, and what the nodes not
yet visited will push. -/
def CycleSearch.measure (rows : List RelationshipRow) (s : CycleSearch) : Nat :=
  s.stack.length + rows.countP fun row => !s.visited.contains row.fromContainerId

variable {limits : ResolutionLimits} {fromId toId : String} {s s' : CycleSearch}

/-- What one round can do, where it does not return. -/
theorem cycleRound_next (h : cycleRound limits rows fromId s = .next s') :
    ∃ current rest, s.stack = current :: rest ∧
      ((current.node ∈ s.visited ∧ s' = { s with stack := rest }) ∨ (current.node ∉ s.visited ∧
          fromId ∉ targetsOf rows current.node ∧
          s' =
            { stack := ((targetsOf rows current.node).map fun target =>
                ⟨target, current.path ++ [target], current.depth + 1⟩) ++ rest
              visited := current.node :: s.visited })) := by
  unfold cycleRound at h
  split at h
  next => cases h
  next current rest hstack =>
    refine ⟨current, rest, hstack, ?_⟩
    dsimp only at h
    split_ifs at h with hvisited hcount hdepth hfrom <;> cases h
    · exact .inl ⟨by simpa using hvisited, rfl⟩
    · exact .inr ⟨by simpa using hvisited, by simpa using hfrom, rfl⟩

theorem countP_unvisited_cons {visited : List String} (h : node ∉ visited) :
    (rows.countP fun row => !visited.contains row.fromContainerId) =
      (rows.countP fun row => row.fromContainerId == node) +
        rows.countP fun row => !(node :: visited).contains row.fromContainerId := by
  induction rows with
  | nil => rfl
  | cons row rows ih =>
    simp only [countP_cons, ih]
    by_cases hnode : row.fromContainerId = node
    · rw [hnode]
      simp [h]
      omega
    · by_cases hvisited : row.fromContainerId ∈ visited
      · simp [hnode, hvisited]
      · simp [hnode, hvisited]
        omega

theorem cycleRound_decreases (s s' : CycleSearch) (h : cycleRound limits rows fromId s = .next s') :
    s'.measure rows < s.measure rows := by
  obtain ⟨current, rest, hstack, ⟨_, rfl⟩ | ⟨hvisited, _, rfl⟩⟩ := cycleRound_next h
  · simp only [CycleSearch.measure, hstack, length_cons]
    omega
  · have hsplit : _ = _ + rows.countP _ := countP_unvisited_cons hvisited
    simp only [CycleSearch.measure, hstack, length_cons, length_append,
      length_map, length_targetsOf]
    omega

def detectContainmentCycle (limits : ResolutionLimits)
    (relationships : List RelationshipRow) (r : RelationshipRequest)
    (relationshipTypes : List RelationshipTypeRow) : CycleCheck :=
  let rows := ancestryRows relationshipTypes relationships
  if r.fromContainerId = "" ∨ r.toContainerId = "" then
    ⟨false, true, some "container_not_found", [], none, none⟩
  else if r.fromContainerId = r.toContainerId then
    ⟨true, true, some "container_cycle_detected", [r.fromContainerId, r.toContainerId], none, none⟩
  else if limits.maxTraversedRelationships < rows.length then
    ⟨false, true, some "container_resolution_limit_exceeded", [], none,
      some (limits.maxTraversedRelationships + 1)⟩
  else
    Loop.run (cycleRound limits rows r.fromContainerId) (CycleSearch.measure rows)
      cycleRound_decreases
      ⟨[⟨r.toContainerId, [r.toContainerId], 0⟩], []⟩

/-- What has been visited leads only to what is or will be visited, and never
to `fromId`. -/
structure CycleSearch.Covers (rows : List RelationshipRow) (fromId toId : String)
    (s : CycleSearch) : Prop where
  start : toId ∈ s.visited ∨ toId ∈ s.stack.map (·.node)
  away : ∀ node ∈ s.visited, ∀ target, Contains rows node target →
    target ≠ fromId ∧ (target ∈ s.visited ∨ target ∈ s.stack.map (·.node))

theorem CycleSearch.Covers.next (hs : s.Covers rows fromId toId)
    (h : cycleRound limits rows fromId s = .next s') : s'.Covers rows fromId toId := by
  obtain ⟨current, rest, hstack, hcase⟩ := cycleRound_next h
  -- what was seen before the round is still seen after it
  have hseen : ∀ node, node ∈ s.visited ∨ node ∈ s.stack.map (·.node) →
      node ∈ s'.visited ∨ node ∈ s'.stack.map (·.node) := by
    intro node hnode
    rw [hstack, map_cons, mem_cons] at hnode
    rcases hcase with ⟨hvisited, rfl⟩ | ⟨_, _, rfl⟩
    · rcases hnode with hnode | rfl | hnode
      · exact .inl hnode
      · exact .inl hvisited
      · exact .inr hnode
    · rcases hnode with hnode | rfl | hnode
      · exact .inl (mem_cons_of_mem _ hnode)
      · exact .inl mem_cons_self
      · right
        rw [map_append]
        exact mem_append_right _ hnode
  constructor
  · exact hseen toId hs.start
  · intro node hnode target htarget
    rcases hcase with ⟨_, rfl⟩ | ⟨_, hfrom, rfl⟩
    · obtain ⟨hne, hold⟩ := hs.away node hnode target htarget
      exact ⟨hne, hseen target hold⟩
    · rcases mem_cons.mp hnode with rfl | hnode
      · have hmem := mem_targetsOf.mpr htarget
        constructor
        · rintro rfl
          exact hfrom hmem
        · right
          rw [map_append, map_map]
          exact mem_append_left _ (mem_map.mpr ⟨target, hmem, rfl⟩)
      · obtain ⟨hne, hold⟩ := hs.away node hnode target htarget
        exact ⟨hne, hseen target hold⟩

/-- A round returns with an empty stack, or for a container it has not visited before:
at a limit, or with a relationship to `fromId`. -/
theorem cycleRound_done {c : CycleCheck} (h : cycleRound limits rows fromId s = .done c) :
    (s.stack = [] ∧ c.hasCycle = false ∧ c.code = none) ∨
      c.blocked = true ∧ ∃ current ∈ s.stack, current.node ∉ s.visited ∧
        (c.hasCycle = false ∧ (limits.maxVisitedContainers < s.visited.length + 1 ∨
            limits.maxDepth ≤ current.depth ∧ targetsOf rows current.node ≠ []) ∨
          c.code = some "container_cycle_detected" ∧ fromId ∈ targetsOf rows current.node ∧
            c.path = fromId :: current.path ++ [fromId]) := by
  unfold cycleRound at h
  split at h
  next hstack =>
    cases h
    exact .inl ⟨hstack, rfl, rfl⟩
  next current rest hstack =>
    right
    dsimp only at h
    split_ifs at h with hvisited hcount hdepth hfrom <;> cases h <;>
      refine ⟨rfl, current, by simp [hstack], by simpa using hvisited, ?_⟩
    · exact .inl ⟨rfl, .inl hcount⟩
    · exact .inl ⟨rfl, .inr hdepth⟩
    · exact .inr ⟨rfl, by simpa using hfrom, rfl⟩

/-- A set that is left by no edge holds whatever is reached from it. -/
theorem CycleSearch.Covers.reached (hs : s.Covers rows fromId toId) (hstack : s.stack = [])
    (hnode : Relation.ReflTransGen (Contains rows) toId node) : node ∈ s.visited := by
  induction hnode with
  | refl => simpa [hstack] using hs.start
  | tail _ hedge ih =>
    obtain ⟨_, hnext⟩ := hs.away _ ih _ hedge
    simpa [hstack] using hnext

/-- Where the search is not blocked, the new relationship closes no cycle. -/
theorem detectContainmentCycle_unblocked {relationships : List RelationshipRow}
    {r : RelationshipRequest} {types : List RelationshipTypeRow}
    (h : (detectContainmentCycle limits relationships r types).blocked = false) :
    ¬Relation.ReflTransGen (Contains (ancestryRows types relationships))
      r.toContainerId r.fromContainerId := by
  unfold detectContainmentCycle at h
  dsimp only at h
  split_ifs at h with hempty hne hmany
  have hfirst : CycleSearch.Covers (ancestryRows types relationships) r.fromContainerId
      r.toContainerId ⟨[⟨r.toContainerId, [r.toContainerId], 0⟩], []⟩ :=
    ⟨.inr mem_cons_self, fun _ hnode => absurd hnode not_mem_nil⟩
  refine Loop.run_post (I := CycleSearch.Covers (ancestryRows types relationships)
      r.fromContainerId r.toContainerId)
    (P := fun c : CycleCheck => c.blocked = false → _) ?_ ?_ hfirst h
  · intro s s' hs hround
    exact hs.next hround
  · intro s c hs hround hc hreach
    have hstack : s.stack = [] := by
      obtain ⟨hstack, _⟩ | ⟨hblocked, _⟩ := cycleRound_done hround
      · exact hstack
      · rw [hblocked] at hc
        cases hc
    -- the last edge of a walk to `fromId` leaves a visited node
    rcases Relation.ReflTransGen.cases_tail hreach with heq | ⟨node, hwalk, hedge⟩
    · exact hne heq
    · exact (hs.away node (hs.reached hstack hwalk) _ hedge).1 rfl

end GrowthOs.Containers
