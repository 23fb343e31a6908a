import GrowthOs.Containers.Graph

/-!
# Container paths and the closure table

`enumerateContainerPaths` climbs from a container to every root above it, and
`buildContainerClosureRows` summarises the paths of all containers of a
tenant.  `localeLe a b` stands for `a.localeCompare(b) <= 0`.
-/

namespace GrowthOs.Containers

open Js List
open Loop (Round)

variable (localeLe : String → String → Bool)

/-- `a.localeCompare(b) || c.localeCompare(d)` is not positive. -/
def localeLeThen (a b c d : String) : Bool :=
  if localeLe a b && localeLe b a then localeLe c d else localeLe a b

/-! ## Climbing from a container -/

/-- An entry of the stack: the way from the target up to `nodeId`. -/
structure Ascent where
  nodeId : String
  nodePath : List String
  edgePath : List String
  depth : Nat

def Ascent.start (target : String) : Ascent :=
  ⟨target, [target], [], 0⟩

/-- A path as it is hashed. -/
structure PathBody where
  rootContainerId : String
  targetContainerId : String
  containerIds : List String
  relationshipIds : List String
  depth : Nat

def PathBody.fields (p : PathBody) : List (String × Val) :=
  [("rootContainerId", .str p.rootContainerId), ("targetContainerId", .str p.targetContainerId),
    ("containerIds", .arr (p.containerIds.map .str)),
    ("relationshipIds", .arr (p.relationshipIds.map .str)),
    ("depth", .num (.ofNat p.depth))]

structure ContainerPath extends PathBody where
  pathHash : String

def ContainerPath.toVal (p : ContainerPath) : Val :=
  .obj (p.fields ++ [("pathHash", .str p.pathHash)])

/-- A result that is not `ok`. -/
structure PathFailure where
  code : String
  extra : List (String × Val)

def PathFailure.fields (f : PathFailure) : List (String × Val) :=
  [("ok", .bool false), ("blocked", .bool true), ("code", .str f.code),
    ("paths", .arr [])] ++ f.extra

def limitExceeded (field : String) (count : Nat) : PathFailure :=
  ⟨"container_resolution_limit_exceeded", [(field, .num (.ofNat count))]⟩

structure PathSearch where
  stack : List Ascent
  paths : List Ascent
  visited : List String

/-- `parentEdges.get(nodeId) || []`. -/
def parentsOf (rows : List RelationshipRow) (nodeId : String) : List RelationshipRow :=
  (rows.filter fun row => row.toContainerId == nodeId).insertionSort fun a b =>
    localeLeThen localeLe a.fromContainerId b.fromContainerId
      a.relationshipId b.relationshipId = true

/-- Climb one relationship. -/
def Ascent.climb (current : Ascent) (row : RelationshipRow) : Ascent :=
  { nodeId := row.fromContainerId
    nodePath := current.nodePath ++ [row.fromContainerId]
    edgePath := current.edgePath ++ [row.relationshipId]
    depth := current.depth + 1 }

/-- `[parentId, ...nodePath.slice(0, nodePath.indexOf(parentId) + 1).reverse()]`. -/
def cyclePath (nodePath : List String) (parentId : String) : List String :=
  parentId :: (nodePath.take (nodePath.idxOf parentId + 1)).reverse

/-- One round of the climb. -/
def pathRound (limits : ResolutionLimits) (rows : List RelationshipRow) (s : PathSearch) :
    Round PathSearch (Except PathFailure PathSearch) :=
  match s.stack with
  | [] => .done (.ok s)
  | current :: rest =>
    let visited := current.nodePath.foldl (fun ids id => ids.insert id) s.visited
    let parents := parentsOf localeLe rows current.nodeId
    if limits.maxVisitedContainers < visited.length then
      .done (.error (limitExceeded "visitedCount" visited.length))
    else if parents = [] then
      if limits.maxPaths < s.paths.length + 1 then
        .done (.error (limitExceeded "pathCount" (s.paths.length + 1)))
      else .next { stack := rest, paths := s.paths ++ [current], visited }
    else if limits.maxDepth ≤ current.depth then
      .done (.error (limitExceeded "depth" current.depth))
    else
      match parents.reverse.find? fun row =>
        current.nodePath.contains row.fromContainerId with
      | some row =>
        .done (.error ⟨"container_cycle_detected", [("cyclePath", .arr
            ((cyclePath current.nodePath row.fromContainerId).map .str))]⟩)
      | none =>
        .next { s with stack := parents.map current.climb ++ rest, visited }

/-- A bound on the rounds left: the entries that can still be climbed from what
is on the stack. -/
def PathSearch.measure (limits : ResolutionLimits) (rows : List RelationshipRow)
    (s : PathSearch) : Nat :=
  (s.stack.map fun a => (rows.length + 1) ^ (limits.maxDepth - a.depth)).sum

section

variable {localeLe} {limits : ResolutionLimits} {rows : List RelationshipRow} {s s' : PathSearch}

theorem mem_parentsOf {nodeId : String} {row : RelationshipRow} :
    row ∈ parentsOf localeLe rows nodeId ↔ row ∈ rows ∧ row.toContainerId = nodeId := by
  unfold parentsOf
  rw [mem_insertionSort, mem_filter, beq_iff_eq]

theorem length_parentsOf_le (nodeId : String) :
    (parentsOf localeLe rows nodeId).length ≤ rows.length := by
  unfold parentsOf
  rw [length_insertionSort]
  exact length_filter_le _ _

/-- What one round can do, where it does not return. -/
theorem pathRound_next (h : pathRound localeLe limits rows s = .next s') :
    ∃ current rest, s.stack = current :: rest ∧
      ((parentsOf localeLe rows current.nodeId = [] ∧ s'.stack = rest ∧
          s'.paths = s.paths ++ [current]) ∨
        (current.depth < limits.maxDepth ∧ parentsOf localeLe rows current.nodeId ≠ [] ∧ s'.stack =
            (parentsOf localeLe rows current.nodeId).map current.climb ++ rest ∧
          s'.paths = s.paths)) := by
  unfold pathRound at h
  split at h
  next => cases h
  next current rest hstack =>
    refine ⟨current, rest, hstack, ?_⟩
    dsimp only at h
    split_ifs at h with hcount hparents hpaths hdepth
    · cases h
      exact .inl ⟨hparents, rfl, rfl⟩
    · split at h
      · cases h
      · cases h
        exact .inr ⟨by omega, hparents, rfl, rfl⟩

theorem sum_climb_lt (current : Ascent) (hdepth : current.depth < limits.maxDepth) :
    (((parentsOf localeLe rows current.nodeId).map current.climb).map fun a =>
        (rows.length + 1) ^ (limits.maxDepth - a.depth)).sum <
      (rows.length + 1) ^ (limits.maxDepth - current.depth) := by
  have hsame : ((parentsOf localeLe rows current.nodeId).map current.climb).map
      (fun a => (rows.length + 1) ^ (limits.maxDepth - a.depth)) =
      List.replicate (parentsOf localeLe rows current.nodeId).length
        ((rows.length + 1) ^ (limits.maxDepth - (current.depth + 1))) := by
    rw [map_map]
    exact map_eq_replicate_iff.mpr fun _ _ => rfl
  have hpow : (rows.length + 1) ^ (limits.maxDepth - current.depth) =
      (rows.length + 1) ^ (limits.maxDepth - (current.depth + 1)) * (rows.length + 1) := by
    rw [← Nat.pow_succ]
    congr 1
    omega
  rw [hsame, sum_replicate_nat, hpow, Nat.mul_comm]
  have hpos : 0 < (rows.length + 1) ^ (limits.maxDepth - (current.depth + 1)) :=
    Nat.pow_pos (Nat.succ_pos _)
  have hcount : (parentsOf localeLe rows current.nodeId).length ≤ rows.length :=
    length_parentsOf_le current.nodeId
  exact Nat.mul_lt_mul_of_pos_left (by omega) hpos

theorem pathRound_decreases (s s' : PathSearch) (h : pathRound localeLe limits rows s = .next s') :
    s'.measure limits rows < s.measure limits rows := by
  obtain ⟨current, rest, hstack, ⟨_, hrest, _⟩ | ⟨hdepth, _, hrest, _⟩⟩ :=
    pathRound_next h
  · unfold PathSearch.measure
    rw [hstack, hrest, map_cons, sum_cons]
    exact Nat.lt_add_of_pos_left (Nat.pow_pos (Nat.succ_pos _))
  · unfold PathSearch.measure
    rw [hstack, hrest, map_cons, sum_cons, map_append, sum_append]
    exact Nat.add_lt_add_right (sum_climb_lt current hdepth) _

end

/-- The path a finished climb stands for. -/
def Ascent.body (target : String) (a : Ascent) : PathBody :=
  { rootContainerId := a.nodeId
    targetContainerId := target
    containerIds := a.nodePath.reverse
    relationshipIds := a.edgePath.reverse
    depth := a.depth }

/-- `stableSerialize(path.relationshipIds)`. -/
def PathBody.relationshipText (p : PathBody) : String :=
  stableStringify (.arr (p.relationshipIds.map .str))

def sortPaths (localeLe : String → String → Bool) (paths : List PathBody) : List PathBody :=
  paths.insertionSort fun a b =>
    localeLeThen localeLe a.rootContainerId b.rootContainerId
      a.relationshipText b.relationshipText = true

def enumerateContainerPaths (rt : Runtime) (localeLe : String → String → Bool)
    (limits : ResolutionLimits) (targetContainerId : String) (relationships : List RelationshipRow)
    (relationshipTypes : List RelationshipTypeRow) : Except PathFailure (List ContainerPath) :=
  let rows := ancestryRows relationshipTypes relationships
  if limits.maxTraversedRelationships < rows.length then
    .error (limitExceeded "traversedRelationshipCount" (limits.maxTraversedRelationships + 1))
  else if targetContainerId = "" then .error ⟨"container_not_found", []⟩
  else do
    let s ← Loop.run (pathRound localeLe limits rows)
      (PathSearch.measure limits rows) pathRound_decreases
      ⟨[.start targetContainerId], [], []⟩
    .ok ((sortPaths localeLe (s.paths.map (Ascent.body targetContainerId))).map
      fun p => { toPathBody := p, pathHash := stableSha256 rt (.obj p.fields) })

/-! ### What a climb finds -/

/-- One relationship further up. -/
def ClimbStep (rows : List RelationshipRow) (a b : Ascent) : Prop :=
  ∃ row ∈ rows, row.toContainerId = a.nodeId ∧ b = a.climb row

/-- `b` continues `a` upwards. -/
def Climbs (rows : List RelationshipRow) : Ascent → Ascent → Prop :=
  Relation.ReflTransGen (ClimbStep rows)

/-- Nothing contains the container. -/
def IsRoot (rows : List RelationshipRow) (nodeId : String) : Prop :=
  ∀ row ∈ rows, row.toContainerId ≠ nodeId

section

variable {localeLe} {limits : ResolutionLimits} {rows : List RelationshipRow} {s s' : PathSearch}
  {target : String}

theorem parentsOf_eq_nil {nodeId : String} :
    parentsOf localeLe rows nodeId = [] ↔ IsRoot rows nodeId := by
  rw [eq_nil_iff_forall_not_mem]
  constructor
  · intro h row hrow hto
    exact h row (mem_parentsOf.mpr ⟨hrow, hto⟩)
  · intro h row hrow
    obtain ⟨hmem, hto⟩ := mem_parentsOf.mp hrow
    exact h row hmem hto

/-- A container is above every container on the way to it. -/
theorem Climbs.above {a : Ascent} (h : Climbs rows (.start target) a) :
    ∀ id ∈ a.nodePath, Relation.ReflTransGen (Contains rows) a.nodeId id := by
  induction h with
  | refl =>
    intro id hid
    obtain rfl := mem_singleton.mp hid
    exact .refl
  | tail _ hstep ih =>
    obtain ⟨row, hrow, hto, rfl⟩ := hstep
    intro id hid
    rcases mem_append.mp hid with hid | hid
    · exact (ih id hid).head ⟨row, hrow, rfl, hto⟩
    · obtain rfl := mem_singleton.mp hid
      exact .refl

/-- The way from the target, and every way already found, is a climb; a way
found ends at a root. -/
structure PathSearch.Sound (rows : List RelationshipRow) (target : String)
    (s : PathSearch) : Prop where
  stack : ∀ a ∈ s.stack, Climbs rows (.start target) a
  paths : ∀ a ∈ s.paths, Climbs rows (.start target) a ∧ IsRoot rows a.nodeId

/-- Every way to a root has been found or continues an entry of the stack. -/
def PathSearch.Complete (rows : List RelationshipRow) (target : String) (s : PathSearch) : Prop :=
  ∀ a, Climbs rows (.start target) a → IsRoot rows a.nodeId →
    a ∈ s.paths ∨ ∃ b ∈ s.stack, Climbs rows b a

/-- What a climb keeps is true of the whole stack, and what it makes of a root of
all ways found. -/
theorem pathRound_forall {P Q : Ascent → Prop} (h : pathRound localeLe limits rows s = .next s')
    (hclimb : ∀ a row, P a → a.depth + 1 ≤ limits.maxDepth → row ∈ rows →
      row.toContainerId = a.nodeId → P (a.climb row))
    (hfound : ∀ a, P a → IsRoot rows a.nodeId → Q a) (hstack : ∀ a ∈ s.stack, P a)
    (hpaths : ∀ a ∈ s.paths, Q a) : (∀ a ∈ s'.stack, P a) ∧ ∀ a ∈ s'.paths, Q a := by
  obtain ⟨current, rest, hcons, hcase⟩ := pathRound_next h
  rw [hcons, forall_mem_cons] at hstack
  obtain ⟨hcurrent, hrest⟩ := hstack
  rcases hcase with ⟨hroot, hstack', hpaths'⟩ | ⟨hdepth, _, hstack', hpaths'⟩
  · rw [hstack', hpaths', forall_mem_append, forall_mem_singleton]
    exact ⟨hrest, hpaths, hfound current hcurrent (parentsOf_eq_nil.mp hroot)⟩
  · rw [hstack', hpaths', forall_mem_append, forall_mem_map]
    refine ⟨⟨fun row hrow => ?_, hrest⟩, hpaths⟩
    obtain ⟨hmem, hto⟩ := mem_parentsOf.mp hrow
    exact hclimb current row hcurrent hdepth hmem hto

theorem PathSearch.Sound.start : PathSearch.Sound rows target ⟨[.start target], [], []⟩ :=
  ⟨forall_mem_singleton.mpr .refl, forall_mem_nil _⟩

theorem PathSearch.Sound.next (hs : s.Sound rows target)
    (h : pathRound localeLe limits rows s = .next s') : s'.Sound rows target := by
  obtain ⟨hstack, hpaths⟩ := pathRound_forall h
    (fun a row ha _ hrow hto => ha.tail ⟨row, hrow, hto, rfl⟩)
    (fun a ha hroot => ⟨ha, hroot⟩) hs.stack hs.paths
  exact ⟨hstack, hpaths⟩

theorem PathSearch.Complete.next (hs : s.Complete rows target)
    (h : pathRound localeLe limits rows s = .next s') : s'.Complete rows target := by
  obtain ⟨current, rest, hstack, hcase⟩ := pathRound_next h
  intro a ha hroot
  rcases hs a ha hroot with hfound | ⟨b, hb, hclimb⟩
  · left
    rcases hcase with ⟨_, _, hpaths⟩ | ⟨_, _, _, hpaths⟩
    · rw [hpaths]
      exact mem_append_left _ hfound
    · rw [hpaths]
      exact hfound
  · rw [hstack] at hb
    rcases mem_cons.mp hb with rfl | hb
    · -- the entry taken off the stack is the way itself, or goes on upwards
      rcases Relation.ReflTransGen.cases_head hclimb with rfl | ⟨c, hstep, hclimb⟩
      · rcases hcase with ⟨_, _, hpaths⟩ | ⟨_, hparents, _, _⟩
        · left
          rw [hpaths]
          exact mem_append_right _ mem_cons_self
        · exact absurd (parentsOf_eq_nil.mpr hroot) hparents
      · obtain ⟨row, hrow, hto, rfl⟩ := hstep
        rcases hcase with ⟨hparents, _, _⟩ | ⟨_, _, hstack', _⟩
        · exact absurd hto (parentsOf_eq_nil.mp hparents row hrow)
        · right
          refine ⟨b.climb row, ?_, hclimb⟩
          rw [hstack']
          exact mem_append_left _ (mem_map.mpr ⟨row, mem_parentsOf.mpr ⟨hrow, hto⟩, rfl⟩)
    · right
      refine ⟨b, ?_, hclimb⟩
      rcases hcase with ⟨_, hstack', _⟩ | ⟨_, _, hstack', _⟩
      · rw [hstack']
        exact hb
      · rw [hstack']
        exact mem_append_right _ hb

/-- The climb ends with an empty stack, or with a cycle through a container
on the way, or at a limit. -/
theorem pathRound_done {result : Except PathFailure PathSearch}
    (h : pathRound localeLe limits rows s = .done result) :
    (s.stack = [] ∧ result = .ok s) ∨ ∃ failure, result = .error failure ∧
        (failure.code = "container_resolution_limit_exceeded" ∨
          failure.code = "container_cycle_detected" ∧ ∃ current ∈ s.stack, ∃ row ∈ rows,
              row.toContainerId = current.nodeId ∧ row.fromContainerId ∈ current.nodePath) := by
  unfold pathRound at h
  split at h
  next hstack => exact .inl ⟨hstack, (Round.done.inj h).symm⟩
  next current rest hstack =>
    right
    dsimp only at h
    split_ifs at h with hcount hparents hpaths hdepth
    · exact ⟨_, (Round.done.inj h).symm, .inl rfl⟩
    · exact ⟨_, (Round.done.inj h).symm, .inl rfl⟩
    · exact ⟨_, (Round.done.inj h).symm, .inl rfl⟩
    · split at h
      · rename_i row hrow
        refine ⟨_, (Round.done.inj h).symm, .inr ⟨rfl, current, by simp [hstack], row, ?_⟩⟩
        have hmem := mem_reverse.mp (mem_of_find?_eq_some hrow)
        have hon := find?_some hrow
        obtain ⟨hrows, hto⟩ := mem_parentsOf.mp hmem
        exact ⟨hrows, hto, by simpa using hon⟩
      · cases h

/-- A climb from a container of an acyclic graph never reports a cycle. -/
theorem climb_not_cyclic (hacyclic : Digraph.Acyclic (Contains rows)) {failure : PathFailure}
    (h : Loop.run (pathRound localeLe limits rows) (PathSearch.measure limits rows)
      pathRound_decreases ⟨[.start target], [], []⟩ = .error failure) :
    failure.code = "container_resolution_limit_exceeded" := by
  refine Loop.run_post (I := PathSearch.Sound rows target)
    (P := fun result : Except PathFailure PathSearch =>
      ∀ failure, result = .error failure →
        failure.code = "container_resolution_limit_exceeded") ?_ ?_ ?_ failure h
  · intro s s' hs hround
    exact hs.next hround
  · rintro s result hs hround failure rfl
    obtain ⟨_, hok⟩ | ⟨failure', herror, hcode | ⟨_, current, hcurrent, row, hrow, hto, hon⟩⟩ :=
      pathRound_done hround
    · cases hok
    · rw [Except.error.inj herror]
      exact hcode
    · exfalso
      have habove := (hs.stack current hcurrent).above row.fromContainerId hon
      exact hacyclic row.fromContainerId (Relation.TransGen.head' ⟨row, hrow, rfl, hto⟩ habove)
  · exact .start

/-- Every way found, and every entry of the stack, is within the depth limit, and
there is one of them. -/
structure PathSearch.Bounded (limits : ResolutionLimits) (s : PathSearch) : Prop where
  some : s.stack ≠ [] ∨ s.paths ≠ []
  stack : ∀ a ∈ s.stack, a.depth ≤ limits.maxDepth
  paths : ∀ a ∈ s.paths, a.depth ≤ limits.maxDepth

theorem PathSearch.Bounded.next (hs : s.Bounded limits)
    (h : pathRound localeLe limits rows s = .next s') : s'.Bounded limits := by
  obtain ⟨hstack, hpaths⟩ := pathRound_forall h (fun _ _ _ hdepth _ _ => hdepth)
    (fun _ ha _ => ha) hs.stack hs.paths
  refine ⟨?_, hstack, hpaths⟩
  obtain ⟨_, _, -, ⟨-, -, hpaths'⟩ | ⟨-, hparents, hstack', -⟩⟩ := pathRound_next h
  · right
    rw [hpaths']
    exact concat_ne_nil _ _
  · simp [hstack', hparents]

section Climb

variable (h : Loop.run (pathRound localeLe limits rows) (PathSearch.measure limits rows)
  pathRound_decreases ⟨[.start target], [], []⟩ = .ok s)

include h

/-- A climb that succeeds keeps its invariants and empties its stack. -/
theorem climb_ok {I : PathSearch → Prop}
    (hnext : ∀ s s', I s → pathRound localeLe limits rows s = .next s' → I s')
    (hstart : I ⟨[.start target], [], []⟩) : I s ∧ s.stack = [] := by
  refine Loop.run_post (I := I) (P := fun result : Except PathFailure PathSearch =>
    ∀ s, result = .ok s → I s ∧ s.stack = []) hnext ?_ hstart s h
  rintro s result hs hround t rfl
  obtain ⟨hstack, hok⟩ | ⟨_, herror, _⟩ := pathRound_done hround
  · cases hok
    exact ⟨hs, hstack⟩
  · cases herror

/-- It finds the ways to the roots, and no others. -/
theorem mem_climb_paths (a : Ascent) :
    a ∈ s.paths ↔ Climbs rows (.start target) a ∧ IsRoot rows a.nodeId := by
  obtain ⟨⟨hsound, hcomplete⟩, hstack⟩ :=
    climb_ok h (I := fun s => s.Sound rows target ∧ s.Complete rows target)
      (fun _ _ hs hround => ⟨hs.1.next hround, hs.2.next hround⟩)
      ⟨.start, fun _ hclimb _ => .inr ⟨_, mem_cons_self, hclimb⟩⟩
  constructor
  · exact hsound.paths a
  · rintro ⟨hclimb, hroot⟩
    rcases hcomplete a hclimb hroot with hfound | ⟨b, hb, _⟩
    · exact hfound
    · rw [hstack] at hb
      cases hb

theorem climb_paths_bounded : s.paths ≠ [] ∧ ∀ a ∈ s.paths, a.depth ≤ limits.maxDepth := by
  obtain ⟨hs, hstack⟩ := climb_ok h (I := PathSearch.Bounded limits) (fun _ _ hs => hs.next)
    ⟨.inl (cons_ne_nil _ _), forall_mem_singleton.mpr (Nat.zero_le _),
      forall_mem_nil _⟩
  exact ⟨hs.some.resolve_left fun hne => hne hstack, hs.paths⟩

end Climb

/-- A way of some depth has passed that many containers and the target. -/
theorem Climbs.length_nodePath {a : Ascent} (h : Climbs rows (.start target) a) :
    a.nodePath.length = a.depth + 1 := by
  induction h with
  | refl => rfl
  | tail _ hstep ih =>
    obtain ⟨row, _, _, rfl⟩ := hstep
    simp [Ascent.climb, ih]

end

variable {rt : Runtime} {localeLe} {limits : ResolutionLimits} {target : String}
  {relationships : List RelationshipRow} {types : List RelationshipTypeRow}

theorem enumerateContainerPaths_not_cyclic {failure : PathFailure}
    (hacyclic : Digraph.Acyclic (Contains (ancestryRows types relationships)))
    (h : enumerateContainerPaths rt localeLe limits target relationships types =
      .error failure) : failure.code ≠ "container_cycle_detected" := by
  unfold enumerateContainerPaths at h
  dsimp only at h
  split_ifs at h
  · cases h
    simp [limitExceeded]
  · cases h
    decide
  · rcases Throwing.bind_eq_error.mp h with hloop | ⟨_, _, hok⟩
    · rw [climb_not_cyclic hacyclic hloop]
      decide
    · cases hok

section Paths

variable {paths : List ContainerPath}
  (h : enumerateContainerPaths rt localeLe limits target relationships types = .ok paths)

include h

theorem enumerateContainerPaths_ok :
    ∃ s, Loop.run (pathRound localeLe limits (ancestryRows types relationships))
        (PathSearch.measure limits _) pathRound_decreases ⟨[.start target], [], []⟩ = .ok s ∧
      paths = (sortPaths localeLe (s.paths.map (Ascent.body target))).map
        fun p => { toPathBody := p, pathHash := stableSha256 rt (.obj p.fields) } := by
  unfold enumerateContainerPaths at h
  dsimp only at h
  split_ifs at h
  obtain ⟨s, hloop, hok⟩ := Throwing.bind_eq_ok.mp h
  exact ⟨s, hloop, (Except.ok.inj hok).symm⟩

/-- The paths of a container are the ways from its roots down to it. -/
theorem mem_enumerateContainerPaths (body : PathBody) :
    (∃ path ∈ paths, path.toPathBody = body) ↔
      ∃ a, Climbs (ancestryRows types relationships) (.start target) a ∧
        IsRoot (ancestryRows types relationships) a.nodeId ∧
        body = a.body target := by
  obtain ⟨s, hloop, rfl⟩ := enumerateContainerPaths_ok h
  unfold sortPaths
  simp only [mem_map, mem_insertionSort]
  constructor
  · rintro ⟨_, ⟨_, ⟨a, ha, rfl⟩, rfl⟩, rfl⟩
    obtain ⟨hclimb, hroot⟩ := (mem_climb_paths hloop a).mp ha
    exact ⟨a, hclimb, hroot, rfl⟩
  · rintro ⟨a, hclimb, hroot, rfl⟩
    exact ⟨_, ⟨_, ⟨a, (mem_climb_paths hloop a).mpr ⟨hclimb, hroot⟩, rfl⟩, rfl⟩, rfl⟩

theorem enumerateContainerPaths_bounded :
    paths ≠ [] ∧ ∀ path ∈ paths, path.depth ≤ limits.maxDepth := by
  obtain ⟨s, hloop, rfl⟩ := enumerateContainerPaths_ok h
  obtain ⟨hsome, hbound⟩ := climb_paths_bounded hloop
  unfold sortPaths
  constructor
  · intro hnil
    apply hsome
    have hlength := congrArg List.length hnil
    simpa using hlength
  · simp only [mem_map, mem_insertionSort]
    rintro _ ⟨_, ⟨a, ha, rfl⟩, rfl⟩
    exact hbound a ha

end Paths

/-- The enumeration is sound and complete: its paths are the ways from the roots down
to the container, within the depth limit, and it reports a cycle only if there is one. -/
theorem container_paths_exact (rt : Runtime) (localeLe : String → String → Bool)
    (limits : ResolutionLimits) (target : String) (relationships : List RelationshipRow)
    (types : List RelationshipTypeRow) :
    let rows := ancestryRows types relationships
    let result := enumerateContainerPaths rt localeLe limits target relationships types
    (∀ paths, result = .ok paths → paths ≠ [] ∧ (∀ path ∈ paths, path.depth ≤ limits.maxDepth) ∧
      ∀ body, (∃ path ∈ paths, path.toPathBody = body) ↔
        ∃ a, Climbs rows (.start target) a ∧ IsRoot rows a.nodeId ∧ body = a.body target) ∧
    ∀ failure, result = .error failure → failure.code = "container_cycle_detected" →
      ¬Digraph.Acyclic (Contains rows) := by
  refine ⟨fun paths hok => ?_, fun failure herror hcycle hacyclic => ?_⟩
  · obtain ⟨hsome, hbound⟩ := enumerateContainerPaths_bounded hok
    exact ⟨hsome, hbound, mem_enumerateContainerPaths hok⟩
  · exact enumerateContainerPaths_not_cyclic hacyclic herror hcycle

/-! ## The closure table -/

/-- What a path says about one container on it: its distance to the
descendant and the relationships on the way. -/
structure ClosureEvidence where
  ancestorId : String
  depth : Nat
  relationshipIds : List String

def ContainerPath.evidence (p : ContainerPath) : List ClosureEvidence :=
  p.containerIds.zipIdx.map fun x =>
    { ancestorId := x.1
      depth := p.containerIds.length - 1 - x.2
      relationshipIds := p.relationshipIds.drop x.2 }

def closurePathHash (rt : Runtime) (ancestor descendant : String)
    (paths : List (List String)) : String :=
  stableSha256 rt (.obj [("ancestor", .str ancestor), ("descendant", .str descendant),
    ("paths", .arr (paths.map fun ids => .arr (ids.map .str)))])

def minimumOf (depths : List Nat) : Nat :=
  depths.foldl min (depths.headD 0)

def maximumOf (depths : List Nat) : Nat :=
  depths.foldl max 0

section

variable (rt : Runtime) (localeLe : String → String → Bool)

def selfClosureRow (tenantId descendantId : String) (authorityEpoch : Nat) : ClosureRow :=
  { tenantId
    ancestorContainerId := descendantId
    descendantContainerId := descendantId
    shortestDepth := 0
    longestDepth := 0
    pathCount := 1
    pathHash := closurePathHash rt descendantId descendantId [[]]
    authorityEpoch }

def ancestorClosureRow (tenantId descendantId : String) (authorityEpoch : Nat)
    (evidence : List ClosureEvidence) (ancestorId : String) : ClosureRow :=
  let own := evidence.filter fun item => item.ancestorId == ancestorId
  let sortedPaths := (own.map (·.relationshipIds)).insertionSort fun a b =>
    localeLe (stableStringify (.arr (a.map .str))) (stableStringify (.arr (b.map .str))) = true
  { tenantId
    ancestorContainerId := ancestorId
    descendantContainerId := descendantId
    shortestDepth := minimumOf (own.map (·.depth))
    longestDepth := maximumOf (own.map (·.depth))
    pathCount := own.length
    pathHash := closurePathHash rt ancestorId descendantId sortedPaths
    authorityEpoch }

/-- The rows of one descendant, which its own row comes first in. -/
def closureRowsOf (tenantId descendantId : String) (authorityEpoch : Nat)
    (paths : List ContainerPath) : List ClosureRow :=
  let evidence := paths.flatMap ContainerPath.evidence
  let ancestors := (evidence.map (·.ancestorId)).eraseDups.filter (· != descendantId)
  selfClosureRow rt tenantId descendantId authorityEpoch :: ancestors.map
      (ancestorClosureRow rt localeLe tenantId descendantId authorityEpoch evidence)

def ClosureRow.key (row : ClosureRow) : String :=
  row.ancestorContainerId ++ "|" ++ row.descendantContainerId

/-- `rowsByKey.set(key, row)`. -/
def setClosureRow (rows : List ClosureRow) (row : ClosureRow) : List ClosureRow :=
  if rows.any fun other => other.key == row.key then
    rows.map fun other => if other.key == row.key then row else other
  else rows ++ [row]

def buildContainerClosureRows (limits : ResolutionLimits) (tenantId : String)
    (containers : List ContainerRow) (relationships : List RelationshipRow)
    (relationshipTypes : List RelationshipTypeRow) (authorityEpoch : Nat) :
    Except PathFailure (List ClosureRow) :=
  (containers.filter fun row =>
      row.status.isActive && row.tenantId == tenantId).foldlM
    (fun rows container => do
      let paths ← enumerateContainerPaths rt localeLe limits container.containerId
        relationships relationshipTypes
      .ok ((closureRowsOf rt localeLe tenantId container.containerId
        authorityEpoch paths).foldl setClosureRow rows))
    []

end

end GrowthOs.Containers
