import GrowthOs.Containers.Graph

/-!
# What the search for a containment cycle finds

The search marks a container when it first takes it off the stack, so the way to an entry
of the stack leads through containers that are all marked and all different.
-/

namespace GrowthOs.Containers

open List
open Relation (ReflTransGen)

variable {limits : ResolutionLimits} {rows : List RelationshipRow} {fromId toId node : String}

/-- A way down from `toId` to a container, with the containers on it. -/
inductive Way (rows : List RelationshipRow) (toId : String) : String → List String → Prop
  | start : Way rows toId toId [toId]
  | down {node target : String} {path : List String} (way : Way rows toId node path)
      (edge : Contains rows node target) : Way rows toId target (path ++ [target])

theorem Way.reaches {path : List String} (h : Way rows toId node path) :
    ReflTransGen (Contains rows) toId node := by
  induction h with
  | start => exact .refl
  | down _ hedge ih => exact ih.tail hedge

/-- More relationships than the limit, more containers below `toId`, or a way down through
so many different containers that goes on. -/
def LimitExceeded (limits : ResolutionLimits) (rows : List RelationshipRow) (toId : String) :
    Prop :=
  limits.maxTraversedRelationships < rows.length ∨
    (∃ nodes : List String, nodes.Nodup ∧ limits.maxVisitedContainers < nodes.length ∧
      ∀ node ∈ nodes, ReflTransGen (Contains rows) toId node) ∨
    ∃ node path, Way rows toId node path ∧ path.Nodup ∧ limits.maxDepth < path.length ∧
      ∃ target, Contains rows node target

/-- How the search has come to an entry of its stack. -/
structure Visit.Reached (rows : List RelationshipRow) (toId : String) (visited : List String)
    (v : Visit) : Prop where
  way : Way rows toId v.node v.path
  length : v.path.length = v.depth + 1
  through : ∃ before, v.path = before ++ [v.node] ∧ before.Nodup ∧ ∀ node ∈ before, node ∈ visited

structure CycleSearch.Traced (rows : List RelationshipRow) (toId : String) (s : CycleSearch) :
    Prop where
  stack : ∀ v ∈ s.stack, v.Reached rows toId s.visited
  nodup : s.visited.Nodup
  below : ∀ node ∈ s.visited, ReflTransGen (Contains rows) toId node

variable {s : CycleSearch} {v : Visit} {visited : List String}

theorem CycleSearch.Traced.start : CycleSearch.Traced rows toId ⟨[⟨toId, [toId], 0⟩], []⟩ :=
  ⟨forall_mem_singleton.mpr ⟨.start, rfl, [], rfl, .nil, nofun⟩, .nil, nofun⟩

/-- The way to a container that is not marked yet does not repeat itself. -/
theorem Visit.Reached.nodup (h : v.Reached rows toId visited) (hnew : v.node ∉ visited) :
    v.path.Nodup := by
  obtain ⟨before, hpath, hnodup, hmarked⟩ := h.through
  rw [hpath, nodup_append_comm, singleton_append, nodup_cons]
  exact ⟨fun hmem => hnew (hmarked _ hmem), hnodup⟩

theorem Visit.Reached.mono (h : v.Reached rows toId visited) (marked : String) :
    v.Reached rows toId (marked :: visited) := by
  obtain ⟨before, hpath, hnodup, hmarked⟩ := h.through
  exact ⟨h.way, h.length, before, hpath, hnodup, fun _ hmem => .tail _ (hmarked _ hmem)⟩

theorem Visit.Reached.down {target : String} (h : v.Reached rows toId visited)
    (hnew : v.node ∉ visited) (hedge : Contains rows v.node target) :
    Visit.Reached rows toId (v.node :: visited) ⟨target, v.path ++ [target], v.depth + 1⟩ := by
  refine ⟨h.way.down hedge, by simp [h.length], v.path, rfl, h.nodup hnew, fun node hmem => ?_⟩
  obtain ⟨before, hpath, _, hmarked⟩ := h.through
  rw [hpath, mem_append, mem_singleton] at hmem
  obtain hmem | rfl := hmem
  · exact .tail _ (hmarked node hmem)
  · exact .head _

theorem CycleSearch.Traced.next {s' : CycleSearch} (hs : s.Traced rows toId)
    (h : cycleRound limits rows fromId s = .next s') : s'.Traced rows toId := by
  obtain ⟨current, rest, hstack, hcase⟩ := cycleRound_next h
  have hreached := hs.stack
  rw [hstack, forall_mem_cons] at hreached
  obtain ⟨_, rfl⟩ | ⟨hnew, _, rfl⟩ := hcase
  · exact ⟨hreached.2, hs.nodup, hs.below⟩
  · refine ⟨fun v hv => ?_, hs.nodup.cons hnew, ?_⟩
    · rcases mem_append.mp hv with hv | hv
      · obtain ⟨target, htarget, rfl⟩ := mem_map.mp hv
        exact hreached.1.down hnew (mem_targetsOf.mp htarget)
      · exact (hreached.2 v hv).mono current.node
    · rw [forall_mem_cons]
      exact ⟨hreached.1.way.reaches, hs.below⟩

/-- What the answer says where a cycle or a limit is reported. -/
def CycleCheck.Sound (limits : ResolutionLimits) (rows : List RelationshipRow)
    (fromId toId : String) (c : CycleCheck) : Prop :=
  (c.hasCycle = true → ∃ path, c.path = fromId :: path ∧ Way rows toId fromId path) ∧
    (c.code = some "container_resolution_limit_exceeded" → LimitExceeded limits rows toId)

theorem CycleSearch.Traced.sound {c : CycleCheck} (hs : s.Traced rows toId)
    (h : cycleRound limits rows fromId s = .done c) : c.Sound limits rows fromId toId := by
  obtain ⟨_, hcycle, hcode⟩ | ⟨_, current, hmem, hnew, hlimit | hfound⟩ := cycleRound_done h
  · simp [CycleCheck.Sound, hcycle, hcode]
  · have hreached := hs.stack current hmem
    obtain ⟨hcycle, hcount | ⟨hdepth, htargets⟩⟩ := hlimit
    · refine ⟨by simp [hcycle], fun _ => .inr (.inl ⟨_, hs.nodup.cons hnew, hcount, ?_⟩)⟩
      rw [forall_mem_cons]
      exact ⟨hreached.way.reaches, hs.below⟩
    · obtain ⟨target, htarget⟩ := exists_mem_of_ne_nil _ htargets
      have hlength := hreached.length
      exact ⟨by simp [hcycle], fun _ => .inr (.inr ⟨_, _, hreached.way, hreached.nodup hnew,
        by omega, target, mem_targetsOf.mp htarget⟩)⟩
  · obtain ⟨hcode, htarget, hpath⟩ := hfound
    refine ⟨fun _ => ⟨_, hpath, ?_⟩, by simp [hcode]⟩
    exact (hs.stack current hmem).way.down (mem_targetsOf.mp htarget)

variable (limits) (relationships : List RelationshipRow) (r : RelationshipRequest)
  (types : List RelationshipTypeRow)

theorem detectContainmentCycle_sound :
    (detectContainmentCycle limits relationships r types).Sound limits
      (ancestryRows types relationships) r.fromContainerId r.toContainerId := by
  unfold detectContainmentCycle
  dsimp only
  split_ifs with hempty hself hmany
  · simp [CycleCheck.Sound]
  · rw [hself]
    exact ⟨fun _ => ⟨_, rfl, .start⟩, by simp⟩
  · exact ⟨by simp, fun _ => .inl hmany⟩
  · exact Loop.run_post (I := CycleSearch.Traced _ r.toContainerId)
      (fun _ _ hs hround => hs.next hround) (fun _ _ hs hround => hs.sound hround) .start

/-- The search for a cycle is sound and complete: an answer that does not block the new
relationship leaves an acyclic set acyclic, a reported cycle leads from the new
relationship back to its start, and a reported limit is exceeded. -/
theorem containment_cycle_detection (limits : ResolutionLimits)
    (relationships : List RelationshipRow) (r : RelationshipRequest)
    (types : List RelationshipTypeRow) :
    let rows := ancestryRows types relationships
    let check := detectContainmentCycle limits relationships r types
    (check.blocked = false →
      ¬ReflTransGen (Contains rows) r.toContainerId r.fromContainerId ∧
        (Digraph.Acyclic (Contains rows) → Digraph.Acyclic fun a b =>
          Contains rows a b ∨ a = r.fromContainerId ∧ b = r.toContainerId)) ∧
      (check.hasCycle = true →
        ReflTransGen (Contains rows) r.toContainerId r.fromContainerId ∧
          ∃ path, check.path = r.fromContainerId :: path ∧
            Way rows r.toContainerId r.fromContainerId path) ∧
      (check.code = some "container_resolution_limit_exceeded" →
        LimitExceeded limits rows r.toContainerId) := by
  obtain ⟨hcycle, hlimit⟩ := detectContainmentCycle_sound limits relationships r types
  refine ⟨fun hclear => ?_, fun hfound => ?_, hlimit⟩
  · have hfar := detectContainmentCycle_unblocked hclear
    exact ⟨hfar, fun hacyclic => hacyclic.extra (fun _ _ hedge => hedge) hfar⟩
  · obtain ⟨path, hpath, hway⟩ := hcycle hfound
    exact ⟨hway.reaches, path, hpath, hway⟩

end GrowthOs.Containers
