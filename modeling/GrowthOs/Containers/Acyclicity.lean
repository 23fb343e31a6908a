import GrowthOs.Containers.Mutation
import GrowthOs.Support.Transition

/-!
# The container graph over time

Relationships are created one transaction at a time while the clock goes on.
The cycle check of a new relationship sees the relationships that are valid
when it is created.  As long as no ancestry relationship is created to become
valid later, what is valid at some instant was valid, with its checks passed,
at every instant since its creation, and the graph stays acyclic.
-/

namespace GrowthOs.Containers

open Js Transition List
open Throwing (bind_eq_ok rejectIf_eq_ok)

variable {sql : Sql}

/-! ## What a created relationship has passed -/

/-- The row an insertion adds. -/
structure RelationshipRow.StoredFrom (sql : Sql) (row : RelationshipRow)
    (r : RelationshipRequest) : Prop where
  tenant : row.tenantId = r.tenantId
  source : row.fromContainerId = r.fromContainerId
  target : row.toContainerId = r.toContainerId
  type : row.relationshipTypeKey = r.relationshipTypeKey
  validFrom : datetimeColumn sql r.validFrom = .ok row.validFrom

variable {r : RelationshipRequest} {s s' : AuthorityStore sql}

theorem insertRelationship_ok (h : insertRelationship r s = .ok s') :
    ∃ row : RelationshipRow, row.StoredFrom sql r ∧
      s'.relationships.rows = s.relationships.rows ++ [row] ∧ s'.now = s.now := by
  simp only [insertRelationship, bind_eq_ok, requireRow_eq_ok] at h
  obtain ⟨_, _, validFrom, hfrom, _, _, relationships, hinsert, h⟩ := h
  obtain ⟨hrows, _⟩ := Table.UniqueTable.insert_eq_some hinsert
  rw [← Except.ok.inj h]
  exact ⟨_, ⟨rfl, rfl, rfl, rfl, hfrom⟩, hrows, rfl⟩

/-- The relationship types every function loads. -/
def activeTypes (reg : Registry) : List RelationshipTypeRow :=
  reg.relationshipTypes.filter (·.status.isActive)

variable {reg : Registry}

/-- A checked relationship of an ancestry type closes no cycle now. -/
theorem checkRelationship_ok (h : checkRelationship reg r s = .ok ())
    (htype : isAncestryType (activeTypes reg) r.relationshipTypeKey = true) :
    ¬Relation.ReflTransGen
      (Contains (ancestryRows (activeTypes reg) (loadedRelationships s r.tenantId)))
      r.toContainerId r.fromContainerId := by
  simp only [checkRelationship, bind_eq_ok, rejectIf_eq_ok] at h
  obtain ⟨validation, hvalidation, _, _, _, _, hcycle⟩ := h
  have hfound : validation.relationshipType =
      rowOf (·.relationshipTypeKey) (activeTypes reg) r.relationshipTypeKey := by
    simp only [validateContainerRelationship, bind_eq_ok] at hvalidation
    obtain ⟨_, _, hvalidation⟩ := hvalidation
    rw [← Except.ok.inj hvalidation]
    rfl
  have hclear : (detectContainmentCycle defaultLimits
      (loadedRelationships s r.tenantId) r (activeTypes reg)).blocked = false := by
    cases hblocked : (detectContainmentCycle defaultLimits
      (loadedRelationships s r.tenantId) r (activeTypes reg)).blocked with
    | false => rfl
    | true =>
      exfalso
      refine hcycle ⟨?_, hblocked⟩
      rw [hfound]
      obtain ⟨type, htypeRow, hcounts⟩ := (Option.any_eq_true _ _).mp htype
      obtain ⟨_, hone⟩ := Bool.and_eq_true_iff.mp hcounts
      simp [htypeRow, beq_iff_eq.mp hone]
  exact detectContainmentCycle_unblocked hclear

variable {input response : Val} {opts : CallOptions} {drawnId : String}
  {ledger : Table.UniqueTable (ledgerKeys sql)} {localeLe : String → String → Bool}

/-- What `createContainerRelationship` leaves, beside the result it keeps. -/
theorem createContainerRelationship_ok {rt : Runtime}
    (h : createContainerRelationship rt localeLe reg ledger input opts drawnId s =
      .ok (response, s')) :
    s' = s ∨ ∃ r row, readRelationshipRequest input opts.actor drawnId = .ok r ∧
      checkRelationship reg r s = .ok () ∧ row.StoredFrom sql r ∧
      s'.relationships.rows = s.relationships.rows ++ [row] ∧ s'.now = s.now := by
  obtain ⟨call, hprepare, ⟨_, rfl⟩ | ⟨_, _, committed, _, _, _, hcommit, rfl⟩⟩ :=
    createContainerEntity_ok h
  · exact .inl rfl
  · right
    simp only [prepareCall, bind_eq_ok] at hprepare
    obtain ⟨_, _, key, _, request, hrequest, hcall⟩ := hprepare
    obtain rfl := Except.ok.inj hcall
    simp only [MutationKind.readRequest, bind_eq_ok] at hrequest
    obtain ⟨r, hr, hrequest⟩ := hrequest
    obtain rfl := Except.ok.inj hrequest
    obtain ⟨outcome, written, hwork, hsame, _⟩ := commitCall_ok hcommit
    simp only [MutationRequest.work, relationshipWork, bind_eq_ok] at hwork
    obtain ⟨_, _, _, hcheck, inserted, hinsert, hwork⟩ := hwork
    obtain ⟨_, rfl⟩ := Prod.mk.inj (Except.ok.inj hwork)
    obtain ⟨row, hstored, hrows, hnow⟩ := insertRelationship_ok hinsert
    obtain ⟨idempotency, hstore⟩ := storeIdempotentResult_eq committed
      (MutationRequest.relationship r).scopeKey key
      (PreparedCall.requestSha256 rt ⟨.relationship r, key⟩)
      (MutationRequest.relationship r).resultType
      (MutationRequest.relationship r).resultId response 60
    refine ⟨r, row, hr, hcheck, hstored, ?_, ?_⟩
    · unfold storeResult
      rw [hstore]
      exact (congrArg (·.rows) hsame.relationships).trans hrows
    · unfold storeResult
      rw [hstore]
      exact hsame.now.trans hnow

/-! ## Runs -/

inductive GraphEvent
  | created (input : Val) (opts : CallOptions) (drawnId : String)
  | ticked (now : Nat)

/-- A successful call in one transaction, or the clock going on. -/
def GraphStep (rt : Runtime) (localeLe : String → String → Bool) (reg : Registry)
    (ledger : Table.UniqueTable (ledgerKeys sql)) (s : AuthorityStore sql)
    (e : GraphEvent) (s' : AuthorityStore sql) : Prop :=
  match e with
  | .created input opts drawnId =>
    ∃ response, createContainerRelationship rt localeLe reg ledger input opts
      drawnId s = .ok (response, s')
  | .ticked now => s.now ≤ now ∧ s' = { s with now }

/-- A relationship of an ancestry type is not created to become valid later. -/
def ValidAtOnce (reg : Registry) (s : AuthorityStore sql) : GraphEvent → Prop
  | .created input _ _ =>
    ∀ type, textOf (input.member "relationshipType") = .ok type →
      isAncestryType (activeTypes reg) type = true →
      (input.member "validFrom").truthy = true →
      ∀ t, sql.datetime (input.member "validFrom") = some t → t ≤ s.now
  | .ticked _ => True

/-- The containers of a tenant as the relationships valid now arrange them. -/
def containment (reg : Registry) (s : AuthorityStore sql) (tenantId : String) :
    String → String → Prop :=
  Contains (ancestryRows (activeTypes reg) (loadedRelationships s tenantId))

/-- Ancestry relationships are valid since some time in the past, and those
valid now close no cycle. -/
structure AuthorityStore.Arranged (reg : Registry) (s : AuthorityStore sql) : Prop where
  since : ∀ row ∈ s.relationships.rows,
    isAncestryType (activeTypes reg) row.relationshipTypeKey = true →
      ∀ t, row.validFrom = some t → t ≤ s.now
  acyclic : ∀ tenantId, Digraph.Acyclic (containment reg s tenantId)

variable {row : RelationshipRow}

theorem mem_ancestryRows {types : List RelationshipTypeRow} {rows : List RelationshipRow} :
    row ∈ ancestryRows types rows ↔ row ∈ rows ∧ row.status.isActive = true ∧
        isAncestryType types row.relationshipTypeKey = true := by
  unfold ancestryRows
  rw [mem_filter, Bool.and_eq_true]

theorem mem_loadedRelationships {tenantId : String} :
    row ∈ loadedRelationships s tenantId ↔
      row ∈ s.relationships.rows ∧ sql.collate row.tenantId = sql.collate tenantId ∧
        row.status.isActive = true ∧
        validAt s.now row.validFrom row.validUntil = true := by
  unfold loadedRelationships
  rw [mem_filter, Bool.and_eq_true, Bool.and_eq_true, beq_iff_eq, and_assoc]

/-- The clock only takes relationships out of force. -/
theorem AuthorityStore.Arranged.tick (hs : s.Arranged reg) {now : Nat} (hnow : s.now ≤ now) :
    AuthorityStore.Arranged reg { s with now } := by
  constructor
  · intro row hrow htype t ht
    exact (hs.since row hrow htype t ht).trans hnow
  · intro tenantId
    refine (hs.acyclic tenantId).mono ?_
    rintro parent child ⟨row, hrow, hedge⟩
    obtain ⟨hloaded, hactive, htype⟩ := mem_ancestryRows.mp hrow
    obtain ⟨hmem, htenant, hstatus, hvalid⟩ := mem_loadedRelationships.mp hloaded
    obtain ⟨_, huntil⟩ := validAt_iff.mp hvalid
    refine ⟨row, ?_, hedge⟩
    rw [mem_ancestryRows, mem_loadedRelationships, validAt_iff]
    refine ⟨⟨hmem, htenant, hstatus, hs.since row hmem htype, ?_⟩, hactive, htype⟩
    intro t ht
    exact hnow.trans_lt (huntil t ht)

/-- The start of validity that a created row stores. -/
theorem storedFrom_validAtOnce (honce : ValidAtOnce reg s (.created input opts drawnId))
    (hr : readRelationshipRequest input opts.actor drawnId = .ok r) (hstored : row.StoredFrom sql r)
    (htype : isAncestryType (activeTypes reg) row.relationshipTypeKey = true) :
    ∀ t, row.validFrom = some t → t ≤ s.now := by
  simp only [readRelationshipRequest, bind_eq_ok] at hr
  obtain ⟨_, _, _, _, _, _, _, _, type, htext, _, _, _, _, hr⟩ := hr
  obtain rfl := Except.ok.inj hr
  intro t ht
  have hcolumn : datetimeColumn sql ((input.member "validFrom").or .null) = .ok row.validFrom :=
    hstored.validFrom
  rw [hstored.type] at htype
  rw [ht, datetimeColumn, Val.or] at hcolumn
  cases htruthy : (input.member "validFrom").truthy with
  | false =>
    rw [htruthy] at hcolumn
    cases hcolumn
  | true =>
    rw [htruthy, if_pos rfl] at hcolumn
    split at hcolumn
    next => cases hcolumn
    next =>
      obtain ⟨t', hdatetime, heq⟩ := bind_eq_ok.mp hcolumn
      obtain rfl := Option.some.inj (Except.ok.inj heq)
      exact honce type htext htype htruthy t' (requireRow_eq_ok.mp hdatetime)

/-- Tenants that the database does not tell apart load the same rows. -/
theorem loadedRelationships_congr (s : AuthorityStore sql) {t u : String}
    (h : sql.collate t = sql.collate u) : loadedRelationships s t = loadedRelationships s u := by
  unfold loadedRelationships
  rw [h]

/-- After a creation, a relationship in force was in force before or is the new
one. -/
theorem containment_created {tenantId parent child : String}
    (hrows : s'.relationships.rows = s.relationships.rows ++ [row]) (hnow : s'.now = s.now)
    (h : containment reg s' tenantId parent child) :
    containment reg s tenantId parent child ∨ (sql.collate row.tenantId = sql.collate tenantId ∧
        isAncestryType (activeTypes reg) row.relationshipTypeKey = true) ∧
        parent = row.fromContainerId ∧ child = row.toContainerId := by
  obtain ⟨other, hother, hparent, hchild⟩ := h
  obtain ⟨hloaded, hactive, htype⟩ := mem_ancestryRows.mp hother
  obtain ⟨hmem, htenant, hstatus, hvalid⟩ := mem_loadedRelationships.mp hloaded
  rw [hrows, mem_append, mem_singleton] at hmem
  rcases hmem with hmem | rfl
  · left
    rw [hnow] at hvalid
    refine ⟨other, ?_, hparent, hchild⟩
    rw [mem_ancestryRows, mem_loadedRelationships]
    exact ⟨⟨hmem, htenant, hstatus, hvalid⟩, hactive, htype⟩
  · exact .inr ⟨⟨htenant, htype⟩, hparent.symm, hchild.symm⟩

theorem AuthorityStore.Arranged.create {rt : Runtime} (hs : s.Arranged reg)
    (h : createContainerRelationship rt localeLe reg ledger input opts drawnId s =
      .ok (response, s')) (honce : ValidAtOnce reg s (.created input opts drawnId)) :
    s'.Arranged reg := by
  obtain rfl | ⟨r, row, hr, hcheck, hstored, hrows, hnow⟩ :=
    createContainerRelationship_ok h
  · exact hs
  · constructor
    · intro other hother htype t ht
      rw [hnow]
      rw [hrows, mem_append, mem_singleton] at hother
      rcases hother with hother | rfl
      · exact hs.since other hother htype t ht
      · exact storedFrom_validAtOnce honce hr hstored htype t ht
    · intro tenantId
      by_cases hnew : sql.collate row.tenantId = sql.collate tenantId ∧
          isAncestryType (activeTypes reg) row.relationshipTypeKey = true
      · -- the cycle check was made on the relationships of this tenant
        have htype := hnew.2
        rw [hstored.type] at htype
        have hfar := checkRelationship_ok hcheck htype
        rw [← hstored.tenant, loadedRelationships_congr s hnew.1,
          ← hstored.source, ← hstored.target] at hfar
        refine (hs.acyclic tenantId).extra ?_ hfar
        intro parent child hedge
        rcases containment_created hrows hnow hedge with hold | ⟨_, hends⟩
        · exact .inl hold
        · exact .inr hends
      · refine (hs.acyclic tenantId).mono ?_
        intro parent child hedge
        rcases containment_created hrows hnow hedge with hold | ⟨hcounts, _⟩
        · exact hold
        · exact absurd hcounts hnew

theorem arranged_of_empty (h : s.relationships.rows = []) : s.Arranged reg := by
  constructor
  · intro row hrow
    rw [h] at hrow
    cases hrow
  · intro tenantId x hx
    obtain ⟨_, hedge, _⟩ := Relation.TransGen.head'_iff.mp hx
    obtain ⟨row, hrow, _⟩ := hedge
    have hmem := (mem_loadedRelationships.mp (mem_ancestryRows.mp hrow).1).1
    rw [h] at hmem
    cases hmem

/-- From an empty table, in every run of creations and clock ticks that creates
no ancestry relationship to become valid later: at every instant the ancestry
relationships in force are acyclic, and no climb reports a cycle. -/
theorem containment_acyclic_when_valid_at_once (rt : Runtime)
    (localeLe : String → String → Bool) (reg : Registry)
    (ledger : Table.UniqueTable (ledgerKeys sql)) {s₀ s : AuthorityStore sql}
    {events : List GraphEvent} (hempty : s₀.relationships.rows = [])
    (hrun : Run (restrict (GraphStep rt localeLe reg ledger) (ValidAtOnce reg))
      s₀ events s) (tenantId : String) :
    Digraph.Acyclic (containment reg s tenantId) ∧ ∀ limits target failure,
        enumerateContainerPaths rt localeLe limits target
            (loadedRelationships s tenantId) (activeTypes reg) = .error failure →
          failure.code ≠ "container_cycle_detected" := by
  have harranged : s.Arranged reg := by
    refine hrun.invariant (I := AuthorityStore.Arranged reg) ?_ (arranged_of_empty hempty)
    rintro s (⟨input, opts, drawnId⟩ | now) s' hs ⟨hstep, honce⟩
    · obtain ⟨response, hcreate⟩ := hstep
      exact hs.create hcreate honce
    · obtain ⟨hnow, rfl⟩ := hstep
      exact hs.tick hnow
  refine ⟨harranged.acyclic tenantId, ?_⟩
  intro limits target failure hfailure
  exact enumerateContainerPaths_not_cyclic (harranged.acyclic tenantId) hfailure

/-! ## A planned relationship -/

/-- A call with its own identifier, key and start of validity. -/
def containsCall (id source target : String) (validFrom : Val) : GraphEvent :=
  .created (.obj [("relationshipId", .str id), ("tenantId", .str "t"),
      ("fromContainerId", .str source), ("toContainerId", .str target),
      ("relationshipType", .str "contains"), ("validFrom", validFrom)])
    (keyedCall ("key-" ++ id ++ "-create")) ""

/-- The store an event leaves, `none` where it cannot happen. -/
def GraphEvent.result (e : GraphEvent) (s : AuthorityStore plainSql) :
    Option (AuthorityStore plainSql) :=
  match e with
  | .created input opts drawnId =>
    (createContainerRelationship plainRuntime keyLe activityRegistry .empty input opts drawnId
      s).toOption.map Prod.snd
  | .ticked now => if s.now ≤ now then some { s with now } else none

def GraphEvent.play (e : GraphEvent) (s : AuthorityStore plainSql) : AuthorityStore plainSql :=
  (e.result s).getD s

theorem graphStep_play {e : GraphEvent} {s : AuthorityStore plainSql}
    (h : (e.result s).isSome = true) :
    GraphStep plainRuntime keyLe activityRegistry .empty s e (e.play s) := by
  obtain ⟨s', hs'⟩ := Option.isSome_iff_exists.mp h
  rw [GraphEvent.play, hs', Option.getD_some]
  cases e with
  | created input opts drawnId =>
    obtain ⟨created, hcreated, rfl⟩ := Option.map_eq_some_iff.mp hs'
    exact ⟨created.1, Throwing.ok_of_toOption hcreated⟩
  | ticked now => simpa [GraphEvent.result, GraphStep, eq_comm] using hs'

instance decidableContains (rows : List RelationshipRow) (parent child : String) :
    Decidable (Contains rows parent child) :=
  inferInstanceAs (Decidable (∃ row ∈ rows,
    row.fromContainerId = parent ∧ row.toContainerId = child))

/-- The code a climb fails with. -/
def pathFailureCode (result : Except PathFailure (List ContainerPath)) : Option String :=
  match result with
  | .ok _ => none
  | .error failure => some failure.code

def plannedStore : AuthorityStore plainSql :=
  (containsCall "r1" "a" "b" (.num (.ofNat 5))).play emptyAuthority

def crossedStore : AuthorityStore plainSql :=
  (containsCall "r2" "b" "a" .undefined).play plannedStore

/-- `b` is put under `a` from time 5 on, and `a` under `b` at once; at time 5
both are in force, and a climb from `a` reports a cycle. -/
theorem planned_relationship_closes_cycle :
    Run (GraphStep plainRuntime keyLe activityRegistry .empty) emptyAuthority
      [containsCall "r1" "a" "b" (.num (.ofNat 5)), containsCall "r2" "b" "a" .undefined, .ticked 5]
      { crossedStore with now := 5 } ∧
    ¬Digraph.Acyclic (containment activityRegistry { crossedStore with now := 5 } "t") ∧
    pathFailureCode (enumerateContainerPaths plainRuntime keyLe defaultLimits "a"
      (loadedRelationships { crossedStore with now := 5 } "t")
      (activeTypes activityRegistry)) = some "container_cycle_detected" := by
  have heval :
      ((containsCall "r1" "a" "b" (.num (.ofNat 5))).result emptyAuthority).isSome = true ∧
      ((containsCall "r2" "b" "a" .undefined).result plannedStore).isSome = true ∧
      crossedStore.now ≤ 5 ∧
      Contains (ancestryRows (activeTypes activityRegistry)
        (loadedRelationships { crossedStore with now := 5 } "t")) "a" "b" ∧
      Contains (ancestryRows (activeTypes activityRegistry)
        (loadedRelationships { crossedStore with now := 5 } "t")) "b" "a" ∧
      pathFailureCode (enumerateContainerPaths plainRuntime keyLe defaultLimits "a"
        (loadedRelationships { crossedStore with now := 5 } "t")
        (activeTypes activityRegistry)) = some "container_cycle_detected" := by
    decide +kernel
  obtain ⟨hfirst, hsecond, hnow, hdown, hup, hcode⟩ := heval
  refine ⟨?_, ?_, hcode⟩
  · exact .cons (graphStep_play hfirst) (.cons (graphStep_play hsecond) (.single ⟨hnow, rfl⟩))
  · intro hacyclic
    exact hacyclic "a" (.head hdown (.single hup))

def nestedStore : AuthorityStore plainSql :=
  (containsCall "r1" "a" "b" .undefined).play emptyAuthority

/-- `b` is put under `a` and `c` under `b`, both at once. -/
theorem containment_acyclic_when_valid_at_once_nested :
    let s := (containsCall "r2" "b" "c" .undefined).play nestedStore
    containment activityRegistry s "t" "a" "b" ∧ containment activityRegistry s "t" "b" "c" ∧
      Digraph.Acyclic (containment activityRegistry s "t") := by
  intro s
  have hevents : ((containsCall "r1" "a" "b" .undefined).result emptyAuthority).isSome = true ∧
      ((containsCall "r2" "b" "c" .undefined).result nestedStore).isSome = true := by
    decide +kernel
  have honce : ∀ (s : AuthorityStore plainSql) id source target,
      ValidAtOnce activityRegistry s (containsCall id source target .undefined) := by
    intro s id source target type _ _ htruthy
    cases htruthy
  refine ⟨?_, ?_, (containment_acyclic_when_valid_at_once plainRuntime keyLe
    activityRegistry .empty rfl (.cons ⟨graphStep_play hevents.1, honce _ _ _ _⟩
      (.single ⟨graphStep_play hevents.2, honce _ _ _ _⟩)) "t").1⟩ <;>
    unfold containment <;> decide +kernel

end GrowthOs.Containers
