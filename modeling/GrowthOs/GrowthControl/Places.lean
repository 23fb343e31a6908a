import GrowthOs.GrowthControl.Scopes

/-!
# Places and their keys

A scope stands for a place: its type and the identifiers of that type.  The
scope key joins them with colons, and identifiers may contain colons, so
different places may share a key.
-/

namespace GrowthOs.GrowthControl

open Js List

/-! ## Places -/

/-- The type of a scope with the identifiers of that type. -/
inductive Place
  | platform
  | activity (activityTypeKey : String)
  | tenant (tenantId : String)
  | workspace (tenantId workspaceId : String)
  | brand (tenantId workspaceId brandKey : String)
  | profile (tenantId workspaceId brandKey profileKey : String)
  | workflow (tenantId workspaceId brandKey workflowKey version : String)
  | workflowNode (tenantId workspaceId brandKey workflowKey version nodeId : String)
  | plan (tenantId workspaceId brandKey planId : String)
  | execution (tenantId workspaceId brandKey executionId : String)
deriving DecidableEq

/-- A text that `clean` returns. -/
structure IsIdentifier (text : String) : Prop where
  nonempty : text ≠ ""
  trimmed : Trimmed text.toList

theorem IsIdentifier.toList_ne_nil {text : String} (h : IsIdentifier text) : text.toList ≠ [] :=
  mt String.toList_eq_nil_iff.mp h.nonempty

namespace Place

/-- The identifiers are clean; a version may be any text. -/
def Valid : Place → Prop
  | .platform => True
  | .activity a => IsIdentifier a
  | .tenant t => IsIdentifier t
  | .workspace t w => IsIdentifier t ∧ IsIdentifier w
  | .brand t w b => IsIdentifier t ∧ IsIdentifier w ∧ IsIdentifier b
  | .profile t w b p => IsIdentifier t ∧ IsIdentifier w ∧ IsIdentifier b ∧ IsIdentifier p
  | .workflow t w b k _ => IsIdentifier t ∧ IsIdentifier w ∧ IsIdentifier b ∧ IsIdentifier k
  | .workflowNode t w b k _ n =>
    IsIdentifier t ∧ IsIdentifier w ∧ IsIdentifier b ∧ IsIdentifier k ∧ IsIdentifier n
  | .plan t w b p => IsIdentifier t ∧ IsIdentifier w ∧ IsIdentifier b ∧ IsIdentifier p
  | .execution t w b e => IsIdentifier t ∧ IsIdentifier w ∧ IsIdentifier b ∧ IsIdentifier e

/-- The labelled parts of the key. -/
def parts : Place → List String
  | .platform => ["platform"]
  | .activity a => ["activity", a]
  | .tenant t => ["tenant", t]
  | .workspace t w => ["tenant", t, "workspace", w]
  | .brand t w b => ["tenant", t, "workspace", w, "brand", b]
  | .profile t w b p => ["tenant", t, "workspace", w, "brand", b, "profile", p]
  | .workflow t w b k v => ["tenant", t, "workspace", w, "brand", b, "workflow", k, v]
  | .workflowNode t w b k v n =>
    ["tenant", t, "workspace", w, "brand", b, "workflow", k, v, "node", n]
  | .plan t w b p => ["tenant", t, "workspace", w, "brand", b, "plan", p]
  | .execution t w b e => ["tenant", t, "workspace", w, "brand", b, "execution", e]

def key (place : Place) : String :=
  ":".intercalate place.parts

theorem parts_injective {place other : Place} (h : place.parts = other.parts) : place = other := by
  cases place <;> cases other <;> simp_all [parts]

end Place

/-! ## Identifiers without colons -/

def ColonFree (text : String) : Prop :=
  ':' ∉ text.toList

theorem join_injective {parts parts' : List String} (hne : parts ≠ []) (hne' : parts' ≠ [])
    (hparts : ∀ part ∈ parts, ColonFree part) (hparts' : ∀ part ∈ parts', ColonFree part)
    (h : ":".intercalate parts = ":".intercalate parts') : parts = parts' := by
  have hsplit : ∀ parts : List String, parts ≠ [] → (∀ part ∈ parts, ColonFree part) →
      List.splitOn ':' (":".intercalate parts).toList = parts.map String.toList := by
    intro parts hne hparts
    rw [String.toList_intercalate]
    refine splitOn_intercalate ':' ?_ (by simpa using hne)
    intro chars hchars
    obtain ⟨part, hpart, rfl⟩ := mem_map.mp hchars
    exact hparts part hpart
  have heq := congrArg (fun text : String => List.splitOn ':' text.toList) h
  rw [hsplit parts hne hparts, hsplit parts' hne' hparts'] at heq
  exact map_injective_iff.mpr (fun _ _ => String.toList_injective) heq

/-- No part of the key has a colon. -/
def Place.ColonFree (place : Place) : Prop :=
  ∀ part ∈ place.parts, GrowthControl.ColonFree part

theorem Place.parts_ne_nil (place : Place) : place.parts ≠ [] := by
  cases place <;> simp [Place.parts]

/-- Without colons the key determines the place. -/
theorem Place.key_injective {place other : Place} (hplace : place.ColonFree)
    (hother : other.ColonFree) (h : place.key = other.key) : place = other :=
  Place.parts_injective (join_injective place.parts_ne_nil other.parts_ne_nil hplace hother h)

/-! ## Places that share a key -/

/-- The last character is white space. -/
def EndsInSpace (text : String) : Prop :=
  ∃ c ∈ text.toList.getLast?, isWhiteSpace c = true

/-- No other place has the key of this one.  Only the version of a workflow may
end in white space; every other place below a tenant shares its key with the
tenant whose identifier is the rest of the key. -/
def Place.Safe : Place → Prop
  | .platform => True
  | .activity _ => True
  | .tenant t => ∀ x y, IsIdentifier x → IsIdentifier y → t ≠ x ++ ":workspace:" ++ y
  | .workflow t w b k v =>
    EndsInSpace v ∧ ∀ t' w' b' k' v', (Place.workflow t' w' b' k' v').Valid →
      t' ++ ":workspace:" ++ w' ++ ":brand:" ++ b' ++ ":workflow:" ++ k' ++ ":" ++ v' =
        t ++ ":workspace:" ++ w ++ ":brand:" ++ b ++ ":workflow:" ++ k ++ ":" ++ v →
      t' = t ∧ w' = w ∧ b' = b ∧ k' = k ∧ v' = v
  | _ => False

namespace Place

/-- The key of a place below a tenant. -/
structure Below (place : Place) (t w : String) (more : List Char) : Prop where
  tenantId : IsIdentifier t
  workspaceId : IsIdentifier w
  key : place.key.toList = "tenant:".toList ++ t.toList ++ ":workspace:".toList ++ w.toList ++ more

variable {place : Place} {t w : String}

theorem exists_below {rest : List String}
    (hparts : place.parts = "tenant" :: t :: "workspace" :: w :: rest) (ht : IsIdentifier t)
    (hw : IsIdentifier w) : ∃ t w more, place.Below t w more := by
  cases rest with
  | nil => exact ⟨t, w, [], ht, hw, by simp [key, hparts]⟩
  | cons part rest =>
    refine ⟨t, w, ':' :: (":".intercalate (part :: rest)).toList, ht, hw, ?_⟩
    simp [key, hparts, String.intercalate_cons_of_ne_nil]

/-- Every valid place is the platform, an activity, a tenant or below one. -/
theorem below_of_valid (h : place.Valid) :
    place = .platform ∨ (∃ a, place = .activity a) ∨ (∃ t, place = .tenant t) ∨
      ∃ t w more, place.Below t w more := by
  cases place with
  | platform => exact .inl rfl
  | activity a => exact .inr (.inl ⟨a, rfl⟩)
  | tenant t => exact .inr (.inr (.inl ⟨t, rfl⟩))
  | workspace => exact .inr (.inr (.inr (exists_below rfl h.1 h.2)))
  | brand | profile | workflow | workflowNode | plan | execution =>
    exact .inr (.inr (.inr (exists_below rfl h.1 h.2.1)))

/-- A key ends with its last part. -/
theorem key_ends {last : String} (h : place.parts.getLast? = some last) :
    ∃ chars, place.key.toList = chars ++ last.toList := by
  obtain ⟨front, hparts⟩ := getLast?_eq_some_iff.mp h
  rw [key, hparts]
  clear hparts
  induction front with
  | nil => exact ⟨[], by simp⟩
  | cons part front ih =>
    obtain ⟨chars, hchars⟩ := ih
    refine ⟨part.toList ++ ':' :: chars, ?_⟩
    rw [cons_append, String.intercalate_cons_of_ne_nil (by simp), String.toList_append, hchars]
    simp

theorem isIdentifier_platform : IsIdentifier "platform" := by
  refine ⟨by decide, ?_, ?_⟩
  all_goals
    intro c hc
    simp only [Option.mem_def, String.reduceToList, List.head?_cons, List.getLast?_cons_cons,
      List.getLast?_singleton, Option.some.injEq] at hc
    subst hc
    decide

/-- Only a workflow's key may end in white space. -/
theorem workflow_of_endsInSpace (h : place.Valid) (hspace : EndsInSpace place.key) :
    ∃ t w b k v, place = .workflow t w b k v ∧ EndsInSpace v := by
  obtain ⟨c, hc, hwhite⟩ := hspace
  have hlast : ∀ {id : String}, IsIdentifier id → place.parts.getLast? = some id → False := by
    intro id hid hparts
    obtain ⟨chars, hkey⟩ := key_ends hparts
    rw [hkey, List.getLast?_append_of_ne_nil _ hid.toList_ne_nil] at hc
    rw [hid.trimmed.2 c hc] at hwhite
    cases hwhite
  cases place with
  | platform => exact (hlast isIdentifier_platform rfl).elim
  | activity | tenant => exact (hlast h rfl).elim
  | workspace => exact (hlast h.2 rfl).elim
  | brand => exact (hlast h.2.2 rfl).elim
  | profile | plan | execution => exact (hlast h.2.2.2 rfl).elim
  | workflow t w b k v =>
    refine ⟨t, w, b, k, v, rfl, c, ?_, hwhite⟩
    have hkey : (Place.workflow t w b k v).key.toList = ("tenant:".toList ++ t.toList ++
        ":workspace:".toList ++ w.toList ++ ":brand:".toList ++ b.toList ++
        ":workflow:".toList ++ k.toList) ++ [':'] ++ v.toList := by
      simp [key, parts]
    by_cases hv : v.toList = []
    · -- the key ends with the colon before an empty version
      rw [hkey, hv, append_nil, List.getLast?_append_of_ne_nil _ (by simp),
        List.getLast?_singleton, Option.mem_some_iff] at hc
      rw [← hc] at hwhite
      exact absurd hwhite (by decide)
    · rw [hkey, List.getLast?_append_of_ne_nil _ hv] at hc
      exact hc
  | workflowNode => exact (hlast h.2.2.2.2 rfl).elim

variable {more : List Char}

/-- A place below a tenant shares its key with a tenant, unless the key ends in
white space. -/
theorem exists_tenant_of_below (h : place.Below t w more) (hspace : ¬EndsInSpace place.key) :
    ∃ id, IsIdentifier id ∧ (Place.tenant id).key = place.key := by
  let chars := t.toList ++ ":workspace:".toList ++ w.toList ++ more
  have hne := h.tenantId.toList_ne_nil
  have hkey : place.key.toList = "tenant:".toList ++ chars := by
    rw [h.key]
    simp [chars]
  have hchars : chars ≠ [] := by simp [chars, hne]
  refine ⟨String.ofList chars, ⟨?_, ?_, ?_⟩, ?_⟩
  · intro hempty
    exact hchars (by simpa using congrArg String.toList hempty)
  · intro c hc
    refine h.tenantId.trimmed.1 c ?_
    simpa [chars, List.head?_append_of_ne_nil _ hne] using hc
  · intro c hc
    rw [String.toList_ofList] at hc
    by_contra hwhite
    refine hspace ⟨c, ?_, by simpa using hwhite⟩
    rw [hkey, List.getLast?_append_of_ne_nil _ hchars]
    exact hc
  · refine String.toList_injective ?_
    rw [hkey]
    simp [key, parts]

/-- A tenant that shares its key with a place below a tenant. -/
theorem split_of_below {id : String} (h : place.Below t w more) (hid : IsIdentifier id)
    (hkey : place.key = (Place.tenant id).key) :
    ∃ y, IsIdentifier y ∧ id = t ++ ":workspace:" ++ y := by
  have hne := h.workspaceId.toList_ne_nil
  have hchars : id.toList = t.toList ++ ":workspace:".toList ++ (w.toList ++ more) := by
    have hlist := congrArg String.toList hkey
    rw [h.key] at hlist
    have htenant : (Place.tenant id).key.toList = "tenant:".toList ++ id.toList := by
      simp [key, parts]
    rw [htenant, append_assoc, append_assoc, append_assoc] at hlist
    rw [← append_cancel_left hlist]
    simp
  refine ⟨String.ofList (w.toList ++ more), ⟨?_, ?_, ?_⟩, ?_⟩
  · intro hempty
    have hnil := congrArg String.toList hempty
    rw [String.toList_ofList] at hnil
    exact hne (append_eq_nil_iff.mp hnil).1
  · intro c hc
    rw [String.toList_ofList, List.head?_append_of_ne_nil _ hne] at hc
    exact h.workspaceId.trimmed.1 c hc
  · intro c hc
    rw [String.toList_ofList] at hc
    refine hid.trimmed.2 c ?_
    rw [hchars, List.getLast?_append_of_ne_nil _ (by simp [hne])]
    exact hc
  · refine String.toList_injective ?_
    rw [hchars]
    simp

/-- The first letter of a key. -/
def initial : Place → Char
  | .platform => 'p'
  | .activity _ => 'a'
  | _ => 't'

theorem head_key (place : Place) : place.key.toList.head? = some place.initial := by
  cases place <;> simp [key, parts, initial]

theorem initial_eq {other : Place} (h : other.key = place.key) : other.initial = place.initial := by
  refine Option.some.inj ?_
  rw [← head_key, ← head_key, h]

theorem key_workflow (t w b k v : String) :
    (Place.workflow t w b k v).key = "tenant:" ++ (t ++ ":workspace:" ++ w ++ ":brand:" ++ b ++
      ":workflow:" ++ k ++ ":" ++ v) := by
  refine String.toList_injective ?_
  simp [key, parts]

/-- No other place has the key of this one. -/
def KeyIsUnique (place : Place) : Prop :=
  ∀ other, other.Valid → other.key = place.key → other = place

theorem safe_tenant (hunique : (Place.tenant t).KeyIsUnique) : (Place.tenant t).Safe := by
  intro x y hx hy heq
  have hkey : (Place.workspace x y).key = (Place.tenant t).key := by
    refine String.toList_injective ?_
    rw [heq]
    simp [key, parts]
  cases hunique (.workspace x y) ⟨hx, hy⟩ hkey

theorem safe_workflow {b k v : String} (hunique : (Place.workflow t w b k v).KeyIsUnique)
    (hv : EndsInSpace v) : (Place.workflow t w b k v).Safe := by
  refine ⟨hv, ?_⟩
  intro t' w' b' k' v' hvalid htext
  have hkey : (Place.workflow t' w' b' k' v').key = (Place.workflow t w b k v).key := by
    rw [key_workflow, key_workflow, htext]
  cases hunique _ hvalid hkey
  exact ⟨rfl, rfl, rfl, rfl, rfl⟩

/-- Below a tenant, a key that is unique ends in white space: otherwise the
tenant whose identifier is the rest of the key has it too. -/
theorem tenant_or_workflow_of_unique (h : place.Valid) (hunique : place.KeyIsUnique)
    (hbelow : place.Below t w more) :
    (∃ id, place = .tenant id) ∨ ∃ t w b k v, place = .workflow t w b k v ∧ EndsInSpace v := by
  by_cases hspace : EndsInSpace place.key
  · exact .inr (workflow_of_endsInSpace h hspace)
  · obtain ⟨id, hid, hkey⟩ := exists_tenant_of_below hbelow hspace
    exact .inl ⟨id, (hunique (.tenant id) hid hkey).symm⟩

theorem safe_of_unique (h : place.Valid) (hunique : place.KeyIsUnique) : place.Safe := by
  rcases below_of_valid h with rfl | ⟨a, rfl⟩ | ⟨t, rfl⟩ | ⟨t, w, more, hbelow⟩
  · trivial
  · trivial
  · exact safe_tenant hunique
  · rcases tenant_or_workflow_of_unique h hunique hbelow with
      ⟨id, rfl⟩ | ⟨t, w, b, k, v, rfl, hv⟩
    · exact safe_tenant hunique
    · exact safe_workflow hunique hv

theorem unique_of_safe (h : place.Valid) (hsafe : place.Safe) : place.KeyIsUnique := by
  intro other hother hkey
  have hinitial := initial_eq hkey
  cases place with
  | platform =>
    cases other with
    | platform => rfl
    | _ => exact absurd hinitial (by simp [initial])
  | activity a =>
    cases other with
    | activity a' =>
      obtain rfl : a' = a := by simpa [key, parts] using hkey
      rfl
    | _ => exact absurd hinitial (by simp [initial])
  | tenant t =>
    rcases below_of_valid hother with rfl | ⟨a, rfl⟩ | ⟨t', rfl⟩ | ⟨t', w', more, hbelow⟩
    · exact absurd hinitial (by simp [initial])
    · exact absurd hinitial (by simp [initial])
    · obtain rfl : t' = t := by simpa [key, parts] using hkey
      rfl
    · obtain ⟨y, hy, heq⟩ := split_of_below hbelow h hkey
      exact absurd heq (hsafe t' y hbelow.tenantId hy)
  | workflow t w b k v =>
    obtain ⟨chars, hchars⟩ : ∃ chars, (Place.workflow t w b k v).key.toList = chars ++ v.toList :=
      key_ends rfl
    have hspace : EndsInSpace other.key := by
      obtain ⟨c, hc, hwhite⟩ := hsafe.1
      refine ⟨c, ?_, hwhite⟩
      rw [hkey, hchars, List.getLast?_append_of_ne_nil _ (ne_nil_of_mem
        (mem_of_mem_getLast? hc))]
      exact hc
    obtain ⟨t', w', b', k', v', rfl, -⟩ := workflow_of_endsInSpace hother hspace
    rw [key_workflow, key_workflow] at hkey
    obtain ⟨rfl, rfl, rfl, rfl, rfl⟩ :=
      hsafe.2 t' w' b' k' v' hother ((String.append_right_inj _).mp hkey)
    rfl
  | _ => exact hsafe.elim

/-- The places whose key only they have are the safe ones. -/
theorem keyIsUnique_iff (h : place.Valid) : place.KeyIsUnique ↔ place.Safe :=
  ⟨safe_of_unique h, unique_of_safe h⟩

end Place

end GrowthOs.GrowthControl
