import GrowthOs.GrowthControl.RowOrder
import GrowthOs.Js.JsonRoundTrip

/-!
# The identity of a control-plane document

The canonical text is meant to identify a document up to the order of its keys.
Assigning the field `__proto__` leaves no field in the copy, so two documents
that differ in such fields only share a text; all others are told apart.
-/

namespace GrowthOs.GrowthControl

open Js JsonText List Comparison

/-- Equal up to the order of object keys, at any depth. -/
inductive SameDocument : Val → Val → Prop
  | refl (v) : SameDocument v v
  | symm {v w} : SameDocument v w → SameDocument w v
  | trans {u v w} : SameDocument u v → SameDocument v w → SameDocument u w
  | elem {v w} (before after) : SameDocument v w →
      SameDocument (.arr (before ++ v :: after)) (.arr (before ++ w :: after))
  | field {v w} (before key after) : SameDocument v w →
      SameDocument (.obj (before ++ (key, v) :: after)) (.obj (before ++ (key, w) :: after))
  | perm {fields fields'} : (fields.map Prod.fst).Nodup → fields.Perm fields' →
      SameDocument (.obj fields) (.obj fields')

mutual

/-- The value without its fields `__proto__`, at any depth. -/
def strip : Val → Val
  | .arr elems => .arr (stripElems elems)
  | .obj fields => .obj (stripFields fields)
  | v => v

def stripElems : List Val → List Val
  | [] => []
  | v :: rest => strip v :: stripElems rest

def stripFields : List (String × Val) → List (String × Val)
  | [] => []
  | (key, v) :: rest =>
    if key = "__proto__" then stripFields rest else (key, strip v) :: stripFields rest

end

/-- Two documents that fields `__proto__` alone tell apart. -/
def DifferInProto (a b : Val) : Prop :=
  SameDocument (strip a) (strip b) ∧ ¬SameDocument a b

variable {a b : Val} {fields : List (String × Val)}

theorem SameDocument.length_ownFields (h : SameDocument a b) :
    a.ownFields.length = b.ownFields.length := by
  induction h with
  | refl => rfl
  | symm _ ih => exact ih.symm
  | trans _ _ ih ih' => exact ih.trans ih'
  | elem => simp [Val.ownFields, Val.indexed]
  | field => simp [Val.ownFields]
  | perm _ hperm => exact hperm.length_eq

theorem writableElems_iff {elems : List Val} : WritableElems elems ↔ ∀ v ∈ elems, Writable v := by
  induction elems with
  | nil => simp [WritableElems]
  | cons v rest ih => rw [WritableElems, ih, forall_mem_cons]

theorem SameDocument.writable_iff (h : SameDocument a b) : Writable a ↔ Writable b := by
  induction h with
  | refl => rfl
  | symm _ ih => exact ih.symm
  | trans _ _ ih ih' => exact ih.trans ih'
  | elem before after _ ih => simp [Writable, writableElems_iff, or_imp, forall_and, ih]
  | field before key after _ ih =>
    rw [Writable, Writable, writableFields_iff, writableFields_iff]
    simp [or_imp, forall_and, ih]
  | perm hnodup hperm =>
    simp only [Writable, writableFields_iff, (hperm.map Prod.fst).nodup_iff, hperm.mem_iff]

/-! ## Equal documents have one canonical form -/

theorem canonicalizeElems_eq (elems : List Val) :
    canonicalizeElems elems = elems.map canonicalize := by
  induction elems with
  | nil => rfl
  | cons v rest ih => rw [canonicalizeElems, ih, map_cons]

theorem SameDocument.canonicalize_eq (h : SameDocument a b) : canonicalize a = canonicalize b := by
  induction h with
  | refl => rfl
  | symm _ ih => exact ih.symm
  | trans _ _ ih ih' => exact ih.trans ih'
  | elem before after _ ih => simp [canonicalize, canonicalizeElems_eq, ih]
  | field before key after _ ih =>
    simp only [canonicalize, canonicalizeFields_eq, filter_append, filter_cons]
    by_cases hkey : key = "__proto__" <;> simp [hkey, ih]
  | perm hnodup hperm => rw [canonicalize, canonicalize, canonicalizeFields_perm hperm hnodup]

/-! ## A stripped document equals its canonical form -/

theorem mem_stripFields {key : String} (h : ∀ field ∈ fields, field.1 ≠ key) :
    ∀ field ∈ stripFields fields, field.1 ≠ key := by
  induction fields with
  | nil => exact h
  | cons first rest ih =>
    rw [forall_mem_cons] at h
    rw [stripFields]
    split
    · exact ih h.2
    · exact forall_mem_cons.mpr ⟨h.1, ih h.2⟩

mutual

theorem writable_strip : ∀ v : Val, Writable v → Writable (strip v)
  | .undefined, h | .null, h | .bool _, h | .num _, h | .str _, h => h
  | .arr elems, h => writableElems_strip elems h
  | .obj fields, h => writableFields_strip fields h

theorem writableElems_strip : ∀ elems : List Val,
    WritableElems elems → WritableElems (stripElems elems)
  | [], h => h
  | v :: rest, h => ⟨writable_strip v h.1, writableElems_strip rest h.2⟩

theorem writableFields_strip : ∀ fields : List (String × Val),
    WritableFields fields → WritableFields (stripFields fields)
  | [], h => h
  | (key, v) :: rest, h => by
    rw [stripFields]
    split
    · exact writableFields_strip rest h.2.2
    · exact ⟨mem_stripFields h.1, writable_strip v h.2.1, writableFields_strip rest h.2.2⟩

end

mutual

/-- The canonical form has no field `__proto__` anyway. -/
theorem canonicalize_strip : ∀ v : Val, canonicalize (strip v) = canonicalize v
  | .undefined | .null | .bool _ | .num _ | .str _ => rfl
  | .arr elems => congrArg Val.arr (canonicalizeElems_strip elems)
  | .obj fields => congrArg Val.obj (canonicalizeFields_strip fields)

theorem canonicalizeElems_strip : ∀ elems : List Val,
    canonicalizeElems (stripElems elems) = canonicalizeElems elems
  | [] => rfl
  | v :: rest => congrArg₂ cons (canonicalize_strip v) (canonicalizeElems_strip rest)

theorem canonicalizeFields_strip : ∀ fields : List (String × Val),
    canonicalizeFields (stripFields fields) = canonicalizeFields fields
  | [] => rfl
  | (key, v) :: rest => by
    by_cases hproto : key = "__proto__" <;>
      simp [stripFields, canonicalizeFields, hproto, canonicalize_strip v,
        canonicalizeFields_strip rest]

end

/-- The fields of an object other than `__proto__`, with canonical values. -/
def canonicalCopies (fields : List (String × Val)) : List (String × Val) :=
  (fields.filter fun field => field.1 ≠ "__proto__").map fun field =>
    (field.1, canonicalize field.2)

mutual

theorem sameDocument_canonicalize : ∀ v : Val, Writable v →
    SameDocument (strip v) (canonicalize v)
  | .undefined, _ | .null, _ | .bool _, _ | .num _, _ | .str _, _ => .refl _
  | .arr elems, h => sameDocument_elems elems [] h
  | .obj fields, h => by
    rw [canonicalize, canonicalizeFields_eq]
    refine (sameDocument_fields fields [] h).trans (.perm ?_ (sortBy_perm _ _).symm)
    rw [nil_append, canonicalCopies, map_map]
    exact (writableFields_iff.mp h).1.sublist (filter_sublist.map _)

theorem sameDocument_elems : ∀ elems before : List Val, WritableElems elems →
    SameDocument (.arr (before ++ stripElems elems)) (.arr (before ++ canonicalizeElems elems))
  | [], _, _ => .refl _
  | v :: rest, before, h => by
    have hrest := sameDocument_elems rest (before ++ [canonicalize v]) h.2
    rw [append_assoc, append_assoc] at hrest
    exact (SameDocument.elem before _ (sameDocument_canonicalize v h.1)).trans hrest

theorem sameDocument_fields : ∀ fields before : List (String × Val), WritableFields fields →
    SameDocument (.obj (before ++ stripFields fields)) (.obj (before ++ canonicalCopies fields))
  | [], _, _ => .refl _
  | (key, v) :: rest, before, h => by
    rw [stripFields, canonicalCopies, filter_cons]
    by_cases hproto : key = "__proto__"
    · rw [if_pos hproto, if_neg (by simp [hproto])]
      exact sameDocument_fields rest before h.2.2
    · have hrest := sameDocument_fields rest (before ++ [(key, canonicalize v)]) h.2.2
      rw [append_assoc, append_assoc] at hrest
      rw [if_neg hproto, if_pos (by simp [hproto])]
      exact (SameDocument.field before key _ (sameDocument_canonicalize v h.2.1)).trans hrest

end

/-! ## The text -/

theorem writable_canonicalize (h : Writable a) : Writable (canonicalize a) :=
  (sameDocument_canonicalize a h).writable_iff.mp (writable_strip a h)

/-- The text shows a document without its fields `__proto__`. -/
theorem stableSerialize_eq_iff (ha : Writable a) (hb : Writable b) :
    stableSerialize a = stableSerialize b ↔ SameDocument (strip a) (strip b) := by
  have hsame := sameDocument_canonicalize a ha
  have hsame' := sameDocument_canonicalize b hb
  constructor
  · intro h
    have hcanonical : canonicalize a = canonicalize b :=
      jsonStringify_injective (writable_canonicalize ha) (writable_canonicalize hb) h
    rw [hcanonical] at hsame
    exact hsame.trans hsame'.symm
  · intro h
    rw [stableSerialize, stableSerialize, ← canonicalize_strip a, ← canonicalize_strip b,
      h.canonicalize_eq]

/-- The canonical text, and with an injective digest the digest, tells two
documents apart up to the order of keys exactly when they do not differ in fields
`__proto__` alone. -/
theorem canonical_text_identifies_iff (rt : Runtime) {a b : Val} (ha : Writable a)
    (hb : Writable b) :
    ((stableSerialize a = stableSerialize b ↔ SameDocument a b) ↔ ¬DifferInProto a b) ∧
      (Function.Injective rt.sha256 →
        ((stableSha256 rt a = stableSha256 rt b ↔ SameDocument a b) ↔ ¬DifferInProto a b)) := by
  have htext : (stableSerialize a = stableSerialize b ↔ SameDocument a b) ↔
      ¬DifferInProto a b := by
    have hkept : SameDocument a b → stableSerialize a = stableSerialize b := by
      intro h
      rw [stableSerialize, stableSerialize, h.canonicalize_eq]
    rw [DifferInProto, ← stableSerialize_eq_iff ha hb, not_and_not_right]
    exact ⟨Iff.mp, fun h => ⟨h, hkept⟩⟩
  refine ⟨htext, ?_⟩
  intro hsha
  obtain ⟨text, ha', -⟩ := jsonParse_jsonStringify (writable_canonicalize ha)
  obtain ⟨text', hb', -⟩ := jsonParse_jsonStringify (writable_canonicalize hb)
  have hdigest : stableSha256 rt a = stableSha256 rt b ↔ stableSerialize a = stableSerialize b := by
    simp [stableSha256, stableSerialize, ha', hb', hsha.eq_iff]
  rw [hdigest]
  exact htext

theorem canonical_text_identifies_iff_proto :
    stableSerialize (.obj [("__proto__", .bool true)]) =
        stableSerialize (.obj [("x", .bool true)]) ↔
      SameDocument (.obj [("__proto__", .bool true)]) (.obj [("x", .bool true)]) := by
  refine (canonical_text_identifies_iff ⟨id, fun _ => none, fun _ => ""⟩ ?_ ?_).1.mpr ?_
  · simp [Writable, WritableFields]
  · simp [Writable, WritableFields]
  · intro h
    exact absurd h.1.length_ownFields (by decide)

/-- Two documents with one canonical text. -/
theorem proto_field_lost :
    let document : Val := .obj [("__proto__", .bool true)]
    Writable document ∧ stableSerialize document = stableSerialize (.obj []) ∧
      ¬ SameDocument document (.obj []) := by
  refine ⟨by simp [Writable, WritableFields], rfl, ?_⟩
  intro h
  exact absurd h.length_ownFields (by simp [Val.ownFields])

end GrowthOs.GrowthControl
