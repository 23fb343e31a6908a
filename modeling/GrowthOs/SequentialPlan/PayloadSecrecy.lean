import GrowthOs.SequentialPlan.Payload

/-!
# What the payload checks guarantee

Both traversals stop at one depth.  A payload that `assertSecretFreePayload`
accepts holds no secret and is left alone by `sanitizeSecretPayload` exactly when
the sanitizer would put nothing else in place of what lies below that depth.
What was sanitized holds no secret at any depth, since the sanitizer cuts off
what it does not look at.
-/

namespace GrowthOs.SequentialPlan

open GrowthOs.Js Throwing

mutual

/-- A secret is seen: a text less than `levels` below the value, or a key of an
object there. -/
def ShowsSecret : Val → Nat → Prop
  | _, 0 => False
  | .str s, _ + 1 => secretValue s = true
  | .arr elems, levels + 1 => ElementsShow elems levels
  | .obj fields, levels + 1 => FieldsShow fields levels
  | _, _ + 1 => False

def ElementsShow : List Val → Nat → Prop
  | [], _ => False
  | v :: rest, levels => ShowsSecret v levels ∨ ElementsShow rest levels

def FieldsShow : List (String × Val) → Nat → Prop
  | [], _ => False
  | (key, v) :: rest, levels =>
    secretKey key = true ∨ ShowsSecret v levels ∨ FieldsShow rest levels

end

mutual

/-- What lies `levels` below the value is the text that stands for it, and no
object above has the key `__proto__`. -/
def Covered : Val → Nat → Prop
  | v, 0 => v = .str "[max-depth]"
  | .arr elems, levels + 1 => CoveredElements elems levels
  | .obj fields, levels + 1 => CoveredFields fields levels
  | _, _ + 1 => True

def CoveredElements : List Val → Nat → Prop
  | [], _ => True
  | v :: rest, levels => Covered v levels ∧ CoveredElements rest levels

def CoveredFields : List (String × Val) → Nat → Prop
  | [], _ => True
  | (key, v) :: rest, levels =>
    key ≠ "__proto__" ∧ Covered v levels ∧ CoveredFields rest levels

end

mutual

/-- No string anywhere in the value matches a secret value pattern, and no key
the secret key pattern, unless the key's value is exempt. -/
def SecretFree (exempt : Val → Prop) : Val → Prop
  | .str s => secretValue s = false
  | .arr elems => SecretFreeElements exempt elems
  | .obj fields => SecretFreeFields exempt fields
  | _ => True

def SecretFreeElements (exempt : Val → Prop) : List Val → Prop
  | [] => True
  | v :: rest => SecretFree exempt v ∧ SecretFreeElements exempt rest

def SecretFreeFields (exempt : Val → Prop) : List (String × Val) → Prop
  | [] => True
  | (key, v) :: rest =>
    (secretKey key = true → exempt v) ∧ SecretFree exempt v ∧ SecretFreeFields exempt rest

end

mutual

/-- A value is accepted when it shows no secret down to the depth of the check. -/
theorem accepted_iff : ∀ (v : Val) (path : String) {depth levels : Nat},
    depth + levels = maxPayloadDepth + 1 →
      (assertSecretFreePayload v path depth = .ok () ↔ ¬ShowsSecret v levels)
  | .str s, path, depth, 0, h | .arr _, path, depth, 0, h | .obj _, path, depth, 0, h => by
    have hdeep : maxPayloadDepth < depth := by omega
    simp [assertSecretFreePayload, ShowsSecret, hdeep]
  | .str s, path, depth, levels + 1, h => by
    have hseen : ¬maxPayloadDepth < depth := by omega
    cases hs : secretValue s <;> simp [assertSecretFreePayload, ShowsSecret, hseen, hs]
  | .arr elems, path, depth, levels + 1, h => by
    have hseen : ¬maxPayloadDepth < depth := by omega
    rw [assertSecretFreePayload, if_neg hseen, ShowsSecret]
    exact accepted_elements_iff elems path 0 (by omega)
  | .obj fields, path, depth, levels + 1, h => by
    have hseen : ¬maxPayloadDepth < depth := by omega
    rw [assertSecretFreePayload, if_neg hseen, ShowsSecret]
    exact accepted_fields_iff fields path (by omega)
  | .undefined, _, _, 0, _ | .null, _, _, 0, _ | .bool _, _, _, 0, _ | .num _, _, _, 0, _
  | .undefined, _, _, _ + 1, _ | .null, _, _, _ + 1, _ | .bool _, _, _, _ + 1, _
  | .num _, _, _, _ + 1, _ => by simp [assertSecretFreePayload, ShowsSecret]

theorem accepted_elements_iff : ∀ (elems : List Val) (path : String) (index : Nat)
    {depth levels : Nat}, depth + levels = maxPayloadDepth + 1 →
      (assertSecretFreeElements elems path index depth = .ok () ↔ ¬ElementsShow elems levels)
  | [], _, _, _, _, _ => by simp [assertSecretFreeElements, ElementsShow]
  | v :: rest, path, index, depth, levels, h => by
    simp only [assertSecretFreeElements, bind_eq_ok, ElementsShow, not_or, accepted_iff v _ h,
      accepted_elements_iff rest path _ h, exists_const]

theorem accepted_fields_iff : ∀ (fields : List (String × Val)) (path : String)
    {depth levels : Nat}, depth + levels = maxPayloadDepth + 1 →
      (assertSecretFreeFields fields path depth = .ok () ↔ ¬FieldsShow fields levels)
  | [], _, _, _, _ => by simp [assertSecretFreeFields, FieldsShow]
  | (key, v) :: rest, path, depth, levels, h => by
    simp only [assertSecretFreeFields, bind_eq_ok, rejectIf_eq_ok, FieldsShow, not_or,
      accepted_iff v _ h, accepted_fields_iff rest path h, exists_const]

end

theorem length_sanitizeFields_le (fields : List (String × Val)) (depth : Nat) :
    (sanitizeFields fields depth).length ≤ fields.length := by
  induction fields with
  | nil => exact Nat.le_refl _
  | cons field rest ih =>
    rw [sanitizeFields]
    split
    · exact Nat.le_succ_of_le ih
    · exact Nat.succ_le_succ ih

mutual

/-- Where no secret is seen, the value is secret-free and its own sanitized form
exactly when it is covered. -/
theorem kept_iff : ∀ (v : Val) {depth levels : Nat}, depth + levels = maxPayloadDepth + 1 →
    ¬ShowsSecret v levels →
      (SecretFree (fun _ => False) v ∧ sanitizeSecretPayload v depth = v ↔ Covered v levels)
  | v, depth, 0, h, _ => by
    have hdeep : maxPayloadDepth < depth := by omega
    have hcut : sanitizeSecretPayload v depth = .str "[max-depth]" := by
      cases v <;> simp [sanitizeSecretPayload, hdeep]
    rw [hcut, Covered.eq_1, eq_comm]
    refine and_iff_right_of_imp ?_
    rintro rfl
    exact (by decide : secretValue "[max-depth]" = false)
  | .str s, depth, levels + 1, h, hshow => by
    have hseen : ¬maxPayloadDepth < depth := by omega
    have hs : secretValue s = false := eq_false_of_ne_true hshow
    simp [SecretFree, sanitizeSecretPayload, Covered, hseen, hs]
  | .arr elems, depth, levels + 1, h, hshow => by
    have hseen : ¬maxPayloadDepth < depth := by omega
    rw [SecretFree, sanitizeSecretPayload, if_neg hseen, Val.arr.injEq, Covered]
    exact kept_elements_iff elems (by omega) hshow
  | .obj fields, depth, levels + 1, h, hshow => by
    have hseen : ¬maxPayloadDepth < depth := by omega
    rw [SecretFree, sanitizeSecretPayload, if_neg hseen, Val.obj.injEq, Covered]
    exact kept_fields_iff fields (by omega) hshow
  | .undefined, depth, _ + 1, h, _ | .null, depth, _ + 1, h, _ | .bool _, depth, _ + 1, h, _
  | .num _, depth, _ + 1, h, _ => by
    have hseen : ¬maxPayloadDepth < depth := by omega
    simp [SecretFree, sanitizeSecretPayload, Covered, hseen]

theorem kept_elements_iff : ∀ (elems : List Val) {depth levels : Nat},
    depth + levels = maxPayloadDepth + 1 → ¬ElementsShow elems levels →
      (SecretFreeElements (fun _ => False) elems ∧ sanitizeElements elems depth = elems ↔
        CoveredElements elems levels)
  | [], _, _, _, _ => by simp [SecretFreeElements, sanitizeElements, CoveredElements]
  | v :: rest, depth, levels, h, hshow => by
    obtain ⟨hv, hrest⟩ := not_or.mp hshow
    rw [CoveredElements, ← kept_iff v h hv, ← kept_elements_iff rest h hrest,
      SecretFreeElements, sanitizeElements, List.cons.injEq, and_and_and_comm]

theorem kept_fields_iff : ∀ (fields : List (String × Val)) {depth levels : Nat},
    depth + levels = maxPayloadDepth + 1 → ¬FieldsShow fields levels →
      (SecretFreeFields (fun _ => False) fields ∧ sanitizeFields fields depth = fields ↔
        CoveredFields fields levels)
  | [], _, _, _, _ => by simp [SecretFreeFields, sanitizeFields, CoveredFields]
  | (key, v) :: rest, depth, levels, h, hshow => by
    obtain ⟨hkey, hshow⟩ := not_or.mp hshow
    obtain ⟨hv, hrest⟩ := not_or.mp hshow
    rw [CoveredFields, ← kept_iff v h hv, ← kept_fields_iff rest h hrest, SecretFreeFields,
      sanitizeFields]
    by_cases hproto : key = "__proto__"
    · -- a dropped field leaves the object shorter
      rw [if_pos hproto]
      refine iff_of_false (fun hsame => ?_) fun hcovered => hcovered.1 hproto
      have hlength := length_sanitizeFields_le rest depth
      rw [hsame.2, List.length_cons] at hlength
      omega
    · rw [if_neg hproto, if_neg hkey, List.cons.injEq, Prod.mk.injEq, eq_self_iff_true,
        true_and, and_iff_right fun hsecret => hkey hsecret, and_iff_right hproto,
        and_and_and_comm]

end

/-- The value that stands in place of a secret. -/
def Redacted (v : Val) : Prop := v = .str "[redacted]"

theorem redacted_secretFree : SecretFree Redacted (.str "[redacted]") :=
  (by decide : secretValue "[redacted]" = false)

/-- What lies too deep is replaced by a text that is no secret. -/
theorem secretFree_cutOff {v : Val} {depth : Nat} (h : SecretFree Redacted v) :
    SecretFree Redacted (if maxPayloadDepth < depth then .str "[max-depth]" else v) := by
  split
  · exact (by decide : secretValue "[max-depth]" = false)
  · exact h

mutual

/-- What was sanitized has no secret left, except the names of redacted fields. -/
theorem sanitized_secretFree : ∀ (v : Val) (depth : Nat),
    SecretFree Redacted (sanitizeSecretPayload v depth)
  | .str s, depth => secretFree_cutOff <| by
    split
    · exact redacted_secretFree
    next hs => exact eq_false_of_ne_true hs
  | .arr elems, depth => secretFree_cutOff (sanitized_elements elems (depth + 1))
  | .obj fields, depth => secretFree_cutOff (sanitized_fields fields (depth + 1))
  | .undefined, _ | .null, _ | .bool _, _ | .num _, _ => secretFree_cutOff trivial

theorem sanitized_elements : ∀ (elems : List Val) (depth : Nat),
    SecretFreeElements Redacted (sanitizeElements elems depth)
  | [], _ => trivial
  | v :: rest, depth => ⟨sanitized_secretFree v depth, sanitized_elements rest depth⟩

theorem sanitized_fields : ∀ (fields : List (String × Val)) (depth : Nat),
    SecretFreeFields Redacted (sanitizeFields fields depth)
  | [], _ => trivial
  | (key, v) :: rest, depth => by
    rw [sanitizeFields]
    by_cases hproto : key = "__proto__"
    · rw [if_pos hproto]
      exact sanitized_fields rest depth
    · rw [if_neg hproto]
      split
      · exact ⟨fun _ => rfl, redacted_secretFree, sanitized_fields rest depth⟩
      next hkey =>
        exact ⟨fun h => absurd h hkey, sanitized_secretFree v depth, sanitized_fields rest depth⟩

end

/-- Accepted means secret-free and left alone exactly for the values that show a
secret, and so are not accepted, or are covered; and the sanitizer leaves no
secret in any value. -/
theorem payload_secrecy_iff (v w : Val) (path : String) :
    ((assertSecretFreePayload v path 0 = .ok () →
        SecretFree (fun _ => False) v ∧ sanitizeSecretPayload v 0 = v) ↔
      ShowsSecret v (maxPayloadDepth + 1) ∨ Covered v (maxPayloadDepth + 1)) ∧
    SecretFree Redacted (sanitizeSecretPayload w 0) := by
  refine ⟨?_, sanitized_secretFree w 0⟩
  rw [accepted_iff v path (Nat.zero_add _), or_iff_not_imp_left]
  exact forall_congr' (kept_iff v (Nat.zero_add _))

/-- A value eleven levels deep. -/
def buried (v : Val) : Val := (fun w => Val.obj [("a", w)])^[11] v

/-- A secret below the depth of the traversals is accepted; what lies there, and
a field `__proto__`, does not survive sanitizing. -/
theorem buried_secret_accepted :
    assertSecretFreePayload (buried (.str "password=x")) "payload" 0 = .ok () ∧
      ¬SecretFree (fun _ => False) (buried (.str "password=x")) ∧
      sanitizeSecretPayload (buried (.str "x")) 0 = buried (.str "[max-depth]") ∧
      assertSecretFreePayload (.obj [("__proto__", .str "x")]) "payload" 0 = .ok () ∧
      sanitizeSecretPayload (.obj [("__proto__", .str "x")]) 0 = .obj [] := by
  refine ⟨rfl, ?_, rfl, rfl, rfl⟩
  intro h
  simp only [buried, Function.iterate_succ, Function.iterate_zero, Function.comp, id, SecretFree,
    SecretFreeFields] at h
  exact absurd h (by decide)

end GrowthOs.SequentialPlan
