import GrowthOs.Js.Json
import Mathlib.Data.List.TakeDrop

/-!
# Reading back what was written

`JSON.parse(JSON.stringify(v))` is `v` again, for every value without
`undefined` whose objects have distinct keys and whose numbers are read back
from their notation.  So the text determines the value.
-/

namespace GrowthOs.Js

open List

namespace JsonText

/-! ## Strings -/

theorem literalDigit_hexDigit : ∀ n, n < 16 → literalDigit (hexDigit n) = n := by
  decide

/-- The four digits that escape a control character. -/
theorem codeUnit_escape {n : Nat} (h : n < 0x20) (tail : List Char) :
    codeUnit ('0' :: '0' :: hexDigit (n / 16) :: hexDigit (n % 16) :: tail) = some (n, tail) := by
  have hhigh := literalDigit_hexDigit (n / 16) (by omega)
  have hlow := literalDigit_hexDigit (n % 16) (by omega)
  have hzero : literalDigit '0' = 0 := by decide
  have hvalue : (n / 16) * 16 + n % 16 = n := by omega
  have hhigh' : n / 16 < 16 := by omega
  have hlow' : n % 16 < 16 := by omega
  simp [codeUnit, digitsValue, hhigh, hlow, hzero, hvalue, hhigh', hlow']

variable {c : Char} (cs : List Char)

theorem unitChar_toNat (h : c.toNat < 0x20) : unitChar c.toNat = c := by
  unfold unitChar
  rw [if_neg (by omega), Char.ofNat_toNat]

/-- An escaped control character is no surrogate, so what follows it is read on
its own. -/
theorem stringBody_control (h : c.toNat < 0x20) (fuel : Nat) (tail : List Char) :
    stringBody (fuel + 1) ('\\' :: 'u' :: '0' :: '0' :: hexDigit (c.toNat / 16) ::
        hexDigit (c.toNat % 16) :: tail) =
      (stringBody fuel tail).map fun r => (c :: r.1, r.2) := by
  have hunit := unitChar_toNat h
  rw [stringBody, codeUnit_escape h]
  simp only
  split
  · next more =>
      cases hmore : codeUnit more with
      | none =>
        cases fuel with
        | zero => rfl
        | succ fuel => simp [stringBody, hmore]
      | some found =>
        simp only
        rw [if_neg (by omega), hunit]
  · rw [hunit]

theorem stringBody_simple {d : Char} (h : simpleEscape d = some c) (fuel : Nat) (tail : List Char) :
    stringBody (fuel + 1) ('\\' :: d :: tail) =
      (stringBody fuel tail).map fun r => (c :: r.1, r.2) := by
  have hunit : d ≠ 'u' := by
    rintro rfl
    cases h
  simp [stringBody, h]

/-- One character of a literal. -/
theorem stringBody_escapeChar (c : Char) (fuel : Nat) (tail : List Char) :
    stringBody (fuel + 1) (escapeChar c ++ tail) =
      (stringBody fuel tail).map fun r => (c :: r.1, r.2) := by
  unfold escapeChar
  split_ifs with hquote hback _ _ _ _ _ hcontrol
  -- the seven characters with an escape of their own
  iterate 7 exact stringBody_simple (by rw [eq_of_beq ‹(c == _) = true›]; rfl) fuel tail
  · exact stringBody_control hcontrol fuel tail
  · have hquote' : c ≠ '"' := by simpa using hquote
    have hback' : c ≠ '\\' := by simpa using hback
    simp [stringBody, hback', hcontrol]

theorem stringBody_escape (fuel : Nat) (rest : List Char) (h : cs.length < fuel) :
    stringBody fuel (cs.flatMap escapeChar ++ '"' :: rest) = some (cs, rest) := by
  induction cs generalizing fuel with
  | nil =>
    obtain ⟨fuel, rfl⟩ := Nat.exists_eq_succ_of_ne_zero (Nat.ne_of_gt h)
    simp [stringBody]
  | cons c cs ih =>
    obtain ⟨fuel, rfl⟩ := Nat.exists_eq_succ_of_ne_zero (Nat.ne_of_gt (Nat.lt_of_le_of_lt
      (Nat.zero_le _) h))
    rw [flatMap_cons, append_assoc, stringBody_escapeChar, ih fuel (by simpa using h)]
    rfl

theorem length_le_escape : cs.length ≤ (cs.flatMap escapeChar).length := by
  induction cs with
  | nil => exact Nat.le_refl _
  | cons c cs ih =>
    have hone : 1 ≤ (escapeChar c).length := by
      unfold escapeChar
      split_ifs <;> simp
    rw [flatMap_cons, length_append, length_cons]
    omega

theorem stringBody_text (rest : List Char) :
    stringBody ((cs.flatMap escapeChar ++ '"' :: rest).length + 1)
      (cs.flatMap escapeChar ++ '"' :: rest) = some (cs, rest) := by
  apply stringBody_escape
  have := length_le_escape cs
  rw [length_append]
  omega

/-! ## Values -/

/-- What can follow a value. -/
def Ends (rest : List Char) : Prop :=
  ∀ c ∈ rest.head?, c = ',' ∨ c = ']' ∨ c = '\x7d'

/-- A number that is read back from its notation, whatever follows. -/
structure ReadsBack (n : Number) : Prop where
  head : ∃ c cs, (numText n).toList = c :: cs ∧ (c = '-' ∨ c.isDigit = true)
  read : ∀ rest, Ends rest → numberLiteral ((numText n).toList ++ rest) = some (n, rest)

mutual

/-- A value that JSON can carry. -/
def Writable : Val → Prop
  | .undefined => False
  | .num n => ReadsBack n
  | .arr elems => WritableElems elems
  | .obj fields => WritableFields fields
  | _ => True

def WritableElems : List Val → Prop
  | [] => True
  | v :: rest => Writable v ∧ WritableElems rest

def WritableFields : List (String × Val) → Prop
  | [] => True
  | (key, v) :: rest =>
    (∀ field ∈ rest, field.1 ≠ key) ∧ Writable v ∧ WritableFields rest

end

/-- The first character of a text that stands for a value. -/
def Starts (cs : List Char) : Prop :=
  ∃ c rest, cs = c :: rest ∧ isSpace c = false ∧ c ≠ ']' ∧ c ≠ '\x7d'

variable {cs}

theorem Starts.append (h : Starts cs) (more : List Char) : Starts (cs ++ more) := by
  obtain ⟨c, rest, rfl, hc⟩ := h
  exact ⟨c, rest ++ more, rfl, hc⟩

theorem skipSpace_cons (h : isSpace c = false) (rest : List Char) :
    skipSpace (c :: rest) = c :: rest := by
  simp [skipSpace, h]

theorem skipSpace_of_starts (h : Starts cs) : skipSpace cs = cs := by
  obtain ⟨c, rest, rfl, hc, -⟩ := h
  exact skipSpace_cons hc rest

theorem value_string (fuel : Nat) (cs rest : List Char) :
    value (fuel + 1) ('"' :: (cs.flatMap escapeChar ++ '"' :: rest)) =
      some (.str (String.ofList cs), rest) := by
  have hread := stringBody_text cs rest
  generalize cs.flatMap escapeChar ++ '"' :: rest = body at hread ⊢
  simp [value, skipSpace, isSpace, hread]

/-- A notation starts with a sign or a digit, so with no other character. -/
theorem numberHead_ne {d : Char} (hc : c = '-' ∨ c.isDigit = true)
    (hd : (d == '-' || d.isDigit) = false) : c ≠ d := by
  rintro rfl
  rcases hc with rfl | hc
  · cases hd
  · simp [hc] at hd

theorem ReadsBack.starts {n : Number} (h : ReadsBack n) : Starts (numText n).toList := by
  obtain ⟨c, cs, htext, hc⟩ := h.head
  have hspace : isSpace c = false := by
    simp [isSpace, numberHead_ne hc (d := ' ') rfl, numberHead_ne hc (d := '\t') rfl,
      numberHead_ne hc (d := '\n') rfl, numberHead_ne hc (d := '\r') rfl]
  exact ⟨c, cs, htext, hspace, numberHead_ne hc rfl, numberHead_ne hc rfl⟩

theorem value_number {n : Number} (h : ReadsBack n) (fuel : Nat) {rest : List Char}
    (hrest : Ends rest) : value (fuel + 1) ((numText n).toList ++ rest) = some (.num n, rest) := by
  have hskip := skipSpace_of_starts (h.starts.append rest)
  have hread := h.read rest hrest
  obtain ⟨c, cs, htext, hc⟩ := h.head
  rw [htext, cons_append] at hskip hread ⊢
  simp [value, hskip, hread, numberHead_ne hc (d := 'n') rfl, numberHead_ne hc (d := 't') rfl,
    numberHead_ne hc (d := 'f') rfl, numberHead_ne hc (d := '"') rfl,
    numberHead_ne hc (d := '[') rfl, numberHead_ne hc (d := '\x7b') rfl]

theorem value_array {fuel : Nat} (h : Starts cs) :
    value (fuel + 1) ('[' :: cs) = (elements fuel cs).map fun r => (.arr r.1, r.2) := by
  obtain ⟨c, rest, rfl, hspace, hbracket, -⟩ := h
  simp [value, skipSpace_cons (c := '[') rfl, skipSpace_cons hspace, hbracket]

theorem value_object {fuel : Nat} (h : Starts cs) :
    value (fuel + 1) ('\x7b' :: cs) = (members fuel [] cs).map fun r => (.obj r.1, r.2) := by
  obtain ⟨c, rest, rfl, hspace, -, hbrace⟩ := h
  simp [value, skipSpace_cons (c := '\x7b') rfl, skipSpace_cons hspace, hbrace]

theorem quote_toList (s : String) (rest : List Char) :
    (quote s).toList ++ rest = '"' :: (s.toList.flatMap escapeChar ++ '"' :: rest) := by
  simp [quote]

section Fields

variable {fuel : Nat} {fields : List (String × Val)} {key : String} {v : Val} {rest : List Char}

theorem members_more (hread : value fuel cs = some (v, ',' :: rest)) :
    members (fuel + 1) fields ((quote key).toList ++ ':' :: cs) =
      members fuel (Val.setField fields key v) rest := by
  have hkey := stringBody_text key.toList (':' :: cs)
  rw [quote_toList]
  generalize key.toList.flatMap escapeChar ++ '"' :: ':' :: cs = body at hkey ⊢
  simp [members, skipSpace, isSpace, hkey, hread]

theorem members_last (hread : value fuel cs = some (v, '\x7d' :: rest)) :
    members (fuel + 1) fields ((quote key).toList ++ ':' :: cs) =
      some (Val.setField fields key v, rest) := by
  have hkey := stringBody_text key.toList (':' :: cs)
  rw [quote_toList]
  generalize key.toList.flatMap escapeChar ++ '"' :: ':' :: cs = body at hkey ⊢
  simp [members, skipSpace, isSpace, hkey, hread]

theorem elements_more (hread : value fuel cs = some (v, ',' :: rest)) :
    elements (fuel + 1) cs = (elements fuel rest).map fun r => (v :: r.1, r.2) := by
  simp [elements, hread, skipSpace, isSpace]

theorem elements_last (hread : value fuel cs = some (v, ']' :: rest)) :
    elements (fuel + 1) cs = some ([v], rest) := by
  simp [elements, hread, skipSpace, isSpace]

end Fields

theorem setField_of_new {fields : List (String × Val)} {key : String} (v : Val)
    (h : ∀ field ∈ fields, field.1 ≠ key) : Val.setField fields key v = fields ++ [(key, v)] := by
  induction fields with
  | nil => rfl
  | cons field fields ih =>
    rw [forall_mem_cons] at h
    unfold Val.setField
    rw [if_neg h.1, ih h.2, cons_append]

/-- `text` stands for the value `v`, whatever follows. -/
structure ReadsText (v : Val) (text : List Char) : Prop where
  starts : Starts text
  read : ∀ fuel rest, text.length ≤ fuel → Ends rest → value fuel (text ++ rest) = some (v, rest)

theorem ReadsText.of_succ {v : Val} {text : List Char} (hstarts : Starts text)
    (h : ∀ fuel rest, text.length ≤ fuel + 1 → Ends rest →
      value (fuel + 1) (text ++ rest) = some (v, rest)) : ReadsText v text := by
  refine ⟨hstarts, ?_⟩
  intro fuel rest hfuel hrest
  cases fuel with
  | zero =>
    obtain ⟨c, cs, rfl, -⟩ := hstarts
    exact absurd hfuel (by simp)
  | succ fuel => exact h fuel rest hfuel hrest

/-- A text in brackets of which `inner` is the inside. -/
theorem ReadsText.bracketed {v : Val} {left right inner : String} (opening closing : Char)
    (hleft : left.toList = [opening]) (hright : right.toList = [closing])
    (hstarts : Starts [opening]) (h : ∀ fuel rest, inner.toList.length < fuel →
      value (fuel + 1) (opening :: (inner.toList ++ closing :: rest)) = some (v, rest)) :
    ReadsText v (left ++ inner ++ right).toList := by
  rw [String.toList_append, String.toList_append, hleft, hright, append_assoc,
    singleton_append]
  refine .of_succ (hstarts.append _) ?_
  intro fuel rest hfuel _
  rw [length_cons, length_append, length_singleton] at hfuel
  rw [cons_append, append_assoc, singleton_append]
  exact h fuel rest (by omega)

theorem starts_quote (s : String) : Starts (quote s).toList := by
  rw [← append_nil (quote s).toList, quote_toList]
  exact ⟨'"', _, rfl, by decide⟩

theorem ends_cons (hc : c = ',' ∨ c = ']' ∨ c = '\x7d') (rest : List Char) : Ends (c :: rest) := by
  intro d hd
  obtain rfl : c = d := by simpa using hd
  exact hc

mutual

/-- A value is read back from its text. -/
theorem value_text : ∀ v : Val, Writable v →
    ∃ text, jsonStringify v = some text ∧ ReadsText v text.toList
  | .undefined, h => h.elim
  | .null, _ =>
    ⟨"null", rfl, .of_succ ⟨'n', _, rfl, by decide⟩ fun fuel rest _ _ => by
      simp [value, skipSpace, isSpace]⟩
  | .bool true, _ =>
    ⟨"true", rfl, .of_succ ⟨'t', _, rfl, by decide⟩ fun fuel rest _ _ => by
      simp [value, skipSpace, isSpace]⟩
  | .bool false, _ =>
    ⟨"false", rfl, .of_succ ⟨'f', _, rfl, by decide⟩ fun fuel rest _ _ => by
      simp [value, skipSpace, isSpace]⟩
  | .num n, h =>
    have hn : ReadsBack n := h
    ⟨numText n, rfl, .of_succ hn.starts fun fuel _ _ hrest =>
      value_number hn fuel hrest⟩
  | .str s, _ => by
    refine ⟨quote s, rfl, .of_succ (starts_quote s) ?_⟩
    intro fuel rest _ _
    rw [quote_toList, value_string, String.ofList_toList]
  | .arr [], _ =>
    ⟨"[]", rfl, .of_succ ⟨'[', _, rfl, by decide⟩ fun fuel rest _ _ => by
      simp [value, skipSpace, isSpace]⟩
  | .arr (v :: elems), h => by
    obtain ⟨hstarts, hread⟩ := elements_text (v :: elems) (by simp) h
    refine ⟨_, rfl, .bracketed '[' ']' rfl rfl ⟨'[', _, rfl, by decide⟩ ?_⟩
    intro fuel rest hfuel
    rw [value_array (hstarts.append _), hread fuel rest hfuel]
    rfl
  | .obj [], _ =>
    ⟨"\x7b\x7d", rfl, .of_succ ⟨'\x7b', _, rfl, by decide⟩ fun fuel rest _ _ => by
      simp [value, skipSpace, isSpace]⟩
  | .obj (field :: fields), h => by
    obtain ⟨hstarts, hread⟩ := members_text (field :: fields) (by simp) h
    refine ⟨_, rfl, .bracketed '\x7b' '\x7d' rfl rfl ⟨'\x7b', _, rfl, by decide⟩ ?_⟩
    intro fuel rest hfuel
    rw [value_object (hstarts.append _), hread [] (by simp) fuel rest hfuel]
    rfl

theorem elements_text : ∀ elems : List Val, elems ≠ [] → WritableElems elems →
    Starts (",".intercalate (elementTexts elems)).toList ∧
    ∀ fuel rest, (",".intercalate (elementTexts elems)).toList.length < fuel →
      elements fuel ((",".intercalate (elementTexts elems)).toList ++ ']' :: rest) =
        some (elems, rest)
  | [], h, _ => absurd rfl h
  | [v], _, h => by
    obtain ⟨text, htext, hv⟩ := value_text v h.1
    have hjoin : ",".intercalate (elementTexts [v]) = text := by
      simp [elementTexts, htext]
    rw [hjoin]
    refine ⟨hv.starts, ?_⟩
    intro fuel rest hfuel
    cases fuel with
    | zero => omega
    | succ fuel =>
      exact elements_last (hv.read fuel _ (by omega) (ends_cons (by simp) rest))
  | v :: w :: rest, _, h => by
    obtain ⟨text, htext, hv⟩ := value_text v h.1
    obtain ⟨-, hrest⟩ := elements_text (w :: rest) (by simp) h.2
    have hjoin : (",".intercalate (elementTexts (v :: w :: rest))).toList =
        text.toList ++ ',' :: (",".intercalate (elementTexts (w :: rest))).toList := by
      rw [elementTexts, elementTexts, String.intercalate_cons_cons, htext]
      simp
    rw [hjoin]
    refine ⟨hv.starts.append _, ?_⟩
    intro fuel more hfuel
    rw [length_append, length_cons] at hfuel
    cases fuel with
    | zero => omega
    | succ fuel =>
      rw [append_assoc, cons_append,
        elements_more (hv.read fuel _ (by omega) (ends_cons (by simp) _)),
        hrest fuel more (by omega)]
      rfl

theorem members_text : ∀ fields : List (String × Val), fields ≠ [] →
    WritableFields fields → Starts (",".intercalate (memberTexts fields)).toList ∧
    ∀ before : List (String × Val),
    (∀ field ∈ fields, ∀ other ∈ before, other.1 ≠ field.1) →
    ∀ fuel rest, (",".intercalate (memberTexts fields)).toList.length < fuel →
      members fuel before ((",".intercalate (memberTexts fields)).toList ++ '\x7d' :: rest) =
        some (before ++ fields, rest)
  | [], h, _ => absurd rfl h
  | [(key, v)], _, h => by
    obtain ⟨text, htext, hv⟩ := value_text v h.2.1
    have hjoin : (",".intercalate (memberTexts [(key, v)])).toList =
        (quote key).toList ++ ':' :: text.toList := by
      simp [memberTexts, htext]
    rw [hjoin]
    refine ⟨(starts_quote key).append _, ?_⟩
    intro before hnew fuel rest hfuel
    rw [length_append, length_cons] at hfuel
    cases fuel with
    | zero => omega
    | succ fuel =>
      rw [append_assoc, cons_append,
        members_last (hv.read fuel _ (by omega) (ends_cons (by simp) rest)),
        setField_of_new v (hnew (key, v) (by simp))]
  | (key, v) :: (key', w) :: fields, _, h => by
    obtain ⟨text, htext, hv⟩ := value_text v h.2.1
    obtain ⟨text', htext', -⟩ := value_text w h.2.2.2.1
    obtain ⟨-, hrest⟩ := members_text ((key', w) :: fields) (by simp) h.2.2
    have hjoin :
        (",".intercalate (memberTexts ((key, v) :: (key', w) :: fields))).toList =
          (quote key).toList ++ ':' :: (text.toList ++
            ',' :: (",".intercalate (memberTexts ((key', w) :: fields))).toList) := by
      simp only [memberTexts, htext, htext', String.intercalate_cons_cons]
      simp
    rw [hjoin]
    refine ⟨(starts_quote key).append _, ?_⟩
    intro before hnew fuel rest hfuel
    rw [length_append, length_cons, length_append, length_cons] at hfuel
    cases fuel with
    | zero => omega
    | succ fuel =>
      rw [append_assoc, cons_append, append_assoc, cons_append,
        members_more (hv.read fuel _ (by omega) (ends_cons (by simp) _)),
        setField_of_new v (hnew (key, v) (by simp)), hrest _ ?_ fuel rest (by omega),
        append_assoc]
      · rfl
      · intro field' hfield' other hother
        rcases mem_append.mp hother with hother | hother
        · exact hnew field' (mem_cons_of_mem _ hfield') other hother
        · obtain rfl := mem_singleton.mp hother
          exact (h.1 field' hfield').symm

end

end JsonText

open JsonText

theorem readsBack_one : ReadsBack (.ofNat 1) := by
  have htext : (numText (.ofNat 1)).toList = ['1'] := by decide
  refine ⟨⟨'1', [], htext, by decide⟩, ?_⟩
  intro rest hrest
  rw [htext, singleton_append]
  cases rest with
  | nil => rfl
  | cons c cs =>
    have hone : scaledNum false (digitsValue 10 decimalDigit ['1']) 0 0 = .ofNat 1 := by
      decide
    rcases hrest c rfl with rfl | rfl | rfl <;>
      simp [numberLiteral, span_eq_takeWhile_dropWhile, Char.isDigit,
        exponentPart, hone]

variable {v : Val}

theorem jsonParse_jsonStringify (h : Writable v) :
    ∃ text, jsonStringify v = some text ∧ jsonParse text = some v := by
  obtain ⟨text, htext, hv⟩ := value_text v h
  refine ⟨text, htext, ?_⟩
  have hread := hv.read (2 * text.toList.length + 1) [] (by omega) (by simp [Ends])
  rw [append_nil] at hread
  simp [jsonParse, hread, skipSpace]

theorem jsonStringify_injective {w : Val} (hv : Writable v) (hw : Writable w)
    (h : jsonStringify v = jsonStringify w) : v = w := by
  obtain ⟨text, htext, hread⟩ := jsonParse_jsonStringify hv
  obtain ⟨text', htext', hread'⟩ := jsonParse_jsonStringify hw
  obtain rfl : text = text' := Option.some.inj (htext.symm.trans (h.trans htext'))
  exact Option.some.inj (hread.symm.trans hread')

/-! ## Canonical texts -/

variable {fields : List (String × Val)} {field : String × Val}

theorem writableFields_iff :
    WritableFields fields ↔
      (fields.map Prod.fst).Nodup ∧ ∀ field ∈ fields, Writable field.2 := by
  induction fields with
  | nil => simp [WritableFields]
  | cons field fields ih =>
    rw [WritableFields, ih, map_cons, nodup_cons, forall_mem_cons]
    simp only [mem_map, not_exists, not_and]
    tauto

theorem insertField_perm : (insertField field fields).Perm (field :: fields) := by
  induction fields with
  | nil => exact .refl _
  | cons first fields ih =>
    unfold insertField
    split
    · exact .refl _
    · exact (ih.cons first).trans (.swap ..)

variable {key : String}

theorem lookup_insertField {name : String} (hnew : ∀ field ∈ fields, field.1 ≠ name) :
    Val.lookup (insertField (name, v) fields) key =
      if name = key then v else Val.lookup fields key := by
  induction fields with
  | nil => rfl
  | cons field fields ih =>
    rw [forall_mem_cons] at hnew
    unfold insertField
    split
    · rfl
    · by_cases hkey : name = key
      · subst hkey
        simp [Val.lookup, hnew.1, ih hnew.2]
      · simp [Val.lookup, hkey, ih hnew.2]

/-- Sorting adds no keys. -/
theorem stableFields_new (h : ∀ field ∈ fields, field.1 ≠ key) :
    ∀ field ∈ stableFields fields, field.1 ≠ key := by
  induction fields with
  | nil => exact h
  | cons first fields ih =>
    rw [forall_mem_cons] at h
    intro field hfield
    rcases mem_cons.mp (insertField_perm.mem_iff.mp hfield) with rfl | hfield
    · exact h.1
    · exact ih h.2 field hfield

theorem writableFields_insertField (hnew : ∀ field ∈ fields, field.1 ≠ key)
    (hv : Writable v) (hfields : WritableFields fields) :
    WritableFields (insertField (key, v) fields) := by
  have hcons : WritableFields ((key, v) :: fields) := ⟨hnew, hv, hfields⟩
  rw [writableFields_iff] at hcons ⊢
  refine ⟨(insertField_perm.map _).nodup_iff.mpr hcons.1, ?_⟩
  intro field hfield
  exact hcons.2 field (insertField_perm.mem_iff.mp hfield)

mutual

theorem writable_stableValue : ∀ v : Val, Writable v → Writable (stableValue v)
  | .undefined, h => h
  | .null, h => h
  | .bool _, h => h
  | .num _, h => h
  | .str _, h => h
  | .arr elems, h => writableElems_stableElements elems h
  | .obj fields, h => writableFields_stableFields fields h

theorem writableElems_stableElements : ∀ elems : List Val,
    WritableElems elems → WritableElems (stableElements elems)
  | [], h => h
  | v :: rest, h => ⟨writable_stableValue v h.1, writableElems_stableElements rest h.2⟩

theorem writableFields_stableFields : ∀ fields : List (String × Val),
    WritableFields fields → WritableFields (stableFields fields)
  | [], h => h
  | (_, v) :: rest, h =>
    writableFields_insertField (stableFields_new h.1) (writable_stableValue v h.2.1)
      (writableFields_stableFields rest h.2.2)

end

/-- A field of the canonical form is the canonical form of the field. -/
theorem lookup_stableFields (h : WritableFields fields) (key : String) :
    Val.lookup (stableFields fields) key = stableValue (Val.lookup fields key) := by
  induction fields with
  | nil => rfl
  | cons field fields ih =>
    obtain ⟨name, v⟩ := field
    rw [stableFields, lookup_insertField (stableFields_new h.1), ih h.2.2]
    by_cases hname : name = key <;> simp [Val.lookup, hname]

theorem stableStringify_injective {w : Val} (hv : Writable v) (hw : Writable w)
    (h : stableStringify v = stableStringify w) : stableValue v = stableValue w := by
  have hv' := writable_stableValue v hv
  have hw' := writable_stableValue w hw
  apply jsonStringify_injective hv' hw'
  obtain ⟨text, htext, -⟩ := jsonParse_jsonStringify hv'
  obtain ⟨text', htext', -⟩ := jsonParse_jsonStringify hw'
  unfold stableStringify at h
  rw [htext, htext'] at h ⊢
  exact congrArg some h

end GrowthOs.Js
