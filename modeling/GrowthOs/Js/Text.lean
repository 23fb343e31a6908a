import GrowthOs.Js.Json

/-!
# Strings as the validators see them

The length of a string in code units, and the regular expressions and string
methods the input checks of the services are written with.
-/

namespace GrowthOs.Js

open List

/-- `s.length`. -/
def utf16Length (s : String) : Nat :=
  (s.toList.flatMap codeUnits).length

/-- The characters that fit into `max` code units. -/
def takeUnits : Nat → List Char → List Char
  | _, [] => []
  | max, c :: cs =>
    if (codeUnits c).length ≤ max then c :: takeUnits (max - (codeUnits c).length) cs
    else []

/-- `s.slice(0, max)`. -/
def cut (max : Nat) (s : String) : String :=
  String.ofList (takeUnits max s.toList)

/-- `s.startsWith(t)`. -/
def startsWith (s t : String) : Bool :=
  t.toList.isPrefixOf s.toList

/-- `s.endsWith(t)`. -/
def endsWith (s t : String) : Bool :=
  t.toList.isSuffixOf s.toList

/-- `s.includes(t)`. -/
def includes (s t : String) : Bool :=
  s.toList.tails.any fun rest => t.toList.isPrefixOf rest

/-- `/^[...]+$/.test(s)` for a class of characters. -/
def matchesAll (charClass : Char → Bool) (s : String) : Bool :=
  !s.toList.isEmpty && s.toList.all charClass

def isAsciiAlnum (c : Char) : Bool :=
  ('A' ≤ c && c ≤ 'Z') || ('a' ≤ c && c ≤ 'z') || ('0' ≤ c && c ≤ '9')

/-- `[0-9a-f]`. -/
def isLowerHex (c : Char) : Bool :=
  ('0' ≤ c && c ≤ '9') || ('a' ≤ c && c ≤ 'f')

/-- `/^[0-9a-f]{64}$/.test(s)`. -/
def isSha256 (s : String) : Bool :=
  s.toList.length == 64 && s.toList.all isLowerHex

/-- `Number.isInteger(n)`, with the integer. -/
def integerOf : Number → Option Int
  | .finite d => if d.isInteger then some d.mantissa else none
  | _ => none

/-- `text || null`. -/
def textOrNull (text : String) : Val :=
  if text = "" then .null else .str text

/-! ## The order of keys -/

theorem unitsLe_total (xs ys : List Nat) : unitsLe xs ys = true ∨ unitsLe ys xs = true := by
  induction xs generalizing ys with
  | nil => exact .inl rfl
  | cons x xs ih =>
    cases ys with
    | nil => exact .inr rfl
    | cons y ys =>
      simp only [unitsLe]
      by_cases h : x = y
      · simpa [h] using ih ys
      · rw [if_neg h, if_neg (Ne.symm h), decide_eq_true_eq, decide_eq_true_eq]
        omega

variable {xs ys : List Nat}

theorem unitsLe_trans {zs : List Nat} (hxy : unitsLe xs ys = true) (hyz : unitsLe ys zs = true) :
    unitsLe xs zs = true := by
  induction xs generalizing ys zs with
  | nil => rfl
  | cons x xs ih =>
    cases ys with
    | nil => cases hxy
    | cons y ys =>
      cases zs with
      | nil => cases hyz
      | cons z zs =>
        simp only [unitsLe] at hxy hyz ⊢
        by_cases hxy' : x = y
        · subst hxy'
          rw [if_pos rfl] at hxy
          by_cases hxz : x = z
          · rw [if_pos hxz] at hyz ⊢
            exact ih hxy hyz
          · rwa [if_neg hxz] at hyz ⊢
        · rw [if_neg hxy', decide_eq_true_eq] at hxy
          by_cases hyz' : y = z
          · subst hyz'
            rw [if_neg hxy', decide_eq_true_eq]
            exact hxy
          · rw [if_neg hyz', decide_eq_true_eq] at hyz
            rw [if_neg (by omega), decide_eq_true_eq]
            omega

theorem unitsLe_antisymm (hxy : unitsLe xs ys = true) (hyx : unitsLe ys xs = true) : xs = ys := by
  induction xs generalizing ys with
  | nil =>
    cases ys with
    | nil => rfl
    | cons y ys => cases hyx
  | cons x xs ih =>
    cases ys with
    | nil => cases hxy
    | cons y ys =>
      simp only [unitsLe] at hxy hyx
      by_cases h : x = y
      · subst h
        simp only [if_true] at hxy hyx
        rw [ih hxy hyx]
      · rw [if_neg h, decide_eq_true_eq] at hxy
        rw [if_neg (Ne.symm h), decide_eq_true_eq] at hyx
        omega

theorem toNat_not_surrogate (c : Char) :
    ¬(0xD800 ≤ c.toNat ∧ c.toNat ≤ 0xDFFF) ∧ c.toNat < 0x110000 := by
  have h := c.valid
  have : c.toNat = c.val.toNat := rfl
  omega

theorem codeUnits_append_inj {c d : Char} (h : codeUnits c ++ xs = codeUnits d ++ ys) :
    c = d ∧ xs = ys := by
  have hc := toNat_not_surrogate c
  have hd := toNat_not_surrogate d
  unfold codeUnits at h
  split at h <;> split at h <;>
    simp only [cons_append, nil_append, List.cons.injEq] at h
  · exact ⟨Char.toNat_inj.mp h.1, h.2⟩
  · omega
  · omega
  · refine ⟨Char.toNat_inj.mp ?_, h.2.2⟩
    omega

variable {cs : List Char}

theorem flatMap_codeUnits_injective {ds : List Char}
    (h : cs.flatMap codeUnits = ds.flatMap codeUnits) : cs = ds := by
  have hne : ∀ (c : Char) (xs : List Nat), codeUnits c ++ xs ≠ [] := by
    intro c xs
    unfold codeUnits
    split <;> simp
  induction cs generalizing ds with
  | nil =>
    cases ds with
    | nil => rfl
    | cons d ds => exact absurd h.symm (hne _ _)
  | cons c cs ih =>
    cases ds with
    | nil => exact absurd h (hne _ _)
    | cons d ds =>
      obtain ⟨rfl, hrest⟩ := codeUnits_append_inj h
      rw [ih hrest]

theorem keyLe_antisymm {s t : String} (hst : keyLe s t = true) (hts : keyLe t s = true) : s = t :=
  String.toList_injective (flatMap_codeUnits_injective (unitsLe_antisymm hst hts))

/-! ## Trimmed texts -/

/-- No white space at either end. -/
def Trimmed (cs : List Char) : Prop :=
  (∀ c ∈ cs.head?, isWhiteSpace c = false) ∧ ∀ c ∈ cs.getLast?, isWhiteSpace c = false

theorem head?_dropWhile_space (cs : List Char) :
    ∀ c ∈ (cs.dropWhile isWhiteSpace).head?, isWhiteSpace c = false := by
  intro c hc
  have hnot := List.head?_dropWhile_not isWhiteSpace cs
  rw [Option.mem_def.mp hc] at hnot
  simpa using hnot

theorem dropWhile_space_eq (h : ∀ c ∈ cs.head?, isWhiteSpace c = false) :
    cs.dropWhile isWhiteSpace = cs := by
  cases cs with
  | nil => rfl
  | cons c cs => simp [h c rfl]

theorem trimChars_isPrefix (cs : List Char) : trimChars cs <+: cs.dropWhile isWhiteSpace := by
  unfold trimChars
  have hsuffix := dropWhile_suffix (l := (cs.dropWhile isWhiteSpace).reverse) isWhiteSpace
  simpa using reverse_prefix.mpr hsuffix

theorem trimmed_trimChars (cs : List Char) : Trimmed (trimChars cs) := by
  constructor
  · intro c hc
    -- what is cut off at the end leaves the first character in place
    obtain ⟨rest, hrest⟩ := trimChars_isPrefix cs
    apply head?_dropWhile_space cs c
    rw [← hrest, List.head?_append, Option.mem_def.mp hc]
    rfl
  · intro c hc
    unfold trimChars at hc
    rw [List.getLast?_reverse] at hc
    exact head?_dropWhile_space _ c hc

theorem trimChars_of_trimmed (h : Trimmed cs) : trimChars cs = cs := by
  unfold trimChars
  rw [dropWhile_space_eq h.1, dropWhile_space_eq (by simpa using h.2), reverse_reverse]

theorem trim_of_trimmed {s : String} (h : Trimmed s.toList) : trim s = s := by
  rw [trim, trimChars_of_trimmed h, String.ofList_toList]

theorem trimmed_trim (s : String) : Trimmed (trim s).toList := by
  rw [trim, String.toList_ofList]
  exact trimmed_trimChars s.toList

theorem Trimmed.append {xs ys : List Char} (hxs : Trimmed xs) (hys : Trimmed ys)
    (hx : xs ≠ []) (hy : ys ≠ []) (zs : List Char) : Trimmed (xs ++ zs ++ ys) := by
  constructor
  · rw [append_assoc, List.head?_append_of_ne_nil _ hx]
    exact hxs.1
  · rw [List.getLast?_append_of_ne_nil _ hy]
    exact hys.2

end GrowthOs.Js
