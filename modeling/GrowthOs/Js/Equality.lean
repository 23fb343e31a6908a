import GrowthOs.Js.Text

/-!
# Strict equality and comparison

`===` on primitives is equality of values.  Two objects are the same where they are one
object, which their contents do not tell: `identical` says it.
-/

namespace GrowthOs.Js

/-- `a === b`. -/
def strictEq (identical : Val → Val → Bool) : Val → Val → Bool
  | .undefined, .undefined => true
  | .null, .null => true
  | .bool a, .bool b => a == b
  | .num .nan, .num .nan => false
  | .num a, .num b => a == b
  | .str a, .str b => a == b
  | .arr a, .arr b => identical (.arr a) (.arr b)
  | .obj a, .obj b => identical (.obj a) (.obj b)
  | _, _ => false

theorem eq_of_strictEq_str {identical : Val → Val → Bool} {v : Val} {s : String}
    (h : strictEq identical v (.str s) = true) : v = .str s := by
  cases v with
  | str t => simpa [strictEq] using h
  | _ => simp [strictEq] at h

/-- `value === text`. -/
def isText (v : Val) (text : String) : Bool :=
  match v with
  | .str s => s == text
  | _ => false

@[simp] theorem isText_iff {v : Val} {text : String} : isText v text = true ↔ v = .str text := by
  cases v <;> simp [isText]

/-- `a >= b`; false as soon as one side is not a number. -/
def Number.bge : Number → Number → Bool
  | .nan, _ => false
  | _, .nan => false
  | a, b => !a.blt b

end GrowthOs.Js
