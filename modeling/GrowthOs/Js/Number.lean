import Mathlib.Algebra.Order.Ring.Int
import Mathlib.Data.List.Basic

/-!
# JavaScript numbers as decimals

A finite double is determined by its shortest decimal notation, and the code
modelled here never computes with a number beyond comparing, rounding and
printing it.  So a finite number is the decimal its notation denotes; two
numbers are equal exactly when their decimals are.  A literal with more digits
than a double carries keeps them all.
-/

namespace GrowthOs.Js

/-- White space and line terminators, as trimmed by `String.prototype.trim`
and matched by `\s`. -/
def isWhiteSpace (c : Char) : Bool :=
  let n := c.toNat
  (0x09 ≤ n && n ≤ 0x0D) || n == 0x20 || n == 0xA0 || n == 0x1680 ||
    (0x2000 ≤ n && n ≤ 0x200A) || n == 0x2028 || n == 0x2029 ||
    n == 0x202F || n == 0x205F || n == 0x3000 || n == 0xFEFF

/-- Trim white space on both sides of a list of characters. -/
def trimChars (cs : List Char) : List Char :=
  ((cs.dropWhile isWhiteSpace).reverse.dropWhile isWhiteSpace).reverse

/-- `s.trim()`. -/
def trim (s : String) : String :=
  String.ofList (trimChars s.toList)

/-- The lower case of an ASCII letter, as `/i` compares characters. -/
def lowerChar (c : Char) : Char :=
  if 'A' ≤ c ∧ c ≤ 'Z' then Char.ofNat (c.toNat + 32) else c

/-- The same under `/iu`: besides the capital letters, the long s and the Kelvin
sign agree with an ASCII letter. -/
def foldChar (c : Char) : Char :=
  if c.toNat = 0x17F then 's' else if c.toNat = 0x212A then 'k' else lowerChar c

/-- `s.toLowerCase()`, where it leads to ASCII: for the capital letters and the
Kelvin sign.  JavaScript lowers other letters too, here they stay as they are. -/
def toLowerCase (s : String) : String :=
  String.ofList (s.toList.map fun c => if c.toNat = 0x212A then 'k' else lowerChar c)

/-- The decimal `mantissa / 10 ^ scale`, in lowest terms. -/
structure Decimal where
  mantissa : Int
  scale : Nat
  canonical : scale = 0 ∨ mantissa % 10 ≠ 0
deriving DecidableEq

namespace Decimal

def ofInt (n : Int) : Decimal :=
  ⟨n, 0, Or.inl rfl⟩

/-- Divide out trailing zeros of the fraction. -/
def normalize (m : Int) : Nat → Decimal
  | 0 => ofInt m
  | k + 1 =>
    if h : m % 10 = 0 then normalize (m / 10) k
    else ⟨m, k + 1, Or.inr h⟩

def blt (a b : Decimal) : Bool :=
  a.mantissa * 10 ^ b.scale < b.mantissa * 10 ^ a.scale

def isInteger (a : Decimal) : Bool :=
  a.scale == 0

/-- Round to the nearest integer, halves away from zero, as a column of an
integer type does on insertion. -/
def round (a : Decimal) : Int :=
  let p : Int := 10 ^ a.scale
  if 0 ≤ a.mantissa then (2 * a.mantissa + p) / (2 * p)
  else -((2 * (-a.mantissa) + p) / (2 * p))

/-- `Number::toString` on a positive number: the digits without trailing
zeros, and the position of the decimal point. -/
def digitsToString (m scale : Nat) : String :=
  let all := Nat.toDigits 10 m
  let zeros := (all.reverse.takeWhile (· == '0')).length
  let digits := all.take (all.length - zeros)
  let k : Int := digits.length
  let n : Int := (all.length : Int) - scale
  if k ≤ n ∧ n ≤ 21 then
    String.ofList (digits ++ List.replicate (n - k).toNat '0')
  else if 0 < n ∧ n ≤ 21 then
    String.ofList (digits.take n.toNat ++ '.' :: digits.drop n.toNat)
  else if -6 < n ∧ n ≤ 0 then
    String.ofList ('0' :: '.' :: List.replicate (-n).toNat '0' ++ digits)
  else
    let mark := if 0 < n then ['e', '+'] else ['e', '-']
    let power := Nat.toDigits 10 (n - 1).natAbs
    match digits with
    | [d] => String.ofList (d :: mark ++ power)
    | d :: rest => String.ofList (d :: '.' :: rest ++ mark ++ power)
    | [] => ""

def toString (a : Decimal) : String :=
  if a.mantissa = 0 then "0"
  else if a.mantissa < 0 then "-" ++ digitsToString a.mantissa.natAbs a.scale
  else digitsToString a.mantissa.natAbs a.scale

end Decimal

/-- A JavaScript number. -/
inductive Number
  | finite (d : Decimal)
  | nan
  | infinity (negative : Bool)
deriving DecidableEq

namespace Number

def ofNat (n : Nat) : Number :=
  .finite (.ofInt n)

def isZero : Number → Bool
  | .finite d => d.mantissa == 0
  | _ => false

/-- `a < b`; false as soon as one side is not a number. -/
def blt : Number → Number → Bool
  | .finite a, .finite b => a.blt b
  | .finite _, .infinity neg => !neg
  | .infinity neg, .finite _ => neg
  | .infinity a, .infinity b => a && !b
  | _, _ => false

/-- `Math.min(a, b)`. -/
def min : Number → Number → Number
  | .nan, _ => .nan
  | _, .nan => .nan
  | a, b => if b.blt a then b else a

/-- `Math.max(a, b)`. -/
def max : Number → Number → Number
  | .nan, _ => .nan
  | _, .nan => .nan
  | a, b => if a.blt b then b else a

/-- What is at least one rounds to at least one. -/
theorem one_le_round_of_max {a : Number} {d : Decimal}
    (h : Number.max (.ofNat 1) a = .finite d) : 1 ≤ d.round := by
  have hround : ∀ e : Decimal, (10 : Int) ^ e.scale ≤ e.mantissa → 1 ≤ e.round := by
    intro e he
    have hp : (0 : Int) < 10 ^ e.scale := Int.pow_pos (by decide)
    unfold Decimal.round
    rw [if_pos (by omega)]
    exact (Int.le_ediv_iff_mul_le (by omega)).mpr (by omega)
  have hone : 1 ≤ (Decimal.ofInt (1 : Nat)).round := by decide
  cases a with
  | nan => cases h
  | infinity negative =>
    cases negative with
    | false => cases h
    | true =>
      cases h
      exact hone
  | finite e =>
    cases hlt : (Decimal.ofInt (1 : Nat)).blt e with
    | true =>
      simp only [ofNat, Number.max, blt, hlt, if_true] at h
      cases h
      apply hround
      have hgt := of_decide_eq_true hlt
      simp only [Decimal.ofInt] at hgt
      omega
    | false =>
      simp only [ofNat, Number.max, blt, hlt, Bool.false_eq_true, if_false] at h
      cases h
      exact hone

/-- `String(a)`. -/
def toString : Number → String
  | .finite d => d.toString
  | .nan => "NaN"
  | .infinity true => "-Infinity"
  | .infinity false => "Infinity"

end Number

/-! ## Reading a number from a string -/

def digitsValue (base : Nat) (digit : Char → Nat) (cs : List Char) : Nat :=
  cs.foldl (fun acc c => acc * base + digit c) 0

def decimalDigit (c : Char) : Nat :=
  c.toNat - '0'.toNat

/-- The value of a digit of a non-decimal literal, `16` if it is none. -/
def literalDigit (c : Char) : Nat :=
  if c.isDigit then decimalDigit c
  else if 'a' ≤ lowerChar c ∧ lowerChar c ≤ 'f' then
    (lowerChar c).toNat - 'a'.toNat + 10
  else 16

/-- The number `digits * 10 ^ (exponent - scale)`; the largest double has 309
digits before the point. -/
def scaledNum (negative : Bool) (digits scale : Nat) (exponent : Int) : Number :=
  let m : Int := if negative then -digits else digits
  let size : Int := (Nat.toDigits 10 digits).length + exponent - scale
  if digits = 0 then .ofNat 0
  else if 309 < size then .infinity negative
  else if size < -400 then .ofNat 0
  else if exponent ≤ scale then
    .finite (Decimal.normalize m (scale - exponent).toNat)
  else .finite (.ofInt (m * 10 ^ (exponent - scale).toNat))

/-- An exponent part, up to the end of the text. -/
def exponentPart : List Char → Option Int
  | [] => some 0
  | e :: rest =>
    if e == 'e' || e == 'E' then
      let (negative, digits) : Bool × List Char :=
        match rest with
        | '+' :: ds => (false, ds)
        | '-' :: ds => (true, ds)
        | ds => (false, ds)
      if digits.isEmpty || !digits.all Char.isDigit then none
      else
        let n : Int := digitsValue 10 decimalDigit digits
        some (if negative then -n else n)
    else none

/-- An unsigned decimal literal, up to the end of the text. -/
def decimalLiteral (negative : Bool) (cs : List Char) : Number :=
  if cs = "Infinity".toList then .infinity negative
  else
    let (whole, rest) := cs.span Char.isDigit
    let (fraction, rest) : List Char × List Char :=
      match rest with
      | '.' :: rest => rest.span Char.isDigit
      | rest => ([], rest)
    if whole.isEmpty && fraction.isEmpty then .nan
    else
      match exponentPart rest with
      | none => .nan
      | some exponent =>
        scaledNum negative (digitsValue 10 decimalDigit (whole ++ fraction))
          fraction.length exponent

/-- A literal with a base prefix, up to the end of the text. -/
def prefixedLiteral (base : Nat) (cs : List Char) : Number :=
  if cs.isEmpty || !cs.all (fun c => literalDigit c < base) then .nan
  else .ofNat (digitsValue base literalDigit cs)

/-- `Number(s)` for a string `s`. -/
def stringToNumber (s : String) : Number :=
  match trimChars s.toList with
  | [] => .ofNat 0
  | '0' :: 'x' :: cs => prefixedLiteral 16 cs
  | '0' :: 'X' :: cs => prefixedLiteral 16 cs
  | '0' :: 'o' :: cs => prefixedLiteral 8 cs
  | '0' :: 'O' :: cs => prefixedLiteral 8 cs
  | '0' :: 'b' :: cs => prefixedLiteral 2 cs
  | '0' :: 'B' :: cs => prefixedLiteral 2 cs
  | '+' :: cs => decimalLiteral false cs
  | '-' :: cs => decimalLiteral true cs
  | cs => decimalLiteral false cs

end GrowthOs.Js
