import GrowthOs.Js.Value

/-!
# JSON texts

`JSON.parse`, `JSON.stringify` and the two helpers every service builds on
them: `parseJson`, which falls back on a default, and the canonical
serialisation with sorted keys whose digest identifies a request.
-/

namespace GrowthOs.Js

/-! ## Reading -/

namespace JsonText

def isSpace (c : Char) : Bool :=
  c == ' ' || c == '\t' || c == '\n' || c == '\r'

def skipSpace (cs : List Char) : List Char :=
  cs.dropWhile isSpace

/-- Four hexadecimal digits, as a code unit. -/
def codeUnit : List Char → Option (Nat × List Char)
  | a :: b :: c :: d :: rest =>
    if [a, b, c, d].all (fun x => literalDigit x < 16) then
      some (digitsValue 16 literalDigit [a, b, c, d], rest)
    else none
  | _ => none

/-- The character of a code unit.  A surrogate that has no partner is read as
the replacement character. -/
def unitChar (n : Nat) : Char :=
  if 0xD800 ≤ n ∧ n ≤ 0xDFFF then Char.ofNat 0xFFFD else Char.ofNat n

def pairChar (high low : Nat) : Char :=
  Char.ofNat (0x10000 + (high - 0xD800) * 0x400 + (low - 0xDC00))

def simpleEscape : Char → Option Char
  | '"' => some '"'
  | '\\' => some '\\'
  | '/' => some '/'
  | 'b' => some '\x08'
  | 'f' => some '\x0c'
  | 'n' => some '\n'
  | 'r' => some '\r'
  | 't' => some '\t'
  | _ => none

/-- The rest of a string literal, after its opening quote. -/
def stringBody : Nat → List Char → Option (List Char × List Char)
  | 0, _ => none
  | _ + 1, [] => none
  | _ + 1, '"' :: rest => some ([], rest)
  | fuel + 1, '\\' :: 'u' :: rest =>
    match codeUnit rest with
    | none => none
    | some (n, after) =>
      -- a high surrogate takes the escaped low surrogate that follows it
      match after with
      | '\\' :: 'u' :: more =>
        match codeUnit more with
        | some (m, tail) =>
          if 0xD800 ≤ n ∧ n ≤ 0xDBFF ∧ 0xDC00 ≤ m ∧ m ≤ 0xDFFF then
            (stringBody fuel tail).map fun r =>
              (pairChar n m :: r.1, r.2)
          else
            (stringBody fuel after).map fun r =>
              (unitChar n :: r.1, r.2)
        | none => none
      | _ =>
        (stringBody fuel after).map fun r => (unitChar n :: r.1, r.2)
  | fuel + 1, '\\' :: c :: rest =>
    match simpleEscape c with
    | none => none
    | some d => (stringBody fuel rest).map fun r => (d :: r.1, r.2)
  | fuel + 1, c :: rest =>
    if c.toNat < 0x20 then none
    else (stringBody fuel rest).map fun r => (c :: r.1, r.2)

/-- The characters of a number literal; JSON allows neither a leading zero
nor an empty fraction. -/
def numberLiteral (cs : List Char) : Option (Number × List Char) :=
  let (negative, cs) : Bool × List Char :=
    match cs with
    | '-' :: rest => (true, rest)
    | cs => (false, cs)
  let (whole, rest) := cs.span Char.isDigit
  if whole.isEmpty || (whole.head? == some '0' && whole.length != 1) then none
  else
    let fractionPart : Option (List Char × List Char) :=
      match rest with
      | '.' :: rest =>
        let (fraction, rest) := rest.span Char.isDigit
        if fraction.isEmpty then none else some (fraction, rest)
      | rest => some ([], rest)
    fractionPart.bind fun (fraction, rest) =>
      let exponentChars : List Char × List Char :=
        match rest with
        | 'e' :: '+' :: rest => (rest.span Char.isDigit).map ('e' :: ·) id
        | 'e' :: '-' :: rest => (rest.span Char.isDigit).map ('e' :: '-' :: ·) id
        | 'e' :: rest => (rest.span Char.isDigit).map ('e' :: ·) id
        | 'E' :: '+' :: rest => (rest.span Char.isDigit).map ('e' :: ·) id
        | 'E' :: '-' :: rest => (rest.span Char.isDigit).map ('e' :: '-' :: ·) id
        | 'E' :: rest => (rest.span Char.isDigit).map ('e' :: ·) id
        | rest => ([], rest)
      (exponentPart exponentChars.1).map fun exponent =>
        (scaledNum negative (digitsValue 10 decimalDigit (whole ++ fraction))
          fraction.length exponent, exponentChars.2)

mutual

def value : Nat → List Char → Option (Val × List Char)
  | 0, _ => none
  | fuel + 1, cs =>
    match skipSpace cs with
    | 'n' :: 'u' :: 'l' :: 'l' :: rest => some (.null, rest)
    | 't' :: 'r' :: 'u' :: 'e' :: rest => some (.bool true, rest)
    | 'f' :: 'a' :: 'l' :: 's' :: 'e' :: rest => some (.bool false, rest)
    | '"' :: rest =>
      (stringBody (rest.length + 1) rest).map fun r =>
        (.str (String.ofList r.1), r.2)
    | '[' :: rest =>
      match skipSpace rest with
      | ']' :: rest => some (.arr [], rest)
      | rest => (elements fuel rest).map fun r => (.arr r.1, r.2)
    | '\x7b' :: rest =>
      match skipSpace rest with
      | '\x7d' :: rest => some (.obj [], rest)
      | rest => (members fuel [] rest).map fun r => (.obj r.1, r.2)
    | cs => (numberLiteral cs).map fun r => (.num r.1, r.2)

def elements : Nat → List Char → Option (List Val × List Char)
  | 0, _ => none
  | fuel + 1, cs =>
    (value fuel cs).bind fun (v, rest) =>
      match skipSpace rest with
      | ',' :: rest => (elements fuel rest).map fun r => (v :: r.1, r.2)
      | ']' :: rest => some ([v], rest)
      | _ => none

/-- The members of an object; a repeated key overwrites the earlier value. -/
def members : Nat → List (String × Val) → List Char → Option (List (String × Val) × List Char)
  | 0, _, _ => none
  | fuel + 1, fields, cs =>
    match skipSpace cs with
    | '"' :: rest =>
      (stringBody (rest.length + 1) rest).bind fun (key, rest) =>
        match skipSpace rest with
        | ':' :: rest =>
          (value fuel rest).bind fun (v, rest) =>
            let fields := Val.setField fields (String.ofList key) v
            match skipSpace rest with
            | ',' :: rest => members fuel fields rest
            | '\x7d' :: rest => some (fields, rest)
            | _ => none
        | _ => none
    | _ => none

end

end JsonText

/-- `JSON.parse(text)`, `none` for a syntax error.  Every value takes at least
one character, so the length of the text bounds the nesting. -/
def jsonParse (text : String) : Option Val :=
  let cs := text.toList
  match JsonText.value (2 * cs.length + 1) cs with
  | some (v, rest) => if (JsonText.skipSpace rest).isEmpty then some v else none
  | none => none

/-! ## Writing -/

def hexDigit (n : Nat) : Char :=
  if n < 10 then Char.ofNat (48 + n) else Char.ofNat (87 + n)

def escapeChar (c : Char) : List Char :=
  if c == '"' then ['\\', '"']
  else if c == '\\' then ['\\', '\\']
  else if c == '\x08' then ['\\', 'b']
  else if c == '\x0c' then ['\\', 'f']
  else if c == '\n' then ['\\', 'n']
  else if c == '\r' then ['\\', 'r']
  else if c == '\t' then ['\\', 't']
  else if c.toNat < 0x20 then
    ['\\', 'u', '0', '0', hexDigit (c.toNat / 16), hexDigit (c.toNat % 16)]
  else [c]

def quote (s : String) : String :=
  String.ofList ('"' :: s.toList.flatMap escapeChar ++ ['"'])

def numText : Number → String
  | .finite d => d.toString
  | _ => "null"

mutual

/-- `JSON.stringify(v)`, `none` where it is `undefined`. -/
def jsonStringify : Val → Option String
  | .undefined => none
  | .null => some "null"
  | .bool true => some "true"
  | .bool false => some "false"
  | .num n => some (numText n)
  | .str s => some (quote s)
  | .arr elems => some ("[" ++ ",".intercalate (elementTexts elems) ++ "]")
  | .obj fields => some ("\x7b" ++ ",".intercalate (memberTexts fields) ++ "\x7d")

def elementTexts : List Val → List String
  | [] => []
  | v :: rest => (jsonStringify v).getD "null" :: elementTexts rest

/-- A field whose value is `undefined` is left out. -/
def memberTexts : List (String × Val) → List String
  | [] => []
  | (key, v) :: rest =>
    match jsonStringify v with
    | none => memberTexts rest
    | some text => (quote key ++ ":" ++ text) :: memberTexts rest

end

mutual

/-- The value that reading `JSON.stringify(v)` back gives, `none` where
nothing is written. -/
def jsonValue : Val → Option Val
  | .undefined => none
  | .num (.finite d) => some (.num (.finite d))
  | .num _ => some .null
  | .arr elems => some (.arr (jsonElements elems))
  | .obj fields => some (.obj (jsonFields fields))
  | v => some v

def jsonElements : List Val → List Val
  | [] => []
  | v :: rest => (jsonValue v).getD .null :: jsonElements rest

def jsonFields : List (String × Val) → List (String × Val)
  | [] => []
  | (key, v) :: rest =>
    match jsonValue v with
    | none => jsonFields rest
    | some w => (key, w) :: jsonFields rest

end

theorem length_jsonFields (fields : List (String × Val)) :
    (jsonFields fields).length ≤ fields.length := by
  induction fields with
  | nil => exact Nat.le_refl _
  | cons field rest ih =>
    obtain ⟨key, v⟩ := field
    unfold jsonFields
    cases jsonValue v with
    | none => exact Nat.le_succ_of_le ih
    | some w => exact Nat.succ_le_succ ih

theorem jsonFields_append (xs ys : List (String × Val)) :
    jsonFields (xs ++ ys) = jsonFields xs ++ jsonFields ys := by
  induction xs with
  | nil => rfl
  | cons field rest ih =>
    obtain ⟨key, v⟩ := field
    simp only [List.cons_append, jsonFields, ih]
    cases jsonValue v with
    | none | some w => rfl

/-- A value set in JSON data is JSON data. -/
theorem jsonFields_setField {fields : List (String × Val)} {key : String}
    {value : Val} (h : jsonFields fields = fields) (hvalue : jsonValue value = some value) :
    jsonFields (Val.setField fields key value) = Val.setField fields key value := by
  induction fields with
  | nil => simp [Val.setField, jsonFields, hvalue]
  | cons field rest ih =>
    obtain ⟨k, v⟩ := field
    unfold jsonFields at h
    cases hv : jsonValue v with
    | none =>
      rw [hv] at h
      have hlength := length_jsonFields rest
      have := congrArg List.length h
      simp only [List.length_cons] at this
      omega
    | some w =>
      rw [hv] at h
      obtain ⟨hfirst, hrest⟩ := List.cons.inj h
      obtain rfl := (Prod.mk.inj hfirst).2
      unfold Val.setField
      split
      next => simp [jsonFields, hvalue, hrest]
      next => simp [jsonFields, hv, ih hrest]

/-- A JSON column holds the value its text denotes; `json(v)` writes
`JSON.stringify(v ?? null)`. -/
def json (v : Val) : Val :=
  (jsonValue v).getD .null

def parseJson (value fallback : Val) : Val :=
  match value with
  | .undefined => fallback
  | .null => fallback
  | .str s => if s = "" then fallback else (jsonParse s).getD fallback
  | .arr elems => .arr elems
  | .obj fields => .obj fields
  | .bool b => .bool b
  | .num (.finite d) => .num (.finite d)
  | .num _ => fallback

/-- `parseObject(value)`: anything but a plain object reads as an empty one.
An array is first printed, as `JSON.parse` does with its argument. -/
def parseObject (value : Val) : Val :=
  if !value.truthy then .obj []
  else
    match value with
    | .obj fields => .obj fields
    | value =>
      match value.toStr with
      | .error _ => .obj []
      | .ok text =>
        match jsonParse text with
        | some (.obj fields) => .obj fields
        | _ => .obj []

/-! ## Canonical serialisation -/

/-- The code units of a character: one, or a pair of surrogates. -/
def codeUnits (c : Char) : List Nat :=
  if c.toNat < 0x10000 then [c.toNat]
  else [0xD800 + (c.toNat - 0x10000) / 0x400, 0xDC00 + (c.toNat - 0x10000) % 0x400]

/-- The order of code units. -/
def unitsLe : List Nat → List Nat → Bool
  | [], _ => true
  | _ :: _, [] => false
  | a :: as, b :: bs => if a = b then unitsLe as bs else decide (a < b)

/-- The order of `Array.prototype.sort` on keys. -/
def keyLe (a b : String) : Bool :=
  unitsLe (a.toList.flatMap codeUnits) (b.toList.flatMap codeUnits)

def insertField (field : String × Val) : List (String × Val) → List (String × Val)
  | [] => [field]
  | other :: fields =>
    if keyLe field.1 other.1 then field :: other :: fields
    else other :: insertField field fields

mutual

/-- `stableValue(v)`: every object with its keys in order. -/
def stableValue : Val → Val
  | .arr elems => .arr (stableElements elems)
  | .obj fields => .obj (stableFields fields)
  | v => v

def stableElements : List Val → List Val
  | [] => []
  | v :: rest => stableValue v :: stableElements rest

def stableFields : List (String × Val) → List (String × Val)
  | [] => []
  | (key, v) :: rest => insertField (key, stableValue v) (stableFields rest)

end

/-- `JSON.stringify(stableValue(v))`. -/
def stableStringify (v : Val) : String :=
  (jsonStringify (stableValue v)).getD "undefined"

end GrowthOs.Js
