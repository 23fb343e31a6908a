import GrowthOs.Js.Number

/-!
# JavaScript values

The values the services pass around: primitives, arrays and plain objects, as
`JSON.parse` builds them, together with `undefined`.  An object is the list of
its own fields in insertion order.  A thrown value is a value too, so a
function that may throw returns `Except Val`.
-/

namespace GrowthOs.Js

inductive Val
  | undefined
  | null
  | bool (b : Bool)
  | num (n : Number)
  | str (s : String)
  | arr (elems : List Val)
  | obj (fields : List (String × Val))
deriving Inhabited

namespace Val

/-! ## Fields of an object -/

/-- The own field `key`, `undefined` if there is none. -/
def lookup : List (String × Val) → String → Val
  | [], _ => .undefined
  | (k, v) :: fields, key => if k = key then v else lookup fields key

/-- Assign a field, keeping its place if it exists. -/
def setField : List (String × Val) → String → Val → List (String × Val)
  | [], key, value => [(key, value)]
  | (k, v) :: fields, key, value =>
    if k = key then (key, value) :: fields
    else (k, v) :: setField fields key value

variable (fields : List (String × Val))

@[simp] theorem lookup_setField_self (key : String) (value : Val) :
    lookup (setField fields key value) key = value := by
  induction fields with
  | nil => simp [setField, lookup]
  | cons field fields ih =>
    obtain ⟨k, v⟩ := field
    by_cases h : k = key
    · simp [setField, lookup, h]
    · simp [setField, lookup, h, ih]

theorem lookup_setField_of_ne {key other : String} (value : Val) (hne : other ≠ key) :
    lookup (setField fields key value) other = lookup fields other := by
  induction fields with
  | nil => simp [setField, lookup, Ne.symm hne]
  | cons field fields ih =>
    obtain ⟨k, v⟩ := field
    by_cases h : k = key
    · subst h
      simp [setField, lookup, Ne.symm hne]
    · by_cases hother : k = other
      · subst hother
        simp [setField, lookup, h]
      · simp [setField, lookup, h, hother, ih]

/-- `Object.hasOwn`. -/
def hasField (fields : List (String × Val)) (key : String) : Bool :=
  fields.any fun field => field.1 == key

/-- Elements under their index. -/
def indexed (elems : List Val) : List (String × Val) :=
  elems.zipIdx.map fun x => (Nat.repr x.2, x.1)

def chars (s : String) : List Val :=
  s.toList.map fun c => .str (String.singleton c)

/-- The own enumerable fields of a value, as spread by `{ ...v }`. -/
def ownFields : Val → List (String × Val)
  | .obj fields => fields
  | .arr elems => indexed elems
  | .str s => indexed (chars s)
  | _ => []

/-- `{ ...base, ...extra }`. -/
def spread (base extra : List (String × Val)) : List (String × Val) :=
  extra.foldl (fun fields field => setField fields field.1 field.2) base

/-- A field of a spread comes from the last part that has it. -/
theorem lookup_spread (base extra : List (String × Val)) (key : String) :
    (key ∉ extra.map Prod.fst ∧ lookup (spread base extra) key = lookup base key) ∨
      ∃ field ∈ extra, field.1 = key ∧ lookup (spread base extra) key = field.2 := by
  induction extra generalizing base with
  | nil => simp [spread]
  | cons field extra ih =>
    have hspread : spread base (field :: extra) =
        spread (setField base field.1 field.2) extra := rfl
    rw [hspread]
    obtain ⟨hkey, hlookup⟩ | ⟨found, hfound, hname, hlookup⟩ :=
      ih (setField base field.1 field.2)
    · by_cases hfield : field.1 = key
      · refine .inr ⟨field, List.mem_cons_self, hfield, ?_⟩
        rw [hlookup, ← hfield, lookup_setField_self]
      · refine .inl ⟨?_, ?_⟩
        · rw [List.map_cons, List.mem_cons, not_or]
          exact ⟨Ne.symm hfield, hkey⟩
        · rw [hlookup, lookup_setField_of_ne _ _ (Ne.symm hfield)]
    · exact .inr ⟨found, List.mem_cons_of_mem _ hfound, hname, hlookup⟩

/-! ## Reading a value -/

def isNullish : Val → Bool
  | .undefined => true
  | .null => true
  | _ => false

def truthy : Val → Bool
  | .undefined => false
  | .null => false
  | .bool b => b
  | .num .nan => false
  | .num n => !n.isZero
  | .str s => s != ""
  | .arr _ => true
  | .obj _ => true

/-- `a || b`. -/
def or (a b : Val) : Val :=
  if a.truthy then a else b

/-- `a ?? b`. -/
def coalesce (a b : Val) : Val :=
  if a.isNullish then b else a

/-- `v === true`. -/
def isTrue : Val → Bool
  | .bool b => b
  | _ => false

/-- `v === false`. -/
def isFalse : Val → Bool
  | .bool b => !b
  | _ => false

def isUndefined : Val → Bool
  | .undefined => true
  | _ => false

/-- `typeof v === "object"` for a value that is not `null`. -/
def isObject : Val → Bool
  | .arr _ => true
  | .obj _ => true
  | _ => false

/-- An object that is not an array. -/
def isPlainObject : Val → Bool
  | .obj _ => true
  | _ => false

/-- `v?.[key]` on the own fields of `v`. -/
def member (v : Val) (key : String) : Val :=
  match v with
  | .obj fields => lookup fields key
  | .arr elems =>
    if key = "length" then .num (.ofNat elems.length)
    else lookup (indexed elems) key
  | .str s =>
    if key = "length" then .num (.ofNat s.length)
    else lookup (indexed (chars s)) key
  | _ => .undefined

/-- What every object inherits from `Object.prototype`. -/
def inheritedNames : List String :=
  ["constructor", "__defineGetter__", "__defineSetter__", "hasOwnProperty", "__lookupGetter__",
    "__lookupSetter__", "isPrototypeOf", "propertyIsEnumerable", "toString", "valueOf",
    "__proto__", "toLocaleString"]

/-- `v[key]` finds an inherited member. -/
def inherits (v : Val) (key : String) : Bool :=
  decide (key ∈ inheritedNames) && !hasField v.ownFields key

/-- A thrown `TypeError`. -/
def typeError (message : String) : Val :=
  .obj [("message", .str message)]

/-- `v[key]`, which throws when `v` is `null` or `undefined`. -/
def get (v : Val) (key : String) : Except Val Val :=
  match v with
  | .undefined =>
    .error (typeError ("Cannot read properties of undefined (reading '" ++ key ++ "')"))
  | .null =>
    .error (typeError ("Cannot read properties of null (reading '" ++ key ++ "')"))
  | v => .ok (v.member key)

theorem get_ok {v result : Val} {key : String} (h : v.get key = .ok result) :
    result = v.member key := by
  cases v <;> cases h <;> rfl

/-! ## Conversions -/

mutual

/-- `String(v)`.  A plain object with a `toString` field of its own has no
primitive value. -/
def toStr : Val → Except Val String
  | .undefined => .ok "undefined"
  | .null => .ok "null"
  | .bool true => .ok "true"
  | .bool false => .ok "false"
  | .num n => .ok n.toString
  | .str s => .ok s
  | .arr elems => joinElems elems
  | .obj fields =>
    if hasField fields "toString" then
      .error (typeError "Cannot convert object to primitive value")
    else .ok "[object Object]"

/-- `elems.join(",")`. -/
def joinElems : List Val → Except Val String
  | [] => .ok ""
  | [v] => if v.isNullish then .ok "" else toStr v
  | v :: w :: rest => do
    let first ← if v.isNullish then .ok "" else toStr v
    let others ← joinElems (w :: rest)
    .ok (first ++ "," ++ others)

end

mutual

/-- Only an object with a field `toString` has no text. -/
theorem toStr_error : ∀ {v e : Val}, v.toStr = .error e →
    e = typeError "Cannot convert object to primitive value"
  | .bool true, _, h | .bool false, _, h => by cases h
  | .arr elems, _, h => joinElems_error h
  | .obj fields, _, h => by
    rw [toStr] at h
    split at h
    · cases h
      rfl
    · cases h

theorem joinElems_error : ∀ {elems : List Val} {e : Val}, joinElems elems = .error e →
    e = typeError "Cannot convert object to primitive value"
  | [v], _, h => by
    rw [joinElems] at h
    split at h
    · cases h
    · exact toStr_error h
  | v :: w :: rest, e, h => by
    have hrest : ∀ first, (joinElems (w :: rest) >>= fun others =>
        Except.ok (first ++ "," ++ others)) = .error e →
          e = typeError "Cannot convert object to primitive value" := by
      intro first hfirst
      cases hothers : joinElems (w :: rest) <;> rw [hothers] at hfirst <;> cases hfirst
      exact joinElems_error hothers
    rw [joinElems] at h
    split at h
    · exact hrest "" h
    · cases hv : v.toStr <;> rw [hv] at h
      · cases h
        exact toStr_error hv
      · exact hrest _ h

end

/-- `Number(v)`. -/
def toNumber : Val → Except Val Number
  | .undefined => .ok .nan
  | .null => .ok (.ofNat 0)
  | .bool true => .ok (.ofNat 1)
  | .bool false => .ok (.ofNat 0)
  | .num n => .ok n
  | .str s => .ok (stringToNumber s)
  | v => do
    let s ← v.toStr
    .ok (stringToNumber s)

end Val

/-- What the code takes from its platform: the digest of `node:crypto` and
the clock arithmetic of `Date`.  `timeOf v` is `new Date(v).getTime()`, `none`
for an invalid date. -/
structure Runtime where
  sha256 : String → String
  timeOf : Val → Option Int
  isoString : Int → String

end GrowthOs.Js
