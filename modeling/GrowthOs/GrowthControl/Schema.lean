import GrowthOs.GrowthControl.Documents

/-!
# Configuration schemas

`validateSchemaDefinition` accepts a schema whose keywords are all known;
`validateValueAgainstSchema` lists what is wrong with a value.  `regExp source`
is `new RegExp(source)`, `none` where the source is no pattern.
-/

namespace GrowthOs.GrowthControl

open Js Throwing

def schemaKeys : List String :=
  ["$schema", "$id", "title", "description", "type", "properties", "required",
    "additionalProperties", "enum", "const", "items", "minItems", "maxItems",
    "uniqueItems", "minLength", "maxLength", "minimum", "maximum", "pattern", "format",
    "examples", "default"]

/-! ## Schema definitions -/

/-- The loop over the keys of a schema. -/
def checkKeywords (path : String) : List String → Except Val Unit
  | [] => .ok ()
  | key :: rest => do
    rejectIf (key ∉ schemaKeys) (planeError "GROWTH_CONTROL_SCHEMA_KEYWORD_UNSUPPORTED"
        ("Unsupported schema keyword: " ++ key ++ ".") 422
        [issueAt (path ++ "." ++ key) "unsupported_schema_keyword"])
    checkKeywords path rest

mutual

def validateSchemaDefinition : Val → String → Except Val Unit
  | .obj fields, path => do
    checkKeywords path (fields.map Prod.fst)
    validateProperties fields path
    validateItems fields path
  | _, _ => .error (planeError "GROWTH_CONTROL_SCHEMA_INVALID"
      "Configuration schema must be an object." 422 [])

/-- `if (schema.properties) ...`, looking for the field. -/
def validateProperties : List (String × Val) → String → Except Val Unit
  | [], _ => .ok ()
  | (key, v) :: rest, path =>
    if key = "properties" then
      match v with
      | .obj properties => validateChildren properties path
      | v =>
        if v.truthy then .error (planeError "GROWTH_CONTROL_SCHEMA_INVALID"
          "properties must be an object." 422 [])
        else .ok ()
    else validateProperties rest path

def validateChildren : List (String × Val) → String → Except Val Unit
  | [], _ => .ok ()
  | (key, child) :: rest, path => do
    validateSchemaDefinition child (path ++ ".properties." ++ key)
    validateChildren rest path

/-- `if (schema.items) ...`, looking for the field. -/
def validateItems : List (String × Val) → String → Except Val Unit
  | [], _ => .ok ()
  | (key, v) :: rest, path =>
    if key = "items" then
      if v.truthy then validateSchemaDefinition v (path ++ ".items") else .ok ()
    else validateItems rest path

end

/-! ## Values -/

/-- `v === text`. -/
def isText (v : Val) (text : String) : Bool :=
  match v with
  | .str s => s == text
  | _ => false

/-- `typeof value`. -/
def typeOf : Val → String
  | .undefined => "undefined"
  | .null => "object"
  | .bool _ => "boolean"
  | .num _ => "number"
  | .str _ => "string"
  | .arr _ => "object"
  | .obj _ => "object"

def isNull : Val → Bool
  | .null => true
  | _ => false

def isArray : Val → Bool
  | .arr _ => true
  | _ => false

def isIntegerVal : Val → Bool
  | .num n => (integerOf n).isSome
  | _ => false

def isFiniteVal : Val → Bool
  | .num (.finite _) => true
  | _ => false

def typeMatches (value type : Val) : Bool :=
  if isText type "null" then isNull value
  else if isText type "array" then isArray value
  else if isText type "object" then value.isPlainObject
  else if isText type "integer" then isIntegerVal value
  else if isText type "number" then isFiniteVal value
  else isText type (typeOf value)

/-- `Array.isArray(schema?.type) ? schema.type : schema?.type ? [schema.type] : []`. -/
def allowedTypes (schema : Val) : List Val :=
  match schema.member "type" with
  | .arr types => types
  | type => if type.truthy then [type] else []

/-- `stableSerialize(a) === stableSerialize(b)`. -/
def sameSerialized (a b : Val) : Bool :=
  stableSerialize a == stableSerialize b

/-- A list of issues if the condition holds. -/
def issueIf (condition : Bool) (path issue : String) : List Val :=
  if condition then [issueAt path issue] else []

def enumIssues (value schema : Val) (path : String) : Except Val (List Val) :=
  if (schema.member "enum").truthy then
    match schema.member "enum" with
    | .arr entries =>
      .ok (issueIf (!entries.any fun entry => sameSerialized entry value) path "enum_mismatch")
    | _ => .error (Val.typeError "schema.enum.some is not a function")
  else .ok []

def constIssues (value schema : Val) (path : String) : List Val :=
  issueIf (Val.hasField schema.ownFields "const" &&
    !sameSerialized (schema.member "const") value) path "const_mismatch"

/-- `bound != null && number < bound`. -/
def below (number : Number) (bound : Val) : Except Val Bool :=
  if bound.isNullish then .ok false
  else do
    let limit ← bound.toNumber
    .ok (number.blt limit)

/-- `bound != null && number > bound`. -/
def above (number : Number) (bound : Val) : Except Val Bool :=
  if bound.isNullish then .ok false
  else do
    let limit ← bound.toNumber
    .ok (limit.blt number)

/-- The two bounds of a keyword pair. -/
def boundIssues (number : Number) (lower upper : Val) (path lowerIssue upperIssue : String) :
    Except Val (List Val) := do
  let low ← below number lower
  let high ← above number upper
  .ok (issueIf low path lowerIssue ++ issueIf high path upperIssue)

def patternIssues (regExp : String → Option (String → Bool)) (text : String)
    (pattern : Val) (path : String) : Except Val (List Val) :=
  if pattern.truthy then do
    let source ← pattern.toStr
    match regExp source with
    | some test => .ok (issueIf (!test text) path "pattern_mismatch")
    | none => .error (Val.typeError ("Invalid regular expression: /" ++ source ++ "/"))
  else .ok []

def uniqueIssues (elems : List Val) (uniqueItems : Val) (path : String) : List Val :=
  issueIf (uniqueItems.truthy && !decide ((elems.map stableSerialize).Nodup)) path "unique_items"

/-- `for (const required of schema.required || [])`. -/
def requiredNames (required : Val) : Except Val (List String) :=
  if required.truthy then
    match required with
    | .arr names => names.mapM Val.toStr
    | .str s => .ok (s.toList.map String.singleton)
    | _ => .error (Val.typeError "schema.required is not iterable")
  else .ok []

def missingIssues (fields : List (String × Val)) (names : List String) (path : String) : List Val :=
  names.flatMap fun name =>
    issueIf (!Val.hasField fields name) (path ++ "." ++ name) "required"

/-- `schema.properties || {}`. -/
def schemaProperties (schema : Val) : Val :=
  (schema.member "properties").or (.obj [])

/-- The checks of every value, and those of texts and numbers. -/
def scalarIssues (regExp : String → Option (String → Bool)) (value schema : Val)
    (path : String) : Except Val (List Val) := do
  let enumerated ← enumIssues value schema path
  let own ← match value with
    | .str s => do
      let _ ← schema.get "minLength"
      let lengths ← boundIssues (.ofNat (utf16Length s)) (schema.member "minLength")
        (schema.member "maxLength") path "min_length" "max_length"
      let pattern ← patternIssues regExp s (schema.member "pattern") path
      .ok (lengths ++ pattern)
    | .num n => do
      let _ ← schema.get "minimum"
      boundIssues n (schema.member "minimum") (schema.member "maximum") path "minimum" "maximum"
    | _ => .ok []
  .ok (enumerated ++ constIssues value schema path ++ own)

mutual

def validateValueAgainstSchema (regExp : String → Option (String → Bool)) :
    Val → Val → String → Except Val (List Val)
  | value, schema, path =>
    let types := allowedTypes schema
    if !types.isEmpty && !types.any (typeMatches value) then
      .ok [.obj [("field", .str path), ("issue", .str "type_mismatch"), ("expected", .arr types)]]
    else do
      let issues ← scalarIssues regExp value schema path
      match value with
      | .arr elems => do
        let _ ← schema.get "minItems"
        let lengths ← boundIssues (.ofNat elems.length) (schema.member "minItems")
          (schema.member "maxItems") path "min_items" "max_items"
        let items ← if (schema.member "items").truthy then
            validateElements regExp elems (schema.member "items") path 0
          else .ok []
        .ok (issues ++ lengths ++ uniqueIssues elems (schema.member "uniqueItems") path ++ items)
      | .obj fields => do
        let _ ← schema.get "properties"
        let names ← requiredNames (schema.member "required")
        let entries ← validateEntries regExp fields schema path
        .ok (issues ++ missingIssues fields names path ++ entries)
      | _ => .ok issues

def validateElements (regExp : String → Option (String → Bool)) :
    List Val → Val → String → Nat → Except Val (List Val)
  | [], _, _, _ => .ok []
  | v :: rest, schema, path, index => do
    let issues ← validateValueAgainstSchema regExp v schema (path ++ "[" ++ toString index ++ "]")
    let others ← validateElements regExp rest schema path (index + 1)
    .ok (issues ++ others)

def validateEntries (regExp : String → Option (String → Bool)) :
    List (String × Val) → Val → String → Except Val (List Val)
  | [], _, _ => .ok []
  | (key, child) :: rest, schema, path => do
    let properties := schemaProperties schema
    let issues ← if Val.hasField properties.ownFields key then
        validateValueAgainstSchema regExp child (properties.member key) (path ++ "." ++ key)
      else .ok (issueIf (schema.member "additionalProperties").isFalse
        (path ++ "." ++ key) "unsupported")
    let others ← validateEntries regExp rest schema path
    .ok (issues ++ others)

end

end GrowthOs.GrowthControl
