import GrowthOs.Js.Text
import GrowthOs.Support.Comparison
import GrowthOs.Support.Regexp
import GrowthOs.Support.Throwing

/-!
# Execution capsules

`contextKernel/domain/executionCapsule.js`: a capsule is a normalised
descriptor, the sorted vector of the dependencies that invalidate it, and the
digest of both.  `assertExecutionCapsuleIntegrity` takes an object that claims
to be a capsule, builds the capsule again from its fields and compares.
-/

namespace GrowthOs.ContextKernel.ExecutionCapsule

open Js Throwing Comparison

/-! ## Texts -/

def sameFolded (a b : Char) : Bool :=
  foldChar b == a

def isTokenChar (c : Char) : Bool :=
  isAsciiAlnum c || "._~+/=-".toList.contains c

def isUrlChar (c : Char) : Bool :=
  isAsciiAlnum c || c == '_' || c == '-'

/-- `/Bearer\s+[A-Za-z0-9._~+/=-]+/iu`. -/
def bearerPattern : Regexp Char :=
  .all [.word sameFolded "bearer".toList, .plus (.one isWhiteSpace), .plus (.one isTokenChar)]

/-- `/-----BEGIN [A-Z ]*PRIVATE KEY-----/u`. -/
def privateKeyPattern : Regexp Char :=
  .all [.word (· == ·) "-----BEGIN ".toList,
    .star (.one fun c => ('A' ≤ c && c ≤ 'Z') || c == ' '),
    .word (· == ·) "PRIVATE KEY-----".toList]

/-- Two words with an optional underscore or dash between them. -/
def joinedWords (first second : String) : Regexp Char :=
  .all [.word sameFolded first.toList, .opt (.one fun c => c == '_' || c == '-'),
    .word sameFolded second.toList]

/-- `/(?:api[_-]?key|...|session)=/iu`. -/
def assignmentPattern : Regexp Char :=
  .seq (.any ([joinedWords "api" "key", joinedWords "access" "token",
      joinedWords "refresh" "token"] ++
    ["password", "passwd", "secret", "credential", "authorization", "cookie",
      "session"].map fun word => .word sameFolded word.toList))
    (.one (· == '='))

/-- `/^eyJ[A-Za-z0-9_-]+\.[A-Za-z0-9_-]+\.[A-Za-z0-9_-]+$/u`. -/
def tokenPattern : Regexp Char :=
  .all [.word (· == ·) "eyJ".toList, .plus (.one isUrlChar), .one (· == '.'),
    .plus (.one isUrlChar), .one (· == '.'), .plus (.one isUrlChar)]

/-- `SECRET_VALUE_PATTERNS.some((pattern) => pattern.test(text))`. -/
def isSecretValue (text : String) : Bool :=
  bearerPattern.search text.toList || privateKeyPattern.search text.toList ||
    assignmentPattern.search text.toList || tokenPattern.matchesAll text.toList

def maxFieldLength : Nat := 512
def maxCapsuleDependencies : Nat := 128
def maxCanonicalBytes : Nat := 256 * 1024

def requireString (value : Val) (fieldName : String) : Except Val String :=
  match value with
  | .str s => do
    rejectIf (trim s = "") (Val.typeError (fieldName ++ " must be a non-empty string."))
    rejectIf (maxFieldLength < utf16Length (trim s))
      (Val.typeError (fieldName ++ " must contain at most " ++
        toString maxFieldLength ++ " characters."))
    rejectIf (isSecretValue (trim s) = true)
      (Val.typeError (fieldName ++ " must not contain a secret-like value."))
    .ok (trim s)
  | _ => .error (Val.typeError (fieldName ++ " must be a non-empty string."))

def optionalString (value : Val) (fieldName : String) : Except Val (Option String) :=
  match value with
  | .undefined => .ok none
  | .null => .ok none
  | .str s =>
    if s = "" then .ok none
    else do
      let text ← requireString (.str s) fieldName
      .ok (some text)
  | value => do
    let text ← requireString value fieldName
    .ok (some text)

variable (rt : Runtime) (localeLe : String → String → Bool)

def normalizeDate (value : Val) (fieldName : String) : Except Val String :=
  match rt.timeOf value with
  | some time => .ok (rt.isoString time)
  | none => .error (Val.typeError (fieldName ++ " must be a valid date."))

/-! ## Dependencies -/

/-- `ExecutionCapsuleDependencyDomains`. -/
inductive DependencyDomain
  | principal | effectiveSubject | tenant | workspace | brand | resource
  | connection | authority | capability | registry | credentialReadiness
  | approval | capabilityEnvelope | effectiveAuthority | resourceVersion
  | providerVersion | connectionStatus | expectedVersion
deriving DecidableEq, Repr

def DependencyDomain.all : List DependencyDomain :=
  [.principal, .effectiveSubject, .tenant, .workspace, .brand, .resource,
    .connection, .authority, .capability, .registry, .credentialReadiness,
    .approval, .capabilityEnvelope, .effectiveAuthority, .resourceVersion,
    .providerVersion, .connectionStatus, .expectedVersion]

def DependencyDomain.text : DependencyDomain → String
  | .principal => "principal"
  | .effectiveSubject => "effectiveSubject"
  | .tenant => "tenant"
  | .workspace => "workspace"
  | .brand => "brand"
  | .resource => "resource"
  | .connection => "connection"
  | .authority => "authority"
  | .capability => "capability"
  | .registry => "registry"
  | .credentialReadiness => "credentialReadiness"
  | .approval => "approval"
  | .capabilityEnvelope => "capabilityEnvelope"
  | .effectiveAuthority => "effectiveAuthority"
  | .resourceVersion => "resourceVersion"
  | .providerVersion => "providerVersion"
  | .connectionStatus => "connectionStatus"
  | .expectedVersion => "expectedVersion"

def DependencyDomain.ofText (text : String) : Option DependencyDomain :=
  DependencyDomain.all.find? fun domain => domain.text == text

inductive RefreshClass
  | static | dynamic
deriving DecidableEq, Repr

def RefreshClass.text : RefreshClass → String
  | .static => "static"
  | .dynamic => "dynamic"

/-- `REFRESH_CLASSES.has(value)`, with the class. -/
def RefreshClass.ofVal : Val → Option RefreshClass
  | .str "static" => some .static
  | .str "dynamic" => some .dynamic
  | _ => none

structure Dependency where
  domain : DependencyDomain
  ref : String
  revision : String
  refreshClass : RefreshClass
deriving DecidableEq, Repr

def Dependency.toVal (dependency : Dependency) : Val :=
  .obj [("domain", .str dependency.domain.text), ("ref", .str dependency.ref),
    ("revision", .str dependency.revision),
    ("refreshClass", .str dependency.refreshClass.text)]

def dependencyDomain (text : String) : Except Val DependencyDomain :=
  match DependencyDomain.ofText text with
  | some domain => .ok domain
  | none =>
    .error (Val.typeError ("Unsupported execution capsule dependency domain: " ++ text))

/-- The class of a dependency, static where none is given. -/
def dependencyClass (value : Val) : Except Val RefreshClass :=
  match RefreshClass.ofVal value with
  | some refreshClass => .ok refreshClass
  | none => do
    let text ← value.toStr
    .error (Val.typeError ("Unsupported refreshClass: " ++ text))

def normalizeDependency (dependency : Val) (index : Nat) (fieldName : String) :
    Except Val Dependency := do
  let field := fieldName ++ "[" ++ toString index ++ "]"
  rejectIf (dependency.isPlainObject = false) (Val.typeError (field ++ " must be an object."))
  let domainText ← requireString (dependency.member "domain") (field ++ ".domain")
  let domain ← dependencyDomain domainText
  let refreshClass ← dependencyClass ((dependency.member "refreshClass").or (.str "static"))
  let ref ← requireString (dependency.member "ref") (field ++ ".ref")
  let revision ← requireString (dependency.member "revision") (field ++ ".revision")
  .ok { domain, ref, revision, refreshClass }

def dependencyKey (dependency : Dependency) : String :=
  dependency.domain.text ++ ":" ++ dependency.ref

/-- `addDependency(target, dependency)`; a map is the list of its values in the
order they were set. -/
def addDependency (target : List Dependency) (dependency : Dependency) :
    Except Val (List Dependency) :=
  match target.find? fun other => dependencyKey other == dependencyKey dependency with
  | some existing => do
    rejectIf (existing.revision ≠ dependency.revision ∨
        existing.refreshClass ≠ dependency.refreshClass)
      (Val.typeError ("Conflicting execution capsule dependency: " ++ dependencyKey dependency))
    .ok target
  | none => .ok (target ++ [dependency])

/-- The loop of `buildDependencyMap`. -/
def mapDependencies (fieldName : String) : List Val → Nat → List Dependency →
    Except Val (List Dependency)
  | [], _, result => .ok result
  | dependency :: rest, index, result => do
    let normalized ← normalizeDependency dependency index fieldName
    rejectIf (∃ other ∈ result, dependencyKey other = dependencyKey normalized)
      (Val.typeError ("Duplicate " ++ fieldName ++ " dependency: " ++ dependencyKey normalized))
    mapDependencies fieldName rest (index + 1) (result ++ [normalized])

def buildDependencyMap (dependencies : List Val) (fieldName : String)
    (maxDependencies : Nat) : Except Val (List Dependency) := do
  rejectIf (maxDependencies < dependencies.length)
    (Val.typeError (fieldName ++ " may contain at most " ++ toString maxDependencies ++
      " dependencies."))
  mapDependencies fieldName dependencies 0 []

/-- The comparison of the dependency vector: by domain, reference, revision. -/
def dependencyLe : Dependency → Dependency → Bool :=
  andThen (fun left right => localeLe left.domain.text right.domain.text)
    (andThen (fun left right => localeLe left.ref right.ref)
      (fun left right => localeLe left.revision right.revision))

/-- The references a capsule depends on of its own accord. -/
structure CapsuleReferences where
  contextRevision : String
  principalRef : String
  effectiveSubjectRef : String
  tenantRef : String
  workspaceRef : String
  brandRef : Option String
  resourceType : String
  resourceRef : String
  connectionRef : String
  authorityPathRef : String
  capabilityKey : String
  authorityRevision : String
  capabilityRevision : String
  registryRevision : String
  credentialReadinessRevision : String
deriving DecidableEq

def readReferences (source : Val) : Except Val CapsuleReferences := do
  let contextRevision ← requireString (source.member "contextRevision") "contextRevision"
  let principalRef ← requireString (source.member "principalRef") "principalRef"
  let effectiveSubjectRef ←
    requireString (source.member "effectiveSubjectRef") "effectiveSubjectRef"
  let tenantRef ← requireString (source.member "tenantRef") "tenantRef"
  let workspaceRef ← requireString (source.member "workspaceRef") "workspaceRef"
  let brandRef ← optionalString (source.member "brandRef") "brandRef"
  let resourceType ← requireString (source.member "resourceType") "resourceType"
  let resourceRef ← requireString (source.member "resourceRef") "resourceRef"
  let connectionRef ← requireString (source.member "connectionRef") "connectionRef"
  let authorityPathRef ←
    requireString (source.member "authorityPathRef") "authorityPathRef"
  let capabilityKey ← requireString (source.member "capabilityKey") "capabilityKey"
  let authorityRevision ←
    requireString (source.member "authorityRevision") "authorityRevision"
  let capabilityRevision ←
    requireString (source.member "capabilityRevision") "capabilityRevision"
  let registryRevision ←
    requireString (source.member "registryRevision") "registryRevision"
  let credentialReadinessRevision ←
    requireString (source.member "credentialReadinessRevision") "credentialReadinessRevision"
  .ok { contextRevision, principalRef, effectiveSubjectRef, tenantRef, workspaceRef,
        brandRef, resourceType, resourceRef, connectionRef, authorityPathRef,
        capabilityKey, authorityRevision, capabilityRevision, registryRevision,
        credentialReadinessRevision }

/-- The dependencies every capsule has. -/
def CapsuleReferences.automatic (refs : CapsuleReferences) : List Dependency :=
  let identity (domain : DependencyDomain) (ref : String) : Dependency :=
    ⟨domain, ref, refs.contextRevision, .static⟩
  [identity .principal refs.principalRef, identity .effectiveSubject refs.effectiveSubjectRef,
    identity .tenant refs.tenantRef, identity .workspace refs.workspaceRef] ++
  (refs.brandRef.map fun ref => identity .brand ref).toList ++
  [identity .resource (refs.resourceType ++ ":" ++ refs.resourceRef),
    identity .connection refs.connectionRef,
    ⟨.authority, refs.authorityPathRef, refs.authorityRevision, .static⟩,
    ⟨.capability, refs.capabilityKey, refs.capabilityRevision, .static⟩,
    ⟨.registry, "context-registry", refs.registryRevision, .static⟩,
    ⟨.credentialReadiness, refs.connectionRef, refs.credentialReadinessRevision, .dynamic⟩]

def normalizeDependencies (fieldName : String) (dependencies : List Val) :
    Except Val (List Dependency) :=
  dependencies.zipIdx.mapM fun entry => normalizeDependency entry.1 entry.2 fieldName

/-- `createExecutionCapsuleDependencyVector`, on an object with the references
and on the invalidation dependencies. -/
def createExecutionCapsuleDependencyVector (source invalidationDependencies : Val) :
    Except Val (List Dependency) := do
  let refs ← readReferences source
  match invalidationDependencies with
  | .arr given => do
    rejectIf (maxCapsuleDependencies < given.length)
      (Val.typeError ("invalidationDependencies may contain at most " ++
        toString maxCapsuleDependencies ++ " dependencies."))
    let automatic ← refs.automatic.foldlM addDependency []
    let normalized ← normalizeDependencies "invalidationDependencies" given
    let dependencies ← normalized.foldlM addDependency automatic
    .ok (sortBy (dependencyLe localeLe) dependencies)
  | _ => .error (Val.typeError "invalidationDependencies must be an array.")

/-! ## Digests -/

def insertText (entry : String × String) : List (String × String) → List (String × String)
  | [] => [entry]
  | other :: entries =>
    if keyLe entry.1 other.1 then entry :: other :: entries
    else other :: insertText entry entries

mutual

/-- `canonicalize(value)`, for a value without `undefined`. -/
def canonicalize : Val → String
  | .arr elems => "[" ++ ",".intercalate (canonicalElems elems) ++ "]"
  | .obj fields =>
    "\x7b" ++ ",".intercalate ((canonicalFields fields).map fun entry =>
      quote entry.1 ++ ":" ++ entry.2) ++ "\x7d"
  | v => (jsonStringify v).getD "undefined"

def canonicalElems : List Val → List String
  | [] => []
  | v :: rest => canonicalize v :: canonicalElems rest

/-- The fields in the order of their keys, with their texts. -/
def canonicalFields : List (String × Val) → List (String × String)
  | [] => []
  | (key, v) :: rest => insertText (key, canonicalize v) (canonicalFields rest)

end

def createExecutionCapsuleHash (value : Val) : Except Val String := do
  rejectIf (maxCanonicalBytes < (canonicalize value).utf8ByteSize)
    (Val.typeError "Execution capsule canonical form exceeds the maximum size.")
  .ok (rt.sha256 ("execution-capsule-v1:" ++ canonicalize value))

/-! ## Capsules -/

structure CapsuleDescriptor extends CapsuleReferences where
  contextHash : String
  principalType : String
  issuedAt : String
  expiresAt : String
deriving DecidableEq

def optionVal : Option String → Val
  | some text => .str text
  | none => .null

/-- The fields of a descriptor in the order of the source. -/
def CapsuleDescriptor.fields (d : CapsuleDescriptor) : List (String × Val) :=
  [("schemaVersion", .num (.ofNat 1)), ("contextHash", .str d.contextHash),
    ("contextRevision", .str d.contextRevision), ("principalType", .str d.principalType),
    ("principalRef", .str d.principalRef),
    ("effectiveSubjectRef", .str d.effectiveSubjectRef), ("tenantRef", .str d.tenantRef),
    ("workspaceRef", .str d.workspaceRef), ("brandRef", optionVal d.brandRef),
    ("resourceType", .str d.resourceType), ("resourceRef", .str d.resourceRef),
    ("connectionRef", .str d.connectionRef), ("authorityPathRef", .str d.authorityPathRef),
    ("capabilityKey", .str d.capabilityKey), ("authorityRevision", .str d.authorityRevision),
    ("capabilityRevision", .str d.capabilityRevision),
    ("registryRevision", .str d.registryRevision),
    ("credentialReadinessRevision", .str d.credentialReadinessRevision),
    ("issuedAt", .str d.issuedAt), ("expiresAt", .str d.expiresAt)]

structure Capsule where
  descriptor : CapsuleDescriptor
  capsuleRef : String
  capsuleHash : String
  invalidationDependencies : List Dependency
deriving DecidableEq

def dependenciesVal (dependencies : List Dependency) : Val :=
  .arr (dependencies.map Dependency.toVal)

/-- The object `createExecutionCapsule` returns. -/
def Capsule.toVal (capsule : Capsule) : Val :=
  .obj (capsule.descriptor.fields ++ [("capsuleRef", .str capsule.capsuleRef),
    ("capsuleHash", .str capsule.capsuleHash),
    ("invalidationDependencies", dependenciesVal capsule.invalidationDependencies),
    ("executionAllowed", .bool false), ("secretsIncluded", .bool false)])

/-- What the digest of a capsule is taken of. -/
def hashedVal (d : CapsuleDescriptor) (dependencies : List Dependency) : Val :=
  .obj (d.fields ++ [("invalidationDependencies", dependenciesVal dependencies)])

/-- `Date.parse(expiresAt) <= Date.parse(issuedAt)`. -/
def notLater (expiresAt issuedAt : String) : Bool :=
  match rt.timeOf (.str expiresAt), rt.timeOf (.str issuedAt) with
  | some expires, some issued => decide (expires ≤ issued)
  | _, _ => false

def readDescriptor (input : Val) : Except Val CapsuleDescriptor := do
  let issuedAt ← normalizeDate rt (input.member "issuedAt") "issuedAt"
  let expiresAt ← normalizeDate rt (input.member "expiresAt") "expiresAt"
  rejectIf (notLater rt expiresAt issuedAt = true)
    (Val.typeError "expiresAt must be later than issuedAt.")
  let contextHash ← requireString (input.member "contextHash") "contextHash"
  let contextRevision ← requireString (input.member "contextRevision") "contextRevision"
  let principalType ← requireString (input.member "principalType") "principalType"
  let principalRef ← requireString (input.member "principalRef") "principalRef"
  let effectiveSubjectRef ←
    requireString (input.member "effectiveSubjectRef") "effectiveSubjectRef"
  let tenantRef ← requireString (input.member "tenantRef") "tenantRef"
  let workspaceRef ← requireString (input.member "workspaceRef") "workspaceRef"
  let brandRef ← optionalString (input.member "brandRef") "brandRef"
  let resourceType ← requireString (input.member "resourceType") "resourceType"
  let resourceRef ← requireString (input.member "resourceRef") "resourceRef"
  let connectionRef ← requireString (input.member "connectionRef") "connectionRef"
  let authorityPathRef ←
    requireString (input.member "authorityPathRef") "authorityPathRef"
  let capabilityKey ← requireString (input.member "capabilityKey") "capabilityKey"
  let authorityRevision ←
    requireString (input.member "authorityRevision") "authorityRevision"
  let capabilityRevision ←
    requireString (input.member "capabilityRevision") "capabilityRevision"
  let registryRevision ←
    requireString (input.member "registryRevision") "registryRevision"
  let credentialReadinessRevision ←
    requireString (input.member "credentialReadinessRevision") "credentialReadinessRevision"
  .ok { contextRevision, principalRef, effectiveSubjectRef, tenantRef, workspaceRef,
        brandRef, resourceType, resourceRef, connectionRef, authorityPathRef,
        capabilityKey, authorityRevision, capabilityRevision, registryRevision,
        credentialReadinessRevision, contextHash, principalType, issuedAt, expiresAt }

/-- `hash.slice(0, 32)` behind its mark. -/
def capsuleRefOf (capsuleHash : String) : String :=
  "ctxc-" ++ String.ofList (capsuleHash.toList.take 32)

/-- `value && value !== text`. -/
def claimsOther (value : Val) (text : String) : Bool :=
  match value with
  | .str s => s != "" && s != text
  | value => value.truthy

/-- The capsule of a descriptor. -/
def buildCapsule (descriptor : CapsuleDescriptor) (invalidationDependencies claimedRef : Val) :
    Except Val Capsule := do
  let dependencies ← createExecutionCapsuleDependencyVector localeLe
    (.obj descriptor.fields) invalidationDependencies
  let capsuleHash ← createExecutionCapsuleHash rt (hashedVal descriptor dependencies)
  rejectIf (claimsOther claimedRef (capsuleRefOf capsuleHash) = true)
    (Val.typeError "capsuleRef does not match the canonical capsule identity.")
  .ok { descriptor, capsuleRef := capsuleRefOf capsuleHash, capsuleHash,
        invalidationDependencies := dependencies }

/-- The first access to the input; the default of the parameter stands in for
`undefined` only. -/
def firstAccess (input : Val) : Except Val Val :=
  if input.isUndefined then .ok .undefined else input.get "issuedAt"

def createExecutionCapsule (input : Val) : Except Val Capsule := do
  let _ ← firstAccess input
  let descriptor ← readDescriptor rt input
  buildCapsule rt localeLe descriptor ((input.member "invalidationDependencies").or (.arr []))
    (input.member "capsuleRef")

/-! ## Integrity -/

/-- The fields `assertExecutionCapsuleIntegrity` hands on as they are. -/
def rebuiltNames : List String :=
  ["contextHash", "contextRevision", "principalType", "principalRef",
    "effectiveSubjectRef", "tenantRef", "workspaceRef", "brandRef", "resourceType",
    "resourceRef", "connectionRef", "authorityPathRef", "capabilityKey",
    "authorityRevision", "capabilityRevision", "registryRevision",
    "credentialReadinessRevision", "issuedAt", "expiresAt"]

/-- The input the capsule is built from again, with the additional dependencies
in place of the whole vector. -/
def rebuildInput (capsule : Val) (additional : List Dependency) : Val :=
  .obj ((rebuiltNames.map fun name => (name, capsule.member name)) ++
    [("invalidationDependencies", dependenciesVal additional),
      ("capsuleRef", capsule.member "capsuleRef")])

def capsuleDependencyList (capsule : Val) : Except Val (List Val) :=
  match capsule.member "invalidationDependencies" with
  | .arr dependencies => .ok dependencies
  | _ => .error (Val.typeError "Execution capsule dependencies are invalid.")

/-- The digest an object carries, if it has the form of one. -/
def claimedHash (capsule : Val) : Except Val String :=
  match capsule.member "capsuleHash" with
  | .str capsuleHash => do
    rejectIf (isSha256 capsuleHash = false) (Val.typeError "Execution capsule hash is invalid.")
    .ok capsuleHash
  | _ => .error (Val.typeError "Execution capsule hash is invalid.")

/-- The dependencies that are not among the automatic ones. -/
def additionalDependencies (automatic dependencies : List Dependency) : List Dependency :=
  dependencies.filter fun dependency =>
    !(automatic.map dependencyKey).contains (dependencyKey dependency)

def isSchemaVersion : Val → Bool
  | .num n => decide (n = .ofNat 1)
  | _ => false

def assertExecutionCapsuleIntegrity (capsule : Val) : Except Val Capsule := do
  rejectIf (capsule.isPlainObject = false) (Val.typeError "capsule must be an object.")
  rejectIf (isSchemaVersion (capsule.member "schemaVersion") = false)
    (Val.typeError "Execution capsule schema version is invalid.")
  rejectIf ((capsule.member "executionAllowed").isFalse = false ∨
      (capsule.member "secretsIncluded").isFalse = false)
    (Val.typeError "Execution capsule security invariants are invalid.")
  let given ← capsuleDependencyList capsule
  let capsuleHash ← claimedHash capsule
  let dependencies ← buildDependencyMap given "capsuleDependencies"
    (maxCapsuleDependencies + DependencyDomain.all.length)
  let automatic ← createExecutionCapsuleDependencyVector localeLe capsule (.arr [])
  rejectIf (maxCapsuleDependencies < (additionalDependencies automatic dependencies).length)
    (Val.typeError "Execution capsule contains too many additional dependencies.")
  let canonical ← createExecutionCapsule rt localeLe
    (rebuildInput capsule (additionalDependencies automatic dependencies))
  rejectIf (canonical.capsuleHash ≠ capsuleHash)
    (Val.typeError "Execution capsule canonical hash does not match.")
  .ok canonical

end GrowthOs.ContextKernel.ExecutionCapsule
