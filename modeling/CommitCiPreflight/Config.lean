import CommitCiPreflight.Outcome
import CommitCiPreflight.Plan
import Mathlib.Data.List.Sort

/-! `config.rs`: the declared configuration and its normalization into an execution plan.
Every loop is the source's loop, over the collections the source builds, and every
rejection carries the source's error. -/
namespace CommitCiPreflight

open Outcome

def configSchemaVersion : String := "1.0"
def maxChecks : ℕ := 128
def maxCaches : ℕ := 32
def maxArgvParts : ℕ := 64
def maxStringBytes : ℕ := 4096
def maxTimeoutSeconds : UInt64 := 86400
def maxMemoryMib : UInt64 := 262144
def maxCpuCount : UInt16 := 256
def maxPids : UInt32 := 65536
def maxStorageBytes : UInt64 := 1099511627776
def minReceiptJournalReserveBytes : UInt64 := 4096

structure RuntimeConfig where
  kind : RuntimeKind
  image : String
  cpuCount : UInt16
  memoryMib : UInt64
  pidsLimit : UInt32
  network : Bool
  pullPolicy : Option RuntimePullPolicy
  swapMode : Option RuntimeSwapMode

structure ReceiptConfig where
  output : String
  freshnessSeconds : UInt64

structure RuntimeInternalEnvironmentConfig where
  name : String
  cacheId : String

structure EnvironmentConfig where
  allow : List String
  fixed : OrderedMap String String
  runtimeInternal : List RuntimeInternalEnvironmentConfig
  remoteSecretOnly : List String

structure CacheConfig where
  id : String
  mountPath : String

structure StorageConfig where
  minFreeBytes : UInt64
  receiptJournalReserveBytes : UInt64
  maxCacheGrowthBytes : UInt64

structure ArtifactContractConfig where
  path : String
  kind : ArtifactKind
  maxBytes : UInt64
  maxEntries : UInt64
  deriving DecidableEq

structure CheckConfig where
  id : String
  required : Bool
  argv : List String
  workingDirectory : String
  timeoutSeconds : UInt64
  dependsOn : List String
  artifacts : List String
  artifactContracts : List ArtifactContractConfig
  deriving DecidableEq

structure ConfigV1 where
  schemaVersion : String
  project : String
  runtime : RuntimeConfig
  receipt : ReceiptConfig
  environment : EnvironmentConfig
  caches : List CacheConfig
  storage : Option StorageConfig
  checks : List CheckConfig

inductive ConfigError
  | unsupportedSchemaVersion (version : String)
  | invalidField (field : String)
  | outOfRange (field : String) (minimum maximum actual : UInt64)
  | tooManyItems (field : String) (actual maximum : ℕ)
  | noChecks
  | noRequiredChecks
  | duplicateId (field id : String)
  | duplicateValue (field : String)
  | duplicateArtifact (path : String)
  | pathOverlap (first second : String)
  | selfDependency (check : String)
  | unknownDependency (check dependency : String)
  | unknownEnvironmentCache (name cacheId : String)
  | missingStoragePolicy
  | missingRuntimeCapabilityPolicy
  | dependencyCycle (checks : List String)
  deriving DecidableEq

def validateText (field value : String) : Outcome ConfigError Unit :=
  if value = "" ∨ maxStringBytes < value.utf8ByteSize ∨ value.toList.any Text.isControl then
    .err (.invalidField field)
  else .ok ()

def isIdentifierChar (c : Char) : Bool :=
  Text.isAsciiAlphanumeric c || c == '-' || c == '_' || c == '.'

def validateIdentifier (field value : String) : Outcome ConfigError Unit := do
  validateText field value
  ensure (value.utf8ByteSize ≤ 64 ∧ value.toList.all isIdentifierChar ∧ value ≠ "." ∧ value ≠ "..")
    (.invalidField field)

def validateEnvironmentName (value : String) : Outcome ConfigError Unit := do
  validateText "environment.allow" value
  match value.toList with
  | [] => .err (.invalidField "environment.allow")
  | c::cs =>
    ensure ((c = '_' ∨ Text.isAsciiAlphabetic c) ∧
      cs.all fun c => c == '_' || Text.isAsciiAlphanumeric c) (.invalidField "environment.allow")

def validateRepositoryIdentity (value : String) : Outcome ConfigError Unit := do
  let segments := Text.split value '/'
  validateIdentifier "project" (segments.getD 0 "")
  validateIdentifier "project" (segments.getD 1 "")
  ensure (segments.length ≤ 2) (.invalidField "project")

/-- The path test shared by configurations and receipts. -/
def isSafePath (value : String) : Prop :=
  value = "." ∨ (Text.startsWith value '/' = false ∧ Text.startsWith value '~' = false ∧
    '\\' ∉ value.toList ∧ ':' ∉ value.toList ∧
    ∀ segment ∈ Text.split value '/', segment ≠ "" ∧ segment ≠ "." ∧ segment ≠ "..")

instance (value : String) : Decidable (isSafePath value) :=
  inferInstanceAs (Decidable (_ ∨ _))

def validateRelativePath (field value : String) : Outcome ConfigError Unit := do
  validateText field value
  ensure (isSafePath value) (.invalidField field)

def validateImageReference (value : String) : Outcome ConfigError Unit := do
  validateText "runtime.image" value
  let (name,digest) ← ofOption (.invalidField "runtime.image") (Text.rsplitOnce value '@')
  let hex ← ofOption (.invalidField "runtime.image") (Text.stripPrefix digest "sha256:")
  ensure (name ≠ "" ∧ ¬ name.toList.any Text.isWhitespace ∧ '@' ∉ name.toList ∧
      ¬ "://".toList <:+: name.toList ∧ '\\' ∉ name.toList ∧ hex.utf8ByteSize = 64 ∧
      (Text.bytes hex).all Text.isLowerHex) (.invalidField "runtime.image")

def validateBounded (field : String) (value minimum maximum : UInt64) :
    Outcome ConfigError Unit :=
  ensure (minimum ≤ value ∧ value ≤ maximum) (.outOfRange field minimum maximum value)

/-- One iteration of `unique_sorted`. -/
def collectValue (field : String) (validate : String → Outcome ConfigError Unit)
    (unique : OrderedSet String) (value : String) : Outcome ConfigError (OrderedSet String) := do
  validate value
  ensure (value ∉ unique) (.duplicateValue field)
  return unique.insert value

def uniqueSorted (field : String) (validate : String → Outcome ConfigError Unit)
    (values : List String) : Outcome ConfigError (List String) := do
  let unique ← fold (collectValue field validate) .empty values
  return unique.toList

def ConfigV1.validateTopLevel (config : ConfigV1) : Outcome ConfigError Unit := do
  ensure (config.schemaVersion ∈ [configSchemaVersion,"1.1","1.2","1.3"])
    (.unsupportedSchemaVersion config.schemaVersion)
  validateRepositoryIdentity config.project
  validateImageReference config.runtime.image
  validateBounded "runtime.cpu_count" config.runtime.cpuCount.toUInt64 1 maxCpuCount.toUInt64
  validateBounded "runtime.memory_mib" config.runtime.memoryMib 64 maxMemoryMib
  validateBounded "runtime.pids_limit" config.runtime.pidsLimit.toUInt64 1 maxPids.toUInt64
  validateRelativePath "receipt.output" config.receipt.output
  ensure (config.receipt.output ≠ ".") (.invalidField "receipt.output")
  validateBounded "receipt.freshness_seconds" config.receipt.freshnessSeconds 1 31536000

/-- One iteration of `normalize_caches`, over the caches by id and the mount paths taken. -/
def normalizeCache (state : OrderedMap String NormalizedCache × OrderedSet String)
    (cache : CacheConfig) :
    Outcome ConfigError (OrderedMap String NormalizedCache × OrderedSet String) := do
  validateIdentifier "cache.id" cache.id
  validateRelativePath "cache.mount_path" cache.mountPath
  ensure (cache.mountPath ≠ ".") (.invalidField "cache.mount_path")
  ensure (state.1.get? cache.id = none) (.duplicateId "cache.id" cache.id)
  ensure (cache.mountPath ∉ state.2) (.duplicateValue "cache.mount_path")
  return (state.1.insert cache.id ⟨cache.id,cache.mountPath⟩,state.2.insert cache.mountPath)

def normalizeCaches (caches : List CacheConfig) : Outcome ConfigError (List NormalizedCache) := do
  ensure (caches.length ≤ maxCaches) (.tooManyItems "caches" caches.length maxCaches)
  let (byId,_) ← fold normalizeCache (.empty,.empty) caches
  return byId.values

def normalizeRuntime (schemaVersion : String) (runtime : RuntimeConfig) :
    Outcome ConfigError NormalizedRuntime := do
  let (pullPolicy,swapMode) ←
    if schemaVersion = "1.3" then do
      let pullPolicy ← ofOption .missingRuntimeCapabilityPolicy runtime.pullPolicy
      let swapMode ← ofOption .missingRuntimeCapabilityPolicy runtime.swapMode
      pure (some pullPolicy,some swapMode)
    else do
      ensure (runtime.pullPolicy = none) (.invalidField "runtime.pull_policy")
      ensure (runtime.swapMode = none) (.invalidField "runtime.swap_mode")
      pure (none,none)
  return {
    kind := runtime.kind
    image := runtime.image
    cpuCount := runtime.cpuCount
    memoryMib := runtime.memoryMib
    pidsLimit := runtime.pidsLimit
    network := runtime.network
    pullPolicy
    swapMode }

def bindFixed (crates : Crates) (state : OrderedSet String × List NormalizedFixedEnvironment)
    (binding : String × String) :
    Outcome ConfigError (OrderedSet String × List NormalizedFixedEnvironment) := do
  validateEnvironmentName binding.1
  validateText "environment.fixed" binding.2
  ensure (binding.1 ∉ state.1) (.duplicateValue "environment")
  return (state.1.insert binding.1,
    state.2++[⟨binding.1,canonicalDigest crates (.str binding.2)⟩])

def bindRuntimeInternal (cacheTargets : OrderedMap String String)
    (state : OrderedSet String × List NormalizedRuntimeInternalEnvironment)
    (binding : RuntimeInternalEnvironmentConfig) :
    Outcome ConfigError (OrderedSet String × List NormalizedRuntimeInternalEnvironment) := do
  validateEnvironmentName binding.name
  validateIdentifier "environment.runtime_internal.cache_id" binding.cacheId
  ensure (binding.name ∉ state.1) (.duplicateValue "environment")
  let mountPath ← ofOption (.unknownEnvironmentCache binding.name binding.cacheId)
    (cacheTargets.get? binding.cacheId)
  return (state.1.insert binding.name,
    state.2++[⟨binding.name,binding.cacheId,"/workspace/"++mountPath⟩])

def reserveSecret (names : OrderedSet String) (name : String) :
    Outcome ConfigError (OrderedSet String) := do
  ensure (name ∉ names) (.duplicateValue "environment")
  return names.insert name

def normalizeEnvironment (crates : Crates) (schemaVersion : String)
    (environment : EnvironmentConfig) (caches : List NormalizedCache) :
    Outcome ConfigError NormalizedEnvironment := do
  let inherit ← uniqueSorted "environment.allow" validateEnvironmentName environment.allow
  let remoteSecretOnly ←
    uniqueSorted "environment.remote_secret_only" validateEnvironmentName
      environment.remoteSecretOnly
  ensure (¬ (schemaVersion = configSchemaVersion ∧ (environment.fixed.entries ≠ [] ∨
    environment.runtimeInternal ≠ [] ∨ remoteSecretOnly ≠ []))) (.invalidField "environment")
  ensure (¬ (schemaVersion ≠ configSchemaVersion ∧ inherit ≠ [])) (.invalidField "environment.allow")
  let names := inherit.foldl OrderedSet.insert .empty
  let (names,fixed) ← fold (bindFixed crates) (names,[]) environment.fixed.entries
  let cacheTargets := OrderedMap.ofList (caches.map fun cache => (cache.id,cache.mountPath))
  let (names,runtimeInternal) ←
    fold (bindRuntimeInternal cacheTargets) (names,[]) environment.runtimeInternal
  let _ ← fold reserveSecret names remoteSecretOnly
  return {
    inherit
    fixed := fixed.insertionSort (·.name ≤ ·.name)
    runtimeInternal := runtimeInternal.insertionSort (·.name ≤ ·.name)
    remoteSecretOnly }

def validateCheck (check : CheckConfig) : Outcome ConfigError Unit := do
  validateIdentifier "check.id" check.id
  ensure (check.argv ≠ [] ∧ check.argv.length ≤ maxArgvParts) (.invalidField "check.argv")
  each (validateText "check.argv") check.argv
  validateRelativePath "check.working_directory" check.workingDirectory
  validateBounded "check.timeout_seconds" check.timeoutSeconds 1 maxTimeoutSeconds

def maximumEntries : ArtifactKind → UInt64
  | .regularFile => 1
  | .directory => 10000

def validateArtifactContract (artifacts : List String) (paths : OrderedSet String)
    (artifact : ArtifactContractConfig) : Outcome ConfigError (OrderedSet String) := do
  validateRelativePath "check.artifact_contracts.path" artifact.path
  ensure (artifact.path ≠ "." ∧ artifact.path ∈ artifacts)
    (.invalidField "check.artifact_contracts.path")
  ensure (artifact.path ∉ paths) (.duplicateValue "check.artifact_contracts.path")
  validateBounded "check.artifact_contracts.max_bytes" artifact.maxBytes 1 1073741824
  validateBounded "check.artifact_contracts.max_entries" artifact.maxEntries 1
    (maximumEntries artifact.kind)
  ensure (¬ (artifact.kind = .regularFile ∧ artifact.maxEntries ≠ 1))
    (.invalidField "check.artifact_contracts.max_entries")
  return paths.insert artifact.path

def validateArtifactContracts (check : CheckConfig) : Outcome ConfigError Unit := do
  let _ ← fold (validateArtifactContract check.artifacts) .empty check.artifactContracts

/-- One iteration of the first loop of `normalize_checks`. -/
def collectCheck (byId : OrderedMap String CheckConfig) (check : CheckConfig) :
    Outcome ConfigError (OrderedMap String CheckConfig) := do
  validateCheck check
  let dependsOn ← uniqueSorted "check.depends_on" (validateIdentifier "check.depends_on")
    check.dependsOn
  let artifacts ← uniqueSorted "check.artifacts" (validateRelativePath "check.artifacts")
    check.artifacts
  ensure ("." ∉ artifacts) (.invalidField "check.artifacts")
  let check := { check with dependsOn, artifacts }
  validateArtifactContracts check
  ensure (byId.get? check.id = none) (.duplicateId "check.id" check.id)
  return byId.insert check.id check

def validateDependency (byId : OrderedMap String CheckConfig) (check : CheckConfig)
    (dependency : String) : Outcome ConfigError Unit := do
  ensure (dependency ≠ check.id) (.selfDependency check.id)
  ensure (byId.get? dependency ≠ none) (.unknownDependency check.id dependency)

def validateDependencies (byId : OrderedMap String CheckConfig) : Outcome ConfigError Unit :=
  each (fun check => each (validateDependency byId check) check.dependsOn) byId.values

def normalizeArtifactContract (producer : String) (artifact : ArtifactContractConfig) :
    NormalizedArtifactContract :=
  ⟨artifact.path,artifact.kind,artifact.maxBytes,artifact.maxEntries,producer⟩

def normalizeCheck (check : CheckConfig) : NormalizedCheck where
  id := check.id
  required := check.required
  argv := check.argv
  workingDirectory := check.workingDirectory
  timeoutSeconds := check.timeoutSeconds
  dependsOn := check.dependsOn
  artifacts := check.artifacts
  artifactContracts := check.artifactContracts.map (normalizeArtifactContract check.id)

def dependentsOf (byId : OrderedMap String CheckConfig) :
    OrderedMap String (OrderedSet String) :=
  byId.entries.foldl (fun dependents entry =>
    entry.2.dependsOn.foldl (fun dependents dependency =>
      dependents.insert dependency
        (((dependents.get? dependency).getD .empty).insert entry.1)) dependents) .empty

/-- `*count -= 1`, and the child becomes ready when nothing else holds it back. -/
def releaseChild (state : OrderedMap String ℕ × OrderedSet String) (child : String) :
    Outcome ConfigError (OrderedMap String ℕ × OrderedSet String) := do
  let count ← expect (state.1.get? child)
  let count ← decrement count
  return (state.1.insert child count,if count = 0 then state.2.insert child else state.2)

/-- `if let Some(children) = dependents.get(&id)`. -/
def releaseDependents (dependents : OrderedMap String (OrderedSet String)) (id : String)
    (state : OrderedMap String ℕ × OrderedSet String) :
    Outcome ConfigError (OrderedMap String ℕ × OrderedSet String) :=
  match dependents.get? id with
  | some children => fold releaseChild state children.toList
  | none => .ok state

structure TopologicalState where
  indegree : OrderedMap String ℕ
  ready : OrderedSet String
  ordered : List NormalizedCheck

/-- `while let Some(id) = ready.pop_first()`. An exhausted fuel is a panic, so that a
result shows the loop ends. -/
def topologicalLoop (byId : OrderedMap String CheckConfig)
    (dependents : OrderedMap String (OrderedSet String)) :
    ℕ → TopologicalState → Outcome ConfigError TopologicalState
  | 0, _ => .panic
  | fuel+1, state =>
    match state.ready.popFirst with
    | none => .ok state
    | some (id,ready) => do
      let check ← expect (byId.get? id)
      let (indegree,ready) ← releaseDependents dependents id (state.indegree,ready)
      topologicalLoop byId dependents fuel ⟨indegree,ready,state.ordered++[normalizeCheck check]⟩

def topologicalStart (byId : OrderedMap String CheckConfig) : TopologicalState :=
  let indegree := byId.mapValues fun _ check => check.dependsOn.length
  ⟨indegree,.ofList ((indegree.entries.filter (·.2 = 0)).map Prod.fst),[]⟩

def topologicalChecks (byId : OrderedMap String CheckConfig) :
    Outcome ConfigError (List NormalizedCheck) := do
  let state ← topologicalLoop byId (dependentsOf byId) (byId.entries.length+1)
    (topologicalStart byId)
  ensure (state.ordered.length = byId.entries.length)
    (.dependencyCycle ((state.indegree.entries.filter (0 < ·.2)).map Prod.fst))
  return state.ordered

def normalizeChecks (checks : List CheckConfig) : Outcome ConfigError (List NormalizedCheck) := do
  ensure (checks ≠ []) .noChecks
  ensure (checks.length ≤ maxChecks) (.tooManyItems "checks" checks.length maxChecks)
  ensure (checks.any (·.required)) .noRequiredChecks
  let byId ← fold collectCheck .empty checks
  validateDependencies byId
  topologicalChecks byId

def checkedAdd (a b : UInt64) : Option UInt64 :=
  if a.toNat+b.toNat < 2^64 then some (a+b) else none

def normalizeStorage (schemaVersion : String) (storage : Option StorageConfig)
    (checks : List NormalizedCheck) : Outcome ConfigError (Option NormalizedStorage) := do
  if schemaVersion ∉ ["1.2","1.3"] then
    ensure (storage.isNone) (.invalidField "storage")
    return none
  else
    let storage ← ofOption .missingStoragePolicy storage
    validateBounded "storage.min_free_bytes" storage.minFreeBytes 1 maxStorageBytes
    validateBounded "storage.receipt_journal_reserve_bytes" storage.receiptJournalReserveBytes
      minReceiptJournalReserveBytes maxStorageBytes
    validateBounded "storage.max_cache_growth_bytes" storage.maxCacheGrowthBytes 0 maxStorageBytes
    let maxArtifactBytes ← ofOption (.invalidField "storage.max_artifact_bytes")
      ((checks.flatMap (·.artifactContracts)).foldlM
        (fun total artifact => checkedAdd total artifact.maxBytes) 0)
    let required ← ofOption (.invalidField "storage") <|
      (checkedAdd storage.minFreeBytes storage.receiptJournalReserveBytes).bind fun total =>
        (checkedAdd total storage.maxCacheGrowthBytes).bind fun total =>
          checkedAdd total maxArtifactBytes
    ensure (required ≤ maxStorageBytes)
      (.outOfRange "storage.required_free_bytes" 1 maxStorageBytes required)
    return some ⟨storage.minFreeBytes,storage.receiptJournalReserveBytes,
      storage.maxCacheGrowthBytes,maxArtifactBytes⟩

/-- Equal paths, or one continuing the other with a separator. -/
def pathsOverlap (first second : String) : Bool :=
  first == second || (Text.stripPrefix first second).any (Text.startsWith · '/') ||
    (Text.stripPrefix second first).any (Text.startsWith · '/')

def rejectPathOverlap (first second : String) : Outcome ConfigError Unit :=
  ensure (pathsOverlap first second = false) (.pathOverlap first second)

/-- The loop over the caches: each is compared with the later ones, then with the output. -/
def isolateCaches (output : String) : List NormalizedCache → Outcome ConfigError Unit
  | [] => .ok ()
  | cache::others => do
    each (fun other => rejectPathOverlap cache.mountPath other.mountPath) others
    rejectPathOverlap cache.mountPath output
    isolateCaches output others

def isolateArtifact (output : String) (caches : List NormalizedCache)
    (artifacts : OrderedSet String) (artifact : String) :
    Outcome ConfigError (OrderedSet String) := do
  ensure (artifact ∉ artifacts) (.duplicateArtifact artifact)
  each (rejectPathOverlap artifact) artifacts.toList
  rejectPathOverlap artifact output
  each (fun cache => rejectPathOverlap artifact cache.mountPath) caches
  return artifacts.insert artifact

def validatePathIsolation (receipt : NormalizedReceipt) (caches : List NormalizedCache)
    (checks : List NormalizedCheck) : Outcome ConfigError Unit := do
  isolateCaches receipt.output caches
  let _ ← fold (fun artifacts check =>
    fold (isolateArtifact receipt.output caches) artifacts check.artifacts) .empty checks

structure ExecutionPlanEnvelopeV1 where
  planDigest : String
  plan : ExecutionPlanV1
  fixedEnvironment : OrderedMap String String
  deriving DecidableEq

def ConfigV1.intoPlan (crates : Crates) (config : ConfigV1) :
    Outcome ConfigError ExecutionPlanEnvelopeV1 := do
  config.validateTopLevel
  let caches ← normalizeCaches config.caches
  let runtime ← normalizeRuntime config.schemaVersion config.runtime
  let environment ←
    normalizeEnvironment crates config.schemaVersion config.environment caches
  let checks ← normalizeChecks config.checks
  let storage ← normalizeStorage config.schemaVersion config.storage checks
  let receipt : NormalizedReceipt := ⟨config.receipt.output,config.receipt.freshnessSeconds⟩
  validatePathIsolation receipt caches checks
  let plan : ExecutionPlanV1 := {
    schemaVersion := config.schemaVersion
    project := config.project
    runtime
    receipt
    environment
    caches
    storage
    checks }
  return ⟨plan.digest crates,plan,config.environment.fixed⟩

end CommitCiPreflight
