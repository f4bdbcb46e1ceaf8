import CommitCiPreflight.Staging
import CommitCiPreflight.Workspace

/-! `matrix.rs` and `matrix_legacy.rs`: a configuration with several runtimes, the plan it becomes,
the plan of each runtime, and the one source overlay they share. -/
namespace CommitCiPreflight

open Outcome Codec

def matrixConfigSchemaVersion : String := "2.0"

def maxMatrixRuntimes : ℕ := 32

structure MatrixEnvironmentConfigV2 where
  allow : List String

def MatrixEnvironmentConfigV2.asV1 (environment : MatrixEnvironmentConfigV2) :
    EnvironmentConfig :=
  ⟨environment.allow,.empty,[],[]⟩

structure MatrixRuntimeConfigV2 where
  id : String
  kind : RuntimeKind
  image : String
  cpuCount : UInt16
  memoryMib : UInt64
  pidsLimit : UInt32
  network : Bool

def MatrixRuntimeConfigV2.asRuntime (runtime : MatrixRuntimeConfigV2) : RuntimeConfig where
  kind := runtime.kind
  image := runtime.image
  cpuCount := runtime.cpuCount
  memoryMib := runtime.memoryMib
  pidsLimit := runtime.pidsLimit
  network := runtime.network
  pullPolicy := none
  swapMode := none

structure MatrixCheckConfigV2 where
  id : String
  runtimeId : String
  required : Bool
  argv : List String
  workingDirectory : String
  timeoutSeconds : UInt64
  dependsOn : List String
  artifacts : List String

def MatrixCheckConfigV2.asV1 (check : MatrixCheckConfigV2) : CheckConfig where
  id := check.id
  required := check.required
  argv := check.argv
  workingDirectory := check.workingDirectory
  timeoutSeconds := check.timeoutSeconds
  dependsOn := check.dependsOn
  artifacts := check.artifacts
  artifactContracts := []

structure MatrixConfigV2 where
  schemaVersion : String
  project : String
  runtimes : List MatrixRuntimeConfigV2
  receipt : ReceiptConfig
  environment : MatrixEnvironmentConfigV2
  caches : List CacheConfig
  checks : List MatrixCheckConfigV2

inductive MatrixPlanProfile
  | currentV2
  | legacyV1
  deriving DecidableEq

structure MatrixRuntimePlanV2 where
  id : String
  configurationDigest : String
  runtime : NormalizedRuntime
  checks : List NormalizedCheck
  deriving DecidableEq

structure MatrixPlanV2 where
  schemaVersion : String
  project : String
  receipt : NormalizedReceipt
  environment : NormalizedEnvironment
  caches : List NormalizedCache
  runtimes : List MatrixRuntimePlanV2
  deriving DecidableEq

def MatrixRuntimePlanV2.codec : Codec MatrixRuntimePlanV2 :=
  .struct (Fields.of MatrixRuntimePlanV2.mk
    |>.add (.required "id" string) (·.id)
    |>.add (.required "configuration_digest" string) (·.configurationDigest)
    |>.add (.required "runtime" NormalizedRuntime.codec) (·.runtime)
    |>.add (.required "checks" NormalizedCheck.codec.list) (·.checks))
    (by decide) fun _ => rfl

def MatrixPlanV2.codec : Codec MatrixPlanV2 :=
  .struct (Fields.of MatrixPlanV2.mk
    |>.add (.required "schema_version" string) (·.schemaVersion)
    |>.add (.required "project" string) (·.project)
    |>.add (.required "receipt" NormalizedReceipt.codec) (·.receipt)
    |>.add (.required "environment" NormalizedEnvironment.codec) (·.environment)
    |>.add (.required "caches" NormalizedCache.codec.list) (·.caches)
    |>.add (.required "runtimes" MatrixRuntimePlanV2.codec.list) (·.runtimes))
    (by decide) fun _ => rfl

def MatrixPlanV2.digest (crates : Crates) (plan : MatrixPlanV2) : String :=
  canonicalDigest crates (MatrixPlanV2.codec.encode plan)

inductive SourceSnapshotError
  | invalidPath
  | io (error : IoErrorKind)
  deriving DecidableEq

inductive MatrixError
  | config (error : ConfigError)
  | sourceSnapshot (error : SourceSnapshotError)
  | unsupportedSchemaVersion (version : String)
  | invalidField (field : String)
  | duplicateValue (field : String)
  | unknownRuntime (id : String)
  | runtimeWithoutRequiredCheck (id : String)
  | crossRuntimeDependency (check dependency : String)
  | legacyPlanNotRepresentable (field : String)
  | planDigestMismatch
  | invalidReceipt
  deriving DecidableEq

structure LegacyNormalizedRuntime where
  kind : RuntimeKind
  image : String
  cpuCount : UInt16
  memoryMib : UInt64
  pidsLimit : UInt32
  network : Bool
  deriving DecidableEq

structure LegacyNormalizedReceipt where
  output : String
  freshnessSeconds : UInt64
  deriving DecidableEq

structure LegacyNormalizedCache where
  id : String
  mountPath : String
  deriving DecidableEq

structure LegacyNormalizedCheck where
  id : String
  required : Bool
  argv : List String
  workingDirectory : String
  timeoutSeconds : UInt64
  dependsOn : List String
  artifacts : List String
  deriving DecidableEq

structure LegacyExecutionPlanV1 where
  schemaVersion : String
  project : String
  runtime : LegacyNormalizedRuntime
  receipt : LegacyNormalizedReceipt
  environmentAllow : List String
  caches : List LegacyNormalizedCache
  checks : List LegacyNormalizedCheck
  deriving DecidableEq

structure LegacyMatrixRuntimePlanV2 where
  id : String
  configurationDigest : String
  runtime : LegacyNormalizedRuntime
  checks : List LegacyNormalizedCheck
  deriving DecidableEq

structure LegacyMatrixPlanV2 where
  schemaVersion : String
  project : String
  receipt : LegacyNormalizedReceipt
  environmentAllow : List String
  caches : List LegacyNormalizedCache
  runtimes : List LegacyMatrixRuntimePlanV2
  deriving DecidableEq

def LegacyNormalizedRuntime.codec : Codec LegacyNormalizedRuntime :=
  .struct (Fields.of LegacyNormalizedRuntime.mk
    |>.add (.required "kind" RuntimeKind.codec) (·.kind)
    |>.add (.required "image" string) (·.image)
    |>.add (.required "cpu_count" u16) (·.cpuCount)
    |>.add (.required "memory_mib" u64) (·.memoryMib)
    |>.add (.required "pids_limit" Codec.u32) (·.pidsLimit)
    |>.add (.required "network" bool) (·.network))
    (by decide) fun _ => rfl

def LegacyNormalizedReceipt.codec : Codec LegacyNormalizedReceipt :=
  .struct (Fields.of LegacyNormalizedReceipt.mk
    |>.add (.required "output" string) (·.output)
    |>.add (.required "freshness_seconds" u64) (·.freshnessSeconds))
    (by decide) fun _ => rfl

def LegacyNormalizedCache.codec : Codec LegacyNormalizedCache :=
  .struct (Fields.of LegacyNormalizedCache.mk
    |>.add (.required "id" string) (·.id)
    |>.add (.required "mount_path" string) (·.mountPath))
    (by decide) fun _ => rfl

def LegacyNormalizedCheck.codec : Codec LegacyNormalizedCheck :=
  .struct (Fields.of LegacyNormalizedCheck.mk
    |>.add (.required "id" string) (·.id)
    |>.add (.required "required" bool) (·.required)
    |>.add (.required "argv" string.list) (·.argv)
    |>.add (.required "working_directory" string) (·.workingDirectory)
    |>.add (.required "timeout_seconds" u64) (·.timeoutSeconds)
    |>.add (.required "depends_on" string.list) (·.dependsOn)
    |>.add (.required "artifacts" string.list) (·.artifacts))
    (by decide) fun _ => rfl

def LegacyExecutionPlanV1.codec : Codec LegacyExecutionPlanV1 :=
  .struct (Fields.of LegacyExecutionPlanV1.mk
    |>.add (.required "schema_version" string) (·.schemaVersion)
    |>.add (.required "project" string) (·.project)
    |>.add (.required "runtime" LegacyNormalizedRuntime.codec) (·.runtime)
    |>.add (.required "receipt" LegacyNormalizedReceipt.codec) (·.receipt)
    |>.add (.required "environment_allow" string.list) (·.environmentAllow)
    |>.add (.required "caches" LegacyNormalizedCache.codec.list) (·.caches)
    |>.add (.required "checks" LegacyNormalizedCheck.codec.list) (·.checks))
    (by decide) fun _ => rfl

def LegacyMatrixRuntimePlanV2.codec : Codec LegacyMatrixRuntimePlanV2 :=
  .struct (Fields.of LegacyMatrixRuntimePlanV2.mk
    |>.add (.required "id" string) (·.id)
    |>.add (.required "configuration_digest" string) (·.configurationDigest)
    |>.add (.required "runtime" LegacyNormalizedRuntime.codec) (·.runtime)
    |>.add (.required "checks" LegacyNormalizedCheck.codec.list) (·.checks))
    (by decide) fun _ => rfl

def LegacyMatrixPlanV2.codec : Codec LegacyMatrixPlanV2 :=
  .struct (Fields.of LegacyMatrixPlanV2.mk
    |>.add (.required "schema_version" string) (·.schemaVersion)
    |>.add (.required "project" string) (·.project)
    |>.add (.required "receipt" LegacyNormalizedReceipt.codec) (·.receipt)
    |>.add (.required "environment_allow" string.list) (·.environmentAllow)
    |>.add (.required "caches" LegacyNormalizedCache.codec.list) (·.caches)
    |>.add (.required "runtimes" LegacyMatrixRuntimePlanV2.codec.list) (·.runtimes))
    (by decide) fun _ => rfl

structure LegacyMatrixDigestBasisV1 where
  plan : LegacyMatrixPlanV2
  runtimeDigests : OrderedMap String String
  deriving DecidableEq

def LegacyMatrixDigestBasisV1.outerDigest (crates : Crates) (basis : LegacyMatrixDigestBasisV1) :
    String :=
  canonicalDigest crates (LegacyMatrixPlanV2.codec.encode basis.plan)

def LegacyMatrixDigestBasisV1.runtimeDigest (basis : LegacyMatrixDigestBasisV1) (id : String) :
    Except MatrixError String :=
  match basis.runtimeDigests.get? id with
  | some digest => .ok digest
  | none => .error (.unknownRuntime id)

def legacyEnvironment (environment : NormalizedEnvironment) : Except MatrixError (List String) :=
  if environment.fixed ≠ [] then .error (.legacyPlanNotRepresentable "environment.fixed")
  else if environment.runtimeInternal ≠ [] then
    .error (.legacyPlanNotRepresentable "environment.runtime_internal")
  else if environment.remoteSecretOnly ≠ [] then
    .error (.legacyPlanNotRepresentable "environment.remote_secret_only")
  else .ok environment.inherit

def legacyReceipt (receipt : NormalizedReceipt) : LegacyNormalizedReceipt :=
  ⟨receipt.output,receipt.freshnessSeconds⟩

def legacyCache (cache : NormalizedCache) : LegacyNormalizedCache := ⟨cache.id,cache.mountPath⟩

def legacyRuntime (runtime : NormalizedRuntime) : Except MatrixError LegacyNormalizedRuntime :=
  if runtime.pullPolicy ≠ none then .error (.legacyPlanNotRepresentable "runtime.pull_policy")
  else if runtime.swapMode ≠ none then .error (.legacyPlanNotRepresentable "runtime.swap_mode")
  else .ok {
    kind := runtime.kind
    image := runtime.image
    cpuCount := runtime.cpuCount
    memoryMib := runtime.memoryMib
    pidsLimit := runtime.pidsLimit
    network := runtime.network }

def legacyCheck (check : NormalizedCheck) : Except MatrixError LegacyNormalizedCheck :=
  if check.artifactContracts ≠ [] then
    .error (.legacyPlanNotRepresentable "checks.artifact_contracts")
  else .ok {
    id := check.id
    required := check.required
    argv := check.argv
    workingDirectory := check.workingDirectory
    timeoutSeconds := check.timeoutSeconds
    dependsOn := check.dependsOn
    artifacts := check.artifacts }

/-- One iteration of the loop over the runtimes. -/
def projectLegacyRuntime (crates : Crates) (plan : MatrixPlanV2) (environmentAllow : List String)
    (runtimePlan : MatrixRuntimePlanV2) : Except MatrixError LegacyMatrixRuntimePlanV2 := do
  let checks ← runtimePlan.checks.mapM legacyCheck
  let runtime ← legacyRuntime runtimePlan.runtime
  let execution : LegacyExecutionPlanV1 := {
    schemaVersion := "1.0"
    project := plan.project
    runtime
    receipt := legacyReceipt plan.receipt
    environmentAllow
    caches := plan.caches.map legacyCache
    checks }
  return {
    id := runtimePlan.id
    configurationDigest := canonicalDigest crates (LegacyExecutionPlanV1.codec.encode execution)
    runtime
    checks }

def projectLegacyBasis (crates : Crates) (plan : MatrixPlanV2) :
    Except MatrixError LegacyMatrixDigestBasisV1 := do
  let environmentAllow ← legacyEnvironment plan.environment
  let runtimes ← plan.runtimes.mapM (projectLegacyRuntime crates plan environmentAllow)
  return {
    plan := {
      schemaVersion := plan.schemaVersion
      project := plan.project
      receipt := legacyReceipt plan.receipt
      environmentAllow
      caches := plan.caches.map legacyCache
      runtimes }
    runtimeDigests :=
      .ofList (runtimes.map fun runtime => (runtime.id,runtime.configurationDigest)) }

structure MatrixPlanEnvelopeV2 where
  planDigest : String
  plan : MatrixPlanV2
  profile : MatrixPlanProfile
  legacyBasis : Option LegacyMatrixDigestBasisV1
  deriving DecidableEq

def collectRuntime (byId : OrderedMap String MatrixRuntimeConfigV2)
    (runtime : MatrixRuntimeConfigV2) :
    Outcome MatrixError (OrderedMap String MatrixRuntimeConfigV2) := do
  (validateIdentifier "runtimes.id" runtime.id).mapErr .config
  ensure (byId.get? runtime.id = none) (.duplicateValue "runtimes.id")
  return byId.insert runtime.id runtime

/-- One iteration over the checks: the runtime of each check, and the checks of each runtime. -/
def assignCheck (runtimeById : OrderedMap String MatrixRuntimeConfigV2)
    (state : OrderedMap String String × OrderedMap String (List CheckConfig))
    (check : MatrixCheckConfigV2) :
    Outcome MatrixError (OrderedMap String String × OrderedMap String (List CheckConfig)) := do
  (validateIdentifier "checks.runtime_id" check.runtimeId).mapErr .config
  ensure (runtimeById.get? check.runtimeId).isSome (.unknownRuntime check.runtimeId)
  ensure (state.1.get? check.id = none) (.duplicateValue "checks.id")
  return (state.1.insert check.id check.runtimeId,
    state.2.insert check.runtimeId ((state.2.get? check.runtimeId).getD []++[check.asV1]))

def rejectCrossRuntimeDependency (checkRuntime : OrderedMap String String)
    (check : MatrixCheckConfigV2) : Outcome MatrixError Unit :=
  each (fun dependency =>
    ensure ((checkRuntime.get? dependency).all (· = check.runtimeId))
      (.crossRuntimeDependency check.id dependency)) check.dependsOn

def MatrixConfigV2.group (config : MatrixConfigV2) (runtime : MatrixRuntimeConfigV2)
    (checks : List CheckConfig) : ConfigV1 where
  schemaVersion := "1.0"
  project := config.project
  runtime := runtime.asRuntime
  receipt := config.receipt
  environment := config.environment.asV1
  caches := config.caches
  storage := none
  checks := checks

abbrev SharedPlan := NormalizedReceipt × NormalizedEnvironment × List NormalizedCache

/-- One iteration over the runtimes. Every id is met once, so that taking the checks of a runtime
out of the map is reading them. -/
def planRuntime (crates : Crates) (config : MatrixConfigV2)
    (checksByRuntime : OrderedMap String (List CheckConfig))
    (state : List MatrixRuntimePlanV2 × Option SharedPlan)
    (entry : String × MatrixRuntimeConfigV2) :
    Outcome MatrixError (List MatrixRuntimePlanV2 × Option SharedPlan) := do
  let checks := (checksByRuntime.get? entry.1).getD []
  ensure (checks.any (·.required)) (.runtimeWithoutRequiredCheck entry.1)
  let group ← ((config.group entry.2 checks).intoPlan crates).mapErr .config
  return (state.1++[⟨entry.1,group.planDigest,group.plan.runtime,group.plan.checks⟩],
    state.2.or (some (group.plan.receipt,group.plan.environment,group.plan.caches)))

def bindProfile (crates : Crates) (profile : MatrixPlanProfile) (plan : MatrixPlanV2) :
    Except MatrixError MatrixPlanEnvelopeV2 :=
  match profile with
  | .currentV2 => .ok ⟨plan.digest crates,plan,profile,none⟩
  | .legacyV1 => do
    let basis ← projectLegacyBasis crates plan
    let runtimes ← plan.runtimes.mapM fun runtime => do
      return {runtime with configurationDigest := (← basis.runtimeDigest runtime.id)}
    .ok ⟨basis.outerDigest crates,{plan with runtimes},profile,some basis⟩

def MatrixConfigV2.buildPlanWithProfile (crates : Crates) (profile : MatrixPlanProfile)
    (config : MatrixConfigV2) : Outcome MatrixError MatrixPlanEnvelopeV2 := do
  ensure (config.schemaVersion = matrixConfigSchemaVersion)
    (.unsupportedSchemaVersion config.schemaVersion)
  ensure (2 ≤ config.runtimes.length ∧ config.runtimes.length ≤ maxMatrixRuntimes)
    (.invalidField "runtimes")
  let runtimeById ← fold collectRuntime .empty config.runtimes
  let (checkRuntime,checksByRuntime) ← fold (assignCheck runtimeById) (.empty,.empty) config.checks
  each (rejectCrossRuntimeDependency checkRuntime) config.checks
  let (runtimes,shared) ←
    fold (planRuntime crates config checksByRuntime) ([],none) runtimeById.entries
  let (receipt,environment,caches) ← expect shared
  let plan : MatrixPlanV2 := {
    schemaVersion := matrixConfigSchemaVersion
    project := config.project
    receipt
    environment
    caches
    runtimes }
  ofExcept (bindProfile crates profile plan)

namespace MatrixPlanEnvelopeV2

variable (crates : Crates) (envelope : MatrixPlanEnvelopeV2)

def validateProfileBinding : Except MatrixError Unit :=
  match envelope.profile with
  | .currentV2 =>
    if envelope.legacyBasis.isSome ∨ envelope.plan.digest crates ≠ envelope.planDigest then
      .error .planDigestMismatch
    else .ok ()
  | .legacyV1 => do
    let some basis := envelope.legacyBasis | .error .planDigestMismatch
    let projected ← projectLegacyBasis crates envelope.plan
    if projected ≠ basis ∨ projected.outerDigest crates ≠ envelope.planDigest then
      .error .planDigestMismatch
    envelope.plan.runtimes.forM fun runtime => do
      if (← projected.runtimeDigest runtime.id) ≠ runtime.configurationDigest then
        .error .planDigestMismatch

def runtimeConfigurationDigest (id : String) : Except MatrixError String := do
  envelope.validateProfileBinding crates
  match envelope.profile with
  | .legacyV1 =>
    match envelope.legacyBasis with
    | some basis => basis.runtimeDigest id
    | none => .error .planDigestMismatch
  | .currentV2 =>
    match envelope.plan.runtimes.find? (·.id = id) with
    | some runtime => .ok runtime.configurationDigest
    | none => .error (.unknownRuntime id)

def runtimePlan (runtime : MatrixRuntimePlanV2) : ExecutionPlanV1 where
  schemaVersion := "1.0"
  project := envelope.plan.project
  runtime := runtime.runtime
  receipt := envelope.plan.receipt
  environment := envelope.plan.environment
  caches := envelope.plan.caches
  storage := none
  checks := runtime.checks

def runtimeDigest (runtime : MatrixRuntimePlanV2) : Except MatrixError String :=
  match envelope.profile with
  | .currentV2 =>
    let digest := (envelope.runtimePlan runtime).digest crates
    if digest ≠ runtime.configurationDigest then .error .planDigestMismatch else .ok digest
  | .legacyV1 => envelope.runtimeConfigurationDigest crates runtime.id

def runtimeEnvelopes : Except MatrixError (List (String × ExecutionPlanEnvelopeV1)) := do
  envelope.validateProfileBinding crates
  envelope.plan.runtimes.mapM fun runtime => do
    let planDigest ← envelope.runtimeDigest crates runtime
    return (runtime.id,⟨planDigest,envelope.runtimePlan runtime,.empty⟩)

end MatrixPlanEnvelopeV2

abbrev SnapshotIo := Program.Fallible (FileOp OsString) FileOp.Result SourceSnapshotError

/-- `write_new_file` of `source_snapshot.rs`. -/
def writeNewFile (path : HostPath) (bytes : Bytes) : SnapshotIo Unit := do
  Files.passOn .io (Files.createNew path)
  Files.passOn .io (Files.append path bytes)
  Files.passOn .io (Files.sync path)

/-- The destinations a snapshot has beside its source. -/
structure MountOverlay where
  files : OrderedSet String
  directories : OrderedSet String

def overlayCache (root : HostPath) (cache : NormalizedCache) : SnapshotIo Unit := do
  let target := root.join cache.mountPath
  if ← pathExists target then return ()
  else Files.passOn .io (Files.createDirAll target)

def overlayFile (target : HostPath) : SnapshotIo Unit := do
  let some parent := target.parent | throw .invalidPath
  Files.passOn .io (Files.createDirAll parent)
  writeNewFile target []

/-- Both kinds of artifact are left alone where something exists. -/
def overlayArtifact (root : HostPath) (overlay : MountOverlay)
    (item : NormalizedCheck × String) : SnapshotIo MountOverlay := do
  let target := root.join item.2
  if ← pathExists target then return overlay
  else match artifactKindFor item.1 item.2 with
    | .directory => do
      Files.passOn .io (Files.createDirAll target)
      return {overlay with directories := overlay.directories.insert item.2}
    | .regularFile => do
      overlayFile target
      return {overlay with files := overlay.files.insert item.2}

def overlayArtifacts (root : HostPath) :
    MountOverlay → List (NormalizedCheck × String) → SnapshotIo MountOverlay
  | overlay, [] => return overlay
  | overlay, item::rest => do
    let overlay ← overlayArtifact root overlay item
    overlayArtifacts root overlay rest

def prepareMountOverlay (root : HostPath) (overlay : MountOverlay)
    (envelope : ExecutionPlanEnvelopeV1) : SnapshotIo MountOverlay := do
  envelope.plan.caches.forM (overlayCache root)
  overlayArtifacts root overlay envelope.plan.declaredArtifacts

/-- One iteration of the loop that puts the checks of all runtimes into one plan. -/
def joinChecks (overlay : ExecutionPlanEnvelopeV1) (runtime : String × ExecutionPlanEnvelopeV1) :
    Except MatrixError ExecutionPlanEnvelopeV1 :=
  if runtime.2.plan.caches ≠ overlay.plan.caches ∨
      runtime.2.plan.environment ≠ overlay.plan.environment ∨
      runtime.2.plan.storage ≠ overlay.plan.storage ∨
      runtime.2.fixedEnvironment ≠ overlay.fixedEnvironment then
    .error .planDigestMismatch
  else .ok {overlay with
    plan := {overlay.plan with checks := overlay.plan.checks++runtime.2.plan.checks}}

/-- The plan of the overlay: the first runtime's, with the checks of all. -/
def MatrixPlanEnvelopeV2.overlayEnvelope (crates : Crates) (envelope : MatrixPlanEnvelopeV2) :
    Except MatrixError ExecutionPlanEnvelopeV1 := do
  envelope.validateProfileBinding crates
  let runtimes ← envelope.runtimeEnvelopes crates
  let some first := runtimes.head? | .error .invalidReceipt
  runtimes.foldlM joinChecks {first.2 with plan := {first.2.plan with checks := []}}

def MatrixPlanEnvelopeV2.prepareSourceSnapshotOverlay (crates : Crates)
    (envelope : MatrixPlanEnvelopeV2) (root : HostPath) (overlay : MountOverlay) :
    Program.Fallible (FileOp OsString) FileOp.Result MatrixError MountOverlay := do
  let combined ← Program.ofExcept (envelope.overlayEnvelope crates)
  ExceptT.mk do return (← (prepareMountOverlay root overlay combined).run).mapError .sourceSnapshot

end CommitCiPreflight
