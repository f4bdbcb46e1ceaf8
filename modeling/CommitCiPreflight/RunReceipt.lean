import CommitCiPreflight.Run

/-! The receipts that `run.rs` seals when the check loop has ended, with what it takes from
the runtime's probe and from the source snapshot. -/
namespace CommitCiPreflight

open Outcome Codec

def packageName : String := "commit-ci-preflight"
def packageVersion : String := "0.1.0"
def redactionPolicyVersion : String := "ccp-redaction-v1"

/-- `std::env::consts::OS` and `ARCH`. -/
structure TargetConstants where
  os : String
  arch : String
  os_plain : os ≠ "" ∧ ∀ c ∈ os.toList, isIdentifierChar c
  arch_plain : arch ≠ "" ∧ ∀ c ∈ arch.toList, isIdentifierChar c

inductive RuntimeFlavor
  | dockerCompatible
  | orbStack
  deriving DecidableEq

/-- What `docker info` reports, without the constants of the platform. -/
structure RuntimeProbe where
  runtime : RuntimeKind
  flavor : RuntimeFlavor
  serverVersion : Option String
  operatingSystem : Option String
  osType : Option String
  memoryLimitSupported : Option Bool
  swapLimitSupported : Option Bool

def boundedField (members : List (String × Json)) (key : String) : Option String :=
  match lookupEntry key members with
  | some (.str text) =>
    let field := Text.trim text
    if field = "" ∨ 128 < field.utf8ByteSize ∨ field.toList.any Text.isControl then none
    else some field
  | _ => none

def boolField (members : List (String × Json)) (key : String) : Option Bool :=
  match lookupEntry key members with
  | some (.bool b) => some b
  | _ => none

def requireCompleted : ProcessTermination → Outcome RuntimeError Unit
  | .timedOut => .err .timedOut
  | .cancelled => .err .cancelled
  | .completed => .ok ()

def objectMembers : Json → Option (List (String × Json))
  | .obj members => some members
  | _ => none

def interpretDockerProbe (crates : Crates) (result : ProcessResult) :
    Outcome RuntimeError RuntimeProbe := do
  requireCompleted result.termination
  ensure (result.cleanup = .verified) .cleanupUncertain
  let exit ← ofOption (.invalidProbe "runtime probe completed without an exit status") result.exit
  ensure exit.success .unavailable
  ensure (result.stdout.truncated = false ∧ result.stderr.truncated = false)
    (.invalidProbe "runtime probe output exceeded the capture limit")
  let output ← ofOption (.invalidProbe "runtime probe output is not UTF-8")
    (Text.fromUtf8 result.stdout.bytes)
  let value ← ofOption (.invalidProbe "runtime probe output is not valid JSON")
    (valueFromSlice crates (Text.bytes (Text.trim output)))
  let members ← ofOption (.invalidProbe "runtime probe output is not a JSON object")
    (objectMembers value)
  let operatingSystem := boundedField members "OperatingSystem"
  let serverVersion ← ofOption (.invalidProbe "runtime probe did not report a server version")
    (boundedField members "ServerVersion")
  let osType ← ofOption (.invalidProbe "runtime probe did not report an OS type")
    (boundedField members "OSType")
  ensure (asciiLowercase osType = "linux".toList)
    (.unsupported "the Docker-compatible runtime is not serving Linux containers")
  let named := operatingSystem.toList++(boundedField members "Name").toList
  return {
    runtime := .dockerCompatible
    flavor := if named.any fun field => "orbstack".toList <:+: asciiLowercase field then .orbStack
      else .dockerCompatible
    serverVersion := some serverVersion
    operatingSystem
    osType := some osType
    memoryLimitSupported := boolField members "MemoryLimit"
    swapLimitSupported := boolField members "SwapLimit" }

inductive SourceEntryKindV1
  | regular
  | executable
  | symlink
  | submodule
  deriving DecidableEq

structure SourceManifestEntryV1 where
  path : String
  mode : String
  kind : SourceEntryKindV1
  blobOid : Option String
  submoduleOid : Option String

structure SourceManifestV1 where
  schemaVersion : String
  commitSha : String
  strategy : String
  entries : List SourceManifestEntryV1

def SourceEntryKindV1.codec : Codec SourceEntryKindV1 :=
  .enum (fun
      | .regular => "regular" | .executable => "executable" | .symlink => "symlink"
      | .submodule => "submodule")
    [.regular,.executable,.symlink,.submodule] (by rintro (_ | _) <;> decide)

def SourceManifestEntryV1.codec : Codec SourceManifestEntryV1 :=
  .struct (Fields.of SourceManifestEntryV1.mk
    |>.add (.required "path" string) (·.path)
    |>.add (.required "mode" string) (·.mode)
    |>.add (.required "kind" SourceEntryKindV1.codec) (·.kind)
    |>.add (.nullable "blob_oid" string) (·.blobOid)
    |>.add (.nullable "submodule_oid" string) (·.submoduleOid))
    (by decide) fun _ => rfl

def SourceManifestV1.codec : Codec SourceManifestV1 :=
  .struct (Fields.of SourceManifestV1.mk
    |>.add (.required "schema_version" string) (·.schemaVersion)
    |>.add (.required "commit_sha" string) (·.commitSha)
    |>.add (.required "strategy" string) (·.strategy)
    |>.add (.required "entries" (list SourceManifestEntryV1.codec)) (·.entries))
    (by decide) fun _ => rfl

/-- `valid_oid`, and the same test in `inspect_repository`. -/
def validOid (value : String) : Prop := value.utf8ByteSize ∈ [40,64] ∧ Receipt.isHex value

def maxEntries : ℕ := 50000

structure SourceSnapshot where
  manifest : SourceManifestV1
  commit_valid : validOid manifest.commitSha
  bounded : manifest.entries.length ≤ maxEntries

def SourceSnapshot.evidence (crates : Crates) (snapshot : SourceSnapshot) :
    SourceSnapshotEvidence where
  schemaVersion := sourceSnapshotSchemaVersion
  strategy := .gitObject
  manifestDigest := canonicalDigest crates (SourceManifestV1.codec.encode snapshot.manifest)
  entryCount := .ofNat snapshot.manifest.entries.length

structure RunRequest where
  envelope : ExecutionPlanEnvelopeV1
  generation : UInt64
  producerVersion : String

structure RunIdInput where
  schemaVersion : String
  project : String
  commit : String
  configurationDigest : String
  generation : UInt64
  startedAtUtc : String

def RunIdInput.codec : Codec RunIdInput :=
  .struct (Fields.of RunIdInput.mk
    |>.add (.required "schema_version" string) (·.schemaVersion)
    |>.add (.required "project" string) (·.project)
    |>.add (.required "commit" string) (·.commit)
    |>.add (.required "configuration_digest" string) (·.configurationDigest)
    |>.add (.required "generation" u64) (·.generation)
    |>.add (.required "started_at_utc" string) (·.startedAtUtc))
    (by decide) fun _ => rfl

def runId (crates : Crates) (envelope : ExecutionPlanEnvelopeV1) (commit : String)
    (generation : UInt64) (startedAtUtc : String) : String :=
  canonicalDigest crates (RunIdInput.codec.encode
    ⟨"1.0",envelope.plan.project,commit,envelope.planDigest,generation,startedAtUtc⟩)

def requiredResults (statuses : OrderedMap String EvidenceStatus) :
    List NormalizedCheck → Outcome RunError (List EvidenceStatus)
  | [] => return []
  | check::rest =>
    if check.required then do
      let status ← ofOption (.invariant "required check result is missing")
        (statuses.get? check.id)
      let later ← requiredResults statuses rest
      return status::later
    else requiredResults statuses rest

/-- `derive_overall_status` of `run.rs`. -/
def Run.deriveOverallStatus (declared : List NormalizedCheck)
    (statuses : OrderedMap String EvidenceStatus) : Outcome RunError EvidenceStatus := do
  let required ← requiredResults statuses declared
  return if .fail ∈ required then .fail
    else if ∃ status ∈ required, status = .pending ∨ status = .notRun then .pending
    else .pass

/-- Schemas before 1.3 ask for no capabilities, whatever the probe would say. -/
def preflightCapabilities (plan : ExecutionPlanV1) (probed : Option RuntimeCapabilityEvidenceV1) :
    Option RuntimeCapabilityEvidenceV1 :=
  if plan.schemaVersion ≠ "1.3" then none else probed

section Seal

variable (crates : Crates) (target : TargetConstants) (request : RunRequest) (probe : RuntimeProbe)

def receiptOfRun (commit startedAtUtc finishedAtUtc : String) (state : RunState)
    (overallStatus : EvidenceStatus) (imageDigest : String) : ReceiptV1 where
  schemaVersion := receiptSchemaVersion
  producer := ⟨packageName,request.producerVersion⟩
  repository := ⟨request.envelope.plan.project,commit,false⟩
  run := {
    runId := runId crates request.envelope commit request.generation startedAtUtc
    generation := request.generation
    startedAtUtc
    finishedAtUtc }
  platform := {
    hostOs := target.os
    hostArch := target.arch
    runtimeKind := match probe.runtime with
      | .dockerCompatible => "docker_compatible"
      | .host => "host"
    runtimeVersion := probe.serverVersion.getD "not-reported"
    imageReference := request.envelope.plan.runtime.image
    imageDigest }
  configurationDigest := request.envelope.planDigest
  checks := state.checks
  overallStatus
  incompleteReason := if overallStatus = .pending then
      some "one or more required checks were not run"
    else none
  redactionPolicyVersion := redactionPolicyVersion

/-- The end of `execute_local_receipt_and_artifacts_with_dependencies`. -/
def sealRunReceipt (commit startedAtUtc finishedAtUtc : String) (state : RunState) :
    Outcome RunError (ReceiptEnvelope ReceiptV1) := do
  let overallStatus ← Run.deriveOverallStatus request.envelope.plan.checks state.statuses
  let imageDigest ← ofOption (.invariant "validated image lost its digest")
    ((Text.rsplitOnce request.envelope.plan.runtime.image '@').map Prod.snd)
  (receiptV1.sealReceipt crates (receiptOfRun crates target request probe commit startedAtUtc
    finishedAtUtc state overallStatus imageDigest)).mapErr .receipt

/-- The snapshot receipt of `execute_local_run_with_dependencies`, from the one sealed first. -/
def sealSnapshotReceipt (snapshot : SourceSnapshot) (receipt : ReceiptV1)
    (capabilities : Option RuntimeCapabilityEvidenceV1) (artifactManifest : List ArtifactEvidence) :
    Outcome RunError (ReceiptEnvelope ReceiptV2) :=
  (receiptV2.sealReceipt crates {
    schemaVersion := receiptV2SchemaVersion
    producer := receipt.producer
    repository := receipt.repository
    run := receipt.run
    sourceSnapshot := snapshot.evidence crates
    platform := receipt.platform
    configurationDigest := receipt.configurationDigest
    executionPlan := request.envelope.plan
    runtimeCapabilityEvidence := capabilities
    artifactManifest
    checks := receipt.checks
    overallStatus := receipt.overallStatus
    incompleteReason := receipt.incompleteReason
    redactionPolicyVersion := receipt.redactionPolicyVersion }).mapErr .receipt

end Seal

end CommitCiPreflight
