import CommitCiPreflight.Config
import CommitCiPreflight.Timestamp

/-! `receipt.rs`: the records of a receipt, their JSON form, and the checks a receipt
passes before it is sealed and after it is read. -/
namespace CommitCiPreflight

open Outcome

def receiptSchemaVersion : String := "1.0"
def receiptV2SchemaVersion : String := "2.0"
def sourceSnapshotSchemaVersion : String := "1.0"

inductive EvidenceStatus
  | pass
  | fail
  | pending
  | notRun
  deriving DecidableEq

inductive SourceSnapshotStrategy
  | gitObject
  | gitArchive
  | detachedWorktree
  deriving DecidableEq

structure ProducerEvidence where
  name : String
  version : String
  deriving DecidableEq

structure RepositoryEvidence where
  repository : String
  commitSha : String
  dirty : Bool
  deriving DecidableEq

structure RunEvidence where
  runId : String
  generation : UInt64
  startedAtUtc : String
  finishedAtUtc : String
  deriving DecidableEq

structure PlatformEvidence where
  hostOs : String
  hostArch : String
  runtimeKind : String
  runtimeVersion : String
  imageReference : String
  imageDigest : String
  deriving DecidableEq

structure CheckEvidence where
  id : String
  required : Bool
  argv : List String
  workingDirectory : String
  status : EvidenceStatus
  exitCode : Option Int32
  durationMs : UInt64
  timedOut : Bool
  cancelled : Bool
  outputDigest : Option String
  incompleteReason : Option String
  deriving DecidableEq

structure SourceSnapshotEvidence where
  schemaVersion : String
  strategy : SourceSnapshotStrategy
  manifestDigest : String
  entryCount : UInt64
  deriving DecidableEq

structure ArtifactEvidence where
  path : String
  kind : ArtifactKind
  producerCheck : String
  entryCount : UInt64
  totalBytes : UInt64
  manifestDigest : String
  deriving DecidableEq

structure RuntimeCapabilityEvidenceV1 where
  schemaVersion : String
  memoryLimitSupported : Bool
  swapLimitSupported : Bool
  contextDigest : String
  resolvedImageId : String
  resolvedImageReference : String
  deriving DecidableEq

structure ReceiptV1 where
  schemaVersion : String
  producer : ProducerEvidence
  repository : RepositoryEvidence
  run : RunEvidence
  platform : PlatformEvidence
  configurationDigest : String
  checks : List CheckEvidence
  overallStatus : EvidenceStatus
  incompleteReason : Option String
  redactionPolicyVersion : String
  deriving DecidableEq

structure ReceiptV2 where
  schemaVersion : String
  producer : ProducerEvidence
  repository : RepositoryEvidence
  run : RunEvidence
  sourceSnapshot : SourceSnapshotEvidence
  platform : PlatformEvidence
  configurationDigest : String
  executionPlan : ExecutionPlanV1
  runtimeCapabilityEvidence : Option RuntimeCapabilityEvidenceV1
  artifactManifest : List ArtifactEvidence
  checks : List CheckEvidence
  overallStatus : EvidenceStatus
  incompleteReason : Option String
  redactionPolicyVersion : String
  deriving DecidableEq

structure ReceiptEnvelope (ρ : Type) where
  receiptId : String
  receipt : ρ
  deriving DecidableEq

abbrev ReceiptEnvelopeV1 := ReceiptEnvelope ReceiptV1
abbrev ReceiptEnvelopeV2 := ReceiptEnvelope ReceiptV2

section Codecs

open Codec

def EvidenceStatus.codec : Codec EvidenceStatus :=
  .enum (fun | .pass => "PASS" | .fail => "FAIL" | .pending => "PENDING" | .notRun => "NOT_RUN")
    [.pass,.fail,.pending,.notRun] (by rintro (_ | _ | _ | _) <;> decide)

def SourceSnapshotStrategy.codec : Codec SourceSnapshotStrategy :=
  .enum (fun
      | .gitObject => "git-object"
      | .gitArchive => "git-archive"
      | .detachedWorktree => "detached-worktree")
    [.gitObject,.gitArchive,.detachedWorktree] (by rintro (_ | _ | _) <;> decide)

def ProducerEvidence.codec : Codec ProducerEvidence :=
  .struct (Fields.of ProducerEvidence.mk
    |>.add (.required "name" string) (·.name)
    |>.add (.required "version" string) (·.version))
    (by decide) fun _ => rfl

def RepositoryEvidence.codec : Codec RepositoryEvidence :=
  .struct (Fields.of RepositoryEvidence.mk
    |>.add (.required "repository" string) (·.repository)
    |>.add (.required "commit_sha" string) (·.commitSha)
    |>.add (.required "dirty" bool) (·.dirty))
    (by decide) fun _ => rfl

def RunEvidence.codec : Codec RunEvidence :=
  .struct (Fields.of RunEvidence.mk
    |>.add (.required "run_id" string) (·.runId)
    |>.add (.required "generation" u64) (·.generation)
    |>.add (.required "started_at_utc" string) (·.startedAtUtc)
    |>.add (.required "finished_at_utc" string) (·.finishedAtUtc))
    (by decide) fun _ => rfl

def PlatformEvidence.codec : Codec PlatformEvidence :=
  .struct (Fields.of PlatformEvidence.mk
    |>.add (.required "host_os" string) (·.hostOs)
    |>.add (.required "host_arch" string) (·.hostArch)
    |>.add (.required "runtime_kind" string) (·.runtimeKind)
    |>.add (.required "runtime_version" string) (·.runtimeVersion)
    |>.add (.required "image_reference" string) (·.imageReference)
    |>.add (.required "image_digest" string) (·.imageDigest))
    (by decide) fun _ => rfl

def CheckEvidence.codec : Codec CheckEvidence :=
  .struct (Fields.of CheckEvidence.mk
    |>.add (.required "id" string) (·.id)
    |>.add (.required "required" bool) (·.required)
    |>.add (.required "argv" string.list) (·.argv)
    |>.add (.required "working_directory" string) (·.workingDirectory)
    |>.add (.required "status" EvidenceStatus.codec) (·.status)
    |>.add (.nullable "exit_code" i32) (·.exitCode)
    |>.add (.required "duration_ms" u64) (·.durationMs)
    |>.add (.required "timed_out" bool) (·.timedOut)
    |>.add (.required "cancelled" bool) (·.cancelled)
    |>.add (.nullable "output_digest" string) (·.outputDigest)
    |>.add (.nullable "incomplete_reason" string) (·.incompleteReason))
    (by decide) fun _ => rfl

def SourceSnapshotEvidence.codec : Codec SourceSnapshotEvidence :=
  .struct (Fields.of SourceSnapshotEvidence.mk
    |>.add (.required "schema_version" string) (·.schemaVersion)
    |>.add (.required "strategy" SourceSnapshotStrategy.codec) (·.strategy)
    |>.add (.required "manifest_digest" string) (·.manifestDigest)
    |>.add (.required "entry_count" u64) (·.entryCount))
    (by decide) fun _ => rfl

def ArtifactEvidence.codec : Codec ArtifactEvidence :=
  .struct (Fields.of ArtifactEvidence.mk
    |>.add (.required "path" string) (·.path)
    |>.add (.required "kind" ArtifactKind.codec) (·.kind)
    |>.add (.required "producer_check" string) (·.producerCheck)
    |>.add (.required "entry_count" u64) (·.entryCount)
    |>.add (.required "total_bytes" u64) (·.totalBytes)
    |>.add (.required "manifest_digest" string) (·.manifestDigest))
    (by decide) fun _ => rfl

def RuntimeCapabilityEvidenceV1.codec : Codec RuntimeCapabilityEvidenceV1 :=
  .struct (Fields.of RuntimeCapabilityEvidenceV1.mk
    |>.add (.required "schema_version" string) (·.schemaVersion)
    |>.add (.required "memory_limit_supported" bool) (·.memoryLimitSupported)
    |>.add (.required "swap_limit_supported" bool) (·.swapLimitSupported)
    |>.add (.required "context_digest" string) (·.contextDigest)
    |>.add (.required "resolved_image_id" string) (·.resolvedImageId)
    |>.add (.required "resolved_image_reference" string) (·.resolvedImageReference))
    (by decide) fun _ => rfl

def ReceiptV1.codec : Codec ReceiptV1 :=
  .struct (Fields.of ReceiptV1.mk
    |>.add (.required "schema_version" string) (·.schemaVersion)
    |>.add (.required "producer" ProducerEvidence.codec) (·.producer)
    |>.add (.required "repository" RepositoryEvidence.codec) (·.repository)
    |>.add (.required "run" RunEvidence.codec) (·.run)
    |>.add (.required "platform" PlatformEvidence.codec) (·.platform)
    |>.add (.required "configuration_digest" string) (·.configurationDigest)
    |>.add (.required "checks" CheckEvidence.codec.list) (·.checks)
    |>.add (.required "overall_status" EvidenceStatus.codec) (·.overallStatus)
    |>.add (.nullable "incomplete_reason" string) (·.incompleteReason)
    |>.add (.required "redaction_policy_version" string) (·.redactionPolicyVersion))
    (by decide) fun _ => rfl

def ReceiptV2.codec : Codec ReceiptV2 :=
  .struct (Fields.of ReceiptV2.mk
    |>.add (.required "schema_version" string) (·.schemaVersion)
    |>.add (.required "producer" ProducerEvidence.codec) (·.producer)
    |>.add (.required "repository" RepositoryEvidence.codec) (·.repository)
    |>.add (.required "run" RunEvidence.codec) (·.run)
    |>.add (.required "source_snapshot" SourceSnapshotEvidence.codec) (·.sourceSnapshot)
    |>.add (.required "platform" PlatformEvidence.codec) (·.platform)
    |>.add (.required "configuration_digest" string) (·.configurationDigest)
    |>.add (.required "execution_plan" ExecutionPlanV1.codec) (·.executionPlan)
    |>.add (.omitNone "runtime_capability_evidence" RuntimeCapabilityEvidenceV1.codec true)
      (·.runtimeCapabilityEvidence)
    |>.add (.omitEmpty "artifact_manifest" ArtifactEvidence.codec) (·.artifactManifest)
    |>.add (.required "checks" CheckEvidence.codec.list) (·.checks)
    |>.add (.required "overall_status" EvidenceStatus.codec) (·.overallStatus)
    |>.add (.nullable "incomplete_reason" string) (·.incompleteReason)
    |>.add (.required "redaction_policy_version" string) (·.redactionPolicyVersion))
    (by decide) fun _ => rfl

def ReceiptEnvelope.codec {ρ : Type} (receipt : Codec ρ) : Codec (ReceiptEnvelope ρ) :=
  .struct (Fields.of ReceiptEnvelope.mk
    |>.add (.required "receipt_id" string) (·.receiptId)
    |>.add (.required "receipt" receipt) (·.receipt))
    (show ["receipt_id","receipt"].Nodup by decide) fun _ => rfl

end Codecs

inductive ReceiptError
  | unsupportedSchemaVersion (version : String)
  | unsupportedSourceSnapshotSchemaVersion (version : String)
  | emptyField (field : String)
  | controlCharacter (field : String)
  | invalidCommitSha (value : String)
  | invalidRepositoryIdentity
  | invalidSha256 (field : String)
  | invalidTimestamp (field : String)
  | invalidRunWindow
  | imageDigestMismatch
  | unsafePath (field : String)
  | noChecks
  | noRequiredChecks
  | duplicateCheckId (id : String)
  | invalidCommand (id : String)
  | invalidCheckResult (id : String)
  | missingIncompleteReason (field : String)
  | unexpectedIncompleteReason (field : String)
  | invalidSourceSnapshotEntryCount (count : UInt64)
  | overallStatusMismatch (expected actual : EvidenceStatus)
  | digestMismatch (expected actual : String)
  | executionPlanDigestMismatch (expected actual : String)
  | executionPlanCheckMismatch (id : String)
  | duplicateArtifactEvidence (path : String)
  | artifactManifestMismatch (path : String)
  | missingRuntimeCapabilityEvidence
  | unexpectedRuntimeCapabilityEvidence
  | invalidRuntimeCapabilityEvidence (field : String)
  | runtimeCapabilityEvidenceMismatch
  deriving DecidableEq

namespace Receipt

def requireText (field value : String) : Outcome ReceiptError Unit := do
  ensure (Text.trim value ≠ "") (.emptyField field)
  ensure (¬ value.toList.any Text.isControl) (.controlCharacter field)

/-- Only hexadecimal digits, the letters in lower case. -/
def isHex (value : String) : Bool := (Text.bytes value).all Text.isLowerHex

def validateCommitSha (value : String) : Outcome ReceiptError Unit :=
  ensure (value.utf8ByteSize ∈ [40,64] ∧ isHex value) (.invalidCommitSha value)

def validateRepositoryIdentity (value : String) : Outcome ReceiptError Unit := do
  requireText "repository.repository" value
  let segments := Text.split value '/'
  let owner := segments.getD 0 ""
  let repository := segments.getD 1 ""
  ensure (owner ≠ "" ∧ repository ≠ "" ∧ segments.length ≤ 2 ∧ owner.toList.all isIdentifierChar ∧
    repository.toList.all isIdentifierChar) .invalidRepositoryIdentity

def validateSha256 (field value : String) : Outcome ReceiptError Unit := do
  let hex ← ofOption (.invalidSha256 field) (Text.stripPrefix value receiptIdPrefix)
  ensure (hex.utf8ByteSize = 64 ∧ isHex hex) (.invalidSha256 field)

def requireTimestamp (field value : String) : Outcome ReceiptError Unit := do
  requireText field value
  let t ← (readCivil (Text.bytes value)).mapErr fun _ => .invalidTimestamp field
  ensure (t.InRange (leapYear t.year)) (.invalidTimestamp field)

def validateRelativePath (field value : String) : Outcome ReceiptError Unit := do
  requireText field value
  ensure (isSafePath value) (.unsafePath field)

def incomplete (status : EvidenceStatus) : Prop := status = .pending ∨ status = .notRun

instance (status : EvidenceStatus) : Decidable (incomplete status) :=
  inferInstanceAs (Decidable (_ ∨ _))

def validateIncompleteReason (field : String) (status : EvidenceStatus) (reason : Option String) :
    Outcome ReceiptError Unit :=
  let blank := Text.trim (reason.getD "") = ""
  if incomplete status then ensure (¬ blank) (.missingIncompleteReason field)
  else ensure blank (.unexpectedIncompleteReason field)

def deriveOverallStatus (statuses : List EvidenceStatus) : EvidenceStatus :=
  if .fail ∈ statuses then .fail
  else if ∃ status ∈ statuses, incomplete status then .pending
  else .pass

end Receipt

open Receipt

def SourceSnapshotEvidence.validate (snapshot : SourceSnapshotEvidence) :
    Outcome ReceiptError Unit := do
  ensure (snapshot.schemaVersion = sourceSnapshotSchemaVersion)
    (.unsupportedSourceSnapshotSchemaVersion snapshot.schemaVersion)
  requireText "source_snapshot.manifest_digest" snapshot.manifestDigest
  validateSha256 "source_snapshot.manifest_digest" snapshot.manifestDigest
  ensure (snapshot.entryCount ≠ 0) (.invalidSourceSnapshotEntryCount snapshot.entryCount)

/-- The result fields a status allows. -/
def CheckEvidence.Consistent (check : CheckEvidence) : EvidenceStatus → Prop
  | .pass => check.exitCode = some 0 ∧ check.timedOut = false ∧ check.cancelled = false
  | .fail => (check.exitCode ≠ none ∧ check.exitCode ≠ some 0) ∨ check.timedOut ∨ check.cancelled
  | .pending | .notRun =>
    check.exitCode = none ∧ check.durationMs = 0 ∧ check.timedOut = false ∧
      check.cancelled = false ∧ check.outputDigest = none

instance (check : CheckEvidence) : (status : EvidenceStatus) → Decidable (check.Consistent status)
  | .pass => inferInstanceAs (Decidable (_ ∧ _))
  | .fail => inferInstanceAs (Decidable (_ ∨ _))
  | .pending | .notRun => inferInstanceAs (Decidable (_ ∧ _))

def CheckEvidence.validate (check : CheckEvidence) : Outcome ReceiptError Unit := do
  requireText "check.id" check.id
  ensure (check.argv ≠ [] ∧ "" ∉ check.argv) (.invalidCommand check.id)
  Receipt.validateRelativePath "check.working_directory" check.workingDirectory
  validateIncompleteReason "check.incomplete_reason" check.status check.incompleteReason
  ensure (check.Consistent check.status) (.invalidCheckResult check.id)
  each (validateSha256 "check.output_digest") check.outputDigest.toList

structure ReceiptCommon where
  expectedSchemaVersion : String
  schemaVersion : String
  producer : ProducerEvidence
  repository : RepositoryEvidence
  run : RunEvidence
  platform : PlatformEvidence
  configurationDigest : String
  checks : List CheckEvidence
  overallStatus : EvidenceStatus
  incompleteReason : Option String
  redactionPolicyVersion : String

/-- One iteration of the loop over the checks: the ids seen and the statuses of the
required checks. -/
def collectEvidence (state : OrderedSet String × List EvidenceStatus) (check : CheckEvidence) :
    Outcome ReceiptError (OrderedSet String × List EvidenceStatus) := do
  check.validate
  ensure (check.id ∉ state.1) (.duplicateCheckId check.id)
  return (state.1.insert check.id,
    if check.required then state.2++[check.status] else state.2)

/-- The first half of `ReceiptCommon::validate`. -/
def ReceiptCommon.validateFields (receipt : ReceiptCommon) : Outcome ReceiptError Unit := do
  ensure (receipt.schemaVersion = receipt.expectedSchemaVersion)
    (.unsupportedSchemaVersion receipt.schemaVersion)
  requireText "producer.name" receipt.producer.name
  requireText "producer.version" receipt.producer.version
  Receipt.validateRepositoryIdentity receipt.repository.repository
  validateCommitSha receipt.repository.commitSha
  requireText "run.run_id" receipt.run.runId
  requireTimestamp "run.started_at_utc" receipt.run.startedAtUtc
  requireTimestamp "run.finished_at_utc" receipt.run.finishedAtUtc
  ensure (¬ receipt.run.finishedAtUtc < receipt.run.startedAtUtc) .invalidRunWindow
  requireText "platform.host_os" receipt.platform.hostOs
  requireText "platform.host_arch" receipt.platform.hostArch
  requireText "platform.runtime_kind" receipt.platform.runtimeKind
  requireText "platform.runtime_version" receipt.platform.runtimeVersion
  requireText "platform.image_reference" receipt.platform.imageReference
  validateSha256 "platform.image_digest" receipt.platform.imageDigest
  let digest := (Text.rsplitOnce receipt.platform.imageReference '@').map Prod.snd
  ensure (digest = some receipt.platform.imageDigest) .imageDigestMismatch
  validateSha256 "configuration_digest" receipt.configurationDigest
  requireText "redaction_policy_version" receipt.redactionPolicyVersion

/-- The second half of `ReceiptCommon::validate`. -/
def ReceiptCommon.validateChecks (receipt : ReceiptCommon) : Outcome ReceiptError Unit := do
  ensure (receipt.checks ≠ []) .noChecks
  let (_,requiredStatuses) ← fold collectEvidence (.empty,[]) receipt.checks
  ensure (requiredStatuses ≠ []) .noRequiredChecks
  let expectedStatus := deriveOverallStatus requiredStatuses
  ensure (receipt.overallStatus = expectedStatus)
    (.overallStatusMismatch expectedStatus receipt.overallStatus)
  validateIncompleteReason "receipt.incomplete_reason" receipt.overallStatus
    receipt.incompleteReason

def ReceiptCommon.validate (receipt : ReceiptCommon) : Outcome ReceiptError Unit := do
  receipt.validateFields
  receipt.validateChecks

def ReceiptV1.common (receipt : ReceiptV1) : ReceiptCommon where
  expectedSchemaVersion := receiptSchemaVersion
  schemaVersion := receipt.schemaVersion
  producer := receipt.producer
  repository := receipt.repository
  run := receipt.run
  platform := receipt.platform
  configurationDigest := receipt.configurationDigest
  checks := receipt.checks
  overallStatus := receipt.overallStatus
  incompleteReason := receipt.incompleteReason
  redactionPolicyVersion := receipt.redactionPolicyVersion

def ReceiptV1.validate (receipt : ReceiptV1) : Outcome ReceiptError Unit :=
  receipt.common.validate

def ReceiptV2.common (receipt : ReceiptV2) : ReceiptCommon where
  expectedSchemaVersion := receiptV2SchemaVersion
  schemaVersion := receipt.schemaVersion
  producer := receipt.producer
  repository := receipt.repository
  run := receipt.run
  platform := receipt.platform
  configurationDigest := receipt.configurationDigest
  checks := receipt.checks
  overallStatus := receipt.overallStatus
  incompleteReason := receipt.incompleteReason
  redactionPolicyVersion := receipt.redactionPolicyVersion

def ReceiptV2.validateRuntimeCapabilityEvidence (receipt : ReceiptV2) :
    Outcome ReceiptError Unit :=
  let runtime := receipt.executionPlan.runtime
  if receipt.executionPlan.schemaVersion = "1.3" then do
    ensure (runtime.pullPolicy = some .never ∧ runtime.swapMode = some .disabled)
      .runtimeCapabilityEvidenceMismatch
    let evidence ← ofOption .missingRuntimeCapabilityEvidence receipt.runtimeCapabilityEvidence
    ensure (evidence.schemaVersion = "1.0" ∧ evidence.memoryLimitSupported ∧
        evidence.swapLimitSupported)
      (.invalidRuntimeCapabilityEvidence "schema_version or capability booleans")
    (validateSha256 "runtime_capability.context_digest" evidence.contextDigest).mapErr
      fun _ => .invalidRuntimeCapabilityEvidence "context_digest"
    (validateSha256 "runtime_capability.resolved_image_id" evidence.resolvedImageId).mapErr
      fun _ => .invalidRuntimeCapabilityEvidence "resolved_image_id"
    requireText "runtime_capability.resolved_image_reference" evidence.resolvedImageReference
    ensure (evidence.resolvedImageReference = runtime.image) .runtimeCapabilityEvidenceMismatch
  else ensure (receipt.runtimeCapabilityEvidence = none) .unexpectedRuntimeCapabilityEvidence

/-- The contracts of the plan by path; a later contract of the same path replaces an
earlier one. -/
def plannedArtifacts (checks : List NormalizedCheck) :
    OrderedMap String NormalizedArtifactContract :=
  .ofList (checks.flatMap fun check => check.artifactContracts.map fun c => (c.path,c))

/-- One iteration of the loop over the manifest. -/
def observeArtifact (expected : OrderedMap String NormalizedArtifactContract)
    (observed : OrderedSet String) (artifact : ArtifactEvidence) :
    Outcome ReceiptError (OrderedSet String) := do
  ensure (artifact.path ∉ observed) (.duplicateArtifactEvidence artifact.path)
  let planned ← ofOption (.artifactManifestMismatch artifact.path) (expected.get? artifact.path)
  ensure (artifact.kind = planned.kind ∧ artifact.producerCheck = planned.producerCheck ∧
      ¬ (artifact.kind = .regularFile ∧ artifact.entryCount ≠ 1) ∧
      artifact.entryCount ≤ planned.maxEntries ∧ artifact.totalBytes ≤ planned.maxBytes)
    (.artifactManifestMismatch artifact.path)
  validateSha256 "artifact.manifest_digest" artifact.manifestDigest
  return observed.insert artifact.path

def ReceiptV2.validateArtifactManifest (receipt : ReceiptV2) : Outcome ReceiptError Unit := do
  let expected := plannedArtifacts receipt.executionPlan.checks
  let observed ← fold (observeArtifact expected) .empty receipt.artifactManifest
  ensure (observed.toList.length = expected.entries.length ∧ ∀ path ∈ expected.keys, path ∈ observed)
    (.artifactManifestMismatch "artifact set")

/-- The evidence repeats what the plan says of a check. -/
def CheckEvidence.Matches (evidence : CheckEvidence) (planned : NormalizedCheck) : Prop :=
  evidence.required = planned.required ∧ evidence.argv = planned.argv ∧
    evidence.workingDirectory = planned.workingDirectory

instance (evidence : CheckEvidence) (planned : NormalizedCheck) :
    Decidable (evidence.Matches planned) := inferInstanceAs (Decidable (_ ∧ _))

/-- One iteration of the loop over the planned checks. -/
def findPlanned (checks : List CheckEvidence) (planned : NormalizedCheck) :
    Outcome ReceiptError Unit := do
  let evidence ← ofOption (.executionPlanCheckMismatch planned.id)
    (checks.find? fun evidence => evidence.id = planned.id)
  ensure (evidence.Matches planned) (.executionPlanCheckMismatch planned.id)

def ReceiptV2.validate (crates : Crates) (receipt : ReceiptV2) : Outcome ReceiptError Unit := do
  receipt.common.validate
  receipt.sourceSnapshot.validate
  let expected := receipt.executionPlan.digest crates
  ensure (receipt.configurationDigest = expected)
    (.executionPlanDigestMismatch expected receipt.configurationDigest)
  receipt.validateRuntimeCapabilityEvidence
  ensure (receipt.executionPlan.checks.length = receipt.checks.length)
    (.executionPlanCheckMismatch "check set")
  each (findPlanned receipt.checks) receipt.executionPlan.checks
  receipt.validateArtifactManifest

/-- What a receipt version contributes to its envelope. -/
structure ReceiptVersion (ρ : Type) where
  codec : Codec ρ
  validate : Crates → ρ → Outcome ReceiptError Unit

def receiptV1 : ReceiptVersion ReceiptV1 := ⟨ReceiptV1.codec,fun _ => ReceiptV1.validate⟩
def receiptV2 : ReceiptVersion ReceiptV2 := ⟨ReceiptV2.codec,ReceiptV2.validate⟩

namespace ReceiptVersion

variable {ρ : Type} (version : ReceiptVersion ρ) (crates : Crates)

def digest (receipt : ρ) : String := canonicalDigest crates (version.codec.encode receipt)

def envelopeCodec : Codec (ReceiptEnvelope ρ) := ReceiptEnvelope.codec version.codec

/-- `seal`. -/
def sealReceipt (receipt : ρ) : Outcome ReceiptError (ReceiptEnvelope ρ) := do
  version.validate crates receipt
  return ⟨version.digest crates receipt,receipt⟩

def verify (envelope : ReceiptEnvelope ρ) : Outcome ReceiptError Unit := do
  version.validate crates envelope.receipt
  let expected := version.digest crates envelope.receipt
  ensure (envelope.receiptId = expected) (.digestMismatch expected envelope.receiptId)

def canonicalBytes (envelope : ReceiptEnvelope ρ) : Outcome ReceiptError Bytes := do
  version.verify crates envelope
  return canonicalJson crates (version.envelopeCodec.encode envelope)

end ReceiptVersion

end CommitCiPreflight
