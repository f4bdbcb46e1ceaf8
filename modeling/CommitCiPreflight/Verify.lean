import CommitCiPreflight.Receipt

/-! `verify.rs`: the repository policy and the verification of a receipt document against
it. A document that cannot be evaluated yields a report with one finding, as a document
that violates the policy yields one finding for every violation. -/
namespace CommitCiPreflight

open Outcome

def policySchemaVersion : String := "1.0"
def verificationReportSchemaVersion : String := "1.0"
def maxReceiptBytes : ℕ := 4*1024*1024
def maxRequiredChecks : ℕ := 128
def maxPlatforms : ℕ := 32
def maxFreshnessSeconds : UInt64 := 31536000

structure AcceptedPlatformV1 where
  hostOs : String
  hostArch : String
  runtimeKind : String
  deriving DecidableEq

structure VerificationPolicyV1 where
  schemaVersion : String
  project : String
  configurationDigest : String
  requiredChecks : List String
  imageReference : String
  maxAgeSeconds : UInt64
  platforms : List AcceptedPlatformV1
  deriving DecidableEq

inductive PolicyError
  | unsupportedSchemaVersion
  | invalidField (field : String)
  | duplicateValue (field : String)
  deriving DecidableEq

inductive VerificationError
  | policy (error : PolicyError)
  | invalidExpectedCommit
  | invalidEvaluationTime
  deriving DecidableEq

namespace Policy

def isNameByte (b : UInt8) : Bool :=
  Text.isAsciiDigit b || (Text.ascii 'a' ≤ b && b ≤ Text.ascii 'z') ||
    (Text.ascii 'A' ≤ b && b ≤ Text.ascii 'Z') ||
    b == Text.ascii '.' || b == Text.ascii '_' || b == Text.ascii '-'

def validName (value : String) : Bool := value ≠ "" && (Text.bytes value).all isNameByte

def validateName (field value : String) : Outcome PolicyError Unit :=
  ensure (value.utf8ByteSize ≤ 128 ∧ validName value) (.invalidField field)

def validateProject (value : String) : Outcome PolicyError Unit := do
  ensure (value.utf8ByteSize ≤ 255 ∧ ¬ value.toList.any Text.isControl) (.invalidField "project")
  let parts := Text.split value '/'
  let owner := parts.getD 0 ""
  let repository := parts.getD 1 ""
  ensure (owner ≠ "" ∧ repository ≠ "" ∧ parts.length ≤ 2 ∧ validName owner ∧
    validName repository) (.invalidField "project")

def validateDigest (value : String) : Outcome PolicyError Unit := do
  let hex ← ofOption (.invalidField "configuration_digest") (Text.stripPrefix value "sha256:")
  ensure (hex.utf8ByteSize = 64 ∧ Receipt.isHex hex) (.invalidField "configuration_digest")

def validateImageReference (value : String) : Outcome PolicyError Unit := do
  let (name,digest) ← ofOption (.invalidField "image_reference") (Text.rsplitOnce value '@')
  ensure (name ≠ "" ∧ '@' ∉ name.toList ∧ ¬ name.toList.any Text.isControl)
    (.invalidField "image_reference")
  (validateDigest digest).mapErr fun _ => .invalidField "image_reference"

/-- One iteration of a loop that rejects a repeated key. -/
def collectDistinct {α κ : Type} [DecidableEq κ] (field : String) (key : α → κ)
    (validate : α → Outcome PolicyError Unit) (seen : List κ) (item : α) :
    Outcome PolicyError (List κ) := do
  validate item
  ensure (key item ∉ seen) (.duplicateValue field)
  return key item::seen

def validatePlatform (platform : AcceptedPlatformV1) : Outcome PolicyError Unit := do
  validateName "platforms.host_os" platform.hostOs
  validateName "platforms.host_arch" platform.hostArch
  validateName "platforms.runtime_kind" platform.runtimeKind

end Policy

open Policy

def VerificationPolicyV1.validate (policy : VerificationPolicyV1) : Outcome PolicyError Unit := do
  ensure (policy.schemaVersion = policySchemaVersion) .unsupportedSchemaVersion
  validateProject policy.project
  validateDigest policy.configurationDigest
  Policy.validateImageReference policy.imageReference
  ensure (1 ≤ policy.maxAgeSeconds ∧ policy.maxAgeSeconds ≤ maxFreshnessSeconds)
    (.invalidField "max_age_seconds")
  ensure (policy.requiredChecks ≠ [] ∧ policy.requiredChecks.length ≤ maxRequiredChecks)
    (.invalidField "required_checks")
  let _ ← fold (collectDistinct "required_checks" id (validateName "required_checks")) []
    policy.requiredChecks
  ensure (policy.platforms ≠ [] ∧ policy.platforms.length ≤ maxPlatforms)
    (.invalidField "platforms")
  let _ ← fold (collectDistinct "platforms" id validatePlatform) [] policy.platforms
  return

def validateCommit (value : String) : Outcome VerificationError Unit :=
  ensure (value.utf8ByteSize ∈ [40,64] ∧ Receipt.isHex value) .invalidExpectedCommit

inductive VerificationStatus
  | pass
  | fail
  | notRun
  deriving DecidableEq

inductive VerificationDecision
  | pass
  | fail
  deriving DecidableEq

structure VerificationFindingV1 where
  code : String
  field : String
  message : String
  deriving DecidableEq

structure VerificationReportV1 where
  schemaVersion : String
  assuranceScope : String
  evaluatedAtUtc : String
  expectedCommit : String
  receiptId : Option String
  integrityStatus : VerificationStatus
  policyStatus : VerificationStatus
  decision : VerificationDecision
  findings : List VerificationFindingV1
  deriving DecidableEq

inductive VerifiedReceipt
  | v1 (envelope : ReceiptEnvelopeV1)
  | v2 (envelope : ReceiptEnvelopeV2)
  deriving DecidableEq

structure ReceiptPolicyView where
  repository : RepositoryEvidence
  run : RunEvidence
  platform : PlatformEvidence
  configurationDigest : String
  checks : List CheckEvidence
  overallStatus : EvidenceStatus

namespace VerifiedReceipt

def verify (crates : Crates) : VerifiedReceipt → Outcome ReceiptError Unit
  | .v1 envelope => receiptV1.verify crates envelope
  | .v2 envelope => receiptV2.verify crates envelope

def receiptId : VerifiedReceipt → String
  | .v1 envelope => envelope.receiptId
  | .v2 envelope => envelope.receiptId

def common : VerifiedReceipt → ReceiptCommon
  | .v1 envelope => envelope.receipt.common
  | .v2 envelope => envelope.receipt.common

def view (receipt : VerifiedReceipt) : ReceiptPolicyView where
  repository := receipt.common.repository
  run := receipt.common.run
  platform := receipt.common.platform
  configurationDigest := receipt.common.configurationDigest
  checks := receipt.common.checks
  overallStatus := receipt.common.overallStatus

end VerifiedReceipt

/-- `Value::get` of an object. -/
def memberOf (name : String) : Json → Option Json
  | .obj members => lookupEntry name members
  | _ => none

/-- `pointer("/receipt/schema_version")`, then `as_str`. -/
def schemaVersionOf (document : Json) : Option String :=
  match (memberOf "receipt" document).bind (memberOf "schema_version") with
  | some (.str version) => some version
  | _ => none

def parseOrShape : VerificationFindingV1 :=
  ⟨"receipt.parse_or_shape","receipt","receipt is not valid strict schema v1 or v2 JSON"⟩

def unsupportedSchema (field : String) : VerificationFindingV1 :=
  ⟨"receipt.unsupported_schema",field,"receipt schema version is unsupported"⟩

def parseReceipt (crates : Crates) (bytes : Bytes) : Outcome VerificationFindingV1 VerifiedReceipt := do
  let document ← ofOption parseOrShape (valueFromSlice crates bytes)
  let schemaVersion ← ofOption ⟨"receipt.parse_or_shape","receipt.schema_version",
    "receipt schema version is missing or invalid"⟩ (schemaVersionOf document)
  if schemaVersion = "1.0" then
    ofOption parseOrShape ((fromSlice crates receiptV1.envelopeCodec bytes).map .v1)
  else if schemaVersion = "2.0" then
    ofOption parseOrShape ((fromSlice crates receiptV2.envelopeCodec bytes).map .v2)
  else .err (unsupportedSchema "receipt.schema_version")

def receiptFinding : ReceiptError → VerificationFindingV1
  | .unsupportedSchemaVersion _ => unsupportedSchema "receipt"
  | .digestMismatch _ _ => ⟨"receipt.digest_mismatch","receipt",
      "receipt payload does not match its integrity identifier"⟩
  | _ => ⟨"receipt.semantic_invalid","receipt","receipt violates schema semantic invariants"⟩

def readReceipt (crates : Crates) (bytes : Bytes) : Outcome VerificationFindingV1 VerifiedReceipt := do
  ensure (bytes.length ≤ maxReceiptBytes) ⟨"receipt.too_large","receipt",
    "receipt exceeds the bounded verification input size"⟩
  let envelope ← parseReceipt crates bytes
  (envelope.verify crates).mapErr receiptFinding
  return envelope

/-- `if !condition { findings.push(finding) }` -/
def require (condition : Prop) [Decidable condition] (finding : VerificationFindingV1) :
    List VerificationFindingV1 :=
  if condition then [] else [finding]

/-- `max_age_seconds as i64` reinterprets the bits. -/
def checkFreshness (run : RunEvidence) (policy : VerificationPolicyV1) (evaluatedAt : ℤ) :
    Outcome VerificationError (List VerificationFindingV1) :=
  match parseUtcSeconds run.finishedAtUtc with
  | .ok finishedAt =>
    if finishedAt > evaluatedAt then
      .ok [⟨"policy.future_receipt","run.finished_at_utc",
        "receipt completion time is later than verification time"⟩]
    else do
      let age ← i64 (evaluatedAt-finishedAt)
      return require (age ≤ policy.maxAgeSeconds.toInt64.toInt) ⟨"policy.stale_receipt",
        "run.finished_at_utc","receipt exceeds repository freshness policy"⟩
  | .err _ => .ok [⟨"policy.invalid_time","run.finished_at_utc",
      "receipt completion time cannot be evaluated"⟩]
  | .panic => .panic

/-- The findings before the freshness check, in the order they are pushed. -/
def checkContents (receipt : ReceiptPolicyView) (policy : VerificationPolicyV1)
    (expectedCommit : String) : List VerificationFindingV1 :=
  let actualRequired := OrderedSet.ofList ((receipt.checks.filter (·.required)).map (·.id))
  let expectedRequired := OrderedSet.ofList policy.requiredChecks
  require (receipt.repository.repository = policy.project) ⟨"policy.repository",
    "repository.repository","receipt project does not match repository policy"⟩ ++
  require (receipt.repository.commitSha = expectedCommit) ⟨"policy.commit",
    "repository.commit_sha","receipt commit does not match the externally supplied commit"⟩ ++
  require (receipt.repository.dirty = false) ⟨"policy.dirty",
    "repository.dirty","repository policy requires a clean checkout"⟩ ++
  require (receipt.configurationDigest = policy.configurationDigest) ⟨"policy.configuration",
    "configuration_digest","receipt configuration digest does not match repository policy"⟩ ++
  require (receipt.platform.imageReference = policy.imageReference) ⟨"policy.image",
    "platform.image_reference","receipt image does not match repository policy"⟩ ++
  require (∃ accepted ∈ policy.platforms, accepted.hostOs = receipt.platform.hostOs ∧
      accepted.hostArch = receipt.platform.hostArch ∧
      accepted.runtimeKind = receipt.platform.runtimeKind) ⟨"policy.platform",
    "platform","receipt platform tuple is not accepted by repository policy"⟩ ++
  require (receipt.overallStatus = .pass) ⟨"policy.overall_status",
    "overall_status","repository policy requires an overall PASS receipt"⟩ ++
  require (actualRequired = expectedRequired) ⟨"policy.required_check_set",
    "checks","required check set does not exactly match repository policy"⟩ ++
  require (¬ ∃ check ∈ receipt.checks, check.id ∈ expectedRequired ∧ check.status ≠ .pass)
    ⟨"policy.required_check_result","checks.status",
      "one or more policy-required checks did not PASS"⟩

def evaluatePolicy (receipt : ReceiptPolicyView) (policy : VerificationPolicyV1)
    (expectedCommit : String) (evaluatedAt : ℤ) :
    Outcome VerificationError (List VerificationFindingV1) := do
  let freshness ← checkFreshness receipt.run policy evaluatedAt
  return checkContents receipt policy expectedCommit++freshness

def VerificationReportV1.initial (expectedCommit evaluatedAtUtc : String) :
    VerificationReportV1 where
  schemaVersion := verificationReportSchemaVersion
  assuranceScope := "integrity_and_repository_policy_only"
  evaluatedAtUtc := evaluatedAtUtc
  expectedCommit := expectedCommit
  receiptId := none
  integrityStatus := .fail
  policyStatus := .notRun
  decision := .fail
  findings := []

/-- The last lines of both verifiers: findings fail the policy, and both statuses decide. -/
def VerificationReportV1.finalize (report : VerificationReportV1) : VerificationReportV1 :=
  let policyStatus := if report.findings = [] then report.policyStatus else .fail
  { report with
    policyStatus := policyStatus
    decision := if report.integrityStatus = .pass ∧ policyStatus = .pass then .pass else .fail }

/-- The report on a document that has been read, or on the stage that failed to. -/
def reportOn (report : VerificationReportV1) (policy : VerificationPolicyV1)
    (expectedCommit : String) (evaluatedAt : ℤ) :
    Outcome VerificationFindingV1 VerifiedReceipt → Outcome VerificationError VerificationReportV1
  | .err finding => .ok {report with findings := [finding]}
  | .panic => .panic
  | .ok envelope => do
    let findings ← evaluatePolicy envelope.view policy expectedCommit evaluatedAt
    return {report with
      receiptId := some envelope.receiptId
      integrityStatus := .pass
      policyStatus := .pass
      findings := findings}.finalize

def verifyReceiptDocument (crates : Crates) (bytes : Bytes) (policy : VerificationPolicyV1)
    (expectedCommit evaluatedAtUtc : String) : Outcome VerificationError VerificationReportV1 := do
  policy.validate.mapErr .policy
  validateCommit expectedCommit
  let evaluatedAt ← (parseUtcSeconds evaluatedAtUtc).mapErr fun _ => .invalidEvaluationTime
  reportOn (.initial expectedCommit evaluatedAtUtc) policy expectedCommit evaluatedAt
    (readReceipt crates bytes)

end CommitCiPreflight
