import CommitCiPreflight.Verify

/-! The trusted-plan policy of `verify.rs`: a receipt is verified against the repository
policy, and the plan it embeds is compared with the plan of the trusted configuration. -/
namespace CommitCiPreflight

open Outcome Policy

def trustedPlanPolicySchemaVersion : String := "1.1"
def maxPlanFindings : ℕ := 128

structure ProducerContractV1_1 where
  name : String
  version : String
  deriving DecidableEq

structure VerificationPolicyV1_1 where
  schemaVersion : String
  project : String
  configurationDigest : String
  requiredChecks : List String
  imageReference : String
  maxAgeSeconds : UInt64
  platforms : List AcceptedPlatformV1
  trustedConfig : String
  sourceSnapshotStrategy : SourceSnapshotStrategy
  supportedProducers : List ProducerContractV1_1
  revokedProducers : List ProducerContractV1_1

namespace Policy

def validateTrustedConfigPath (value : String) : Outcome PolicyError Unit :=
  ensure (value ≠ "" ∧ value.utf8ByteSize ≤ 255 ∧ Text.startsWith value '/' = false ∧
      Text.startsWith value '~' = false ∧ '\\' ∉ value.toList ∧ ':' ∉ value.toList ∧
      ∀ segment ∈ Text.split value '/', segment ≠ "" ∧ segment ≠ "." ∧ segment ≠ "..")
    (.invalidField "trusted_config")

def validateProducerContract (producer : ProducerContractV1_1) : Outcome PolicyError Unit := do
  validateName "producers.name" producer.name
  ensure (producer.version ≠ "" ∧ producer.version.utf8ByteSize ≤ 128 ∧
    ¬ producer.version.toList.any Text.isControl) (.invalidField "producers.version")

/-- One iteration of the loop over the revoked producers. -/
def collectRevoked (supported : List ProducerContractV1_1) (revoked : List ProducerContractV1_1)
    (producer : ProducerContractV1_1) : Outcome PolicyError (List ProducerContractV1_1) := do
  let revoked ← collectDistinct "revoked_producers" id validateProducerContract revoked producer
  ensure (producer ∉ supported) (.duplicateValue "producer_contracts")
  return revoked

end Policy

namespace VerificationPolicyV1_1

def baseline (policy : VerificationPolicyV1_1) : VerificationPolicyV1 where
  schemaVersion := policySchemaVersion
  project := policy.project
  configurationDigest := policy.configurationDigest
  requiredChecks := policy.requiredChecks
  imageReference := policy.imageReference
  maxAgeSeconds := policy.maxAgeSeconds
  platforms := policy.platforms

def validate (policy : VerificationPolicyV1_1) : Outcome PolicyError Unit := do
  ensure (policy.schemaVersion = trustedPlanPolicySchemaVersion) .unsupportedSchemaVersion
  policy.baseline.validate
  validateTrustedConfigPath policy.trustedConfig
  ensure (policy.supportedProducers ≠ []) (.invalidField "supported_producers")
  let supported ← fold (collectDistinct "supported_producers" id validateProducerContract) []
    policy.supportedProducers
  let _ ← fold (collectRevoked supported) [] policy.revokedProducers
  return

end VerificationPolicyV1_1

/-- `value.replace('~', "~0").replace('/', "~1")`. -/
def escapeJsonPointer (value : String) : String :=
  let tildes := value.toList.flatMap fun c => if c = '~' then ['~','0'] else [c]
  String.ofList (tildes.flatMap fun c => if c = '/' then ['~','1'] else [c])

def pushPlanFinding (path : String) (findings : List VerificationFindingV1) :
    List VerificationFindingV1 :=
  if findings.length < maxPlanFindings then
    findings++[⟨"policy.execution_plan.field_mismatch","execution_plan"++path,
      "receipt execution-plan field does not match trusted configuration"⟩]
  else findings

/-- The comparison of a trusted value with a receipt value at a path, over the findings so
far. -/
abbrev Comparer := Json → String → List VerificationFindingV1 → List VerificationFindingV1

/-- A member or an item of either side: its path, how to compare with the trusted one, and
the one of the receipt. -/
structure Child where
  path : String
  trusted : Option Comparer
  receipt : Option Json

def Child.compare (child : Child) (findings : List VerificationFindingV1) :
    List VerificationFindingV1 :=
  match child.trusted, child.receipt with
  | some compare, some receipt => compare receipt child.path findings
  | _, _ => pushPlanFinding child.path findings

/-- The loops over keys and indices, which stop at the limit. -/
def compareChildren : List Child → List VerificationFindingV1 → List VerificationFindingV1
  | [], findings => findings
  | child::children, findings =>
    let findings := child.compare findings
    if maxPlanFindings ≤ findings.length then findings else compareChildren children findings

def memberChildren (trusted : List (String × Comparer)) (receipt : List (String × Json))
    (path : String) : List Child :=
  (OrderedSet.ofList (trusted.map Prod.fst++receipt.map Prod.fst)).toList.map fun key =>
    ⟨path++"/"++escapeJsonPointer key,lookupEntry key trusted,lookupEntry key receipt⟩

def itemChildren (trusted : List Comparer) (receipt : List Json) (path : String) : List Child :=
  (List.range (max trusted.length receipt.length)).map fun index =>
    ⟨path++"/"++toString index,trusted[index]?,receipt[index]?⟩

mutual
def comparePlanValue : Json → Comparer
  | trusted, receipt, path, findings =>
    if maxPlanFindings ≤ findings.length ∨ trusted.unsignedZeros = receipt.unsignedZeros then findings
    else match trusted, receipt with
      | .obj trusted, .obj receipt =>
        compareChildren (memberChildren (compareMembers trusted) receipt path) findings
      | .arr trusted, .arr receipt =>
        compareChildren (itemChildren (compareItems trusted) receipt path) findings
      | _, _ => pushPlanFinding path findings
def compareMembers : List (String × Json) → List (String × Comparer)
  | [] => []
  | (key,value)::members =>
    (key,fun receipt path findings => comparePlanValue value receipt path findings)
      ::compareMembers members
def compareItems : List Json → List Comparer
  | [] => []
  | value::items =>
    (fun receipt path findings => comparePlanValue value receipt path findings)::compareItems items
end

def compareExecutionPlan (trusted receipt : ExecutionPlanV1)
    (findings : List VerificationFindingV1) : List VerificationFindingV1 :=
  comparePlanValue (toValue ExecutionPlanV1.codec trusted) (toValue ExecutionPlanV1.codec receipt)
    "" findings

def checkProducer (policy : VerificationPolicyV1_1) (producer : ProducerEvidence) :
    List VerificationFindingV1 :=
  let contract : ProducerContractV1_1 := ⟨producer.name,producer.version⟩
  if contract ∈ policy.revokedProducers then
    [⟨"policy.producer_revoked","producer",
      "receipt producer is explicitly revoked by trusted policy"⟩]
  else require (contract ∈ policy.supportedProducers) ⟨"policy.producer_unsupported","producer",
    "receipt producer is not supported by trusted policy"⟩

/-- The findings after the repository policy has been evaluated. -/
def trustedFindings (crates : Crates) (bytes : Bytes) (policy : VerificationPolicyV1_1)
    (trustedPlan : ExecutionPlanEnvelopeV1) (findings : List VerificationFindingV1) :
    List VerificationFindingV1 :=
  let findings := findings++require (trustedPlan.planDigest = policy.configurationDigest)
    ⟨"policy.trusted_config_digest","trusted_config",
      "trusted configuration does not reconstruct the policy execution-plan digest"⟩
  match fromSlice crates receiptV2.envelopeCodec bytes with
  | none => findings++[⟨"policy.receipt_schema","receipt.schema_version",
      "trusted-plan policy requires a strict receipt v2"⟩]
  | some envelope =>
    compareExecutionPlan trustedPlan.plan envelope.receipt.executionPlan findings++
      require (envelope.receipt.sourceSnapshot.strategy = policy.sourceSnapshotStrategy)
        ⟨"policy.source_snapshot_strategy","source_snapshot.strategy",
          "receipt source snapshot strategy is not accepted by trusted policy"⟩++
      checkProducer policy envelope.receipt.producer

def verifyTrustedPlanReceiptDocument (crates : Crates) (bytes : Bytes)
    (policy : VerificationPolicyV1_1) (trustedPlan : ExecutionPlanEnvelopeV1)
    (expectedCommit evaluatedAtUtc : String) : Outcome VerificationError VerificationReportV1 := do
  let report ← verifyReceiptDocument crates bytes policy.baseline expectedCommit evaluatedAtUtc
  let report := {report with assuranceScope := "integrity_and_trusted_plan_policy"}
  if report.integrityStatus ≠ .pass then return report
  return {report with
    findings := trustedFindings crates bytes policy trustedPlan report.findings}.finalize

end CommitCiPreflight
