import CommitCiPreflight.Receipt

/-! What an accepted receipt guarantees. -/
namespace CommitCiPreflight

open Outcome Receipt

section Total

@[simp] theorem requireText_ne_panic (field value : String) :
    requireText field value ≠ .panic := by
  simp [requireText,bind_eq_panic]

@[simp] theorem validateSha256_ne_panic (field value : String) :
    validateSha256 field value ≠ .panic := by
  simp [validateSha256,bind_eq_panic]

@[simp] theorem requireTimestamp_ne_panic (field value : String) :
    requireTimestamp field value ≠ .panic := by
  simp [requireTimestamp,bind_eq_panic,readCivil_ne_panic]

@[simp] theorem validateIncompleteReason_ne_panic (field : String) (status : EvidenceStatus)
    (reason : Option String) : validateIncompleteReason field status reason ≠ .panic := by
  by_cases h : incomplete status <;> simp [validateIncompleteReason,h]

@[simp] theorem CheckEvidence.validate_ne_panic (check : CheckEvidence) :
    check.validate ≠ .panic := by
  have hdigest : each (validateSha256 "check.output_digest") check.outputDigest.toList ≠ .panic :=
    each_ne_panic fun digest _ => validateSha256_ne_panic _ digest
  simp [CheckEvidence.validate,Receipt.validateRelativePath,bind_eq_panic,hdigest]

@[simp] theorem ReceiptCommon.validate_ne_panic (receipt : ReceiptCommon) :
    receipt.validate ≠ .panic := by
  have hfields : receipt.validateFields ≠ .panic := by
    simp [ReceiptCommon.validateFields,Receipt.validateRepositoryIdentity,validateCommitSha,
      bind_eq_panic]
  have hloop : fold collectEvidence (.empty,[]) receipt.checks ≠ .panic :=
    fold_ne_panic_of_step (fun state check => by simp [collectEvidence,bind_eq_panic]) _ _
  simp [ReceiptCommon.validate,ReceiptCommon.validateChecks,bind_eq_panic,hfields,hloop]

@[simp] theorem ReceiptV2.validate_ne_panic (crates : Crates) (receipt : ReceiptV2) :
    receipt.validate crates ≠ .panic := by
  have hsnapshot : receipt.sourceSnapshot.validate ≠ .panic := by
    simp [SourceSnapshotEvidence.validate,bind_eq_panic]
  have hruntime : receipt.validateRuntimeCapabilityEvidence ≠ .panic := by
    by_cases h : receipt.executionPlan.schemaVersion = "1.3" <;>
      simp [ReceiptV2.validateRuntimeCapabilityEvidence,bind_eq_panic,h]
  have hloop : each (findPlanned receipt.checks) receipt.executionPlan.checks ≠ .panic :=
    each_ne_panic fun planned _ => by simp [findPlanned,bind_eq_panic]
  have hartifacts : receipt.validateArtifactManifest ≠ .panic := by
    have hfold : fold (observeArtifact (plannedArtifacts receipt.executionPlan.checks)) .empty
        receipt.artifactManifest ≠ .panic :=
      fold_ne_panic_of_step (fun observed artifact => by simp [observeArtifact,bind_eq_panic]) _ _
    simp [ReceiptV2.validateArtifactManifest,bind_eq_panic,hfold]
  simp [ReceiptV2.validate,bind_eq_panic,hsnapshot,hruntime,hloop,hartifacts]

end Total

def requiredStatuses (checks : List CheckEvidence) : List EvidenceStatus :=
  (checks.filter (·.required)).map (·.status)

def recordEvidence (state : OrderedSet String × List EvidenceStatus) (check : CheckEvidence) :
    OrderedSet String × List EvidenceStatus :=
  (state.1.insert check.id,if check.required then state.2++[check.status] else state.2)

theorem collectEvidence_eq_ok (state : OrderedSet String × List EvidenceStatus)
    (check : CheckEvidence) (state' : OrderedSet String × List EvidenceStatus) :
    collectEvidence state check = .ok state' ↔
      check.validate = .ok () ∧ check.id ∉ state.1 ∧ state' = recordEvidence state check := by
  simp only [collectEvidence,recordEvidence,bind_eq_ok,exists_unit,ensure_eq_ok,pure_eq,ok.injEq,
    @eq_comm _ _ state']

theorem foldl_recordEvidence_statuses (checks : List CheckEvidence)
    (state : OrderedSet String × List EvidenceStatus) :
    (checks.foldl recordEvidence state).2 = state.2++requiredStatuses checks := by
  induction checks generalizing state with
  | nil => simp [requiredStatuses]
  | cons check checks ih =>
    rw [List.foldl_cons,ih]
    cases h : check.required <;> simp [recordEvidence,requiredStatuses,h]

theorem fold_collectEvidence_eq_ok {checks : List CheckEvidence}
    {state' : OrderedSet String × List EvidenceStatus} :
    fold collectEvidence (.empty,[]) checks = .ok state' ↔
      (∀ check ∈ checks, check.validate = .ok ()) ∧ (checks.map (·.id)).Nodup ∧
        state' = checks.foldl recordEvidence (.empty,[]) := by
  have hfree : ∀ (state : OrderedSet String × List EvidenceStatus) (check x : CheckEvidence),
      x.id ∉ (recordEvidence state check).1 ↔ ¬ x.id = check.id ∧ x.id ∉ state.1 :=
    fun state check x => OrderedSet.notMem_insert _ _ _
  rw [fold_eq_ok_iff collectEvidence_eq_ok hfree,pairwise_ne_of_clash]
  simp

/-- What the second half of the common validation accepts. -/
structure ReceiptCommon.ChecksValid (receipt : ReceiptCommon) : Prop where
  valid : ∀ check ∈ receipt.checks, check.validate = .ok ()
  nodup : (receipt.checks.map (·.id)).Nodup
  required : requiredStatuses receipt.checks ≠ []
  overall : receipt.overallStatus = deriveOverallStatus (requiredStatuses receipt.checks)
  reason : validateIncompleteReason "receipt.incomplete_reason" receipt.overallStatus
    receipt.incompleteReason = .ok ()

variable {receipt : ReceiptCommon}

theorem ReceiptCommon.validateChecks_eq_ok :
    receipt.validateChecks = .ok () ↔ receipt.ChecksValid := by
  have hstatuses := foldl_recordEvidence_statuses receipt.checks (.empty,[])
  rw [List.nil_append] at hstatuses
  simp only [ReceiptCommon.validateChecks,bind_eq_ok,exists_unit,ensure_eq_ok,
    fold_collectEvidence_eq_ok]
  constructor
  · rintro ⟨-,state,⟨hvalid,hnodup,rfl⟩,hrequired,hoverall,hreason⟩
    rw [hstatuses] at hrequired hoverall
    exact ⟨hvalid,hnodup,hrequired,hoverall,hreason⟩
  · rintro ⟨hvalid,hnodup,hrequired,hoverall,hreason⟩
    refine ⟨?_,_,⟨hvalid,hnodup,rfl⟩,by rwa [hstatuses],by rwa [hstatuses],hreason⟩
    intro hnil
    exact hrequired (by rw [hnil]; rfl)

theorem ReceiptCommon.validate_eq_ok :
    receipt.validate = .ok () ↔ receipt.validateFields = .ok () ∧ receipt.ChecksValid := by
  simp only [ReceiptCommon.validate,bind_eq_ok,exists_unit,ReceiptCommon.validateChecks_eq_ok]

theorem ReceiptCommon.schemaVersion_of_validate (h : receipt.validate = .ok ()) :
    receipt.schemaVersion = receipt.expectedSchemaVersion := by
  have hfields := (ReceiptCommon.validate_eq_ok.1 h).1
  simp only [ReceiptCommon.validateFields,bind_eq_ok,exists_unit,ensure_eq_ok] at hfields
  exact hfields.1

theorem ReceiptV2.validate_eq_ok {crates : Crates} {receipt : ReceiptV2} :
    receipt.validate crates = .ok () ↔
      receipt.common.validate = .ok () ∧ receipt.sourceSnapshot.validate = .ok () ∧
      receipt.configurationDigest = receipt.executionPlan.digest crates ∧
      receipt.validateRuntimeCapabilityEvidence = .ok () ∧
      receipt.executionPlan.checks.length = receipt.checks.length ∧
      (∀ planned ∈ receipt.executionPlan.checks, findPlanned receipt.checks planned = .ok ()) ∧
      receipt.validateArtifactManifest = .ok () := by
  simp only [ReceiptV2.validate,bind_eq_ok,exists_unit,ensure_eq_ok,each_eq_ok]

theorem deriveOverallStatus_eq_pass {statuses : List EvidenceStatus} :
    deriveOverallStatus statuses = .pass ↔ ∀ status ∈ statuses, status = .pass := by
  unfold deriveOverallStatus
  split_ifs with hfail hincomplete
  · simp only [false_iff,not_forall]
    exact ⟨.fail,hfail,by decide⟩
  · obtain ⟨status,hmem,hstatus⟩ := hincomplete
    simp only [false_iff,not_forall]
    refine ⟨status,hmem,?_⟩
    rintro rfl
    exact absurd hstatus (by decide)
  · simp only [true_iff]
    intro status hmem
    cases status with
    | pass => rfl
    | fail => exact absurd hmem hfail
    | pending => exact absurd ⟨_,hmem,.inl rfl⟩ hincomplete
    | notRun => exact absurd ⟨_,hmem,.inr rfl⟩ hincomplete

theorem ReceiptCommon.validateFields_set {digest : String}
    (hdigest : validateSha256 "configuration_digest" digest = .ok ()) (version : String)
    (checks : List CheckEvidence) (h : receipt.validateFields = .ok ()) :
    {receipt with
      expectedSchemaVersion := version, schemaVersion := version, configurationDigest := digest,
      checks := checks}.validateFields = .ok () := by
  simp only [ReceiptCommon.validateFields,bind_eq_ok,exists_unit] at h ⊢
  obtain ⟨-,h₂,h₃,h₄,h₅,h₆,h₇,h₈,h₉,h₁₀,h₁₁,h₁₂,h₁₃,h₁₄,h₁₅,h₁₆,-,h₁₈⟩ := h
  exact ⟨ensure_eq_ok.2 trivial,h₂,h₃,h₄,h₅,h₆,h₇,h₈,h₉,h₁₀,h₁₁,h₁₂,h₁₃,h₁₄,h₁₅,h₁₆,hdigest,h₁₈⟩

theorem validateSha256_canonicalDigest (crates : Crates) (field : String) (v : Json) :
    validateSha256 field (canonicalDigest crates v) = .ok () := by
  have hhex := bytes_encodeHex (crates.sha256 (canonicalJson crates v)).toList
  rw [Text.length_bytes,List.Vector.toList_length] at hhex
  simp only [validateSha256,bind_eq_ok,ofOption_eq_ok,ensure_eq_ok]
  refine ⟨_,Text.stripPrefix_eq_some.2 String.toList_append,hhex.1,?_⟩
  exact List.all_eq_true.2 hhex.2

def sampleDigest : String :=
  "sha256:aaaaaaaaaaaaaaaaaaaaaaaaaaaaaaaaaaaaaaaaaaaaaaaaaaaaaaaaaaaaaaaa"

def sampleImage : String :=
  "ghcr.io/example/ci@sha256:aaaaaaaaaaaaaaaaaaaaaaaaaaaaaaaaaaaaaaaaaaaaaaaaaaaaaaaaaaaaaaaa"

def CheckEvidence.sample (id : String) : CheckEvidence :=
  ⟨id,true,["cargo","test"],".",.pass,some 0,1200,false,false,none,none⟩

def ReceiptV1.sample : ReceiptV1 where
  schemaVersion := "1.0"
  producer := ⟨"commit-ci-preflight","0.1.0"⟩
  repository := ⟨"example/project","0123456789abcdef0123456789abcdef01234567",false⟩
  run := ⟨"run-1",1,"2026-08-29T10:00:00Z","2026-08-29T10:05:00Z"⟩
  platform := ⟨"linux","x86_64","docker_compatible","29.4.0",sampleImage,sampleDigest⟩
  configurationDigest := sampleDigest
  checks := [.sample "fmt",.sample "test"]
  overallStatus := .pass
  incompleteReason := none
  redactionPolicyVersion := "1.0"

theorem ReceiptV1.sample_validateFields : sample.common.validateFields = .ok () := by
  decide +kernel

def NormalizedCheck.sample (id : String) : NormalizedCheck :=
  ⟨id,true,["cargo","test"],".",300,[],[],[]⟩

def ExecutionPlanV1.sample (image : String) (ids : List String) : ExecutionPlanV1 where
  schemaVersion := "1.0"
  project := "example/project"
  runtime := ⟨.dockerCompatible,image,4,4096,512,false,none,none⟩
  receipt := ⟨".ccp/receipt.json",86400⟩
  environment := ⟨[],[],[],[]⟩
  caches := []
  storage := none
  checks := ids.map .sample

def ReceiptV2.sample (crates : Crates) (plan : ExecutionPlanV1) (ids : List String) :
    ReceiptV2 where
  schemaVersion := "2.0"
  producer := ReceiptV1.sample.producer
  repository := ReceiptV1.sample.repository
  run := ReceiptV1.sample.run
  sourceSnapshot := ⟨"1.0",.gitObject,sampleDigest,3⟩
  platform := ReceiptV1.sample.platform
  configurationDigest := plan.digest crates
  executionPlan := plan
  runtimeCapabilityEvidence := none
  artifactManifest := []
  checks := ids.map .sample
  overallStatus := .pass
  incompleteReason := none
  redactionPolicyVersion := "1.0"

section Sample

variable {crates : Crates} {plan : ExecutionPlanV1} {ids : List String}

theorem ReceiptV2.sample_common :
    (sample crates plan ids).common = {ReceiptV1.sample.common with
      expectedSchemaVersion := "2.0"
      schemaVersion := "2.0"
      configurationDigest := plan.digest crates
      checks := ids.map .sample} := rfl

theorem ReceiptV2.sample_validateFields :
    (sample crates plan ids).common.validateFields = .ok () := by
  rw [ReceiptV2.sample_common]
  exact ReceiptCommon.validateFields_set (validateSha256_canonicalDigest crates _ _) _ _
    ReceiptV1.sample_validateFields

theorem ReceiptV2.sample_validateChecks :
    (sample crates plan ids).common.validateChecks =
      {ReceiptV1.sample.common with checks := ids.map .sample}.validateChecks := rfl

theorem ReceiptV2.sample_validate
    (hchecks : {ReceiptV1.sample.common with checks := ids.map .sample}.validateChecks = .ok ())
    (hversion : (sample crates plan ids).validateRuntimeCapabilityEvidence = .ok ())
    (hlength : plan.checks.length = ids.length)
    (hplanned : ∀ check ∈ plan.checks, findPlanned (ids.map .sample) check = .ok ())
    (hartifacts : (sample crates plan ids).validateArtifactManifest = .ok ()) :
    (sample crates plan ids).validate crates = .ok () := by
  have hsnapshot : (⟨"1.0",.gitObject,sampleDigest,3⟩ : SourceSnapshotEvidence).validate =
      .ok () := by decide +kernel
  refine ReceiptV2.validate_eq_ok.2 ⟨?_,hsnapshot,rfl,hversion,?_,hplanned,hartifacts⟩
  · rw [ReceiptCommon.validate,sample_validateFields,ok_bind,sample_validateChecks,hchecks]
  · simpa [ReceiptV2.sample] using hlength

end Sample

end CommitCiPreflight
