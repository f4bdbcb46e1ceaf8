import CommitCiPreflight.ReceiptDigest
import CommitCiPreflight.Verify

/-! When a receipt document passes verification. -/
namespace CommitCiPreflight

open Outcome

/-- The document is a strict envelope of the version it declares. -/
inductive ParsesAs (crates : Crates) (bytes : Bytes) : VerifiedReceipt → Prop
  | v1 {document : Json} {envelope : ReceiptEnvelopeV1}
      (read : valueFromSlice crates bytes = some document)
      (version : schemaVersionOf document = some "1.0")
      (strict : fromSlice crates receiptV1.envelopeCodec bytes = some envelope) :
      ParsesAs crates bytes (.v1 envelope)
  | v2 {document : Json} {envelope : ReceiptEnvelopeV2}
      (read : valueFromSlice crates bytes = some document)
      (version : schemaVersionOf document = some "2.0")
      (strict : fromSlice crates receiptV2.envelopeCodec bytes = some envelope) :
      ParsesAs crates bytes (.v2 envelope)

/-- The receipt validates, and its id is the digest of the receipt. -/
def VerifiedReceipt.Genuine (crates : Crates) : VerifiedReceipt → Prop
  | .v1 envelope => envelope.receipt.validate = .ok () ∧
      envelope.receiptId = receiptV1.digest crates envelope.receipt
  | .v2 envelope => envelope.receipt.validate crates = .ok () ∧
      envelope.receiptId = receiptV2.digest crates envelope.receipt

/-- What the policy asks of a receipt apart from its age. -/
structure ContentsAgree (policy : VerificationPolicyV1) (expectedCommit : String)
    (receipt : ReceiptCommon) : Prop where
  repository : receipt.repository.repository = policy.project
  commit : receipt.repository.commitSha = expectedCommit
  clean : receipt.repository.dirty = false
  configuration : receipt.configurationDigest = policy.configurationDigest
  image : receipt.platform.imageReference = policy.imageReference
  platform : ⟨receipt.platform.hostOs,receipt.platform.hostArch,receipt.platform.runtimeKind⟩ ∈
    policy.platforms
  requiredSet : ∀ id,
    (∃ check ∈ receipt.checks, check.required ∧ check.id = id) ↔ id ∈ policy.requiredChecks
  requiredPass : ∀ check ∈ receipt.checks, check.required → check.status = .pass

structure MeetsPolicy (policy : VerificationPolicyV1) (expectedCommit : String) (evaluatedAt : ℤ)
    (receipt : ReceiptCommon) : Prop extends ContentsAgree policy expectedCommit receipt where
  fresh : ∃ finishedAt, parseUtcSeconds receipt.run.finishedAtUtc = .ok finishedAt ∧
    finishedAt ≤ evaluatedAt ∧ evaluatedAt ≤ finishedAt+policy.maxAgeSeconds.toNat

structure Acceptable (crates : Crates) (bytes : Bytes) (policy : VerificationPolicyV1)
    (expectedCommit : String) (evaluatedAt : ℤ) : Prop where
  bounded : bytes.length ≤ 4*1024*1024
  receipt : ∃ receipt, ParsesAs crates bytes receipt ∧ receipt.Genuine crates ∧
    MeetsPolicy policy expectedCommit evaluatedAt receipt.common

section Reading

variable {crates : Crates} {bytes : Bytes} {receipt : VerifiedReceipt}

theorem parseReceipt_eq_ok : parseReceipt crates bytes = .ok receipt ↔
    ParsesAs crates bytes receipt := by
  simp only [parseReceipt,bind_eq_ok,ofOption_eq_ok]
  constructor
  · rintro ⟨document,hread,version,hversion,h⟩
    split_ifs at h with h₁ h₂
    · obtain ⟨envelope,hstrict,rfl⟩ := Option.map_eq_some_iff.1 (ofOption_eq_ok.1 h)
      exact .v1 hread (h₁ ▸ hversion) hstrict
    · obtain ⟨envelope,hstrict,rfl⟩ := Option.map_eq_some_iff.1 (ofOption_eq_ok.1 h)
      exact .v2 hread (h₂ ▸ hversion) hstrict
  · rintro (⟨hread,hversion,hstrict⟩ | ⟨hread,hversion,hstrict⟩)
    · exact ⟨_,hread,_,hversion,by simp [hstrict]⟩
    · exact ⟨_,hread,_,hversion,by simp [hstrict]⟩

theorem VerifiedReceipt.verify_eq_ok :
    receipt.verify crates = .ok () ↔ receipt.Genuine crates := by
  cases receipt with
  | v1 envelope => exact ReceiptVersion.verify_eq_ok
  | v2 envelope => exact ReceiptVersion.verify_eq_ok

theorem readReceipt_eq_ok : readReceipt crates bytes = .ok receipt ↔
    bytes.length ≤ maxReceiptBytes ∧ ParsesAs crates bytes receipt ∧ receipt.Genuine crates := by
  simp only [readReceipt,bind_eq_ok,exists_unit,ensure_eq_ok,mapErr_eq_ok,
    VerifiedReceipt.verify_eq_ok,parseReceipt_eq_ok,pure_eq,ok.injEq]
  constructor
  · rintro ⟨hlength,_,hparses,hgenuine,rfl⟩
    exact ⟨hlength,hparses,hgenuine⟩
  · rintro ⟨hlength,hparses,hgenuine⟩
    exact ⟨hlength,_,hparses,hgenuine,rfl⟩

theorem VerifiedReceipt.verify_ne_panic (crates : Crates) (receipt : VerifiedReceipt) :
    receipt.verify crates ≠ .panic := by
  cases receipt with
  | v1 envelope =>
    exact bind_ne_panic (ReceiptCommon.validate_ne_panic _) fun _ _ => ensure_ne_panic _ _
  | v2 envelope =>
    exact bind_ne_panic (ReceiptV2.validate_ne_panic _ _) fun _ _ => ensure_ne_panic _ _

theorem readReceipt_ne_panic (crates : Crates) (bytes : Bytes) :
    readReceipt crates bytes ≠ .panic := by
  have hparse : parseReceipt crates bytes ≠ .panic := by
    simp only [parseReceipt,ne_eq,bind_eq_panic,ofOption_ne_panic,false_or]
    rintro ⟨document,-,version,-,h⟩
    split_ifs at h <;> simp_all
  simp [readReceipt,bind_eq_panic,hparse,VerifiedReceipt.verify_ne_panic]

theorem VerifiedReceipt.Genuine.common_validate (h : receipt.Genuine crates) :
    receipt.common.validate = .ok () := by
  cases receipt with
  | v1 envelope => exact h.1
  | v2 envelope => exact (ReceiptV2.validate_eq_ok.1 h.1).1

end Reading

@[simp] theorem require_eq_nil {condition : Prop} [Decidable condition]
    {finding : VerificationFindingV1} : require condition finding = [] ↔ condition := by
  simp [require]

theorem parseUtcSeconds_bounds {value : String} {seconds : ℤ}
    (h : parseUtcSeconds value = .ok seconds) : -10^12 < seconds ∧ seconds < 10^12 := by
  obtain ⟨t,ht,hrange,rfl⟩ := parseUtcSeconds_eq_ok.1 h
  obtain ⟨-,hlow,hhigh⟩ := civilDays_eq hrange (readCivil_year_lt ht)
  obtain ⟨-,-,hhour,hminute,hsecond⟩ := hrange
  rw [CivilTime.seconds]
  omega

theorem parseUtcSeconds_of_requireTimestamp {field value : String}
    (h : Receipt.requireTimestamp field value = .ok ()) :
    ∃ seconds, parseUtcSeconds value = .ok seconds := by
  simp only [Receipt.requireTimestamp,bind_eq_ok,exists_unit,mapErr_eq_ok,ensure_eq_ok] at h
  obtain ⟨-,t,ht,hrange⟩ := h
  exact ⟨t.seconds,parseUtcSeconds_eq_ok.2 ⟨t,ht,leapYear_eq_leap t.year ▸ hrange,rfl⟩⟩

theorem toInt_maxAge {seconds : UInt64} (h : seconds ≤ maxFreshnessSeconds) :
    seconds.toInt64.toInt = seconds.toNat := by
  have hle : seconds.toNat ≤ 31536000 := UInt64.le_iff_toNat_le.1 h
  exact BitVec.toInt_eq_toNat_of_lt (show 2*seconds.toNat < 2^64 by omega)

section Evaluating

variable {policy : VerificationPolicyV1} {expectedCommit evaluatedAtUtc : String} {evaluatedAt : ℤ}
  (htime : parseUtcSeconds evaluatedAtUtc = .ok evaluatedAt)
include htime

theorem checkFreshness_eq_ok (run : RunEvidence) (policy : VerificationPolicyV1) :
    ∃ findings, checkFreshness run policy evaluatedAt = .ok findings := by
  unfold checkFreshness
  have hevaluated := parseUtcSeconds_bounds htime
  cases hfinished : parseUtcSeconds run.finishedAtUtc with
  | ok finishedAt =>
    have hbounds := parseUtcSeconds_bounds hfinished
    dsimp only
    split_ifs
    · exact ⟨_,rfl⟩
    · rw [i64_eq_ok (by omega) (by omega),ok_bind]
      exact ⟨_,rfl⟩
  | err _ => exact ⟨_,rfl⟩
  | panic => exact absurd hfinished (parseUtcSeconds_ne_panic _)

theorem checkFreshness_eq_nil (run : RunEvidence)
    (hage : policy.maxAgeSeconds ≤ maxFreshnessSeconds) :
    checkFreshness run policy evaluatedAt = .ok [] ↔
      ∃ finishedAt, parseUtcSeconds run.finishedAtUtc = .ok finishedAt ∧
        finishedAt ≤ evaluatedAt ∧ evaluatedAt ≤ finishedAt+policy.maxAgeSeconds.toNat := by
  unfold checkFreshness
  have hevaluated := parseUtcSeconds_bounds htime
  cases hfinished : parseUtcSeconds run.finishedAtUtc with
  | ok finishedAt =>
    have hbounds := parseUtcSeconds_bounds hfinished
    simp only [ok.injEq,exists_eq_left']
    split_ifs with hfuture
    · simp only [ok.injEq,reduceCtorEq,false_iff]
      omega
    · rw [i64_eq_ok (by omega) (by omega),ok_bind,toInt_maxAge hage,pure_eq,ok.injEq,
        require_eq_nil]
      omega
  | err _ => simp
  | panic => simp

end Evaluating

theorem platform_mem_iff {platforms : List AcceptedPlatformV1} {p : PlatformEvidence} :
    (∃ accepted ∈ platforms, accepted.hostOs = p.hostOs ∧ accepted.hostArch = p.hostArch ∧
      accepted.runtimeKind = p.runtimeKind) ↔ ⟨p.hostOs,p.hostArch,p.runtimeKind⟩ ∈ platforms := by
  constructor
  · rintro ⟨accepted,hmem,hos,harch,hkind⟩
    rwa [← hos,← harch,← hkind]
  · intro hmem
    exact ⟨_,hmem,rfl,rfl,rfl⟩

theorem requiredSet_iff {checks : List CheckEvidence} {ids : List String} :
    OrderedSet.ofList ((checks.filter (·.required)).map (·.id)) = OrderedSet.ofList ids ↔
      ∀ id, (∃ check ∈ checks, check.required ∧ check.id = id) ↔ id ∈ ids := by
  rw [OrderedSet.ofList_eq_iff]
  simp [and_assoc]

/-- The findings about the contents of a valid receipt. Its overall status follows from the
required checks, and as ids are distinct a check with a required id is the required one. -/
theorem checkContents_eq_nil {receipt : VerifiedReceipt} {policy : VerificationPolicyV1}
    {expectedCommit : String} (hchecks : receipt.common.ChecksValid) :
    checkContents receipt.view policy expectedCommit = [] ↔
      ContentsAgree policy expectedCommit receipt.common := by
  have hoverall : receipt.common.overallStatus = .pass ↔
      ∀ check ∈ receipt.common.checks, check.required → check.status = .pass := by
    rw [hchecks.overall,deriveOverallStatus_eq_pass,requiredStatuses,List.forall_mem_map]
    simp
  simp only [checkContents,List.append_eq_nil_iff,require_eq_nil]
  simp only [VerifiedReceipt.view,platform_mem_iff,requiredSet_iff,hoverall,
    OrderedSet.mem_ofList,and_assoc]
  constructor
  · rintro ⟨hrepository,hcommit,hclean,hconfiguration,himage,hplatform,hpass,hset,-⟩
    exact ⟨hrepository,hcommit,hclean,hconfiguration,himage,hplatform,hset,hpass⟩
  · rintro ⟨hrepository,hcommit,hclean,hconfiguration,himage,hplatform,hset,hpass⟩
    refine ⟨hrepository,hcommit,hclean,hconfiguration,himage,hplatform,hpass,hset,?_⟩
    rintro ⟨check,hmem,hid,hstatus⟩
    obtain ⟨other,hother,hrequired,hsame⟩ := (hset check.id).2 hid
    have heq : other = check := List.inj_on_of_nodup_map hchecks.nodup hother hmem hsame
    exact hstatus (heq ▸ hpass other hother hrequired)

section Policies

open Policy

@[simp] theorem validateName_ne_panic (field value : String) : validateName field value ≠ .panic :=
  ensure_ne_panic _ _

@[simp] theorem validateDigest_ne_panic (value : String) : validateDigest value ≠ .panic := by
  simp [validateDigest,bind_eq_panic]

theorem fold_collectDistinct_ne_panic {α κ : Type} [DecidableEq κ] (field : String) (key : α → κ)
    {validate : α → Outcome PolicyError Unit} (h : ∀ item, validate item ≠ .panic) (seen : List κ)
    (items : List α) : fold (collectDistinct field key validate) seen items ≠ .panic :=
  fold_ne_panic_of_step (fun _ item => by simp [collectDistinct,bind_eq_panic,h item]) _ _

theorem VerificationPolicyV1.validate_ne_panic (policy : VerificationPolicyV1) :
    policy.validate ≠ .panic := by
  have hchecks := fold_collectDistinct_ne_panic "required_checks" id
    (validateName_ne_panic "required_checks") [] policy.requiredChecks
  have hplatforms := fold_collectDistinct_ne_panic "platforms" id
    (fun platform => show validatePlatform platform ≠ .panic by
      simp [validatePlatform,bind_eq_panic]) [] policy.platforms
  simp [VerificationPolicyV1.validate,validateProject,Policy.validateImageReference,bind_eq_panic,
    hchecks,hplatforms]

theorem VerificationPolicyV1.maxAge_le {policy : VerificationPolicyV1}
    (h : policy.validate = .ok ()) : policy.maxAgeSeconds ≤ maxFreshnessSeconds := by
  simp only [VerificationPolicyV1.validate,bind_eq_ok,exists_unit,ensure_eq_ok] at h
  exact h.2.2.2.2.1.2

theorem validateDigest_canonicalDigest (crates : Crates) (v : Json) :
    validateDigest (canonicalDigest crates v) = .ok () := by
  have h := validateSha256_canonicalDigest crates "" v
  simp only [Receipt.validateSha256,validateDigest,bind_eq_ok,ofOption_eq_ok,ensure_eq_ok] at h ⊢
  exact h

theorem VerificationPolicyV1.validate_setDigest {policy : VerificationPolicyV1} {digest : String}
    (hdigest : validateDigest digest = .ok ()) (h : policy.validate = .ok ()) :
    {policy with configurationDigest := digest}.validate = .ok () := by
  simp only [VerificationPolicyV1.validate,bind_eq_ok,exists_unit] at h ⊢
  obtain ⟨hschema,hproject,-,hrest⟩ := h
  exact ⟨hschema,hproject,hdigest,hrest⟩

end Policies

end CommitCiPreflight
