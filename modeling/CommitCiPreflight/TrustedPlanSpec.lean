import CommitCiPreflight.ConfigOrder
import CommitCiPreflight.PlanComparison
import CommitCiPreflight.VerifyDecision

/-! Trusted-plan verification passes exactly when the repository policy passes and the
receipt is a V2 receipt for the trusted plan. -/
namespace CommitCiPreflight

open Outcome

variable {v : Json} {crates : Crates} {bytes : Bytes} {image : String}

theorem ReceiptVersion.envelopeCodec_decode {ρ : Type} {version : ReceiptVersion ρ}
    {envelope : ReceiptEnvelope ρ} (h : version.envelopeCodec.decode v = some envelope) :
    ∃ members receipt, Members.ofJson ["receipt_id","receipt"] v = some members ∧
      lookupEntry "receipt" members.entries = some receipt ∧
      version.codec.decode receipt = some envelope.receipt := by
  obtain ⟨members,hmembers,hread⟩ := Option.bind_eq_some_iff.1 h
  obtain ⟨build,hid,hbuild⟩ := Option.bind_eq_some_iff.1 hread
  obtain ⟨id,-,rfl⟩ := Option.map_eq_some_iff.1 hid
  obtain ⟨receipt,htake,rfl⟩ := Option.map_eq_some_iff.1 hbuild
  obtain ⟨v,hlookup,hdecode⟩ := Field.take_required htake
  exact ⟨members,v,hmembers,hlookup,hdecode⟩

/-- A V2 receipt has a snapshot, which no V1 receipt has, and more fields than a V1 receipt. -/
theorem receipt_versions_disjoint {receipt : ReceiptV1} {receipt' : ReceiptV2}
    (h : ReceiptV1.codec.decode v = some receipt) (h' : ReceiptV2.codec.decode v = some receipt') :
    False := by
  obtain ⟨members,hmembers,-⟩ := Option.bind_eq_some_iff.1 h
  obtain ⟨members',hmembers',hread⟩ := Option.bind_eq_some_iff.1 h'
  have hsnapshot : "source_snapshot" ∈ members'.entries.map Prod.fst := by
    refine (show Fields.Needs _ "source_snapshot" from ?_) _ _ hread
    iterate 9 apply Fields.Needs.add
    exact Fields.needs_required _ _ _ _
  have hpolicy : "redaction_policy_version" ∈ members'.entries.map Prod.fst :=
    Fields.needs_required _ _ _ _ _ _ hread
  cases v with
  | obj entries =>
    rw [(Members.ofJson_obj hmembers').2] at hsnapshot
    exact absurd ((Members.ofJson_obj hmembers).1 _ hsnapshot) (by decide)
  | arr items =>
    have hlength : items.length ≤ 10 := (Members.ofJson_arr hmembers).1
    rw [(Members.ofJson_arr hmembers').2] at hpolicy
    exact absurd ((List.take_subset_take_left _ hlength) hpolicy) (by decide)
  | _ => simp [Members.ofJson] at hmembers

theorem envelope_versions_disjoint {envelope : ReceiptEnvelopeV1} {envelope' : ReceiptEnvelopeV2}
    (h : receiptV1.envelopeCodec.decode v = some envelope)
    (h' : receiptV2.envelopeCodec.decode v = some envelope') : False := by
  obtain ⟨members,receipt,hmembers,hreceipt,hdecode⟩ := ReceiptVersion.envelopeCodec_decode h
  obtain ⟨members',receipt',hmembers',hreceipt',hdecode'⟩ := ReceiptVersion.envelopeCodec_decode h'
  obtain rfl := Option.some.inj (hmembers.symm.trans hmembers')
  obtain rfl := Option.some.inj (hreceipt.symm.trans hreceipt')
  exact receipt_versions_disjoint hdecode hdecode'

theorem ParsesAs.strict_v2 {envelope : ReceiptEnvelopeV2}
    (h : ParsesAs crates bytes (.v2 envelope)) :
    fromSlice crates receiptV2.envelopeCodec bytes = some envelope := by
  cases h with
  | v2 _ _ hstrict => exact hstrict

theorem ParsesAs.eq_v2 {receipt : VerifiedReceipt} {envelope : ReceiptEnvelopeV2}
    (h : ParsesAs crates bytes receipt)
    (hstrict : fromSlice crates receiptV2.envelopeCodec bytes = some envelope) :
    receipt = .v2 envelope := by
  obtain ⟨document,hdocument,hdecode⟩ := Option.bind_eq_some_iff.1 hstrict
  cases h with
  | v1 _ _ hstrict₁ =>
    obtain ⟨document₁,hdocument₁,hdecode₁⟩ := Option.bind_eq_some_iff.1 hstrict₁
    obtain rfl := Option.some.inj (hdocument.symm.trans hdocument₁)
    exact (envelope_versions_disjoint hdecode₁ hdecode).elim
  | v2 _ _ hstrict₂ => rw [Option.some.inj (hstrict₂.symm.trans hstrict)]

/-- What the trusted-plan policy asks of a V2 receipt. -/
structure TrustedReceipt (crates : Crates) (policy : VerificationPolicyV1_1)
    (trusted : ExecutionPlanV1) (receipt : ReceiptV2) : Prop where
  plan : receipt.executionPlan = trusted
  trustedDigest : trusted.digest crates = policy.configurationDigest
  receiptDigest : receipt.configurationDigest = policy.configurationDigest
  strategy : receipt.sourceSnapshot.strategy = policy.sourceSnapshotStrategy
  supported : ⟨receipt.producer.name,receipt.producer.version⟩ ∈ policy.supportedProducers
  notRevoked : ⟨receipt.producer.name,receipt.producer.version⟩ ∉ policy.revokedProducers

theorem checkProducer_eq_nil {policy : VerificationPolicyV1_1} {producer : ProducerEvidence} :
    checkProducer policy producer = [] ↔
      ⟨producer.name,producer.version⟩ ∈ policy.supportedProducers ∧
      ⟨producer.name,producer.version⟩ ∉ policy.revokedProducers := by
  simp only [checkProducer]
  split_ifs with hrevoked
  · simp [hrevoked]
  · simp [hrevoked]

theorem trustedFindings_eq_nil {policy : VerificationPolicyV1_1}
    {trustedPlan : ExecutionPlanEnvelopeV1} {findings : List VerificationFindingV1} :
    trustedFindings crates bytes policy trustedPlan findings = [] ↔
      findings = [] ∧ trustedPlan.planDigest = policy.configurationDigest ∧
      ∃ envelope, fromSlice crates receiptV2.envelopeCodec bytes = some envelope ∧
        envelope.receipt.executionPlan = trustedPlan.plan ∧
        envelope.receipt.sourceSnapshot.strategy = policy.sourceSnapshotStrategy ∧
        checkProducer policy envelope.receipt.producer = [] := by
  cases hstrict : fromSlice crates receiptV2.envelopeCodec bytes with
  | none => simp [trustedFindings,hstrict]
  | some envelope =>
    simp only [trustedFindings,hstrict,List.append_eq_nil_iff,require_eq_nil,
      compareExecutionPlan_eq_nil,Option.some.injEq,exists_eq_left',and_assoc]

section Decision

variable {crates : Crates} {bytes : Bytes} {policy : VerificationPolicyV1_1}
  {trusted : ExecutionPlanEnvelopeV1} {expectedCommit evaluatedAtUtc : String}
  {report : VerificationReportV1}

theorem verifyReceiptDocument_judged_of_ok {policy : VerificationPolicyV1}
    (h : verifyReceiptDocument crates bytes policy expectedCommit evaluatedAtUtc = .ok report) :
    ∃ evaluatedAt, Judged crates bytes policy expectedCommit evaluatedAt report := by
  have hinputs := h
  simp only [verifyReceiptDocument,bind_eq_ok,exists_unit,mapErr_eq_ok] at hinputs
  obtain ⟨hpolicy,hcommit,evaluatedAt,htime,-⟩ := hinputs
  obtain ⟨report',hreport,hjudged⟩ :=
    verifyReceiptDocument_judged crates bytes hpolicy hcommit htime
  rw [h,ok.injEq] at hreport
  exact ⟨evaluatedAt,hreport ▸ hjudged⟩

/-- A report that passes is about a receipt that meets the policy. -/
theorem Judged.of_pass {policy : VerificationPolicyV1} {evaluatedAt : ℤ}
    (h : Judged crates bytes policy expectedCommit evaluatedAt report)
    (hpass : report.decision = .pass) :
    ∃ receipt, ParsesAs crates bytes receipt ∧ report.findings = [] ∧
      MeetsPolicy policy expectedCommit evaluatedAt receipt.common := by
  cases h with
  | unread _ _ hdecision _ => simp [hdecision] at hpass
  | read hread _ _ hdecision hfindings =>
    have hnil := hdecision.1 hpass
    exact ⟨_,(readReceipt_eq_ok.1 hread).2.1,hnil,hfindings.1 hnil⟩

theorem verifyTrustedPlanReceiptDocument_decision
    (h : verifyReceiptDocument crates bytes policy.baseline expectedCommit evaluatedAtUtc =
      .ok report) :
    ∃ report', verifyTrustedPlanReceiptDocument crates bytes policy trusted expectedCommit
        evaluatedAtUtc = .ok report' ∧
      (report'.decision = .pass ↔ report.decision = .pass ∧
        trustedFindings crates bytes policy trusted report.findings = []) := by
  obtain ⟨evaluatedAt,hjudged⟩ := verifyReceiptDocument_judged_of_ok h
  rw [verifyTrustedPlanReceiptDocument,h,ok_bind]
  cases hjudged with
  | unread _ hintegrity hdecision _ =>
    exact ⟨_,if_pos (by simp [hintegrity]),by simp [hdecision]⟩
  | read _ hintegrity hstatus hdecision _ =>
    have hfinal := VerificationReportV1.finalize_eq_pass
      {report with
        assuranceScope := "integrity_and_trusted_plan_policy"
        findings := trustedFindings crates bytes policy trusted report.findings} hintegrity
      fun hnil => hstatus.2 (trustedFindings_eq_nil.1 hnil).1
    refine ⟨_,if_neg (by simp [hintegrity]),hfinal.2.trans ?_⟩
    rw [hdecision]
    exact ⟨fun hnil => ⟨(trustedFindings_eq_nil.1 hnil).1,hnil⟩,And.right⟩

theorem verifyTrustedPlanReceiptDocument_of_pass
    (h : verifyTrustedPlanReceiptDocument crates bytes policy trusted expectedCommit
      evaluatedAtUtc = .ok report) (hpass : report.decision = .pass) :
    ∃ base, verifyReceiptDocument crates bytes policy.baseline expectedCommit evaluatedAtUtc =
        .ok base ∧ base.decision = .pass ∧
      trustedFindings crates bytes policy trusted base.findings = [] ∧
      ∃ envelope evaluatedAt, ParsesAs crates bytes (.v2 envelope) ∧
        MeetsPolicy policy.baseline expectedCommit evaluatedAt envelope.receipt.common := by
  have hbaseline := h
  rw [verifyTrustedPlanReceiptDocument,bind_eq_ok] at hbaseline
  obtain ⟨base,hbase,-⟩ := hbaseline
  obtain ⟨report',hreport',hdecision⟩ := verifyTrustedPlanReceiptDocument_decision hbase
  obtain rfl := Outcome.ok.inj (h.symm.trans hreport')
  obtain ⟨hbasePass,hnil⟩ := hdecision.1 hpass
  obtain ⟨-,-,envelope,hstrict,-⟩ := trustedFindings_eq_nil.1 hnil
  obtain ⟨evaluatedAt,hjudged⟩ := verifyReceiptDocument_judged_of_ok hbase
  obtain ⟨receipt,hparses,-,hmeets⟩ := hjudged.of_pass hbasePass
  obtain rfl := hparses.eq_v2 hstrict
  exact ⟨base,hbase,hbasePass,hnil,envelope,evaluatedAt,hparses,hmeets⟩

theorem verifyTrustedPlanReceiptDocument_pass {base : VerificationReportV1}
    {envelope : ReceiptEnvelopeV2} (hdigest : trusted.planDigest = trusted.plan.digest crates)
    (hparses : ParsesAs crates bytes (.v2 envelope))
    (hreceipt : TrustedReceipt crates policy trusted.plan envelope.receipt)
    (hbase : verifyReceiptDocument crates bytes policy.baseline expectedCommit evaluatedAtUtc =
      .ok base) (hbasePass : base.decision = .pass) :
    ∃ report, verifyTrustedPlanReceiptDocument crates bytes policy trusted expectedCommit
      evaluatedAtUtc = .ok report ∧ report.decision = .pass := by
  obtain ⟨report,hreport,hdecision⟩ := verifyTrustedPlanReceiptDocument_decision hbase
  obtain ⟨_,hjudged⟩ := verifyReceiptDocument_judged_of_ok hbase
  obtain ⟨-,-,hnil,-⟩ := hjudged.of_pass hbasePass
  exact ⟨report,hreport,hdecision.2 ⟨hbasePass,trustedFindings_eq_nil.2 ⟨hnil,
    hdigest.trans hreceipt.trustedDigest,envelope,hparses.strict_v2,hreceipt.plan,
    hreceipt.strategy,checkProducer_eq_nil.2 ⟨hreceipt.supported,hreceipt.notRevoked⟩⟩⟩⟩

end Decision

/-- Trusted-plan verification passes exactly the V2 receipts for the trusted plan that the
repository policy passes. -/
theorem verifyTrustedPlanReceiptDocument_pass_iff (crates : Crates)
    (policy : VerificationPolicyV1_1) (config : ConfigV1) (trusted : ExecutionPlanEnvelopeV1)
    (bytes : Bytes) (expectedCommit evaluatedAtUtc : String) :
    policy.validate = .ok () → config.intoPlan crates = .ok trusted →
    ((∃ report, verifyTrustedPlanReceiptDocument crates bytes policy trusted expectedCommit
        evaluatedAtUtc = .ok report ∧ report.decision = .pass) ↔
      (∃ envelope, ParsesAs crates bytes (.v2 envelope) ∧
        TrustedReceipt crates policy trusted.plan envelope.receipt) ∧
      ∃ report, verifyReceiptDocument crates bytes policy.baseline expectedCommit
        evaluatedAtUtc = .ok report ∧ report.decision = .pass) := by
  intro _ htrusted
  have hdigest := (ConfigV1.intoPlan_eq_ok.1 htrusted).digest
  constructor
  · rintro ⟨report,hreport,hpass⟩
    obtain ⟨base,hbase,hbasePass,hnil,envelope,_,hparses,hmeets⟩ :=
      verifyTrustedPlanReceiptDocument_of_pass hreport hpass
    obtain ⟨-,hpolicy,envelope',hstrict,hplan,hstrategy,hproducer⟩ := trustedFindings_eq_nil.1 hnil
    obtain rfl := VerifiedReceipt.v2.inj (hparses.eq_v2 hstrict)
    obtain ⟨hsupported,hnotRevoked⟩ := checkProducer_eq_nil.1 hproducer
    exact ⟨⟨envelope,hparses,hplan,hdigest ▸ hpolicy,hmeets.configuration,hstrategy,hsupported,
      hnotRevoked⟩,base,hbase,hbasePass⟩
  · rintro ⟨⟨envelope,hparses,hreceipt⟩,base,hbase,hbasePass⟩
    exact verifyTrustedPlanReceiptDocument_pass hdigest hparses hreceipt hbase hbasePass

def ConfigV1.sampleTrusted (image : String) : ConfigV1 :=
  { ConfigV1.sample [.sample "fmt" [],.sample "test" []] with
    runtime := ⟨.dockerCompatible,image,4,4096,512,false,none,none⟩ }

theorem ConfigV1.sampleTrusted_intoPlan (h : image ∈ [sampleImage,otherImage]) :
    ∃ trusted, (sampleTrusted image).intoPlan .reference = .ok trusted ∧
      trusted.plan = .sample image ["fmt","test"] := by
  have hplan : ∀ image ∈ [sampleImage,otherImage],
      ((sampleTrusted image).intoPlan .reference).toOption.map (·.plan) =
        some (.sample image ["fmt","test"]) := by decide +kernel
  obtain ⟨trusted,htrusted,hplan⟩ := Option.map_eq_some_iff.1 (hplan image h)
  exact ⟨trusted,toOption_eq_some.1 htrusted,hplan⟩

def VerificationPolicyV1_1.sample (image : String) (producer : ProducerContractV1_1) :
    VerificationPolicyV1_1 where
  schemaVersion := "1.1"
  project := "example/project"
  configurationDigest := (ExecutionPlanV1.sample image ["fmt","test"]).digest .reference
  requiredChecks := ["fmt","test"]
  imageReference := sampleImage
  maxAgeSeconds := 3600
  platforms := [⟨"linux","x86_64","docker_compatible"⟩]
  trustedConfig := ".commit-ci-preflight.toml"
  sourceSnapshotStrategy := .gitObject
  supportedProducers := [producer]
  revokedProducers := [⟨"commit-ci-preflight","0.0.9"⟩]

theorem VerificationPolicyV1_1.sample_validate (image : String) {version : String}
    (h : version ∈ ["0.1.0","0.2.0"]) :
    (sample image ⟨"commit-ci-preflight",version⟩).validate = .ok () := by
  have hproducers : ∀ version ∈ ["0.1.0","0.2.0"],
      fold (Policy.collectDistinct "supported_producers" id Policy.validateProducerContract) []
          [⟨"commit-ci-preflight",version⟩] = .ok [⟨"commit-ci-preflight",version⟩] ∧
        fold (Policy.collectRevoked [⟨"commit-ci-preflight",version⟩]) []
          [⟨"commit-ci-preflight","0.0.9"⟩] = .ok [⟨"commit-ci-preflight","0.0.9"⟩] := by
    decide +kernel
  have hpath : Policy.validateTrustedConfigPath ".commit-ci-preflight.toml" = .ok () := by
    decide +kernel
  obtain ⟨hsupported,hrevoked⟩ := hproducers version h
  simp only [validate,bind_eq_ok,exists_unit,ensure_eq_ok]
  exact ⟨rfl,VerificationPolicyV1.sample_validate image,hpath,by simp [sample],_,hsupported,_,
    hrevoked,rfl⟩

theorem sampleDocument_passes (h : image ∈ [sampleImage,otherImage]) :
    ∃ report, verifyReceiptDocument .reference (sampleDocument image) (.sample image) sampleCommit
      "2026-08-29T10:30:00Z" = .ok report ∧ report.decision = .pass := by
  have hcommit : validateCommit sampleCommit = .ok () := by decide +kernel
  have htime : parseUtcSeconds "2026-08-29T10:30:00Z" = .ok 1787999400 := by decide +kernel
  obtain ⟨report,hreport,hjudged⟩ := verifyReceiptDocument_judged .reference (sampleDocument image)
    (VerificationPolicyV1.sample_validate image) hcommit htime
  have hread := sampleDocument_read image h
  refine ⟨report,hreport,?_⟩
  cases hjudged with
  | unread hunread _ _ _ => exact absurd hread (hunread _)
  | read hread' _ _ hdecision hfindings =>
    obtain rfl := Outcome.ok.inj (hread.symm.trans hread')
    exact hdecision.2 (hfindings.2 (sampleEnvelope_meets image (by decide) (by decide)))

theorem sampleEnvelope_trusted (image : String) :
    TrustedReceipt .reference (.sample image ⟨"commit-ci-preflight","0.1.0"⟩)
      (.sample image ["fmt","test"]) (sampleEnvelope image).receipt where
  plan := rfl
  trustedDigest := rfl
  receiptDigest := rfl
  strategy := rfl
  supported := List.mem_cons_self
  notRevoked := by
    show (⟨"commit-ci-preflight","0.1.0"⟩ : ProducerContractV1_1) ∉
      [⟨"commit-ci-preflight","0.0.9"⟩]
    decide

/-- The sample passes, unless the policy supports another version of the producer. -/
theorem verifyTrustedPlanReceiptDocument_pass_iff_samples :
    ∃ trusted, (ConfigV1.sampleTrusted sampleImage).intoPlan .reference = .ok trusted ∧
      (∃ report, verifyTrustedPlanReceiptDocument .reference (sampleDocument sampleImage)
        (.sample sampleImage ⟨"commit-ci-preflight","0.1.0"⟩) trusted sampleCommit
        "2026-08-29T10:30:00Z" = .ok report ∧ report.decision = .pass) ∧
      ¬ ∃ report, verifyTrustedPlanReceiptDocument .reference (sampleDocument sampleImage)
        (.sample sampleImage ⟨"commit-ci-preflight","0.2.0"⟩) trusted sampleCommit
        "2026-08-29T10:30:00Z" = .ok report ∧ report.decision = .pass := by
  obtain ⟨trusted,htrusted,hplan⟩ := ConfigV1.sampleTrusted_intoPlan
    (show sampleImage ∈ _ from List.mem_cons_self)
  have hparses := (readReceipt_eq_ok.1 (sampleDocument_read sampleImage (by simp))).2.1
  refine ⟨trusted,htrusted,?_,?_⟩
  · rw [verifyTrustedPlanReceiptDocument_pass_iff .reference _ _ _ _ _ _
      (VerificationPolicyV1_1.sample_validate sampleImage (by simp)) htrusted]
    exact ⟨⟨_,hparses,hplan ▸ sampleEnvelope_trusted sampleImage⟩,sampleDocument_passes (by simp)⟩
  · rw [verifyTrustedPlanReceiptDocument_pass_iff .reference _ _ _ _ _ _
      (VerificationPolicyV1_1.sample_validate sampleImage (by simp)) htrusted]
    rintro ⟨⟨envelope,hparses',hreceipt⟩,-⟩
    obtain rfl := VerifiedReceipt.v2.inj (hparses.eq_v2 hparses'.strict_v2)
    have hsupported : (⟨"commit-ci-preflight","0.1.0"⟩ : ProducerContractV1_1) ∈
      [⟨"commit-ci-preflight","0.2.0"⟩] := hreceipt.supported
    exact absurd hsupported (by decide)

/-- A receipt that passes states the image and the project of the trusted plan exactly when
the policy does. -/
theorem trusted_pass_attests_plan_iff (crates : Crates) (policy : VerificationPolicyV1_1)
    (trusted : ExecutionPlanEnvelopeV1) (bytes : Bytes) (expectedCommit evaluatedAtUtc : String)
    (report : VerificationReportV1)
    (h : verifyTrustedPlanReceiptDocument crates bytes policy trusted expectedCommit
      evaluatedAtUtc = .ok report) (hpass : report.decision = .pass) :
    ∃ envelope, ParsesAs crates bytes (.v2 envelope) ∧
      (envelope.receipt.platform.imageReference = trusted.plan.runtime.image ∧
          envelope.receipt.repository.repository = trusted.plan.project ↔
        policy.imageReference = trusted.plan.runtime.image ∧
          policy.project = trusted.plan.project) := by
  obtain ⟨_,-,-,-,envelope,_,hparses,hmeets⟩ := verifyTrustedPlanReceiptDocument_of_pass h hpass
  have himage : envelope.receipt.platform.imageReference = policy.imageReference := hmeets.image
  have hproject : envelope.receipt.repository.repository = policy.project := hmeets.repository
  exact ⟨envelope,hparses,by rw [himage,hproject]⟩

theorem sampleTrusted_pass (h : image ∈ [sampleImage,otherImage]) :
    ∃ trusted report, (ConfigV1.sampleTrusted image).intoPlan .reference = .ok trusted ∧
      trusted.plan = .sample image ["fmt","test"] ∧
      verifyTrustedPlanReceiptDocument .reference (sampleDocument image)
        (.sample image ⟨"commit-ci-preflight","0.1.0"⟩) trusted sampleCommit
        "2026-08-29T10:30:00Z" = .ok report ∧ report.decision = .pass := by
  obtain ⟨trusted,htrusted,hplan⟩ := ConfigV1.sampleTrusted_intoPlan h
  obtain ⟨base,hbase,hbasePass⟩ := sampleDocument_passes h
  have hparses := (readReceipt_eq_ok.1 (sampleDocument_read image h)).2.1
  have hreceipt := sampleEnvelope_trusted image
  rw [← hplan] at hreceipt
  obtain ⟨report,hreport,hpass⟩ := verifyTrustedPlanReceiptDocument_pass
    (ConfigV1.intoPlan_eq_ok.1 htrusted).digest hparses hreceipt hbase hbasePass
  exact ⟨trusted,report,htrusted,hplan,hreport,hpass⟩

/-- With the policy's image in the trusted plan the receipt agrees with the plan. -/
theorem trusted_pass_attests_plan_iff_samples :
    ∃ trusted report, (ConfigV1.sampleTrusted sampleImage).intoPlan .reference = .ok trusted ∧
      verifyTrustedPlanReceiptDocument .reference (sampleDocument sampleImage)
        (.sample sampleImage ⟨"commit-ci-preflight","0.1.0"⟩) trusted sampleCommit
        "2026-08-29T10:30:00Z" = .ok report ∧ report.decision = .pass ∧
      ∃ envelope, ParsesAs .reference (sampleDocument sampleImage) (.v2 envelope) ∧
        envelope.receipt.platform.imageReference = trusted.plan.runtime.image ∧
        envelope.receipt.repository.repository = trusted.plan.project := by
  obtain ⟨trusted,report,htrusted,hplan,hreport,hpass⟩ := sampleTrusted_pass
    (show sampleImage ∈ _ from List.mem_cons_self)
  obtain ⟨envelope,hparses,hiff⟩ := trusted_pass_attests_plan_iff _ _ _ _ _ _ _ hreport hpass
  refine ⟨trusted,report,htrusted,hreport,hpass,envelope,hparses,hiff.2 ?_⟩
  rw [hplan]
  exact ⟨rfl,rfl⟩

/-- The receipt that passes with another image than the trusted plan's. -/
theorem trusted_pass_with_other_image :
    ∃ trusted report,
      (VerificationPolicyV1_1.sample otherImage ⟨"commit-ci-preflight","0.1.0"⟩).validate =
        .ok () ∧
      (ConfigV1.sampleTrusted otherImage).intoPlan .reference = .ok trusted ∧
      verifyTrustedPlanReceiptDocument .reference (sampleDocument otherImage)
        (.sample otherImage ⟨"commit-ci-preflight","0.1.0"⟩) trusted sampleCommit
        "2026-08-29T10:30:00Z" = .ok report ∧ report.decision = .pass ∧
      ParsesAs .reference (sampleDocument otherImage) (.v2 (sampleEnvelope otherImage)) ∧
      (sampleEnvelope otherImage).receipt.platform.imageReference ≠
        trusted.plan.runtime.image := by
  have hother : otherImage ∈ [sampleImage,otherImage] := by simp
  obtain ⟨trusted,report,htrusted,hplan,hreport,hpass⟩ := sampleTrusted_pass hother
  refine ⟨trusted,report,VerificationPolicyV1_1.sample_validate otherImage (by simp),htrusted,
    hreport,hpass,(readReceipt_eq_ok.1 (sampleDocument_read otherImage hother)).2.1,?_⟩
  rw [hplan]
  show sampleImage ≠ otherImage
  decide

end CommitCiPreflight
