import CommitCiPreflight.SealedDocument

/-! The decision of the verifier, from its findings to the conditions a document meets. -/
namespace CommitCiPreflight

open Outcome

section Decision

variable {crates : Crates} {bytes : Bytes} {policy : VerificationPolicyV1}
  {expectedCommit evaluatedAtUtc : String} {evaluatedAt : ℤ} {receipt : VerifiedReceipt}

theorem evaluatePolicy_eq_nil (htime : parseUtcSeconds evaluatedAtUtc = .ok evaluatedAt)
    (hpolicy : policy.validate = .ok ()) (hgenuine : receipt.Genuine crates)
    (expectedCommit : String) :
    evaluatePolicy receipt.view policy expectedCommit evaluatedAt = .ok [] ↔
      MeetsPolicy policy expectedCommit evaluatedAt receipt.common := by
  have hchecks := (ReceiptCommon.validate_eq_ok.1 hgenuine.common_validate).2
  have hfresh := checkFreshness_eq_nil htime receipt.common.run
    (VerificationPolicyV1.maxAge_le hpolicy)
  simp only [evaluatePolicy,bind_eq_ok,pure_eq,ok.injEq,List.append_eq_nil_iff,
    checkContents_eq_nil hchecks]
  constructor
  · rintro ⟨_,hfreshness,hcontents,rfl⟩
    exact ⟨hcontents,hfresh.1 hfreshness⟩
  · rintro ⟨hcontents,hfreshness⟩
    exact ⟨[],hfresh.2 hfreshness,hcontents,rfl⟩

theorem evaluatePolicy_eq_ok (htime : parseUtcSeconds evaluatedAtUtc = .ok evaluatedAt)
    (view : ReceiptPolicyView) (policy : VerificationPolicyV1) (expectedCommit : String) :
    ∃ findings, evaluatePolicy view policy expectedCommit evaluatedAt = .ok findings := by
  obtain ⟨freshness,hfreshness⟩ := checkFreshness_eq_ok htime view.run policy
  exact ⟨_,by rw [evaluatePolicy,hfreshness,ok_bind,pure_eq]⟩

/-- What a report says, for a document that was read and for one that was not. -/
inductive Judged (crates : Crates) (bytes : Bytes) (policy : VerificationPolicyV1)
    (expectedCommit : String) (evaluatedAt : ℤ) (report : VerificationReportV1) : Prop
  | read {receipt : VerifiedReceipt} (read : readReceipt crates bytes = .ok receipt)
      (integrity : report.integrityStatus = .pass)
      (status : report.policyStatus = .pass ↔ report.findings = [])
      (decision : report.decision = .pass ↔ report.findings = [])
      (findings : report.findings = [] ↔
        MeetsPolicy policy expectedCommit evaluatedAt receipt.common)
  | unread (unread : ∀ receipt, readReceipt crates bytes ≠ .ok receipt)
      (integrity : report.integrityStatus = .fail) (decision : report.decision = .fail)
      (findings : report.findings ≠ [])

theorem VerificationReportV1.finalize_eq_pass (report : VerificationReportV1)
    (hintegrity : report.integrityStatus = .pass)
    (hpolicy : report.findings = [] → report.policyStatus = .pass) :
    (report.finalize.policyStatus = .pass ↔ report.findings = []) ∧
      (report.finalize.decision = .pass ↔ report.findings = []) := by
  by_cases h : report.findings = []
  · simp [VerificationReportV1.finalize,h,hintegrity,hpolicy h]
  · simp [VerificationReportV1.finalize,h]

theorem reportOn_judged (crates : Crates) (bytes : Bytes) (expectedCommit : String)
    (htime : parseUtcSeconds evaluatedAtUtc = .ok evaluatedAt)
    (hpolicy : policy.validate = .ok ()) :
    ∃ report, reportOn (.initial expectedCommit evaluatedAtUtc) policy expectedCommit evaluatedAt
        (readReceipt crates bytes) = .ok report ∧
      Judged crates bytes policy expectedCommit evaluatedAt report := by
  cases hread : readReceipt crates bytes with
  | err finding =>
    exact ⟨_,rfl,.unread (by simp [hread]) rfl rfl (by simp)⟩
  | panic => exact absurd hread (readReceipt_ne_panic crates bytes)
  | ok receipt =>
    have hgenuine := (readReceipt_eq_ok.1 hread).2.2
    obtain ⟨findings,hfindings⟩ := evaluatePolicy_eq_ok htime receipt.view policy expectedCommit
    have hnil := evaluatePolicy_eq_nil htime hpolicy hgenuine expectedCommit
    rw [hfindings,ok.injEq] at hnil
    have hfinal := VerificationReportV1.finalize_eq_pass
      {VerificationReportV1.initial expectedCommit evaluatedAtUtc with
        receiptId := some receipt.receiptId
        integrityStatus := .pass
        policyStatus := .pass
        findings := findings} rfl fun _ => rfl
    refine ⟨_,?_,.read hread rfl hfinal.1 hfinal.2 hnil⟩
    rw [reportOn,hfindings,ok_bind,pure_eq]

theorem verifyReceiptDocument_judged (crates : Crates) (bytes : Bytes)
    (hpolicy : policy.validate = .ok ()) (hcommit : validateCommit expectedCommit = .ok ())
    (htime : parseUtcSeconds evaluatedAtUtc = .ok evaluatedAt) :
    ∃ report,
      verifyReceiptDocument crates bytes policy expectedCommit evaluatedAtUtc = .ok report ∧
      Judged crates bytes policy expectedCommit evaluatedAt report := by
  rw [verifyReceiptDocument,mapErr_eq_ok.2 hpolicy,ok_bind,hcommit,ok_bind,mapErr_eq_ok.2 htime,
    ok_bind]
  exact reportOn_judged crates bytes expectedCommit htime hpolicy

theorem verifyReceiptDocument_ne_panic (crates : Crates) (bytes : Bytes)
    (policy : VerificationPolicyV1) (expectedCommit evaluatedAtUtc : String) :
    verifyReceiptDocument crates bytes policy expectedCommit evaluatedAtUtc ≠ .panic := by
  refine bind_ne_panic (by simp [policy.validate_ne_panic]) fun _ hpolicy => ?_
  refine bind_ne_panic (ensure_ne_panic _ _) fun _ _ => ?_
  refine bind_ne_panic (by simp [parseUtcSeconds_ne_panic]) fun evaluatedAt htime => ?_
  obtain ⟨report,hreport,-⟩ := reportOn_judged crates bytes expectedCommit (mapErr_eq_ok.1 htime)
    (mapErr_eq_ok.1 hpolicy)
  simp [hreport]

theorem acceptable_iff (hread : readReceipt crates bytes = .ok receipt) :
    Acceptable crates bytes policy expectedCommit evaluatedAt ↔
      MeetsPolicy policy expectedCommit evaluatedAt receipt.common := by
  obtain ⟨hlength,hparses,hgenuine⟩ := readReceipt_eq_ok.1 hread
  constructor
  · rintro ⟨-,other,hother,hvalid,hmeets⟩
    have heq := (readReceipt_eq_ok.2 ⟨hlength,hother,hvalid⟩).symm.trans hread
    rw [ok.injEq] at heq
    exact heq ▸ hmeets
  · intro hmeets
    exact ⟨hlength,receipt,hparses,hgenuine,hmeets⟩

end Decision

/-- Verification decides acceptability, and never aborts. -/
theorem verifyReceiptDocument_decision (crates : Crates) :
    (∀ bytes policy expectedCommit evaluatedAtUtc,
      verifyReceiptDocument crates bytes policy expectedCommit evaluatedAtUtc ≠ .panic) ∧
    ∀ (bytes : Bytes) (policy : VerificationPolicyV1) (expectedCommit evaluatedAtUtc : String)
      (evaluatedAt : ℤ), policy.validate = .ok () → validateCommit expectedCommit = .ok () →
      parseUtcSeconds evaluatedAtUtc = .ok evaluatedAt →
      ∃ report,
        verifyReceiptDocument crates bytes policy expectedCommit evaluatedAtUtc = .ok report ∧
        (report.decision = .pass ↔ Acceptable crates bytes policy expectedCommit evaluatedAt) ∧
        (¬ Acceptable crates bytes policy expectedCommit evaluatedAt →
          report.decision = .fail ∧ report.findings ≠ []) := by
  refine ⟨verifyReceiptDocument_ne_panic crates,?_⟩
  intro bytes policy expectedCommit evaluatedAtUtc evaluatedAt hpolicy hcommit htime
  obtain ⟨report,hreport,hjudged⟩ := verifyReceiptDocument_judged crates bytes hpolicy hcommit htime
  refine ⟨report,hreport,?_⟩
  cases hjudged with
  | read hread _ _ hdecision hfindings =>
    rw [acceptable_iff hread,← hfindings]
    refine ⟨hdecision,fun hne => ⟨?_,hne⟩⟩
    cases hd : report.decision with
    | pass => exact absurd (hdecision.1 hd) hne
    | fail => rfl
  | unread hunread _ hdecision hfindings =>
    have hnot : ¬ Acceptable crates bytes policy expectedCommit evaluatedAt := by
      rintro ⟨hlength,receipt,hparses,hgenuine,-⟩
      exact hunread receipt (readReceipt_eq_ok.2 ⟨hlength,hparses,hgenuine⟩)
    exact ⟨by simp [hdecision,hnot],fun _ => ⟨hdecision,hfindings⟩⟩

def VerificationPolicyV1.sample (image : String) : VerificationPolicyV1 where
  schemaVersion := "1.0"
  project := "example/project"
  configurationDigest := (ExecutionPlanV1.sample image ["fmt","test"]).digest .reference
  requiredChecks := ["fmt","test"]
  imageReference := sampleImage
  maxAgeSeconds := 3600
  platforms := [⟨"linux","x86_64","docker_compatible"⟩]

theorem VerificationPolicyV1.sample_validate (image : String) : (sample image).validate = .ok () :=
  have hplain : {sample image with configurationDigest := sampleDigest}.validate = .ok () := by
    show (⟨"1.0","example/project",sampleDigest,["fmt","test"],sampleImage,3600,
      [⟨"linux","x86_64","docker_compatible"⟩]⟩ : VerificationPolicyV1).validate = .ok ()
    decide +kernel
  VerificationPolicyV1.validate_setDigest (validateDigest_canonicalDigest .reference _) hplain

def sampleCommit : String := "0123456789abcdef0123456789abcdef01234567"

theorem sampleEnvelope_meets (image : String) {evaluatedAt : ℤ} (hlow : 1787997900 ≤ evaluatedAt)
    (hhigh : evaluatedAt ≤ 1788001500) :
    MeetsPolicy (.sample image) sampleCommit evaluatedAt (sampleEnvelope image).receipt.common where
  repository := rfl
  commit := rfl
  clean := rfl
  configuration := rfl
  image := rfl
  platform := List.mem_cons_self
  requiredSet := by
    show ∀ id, (∃ check ∈ ["fmt","test"].map CheckEvidence.sample, check.required ∧ check.id = id) ↔
      id ∈ ["fmt","test"]
    simp only [CheckEvidence.sample,List.map_cons,List.map_nil,List.mem_cons,List.not_mem_nil,or_false,
      exists_eq_or_imp,exists_eq_left,true_and,@eq_comm String]
    exact fun _ => trivial
  requiredPass := by
    show ∀ check ∈ ["fmt","test"].map CheckEvidence.sample, check.required → check.status = .pass
    decide
  fresh := by
    have hfinished : parseUtcSeconds "2026-08-29T10:05:00Z" = .ok 1787997900 := by decide +kernel
    exact ⟨_,hfinished,hlow,hhigh⟩

/-- The sample passes 25 minutes after the run, and is stale an hour later. -/
theorem verifyReceiptDocument_decision_samples :
    (∃ report, verifyReceiptDocument .reference (sampleDocument sampleImage) (.sample sampleImage)
      sampleCommit "2026-08-29T10:30:00Z" = .ok report ∧ report.decision = .pass) ∧
    ∃ report, verifyReceiptDocument .reference (sampleDocument sampleImage) (.sample sampleImage)
      sampleCommit "2026-08-29T11:30:00Z" = .ok report ∧ report.decision = .fail ∧
        report.findings ≠ [] := by
  have hread := sampleDocument_read sampleImage (by simp)
  have hpolicy := VerificationPolicyV1.sample_validate sampleImage
  have hcommit : validateCommit sampleCommit = .ok () := by decide +kernel
  have hearly : parseUtcSeconds "2026-08-29T10:30:00Z" = .ok 1787999400 := by decide +kernel
  have hlate : parseUtcSeconds "2026-08-29T11:30:00Z" = .ok 1788003000 := by decide +kernel
  constructor
  · obtain ⟨report,hreport,hpass,-⟩ := (verifyReceiptDocument_decision .reference).2
      (sampleDocument sampleImage) _ _ _ _ hpolicy hcommit hearly
    exact ⟨report,hreport,hpass.2
      ((acceptable_iff hread).2 (sampleEnvelope_meets _ (by decide) (by decide)))⟩
  · obtain ⟨report,hreport,-,hfail⟩ := (verifyReceiptDocument_decision .reference).2
      (sampleDocument sampleImage) _ _ _ _ hpolicy hcommit hlate
    refine ⟨report,hreport,hfail ?_⟩
    rw [acceptable_iff hread]
    rintro ⟨-,finishedAt,hfinished,-,hage⟩
    have hknown : parseUtcSeconds "2026-08-29T10:05:00Z" = .ok 1787997900 := by decide +kernel
    have heq : finishedAt = 1787997900 := by
      simpa using (hfinished.symm.trans hknown)
    exact absurd (heq ▸ hage) (by decide)

end CommitCiPreflight
