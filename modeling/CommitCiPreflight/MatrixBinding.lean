import CommitCiPreflight.MatrixOverlay
import CommitCiPreflight.ReceiptDigest

/-! The digest of a matrix plan binds the plan, in both profiles. -/
namespace CommitCiPreflight

open Outcome

theorem legacyEnvironment_eq_ok {environment : NormalizedEnvironment} {allow : List String} :
    legacyEnvironment environment = .ok allow ↔ environment = ⟨allow,[],[],[]⟩ := by
  obtain ⟨inherit,fixed,runtimeInternal,remoteSecretOnly⟩ := environment
  unfold legacyEnvironment
  by_cases hfixed : fixed = [] <;> by_cases hinternal : runtimeInternal = [] <;>
    by_cases hsecrets : remoteSecretOnly = [] <;> simp [hfixed,hinternal,hsecrets]

theorem legacyRuntime_eq_ok {runtime : NormalizedRuntime} {legacy : LegacyNormalizedRuntime} :
    legacyRuntime runtime = .ok legacy ↔ runtime = {
      kind := legacy.kind
      image := legacy.image
      cpuCount := legacy.cpuCount
      memoryMib := legacy.memoryMib
      pidsLimit := legacy.pidsLimit
      network := legacy.network
      pullPolicy := none
      swapMode := none } := by
  obtain ⟨kind,image,cpuCount,memoryMib,pidsLimit,network,pullPolicy,swapMode⟩ := runtime
  obtain ⟨kind',image',cpuCount',memoryMib',pidsLimit',network'⟩ := legacy
  unfold legacyRuntime
  by_cases hpull : pullPolicy = none <;> by_cases hswap : swapMode = none <;> simp [hpull,hswap]

theorem legacyCheck_eq_ok {check : NormalizedCheck} {legacy : LegacyNormalizedCheck} :
    legacyCheck check = .ok legacy ↔ check = {
      id := legacy.id
      required := legacy.required
      argv := legacy.argv
      workingDirectory := legacy.workingDirectory
      timeoutSeconds := legacy.timeoutSeconds
      dependsOn := legacy.dependsOn
      artifacts := legacy.artifacts
      artifactContracts := [] } := by
  obtain ⟨id,required,argv,workingDirectory,timeoutSeconds,dependsOn,artifacts,contracts⟩ := check
  obtain ⟨id',required',argv',workingDirectory',timeoutSeconds',dependsOn',artifacts'⟩ := legacy
  unfold legacyCheck
  by_cases hcontracts : contracts = [] <;> simp [hcontracts]

theorem legacyReceipt_injective : Function.Injective legacyReceipt := by
  rintro ⟨output,freshnessSeconds⟩ ⟨output',freshnessSeconds'⟩ h
  simpa [legacyReceipt] using h

theorem legacyCache_injective : Function.Injective legacyCache := by
  rintro ⟨id,mountPath⟩ ⟨id',mountPath'⟩ h
  simpa [legacyCache] using h

theorem mapM_legacyCheck_inj {checks checks' : List NormalizedCheck}
    {legacy : List LegacyNormalizedCheck} (h : checks.mapM legacyCheck = .ok legacy)
    (h' : checks'.mapM legacyCheck = .ok legacy) : checks = checks' := by
  have hunique : Relator.LeftUnique fun check legacy => legacyCheck check = .ok legacy := by
    intro check check' legacy hcheck hcheck'
    rw [legacyCheck_eq_ok.1 hcheck,legacyCheck_eq_ok.1 hcheck']
  exact List.left_unique_forall₂' hunique (mapM_eq_ok_iff_forall₂.1 h) (mapM_eq_ok_iff_forall₂.1 h')

section Projection

variable {crates : Crates} {plan other : MatrixPlanV2} {basis : LegacyMatrixDigestBasisV1}

/-- A runtime of the plan and what its legacy form keeps of it. -/
structure Represents (planned : MatrixRuntimePlanV2) (legacy : LegacyMatrixRuntimePlanV2) :
    Prop where
  id : legacy.id = planned.id
  runtime : legacyRuntime planned.runtime = .ok legacy.runtime
  checks : planned.checks.mapM legacyCheck = .ok legacy.checks

theorem represents_leftUnique : Relator.LeftUnique fun planned legacy =>
    basis.runtimeDigest planned.id = .ok planned.configurationDigest ∧ Represents planned legacy := by
  rintro ⟨id,configurationDigest,runtime,checks⟩ ⟨id',configurationDigest',runtime',checks'⟩ legacy
    ⟨hdigest,h⟩ ⟨hdigest',h'⟩
  have hid : id = id' := h.id.symm.trans h'.id
  have hruntime : runtime = runtime' :=
    (legacyRuntime_eq_ok.1 h.runtime).trans (legacyRuntime_eq_ok.1 h'.runtime).symm
  have hchecks : checks = checks' := mapM_legacyCheck_inj h.checks h'.checks
  subst hid
  have hdigests : configurationDigest = configurationDigest' :=
    Except.ok.inj (hdigest.symm.trans hdigest')
  rw [hruntime,hchecks,hdigests]

theorem represents_of_project {environmentAllow : List String} {runtime : MatrixRuntimePlanV2}
    {legacy : LegacyMatrixRuntimePlanV2}
    (h : projectLegacyRuntime crates plan environmentAllow runtime = .ok legacy) :
    Represents runtime legacy := by
  obtain ⟨checks,hchecks,h⟩ := except_bind_eq_ok.1 h
  obtain ⟨legacyRuntime,hruntime,h⟩ := except_bind_eq_ok.1 h
  obtain rfl := Except.ok.inj h
  exact ⟨rfl,hruntime,hchecks⟩

/-- What a legacy basis says of the plan it is projected from. -/
structure Projected (plan : MatrixPlanV2) (basis : LegacyMatrixDigestBasisV1) : Prop where
  schemaVersion : basis.plan.schemaVersion = plan.schemaVersion
  project : basis.plan.project = plan.project
  receipt : basis.plan.receipt = legacyReceipt plan.receipt
  environment : plan.environment = ⟨basis.plan.environmentAllow,[],[],[]⟩
  caches : basis.plan.caches = plan.caches.map legacyCache
  runtimes : List.Forall₂ Represents plan.runtimes basis.plan.runtimes
  digests : basis.runtimeDigests =
    .ofList (basis.plan.runtimes.map fun runtime => (runtime.id,runtime.configurationDigest))

theorem projected_of_project (h : projectLegacyBasis crates plan = .ok basis) :
    Projected plan basis := by
  obtain ⟨allow,hallow,h⟩ := except_bind_eq_ok.1 h
  obtain ⟨runtimes,hruntimes,h⟩ := except_bind_eq_ok.1 h
  obtain rfl := Except.ok.inj h
  refine ⟨rfl,rfl,rfl,legacyEnvironment_eq_ok.1 hallow,rfl,?_,rfl⟩
  exact (mapM_eq_ok_iff_forall₂.1 hruntimes).imp fun _ _ => represents_of_project

theorem Projected.plan_eq (h : Projected plan basis) (h' : Projected other basis)
    (hdigests : ∀ runtime ∈ plan.runtimes,
      basis.runtimeDigest runtime.id = .ok runtime.configurationDigest)
    (hdigests' : ∀ runtime ∈ other.runtimes,
      basis.runtimeDigest runtime.id = .ok runtime.configurationDigest) : plan = other := by
  have hruntimes : plan.runtimes = other.runtimes :=
    List.left_unique_forall₂' represents_leftUnique
      ((List.forall₂_and_left _ _).2 ⟨hdigests,h.runtimes⟩)
      ((List.forall₂_and_left _ _).2 ⟨hdigests',h'.runtimes⟩)
  have hreceipt : plan.receipt = other.receipt :=
    legacyReceipt_injective (h.receipt.symm.trans h'.receipt)
  have hcaches : plan.caches = other.caches :=
    List.map_injective_iff.2 legacyCache_injective (h.caches.symm.trans h'.caches)
  obtain ⟨schemaVersion,project,receipt,environment,caches,runtimes⟩ := plan
  obtain ⟨schemaVersion',project',receipt',environment',caches',runtimes'⟩ := other
  simp only [MatrixPlanV2.mk.injEq]
  exact ⟨h.schemaVersion.symm.trans h'.schemaVersion,h.project.symm.trans h'.project,hreceipt,
    h.environment.trans h'.environment.symm,hcaches,hruntimes⟩

end Projection

section Representable

variable {crates : Crates} {config : MatrixConfigV2} {plan : MatrixPlanV2}
  {groups : List (String × ExecutionPlanEnvelopeV1)}

theorem Projected.exists_digest {basis : LegacyMatrixDigestBasisV1} (h : Projected plan basis)
    {planned : MatrixRuntimePlanV2} (hplanned : planned ∈ plan.runtimes) :
    ∃ digest, basis.runtimeDigest planned.id = .ok digest := by
  obtain ⟨legacy,hlegacy,hrepresents⟩ := exists_of_forall₂ h.runtimes.flip hplanned
  obtain ⟨digest,hdigest⟩ := OrderedMap.exists_get?_ofList (List.mem_map_of_mem hlegacy :
    (legacy.id,legacy.configurationDigest) ∈ basis.plan.runtimes.map fun runtime =>
      (runtime.id,runtime.configurationDigest))
  refine ⟨digest,?_⟩
  rw [← hrepresents.id,LegacyMatrixDigestBasisV1.runtimeDigest,h.digests,hdigest]

variable (h : config.Accepted crates groups plan)
include h

theorem environment_of_matrix :
    ∃ allow, plan.environment = ⟨allow,[],[],[]⟩ := by
  obtain ⟨first,hfirst,hshared⟩ := Option.map_eq_some_iff.1 h.shared
  obtain ⟨runtime,-,hruntime⟩ := h.exists_runtime first (List.mem_of_mem_head? hfirst)
  have hnormalized :=
    (normalizeEnvironment_eq_ok.1 (ConfigV1.intoPlan_eq_ok.1 hruntime).environment).2
  obtain ⟨-,hrest⟩ := Prod.mk.inj hshared
  exact ⟨_,(Prod.mk.inj hrest).1.symm.trans hnormalized⟩

theorem runtime_of_matrix :
    ∀ group ∈ groups, ∃ legacy, legacyRuntime group.2.plan.runtime = .ok legacy := by
  intro group hgroup
  obtain ⟨runtime,-,hruntime⟩ := h.exists_runtime group hgroup
  have hnormalized := (ConfigV1.intoPlan_eq_ok.1 hruntime).runtime
  rw [← ok.inj hnormalized]
  exact ⟨_,rfl⟩

theorem checks_of_matrix :
    ∀ group ∈ groups, ∃ legacy, group.2.plan.checks.mapM legacyCheck = .ok legacy := by
  intro group hgroup
  refine mapM_eq_ok.2 fun check hcheck => ?_
  exact ⟨_,if_neg (not_not.2 (artifactContracts_of_matrix h group hgroup check hcheck))⟩

theorem exists_legacyBasis :
    ∃ basis, projectLegacyBasis crates plan = .ok basis := by
  obtain ⟨allow,henvironment⟩ := environment_of_matrix h
  obtain ⟨runtimes,hruntimes⟩ :
      ∃ runtimes, plan.runtimes.mapM (projectLegacyRuntime crates plan allow) = .ok runtimes := by
    refine mapM_eq_ok.2 fun planned hplanned => ?_
    rw [h.runtimes] at hplanned
    obtain ⟨group,hgroup,rfl⟩ := List.mem_map.1 hplanned
    obtain ⟨checks,hchecks⟩ := checks_of_matrix h group hgroup
    obtain ⟨runtime,hruntime⟩ := runtime_of_matrix h group hgroup
    exact ⟨_,except_bind_eq_ok.2 ⟨checks,hchecks,except_bind_eq_ok.2 ⟨runtime,hruntime,rfl⟩⟩⟩
  exact ⟨_,except_bind_eq_ok.2 ⟨allow,legacyEnvironment_eq_ok.2 henvironment,
    except_bind_eq_ok.2 ⟨runtimes,hruntimes,rfl⟩⟩⟩

theorem exists_bindProfile (profile : MatrixPlanProfile) :
    ∃ envelope, bindProfile crates profile plan = .ok envelope := by
  cases profile with
  | currentV2 => exact ⟨_,rfl⟩
  | legacyV1 =>
    obtain ⟨basis,hbasis⟩ := exists_legacyBasis h
    obtain ⟨runtimes,hruntimes⟩ : ∃ runtimes, (plan.runtimes.mapM fun runtime => do
        return {runtime with configurationDigest := (← basis.runtimeDigest runtime.id)}) =
          .ok runtimes := by
      refine mapM_eq_ok.2 fun planned hplanned => ?_
      obtain ⟨digest,hdigest⟩ := (projected_of_project hbasis).exists_digest hplanned
      exact ⟨_,except_bind_eq_ok.2 ⟨digest,hdigest,rfl⟩⟩
    exact ⟨_,except_bind_eq_ok.2 ⟨basis,hbasis,except_bind_eq_ok.2 ⟨runtimes,hruntimes,rfl⟩⟩⟩

end Representable

section Binding

variable {crates : Crates} {envelope : MatrixPlanEnvelopeV2}

theorem validateProfileBinding_current (hprofile : envelope.profile = .currentV2) :
    envelope.validateProfileBinding crates = .ok () ↔
      envelope.legacyBasis = none ∧ envelope.plan.digest crates = envelope.planDigest := by
  simp only [MatrixPlanEnvelopeV2.validateProfileBinding,hprofile]
  cases envelope.legacyBasis <;> by_cases h : envelope.plan.digest crates = envelope.planDigest <;>
    simp [h]

theorem validateProfileBinding_legacy (hprofile : envelope.profile = .legacyV1)
    (h : envelope.validateProfileBinding crates = .ok ()) : ∃ basis,
      projectLegacyBasis crates envelope.plan = .ok basis ∧
      basis.outerDigest crates = envelope.planDigest ∧
      ∀ runtime ∈ envelope.plan.runtimes,
        basis.runtimeDigest runtime.id = .ok runtime.configurationDigest := by
  simp only [MatrixPlanEnvelopeV2.validateProfileBinding,hprofile] at h
  cases hbasis : envelope.legacyBasis with
  | none => simp [hbasis] at h
  | some basis =>
    rw [hbasis] at h
    obtain ⟨projected,hprojected,h⟩ := except_bind_eq_ok.1 h
    split_ifs at h with hdiffers
    · obtain ⟨-,herror,-⟩ := except_bind_eq_ok.1 h
      contradiction
    · refine ⟨projected,hprojected,not_not.1 (not_or.1 hdiffers).2,fun runtime hruntime => ?_⟩
      obtain ⟨digest,hdigest,h⟩ := except_bind_eq_ok.1 (forM_eq_ok_iff.1 h runtime hruntime)
      split_ifs at h with hmismatch
      rw [hdigest,not_not.1 hmismatch]

def MatrixPlanV2.digested (crates : Crates) (profile : MatrixPlanProfile) (plan : MatrixPlanV2) :
    Except MatrixError Bytes :=
  match profile with
  | .currentV2 => .ok (canonicalJson crates (MatrixPlanV2.codec.encode plan))
  | .legacyV1 => do
    let basis ← projectLegacyBasis crates plan
    return canonicalJson crates (LegacyMatrixPlanV2.codec.encode basis.plan)

def MatrixPlanV2.NoCollision (crates : Crates) (profile : MatrixPlanProfile)
    (plan other : MatrixPlanV2) : Prop :=
  ∀ bytes bytes', plan.digested crates profile = .ok bytes →
    other.digested crates profile = .ok bytes' → crates.NoCollision bytes bytes'

/-- Two plans that pass the check under one digest are one plan. -/
theorem plan_eq_of_validateProfileBinding {other : MatrixPlanEnvelopeV2}
    (hprofile : envelope.profile = other.profile)
    (hdigest : envelope.planDigest = other.planDigest)
    (hcollision : envelope.plan.NoCollision crates other.profile other.plan)
    (h : envelope.validateProfileBinding crates = .ok ())
    (h' : other.validateProfileBinding crates = .ok ()) : envelope.plan = other.plan := by
  cases hcase : other.profile with
  | currentV2 =>
    rw [hcase] at hprofile hcollision
    obtain ⟨-,hplan⟩ := (validateProfileBinding_current hprofile).1 h
    obtain ⟨-,hplan'⟩ := (validateProfileBinding_current hcase).1 h'
    have hsame := canonicalDigest_eq_iff.1 (hplan.trans (hdigest.trans hplan'.symm))
    exact canonicalJson_encode_injective _ (hcollision _ _ rfl rfl hsame)
  | legacyV1 =>
    rw [hcase] at hprofile hcollision
    obtain ⟨basis,hbasis,houter,hruntimes⟩ := validateProfileBinding_legacy hprofile h
    obtain ⟨basis',hbasis',houter',hruntimes'⟩ := validateProfileBinding_legacy hcase h'
    have hsame := canonicalDigest_eq_iff.1 (houter.trans (hdigest.trans houter'.symm))
    have hprojected := projected_of_project hbasis
    have hprojected' := projected_of_project hbasis'
    have hplan : basis.plan = basis'.plan :=
      canonicalJson_encode_injective _ (hcollision _ _ (except_bind_eq_ok.2 ⟨basis,hbasis,rfl⟩)
        (except_bind_eq_ok.2 ⟨basis',hbasis',rfl⟩) hsame)
    have hdigests : basis.runtimeDigests = basis'.runtimeDigests := by
      rw [hprojected.digests,hprojected'.digests,hplan]
    obtain rfl : basis = basis' := by
      obtain ⟨legacy,digests⟩ := basis
      obtain ⟨legacy',digests'⟩ := basis'
      rw [LegacyMatrixDigestBasisV1.mk.injEq]
      exact ⟨hplan,hdigests⟩
    exact hprojected.plan_eq hprojected' hruntimes hruntimes'

end Binding

/-- A matrix that is accepted in one profile is accepted in all. Every runtime then has the plan
of its own group, and the digest admits no other plan. -/
theorem matrix_plan_bound (crates : Crates) (config : MatrixConfigV2)
    (accepting profile : MatrixPlanProfile)
    (h : ∃ envelope, config.buildPlanWithProfile crates accepting = .ok envelope) :
    ∃ envelope, config.buildPlanWithProfile crates profile = .ok envelope ∧
      (∃ order runtimes, order.Perm config.runtimes ∧
        envelope.runtimeEnvelopes crates = .ok runtimes ∧
        List.Forall₂ (fun runtime result => result.1 = runtime.id ∧
          ∃ group, (config.groupOf runtime).intoPlan crates = .ok group ∧
            result.2.plan = group.plan ∧
            (profile = .currentV2 → result.2.planDigest = group.planDigest)) order runtimes) ∧
      envelope.validateProfileBinding crates = .ok () ∧
      ∀ plan legacyBasis, plan ≠ envelope.plan →
        plan.NoCollision crates profile envelope.plan →
        ({envelope with plan,legacyBasis} : MatrixPlanEnvelopeV2).validateProfileBinding crates ≠
          .ok () := by
  obtain ⟨_,h⟩ := h
  obtain ⟨groups,plan,haccepted,hbuild⟩ := exists_accepted h
  obtain ⟨envelope,henvelope⟩ := exists_bindProfile haccepted profile
  have hbound := bound_of_bindProfile henvelope
  obtain ⟨runtimes,hruntimes,hgroups⟩ := runtimeEnvelopes_ok haccepted hbound
  refine ⟨envelope,(hbuild profile).trans (ofExcept_eq_ok.2 henvelope),?_,hbound.valid,?_⟩
  · refine ⟨config.runtimesById.entries.map Prod.snd,runtimes,?_,hruntimes,?_⟩
    · exact runtimesById_perm haccepted.ids
    · rw [List.forall₂_map_left_iff]
      refine forall₂_trans haccepted.accepts hgroups ?_
      rintro entry hentry group - result ⟨hid,hgroup⟩ ⟨hid',hplan,-,hdigest⟩
      refine ⟨?_,group.2,hgroup,hplan,hdigest⟩
      rw [hid',hid,runtimesById_ids entry hentry]
  · intro plan legacyBasis hother hcollision hvalid
    rw [← hbound.profiled] at hcollision
    exact hother (@plan_eq_of_validateProfileBinding crates {envelope with plan,legacyBasis} envelope
      rfl rfl hcollision hvalid hbound.valid)

/-- The plan with another digest for every runtime, which the legacy digest does not cover. -/
def MatrixPlanV2.redigested (plan : MatrixPlanV2) : MatrixPlanV2 :=
  {plan with runtimes := plan.runtimes.map fun runtime =>
    {runtime with configurationDigest := runtime.configurationDigest++"0"}}

theorem MatrixPlanV2.redigested_ne {plan : MatrixPlanV2} (h : plan.runtimes ≠ []) :
    plan.redigested ≠ plan := by
  intro hsame
  obtain ⟨runtime,rest,hruntimes⟩ := List.exists_cons_of_ne_nil h
  have hdigests := congrArg (fun plan => plan.runtimes.map (·.configurationDigest)) hsame
  simp [redigested,hruntimes] at hdigests

theorem MatrixPlanV2.redigested_noCollision {crates : Crates} {plan : MatrixPlanV2} :
    plan.redigested.NoCollision crates .legacyV1 plan := by
  have hbasis : projectLegacyBasis crates plan.redigested = projectLegacyBasis crates plan := by
    refine projectLegacyBasis_congr ?_
    rw [List.forall₂_map_right_iff]
    exact List.forall₂_same.2 fun runtime _ => rfl
  intro bytes bytes' hbytes hbytes' _
  rw [digested,hbasis] at hbytes
  exact Except.ok.inj (hbytes.symm.trans hbytes')

/-- The sample, accepted in the current profile, bound in the legacy one and given other digests. -/
theorem matrix_plan_bound_sample : ∃ envelope runtimes,
    (MatrixConfigV2.sample "out" "report").buildPlanWithProfile .reference .legacyV1 =
      .ok envelope ∧
    envelope.runtimeEnvelopes .reference = .ok runtimes ∧ runtimes.length = 2 ∧
    envelope.validateProfileBinding .reference = .ok () ∧
    ({envelope with plan := envelope.plan.redigested} :
      MatrixPlanEnvelopeV2).validateProfileBinding .reference ≠ .ok () := by
  have haccepted : ∃ envelope, (MatrixConfigV2.sample "out" "report").buildPlanWithProfile
      .reference .currentV2 = .ok envelope := overlay_sample_accepted _ _ (by decide +kernel)
  obtain ⟨envelope,hbuild,⟨order,runtimes,horder,hruntimes,hgroups⟩,hvalid,hbinds⟩ :=
    matrix_plan_bound .reference (MatrixConfigV2.sample "out" "report") .currentV2 .legacyV1
      haccepted
  have hlength : runtimes.length = 2 := hgroups.length_eq.symm.trans horder.length_eq
  refine ⟨envelope,runtimes,hbuild,hruntimes,hlength,hvalid,hbinds _ _ ?_
    MatrixPlanV2.redigested_noCollision⟩
  refine MatrixPlanV2.redigested_ne fun hnone => ?_
  rw [MatrixPlanEnvelopeV2.runtimeEnvelopes,hvalid,except_ok_bind,hnone] at hruntimes
  rw [← Except.ok.inj hruntimes] at hlength
  exact absurd hlength (by simp)

end CommitCiPreflight
