import CommitCiPreflight.SnapshotReceipt
import Mathlib.Algebra.Order.BigOperators.Group.List

/-! The storage budget: the plan's own sum, the free space that is asked for before a run, and the
bytes that an accepted artifact manifest can record. -/
namespace CommitCiPreflight

open Outcome

inductive StorageError
  | probe
  | policyOverflow
  | insufficient (availableBytes requiredBytes : UInt64)
  deriving DecidableEq

structure StoragePreflight where
  availableBytes : UInt64
  requiredBytes : UInt64
  deriving DecidableEq

def requiredBytes (policy : NormalizedStorage) : Outcome StorageError UInt64 :=
  ofOption .policyOverflow <|
    (checkedAdd policy.minFreeBytes policy.receiptJournalReserveBytes).bind fun total =>
      (checkedAdd total policy.maxCacheGrowthBytes).bind fun total =>
        checkedAdd total policy.maxArtifactBytes

/-- The probe's answer for the cache root is an argument. -/
def preflight (policy : NormalizedStorage) (probed : Outcome StorageError UInt64) :
    Outcome StorageError StoragePreflight := do
  let requiredBytes ← requiredBytes policy
  let availableBytes ← probed
  ensure (¬ availableBytes < requiredBytes) (.insufficient availableBytes requiredBytes)
  return ⟨availableBytes,requiredBytes⟩

theorem foldlM_checkedAdd_eq_some {α : Type} {f : α → UInt64} {as : List α} {total : UInt64} :
    as.foldlM (fun total a => checkedAdd total (f a)) 0 = some total ↔
      (as.map fun a => (f a).toNat).sum = total.toNat := by
  have hlt := total.toNat_lt
  rw [foldlM_checkedAdd,UInt64.toNat_zero,Nat.zero_add]
  split
  case isTrue h => rw [Option.some.injEq,← UInt64.toNat_inj,UInt64.toNat_ofNat_of_lt' h]
  case isFalse h => exact iff_of_false (by simp) (by omega)

def NormalizedStorage.budget (policy : NormalizedStorage) : ℕ :=
  policy.minFreeBytes.toNat+policy.receiptJournalReserveBytes.toNat+
    policy.maxCacheGrowthBytes.toNat+policy.maxArtifactBytes.toNat

theorem addFour_eq_some {policy : NormalizedStorage} {required : UInt64} :
    ((checkedAdd policy.minFreeBytes policy.receiptJournalReserveBytes).bind fun total =>
      (checkedAdd total policy.maxCacheGrowthBytes).bind fun total =>
        checkedAdd total policy.maxArtifactBytes) = some required ↔
      policy.budget = required.toNat := by
  have hrequired := required.toNat_lt
  simp only [Option.bind_eq_some_iff,checkedAdd_eq_some,NormalizedStorage.budget]
  constructor
  · rintro ⟨a,ha,b,hb,hc⟩
    omega
  · intro h
    refine ⟨UInt64.ofNat (policy.minFreeBytes.toNat+policy.receiptJournalReserveBytes.toNat),?_,
      UInt64.ofNat (policy.minFreeBytes.toNat+policy.receiptJournalReserveBytes.toNat+
        policy.maxCacheGrowthBytes.toNat),?_,?_⟩
    all_goals
      repeat rw [UInt64.toNat_ofNat_of_lt' (by simp [UInt64.size]; omega)]
    omega

theorem normalizeStorage_eq_some {schemaVersion : String} {storage : Option StorageConfig}
    {checks : List NormalizedCheck} {policy : NormalizedStorage}
    (h : normalizeStorage schemaVersion storage checks = .ok (some policy)) :
    policy.maxArtifactBytes.toNat =
        ((checks.flatMap (·.artifactContracts)).map fun c => c.maxBytes.toNat).sum ∧
      policy.budget ≤ maxStorageBytes.toNat := by
  unfold normalizeStorage at h
  split at h
  · simp [bind_eq_ok] at h
  · simp only [bind_eq_ok,exists_unit,ofOption_eq_ok,ensure_eq_ok,pure_eq,ok.injEq,
      Option.some.injEq] at h
    obtain ⟨declared,-,-,-,-,total,htotal,required,hrequired,hbound,rfl⟩ := h
    have hbudget : NormalizedStorage.budget ⟨declared.minFreeBytes,
        declared.receiptJournalReserveBytes,declared.maxCacheGrowthBytes,total⟩ = required.toNat :=
      addFour_eq_some.1 hrequired
    refine ⟨(foldlM_checkedAdd_eq_some.1 htotal).symm,?_⟩
    rw [hbudget]
    exact UInt64.le_iff_toNat_le.1 hbound

theorem sum_map_le_of_nodup {α : Type} {xs ys : List α} (f : α → ℕ) (hxs : xs.Nodup)
    (hsub : ∀ x ∈ xs, x ∈ ys) : (xs.map f).sum ≤ (ys.map f).sum := by
  obtain ⟨zs,hperm,hsublist⟩ := hxs.subperm hsub
  rw [← (hperm.map f).sum_nat]
  exact (hsublist.map f).sum_le_sum fun _ _ => Nat.zero_le _

theorem le_sum_map_of_mem {α : Type} {xs : List α} {x : α} (f : α → ℕ) (h : x ∈ xs) :
    f x ≤ (xs.map f).sum := by
  have hsum : ([x].map f).sum ≤ (xs.map f).sum :=
    sum_map_le_of_nodup f (List.nodup_singleton x) fun y hy => List.mem_singleton.1 hy ▸ h
  simpa using hsum

theorem manifest_records {receipt : ReceiptV2} (h : receipt.validateArtifactManifest = .ok ()) :
    (receipt.artifactManifest.map (·.path)).Nodup ∧ ∀ record ∈ receipt.artifactManifest,
      ∃ planned, (plannedArtifacts receipt.executionPlan.checks).get? record.path = some planned ∧
        record.totalBytes ≤ planned.maxBytes := by
  simp only [ReceiptV2.validateArtifactManifest,bind_eq_ok,ensure_eq_ok] at h
  obtain ⟨observed,hfold,-⟩ := h
  obtain ⟨hrecords,hdistinct,-⟩ := (fold_eq_ok_iff (observeArtifact_eq_ok _)
    (fun _ _ _ => OrderedSet.notMem_insert _ _ _)).1 hfold
  refine ⟨pairwise_ne_of_clash.1 hdistinct,fun record hrecord => ?_⟩
  obtain ⟨⟨planned,hplanned,hfits,-⟩,-⟩ := hrecords record hrecord
  exact ⟨planned,hplanned,hfits.2.2.2.2⟩

theorem manifest_bytes_le {receipt : ReceiptV2}
    (hnodup : ((receipt.executionPlan.checks.flatMap (·.artifactContracts)).map (·.path)).Nodup)
    (h : receipt.validateArtifactManifest = .ok ()) :
    (receipt.artifactManifest.map fun record => record.totalBytes.toNat).sum ≤
      ((receipt.executionPlan.checks.flatMap (·.artifactContracts)).map fun c => c.maxBytes.toNat).sum := by
  obtain ⟨hdistinct,hplanned⟩ := manifest_records h
  have hkeys : (((receipt.executionPlan.checks.flatMap (·.artifactContracts)).map
      fun c => (c.path,c)).map Prod.fst).Nodup := by
    simpa [Function.comp_def] using hnodup
  have hentries := OrderedMap.entries_ofList_perm hkeys
  have hplanned' : ∀ path, (plannedArtifacts receipt.executionPlan.checks).get? path =
      (OrderedMap.ofList ((receipt.executionPlan.checks.flatMap (·.artifactContracts)).map
        fun c => (c.path,c))).get? path := fun path => by rw [plannedArtifacts_eq]
  obtain ⟨limit,hlimit⟩ : ∃ limit : String → ℕ, ∀ path, limit path =
      (((plannedArtifacts receipt.executionPlan.checks).get? path).map (·.maxBytes.toNat)).getD 0 :=
    ⟨_,fun _ => rfl⟩
  have hcontract : ∀ c ∈ receipt.executionPlan.checks.flatMap (·.artifactContracts),
      limit c.path = c.maxBytes.toNat := by
    intro c hc
    have hget := OrderedMap.mem_entries.1 (hentries.mem_iff.2 (List.mem_map_of_mem hc))
    rw [hlimit,hplanned',hget]
    rfl
  have hmem : ∀ path ∈ receipt.artifactManifest.map (·.path),
      path ∈ (receipt.executionPlan.checks.flatMap (·.artifactContracts)).map (·.path) := by
    intro path hpath
    obtain ⟨record,hrecord,rfl⟩ := List.mem_map.1 hpath
    obtain ⟨planned,hget,-⟩ := hplanned record hrecord
    rw [hplanned'] at hget
    obtain ⟨c,hc,heq⟩ := List.mem_map.1 (hentries.mem_iff.1 (OrderedMap.mem_entries.2 hget))
    exact (Prod.mk.inj heq).1 ▸ List.mem_map_of_mem hc
  calc (receipt.artifactManifest.map fun record => record.totalBytes.toNat).sum
      ≤ (receipt.artifactManifest.map fun record => limit record.path).sum := by
        refine List.sum_le_sum fun record hrecord => ?_
        obtain ⟨planned,hget,hle⟩ := hplanned record hrecord
        rw [hlimit,hget]
        exact UInt64.le_iff_toNat_le.1 hle
    _ = ((receipt.artifactManifest.map (·.path)).map limit).sum := by rw [List.map_map]; rfl
    _ ≤ (((receipt.executionPlan.checks.flatMap (·.artifactContracts)).map (·.path)).map limit).sum :=
        sum_map_le_of_nodup limit hdistinct hmem
    _ = _ := by
        rw [List.map_map]
        exact congrArg List.sum (List.map_inj_left.2 hcontract)

/-- The budget of an accepted plan is exact at every place where it is used. -/
theorem storage_budget_exact {crates : Crates} {config : ConfigV1}
    {envelope : ExecutionPlanEnvelopeV1} (hplan : config.intoPlan crates = .ok envelope)
    (hschema : envelope.plan.schemaVersion = "1.2" ∨ envelope.plan.schemaVersion = "1.3") :
    ∃ policy, envelope.plan.storage = some policy ∧
      policy.maxArtifactBytes.toNat = ((envelope.plan.checks.flatMap (·.artifactContracts)).map
        fun c => c.maxBytes.toNat).sum ∧
      (∃ required, requiredBytes policy = .ok required ∧ required.toNat = policy.budget ∧
        policy.budget ≤ maxStorageBytes.toNat) ∧
      (∀ available, (∃ result, preflight policy (.ok available) = .ok result) ↔
        policy.budget ≤ available.toNat) ∧
      (∀ e result, preflight policy (.err e) ≠ .ok result) ∧
      ∀ receipt : ReceiptV2, receipt.executionPlan = envelope.plan →
        receipt.validateArtifactManifest = .ok () → ∃ total,
          receipt.artifactManifest.foldlM (fun total record => checkedAdd total record.totalBytes) 0 =
            some total ∧ total ≤ policy.maxArtifactBytes := by
  have haccepted := ConfigV1.intoPlan_eq_ok.1 hplan
  have hstorage := haccepted.storage
  rw [← haccepted.schemaVersion] at hstorage
  obtain ⟨policy,hpolicy⟩ : ∃ policy, envelope.plan.storage = some policy := by
    have hlisted : ¬ envelope.plan.schemaVersion ∉ ["1.2","1.3"] :=
      not_not.2 (List.mem_pair.2 hschema)
    rw [normalizeStorage,if_neg hlisted] at hstorage
    simp only [bind_eq_ok,exists_unit,pure_eq,ok.injEq] at hstorage
    obtain ⟨_,-,-,-,-,_,-,_,-,-,hsome⟩ := hstorage
    exact ⟨_,hsome.symm⟩
  rw [hpolicy] at hstorage
  obtain ⟨hartifacts,hbudget⟩ := normalizeStorage_eq_some hstorage
  have hbound : policy.budget < 2^64 := hbudget.trans_lt maxStorageBytes.toNat_lt
  have hnat : (UInt64.ofNat policy.budget).toNat = policy.budget := UInt64.toNat_ofNat_of_lt' hbound
  have hrequired : requiredBytes policy = .ok (UInt64.ofNat policy.budget) := by
    rw [requiredBytes,addFour_eq_some.2 hnat.symm]
    rfl
  refine ⟨policy,hpolicy,hartifacts,⟨_,hrequired,hnat,hbudget⟩,fun available => ?_,fun e result => ?_,
    fun receipt hreceipt hvalid => ?_⟩
  · have hroom : ¬ available < UInt64.ofNat policy.budget ↔ policy.budget ≤ available.toNat := by
      rw [UInt64.lt_iff_toNat_lt,hnat,not_lt]
    simp only [preflight,hrequired,ok_bind,bind_eq_ok,exists_unit,ensure_eq_ok,hroom,pure_eq,ok.injEq]
    simp
  · simp [preflight,hrequired]
  · have hnodup := contracts_nodup hplan
    rw [← hreceipt] at hnodup hartifacts
    have hle := manifest_bytes_le hnodup hvalid
    rw [← hartifacts] at hle
    have hlt := hle.trans_lt policy.maxArtifactBytes.toNat_lt
    refine ⟨UInt64.ofNat (receipt.artifactManifest.map fun record => record.totalBytes.toNat).sum,?_,?_⟩
    · rw [foldlM_checkedAdd_eq_some,UInt64.toNat_ofNat_of_lt' hlt]
    · rwa [UInt64.le_iff_toNat_le,UInt64.toNat_ofNat_of_lt' hlt]

def ConfigV1.sampleBudget : ConfigV1 :=
  { ConfigV1.sample [{ CheckConfig.sample "build" [] with
      artifacts := ["out","report"]
      artifactContracts := [⟨"out",.directory,1024,4⟩,⟨"report",.regularFile,512,1⟩] }] with
    schemaVersion := "1.2"
    storage := some ⟨1048576,4096,0⟩ }

theorem storage_budget_exact_sample : ∃ envelope policy,
    ConfigV1.sampleBudget.intoPlan .reference = .ok envelope ∧ envelope.plan.storage = some policy ∧
      policy.maxArtifactBytes.toNat = ((envelope.plan.checks.flatMap (·.artifactContracts)).map
        fun c => c.maxBytes.toNat).sum ∧
      ∀ available, (∃ result, preflight policy (.ok available) = .ok result) ↔
        policy.budget ≤ available.toNat := by
  obtain ⟨envelope,henvelope⟩ : ∃ envelope, ConfigV1.sampleBudget.intoPlan .reference =
      .ok envelope := exists_of_isSome (by decide +kernel)
  have hschema : envelope.plan.schemaVersion = "1.2" :=
    (ConfigV1.intoPlan_eq_ok.1 henvelope).schemaVersion
  obtain ⟨policy,hpolicy,hartifacts,-,hpreflight,-⟩ :=
    storage_budget_exact henvelope (Or.inl hschema)
  exact ⟨envelope,policy,henvelope,hpolicy,hartifacts,hpreflight⟩

end CommitCiPreflight
