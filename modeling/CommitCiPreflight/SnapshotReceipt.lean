import CommitCiPreflight.RunReceiptSpec

/-! The snapshot receipt: what the observer records fits the manifest that the receipt's plan
asks for. -/
namespace CommitCiPreflight

open Outcome Receipt Program

section Manifest

variable {crates : Crates} {contract : NormalizedArtifactContract} {pid : ℕ}

def RecordOf (crates : Crates) (contract : NormalizedArtifactContract) (record : ArtifactEvidence) :
    Prop :=
  ∃ entries : List ArtifactContentEntryV1, artifactEvidence crates contract entries = .ok record ∧
    (contract.kind = .regularFile → entries.length = 1)

theorem observeArtifactContract_ok {artifactRoot : HostPath} {disk disk' : Disk OsString}
    {record : ArtifactEvidence}
    (h : (observeArtifactContract crates contract artifactRoot).run.exec (Disk.perform pid) disk =
      (.ok record,disk')) : RecordOf crates contract record := by
  obtain ⟨⟨⟩,_,-,h⟩ := (exec_run_bind_eq_ok _).1 h
  obtain ⟨parent,_,-,h⟩ := (exec_run_bind_eq_ok _).1 h
  obtain ⟨⟨⟩,_,-,h⟩ := (exec_run_bind_eq_ok _).1 h
  obtain ⟨entries,_,htarget,h⟩ := (exec_run_bind_eq_ok _).1 h
  refine ⟨entries,(Prod.mk.inj h).1,fun hkind => ?_⟩
  unfold observeTarget at htarget
  split at htarget
  · obtain ⟨entry,_,-,htarget⟩ := (exec_run_bind_eq_ok _).1 htarget
    obtain rfl := Except.ok.inj (Prod.mk.inj htarget).1
    rfl
  · rename_i hdirectory
    rw [hkind] at hdirectory
    cases hdirectory

theorem observeContracts_ok {contracts : List NormalizedArtifactContract} {artifactRoot : HostPath}
    {disk disk' : Disk OsString} {records : List ArtifactEvidence}
    (h : (observeContracts crates artifactRoot contracts).run.exec (Disk.perform pid) disk =
      (.ok records,disk')) : List.Forall₂ (RecordOf crates) contracts records := by
  induction contracts generalizing disk disk' records with
  | nil =>
    obtain rfl := Except.ok.inj (Prod.mk.inj h).1
    exact .nil
  | cons contract contracts ih =>
    obtain ⟨record,_,hfirst,h⟩ := (exec_run_bind_eq_ok _).1 h
    obtain ⟨rest,_,hrest,h⟩ := (exec_run_bind_eq_ok _).1 h
    obtain rfl := Except.ok.inj (Prod.mk.inj h).1
    exact .cons (observeArtifactContract_ok hfirst) (ih hrest)

theorem observeArtifacts_ok {plan : ExecutionPlanV1} {runRoot : HostPath}
    {disk disk' : Disk OsString} {records : List ArtifactEvidence}
    (h : (observeArtifacts crates plan runRoot).run.exec (Disk.perform pid) disk =
      (.ok records,disk')) : List.Forall₂ (RecordOf crates) plan.sortedContracts records := by
  unfold observeArtifacts at h
  split at h
  · rename_i hnone
    obtain rfl := Except.ok.inj (Prod.mk.inj h).1
    exact hnone ▸ .nil
  · obtain ⟨⟨⟩,_,-,h⟩ := (exec_run_bind_eq_ok _).1 h
    exact observeContracts_ok h

theorem totalBytes_le {entries : List ArtifactContentEntryV1} {total sum : UInt64}
    (h : totalBytes contract total entries = some sum) (htotal : total ≤ contract.maxBytes) :
    sum ≤ contract.maxBytes := by
  induction entries generalizing total with
  | nil => exact Option.some.inj h ▸ htotal
  | cons entry entries ih =>
    obtain ⟨next,hnext,hrest⟩ := Option.bind_eq_some_iff.1 h
    exact ih hrest (by simpa using (Option.filter_eq_some_iff.1 hnext).2)

theorem RecordOf.fits {record : ArtifactEvidence} (h : RecordOf crates contract record) :
    record.path = contract.path ∧ record.kind = contract.kind ∧
      record.producerCheck = contract.producerCheck ∧
      ¬ (record.kind = .regularFile ∧ record.entryCount ≠ 1) ∧
      record.entryCount ≤ contract.maxEntries ∧ record.totalBytes ≤ contract.maxBytes ∧
      validateSha256 "artifact.manifest_digest" record.manifestDigest = .ok () := by
  obtain ⟨entries,hevidence,hsingle⟩ := h
  unfold artifactEvidence at hevidence
  split at hevidence
  · cases hevidence
  rename_i total htotal
  split at hevidence
  · cases hevidence
  rename_i hcount
  obtain rfl := Except.ok.inj hevidence
  refine ⟨rfl,rfl,rfl,?_,?_,totalBytes_le htotal UInt64.zero_le,validateSha256_canonicalDigest _ _ _⟩
  · rintro ⟨hkind,hone⟩
    exact hone (by rw [hsingle hkind]; rfl)
  · have hlimit := contract.maxEntries.toNat_lt
    rw [UInt64.le_iff_toNat_le,UInt64.toNat_ofNat_of_lt' (show entries.length < 2^64 by omega)]
    omega

theorem contracts_of_check {config : ConfigV1} {envelope : ExecutionPlanEnvelopeV1}
    (hplan : config.intoPlan crates = .ok envelope) {check : NormalizedCheck}
    (hcheck : check ∈ envelope.plan.checks) :
    (check.artifactContracts.map (·.path)).Nodup ∧
      ∀ path ∈ check.artifactContracts.map (·.path), path ∈ check.artifacts := by
  have hchecks := (ConfigV1.intoPlan_eq_ok.1 hplan).checks
  obtain ⟨declared,hdeclared,rfl⟩ :=
    List.mem_map.1 ((normalizeChecks_order hchecks).1.mem_iff.1 hcheck)
  have hvalid := (normalizeChecks_eq_ok.1 hchecks).2.1.1 declared hdeclared
  obtain ⟨hcontracts,hnodup⟩ := validateArtifactContracts_eq_ok.1 hvalid.contracts
  have hpaths : (normalizeCheck declared.sorted).artifactContracts.map (·.path) =
      declared.sorted.artifactContracts.map (·.path) := by
    simp [normalizeCheck,normalizeArtifactContract,Function.comp_def]
  rw [hpaths]
  refine ⟨hnodup,fun path hpath => ?_⟩
  obtain ⟨artifact,hartifact,rfl⟩ := List.mem_map.1 hpath
  exact (hcontracts artifact hartifact).listed.2

theorem contracts_nodup {config : ConfigV1} {envelope : ExecutionPlanEnvelopeV1}
    (hplan : config.intoPlan crates = .ok envelope) :
    ((envelope.plan.checks.flatMap (·.artifactContracts)).map (·.path)).Nodup := by
  have hartifacts : (envelope.plan.checks.flatMap (·.artifacts)).Nodup := by
    rw [← declaredArtifacts_map]
    refine List.pairwise_map.2 ((declaredArtifacts_apart hplan).imp fun {a b} hab he => ?_)
    exact hab.1 (he ▸ List.prefix_refl _)
  rw [List.map_flatMap,List.nodup_flatMap]
  refine ⟨fun check hcheck => (contracts_of_check hplan hcheck).1,?_⟩
  refine (List.nodup_flatMap.1 hartifacts).2.imp_of_mem fun {a b} ha hb hab => ?_
  exact List.disjoint_of_subset_left (contracts_of_check hplan ha).2
    (List.disjoint_of_subset_right (contracts_of_check hplan hb).2 hab)

theorem observeArtifact_eq_ok (expected : OrderedMap String NormalizedArtifactContract)
    (observed : OrderedSet String) (record : ArtifactEvidence) (observed' : OrderedSet String) :
    observeArtifact expected observed record = .ok observed' ↔
      (∃ planned, expected.get? record.path = some planned ∧
        (record.kind = planned.kind ∧ record.producerCheck = planned.producerCheck ∧
          ¬ (record.kind = .regularFile ∧ record.entryCount ≠ 1) ∧
          record.entryCount ≤ planned.maxEntries ∧ record.totalBytes ≤ planned.maxBytes) ∧
        validateSha256 "artifact.manifest_digest" record.manifestDigest = .ok ()) ∧
      record.path ∉ observed ∧ observed' = observed.insert record.path := by
  simp only [observeArtifact,bind_eq_ok,exists_unit,ofOption_eq_ok,ensure_eq_ok,pure_eq,ok.injEq,
    @eq_comm _ _ observed']
  constructor
  · rintro ⟨hfree,planned,hplanned,hfits,hdigest,h⟩
    exact ⟨⟨planned,hplanned,hfits,hdigest⟩,hfree,h⟩
  · rintro ⟨⟨planned,hplanned,hfits,hdigest⟩,hfree,h⟩
    exact ⟨hfree,planned,hplanned,hfits,hdigest,h⟩

theorem plannedArtifacts_eq (checks : List NormalizedCheck) :
    plannedArtifacts checks =
      .ofList ((checks.flatMap (·.artifactContracts)).map fun c => (c.path,c)) := by
  rw [plannedArtifacts,List.map_flatMap]

theorem validateArtifactManifest_ok {receipt : ReceiptV2}
    (hnodup : ((receipt.executionPlan.checks.flatMap (·.artifactContracts)).map (·.path)).Nodup)
    (h : List.Forall₂ (RecordOf crates) receipt.executionPlan.sortedContracts
      receipt.artifactManifest) : receipt.validateArtifactManifest = .ok () := by
  have hsorted := List.perm_insertionSort
    (fun left right : NormalizedArtifactContract => left.path ≤ right.path)
    (receipt.executionPlan.checks.flatMap (·.artifactContracts))
  have hkeys : (((receipt.executionPlan.checks.flatMap (·.artifactContracts)).map
      fun c => (c.path,c)).map Prod.fst).Nodup := by
    simpa [Function.comp_def] using hnodup
  have hpaths : receipt.artifactManifest.map (·.path) =
      receipt.executionPlan.sortedContracts.map (·.path) := by
    refine List.forall₂_eq_eq_eq ▸ ?_
    rw [List.forall₂_map_left_iff,List.forall₂_map_right_iff]
    exact (h.imp fun _ _ hrecord => RecordOf.fits hrecord |>.1).flip
  have hentries := OrderedMap.entries_ofList_perm hkeys
  have hdistinct : (receipt.artifactManifest.map (·.path)).Nodup :=
    hpaths ▸ (hsorted.map _).nodup_iff.2 hnodup
  rw [ReceiptV2.validateArtifactManifest,plannedArtifacts_eq]
  simp only [bind_eq_ok,ensure_eq_ok]
  refine ⟨.ofList (receipt.artifactManifest.map (·.path)),?_,?_,?_⟩
  · refine (fold_eq_ok_iff (observeArtifact_eq_ok _)
      (fun _ _ _ => OrderedSet.notMem_insert _ _ _)).2 ⟨fun record hrecord => ?_,
        pairwise_ne_of_clash.2 hdistinct,?_⟩
    · obtain ⟨contract,hcontract,hrecordOf⟩ := exists_of_forall₂ h hrecord
      obtain ⟨hpath,hkind,hproducer,hsingle,hcount,htotal,hdigest⟩ := hrecordOf.fits
      have hplanned := OrderedMap.mem_entries.1
        (hentries.mem_iff.2 (List.mem_map_of_mem (hsorted.mem_iff.1 hcontract)))
      exact ⟨⟨contract,hpath ▸ hplanned,⟨hkind,hproducer,hsingle,hcount,htotal⟩,hdigest⟩,
        OrderedSet.not_mem_empty _⟩
    · rw [OrderedSet.ofList,List.foldl_map]
  · rw [(OrderedSet.toList_ofList_perm hdistinct).length_eq,hentries.length_eq,hpaths,List.length_map,
      List.length_map]
    exact hsorted.length_eq
  · intro path hpath
    obtain ⟨entry,hentry,rfl⟩ := List.mem_map.1 hpath
    obtain ⟨contract,hcontract,rfl⟩ := List.mem_map.1 (hentries.mem_iff.1 hentry)
    rw [OrderedSet.mem_ofList,hpaths]
    exact List.mem_map_of_mem (hsorted.mem_iff.2 hcontract)

end Manifest

section Snapshot

variable {ρ : Type} {crates : Crates} {config : ConfigV1} {envelope : ExecutionPlanEnvelopeV1}
  {world : RunWorld ρ} {rendered : List ρ} {state : RunState}

theorem snapshotEvidence_valid (snapshot : SourceSnapshot) (h : snapshot.manifest.entries ≠ []) :
    (snapshot.evidence crates).validate = .ok () := by
  have hbound : snapshot.manifest.entries.length ≤ 50000 := snapshot.bounded
  have hcount : (snapshot.evidence crates).entryCount ≠ 0 := by
    intro hzero
    have hlength := congrArg UInt64.toNat hzero
    rw [SourceSnapshot.evidence,UInt64.toNat_ofNat_of_lt'
      (show _ < 2^64 by omega),UInt64.toNat_zero] at hlength
    exact h (List.eq_nil_of_length_eq_zero hlength)
  simp only [SourceSnapshotEvidence.validate,bind_eq_ok,exists_unit]
  exact ⟨ensure_eq_ok.2 rfl,requireText_canonicalDigest _ _ _,validateSha256_canonicalDigest _ _ _,
    ensure_eq_ok.2 hcount⟩

theorem findPlanned_ok (hplan : config.intoPlan crates = .ok envelope)
    (hrun : runChecks crates world envelope.plan rendered = .ok state) {check : NormalizedCheck}
    (hcheck : check ∈ envelope.plan.checks) : findPlanned state.checks check = .ok () := by
  have hassembled := runChecks_assembled hrun
  obtain ⟨-,hids,-⟩ := normalizeChecks_order (ConfigV1.intoPlan_eq_ok.1 hplan).checks
  obtain ⟨e,he,hattests⟩ := exists_of_forall₂ hassembled.attests hcheck
  simp only [findPlanned,bind_eq_ok,ofOption_eq_ok,ensure_eq_ok]
  cases hfind : state.checks.find? fun evidence => evidence.id = check.id with
  | none => exact absurd hattests.id (by simpa using List.find?_eq_none.1 hfind e he)
  | some found =>
    have hsame : found = e := List.inj_on_of_nodup_map (hassembled.ids ▸ hids)
      (List.mem_of_find?_eq_some hfind) he
      ((by simpa using List.find?_some hfind : found.id = check.id).trans hattests.id.symm)
    exact ⟨e,hsame ▸ rfl,hattests.required,hattests.argv,hattests.workingDirectory⟩

/-- The receipts of a run are sealed: the one of its commit and, over that one, a snapshot
receipt with any artifacts that were observed. -/
def RunInputs.Seals (inputs : RunInputs) (crates : Crates) (envelope : ExecutionPlanEnvelopeV1)
    (probe : RuntimeProbe) (state : RunState) : Prop :=
  ∃ sealed, inputs.sealReceipt crates envelope probe state = .ok sealed ∧
    ∀ (snapshot : SourceSnapshot) (probed : Option RuntimeCapabilityEvidenceV1) (runRoot : HostPath)
      (pid : ℕ) (disk disk' : Disk OsString) (artifactManifest : List ArtifactEvidence),
      snapshot.manifest.entries ≠ [] →
      (observeArtifacts crates envelope.plan runRoot).run.exec (Disk.perform pid) disk =
        (.ok artifactManifest,disk') →
      ∃ sealed', sealSnapshotReceipt crates (inputs.request envelope) snapshot sealed.receipt
        (preflightCapabilities envelope.plan probed) artifactManifest = .ok sealed'

theorem validateRuntimeCapabilityEvidence_ok {receipt : ReceiptV2}
    (hschema : receipt.executionPlan.schemaVersion ≠ "1.3")
    (hnone : receipt.runtimeCapabilityEvidence = none) :
    receipt.validateRuntimeCapabilityEvidence = .ok () := by
  rw [ReceiptV2.validateRuntimeCapabilityEvidence,if_neg hschema]
  exact ensure_eq_ok.2 hnone

/-- The snapshot receipt over a sealed one passes. -/
theorem snapshotReceipt_ok (hplan : config.intoPlan crates = .ok envelope)
    (hschema : envelope.plan.schemaVersion ≠ "1.3")
    (hrun : runChecks crates world envelope.plan rendered = .ok state) {answer : ProcessResult}
    {probe : RuntimeProbe} (hprobe : interpretDockerProbe crates answer = .ok probe)
    (inputs : RunInputs) (hvalid : ∀ e ∈ state.checks, e.validate = .ok ())
    {snapshot : SourceSnapshot} (hsnapshot : snapshot.manifest.entries ≠ [])
    (probed : Option RuntimeCapabilityEvidenceV1) {artifactManifest : List ArtifactEvidence}
    (hobserved : List.Forall₂ (RecordOf crates) envelope.plan.sortedContracts artifactManifest) :
    ∃ sealed, sealSnapshotReceipt crates (inputs.request envelope) snapshot
      (inputs.receipt crates envelope probe state) (preflightCapabilities envelope.plan probed)
      artifactManifest = .ok sealed := by
  have haccepted := ConfigV1.intoPlan_eq_ok.1 hplan
  have hdigest : envelope.planDigest = envelope.plan.digest crates := haccepted.digest
  have hcommon := (checksValid_iff hplan hrun probe inputs).2 hvalid
  have hsha : validateSha256 "configuration_digest" envelope.planDigest = .ok () :=
    hdigest ▸ validateSha256_canonicalDigest _ _ _
  have hfields := ReceiptCommon.validateFields_set hsha receiptV2SchemaVersion state.checks
    (fields_valid hplan hprobe inputs state)
  simp only [sealSnapshotReceipt,mapErr_eq_ok,ReceiptVersion.sealReceipt_eq_ok]
  refine ⟨_,ReceiptV2.validate_eq_ok.2 ⟨?_,snapshotEvidence_valid snapshot hsnapshot,hdigest,?_,?_,
    fun check hcheck => findPlanned_ok hplan hrun hcheck,
    validateArtifactManifest_ok (contracts_nodup hplan) hobserved⟩,rfl⟩
  · exact ReceiptCommon.validate_eq_ok.2 ⟨hfields,hcommon.valid,hcommon.nodup,hcommon.required,
      hcommon.overall,hcommon.reason⟩
  · exact validateRuntimeCapabilityEvidence_ok hschema (if_pos hschema)
  · exact (runChecks_assembled hrun).attests.length_eq.symm

/-- For plans without runtime capabilities, the receipts of a run are sealed exactly where no
check has a blank working directory and no check ends without success and without an exit
code. -/
theorem receipts_sealed_iff {ρ : Type} (crates : Crates) (config : ConfigV1)
    (envelope : ExecutionPlanEnvelopeV1) (hplan : config.intoPlan crates = .ok envelope)
    (hschema : config.schemaVersion ∈ ["1.0","1.1","1.2"]) (world : RunWorld ρ)
    (rendered : List ρ) (state : RunState)
    (hrun : runChecks crates world envelope.plan rendered = .ok state)
    (hresults : ∀ call ∈ state.calls, ∀ result, call.response = .ok result →
      result.cleanup = .verified ∧
        ∀ exit, result.exit = some exit → exit.success = true → exit.code = some 0)
    (answer : ProcessResult) (probe : RuntimeProbe)
    (hprobe : interpretDockerProbe crates answer = .ok probe) (inputs : RunInputs) :
    inputs.Seals crates envelope probe state ↔
      (∀ check ∈ config.checks, NonBlank check.workingDirectory) ∧
      ∀ call ∈ state.calls, ∀ result, call.response = .ok result → result.ExitReported := by
  have hevidence := evidence_valid_iff hplan hrun fun call hcall result hresponse =>
    (hresults call hcall result hresponse).2
  rw [← hevidence,← sealReceipt_ok_iff hplan hrun hprobe inputs]
  refine ⟨fun ⟨sealed,hsealed,_⟩ => ⟨sealed,hsealed⟩,fun ⟨sealed,hsealed⟩ => ?_⟩
  have hvalid := (sealReceipt_ok_iff hplan hrun hprobe inputs).1 ⟨sealed,hsealed⟩
  have hreceipt : sealed.receipt = inputs.receipt crates envelope probe state := by
    rw [sealReceipt_eq hplan hrun,mapErr_eq_ok,ReceiptVersion.sealReceipt_eq_ok] at hsealed
    rw [hsealed.2]
  have hplanSchema : envelope.plan.schemaVersion ≠ "1.3" := by
    rw [(ConfigV1.intoPlan_eq_ok.1 hplan).schemaVersion]
    rintro hnew
    rw [hnew] at hschema
    exact absurd hschema (by decide)
  refine ⟨sealed,hsealed,fun snapshot probed runRoot pid disk disk' records hsnapshot hobserved => ?_⟩
  rw [hreceipt]
  exact snapshotReceipt_ok hplan hplanSchema hrun hprobe inputs hvalid hsnapshot probed
    (observeArtifacts_ok hobserved)

end Snapshot

def ProcessResult.sample (exit : ExitOutcome) : ProcessResult :=
  ⟨.completed,.verified,some exit,.sampleEmpty,.sampleEmpty,1200⟩

def RunWorld.answering (result : ProcessResult) : RunWorld Unit where
  token := ⟨none⟩
  before _ := []
  during _ := []
  executeCheck _ _ _ := .ok result

def CheckConfig.sampleIn (directory : String) : CheckConfig :=
  { CheckConfig.sample "fmt" [] with workingDirectory := directory }

def ProcessResult.sampleProbe : ProcessResult :=
  { ProcessResult.sample ⟨true,some 0⟩ with
    stdout := {
      CapturedStream.sampleEmpty with
      bytes := Text.bytes "\x7b\"ServerVersion\":\"27.3.1\",\"OSType\":\"linux\"\x7d\n" } }

def RunInputs.sample : RunInputs where
  target := {
    os := "linux"
    arch := "x86_64"
    os_plain := ⟨by decide,List.all_eq_true.1 (by decide +kernel)⟩
    arch_plain := ⟨by decide,List.all_eq_true.1 (by decide +kernel)⟩ }
  generation := 1
  commit := "0123456789abcdef0123456789abcdef01234567"
  startedAtUtc := "2026-07-20T10:00:00Z"
  finishedAtUtc := "2026-07-20T10:05:00Z"
  commit_valid := ⟨by decide +kernel,by decide +kernel⟩
  started_valid := ⟨1784541600,by decide +kernel⟩
  finished_valid := ⟨1784541900,by decide +kernel⟩
  ordered := by decide +kernel

def sampleAnswers (directory : String) (result : ProcessResult) : Option (List (Option ProcessResult)) :=
  ((ConfigV1.sample [.sampleIn directory]).intoPlan .reference).toOption.bind fun envelope =>
    (runChecks .reference (.answering result) envelope.plan [()]).toOption.map fun state =>
      state.calls.map (·.response.toOption)

theorem exists_of_sampleAnswers {directory : String} {result : ProcessResult}
    (h : sampleAnswers directory result = some [some result]) :
    ∃ envelope state, (ConfigV1.sample [.sampleIn directory]).intoPlan .reference = .ok envelope ∧
      runChecks .reference (.answering result) envelope.plan [()] = .ok state ∧
      (∃ call, state.calls = [call]) ∧ ∀ call ∈ state.calls, call.response = .ok result := by
  obtain ⟨envelope,hplan,h⟩ := Option.bind_eq_some_iff.1 h
  obtain ⟨state,hrun,hcalls⟩ := Option.map_eq_some_iff.1 h
  obtain ⟨call,rest,hstate,hresponse,hrest⟩ := List.map_eq_cons_iff.1 hcalls
  rw [List.map_eq_nil_iff] at hrest
  subst hrest
  refine ⟨envelope,state,toOption_eq_some.1 hplan,toOption_eq_some.1 hrun,⟨call,hstate⟩,?_⟩
  intro other hother
  obtain rfl := List.mem_singleton.1 (hstate ▸ hother)
  cases hanswer : other.response with
  | error => simp [hanswer,Except.toOption] at hresponse
  | ok answer => simpa [hanswer,Except.toOption] using hresponse

theorem sample_reported {exit : ExitOutcome} {state : RunState}
    (hcalls : ∀ call ∈ state.calls, call.response = .ok (.sample exit))
    (hexit : exit.success = true → exit.code = some 0) :
    ∀ call ∈ state.calls, ∀ result, call.response = .ok result → result.cleanup = .verified ∧
      ∀ exit, result.exit = some exit → exit.success = true → exit.code = some 0 := by
  intro call hcall result hresponse
  obtain rfl := Except.ok.inj ((hcalls call hcall).symm.trans hresponse)
  refine ⟨rfl,fun other hother => ?_⟩
  exact Option.some.inj hother ▸ hexit

/-- A check that fails with exit code 1. -/
theorem receipts_sealed_iff_sample :
    ∃ envelope state probe,
      (ConfigV1.sample [.sampleIn "."]).intoPlan .reference = .ok envelope ∧
      runChecks .reference (.answering (.sample ⟨false,some 1⟩)) envelope.plan [()] = .ok state ∧
      interpretDockerProbe .reference .sampleProbe = .ok probe ∧
      RunInputs.sample.Seals .reference envelope probe state := by
  obtain ⟨envelope,state,hplan,hrun,-,hcalls⟩ :=
    exists_of_sampleAnswers (show sampleAnswers "." (.sample ⟨false,some 1⟩) = _ by decide +kernel)
  obtain ⟨probe,hprobe⟩ : ∃ probe, interpretDockerProbe .reference .sampleProbe = .ok probe :=
    exists_of_isSome (by decide +kernel)
  refine ⟨envelope,state,probe,hplan,hrun,hprobe,(receipts_sealed_iff .reference _ envelope hplan
    (by decide) _ _ state hrun (sample_reported hcalls (by decide)) _ probe hprobe .sample).2 ⟨?_,?_⟩⟩
  · intro check hcheck
    obtain rfl := List.mem_singleton.1 hcheck
    exact ⟨'.',by decide +kernel,by decide +kernel⟩
  · intro call hcall result hresponse _ _
    obtain rfl := Except.ok.inj ((hcalls call hcall).symm.trans hresponse)
    exact ⟨1,rfl,by decide⟩

/-- No receipt is sealed for a check that passes in the directory `" "`, nor for one that is
killed by a signal. -/
theorem receipts_not_sealed :
    (∃ envelope state,
      (ConfigV1.sample [.sampleIn " "]).intoPlan .reference = .ok envelope ∧
      runChecks .reference (.answering (.sample ⟨true,some 0⟩)) envelope.plan [()] = .ok state ∧
      ∀ answer probe, interpretDockerProbe .reference answer = .ok probe →
        ∀ inputs : RunInputs, ¬ inputs.Seals .reference envelope probe state) ∧
    ∃ envelope state,
      (ConfigV1.sample [.sampleIn "."]).intoPlan .reference = .ok envelope ∧
      runChecks .reference (.answering (.sample ⟨false,none⟩)) envelope.plan [()] = .ok state ∧
      ∀ answer probe, interpretDockerProbe .reference answer = .ok probe →
        ∀ inputs : RunInputs, ¬ inputs.Seals .reference envelope probe state := by
  constructor
  · obtain ⟨envelope,state,hplan,hrun,-,hcalls⟩ :=
      exists_of_sampleAnswers (show sampleAnswers " " (.sample ⟨true,some 0⟩) = _ by decide +kernel)
    refine ⟨envelope,state,hplan,hrun,fun answer probe hprobe inputs ⟨sealed,hsealed,_⟩ => ?_⟩
    have hvalid := (sealReceipt_ok_iff hplan hrun hprobe inputs).1 ⟨sealed,hsealed⟩
    obtain ⟨c,hc,hvisible⟩ := ((evidence_valid_iff hplan hrun fun call hcall result hresponse =>
      (sample_reported hcalls (by decide) call hcall result hresponse).2).1 hvalid).1 _
        (List.mem_singleton_self _)
    obtain rfl : c = ' ' := by simpa [CheckConfig.sampleIn] using hc
    exact absurd hvisible (by decide)
  · obtain ⟨envelope,state,hplan,hrun,⟨call,hcall⟩,hcalls⟩ :=
      exists_of_sampleAnswers (show sampleAnswers "." (.sample ⟨false,none⟩) = _ by decide +kernel)
    refine ⟨envelope,state,hplan,hrun,fun answer probe hprobe inputs ⟨sealed,hsealed,_⟩ => ?_⟩
    have hvalid := (sealReceipt_ok_iff hplan hrun hprobe inputs).1 ⟨sealed,hsealed⟩
    have hmem : call ∈ state.calls := hcall ▸ List.mem_singleton_self _
    obtain ⟨code,hcode,-⟩ := ((evidence_valid_iff hplan hrun fun call hcall result hresponse =>
      (sample_reported hcalls (by decide) call hcall result hresponse).2).1 hvalid).2 call hmem _
        (hcalls call hmem) rfl (by decide)
    cases hcode

end CommitCiPreflight
