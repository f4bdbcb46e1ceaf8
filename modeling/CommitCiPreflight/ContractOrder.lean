import CommitCiPreflight.ConfigPaths
import CommitCiPreflight.ConfigTotal

/-! The order of the artifact contracts inside a check. It is the one declared list that
normalization keeps as written, so it reaches the plan and its digest. -/
namespace CommitCiPreflight

open Outcome GreedyOrder

def CheckConfig.setContracts (id : String) (contracts : List ArtifactContractConfig)
    (check : CheckConfig) : CheckConfig :=
  if check.id = id then { check with artifactContracts := contracts } else check

def ConfigV1.setContracts (config : ConfigV1) (id : String)
    (contracts : List ArtifactContractConfig) : ConfigV1 :=
  { config with checks := config.checks.map (CheckConfig.setContracts id contracts) }

section SetContracts

variable (id : String) (contracts : List ArtifactContractConfig) (check : CheckConfig)

@[simp] theorem setContracts_id : (check.setContracts id contracts).id = check.id := by
  unfold CheckConfig.setContracts
  split <;> rfl

@[simp] theorem setContracts_required :
    (check.setContracts id contracts).required = check.required := by
  unfold CheckConfig.setContracts
  split <;> rfl

@[simp] theorem setContracts_dependsOn :
    (check.setContracts id contracts).dependsOn = check.dependsOn := by
  unfold CheckConfig.setContracts
  split <;> rfl

@[simp] theorem setContracts_artifacts :
    (check.setContracts id contracts).artifacts = check.artifacts := by
  unfold CheckConfig.setContracts
  split <;> rfl

end SetContracts

structure ArtifactContractConfig.Valid (artifacts : List String)
    (artifact : ArtifactContractConfig) : Prop where
  path : validateRelativePath "check.artifact_contracts.path" artifact.path = .ok ()
  listed : artifact.path ≠ "." ∧ artifact.path ∈ artifacts
  maxBytes : validateBounded "check.artifact_contracts.max_bytes" artifact.maxBytes 1 1073741824 =
    .ok ()
  maxEntries : validateBounded "check.artifact_contracts.max_entries" artifact.maxEntries 1
    (maximumEntries artifact.kind) = .ok ()
  single : ¬ (artifact.kind = .regularFile ∧ artifact.maxEntries ≠ 1)

theorem validateArtifactContract_eq_ok (artifacts : List String) (paths : OrderedSet String)
    (artifact : ArtifactContractConfig) (paths' : OrderedSet String) :
    validateArtifactContract artifacts paths artifact = .ok paths' ↔
      artifact.Valid artifacts ∧ artifact.path ∉ paths ∧ paths' = paths.insert artifact.path := by
  simp only [validateArtifactContract,bind_eq_ok,exists_unit,ensure_eq_ok,pure_eq,ok.injEq,
    @eq_comm _ _ paths']
  constructor
  · rintro ⟨hpath,hlisted,hfree,hbytes,hentries,hsingle,h⟩
    exact ⟨⟨hpath,hlisted,hbytes,hentries,hsingle⟩,hfree,h⟩
  · rintro ⟨⟨hpath,hlisted,hbytes,hentries,hsingle⟩,hfree,h⟩
    exact ⟨hpath,hlisted,hfree,hbytes,hentries,hsingle,h⟩

variable {check : CheckConfig} {contracts : List ArtifactContractConfig} {config : ConfigV1}

theorem validateArtifactContracts_eq_ok :
    validateArtifactContracts check = .ok () ↔
      (∀ artifact ∈ check.artifactContracts, artifact.Valid check.artifacts) ∧
        (check.artifactContracts.map (·.path)).Nodup := by
  simp only [validateArtifactContracts,bind_eq_ok,fold_eq_ok_iff
    (validateArtifactContract_eq_ok check.artifacts) (fun _ _ _ => OrderedSet.notMem_insert _ _ _),
    pairwise_ne_of_clash,pure_eq]
  simp

theorem CheckConfig.Valid.withContracts (h : check.Valid)
    (hperm : contracts.Perm check.artifactContracts) :
    { check with artifactContracts := contracts }.Valid where
  fields := h.fields
  dependsOn := h.dependsOn
  dependsOn_nodup := h.dependsOn_nodup
  artifacts := h.artifacts
  artifacts_nodup := h.artifacts_nodup
  notRoot := h.notRoot
  contracts := by
    have hcontracts := h.contracts
    rw [validateArtifactContracts_eq_ok] at hcontracts ⊢
    exact ⟨fun artifact ha => hcontracts.1 artifact (hperm.mem_iff.1 ha),
      (hperm.map _).nodup_iff.2 hcontracts.2⟩

theorem topologicalChecks_accepts_iff {byId : OrderedMap String CheckConfig}
    (hwf : WellFormed byId) : (∃ out, topologicalChecks byId = .ok out) ↔
      ¬ ∃ a, Relation.TransGen (DependsOn (dependsOnOf byId)) a a := by
  rw [← (topologicalChecks_cycle hwf).1]
  obtain ⟨placed,ordered,-,-,-,hresult⟩ := topologicalChecks_eq hwf
  rw [hresult]
  split <;> simp

theorem foldlM_checkedAdd {α : Type} (f : α → UInt64) (as : List α) (total : UInt64) :
    as.foldlM (fun total a => checkedAdd total (f a)) total =
      if total.toNat+(as.map fun a => (f a).toNat).sum < 2^64 then
        some (UInt64.ofNat (total.toNat+(as.map fun a => (f a).toNat).sum)) else none := by
  induction as generalizing total with
  | nil =>
    have hlt := total.toNat_lt
    simp [hlt]
  | cons a as ih =>
    rw [List.foldlM_cons,checkedAdd,List.map_cons,List.sum_cons]
    by_cases h : total.toNat+(f a).toNat < 2^64
    · have hsum : (total+f a).toNat = total.toNat+(f a).toNat := by
        rw [UInt64.toNat_add,Nat.mod_eq_of_lt h]
      simp only [if_pos h,Option.bind_eq_bind,Option.bind_some,ih,hsum,Nat.add_assoc]
    · rw [if_neg h,if_neg (by omega)]
      rfl

theorem foldlM_checkedAdd_perm {α : Type} {f : α → UInt64} {as bs : List α}
    (h : (as.map f).Perm (bs.map f)) :
    as.foldlM (fun total a => checkedAdd total (f a)) 0 =
      bs.foldlM (fun total a => checkedAdd total (f a)) 0 := by
  have hsum : (as.map fun a => (f a).toNat).sum = (bs.map fun a => (f a).toNat).sum := by
    simpa [Function.comp_def] using (h.map UInt64.toNat).sum_nat
  rw [foldlM_checkedAdd,foldlM_checkedAdd,hsum]

theorem normalizeStorage_congr (schemaVersion : String) (storage : Option StorageConfig)
    {as bs : List NormalizedCheck}
    (h : ((as.flatMap (·.artifactContracts)).map (·.maxBytes)).Perm
      ((bs.flatMap (·.artifactContracts)).map (·.maxBytes))) :
    normalizeStorage schemaVersion storage as = normalizeStorage schemaVersion storage bs := by
  unfold normalizeStorage
  rw [foldlM_checkedAdd_perm h]

section Reorder

variable {checks : List CheckConfig} {check : CheckConfig}
  {contracts : List ArtifactContractConfig}

theorem eq_of_id_eq (hids : (checks.map (·.id)).Nodup) (hcheck : check ∈ checks)
    {c : CheckConfig} (hc : c ∈ checks) (hid : c.id = check.id) : c = check :=
  List.inj_on_of_nodup_map hids hc hcheck hid

theorem map_id_setContracts (checks : List CheckConfig) (id : String)
    (contracts : List ArtifactContractConfig) :
    (checks.map (CheckConfig.setContracts id contracts)).map (·.id) = checks.map (·.id) := by
  simp

theorem normalizeChecks_setContracts (hcheck : check ∈ checks)
    (hperm : contracts.Perm check.artifactContracts) {out : List NormalizedCheck}
    (h : normalizeChecks checks = .ok out) :
    ∃ out', normalizeChecks (checks.map (CheckConfig.setContracts check.id contracts)) = .ok out' := by
  obtain ⟨⟨hne,hlength,hrequired⟩,⟨hvalid,hids⟩,hdeps,htop⟩ := normalizeChecks_eq_ok.1 h
  have hids' := (map_id_setContracts checks check.id contracts).symm ▸ hids
  have hnamed := (validateDependencies_checksById hids).1 hdeps
  have hnamed' : ∀ c ∈ checks.map (CheckConfig.setContracts check.id contracts),
      ∀ d ∈ c.dependsOn, d ≠ c.id ∧
        ∃ e ∈ checks.map (CheckConfig.setContracts check.id contracts), e.id = d := by
    simpa using hnamed
  have hwf := wellFormed_checksById hids fun c hc d hd => (hnamed c hc d hd).2
  have hwf' := wellFormed_checksById hids' fun c hc d hd => (hnamed' c hc d hd).2
  have hgraph : DeclaredDependency (checks.map (CheckConfig.setContracts check.id contracts)) =
      DeclaredDependency checks := by
    funext a b
    simp [DeclaredDependency]
  obtain ⟨out',hout'⟩ := (topologicalChecks_accepts_iff hwf').2 (by
    rw [dependsOn_checksById hids',hgraph,← dependsOn_checksById hids]
    exact (topologicalChecks_accepts_iff hwf).1 ⟨out,htop⟩)
  refine ⟨out',normalizeChecks_eq_ok.2 ⟨⟨by simpa using hne,by simpa using hlength,?_⟩,⟨?_,hids'⟩,
    (validateDependencies_checksById hids').2 hnamed',hout'⟩⟩
  · simpa [List.any_map,Function.comp_def] using hrequired
  · intro c' hc'
    obtain ⟨c,hc,rfl⟩ := List.mem_map.1 hc'
    unfold CheckConfig.setContracts
    split
    · rename_i hid
      rw [eq_of_id_eq hids hcheck hc hid]
      exact (hvalid check hcheck).withContracts hperm
    · exact hvalid c hc

theorem maxBytes_perm (hids : (checks.map (·.id)).Nodup) (hcheck : check ∈ checks)
    (hperm : contracts.Perm check.artifactContracts) {out out' : List NormalizedCheck}
    (h : normalizeChecks checks = .ok out)
    (h' : normalizeChecks (checks.map (CheckConfig.setContracts check.id contracts)) = .ok out') :
    ((out'.flatMap (·.artifactContracts)).map (·.maxBytes)).Perm
      ((out.flatMap (·.artifactContracts)).map (·.maxBytes)) := by
  have hout := ((normalizeChecks_order h).1.flatMap_right (·.artifactContracts)).map (·.maxBytes)
  have hout' := ((normalizeChecks_order h').1.flatMap_right (·.artifactContracts)).map (·.maxBytes)
  refine hout'.trans (List.Perm.trans ?_ hout.symm)
  rw [List.flatMap_map,List.flatMap_map,List.flatMap_map,List.map_flatMap,List.map_flatMap]
  refine List.Perm.flatMap_left _ fun c hc => ?_
  by_cases hid : c.id = check.id
  · rw [eq_of_id_eq hids hcheck hc hid]
    simpa [CheckConfig.setContracts,CheckConfig.sorted,normalizeCheck,Function.comp_def,
      normalizeArtifactContract] using hperm.map (·.maxBytes)
  · rw [CheckConfig.setContracts,if_neg hid]

end Reorder

theorem intoPlan_setContracts {crates : Crates} {envelope : ExecutionPlanEnvelopeV1}
    (h : config.intoPlan crates = .ok envelope) (hcheck : check ∈ config.checks)
    (hperm : contracts.Perm check.artifactContracts) :
    ∃ envelope', (config.setContracts check.id contracts).intoPlan crates = .ok envelope' := by
  have ha := ConfigV1.intoPlan_eq_ok.1 h
  have hids := (normalizeChecks_eq_ok.1 ha.checks).2.1.2
  obtain ⟨out,hout⟩ := normalizeChecks_setContracts hcheck hperm ha.checks
  have hbytes := maxBytes_perm hids hcheck hperm ha.checks hout
  have hpaths : (reservedPaths envelope.plan.receipt envelope.plan.caches out).Perm
      (reservedPaths envelope.plan.receipt envelope.plan.caches envelope.plan.checks) := by
    refine List.Perm.append_left _ ((artifacts_perm hout).trans ?_)
    simpa [List.flatMap_map] using (artifacts_perm ha.checks).symm
  have hisolation := ha.isolation
  rw [validatePathIsolation_eq_ok,← hpaths.pairwise_iff
    fun {p q} hpq => pathsOverlap_comm p q ▸ hpq,← validatePathIsolation_eq_ok] at hisolation
  have hstorage := normalizeStorage_congr config.schemaVersion config.storage hbytes
  let plan := { envelope.plan with checks := out }
  exact ⟨⟨plan.digest crates,plan,config.environment.fixed⟩,ConfigV1.intoPlan_eq_ok.2
    ⟨ha.topLevel,ha.caches,ha.runtime,ha.environment,hout,hstorage.trans ha.storage,hisolation,
      ha.receipt,ha.schemaVersion,ha.project,rfl,rfl⟩⟩

theorem normalizeArtifactContract_injective (producer : String) :
    Function.Injective (normalizeArtifactContract producer) := by
  rintro ⟨_,_,_,_⟩ ⟨_,_,_,_⟩ h
  simpa [normalizeArtifactContract] using h

/-- The plan lists the contracts of a check as they are declared. -/
theorem contracts_eq_of_plan_eq {crates : Crates} {envelope envelope' : ExecutionPlanEnvelopeV1}
    (h : config.intoPlan crates = .ok envelope) (hcheck : check ∈ config.checks)
    (h' : (config.setContracts check.id contracts).intoPlan crates = .ok envelope')
    (hplan : envelope'.plan = envelope.plan) : contracts = check.artifactContracts := by
  obtain ⟨hperm,hnodup,-⟩ := normalizeChecks_order (ConfigV1.intoPlan_eq_ok.1 h).checks
  obtain ⟨hperm',-,-⟩ := normalizeChecks_order (ConfigV1.intoPlan_eq_ok.1 h').checks
  have hold : normalizeCheck check.sorted ∈ envelope.plan.checks :=
    hperm.mem_iff.2 (List.mem_map.2 ⟨check,hcheck,rfl⟩)
  have hnew : normalizeCheck (check.setContracts check.id contracts).sorted ∈
      envelope.plan.checks := by
    rw [← hplan,hperm'.mem_iff]
    exact List.mem_map.2 ⟨_,List.mem_map.2 ⟨check,hcheck,rfl⟩,rfl⟩
  have hsame := List.inj_on_of_nodup_map hnodup hnew hold (by
    simp [normalizeCheck,CheckConfig.sorted])
  have hlists := congrArg NormalizedCheck.artifactContracts hsame
  simp only [normalizeCheck,CheckConfig.sorted,CheckConfig.setContracts,if_true] at hlists
  exact List.map_injective_iff.2 (normalizeArtifactContract_injective _) hlists

theorem setContracts_self (hids : (config.checks.map (·.id)).Nodup)
    (hcheck : check ∈ config.checks) :
    config.setContracts check.id check.artifactContracts = config := by
  have hmap : config.checks.map (CheckConfig.setContracts check.id check.artifactContracts) =
      config.checks := by
    refine (List.map_congr_left fun c hc => ?_).trans (List.map_id _)
    unfold CheckConfig.setContracts
    split
    · rename_i hid
      rw [eq_of_id_eq hids hcheck hc hid]
      rfl
    · rfl
  rw [ConfigV1.setContracts,hmap]

/-- Reordering the artifact contracts of a check leaves the plan and its digest unchanged
exactly when the check has no two contracts to reorder. -/
theorem intoPlan_contract_order_iff {crates : Crates} {config : ConfigV1}
    {envelope : ExecutionPlanEnvelopeV1} (h : config.intoPlan crates = .ok envelope)
    {check : CheckConfig} (hcheck : check ∈ config.checks) :
    (∀ contracts envelope', contracts.Perm check.artifactContracts →
      (config.setContracts check.id contracts).intoPlan crates = .ok envelope' →
        envelope'.plan = envelope.plan ∧ envelope'.planDigest = envelope.planDigest) ↔
      check.artifactContracts.length ≤ 1 := by
  have haccepted := normalizeChecks_eq_ok.1 (ConfigV1.intoPlan_eq_ok.1 h).checks
  have hids := haccepted.2.1.2
  constructor
  · intro hall
    by_contra hlong
    obtain ⟨a,b,rest,hlist⟩ : ∃ a b rest, check.artifactContracts = a::b::rest := by
      match hc : check.artifactContracts with
      | [] | [_] => simp [hc] at hlong
      | a::b::rest => exact ⟨a,b,rest,rfl⟩
    have hswap : (b::a::rest).Perm check.artifactContracts := hlist ▸ List.Perm.swap a b rest
    obtain ⟨envelope',henvelope'⟩ := intoPlan_setContracts h hcheck hswap
    have hsame := contracts_eq_of_plan_eq h hcheck henvelope' (hall _ _ hswap henvelope').1
    have hpaths := (validateArtifactContracts_eq_ok.1 (haccepted.2.1.1 check hcheck).contracts).2
    simp only [CheckConfig.sorted,hlist,List.map_cons,List.nodup_cons,List.mem_cons] at hpaths
    rw [hlist,List.cons.injEq] at hsame
    exact hpaths.1 (Or.inl (congrArg _ hsame.1.symm))
  · intro hshort contracts envelope' hperm henvelope'
    have heq : contracts = check.artifactContracts := by
      match hc : check.artifactContracts with
      | [] => simpa [hc] using hperm
      | [a] => simpa [hc] using hperm
      | a::b::rest => simp [hc] at hshort
    rw [heq,setContracts_self hids hcheck,h,ok.injEq] at henvelope'
    exact ⟨henvelope' ▸ rfl,henvelope' ▸ rfl⟩

def CheckConfig.sampleContracts (contracts : List ArtifactContractConfig) : CheckConfig :=
  { CheckConfig.sample "build" [] with
    artifacts := ["dist/app","dist/notes"]
    artifactContracts := contracts }

def ArtifactContractConfig.sample (path : String) : ArtifactContractConfig :=
  ⟨path,.regularFile,1024,1⟩

def ConfigV1.sampleContracts (paths : List String) : ConfigV1 :=
  .sample [.sampleContracts (paths.map .sample)]

theorem intoPlan_contract_order_iff_samples :
    (∃ envelope, (ConfigV1.sampleContracts ["dist/app"]).intoPlan .reference = .ok envelope ∧
      ∀ contracts envelope', contracts.Perm [.sample "dist/app"] →
        ((ConfigV1.sampleContracts ["dist/app"]).setContracts "build" contracts).intoPlan
          .reference = .ok envelope' →
        envelope'.plan = envelope.plan ∧ envelope'.planDigest = envelope.planDigest) ∧
    ∃ envelope, (ConfigV1.sampleContracts ["dist/app","dist/notes"]).intoPlan .reference =
        .ok envelope ∧
      ¬ ∀ contracts envelope', contracts.Perm [.sample "dist/app",.sample "dist/notes"] →
        ((ConfigV1.sampleContracts ["dist/app","dist/notes"]).setContracts "build"
          contracts).intoPlan .reference = .ok envelope' →
        envelope'.plan = envelope.plan ∧ envelope'.planDigest = envelope.planDigest := by
  obtain ⟨one,hone⟩ : ∃ envelope, (ConfigV1.sampleContracts ["dist/app"]).intoPlan .reference =
      .ok envelope := exists_of_isSome (by decide +kernel)
  obtain ⟨two,htwo⟩ : ∃ envelope, (ConfigV1.sampleContracts ["dist/app","dist/notes"]).intoPlan
      .reference = .ok envelope := exists_of_isSome (by decide +kernel)
  refine ⟨⟨one,hone,?_⟩,two,htwo,fun hall => ?_⟩
  · exact (intoPlan_contract_order_iff hone List.mem_cons_self).2 (by decide)
  · exact absurd ((intoPlan_contract_order_iff htwo List.mem_cons_self).1 hall) (by decide)

/-- Two contracts swapped: both configurations are accepted, with different plans. -/
theorem contract_order_changes_plan :
    ConfigV1.sampleContracts ["dist/notes","dist/app"] =
      (ConfigV1.sampleContracts ["dist/app","dist/notes"]).setContracts "build"
        (["dist/notes","dist/app"].map .sample) ∧
    ∃ envelope envelope',
      (ConfigV1.sampleContracts ["dist/app","dist/notes"]).intoPlan .reference = .ok envelope ∧
      (ConfigV1.sampleContracts ["dist/notes","dist/app"]).intoPlan .reference = .ok envelope' ∧
      envelope'.plan ≠ envelope.plan := by
  have hdiffer : ((ConfigV1.sampleContracts ["dist/app","dist/notes"]).intoPlan
      .reference).toOption.bind (fun envelope => ((ConfigV1.sampleContracts
        ["dist/notes","dist/app"]).intoPlan .reference).toOption.map fun envelope' =>
          decide (envelope'.plan ≠ envelope.plan)) = some true := by decide +kernel
  obtain ⟨envelope,henvelope,hrest⟩ := Option.bind_eq_some_iff.1 hdiffer
  obtain ⟨envelope',henvelope',hdiffer⟩ := Option.map_eq_some_iff.1 hrest
  exact ⟨rfl,envelope,envelope',toOption_eq_some.1 henvelope,toOption_eq_some.1 henvelope',
    of_decide_eq_true hdiffer⟩

end CommitCiPreflight
