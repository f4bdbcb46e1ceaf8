import CommitCiPreflight.ConfigTotal

/-! Configurations that differ in the order of their lists. Every stage of `into_plan`
accepts a reordering exactly when it accepts the original, and returns the same result. -/
namespace CommitCiPreflight

open Outcome

/-- The same check with its dependencies and artifacts listed in another order. -/
structure CheckConfig.Reordered (a b : CheckConfig) : Prop where
  id : a.id = b.id
  required : a.required = b.required
  argv : a.argv = b.argv
  workingDirectory : a.workingDirectory = b.workingDirectory
  timeoutSeconds : a.timeoutSeconds = b.timeoutSeconds
  dependsOn : a.dependsOn.Perm b.dependsOn
  artifacts : a.artifacts.Perm b.artifacts
  artifactContracts : a.artifactContracts = b.artifactContracts

structure EnvironmentConfig.Reordered (a b : EnvironmentConfig) : Prop where
  allow : a.allow.Perm b.allow
  fixed : a.fixed = b.fixed
  runtimeInternal : a.runtimeInternal.Perm b.runtimeInternal
  remoteSecretOnly : a.remoteSecretOnly.Perm b.remoteSecretOnly

/-- The same configuration with its lists in another order: checks, caches, environment
names, and the dependencies and artifacts inside each check. -/
structure ConfigV1.Reordered (a b : ConfigV1) : Prop where
  schemaVersion : a.schemaVersion = b.schemaVersion
  project : a.project = b.project
  runtime : a.runtime = b.runtime
  receipt : a.receipt = b.receipt
  environment : a.environment.Reordered b.environment
  caches : a.caches.Perm b.caches
  storage : a.storage = b.storage
  checks : ∃ moved, a.checks.Perm moved ∧ List.Forall₂ CheckConfig.Reordered moved b.checks

theorem normalizeCaches_of_perm {as bs : List CacheConfig} (h : as.Perm bs)
    {out : List NormalizedCache} (hok : normalizeCaches as = .ok out) :
    normalizeCaches bs = .ok out := by
  rw [normalizeCaches_eq_ok] at hok ⊢
  obtain ⟨hlength,hvalid,hids,hmounts,rfl⟩ := hok
  refine ⟨h.length_eq ▸ hlength,fun cache hc => hvalid cache (h.mem_iff.2 hc),
    (h.map _).nodup_iff.1 hids,(h.map _).nodup_iff.1 hmounts,?_⟩
  rw [OrderedMap.ofList_eq_of_perm (h.map _)]
  simpa [Function.comp_def] using hids

theorem CheckConfig.Reordered.symm {a b : CheckConfig} (h : a.Reordered b) : b.Reordered a :=
  ⟨h.id.symm,h.required.symm,h.argv.symm,h.workingDirectory.symm,h.timeoutSeconds.symm,
    h.dependsOn.symm,h.artifacts.symm,h.artifactContracts.symm⟩

theorem CheckConfig.Reordered.sorted_eq {a b : CheckConfig} (h : a.Reordered b) :
    a.sorted = b.sorted := by
  simp only [CheckConfig.sorted,h.id,h.required,h.argv,h.workingDirectory,h.timeoutSeconds,
    h.artifactContracts,OrderedSet.ofList_eq_of_perm h.dependsOn,
    OrderedSet.ofList_eq_of_perm h.artifacts]

theorem CheckConfig.Reordered.valid {a b : CheckConfig} (h : a.Reordered b) (ha : a.Valid) :
    b.Valid where
  fields := by
    rw [← ha.fields]
    simp only [validateCheck,h.id,h.argv,h.workingDirectory,h.timeoutSeconds]
  dependsOn d hd := ha.dependsOn d (h.dependsOn.mem_iff.2 hd)
  dependsOn_nodup := h.dependsOn.nodup_iff.1 ha.dependsOn_nodup
  artifacts a ha' := ha.artifacts a (h.artifacts.mem_iff.2 ha')
  artifacts_nodup := h.artifacts.nodup_iff.1 ha.artifacts_nodup
  notRoot hroot := ha.notRoot (h.artifacts.mem_iff.2 hroot)
  contracts := h.sorted_eq ▸ ha.contracts

theorem normalizeChecks_of_perm {as bs : List CheckConfig} (h : as.Perm bs)
    {out : List NormalizedCheck} (hok : normalizeChecks as = .ok out) :
    normalizeChecks bs = .ok out := by
  rw [normalizeChecks_eq_ok] at hok ⊢
  obtain ⟨⟨hne,hlength,hrequired⟩,⟨hvalid,hids⟩,hdeps,htop⟩ := hok
  have hbyId : checksById as = checksById bs :=
    OrderedMap.ofList_eq_of_perm (h.map _) (checksById_keys_nodup hids)
  rw [List.any_eq_true] at hrequired ⊢
  obtain ⟨check,hcheck,hrequired⟩ := hrequired
  exact ⟨⟨fun he => hne (List.Perm.eq_nil (he ▸ h)),h.length_eq ▸ hlength,check,h.mem_iff.1 hcheck,hrequired⟩,
    ⟨fun check hc => hvalid check (h.mem_iff.2 hc),(h.map _).nodup_iff.1 hids⟩,hbyId ▸ hdeps,
    hbyId ▸ htop⟩

theorem normalizeChecks_of_forall₂ {as bs : List CheckConfig}
    (h : List.Forall₂ CheckConfig.Reordered as bs) {out : List NormalizedCheck}
    (hok : normalizeChecks as = .ok out) : normalizeChecks bs = .ok out := by
  have hmap : ∀ {β : Type} (f : CheckConfig → β), (∀ a b, a.Reordered b → f a = f b) →
      as.map f = bs.map f := by
    intro β f hf
    exact map_eq_map_iff_forall₂.2 (h.imp hf)
  have hmem : ∀ b ∈ bs, ∃ a ∈ as, a.Reordered b := by
    intro b hb
    obtain ⟨i,hi,rfl⟩ := List.getElem_of_mem hb
    have hlt : i < as.length := h.length_eq ▸ hi
    exact ⟨as[i],List.getElem_mem hlt,List.Forall₂.get h hlt hi⟩
  rw [normalizeChecks_eq_ok] at hok ⊢
  obtain ⟨⟨hne,hlength,hrequired⟩,⟨hvalid,hids⟩,hdeps,htop⟩ := hok
  have hbyId : checksById as = checksById bs := by
    rw [checksById,checksById,hmap _ fun a b hab => by rw [hab.id,hab.sorted_eq]]
  have hany : as.any (·.required) = bs.any (·.required) := by
    have hflags := hmap (·.required) fun a b hab => hab.required
    simpa [List.any_map] using congrArg (List.any · id) hflags
  refine ⟨⟨fun he => hne ?_,h.length_eq ▸ hlength,hany ▸ hrequired⟩,⟨fun b hb => ?_,?_⟩,
    hbyId ▸ hdeps,hbyId ▸ htop⟩
  · exact List.length_eq_zero_iff.1 (h.length_eq.trans (by simp [he]))
  · obtain ⟨a,ha,hab⟩ := hmem b hb
    exact hab.valid (hvalid a ha)
  · exact hmap (·.id) (fun a b hab => hab.id) ▸ hids

variable {a b : EnvironmentConfig} {crates : Crates}

theorem EnvironmentConfig.Reordered.symm (h : a.Reordered b) : b.Reordered a :=
  ⟨h.allow.symm,h.fixed.symm,h.runtimeInternal.symm,h.remoteSecretOnly.symm⟩

/-- Sorting by a key that no two elements share forgets the original order. -/
theorem insertionSort_eq_of_perm {α : Type} (key : α → String) {as bs : List α}
    (h : as.Perm bs) (hnodup : (as.map key).Nodup) :
    as.insertionSort (key · ≤ key ·) = bs.insertionSort (key · ≤ key ·) := by
  have hperm := ((as.perm_insertionSort (key · ≤ key ·)).trans h).trans
    (bs.perm_insertionSort (key · ≤ key ·)).symm
  have hkeys : ((as.insertionSort (key · ≤ key ·)).map key).Nodup :=
    ((as.perm_insertionSort _).map key).nodup_iff.2 hnodup
  refine List.Perm.eq_of_pairwise ?_ (List.pairwise_insertionSort _ _)
    (List.pairwise_insertionSort _ _) hperm
  intro a b ha hb hab hba
  exact List.inj_on_of_nodup_map hkeys ha (hperm.mem_iff.2 hb) (le_antisymm hab hba)

theorem EnvironmentConfig.Reordered.valid (h : a.Reordered b) {schemaVersion : String}
    {targets : OrderedMap String String} (ha : a.Valid schemaVersion targets) :
    b.Valid schemaVersion targets where
  allow v hv := ha.allow v (h.allow.mem_iff.2 hv)
  allow_nodup := h.allow.nodup_iff.1 ha.allow_nodup
  secrets v hv := ha.secrets v (h.remoteSecretOnly.mem_iff.2 hv)
  secrets_nodup := h.remoteSecretOnly.nodup_iff.1 ha.secrets_nodup
  legacy := by
    rintro ⟨hversion,hused⟩
    refine ha.legacy ⟨hversion,?_⟩
    rcases hused with hfixed | hinternal | hsecrets
    · exact Or.inl (h.fixed ▸ hfixed)
    · exact Or.inr (Or.inl fun he => hinternal (he ▸ h.runtimeInternal).nil_eq.symm)
    · exact Or.inr (Or.inr fun he => hsecrets (he ▸ h.remoteSecretOnly).nil_eq.symm)
  modern := by
    rintro ⟨hversion,hallow⟩
    exact ha.modern ⟨hversion,fun he => hallow (he ▸ h.allow).nil_eq.symm⟩
  fixed v hv := by
    obtain ⟨hvalid,hfree⟩ := ha.fixed v (h.fixed ▸ hv)
    exact ⟨hvalid,fun hmem => hfree (h.allow.mem_iff.2 hmem)⟩
  internal v hv := by
    obtain ⟨hvalid,hallow,hfixed⟩ := ha.internal v (h.runtimeInternal.mem_iff.2 hv)
    exact ⟨hvalid,fun hmem => hallow (h.allow.mem_iff.2 hmem),h.fixed ▸ hfixed⟩
  internal_nodup := (h.runtimeInternal.map _).nodup_iff.1 ha.internal_nodup
  reserved v hv := by
    obtain ⟨hallow,hfixed,hinternal⟩ := ha.reserved v (h.remoteSecretOnly.mem_iff.2 hv)
    exact ⟨fun hmem => hallow (h.allow.mem_iff.2 hmem),h.fixed ▸ hfixed,
      fun hmem => hinternal ((h.runtimeInternal.map _).mem_iff.2 hmem)⟩

theorem EnvironmentConfig.Reordered.normalized_eq (h : a.Reordered b)
    {targets : OrderedMap String String} (ha : (a.runtimeInternal.map (·.name)).Nodup) :
    a.normalized crates targets = b.normalized crates targets := by
  have hinternal := insertionSort_eq_of_perm (·.name)
    (h.runtimeInternal.map (internalBinding targets)) (by
      simpa [Function.comp_def,internalBinding] using ha)
  simp only [EnvironmentConfig.normalized,h.fixed,hinternal,OrderedSet.ofList_eq_of_perm h.allow,
    OrderedSet.ofList_eq_of_perm h.remoteSecretOnly]

theorem normalizeEnvironment_of_reordered (h : a.Reordered b) {schemaVersion : String}
    {caches : List NormalizedCache} {out : NormalizedEnvironment}
    (hok : normalizeEnvironment crates schemaVersion a caches = .ok out) :
    normalizeEnvironment crates schemaVersion b caches = .ok out := by
  rw [normalizeEnvironment_eq_ok] at hok ⊢
  obtain ⟨hvalid,rfl⟩ := hok
  exact ⟨h.valid hvalid,h.normalized_eq hvalid.internal_nodup⟩

theorem ConfigV1.Reordered.symm {a b : ConfigV1} (h : a.Reordered b) : b.Reordered a where
  schemaVersion := h.schemaVersion.symm
  project := h.project.symm
  runtime := h.runtime.symm
  receipt := h.receipt.symm
  environment := h.environment.symm
  caches := h.caches.symm
  storage := h.storage.symm
  checks := by
    obtain ⟨moved,hperm,hforall⟩ := h.checks
    obtain ⟨between,hbetween,hsame⟩ := List.perm_comp_forall₂ hperm hforall
    exact ⟨between,hsame.symm,List.Forall₂.flip (hbetween.imp fun _ _ hab => hab.symm)⟩

theorem ConfigV1.Reordered.accepted {a b : ConfigV1} (h : a.Reordered b)
    {envelope : ExecutionPlanEnvelopeV1} (ha : a.Accepted crates envelope) :
    b.Accepted crates envelope where
  topLevel := by
    have htop := ha.topLevel
    simp only [validateTopLevel,h.schemaVersion,h.project,h.runtime,h.receipt] at htop ⊢
    exact htop
  caches := normalizeCaches_of_perm h.caches ha.caches
  runtime := h.schemaVersion ▸ h.runtime ▸ ha.runtime
  environment := h.schemaVersion ▸ normalizeEnvironment_of_reordered h.environment ha.environment
  checks := by
    obtain ⟨moved,hperm,hforall⟩ := h.checks
    exact normalizeChecks_of_forall₂ hforall (normalizeChecks_of_perm hperm ha.checks)
  storage := h.schemaVersion ▸ h.storage ▸ ha.storage
  isolation := ha.isolation
  receipt := h.receipt ▸ ha.receipt
  schemaVersion := h.schemaVersion ▸ ha.schemaVersion
  project := h.project ▸ ha.project
  digest := ha.digest
  fixed := h.environment.fixed ▸ ha.fixed

/-- `into_plan` treats a reordering alike: both are rejected, or both are accepted with the
same plan and the same digest. -/
theorem intoPlan_reordered {a b : ConfigV1} (h : a.Reordered b) (crates : Crates) :
    (∃ envelope, a.intoPlan crates = .ok envelope ∧ b.intoPlan crates = .ok envelope) ∨
      ∃ e e', a.intoPlan crates = .err e ∧ b.intoPlan crates = .err e' := by
  cases ha : a.intoPlan crates with
  | ok envelope =>
    have hb := h.accepted (ConfigV1.intoPlan_eq_ok.1 ha)
    exact Or.inl ⟨envelope,rfl,ConfigV1.intoPlan_eq_ok.2 hb⟩
  | err e =>
    cases hb : b.intoPlan crates with
    | ok envelope =>
      have hok := ConfigV1.intoPlan_eq_ok.2 (h.symm.accepted (ConfigV1.intoPlan_eq_ok.1 hb))
      rw [ha] at hok
      cases hok
    | err e' => exact Or.inr ⟨e,e',rfl,rfl⟩
    | panic => exact absurd hb (intoPlan_ne_panic crates b)
  | panic => exact absurd ha (intoPlan_ne_panic crates a)

def ConfigV1.sampleDeclared : ConfigV1 :=
  .sample [.sample "all" ["test","fmt"],.sample "test" ["fmt"],.sample "fmt" []]

def ConfigV1.sampleMoved : ConfigV1 :=
  .sample [.sample "fmt" [],.sample "all" ["fmt","test"],.sample "test" ["fmt"]]

theorem ConfigV1.sample_reordered : sampleDeclared.Reordered sampleMoved where
  schemaVersion := rfl
  project := rfl
  runtime := rfl
  receipt := rfl
  environment := ⟨.refl _,rfl,.refl _,.refl _⟩
  caches := .refl _
  storage := rfl
  checks := by
    refine ⟨[.sample "fmt" [],.sample "all" ["test","fmt"],.sample "test" ["fmt"]],by decide,?_⟩
    have hsame : ∀ id as bs, as.Perm bs →
        (CheckConfig.sample id as).Reordered (.sample id bs) := fun _ _ _ h =>
      ⟨rfl,rfl,rfl,rfl,rfl,h,.refl _,rfl⟩
    exact .cons (hsame _ _ _ (by decide)) (.cons (hsame _ _ _ (by decide))
      (.cons (hsame _ _ _ (by decide)) .nil))

theorem intoPlan_reordered_sample :
    ∃ envelope, ConfigV1.sampleDeclared.intoPlan .reference = .ok envelope ∧
      ConfigV1.sampleMoved.intoPlan .reference = .ok envelope := by
  have haccepted : (ConfigV1.sampleDeclared.intoPlan .reference).toOption.isSome = true := by
    decide +kernel
  rcases intoPlan_reordered ConfigV1.sample_reordered .reference with h | ⟨e,_,he,_⟩
  · exact h
  · rw [he] at haccepted
    cases haccepted

end CommitCiPreflight
