import CommitCiPreflight.CapabilitySpec
import CommitCiPreflight.ConfigPaths
import CommitCiPreflight.ReceiptDigest

/-! What the expansion of a bound profile is. A profile is normalized once for a placeholder project
and receipt, and again for the binding; only project and receipt differ. -/
namespace CommitCiPreflight

open Outcome CapabilityPack

namespace CapabilityPack

variable {crates : Crates} {net : AddressText}

/-- Project and receipt settings that a configuration accepts. -/
structure CapabilityPackBindingV1.Valid (binding : CapabilityPackBindingV1) : Prop where
  project : validateRepositoryIdentity binding.project = .ok ()
  path : validateRelativePath "receipt.output" binding.receipt.output = .ok ()
  named : binding.receipt.output ≠ "."
  freshness : validateBounded "receipt.freshness_seconds" binding.receipt.freshnessSeconds 1 31536000 =
    .ok ()

def boundPlan (n : NormalizedCapabilityProfileV1) (binding : CapabilityPackBindingV1) :
    ExecutionPlanV1 where
  schemaVersion := "1.3"
  project := binding.project
  runtime := n.runtime
  receipt := ⟨binding.receipt.output,binding.receipt.freshnessSeconds⟩
  environment := n.environment
  caches := n.caches
  storage := some n.storage
  checks := n.checks

def profilePaths (n : NormalizedCapabilityProfileV1) : List String :=
  n.caches.map (·.mountPath)++n.checks.flatMap (·.artifacts)

/-- The receipt output and a reserved path do not contain each other. -/
def Apart (n : NormalizedCapabilityProfileV1) (binding : CapabilityPackBindingV1) : Prop :=
  ∀ path ∈ profilePaths n, ¬ segments binding.receipt.output <+: segments path ∧
    ¬ segments path <+: segments binding.receipt.output

theorem pathsOverlap_eq_false {p q : String} :
    pathsOverlap p q = false ↔ ¬ segments p <+: segments q ∧ ¬ segments q <+: segments p := by
  rw [← not_or,← pathsOverlap_eq_true,Bool.not_eq_true]

section

variable {p : CapabilityProfileConfigV1} {n : NormalizedCapabilityProfileV1}
  {envelope bound : ExecutionPlanEnvelopeV1} {binding : CapabilityPackBindingV1}

theorem validateTopLevel_config_eq_ok {raw : ValidatedProfileConfigV1} {project : String}
    {receipt : ReceiptConfig} :
    (raw.config project receipt).validateTopLevel = .ok () ↔
      (validateImageReference raw.runtime.image = .ok () ∧
        validateBounded "runtime.cpu_count" raw.runtime.cpuCount.toUInt64 1 maxCpuCount.toUInt64 =
          .ok () ∧
        validateBounded "runtime.memory_mib" raw.runtime.memoryMib 64 maxMemoryMib = .ok () ∧
        validateBounded "runtime.pids_limit" raw.runtime.pidsLimit.toUInt64 1 maxPids.toUInt64 =
          .ok ()) ∧
      CapabilityPackBindingV1.Valid ⟨project,"",receipt⟩ := by
  simp only [ConfigV1.validateTopLevel,bind_eq_ok,exists_unit,ensure_eq_ok]
  constructor
  · rintro ⟨-,hproject,himage,hcpu,hmemory,hpids,hpath,hnamed,hfreshness⟩
    exact ⟨⟨himage,hcpu,hmemory,hpids⟩,hproject,hpath,hnamed,hfreshness⟩
  · rintro ⟨⟨himage,hcpu,hmemory,hpids⟩,hproject,hpath,hnamed,hfreshness⟩
    exact ⟨by simp [ValidatedProfileConfigV1.config],hproject,himage,hcpu,hmemory,hpids,hpath,hnamed,hfreshness⟩

/-- The placeholder keeps clear of the same paths, so that only the output is compared anew. -/
theorem isolation_eq_ok {receipt receipt' : NormalizedReceipt} {caches : List NormalizedCache}
    {checks : List NormalizedCheck} (h : validatePathIsolation receipt' caches checks = .ok ()) :
    validatePathIsolation receipt caches checks = .ok () ↔
      ∀ path ∈ caches.map (·.mountPath)++checks.flatMap (·.artifacts),
        pathsOverlap receipt.output path = false := by
  rw [validatePathIsolation_eq_ok,reservedPaths,List.cons_append,List.pairwise_cons] at h ⊢
  exact and_iff_left h.2

/-- A second normalization returns what the first did, for another project and receipt. -/
theorem ProfileAccepted.intoPlan_eq_ok (h : ProfileAccepted crates net p n envelope) :
    ((rawProfile p).config binding.project binding.receipt).intoPlan crates = .ok bound ↔
      binding.Valid ∧ Apart n binding ∧
        bound = ⟨(boundPlan n binding).digest crates,boundPlan n binding,p.environment.fixed⟩ := by
  have hfirst := ConfigV1.intoPlan_eq_ok.1 h.plan
  have hruntime := (validateTopLevel_config_eq_ok.1 hfirst.topLevel).1
  have hisolation := hfirst.isolation
  have hstorage : normalizeStorage "1.3" (some p.storage) n.checks = .ok (some n.storage) := by
    rw [h.checks,← h.storage]
    exact hfirst.storage
  have hcaches : normalizeCaches p.caches = .ok n.caches := h.caches ▸ hfirst.caches
  have hchecks : normalizeChecks p.checks = .ok n.checks := h.checks ▸ hfirst.checks
  have henvironment : normalizeEnvironment crates "1.3" p.environment n.caches =
      .ok n.environment := by
    rw [h.caches,h.environment]
    exact hfirst.environment
  have hnormalized : normalizeRuntime "1.3" p.runtime = .ok n.runtime := h.runtime ▸ hfirst.runtime
  rw [← h.caches,← h.checks] at hisolation
  have hapart : Apart n binding ↔ validatePathIsolation
      ⟨binding.receipt.output,binding.receipt.freshnessSeconds⟩ n.caches n.checks = .ok () := by
    rw [isolation_eq_ok hisolation]
    exact forall₂_congr fun path _ => pathsOverlap_eq_false.symm
  have haccepted : binding.Valid → Apart n binding →
      ((rawProfile p).config binding.project binding.receipt).intoPlan crates =
        .ok ⟨(boundPlan n binding).digest crates,boundPlan n binding,p.environment.fixed⟩ := by
    intro hvalid hclear
    exact ConfigV1.intoPlan_eq_ok.2 ⟨validateTopLevel_config_eq_ok.2
      ⟨hruntime,hvalid.project,hvalid.path,hvalid.named,hvalid.freshness⟩,hcaches,hnormalized,
      henvironment,hchecks,hstorage,hapart.1 hclear,rfl,rfl,rfl,rfl,rfl⟩
  constructor
  · intro hok
    have hbound := ConfigV1.intoPlan_eq_ok.1 hok
    have htop := (validateTopLevel_config_eq_ok.1 hbound.topLevel).2
    have hvalid : binding.Valid := ⟨htop.project,htop.path,htop.named,htop.freshness⟩
    have hclear := hbound.isolation
    rw [ok.inj (hbound.caches.symm.trans hcaches),ok.inj (hbound.checks.symm.trans hchecks),
      hbound.receipt] at hclear
    have hsame := haccepted hvalid (hapart.2 hclear)
    exact ⟨hvalid,hapart.2 hclear,ok.inj (hok.symm.trans hsame)⟩
  · rintro ⟨hvalid,hclear,rfl⟩
    exact haccepted hvalid hclear

end

/-- The digests tell every value of one environment from every value of another. -/
def ValuesApart (crates : Crates) (values values' : List String) : Prop :=
  ∀ v ∈ values, ∀ w ∈ values',
    crates.NoCollision (canonicalJson crates (.str v)) (canonicalJson crates (.str w))

section

variable {a b : EnvironmentConfig} {targets targets' : OrderedMap String String}

theorem mem_fixed_of_normalized_eq
    (hapart : ValuesApart crates a.fixed.values b.fixed.values)
    (h : (a.normalized crates targets).fixed = (b.normalized crates targets').fixed)
    {name value : String} (hmem : (name,value) ∈ a.fixed.entries) :
    (name,value) ∈ b.fixed.entries := by
  have hbinding : fixedBinding crates (name,value) ∈ (a.normalized crates targets).fixed :=
    (List.mem_insertionSort _).2 (List.mem_map_of_mem hmem)
  rw [h,EnvironmentConfig.normalized,List.mem_insertionSort,List.mem_map] at hbinding
  obtain ⟨⟨name',value'⟩,hmem',hsame⟩ := hbinding
  obtain ⟨rfl,hdigest⟩ := NormalizedFixedEnvironment.mk.inj hsame
  have hbytes := hapart value (List.mem_map_of_mem hmem) value' (List.mem_map_of_mem hmem')
    (canonicalDigest_eq_iff.1 hdigest.symm)
  rwa [canonicalJson_encode_injective Codec.string hbytes]

theorem ValuesApart.symm {values values' : List String} (h : ValuesApart crates values values') :
    ValuesApart crates values' values :=
  fun v hv w hw hhash => (h w hw v hv hhash.symm).symm

theorem fixed_eq_of_normalized_eq
    (hapart : ValuesApart crates a.fixed.values b.fixed.values)
    (h : (a.normalized crates targets).fixed = (b.normalized crates targets').fixed) :
    a.fixed = b.fixed := by
  refine OrderedMap.ext fun name => Option.ext fun value => ?_
  rw [← OrderedMap.mem_entries,← OrderedMap.mem_entries]
  exact ⟨mem_fixed_of_normalized_eq hapart h,mem_fixed_of_normalized_eq hapart.symm h.symm⟩

end

theorem ProfileAccepted.fixed_normalized {p : CapabilityProfileConfigV1}
    {n : NormalizedCapabilityProfileV1} {envelope : ExecutionPlanEnvelopeV1}
    (h : ProfileAccepted crates net p n envelope) :
    n.environment = p.environment.normalized crates (cacheTargets n.caches) := by
  have hok := (ConfigV1.intoPlan_eq_ok.1 h.plan).environment
  rw [← h.caches,← h.environment] at hok
  exact (normalizeEnvironment_eq_ok.1 hok).2

def fixedValues (manifest : CapabilityPackManifestV1) : List String :=
  manifest.profiles.flatMap (·.environment.fixed.values)

section

variable {manifest : CapabilityPackManifestV1} {envelope : CapabilityPackEnvelopeV1}
  {ns : List NormalizedCapabilityProfileV1} {binding : CapabilityPackBindingV1}
  {expansion : CapabilityPackExpansionV1}

theorem ManifestAccepted.expand_bound (h : ManifestAccepted crates net manifest envelope ns)
    (hok : envelope.expand crates binding = .ok expansion) :
    ∃ p ∈ manifest.profiles, ∃ n ∈ envelope.pack.profiles, Normalizes crates net p n ∧
      n.id = binding.profileId ∧ expansion.packDigest = envelope.packDigest ∧ binding.Valid ∧
      Apart n binding ∧ expansion.executionPlan =
        ⟨(boundPlan n binding).digest crates,boundPlan n binding,p.environment.fixed⟩ := by
  obtain ⟨p,hp⟩ := h.expand_eq_ok.1 hok
  obtain ⟨n,hn,first,haccepted⟩ := h.normalizes hp.declared
  obtain ⟨hvalid,hapart,hplan⟩ := haccepted.intoPlan_eq_ok.1 hp.plan
  exact ⟨p,hp.declared,n,h.profiles_perm.mem_iff.2 hn,⟨first,haccepted⟩,
    haccepted.normalized.1.trans hp.bound,by rw [hp.expansion],hvalid,hapart,hplan⟩

theorem ManifestAccepted.exists_declared (h : ManifestAccepted crates net manifest envelope ns)
    {n : NormalizedCapabilityProfileV1} (hn : n ∈ envelope.pack.profiles) :
    ∃ p ∈ manifest.profiles, Normalizes crates net p n := by
  obtain ⟨i,hi,rfl⟩ := List.getElem_of_mem (h.profiles_perm.mem_iff.1 hn)
  have hlt : i < manifest.profiles.length := h.profiles.length_eq ▸ hi
  exact ⟨manifest.profiles[i],List.getElem_mem hlt,h.profiles.get hlt hi⟩

theorem ManifestAccepted.expand_succeeds (h : ManifestAccepted crates net manifest envelope ns) :
    (∃ expansion, envelope.expand crates binding = .ok expansion) ↔
      ∃ n ∈ envelope.pack.profiles, n.id = binding.profileId ∧ binding.Valid ∧
        Apart n binding := by
  constructor
  · rintro ⟨expansion,hok⟩
    obtain ⟨-,-,n,hn,-,hid,-,hvalid,hapart,-⟩ := h.expand_bound hok
    exact ⟨n,hn,hid,hvalid,hapart⟩
  · rintro ⟨n,hn,hid,hvalid,hapart⟩
    obtain ⟨p,hp,first,haccepted⟩ := h.exists_declared hn
    have hplan := haccepted.intoPlan_eq_ok.2 ⟨hvalid,hapart,rfl⟩
    exact ⟨⟨_,_,_,_,_,_,_⟩,h.expand_eq_ok.2 ⟨p,hp,haccepted.normalized.1.symm.trans hid,hplan,rfl⟩⟩

end

theorem pack_eq_of_digest_eq {pack pack' : NormalizedCapabilityPackV1}
    (hcollision : crates.NoCollision
      (canonicalJson crates (NormalizedCapabilityPackV1.codec.encode pack))
      (canonicalJson crates (NormalizedCapabilityPackV1.codec.encode pack')))
    (h : packDigestOf crates pack = packDigestOf crates pack') : pack = pack' :=
  canonicalJson_encode_injective NormalizedCapabilityPackV1.codec
    (hcollision (canonicalDigest_eq_iff.1 h))

/-- The expansion of an accepted pack is the plan of the bound profile that the digest covers, for
the project and receipt of the binding. It succeeds exactly when there is such a profile, the binding
is valid and its output keeps clear of the profile's paths. Without collisions, packs with one digest
expand to one plan. -/
theorem expand_faithful {manifest : CapabilityPackManifestV1}
    {envelope : CapabilityPackEnvelopeV1} (h : validate crates net manifest = .ok envelope)
    (binding : CapabilityPackBindingV1) :
    (∀ expansion, envelope.expand crates binding = .ok expansion →
      ∃ n ∈ envelope.pack.profiles, n.id = binding.profileId ∧
        expansion.packDigest = packDigestOf crates envelope.pack ∧
        expansion.executionPlan.plan = boundPlan n binding) ∧
    ((∃ expansion, envelope.expand crates binding = .ok expansion) ↔
      ∃ n ∈ envelope.pack.profiles, n.id = binding.profileId ∧ binding.Valid ∧
        Apart n binding) ∧
    ∀ other otherEnvelope, validate crates net other = .ok otherEnvelope →
      crates.NoCollision
        (canonicalJson crates (NormalizedCapabilityPackV1.codec.encode envelope.pack))
        (canonicalJson crates (NormalizedCapabilityPackV1.codec.encode otherEnvelope.pack)) →
      ValuesApart crates (fixedValues manifest) (fixedValues other) →
      envelope.packDigest = otherEnvelope.packDigest →
      ∀ expansion expansion', envelope.expand crates binding = .ok expansion →
        otherEnvelope.expand crates binding = .ok expansion' →
        expansion.executionPlan = expansion'.executionPlan := by
  obtain ⟨ns,haccepted⟩ := validate_eq_ok.1 h
  refine ⟨fun expansion hok => ?_,haccepted.expand_succeeds,?_⟩
  · obtain ⟨p,-,n,hn,-,hid,hdigest,-,-,hplan⟩ := haccepted.expand_bound hok
    exact ⟨n,hn,hid,hdigest.trans haccepted.digest,by rw [hplan]⟩
  · intro other otherEnvelope hother hcollision hvalues hdigest expansion expansion' hok hok'
    obtain ⟨ns',haccepted'⟩ := validate_eq_ok.1 hother
    have hpack : envelope.pack = otherEnvelope.pack := by
      refine pack_eq_of_digest_eq hcollision ?_
      rw [← haccepted.digest,hdigest,haccepted'.digest]
    obtain ⟨p,hp,n,hn,⟨_,hpn⟩,hid,-,-,-,hplan⟩ := haccepted.expand_bound hok
    obtain ⟨q,hq,n',hn',⟨_,hqn⟩,hid',-,-,-,hplan'⟩ := haccepted'.expand_bound hok'
    have hsame : n = n' :=
      List.inj_on_of_nodup_map haccepted.pack_ids hn (hpack ▸ hn') (hid.trans hid'.symm)
    subst hsame
    have hfixed : p.environment.fixed = q.environment.fixed := by
      refine fixed_eq_of_normalized_eq (fun v hv w hw => ?_)
        (congrArg (·.fixed) (hpn.fixed_normalized.symm.trans hqn.fixed_normalized))
      exact hvalues v (List.mem_flatMap.2 ⟨p,hp,hv⟩) w (List.mem_flatMap.2 ⟨q,hq,hw⟩)
    rw [hplan,hplan',hfixed]

def sampleReserving (caches : List CacheConfig) : CapabilityProfileConfigV1 :=
  { sampleProfile "lint" [{ CheckConfig.sample "clippy" [] with
      artifacts := ["report"]
      artifactContracts := [⟨"report",.regularFile,1024,1⟩] }] with
    requiredRuntimeFeatures :=
      [.noNetwork,.readOnlySource,.linuxUserland,.writableCaches,.boundedArtifacts]
    environment := ⟨[],.ofList [("CI","true")],[],[]⟩
    caches }

def sampleCaches : List CacheConfig := [⟨"cargo","cache/cargo"⟩,⟨"advisories","cache/advisories"⟩]

theorem sampleReserving_reverse {n : NormalizedCapabilityProfileV1}
    (h : Normalizes .reference .nothing (sampleReserving sampleCaches) n) :
    Normalizes .reference .nothing (sampleReserving sampleCaches.reverse) n := by
  obtain ⟨plan,h⟩ := h
  have hmoved : ((rawProfile (sampleReserving sampleCaches)).config validationProject
      validationReceipt).Reordered ((rawProfile (sampleReserving sampleCaches.reverse)).config
        validationProject validationReceipt) := {
    schemaVersion := rfl
    project := rfl
    runtime := rfl
    receipt := rfl
    environment := ⟨.refl _,rfl,.refl _,.refl _⟩
    caches := (List.reverse_perm _).symm
    storage := rfl
    checks := ⟨_,.refl _,.cons ⟨rfl,rfl,rfl,rfl,rfl,.refl _,.refl _,rfl⟩ .nil⟩ }
  exact ⟨plan,{ h with
    plan := ConfigV1.intoPlan_eq_ok.2 (hmoved.accepted (ConfigV1.intoPlan_eq_ok.1 h.plan)) }⟩

theorem validate_sampleReserving_reverse {envelope : CapabilityPackEnvelopeV1}
    (h : validate .reference .nothing (sampleManifest [sampleReserving sampleCaches]) =
      .ok envelope) :
    validate .reference .nothing (sampleManifest [sampleReserving sampleCaches.reverse]) =
      .ok { envelope with profileConfigs := rawProfiles [sampleReserving sampleCaches.reverse] } := by
  obtain ⟨ns,haccepted⟩ := validate_eq_ok.1 h
  obtain ⟨n,_,hn,hnil,rfl⟩ := List.forall₂_cons_left_iff.1 haccepted.profiles
  exact validate_eq_ok.2 ⟨_,{ haccepted with
    profiles := .cons (sampleReserving_reverse hn) hnil
    configs := rfl }⟩

def sampleBinding (output : String) : CapabilityPackBindingV1 :=
  ⟨"example/project","lint",⟨output,3600⟩⟩

theorem sampleBinding_apart {n : NormalizedCapabilityProfileV1}
    (h : Normalizes .reference .nothing (sampleReserving sampleCaches) n) (output : String) :
    Apart n (sampleBinding output) ↔
      ∀ path ∈ ["cache/cargo","cache/advisories","report"],
        ¬ segments output <+: segments path ∧ ¬ segments path <+: segments output := by
  obtain ⟨first,hprofile⟩ := h
  have hcaches := mountPaths_perm (ConfigV1.intoPlan_eq_ok.1 hprofile.plan).caches
  have hartifacts := artifacts_perm (ConfigV1.intoPlan_eq_ok.1 hprofile.plan).checks
  rw [← hprofile.caches] at hcaches
  rw [← hprofile.checks] at hartifacts
  exact forall_congr' fun path => imp_congr_left (hcaches.append hartifacts).mem_iff

theorem expand_faithful_sample : ∃ envelope otherEnvelope expansion expansion',
    validate .reference .nothing (sampleManifest [sampleReserving sampleCaches]) = .ok envelope ∧
      validate .reference .nothing (sampleManifest [sampleReserving sampleCaches.reverse]) =
        .ok otherEnvelope ∧
      envelope.expand .reference (sampleBinding "receipts/lint.json") = .ok expansion ∧
      otherEnvelope.expand .reference (sampleBinding "receipts/lint.json") = .ok expansion' ∧
      (∃ n ∈ envelope.pack.profiles, n.id = "lint" ∧
        expansion.packDigest = packDigestOf .reference envelope.pack ∧
        expansion.executionPlan.plan = boundPlan n (sampleBinding "receipts/lint.json")) ∧
      expansion.executionPlan = expansion'.executionPlan ∧
      ¬ ∃ expansion, envelope.expand .reference (sampleBinding "report/lint.json") =
        .ok expansion := by
  obtain ⟨envelope,henvelope⟩ : ∃ envelope, validate .reference .nothing
      (sampleManifest [sampleReserving sampleCaches]) = .ok envelope :=
    exists_of_isSome (by decide +kernel)
  have hother := validate_sampleReserving_reverse henvelope
  obtain ⟨hplan,hsucceeds,hone⟩ := expand_faithful henvelope (sampleBinding "receipts/lint.json")
  obtain ⟨ns,hmanifest⟩ := validate_eq_ok.1 henvelope
  obtain ⟨n,hn,hprofile⟩ := hmanifest.normalizes (.head _)
  have hmem := hmanifest.profiles_perm.mem_iff.2 hn
  have hid : n.id = "lint" := hprofile.id_eq
  have hbound : ∃ n ∈ envelope.pack.profiles, n.id = "lint" ∧
      (sampleBinding "receipts/lint.json").Valid ∧ Apart n (sampleBinding "receipts/lint.json") :=
    ⟨n,hmem,hid,⟨by decide +kernel,by decide +kernel,by decide,by decide +kernel⟩,
      (sampleBinding_apart hprofile _).2 (by decide +kernel)⟩
  obtain ⟨expansion,hexpansion⟩ := hsucceeds.2 hbound
  obtain ⟨expansion',hexpansion'⟩ :=
    (expand_faithful hother (sampleBinding "receipts/lint.json")).2.1.2 hbound
  refine ⟨envelope,_,expansion,expansion',henvelope,hother,hexpansion,hexpansion',
    hplan expansion hexpansion,?_,?_⟩
  · refine hone _ _ hother (fun _ => rfl) ?_ rfl expansion expansion' hexpansion hexpansion'
    intro v hv w hw _
    rw [List.mem_singleton.1 hv,List.mem_singleton.1 hw]
  · rw [(expand_faithful henvelope (sampleBinding "report/lint.json")).2.1]
    rintro ⟨n',hn',hid',-,hapart⟩
    have hsame : n' = n :=
      List.inj_on_of_nodup_map hmanifest.pack_ids hn' hmem (hid'.trans hid.symm)
    rw [hsame,sampleBinding_apart hprofile] at hapart
    exact (hapart "report" (by decide)).2 (by decide +kernel)

end CapabilityPack

end CommitCiPreflight
