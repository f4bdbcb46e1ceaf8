import CommitCiPreflight.CapabilityValidation
import CommitCiPreflight.ConfigReorder

/-! What it takes for a manifest to be accepted, stage by stage. -/
namespace CommitCiPreflight

namespace CapabilityPack

open Outcome

variable {crates : Crates} {net : AddressText} {p : CapabilityProfileConfigV1}
  {n : NormalizedCapabilityProfileV1} {manifest : CapabilityPackManifestV1}
  {envelope : CapabilityPackEnvelopeV1}

/-- The normalized profile of a declared one, whose configuration has this plan. -/
structure ProfileAccepted (crates : Crates) (net : AddressText) (p : CapabilityProfileConfigV1)
    (n : NormalizedCapabilityProfileV1) (envelope : ExecutionPlanEnvelopeV1) : Prop where
  validId : validateIdentifier "profiles.id" p.id = .ok ()
  validDescription : validateText "profiles.description" p.description = .ok ()
  validSemantics : validateText "profiles.pass_semantics" p.passSemantics = .ok ()
  hosts : validateLength "profiles.supported_hosts" maxProfileHosts p.supportedHosts = .ok ()
  targets : validateLength "profiles.target_platforms" maxProfileTargets p.targetPlatforms = .ok ()
  features : validateLength "profiles.required_runtime_features" maxProfileFeatures
    p.requiredRuntimeFeatures = .ok ()
  spots : validateLength "profiles.known_blind_spots" maxBlindSpots p.knownBlindSpots = .ok ()
  supportedHosts : uniqueSorted "profiles.supported_hosts" p.supportedHosts = .ok n.supportedHosts
  targetPlatforms : uniqueSorted "profiles.target_platforms" p.targetPlatforms =
    .ok n.targetPlatforms
  requiredFeatures : uniqueSorted "profiles.required_runtime_features" p.requiredRuntimeFeatures =
    .ok n.requiredRuntimeFeatures
  validSpots : ∀ spot ∈ p.knownBlindSpots, validateText "profiles.known_blind_spots" spot = .ok ()
  knownBlindSpots : uniqueSorted "profiles.known_blind_spots" p.knownBlindSpots =
    .ok n.knownBlindSpots
  usedFeatures : validateFeatures p n.requiredRuntimeFeatures = .ok ()
  kind : p.runtime.kind = .dockerCompatible
  network : p.runtime.network = false
  entrypoints : ∀ check ∈ p.checks, shellEntrypoint check.argv = false
  tools : validateTools net p.tools = .ok n.tools
  inputs : validateInputs net p.inputs = .ok n.inputs
  plan : ((rawProfile p).config validationProject validationReceipt).intoPlan crates = .ok envelope
  storage : envelope.plan.storage = some n.storage
  normalized : n.id = p.id ∧ n.description = p.description ∧ n.evidenceClass = p.evidenceClass ∧
    n.passSemantics = p.passSemantics ∧ n.offlinePreparation = p.offlinePreparation
  runtime : n.runtime = envelope.plan.runtime
  environment : n.environment = envelope.plan.environment
  caches : n.caches = envelope.plan.caches
  checks : n.checks = envelope.plan.checks

theorem validateProfile_eq_ok {raw : ValidatedProfileConfigV1} :
    validateProfile crates net p = .ok (n,raw) ↔
      raw = rawProfile p ∧ ∃ envelope, ProfileAccepted crates net p n envelope := by
  simp only [validateProfile,validateEntrypoints,bind_eq_ok,exists_unit,ensure_eq_ok,each_eq_ok,
    ofOption_eq_ok,mapErr_eq_ok,pure_eq,ok.injEq,Prod.mk.injEq]
  constructor
  · rintro ⟨hid,hdescription,hsemantics,hhosts,htargets,hfeatures,hspots,hosts',hsupported,targets',
      hplatforms,features',hrequired,htexts,spots',hknown,hused,hkind,hnetwork,hentry,tools',htools,
      inputs',hinputs,envelope,hplan,storage',hstorage,rfl,rfl⟩
    exact ⟨rfl,envelope,hid,hdescription,hsemantics,hhosts,htargets,hfeatures,hspots,hsupported,
      hplatforms,hrequired,htexts,hknown,hused,hkind,hnetwork,hentry,htools,hinputs,hplan,hstorage,
      ⟨rfl,rfl,rfl,rfl,rfl⟩,rfl,rfl,rfl,rfl⟩
  · rintro ⟨rfl,envelope,h⟩
    obtain ⟨hid,hdescription,hevidence,hsemantics,hoffline⟩ := h.normalized
    refine ⟨h.validId,h.validDescription,h.validSemantics,h.hosts,h.targets,h.features,h.spots,_,
      h.supportedHosts,_,h.targetPlatforms,_,h.requiredFeatures,h.validSpots,_,h.knownBlindSpots,
      h.usedFeatures,h.kind,h.network,h.entrypoints,_,h.tools,_,h.inputs,envelope,h.plan,_,h.storage,
      ?_,rfl⟩
    rw [← hid,← hdescription,← hevidence,← hsemantics,← hoffline,← h.runtime,← h.environment,
      ← h.caches,← h.checks]

def Normalizes (crates : Crates) (net : AddressText) (p : CapabilityProfileConfigV1)
    (n : NormalizedCapabilityProfileV1) : Prop :=
  ∃ envelope, ProfileAccepted crates net p n envelope

theorem Normalizes.id_eq (h : Normalizes crates net p n) : n.id = p.id := by
  obtain ⟨envelope,haccepted⟩ := h
  exact haccepted.normalized.1

def ProfileTally.add (tally : ProfileTally) (ps : List CapabilityProfileConfigV1)
    (ns : List NormalizedCapabilityProfileV1) : ProfileTally :=
  ⟨tally.profiles++ns,ps.foldl (fun ids p => ids.insert p.id) tally.ids,
    ps.foldl (fun configs p => configs.insert p.id (rawProfile p)) tally.configs⟩

theorem collectProfile_eq_ok {tally tally' : ProfileTally} :
    collectProfile crates net tally p = .ok tally' ↔
      p.id ∉ tally.ids ∧ ∃ n, Normalizes crates net p n ∧ tally' = tally.add [p] [n] := by
  simp only [collectProfile,bind_eq_ok,exists_unit,ensure_eq_ok]
  refine and_congr_right fun _ => ?_
  constructor
  · rintro ⟨⟨n,raw⟩,hvalid,htally⟩
    obtain ⟨rfl,h⟩ := validateProfile_eq_ok.1 hvalid
    have hid : n.id = p.id := Normalizes.id_eq h
    refine ⟨n,h,?_⟩
    rw [← ok.inj htally,hid]
    rfl
  · rintro ⟨n,h,rfl⟩
    have hid : n.id = p.id := h.id_eq
    refine ⟨(n,rawProfile p),validateProfile_eq_ok.2 ⟨rfl,h⟩,?_⟩
    change ok (ProfileTally.mk _ _ (tally.configs.insert n.id (rawProfile p))) = _
    rw [hid]
    rfl

theorem fold_collectProfile {tally tally' : ProfileTally} {ps : List CapabilityProfileConfigV1} :
    fold (collectProfile crates net) tally ps = .ok tally' ↔
      (∀ p ∈ ps, p.id ∉ tally.ids) ∧ (ps.map (·.id)).Nodup ∧
        ∃ ns, List.Forall₂ (Normalizes crates net) ps ns ∧ tally' = tally.add ps ns := by
  induction ps generalizing tally with
  | nil =>
    simp only [fold_nil,ok.injEq,List.not_mem_nil,false_implies,implies_true,List.map_nil,
      List.nodup_nil,true_and,List.forall₂_nil_left_iff,exists_eq_left]
    have hsame : tally.add [] [] = tally := by simp [ProfileTally.add]
    rw [hsame,eq_comm]
  | cons p ps ih =>
    simp only [fold_cons,bind_eq_ok,collectProfile_eq_ok,ih,List.forall_mem_cons,List.map_cons,
      List.nodup_cons,List.forall₂_cons_left_iff]
    have hids : ∀ n q, q ∉ (tally.add [p] [n]).ids ↔ ¬ q = p.id ∧ q ∉ tally.ids :=
      fun n q => OrderedSet.notMem_insert _ _ _
    constructor
    · rintro ⟨_,⟨hfree,n,hn,rfl⟩,hrest,hnodup,ns,hns,rfl⟩
      refine ⟨⟨hfree,fun q hq => ((hids n _).1 (hrest q hq)).2⟩,⟨?_,hnodup⟩,n::ns,
        ⟨n,ns,hn,hns,rfl⟩,by simp [ProfileTally.add]⟩
      intro hmem
      obtain ⟨q,hq,hsame⟩ := List.mem_map.1 hmem
      exact ((hids n _).1 (hrest q hq)).1 hsame
    · rintro ⟨⟨hfree,hrest⟩,⟨hnew,hnodup⟩,_,⟨n,ns,hn,hns,rfl⟩,rfl⟩
      refine ⟨_,⟨hfree,n,hn,rfl⟩,fun q hq => (hids n _).2 ⟨fun hsame => ?_,hrest q hq⟩,hnodup,ns,hns,
        by simp [ProfileTally.add]⟩
      exact hnew (hsame ▸ List.mem_map_of_mem hq)

def rawProfiles (ps : List CapabilityProfileConfigV1) : OrderedMap String ValidatedProfileConfigV1 :=
  .ofList (ps.map fun p => (p.id,rawProfile p))

structure ManifestAccepted (crates : Crates) (net : AddressText)
    (manifest : CapabilityPackManifestV1) (envelope : CapabilityPackEnvelopeV1)
    (ns : List NormalizedCapabilityProfileV1) : Prop where
  schemaVersion : manifest.schemaVersion = capabilityPackSchemaVersion
  packId : validateIdentifier "pack_id" manifest.packId = .ok ()
  description : validateText "description" manifest.description = .ok ()
  license : validateLicense "license" manifest.license = .ok ()
  packVersion : validateSemver manifest.packVersion = .ok ()
  sources : validateSources net manifest.upstreamSources = .ok envelope.pack.upstreamSources
  length : validateLength "profiles" maxPackProfiles manifest.profiles = .ok ()
  ids : (manifest.profiles.map (·.id)).Nodup
  profiles : List.Forall₂ (Normalizes crates net) manifest.profiles ns
  pack : envelope.pack = ⟨manifest.schemaVersion,manifest.packId,manifest.packVersion,
    manifest.license,manifest.description,envelope.pack.upstreamSources,
    ns.insertionSort (·.id ≤ ·.id)⟩
  digest : envelope.packDigest = packDigestOf crates envelope.pack
  expected : envelope.expectedPackDigest = packDigestOf crates envelope.pack
  configs : envelope.profileConfigs = rawProfiles manifest.profiles

theorem validate_eq_ok :
    validate crates net manifest = .ok envelope ↔
      ∃ ns, ManifestAccepted crates net manifest envelope ns := by
  have hconfigs (ps : List CapabilityProfileConfigV1) : rawProfiles ps =
      ps.foldl (fun configs p => configs.insert p.id (rawProfile p)) .empty := by
    rw [rawProfiles,OrderedMap.ofList,List.foldl_map]
  simp only [validate,bind_eq_ok,exists_unit,ensure_eq_ok,fold_collectProfile,pure_eq,ok.injEq]
  constructor
  · rintro ⟨hschema,hid,hdescription,hlicense,hversion,sources,hsources,hlength,tally,
      ⟨-,hids,ns,hns,rfl⟩,rfl⟩
    exact ⟨ns,hschema,hid,hdescription,hlicense,hversion,hsources,hlength,hids,hns,
      by simp [ProfileTally.add],rfl,rfl,(hconfigs _).symm⟩
  · rintro ⟨ns,h⟩
    obtain ⟨digest,pack,configs,expected⟩ := envelope
    have hdigest := h.digest
    have hexpected := h.expected
    have hraw := h.configs
    have hpack := h.pack
    dsimp only at hdigest hexpected hraw hpack
    subst hdigest hexpected hraw
    refine ⟨h.schemaVersion,h.packId,h.description,h.license,h.packVersion,_,h.sources,h.length,_,
      ⟨fun p _ => by simp,h.ids,ns,h.profiles,rfl⟩,?_⟩
    simp only [ProfileTally.add,List.nil_append,← hconfigs,← hpack]

theorem ManifestAccepted.normalizes {ns : List NormalizedCapabilityProfileV1}
    (h : ManifestAccepted crates net manifest envelope ns) (hp : p ∈ manifest.profiles) :
    ∃ n ∈ ns, Normalizes crates net p n := by
  obtain ⟨i,hi,rfl⟩ := List.getElem_of_mem hp
  have hlt : i < ns.length := h.profiles.length_eq ▸ hi
  exact ⟨ns[i],List.getElem_mem hlt,h.profiles.get hi hlt⟩

section

variable {manifest : CapabilityPackManifestV1} {envelope : CapabilityPackEnvelopeV1}
  {ns : List NormalizedCapabilityProfileV1}

theorem find?_id_eq_some {rows : List NormalizedCapabilityProfileV1} {id : String}
    {n : NormalizedCapabilityProfileV1} (h : (rows.map (·.id)).Nodup) :
    rows.find? (·.id = id) = some n ↔ n ∈ rows ∧ n.id = id := by
  constructor
  · intro hfind
    exact ⟨List.mem_of_find?_eq_some hfind,by simpa using List.find?_some hfind⟩
  · rintro ⟨hn,rfl⟩
    obtain ⟨n',hn'⟩ : ∃ n', rows.find? (·.id = n.id) = some n' :=
      Option.isSome_iff_exists.1 (List.find?_isSome.2 ⟨n,hn,by simp⟩)
    have hsame : n'.id = n.id := by simpa using List.find?_some hn'
    rw [hn',List.inj_on_of_nodup_map h (List.mem_of_find?_eq_some hn') hn hsame]

theorem get?_rawProfiles {ps : List CapabilityProfileConfigV1} {id : String}
    {raw : ValidatedProfileConfigV1} (h : (ps.map (·.id)).Nodup) :
    (rawProfiles ps).get? id = some raw ↔ ∃ p ∈ ps, p.id = id ∧ rawProfile p = raw := by
  have hkeys : ((ps.map fun p => (p.id,rawProfile p)).map Prod.fst).Nodup := by
    simpa [Function.comp_def] using h
  rw [rawProfiles,OrderedMap.get?_ofList hkeys,lookupEntry_eq_some_iff hkeys]
  simp

theorem ManifestAccepted.ids_eq (h : ManifestAccepted crates net manifest envelope ns) :
    ns.map (·.id) = manifest.profiles.map (·.id) :=
  map_eq_map_iff_forall₂.2 (h.profiles.flip.imp fun _ _ hn => Normalizes.id_eq hn)

theorem ManifestAccepted.profiles_perm (h : ManifestAccepted crates net manifest envelope ns) :
    envelope.pack.profiles.Perm ns := by
  rw [h.pack]
  exact ns.perm_insertionSort _

theorem ManifestAccepted.pack_ids (h : ManifestAccepted crates net manifest envelope ns) :
    (envelope.pack.profiles.map (·.id)).Nodup := by
  rw [(h.profiles_perm.map _).nodup_iff,h.ids_eq]
  exact h.ids

/-- The expansion of the bound profile, whose configuration has this plan. -/
structure Expands (crates : Crates) (net : AddressText) (manifest : CapabilityPackManifestV1)
    (envelope : CapabilityPackEnvelopeV1) (binding : CapabilityPackBindingV1)
    (p : CapabilityProfileConfigV1) (expansion : CapabilityPackExpansionV1) : Prop where
  declared : p ∈ manifest.profiles
  bound : p.id = binding.profileId
  plan : ((rawProfile p).config binding.project binding.receipt).intoPlan crates =
    .ok expansion.executionPlan
  expansion : expansion = ⟨envelope.pack.schemaVersion,envelope.pack.packId,
    envelope.pack.packVersion,envelope.packDigest,binding.profileId,p.evidenceClass,
    expansion.executionPlan⟩

theorem ManifestAccepted.expand_eq_ok (h : ManifestAccepted crates net manifest envelope ns)
    {binding : CapabilityPackBindingV1} {expansion : CapabilityPackExpansionV1} :
    envelope.expand crates binding = .ok expansion ↔
      ∃ p, Expands crates net manifest envelope binding p expansion := by
  have hidentity : envelope.packDigest = envelope.expectedPackDigest ∧
      packDigestOf crates envelope.pack = envelope.expectedPackDigest :=
    ⟨h.digest.trans h.expected.symm,h.expected.symm⟩
  have hnormalized : ∀ p ∈ manifest.profiles, ∃ n, n ∈ envelope.pack.profiles ∧ n.id = p.id ∧
      n.evidenceClass = p.evidenceClass := by
    intro p hp
    obtain ⟨n,hn,_,haccepted⟩ := h.normalizes hp
    exact ⟨n,h.profiles_perm.mem_iff.2 hn,haccepted.normalized.1,haccepted.normalized.2.2.1⟩
  simp only [CapabilityPackEnvelopeV1.expand,CapabilityPackEnvelopeV1.validatePublicIdentity,
    bind_eq_ok,exists_unit,ensure_eq_ok,ofOption_eq_ok,mapErr_eq_ok,pure_eq,ok.injEq,h.configs,
    get?_rawProfiles h.ids,find?_id_eq_some h.pack_ids]
  constructor
  · rintro ⟨-,_,⟨p,hp,hid,rfl⟩,plan,hplan,n,⟨hn,hbound⟩,rfl⟩
    obtain ⟨n',hn',hid',hevidence⟩ := hnormalized p hp
    have hsame : n = n' :=
      List.inj_on_of_nodup_map h.pack_ids hn hn' (hbound.trans (hid'.trans hid).symm)
    exact ⟨p,hp,hid,hplan,by rw [hsame,hevidence]⟩
  · rintro ⟨p,hp,hid,hplan,hexpansion⟩
    obtain ⟨n,hn,hid',hevidence⟩ := hnormalized p hp
    exact ⟨hidentity,_,⟨p,hp,hid,rfl⟩,_,hplan,n,⟨hn,hid'.trans hid⟩,by
      rw [hevidence]
      exact hexpansion.symm⟩

end

def AddressText.nothing : AddressText := ⟨fun _ => false,fun _ => false⟩

def sampleDigest : String :=
  "sha256:aaaaaaaaaaaaaaaaaaaaaaaaaaaaaaaaaaaaaaaaaaaaaaaaaaaaaaaaaaaaaaaa"

def sampleProfile (id : String) (checks : List CheckConfig) : CapabilityProfileConfigV1 where
  id
  description := "Lints."
  evidenceClass := .deterministic
  passSemantics := "No finding."
  knownBlindSpots := ["Macros."]
  supportedHosts := [.linuxAmd64]
  targetPlatforms := [.linuxAmd64]
  requiredRuntimeFeatures := [.noNetwork,.readOnlySource,.linuxUserland]
  offlinePreparation := .none
  tools := [⟨"clippy","1.0","MIT","https://example.org/clippy",sampleDigest⟩]
  inputs := []
  runtime := { (ConfigV1.sample []).runtime with pullPolicy := some .never, swapMode := some .disabled }
  environment := (ConfigV1.sample []).environment
  caches := []
  storage := ⟨1048576,4096,0⟩
  checks

def sampleManifest (profiles : List CapabilityProfileConfigV1) : CapabilityPackManifestV1 where
  schemaVersion := "1.0"
  packId := "rust"
  packVersion := "1.0.0"
  license := "MIT"
  description := "Rust checks."
  upstreamSources := [⟨"clippy","https://example.org/clippy",sampleDigest⟩]
  profiles

end CapabilityPack

end CommitCiPreflight
