import CommitCiPreflight.Config

/-! What each stage of `into_plan` accepts and what it then returns. The stages collect
their items into maps and sets, so acceptance is a condition on the items and on pairs of
them, and the result does not depend on the order they are declared in. -/
namespace CommitCiPreflight

open Outcome

theorem collectValue_eq_ok {field : String} {validate : String → Outcome ConfigError Unit}
    (unique : OrderedSet String) (value : String) (unique' : OrderedSet String) :
    collectValue field validate unique value = .ok unique' ↔
      validate value = .ok () ∧ value ∉ unique ∧ unique' = unique.insert value := by
  simp only [collectValue,bind_eq_ok,exists_unit,ensure_eq_ok,pure_eq,ok.injEq,
    @eq_comm _ _ unique']

theorem uniqueSorted_eq_ok {field : String} {validate : String → Outcome ConfigError Unit}
    {values out : List String} :
    uniqueSorted field validate values = .ok out ↔
      (∀ v ∈ values, validate v = .ok ()) ∧ values.Nodup ∧
        out = (OrderedSet.ofList values).toList := by
  simp only [uniqueSorted,bind_eq_ok,pure_eq,ok.injEq,
    fold_eq_ok_iff collectValue_eq_ok OrderedSet.notMem_insert]
  constructor
  · rintro ⟨_,⟨hvalid,hpairs,rfl⟩,rfl⟩
    exact ⟨fun v hv => (hvalid v hv).1,hpairs.imp (fun hne he => hne he.symm),rfl⟩
  · rintro ⟨hvalid,hnodup,rfl⟩
    exact ⟨_,⟨fun v hv => ⟨hvalid v hv,by simp⟩,hnodup.imp (fun hne he => hne he.symm),rfl⟩,rfl⟩

structure CacheConfig.Valid (cache : CacheConfig) : Prop where
  id : validateIdentifier "cache.id" cache.id = .ok ()
  mountPath : validateRelativePath "cache.mount_path" cache.mountPath = .ok ()
  notRoot : cache.mountPath ≠ "."

def CacheConfig.normalized (cache : CacheConfig) : NormalizedCache := ⟨cache.id,cache.mountPath⟩

theorem normalizeCache_eq_ok (state : OrderedMap String NormalizedCache × OrderedSet String)
    (cache : CacheConfig) (state' : OrderedMap String NormalizedCache × OrderedSet String) :
    normalizeCache state cache = .ok state' ↔
      cache.Valid ∧ (state.1.get? cache.id = none ∧ cache.mountPath ∉ state.2) ∧
        state' = (state.1.insert cache.id cache.normalized,state.2.insert cache.mountPath) := by
  simp only [normalizeCache,bind_eq_ok,exists_unit,ensure_eq_ok,pure_eq,ok.injEq,@eq_comm _ _ state']
  constructor
  · rintro ⟨hid,hpath,hroot,hfree,hmount,rfl⟩
    exact ⟨⟨hid,hpath,hroot⟩,⟨hfree,hmount⟩,rfl⟩
  · rintro ⟨⟨hid,hpath,hroot⟩,⟨hfree,hmount⟩,rfl⟩
    exact ⟨hid,hpath,hroot,hfree,hmount,rfl⟩

theorem cache_free_insert (state : OrderedMap String NormalizedCache × OrderedSet String)
    (cache other : CacheConfig) :
    (state.1.insert cache.id cache.normalized).get? other.id = none ∧
        other.mountPath ∉ state.2.insert cache.mountPath ↔
      ¬ (other.id = cache.id ∨ other.mountPath = cache.mountPath) ∧
        state.1.get? other.id = none ∧ other.mountPath ∉ state.2 := by
  rw [OrderedMap.get?_insert,OrderedSet.notMem_insert]
  by_cases h : other.id = cache.id <;> simp [h]
  tauto

theorem normalizeCaches_eq_ok {caches : List CacheConfig} {out : List NormalizedCache} :
    normalizeCaches caches = .ok out ↔
      caches.length ≤ maxCaches ∧ (∀ cache ∈ caches, cache.Valid) ∧
        (caches.map (·.id)).Nodup ∧ (caches.map (·.mountPath)).Nodup ∧
        out = (OrderedMap.ofList (caches.map fun cache => (cache.id,cache.normalized))).values := by
  have hfst : ∀ state : OrderedMap String NormalizedCache × OrderedSet String,
      (caches.foldl (fun state cache =>
        (state.1.insert cache.id cache.normalized,state.2.insert cache.mountPath)) state).1 =
      (caches.map fun cache => (cache.id,cache.normalized)).foldl
        (fun m e => m.insert e.1 e.2) state.1 := by
    intro state
    rw [List.foldl_map]
    exact (List.foldl_hom Prod.fst fun _ _ => rfl).symm
  simp only [normalizeCaches,bind_eq_ok,exists_unit,ensure_eq_ok,pure_eq,ok.injEq,
    fold_eq_ok_iff normalizeCache_eq_ok cache_free_insert,not_or]
  refine and_congr_right fun _ => ?_
  constructor
  · rintro ⟨_,⟨hvalid,hpairs,rfl⟩,rfl⟩
    refine ⟨fun cache hc => (hvalid cache hc).1,?_,?_,by rw [hfst]; rfl⟩
    · exact pairwise_ne_of_clash.1 (hpairs.imp fun h => h.1)
    · exact pairwise_ne_of_clash.1 (hpairs.imp fun h => h.2)
  · rintro ⟨hvalid,hids,hmounts,rfl⟩
    refine ⟨_,⟨fun cache hc => ⟨hvalid cache hc,by simp⟩,?_,rfl⟩,by rw [hfst]; rfl⟩
    exact List.Pairwise.and (pairwise_ne_of_clash.2 hids) (pairwise_ne_of_clash.2 hmounts)

/-- The check as `normalize_checks` stores it, its lists sorted. -/
def CheckConfig.sorted (check : CheckConfig) : CheckConfig :=
  { check with
    dependsOn := (OrderedSet.ofList check.dependsOn).toList
    artifacts := (OrderedSet.ofList check.artifacts).toList }

structure CheckConfig.Valid (check : CheckConfig) : Prop where
  fields : validateCheck check = .ok ()
  dependsOn : ∀ d ∈ check.dependsOn, validateIdentifier "check.depends_on" d = .ok ()
  dependsOn_nodup : check.dependsOn.Nodup
  artifacts : ∀ a ∈ check.artifacts, validateRelativePath "check.artifacts" a = .ok ()
  artifacts_nodup : check.artifacts.Nodup
  notRoot : "." ∉ check.artifacts
  contracts : validateArtifactContracts check.sorted = .ok ()

theorem collectCheck_eq_ok (byId : OrderedMap String CheckConfig) (check : CheckConfig)
    (byId' : OrderedMap String CheckConfig) :
    collectCheck byId check = .ok byId' ↔
      check.Valid ∧ byId.get? check.id = none ∧ byId' = byId.insert check.id check.sorted := by
  simp only [collectCheck,bind_eq_ok,exists_unit,uniqueSorted_eq_ok,ensure_eq_ok,pure_eq,ok.injEq]
  constructor
  · rintro ⟨hfields,_,⟨hdeps,hdepsNodup,rfl⟩,_,⟨harts,hartsNodup,rfl⟩,hroot,hcontracts,hfree,rfl⟩
    exact ⟨⟨hfields,hdeps,hdepsNodup,harts,hartsNodup,by simpa using hroot,hcontracts⟩,hfree,rfl⟩
  · rintro ⟨⟨hfields,hdeps,hdepsNodup,harts,hartsNodup,hroot,hcontracts⟩,hfree,rfl⟩
    exact ⟨hfields,_,⟨hdeps,hdepsNodup,rfl⟩,_,⟨harts,hartsNodup,rfl⟩,by simpa using hroot,
      hcontracts,hfree,rfl⟩

def checksById (checks : List CheckConfig) : OrderedMap String CheckConfig :=
  OrderedMap.ofList (checks.map fun check => (check.id,check.sorted))

theorem collectChecks_eq_ok {checks : List CheckConfig} {byId : OrderedMap String CheckConfig} :
    fold collectCheck .empty checks = .ok byId ↔
      (∀ check ∈ checks, check.Valid) ∧ (checks.map (·.id)).Nodup ∧ byId = checksById checks := by
  have hfree : ∀ (byId : OrderedMap String CheckConfig) (check other : CheckConfig),
      (byId.insert check.id check.sorted).get? other.id = none ↔
        ¬ other.id = check.id ∧ byId.get? other.id = none := by
    intro byId check other
    rw [OrderedMap.get?_insert]
    by_cases h : other.id = check.id <;> simp [h]
  have hfold : checks.foldl (fun byId check => byId.insert check.id check.sorted) .empty =
      checksById checks := by
    rw [checksById,OrderedMap.ofList,List.foldl_map]
  rw [fold_eq_ok_iff collectCheck_eq_ok hfree,hfold,pairwise_ne_of_clash]
  simp

section ChecksById

variable {checks : List CheckConfig} (hids : (checks.map (·.id)).Nodup)
include hids

theorem checksById_keys_nodup :
    ((checks.map fun check => (check.id,check.sorted)).map Prod.fst).Nodup := by
  simpa [Function.comp_def] using hids

theorem get?_checksById {id : String} {check : CheckConfig} :
    (checksById checks).get? id = some check ↔ ∃ c ∈ checks, c.id = id ∧ c.sorted = check := by
  have hnodup := checksById_keys_nodup hids
  rw [checksById,OrderedMap.get?_ofList hnodup,lookupEntry_eq_some_iff hnodup]
  simp

theorem checksById_entries_perm :
    (checksById checks).entries.Perm (checks.map fun check => (check.id,check.sorted)) :=
  OrderedMap.entries_ofList_perm (checksById_keys_nodup hids)

theorem mem_keys_checksById {id : String} :
    id ∈ (checksById checks).keys ↔ ∃ c ∈ checks, c.id = id := by
  rw [OrderedMap.mem_keys]
  simp [get?_checksById hids]

end ChecksById

theorem validateDependencies_eq_ok {byId : OrderedMap String CheckConfig} :
    validateDependencies byId = .ok () ↔
      ∀ check ∈ byId.values, ∀ d ∈ check.dependsOn, d ≠ check.id ∧ d ∈ byId.keys := by
  simp only [validateDependencies,each_eq_ok,validateDependency,bind_eq_ok,exists_unit,
    ensure_eq_ok,ne_eq,OrderedMap.get?_eq_none,not_not]

theorem normalizeChecks_eq_ok {checks : List CheckConfig} {out : List NormalizedCheck} :
    normalizeChecks checks = .ok out ↔
      (checks ≠ [] ∧ checks.length ≤ maxChecks ∧ checks.any (·.required) = true) ∧
      ((∀ check ∈ checks, check.Valid) ∧ (checks.map (·.id)).Nodup) ∧
      validateDependencies (checksById checks) = .ok () ∧
      topologicalChecks (checksById checks) = .ok out := by
  simp only [normalizeChecks,bind_eq_ok,exists_unit,ensure_eq_ok,collectChecks_eq_ok]
  constructor
  · rintro ⟨hne,hlen,hreq,_,⟨hvalid,hids,rfl⟩,hdeps,hout⟩
    exact ⟨⟨hne,hlen,hreq⟩,⟨hvalid,hids⟩,hdeps,hout⟩
  · rintro ⟨⟨hne,hlen,hreq⟩,⟨hvalid,hids⟩,hdeps,hout⟩
    exact ⟨hne,hlen,hreq,_,⟨hvalid,hids,rfl⟩,hdeps,hout⟩

structure FixedValid (binding : String × String) : Prop where
  name : validateEnvironmentName binding.1 = .ok ()
  value : validateText "environment.fixed" binding.2 = .ok ()

def fixedBinding (crates : Crates) (binding : String × String) : NormalizedFixedEnvironment :=
  ⟨binding.1,canonicalDigest crates (.str binding.2)⟩

theorem bindFixed_eq_ok (crates : Crates)
    (state : OrderedSet String × List NormalizedFixedEnvironment) (binding : String × String)
    (state' : OrderedSet String × List NormalizedFixedEnvironment) :
    bindFixed crates state binding = .ok state' ↔
      FixedValid binding ∧ binding.1 ∉ state.1 ∧
        state' = (state.1.insert binding.1,state.2++[fixedBinding crates binding]) := by
  simp only [bindFixed,bind_eq_ok,exists_unit,ensure_eq_ok,pure_eq,ok.injEq,@eq_comm _ _ state']
  constructor
  · rintro ⟨hname,hvalue,hfree,h⟩
    exact ⟨⟨hname,hvalue⟩,hfree,h⟩
  · rintro ⟨⟨hname,hvalue⟩,hfree,h⟩
    exact ⟨hname,hvalue,hfree,h⟩

structure RuntimeInternalEnvironmentConfig.Valid (cacheTargets : OrderedMap String String)
    (binding : RuntimeInternalEnvironmentConfig) : Prop where
  name : validateEnvironmentName binding.name = .ok ()
  cacheId : validateIdentifier "environment.runtime_internal.cache_id" binding.cacheId = .ok ()
  known : binding.cacheId ∈ cacheTargets.keys

def internalBinding (cacheTargets : OrderedMap String String)
    (binding : RuntimeInternalEnvironmentConfig) : NormalizedRuntimeInternalEnvironment :=
  ⟨binding.name,binding.cacheId,
    "/workspace/"++(cacheTargets.get? binding.cacheId).getD ""⟩

theorem bindRuntimeInternal_eq_ok (cacheTargets : OrderedMap String String)
    (state : OrderedSet String × List NormalizedRuntimeInternalEnvironment)
    (binding : RuntimeInternalEnvironmentConfig)
    (state' : OrderedSet String × List NormalizedRuntimeInternalEnvironment) :
    bindRuntimeInternal cacheTargets state binding = .ok state' ↔
      binding.Valid cacheTargets ∧ binding.name ∉ state.1 ∧
        state' = (state.1.insert binding.name,
          state.2++[internalBinding cacheTargets binding]) := by
  simp only [bindRuntimeInternal,bind_eq_ok,exists_unit,ensure_eq_ok,pure_eq,ok.injEq,
    ofOption_eq_ok,@eq_comm _ _ state']
  constructor
  · rintro ⟨hname,hid,hfree,path,hpath,rfl⟩
    refine ⟨⟨hname,hid,OrderedMap.mem_keys.2 ⟨path,hpath⟩⟩,hfree,?_⟩
    simp [internalBinding,hpath]
  · rintro ⟨⟨hname,hid,hknown⟩,hfree,rfl⟩
    obtain ⟨path,hpath⟩ := OrderedMap.mem_keys.1 hknown
    exact ⟨hname,hid,hfree,path,hpath,by simp [internalBinding,hpath]⟩

theorem reserveSecret_eq_ok (names : OrderedSet String) (name : String)
    (names' : OrderedSet String) :
    reserveSecret names name = .ok names' ↔ True ∧ name ∉ names ∧ names' = names.insert name := by
  simp only [reserveSecret,bind_eq_ok,exists_unit,ensure_eq_ok,pure_eq,ok.injEq,true_and,
    @eq_comm _ _ names']

theorem foldl_bindings {α β : Type} (key : α → String) (f : α → β) (as : List α)
    (names : OrderedSet String) (out : List β) :
    as.foldl (fun state a => (state.1.insert (key a),state.2++[f a])) (names,out) =
      ((as.map key).foldl OrderedSet.insert names,out++as.map f) := by
  induction as generalizing names out with
  | nil => simp
  | cons a as ih => simp [ih]

structure EnvironmentConfig.Valid (schemaVersion : String)
    (cacheTargets : OrderedMap String String) (environment : EnvironmentConfig) : Prop where
  allow : ∀ v ∈ environment.allow, validateEnvironmentName v = .ok ()
  allow_nodup : environment.allow.Nodup
  secrets : ∀ v ∈ environment.remoteSecretOnly, validateEnvironmentName v = .ok ()
  secrets_nodup : environment.remoteSecretOnly.Nodup
  legacy : ¬ (schemaVersion = configSchemaVersion ∧ (environment.fixed.entries ≠ [] ∨
    environment.runtimeInternal ≠ [] ∨ environment.remoteSecretOnly ≠ []))
  modern : ¬ (schemaVersion ≠ configSchemaVersion ∧ environment.allow ≠ [])
  fixed : ∀ b ∈ environment.fixed.entries, FixedValid b ∧ b.1 ∉ environment.allow
  internal : ∀ b ∈ environment.runtimeInternal, b.Valid cacheTargets ∧
    b.name ∉ environment.allow ∧ b.name ∉ environment.fixed.keys
  internal_nodup : (environment.runtimeInternal.map (·.name)).Nodup
  reserved : ∀ v ∈ environment.remoteSecretOnly, v ∉ environment.allow ∧
    v ∉ environment.fixed.keys ∧ v ∉ environment.runtimeInternal.map (·.name)

def EnvironmentConfig.normalized (crates : Crates) (cacheTargets : OrderedMap String String)
    (environment : EnvironmentConfig) : NormalizedEnvironment where
  inherit := (OrderedSet.ofList environment.allow).toList
  fixed := (environment.fixed.entries.map (fixedBinding crates)).insertionSort (·.name ≤ ·.name)
  runtimeInternal := (environment.runtimeInternal.map (internalBinding cacheTargets)).insertionSort
    (·.name ≤ ·.name)
  remoteSecretOnly := (OrderedSet.ofList environment.remoteSecretOnly).toList

def cacheTargets (caches : List NormalizedCache) : OrderedMap String String :=
  OrderedMap.ofList (caches.map fun cache => (cache.id,cache.mountPath))

variable {caches : List NormalizedCache}

theorem normalizeEnvironment_eq_ok {crates : Crates} {schemaVersion : String}
    {environment : EnvironmentConfig} {out : NormalizedEnvironment} :
    normalizeEnvironment crates schemaVersion environment caches = .ok out ↔
      environment.Valid schemaVersion (cacheTargets caches) ∧
        out = environment.normalized crates (cacheTargets caches) := by
  have hfixedNames : (environment.fixed.entries.map Prod.fst).Nodup :=
    environment.fixed.keys_nodup
  simp only [normalizeEnvironment,bind_eq_ok,exists_unit,ensure_eq_ok,uniqueSorted_eq_ok,pure_eq,
    ok.injEq,fold_eq_ok_iff (bindFixed_eq_ok crates) (fun _ _ _ => OrderedSet.notMem_insert _ _ _),
    fold_eq_ok_iff (bindRuntimeInternal_eq_ok _) (fun _ _ _ => OrderedSet.notMem_insert _ _ _),
    fold_eq_ok_iff reserveSecret_eq_ok OrderedSet.notMem_insert,foldl_bindings,
    pairwise_ne_of_clash]
  have hnames : ∀ v, v ∈ (OrderedSet.ofList environment.allow).toList.foldl OrderedSet.insert
      .empty ↔ v ∈ environment.allow := by simp [OrderedSet.mem_foldl_insert]
  constructor
  · rintro ⟨_,⟨hallow,hallowNodup,rfl⟩,_,⟨hsecrets,hsecretsNodup,rfl⟩,hlegacy,hmodern,_,
      ⟨hfixed,-,rfl⟩,_,⟨hinternal,hinternalNodup,rfl⟩,_,⟨hreserved,-,rfl⟩,rfl⟩
    simp only [hnames,OrderedSet.mem_foldl_insert,OrderedSet.mem_toList,OrderedSet.mem_ofList,
      ne_eq,OrderedSet.toList_ofList_eq_nil,not_or,true_and] at *
    exact ⟨⟨hallow,hallowNodup,hsecrets,hsecretsNodup,hlegacy,hmodern,hfixed,hinternal,
      hinternalNodup,fun v hv => and_assoc.1 (hreserved v hv)⟩,rfl⟩
  · rintro ⟨h,rfl⟩
    refine ⟨_,⟨h.allow,h.allow_nodup,rfl⟩,_,⟨h.secrets,h.secrets_nodup,rfl⟩,?_,?_,_,
      ⟨?_,hfixedNames,rfl⟩,_,⟨?_,h.internal_nodup,rfl⟩,_,
      ⟨?_,(List.map_id _).symm ▸ OrderedSet.nodup _,rfl⟩,rfl⟩
    all_goals simp only [hnames,OrderedSet.mem_foldl_insert,OrderedSet.mem_toList,
      OrderedSet.mem_ofList,ne_eq,OrderedSet.toList_ofList_eq_nil,not_or,true_and]
    · exact h.legacy
    · exact h.modern
    · exact h.fixed
    · exact h.internal
    · exact fun v hv => and_assoc.2 (h.reserved v hv)

theorem pathsOverlap_comm (first second : String) :
    pathsOverlap first second = pathsOverlap second first := by
  unfold pathsOverlap
  rw [Bool.or_assoc,Bool.or_assoc,Bool.beq_comm,Bool.or_comm (Option.any _ _)]

theorem pathsOverlap_self (path : String) : pathsOverlap path path = true := by
  simp [pathsOverlap]

theorem isolateCaches_eq_ok {output : String} :
    isolateCaches output caches = .ok () ↔
      (output::caches.map (·.mountPath)).Pairwise (pathsOverlap · · = false) := by
  induction caches with
  | nil => simp [isolateCaches]
  | cons cache caches ih =>
    simp only [isolateCaches,bind_eq_ok,exists_unit,each_eq_ok,rejectPathOverlap,ensure_eq_ok,ih,
      List.map_cons,List.pairwise_cons,List.mem_cons,forall_eq_or_imp,List.forall_mem_map]
    rw [pathsOverlap_comm output]
    tauto

theorem isolateArtifact_eq_ok (output : String) (caches : List NormalizedCache)
    (artifacts : OrderedSet String) (artifact : String) (artifacts' : OrderedSet String) :
    isolateArtifact output caches artifacts artifact = .ok artifacts' ↔
      (∀ path ∈ output::caches.map (·.mountPath), pathsOverlap path artifact = false) ∧
        (∀ other ∈ artifacts, pathsOverlap other artifact = false) ∧
        artifacts' = artifacts.insert artifact := by
  simp only [isolateArtifact,bind_eq_ok,exists_unit,each_eq_ok,rejectPathOverlap,ensure_eq_ok,
    pure_eq,ok.injEq,OrderedSet.mem_toList,List.forall_mem_cons,List.forall_mem_map,
    pathsOverlap_comm artifact,@eq_comm _ _ artifacts']
  constructor
  · rintro ⟨-,hothers,houtput,hcaches,h⟩
    exact ⟨⟨houtput,hcaches⟩,hothers,h⟩
  · rintro ⟨⟨houtput,hcaches⟩,hothers,h⟩
    refine ⟨fun hmem => ?_,hothers,houtput,hcaches,h⟩
    have hself := hothers artifact hmem
    rw [pathsOverlap_self] at hself
    exact absurd hself (by decide)

/-- The paths a plan reserves: the receipt, the cache mounts and the artifacts. -/
def reservedPaths (receipt : NormalizedReceipt) (caches : List NormalizedCache)
    (checks : List NormalizedCheck) : List String :=
  receipt.output::caches.map (·.mountPath)++checks.flatMap (·.artifacts)

/-- The three loops compare every pair of reserved paths. -/
theorem validatePathIsolation_eq_ok {receipt : NormalizedReceipt} {checks : List NormalizedCheck} :
    validatePathIsolation receipt caches checks = .ok () ↔
      (reservedPaths receipt caches checks).Pairwise (pathsOverlap · · = false) := by
  have hfree : ∀ (taken : OrderedSet String) (a x : String),
      (∀ other ∈ taken.insert a, pathsOverlap other x = false) ↔
        ¬ pathsOverlap a x = true ∧ ∀ other ∈ taken, pathsOverlap other x = false := by
    intro taken a x
    simp [or_imp,forall_and]
  simp only [validatePathIsolation,bind_eq_ok,exists_unit,isolateCaches_eq_ok,fold_flatMap,
    fold_eq_ok_iff (isolateArtifact_eq_ok _ _) hfree,reservedPaths,List.pairwise_append,
    pure_eq,exists_and_left,exists_eq,and_true,Bool.not_eq_true]
  refine and_congr_right fun _ => ?_
  constructor
  · rintro ⟨hcaches,hpairs⟩
    exact ⟨hpairs,fun path hpath artifact ha => (hcaches artifact ha).1 path hpath⟩
  · rintro ⟨hpairs,hcaches⟩
    exact ⟨fun artifact ha => ⟨fun path hpath => hcaches path hpath artifact ha,by simp⟩,hpairs⟩

theorem checkedAdd_eq_some {a b c : UInt64} :
    checkedAdd a b = some c ↔ a.toNat+b.toNat = c.toNat := by
  have hc := c.toNat_lt
  unfold checkedAdd
  split
  case isTrue h =>
    rw [Option.some.injEq,← UInt64.toNat_inj,UInt64.toNat_add,Nat.mod_eq_of_lt h]
  case isFalse h =>
    exact iff_of_false (by simp) (by omega)

theorem normalizeRuntime_image {schemaVersion : String} {runtime : RuntimeConfig}
    {out : NormalizedRuntime} (h : normalizeRuntime schemaVersion runtime = .ok out) :
    out.image = runtime.image := by
  unfold normalizeRuntime at h
  dsimp only at h
  split at h
  · simp only [bind_eq_ok,pure_eq,ok.injEq] at h
    obtain ⟨_,-,_,-,_,-,rfl⟩ := h
    rfl
  · simp only [bind_eq_ok,exists_unit,pure_eq,ok.injEq] at h
    obtain ⟨-,-,_,-,rfl⟩ := h
    rfl

/-- Every stage of `into_plan` succeeded, with the results the envelope holds. -/
structure ConfigV1.Accepted (crates : Crates) (config : ConfigV1)
    (envelope : ExecutionPlanEnvelopeV1) : Prop where
  topLevel : config.validateTopLevel = .ok ()
  caches : normalizeCaches config.caches = .ok envelope.plan.caches
  runtime : normalizeRuntime config.schemaVersion config.runtime = .ok envelope.plan.runtime
  environment : normalizeEnvironment crates config.schemaVersion config.environment
    envelope.plan.caches = .ok envelope.plan.environment
  checks : normalizeChecks config.checks = .ok envelope.plan.checks
  storage : normalizeStorage config.schemaVersion config.storage envelope.plan.checks =
    .ok envelope.plan.storage
  isolation : validatePathIsolation envelope.plan.receipt envelope.plan.caches
    envelope.plan.checks = .ok ()
  receipt : envelope.plan.receipt = ⟨config.receipt.output,config.receipt.freshnessSeconds⟩
  schemaVersion : envelope.plan.schemaVersion = config.schemaVersion
  project : envelope.plan.project = config.project
  digest : envelope.planDigest = envelope.plan.digest crates
  fixed : envelope.fixedEnvironment = config.environment.fixed

theorem ConfigV1.intoPlan_eq_ok {crates : Crates} {config : ConfigV1}
    {envelope : ExecutionPlanEnvelopeV1} :
    config.intoPlan crates = .ok envelope ↔ config.Accepted crates envelope := by
  simp only [intoPlan,bind_eq_ok,exists_unit,pure_eq,ok.injEq]
  constructor
  · rintro ⟨htop,_,hcaches,_,hruntime,_,henvironment,_,hchecks,_,hstorage,hisolation,rfl⟩
    exact ⟨htop,hcaches,hruntime,henvironment,hchecks,hstorage,hisolation,rfl,rfl,rfl,rfl,rfl⟩
  · obtain ⟨planDigest,plan,fixedEnvironment⟩ := envelope
    rintro ⟨htop,hcaches,hruntime,henvironment,hchecks,hstorage,hisolation,hreceipt,hversion,
      hproject,hdigest,hfixed⟩
    dsimp only at *
    subst hdigest hfixed
    refine ⟨htop,_,hcaches,_,hruntime,_,henvironment,_,hchecks,_,hstorage,hreceipt ▸ hisolation,?_⟩
    rw [← hreceipt,← hversion,← hproject]

end CommitCiPreflight
