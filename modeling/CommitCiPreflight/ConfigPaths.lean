import CommitCiPreflight.ConfigOrder

/-! The paths an accepted configuration reserves. Overlap is decided on strings; it is the
prefix order on lists of path segments. -/
namespace CommitCiPreflight

open Outcome

def segments (path : String) : List String := Text.split path '/'

theorem segments_prefix_iff {p q : String} :
    segments p <+: segments q ↔ p = q ∨ ∃ r, q.toList = p.toList++ '/'::r := by
  have hmap : segments p <+: segments q ↔ p.toList.splitOn '/' <+: q.toList.splitOn '/' := by
    rw [segments,segments,Text.split,Text.split]
    exact List.prefix_map_iff_of_injective fun _ _ h => by simpa using congrArg String.toList h
  rw [hmap,Text.splitOn_prefix_iff,String.toList_inj]

theorem any_stripPrefix_eq_true {p q : String} :
    (Text.stripPrefix p q).any (Text.startsWith · '/') = true ↔
      ∃ r, p.toList = q.toList++ '/'::r := by
  rw [Option.any_eq_true]
  constructor
  · rintro ⟨suffix,hstrip,hstart⟩
    obtain ⟨r,hr⟩ := Text.startsWith_eq_true.1 hstart
    exact ⟨r,hr ▸ Text.stripPrefix_eq_some.1 hstrip⟩
  · rintro ⟨r,hr⟩
    refine ⟨String.ofList ('/'::r),Text.stripPrefix_eq_some.2 ?_,Text.startsWith_eq_true.2 ⟨r,?_⟩⟩
    · rw [hr,String.toList_ofList]
    · rw [String.toList_ofList]

/-- The string test finds exactly the pairs in which one path contains the other. -/
theorem pathsOverlap_eq_true {p q : String} :
    pathsOverlap p q = true ↔ segments p <+: segments q ∨ segments q <+: segments p := by
  rw [pathsOverlap,Bool.or_eq_true,Bool.or_eq_true,beq_iff_eq,any_stripPrefix_eq_true,
    any_stripPrefix_eq_true,segments_prefix_iff,segments_prefix_iff,@eq_comm _ q p]
  tauto

/-- The receipt output, the cache mounts and the artifacts, as declared. -/
def ConfigV1.declaredPaths (config : ConfigV1) : List String :=
  config.receipt.output::config.caches.map (·.mountPath)++config.checks.flatMap (·.artifacts)

theorem normalizeCaches_perm {caches : List CacheConfig} {out : List NormalizedCache}
    (h : normalizeCaches caches = .ok out) : out.Perm (caches.map (·.normalized)) := by
  obtain ⟨-,-,hids,-,rfl⟩ := normalizeCaches_eq_ok.1 h
  have hnodup : ((caches.map fun cache => (cache.id,cache.normalized)).map Prod.fst).Nodup := by
    simpa [Function.comp_def] using hids
  have hperm := (OrderedMap.entries_ofList_perm hnodup).map Prod.snd
  simpa [OrderedMap.values,Function.comp_def] using hperm

theorem mountPaths_perm {caches : List CacheConfig} {out : List NormalizedCache}
    (h : normalizeCaches caches = .ok out) :
    (out.map (·.mountPath)).Perm (caches.map (·.mountPath)) := by
  have hperm := (normalizeCaches_perm h).map (·.mountPath)
  rwa [List.map_map] at hperm

theorem artifacts_perm {checks : List CheckConfig} {out : List NormalizedCheck}
    (h : normalizeChecks checks = .ok out) :
    (out.flatMap (·.artifacts)).Perm (checks.flatMap (·.artifacts)) := by
  have hvalid := (normalizeChecks_eq_ok.1 h).2.1.1
  refine ((normalizeChecks_order h).1.flatMap_right _).trans ?_
  rw [List.flatMap_map]
  refine List.Perm.flatMap_left _ fun check hc => ?_
  exact OrderedSet.toList_ofList_perm (hvalid check hc).artifacts_nodup

theorem ConfigV1.Accepted.reservedPaths_perm {crates : Crates} {config : ConfigV1}
    {envelope : ExecutionPlanEnvelopeV1} (h : config.Accepted crates envelope) :
    (reservedPaths envelope.plan.receipt envelope.plan.caches envelope.plan.checks).Perm
      config.declaredPaths := by
  rw [reservedPaths,h.receipt]
  exact ((mountPaths_perm h.caches).cons _).append (artifacts_perm h.checks)

/-- A path below the checkout: relative, not the checkout itself, and without empty or dot
segments. -/
structure ProperPath (path : String) : Prop where
  nonempty : path ≠ ""
  notRoot : path ≠ "."
  relative : Text.startsWith path '/' = false
  segments : ∀ segment ∈ segments path, segment ≠ "" ∧ segment ≠ "." ∧ segment ≠ ".."

theorem properPath_of_validate {field path : String}
    (h : validateRelativePath field path = .ok ()) (hroot : path ≠ ".") : ProperPath path := by
  simp only [validateRelativePath,validateText,bind_eq_ok,exists_unit,ensure_eq_ok] at h
  obtain ⟨htext,hsafe⟩ := h
  split at htext
  · simp at htext
  · rename_i hnot
    push Not at hnot
    obtain ⟨habsolute,-,-,-,hsegments⟩ := hsafe.resolve_left hroot
    exact ⟨hnot.1,hroot,habsolute,hsegments⟩

theorem ConfigV1.Accepted.properPath {crates : Crates} {config : ConfigV1}
    {envelope : ExecutionPlanEnvelopeV1} (h : config.Accepted crates envelope) :
    ∀ path ∈ config.declaredPaths, ProperPath path := by
  intro path hpath
  simp only [declaredPaths,List.cons_append,List.mem_cons,List.mem_append,List.mem_map,
    List.mem_flatMap] at hpath
  rcases hpath with rfl | ⟨cache,hcache,rfl⟩ | ⟨check,hcheck,hpath⟩
  · have htop := h.topLevel
    simp only [validateTopLevel,bind_eq_ok,exists_unit,ensure_eq_ok] at htop
    obtain ⟨-,-,-,-,-,-,hvalid,hroot,-⟩ := htop
    exact properPath_of_validate hvalid hroot
  · have hvalid := (normalizeCaches_eq_ok.1 h.caches).2.1 cache hcache
    exact properPath_of_validate hvalid.mountPath hvalid.notRoot
  · have hvalid := (normalizeChecks_eq_ok.1 h.checks).2.1.1 check hcheck
    exact properPath_of_validate (hvalid.artifacts path hpath) fun he => hvalid.notRoot (he ▸ hpath)

/-- The reserved paths of an accepted configuration are proper, and no two of them are
equal or contain one another. -/
theorem intoPlan_paths_isolated {crates : Crates} {config : ConfigV1}
    {envelope : ExecutionPlanEnvelopeV1} (h : config.intoPlan crates = .ok envelope) :
    config.declaredPaths.Pairwise (fun p q => p ≠ q ∧ ¬ segments p <+: segments q ∧
      ¬ segments q <+: segments p) ∧
    ∀ path ∈ config.declaredPaths, ProperPath path := by
  have haccepted := ConfigV1.intoPlan_eq_ok.1 h
  refine ⟨?_,haccepted.properPath⟩
  have hpairs := validatePathIsolation_eq_ok.1 haccepted.isolation
  rw [haccepted.reservedPaths_perm.pairwise_iff
    fun {p q} hpq => pathsOverlap_comm p q ▸ hpq] at hpairs
  refine hpairs.imp fun {p q} hpq => ?_
  have hnot : ¬ (segments p <+: segments q ∨ segments q <+: segments p) := by
    rw [← pathsOverlap_eq_true,hpq]
    decide
  rw [not_or] at hnot
  exact ⟨fun he => hnot.1 (he ▸ List.prefix_rfl),hnot⟩

def ConfigV1.samplePaths : ConfigV1 :=
  { ConfigV1.sample [{ CheckConfig.sample "build" [] with artifacts := ["dist/app","dist/app.sig"] }]
      with caches := [⟨"cargo","target/cache"⟩] }

theorem ConfigV1.samplePaths_accepted :
    ∃ envelope, ConfigV1.samplePaths.intoPlan .reference = .ok envelope :=
  exists_of_isSome (by decide +kernel)

theorem intoPlan_paths_isolated_sample :
    (∃ envelope, ConfigV1.samplePaths.intoPlan .reference = .ok envelope) ∧
      ConfigV1.samplePaths.declaredPaths =
        [".ccp/receipt.json","target/cache","dist/app","dist/app.sig"] ∧
      ConfigV1.samplePaths.declaredPaths.Pairwise (fun p q => p ≠ q ∧
        ¬ segments p <+: segments q ∧ ¬ segments q <+: segments p) ∧
      ∀ path ∈ ConfigV1.samplePaths.declaredPaths, ProperPath path := by
  obtain ⟨envelope,henvelope⟩ := ConfigV1.samplePaths_accepted
  exact ⟨⟨envelope,henvelope⟩,rfl,intoPlan_paths_isolated henvelope⟩

end CommitCiPreflight
