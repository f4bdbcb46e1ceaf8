import CommitCiPreflight.ConfigOrder

/-! No configuration makes `into_plan` panic: the `expect` calls and the decrement of the
ordering loop always succeed, and the other stages have nothing that can fail so. -/
namespace CommitCiPreflight

open Outcome

theorem validateText_ne_panic (field value : String) : validateText field value ≠ .panic := by
  unfold validateText
  split <;> simp

theorem validateIdentifier_ne_panic (field value : String) :
    validateIdentifier field value ≠ .panic :=
  bind_ne_panic (validateText_ne_panic _ _) fun _ _ => ensure_ne_panic _ _

theorem validateEnvironmentName_ne_panic (value : String) :
    validateEnvironmentName value ≠ .panic := by
  refine bind_ne_panic (validateText_ne_panic _ _) fun _ _ => ?_
  split
  · simp
  · exact ensure_ne_panic _ _

theorem validateRelativePath_ne_panic (field value : String) :
    validateRelativePath field value ≠ .panic :=
  bind_ne_panic (validateText_ne_panic _ _) fun _ _ => ensure_ne_panic _ _

theorem validateImageReference_ne_panic (value : String) :
    validateImageReference value ≠ .panic :=
  bind_ne_panic (validateText_ne_panic _ _) fun _ _ =>
    bind_ne_panic (ofOption_ne_panic _ _) fun _ _ =>
    bind_ne_panic (ofOption_ne_panic _ _) fun _ _ => ensure_ne_panic _ _

theorem uniqueSorted_ne_panic {field : String} {validate : String → Outcome ConfigError Unit}
    (h : ∀ v, validate v ≠ .panic) (values : List String) :
    uniqueSorted field validate values ≠ .panic := by
  refine bind_ne_panic (fold_ne_panic_of_step (fun unique v => ?_) _ _) fun _ _ => by simp
  exact bind_ne_panic (h v) fun _ _ => bind_ne_panic (ensure_ne_panic _ _) fun _ _ => by simp

theorem validateTopLevel_ne_panic (config : ConfigV1) : config.validateTopLevel ≠ .panic :=
  bind_ne_panic (ensure_ne_panic _ _) fun _ _ =>
    bind_ne_panic (bind_ne_panic (validateIdentifier_ne_panic _ _) fun _ _ =>
      bind_ne_panic (validateIdentifier_ne_panic _ _) fun _ _ => ensure_ne_panic _ _) fun _ _ =>
    bind_ne_panic (validateImageReference_ne_panic _) fun _ _ =>
    bind_ne_panic (ensure_ne_panic _ _) fun _ _ =>
    bind_ne_panic (ensure_ne_panic _ _) fun _ _ =>
    bind_ne_panic (ensure_ne_panic _ _) fun _ _ =>
    bind_ne_panic (validateRelativePath_ne_panic _ _) fun _ _ =>
    bind_ne_panic (ensure_ne_panic _ _) fun _ _ => ensure_ne_panic _ _

theorem normalizeCaches_ne_panic (caches : List CacheConfig) :
    normalizeCaches caches ≠ .panic := by
  refine bind_ne_panic (ensure_ne_panic _ _) fun _ _ =>
    bind_ne_panic (fold_ne_panic_of_step (fun state cache => ?_) _ _) fun _ _ => by simp
  exact bind_ne_panic (validateIdentifier_ne_panic _ _) fun _ _ =>
    bind_ne_panic (validateRelativePath_ne_panic _ _) fun _ _ =>
    bind_ne_panic (ensure_ne_panic _ _) fun _ _ =>
    bind_ne_panic (ensure_ne_panic _ _) fun _ _ =>
    bind_ne_panic (ensure_ne_panic _ _) fun _ _ => by simp

theorem normalizeRuntime_ne_panic (schemaVersion : String) (runtime : RuntimeConfig) :
    normalizeRuntime schemaVersion runtime ≠ .panic := by
  unfold normalizeRuntime
  split
  · exact bind_ne_panic (ofOption_ne_panic _ _) fun _ _ =>
      bind_ne_panic (ofOption_ne_panic _ _) fun _ _ => by simp
  · exact bind_ne_panic (ensure_ne_panic _ _) fun _ _ =>
      bind_ne_panic (ensure_ne_panic _ _) fun _ _ => by simp

theorem normalizeEnvironment_ne_panic (crates : Crates) (schemaVersion : String)
    (environment : EnvironmentConfig) (caches : List NormalizedCache) :
    normalizeEnvironment crates schemaVersion environment caches ≠ .panic := by
  refine bind_ne_panic (uniqueSorted_ne_panic validateEnvironmentName_ne_panic _) fun _ _ =>
    bind_ne_panic (uniqueSorted_ne_panic validateEnvironmentName_ne_panic _) fun _ _ =>
    bind_ne_panic (ensure_ne_panic _ _) fun _ _ => bind_ne_panic (ensure_ne_panic _ _) fun _ _ =>
    bind_ne_panic (fold_ne_panic_of_step (fun state binding => ?_) _ _) fun _ _ =>
    bind_ne_panic (fold_ne_panic_of_step (fun state binding => ?_) _ _) fun _ _ =>
    bind_ne_panic (fold_ne_panic_of_step (fun state binding => ?_) _ _) fun _ _ => by simp
  · exact bind_ne_panic (validateEnvironmentName_ne_panic _) fun _ _ =>
      bind_ne_panic (validateText_ne_panic _ _) fun _ _ =>
      bind_ne_panic (ensure_ne_panic _ _) fun _ _ => by simp
  · exact bind_ne_panic (validateEnvironmentName_ne_panic _) fun _ _ =>
      bind_ne_panic (validateIdentifier_ne_panic _ _) fun _ _ =>
      bind_ne_panic (ensure_ne_panic _ _) fun _ _ =>
      bind_ne_panic (ofOption_ne_panic _ _) fun _ _ => by simp
  · exact bind_ne_panic (ensure_ne_panic _ _) fun _ _ => by simp

theorem validateCheck_ne_panic (check : CheckConfig) : validateCheck check ≠ .panic :=
  bind_ne_panic (validateIdentifier_ne_panic _ _) fun _ _ =>
    bind_ne_panic (ensure_ne_panic _ _) fun _ _ =>
    bind_ne_panic (each_ne_panic fun _ _ => validateText_ne_panic _ _) fun _ _ =>
    bind_ne_panic (validateRelativePath_ne_panic _ _) fun _ _ => ensure_ne_panic _ _

theorem validateArtifactContracts_ne_panic (check : CheckConfig) :
    validateArtifactContracts check ≠ .panic := by
  refine bind_ne_panic (fold_ne_panic_of_step (fun paths artifact => ?_) _ _) fun _ _ => by simp
  exact bind_ne_panic (validateRelativePath_ne_panic _ _) fun _ _ =>
    bind_ne_panic (ensure_ne_panic _ _) fun _ _ => bind_ne_panic (ensure_ne_panic _ _) fun _ _ =>
    bind_ne_panic (ensure_ne_panic _ _) fun _ _ => bind_ne_panic (ensure_ne_panic _ _) fun _ _ =>
    bind_ne_panic (ensure_ne_panic _ _) fun _ _ => by simp

theorem collectCheck_ne_panic (byId : OrderedMap String CheckConfig) (check : CheckConfig) :
    collectCheck byId check ≠ .panic :=
  bind_ne_panic (validateCheck_ne_panic _) fun _ _ =>
    bind_ne_panic (uniqueSorted_ne_panic (validateIdentifier_ne_panic _) _) fun _ _ =>
    bind_ne_panic (uniqueSorted_ne_panic (validateRelativePath_ne_panic _) _) fun _ _ =>
    bind_ne_panic (ensure_ne_panic _ _) fun _ _ =>
    bind_ne_panic (validateArtifactContracts_ne_panic _) fun _ _ =>
    bind_ne_panic (ensure_ne_panic _ _) fun _ _ => by simp

theorem topologicalChecks_ne_panic {byId : OrderedMap String CheckConfig} (hwf : WellFormed byId) :
    topologicalChecks byId ≠ .panic := by
  obtain ⟨placed,ordered,-,-,-,hresult⟩ := topologicalChecks_eq hwf
  rw [hresult]
  split <;> simp

theorem normalizeChecks_ne_panic (checks : List CheckConfig) :
    normalizeChecks checks ≠ .panic := by
  refine bind_ne_panic (ensure_ne_panic _ _) fun _ _ =>
    bind_ne_panic (ensure_ne_panic _ _) fun _ _ => bind_ne_panic (ensure_ne_panic _ _) fun _ _ =>
    bind_ne_panic (fold_ne_panic_of_step collectCheck_ne_panic _ _) fun byId hbyId => ?_
  obtain ⟨-,hids,rfl⟩ := collectChecks_eq_ok.1 hbyId
  refine bind_ne_panic (each_ne_panic fun check _ => each_ne_panic fun d _ => ?_) fun _ hdeps => ?_
  · exact bind_ne_panic (ensure_ne_panic _ _) fun _ _ => ensure_ne_panic _ _
  · refine topologicalChecks_ne_panic (wellFormed_checksById hids fun check hc d hd => ?_)
    exact ((validateDependencies_checksById hids).1 hdeps check hc d hd).2

theorem normalizeStorage_ne_panic (schemaVersion : String) (storage : Option StorageConfig)
    (checks : List NormalizedCheck) : normalizeStorage schemaVersion storage checks ≠ .panic := by
  unfold normalizeStorage
  split
  · exact bind_ne_panic (ensure_ne_panic _ _) fun _ _ => by simp
  · exact bind_ne_panic (ofOption_ne_panic _ _) fun _ _ =>
      bind_ne_panic (ensure_ne_panic _ _) fun _ _ => bind_ne_panic (ensure_ne_panic _ _) fun _ _ =>
      bind_ne_panic (ensure_ne_panic _ _) fun _ _ => bind_ne_panic (ofOption_ne_panic _ _) fun _ _ =>
      bind_ne_panic (ofOption_ne_panic _ _) fun _ _ =>
      bind_ne_panic (ensure_ne_panic _ _) fun _ _ => by simp

theorem isolateCaches_ne_panic (output : String) (caches : List NormalizedCache) :
    isolateCaches output caches ≠ .panic := by
  induction caches with
  | nil => simp [isolateCaches]
  | cons cache caches ih =>
    exact bind_ne_panic (each_ne_panic fun _ _ => ensure_ne_panic _ _) fun _ _ =>
      bind_ne_panic (ensure_ne_panic _ _) fun _ _ => ih

theorem validatePathIsolation_ne_panic (receipt : NormalizedReceipt)
    (caches : List NormalizedCache) (checks : List NormalizedCheck) :
    validatePathIsolation receipt caches checks ≠ .panic := by
  refine bind_ne_panic (isolateCaches_ne_panic _ _) fun _ _ => bind_ne_panic
    (fold_ne_panic_of_step (fun _ check => fold_ne_panic_of_step (fun taken artifact => ?_) _ _) _ _)
    fun _ _ => by simp
  exact bind_ne_panic (ensure_ne_panic _ _) fun _ _ =>
    bind_ne_panic (each_ne_panic fun _ _ => ensure_ne_panic _ _) fun _ _ =>
    bind_ne_panic (ensure_ne_panic _ _) fun _ _ =>
    bind_ne_panic (each_ne_panic fun _ _ => ensure_ne_panic _ _) fun _ _ => by simp

theorem intoPlan_ne_panic (crates : Crates) (config : ConfigV1) :
    config.intoPlan crates ≠ .panic :=
  bind_ne_panic (validateTopLevel_ne_panic _) fun _ _ =>
    bind_ne_panic (normalizeCaches_ne_panic _) fun _ _ =>
    bind_ne_panic (normalizeRuntime_ne_panic _ _) fun _ _ =>
    bind_ne_panic (normalizeEnvironment_ne_panic _ _ _ _) fun _ _ =>
    bind_ne_panic (normalizeChecks_ne_panic _) fun _ _ =>
    bind_ne_panic (normalizeStorage_ne_panic _ _ _) fun _ _ =>
    bind_ne_panic (validatePathIsolation_ne_panic _ _ _) fun _ _ => by simp

end CommitCiPreflight
