import CommitCiPreflight.DockerEnvironment
import CommitCiPreflight.DockerSpec
import CommitCiPreflight.RunReceiptSpec

/-! The variables that a container is given: those the configuration declares for it, with the
values it declares, and none of the secrets. -/
namespace CommitCiPreflight

open Outcome

/-- `RunError::RemoteSecretOnly` is the error. A run starts with this check, before it renders or
creates anything. -/
def ensureLocalEnvironmentAllowed (envelope : ExecutionPlanEnvelopeV1) : Outcome Unit Unit :=
  ensure (envelope.plan.environment.remoteSecretOnly = []) ()

def dockerSwitches : List String := ["--rm","--init","--read-only"]

def dockerOptions : List String :=
  ["--network","--cpus","--pull","--memory","--memory-swap","--pids-limit","--tmpfs","--mount",
    "--workdir"]

def envArguments : List String → List String
  | [] => []
  | option::rest =>
    if option ∈ dockerSwitches then envArguments rest
    else match rest with
      | [] => []
      | value::rest =>
        if option = "--env" then value::envArguments rest
        else if option ∈ dockerOptions then envArguments rest else []

theorem envArguments_switch {option : String} (h : option ∈ dockerSwitches) (rest : List String) :
    envArguments (option::rest) = envArguments rest := by
  rw [envArguments.eq_def]
  simp only [h,if_true]

theorem envArguments_option {option : String} (h : option ∈ dockerOptions) (value : String)
    (rest : List String) : envArguments (option::value::rest) = envArguments rest := by
  have hswitch : option ∉ dockerSwitches := by
    revert option
    decide
  have henv : option ≠ "--env" := by
    rintro rfl
    revert h
    decide
  rw [envArguments.eq_def]
  simp only [hswitch,henv,h,if_true,if_false]

theorem envArguments_env (value : String) (rest : List String) :
    envArguments ("--env"::value::rest) = value::envArguments rest := by
  rw [envArguments.eq_def]
  have hswitch : "--env" ∉ dockerSwitches := by decide
  simp only [hswitch,if_true,if_false]

theorem envArguments_names (names rest : List String) :
    envArguments (names.flatMap (fun name => ["--env",name])++rest) = names++envArguments rest := by
  induction names with
  | nil => rfl
  | cons name names ih =>
    simp only [List.flatMap_cons,List.cons_append,List.nil_append]
    rw [envArguments_env,ih]

theorem envArguments_mounts (arguments rest : List String) :
    envArguments (arguments.flatMap (fun argument => ["--mount",argument])++rest) =
      envArguments rest := by
  induction arguments with
  | nil => rfl
  | cons argument arguments ih =>
    simp only [List.flatMap_cons,List.cons_append,List.nil_append]
    rw [envArguments_option (by decide),ih]

theorem envArguments_image {image : String} (h : '@' ∈ image.toList) (rest : List String) :
    envArguments (image::rest) = [] := by
  have hplain : ∀ option ∈ "--env"::dockerSwitches++dockerOptions, '@' ∉ option.toList := by decide
  have hnot : ∀ option ∈ "--env"::dockerSwitches++dockerOptions, image ≠ option := by
    rintro option hoption rfl
    exact hplain _ hoption h
  have henv := hnot "--env" (by decide)
  have hswitch : image ∉ dockerSwitches := fun hmem => hnot image (by simp [hmem]) rfl
  have hoption : image ∉ dockerOptions := fun hmem => hnot image (by simp [hmem]) rfl
  rw [envArguments.eq_def]
  cases rest with
  | nil => simp only [hswitch,if_false]
  | cons value rest => simp only [hswitch,henv,hoption,if_false]

theorem fold_pushMount {mounts : List MountBinding} {argv argv' : List String}
    (h : fold pushMount argv mounts = .ok argv') :
    ∃ arguments : List String,
      argv' = argv++arguments.flatMap fun argument => ["--mount",argument] := by
  induction mounts generalizing argv with
  | nil => exact ⟨[],by simpa using (ok.inj h).symm⟩
  | cons mount mounts ih =>
    rw [fold_cons,bind_eq_ok] at h
    obtain ⟨next,hnext,h⟩ := h
    simp only [pushMount,bind_eq_ok,pure_eq,ok.injEq] at hnext
    obtain ⟨argument,-,rfl⟩ := hnext
    obtain ⟨arguments,rfl⟩ := ih h
    exact ⟨argument::arguments,by simp⟩

theorem envArguments_dockerRunOptions (runtime : NormalizedRuntime) (names rest : List String) :
    envArguments ((dockerRunOptions runtime names).drop 1++rest) =
      names++"TMPDIR=/tmp"::envArguments rest := by
  have htail : envArguments (names.flatMap (fun name => ["--env",name])++
      ("--env"::"TMPDIR=/tmp"::rest)) = names++"TMPDIR=/tmp"::envArguments rest := by
    rw [envArguments_names,envArguments_env]
  rw [← htail,dockerRunOptions]
  by_cases hpinned : runtime.pullPolicy = some .never ∧ runtime.swapMode = some .disabled
  all_goals
    simp only [hpinned,and_self,if_true,if_false,List.cons_append,List.nil_append,List.append_assoc,
      List.append_nil,List.drop_succ_cons,List.drop_zero]
    repeat first
      | rw [envArguments_switch (by decide)]
      | rw [envArguments_option (by decide)]

theorem envArguments_dockerDryRunCheck {runtime : NormalizedRuntime} {check : NormalizedCheck}
    {names : List String} {workspace : WorkspacePlanV1} {rendered : DryRunCheck}
    (himage : '@' ∈ runtime.image.toList)
    (h : dockerDryRunCheck runtime check names workspace = .ok rendered) :
    envArguments (rendered.argv.drop 1) = names++["TMPDIR=/tmp"] := by
  simp only [dockerDryRunCheck,bind_eq_ok] at h
  obtain ⟨argv,hmounts,h⟩ := h
  split at h
  · simp at h
  · obtain rfl := ok.inj h
    obtain ⟨arguments,rfl⟩ := fold_pushMount hmounts
    have hhead : dockerRunOptions runtime names = "run"::(dockerRunOptions runtime names).drop 1 := rfl
    have htail : envArguments (arguments.flatMap (fun argument => ["--mount",argument])++
        "--workdir"::containerWorkingDirectory check.workingDirectory::runtime.image::check.argv) =
        [] := by
      rw [envArguments_mounts,envArguments_option (by decide),envArguments_image himage]
    rw [hhead]
    simp only [List.cons_append,List.drop_succ_cons,List.drop_zero,List.append_assoc,List.nil_append]
    rw [envArguments_dockerRunOptions,htail]

section Accepted

variable {crates : Crates} {config : ConfigV1} {envelope : ExecutionPlanEnvelopeV1}

theorem environment_names_nodup (h : config.Accepted crates envelope) :
    (envelope.plan.environment.inherit++envelope.plan.environment.fixed.map (·.name)++
      envelope.plan.environment.runtimeInternal.map (·.name)++
      envelope.plan.environment.remoteSecretOnly).Nodup := by
  obtain ⟨hvalid,henvironment⟩ := normalizeEnvironment_eq_ok.1 h.environment
  have hperm : (envelope.plan.environment.inherit++envelope.plan.environment.fixed.map (·.name)++
      envelope.plan.environment.runtimeInternal.map (·.name)++
      envelope.plan.environment.remoteSecretOnly).Perm
      (config.environment.allow++config.environment.fixed.keys++
        config.environment.runtimeInternal.map (·.name)++config.environment.remoteSecretOnly) := by
    rw [henvironment]
    refine (((OrderedSet.toList_ofList_perm hvalid.allow_nodup).append ?_).append ?_).append
      (OrderedSet.toList_ofList_perm hvalid.secrets_nodup)
    · refine ((List.perm_insertionSort _ _).map _).trans ?_
      rw [List.map_map]
      exact List.Perm.refl _
    · refine ((List.perm_insertionSort _ _).map _).trans ?_
      rw [List.map_map]
      exact List.Perm.refl _
  rw [hperm.nodup_iff]
  simp only [List.nodup_append',List.disjoint_append_left]
  refine ⟨⟨⟨hvalid.allow_nodup,OrderedMap.keys_nodup _,?_⟩,hvalid.internal_nodup,?_,?_⟩,
    hvalid.secrets_nodup,⟨?_,?_⟩,?_⟩
  · intro name hallow hfixed
    obtain ⟨entry,hentry,rfl⟩ := List.mem_map.1 hfixed
    exact (hvalid.fixed entry hentry).2 hallow
  · intro name hallow hinternal
    obtain ⟨binding,hbinding,rfl⟩ := List.mem_map.1 hinternal
    exact (hvalid.internal binding hbinding).2.1 hallow
  · intro name hfixed hinternal
    obtain ⟨binding,hbinding,rfl⟩ := List.mem_map.1 hinternal
    exact (hvalid.internal binding hbinding).2.2 hfixed
  · exact fun name hallow hsecret => (hvalid.reserved name hsecret).1 hallow
  · exact fun name hfixed hsecret => (hvalid.reserved name hsecret).2.1 hfixed
  · exact fun name hinternal hsecret => (hvalid.reserved name hsecret).2.2 hinternal

theorem get?_runtimeEnvironment (host : HostEnvironment) (name : String) :
    (runtimeEnvironment host).get? (.ofStr name) = host name ∨
      (runtimeEnvironment host).get? (.ofStr name) = none := by
  rcases get?_bindVariables Prod.fst Prod.snd .empty (inherited host runtimeDiscovery) name with
    ⟨binding,hmem,rfl,hget⟩ | ⟨-,hget⟩
  · exact Or.inl (hget.trans (mem_inherited.1 hmem).2.symm)
  · exact Or.inr hget

/-- The declared variables in the environment of the command. -/
theorem dockerExecutionEnvironment_declared (h : config.Accepted crates envelope)
    (host : HostEnvironment) :
    ∃ environment, dockerExecutionEnvironment crates host envelope = .ok environment ∧
      (∀ name value, config.environment.fixed.get? name = some value →
        environment.get? (.ofStr name) = some (.ofStr value)) ∧
      (∀ binding ∈ config.environment.runtimeInternal, ∃ cache ∈ config.caches,
        cache.id = binding.cacheId ∧ environment.get? (.ofStr binding.name) =
          some (.ofStr ("/workspace/"++cache.mountPath))) ∧
      ∀ name ∈ config.environment.allow, environment.get? (.ofStr name) = host name := by
  obtain ⟨hvalid,henvironment⟩ := normalizeEnvironment_eq_ok.1 h.environment
  obtain ⟨environment,hok,hget⟩ := dockerExecutionEnvironment_get? h host
  refine ⟨environment,hok,fun name value hvalue => ?_,fun binding hbinding => ?_,fun name hname => ?_⟩
  · rcases hget name with ⟨binding,hmem,rfl,-⟩ | ⟨-,hfixed⟩
    · exact absurd (OrderedMap.mem_keys.2 ⟨value,hvalue⟩) (hvalid.internal binding hmem).2.2
    · rw [hfixed,hvalue]
      rfl
  · rcases hget binding.name with ⟨other,hother,hsame,cache,hcache,hid,hinternal⟩ | ⟨hnone,-⟩
    · obtain rfl := List.inj_on_of_nodup_map hvalid.internal_nodup hother hbinding hsame
      exact ⟨cache,hcache,hid,hinternal⟩
    · exact absurd rfl (hnone binding hbinding)
  · rcases hget name with ⟨binding,hmem,rfl,-⟩ | ⟨-,hinherited⟩
    · exact absurd hname (hvalid.internal binding hmem).2.1
    · have hfixed : config.environment.fixed.get? name = none := by
        rw [OrderedMap.get?_eq_none]
        intro hkey
        obtain ⟨entry,hentry,rfl⟩ := List.mem_map.1 hkey
        exact (hvalid.fixed entry hentry).2 hname
      have hlisted : name ∈ envelope.plan.environment.inherit := by
        rw [henvironment]
        exact OrderedSet.mem_ofList.2 hname
      rw [hinherited,hfixed,Option.map_none,Option.none_or]
      exact get?_inherited ((get?_runtimeEnvironment host name).imp_right fun hnone => ⟨hlisted,hnone⟩)

theorem mem_caches_of_config (h : config.Accepted crates envelope) {cache : CacheConfig}
    (hcache : cache ∈ config.caches) : (⟨cache.id,cache.mountPath⟩ : NormalizedCache) ∈
      envelope.plan.caches :=
  (normalizeCaches_perm h.caches).mem_iff.2 (List.mem_map_of_mem hcache)

end Accepted

/-- The environment of the containers of an accepted configuration is exactly the declared one. -/
theorem container_environment_declared {crates : Crates} {config : ConfigV1}
    {envelope : ExecutionPlanEnvelopeV1} (hplan : config.intoPlan crates = .ok envelope)
    (host : HostEnvironment) :
    (envelope.plan.environment.inherit++envelope.plan.environment.fixed.map (·.name)++
      envelope.plan.environment.runtimeInternal.map (·.name)++
      envelope.plan.environment.remoteSecretOnly).Nodup ∧
    (∃ environment, dockerExecutionEnvironment crates host envelope = .ok environment ∧
      (∀ binding ∈ envelope.plan.environment.fixed, ∃ value,
        config.environment.fixed.get? binding.name = some value ∧
          environment.get? (.ofStr binding.name) = some (.ofStr value)) ∧
      (∀ binding ∈ envelope.plan.environment.runtimeInternal, ∃ cache ∈ envelope.plan.caches,
        cache.id = binding.cacheId ∧ environment.get? (.ofStr binding.name) =
          some (.ofStr ("/workspace/"++cache.mountPath))) ∧
      ∀ name ∈ envelope.plan.environment.inherit, environment.get? (.ofStr name) = host name) ∧
    (∀ check ∈ envelope.plan.checks, ∀ workspace rendered,
      dockerDryRunCheck envelope.plan.runtime check envelope.plan.environment.names workspace =
        .ok rendered →
      (envArguments (rendered.argv.drop 1)).Perm (envelope.plan.environment.inherit++
        envelope.plan.environment.fixed.map (·.name)++
        envelope.plan.environment.runtimeInternal.map (·.name)++["TMPDIR=/tmp"]) ∧
      ∀ name ∈ envelope.plan.environment.remoteSecretOnly,
        name ∉ envArguments (rendered.argv.drop 1)) ∧
    (envelope.plan.environment.remoteSecretOnly ≠ [] →
      ensureLocalEnvironmentAllowed envelope = .err ()) := by
  have haccepted := ConfigV1.intoPlan_eq_ok.1 hplan
  obtain ⟨hvalid,henvironment⟩ := normalizeEnvironment_eq_ok.1 haccepted.environment
  have hnodup := environment_names_nodup haccepted
  obtain ⟨environment,hok,hfixed,hinternal,hinherit⟩ :=
    dockerExecutionEnvironment_declared haccepted host
  refine ⟨hnodup,⟨environment,hok,fun binding hbinding => ?_,fun binding hbinding => ?_,
    fun name hname => ?_⟩,fun check _ workspace rendered hrendered => ?_,fun hsecrets => ?_⟩
  · rw [henvironment] at hbinding
    obtain ⟨⟨name,value⟩,hentry,rfl⟩ :=
      List.mem_map.1 ((List.perm_insertionSort _ _).mem_iff.1 hbinding)
    have hget := OrderedMap.mem_entries.1 hentry
    exact ⟨value,hget,hfixed name value hget⟩
  · rw [henvironment] at hbinding
    obtain ⟨declared,hdeclared,rfl⟩ :=
      List.mem_map.1 ((List.perm_insertionSort _ _).mem_iff.1 hbinding)
    obtain ⟨cache,hcache,hid,hget⟩ := hinternal declared hdeclared
    exact ⟨_,mem_caches_of_config haccepted hcache,hid,hget⟩
  · rw [henvironment] at hname
    exact hinherit name (OrderedSet.mem_ofList.1 hname)
  · have himage : '@' ∈ envelope.plan.runtime.image.toList := by
      have hvalid := (accepted_identity hplan).2
      simp only [validateImageReference,bind_eq_ok,exists_unit,ofOption_eq_ok] at hvalid
      obtain ⟨-,_,hsplit,-⟩ := hvalid
      unfold Text.rsplitOnce at hsplit
      by_contra habsent
      rw [if_neg habsent] at hsplit
      cases hsplit
    rw [envArguments_dockerDryRunCheck himage hrendered]
    have hnames : envelope.plan.environment.names.Perm (envelope.plan.environment.inherit++
        envelope.plan.environment.fixed.map (·.name)++
        envelope.plan.environment.runtimeInternal.map (·.name)) := List.perm_insertionSort _ _
    refine ⟨hnames.append_right _,fun name hname hmem => ?_⟩
    rcases List.mem_append.1 hmem with hmem | hmem
    · exact (List.disjoint_of_nodup_append hnodup) (hnames.mem_iff.1 hmem) hname
    · have hconstant : validateEnvironmentName "TMPDIR=/tmp" ≠ .ok () := by decide
      rw [List.mem_singleton] at hmem
      rw [henvironment,hmem] at hname
      exact hconstant (hvalid.secrets _ (OrderedSet.mem_ofList.1 hname))
  · rw [ensureLocalEnvironmentAllowed,ensure,if_neg hsecrets]

def ConfigV1.sampleDeclaring : ConfigV1 :=
  {ConfigV1.sampleFixed "LANG" "C" with
    environment := ⟨[],OrderedMap.empty.insert "LANG" "C",[⟨"CARGO_HOME","cargo"⟩],["DEPLOY_TOKEN"]⟩
    caches := [⟨"cargo","cache/cargo"⟩]}

theorem sampleDeclaring_plan {envelope : ExecutionPlanEnvelopeV1}
    (h : ConfigV1.sampleDeclaring.intoPlan .reference = .ok envelope) :
    envelope.plan.environment.inherit = [] ∧
      envelope.plan.environment.fixed.map (·.name) = ["LANG"] ∧
      envelope.plan.environment.runtimeInternal =
        [⟨"CARGO_HOME","cargo","/workspace/cache/cargo"⟩] ∧
      envelope.plan.environment.remoteSecretOnly = ["DEPLOY_TOKEN"] ∧
      envelope.plan.caches = [⟨"cargo","cache/cargo"⟩] := by
  have hplan : (ConfigV1.sampleDeclaring.intoPlan .reference).toOption.map (fun envelope =>
      (envelope.plan.environment.inherit,envelope.plan.environment.fixed.map (·.name),
        envelope.plan.environment.runtimeInternal,envelope.plan.environment.remoteSecretOnly,
        envelope.plan.caches)) = some ([],["LANG"],
          [⟨"CARGO_HOME","cargo","/workspace/cache/cargo"⟩],["DEPLOY_TOKEN"],
          [⟨"cargo","cache/cargo"⟩]) := by
    decide +kernel
  rw [h] at hplan
  simpa using Option.some.inj hplan

theorem exists_rendered_sampleDeclaring {envelope : ExecutionPlanEnvelopeV1}
    (h : ConfigV1.sampleDeclaring.intoPlan .reference = .ok envelope) :
    ∃ check ∈ envelope.plan.checks, ∃ rendered, dockerDryRunCheck envelope.plan.runtime check
      envelope.plan.environment.names .sample = .ok rendered := by
  have hrendered : (ConfigV1.sampleDeclaring.intoPlan .reference).toOption.all (fun envelope =>
      envelope.plan.checks.any fun check => (dockerDryRunCheck envelope.plan.runtime check
        envelope.plan.environment.names .sample).toOption.isSome) = true := by
    decide +kernel
  rw [h] at hrendered
  obtain ⟨check,hcheck,hsome⟩ := List.any_eq_true.1 hrendered
  exact ⟨check,hcheck,exists_of_isSome hsome⟩

theorem container_environment_declared_sample : ∃ envelope environment rendered,
    ConfigV1.sampleDeclaring.intoPlan .reference = .ok envelope ∧
      dockerExecutionEnvironment .reference .sample envelope = .ok environment ∧
      environment.get? (.ofStr "LANG") = some (.ofStr "C") ∧
      environment.get? (.ofStr "CARGO_HOME") = some (.ofStr "/workspace/cache/cargo") ∧
      (∃ check ∈ envelope.plan.checks, dockerDryRunCheck envelope.plan.runtime check
        envelope.plan.environment.names .sample = .ok rendered) ∧
      (envArguments (rendered.argv.drop 1)).Perm ["LANG","CARGO_HOME","TMPDIR=/tmp"] ∧
      "DEPLOY_TOKEN" ∉ envArguments (rendered.argv.drop 1) ∧
      ensureLocalEnvironmentAllowed envelope = .err () := by
  obtain ⟨envelope,hplan⟩ := exists_of_isSome
    (show (ConfigV1.sampleDeclaring.intoPlan .reference).toOption.isSome = true by decide +kernel)
  obtain ⟨hinherit,hfixed,hinternal,hsecrets,hcaches⟩ := sampleDeclaring_plan hplan
  obtain ⟨check,hcheck,rendered,hrendered⟩ := exists_rendered_sampleDeclaring hplan
  obtain ⟨-,⟨environment,hok,hvalues,hpaths,-⟩,hchecks,hrefused⟩ :=
    container_environment_declared hplan .sample
  obtain ⟨hperm,habsent⟩ := hchecks check hcheck .sample rendered hrendered
  refine ⟨envelope,environment,rendered,hplan,hok,?_,?_,⟨check,hcheck,hrendered⟩,?_,?_,?_⟩
  · obtain ⟨binding,hbinding,hname⟩ := List.mem_map.1 (hfixed ▸ List.mem_singleton_self "LANG")
    obtain ⟨value,hvalue,hget⟩ := hvalues binding hbinding
    rw [hname] at hvalue hget
    obtain rfl : "C" = value := Option.some.inj hvalue
    exact hget
  · obtain ⟨cache,hcache,-,hget⟩ := hpaths _ (hinternal ▸ List.mem_singleton_self _)
    rw [hcaches,List.mem_singleton] at hcache
    rw [hget,hcache]
    rfl
  · rwa [hinherit,hfixed,hinternal] at hperm
  · exact habsent _ (hsecrets ▸ List.mem_singleton_self _)
  · exact hrefused (by simp [hsecrets])

end CommitCiPreflight
