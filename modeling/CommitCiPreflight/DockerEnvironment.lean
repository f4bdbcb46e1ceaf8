import CommitCiPreflight.ConfigPaths
import CommitCiPreflight.Run

/-! The environment that the `docker` command is run in, from `runtime.rs`. One map carries the
host's settings of the command and the variables a configuration declares for its containers. -/
namespace CommitCiPreflight

open Outcome

/-- `std::env::var_os`. -/
abbrev HostEnvironment := String → Option OsString

/-- The variables by which the command finds its daemon. -/
def runtimeDiscovery : List String :=
  ["PATH","HOME","USERPROFILE","HOMEDRIVE","HOMEPATH","DOCKER_HOST","DOCKER_CONTEXT",
    "DOCKER_CONFIG"]

def bindVariables {β : Type} (name : β → String) (value : β → OsString)
    (environment : OrderedMap OsString OsString) (bindings : List β) :
    OrderedMap OsString OsString :=
  bindings.foldl (fun environment binding =>
    environment.insert (.ofStr (name binding)) (value binding)) environment

def inherited (host : HostEnvironment) (names : List String) : List (String × OsString) :=
  names.filterMap fun name => (host name).map (name,·)

def runtimeEnvironment (host : HostEnvironment) : OrderedMap OsString OsString :=
  bindVariables Prod.fst Prod.snd .empty (inherited host runtimeDiscovery)

def validateDeclared (declared : OrderedMap String String) (name : String) :
    Outcome RuntimeError Unit :=
  ensure (declared.get? name ≠ none)
    (.fixedEnvironmentBinding name "is not declared in the normalized plan")

/-- One iteration of the loop over the declared variables. The digest of a text cannot fail. -/
def bindFixedValue (crates : Crates) (fixedEnvironment values : OrderedMap String String)
    (binding : NormalizedFixedEnvironment) : Outcome RuntimeError (OrderedMap String String) := do
  let value ← ofOption
    (.fixedEnvironmentBinding binding.name "is missing from the private envelope")
    (fixedEnvironment.get? binding.name)
  ensure (canonicalDigest crates (.str value) = binding.valueDigest)
    (.fixedEnvironmentBinding binding.name "does not match the normalized plan digest")
  return values.insert binding.name value

def validateFixedEnvironment (crates : Crates) (envelope : ExecutionPlanEnvelopeV1) :
    Outcome RuntimeError (OrderedMap String String) := do
  let declared := OrderedMap.ofList
    (envelope.plan.environment.fixed.map fun binding => (binding.name,binding.valueDigest))
  each (validateDeclared declared) envelope.fixedEnvironment.keys
  fold (bindFixedValue crates envelope.fixedEnvironment) .empty envelope.plan.environment.fixed

def dockerExecutionEnvironment (crates : Crates) (host : HostEnvironment)
    (envelope : ExecutionPlanEnvelopeV1) : Outcome RuntimeError (OrderedMap OsString OsString) := do
  let environment := bindVariables Prod.fst Prod.snd (runtimeEnvironment host)
    (inherited host envelope.plan.environment.inherit)
  let fixed ← validateFixedEnvironment crates envelope
  let environment := bindVariables Prod.fst (.ofStr ·.2) environment fixed.entries
  return bindVariables (·.name) (.ofStr ·.containerTarget) environment
    envelope.plan.environment.runtimeInternal

section Lookup

variable {β : Type} (name : β → String) (value : β → OsString)

theorem get?_bindVariables (environment : OrderedMap OsString OsString) (bindings : List β)
    (key : String) :
    (∃ binding ∈ bindings, name binding = key ∧
      (bindVariables name value environment bindings).get? (.ofStr key) =
        some (value binding)) ∨
    ((∀ binding ∈ bindings, name binding ≠ key) ∧
      (bindVariables name value environment bindings).get? (.ofStr key) =
        environment.get? (.ofStr key)) := by
  induction bindings generalizing environment with
  | nil => exact Or.inr ⟨by simp,rfl⟩
  | cons binding bindings ih =>
    rw [bindVariables,List.foldl_cons,← bindVariables]
    rcases ih (environment.insert (.ofStr (name binding)) (value binding)) with
      ⟨later,hmem,hname,hget⟩ | ⟨hnone,hget⟩
    · exact Or.inl ⟨later,List.mem_cons_of_mem _ hmem,hname,hget⟩
    rw [hget,OrderedMap.get?_insert]
    by_cases h : name binding = key
    · exact Or.inl ⟨binding,List.mem_cons_self,h,by rw [h,if_pos rfl]⟩
    · refine Or.inr ⟨List.forall_mem_cons.2 ⟨h,hnone⟩,if_neg fun he => ?_⟩
      exact h (OsString.ofStr_injective he).symm

theorem mem_inherited {host : HostEnvironment} {names : List String} {binding : String × OsString} :
    binding ∈ inherited host names ↔ binding.1 ∈ names ∧ host binding.1 = some binding.2 := by
  obtain ⟨key,value⟩ := binding
  simp only [inherited,List.mem_filterMap,Option.map_eq_some_iff,Prod.mk.injEq]
  constructor
  · rintro ⟨_,hmem,_,hhost,rfl,rfl⟩
    exact ⟨hmem,hhost⟩
  · rintro ⟨hmem,hhost⟩
    exact ⟨key,hmem,value,hhost,rfl,rfl⟩

theorem get?_inherited {host : HostEnvironment} {environment : OrderedMap OsString OsString}
    {names : List String} {key : String}
    (h : environment.get? (.ofStr key) = host key ∨
      key ∈ names ∧ environment.get? (.ofStr key) = none) :
    (bindVariables Prod.fst Prod.snd environment (inherited host names)).get? (.ofStr key) =
      host key := by
  rcases get?_bindVariables Prod.fst Prod.snd environment (inherited host names) key with
    ⟨binding,hmem,rfl,hget⟩ | ⟨hnone,hget⟩
  · rw [hget,(mem_inherited.1 hmem).2]
  rw [hget]
  rcases h with hsame | ⟨hkey,habsent⟩
  · exact hsame
  · rw [habsent]
    cases hhost : host key with
    | none => rfl
    | some value => exact absurd rfl (hnone (key,value) (mem_inherited.2 ⟨hkey,hhost⟩))

end Lookup

/-- Where the configuration declares a variable of the command itself, it declares the value that
the host has. -/
def ConfigV1.KeepsDiscovery (config : ConfigV1) (host : HostEnvironment) : Prop :=
  ∀ name ∈ runtimeDiscovery,
    (∀ value, config.environment.fixed.get? name = some value → host name = some (.ofStr value)) ∧
    ∀ binding ∈ config.environment.runtimeInternal, binding.name = name →
      ∀ cache ∈ config.caches, cache.id = binding.cacheId →
        host name = some (.ofStr ("/workspace/"++cache.mountPath))

section Accepted

variable {crates : Crates} {config : ConfigV1} {envelope : ExecutionPlanEnvelopeV1}

theorem validateFixedEnvironment_of_accepted (h : config.Accepted crates envelope) :
    validateFixedEnvironment crates envelope = .ok config.environment.fixed := by
  obtain ⟨hvalid,henvironment⟩ := normalizeEnvironment_eq_ok.1 h.environment
  have hfixed : envelope.plan.environment.fixed.Perm
      (config.environment.fixed.entries.map (fixedBinding crates)) := by
    rw [henvironment]
    exact List.perm_insertionSort _ _
  have hnames : (envelope.plan.environment.fixed.map (·.name)).Perm
      config.environment.fixed.keys := by
    refine (hfixed.map _).trans ?_
    rw [List.map_map]
    exact List.Perm.refl _
  have hbinding : ∀ binding ∈ envelope.plan.environment.fixed, ∃ value,
      config.environment.fixed.get? binding.name = some value ∧
        canonicalDigest crates (.str value) = binding.valueDigest := by
    intro binding hmem
    obtain ⟨⟨name,value⟩,hentry,rfl⟩ := List.mem_map.1 (hfixed.mem_iff.1 hmem)
    exact ⟨value,OrderedMap.mem_entries.1 hentry,rfl⟩
  simp only [validateFixedEnvironment,bind_eq_ok,exists_unit,each_eq_ok,validateDeclared,
    ensure_eq_ok,h.fixed]
  refine ⟨fun name hname hnone => ?_,?_⟩
  · have hnodup : ((envelope.plan.environment.fixed.map fun binding =>
        (binding.name,binding.valueDigest)).map Prod.fst).Nodup := by
      rw [List.map_map]
      exact hnames.nodup_iff.2 (OrderedMap.keys_nodup _)
    rw [OrderedMap.get?_ofList hnodup,lookupEntry_eq_none_iff,List.map_map] at hnone
    exact hnone (hnames.mem_iff.2 hname)
  let next (values : OrderedMap String String) (binding : NormalizedFixedEnvironment) :=
    values.insert binding.name ((config.environment.fixed.get? binding.name).getD "")
  have hfold : fold (bindFixedValue crates config.environment.fixed) .empty
      envelope.plan.environment.fixed = .ok (envelope.plan.environment.fixed.foldl next .empty) := by
    refine fold_of_steps (fun values binding hmem => ?_) _
    obtain ⟨value,hget,hdigest⟩ := hbinding binding hmem
    simp [bindFixedValue,next,hget,hdigest,ofOption,ensure]
  have hentries : (envelope.plan.environment.fixed.map fun binding =>
      (binding.name,(config.environment.fixed.get? binding.name).getD "")).Perm
        config.environment.fixed.entries := by
    refine (hfixed.map _).trans ?_
    rw [List.map_map,List.map_congr_left (g := id),List.map_id]
    rintro ⟨name,value⟩ hentry
    simp [fixedBinding,OrderedMap.mem_entries.1 hentry]
  rw [hfold,ok.injEq]
  calc envelope.plan.environment.fixed.foldl next .empty
      = OrderedMap.ofList (envelope.plan.environment.fixed.map fun binding =>
          (binding.name,(config.environment.fixed.get? binding.name).getD "")) := by
        rw [OrderedMap.ofList,List.foldl_map]
    _ = OrderedMap.ofList config.environment.fixed.entries := by
        refine OrderedMap.ofList_eq_of_perm hentries ?_
        exact (hentries.map Prod.fst).nodup_iff.2 (OrderedMap.keys_nodup _)
    _ = config.environment.fixed := OrderedMap.ofList_entries _

theorem get?_cacheTargets {caches : List CacheConfig} {out : List NormalizedCache}
    (h : normalizeCaches caches = .ok out) {id path : String} :
    (cacheTargets out).get? id = some path ↔
      ∃ cache ∈ caches, cache.id = id ∧ cache.mountPath = path := by
  have hids : (out.map (·.id)).Nodup := by
    obtain ⟨-,-,hids,-⟩ := normalizeCaches_eq_ok.1 h
    have hperm := (normalizeCaches_perm h).map (·.id)
    rw [List.map_map] at hperm
    exact hperm.nodup_iff.2 hids
  have hnodup : ((out.map fun cache => (cache.id,cache.mountPath)).map Prod.fst).Nodup := by
    rwa [List.map_map]
  rw [cacheTargets,OrderedMap.get?_ofList hnodup,lookupEntry_eq_some_iff hnodup,
    ((normalizeCaches_perm h).map _).mem_iff]
  simp [CacheConfig.normalized]

/-- A variable names the place of its cache in the container, or has the other value. -/
def ConfigV1.Binds (config : ConfigV1) (environment : OrderedMap OsString OsString) (name : String)
    (value : Option OsString) : Prop :=
  (∃ binding ∈ config.environment.runtimeInternal, binding.name = name ∧
    ∃ cache ∈ config.caches, cache.id = binding.cacheId ∧
      environment.get? (.ofStr name) = some (.ofStr ("/workspace/"++cache.mountPath))) ∨
  (∀ binding ∈ config.environment.runtimeInternal, binding.name ≠ name) ∧
    environment.get? (.ofStr name) = value

/-- The environment of an accepted configuration: the container's variables come last. -/
theorem dockerExecutionEnvironment_get? (h : config.Accepted crates envelope)
    (host : HostEnvironment) :
    ∃ environment, dockerExecutionEnvironment crates host envelope = .ok environment ∧
      ∀ name, config.Binds environment name
        (((config.environment.fixed.get? name).map OsString.ofStr).or
          ((bindVariables Prod.fst Prod.snd (runtimeEnvironment host)
            (inherited host envelope.plan.environment.inherit)).get? (.ofStr name))) := by
  obtain ⟨hvalid,henvironment⟩ := normalizeEnvironment_eq_ok.1 h.environment
  refine ⟨_,by rw [dockerExecutionEnvironment,validateFixedEnvironment_of_accepted h]; rfl,
    fun name => ?_⟩
  have hinternal : ∀ binding, binding ∈ envelope.plan.environment.runtimeInternal ↔
      ∃ declared ∈ config.environment.runtimeInternal,
        internalBinding (cacheTargets envelope.plan.caches) declared = binding := by
    intro binding
    rw [henvironment]
    exact (List.perm_insertionSort _ _).mem_iff.trans List.mem_map
  rcases get?_bindVariables (·.name) (.ofStr ·.containerTarget) _
    envelope.plan.environment.runtimeInternal name with ⟨binding,hmem,hbinding,hget⟩ | ⟨hnone,hget⟩
  · obtain ⟨declared,hdeclared,rfl⟩ := (hinternal _).1 hmem
    obtain ⟨path,hpath⟩ := OrderedMap.mem_keys.1 (hvalid.internal declared hdeclared).1.known
    obtain ⟨cache,hcache,hid,rfl⟩ := (get?_cacheTargets h.caches).1 hpath
    refine Or.inl ⟨declared,hdeclared,hbinding,cache,hcache,hid,?_⟩
    rw [hget]
    simp [internalBinding,hpath]
  · refine Or.inr ⟨fun declared hdeclared he => ?_,?_⟩
    · exact hnone _ ((hinternal _).2 ⟨declared,hdeclared,rfl⟩) he
    rw [hget]
    rcases get?_bindVariables Prod.fst (fun binding => OsString.ofStr binding.2)
      (bindVariables Prod.fst Prod.snd (runtimeEnvironment host)
        (inherited host envelope.plan.environment.inherit))
      config.environment.fixed.entries name with ⟨⟨key,value⟩,hmem,rfl,hget⟩ | ⟨hnone,hget⟩
    · rw [hget,OrderedMap.mem_entries.1 hmem]
      rfl
    · have hfixed : config.environment.fixed.get? name = none := by
        rw [OrderedMap.get?_eq_none]
        intro hkey
        obtain ⟨entry,hentry,hname⟩ := List.mem_map.1 hkey
        exact hnone entry hentry hname
      rw [hget,hfixed]
      rfl

theorem dockerExecutionEnvironment_of_accepted (h : config.Accepted crates envelope)
    (host : HostEnvironment) :
    ∃ environment, dockerExecutionEnvironment crates host envelope = .ok environment ∧
      ∀ name ∈ runtimeDiscovery, config.Binds environment name
        (((config.environment.fixed.get? name).map OsString.ofStr).or (host name)) := by
  obtain ⟨environment,hok,hget⟩ := dockerExecutionEnvironment_get? h host
  refine ⟨environment,hok,fun name hname => (hget name).imp_right ?_⟩
  rintro ⟨hnone,hvalue⟩
  have hruntime : (runtimeEnvironment host).get? (.ofStr name) = host name :=
    get?_inherited (Or.inr ⟨hname,rfl⟩)
  rw [get?_inherited (Or.inl hruntime)] at hvalue
  exact ⟨hnone,hvalue⟩

/-- The command finds the host's own settings exactly when the configuration does not declare
other values for them. -/
theorem discovery_kept_iff (h : config.Accepted crates envelope) (host : HostEnvironment) :
    ∃ environment, dockerExecutionEnvironment crates host envelope = .ok environment ∧
      ((∀ name ∈ runtimeDiscovery, environment.get? (.ofStr name) = host name) ↔
        config.KeepsDiscovery host) := by
  obtain ⟨hvalid,-⟩ := normalizeEnvironment_eq_ok.1 h.environment
  obtain ⟨environment,hok,hget⟩ := dockerExecutionEnvironment_of_accepted h host
  refine ⟨environment,hok,fun hkept name hname => ⟨fun value hvalue => ?_,?_⟩,fun hkeeps name hname => ?_⟩
  · rcases hget name hname with ⟨binding,hmem,rfl,-⟩ | ⟨-,hfixed⟩
    · exact absurd (OrderedMap.mem_keys.2 ⟨value,hvalue⟩) (hvalid.internal binding hmem).2.2
    · rw [← hkept name hname,hfixed,hvalue]
      rfl
  · rintro binding hmem rfl cache hcache hid
    rcases hget _ hname with ⟨other,hother,hsame,cache',hcache',hid',hinternal⟩ | ⟨hnone,-⟩
    · obtain rfl := List.inj_on_of_nodup_map hvalid.internal_nodup hother hmem hsame
      obtain ⟨-,-,hids,-⟩ := normalizeCaches_eq_ok.1 h.caches
      obtain rfl := List.inj_on_of_nodup_map hids hcache hcache' (hid.trans hid'.symm)
      rw [← hkept _ hname,hinternal]
    · exact absurd rfl (hnone binding hmem)
  · obtain ⟨hfixed,hinternal⟩ := hkeeps name hname
    rcases hget name hname with ⟨binding,hmem,rfl,cache,hcache,hid,hvalue⟩ | ⟨-,hvalue⟩
    · rw [hvalue,hinternal binding hmem rfl cache hcache hid]
    · rw [hvalue]
      cases hget : config.environment.fixed.get? name with
      | none => rfl
      | some value => exact (hfixed value hget).symm

end Accepted

/-- For every host and every two accepted configurations: the two environments of the `docker`
command agree, with each other and with the host, on the variables by which the command finds its
daemon, exactly when neither configuration declares another value for one of them. -/
theorem docker_environments_agree_iff (crates : Crates) (host : HostEnvironment)
    (first second : ConfigV1) (firstEnvelope secondEnvelope : ExecutionPlanEnvelopeV1)
    (hfirst : first.intoPlan crates = .ok firstEnvelope)
    (hsecond : second.intoPlan crates = .ok secondEnvelope) :
    ∃ firstEnvironment secondEnvironment,
      dockerExecutionEnvironment crates host firstEnvelope = .ok firstEnvironment ∧
      dockerExecutionEnvironment crates host secondEnvelope = .ok secondEnvironment ∧
      ((∀ name ∈ runtimeDiscovery,
          firstEnvironment.get? (.ofStr name) = secondEnvironment.get? (.ofStr name) ∧
          firstEnvironment.get? (.ofStr name) = host name) ↔
        first.KeepsDiscovery host ∧ second.KeepsDiscovery host) := by
  obtain ⟨firstEnvironment,hfirstOk,hfirstKept⟩ :=
    discovery_kept_iff (ConfigV1.intoPlan_eq_ok.1 hfirst) host
  obtain ⟨secondEnvironment,hsecondOk,hsecondKept⟩ :=
    discovery_kept_iff (ConfigV1.intoPlan_eq_ok.1 hsecond) host
  refine ⟨firstEnvironment,secondEnvironment,hfirstOk,hsecondOk,?_⟩
  rw [← hfirstKept,← hsecondKept]
  constructor
  · intro h
    exact ⟨fun name hname => (h name hname).2,
      fun name hname => (h name hname).1.symm.trans (h name hname).2⟩
  · rintro ⟨hfirst,hsecond⟩ name hname
    exact ⟨(hfirst name hname).trans (hsecond name hname).symm,hfirst name hname⟩

def HostEnvironment.sample : HostEnvironment := fun name =>
  if name = "PATH" then some (.ofStr "/usr/local/bin:/usr/bin") else none

def ConfigV1.sampleFixed (name value : String) : ConfigV1 :=
  {ConfigV1.sampleAcyclic with
    schemaVersion := "1.1"
    environment := ⟨[],OrderedMap.empty.insert name value,[],[]⟩}

theorem accepted_sampleLang :
    ∃ envelope, (ConfigV1.sampleFixed "LANG" "C").intoPlan .reference = .ok envelope :=
  exists_of_isSome (by decide +kernel)

theorem keepsDiscovery_sampleFixed {name value : String}
    (h : name ∈ runtimeDiscovery → HostEnvironment.sample name = some (.ofStr value)) :
    (ConfigV1.sampleFixed name value).KeepsDiscovery .sample := by
  intro key hkey
  refine ⟨fun declared hdeclared => ?_,by simp [ConfigV1.sampleFixed]⟩
  simp only [ConfigV1.sampleFixed,OrderedMap.get?_insert,OrderedMap.get?_empty] at hdeclared
  split at hdeclared
  · rename_i he
    subst he
    rw [h hkey,Option.some.inj hdeclared]
  · cases hdeclared

/-- Variables of the containers only, and a variable with the value the host has. -/
theorem docker_environments_agree_sample :
    ∃ firstEnvelope secondEnvelope firstEnvironment secondEnvironment,
      (ConfigV1.sampleFixed "LANG" "C").intoPlan .reference = .ok firstEnvelope ∧
      (ConfigV1.sampleFixed "PATH" "/usr/local/bin:/usr/bin").intoPlan .reference =
        .ok secondEnvelope ∧
      dockerExecutionEnvironment .reference .sample firstEnvelope = .ok firstEnvironment ∧
      dockerExecutionEnvironment .reference .sample secondEnvelope = .ok secondEnvironment ∧
      ∀ name ∈ runtimeDiscovery,
        firstEnvironment.get? (.ofStr name) = secondEnvironment.get? (.ofStr name) ∧
        firstEnvironment.get? (.ofStr name) = HostEnvironment.sample name := by
  obtain ⟨firstEnvelope,hfirst⟩ := accepted_sampleLang
  obtain ⟨secondEnvelope,hsecond⟩ : ∃ envelope,
      (ConfigV1.sampleFixed "PATH" "/usr/local/bin:/usr/bin").intoPlan .reference = .ok envelope :=
    exists_of_isSome (by decide +kernel)
  obtain ⟨firstEnvironment,secondEnvironment,hfirstOk,hsecondOk,hiff⟩ :=
    docker_environments_agree_iff .reference .sample _ _ _ _ hfirst hsecond
  exact ⟨firstEnvelope,secondEnvelope,firstEnvironment,secondEnvironment,hfirst,hsecond,hfirstOk,
    hsecondOk,hiff.2 ⟨keepsDiscovery_sampleFixed (by decide),
      keepsDiscovery_sampleFixed fun _ => rfl⟩⟩

/-- A configuration sends the command to another daemon. -/
theorem docker_environment_redirected :
    ∃ firstEnvelope secondEnvelope firstEnvironment secondEnvironment,
      (ConfigV1.sampleFixed "LANG" "C").intoPlan .reference = .ok firstEnvelope ∧
      (ConfigV1.sampleFixed "DOCKER_HOST" "tcp://203.0.113.7:2375").intoPlan .reference =
        .ok secondEnvelope ∧
      dockerExecutionEnvironment .reference .sample firstEnvelope = .ok firstEnvironment ∧
      dockerExecutionEnvironment .reference .sample secondEnvelope = .ok secondEnvironment ∧
      HostEnvironment.sample "DOCKER_HOST" = none ∧
      firstEnvironment.get? (.ofStr "DOCKER_HOST") = none ∧
      secondEnvironment.get? (.ofStr "DOCKER_HOST") = some (.ofStr "tcp://203.0.113.7:2375") := by
  obtain ⟨firstEnvelope,hfirst⟩ := accepted_sampleLang
  obtain ⟨secondEnvelope,hsecond⟩ : ∃ envelope,
      (ConfigV1.sampleFixed "DOCKER_HOST" "tcp://203.0.113.7:2375").intoPlan .reference =
        .ok envelope :=
    exists_of_isSome (by decide +kernel)
  obtain ⟨firstEnvironment,hfirstOk,hfirstGet⟩ :=
    dockerExecutionEnvironment_of_accepted (ConfigV1.intoPlan_eq_ok.1 hfirst) .sample
  obtain ⟨secondEnvironment,hsecondOk,hsecondGet⟩ :=
    dockerExecutionEnvironment_of_accepted (ConfigV1.intoPlan_eq_ok.1 hsecond) .sample
  refine ⟨firstEnvelope,secondEnvelope,firstEnvironment,secondEnvironment,hfirst,hsecond,hfirstOk,
    hsecondOk,rfl,?_,?_⟩
  · rcases hfirstGet "DOCKER_HOST" (by decide) with ⟨binding,hmem,-⟩ | ⟨-,hget⟩
    · exact absurd hmem List.not_mem_nil
    · exact hget
  · rcases hsecondGet "DOCKER_HOST" (by decide) with ⟨binding,hmem,-⟩ | ⟨-,hget⟩
    · exact absurd hmem List.not_mem_nil
    · exact hget

end CommitCiPreflight
