import CommitCiPreflight.ArtifactsSpec
import CommitCiPreflight.ContractOrder

/-! Artifact evidence over two runs of one plan. Preparation empties the regular files it
mounts and keeps the directories. -/
namespace CommitCiPreflight

open Program Files FileTree

section Declared

variable {crates : Crates} {config : ConfigV1} {envelope : ExecutionPlanEnvelopeV1}
  {contract : NormalizedArtifactContract}

theorem declaredArtifacts_map (plan : ExecutionPlanV1) :
    plan.declaredArtifacts.map Prod.snd = plan.checks.flatMap (·.artifacts) := by
  simp [ExecutionPlanV1.declaredArtifacts,List.map_flatMap,Function.comp_def]

theorem declaredArtifacts_proper (h : config.intoPlan crates = .ok envelope) :
    ∀ item ∈ envelope.plan.declaredArtifacts, ProperPath item.2 := by
  intro item hitem
  have haccepted := ConfigV1.intoPlan_eq_ok.1 h
  refine haccepted.properPath item.2 (haccepted.reservedPaths_perm.mem_iff.1 ?_)
  refine List.mem_append_right _ ?_
  rw [← declaredArtifacts_map]
  exact List.mem_map_of_mem hitem

theorem declaredArtifacts_apart (h : config.intoPlan crates = .ok envelope) :
    envelope.plan.declaredArtifacts.Pairwise fun a b => Apart a.2 b.2 := by
  have hpairs := validatePathIsolation_eq_ok.1 (ConfigV1.intoPlan_eq_ok.1 h).isolation
  have hartifacts := (List.pairwise_append.1 hpairs).2.1
  rw [← declaredArtifacts_map,List.pairwise_map] at hartifacts
  refine hartifacts.imp fun {a b} hab => ?_
  rw [Apart,← not_or,← pathsOverlap_eq_true,hab]
  decide

theorem find?_contract {contracts : List NormalizedArtifactContract}
    (hnodup : (contracts.map (·.path)).Nodup) (h : contract ∈ contracts) :
    contracts.find? (·.path = contract.path) = some contract := by
  induction contracts with
  | nil => simp at h
  | cons first rest ih =>
    rw [List.map_cons,List.nodup_cons] at hnodup
    rcases List.mem_cons.1 h with rfl | hrest
    · simp
    · have hne : first.path ≠ contract.path :=
        fun he => hnodup.1 (he ▸ List.mem_map_of_mem hrest)
      rw [List.find?_cons_of_neg (by simpa using hne)]
      exact ih hnodup.2 hrest

theorem contract_declared (h : config.intoPlan crates = .ok envelope)
    (hcontract : contract ∈ envelope.plan.sortedContracts) :
    (∃ check, (check,contract.path) ∈ envelope.plan.declaredArtifacts ∧
      artifactKindFor check contract.path = contract.kind) ∧ 1 ≤ contract.maxEntries.toNat := by
  have haccepted := ConfigV1.intoPlan_eq_ok.1 h
  rw [ExecutionPlanV1.sortedContracts,List.mem_insertionSort] at hcontract
  obtain ⟨check,hcheck,hcontract⟩ := List.mem_flatMap.1 hcontract
  have hperm := (normalizeChecks_order haccepted.checks).1
  obtain ⟨declared,hdeclared,rfl⟩ := List.mem_map.1 (hperm.mem_iff.1 hcheck)
  have hvalid := (normalizeChecks_eq_ok.1 haccepted.checks).2.1.1 declared hdeclared
  obtain ⟨hcontracts,hnodup⟩ := validateArtifactContracts_eq_ok.1 hvalid.contracts
  have hkind : artifactKindFor (normalizeCheck declared.sorted) contract.path = contract.kind := by
    rw [artifactKindFor,find?_contract _ hcontract]
    simpa [normalizeCheck,normalizeArtifactContract,Function.comp_def] using hnodup
  obtain ⟨artifact,hartifact,rfl⟩ := List.mem_map.1 hcontract
  have hartifacts := hcontracts artifact hartifact
  refine ⟨⟨_,?_,hkind⟩,?_⟩
  · exact List.mem_flatMap.2 ⟨_,hcheck,List.mem_map.2 ⟨_,hartifacts.listed.2,rfl⟩⟩
  · have hbounds := (Outcome.ensure_eq_ok.1 hartifacts.maxEntries).1
    rw [UInt64.le_iff_toNat_le] at hbounds
    exact hbounds

theorem contract_proper (h : config.intoPlan crates = .ok envelope)
    (hcontract : contract ∈ envelope.plan.sortedContracts) : ProperPath contract.path := by
  obtain ⟨⟨check,hdeclared,-⟩,-⟩ := contract_declared h hcontract
  exact declaredArtifacts_proper h _ hdeclared

theorem exec_observeArtifacts_contracts {pid : ℕ} {runRoot : HostPath} {disk : Disk OsString}
    {node : String → FileTree OsString} (h : config.intoPlan crates = .ok envelope)
    (hnode : ∀ contract ∈ envelope.plan.sortedContracts,
      get (artifactSource runRoot contract.path) disk.root = some (node contract.path)) :
    (observeArtifacts crates envelope.plan runRoot).run.exec (Disk.perform pid) disk =
      (envelope.plan.sortedContracts.mapM fun contract =>
        (observeNode crates contract (node contract.path)).bind (artifactEvidence crates contract),
        disk) := by
  unfold observeArtifacts
  by_cases hnone : envelope.plan.sortedContracts = []
  · rw [if_pos hnone,hnone]
    rfl
  rw [if_neg hnone]
  obtain ⟨contract,hcontract⟩ := List.exists_mem_of_ne_nil _ hnone
  have hproper := contract_proper h hcontract
  have hfound := hnode contract hcontract
  rw [artifactSource_eq hproper] at hfound
  refine (exec_run_bind_ok _ (exec_ensurePlainDirectoryChain (by decide +kernel) fun r hr => ?_)).trans
    (exec_observeContracts fun contract hcontract =>
      ⟨contract_proper h hcontract,hnode contract hcontract⟩)
  obtain ⟨tail,htail⟩ := hr
  have hsplit : runRoot++artifactsDir::(segments contract.path).map OsString.ofStr =
      runRoot++r++(tail++(segments contract.path).map OsString.ofStr) := by
    rw [List.append_assoc,← List.append_assoc r,htail]
    rfl
  rw [hsplit] at hfound
  refine isDirectory_of_get_append hfound fun hnil => segments_ne_nil contract.path ?_
  simpa using (List.append_eq_nil_iff.1 hnil).2

theorem exec_observeArtifacts {pid : ℕ} {runRoot : HostPath} {disk : Disk OsString}
    {node : String → FileTree OsString} (h : config.intoPlan crates = .ok envelope)
    (hnode : ∀ item ∈ envelope.plan.declaredArtifacts,
      get (artifactSource runRoot item.2) disk.root = some (node item.2)) :
    (observeArtifacts crates envelope.plan runRoot).run.exec (Disk.perform pid) disk =
      (envelope.plan.sortedContracts.mapM fun contract =>
        (observeNode crates contract (node contract.path)).bind (artifactEvidence crates contract),
        disk) := by
  refine exec_observeArtifacts_contracts h fun contract hcontract => ?_
  obtain ⟨⟨check,hdeclared,-⟩,-⟩ := contract_declared h hcontract
  exact hnode (check,contract.path) hdeclared

end Declared

section Fresh

variable {crates : Crates} {config : ConfigV1} {envelope : ExecutionPlanEnvelopeV1}
  {root : ResolvedCacheRoot} {runRoot : HostPath}

/-- A zero-length file, or a directory without entries. -/
def EmptyNode (node : Option (FileTree OsString)) : Prop :=
  node = some (.file []) ∨ node = some (.directory [])

/-- What the checks of a run do to the mount sources. -/
def ChecksWrite (sources : List HostPath) (writes : HostPath → FileTree OsString → FileTree OsString)
    (prepared finished : Disk OsString) : Prop :=
  ∀ source ∈ sources, get source finished.root = (get source prepared.root).map (writes source)

/-- No directory that is mounted for an artifact has entries. -/
def StaleFree (plan : ExecutionPlanV1) (runRoot : HostPath) (disk : Disk OsString) : Prop :=
  ∀ item ∈ plan.declaredArtifacts, artifactKindFor item.1 item.2 = .directory →
    ∀ entries, get (artifactSource runRoot item.2) disk.root = some (.directory entries) →
      entries = []

section OneRun

variable {pid : ℕ} {generation : UInt64} {checkout : Checkout} {repository : HostPath}
  {before prepared : Disk OsString} {workspace : PreparedWorkspace}

variable (hplan : config.intoPlan crates = .ok envelope)
  (hroot : root.workspacePath envelope.planDigest = .ok runRoot)
  (h : (PreparedWorkspace.prepareWithGeneration crates envelope root pid generation checkout
    repository).run.exec (Disk.perform pid) before = (.ok workspace,prepared))
include hplan hroot h

theorem prepared_sources :
    workspace.plan.runRoot = runRoot ∧
      ∀ source, source ∈ workspace.plan.artifactSources ↔
        ∃ item ∈ envelope.plan.declaredArtifacts, artifactSource runRoot item.2 = source := by
  obtain ⟨hrunRoot,hsources,-⟩ := prepareWithGeneration_ok hroot (declaredArtifacts_proper hplan)
    (declaredArtifacts_apart hplan) h
  exact ⟨hrunRoot,fun source => hsources ▸ List.mem_map⟩

theorem prepared_node
    {item : NormalizedCheck × String} (hitem : item ∈ envelope.plan.declaredArtifacts) :
    get (artifactSource runRoot item.2) prepared.root = some (preparedNode
        (artifactKindFor item.1 item.2) (get (artifactSource runRoot item.2) before.root)) ∧
      (artifactKindFor item.1 item.2 = .directory →
        IsDirectory (get (artifactSource runRoot item.2) prepared.root)) :=
  (prepareWithGeneration_ok hroot (declaredArtifacts_proper hplan) (declaredArtifacts_apart hplan)
    h).2.2 item hitem

theorem prepared_of_staleFree (hfree : StaleFree envelope.plan runRoot before)
    {item : NormalizedCheck × String} (hitem : item ∈ envelope.plan.declaredArtifacts) :
    get (artifactSource runRoot item.2) prepared.root =
      some (preparedNode (artifactKindFor item.1 item.2) none) := by
  obtain ⟨hget,hdirectory⟩ := prepared_node hplan hroot h hitem
  rw [hget]
  cases hkind : artifactKindFor item.1 item.2 with
  | regularFile => rfl
  | directory =>
    cases hfound : get (artifactSource runRoot item.2) before.root with
    | none => rfl
    | some node =>
      obtain ⟨entries,hentries⟩ := hdirectory hkind
      obtain rfl : node = .directory entries := by
        rw [hget,hkind,hfound] at hentries
        exact Option.some.inj hentries
      obtain rfl := hfree item hitem hkind entries hfound
      rfl

/-- The mounts are empty exactly where none of the directories was left with entries. -/
theorem prepared_empty_iff :
    (∀ source ∈ workspace.plan.artifactSources, EmptyNode (get source prepared.root)) ↔
      StaleFree envelope.plan runRoot before := by
  have hsources := (prepared_sources hplan hroot h).2
  constructor
  · intro hempty item hitem hkind entries hfound
    have hnode := (prepared_node hplan hroot h hitem).1
    rw [hkind,hfound] at hnode
    rcases hempty _ ((hsources _).2 ⟨item,hitem,rfl⟩) with hfile | hdirectory
    · simp [hnode,preparedNode] at hfile
    · simpa [hnode,preparedNode] using hdirectory
  · intro hfree source hsource
    obtain ⟨item,hitem,rfl⟩ := (hsources source).1 hsource
    rw [prepared_of_staleFree hplan hroot h hfree hitem]
    cases artifactKindFor item.1 item.2 with
    | regularFile => exact .inl rfl
    | directory => exact .inr rfl

theorem finished_nodes
    {writes : HostPath → FileTree OsString → FileTree OsString} {finished : Disk OsString}
    (hwrites : ChecksWrite workspace.plan.artifactSources writes prepared finished) :
    ∃ node : String → FileTree OsString, ∀ item ∈ envelope.plan.declaredArtifacts,
      get (artifactSource runRoot item.2) finished.root = some (node item.2) := by
  refine ⟨fun path => (get (artifactSource runRoot path) finished.root).getD .special,
    fun item hitem => ?_⟩
  have hsource := ((prepared_sources hplan hroot h).2 _).2 ⟨item,hitem,rfl⟩
  dsimp only
  rw [hwrites _ hsource,(prepared_node hplan hroot h hitem).1]
  rfl

end OneRun

/-- The mount sources are empty and the evidence of the same writes is the same, whatever the
earlier runs left, exactly where they left no mounted directory with entries. -/
theorem prepare_fresh_iff (hplan : config.intoPlan crates = .ok envelope)
    (hroot : root.workspacePath envelope.planDigest = .ok runRoot)
    {pid₁ pid₂ : ℕ} {generation₁ generation₂ : UInt64} {checkout₁ checkout₂ : Checkout}
    {repository₁ repository₂ : HostPath} {before₁ before₂ prepared₁ prepared₂ : Disk OsString}
    {workspace₁ workspace₂ : PreparedWorkspace}
    (h₁ : (PreparedWorkspace.prepareWithGeneration crates envelope root pid₁ generation₁ checkout₁
      repository₁).run.exec (Disk.perform pid₁) before₁ = (.ok workspace₁,prepared₁))
    (h₂ : (PreparedWorkspace.prepareWithGeneration crates envelope root pid₂ generation₂ checkout₂
      repository₂).run.exec (Disk.perform pid₂) before₂ = (.ok workspace₂,prepared₂)) :
    (∀ source ∈ workspace₁.plan.artifactSources, EmptyNode (get source prepared₁.root)) ∧
      (∀ source ∈ workspace₂.plan.artifactSources, EmptyNode (get source prepared₂.root)) ∧
      (∀ (writes : HostPath → FileTree OsString → FileTree OsString)
        (finished₁ finished₂ : Disk OsString),
        ChecksWrite workspace₁.plan.artifactSources writes prepared₁ finished₁ →
        ChecksWrite workspace₂.plan.artifactSources writes prepared₂ finished₂ →
        ((observeArtifacts crates envelope.plan workspace₁.plan.runRoot).run.exec
          (Disk.perform pid₁) finished₁).1 =
        ((observeArtifacts crates envelope.plan workspace₂.plan.runRoot).run.exec
          (Disk.perform pid₂) finished₂).1) ↔
    StaleFree envelope.plan runRoot before₁ ∧ StaleFree envelope.plan runRoot before₂ := by
  rw [prepared_empty_iff hplan hroot h₁,prepared_empty_iff hplan hroot h₂,← and_assoc]
  refine and_iff_left_of_imp ?_
  rintro ⟨hfree₁,hfree₂⟩ writes finished₁ finished₂ hwrites₁ hwrites₂
  obtain ⟨hrunRoot₁,hsources₁⟩ := prepared_sources hplan hroot h₁
  obtain ⟨hrunRoot₂,hsources₂⟩ := prepared_sources hplan hroot h₂
  obtain ⟨node,hnode⟩ := finished_nodes hplan hroot h₁ hwrites₁
  rw [hrunRoot₁,hrunRoot₂,exec_observeArtifacts hplan hnode,exec_observeArtifacts hplan]
  intro item hitem
  rw [← hnode item hitem,hwrites₁ _ ((hsources₁ _).2 ⟨item,hitem,rfl⟩),
    hwrites₂ _ ((hsources₂ _).2 ⟨item,hitem,rfl⟩),
    prepared_of_staleFree hplan hroot h₁ hfree₁ hitem,
    prepared_of_staleFree hplan hroot h₂ hfree₂ hitem]

end Fresh

def CheckConfig.sampleOutput : CheckConfig :=
  { CheckConfig.sample "build" [] with
    artifacts := ["out","report"]
    artifactContracts := [⟨"out",.directory,1024,4⟩,⟨"report",.regularFile,1024,1⟩] }

def ConfigV1.sampleOutput : ConfigV1 := .sample [.sampleOutput]

def ExecutionPlanV1.sampleOutput : ExecutionPlanV1 where
  schemaVersion := "1.0"
  project := "example/project"
  runtime := ⟨.dockerCompatible,
    "ghcr.io/example/ci@sha256:aaaaaaaaaaaaaaaaaaaaaaaaaaaaaaaaaaaaaaaaaaaaaaaaaaaaaaaaaaaaaaaa",
    4,4096,512,false,none,none⟩
  receipt := ⟨".ccp/receipt.json",86400⟩
  environment := ⟨[],[],[],[]⟩
  caches := []
  storage := none
  checks := [{
    id := "build"
    required := true
    argv := ["cargo","test"]
    workingDirectory := "."
    timeoutSeconds := 300
    dependsOn := []
    artifacts := ["out","report"]
    artifactContracts := [⟨"out",.directory,1024,4,"build"⟩,⟨"report",.regularFile,1024,1,"build"⟩] }]

def samplePlanDigest : List.Vector UInt8 32 :=
  ⟨[234,31,139,217,144,90,146,224,139,111,90,224,10,51,45,180,53,85,87,252,247,195,58,121,28,225,
    0,231,78,139,94,46],rfl⟩

/-- The reference crates, with the digest of the sample plan written down. -/
def Crates.sampleOutput : Crates where
  floats := .bitPattern
  sha256 bytes :=
    if bytes = canonicalJson .reference (ExecutionPlanV1.codec.encode .sampleOutput) then
      samplePlanDigest
    else Sha256.digest bytes

def ExecutionPlanEnvelopeV1.sampleOutput : ExecutionPlanEnvelopeV1 where
  planDigest := "sha256:ea1f8bd9905a92e08b6f5ae00a332db4355557fcf7c33a791ce100e74e8b5e2e"
  plan := .sampleOutput
  fixedEnvironment := .empty

theorem digest_sampleOutput : ExecutionPlanEnvelopeV1.sampleOutput.planDigest =
    ExecutionPlanV1.sampleOutput.digest .sampleOutput := by
  have hjson (v : Json) : canonicalJson .sampleOutput v = canonicalJson .reference v := rfl
  have hsha : ∀ bytes, bytes = canonicalJson .reference (ExecutionPlanV1.codec.encode .sampleOutput) →
      Crates.sampleOutput.sha256 bytes = samplePlanDigest := fun _ h => if_pos h
  rw [ExecutionPlanV1.digest,canonicalDigest,hjson,hsha _ rfl]
  decide +kernel

theorem intoPlan_sampleOutput :
    ConfigV1.sampleOutput.intoPlan .sampleOutput = .ok .sampleOutput :=
  ConfigV1.intoPlan_eq_ok.2 {
    topLevel := by decide +kernel
    caches := by decide +kernel
    runtime := by decide +kernel
    environment := by decide +kernel
    checks := by decide +kernel
    storage := by decide +kernel
    isolation := by decide +kernel
    receipt := rfl
    schemaVersion := rfl
    project := rfl
    digest := digest_sampleOutput
    fixed := rfl }

def Checkout.sample : Checkout where
  canonicalize path := .ok path
  metadata path :=
    if path = HostPath.components "/srv/project/report" then .ok ⟨.file,0⟩
    else .ok ⟨.directory,0⟩

def ResolvedCacheRoot.sample : ResolvedCacheRoot := ⟨HostPath.components "/cache"⟩

def Disk.sampleFresh : Disk OsString :=
  ⟨some (.directory [(.ofStr "cache",.directory [])]),[],fun _ _ => 0⟩

def samplePrepare (pid : ℕ) (disk : Disk OsString) :
    Except WorkspaceError PreparedWorkspace × Disk OsString :=
  (PreparedWorkspace.prepareWithGeneration .sampleOutput .sampleOutput .sample pid 0 .sample
    (HostPath.components "/srv/project")).run.exec (Disk.perform pid) disk

def sampleRunRoot : HostPath :=
  ResolvedCacheRoot.sample.path++[workspacesDir,
    .ofStr "sha256-ea1f8bd9905a92e08b6f5ae00a332db4355557fcf7c33a791ce100e74e8b5e2e"]

theorem workspacePath_sampleOutput :
    ResolvedCacheRoot.sample.workspacePath ExecutionPlanEnvelopeV1.sampleOutput.planDigest =
      .ok sampleRunRoot := by
  decide +kernel

/-- What a run leaves whose check wrote these entries into the directory. -/
def Disk.sampleLeft (entries : List (OsString × FileTree OsString)) : Disk OsString :=
  match samplePrepare 1 .sampleFresh with
  | (.ok workspace,prepared) =>
    let written := put (some (.directory entries)) (artifactSource sampleRunRoot "out") prepared.root
    (workspace.lock.drop.exec (Disk.perform 1) {prepared with root := written}).2
  | (.error _,disk) => disk

def sampleApp : OsString × FileTree OsString := (.ofStr "app",.file [1])

def sampleObserve (pid : ℕ) (disk : Disk OsString) : Option (List (String × UInt64)) :=
  match samplePrepare pid disk with
  | (.ok workspace,prepared) =>
    ((observeArtifacts .sampleOutput .sampleOutput workspace.plan.runRoot).run.exec
      (Disk.perform pid) prepared).1.toOption.map fun records =>
        records.map fun record => (record.path,record.entryCount)
  | (.error _,_) => none

theorem exists_of_sampleObserve {pid : ℕ} {disk : Disk OsString}
    {counts : List (String × UInt64)} (h : sampleObserve pid disk = some counts) :
    ∃ workspace prepared records, samplePrepare pid disk = (.ok workspace,prepared) ∧
      ((observeArtifacts .sampleOutput .sampleOutput workspace.plan.runRoot).run.exec
        (Disk.perform pid) prepared).1 = .ok records ∧
      records.map (fun record => (record.path,record.entryCount)) = counts := by
  unfold sampleObserve at h
  split at h
  · rename_i workspace prepared hprepared
    rcases hobserved : ((observeArtifacts .sampleOutput .sampleOutput workspace.plan.runRoot).run.exec
      (Disk.perform pid) prepared).1 with e | records
    · simp [hobserved,Except.toOption] at h
    · rw [hobserved] at h
      exact ⟨workspace,prepared,records,hprepared,hobserved,Option.some.inj h⟩
  · simp at h

theorem sampleObserve_fresh : sampleObserve 1 .sampleFresh = some [("out",0),("report",1)] := by
  decide +kernel

theorem sampleObserve_left :
    sampleObserve 2 (.sampleLeft [sampleApp]) = some [("out",1),("report",1)] := by
  decide +kernel

/-- What a run leaves whose check wrote the report and nothing into the directory. -/
def Disk.sampleReported : Disk OsString :=
  { Disk.sampleLeft [] with
    root := put (some (.file [1])) (artifactSource sampleRunRoot "report") (Disk.sampleLeft []).root }

theorem sampleObserve_reported :
    sampleObserve 2 .sampleReported = some [("out",0),("report",1)] := by
  decide +kernel

theorem staleFree_of_nodes {plan : ExecutionPlanV1} {runRoot : HostPath} {disk : Disk OsString}
    (h : ∀ item ∈ plan.declaredArtifacts,
      ((get (artifactSource runRoot item.2) disk.root).map FileTree.nodes).getD 1 = 1) :
    StaleFree plan runRoot disk := by
  intro item hitem _ entries hfound
  have hnodes := h item hitem
  rw [hfound] at hnodes
  cases entries with
  | nil => rfl
  | cons entry rest =>
    have hpos : 0 < entry.2.nodes := by cases entry.2 <;> simp [FileTree.nodes]
    have hzero : entry.2.nodes+FileTree.nodesOf rest = 0 := Nat.succ.inj hnodes
    omega

theorem sampleLeft_app (entries : List (OsString × FileTree OsString)) (kind : FileKind)
    (h : (get (artifactSource sampleRunRoot "out"++[.ofStr "app"])
      (Disk.sampleLeft entries).root).map (·.metadata.kind) = some kind) :
    ∃ found node, get (artifactSource sampleRunRoot "out") (Disk.sampleLeft entries).root =
      some (.directory found) ∧ lookupEntry (.ofStr "app") found = some node ∧
      node.metadata.kind = kind := by
  obtain ⟨node,hnode,hkind⟩ := Option.map_eq_some_iff.1 h
  obtain ⟨found,hfound⟩ := isDirectory_of_get_append hnode (by simp)
  rw [get_append,hfound] at hnode
  exact ⟨found,node,hfound,hnode,hkind⟩

/-- The first run starts with an empty cache root, the second with what a run has left. -/
theorem prepare_fresh_iff_sample :
    (get (artifactSource sampleRunRoot "report") Disk.sampleReported.root).map
        (·.files []) = some [([],[1])] ∧
      ∃ workspace₁ prepared₁ workspace₂ prepared₂,
        samplePrepare 1 .sampleFresh = (.ok workspace₁,prepared₁) ∧
        samplePrepare 2 .sampleReported = (.ok workspace₂,prepared₂) ∧
        (∀ source ∈ workspace₁.plan.artifactSources, EmptyNode (get source prepared₁.root)) ∧
        (∀ source ∈ workspace₂.plan.artifactSources, EmptyNode (get source prepared₂.root)) ∧
        ((observeArtifacts .sampleOutput .sampleOutput workspace₁.plan.runRoot).run.exec
          (Disk.perform 1) prepared₁).1 =
        ((observeArtifacts .sampleOutput .sampleOutput workspace₂.plan.runRoot).run.exec
          (Disk.perform 2) prepared₂).1 := by
  obtain ⟨workspace₁,prepared₁,-,hprepared₁,-⟩ := exists_of_sampleObserve sampleObserve_fresh
  obtain ⟨workspace₂,prepared₂,-,hprepared₂,-⟩ := exists_of_sampleObserve sampleObserve_reported
  obtain ⟨hempty₁,hempty₂,hsame⟩ :=
    (prepare_fresh_iff intoPlan_sampleOutput workspacePath_sampleOutput hprepared₁ hprepared₂).2
      ⟨staleFree_of_nodes (by decide +kernel),staleFree_of_nodes (by decide +kernel)⟩
  refine ⟨by decide +kernel,workspace₁,prepared₁,workspace₂,prepared₂,hprepared₁,hprepared₂,
    hempty₁,hempty₂,?_⟩
  exact hsame (fun _ node => node) prepared₁ prepared₂ (fun _ _ => Option.map_id'.symm)
    fun _ _ => Option.map_id'.symm

/-- The file of an earlier run is evidence of a run that wrote nothing. -/
theorem prepare_keeps_earlier_output :
    ConfigV1.sampleOutput.intoPlan .sampleOutput = .ok .sampleOutput ∧
    ∃ workspace₁ prepared₁ workspace₂ prepared₂,
      samplePrepare 1 .sampleFresh = (.ok workspace₁,prepared₁) ∧
      samplePrepare 2 (.sampleLeft [sampleApp]) = (.ok workspace₂,prepared₂) ∧
      ¬ (∀ source ∈ workspace₂.plan.artifactSources, EmptyNode (get source prepared₂.root)) ∧
      ((observeArtifacts .sampleOutput .sampleOutput workspace₁.plan.runRoot).run.exec
        (Disk.perform 1) prepared₁).1 ≠
      ((observeArtifacts .sampleOutput .sampleOutput workspace₂.plan.runRoot).run.exec
        (Disk.perform 2) prepared₂).1 := by
  obtain ⟨workspace₁,prepared₁,records₁,hprepared₁,hrecords₁,hcounts₁⟩ :=
    exists_of_sampleObserve sampleObserve_fresh
  obtain ⟨workspace₂,prepared₂,records₂,hprepared₂,hrecords₂,hcounts₂⟩ :=
    exists_of_sampleObserve sampleObserve_left
  refine ⟨intoPlan_sampleOutput,workspace₁,prepared₁,workspace₂,prepared₂,hprepared₁,hprepared₂,?_,?_⟩
  · rw [prepared_empty_iff intoPlan_sampleOutput workspacePath_sampleOutput hprepared₂]
    intro hfree
    obtain ⟨entries,node,hentries,happ,-⟩ := sampleLeft_app [sampleApp] .file (by decide +kernel)
    obtain rfl := hfree (_,"out") List.mem_cons_self rfl entries hentries
    simp [lookupEntry] at happ
  · rw [hrecords₁,hrecords₂]
    intro hsame
    obtain rfl := Except.ok.inj hsame
    rw [hcounts₁] at hcounts₂
    exact absurd hcounts₂ (by decide +kernel)

section Missing

variable {crates : Crates} {config : ConfigV1} {envelope : ExecutionPlanEnvelopeV1}
  {root : ResolvedCacheRoot} {runRoot : HostPath}

theorem except_not_ok {ε α : Type} {x : Except ε α} :
    (¬ ∃ a, x = .ok a) ↔ ∃ e, x = .error e := by
  cases x <;> simp

/-- What preparation makes itself is accepted. -/
theorem not_contractAccepts_preparedNode {contract : NormalizedArtifactContract}
    {found : Option (FileTree OsString)} :
    ¬ ContractAccepts contract (preparedNode contract.kind found) ↔
      contract.kind = .directory ∧ ∃ node, found = some node ∧ ¬ ContractAccepts contract node := by
  cases hkind : contract.kind with
  | regularFile => simp [preparedNode,ContractAccepts,hkind]
  | directory =>
    cases found with
    | none =>
      have hempty : ContractAccepts contract (.directory []) :=
        ⟨hkind,trivial,by simp [filesOf],Nat.zero_le _,Nat.zero_le _⟩
      simpa [preparedNode] using hempty
    | some node => simp [preparedNode]

/-- An artifact no check writes to makes the observation fail exactly where another contract
rejects what is at its mount, or an earlier run left a directory that the contract rejects. -/
theorem observe_missing_iff (hplan : config.intoPlan crates = .ok envelope)
    (hroot : root.workspacePath envelope.planDigest = .ok runRoot)
    {pid : ℕ} {generation : UInt64} {checkout : Checkout} {repository : HostPath}
    {before prepared finished : Disk OsString} {workspace : PreparedWorkspace}
    (h : (PreparedWorkspace.prepareWithGeneration crates envelope root pid generation checkout
      repository).run.exec (Disk.perform pid) before = (.ok workspace,prepared))
    {writes : HostPath → FileTree OsString → FileTree OsString}
    (hwrites : ChecksWrite workspace.plan.artifactSources writes prepared finished)
    {contract : NormalizedArtifactContract} (hcontract : contract ∈ envelope.plan.sortedContracts)
    (hmissing : writes (artifactSource runRoot contract.path) = id) :
    (∃ e, ((observeArtifacts crates envelope.plan workspace.plan.runRoot).run.exec
      (Disk.perform pid) finished).1 = .error e) ↔
    (∃ other ∈ envelope.plan.sortedContracts, other ≠ contract ∧
      ∀ node, get (artifactSource runRoot other.path) finished.root = some node →
        ¬ ContractAccepts other node) ∨
    (contract.kind = .directory ∧ ∃ node,
      get (artifactSource runRoot contract.path) before.root = some node ∧
        ¬ ContractAccepts contract node) := by
  obtain ⟨hrunRoot,hsources⟩ := prepared_sources hplan hroot h
  obtain ⟨node,hnode⟩ := finished_nodes hplan hroot h hwrites
  have hmissed : node contract.path =
      preparedNode contract.kind (get (artifactSource runRoot contract.path) before.root) := by
    obtain ⟨⟨check,hitem,hkind⟩,-⟩ := contract_declared hplan hcontract
    have hkept := hwrites _ ((hsources _).2 ⟨_,hitem,rfl⟩)
    rw [hnode _ hitem,(prepared_node hplan hroot h hitem).1,hmissing,Option.map_id,id] at hkept
    rw [← hkind]
    exact Option.some.inj hkept
  have hfails : (∃ e, ((observeArtifacts crates envelope.plan workspace.plan.runRoot).run.exec
      (Disk.perform pid) finished).1 = .error e) ↔
      ∃ other ∈ envelope.plan.sortedContracts, ¬ ContractAccepts other (node other.path) := by
    rw [hrunRoot,exec_observeArtifacts hplan hnode,← except_not_ok,mapM_eq_ok]
    push Not
    refine exists_congr fun other => and_congr_right fun hother => ?_
    rw [← not_exists,observeNode_ok (contract_declared hplan hother).2]
  have hread : ∀ other ∈ envelope.plan.sortedContracts,
      get (artifactSource runRoot other.path) finished.root = some (node other.path) := by
    intro other hother
    obtain ⟨⟨check,hitem,-⟩,-⟩ := contract_declared hplan hother
    exact hnode (check,other.path) hitem
  rw [hfails,← not_contractAccepts_preparedNode,← hmissed]
  constructor
  · rintro ⟨other,hother,hrejected⟩
    by_cases he : other = contract
    · exact .inr (he ▸ hrejected)
    · refine .inl ⟨other,hother,he,fun found hfound => ?_⟩
      obtain rfl := Option.some.inj (hfound.symm.trans (hread other hother))
      exact hrejected
  · rintro (⟨other,hother,-,hrejected⟩ | hrejected)
    · exact ⟨other,hother,hrejected _ (hread other hother)⟩
    · exact ⟨contract,hcontract,hrejected⟩

end Missing

theorem plain_of_lookupEntry {entries : List (OsString × FileTree OsString)} {name : OsString}
    {node : FileTree OsString} (hplain : PlainEntries entries)
    (h : lookupEntry name entries = some node) : Plain node := by
  induction entries with
  | nil => simp [lookupEntry] at h
  | cons entry entries ih =>
    obtain ⟨hfirst,hrest⟩ := hplain
    rw [lookupEntry] at h
    split at h
    · exact Option.some.inj h ▸ hfirst
    · exact ih hrest h

def sampleLink : OsString × FileTree OsString := (.ofStr "app",.symlink [46])

/-- A link of an earlier run makes the observation fail. -/
theorem observe_missing_iff_sample :
    ∃ workspace prepared, samplePrepare 2 (.sampleLeft [sampleLink]) = (.ok workspace,prepared) ∧
      ∃ e, ((observeArtifacts .sampleOutput .sampleOutput workspace.plan.runRoot).run.exec
        (Disk.perform 2) prepared).1 = .error e := by
  have hprepares : (samplePrepare 2 (.sampleLeft [sampleLink])).1.toOption.isSome = true := by
    decide +kernel
  rcases hprepared : samplePrepare 2 (.sampleLeft [sampleLink]) with ⟨e | workspace,prepared⟩
  · simp [hprepared,Except.toOption] at hprepares
  refine ⟨workspace,prepared,rfl,?_⟩
  have hwrites : ChecksWrite workspace.plan.artifactSources (fun _ => id) prepared prepared :=
    fun _ _ => by rw [Option.map_id,id]
  have hcontract : ⟨"out",.directory,1024,4,"build"⟩ ∈
      ExecutionPlanV1.sampleOutput.sortedContracts := by decide +kernel
  refine (observe_missing_iff intoPlan_sampleOutput workspacePath_sampleOutput hprepared hwrites
    hcontract rfl).2 (.inr ⟨rfl,?_⟩)
  obtain ⟨entries,node,hentries,happ,hkind⟩ :=
    sampleLeft_app [sampleLink] .symlink (by decide +kernel)
  refine ⟨_,hentries,fun haccepted => ?_⟩
  have hplain := plain_of_lookupEntry haccepted.2.1 happ
  cases node <;> simp_all [Plain,FileTree.metadata]

/-- Nothing wrote the report, and there is a record of it. -/
theorem missing_report_is_recorded :
    ∃ workspace prepared records,
      samplePrepare 1 .sampleFresh = (.ok workspace,prepared) ∧
      ⟨"report",.regularFile,1024,1,"build"⟩ ∈ ExecutionPlanV1.sampleOutput.sortedContracts ∧
      ((observeArtifacts .sampleOutput .sampleOutput workspace.plan.runRoot).run.exec
        (Disk.perform 1) prepared).1 = .ok records ∧
      ∃ record ∈ records, record.path = "report" := by
  obtain ⟨workspace,prepared,records,hprepared,hrecords,hcounts⟩ :=
    exists_of_sampleObserve sampleObserve_fresh
  refine ⟨workspace,prepared,records,hprepared,by decide +kernel,hrecords,?_⟩
  have hmem : ("report",1) ∈ records.map fun record => (record.path,record.entryCount) := by
    rw [hcounts]
    decide
  obtain ⟨record,hrecord,he⟩ := List.mem_map.1 hmem
  exact ⟨record,hrecord,(Prod.mk.inj he).1⟩

end CommitCiPreflight
