import CommitCiPreflight.Artifacts
import CommitCiPreflight.CacheFrame
import CommitCiPreflight.ConfigPaths

/-! What a prepared workspace holds at its artifact mounts, and what is observed of it
after the checks. -/
namespace CommitCiPreflight

open Program Files FileTree

section Prepare

variable {pid : ℕ} {disk disk' : Disk OsString} {path runRoot : HostPath} {artifact : String}
  {generation : UInt64} {artifacts : List (NormalizedCheck × String)}
  {sources : OrderedMap String HostPath} {caches : List NormalizedCache}
  {entries : List (String × PreparedCacheEntry)}

theorem ensurePlainDirectory_ok
    (h : (ensurePlainDirectory path).run.exec (Disk.perform pid) disk = (.ok (),disk')) :
    (IsDirectory (get path disk.root) ∧ disk' = disk) ∨
      (get path disk.root = none ∧ HasParent path disk.root ∧
        disk' = disk.setRoot (put (some (.directory [])) path disk.root)) := by
  rw [ensurePlainDirectory,exec_lift_bind] at h
  obtain ⟨hparent,habsent,hcreate⟩ | ⟨node,hnode,hcreate⟩ | ⟨e,he,hcreate⟩ :=
    Disk.exec_createDir_cases pid path disk
  · rw [hcreate] at h
    exact Or.inr ⟨habsent,hparent,(Prod.mk.inj h).2.symm⟩
  · rw [hcreate] at h
    obtain ⟨metadata,disk₁,hmetadata,hkind⟩ := (exec_run_bind_eq_ok _).1 h
    obtain ⟨node,hnode,rfl,rfl⟩ := Disk.exec_metadata_eq_ok.1 (Disk.exec_passOn_eq_ok.1 hmetadata)
    rcases node with c | entries | target | _
    case directory => exact Or.inl ⟨⟨entries,hnode⟩,(Prod.mk.inj hkind).2.symm⟩
    all_goals exact absurd (Prod.mk.inj hkind).1 (by simp)
  · rw [hcreate] at h
    cases e
    case alreadyExists => exact absurd rfl he
    all_goals exact absurd (Prod.mk.inj h).1 (by simp)

/-- Directories are added down to a path; what is beside the path keeps its content, and so
does the path itself if it was there. -/
theorem ensureDirectories_ok {current : HostPath} {names : List OsString}
    (h : (ensureDirectories current names).run.exec (Disk.perform pid) disk = (.ok (),disk')) :
    (∀ q, ¬ q <+: current++names → get q disk'.root = get q disk.root) ∧
      (names ≠ [] → IsDirectory (get (current++names) disk'.root) ∧
        get (current++names) disk'.root =
          some ((get (current++names) disk.root).getD (.directory []))) := by
  induction names generalizing current disk with
  | nil =>
    obtain ⟨-,rfl⟩ := Prod.mk.inj h
    exact ⟨fun q _ => rfl,fun hne => absurd rfl hne⟩
  | cons name names ih =>
    obtain ⟨⟨⟩,disk₁,hfirst,hrest⟩ := (exec_run_bind_eq_ok _).1 h
    have hpath : current++name::names = current++[name]++names := by simp
    obtain ⟨hframe,hlast⟩ := ih hrest
    rw [hpath]
    have hstep : ∀ q, ¬ q <+: current++[name] → get q disk₁.root = get q disk.root := by
      intro q hq
      obtain ⟨-,rfl⟩ | ⟨habsent,hparent,rfl⟩ := ensurePlainDirectory_ok hfirst
      · rfl
      · exact get_put_empty habsent hparent hq
    refine ⟨fun q hq => ?_,fun _ => ?_⟩
    · exact (hframe q hq).trans (hstep q fun hp => hq (hp.trans (List.prefix_append _ _)))
    · by_cases hnil : names = []
      · subst hnil
        obtain ⟨-,rfl⟩ := Prod.mk.inj hrest
        rw [List.append_nil]
        obtain ⟨⟨entries,hdir⟩,rfl⟩ | ⟨habsent,hparent,rfl⟩ := ensurePlainDirectory_ok hfirst
        · rw [hdir]
          exact ⟨⟨entries,rfl⟩,rfl⟩
        · rw [habsent,Disk.setRoot,get_put_self _ hparent]
          exact ⟨⟨[],rfl⟩,rfl⟩
      · have hlong : ¬ current++[name]++names <+: current++[name] := by
          intro hp
          have hlength := hp.length_le
          simp only [List.length_append] at hlength
          exact hnil (List.eq_nil_of_length_eq_zero (by omega))
        rw [← hstep _ hlong]
        exact hlast hnil

theorem createManagedDirectoryChain_ok {root : HostPath}
    (h : (createManagedDirectoryChain path root).run.exec (Disk.perform pid) disk = (.ok (),disk')) :
    (∀ q, ¬ q <+: path → get q disk'.root = get q disk.root) ∧
      (path ≠ root → IsDirectory (get path disk'.root) ∧
        get path disk'.root = some ((get path disk.root).getD (.directory []))) := by
  obtain ⟨⟨⟩,disk₁,hvalid,hchain⟩ := (exec_run_bind_eq_ok _).1 h
  obtain ⟨hunder,rfl⟩ := Prod.mk.inj hvalid
  have hbelow : root <+: path := by
    by_contra hnot
    simp [validateUnderRoot,hnot] at hunder
  obtain ⟨names,rfl⟩ := hbelow
  rw [List.drop_left] at hchain
  obtain ⟨hframe,hlast⟩ := ensureDirectories_ok hchain
  exact ⟨hframe,fun hne => hlast fun hnil => hne (by simp [hnil])⟩

/-- The node at an artifact mount once it is prepared: a file is emptied, a directory is
kept as it was found. -/
def preparedNode (kind : ArtifactKind) (found : Option (FileTree OsString)) : FileTree OsString :=
  match kind with
  | .regularFile => .file []
  | .directory => found.getD (.directory [])

theorem createFile_ok
    (h : (createFile path).run.exec (Disk.perform pid) disk = (.ok (),disk')) :
    get path disk'.root = some (.file []) ∧
      ∀ q, ¬ q <+: path → ¬ path <+: q → get q disk'.root = get q disk.root := by
  constructor
  · obtain ⟨⟨⟩,disk₁,-,htruncate⟩ := (exec_run_bind_eq_ok _).1 h
    obtain ⟨content,hget,rfl⟩ := Disk.exec_truncate_eq_ok.1 (Disk.exec_passOn_eq_ok.1 htruncate)
    exact get_put_self _ (hasParent_of_get hget)
  · intro q hq hp
    have huses : (createFile path).run.Uses (FileOp.Keeps (· = path) fun _ => True) :=
      uses_run_bind (uses_passOn (uses_openCreate rfl)) fun _ => uses_passOn (uses_truncate rfl)
    have hframe : get q ((createFile path).run.exec (Disk.perform pid) disk).2.root =
        get q disk.root := Disk.get_exec huses (by rintro _ rfl; exact ⟨hp,hq⟩)
    rwa [h] at hframe

theorem requireRegularFile_ok
    (h : (requireRegularFile path).run.exec (Disk.perform pid) disk = (.ok (),disk')) :
    disk' = disk := by
  rw [requireRegularFile,exec_lift_bind,Disk.exec_metadata] at h
  split at h
  all_goals exact (Prod.mk.inj h).2.symm

theorem HostPath.join_eq {path : HostPath} {relative : String} (h : ProperPath relative) :
    path.join relative = path++(segments relative).map OsString.ofStr := by
  have hfilter : (Text.split relative '/').filter (fun c => c ≠ "" ∧ c ≠ ".") =
      segments relative :=
    List.filter_eq_self.2 fun c hc => by simpa using ⟨(h.segments c hc).1,(h.segments c hc).2.1⟩
  rw [HostPath.join,if_neg (by simp [h.relative]),HostPath.components,hfilter]

theorem artifactSource_eq (h : ProperPath artifact) :
    artifactSource runRoot artifact =
      runRoot++artifactsDir::(segments artifact).map OsString.ofStr := by
  rw [artifactSource,HostPath.join_eq h]
  simp

theorem segments_ne_nil (path : String) : segments path ≠ [] := by
  simp [segments,Text.split,List.splitOn_ne_nil]

theorem prepareArtifact_ok {kind : ArtifactKind} (hproper : ProperPath artifact)
    (h : (prepareArtifact runRoot artifact kind).run.exec (Disk.perform pid) disk =
      (.ok (),disk')) :
    get (artifactSource runRoot artifact) disk'.root =
        some (preparedNode kind (get (artifactSource runRoot artifact) disk.root)) ∧
      (kind = .directory → IsDirectory (get (artifactSource runRoot artifact) disk'.root)) ∧
      ∀ q, ¬ q <+: artifactSource runRoot artifact → ¬ artifactSource runRoot artifact <+: q →
        get q disk'.root = get q disk.root := by
  have hne : artifactSource runRoot artifact ≠ runRoot := by
    rw [artifactSource_eq hproper]
    simp
  obtain ⟨⟨⟩,disk₁,hvalid,hkind⟩ := (exec_run_bind_eq_ok _).1 h
  obtain ⟨-,rfl⟩ := Prod.mk.inj hvalid
  cases kind with
  | directory =>
    obtain ⟨hframe,hlast⟩ := createManagedDirectoryChain_ok hkind
    exact ⟨(hlast hne).2,fun _ => (hlast hne).1,fun q hq _ => hframe q hq⟩
  | regularFile =>
    simp only at hkind
    split at hkind
    · rename_i parent hparent
      obtain ⟨⟨⟩,disk₂,hchain,hrest⟩ := (exec_run_bind_eq_ok _).1 hkind
      obtain ⟨⟨⟩,disk₃,hrequire,hcreate⟩ := (exec_run_bind_eq_ok _).1 hrest
      obtain rfl := requireRegularFile_ok hrequire
      obtain ⟨hfile,hframe⟩ := createFile_ok hcreate
      have habove : parent <+: artifactSource runRoot artifact := by
        unfold HostPath.parent at hparent
        split at hparent
        · simp at hparent
        · exact Option.some.inj hparent ▸ List.dropLast_prefix _
      refine ⟨hfile,nofun,fun q hq hp => (hframe q hq hp).trans ?_⟩
      exact (createManagedDirectoryChain_ok hchain).1 q fun hp => hq (hp.trans habove)
    · exact absurd (Prod.mk.inj hkind).1 (by simp)

theorem artifactSource_prefix_iff {p q : String} (hp : ProperPath p) (hq : ProperPath q) :
    artifactSource runRoot p <+: artifactSource runRoot q ↔ segments p <+: segments q := by
  rw [artifactSource_eq hp,artifactSource_eq hq,List.prefix_append_right_inj,List.cons_prefix_cons]
  simp only [true_and]
  exact List.prefix_map_iff_of_injective OsString.ofStr_injective

/-- Two paths of which neither contains the other. -/
def Apart (p q : String) : Prop := ¬ segments p <+: segments q ∧ ¬ segments q <+: segments p

theorem prepareArtifacts_ok (hproper : ∀ item ∈ artifacts, ProperPath item.2)
    (hapart : artifacts.Pairwise fun a b => Apart a.2 b.2)
    (h : (prepareArtifacts runRoot artifacts).run.exec (Disk.perform pid) disk = (.ok (),disk')) :
    ∀ item ∈ artifacts,
      get (artifactSource runRoot item.2) disk'.root = some (preparedNode
        (artifactKindFor item.1 item.2) (get (artifactSource runRoot item.2) disk.root)) ∧
      (artifactKindFor item.1 item.2 = .directory →
        IsDirectory (get (artifactSource runRoot item.2) disk'.root)) := by
  have hrun : (∀ item ∈ artifacts,
        get (artifactSource runRoot item.2) disk'.root = some (preparedNode
          (artifactKindFor item.1 item.2) (get (artifactSource runRoot item.2) disk.root)) ∧
        (artifactKindFor item.1 item.2 = .directory →
          IsDirectory (get (artifactSource runRoot item.2) disk'.root))) ∧
      ∀ q, (∀ item ∈ artifacts, ¬ q <+: artifactSource runRoot item.2 ∧
        ¬ artifactSource runRoot item.2 <+: q) → get q disk'.root = get q disk.root := by
    induction artifacts generalizing disk with
    | nil =>
      obtain ⟨-,rfl⟩ := Prod.mk.inj h
      exact ⟨by simp,fun q _ => rfl⟩
    | cons item artifacts ih =>
      obtain ⟨disk₁,hfirst,hrest⟩ := (exec_forM_eq_ok _).1 h
      obtain ⟨hitem,hothers⟩ := List.pairwise_cons.1 hapart
      have hproper₁ : ProperPath item.2 := hproper item (by simp)
      obtain ⟨hnode,hdirectory,hframe⟩ := prepareArtifact_ok hproper₁ hfirst
      obtain ⟨hnodes,hframes⟩ := ih (fun a ha => hproper a (by simp [ha])) hothers hrest
      have hdisjoint : ∀ other ∈ artifacts,
          ¬ artifactSource runRoot item.2 <+: artifactSource runRoot other.2 ∧
            ¬ artifactSource runRoot other.2 <+: artifactSource runRoot item.2 := by
        intro other hother
        have hproper₂ : ProperPath other.2 := hproper other (by simp [hother])
        rw [artifactSource_prefix_iff hproper₁ hproper₂,artifactSource_prefix_iff hproper₂ hproper₁]
        exact hitem other hother
      refine ⟨List.forall_mem_cons.2 ⟨?_,fun other hother => ?_⟩,fun q hq => ?_⟩
      · rw [hframes _ hdisjoint]
        exact ⟨hnode,hdirectory⟩
      · rw [← hframe _ (hdisjoint other hother).2 (hdisjoint other hother).1]
        exact hnodes other hother
      · obtain ⟨hq₁,hq₂⟩ := hq item (by simp)
        exact (hframes q fun other hother => hq other (by simp [hother])).trans (hframe q hq₁ hq₂)
  exact hrun.1

def WorkspacePlanV1.artifactSources (plan : WorkspacePlanV1) : List HostPath :=
  (plan.mounts.filter (·.purpose = .artifact)).map (·.source)

theorem artifactMounts_ok {targets : List String} {mounts : List MountBinding}
    (h : artifactMounts runRoot targets artifacts = .ok mounts) :
    (mounts.filter (·.purpose = .artifact)).map (·.source) =
      artifacts.map fun item => artifactSource runRoot item.2 := by
  induction artifacts generalizing targets mounts with
  | nil =>
    obtain rfl := Except.ok.inj h
    rfl
  | cons item artifacts ih =>
    obtain ⟨⟨⟩,-,h⟩ := except_bind_eq_ok.1 h
    obtain ⟨target,-,h⟩ := except_bind_eq_ok.1 h
    dsimp only at h
    obtain ⟨-,h⟩ := except_guard_eq_ok.1 h
    obtain ⟨rest,hrest,h⟩ := except_bind_eq_ok.1 h
    obtain rfl := Except.ok.inj h
    simpa using ih hrest

theorem cacheMounts_ok {crates : Crates} {envelope : ExecutionPlanEnvelopeV1}
    {root : ResolvedCacheRoot} {targets : List String} {result : List MountBinding × List String}
    (h : cacheMounts crates envelope root sources targets caches = .ok result) :
    ∀ mount ∈ result.1, mount.purpose = .cache := by
  induction caches generalizing targets result with
  | nil =>
    obtain rfl := Except.ok.inj h
    simp
  | cons declared caches ih =>
    obtain ⟨⟨⟩,-,h⟩ := except_bind_eq_ok.1 h
    obtain ⟨target,-,h⟩ := except_bind_eq_ok.1 h
    dsimp only at h
    obtain ⟨-,h⟩ := except_guard_eq_ok.1 h
    obtain ⟨rest,hrest,h⟩ := except_bind_eq_ok.1 h
    obtain rfl := Except.ok.inj h
    simpa using ih hrest

theorem attachGeneration_sources (mounts : List MountBinding) (entry : PreparedCacheEntry) :
    ((attachGeneration mounts entry).filter (·.purpose = .artifact)).map (·.source) =
      (mounts.filter (·.purpose = .artifact)).map (·.source) := by
  induction mounts with
  | nil => rfl
  | cons mount mounts ih =>
    simp only [attachGeneration]
    split
    · rename_i hcache
      simp [hcache.1]
    · simp only [List.filter_cons]
      split
      · rw [List.map_cons,List.map_cons,ih]
      · exact ih

theorem attachGenerations_sources (entries : List (String × PreparedCacheEntry))
    (mounts : List MountBinding) :
    ((entries.foldl (fun mounts entry => attachGeneration mounts entry.2) mounts).filter
        (·.purpose = .artifact)).map (·.source) =
      (mounts.filter (·.purpose = .artifact)).map (·.source) := by
  induction entries generalizing mounts with
  | nil => rfl
  | cons entry entries ih => rw [List.foldl_cons,ih,attachGeneration_sources]

variable {crates : Crates} {envelope : ExecutionPlanEnvelopeV1} {root : ResolvedCacheRoot}
  {checkout : Checkout} {repository : HostPath}

theorem buildWithCacheSources_ok {digest : Option String} {plan : WorkspacePlanV1}
    (hroot : root.workspacePath envelope.planDigest = .ok runRoot)
    (h : WorkspacePlanV1.buildWithCacheSources crates envelope root checkout repository sources
      digest = .ok plan) :
    plan.runRoot = runRoot ∧ plan.artifactSources =
      envelope.plan.declaredArtifacts.map fun item => artifactSource runRoot item.2 := by
  obtain ⟨repository,-,h⟩ := except_bind_eq_ok.1 h
  dsimp only at h
  obtain ⟨-,h⟩ := except_guard_eq_ok.1 h
  obtain ⟨⟨⟩,-,h⟩ := except_bind_eq_ok.1 h
  obtain ⟨runRoot₁,hrunRoot,h⟩ := except_bind_eq_ok.1 h
  rw [hroot] at hrunRoot
  obtain rfl : runRoot = runRoot₁ := Except.ok.inj hrunRoot
  obtain ⟨⟨⟩,-,h⟩ := except_bind_eq_ok.1 h
  obtain ⟨result,hcaches,h⟩ := except_bind_eq_ok.1 h
  obtain ⟨artifacts,hartifacts,h⟩ := except_bind_eq_ok.1 h
  obtain rfl := Except.ok.inj h
  refine ⟨rfl,?_⟩
  have hnone : result.1.filter (·.purpose = .artifact) = [] :=
    List.filter_eq_nil_iff.2 fun mount hmount => by simp [cacheMounts_ok hcaches mount hmount]
  rw [WorkspacePlanV1.artifactSources]
  simpa [hnone] using artifactMounts_ok hartifacts

theorem prepareMounts_ok {plan : WorkspacePlanV1}
    (hroot : root.workspacePath envelope.planDigest = .ok runRoot)
    (h : (prepareMounts crates envelope root checkout repository runRoot entries).run.exec
      (Disk.perform pid) disk = (.ok plan,disk')) :
    (prepareArtifacts runRoot envelope.plan.declaredArtifacts).run.exec (Disk.perform pid) disk =
        (.ok (),disk') ∧
      plan.runRoot = runRoot ∧ plan.artifactSources =
        envelope.plan.declaredArtifacts.map fun item => artifactSource runRoot item.2 := by
  obtain ⟨⟨⟩,disk₁,hartifacts,h⟩ := (exec_run_bind_eq_ok _).1 h
  obtain ⟨built,disk₂,hbuilt,h⟩ := (exec_run_bind_eq_ok _).1 h
  obtain ⟨hbuild,rfl⟩ := Prod.mk.inj hbuilt
  obtain ⟨hplan,rfl⟩ := Prod.mk.inj h
  obtain rfl := Except.ok.inj hplan
  obtain ⟨hrunRoot,hsources⟩ := buildWithCacheSources_ok hroot hbuild
  refine ⟨hartifacts,hrunRoot,?_⟩
  exact (attachGenerations_sources entries _).trans hsources

theorem uses_prepareCaches :
    (prepareCaches crates envelope root pid generation entries caches).Uses
      (FileOp.Keeps (root.path++[entriesDir] <+: ·) fun _ => True) := by
  induction caches generalizing entries with
  | nil => exact .done _
  | cons declared caches ih =>
    have hentry : ∀ key q, root.entryPath key <+: q → root.path++[entriesDir] <+: q := by
      intro key q hq
      refine List.IsPrefix.trans ⟨[.ofStr key.directoryName],?_⟩ hq
      simp [ResolvedCacheRoot.entryPath]
    refine uses_bind_of_returns (uses_prepareEntry (hentry _) trivial) yields_prepareEntry
      fun outcome houtcome => ?_
    split
    · exact .done _
    · rename_i prepared
      obtain ⟨sequence,hstaging⟩ := (houtcome prepared rfl).staging
      split
      · have hbelow : ∀ q, prepared.stagingPath <+: q → root.path++[entriesDir] <+: q := by
          intro q hq
          rw [hstaging] at hq
          exact hentry _ q ((List.prefix_append _ _).trans hq)
        exact uses_bind (uses_dropPreparedEntry hbelow trivial) fun _ => .done _
      · exact ih

theorem workspacePath_eq_ok {planDigest : String} (h : root.workspacePath planDigest = .ok runRoot) :
    ∃ name, runRoot = root.path++[workspacesDir,name] := by
  unfold ResolvedCacheRoot.workspacePath at h
  split at h
  · exact ⟨_,(Except.ok.inj h).symm⟩
  · simp at h

/-- Nothing but the preparation of the artifacts writes at their mount sources. -/
theorem artifactSource_apart {planDigest : String}
    (hroot : root.workspacePath planDigest = .ok runRoot) (hproper : ProperPath artifact) :
    ¬ artifactSource runRoot artifact <+: runRoot ∧
      (¬ runRoot++[runLockFile] <+: artifactSource runRoot artifact ∧
        ¬ artifactSource runRoot artifact <+: runRoot++[runLockFile]) ∧
      ∀ path, root.path++[entriesDir] <+: path → ¬ path <+: artifactSource runRoot artifact ∧
        ¬ artifactSource runRoot artifact <+: path := by
  have hlock : runLockFile ≠ artifactsDir := fun h => absurd (OsString.ofStr_injective h) (by decide)
  have hentries : entriesDir ≠ workspacesDir :=
    fun h => absurd (OsString.ofStr_injective h) (by decide)
  obtain ⟨name,rfl⟩ := workspacePath_eq_ok hroot
  rw [artifactSource_eq hproper]
  refine ⟨fun h => ?_,⟨fun h => ?_,fun h => ?_⟩,fun path hpath => ⟨fun h => ?_,fun h => ?_⟩⟩
  · have hlength := h.length_le
    simp at hlength
  · rw [List.prefix_append_right_inj,List.cons_prefix_cons] at h
    exact hlock h.1
  · rw [List.prefix_append_right_inj,List.cons_prefix_cons] at h
    exact hlock h.1.symm
  · have hbelow := hpath.trans h
    rw [List.append_assoc,List.prefix_append_right_inj,List.cons_append,List.cons_prefix_cons] at hbelow
    exact hentries hbelow.1
  · rcases List.prefix_or_prefix_of_prefix hpath h with hbelow | hbelow
    · rw [List.append_assoc,List.prefix_append_right_inj,List.cons_append,List.cons_prefix_cons] at hbelow
      exact hentries hbelow.1
    · rw [List.append_assoc,List.prefix_append_right_inj,List.cons_append,List.cons_prefix_cons] at hbelow
      exact hentries hbelow.1.symm

theorem uses_acquire : (WorkspaceLock.acquire pid runRoot).run.Uses
    (FileOp.Keeps (· = runRoot++[runLockFile]) fun _ => True) := by
  have hcreate : (createLockFile (runRoot++[runLockFile])).run.Uses
      (FileOp.Keeps (· = runRoot++[runLockFile]) fun _ => True) := by
    refine uses_run_bind (uses_lift (uses_createNew rfl)) fun outcome => ?_
    split <;> exact .done _
  refine uses_run_bind (uses_lift uses_fetchAdd) fun sequence => ?_
  refine uses_run_bind hcreate fun _ => ?_
  refine uses_run_bind (uses_attempt (uses_passOn (uses_append rfl))) fun outcome => ?_
  split
  · exact .done _
  · exact uses_run_bind (uses_lift (uses_removeFile rfl)) fun _ => .done _

theorem prepareUnderLock_ok {result : WorkspacePlanV1 × List PreparedCacheEntry}
    (h : (prepareUnderLock crates envelope root pid generation checkout repository runRoot).run.exec
      (Disk.perform pid) disk = (.ok result,disk')) :
    ∃ disk₁, ((prepareCaches crates envelope root pid generation [] envelope.plan.caches).exec
        (Disk.perform pid) disk).2 = disk₁ ∧ ∃ entries,
      (prepareMounts crates envelope root checkout repository runRoot entries).run.exec
        (Disk.perform pid) disk₁ = (.ok result.1,disk') := by
  rw [prepareUnderLock,exec_lift_bind] at h
  rcases hcaches : (prepareCaches crates envelope root pid generation [] envelope.plan.caches).exec
    (Disk.perform pid) disk with ⟨⟨outcome,entries⟩,disk₁⟩
  rw [hcaches] at h
  refine ⟨disk₁,rfl,entries,?_⟩
  obtain ⟨plan,disk₂,hattempt,h⟩ := (exec_run_bind_eq_ok _).1 h
  rw [exec_attempt] at hattempt
  obtain ⟨hplan,rfl⟩ := Prod.mk.inj hattempt
  rcases plan with e | plan
  · obtain ⟨_,_,-,h⟩ := (exec_run_bind_eq_ok _).1 h
    exact absurd (Prod.mk.inj h).1 (by simp)
  obtain ⟨hresult,rfl⟩ := Prod.mk.inj h
  obtain rfl := Except.ok.inj hresult
  obtain ⟨⟨⟩,disk₃,hok,hmounts⟩ := (exec_run_bind_eq_ok _).1 (Prod.ext (Except.ok.inj hplan) rfl)
  obtain ⟨-,rfl⟩ := Prod.mk.inj hok
  exact hmounts

theorem prepareWithGeneration_ok {workspace : PreparedWorkspace}
    (hroot : root.workspacePath envelope.planDigest = .ok runRoot)
    (hproper : ∀ item ∈ envelope.plan.declaredArtifacts, ProperPath item.2)
    (hapart : envelope.plan.declaredArtifacts.Pairwise fun a b => Apart a.2 b.2)
    (h : (PreparedWorkspace.prepareWithGeneration crates envelope root pid generation checkout
      repository).run.exec (Disk.perform pid) disk = (.ok workspace,disk')) :
    workspace.plan.runRoot = runRoot ∧
      workspace.plan.artifactSources =
        envelope.plan.declaredArtifacts.map (fun item => artifactSource runRoot item.2) ∧
      ∀ item ∈ envelope.plan.declaredArtifacts,
        get (artifactSource runRoot item.2) disk'.root = some (preparedNode
          (artifactKindFor item.1 item.2) (get (artifactSource runRoot item.2) disk.root)) ∧
        (artifactKindFor item.1 item.2 = .directory →
          IsDirectory (get (artifactSource runRoot item.2) disk'.root)) := by
  obtain ⟨⟨⟩,disk₁,hvalid,h⟩ := (exec_run_bind_eq_ok _).1 h
  obtain ⟨-,rfl⟩ := Prod.mk.inj hvalid
  obtain ⟨runRoot₁,disk₂,hpath,h⟩ := (exec_run_bind_eq_ok _).1 h
  obtain ⟨hrunRoot,rfl⟩ := Prod.mk.inj hpath
  rw [hroot] at hrunRoot
  obtain rfl : runRoot = runRoot₁ := Except.ok.inj hrunRoot
  obtain ⟨⟨⟩,disk₂,hchain,h⟩ := (exec_run_bind_eq_ok _).1 h
  obtain ⟨lock,disk₃,hlock,h⟩ := (exec_run_bind_eq_ok _).1 h
  obtain ⟨outcome,disk₄,hunder,h⟩ := (exec_run_bind_eq_ok _).1 h
  rw [exec_attempt] at hunder
  obtain ⟨houtcome,rfl⟩ := Prod.mk.inj hunder
  have hunlocked := Except.ok.inj houtcome
  rcases outcome with e | ⟨plan,entries⟩
  · obtain ⟨_,_,-,h⟩ := (exec_run_bind_eq_ok _).1 h
    exact absurd (Prod.mk.inj h).1 (by simp)
  obtain ⟨hworkspace,rfl⟩ := Prod.mk.inj h
  obtain rfl := Except.ok.inj hworkspace
  obtain ⟨disk₅,hcaches,entries,hmounts⟩ := prepareUnderLock_ok (Prod.ext hunlocked rfl)
  obtain ⟨hartifacts,hplan,hsources⟩ := prepareMounts_ok hroot hmounts
  refine ⟨hplan,hsources,fun item hitem => ?_⟩
  obtain ⟨hrun,⟨hlock₁,hlock₂⟩,hentries⟩ := artifactSource_apart hroot (hproper item hitem)
  have hkept : get (artifactSource runRoot item.2) disk₅.root =
      get (artifactSource runRoot item.2) disk.root := calc
    _ = get (artifactSource runRoot item.2) disk₃.root := by
      rw [← hcaches]
      exact Disk.get_exec uses_prepareCaches hentries
    _ = get (artifactSource runRoot item.2) disk₂.root := by
      have hframe : get (artifactSource runRoot item.2)
          ((WorkspaceLock.acquire pid runRoot).run.exec (Disk.perform pid) disk₂).2.root =
            get (artifactSource runRoot item.2) disk₂.root :=
        Disk.get_exec uses_acquire (by rintro _ rfl; exact ⟨hlock₁,hlock₂⟩)
      rwa [hlock] at hframe
    _ = get (artifactSource runRoot item.2) disk.root :=
      (createManagedDirectoryChain_ok hchain).1 _ hrun
  rw [← hkept]
  exact prepareArtifacts_ok hproper hapart hartifacts item hitem

end Prepare

end CommitCiPreflight
