import CommitCiPreflight.MatrixSpec
import Mathlib.Data.List.Pairwise

/-! The overlay of a matrix run: one tree that has a place for the caches and artifacts of all
runtimes. Paths are isolated within a runtime, and not between two of them. -/
namespace CommitCiPreflight

open Program FileTree

def namesOf (path : String) : HostPath := (segments path).map OsString.ofStr

theorem namesOf_prefix_iff {p q : String} :
    namesOf p <+: namesOf q ↔ segments p <+: segments q :=
  List.prefix_map_iff_of_injective OsString.ofStr_injective

theorem strictlyAbove_namesOf {p q : String} :
    StrictlyAbove (namesOf p) (namesOf q) ↔ StrictlyAbove (segments p) (segments q) := by
  have hinjective : Function.Injective (List.map OsString.ofStr) :=
    List.map_injective_iff.2 OsString.ofStr_injective
  exact and_congr namesOf_prefix_iff hinjective.ne_iff

theorem namesOf_ne_nil (path : String) : namesOf path ≠ [] := by
  simpa [namesOf] using segments_ne_nil path

theorem namesOf_eq_concat (path : String) : ∃ above name, namesOf path = above++[name] :=
  (List.eq_nil_or_concat' (namesOf path)).resolve_left (namesOf_ne_nil path)

section Step

variable {pid : ℕ} {disk : Disk OsString} {root : HostPath} {dirs files : List HostPath}
  {path : String}

theorem exec_writeNewFile {parent : HostPath} {name : OsString}
    (hparent : IsDirectory (get parent disk.root)) (habsent : get (parent++[name]) disk.root = none) :
    (writeNewFile (parent++[name]) []).run.exec (Disk.perform pid) disk =
      (.ok (),disk.setRoot (put (some (.file [])) (parent++[name]) disk.root)) := by
  have hcreate : (Files.createNew (parent++[name])).exec (Disk.perform pid) disk =
      (.ok (),disk.setRoot (put (some (.file [])) (parent++[name]) disk.root)) :=
    Disk.create_of_absent hparent habsent
  have hget : get (parent++[name]) (put (some (.file [])) (parent++[name]) disk.root) =
      some (.file []) := get_put_self _ (hasParent_append_singleton.2 hparent)
  generalize htree : put (some (.file [])) (parent++[name]) disk.root = tree at hcreate hget ⊢
  have happend : (Files.append (parent++[name]) []).exec (Disk.perform pid) (disk.setRoot tree) =
      (.ok (),disk.setRoot tree) := by
    have hput : put (some (.file [])) (parent++[name]) tree = tree := by rw [← htree,put_put]
    change Disk.edit (disk.setRoot tree) (parent++[name]) (·++[]) = _
    rw [Disk.edit,Disk.setRoot,stat_of_get hget]
    exact congrArg (fun root => (Except.ok (),disk.setRoot root)) hput
  have hsync : (Files.sync (parent++[name])).exec (Disk.perform pid) (disk.setRoot tree) =
      (.ok (),disk.setRoot tree) := by
    change ((stat (parent++[name]) tree).map fun _ => (),disk.setRoot tree) = _
    rw [stat_of_get hget]
    rfl
  rw [writeNewFile,Disk.exec_passOn_bind hcreate,Disk.exec_passOn_bind happend]
  exact Disk.exec_passOn_eq_ok.2 hsync

theorem exec_overlayCache {cache : NormalizedCache} (hproper : ProperPath cache.mountPath)
    (hstaged : Staged root dirs files disk.root)
    (hapart : ∀ f ∈ files, ¬ f <+: namesOf cache.mountPath ∧ ¬ namesOf cache.mountPath <+: f) :
    ∃ tree, (overlayCache root cache).run.exec (Disk.perform pid) disk = (.ok (),disk.setRoot tree) ∧
      Staged root (dirs++[namesOf cache.mountPath]) files tree := by
  have htarget : root.join cache.mountPath = root++namesOf cache.mountPath :=
    HostPath.join_eq hproper
  have hne := namesOf_ne_nil cache.mountPath
  rw [overlayCache,htarget,exec_lift_bind]
  cases hthere : get (root++namesOf cache.mountPath) disk.root with
  | some node =>
    have hcovered : ∃ d ∈ dirs, namesOf cache.mountPath <+: d := by
      obtain ⟨p,hp,hbelow⟩ := (hstaged.occupied _ hne).1 (by simp [hthere])
      rcases List.mem_append.1 hp with hp | hp
      · exact ⟨p,hp,hbelow⟩
      · exact absurd hbelow (hapart p hp).2
    obtain ⟨entries,hentries⟩ := (hstaged.directory _ hne).2 (Or.inl hcovered)
    rw [exec_pathExists_of_get hentries (by simp)]
    exact ⟨disk.root,rfl,hstaged.add_dir_there hcovered⟩
  | none =>
    have hpassable := hstaged.passable fun f hf hbelow => absurd hbelow (hapart f hf).1
    obtain ⟨tree,hexec,hextended⟩ := Disk.exec_createDirAll_ok hstaged.root hpassable
    rw [exec_pathExists_of_none hthere]
    exact ⟨tree,Disk.exec_passOn_eq_ok.2 hexec,hstaged.add_dir hextended⟩

theorem parent_of_names {above : HostPath} {name : OsString} :
    HostPath.parent (root++(above++[name])) = some (root++above) := by
  rw [← List.append_assoc,HostPath.parent,if_neg (by simp),List.dropLast_concat]

theorem not_symlink_of_ordinary {node : FileTree OsString} (h : Ordinary (some node))
    (target : List UInt8) : node ≠ .symlink target := by
  rintro rfl
  rcases h with ⟨_,h⟩ | ⟨_,h⟩
  · cases h
  · cases h

theorem exec_overlayArtifact_ok {overlay : MountOverlay} {item : NormalizedCheck × String}
    (hproper : ProperPath item.2) (hkind : artifactKindFor item.1 item.2 = .regularFile)
    (hstaged : Staged root dirs files disk.root)
    (hway : ∀ f ∈ files, StrictlyAbove f (namesOf item.2) → Staged.Open dirs files f)
    (hordinary : namesOf item.2 ∈ files → Ordinary (get (root++namesOf item.2) disk.root)) :
    ∃ overlay' tree, (overlayArtifact root overlay item).run.exec (Disk.perform pid) disk =
        (.ok overlay',disk.setRoot tree) ∧
      Staged root dirs (files++[namesOf item.2]) tree ∧
      Ordinary (get (root++namesOf item.2) tree) ∧
      ∀ q, Ordinary (get (root++q) disk.root) → Ordinary (get (root++q) tree) := by
  have htarget : root.join item.2 = root++namesOf item.2 := HostPath.join_eq hproper
  obtain ⟨above,name,hnames⟩ := namesOf_eq_concat item.2
  rw [overlayArtifact,htarget,exec_lift_bind,hkind]
  rw [hnames] at hway hordinary ⊢
  have hne : above++[name] ≠ [] := by simp
  cases hthere : get (root++(above++[name])) disk.root with
  | some node =>
    have hplain := hstaged.ordinary hne (by simp [hthere]) hordinary
    rw [hthere] at hplain
    rw [exec_pathExists_of_get hthere (not_symlink_of_ordinary hplain)]
    refine ⟨overlay,disk.root,rfl,hstaged.add_file_there ?_,hthere ▸ hplain,fun _ => id⟩
    exact (hstaged.occupied _ hne).1 (by simp [hthere])
  | none =>
    have habsent : ¬ ∃ p ∈ dirs++files, above++[name] <+: p := by
      rw [← hstaged.occupied _ hne]
      simp [hthere]
    have hpassable := hstaged.passable (a := above) fun f hf hbelow => by
      refine hway f hf ⟨hbelow.trans (List.prefix_append _ _),?_⟩
      rintro rfl
      exact not_concat_above hbelow
    obtain ⟨tree,hexec,hextended⟩ := Disk.exec_createDirAll_ok hstaged.root hpassable
    have hparent := hextended.chain _ List.prefix_rfl
    have hfree : get (root++above++[name]) tree = none := by
      rw [hextended.frame _ not_concat_above,List.append_assoc]
      exact hthere
    have hfile : (overlayFile (root++(above++[name]))).run.exec (Disk.perform pid) disk =
        (.ok (),disk.setRoot (put (some (.file [])) (root++(above++[name])) tree)) := by
      rw [overlayFile,parent_of_names]
      dsimp only
      rw [Disk.exec_passOn_bind hexec,← List.append_assoc]
      exact exec_writeNewFile hparent hfree
    rw [exec_pathExists_of_none hthere]
    exact ⟨_,_,exec_run_bind_ok _ hfile,hstaged.add_file habsent hextended,
      Or.inr ⟨[],(hextended.below_file hthere).2.1⟩,fun _ => hextended.ordinary hthere⟩

theorem exec_overlayArtifact_error {overlay : MountOverlay} {item : NormalizedCheck × String}
    {f : HostPath} (hproper : ProperPath item.2)
    (hkind : artifactKindFor item.1 item.2 = .regularFile)
    (hstaged : Staged root dirs files disk.root)
    (habsent : ¬ ∃ p ∈ dirs++files, namesOf item.2 <+: p) (hroot : f ≠ [])
    (hordinary : Ordinary (get (root++f) disk.root)) (habove : StrictlyAbove f (namesOf item.2))
    (hclosed : ¬ Staged.Open dirs files f) :
    ∃ e disk', (overlayArtifact root overlay item).run.exec (Disk.perform pid) disk =
      (.error e,disk') := by
  have htarget : root.join item.2 = root++namesOf item.2 := HostPath.join_eq hproper
  obtain ⟨above,name,hnames⟩ := namesOf_eq_concat item.2
  rw [overlayArtifact,htarget,exec_lift_bind,hkind]
  rw [hnames] at habove habsent ⊢
  have hdirectory : ¬ IsDirectory (get (root++f) disk.root) :=
    fun hdirectory => hclosed ((hstaged.directory f hroot).1 hdirectory)
  obtain ⟨content,hfile⟩ := hordinary.resolve_left hdirectory
  have hway : root++f <+: root++above := by
    rw [List.prefix_append_right_inj]
    exact (List.prefix_concat_iff.1 habove.1).resolve_left habove.2
  obtain ⟨e,disk',hexec⟩ : ∃ e disk', (Files.createDirAll (root++above)).exec (Disk.perform pid)
      disk = (.error e,disk') := Disk.exec_createDirAll_error hway hfile
  have hfailed : (overlayFile (root++(above++[name]))).run.exec (Disk.perform pid) disk =
      (.error (.io e),disk') := by
    rw [overlayFile,parent_of_names]
    dsimp only
    refine exec_run_bind_error _ ?_
    rw [Disk.exec_passOn,hexec]
    rfl
  rw [exec_pathExists_of_none (hstaged.absent (by simp) habsent)]
  exact ⟨_,_,exec_run_bind_error _ hfailed⟩

end Step

/-- Two lists of paths, none of which contains one of the other list. -/
def Separate (ps qs : List HostPath) : Prop := ∀ p ∈ ps, ∀ q ∈ qs, ¬ p <+: q ∧ ¬ q <+: p

section Run

variable {pid : ℕ} {disk : Disk OsString} {root : HostPath} {dirs files : List HostPath}
  {overlay : MountOverlay}

theorem exec_overlayCaches {caches : List NormalizedCache}
    (hproper : ∀ cache ∈ caches, ProperPath cache.mountPath)
    (hapart : Separate files (caches.map (namesOf ·.mountPath)))
    (hstaged : Staged root dirs files disk.root) :
    ∃ tree, (caches.forM (overlayCache root)).run.exec (Disk.perform pid) disk =
        (.ok (),disk.setRoot tree) ∧
      Staged root (dirs++caches.map (namesOf ·.mountPath)) files tree := by
  induction caches generalizing dirs disk with
  | nil => exact ⟨disk.root,rfl,by simpa using hstaged⟩
  | cons cache caches ih =>
    obtain ⟨hfirst,hrest⟩ := List.forall_mem_cons.1 hproper
    have hfirstApart : ∀ f ∈ files,
        ¬ f <+: namesOf cache.mountPath ∧ ¬ namesOf cache.mountPath <+: f :=
      fun f hf => hapart f hf _ (by simp)
    obtain ⟨tree,hexec,hnext⟩ := exec_overlayCache hfirst hstaged hfirstApart
    have hrestApart : Separate files (caches.map (namesOf ·.mountPath)) :=
      fun f hf q hq => hapart f hf q (List.mem_cons_of_mem _ hq)
    obtain ⟨tree',hexec',hlast⟩ : ∃ tree', (caches.forM (overlayCache root)).run.exec
        (Disk.perform pid) (disk.setRoot tree) = (.ok (),(disk.setRoot tree).setRoot tree') ∧ _ :=
      ih hrest hrestApart hnext
    refine ⟨tree',(exec_forM_eq_ok _).2 ⟨_,hexec,hexec'⟩,?_⟩
    simpa using hlast

section Next

variable {tracked done : List HostPath} {item : NormalizedCheck × String}
  (hproper : ProperPath item.2) (hkind : artifactKindFor item.1 item.2 = .regularFile)
  (hnone : ∀ p ∈ dirs++tracked, ¬ p <+: namesOf item.2 ∧ ¬ namesOf item.2 <+: p)
  (hstaged : Staged root dirs (tracked++done) disk.root)
  (hordinary : ∀ f ∈ done, Ordinary (get (root++f) disk.root))
include hproper hkind hnone hstaged hordinary

theorem exec_overlayArtifact_next
    (hway : ∀ f ∈ done, StrictlyAbove f (namesOf item.2) → ∃ g ∈ done, StrictlyAbove f g) :
    ∃ overlay' tree, (overlayArtifact root overlay item).run.exec (Disk.perform pid) disk =
        (.ok overlay',disk.setRoot tree) ∧
      Staged root dirs (tracked++(done++[namesOf item.2])) tree ∧
      ∀ f ∈ done++[namesOf item.2], Ordinary (get (root++f) tree) := by
  have hopen : ∀ f ∈ tracked++done, StrictlyAbove f (namesOf item.2) →
      Staged.Open dirs (tracked++done) f := by
    intro f hf habove
    rcases List.mem_append.1 hf with hf | hf
    · exact absurd habove.1 (hnone f (List.mem_append_right _ hf)).1
    · obtain ⟨g,hg,hfg⟩ := hway f hf habove
      exact Or.inr ⟨g,List.mem_append_right _ hg,hfg⟩
  have hsame : namesOf item.2 ∈ tracked++done →
      Ordinary (get (root++namesOf item.2) disk.root) := by
    intro hitem
    rcases List.mem_append.1 hitem with hitem | hitem
    · exact absurd List.prefix_rfl (hnone _ (List.mem_append_right _ hitem)).1
    · exact hordinary _ hitem
  obtain ⟨overlay',tree,hexec,hnext,hitem,hkept⟩ : ∃ overlay' tree,
      (overlayArtifact root overlay item).run.exec (Disk.perform pid) disk =
        (.ok overlay',disk.setRoot tree) ∧ _ :=
    exec_overlayArtifact_ok hproper hkind hstaged hopen hsame
  rw [List.append_assoc] at hnext
  refine ⟨overlay',tree,hexec,hnext,fun f hf => ?_⟩
  rcases List.mem_append.1 hf with hf | hf
  · exact hkept f (hordinary f hf)
  · exact List.mem_singleton.1 hf ▸ hitem

theorem exec_overlayArtifact_blocked {f : HostPath} (hroot : f ≠ [])
    (hearlier : ∀ p ∈ dirs++tracked, ¬ f <+: p) (hf : f ∈ done)
    (habove : StrictlyAbove f (namesOf item.2)) (halone : ∀ g ∈ done, ¬ StrictlyAbove f g) :
    ∃ e disk', (overlayArtifact root overlay item).run.exec (Disk.perform pid) disk =
      (.error e,disk') := by
  have habsent : ¬ ∃ p ∈ dirs++(tracked++done), namesOf item.2 <+: p := by
    rintro ⟨p,hp,hbelow⟩
    rw [← List.append_assoc] at hp
    rcases List.mem_append.1 hp with hp | hp
    · exact (hnone p hp).2 hbelow
    · exact halone p hp (habove.trans_below hbelow)
  have hclosed : ¬ Staged.Open dirs (tracked++done) f := by
    rintro (⟨d,hd,hfd⟩ | ⟨g,hg,hfg⟩)
    · exact hearlier d (List.mem_append_left _ hd) hfd
    · rcases List.mem_append.1 hg with hg | hg
      · exact hearlier g (List.mem_append_right _ hg) hfg.1
      · exact halone g hg hfg
  exact exec_overlayArtifact_error hproper hkind hstaged habsent hroot (hordinary f hf) habove
    hclosed

end Next

/-- The files are staged, all of them exactly if none is in the way of a later one. -/
structure Stages {ε : Type} (outcome : Except ε MountOverlay × Disk OsString) (root : HostPath)
    (dirs tracked done files : List HostPath) : Prop where
  ok : Stageable done files → ∃ overlay disk, outcome = (.ok overlay,disk) ∧
    Staged root dirs (tracked++(done++files)) disk.root ∧
    ∀ f ∈ done++files, Ordinary (get (root++f) disk.root)
  error : ¬ Stageable done files → ∃ e disk, outcome = (.error e,disk)

theorem exec_overlayArtifacts {items : List (NormalizedCheck × String)}
    {tracked done : List HostPath} (hproper : ∀ item ∈ items, ProperPath item.2)
    (hkinds : ∀ item ∈ items, artifactKindFor item.1 item.2 = .regularFile)
    (hapart : Separate (dirs++tracked) (done++items.map (namesOf ·.2))) (hdone : [] ∉ done)
    (hstaged : Staged root dirs (tracked++done) disk.root)
    (hordinary : ∀ f ∈ done, Ordinary (get (root++f) disk.root)) :
    Stages ((overlayArtifacts root overlay items).run.exec (Disk.perform pid) disk) root dirs
      tracked done (items.map (namesOf ·.2)) := by
  induction items generalizing done overlay disk with
  | nil =>
    refine ⟨fun _ => ⟨overlay,disk,rfl,?_,?_⟩,fun h => absurd trivial h⟩
    · simpa using hstaged
    · simpa using hordinary
  | cons item items ih =>
    obtain ⟨hfirst,hproper⟩ := List.forall_mem_cons.1 hproper
    obtain ⟨hkind,hkinds⟩ := List.forall_mem_cons.1 hkinds
    rw [List.map_cons] at hapart ⊢
    have hnone : ∀ p ∈ dirs++tracked, ¬ p <+: namesOf item.2 ∧ ¬ namesOf item.2 <+: p :=
      fun p hp => hapart p hp _ (by simp)
    by_cases hway : ∀ f ∈ done, StrictlyAbove f (namesOf item.2) → ∃ g ∈ done, StrictlyAbove f g
    · obtain ⟨overlay',tree,hexec,hnext,hplaced⟩ : ∃ overlay' tree,
          (overlayArtifact root overlay item).run.exec (Disk.perform pid) disk =
            (.ok overlay',disk.setRoot tree) ∧ _ :=
        exec_overlayArtifact_next hfirst hkind hnone hstaged hordinary hway
      have hrest : Stages ((overlayArtifacts root overlay' items).run.exec (Disk.perform pid)
          (disk.setRoot tree)) root dirs tracked (done++[namesOf item.2])
            (items.map (namesOf ·.2)) := by
        refine ih hproper hkinds ?_ ?_ hnext hplaced
        · simpa using hapart
        · simpa [namesOf] using ⟨hdone,segments_ne_nil item.2⟩
      have happend : done++namesOf item.2::items.map (namesOf ·.2) =
        (done++[namesOf item.2])++items.map (namesOf ·.2) := List.append_cons _ _ _
      rw [overlayArtifacts,exec_run_bind_ok _ hexec]
      refine ⟨fun h => ?_,fun h => hrest.error fun hstageable => h ⟨hway,hstageable⟩⟩
      rw [happend]
      exact hrest.ok h.2
    · refine ⟨fun h => absurd h.1 hway,fun _ => ?_⟩
      push Not at hway
      obtain ⟨f,hf,habove,halone⟩ := hway
      obtain ⟨e,disk',hexec⟩ : ∃ e disk', (overlayArtifact root overlay item).run.exec
          (Disk.perform pid) disk = (.error e,disk') :=
        exec_overlayArtifact_blocked hfirst hkind hnone hstaged hordinary (fun he => hdone (he ▸ hf))
          (fun p hp => (hapart p hp f (List.mem_append_left _ hf)).2) hf habove halone
      exact ⟨e,disk',by rw [overlayArtifacts,exec_run_bind_error _ hexec]⟩

theorem exec_prepareMountOverlay {envelope : ExecutionPlanEnvelopeV1} {tracked : List HostPath}
    (hproper : ∀ path ∈ envelope.plan.mountedPaths, ProperPath path)
    (hkinds : ∀ check ∈ envelope.plan.checks, ∀ path, artifactKindFor check path = .regularFile)
    (htracked : Separate tracked (envelope.plan.mountedPaths.map namesOf))
    (hcaches : Separate (envelope.plan.caches.map (namesOf ·.mountPath))
      (envelope.plan.declaredArtifacts.map (namesOf ·.2)))
    (hstaged : Staged root [] tracked disk.root) :
    Stages ((prepareMountOverlay root overlay envelope).run.exec (Disk.perform pid) disk) root
      (envelope.plan.caches.map (namesOf ·.mountPath)) tracked []
      (envelope.plan.declaredArtifacts.map (namesOf ·.2)) := by
  rw [ExecutionPlanV1.mountedPaths,List.map_append,List.map_map,List.map_map] at htracked
  obtain ⟨hcachesProper,hartifactsProper⟩ := List.forall_mem_append.1 hproper
  rw [List.forall_mem_map] at hcachesProper hartifactsProper
  obtain ⟨tree,hexec,hnext⟩ : ∃ tree, (envelope.plan.caches.forM (overlayCache root)).run.exec
      (Disk.perform pid) disk = (.ok (),disk.setRoot tree) ∧ _ :=
    exec_overlayCaches hcachesProper
      (fun f hf q hq => htracked f hf q (List.mem_append_left _ hq)) hstaged
  rw [← List.append_nil tracked] at hnext
  rw [prepareMountOverlay,exec_run_bind_ok _ hexec]
  refine exec_overlayArtifacts hartifactsProper ?_ ?_ (by simp) hnext (by simp)
  · intro item hitem
    obtain ⟨check,hcheck,hitem⟩ := List.mem_flatMap.1 hitem
    obtain ⟨path,-,rfl⟩ := List.mem_map.1 hitem
    exact hkinds check hcheck path
  · rw [List.nil_append]
    intro p hp q hq
    rcases List.mem_append.1 hp with hp | hp
    · exact hcaches p hp q hq
    · exact htracked p hp q (List.mem_append_right _ hq)

end Run

section Items

variable {crates : Crates} {config : MatrixConfigV2}
  {groups : List (String × ExecutionPlanEnvelopeV1)} {plan : MatrixPlanV2}
  {combined : ExecutionPlanV1}

/-- The artifacts in the order they are staged, each with its runtime. -/
def stagedItems (groups : List (String × ExecutionPlanEnvelopeV1)) : List (String × HostPath) :=
  groups.flatMap fun group =>
    (group.2.plan.checks.flatMap (·.artifacts)).map fun path => (group.1,namesOf path)

theorem stagedItems_map (h : combined.checks = groups.flatMap (·.2.plan.checks)) :
    (stagedItems groups).map (·.2) = combined.declaredArtifacts.map (namesOf ·.2) := by
  have hpaths : combined.declaredArtifacts.map (namesOf ·.2) =
      (combined.declaredArtifacts.map Prod.snd).map namesOf := by
    rw [List.map_map]
    rfl
  rw [hpaths,declaredArtifacts_map,h,stagedItems]
  simp [List.map_flatMap,List.flatMap_assoc,Function.comp_def]

/-- The declared cache mounts and artifacts of all runtimes. -/
def MatrixConfigV2.mountedPaths (config : MatrixConfigV2) : List String :=
  config.caches.map (·.mountPath)++config.checks.flatMap (·.artifacts)

/-- Where an artifact of one runtime lies above one of another, a runtime that comes before both
has an artifact below it as well. -/
def MatrixConfigV2.Stageable (config : MatrixConfigV2) : Prop :=
  ∀ check ∈ config.checks, ∀ path ∈ check.artifacts,
    ∀ other ∈ config.checks, ∀ below ∈ other.artifacts,
      StrictlyAbove (segments path) (segments below) →
        ∃ earlier ∈ config.checks, earlier.runtimeId < check.runtimeId ∧
          ∃ first ∈ earlier.artifacts, StrictlyAbove (segments path) (segments first)

variable (h : config.Accepted crates groups plan)
include h

theorem mem_stagedItems {item : String × HostPath} :
    item ∈ stagedItems groups ↔ ∃ check ∈ config.checks, ∃ path ∈ check.artifacts,
      item = (check.runtimeId,namesOf path) := by
  rw [stagedItems,List.mem_flatMap]
  constructor
  · rintro ⟨group,hgroup,hitem⟩
    obtain ⟨path,hpath,rfl⟩ := List.mem_map.1 hitem
    obtain ⟨check,hcheck,hid,hpath⟩ := (mem_groupArtifacts h hgroup).1 hpath
    exact ⟨check,hcheck,path,hpath,by rw [hid]⟩
  · rintro ⟨check,hcheck,path,hpath,rfl⟩
    obtain ⟨group,hgroup,hid⟩ := exists_group h hcheck
    refine ⟨group,hgroup,List.mem_map.2 ⟨path,?_,by rw [hid]⟩⟩
    exact (mem_groupArtifacts h hgroup).2 ⟨check,hcheck,hid.symm,hpath⟩

theorem groups_sorted :
    groups.Pairwise (·.1 < ·.1) := by
  have hkeys : config.runtimesById.keys.Pairwise (· < ·) :=
    List.pairwise_map.2 config.runtimesById.sorted
  rw [← h.groups_ids,List.pairwise_map] at hkeys
  exact hkeys

theorem stagedItems_sorted :
    (stagedItems groups).Pairwise (·.1 ≤ ·.1) := by
  rw [stagedItems,List.pairwise_flatMap]
  refine ⟨fun group _ => ?_,(groups_sorted h).imp fun {group group'} hlt x hx y hy => ?_⟩
  · exact List.pairwise_map.2 (List.pairwise_of_forall fun _ _ => le_rfl)
  · obtain ⟨-,-,rfl⟩ := List.mem_map.1 hx
    obtain ⟨-,-,rfl⟩ := List.mem_map.1 hy
    exact hlt.le

theorem stagedItems_apart :
    ∀ x ∈ stagedItems groups, ∀ y ∈ stagedItems groups, x.1 = y.1 → ¬ StrictlyAbove x.2 y.2 := by
  intro x hx y hy hid habove
  obtain ⟨group,hgroup,hx⟩ := List.mem_flatMap.1 hx
  obtain ⟨group',hgroup',hy⟩ := List.mem_flatMap.1 hy
  obtain ⟨path,hpath,rfl⟩ := List.mem_map.1 hx
  obtain ⟨path',hpath',rfl⟩ := List.mem_map.1 hy
  have hnodup : (groups.map (·.1)).Nodup :=
    List.pairwise_map.2 ((groups_sorted h).imp fun hlt => hlt.ne)
  obtain rfl := List.inj_on_of_nodup_map hnodup hgroup hgroup' hid
  obtain ⟨runtime,-,hruntime⟩ := h.exists_runtime group hgroup
  have hpairs := declaredArtifacts_apart hruntime
  rw [← List.pairwise_map (f := Prod.snd) (R := Apart),declaredArtifacts_map] at hpairs
  have hsymm : Std.Symm Apart := ⟨fun p q hpq => ⟨hpq.2,hpq.1⟩⟩
  rw [strictlyAbove_namesOf] at habove
  have hne : path ≠ path' := fun he => habove.2 (congrArg segments he)
  exact (hpairs.forall hpath hpath' hne).1 habove.1

theorem stageable_stagedItems :
    Stageable [] ((stagedItems groups).map (·.2)) ↔ config.Stageable := by
  rw [stageable_iff_of_sorted (stagedItems_sorted h) (stagedItems_apart h)]
  constructor
  · intro hitems check hcheck path hpath other hother below hbelow habove
    obtain ⟨z,hz,hlt,hfirst⟩ := hitems (check.runtimeId,namesOf path)
      ((mem_stagedItems h).2 ⟨check,hcheck,path,hpath,rfl⟩) (other.runtimeId,namesOf below)
      ((mem_stagedItems h).2 ⟨other,hother,below,hbelow,rfl⟩) (strictlyAbove_namesOf.2 habove)
    obtain ⟨earlier,hearlier,first,hmem,rfl⟩ := (mem_stagedItems h).1 hz
    exact ⟨earlier,hearlier,hlt,first,hmem,strictlyAbove_namesOf.1 hfirst⟩
  · intro hconfig x hx y hy habove
    obtain ⟨check,hcheck,path,hpath,rfl⟩ := (mem_stagedItems h).1 hx
    obtain ⟨other,hother,below,hbelow,rfl⟩ := (mem_stagedItems h).1 hy
    obtain ⟨earlier,hearlier,hlt,first,hmem,hfirst⟩ := hconfig check hcheck path hpath other hother
      below hbelow (strictlyAbove_namesOf.1 habove)
    exact ⟨_,(mem_stagedItems h).2 ⟨earlier,hearlier,first,hmem,rfl⟩,hlt,
      strictlyAbove_namesOf.2 hfirst⟩

theorem exists_first : ∃ group, group ∈ groups := by
  obtain ⟨group,hgroup,-⟩ := Option.map_eq_some_iff.1 h.shared
  exact ⟨group,List.mem_of_mem_head? hgroup⟩

theorem mem_mountedPaths_of_group
    {group : String × ExecutionPlanEnvelopeV1} (hgroup : group ∈ groups) :
    ∀ path ∈ group.2.plan.mountedPaths, path ∈ config.mountedPaths ∧ ProperPath path := by
  intro path hpath
  obtain ⟨runtime,-,hruntime⟩ := h.exists_runtime group hgroup
  have haccepted := ConfigV1.intoPlan_eq_ok.1 hruntime
  rw [ExecutionPlanV1.mountedPaths,declaredArtifacts_map] at hpath
  rcases List.mem_append.1 hpath with hpath | hpath
  · rw [(mountPaths_perm haccepted.caches).mem_iff] at hpath
    exact ⟨List.mem_append_left _ hpath,
      (haccepted.declaredPath path (List.mem_append_left _ hpath)).toProperPath⟩
  · obtain ⟨check,hcheck,-,hmem⟩ := (mem_groupArtifacts h hgroup).1 hpath
    rw [(artifacts_perm haccepted.checks).mem_iff] at hpath
    exact ⟨List.mem_append_right _ (List.mem_flatMap.2 ⟨check,hcheck,hmem⟩),
      (haccepted.declaredPath path (List.mem_append_right _ hpath)).toProperPath⟩

theorem caches_of_group {group : String × ExecutionPlanEnvelopeV1} (hgroup : group ∈ groups) :
    group.2.plan.caches = plan.caches := by rw [(h.plan_eq hgroup).1]

theorem mem_mountedPaths (hcaches : combined.caches = plan.caches)
    (hchecks : combined.checks = groups.flatMap (·.2.plan.checks)) :
    ∀ path ∈ combined.mountedPaths, path ∈ config.mountedPaths ∧ ProperPath path := by
  have hgroups : ∀ path ∈ combined.mountedPaths, ∃ group ∈ groups,
      path ∈ group.2.plan.mountedPaths := by
    intro path hpath
    simp only [ExecutionPlanV1.mountedPaths,declaredArtifacts_map] at hpath ⊢
    rw [hcaches,hchecks,List.flatMap_assoc] at hpath
    rcases List.mem_append.1 hpath with hpath | hpath
    · obtain ⟨group,hgroup⟩ := exists_first h
      exact ⟨group,hgroup,List.mem_append_left _ (caches_of_group h hgroup ▸ hpath)⟩
    · obtain ⟨group,hgroup,hpath⟩ := List.mem_flatMap.1 hpath
      exact ⟨group,hgroup,List.mem_append_right _ hpath⟩
  intro path hpath
  obtain ⟨group,hgroup,hpath⟩ := hgroups path hpath
  exact mem_mountedPaths_of_group h hgroup path hpath

theorem caches_apart :
    Separate (plan.caches.map (namesOf ·.mountPath)) ((stagedItems groups).map (·.2)) := by
  intro p hp q hq
  obtain ⟨cache,hcache,rfl⟩ := List.mem_map.1 hp
  obtain ⟨item,hitem,rfl⟩ := List.mem_map.1 hq
  obtain ⟨group,hgroup,hitem⟩ := List.mem_flatMap.1 hitem
  obtain ⟨path,hpath,rfl⟩ := List.mem_map.1 hitem
  obtain ⟨runtime,-,hruntime⟩ := h.exists_runtime group hgroup
  have hpairs := validatePathIsolation_eq_ok.1 (ConfigV1.intoPlan_eq_ok.1 hruntime).isolation
  have hmount : cache.mountPath ∈ group.2.plan.caches.map (·.mountPath) :=
    List.mem_map.2 ⟨cache,caches_of_group h hgroup ▸ hcache,rfl⟩
  have hoverlap := (List.pairwise_append.1 hpairs).2.2 cache.mountPath
    (List.mem_cons_of_mem _ hmount) path hpath
  rw [namesOf_prefix_iff,namesOf_prefix_iff,← not_or,← pathsOverlap_eq_true,hoverlap]
  decide

end Items

section Overlay

variable {crates : Crates} {config : MatrixConfigV2} {profile : MatrixPlanProfile}
  {envelope : MatrixPlanEnvelopeV2} {groups : List (String × ExecutionPlanEnvelopeV1)}
  {plan : MatrixPlanV2} {pid : ℕ} {disk : Disk OsString} {root : HostPath}
  {overlay : MountOverlay} {tracked : List HostPath}

/-- The tree of a disk as a checkout. -/
def Disk.checkout (disk : Disk OsString) : Checkout where
  metadata path := (stat path disk.root).map FileTree.metadata
  canonicalize path :=
    match ((resolve path).exec (Disk.perform 0) disk).1 with
    | some canonical => .ok canonical
    | none => .error .notFound

theorem Disk.canonicalize_of_ordinary {path : HostPath} (h : Ordinary (get path disk.root)) :
    disk.checkout.canonicalize path = .ok path := by
  rcases hget : get path disk.root with _ | node
  · rcases h with ⟨_,h⟩ | ⟨_,h⟩
    · cases hget.symm.trans h
    · cases hget.symm.trans h
  · rw [hget] at h
    simp only [Disk.checkout,exec_resolve_of_get hget (not_symlink_of_ordinary h)]

def OfKind (expectDirectory : Bool) (x : Option (FileTree OsString)) : Prop :=
  if expectDirectory then IsDirectory x else ∃ content, x = some (.file content)

theorem OfKind.ordinary {expectDirectory : Bool} {x : Option (FileTree OsString)}
    (h : OfKind expectDirectory x) : Ordinary x := by
  cases expectDirectory with
  | true => exact Or.inl h
  | false => exact Or.inr h

theorem validateRepositoryMountTarget_iff {path : String} {expectDirectory : Bool}
    (hproper : ProperPath path) :
    validateRepositoryMountTarget disk.checkout root path expectDirectory = .ok () ↔
      OfKind expectDirectory (get (root++namesOf path) disk.root) := by
  have htarget : root.join path = root++namesOf path := HostPath.join_eq hproper
  have hmetadata : disk.checkout.metadata (root++namesOf path) =
    (stat (root++namesOf path) disk.root).map FileTree.metadata := rfl
  unfold validateRepositoryMountTarget
  simp only [htarget,hmetadata]
  rcases hstat : stat (root++namesOf path) disk.root with e | node
  · refine iff_of_false ?_ fun hkind => ?_
    · cases e <;> simp [Except.map]
    · rcases hkind.ordinary with ⟨_,hget⟩ | ⟨_,hget⟩
      · cases hstat.symm.trans (stat_of_get hget)
      · cases hstat.symm.trans (stat_of_get hget)
  have hget := get_of_stat hstat
  have hkind : OfKind expectDirectory (some node) ↔
      node.metadata.kind = if expectDirectory then .directory else .file := by
    cases expectDirectory <;> cases node <;> simp [OfKind,IsDirectory,FileTree.metadata]
  rw [hget,hkind]
  by_cases hnode : node.metadata.kind = if expectDirectory then .directory else .file
  · have hcanonical := Disk.canonicalize_of_ordinary (hget ▸ (hkind.2 hnode).ordinary)
    simp [Except.map,hnode,hcanonical,Except.mapError,except_bind_eq_ok]
  · simp [Except.map,hnode,except_bind_eq_ok]

theorem validateRepositoryMountTargets_iff {plan : ExecutionPlanV1}
    (hroot : IsDirectory (get root disk.root)) (hproper : ∀ path ∈ plan.mountedPaths, ProperPath path)
    (hkinds : ∀ check ∈ plan.checks, ∀ path, artifactKindFor check path = .regularFile) :
    validateRepositoryMountTargets disk.checkout plan root = .ok () ↔
      (∀ cache ∈ plan.caches, IsDirectory (get (root++namesOf cache.mountPath) disk.root)) ∧
      ∀ path ∈ plan.checks.flatMap (·.artifacts),
        ∃ content, get (root++namesOf path) disk.root = some (.file content) := by
  have hcanonical : disk.checkout.canonicalize root = .ok root :=
    Disk.canonicalize_of_ordinary (Or.inl hroot)
  have hcaches : ∀ cache ∈ plan.caches, ProperPath cache.mountPath := fun cache hcache =>
    hproper _ (List.mem_append_left _ (List.mem_map_of_mem hcache))
  have hartifacts : ∀ check ∈ plan.checks, ∀ path ∈ check.artifacts, ProperPath path := by
    intro check hcheck path hpath
    refine hproper _ (List.mem_append_right _ ?_)
    rw [declaredArtifacts_map]
    exact List.mem_flatMap.2 ⟨check,hcheck,hpath⟩
  have hsteps : validateRepositoryMountTargets disk.checkout plan root = .ok () ↔
      (∀ cache ∈ plan.caches,
        validateRepositoryMountTarget disk.checkout root cache.mountPath true = .ok ()) ∧
      ∀ check ∈ plan.checks, ∀ path ∈ check.artifacts, validateRepositoryMountTarget disk.checkout
        root path (artifactKindFor check path = .directory) = .ok () := by
    unfold validateRepositoryMountTargets
    simp only [hcanonical,Except.mapError,except_bind_eq_ok,Except.ok.injEq,exists_eq_left',
      Unique.exists_iff,PUnit.default_eq_unit,forM_eq_ok_iff]
  rw [hsteps]
  refine and_congr (forall₂_congr fun cache hcache => ?_) ?_
  · exact validateRepositoryMountTarget_iff (hcaches cache hcache)
  · simp only [List.mem_flatMap,forall_exists_index,and_imp]
    refine ⟨fun h path check hcheck hpath => ?_,fun h check hcheck path hpath => ?_⟩
    · have hvalid := (validateRepositoryMountTarget_iff (hartifacts check hcheck path hpath)).1
        (h check hcheck path hpath)
      rw [hkinds check hcheck path] at hvalid
      exact hvalid
    · refine (validateRepositoryMountTarget_iff (hartifacts check hcheck path hpath)).2 ?_
      rw [hkinds check hcheck path]
      exact h path check hcheck hpath

/-- No artifact of one runtime lies above one of another. -/
def MatrixConfigV2.Unnested (config : MatrixConfigV2) : Prop :=
  ∀ check ∈ config.checks, ∀ path ∈ check.artifacts,
    ∀ other ∈ config.checks, ∀ below ∈ other.artifacts, check.runtimeId ≠ other.runtimeId →
      ¬ StrictlyAbove (segments path) (segments below)

theorem not_above_of_unnested (haccepted : config.Accepted crates groups plan)
    (h : config.Unnested) :
    ∀ x ∈ stagedItems groups, ∀ y ∈ stagedItems groups, ¬ StrictlyAbove x.2 y.2 := by
  intro x hx y hy habove
  by_cases hid : x.1 = y.1
  · exact stagedItems_apart haccepted x hx y hy hid habove
  · obtain ⟨check,hcheck,path,hpath,rfl⟩ := (mem_stagedItems haccepted).1 hx
    obtain ⟨other,hother,below,hbelow,rfl⟩ := (mem_stagedItems haccepted).1 hy
    exact h check hcheck path hpath other hother below hbelow hid (strictlyAbove_namesOf.1 habove)

theorem mountTargets_iff (haccepted : config.Accepted crates groups plan)
    {group : String × ExecutionPlanEnvelopeV1} (hgroup : group ∈ groups)
    (hroot : IsDirectory (get root disk.root)) :
    validateRepositoryMountTargets disk.checkout group.2.plan root = .ok () ↔
      (∀ cache ∈ plan.caches, IsDirectory (get (root++namesOf cache.mountPath) disk.root)) ∧
      ∀ path ∈ group.2.plan.checks.flatMap (·.artifacts),
        ∃ content, get (root++namesOf path) disk.root = some (.file content) := by
  rw [← caches_of_group haccepted hgroup]
  exact validateRepositoryMountTargets_iff hroot
    (fun path hpath => (mem_mountedPaths_of_group haccepted hgroup path hpath).2)
    (artifactKind_of_matrix haccepted group hgroup)

/-- The overlay is made, and every runtime finds its mount targets over it. -/
def MatrixPlanEnvelopeV2.MountsReady (crates : Crates) (pid : ℕ) (root : HostPath)
    (overlay : MountOverlay) (disk : Disk OsString) (envelope : MatrixPlanEnvelopeV2) : Prop :=
  ∃ overlay' disk', (envelope.prepareSourceSnapshotOverlay crates root overlay).run.exec
      (Disk.perform pid) disk = (.ok overlay',disk') ∧
    ∃ runtimes, envelope.runtimeEnvelopes crates = .ok runtimes ∧ ∀ runtime ∈ runtimes,
      validateRepositoryMountTargets disk'.checkout runtime.2.plan root = .ok ()

section Ready

variable (haccepted : config.Accepted crates groups plan) (hbound : Bound crates profile plan envelope)
  (hsnapshot : Staged root [] tracked disk.root)
  (hapart : Separate tracked (config.mountedPaths.map namesOf))
include haccepted hbound hsnapshot hapart

/-- The overlay of all runtimes: a tree with the caches and all artifacts, or an error. -/
theorem exec_prepareSourceSnapshotOverlay :
    Stages ((envelope.prepareSourceSnapshotOverlay crates root overlay).run.exec (Disk.perform pid)
      disk) root (plan.caches.map (namesOf ·.mountPath)) tracked []
      ((stagedItems groups).map (·.2)) := by
  obtain ⟨combined,hcombined,hcaches,hchecks⟩ := overlayEnvelope_ok haccepted hbound
  have hpaths := mem_mountedPaths haccepted hcaches hchecks
  have hkinds : ∀ check ∈ combined.plan.checks, ∀ path,
      artifactKindFor check path = .regularFile := by
    rw [hchecks]
    intro check hcheck
    obtain ⟨group,hgroup,hcheck⟩ := List.mem_flatMap.1 hcheck
    exact artifactKind_of_matrix haccepted group hgroup check hcheck
  have htracked : Separate tracked (combined.plan.mountedPaths.map namesOf) := by
    intro p hp q hq
    obtain ⟨path,hpath,rfl⟩ := List.mem_map.1 hq
    exact hapart p hp _ (List.mem_map_of_mem (hpaths path hpath).1)
  have hcachesApart : Separate (combined.plan.caches.map (namesOf ·.mountPath))
      (combined.plan.declaredArtifacts.map (namesOf ·.2)) := by
    rw [← stagedItems_map hchecks,hcaches]
    exact caches_apart haccepted
  have hstages : Stages ((prepareMountOverlay root overlay combined).run.exec (Disk.perform pid)
      disk) root _ tracked [] _ :=
    exec_prepareMountOverlay (fun path hpath => (hpaths path hpath).2) hkinds htracked hcachesApart
      hsnapshot
  have hexec : (envelope.prepareSourceSnapshotOverlay crates root overlay).run.exec
      (Disk.perform pid) disk =
        Prod.map (·.mapError MatrixError.sourceSnapshot) id
          ((prepareMountOverlay root overlay combined).run.exec (Disk.perform pid) disk) := by
    rw [MatrixPlanEnvelopeV2.prepareSourceSnapshotOverlay,exec_ofExcept_bind _ hcombined]
    exact exec_bind (Disk.perform pid) (prepareMountOverlay root overlay combined).run _ disk
  rw [stagedItems_map hchecks,← hcaches,hexec]
  refine ⟨fun h => ?_,fun h => ?_⟩
  · obtain ⟨overlay',disk',hdone,htree⟩ := hstages.ok h
    rw [hdone]
    exact ⟨overlay',disk',rfl,htree⟩
  · obtain ⟨e,disk',hfailed⟩ := hstages.error h
    rw [hfailed]
    exact ⟨_,disk',rfl⟩

theorem unnested_of_mountsReady (h : envelope.MountsReady crates pid root overlay disk) :
    config.Unnested := by
  intro check hcheck path hpath other hother below hbelow _ habove
  obtain ⟨overlay',disk',hexec,runtimes,hruntimes,hvalid⟩ := h
  obtain ⟨_,hsame,hgroups⟩ := runtimeEnvelopes_ok haccepted hbound
  cases hsame.symm.trans hruntimes
  have hstages : Stages ((envelope.prepareSourceSnapshotOverlay crates root overlay).run.exec
      (Disk.perform pid) disk) root _ tracked [] _ :=
    exec_prepareSourceSnapshotOverlay haccepted hbound hsnapshot hapart
  by_cases hstageable : Stageable [] ((stagedItems groups).map (·.2))
  case neg =>
    obtain ⟨e,_,hfailed⟩ := hstages.error hstageable
    cases hfailed.symm.trans hexec
  obtain ⟨_,_,hdone,htree,-⟩ := hstages.ok hstageable
  cases hdone.symm.trans hexec
  obtain ⟨group,hgroup,hid⟩ := exists_group haccepted hcheck
  obtain ⟨runtime,hruntime,-,hplan,-⟩ := exists_of_forall₂ hgroups.flip hgroup
  obtain ⟨content,hfile⟩ := ((mountTargets_iff haccepted hgroup htree.anchored).1
    (hplan ▸ hvalid runtime hruntime)).2 path
    ((mem_groupArtifacts haccepted hgroup).2 ⟨check,hcheck,hid.symm,hpath⟩)
  have hbelow : namesOf below ∈ (stagedItems groups).map (·.2) := List.mem_map.2
    ⟨_,(mem_stagedItems haccepted).2 ⟨other,hother,below,hbelow,rfl⟩,rfl⟩
  obtain ⟨entries,hentries⟩ := (htree.directory (namesOf path) (namesOf_ne_nil path)).2
    (Or.inr ⟨_,List.mem_append_right _ hbelow,strictlyAbove_namesOf.2 habove⟩)
  cases hentries.symm.trans hfile

theorem mountsReady_of_unnested (h : config.Unnested) :
    envelope.MountsReady crates pid root overlay disk := by
  obtain ⟨runtimes,hruntimes,hgroups⟩ := runtimeEnvelopes_ok haccepted hbound
  have hstageable : Stageable [] ((stagedItems groups).map (·.2)) := by
    rw [stageable_iff_of_sorted (stagedItems_sorted haccepted) (stagedItems_apart haccepted)]
    intro x hx y hy habove
    exact absurd habove (not_above_of_unnested haccepted h x hx y hy)
  obtain ⟨overlay',disk',hdone,htree,hordinary⟩ :=
    (exec_prepareSourceSnapshotOverlay haccepted hbound hsnapshot hapart).ok hstageable
  refine ⟨overlay',disk',hdone,runtimes,hruntimes,fun runtime hruntime => ?_⟩
  obtain ⟨group,hgroup,-,hplan,-⟩ := exists_of_forall₂ hgroups hruntime
  rw [hplan]
  refine (mountTargets_iff haccepted hgroup htree.anchored).2 ⟨fun cache hcache => ?_,
    fun path hpath => ?_⟩
  · exact (htree.directory _ (namesOf_ne_nil _)).2
      (Or.inl ⟨_,List.mem_map_of_mem hcache,List.prefix_rfl⟩)
  · have hitem : (group.1,namesOf path) ∈ stagedItems groups :=
      List.mem_flatMap.2 ⟨group,hgroup,List.mem_map_of_mem hpath⟩
    have hmounted : path ∈ group.2.plan.mountedPaths := by
      rw [ExecutionPlanV1.mountedPaths,declaredArtifacts_map]
      exact List.mem_append_right _ hpath
    have hdeclared := (mem_mountedPaths_of_group haccepted hgroup path hmounted).1
    refine (hordinary _ (List.mem_map_of_mem hitem)).resolve_left fun hdirectory => ?_
    rcases (htree.directory _ (namesOf_ne_nil path)).1 hdirectory with
      ⟨d,hd,hbelow⟩ | ⟨f,hf,habove⟩
    · exact (caches_apart haccepted d hd _ (List.mem_map_of_mem hitem)).2 hbelow
    rcases List.mem_append.1 hf with hf | hf
    · exact (hapart f hf _ (List.mem_map_of_mem hdeclared)).2 habove.1
    · obtain ⟨y,hy,rfl⟩ := List.mem_map.1 hf
      exact not_above_of_unnested haccepted h _ hitem y hy habove

end Ready

/-- Over a snapshot of the tracked paths, apart from every declared one, the overlay of an
accepted configuration is made and every runtime finds its mount targets there exactly if no
artifact of one runtime lies above one of another. -/
theorem matrix_mounts_ready_iff (h : config.buildPlanWithProfile crates profile = .ok envelope)
    (hsnapshot : Staged root [] tracked disk.root)
    (hapart : Separate tracked (config.mountedPaths.map namesOf)) :
    envelope.MountsReady crates pid root overlay disk ↔ config.Unnested := by
  obtain ⟨groups,plan,haccepted,hbind⟩ := buildPlanWithProfile_ok h
  have hbound := bound_of_bindProfile hbind
  exact ⟨unnested_of_mountsReady haccepted hbound hsnapshot hapart,
    mountsReady_of_unnested haccepted hbound hsnapshot hapart⟩

end Overlay

def MatrixConfigV2.sample (linux musl : String) : MatrixConfigV2 where
  schemaVersion := "2.0"
  project := "example/project"
  runtimes := ["linux","musl"].map (⟨·,.dockerCompatible,
    "ghcr.io/example/ci@sha256:aaaaaaaaaaaaaaaaaaaaaaaaaaaaaaaaaaaaaaaaaaaaaaaaaaaaaaaaaaaaaaaa",
    4,4096,512,false⟩)
  receipt := ⟨".ccp/receipt.json",86400⟩
  environment := ⟨[]⟩
  caches := [⟨"cargo","target/cache"⟩]
  checks := [
    ⟨"linux-build","linux",true,["cargo","build"],".",300,[],[linux]⟩,
    ⟨"musl-build","musl",true,["cargo","build"],".",300,[],[musl]⟩]

def Disk.sampleSnapshot : Disk OsString where
  root := FileTree.put (some (.file [])) (HostPath.components "/snapshot"++namesOf "README.md")
    (some (.directory [(.ofStr "snapshot",.directory [])]))
  locks := []
  counters := fun _ _ => 0

theorem Disk.sampleSnapshot_staged :
    Staged (HostPath.components "/snapshot") [] [namesOf "README.md"] Disk.sampleSnapshot.root := by
  have hroot : HostPath.components "/snapshot" = [OsString.ofStr "snapshot"] := by decide
  have hname : namesOf "README.md" = []++[OsString.ofStr "README.md"] := by decide
  have hget : FileTree.get [OsString.ofStr "snapshot"]
      (some (.directory [(OsString.ofStr "snapshot",.directory [])])) = some (.directory []) := rfl
  have hextended : Extended ([OsString.ofStr "snapshot"]++[])
      (some (.directory [(OsString.ofStr "snapshot",.directory [])]))
      (some (.directory [(OsString.ofStr "snapshot",.directory [])])) :=
    .refl fun q hq => Disk.isDirectory_above hq ⟨[],hget⟩
  rw [Disk.sampleSnapshot,hroot,hname]
  exact (Staged.of_empty hget).add_file (by simp) hextended

theorem overlay_sample_accepted (linux musl : String)
    (h : ((MatrixConfigV2.sample linux musl).buildPlanWithProfile .reference
      .currentV2).toOption.isSome = true) :
    ∃ envelope, (MatrixConfigV2.sample linux musl).buildPlanWithProfile .reference .currentV2 =
      .ok envelope := Outcome.exists_of_isSome h

/-- Two runtimes with artifacts side by side in one directory. -/
theorem matrix_mounts_ready_sample :
    ∃ envelope, (MatrixConfigV2.sample "out/linux" "out/musl").buildPlanWithProfile .reference
        .currentV2 = .ok envelope ∧
      envelope.MountsReady .reference 1 (HostPath.components "/snapshot") ⟨.empty,.empty⟩
        .sampleSnapshot := by
  obtain ⟨envelope,henvelope⟩ := overlay_sample_accepted "out/linux" "out/musl" (by decide +kernel)
  refine ⟨envelope,henvelope,?_⟩
  refine (matrix_mounts_ready_iff henvelope Disk.sampleSnapshot_staged ?_).2 ?_
  · unfold Separate
    decide
  · unfold MatrixConfigV2.Unnested
    decide

/-- The file of the first runtime is in the way of the second, and the overlay fails. Declared the
other way round the overlay is made, and the second runtime finds a directory. -/
theorem matrix_mounts_collide :
    Staged (HostPath.components "/snapshot") [] [namesOf "README.md"] Disk.sampleSnapshot.root ∧
    (∃ envelope, (MatrixConfigV2.sample "out" "out/report").buildPlanWithProfile .reference
        .currentV2 = .ok envelope ∧
      Separate [namesOf "README.md"]
        ((MatrixConfigV2.sample "out" "out/report").mountedPaths.map namesOf) ∧
      ∃ e disk', (envelope.prepareSourceSnapshotOverlay .reference
        (HostPath.components "/snapshot") ⟨.empty,.empty⟩).run.exec (Disk.perform 1)
          Disk.sampleSnapshot = (.error e,disk')) ∧
    ∃ envelope, (MatrixConfigV2.sample "out/report" "out").buildPlanWithProfile .reference
        .currentV2 = .ok envelope ∧
      ∃ overlay disk', (envelope.prepareSourceSnapshotOverlay .reference
          (HostPath.components "/snapshot") ⟨.empty,.empty⟩).run.exec (Disk.perform 1)
            Disk.sampleSnapshot = (.ok overlay,disk') ∧
        ∃ runtimes, envelope.runtimeEnvelopes .reference = .ok runtimes ∧ ∃ runtime ∈ runtimes,
          validateRepositoryMountTargets disk'.checkout runtime.2.plan
            (HostPath.components "/snapshot") ≠ .ok () := by
  have hapart : Separate [namesOf "README.md"]
      ((MatrixConfigV2.sample "out" "out/report").mountedPaths.map namesOf) := by
    unfold Separate
    decide
  have hapart' : Separate [namesOf "README.md"]
      ((MatrixConfigV2.sample "out/report" "out").mountedPaths.map namesOf) := by
    unfold Separate
    decide
  refine ⟨Disk.sampleSnapshot_staged,?_,?_⟩
  · obtain ⟨envelope,henvelope⟩ := overlay_sample_accepted "out" "out/report" (by decide +kernel)
    have hcollides : ¬ (MatrixConfigV2.sample "out" "out/report").Stageable := by
      unfold MatrixConfigV2.Stageable
      decide
    obtain ⟨groups,plan,haccepted,hbind⟩ := buildPlanWithProfile_ok henvelope
    rw [← stageable_stagedItems haccepted] at hcollides
    exact ⟨envelope,henvelope,hapart,(exec_prepareSourceSnapshotOverlay haccepted
      (bound_of_bindProfile hbind) Disk.sampleSnapshot_staged hapart).error hcollides⟩
  · obtain ⟨envelope,henvelope⟩ := overlay_sample_accepted "out/report" "out" (by decide +kernel)
    have hstageable : (MatrixConfigV2.sample "out/report" "out").Stageable := by
      unfold MatrixConfigV2.Stageable
      decide
    have hnested : ¬ (MatrixConfigV2.sample "out/report" "out").Unnested := by
      unfold MatrixConfigV2.Unnested
      decide
    obtain ⟨groups,plan,haccepted,hbind⟩ := buildPlanWithProfile_ok henvelope
    have hbound := bound_of_bindProfile hbind
    rw [← stageable_stagedItems haccepted] at hstageable
    obtain ⟨runtimes,hruntimes,-⟩ := runtimeEnvelopes_ok haccepted hbound
    obtain ⟨overlay,disk',hexec,-⟩ := (exec_prepareSourceSnapshotOverlay haccepted hbound
      Disk.sampleSnapshot_staged hapart').ok hstageable
    refine ⟨envelope,henvelope,overlay,disk',hexec,runtimes,hruntimes,?_⟩
    by_contra hready
    push Not at hready
    exact hnested (unnested_of_mountsReady haccepted hbound Disk.sampleSnapshot_staged hapart'
      ⟨overlay,disk',hexec,runtimes,hruntimes,hready⟩)

end CommitCiPreflight
