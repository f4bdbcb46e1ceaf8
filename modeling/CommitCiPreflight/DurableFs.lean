import CommitCiPreflight.FileFaults
import CommitCiPreflight.Mounts

/-! `durable_fs.rs`: files and directories that are written through to the disk. -/
namespace CommitCiPreflight

open Files (passOn)

inductive DurableFsError
  | io (source : IoErrorKind)
  | unsafePath (message : String)
  | ownershipMismatch
  | atomicReplacementUnavailable
  deriving DecidableEq

section Links

open Disk FileTree Program

variable {follow : HostPath → HostPath → FileProgram OsString (Option HostPath)} {pid : ℕ}
  {disk : Disk OsString} {path : HostPath}

theorem uses_behindLink (hfollow : ∀ here names, (follow here names).Uses FileOp.Reads)
    (link rest : HostPath) : (behindLink follow link rest).Uses FileOp.Reads := by
  refine uses_bind (uses_perform trivial) fun outcome => ?_
  cases outcome with
  | ok target => exact hfollow _ _
  | error e => exact .done _

theorem uses_walk (hfollow : ∀ here names, (follow here names).Uses FileOp.Reads)
    (here names : HostPath) : (walk follow here names).Uses FileOp.Reads := by
  induction names generalizing here with
  | nil => exact .done _
  | cons name rest ih =>
    refine uses_bind (uses_perform trivial) fun outcome => ?_
    rcases outcome with e | ⟨_ | _ | _ | _,length⟩
    case ok.directory =>
      simp only
      split_ifs
      · exact ih here
      · exact ih here.dropLast
      · refine uses_bind (uses_perform trivial) fun outcome => ?_
        rcases outcome with e | ⟨_ | _ | _ | _,length⟩
        · exact .done _
        case ok.symlink => exact uses_behindLink hfollow _ _
        all_goals exact ih (here++[name])
    all_goals exact .done _

theorem uses_walkLinks (links : ℕ) (here names : HostPath) :
    (walkLinks links here names).Uses FileOp.Reads := by
  induction links generalizing here names with
  | zero => exact .done _
  | succ links ih => exact uses_walk ih here names

theorem uses_resolve (path : HostPath) : (resolve path).Uses FileOp.Reads := by
  refine uses_bind (uses_perform trivial) fun outcome => ?_
  rcases outcome with e | ⟨_ | _ | _ | _,length⟩
  case ok.symlink => exact uses_behindLink (uses_walkLinks 40) path []
  all_goals exact .done _

theorem uses_pathExists (path : HostPath) : (pathExists path).Uses FileOp.Reads :=
  uses_bind (uses_resolve path) fun _ => .done _

theorem link_of_not_pathExists (h : ((pathExists path).exec (Disk.perform pid) disk).1 = false) :
    get path disk.root = none ∨ ∃ target, get path disk.root = some (.symlink target) := by
  rcases hget : get path disk.root with _ | c | entries | target | _
  · exact Or.inl rfl
  case some.symlink => exact Or.inr ⟨target,rfl⟩
  all_goals
    rw [exec_pathExists_of_get hget (by simp)] at h
    cases h

end Links

abbrev DurableIo := Program.Fallible (FileOp OsString) FileOp.Result DurableFsError

namespace DurableFileSystem

def checkedParent (path : HostPath) : Except DurableFsError HostPath :=
  match HostPath.parent path with
  | some parent => .ok parent
  | none => .error (.unsafePath "path has no parent")

def validatePlainDirectory (path : HostPath) : DurableIo Unit := do
  match (← passOn .io (Files.metadata path)) with
  | ⟨.directory,_⟩ => return ()
  | _ => throw (.unsafePath "parent must be a plain directory")

def createNewDirectory (path : HostPath) : DurableIo Unit := do
  let parent ← Program.ofExcept (checkedParent path)
  validatePlainDirectory parent
  passOn .io (Files.createDir path)
  passOn .io (Files.sync parent)

def createNew (path : HostPath) (bytes : List UInt8) : DurableIo Unit := do
  let parent ← Program.ofExcept (checkedParent path)
  validatePlainDirectory parent
  passOn .io (Files.createNew path)
  passOn .io (Files.append path bytes)
  passOn .io (Files.sync path)
  passOn .io (Files.sync parent)

/-- The marker of an owned tree has exactly the given bytes. -/
def validateOwnedTree (path : HostPath) (markerName : String) (markerBytes : List UInt8) :
    DurableIo Unit := do
  Program.ensure (markerName ≠ "" ∧ '/' ∉ markerName.toList ∧ '\\' ∉ markerName.toList)
    (.unsafePath "invalid owner marker name")
  validatePlainDirectory path
  match (← passOn .io (Files.metadata (path++[.ofStr markerName]))) with
  | ⟨.file,_⟩ =>
    let bytes ← passOn .io (Files.readFile (path++[.ofStr markerName]))
    Program.ensure (bytes = markerBytes) .ownershipMismatch
  | _ => throw .ownershipMismatch

def quarantineOwnedTree (path quarantine : HostPath) (markerName : String)
    (markerBytes : List UInt8) : DurableIo Unit := do
  validateOwnedTree path markerName markerBytes
  let occupied ← pathExists quarantine
  Program.ensure (occupied = false) (.unsafePath "quarantine destination already exists")
  let parent ← Program.ofExcept (checkedParent path)
  let quarantineParent ← Program.ofExcept (checkedParent quarantine)
  Program.ensure (quarantineParent = parent)
    (.unsafePath "quarantine must remain in the owned parent directory")
  passOn .io (Files.rename path quarantine)
  passOn .io (Files.sync parent)

section Faults

open Disk FileTree Program

variable {pid : ℕ} {disk : Disk OsString} {faults : List Fault} {parent : HostPath}
  {name : OsString} {bytes : List UInt8} {path : HostPath}

theorem uses_validatePlainDirectory (path : HostPath) :
    (validatePlainDirectory path).run.Uses FileOp.Reads := by
  refine uses_run_bind (Files.uses_passOn (uses_perform trivial)) fun metadata => ?_
  rcases metadata with ⟨_ | _ | _ | _,length⟩
  all_goals exact .done _

theorem exec_validatePlainDirectory :
    ((validatePlainDirectory path).run.exec (Disk.perform pid) disk).1 = .ok () ↔
      IsDirectory (get path disk.root) := by
  unfold validatePlainDirectory
  rw [ExceptT.run_bind,exec_bind,exec_passOn,exec_metadata]
  simp only [IsDirectory,get_eq_some_iff_stat]
  rcases stat path disk.root with e | c | entries | target | _
  case ok.directory => exact ⟨fun _ => ⟨entries,rfl⟩,fun _ => rfl⟩
  all_goals
    refine ⟨fun h => (by cases h),?_⟩
    rintro ⟨_,h⟩
    cases h

theorem checkedParent_append : checkedParent (parent++[name]) = .ok parent := by
  simp [checkedParent,HostPath.parent]

theorem suffer_createNew_eq :
    suffer pid faults (createNew (parent++[name]) bytes).run disk =
      match ((validatePlainDirectory parent).run.exec (Disk.perform pid) disk).1 with
      | .ok _ => suffer pid faults (do
          passOn .io (Files.createNew (parent++[name]))
          passOn .io (Files.append (parent++[name]) bytes)
          passOn .io (Files.sync (parent++[name]))
          passOn .io (Files.sync parent) : DurableIo Unit).run disk
      | .error e => (some (.error e),disk) := by
  unfold createNew
  rw [checkedParent_append]
  change suffer pid faults (validatePlainDirectory parent >>= fun _ => _).run disk = _
  rw [suffer_reads_bind (uses_validatePlainDirectory parent)]
  cases ((validatePlainDirectory parent).run.exec (Disk.perform pid) disk).1 with
  | ok => rfl
  | error e => rfl

theorem suffer_createNew (hdir : IsDirectory (get parent disk.root))
    (habsent : get (parent++[name]) disk.root = none) :
    (suffer pid faults (createNew (parent++[name]) bytes).run disk).2 =
      match fate faults bytes with
      | none => disk
      | some content => disk.setRoot (put (some (.file content)) (parent++[name]) disk.root) := by
  rw [suffer_createNew_eq,exec_validatePlainDirectory.2 hdir]
  exact execUntil_create habsent (hasParent_append_singleton.2 hdir)

theorem exec_createNew (hdir : IsDirectory (get parent disk.root))
    (habsent : get (parent++[name]) disk.root = none) :
    (createNew (parent++[name]) bytes).run.exec (Disk.perform pid) disk =
      (.ok (),disk.setRoot (put (some (.file bytes)) (parent++[name]) disk.root)) := by
  obtain ⟨entries,hget⟩ := hdir
  have hparent : HasParent (parent++[name]) disk.root := hasParent_append_singleton.2 ⟨entries,hget⟩
  have hvalid : (validatePlainDirectory parent).run.exec (Disk.perform pid) disk = (.ok (),disk) :=
    Prod.ext (exec_validatePlainDirectory.2 ⟨entries,hget⟩)
      (exec_of_reads (uses_validatePlainDirectory parent))
  have hafter : get parent (put (some (.file bytes)) (parent++[name]) disk.root) =
      some (.directory (setEntry name (some (.file bytes)) entries)) := by
    rw [get_put_above,hget]
    rfl
  unfold createNew
  rw [checkedParent_append]
  refine (exec_run_bind_eq_ok _).2 ⟨parent,disk,rfl,?_⟩
  refine (exec_run_bind_eq_ok _).2 ⟨(),disk,hvalid,?_⟩
  exact exec_create habsent hparent (stat_of_get hafter)

/-- `create_new` leaves everything as it was, or a new file with its fate. -/
theorem suffer_createNew_cases (pid : ℕ) (faults : List Fault) (parent : HostPath)
    (name : OsString) (bytes : List UInt8) (disk : Disk OsString) :
    (suffer pid faults (createNew (parent++[name]) bytes).run disk).2 = disk ∨
      ∃ content, fate faults bytes = some content ∧ IsDirectory (get parent disk.root) ∧
        get (parent++[name]) disk.root = none ∧
        (suffer pid faults (createNew (parent++[name]) bytes).run disk).2 =
          disk.setRoot (put (some (.file content)) (parent++[name]) disk.root) := by
  rcases hvalid : ((validatePlainDirectory parent).run.exec (Disk.perform pid) disk).1 with e | ⟨⟩
  · left
    rw [suffer_createNew_eq,hvalid]
  · have hdir := exec_validatePlainDirectory.1 hvalid
    cases hget : get (parent++[name]) disk.root with
    | some node =>
      left
      rw [suffer_createNew_eq,hvalid]
      exact execUntil_create_present hget
    | none =>
      have hleft : (suffer pid faults (createNew (parent++[name]) bytes).run disk).2 = _ :=
        suffer_createNew hdir hget
      cases hfate : fate faults bytes with
      | none =>
        rw [hfate] at hleft
        exact Or.inl hleft
      | some content =>
        rw [hfate] at hleft
        exact Or.inr ⟨content,rfl,hdir,rfl,hleft⟩

theorem suffer_createNewDirectory_cases (pid : ℕ) (faults : List Fault) (parent : HostPath)
    (name : OsString) (disk : Disk OsString) :
    ((suffer pid faults (createNewDirectory (parent++[name])).run disk).2 = disk ∧
      (suffer pid faults (createNewDirectory (parent++[name])).run disk).1 ≠ some (.ok ())) ∨
    (IsDirectory (get parent disk.root) ∧ get (parent++[name]) disk.root = none ∧
      (suffer pid faults (createNewDirectory (parent++[name])).run disk).2 =
        disk.setRoot (put (some (.directory [])) (parent++[name]) disk.root)) := by
  unfold createNewDirectory
  rw [checkedParent_append]
  change ((suffer pid faults (validatePlainDirectory parent >>= fun _ => _).run disk).2 = disk ∧
    (suffer pid faults (validatePlainDirectory parent >>= fun _ => _).run disk).1 ≠ _) ∨ _ ∧ _ ∧
    (suffer pid faults (validatePlainDirectory parent >>= fun _ => _).run disk).2 = _
  rw [suffer_reads_bind (uses_validatePlainDirectory parent)]
  rcases hvalid : ((validatePlainDirectory parent).run.exec (Disk.perform pid) disk).1 with e | ⟨⟩
  · exact Or.inl ⟨rfl,by simp⟩
  obtain ⟨hdisk,hok⟩ : (suffer pid faults (passOn DurableFsError.io (Files.createDir (parent++[name]))
      >>= fun _ => passOn DurableFsError.io (Files.sync parent)).run disk).2 =
        (attempt pid (.createDir (parent++[name])) (disk,faults)).2.1 ∧
      ((suffer pid faults (passOn DurableFsError.io (Files.createDir (parent++[name]))
      >>= fun _ => passOn DurableFsError.io (Files.sync parent)).run disk).1 = some (.ok ()) →
        (attempt pid (.createDir (parent++[name])) (disk,faults)).1 = some (.ok ())) := by
    rw [← execUntil_perform]
    exact execUntil_then_sync (disk,faults)
  rcases attempt_createDir_cases pid (parent++[name]) (disk,faults) with
    ⟨hsame,hresult⟩ | ⟨-,habsent,hput⟩
  · exact Or.inl ⟨hdisk.trans hsame,fun h => hresult (hok h)⟩
  · exact Or.inr ⟨exec_validatePlainDirectory.1 hvalid,habsent,hdisk.trans hput⟩

theorem uses_createNewDirectory {W L : HostPath → Prop} (h : W path) :
    (createNewDirectory path).run.Uses (FileOp.Keeps W L) := by
  refine uses_run_bind (.done _) fun parent => ?_
  refine uses_run_bind (uses_keeps_of_reads (uses_validatePlainDirectory parent)) fun _ => ?_
  refine uses_run_bind (Files.uses_passOn (Files.uses_createDir h)) fun _ => ?_
  exact Files.uses_passOn (uses_perform (Files.keeps_of_reads rfl rfl))

theorem uses_createNew {W L : HostPath → Prop} (h : W path) :
    (createNew path bytes).run.Uses (FileOp.Keeps W L) := by
  refine uses_run_bind (.done _) fun parent => ?_
  refine uses_run_bind (uses_keeps_of_reads (uses_validatePlainDirectory parent)) fun _ => ?_
  refine uses_run_bind (Files.uses_passOn (Files.uses_createNew h)) fun _ => ?_
  refine uses_run_bind (Files.uses_passOn (Files.uses_append h)) fun _ => ?_
  refine uses_run_bind (Files.uses_passOn (uses_perform (Files.keeps_of_reads rfl rfl))) fun _ => ?_
  exact Files.uses_passOn (uses_perform (Files.keeps_of_reads rfl rfl))

theorem uses_validateOwnedTree {markerName : String} :
    (validateOwnedTree path markerName bytes).run.Uses FileOp.Reads := by
  refine uses_run_bind uses_ensure fun _ => ?_
  refine uses_run_bind (uses_validatePlainDirectory path) fun _ => ?_
  refine uses_run_bind (Files.uses_passOn (uses_perform trivial)) fun metadata => ?_
  rcases metadata with ⟨_ | _ | _ | _,length⟩
  · exact uses_run_bind (Files.uses_passOn (uses_perform trivial)) fun _ => uses_ensure
  all_goals exact .done _

theorem isDirectory_of_validateOwnedTree {markerName : String}
    (h : ((validateOwnedTree path markerName bytes).run.exec (Disk.perform pid) disk).1 = .ok ()) :
    IsDirectory (get path disk.root) := by
  unfold validateOwnedTree at h
  rw [← Disk.read,read_bind uses_ensure,except_bind_eq_ok] at h
  obtain ⟨⟨⟩,-,h⟩ := h
  rw [read_bind (uses_validatePlainDirectory path),except_bind_eq_ok] at h
  obtain ⟨⟨⟩,h,-⟩ := h
  exact exec_validatePlainDirectory.1 h

theorem move_onto_symlink {quarantine : HostPath} {target : List UInt8}
    (hpath : IsDirectory (get path disk.root))
    (hlink : get quarantine disk.root = some (.symlink target)) :
    (disk.move path quarantine).2 = disk := by
  obtain ⟨entries,hget⟩ := hpath
  unfold Disk.move
  rw [stat_of_get hget]
  simp only
  split
  · rfl
  · rcases hreach : reach quarantine disk.root with e | there
    · rfl
    · obtain ⟨-,rfl⟩ := reach_eq_ok.1 hreach
      rw [hlink]
      rfl

/-- `quarantine_owned_tree` leaves everything as it was, or moves the tree to a free name. -/
theorem suffer_quarantineOwnedTree_cases (pid : ℕ) (faults : List Fault) (path quarantine : HostPath)
    (markerName : String) (bytes : List UInt8) (disk : Disk OsString) :
    (suffer pid faults (quarantineOwnedTree path quarantine markerName bytes).run disk).2 = disk ∨
      (get quarantine disk.root = none ∧
        (suffer pid faults (quarantineOwnedTree path quarantine markerName bytes).run disk).2 =
          (disk.move path quarantine).2) := by
  unfold quarantineOwnedTree
  rw [suffer_reads_bind uses_validateOwnedTree]
  rcases howned : ((validateOwnedTree path markerName bytes).run.exec (Disk.perform pid) disk).1
    with e | ⟨⟩
  · exact Or.inl rfl
  simp only [suffer_lift_bind (uses_pathExists quarantine),suffer_ensure_bind,suffer_ofExcept_bind]
  split
  · rename_i hfree
    rcases checkedParent path with e | parent
    · exact Or.inl rfl
    rcases checkedParent quarantine with e | quarantineParent
    · exact Or.inl rfl
    simp only
    split
    · obtain ⟨hdisk,-⟩ : (suffer pid faults (passOn DurableFsError.io (Files.rename path quarantine)
          >>= fun _ => passOn DurableFsError.io (Files.sync parent)).run disk).2 =
            (attempt pid (.rename path quarantine) (disk,faults)).2.1 ∧ _ := by
        rw [← execUntil_perform]
        exact execUntil_then_sync (disk,faults)
      rcases attempt_rename_cases pid path quarantine (disk,faults) with hsame | hmoved
      · exact Or.inl (hdisk.trans hsame)
      rcases link_of_not_pathExists hfree with hget | ⟨target,hlink⟩
      · exact Or.inr ⟨hget,hdisk.trans hmoved⟩
      · exact Or.inl ((hdisk.trans hmoved).trans
          (move_onto_symlink (isDirectory_of_validateOwnedTree howned) hlink))
    · exact Or.inl rfl
  · exact Or.inl rfl

theorem uses_quarantineOwnedTree {W L : HostPath → Prop} {quarantine : HostPath}
    {markerName : String} (h : W path) (hq : W quarantine) :
    (quarantineOwnedTree path quarantine markerName bytes).run.Uses (FileOp.Keeps W L) := by
  refine uses_run_bind (uses_keeps_of_reads uses_validateOwnedTree) fun _ => ?_
  refine uses_run_bind (uses_lift (uses_keeps_of_reads (uses_pathExists _))) fun _ => ?_
  refine uses_run_bind uses_ensure fun _ => ?_
  refine uses_run_bind (.done _) fun parent => uses_run_bind (.done _) fun _ => ?_
  refine uses_run_bind uses_ensure fun _ => ?_
  refine uses_run_bind (Files.uses_passOn (Files.uses_rename h hq)) fun _ => ?_
  exact Files.uses_passOn (uses_perform (Files.keeps_of_reads rfl rfl))

end Faults

end DurableFileSystem
end CommitCiPreflight
