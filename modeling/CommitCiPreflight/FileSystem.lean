import CommitCiPreflight.FileTree
import CommitCiPreflight.Program

/-! A disk and the operations a process performs on it. Each operation is atomic, and a
process may stop between any two. Locks are advisory: they bar nobody but other lockers. -/
namespace CommitCiPreflight

/-- The kinds of failure that callers tell apart. -/
inductive IoErrorKind
  | notFound
  | alreadyExists
  | notADirectory
  | isADirectory
  | directoryNotEmpty
  | wouldBlock
  | invalidData
  | other
  deriving DecidableEq

inductive FileKind
  | file
  | directory
  | symlink
  | special
  deriving DecidableEq

/-- The part of `lstat` that callers read. -/
structure Metadata where
  kind : FileKind
  length : ℕ
  deriving DecidableEq

namespace FileTree

variable {ν : Type} [LinearOrder ν] {p : List ν} {t : Option (FileTree ν)} {node : FileTree ν}

def metadata : FileTree ν → Metadata
  | .file content => ⟨.file,content.length⟩
  | .directory _ => ⟨.directory,0⟩
  | .symlink target => ⟨.symlink,target.length⟩
  | .special => ⟨.special,0⟩

/-- The node a path leads to, `none` when only its last name is missing. -/
def reach : List ν → Option (FileTree ν) → Except IoErrorKind (Option (FileTree ν))
  | [], t => .ok t
  | n::p, some (.directory entries) =>
    if p = [] then .ok (lookupEntry n entries) else reach p (lookupEntry n entries)
  | _::_, none => .error .notFound
  | _::_, some _ => .error .notADirectory

theorem reach_eq_ok {x : Option (FileTree ν)} :
    reach p t = .ok x ↔ HasParent p t ∧ get p t = x := by
  induction p generalizing t with
  | nil => simp [reach,HasParent]
  | cons n p ih =>
    rcases t with _ | ⟨c⟩ | ⟨entries⟩ | ⟨target⟩ | _
    case some.directory =>
      by_cases hp : p = []
      · simp [reach,HasParent,get,hp]
      · simp [reach,HasParent,get,hp,ih]
    all_goals simp [reach,HasParent]

def stat (p : List ν) (t : Option (FileTree ν)) : Except IoErrorKind (FileTree ν) :=
  match reach p t with
  | .ok (some node) => .ok node
  | .ok none => .error .notFound
  | .error e => .error e

theorem stat_eq_ok : stat p t = .ok node ↔ HasParent p t ∧ get p t = some node := by
  rw [← reach_eq_ok]
  unfold stat
  split <;> simp_all

/-- How a path may lead: to nothing in a directory, to a node, or nowhere. -/
theorem reach_cases (p : List ν) (t : Option (FileTree ν)) :
    (HasParent p t ∧ get p t = none ∧ reach p t = .ok none) ∨
      (∃ node, get p t = some node ∧ reach p t = .ok (some node)) ∨
      ∃ e, e ≠ .alreadyExists ∧ ¬ HasParent p t ∧ get p t = none ∧ reach p t = .error e := by
  rcases hreach : reach p t with e | _ | node
  · refine Or.inr (Or.inr ⟨e,?_,?_,?_,rfl⟩)
    · rintro rfl
      induction p generalizing t with
      | nil => simp [reach] at hreach
      | cons n p ih =>
        rcases t with _ | ⟨c⟩ | ⟨entries⟩ | ⟨target⟩ | _
        case some.directory =>
          simp only [reach] at hreach
          split at hreach
          · simp at hreach
          · exact ih _ hreach
        all_goals simp [reach] at hreach
    · intro hparent
      simp [reach_eq_ok.2 ⟨hparent,rfl⟩] at hreach
    · cases hget : get p t with
      | none => rfl
      | some node => simp [reach_eq_ok.2 ⟨hasParent_of_get hget,hget⟩] at hreach
  · obtain ⟨hparent,habsent⟩ := reach_eq_ok.1 hreach
    exact Or.inl ⟨hparent,habsent,rfl⟩
  · exact Or.inr (Or.inl ⟨node,(reach_eq_ok.1 hreach).2,rfl⟩)

theorem stat_of_get (h : get p t = some node) : stat p t = .ok node :=
  stat_eq_ok.2 ⟨hasParent_of_get h,h⟩

theorem stat_of_absent (hparent : HasParent p t) (h : get p t = none) :
    stat p t = .error .notFound := by
  rw [stat,reach_eq_ok.2 ⟨hparent,h⟩]

theorem get_of_stat (h : stat p t = .ok node) : get p t = some node := (stat_eq_ok.1 h).2

theorem get_eq_some_iff_stat : get p t = some node ↔ stat p t = .ok node :=
  ⟨stat_of_get,get_of_stat⟩

end FileTree

/-- Every lock names its file and its holder; a process has counters of its own. -/
structure Disk (ν : Type) where
  root : Option (FileTree ν)
  locks : List (List ν × ℕ)
  counters : ℕ → ℕ → ℕ

inductive FileOp (ν : Type)
  | metadata (path : List ν)
  | readFile (path : List ν)
  | readLink (path : List ν)
  | readDir (path : List ν)
  /-- The walk of a directory that nobody writes to meanwhile. -/
  | readTree (path : List ν)
  | createDir (path : List ν)
  /-- Open a file that must not exist. -/
  | createNew (path : List ν)
  /-- Open a file, created when missing. -/
  | openCreate (path : List ν)
  | truncate (path : List ν)
  | append (path : List ν) (bytes : List UInt8)
  | createSymlink (path : List ν) (target : List UInt8)
  /-- `sync_all` on a file or a directory that is opened for it. -/
  | sync (path : List ν)
  | rename (source target : List ν)
  | removeFile (path : List ν)
  | removeDir (path : List ν)
  | tryLock (path : List ν)
  | unlock (path : List ν)
  | fetchAdd (counter : ℕ)

@[reducible] def FileOp.Result {ν : Type} : FileOp ν → Type
  | .metadata _ => Except IoErrorKind Metadata
  | .readFile _ => Except IoErrorKind (List UInt8)
  | .readLink _ => Except IoErrorKind (List UInt8)
  | .readDir _ => Except IoErrorKind (List ν)
  | .readTree _ => Except IoErrorKind (FileTree ν)
  | .unlock _ => Unit
  | .fetchAdd _ => ℕ
  | _ => Except IoErrorKind Unit

/-- The paths at which an operation may put another node. -/
def FileOp.writes {ν : Type} : FileOp ν → List (List ν)
  | .createDir path | .createNew path | .openCreate path | .truncate path | .append path _
  | .createSymlink path _ | .removeFile path | .removeDir path => [path]
  | .rename source target => [source,target]
  | _ => []

/-- The locks an operation may take or free. -/
def FileOp.locked {ν : Type} : FileOp ν → List (List ν)
  | .tryLock path | .unlock path => [path]
  | _ => []

/-- An operation that writes within one set of paths and locks within another. -/
def FileOp.Keeps {ν : Type} (W L : List ν → Prop) (op : FileOp ν) : Prop :=
  (∀ path ∈ op.writes, W path) ∧ ∀ path ∈ op.locked, L path

abbrev FileProgram (ν : Type) := Program (FileOp ν) FileOp.Result

namespace Files

variable {ν ε α : Type}

open Program (perform Fallible)

def metadata (path : List ν) : FileProgram ν (Except IoErrorKind Metadata) :=
  perform (FileOp.metadata path)

def readFile (path : List ν) : FileProgram ν (Except IoErrorKind (List UInt8)) :=
  perform (FileOp.readFile path)

def readLink (path : List ν) : FileProgram ν (Except IoErrorKind (List UInt8)) :=
  perform (FileOp.readLink path)

def readDir (path : List ν) : FileProgram ν (Except IoErrorKind (List ν)) :=
  perform (FileOp.readDir path)

def readTree (path : List ν) : FileProgram ν (Except IoErrorKind (FileTree ν)) :=
  perform (FileOp.readTree path)

def createDir (path : List ν) : FileProgram ν (Except IoErrorKind Unit) :=
  perform (FileOp.createDir path)

def createNew (path : List ν) : FileProgram ν (Except IoErrorKind Unit) :=
  perform (FileOp.createNew path)

def openCreate (path : List ν) : FileProgram ν (Except IoErrorKind Unit) :=
  perform (FileOp.openCreate path)

def truncate (path : List ν) : FileProgram ν (Except IoErrorKind Unit) :=
  perform (FileOp.truncate path)

def append (path : List ν) (bytes : List UInt8) : FileProgram ν (Except IoErrorKind Unit) :=
  perform (FileOp.append path bytes)

def createSymlink (path : List ν) (target : List UInt8) : FileProgram ν (Except IoErrorKind Unit) :=
  perform (FileOp.createSymlink path target)

def sync (path : List ν) : FileProgram ν (Except IoErrorKind Unit) := perform (FileOp.sync path)

def rename (source target : List ν) : FileProgram ν (Except IoErrorKind Unit) :=
  perform (FileOp.rename source target)

def removeFile (path : List ν) : FileProgram ν (Except IoErrorKind Unit) :=
  perform (FileOp.removeFile path)

def removeDir (path : List ν) : FileProgram ν (Except IoErrorKind Unit) :=
  perform (FileOp.removeDir path)

def tryLock (path : List ν) : FileProgram ν (Except IoErrorKind Unit) :=
  perform (FileOp.tryLock path)

def unlock (path : List ν) : FileProgram ν Unit := perform (FileOp.unlock path)

def fetchAdd (counter : ℕ) : FileProgram ν ℕ := perform (FileOp.fetchAdd counter)

/-- A call whose failure the caller passes on in its own terms. -/
def passOn (wrap : IoErrorKind → ε) (call : FileProgram ν (Except IoErrorKind α)) :
    Fallible (FileOp ν) FileOp.Result ε α :=
  ExceptT.mk do return (← call).mapError wrap

mutual
def removeTree (path : List ν) : FileTree ν → FileProgram ν (Except IoErrorKind Unit)
  | .directory entries => do
    match ← removeEntries path entries with
    | .ok () => removeDir path
    | .error e => return .error e
  | _ => removeFile path
def removeEntries (path : List ν) :
    List (ν × FileTree ν) → FileProgram ν (Except IoErrorKind Unit)
  | [] => return .ok ()
  | (n,t)::entries => do
    match ← removeTree (path++[n]) t with
    | .ok () => removeEntries path entries
    | .error e => return .error e
end

def removeDirAll (path : List ν) : FileProgram ν (Except IoErrorKind Unit) := do
  match ← readTree path with
  | .ok tree => removeTree path tree
  | .error e => return .error e

def writeNew (wrap : IoErrorKind → ε) (path : List ν) (writes : List (List UInt8)) :
    Fallible (FileOp ν) FileOp.Result ε Unit := do
  passOn wrap (createNew path)
  writes.forM fun bytes => passOn wrap (append path bytes)

section Uses

open Program (Uses uses_perform uses_bind uses_run_bind)

variable {W L : List ν → Prop} {path source target : List ν} {allowed : FileOp ν → Prop}

theorem keeps_of_reads {op : FileOp ν} (hw : op.writes = []) (hl : op.locked = []) :
    op.Keeps W L := by
  simp [FileOp.Keeps,hw,hl]

theorem keeps_of_writes {op : FileOp ν} (hw : op.writes = [path]) (hl : op.locked = [])
    (h : W path) : op.Keeps W L := by
  simp [FileOp.Keeps,hw,hl,h]

theorem uses_metadata : (metadata path).Uses (FileOp.Keeps W L) :=
  uses_perform (keeps_of_reads rfl rfl)

theorem uses_readFile : (readFile path).Uses (FileOp.Keeps W L) :=
  uses_perform (keeps_of_reads rfl rfl)

theorem uses_readLink : (readLink path).Uses (FileOp.Keeps W L) :=
  uses_perform (keeps_of_reads rfl rfl)

theorem uses_readDir : (readDir path).Uses (FileOp.Keeps W L) :=
  uses_perform (keeps_of_reads rfl rfl)

theorem uses_fetchAdd {counter : ℕ} : (fetchAdd counter).Uses (FileOp.Keeps W L) :=
  uses_perform (keeps_of_reads rfl rfl)

theorem uses_createDir (h : W path) : (createDir path).Uses (FileOp.Keeps W L) :=
  uses_perform (keeps_of_writes rfl rfl h)

theorem uses_createNew (h : W path) : (createNew path).Uses (FileOp.Keeps W L) :=
  uses_perform (keeps_of_writes rfl rfl h)

theorem uses_openCreate (h : W path) : (openCreate path).Uses (FileOp.Keeps W L) :=
  uses_perform (keeps_of_writes rfl rfl h)

theorem uses_truncate (h : W path) : (truncate path).Uses (FileOp.Keeps W L) :=
  uses_perform (keeps_of_writes rfl rfl h)

theorem uses_append {bytes : List UInt8} (h : W path) :
    (append path bytes).Uses (FileOp.Keeps W L) :=
  uses_perform (keeps_of_writes rfl rfl h)

theorem uses_createSymlink {bytes : List UInt8} (h : W path) :
    (createSymlink path bytes).Uses (FileOp.Keeps W L) :=
  uses_perform (keeps_of_writes rfl rfl h)

theorem uses_removeFile (h : W path) : (removeFile path).Uses (FileOp.Keeps W L) :=
  uses_perform (keeps_of_writes rfl rfl h)

theorem uses_rename (hs : W source) (ht : W target) :
    (rename source target).Uses (FileOp.Keeps W L) :=
  uses_perform (by simp [FileOp.Keeps,FileOp.writes,FileOp.locked,hs,ht])

theorem uses_tryLock (h : L path) : (tryLock path).Uses (FileOp.Keeps W L) :=
  uses_perform (by simp [FileOp.Keeps,FileOp.writes,FileOp.locked,h])

theorem uses_unlock (h : L path) : (unlock path).Uses (FileOp.Keeps W L) :=
  uses_perform (by simp [FileOp.Keeps,FileOp.writes,FileOp.locked,h])

theorem uses_passOn {wrap : IoErrorKind → ε} {call : FileProgram ν (Except IoErrorKind α)}
    (h : call.Uses allowed) : (passOn wrap call).run.Uses allowed :=
  uses_bind h fun _ => .done _

mutual
theorem uses_removeTree {path : List ν} :
    (t : FileTree ν) → (∀ q, path <+: q → W q) → (removeTree path t).Uses (FileOp.Keeps W L)
  | .directory entries, h =>
    uses_bind (uses_removeEntries entries h) fun outcome => by
      rcases outcome with e | ⟨⟩
      · exact .done _
      · exact uses_perform (keeps_of_writes rfl rfl (h _ List.prefix_rfl))
  | .file _, h => uses_removeFile (h _ List.prefix_rfl)
  | .symlink _, h => uses_removeFile (h _ List.prefix_rfl)
  | .special, h => uses_removeFile (h _ List.prefix_rfl)
theorem uses_removeEntries {path : List ν} :
    (entries : List (ν × FileTree ν)) → (∀ q, path <+: q → W q) →
    (removeEntries path entries).Uses (FileOp.Keeps W L)
  | [], _ => .done _
  | (_,t)::entries, h =>
    uses_bind (uses_removeTree t fun q hq => h q ((List.prefix_append _ _).trans hq))
      fun outcome => by
        rcases outcome with e | ⟨⟩
        · exact .done _
        · exact uses_removeEntries entries h
end

theorem uses_removeDirAll (h : ∀ q, path <+: q → W q) :
    (removeDirAll path).Uses (FileOp.Keeps W L) := by
  refine uses_bind (uses_perform (keeps_of_reads rfl rfl)) fun outcome => ?_
  rcases outcome with e | tree
  · exact .done _
  · exact uses_removeTree tree h

theorem uses_writeNew {wrap : IoErrorKind → ε} {writes : List (List UInt8)} (h : W path) :
    (writeNew wrap path writes).run.Uses (FileOp.Keeps W L) := by
  refine uses_run_bind (uses_passOn (uses_createNew h)) fun _ => ?_
  exact Program.uses_forM fun _ _ => uses_passOn (uses_append h)

end Uses

end Files

namespace Disk

variable {ν : Type} [LinearOrder ν]

open FileTree

def setRoot (disk : Disk ν) (root : Option (FileTree ν)) : Disk ν := {disk with root}

def create (disk : Disk ν) (path : List ν) (node : FileTree ν) : Except IoErrorKind Unit × Disk ν :=
  match reach path disk.root with
  | .ok none => (.ok (),disk.setRoot (put (some node) path disk.root))
  | .ok (some _) => (.error .alreadyExists,disk)
  | .error e => (.error e,disk)

def edit (disk : Disk ν) (path : List ν) (f : List UInt8 → List UInt8) :
    Except IoErrorKind Unit × Disk ν :=
  match stat path disk.root with
  | .ok (.file content) => (.ok (),disk.setRoot (put (some (.file (f content))) path disk.root))
  | .ok (.directory _) => (.error .isADirectory,disk)
  | .ok _ => (.error .other,disk)
  | .error e => (.error e,disk)

/-- What a node may be renamed over. -/
def renameOver (node : FileTree ν) : Option (FileTree ν) → Except IoErrorKind Unit
  | none => .ok ()
  | some (.directory entries) =>
    match node with
    | .directory _ => if entries.isEmpty then .ok () else .error .directoryNotEmpty
    | _ => .error .isADirectory
  | some _ =>
    match node with
    | .directory _ => .error .notADirectory
    | _ => .ok ()

def move (disk : Disk ν) (source target : List ν) : Except IoErrorKind Unit × Disk ν :=
  match stat source disk.root with
  | .error e => (.error e,disk)
  | .ok node =>
    if source <+: target then (if source = target then .ok () else .error .other,disk)
    else match reach target disk.root with
      | .error e => (.error e,disk)
      | .ok there =>
        match renameOver node there with
        | .error e => (.error e,disk)
        | .ok () => (.ok (),disk.setRoot (put (some node) target (put none source disk.root)))

def removeFile (disk : Disk ν) (path : List ν) : Except IoErrorKind Unit × Disk ν :=
  match stat path disk.root with
  | .ok (.directory _) => (.error .isADirectory,disk)
  | .ok _ => (.ok (),disk.setRoot (put none path disk.root))
  | .error e => (.error e,disk)

def removeDir (disk : Disk ν) (path : List ν) : Except IoErrorKind Unit × Disk ν :=
  match stat path disk.root with
  | .ok (.directory []) => (.ok (),disk.setRoot (put none path disk.root))
  | .ok (.directory _) => (.error .directoryNotEmpty,disk)
  | .ok _ => (.error .notADirectory,disk)
  | .error e => (.error e,disk)

def perform (pid : ℕ) : (op : FileOp ν) → Disk ν → op.Result × Disk ν
  | .metadata path, disk => ((stat path disk.root).map metadata,disk)
  | .readFile path, disk =>
    (match stat path disk.root with
      | .ok (.file content) => .ok content
      | .ok (.directory _) => .error .isADirectory
      | .ok _ => .error .other
      | .error e => .error e,disk)
  | .readLink path, disk =>
    (match stat path disk.root with
      | .ok (.symlink target) => .ok target
      | .ok _ => .error .other
      | .error e => .error e,disk)
  | .readDir path, disk =>
    (match stat path disk.root with
      | .ok (.directory entries) => .ok (entries.map Prod.fst)
      | .ok _ => .error .notADirectory
      | .error e => .error e,disk)
  | .readTree path, disk => (stat path disk.root,disk)
  | .createDir path, disk => disk.create path (.directory [])
  | .createNew path, disk => disk.create path (.file [])
  | .openCreate path, disk =>
    match reach path disk.root with
    | .ok none => disk.create path (.file [])
    | _ => disk.edit path id
  | .truncate path, disk => disk.edit path fun _ => []
  | .append path bytes, disk => disk.edit path (·++bytes)
  | .createSymlink path target, disk => disk.create path (.symlink target)
  | .sync path, disk => ((stat path disk.root).map fun _ => (),disk)
  | .rename source target, disk => disk.move source target
  | .removeFile path, disk => disk.removeFile path
  | .removeDir path, disk => disk.removeDir path
  | .tryLock path, disk =>
    if path ∈ disk.locks.map Prod.fst then (.error .wouldBlock,disk)
    else (.ok (),{disk with locks := (path,pid)::disk.locks})
  | .unlock path, disk => ((),{disk with locks := disk.locks.filter (· ≠ (path,pid))})
  | .fetchAdd counter, disk =>
    (disk.counters pid counter,{disk with
      counters := Function.update disk.counters pid
        (Function.update (disk.counters pid) counter (disk.counters pid counter+1))})

section Perform

variable {pid : ℕ} {disk : Disk ν} {op : FileOp ν}

theorem perform_root_induction {P : Option (FileTree ν) → Prop} (base : P disk.root)
    (put : ∀ x path t, path ∈ op.writes → P t → P (put x path t)) :
    P (perform pid op disk).2.root := by
  have hcreate : ∀ path node, path ∈ op.writes → P (disk.create path node).2.root := by
    intro path node hpath
    unfold create
    split
    · exact put _ _ _ hpath base
    · exact base
    · exact base
  have hedit : ∀ path f, path ∈ op.writes → P (disk.edit path f).2.root := by
    intro path f hpath
    unfold edit
    split
    · exact put _ _ _ hpath base
    all_goals exact base
  cases op with
  | createDir path => exact hcreate _ _ (by simp [FileOp.writes])
  | createNew path => exact hcreate _ _ (by simp [FileOp.writes])
  | createSymlink path target => exact hcreate _ _ (by simp [FileOp.writes])
  | truncate path => exact hedit _ _ (by simp [FileOp.writes])
  | append path bytes => exact hedit _ _ (by simp [FileOp.writes])
  | openCreate path =>
    simp only [perform]
    split
    · exact hcreate _ _ (by simp [FileOp.writes])
    · exact hedit _ _ (by simp [FileOp.writes])
  | rename source target =>
    simp only [perform,move]
    split
    · exact base
    · split
      · exact base
      · split
        · exact base
        · split
          · exact base
          · exact put _ _ _ (by simp [FileOp.writes])
              (put _ _ _ (by simp [FileOp.writes]) base)
  | removeFile path =>
    simp only [perform,removeFile]
    split
    · exact base
    · exact put _ _ _ (by simp [FileOp.writes]) base
    · exact base
  | removeDir path =>
    simp only [perform,removeDir]
    split
    · exact put _ _ _ (by simp [FileOp.writes]) base
    all_goals exact base
  | tryLock path =>
    simp only [perform]
    split
    · exact base
    · exact base
  | _ => exact base

/-- What stands beside the paths an operation writes is left alone. -/
theorem get_perform {q : List ν} (h : ∀ path ∈ op.writes, ¬ path <+: q ∧ ¬ q <+: path) :
    get q (perform pid op disk).2.root = get q disk.root :=
  perform_root_induction (P := fun t => get q t = get q disk.root) rfl
    fun x path _ hpath ht => (get_put_of_disjoint x (h path hpath).1 (h path hpath).2).trans ht

end Perform

section Exec

variable {pid : ℕ} {disk disk' : Disk ν} {ε α : Type} {wrap : IoErrorKind → ε} {path : List ν}

theorem exec_createDir_cases (pid : ℕ) (path : List ν) (disk : Disk ν) :
    (HasParent path disk.root ∧ get path disk.root = none ∧
      (Files.createDir path).exec (perform pid) disk =
        (.ok (),disk.setRoot (put (some (.directory [])) path disk.root))) ∨
    (∃ node, get path disk.root = some node ∧
      (Files.createDir path).exec (perform pid) disk = (.error .alreadyExists,disk)) ∨
    ∃ e, e ≠ .alreadyExists ∧ (Files.createDir path).exec (perform pid) disk = (.error e,disk) := by
  have hexec : (Files.createDir path).exec (perform pid) disk =
      disk.create path (.directory []) := rfl
  rw [hexec,create]
  obtain ⟨hparent,habsent,hreach⟩ | ⟨node,hnode,hreach⟩ | ⟨e,he,-,-,hreach⟩ :=
    reach_cases path disk.root
  · exact Or.inl ⟨hparent,habsent,by rw [hreach]⟩
  · exact Or.inr (Or.inl ⟨node,hnode,by rw [hreach]⟩)
  · exact Or.inr (Or.inr ⟨e,he,by rw [hreach]⟩)

theorem get_exec {W L : List ν → Prop} {p : FileProgram ν α} (hp : p.Uses (FileOp.Keeps W L))
    {q : List ν} (hq : ∀ path, W path → ¬ path <+: q ∧ ¬ q <+: path) :
    get q (p.exec (perform pid) disk).2.root = get q disk.root := by
  refine Program.exec_preserves (perform pid) (fun d => get q d.root = get q disk.root)
    (Program.uses_mono hp fun op hop d hd => ?_) rfl
  exact (get_perform fun path hpath => hq path (hop.1 path hpath)).trans hd

theorem exec_truncate_eq_ok :
    (Files.truncate path).exec (perform pid) disk = (.ok (),disk') ↔
      ∃ content, get path disk.root = some (.file content) ∧
        disk' = disk.setRoot (put (some (.file [])) path disk.root) := by
  have hexec : (Files.truncate path).exec (perform pid) disk = disk.edit path fun _ => [] := rfl
  rw [hexec,edit]
  constructor
  · intro h
    split at h
    · rename_i content hstat
      exact ⟨content,get_of_stat hstat,(Prod.mk.inj h).2.symm⟩
    all_goals exact absurd (Prod.mk.inj h).1 (by simp)
  · rintro ⟨content,hget,rfl⟩
    rw [stat_of_get hget]

theorem exec_metadata (pid : ℕ) (path : List ν) (disk : Disk ν) :
    (Files.metadata path).exec (perform pid) disk =
      ((stat path disk.root).map FileTree.metadata,disk) := rfl

theorem exec_metadata_of_get {node : FileTree ν} (h : get path disk.root = some node) :
    (Files.metadata path).exec (perform pid) disk = (.ok node.metadata,disk) := by
  rw [exec_metadata,stat_of_get h]
  rfl

theorem exec_metadata_eq_ok {metadata : Metadata} :
    (Files.metadata path).exec (perform pid) disk = (.ok metadata,disk') ↔
      ∃ node, get path disk.root = some node ∧ node.metadata = metadata ∧ disk' = disk := by
  rw [exec_metadata]
  constructor
  · intro h
    obtain ⟨hstat,rfl⟩ := Prod.mk.inj h
    rcases hnode : stat path disk.root with e | node
    · simp [hnode,Except.map] at hstat
    · rw [hnode] at hstat
      exact ⟨node,get_of_stat hnode,Except.ok.inj hstat,rfl⟩
  · rintro ⟨node,hnode,rfl,rfl⟩
    rw [stat_of_get hnode]
    rfl

theorem exec_passOn (call : FileProgram ν (Except IoErrorKind α)) :
    (Files.passOn wrap call).run.exec (perform pid) disk =
      ((call.exec (perform pid) disk).1.mapError wrap,(call.exec (perform pid) disk).2) :=
  Program.exec_bind (perform pid) call _ disk

theorem exec_passOn_bind {call : FileProgram ν (Except IoErrorKind α)} {a : α} {β : Type}
    {g : α → Program.Fallible (FileOp ν) FileOp.Result ε β}
    (h : call.exec (perform pid) disk = (.ok a,disk')) :
    (Files.passOn wrap call >>= g).run.exec (perform pid) disk =
      (g a).run.exec (perform pid) disk' := by
  rw [ExceptT.run_bind,Program.exec_bind,exec_passOn,h]
  rfl

theorem exec_readFile_of_get {content : List UInt8}
    (h : get path disk.root = some (.file content)) :
    (Files.readFile path).exec (perform pid) disk = (.ok content,disk) := by
  change perform pid (.readFile path) disk = _
  simp only [perform,stat_of_get h]

theorem exec_readTree_of_get {node : FileTree ν} (h : get path disk.root = some node) :
    (Files.readTree path).exec (perform pid) disk = (.ok node,disk) := by
  change (stat path disk.root,disk) = _
  rw [stat_of_get h]

theorem exec_passOn_eq_ok {call : FileProgram ν (Except IoErrorKind α)} {a : α} :
    (Files.passOn wrap call).run.exec (perform pid) disk = (.ok a,disk') ↔
      call.exec (perform pid) disk = (.ok a,disk') := by
  change (call >>= fun r => .done (r.mapError wrap)).exec _ _ = _ ↔ _
  rw [Program.exec_bind]
  rcases call.exec (perform pid) disk with ⟨e | b,d⟩
  · simp [Program.exec,Except.mapError]
  · simp [Program.exec,Except.mapError]

end Exec

end Disk

end CommitCiPreflight
