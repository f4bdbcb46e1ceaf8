import CommitCiPreflight.FileSystem
import CommitCiPreflight.Text
import Mathlib.Data.List.Lex

/-! The mounts of a workspace, from `workspace.rs`: what is bound where in a container, and
the tests that keep a binding representable on a command line. -/
namespace CommitCiPreflight

/-- A file name: any bytes, ordered as `OsStr` orders them. -/
structure OsString where
  bytes : List UInt8
  deriving DecidableEq

namespace OsString

def order (name : OsString) : List ℕ := name.bytes.map UInt8.toNat

theorem order_injective : Function.Injective order := by
  intro a b h
  have hb : a.bytes = b.bytes := List.map_injective_iff.mpr (fun _ _ => UInt8.toNat.inj) h
  cases a
  cases b
  exact congrArg _ hb

instance : LinearOrder OsString := LinearOrder.lift' order order_injective

def ofStr (s : String) : OsString := ⟨Text.bytes s⟩

theorem ofStr_injective : Function.Injective ofStr := by
  intro s t h
  exact Text.bytes_injective (congrArg bytes h)

end OsString

/-- An absolute host path, by its components. -/
abbrev HostPath := List OsString

namespace HostPath

/-- The components that a text adds to a path; empty ones and dots add nothing. -/
def components (s : String) : HostPath :=
  ((Text.split s '/').filter fun c => c ≠ "" ∧ c ≠ ".").map OsString.ofStr

/-- `Path::join`. -/
def join (path : HostPath) (s : String) : HostPath :=
  if Text.startsWith s '/' then components s else path++components s

def bytes (path : HostPath) : List UInt8 :=
  if path = [] then Text.bytes "/" else path.flatMap fun name => Text.bytes "/"++name.bytes

def toStr (path : HostPath) : Option String := Text.fromUtf8 (bytes path)

/-- `Path::parent`. -/
def parent (path : HostPath) : Option HostPath := if path = [] then none else some path.dropLast

end HostPath

section Links

open FileTree Program

/-- What a link leads to: its text is followed from the directory the link is in, or from the root. -/
def behindLink (follow : HostPath → HostPath → FileProgram OsString (Option HostPath))
    (link rest : HostPath) : FileProgram OsString (Option HostPath) := do
  match ← Files.readLink link with
  | .ok target =>
    let names := (target.splitOn (Text.ascii '/')).map OsString.mk
    follow (if target.head? = some (Text.ascii '/') then [] else link.dropLast) (names++rest)
  | .error _ => return none

/-- The names of a path one after another, as the kernel resolves them. -/
def walk (follow : HostPath → HostPath → FileProgram OsString (Option HostPath)) :
    HostPath → HostPath → FileProgram OsString (Option HostPath)
  | here,[] => return some here
  | here,name::rest => do
    match ← Files.metadata here with
    | .ok ⟨.directory,_⟩ =>
      if name = .ofStr "" ∨ name = .ofStr "." then walk follow here rest
      else if name = .ofStr ".." then walk follow here.dropLast rest
      else
        match ← Files.metadata (here++[name]) with
        | .ok ⟨.symlink,_⟩ => behindLink follow (here++[name]) rest
        | .ok _ => walk follow (here++[name]) rest
        | .error _ => return none
    | _ => return none

def walkLinks : ℕ → HostPath → HostPath → FileProgram OsString (Option HostPath)
  | 0 => fun _ _ => return none
  | links+1 => walk (walkLinks links)

/-- Where a path leads whose last name may be a link; Linux follows forty links. -/
def resolve (path : HostPath) : FileProgram OsString (Option HostPath) := do
  match ← Files.metadata path with
  | .ok ⟨.symlink,_⟩ => behindLink (walkLinks 40) path []
  | .ok _ => return some path
  | .error _ => return none

/-- `Path::exists`. -/
def pathExists (path : HostPath) : FileProgram OsString Bool := do
  return (← resolve path).isSome

/-- `fs::symlink_metadata(path).is_ok()`. -/
def entryExists (path : HostPath) : FileProgram OsString Bool := do
  return (← Files.metadata path).isOk

variable {pid : ℕ} {disk : Disk OsString} {path : HostPath} {node : FileTree OsString}

theorem exec_resolve_of_get (h : get path disk.root = some node) (hlink : ∀ target, node ≠ .symlink target) :
    (resolve path).exec (Disk.perform pid) disk = (some path,disk) := by
  unfold resolve
  rw [exec_bind,Disk.exec_metadata,stat_of_get h]
  cases node with
  | symlink target => exact absurd rfl (hlink target)
  | _ => rfl

theorem exec_resolve_of_none (h : get path disk.root = none) :
    (resolve path).exec (Disk.perform pid) disk = (none,disk) := by
  unfold resolve
  rw [exec_bind,Disk.exec_metadata]
  rcases hstat : stat path disk.root with e | node
  · rfl
  · rw [get_of_stat hstat] at h
    cases h

theorem exec_pathExists_of_get (h : get path disk.root = some node)
    (hlink : ∀ target, node ≠ .symlink target) :
    (pathExists path).exec (Disk.perform pid) disk = (true,disk) := by
  unfold pathExists
  rw [exec_bind,exec_resolve_of_get h hlink]
  rfl

theorem exec_pathExists_of_none (h : get path disk.root = none) :
    (pathExists path).exec (Disk.perform pid) disk = (false,disk) := by
  unfold pathExists
  rw [exec_bind,exec_resolve_of_none h]
  rfl

end Links

/-- The errors of `cache.rs` that a workspace passes on. -/
inductive CacheError
  | noPersistentDefault
  | unsafePath (message : String)
  | ownershipMissing (path : HostPath)
  | invalidOwnershipMarker (path : HostPath)
  | symlinkInManagedRoot (path : HostPath)
  | unexpectedEntry (path : HostPath)
  | payloadSymlinkUnsupported (path : HostPath)
  | payloadSymlinkRead (path : HostPath) (source : IoErrorKind)
  | payloadSymlinkCreate (path : HostPath) (source : IoErrorKind)
  | inventoryLimitExceeded
  | invalidBudget
  | invalidDigest
  | generationMismatch
  | lockBusy (path : HostPath)
  | promotionUncertain
  | sizeOverflow
  | canonical
  | io (error : IoErrorKind)
  deriving DecidableEq

inductive MountAccess
  | readOnly
  | readWrite
  deriving DecidableEq

inductive MountPurpose
  | repository
  | cache
  | artifact
  deriving DecidableEq

inductive MountSourceKind
  | directory
  | regularFile
  deriving DecidableEq

structure CacheGenerationExpectation where
  keyDigest : String
  planDigest : String
  generation : UInt64
  state : String
  deriving DecidableEq

structure MountSourceExpectation where
  kind : MountSourceKind
  canonicalAnchor : HostPath
  exactRepository : Option HostPath
  cacheGeneration : Option CacheGenerationExpectation
  deriving DecidableEq

structure MountBinding where
  source : HostPath
  target : String
  access : MountAccess
  purpose : MountPurpose
  logicalId : Option String
  expectation : Option MountSourceExpectation
  deriving DecidableEq

structure WorkspacePlanV1 where
  schemaVersion : String
  repository : HostPath
  sourceSnapshotDigest : Option String
  runRoot : HostPath
  mounts : List MountBinding
  deriving DecidableEq

inductive WorkspaceError
  | mountExpectationMissing
  | mountSourceChanged (purpose : MountPurpose)
  | repositoryNotDirectory
  | invalidLogicalPath
  | unsupportedHostPath
  | duplicateTarget (target : String)
  | missingRepositoryMountTarget (path : String)
  | unsafeRepositoryMountTarget (path : String)
  | pathEscape
  | busy (path : HostPath)
  | unsafeManagedObject
  | cache (error : CacheError)
  | io (error : IoErrorKind)
  deriving DecidableEq

def containerWorkspace : String := "/workspace"

/-- The characters that would end or split an argument of `--mount`. -/
def breaksMountArgument (text : String) : Bool :=
  text.toList.any fun c => c == ',' || c == '=' || Text.isControl c

def validateHostPath (path : HostPath) : Except WorkspaceError Unit :=
  match path.toStr with
  | none => .error .unsupportedHostPath
  | some text => if breaksMountArgument text then .error .unsupportedHostPath else .ok ()

def hasPlainSegments (relative : String) : Prop :=
  ∀ segment ∈ Text.split relative '/', segment ≠ "" ∧ segment ≠ "." ∧ segment ≠ ".."

instance (relative : String) : Decidable (hasPlainSegments relative) :=
  inferInstanceAs (Decidable (∀ _ ∈ _, _))

def validateContainerMountTarget (target : String) : Except WorkspaceError Unit :=
  if breaksMountArgument target ∨ '\\' ∈ target.toList then .error .invalidLogicalPath
  else if target = containerWorkspace then .ok ()
  else match (Text.stripPrefix target containerWorkspace).bind (Text.stripPrefix · "/") with
    | none => .error .invalidLogicalPath
    | some relative =>
      if relative ≠ "" ∧ hasPlainSegments relative then .ok () else .error .invalidLogicalPath

def containerTarget (relative : String) : Except WorkspaceError String := do
  if relative = "" ∨ Text.startsWith relative '/' ∨ '\\' ∈ relative.toList ∨
      breaksMountArgument relative ∨ ¬ hasPlainSegments relative then
    .error .invalidLogicalPath
  let target := containerWorkspace++"/"++relative
  validateContainerMountTarget target
  return target

end CommitCiPreflight
