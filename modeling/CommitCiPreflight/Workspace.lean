import CommitCiPreflight.Cache

/-! How a workspace is prepared, from `workspace.rs`. The run root of a plan lies in the
cache root, is named by the plan's digest alone, and is used again by every run of the
plan. -/
namespace CommitCiPreflight

open Program (attempt)
open Files (passOn)

abbrev WorkspaceIo := Program.Fallible (FileOp OsString) FileOp.Result WorkspaceError

def runLockFile : OsString := .ofStr ".run-lock-v1"

def artifactsDir : OsString := .ofStr "artifacts"

/-- What the operating system says of the checkout, which no run changes. -/
structure Checkout where
  canonicalize : HostPath → Except IoErrorKind HostPath
  metadata : HostPath → Except IoErrorKind Metadata

structure WorkspaceLock where
  path : HostPath
  owner : Bytes

def createLockFile (path : HostPath) : WorkspaceIo Unit := do
  match ← Files.createNew path with
  | .ok () => return ()
  | .error .alreadyExists => throw (.busy path)
  | .error e => throw (.io e)

def WorkspaceLock.acquire (pid : ℕ) (runRoot : HostPath) : WorkspaceIo WorkspaceLock := do
  let path := runRoot++[runLockFile]
  let sequence ← nextSequence runLockSequence
  let owner := Text.bytes ("pid="++toString pid++" sequence="++toString sequence++"\n")
  createLockFile path
  match ← attempt (passOn WorkspaceError.io (Files.append path owner)) with
  | .ok () => return ⟨path,owner⟩
  | .error e =>
    let _ ← Files.removeFile path
    throw e

def WorkspaceLock.drop (lock : WorkspaceLock) : FileProgram OsString Unit := do
  match ← Files.readFile lock.path with
  | .ok bytes => if bytes = lock.owner then let _ ← Files.removeFile lock.path
  | .error _ => return ()

def validateUnderRoot (path root : HostPath) : Except WorkspaceError Unit :=
  if root <+: path then .ok () else .error .pathEscape

def ensurePlainDirectory (path : HostPath) : WorkspaceIo Unit := do
  match ← Files.createDir path with
  | .ok () => return ()
  | .error .alreadyExists =>
    match (← passOn .io (Files.metadata path)) with
    | ⟨.directory,_⟩ => return ()
    | _ => throw .unsafeManagedObject
  | .error e => throw (.io e)

/-- The loop over the components below a root. -/
def ensureDirectories : HostPath → List OsString → WorkspaceIo Unit
  | _, [] => return ()
  | current, name::rest => do
    ensurePlainDirectory (current++[name])
    ensureDirectories (current++[name]) rest

def createManagedDirectoryChain (path root : HostPath) : WorkspaceIo Unit := do
  Program.ofExcept (validateUnderRoot path root)
  ensureDirectories root (path.drop root.length)

def validateRepositoryMountTarget (checkout : Checkout) (repository : HostPath) (relative : String)
    (expectDirectory : Bool) : Except WorkspaceError Unit := do
  let target := repository.join relative
  match checkout.metadata target with
  | .error .notFound => .error (.missingRepositoryMountTarget relative)
  | .error e => .error (.io e)
  | .ok metadata =>
    if metadata.kind ≠ (if expectDirectory then .directory else .file) then
      .error (.unsafeRepositoryMountTarget relative)
    let canonical ← (checkout.canonicalize target).mapError .io
    if repository <+: canonical then .ok () else .error .pathEscape

def artifactKindFor (check : NormalizedCheck) (path : String) : ArtifactKind :=
  match check.artifactContracts.find? (·.path = path) with
  | some contract => contract.kind
  | none => .regularFile

def validateRepositoryMountTargets (checkout : Checkout) (plan : ExecutionPlanV1)
    (repository : HostPath) : Except WorkspaceError Unit := do
  let repository ← (checkout.canonicalize repository).mapError .io
  plan.caches.forM fun cache =>
    validateRepositoryMountTarget checkout repository cache.mountPath true
  plan.checks.forM fun check => check.artifacts.forM fun artifact =>
    validateRepositoryMountTarget checkout repository artifact
      (artifactKindFor check artifact = .directory)

def artifactSource (runRoot : HostPath) (artifact : String) : HostPath :=
  HostPath.join (runRoot++[artifactsDir]) artifact

/-- A regular file to truncate, or nothing yet. -/
def requireRegularFile (path : HostPath) : WorkspaceIo Unit := do
  match ← Files.metadata path with
  | .ok ⟨.file,_⟩ => return ()
  | .ok _ => throw .unsafeManagedObject
  | .error .notFound => return ()
  | .error e => throw (.io e)

/-- `File::create`. -/
def createFile (path : HostPath) : WorkspaceIo Unit := do
  passOn .io (Files.openCreate path)
  passOn .io (Files.truncate path)

def prepareArtifact (runRoot : HostPath) (artifact : String) (kind : ArtifactKind) :
    WorkspaceIo Unit := do
  let path := artifactSource runRoot artifact
  Program.ofExcept (validateUnderRoot path runRoot)
  match kind with
  | .directory => createManagedDirectoryChain path runRoot
  | .regularFile =>
    let some parent := path.parent | throw .pathEscape
    createManagedDirectoryChain parent runRoot
    requireRegularFile path
    createFile path

section

variable (crates : Crates) (envelope : ExecutionPlanEnvelopeV1) (root : ResolvedCacheRoot)

def cacheMounts (cacheSources : OrderedMap String HostPath) :
    List String → List NormalizedCache → Except WorkspaceError (List MountBinding × List String)
  | targets, [] => .ok ([],targets)
  | targets, declared::rest => do
    let source := (cacheSources.get? declared.id).getD
      (root.entryDataPath (.forPlanCache crates envelope declared))
    validateUnderRoot source root.path
    let target ← containerTarget declared.mountPath
    if target ∈ targets then .error (.duplicateTarget target)
    let (mounts,targets) ← cacheMounts cacheSources (target::targets) rest
    .ok ({
      source
      target
      access := .readWrite
      purpose := .cache
      logicalId := some declared.id
      expectation := some ⟨.directory,root.path,none,none⟩ }::mounts,targets)

def ArtifactKind.mountSourceKind : ArtifactKind → MountSourceKind
  | .directory => .directory
  | .regularFile => .regularFile

def artifactMounts (runRoot : HostPath) :
    List String → List (NormalizedCheck × String) → Except WorkspaceError (List MountBinding)
  | _, [] => .ok []
  | targets, (check,artifact)::rest => do
    let source := artifactSource runRoot artifact
    validateUnderRoot source runRoot
    let target ← containerTarget artifact
    if target ∈ targets then .error (.duplicateTarget target)
    let mounts ← artifactMounts runRoot (target::targets) rest
    .ok ({
      source
      target
      access := .readWrite
      purpose := .artifact
      logicalId := some (check.id++":"++artifact)
      expectation := some ⟨(artifactKindFor check artifact).mountSourceKind,runRoot,none,none⟩ }::mounts)

/-- The artifacts in the order of the loops over checks and their artifacts. -/
def ExecutionPlanV1.declaredArtifacts (plan : ExecutionPlanV1) : List (NormalizedCheck × String) :=
  plan.checks.flatMap fun check => check.artifacts.map fun artifact => (check,artifact)

def WorkspacePlanV1.buildWithCacheSources (checkout : Checkout) (repository : HostPath)
    (cacheSources : OrderedMap String HostPath) (sourceSnapshotDigest : Option String) :
    Except WorkspaceError WorkspacePlanV1 := do
  let repository ← (checkout.canonicalize repository).mapError .io
  if (checkout.metadata repository).toOption.map (·.kind) ≠ some .directory then
    .error .repositoryNotDirectory
  validateHostPath repository
  let runRoot ← (root.workspacePath envelope.planDigest).mapError .cache
  validateUnderRoot runRoot root.path
  let (caches,targets) ←
    cacheMounts crates envelope root cacheSources [containerWorkspace] envelope.plan.caches
  let artifacts ← artifactMounts runRoot targets envelope.plan.declaredArtifacts
  .ok {
    schemaVersion := "1.0"
    repository
    sourceSnapshotDigest
    runRoot
    mounts := {
      source := repository
      target := containerWorkspace
      access := .readOnly
      purpose := .repository
      logicalId := none
      expectation := some ⟨.directory,repository,some repository,none⟩ }::caches++artifacts }

/-- The first cache mount of a prepared entry gets the generation it must show. -/
def attachGeneration (mounts : List MountBinding) (entry : PreparedCacheEntry) : List MountBinding :=
  match mounts with
  | [] => []
  | mount::rest =>
    if mount.purpose = .cache ∧ mount.source = entry.dataPath then
      {mount with expectation := mount.expectation.map fun expectation =>
        {expectation with cacheGeneration := some entry.generationExpectation}}::rest
    else mount::attachGeneration rest entry

structure PreparedWorkspace where
  plan : WorkspacePlanV1
  cacheEntries : List PreparedCacheEntry
  lock : WorkspaceLock

def dropEntries (entries : List PreparedCacheEntry) : FileProgram OsString Unit :=
  entries.forM fun entry => dropPreparedEntry crates entry .staging

variable (pid : ℕ) (generation : UInt64)

/-- The loop over the caches, with the entries it holds when it ends. -/
def prepareCaches : List (String × PreparedCacheEntry) → List NormalizedCache →
    FileProgram OsString (Except WorkspaceError Unit × List (String × PreparedCacheEntry))
  | entries, [] => return (.ok (),entries)
  | entries, declared::rest => do
    let key := CacheKey.forPlanCache crates envelope declared
    match ← (prepareEntry crates pid root key envelope.planDigest generation).run with
    | .error e => return (.error (.cache e),entries)
    | .ok prepared =>
      match validateUnderRoot prepared.dataPath root.path with
      | .error e =>
        dropPreparedEntry crates prepared .staging
        return (.error e,entries)
      | .ok () => prepareCaches (entries++[(declared.id,prepared)]) rest

def prepareArtifacts (runRoot : HostPath) (artifacts : List (NormalizedCheck × String)) :
    WorkspaceIo Unit :=
  artifacts.forM fun (check,artifact) =>
    prepareArtifact runRoot artifact (artifactKindFor check artifact)

/-- The work of `prepare_with_generation` once the caches are prepared. -/
def prepareMounts (checkout : Checkout) (repository runRoot : HostPath)
    (entries : List (String × PreparedCacheEntry)) : WorkspaceIo WorkspacePlanV1 := do
  prepareArtifacts runRoot envelope.plan.declaredArtifacts
  let sources : OrderedMap String HostPath :=
    entries.foldl (fun sources entry => sources.insert entry.1 entry.2.dataPath) .empty
  let plan ← Program.ofExcept
    (WorkspacePlanV1.buildWithCacheSources crates envelope root checkout repository sources none)
  let mounts := entries.foldl (fun mounts entry => attachGeneration mounts entry.2) plan.mounts
  return {plan with mounts}

/-- The work of `prepare_with_generation` under the lock of the run. -/
def prepareUnderLock (checkout : Checkout) (repository runRoot : HostPath) :
    WorkspaceIo (WorkspacePlanV1 × List PreparedCacheEntry) := do
  let (result,entries) ← prepareCaches crates envelope root pid generation [] envelope.plan.caches
  let plan ← attempt do
    Program.ofExcept result
    prepareMounts crates envelope root checkout repository runRoot entries
  match plan with
  | .ok plan => return (plan,entries.map Prod.snd)
  | .error e =>
    dropEntries crates (entries.map Prod.snd)
    throw e

def PreparedWorkspace.prepareWithGeneration (checkout : Checkout) (repository : HostPath) :
    WorkspaceIo PreparedWorkspace := do
  Program.ofExcept (validateRepositoryMountTargets checkout envelope.plan repository)
  let runRoot ← Program.ofExcept ((root.workspacePath envelope.planDigest).mapError .cache)
  createManagedDirectoryChain runRoot root.path
  let lock ← WorkspaceLock.acquire pid runRoot
  match ← attempt (prepareUnderLock crates envelope root pid generation checkout repository runRoot) with
  | .ok (plan,cacheEntries) => return ⟨plan,cacheEntries,lock⟩
  | .error e =>
    lock.drop
    throw e

end

end CommitCiPreflight
