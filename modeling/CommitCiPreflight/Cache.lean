import CommitCiPreflight.Config
import CommitCiPreflight.Mounts

/-! The managed cache of `cache.rs`: how an entry is prepared. A generation is staged beside
the data of its entry, under the entry's lock, on a platform that keeps payload links and
has no `clonefile`. -/
namespace CommitCiPreflight

open Program (attempt ensure)
open Files (passOn)

def ownerFile : OsString := .ofStr ".ccp-cache-root-v1.json"

def ownerBytes : Bytes := Text.bytes
  "\x7b\"owner\":\"commit-ci-preflight\",\"purpose\":\"managed-cache-root\",\"schema_version\":\"1.0\"\x7d\n"

def entriesDir : OsString := .ofStr "entries"

def workspacesDir : OsString := .ofStr "workspaces"

def dataDir : OsString := .ofStr "data"

def completeFile : OsString := .ofStr ".complete-v1"

def completeBytes : Bytes := Text.bytes "complete-v1\n"

def generationManifestFile : OsString := .ofStr ".generation-v1.json"

def generationSchemaVersion : String := "1.0"

def entryLockFile : OsString := .ofStr ".entry-lock-v1"

def maxInventoryNodes : ℕ := 100000

def tempSequence : ℕ := 0

def runLockSequence : ℕ := 2

def nextSequence (counter : ℕ) : FileProgram OsString ℕ := Files.fetchAdd counter

abbrev CacheIo := Program.Fallible (FileOp OsString) FileOp.Result CacheError

def validatedDigestHex (digest : String) : Option String :=
  (Text.stripPrefix digest "sha256:").filter fun hex =>
    hex.utf8ByteSize = 64 && (Text.bytes hex).all Text.isLowerHex

/-- A cache key is a digest, by construction. -/
structure CacheKey where
  digest : String
  valid : (validatedDigestHex digest).isSome
  deriving DecidableEq

namespace CacheKey

structure Input where
  schemaVersion : String
  project : String
  planDigest : String
  image : String
  cacheId : String

def Input.encode (input : Input) : Json :=
  .obj [("schema_version",.str input.schemaVersion),("project",.str input.project),
    ("plan_digest",.str input.planDigest),("image",.str input.image),
    ("cache_id",.str input.cacheId)]

theorem validatedDigestHex_canonicalDigest (crates : Crates) (v : Json) :
    (validatedDigestHex (canonicalDigest crates v)).isSome := by
  have hhex := bytes_encodeHex (crates.sha256 (canonicalJson crates v)).toList
  rw [Text.length_bytes,List.Vector.toList_length] at hhex
  have hstrip : Text.stripPrefix (canonicalDigest crates v) "sha256:" =
      some (encodeHex (crates.sha256 (canonicalJson crates v)).toList) :=
    Text.stripPrefix_eq_some.2 String.toList_append
  rw [validatedDigestHex,hstrip]
  simp only [Option.filter,hhex.1,List.all_eq_true.2 hhex.2]
  rfl

def forPlanCache (crates : Crates) (envelope : ExecutionPlanEnvelopeV1) (cache : NormalizedCache) :
    CacheKey :=
  let input : Input := ⟨"1.0",envelope.plan.project,envelope.planDigest,
    envelope.plan.runtime.image,cache.id⟩
  ⟨canonicalDigest crates input.encode,validatedDigestHex_canonicalDigest crates _⟩

def directoryName (key : CacheKey) : String := "sha256-"++String.ofList (key.digest.toList.drop 7)

end CacheKey

structure ResolvedCacheRoot where
  path : HostPath

namespace ResolvedCacheRoot

def entryPath (root : ResolvedCacheRoot) (key : CacheKey) : HostPath :=
  root.path++[entriesDir,.ofStr key.directoryName]

def entryDataPath (root : ResolvedCacheRoot) (key : CacheKey) : HostPath :=
  root.entryPath key++[dataDir]

def workspacePath (root : ResolvedCacheRoot) (planDigest : String) : Except CacheError HostPath :=
  match validatedDigestHex planDigest with
  | some hex => .ok (root.path++[workspacesDir,.ofStr ("sha256-"++hex)])
  | none => .error .invalidDigest

end ResolvedCacheRoot

def requireOwnerFile (marker : HostPath) : CacheIo Unit := do
  match ← Files.metadata marker with
  | .ok ⟨.symlink,_⟩ => throw (.symlinkInManagedRoot marker)
  | .ok ⟨.file,_⟩ => return ()
  | .ok _ => throw (.invalidOwnershipMarker marker)
  | .error .notFound => throw (.ownershipMissing marker.dropLast)
  | .error e => throw (.io e)

def validateOwnerMarker (marker : HostPath) : CacheIo Unit := do
  requireOwnerFile marker
  match ← Files.readFile marker with
  | .ok bytes =>
    if bytes.take (ownerBytes.length+1) = ownerBytes then return ()
    else throw (.invalidOwnershipMarker marker)
  | .error .notFound => throw (.ownershipMissing marker.dropLast)
  | .error e => throw (.io e)

def validatePlainDirectory (path : HostPath) : CacheIo Unit := do
  match ← Files.metadata path with
  | .ok ⟨.symlink,_⟩ => throw (.symlinkInManagedRoot path)
  | .ok ⟨.directory,_⟩ => return ()
  | .ok _ => throw (.unexpectedEntry path)
  | .error e => throw (.io e)

def ensureManagedDirectory (path : HostPath) : CacheIo Unit := do
  match ← Files.createDir path with
  | .ok () => validatePlainDirectory path
  | .error .alreadyExists => validatePlainDirectory path
  | .error e => throw (.io e)

def readOptionalFile (path : HostPath) : CacheIo (Option Bytes) := do
  match ← Files.metadata path with
  | .ok ⟨.symlink,_⟩ => throw (.symlinkInManagedRoot path)
  | .ok ⟨.file,_⟩ => return some (← passOn .io (Files.readFile path))
  | .ok _ => throw (.unexpectedEntry path)
  | .error .notFound => return none
  | .error e => throw (.io e)

def removeIfPresent (path : HostPath) : CacheIo Unit := do
  match ← Files.metadata path with
  | .ok ⟨.symlink,_⟩ => throw (.symlinkInManagedRoot path)
  | .ok ⟨.directory,_⟩ => passOn .io (Files.removeDirAll path)
  | .ok ⟨.file,_⟩ => passOn .io (Files.removeFile path)
  | .ok _ => throw (.unexpectedEntry path)
  | .error .notFound => return ()
  | .error e => throw (.io e)

def lockOwner (pid : ℕ) (label : String) : Bytes := Text.bytes
  ("\x7b\"schema_version\":\"1.0\",\"owner\":\"commit-ci-preflight\",\"purpose\":\""++label++
    "\",\"pid\":"++toString pid++"\x7d\n")

def writeLockOwner (pid : ℕ) (path : HostPath) (label : String) : CacheIo Unit := do
  passOn .io (Files.truncate path)
  passOn .io (Files.append path (lockOwner pid label))

def requireLockFile (path : HostPath) : CacheIo Unit := do
  match ← Files.metadata path with
  | .ok ⟨.symlink,_⟩ => throw (.symlinkInManagedRoot path)
  | .ok ⟨.file,_⟩ => return ()
  | .ok _ => throw (.unexpectedEntry path)
  | .error .notFound => return ()
  | .error e => throw (.io e)

/-- `try_lock_exclusive`. -/
def tryLockExclusive (path : HostPath) : CacheIo Unit := do
  match ← Files.tryLock path with
  | .ok () => return ()
  | .error .wouldBlock => throw (.lockBusy path)
  | .error e => throw (.io e)

def acquireAdvisoryLock (pid : ℕ) (path : HostPath) (label : String) : CacheIo Unit := do
  requireLockFile path
  passOn .io (Files.openCreate path)
  tryLockExclusive path
  match ← attempt (writeLockOwner pid path label) with
  | .ok () => return ()
  | .error e =>
    Files.unlock path
    throw e

def acquireEntryLock (pid : ℕ) (entry : HostPath) : CacheIo Unit :=
  acquireAdvisoryLock pid (entry++[entryLockFile]) "cache entry"

inductive PayloadLinkPolicy
  | preserve
  | reject
  deriving DecidableEq

structure PayloadTreeStats where
  bytes : UInt64
  files : UInt64

def measureSymlink (path : HostPath) (policy : PayloadLinkPolicy) : CacheIo PayloadTreeStats := do
  ensure (policy ≠ .reject) (.payloadSymlinkUnsupported path)
  let target ← passOn (.payloadSymlinkRead path) (Files.readLink path)
  return ⟨.ofNat target.length,1⟩

def addStats (stats child : PayloadTreeStats) : Except CacheError PayloadTreeStats :=
  match checkedAdd stats.bytes child.bytes,checkedAdd stats.files child.files with
  | some bytes,some files => .ok ⟨bytes,files⟩
  | _,_ => .error .sizeOverflow

def walkPayload (nodeLimit : ℕ) (policy : PayloadLinkPolicy) :
    ℕ → HostPath → ℕ → CacheIo (PayloadTreeStats × ℕ)
  | 0, _, _ => throw .inventoryLimitExceeded
  | depth+1, path, nodes => do
    let nodes := nodes+1
    ensure (nodes ≤ nodeLimit) .inventoryLimitExceeded
    match (← passOn .io (Files.metadata path)) with
    | ⟨.symlink,_⟩ => return (← measureSymlink path policy,nodes)
    | ⟨.file,length⟩ => return (⟨.ofNat length,1⟩,nodes)
    | ⟨.special,_⟩ => throw (.unexpectedEntry path)
    | ⟨.directory,_⟩ =>
      let names ← passOn .io (Files.readDir path)
      names.foldlM (fun (stats,nodes) name => do
        let (child,nodes) ← walkPayload nodeLimit policy depth (path++[name]) nodes
        return (← Program.ofExcept (addStats stats child),nodes)) (⟨0,0⟩,nodes)

def validatePayloadTree (root : HostPath) (nodeLimit : ℕ) (policy : PayloadLinkPolicy) :
    CacheIo Unit := do
  match (← passOn .io (Files.metadata root)) with
  | ⟨.symlink,_⟩ => throw (.symlinkInManagedRoot root)
  | ⟨.directory,_⟩ =>
    let _ ← walkPayload nodeLimit policy (nodeLimit+1) root 0
  | _ => throw (.unexpectedEntry root)

def requireAbsent (destination : HostPath) : CacheIo Unit := do
  match ← Files.metadata destination with
  | .ok _ => throw (.unexpectedEntry destination)
  | .error .notFound => return ()
  | .error e => throw (.io e)

def recreatePayloadLink (source destination : HostPath) (policy : PayloadLinkPolicy) :
    CacheIo Unit := do
  ensure (policy ≠ .reject) (.payloadSymlinkUnsupported source)
  let target ← passOn (.payloadSymlinkRead source) (Files.readLink source)
  requireAbsent destination
  passOn (.payloadSymlinkCreate destination) (Files.createSymlink destination target)

/-- `fs::copy`. -/
def copyFile (source destination : HostPath) : CacheIo Unit := do
  let bytes ← passOn .io (Files.readFile source)
  passOn .io (Files.openCreate destination)
  passOn .io (Files.truncate destination)
  passOn .io (Files.append destination bytes)

def copyPayloadNode (nodeLimit : ℕ) (policy : PayloadLinkPolicy) :
    ℕ → HostPath → HostPath → ℕ → CacheIo ℕ
  | 0, _, _, _ => throw .inventoryLimitExceeded
  | depth+1, source, destination, nodes => do
    let nodes := nodes+1
    ensure (nodes ≤ nodeLimit) .inventoryLimitExceeded
    match (← passOn .io (Files.metadata source)) with
    | ⟨.symlink,_⟩ =>
      recreatePayloadLink source destination policy
      return nodes
    | ⟨.file,_⟩ =>
      copyFile source destination
      return nodes
    | ⟨.special,_⟩ => throw (.unexpectedEntry source)
    | ⟨.directory,_⟩ =>
      passOn .io (Files.createDir destination)
      let names ← passOn .io (Files.readDir source)
      names.foldlM (fun nodes name =>
        copyPayloadNode nodeLimit policy depth (source++[name]) (destination++[name]) nodes) nodes

def copyPayloadTree (source destination : HostPath) (nodeLimit : ℕ) (policy : PayloadLinkPolicy) :
    CacheIo Unit := do
  match (← passOn .io (Files.metadata source)) with
  | ⟨.symlink,_⟩ => throw (.symlinkInManagedRoot source)
  | ⟨.directory,_⟩ =>
    requireAbsent destination
    let _ ← copyPayloadNode nodeLimit policy (nodeLimit+1) source destination 0
  | _ => throw (.unexpectedEntry source)

structure CacheGenerationManifestV1 where
  schemaVersion : String
  keyDigest : String
  planDigest : String
  generation : UInt64
  state : String
  deriving DecidableEq

open Codec in
def CacheGenerationManifestV1.codec : Codec CacheGenerationManifestV1 :=
  .struct
    (Fields.of CacheGenerationManifestV1.mk
      |>.add (.required "schema_version" string) (·.schemaVersion)
      |>.add (.required "key_digest" string) (·.keyDigest)
      |>.add (.required "plan_digest" string) (·.planDigest)
      |>.add (.required "generation" u64) (·.generation)
      |>.add (.required "state" string) (·.state))
    (by decide +kernel) fun _ => rfl

section

variable (crates : Crates)

def CacheGenerationManifestV1.bytes (manifest : CacheGenerationManifestV1) : Bytes :=
  canonicalJson crates (CacheGenerationManifestV1.codec.encode manifest)

/-- `serde_json::from_slice`, with its error as the callers pass it on. -/
def parseGenerationManifest (bytes : Bytes) : Except CacheError CacheGenerationManifestV1 :=
  match fromSlice crates CacheGenerationManifestV1.codec bytes with
  | some manifest => .ok manifest
  | none => .error (.io .invalidData)

def readGenerationManifest (path : HostPath) : CacheIo CacheGenerationManifestV1 := do
  let bytes ← passOn .io (Files.readFile path)
  Program.ofExcept (parseGenerationManifest crates bytes)

def writeGenerationManifest (stagingPath : HostPath) (manifest : CacheGenerationManifestV1) :
    CacheIo Unit :=
  Files.writeNew .io (stagingPath++[generationManifestFile])
    [manifest.bytes crates,Text.bytes "\n"]

inductive CacheEntryStatus
  | complete
  | incomplete
  deriving DecidableEq

def entryStatus (path : HostPath) (name : String) : CacheIo CacheEntryStatus := do
  if (Text.stripPrefix name ".entry-tmp-").isSome then return .incomplete
  let marker := path++[completeFile]
  match ← Files.metadata marker with
  | .ok ⟨.symlink,_⟩ => throw (.symlinkInManagedRoot marker)
  | .ok ⟨.file,_⟩ =>
    let bytes ← passOn .io (Files.readFile marker)
    ensure (bytes = completeBytes) (.unexpectedEntry marker)
    match ← readOptionalFile (path++[generationManifestFile]) with
    | some manifestBytes =>
      let parsed ← Program.ofExcept (parseGenerationManifest crates manifestBytes)
      ensure (parsed.state = "complete") .generationMismatch
      return .complete
    | none => return .complete
  | .ok _ => throw (.unexpectedEntry marker)
  | .error .notFound => return .incomplete
  | .error e => throw (.io e)

/-- What a caller holds of a generation it prepared, with the lock of the entry. -/
structure PreparedCacheEntry where
  path : HostPath
  dataPath : HostPath
  stagingPath : HostPath
  keyDigest : String
  planDigest : String
  generation : UInt64
  wasComplete : Bool
  deriving DecidableEq

inductive PreparedPhase
  | preparing
  | staging
  | promoted
  deriving DecidableEq

def PreparedCacheEntry.generationExpectation (prepared : PreparedCacheEntry) :
    CacheGenerationExpectation :=
  ⟨prepared.keyDigest,prepared.planDigest,prepared.generation,"staging"⟩

def PreparedCacheEntry.manifest (prepared : PreparedCacheEntry) : CacheGenerationManifestV1 :=
  ⟨generationSchemaVersion,prepared.keyDigest,prepared.planDigest,prepared.generation,"staging"⟩

def validateOwnedName (name leading : String) : Except CacheError Unit :=
  if leading.utf8ByteSize < name.utf8ByteSize ∧ name.utf8ByteSize ≤ 128 ∧
      leading.toList <+: name.toList ∧
      name.toList.all (fun c => Text.isAsciiAlphanumeric c || c == '.' || c == '-') then .ok ()
  else .error .generationMismatch

/-- `Path::file_name`, where it is text. -/
def HostPath.fileName (path : HostPath) : Option String :=
  path.getLast?.bind fun name => Text.fromUtf8 name.bytes

def validateOwnedStagingRoot (entryPath stagingPath : HostPath) : CacheIo Unit := do
  ensure (stagingPath.parent = some entryPath) .generationMismatch
  match stagingPath.fileName with
  | none => throw .generationMismatch
  | some name =>
    Program.ofExcept (validateOwnedName name ".staging-")
    validatePlainDirectory stagingPath

def removeOwnedGenerationDirectory (path : HostPath) : CacheIo Unit := do
  match ← Files.metadata path with
  | .ok ⟨.symlink,_⟩ => throw (.symlinkInManagedRoot path)
  | .ok ⟨.directory,_⟩ => passOn .io (Files.removeDirAll path)
  | .ok _ => throw (.unexpectedEntry path)
  | .error e => throw (.io e)

/-- `PreparedCacheGenerationOwner::drop`: it ends early where a call fails. -/
def dropGeneration (prepared : PreparedCacheEntry) (phase : PreparedPhase) : CacheIo Unit := do
  if phase = .promoted then return ()
  validateOwnedStagingRoot prepared.path prepared.stagingPath
  if phase = .staging then
    let manifest ← readGenerationManifest crates (prepared.stagingPath++[generationManifestFile])
    if manifest ≠ prepared.manifest then return ()
  removeOwnedGenerationDirectory prepared.stagingPath

/-- The owner is dropped, and then the lock it held. -/
def dropPreparedEntry (prepared : PreparedCacheEntry) (phase : PreparedPhase) :
    FileProgram OsString Unit := do
  let _ ← (dropGeneration crates prepared phase).run
  Files.unlock (prepared.path++[entryLockFile])

/-- `try_clone_tree` where there is no `clonefile`: the source is tested and nothing cloned. -/
def tryCloneTree (source : HostPath) (policy : PayloadLinkPolicy) : CacheIo Bool := do
  validatePayloadTree source maxInventoryNodes policy
  return false

def stageGeneration (prepared : PreparedCacheEntry) (policy : PayloadLinkPolicy) :
    CacheIo Unit := do
  ensureManagedDirectory prepared.dataPath
  if prepared.wasComplete then
    let source := prepared.path++[dataDir]
    removeIfPresent prepared.dataPath
    if !(← tryCloneTree source policy) then
      copyPayloadTree source prepared.dataPath maxInventoryNodes policy
  writeGenerationManifest crates prepared.stagingPath prepared.manifest

variable (pid : ℕ)

def prepareLockedEntry (path : HostPath) (key : CacheKey) (planDigest : String)
    (generation : UInt64) (policy : PayloadLinkPolicy) : CacheIo PreparedCacheEntry := do
  let complete := (← entryStatus crates path key.directoryName) = .complete
  let sequence ← nextSequence tempSequence
  let stagingPath := path++[.ofStr (".staging-"++toString pid++"-"++toString sequence)]
  ensureManagedDirectory stagingPath
  let prepared : PreparedCacheEntry := {
    path
    dataPath := stagingPath++[dataDir]
    stagingPath
    keyDigest := key.digest
    planDigest
    generation
    wasComplete := complete }
  match ← attempt (stageGeneration crates prepared policy) with
  | .ok () => return prepared
  | .error e =>
    let _ ← attempt (dropGeneration crates prepared .preparing)
    throw e

def ensureEntryDirectory (path : HostPath) : CacheIo Unit := do
  match ← Files.metadata path with
  | .ok ⟨.symlink,_⟩ => throw (.symlinkInManagedRoot path)
  | .ok ⟨.directory,_⟩ => return ()
  | .ok _ => throw (.unexpectedEntry path)
  | .error .notFound => passOn .io (Files.createDir path)
  | .error e => throw (.io e)

def prepareEntryWithPayloadLinkPolicy (root : ResolvedCacheRoot) (key : CacheKey)
    (planDigest : String) (generation : UInt64) (policy : PayloadLinkPolicy) :
    CacheIo PreparedCacheEntry := do
  validateOwnerMarker (root.path++[ownerFile])
  validatePlainDirectory (root.path++[entriesDir])
  let path := root.entryPath key
  ensureEntryDirectory path
  ensure (validatedDigestHex planDigest).isSome .invalidDigest
  acquireEntryLock pid path
  match ← attempt (prepareLockedEntry crates pid path key planDigest generation policy) with
  | .ok prepared => return prepared
  | .error e =>
    Files.unlock (path++[entryLockFile])
    throw e

def prepareEntry (root : ResolvedCacheRoot) (key : CacheKey) (planDigest : String)
    (generation : UInt64) : CacheIo PreparedCacheEntry :=
  prepareEntryWithPayloadLinkPolicy crates pid root key planDigest generation .preserve

end

end CommitCiPreflight
