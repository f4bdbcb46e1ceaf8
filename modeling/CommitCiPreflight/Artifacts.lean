import CommitCiPreflight.Receipt
import CommitCiPreflight.Workspace

/-! The observation of artifacts after the checks, from `workspace.rs`. Every contract of the
plan gets one evidence record of what its mount source holds by then. -/
namespace CommitCiPreflight

open Program (ensure)
open Files (passOn)

inductive ArtifactObservationError
  | missing (path : String)
  | unsafeObject (path : String)
  | changedDuringObservation (path : String)
  | limit (path : String)
  | pathEscape
  | manifest
  | io (error : IoErrorKind)
  deriving DecidableEq

abbrev ArtifactIo := Program.Fallible (FileOp OsString) FileOp.Result ArtifactObservationError

def mapArtifactIo (path : String) : IoErrorKind → ArtifactObservationError
  | .notFound => .missing path
  | e => .io e

structure ArtifactContentEntryV1 where
  path : String
  sizeBytes : UInt64
  contentDigest : String
  deriving DecidableEq

structure ArtifactContentManifestV1 where
  schemaVersion : String
  entries : List ArtifactContentEntryV1

def ArtifactContentEntryV1.encode (entry : ArtifactContentEntryV1) : Json :=
  .obj [("path",.str entry.path),("size_bytes",.num (.posInt entry.sizeBytes)),
    ("content_digest",.str entry.contentDigest)]

def ArtifactContentManifestV1.encode (manifest : ArtifactContentManifestV1) : Json :=
  .obj [("schema_version",.str manifest.schemaVersion),
    ("entries",.arr (manifest.entries.map (·.encode)))]

/-- The loop over the components of a directory below a root. -/
def checkDirectories (contractPath : String) : HostPath → List OsString → ArtifactIo Unit
  | _, [] => return ()
  | current, name::rest => do
    ensure (name ≠ .ofStr "..") .pathEscape
    match ← passOn (mapArtifactIo contractPath) (Files.metadata (current++[name])) with
    | ⟨.directory,_⟩ => checkDirectories contractPath (current++[name]) rest
    | _ => throw (.unsafeObject contractPath)

def ensurePlainDirectoryChain (root directory : HostPath) (contractPath : String) :
    ArtifactIo Unit := do
  ensure (root <+: directory) .pathEscape
  match ← passOn (mapArtifactIo contractPath) (Files.metadata root) with
  | ⟨.directory,_⟩ => checkDirectories contractPath root (directory.drop root.length)
  | _ => throw (.unsafeObject contractPath)

section

variable (crates : Crates)

/-- The entry of a regular file with the given content; a longer one is not read to its end. -/
def contentEntry (content : Bytes) (logicalPath : String) (maxBytes : ℕ) (contractPath : String) :
    Except ArtifactObservationError ArtifactContentEntryV1 :=
  if maxBytes < content.length then .error (.limit contractPath)
  else .ok ⟨logicalPath,.ofNat content.length,
    receiptIdPrefix++encodeHex (crates.sha256 content).toList⟩

def observeRegularFile (path : HostPath) (logicalPath : String) (maxBytes : ℕ)
    (contractPath : String) : ArtifactIo ArtifactContentEntryV1 := do
  let metadata ← passOn (mapArtifactIo contractPath) (Files.metadata path)
  ensure (metadata.kind = .file) (.unsafeObject contractPath)
  ensure (metadata.length ≤ maxBytes) (.limit contractPath)
  let content ← passOn (mapArtifactIo contractPath) (Files.readFile path)
  let entry ← Program.ofExcept (contentEntry crates content logicalPath maxBytes contractPath)
  let after ← passOn (mapArtifactIo contractPath) (Files.metadata path)
  ensure (after.kind = .file ∧ after.length = content.length)
    (.changedDuringObservation contractPath)
  return entry

/-- The text of a path below the observed root. -/
def logicalPath (relative : List OsString) : Option String :=
  Text.fromUtf8 ((relative.map (·.bytes)).intersperse (Text.bytes "/")).flatten

structure DirectoryObservation where
  entries : List ArtifactContentEntryV1
  totalBytes : ℕ

variable (contract : NormalizedArtifactContract)

def observeFile (seen : DirectoryObservation) (relative : List OsString) (content : Bytes) :
    Except ArtifactObservationError DirectoryObservation := do
  match logicalPath relative with
  | none => .error (.unsafeObject contract.path)
  | some logical =>
    let entry ← contentEntry crates content logical (contract.maxBytes.toNat-seen.totalBytes)
      contract.path
    let totalBytes := seen.totalBytes+content.length
    if contract.maxBytes.toNat < totalBytes then .error (.limit contract.path)
    let entries := seen.entries++[entry]
    if contract.maxEntries.toNat < entries.length then .error (.limit contract.path)
    .ok ⟨entries,totalBytes⟩

abbrev PendingDirectory := List OsString × List (OsString × FileTree OsString)

/-- The children of one directory in turn; directories among them are left for later. -/
def observeChildren (relative : List OsString) :
    DirectoryObservation → List (OsString × FileTree OsString) →
    Except ArtifactObservationError
      (DirectoryObservation × List PendingDirectory)
  | seen, [] => .ok (seen,[])
  | seen, (name,child)::rest =>
    match child with
    | .symlink _ => .error (.unsafeObject contract.path)
    | .special => .error (.unsafeObject contract.path)
    | .directory children => do
      let (seen,directories) ← observeChildren relative seen rest
      .ok (seen,(relative++[name],children)::directories)
    | .file content => do
      let seen ← observeFile crates contract seen (relative++[name]) content
      observeChildren relative seen rest

/-- The stack of directories left for later; the last one found is walked first, in the order of
the names of its children. -/
def observePending : ℕ → DirectoryObservation →
    List PendingDirectory →
    Except ArtifactObservationError DirectoryObservation
  | 0, seen, _ => .ok seen
  | _, seen, [] => .ok seen
  | steps+1, seen, (relative,children)::pending => do
    let children := children.insertionSort fun left right => left.1 ≤ right.1
    let (seen,directories) ← observeChildren crates contract relative seen children
    observePending steps seen (directories.reverse++pending)

def observeDirectory (root : HostPath) : ArtifactIo (List ArtifactContentEntryV1) := do
  let metadata ← passOn (mapArtifactIo contract.path) (Files.metadata root)
  ensure (metadata.kind = .directory) (.unsafeObject contract.path)
  match ← passOn (mapArtifactIo contract.path) (Files.readTree root) with
  | .directory children =>
    let steps := (FileTree.directory children).nodes
    let seen ← Program.ofExcept (observePending crates contract steps ⟨[],0⟩ [([],children)])
    return seen.entries.insertionSort fun left right => left.path ≤ right.path
  | _ => throw (.unsafeObject contract.path)

def totalBytes : UInt64 → List ArtifactContentEntryV1 → Option UInt64
  | total, [] => some total
  | total, entry::rest =>
    ((checkedAdd total entry.sizeBytes).filter (· ≤ contract.maxBytes)).bind (totalBytes · rest)

def artifactEvidence (entries : List ArtifactContentEntryV1) :
    Except ArtifactObservationError ArtifactEvidence :=
  match totalBytes contract 0 entries with
  | none => .error (.limit contract.path)
  | some total =>
    if contract.maxEntries.toNat < entries.length then .error (.limit contract.path)
    else .ok {
      path := contract.path
      kind := contract.kind
      producerCheck := contract.producerCheck
      entryCount := .ofNat entries.length
      totalBytes := total
      manifestDigest := canonicalDigest crates (ArtifactContentManifestV1.mk "1.0" entries).encode }

def parentOf (path : HostPath) : Except ArtifactObservationError HostPath :=
  match path.parent with
  | some parent => .ok parent
  | none => .error .pathEscape

def observeTarget (target : HostPath) : ArtifactIo (List ArtifactContentEntryV1) :=
  match contract.kind with
  | .regularFile => do
    return [← observeRegularFile crates target "." contract.maxBytes.toNat contract.path]
  | .directory => observeDirectory crates contract target

def observeArtifactContract (artifactRoot : HostPath) : ArtifactIo ArtifactEvidence := do
  let target := artifactRoot.join contract.path
  ensure (artifactRoot <+: target) .pathEscape
  let parent ← Program.ofExcept (parentOf target)
  ensurePlainDirectoryChain artifactRoot parent contract.path
  let entries ← observeTarget crates contract target
  Program.ofExcept (artifactEvidence crates contract entries)

def observeContracts (artifactRoot : HostPath) :
    List NormalizedArtifactContract → ArtifactIo (List ArtifactEvidence)
  | [] => return []
  | contract::rest => do
    let evidence ← observeArtifactContract crates contract artifactRoot
    let records ← observeContracts artifactRoot rest
    return evidence::records

def ExecutionPlanV1.sortedContracts (plan : ExecutionPlanV1) : List NormalizedArtifactContract :=
  (plan.checks.flatMap (·.artifactContracts)).insertionSort fun left right => left.path ≤ right.path

def observeArtifacts (plan : ExecutionPlanV1) (runRoot : HostPath) :
    ArtifactIo (List ArtifactEvidence) := do
  if plan.sortedContracts = [] then return []
  let artifactRoot := runRoot++[artifactsDir]
  ensurePlainDirectoryChain runRoot artifactRoot "artifacts"
  observeContracts crates artifactRoot plan.sortedContracts

end
end CommitCiPreflight
