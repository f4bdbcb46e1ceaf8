import CommitCiPreflight.Canonical
import CommitCiPreflight.DurableFs
import CommitCiPreflight.Padded
import CommitCiPreflight.Timestamp

/-! `run_journal.rs`: the durable record of a run, one file for each state it has reached. -/
namespace CommitCiPreflight

open Program (ensure)
open Files (passOn)

def runJournalSchemaVersion : String := "1.0"

def runsDir : String := "runs"

def runMarker : String := ".ccp-run-owner-v1.json"

def resourcesDir : String := "resources"

def sourceBinding : String := "source-snapshot-v1.json"

def quarantinePrefix : String := "quarantined-"

inductive RunJournalStateV1
  | created
  | admitted
  | prepared
  | executing
  | finalizing
  | cleanupPending
  | failed
  | sealed
  deriving DecidableEq

inductive RunFailureKindV1
  | admissionRejected
  | preparationFailed
  | executionFailed
  | finalizationFailed
  | cleanupFailed
  | resourcePressure
  | staleCommit
  | invariant
  | unknown
  deriving DecidableEq

structure RunOwnerMarkerV1 where
  schemaVersion : String
  owner : String
  purpose : String
  rootToken : String
  runId : String
  runToken : String
  deriving DecidableEq

structure RunJournalSourceV1 where
  schemaVersion : String
  commitSha : String
  manifestDigest : String
  entryCount : UInt64
  resourceId : String
  deriving DecidableEq

structure RunJournalEntryV1 where
  schemaVersion : String
  runId : String
  seq : UInt64
  state : RunJournalStateV1
  atUtc : String
  failureKind : Option RunFailureKindV1
  deriving DecidableEq

inductive RecoveryClassificationV1
  | restartable
  | cleanupRequired
  | terminal
  | quarantined
  | operatorRequired
  deriving DecidableEq

structure RecoveryRunStatusV1 where
  runId : String
  state : Option RunJournalStateV1
  classification : RecoveryClassificationV1
  deriving DecidableEq

structure RecoveryStatusV1 where
  schemaVersion : String
  runs : List RecoveryRunStatusV1
  deriving DecidableEq

structure RecoveryApplyV1 where
  schemaVersion : String
  runId : String
  outcome : RecoveryClassificationV1
  deriving DecidableEq

inductive RunJournalError
  | io (source : IoErrorKind)
  | durable (source : DurableFsError)
  | invalidRunId
  | invalidTimestamp
  | invalidTransition
  | corrupt
  | ownershipMismatch
  | nonActionable
  deriving DecidableEq

abbrev JournalIo := Program.Fallible (FileOp OsString) FileOp.Result RunJournalError

section Codecs

open Codec

def RunJournalStateV1.codec : Codec RunJournalStateV1 :=
  .enum (fun
      | .created => "created"
      | .admitted => "admitted"
      | .prepared => "prepared"
      | .executing => "executing"
      | .finalizing => "finalizing"
      | .cleanupPending => "cleanup_pending"
      | .failed => "failed"
      | .sealed => "sealed")
    [.created,.admitted,.prepared,.executing,.finalizing,.cleanupPending,.failed,.sealed]
    (by rintro (_ | _ | _ | _ | _ | _ | _ | _) <;> decide)

def RunFailureKindV1.codec : Codec RunFailureKindV1 :=
  .enum (fun
      | .admissionRejected => "admission_rejected"
      | .preparationFailed => "preparation_failed"
      | .executionFailed => "execution_failed"
      | .finalizationFailed => "finalization_failed"
      | .cleanupFailed => "cleanup_failed"
      | .resourcePressure => "resource_pressure"
      | .staleCommit => "stale_commit"
      | .invariant => "invariant"
      | .unknown => "unknown")
    [.admissionRejected,.preparationFailed,.executionFailed,.finalizationFailed,.cleanupFailed,
      .resourcePressure,.staleCommit,.invariant,.unknown]
    (by rintro (_ | _ | _ | _ | _ | _ | _ | _ | _) <;> decide)

def RunOwnerMarkerV1.codec : Codec RunOwnerMarkerV1 :=
  .struct (Fields.of RunOwnerMarkerV1.mk
    |>.add (.required "schema_version" string) (·.schemaVersion)
    |>.add (.required "owner" string) (·.owner)
    |>.add (.required "purpose" string) (·.purpose)
    |>.add (.required "root_token" string) (·.rootToken)
    |>.add (.required "run_id" string) (·.runId)
    |>.add (.required "run_token" string) (·.runToken))
    (by decide +kernel) fun _ => rfl

def RunJournalSourceV1.codec : Codec RunJournalSourceV1 :=
  .struct (Fields.of RunJournalSourceV1.mk
    |>.add (.required "schema_version" string) (·.schemaVersion)
    |>.add (.required "commit_sha" string) (·.commitSha)
    |>.add (.required "manifest_digest" string) (·.manifestDigest)
    |>.add (.required "entry_count" u64) (·.entryCount)
    |>.add (.required "resource_id" string) (·.resourceId))
    (by decide +kernel) fun _ => rfl

def RunJournalEntryV1.codec : Codec RunJournalEntryV1 :=
  .struct (Fields.of RunJournalEntryV1.mk
    |>.add (.required "schema_version" string) (·.schemaVersion)
    |>.add (.required "run_id" string) (·.runId)
    |>.add (.required "seq" u64) (·.seq)
    |>.add (.required "state" RunJournalStateV1.codec) (·.state)
    |>.add (.required "at_utc" string) (·.atUtc)
    |>.add (.omitNone "failure_kind" RunFailureKindV1.codec false) (·.failureKind))
    (by decide +kernel) fun _ => rfl

end Codecs

def isHexText (length : ℕ) (value : String) : Prop :=
  value.utf8ByteSize = length ∧ (Text.bytes value).all Text.isLowerHex

instance (length : ℕ) (value : String) : Decidable (isHexText length value) :=
  inferInstanceAs (Decidable (_ ∧ _))

def validateRunId (value : String) : Except RunJournalError Unit :=
  if isHexText 64 value then .ok () else .error .invalidRunId

def validateHexIdentity (value : String) : Except RunJournalError Unit :=
  if isHexText 40 value ∨ isHexText 64 value then .ok () else .error .corrupt

namespace RunJournal

def validateDigest (value : String) : Except RunJournalError Unit :=
  match (Text.stripPrefix value "sha256:").filter fun hex => isHexText 64 hex with
  | some _ => .ok ()
  | none => .error .corrupt

def validateResourceId (value : String) : Except RunJournalError Unit :=
  if value ≠ "" ∧ value.utf8ByteSize ≤ 64 ∧ (Text.bytes value).all fun byte =>
      (Text.ascii 'a' ≤ byte && byte ≤ Text.ascii 'z') || Text.isAsciiDigit byte ||
        byte == Text.ascii '-' then .ok ()
  else .error .invalidRunId

def timestampSeparators : List (ℕ × Char) := [(4,'-'),(7,'-'),(10,'T'),(13,':'),(16,':'),(19,'Z')]

/-- `value[start..end].parse::<u32>()`, on digits that are known to fit. -/
def timestampNumber (bytes : Bytes) (start stop : ℕ) : ℕ :=
  ((bytes.take stop).drop start).foldl (fun n byte => n*10+(byte.toNat-48)) 0

def validateTimestamp (value : String) : Except RunJournalError Unit :=
  let bytes := Text.bytes value
  let time : CivilTime := {
    year := timestampNumber bytes 0 4
    month := timestampNumber bytes 5 7
    day := timestampNumber bytes 8 10
    hour := timestampNumber bytes 11 13
    minute := timestampNumber bytes 14 16
    second := timestampNumber bytes 17 19 }
  if bytes.length = 20 ∧
      (timestampSeparators.all fun separator => bytes[separator.1]? = some (Text.ascii separator.2)) ∧
      ((List.range 20).all fun index => index ∈ timestampSeparators.map Prod.fst ∨
        bytes[index]?.any Text.isAsciiDigit) ∧
      time.InRange (leap time.year) then .ok ()
  else .error .invalidTimestamp

end RunJournal

def legalTransition (previous next : RunJournalStateV1) : Bool :=
  match previous,next with
  | .created,.admitted | .created,.failed | .created,.cleanupPending => true
  | .admitted,.prepared | .admitted,.failed | .admitted,.cleanupPending => true
  | .prepared,.executing | .prepared,.failed | .prepared,.cleanupPending => true
  | .executing,.finalizing | .executing,.failed | .executing,.cleanupPending => true
  | .finalizing,.sealed | .finalizing,.failed | .finalizing,.cleanupPending => true
  | .cleanupPending,.failed => true
  | _,_ => false

def RunJournalStateV1.classify : RunJournalStateV1 → RecoveryClassificationV1
  | .created | .admitted | .prepared => .restartable
  | .executing | .finalizing | .cleanupPending => .cleanupRequired
  | .failed | .sealed => .terminal

def stateName : RunJournalStateV1 → String
  | .created => "created"
  | .admitted => "admitted"
  | .prepared => "prepared"
  | .executing => "executing"
  | .finalizing => "finalizing"
  | .cleanupPending => "cleanup-pending"
  | .failed => "failed"
  | .sealed => "sealed"

/-- `format!("{seq:020}-{}.json", ..)`. -/
def entryName (seq : UInt64) (state : RunJournalStateV1) : String :=
  Text.padded 20 seq.toNat++("-"++stateName state++".json")

def validateEntry (entry : RunJournalEntryV1) (runId : String) (seq : UInt64) :
    Except RunJournalError Unit :=
  if entry.schemaVersion ≠ runJournalSchemaVersion ∨ entry.runId ≠ runId ∨ entry.seq ≠ seq ∨
      RunJournal.validateTimestamp entry.atUtc ≠ .ok () ∨
      decide (entry.state = .failed) ≠ entry.failureKind.isSome ∨
      (seq = 0 ∧ entry.state ≠ .created) then
    .error .corrupt
  else .ok ()

/-- A step of `durable_fs.rs`, whose errors are wrapped. -/
def durably {α : Type} (step : DurableIo α) : JournalIo α :=
  ExceptT.mk do return (← step.run).mapError .durable

def validateExistingPlainDirectory (path : HostPath) : JournalIo Unit := do
  match ← Files.metadata path with
  | .ok ⟨.directory,_⟩ => return ()
  | _ => throw .ownershipMismatch

section

variable (crates : Crates)

def requireMarkerFile (path : HostPath) : JournalIo Unit := do
  match ← Files.metadata path with
  | .ok ⟨.file,length⟩ => ensure (length ≤ 4096) .ownershipMismatch
  | _ => throw .ownershipMismatch

def readJsonMarker {α : Type} (codec : Codec α) (path : HostPath) : JournalIo α := do
  requireMarkerFile path
  let bytes ← passOn .io (Files.readFile path)
  match fromSlice crates codec bytes with
  | some marker => return marker
  | none => throw .ownershipMismatch

/-- `serde_json::to_vec` and a final newline. -/
def markerBytes (value : Json) : Bytes := toVec crates value++[Text.ascii '\n']

def tokenDigest (value : Json) : Except RunJournalError String :=
  match Text.stripPrefix (canonicalDigest crates value) "sha256:" with
  | some token => .ok token
  | none => .error .corrupt

def derivedRunToken (rootToken runId : String) : Except RunJournalError String :=
  tokenDigest crates (.obj [("schema_version",.str runJournalSchemaVersion),
    ("purpose",.str "run-journal-entry"),("root_token",.str rootToken),("run_id",.str runId)])

def runMarkerBytes (rootToken runId : String) : Except RunJournalError Bytes := do
  let runToken ← derivedRunToken crates rootToken runId
  return markerBytes crates (RunOwnerMarkerV1.codec.encode {
    schemaVersion := runJournalSchemaVersion
    owner := "commit-ci-preflight"
    purpose := "run-journal-entry"
    rootToken
    runId
    runToken })

end

def quarantinedResult (runId : String) : RecoveryApplyV1 :=
  ⟨runJournalSchemaVersion,runId,.quarantined⟩

def boundedRunId (value : String) : String :=
  if validateRunId value = .ok () then value else "unknown"

def operatorRequired (runId : String) : RecoveryRunStatusV1 :=
  ⟨boundedRunId runId,none,.operatorRequired⟩

structure RunJournalStore where
  root : HostPath
  rootToken : String
  deriving DecidableEq

namespace RunJournalStore

variable (crates : Crates)

variable (store : RunJournalStore)

def runPath (runId : String) : HostPath := store.root++[.ofStr runsDir,.ofStr runId]

def quarantinePath (runId : String) : HostPath :=
  store.root++[.ofStr runsDir,.ofStr (quarantinePrefix++runId)]

def validateRunMarker (run : HostPath) (runId : String) : JournalIo Unit := do
  validateExistingPlainDirectory run
  let marker ← readJsonMarker crates RunOwnerMarkerV1.codec (run++[.ofStr runMarker])
  let runToken ← Program.ofExcept (derivedRunToken crates store.rootToken runId)
  ensure (marker.schemaVersion = runJournalSchemaVersion ∧ marker.owner = "commit-ci-preflight" ∧
    marker.purpose = "run-journal-entry" ∧ marker.rootToken = store.rootToken ∧
    marker.runId = runId ∧ marker.runToken = runToken) .ownershipMismatch

/-- The names in a run directory that are no entries. -/
def reservedNames : List OsString := [.ofStr runMarker,.ofStr resourcesDir,.ofStr sourceBinding]

def checkResources (run : HostPath) : JournalIo Unit := do
  if ← pathExists (run++[.ofStr resourcesDir]) then
    validateExistingPlainDirectory (run++[.ofStr resourcesDir])

def checkSourceBinding (run : HostPath) : JournalIo Unit := do
  if ← pathExists (run++[.ofStr sourceBinding]) then
    let binding ← readJsonMarker crates RunJournalSourceV1.codec (run++[.ofStr sourceBinding])
    ensure (binding.schemaVersion = runJournalSchemaVersion ∧
      validateHexIdentity binding.commitSha = .ok () ∧
      RunJournal.validateDigest binding.manifestDigest = .ok () ∧ binding.entryCount ≠ 0 ∧
      binding.resourceId = "source-snapshot-v1") .corrupt

def requireEntryFile (path : HostPath) : JournalIo Unit := do
  match (← passOn .io (Files.metadata path)) with
  | ⟨.file,_⟩ => return ()
  | _ => throw .corrupt

def parseEntry (bytes : Bytes) : Except RunJournalError RunJournalEntryV1 :=
  match fromSlice crates RunJournalEntryV1.codec bytes with
  | some entry => .ok entry
  | none => .error .corrupt

/-- One iteration of the loop over the sorted names. -/
def readEntry (run : HostPath) (runId : String) (entries : List RunJournalEntryV1)
    (name : OsString) : JournalIo (List RunJournalEntryV1) := do
  requireEntryFile (run++[name])
  let bytes ← passOn .io (Files.readFile (run++[name]))
  let entry ← Program.ofExcept (parseEntry crates bytes)
  Program.ofExcept (validateEntry entry runId entries.length.toUInt64)
  ensure (name = .ofStr (entryName entry.seq entry.state)) .corrupt
  ensure (∀ previous ∈ entries.getLast?, legalTransition previous.state entry.state = true) .corrupt
  return entries++[entry]

def readEntries (runId : String) : JournalIo (List RunJournalEntryV1) := do
  let run := store.runPath runId
  validateExistingPlainDirectory run
  validateRunMarker crates store run runId
  let names ← passOn .io (Files.readDir run)
  let names := (names.filter (· ∉ reservedNames)).insertionSort (· ≤ ·)
  checkResources run
  checkSourceBinding crates run
  names.foldlM (readEntry crates run runId) []

/-- `entries.last().ok_or(Corrupt)`. -/
def lastEntry (entries : List RunJournalEntryV1) : Except RunJournalError RunJournalEntryV1 :=
  match entries.getLast? with
  | some entry => .ok entry
  | none => .error .corrupt

def appendEntry (runId : String) (seq : UInt64) (state : RunJournalStateV1) (atUtc : String)
    (failureKind : Option RunFailureKindV1) : JournalIo RunJournalEntryV1 := do
  let entry : RunJournalEntryV1 := ⟨runJournalSchemaVersion,runId,seq,state,atUtc,failureKind⟩
  durably (DurableFileSystem.createNew (store.runPath runId++[.ofStr (entryName seq state)])
    (markerBytes crates (RunJournalEntryV1.codec.encode entry)))
  return entry

def createRun (runId atUtc : String) : JournalIo RunJournalEntryV1 := do
  Program.ofExcept (validateRunId runId)
  Program.ofExcept (RunJournal.validateTimestamp atUtc)
  let run := store.runPath runId
  durably (DurableFileSystem.createNewDirectory run)
  let marker ← Program.ofExcept (runMarkerBytes crates store.rootToken runId)
  durably (DurableFileSystem.createNew (run++[.ofStr runMarker]) marker)
  appendEntry crates store runId 0 .created atUtc none

def transition (runId : String) (state : RunJournalStateV1) (atUtc : String)
    (failureKind : Option RunFailureKindV1) : JournalIo RunJournalEntryV1 := do
  Program.ofExcept (validateRunId runId)
  Program.ofExcept (RunJournal.validateTimestamp atUtc)
  let entries ← readEntries crates store runId
  let previous ← Program.ofExcept (lastEntry entries)
  ensure (legalTransition previous.state state = true ∧
    ¬ (previous.state = .created ∧ state = .cleanupPending)) .invalidTransition
  ensure (decide (state = .failed) = failureKind.isSome) .invalidTransition
  appendEntry crates store runId (previous.seq+1) state atUtc failureKind

/-- Cleanup is uncertain: admission was acquired and its record could not be written. -/
def transitionCleanupPendingAfterAdmissionAcquired (runId atUtc : String) :
    JournalIo RunJournalEntryV1 := do
  Program.ofExcept (validateRunId runId)
  Program.ofExcept (RunJournal.validateTimestamp atUtc)
  let entries ← readEntries crates store runId
  let previous ← Program.ofExcept (lastEntry entries)
  ensure (previous.state ∈ [.created,.admitted,.prepared,.executing,.finalizing])
    .invalidTransition
  appendEntry crates store runId (previous.seq+1) .cleanupPending atUtc none

/-- The directory of a run's resources, which may be there already. -/
def provideResources (resources : HostPath) : JournalIo Unit := do
  match ← (DurableFileSystem.createNewDirectory resources).run with
  | .ok () => return ()
  | .error (.io .alreadyExists) => validateExistingPlainDirectory resources
  | .error e => throw (.durable e)

def reserveResource (runId resourceId : String) : JournalIo HostPath := do
  Program.ofExcept (validateRunId runId)
  Program.ofExcept (RunJournal.validateResourceId resourceId)
  let run := store.runPath runId
  validateRunMarker crates store run runId
  let resources := run++[.ofStr resourcesDir]
  provideResources resources
  let target := resources++[.ofStr resourceId]
  let taken ← entryExists target
  ensure (taken = false) .ownershipMismatch
  return target

def bindSource (runId commitSha manifestDigest : String) (entryCount : UInt64) :
    JournalIo RunJournalSourceV1 := do
  Program.ofExcept (validateRunId runId)
  Program.ofExcept (validateHexIdentity commitSha)
  Program.ofExcept (RunJournal.validateDigest manifestDigest)
  ensure (entryCount ≠ 0) .corrupt
  let run := store.runPath runId
  validateRunMarker crates store run runId
  let binding : RunJournalSourceV1 :=
    ⟨runJournalSchemaVersion,commitSha,manifestDigest,entryCount,"source-snapshot-v1"⟩
  durably (DurableFileSystem.createNew (run++[.ofStr sourceBinding])
    (markerBytes crates (RunJournalSourceV1.codec.encode binding)))
  return binding

def reapply (runId : String) : JournalIo RecoveryApplyV1 := do
  let present ← pathExists (store.runPath runId)
  ensure (present = false) .corrupt
  validateRunMarker crates store (store.quarantinePath runId) runId
  return quarantinedResult runId

def quarantine (runId : String) : JournalIo RecoveryApplyV1 := do
  let entries ← readEntries crates store runId
  let last ← Program.ofExcept (lastEntry entries)
  ensure (last.state.classify ≠ .terminal) .nonActionable
  let marker ← Program.ofExcept (runMarkerBytes crates store.rootToken runId)
  durably (DurableFileSystem.quarantineOwnedTree (store.runPath runId)
    (store.quarantinePath runId) runMarker marker)
  return quarantinedResult runId

def apply (runId : String) : JournalIo RecoveryApplyV1 := do
  Program.ofExcept (validateRunId runId)
  if ← pathExists (store.quarantinePath runId) then reapply crates store runId
  else quarantine crates store runId

def checkQuarantined (path : HostPath) (runId : String) : JournalIo Unit := do
  validateExistingPlainDirectory path
  Program.ofExcept (validateRunId runId)
  validateRunMarker crates store path runId

/-- The line for a name that claims to be a quarantined run. -/
def quarantinedStatus (path : HostPath) (runId : String) :
    FileProgram OsString RecoveryRunStatusV1 := do
  match ← (checkQuarantined crates store path runId).run with
  | .ok () => return ⟨boundedRunId runId,none,.quarantined⟩
  | .error _ => return ⟨boundedRunId runId,none,.operatorRequired⟩

/-- The line for a name that is a run. -/
def journalStatus (runId : String) : FileProgram OsString RecoveryRunStatusV1 := do
  match ← (readEntries crates store runId).run with
  | .ok entries =>
    match entries.getLast? with
    | some last => return ⟨runId,some last.state,last.state.classify⟩
    | none => return operatorRequired runId
  | .error _ => return operatorRequired runId

def runStatus (name : OsString) : FileProgram OsString RecoveryRunStatusV1 :=
  match Text.fromUtf8 name.bytes with
  | none => return operatorRequired "unknown"
  | some text =>
    match Text.stripPrefix text quarantinePrefix with
    | some runId => quarantinedStatus crates store (store.root++[.ofStr runsDir,name]) runId
    | none =>
      if validateRunId text = .ok () then journalStatus crates store text
      else return operatorRequired "unknown"

def status : JournalIo RecoveryStatusV1 := do
  let names ← passOn .io (Files.readDir (store.root++[.ofStr runsDir]))
  let runs ← (names.insertionSort (· ≤ ·)).mapM fun name =>
    (liftM (runStatus crates store name) : JournalIo _)
  return ⟨runJournalSchemaVersion,runs⟩

end RunJournalStore
end CommitCiPreflight
