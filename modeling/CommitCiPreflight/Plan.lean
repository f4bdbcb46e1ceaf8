import CommitCiPreflight.Canonical

/-! The normalized execution plan of `config.rs`: the records `into_plan` produces and a
receipt embeds, with their JSON form. -/
namespace CommitCiPreflight

inductive RuntimeKind
  | dockerCompatible
  | host
  deriving DecidableEq

inductive RuntimePullPolicy
  | never
  deriving DecidableEq

inductive RuntimeSwapMode
  | disabled
  deriving DecidableEq

inductive ArtifactKind
  | regularFile
  | directory
  deriving DecidableEq

def RuntimeKind.codec : Codec RuntimeKind :=
  .enum (fun | .dockerCompatible => "docker_compatible" | .host => "host")
    [.dockerCompatible,.host] (by rintro (_ | _) <;> decide)

def RuntimePullPolicy.codec : Codec RuntimePullPolicy :=
  .enum (fun | .never => "never") [.never] (by rintro ⟨⟩; decide)

def RuntimeSwapMode.codec : Codec RuntimeSwapMode :=
  .enum (fun | .disabled => "disabled") [.disabled] (by rintro ⟨⟩; decide)

def ArtifactKind.codec : Codec ArtifactKind :=
  .enum (fun | .regularFile => "regular-file" | .directory => "directory")
    [.regularFile,.directory] (by rintro (_ | _) <;> decide)

structure NormalizedRuntime where
  kind : RuntimeKind
  image : String
  cpuCount : UInt16
  memoryMib : UInt64
  pidsLimit : UInt32
  network : Bool
  pullPolicy : Option RuntimePullPolicy
  swapMode : Option RuntimeSwapMode
  deriving DecidableEq

structure NormalizedReceipt where
  output : String
  freshnessSeconds : UInt64
  deriving DecidableEq

structure NormalizedFixedEnvironment where
  name : String
  valueDigest : String
  deriving DecidableEq

structure NormalizedRuntimeInternalEnvironment where
  name : String
  cacheId : String
  containerTarget : String
  deriving DecidableEq

structure NormalizedEnvironment where
  inherit : List String
  fixed : List NormalizedFixedEnvironment
  runtimeInternal : List NormalizedRuntimeInternalEnvironment
  remoteSecretOnly : List String
  deriving DecidableEq

structure NormalizedCache where
  id : String
  mountPath : String
  deriving DecidableEq

structure NormalizedStorage where
  minFreeBytes : UInt64
  receiptJournalReserveBytes : UInt64
  maxCacheGrowthBytes : UInt64
  maxArtifactBytes : UInt64
  deriving DecidableEq

structure NormalizedArtifactContract where
  path : String
  kind : ArtifactKind
  maxBytes : UInt64
  maxEntries : UInt64
  producerCheck : String
  deriving DecidableEq

structure NormalizedCheck where
  id : String
  required : Bool
  argv : List String
  workingDirectory : String
  timeoutSeconds : UInt64
  dependsOn : List String
  artifacts : List String
  artifactContracts : List NormalizedArtifactContract
  deriving DecidableEq

structure ExecutionPlanV1 where
  schemaVersion : String
  project : String
  runtime : NormalizedRuntime
  receipt : NormalizedReceipt
  environment : NormalizedEnvironment
  caches : List NormalizedCache
  storage : Option NormalizedStorage
  checks : List NormalizedCheck
  deriving DecidableEq

open Codec

def NormalizedRuntime.codec : Codec NormalizedRuntime :=
  .struct (Fields.of NormalizedRuntime.mk
    |>.add (.required "kind" RuntimeKind.codec) (·.kind)
    |>.add (.required "image" string) (·.image)
    |>.add (.required "cpu_count" u16) (·.cpuCount)
    |>.add (.required "memory_mib" u64) (·.memoryMib)
    |>.add (.required "pids_limit" u32) (·.pidsLimit)
    |>.add (.required "network" bool) (·.network)
    |>.add (.omitNone "pull_policy" RuntimePullPolicy.codec false) (·.pullPolicy)
    |>.add (.omitNone "swap_mode" RuntimeSwapMode.codec false) (·.swapMode))
    (by decide) fun _ => rfl

def NormalizedReceipt.codec : Codec NormalizedReceipt :=
  .struct (Fields.of NormalizedReceipt.mk
    |>.add (.required "output" string) (·.output)
    |>.add (.required "freshness_seconds" u64) (·.freshnessSeconds))
    (by decide) fun _ => rfl

def NormalizedFixedEnvironment.codec : Codec NormalizedFixedEnvironment :=
  .struct (Fields.of NormalizedFixedEnvironment.mk
    |>.add (.required "name" string) (·.name)
    |>.add (.required "value_digest" string) (·.valueDigest))
    (by decide) fun _ => rfl

def NormalizedRuntimeInternalEnvironment.codec : Codec NormalizedRuntimeInternalEnvironment :=
  .struct (Fields.of NormalizedRuntimeInternalEnvironment.mk
    |>.add (.required "name" string) (·.name)
    |>.add (.required "cache_id" string) (·.cacheId)
    |>.add (.required "container_target" string) (·.containerTarget))
    (by decide) fun _ => rfl

def NormalizedEnvironment.codec : Codec NormalizedEnvironment :=
  .struct (Fields.of NormalizedEnvironment.mk
    |>.add (.required "inherit" string.list) (·.inherit)
    |>.add (.required "fixed" NormalizedFixedEnvironment.codec.list) (·.fixed)
    |>.add (.required "runtime_internal" NormalizedRuntimeInternalEnvironment.codec.list)
      (·.runtimeInternal)
    |>.add (.required "remote_secret_only" string.list) (·.remoteSecretOnly))
    (by decide) fun _ => rfl

def NormalizedCache.codec : Codec NormalizedCache :=
  .struct (Fields.of NormalizedCache.mk
    |>.add (.required "id" string) (·.id)
    |>.add (.required "mount_path" string) (·.mountPath))
    (by decide) fun _ => rfl

def NormalizedStorage.codec : Codec NormalizedStorage :=
  .struct (Fields.of NormalizedStorage.mk
    |>.add (.required "min_free_bytes" u64) (·.minFreeBytes)
    |>.add (.required "receipt_journal_reserve_bytes" u64) (·.receiptJournalReserveBytes)
    |>.add (.required "max_cache_growth_bytes" u64) (·.maxCacheGrowthBytes)
    |>.add (.required "max_artifact_bytes" u64) (·.maxArtifactBytes))
    (by decide) fun _ => rfl

def NormalizedArtifactContract.codec : Codec NormalizedArtifactContract :=
  .struct (Fields.of NormalizedArtifactContract.mk
    |>.add (.required "path" string) (·.path)
    |>.add (.required "kind" ArtifactKind.codec) (·.kind)
    |>.add (.required "max_bytes" u64) (·.maxBytes)
    |>.add (.required "max_entries" u64) (·.maxEntries)
    |>.add (.required "producer_check" string) (·.producerCheck))
    (by decide) fun _ => rfl

def NormalizedCheck.codec : Codec NormalizedCheck :=
  .struct (Fields.of NormalizedCheck.mk
    |>.add (.required "id" string) (·.id)
    |>.add (.required "required" bool) (·.required)
    |>.add (.required "argv" string.list) (·.argv)
    |>.add (.required "working_directory" string) (·.workingDirectory)
    |>.add (.required "timeout_seconds" u64) (·.timeoutSeconds)
    |>.add (.required "depends_on" string.list) (·.dependsOn)
    |>.add (.required "artifacts" string.list) (·.artifacts)
    |>.add (.omitEmpty "artifact_contracts" NormalizedArtifactContract.codec)
      (·.artifactContracts))
    (by decide) fun _ => rfl

def ExecutionPlanV1.codec : Codec ExecutionPlanV1 :=
  .struct (Fields.of ExecutionPlanV1.mk
    |>.add (.required "schema_version" string) (·.schemaVersion)
    |>.add (.required "project" string) (·.project)
    |>.add (.required "runtime" NormalizedRuntime.codec) (·.runtime)
    |>.add (.required "receipt" NormalizedReceipt.codec) (·.receipt)
    |>.add (.required "environment" NormalizedEnvironment.codec) (·.environment)
    |>.add (.required "caches" NormalizedCache.codec.list) (·.caches)
    |>.add (.omitNone "storage" NormalizedStorage.codec false) (·.storage)
    |>.add (.required "checks" NormalizedCheck.codec.list) (·.checks))
    (by decide) fun _ => rfl

def ExecutionPlanV1.digest (crates : Crates) (plan : ExecutionPlanV1) : String :=
  canonicalDigest crates (ExecutionPlanV1.codec.encode plan)

end CommitCiPreflight
