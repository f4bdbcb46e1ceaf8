import CommitCiPreflight.Config
import CommitCiPreflight.Timestamp

/-! `capability_pack.rs`: a manifest of profiles, its normalization into a pack with a digest, and
the expansion of one profile into an execution plan. -/
namespace CommitCiPreflight

open Outcome

def capabilityPackSchemaVersion : String := "1.0"
def maxPackProfiles : ℕ := 32
def maxPackSources : ℕ := 16
def maxProfileTools : ℕ := 32
def maxProfileInputs : ℕ := 64
def maxProfileHosts : ℕ := 8
def maxProfileTargets : ℕ := 8
def maxProfileFeatures : ℕ := 16
def maxBlindSpots : ℕ := 32
def maxLicenseBytes : ℕ := 128

structure CapabilitySourceV1 where
  id : String
  url : String
  digest : String
  deriving DecidableEq

structure CapabilityToolV1 where
  id : String
  version : String
  license : String
  url : String
  digest : String
  deriving DecidableEq

inductive CapabilityEvidenceClassV1
  | deterministic
  | scheduleSensitive
  | boundedNondeterministic
  deriving DecidableEq

inductive CapabilityInputKindV1
  | rules
  | typeStubs
  | corpus
  | advisoryDatabase
  | vulnerabilityDatabase
  deriving DecidableEq

inductive CapabilityHostPlatformV1
  | macosAarch64
  | linuxArm64
  | linuxAmd64
  | windowsAmd64
  deriving DecidableEq

inductive CapabilityTargetPlatformV1
  | linuxArm64
  | linuxAmd64
  deriving DecidableEq

inductive CapabilityRuntimeFeatureV1
  | linuxUserland
  | noNetwork
  | readOnlySource
  | writableCaches
  | boundedArtifacts
  deriving DecidableEq

inductive OfflinePreparationV1
  | none
  | requiredExternal
  deriving DecidableEq

instance : LinearOrder CapabilityHostPlatformV1 :=
  LinearOrder.lift' CapabilityHostPlatformV1.ctorIdx (by rintro (_ | _) (_ | _) <;> decide)

instance : LinearOrder CapabilityTargetPlatformV1 :=
  LinearOrder.lift' CapabilityTargetPlatformV1.ctorIdx (by rintro (_ | _) (_ | _) <;> decide)

instance : LinearOrder CapabilityRuntimeFeatureV1 :=
  LinearOrder.lift' CapabilityRuntimeFeatureV1.ctorIdx (by rintro (_ | _) (_ | _) <;> decide)

structure CapabilityInputProvenanceV1 where
  id : String
  kind : CapabilityInputKindV1
  url : String
  digest : String
  snapshotCreatedAtUtc : Option String
  maxAgeSeconds : Option UInt64
  deriving DecidableEq

structure CapabilityProfileConfigV1 where
  id : String
  description : String
  evidenceClass : CapabilityEvidenceClassV1
  passSemantics : String
  knownBlindSpots : List String
  supportedHosts : List CapabilityHostPlatformV1
  targetPlatforms : List CapabilityTargetPlatformV1
  requiredRuntimeFeatures : List CapabilityRuntimeFeatureV1
  offlinePreparation : OfflinePreparationV1
  tools : List CapabilityToolV1
  inputs : List CapabilityInputProvenanceV1
  runtime : RuntimeConfig
  environment : EnvironmentConfig
  caches : List CacheConfig
  storage : StorageConfig
  checks : List CheckConfig

structure CapabilityPackManifestV1 where
  schemaVersion : String
  packId : String
  packVersion : String
  license : String
  description : String
  upstreamSources : List CapabilitySourceV1
  profiles : List CapabilityProfileConfigV1

structure NormalizedCapabilityProfileV1 where
  id : String
  description : String
  evidenceClass : CapabilityEvidenceClassV1
  passSemantics : String
  knownBlindSpots : List String
  supportedHosts : List CapabilityHostPlatformV1
  targetPlatforms : List CapabilityTargetPlatformV1
  requiredRuntimeFeatures : List CapabilityRuntimeFeatureV1
  offlinePreparation : OfflinePreparationV1
  tools : List CapabilityToolV1
  inputs : List CapabilityInputProvenanceV1
  runtime : NormalizedRuntime
  environment : NormalizedEnvironment
  caches : List NormalizedCache
  storage : NormalizedStorage
  checks : List NormalizedCheck

structure NormalizedCapabilityPackV1 where
  schemaVersion : String
  packId : String
  packVersion : String
  license : String
  description : String
  upstreamSources : List CapabilitySourceV1
  profiles : List NormalizedCapabilityProfileV1

section Codecs

open Codec

def CapabilityEvidenceClassV1.codec : Codec CapabilityEvidenceClassV1 :=
  .enum (fun
      | .deterministic => "deterministic"
      | .scheduleSensitive => "schedule-sensitive"
      | .boundedNondeterministic => "bounded-nondeterministic")
    [.deterministic,.scheduleSensitive,.boundedNondeterministic] (by rintro (_ | _) <;> decide)

def CapabilityInputKindV1.codec : Codec CapabilityInputKindV1 :=
  .enum (fun
      | .rules => "rules"
      | .typeStubs => "type-stubs"
      | .corpus => "corpus"
      | .advisoryDatabase => "advisory-database"
      | .vulnerabilityDatabase => "vulnerability-database")
    [.rules,.typeStubs,.corpus,.advisoryDatabase,.vulnerabilityDatabase]
    (by rintro (_ | _) <;> decide)

def CapabilityHostPlatformV1.codec : Codec CapabilityHostPlatformV1 :=
  .enum (fun
      | .macosAarch64 => "macos-aarch64"
      | .linuxArm64 => "linux-arm64"
      | .linuxAmd64 => "linux-amd64"
      | .windowsAmd64 => "windows-amd64")
    [.macosAarch64,.linuxArm64,.linuxAmd64,.windowsAmd64] (by rintro (_ | _) <;> decide)

def CapabilityTargetPlatformV1.codec : Codec CapabilityTargetPlatformV1 :=
  .enum (fun | .linuxArm64 => "linux-arm64" | .linuxAmd64 => "linux-amd64")
    [.linuxArm64,.linuxAmd64] (by rintro (_ | _) <;> decide)

def CapabilityRuntimeFeatureV1.codec : Codec CapabilityRuntimeFeatureV1 :=
  .enum (fun
      | .linuxUserland => "linux-userland"
      | .noNetwork => "no-network"
      | .readOnlySource => "read-only-source"
      | .writableCaches => "writable-caches"
      | .boundedArtifacts => "bounded-artifacts")
    [.linuxUserland,.noNetwork,.readOnlySource,.writableCaches,.boundedArtifacts]
    (by rintro (_ | _) <;> decide)

def OfflinePreparationV1.codec : Codec OfflinePreparationV1 :=
  .enum (fun | .none => "none" | .requiredExternal => "required-external")
    [.none,.requiredExternal] (by rintro (_ | _) <;> decide)

def CapabilitySourceV1.codec : Codec CapabilitySourceV1 :=
  .struct (Fields.of CapabilitySourceV1.mk
    |>.add (.required "id" string) (·.id)
    |>.add (.required "url" string) (·.url)
    |>.add (.required "digest" string) (·.digest))
    (by decide) fun _ => rfl

def CapabilityToolV1.codec : Codec CapabilityToolV1 :=
  .struct (Fields.of CapabilityToolV1.mk
    |>.add (.required "id" string) (·.id)
    |>.add (.required "version" string) (·.version)
    |>.add (.required "license" string) (·.license)
    |>.add (.required "url" string) (·.url)
    |>.add (.required "digest" string) (·.digest))
    (by decide) fun _ => rfl

def CapabilityInputProvenanceV1.codec : Codec CapabilityInputProvenanceV1 :=
  .struct (Fields.of CapabilityInputProvenanceV1.mk
    |>.add (.required "id" string) (·.id)
    |>.add (.required "kind" CapabilityInputKindV1.codec) (·.kind)
    |>.add (.required "url" string) (·.url)
    |>.add (.required "digest" string) (·.digest)
    |>.add (.nullable "snapshot_created_at_utc" string) (·.snapshotCreatedAtUtc)
    |>.add (.nullable "max_age_seconds" u64) (·.maxAgeSeconds))
    (by decide) fun _ => rfl

def NormalizedCapabilityProfileV1.codec : Codec NormalizedCapabilityProfileV1 :=
  .struct (Fields.of NormalizedCapabilityProfileV1.mk
    |>.add (.required "id" string) (·.id)
    |>.add (.required "description" string) (·.description)
    |>.add (.required "evidence_class" CapabilityEvidenceClassV1.codec) (·.evidenceClass)
    |>.add (.required "pass_semantics" string) (·.passSemantics)
    |>.add (.required "known_blind_spots" string.list) (·.knownBlindSpots)
    |>.add (.required "supported_hosts" CapabilityHostPlatformV1.codec.list) (·.supportedHosts)
    |>.add (.required "target_platforms" CapabilityTargetPlatformV1.codec.list)
      (·.targetPlatforms)
    |>.add (.required "required_runtime_features" CapabilityRuntimeFeatureV1.codec.list)
      (·.requiredRuntimeFeatures)
    |>.add (.required "offline_preparation" OfflinePreparationV1.codec) (·.offlinePreparation)
    |>.add (.required "tools" CapabilityToolV1.codec.list) (·.tools)
    |>.add (.required "inputs" CapabilityInputProvenanceV1.codec.list) (·.inputs)
    |>.add (.required "runtime" NormalizedRuntime.codec) (·.runtime)
    |>.add (.required "environment" NormalizedEnvironment.codec) (·.environment)
    |>.add (.required "caches" NormalizedCache.codec.list) (·.caches)
    |>.add (.required "storage" NormalizedStorage.codec) (·.storage)
    |>.add (.required "checks" NormalizedCheck.codec.list) (·.checks))
    (by decide) fun _ => rfl

def NormalizedCapabilityPackV1.codec : Codec NormalizedCapabilityPackV1 :=
  .struct (Fields.of NormalizedCapabilityPackV1.mk
    |>.add (.required "schema_version" string) (·.schemaVersion)
    |>.add (.required "pack_id" string) (·.packId)
    |>.add (.required "pack_version" string) (·.packVersion)
    |>.add (.required "license" string) (·.license)
    |>.add (.required "description" string) (·.description)
    |>.add (.required "upstream_sources" CapabilitySourceV1.codec.list) (·.upstreamSources)
    |>.add (.required "profiles" NormalizedCapabilityProfileV1.codec.list) (·.profiles))
    (by decide) fun _ => rfl

end Codecs

end CommitCiPreflight
