import CommitCiPreflight.CapabilityPack

/-! `capability_pack.rs`: the checks of a manifest, its normalization and the expansion of a bound
profile. -/
namespace CommitCiPreflight

namespace CapabilityPack

open Outcome

inductive CapabilityPackError
  | config (error : ConfigError)
  | unsupportedSchemaVersion (version : String)
  | invalidField (field : String)
  | tooManyItems (field : String) (actual maximum : ℕ)
  | duplicateId (field id : String)
  | duplicateValue (field : String)
  | shellEntrypoint (check : String)
  | unknownProfile (id : String)
  | packDigestMismatch
  deriving DecidableEq

/-- Which texts `Ipv4Addr` and `Ipv6Addr` parse. -/
structure AddressText where
  ipv4 : String → Bool
  ipv6 : String → Bool

def validateIdentifier (field value : String) : Outcome CapabilityPackError Unit :=
  (CommitCiPreflight.validateIdentifier field value).mapErr fun _ => .invalidField field

def validateText (field value : String) : Outcome CapabilityPackError Unit :=
  ensure (value ≠ "" ∧ value.utf8ByteSize ≤ 4096 ∧ value.toList.any Text.isControl = false)
    (.invalidField field)

def validateLicense (field value : String) : Outcome CapabilityPackError Unit :=
  ensure (value ≠ "" ∧ value.utf8ByteSize ≤ maxLicenseBytes ∧ value ∉ ["NOASSERTION","NONE"] ∧
    value.toList.all (fun c => Text.isAsciiAlphanumeric c || c == '.' || c == '-' || c == '+'))
    (.invalidField field)

def isSemverComponent (component : String) : Bool :=
  component != "" && component.toList.all Char.isDigit &&
    !(1 < component.utf8ByteSize && Text.startsWith component '0') &&
    (Text.parseUnsigned 64 component).isSome

def validateSemver (value : String) : Outcome CapabilityPackError Unit :=
  ensure ((Text.split value '.').length = 3 ∧ (Text.split value '.').all isSemverComponent)
    (.invalidField "pack_version")

def validateDigest (field value : String) : Outcome CapabilityPackError Unit :=
  ensure (value.utf8ByteSize = 71 ∧ (Text.stripPrefix value "sha256:").any fun hex =>
    (Text.bytes hex).all Text.isLowerHex) (.invalidField field)

def validatePort (value : String) : Bool :=
  value != "" && value.toList.all Char.isDigit && (Text.parseUnsigned 16 value).isSome

def validateOptionalPort (value : String) : Bool :=
  value == "" || (Text.stripPrefix value ":").any validatePort

def isDnsLabel (label : String) : Bool :=
  label != "" && label.utf8ByteSize ≤ 63 &&
    label.toList.all (fun c => Text.isAsciiAlphanumeric c || c == '-') &&
    label.toList.head?.any Text.isAsciiAlphanumeric &&
    label.toList.getLast?.any Text.isAsciiAlphanumeric

section Manifest

variable (net : AddressText)

def validateDnsOrIpv4Host (host : String) : Bool :=
  if host == "" then false
  else if host.toList.all fun c => c.isDigit || c == '.' then net.ipv4 host
  else host.utf8ByteSize ≤ 253 && (Text.split host '.').all isDnsLabel

def validateHttpsAuthority (authority : String) : Bool :=
  if authority == "" || authority.toList.contains '@' then false
  else match Text.stripPrefix authority "[" with
    | some host =>
      match Text.splitOnce host ']' with
      | none => false
      | some (address,port) => address != "" && net.ipv6 address && validateOptionalPort port
    | none =>
      if authority.toList.any fun c => c == '[' || c == ']' then false
      else match Text.splitOnce authority ':' with
        | some (host,port) => validateDnsOrIpv4Host net host && validatePort port
        | none => validateDnsOrIpv4Host net authority

def validateUrl (field value : String) : Outcome CapabilityPackError Unit := do
  ensure (value.utf8ByteSize ≤ 4096 ∧
    value.toList.any (fun c => Text.isWhitespace c || Text.isControl c) = false ∧
    '#' ∉ value.toList) (.invalidField field)
  let suffix ← ofOption (.invalidField field) (Text.stripPrefix value "https://")
  let authority := String.ofList (suffix.toList.takeWhile fun c => c != '/' && c != '?' && c != '#')
  ensure (validateHttpsAuthority net authority = true) (.invalidField field)

def collectItem {α : Type} (field : String) (id : α → String)
    (validate : α → Outcome CapabilityPackError Unit) (byId : OrderedMap String α) (item : α) :
    Outcome CapabilityPackError (OrderedMap String α) := do
  validate item
  ensure (byId.get? (id item) = none) (.duplicateId field (id item))
  return byId.insert (id item) item

/-- The loop that checks each item and collects it under its id. -/
def collectById {α : Type} (field : String) (id : α → String)
    (validate : α → Outcome CapabilityPackError Unit) (items : List α) :
    Outcome CapabilityPackError (List α) := do
  let byId ← fold (collectItem field id validate) .empty items
  return byId.values

def validateLength {α : Type} (field : String) (maximum : ℕ) (items : List α) :
    Outcome CapabilityPackError Unit := do
  ensure (items ≠ []) (.invalidField field)
  ensure (items.length ≤ maximum) (.tooManyItems field items.length maximum)

def validateSource (source : CapabilitySourceV1) : Outcome CapabilityPackError Unit := do
  validateIdentifier "upstream_sources.id" source.id
  validateUrl net "upstream_sources.url" source.url
  validateDigest "upstream_sources.digest" source.digest

def validateSources (sources : List CapabilitySourceV1) :
    Outcome CapabilityPackError (List CapabilitySourceV1) := do
  validateLength "upstream_sources" maxPackSources sources
  collectById "upstream_sources.id" (·.id) (validateSource net) sources

def collectUnique {α : Type} [LinearOrder α] (field : String) (unique : OrderedSet α) (value : α) :
    Outcome CapabilityPackError (OrderedSet α) := do
  ensure (value ∉ unique) (.duplicateValue field)
  return unique.insert value

def uniqueSorted {α : Type} [LinearOrder α] (field : String) (values : List α) :
    Outcome CapabilityPackError (List α) := do
  let unique ← fold (collectUnique field) .empty values
  return unique.toList

def validateTool (tool : CapabilityToolV1) : Outcome CapabilityPackError Unit := do
  validateIdentifier "profiles.tools.id" tool.id
  validateText "profiles.tools.version" tool.version
  validateLicense "profiles.tools.license" tool.license
  validateUrl net "profiles.tools.url" tool.url
  validateDigest "profiles.tools.digest" tool.digest

def validateTools (tools : List CapabilityToolV1) :
    Outcome CapabilityPackError (List CapabilityToolV1) := do
  validateLength "profiles.tools" maxProfileTools tools
  collectById "profiles.tools.id" (·.id) (validateTool net) tools

def validateFreshness (input : CapabilityInputProvenanceV1) : Outcome CapabilityPackError Unit :=
  match input.kind with
  | .advisoryDatabase | .vulnerabilityDatabase =>
    match input.snapshotCreatedAtUtc,input.maxAgeSeconds with
    | some created,some maxAgeSeconds => do
      match parseUtcSeconds created with
      | .ok _ => .ok ()
      | .err _ => .err (.invalidField "profiles.inputs.snapshot_created_at_utc")
      | .panic => .panic
      ensure (1 ≤ maxAgeSeconds ∧ maxAgeSeconds ≤ 31536000)
        (.invalidField "profiles.inputs.max_age_seconds")
    | _,_ => .err (.invalidField "profiles.inputs.freshness")
  | _ => ensure (input.snapshotCreatedAtUtc = none ∧ input.maxAgeSeconds = none)
      (.invalidField "profiles.inputs.freshness")

def validateInput (input : CapabilityInputProvenanceV1) : Outcome CapabilityPackError Unit := do
  validateIdentifier "profiles.inputs.id" input.id
  validateUrl net "profiles.inputs.url" input.url
  validateDigest "profiles.inputs.digest" input.digest
  validateFreshness input

def validateInputs (inputs : List CapabilityInputProvenanceV1) :
    Outcome CapabilityPackError (List CapabilityInputProvenanceV1) := do
  ensure (inputs.length ≤ maxProfileInputs)
    (.tooManyItems "profiles.inputs" inputs.length maxProfileInputs)
  collectById "profiles.inputs.id" (·.id) (validateInput net) inputs

end Manifest

def shells : List String :=
  ["sh","bash","dash","zsh","ksh","fish","csh","tcsh","cmd","cmd.exe","powershell",
    "powershell.exe","pwsh","pwsh.exe"]

def executableBasename (argument : String) : String :=
  String.ofList (asciiLowercase
    (String.ofList (argument.toList.rtakeWhile fun c => c != '/' && c != '\\')))

def hasPrefix (argument start : String) : Bool := (Text.stripPrefix argument start).isSome

/-- `-S` in any of its spellings. -/
def splitsString (argument : String) : Bool :=
  argument == "-S" || argument == "--split-string" || hasPrefix argument "--split-string=" ||
    hasPrefix argument "-S"

def takesNext (argument : String) : Bool :=
  argument == "-u" || argument == "-C" || argument == "--unset" || argument == "--chdir"

def standsAlone (argument : String) : Bool :=
  hasPrefix argument "-u" || hasPrefix argument "-C" || hasPrefix argument "--unset=" ||
    hasPrefix argument "--chdir=" || argument == "-i" || argument == "--ignore-environment" ||
    argument == "-0" || argument == "--null" || argument == "--"

/-- The loop over the words after `env`. -/
def envEntrypoint : List String → Bool
  | [] => false
  | argument::rest =>
    if splitsString argument then true
    else if takesNext argument then
      match rest with
      | [] => true
      | _::rest => envEntrypoint rest
    else if standsAlone argument then envEntrypoint rest
    else if Text.startsWith argument '-' then true
    else if argument.toList.contains '=' then envEntrypoint rest
    else shells.contains (executableBasename argument)

def shellEntrypoint : List String → Bool
  | [] => false
  | entrypoint::arguments =>
    if shells.contains (executableBasename entrypoint) then true
    else if executableBasename entrypoint ≠ "env" then false
    else envEntrypoint arguments

structure ValidatedProfileConfigV1 where
  evidenceClass : CapabilityEvidenceClassV1
  runtime : RuntimeConfig
  environment : EnvironmentConfig
  caches : List CacheConfig
  storage : StorageConfig
  checks : List CheckConfig

def ValidatedProfileConfigV1.config (raw : ValidatedProfileConfigV1) (project : String)
    (receipt : ReceiptConfig) : ConfigV1 where
  schemaVersion := "1.3"
  project
  runtime := raw.runtime
  receipt
  environment := raw.environment
  caches := raw.caches
  storage := some raw.storage
  checks := raw.checks

def rawProfile (p : CapabilityProfileConfigV1) : ValidatedProfileConfigV1 :=
  ⟨p.evidenceClass,p.runtime,p.environment,p.caches,p.storage,p.checks⟩

def validationProject : String := "capability-pack/validation"

def validationReceipt : ReceiptConfig := ⟨".ccp/capability-pack-validation.json",86400⟩

/-- The declared features are the ones that the profile uses. -/
def validateFeatures (p : CapabilityProfileConfigV1) (features : List CapabilityRuntimeFeatureV1) :
    Outcome CapabilityPackError Unit := do
  each (fun required => ensure (required ∈ features)
    (.invalidField "profiles.required_runtime_features"))
    [CapabilityRuntimeFeatureV1.noNetwork,.readOnlySource,.linuxUserland]
  let artifactsDeclared := p.checks.any fun check => !check.artifacts.isEmpty
  ensure (decide (.writableCaches ∈ features) ≠ p.caches.isEmpty ∧
    decide (.boundedArtifacts ∈ features) = artifactsDeclared)
    (.invalidField "profiles.required_runtime_features")

def validateEntrypoints (checks : List CheckConfig) : Outcome CapabilityPackError Unit :=
  each (fun check => ensure (shellEntrypoint check.argv = false) (.shellEntrypoint check.id)) checks

section Pack

variable (crates : Crates) (net : AddressText)

def validateProfile (p : CapabilityProfileConfigV1) :
    Outcome CapabilityPackError (NormalizedCapabilityProfileV1 × ValidatedProfileConfigV1) := do
  validateIdentifier "profiles.id" p.id
  validateText "profiles.description" p.description
  validateText "profiles.pass_semantics" p.passSemantics
  validateLength "profiles.supported_hosts" maxProfileHosts p.supportedHosts
  validateLength "profiles.target_platforms" maxProfileTargets p.targetPlatforms
  validateLength "profiles.required_runtime_features" maxProfileFeatures p.requiredRuntimeFeatures
  validateLength "profiles.known_blind_spots" maxBlindSpots p.knownBlindSpots
  let supportedHosts ← uniqueSorted "profiles.supported_hosts" p.supportedHosts
  let targetPlatforms ← uniqueSorted "profiles.target_platforms" p.targetPlatforms
  let requiredRuntimeFeatures ←
    uniqueSorted "profiles.required_runtime_features" p.requiredRuntimeFeatures
  each (validateText "profiles.known_blind_spots") p.knownBlindSpots
  let knownBlindSpots ← uniqueSorted "profiles.known_blind_spots" p.knownBlindSpots
  validateFeatures p requiredRuntimeFeatures
  ensure (p.runtime.kind = .dockerCompatible) (.invalidField "profiles.runtime.kind")
  ensure (p.runtime.network = false) (.invalidField "profiles.runtime.network")
  validateEntrypoints p.checks
  let tools ← validateTools net p.tools
  let inputs ← validateInputs net p.inputs
  let raw := rawProfile p
  let plan ← ((raw.config validationProject validationReceipt).intoPlan crates).mapErr
    CapabilityPackError.config
  let storage ← ofOption (.invalidField "profiles.storage") plan.plan.storage
  return ({
    id := p.id
    description := p.description
    evidenceClass := p.evidenceClass
    passSemantics := p.passSemantics
    knownBlindSpots
    supportedHosts
    targetPlatforms
    requiredRuntimeFeatures
    offlinePreparation := p.offlinePreparation
    tools
    inputs
    runtime := plan.plan.runtime
    environment := plan.plan.environment
    caches := plan.plan.caches
    storage
    checks := plan.plan.checks },raw)

/-- The fields of the private identity are those that `validate` computed. -/
structure CapabilityPackEnvelopeV1 where
  packDigest : String
  pack : NormalizedCapabilityPackV1
  profileConfigs : OrderedMap String ValidatedProfileConfigV1
  expectedPackDigest : String

structure ProfileTally where
  profiles : List NormalizedCapabilityProfileV1
  ids : OrderedSet String
  configs : OrderedMap String ValidatedProfileConfigV1

def collectProfile (tally : ProfileTally) (profile : CapabilityProfileConfigV1) :
    Outcome CapabilityPackError ProfileTally := do
  ensure (profile.id ∉ tally.ids) (.duplicateId "profiles.id" profile.id)
  let (normalized,raw) ← validateProfile crates net profile
  return ⟨tally.profiles++[normalized],tally.ids.insert profile.id,
    tally.configs.insert normalized.id raw⟩

def packDigestOf (pack : NormalizedCapabilityPackV1) : String :=
  canonicalDigest crates (NormalizedCapabilityPackV1.codec.encode pack)

def validate (manifest : CapabilityPackManifestV1) :
    Outcome CapabilityPackError CapabilityPackEnvelopeV1 := do
  ensure (manifest.schemaVersion = capabilityPackSchemaVersion)
    (.unsupportedSchemaVersion manifest.schemaVersion)
  validateIdentifier "pack_id" manifest.packId
  validateText "description" manifest.description
  validateLicense "license" manifest.license
  validateSemver manifest.packVersion
  let upstreamSources ← validateSources net manifest.upstreamSources
  validateLength "profiles" maxPackProfiles manifest.profiles
  let tally ← fold (collectProfile crates net) ⟨[],.empty,.empty⟩ manifest.profiles
  let pack : NormalizedCapabilityPackV1 := {
    schemaVersion := manifest.schemaVersion
    packId := manifest.packId
    packVersion := manifest.packVersion
    license := manifest.license
    description := manifest.description
    upstreamSources
    profiles := tally.profiles.insertionSort (·.id ≤ ·.id) }
  return ⟨packDigestOf crates pack,pack,tally.configs,packDigestOf crates pack⟩

structure CapabilityPackBindingV1 where
  project : String
  profileId : String
  receipt : ReceiptConfig

/-- The expansion without the bytes it keeps to check itself. -/
structure CapabilityPackExpansionV1 where
  schemaVersion : String
  packId : String
  packVersion : String
  packDigest : String
  profileId : String
  evidenceClass : CapabilityEvidenceClassV1
  executionPlan : ExecutionPlanEnvelopeV1

def CapabilityPackEnvelopeV1.validatePublicIdentity (envelope : CapabilityPackEnvelopeV1) :
    Outcome CapabilityPackError Unit :=
  ensure (envelope.packDigest = envelope.expectedPackDigest ∧
    packDigestOf crates envelope.pack = envelope.expectedPackDigest) .packDigestMismatch

def CapabilityPackEnvelopeV1.expand (envelope : CapabilityPackEnvelopeV1)
    (binding : CapabilityPackBindingV1) :
    Outcome CapabilityPackError CapabilityPackExpansionV1 := do
  envelope.validatePublicIdentity crates
  let raw ← ofOption (.unknownProfile binding.profileId)
    (envelope.profileConfigs.get? binding.profileId)
  let plan ← ((raw.config binding.project binding.receipt).intoPlan crates).mapErr
    CapabilityPackError.config
  let profile ← ofOption (.unknownProfile binding.profileId)
    (envelope.pack.profiles.find? (·.id = binding.profileId))
  return {
    schemaVersion := envelope.pack.schemaVersion
    packId := envelope.pack.packId
    packVersion := envelope.pack.packVersion
    packDigest := envelope.packDigest
    profileId := binding.profileId
    evidenceClass := profile.evidenceClass
    executionPlan := plan }

end Pack

end CapabilityPack

end CommitCiPreflight
