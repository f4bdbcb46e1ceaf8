import CommitCiPreflight.MountPlan
import CommitCiPreflight.Padded

/-! `github_actions.rs`: what the migration assistant reports on a workflow. An inspection pushes
findings, check proposals and environment names; it is modelled by what it pushes. -/
namespace CommitCiPreflight

def compatibilitySchemaVersion : String := "1.0"
def maxWorkflowBytes : ℕ := 1048576
def maxJobs : ℕ := 64
def maxStepsPerJob : ℕ := 256

inductive FeatureDisposition
  | translated
  | manualReview
  | unsupported
  deriving DecidableEq

structure CompatibilityFindingV1 where
  path : String
  feature : String
  disposition : FeatureDisposition
  detail : String
  deriving DecidableEq

structure ProposedCheckV1 where
  id : String
  sourcePath : String
  shell : String
  command : String
  workingDirectory : String
  deriving DecidableEq

inductive MigrationReadiness
  | readyForConfigAuthoring
  | manualReviewRequired
  | blocked
  deriving DecidableEq

structure CompatibilitySummaryV1 where
  translated : ℕ
  manualReview : ℕ
  unsupported : ℕ
  deriving DecidableEq

structure GithubActionsCompatibilityReportV1 where
  schemaVersion : String
  workflowName : Option String
  readiness : MigrationReadiness
  summary : CompatibilitySummaryV1
  environmentNames : List String
  proposedChecks : List ProposedCheckV1
  findings : List CompatibilityFindingV1
  executableConfigEmitted : Bool
  deriving DecidableEq

inductive GithubActionsError
  | workflowTooLarge (actual maximum : ℕ)
  | yaml (message : String)
  | documentCount (count : ℕ)
  | structure (message : String)
  deriving DecidableEq

inductive Scalar
  | null
  | boolean (value : Bool)
  | integer (value : Int64)
  | floatingPoint (bits : UInt64)
  | string (text : String)
  deriving DecidableEq

inductive Yaml
  | representation (text : String)
  | value (scalar : Scalar)
  | sequence (items : List Yaml)
  | mapping (entries : List (Yaml × Yaml))
  | tagged (node : Yaml)
  | alias (anchor : ℕ)
  | badValue

abbrev Mapping := List (Yaml × Yaml)

inductive YamlEvent
  | alias
  | scalar (text : String) (anchor : ℕ) (tagged : Bool)
  | mappingStart (anchor : ℕ) (tagged : Bool)
  | sequenceStart (anchor : ℕ) (tagged : Bool)
  | mappingEnd
  | sequenceEnd
  | other

/-- The parser: its events one after another, an error among them, and the loaded documents. -/
structure YamlCrate where
  events : String → List (Except String YamlEvent)
  load : String → Except String (List Yaml)

namespace Yaml

def asStr : Yaml → Option String
  | .value (.string text) => some text
  | _ => none

def asMapping : Yaml → Option Mapping
  | .mapping entries => some entries
  | _ => none

def asVec : Yaml → Option (List Yaml)
  | .sequence items => some items
  | _ => none

end Yaml

namespace GithubActions

def structureError {α : Type} (message : String) : Except GithubActionsError α :=
  .error (.structure message)

/-- `ok_or_else` of a structural error. -/
def orStructure {α : Type} (message : String) : Option α → Except GithubActionsError α
  | some a => .ok a
  | none => structureError message

def mappingGet (mapping : Mapping) (key : String) : Option Yaml :=
  mapping.findSome? fun entry => if entry.1.asStr = some key then some entry.2 else none

def stringKey (key : Yaml) (path : String) : Except GithubActionsError String :=
  orStructure (path++" contains a non-string mapping key") key.asStr

def containsExpression (value : String) : Bool := "$\x7b\x7b".toList <:+: value.toList

mutual
def nodeContainsExpression : Yaml → Bool
  | .value (.string text) => containsExpression text
  | .value _ => false
  | .sequence items => anyContainsExpression items
  | .mapping entries => entriesContainExpression entries
  | .representation text => containsExpression text
  | .tagged node => nodeContainsExpression node
  | .alias _ | .badValue => false
def anyContainsExpression : List Yaml → Bool
  | [] => false
  | item::items => nodeContainsExpression item || anyContainsExpression items
def entriesContainExpression : List (Yaml × Yaml) → Bool
  | [] => false
  | (key,value)::entries =>
    nodeContainsExpression key || nodeContainsExpression value || entriesContainExpression entries
end

mutual
def rejectUnsafeYaml (path : String) : Yaml → Except GithubActionsError Unit
  | .alias _ => structureError (path++" contains an alias; aliases are unsupported")
  | .tagged _ => structureError (path++" contains a tag; tags are unsupported")
  | .badValue | .representation _ => structureError (path++" contains an unresolved scalar")
  | .sequence items => rejectUnsafeItems path 0 items
  | .mapping entries => rejectUnsafeEntries path entries
  | .value _ => .ok ()
def rejectUnsafeItems (path : String) (index : ℕ) : List Yaml → Except GithubActionsError Unit
  | [] => .ok ()
  | item::items => do
    rejectUnsafeYaml (path++"["++toString index++"]") item
    rejectUnsafeItems path (index+1) items
def rejectUnsafeEntries (path : String) : List (Yaml × Yaml) → Except GithubActionsError Unit
  | [] => .ok ()
  | (key,value)::entries => do
    rejectUnsafeYaml path key
    rejectUnsafeYaml path value
    rejectUnsafeEntries path entries
end

inductive Context
  | mapping (expectingKey : Bool) (keys : List String)
  | sequence

def completeParentValue : List Context → List Context
  | .mapping _ keys::stack => .mapping true keys::stack
  | stack => stack

def rejectAnchorOrTag (anchor : ℕ) (hasTag : Bool) : Except GithubActionsError Unit :=
  if anchor ≠ 0 ∨ hasTag then structureError
    "workflow contains a YAML anchor or tag; anchors, aliases, and tags are unsupported"
  else .ok ()

/-- A collection may not start where a key is expected. -/
def rejectComplexKey (message : String) : List Context → Except GithubActionsError Unit
  | .mapping true _::_ => structureError message
  | _ => .ok ()

def rejectEvent (stack : List Context) : YamlEvent → Except GithubActionsError (List Context)
  | .alias => structureError
      "workflow contains a YAML alias; anchors, aliases, and tags are unsupported"
  | .scalar value anchor hasTag => do
    rejectAnchorOrTag anchor hasTag
    match stack with
    | .mapping true keys::stack =>
      if value ∈ keys then structureError "workflow contains a duplicate mapping key"
      else return .mapping false (value::keys)::stack
    | .mapping false keys::stack => return .mapping true keys::stack
    | stack => return stack
  | .mappingStart anchor hasTag => do
    rejectAnchorOrTag anchor hasTag
    rejectComplexKey "complex YAML mapping keys are unsupported" stack
    return .mapping true []::stack
  | .sequenceStart anchor hasTag => do
    rejectAnchorOrTag anchor hasTag
    rejectComplexKey "complex YAML sequence keys are unsupported" stack
    return .sequence::stack
  | .mappingEnd | .sequenceEnd => .ok (completeParentValue stack.tail)
  | .other => .ok stack

def rejectYamlIndirection (events : List (Except String YamlEvent)) :
    Except GithubActionsError Unit := do
  let _ ← events.foldlM (fun stack parsed => match parsed with
    | .error message => .error (.yaml message)
    | .ok event => rejectEvent stack event) []

structure Inspection where
  findings : List CompatibilityFindingV1
  proposedChecks : List ProposedCheckV1
  environmentNames : List String

namespace Inspection

def empty : Inspection := ⟨[],[],[]⟩

instance : Append Inspection where
  append a b := ⟨a.findings++b.findings,a.proposedChecks++b.proposedChecks,
    a.environmentNames++b.environmentNames⟩

def concat (parts : List Inspection) : Inspection := parts.foldr (·++·) empty

def recordIf (condition : Prop) [Decidable condition] (path feature : String)
    (disposition : FeatureDisposition) (detail : String) : Inspection :=
  if condition then ⟨[⟨path,feature,disposition,detail⟩],[],[]⟩ else empty

def record (path feature : String) (disposition : FeatureDisposition) (detail : String) :
    Inspection :=
  ⟨[⟨path,feature,disposition,detail⟩],[],[]⟩

end Inspection

open Inspection

abbrev Inspect := Except GithubActionsError Inspection

/-- `for item in items { self.inspect(item)?; }` -/
def inspectEach {α : Type} (inspect : α → Inspect) (items : List α) : Inspect := do
  let parts ← items.mapM inspect
  return concat parts

def dotted (parent name : String) : String := if parent = "" then name else parent++"."++name

def unknownKey (path : String) (known : List String) (key : Yaml) : Inspection :=
  match key.asStr with
  | some name => recordIf (name ∉ known) (dotted path name) "unknown_key" .unsupported
      "Unknown workflow keys are fail-closed."
  | none => record (dotted path "<non-string-key>") "non_string_key" .unsupported
      "Workflow mapping keys must be strings."

def reportUnknownKeys (mapping : Mapping) (path : String) (known : List String) : Inspection :=
  concat (mapping.map fun entry => unknownKey path known entry.1)

def isFullCommitSha (value : String) : Bool :=
  value.utf8ByteSize == 40 && (Text.bytes value).all Text.isLowerHex

def startsWithAny (value : String) (starts : List String) : Bool :=
  starts.any fun start => (Text.stripPrefix value start).isSome

def isSetupAction (value : String) : Bool :=
  startsWithAny value ["actions/setup-node@","actions/setup-python@","actions/setup-java@",
    "actions/setup-go@","dotnet/setup-dotnet@","dtolnay/rust-toolchain@"]

def isAsciiLetter (b : UInt8) : Bool :=
  (Text.ascii 'A' ≤ b && b ≤ Text.ascii 'Z') || (Text.ascii 'a' ≤ b && b ≤ Text.ascii 'z')

def isEnvironmentName (value : String) : Bool :=
  match Text.bytes value with
  | [] => false
  | first::rest => (isAsciiLetter first || first == Text.ascii '_') &&
      rest.all fun byte => isAsciiLetter byte || Text.isAsciiDigit byte || byte == Text.ascii '_'

def isSafeRelativePath (value : String) : Bool :=
  value == "." || (value != "" && !Text.startsWith value '/' && !Text.startsWith value '~' &&
    !decide ('\\' ∈ value.toList) && !decide (":/".toList <:+: value.toList) &&
    (Text.split value '/').all fun segment => segment != "" && segment != "." && segment != "..")

def inspectVariable (path : String) (entry : Yaml × Yaml) : Inspect := do
  let name ← stringKey entry.1 path
  if ¬ isEnvironmentName name then
    return record (path++"."++name) "environment_name" .unsupported
      "Environment names must use portable NAME syntax."
  else
    return ⟨[],[],[name]⟩++
      record (path++"."++name) "environment_name" .translated
        "Only the variable name is imported; its value is never serialized."++
      if entry.2.asStr.any containsExpression then
        record (path++"."++name) "environment_expression" .unsupported
          "Environment expressions and secret references are not evaluated."
      else record (path++"."++name) "environment_value" .manualReview
        "The workflow value is intentionally omitted; the operator must supply it explicitly."

def inspectEnvironment (node : Yaml) (path : String) : Inspect := do
  let mapping ← orStructure (path++" must be a mapping") node.asMapping
  inspectEach (inspectVariable path) mapping

/-- `if let Some(env) = mapping_get(mapping, "env")`. -/
def inspectOptionalEnvironment (mapping : Mapping) (path : String) : Inspect :=
  match mappingGet mapping "env" with
  | some env => inspectEnvironment env path
  | none => .ok empty

structure RunDefaults where
  shell : Option String
  workingDirectory : Option String

def RunDefaults.default : RunDefaults := ⟨none,none⟩

def unknownRunDefault (jobPath : String) (key : Yaml) : Inspection :=
  recordIf (¬ key.asStr.any fun name => name ∈ ["shell","working-directory"])
    (jobPath++".defaults.run.<unknown>") "unknown_key" .unsupported
    "Unknown run defaults are fail-closed."

def runDefaults (node : Option Yaml) (jobPath : String) :
    Except GithubActionsError (RunDefaults × Inspection) :=
  match node with
  | none => .ok (.default,empty)
  | some node => do
    let defaults ← orStructure (jobPath++".defaults must be a mapping") node.asMapping
    match mappingGet defaults "run" with
    | none => return (.default,empty)
    | some run =>
      let run ← orStructure (jobPath++".defaults.run must be a mapping") run.asMapping
      return (⟨(mappingGet run "shell").bind Yaml.asStr,
          (mappingGet run "working-directory").bind Yaml.asStr⟩,
        concat (run.map fun entry => unknownRunDefault jobPath entry.1))

/-- The disposition of an action reference. -/
def inspectReference (actionPath reference : String) : Inspection :=
  if containsExpression reference then
    record actionPath "action_expression" .unsupported "Action expressions are not evaluated."
  else match Text.stripPrefix reference "actions/checkout@" with
  | some revision =>
    if isFullCommitSha revision then
      record actionPath "checkout" .translated
        "Pinned checkout is recognized as source metadata; the action is not executed."
    else record actionPath "checkout" .manualReview
      "Checkout must be pinned to a full lowercase commit SHA before translation."
  | none =>
    if isSetupAction reference then
      record actionPath "setup_metadata" .manualReview
        "Setup metadata is reported; the action is never downloaded or executed."
    else record actionPath "marketplace_or_local_action" .unsupported
      "Marketplace, Docker, and local actions are never downloaded or executed."

def inspectInputs (path : String) (inputs : Option Yaml) : Inspection :=
  match inputs with
  | none => empty
  | some inputs =>
    record (path++".with") "action_inputs" .manualReview
      "Action inputs are reported as present but their values are not imported."++
    recordIf (nodeContainsExpression inputs) (path++".with") "action_input_expression" .unsupported
      "Action input expressions and secret references are not evaluated."

def inspectActionStep (path : String) (action : Yaml) (inputs : Option Yaml) : Inspection :=
  match action.asStr with
  | none => record (path++".uses") "action_reference" .unsupported
      "Action references must be literal strings."
  | some reference => inspectReference (path++".uses") reference++inspectInputs path inputs

/-- The keys of a step that are out of scope. -/
def stepBehaviors : List String := ["if","continue-on-error","timeout-minutes"]

/-- The shell of a run step, with the job's default. -/
def resolveShell (step : Mapping) (defaults : RunDefaults) : Option String :=
  ((mappingGet step "shell").bind Yaml.asStr).or defaults.shell

def resolveWorkingDirectory (step : Mapping) (defaults : RunDefaults) : String :=
  (((mappingGet step "working-directory").bind Yaml.asStr).or defaults.workingDirectory).getD "."

def isKnownShell (shell : String) : Bool := shell == "sh" || shell == "bash"

def isWorkingDirectory (path : String) : Bool :=
  !containsExpression path && isSafeRelativePath path

def stepId (jobId : String) (index : ℕ) : String := jobId++"-step-"++Text.padded 3 (index+1)

def stepPath (jobId : String) (index : ℕ) : String :=
  "jobs."++jobId++".steps["++toString index++"]"

def inspectRunStep (jobId : String) (index : ℕ) (path : String) (command : Yaml) (step : Mapping)
    (defaults : RunDefaults) : Inspect :=
  match command.asStr with
  | none => .ok (record (path++".run") "run_command" .unsupported
      "Run commands must be literal strings.")
  | some command =>
    let behaviors := stepBehaviors.filter fun key => (mappingGet step key).isSome
    let flagged := recordIf (containsExpression command) (path++".run") "expression" .unsupported
        "GitHub expressions are not evaluated or interpolated."++
      concat (behaviors.map fun key => record (path++"."++key) key .unsupported
        "This step behavior is outside compatibility contract v1.")
    match resolveShell step defaults with
    | none => .ok (flagged++record (path++".shell") "implicit_shell" .manualReview
        "An explicit sh or bash shell is required for a proposed check.")
    | some shell => do
      let workingDirectory := resolveWorkingDirectory step defaults
      let environment ← inspectOptionalEnvironment step (path++".env")
      let supported := ¬ containsExpression command ∧ behaviors = [] ∧ isKnownShell shell ∧
        isWorkingDirectory workingDirectory
      return flagged++
        recordIf (¬ isKnownShell shell) (path++".shell") "shell" .unsupported
          "Only the literal sh and bash shells are recognized in contract v1."++
        recordIf (¬ isWorkingDirectory workingDirectory) (path++".working-directory")
          "working_directory" .unsupported
          "Working directory must be a literal normalized repository-relative path."++
        environment++
        if supported then
          ⟨[],[⟨stepId jobId index,path,shell,command,workingDirectory⟩],[]⟩++
            record (path++".run") "plain_run" .translated
              "A non-executable check proposal was created; no command was run."
        else empty

def stepKeys : List String :=
  ["name","id","uses","run","shell","working-directory","env","with","if","continue-on-error",
    "timeout-minutes"]

def inspectStep (jobId : String) (index : ℕ) (step : Yaml) (defaults : RunDefaults) : Inspect := do
  let path := stepPath jobId index
  let step ← orStructure (path++" must be a mapping") step.asMapping
  let unknown := reportUnknownKeys step path stepKeys
  match mappingGet step "uses",mappingGet step "run" with
  | some _,some _ =>
    return unknown++record path "step_shape" .unsupported
      "A step cannot contain both uses and run."
  | some action,none =>
    return unknown++inspectActionStep path action (mappingGet step "with")
  | none,some command =>
    let run ← inspectRunStep jobId index path command step defaults
    return unknown++run
  | none,none =>
    return unknown++record path "step_shape" .unsupported
      "A step must contain either uses or run."

def inspectRunner (job : Mapping) (path : String) : Inspection :=
  match (mappingGet job "runs-on").bind Yaml.asStr with
  | some label =>
    if containsExpression label then
      record (path++".runs-on") "runner_expression" .unsupported
        "Runner expressions are not evaluated."
    else if (Text.stripPrefix label "ubuntu-").isSome then
      record (path++".runs-on") "runner_label" .manualReview
        "The Linux runner label must be mapped to an operator-selected pinned image."
    else record (path++".runs-on") "runner_label" .unsupported
      "Compatibility contract v1 does not translate this runner platform."
  | none => record (path++".runs-on") "runner_label" .unsupported
      "A literal runs-on string is required."

def jobKeys : List String :=
  ["name","runs-on","steps","env","defaults","strategy","services","needs","if","permissions",
    "timeout-minutes","continue-on-error","container","uses","with","secrets","outputs",
    "concurrency","environment"]

def jobBehaviors : List String :=
  ["permissions","if","continue-on-error","outputs","concurrency","environment"]

def reviewedJobKeys : List String := ["strategy","services","needs","container","timeout-minutes"]

def inspectReviewedKey (job : Mapping) (path key : String) : Inspection :=
  match mappingGet job key with
  | none => empty
  | some value =>
    record (path++"."++key) key .manualReview
      "The feature is reported but not translated into executable configuration."++
    recordIf (nodeContainsExpression value) (path++"."++key) "expression" .unsupported
      "Nested GitHub expressions are not evaluated or interpolated."

def inspectSecrets (job : Mapping) (path : String) : Inspection :=
  recordIf ((mappingGet job "secrets").isSome) (path++".secrets") "secrets" .unsupported
    "Secret values and secret inheritance are never imported."

def inspectReusable (job : Mapping) (path : String) : Inspection :=
  record (path++".uses") "reusable_workflow" .unsupported
      "Reusable workflows are not loaded or executed."++
    recordIf ((mappingGet job "with").isSome) (path++".with") "reusable_workflow_inputs"
      .unsupported "Reusable workflow inputs are not imported or evaluated."++
    inspectSecrets job path

def inspectJob (jobId : String) (node : Yaml) : Inspect := do
  let path := "jobs."++jobId
  let job ← orStructure (path++" must be a mapping") node.asMapping
  let unknown := reportUnknownKeys job path jobKeys
  if (mappingGet job "uses").isSome then
    return unknown++inspectReusable job path
  else
    let behaviors := concat (jobBehaviors.map fun key =>
      recordIf ((mappingGet job key).isSome) (path++"."++key) key .unsupported
        "This job behavior is outside compatibility contract v1.")
    let reviewed := concat (reviewedJobKeys.map (inspectReviewedKey job path))
    let environment ← inspectOptionalEnvironment job (path++".env")
    let (defaults,unknownDefaults) ← runDefaults (mappingGet job "defaults") path
    let steps ← orStructure (path++".steps must be a sequence")
      ((mappingGet job "steps").bind Yaml.asVec)
    if steps = [] ∨ steps.length > maxStepsPerJob then
      structureError (path++".steps must contain 1 to "++toString maxStepsPerJob++" entries")
    else
      let inspected ← inspectEach (fun step => inspectStep jobId step.2 step.1 defaults)
        steps.zipIdx
      return unknown++inspectRunner job path++behaviors++reviewed++inspectSecrets job path++
        environment++unknownDefaults++inspected

def workflowKeys : List String := ["name","on","env","defaults","permissions","jobs"]

/-- `optional_string` of the workflow's name. -/
def inspectName (root : Mapping) : Option String × Inspection :=
  match mappingGet root "name" with
  | none => (none,empty)
  | some value => match value.asStr with
    | some name => (some name,empty)
    | none => (none,record "name" "scalar" .unsupported "This field must be a literal string.")

def inspectJobEntry (entry : Yaml × Yaml) : Inspect := do
  let jobId ← stringKey entry.1 "jobs"
  inspectJob jobId entry.2

def inspectTopLevel (root : Mapping) : Inspect := do
  let environment ← inspectOptionalEnvironment root "env"
  let jobs ← orStructure "jobs must be a mapping" ((mappingGet root "jobs").bind Yaml.asMapping)
  if jobs = [] ∨ jobs.length > maxJobs then
    structureError ("jobs must contain 1 to "++toString maxJobs++" entries")
  else
    let inspected ← inspectEach inspectJobEntry jobs
    return reportUnknownKeys root "" workflowKeys++
      recordIf ((mappingGet root "on").isSome) "on" "trigger" .manualReview
        "Trigger semantics are reported but are not reproduced locally."++
      recordIf ((mappingGet root "permissions").isSome) "permissions" "permissions" .unsupported
        "Workflow permission semantics are not imported or approximated."++
      environment++
      recordIf ((mappingGet root "defaults").isSome) "defaults" "workflow_defaults" .manualReview
        "Workflow-level defaults require explicit review per job."++
      inspected

def findingLe (left right : CompatibilityFindingV1) : Prop :=
  left.path < right.path ∨ left.path = right.path ∧ (left.feature < right.feature ∨
    left.feature = right.feature ∧ left.disposition.ctorIdx ≤ right.disposition.ctorIdx)

instance : DecidableRel findingLe := fun _ _ => inferInstanceAs (Decidable (_ ∨ _))

def countOf (disposition : FeatureDisposition) (findings : List CompatibilityFindingV1) : ℕ :=
  findings.countP (·.disposition = disposition)

def finish (workflowName : Option String) (inspection : Inspection) :
    GithubActionsCompatibilityReportV1 :=
  let findings := inspection.findings.insertionSort findingLe
  let summary : CompatibilitySummaryV1 := {
    translated := countOf .translated findings
    manualReview := countOf .manualReview findings
    unsupported := countOf .unsupported findings }
  { schemaVersion := compatibilitySchemaVersion
    workflowName
    readiness :=
      if summary.unsupported > 0 then .blocked
      else if summary.manualReview > 0 then .manualReviewRequired
      else .readyForConfigAuthoring
    summary
    environmentNames := (OrderedSet.ofList inspection.environmentNames).toList
    proposedChecks := inspection.proposedChecks.insertionSort (·.id ≤ ·.id)
    findings
    executableConfigEmitted := false }

def analyzeWorkflow (yaml : YamlCrate) (input : String) :
    Except GithubActionsError GithubActionsCompatibilityReportV1 := do
  if input.utf8ByteSize > maxWorkflowBytes then
    .error (.workflowTooLarge input.utf8ByteSize maxWorkflowBytes)
  else
    rejectYamlIndirection (yaml.events input)
    match yaml.load input with
    | .error message => .error (.yaml message)
    | .ok [document] =>
      let root ← orStructure "workflow root must be a mapping" document.asMapping
      rejectUnsafeYaml "$" document
      let (workflowName,name) := inspectName root
      let inspected ← inspectTopLevel root
      return finish workflowName (name++inspected)
    | .ok documents => .error (.documentCount documents.length)

end GithubActions
end CommitCiPreflight
