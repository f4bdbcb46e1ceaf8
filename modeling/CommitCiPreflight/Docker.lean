import CommitCiPreflight.Run

/-! The Docker runtime of `runtime.rs`: how a check becomes a command line, how that becomes
the commands of a container's life, and the code that takes a container through it. Every
answer of the `docker` command is the environment's. -/
namespace CommitCiPreflight

open Outcome

def NormalizedEnvironment.names (environment : NormalizedEnvironment) : List String :=
  (environment.inherit++environment.fixed.map (·.name)++
    environment.runtimeInternal.map (·.name)).insertionSort (· ≤ ·)

structure DryRunCheck where
  id : String
  program : String
  argv : List String
  dependsOn : List String
  mounts : List MountBinding
  deriving DecidableEq

def dockerMountArgument (mount : MountBinding) : Outcome RuntimeError String := do
  (ofExcept (validateHostPath mount.source)).mapErr .workspace
  (ofExcept (validateContainerMountTarget mount.target)).mapErr .workspace
  let source ← ofOption (.workspace .unsupportedHostPath) mount.source.toStr
  let readonly := if mount.access = .readOnly then ",readonly" else ""
  return "type=bind,src="++source++",dst="++mount.target++readonly

def containerWorkingDirectory (relative : String) : String :=
  if relative = "." then "/workspace" else "/workspace/"++relative

def dockerRunOptions (runtime : NormalizedRuntime) (environmentAllow : List String) :
    List String :=
  let pinned := runtime.pullPolicy = some .never ∧ runtime.swapMode = some .disabled
  ["run","--rm","--init","--read-only","--network",if runtime.network then "bridge" else "none",
    "--cpus",toString runtime.cpuCount.toNat]++
  (if pinned then ["--pull","never"] else [])++
  ["--memory",toString runtime.memoryMib.toNat++"m"]++
  (if pinned then ["--memory-swap",toString runtime.memoryMib.toNat++"m"] else [])++
  ["--pids-limit",toString runtime.pidsLimit.toNat,"--tmpfs",
    "/tmp:rw,noexec,nosuid,nodev,size=64m"]++
  environmentAllow.flatMap (fun name => ["--env",name])++["--env","TMPDIR=/tmp"]

def pushMount (argv : List String) (mount : MountBinding) :
    Outcome RuntimeError (List String) := do
  let argument ← dockerMountArgument mount
  return argv++["--mount",argument]

def dockerDryRunCheck (runtime : NormalizedRuntime) (check : NormalizedCheck)
    (environmentAllow : List String) (workspace : WorkspacePlanV1) :
    Outcome RuntimeError DryRunCheck := do
  let argv ← fold pushMount (dockerRunOptions runtime environmentAllow) workspace.mounts
  let argv := argv++["--workdir",containerWorkingDirectory check.workingDirectory]
  if check.argv.any (·.toList.contains '\x00') then
    .panic
  else return {
    id := check.id
    program := "docker"
    argv := argv++[runtime.image]++check.argv
    dependsOn := check.dependsOn
    mounts := workspace.mounts }

structure DockerLifecyclePlan where
  containerName : String
  ownerLabel : String
  runLabel : String
  checkLabel : String
  createArgv : List String
  startArgv : List String
  attachArgv : List String
  waitArgv : List String
  inspectArgv : List String
  stopArgv : List String
  killArgv : List String
  removeArgv : List String
  deriving DecidableEq

def ownedContainerName (crates : Crates) (runId checkId : String) : String :=
  let digest := encodeHex (crates.sha256 (Text.bytes "commit-ci-preflight-container-v1"++[0]++
    Text.bytes runId++[0]++Text.bytes checkId)).toList
  "ccp-"++String.ofList (digest.toList.take 24)

def ccpOwnerLabel : String := "com.commit-ci-preflight.owner=commit-ci-preflight"

/-- `--rm` is dropped from the rendered command: the lifecycle removes the container. -/
def DockerLifecyclePlan.build (crates : Crates) (runId : String) (check : NormalizedCheck)
    (rendered : DryRunCheck) : Except RuntimeError DockerLifecyclePlan :=
  if runId = "" ∨ check.id = "" ∨ rendered.program ≠ "docker" then
    .error (.lifecycleFailure "lifecycle identity or rendered runtime is invalid")
  else if rendered.argv.head? ≠ some "run" then
    .error (.lifecycleFailure "lifecycle requires a docker run plan")
  else
    let name := ownedContainerName crates runId check.id
    let runLabel := "com.commit-ci-preflight.run-id="++runId
    let checkLabel := "com.commit-ci-preflight.check-id="++check.id
    .ok {
      containerName := name
      ownerLabel := ccpOwnerLabel
      runLabel
      checkLabel
      createArgv := ["create","--name",name,"--label",ccpOwnerLabel,"--label",runLabel,"--label",
        checkLabel]++(rendered.argv.drop 1).filter (· ≠ "--rm")
      startArgv := ["start",name]
      attachArgv := ["attach","--sig-proxy=false",name]
      waitArgv := ["wait",name]
      inspectArgv := ["inspect","--format","\x7b\x7bjson .\x7d\x7d",name]
      stopArgv := ["stop","--time","5",name]
      killArgv := ["kill",name]
      removeArgv := ["rm","--force",name] }

def completedSuccess (result : ProcessResult) : Bool :=
  result.termination = .completed && result.cleanup = .verified &&
    (result.exit.map (·.success)).getD false

/-- `from_utf8_lossy` marks what is not UTF-8 by a character that is neither white space nor
a hexadecimal digit. -/
def validContainerId (bytes : Bytes) : Bool :=
  match Text.fromUtf8 bytes with
  | none => false
  | some text =>
    let value := Text.bytes (Text.trim text)
    12 ≤ value.length && value.length ≤ 64 && value.all Text.isAsciiHexdigit

def parseWaitExitCode (bytes : Bytes) : Except RuntimeError Int32 :=
  match Text.fromUtf8 bytes with
  | none => .error (.lifecycleFailure "docker wait output is not UTF-8")
  | some text =>
    match Text.parseI32 (Text.trim text) with
    | none => .error (.lifecycleFailure "docker wait output is not an exit code")
    | some code =>
      if 0 ≤ code ∧ code ≤ 255 then .ok code
      else .error (.lifecycleFailure "docker wait returned an invalid exit code")

/-- `Value::get`. -/
def Json.member (value : Json) (name : String) : Option Json :=
  match value with
  | .obj members => lookupEntry name members
  | _ => none

/-- `Value::as_str`. -/
def Json.asStr : Json → Option String
  | .str s => some s
  | _ => none

/-- `Value::as_object`, kept as a value. -/
def Json.asObject : Json → Option Json
  | .obj members => some (.obj members)
  | _ => none

def labelMatches (labels : Json) (keyValue : String) : Bool :=
  match Text.splitOnce keyValue '=' with
  | none => false
  | some (key,value) => (labels.member key).bind Json.asStr = some value

def parseContainerState (crates : Crates) (bytes : Bytes) (lifecycle : DockerLifecyclePlan) :
    Except RuntimeError String := do
  let some value := valueFromSlice crates bytes
    | .error (.lifecycleFailure "docker inspect output is not JSON")
  let name := ((value.member "Name").bind Json.asStr).map (Text.trimStartMatches · '/')
  if name ≠ some lifecycle.containerName then
    .error (.lifecycleFailure "docker inspect returned an unexpected container name")
  let some labels := ((value.member "Config").bind (·.member "Labels")).bind Json.asObject
    | .error (.lifecycleFailure "docker inspect omitted container labels")
  if !labelMatches labels lifecycle.ownerLabel || !labelMatches labels lifecycle.runLabel ||
      !labelMatches labels lifecycle.checkLabel then
    .error (.lifecycleFailure "docker inspect returned non-CCP ownership labels")
  let some state := ((value.member "State").bind (·.member "Status")).bind Json.asStr
    | .error (.lifecycleFailure "docker inspect omitted container state")
  if state ∈ ["created","running","restarting","paused","exited","dead"] then .ok state
  else .error (.lifecycleFailure "docker inspect returned an unknown container state")

/-- What the environment sees of `execute_check`: its `docker` commands, those of a cleanup
being beyond the run's cancellation, and where a cleanup begins. -/
inductive LifecycleCall
  | cli (argv : List String) (cancellable : Bool)
  | cleanupContainer (containerName : String)

@[reducible] def LifecycleCall.Result : LifecycleCall → Type
  | .cli _ _ => Except ProcessError ProcessResult
  | .cleanupContainer _ => Unit

abbrev Lifecycle (α : Type) := Program.Fallible LifecycleCall LifecycleCall.Result RuntimeError α

def executeCli (argv : List String) (cancellable : Bool) : Lifecycle ProcessResult := do
  let response : Except ProcessError ProcessResult ←
    ExceptT.lift (Program.perform (LifecycleCall.cli argv cancellable))
  Program.ofExcept (response.mapError .process)

def executeCleanupCli (argv : List String) : Lifecycle ProcessResult := do
  let response ← Program.attempt (executeCli argv false)
  Program.ofExcept (response.mapError fun _ => .lifecycleFailure "daemon cleanup command failed")

def stopContainer (lifecycle : DockerLifecyclePlan) : Lifecycle Unit := do
  let stop ← Program.attempt (executeCleanupCli lifecycle.stopArgv)
  if (stop.toOption.map completedSuccess).getD false then return ()
  else
    let kill ← executeCleanupCli lifecycle.killArgv
    if completedSuccess kill then return ()
    else throw (.lifecycleFailure "daemon stop and kill both failed")

/-- `rm`, and the inspection that must no longer find the container. -/
def removeContainer (lifecycle : DockerLifecyclePlan) : Lifecycle Unit := do
  let remove ← executeCleanupCli lifecycle.removeArgv
  if completedSuccess remove then
    let finalInspect ← executeCleanupCli lifecycle.inspectArgv
    if finalInspect.termination ≠ .completed ∨ finalInspect.cleanup ≠ .verified ∨
        (finalInspect.exit.map (·.success)).getD true then
      throw (.lifecycleFailure "daemon removal was not proven by final not-found inspection")
    else return ()
  else throw (.lifecycleFailure "daemon removal failed")

def cleanupContainer (crates : Crates) (lifecycle : DockerLifecyclePlan) : Lifecycle Unit := do
  let _ ← ExceptT.lift (Program.perform (LifecycleCall.cleanupContainer lifecycle.containerName))
  let inspect ← executeCleanupCli lifecycle.inspectArgv
  if completedSuccess inspect then
    let state ← Program.ofExcept (parseContainerState crates inspect.stdout.bytes lifecycle)
    if state ∈ ["created","running","restarting","paused"] then stopContainer lifecycle
    removeContainer lifecycle
  else throw (.lifecycleFailure "daemon inspection failed before cleanup")

/-- The context of a call, and what `revalidate_mount_sources` finds on the disk. -/
structure RuntimeExecutionContext where
  runId : String
  revalidateMountSources : List MountBinding → Except WorkspaceError Unit

/-- `execute_check` once the container is attached to: the exit code is the daemon's. -/
def finishCheck (crates : Crates) (lifecycle : DockerLifecyclePlan) (attach : ProcessResult) :
    Lifecycle ProcessResult := do
  let wait ← executeCli lifecycle.waitArgv true
  if completedSuccess wait then
    let exitCode ← Program.ofExcept (parseWaitExitCode wait.stdout.bytes)
    cleanupContainer crates lifecycle
    return {attach with exit := some ⟨exitCode = 0,some exitCode⟩}
  else
    cleanupContainer crates lifecycle
    throw (.lifecycleFailure "docker wait did not return the container exit code")

/-- `execute_check` once the container is created. -/
def runContainer (crates : Crates) (lifecycle : DockerLifecyclePlan) : Lifecycle ProcessResult := do
  match ← Program.attempt (executeCli lifecycle.startArgv true) with
  | .error error =>
    cleanupContainer crates lifecycle
    throw error
  | .ok start =>
    if completedSuccess start then
      match ← Program.attempt (executeCli lifecycle.attachArgv true) with
      | .error error =>
        cleanupContainer crates lifecycle
        throw error
      | .ok attach =>
        if attach.termination = .completed then finishCheck crates lifecycle attach
        else
          cleanupContainer crates lifecycle
          return attach
    else
      cleanupContainer crates lifecycle
      return start

def executeCheck (crates : Crates) (context : RuntimeExecutionContext) (check : NormalizedCheck)
    (rendered : DryRunCheck) : Lifecycle ProcessResult := do
  Program.ofExcept (Except.mapError .workspace (context.revalidateMountSources rendered.mounts))
  let lifecycle ← Program.ofExcept (DockerLifecyclePlan.build crates context.runId check rendered)
  let create ← executeCli lifecycle.createArgv true
  if completedSuccess create then
    if validContainerId create.stdout.bytes then runContainer crates lifecycle
    else
      cleanupContainer crates lifecycle
      throw (.lifecycleFailure "docker create did not return a valid container id")
  else return create

end CommitCiPreflight
