import CommitCiPreflight.Run

/-! `ProcessSupervisor` of `process.rs`: a child is polled until it exits or has to be stopped,
and then whatever it leaves is sealed. Every answer of the child, of the clock, of the token and
of the generation guard is the environment's. Durations are in nanoseconds. -/
namespace CommitCiPreflight

def maxCaptureBytes : ℕ := 1048576

structure ProcessRequest where
  program : OsString
  currentDir : OsString
  timeout : ℕ
  maxCaptureBytes : ℕ

def ProcessRequest.validateWithCaptureCeiling (request : ProcessRequest) (ceiling : ℕ) :
    Except ProcessError Unit :=
  if request.program.bytes = [] then .error (.invalidRequest "program must not be empty")
  else if request.timeout = 0 then .error (.invalidRequest "timeout must be greater than zero")
  else if request.maxCaptureBytes = 0 ∨ ceiling < request.maxCaptureBytes then
    .error (.invalidRequest "max_capture_bytes must be between 1 and 1048576")
  else if request.currentDir.bytes.head? ≠ some (Text.ascii '/') then
    .error (.invalidRequest "current_dir must be an already-resolved absolute path")
  else .ok ()

inductive GracefulStop
  | requested
  | alreadyStopped
  | unsupported
  deriving DecidableEq

/-- What the supervisor asks of its environment. -/
inductive SupervisorCall
  | now
  | ensureCurrent
  | isCancelled
  | spawnWithOutput
  | tryWait
  | requestGracefulStop
  | forceStopAndWait (deadline : ℕ)
  | sealDescendants (deadline : ℕ)
  | collectOutput (deadline : ℕ)
  | sleep (interval : ℕ)

@[reducible] def SupervisorCall.Result : SupervisorCall → Type
  | .now => ℕ
  | .ensureCurrent => Except ProcessError Unit
  | .isCancelled => Bool
  | .spawnWithOutput => Except ProcessError Unit
  | .tryWait => Except IoErrorKind (Option ExitOutcome)
  | .requestGracefulStop => Except IoErrorKind GracefulStop
  | .forceStopAndWait _ => Except IoErrorKind (Option ExitOutcome)
  | .sealDescendants _ => Except IoErrorKind Unit
  | .collectOutput _ => Except IoErrorKind (CapturedStream × CapturedStream)
  | .sleep _ => Unit

/-- How a run ends without a result. The loops are bounded by a number of polls; a run that uses
them up has not returned. -/
inductive Ending
  | failed (error : ProcessError)
  | polling

abbrev Supervised (α : Type) := Program.Fallible SupervisorCall SupervisorCall.Result Ending α

def query (call : SupervisorCall) : Supervised call.Result := ExceptT.lift (Program.perform call)

/-- `Instant::elapsed`. -/
def elapsed (started : ℕ) : Supervised ℕ := do
  let now : ℕ ← query .now
  return now-started

structure ProcessDeadline where
  started : ℕ
  total : ℕ
  executionBudget : ℕ
  cleanupBudget : ℕ

namespace ProcessDeadline

def new (started total cleanupCap : ℕ) : ProcessDeadline :=
  let cleanupBudget := min cleanupCap (total/2)
  ⟨started,total,total-cleanupBudget,cleanupBudget⟩

def executionExpired (deadline : ProcessDeadline) : Supervised Bool := do
  let elapsed ← elapsed deadline.started
  return decide (deadline.executionBudget ≤ elapsed)

def cleanupRemaining (deadline : ProcessDeadline) : Supervised ℕ := do
  let elapsed ← elapsed deadline.started
  return min deadline.cleanupBudget (deadline.total-elapsed)

end ProcessDeadline

section Stop

variable (deadline : ProcessDeadline)

def sealDescendants (stage : String) : Supervised Unit := do
  let remaining ← deadline.cleanupRemaining
  match ← query (.sealDescendants remaining) with
  | .ok () => return ()
  | .error _ => throw (.failed (.cleanupUncertain stage))

def collectOutput : Supervised (CapturedStream × CapturedStream) := do
  let remaining ← deadline.cleanupRemaining
  match ← query (.collectOutput remaining) with
  | .ok streams => return streams
  | .error _ => throw (.failed .output)

def sealAndCollect (stage : String) : Supervised (CapturedStream × CapturedStream) := do
  sealDescendants deadline stage
  collectOutput deadline

def processResult (termination : ProcessTermination) (exit : Option ExitOutcome)
    (streams : CapturedStream × CapturedStream) : Supervised ProcessResult := do
  let elapsed ← elapsed deadline.started
  return {
    termination
    cleanup := .verified
    exit
    stdout := streams.1
    stderr := streams.2
    elapsedMillis := elapsed/1000000 }

structure ProcessSupervisor where
  pollInterval : ℕ
  gracePeriod : ℕ

def defaultPollInterval : ℕ := 10*1000000

def defaultGracePeriod : ℕ := 500*1000000

def ProcessSupervisor.new : ProcessSupervisor := ⟨defaultPollInterval,defaultGracePeriod⟩

variable (supervisor : ProcessSupervisor) (termination : ProcessTermination)

/-- `grace_started.elapsed() < deadline.cleanup_remaining()`. -/
def graceRemains (graceStarted : ℕ) : Supervised Bool := do
  let graced ← elapsed graceStarted
  let remaining ← deadline.cleanupRemaining
  return decide (graced < remaining)

/-- The loop of the grace period; no result means that the period is over. -/
def awaitGrace (graceStarted : ℕ) : ℕ → Supervised (Option ProcessResult)
  | 0 => throw .polling
  | polls+1 => do
    if ← graceRemains deadline graceStarted then
      match ← query .tryWait with
      | .error _ => throw (.failed (.cleanupUncertain "graceful stop monitoring"))
      | .ok (some exit) =>
        let streams ← sealAndCollect deadline "graceful descendant seal"
        let result ← processResult deadline termination (some exit) streams
        return some result
      | .ok none =>
        let _ ← query (.sleep supervisor.pollInterval)
        awaitGrace graceStarted polls
    else return none

def gracePeriod (polls : ℕ) : Except IoErrorKind GracefulStop → Supervised (Option ProcessResult)
  | .ok .requested => do
    let graceStarted : ℕ ← query .now
    awaitGrace deadline supervisor termination graceStarted polls
  | _ => return none

def forceStop : Supervised ProcessResult := do
  let remaining ← deadline.cleanupRemaining
  match ← query (.forceStopAndWait remaining) with
  | .error _ =>
    sealDescendants deadline "forced descendant seal after force-stop failure"
    throw (.failed (.cleanupUncertain "force stop"))
  | .ok exit =>
    let streams ← sealAndCollect deadline "forced descendant seal"
    processResult deadline termination exit streams

def forceUnlessStopped : Option ProcessResult → Supervised ProcessResult
  | some result => return result
  | none => forceStop deadline termination

def stopAndCollect (polls : ℕ) : Supervised ProcessResult := do
  let graceful : Except IoErrorKind GracefulStop ← query .requestGracefulStop
  let stopped ← gracePeriod deadline supervisor termination polls graceful
  forceUnlessStopped deadline termination stopped

def completeChild (exit : ExitOutcome) : Supervised ProcessResult := do
  let streams ← sealAndCollect deadline "completed descendant seal"
  match ← query .ensureCurrent with
  | .error error => throw (.failed error)
  | .ok () => processResult deadline .completed (some exit) streams

def pollChild : ℕ → Supervised ProcessResult
  | 0 => throw .polling
  | polls+1 => do
    match ← query .ensureCurrent with
    | .error _ =>
      let _ ← stopAndCollect deadline supervisor .cancelled polls
      throw (.failed .staleGeneration)
    | .ok () =>
      if ← query .isCancelled then stopAndCollect deadline supervisor .cancelled polls
      else if ← deadline.executionExpired then stopAndCollect deadline supervisor .timedOut polls
      else
        match ← query .tryWait with
        | .error _ =>
          let _ ← stopAndCollect deadline supervisor .cancelled polls
          throw (.failed .monitor)
        | .ok (some exit) => completeChild deadline exit
        | .ok none =>
          let _ ← query (.sleep supervisor.pollInterval)
          pollChild polls

end Stop

def CapturedStream.empty (crates : Crates) : CapturedStream :=
  ⟨[],0,"sha256:"++encodeHex (crates.sha256 []).toList,false⟩

def emptyResult (crates : Crates) (started : ℕ) (termination : ProcessTermination)
    (cleanup : CleanupStatus) : Supervised ProcessResult := do
  let elapsed ← elapsed started
  return ⟨termination,cleanup,none,.empty crates,.empty crates,elapsed/1000000⟩

namespace ProcessSupervisor

variable (supervisor : ProcessSupervisor) (crates : Crates) (polls : ℕ) (request : ProcessRequest)

def executeWithOutputAndCaptureCeiling (ceiling : ℕ) : Supervised ProcessResult := do
  Program.ofExcept ((request.validateWithCaptureCeiling ceiling).mapError .failed)
  match ← query .ensureCurrent with
  | .error error => throw (.failed error)
  | .ok () =>
    let started : ℕ ← query .now
    let deadline := ProcessDeadline.new started request.timeout supervisor.gracePeriod
    if ← query .isCancelled then emptyResult crates started .cancelled .notRequired
    else
      match ← query .spawnWithOutput with
      | .error error => throw (.failed error)
      | .ok () => pollChild deadline supervisor polls

def execute : Supervised ProcessResult :=
  supervisor.executeWithOutputAndCaptureCeiling crates polls request maxCaptureBytes

end ProcessSupervisor

end CommitCiPreflight
