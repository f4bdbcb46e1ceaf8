import CommitCiPreflight.Mounts
import CommitCiPreflight.Receipt

/-! The check loop of `run.rs`. What the loop does not control is a `RunWorld`: when other
threads cancel the run, and what the runtime answers. -/
namespace CommitCiPreflight

open Outcome Codec

inductive CancellationReason
  | user
  | resourcePressure
  deriving DecidableEq

structure CancellationToken where
  reason : Option CancellationReason
  deriving DecidableEq

namespace CancellationToken

def isCancelled (token : CancellationToken) : Bool := token.reason.isSome

/-- The exchange succeeds only on a token without a reason. -/
def setReason (token : CancellationToken) (reason : CancellationReason) : CancellationToken :=
  if token.reason = none then ⟨some reason⟩ else token

/-- The token after the requests that other threads made meanwhile. -/
def after (token : CancellationToken) (requests : List CancellationReason) : CancellationToken :=
  requests.foldl setReason token

end CancellationToken

inductive ProcessTermination
  | completed
  | cancelled
  | timedOut
  deriving DecidableEq

inductive CleanupStatus
  | notRequired
  | verified
  deriving DecidableEq

structure ExitOutcome where
  success : Bool
  code : Option Int32
  deriving DecidableEq

structure CapturedStream where
  bytes : Bytes
  byteCount : UInt64
  fullDigest : String
  truncated : Bool
  deriving DecidableEq

structure ProcessResult where
  termination : ProcessTermination
  cleanup : CleanupStatus
  exit : Option ExitOutcome
  stdout : CapturedStream
  stderr : CapturedStream
  elapsedMillis : ℕ
  deriving DecidableEq

inductive ProcessError
  | invalidRequest (message : String)
  | spawn
  | monitor
  | output
  | unsupportedOutputMode
  | cleanupUncertain (stage : String)
  | staleGeneration
  | invariant (message : String)

inductive RuntimeError
  | unsupported (message : String)
  | unsupportedCapability (capability : String)
  | unavailable
  | timedOut
  | cancelled
  | cleanupUncertain
  | invalidProbe (message : String)
  | lifecycleFailure (stage : String)
  | fixedEnvironmentBinding (name reason : String)
  | workspace (error : WorkspaceError)
  | process (error : ProcessError)

/-- The errors that end the run without a receipt. -/
def RuntimeError.isFatal : RuntimeError → Bool
  | .lifecycleFailure _ => true
  | .cleanupUncertain => true
  | .process (.cleanupUncertain _) => true
  | _ => false

inductive RunError
  | runtime (error : RuntimeError)
  | receipt (error : ReceiptError)
  | invariant (message : String)

structure OutputDigestInput where
  stdoutFullDigest : String
  stdoutByteCount : UInt64
  stderrFullDigest : String
  stderrByteCount : UInt64
  stdoutTruncated : Bool
  stderrTruncated : Bool

def OutputDigestInput.codec : Codec OutputDigestInput :=
  .struct (Fields.of OutputDigestInput.mk
    |>.add (.required "stdout_full_digest" string) (·.stdoutFullDigest)
    |>.add (.required "stdout_byte_count" u64) (·.stdoutByteCount)
    |>.add (.required "stderr_full_digest" string) (·.stderrFullDigest)
    |>.add (.required "stderr_byte_count" u64) (·.stderrByteCount)
    |>.add (.required "stdout_truncated" bool) (·.stdoutTruncated)
    |>.add (.required "stderr_truncated" bool) (·.stderrTruncated))
    (by decide) fun _ => rfl

def evidenceFromResult (crates : Crates) (check : NormalizedCheck) (result : ProcessResult) :
    Outcome RunError CheckEvidence := do
  ensure (result.cleanup = .verified) (.invariant "process cleanup was not verified")
  let durationMs := if result.elapsedMillis < 2^64 then UInt64.ofNat result.elapsedMillis
    else UInt64.ofNat (2^64-1)
  let (status,timedOut,cancelled) := match result.termination with
    | .timedOut => (EvidenceStatus.fail,true,false)
    | .cancelled => (.fail,false,true)
    | .completed =>
      (if result.exit.map (·.success) = some true then .pass else .fail,false,false)
  let outputDigest := canonicalDigest crates (OutputDigestInput.codec.encode {
    stdoutFullDigest := result.stdout.fullDigest
    stdoutByteCount := result.stdout.byteCount
    stderrFullDigest := result.stderr.fullDigest
    stderrByteCount := result.stderr.byteCount
    stdoutTruncated := result.stdout.truncated
    stderrTruncated := result.stderr.truncated })
  return {
    id := check.id
    required := check.required
    argv := check.argv
    workingDirectory := check.workingDirectory
    status
    exitCode := result.exit.bind (·.code)
    durationMs
    timedOut
    cancelled
    outputDigest := some outputDigest
    incompleteReason := none }

def notRun (check : NormalizedCheck) (reason : String) : CheckEvidence where
  id := check.id
  required := check.required
  argv := check.argv
  workingDirectory := check.workingDirectory
  status := .notRun
  exitCode := none
  durationMs := 0
  timedOut := false
  cancelled := false
  outputDigest := none
  incompleteReason := some reason

def cancellationReasonText (token : CancellationToken) : String :=
  match token.reason with
  | some .resourcePressure => "host resource pressure watchdog tripped"
  | some .user | none => "run cancelled before check execution"

/-- The part of a run that the loop does not control. The requests to cancel are those made
before the loop looks at the token in an iteration, and those made before it looks again.
The answers of the runtime are given for each iteration, so they may depend on anything. -/
structure RunWorld (ρ : Type) where
  token : CancellationToken
  before : ℕ → List CancellationReason
  during : ℕ → List CancellationReason
  executeCheck : ℕ → NormalizedCheck → ρ → Except RuntimeError ProcessResult

namespace RunWorld

variable {ρ : Type} (world : RunWorld ρ)

def tokenAtStart : ℕ → CancellationToken
  | 0 => world.token.after (world.before 0)
  | n+1 => ((tokenAtStart n).after (world.during n)).after (world.before (n+1))

def tokenAtEnd (n : ℕ) : CancellationToken := (world.tokenAtStart n).after (world.during n)

end RunWorld

/-- A call of `execute_check`, as the runtime sees it. -/
structure RuntimeCall where
  iteration : ℕ
  check : NormalizedCheck
  response : Except RuntimeError ProcessResult

structure RunState where
  statuses : OrderedMap String EvidenceStatus
  checks : List CheckEvidence
  terminalReason : Option String
  calls : List RuntimeCall

namespace RunState

def initial : RunState := ⟨.empty,[],none,[]⟩

def push (state : RunState) (declared : NormalizedCheck) (evidence : CheckEvidence) : RunState :=
  {state with
    statuses := state.statuses.insert declared.id evidence.status
    checks := state.checks++[evidence]}

/-- The check is not run, and no later check is either. -/
def stop (state : RunState) (declared : NormalizedCheck) (reason : String) : RunState :=
  {state with terminalReason := some reason}.push declared (notRun declared reason)

end RunState

section Loop

variable {ρ : Type} (crates : Crates) (world : RunWorld ρ)

/-- What follows a call of `execute_check` in iteration `n`. -/
def recordResponse (n : ℕ) (state : RunState) (declared : NormalizedCheck) :
    Except RuntimeError ProcessResult → Outcome RunError RunState
  | .ok result =>
    if result.termination = .cancelled ∧
        (world.tokenAtEnd n).reason = some .resourcePressure then
      return state.stop declared "host resource pressure watchdog tripped"
    else do
      let evidence ← evidenceFromResult crates declared result
      return state.push declared evidence
  | .error error =>
    if error.isFatal then .err (.runtime error)
    else
      let reason := if (world.tokenAtEnd n).reason = some .resourcePressure then
          "host resource pressure watchdog tripped"
        else "runtime execution became unavailable or uncertain"
      return state.stop declared reason

def runIteration (state : RunState) (item : NormalizedCheck × ρ) : Outcome RunError RunState :=
  let (declared,rendered) := item
  let n := state.checks.length
  if (world.tokenAtStart n).isCancelled then
    return state.stop declared (cancellationReasonText (world.tokenAtEnd n))
  else match state.terminalReason with
    | some reason => return state.push declared (notRun declared reason)
    | none =>
      if ∃ dependency ∈ declared.dependsOn, state.statuses.get? dependency ≠ some .pass then
        return state.push declared (notRun declared "dependency did not pass in this run")
      else
        let response := world.executeCheck n declared rendered
        recordResponse crates world n
          {state with calls := state.calls++[⟨n,declared,response⟩]} declared response

def runChecks (plan : ExecutionPlanV1) (rendered : List ρ) : Outcome RunError RunState := do
  ensure (rendered.length = plan.checks.length) (.invariant "runtime check plan length changed")
  fold (runIteration crates world) .initial (plan.checks.zip rendered)

end Loop

end CommitCiPreflight
