import CommitCiPreflight.Receipt
import CommitCiPreflight.RunJournal

/-! The end of a run, from `terminal.rs` and `main.rs`: the workload is completed, admission is
released once, the snapshot is cleaned and the receipt is sealed and written. -/
namespace CommitCiPreflight

open Program

inductive RunErrorKind
  | repositoryNotDirectory
  | dirtyRepository
  | invalidCommit
  | staleCommit
  | resourcePressure
  | remoteSecretOnly
  | gitInspection
  | unsafeReceiptPath
  | clock
  | invariant
  | cache
  | workspace
  | artifactObservation
  | storage
  | sourceSnapshot
  | runtime
  | process
  | receipt
  | io
  deriving DecidableEq

/-- The variants of `MatrixError` that a failure kind depends on. -/
inductive MatrixErrorKind
  | run (error : RunErrorKind)
  | runtime
  | other
  deriving DecidableEq

/-- `CliError` over the errors of admission. Variants that are only passed on are `other`. -/
inductive CliError (A : Type)
  | run (error : RunErrorKind)
  | matrix (error : MatrixErrorKind)
  | resource
  | admission (error : A)
  | runOutcome (status : EvidenceStatus)
  | other (text : String)
  deriving DecidableEq

def runFailureKind : RunErrorKind → RunFailureKindV1
  | .resourcePressure => .resourcePressure
  | .staleCommit => .staleCommit
  | .workspace | .cache | .storage => .preparationFailed
  | .runtime | .process => .executionFailed
  | .receipt | .unsafeReceiptPath => .finalizationFailed
  | .invariant => .invariant
  | _ => .unknown

def cliFailureKind {A : Type} : CliError A → RunFailureKindV1
  | .run error => runFailureKind error
  | .matrix (.run error) => runFailureKind error
  | .matrix .runtime => .executionFailed
  | .resource => .resourcePressure
  | .admission _ => .cleanupFailed
  | _ => .unknown

inductive TerminalFailure (P R : Type)
  | primary (error : P)
  | release (error : R)
  deriving DecidableEq

inductive RunTerminalJournalEvent
  | primaryFailure (kind : RunFailureKindV1)
  | releaseFailure
  | releaseFailureAfterAdmissionAcquired
  deriving DecidableEq

section Finalize

variable {Op : Type} {Result : Op → Type} {T P R A G : Type}

def finalizeOwnedTerminal (primary : Except P T)
    (completeOwned : Except P T → Program Op Result (Except P T))
    (release : Program Op Result (Except R Unit)) :
    Program Op Result (Except (TerminalFailure P R) T) := do
  let completed ← completeOwned primary
  match ← release with
  | .ok () => return completed.mapError .primary
  | .error e => return .error (.release e)

/-- What is recorded and returned for the result of a finalized terminal. -/
def recordTerminal (journal : RunTerminalJournalEvent → Fallible Op Result (CliError A) Unit) :
    Except (TerminalFailure (CliError A) A) T → Fallible Op Result (CliError A) T
  | .ok value => return value
  | .error (.primary e) => do
    journal (.primaryFailure (cliFailureKind e))
    throw e
  | .error (.release e) => do
    journal .releaseFailure
    throw (.admission e)

def finalizeRunTerminal (primary : Except (CliError A) T)
    (completeOwned : Except (CliError A) T → Program Op Result (Except (CliError A) T))
    (release : Program Op Result (Except A Unit))
    (journal : RunTerminalJournalEvent → Fallible Op Result (CliError A) Unit) :
    Fallible Op Result (CliError A) T := do
  let finalized ← ExceptT.lift (finalizeOwnedTerminal primary completeOwned release)
  recordTerminal journal finalized

/-- The journal of an admission that was acquired and could not be recorded. -/
def afterAdmissionAcquired : RunTerminalJournalEvent → RunTerminalJournalEvent
  | .releaseFailure => .releaseFailureAfterAdmissionAcquired
  | event => event

def acquireAdmissionWithJournal (acquire : Fallible Op Result (CliError A) G)
    (recordAdmitted : Program Op Result (Except (CliError A) Unit))
    (release : G → Program Op Result (Except A Unit))
    (journal : RunTerminalJournalEvent → Fallible Op Result (CliError A) Unit) :
    Fallible Op Result (CliError A) G := do
  let guard ← acquire
  match ← ExceptT.lift recordAdmitted with
  | .ok () => return guard
  | .error e =>
    finalizeRunTerminal (.error e) (fun primary => return primary) (release guard)
      fun event => journal (afterAdmissionAcquired event)

end Finalize

/-- The ports of `MatrixTerminalLifecyclePorts`, with what each is called with. -/
inductive MatrixPort (T S G A : Type)
  | validate
  | acquire
  | execute
  | complete (primary : Except (CliError A) T)
  | release (guard : G)
  | journal (event : RunTerminalJournalEvent)
  | cleanupSnapshot
  | seal (material : T)
  | write (receipt : S)

variable {T S O G A : Type}

@[reducible] def MatrixPort.Result (O : Type) : MatrixPort T S G A → Type
  | .validate => Except (CliError A) Unit
  | .acquire => Except (CliError A) G
  | .execute => Except (CliError A) T
  | .complete _ => Except (CliError A) T
  | .release _ => Except A Unit
  | .journal _ => Except (CliError A) Unit
  | .cleanupSnapshot => Except (CliError A) Unit
  | .seal _ => Except (CliError A) S
  | .write _ => Except (CliError A) O

abbrev MatrixIo (T S O G A : Type) :=
  Fallible (MatrixPort T S G A) (MatrixPort.Result O) (CliError A)

def ask (op : MatrixPort T S G A) :
    Program (MatrixPort T S G A) (MatrixPort.Result O) (op.Result O) := perform op

def port {α : Type} (call : Program (MatrixPort T S G A) (MatrixPort.Result O)
    (Except (CliError A) α)) : MatrixIo T S O G A α := ExceptT.mk call

/-- A port whose error is recorded as a failed finalization first. -/
def finalizing {α : Type} (call : Program (MatrixPort T S G A) (MatrixPort.Result O)
    (Except (CliError A) α)) : MatrixIo T S O G A α := do
  match ← ExceptT.lift call with
  | .ok value => return value
  | .error e => do
    port (ask (.journal (.primaryFailure .finalizationFailed)))
    throw e

def orchestrateMatrixTerminalLifecycle : MatrixIo T S O G A O := do
  port (ask .validate)
  let guard ← port (ask .acquire)
  let executed ← ExceptT.lift (ask .execute)
  let material ← finalizeRunTerminal executed (fun primary => ask (.complete primary))
    (ask (.release guard)) fun event => port (ask (.journal event))
  port (ask .cleanupSnapshot)
  let receipt ← finalizing (ask (.seal material))
  finalizing (ask (.write receipt))

abbrev MatrixEvent (T S O G A : Type) := Event (MatrixPort T S G A) (MatrixPort.Result O)

/-- The error returned after an event was to be recorded: that of the journal, if it failed. -/
def recorded {α : Type} (e : CliError A) : Except (CliError A) Unit → Except (CliError A) α
  | .ok () => .error e
  | .error failure => .error failure

def releasedCalls (guard : G) (executed completed : Except (CliError A) T)
    (released : Except A Unit) : List (MatrixEvent T S O G A) :=
  [⟨.validate,.ok ()⟩,⟨.acquire,.ok guard⟩,⟨.execute,executed⟩,⟨.complete executed,completed⟩,
    ⟨.release guard,released⟩]

inductive MatrixEnds : List (MatrixEvent T S O G A) → Except (CliError A) O → Prop
  | invalid (e : CliError A) : MatrixEnds [⟨.validate,.error e⟩] (.error e)
  | refused (e : CliError A) : MatrixEnds [⟨.validate,.ok ()⟩,⟨.acquire,.error e⟩] (.error e)
  | releaseFailed (guard : G) (executed completed : Except (CliError A) T) (e : A)
      (journaled : Except (CliError A) Unit) :
      MatrixEnds (releasedCalls guard executed completed (.error e)++
        [⟨.journal .releaseFailure,journaled⟩]) (recorded (.admission e) journaled)
  | workloadFailed (guard : G) (executed : Except (CliError A) T) (e : CliError A)
      (journaled : Except (CliError A) Unit) :
      MatrixEnds (releasedCalls guard executed (.error e) (.ok ())++
        [⟨.journal (.primaryFailure (cliFailureKind e)),journaled⟩]) (recorded e journaled)
  | cleanupFailed (guard : G) (executed : Except (CliError A) T) (material : T) (e : CliError A) :
      MatrixEnds (releasedCalls guard executed (.ok material) (.ok ())++
        [⟨.cleanupSnapshot,.error e⟩]) (.error e)
  | sealFailed (guard : G) (executed : Except (CliError A) T) (material : T) (e : CliError A)
      (journaled : Except (CliError A) Unit) :
      MatrixEnds (releasedCalls guard executed (.ok material) (.ok ())++
        [⟨.cleanupSnapshot,.ok ()⟩,⟨.seal material,.error e⟩,
          ⟨.journal (.primaryFailure .finalizationFailed),journaled⟩]) (recorded e journaled)
  | writeFailed (guard : G) (executed : Except (CliError A) T) (material : T) (receipt : S)
      (e : CliError A) (journaled : Except (CliError A) Unit) :
      MatrixEnds (releasedCalls guard executed (.ok material) (.ok ())++
        [⟨.cleanupSnapshot,.ok ()⟩,⟨.seal material,.ok receipt⟩,⟨.write receipt,.error e⟩,
          ⟨.journal (.primaryFailure .finalizationFailed),journaled⟩]) (recorded e journaled)
  | written (guard : G) (executed : Except (CliError A) T) (material : T) (receipt : S)
      (outcome : O) :
      MatrixEnds (releasedCalls guard executed (.ok material) (.ok ())++
        [⟨.cleanupSnapshot,.ok ()⟩,⟨.seal material,.ok receipt⟩,⟨.write receipt,.ok outcome⟩])
        (.ok outcome)

section Runs

variable {trace : List (MatrixEvent T S O G A)}

theorem runs_ask {op : MatrixPort T S G A} {result : op.Result O} :
    Runs (ask op) trace result ↔ trace = [⟨op,result⟩] := runs_perform

theorem runs_journal_throw {α : Type} {event : RunTerminalJournalEvent} {e : CliError A}
    {outcome : Except (CliError A) α}
    (h : Runs (port (ask (.journal event)) >>= fun _ =>
      (throw e : MatrixIo T S O G A α)).run trace outcome) :
    ∃ journaled, trace = [⟨.journal event,journaled⟩] ∧ outcome = recorded e journaled := by
  rcases runs_run_bind.1 h with ⟨failure,rfl,hfailed⟩ | ⟨⟨⟩,first,rest,rfl,hdone,hrest⟩
  · exact ⟨.error failure,runs_ask.1 hfailed,rfl⟩
  · obtain ⟨rfl,rfl⟩ := runs_throw.1 hrest
    exact ⟨.ok (),by rw [runs_ask.1 hdone]; rfl,rfl⟩

theorem runs_finalizing {α : Type} {call : Program (MatrixPort T S G A) (MatrixPort.Result O)
    (Except (CliError A) α)} {outcome : Except (CliError A) α}
    (h : Runs (finalizing call).run trace outcome) :
    (∃ value, Runs call trace (.ok value) ∧ outcome = .ok value) ∨
      ∃ e first journaled, Runs call first (.error e) ∧
        trace = first++[⟨.journal (.primaryFailure .finalizationFailed),journaled⟩] ∧
        outcome = recorded e journaled := by
  obtain ⟨answer,first,rest,rfl,hcall,hrest⟩ := runs_lift_bind.1 h
  cases answer with
  | ok value =>
    obtain ⟨rfl,rfl⟩ := runs_pure.1 hrest
    exact Or.inl ⟨value,by simpa using hcall,rfl⟩
  | error e =>
    obtain ⟨journaled,rfl,rfl⟩ := runs_journal_throw hrest
    exact Or.inr ⟨e,first,journaled,hcall,rfl,rfl⟩

/-- The calls of a finalized terminal, and what comes of its three kinds of result. -/
theorem runs_finalizeRunTerminal {guard : G} {executed : Except (CliError A) T}
    {outcome : Except (CliError A) T}
    (h : Runs (finalizeRunTerminal executed (fun primary => ask (.complete primary))
      (ask (.release guard)) fun event => port (ask (.journal event))).run trace outcome) :
    (∃ material, trace = [⟨.complete executed,.ok material⟩,⟨.release guard,.ok ()⟩] ∧
      outcome = .ok material) ∨
    (∃ e journaled, trace = [⟨.complete executed,.error e⟩,⟨.release guard,.ok ()⟩,
      ⟨.journal (.primaryFailure (cliFailureKind e)),journaled⟩] ∧
      outcome = recorded e journaled) ∨
    ∃ completed e journaled, trace = [⟨.complete executed,completed⟩,⟨.release guard,.error e⟩,
      ⟨.journal .releaseFailure,journaled⟩] ∧ outcome = recorded (.admission e) journaled := by
  obtain ⟨finalized,first,rest,rfl,hfinalized,hrest⟩ := runs_lift_bind.1 h
  obtain ⟨completed,head,tail,rfl,hcomplete,htail⟩ := runs_bind.1 hfinalized
  obtain rfl := runs_ask.1 hcomplete
  obtain ⟨released,middle,last,rfl,hrelease,hlast⟩ := runs_bind.1 htail
  obtain rfl := runs_ask.1 hrelease
  cases released with
  | error e =>
    obtain ⟨rfl,rfl⟩ := runs_done.1 hlast
    obtain ⟨journaled,rfl,rfl⟩ := runs_journal_throw hrest
    exact Or.inr (Or.inr ⟨completed,e,journaled,rfl,rfl⟩)
  | ok =>
    obtain ⟨rfl,rfl⟩ := runs_done.1 hlast
    cases completed with
    | error e =>
      obtain ⟨journaled,rfl,rfl⟩ := runs_journal_throw hrest
      exact Or.inr (Or.inl ⟨e,journaled,rfl,rfl⟩)
    | ok material =>
      obtain ⟨rfl,rfl⟩ := runs_pure.1 hrest
      exact Or.inl ⟨material,rfl,rfl⟩

theorem recorded_ne_ok {α : Type} {e : CliError A} {journaled : Except (CliError A) Unit} {a : α} :
    recorded e journaled ≠ .ok a := by
  cases journaled <;> simp [recorded]

theorem runs_finalizing_ok {α : Type} {call : Program (MatrixPort T S G A) (MatrixPort.Result O)
    (Except (CliError A) α)} {value : α} (h : Runs (finalizing call).run trace (.ok value)) :
    Runs call trace (.ok value) := by
  rcases runs_finalizing h with ⟨_,hcall,houtcome⟩ | ⟨_,_,_,-,-,houtcome⟩
  · cases houtcome
    exact hcall
  · exact absurd houtcome.symm recorded_ne_ok

theorem runs_finalized {guard : G} {executed : Except (CliError A) T} {material : T}
    (h : Runs (finalizeRunTerminal executed (fun primary => ask (.complete primary))
      (ask (.release guard)) fun event => port (ask (.journal event))).run trace (.ok material)) :
    trace = [⟨.complete executed,.ok material⟩,⟨.release guard,.ok ()⟩] := by
  rcases runs_finalizeRunTerminal h with ⟨_,htrace,houtcome⟩ | ⟨_,_,-,houtcome⟩ | ⟨_,_,_,-,houtcome⟩
  · cases houtcome
    exact htrace
  · exact absurd houtcome.symm recorded_ne_ok
  · exact absurd houtcome.symm recorded_ne_ok

theorem matrixEnds_of_runs {outcome : Except (CliError A) O}
    (h : Runs (orchestrateMatrixTerminalLifecycle (T := T) (S := S) (O := O) (G := G)
      (A := A)).run trace outcome) : MatrixEnds trace outcome := by
  rcases runs_run_bind.1 h with ⟨e,rfl,hinvalid⟩ | ⟨⟨⟩,_,_,rfl,hvalid,hacquire⟩
  · obtain rfl := runs_ask.1 hinvalid
    exact .invalid e
  obtain rfl := runs_ask.1 hvalid
  rcases runs_run_bind.1 hacquire with ⟨e,rfl,hrefused⟩ | ⟨guard,_,_,rfl,hacquired,hexecute⟩
  · obtain rfl := runs_ask.1 hrefused
    exact .refused e
  obtain rfl := runs_ask.1 hacquired
  obtain ⟨executed,_,_,rfl,hexecuted,hfinalize⟩ := runs_lift_bind.1 hexecute
  obtain rfl := runs_ask.1 hexecuted
  rcases runs_run_bind.1 hfinalize with ⟨e,rfl,hfailed⟩ | ⟨material,_,_,rfl,hfinal,hcleanup⟩
  · rcases runs_finalizeRunTerminal hfailed with ⟨_,-,habsurd⟩ | ⟨e',journaled,rfl,houtcome⟩ |
      ⟨completed,e',journaled,rfl,houtcome⟩
    · cases habsurd
    · have hends := MatrixEnds.workloadFailed (S := S) (O := O) guard executed e' journaled
      cases journaled <;> cases houtcome <;> exact hends
    · have hends := MatrixEnds.releaseFailed (S := S) (O := O) guard executed completed e' journaled
      cases journaled <;> cases houtcome <;> exact hends
  obtain rfl := runs_finalized hfinal
  rcases runs_run_bind.1 hcleanup with ⟨e,rfl,hdirty⟩ | ⟨⟨⟩,_,_,rfl,hcleaned,hseal⟩
  · obtain rfl := runs_ask.1 hdirty
    exact .cleanupFailed guard executed material e
  obtain rfl := runs_ask.1 hcleaned
  rcases runs_run_bind.1 hseal with ⟨e,rfl,hunsealed⟩ | ⟨receipt,_,_,rfl,hsealed,hwrite⟩
  · rcases runs_finalizing hunsealed with ⟨_,-,habsurd⟩ | ⟨e',_,journaled,hcall,rfl,houtcome⟩
    · cases habsurd
    · obtain rfl := runs_ask.1 hcall
      have hends := MatrixEnds.sealFailed (S := S) (O := O) guard executed material e' journaled
      cases journaled <;> cases houtcome <;> exact hends
  obtain rfl := runs_ask.1 (runs_finalizing_ok hsealed)
  rcases runs_finalizing hwrite with ⟨result,hcall,rfl⟩ | ⟨e,_,journaled,hcall,rfl,rfl⟩
  · obtain rfl := runs_ask.1 hcall
    exact .written guard executed material receipt result
  · obtain rfl := runs_ask.1 hcall
    exact .writeFailed guard executed material receipt e journaled

end Runs

inductive TerminalStage
  | validate
  | acquire
  | execute
  | complete
  | release
  | journal
  | cleanupSnapshot
  | seal
  | write
  deriving DecidableEq

def MatrixPort.stage : MatrixPort T S G A → TerminalStage
  | .validate => .validate
  | .acquire => .acquire
  | .execute => .execute
  | .complete _ => .complete
  | .release _ => .release
  | .journal _ => .journal
  | .cleanupSnapshot => .cleanupSnapshot
  | .seal _ => .seal
  | .write _ => .write

namespace MatrixEvent

def ok : MatrixEvent T S O G A → Bool
  | ⟨.validate,result⟩ => result.isOk
  | ⟨.acquire,result⟩ => result.isOk
  | ⟨.execute,result⟩ => result.isOk
  | ⟨.complete _,result⟩ => result.isOk
  | ⟨.release _,result⟩ => result.isOk
  | ⟨.journal _,result⟩ => result.isOk
  | ⟨.cleanupSnapshot,result⟩ => result.isOk
  | ⟨.seal _,result⟩ => result.isOk
  | ⟨.write _,result⟩ => result.isOk

def Invoked (stage : TerminalStage) (event : MatrixEvent T S O G A) : Prop :=
  event.1.stage = stage

instance (stage : TerminalStage) (event : MatrixEvent T S O G A) :
    Decidable (Invoked stage event) := inferInstanceAs (Decidable (_ = _))

def Succeeded (stage : TerminalStage) (event : MatrixEvent T S O G A) : Prop :=
  event.1.stage = stage ∧ ok event = true

end MatrixEvent

open MatrixEvent

/-- What the trace of a lifecycle and its result satisfy. -/
structure TerminalOrder (trace : List (MatrixEvent T S O G A)) (outcome : Except (CliError A) O) :
    Prop where
  releases_once : (∃ event ∈ trace, Succeeded .acquire event) →
    trace.countP (Invoked .release ·) = 1
  releases_acquired : (¬ ∃ event ∈ trace, Succeeded .acquire event) →
    trace.countP (Invoked .release ·) = 0
  execute_release : Precedes (Invoked .execute) (Invoked .release) trace
  complete_release : Precedes (Invoked .complete) (Invoked .release) trace
  complete_cleanup : Precedes (Succeeded .complete) (Invoked .cleanupSnapshot) trace
  release_cleanup : Precedes (Succeeded .release) (Invoked .cleanupSnapshot) trace
  complete_seal : Precedes (Succeeded .complete) (Invoked .seal) trace
  release_seal : Precedes (Succeeded .release) (Invoked .seal) trace
  cleanup_seal : Precedes (Succeeded .cleanupSnapshot) (Invoked .seal) trace
  seal_write : Precedes (Succeeded .seal) (Invoked .write) trace
  ok_iff : (∃ value, outcome = .ok value) ↔ ∃ event ∈ trace, Succeeded .write event
  journals_once : trace.countP (Invoked .journal ·) ≤ 1
  release_event : ∀ event result, ⟨.journal event,result⟩ ∈ trace →
    (event = .releaseFailure ↔ ∃ guard e, ⟨.release guard,.error e⟩ ∈ trace)
  release_journaled : (∃ guard e, ⟨.release guard,.error e⟩ ∈ trace) →
    ∃ result, ⟨.journal .releaseFailure,result⟩ ∈ trace
  release_error : ∀ guard e, ⟨.release guard,.error e⟩ ∈ trace →
    ⟨.journal .releaseFailure,.ok ()⟩ ∈ trace → outcome = .error (.admission e)

theorem MatrixEnds.order {trace : List (MatrixEvent T S O G A)} {outcome : Except (CliError A) O}
    (h : MatrixEnds trace outcome) : TerminalOrder trace outcome := by
  have hrecorded : ∀ (e : CliError A) journaled, ¬ ∃ value : O, recorded e journaled = .ok value :=
    fun e journaled ⟨_,hvalue⟩ => recorded_ne_ok hvalue
  constructor
  case ok_iff =>
    cases h <;> simp [releasedCalls,Succeeded,MatrixPort.stage,ok,Except.isOk,Except.toBool,
      hrecorded]
  case release_error =>
    intro guard e hrelease hjournal
    cases h with
    | releaseFailed _ _ _ e' journaled =>
      simp only [releasedCalls,List.mem_append,List.mem_cons,reduceCtorEq,Sigma.mk.injEq,
        List.not_mem_nil,MatrixPort.release.injEq,heq_eq_eq,Except.error.injEq,false_and,true_and,
        or_false,false_or] at hrelease hjournal
      obtain ⟨-,he⟩ := hrelease
      subst hjournal
      exact congrArg (fun e => Except.error (CliError.admission e)) (by simpa using he.symm)
    | _ => simp [releasedCalls] at hrelease
  all_goals
    cases h <;> simp [releasedCalls,Succeeded,Invoked,MatrixPort.stage,ok,Except.isOk,
      Except.toBool]

/-- Every run of the matrix lifecycle, whatever its ports answer, has one of the endings and keeps
to the order. -/
theorem matrix_terminal_order {trace : List (MatrixEvent T S O G A)}
    {outcome : Except (CliError A) O}
    (h : Runs (orchestrateMatrixTerminalLifecycle (T := T) (S := S) (O := O) (G := G)
      (A := A)).run trace outcome) : MatrixEnds trace outcome ∧ TerminalOrder trace outcome :=
  ⟨matrixEnds_of_runs h,(matrixEnds_of_runs h).order⟩

def MatrixPort.releaseRefused : (op : MatrixPort ℕ ℕ Unit ℕ) → op.Result ℕ
  | .validate => .ok ()
  | .acquire => .ok ()
  | .execute => .ok 3
  | .complete primary => primary
  | .release _ => .error 7
  | .journal _ => .ok ()
  | .cleanupSnapshot => .ok ()
  | .seal material => .ok material
  | .write receipt => .ok receipt

theorem matrix_terminal_order_release_refused :
    ∃ trace outcome, Runs (orchestrateMatrixTerminalLifecycle (T := ℕ) (S := ℕ) (O := ℕ)
        (G := Unit) (A := ℕ)).run trace outcome ∧
      trace = releasedCalls () (.ok 3) (.ok 3) (.error 7)++[⟨.journal .releaseFailure,.ok ()⟩] ∧
      (∃ event ∈ trace, Invoked .release event) ∧ outcome = .error (.admission 7) ∧
      MatrixEnds trace outcome ∧ TerminalOrder trace outcome :=
  ⟨_,_,runs_under MatrixPort.releaseRefused _,rfl,
    ⟨⟨.release (),.error 7⟩,.tail _ (.tail _ (.tail _ (.tail _ (.head _)))),rfl⟩,rfl,
    matrix_terminal_order (runs_under _ _)⟩

end CommitCiPreflight
