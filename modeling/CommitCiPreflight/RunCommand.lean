import CommitCiPreflight.Terminal

/-! The `run` command for one runtime: `print_run` of `main.rs` with
`execute_local_run_with_dependencies` of `run.rs`. A run is the sequence of its steps, each of
which succeeds or fails with the error the command reports; what the steps compute is the
subject of other modules. -/
namespace CommitCiPreflight

open Program

inductive ResourcePlatform
  | macOs
  | other
  deriving DecidableEq

inductive RunStep (A : Type)
  | loadPlan
  | rejectRemoteSecrets
  | resolveCacheRoot
  | initializeCache
  | preflightStorage
  | runtimeFor
  | installCancellationHandler
  | preflightRuntimeCapabilities
  | initializeJournal
  | newJournalId
  | createRun
  | resolveCleanHead
  | replaceIdentity
  | reserveResource
  | materialize
  | prepareMountOverlay
  | bindSource
  | platformFor
  | acquire
  /-- `transition_state` of the journal. -/
  | transitionState (state : RunJournalStateV1) (failureKind : Option RunFailureKindV1)
  | cleanupPendingAfterAdmissionAcquired
  | resourcePreStart
  | currentDir
  | executeReceipt
  | sealReceipt
  | canonicalBytes
  /-- `write_receipt_bytes_atomic`: the receipt is in place exactly when it succeeds. -/
  | publish
  | reconcileWatchdog (primary : Except (CliError A) EvidenceStatus)
  | release
  | cleanupSnapshot
  | report

variable {A : Type}

@[reducible] def RunStep.Error : RunStep A → Type
  | .release => A
  | _ => CliError A

@[reducible] def RunStep.Value : RunStep A → Type
  | .executeReceipt | .reconcileWatchdog _ => EvidenceStatus
  | _ => Unit

@[reducible] def RunStep.Result (op : RunStep A) : Type := Except op.Error op.Value

abbrev CommandIo (A : Type) := Fallible (RunStep A) RunStep.Result (CliError A)

namespace RunCommand

def ask (op : RunStep A) : Program (RunStep A) RunStep.Result op.Result := perform op

def step {α : Type} (call : Program (RunStep A) RunStep.Result (Except (CliError A) α)) :
    CommandIo A α := ExceptT.mk call

def transitionState (state : RunJournalStateV1) (failureKind : Option RunFailureKindV1) :
    CommandIo A Unit := step (ask (.transitionState state failureKind))

/-- `lifecycle.fail`. -/
def fail (kind : RunFailureKindV1) : CommandIo A Unit := transitionState .failed (some kind)

def journaled (kind : RunFailureKindV1)
    (call : Program (RunStep A) RunStep.Result (Except (CliError A) Unit)) : CommandIo A Unit := do
  match ← ExceptT.lift call with
  | .ok () => return ()
  | .error e => do
    fail kind
    throw e

def journal : RunTerminalJournalEvent → CommandIo A Unit
  | .primaryFailure kind => fail kind
  | .releaseFailure => transitionState .cleanupPending none
  | .releaseFailureAfterAdmissionAcquired => step (ask .cleanupPendingAfterAdmissionAcquired)

def prepare : CommandIo A Unit := do
  step (ask .loadPlan)
  step (ask .rejectRemoteSecrets)
  step (ask .resolveCacheRoot)
  step (ask .initializeCache)
  step (ask .preflightStorage)
  step (ask .runtimeFor)
  step (ask .installCancellationHandler)
  step (ask .preflightRuntimeCapabilities)
  step (ask .initializeJournal)
  step (ask .newJournalId)
  step (ask .createRun)
  journaled .preparationFailed (ask .resolveCleanHead)
  step (ask .replaceIdentity)
  journaled .preparationFailed (ask .reserveResource)
  journaled .preparationFailed (ask .materialize)
  journaled .preparationFailed (ask .prepareMountOverlay)
  journaled .preparationFailed (ask .bindSource)
  step (ask .platformFor)

def acquireAdmission : CommandIo A Unit :=
  acquireAdmissionWithJournal (journaled .admissionRejected (ask .acquire))
    (ask (.transitionState .admitted none)) (fun _ => ask .release) journal

/-- `execute_local_run_with_dependencies`: the receipt is published by the execution itself. -/
def executeLocalRun : CommandIo A EvidenceStatus := do
  let status ← step (ask .executeReceipt)
  step (ask .sealReceipt)
  step (ask .canonicalBytes)
  step (ask .publish)
  return status

/-- `source_snapshot.cleanup`, whose failure leaves the cleanup pending. -/
def cleanupSnapshot : CommandIo A Unit := do
  match ← ExceptT.lift (ask .cleanupSnapshot) with
  | .ok () => return ()
  | .error e => do
    transitionState .cleanupPending none
    throw e

/-- A step whose error ends the terminal. -/
def orFinalize (call : Program (RunStep A) RunStep.Result (Except (CliError A) Unit))
    (rest : CommandIo A Unit) : CommandIo A Unit := do
  match ← ExceptT.lift call with
  | .ok () => rest
  | .error e =>
    finalizeRunTerminal (.error e) (fun primary => return primary) (ask .release) journal

def exitOutcome (status : EvidenceStatus) : Except (CliError A) Unit :=
  if status = .pass then .ok () else .error (.runOutcome status)

def runAndFinalize : CommandIo A Unit := do
  let result ← ExceptT.lift executeLocalRun.run
  let status ← finalizeRunTerminal result (fun primary => ask (.reconcileWatchdog primary))
    (ask .release) journal
  cleanupSnapshot
  transitionState .sealed none
  step (ask .report)
  Program.ofExcept (exitOutcome status)

def printRun (platform : ResourcePlatform) : CommandIo A Unit := do
  prepare
  acquireAdmission
  orFinalize (ask .resourcePreStart) <|
    if platform = .macOs then orFinalize (ask .currentDir) runAndFinalize else runAndFinalize

abbrev RunEvent (A : Type) := Event (RunStep A) RunStep.Result

def Published (event : RunEvent A) : Prop := event = ⟨.publish,.ok ()⟩

def Released (event : RunEvent A) : Prop := event = ⟨.release,.ok ()⟩

def Cleaned (event : RunEvent A) : Prop := event = ⟨.cleanupSnapshot,.ok ()⟩

def preparationSteps : List (RunStep A) :=
  [.loadPlan,.rejectRemoteSecrets,.resolveCacheRoot,.initializeCache,.preflightStorage,
    .runtimeFor,.installCancellationHandler,.preflightRuntimeCapabilities,.initializeJournal,
    .newJournalId,.createRun,.resolveCleanHead,.replaceIdentity,.reserveResource,.materialize,
    .prepareMountOverlay,.bindSource,.platformFor]

def admissionSteps : List (RunStep A) := [.acquire,.transitionState .admitted none]

def startSteps : ResourcePlatform → List (RunStep A)
  | .macOs => [.resourcePreStart,.currentDir]
  | .other => [.resourcePreStart]

def executionSteps : List (RunStep A) := [.executeReceipt,.sealReceipt,.canonicalBytes,.publish]

/-- The steps of a run up to and including the publication. -/
def stepsToPublication (platform : ResourcePlatform) : List (RunStep A) :=
  preparationSteps++(admissionSteps++(startSteps platform++executionSteps))

section Under

variable (answer : (op : RunStep A) → op.Result)

def Ok (op : RunStep A) : Prop := (answer op).isOk = true

/-- The program makes exactly these steps and returns, unless one of them fails: then it fails
itself. It never publishes. -/
structure Leads (ops : List (RunStep A)) (x : CommandIo A Unit) : Prop where
  through : (∀ op ∈ ops, Ok answer op) →
    x.run.under answer = (ops.map fun op => ⟨op,answer op⟩,.ok ())
  stopped : (∃ op ∈ ops, ¬ Ok answer op) → ∃ e, (x.run.under answer).2 = .error e
  quiet : ∀ event ∈ (x.run.under answer).1, ¬ Published event

/-- The program begins with these steps, unless one of them fails: then nothing is published. -/
structure Reaches {α : Type} (ops : List (RunStep A)) (x : CommandIo A α) : Prop where
  through : (∀ op ∈ ops, Ok answer op) →
    ∃ rest, (x.run.under answer).1 = (ops.map fun op => ⟨op,answer op⟩)++rest
  stopped : (∃ op ∈ ops, ¬ Ok answer op) →
    ∀ event ∈ (x.run.under answer).1, ¬ Published event

variable {answer} {ops more : List (RunStep A)} {x y : CommandIo A Unit} {op : RunStep A}

theorem quiet_of_uses {α : Type} {p : Program (RunStep A) RunStep.Result α}
    (hp : p.Uses (· ≠ .publish)) : ∀ event ∈ (p.under answer).1, ¬ Published event := by
  intro event hevent hpublished
  exact (runs_under answer p).uses hp event hevent (congrArg Sigma.fst hpublished)

theorem not_published (hop : op ≠ .publish) : ¬ Published (⟨op,answer op⟩ : RunEvent A) :=
  fun hpublished => hop (congrArg Sigma.fst hpublished)

theorem reaches_cons {α : Type} {z : CommandIo A α} (hop : op ≠ .publish)
    (hok : Ok answer op → ∃ w : CommandIo A α, Reaches answer ops w ∧
      (z.run.under answer).1 = ⟨op,answer op⟩::(w.run.under answer).1)
    (hfails : ¬ Ok answer op → ∀ event ∈ (z.run.under answer).1, ¬ Published event) :
    Reaches answer (op::ops) z where
  through h := by
    obtain ⟨w,hw,htrace⟩ := hok (h op List.mem_cons_self)
    obtain ⟨rest,hrest⟩ := hw.through fun op hop => h op (List.mem_cons_of_mem _ hop)
    exact ⟨rest,by rw [htrace,hrest]; rfl⟩
  stopped h := by
    by_cases hop' : Ok answer op
    · obtain ⟨w,hw,htrace⟩ := hok hop'
      obtain ⟨failed,hmem,hfailed⟩ := h
      have hlater : failed ∈ ops :=
        (List.mem_cons.1 hmem).resolve_left fun he => hfailed (he ▸ hop')
      rw [htrace]
      exact List.forall_mem_cons.2 ⟨not_published hop,hw.stopped ⟨failed,hlater,hfailed⟩⟩
    · exact hfails hop'

theorem fails_in_append (h : ∃ op ∈ ops++more, ¬ Ok answer op) (hops : ∀ op ∈ ops, Ok answer op) :
    ∃ op ∈ more, ¬ Ok answer op := by
  obtain ⟨op,hop,hfails⟩ := h
  exact ⟨op,(List.mem_append.1 hop).resolve_left fun hm => hfails (hops op hm),hfails⟩

theorem Leads.bind (hx : Leads answer ops x) (hy : Leads answer more y) :
    Leads answer (ops++more) (x >>= fun _ => y) where
  through h := by
    have hfirst := hx.through fun op hop => h op (List.mem_append_left _ hop)
    have hsecond := hy.through fun op hop => h op (List.mem_append_right _ hop)
    rw [under_run_bind_ok answer (congrArg Prod.snd hfirst),hfirst,hsecond,List.map_append]
  stopped h := by
    by_cases hops : ∀ op ∈ ops, Ok answer op
    · have hfirst := hx.through hops
      rw [under_run_bind_ok answer (congrArg Prod.snd hfirst)]
      exact hy.stopped (fails_in_append h hops)
    · push Not at hops
      obtain ⟨e,he⟩ := hx.stopped hops
      exact ⟨e,by rw [under_run_bind_error answer he]⟩
  quiet := by
    rcases hresult : (x.run.under answer).2 with e | ⟨⟩
    · rw [under_run_bind_error answer hresult]
      exact hx.quiet
    · rw [under_run_bind_ok answer hresult]
      intro event hevent
      rcases List.mem_append.1 hevent with hevent | hevent
      · exact hx.quiet event hevent
      · exact hy.quiet event hevent

theorem Leads.reaches (hx : Leads answer ops x) (hy : Reaches answer more y) :
    Reaches answer (ops++more) (x >>= fun _ => y) where
  through h := by
    have hfirst := hx.through fun op hop => h op (List.mem_append_left _ hop)
    obtain ⟨rest,hrest⟩ := hy.through fun op hop => h op (List.mem_append_right _ hop)
    refine ⟨rest,?_⟩
    rw [under_run_bind_ok answer (congrArg Prod.snd hfirst),hfirst,hrest,List.map_append,
      List.append_assoc]
  stopped h := by
    by_cases hops : ∀ op ∈ ops, Ok answer op
    · have hfirst := hx.through hops
      rw [under_run_bind_ok answer (congrArg Prod.snd hfirst)]
      intro event hevent
      rcases List.mem_append.1 hevent with hevent | hevent
      · exact hx.quiet event hevent
      · exact hy.stopped (fails_in_append h hops) event hevent
    · push Not at hops
      obtain ⟨e,he⟩ := hx.stopped hops
      rw [under_run_bind_error answer he]
      exact hx.quiet

section Steps

variable {op : RunStep A} {call : Program (RunStep A) RunStep.Result (Except (CliError A) Unit)}
  {result : Except (CliError A) Unit}

theorem leads_step (hcall : call.under answer = ([⟨op,answer op⟩],result))
    (hresult : result.isOk = (answer op).isOk) (hop : op ≠ .publish) :
    Leads answer [op] (step call) where
  through h := by
    have hok : result.isOk = true := hresult.trans (h op List.mem_cons_self)
    change call.under answer = _
    rw [hcall]
    cases result with
    | ok => rfl
    | error e => simp [Except.isOk,Except.toBool] at hok
  stopped h := by
    obtain ⟨_,hmem,hfails⟩ := h
    obtain rfl := List.mem_singleton.1 hmem
    change ∃ e, (call.under answer).2 = _
    rw [hcall]
    cases result with
    | ok => exact absurd hresult.symm hfails
    | error e => exact ⟨e,rfl⟩
  quiet event hevent hpublished := by
    change event ∈ (call.under answer).1 at hevent
    rw [hcall,List.mem_singleton] at hevent
    exact hop (congrArg Sigma.fst (hevent.symm.trans hpublished))

theorem uses_ask (hop : op ≠ .publish) : (ask op).Uses (· ≠ (.publish : RunStep A)) :=
  uses_perform hop

theorem uses_journal (event : RunTerminalJournalEvent) :
    (journal event).run.Uses (· ≠ (.publish : RunStep A)) := by
  cases event with
  | _ => exact uses_ask (by simp)

theorem uses_recordTerminal {α : Type} (handle : RunTerminalJournalEvent → RunTerminalJournalEvent)
    (finalized : Except (TerminalFailure (CliError A) A) α) :
    (recordTerminal (fun event => journal (handle event)) finalized).run.Uses
      (· ≠ (.publish : RunStep A)) := by
  rcases finalized with (e | e) | value
  · exact uses_run_bind (uses_journal _) fun _ => .done _
  · exact uses_run_bind (uses_journal _) fun _ => .done _
  · exact .done _

theorem uses_finalizeRunTerminal {α : Type} {primary : Except (CliError A) α}
    {complete : Except (CliError A) α → Program (RunStep A) RunStep.Result (Except (CliError A) α)}
    (hcomplete : ∀ result, (complete result).Uses (· ≠ (.publish : RunStep A)))
    (handle : RunTerminalJournalEvent → RunTerminalJournalEvent) :
    (finalizeRunTerminal primary complete (ask .release) fun event => journal (handle event)).run.Uses
      (· ≠ (.publish : RunStep A)) := by
  refine uses_run_bind (uses_lift ?_) fun finalized => uses_recordTerminal handle finalized
  refine uses_bind (hcomplete primary) fun completed => uses_bind (uses_ask (by simp)) ?_
  rintro (e | ⟨⟩)
  · exact .done _
  · exact .done _

theorem under_record_throw {x : CommandIo A Unit} {α : Type} (e : CliError A) :
    ∃ e', ((x >>= fun _ => (throw e : CommandIo A α)).run.under answer).2 = .error e' := by
  rcases hresult : (x.run.under answer).2 with failure | ⟨⟩
  · exact ⟨failure,by rw [under_run_bind_error answer hresult]⟩
  · exact ⟨e,by rw [under_run_bind_ok answer hresult]; rfl⟩

variable (hcall : call.under answer = ([⟨op,answer op⟩],result))
  (hresult : result.isOk = (answer op).isOk)
  (hop : op ≠ .publish)
include hcall hresult hop

theorem leads_handled {handler : CliError A → CommandIo A Unit}
    (hfails : ∀ e, ∃ e', ((handler e).run.under answer).2 = .error e')
    (hquiet : ∀ e, (handler e).run.Uses (· ≠ .publish))
    (hx : x = do
      match ← ExceptT.lift call with
      | .ok () => return ()
      | .error e => handler e) : Leads answer [op] x := by
  subst hx
  cases result with
  | ok =>
    have hunder : (ExceptT.lift call >>= fun
        | .ok () => pure ()
        | .error e => handler e : CommandIo A Unit).run.under answer =
        ([⟨op,answer op⟩],.ok ()) := by
      rw [under_lift_bind,hcall]
      rfl
    refine ⟨fun _ => hunder,fun h => ?_,fun event hevent hpublished => ?_⟩
    · obtain ⟨_,hmem,hfail⟩ := h
      obtain rfl := List.mem_singleton.1 hmem
      exact absurd hresult.symm hfail
    · rw [hunder,List.mem_singleton] at hevent
      exact hop (congrArg Sigma.fst (hevent.symm.trans hpublished))
  | error e =>
    have hunder : (ExceptT.lift call >>= fun
        | .ok () => pure ()
        | .error e => handler e : CommandIo A Unit).run.under answer =
        (⟨op,answer op⟩::((handler e).run.under answer).1,((handler e).run.under answer).2) := by
      rw [under_lift_bind,hcall]
      rfl
    refine ⟨fun h => ?_,fun _ => ?_,fun event hevent => ?_⟩
    · have hok := hresult.trans (h op List.mem_cons_self)
      simp [Except.isOk,Except.toBool] at hok
    · obtain ⟨e',he'⟩ := hfails e
      exact ⟨e',by rw [hunder]; exact he'⟩
    · rw [hunder,List.mem_cons] at hevent
      rcases hevent with rfl | hevent
      · exact fun hpublished => hop (congrArg Sigma.fst hpublished)
      · exact quiet_of_uses (hquiet e) event hevent

theorem reaches_orFinalize
    (hx : Reaches answer ops x) : Reaches answer (op::ops) (orFinalize call x) := by
  unfold orFinalize
  refine reaches_cons hop (fun hok => ⟨x,hx,?_⟩) fun hfails => ?_
  · cases result with
    | ok =>
      rw [under_lift_bind,hcall]
      rfl
    | error e => exact absurd (hresult.trans hok) (by simp [Except.isOk,Except.toBool])
  · cases result with
    | ok => exact absurd hresult.symm hfails
    | error e =>
      rw [under_lift_bind,hcall]
      exact List.forall_mem_cons.2 ⟨not_published hop,quiet_of_uses
        (uses_finalizeRunTerminal (fun _ => .done _) id)⟩

theorem leads_journaled {kind : RunFailureKindV1} :
    Leads answer [op] (journaled kind call) :=
  leads_handled hcall hresult hop (fun e => under_record_throw e)
    (fun _ => uses_run_bind (uses_ask (by simp)) fun _ => .done _) rfl

end Steps

theorem leads_prepare : Leads answer preparationSteps (prepare : CommandIo A Unit) :=
  (leads_step rfl rfl (by simp)).bind <| (leads_step rfl rfl (by simp)).bind <|
  (leads_step rfl rfl (by simp)).bind <| (leads_step rfl rfl (by simp)).bind <|
  (leads_step rfl rfl (by simp)).bind <| (leads_step rfl rfl (by simp)).bind <|
  (leads_step rfl rfl (by simp)).bind <| (leads_step rfl rfl (by simp)).bind <|
  (leads_step rfl rfl (by simp)).bind <| (leads_step rfl rfl (by simp)).bind <|
  (leads_step rfl rfl (by simp)).bind <| (leads_journaled rfl rfl (by simp)).bind <|
  (leads_step rfl rfl (by simp)).bind <| (leads_journaled rfl rfl (by simp)).bind <|
  (leads_journaled rfl rfl (by simp)).bind <| (leads_journaled rfl rfl (by simp)).bind <|
  (leads_journaled rfl rfl (by simp)).bind <| leads_step rfl rfl (by simp)

theorem under_finalize_error (handle : RunTerminalJournalEvent → RunTerminalJournalEvent)
    (e : CliError A) :
    ∃ e', ((finalizeRunTerminal (.error e : Except (CliError A) Unit) (fun primary => return primary)
      (ask .release) fun event => journal (handle event)).run.under answer).2 = .error e' := by
  have hfinalized : ((finalizeOwnedTerminal (.error e : Except (CliError A) Unit)
      (fun primary => return primary) (ask .release)).under answer).2 =
      .error (match answer .release with
        | .ok () => .primary e
        | .error failure => .release failure) := by
    change ((match answer .release with
      | .ok () => _
      | .error e => _ : Program (RunStep A) RunStep.Result _).under answer).2 = _
    cases answer .release <;> rfl
  unfold finalizeRunTerminal
  rw [under_lift_bind,hfinalized]
  cases answer .release with
  | ok => exact under_record_throw _
  | error failure => exact under_record_throw _

theorem leads_acquireAdmission : Leads answer admissionSteps (acquireAdmission : CommandIo A Unit) :=
  (leads_journaled rfl rfl (by simp)).bind (leads_handled rfl rfl (by simp)
    (fun e => under_finalize_error afterAdmissionAcquired e)
    (fun _ => uses_finalizeRunTerminal (fun _ => .done _) afterAdmissionAcquired) rfl)

theorem reaches_step_bind {β γ : Type} {result : Except (CliError A) β}
    {call : Program (RunStep A) RunStep.Result (Except (CliError A) β)} {g : β → CommandIo A γ}
    (hcall : call.under answer = ([⟨op,answer op⟩],result))
    (hresult : result.isOk = (answer op).isOk) (hop : op ≠ .publish)
    (hg : ∀ b, Reaches answer more (g b)) : Reaches answer (op::more) (step call >>= g) := by
  have hstep : (step call).run.under answer = ([⟨op,answer op⟩],result) := hcall
  cases result with
  | ok b =>
    refine reaches_cons hop (fun _ => ⟨g b,hg b,?_⟩) fun hfails => absurd hresult.symm hfails
    rw [under_run_bind_ok answer (congrArg Prod.snd hstep),hstep]
    rfl
  | error e =>
    refine reaches_cons hop (fun hok => ?_) fun _ => ?_
    · exact absurd (hresult.trans hok) (by simp [Except.isOk,Except.toBool])
    · rw [under_run_bind_error answer (congrArg Prod.snd hstep),hstep]
      simpa using not_published hop

theorem reaches_executeLocalRun :
    Reaches answer executionSteps (executeLocalRun : CommandIo A EvidenceStatus) := by
  refine reaches_step_bind rfl rfl (by simp) fun status =>
    reaches_step_bind rfl rfl (by simp) fun _ => reaches_step_bind rfl rfl (by simp) fun _ => ?_
  have hstep : (step (ask .publish) : CommandIo A Unit).run.under answer =
      ([⟨.publish,answer .publish⟩],answer .publish) := rfl
  rcases hpublish : answer .publish with e | ⟨⟩
  · rw [hpublish] at hstep
    have hfails : ¬ Ok answer .publish := by simp [Ok,hpublish,Except.isOk,Except.toBool]
    refine ⟨fun h => absurd (h _ List.mem_cons_self) hfails,fun _ => ?_⟩
    rw [under_run_bind_error answer (congrArg Prod.snd hstep),hstep]
    simp [Published]
  · have hok : Ok answer .publish := by simp [Ok,hpublish,Except.isOk,Except.toBool]
    rw [hpublish] at hstep
    refine ⟨fun _ => ⟨[],?_⟩,fun h => ?_⟩
    · rw [under_run_bind_ok answer (congrArg Prod.snd hstep),hstep]
      simp only [List.map_cons,List.map_nil,hpublish]
      rfl
    · obtain ⟨_,hmem,hfails⟩ := h
      exact absurd (List.mem_singleton.1 hmem ▸ hok) hfails

theorem uses_cleanupSnapshot : (cleanupSnapshot : CommandIo A Unit).run.Uses (· ≠ .publish) := by
  refine uses_run_bind (uses_lift (uses_ask (by simp))) ?_
  rintro (e | ⟨⟩)
  · exact uses_run_bind (uses_ask (by simp)) fun _ => .done _
  · exact .done _

/-- Release, cleanup and seal come after the execution and publish nothing. -/
theorem reaches_runAndFinalize :
    Reaches answer executionSteps (runAndFinalize : CommandIo A Unit) := by
  have hexecute : Reaches answer executionSteps (executeLocalRun : CommandIo A EvidenceStatus) :=
    reaches_executeLocalRun
  obtain ⟨rest,htrace,hquiet⟩ : ∃ rest, ((runAndFinalize : CommandIo A Unit).run.under answer).1 =
      ((executeLocalRun : CommandIo A EvidenceStatus).run.under answer).1++rest ∧
      ∀ event ∈ rest, ¬ Published event := by
    refine ⟨_,congrArg Prod.fst (under_lift_bind answer _ _),quiet_of_uses ?_⟩
    refine uses_run_bind (uses_finalizeRunTerminal (fun _ => uses_ask (by simp)) id) fun status => ?_
    refine uses_run_bind uses_cleanupSnapshot fun _ => ?_
    refine uses_run_bind (uses_ask (by simp)) fun _ => ?_
    exact uses_run_bind (uses_ask (by simp)) fun _ => .done _
  refine ⟨fun h => ?_,fun h event hevent => ?_⟩
  · obtain ⟨after,hafter⟩ := hexecute.through h
    exact ⟨after++rest,by rw [htrace,hafter,List.append_assoc]⟩
  · rw [htrace] at hevent
    rcases List.mem_append.1 hevent with hevent | hevent
    · exact hexecute.stopped h event hevent
    · exact hquiet event hevent

theorem reaches_printRun (platform : ResourcePlatform) :
    Reaches answer (stepsToPublication platform) (printRun platform : CommandIo A Unit) := by
  refine leads_prepare.reaches (leads_acquireAdmission.reaches ?_)
  cases platform with
  | macOs =>
    exact reaches_orFinalize rfl rfl (by simp)
      (reaches_orFinalize rfl rfl (by simp) reaches_runAndFinalize)
  | other => exact reaches_orFinalize rfl rfl (by simp) reaches_runAndFinalize

end Under

def stepsBeforePublication (platform : ResourcePlatform) : List (RunStep A) :=
  preparationSteps++(admissionSteps++(startSteps platform++
    [.executeReceipt,.sealReceipt,.canonicalBytes]))

theorem stepsToPublication_eq (platform : ResourcePlatform) :
    (stepsToPublication platform : List (RunStep A)) = stepsBeforePublication platform++[.publish] := by
  simp [stepsToPublication,stepsBeforePublication,executionSteps]

theorem release_notMem (platform : ResourcePlatform) :
    .release ∉ (stepsBeforePublication platform : List (RunStep A)) := by
  cases platform <;> simp [stepsBeforePublication,preparationSteps,admissionSteps,startSteps]

/-- Where no step up to the publication fails, the receipt is there before any release. -/
theorem published_before_release {platform : ResourcePlatform}
    {answer : (op : RunStep A) → op.Result}
    (hall : ∀ op ∈ stepsToPublication platform, Ok answer op) :
    ⟨.publish,.ok ()⟩ ∈ ((printRun platform).run.under answer).1 ∧
      ¬ Precedes Released Published ((printRun platform).run.under answer).1 := by
  obtain ⟨rest,htrace⟩ := (reaches_printRun platform).through hall
  have hpublish : answer .publish = .ok () := by
    have hok : (answer .publish).isOk = true := hall _ (by simp [stepsToPublication_eq])
    rcases hanswer : answer .publish with e | ⟨⟩
    · rw [hanswer] at hok
      cases hok
    · rfl
  rw [stepsToPublication_eq,List.map_append,List.map_singleton,hpublish,List.append_assoc] at htrace
  refine ⟨by simp [htrace],fun hprecedes => ?_⟩
  obtain ⟨event,hmem,rfl⟩ := hprecedes _ _ rest htrace rfl
  obtain ⟨op,hop,hevent⟩ := List.mem_map.1 hmem
  obtain rfl : op = .release := congrArg Sigma.fst hevent
  exact release_notMem platform hop

/-- Whatever a run's steps answer, its receipt follows the release and the cleanup only where it
is not published at all. -/
theorem receipt_follows_finalization_iff (platform : ResourcePlatform)
    (answer : (op : RunStep A) → op.Result) :
    (Precedes Released Published ((printRun platform).run.under answer).1 ∧
      Precedes Cleaned Published ((printRun platform).run.under answer).1) ↔
      ∃ op ∈ stepsToPublication platform, (answer op).isOk = false := by
  constructor
  · rintro ⟨hreleased,-⟩
    by_contra hnone
    push Not at hnone
    have hall : ∀ op ∈ stepsToPublication platform, Ok answer op :=
      fun op hop => Bool.eq_true_of_not_eq_false (hnone op hop)
    exact (published_before_release hall).2 hreleased
  · rintro ⟨op,hop,hfails⟩
    have hreaches : Reaches answer (stepsToPublication platform) (printRun platform) :=
      reaches_printRun platform
    have hquiet := hreaches.stopped ⟨op,hop,by simp [Ok,hfails]⟩
    constructor
    all_goals
      intro before event after htrace hpublished
      exact absurd hpublished (hquiet event (by simp [htrace]))

def releaseRefused : (op : RunStep String) → op.Result
  | .executeReceipt => .ok .pass
  | .reconcileWatchdog primary => primary
  | .release => .error "lease sync failed"
  | .loadPlan | .rejectRemoteSecrets | .resolveCacheRoot | .initializeCache | .preflightStorage
  | .runtimeFor | .installCancellationHandler | .preflightRuntimeCapabilities
  | .initializeJournal | .newJournalId | .createRun | .resolveCleanHead | .replaceIdentity
  | .reserveResource | .materialize | .prepareMountOverlay | .bindSource | .platformFor | .acquire
  | .transitionState _ _ | .cleanupPendingAfterAdmissionAcquired | .resourcePreStart | .currentDir
  | .sealReceipt | .canonicalBytes | .publish | .cleanupSnapshot | .report => .ok ()

/-- The run ends with the error of its release and leaves a receipt. -/
theorem receipt_published_of_release_refused :
    ⟨.publish,.ok ()⟩ ∈ ((printRun .other).run.under releaseRefused).1 ∧
      ¬ Precedes Released Published ((printRun .other).run.under releaseRefused).1 ∧
      ((printRun .other).run.under releaseRefused).2 = .error (.admission "lease sync failed") := by
  have hall : ∀ op ∈ stepsToPublication .other, Ok releaseRefused op := by
    simp [stepsToPublication,preparationSteps,admissionSteps,startSteps,executionSteps,Ok,
      releaseRefused,Except.isOk,Except.toBool]
  obtain ⟨hpublished,hunreleased⟩ := published_before_release hall
  exact ⟨hpublished,hunreleased,rfl⟩

end RunCommand
end CommitCiPreflight
