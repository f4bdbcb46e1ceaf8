import CommitCiPreflight.Docker
import CommitCiPreflight.RunSpec

/-! What a run of `execute_check` does with its container, and which command the container
runs. -/
namespace CommitCiPreflight

open Outcome Program

abbrev LifecycleTrace := List (Event LifecycleCall LifecycleCall.Result)

/-- The supervisor has a result, and that of a successful command prints an exit code. -/
def GivesExitCode (response : Except ProcessError ProcessResult) : Prop :=
  ∃ result, response = .ok result ∧ (completedSuccess result = true →
    ∃ code, parseWaitExitCode result.stdout.bytes = .ok code)

namespace DockerLifecyclePlan

variable (lifecycle : DockerLifecyclePlan) (trace : LifecycleTrace)

def Created : Prop :=
  ∃ result : ProcessResult,
    ⟨.cli lifecycle.createArgv true,.ok result⟩ ∈ trace ∧ completedSuccess result = true

def CleanedUp : Prop := ⟨.cleanupContainer lifecycle.containerName,()⟩ ∈ trace

def WaitAnswered : Prop :=
  ∀ response, ⟨.cli lifecycle.waitArgv true,response⟩ ∈ trace → GivesExitCode response

end DockerLifecyclePlan

section Lifecycle

variable {crates : Crates} {lifecycle : DockerLifecyclePlan} {trace : LifecycleTrace} {α : Type}
  {argv : List String} {outcome : Except RuntimeError α}
  {response : Except ProcessError ProcessResult}

theorem runs_attempt_executeCli {cancellable : Bool}
    {k : Except RuntimeError ProcessResult → Lifecycle α} :
    Runs (attempt (executeCli argv cancellable) >>= k).run trace outcome ↔
      ∃ (response : Except ProcessError ProcessResult) (rest : LifecycleTrace),
        trace = ⟨.cli argv cancellable,response⟩::rest ∧
          Runs (k (response.mapError .process)).run rest outcome :=
  runs_call

theorem runs_executeCli {cancellable : Bool} {k : ProcessResult → Lifecycle α} :
    Runs (executeCli argv cancellable >>= k).run trace outcome ↔
      (∃ e : ProcessError, trace = [⟨.cli argv cancellable,.error e⟩] ∧
        outcome = .error (.process e)) ∨
      ∃ (result : ProcessResult) (rest : LifecycleTrace),
        trace = ⟨.cli argv cancellable,.ok result⟩::rest ∧ Runs (k result).run rest outcome := by
  change Runs (.call (.cli argv cancellable) _) trace outcome ↔ _
  rw [runs_call]
  constructor
  · rintro ⟨e | result,rest,rfl,hrest⟩
    · obtain ⟨rfl,rfl⟩ := runs_done.1 hrest
      exact Or.inl ⟨e,rfl,rfl⟩
    · exact Or.inr ⟨result,rest,rfl,hrest⟩
  · rintro (⟨e,rfl,rfl⟩ | ⟨result,rest,rfl,hrest⟩)
    · exact ⟨.error e,[],rfl,.done _⟩
    · exact ⟨.ok result,rest,rfl,hrest⟩

/-- Not a command of the run itself. -/
def LifecycleCall.ofCleanup : LifecycleCall → Prop
  | .cli _ cancellable => cancellable = false
  | .cleanupContainer _ => True

section Uses

variable {allowed : LifecycleCall → Prop}

theorem executeCleanupCli_uses {argv : List String} (h : allowed (.cli argv false)) :
    (executeCleanupCli argv).run.Uses allowed :=
  uses_run_bind (uses_attempt (.call h fun _ => .done _)) fun _ => .done _

theorem stopContainer_uses (hstop : allowed (.cli lifecycle.stopArgv false))
    (hkill : allowed (.cli lifecycle.killArgv false)) :
    (stopContainer lifecycle).run.Uses allowed := by
  refine uses_run_bind (uses_attempt (executeCleanupCli_uses hstop)) fun stop => ?_
  split
  · exact .done _
  refine uses_run_bind (executeCleanupCli_uses hkill) fun kill => ?_
  split <;> exact .done _

theorem removeContainer_uses (hremove : allowed (.cli lifecycle.removeArgv false))
    (hinspect : allowed (.cli lifecycle.inspectArgv false)) :
    (removeContainer lifecycle).run.Uses allowed := by
  refine uses_run_bind (executeCleanupCli_uses hremove) fun remove => ?_
  split
  · refine uses_run_bind (executeCleanupCli_uses hinspect) fun final => ?_
    split <;> exact .done _
  · exact .done _

theorem cleanupContainer_uses (hbegin : allowed (.cleanupContainer lifecycle.containerName))
    (hinspect : allowed (.cli lifecycle.inspectArgv false))
    (hstop : allowed (.cli lifecycle.stopArgv false))
    (hkill : allowed (.cli lifecycle.killArgv false))
    (hremove : allowed (.cli lifecycle.removeArgv false)) :
    (cleanupContainer crates lifecycle).run.Uses allowed := by
  refine uses_run_bind (.call hbegin fun _ => .done _) fun _ => ?_
  refine uses_run_bind (executeCleanupCli_uses hinspect) fun inspect => ?_
  split
  · refine uses_run_bind (.done _) fun state => ?_
    split
    · exact uses_run_bind (stopContainer_uses hstop hkill)
        fun _ => removeContainer_uses hremove hinspect
    · exact removeContainer_uses hremove hinspect
  · exact .done _

end Uses

theorem runs_cleanup_then {k : Lifecycle α}
    (h : Runs (cleanupContainer crates lifecycle >>= fun _ => k).run trace outcome)
    (hk : k.run.Uses LifecycleCall.ofCleanup) :
    lifecycle.CleanedUp trace ∧ lifecycle.WaitAnswered trace := by
  have hcleanup : (cleanupContainer crates lifecycle).run.Uses LifecycleCall.ofCleanup :=
    cleanupContainer_uses trivial rfl rfl rfl rfl
  have huses := h.uses (uses_run_bind hcleanup fun _ => hk)
  refine ⟨?_,fun response hmem => absurd (huses _ hmem) (by simp [LifecycleCall.ofCleanup])⟩
  obtain ⟨_,rest,rfl,-⟩ := runs_call.1 h
  exact List.mem_cons_self

theorem cleanedUp_cons :
    lifecycle.CleanedUp (⟨.cli argv true,response⟩::trace) ↔ lifecycle.CleanedUp trace := by
  simp [DockerLifecyclePlan.CleanedUp]

theorem waitAnswered_nil : lifecycle.WaitAnswered [] := by
  simp [DockerLifecyclePlan.WaitAnswered]

theorem waitAnswered_cons :
    lifecycle.WaitAnswered (⟨.cli argv true,response⟩::trace) ↔
      (argv = lifecycle.waitArgv → GivesExitCode response) ∧ lifecycle.WaitAnswered trace := by
  simp only [DockerLifecyclePlan.WaitAnswered,List.mem_cons]
  constructor
  · intro h
    refine ⟨?_,fun r hr => h r (Or.inr hr)⟩
    rintro rfl
    exact h response (Or.inl rfl)
  · rintro ⟨hhead,htail⟩ r (hr | hr)
    · obtain ⟨hcall,hresponse⟩ := Sigma.mk.inj hr
      obtain ⟨rfl,-⟩ := LifecycleCall.cli.inj hcall
      exact eq_of_heq hresponse ▸ hhead rfl
    · exact htail r hr

/-- After `attach` the container is cleaned up exactly when `wait` gives its exit code: the two
uses of `?` between them return without a cleanup. -/
theorem finishCheck_cleans_up {attach : ProcessResult} {outcome : Except RuntimeError ProcessResult}
    (h : Runs (finishCheck crates lifecycle attach).run trace outcome) :
    lifecycle.CleanedUp trace ↔ lifecycle.WaitAnswered trace := by
  rcases runs_executeCli.1 h with ⟨e,rfl,-⟩ | ⟨wait,rest,rfl,hrest⟩
  · rw [cleanedUp_cons,waitAnswered_cons]
    simp [DockerLifecyclePlan.CleanedUp,GivesExitCode]
  rw [cleanedUp_cons,waitAnswered_cons]
  by_cases hsuccess : completedSuccess wait = true
  · rw [if_pos hsuccess] at hrest
    rcases runs_ofExcept.1 hrest with ⟨e,hparse,rfl,-⟩ | ⟨code,hparse,hcleanup⟩
    · simp [DockerLifecyclePlan.CleanedUp,GivesExitCode,hsuccess,hparse]
    · obtain ⟨hcleaned,hanswered⟩ := runs_cleanup_then hcleanup (.done _)
      exact iff_of_true hcleaned ⟨fun _ => ⟨wait,rfl,fun _ => ⟨code,hparse⟩⟩,hanswered⟩
  · rw [if_neg hsuccess] at hrest
    obtain ⟨hcleaned,hanswered⟩ := runs_cleanup_then hrest (.done _)
    exact iff_of_true hcleaned ⟨fun _ => ⟨wait,rfl,fun hs => absurd hs hsuccess⟩,hanswered⟩

theorem runContainer_cleans_up (hstart : lifecycle.startArgv ≠ lifecycle.waitArgv)
    (hattach : lifecycle.attachArgv ≠ lifecycle.waitArgv)
    {outcome : Except RuntimeError ProcessResult}
    (h : Runs (runContainer crates lifecycle).run trace outcome) :
    lifecycle.CleanedUp trace ↔ lifecycle.WaitAnswered trace := by
  obtain ⟨response,rest,rfl,hrest⟩ := runs_attempt_executeCli.1 h
  rw [cleanedUp_cons,waitAnswered_cons]
  simp only [hstart,IsEmpty.forall_iff,true_and]
  rcases response with e | start
  · exact (runs_cleanup_then hrest (.done _)).elim iff_of_true
  simp only [Except.mapError] at hrest
  split at hrest
  · obtain ⟨response,rest,rfl,hfinish⟩ := runs_attempt_executeCli.1 hrest
    rw [cleanedUp_cons,waitAnswered_cons]
    simp only [hattach,IsEmpty.forall_iff,true_and]
    rcases response with e | attach
    · exact (runs_cleanup_then hfinish (.done _)).elim iff_of_true
    simp only [Except.mapError] at hfinish
    split at hfinish
    · exact finishCheck_cleans_up hfinish
    · exact (runs_cleanup_then hfinish (.done _)).elim iff_of_true
  · exact (runs_cleanup_then hrest (.done _)).elim iff_of_true

end Lifecycle

section Build

variable {crates : Crates} {runId : String} {check : NormalizedCheck} {rendered : DryRunCheck}
  {lifecycle : DockerLifecyclePlan}

theorem DockerLifecyclePlan.build_eq_ok
    (h : build crates runId check rendered = .ok lifecycle) :
    lifecycle.startArgv = ["start",lifecycle.containerName] ∧
      lifecycle.attachArgv = ["attach","--sig-proxy=false",lifecycle.containerName] ∧
      lifecycle.waitArgv = ["wait",lifecycle.containerName] ∧
      lifecycle.createArgv = ["create","--name",ownedContainerName crates runId check.id,"--label",
        ccpOwnerLabel,"--label","com.commit-ci-preflight.run-id="++runId,"--label",
        "com.commit-ci-preflight.check-id="++check.id]++
          (rendered.argv.drop 1).filter (· ≠ "--rm") := by
  unfold build at h
  split at h
  · cases h
  split at h
  · cases h
  cases h
  exact ⟨rfl,rfl,rfl,rfl⟩

/-- For every way the `docker` command answers: a created container is cleaned up before
`execute_check` returns exactly when `docker wait` gives an exit code. -/
theorem executeCheck_cleans_up_iff (crates : Crates) (context : RuntimeExecutionContext)
    (check : NormalizedCheck) (rendered : DryRunCheck) (lifecycle : DockerLifecyclePlan)
    (hbuild : DockerLifecyclePlan.build crates context.runId check rendered = .ok lifecycle)
    (trace : LifecycleTrace) (outcome : Except RuntimeError ProcessResult)
    (hrun : Runs (executeCheck crates context check rendered).run trace outcome) :
    (lifecycle.Created trace → lifecycle.CleanedUp trace) ↔ lifecycle.WaitAnswered trace := by
  obtain ⟨hstart,hattach,hwait,hcreate⟩ := DockerLifecyclePlan.build_eq_ok hbuild
  have hcreate_ne : lifecycle.createArgv ≠ lifecycle.waitArgv := by simp [hcreate,hwait]
  rcases runs_ofExcept.1 hrun with ⟨e,-,rfl,-⟩ | ⟨_,-,hplan⟩
  · simp [DockerLifecyclePlan.Created,DockerLifecyclePlan.WaitAnswered]
  rcases runs_ofExcept.1 hplan with ⟨e,herror,-⟩ | ⟨plan,hok,hcommands⟩
  · cases herror.symm.trans hbuild
  cases hok.symm.trans hbuild
  rcases runs_executeCli.1 hcommands with ⟨e,rfl,-⟩ | ⟨create,rest,rfl,hcreated⟩
  · simp [DockerLifecyclePlan.Created,DockerLifecyclePlan.WaitAnswered,hcreate_ne.symm]
  rw [cleanedUp_cons,waitAnswered_cons]
  simp only [hcreate_ne,IsEmpty.forall_iff,true_and]
  by_cases hsuccess : completedSuccess create = true
  · have hyes : lifecycle.Created (⟨.cli lifecycle.createArgv true,.ok create⟩::rest) :=
      ⟨create,List.mem_cons_self,hsuccess⟩
    simp only [hyes,forall_const]
    rw [if_pos hsuccess] at hcreated
    split at hcreated
    · exact runContainer_cleans_up (by simp [hstart,hwait]) (by simp [hattach,hwait]) hcreated
    · exact (runs_cleanup_then hcreated (.done _)).elim iff_of_true
  · rw [if_neg hsuccess] at hcreated
    obtain ⟨rfl,-⟩ := runs_pure.1 hcreated
    simp [DockerLifecyclePlan.Created,waitAnswered_nil,hsuccess]

theorem runs_executeCheck_of_finish {context : RuntimeExecutionContext}
    (hmounts : context.revalidateMountSources rendered.mounts = .ok ())
    (hbuild : DockerLifecyclePlan.build crates context.runId check rendered = .ok lifecycle)
    {create start attach : ProcessResult} (hcreate : completedSuccess create = true)
    (hid : validContainerId create.stdout.bytes = true) (hstart : completedSuccess start = true)
    (hattach : attach.termination = .completed) {rest : LifecycleTrace}
    {outcome : Except RuntimeError ProcessResult}
    (h : Runs (finishCheck crates lifecycle attach).run rest outcome) :
    Runs (executeCheck crates context check rendered).run
      (⟨.cli lifecycle.createArgv true,.ok create⟩::⟨.cli lifecycle.startArgv true,.ok start⟩::
        ⟨.cli lifecycle.attachArgv true,.ok attach⟩::rest) outcome := by
  refine runs_ofExcept.2 (Or.inr ⟨(),by rw [hmounts]; rfl,?_⟩)
  refine runs_ofExcept.2 (Or.inr ⟨lifecycle,hbuild,?_⟩)
  refine runs_executeCli.2 (Or.inr ⟨create,_,rfl,?_⟩)
  rw [if_pos hcreate,if_pos hid]
  refine runs_attempt_executeCli.2 ⟨.ok start,_,rfl,?_⟩
  simp only [Except.mapError,if_pos hstart]
  refine runs_attempt_executeCli.2 ⟨.ok attach,_,rfl,?_⟩
  simp only [Except.mapError,if_pos hattach]
  exact h

end Build

def CheckConfig.sampleRemoving : CheckConfig :=
  ⟨"nested",true,["docker","run","--rm","alpine"],".",300,[],[],[]⟩

def WorkspacePlanV1.sample : WorkspacePlanV1 where
  schemaVersion := "1.0"
  repository := HostPath.components "/srv/checkout"
  sourceSnapshotDigest := none
  runRoot := HostPath.components "/srv/cache/run"
  mounts := [⟨HostPath.components "/srv/checkout","/workspace",.readOnly,.repository,none,none⟩]

def RuntimeExecutionContext.sample : RuntimeExecutionContext := ⟨"run-1",fun _ => .ok ()⟩

def ProcessResult.samplePrinting (output : String) : ProcessResult where
  termination := .completed
  cleanup := .verified
  exit := some ⟨true,some 0⟩
  stdout := ⟨Text.bytes output,(Text.bytes output).length.toUInt64,"",false⟩
  stderr := ⟨[],0,"",false⟩
  elapsedMillis := 40

def SampleLifecycle (config : ConfigV1) (check : NormalizedCheck) (rendered : DryRunCheck)
    (lifecycle : DockerLifecyclePlan) : Prop :=
  ∃ envelope, config.intoPlan .reference = .ok envelope ∧
    envelope.plan.checks.head? = some check ∧
    dockerDryRunCheck envelope.plan.runtime check envelope.plan.environment.names .sample =
      .ok rendered ∧
    DockerLifecyclePlan.build .reference "run-1" check rendered = .ok lifecycle

theorem ok_of_toOption {ε α : Type} {x : Except ε α} {a : α} (h : x.toOption = some a) :
    x = .ok a := by
  cases x with
  | error e => cases h
  | ok b => exact congrArg Except.ok (Option.some.inj h)

def sampleArgv (config : ConfigV1) : Option (List String) :=
  (config.intoPlan .reference).toOption.bind fun envelope =>
    envelope.plan.checks.head?.bind fun check =>
      (dockerDryRunCheck envelope.plan.runtime check envelope.plan.environment.names
        .sample).toOption.bind fun rendered =>
          (DockerLifecyclePlan.build .reference "run-1" check rendered).toOption.map fun _ =>
            check.argv

theorem exists_sampleLifecycle {config : ConfigV1} {argv : List String}
    (h : sampleArgv config = some argv) :
    ∃ check rendered lifecycle, SampleLifecycle config check rendered lifecycle ∧
      check.argv = argv := by
  obtain ⟨envelope,hplan,h⟩ := Option.bind_eq_some_iff.1 h
  obtain ⟨check,hcheck,h⟩ := Option.bind_eq_some_iff.1 h
  obtain ⟨rendered,hrendered,h⟩ := Option.bind_eq_some_iff.1 h
  obtain ⟨lifecycle,hbuild,hargv⟩ := Option.map_eq_some_iff.1 h
  rw [toOption_eq_some] at hplan hrendered
  exact ⟨check,rendered,lifecycle,
    ⟨envelope,hplan,hcheck,hrendered,ok_of_toOption hbuild⟩,hargv⟩

theorem sampleArgv_acyclic : sampleArgv .sampleAcyclic = some ["cargo","test"] := by
  decide +kernel

def sampleStart (lifecycle : DockerLifecyclePlan) : LifecycleTrace :=
  [⟨.cli lifecycle.createArgv true,.ok (.samplePrinting "4f66ad9c1f2e5ad0\n")⟩,
    ⟨.cli lifecycle.startArgv true,.ok (.samplePrinting "")⟩,
    ⟨.cli lifecycle.attachArgv true,.ok (.samplePrinting "test result: ok\n")⟩]

/-- The container exits with code 0, and its cleanup is called but stops at the inspection. -/
def sampleCleanup (lifecycle : DockerLifecyclePlan) : LifecycleTrace :=
  [⟨.cli lifecycle.waitArgv true,.ok (.samplePrinting "0\n")⟩,
    ⟨.cleanupContainer lifecycle.containerName,()⟩,
    ⟨.cli lifecycle.inspectArgv false,.error .spawn⟩]

theorem executeCheck_cleans_up_sample :
    ∃ check rendered lifecycle trace outcome,
      SampleLifecycle .sampleAcyclic check rendered lifecycle ∧
      Runs (executeCheck .reference .sample check rendered).run trace outcome ∧
      lifecycle.WaitAnswered trace ∧ lifecycle.Created trace ∧ lifecycle.CleanedUp trace := by
  obtain ⟨check,rendered,lifecycle,hsample,-⟩ := exists_sampleLifecycle sampleArgv_acyclic
  obtain ⟨envelope,hplan,hcheck,hrendered,hbuild⟩ := hsample
  obtain ⟨hstart,hattach,hwait,hcreate⟩ := DockerLifecyclePlan.build_eq_ok hbuild
  have hcode : parseWaitExitCode (ProcessResult.samplePrinting "0\n").stdout.bytes = .ok 0 :=
    ok_of_toOption (by decide +kernel)
  have hrun : Runs (executeCheck .reference .sample check rendered).run
      (sampleStart lifecycle++sampleCleanup lifecycle)
      (.error (.lifecycleFailure "daemon cleanup command failed")) := by
    refine runs_executeCheck_of_finish rfl hbuild (by decide +kernel) (by decide +kernel)
      (by decide +kernel) rfl ?_
    refine runs_executeCli.2 (Or.inr ⟨.samplePrinting "0\n",_,rfl,?_⟩)
    rw [if_pos (by decide +kernel)]
    exact runs_ofExcept.2 (Or.inr ⟨0,hcode,.call (.call (.done _))⟩)
  have hanswered : lifecycle.WaitAnswered (sampleStart lifecycle++sampleCleanup lifecycle) := by
    simp only [sampleStart,sampleCleanup,List.cons_append,List.nil_append,waitAnswered_cons]
    refine ⟨by simp [hcreate,hwait],by simp [hstart,hwait],by simp [hattach,hwait],fun _ => ?_,
      by simp [DockerLifecyclePlan.WaitAnswered]⟩
    exact ⟨_,rfl,fun _ => ⟨0,hcode⟩⟩
  have hcreated : lifecycle.Created (sampleStart lifecycle++sampleCleanup lifecycle) :=
    ⟨.samplePrinting "4f66ad9c1f2e5ad0\n",List.mem_cons_self,by decide +kernel⟩
  exact ⟨check,rendered,lifecycle,_,_,⟨envelope,hplan,hcheck,hrendered,hbuild⟩,hrun,hanswered,
    hcreated,(executeCheck_cleans_up_iff .reference .sample check rendered lifecycle hbuild _ _
      hrun).2 hanswered hcreated⟩

/-- The supervisor cannot spawn `docker wait`: the container is left behind. -/
theorem executeCheck_leaves_container :
    ∃ check rendered lifecycle trace outcome,
      SampleLifecycle .sampleAcyclic check rendered lifecycle ∧
      Runs (executeCheck .reference .sample check rendered).run trace outcome ∧
      lifecycle.Created trace ∧ ¬ lifecycle.CleanedUp trace := by
  obtain ⟨check,rendered,lifecycle,hsample,-⟩ := exists_sampleLifecycle sampleArgv_acyclic
  obtain ⟨envelope,hplan,hcheck,hrendered,hbuild⟩ := hsample
  refine ⟨check,rendered,lifecycle,
    sampleStart lifecycle++[⟨.cli lifecycle.waitArgv true,.error .spawn⟩],
    .error (.process .spawn),⟨envelope,hplan,hcheck,hrendered,hbuild⟩,?_,?_,?_⟩
  · refine runs_executeCheck_of_finish rfl hbuild (by decide +kernel) (by decide +kernel)
      (by decide +kernel) rfl ?_
    exact runs_executeCli.2 (Or.inl ⟨.spawn,rfl,rfl⟩)
  · exact ⟨.samplePrinting "4f66ad9c1f2e5ad0\n",List.mem_cons_self,by decide +kernel⟩
  · simp [DockerLifecyclePlan.CleanedUp,sampleStart]

section Command

variable {crates : Crates} {workspace : WorkspacePlanV1} {envelope : ExecutionPlanEnvelopeV1}

theorem dockerDryRunCheck_argv {runtime : NormalizedRuntime} {check : NormalizedCheck}
    {names : List String} {rendered : DryRunCheck}
    (h : dockerDryRunCheck runtime check names workspace = .ok rendered) :
    ∃ first options, rendered.argv = first::options++runtime.image::check.argv := by
  obtain ⟨argv,-,h⟩ := bind_eq_ok.1 h
  dsimp only at h
  split at h
  · cases h
  cases h
  cases argv with
  | nil => exact ⟨"--workdir",[containerWorkingDirectory check.workingDirectory],by simp⟩
  | cons first options =>
    exact ⟨first,options++["--workdir",containerWorkingDirectory check.workingDirectory],by simp⟩

/-- A configuration names its image by digest. -/
theorem image_ne_rm {config : ConfigV1} (h : config.intoPlan crates = .ok envelope) :
    envelope.plan.runtime.image ≠ "--rm" := by
  have haccepted := ConfigV1.intoPlan_eq_ok.1 h
  have htop := haccepted.topLevel
  simp only [ConfigV1.validateTopLevel,bind_eq_ok,exists_unit] at htop
  rw [normalizeRuntime_image haccepted.runtime]
  intro hrm
  rw [hrm] at htop
  exact absurd htop.2.2.1 (by decide +kernel)

theorem rm_ne_append {s t : String} (hs : s ≠ "") (hhead : s.toList.head? ≠ some '-') :
    "--rm" ≠ s++t := by
  intro he
  have hchars := congrArg (fun x => x.toList.head?) he
  rw [String.toList_append,List.head?_append] at hchars
  cases hl : s.toList with
  | nil => exact hs (String.toList_eq_nil_iff.1 hl)
  | cons c cs =>
    rw [hl] at hhead hchars
    exact hhead hchars.symm

theorem not_mem_owned_options (runId checkId : String) :
    "--rm" ∉ ["create","--name",ownedContainerName crates runId checkId,"--label",ccpOwnerLabel,
      "--label","com.commit-ci-preflight.run-id="++runId,"--label",
      "com.commit-ci-preflight.check-id="++checkId] := by
  simp only [List.mem_cons,List.not_mem_nil,or_false,not_or]
  exact ⟨by decide,by decide,rm_ne_append (by decide) (by decide),by decide,by decide,by decide,
    rm_ne_append (by decide) (by decide),by decide,rm_ne_append (by decide) (by decide)⟩

/-- `build` drops `--rm` wherever it stands in the rendered command. -/
theorem createArgv_eq {config : ConfigV1} (hplan : config.intoPlan crates = .ok envelope)
    {check : NormalizedCheck} {names : List String} {runId : String} {rendered : DryRunCheck}
    (hrendered : dockerDryRunCheck envelope.plan.runtime check names workspace = .ok rendered)
    {lifecycle : DockerLifecyclePlan}
    (hbuild : DockerLifecyclePlan.build crates runId check rendered = .ok lifecycle) :
    ∃ options, lifecycle.createArgv =
        options++envelope.plan.runtime.image::check.argv.filter (· ≠ "--rm") ∧
      "--rm" ∉ lifecycle.createArgv := by
  obtain ⟨-,-,-,hcreate⟩ := DockerLifecyclePlan.build_eq_ok hbuild
  obtain ⟨first,options,hargv⟩ := dockerDryRunCheck_argv hrendered
  have hfilter : (rendered.argv.drop 1).filter (· ≠ "--rm") = options.filter (· ≠ "--rm")++
      envelope.plan.runtime.image::check.argv.filter (· ≠ "--rm") := by
    simp [hargv,image_ne_rm hplan]
  refine ⟨_,by rw [hcreate,hfilter,← List.append_assoc],?_⟩
  rw [hcreate,List.mem_append,not_or]
  exact ⟨not_mem_owned_options runId check.id,by simp⟩

/-- The container runs the command the evidence records exactly when `--rm` is no word of
it. -/
theorem createArgv_attested_iff (crates : Crates) (config : ConfigV1)
    (envelope : ExecutionPlanEnvelopeV1) (hplan : config.intoPlan crates = .ok envelope)
    (check : NormalizedCheck) (_hcheck : check ∈ envelope.plan.checks)
    (workspace : WorkspacePlanV1) (runId : String) (rendered : DryRunCheck)
    (hrendered : dockerDryRunCheck envelope.plan.runtime check envelope.plan.environment.names
      workspace = .ok rendered) (lifecycle : DockerLifecyclePlan)
    (hbuild : DockerLifecyclePlan.build crates runId check rendered = .ok lifecycle) :
    (envelope.plan.runtime.image::check.argv <:+ lifecycle.createArgv ↔ "--rm" ∉ check.argv) ∧
      ∀ result evidence, evidenceFromResult crates check result = .ok evidence →
        evidence.argv = check.argv := by
  obtain ⟨options,hcreate,hrm⟩ := createArgv_eq hplan hrendered hbuild
  refine ⟨⟨fun hsuffix hword => ?_,fun hword => ?_⟩,fun result evidence hevidence => ?_⟩
  · exact hrm (hsuffix.subset (List.mem_cons_of_mem _ hword))
  · have hall : check.argv.filter (· ≠ "--rm") = check.argv := by
      refine List.filter_eq_self.2 fun word hmem => ?_
      simpa using ne_of_mem_of_not_mem hmem hword
    rw [hcreate,hall]
    exact List.suffix_append _ _
  · exact (evidenceFromResult_attests hevidence).argv

end Command

theorem createArgv_attested_sample :
    ∃ envelope check rendered lifecycle, ConfigV1.sampleAcyclic.intoPlan .reference = .ok envelope ∧
      check ∈ envelope.plan.checks ∧ check.argv = ["cargo","test"] ∧
      dockerDryRunCheck envelope.plan.runtime check envelope.plan.environment.names .sample =
        .ok rendered ∧
      DockerLifecyclePlan.build .reference "run-1" check rendered = .ok lifecycle ∧
      envelope.plan.runtime.image::check.argv <:+ lifecycle.createArgv := by
  obtain ⟨check,rendered,lifecycle,hsample,hargv⟩ := exists_sampleLifecycle sampleArgv_acyclic
  obtain ⟨envelope,hplan,hcheck,hrendered,hbuild⟩ := hsample
  have hmem : check ∈ envelope.plan.checks := List.mem_of_mem_head? hcheck
  refine ⟨envelope,check,rendered,lifecycle,hplan,hmem,hargv,hrendered,hbuild,?_⟩
  exact (createArgv_attested_iff .reference .sampleAcyclic envelope hplan check hmem .sample "run-1"
    rendered hrendered lifecycle hbuild).1.2 (by rw [hargv]; decide)

/-- A check that runs a container of its own loses its `--rm`. -/
theorem createArgv_drops_rm :
    ∃ envelope check rendered lifecycle,
      (ConfigV1.sample [.sampleRemoving]).intoPlan .reference = .ok envelope ∧
      check ∈ envelope.plan.checks ∧ check.argv = ["docker","run","--rm","alpine"] ∧
      dockerDryRunCheck envelope.plan.runtime check envelope.plan.environment.names .sample =
        .ok rendered ∧
      DockerLifecyclePlan.build .reference "run-1" check rendered = .ok lifecycle ∧
      [envelope.plan.runtime.image,"docker","run","alpine"] <:+ lifecycle.createArgv ∧
      ¬ envelope.plan.runtime.image::check.argv <:+ lifecycle.createArgv := by
  have hsampled : sampleArgv (.sample [.sampleRemoving]) = some ["docker","run","--rm","alpine"] := by
    decide +kernel
  obtain ⟨check,rendered,lifecycle,hsample,hargv⟩ := exists_sampleLifecycle hsampled
  obtain ⟨envelope,hplan,hcheck,hrendered,hbuild⟩ := hsample
  obtain ⟨options,hcreate,hrm⟩ := createArgv_eq hplan hrendered hbuild
  refine ⟨envelope,check,rendered,lifecycle,hplan,List.mem_of_mem_head? hcheck,hargv,hrendered,
    hbuild,?_,fun hsuffix => hrm (hsuffix.subset ?_)⟩
  · rw [hcreate,hargv]
    exact List.suffix_append _ _
  · simp [hargv]

end CommitCiPreflight
