import CommitCiPreflight.DockerSpec
import CommitCiPreflight.Slices

/-! What a cleanup does to the containers of a daemon, and what the daemon is left with when
`execute_check` has returned. -/
namespace CommitCiPreflight

open Outcome Program

theorem Text.trimStartMatches_eq {s t : String} {c : Char} (h : trimStartMatches s c = t) :
    ∃ skipped : String, s = skipped++t ∧ ∀ d ∈ skipped.toList, d = c := by
  refine ⟨String.ofList (s.toList.takeWhile (· = c)),?_,fun d hd => ?_⟩
  · rw [← h,trimStartMatches,← String.ofList_append,List.takeWhile_append_dropWhile,
      String.ofList_toList]
  · rw [String.toList_ofList] at hd
    simpa using List.mem_takeWhile_imp hd

def ownershipLabels (runId checkId : String) : List (String × String) :=
  [("com.commit-ci-preflight.owner","commit-ci-preflight"),
    ("com.commit-ci-preflight.run-id",runId),("com.commit-ci-preflight.check-id",checkId)]

/-- A JSON document that names the container and carries the ownership labels. The daemon
writes a slash before the name. -/
def DescribesOwned (crates : Crates) (name runId checkId : String) (output : Bytes) : Prop :=
  ∃ (value : Json) (slashes : String) (labels : List (String × Json)),
    valueFromSlice crates output = some value ∧
    value.member "Name" = some (.str (slashes++name)) ∧ (∀ c ∈ slashes.toList, c = '/') ∧
    (value.member "Config").bind (·.member "Labels") = some (.obj labels) ∧
    ∀ label ∈ ownershipLabels runId checkId, lookupEntry label.1 labels = some (.str label.2)

/-- An inspection that completed successfully and describes the owned container. -/
def FoundOwned (crates : Crates) (name runId checkId : String)
    (event : Event LifecycleCall LifecycleCall.Result) : Prop :=
  ∃ result : ProcessResult,
    event = ⟨.cli ["inspect","--format","\x7b\x7bjson .\x7d\x7d",name] false,.ok result⟩ ∧
    completedSuccess result = true ∧
    DescribesOwned crates name runId checkId result.stdout.bytes

def ChangesContainer (event : Event LifecycleCall LifecycleCall.Result) : Prop :=
  ∃ verb arguments cancellable response, verb ∈ ["stop","kill","rm"] ∧
    event = ⟨.cli (verb::arguments) cancellable,response⟩

/-- The command has the container as its only operand. -/
def Targets (name : String) (argv : List String) : Prop :=
  ∃ options ∈ [["inspect","--format","\x7b\x7bjson .\x7d\x7d"],["stop","--time","5"],["kill"],
    ["rm","--force"]], argv = options++[name]

/-- The removal was successful, and a later inspection completed without finding the
container. -/
def ProvenRemoved (name : String) (trace : LifecycleTrace) : Prop :=
  ∃ (before between after : LifecycleTrace) (remove final : ProcessResult), trace = before++
      ⟨.cli ["rm","--force",name] false,.ok remove⟩::between++
      ⟨.cli ["inspect","--format","\x7b\x7bjson .\x7d\x7d",name] false,.ok final⟩::after ∧
    completedSuccess remove = true ∧ final.termination = .completed ∧
    final.cleanup = .verified ∧ ∃ exit, final.exit = some exit ∧ exit.success = false

section Cleanup

variable {crates : Crates} {runId : String} {check : NormalizedCheck} {rendered : DryRunCheck}
  {lifecycle : DockerLifecyclePlan} {trace : LifecycleTrace} {α : Type}

theorem DockerLifecyclePlan.build_cleanup
    (h : build crates runId check rendered = .ok lifecycle) :
    lifecycle.inspectArgv =
        ["inspect","--format","\x7b\x7bjson .\x7d\x7d",lifecycle.containerName] ∧
      lifecycle.stopArgv = ["stop","--time","5",lifecycle.containerName] ∧
      lifecycle.killArgv = ["kill",lifecycle.containerName] ∧
      lifecycle.removeArgv = ["rm","--force",lifecycle.containerName] ∧
      lifecycle.containerName = ownedContainerName crates runId check.id ∧
      [lifecycle.ownerLabel,lifecycle.runLabel,lifecycle.checkLabel] =
        (ownershipLabels runId check.id).map fun label => label.1++"="++label.2 := by
  unfold build at h
  split at h
  · cases h
  split at h
  · cases h
  cases h
  refine ⟨rfl,rfl,rfl,rfl,rfl,?_⟩
  simp only [ownershipLabels,List.map_cons,List.map_nil]
  rfl

theorem DockerLifecyclePlan.build_createArgv
    (h : build crates runId check rendered = .ok lifecycle) :
    ∃ options, lifecycle.createArgv = "create"::"--name"::lifecycle.containerName::"--label"::
      lifecycle.ownerLabel::"--label"::lifecycle.runLabel::"--label"::lifecycle.checkLabel::
        options := by
  unfold build at h
  split at h
  · cases h
  split at h
  · cases h
  cases h
  exact ⟨_,rfl⟩

theorem labelMatches_iff {members : List (String × Json)} {key value : String}
    (h : '=' ∉ key.toList) :
    labelMatches (.obj members) (key++"="++value) = true ↔
      lookupEntry key members = some (.str value) := by
  have hsplit : Text.splitOnce (key++"="++value) '=' = some (key,value) :=
    Text.splitOnce_eq (by simp) h
  simp only [labelMatches,hsplit,Json.member,decide_eq_true_eq,Option.bind_eq_some_iff]
  constructor
  · rintro ⟨json,hlookup,hstr⟩
    cases json <;> simp_all [Json.asStr]
  · intro hlookup
    exact ⟨_,hlookup,rfl⟩

theorem asObject_eq_some {json labels : Json} (h : json.asObject = some labels) :
    ∃ members, json = .obj members ∧ labels = .obj members := by
  cases json with
  | obj members => exact ⟨members,rfl,(Option.some.inj h).symm⟩
  | _ => cases h

theorem asStr_eq_some {json : Json} {s : String} (h : json.asStr = some s) : json = .str s := by
  cases json with
  | str t => exact congrArg Json.str (Option.some.inj h)
  | _ => cases h

/-- What is read as a state is the state of the owned container. -/
theorem parseContainerState_describes {bytes : Bytes} {state : String}
    (hbuild : DockerLifecyclePlan.build crates runId check rendered = .ok lifecycle)
    (h : parseContainerState crates bytes lifecycle = .ok state) :
    DescribesOwned crates lifecycle.containerName runId check.id bytes := by
  obtain ⟨-,-,-,-,-,hlabels⟩ := DockerLifecyclePlan.build_cleanup hbuild
  simp only [parseContainerState] at h
  split at h
  case h_2 => cases h
  rename_i value hvalue
  split at h
  · cases h
  rename_i hname
  obtain ⟨name,hmember,htrim⟩ := Option.map_eq_some_iff.1 (not_not.1 hname)
  obtain ⟨json,hmember,hstr⟩ := Option.bind_eq_some_iff.1 hmember
  obtain ⟨slashes,rfl,hslashes⟩ := Text.trimStartMatches_eq htrim
  obtain rfl := asStr_eq_some hstr
  split at h
  case h_2 => cases h
  rename_i labels hobject
  obtain ⟨json,hconfig,hobject⟩ := Option.bind_eq_some_iff.1 hobject
  obtain ⟨members,rfl,rfl⟩ := asObject_eq_some hobject
  split at h
  · cases h
  rename_i hmatches
  refine ⟨value,slashes,members,hvalue,hmember,hslashes,hconfig,?_⟩
  simp only [ownershipLabels,List.map_cons,List.map_nil,List.cons.injEq,and_true] at hlabels
  obtain ⟨howner,hrun,hcheck⟩ := hlabels
  simp only [Bool.or_eq_true,Bool.not_eq_true',not_or,Bool.not_eq_false,howner,hrun,hcheck]
    at hmatches
  rw [labelMatches_iff (by decide),labelMatches_iff (by decide),labelMatches_iff (by decide)]
    at hmatches
  simpa [ownershipLabels] using ⟨hmatches.1.1,hmatches.1.2,hmatches.2⟩

theorem runs_executeCleanupCli {argv : List String} {k : ProcessResult → Lifecycle α}
    {outcome : Except RuntimeError α} :
    Runs (executeCleanupCli argv >>= k).run trace outcome ↔
      (∃ e : ProcessError, trace = [⟨.cli argv false,.error e⟩] ∧
        outcome = .error (.lifecycleFailure "daemon cleanup command failed")) ∨
      ∃ (result : ProcessResult) (rest : LifecycleTrace),
        trace = ⟨.cli argv false,.ok result⟩::rest ∧ Runs (k result).run rest outcome := by
  change Runs (.call (.cli argv false) _) trace outcome ↔ _
  rw [runs_call]
  constructor
  · rintro ⟨e | result,rest,rfl,hrest⟩
    · obtain ⟨rfl,rfl⟩ := runs_done.1 hrest
      exact Or.inl ⟨e,rfl,rfl⟩
    · exact Or.inr ⟨result,rest,rfl,hrest⟩
  · rintro (⟨e,rfl,rfl⟩ | ⟨result,rest,rfl,hrest⟩)
    · exact ⟨.error e,[],rfl,.done _⟩
    · exact ⟨.ok result,rest,rfl,hrest⟩

theorem runs_removeContainer_ok (h : Runs (removeContainer lifecycle).run trace (.ok ())) :
    ∃ remove final : ProcessResult,
      trace = [⟨.cli lifecycle.removeArgv false,.ok remove⟩,
        ⟨.cli lifecycle.inspectArgv false,.ok final⟩] ∧
      completedSuccess remove = true ∧ final.termination = .completed ∧
      final.cleanup = .verified ∧ ∃ exit, final.exit = some exit ∧ exit.success = false := by
  rcases runs_executeCleanupCli.1 h with ⟨e,-,herror⟩ | ⟨remove,rest,rfl,hrest⟩
  · cases herror
  split at hrest
  case isFalse =>
    obtain ⟨-,herror⟩ := runs_throw.1 hrest
    cases herror
  rename_i hremove
  rcases runs_executeCleanupCli.1 hrest with ⟨e,-,herror⟩ | ⟨final,rest,rfl,hfinal⟩
  · cases herror
  split at hfinal
  · obtain ⟨-,herror⟩ := runs_throw.1 hfinal
    cases herror
  rename_i hproven
  obtain ⟨rfl,-⟩ := runs_pure.1 hfinal
  simp only [ne_eq,not_or,not_not] at hproven
  refine ⟨remove,final,rfl,hremove,hproven.1,hproven.2.1,?_⟩
  cases hexit : final.exit with
  | none => simp [hexit] at hproven
  | some exit => exact ⟨exit,rfl,by simpa [hexit] using hproven.2.2⟩

theorem runs_cleanupContainer_ok (h : Runs (cleanupContainer crates lifecycle).run trace (.ok ())) :
    ∃ first last, trace = first++last ∧ Runs (removeContainer lifecycle).run last (.ok ()) := by
  obtain ⟨_,rest,rfl,hrest⟩ := runs_call.1 h
  rcases runs_executeCleanupCli.1 hrest with ⟨e,-,herror⟩ | ⟨inspect,rest,rfl,hinspect⟩
  · cases herror
  split at hinspect
  case isFalse =>
    obtain ⟨-,herror⟩ := runs_throw.1 hinspect
    cases herror
  rcases runs_ofExcept.1 hinspect with ⟨e,-,-,herror⟩ | ⟨state,-,hstate⟩
  · cases herror
  split at hstate
  · rcases runs_run_bind.1 hstate with ⟨e,herror,-⟩ | ⟨_,stopped,last,rfl,-,hlast⟩
    · cases herror
    · exact ⟨_::_::stopped,last,rfl,hlast⟩
  · exact ⟨[_,_],rest,rfl,hstate⟩

theorem not_changesContainer_inspect {arguments : List String} {cancellable : Bool}
    {response : Except ProcessError ProcessResult} :
    ¬ ChangesContainer ⟨.cli ("inspect"::arguments) cancellable,response⟩ := by
  rintro ⟨verb,_,_,_,hverb,he⟩
  obtain ⟨hcall,-⟩ := Sigma.mk.inj he
  obtain ⟨hargv,-⟩ := LifecycleCall.cli.inj hcall
  obtain ⟨rfl,-⟩ := List.cons.inj hargv
  simp at hverb

/-- The first inspection decides whether anything else happens. -/
theorem cleanupContainer_precedes
    (hbuild : DockerLifecyclePlan.build crates runId check rendered = .ok lifecycle)
    {outcome : Except RuntimeError Unit}
    (h : Runs (cleanupContainer crates lifecycle).run trace outcome) :
    Precedes (FoundOwned crates lifecycle.containerName runId check.id) ChangesContainer trace := by
  obtain ⟨hinspect,-⟩ := DockerLifecyclePlan.build_cleanup hbuild
  obtain ⟨_,rest,rfl,hrest⟩ := runs_call.1 h
  refine precedes_cons.2 ⟨?_,Or.inr ?_⟩
  · rintro ⟨_,_,_,_,-,he⟩
    cases (Sigma.mk.inj he).1
  rcases runs_executeCleanupCli.1 hrest with ⟨e,rfl,-⟩ | ⟨inspect,rest,rfl,hfirst⟩
  · rw [hinspect]
    exact precedes_cons.2 ⟨not_changesContainer_inspect,Or.inr precedes_nil⟩
  rw [hinspect]
  refine precedes_cons.2 ⟨not_changesContainer_inspect,?_⟩
  split at hfirst
  · rename_i hsuccess
    rcases runs_ofExcept.1 hfirst with ⟨e,-,rfl,-⟩ | ⟨state,hstate,-⟩
    · exact Or.inr precedes_nil
    · exact Or.inl ⟨inspect,rfl,hsuccess,parseContainerState_describes hbuild hstate⟩
  · obtain ⟨rfl,-⟩ := runs_throw.1 hfirst
    exact Or.inr precedes_nil

/-- For every way the `docker` command answers: a cleanup changes a container only after an
inspection found it to be the owned one, every command is about that container, and the
cleanup ends well only when its removal is proven. -/
theorem cleanupContainer_touches_only_owned (crates : Crates) (runId : String)
    (check : NormalizedCheck) (rendered : DryRunCheck) (lifecycle : DockerLifecyclePlan)
    (hbuild : DockerLifecyclePlan.build crates runId check rendered = .ok lifecycle)
    (trace : LifecycleTrace) (outcome : Except RuntimeError Unit)
    (hrun : Runs (cleanupContainer crates lifecycle).run trace outcome) :
    Precedes (FoundOwned crates lifecycle.containerName runId check.id) ChangesContainer trace ∧
    (∀ argv cancellable response, ⟨.cli argv cancellable,response⟩ ∈ trace →
      Targets lifecycle.containerName argv) ∧
    (outcome = .ok () → ProvenRemoved lifecycle.containerName trace) := by
  obtain ⟨hinspect,hstop,hkill,hremove,-⟩ := DockerLifecyclePlan.build_cleanup hbuild
  refine ⟨cleanupContainer_precedes hbuild hrun,fun argv cancellable response hmem => ?_,?_⟩
  · have huses : (cleanupContainer crates lifecycle).run.Uses fun call =>
        ∀ argv cancellable, call = .cli argv cancellable →
          Targets lifecycle.containerName argv := by
      refine cleanupContainer_uses ?_ ?_ ?_ ?_ ?_ <;> rintro _ _ ⟨⟩
      · exact ⟨["inspect","--format","\x7b\x7bjson .\x7d\x7d"],by simp,hinspect⟩
      · exact ⟨["stop","--time","5"],by simp,hstop⟩
      · exact ⟨["kill"],by simp,hkill⟩
      · exact ⟨["rm","--force"],by simp,hremove⟩
    exact hrun.uses huses _ hmem argv cancellable rfl
  · rintro rfl
    obtain ⟨first,last,rfl,hlast⟩ := runs_cleanupContainer_ok hrun
    obtain ⟨remove,final,rfl,hproven⟩ := runs_removeContainer_ok hlast
    exact ⟨first,[],[],remove,final,by simp [hinspect,hremove],hproven⟩

end Cleanup

def sampleDescription (name runId checkId : String) : Json :=
  .obj [("Config",.obj [("Labels",.obj [("com.commit-ci-preflight.check-id",.str checkId),
      ("com.commit-ci-preflight.owner",.str "commit-ci-preflight"),
      ("com.commit-ci-preflight.run-id",.str runId)])]),
    ("Name",.str ("/"++name)),("State",.obj [("Status",.str "exited")])]

def ProcessResult.sampleFailing (code : Int32) : ProcessResult :=
  {ProcessResult.samplePrinting "" with exit := some ⟨false,some code⟩}

def ProcessResult.sampleJson (value : Json) : ProcessResult :=
  {ProcessResult.samplePrinting "" with stdout := ⟨toVec .reference value,0,"",false⟩}

def sampleRemoval (lifecycle : DockerLifecyclePlan) (checkId : String) : LifecycleTrace :=
  [⟨.cleanupContainer lifecycle.containerName,()⟩,
    ⟨.cli lifecycle.inspectArgv false,
      .ok (.sampleJson (sampleDescription lifecycle.containerName "run-1" checkId))⟩,
    ⟨.cli lifecycle.removeArgv false,.ok (.samplePrinting "")⟩,
    ⟨.cli lifecycle.inspectArgv false,.ok (.sampleFailing 1)⟩]

variable {check : NormalizedCheck} {rendered : DryRunCheck} {lifecycle : DockerLifecyclePlan}

theorem parseContainerState_sample
    (hbuild : DockerLifecyclePlan.build .reference "run-1" check rendered = .ok lifecycle) :
    parseContainerState .reference (ProcessResult.sampleJson
      (sampleDescription lifecycle.containerName "run-1" check.id)).stdout.bytes lifecycle =
        .ok "exited" := by
  obtain ⟨-,-,-,-,hcontainer,hlabels⟩ := DockerLifecyclePlan.build_cleanup hbuild
  simp only [ownershipLabels,List.map_cons,List.map_nil,List.cons.injEq,and_true] at hlabels
  obtain ⟨howner,hrun,hcheck⟩ := hlabels
  have hnesting : (sampleDescription lifecycle.containerName "run-1" check.id).nesting <
      recursionLimit := by
    simp [sampleDescription,Json.nesting,Json.nestingMembers,recursionLimit]
  have hnormal : normalizeJson (sampleDescription lifecycle.containerName "run-1" check.id) =
      sampleDescription lifecycle.containerName "run-1" check.id := by
    simp only [sampleDescription,normalizeJson_obj,List.map_cons,List.map_nil,normalizeJson_str]
    rw [collectMembers_of_sorted,collectMembers_of_sorted,collectMembers_of_sorted,
      collectMembers_of_sorted] <;>
        simp only [SortedKeys,List.pairwise_cons,List.mem_cons,List.not_mem_nil,or_false,
          forall_eq_or_imp,forall_eq,String.lt_iff_toList_lt,List.Pairwise.nil,IsEmpty.forall_iff,
          implies_true,and_true] <;> decide
  have hread : valueFromSlice .reference
      (toVec .reference (sampleDescription lifecycle.containerName "run-1" check.id)) =
        some (sampleDescription lifecycle.containerName "run-1" check.id) := by
    rw [valueFromSlice,readDocument_toVec (JsonText.FloatText.floatsIn_bitPattern _) hnesting,
      Option.map_some,hnormal]
  simp only [parseContainerState,ProcessResult.sampleJson,hread]
  have hname : Option.map (Text.trimStartMatches · '/') (((sampleDescription
      lifecycle.containerName "run-1" check.id).member "Name").bind Json.asStr) =
        some lifecycle.containerName := by
    change some (Text.trimStartMatches ("/"++lifecycle.containerName) '/') = _
    rw [hcontainer,ownedContainerName]
    simp [Text.trimStartMatches,← String.toList_inj]
  rw [if_neg (not_not.2 hname)]
  have hmember : (((sampleDescription lifecycle.containerName "run-1" check.id).member "Config").bind
      fun x => x.member "Labels").bind Json.asObject = some (.obj
        [("com.commit-ci-preflight.check-id",.str check.id),
      ("com.commit-ci-preflight.owner",.str "commit-ci-preflight"),
      ("com.commit-ci-preflight.run-id",.str "run-1")]) := rfl
  simp only [hmember,howner,hrun,hcheck]
  rw [if_neg]
  · rfl
  · rw [(labelMatches_iff (by decide)).2 rfl,(labelMatches_iff (by decide)).2 rfl,
      (labelMatches_iff (by decide)).2 rfl]
    decide

theorem runs_sampleRemoval
    (hbuild : DockerLifecyclePlan.build .reference "run-1" check rendered = .ok lifecycle) :
    Runs (cleanupContainer .reference lifecycle).run (sampleRemoval lifecycle check.id)
      (.ok ()) := by
  refine .call ?_
  refine runs_executeCleanupCli.2 (Or.inr ⟨_,_,rfl,?_⟩)
  rw [if_pos (by rfl)]
  refine runs_ofExcept.2 (Or.inr ⟨"exited",parseContainerState_sample hbuild,?_⟩)
  rw [if_neg (by decide)]
  refine runs_executeCleanupCli.2 (Or.inr ⟨_,_,rfl,?_⟩)
  rw [if_pos (by decide +kernel)]
  refine runs_executeCleanupCli.2 (Or.inr ⟨_,_,rfl,?_⟩)
  rw [if_neg (by decide +kernel)]
  exact .done _

theorem cleanupContainer_touches_only_owned_sample :
    ∃ check rendered lifecycle, SampleLifecycle .sampleAcyclic check rendered lifecycle ∧
      Runs (cleanupContainer .reference lifecycle).run (sampleRemoval lifecycle check.id)
        (.ok ()) ∧
      Precedes (FoundOwned .reference lifecycle.containerName "run-1" check.id) ChangesContainer
        (sampleRemoval lifecycle check.id) ∧
      ProvenRemoved lifecycle.containerName (sampleRemoval lifecycle check.id) := by
  obtain ⟨check,rendered,lifecycle,hsample,-⟩ := exists_sampleLifecycle sampleArgv_acyclic
  obtain ⟨envelope,hplan,hcheck,hrendered,hbuild⟩ := hsample
  have hrun := runs_sampleRemoval hbuild
  obtain ⟨hprecedes,-,hremoved⟩ := cleanupContainer_touches_only_owned .reference "run-1" check
    rendered lifecycle hbuild _ _ hrun
  exact ⟨check,rendered,lifecycle,⟨envelope,hplan,hcheck,hrendered,hbuild⟩,hrun,hprecedes,
    hremoved rfl⟩

structure Container where
  name : String
  labels : List String
  deriving DecidableEq

abbrev Daemon := List Container

abbrev ServedCall := Event LifecycleCall LifecycleCall.Result × Bool

namespace Daemon

/-- What a command does to the containers when the daemon carries it out. A creation is refused
while its name is in use. -/
def carryOut : List String → Daemon → Option Daemon
  | "create"::"--name"::name::"--label"::owner::"--label"::run::"--label"::check::_, daemon =>
    if daemon.all (·.name ≠ name) then some (⟨name,[owner,run,check]⟩::daemon) else none
  | ["rm","--force",name], daemon => some (daemon.filter (·.name ≠ name))
  | _, daemon => some daemon

/-- The events of a run, each with the mark whether the daemon carried its command out. A command
that completed successfully was carried out. Any other may have been: what the command reports
when it fails, is cancelled or times out says nothing about the daemon. -/
inductive Serves : Daemon → List ServedCall → Daemon → Prop
  | done (daemon : Daemon) : Serves daemon [] daemon
  | carriedOut {argv : List String} {cancellable : Bool}
      {response : Except ProcessError ProcessResult} {before daemon after : Daemon}
      {rest : List ServedCall}
      (effect : carryOut argv before = some daemon) (tail : Serves daemon rest after) :
      Serves before ((⟨.cli argv cancellable,response⟩,true)::rest) after
  | ignored {argv : List String} {cancellable : Bool}
      {response : Except ProcessError ProcessResult} {before after : Daemon}
      {rest : List ServedCall}
      (failed : ∀ result, response = .ok result → completedSuccess result = false)
      (tail : Serves before rest after) :
      Serves before ((⟨.cli argv cancellable,response⟩,false)::rest) after
  | cleanup {name : String} {mark : Bool} {before after : Daemon}
      {rest : List ServedCall}
      (tail : Serves before rest after) :
      Serves before ((⟨.cleanupContainer name,()⟩,mark)::rest) after

variable {before after : Daemon} {served first last : List (Event LifecycleCall
  LifecycleCall.Result × Bool)}

theorem serves_append (h : Serves before (first++last) after) :
    ∃ daemon, Serves before first daemon ∧ Serves daemon last after := by
  induction first generalizing before with
  | nil => exact ⟨before,.done _,h⟩
  | cons event first ih =>
    cases h with
    | carriedOut effect tail =>
      obtain ⟨daemon,hfirst,hlast⟩ := ih tail
      exact ⟨daemon,.carriedOut effect hfirst,hlast⟩
    | ignored failed tail =>
      obtain ⟨daemon,hfirst,hlast⟩ := ih tail
      exact ⟨daemon,.ignored failed hfirst,hlast⟩
    | cleanup tail =>
      obtain ⟨daemon,hfirst,hlast⟩ := ih tail
      exact ⟨daemon,.cleanup hfirst,hlast⟩

theorem serves_success {argv : List String} {cancellable mark : Bool} {result : ProcessResult}
    (hsuccess : completedSuccess result = true)
    (h : Serves before ((⟨.cli argv cancellable,.ok result⟩,mark)::served) after) :
    ∃ daemon, carryOut argv before = some daemon ∧ Serves daemon served after := by
  cases h with
  | carriedOut effect tail => exact ⟨_,effect,tail⟩
  | ignored failed tail => exact absurd hsuccess (by simp [failed result rfl])

theorem serves_inspect {arguments : List String} {cancellable mark : Bool}
    {response : Except ProcessError ProcessResult}
    (h : Serves before [(⟨.cli ("inspect"::arguments) cancellable,response⟩,mark)] after) :
    after = before := by
  cases h with
  | carriedOut effect tail =>
    cases tail
    exact (Option.some.inj effect).symm
  | ignored failed tail =>
    cases tail
    rfl

end Daemon

/-- The daemon holds a container with the name and the labels of the lifecycle. -/
def DockerLifecyclePlan.HeldBy (lifecycle : DockerLifecyclePlan) (daemon : Daemon) : Prop :=
  ∃ container ∈ daemon, container.name = lifecycle.containerName ∧
    ∀ label ∈ [lifecycle.ownerLabel,lifecycle.runLabel,lifecycle.checkLabel],
      label ∈ container.labels

/-- The run ends with a removal that ended well. -/
def DockerLifecyclePlan.EndsRemoved (lifecycle : DockerLifecyclePlan) (trace : LifecycleTrace) :
    Prop :=
  ∃ first last, trace = first++last ∧ Runs (removeContainer lifecycle).run last (.ok ())

section Returns

variable {crates : Crates} {lifecycle : DockerLifecyclePlan} {trace : LifecycleTrace}
  {result : ProcessResult}

theorem DockerLifecyclePlan.EndsRemoved.cons {event : Event LifecycleCall LifecycleCall.Result}
    (h : lifecycle.EndsRemoved trace) : lifecycle.EndsRemoved (event::trace) := by
  obtain ⟨first,last,rfl,hlast⟩ := h
  exact ⟨event::first,last,rfl,hlast⟩

theorem endsRemoved_of_cleanup {value : ProcessResult}
    (h : Runs (cleanupContainer crates lifecycle >>= fun _ => pure value).run trace (.ok result)) :
    lifecycle.EndsRemoved trace := by
  rcases runs_run_bind.1 h with ⟨e,herror,-⟩ | ⟨_,first,rest,rfl,hcleanup,hrest⟩
  · cases herror
  obtain ⟨rfl,-⟩ := runs_pure.1 hrest
  rw [List.append_nil]
  exact runs_cleanupContainer_ok hcleanup

theorem not_runs_cleanup_throw {e : RuntimeError} :
    ¬ Runs (cleanupContainer crates lifecycle >>= fun _ =>
      (throw e : Lifecycle ProcessResult)).run trace (.ok result) := by
  intro h
  rcases runs_run_bind.1 h with ⟨e,herror,-⟩ | ⟨_,first,rest,-,-,hrest⟩
  · cases herror
  · cases (runs_throw.1 hrest).2

theorem finishCheck_ok {attach : ProcessResult}
    (h : Runs (finishCheck crates lifecycle attach).run trace (.ok result)) :
    lifecycle.EndsRemoved trace := by
  rcases runs_executeCli.1 h with ⟨e,-,herror⟩ | ⟨wait,rest,rfl,hrest⟩
  · cases herror
  split at hrest
  · rcases runs_ofExcept.1 hrest with ⟨e,-,-,herror⟩ | ⟨code,-,hcleanup⟩
    · cases herror
    · exact (endsRemoved_of_cleanup hcleanup).cons
  · exact absurd hrest not_runs_cleanup_throw

theorem runContainer_ok (h : Runs (runContainer crates lifecycle).run trace (.ok result)) :
    lifecycle.EndsRemoved trace := by
  obtain ⟨response,rest,rfl,hrest⟩ := runs_attempt_executeCli.1 h
  rcases response with e | start
  · exact absurd hrest not_runs_cleanup_throw
  simp only [Except.mapError] at hrest
  split at hrest
  case isFalse => exact (endsRemoved_of_cleanup hrest).cons
  obtain ⟨response,rest,rfl,hattach⟩ := runs_attempt_executeCli.1 hrest
  rcases response with e | attach
  · exact absurd hattach not_runs_cleanup_throw
  simp only [Except.mapError] at hattach
  split at hattach
  · exact (finishCheck_ok hattach).cons.cons
  · exact (endsRemoved_of_cleanup hattach).cons.cons

/-- `execute_check` returns a result in two ways: the removal of the container ended well, or
`docker create` did not complete successfully and nothing was done about it. -/
theorem executeCheck_ok {context : RuntimeExecutionContext} {check : NormalizedCheck}
    {rendered : DryRunCheck}
    (hbuild : DockerLifecyclePlan.build crates context.runId check rendered = .ok lifecycle)
    (h : Runs (executeCheck crates context check rendered).run trace (.ok result)) :
    ∃ create : ProcessResult,
      (completedSuccess create = false ∧
        trace = [⟨.cli lifecycle.createArgv true,.ok create⟩]) ∨
      (completedSuccess create = true ∧ ∃ rest, lifecycle.EndsRemoved rest ∧
        trace = ⟨.cli lifecycle.createArgv true,.ok create⟩::rest) := by
  rcases runs_ofExcept.1 h with ⟨e,-,-,herror⟩ | ⟨_,-,hplan⟩
  · cases herror
  rcases runs_ofExcept.1 hplan with ⟨e,-,-,herror⟩ | ⟨plan,hok,hcommands⟩
  · cases herror
  cases hok.symm.trans hbuild
  rcases runs_executeCli.1 hcommands with ⟨e,-,herror⟩ | ⟨create,rest,rfl,hcreated⟩
  · cases herror
  refine ⟨create,?_⟩
  split at hcreated
  · rename_i hsuccess
    split at hcreated
    · exact Or.inr ⟨hsuccess,rest,runContainer_ok hcreated,rfl⟩
    · exact absurd hcreated not_runs_cleanup_throw
  · rename_i hsuccess
    obtain ⟨rfl,-⟩ := runs_pure.1 hcreated
    exact Or.inl ⟨Bool.eq_false_of_not_eq_true hsuccess,rfl⟩

end Returns

section Left

variable {crates : Crates} {runId : String} {check : NormalizedCheck} {rendered : DryRunCheck}
  {lifecycle : DockerLifecyclePlan} {before after : Daemon}
  {served : List ServedCall}

/-- After a removal that ended well the daemon holds no container of that name. -/
theorem not_heldBy_of_endsRemoved
    (hbuild : DockerLifecyclePlan.build crates runId check rendered = .ok lifecycle)
    (h : lifecycle.EndsRemoved (served.map Prod.fst)) (hserves : Daemon.Serves before served after) :
    ¬ lifecycle.HeldBy after := by
  obtain ⟨hinspect,-,-,hremove,-⟩ := DockerLifecyclePlan.build_cleanup hbuild
  obtain ⟨first,last,hmap,hlast⟩ := h
  obtain ⟨marked,removal,rfl,-,rfl⟩ := List.map_eq_append_iff.1 hmap
  obtain ⟨daemon,-,hserves⟩ := Daemon.serves_append hserves
  obtain ⟨remove,final,hevents,hsuccess,-⟩ := runs_removeContainer_ok hlast
  obtain ⟨⟨_,mark⟩,tail,rfl,rfl,htail⟩ := List.map_eq_cons_iff.1 hevents
  obtain ⟨⟨_,mark'⟩,tail,rfl,rfl,hend⟩ := List.map_eq_cons_iff.1 htail
  obtain rfl := List.map_eq_nil_iff.1 hend
  rw [hremove,hinspect] at hserves
  obtain ⟨daemon',heffect,hserves⟩ := Daemon.serves_success hsuccess hserves
  obtain rfl := Daemon.serves_inspect hserves
  obtain rfl : daemon.filter (·.name ≠ lifecycle.containerName) = after := Option.some.inj heffect
  rintro ⟨container,hmem,hname,-⟩
  simp [hname] at hmem

theorem heldBy_of_created
    (hbuild : DockerLifecyclePlan.build crates runId check rendered = .ok lifecycle)
    (h : Daemon.carryOut lifecycle.createArgv before = some after) : lifecycle.HeldBy after := by
  obtain ⟨options,hcreate⟩ := DockerLifecyclePlan.build_createArgv hbuild
  rw [hcreate] at h
  simp only [Daemon.carryOut] at h
  split at h
  case isFalse => cases h
  obtain rfl := Option.some.inj h
  exact ⟨_,List.mem_cons_self,rfl,fun _ hlabel => hlabel⟩

theorem executeCheck_create_failed {context : RuntimeExecutionContext}
    (hbuild : DockerLifecyclePlan.build crates context.runId check rendered = .ok lifecycle)
    {create : ProcessResult} (hfailed : completedSuccess create = false) {rest : LifecycleTrace}
    {outcome : Except RuntimeError ProcessResult}
    (h : Runs (executeCheck crates context check rendered).run
      (⟨.cli lifecycle.createArgv true,.ok create⟩::rest) outcome) :
    outcome = .ok create ∧ rest = [] := by
  rcases runs_ofExcept.1 h with ⟨e,-,hnil,-⟩ | ⟨_,-,hplan⟩
  · cases hnil
  rcases runs_ofExcept.1 hplan with ⟨e,-,hnil,-⟩ | ⟨plan,hok,hcommands⟩
  · cases hnil
  cases hok.symm.trans hbuild
  rcases runs_executeCli.1 hcommands with ⟨e,htrace,-⟩ | ⟨result,tail,htrace,hcreated⟩
  · cases htrace
  cases htrace
  rw [if_neg (by simp [hfailed])] at hcreated
  obtain ⟨rfl,rfl⟩ := runs_pure.1 hcreated
  exact ⟨rfl,rfl⟩

/-- For every way the daemon and the command behave: when `execute_check` returns a result the
daemon holds no container of the lifecycle, exactly when a `docker create` that does not complete
successfully neither takes effect nor finds such a container there. -/
theorem executeCheck_ok_not_heldBy_iff (crates : Crates) (context : RuntimeExecutionContext)
    (check : NormalizedCheck) (rendered : DryRunCheck) (lifecycle : DockerLifecyclePlan)
    (hbuild : DockerLifecyclePlan.build crates context.runId check rendered = .ok lifecycle)
    (before after : Daemon) (served : List ServedCall)
    (hserves : Daemon.Serves before served after) (outcome : Except RuntimeError ProcessResult)
    (hrun : Runs (executeCheck crates context check rendered).run (served.map Prod.fst) outcome) :
    (∀ result, outcome = .ok result → ¬ lifecycle.HeldBy after) ↔
      ∀ create mark,
        served.head? = some (⟨.cli lifecycle.createArgv true,.ok create⟩,mark) →
        completedSuccess create = false → mark = false ∧ ¬ lifecycle.HeldBy before := by
  constructor
  · intro h create mark hhead hfailed
    obtain ⟨rest,rfl⟩ := List.head?_eq_some_iff.1 hhead
    obtain ⟨rfl,hrest⟩ := executeCheck_create_failed hbuild hfailed hrun
    obtain rfl := List.map_eq_nil_iff.1 hrest
    have hnot := h create rfl
    cases hserves with
    | carriedOut effect tail =>
      cases tail
      exact absurd (heldBy_of_created hbuild effect) hnot
    | ignored failed tail =>
      cases tail
      exact ⟨rfl,hnot⟩
  · rintro h result rfl
    obtain ⟨create,⟨hfailed,htrace⟩ | ⟨hsuccess,rest,hremoved,htrace⟩⟩ := executeCheck_ok hbuild hrun
    · obtain ⟨⟨_,mark⟩,tail,rfl,rfl,hend⟩ := List.map_eq_cons_iff.1 htrace
      obtain rfl := List.map_eq_nil_iff.1 hend
      obtain ⟨rfl,hnot⟩ := h create mark rfl hfailed
      cases hserves with
      | ignored failed tail =>
        cases tail
        exact hnot
    · exact not_heldBy_of_endsRemoved hbuild (htrace ▸ hremoved.cons) hserves

end Left

def ProcessResult.sampleTimedOut : ProcessResult :=
  {ProcessResult.samplePrinting "" with termination := .timedOut,exit := none}

def sampleServed (lifecycle : DockerLifecyclePlan) (checkId : String) :
    List ServedCall :=
  (sampleStart lifecycle++⟨.cli lifecycle.waitArgv true,.ok (.samplePrinting "0\n")⟩::
    sampleRemoval lifecycle checkId).map (·,true)

theorem serves_sampleServed
    (hbuild : DockerLifecyclePlan.build .reference "run-1" check rendered = .ok lifecycle) :
    Daemon.Serves [] (sampleServed lifecycle check.id) [] := by
  obtain ⟨hstart,hattach,hwait,-⟩ := DockerLifecyclePlan.build_eq_ok hbuild
  obtain ⟨hinspect,-,-,hremove,-⟩ := DockerLifecyclePlan.build_cleanup hbuild
  obtain ⟨options,hcreate⟩ := DockerLifecyclePlan.build_createArgv hbuild
  let created : Daemon := [⟨lifecycle.containerName,
    [lifecycle.ownerLabel,lifecycle.runLabel,lifecycle.checkLabel]⟩]
  have create : Daemon.carryOut lifecycle.createArgv [] = some created := by
    rw [hcreate]
    rfl
  have start : Daemon.carryOut lifecycle.startArgv created = some created := by
    rw [hstart]
    rfl
  have attach : Daemon.carryOut lifecycle.attachArgv created = some created := by
    rw [hattach]
    rfl
  have wait : Daemon.carryOut lifecycle.waitArgv created = some created := by
    rw [hwait]
    rfl
  have inspect (daemon : Daemon) : Daemon.carryOut lifecycle.inspectArgv daemon = some daemon := by
    rw [hinspect]
    rfl
  have remove : Daemon.carryOut lifecycle.removeArgv created = some [] := by
    rw [hremove]
    simp [Daemon.carryOut,created]
  exact .carriedOut create (.carriedOut start (.carriedOut attach (.carriedOut wait (.cleanup
    (.carriedOut (inspect _) (.carriedOut remove (.carriedOut (inspect _) (.done _))))))))

theorem executeCheck_ok_not_heldBy_sample :
    ∃ check rendered lifecycle result, SampleLifecycle .sampleAcyclic check rendered lifecycle ∧
      Daemon.Serves [] (sampleServed lifecycle check.id) [] ∧
      Runs (executeCheck .reference .sample check rendered).run
        ((sampleServed lifecycle check.id).map Prod.fst) (.ok result) ∧
      ¬ lifecycle.HeldBy [] := by
  obtain ⟨check,rendered,lifecycle,hsample,-⟩ := exists_sampleLifecycle sampleArgv_acyclic
  obtain ⟨envelope,hplan,hcheck,hrendered,hbuild⟩ := hsample
  have hserves := serves_sampleServed hbuild
  have hcode : parseWaitExitCode (ProcessResult.samplePrinting "0\n").stdout.bytes = .ok 0 :=
    ok_of_toOption (by decide +kernel)
  have hrun : Runs (executeCheck .reference .sample check rendered).run
      ((sampleServed lifecycle check.id).map Prod.fst)
      (.ok {ProcessResult.samplePrinting "test result: ok\n" with exit := some ⟨true,some 0⟩}) := by
    have hevents : (sampleServed lifecycle check.id).map Prod.fst = sampleStart lifecycle++
        ⟨.cli lifecycle.waitArgv true,.ok (.samplePrinting "0\n")⟩::
          sampleRemoval lifecycle check.id := by
      rw [sampleServed,List.map_map]
      exact List.map_id _
    rw [hevents]
    refine runs_executeCheck_of_finish rfl hbuild (by decide +kernel) (by decide +kernel)
      (by decide +kernel) rfl ?_
    refine runs_executeCli.2 (Or.inr ⟨.samplePrinting "0\n",_,rfl,?_⟩)
    rw [if_pos (by decide +kernel)]
    refine runs_ofExcept.2 (Or.inr ⟨0,hcode,?_⟩)
    exact runs_run_bind.2 (Or.inr ⟨(),_,[],(List.append_nil _).symm,runs_sampleRemoval hbuild,
      .done _⟩)
  refine ⟨check,rendered,lifecycle,_,⟨envelope,hplan,hcheck,hrendered,hbuild⟩,hserves,hrun,?_⟩
  refine (executeCheck_ok_not_heldBy_iff .reference .sample check rendered lifecycle hbuild _ _ _
    hserves _ hrun).2 (fun create mark hhead hfailed => ?_) _ rfl
  cases Option.some.inj hhead
  exact absurd hfailed (by decide +kernel)

/-- The daemon creates the container while the command runs into its time limit. -/
theorem executeCheck_ok_leaves_container :
    ∃ check rendered lifecycle after result,
      SampleLifecycle .sampleAcyclic check rendered lifecycle ∧
      Daemon.Serves [] [(⟨.cli lifecycle.createArgv true,.ok .sampleTimedOut⟩,true)] after ∧
      Runs (executeCheck .reference .sample check rendered).run
        [⟨.cli lifecycle.createArgv true,.ok .sampleTimedOut⟩] (.ok result) ∧
      lifecycle.HeldBy after := by
  obtain ⟨check,rendered,lifecycle,hsample,-⟩ := exists_sampleLifecycle sampleArgv_acyclic
  obtain ⟨envelope,hplan,hcheck,hrendered,hbuild⟩ := hsample
  obtain ⟨options,hcreate⟩ := DockerLifecyclePlan.build_createArgv hbuild
  obtain ⟨after,heffect⟩ : ∃ after, Daemon.carryOut lifecycle.createArgv [] = some after :=
    ⟨_,by rw [hcreate]; rfl⟩
  refine ⟨check,rendered,lifecycle,after,.sampleTimedOut,
    ⟨envelope,hplan,hcheck,hrendered,hbuild⟩,.carriedOut heffect (.done _),?_,
    heldBy_of_created hbuild heffect⟩
  refine runs_ofExcept.2 (Or.inr ⟨(),rfl,?_⟩)
  refine runs_ofExcept.2 (Or.inr ⟨lifecycle,hbuild,?_⟩)
  refine runs_executeCli.2 (Or.inr ⟨.sampleTimedOut,_,rfl,?_⟩)
  rw [if_neg (by decide +kernel)]
  exact .done _

end CommitCiPreflight
