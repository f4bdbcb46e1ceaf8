import CommitCiPreflight.WorkflowSurfaces

/-! What the proposed checks of a workflow mean: each is read off one run step, its shell and working
directory looked up in the step and then in the job's defaults. -/
namespace CommitCiPreflight

/-- The last separator splits a text in one way. -/
theorem append_cons_inj_right {α : Type} {a : α} {xs ys ds es : List α} (hd : a ∉ ds) (he : a ∉ es)
    (h : xs++a::ds = ys++a::es) : xs = ys ∧ ds = es := by
  rcases List.append_eq_append_iff.1 h with ⟨cs,hys,hds⟩ | ⟨cs,hxs,hes⟩
  · cases cs with
    | nil => exact ⟨by simpa using hys.symm,(List.cons.inj hds).2⟩
    | cons c cs =>
      have hmem : a ∈ ds := by simp [(List.cons.inj hds).2]
      exact absurd hmem hd
  · cases cs with
    | nil => exact ⟨by simpa using hxs,(List.cons.inj hes).2.symm⟩
    | cons c cs =>
      have hmem : a ∈ es := by simp [(List.cons.inj hes).2]
      exact absurd hmem he

theorem Text.padded_injective (width : ℕ) : Function.Injective (Text.padded width) := by
  have hvalue : ∀ n, Nat.ofDigitChars 10 ((Nat.toDigits 10 n).leftpad width '0') 0 = n := by
    intro n
    have hzeros : ∀ k, Nat.ofDigitChars 10 (List.replicate k '0') 0 = 0 := by
      intro k
      induction k with
      | zero => rfl
      | succ k ih => rwa [List.replicate_succ,Nat.ofDigitChars_cons]
    rw [List.leftpad,Nat.ofDigitChars_append,hzeros,Nat.ofDigitChars_ten_toDigits]
  intro m n h
  have hdigits := String.ofList_injective h
  rw [← hvalue m,hdigits,hvalue n]

namespace GithubActions

open Inspection

variable {jobId : String} {part : Inspection} {node : Yaml} {root : Mapping}

theorem stepId_injective {jobId' : String} {index index' : ℕ}
    (h : stepId jobId index = stepId jobId' index') : jobId = jobId' ∧ index = index' := by
  have hlist := congrArg String.toList h
  have hdigits : ∀ n, '-' ∉ (Text.padded 3 n).toList := by
    intro n hmem
    have hdigit := Text.isDigit_leftpad_toDigits 3 n '-' (by simpa [Text.padded] using hmem)
    exact absurd hdigit (by decide)
  have hsplit : ∀ id n, (stepId id n).toList =
      (id.toList++"-step".toList)++ '-'::(Text.padded 3 (n+1)).toList := by
    intro id n
    simp [stepId]
  rw [hsplit,hsplit] at hlist
  obtain ⟨hid,hindex⟩ := append_cons_inj_right (hdigits _) (hdigits _) hlist
  have hpadded := Text.padded_injective 3 (String.toList_injective hindex)
  exact ⟨String.toList_injective (List.append_cancel_right hid),by omega⟩

structure Site where
  jobId : String
  index : ℕ
  job : Mapping
  step : Mapping

namespace Site

def id (site : Site) : String := stepId site.jobId site.index

def path (site : Site) : String := stepPath site.jobId site.index

def shell (site : Site) : Option String := resolveShell site.step (jobDefaults site.job)

def workingDirectory (site : Site) : String :=
  resolveWorkingDirectory site.step (jobDefaults site.job)

def command (site : Site) : Option String := (mappingGet site.step "run").bind Yaml.asStr

/-- The run steps a check is proposed for. -/
def Supported (site : Site) : Prop :=
  (mappingGet site.job "uses").isNone = true ∧ (mappingGet site.step "uses").isNone = true ∧
    site.command.any (fun command => !containsExpression command) = true ∧
    ¬ HasBehavior site.step ∧ site.shell.any isKnownShell = true ∧
    isWorkingDirectory site.workingDirectory = true

instance (step : Mapping) : Decidable (HasBehavior step) :=
  inferInstanceAs (Decidable (∃ key ∈ stepBehaviors, (mappingGet step key).isSome = true))

instance (site : Site) : Decidable site.Supported := inferInstanceAs (Decidable (_ ∧ _))

def check (site : Site) : ProposedCheckV1 :=
  ⟨site.id,site.path,site.shell.getD "",site.command.getD "",site.workingDirectory⟩

def checks (site : Site) : List ProposedCheckV1 := if site.Supported then [site.check] else []

end Site

def jobSites (jobId : String) (job : Mapping) : List Site :=
  (((mappingGet job "steps").bind Yaml.asVec).getD []).zipIdx.filterMap fun step =>
    step.1.asMapping.map fun mapping => ⟨jobId,step.2,job,mapping⟩

def entrySites (entry : Yaml × Yaml) : List Site :=
  match entry.1.asStr,entry.2.asMapping with
  | some jobId,some job => jobSites jobId job
  | _,_ => []

def sites (root : Mapping) : List Site := ((submapping root "jobs").getD []).flatMap entrySites

@[simp] theorem checks_append (a b : Inspection) :
    (a++b).proposedChecks = a.proposedChecks++b.proposedChecks := rfl

@[simp] theorem checks_empty : empty.proposedChecks = [] := rfl

@[simp] theorem checks_record (path feature : String) (disposition : FeatureDisposition)
    (detail : String) : (record path feature disposition detail).proposedChecks = [] := rfl

@[simp] theorem checks_recordIf (condition : Prop) [Decidable condition] (path feature : String)
    (disposition : FeatureDisposition) (detail : String) :
    (recordIf condition path feature disposition detail).proposedChecks = [] := by
  unfold recordIf
  split <;> rfl

theorem checks_concat (parts : List Inspection) :
    (concat parts).proposedChecks = parts.flatMap (·.proposedChecks) := by
  induction parts with
  | nil => rfl
  | cons part parts ih =>
    change part.proposedChecks++(concat parts).proposedChecks = _
    rw [ih,List.flatMap_cons]

theorem checks_concat_map {α : Type} {inspect : α → Inspection} {items : List α}
    (h : ∀ item, (inspect item).proposedChecks = []) :
    (concat (items.map inspect)).proposedChecks = [] := by
  simp [checks_concat,h]

theorem inspectEach_checks {α : Type} {inspect : α → Inspect} {items : List α}
    {checks : α → List ProposedCheckV1} {inspection : Inspection}
    (h : inspectEach inspect items = .ok inspection)
    (hchecks : ∀ item ∈ items, ∀ part, inspect item = .ok part →
      part.proposedChecks = checks item) :
    inspection.proposedChecks = items.flatMap checks := by
  obtain ⟨parts,hparts,heq⟩ := except_bind_eq_ok.1 h
  cases Except.ok.inj heq
  have hpart := mapM_eq_ok_iff_forall₂.1 hparts
  rw [checks_concat]
  clear h heq hparts
  induction hpart with
  | nil => rfl
  | cons hitem _ ih =>
    rw [List.flatMap_cons,List.flatMap_cons,hchecks _ List.mem_cons_self _ hitem,
      ih fun item hmem => hchecks item (List.mem_cons_of_mem _ hmem)]

theorem inspectVariable_checks {path : String} {entry : Yaml × Yaml}
    (h : inspectVariable path entry = .ok part) : part.proposedChecks = [] := by
  obtain ⟨name,_,hrest⟩ := except_bind_eq_ok.1 h
  split at hrest
  · cases Except.ok.inj hrest
    rfl
  · cases Except.ok.inj hrest
    rw [checks_append,checks_append]
    split <;> rfl

theorem inspectOptionalEnvironment_checks {mapping : Mapping} {path : String}
    (h : inspectOptionalEnvironment mapping path = .ok part) : part.proposedChecks = [] := by
  unfold inspectOptionalEnvironment at h
  split at h
  · obtain ⟨entries,_,heach⟩ := except_bind_eq_ok.1 h
    rw [inspectEach_checks heach fun _ _ _ => inspectVariable_checks]
    simp
  · cases Except.ok.inj h
    rfl

theorem reportUnknownKeys_checks (mapping : Mapping) (path : String) (known : List String) :
    (reportUnknownKeys mapping path known).proposedChecks = [] := by
  refine checks_concat_map fun entry => ?_
  unfold unknownKey
  split <;> simp

theorem inspectActionStep_checks (path : String) (action : Yaml) (inputs : Option Yaml) :
    (inspectActionStep path action inputs).proposedChecks = [] := by
  have hreference : ∀ reference, (inspectReference (path++".uses") reference).proposedChecks = [] := by
    intro reference
    unfold inspectReference
    repeat' split
    all_goals rfl
  unfold inspectActionStep
  split
  · rfl
  · rw [checks_append,hreference]
    cases inputs <;> simp [inspectInputs]

theorem inspectRunStep_checks {site : Site} {command : Yaml} {part : Inspection}
    (hjob : (mappingGet site.job "uses").isNone = true)
    (huses : (mappingGet site.step "uses").isNone = true)
    (hrun : mappingGet site.step "run" = some command)
    (h : inspectRunStep site.jobId site.index site.path command site.step (jobDefaults site.job) =
      .ok part) : part.proposedChecks = site.checks := by
  have hcommand : site.command = command.asStr := by simp [Site.command,hrun]
  unfold inspectRunStep at h
  unfold Site.checks Site.Supported Site.check
  cases htext : command.asStr with
  | none =>
    simp only [htext] at h
    cases Except.ok.inj h
    simp [hcommand,htext]
  | some text =>
    simp only [htext] at h
    have hbehaviors : ∀ path : String, (concat ((stepBehaviors.filter fun key =>
        (mappingGet site.step key).isSome).map fun key => record (path++"."++key) key .unsupported
          "This step behavior is outside compatibility contract v1.")).proposedChecks = [] :=
      fun path => checks_concat_map fun key => rfl
    cases hshell : resolveShell site.step (jobDefaults site.job) with
    | none =>
      simp only [hshell] at h
      cases Except.ok.inj h
      simp [hbehaviors,Site.shell,hshell]
    | some shell =>
      simp only [hshell] at h
      obtain ⟨environment,henvironment,hrest⟩ := except_bind_eq_ok.1 h
      cases Except.ok.inj hrest
      have hnone : stepBehaviors.filter (fun key => (mappingGet site.step key).isSome) = [] ↔
          ¬ HasBehavior site.step := by rw [← behaviors_ne_nil,not_not]
      simp only [checks_append,checks_recordIf,hbehaviors,List.nil_append,
        inspectOptionalEnvironment_checks henvironment,hnone,hjob,huses,hcommand,htext,Site.shell,
        hshell,Option.any_some,Option.getD_some,Site.workingDirectory,true_and]
      split <;> rename_i hsupported
      · rw [if_pos (by simpa using hsupported)]
        rfl
      · rw [if_neg (by simpa using hsupported)]
        rfl

theorem inspectStep_checks {index : ℕ} {job : Mapping}
    (hjob : (mappingGet job "uses").isNone = true)
    (h : inspectStep jobId index node (jobDefaults job) = .ok part) :
    ∃ step, node.asMapping = some step ∧ part.proposedChecks = Site.checks ⟨jobId,index,job,step⟩ := by
  obtain ⟨step,hstep,hrest⟩ := except_bind_eq_ok.1 h
  rw [orStructure_eq_ok] at hstep
  refine ⟨step,hstep,?_⟩
  have hunsupported : (mappingGet step "uses").isNone = false ∨ mappingGet step "run" = none →
      Site.checks ⟨jobId,index,job,step⟩ = [] := by
    intro hshape
    refine if_neg fun hsupported => ?_
    obtain ⟨_,huses,hcommand,_⟩ := hsupported
    rcases hshape with hshape | hshape
    · simp [hshape] at huses
    · simp [Site.command,hshape] at hcommand
  cases huses : mappingGet step "uses" with
  | some action =>
    rw [hunsupported (.inl (by simp [huses]))]
    cases hrun : mappingGet step "run" with
    | some command =>
      simp only [huses,hrun] at hrest
      cases Except.ok.inj hrest
      simp [reportUnknownKeys_checks]
    | none =>
      simp only [huses,hrun] at hrest
      cases Except.ok.inj hrest
      simp [reportUnknownKeys_checks,inspectActionStep_checks]
  | none =>
    cases hrun : mappingGet step "run" with
    | some command =>
      simp only [huses,hrun] at hrest
      obtain ⟨run,hinspect,hrest⟩ := except_bind_eq_ok.1 hrest
      cases Except.ok.inj hrest
      rw [checks_append,reportUnknownKeys_checks,List.nil_append]
      exact @inspectRunStep_checks ⟨jobId,index,job,step⟩ command run hjob (by simp [huses]) hrun
        hinspect
    | none =>
      rw [hunsupported (.inr hrun)]
      simp only [huses,hrun] at hrest
      cases Except.ok.inj hrest
      simp [reportUnknownKeys_checks]

theorem runDefaults_checks {node : Option Yaml} {path : String} {defaults : RunDefaults}
    (h : runDefaults node path = .ok (defaults,part)) : part.proposedChecks = [] := by
  unfold runDefaults at h
  split at h
  · cases Except.ok.inj h
    rfl
  · obtain ⟨mapping,_,h⟩ := except_bind_eq_ok.1 h
    split at h
    · cases Except.ok.inj h
      rfl
    · obtain ⟨run,_,h⟩ := except_bind_eq_ok.1 h
      cases Except.ok.inj h
      exact checks_concat_map fun entry => by simp [unknownRunDefault]

theorem inspectJob_checks (h : inspectJob jobId node = .ok part) :
    ∃ job, node.asMapping = some job ∧
      part.proposedChecks = (jobSites jobId job).flatMap Site.checks := by
  obtain ⟨job,hjob,hrest⟩ := except_bind_eq_ok.1 h
  rw [orStructure_eq_ok] at hjob
  refine ⟨job,hjob,?_⟩
  by_cases huses : (mappingGet job "uses").isSome = true
  · rw [if_pos huses] at hrest
    cases Except.ok.inj hrest
    have hnone : ∀ site ∈ jobSites jobId job, site.checks = [] := by
      intro site hsite
      obtain ⟨⟨node,index⟩,_,hmap⟩ := List.mem_filterMap.1 hsite
      obtain ⟨step,_,rfl⟩ := Option.map_eq_some_iff.1 hmap
      refine if_neg fun hsupported => ?_
      have hnone := hsupported.1
      simp only [Option.isNone_iff_eq_none] at hnone
      simp [hnone] at huses
    rw [List.flatMap_eq_nil_iff.2 hnone]
    simp [inspectReusable,inspectSecrets,reportUnknownKeys_checks]
  · rw [if_neg huses] at hrest
    obtain ⟨environment,henvironment,hrest⟩ := except_bind_eq_ok.1 hrest
    obtain ⟨⟨defaults,unknownDefaults⟩,hdefaults,hrest⟩ := except_bind_eq_ok.1 hrest
    obtain ⟨steps,hsteps,hrest⟩ := except_bind_eq_ok.1 hrest
    rw [orStructure_eq_ok] at hsteps
    obtain ⟨rfl,_⟩ := runDefaults_eq_ok hdefaults
    split at hrest
    · cases hrest
    · obtain ⟨inspected,hinspected,hrest⟩ := except_bind_eq_ok.1 hrest
      cases Except.ok.inj hrest
      have hstep : inspected.proposedChecks = (jobSites jobId job).flatMap Site.checks := by
        have heach : ∀ step ∈ steps.zipIdx, ∀ part, inspectStep jobId step.2 step.1
            (jobDefaults job) = .ok part → part.proposedChecks = (step.1.asMapping.map fun mapping =>
              (⟨jobId,step.2,job,mapping⟩ : Site)).toList.flatMap Site.checks := by
          intro step _ part hpart
          obtain ⟨mapping,hmapping,hchecks⟩ := inspectStep_checks (by simpa using huses) hpart
          simp [hmapping,hchecks]
        rw [inspectEach_checks hinspected heach]
        simp only [jobSites,hsteps,Option.getD_some,List.filterMap_eq_flatMap_toList,
          List.flatMap_assoc]
      have hrunner : (inspectRunner job ("jobs."++jobId)).proposedChecks = [] := by
        unfold inspectRunner
        repeat' split
        all_goals rfl
      have hreviewed : ∀ key, (inspectReviewedKey job ("jobs."++jobId) key).proposedChecks = [] := by
        intro key
        unfold inspectReviewedKey
        split <;> simp
      simp only [checks_append,reportUnknownKeys_checks,hrunner,checks_concat_map hreviewed,
        checks_concat_map fun key => checks_recordIf _ _ _ _ _,inspectSecrets,checks_recordIf,
        inspectOptionalEnvironment_checks henvironment,runDefaults_checks hdefaults,hstep,
        List.nil_append]

theorem inspectTopLevel_checks {inspection : Inspection}
    (h : inspectTopLevel root = .ok inspection) :
    inspection.proposedChecks = (sites root).flatMap Site.checks := by
  obtain ⟨environment,henvironment,hrest⟩ := except_bind_eq_ok.1 h
  obtain ⟨jobs,hjobs,hrest⟩ := except_bind_eq_ok.1 hrest
  rw [orStructure_eq_ok] at hjobs
  split at hrest
  · cases hrest
  · obtain ⟨inspected,hinspected,hrest⟩ := except_bind_eq_ok.1 hrest
    cases Except.ok.inj hrest
    have hjob : inspected.proposedChecks = (sites root).flatMap Site.checks := by
      have heach : ∀ entry ∈ jobs, ∀ part, inspectJobEntry entry = .ok part →
          part.proposedChecks = (entrySites entry).flatMap Site.checks := by
        intro entry _ part hpart
        obtain ⟨jobId,hkey,hpart⟩ := except_bind_eq_ok.1 hpart
        rw [stringKey,orStructure_eq_ok] at hkey
        obtain ⟨job,hmapping,hchecks⟩ := inspectJob_checks hpart
        simp only [entrySites,hkey,hmapping,hchecks]
      rw [inspectEach_checks hinspected heach]
      simp only [sites,submapping,hjobs,Option.getD_some,List.flatMap_assoc]
    simp [reportUnknownKeys_checks,inspectOptionalEnvironment_checks henvironment,hjob]

/-- The proposed checks of a report are those of the supported sites. -/
theorem proposedChecks_eq {yaml : YamlCrate} {input : String}
    {report : GithubActionsCompatibilityReportV1} (h : analyzeWorkflow yaml input = .ok report) :
    ∃ root, yaml.load input = .ok [.mapping root] ∧
      report.proposedChecks =
        ((sites root).flatMap Site.checks).insertionSort (·.id ≤ ·.id) := by
  obtain ⟨root,inspected,hload,hinspected,rfl⟩ := analyzeWorkflow_eq_ok h
  refine ⟨root,hload,?_⟩
  have hname : (inspectName root).2.proposedChecks = [] := by
    unfold inspectName
    repeat' split
    all_goals rfl
  simp only [finish,checks_append,hname,List.nil_append,inspectTopLevel_checks hinspected]

mutual
def DistinctKeys : Yaml → Prop
  | .sequence items => DistinctKeysItems items
  | .mapping entries => (entries.map Prod.fst).Nodup ∧ DistinctKeysEntries entries
  | .tagged node => DistinctKeys node
  | _ => True
def DistinctKeysItems : List Yaml → Prop
  | [] => True
  | item::items => DistinctKeys item ∧ DistinctKeysItems items
def DistinctKeysEntries : List (Yaml × Yaml) → Prop
  | [] => True
  | (key,value)::entries => DistinctKeys key ∧ DistinctKeys value ∧ DistinctKeysEntries entries
end

/-- Every mapping the parser loads from the input has distinct keys. -/
def LoadsMaps (yaml : YamlCrate) (input : String) : Prop :=
  ∀ documents, yaml.load input = .ok documents → ∀ document ∈ documents, DistinctKeys document

theorem distinctKeys_value {entries : Mapping} (h : DistinctKeysEntries entries) :
    ∀ entry ∈ entries, DistinctKeys entry.2 := by
  induction entries with
  | nil => simp
  | cons entry entries ih =>
    obtain ⟨_,hvalue,hentries⟩ := h
    intro other hmem
    rcases List.mem_cons.1 hmem with rfl | hmem
    · exact hvalue
    · exact ih hentries other hmem

theorem mem_of_mappingGet {mapping : Mapping} {key : String} {value : Yaml}
    (h : mappingGet mapping key = some value) : ∃ entry ∈ mapping, entry.2 = value := by
  obtain ⟨entry,hmem,hentry⟩ := List.exists_of_findSome?_eq_some h
  split at hentry
  · exact ⟨entry,hmem,Option.some.inj hentry⟩
  · cases hentry

theorem jobs_nodup {jobs : Mapping} (h : DistinctKeys (.mapping root))
    (hjobs : submapping root "jobs" = some jobs) : (jobs.map Prod.fst).Nodup := by
  obtain ⟨node,hnode,hmapping⟩ := Option.bind_eq_some_iff.1 hjobs
  obtain ⟨entry,hentry,rfl⟩ := mem_of_mappingGet hnode
  rw [asMapping_eq_some] at hmapping
  have hvalue := distinctKeys_value h.2 entry hentry
  rw [hmapping] at hvalue
  exact hvalue.1

theorem asStr_eq_some {value : String} :
    node.asStr = some value ↔ node = .value (.string value) := by
  cases node with
  | value scalar => cases scalar <;> simp [Yaml.asStr]
  | _ => simp [Yaml.asStr]

variable {site : Site}

theorem mem_jobSites {job : Mapping} (h : site ∈ jobSites jobId job) :
    site.jobId = jobId ∧ site.job = job ∧ ∃ node,
      (((mappingGet job "steps").bind Yaml.asVec).getD [])[site.index]? = some node ∧
        node.asMapping = some site.step := by
  obtain ⟨⟨node,index⟩,hmem,hmap⟩ := List.mem_filterMap.1 h
  obtain ⟨step,hstep,rfl⟩ := Option.map_eq_some_iff.1 hmap
  exact ⟨rfl,rfl,node,List.mk_mem_zipIdx_iff_getElem?.1 hmem,hstep⟩

theorem mem_entrySites {entry : Yaml × Yaml} (h : site ∈ entrySites entry) :
    entry = (.value (.string site.jobId),.mapping site.job) ∧ site ∈ jobSites site.jobId site.job := by
  unfold entrySites at h
  split at h
  · rename_i jobId job hkey hvalue
    obtain ⟨rfl,rfl,_⟩ := mem_jobSites h
    exact ⟨Prod.ext (asStr_eq_some.1 hkey) (asMapping_eq_some.1 hvalue),h⟩
  · simp at h

theorem site_eq (hkeys : DistinctKeys (.mapping root)) {site' : Site} (hsite : site ∈ sites root)
    (hsite' : site' ∈ sites root) (hid : site.id = site'.id) : site = site' := by
  obtain ⟨hjobId,hindex⟩ := stepId_injective hid
  obtain ⟨entry,hentry,hmem⟩ := List.mem_flatMap.1 hsite
  obtain ⟨entry',hentry',hmem'⟩ := List.mem_flatMap.1 hsite'
  cases hjobs : submapping root "jobs" with
  | none => simp [hjobs] at hentry
  | some jobs =>
    rw [hjobs] at hentry hentry'
    obtain ⟨rfl,hstep⟩ := mem_entrySites hmem
    obtain ⟨rfl,hstep'⟩ := mem_entrySites hmem'
    have hentries := List.inj_on_of_nodup_map (jobs_nodup hkeys hjobs) hentry hentry'
      (by rw [hjobId])
    have hjob : site.job = site'.job := by simpa using congrArg Prod.snd hentries
    obtain ⟨_,_,node,hnode,hmapping⟩ := mem_jobSites hstep
    obtain ⟨_,_,node',hnode',hmapping'⟩ := mem_jobSites hstep'
    rw [hjob,hindex,hnode',Option.some.injEq] at hnode
    rw [← hnode,hmapping',Option.some.injEq] at hmapping
    rcases site with ⟨jobId,index,job,step⟩
    rcases site' with ⟨jobId',index',job',step'⟩
    simp only at hjobId hindex hjob hmapping
    rw [hjobId,hindex,hjob,hmapping]

theorem jobSites_pairwise (jobId : String) (job : Mapping) :
    (jobSites jobId job).Pairwise fun a b => a.id ≠ b.id := by
  have hindices : ((((mappingGet job "steps").bind Yaml.asVec).getD []).zipIdx.map Prod.snd).Nodup := by
    rw [List.zipIdx_map_snd]
    exact List.nodup_range' 1
  refine List.pairwise_filterMap.2 ((List.pairwise_map.1 hindices).imp ?_)
  intro step step' hindex site hsite site' hsite' hid
  obtain ⟨_,_,rfl⟩ := Option.map_eq_some_iff.1 hsite
  obtain ⟨_,_,rfl⟩ := Option.map_eq_some_iff.1 hsite'
  exact hindex (stepId_injective hid).2

theorem sites_pairwise (hkeys : DistinctKeys (.mapping root)) :
    (sites root).Pairwise fun a b => a.id ≠ b.id := by
  unfold sites
  cases hjobs : submapping root "jobs" with
  | none => simp
  | some jobs =>
    refine List.pairwise_flatMap.2 ⟨?_,?_⟩
    · intro entry _
      unfold entrySites
      split
      · exact jobSites_pairwise _ _
      · exact .nil
    · refine (List.pairwise_map.1 (jobs_nodup hkeys hjobs)).imp ?_
      intro entry entry' hne site hsite site' hsite' hid
      obtain ⟨rfl,_⟩ := mem_entrySites hsite
      obtain ⟨rfl,_⟩ := mem_entrySites hsite'
      exact hne (by rw [(stepId_injective hid).1])

theorem mem_checks {check : ProposedCheckV1} :
    check ∈ site.checks ↔ site.Supported ∧ check = site.check := by
  unfold Site.checks
  split <;> simp_all

theorem sorted_ids {checks : List ProposedCheckV1} (h : checks.Pairwise fun a b => a.id ≠ b.id) :
    ((checks.insertionSort (·.id ≤ ·.id)).map (·.id)).Pairwise (· < ·) := by
  have : Std.Total fun a b : ProposedCheckV1 => a.id ≤ b.id := ⟨fun a b => le_total a.id b.id⟩
  have : IsTrans ProposedCheckV1 fun a b => a.id ≤ b.id := ⟨fun _ _ _ => le_trans⟩
  have hle := List.pairwise_insertionSort (fun a b : ProposedCheckV1 => a.id ≤ b.id) checks
  have hperm := List.perm_insertionSort (fun a b : ProposedCheckV1 => a.id ≤ b.id) checks
  have hne := (hperm.pairwise_iff fun hne => Ne.symm hne).2 h
  rw [List.pairwise_map]
  exact (hle.and hne).imp fun hboth => lt_of_le_of_ne hboth.1 hboth.2

def defaultNode (job : Mapping) (key : String) : Option Yaml :=
  (runMapping job).bind fun run => mappingGet run key

namespace Site

/-- The step's shell if that key is present, otherwise the job default's. -/
def expectedShell (site : Site) : Option String :=
  match mappingGet site.step "shell" with
  | some value => value.asStr
  | none => (defaultNode site.job "shell").bind Yaml.asStr

/-- The step's working directory, otherwise the job default's, otherwise the root. -/
def expectedWorkingDirectory (site : Site) : Option String :=
  match mappingGet site.step "working-directory",defaultNode site.job "working-directory" with
  | some value,_ => value.asStr
  | none,some value => value.asStr
  | none,none => some "."

/-- The check says what the run step says, with no expression in it. -/
structure Describes (site : Site) (check : ProposedCheckV1) : Prop where
  id : check.id = site.id
  sourcePath : check.sourcePath = site.path
  run : mappingGet site.step "uses" = none
  command : site.command = some check.command
  shell : site.expectedShell = some check.shell
  workingDirectory : site.expectedWorkingDirectory = some check.workingDirectory
  literal : containsExpression check.command = false ∧ containsExpression check.shell = false ∧
    containsExpression check.workingDirectory = false

/-- The key is absent from the step or a string there. -/
def LiteralAt (site : Site) (key : String) : Prop :=
  ∀ value, mappingGet site.step key = some value → value.asStr ≠ none

/-- The default working directory is a string where it is looked up. -/
def LiteralDefault (site : Site) : Prop :=
  mappingGet site.step "working-directory" = none →
    ∀ value, defaultNode site.job "working-directory" = some value → value.asStr ≠ none

end Site

/-- The proposed checks mean what the workflow says. -/
structure ChecksMean (root : Mapping) (report : GithubActionsCompatibilityReportV1) : Prop where
  traced : ∀ check ∈ report.proposedChecks, ∃! site, site ∈ sites root ∧ site.Describes check
  ordered : (report.proposedChecks.map (·.id)).Pairwise (· < ·)
  literal : ∀ site ∈ sites root,
    ¬ (site.LiteralAt "shell" ∧ site.LiteralAt "working-directory") →
      ∀ check ∈ report.proposedChecks, check.id ≠ site.id

theorem shell_eq (site : Site) (h : site.LiteralAt "shell") : site.shell = site.expectedShell := by
  unfold Site.shell Site.expectedShell resolveShell jobDefaults runDefault defaultNode
  cases hstep : mappingGet site.step "shell" with
  | none => simp [Option.bind_assoc]
  | some value =>
    cases htext : value.asStr with
    | none => exact absurd htext (h value hstep)
    | some text => simp [htext]

theorem workingDirectory_eq (site : Site) (h : site.LiteralAt "working-directory")
    (hdefault : site.LiteralDefault) :
    site.expectedWorkingDirectory = some site.workingDirectory := by
  unfold Site.workingDirectory Site.expectedWorkingDirectory resolveWorkingDirectory jobDefaults
    runDefault
  have hbind : (runMapping site.job).bind (fun run => (mappingGet run "working-directory").bind
      Yaml.asStr) = (defaultNode site.job "working-directory").bind Yaml.asStr := by
    simp [defaultNode,Option.bind_assoc]
  rw [hbind]
  cases hstep : mappingGet site.step "working-directory" with
  | none =>
    cases hnode : defaultNode site.job "working-directory" with
    | none => simp
    | some value =>
      cases htext : value.asStr with
      | none => exact absurd htext (hdefault hstep value hnode)
      | some text => simp [htext]
  | some value =>
    cases htext : value.asStr with
    | none => exact absurd htext (h value hstep)
    | some text => simp [htext]

theorem describes_check (hsupported : site.Supported) (hshell : site.LiteralAt "shell")
    (hdirectory : site.LiteralAt "working-directory") (hdefault : site.LiteralDefault) :
    site.Describes site.check := by
  obtain ⟨_,huses,hcommand,_,hknown,hworking⟩ := hsupported
  obtain ⟨command,hcommand,hliteral⟩ := (Option.any_eq_true _ _).1 hcommand
  obtain ⟨shell,hresolved,hknown⟩ := (Option.any_eq_true _ _).1 hknown
  have hnoExpression : containsExpression shell = false := by
    rcases (by simpa [isKnownShell] using hknown : shell = "sh" ∨ shell = "bash") with rfl | rfl <;>
      decide
  unfold isWorkingDirectory at hworking
  refine ⟨rfl,rfl,by simpa using huses,by simp [Site.check,hcommand],?_,?_,?_,?_,?_⟩
  · rw [← shell_eq site hshell]
    simp [Site.check,hresolved]
  · exact workingDirectory_eq site hdirectory hdefault
  · simpa [Site.check,hcommand] using hliteral
  · simpa [Site.check,hresolved] using hnoExpression
  · simp only [Bool.and_eq_true,Bool.not_eq_true'] at hworking
    exact hworking.1

theorem literal_of_describes {check : ProposedCheckV1} (h : site.Describes check) :
    site.LiteralAt "shell" ∧ site.LiteralAt "working-directory" ∧ site.LiteralDefault := by
  refine ⟨?_,?_,?_⟩
  · intro value hvalue htext
    have hshell := h.shell
    simp [Site.expectedShell,hvalue,htext] at hshell
  · intro value hvalue htext
    have hworking := h.workingDirectory
    simp [Site.expectedWorkingDirectory,hvalue,htext] at hworking
  · intro hstep value hvalue htext
    have hworking := h.workingDirectory
    simp [Site.expectedWorkingDirectory,hstep,hvalue,htext] at hworking

/-- The proposed checks mean what the workflow says exactly when the supported run steps have their
shell and working directory as literal strings. -/
theorem checks_mean_iff (yaml : YamlCrate) (input : String) (hyaml : LoadsMaps yaml input)
    (report : GithubActionsCompatibilityReportV1) (h : analyzeWorkflow yaml input = .ok report) :
    ∃ root, yaml.load input = .ok [.mapping root] ∧
      (ChecksMean root report ↔ ∀ site ∈ sites root, site.Supported →
        site.LiteralAt "shell" ∧ site.LiteralAt "working-directory" ∧ site.LiteralDefault) := by
  obtain ⟨root,hload,hchecks⟩ := proposedChecks_eq h
  have hkeys := hyaml _ hload _ (List.mem_singleton_self _)
  have hmem : ∀ check, check ∈ report.proposedChecks ↔
      ∃ site ∈ sites root, site.Supported ∧ check = site.check := by
    intro check
    simp only [hchecks,List.mem_insertionSort,List.mem_flatMap,mem_checks]
  refine ⟨root,hload,?_,?_⟩
  · intro hmean site hsite hsupported
    obtain ⟨site',⟨hsite',hdescribes⟩,_⟩ :=
      hmean.traced site.check ((hmem _).2 ⟨site,hsite,hsupported,rfl⟩)
    cases site_eq hkeys hsite hsite' hdescribes.id
    exact literal_of_describes hdescribes
  · intro hliteral
    refine ⟨?_,?_,?_⟩
    · intro check hcheck
      obtain ⟨site,hsite,hsupported,rfl⟩ := (hmem check).1 hcheck
      obtain ⟨hshell,hdirectory,hdefault⟩ := hliteral site hsite hsupported
      refine ⟨site,⟨hsite,describes_check hsupported hshell hdirectory hdefault⟩,?_⟩
      rintro site' ⟨hsite',hdescribes⟩
      exact site_eq hkeys hsite' hsite hdescribes.id.symm
    · rw [hchecks]
      refine sorted_ids (List.pairwise_flatMap.2 ⟨?_,?_⟩)
      · intro site _
        unfold Site.checks
        split <;> simp
      · refine (sites_pairwise hkeys).imp ?_
        intro site site' hne check hcheck check' hcheck'
        obtain ⟨_,rfl⟩ := mem_checks.1 hcheck
        obtain ⟨_,rfl⟩ := mem_checks.1 hcheck'
        exact hne
    · intro site hsite hnonliteral check hcheck hid
      obtain ⟨site',hsite',hsupported,rfl⟩ := (hmem check).1 hcheck
      cases site_eq hkeys hsite' hsite hid
      obtain ⟨hshell,hdirectory,_⟩ := hliteral _ hsite hsupported
      exact hnonliteral ⟨hshell,hdirectory⟩

def numberedStep : Mapping :=
  [(text "run",text "make test"),(text "shell",text "bash"),
    (text "working-directory",.value (.integer 2024))]

def numberedJob : Mapping :=
  [(text "runs-on",text "ubuntu-latest"),(text "steps",.sequence [.mapping numberedStep])]

def numberedDirectory : Mapping :=
  [(text "on",text "push"),(text "jobs",.mapping [(text "test",.mapping numberedJob)])]

def numberedDirectoryText : String :=
  "on: push\njobs:\n  test:\n    runs-on: ubuntu-latest\n    steps:\n      - run: make test\n        shell: bash\n        working-directory: 2024\n"

def numberedDirectoryYaml : YamlCrate where
  events _ := (singleStepEvents
    ["run","make test","shell","bash","working-directory","2024"]).map .ok
  load _ := .ok [.mapping numberedDirectory]

theorem numberedDirectory_loadsMaps : LoadsMaps numberedDirectoryYaml numberedDirectoryText := by
  intro documents hload document hmem
  cases Except.ok.inj hload
  rw [List.mem_singleton.1 hmem]
  simp [numberedDirectory,numberedJob,numberedStep,text,DistinctKeys,DistinctKeysItems,
    DistinctKeysEntries]

theorem numberedDirectory_report :
    ∃ report, analyzeWorkflow numberedDirectoryYaml numberedDirectoryText = .ok report ∧
      report.proposedChecks =
        [⟨"test-step-001","jobs.test.steps[0]","bash","make test","."⟩] := by
  have hchecks : (analyzeWorkflow numberedDirectoryYaml numberedDirectoryText).toOption.map
      (·.proposedChecks) =
        some [⟨"test-step-001","jobs.test.steps[0]","bash","make test","."⟩] := by decide +kernel
  cases hreport : analyzeWorkflow numberedDirectoryYaml numberedDirectoryText with
  | error e => simp [hreport,Except.toOption] at hchecks
  | ok report => exact ⟨report,rfl,by simpa [hreport,Except.toOption] using hchecks⟩

theorem checks_mean_iff_numbered :
    LoadsMaps numberedDirectoryYaml numberedDirectoryText ∧
      ∃ report, analyzeWorkflow numberedDirectoryYaml numberedDirectoryText = .ok report ∧
        ∃ root, numberedDirectoryYaml.load numberedDirectoryText = .ok [.mapping root] ∧
          (ChecksMean root report ↔ ∀ site ∈ sites root, site.Supported →
            site.LiteralAt "shell" ∧ site.LiteralAt "working-directory" ∧
              site.LiteralDefault) := by
  obtain ⟨report,h,_⟩ := numberedDirectory_report
  exact ⟨numberedDirectory_loadsMaps,report,h,
    checks_mean_iff _ _ numberedDirectory_loadsMaps report h⟩

/-- The number is passed over and the check proposed for the root. -/
theorem numbered_directory_proposed :
    LoadsMaps numberedDirectoryYaml numberedDirectoryText ∧
      numberedDirectoryYaml.load numberedDirectoryText = .ok [.mapping numberedDirectory] ∧
      ∃ report, analyzeWorkflow numberedDirectoryYaml numberedDirectoryText = .ok report ∧
        ¬ ChecksMean numberedDirectory report := by
  obtain ⟨report,h,hchecks⟩ := numberedDirectory_report
  refine ⟨numberedDirectory_loadsMaps,rfl,report,h,fun hmean => ?_⟩
  have hsite : (⟨"test",0,numberedJob,numberedStep⟩ : Site) ∈ sites numberedDirectory :=
    List.mem_singleton_self _
  refine hmean.literal _ hsite ?_ ⟨"test-step-001","jobs.test.steps[0]","bash","make test","."⟩
    (by simp [hchecks]) (by decide)
  exact fun hliteral => hliteral.2 (.value (.integer 2024)) rfl rfl

end GithubActions
end CommitCiPreflight
