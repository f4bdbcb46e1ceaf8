import CommitCiPreflight.GithubActions

/-! Which surfaces of a workflow block its migration. Every inspection is described by the surfaces
that make it push an unsupported finding; the surfaces it never looks at are named beside them. -/
namespace CommitCiPreflight
namespace GithubActions

open Inspection

def Inspection.Blocks (inspection : Inspection) : Prop :=
  ∃ finding ∈ inspection.findings, finding.disposition = .unsupported

@[simp] theorem blocks_empty : ¬ Blocks empty := by simp [Blocks,empty]

@[simp] theorem blocks_append (a b : Inspection) : (a++b).Blocks ↔ a.Blocks ∨ b.Blocks := by
  change (∃ finding ∈ a.findings++b.findings, _) ↔ _
  simp only [List.mem_append,or_and_right,exists_or,Blocks]

@[simp] theorem blocks_record (path feature : String) (disposition : FeatureDisposition)
    (detail : String) : (record path feature disposition detail).Blocks ↔
      disposition = .unsupported := by
  simp [Blocks,record]

@[simp] theorem blocks_recordIf (condition : Prop) [Decidable condition] (path feature : String)
    (disposition : FeatureDisposition) (detail : String) :
    (recordIf condition path feature disposition detail).Blocks ↔
      condition ∧ disposition = .unsupported := by
  by_cases h : condition
  · simp [recordIf,h,Blocks]
  · simp [recordIf,h]

@[simp] theorem blocks_names (checks : List ProposedCheckV1) (names : List String) :
    ¬ Blocks ⟨[],checks,names⟩ := by simp [Blocks]

theorem blocks_concat (parts : List Inspection) :
    (concat parts).Blocks ↔ ∃ part ∈ parts, part.Blocks := by
  induction parts with
  | nil => simp [concat]
  | cons part parts ih =>
    change (part++concat parts).Blocks ↔ _
    rw [blocks_append,ih,List.exists_mem_cons_iff]

theorem blocks_concat_map {α : Type} (inspect : α → Inspection) (items : List α) :
    (concat (items.map inspect)).Blocks ↔ ∃ item ∈ items, (inspect item).Blocks := by
  simp [blocks_concat]

theorem inspectEach_blocks {α : Type} {inspect : α → Inspect} {items : List α} {P : α → Prop}
    {inspection : Inspection} (h : inspectEach inspect items = .ok inspection)
    (hP : ∀ item ∈ items, ∀ part, inspect item = .ok part → (part.Blocks ↔ P item)) :
    inspection.Blocks ↔ ∃ item ∈ items, P item := by
  obtain ⟨parts,hparts,heq⟩ := except_bind_eq_ok.1 h
  cases Except.ok.inj heq
  have hpart := mapM_eq_ok_iff_forall₂.1 hparts
  rw [blocks_concat]
  clear h heq hparts
  induction hpart with
  | nil => simp
  | cons hitem _ ih =>
    rw [List.exists_mem_cons_iff,List.exists_mem_cons_iff]
    exact or_congr (hP _ List.mem_cons_self _ hitem)
      (ih fun item hmem => hP item (List.mem_cons_of_mem _ hmem))

theorem orStructure_eq_ok {α : Type} {message : String} {value : Option α} {a : α} :
    orStructure message value = .ok a ↔ value = some a := by
  cases value <;> simp [orStructure,structureError]

def KnownKey (known : List String) (key : Yaml) : Prop := ∃ name ∈ known, key.asStr = some name

def UnknownKeyIn (known : List String) (mapping : Mapping) : Prop :=
  ∃ entry ∈ mapping, ¬ KnownKey known entry.1

theorem unknownKey_blocks (path : String) (known : List String) (key : Yaml) :
    (unknownKey path known key).Blocks ↔ ¬ KnownKey known key := by
  unfold unknownKey KnownKey
  cases hname : key.asStr <;> simp

theorem reportUnknownKeys_blocks (mapping : Mapping) (path : String) (known : List String) :
    (reportUnknownKeys mapping path known).Blocks ↔ UnknownKeyIn known mapping := by
  simp [reportUnknownKeys,blocks_concat_map,unknownKey_blocks,UnknownKeyIn]

def submapping (mapping : Mapping) (key : String) : Option Mapping :=
  (mappingGet mapping key).bind Yaml.asMapping

def HasExpression (value : Yaml) : Prop := value.asStr.any containsExpression = true

/-- An `env` mapping with an expression among its values. -/
def ExpressionInEnvironment (mapping : Mapping) : Prop :=
  ∃ entries, submapping mapping "env" = some entries ∧
    ∃ entry ∈ entries, HasExpression entry.2

/-- A variable that is not imported: its name is not portable or its value an expression. -/
def VariableBlocked (entry : Yaml × Yaml) : Prop :=
  (∃ name, entry.1.asStr = some name ∧ isEnvironmentName name = false) ∨ HasExpression entry.2

def EnvironmentBlocked (mapping : Mapping) : Prop :=
  ∃ entries, submapping mapping "env" = some entries ∧
    ∃ entry ∈ entries, VariableBlocked entry

theorem environmentBlocked_of_expression {mapping : Mapping}
    (h : ExpressionInEnvironment mapping) : EnvironmentBlocked mapping := by
  obtain ⟨entries,henv,entry,hentry,hexpression⟩ := h
  exact ⟨entries,henv,entry,hentry,.inr hexpression⟩

variable {path : String} {part : Inspection} {step : Mapping} {defaults : RunDefaults}
  {jobId : String} {node : Yaml} {root : Mapping}

theorem inspectVariable_blocks {entry : Yaml × Yaml} (h : inspectVariable path entry = .ok part) :
    part.Blocks ↔ VariableBlocked entry := by
  obtain ⟨name,hname,hrest⟩ := except_bind_eq_ok.1 h
  rw [stringKey,orStructure_eq_ok] at hname
  unfold VariableBlocked HasExpression
  cases hvalid : isEnvironmentName name with
  | false =>
    simp only [hvalid] at hrest
    cases Except.ok.inj hrest
    simp [hname,hvalid]
  | true =>
    simp only [hvalid] at hrest
    cases Except.ok.inj hrest
    by_cases hexpression : entry.2.asStr.any containsExpression = true
    · simp [hexpression]
    · simp [hexpression,hname,hvalid]

theorem inspectOptionalEnvironment_blocks {mapping : Mapping}
    (h : inspectOptionalEnvironment mapping path = .ok part) :
    part.Blocks ↔ EnvironmentBlocked mapping := by
  unfold inspectOptionalEnvironment at h
  unfold EnvironmentBlocked submapping
  cases henv : mappingGet mapping "env" with
  | none =>
    simp only [henv] at h
    cases Except.ok.inj h
    simp
  | some env =>
    simp only [henv] at h
    obtain ⟨entries,hentries,heach⟩ := except_bind_eq_ok.1 h
    rw [orStructure_eq_ok] at hentries
    rw [inspectEach_blocks heach fun _ _ _ => inspectVariable_blocks]
    simp [hentries]

def HasBehavior (step : Mapping) : Prop := ∃ key ∈ stepBehaviors, (mappingGet step key).isSome

def ReferenceBlocked (reference : String) : Prop :=
  containsExpression reference = true ∨
    Text.stripPrefix reference "actions/checkout@" = none ∧ isSetupAction reference = false

def ActionBlocked (action : Yaml) (inputs : Option Yaml) : Prop :=
  ∀ reference, action.asStr = some reference →
    ReferenceBlocked reference ∨ ∃ value, inputs = some value ∧ nodeContainsExpression value = true

def RunBlocked (command : Yaml) (step : Mapping) (defaults : RunDefaults) : Prop :=
  ∀ text, command.asStr = some text →
    containsExpression text = true ∨ HasBehavior step ∨
      ∃ shell, resolveShell step defaults = some shell ∧
        (isKnownShell shell = false ∨
          isWorkingDirectory (resolveWorkingDirectory step defaults) = false ∨
          EnvironmentBlocked step)

/-- A step has exactly one of `uses` and `run`, and that one is supported. -/
def ShapeBlocked (step : Mapping) (defaults : RunDefaults) : Prop :=
  match mappingGet step "uses",mappingGet step "run" with
  | some action,none => ActionBlocked action (mappingGet step "with")
  | none,some command => RunBlocked command step defaults
  | _,_ => True

def StepBlocked (defaults : RunDefaults) (step : Mapping) : Prop :=
  UnknownKeyIn stepKeys step ∨ ShapeBlocked step defaults

theorem inspectReference_blocks (actionPath reference : String) :
    (inspectReference actionPath reference).Blocks ↔ ReferenceBlocked reference := by
  unfold inspectReference ReferenceBlocked
  by_cases hexpression : containsExpression reference = true
  · simp [hexpression]
  · rw [if_neg hexpression]
    cases hcheckout : Text.stripPrefix reference "actions/checkout@" with
    | some revision => by_cases hsha : isFullCommitSha revision = true <;> simp [hsha,hexpression]
    | none => by_cases hsetup : isSetupAction reference = true <;> simp [hsetup,hexpression]

theorem inspectInputs_blocks (path : String) (inputs : Option Yaml) :
    (inspectInputs path inputs).Blocks ↔
      ∃ value, inputs = some value ∧ nodeContainsExpression value = true := by
  cases inputs <;> simp [inspectInputs]

theorem inspectActionStep_blocks (path : String) (action : Yaml) (inputs : Option Yaml) :
    (inspectActionStep path action inputs).Blocks ↔ ActionBlocked action inputs := by
  unfold inspectActionStep ActionBlocked
  cases action.asStr with
  | none => simp
  | some reference => simp [inspectReference_blocks,inspectInputs_blocks]

theorem behaviors_ne_nil (step : Mapping) :
    stepBehaviors.filter (fun key => (mappingGet step key).isSome) ≠ [] ↔ HasBehavior step := by
  simp [HasBehavior,List.filter_eq_nil_iff,Option.isSome_iff_ne_none]

theorem behaviors_blocks (step : Mapping) (path : String) :
    (concat ((stepBehaviors.filter fun key => (mappingGet step key).isSome).map fun key =>
      record (path++"."++key) key .unsupported
        "This step behavior is outside compatibility contract v1.")).Blocks ↔
      HasBehavior step := by
  simp [blocks_concat_map,HasBehavior]

theorem inspectRunStep_blocks {index : ℕ} {command : Yaml}
    (h : inspectRunStep jobId index path command step defaults = .ok part) :
    part.Blocks ↔ RunBlocked command step defaults := by
  unfold inspectRunStep at h
  unfold RunBlocked
  cases hcommand : command.asStr with
  | none =>
    simp only [hcommand] at h
    cases Except.ok.inj h
    simp
  | some text =>
    simp only [hcommand] at h
    cases hshell : resolveShell step defaults with
    | none =>
      simp only [hshell] at h
      cases Except.ok.inj h
      simp [behaviors_blocks]
    | some shell =>
      simp only [hshell] at h
      obtain ⟨environment,henvironment,hrest⟩ := except_bind_eq_ok.1 h
      cases Except.ok.inj hrest
      have hproposal : ∀ (condition : Prop) [Decidable condition] (checks : List ProposedCheckV1)
          (feature detail : String), ¬ Blocks (if condition then
            ⟨[],checks,[]⟩++record (path++".run") feature .translated detail else empty) := by
        intro condition _ checks feature detail
        split <;> simp
      simp only [blocks_append,blocks_recordIf,behaviors_blocks,hproposal,
        inspectOptionalEnvironment_blocks henvironment,or_false,and_true]
      simp [or_assoc]

theorem inspectStep_blocks {index : ℕ} (h : inspectStep jobId index node defaults = .ok part) :
    part.Blocks ↔ ∃ step, node.asMapping = some step ∧ StepBlocked defaults step := by
  obtain ⟨step,hstep,hrest⟩ := except_bind_eq_ok.1 h
  rw [orStructure_eq_ok] at hstep
  simp only [hstep,Option.some.injEq,exists_eq_left',StepBlocked,ShapeBlocked]
  cases huses : mappingGet step "uses" with
  | some action =>
    cases hrun : mappingGet step "run" with
    | some command =>
      simp only [huses,hrun] at hrest
      cases Except.ok.inj hrest
      simp
    | none =>
      simp only [huses,hrun] at hrest
      cases Except.ok.inj hrest
      rw [blocks_append,reportUnknownKeys_blocks,inspectActionStep_blocks]
  | none =>
    cases hrun : mappingGet step "run" with
    | some command =>
      simp only [huses,hrun] at hrest
      obtain ⟨run,hinspect,hrest⟩ := except_bind_eq_ok.1 hrest
      cases Except.ok.inj hrest
      rw [blocks_append,reportUnknownKeys_blocks,inspectRunStep_blocks hinspect]
    | none =>
      simp only [huses,hrun] at hrest
      cases Except.ok.inj hrest
      simp

def runMapping (job : Mapping) : Option Mapping :=
  (submapping job "defaults").bind fun defaults => submapping defaults "run"

def runDefault (job : Mapping) (key : String) : Option String :=
  (runMapping job).bind fun run => (mappingGet run key).bind Yaml.asStr

def jobDefaults (job : Mapping) : RunDefaults :=
  ⟨runDefault job "shell",runDefault job "working-directory"⟩

def runDefaultKeys : List String := ["shell","working-directory"]

def DefaultsBlocked (job : Mapping) : Prop :=
  ∃ run, runMapping job = some run ∧ UnknownKeyIn runDefaultKeys run

theorem unknownRunDefault_blocks (jobPath : String) (key : Yaml) :
    (unknownRunDefault jobPath key).Blocks ↔ ¬ KnownKey runDefaultKeys key := by
  unfold unknownRunDefault KnownKey
  cases key.asStr <;> simp [runDefaultKeys]

theorem runDefaults_eq_ok {job : Mapping}
    (h : runDefaults (mappingGet job "defaults") path = .ok (defaults,part)) :
    defaults = jobDefaults job ∧ (part.Blocks ↔ DefaultsBlocked job) := by
  unfold jobDefaults runDefault DefaultsBlocked runMapping submapping
  cases hnode : mappingGet job "defaults" with
  | none =>
    rw [hnode] at h
    cases Except.ok.inj h
    simp [RunDefaults.default]
  | some node =>
    rw [hnode] at h
    obtain ⟨mapping,hmapping,hrest⟩ := except_bind_eq_ok.1 h
    rw [orStructure_eq_ok] at hmapping
    cases hrun : mappingGet mapping "run" with
    | none =>
      simp only [hrun] at hrest
      cases Except.ok.inj hrest
      simp [RunDefaults.default,hmapping,hrun]
    | some node =>
      simp only [hrun] at hrest
      obtain ⟨run,hmap,hrest⟩ := except_bind_eq_ok.1 hrest
      rw [orStructure_eq_ok] at hmap
      cases Except.ok.inj hrest
      simp [hmapping,hrun,hmap,blocks_concat_map,unknownRunDefault_blocks,UnknownKeyIn]

def RunnerBlocked (job : Mapping) : Prop :=
  ∀ label, (mappingGet job "runs-on").bind Yaml.asStr = some label →
    containsExpression label = true ∨ Text.stripPrefix label "ubuntu-" = none

def stepsOf (job : Mapping) : List Mapping :=
  (((mappingGet job "steps").bind Yaml.asVec).getD []).filterMap Yaml.asMapping

def JobBlocked (job : Mapping) : Prop :=
  UnknownKeyIn jobKeys job ∨ (mappingGet job "uses").isSome = true ∨ RunnerBlocked job ∨
    (∃ key ∈ jobBehaviors, (mappingGet job key).isSome = true) ∨
    (∃ key ∈ reviewedJobKeys, ∃ value, mappingGet job key = some value ∧
      nodeContainsExpression value = true) ∨
    (mappingGet job "secrets").isSome = true ∨ EnvironmentBlocked job ∨ DefaultsBlocked job ∨
    ∃ step ∈ stepsOf job, StepBlocked (jobDefaults job) step

theorem inspectRunner_blocks (job : Mapping) (path : String) :
    (inspectRunner job path).Blocks ↔ RunnerBlocked job := by
  unfold inspectRunner RunnerBlocked
  cases (mappingGet job "runs-on").bind Yaml.asStr with
  | none => simp
  | some label =>
    by_cases hexpression : containsExpression label = true
    · simp [hexpression]
    · cases hlinux : Text.stripPrefix label "ubuntu-" <;> simp [hexpression,hlinux]

theorem inspectReviewedKey_blocks (job : Mapping) (path key : String) :
    (inspectReviewedKey job path key).Blocks ↔
      ∃ value, mappingGet job key = some value ∧ nodeContainsExpression value = true := by
  unfold inspectReviewedKey
  cases mappingGet job key <;> simp

theorem inspectJob_blocks (h : inspectJob jobId node = .ok part) :
    part.Blocks ↔ ∃ job, node.asMapping = some job ∧ JobBlocked job := by
  obtain ⟨job,hjob,hrest⟩ := except_bind_eq_ok.1 h
  rw [orStructure_eq_ok] at hjob
  simp only [hjob,Option.some.injEq,exists_eq_left']
  by_cases huses : (mappingGet job "uses").isSome = true
  · rw [if_pos huses] at hrest
    cases Except.ok.inj hrest
    simp [inspectReusable,JobBlocked,huses]
  · rw [if_neg huses] at hrest
    obtain ⟨environment,henvironment,hrest⟩ := except_bind_eq_ok.1 hrest
    obtain ⟨⟨defaults,unknownDefaults⟩,hdefaults,hrest⟩ := except_bind_eq_ok.1 hrest
    obtain ⟨steps,hsteps,hrest⟩ := except_bind_eq_ok.1 hrest
    rw [orStructure_eq_ok] at hsteps
    obtain ⟨rfl,hunknown⟩ := runDefaults_eq_ok hdefaults
    split at hrest
    · cases hrest
    · obtain ⟨inspected,hinspected,hrest⟩ := except_bind_eq_ok.1 hrest
      cases Except.ok.inj hrest
      have hstep : inspected.Blocks ↔ ∃ step ∈ stepsOf job, StepBlocked (jobDefaults job) step := by
        rw [inspectEach_blocks hinspected fun _ _ _ => inspectStep_blocks]
        simp only [stepsOf,hsteps,Option.getD_some,List.mem_filterMap]
        constructor
        · rintro ⟨⟨node,index⟩,hmem,step,hnode,hblocked⟩
          exact ⟨step,⟨node,List.fst_mem_of_mem_zipIdx hmem,hnode⟩,hblocked⟩
        · rintro ⟨step,⟨node,hmem,hnode⟩,hblocked⟩
          obtain ⟨index,hindex⟩ := List.getElem?_of_mem hmem
          exact ⟨(node,index),List.mk_mem_zipIdx_iff_getElem?.2 hindex,step,hnode,hblocked⟩
      simp only [blocks_append,reportUnknownKeys_blocks,inspectRunner_blocks,
        blocks_concat_map,blocks_recordIf,inspectReviewedKey_blocks,inspectSecrets,and_true,
        inspectOptionalEnvironment_blocks henvironment,hunknown,hstep,JobBlocked,huses,
        Bool.false_eq_true,false_or,or_assoc]

def jobsOf (root : Mapping) : List Mapping :=
  ((submapping root "jobs").getD []).filterMap fun entry => entry.2.asMapping

def NameBlocked (root : Mapping) : Prop :=
  ∃ value, mappingGet root "name" = some value ∧ value.asStr = none

/-- Some surface of the workflow is reported as unsupported. -/
def WorkflowBlocked (root : Mapping) : Prop :=
  NameBlocked root ∨ UnknownKeyIn workflowKeys root ∨
    (mappingGet root "permissions").isSome = true ∨ EnvironmentBlocked root ∨
    ∃ job ∈ jobsOf root, JobBlocked job

theorem inspectName_blocks (root : Mapping) :
    (inspectName root).2.Blocks ↔ NameBlocked root := by
  unfold inspectName NameBlocked
  cases mappingGet root "name" with
  | none => simp
  | some value => cases hname : value.asStr <;> simp [hname]

theorem inspectJobEntry_blocks {entry : Yaml × Yaml} (h : inspectJobEntry entry = .ok part) :
    part.Blocks ↔ ∃ job, entry.2.asMapping = some job ∧ JobBlocked job := by
  obtain ⟨_,_,hjob⟩ := except_bind_eq_ok.1 h
  exact inspectJob_blocks hjob

theorem inspectTopLevel_blocks {inspection : Inspection}
    (h : inspectTopLevel root = .ok inspection) :
    inspection.Blocks ↔ UnknownKeyIn workflowKeys root ∨
      (mappingGet root "permissions").isSome = true ∨ EnvironmentBlocked root ∨
      ∃ job ∈ jobsOf root, JobBlocked job := by
  obtain ⟨environment,henvironment,hrest⟩ := except_bind_eq_ok.1 h
  obtain ⟨jobs,hjobs,hrest⟩ := except_bind_eq_ok.1 hrest
  rw [orStructure_eq_ok] at hjobs
  split at hrest
  · cases hrest
  · obtain ⟨inspected,hinspected,hrest⟩ := except_bind_eq_ok.1 hrest
    cases Except.ok.inj hrest
    have hjob : inspected.Blocks ↔ ∃ job ∈ jobsOf root, JobBlocked job := by
      rw [inspectEach_blocks hinspected fun _ _ _ => inspectJobEntry_blocks]
      simp only [jobsOf,submapping,hjobs,Option.getD_some,List.mem_filterMap]
      constructor
      · rintro ⟨entry,hmem,job,hentry,hblocked⟩
        exact ⟨job,⟨entry,hmem,hentry⟩,hblocked⟩
      · rintro ⟨job,⟨entry,hmem,hentry⟩,hblocked⟩
        exact ⟨entry,hmem,job,hentry,hblocked⟩
    simp [reportUnknownKeys_blocks,inspectOptionalEnvironment_blocks henvironment,hjob,or_assoc]

theorem finish_blocked (workflowName : Option String) (inspection : Inspection) :
    (finish workflowName inspection).readiness = .blocked ↔ inspection.Blocks := by
  have hcount : 0 < countOf .unsupported (inspection.findings.insertionSort findingLe) ↔
      inspection.Blocks := by
    simp [countOf,List.countP_pos_iff,Blocks]
  rw [← hcount]
  simp only [finish]
  split
  · simpa
  · rename_i hunsupported
    split <;> simpa using hunsupported

theorem asMapping_eq_some {entries : Mapping} :
    node.asMapping = some entries ↔ node = .mapping entries := by
  cases node <;> simp [Yaml.asMapping]

theorem analyzeWorkflow_eq_ok {yaml : YamlCrate} {input : String}
    {report : GithubActionsCompatibilityReportV1} (h : analyzeWorkflow yaml input = .ok report) :
    ∃ root inspected, yaml.load input = .ok [.mapping root] ∧
      inspectTopLevel root = .ok inspected ∧
      report = finish (inspectName root).1 ((inspectName root).2++inspected) := by
  unfold analyzeWorkflow at h
  split at h
  · cases h
  · obtain ⟨_,_,h⟩ := except_bind_eq_ok.1 h
    split at h
    · cases h
    · rename_i document hload
      obtain ⟨root,hroot,h⟩ := except_bind_eq_ok.1 h
      obtain ⟨_,_,h⟩ := except_bind_eq_ok.1 h
      obtain ⟨inspected,hinspected,h⟩ := except_bind_eq_ok.1 h
      rw [orStructure_eq_ok,asMapping_eq_some] at hroot
      exact ⟨root,inspected,hroot ▸ hload,hinspected,(Except.ok.inj h).symm⟩
    · cases h

/-- A report is blocked exactly by the surfaces the inspections look at. -/
theorem analyzeWorkflow_blocked {yaml : YamlCrate} {input : String}
    {report : GithubActionsCompatibilityReportV1} (h : analyzeWorkflow yaml input = .ok report) :
    ∃ root, yaml.load input = .ok [.mapping root] ∧
      (report.readiness = .blocked ↔ WorkflowBlocked root) := by
  obtain ⟨root,inspected,hload,hinspected,rfl⟩ := analyzeWorkflow_eq_ok h
  refine ⟨root,hload,?_⟩
  rw [finish_blocked,blocks_append,inspectName_blocks,inspectTopLevel_blocks hinspected]
  rfl

/-- What the contract never lets pass in a step, whatever its shape. -/
def StepMustBlock (step : Mapping) : Prop :=
  HasBehavior step ∨ ExpressionInEnvironment step ∨ UnknownKeyIn stepKeys step

/-- A key of a job's `defaults` other than `run`. -/
def UnknownDefaults (job : Mapping) : Prop :=
  ∃ defaults, submapping job "defaults" = some defaults ∧ UnknownKeyIn ["run"] defaults

def JobMustBlock (job : Mapping) : Prop :=
  ExpressionInEnvironment job ∨ UnknownKeyIn jobKeys job ∨ UnknownDefaults job ∨
    DefaultsBlocked job ∨ ∃ step ∈ stepsOf job, StepMustBlock step

def MustBlock (root : Mapping) : Prop :=
  ExpressionInEnvironment root ∨ UnknownKeyIn workflowKeys root ∨
    ∃ job ∈ jobsOf root, JobMustBlock job

/-- An action step's behaviors and environment, and the environment of a run step without a shell,
are passed over. -/
def UnseenStep (defaults : RunDefaults) (step : Mapping) : Prop :=
  ((mappingGet step "uses").isSome = true ∧ mappingGet step "run" = none ∧
      (HasBehavior step ∨ ExpressionInEnvironment step)) ∨
    (mappingGet step "uses" = none ∧ (mappingGet step "run").isSome = true ∧
      resolveShell step defaults = none ∧ ExpressionInEnvironment step)

def UnseenJob (job : Mapping) : Prop :=
  UnknownDefaults job ∨ ∃ step ∈ stepsOf job, UnseenStep (jobDefaults job) step

def Unseen (root : Mapping) : Prop := ∃ job ∈ jobsOf root, UnseenJob job

theorem stepMustBlock_of_unseen (h : UnseenStep defaults step) : StepMustBlock step := by
  rcases h with ⟨_,_,hbehavior | hexpression⟩ | ⟨_,_,_,hexpression⟩
  · exact .inl hbehavior
  · exact .inr (.inl hexpression)
  · exact .inr (.inl hexpression)

theorem mustBlock_of_unseen (h : Unseen root) : MustBlock root := by
  obtain ⟨job,hjob,hdefaults | ⟨step,hstep,hunseen⟩⟩ := h
  · exact .inr (.inr ⟨job,hjob,.inr (.inr (.inl hdefaults))⟩)
  · have hmust := stepMustBlock_of_unseen hunseen
    exact .inr (.inr ⟨job,hjob,.inr (.inr (.inr (.inr ⟨step,hstep,hmust⟩)))⟩)

theorem runBlocked_of_mustBlock {command : Yaml}
    (h : HasBehavior step ∨ ExpressionInEnvironment step)
    (hshell : resolveShell step defaults = none → ¬ ExpressionInEnvironment step) :
    RunBlocked command step defaults := by
  intro text _
  rcases h with hbehavior | hexpression
  · exact .inr (.inl hbehavior)
  · cases hresolve : resolveShell step defaults with
    | none => exact absurd hexpression (hshell hresolve)
    | some shell =>
      exact .inr (.inr ⟨shell,rfl,.inr (.inr (environmentBlocked_of_expression hexpression))⟩)

theorem stepBlocked_of_mustBlock (h : StepMustBlock step) (hseen : ¬ UnseenStep defaults step) :
    StepBlocked defaults step := by
  by_cases hunknown : UnknownKeyIn stepKeys step
  · exact .inl hunknown
  · have hsurface : HasBehavior step ∨ ExpressionInEnvironment step := by
      rcases h with hbehavior | hexpression | hkey
      · exact .inl hbehavior
      · exact .inr hexpression
      · exact absurd hkey hunknown
    refine .inr ?_
    unfold ShapeBlocked
    cases huses : mappingGet step "uses" with
    | some action =>
      cases hrun : mappingGet step "run" with
      | some command => trivial
      | none => exact absurd (.inl ⟨by simp [huses],hrun,hsurface⟩) hseen
    | none =>
      cases hrun : mappingGet step "run" with
      | none => trivial
      | some command =>
        refine runBlocked_of_mustBlock hsurface fun hshell hexpression => ?_
        exact hseen (.inr ⟨huses,by simp [hrun],hshell,hexpression⟩)

theorem jobBlocked_of_mustBlock {job : Mapping} (h : JobMustBlock job) (hseen : ¬ UnseenJob job) :
    JobBlocked job := by
  unfold JobBlocked
  rcases h with hexpression | hunknown | hdefaults | hrun | ⟨step,hstep,hmust⟩
  · have henvironment := environmentBlocked_of_expression hexpression
    simp only [henvironment,true_or,or_true]
  · exact .inl hunknown
  · exact absurd (.inl hdefaults) hseen
  · simp only [hrun,true_or,or_true]
  · have hblocked := stepBlocked_of_mustBlock hmust fun hunseen => hseen (.inr ⟨step,hstep,hunseen⟩)
    have hsteps : ∃ step ∈ stepsOf job, StepBlocked (jobDefaults job) step := ⟨step,hstep,hblocked⟩
    simp only [hsteps,or_true]

theorem workflowBlocked_of_mustBlock (h : MustBlock root) (hseen : ¬ Unseen root) :
    WorkflowBlocked root := by
  rcases h with hexpression | hunknown | ⟨job,hjob,hmust⟩
  · exact .inr (.inr (.inr (.inl (environmentBlocked_of_expression hexpression))))
  · exact .inr (.inl hunknown)
  · have hblocked := jobBlocked_of_mustBlock hmust fun hunseen => hseen ⟨job,hjob,hunseen⟩
    exact .inr (.inr (.inr (.inr ⟨job,hjob,hblocked⟩)))

/-- The analysis fails closed exactly on the workflows in which a passed-over surface comes with a
surface that is reported. -/
theorem fails_closed_iff (yaml : YamlCrate) (input : String)
    (report : GithubActionsCompatibilityReportV1) (h : analyzeWorkflow yaml input = .ok report) :
    ∃ root, yaml.load input = .ok [.mapping root] ∧
      ((MustBlock root → report.readiness = .blocked) ↔ (Unseen root → WorkflowBlocked root)) := by
  obtain ⟨root,hload,hblocked⟩ := analyzeWorkflow_blocked h
  refine ⟨root,hload,?_⟩
  rw [hblocked]
  constructor
  · intro hcloses hunseen
    exact hcloses (mustBlock_of_unseen hunseen)
  · intro hcondition hmust
    by_cases hunseen : Unseen root
    · exact hcondition hunseen
    · exact workflowBlocked_of_mustBlock hmust hunseen

def text (value : String) : Yaml := .value (.string value)

def conditionalCheckout : Mapping :=
  [(text "on",text "push"),
    (text "jobs",.mapping [(text "test",.mapping [
      (text "runs-on",text "ubuntu-latest"),
      (text "steps",.sequence [.mapping [
        (text "uses",text "actions/checkout@v4"),
        (text "if",text "github.ref == 'refs/heads/main'")]])])])]

def conditionalCheckoutText : String :=
  "on: push\njobs:\n  test:\n    runs-on: ubuntu-latest\n    steps:\n      - uses: actions/checkout@v4\n        if: github.ref == 'refs/heads/main'\n"

def singleStepEvents (step : List String) : List YamlEvent :=
  [.other,.other,.mappingStart 0 false,
    .scalar "on" 0 false,.scalar "push" 0 false,
    .scalar "jobs" 0 false,.mappingStart 0 false,
    .scalar "test" 0 false,.mappingStart 0 false,
    .scalar "runs-on" 0 false,.scalar "ubuntu-latest" 0 false,
    .scalar "steps" 0 false,.sequenceStart 0 false,.mappingStart 0 false]++
  step.map (.scalar · 0 false)++
  [.mappingEnd,.sequenceEnd,.mappingEnd,.mappingEnd,.mappingEnd,.other,.other]

def conditionalCheckoutYaml : YamlCrate where
  events _ := (singleStepEvents
    ["uses","actions/checkout@v4","if","github.ref == 'refs/heads/main'"]).map .ok
  load _ := .ok [.mapping conditionalCheckout]

theorem conditionalCheckout_report :
    ∃ report, analyzeWorkflow conditionalCheckoutYaml conditionalCheckoutText = .ok report ∧
      report.readiness = .manualReviewRequired := by
  have hreadiness : (analyzeWorkflow conditionalCheckoutYaml conditionalCheckoutText).toOption.map
      (·.readiness) = some .manualReviewRequired := by decide +kernel
  cases hreport : analyzeWorkflow conditionalCheckoutYaml conditionalCheckoutText with
  | error e => simp [hreport,Except.toOption] at hreadiness
  | ok report => exact ⟨report,rfl,by simpa [hreport,Except.toOption] using hreadiness⟩

theorem fails_closed_iff_checkout :
    ∃ report, analyzeWorkflow conditionalCheckoutYaml conditionalCheckoutText = .ok report ∧
      ∃ root, conditionalCheckoutYaml.load conditionalCheckoutText = .ok [.mapping root] ∧
        ((MustBlock root → report.readiness = .blocked) ↔
          (Unseen root → WorkflowBlocked root)) := by
  obtain ⟨report,h,_⟩ := conditionalCheckout_report
  exact ⟨report,h,fails_closed_iff _ _ report h⟩

/-- The condition of an action step is passed over. -/
theorem conditional_checkout_not_blocked :
    conditionalCheckoutYaml.load conditionalCheckoutText = .ok [.mapping conditionalCheckout] ∧
      MustBlock conditionalCheckout ∧
      ∃ report, analyzeWorkflow conditionalCheckoutYaml conditionalCheckoutText = .ok report ∧
        report.readiness ≠ .blocked := by
  obtain ⟨report,h,hreadiness⟩ := conditionalCheckout_report
  refine ⟨rfl,.inr (.inr ⟨_,List.mem_singleton_self _,?_⟩),report,h,by simp [hreadiness]⟩
  exact .inr (.inr (.inr (.inr ⟨_,List.mem_singleton_self _,.inl ⟨"if",by decide,by decide⟩⟩)))

end GithubActions
end CommitCiPreflight
