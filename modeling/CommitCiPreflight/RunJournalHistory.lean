import CommitCiPreflight.RunJournalFaults

/-! Sequences of journal calls under faults: what becomes of the history of one run. -/
namespace CommitCiPreflight

open Disk FileTree Program
open Files (passOn)

inductive JournalCall
  | createRun (runId atUtc : String)
  | transition (runId : String) (state : RunJournalStateV1) (atUtc : String)
      (failureKind : Option RunFailureKindV1)
  | cleanupPending (runId atUtc : String)
  | reserveResource (runId resourceId : String)
  | bindSource (runId commitSha manifestDigest : String) (entryCount : UInt64)
  | apply (runId : String)

namespace JournalCall

def runId : JournalCall → String
  | .createRun runId _ | .transition runId _ _ _ | .cleanupPending runId _
  | .reserveResource runId _ | .bindSource runId _ _ _ | .apply runId => runId

variable (crates : Crates) (store : RunJournalStore)

def call : JournalCall → JournalIo Unit
  | .createRun runId atUtc => do
    let _ ← store.createRun crates runId atUtc
    return ()
  | .transition runId state atUtc failureKind => do
    let _ ← store.transition crates runId state atUtc failureKind
    return ()
  | .cleanupPending runId atUtc => do
    let _ ← store.transitionCleanupPendingAfterAdmissionAcquired crates runId atUtc
    return ()
  | .reserveResource runId resourceId => do
    let _ ← store.reserveResource crates runId resourceId
    return ()
  | .bindSource runId commitSha manifestDigest entryCount => do
    let _ ← store.bindSource crates runId commitSha manifestDigest entryCount
    return ()
  | .apply runId => do
    let _ ← store.apply crates runId
    return ()

end JournalCall

/-- A call and what its operations on the disk meet. -/
structure JournalStep where
  call : JournalCall
  faults : List Fault

namespace RunJournalStore

variable (crates : Crates) (store : RunJournalStore) (pid : ℕ)

/-- The disk after a call, whether it returned or was killed. -/
def afterStep (disk : Disk OsString) (step : JournalStep) : Disk OsString :=
  (suffer pid step.faults (step.call.call crates store).run disk).2

def afterSteps (steps : List JournalStep) (disk : Disk OsString) : Disk OsString :=
  steps.foldl (afterStep crates store pid) disk

/-- What stands at the path of a run and at the path it is quarantined at. -/
structure RunView where
  run : Option (FileTree OsString)
  quarantine : Option (FileTree OsString)

def view (runId : String) (disk : Disk OsString) : RunView :=
  ⟨get (store.runPath runId) disk.root,get (store.quarantinePath runId) disk.root⟩

/-- What one call can change of a run. -/
inductive RunChange (runId : String) (call : JournalCall) : RunView → RunView → Prop
  | same (v : RunView) : RunChange runId call v v
  | created {q : Option (FileTree OsString)} {files : RunFiles}
      (names : ∀ name ∈ files.map Prod.fst, name ∈ reservedNames ∨
        name = .ofStr (entryName 0 .created)) :
      RunChange runId call ⟨none,q⟩ ⟨some (.directory files),q⟩
  | beside {q : Option (FileTree OsString)} {files : RunFiles} {name : OsString}
      {node : FileTree OsString} (fresh : lookupEntry name files = none)
      (reserved : name ∈ reservedNames) :
      RunChange runId call ⟨some (.directory files),q⟩
        ⟨some (.directory (insertEntry name node files)),q⟩
  | appended {q : Option (FileTree OsString)} {files : RunFiles} {entries : List RunJournalEntryV1}
      {last entry : RunJournalEntryV1} {content : Bytes} {broken : OsString → Prop}
      (readable : Readable crates store broken runId files entries)
      (hlast : entries.getLast? = some last) (next : History runId (entries++[entry]))
      (dedicated : last.state = .created → entry.state = .cleanupPending →
        ∃ atUtc, call = .cleanupPending runId atUtc) :
      RunChange runId call ⟨some (.directory files),q⟩
        ⟨some (.directory (insertEntry (entryFile entry) (.file content) files)),q⟩
  | moved {files : RunFiles} {entries : List RunJournalEntryV1} {last : RunJournalEntryV1}
      {broken : OsString → Prop} (hcall : call = .apply runId)
      (readable : Readable crates store broken runId files entries)
      (hlast : entries.getLast? = some last) (active : last.state.classify ≠ .terminal) :
      RunChange runId call ⟨some (.directory files),none⟩ ⟨none,some (.directory files)⟩

section

variable {crates store pid} {faults : List Fault} {disk : Disk OsString} {runId : String}
  {state : RunJournalStateV1} {atUtc : String} {failureKind : Option RunFailureKindV1}
  {call : JournalCall} {name : OsString}

theorem suffer_transition_cases :
    (suffer pid faults (transition crates store runId state atUtc failureKind).run disk).2 = disk ∨
    ∃ entries entry, read pid (readEntries crates store runId) disk = .ok entries ∧
      (JournalWrite.transition state atUtc failureKind).entry runId entries = some entry ∧
      (suffer pid faults (transition crates store runId state atUtc failureKind).run disk).2 =
        (suffer pid faults (DurableFileSystem.createNew (store.runPath runId++[entryFile entry])
          (markerBytes crates (RunJournalEntryV1.codec.encode entry))).run disk).2 := by
  rcases hread : read pid (readEntries crates store runId) disk with e | entries
  · left
    unfold transition
    rw [suffer_ofExcept_bind]
    rcases validateRunId runId with e | ⟨⟩
    · rfl
    simp only [suffer_ofExcept_bind]
    rcases RunJournal.validateTimestamp atUtc with e | ⟨⟩
    · rfl
    simp only [suffer_reads_bind uses_readEntries]
    rw [← Disk.read,hread]
  · have hdisk : (suffer pid faults (transition crates store runId state atUtc failureKind).run
      disk).2 = _ := suffer_transition hread
    cases hentry : (JournalWrite.transition state atUtc failureKind).entry runId entries with
    | none =>
      rw [hentry] at hdisk
      exact Or.inl hdisk
    | some entry =>
      rw [hentry] at hdisk
      exact Or.inr ⟨entries,entry,rfl,hentry,hdisk⟩

theorem suffer_cleanup_cases :
    (suffer pid faults (transitionCleanupPendingAfterAdmissionAcquired crates store runId atUtc).run
      disk).2 = disk ∨
    ∃ entries last, read pid (readEntries crates store runId) disk = .ok entries ∧
      entries.getLast? = some last ∧ RunJournal.validateTimestamp atUtc = .ok () ∧
      legalTransition last.state .cleanupPending = true ∧
      (suffer pid faults (transitionCleanupPendingAfterAdmissionAcquired crates store runId atUtc).run
        disk).2 =
        (suffer pid faults (DurableFileSystem.createNew (store.runPath runId++[entryFile
          ⟨runJournalSchemaVersion,runId,last.seq+1,.cleanupPending,atUtc,none⟩])
          (markerBytes crates (RunJournalEntryV1.codec.encode
            ⟨runJournalSchemaVersion,runId,last.seq+1,.cleanupPending,atUtc,none⟩))).run disk).2 := by
  unfold transitionCleanupPendingAfterAdmissionAcquired lastEntry
  rw [suffer_ofExcept_bind]
  rcases validateRunId runId with e | ⟨⟩
  · exact Or.inl rfl
  simp only [suffer_ofExcept_bind]
  rcases htime : RunJournal.validateTimestamp atUtc with e | ⟨⟩
  · exact Or.inl rfl
  simp only [suffer_reads_bind uses_readEntries]
  rw [← Disk.read]
  rcases hread : read pid (readEntries crates store runId) disk with e | entries
  · exact Or.inl rfl
  simp only [suffer_ofExcept_bind,suffer_ensure_bind]
  rcases hlast : entries.getLast? with _ | last
  · exact Or.inl rfl
  simp only
  split
  · rename_i hstate
    refine Or.inr ⟨entries,last,rfl,hlast,trivial,?_,suffer_appendEntry⟩
    generalize last.state = state at hstate
    cases state <;> first | rfl | exact absurd hstate (by decide)
  · exact Or.inl rfl

theorem suffer_bindSource_cases {commitSha manifestDigest : String} {entryCount : UInt64} :
    (suffer pid faults (bindSource crates store runId commitSha manifestDigest entryCount).run
      disk).2 = disk ∨
    ∃ bytes, (suffer pid faults
      (bindSource crates store runId commitSha manifestDigest entryCount).run disk).2 =
        (suffer pid faults (DurableFileSystem.createNew (store.runPath runId++[.ofStr sourceBinding])
          bytes).run disk).2 := by
  unfold bindSource
  rw [suffer_ofExcept_bind]
  rcases validateRunId runId with e | ⟨⟩
  · exact Or.inl rfl
  simp only [suffer_ofExcept_bind]
  rcases validateHexIdentity commitSha with e | ⟨⟩
  · exact Or.inl rfl
  rcases RunJournal.validateDigest manifestDigest with e | ⟨⟩
  · exact Or.inl rfl
  simp only [suffer_ensure_bind,suffer_reads_bind uses_validateRunMarker]
  split
  · rcases ((validateRunMarker crates store (store.runPath runId) runId).run.exec
      (Disk.perform pid) disk).1 with e | ⟨⟩
    · exact Or.inl rfl
    · exact Or.inr ⟨_,(suffer_bind_pure _).trans (suffer_durably _)⟩
  · exact Or.inl rfl

theorem suffer_durably_ok {α : Type} (step : DurableIo α) {a : α}
    (h : (suffer pid faults (durably step).run disk).1 = some (.ok a)) :
    (suffer pid faults step.run disk).1 = some (.ok a) := by
  unfold suffer at h ⊢
  change ((step.run >>= fun r => .done (r.mapError RunJournalError.durable)).execUntil
    (attempt pid) (disk,faults)).1 = _ at h
  rw [execUntil_bind] at h
  rcases hstep : step.run.execUntil (attempt pid) (disk,faults) with ⟨_ | e | b,s'⟩
  · rw [hstep] at h
    cases h
  · rw [hstep] at h
    cases h
  · rw [hstep] at h
    change some (Except.ok b) = _ at h
    cases h
    rfl

theorem suffer_reserveResource_cases {resourceId : String} :
    (suffer pid faults (reserveResource crates store runId resourceId).run disk).2 = disk ∨
    (suffer pid faults (reserveResource crates store runId resourceId).run disk).2 =
      (suffer pid faults (DurableFileSystem.createNewDirectory
        (store.runPath runId++[.ofStr resourcesDir])).run disk).2 := by
  unfold reserveResource
  rw [suffer_ofExcept_bind]
  rcases validateRunId runId with e | ⟨⟩
  · exact Or.inl rfl
  simp only [suffer_ofExcept_bind]
  rcases RunJournal.validateResourceId resourceId with e | ⟨⟩
  · exact Or.inl rfl
  simp only [suffer_reads_bind uses_validateRunMarker]
  rcases ((validateRunMarker crates store (store.runPath runId) runId).run.exec
      (Disk.perform pid) disk).1 with e | ⟨⟩
  · exact Or.inl rfl
  refine Or.inr ((suffer_run_bind_reads fun _ => ?_).trans ((suffer_run_bind_reads fun outcome => ?_).trans
    (suffer_bind_reads fun _ => .done _)))
  · refine uses_run_bind (uses_lift (uses_entryExists _)) fun _ => ?_
    exact uses_run_bind uses_ensure fun _ => .done _
  · rcases outcome with (e | e | _ | _) | ⟨⟩
    · cases e with
      | alreadyExists => exact uses_validateExistingPlainDirectory _
      | _ => exact .done _
    all_goals exact .done _

theorem suffer_apply_cases :
    (suffer pid faults (apply crates store runId).run disk).2 = disk ∨
    ∃ entries last, read pid (readEntries crates store runId) disk = .ok entries ∧
      entries.getLast? = some last ∧ last.state.classify ≠ .terminal ∧
      get (store.quarantinePath runId) disk.root = none ∧
      (suffer pid faults (apply crates store runId).run disk).2 =
        (disk.move (store.runPath runId) (store.quarantinePath runId)).2 := by
  unfold apply
  rw [suffer_ofExcept_bind]
  rcases validateRunId runId with e | ⟨⟩
  · exact Or.inl rfl
  simp only [suffer_lift_bind (uses_pathExists _)]
  split
  · unfold reapply
    simp only [suffer_lift_bind (uses_pathExists _),suffer_ensure_bind,
      suffer_reads_bind uses_validateRunMarker]
    split
    · rcases ((validateRunMarker crates store (store.quarantinePath runId) runId).run.exec
        (Disk.perform pid) disk).1 with e | ⟨⟩
      · exact Or.inl rfl
      · exact Or.inl rfl
    · exact Or.inl rfl
  · unfold quarantine lastEntry
    simp only [suffer_reads_bind uses_readEntries,suffer_ofExcept_bind,suffer_ensure_bind]
    rw [← Disk.read]
    rcases hread : read pid (readEntries crates store runId) disk with e | entries
    · exact Or.inl rfl
    simp only
    rcases hlast : entries.getLast? with _ | last
    · exact Or.inl rfl
    by_cases hactive : last.state.classify ≠ .terminal
    · rcases runMarkerBytes crates store.rootToken runId with e | marker
      · simp only [if_pos hactive]
        exact Or.inl trivial
      have hdisk : (suffer pid faults (durably (DurableFileSystem.quarantineOwnedTree
          (store.runPath runId) (store.quarantinePath runId) runMarker marker) >>= fun _ =>
            pure (quarantinedResult runId)).run disk).2 = _ :=
        (suffer_bind_pure _).trans (suffer_durably _)
      simp only [if_pos hactive]
      rcases DurableFileSystem.suffer_quarantineOwnedTree_cases pid faults (store.runPath runId)
        (store.quarantinePath runId) runMarker marker disk with hsame | ⟨habsent,hmoved⟩
      · exact Or.inl (hdisk.trans hsame)
      · exact Or.inr ⟨entries,last,rfl,hlast,hactive,habsent,hdisk.trans hmoved⟩
    · simp only [if_neg hactive]
      exact Or.inl trivial

theorem path_apart {parent : HostPath} {x y : OsString} (h : x ≠ y) {path : HostPath}
    (hpath : parent++[x] <+: path) : ¬ path <+: parent++[y] ∧ ¬ parent++[y] <+: path := by
  have hne : ¬ parent++[x] <+: parent++[y] := by
    intro hbegin
    have hsame : parent++[x] = parent++[y] := hbegin.eq_of_length (by simp)
    simp [h] at hsame
  refine ⟨fun hle => hne (hpath.trans hle),fun hle => hne ?_⟩
  exact List.prefix_of_prefix_length_le hpath hle (by simp)

theorem runPath_eq (runId : String) :
    store.runPath runId = (store.root++[.ofStr runsDir])++[.ofStr runId] := by
  simp [runPath]

theorem quarantinePath_eq (runId : String) :
    store.quarantinePath runId =
      (store.root++[.ofStr runsDir])++[.ofStr (quarantinePrefix++runId)] := by
  simp [quarantinePath]

theorem ne_quarantine_of_valid (h : validateRunId runId = .ok ()) (other : String) :
    runId ≠ quarantinePrefix++other := by
  rintro rfl
  unfold validateRunId at h
  split_ifs at h with hhex
  have hall := hhex.2
  rw [Text.bytes_append,List.all_append,Bool.and_eq_true] at hall
  exact absurd hall.1 (by decide +kernel)

/-- The paths that a call for a run may write. -/
def RunPaths (store : RunJournalStore) (runId : String) (path : HostPath) : Prop :=
  store.runPath runId <+: path ∨ store.quarantinePath runId <+: path

theorem uses_durably {allowed : FileOp OsString → Prop} {α : Type} {step : DurableIo α}
    (h : step.run.Uses allowed) : (durably step).run.Uses allowed :=
  uses_bind h fun _ => .done _

theorem uses_appendEntry {W L : HostPath → Prop} (hchild : ∀ name, W (store.runPath runId++[name]))
    {seq : UInt64} :
    (appendEntry crates store runId seq state atUtc failureKind).run.Uses (FileOp.Keeps W L) :=
  uses_run_bind (uses_durably (DurableFileSystem.uses_createNew (hchild _))) fun _ => .done _

theorem uses_createRun {W L : HostPath → Prop} (hrun : W (store.runPath runId))
    (hchild : ∀ name, W (store.runPath runId++[name])) :
    (createRun crates store runId atUtc).run.Uses (FileOp.Keeps W L) := by
  refine uses_run_bind (.done _) fun _ => uses_run_bind (.done _) fun _ => ?_
  refine uses_run_bind (uses_durably (DurableFileSystem.uses_createNewDirectory hrun)) fun _ => ?_
  refine uses_run_bind (.done _) fun _ => ?_
  refine uses_run_bind (uses_durably (DurableFileSystem.uses_createNew (hchild _))) fun _ => ?_
  exact uses_appendEntry hchild

theorem uses_call (call : JournalCall) :
    (call.call crates store).run.Uses
      (FileOp.Keeps (RunPaths store call.runId) fun _ => False) := by
  have hchild : ∀ (runId : String) (name : OsString),
      RunPaths store runId (store.runPath runId++[name]) :=
    fun runId name => Or.inl (List.prefix_append _ _)
  cases call with
  | createRun runId atUtc =>
    exact uses_run_bind (uses_createRun (Or.inl List.prefix_rfl) (hchild runId)) fun _ => .done _
  | transition runId state atUtc failureKind =>
    refine uses_run_bind ?_ fun _ => .done _
    refine uses_run_bind (.done _) fun _ => uses_run_bind (.done _) fun _ => ?_
    refine uses_run_bind (uses_keeps_of_reads uses_readEntries) fun _ => ?_
    refine uses_run_bind (.done _) fun _ => uses_run_bind uses_ensure fun _ => ?_
    exact uses_run_bind uses_ensure fun _ => uses_appendEntry (hchild runId)
  | cleanupPending runId atUtc =>
    refine uses_run_bind ?_ fun _ => .done _
    refine uses_run_bind (.done _) fun _ => uses_run_bind (.done _) fun _ => ?_
    refine uses_run_bind (uses_keeps_of_reads uses_readEntries) fun _ => ?_
    refine uses_run_bind (.done _) fun _ => uses_run_bind uses_ensure fun _ => ?_
    exact uses_appendEntry (hchild runId)
  | reserveResource runId resourceId =>
    refine uses_run_bind ?_ fun _ => .done _
    refine uses_run_bind (.done _) fun _ => uses_run_bind (.done _) fun _ => ?_
    refine uses_run_bind (uses_keeps_of_reads uses_validateRunMarker) fun _ => ?_
    refine uses_run_bind ?_ fun _ => ?_
    · refine uses_run_bind (uses_lift (DurableFileSystem.uses_createNewDirectory (hchild runId _)))
        fun outcome => ?_
      rcases outcome with (e | e | _ | _) | ⟨⟩
      · cases e with
        | alreadyExists => exact uses_keeps_of_reads (uses_validateExistingPlainDirectory _)
        | _ => exact .done _
      all_goals exact .done _
    · refine uses_run_bind (uses_lift (uses_keeps_of_reads (uses_entryExists _))) fun _ => ?_
      exact uses_run_bind uses_ensure fun _ => .done _
  | bindSource runId commitSha manifestDigest entryCount =>
    refine uses_run_bind ?_ fun _ => .done _
    refine uses_run_bind (.done _) fun _ => uses_run_bind (.done _) fun _ => ?_
    refine uses_run_bind (.done _) fun _ => uses_run_bind uses_ensure fun _ => ?_
    refine uses_run_bind (uses_keeps_of_reads uses_validateRunMarker) fun _ => ?_
    exact uses_run_bind (uses_durably (DurableFileSystem.uses_createNew (hchild runId _)))
      fun _ => .done _
  | apply runId =>
    refine uses_run_bind ?_ fun _ => .done _
    refine uses_run_bind (.done _) fun _ => ?_
    refine uses_run_bind (uses_lift (uses_keeps_of_reads (uses_pathExists _))) fun _ => ?_
    split
    · refine uses_run_bind (uses_lift (uses_keeps_of_reads (uses_pathExists _))) fun _ => ?_
      refine uses_run_bind uses_ensure fun _ => ?_
      exact uses_run_bind (uses_keeps_of_reads uses_validateRunMarker) fun _ => .done _
    · refine uses_run_bind (uses_keeps_of_reads uses_readEntries) fun _ => ?_
      refine uses_run_bind (.done _) fun _ => uses_run_bind uses_ensure fun _ => ?_
      refine uses_run_bind (.done _) fun _ => ?_
      exact uses_run_bind (uses_durably (DurableFileSystem.uses_quarantineOwnedTree
        (Or.inl List.prefix_rfl) (Or.inr List.prefix_rfl))) fun _ => .done _

theorem afterStep_of_invalid {step : JournalStep} (h : validateRunId step.call.runId ≠ .ok ()) :
    afterStep crates store pid disk step = disk := by
  obtain ⟨call,faults⟩ := step
  obtain ⟨e,he⟩ : ∃ e, validateRunId call.runId = .error e := by
    rcases hid : validateRunId call.runId with e | ⟨⟩
    · exact ⟨e,rfl⟩
    · exact absurd hid h
  have hstop : ∀ {α : Type} (g : Unit → JournalIo α),
      (suffer pid faults (Program.ofExcept (validateRunId call.runId) >>= g).run disk).2 = disk := by
    intro α g
    rw [suffer_ofExcept_bind,he]
  cases call with
  | createRun => exact (suffer_bind_pure _).trans (hstop _)
  | transition => exact (suffer_bind_pure _).trans (hstop _)
  | cleanupPending => exact (suffer_bind_pure _).trans (hstop _)
  | reserveResource => exact (suffer_bind_pure _).trans (hstop _)
  | bindSource => exact (suffer_bind_pure _).trans (hstop _)
  | apply => exact (suffer_bind_pure _).trans (hstop _)

/-- A call for one run leaves the others alone. -/
theorem view_afterStep_of_ne (hid : validateRunId runId = .ok ()) {step : JournalStep}
    (hne : step.call.runId ≠ runId) :
    view store runId (afterStep crates store pid disk step) = view store runId disk := by
  by_cases hcall : validateRunId step.call.runId = .ok ()
  · have hrun : OsString.ofStr step.call.runId ≠ .ofStr runId := OsString.ofStr_injective.ne hne
    have hquarantine : OsString.ofStr (quarantinePrefix++step.call.runId) ≠
        .ofStr (quarantinePrefix++runId) := by
      refine OsString.ofStr_injective.ne fun h => hne ?_
      have hchars := congrArg String.toList h
      rw [String.toList_append,String.toList_append] at hchars
      exact String.toList_inj.1 (List.append_cancel_left hchars)
    have hcross : OsString.ofStr step.call.runId ≠ .ofStr (quarantinePrefix++runId) :=
      OsString.ofStr_injective.ne (ne_quarantine_of_valid hcall runId)
    have hcross' : OsString.ofStr (quarantinePrefix++step.call.runId) ≠ .ofStr runId :=
      OsString.ofStr_injective.ne (ne_quarantine_of_valid hid step.call.runId).symm
    have hget : ∀ name, OsString.ofStr step.call.runId ≠ name →
        .ofStr (quarantinePrefix++step.call.runId) ≠ name →
        get ((store.root++[.ofStr runsDir])++[name]) (afterStep crates store pid disk step).root =
          get ((store.root++[.ofStr runsDir])++[name]) disk.root := by
      intro name h₁ h₂
      refine get_suffer (uses_call step.call) fun path hpath => ?_
      unfold RunPaths at hpath
      rw [runPath_eq,quarantinePath_eq] at hpath
      rcases hpath with hpath | hpath
      · exact path_apart h₁ hpath
      · exact path_apart h₂ hpath
    unfold view
    rw [runPath_eq,quarantinePath_eq,hget _ hrun hcross',hget _ hcross hquarantine]
  · rw [afterStep_of_invalid hcall]

theorem suffer_createRun_present {node : FileTree OsString}
    (h : get (store.runPath runId) disk.root = some node) :
    (suffer pid faults (createRun crates store runId atUtc).run disk).2 = disk := by
  unfold createRun
  rw [suffer_ofExcept_bind]
  rcases validateRunId runId with e | ⟨⟩
  · rfl
  simp only [suffer_ofExcept_bind]
  rcases RunJournal.validateTimestamp atUtc with e | ⟨⟩
  · rfl
  rw [runPath_eq] at h ⊢
  rcases DurableFileSystem.suffer_createNewDirectory_cases pid faults (store.root++[.ofStr runsDir])
    (.ofStr runId) disk with ⟨hsame,hfailed⟩ | ⟨-,habsent,-⟩
  · refine (suffer_bind_stop fun _ hok => hfailed (suffer_durably_ok _ hok)).trans ?_
    exact (suffer_durably _).trans hsame
  · rw [h] at habsent
    cases habsent

def initialNames : List OsString := [.ofStr runMarker,.ofStr (entryName 0 .created)]

def NewRun (store : RunJournalStore) (runId : String) (root : Option (FileTree OsString)) : Prop :=
  get (store.runPath runId) root = none ∨
    ∃ files, get (store.runPath runId) root = some (.directory files) ∧
      ∀ name ∈ files.map Prod.fst, name ∈ initialNames

theorem newRun_put {root x : Option (FileTree OsString)} (hname : name ∈ initialNames)
    (h : NewRun store runId root) :
    NewRun store runId (put x (store.runPath runId++[name]) root) := by
  unfold NewRun
  rw [get_put_above]
  rcases h with h | ⟨files,h,hnames⟩
  · rw [h]
    exact Or.inl rfl
  · rw [h]
    refine Or.inr ⟨_,rfl,fun other hother => ?_⟩
    by_cases hsame : other = name
    · rw [hsame]
      exact hname
    · refine hnames other ?_
      by_contra hmem
      have hlookup := lookupEntry_setEntry other name (put x [] (lookupEntry name files)) files
      rw [if_neg hsame,lookupEntry_eq_none_iff.2 hmem,lookupEntry_eq_none_iff] at hlookup
      exact hlookup hother

theorem newRun_attempt {op : FileOp OsString} {s : Disk OsString × List Fault} {L : HostPath → Prop}
    (hop : op.Keeps (fun path => ∃ name ∈ initialNames, path = store.runPath runId++[name]) L)
    (h : NewRun store runId s.1.root) : NewRun store runId (attempt pid op s).2.1.root := by
  refine attempt_root_induction (P := NewRun store runId) h fun x path t hpath ht => ?_
  obtain ⟨name,hname,rfl⟩ := hop.1 path hpath
  exact newRun_put hname ht

theorem newRun_suffer_createRun (h : get (store.runPath runId) disk.root = none) :
    NewRun store runId (suffer pid faults (createRun crates store runId atUtc).run disk).2.root := by
  unfold createRun
  rw [suffer_ofExcept_bind]
  rcases validateRunId runId with e | ⟨⟩
  · exact Or.inl h
  simp only [suffer_ofExcept_bind]
  rcases RunJournal.validateTimestamp atUtc with e | ⟨⟩
  · exact Or.inl h
  refine suffer_bind_preserves (fun d => NewRun store runId d.root) ?_ fun _ => ?_
  · rw [suffer_durably,runPath_eq]
    rcases DurableFileSystem.suffer_createNewDirectory_cases pid faults
      (store.root++[.ofStr runsDir]) (.ofStr runId) disk with ⟨hsame,-⟩ | ⟨hdir,-,hput⟩
    · rw [hsame]
      exact Or.inl h
    · rw [hput]
      refine Or.inr ⟨[],?_,by simp⟩
      rw [runPath_eq]
      exact get_put_self _ (hasParent_append_singleton.2 hdir)
  · refine uses_mono (?_ : Uses (FileOp.Keeps
      (fun path => ∃ name ∈ initialNames, path = store.runPath runId++[name]) fun _ => False) _)
      fun op hop s hs => newRun_attempt hop hs
    refine uses_run_bind (.done _) fun _ => ?_
    refine uses_run_bind (uses_durably (DurableFileSystem.uses_createNew
      ⟨_,by simp [initialNames],rfl⟩)) fun _ => ?_
    refine uses_run_bind (uses_durably (DurableFileSystem.uses_createNew
      ⟨_,by simp [initialNames],rfl⟩)) fun _ => .done _

/-- Nothing of the run has changed, or a node was created in its directory. -/
def Placed (store : RunJournalStore) (runId : String) (name : OsString) (node : FileTree OsString)
    (disk disk' : Disk OsString) : Prop :=
  view store runId disk' = view store runId disk ∨
    ∃ files, get (store.runPath runId) disk.root = some (.directory files) ∧
      lookupEntry name files = none ∧ view store runId disk' =
        ⟨some (.directory (insertEntry name node files)),
          get (store.quarantinePath runId) disk.root⟩

theorem Placed.beside {node : FileTree OsString} {disk' : Disk OsString}
    (h : Placed store runId name node disk disk') (hname : name ∈ reservedNames) :
    RunChange crates store runId call (view store runId disk) (view store runId disk') := by
  rcases h with hsame | ⟨files,hrun,habsent,hview⟩
  · rw [hsame]
    exact .same _
  · rw [hview]
    unfold view
    rw [hrun]
    exact .beside habsent hname

theorem runChange_apply :
    RunChange crates store runId (.apply runId) (view store runId disk)
      (view store runId (suffer pid faults (apply crates store runId).run disk).2) := by
  rcases suffer_apply_cases with hsame | ⟨entries,last,hread,hlast,hactive,habsent,hdisk⟩
  · rw [hsame]
    exact .same _
  · obtain ⟨files,hrun,hreadable⟩ := read_readEntries.1 hread
    rw [hdisk]
    unfold view
    rw [hrun,habsent]
    rw [runPath_eq] at hrun
    rw [quarantinePath_eq] at habsent
    obtain ⟨hgone,hmoved⟩ := get_move hrun habsent
    rw [runPath_eq,quarantinePath_eq,hgone,hmoved]
    exact .moved rfl hreadable hlast hactive

variable (hid : validateRunId runId = .ok ())
include hid

theorem get_quarantinePath_put {x root : Option (FileTree OsString)} (name : OsString) :
    get (store.quarantinePath runId) (put x (store.runPath runId++[name]) root) =
      get (store.quarantinePath runId) root := by
  have hne : OsString.ofStr runId ≠ .ofStr (quarantinePrefix++runId) :=
    OsString.ofStr_injective.ne (ne_quarantine_of_valid hid runId)
  rw [runPath_eq,quarantinePath_eq]
  obtain ⟨h₁,h₂⟩ := path_apart hne (List.prefix_append ((store.root++[.ofStr runsDir])++[.ofStr runId])
    [name])
  exact get_put_of_disjoint x h₁ h₂

theorem placed_put (node : FileTree OsString)
    (hdir : IsDirectory (get (store.runPath runId) disk.root))
    (habsent : get (store.runPath runId++[name]) disk.root = none) :
    Placed store runId name node disk
      (disk.setRoot (put (some node) (store.runPath runId++[name]) disk.root)) := by
  obtain ⟨files,hrun⟩ := hdir
  rw [get_child hrun] at habsent
  refine Or.inr ⟨files,hrun,habsent,?_⟩
  unfold view setRoot
  rw [get_quarantinePath_put hid,get_put_above,hrun]
  rfl

theorem placed_createNew (name : OsString) (bytes : Bytes) :
    ∃ content, Placed store runId name (.file content) disk (suffer pid faults
      (DurableFileSystem.createNew (store.runPath runId++[name]) bytes).run disk).2 := by
  rcases DurableFileSystem.suffer_createNew_cases pid faults (store.runPath runId) name bytes disk with
    hsame | ⟨content,-,hdir,habsent,hput⟩
  · exact ⟨[],Or.inl (congrArg _ hsame)⟩
  · rw [hput]
    exact ⟨content,placed_put hid _ hdir habsent⟩

theorem placed_createNewDirectory (name : OsString) :
    Placed store runId name (.directory []) disk (suffer pid faults
      (DurableFileSystem.createNewDirectory (store.runPath runId++[name])).run disk).2 := by
  rcases DurableFileSystem.suffer_createNewDirectory_cases pid faults (store.runPath runId) name disk
    with ⟨hsame,-⟩ | ⟨hdir,habsent,hput⟩
  · exact Or.inl (congrArg _ hsame)
  · rw [hput]
    exact placed_put hid _ hdir habsent

theorem runChange_createRun :
    RunChange crates store runId call (view store runId disk)
      (view store runId (suffer pid faults (createRun crates store runId atUtc).run disk).2) := by
  cases hnode : get (store.runPath runId) disk.root with
  | some node =>
    rw [suffer_createRun_present hnode]
    exact .same _
  | none =>
    have hquarantine : get (store.quarantinePath runId)
        (suffer pid faults (createRun crates store runId atUtc).run disk).2.root =
        get (store.quarantinePath runId) disk.root := by
      have huses : (createRun crates store runId atUtc).run.Uses
          (FileOp.Keeps (fun path => store.runPath runId <+: path) fun _ => False) :=
        uses_createRun List.prefix_rfl fun name => List.prefix_append _ _
      refine get_suffer huses fun path hpath => ?_
      rw [runPath_eq] at hpath
      rw [quarantinePath_eq]
      exact path_apart (OsString.ofStr_injective.ne (ne_quarantine_of_valid hid runId)) hpath
    have hnew : NewRun store runId
        (suffer pid faults (createRun crates store runId atUtc).run disk).2.root :=
      newRun_suffer_createRun hnode
    unfold view
    rw [hquarantine,hnode]
    rcases hnew with habsent | ⟨files,hfiles,hnames⟩
    · rw [habsent]
      exact .same _
    · rw [hfiles]
      refine .created fun name hname => ?_
      rcases List.mem_pair.1 (hnames name hname) with rfl | rfl
      · exact Or.inl (by simp [reservedNames])
      · exact Or.inr rfl

theorem runChange_append {bytes : Bytes}
    {entries : List RunJournalEntryV1} {last entry : RunJournalEntryV1}
    (hread : read pid (readEntries crates store runId) disk = .ok entries)
    (hlast : entries.getLast? = some last) (next : History runId (entries++[entry]))
    (dedicated : last.state = .created → entry.state = .cleanupPending →
      ∃ atUtc, call = .cleanupPending runId atUtc) :
    RunChange crates store runId call (view store runId disk)
      (view store runId (suffer pid faults (DurableFileSystem.createNew
        (store.runPath runId++[entryFile entry]) bytes).run disk).2) := by
  obtain ⟨files,hrun,hreadable⟩ := read_readEntries.1 hread
  obtain ⟨content,hsame | ⟨files',hrun',-,hview⟩⟩ := placed_createNew hid (entryFile entry) bytes
  · rw [hsame]
    exact .same _
  · rw [hrun] at hrun'
    cases hrun'
    rw [hview]
    unfold view
    rw [hrun]
    exact .appended hreadable hlast next dedicated

theorem runChange_transition :
    RunChange crates store runId call (view store runId disk) (view store runId
      (suffer pid faults (transition crates store runId state atUtc failureKind).run disk).2) := by
  rcases suffer_transition_cases with hsame | ⟨entries,entry,hread,hentry,hdisk⟩
  · rw [hsame]
    exact .same _
  · have hhistory : History runId entries := by
      obtain ⟨files,-,hreadable⟩ := read_readEntries.1 hread
      exact hreadable.history
    have next := history_entry hhistory hentry
    obtain ⟨previous,hprevious,rfl⟩ := Option.map_eq_some_iff.1 hentry
    obtain ⟨hlast,hchecks⟩ := Option.filter_eq_some_iff.1 hprevious
    obtain ⟨-,-,⟨-,hpending⟩,-⟩ := of_decide_eq_true hchecks
    rw [hdisk]
    exact runChange_append hid hread hlast next fun hcreated hstate =>
      absurd ⟨hcreated,hstate⟩ hpending

theorem runChange_cleanup :
    RunChange crates store runId (.cleanupPending runId atUtc) (view store runId disk)
      (view store runId (suffer pid faults
        (transitionCleanupPendingAfterAdmissionAcquired crates store runId atUtc).run disk).2) := by
  rcases suffer_cleanup_cases with hsame | ⟨entries,last,hread,hlast,htime,hlegal,hdisk⟩
  · rw [hsame]
    exact .same _
  · have hhistory : History runId entries := by
      obtain ⟨files,-,hreadable⟩ := read_readEntries.1 hread
      exact hreadable.history
    rw [hdisk]
    exact runChange_append hid hread hlast (history_next hhistory hlast htime hlegal rfl)
      fun _ _ => ⟨atUtc,rfl⟩

theorem runChange_reserveResource {resourceId : String} :
    RunChange crates store runId call (view store runId disk) (view store runId
      (suffer pid faults (reserveResource crates store runId resourceId).run disk).2) := by
  rcases suffer_reserveResource_cases with hsame | hdisk
  · rw [hsame]
    exact .same _
  · rw [hdisk]
    exact (placed_createNewDirectory hid (.ofStr resourcesDir)).beside (by simp [reservedNames])

theorem runChange_bindSource {commitSha manifestDigest : String} {entryCount : UInt64} :
    RunChange crates store runId call (view store runId disk) (view store runId (suffer pid faults
      (bindSource crates store runId commitSha manifestDigest entryCount).run disk).2) := by
  rcases suffer_bindSource_cases with hsame | ⟨bytes,hdisk⟩
  · rw [hsame]
    exact .same _
  · obtain ⟨content,hplaced⟩ := placed_createNew hid (.ofStr sourceBinding) bytes
    rw [hdisk]
    exact hplaced.beside (by simp [reservedNames])

/-- Whatever a call meets, this is what it can change of a run. -/
theorem runChange (step : JournalStep) (disk : Disk OsString) :
    RunChange crates store runId step.call (view store runId disk)
      (view store runId (afterStep crates store pid disk step)) := by
  by_cases hrun : step.call.runId = runId
  case neg =>
    rw [view_afterStep_of_ne hid hrun]
    exact .same _
  obtain ⟨call,faults⟩ := step
  have hcall : ∀ {α : Type} {x : JournalIo α}, call.call crates store = (do let _ ← x; return ()) →
      afterStep crates store pid disk ⟨call,faults⟩ = (suffer pid faults x.run disk).2 := by
    intro α x hx
    unfold afterStep
    rw [hx]
    exact suffer_bind_pure _
  cases call with
  | createRun id atUtc =>
    obtain rfl : id = runId := hrun
    rw [hcall rfl]
    exact runChange_createRun hid
  | transition id state atUtc failureKind =>
    obtain rfl : id = runId := hrun
    rw [hcall rfl]
    exact runChange_transition hid
  | cleanupPending id atUtc =>
    obtain rfl : id = runId := hrun
    rw [hcall rfl]
    exact runChange_cleanup hid
  | reserveResource id resourceId =>
    obtain rfl : id = runId := hrun
    rw [hcall rfl]
    exact runChange_reserveResource hid
  | bindSource id commitSha manifestDigest entryCount =>
    obtain rfl : id = runId := hrun
    rw [hcall rfl]
    exact runChange_bindSource hid
  | apply id =>
    obtain rfl : id = runId := hrun
    rw [hcall rfl]
    exact runChange_apply

end

end RunJournalStore
end CommitCiPreflight
