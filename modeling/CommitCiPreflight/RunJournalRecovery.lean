import CommitCiPreflight.RunJournalRuns

/-! What `recover status` reports of a store. -/
namespace CommitCiPreflight

open Disk FileTree Program

theorem Disk.exec_mapM_lift {ν ε α β : Type} [LinearOrder ν] {pid : ℕ} {disk : Disk ν}
    {f : α → FileProgram ν β} (hf : ∀ a, (f a).Uses FileOp.Reads) (as : List α) :
    (as.mapM fun a => (liftM (f a) : Fallible (FileOp ν) FileOp.Result ε β)).run.exec
      (perform pid) disk = (.ok (as.map fun a => ((f a).exec (perform pid) disk).1),disk) := by
  induction as with
  | nil => rfl
  | cons a as ih =>
    rw [List.mapM_cons,exec_lift_bind,exec_of_reads (hf a),exec_run_bind_ok _ ih]
    rfl

namespace RunJournalStore

variable (crates : Crates) (store : RunJournalStore) (disk : Disk OsString) (name : OsString)

/-- The name is that of a run, whose journal is read up to a last state. -/
def Journaled (runId : String) (state : RunJournalStateV1) : Prop :=
  validateRunId runId = .ok () ∧ name = .ofStr runId ∧ ∃ files entries last,
    get (store.runPath runId) disk.root = some (.directory files) ∧
    Readable crates store (BrokenLink disk (store.runPath runId)) runId files entries ∧
    entries.getLast? = some last ∧ last.state = state

/-- The name is that of a run in quarantine, which has the marker of its owner. -/
def Quarantined (runId : String) : Prop :=
  validateRunId runId = .ok () ∧ name = .ofStr (quarantinePrefix++runId) ∧ ∃ files node marker,
    get (store.quarantinePath runId) disk.root = some (.directory files) ∧
    lookupEntry (.ofStr runMarker) files = some node ∧
    MarkerFile crates RunOwnerMarkerV1.codec node marker ∧ OwnedMarker crates store runId marker

/-- The id that is shown for a name that is left to the operator. -/
def shownId (name : OsString) : String :=
  match Text.fromUtf8 name.bytes with
  | some text => boundedRunId ((Text.stripPrefix text quarantinePrefix).getD text)
  | none => "unknown"

/-- What is reported for a name. -/
inductive Reports : RecoveryRunStatusV1 → Prop
  | journaled {runId : String} {state : RunJournalStateV1}
      (h : Journaled crates store disk name runId state) :
      Reports ⟨runId,some state,state.classify⟩
  | quarantined {runId : String} (h : Quarantined crates store disk name runId) :
      Reports ⟨runId,none,.quarantined⟩
  | operator (unread : ∀ runId state, ¬ Journaled crates store disk name runId state)
      (foreign : ∀ runId, ¬ Quarantined crates store disk name runId) :
      Reports ⟨shownId name,none,.operatorRequired⟩

section

variable {crates store disk name} {pid : ℕ} {runId : String}

theorem uses_runStatus (name : OsString) : (runStatus crates store name).Uses FileOp.Reads := by
  unfold runStatus quarantinedStatus journalStatus
  split
  · exact .done _
  split
  · refine uses_bind (uses_run_bind (uses_validateExistingPlainDirectory _) fun _ => ?_)
      fun outcome => ?_
    · exact uses_run_bind (.done _) fun _ => uses_validateRunMarker
    · cases outcome <;> exact .done _
  split
  · refine uses_bind uses_readEntries fun outcome => ?_
    rcases outcome with e | entries
    · exact .done _
    · simp only
      split <;> exact .done _
  · exact .done _

theorem read_checkQuarantined :
    read pid (checkQuarantined crates store (store.quarantinePath runId) runId) disk = .ok () ↔
      Quarantined crates store disk (.ofStr (quarantinePrefix++runId)) runId := by
  unfold checkQuarantined
  rw [read_bind (uses_validateExistingPlainDirectory _),except_bind_eq_ok]
  simp only [read_ofExcept_bind,except_bind_eq_ok]
  constructor
  · rintro ⟨⟨⟩,hdir,⟨⟩,hvalid,hmarker⟩
    obtain ⟨files,hget⟩ := read_validateExistingPlainDirectory.1 hdir
    obtain ⟨node,marker,h⟩ := (read_validateRunMarker hget).1 hmarker
    exact ⟨hvalid,rfl,files,node,marker,hget,h⟩
  · rintro ⟨hvalid,-,files,node,marker,hget,h⟩
    exact ⟨(),read_validateExistingPlainDirectory.2 ⟨files,hget⟩,(),hvalid,
      (read_validateRunMarker hget).2 ⟨node,marker,h⟩⟩

theorem shownId_quarantine (runId : String) :
    shownId (.ofStr (quarantinePrefix++runId)) = boundedRunId runId := by
  unfold shownId OsString.ofStr
  simp only [Text.fromUtf8_bytes,Text.stripPrefix_eq_some.2 String.toList_append,Option.getD_some]

theorem shownId_of_stripPrefix {text : String} (h : Text.stripPrefix text quarantinePrefix = none) :
    shownId (.ofStr text) = boundedRunId text := by
  unfold shownId OsString.ofStr
  simp only [Text.fromUtf8_bytes,h,Option.getD_none]

theorem reports_quarantinedStatus (runId : String) :
    Reports crates store disk (.ofStr (quarantinePrefix++runId))
      ((quarantinedStatus crates store (store.quarantinePath runId) runId).exec
        (Disk.perform pid) disk).1 := by
  unfold quarantinedStatus
  rw [exec_bind,← Disk.read]
  rcases hcheck : read pid (checkQuarantined crates store (store.quarantinePath runId) runId) disk
    with e | ⟨⟩
  · change Reports _ _ _ _ ⟨boundedRunId runId,none,.operatorRequired⟩
    rw [← shownId_quarantine]
    refine .operator ?_ ?_
    · rintro other state ⟨hvalid,hname,-⟩
      exact ne_quarantine_of_valid hvalid runId (OsString.ofStr_injective hname).symm
    · intro other h
      obtain rfl : runId = other := (String.append_right_inj _).1 (OsString.ofStr_injective h.2.1)
      cases hcheck.symm.trans (read_checkQuarantined.2 h)
  · have h := read_checkQuarantined.1 hcheck
    change Reports _ _ _ _ ⟨boundedRunId runId,none,.quarantined⟩
    rw [boundedRunId,if_pos h.1]
    exact .quarantined h

theorem reports_journalStatus (hvalid : validateRunId runId = .ok ())
    (hstrip : Text.stripPrefix runId quarantinePrefix = none) :
    Reports crates store disk (.ofStr runId)
      ((journalStatus crates store runId).exec (Disk.perform pid) disk).1 := by
  have hforeign : ∀ other, ¬ Quarantined crates store disk (.ofStr runId) other := by
    rintro other ⟨-,hname,-⟩
    exact ne_quarantine_of_valid hvalid other (OsString.ofStr_injective hname)
  unfold journalStatus
  rw [exec_bind,← Disk.read]
  rcases hread : read pid (readEntries crates store runId) disk with e | entries
  · change Reports _ _ _ _ ⟨boundedRunId runId,none,.operatorRequired⟩
    rw [← shownId_of_stripPrefix hstrip]
    refine .operator ?_ hforeign
    rintro other state ⟨-,hname,files,entries,last,hrun,hreadable,-⟩
    obtain rfl := OsString.ofStr_injective hname
    cases hread.symm.trans (read_readEntries.2 ⟨files,hrun,hreadable⟩)
  simp only
  rcases hlast : entries.getLast? with _ | last
  · change Reports _ _ _ _ ⟨boundedRunId runId,none,.operatorRequired⟩
    rw [← shownId_of_stripPrefix hstrip]
    refine .operator ?_ hforeign
    rintro other state ⟨-,hname,files,entries',last,hrun,hreadable,hlast',-⟩
    obtain rfl := OsString.ofStr_injective hname
    cases hread.symm.trans (read_readEntries.2 ⟨files,hrun,hreadable⟩)
    cases hlast.symm.trans hlast'
  · obtain ⟨files,hrun,hreadable⟩ := read_readEntries.1 hread
    exact .journaled ⟨hvalid,rfl,files,entries,last,hrun,hreadable,hlast,rfl⟩

theorem reports_runStatus (name : OsString) :
    Reports crates store disk name
      ((runStatus crates store name).exec (Disk.perform pid) disk).1 := by
  unfold runStatus
  split
  · rename_i htext
    have hshown : shownId name = "unknown" := by
      unfold shownId
      rw [htext]
    change Reports _ _ _ _ ⟨"unknown",none,.operatorRequired⟩
    rw [← hshown]
    refine .operator ?_ ?_
    · rintro runId state ⟨-,rfl,-⟩
      cases htext.symm.trans (Text.fromUtf8_bytes runId)
    · rintro runId ⟨-,rfl,-⟩
      cases htext.symm.trans (Text.fromUtf8_bytes _)
  · rename_i text htext
    obtain rfl : name = .ofStr text := congrArg OsString.mk (Text.bytes_of_fromUtf8 htext).symm
    split
    · rename_i runId hstrip
      obtain rfl : text = quarantinePrefix++runId := by
        rw [← String.toList_inj,Text.stripPrefix_eq_some.1 hstrip,String.toList_append]
      exact reports_quarantinedStatus runId
    · rename_i hstrip
      split
      · exact reports_journalStatus ‹_› hstrip
      · rename_i hvalid
        have hshown : shownId (.ofStr text) = "unknown" := by
          rw [shownId_of_stripPrefix hstrip,boundedRunId,if_neg hvalid]
        change Reports _ _ _ _ ⟨"unknown",none,.operatorRequired⟩
        rw [← hshown]
        refine .operator ?_ ?_
        · rintro runId state ⟨hid,hname,-⟩
          exact hvalid (OsString.ofStr_injective hname ▸ hid)
        · rintro runId ⟨hid,hname,-⟩
          rw [OsString.ofStr_injective hname,Text.stripPrefix_eq_some.2 String.toList_append]
            at hstrip
          cases hstrip

end

/-- `recover status` changes nothing, and says of each name exactly what is there. -/
theorem status_exact {pid : ℕ} {files : RunFiles}
    (hruns : get (store.root++[.ofStr runsDir]) disk.root = some (.directory files)) :
    ∃ runs, (status crates store).run.exec (Disk.perform pid) disk = (.ok ⟨"1.0",runs⟩,disk) ∧
      List.Forall₂ (Reports crates store disk) ((files.map Prod.fst).insertionSort (· ≤ ·))
        runs := by
  have hnames : (Files.readDir (store.root++[.ofStr runsDir])).exec (Disk.perform pid) disk =
      (.ok (files.map Prod.fst),disk) :=
    Prod.ext (exec_readDir_fst hruns) (exec_of_reads (uses_readDir_reads _))
  refine ⟨((files.map Prod.fst).insertionSort (· ≤ ·)).map fun name =>
    ((runStatus crates store name).exec (Disk.perform pid) disk).1,?_,?_⟩
  · unfold status
    rw [exec_passOn_bind hnames,exec_run_bind_ok _ (exec_mapM_lift uses_runStatus _)]
    rfl
  · rw [List.forall₂_map_right_iff]
    exact List.forall₂_same.2 fun name _ => reports_runStatus name

theorem status_exact_sample :
    ∃ runs, (status Crates.reference sampleStore).run.exec (Disk.perform 0) sampleDisk =
        (.ok ⟨"1.0",runs⟩,sampleDisk) ∧
      List.Forall₂ (Reports Crates.reference sampleStore sampleDisk) [.ofStr sampleRun] runs :=
  status_exact Crates.reference sampleStore sampleDisk rfl

section

variable {crates store disk name} {pid : ℕ} {disk' : Disk OsString} {runId : String}

theorem Unlinked.of_get (h : store.Unlinked runId disk)
    (hrun : get (store.runPath runId) disk'.root = get (store.runPath runId) disk.root) :
    store.Unlinked runId disk' := by
  intro name hname target
  rw [get_append,hrun,← get_append]
  exact h name hname target

/-- A run without links is read from its directory alone. -/
theorem read_readEntries_congr {entries : List RunJournalEntryV1}
    (hlinks : store.Unlinked runId disk)
    (hrun : get (store.runPath runId) disk'.root = get (store.runPath runId) disk.root) :
    read pid (readEntries crates store runId) disk' = .ok entries ↔
      read pid (readEntries crates store runId) disk = .ok entries := by
  rw [read_readEntries,read_readEntries,hrun]
  constructor
  · rintro ⟨files,hfiles,hreadable⟩
    exact ⟨files,hfiles,hreadable.of_unlinked (hlinks.of_get hrun) _⟩
  · rintro ⟨files,hfiles,hreadable⟩
    exact ⟨files,hfiles,hreadable.of_unlinked hlinks _⟩

theorem journalStatus_congr (hlinks : store.Unlinked runId disk)
    (hrun : get (store.runPath runId) disk'.root = get (store.runPath runId) disk.root) :
    ((journalStatus crates store runId).exec (Disk.perform pid) disk').1 =
      ((journalStatus crates store runId).exec (Disk.perform pid) disk).1 := by
  have hiff : ∀ entries, read pid (readEntries crates store runId) disk' = .ok entries ↔ _ :=
    fun entries => read_readEntries_congr hlinks hrun
  unfold journalStatus
  rw [exec_bind,exec_bind,← Disk.read,← Disk.read]
  rcases hread : read pid (readEntries crates store runId) disk with e | entries
  · rcases hread' : read pid (readEntries crates store runId) disk' with e' | entries
    · rfl
    · cases hread.symm.trans ((hiff entries).1 hread')
  · rw [(hiff entries).2 hread]
    simp only
    cases entries.getLast? with
    | none => rfl
    | some last => rfl

theorem quarantinedStatus_congr (hquarantine : get (store.quarantinePath runId) disk'.root =
    get (store.quarantinePath runId) disk.root) :
    ((quarantinedStatus crates store (store.quarantinePath runId) runId).exec
        (Disk.perform pid) disk').1 =
      ((quarantinedStatus crates store (store.quarantinePath runId) runId).exec
        (Disk.perform pid) disk).1 := by
  have hiff : read pid (checkQuarantined crates store (store.quarantinePath runId) runId) disk' =
      .ok () ↔ read pid (checkQuarantined crates store (store.quarantinePath runId) runId) disk =
      .ok () := by
    rw [read_checkQuarantined,read_checkQuarantined,Quarantined,Quarantined,hquarantine]
  unfold quarantinedStatus
  rw [exec_bind,exec_bind,← Disk.read,← Disk.read]
  rcases hcheck : read pid (checkQuarantined crates store (store.quarantinePath runId) runId) disk
    with e | ⟨⟩
  · rcases hcheck' : read pid (checkQuarantined crates store (store.quarantinePath runId) runId)
      disk' with e' | ⟨⟩
    · rfl
    · cases hcheck.symm.trans (hiff.1 hcheck')
  · rw [hiff.2 hcheck]
    rfl

theorem runStatus_of_valid (hid : validateRunId runId = .ok ()) :
    runStatus crates store (.ofStr runId) = journalStatus crates store runId := by
  have hstrip : Text.stripPrefix runId quarantinePrefix = none := by
    rcases hstrip : Text.stripPrefix runId quarantinePrefix with _ | other
    · rfl
    · refine absurd ?_ (ne_quarantine_of_valid hid other)
      rw [← String.toList_inj,Text.stripPrefix_eq_some.1 hstrip,String.toList_append]
  unfold runStatus OsString.ofStr
  simp only [Text.fromUtf8_bytes,hstrip,hid,if_true]

def reportNames (runId : String) : List OsString :=
  [.ofStr runId,.ofStr (quarantinePrefix++runId)]

theorem runStatus_congr (hid : validateRunId runId = .ok ()) (hlinks : store.Unlinked runId disk)
    (hview : view store runId disk' = view store runId disk) (hname : name ∈ reportNames runId) :
    ((runStatus crates store name).exec (Disk.perform pid) disk').1 =
      ((runStatus crates store name).exec (Disk.perform pid) disk).1 := by
  rcases List.mem_pair.1 hname with rfl | rfl
  · rw [runStatus_of_valid hid]
    exact journalStatus_congr hlinks (congrArg RunView.run hview)
  · have hstatus : runStatus crates store (.ofStr (quarantinePrefix++runId)) =
        quarantinedStatus crates store (store.quarantinePath runId) runId := by
      unfold runStatus OsString.ofStr
      simp only [Text.fromUtf8_bytes,Text.stripPrefix_eq_some.2 String.toList_append]
      rfl
    rw [hstatus]
    exact quarantinedStatus_congr (congrArg RunView.quarantine hview)

theorem view_afterSteps_of_ne (hid : validateRunId runId = .ok ()) {steps : List JournalStep}
    (hothers : ∀ step ∈ steps, step.call.runId ≠ runId) :
    view store runId (afterSteps crates store pid steps disk) = view store runId disk := by
  induction steps generalizing disk with
  | nil => rfl
  | cons step steps ih =>
    obtain ⟨hstep,hsteps⟩ := List.forall_mem_cons.1 hothers
    exact (ih hsteps).trans (view_afterStep_of_ne hid hstep)

/-- Calls for other runs, whatever they meet, leave what stands under the names of a run and its
lines as they are. -/
theorem runStatus_afterSteps (hid : validateRunId runId = .ok ())
    (hlinks : store.Unlinked runId disk) {steps : List JournalStep}
    (hothers : ∀ step ∈ steps, step.call.runId ≠ runId) :
    ∀ name ∈ reportNames runId,
      get (store.root++[.ofStr runsDir,name]) (afterSteps crates store pid steps disk).root =
        get (store.root++[.ofStr runsDir,name]) disk.root ∧
      ((runStatus crates store name).exec (Disk.perform pid)
        (afterSteps crates store pid steps disk)).1 =
        ((runStatus crates store name).exec (Disk.perform pid) disk).1 := by
  intro name hname
  have hview : view store runId (afterSteps crates store pid steps disk) = view store runId disk :=
    view_afterSteps_of_ne hid hothers
  refine ⟨?_,runStatus_congr hid hlinks hview hname⟩
  rcases List.mem_pair.1 hname with rfl | rfl
  · exact congrArg RunView.run hview
  · exact congrArg RunView.quarantine hview

/-- Another run is created, by a process that is killed as it writes the marker. -/
def sampleKilled : JournalStep :=
  ⟨.createRun sampleStore.rootToken "2026-01-01T00:00:02Z",[.proceed,.proceed,.proceed,.cut 10]⟩

/-- Another run is killed as its marker is written: its directory is there, and the first run is
reported as before. -/
theorem runStatus_afterSteps_sample :
    (suffer 0 sampleKilled.faults (sampleKilled.call.call Crates.reference sampleStore).run
        sampleDisk).1 = none ∧
      (get (sampleStore.runPath sampleStore.rootToken)
        (afterStep Crates.reference sampleStore 0 sampleDisk sampleKilled).root).isSome = true ∧
      ((runStatus Crates.reference sampleStore (.ofStr sampleRun)).exec (Disk.perform 0)
        (afterSteps Crates.reference sampleStore 0 [sampleKilled] sampleDisk)).1 =
        ⟨sampleRun,some .created,.restartable⟩ := by
  have hvalid : validateRunId sampleRun = .ok () := by decide +kernel
  have hline : ((journalStatus Crates.reference sampleStore sampleRun).exec (Disk.perform 0)
      sampleDisk).1 = ⟨sampleRun,some .created,.restartable⟩ := by
    unfold journalStatus
    rw [exec_bind,← Disk.read,read_sampleDisk]
    rfl
  rw [← runStatus_of_valid hvalid] at hline
  refine ⟨by decide +kernel,by decide +kernel,?_⟩
  exact ((runStatus_afterSteps hvalid unlinked_sampleDisk (by decide +kernel) (.ofStr sampleRun)
    (by simp [reportNames])).2).trans hline

/-- However `recover apply` ends, it has changed nothing, or a run that was reported as active is
now reported as quarantined. -/
theorem reports_apply (faults : List Fault) :
    afterStep crates store pid disk ⟨.apply runId,faults⟩ = disk ∨
    ∃ state, state.classify ≠ .terminal ∧
      Reports crates store disk (.ofStr runId) ⟨runId,some state,state.classify⟩ ∧
      get (store.quarantinePath runId) disk.root = none ∧
      Reports crates store (afterStep crates store pid disk ⟨.apply runId,faults⟩)
        (.ofStr (quarantinePrefix++runId)) ⟨runId,none,.quarantined⟩ ∧
      get (store.runPath runId) (afterStep crates store pid disk ⟨.apply runId,faults⟩).root =
        none := by
  by_cases hid : validateRunId runId = .ok ()
  case neg => exact Or.inl (afterStep_of_invalid hid)
  have hdisk : afterStep crates store pid disk ⟨.apply runId,faults⟩ =
    (suffer pid faults (apply crates store runId).run disk).2 := suffer_bind_pure _
  rw [hdisk]
  rcases suffer_apply_cases with hsame | ⟨entries,last,hread,hlast,hactive,habsent,hmoved⟩
  · exact Or.inl hsame
  obtain ⟨files,hrun,hreadable⟩ := read_readEntries.1 hread
  obtain ⟨node,marker,hmarker⟩ := hreadable.marker
  have hline : Journaled crates store disk (.ofStr runId) runId last.state :=
    ⟨hid,rfl,files,entries,last,hrun,hreadable,hlast,rfl⟩
  rw [runPath_eq] at hrun
  rw [quarantinePath_eq] at habsent
  obtain ⟨hgone,hthere⟩ := get_move hrun habsent
  rw [hmoved,runPath_eq,quarantinePath_eq]
  refine Or.inr ⟨_,hactive,.journaled hline,habsent,
    .quarantined ⟨hid,rfl,files,node,marker,?_,hmarker⟩,hgone⟩
  rwa [quarantinePath_eq]

end

end RunJournalStore
end CommitCiPreflight
