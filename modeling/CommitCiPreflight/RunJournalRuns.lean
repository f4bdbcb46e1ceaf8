import CommitCiPreflight.RunJournalHistory

/-! What holds of a run's journal over whole sequences of calls. -/
namespace CommitCiPreflight

open Disk FileTree Program

namespace RunJournalStore

section

variable {runId : String} {entries : List RunJournalEntryV1} {entry : RunJournalEntryV1}

theorem legal_of_history {before after : List RunJournalEntryV1} {a b : RunJournalEntryV1}
    (h : History runId (before++a::b::after)) : legalTransition a.state b.state = true := by
  have hbegin : before++a::b::after = ((before++[a])++[b])++after := by simp
  rw [hbegin] at h
  obtain ⟨-,-,legal⟩ := history_append_singleton.1 (history_of_append h)
  exact legal a List.getLast?_concat

theorem valid_of_history (h : History runId entries) (hentry : entry ∈ entries) :
    ∃ seq, validateEntry entry runId seq = .ok () := by
  obtain ⟨before,after,rfl⟩ := List.append_of_mem hentry
  rw [List.append_cons] at h
  obtain ⟨-,valid,-⟩ := history_append_singleton.1 (history_of_append h)
  exact ⟨_,valid⟩

theorem created_of_history (h : History runId (entries++[entry])) :
    entry.state = .created ↔ entries = [] := by
  obtain ⟨hhistory,valid,legal⟩ := history_append_singleton.1 h
  obtain ⟨-,-,-,-,-,hfirst⟩ := validateEntry_eq_ok.1 valid
  constructor
  · intro hcreated
    cases hlast : entries.getLast? with
    | none => exact List.getLast?_eq_none_iff.1 hlast
    | some last =>
      have hlt := rank_lt_of_legalTransition (legal last hlast)
      rw [hcreated] at hlt
      exact absurd hlt (Nat.not_lt_zero _)
  · rintro rfl
    exact hfirst rfl

/-- The states on the way to a sealed run. -/
def sealingPath : RunJournalStateV1 → Option (List RunJournalStateV1)
  | .created => some [.created]
  | .admitted => some [.created,.admitted]
  | .prepared => some [.created,.admitted,.prepared]
  | .executing => some [.created,.admitted,.prepared,.executing]
  | .finalizing => some [.created,.admitted,.prepared,.executing,.finalizing]
  | .sealed => some [.created,.admitted,.prepared,.executing,.finalizing,.sealed]
  | .cleanupPending | .failed => none

theorem sealingPath_of_legal {previous next : RunJournalStateV1} {path : List RunJournalStateV1}
    (h : legalTransition previous next = true) (hpath : sealingPath next = some path) :
    ∃ before, sealingPath previous = some before ∧ path = before++[next] := by
  cases previous <;> cases next <;> first | exact absurd h Bool.false_ne_true | cases hpath
  all_goals exact ⟨_,rfl,rfl⟩

theorem states_of_history (h : History runId entries) :
    ∀ last ∈ entries.getLast?, ∀ path ∈ sealingPath last.state, entries.map (·.state) = path := by
  induction h with
  | nil => simp
  | snoc h valid legal ih =>
    rename_i entries entry
    intro last hlast path hpath
    rw [List.getLast?_concat,Option.mem_some_iff] at hlast
    subst hlast
    rw [List.map_append,List.map_singleton]
    cases hprevious : entries.getLast? with
    | none =>
      obtain rfl := List.getLast?_eq_none_iff.1 hprevious
      have hcreated := (created_of_history (.snoc h valid legal)).2 rfl
      rw [hcreated] at hpath ⊢
      exact Option.some.inj hpath
    | some previous =>
      obtain ⟨before,hbefore,rfl⟩ := sealingPath_of_legal (legal previous hprevious) hpath
      rw [ih previous hprevious before hbefore]

theorem states_of_sealed (h : History runId entries) (hentry : entry ∈ entries)
    (hsealed : entry.state = .sealed) :
    entries.map (·.state) = [.created,.admitted,.prepared,.executing,.finalizing,.sealed] := by
  obtain ⟨before,after,rfl⟩ := List.append_of_mem hentry
  cases after with
  | nil =>
    refine states_of_history h entry List.getLast?_concat _ ?_
    rw [hsealed]
    rfl
  | cons next after =>
    have hlegal := legal_of_history h
    rw [hsealed] at hlegal
    cases hlegal

theorem toNat_seq_of_history (h : History runId entries) :
    entries.map (fun entry => entry.seq.toNat) = List.range entries.length := by
  have hseq := congrArg (List.map UInt64.toNat) (seq_of_history h)
  have hlength := length_lt_of_history h
  rw [List.map_map,List.map_map] at hseq
  refine hseq.trans ((List.map_congr_left fun i hi => ?_).trans (List.map_id _))
  have hi := List.mem_range.1 hi
  exact Nat.mod_eq_of_lt (by omega)

theorem seq_getElem (h : History runId entries) {i : ℕ} (hi : i < entries.length) :
    entries[i].seq.toNat = i := by
  have hseq : (entries.map fun entry => entry.seq.toNat)[i]? = some i := by
    rw [toNat_seq_of_history h,List.getElem?_range hi]
  rw [List.getElem?_map,List.getElem?_eq_getElem hi,Option.map_some,Option.some.injEq] at hseq
  exact hseq

end

def Extends (files files' : RunFiles) : Prop :=
  ∀ name content, lookupEntry name files = some (.file content) →
    lookupEntry name files' = some (.file content)

section

variable {crates : Crates} {store : RunJournalStore} {broken broken' : OsString → Prop}
  {runId : String} {files files' : RunFiles} {entries entries' : List RunJournalEntryV1}
  {entry : RunJournalEntryV1}

theorem extends_insertEntry {name : OsString} {node : FileTree OsString}
    (h : lookupEntry name files = none) : Extends files (insertEntry name node files) := by
  intro other content hother
  rw [lookupEntry_insertEntry,if_neg]
  · exact hother
  · rintro rfl
    rw [h] at hother
    cases hother

theorem Extends.trans {files'' : RunFiles} (h : Extends files files') (h' : Extends files' files'') :
    Extends files files'' :=
  fun name content hname => h' name content (h name content hname)

theorem mem_of_extends (h : Readable crates store broken runId files entries)
    (h' : Readable crates store broken' runId files' entries') (hext : Extends files files')
    (hentry : entry ∈ entries) : entry ∈ entries' := by
  obtain ⟨content,hcontent,hslice⟩ := h.files entry hentry
  have hlookup := hext _ _ hcontent
  have hname : entryFile entry ∈ entryNames files' := by
    refine mem_entryNames.2 ⟨?_,entryFile_not_reserved entry⟩
    by_contra hmem
    rw [lookupEntry_eq_none_iff.2 hmem] at hlookup
    cases hlookup
  rw [h'.names] at hname
  obtain ⟨other,hother,hsame⟩ := List.mem_map.1 hname
  obtain ⟨content',hcontent',hslice'⟩ := h'.files other hother
  rw [hsame,hlookup] at hcontent'
  cases hcontent'
  rw [hslice] at hslice'
  cases hslice'
  exact hother

theorem getElem?_of_mem (h : History runId entries) (hentry : entry ∈ entries) :
    entries[entry.seq.toNat]? = some entry := by
  obtain ⟨i,hi,rfl⟩ := List.mem_iff_getElem.1 hentry
  rw [seq_getElem h hi]
  exact List.getElem?_eq_getElem hi

theorem prefix_of_extends (h : Readable crates store broken runId files entries)
    (h' : Readable crates store broken' runId files' entries') (hext : Extends files files') :
    entries <+: entries' := by
  rw [List.prefix_iff_getElem?]
  intro i hi
  have hfound := getElem?_of_mem h'.history (mem_of_extends h h' hext (List.getElem_mem hi))
  rw [seq_getElem h.history hi] at hfound
  exact hfound

end

section

variable {crates : Crates} {store : RunJournalStore} {runId : String} {call : JournalCall}
  {v v' : RunView} {broken : OsString → Prop} {files : RunFiles} {entries : List RunJournalEntryV1}

/-- A run that is not moved keeps its files. -/
theorem RunChange.extends (h : RunChange crates store runId call v v')
    (hv : v.run = some (.directory files)) (hstays : v'.run ≠ none) :
    ∃ files', v'.run = some (.directory files') ∧ Extends files files' := by
  cases h with
  | same v => exact ⟨files,hv,fun _ _ hname => hname⟩
  | created names => cases hv
  | beside fresh reserved =>
    cases hv
    exact ⟨_,rfl,extends_insertEntry fresh⟩
  | appended readable hlast next dedicated =>
    cases hv
    refine ⟨_,rfl,extends_insertEntry ?_⟩
    exact lookupEntry_eq_none_iff.2 (entryFile_fresh readable next)
  | moved hcall readable hlast active => exact absurd rfl hstays

/-- The files of a run are those of the entries. -/
structure Holds (crates : Crates) (files : RunFiles) (entries : List RunJournalEntryV1) : Prop where
  names : entryNames files = entries.map entryFile
  files : ∀ entry ∈ entries, EntryFile crates files entry

theorem Readable.holds (h : Readable crates store broken runId files entries) :
    Holds crates files entries :=
  ⟨h.names,h.files⟩

theorem Holds.unique {entries' : List RunJournalEntryV1} (h : Holds crates files entries)
    (h' : Holds crates files entries') : entries = entries' := by
  have hnames : entries.map entryFile = entries'.map entryFile := h.names.symm.trans h'.names
  refine List.ext_getElem (by simpa using congrArg List.length hnames) fun i hi hi' => ?_
  have hname : entryFile entries[i] = entryFile entries'[i] := by
    have hget := congrArg (fun names => names[i]?) hnames
    simpa [hi,hi'] using hget
  obtain ⟨content,hcontent,hslice⟩ := h.files _ (List.getElem_mem hi)
  obtain ⟨content',hcontent',hslice'⟩ := h'.files _ (List.getElem_mem hi')
  rw [hname,hcontent'] at hcontent
  cases hcontent
  rw [hslice] at hslice'
  exact Option.some.inj hslice'

theorem holds_insertEntry {name : OsString} {node : FileTree OsString}
    (h : Holds crates files entries) (fresh : lookupEntry name files = none)
    (reserved : name ∈ reservedNames) : Holds crates (insertEntry name node files) entries := by
  refine ⟨?_,fun entry hentry => ?_⟩
  · rw [entryNames_insertEntry_reserved (lookupEntry_eq_none_iff.1 fresh) reserved,h.names]
  · obtain ⟨content,hcontent,hslice⟩ := h.files entry hentry
    exact ⟨content,extends_insertEntry fresh _ _ hcontent,hslice⟩

theorem not_legal_of_terminal {state next : RunJournalStateV1} (h : state.classify = .terminal) :
    legalTransition state next = false := by
  cases state <;> first | rfl | cases h

/-- To a run that has ended nothing is appended. -/
theorem RunChange.holds (h : RunChange crates store runId call v v') {last : RunJournalEntryV1}
    (hv : v.run = some (.directory files)) (hholds : Holds crates files entries)
    (hlast : entries.getLast? = some last) (hterminal : last.state.classify = .terminal)
    (hstays : v'.run ≠ none) :
    ∃ files', v'.run = some (.directory files') ∧ Holds crates files' entries := by
  cases h with
  | same v => exact ⟨files,hv,hholds⟩
  | created names => cases hv
  | beside fresh reserved =>
    cases hv
    exact ⟨_,rfl,holds_insertEntry hholds fresh reserved⟩
  | appended readable hlast' next dedicated =>
    cases hv
    obtain rfl := hholds.unique readable.holds
    rw [hlast] at hlast'
    cases hlast'
    obtain ⟨-,-,legal⟩ := history_append_singleton.1 next
    exact absurd (legal last hlast) (by simp [not_legal_of_terminal hterminal])
  | moved hcall readable hlast' active => exact absurd rfl hstays

def Has (v : RunView) (name : OsString) : Prop :=
  ∃ files, v.run = some (.directory files) ∧ name ∈ files.map Prod.fst

theorem entryName_inj {seq seq' : UInt64} {state state' : RunJournalStateV1}
    (h : OsString.ofStr (entryName seq state) = .ofStr (entryName seq' state')) :
    seq = seq' ∧ state = state' := by
  have hlt : ∀ {m n : UInt64} {s t : RunJournalStateV1}, m.toNat < n.toNat →
      OsString.ofStr (entryName m s) ≠ .ofStr (entryName n t) := by
    intro m n s t hmn
    have hfile : entryFile ⟨"","",m,s,"",none⟩ < entryFile ⟨"","",n,t,"",none⟩ :=
      entryFile_lt (UInt64.lt_iff_toNat_lt.2 hmn)
    exact hfile.ne
  have hseq : seq = seq' := by
    rcases lt_trichotomy seq.toNat seq'.toNat with hmn | heq | hmn
    · exact absurd h (hlt hmn)
    · exact UInt64.toNat_inj.1 heq
    · exact absurd h.symm (hlt hmn)
  refine ⟨hseq,?_⟩
  have htext := congrArg String.toList (OsString.ofStr_injective h)
  unfold entryName at htext
  rw [hseq,String.toList_append (s := Text.padded 20 _),String.toList_append (s := Text.padded 20 _),
    List.append_cancel_left_eq] at htext
  have hstates : ∀ a b : RunJournalStateV1, ("-"++stateName a++".json").toList =
      ("-"++stateName b++".json").toList → a = b := by
    intro a b
    cases a <;> cases b <;> decide
  exact hstates state state' htext

/-- The file of pending cleanup right after the creation. -/
def earlyCleanup : OsString := .ofStr (entryName 1 .cleanupPending)

theorem earlyCleanup_not_initial :
    ¬ (earlyCleanup ∈ reservedNames ∨ earlyCleanup = .ofStr (entryName 0 .created)) := by
  decide +kernel

theorem eq_of_has_insertEntry {q : Option (FileTree OsString)} {name other : OsString}
    {node : FileTree OsString} (h : ¬ Has ⟨some (.directory files),q⟩ other)
    (hmem : other ∈ (insertEntry name node files).map Prod.fst) : other = name := by
  obtain ⟨e,he,hfst⟩ := List.mem_map.1 hmem
  rcases mem_insertEntry he with rfl | he
  · exact hfst.symm
  · exact absurd ⟨files,rfl,List.mem_map.2 ⟨e,he,hfst⟩⟩ h

theorem created_of_earlyCleanup {last entry : RunJournalEntryV1}
    (h : History runId (entries++[entry])) (hlast : entries.getLast? = some last)
    (hname : earlyCleanup = entryFile entry) :
    last.state = .created ∧ entry.state = .cleanupPending := by
  unfold earlyCleanup entryFile at hname
  obtain ⟨hseq,hstate⟩ := entryName_inj hname
  obtain ⟨hhistory,valid,-⟩ := history_append_singleton.1 h
  obtain ⟨-,-,hlength,-⟩ := validateEntry_eq_ok.1 valid
  have hlt := length_lt_of_history hhistory
  have hone : entries.length = 1 := by
    have hnat := congrArg UInt64.toNat (hseq.trans hlength)
    simp only [Nat.toUInt64_eq,UInt64.toNat_ofNat'] at hnat
    change 1 = _ at hnat
    omega
  obtain ⟨first,rfl⟩ := List.length_eq_one_iff.1 hone
  cases hlast
  have hfirst : History runId ([]++[first]) := hhistory
  exact ⟨(created_of_history hfirst).2 rfl,hstate.symm⟩

theorem RunChange.dedicated_of_has (h : RunChange crates store runId call v v')
    (hbefore : ¬ Has v earlyCleanup) (hafter : Has v' earlyCleanup) :
    ∃ atUtc, call = .cleanupPending runId atUtc := by
  obtain ⟨files',hv',hmem⟩ := hafter
  cases h with
  | same v => exact absurd ⟨files',hv',hmem⟩ hbefore
  | created names =>
    cases hv'
    exact absurd (names _ hmem) earlyCleanup_not_initial
  | beside fresh reserved =>
    cases hv'
    have hname := eq_of_has_insertEntry hbefore hmem
    exact absurd (Or.inl (hname ▸ reserved)) earlyCleanup_not_initial
  | appended readable hlast next dedicated =>
    cases hv'
    obtain ⟨hcreated,hstate⟩ :=
      created_of_earlyCleanup next hlast (eq_of_has_insertEntry hbefore hmem)
    exact dedicated hcreated hstate
  | moved hcall readable hlast active => cases hv'

end

section

variable (crates : Crates) (store : RunJournalStore) (pid : ℕ) (runId : String)

/-- No call of the sequence takes the run away. -/
def Stays : List JournalStep → Disk OsString → Prop
  | [],_ => True
  | step::steps,disk =>
    ¬ ((view store runId disk).run ≠ none ∧
      (view store runId (afterStep crates store pid disk step)).run = none) ∧
      Stays steps (afterStep crates store pid disk step)

/-- The run is absent before and after every call of the sequence. -/
def StaysAbsent : List JournalStep → Disk OsString → Prop
  | [],disk => (view store runId disk).run = none
  | step::steps,disk => (view store runId disk).run = none ∧
      StaysAbsent steps (afterStep crates store pid disk step)

/-- The step adds a file of that name to the run. -/
def Adds (disk : Disk OsString) (step : JournalStep) (name : OsString) : Prop :=
  ¬ Has (view store runId disk) name ∧
    Has (view store runId (afterStep crates store pid disk step)) name

variable {crates store pid runId} {disk : Disk OsString} {steps : List JournalStep}
  {files : RunFiles} {entries : List RunJournalEntryV1}

theorem extends_of_stays (hid : validateRunId runId = .ok ())
    (hv : (view store runId disk).run = some (.directory files))
    (hstays : Stays crates store pid runId steps disk) :
    ∃ files', (view store runId (afterSteps crates store pid steps disk)).run =
      some (.directory files') ∧ Extends files files' := by
  induction steps generalizing disk files with
  | nil => exact ⟨files,hv,fun _ _ hname => hname⟩
  | cons step steps ih =>
    obtain ⟨hstep,hrest⟩ := hstays
    obtain ⟨files₁,hv₁,hext₁⟩ := (runChange hid step disk).extends hv
      fun hgone => hstep ⟨by simp [hv],hgone⟩
    obtain ⟨files₂,hv₂,hext₂⟩ := ih hv₁ hrest
    exact ⟨files₂,hv₂,hext₁.trans hext₂⟩

theorem holds_of_stays (hid : validateRunId runId = .ok ()) {last : RunJournalEntryV1}
    (hv : (view store runId disk).run = some (.directory files)) (hholds : Holds crates files entries)
    (hlast : entries.getLast? = some last) (hterminal : last.state.classify = .terminal)
    (hstays : Stays crates store pid runId steps disk) :
    ∃ files', (view store runId (afterSteps crates store pid steps disk)).run =
      some (.directory files') ∧ Holds crates files' entries := by
  induction steps generalizing disk files with
  | nil => exact ⟨files,hv,hholds⟩
  | cons step steps ih =>
    obtain ⟨hstep,hrest⟩ := hstays
    obtain ⟨files₁,hv₁,hholds₁⟩ := (runChange hid step disk).holds hv hholds hlast hterminal
      fun hgone => hstep ⟨by simp [hv],hgone⟩
    exact ih hv₁ hholds₁ hrest

/-- A file that was not there is added by a step. -/
theorem exists_adds {name : OsString} (hbefore : ¬ Has (view store runId disk) name)
    (hafter : Has (view store runId (afterSteps crates store pid steps disk)) name) :
    ∃ earlier step later, steps = earlier++step::later ∧
      Adds crates store pid runId (afterSteps crates store pid earlier disk) step name := by
  induction steps generalizing disk with
  | nil => exact absurd hafter hbefore
  | cons step steps ih =>
    by_cases hstep : Has (view store runId (afterStep crates store pid disk step)) name
    · exact ⟨[],step,steps,rfl,hbefore,hstep⟩
    · obtain ⟨earlier,other,later,rfl,hadds⟩ := ih hstep hafter
      exact ⟨step::earlier,other,later,rfl,hadds⟩

theorem quarantine_of_staysAbsent (hid : validateRunId runId = .ok ())
    (habsent : StaysAbsent crates store pid runId steps disk) :
    view store runId (afterSteps crates store pid steps disk) = view store runId disk := by
  induction steps generalizing disk with
  | nil => rfl
  | cons step steps ih =>
    obtain ⟨hbefore,hrest⟩ := habsent
    refine (ih hrest).trans ?_
    have hafter : (view store runId (afterStep crates store pid disk step)).run = none := by
      cases steps with
      | nil => exact hrest
      | cons next steps => exact hrest.1
    have hchange : RunChange crates store runId step.call (view store runId disk)
        (view store runId (afterStep crates store pid disk step)) := runChange hid step disk
    generalize view store runId disk = v at hbefore hchange ⊢
    generalize view store runId (afterStep crates store pid disk step) = v' at hafter hchange ⊢
    cases hchange with
    | same v => rfl
    | created names => cases hafter
    | beside fresh reserved => cases hafter
    | appended readable hlast next dedicated => cases hafter
    | moved hcall readable hlast active => cases hbefore

theorem view_eq (runId : String) (disk : Disk OsString) :
    (view store runId disk).run = get (store.runPath runId) disk.root := rfl

theorem read_apply_of_moved (hid : validateRunId runId = .ok ()) {broken : OsString → Prop}
    (hreadable : Readable crates store broken runId files entries)
    (hview : view store runId disk = ⟨none,some (.directory files)⟩) :
    read pid (apply crates store runId) disk = .ok (quarantinedResult runId) := by
  have hrun : get (store.runPath runId) disk.root = none := congrArg RunView.run hview
  have hquarantine : get (store.quarantinePath runId) disk.root = some (.directory files) :=
    congrArg RunView.quarantine hview
  unfold apply
  rw [read_ofExcept_bind,hid]
  change read pid (liftM (pathExists (store.quarantinePath runId)) >>= _) disk = _
  rw [read_lift_bind (uses_pathExists _),exec_pathExists_of_get hquarantine (by simp)]
  change read pid (reapply crates store runId) disk = _
  unfold reapply
  rw [read_lift_bind (uses_pathExists _),exec_pathExists_of_none hrun,read_bind uses_ensure,
    (read_ensure_eq_ok (u := ())).2 rfl]
  change read pid (validateRunMarker crates store (store.quarantinePath runId) runId >>= _) disk = _
  rw [read_bind uses_validateRunMarker,(read_validateRunMarker hquarantine).2 hreadable.marker]
  rfl

end

/-- A history as the journal promises it. -/
structure WellFormed (entries : List RunJournalEntryV1) : Prop where
  numbered : entries.map (fun entry => entry.seq.toNat) = List.range entries.length
  first : ∀ entry ∈ entries.head?, entry.state = .created
  legal : ∀ before a b after, entries = before++a::b::after →
    legalTransition a.state b.state = true
  failure : ∀ entry ∈ entries, entry.state = .failed ↔ entry.failureKind.isSome = true
  sealing : ∀ entry ∈ entries, entry.state = .sealed →
    entries.map (·.state) = [.created,.admitted,.prepared,.executing,.finalizing,.sealed]

theorem wellFormed_of_history {runId : String} {entries : List RunJournalEntryV1}
    (h : History runId entries) : WellFormed entries where
  numbered := toNat_seq_of_history h
  first := by
    intro entry hentry
    obtain ⟨rest,rfl⟩ := List.head?_eq_some_iff.1 hentry
    have hsplit : History runId (([]++[entry])++rest) := h
    exact (created_of_history (history_of_append hsplit)).2 rfl
  legal := by
    rintro before a b after rfl
    exact legal_of_history h
  failure := by
    intro entry hentry
    obtain ⟨seq,valid⟩ := valid_of_history h hentry
    obtain ⟨-,-,-,-,hkind,-⟩ := validateEntry_eq_ok.1 valid
    rw [← hkind,decide_eq_true_iff]
  sealing := fun entry hentry hsealed => states_of_sealed h hentry hsealed

variable (crates : Crates) (store : RunJournalStore) (pid : ℕ) (runId : String)

/-- What the journal of a run keeps over every sequence of calls, under every fault. -/
structure HistoryKept : Prop where
  /-- What is read is a history. -/
  wellFormed : ∀ disk entries, read pid (readEntries crates store runId) disk = .ok entries →
    WellFormed entries
  /-- A history that was read begins every later one. -/
  grows : ∀ disk steps entries entries', read pid (readEntries crates store runId) disk = .ok entries →
    Stays crates store pid runId steps disk →
    read pid (readEntries crates store runId) (afterSteps crates store pid steps disk) = .ok entries' →
    entries <+: entries'
  /-- After `Failed` or `Sealed` the files of the entries stay as they are. -/
  ends : ∀ disk steps entries last, read pid (readEntries crates store runId) disk = .ok entries →
    entries.getLast? = some last → (last.state = .failed ∨ last.state = .sealed) →
    Stays crates store pid runId steps disk →
    ∃ files, get (store.runPath runId) (afterSteps crates store pid steps disk).root =
      some (.directory files) ∧ Holds crates files entries
  /-- `CleanupPending` follows `Created` by the dedicated call only: a step adds its entry, and
  whichever does so is that call. -/
  dedicated : ∀ disk steps before a b after, get (store.runPath runId) disk.root = none →
    read pid (readEntries crates store runId) (afterSteps crates store pid steps disk) =
      .ok (before++a::b::after) → a.state = .created → b.state = .cleanupPending →
    (∃ earlier step later, steps = earlier++step::later ∧
      Adds crates store pid runId (afterSteps crates store pid earlier disk) step (entryFile b)) ∧
    ∀ earlier step later, steps = earlier++step::later →
      Adds crates store pid runId (afterSteps crates store pid earlier disk) step (entryFile b) →
      ∃ atUtc, step.call = .cleanupPending runId atUtc
  /-- `apply` leaves a run alone that has ended. -/
  unmoved : ∀ disk faults entries last, read pid (readEntries crates store runId) disk = .ok entries →
    entries.getLast? = some last → (last.state = .failed ∨ last.state = .sealed) →
    afterStep crates store pid disk ⟨.apply runId,faults⟩ = disk
  /-- A run that a call takes away is quarantined as it was, and found there until its id is
  created again. -/
  quarantined : ∀ disk step node, get (store.runPath runId) disk.root = some node →
    get (store.runPath runId) (afterStep crates store pid disk step).root = none →
    step.call = .apply runId ∧
    ∀ steps, StaysAbsent crates store pid runId steps (afterStep crates store pid disk step) →
      get (store.quarantinePath runId) (afterSteps crates store pid steps
        (afterStep crates store pid disk step)).root = some node ∧
      read pid (apply crates store runId) (afterSteps crates store pid steps
        (afterStep crates store pid disk step)) = .ok (quarantinedResult runId)

section

variable {crates store pid runId} {disk : Disk OsString} {entries : List RunJournalEntryV1}

theorem terminal_of_state {state : RunJournalStateV1} (h : state = .failed ∨ state = .sealed) :
    state.classify = .terminal := by
  rcases h with rfl | rfl
  · rfl
  · rfl

theorem has_earlyCleanup {before after : List RunJournalEntryV1} {a b : RunJournalEntryV1}
    (hread : read pid (readEntries crates store runId) disk = .ok (before++a::b::after))
    (ha : a.state = .created) (hb : b.state = .cleanupPending) :
    entryFile b = earlyCleanup ∧ Has (view store runId disk) earlyCleanup := by
  obtain ⟨files,hrun,hreadable⟩ := read_readEntries.1 hread
  have hsplit : History runId ((before++[a])++(b::after)) := by simpa using hreadable.history
  obtain rfl := (created_of_history (history_of_append hsplit)).1 ha
  have hmem : b ∈ []++a::b::after := by simp
  have hseq : b.seq = 1 := UInt64.toNat_inj.1 (seq_getElem hreadable.history (i := 1) (by simp))
  have hname : entryFile b ∈ entryNames files := by
    rw [hreadable.names]
    exact List.mem_map_of_mem hmem
  have hfile : entryFile b = earlyCleanup := by
    unfold entryFile earlyCleanup
    rw [hseq,hb]
  refine ⟨hfile,files,hrun,?_⟩
  rw [← hfile]
  exact (mem_entryNames.1 hname).1

theorem afterStep_apply_of_terminal {faults : List Fault} {last : RunJournalEntryV1}
    (hread : read pid (readEntries crates store runId) disk = .ok entries)
    (hlast : entries.getLast? = some last) (hterminal : last.state.classify = .terminal) :
    afterStep crates store pid disk ⟨.apply runId,faults⟩ = disk := by
  have hdisk : afterStep crates store pid disk ⟨.apply runId,faults⟩ =
    (suffer pid faults (apply crates store runId).run disk).2 := suffer_bind_pure _
  rw [hdisk]
  rcases suffer_apply_cases with hsame | ⟨entries',last',hread',hlast',hactive,-⟩
  · exact hsame
  · rw [hread] at hread'
    cases hread'
    rw [hlast] at hlast'
    cases hlast'
    exact absurd hterminal hactive

/-- A run that a call takes away was readable and stands in quarantine afterwards. -/
theorem moved_of_gone (hid : validateRunId runId = .ok ()) {step : JournalStep}
    {node : FileTree OsString} (hbefore : get (store.runPath runId) disk.root = some node)
    (hgone : get (store.runPath runId) (afterStep crates store pid disk step).root = none) :
    step.call = .apply runId ∧ ∃ broken files entries, node = .directory files ∧
      Readable crates store broken runId files entries ∧
      view store runId (afterStep crates store pid disk step) = ⟨none,some (.directory files)⟩ := by
  have hchange : RunChange crates store runId step.call (view store runId disk)
      (view store runId (afterStep crates store pid disk step)) := runChange hid step disk
  rw [← view_eq] at hbefore hgone
  generalize view store runId disk = v at hbefore hchange
  generalize view store runId (afterStep crates store pid disk step) = v' at hgone hchange ⊢
  cases hchange with
  | same v =>
    rw [hbefore] at hgone
    cases hgone
  | created names => cases hgone
  | beside fresh reserved => cases hgone
  | appended readable hlast next dedicated => cases hgone
  | moved hcall readable hlast active =>
    cases hbefore
    exact ⟨hcall,_,_,_,rfl,readable,rfl⟩

/-- The journal of every run keeps its history. -/
theorem run_journal_history_kept (hid : validateRunId runId = .ok ()) :
    HistoryKept crates store pid runId where
  wellFormed disk entries hread := by
    obtain ⟨files,-,hreadable⟩ := read_readEntries.1 hread
    exact wellFormed_of_history hreadable.history
  grows disk steps entries entries' hread hstays hread' := by
    obtain ⟨files,hrun,hreadable⟩ := read_readEntries.1 hread
    obtain ⟨files',hrun',hreadable'⟩ := read_readEntries.1 hread'
    obtain ⟨files₁,hrun₁,hext⟩ := extends_of_stays hid hrun hstays
    rw [view_eq,hrun'] at hrun₁
    cases hrun₁
    exact prefix_of_extends hreadable hreadable' hext
  ends disk steps entries last hread hlast hstate hstays := by
    obtain ⟨files,hrun,hreadable⟩ := read_readEntries.1 hread
    exact holds_of_stays hid hrun hreadable.holds hlast (terminal_of_state hstate) hstays
  dedicated disk steps before a b after habsent hread ha hb := by
    obtain ⟨hfile,hhas⟩ := has_earlyCleanup hread ha hb
    rw [hfile]
    refine ⟨exists_adds ?_ hhas,fun earlier step later _ hadds => ?_⟩
    · rintro ⟨files,hrun,-⟩
      rw [view_eq,habsent] at hrun
      cases hrun
    · exact (runChange hid step _).dedicated_of_has hadds.1 hadds.2
  unmoved disk faults entries last hread hlast hstate :=
    afterStep_apply_of_terminal hread hlast (terminal_of_state hstate)
  quarantined disk step node hbefore hgone := by
    obtain ⟨hcall,broken,files,entries,rfl,hreadable,hview⟩ := moved_of_gone hid hbefore hgone
    refine ⟨hcall,fun steps habsent => ?_⟩
    have hafter := (quarantine_of_staysAbsent hid habsent).trans hview
    exact ⟨congrArg RunView.quarantine hafter,read_apply_of_moved hid hreadable hafter⟩

end

theorem run_journal_history_kept_sample :
    HistoryKept Crates.reference sampleStore 0 sampleRun ∧
      read 0 (readEntries Crates.reference sampleStore sampleRun) sampleDisk = .ok [sampleCreated] :=
  ⟨run_journal_history_kept (by decide +kernel),read_sampleDisk⟩

end RunJournalStore
end CommitCiPreflight
