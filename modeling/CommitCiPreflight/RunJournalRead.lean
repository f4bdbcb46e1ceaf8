import CommitCiPreflight.RunJournal

/-! What `read_entries` accepts: a run directory whose files, in the order of their names, are a
history. -/
namespace CommitCiPreflight

open Disk FileTree Program
open Files (passOn)

abbrev RunFiles := List (OsString × FileTree OsString)

namespace RunJournalStore

def entryFile (entry : RunJournalEntryV1) : OsString := .ofStr (entryName entry.seq entry.state)

/-- Entries that were appended one after another. -/
inductive History (runId : String) : List RunJournalEntryV1 → Prop
  | nil : History runId []
  | snoc {entries : List RunJournalEntryV1} {entry : RunJournalEntryV1} (h : History runId entries)
      (valid : validateEntry entry runId entries.length.toUInt64 = .ok ())
      (legal : ∀ previous ∈ entries.getLast?, legalTransition previous.state entry.state = true) :
      History runId (entries++[entry])

variable (crates : Crates) (store : RunJournalStore)

/-- A marker of the run, as the owner of the store writes it. -/
def OwnedMarker (runId : String) (marker : RunOwnerMarkerV1) : Prop :=
  marker.schemaVersion = runJournalSchemaVersion ∧ marker.owner = "commit-ci-preflight" ∧
    marker.purpose = "run-journal-entry" ∧ marker.rootToken = store.rootToken ∧
    marker.runId = runId ∧ derivedRunToken crates store.rootToken runId = .ok marker.runToken

def ValidBinding (binding : RunJournalSourceV1) : Prop :=
  binding.schemaVersion = runJournalSchemaVersion ∧
    validateHexIdentity binding.commitSha = .ok () ∧
    RunJournal.validateDigest binding.manifestDigest = .ok () ∧ binding.entryCount ≠ 0 ∧
    binding.resourceId = "source-snapshot-v1"

def MarkerFile {α : Type} (codec : Codec α) (node : FileTree OsString) (marker : α) : Prop :=
  ∃ content, node = .file content ∧ content.length ≤ 4096 ∧
    fromSlice crates codec content = some marker

def EntryFile (files : RunFiles) (entry : RunJournalEntryV1) : Prop :=
  ∃ content, lookupEntry (entryFile entry) files = some (.file content) ∧
    fromSlice crates RunJournalEntryV1.codec content = some entry

/-- The names of a run directory that are taken for entries, sorted. -/
def entryNames (files : RunFiles) : List OsString :=
  ((files.map Prod.fst).filter (· ∉ reservedNames)).insertionSort (· ≤ ·)

/-- A link of that name stands in the directory and leads nowhere. -/
def BrokenLink (disk : Disk OsString) (path : HostPath) (name : OsString) : Prop :=
  (∃ target, get (path++[name]) disk.root = some (.symlink target)) ∧
    ((pathExists (path++[name])).exec (Disk.perform 0) disk).1 = false

/-- Beside the entries of the run stands no link. -/
def Unlinked (runId : String) (disk : Disk OsString) : Prop :=
  ∀ name ∈ reservedNames, ∀ target,
    get (store.runPath runId++[name]) disk.root ≠ some (.symlink target)

theorem Unlinked.not_broken {store : RunJournalStore} {runId : String} {disk : Disk OsString}
    (h : store.Unlinked runId disk) {name : OsString} (hname : name ∈ reservedNames) :
    ¬ BrokenLink disk (store.runPath runId) name := by
  rintro ⟨⟨target,hlink⟩,-⟩
  exact h name hname target hlink

/-- The files of a run that is read, where `broken` names links that lead nowhere: beside the
entries such a link is passed over. -/
structure Readable (broken : OsString → Prop) (runId : String) (files : RunFiles)
    (entries : List RunJournalEntryV1) : Prop where
  marker : ∃ node marker, lookupEntry (.ofStr runMarker) files = some node ∧
    MarkerFile crates RunOwnerMarkerV1.codec node marker ∧ OwnedMarker crates store runId marker
  resources : ∀ node, lookupEntry (.ofStr resourcesDir) files = some node →
    IsDirectory (some node) ∨ broken (.ofStr resourcesDir)
  binding : ∀ node, lookupEntry (.ofStr sourceBinding) files = some node →
    (∃ binding, MarkerFile crates RunJournalSourceV1.codec node binding ∧ ValidBinding binding) ∨
      broken (.ofStr sourceBinding)
  names : entryNames files = entries.map entryFile
  files : ∀ entry ∈ entries, EntryFile crates files entry
  history : History runId entries

section

variable {crates store} {pid : ℕ} {disk : Disk OsString} {runId : String} {path : HostPath}
  {files : RunFiles} {entries : List RunJournalEntryV1} {name : OsString}

theorem exec_metadata_fst (path : HostPath) :
    ((Files.metadata path).exec (Disk.perform pid) disk).1 =
      (stat path disk.root).map FileTree.metadata := rfl

theorem uses_metadata_reads (path : HostPath) : (Files.metadata path).Uses FileOp.Reads :=
  uses_perform trivial

theorem uses_readFile_reads (path : HostPath) : (Files.readFile path).Uses FileOp.Reads :=
  uses_perform trivial

theorem uses_readDir_reads (path : HostPath) : (Files.readDir path).Uses FileOp.Reads :=
  uses_perform trivial

theorem uses_entryExists (path : HostPath) : (entryExists path).Uses FileOp.Reads :=
  uses_bind (uses_metadata_reads path) fun _ => .done _

theorem uses_validateExistingPlainDirectory (path : HostPath) :
    (validateExistingPlainDirectory path).run.Uses FileOp.Reads := by
  refine uses_run_bind (uses_lift (uses_metadata_reads path)) fun outcome => ?_
  rcases outcome with e | ⟨_ | _ | _ | _,length⟩
  all_goals exact .done _

theorem read_validateExistingPlainDirectory :
    read pid (validateExistingPlainDirectory path) disk = .ok () ↔
      IsDirectory (get path disk.root) := by
  unfold validateExistingPlainDirectory
  rw [read_lift_bind (uses_metadata_reads path),exec_metadata_fst]
  simp only [IsDirectory,get_eq_some_iff_stat]
  rcases stat path disk.root with e | c | entries | target | _
  case ok.directory => exact ⟨fun _ => ⟨entries,rfl⟩,fun _ => rfl⟩
  all_goals
    refine ⟨fun h => (by cases h),?_⟩
    rintro ⟨_,h⟩
    cases h

theorem uses_requireMarkerFile : (requireMarkerFile path).run.Uses FileOp.Reads := by
  refine uses_run_bind (uses_lift (uses_metadata_reads path)) fun outcome => ?_
  rcases outcome with e | ⟨_ | _ | _ | _,length⟩
  · exact .done _
  · exact uses_ensure
  all_goals exact .done _

theorem uses_readJsonMarker {α : Type} {codec : Codec α} :
    (readJsonMarker crates codec path).run.Uses FileOp.Reads := by
  refine uses_run_bind uses_requireMarkerFile fun _ => ?_
  refine uses_run_bind (Files.uses_passOn (uses_readFile_reads path)) fun bytes => ?_
  cases fromSlice crates codec bytes with
  | none => exact .done _
  | some marker => exact .done _

theorem read_requireMarkerFile :
    read pid (requireMarkerFile path) disk = .ok () ↔
      ∃ content, get path disk.root = some (.file content) ∧ content.length ≤ 4096 := by
  unfold requireMarkerFile
  rw [read_lift_bind (uses_metadata_reads path),exec_metadata_fst]
  simp only [get_eq_some_iff_stat]
  rcases stat path disk.root with e | content | entries | target | _
  case ok.file =>
    refine (read_ensure_eq_ok (c := content.length ≤ 4096)).trans ⟨fun h => ⟨content,rfl,h⟩,?_⟩
    rintro ⟨_,⟨⟩,hlength⟩
    exact hlength
  all_goals
    refine ⟨fun h => (by cases h),?_⟩
    rintro ⟨_,h,-⟩
    cases h

theorem read_readJsonMarker {α : Type} {codec : Codec α} {marker : α} :
    read pid (readJsonMarker crates codec path) disk = .ok marker ↔
      ∃ node, get path disk.root = some node ∧ MarkerFile crates codec node marker := by
  unfold readJsonMarker
  rw [read_bind uses_requireMarkerFile,except_bind_eq_ok]
  constructor
  · rintro ⟨⟨⟩,hfile,hread⟩
    obtain ⟨content,hget,hlength⟩ := read_requireMarkerFile.1 hfile
    rw [read_bind (Files.uses_passOn (uses_readFile_reads path)),except_bind_eq_ok] at hread
    obtain ⟨bytes,hbytes,hparse⟩ := hread
    rw [read_passOn_eq_ok,exec_readFile_of_get hget] at hbytes
    cases hbytes
    cases hslice : fromSlice crates codec content with
    | none =>
      rw [hslice] at hparse
      cases hparse
    | some marker' =>
      rw [hslice] at hparse
      cases hparse
      exact ⟨_,hget,content,rfl,hlength,hslice⟩
  · rintro ⟨_,hget,content,rfl,hlength,hslice⟩
    refine ⟨(),read_requireMarkerFile.2 ⟨content,hget,hlength⟩,?_⟩
    rw [read_bind (Files.uses_passOn (uses_readFile_reads path)),except_bind_eq_ok]
    refine ⟨content,?_,?_⟩
    · rw [read_passOn_eq_ok,exec_readFile_of_get hget]
    · rw [hslice]
      rfl

theorem uses_validateRunMarker : (validateRunMarker crates store path runId).run.Uses FileOp.Reads := by
  refine uses_run_bind (uses_validateExistingPlainDirectory path) fun _ => ?_
  refine uses_run_bind uses_readJsonMarker fun _ => ?_
  exact uses_run_bind (.done _) fun _ => uses_ensure

theorem get_child (hrun : get path disk.root = some (.directory files)) (name : OsString) :
    get (path++[name]) disk.root = lookupEntry name files := by
  rw [get_append,hrun]
  rfl

theorem read_validateRunMarker (hrun : get path disk.root = some (.directory files)) :
    read pid (validateRunMarker crates store path runId) disk = .ok () ↔
      ∃ node marker, lookupEntry (.ofStr runMarker) files = some node ∧
        MarkerFile crates RunOwnerMarkerV1.codec node marker ∧
        OwnedMarker crates store runId marker := by
  unfold validateRunMarker
  rw [read_bind (uses_validateExistingPlainDirectory path),except_bind_eq_ok]
  constructor
  · rintro ⟨⟨⟩,-,h⟩
    rw [read_bind uses_readJsonMarker,except_bind_eq_ok] at h
    obtain ⟨marker,hmarker,h⟩ := h
    obtain ⟨node,hget,hfile⟩ := read_readJsonMarker.1 hmarker
    rw [read_ofExcept_bind,except_bind_eq_ok] at h
    obtain ⟨token,htoken,h⟩ := h
    obtain ⟨h₁,h₂,h₃,h₄,h₅,rfl⟩ := read_ensure_eq_ok.1 h
    rw [get_child hrun] at hget
    exact ⟨node,marker,hget,hfile,h₁,h₂,h₃,h₄,h₅,htoken⟩
  · rintro ⟨node,marker,hget,hfile,h₁,h₂,h₃,h₄,h₅,htoken⟩
    refine ⟨(),read_validateExistingPlainDirectory.2 ⟨files,hrun⟩,?_⟩
    rw [read_bind uses_readJsonMarker,except_bind_eq_ok]
    refine ⟨marker,read_readJsonMarker.2 ⟨node,(get_child hrun _).trans hget,hfile⟩,?_⟩
    rw [read_ofExcept_bind,except_bind_eq_ok]
    exact ⟨_,htoken,read_ensure_eq_ok.2 ⟨h₁,h₂,h₃,h₄,h₅,rfl⟩⟩

theorem uses_checkResources : (checkResources path).run.Uses FileOp.Reads := by
  refine uses_run_bind (uses_lift (uses_pathExists _)) fun present => ?_
  split
  · exact uses_validateExistingPlainDirectory _
  · exact .done _

theorem brokenLink_iff (hrun : get path disk.root = some (.directory files))
    {node : FileTree OsString} (hnode : lookupEntry name files = some node) (pid : ℕ) :
    BrokenLink disk path name ↔
      ((pathExists (path++[name])).exec (Disk.perform pid) disk).1 = false := by
  rw [exec_eq_of_reads (uses_pathExists _) pid 0]
  refine ⟨And.right,fun h => ⟨?_,h⟩⟩
  refine (link_of_not_pathExists h).resolve_left ?_
  rw [get_child hrun,hnode]
  simp

theorem read_checkResources (hrun : get path disk.root = some (.directory files)) :
    read pid (checkResources path) disk = .ok () ↔
      ∀ node, lookupEntry (.ofStr resourcesDir) files = some node →
        IsDirectory (some node) ∨ BrokenLink disk path (.ofStr resourcesDir) := by
  unfold checkResources
  rw [read_lift_bind (uses_pathExists _)]
  cases hnode : lookupEntry (.ofStr resourcesDir) files with
  | none =>
    rw [exec_pathExists_of_none ((get_child hrun _).trans hnode)]
    exact ⟨fun _ node h => (by cases h),fun _ => rfl⟩
  | some node =>
    simp only [Option.some.injEq,forall_eq',brokenLink_iff hrun hnode pid]
    cases ((pathExists (path++[.ofStr resourcesDir])).exec (Disk.perform pid) disk).1 with
    | false => exact ⟨fun _ => Or.inr rfl,fun _ => rfl⟩
    | true =>
      simp only [if_true,Bool.true_eq_false,or_false]
      rw [read_validateExistingPlainDirectory,get_child hrun,hnode]

theorem uses_checkSourceBinding : (checkSourceBinding crates path).run.Uses FileOp.Reads := by
  refine uses_run_bind (uses_lift (uses_pathExists _)) fun present => ?_
  split
  · exact uses_run_bind uses_readJsonMarker fun _ => uses_ensure
  · exact .done _

theorem read_checkSourceBinding (hrun : get path disk.root = some (.directory files)) :
    read pid (checkSourceBinding crates path) disk = .ok () ↔
      ∀ node, lookupEntry (.ofStr sourceBinding) files = some node →
        (∃ binding, MarkerFile crates RunJournalSourceV1.codec node binding ∧
          ValidBinding binding) ∨ BrokenLink disk path (.ofStr sourceBinding) := by
  unfold checkSourceBinding
  rw [read_lift_bind (uses_pathExists _)]
  cases hnode : lookupEntry (.ofStr sourceBinding) files with
  | none =>
    rw [exec_pathExists_of_none ((get_child hrun _).trans hnode)]
    exact ⟨fun _ node h => (by cases h),fun _ => rfl⟩
  | some node =>
    simp only [Option.some.injEq,forall_eq',brokenLink_iff hrun hnode pid]
    cases ((pathExists (path++[.ofStr sourceBinding])).exec (Disk.perform pid) disk).1 with
    | false => exact ⟨fun _ => Or.inr rfl,fun _ => rfl⟩
    | true =>
      simp only [if_true,Bool.true_eq_false,or_false]
      rw [read_bind uses_readJsonMarker,except_bind_eq_ok]
      constructor
      · rintro ⟨binding,hread,hensure⟩
        obtain ⟨node',hget,hfile⟩ := read_readJsonMarker.1 hread
        rw [get_child hrun,hnode] at hget
        cases hget
        have hvalid := read_ensure_eq_ok.1 hensure
        exact ⟨binding,hfile,hvalid⟩
      · rintro ⟨binding,hfile,hvalid⟩
        exact ⟨binding,read_readJsonMarker.2 ⟨node,(get_child hrun _).trans hnode,hfile⟩,
          read_ensure_eq_ok.2 hvalid⟩

theorem history_append_singleton {entry : RunJournalEntryV1} :
    History runId (entries++[entry]) ↔ History runId entries ∧
      validateEntry entry runId entries.length.toUInt64 = .ok () ∧
      ∀ previous ∈ entries.getLast?, legalTransition previous.state entry.state = true := by
  constructor
  · intro h
    generalize hall : entries++[entry] = all at h
    cases h with
    | nil => simp at hall
    | snoc h valid legal =>
      obtain ⟨rfl,hentry⟩ := List.append_inj' hall rfl
      cases hentry
      exact ⟨h,valid,legal⟩
  · rintro ⟨h,valid,legal⟩
    exact .snoc h valid legal

theorem history_of_append {more : List RunJournalEntryV1} (h : History runId (entries++more)) :
    History runId entries := by
  induction more using List.reverseRecOn with
  | nil => simpa using h
  | append_singleton more entry ih =>
    rw [← List.append_assoc] at h
    exact ih (history_append_singleton.1 h).1

theorem uses_requireEntryFile : (requireEntryFile path).run.Uses FileOp.Reads := by
  refine uses_run_bind (Files.uses_passOn (uses_metadata_reads path)) fun metadata => ?_
  rcases metadata with ⟨_ | _ | _ | _,length⟩
  all_goals exact .done _

theorem read_requireEntryFile :
    read pid (requireEntryFile path) disk = .ok () ↔
      ∃ content, get path disk.root = some (.file content) := by
  unfold requireEntryFile
  rw [read_bind (Files.uses_passOn (uses_metadata_reads path)),except_bind_eq_ok]
  constructor
  · rintro ⟨metadata,hread,hfile⟩
    rw [read_passOn_eq_ok,exec_metadata_fst] at hread
    rcases hstat : stat path disk.root with e | node
    · rw [hstat] at hread
      cases hread
    · rw [hstat] at hread
      cases hread
      rcases node with ⟨content⟩ | ⟨entries⟩ | ⟨target⟩ | _
      case file => exact ⟨content,get_of_stat hstat⟩
      all_goals cases hfile
  · rintro ⟨content,hget⟩
    refine ⟨⟨.file,content.length⟩,?_,rfl⟩
    rw [read_passOn_eq_ok,exec_metadata_fst,stat_of_get hget]
    rfl

theorem uses_readEntry : (readEntry crates path runId entries name).run.Uses FileOp.Reads := by
  refine uses_run_bind uses_requireEntryFile fun _ => ?_
  refine uses_run_bind (Files.uses_passOn (uses_readFile_reads _)) fun _ => ?_
  refine uses_run_bind (.done _) fun _ => uses_run_bind (.done _) fun _ => ?_
  exact uses_run_bind uses_ensure fun _ => uses_run_bind uses_ensure fun _ => .done _

theorem parseEntry_eq_ok {bytes : Bytes} {entry : RunJournalEntryV1} :
    parseEntry crates bytes = .ok entry ↔
      fromSlice crates RunJournalEntryV1.codec bytes = some entry := by
  unfold parseEntry
  cases fromSlice crates RunJournalEntryV1.codec bytes with
  | none => simp
  | some entry' => simp

theorem read_readEntry (hrun : get path disk.root = some (.directory files))
    {entries' : List RunJournalEntryV1} (h : History runId entries) :
    read pid (readEntry crates path runId entries name) disk = .ok entries' ↔
      ∃ entry, entries' = entries++[entry] ∧ name = entryFile entry ∧
        EntryFile crates files entry ∧ History runId (entries++[entry]) := by
  unfold readEntry
  rw [read_bind uses_requireEntryFile,except_bind_eq_ok]
  simp only [read_bind (Files.uses_passOn (uses_readFile_reads _)),read_ofExcept_bind,
    read_bind uses_ensure,except_bind_eq_ok,read_passOn_eq_ok,read_ensure_eq_ok,read_pure,
    parseEntry_eq_ok]
  constructor
  · rintro ⟨⟨⟩,hfile,bytes,hbytes,entry,hentry,⟨⟩,hvalid,⟨⟩,hname,⟨⟩,hlegal,hentries⟩
    obtain ⟨content,hget⟩ := read_requireEntryFile.1 hfile
    rw [exec_readFile_of_get hget] at hbytes
    cases hbytes
    cases hentries
    rw [get_child hrun,hname] at hget
    exact ⟨entry,rfl,hname,⟨_,hget,hentry⟩,.snoc h hvalid hlegal⟩
  · rintro ⟨entry,rfl,rfl,⟨content,hget,hentry⟩,hhistory⟩
    obtain ⟨-,hvalid,hlegal⟩ := history_append_singleton.1 hhistory
    have hfile := (get_child hrun _).trans hget
    refine ⟨(),read_requireEntryFile.2 ⟨content,hfile⟩,content,?_,entry,hentry,(),hvalid,(),rfl,(),
      hlegal,rfl⟩
    rw [exec_readFile_of_get hfile]

theorem uses_readNames {names : List OsString} :
    (names.foldlM (readEntry crates path runId) entries).run.Uses FileOp.Reads :=
  uses_foldlM fun _ _ _ => uses_readEntry

theorem read_readNames (hrun : get path disk.root = some (.directory files)) {names : List OsString}
    {entries' : List RunJournalEntryV1} (h : History runId entries) :
    read pid (names.foldlM (readEntry crates path runId) entries) disk = .ok entries' ↔
      ∃ more, entries' = entries++more ∧ names = more.map entryFile ∧
        (∀ entry ∈ more, EntryFile crates files entry) ∧ History runId (entries++more) := by
  induction names generalizing entries with
  | nil =>
    rw [List.foldlM_nil,read_pure]
    constructor
    · intro hentries
      cases hentries
      exact ⟨[],by simp,rfl,by simp,by simpa using h⟩
    · rintro ⟨more,rfl,hnames,-⟩
      rw [List.map_eq_nil_iff.1 hnames.symm,List.append_nil]
  | cons name names ih =>
    rw [List.foldlM_cons,read_bind uses_readEntry,except_bind_eq_ok]
    constructor
    · rintro ⟨next,hnext,hrest⟩
      obtain ⟨entry,rfl,rfl,hfile,hhistory⟩ := (read_readEntry hrun h).1 hnext
      obtain ⟨more,rfl,rfl,hfiles,hall⟩ := (ih hhistory).1 hrest
      refine ⟨entry::more,by simp,rfl,List.forall_mem_cons.2 ⟨hfile,hfiles⟩,?_⟩
      simpa using hall
    · rintro ⟨more,rfl,hnames,hfiles,hall⟩
      cases more with
      | nil => simp at hnames
      | cons entry more =>
        obtain ⟨rfl,rfl⟩ := List.cons.inj hnames
        obtain ⟨hfile,hfiles⟩ := List.forall_mem_cons.1 hfiles
        rw [List.append_cons] at hall
        have hnext := history_of_append hall
        exact ⟨_,(read_readEntry hrun h).2 ⟨entry,rfl,rfl,hfile,hnext⟩,
          (ih hnext).2 ⟨more,List.append_cons _ _ _,rfl,hfiles,hall⟩⟩

theorem uses_readEntries : (readEntries crates store runId).run.Uses FileOp.Reads := by
  refine uses_run_bind (uses_validateExistingPlainDirectory _) fun _ => ?_
  refine uses_run_bind uses_validateRunMarker fun _ => ?_
  refine uses_run_bind (Files.uses_passOn (uses_readDir_reads _)) fun _ => ?_
  refine uses_run_bind uses_checkResources fun _ => ?_
  exact uses_run_bind uses_checkSourceBinding fun _ => uses_readNames

theorem exec_readDir_fst (hrun : get path disk.root = some (.directory files)) :
    ((Files.readDir path).exec (Disk.perform pid) disk).1 = .ok (files.map Prod.fst) := by
  simp only [Files.readDir,Program.perform,exec,Disk.perform,stat_of_get hrun]

/-- What `read_entries` accepts, and what it returns. -/
theorem read_readEntries :
    read pid (readEntries crates store runId) disk = .ok entries ↔
      ∃ files, get (store.runPath runId) disk.root = some (.directory files) ∧
        Readable crates store (BrokenLink disk (store.runPath runId)) runId files entries := by
  have hnil : History runId [] := .nil
  unfold readEntries
  rw [read_bind (uses_validateExistingPlainDirectory _),except_bind_eq_ok]
  simp only [read_bind uses_validateRunMarker,read_bind (Files.uses_passOn (uses_readDir_reads _)),
    read_bind uses_checkResources,read_bind uses_checkSourceBinding,except_bind_eq_ok]
  constructor
  · rintro ⟨⟨⟩,hdir,⟨⟩,hmarker,names,hnames,⟨⟩,hresources,⟨⟩,hbinding,hread⟩
    obtain ⟨files,hrun⟩ := read_validateExistingPlainDirectory.1 hdir
    rw [read_passOn_eq_ok,exec_readDir_fst hrun] at hnames
    cases hnames
    obtain ⟨more,rfl,hmore,hfiles,hhistory⟩ := (read_readNames hrun hnil).1 hread
    exact ⟨files,hrun,(read_validateRunMarker hrun).1 hmarker,(read_checkResources hrun).1 hresources,
      (read_checkSourceBinding hrun).1 hbinding,hmore,hfiles,hhistory⟩
  · rintro ⟨files,hrun,h⟩
    refine ⟨(),read_validateExistingPlainDirectory.2 ⟨files,hrun⟩,(),
      (read_validateRunMarker hrun).2 h.marker,files.map Prod.fst,?_,(),
      (read_checkResources hrun).2 h.resources,(),(read_checkSourceBinding hrun).2 h.binding,
      (read_readNames hrun hnil).2 ⟨entries,rfl,h.names,h.files,h.history⟩⟩
    rw [read_passOn_eq_ok,exec_readDir_fst hrun]

end

section

variable {runId : String} {entries : List RunJournalEntryV1} {entry : RunJournalEntryV1}

theorem validateEntry_eq_ok {seq : UInt64} :
    validateEntry entry runId seq = .ok () ↔
      entry.schemaVersion = runJournalSchemaVersion ∧ entry.runId = runId ∧ entry.seq = seq ∧
        RunJournal.validateTimestamp entry.atUtc = .ok () ∧
        decide (entry.state = .failed) = entry.failureKind.isSome ∧
        (seq = 0 → entry.state = .created) := by
  unfold validateEntry
  split
  · rename_i h
    refine ⟨fun he => (by cases he),fun ⟨h₁,h₂,h₃,h₄,h₅,h₆⟩ => ?_⟩
    rcases h with h | h | h | h | h | h
    · exact absurd h₁ h
    · exact absurd h₂ h
    · exact absurd h₃ h
    · exact absurd h₄ h
    · exact absurd h₅ h
    · exact absurd (h₆ h.1) h.2
  · rename_i h
    push Not at h
    exact ⟨fun _ => h,fun _ => rfl⟩

/-- How far a state is from the first one, at least. -/
def rank : RunJournalStateV1 → ℕ
  | .created => 0
  | .admitted => 1
  | .prepared => 2
  | .executing => 3
  | .finalizing => 4
  | .cleanupPending => 5
  | .failed => 6
  | .sealed => 7

theorem rank_lt_of_legalTransition {previous next : RunJournalStateV1}
    (h : legalTransition previous next = true) : rank previous < rank next := by
  cases previous <;> cases next <;> first | exact absurd h (by decide) | decide

theorem length_le_of_history (h : History runId entries) :
    ∀ last ∈ entries.getLast?, entries.length ≤ rank last.state+1 := by
  induction h with
  | nil => simp
  | snoc h valid legal ih =>
    rename_i entries entry
    intro last hlast
    rw [List.getLast?_append_cons,List.getLast?_singleton,Option.mem_some_iff] at hlast
    subst hlast
    rw [List.length_append,List.length_singleton]
    cases hprevious : entries.getLast? with
    | none =>
      rw [List.getLast?_eq_none_iff.1 hprevious]
      simp
    | some previous =>
      have hlt := rank_lt_of_legalTransition (legal previous hprevious)
      have hle := ih previous hprevious
      omega

theorem length_lt_of_history (h : History runId entries) : entries.length < 9 := by
  cases hlast : entries.getLast? with
  | none =>
    rw [List.getLast?_eq_none_iff.1 hlast]
    decide
  | some last =>
    have hle := length_le_of_history h last hlast
    have hrank : rank last.state ≤ 7 := by cases last.state <;> decide
    omega

theorem seq_of_history (h : History runId entries) :
    entries.map (·.seq) = (List.range entries.length).map Nat.toUInt64 := by
  induction h with
  | nil => rfl
  | snoc h valid legal ih =>
    obtain ⟨-,-,hseq,-⟩ := validateEntry_eq_ok.1 valid
    rw [List.map_append,ih,List.length_append,List.length_singleton,List.range_succ,List.map_append,
      List.map_singleton,List.map_singleton,hseq]

theorem seq_lt_of_history (h : History runId entries) (hentry : entry ∈ entries) :
    entry.seq.toNat < entries.length := by
  have hseq : entry.seq ∈ entries.map (·.seq) := List.mem_map_of_mem hentry
  rw [seq_of_history h] at hseq
  obtain ⟨i,hi,hentry⟩ := List.mem_map.1 hseq
  rw [← hentry]
  exact (Nat.mod_le _ _).trans_lt (List.mem_range.1 hi)

theorem seq_succ_of_history (h : History runId entries) {last : RunJournalEntryV1}
    (hlast : entries.getLast? = some last) : last.seq+1 = entries.length.toUInt64 := by
  obtain ⟨before,rfl⟩ := List.getLast?_eq_some_iff.1 hlast
  obtain ⟨-,valid,-⟩ := history_append_singleton.1 h
  obtain ⟨-,-,hseq,-⟩ := validateEntry_eq_ok.1 valid
  rw [hseq,List.length_append,List.length_singleton]
  simp

theorem entryFile_lt {next : RunJournalEntryV1} (h : entry.seq < next.seq) :
    entryFile entry < entryFile next := by
  have hseq : next.seq.toNat < 10^20 := next.seq.toNat_lt.trans (by decide)
  exact Text.bytes_padded_lt (by decide) hseq (UInt64.lt_iff_toNat_lt.1 h) _ _

/-- A new entry comes last in the order of the names. -/
theorem entryFile_lt_of_history (h : History runId (entries++[entry])) :
    ∀ name ∈ entries.map entryFile, name < entryFile entry := by
  intro name hname
  obtain ⟨earlier,hearlier,rfl⟩ := List.mem_map.1 hname
  obtain ⟨hhistory,valid,-⟩ := history_append_singleton.1 h
  obtain ⟨-,-,hseq,-⟩ := validateEntry_eq_ok.1 valid
  refine entryFile_lt (UInt64.lt_iff_toNat_lt.2 ?_)
  have hlength := length_lt_of_history hhistory
  have hsize : entries.length.toUInt64.toNat = entries.length :=
    Nat.mod_eq_of_lt (by omega)
  rw [hseq,hsize]
  exact seq_lt_of_history hhistory hearlier

theorem entryFile_not_reserved (entry : RunJournalEntryV1) : entryFile entry ∉ reservedNames := by
  obtain ⟨b,bs,hbytes,hlow,hhigh⟩ := Text.bytes_padded_head (by decide : 0 < 20) entry.seq.toNat
    ("-"++stateName entry.state++".json")
  have hfile : entryFile entry = ⟨b::bs⟩ := congrArg OsString.mk hbytes
  have hheads : ∀ name ∈ reservedNames, ∀ c ∈ name.bytes.head?, c.toNat < 48 ∨ 57 < c.toNat := by
    decide +kernel
  intro hmem
  rw [hfile] at hmem
  have hb := hheads _ hmem b rfl
  omega

end

section

variable {files : RunFiles} {name : OsString} {node : FileTree OsString}

theorem mem_entryNames : name ∈ entryNames files ↔ name ∈ files.map Prod.fst ∧ name ∉ reservedNames := by
  simp [entryNames]

theorem entryNames_insertEntry (hfresh : name ∉ files.map Prod.fst) (hentry : name ∉ reservedNames)
    (hlast : ∀ other ∈ entryNames files, other < name) :
    entryNames (insertEntry name node files) = entryNames files++[name] := by
  have hkeys : ((insertEntry name node files).map Prod.fst).Perm (name::files.map Prod.fst) :=
    (insertEntry_perm hfresh).map Prod.fst
  have hfilter := hkeys.filter fun other => decide (other ∉ reservedNames)
  rw [List.filter_cons_of_pos (by simpa using hentry)] at hfilter
  have hsorted := (List.perm_insertionSort (· ≤ ·)
    ((files.map Prod.fst).filter (· ∉ reservedNames))).symm
  refine List.Perm.eq_of_pairwise' (List.pairwise_insertionSort (· ≤ ·) _) ?_ ?_
  · refine List.pairwise_append.2 ⟨List.pairwise_insertionSort (· ≤ ·) _,by simp,?_⟩
    intro other hother last hlast'
    rw [List.mem_singleton.1 hlast']
    exact (hlast other hother).le
  · exact (List.perm_insertionSort _ _).trans (hfilter.trans
      ((hsorted.cons name).trans (List.perm_append_singleton name _).symm))

theorem entryNames_insertEntry_reserved (hfresh : name ∉ files.map Prod.fst)
    (hreserved : name ∈ reservedNames) : entryNames (insertEntry name node files) = entryNames files := by
  have hkeys : ((insertEntry name node files).map Prod.fst).Perm (name::files.map Prod.fst) :=
    (insertEntry_perm hfresh).map Prod.fst
  have hfilter := hkeys.filter fun other => decide (other ∉ reservedNames)
  rw [List.filter_cons_of_neg (by simpa using hreserved)] at hfilter
  refine List.Perm.eq_of_pairwise' (List.pairwise_insertionSort (· ≤ ·) _)
    (List.pairwise_insertionSort (· ≤ ·) _) ?_
  exact (List.perm_insertionSort _ _).trans (hfilter.trans (List.perm_insertionSort _ _).symm)

end

section

variable {crates store} {broken : OsString → Prop} {files : RunFiles} {runId : String}
  {entries : List RunJournalEntryV1} {entry : RunJournalEntryV1} {content : Bytes}

theorem Readable.of_unlinked {disk : Disk OsString}
    (h : Readable crates store (BrokenLink disk (store.runPath runId)) runId files entries)
    (hlinks : store.Unlinked runId disk) (broken : OsString → Prop) :
    Readable crates store broken runId files entries where
  marker := h.marker
  resources node hnode := Or.inl ((h.resources node hnode).resolve_right
    (hlinks.not_broken (by simp [reservedNames])))
  binding node hnode := Or.inl ((h.binding node hnode).resolve_right
    (hlinks.not_broken (by simp [reservedNames])))
  names := h.names
  files := h.files
  history := h.history

theorem entryFile_fresh (h : Readable crates store broken runId files entries)
    (hhistory : History runId (entries++[entry])) : entryFile entry ∉ files.map Prod.fst := by
  intro hmem
  have hname := mem_entryNames.2 ⟨hmem,entryFile_not_reserved entry⟩
  rw [h.names] at hname
  exact lt_irrefl _ (entryFile_lt_of_history hhistory _ hname)

/-- A whole new entry is read after those that were there. -/
theorem readable_append (h : Readable crates store broken runId files entries)
    (hhistory : History runId (entries++[entry]))
    (hcontent : fromSlice crates RunJournalEntryV1.codec content = some entry) :
    Readable crates store broken runId (insertEntry (entryFile entry) (.file content) files)
      (entries++[entry]) := by
  have hfresh := entryFile_fresh h hhistory
  have hreserved : ∀ name ∈ reservedNames, lookupEntry name (insertEntry (entryFile entry)
      (.file content) files) = lookupEntry name files := by
    intro name hname
    rw [lookupEntry_insertEntry,if_neg]
    rintro rfl
    exact entryFile_not_reserved entry hname
  have hmarker := hreserved (.ofStr runMarker) (by decide +kernel)
  have hresources := hreserved (.ofStr resourcesDir) (by decide +kernel)
  have hbinding := hreserved (.ofStr sourceBinding) (by decide +kernel)
  constructor
  case marker => rw [hmarker]; exact h.marker
  case resources => rw [hresources]; exact h.resources
  case binding => rw [hbinding]; exact h.binding
  case history => exact hhistory
  case names =>
    rw [entryNames_insertEntry hfresh (entryFile_not_reserved entry),h.names,List.map_append]
    · rfl
    · rw [h.names]
      exact entryFile_lt_of_history hhistory
  case files =>
    intro other hother
    rcases List.mem_append.1 hother with hother | hother
    · obtain ⟨content',hlookup,hslice⟩ := h.files other hother
      refine ⟨content',?_,hslice⟩
      rw [lookupEntry_insertEntry,if_neg]
      · exact hlookup
      · exact (entryFile_lt_of_history hhistory _ (List.mem_map_of_mem hother)).ne
    · rw [List.mem_singleton.1 hother]
      exact ⟨content,by rw [lookupEntry_insertEntry,if_pos rfl],hcontent⟩

theorem readable_bind (h : Readable crates store broken runId files entries)
    {binding : RunJournalSourceV1}
    (habsent : lookupEntry (.ofStr sourceBinding) files = none)
    (hfile : MarkerFile crates RunJournalSourceV1.codec (.file content) binding)
    (hvalid : ValidBinding binding) :
    Readable crates store broken runId (insertEntry (.ofStr sourceBinding) (.file content) files)
      entries := by
  have hfresh := lookupEntry_eq_none_iff.1 habsent
  have hother : ∀ name, name ≠ .ofStr sourceBinding → lookupEntry name (insertEntry
      (.ofStr sourceBinding) (.file content) files) = lookupEntry name files := by
    intro name hname
    rw [lookupEntry_insertEntry,if_neg hname]
  have hmarker := hother (.ofStr runMarker) (by decide +kernel)
  have hresources := hother (.ofStr resourcesDir) (by decide +kernel)
  constructor
  case marker => rw [hmarker]; exact h.marker
  case resources => rw [hresources]; exact h.resources
  case history => exact h.history
  case binding =>
    intro node hnode
    rw [lookupEntry_insertEntry,if_pos rfl,Option.some.injEq] at hnode
    rw [← hnode]
    exact Or.inl ⟨binding,hfile,hvalid⟩
  case names =>
    rw [entryNames_insertEntry_reserved hfresh (by decide +kernel),h.names]
  case files =>
    intro entry hentry
    obtain ⟨content',hlookup,hslice⟩ := h.files entry hentry
    refine ⟨content',?_,hslice⟩
    rw [hother,hlookup]
    intro hname
    exact entryFile_not_reserved entry (hname ▸ by decide +kernel)

end

end RunJournalStore
end CommitCiPreflight
