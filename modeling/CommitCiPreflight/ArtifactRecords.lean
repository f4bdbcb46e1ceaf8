import CommitCiPreflight.ConfigReorder
import CommitCiPreflight.FileContents
import CommitCiPreflight.FileFaults
import CommitCiPreflight.Storage

/-! The records that `observe_artifacts` makes are exact, and the same for every order in which
directories are listed. -/
namespace CommitCiPreflight

open Program Files FileTree

def OsString.IsComponent (name : OsString) : Prop := Text.ascii '/' ∉ name.bytes

theorem logicalPath_inj {p q : List OsString} {logical : String} (hp : p ≠ []) (hq : q ≠ [])
    (hpnames : ∀ name ∈ p, name.IsComponent) (hqnames : ∀ name ∈ q, name.IsComponent)
    (h : logicalPath p = some logical) (h' : logicalPath q = some logical) : p = q := by
  have hsplit : ∀ {names : List OsString}, names ≠ [] → (∀ name ∈ names, name.IsComponent) →
      logicalPath names = some logical →
      (Text.bytes logical).splitOn (Text.ascii '/') = names.map OsString.bytes := by
    intro names hne hnames hlogical
    rw [Text.bytes_of_fromUtf8 hlogical]
    exact List.splitOn_intercalate _ (List.forall_mem_map.2 hnames) (by simpa using hne)
  have hbytes : p.map OsString.bytes = q.map OsString.bytes :=
    (hsplit hp hpnames h).symm.trans (hsplit hq hqnames h')
  refine List.map_injective_iff.2 ?_ hbytes
  rintro ⟨bytes⟩ ⟨bytes'⟩ rfl
  rfl

section Records

variable {crates : Crates} {contract : NormalizedArtifactContract} {node : FileTree OsString}

def manifestEntries (crates : Crates) : FileTree OsString → List ArtifactContentEntryV1
  | .file content => [⟨".",.ofNat content.length,
      receiptIdPrefix++encodeHex (crates.sha256 content).toList⟩]
  | .directory children => ((filesOf [] children).map (fileEntry crates)).insertionSort
      fun left right => left.path ≤ right.path
  | _ => []

def manifestText (crates : Crates) (node : FileTree OsString) : Bytes :=
  canonicalJson crates (ArtifactContentManifestV1.mk "1.0" (manifestEntries crates node)).encode

theorem fileEntry_inj {children : List (OsString × FileTree OsString)}
    (hnamed : (FileTree.directory children).Named OsString.IsComponent)
    {other : List (OsString × FileTree OsString)}
    (hnamed' : (FileTree.directory other).Named OsString.IsComponent)
    {file file' : List OsString × Bytes} (hfile : file ∈ filesOf [] children)
    (hfile' : file' ∈ filesOf [] other) (hsome : (logicalPath file.1).isSome)
    (hsome' : (logicalPath file'.1).isSome)
    (h : (fileEntry crates file).path = (fileEntry crates file').path) : file.1 = file'.1 := by
  have hpath : ∀ {children : List (OsString × FileTree OsString)},
      (FileTree.directory children).Named OsString.IsComponent →
      ∀ file ∈ filesOf [] children, file.1 ≠ [] ∧ ∀ name ∈ file.1, name.IsComponent := by
    intro children hnamed file hfile
    have hmem : (file.1,file.2) ∈ files [] (.directory children) := hfile
    obtain ⟨q,hq,hnames⟩ := admissible_of_mem_files hnamed hmem
    obtain ⟨q',hq',hget⟩ := (mem_files hnamed).1 hmem
    rw [List.nil_append] at hq hq'
    refine ⟨fun hnil => ?_,hq ▸ hnames⟩
    rw [← hq',hnil] at hget
    cases hget
  obtain ⟨logical,hlogical⟩ := Option.isSome_iff_exists.1 hsome
  obtain ⟨logical',hlogical'⟩ := Option.isSome_iff_exists.1 hsome'
  simp only [fileEntry,hlogical,hlogical',Option.getD_some] at h
  subst h
  obtain ⟨hne,hnames⟩ := hpath hnamed file hfile
  obtain ⟨hne',hnames'⟩ := hpath hnamed' file' hfile'
  exact logicalPath_inj hne hne' hnames hnames' hlogical hlogical'

theorem nodup_entries {children : List (OsString × FileTree OsString)}
    (hnamed : (FileTree.directory children).Named OsString.IsComponent)
    (hsome : ∀ file ∈ filesOf [] children, (logicalPath file.1).isSome) :
    (((filesOf [] children).map (fileEntry crates)).map (·.path)).Nodup := by
  have hfiles : ((filesOf [] children).map Prod.fst).Nodup := nodup_files hnamed []
  rw [List.map_map]
  refine (List.nodup_map_iff_inj_on (hfiles.of_map _)).2 fun file hfile file' hfile' h => ?_
  have hpath := fileEntry_inj hnamed hnamed hfile hfile' (hsome file hfile) (hsome file' hfile') h
  exact List.inj_on_of_nodup_map hfiles hfile hfile' hpath

theorem observeNode_eq (hnamed : node.Named OsString.IsComponent)
    (h : ContractAccepts contract node) :
    observeNode crates contract node = .ok (manifestEntries crates node) := by
  rcases node with content | children | target | _
  case file =>
    obtain ⟨hkind,hsize⟩ := h
    rw [observeNode,if_pos hkind,contentEntry,if_neg (not_lt.2 hsize)]
    rfl
  case directory =>
    obtain ⟨hkind,hplain,hfit⟩ := h
    obtain ⟨seen,hseen,-,hentries⟩ : ∃ seen : DirectoryObservation,
        observePending crates contract (FileTree.directory children).nodes ⟨[],0⟩
          [([],children)] = .ok seen ∧ seen.Within contract ∧ _ :=
      (observePending_ok (within_zero contract) (le_refl _)).1
        (pendingFits_singleton.2 ⟨hplain,hfit⟩)
    have hfiles : pendingFiles [([],children)] = filesOf [] children := by simp [pendingFiles]
    rw [List.nil_append,hfiles] at hentries
    rw [observeNode,if_pos hkind,hseen]
    refine congrArg Except.ok (insertionSort_eq_of_perm (·.path) hentries ?_)
    exact (hentries.map _).nodup_iff.2 (nodup_entries hnamed hfit.named)
  all_goals exact h.elim

/-- The record of a contract says how many regular files there are, and how large they are. -/
structure ExactRecord (crates : Crates) (contract : NormalizedArtifactContract)
    (node : FileTree OsString) (record : ArtifactEvidence) : Prop where
  path : record.path = contract.path
  kind : record.kind = contract.kind
  producerCheck : record.producerCheck = contract.producerCheck
  entryCount : record.entryCount.toNat = (files [] node).length
  totalBytes : record.totalBytes.toNat = ((files [] node).map (·.2.length)).sum
  manifestDigest : record.manifestDigest =
    receiptIdPrefix++encodeHex (crates.sha256 (manifestText crates node)).toList

theorem totalBytes_toNat {total sum : UInt64} {entries : List ArtifactContentEntryV1}
    (h : totalBytes contract total entries = some sum) :
    sum.toNat = total.toNat+(entries.map (·.sizeBytes.toNat)).sum := by
  induction entries generalizing total with
  | nil =>
    obtain rfl := Option.some.inj h
    rfl
  | cons entry entries ih =>
    obtain ⟨next,hnext,hrest⟩ := Option.bind_eq_some_iff.1 h
    have hadd := checkedAdd_eq_some.1 (Option.filter_eq_some_iff.1 hnext).1
    rw [ih hrest,List.map_cons,List.sum_cons,← hadd]
    exact Nat.add_assoc ..

theorem manifestEntries_sizes (h : ContractAccepts contract node) :
    ((manifestEntries crates node).map (·.sizeBytes.toNat)).sum =
        ((files [] node).map (·.2.length)).sum ∧
      (manifestEntries crates node).length = (files [] node).length ∧
      ((files [] node).map (·.2.length)).sum ≤ contract.maxBytes.toNat := by
  have hlimit := contract.maxBytes.toNat_lt
  rcases node with content | children | target | _
  case file =>
    have hsize : (UInt64.ofNat content.length).toNat = content.length :=
      UInt64.toNat_ofNat_of_lt' (show content.length < 2^64 by have := h.2; omega)
    simpa [manifestEntries,files,hsize] using h.2
  case directory =>
    obtain ⟨-,-,hfit⟩ := h
    have hbytes : ((filesOf [] children).map (·.2.length)).sum ≤ contract.maxBytes.toNat := by
      simpa using hfit.bytes
    have hperm := List.perm_insertionSort
      (fun left right : ArtifactContentEntryV1 => left.path ≤ right.path)
      ((filesOf [] children).map (fileEntry crates))
    refine ⟨?_,by rw [manifestEntries,hperm.length_eq,List.length_map,files],hbytes⟩
    rw [manifestEntries,(hperm.map _).sum_nat,List.map_map,files]
    refine congrArg List.sum (List.map_congr_left fun file hfile => ?_)
    have hone : file.2.length ≤ ((filesOf [] children).map (·.2.length)).sum :=
      le_sum_map_of_mem (·.2.length) hfile
    exact UInt64.toNat_ofNat_of_lt' (show file.2.length < 2^64 by omega)
  all_goals exact h.elim

theorem exists_exactRecord (hmax : 1 ≤ contract.maxEntries.toNat)
    (hnamed : node.Named OsString.IsComponent) (h : ContractAccepts contract node) :
    ∃ record, (observeNode crates contract node).bind (artifactEvidence crates contract) =
      .ok record ∧ ExactRecord crates contract node record := by
  obtain ⟨record,hrecord⟩ := (observeNode_ok hmax).2 h
  refine ⟨record,hrecord,?_⟩
  have hrecord : artifactEvidence crates contract (manifestEntries crates node) = .ok record := by
    rwa [observeNode_eq hnamed h] at hrecord
  obtain ⟨hsizes,hcount,-⟩ : _ ∧ (manifestEntries crates node).length = _ ∧ _ :=
    manifestEntries_sizes h
  unfold artifactEvidence at hrecord
  split at hrecord
  · cases hrecord
  rename_i total htotal
  split at hrecord
  · cases hrecord
  rename_i hentries
  obtain rfl := Except.ok.inj hrecord
  have hlimit := contract.maxEntries.toNat_lt
  refine ⟨rfl,rfl,rfl,?_,?_,rfl⟩
  · rw [← hcount]
    exact UInt64.toNat_ofNat_of_lt'
      (show (manifestEntries crates node).length < 2^64 by omega)
  · rw [← hsizes,totalBytes_toNat htotal]
    simp

end Records

section Trees

variable {crates : Crates} {contract : NormalizedArtifactContract}
  {children children' : List (OsString × FileTree OsString)} {node node' : FileTree OsString}

theorem ContractAccepts.cases_sameTree (hsame : SameTree (some node) (some node'))
    (h : ContractAccepts contract node) :
    node = node' ∨ ∃ children children', node = .directory children ∧ node' = .directory children' := by
  rcases node with content | children | target | _
  case file => exact Or.inl (Option.some.inj (hsame.file (p := []) rfl)).symm
  case directory =>
    have hroot := hsame []
    rcases node' with content' | children' | target' | _
    case directory => exact Or.inr ⟨children,children',rfl,rfl⟩
    all_goals simp [shallow] at hroot
  all_goals exact h.elim

theorem ContractAccepts.sameTree (hsame : SameTree (some node) (some node'))
    (hnamed : node.Named OsString.IsComponent) (hnamed' : node'.Named OsString.IsComponent)
    (h : ContractAccepts contract node) : ContractAccepts contract node' := by
  rcases h.cases_sameTree hsame with rfl | ⟨children,children',rfl,rfl⟩
  · exact h
  · exact ⟨h.1,hsame.plain hnamed hnamed' h.2.1,h.2.2.perm (hsame.files_perm hnamed hnamed')⟩

theorem manifestEntries_sameTree (hsame : SameTree (some node) (some node'))
    (hnamed : node.Named OsString.IsComponent) (hnamed' : node'.Named OsString.IsComponent)
    (h : ContractAccepts contract node) :
    manifestEntries crates node = manifestEntries crates node' := by
  rcases h.cases_sameTree hsame with rfl | ⟨children,children',rfl,rfl⟩
  · rfl
  · exact insertionSort_eq_of_perm ArtifactContentEntryV1.path
      ((hsame.files_perm hnamed hnamed').map _) (nodup_entries hnamed h.2.2.named)

def ArtifactContentEntryV1.codec : Codec ArtifactContentEntryV1 :=
  .struct (Fields.of ArtifactContentEntryV1.mk
    |>.add (.required "path" Codec.string) (·.path)
    |>.add (.required "size_bytes" Codec.u64) (·.sizeBytes)
    |>.add (.required "content_digest" Codec.string) (·.contentDigest))
    (by decide) fun _ => rfl

def ArtifactContentManifestV1.codec : Codec ArtifactContentManifestV1 :=
  .struct (Fields.of ArtifactContentManifestV1.mk
    |>.add (.required "schema_version" Codec.string) (·.schemaVersion)
    |>.add (.required "entries" ArtifactContentEntryV1.codec.list) (·.entries))
    (by decide) fun _ => rfl

theorem manifestText_inj (h : manifestText crates node = manifestText crates node') :
    manifestEntries crates node = manifestEntries crates node' := by
  have hmanifest : ArtifactContentManifestV1.mk "1.0" (manifestEntries crates node) =
      ArtifactContentManifestV1.mk "1.0" (manifestEntries crates node') :=
    canonicalJson_encode_injective ArtifactContentManifestV1.codec h
  exact congrArg ArtifactContentManifestV1.entries hmanifest

variable (hnamed : (FileTree.directory children).Named OsString.IsComponent)
  (hnamed' : (FileTree.directory children').Named OsString.IsComponent)
  (hsome : ∀ file ∈ filesOf [] children, (logicalPath file.1).isSome)
  (hsome' : ∀ file ∈ filesOf [] children', (logicalPath file.1).isSome)
include hnamed hnamed' hsome hsome'

theorem mem_of_manifestEntries_eq
    (hcollision : ∀ file ∈ filesOf [] children, ∀ file' ∈ filesOf [] children',
      crates.NoCollision file.2 file'.2)
    (h : manifestEntries crates (.directory children) =
      manifestEntries crates (.directory children'))
    {file : List OsString × Bytes} (hfile : file ∈ filesOf [] children) :
    file ∈ filesOf [] children' := by
  have hentry : fileEntry crates file ∈ manifestEntries crates (.directory children) :=
    (List.mem_insertionSort _).2 (List.mem_map_of_mem hfile)
  rw [h,manifestEntries,List.mem_insertionSort,List.mem_map] at hentry
  obtain ⟨file',hfile',hsame⟩ := hentry
  have hpath : file.1 = file'.1 := fileEntry_inj hnamed hnamed' hfile hfile' (hsome file hfile)
    (hsome' file' hfile') (congrArg ArtifactContentEntryV1.path hsame).symm
  have hdigest := congrArg (fun entry => entry.contentDigest.toList) hsame
  simp only [fileEntry,String.toList_append,List.append_cancel_left_eq] at hdigest
  have hhash := encodeHex_injective (String.toList_inj.1 hdigest)
  have hcontent : file.2 = file'.2 :=
    hcollision file hfile file' hfile' (List.Vector.eq _ _ hhash).symm
  rwa [show file = file' from Prod.ext hpath hcontent]

/-- Without collisions, the manifest of a directory tells its files apart. -/
theorem manifest_binds (hmanifests : crates.NoCollision (manifestText crates (.directory children))
      (manifestText crates (.directory children')))
    (hcontents : ∀ file ∈ filesOf [] children, ∀ file' ∈ filesOf [] children',
      crates.NoCollision file.2 file'.2) :
    crates.sha256 (manifestText crates (.directory children)) =
        crates.sha256 (manifestText crates (.directory children')) ↔
      ∀ file, file ∈ filesOf [] children ↔ file ∈ filesOf [] children' := by
  constructor
  · intro h
    have hentries := manifestText_inj (hmanifests h)
    refine fun file => ⟨?_,?_⟩
    · exact mem_of_manifestEntries_eq hnamed hnamed' hsome hsome' hcontents hentries
    · refine mem_of_manifestEntries_eq hnamed' hnamed hsome' hsome ?_ hentries.symm
      exact fun file' hfile' file hfile hhash => (hcontents file hfile file' hfile' hhash.symm).symm
  · intro h
    have hfiles : (filesOf [] children).Perm (filesOf [] children') :=
      (List.perm_ext_iff_of_nodup ((nodup_files hnamed []).of_map _)
        ((nodup_files hnamed' []).of_map _)).2 h
    have hentries : manifestEntries crates (.directory children) =
        manifestEntries crates (.directory children') :=
      insertionSort_eq_of_perm ArtifactContentEntryV1.path (hfiles.map _)
        (nodup_entries hnamed hsome)
    rw [manifestText,manifestText,hentries]

end Trees

section Observation

variable {crates : Crates} {config : ConfigV1} {envelope : ExecutionPlanEnvelopeV1}
  {contract : NormalizedArtifactContract} {runRoot : HostPath} {pid : ℕ} {disk : Disk OsString}
  {disk' : Disk OsString} {records : List ArtifactEvidence}

theorem uses_checkDirectories {contractPath : String} {current : HostPath}
    {names : List OsString} : (checkDirectories contractPath current names).run.Uses
      (FileOp.Reads (ν := OsString)) := by
  induction names generalizing current with
  | nil => exact .done _
  | cons name names ih =>
    refine uses_run_bind uses_ensure fun _ => ?_
    refine uses_run_bind (uses_passOn (uses_perform trivial)) fun metadata => ?_
    split
    · exact ih
    · exact .done _

theorem uses_ensurePlainDirectoryChain {contractPath : String} {root directory : HostPath} :
    (ensurePlainDirectoryChain root directory contractPath).run.Uses
      (FileOp.Reads (ν := OsString)) := by
  refine uses_run_bind uses_ensure fun _ => ?_
  refine uses_run_bind (uses_passOn (uses_perform trivial)) fun metadata => ?_
  split
  · exact uses_checkDirectories
  · exact .done _

theorem exists_of_metadata {wrap : IoErrorKind → ArtifactObservationError} {path : HostPath}
    {metadata : Metadata}
    (h : (passOn wrap (Files.metadata path)).run.exec (Disk.perform pid) disk =
      (.ok metadata,disk')) : ∃ node, get path disk.root = some node := by
  have hmetadata : (stat path disk.root).map FileTree.metadata = .ok metadata :=
    congrArg Prod.fst (Disk.exec_passOn_eq_ok.1 h)
  cases hnode : stat path disk.root with
  | error e =>
    rw [hnode] at hmetadata
    cases hmetadata
  | ok node => exact ⟨node,get_of_stat hnode⟩

theorem disk_eq_of_reads {α : Type} {p : FileProgram OsString α} {a : α}
    (huses : p.Uses FileOp.Reads) (h : p.exec (Disk.perform pid) disk = (a,disk')) :
    disk' = disk := by
  have hdisk : (p.exec (Disk.perform pid) disk).2 = disk := Disk.exec_of_reads huses
  rwa [h] at hdisk

theorem exists_of_observeArtifactContract {artifactRoot : HostPath} {record : ArtifactEvidence}
    (h : (observeArtifactContract crates contract artifactRoot).run.exec (Disk.perform pid) disk =
      (.ok record,disk')) : ∃ node, get (artifactRoot.join contract.path) disk.root = some node := by
  obtain ⟨⟨⟩,disk₁,hinside,h⟩ := (exec_run_bind_eq_ok _).1 h
  obtain ⟨parent,disk₂,hparent,h⟩ := (exec_run_bind_eq_ok _).1 h
  obtain ⟨⟨⟩,disk₃,hchain,h⟩ := (exec_run_bind_eq_ok _).1 h
  obtain ⟨entries,disk₄,htarget,-⟩ := (exec_run_bind_eq_ok _).1 h
  obtain rfl := disk_eq_of_reads uses_ensure hinside
  obtain rfl : disk₁ = disk₂ := (Prod.mk.inj hparent).2
  obtain rfl := disk_eq_of_reads uses_ensurePlainDirectoryChain hchain
  unfold observeTarget at htarget
  split at htarget
  · obtain ⟨entry,_,hfile,-⟩ := (exec_run_bind_eq_ok _).1 htarget
    obtain ⟨metadata,_,hmetadata,-⟩ := (exec_run_bind_eq_ok _).1 hfile
    exact exists_of_metadata hmetadata
  · obtain ⟨metadata,_,hmetadata,-⟩ := (exec_run_bind_eq_ok _).1 htarget
    exact exists_of_metadata hmetadata

theorem exists_of_observeContracts {contracts : List NormalizedArtifactContract}
    (hproper : ∀ contract ∈ contracts, ProperPath contract.path)
    (h : (observeContracts crates (runRoot++[artifactsDir]) contracts).run.exec (Disk.perform pid)
      disk = (.ok records,disk')) :
    ∀ contract ∈ contracts, ∃ node,
      get (artifactSource runRoot contract.path) disk.root = some node := by
  induction contracts generalizing records disk' with
  | nil => simp
  | cons contract contracts ih =>
    obtain ⟨hfirstProper,hrestProper⟩ := List.forall_mem_cons.1 hproper
    obtain ⟨record,disk₁,hfirst,h⟩ := (exec_run_bind_eq_ok _).1 h
    obtain ⟨rest,_,hrest,-⟩ := (exec_run_bind_eq_ok _).1 h
    obtain ⟨node,hnode⟩ := exists_of_observeArtifactContract hfirst
    have hdisk : disk₁ = disk :=
      (congrArg Prod.snd ((exec_observeArtifactContract hfirstProper hnode).symm.trans hfirst)).symm
    subst hdisk
    exact List.forall_mem_cons.2 ⟨⟨node,hnode⟩,ih hrestProper hrest⟩

/-- `observe_artifacts` on a file system that nobody changes meanwhile. -/
def observation (crates : Crates) (plan : ExecutionPlanV1) (runRoot : HostPath) (pid : ℕ)
    (disk : Disk OsString) : Except ArtifactObservationError (List ArtifactEvidence) :=
  ((observeArtifacts crates plan runRoot).run.exec (Disk.perform pid) disk).1

/-- Plain directories lead to a node that the contract accepts. -/
structure ContractMet (runRoot : HostPath) (tree : Option (FileTree OsString))
    (contract : NormalizedArtifactContract) : Prop where
  way : ∀ directory, runRoot <+: directory →
    directory <+: (artifactSource runRoot contract.path).dropLast → IsDirectory (get directory tree)
  target : ∃ node, get (artifactSource runRoot contract.path) tree = some node ∧
    ContractAccepts contract node

theorem contractMet_iff (hproper : ProperPath contract.path) {tree : Option (FileTree OsString)} :
    ContractMet runRoot tree contract ↔ ∃ node,
      get (artifactSource runRoot contract.path) tree = some node ∧
        ContractAccepts contract node := by
  refine ⟨ContractMet.target,fun h => ⟨fun directory _ hdirectory => ?_,h⟩⟩
  obtain ⟨node,hnode,-⟩ := h
  obtain ⟨rest,hrest⟩ := hdirectory
  have hne : artifactSource runRoot contract.path ≠ [] := by
    rw [artifactSource_eq hproper]
    simp
  rw [← List.dropLast_append_getLast hne,← hrest,List.append_assoc] at hnode
  exact isDirectory_of_get_append hnode (by simp)

theorem observation_eq_ok (hplan : config.intoPlan crates = .ok envelope) :
    observation crates envelope.plan runRoot pid disk = .ok records ↔
      List.Forall₂ (fun contract record => ∃ node,
        get (artifactSource runRoot contract.path) disk.root = some node ∧
        (observeNode crates contract node).bind (artifactEvidence crates contract) = .ok record)
        envelope.plan.sortedContracts records := by
  have hproper : ∀ contract ∈ envelope.plan.sortedContracts, ProperPath contract.path :=
    fun contract hcontract => contract_proper hplan hcontract
  have hexec : (∀ contract ∈ envelope.plan.sortedContracts, ∃ node,
      get (artifactSource runRoot contract.path) disk.root = some node) →
      observation crates envelope.plan runRoot pid disk =
        envelope.plan.sortedContracts.mapM fun contract => (observeNode crates contract
          ((get (artifactSource runRoot contract.path) disk.root).getD .special)).bind
            (artifactEvidence crates contract) := by
    intro hnodes
    have hrun := @exec_observeArtifacts_contracts crates config envelope pid runRoot disk
      (fun path => (get (artifactSource runRoot path) disk.root).getD .special) hplan
      fun contract hcontract => by
        obtain ⟨node,hnode⟩ := hnodes contract hcontract
        rw [hnode,Option.getD_some]
    rw [observation,hrun]
  constructor
  · intro h
    have hnodes : ∀ contract ∈ envelope.plan.sortedContracts, ∃ node,
        get (artifactSource runRoot contract.path) disk.root = some node := by
      rcases hrun : (observeArtifacts crates envelope.plan runRoot).run.exec (Disk.perform pid) disk
        with ⟨result,disk'⟩
      rw [observation,hrun] at h
      dsimp only at h
      subst h
      unfold observeArtifacts at hrun
      split at hrun
      · rename_i hnone
        simp [hnone]
      · obtain ⟨⟨⟩,disk₁,hchain,hcontracts⟩ := (exec_run_bind_eq_ok _).1 hrun
        obtain rfl := disk_eq_of_reads uses_ensurePlainDirectoryChain hchain
        exact exists_of_observeContracts hproper hcontracts
    rw [hexec hnodes,mapM_eq_ok_iff_forall₂] at h
    refine ((List.forall₂_and_left _ _).2 ⟨hnodes,h⟩).imp ?_
    rintro contract record ⟨⟨node,hnode⟩,hrecord⟩
    rw [hnode,Option.getD_some] at hrecord
    exact ⟨node,hnode,hrecord⟩
  · intro h
    have hnodes : ∀ contract ∈ envelope.plan.sortedContracts, ∃ node,
        get (artifactSource runRoot contract.path) disk.root = some node := by
      intro contract hcontract
      obtain ⟨record,-,node,hnode,-⟩ := exists_of_forall₂ h.flip hcontract
      exact ⟨node,hnode⟩
    rw [hexec hnodes,mapM_eq_ok_iff_forall₂]
    refine h.imp ?_
    rintro contract record ⟨node,hnode,hrecord⟩
    rw [hnode,Option.getD_some,hrecord]

/-- An observation that succeeds: one exact record for every contract, in the order of the paths,
and a manifest that a receipt for the plan may carry. -/
structure ObservedExactly (crates : Crates) (plan : ExecutionPlanV1) (runRoot : HostPath)
    (tree : Option (FileTree OsString)) (records : List ArtifactEvidence) : Prop where
  inOrder : ∃ order, order.Perm (plan.checks.flatMap (·.artifactContracts)) ∧
    order.Pairwise (fun left right => left.path < right.path) ∧
    List.Forall₂ (fun contract record => ∃ node,
      get (artifactSource runRoot contract.path) tree = some node ∧
        ExactRecord crates contract node record) order records
  manifest : ∀ receipt : ReceiptV2, receipt.executionPlan = plan →
    receipt.artifactManifest = records → receipt.validateArtifactManifest = .ok ()

/-- No directory of the disk has two entries of one name, and no name has a slash. -/
def Disk.WellNamed (disk : Disk OsString) : Prop :=
  ∀ tree, disk.root = some tree → tree.Named OsString.IsComponent

variable (hplan : config.intoPlan crates = .ok envelope)
include hplan

/-- Each record of an observation, with the node it is about. -/
theorem exact_of_observation (hnamed : disk.WellNamed)
    (h : observation crates envelope.plan runRoot pid disk = .ok records) :
    List.Forall₂ (fun contract record => ∃ node,
      get (artifactSource runRoot contract.path) disk.root = some node ∧
        ContractAccepts contract node ∧ ExactRecord crates contract node record)
      envelope.plan.sortedContracts records := by
  have hmax : ∀ contract ∈ envelope.plan.sortedContracts, 1 ≤ contract.maxEntries.toNat :=
    fun contract hcontract => (contract_declared hplan hcontract).2
  refine ((List.forall₂_and_left _ _).2 ⟨hmax,(observation_eq_ok hplan).1 h⟩).imp ?_
  rintro contract record ⟨hmax,node,hnode,hrecord⟩
  have haccepts := (observeNode_ok hmax).1 ⟨record,hrecord⟩
  obtain ⟨record',hrecord',hexact⟩ := exists_exactRecord hmax (Named.get hnamed hnode) haccepts
  obtain rfl := Except.ok.inj (hrecord.symm.trans hrecord')
  exact ⟨node,hnode,haccepts,hexact⟩

theorem sortedContracts_pairwise :
    envelope.plan.sortedContracts.Pairwise fun left right => left.path < right.path := by
  have hperm := List.perm_insertionSort
    (fun left right : NormalizedArtifactContract => left.path ≤ right.path)
    (envelope.plan.checks.flatMap (·.artifactContracts))
  have hsorted : envelope.plan.sortedContracts.Pairwise fun left right => left.path ≤ right.path :=
    List.pairwise_insertionSort _ _
  have hdistinct := List.pairwise_map.1 ((hperm.map _).nodup_iff.2 (contracts_nodup hplan))
  exact (hsorted.and hdistinct).imp fun h => lt_of_le_of_ne h.1 h.2

theorem manifest_of_observation
    (h : observation crates envelope.plan runRoot pid disk = .ok records) {receipt : ReceiptV2}
    (hreceipt : receipt.executionPlan = envelope.plan)
    (hmanifest : receipt.artifactManifest = records) :
    receipt.validateArtifactManifest = .ok () := by
  rcases hrun : (observeArtifacts crates envelope.plan runRoot).run.exec (Disk.perform pid) disk
    with ⟨result,disk'⟩
  rw [observation,hrun] at h
  dsimp only at h
  subst h hmanifest
  have hnodup := contracts_nodup hplan
  rw [← hreceipt] at hrun hnodup
  exact validateArtifactManifest_ok hnodup (observeArtifacts_ok hrun)

theorem observation_ok_iff :
    (∃ records, observation crates envelope.plan runRoot pid disk = .ok records) ↔
      ∀ contract ∈ envelope.plan.checks.flatMap (·.artifactContracts),
        ContractMet runRoot disk.root contract := by
  have hmem : ∀ contract, contract ∈ envelope.plan.sortedContracts ↔
      contract ∈ envelope.plan.checks.flatMap (·.artifactContracts) :=
    fun contract => List.mem_insertionSort _
  constructor
  · rintro ⟨records,h⟩ contract hcontract
    rw [← hmem] at hcontract
    obtain ⟨record,-,node,hnode,hrecord⟩ :=
      exists_of_forall₂ ((observation_eq_ok hplan).1 h).flip hcontract
    refine (contractMet_iff (contract_proper hplan hcontract)).2 ⟨node,hnode,?_⟩
    exact (observeNode_ok (contract_declared hplan hcontract).2).1 ⟨record,hrecord⟩
  · intro h
    have hrecords : ∀ contract ∈ envelope.plan.sortedContracts, ∃ record, ∃ node,
        get (artifactSource runRoot contract.path) disk.root = some node ∧
        (observeNode crates contract node).bind (artifactEvidence crates contract) =
          .ok record := by
      intro contract hcontract
      obtain ⟨node,hnode,haccepts⟩ := (h contract ((hmem contract).1 hcontract)).target
      obtain ⟨record,hrecord⟩ :=
        (observeNode_ok (contract_declared hplan hcontract).2).2 haccepts
      exact ⟨record,node,hnode,hrecord⟩
    obtain ⟨records,hrecords⟩ := exists_forall₂ hrecords
    exact ⟨records,(observation_eq_ok hplan).2 hrecords⟩

/-- The order in which directories are listed does not matter. -/
theorem observation_sameTree
    (hnamed : disk.WellNamed) {other : Disk OsString} (hother : other.WellNamed)
    (hsame : SameTree disk.root other.root)
    (h : observation crates envelope.plan runRoot pid disk = .ok records) :
    observation crates envelope.plan runRoot pid other = .ok records := by
  have hmax : ∀ contract ∈ envelope.plan.sortedContracts, 1 ≤ contract.maxEntries.toNat :=
    fun contract hcontract => (contract_declared hplan hcontract).2
  refine (observation_eq_ok hplan).2
    (((List.forall₂_and_left _ _).2 ⟨hmax,(observation_eq_ok hplan).1 h⟩).imp ?_)
  rintro contract record ⟨hmax,node,hnode,hrecord⟩
  have hbelow := hsame.below (artifactSource runRoot contract.path)
  rw [hnode] at hbelow
  obtain ⟨node',hnode'⟩ : ∃ node',
      get (artifactSource runRoot contract.path) other.root = some node' := by
    have hroot := hbelow []
    cases hnode' : get (artifactSource runRoot contract.path) other.root with
    | some node' => exact ⟨node',rfl⟩
    | none => simp [hnode'] at hroot
  rw [hnode'] at hbelow
  have hnamedNode : node.Named OsString.IsComponent := Named.get hnamed hnode
  have hnamedNode' : node'.Named OsString.IsComponent := Named.get hother hnode'
  have haccepts := (observeNode_ok hmax).1 ⟨record,hrecord⟩
  refine ⟨node',hnode',?_⟩
  rw [observeNode_eq hnamedNode' (haccepts.sameTree hbelow hnamedNode hnamedNode'),
    ← manifestEntries_sameTree hbelow hnamedNode hnamedNode' haccepts,
    ← observeNode_eq hnamedNode haccepts]
  exact hrecord

end Observation

/-- The observation of an accepted plan succeeds exactly where every contract is met. It is then
exact, independent of how directories are listed, valid for a receipt, and by its digests tells
directories with different files apart. -/
theorem artifact_observation_exact (crates : Crates)
    (config : ConfigV1) (envelope : ExecutionPlanEnvelopeV1)
    (hplan : config.intoPlan crates = .ok envelope) (runRoot : HostPath) (pid : ℕ)
    (disk : Disk OsString) (hnamed : disk.WellNamed) :
    ((∃ records, observation crates envelope.plan runRoot pid disk = .ok records) ↔
      ∀ contract ∈ envelope.plan.checks.flatMap (·.artifactContracts),
        ContractMet runRoot disk.root contract) ∧
    ∀ records, observation crates envelope.plan runRoot pid disk = .ok records →
      ObservedExactly crates envelope.plan runRoot disk.root records ∧
      ∀ other : Disk OsString, other.WellNamed →
        (SameTree disk.root other.root →
          observation crates envelope.plan runRoot pid other = .ok records) ∧
        ∀ records', observation crates envelope.plan runRoot pid other = .ok records' →
          ∀ record ∈ records, ∀ record' ∈ records', record.path = record'.path →
          ∀ children children',
            get (artifactSource runRoot record.path) disk.root = some (.directory children) →
            get (artifactSource runRoot record.path) other.root = some (.directory children') →
            crates.NoCollision (manifestText crates (.directory children))
              (manifestText crates (.directory children')) →
            (∀ file ∈ filesOf [] children, ∀ file' ∈ filesOf [] children',
              crates.NoCollision file.2 file'.2) →
            (record.manifestDigest = record'.manifestDigest ↔
              ∀ file, file ∈ filesOf [] children ↔ file ∈ filesOf [] children') := by
  refine ⟨observation_ok_iff hplan,fun records h => ⟨⟨?_,?_⟩,fun other hother => ⟨?_,?_⟩⟩⟩
  · refine ⟨envelope.plan.sortedContracts,List.perm_insertionSort _ _,
      sortedContracts_pairwise hplan,(exact_of_observation hplan hnamed h).imp ?_⟩
    rintro contract record ⟨node,hnode,-,hexact⟩
    exact ⟨node,hnode,hexact⟩
  · intro receipt hreceipt hmanifest
    exact manifest_of_observation hplan h hreceipt hmanifest
  · exact fun hsame => observation_sameTree hplan hnamed hother hsame h
  · intro records' h' record hrecord record' hrecord' hpath children children' hnode hnode'
      hmanifests hcontents
    obtain ⟨contract,-,node,hget,haccepts,hexact⟩ :=
      exists_of_forall₂ (exact_of_observation hplan hnamed h) hrecord
    obtain ⟨contract',-,node',hget',haccepts',hexact'⟩ :=
      exists_of_forall₂ (exact_of_observation hplan hother h') hrecord'
    rw [← hexact.path,hnode] at hget
    rw [← hexact'.path,← hpath,hnode'] at hget'
    obtain rfl := Option.some.inj hget
    obtain rfl := Option.some.inj hget'
    rw [hexact.manifestDigest,hexact'.manifestDigest,
      ← manifest_binds (Named.get hnamed hnode) (Named.get hother hnode') haccepts.2.2.named
        haccepts'.2.2.named hmanifests hcontents]
    exact canonicalDigest_eq_iff (v := (ArtifactContentManifestV1.mk "1.0" _).encode)
      (w := (ArtifactContentManifestV1.mk "1.0" _).encode)

theorem exists_ok_of_isSome {ε α : Type} {x : Except ε α} (h : x.toOption.isSome = true) :
    ∃ a, x = .ok a := by
  cases x with
  | error e => cases h
  | ok a => exact ⟨a,rfl⟩

def Disk.sampleArtifacts (entries : List (OsString × FileTree OsString)) : Disk OsString where
  root := some (.directory [(artifactsDir,.directory entries)])
  locks := []
  counters _ _ := 0

theorem Disk.sampleArtifacts_wellNamed {entries : List (OsString × FileTree OsString)}
    (h : (FileTree.directory entries).Named OsString.IsComponent) :
    (Disk.sampleArtifacts entries).WellNamed := by
  have hname : artifactsDir.IsComponent := by
    unfold OsString.IsComponent
    decide
  intro tree htree
  obtain rfl := Option.some.inj htree
  exact named_directory.2 ⟨by simp,List.forall_mem_singleton.2 ⟨hname,h⟩⟩

def sampleListing : List (OsString × FileTree OsString) :=
  [(.ofStr "out",.directory [(.ofStr "a",.file [1,2]),
    (.ofStr "b",.directory [(.ofStr "c",.file [3])])]),(.ofStr "report",.file [7])]

theorem sampleListing_named : (FileTree.directory sampleListing).Named OsString.IsComponent ∧
    (FileTree.directory sampleListing.reverse).Named OsString.IsComponent := by
  simp only [sampleListing,List.reverse_cons,List.reverse_nil,List.nil_append,List.singleton_append,
    Named,NamedEntries,OsString.IsComponent,and_true]
  decide

theorem sampleListing_sameTree : SameTree (Disk.sampleArtifacts sampleListing).root
    (Disk.sampleArtifacts sampleListing.reverse).root := by
  refine sameTree_directory fun name => ?_
  simp only [lookupEntry]
  split_ifs
  · exact sameTree_of_perm (List.reverse_perm _).symm (named_directory.1 sampleListing_named.1).1
  · exact .refl _

/-- The sample plan on one tree, listed in two orders. -/
theorem artifact_observation_exact_sample : ∃ records,
    observation .sampleOutput .sampleOutput [] 1 (.sampleArtifacts sampleListing) = .ok records ∧
    ObservedExactly .sampleOutput .sampleOutput [] (Disk.sampleArtifacts sampleListing).root
      records ∧
    observation .sampleOutput .sampleOutput [] 1 (.sampleArtifacts sampleListing.reverse) =
      .ok records := by
  obtain ⟨-,hexact⟩ := artifact_observation_exact .sampleOutput
    .sampleOutput .sampleOutput intoPlan_sampleOutput [] 1 _
    (Disk.sampleArtifacts_wellNamed sampleListing_named.1)
  have hsome : (observation .sampleOutput .sampleOutput [] 1
      (.sampleArtifacts sampleListing)).toOption.isSome = true := by decide +kernel
  obtain ⟨records,hrecords⟩ := exists_ok_of_isSome hsome
  obtain ⟨hobserved,hother⟩ := hexact records hrecords
  exact ⟨records,hrecords,hobserved,
    (hother _ (Disk.sampleArtifacts_wellNamed sampleListing_named.2)).1 sampleListing_sameTree⟩

/-- A name that is not UTF-8 is accepted on a directory without files. A file of a plain name is
refused below such a directory. -/
theorem artifact_observation_names :
    (∀ name : String, OsString.ofStr name ≠ ⟨[255]⟩) ∧
    (∃ records, observation .sampleOutput .sampleOutput [] 1 (.sampleArtifacts
      [(.ofStr "out",.directory [(⟨[255]⟩,.directory [])]),(.ofStr "report",.file [7])]) =
        .ok records) ∧
    ∀ records, observation .sampleOutput .sampleOutput [] 1 (.sampleArtifacts
      [(.ofStr "out",.directory [(⟨[255]⟩,.directory [(.ofStr "a",.file [])])]),
        (.ofStr "report",.file [7])]) ≠ .ok records := by
  refine ⟨fun name h => ?_,?_,fun records h => ?_⟩
  · have hutf8 : Text.fromUtf8 [255] = none := by decide +kernel
    have hbytes : Text.bytes name = [255] := congrArg OsString.bytes h
    rw [← hbytes,Text.fromUtf8_bytes] at hutf8
    cases hutf8
  · have hsome : (observation .sampleOutput .sampleOutput [] 1 (.sampleArtifacts
        [(.ofStr "out",.directory [(⟨[255]⟩,.directory [])]),
          (.ofStr "report",.file [7])])).toOption.isSome = true := by decide +kernel
    exact exists_ok_of_isSome hsome
  · have hnone : (observation .sampleOutput .sampleOutput [] 1 (.sampleArtifacts
        [(.ofStr "out",.directory [(⟨[255]⟩,.directory [(.ofStr "a",.file [])])]),
          (.ofStr "report",.file [7])])).toOption.isSome = false := by decide +kernel
    rw [h] at hnone
    cases hnone

end CommitCiPreflight
