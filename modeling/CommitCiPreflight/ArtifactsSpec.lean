import CommitCiPreflight.WorkspaceSpec

/-! What is observed at an artifact mount depends on the node there alone. -/
namespace CommitCiPreflight

open Program Files FileTree

theorem FileTree.nodesOf_eq_sum {ν : Type} (entries : List (ν × FileTree ν)) :
    nodesOf entries = (entries.map fun e => e.2.nodes).sum := by
  induction entries with
  | nil => rfl
  | cons e entries ih => rw [nodesOf,ih,List.map_cons,List.sum_cons]

section Observe

variable {crates : Crates} {pid : ℕ} {disk : Disk OsString} {contract : NormalizedArtifactContract}
  {node : FileTree OsString} {contractPath : String}

theorem exec_checkDirectories {current : HostPath} {names : List OsString}
    (hnames : OsString.ofStr ".." ∉ names)
    (h : ∀ r, r <+: names → r ≠ [] → IsDirectory (get (current++r) disk.root)) :
    (checkDirectories contractPath current names).run.exec (Disk.perform pid) disk =
      (.ok (),disk) := by
  induction names generalizing current with
  | nil => rfl
  | cons name names ih =>
    have hname : name ≠ .ofStr ".." := fun he => hnames (he ▸ List.mem_cons_self)
    obtain ⟨entries,hdirectory⟩ := h [name] (by simp) (by simp)
    rw [checkDirectories,exec_ensure_bind _ hname,
      Disk.exec_passOn_bind (Disk.exec_metadata_of_get hdirectory)]
    refine ih (fun hmem => hnames (List.mem_cons_of_mem _ hmem)) fun r hr hne => ?_
    rw [List.append_assoc]
    exact h (name::r) (List.cons_prefix_cons.2 ⟨rfl,hr⟩) (by simp)

theorem exec_ensurePlainDirectoryChain {root : HostPath} {names : List OsString}
    (hnames : OsString.ofStr ".." ∉ names)
    (h : ∀ r, r <+: names → IsDirectory (get (root++r) disk.root)) :
    (ensurePlainDirectoryChain root (root++names) contractPath).run.exec (Disk.perform pid) disk =
      (.ok (),disk) := by
  obtain ⟨entries,hroot⟩ := h [] List.nil_prefix
  rw [List.append_nil] at hroot
  rw [ensurePlainDirectoryChain,exec_ensure_bind _ (List.prefix_append _ _),
    Disk.exec_passOn_bind (Disk.exec_metadata_of_get hroot),List.drop_left]
  exact exec_checkDirectories hnames fun r hr _ => h r hr

def observeNode (crates : Crates) (contract : NormalizedArtifactContract) :
    FileTree OsString → Except ArtifactObservationError (List ArtifactContentEntryV1)
  | .file content =>
    if contract.kind = .regularFile then
      (contentEntry crates content "." contract.maxBytes.toNat contract.path).map ([·])
    else .error (.unsafeObject contract.path)
  | .directory children =>
    if contract.kind = .directory then
      (observePending crates contract (FileTree.directory children).nodes ⟨[],0⟩
        [([],children)]).map fun seen =>
          seen.entries.insertionSort fun left right => left.path ≤ right.path
    else .error (.unsafeObject contract.path)
  | _ => .error (.unsafeObject contract.path)

theorem exec_observeRegularFile {path : HostPath} {logical : String} {maxBytes : ℕ}
    (h : get path disk.root = some node) :
    (observeRegularFile crates path logical maxBytes contractPath).run.exec (Disk.perform pid) disk =
      (match node with
        | .file content => contentEntry crates content logical maxBytes contractPath
        | _ => .error (.unsafeObject contractPath),disk) := by
  rw [observeRegularFile,Disk.exec_passOn_bind (Disk.exec_metadata_of_get h)]
  rcases node with content | children | target | _
  case file =>
    rw [exec_ensure_bind _ (show (FileTree.file content).metadata.kind = .file from rfl)]
    by_cases hsize : (FileTree.file content : FileTree OsString).metadata.length ≤ maxBytes
    · have hentry : ∃ entry, contentEntry crates content logical maxBytes contractPath =
          .ok entry := ⟨_,if_neg (not_lt.2 hsize)⟩
      obtain ⟨entry,hentry⟩ := hentry
      rw [exec_ensure_bind _ hsize,Disk.exec_passOn_bind (Disk.exec_readFile_of_get h),
        exec_ofExcept_bind _ hentry,Disk.exec_passOn_bind (Disk.exec_metadata_of_get h),
        exec_ensure_bind _ ⟨rfl,rfl⟩]
      exact congrArg (·,disk) hentry.symm
    · rw [exec_ensure_bind_neg _ hsize]
      exact congrArg (·,disk) (if_pos (not_le.1 hsize)).symm
  all_goals rfl

theorem exec_observeDirectory {root : HostPath} (hkind : contract.kind = .directory)
    (h : get root disk.root = some node) :
    (observeDirectory crates contract root).run.exec (Disk.perform pid) disk =
      (observeNode crates contract node,disk) := by
  rw [observeDirectory,Disk.exec_passOn_bind (Disk.exec_metadata_of_get h)]
  rcases node with content | children | target | _
  case directory =>
    have hdirectory : (FileTree.directory children).metadata.kind = .directory := rfl
    rw [exec_ensure_bind _ hdirectory,Disk.exec_passOn_bind (Disk.exec_readTree_of_get h),
      observeNode,if_pos hkind]
    rcases hpending : observePending crates contract (FileTree.directory children).nodes ⟨[],0⟩
      [([],children)] with e | seen
    · exact exec_run_bind_error _ (congrArg (·,disk) hpending)
    · exact exec_ofExcept_bind _ hpending
  case file =>
    rw [observeNode,if_neg (by simp [hkind])]
    rfl
  all_goals rfl

theorem exec_observeTarget {target : HostPath} (h : get target disk.root = some node) :
    (observeTarget crates contract target).run.exec (Disk.perform pid) disk =
      (observeNode crates contract node,disk) := by
  unfold observeTarget
  split
  · rename_i hkind
    have hfile : (observeRegularFile crates target "." contract.maxBytes.toNat contract.path).run.exec
        (Disk.perform pid) disk = _ := exec_observeRegularFile h
    rcases node with content | children | target | _
    case file =>
      rw [observeNode,if_pos hkind]
      rcases hentry : contentEntry crates content "." contract.maxBytes.toNat contract.path with
        e | entry
      · exact exec_run_bind_error _ (hfile.trans (congrArg (·,disk) hentry))
      · exact exec_run_bind_ok _ (hfile.trans (congrArg (·,disk) hentry))
    case directory =>
      rw [observeNode,if_neg (by simp [hkind])]
      exact exec_run_bind_error _ hfile
    all_goals exact exec_run_bind_error _ hfile
  · exact exec_observeDirectory ‹_› h

theorem exec_observeArtifactContract {runRoot : HostPath} (hproper : ProperPath contract.path)
    (h : get (artifactSource runRoot contract.path) disk.root = some node) :
    (observeArtifactContract crates contract (runRoot++[artifactsDir])).run.exec (Disk.perform pid)
        disk = ((observeNode crates contract node).bind (artifactEvidence crates contract),disk) := by
  have htarget : HostPath.join (runRoot++[artifactsDir]) contract.path =
      runRoot++[artifactsDir]++(segments contract.path).map OsString.ofStr := by
    rw [← artifactSource,artifactSource_eq hproper]
    simp
  have hnames : (segments contract.path).map OsString.ofStr ≠ [] := by
    simpa using segments_ne_nil contract.path
  have hparent : HostPath.parent (HostPath.join (runRoot++[artifactsDir]) contract.path) =
      some (runRoot++[artifactsDir]++((segments contract.path).map OsString.ofStr).dropLast) := by
    rw [htarget,HostPath.parent,if_neg (by simp),List.dropLast_append_of_ne_nil hnames]
  have hchain : (ensurePlainDirectoryChain (runRoot++[artifactsDir])
      (runRoot++[artifactsDir]++((segments contract.path).map OsString.ofStr).dropLast)
      contract.path).run.exec (Disk.perform pid) disk = (.ok (),disk) := by
    refine exec_ensurePlainDirectoryChain (fun hmem => ?_) fun r hr => ?_
    · obtain ⟨segment,hsegment,he⟩ := List.mem_map.1 (List.mem_of_mem_dropLast hmem)
      exact (hproper.segments segment hsegment).2.2 (OsString.ofStr_injective he)
    · obtain ⟨tail,htail⟩ := hr.trans (List.dropLast_prefix _)
      rw [artifactSource,htarget,← htail,← List.append_assoc] at h
      refine isDirectory_of_get_append h fun hnil => ?_
      subst hnil
      have hlength := hr.length_le
      rw [List.append_nil] at htail
      rw [htail,List.length_dropLast] at hlength
      have hpos := List.length_pos_of_ne_nil hnames
      omega
  have htargets : (observeTarget crates contract
      (HostPath.join (runRoot++[artifactsDir]) contract.path)).run.exec (Disk.perform pid) disk =
        (observeNode crates contract node,disk) := exec_observeTarget h
  have hparentOf : parentOf (HostPath.join (runRoot++[artifactsDir]) contract.path) = .ok
      (runRoot++[artifactsDir]++((segments contract.path).map OsString.ofStr).dropLast) := by
    rw [parentOf,hparent]
  rw [observeArtifactContract,exec_ensure_bind _ (htarget ▸ List.prefix_append _ _),
    exec_ofExcept_bind _ hparentOf,exec_run_bind_ok _ hchain]
  rcases hnode : observeNode crates contract node with e | entries
  · rw [hnode] at htargets
    exact exec_run_bind_error _ htargets
  · rw [hnode] at htargets
    exact exec_run_bind_ok _ htargets

theorem exec_observeContracts {runRoot : HostPath} {contracts : List NormalizedArtifactContract}
    {node : String → FileTree OsString}
    (h : ∀ contract ∈ contracts, ProperPath contract.path ∧
      get (artifactSource runRoot contract.path) disk.root = some (node contract.path)) :
    (observeContracts crates (runRoot++[artifactsDir]) contracts).run.exec (Disk.perform pid) disk =
      (contracts.mapM fun contract => (observeNode crates contract (node contract.path)).bind
        (artifactEvidence crates contract),disk) := by
  induction contracts with
  | nil => rfl
  | cons contract contracts ih =>
    obtain ⟨hproper,hnode⟩ := h contract (by simp)
    have hfirst : (observeArtifactContract crates contract (runRoot++[artifactsDir])).run.exec
        (Disk.perform pid) disk = _ := exec_observeArtifactContract hproper hnode
    have hrest := ih fun other hother => h other (by simp [hother])
    rw [List.mapM_cons]
    rcases hevidence : (observeNode crates contract (node contract.path)).bind
      (artifactEvidence crates contract) with e | evidence
    · rw [hevidence] at hfirst
      exact exec_run_bind_error _ hfirst
    · rw [hevidence] at hfirst
      refine (exec_run_bind_ok _ hfirst).trans ?_
      rcases hrecords : contracts.mapM fun contract =>
        (observeNode crates contract (node contract.path)).bind (artifactEvidence crates contract)
        with e | records
      · rw [hrecords] at hrest
        exact exec_run_bind_error _ hrest
      · rw [hrecords] at hrest
        exact exec_run_bind_ok _ hrest

theorem mapM_eq_ok {ε α β : Type} {f : α → Except ε β} {as : List α} :
    (∃ bs, as.mapM f = .ok bs) ↔ ∀ a ∈ as, ∃ b, f a = .ok b := by
  induction as with
  | nil => exact ⟨fun _ => by simp,fun _ => ⟨[],rfl⟩⟩
  | cons a as ih =>
    rw [List.forall_mem_cons,← ih]
    simp only [List.mapM_cons,except_bind_eq_ok]
    constructor
    · rintro ⟨_,b,hb,bs,hbs,-⟩
      exact ⟨⟨b,hb⟩,bs,hbs⟩
    · rintro ⟨⟨b,hb⟩,bs,hbs⟩
      exact ⟨b::bs,b,hb,bs,hbs,rfl⟩

theorem mapM_eq_ok_iff_forall₂ {ε α β : Type} {f : α → Except ε β} {as : List α} {bs : List β} :
    as.mapM f = .ok bs ↔ List.Forall₂ (fun a b => f a = .ok b) as bs := by
  induction as generalizing bs with
  | nil =>
    rw [List.mapM_nil,List.forall₂_nil_left_iff]
    exact ⟨fun h => (Except.ok.inj h).symm,fun h => congrArg Except.ok h.symm⟩
  | cons a as ih =>
    rw [List.mapM_cons,except_bind_eq_ok,List.forall₂_cons_left_iff]
    constructor
    · rintro ⟨b,hb,h⟩
      obtain ⟨rest,hrest,h⟩ := except_bind_eq_ok.1 h
      exact ⟨b,rest,hb,ih.1 hrest,(Except.ok.inj h).symm⟩
    · rintro ⟨b,rest,hb,hrest,rfl⟩
      exact ⟨b,hb,except_bind_eq_ok.2 ⟨rest,ih.2 hrest,rfl⟩⟩

theorem exists_forall₂ {α β : Type} {R : α → β → Prop} {as : List α}
    (h : ∀ a ∈ as, ∃ b, R a b) : ∃ bs, List.Forall₂ R as bs := by
  induction as with
  | nil => exact ⟨[],.nil⟩
  | cons a as ih =>
    obtain ⟨⟨b,hb⟩,hrest⟩ := List.forall_mem_cons.1 h
    obtain ⟨bs,hbs⟩ := ih hrest
    exact ⟨b::bs,.cons hb hbs⟩

theorem exists_of_forall₂ {α β : Type} {R : α → β → Prop} {as : List α} {bs : List β}
    (h : List.Forall₂ R as bs) {b : β} (hb : b ∈ bs) : ∃ a ∈ as, R a b := by
  induction h with
  | nil => simp at hb
  | cons hab _ ih =>
    rcases List.mem_cons.1 hb with rfl | hb
    · exact ⟨_,List.mem_cons_self,hab⟩
    · obtain ⟨a,ha,hr⟩ := ih hb
      exact ⟨a,List.mem_cons_of_mem _ ha,hr⟩

end Observe

section Accepts

variable {crates : Crates} {contract : NormalizedArtifactContract} {seen : DirectoryObservation}
  {relative : List OsString} {children : List (OsString × FileTree OsString)}
  {pending : List PendingDirectory}
  {fs gs : List (List OsString × Bytes)} {seen' : DirectoryObservation}

/-- Files that can be recorded beside what is recorded already. -/
structure FilesFit (contract : NormalizedArtifactContract) (seen : DirectoryObservation)
    (files : List (List OsString × Bytes)) : Prop where
  named : ∀ file ∈ files, (logicalPath file.1).isSome
  bytes : seen.totalBytes+(files.map (·.2.length)).sum ≤ contract.maxBytes.toNat
  entries : seen.entries.length+files.length ≤ contract.maxEntries.toNat

theorem FilesFit.perm (h : FilesFit contract seen fs) (hperm : fs.Perm gs) :
    FilesFit contract seen gs where
  named file hfile := h.named file (hperm.mem_iff.2 hfile)
  bytes := (hperm.map fun file => file.2.length).sum_nat ▸ h.bytes
  entries := hperm.length_eq ▸ h.entries

theorem FilesFit.left (h : FilesFit contract seen (fs++gs)) : FilesFit contract seen fs := by
  obtain ⟨hnamed,hbytes,hentries⟩ := h
  rw [List.map_append,List.sum_append] at hbytes
  rw [List.length_append] at hentries
  exact ⟨fun file hfile => hnamed file (by simp [hfile]),by omega,by omega⟩

/-- What is recorded keeps to the limits, and its sizes add up. -/
structure DirectoryObservation.Within (seen : DirectoryObservation)
    (contract : NormalizedArtifactContract) : Prop where
  bytes : seen.totalBytes ≤ contract.maxBytes.toNat
  entries : seen.entries.length ≤ contract.maxEntries.toNat
  sizes : (seen.entries.map (·.sizeBytes.toNat)).sum = seen.totalBytes

theorem observeFile_eq_ok {content : Bytes} :
    observeFile crates contract seen relative content = .ok seen' ↔
      ∃ logical, logicalPath relative = some logical ∧
        seen.totalBytes+content.length ≤ contract.maxBytes.toNat ∧
        seen.entries.length+1 ≤ contract.maxEntries.toNat ∧
        seen' = ⟨seen.entries++[⟨logical,.ofNat content.length,
          receiptIdPrefix++encodeHex (crates.sha256 content).toList⟩],
          seen.totalBytes+content.length⟩ := by
  unfold observeFile
  split
  · rename_i hnone
    simp [hnone]
  rename_i logical hsome
  rw [except_bind_eq_ok]
  simp only [contentEntry,hsome,Option.some.injEq]
  constructor
  · rintro ⟨entry,hentry,h⟩
    split at hentry
    · simp at hentry
    obtain rfl := Except.ok.inj hentry
    obtain ⟨htotal,h⟩ := except_guard_eq_ok.1 h
    obtain ⟨hcount,h⟩ := except_guard_eq_ok.1 h
    refine ⟨logical,rfl,by omega,?_,(Except.ok.inj h).symm⟩
    simpa using hcount
  · rintro ⟨_,rfl,htotal,hcount,rfl⟩
    refine ⟨_,if_neg (by omega),?_⟩
    rw [if_neg (by omega),if_neg (by simpa using hcount)]

def directFiles (relative : List OsString) :
    List (OsString × FileTree OsString) → List (List OsString × Bytes)
  | [] => []
  | (name,.file content)::rest => (relative++[name],content)::directFiles relative rest
  | _::rest => directFiles relative rest

def subdirectories (relative : List OsString) :
    List (OsString × FileTree OsString) →
    List PendingDirectory
  | [] => []
  | (name,.directory children)::rest => (relative++[name],children)::subdirectories relative rest
  | _::rest => subdirectories relative rest

def PlainChildren (children : List (OsString × FileTree OsString)) : Prop :=
  ∀ child ∈ children, child.2.metadata.kind = .file ∨ child.2.metadata.kind = .directory

theorem plainChildren_cons {child : OsString × FileTree OsString}
    {children : List (OsString × FileTree OsString)} :
    PlainChildren (child::children) ↔ (child.2.metadata.kind = .file ∨
      child.2.metadata.kind = .directory) ∧ PlainChildren children :=
  List.forall_mem_cons

theorem filesFit_cons {file : List OsString × Bytes} {files : List (List OsString × Bytes)}
    (entry : ArtifactContentEntryV1) :
    FilesFit contract seen (file::files) ↔ (logicalPath file.1).isSome ∧
      FilesFit contract ⟨seen.entries++[entry],seen.totalBytes+file.2.length⟩ files := by
  constructor
  · rintro ⟨hnamed,hbytes,hentries⟩
    rw [List.map_cons,List.sum_cons] at hbytes
    rw [List.length_cons] at hentries
    refine ⟨hnamed file (by simp),fun other hother => hnamed other (by simp [hother]),?_,?_⟩
    · simpa [Nat.add_assoc] using hbytes
    · rw [List.length_append,List.length_singleton]
      omega
  · rintro ⟨hfirst,hnamed,hbytes,hentries⟩
    rw [List.length_append,List.length_singleton] at hentries
    refine ⟨List.forall_mem_cons.2 ⟨hfirst,hnamed⟩,?_,?_⟩
    · simpa [Nat.add_assoc] using hbytes
    · rw [List.length_cons]
      omega

theorem DirectoryObservation.Within.add {content : Bytes} {logical digest : String}
    (hseen : seen.Within contract)
    (hbytes : seen.totalBytes+content.length ≤ contract.maxBytes.toNat)
    (hentries : seen.entries.length+1 ≤ contract.maxEntries.toNat) :
    DirectoryObservation.Within ⟨seen.entries++[⟨logical,.ofNat content.length,digest⟩],
      seen.totalBytes+content.length⟩ contract where
  bytes := hbytes
  entries := by simpa using hentries
  sizes := by
    have hsize : (UInt64.ofNat content.length).toNat = content.length := by
      have := contract.maxBytes.toNat_lt
      exact UInt64.toNat_ofNat_of_lt' (show content.length < 2^64 by omega)
    rw [List.map_append,List.sum_append,hseen.sizes,List.map_singleton,List.sum_singleton,hsize]

def fileEntry (crates : Crates) (file : List OsString × Bytes) : ArtifactContentEntryV1 :=
  ⟨(logicalPath file.1).getD "",.ofNat file.2.length,
    receiptIdPrefix++encodeHex (crates.sha256 file.2).toList⟩

theorem observeChildren_ok (hseen : seen.Within contract) :
    (PlainChildren children ∧ FilesFit contract seen (directFiles relative children) →
      ∃ seen' : DirectoryObservation, observeChildren crates contract relative seen children =
          .ok (seen',subdirectories relative children) ∧ seen'.Within contract ∧
        seen'.totalBytes = seen.totalBytes+
          ((directFiles relative children).map (·.2.length)).sum ∧
        seen'.entries = seen.entries++(directFiles relative children).map (fileEntry crates)) ∧
    ∀ result, observeChildren crates contract relative seen children = .ok result →
      PlainChildren children ∧ FilesFit contract seen (directFiles relative children) := by
  induction children generalizing seen with
  | nil =>
    refine ⟨fun _ => ⟨seen,rfl,hseen,rfl,by simp [directFiles]⟩,
      fun _ _ => ⟨by simp [PlainChildren],?_⟩⟩
    exact ⟨by simp [directFiles],by simpa [directFiles] using hseen.bytes,
      by simpa [directFiles] using hseen.entries⟩
  | cons child children ih =>
    obtain ⟨name,node⟩ := child
    rw [plainChildren_cons]
    rcases node with content | entries | target | _
    case directory =>
      obtain ⟨hsuccess,hresult⟩ := ih hseen
      simp only [observeChildren,directFiles,subdirectories,FileTree.metadata,reduceCtorEq,
        or_true,true_and,except_bind_eq_ok]
      constructor
      · intro h
        obtain ⟨seen',hread,hrest⟩ := hsuccess h
        exact ⟨seen',⟨_,hread,rfl⟩,hrest⟩
      · rintro _ ⟨result,hread,-⟩
        exact hresult result hread
    case file =>
      simp only [observeChildren,directFiles,subdirectories,FileTree.metadata,reduceCtorEq,
        true_or,true_and,except_bind_eq_ok]
      constructor
      · rintro ⟨hchildren,hfit⟩
        obtain ⟨logical,hlogical⟩ := Option.isSome_iff_exists.1 (hfit.named _ List.mem_cons_self)
        have hbytes : seen.totalBytes+content.length ≤ contract.maxBytes.toNat := by
          have := hfit.bytes
          simp only [List.map_cons,List.sum_cons] at this
          omega
        have hentries : seen.entries.length+1 ≤ contract.maxEntries.toNat := by
          have := hfit.entries
          rw [List.length_cons] at this
          omega
        have hread : observeFile crates contract seen (relative++[name]) content = .ok _ :=
          observeFile_eq_ok.2 ⟨logical,hlogical,hbytes,hentries,rfl⟩
        obtain ⟨seen',hrest,hwithin,htotal,hrecords⟩ := (ih (hseen.add hbytes hentries)).1
          ⟨hchildren,((filesFit_cons _).1 hfit).2⟩
        refine ⟨seen',⟨_,hread,hrest⟩,hwithin,?_,?_⟩
        · simp only [htotal,List.map_cons,List.sum_cons]
          exact Nat.add_assoc ..
        · simp [hrecords,fileEntry,hlogical]
      · rintro result ⟨seen₁,hread,hrest⟩
        obtain ⟨logical,hlogical,hbytes,hentries,rfl⟩ := observeFile_eq_ok.1 hread
        obtain ⟨hchildren,hfit⟩ := (ih (hseen.add hbytes hentries)).2 result hrest
        exact ⟨hchildren,(filesFit_cons _).2 ⟨by simp [hlogical],hfit⟩⟩
    all_goals simp [observeChildren,FileTree.metadata]

def pendingFiles (pending : List PendingDirectory) :
    List (List OsString × Bytes) :=
  pending.flatMap fun directory => filesOf directory.1 directory.2

def pendingNodes (pending : List PendingDirectory) : ℕ :=
  (pending.map fun directory => nodesOf directory.2+1).sum

theorem filesOf_perm (relative : List OsString) (children : List (OsString × FileTree OsString)) :
    (filesOf relative children).Perm
      (directFiles relative children++pendingFiles (subdirectories relative children)) := by
  induction children with
  | nil => simp [filesOf,directFiles,subdirectories,pendingFiles]
  | cons child children ih =>
    obtain ⟨name,node⟩ := child
    rcases node with content | entries | target | _
    case file => simpa [filesOf,files,directFiles,subdirectories] using ih
    case directory =>
      simp only [filesOf,files,directFiles,subdirectories,pendingFiles,List.flatMap_cons] at ih ⊢
      refine (ih.append_left _).trans ?_
      rw [← List.append_assoc,← List.append_assoc]
      exact List.perm_append_comm.append_right _
    all_goals simpa [filesOf,files,directFiles,subdirectories] using ih

theorem plainEntries_iff (relative : List OsString) :
    PlainEntries children ↔ PlainChildren children ∧
      ∀ directory ∈ subdirectories relative children, PlainEntries directory.2 := by
  induction children with
  | nil => simp [PlainEntries,PlainChildren,subdirectories]
  | cons child children ih =>
    obtain ⟨name,node⟩ := child
    rw [PlainEntries,ih,plainChildren_cons]
    rcases node with content | entries | target | _
    case directory =>
      simp only [Plain,FileTree.metadata,subdirectories,List.forall_mem_cons]
      tauto
    all_goals simp [Plain,FileTree.metadata,subdirectories]

theorem pendingNodes_subdirectories (relative : List OsString)
    (children : List (OsString × FileTree OsString)) :
    pendingNodes (subdirectories relative children) ≤ nodesOf children := by
  induction children with
  | nil => simp [subdirectories,pendingNodes]
  | cons child children ih =>
    obtain ⟨name,node⟩ := child
    rcases node with content | entries | target | _
    case directory =>
      simp only [subdirectories,pendingNodes,List.map_cons,List.sum_cons,nodesOf] at ih ⊢
      have hnodes : (FileTree.directory entries).nodes = nodesOf entries+1 := rfl
      omega
    all_goals
      simp only [subdirectories,nodesOf]
      omega

theorem filesFit_append (hbytes : seen'.totalBytes = seen.totalBytes+(fs.map (·.2.length)).sum)
    (hentries : seen'.entries.length = seen.entries.length+fs.length) :
    FilesFit contract seen (fs++gs) ↔ FilesFit contract seen fs ∧ FilesFit contract seen' gs := by
  constructor
  · intro h
    have hb := h.bytes
    have he := h.entries
    rw [List.map_append,List.sum_append] at hb
    rw [List.length_append] at he
    exact ⟨h.left,fun file hfile => h.named file (by simp [hfile]),by omega,by omega⟩
  · rintro ⟨hfs,hgs⟩
    have hb := hgs.bytes
    have he := hgs.entries
    refine ⟨fun file hfile => ?_,?_,?_⟩
    · exact (List.mem_append.1 hfile).elim (hfs.named file) (hgs.named file)
    · rw [List.map_append,List.sum_append]
      omega
    · rw [List.length_append]
      omega

structure PendingFits (contract : NormalizedArtifactContract) (seen : DirectoryObservation)
    (pending : List PendingDirectory) : Prop where
  plain : ∀ directory ∈ pending, PlainEntries directory.2
  fit : FilesFit contract seen (pendingFiles pending)

theorem pendingFits_nil (hseen : seen.Within contract) : PendingFits contract seen [] :=
  ⟨by simp,by simp [pendingFiles],hseen.bytes,hseen.entries⟩

theorem pendingFiles_perm (relative : List OsString) (children : List (OsString × FileTree OsString))
    (pending : List PendingDirectory) :
    (pendingFiles ((relative,children)::pending)).Perm (directFiles relative children++
      pendingFiles ((subdirectories relative children).reverse++pending)) := by
  rw [pendingFiles,pendingFiles,List.flatMap_cons,List.flatMap_append,← List.append_assoc]
  refine ((filesOf_perm relative children).trans (List.Perm.append_left _ ?_)).append_right _
  exact (List.reverse_perm _).symm.flatMap_right _

theorem PendingFits.direct (h : PendingFits contract seen ((relative,children)::pending)) :
    PlainChildren children ∧ FilesFit contract seen (directFiles relative children) :=
  ⟨((plainEntries_iff relative).1 (h.plain _ List.mem_cons_self)).1,
    (h.fit.perm (pendingFiles_perm relative children pending)).left⟩

theorem pendingFits_cons (hbytes : seen'.totalBytes = seen.totalBytes+
      ((directFiles relative children).map (·.2.length)).sum)
    (hentries : seen'.entries.length = seen.entries.length+(directFiles relative children).length) :
    PendingFits contract seen ((relative,children)::pending) ↔
      (PlainChildren children ∧ FilesFit contract seen (directFiles relative children)) ∧
      PendingFits contract seen' ((subdirectories relative children).reverse++pending) := by
  have hperm := pendingFiles_perm relative children pending
  constructor
  · intro h
    obtain ⟨hfirst,hrest⟩ := List.forall_mem_cons.1 h.plain
    obtain ⟨-,hdirectories⟩ := (plainEntries_iff relative).1 hfirst
    obtain ⟨-,hlater⟩ := (filesFit_append hbytes hentries).1 (h.fit.perm hperm)
    refine ⟨h.direct,fun directory hdirectory => ?_,hlater⟩
    rcases List.mem_append.1 hdirectory with hmem | hmem
    · exact hdirectories directory (List.mem_reverse.1 hmem)
    · exact hrest directory hmem
  · rintro ⟨⟨hchildren,hdirect⟩,hplain,hlater⟩
    refine ⟨List.forall_mem_cons.2 ⟨(plainEntries_iff relative).2 ⟨hchildren,fun directory hmem => ?_⟩,
      fun directory hmem => ?_⟩,((filesFit_append hbytes hentries).2 ⟨hdirect,hlater⟩).perm hperm.symm⟩
    · exact hplain directory (by simp [hmem])
    · exact hplain directory (by simp [hmem])

theorem pendingFiles_listed {listed : List (OsString × FileTree OsString)}
    (hlisted : listed.Perm children) (relative : List OsString)
    (pending : List PendingDirectory) :
    (pendingFiles ((relative,listed)::pending)).Perm
      (pendingFiles ((relative,children)::pending)) := by
  simp only [pendingFiles,List.flatMap_cons,filesOf_eq_flatMap]
  exact (hlisted.flatMap_right _).append_right _

theorem PendingFits.listed {listed : List (OsString × FileTree OsString)}
    (h : PendingFits contract seen ((relative,children)::pending))
    (hlisted : listed.Perm children) : PendingFits contract seen ((relative,listed)::pending) := by
  obtain ⟨hfirst,hrest⟩ := List.forall_mem_cons.1 h.plain
  rw [plainEntries_iff_forall] at hfirst
  refine ⟨List.forall_mem_cons.2 ⟨?_,hrest⟩,h.fit.perm (pendingFiles_listed hlisted.symm _ _)⟩
  exact plainEntries_iff_forall.2 fun child hchild => hfirst child (hlisted.mem_iff.1 hchild)

theorem pendingNodes_listed {listed : List (OsString × FileTree OsString)}
    (hlisted : listed.Perm children)
    (pending : List PendingDirectory) :
    pendingNodes ((relative,listed)::pending) = pendingNodes ((relative,children)::pending) := by
  simp only [pendingNodes,List.map_cons,List.sum_cons,nodesOf_eq_sum,(hlisted.map _).sum_nat]

/-- The stack is worked off exactly where everything on it is plain and fits, and every file on it
is recorded. -/
theorem observePending_ok {steps : ℕ} (hseen : seen.Within contract)
    (hsteps : pendingNodes pending ≤ steps) :
    (PendingFits contract seen pending → ∃ seen' : DirectoryObservation,
      observePending crates contract steps seen pending = .ok seen' ∧ seen'.Within contract ∧
      seen'.entries.Perm (seen.entries++(pendingFiles pending).map (fileEntry crates))) ∧
    ∀ seen', observePending crates contract steps seen pending = .ok seen' →
      PendingFits contract seen pending := by
  induction steps generalizing seen pending with
  | zero =>
    rcases pending with _ | ⟨directory,pending⟩
    · exact ⟨fun _ => ⟨seen,rfl,hseen,by simp [pendingFiles]⟩,fun _ _ => pendingFits_nil hseen⟩
    · simp [pendingNodes] at hsteps
  | succ steps ih =>
    rcases pending with _ | ⟨⟨relative,children⟩,pending⟩
    · exact ⟨fun _ => ⟨seen,rfl,hseen,by simp [pendingFiles]⟩,fun _ _ => pendingFits_nil hseen⟩
    rw [observePending]
    have hlisted := List.perm_insertionSort
      (fun left right : OsString × FileTree OsString => left.1 ≤ right.1) children
    rw [← pendingNodes_listed hlisted] at hsteps
    have hfits : PendingFits contract seen ((relative,children)::pending) ↔
        PendingFits contract seen ((relative,_)::pending) :=
      ⟨fun h => h.listed hlisted,fun h => h.listed hlisted.symm⟩
    have hfiles := pendingFiles_listed hlisted relative pending
    rw [hfits]
    generalize children.insertionSort (fun left right => left.1 ≤ right.1) = listed at hsteps hfiles ⊢
    obtain ⟨hsuccess,hresult⟩ : _ ∧ ∀ result,
        observeChildren crates contract relative seen listed = .ok result → _ :=
      observeChildren_ok hseen
    have hleft : pendingNodes ((subdirectories relative listed).reverse++pending) ≤ steps := by
      have hdirectories := pendingNodes_subdirectories relative listed
      simp only [pendingNodes,List.map_cons,List.sum_cons,List.map_append,List.sum_append,
        List.map_reverse,List.sum_reverse] at hdirectories hsteps ⊢
      omega
    constructor
    · intro h
      obtain ⟨seen',hread,hwithin,hbytes,hentries⟩ := hsuccess h.direct
      have hcount : seen'.entries.length = seen.entries.length+(directFiles relative listed).length := by
        simp [hentries]
      obtain ⟨final,hrest,hfinal,hrecords⟩ :=
        (ih hwithin hleft).1 ((pendingFits_cons hbytes hcount).1 h).2
      refine ⟨final,except_bind_eq_ok.2 ⟨_,hread,hrest⟩,hfinal,hrecords.trans ?_⟩
      rw [hentries,List.append_assoc,← List.map_append]
      exact (((pendingFiles_perm relative listed pending).symm.trans hfiles).map _).append_left _
    · intro final h
      obtain ⟨result,hread,hrest⟩ := except_bind_eq_ok.1 h
      obtain ⟨seen',hread',hwithin,hbytes,hentries⟩ := hsuccess (hresult result hread)
      have hcount : seen'.entries.length = seen.entries.length+(directFiles relative listed).length := by
        simp [hentries]
      obtain rfl := Except.ok.inj (hread.symm.trans hread')
      exact (pendingFits_cons hbytes hcount).2 ⟨hresult _ hread,(ih hwithin hleft).2 final hrest⟩

theorem totalBytes_isSome {total : UInt64} {entries : List ArtifactContentEntryV1}
    (h : total.toNat+(entries.map (·.sizeBytes.toNat)).sum ≤ contract.maxBytes.toNat) :
    (totalBytes contract total entries).isSome := by
  induction entries generalizing total with
  | nil => rfl
  | cons entry entries ih =>
    rw [List.map_cons,List.sum_cons] at h
    have hlimit := contract.maxBytes.toNat_lt
    have hsum : (total+entry.sizeBytes).toNat = total.toNat+entry.sizeBytes.toNat := by
      rw [UInt64.toNat_add]
      exact Nat.mod_eq_of_lt (by omega)
    have hadd : (checkedAdd total entry.sizeBytes).filter (· ≤ contract.maxBytes) =
        some (total+entry.sizeBytes) := by
      rw [checkedAdd,if_pos (by omega),Option.filter_some,if_pos]
      rw [decide_eq_true_eq,UInt64.le_iff_toNat_le]
      omega
    rw [totalBytes,hadd]
    exact ih (by omega)

theorem artifactEvidence_ok {entries : List ArtifactContentEntryV1}
    (hbytes : (entries.map (·.sizeBytes.toNat)).sum ≤ contract.maxBytes.toNat)
    (hentries : entries.length ≤ contract.maxEntries.toNat) :
    ∃ evidence, artifactEvidence crates contract entries = .ok evidence := by
  have hsum : (totalBytes contract 0 entries).isSome :=
    totalBytes_isSome (by simpa using hbytes)
  obtain ⟨total,htotal⟩ := Option.isSome_iff_exists.1 hsum
  rw [artifactEvidence,htotal]
  exact ⟨_,if_neg (not_lt.2 hentries)⟩

def ContractAccepts (contract : NormalizedArtifactContract) : FileTree OsString → Prop
  | .file content => contract.kind = .regularFile ∧ content.length ≤ contract.maxBytes.toNat
  | .directory children => contract.kind = .directory ∧ PlainEntries children ∧
    FilesFit contract ⟨[],0⟩ (filesOf [] children)
  | _ => False

theorem within_zero (contract : NormalizedArtifactContract) :
    DirectoryObservation.Within ⟨[],0⟩ contract :=
  ⟨Nat.zero_le _,Nat.zero_le _,rfl⟩

theorem pendingFits_singleton :
    PendingFits contract seen [([],children)] ↔
      PlainEntries children ∧ FilesFit contract seen (filesOf [] children) := by
  have hfiles : pendingFiles [([],children)] = filesOf [] children := by simp [pendingFiles]
  constructor
  · rintro ⟨hplain,hfit⟩
    exact ⟨hplain _ List.mem_cons_self,hfiles ▸ hfit⟩
  · rintro ⟨hplain,hfit⟩
    exact ⟨by simpa using hplain,hfiles ▸ hfit⟩

/-- Evidence of a node is made exactly where the contract accepts it. -/
theorem observeNode_ok (hmax : 1 ≤ contract.maxEntries.toNat) {node : FileTree OsString} :
    (∃ evidence, (observeNode crates contract node).bind (artifactEvidence crates contract) =
      .ok evidence) ↔ ContractAccepts contract node := by
  change (∃ evidence, (observeNode crates contract node >>= artifactEvidence crates contract) =
    .ok evidence) ↔ _
  simp only [except_bind_eq_ok]
  constructor
  · rintro ⟨-,entries,h,-⟩
    rcases node with content | children | target | _
    case file =>
      rw [observeNode] at h
      split at h
      · rename_i hkind
        refine ⟨hkind,?_⟩
        rw [contentEntry] at h
        split at h
        · simp [Except.map] at h
        · omega
      · simp at h
    case directory =>
      rw [observeNode] at h
      split at h
      · rename_i hkind
        rcases hseen : observePending crates contract (FileTree.directory children).nodes ⟨[],0⟩
          [([],children)] with e | seen
        · simp [hseen,Except.map] at h
        · exact ⟨hkind,pendingFits_singleton.1
            ((observePending_ok (within_zero contract) (le_refl _)).2 seen hseen)⟩
      · simp at h
    all_goals simp [observeNode] at h
  · intro h
    rcases node with content | children | target | _
    case file =>
      obtain ⟨hkind,hsize⟩ := h
      have hlimit := contract.maxBytes.toNat_lt
      have hlength : (UInt64.ofNat content.length).toNat = content.length :=
        UInt64.toNat_ofNat_of_lt' (show content.length < 2^64 by omega)
      rw [observeNode,if_pos hkind,contentEntry,if_neg (not_lt.2 hsize)]
      refine (artifactEvidence_ok ?_ ?_).imp fun evidence hevidence => ⟨[_],rfl,hevidence⟩
      · simpa [hlength] using hsize
      · exact hmax
    case directory =>
      obtain ⟨hkind,hfits⟩ := h
      obtain ⟨seen,hseen,hwithin,-⟩ : ∃ seen : DirectoryObservation,
          observePending crates contract (FileTree.directory children).nodes ⟨[],0⟩
            [([],children)] = .ok seen ∧ seen.Within contract ∧ _ :=
        (observePending_ok (within_zero contract) (le_refl _)).1 (pendingFits_singleton.2 hfits)
      have hperm := List.perm_insertionSort
        (fun left right : ArtifactContentEntryV1 => left.path ≤ right.path) seen.entries
      rw [observeNode,if_pos hkind,hseen]
      refine (artifactEvidence_ok ?_ ?_).imp fun evidence hevidence => ⟨_,rfl,hevidence⟩
      · rw [(hperm.map _).sum_nat,hwithin.sizes]
        exact hwithin.bytes
      · rw [hperm.length_eq]
        exact hwithin.entries
    all_goals exact h.elim

end Accepts
end CommitCiPreflight
