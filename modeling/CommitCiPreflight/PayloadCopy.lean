import CommitCiPreflight.CacheFrame
import CommitCiPreflight.FileContents
import CommitCiPreflight.LinkFree

/-! Copying and measuring a cache payload. Both walks are specified on the tree they walk over: they
go through exactly when the node limit and the link policy let every node pass, and the sums of a
measurement alone may then still overflow. -/
namespace CommitCiPreflight

open Program Files

def measurePayloadTreeWithPolicy (root : HostPath) (nodes nodeLimit : ℕ)
    (policy : PayloadLinkPolicy) : CacheIo (PayloadTreeStats × ℕ) := do
  match (← passOn .io (Files.metadata root)) with
  | ⟨.symlink,_⟩ => throw (.symlinkInManagedRoot root)
  | ⟨.directory,_⟩ => walkPayload nodeLimit policy (nodeLimit+1) root nodes
  | _ => throw (.unexpectedEntry root)

def copyPayloadTreeWithPolicy (source destination : HostPath) (nodes nodeLimit : ℕ)
    (policy : PayloadLinkPolicy) : CacheIo ℕ := do
  match (← passOn .io (Files.metadata source)) with
  | ⟨.symlink,_⟩ => throw (.symlinkInManagedRoot source)
  | ⟨.directory,_⟩ =>
    requireAbsent destination
    copyPayloadNode nodeLimit policy (nodeLimit+1) source destination nodes
  | _ => throw (.unexpectedEntry source)

/-- The validation of the cache is a measurement from a fresh counter. -/
theorem validatePayloadTree_eq (root : HostPath) (nodeLimit : ℕ) (policy : PayloadLinkPolicy) :
    validatePayloadTree root nodeLimit policy =
      (do let _ ← measurePayloadTreeWithPolicy root 0 nodeLimit policy) := by
  unfold validatePayloadTree measurePayloadTreeWithPolicy
  rw [bind_assoc]
  congr 1
  funext metadata
  rcases metadata with ⟨_ | _ | _ | _,length⟩ <;> rfl

theorem copyPayloadTree_eq (source destination : HostPath) (nodeLimit : ℕ)
    (policy : PayloadLinkPolicy) : copyPayloadTree source destination nodeLimit policy =
      (do let _ ← copyPayloadTreeWithPolicy source destination 0 nodeLimit policy) := by
  unfold copyPayloadTree copyPayloadTreeWithPolicy
  rw [bind_assoc]
  congr 1
  funext metadata
  rcases metadata with ⟨_ | _ | _ | _,length⟩
  case directory => exact (bind_assoc _ _ _).symm
  all_goals rfl

namespace FileTree

mutual
def Admissible (policy : PayloadLinkPolicy) : FileTree OsString → Prop
  | .file _ => True
  | .directory entries => AdmissibleEntries policy entries
  | .symlink _ => policy ≠ .reject
  | .special => False
def AdmissibleEntries (policy : PayloadLinkPolicy) : List (OsString × FileTree OsString) → Prop
  | [] => True
  | (_,t)::entries => Admissible policy t ∧ AdmissibleEntries policy entries
end

mutual
/-- The totals of a tree, none if a sum does not fit. -/
def totals : FileTree OsString → Option PayloadTreeStats
  | .file content => some ⟨.ofNat content.length,1⟩
  | .directory entries => totalsFrom ⟨0,0⟩ entries
  | .symlink target => some ⟨.ofNat target.length,1⟩
  | .special => some ⟨0,0⟩
def totalsFrom (stats : PayloadTreeStats) :
    List (OsString × FileTree OsString) → Option PayloadTreeStats
  | [] => some stats
  | (_,t)::entries => do
    let child ← totals t
    let stats ← (addStats stats child).toOption
    totalsFrom stats entries
end

/-- Neither the node limit nor the policy stands in the way of a walk. -/
def Unobstructed (policy : PayloadLinkPolicy) (nodeLimit nodes : ℕ) (t : FileTree OsString) : Prop :=
  nodes+t.nodes ≤ nodeLimit ∧ t.Admissible policy

def UnobstructedEntries (policy : PayloadLinkPolicy) (nodeLimit nodes : ℕ)
    (entries : List (OsString × FileTree OsString)) : Prop :=
  nodes+nodesOf entries ≤ nodeLimit ∧ AdmissibleEntries policy entries

variable {policy : PayloadLinkPolicy} {nodeLimit nodes : ℕ}
  {entries : List (OsString × FileTree OsString)}

theorem not_unobstructed {t : FileTree OsString} (h : nodeLimit ≤ nodes) :
    ¬ Unobstructed policy nodeLimit nodes t := by
  intro hfree
  have hnodes := hfree.1
  have hpositive := t.nodes_pos
  omega

theorem unobstructed_directory :
    Unobstructed policy nodeLimit nodes (.directory entries) ↔
      UnobstructedEntries policy nodeLimit (nodes+1) entries := by
  rw [Unobstructed,UnobstructedEntries,FileTree.nodes,Admissible,add_right_comm,add_assoc]

theorem unobstructedEntries_cons {e : OsString × FileTree OsString} :
    UnobstructedEntries policy nodeLimit nodes (e::entries) ↔
      Unobstructed policy nodeLimit nodes e.2 ∧
        UnobstructedEntries policy nodeLimit (nodes+e.2.nodes) entries := by
  simp only [Unobstructed,UnobstructedEntries,nodesOf,AdmissibleEntries]
  constructor
  · rintro ⟨hnodes,hfirst,hrest⟩
    exact ⟨⟨by omega,hfirst⟩,by omega,hrest⟩
  · rintro ⟨⟨_,hfirst⟩,hnodes,hrest⟩
    exact ⟨by omega,hfirst,hrest⟩

def answer (stats : Option PayloadTreeStats) (nodes : ℕ) :
    Except CacheError (PayloadTreeStats × ℕ) :=
  match stats with
  | some stats => .ok (stats,nodes)
  | none => .error .sizeOverflow

end FileTree

section Measure

open Disk FileTree

variable {pid : ℕ} {disk : Disk OsString} {policy : PayloadLinkPolicy} {nodeLimit : ℕ}
  {path : HostPath} {entries : List (OsString × FileTree OsString)} {nodes depth : ℕ}
  {e : OsString × FileTree OsString} {stats : Option PayloadTreeStats}

/-- What a walk does that passes under a condition: it answers with its sums, and fails otherwise.
It follows no link and writes nothing. -/
structure Walks (pid : ℕ) (disk : Disk OsString) (walk : CacheIo (PayloadTreeStats × ℕ))
    (condition : Prop) (stats : Option PayloadTreeStats) (nodes : ℕ) : Prop where
  along : walk.run.Along (perform pid) FollowsNoLink disk
  passes : condition → walk.run.exec (perform pid) disk = (answer stats nodes,disk)
  fails : ¬ condition → ∃ e, walk.run.exec (perform pid) disk = (.error e,disk)

theorem followsNoLink_metadata (h : HasParent path disk.root) :
    FollowsNoLink (.metadata path) disk :=
  followsNoLink_of_hasParent rfl (by simp [FileOp.opens]) h (by simp [FileOp.opens])

theorem followsNoLink_readLink (h : HasParent path disk.root) :
    FollowsNoLink (.readLink path) disk :=
  followsNoLink_of_hasParent rfl (by simp [FileOp.opens]) h (by simp [FileOp.opens])

theorem exec_readLink_of_get {target : List UInt8}
    (h : FileTree.get path disk.root = some (.symlink target)) :
    (Files.readLink path).exec (perform pid) disk = (.ok target,disk) := by
  change Disk.perform pid (.readLink path) disk = _
  simp only [Disk.perform,stat_of_get h]

theorem exec_readDir_of_get (h : FileTree.get path disk.root = some (.directory entries)) :
    (Files.readDir path).exec (perform pid) disk = (.ok (entries.map Prod.fst),disk) := by
  change Disk.perform pid (.readDir path) disk = _
  simp only [Disk.perform,stat_of_get h]

theorem along_passOn_bind {α β ε : Type} {wrap : IoErrorKind → ε}
    {call : FileProgram OsString (Except IoErrorKind α)} {a : α}
    {g : α → Fallible (FileOp OsString) FileOp.Result ε β} {disk' : Disk OsString}
    (h : call.exec (perform pid) disk = (.ok a,disk'))
    (hcall : call.Along (perform pid) FollowsNoLink disk)
    (hrest : (g a).run.Along (perform pid) FollowsNoLink disk') :
    (passOn wrap call >>= g).run.Along (perform pid) FollowsNoLink disk := by
  refine (along_run_bind_ok (exec_passOn_eq_ok.2 h)).2 ⟨?_,hrest⟩
  exact along_bind.2 ⟨hcall,trivial⟩

theorem lookup_entry (hsorted : SortedKeys entries)
    (h : FileTree.get path disk.root = some (.directory entries)) (he : e ∈ entries) :
    FileTree.get (path++[e.1]) disk.root = some e.2 := by
  rw [FileTree.get_append,h,get_entry hsorted.nodup he]
  rfl

def walkEntry (nodeLimit : ℕ) (policy : PayloadLinkPolicy) (depth : ℕ) (path : HostPath)
    (sums : PayloadTreeStats × ℕ) (name : OsString) : CacheIo (PayloadTreeStats × ℕ) := do
  let (child,nodes) ← walkPayload nodeLimit policy depth (path++[name]) sums.2
  return (← Program.ofExcept (addStats sums.1 child),nodes)

theorem addStats_eq_error {stats child : PayloadTreeStats} {e : CacheError}
    (h : addStats stats child = .error e) : e = .sizeOverflow := by
  unfold addStats at h
  split at h
  · cases h
  · exact (Except.error.inj h).symm

theorem Walks.bind {walk : CacheIo (PayloadTreeStats × ℕ)} {condition condition' : Prop}
    {nodes' : ℕ} {g : PayloadTreeStats × ℕ → CacheIo (PayloadTreeStats × ℕ)}
    {sums : PayloadTreeStats → Option PayloadTreeStats}
    (h : Walks pid disk walk condition stats nodes)
    (hrest : condition → ∀ sum, Walks pid disk (g (sum,nodes)) condition' (sums sum) nodes') :
    Walks pid disk (walk >>= g) (condition ∧ condition') (stats.bind sums) nodes' := by
  by_cases hcondition : condition
  · have hexec := h.passes hcondition
    cases stats with
    | none =>
      have herror := exec_run_bind_error (g := g) (perform pid) hexec
      refine ⟨(along_run_bind_error hexec).2 h.along,fun _ => herror,fun _ => ⟨_,herror⟩⟩
    | some sum =>
      have hnext := hrest hcondition sum
      have hbind := exec_run_bind_ok (g := g) (perform pid) hexec
      refine ⟨(along_run_bind_ok hexec).2 ⟨h.along,hnext.along⟩,fun hboth => ?_,fun hnot => ?_⟩
      · rw [hbind,hnext.passes hboth.2]
        rfl
      · rw [hbind]
        exact hnext.fails fun hcondition' => hnot ⟨hcondition,hcondition'⟩
  · obtain ⟨e,hexec⟩ := h.fails hcondition
    refine ⟨(along_run_bind_error hexec).2 h.along,fun hboth => absurd hboth.1 hcondition,
      fun _ => ⟨e,exec_run_bind_error (perform pid) hexec⟩⟩

theorem walkEntry_walks (stats : PayloadTreeStats)
    (h : Walks pid disk (walkPayload nodeLimit policy depth (path++[e.1]) nodes)
      (Unobstructed policy nodeLimit nodes e.2) e.2.totals (nodes+e.2.nodes)) :
    Walks pid disk (walkEntry nodeLimit policy depth path (stats,nodes) e.1)
      (Unobstructed policy nodeLimit nodes e.2)
      (e.2.totals.bind fun child => (addStats stats child).toOption) (nodes+e.2.nodes) := by
  have hadd : ∀ child, Walks pid disk
      (do return (← Program.ofExcept (addStats stats child),nodes+e.2.nodes)) True
      ((addStats stats child).toOption) (nodes+e.2.nodes) := by
    intro child
    cases hsum : addStats stats child with
    | error error =>
      cases addStats_eq_error hsum
      exact ⟨trivial,fun _ => rfl,fun hnot => absurd trivial hnot⟩
    | ok sum => exact ⟨trivial,fun _ => rfl,fun hnot => absurd trivial hnot⟩
  have hwalk := h.bind (g := fun (child,nodes) => do
    return (← Program.ofExcept (addStats stats child),nodes)) fun _ child => hadd child
  rw [and_true] at hwalk
  exact hwalk

theorem walkEntries_walks (hentry : ∀ e ∈ entries, ∀ nodes, nodeLimit < depth+nodes →
      Walks pid disk (walkPayload nodeLimit policy depth (path++[e.1]) nodes)
        (Unobstructed policy nodeLimit nodes e.2) e.2.totals (nodes+e.2.nodes))
    (stats : PayloadTreeStats) (nodes : ℕ) (hdepth : nodeLimit < depth+nodes)
    (hnodes : nodes ≤ nodeLimit) :
    Walks pid disk
      ((entries.map Prod.fst).foldlM (walkEntry nodeLimit policy depth path) (stats,nodes))
      (UnobstructedEntries policy nodeLimit nodes entries) (totalsFrom stats entries)
      (nodes+nodesOf entries) := by
  induction entries generalizing stats nodes with
  | nil => exact ⟨trivial,fun _ => rfl,fun hnot => absurd ⟨hnodes,trivial⟩ hnot⟩
  | cons e entries ih =>
    obtain ⟨hfirst,hrest⟩ := List.forall_mem_cons.1 hentry
    have hstep := walkEntry_walks stats (hfirst nodes hdepth)
    rw [List.map_cons,List.foldlM_cons,unobstructedEntries_cons]
    have hwalk := hstep.bind
      (g := (entries.map Prod.fst).foldlM (walkEntry nodeLimit policy depth path))
      fun hfree sum => ih hrest sum (nodes+e.2.nodes) (by omega) hfree.1
    rw [add_assoc,Option.bind_assoc] at hwalk
    exact hwalk

theorem ensure_bind {α ε : Type} {c : Prop} [Decidable c] {e : ε}
    {g : Unit → Fallible (FileOp OsString) FileOp.Result ε α} (h : c) :
    (ensure c e >>= g) = g () := by
  rw [ensure,if_pos h]
  rfl

theorem Walks.call {α : Type} {wrap : IoErrorKind → CacheError}
    {call : FileProgram OsString (Except IoErrorKind α)} {a : α}
    {g : α → CacheIo (PayloadTreeStats × ℕ)} {condition : Prop}
    (hcall : call.exec (perform pid) disk = (.ok a,disk))
    (halong : call.Along (perform pid) FollowsNoLink disk)
    (h : Walks pid disk (g a) condition stats nodes) :
    Walks pid disk (passOn wrap call >>= g) condition stats nodes := by
  have hexec : (passOn wrap call >>= g).run.exec (perform pid) disk =
      (g a).run.exec (perform pid) disk := exec_passOn_bind hcall
  refine ⟨along_passOn_bind hcall halong h.along,fun hcondition => ?_,fun hnot => ?_⟩
  · rw [hexec,h.passes hcondition]
  · rw [hexec]
    exact h.fails hnot

def walkNode (nodeLimit : ℕ) (policy : PayloadLinkPolicy) (depth : ℕ) (path : HostPath) (nodes : ℕ) :
    Metadata → CacheIo (PayloadTreeStats × ℕ)
  | ⟨.symlink,_⟩ => do return (← measureSymlink path policy,nodes)
  | ⟨.file,length⟩ => return (⟨.ofNat length,1⟩,nodes)
  | ⟨.special,_⟩ => throw (.unexpectedEntry path)
  | ⟨.directory,_⟩ => do
    let names ← passOn .io (Files.readDir path)
    names.foldlM (walkEntry nodeLimit policy depth path) (⟨0,0⟩,nodes)

theorem walkPayload_succ (depth : ℕ) (path : HostPath) (nodes : ℕ) :
    walkPayload nodeLimit policy (depth+1) path nodes = (do
      ensure (nodes+1 ≤ nodeLimit) .inventoryLimitExceeded
      let metadata ← passOn .io (Files.metadata path)
      walkNode nodeLimit policy depth path (nodes+1) metadata) := by
  rw [walkPayload]
  rfl

theorem walkPayload_walks_of_node {tree : FileTree OsString}
    (hget : FileTree.get path disk.root = some tree) (hdepth : nodeLimit < depth+nodes)
    (hnode : ∀ deeper, nodeLimit < deeper+(nodes+1) → nodes+1 ≤ nodeLimit →
      Walks pid disk (walkNode nodeLimit policy deeper path (nodes+1) tree.metadata)
        (Unobstructed policy nodeLimit nodes tree) tree.totals (nodes+tree.nodes)) :
    Walks pid disk (walkPayload nodeLimit policy depth path nodes)
      (Unobstructed policy nodeLimit nodes tree) tree.totals (nodes+tree.nodes) := by
  cases depth with
  | zero =>
    have hover := @not_unobstructed policy nodeLimit nodes tree (by omega)
    exact ⟨trivial,fun hfree => absurd hfree hover,fun _ => ⟨_,rfl⟩⟩
  | succ depth =>
    rw [walkPayload_succ]
    by_cases hnodes : nodes+1 ≤ nodeLimit
    · rw [ensure_bind hnodes]
      have hparent := hasParent_of_get hget
      exact Walks.call (exec_metadata_of_get hget) ⟨followsNoLink_metadata hparent,trivial⟩
        (hnode depth (by omega) hnodes)
    · have hover := @not_unobstructed policy nodeLimit nodes tree (by omega)
      rw [ensure,if_neg hnodes]
      exact ⟨trivial,fun hfree => absurd hfree hover,fun _ => ⟨_,rfl⟩⟩

/-- The walk over a tree passes exactly when nothing obstructs it. -/
theorem walkPayload_walks (tree : FileTree OsString) (hsorted : tree.Sorted) (depth nodes : ℕ)
    (path : HostPath) (hget : FileTree.get path disk.root = some tree)
    (hdepth : nodeLimit < depth+nodes) :
    Walks pid disk (walkPayload nodeLimit policy depth path nodes)
      (Unobstructed policy nodeLimit nodes tree) tree.totals (nodes+tree.nodes) := by
  induction tree using FileTree.induct generalizing depth nodes path with
  | file content =>
    refine walkPayload_walks_of_node hget hdepth fun deeper _ hnodes => ?_
    exact ⟨trivial,fun _ => rfl,fun hnot => absurd ⟨hnodes,trivial⟩ hnot⟩
  | special =>
    refine walkPayload_walks_of_node hget hdepth fun deeper _ hnodes => ?_
    exact ⟨trivial,fun hfree => hfree.2.elim,fun _ => ⟨_,rfl⟩⟩
  | symlink target =>
    refine walkPayload_walks_of_node hget hdepth fun deeper _ hnodes => ?_
    by_cases hpolicy : policy ≠ .reject
    · have hfree : Unobstructed policy nodeLimit nodes (.symlink target) := ⟨hnodes,hpolicy⟩
      change Walks pid disk ((ensure (policy ≠ .reject) (.payloadSymlinkUnsupported path) >>=
        fun _ => _) >>= _) _ _ _
      rw [ensure_bind hpolicy,bind_assoc]
      refine Walks.call (exec_readLink_of_get hget)
        ⟨followsNoLink_readLink (hasParent_of_get hget),trivial⟩ ?_
      exact ⟨trivial,fun _ => rfl,fun hnot => absurd hfree hnot⟩
    · have hover : ¬ Unobstructed policy nodeLimit nodes (.symlink target) :=
        fun hfree => hpolicy hfree.2
      change Walks pid disk ((ensure (policy ≠ .reject) (.payloadSymlinkUnsupported path) >>=
        fun _ => _) >>= _) _ _ _
      rw [ensure,if_neg hpolicy]
      exact ⟨trivial,fun hfree => absurd hfree hover,fun _ => ⟨_,rfl⟩⟩
  | directory entries ih =>
    obtain ⟨hkeys,hentries⟩ := hsorted
    rw [sortedEntries_iff] at hentries
    refine walkPayload_walks_of_node hget hdepth fun deeper hdeeper hnodes => ?_
    have hparent := hasParent_of_get hget
    have hread : FollowsNoLink (.readDir path) disk :=
      followsNoLink_of_hasParent rfl (by simp [FileOp.opens]) hparent (by simp [hget])
    refine Walks.call (exec_readDir_of_get hget) ⟨hread,trivial⟩ ?_
    have hwalk := walkEntries_walks (fun e he nodes hover =>
      ih e he (hentries e he) deeper nodes (path++[e.1]) (lookup_entry hkeys hget he) hover)
      ⟨0,0⟩ (nodes+1) hdeeper hnodes
    rw [unobstructed_directory,FileTree.nodes,← add_assoc,add_right_comm]
    exact hwalk

end Measure

section Copy

open Disk FileTree

variable {pid : ℕ} {disk : Disk OsString} {policy : PayloadLinkPolicy} {nodeLimit : ℕ}
  {source destination : HostPath} {nodes : ℕ} {root : Option (FileTree OsString)}
  {tree : FileTree OsString} {root' : Option (FileTree OsString)} {content : Bytes}

/-- What a copy does that passes under a condition: it leaves the given tree, and fails otherwise.
It follows no link. -/
structure Copies (pid : ℕ) (disk : Disk OsString) (copy : CacheIo ℕ) (condition : Prop) (nodes : ℕ)
    (root : Option (FileTree OsString)) : Prop where
  along : copy.run.Along (perform pid) FollowsNoLink disk
  passes : condition → copy.run.exec (perform pid) disk = (.ok nodes,disk.setRoot root)
  fails : ¬ condition → ∃ e disk', copy.run.exec (perform pid) disk = (.error e,disk')

theorem Copies.after {α : Type} {x : CacheIo α} {a : α} {g : α → CacheIo ℕ} {condition : Prop}
    (hx : x.run.exec (perform pid) disk = (.ok a,disk.setRoot root'))
    (halong : x.run.Along (perform pid) FollowsNoLink disk)
    (h : Copies pid (disk.setRoot root') (g a) condition nodes root) :
    Copies pid disk (x >>= g) condition nodes root := by
  have hexec := exec_run_bind_ok (g := g) (perform pid) hx
  refine ⟨(along_run_bind_ok hx).2 ⟨halong,h.along⟩,fun hcondition => ?_,fun hnot => ?_⟩
  · rw [hexec,h.passes hcondition]
    rfl
  · rw [hexec]
    exact h.fails hnot

theorem Copies.call {α : Type} {wrap : IoErrorKind → CacheError}
    {call : FileProgram OsString (Except IoErrorKind α)} {a : α} {g : α → CacheIo ℕ}
    {condition : Prop} (hcall : call.exec (perform pid) disk = (.ok a,disk.setRoot root'))
    (halong : call.Along (perform pid) FollowsNoLink disk)
    (h : Copies pid (disk.setRoot root') (g a) condition nodes root) :
    Copies pid disk (passOn wrap call >>= g) condition nodes root :=
  Copies.after (exec_passOn_eq_ok.2 hcall) (along_bind.2 ⟨halong,trivial⟩) h

theorem Copies.bind {copy : CacheIo ℕ} {condition condition' : Prop} {nodes' : ℕ}
    {g : ℕ → CacheIo ℕ} (h : Copies pid disk copy condition nodes root)
    (hrest : condition → Copies pid (disk.setRoot root) (g nodes) condition' nodes' root') :
    Copies pid disk (copy >>= g) (condition ∧ condition') nodes' root' := by
  by_cases hcondition : condition
  · have hexec := h.passes hcondition
    have hnext := hrest hcondition
    have hbind := exec_run_bind_ok (g := g) (perform pid) hexec
    refine ⟨(along_run_bind_ok hexec).2 ⟨h.along,hnext.along⟩,fun hboth => ?_,fun hnot => ?_⟩
    · rw [hbind,hnext.passes hboth.2]
      rfl
    · rw [hbind]
      exact hnext.fails fun hcondition' => hnot ⟨hcondition,hcondition'⟩
  · obtain ⟨e,disk',hexec⟩ := h.fails hcondition
    exact ⟨(along_run_bind_error hexec).2 h.along,fun hboth => absurd hboth.1 hcondition,
      fun _ => ⟨e,disk',exec_run_bind_error (perform pid) hexec⟩⟩

/-- The place of a copied node: nothing is there, in a directory, and the source is elsewhere. -/
structure Vacant (disk : Disk OsString) (source destination : HostPath) : Prop where
  parent : HasParent destination disk.root
  absent : FileTree.get destination disk.root = none
  apart : Beside source destination

theorem exec_create (h : Vacant disk source destination) (node : FileTree OsString) :
    disk.create destination node =
      (.ok (),disk.setRoot (put (some node) destination disk.root)) := by
  rw [create,reach_eq_ok.2 ⟨h.parent,h.absent⟩]

theorem followsNoLink_vacant {op : FileOp OsString} (h : Vacant disk source destination)
    (hpaths : op.paths = [destination]) (hopens : ∀ p ∈ op.opens, p = destination) :
    FollowsNoLink op disk :=
  followsNoLink_of_hasParent hpaths hopens h.parent fun _ => by simp [h.absent]

theorem exec_edit_new (hparent : HasParent destination root) (f : Bytes → Bytes) :
    (disk.setRoot (put (some (.file content)) destination root)).edit destination f =
      (.ok (),disk.setRoot (put (some (.file (f content))) destination root)) := by
  have hget : FileTree.get destination (put (some (.file content)) destination root) =
      some (.file content) := get_put_self _ hparent
  rw [edit]
  simp only [setRoot,stat_of_get hget,put_put]

theorem followsNoLink_new {op : FileOp OsString} (hparent : HasParent destination root)
    (hpaths : op.paths = [destination]) (hopens : ∀ p ∈ op.opens, p = destination) :
    FollowsNoLink op (disk.setRoot (put (some (.file content)) destination root)) := by
  have hget : FileTree.get destination (put (some (.file content)) destination root) =
      some (.file content) := get_put_self _ hparent
  exact followsNoLink_of_hasParent hpaths hopens (hasParent_of_get hget)
    fun _ => by simp [setRoot,hget]

theorem copyFile_copies (pid nodes : ℕ)
    (hget : FileTree.get source disk.root = some (.file content))
    (hvacant : Vacant disk source destination) :
    Copies pid disk (do copyFile source destination; return nodes) True nodes
      (put (some (.file content)) destination disk.root) := by
  have hopen : (Files.openCreate destination).exec (perform pid) disk =
      (.ok (),disk.setRoot (put (some (.file [])) destination disk.root)) := by
    change Disk.perform pid (.openCreate destination) disk = _
    simp only [Disk.perform,reach_eq_ok.2 ⟨hvacant.parent,hvacant.absent⟩]
    exact exec_create hvacant _
  have hread : FollowsNoLink (.readFile source) disk :=
    followsNoLink_of_hasParent rfl (by simp [FileOp.opens]) (hasParent_of_get hget)
      (by simp [hget])
  unfold copyFile
  simp only [bind_assoc]
  refine Copies.call (exec_readFile_of_get hget) ⟨hread,trivial⟩ ?_
  refine Copies.call hopen ⟨followsNoLink_vacant hvacant rfl (by simp [FileOp.opens]),trivial⟩ ?_
  refine Copies.call (exec_edit_new hvacant.parent fun _ => [])
    ⟨followsNoLink_new hvacant.parent rfl (by simp [FileOp.opens]),trivial⟩ ?_
  refine Copies.call (exec_edit_new hvacant.parent (·++content))
    ⟨followsNoLink_new hvacant.parent rfl (by simp [FileOp.opens]),trivial⟩ ?_
  exact ⟨trivial,fun _ => rfl,fun hnot => absurd trivial hnot⟩

theorem requireAbsent_vacant (pid : ℕ) (h : Vacant disk source destination) :
    (requireAbsent destination).run.exec (perform pid) disk = (.ok (),disk) ∧
      (requireAbsent destination).run.Along (perform pid) FollowsNoLink disk := by
  have hstat := stat_of_absent h.parent h.absent
  have hexec : (Files.metadata destination).exec (perform pid) disk = (.error .notFound,disk) := by
    rw [exec_metadata,hstat]
    rfl
  unfold requireAbsent
  refine ⟨?_,along_lift_bind.2 ⟨⟨followsNoLink_metadata h.parent,trivial⟩,?_⟩⟩
  · rw [exec_lift_bind,hexec]
    rfl
  · rw [hexec]
    trivial

theorem recreatePayloadLink_copies {target : Bytes} (hnodes : nodes+1 ≤ nodeLimit)
    (hget : FileTree.get source disk.root = some (.symlink target))
    (hvacant : Vacant disk source destination) :
    Copies pid disk (do recreatePayloadLink source destination policy; return nodes+1)
      (Unobstructed policy nodeLimit nodes (.symlink target)) (nodes+1)
      (put (some (.symlink target)) destination disk.root) := by
  unfold recreatePayloadLink
  simp only [bind_assoc]
  by_cases hpolicy : policy ≠ .reject
  · have hfree : Unobstructed policy nodeLimit nodes (.symlink target) := ⟨hnodes,hpolicy⟩
    obtain ⟨habsent,halong⟩ := requireAbsent_vacant pid hvacant
    rw [ensure_bind hpolicy]
    refine Copies.call (exec_readLink_of_get hget)
      ⟨followsNoLink_readLink (hasParent_of_get hget),trivial⟩ ?_
    refine Copies.after habsent halong ?_
    refine Copies.call (exec_create hvacant (.symlink target))
      ⟨followsNoLink_vacant hvacant rfl (by simp [FileOp.opens]),trivial⟩ ?_
    exact ⟨trivial,fun _ => rfl,fun hnot => absurd hfree hnot⟩
  · rw [ensure,if_neg hpolicy]
    exact ⟨trivial,fun hfree => absurd hfree.2 hpolicy,fun _ => ⟨_,_,rfl⟩⟩

theorem copyEntries_copies {depth : ℕ} {entries : List (OsString × FileTree OsString)}
    (hparent : HasParent destination disk.root) (hapart : Beside source destination)
    (hentry : ∀ e ∈ entries, ∀ (disk : Disk OsString) (nodes : ℕ),
      FileTree.get (source++[e.1]) disk.root = some e.2 →
      Vacant disk (source++[e.1]) (destination++[e.1]) → nodeLimit < depth+nodes →
      Copies pid disk (copyPayloadNode nodeLimit policy depth (source++[e.1]) (destination++[e.1])
          nodes) (Unobstructed policy nodeLimit nodes e.2) (nodes+e.2.nodes)
        (put (some e.2) (destination++[e.1]) disk.root))
    (hget : ∀ e ∈ entries, FileTree.get (source++[e.1]) disk.root = some e.2)
    (copied : List (OsString × FileTree OsString)) (hsorted : SortedKeys (copied++entries))
    (nodes : ℕ) (hdepth : nodeLimit < depth+nodes) (hnodes : nodes ≤ nodeLimit) :
    Copies pid (disk.setRoot (put (some (.directory copied)) destination disk.root))
      ((entries.map Prod.fst).foldlM (fun nodes name => copyPayloadNode nodeLimit policy depth
        (source++[name]) (destination++[name]) nodes) nodes)
      (UnobstructedEntries policy nodeLimit nodes entries) (nodes+nodesOf entries)
      (put (some (.directory (copied++entries))) destination disk.root) := by
  induction entries generalizing copied nodes with
  | nil =>
    rw [List.append_nil]
    exact ⟨trivial,fun _ => rfl,fun hnot => absurd ⟨hnodes,trivial⟩ hnot⟩
  | cons e entries ih =>
    obtain ⟨hcopy,hcopies⟩ := List.forall_mem_cons.1 hentry
    obtain ⟨hfirst,hrest⟩ := List.forall_mem_cons.1 hget
    have hbefore : ∀ d ∈ copied, d.1 < e.1 := fun d hd =>
      (List.pairwise_append.1 hsorted).2.2 d hd e List.mem_cons_self
    have hplace := hapart.append [e.1] ([] : HostPath)
    rw [List.append_nil] at hplace
    have hself : FileTree.get destination (put (some (.directory copied)) destination disk.root) =
        some (.directory copied) := get_put_self _ hparent
    have hlookup : lookupEntry e.1 copied = none :=
      lookupEntry_eq_none_iff.2 fun hmem => by
        obtain ⟨d,hd,hname⟩ := List.mem_map.1 hmem
        exact absurd hname (hbefore d hd).ne
    have hvacant : Vacant (disk.setRoot (put (some (.directory copied)) destination disk.root))
        (source++[e.1]) (destination++[e.1]) :=
      ⟨hasParent_append_singleton.2 ⟨_,hself⟩,by
        rw [FileTree.get_append]
        simp only [setRoot,hself,FileTree.get,hlookup],hapart.append _ _⟩
    have hsource : FileTree.get (source++[e.1])
        (put (some (.directory copied)) destination disk.root) = some e.2 := by
      rw [get_put_of_disjoint _ hplace.2 hplace.1,hfirst]
    have hput : put (some e.2) (destination++[e.1])
        (put (some (.directory copied)) destination disk.root) =
        put (some (.directory (copied++[e]))) destination disk.root := by
      rw [put_put_append _ _ _ hparent]
      simp only [put,setEntry,insertEntry_last hbefore]
    have hstep := hcopy _ nodes hsource hvacant hdepth
    simp only [setRoot] at hstep
    rw [hput] at hstep
    rw [List.map_cons,List.foldlM_cons,unobstructedEntries_cons,nodesOf,← add_assoc]
    refine hstep.bind fun hfree => ?_
    have hnext := ih hcopies hrest (copied++[e]) (by simpa using hsorted) (nodes+e.2.nodes)
      (by omega) hfree.1
    rw [List.append_assoc] at hnext
    exact hnext

def copyNode (nodeLimit : ℕ) (policy : PayloadLinkPolicy) (depth : ℕ) (source destination : HostPath)
    (nodes : ℕ) : Metadata → CacheIo ℕ
  | ⟨.symlink,_⟩ => do
    recreatePayloadLink source destination policy
    return nodes
  | ⟨.file,_⟩ => do
    copyFile source destination
    return nodes
  | ⟨.special,_⟩ => throw (.unexpectedEntry source)
  | ⟨.directory,_⟩ => do
    passOn .io (Files.createDir destination)
    let names ← passOn .io (Files.readDir source)
    names.foldlM (fun nodes name =>
      copyPayloadNode nodeLimit policy depth (source++[name]) (destination++[name]) nodes) nodes

theorem copyPayloadNode_succ (depth : ℕ) (source destination : HostPath) (nodes : ℕ) :
    copyPayloadNode nodeLimit policy (depth+1) source destination nodes = (do
      ensure (nodes+1 ≤ nodeLimit) .inventoryLimitExceeded
      let metadata ← passOn .io (Files.metadata source)
      copyNode nodeLimit policy depth source destination (nodes+1) metadata) := by
  rw [copyPayloadNode]
  rfl

theorem copyPayloadNode_copies_of_node {depth : ℕ}
    (hget : FileTree.get source disk.root = some tree) (hdepth : nodeLimit < depth+nodes)
    (hnode : ∀ deeper, nodeLimit < deeper+(nodes+1) → nodes+1 ≤ nodeLimit →
      Copies pid disk (copyNode nodeLimit policy deeper source destination (nodes+1) tree.metadata)
        (Unobstructed policy nodeLimit nodes tree) (nodes+tree.nodes) root) :
    Copies pid disk (copyPayloadNode nodeLimit policy depth source destination nodes)
      (Unobstructed policy nodeLimit nodes tree) (nodes+tree.nodes) root := by
  cases depth with
  | zero =>
    have hover := @not_unobstructed policy nodeLimit nodes tree (by omega)
    exact ⟨trivial,fun hfree => absurd hfree hover,fun _ => ⟨_,_,rfl⟩⟩
  | succ depth =>
    rw [copyPayloadNode_succ]
    by_cases hnodes : nodes+1 ≤ nodeLimit
    · rw [ensure_bind hnodes]
      have hparent := hasParent_of_get hget
      exact Copies.call (exec_metadata_of_get hget) ⟨followsNoLink_metadata hparent,trivial⟩
        (hnode depth (by omega) hnodes)
    · have hover := @not_unobstructed policy nodeLimit nodes tree (by omega)
      rw [ensure,if_neg hnodes]
      exact ⟨trivial,fun hfree => absurd hfree hover,fun _ => ⟨_,_,rfl⟩⟩

/-- The copy of a tree passes exactly when nothing obstructs it, and is the tree then. -/
theorem copyPayloadNode_copies (tree : FileTree OsString) (hsorted : tree.Sorted)
    (disk : Disk OsString) (depth nodes : ℕ) (source destination : HostPath)
    (hget : FileTree.get source disk.root = some tree) (hvacant : Vacant disk source destination)
    (hdepth : nodeLimit < depth+nodes) :
    Copies pid disk (copyPayloadNode nodeLimit policy depth source destination nodes)
      (Unobstructed policy nodeLimit nodes tree) (nodes+tree.nodes)
      (put (some tree) destination disk.root) := by
  induction tree using FileTree.induct generalizing disk depth nodes source destination with
  | file content =>
    refine copyPayloadNode_copies_of_node hget hdepth fun deeper _ hnodes => ?_
    have hfree : Unobstructed policy nodeLimit nodes (.file content) := ⟨hnodes,trivial⟩
    have hcopy := copyFile_copies pid (nodes+1) hget hvacant
    exact ⟨hcopy.along,fun _ => hcopy.passes trivial,fun hnot => absurd hfree hnot⟩
  | special =>
    refine copyPayloadNode_copies_of_node hget hdepth fun deeper _ hnodes => ?_
    exact ⟨trivial,fun hfree => hfree.2.elim,fun _ => ⟨_,_,rfl⟩⟩
  | symlink target =>
    refine copyPayloadNode_copies_of_node hget hdepth fun deeper _ hnodes => ?_
    exact recreatePayloadLink_copies hnodes hget hvacant
  | directory entries ih =>
    obtain ⟨hkeys,hentries⟩ := hsorted
    rw [sortedEntries_iff] at hentries
    refine copyPayloadNode_copies_of_node hget hdepth fun deeper hdeeper hnodes => ?_
    have hkept : FileTree.get source (put (some (.directory [])) destination disk.root) =
        some (.directory entries) := by
      rw [get_put_of_disjoint _ hvacant.apart.2 hvacant.apart.1,hget]
    have hread : FollowsNoLink (.readDir source)
        (disk.setRoot (put (some (.directory [])) destination disk.root)) :=
      followsNoLink_of_hasParent rfl (by simp [FileOp.opens]) (hasParent_of_get hkept)
        (by simp [setRoot,hkept])
    refine Copies.call (exec_create hvacant _)
      ⟨followsNoLink_vacant hvacant rfl (by simp [FileOp.opens]),trivial⟩ ?_
    refine Copies.call (exec_readDir_of_get hkept) ⟨hread,trivial⟩ ?_
    have hcopy := copyEntries_copies hvacant.parent hvacant.apart
      (fun e he disk nodes hget hvacant hover =>
        ih e he (hentries e he) disk deeper nodes _ _ hget hvacant hover)
      (fun e he => lookup_entry hkeys hget he) [] hkeys (nodes+1) hdeeper hnodes
    rw [unobstructed_directory,FileTree.nodes,← add_assoc,add_right_comm]
    exact hcopy

theorem measurePayloadTree_walks (hsorted : tree.Sorted) (nodes : ℕ)
    (hget : FileTree.get source disk.root = some tree) :
    Walks pid disk (measurePayloadTreeWithPolicy source nodes nodeLimit policy)
      (IsDirectory (some tree) ∧ Unobstructed policy nodeLimit nodes tree) tree.totals
      (nodes+tree.nodes) := by
  have hparent := hasParent_of_get hget
  refine Walks.call (exec_metadata_of_get hget) ⟨followsNoLink_metadata hparent,trivial⟩ ?_
  cases tree with
  | directory entries =>
    have hwalk : Walks pid disk (walkPayload nodeLimit policy (nodeLimit+1) source nodes) _ _ _ :=
      walkPayload_walks _ hsorted _ _ _ hget (by omega)
    exact ⟨hwalk.along,fun hfree => hwalk.passes hfree.2,
      fun hnot => hwalk.fails fun hfree => hnot ⟨⟨entries,rfl⟩,hfree⟩⟩
  | _ => exact ⟨trivial,fun hfree => by simp [IsDirectory] at hfree,fun _ => ⟨_,rfl⟩⟩

theorem copyPayloadTree_copies (hsorted : tree.Sorted) (nodes : ℕ)
    (hget : FileTree.get source disk.root = some tree) (hvacant : Vacant disk source destination) :
    Copies pid disk (copyPayloadTreeWithPolicy source destination nodes nodeLimit policy)
      (IsDirectory (some tree) ∧ Unobstructed policy nodeLimit nodes tree) (nodes+tree.nodes)
      (put (some tree) destination disk.root) := by
  have hparent := hasParent_of_get hget
  refine Copies.call (exec_metadata_of_get hget) ⟨followsNoLink_metadata hparent,trivial⟩ ?_
  cases tree with
  | directory entries =>
    obtain ⟨habsent,halong⟩ := requireAbsent_vacant pid hvacant
    refine Copies.after habsent halong ?_
    have hcopy : Copies pid disk
        (copyPayloadNode nodeLimit policy (nodeLimit+1) source destination nodes) _ _ _ :=
      copyPayloadNode_copies _ hsorted _ _ _ _ _ hget hvacant (by omega)
    exact ⟨hcopy.along,fun hfree => hcopy.passes hfree.2,
      fun hnot => hcopy.fails fun hfree => hnot ⟨⟨entries,rfl⟩,hfree⟩⟩
  | _ => exact ⟨trivial,fun hfree => by simp [IsDirectory] at hfree,fun _ => ⟨_,_,rfl⟩⟩

theorem uses_copyPayloadTreeWithPolicy (nodes : ℕ) :
    (copyPayloadTreeWithPolicy source destination nodes nodeLimit policy).run.Uses
      (FileOp.Keeps (destination <+: ·) fun _ => False) := by
  refine uses_run_bind (uses_passOn uses_metadata) fun outcome => ?_
  split
  · exact .done _
  · exact uses_run_bind uses_requireAbsent fun _ => uses_copyPayloadNode fun _ h => h
  · exact .done _

def copied (pid : ℕ) (disk : Disk OsString) (source destination : HostPath) (nodes nodeLimit : ℕ)
    (policy : PayloadLinkPolicy) : Except CacheError ℕ × Disk OsString :=
  (copyPayloadTreeWithPolicy source destination nodes nodeLimit policy).run.exec (perform pid) disk

def measured (pid : ℕ) (disk : Disk OsString) (root : HostPath) (nodes nodeLimit : ℕ)
    (policy : PayloadLinkPolicy) : Except CacheError (PayloadTreeStats × ℕ) :=
  ((measurePayloadTreeWithPolicy root nodes nodeLimit policy).run.exec (perform pid) disk).1

theorem directory_of_sizeOverflow (hget : FileTree.get source disk.root = some tree)
    (h : measured pid disk source nodes nodeLimit policy = .error .sizeOverflow) :
    IsDirectory (some tree) := by
  rw [measured,measurePayloadTreeWithPolicy,exec_passOn_bind (exec_metadata_of_get hget)] at h
  cases tree with
  | directory entries => exact ⟨entries,rfl⟩
  | file content => cases h
  | symlink target => cases h
  | special => cases h

/-- The copy of a payload is faithful to it and agrees with its measurement. -/
structure FaithfulCopy (pid : ℕ) (disk : Disk OsString) (source destination : HostPath)
    (nodes nodeLimit : ℕ) (policy : PayloadLinkPolicy) (tree : FileTree OsString) : Prop where
  /-- It succeeds where the measurement does or where only its totals overflow. -/
  succeeds : (∃ n, (copied pid disk source destination nodes nodeLimit policy).1 = .ok n) ↔
    (∃ stats n, measured pid disk source nodes nodeLimit policy = .ok (stats,n)) ∨
      measured pid disk source nodes nodeLimit policy = .error .sizeOverflow ∧
        Unobstructed policy nodeLimit nodes tree
  counts : ∀ n, (copied pid disk source destination nodes nodeLimit policy).1 = .ok n →
    ∀ stats m, measured pid disk source nodes nodeLimit policy = .ok (stats,m) → n = m
  /-- The one change to the disk is the tree at the destination. -/
  same : ∀ n, (copied pid disk source destination nodes nodeLimit policy).1 = .ok n →
    (copied pid disk source destination nodes nodeLimit policy).2 =
        disk.setRoot (put (some tree) destination disk.root) ∧
      FileTree.get destination
        (copied pid disk source destination nodes nodeLimit policy).2.root = some tree
  copyFollows : (copyPayloadTreeWithPolicy source destination nodes nodeLimit policy).run.Along
    (perform pid) FollowsNoLink disk
  measureFollows : (measurePayloadTreeWithPolicy source nodes nodeLimit policy).run.Along
    (perform pid) FollowsNoLink disk
  /-- Every write, of a copy that fails as well, is at the destination or below it. -/
  writes : (copyPayloadTreeWithPolicy source destination nodes nodeLimit policy).run.Uses
    (FileOp.Keeps (destination <+: ·) fun _ => False)
  outside : ∀ q, Beside q destination → FileTree.get q
    (copied pid disk source destination nodes nodeLimit policy).2.root = FileTree.get q disk.root
  measuresSame : ∀ n, (copied pid disk source destination nodes nodeLimit policy).1 = .ok n →
    measured pid (copied pid disk source destination nodes nodeLimit policy).2 destination nodes
      nodeLimit policy = measured pid disk source nodes nodeLimit policy

/-- Copying a payload to a free place outside of it is faithful, for every tree, counter, limit and
policy. -/
theorem payload_copy_faithful (pid : ℕ) (disk : Disk OsString) (source destination : HostPath)
    (nodes nodeLimit : ℕ) (policy : PayloadLinkPolicy) (tree : FileTree OsString)
    (hsorted : tree.Sorted) (hsource : FileTree.get source disk.root = some tree)
    (hparent : HasParent destination disk.root)
    (habsent : FileTree.get destination disk.root = none) (houtside : ¬ source <+: destination) :
    FaithfulCopy pid disk source destination nodes nodeLimit policy tree := by
  have hvacant : Vacant disk source destination := by
    refine ⟨hparent,habsent,houtside,?_⟩
    rintro ⟨rest,rfl⟩
    rw [FileTree.get_append,habsent,get_none] at hsource
    cases hsource
  have hcopy : Copies pid disk
      (copyPayloadTreeWithPolicy source destination nodes nodeLimit policy) _ _ _ :=
    copyPayloadTree_copies hsorted nodes hsource hvacant
  have hmeasure : Walks pid disk (measurePayloadTreeWithPolicy source nodes nodeLimit policy) _ _ _ :=
    measurePayloadTree_walks hsorted nodes hsource
  have hwrites := @uses_copyPayloadTreeWithPolicy policy nodeLimit source destination nodes
  have hframe : ∀ q, Beside q destination → FileTree.get q
      (copied pid disk source destination nodes nodeLimit policy).2.root =
        FileTree.get q disk.root := by
    intro q hq
    refine get_exec hwrites fun path hpath => ?_
    obtain ⟨rest,rfl⟩ := hpath
    have hapart := hq.append [] rest
    rw [List.append_nil] at hapart
    exact ⟨hapart.2,hapart.1⟩
  by_cases hfree : IsDirectory (some tree) ∧ Unobstructed policy nodeLimit nodes tree
  · have hcopied : copied pid disk source destination nodes nodeLimit policy =
        (.ok (nodes+tree.nodes),disk.setRoot (put (some tree) destination disk.root)) :=
      hcopy.passes hfree
    have hmeasured : measured pid disk source nodes nodeLimit policy =
        answer tree.totals (nodes+tree.nodes) := congrArg Prod.fst (hmeasure.passes hfree)
    have hplaced : FileTree.get destination (put (some tree) destination disk.root) = some tree :=
      get_put_self _ hparent
    refine ⟨⟨fun _ => ?_,fun _ => ⟨_,congrArg Prod.fst hcopied⟩⟩,?_,?_,hcopy.along,hmeasure.along,
      hwrites,hframe,?_⟩
    · rw [hmeasured]
      cases tree.totals with
      | none => exact .inr ⟨rfl,hfree.2⟩
      | some stats => exact .inl ⟨stats,_,rfl⟩
    · intro n hn stats m hm
      rw [hcopied] at hn
      rw [hmeasured] at hm
      rw [← Except.ok.inj hn]
      cases htotals : tree.totals with
      | none => simp [answer,htotals] at hm
      | some _ =>
        rw [htotals] at hm
        exact congrArg Prod.snd (Except.ok.inj hm)
    · intro _ _
      rw [hcopied]
      exact ⟨rfl,hplaced⟩
    · intro _ _
      have hagain : Walks pid (disk.setRoot (put (some tree) destination disk.root))
          (measurePayloadTreeWithPolicy destination nodes nodeLimit policy) _ _ _ :=
        measurePayloadTree_walks hsorted nodes hplaced
      rw [hmeasured,hcopied]
      exact congrArg Prod.fst (hagain.passes hfree)
  · obtain ⟨e,disk',hfailed⟩ := hcopy.fails hfree
    have hcopied : (copied pid disk source destination nodes nodeLimit policy).1 = .error e :=
      congrArg Prod.fst hfailed
    have hnone : ∀ n, (copied pid disk source destination nodes nodeLimit policy).1 ≠ .ok n := by
      intro n hn
      rw [hcopied] at hn
      cases hn
    refine ⟨⟨fun ⟨n,hn⟩ => absurd hn (hnone n),?_⟩,fun n hn => absurd hn (hnone n),
      fun n hn => absurd hn (hnone n),hcopy.along,hmeasure.along,hwrites,hframe,
      fun n hn => absurd hn (hnone n)⟩
    rintro (⟨stats,n,hmeasured⟩ | ⟨hmeasured,hunobstructed⟩)
    · obtain ⟨e',hfails⟩ := hmeasure.fails hfree
      rw [measured,hfails] at hmeasured
      cases hmeasured
    · have hdirectory := directory_of_sizeOverflow hsource hmeasured
      exact absurd ⟨hdirectory,hunobstructed⟩ hfree

def samplePayload : FileTree OsString :=
  .directory [(.ofStr "a",.file [1,2]),(.ofStr "l",.symlink (Text.bytes "/etc/passwd"))]

def payloadDisk : Disk OsString := ⟨some (.directory [(.ofStr "source",samplePayload)]),[],fun _ _ => 0⟩

theorem payload_copy_faithful_sample :
    FaithfulCopy 1 payloadDisk [.ofStr "source"] [.ofStr "copy"] 0 3 .preserve samplePayload ∧
      (copied 1 payloadDisk [.ofStr "source"] [.ofStr "copy"] 0 3 .preserve).1 = .ok 3 := by
  have hsorted : samplePayload.Sorted :=
    ⟨List.pairwise_pair.2 (by decide),trivial,trivial,trivial⟩
  refine ⟨payload_copy_faithful _ _ _ _ _ _ _ _ hsorted ?_ (.inl rfl) ?_ (by decide),?_⟩
  · rfl
  · rfl
  · rfl

end Copy

end CommitCiPreflight
