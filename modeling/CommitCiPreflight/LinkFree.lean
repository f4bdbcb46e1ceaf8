import CommitCiPreflight.FileSystem

/-! Programs that follow no symbolic link. The trees of the disk lead through directories only, so
what a system would do at a link has to be ruled out for every operation of a run, on the disk it is
performed on. -/
namespace CommitCiPreflight

namespace Program

variable {Op : Type} {Result : Op → Type} {α β ε σ : Type}

/-- Every operation of a run meets a condition on the state it is performed on. -/
def Along (step : (op : Op) → σ → Result op × σ) (P : Op → σ → Prop) :
    Program Op Result α → σ → Prop
  | .done _, _ => True
  | .call op next, s => P op s ∧ (next (step op s).1).Along step P (step op s).2

variable {step : (op : Op) → σ → Result op × σ} {P : Op → σ → Prop} {g : α → Fallible Op Result ε β}

theorem along_bind {p : Program Op Result α} {f : α → Program Op Result β} {s : σ} :
    (p >>= f).Along step P s ↔
      p.Along step P s ∧ (f (p.exec step s).1).Along step P (p.exec step s).2 := by
  induction p generalizing s with
  | done a => exact (iff_of_eq (true_and _)).symm
  | call op next ih =>
    change P op s ∧ (next _ >>= f).Along step P _ ↔ (P op s ∧ _) ∧ _
    rw [ih,and_assoc]
    rfl

theorem along_run_bind_ok {x : Fallible Op Result ε α} {s s' : σ} {a : α}
    (h : x.run.exec step s = (.ok a,s')) :
    (x >>= g).run.Along step P s ↔ x.run.Along step P s ∧ (g a).run.Along step P s' := by
  rw [ExceptT.run_bind,along_bind,h]

theorem along_run_bind_error {x : Fallible Op Result ε α} {s s' : σ} {e : ε}
    (h : x.run.exec step s = (.error e,s')) :
    (x >>= g).run.Along step P s ↔ x.run.Along step P s := by
  rw [ExceptT.run_bind,along_bind,h]
  exact iff_of_eq (and_true _)

theorem along_lift_bind {p : Program Op Result α} {s : σ} :
    ((liftM p : Fallible Op Result ε α) >>= g).run.Along step P s ↔
      p.Along step P s ∧ (g (p.exec step s).1).run.Along step P (p.exec step s).2 := by
  change ((p >>= fun a => .done (Except.ok a)) >>= ExceptT.bindCont g).Along step P s ↔ _
  rw [along_bind,along_bind,exec_bind]
  exact and_congr_left' (iff_of_eq (and_true _))

end Program

def FileOp.paths {ν : Type} : FileOp ν → List (List ν)
  | .metadata path | .readFile path | .readLink path | .readDir path | .readTree path
  | .createDir path | .createNew path | .openCreate path | .truncate path | .append path _
  | .createSymlink path _ | .sync path | .removeFile path | .removeDir path | .tryLock path
  | .unlock path => [path]
  | .rename source target => [source,target]
  | .fetchAdd _ => []

/-- The paths whose node is opened: a link there would be followed. -/
def FileOp.opens {ν : Type} : FileOp ν → List (List ν)
  | .readFile path | .readDir path | .openCreate path | .truncate path | .append path _
  | .sync path | .tryLock path => [path]
  | _ => []

namespace FileTree

theorem nodes_pos {ν : Type} (t : FileTree ν) : 0 < t.nodes := by
  cases t <;> simp [nodes]

variable {ν : Type} [LinearOrder ν]

mutual
/-- Every directory is listed in the order of its names, without repetition. -/
def Sorted : FileTree ν → Prop
  | .directory entries => SortedKeys entries ∧ SortedEntries entries
  | _ => True
def SortedEntries : List (ν × FileTree ν) → Prop
  | [] => True
  | (_,t)::entries => Sorted t ∧ SortedEntries entries
end

theorem sortedEntries_iff {entries : List (ν × FileTree ν)} :
    SortedEntries entries ↔ ∀ e ∈ entries, e.2.Sorted := by
  induction entries with
  | nil => simp [SortedEntries]
  | cons e entries ih => rw [SortedEntries,ih,List.forall_mem_cons]

theorem put_put_append {p : List ν} (n : ν) {t : Option (FileTree ν)} (x y : FileTree ν)
    (h : HasParent p t) :
    put (some x) (p++[n]) (put (some y) p t) = put (put (some x) [n] (some y)) p t := by
  induction p generalizing t with
  | nil => rfl
  | cons m p ih =>
    rcases t with _ | ⟨c⟩ | ⟨entries⟩ | ⟨target⟩ | _
    case some.directory =>
      have hparent : HasParent p (lookupEntry m entries) := by
        rcases h with rfl | h
        · trivial
        · exact h
      have hsome : ∀ z, ∃ node, put (some z) p (lookupEntry m entries) = some node := by
        intro z
        cases p with
        | nil => exact ⟨z,rfl⟩
        | cons k p =>
          rcases hm : lookupEntry m entries with _ | ⟨c⟩ | ⟨es⟩ | ⟨target⟩ | _
          case some.directory => exact ⟨_,rfl⟩
          all_goals simp [hm,HasParent] at hparent
      simp only [List.cons_append,put,lookupEntry_setEntry,if_true,ih hparent]
      obtain ⟨z,hz⟩ : ∃ z, put (some x) [n] (some y) = some z := by
        cases y <;> exact ⟨_,rfl⟩
      obtain ⟨node,hnode⟩ := hsome y
      obtain ⟨node',hnode'⟩ := hsome z
      rw [hz,hnode,hnode',setEntry_setEntry]
    all_goals exact h.elim

end FileTree

theorem insertEntry_last {κ α : Type} [LinearOrder κ] {k : κ} {v : α} {es : List (κ × α)}
    (h : ∀ e ∈ es, e.1 < k) : insertEntry k v es = es++[(k,v)] := by
  induction es with
  | nil => rfl
  | cons e es ih =>
    obtain ⟨he,hes⟩ := List.forall_mem_cons.1 h
    rw [insertEntry,if_neg he.not_gt,if_neg he.ne',ih hes,List.cons_append]

def Beside {ν : Type} (p q : List ν) : Prop := ¬ p <+: q ∧ ¬ q <+: p

theorem Beside.append {ν : Type} {p q : List ν} (h : Beside p q) (r s : List ν) :
    Beside (p++r) (q++s) := by
  have hcomparable : ∀ u : List ν, p <+: u → q <+: u → False := by
    intro u hp hq
    rcases List.prefix_or_prefix_of_prefix hp hq with hpq | hqp
    · exact h.1 hpq
    · exact h.2 hqp
  refine ⟨fun hleads => ?_,fun hleads => ?_⟩
  · exact hcomparable _ ((List.prefix_append p r).trans hleads) (List.prefix_append q s)
  · exact hcomparable _ (List.prefix_append p r) ((List.prefix_append q s).trans hleads)

namespace Disk

variable {ν : Type} [LinearOrder ν]

open FileTree

/-- The operation goes through no link and opens none. -/
def FollowsNoLink (op : FileOp ν) (disk : Disk ν) : Prop :=
  (∀ path ∈ op.paths, ∀ above, above <+: path → above ≠ path →
      ∀ target, get above disk.root ≠ some (.symlink target)) ∧
    ∀ path ∈ op.opens, ∀ target, get path disk.root ≠ some (.symlink target)

theorem not_symlink_above {path above : List ν} {root : Option (FileTree ν)}
    (h : HasParent path root) (hleads : above <+: path) (hne : above ≠ path)
    (target : List UInt8) : get above root ≠ some (.symlink target) := by
  obtain ⟨rest,rfl⟩ := hleads
  rcases List.eq_nil_or_concat rest with rfl | ⟨rest,n,rfl⟩
  · simp at hne
  · rw [List.concat_eq_append,← List.append_assoc,hasParent_append_singleton] at h
    obtain ⟨entries,hentries⟩ := h
    intro hlink
    rw [get_append,hlink] at hentries
    cases rest <;> simp [FileTree.get] at hentries

theorem followsNoLink_of_hasParent {op : FileOp ν} {disk : Disk ν} {path : List ν}
    (hpaths : op.paths = [path]) (hopens : ∀ p ∈ op.opens, p = path)
    (hparent : HasParent path disk.root)
    (hnode : op.opens ≠ [] → ∀ target, get path disk.root ≠ some (.symlink target)) :
    FollowsNoLink op disk := by
  refine ⟨?_,?_⟩
  · intro p hp above hleads hne
    rw [hpaths,List.mem_singleton] at hp
    subst hp
    exact not_symlink_above hparent hleads hne
  · intro p hp
    rw [hopens p hp]
    exact hnode (List.ne_nil_of_mem hp)

end Disk

end CommitCiPreflight
