import CommitCiPreflight.OrderedMap
import Mathlib.Data.List.Infix

/-! Trees of files. A tree is the node at the root of a file system, absent when there is
none; paths are lists of names. A path that leads through anything but directories leads
nowhere, so no symbolic link is followed. -/
namespace CommitCiPreflight

inductive FileTree (ν : Type)
  | file (content : List UInt8)
  | directory (entries : List (ν × FileTree ν))
  | symlink (target : List UInt8)
  | special

namespace FileTree

variable {ν : Type}

mutual
def nodes : FileTree ν → ℕ
  | .directory entries => nodesOf entries+1
  | _ => 1
def nodesOf : List (ν × FileTree ν) → ℕ
  | [] => 0
  | (_,t)::entries => nodes t+nodesOf entries
end

mutual
/-- The tree is made of directories and regular files. -/
def Plain : FileTree ν → Prop
  | .file _ => True
  | .directory entries => PlainEntries entries
  | _ => False
def PlainEntries : List (ν × FileTree ν) → Prop
  | [] => True
  | (_,t)::entries => Plain t ∧ PlainEntries entries
end

mutual
/-- The regular files of a tree, by their paths from where the tree is. -/
def files (path : List ν) : FileTree ν → List (List ν × List UInt8)
  | .file content => [(path,content)]
  | .directory entries => filesOf path entries
  | _ => []
def filesOf (path : List ν) : List (ν × FileTree ν) → List (List ν × List UInt8)
  | [] => []
  | (n,t)::entries => files (path++[n]) t++filesOf path entries
end

theorem plainEntries_iff_forall {entries : List (ν × FileTree ν)} :
    PlainEntries entries ↔ ∀ e ∈ entries, e.2.Plain := by
  induction entries with
  | nil => simp [PlainEntries]
  | cons e entries ih => rw [PlainEntries,ih,List.forall_mem_cons]

theorem filesOf_eq_flatMap (path : List ν) (entries : List (ν × FileTree ν)) :
    filesOf path entries = entries.flatMap fun e => files (path++[e.1]) e.2 := by
  induction entries with
  | nil => rfl
  | cons e entries ih => rw [filesOf,ih,List.flatMap_cons]

variable [LinearOrder ν] {p : List ν} {t : Option (FileTree ν)} {q : List ν}

/-- The node at a path. -/
def get : List ν → Option (FileTree ν) → Option (FileTree ν)
  | [], t => t
  | n::p, some (.directory entries) => get p (lookupEntry n entries)
  | _::_, _ => none

def setEntry (n : ν) (t : Option (FileTree ν)) (entries : List (ν × FileTree ν)) :
    List (ν × FileTree ν) :=
  match t with
  | some t => insertEntry n t entries
  | none => entries.filter fun e => e.1 ≠ n

/-- The tree with the node at a path replaced, where its parent is a directory. -/
def put (x : Option (FileTree ν)) : List ν → Option (FileTree ν) → Option (FileTree ν)
  | [], _ => x
  | n::p, some (.directory entries) =>
    some (.directory (setEntry n (put x p (lookupEntry n entries)) entries))
  | _::_, t => t

def HasParent : List ν → Option (FileTree ν) → Prop
  | [], _ => True
  | n::p, some (.directory entries) => p = [] ∨ HasParent p (lookupEntry n entries)
  | _::_, _ => False

def IsDirectory (t : Option (FileTree ν)) : Prop := ∃ entries, t = some (.directory entries)

theorem lookupEntry_setEntry (m n : ν) (t : Option (FileTree ν)) (entries : List (ν × FileTree ν)) :
    lookupEntry m (setEntry n t entries) = if m = n then t else lookupEntry m entries := by
  cases t with
  | some t => exact lookupEntry_insertEntry n m t entries
  | none =>
    induction entries with
    | nil => simp [setEntry,lookupEntry]
    | cons e entries ih =>
      simp only [setEntry] at ih ⊢
      by_cases he : e.1 = n
      · rw [List.filter_cons_of_neg (by simpa using he),ih,← he]
        by_cases hm : m = e.1 <;> simp [lookupEntry,hm]
      · rw [List.filter_cons_of_pos (by simpa using he)]
        by_cases hm : m = e.1
        · simp [lookupEntry,hm,he]
        · simp only [lookupEntry,hm,if_false,ih]

@[simp] theorem get_nil (t : Option (FileTree ν)) : get [] t = t := rfl

@[simp] theorem get_none (p : List ν) : get p none = none := by
  cases p <;> rfl

theorem get_append (p q : List ν) (t : Option (FileTree ν)) : get (p++q) t = get q (get p t) := by
  induction p generalizing t with
  | nil => rfl
  | cons n p ih =>
    rcases t with _ | ⟨c⟩ | ⟨entries⟩ | ⟨target⟩ | _
    case some.directory => exact ih _
    all_goals
      simp only [List.cons_append,get]
      exact (get_none q).symm

theorem hasParent_append_singleton {n : ν} : HasParent (p++[n]) t ↔ IsDirectory (get p t) := by
  induction p generalizing t with
  | nil =>
    rcases t with _ | ⟨c⟩ | ⟨entries⟩ | ⟨target⟩ | _ <;> simp [HasParent,IsDirectory]
  | cons m p ih =>
    rcases t with _ | ⟨c⟩ | ⟨entries⟩ | ⟨target⟩ | _
    case some.directory => simpa [HasParent,get] using ih
    all_goals simp [HasParent,IsDirectory,get]

/-- Below a replaced node stands the replacement. -/
theorem get_put_append (q : List ν) (x : Option (FileTree ν)) (h : HasParent p t) :
    get (p++q) (put x p t) = get q x := by
  induction p generalizing t with
  | nil => rfl
  | cons n p ih =>
    rcases t with _ | ⟨c⟩ | ⟨entries⟩ | ⟨target⟩ | _
    case some.directory =>
      simp only [List.cons_append,put,get,lookupEntry_setEntry,if_true]
      rcases h with rfl | h
      · rfl
      · exact ih h
    all_goals exact h.elim

theorem get_put_self (x : Option (FileTree ν)) (h : HasParent p t) : get p (put x p t) = x := by
  simpa using get_put_append [] x h

/-- A replacement leaves every path alone that is neither above nor below it. -/
theorem get_put_of_disjoint (x : Option (FileTree ν)) (hpq : ¬ p <+: q) (hqp : ¬ q <+: p) :
    get q (put x p t) = get q t := by
  induction p generalizing q t with
  | nil => exact absurd List.nil_prefix hpq
  | cons n p ih =>
    cases q with
    | nil => exact absurd List.nil_prefix hqp
    | cons m q =>
      rcases t with _ | ⟨c⟩ | ⟨entries⟩ | ⟨target⟩ | _
      case some.directory =>
        simp only [put,get,lookupEntry_setEntry]
        split
        · rename_i hm
          subst hm
          exact ih (by simpa using hpq) (by simpa using hqp)
        · rfl
      all_goals rfl

/-- Above a replaced node the replacement is one in the subtree. -/
theorem get_put_above (p : List ν) (n : ν) (q : List ν) (x t : Option (FileTree ν)) :
    get p (put x (p++n::q) t) = put x (n::q) (get p t) := by
  induction p generalizing t with
  | nil => rfl
  | cons m p ih =>
    rcases t with _ | ⟨c⟩ | ⟨entries⟩ | ⟨target⟩ | _
    case some.directory =>
      simp only [List.cons_append,put,get,lookupEntry_setEntry,if_true]
      exact ih _
    all_goals rfl

theorem isDirectory_put (x : Option (FileTree ν)) (hp : p ≠ []) (h : IsDirectory t) :
    IsDirectory (put x p t) := by
  obtain ⟨entries,rfl⟩ := h
  cases p with
  | nil => exact absurd rfl hp
  | cons n p => exact ⟨_,rfl⟩

theorem isDirectory_get_put (x : Option (FileTree ν)) (hpq : ¬ p <+: q)
    (h : IsDirectory (get q t)) : IsDirectory (get q (put x p t)) := by
  by_cases hqp : q <+: p
  · obtain ⟨r,rfl⟩ := hqp
    cases r with
    | nil => exact absurd (by simp) hpq
    | cons n r =>
      rw [get_put_above]
      exact isDirectory_put x (by simp) h
  · rwa [get_put_of_disjoint x hpq hqp]

theorem isDirectory_of_get_append {node : FileTree ν} (h : get (p++q) t = some node) (hq : q ≠ []) :
    IsDirectory (get p t) := by
  rw [get_append] at h
  cases q with
  | nil => exact absurd rfl hq
  | cons n q =>
    rcases ht : get p t with _ | ⟨c⟩ | ⟨entries⟩ | ⟨target⟩ | _
    case some.directory => exact ⟨entries,rfl⟩
    all_goals simp [ht,get] at h

theorem hasParent_of_get {node : FileTree ν} (h : get p t = some node) : HasParent p t := by
  rcases List.eq_nil_or_concat p with rfl | ⟨p,n,rfl⟩
  · trivial
  · rw [List.concat_eq_append] at h ⊢
    exact hasParent_append_singleton.2 (isDirectory_of_get_append h (by simp))

theorem setEntry_setEntry (n : ν) (s t : FileTree ν) (entries : List (ν × FileTree ν)) :
    setEntry n (some s) (setEntry n (some t) entries) = setEntry n (some s) entries := by
  induction entries with
  | nil => simp [setEntry,insertEntry]
  | cons e entries ih =>
    simp only [setEntry,insertEntry] at ih ⊢
    by_cases hlt : n < e.1
    · simp [insertEntry,hlt]
    · by_cases heq : n = e.1
      · simp [insertEntry,heq]
      · simp [insertEntry,hlt,heq,ih]

theorem put_put (x y : FileTree ν) (p : List ν) (t : Option (FileTree ν)) :
    put (some x) p (put (some y) p t) = put (some x) p t := by
  induction p generalizing t with
  | nil => rfl
  | cons n p ih =>
    rcases t with _ | ⟨c⟩ | ⟨entries⟩ | ⟨target⟩ | _
    case some.directory =>
      simp only [put,lookupEntry_setEntry,if_true,ih]
      rcases hy : put (some y) p (lookupEntry n entries) with _ | node
      · have hx := ih (lookupEntry n entries)
        rw [hy] at hx
        cases p with
        | nil => simp [put] at hy
        | cons m p =>
          rw [← hx]
          simp [put,setEntry,List.filter_filter]
      · rcases hx : put (some x) p (lookupEntry n entries) with _ | node'
        · have hxy := ih (lookupEntry n entries)
          rw [hx,hy] at hxy
          cases p with
          | nil => simp [put] at hx
          | cons m p => rcases node with ⟨c⟩ | ⟨es⟩ | ⟨target⟩ | _ <;> simp [put] at hxy
        · rw [setEntry_setEntry]
    all_goals rfl

theorem get_put_empty (habsent : get p t = none) (hparent : HasParent p t) (hq : ¬ q <+: p) :
    get q (put (some (.directory [])) p t) = get q t := by
  by_cases hp : p <+: q
  · obtain ⟨r,rfl⟩ := hp
    cases r with
    | nil => exact absurd (by simp) hq
    | cons n r =>
      rw [get_put_append _ _ hparent,get_append,habsent,get_none]
      exact get_none r
  · exact get_put_of_disjoint _ hp hq

end FileTree
end CommitCiPreflight
