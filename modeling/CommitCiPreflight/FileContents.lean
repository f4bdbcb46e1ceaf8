import CommitCiPreflight.FileTree
import Mathlib.Data.List.Nodup

/-! The regular files of a tree, by the paths that lead to them. Where no directory gives two
entries one name, they do not depend on the order in which directories are listed. -/
namespace CommitCiPreflight
namespace FileTree

variable {ν : Type}

@[elab_as_elim] theorem induct {P : FileTree ν → Prop} (file : ∀ content, P (.file content))
    (directory : ∀ entries, (∀ e ∈ entries, P e.2) → P (.directory entries))
    (symlink : ∀ target, P (.symlink target)) (special : P .special) (t : FileTree ν) : P t :=
  @FileTree.rec ν P (fun entries => ∀ e ∈ entries, P e.2) (fun e => P e.2) file directory symlink
    special (by simp) (fun _ _ hfirst hrest => List.forall_mem_cons.2 ⟨hfirst,hrest⟩)
    (fun _ _ h => h) t

mutual
/-- Every directory gives its entries different names, all of them admissible. -/
def Named (admissible : ν → Prop) : FileTree ν → Prop
  | .directory entries => (entries.map Prod.fst).Nodup ∧ NamedEntries admissible entries
  | _ => True
def NamedEntries (admissible : ν → Prop) : List (ν × FileTree ν) → Prop
  | [] => True
  | (n,t)::entries => admissible n ∧ Named admissible t ∧ NamedEntries admissible entries
end

variable {admissible : ν → Prop} {entries : List (ν × FileTree ν)} {node t : FileTree ν}

theorem namedEntries_iff :
    NamedEntries admissible entries ↔ ∀ e ∈ entries, admissible e.1 ∧ Named admissible e.2 := by
  induction entries with
  | nil => simp [NamedEntries]
  | cons e entries ih => rw [NamedEntries,ih,List.forall_mem_cons,and_assoc]

theorem named_directory :
    Named admissible (.directory entries) ↔ (entries.map Prod.fst).Nodup ∧
      ∀ e ∈ entries, admissible e.1 ∧ Named admissible e.2 := by
  rw [Named,namedEntries_iff]

theorem admissible_of_mem_files (hnamed : t.Named admissible) {path : List ν}
    {file : List ν × List UInt8} (h : file ∈ files path t) :
    ∃ q, file.1 = path++q ∧ ∀ n ∈ q, admissible n := by
  induction t using induct generalizing path with
  | directory entries ih =>
    obtain ⟨-,hentries⟩ := named_directory.1 hnamed
    rw [files,filesOf_eq_flatMap,List.mem_flatMap] at h
    obtain ⟨e,he,hfile⟩ := h
    obtain ⟨q,hq,hadmissible⟩ := ih e he (hentries e he).2 hfile
    refine ⟨e.1::q,by simp [hq],List.forall_mem_cons.2 ⟨(hentries e he).1,hadmissible⟩⟩
  | file c =>
    rw [files,List.mem_singleton] at h
    exact ⟨[],by simp [h],by simp⟩
  | symlink target => simp [files] at h
  | special => simp [files] at h

variable [LinearOrder ν] {p : List ν}

theorem get_entry (hnamed : (entries.map Prod.fst).Nodup) {e : ν × FileTree ν} (he : e ∈ entries)
    (q : List ν) : get (e.1::q) (some (.directory entries)) = get q (some e.2) := by
  rw [get,(lookupEntry_eq_some_iff hnamed).2 he]

theorem exists_entry (hnamed : (entries.map Prod.fst).Nodup) {n : ν} {q : List ν}
    (h : get (n::q) (some (.directory entries)) = some node) :
    ∃ e ∈ entries, e.1 = n ∧ get q (some e.2) = some node := by
  rw [get] at h
  cases ht : lookupEntry n entries with
  | none =>
    rw [ht,get_none] at h
    cases h
  | some t => exact ⟨(n,t),(lookupEntry_eq_some_iff hnamed).1 ht,rfl,ht ▸ h⟩

theorem Named.get {t : Option (FileTree ν)} (h : ∀ u, t = some u → u.Named admissible)
    (hnode : FileTree.get p t = some node) : node.Named admissible := by
  induction p generalizing t with
  | nil => exact h node hnode
  | cons n p ih =>
    rcases t with _ | c | entries | target | _
    case some.directory =>
      obtain ⟨hnodup,hentries⟩ := named_directory.1 (h _ rfl)
      obtain ⟨e,he,-,hq⟩ := exists_entry hnodup hnode
      refine ih (fun u hu => ?_) hq
      obtain rfl := Option.some.inj hu
      exact (hentries e he).2
    all_goals cases hnode

/-- The files of a tree are what its paths lead to. -/
theorem mem_files (hnamed : t.Named admissible) {path : List ν} {content : List UInt8} :
    (p,content) ∈ files path t ↔ ∃ q, p = path++q ∧ get q (some t) = some (.file content) := by
  induction t using induct generalizing path p with
  | file c =>
    simp only [files,List.mem_singleton,Prod.mk.injEq]
    constructor
    · rintro ⟨rfl,rfl⟩
      exact ⟨[],by simp,rfl⟩
    · rintro ⟨_ | ⟨n,q⟩,rfl,h⟩
      · exact ⟨by simp,by simpa using h.symm⟩
      · cases h
  | directory entries ih =>
    obtain ⟨hnodup,hentries⟩ := named_directory.1 hnamed
    rw [files,filesOf_eq_flatMap,List.mem_flatMap]
    constructor
    · rintro ⟨e,he,hfile⟩
      obtain ⟨q,rfl,hq⟩ := (ih e he (hentries e he).2).1 hfile
      exact ⟨e.1::q,by simp,(get_entry hnodup he q).trans hq⟩
    · rintro ⟨_ | ⟨n,q⟩,rfl,h⟩
      · cases h
      · obtain ⟨e,he,rfl,hq⟩ := exists_entry hnodup h
        exact ⟨e,he,(ih e he (hentries e he).2).2 ⟨q,by simp,hq⟩⟩
  | symlink target =>
    refine ⟨by simp [files],?_⟩
    rintro ⟨_ | ⟨n,q⟩,-,h⟩ <;> cases h
  | special =>
    refine ⟨by simp [files],?_⟩
    rintro ⟨_ | ⟨n,q⟩,-,h⟩ <;> cases h

theorem nodup_files (hnamed : t.Named admissible) (path : List ν) :
    ((files path t).map Prod.fst).Nodup := by
  induction t using induct generalizing path with
  | directory entries ih =>
    obtain ⟨hnodup,hentries⟩ := named_directory.1 hnamed
    rw [files,filesOf_eq_flatMap,List.map_flatMap,List.nodup_flatMap]
    refine ⟨fun e he => ih e he (hentries e he).2 _,?_⟩
    refine (List.pairwise_map.1 hnodup).imp_of_mem fun {e e'} he he' hne => ?_
    intro p hp hp'
    obtain ⟨⟨p,c⟩,hfile,rfl⟩ := List.mem_map.1 hp
    obtain ⟨⟨p',c'⟩,hfile',hpp⟩ := List.mem_map.1 hp'
    obtain ⟨q,hq,-⟩ := (mem_files (hentries e he).2).1 hfile
    obtain ⟨q',hq',-⟩ := (mem_files (hentries e' he').2).1 hfile'
    dsimp only at hpp
    rw [hq,hq',List.append_assoc,List.append_assoc,List.append_cancel_left_eq] at hpp
    exact hne (List.cons.inj hpp).1.symm
  | file c => simp [files]
  | symlink target => simp [files]
  | special => simp [files]

def IsPlain : FileTree ν → Prop
  | .file _ | .directory _ => True
  | _ => False

theorem plain_iff_get (hnamed : t.Named admissible) :
    t.Plain ↔ ∀ q node, get q (some t) = some node → node.IsPlain := by
  induction t using induct with
  | directory entries ih =>
    obtain ⟨hnodup,hentries⟩ := named_directory.1 hnamed
    rw [Plain,plainEntries_iff_forall]
    constructor
    · rintro h (_ | ⟨n,q⟩) node hnode
      · obtain rfl := Option.some.inj hnode
        exact trivial
      · obtain ⟨e,he,-,hq⟩ := exists_entry hnodup hnode
        exact (ih e he (hentries e he).2).1 (h e he) q node hq
    · intro h e he
      refine (ih e he (hentries e he).2).2 fun q node hnode => h (e.1::q) node ?_
      rw [get_entry hnodup he,hnode]
  | file c =>
    refine ⟨fun _ q node hnode => ?_,fun _ => trivial⟩
    cases q with
    | nil =>
      obtain rfl := Option.some.inj hnode
      exact trivial
    | cons n q => cases hnode
  | symlink target => exact ⟨fun h => h.elim,fun h => h [] _ rfl⟩
  | special => exact ⟨fun h => h.elim,fun h => h [] _ rfl⟩

def shallow : FileTree ν → FileTree ν
  | .directory _ => .directory []
  | t => t

/-- The two trees differ at most in the order in which directories are listed. -/
def SameTree (t u : Option (FileTree ν)) : Prop :=
  ∀ p, (get p t).map shallow = (get p u).map shallow

theorem SameTree.refl (t : Option (FileTree ν)) : SameTree t t := fun _ => rfl

theorem sameTree_directory {es fs : List (ν × FileTree ν)}
    (h : ∀ n, SameTree (lookupEntry n es) (lookupEntry n fs)) :
    SameTree (some (.directory es)) (some (.directory fs)) := by
  intro p
  cases p with
  | nil => rfl
  | cons n p => exact h n p

theorem sameTree_of_perm {es fs : List (ν × FileTree ν)} (h : es.Perm fs)
    (hnamed : (es.map Prod.fst).Nodup) : SameTree (some (.directory es)) (some (.directory fs)) := by
  refine sameTree_directory fun n => ?_
  have hlookup : lookupEntry n es = lookupEntry n fs := by
    apply Option.ext
    intro t
    rw [lookupEntry_eq_some_iff hnamed,lookupEntry_eq_some_iff ((h.map _).nodup_iff.1 hnamed),
      h.mem_iff]
  rw [hlookup]
  exact .refl _

theorem SameTree.symm {t u : Option (FileTree ν)} (h : SameTree t u) : SameTree u t :=
  fun p => (h p).symm

theorem SameTree.below {t u : Option (FileTree ν)} (h : SameTree t u) (p : List ν) :
    SameTree (get p t) (get p u) := by
  intro q
  rw [← get_append,← get_append]
  exact h (p++q)

theorem SameTree.file {t u : Option (FileTree ν)} (h : SameTree t u) {content : List UInt8}
    (hp : get p t = some (.file content)) : get p u = some (.file content) := by
  have hsame := h p
  rw [hp] at hsame
  rcases hu : get p u with _ | c | entries | target | _ <;> rw [hu] at hsame <;>
    simp_all [shallow]

theorem SameTree.isPlain {t u : Option (FileTree ν)} (h : SameTree t u) (hp : get p u = some node) :
    ∃ node', get p t = some node' ∧ (node'.IsPlain → node.IsPlain) := by
  have hsame := h p
  rw [hp] at hsame
  rcases ht : get p t with _ | node'
  · simp [ht] at hsame
  refine ⟨node',rfl,?_⟩
  rw [ht,Option.map_some,Option.map_some,Option.some.injEq] at hsame
  cases node' <;> cases node <;> simp_all [shallow,IsPlain]

theorem SameTree.files_perm {u : FileTree ν} (h : SameTree (some t) (some u))
    (ht : t.Named admissible) (hu : u.Named admissible) : (files [] t).Perm (files [] u) := by
  refine (List.perm_ext_iff_of_nodup ((nodup_files ht []).of_map _)
    ((nodup_files hu []).of_map _)).2 ?_
  rintro ⟨p,content⟩
  rw [mem_files ht,mem_files hu]
  exact ⟨fun ⟨q,hpath,hq⟩ => ⟨q,hpath,h.file hq⟩,fun ⟨q,hpath,hq⟩ => ⟨q,hpath,h.symm.file hq⟩⟩

theorem SameTree.plain {u : FileTree ν} (h : SameTree (some t) (some u)) (ht : t.Named admissible)
    (hu : u.Named admissible) (hplain : t.Plain) : u.Plain := by
  refine (plain_iff_get hu).2 fun q node hnode => ?_
  obtain ⟨node',hnode',hkind⟩ := h.isPlain hnode
  exact hkind ((plain_iff_get ht).1 hplain q node' hnode')

end FileTree
end CommitCiPreflight
