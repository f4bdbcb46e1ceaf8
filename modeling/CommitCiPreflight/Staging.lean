import CommitCiPreflight.Mounts

/-! Directories and empty files that are added to a tree where they are missing. A directory is
created together with what is missing above it, as `fs::create_dir_all` does. -/
namespace CommitCiPreflight

variable {ν : Type}

namespace Files

/-- `Path::is_dir`. -/
def isDir (path : HostPath) : FileProgram OsString Bool := do
  let some place ← resolve path | return false
  match ← metadata place with
  | .ok ⟨.directory,_⟩ => return true
  | _ => return false

/-- A failed creation is forgiven where the directory is there. -/
def orDirectory (path : HostPath) :
    Except IoErrorKind Unit → FileProgram OsString (Except IoErrorKind Unit)
  | .ok () => return .ok ()
  | .error e => do
    if ← isDir path then return .ok ()
    else return .error e

/-- The recursion over the parents; the names come last first. -/
def createDirAbove : HostPath → FileProgram OsString (Except IoErrorKind Unit)
  | [] => do orDirectory [] (← createDir [])
  | name::above => do
    match ← createDir (name::above).reverse with
    | .error .notFound =>
      match ← createDirAbove above with
      | .error e => return .error e
      | .ok () => orDirectory (name::above).reverse (← createDir (name::above).reverse)
    | outcome => orDirectory (name::above).reverse outcome

/-- `fs::create_dir_all`. -/
def createDirAll (path : HostPath) : FileProgram OsString (Except IoErrorKind Unit) :=
  createDirAbove path.reverse

end Files

theorem not_concat_above {p : List ν} {n : ν} : ¬ p++[n] <+: p := by
  intro h
  have hlength := h.length_le
  rw [List.length_append,List.length_singleton] at hlength
  omega

def StrictlyAbove (p q : List ν) : Prop := p <+: q ∧ p ≠ q

instance [DecidableEq ν] (p q : List ν) : Decidable (StrictlyAbove p q) :=
  inferInstanceAs (Decidable (_ ∧ _))

theorem StrictlyAbove.trans_below {p q r : List ν} (h : StrictlyAbove p q) (hqr : q <+: r) :
    StrictlyAbove p r := by
  refine ⟨h.1.trans hqr,?_⟩
  rintro rfl
  exact h.2 (h.1.eq_of_length_le hqr.length_le)

/-- No path is staged below a file: where one lies below an earlier one, something was below that
one before. -/
def Stageable : List (List ν) → List (List ν) → Prop
  | _, [] => True
  | done, a::rest =>
    (∀ f ∈ done, StrictlyAbove f a → ∃ g ∈ done, StrictlyAbove f g) ∧ Stageable (done++[a]) rest

section Order

variable {κ : Type} [LinearOrder κ] {done rest : List (List ν)}

theorem stageable_iff_split :
    Stageable done rest ↔ ∀ before a after, rest = before++a::after →
      ∀ f ∈ done++before, StrictlyAbove f a → ∃ g ∈ done++before, StrictlyAbove f g := by
  induction rest generalizing done with
  | nil => simp [Stageable]
  | cons a rest ih =>
    rw [Stageable,ih]
    constructor
    · rintro ⟨hfirst,hrest⟩ before b after hsplit
      cases before with
      | nil =>
        obtain ⟨rfl,rfl⟩ := List.cons.inj hsplit
        simpa using hfirst
      | cons c before =>
        obtain ⟨rfl,rfl⟩ := List.cons.inj hsplit
        simpa using hrest before b after rfl
    · intro h
      refine ⟨by simpa using h [] a rest rfl,fun before b after hsplit => ?_⟩
      simpa using h (a::before) b after (by simp [hsplit])

/-- In groups that come in the order of their keys, and within which nothing is nested, a path
with others below it must have one of them in an earlier group. -/
theorem stageable_iff_of_sorted {items : List (κ × List ν)}
    (hsorted : items.Pairwise (·.1 ≤ ·.1))
    (hgroup : ∀ x ∈ items, ∀ y ∈ items, x.1 = y.1 → ¬ StrictlyAbove x.2 y.2) :
    Stageable [] (items.map (·.2)) ↔ ∀ x ∈ items, ∀ y ∈ items, StrictlyAbove x.2 y.2 →
      ∃ z ∈ items, z.1 < x.1 ∧ StrictlyAbove x.2 z.2 := by
  rw [stageable_iff_split]
  simp only [List.nil_append]
  constructor
  · intro h x hx y hy hxy
    classical
    have hfound : (items.find? fun z => StrictlyAbove x.2 z.2).isSome := by
      rw [List.find?_isSome]
      exact ⟨y,hy,by simpa using hxy⟩
    obtain ⟨z,hz⟩ := Option.isSome_iff_exists.1 hfound
    obtain ⟨hxz,first,last,rfl,hfirst⟩ := List.find?_eq_some_iff_append.1 hz
    simp only [decide_eq_true_eq] at hxz
    refine ⟨z,by simp,?_,hxz⟩
    by_contra hnot
    have hkeys : x.1 ≠ z.1 := fun he => hgroup x hx z (by simp) he hxz
    have hlate : x.1 < z.1 := lt_of_le_of_ne (not_lt.1 hnot) hkeys
    have hxfirst : x ∈ first := by
      rcases List.mem_append.1 hx with hx | hx
      · exact hx
      rcases List.mem_cons.1 hx with rfl | hx
      · exact absurd rfl hkeys
      · have horder := (List.pairwise_cons.1 (List.pairwise_append.1 hsorted).2.1).1 x hx
        exact absurd hlate (not_lt.2 horder)
    obtain ⟨g,hg,hxg⟩ := h (first.map (·.2)) z.2 (last.map (·.2)) (by simp) x.2
      (List.mem_map_of_mem hxfirst) hxz
    obtain ⟨w,hw,rfl⟩ := List.mem_map.1 hg
    simpa [hxg] using hfirst w hw
  · intro h before a after hsplit f hf hfa
    obtain ⟨first,later,rfl,rfl,hlater⟩ := List.map_eq_append_iff.1 hsplit
    obtain ⟨y,last,rfl,rfl,rfl⟩ := List.map_eq_cons_iff.1 hlater
    obtain ⟨x,hx,rfl⟩ := List.mem_map.1 hf
    obtain ⟨z,hz,hzx,hxz⟩ := h x (by simp [hx]) y (by simp) hfa
    have hearly : z ∈ first := by
      rcases List.mem_append.1 hz with hz | hz
      · exact hz
      · have hlate := (List.pairwise_append.1 hsorted).2.2 x hx z hz
        exact absurd hzx (not_lt.2 hlate)
    exact ⟨z.2,List.mem_map_of_mem hearly,hxz⟩

end Order

variable [LinearOrder ν]

namespace FileTree

variable {t : Option (FileTree ν)}

theorem exists_of_reach_notADirectory {p : List ν} (h : reach p t = .error .notADirectory) :
    ∃ q node, q <+: p ∧ get q t = some node ∧ ¬ IsDirectory (some node) := by
  induction p generalizing t with
  | nil => simp [reach] at h
  | cons n p ih =>
    rcases t with _ | ⟨c⟩ | ⟨entries⟩ | ⟨target⟩ | _
    case none => simp [reach] at h
    case some.directory =>
      simp only [reach] at h
      split at h
      · cases h
      · obtain ⟨q,node,hq,hget,hnode⟩ := ih h
        exact ⟨n::q,node,List.cons_prefix_cons.2 ⟨rfl,hq⟩,hget,hnode⟩
    all_goals exact ⟨[],_, List.nil_prefix,rfl,by simp [IsDirectory]⟩

theorem reach_error {p : List ν} {e : IoErrorKind} (h : reach p t = .error e) :
    e = .notFound ∨ e = .notADirectory := by
  induction p generalizing t with
  | nil => simp [reach] at h
  | cons n p ih =>
    rcases t with _ | ⟨c⟩ | ⟨entries⟩ | ⟨target⟩ | _
    case none => exact Or.inl (by simpa [reach] using h.symm)
    case some.directory =>
      simp only [reach] at h
      split at h
      · cases h
      · exact ih h
    all_goals exact Or.inr (by simpa [reach] using h.symm)

/-- The tree in which a path and everything above it are directories, and the rest is as it
was. -/
structure Extended (path : List ν) (before after : Option (FileTree ν)) : Prop where
  chain : ∀ q, q <+: path → IsDirectory (get q after)
  frame : ∀ q, ¬ q <+: path → get q after = get q before

theorem Extended.refl {path : List ν} (h : ∀ q, q <+: path → IsDirectory (get q t)) :
    Extended path t t := ⟨h,fun _ _ => rfl⟩

end FileTree

namespace Disk

open FileTree Program

variable {pid : ℕ} {disk : Disk OsString} {path : HostPath} {node : FileTree OsString}

theorem exec_orDirectory_of_directory {e : IoErrorKind} (h : IsDirectory (get path disk.root)) :
    (Files.orDirectory path (.error e)).exec (perform pid) disk = (.ok (),disk) := by
  obtain ⟨entries,hentries⟩ := h
  have hmetadata : (Files.metadata path).exec (perform pid) disk = (.ok _,disk) :=
    exec_metadata_of_get hentries
  rw [Files.orDirectory,exec_bind,Files.isDir,exec_bind,exec_resolve_of_get hentries (by simp)]
  dsimp only
  rw [exec_bind,hmetadata]
  rfl

theorem exec_orDirectory_of_file {e : IoErrorKind} {content : List UInt8}
    (h : get path disk.root = none ∨ get path disk.root = some (.file content)) :
    (Files.orDirectory path (.error e)).exec (perform pid) disk = (.error e,disk) := by
  rcases h with h | h
  · rw [Files.orDirectory,exec_bind,Files.isDir,exec_bind,exec_resolve_of_none h]
    rfl
  · have hmetadata : (Files.metadata path).exec (perform pid) disk = (.ok _,disk) :=
      exec_metadata_of_get h
    rw [Files.orDirectory,exec_bind,Files.isDir,exec_bind,exec_resolve_of_get h (by simp)]
    dsimp only
    rw [exec_bind,hmetadata]
    rfl

theorem exec_createDir (pid : ℕ) (path : HostPath) (disk : Disk OsString) :
    (Files.createDir path).exec (perform pid) disk = disk.create path (.directory []) := rfl

theorem isDirectory_above {path q : List ν} {t : Option (FileTree ν)} (hq : q <+: path)
    (h : IsDirectory (get path t)) : IsDirectory (get q t) := by
  obtain ⟨rest,rfl⟩ := hq
  by_cases hrest : rest = []
  · simpa [hrest] using h
  · obtain ⟨entries,hentries⟩ := h
    exact isDirectory_of_get_append hentries hrest

theorem extended_put {parent : List ν} {name : ν} {t : Option (FileTree ν)}
    (hparent : IsDirectory (get parent t)) (habsent : get (parent++[name]) t = none) :
    Extended (parent++[name]) t (put (some (.directory [])) (parent++[name]) t) := by
  have hput : HasParent (parent++[name]) t := hasParent_append_singleton.2 hparent
  refine ⟨fun q hq => ?_,fun q hq => get_put_empty habsent hput hq⟩
  rcases List.prefix_concat_iff.1 hq with rfl | hq
  · exact ⟨[],get_put_self _ hput⟩
  · exact isDirectory_get_put _ (fun h => not_concat_above (h.trans hq))
      (isDirectory_above hq hparent)

theorem create_of_absent {parent : HostPath} {name : OsString}
    (hparent : IsDirectory (get parent disk.root))
    (habsent : get (parent++[name]) disk.root = none) :
    disk.create (parent++[name]) node =
      (.ok (),disk.setRoot (put (some node) (parent++[name]) disk.root)) := by
  have hreach : reach (parent++[name]) disk.root = .ok none :=
    reach_eq_ok.2 ⟨hasParent_append_singleton.2 hparent,habsent⟩
  rw [create,hreach]

/-- Where nothing on the way is anything but a directory, the missing ones are created. -/
theorem exec_createDirAbove_ok {names : HostPath} (hroot : IsDirectory disk.root)
    (h : ∀ q node, q <+: names.reverse → get q disk.root = some node → IsDirectory (some node)) :
    ∃ root, (Files.createDirAbove names).exec (perform pid) disk = (.ok (),disk.setRoot root) ∧
      Extended names.reverse disk.root root := by
  induction names with
  | nil =>
    refine ⟨disk.root,?_,fun q hq => ?_,fun _ _ => rfl⟩
    · obtain ⟨entries,hentries⟩ := hroot
      have hcreate : disk.create [] (.directory []) = (.error .alreadyExists,disk) := by
        rw [create,reach,hentries]
      rw [Files.createDirAbove,exec_bind,exec_createDir,hcreate]
      exact exec_orDirectory_of_directory ⟨entries,hentries⟩
    · rw [List.prefix_nil.1 hq]
      exact hroot
  | cons name above ih =>
    rw [List.reverse_cons] at h ⊢
    have hbelow : ∀ q, q <+: above.reverse → q <+: above.reverse++[name] :=
      fun q hq => hq.trans (List.prefix_append _ _)
    rw [Files.createDirAbove,List.reverse_cons,exec_bind,exec_createDir]
    obtain ⟨hparent,habsent,-⟩ | ⟨node,hnode,hreach⟩ | ⟨e,-,-,habsent,hreach⟩ :=
      reach_cases (above.reverse++[name]) disk.root
    · rw [hasParent_append_singleton] at hparent
      rw [create_of_absent hparent habsent]
      exact ⟨_,rfl,extended_put hparent habsent⟩
    · have hdirectory := h _ node List.prefix_rfl hnode
      rw [← hnode] at hdirectory
      rw [create,hreach]
      exact ⟨disk.root,exec_orDirectory_of_directory hdirectory,
        fun q hq => isDirectory_above hq hdirectory,fun _ _ => rfl⟩
    · rcases reach_error hreach with rfl | rfl
      · obtain ⟨root,hexec,hchain⟩ := ih fun q node hq => h q node (hbelow q hq)
        have hparent := hchain.chain _ List.prefix_rfl
        have habove : get (above.reverse++[name]) root = none :=
          (hchain.frame _ not_concat_above).trans habsent
        have hextended := extended_put hparent habove
        refine ⟨_,?_,hextended.chain,fun q hq => ?_⟩
        · have hcreate : (disk.setRoot root).create (above.reverse++[name]) (.directory []) = _ :=
            create_of_absent hparent habove
          rw [create,hreach]
          dsimp only
          rw [exec_bind,hexec]
          dsimp only
          rw [exec_bind,exec_createDir,hcreate]
          rfl
        · exact (hextended.frame q hq).trans (hchain.frame q fun hp => hq (hbelow q hp))
      · obtain ⟨q,node,hq,hget,hnode⟩ := exists_of_reach_notADirectory hreach
        exact absurd (h q node hq hget) hnode

theorem exec_createDirAbove_error {names q : HostPath} {content : List UInt8}
    (hq : q <+: names.reverse) (hget : get q disk.root = some (.file content)) :
    ∃ e disk', (Files.createDirAbove names).exec (perform pid) disk = (.error e,disk') := by
  have hnever : ∀ path, q <+: path →
      get path disk.root = none ∨ get path disk.root = some (.file content) := by
    rintro _ ⟨rest,rfl⟩
    rw [get_append,hget]
    cases rest with
    | nil => exact Or.inr rfl
    | cons name rest => exact Or.inl rfl
  induction names with
  | nil =>
    obtain rfl := List.prefix_nil.1 hq
    have hcreate : disk.create [] (.directory []) = (.error .alreadyExists,disk) := by
      rw [get_nil] at hget
      rw [create,reach,hget]
    rw [Files.createDirAbove,exec_bind,exec_createDir,hcreate]
    exact ⟨_,_,exec_orDirectory_of_file (hnever [] hq)⟩
  | cons name above ih =>
    rw [List.reverse_cons] at hq
    rw [Files.createDirAbove,List.reverse_cons,exec_bind,exec_createDir]
    obtain ⟨hparent,habsent,-⟩ | ⟨there,hthere,hreach⟩ | ⟨e,-,-,habsent,hreach⟩ :=
      reach_cases (above.reverse++[name]) disk.root
    · rcases List.prefix_concat_iff.1 hq with rfl | hq
      · rw [habsent] at hget
        cases hget
      · obtain ⟨entries,hentries⟩ := hasParent_append_singleton.1 hparent
        rcases hnever _ hq with hnone | hfile
        · cases hentries.symm.trans hnone
        · cases hentries.symm.trans hfile
    · rw [create,hreach]
      exact ⟨_,_,exec_orDirectory_of_file (hnever _ hq)⟩
    · rw [create,hreach]
      rcases reach_error hreach with rfl | rfl
      · rcases List.prefix_concat_iff.1 hq with rfl | hq
        · rw [habsent] at hget
          cases hget
        obtain ⟨e,disk',hexec⟩ := ih hq
        dsimp only
        rw [exec_bind,hexec]
        exact ⟨e,disk',rfl⟩
      · exact ⟨_,_,exec_orDirectory_of_file (hnever _ hq)⟩

theorem exec_createDirAll_ok (hroot : IsDirectory disk.root)
    (h : ∀ q node, q <+: path → get q disk.root = some node → IsDirectory (some node)) :
    ∃ root, (Files.createDirAll path).exec (perform pid) disk = (.ok (),disk.setRoot root) ∧
      Extended path disk.root root := by
  rw [← List.reverse_reverse path] at h
  obtain ⟨root,hexec,hextended⟩ := exec_createDirAbove_ok hroot h
  rw [List.reverse_reverse] at hextended
  exact ⟨root,hexec,hextended⟩

theorem exec_createDirAll_error {q : HostPath} {content : List UInt8} (hq : q <+: path)
    (hget : get q disk.root = some (.file content)) :
    ∃ e disk', (Files.createDirAll path).exec (perform pid) disk = (.error e,disk') := by
  rw [← List.reverse_reverse path] at hq
  exact exec_createDirAbove_error hq hget

end Disk

open FileTree

/-- What is below the base: the directories, the files, and the directories above them. A file
that another path was staged below is a directory. -/
structure Staged (base : List ν) (dirs files : List (List ν)) (t : Option (FileTree ν)) : Prop where
  anchored : IsDirectory (get base t)
  occupied : ∀ q, q ≠ [] → (get (base++q) t ≠ none ↔ ∃ p ∈ dirs++files, q <+: p)
  directory : ∀ q, q ≠ [] → (IsDirectory (get (base++q) t) ↔
    (∃ d ∈ dirs, q <+: d) ∨ ∃ f ∈ files, StrictlyAbove q f)

section Staged

variable {base a : List ν} {dirs files : List (List ν)} {t t' : Option (FileTree ν)}

theorem Staged.root (h : Staged base dirs files t) : IsDirectory t := by
  have habove : [] <+: base := List.nil_prefix
  exact Disk.isDirectory_above habove h.anchored

theorem Staged.of_empty (h : get base t = some (.directory [])) : Staged base [] [] t := by
  have hnone : ∀ q, q ≠ [] → get (base++q) t = none := by
    intro q hq
    rw [get_append,h]
    cases q with
    | nil => exact absurd rfl hq
    | cons name q => exact get_none q
  refine ⟨⟨[],h⟩,fun q hq => ?_,fun q hq => ?_⟩
  · simp [hnone q hq]
  · simp [hnone q hq,IsDirectory]

/-- A file on the way is there as a directory. -/
def Staged.Open (dirs files : List (List ν)) (f : List ν) : Prop :=
  (∃ d ∈ dirs, f <+: d) ∨ ∃ g ∈ files, StrictlyAbove f g

/-- What can be created: everything that exists on the way is a directory. -/
theorem Staged.passable (h : Staged base dirs files t)
    (hway : ∀ f ∈ files, f <+: a → Staged.Open dirs files f) :
    ∀ q node, q <+: base++a → get q t = some node → IsDirectory (some node) := by
  intro q node hq hget
  rw [← hget]
  rcases List.prefix_or_prefix_of_prefix hq (List.prefix_append base a) with hbase | ⟨r,rfl⟩
  · exact Disk.isDirectory_above hbase h.anchored
  rw [List.prefix_append_right_inj] at hq
  by_cases hr : r = []
  · simpa [hr] using h.anchored
  refine (h.directory r hr).2 ?_
  obtain ⟨p,hp,hrp⟩ := (h.occupied r hr).1 (by simp [hget])
  rcases List.mem_append.1 hp with hp | hp
  · exact Or.inl ⟨p,hp,hrp⟩
  · by_cases heq : r = p
    · subst heq
      exact hway r hp hq
    · exact Or.inr ⟨p,hp,hrp,heq⟩

theorem Staged.add_dir_there (h : Staged base dirs files t) (hthere : ∃ d ∈ dirs, a <+: d) :
    Staged base (dirs++[a]) files t := by
  obtain ⟨d,hd,had⟩ := hthere
  have hdirs : ∀ q, (∃ p ∈ dirs++[a], q <+: p) ↔ ∃ p ∈ dirs, q <+: p := by
    intro q
    simp only [List.mem_append,List.mem_singleton,or_and_right,exists_or,exists_eq_left]
    exact or_iff_left_of_imp fun hqa => ⟨d,hd,hqa.trans had⟩
  refine ⟨h.anchored,fun q hq => ?_,fun q hq => ?_⟩
  · rw [h.occupied q hq]
    simp only [List.mem_append (t := files),or_and_right,exists_or,hdirs]
  · rw [h.directory q hq,hdirs]

theorem Staged.add_file_there (h : Staged base dirs files t) (hthere : ∃ p ∈ dirs++files, a <+: p) :
    Staged base dirs (files++[a]) t := by
  obtain ⟨p,hp,hap⟩ := hthere
  refine ⟨h.anchored,fun q hq => ?_,fun q hq => ?_⟩
  · rw [h.occupied q hq,← List.append_assoc]
    simp only [List.mem_append (t := [a]),List.mem_singleton,or_and_right,exists_or,exists_eq_left]
    exact (or_iff_left_of_imp fun hqa => ⟨p,hp,hqa.trans hap⟩).symm
  · rw [h.directory q hq]
    simp only [List.mem_append,List.mem_singleton,or_and_right,exists_or,exists_eq_left,← or_assoc]
    refine (or_iff_left_of_imp fun hqa => ?_).symm
    rcases List.mem_append.1 hp with hp | hp
    · exact Or.inl ⟨p,hp,hqa.1.trans hap⟩
    · exact Or.inr ⟨p,hp,hqa.trans_below hap⟩

theorem FileTree.Extended.below (h : Extended (base++a) t t') (q : List ν) :
    (q <+: a → IsDirectory (get (base++q) t')) ∧
      (¬ q <+: a → get (base++q) t' = get (base++q) t) := by
  refine ⟨fun hq => ?_,fun hq => ?_⟩
  · exact h.chain _ ((List.prefix_append_right_inj base).2 hq)
  · exact h.frame _ fun hbase => hq ((List.prefix_append_right_inj base).1 hbase)

theorem Staged.add_dir (h : Staged base dirs files t) (hextended : Extended (base++a) t t') :
    Staged base (dirs++[a]) files t' := by
  have hkinds := Extended.below hextended
  refine ⟨hextended.chain _ (List.prefix_append _ _),fun q hq => ?_,fun q hq => ?_⟩
  · by_cases hqa : q <+: a
    · obtain ⟨entries,hentries⟩ := (hkinds q).1 hqa
      exact iff_of_true (by simp [hentries]) ⟨a,by simp,hqa⟩
    · rw [(hkinds q).2 hqa,h.occupied q hq]
      simp [or_and_right,exists_or,hqa]
  · by_cases hqa : q <+: a
    · exact iff_of_true ((hkinds q).1 hqa) (Or.inl ⟨a,by simp,hqa⟩)
    · rw [(hkinds q).2 hqa,h.directory q hq]
      simp [or_and_right,exists_or,hqa]

theorem get_put_file {p q : List ν} (habsent : get p t = none) (hparent : HasParent p t)
    (hq : ¬ q <+: p) : get q (put (some (.file [])) p t) = get q t := by
  by_cases hp : p <+: q
  · obtain ⟨r,rfl⟩ := hp
    cases r with
    | nil => exact absurd (by simp) hq
    | cons n r =>
      rw [get_put_append _ _ hparent,get_append,habsent,get_none]
      rfl
  · exact get_put_of_disjoint _ hp hq

theorem FileTree.Extended.below_file {name : ν} (h : Extended (base++a) t t')
    (hnone : get (base++(a++[name])) t = none) :
    (∀ q, q <+: a →
        IsDirectory (get (base++q) (put (some (.file [])) (base++(a++[name])) t'))) ∧
      get (base++(a++[name])) (put (some (.file [])) (base++(a++[name])) t') = some (.file []) ∧
      ∀ q, ¬ q <+: a++[name] →
        get (base++q) (put (some (.file [])) (base++(a++[name])) t') = get (base++q) t := by
  have hkinds := Extended.below h
  have habsent : get (base++(a++[name])) t' = none := ((hkinds _).2 not_concat_above).trans hnone
  have hparent : HasParent (base++(a++[name])) t' := by
    rw [← List.append_assoc]
    exact hasParent_append_singleton.2 (h.chain _ List.prefix_rfl)
  refine ⟨fun q hq => ?_,get_put_self _ hparent,fun q hq => ?_⟩
  · refine isDirectory_get_put _ (fun hp => ?_) ((hkinds q).1 hq)
    exact not_concat_above (((List.prefix_append_right_inj base).1 hp).trans hq)
  · rw [get_put_file habsent hparent fun hp => hq ((List.prefix_append_right_inj base).1 hp)]
    exact (hkinds q).2 fun hqa => hq (hqa.trans (List.prefix_append _ _))

theorem Staged.absent {q : List ν} (h : Staged base dirs files t) (hq : q ≠ [])
    (habsent : ¬ ∃ p ∈ dirs++files, q <+: p) : get (base++q) t = none := by
  by_contra hsome
  exact habsent ((h.occupied q hq).1 hsome)

theorem Staged.add_file {name : ν} (h : Staged base dirs files t)
    (habsent : ¬ ∃ p ∈ dirs++files, a++[name] <+: p) (hextended : Extended (base++a) t t') :
    Staged base dirs (files++[a++[name]]) (put (some (.file [])) (base++(a++[name])) t') := by
  obtain ⟨habove,hself,hbeside⟩ := hextended.below_file (h.absent (by simp) habsent)
  refine ⟨?_,fun q hq => ?_,fun q hq => ?_⟩
  · simpa using habove [] List.nil_prefix
  · by_cases hpath : q <+: a++[name]
    · refine iff_of_true ?_ ⟨a++[name],by simp,hpath⟩
      rcases List.prefix_concat_iff.1 hpath with rfl | hqa
      · simp [hself]
      · obtain ⟨entries,hentries⟩ := habove q hqa
        simp [hentries]
    · rw [hbeside q hpath,h.occupied q hq]
      simp [or_and_right,exists_or,hpath]
  · by_cases hpath : q <+: a++[name]
    · rcases List.prefix_concat_iff.1 hpath with rfl | hqa
      · refine iff_of_false ?_ ?_
        · simp [hself,IsDirectory]
        · rintro (⟨d,hd,hqd⟩ | ⟨f,hf,hqf⟩)
          · exact habsent ⟨d,List.mem_append_left _ hd,hqd⟩
          · rcases List.mem_append.1 hf with hf | hf
            · exact habsent ⟨f,List.mem_append_right _ hf,hqf.1⟩
            · exact hqf.2 (List.mem_singleton.1 hf).symm
      · refine iff_of_true (habove q hqa) (Or.inr ⟨a++[name],by simp,hpath,?_⟩)
        rintro rfl
        exact not_concat_above hqa
    · rw [hbeside q hpath,h.directory q hq]
      have hstrict : ¬ StrictlyAbove q (a++[name]) := fun hq => hpath hq.1
      simp [or_and_right,exists_or,hstrict]

def FileTree.Ordinary (x : Option (FileTree ν)) : Prop :=
  IsDirectory x ∨ ∃ content, x = some (.file content)

theorem FileTree.Extended.ordinary {name : ν} (h : Extended (base++a) t t')
    (hnone : get (base++(a++[name])) t = none) {q : List ν} (hq : Ordinary (get (base++q) t)) :
    Ordinary (get (base++q) (put (some (.file [])) (base++(a++[name])) t')) := by
  obtain ⟨habove,hself,hbeside⟩ := h.below_file hnone
  by_cases hpath : q <+: a++[name]
  · rcases List.prefix_concat_iff.1 hpath with rfl | hqa
    · exact Or.inr ⟨[],hself⟩
    · exact Or.inl (habove q hqa)
  · rw [hbeside q hpath]
    exact hq

theorem Staged.ordinary {q : List ν} (h : Staged base dirs files t) (hq : q ≠ [])
    (hthere : get (base++q) t ≠ none) (hfile : q ∈ files → Ordinary (get (base++q) t)) :
    Ordinary (get (base++q) t) := by
  obtain ⟨p,hp,hqp⟩ := (h.occupied q hq).1 hthere
  rcases List.mem_append.1 hp with hp | hp
  · exact Or.inl ((h.directory q hq).2 (Or.inl ⟨p,hp,hqp⟩))
  · by_cases heq : q = p
    · exact hfile (heq ▸ hp)
    · exact Or.inl ((h.directory q hq).2 (Or.inr ⟨p,hp,hqp,heq⟩))

end Staged

end CommitCiPreflight
