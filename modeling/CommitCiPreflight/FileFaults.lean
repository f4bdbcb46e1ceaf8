import CommitCiPreflight.FileSystem

/-! File operations under faults. Each operation that writes to the disk meets the next fault
of a plan: it may be refused, a write may stop after some bytes, and the process may be
killed. What only reads meets none. -/
namespace CommitCiPreflight

inductive Fault
  | proceed
  | refuse
  | kill
  /-- The call fails after so many bytes. -/
  | tear (count : ℕ)
  /-- The process is killed after so many bytes. -/
  | cut (count : ℕ)
  deriving DecidableEq

variable {ν : Type}

def FileOp.failure : (op : FileOp ν) → Option op.Result
  | .createDir _ => some (.error .other)
  | .createNew _ => some (.error .other)
  | .append _ _ => some (.error .other)
  | .sync _ => some (.error .other)
  | .rename _ _ => some (.error .other)
  | .removeFile _ => some (.error .other)
  | _ => none

def FileOp.Reads : FileOp ν → Prop
  | .metadata _ | .readFile _ | .readLink _ | .readDir _ | .readTree _ => True
  | _ => False

namespace Disk

open FileTree Program

theorem uses_keeps_of_reads {α : Type} {W L : List ν → Prop} {p : FileProgram ν α}
    (hp : p.Uses FileOp.Reads) : p.Uses (FileOp.Keeps W L) := by
  refine uses_mono hp fun op hop => ?_
  cases op with
  | metadata path => exact Files.keeps_of_reads rfl rfl
  | readFile path => exact Files.keeps_of_reads rfl rfl
  | readLink path => exact Files.keeps_of_reads rfl rfl
  | readDir path => exact Files.keeps_of_reads rfl rfl
  | readTree path => exact Files.keeps_of_reads rfl rfl
  | _ => exact absurd hop (by simp [FileOp.Reads])

variable [LinearOrder ν]

def partly (pid count : ℕ) (disk : Disk ν) : FileOp ν → Disk ν
  | .append path bytes => (perform pid (.append path (bytes.take count)) disk).2
  | _ => disk

/-- An operation under a plan of faults. -/
def attempt (pid : ℕ) (op : FileOp ν) (s : Disk ν × List Fault) :
    Option op.Result × Disk ν × List Fault :=
  match op.failure,s.2 with
  | some answer,.refuse::faults => (some answer,s.1,faults)
  | some _,.kill::faults => (none,s.1,faults)
  | some answer,.tear count::faults => (some answer,s.1.partly pid count op,faults)
  | some _,.cut count::faults => (none,s.1.partly pid count op,faults)
  | some _,.proceed::faults => (some (perform pid op s.1).1,(perform pid op s.1).2,faults)
  | _,faults => (some (perform pid op s.1).1,(perform pid op s.1).2,faults)

/-- A program under a plan of faults: its value, unless it was killed, and the disk. -/
def suffer {α : Type} (pid : ℕ) (faults : List Fault) (p : FileProgram ν α) (disk : Disk ν) :
    Option α × Disk ν :=
  ((p.execUntil (attempt pid) (disk,faults)).1,(p.execUntil (attempt pid) (disk,faults)).2.1)

/-- An operation under faults is performed, or fails or is killed before or amid its effect. -/
theorem attempt_cases (pid : ℕ) (op : FileOp ν) (s : Disk ν × List Fault) :
    ((attempt pid op s).1 = some (perform pid op s.1).1 ∧
      (attempt pid op s).2.1 = (perform pid op s.1).2) ∨
    (((attempt pid op s).1 = none ∨ (attempt pid op s).1 = op.failure) ∧
      ((attempt pid op s).2.1 = s.1 ∨ ∃ count, (attempt pid op s).2.1 = s.1.partly pid count op)) := by
  obtain ⟨disk,faults⟩ := s
  unfold attempt
  cases hfailure : op.failure with
  | none => exact Or.inl ⟨rfl,rfl⟩
  | some answer =>
    rcases faults with _ | ⟨_ | _ | _ | count | count,faults⟩
    · exact Or.inl ⟨rfl,rfl⟩
    · exact Or.inl ⟨rfl,rfl⟩
    · exact Or.inr ⟨Or.inr rfl,Or.inl rfl⟩
    · exact Or.inr ⟨Or.inl rfl,Or.inl rfl⟩
    · exact Or.inr ⟨Or.inr rfl,Or.inr ⟨count,rfl⟩⟩
    · exact Or.inr ⟨Or.inl rfl,Or.inr ⟨count,rfl⟩⟩

theorem partly_root_induction {pid count : ℕ} {op : FileOp ν} {disk : Disk ν}
    {P : Option (FileTree ν) → Prop} (base : P disk.root)
    (put : ∀ x path t, path ∈ op.writes → P t → P (put x path t)) :
    P (disk.partly pid count op).root := by
  cases op with
  | append path bytes => exact perform_root_induction base put
  | _ => exact base

theorem attempt_root_induction {pid : ℕ} {op : FileOp ν} {s : Disk ν × List Fault}
    {P : Option (FileTree ν) → Prop} (base : P s.1.root)
    (put : ∀ x path t, path ∈ op.writes → P t → P (put x path t)) :
    P (attempt pid op s).2.1.root := by
  rcases attempt_cases pid op s with ⟨-,hdisk⟩ | ⟨-,hdisk | ⟨count,hdisk⟩⟩
  · rw [hdisk]
    exact perform_root_induction base put
  · rw [hdisk]
    exact base
  · rw [hdisk]
    exact partly_root_induction base put

/-- A program leaves alone what is beside everything it may write. -/
theorem get_suffer {α : Type} {pid : ℕ} {faults : List Fault} {disk : Disk ν} {W L : List ν → Prop}
    {p : FileProgram ν α} (hp : p.Uses (FileOp.Keeps W L)) {q : List ν}
    (hq : ∀ path, W path → ¬ path <+: q ∧ ¬ q <+: path) :
    get q (suffer pid faults p disk).2.root = get q disk.root := by
  refine execUntil_preserves (attempt pid) (fun s => get q s.1.root = get q disk.root)
    (uses_mono hp fun op hop s hs => ?_) rfl
  exact attempt_root_induction (P := fun t => get q t = get q disk.root) hs
    fun x path t hpath ht => (get_put_of_disjoint x (hq path (hop.1 path hpath)).1
      (hq path (hop.1 path hpath)).2).trans ht

section Reads

variable {pid : ℕ} {disk : Disk ν} {faults : List Fault} {α β ε : Type} {p : FileProgram ν α}
  {x : Fallible (FileOp ν) FileOp.Result ε α} {g : α → Fallible (FileOp ν) FileOp.Result ε β}

theorem attempt_of_reads {op : FileOp ν} (h : op.Reads) :
    attempt pid op (disk,faults) = (some (perform pid op disk).1,(disk,faults)) ∧
      (perform pid op disk).2 = disk := by
  cases op with
  | metadata path => exact ⟨rfl,rfl⟩
  | readFile path => exact ⟨rfl,rfl⟩
  | readLink path => exact ⟨rfl,rfl⟩
  | readDir path => exact ⟨rfl,rfl⟩
  | readTree path => exact ⟨rfl,rfl⟩
  | _ => exact absurd h (by simp [FileOp.Reads])

theorem execUntil_of_reads (hp : p.Uses FileOp.Reads) :
    p.execUntil (attempt pid) (disk,faults) =
        (some (p.exec (perform pid) disk).1,(disk,faults)) ∧
      (p.exec (perform pid) disk).2 = disk :=
  execUntil_eq_exec (attempt pid) Prod.fst (uses_mono hp fun _ hop => attempt_of_reads hop)

theorem exec_of_reads (hp : p.Uses FileOp.Reads) : (p.exec (perform pid) disk).2 = disk := by
  refine exec_preserves (perform pid) (· = disk) (uses_mono hp fun op hop d hd => ?_) rfl
  have hread : attempt pid op (d,[]) = _ ∧ (perform pid op d).2 = d := attempt_of_reads hop
  exact hread.2.trans hd

theorem exec_eq_of_reads (hp : p.Uses FileOp.Reads) (pid pid' : ℕ) :
    p.exec (perform pid) disk = p.exec (perform pid') disk := by
  induction hp generalizing disk with
  | done a => rfl
  | @call op next head tail ih =>
    have hop : perform pid op disk = perform pid' op disk := by
      cases op <;> first | rfl | exact absurd head (by simp [FileOp.Reads])
    change (next (perform pid op disk).1).exec (perform pid) (perform pid op disk).2 =
      (next (perform pid' op disk).1).exec (perform pid') (perform pid' op disk).2
    rw [hop]
    exact ih _

/-- A sequence whose first part only reads goes on with all faults to come. -/
theorem suffer_reads_bind (hx : x.run.Uses FileOp.Reads) :
    suffer pid faults (x >>= g).run disk =
      match (x.run.exec (perform pid) disk).1 with
      | .ok a => suffer pid faults (g a).run disk
      | .error e => (some (.error e),disk) := by
  unfold suffer
  rw [execUntil_run_bind,(execUntil_of_reads hx).1]
  cases (x.run.exec (perform pid) disk).1 with
  | ok a => rfl
  | error e => rfl

theorem suffer_lift_bind (hp : p.Uses FileOp.Reads) :
    suffer pid faults ((liftM p : Fallible (FileOp ν) FileOp.Result ε α) >>= g).run disk =
      suffer pid faults (g (p.exec (perform pid) disk).1).run disk := by
  rw [suffer_reads_bind (uses_lift hp)]
  have hlift : ((liftM p : Fallible (FileOp ν) FileOp.Result ε α).run.exec (perform pid) disk).1 =
      .ok (p.exec (perform pid) disk).1 := congrArg Prod.fst (exec_bind (perform pid) p _ disk)
  rw [hlift]

theorem suffer_ofExcept_bind (y : Except ε α) :
    suffer pid faults (Program.ofExcept y >>= g).run disk =
      match y with
      | .ok a => suffer pid faults (g a).run disk
      | .error e => (some (.error e),disk) := by
  cases y with
  | ok a => rfl
  | error e => rfl

theorem suffer_ensure_bind {c : Prop} [Decidable c] {e : ε}
    {g : Unit → Fallible (FileOp ν) FileOp.Result ε β} :
    suffer pid faults (ensure c e >>= g).run disk =
      if c then suffer pid faults (g ()).run disk else (some (.error e),disk) := by
  unfold ensure
  split
  · rfl
  · rfl

theorem suffer_bind_reads {g : α → FileProgram ν β} (hg : ∀ a, (g a).Uses FileOp.Reads) :
    (suffer pid faults (p >>= g) disk).2 = (suffer pid faults p disk).2 := by
  unfold suffer
  rw [execUntil_bind]
  rcases p.execUntil (attempt pid) (disk,faults) with ⟨_ | a,s'⟩
  · rfl
  · exact congrArg (fun r => r.2.1) (execUntil_of_reads (hg a)).1

theorem suffer_run_bind_reads (hg : ∀ a, (g a).run.Uses FileOp.Reads) :
    (suffer pid faults (x >>= g).run disk).2 = (suffer pid faults x.run disk).2 := by
  rw [ExceptT.run_bind]
  refine suffer_bind_reads fun outcome => ?_
  cases outcome with
  | ok a => exact hg a
  | error e => exact .done _

theorem suffer_bind_pure (f : α → β) :
    (suffer pid faults (x >>= fun a => pure (f a)).run disk).2 = (suffer pid faults x.run disk).2 :=
  suffer_run_bind_reads fun _ => .done _

/-- What the first part establishes and every later operation keeps holds at the end. -/
theorem suffer_bind_preserves (Inv : Disk ν → Prop) (hx : Inv (suffer pid faults x.run disk).2)
    (hg : ∀ a, (g a).run.Uses fun op => ∀ s, Inv s.1 → Inv (attempt pid op s).2.1) :
    Inv (suffer pid faults (x >>= g).run disk).2 := by
  unfold suffer at hx ⊢
  rw [execUntil_run_bind]
  rcases hrun : x.run.execUntil (attempt pid) (disk,faults) with ⟨_ | e | a,s'⟩
  · rw [hrun] at hx
    exact hx
  · rw [hrun] at hx
    exact hx
  · rw [hrun] at hx
    exact execUntil_preserves (attempt pid) (fun s => Inv s.1) (hg a) hx

theorem suffer_bind_stop (h : ∀ a, (suffer pid faults x.run disk).1 ≠ some (.ok a)) :
    (suffer pid faults (x >>= g).run disk).2 = (suffer pid faults x.run disk).2 := by
  unfold suffer at h ⊢
  rw [execUntil_run_bind]
  rcases hx : x.run.execUntil (attempt pid) (disk,faults) with ⟨_ | e | a,s'⟩
  · rfl
  · rfl
  · rw [hx] at h
    exact absurd rfl (h a)

def read (pid : ℕ) (x : Fallible (FileOp ν) FileOp.Result ε α) (disk : Disk ν) : Except ε α :=
  (x.run.exec (perform pid) disk).1

theorem read_bind (hx : x.run.Uses FileOp.Reads) :
    read pid (x >>= g) disk = read pid x disk >>= fun a => read pid (g a) disk := by
  have hdisk : (x.run.exec (perform pid) disk).2 = disk := exec_of_reads hx
  unfold read
  rw [ExceptT.run_bind,exec_bind,hdisk]
  cases (x.run.exec (perform pid) disk).1 with
  | ok a => rfl
  | error e => rfl

theorem read_lift_bind (hp : p.Uses FileOp.Reads) :
    read pid ((liftM p : Fallible (FileOp ν) FileOp.Result ε α) >>= g) disk =
      read pid (g (p.exec (perform pid) disk).1) disk := by
  have hdisk : (p.exec (perform pid) disk).2 = disk := exec_of_reads hp
  unfold read
  rw [exec_lift_bind,hdisk]

theorem read_pure (a : α) : read pid (pure a : Fallible (FileOp ν) FileOp.Result ε α) disk = .ok a :=
  rfl

theorem read_ofExcept_bind (y : Except ε α) :
    read pid (Program.ofExcept y >>= g) disk = y >>= fun a => read pid (g a) disk := by
  cases y with
  | ok a => rfl
  | error e => rfl

theorem read_ensure_eq_ok {c : Prop} [Decidable c] {e : ε} {u : Unit} :
    read pid (ensure c e : Fallible (FileOp ν) FileOp.Result ε Unit) disk = .ok u ↔ c := by
  unfold ensure
  split
  · rename_i h
    exact ⟨fun _ => h,fun _ => rfl⟩
  · rename_i h
    exact ⟨fun he => (by cases he),fun hc => absurd hc h⟩

theorem read_passOn_eq_ok {wrap : IoErrorKind → ε} {call : FileProgram ν (Except IoErrorKind α)}
    {a : α} :
    read pid (Files.passOn wrap call) disk = .ok a ↔
      (call.exec (perform pid) disk).1 = .ok a := by
  unfold read
  rw [exec_passOn]
  cases (call.exec (perform pid) disk).1 with
  | ok b => simp [Except.mapError]
  | error e => simp [Except.mapError]

end Reads

def proceeds : Option Fault → Bool
  | none | some .proceed => true
  | _ => false

def kept (bytes : List UInt8) : Option Fault → List UInt8
  | none | some .proceed => bytes
  | some .refuse | some .kill => []
  | some (.tear count) | some (.cut count) => bytes.take count

/-- The content of a file that is created and written in two operations, if it is created. -/
def fate (faults : List Fault) (bytes : List UInt8) : Option (List UInt8) :=
  if proceeds faults[0]? then some (kept bytes faults[1]?) else none

theorem exists_take_of_fate {faults : List Fault} {bytes content : List UInt8}
    (h : fate faults bytes = some content) : ∃ count, content = bytes.take count := by
  unfold fate at h
  split_ifs at h
  cases h
  rcases faults[1]? with _ | _ | _ | _ | count | count
  · exact ⟨bytes.length,(List.take_length).symm⟩
  · exact ⟨bytes.length,(List.take_length).symm⟩
  · exact ⟨0,rfl⟩
  · exact ⟨0,rfl⟩
  · exact ⟨count,rfl⟩
  · exact ⟨count,rfl⟩

section Fate

variable {pid : ℕ} {disk : Disk ν} {faults : List Fault} {path : List ν} {bytes : List UInt8}
  {node : FileTree ν} {q : List ν}

theorem perform_createNew (pid : ℕ) (habsent : get path disk.root = none)
    (hparent : HasParent path disk.root) :
    perform pid (.createNew path) disk =
      (.ok (),disk.setRoot (put (some (.file [])) path disk.root)) := by
  change disk.create path (.file []) = _
  rw [create,reach_eq_ok.2 ⟨hparent,habsent⟩]

theorem perform_append_new (pid : ℕ) (hparent : HasParent path disk.root) (bytes : List UInt8) :
    perform pid (.append path bytes) (disk.setRoot (put (some (.file [])) path disk.root)) =
      (.ok (),disk.setRoot (put (some (.file bytes)) path disk.root)) := by
  change edit _ path (·++bytes) = _
  rw [edit,setRoot,stat_of_get (get_put_self _ hparent)]
  simp only [setRoot,List.nil_append,put_put]

theorem attempt_createNew (habsent : get path disk.root = none) (hparent : HasParent path disk.root) :
    attempt pid (.createNew path) (disk,faults) =
      if proceeds faults[0]? then
        (some (.ok ()),disk.setRoot (put (some (.file [])) path disk.root),faults.tail)
      else ((attempt pid (.createNew path) (disk,faults)).1,disk,faults.tail) := by
  have hcreate := perform_createNew pid habsent hparent
  rcases faults with _ | ⟨fault,faults⟩
  · simp only [attempt,FileOp.failure,hcreate]
    rfl
  · cases fault with
    | proceed =>
      simp only [attempt,FileOp.failure,hcreate]
      rfl
    | _ => rfl

theorem attempt_createNew_present (h : get path disk.root = some node) :
    (attempt pid (.createNew path) (disk,faults)).2.1 = disk ∧
      (attempt pid (.createNew path) (disk,faults)).1 ≠ some (.ok ()) := by
  have hcreate : perform pid (.createNew path) disk = (.error .alreadyExists,disk) := by
    change disk.create path (.file []) = _
    rw [create,reach_eq_ok.2 ⟨hasParent_of_get h,h⟩]
  rcases attempt_cases pid (.createNew path) (disk,faults) with
    ⟨hresult,hdisk⟩ | ⟨hresult | hresult,hdisk | ⟨count,hdisk⟩⟩
  · rw [hresult,hdisk,hcreate]
    exact ⟨rfl,by simp⟩
  all_goals
    rw [hresult,hdisk]
    exact ⟨rfl,by simp [FileOp.failure]⟩

theorem attempt_append (hparent : HasParent path disk.root) :
    (attempt pid (.append path bytes)
      (disk.setRoot (put (some (.file [])) path disk.root),faults)).2.1 =
      disk.setRoot (put (some (.file (kept bytes faults[0]?))) path disk.root) := by
  have happend := perform_append_new pid hparent
  rcases faults with _ | ⟨fault,faults⟩
  · simp only [attempt,FileOp.failure,happend]
    rfl
  · cases fault with
    | proceed =>
      simp only [attempt,FileOp.failure,happend]
      rfl
    | refuse => rfl
    | kill => rfl
    | tear count =>
      simp only [attempt,FileOp.failure,partly,happend]
      rfl
    | cut count =>
      simp only [attempt,FileOp.failure,partly,happend]
      rfl

theorem execUntil_perform (op : FileOp ν) (s : Disk ν × List Fault) :
    (Program.perform op : FileProgram ν _).execUntil (attempt pid) s = attempt pid op s := by
  rw [Program.perform,execUntil]
  rcases attempt pid op s with ⟨_ | result,s'⟩
  · rfl
  · rfl

theorem attempt_sync (s : Disk ν × List Fault) : (attempt pid (.sync path) s).2.1 = s.1 := by
  obtain ⟨d,_ | ⟨fault,faults⟩⟩ := s
  · rfl
  · cases fault <;> rfl

theorem execUntil_passOn {ε α : Type} {wrap : IoErrorKind → ε}
    {call : FileProgram ν (Except IoErrorKind α)} (s : Disk ν × List Fault) :
    (Files.passOn wrap call).run.execUntil (attempt pid) s =
      match call.execUntil (attempt pid) s with
      | (some result,s') => (some (result.mapError wrap),s')
      | (none,s') => (none,s') := by
  change (call >>= fun r => .done (r.mapError wrap)).execUntil (attempt pid) s = _
  rw [execUntil_bind]
  rcases call.execUntil (attempt pid) s with ⟨_ | result,s'⟩
  · rfl
  · rfl

theorem execUntil_then_sync {ε : Type} {wrap : IoErrorKind → ε}
    {call : FileProgram ν (Except IoErrorKind Unit)} (s : Disk ν × List Fault) :
    ((Files.passOn wrap call >>= fun _ => Files.passOn wrap (Files.sync q)).run.execUntil
        (attempt pid) s).2.1 = (call.execUntil (attempt pid) s).2.1 ∧
      (((Files.passOn wrap call >>= fun _ => Files.passOn wrap (Files.sync q)).run.execUntil
        (attempt pid) s).1 = some (.ok ()) → (call.execUntil (attempt pid) s).1 = some (.ok ())) := by
  rw [execUntil_run_bind,execUntil_passOn]
  rcases call.execUntil (attempt pid) s with ⟨_ | e | ⟨⟩,s'⟩
  · exact ⟨rfl,fun h => (by cases h)⟩
  · exact ⟨rfl,fun h => (by cases h)⟩
  · refine ⟨?_,fun _ => rfl⟩
    simp only [Except.mapError]
    rw [execUntil_passOn,Files.sync,execUntil_perform]
    have hsync : (attempt pid (.sync q) s').2.1 = s'.1 := attempt_sync s'
    rcases hattempt : attempt pid (.sync q) s' with ⟨_ | _,s''⟩
    · rw [hattempt] at hsync
      exact hsync
    · rw [hattempt] at hsync
      exact hsync

theorem execUntil_syncs {ε : Type} {wrap : IoErrorKind → ε} (s : Disk ν × List Fault) :
    ((do
      Files.passOn wrap (Files.sync path)
      Files.passOn wrap (Files.sync q) : Fallible (FileOp ν) FileOp.Result ε Unit).run.execUntil
        (attempt pid) s).2.1 = s.1 := by
  refine execUntil_preserves (attempt pid) (fun s' => s'.1 = s.1) ?_ rfl
  refine uses_run_bind (Files.uses_passOn (uses_perform fun s' hs' => ?_)) fun _ =>
    Files.uses_passOn (uses_perform fun s' hs' => ?_)
  · exact (attempt_sync s').trans hs'
  · exact (attempt_sync s').trans hs'

theorem execUntil_create {ε : Type} {wrap : IoErrorKind → ε} (habsent : get path disk.root = none)
    (hparent : HasParent path disk.root) :
    ((do
      Files.passOn wrap (Files.createNew path)
      Files.passOn wrap (Files.append path bytes)
      Files.passOn wrap (Files.sync path)
      Files.passOn wrap (Files.sync q) : Fallible (FileOp ν) FileOp.Result ε Unit).run.execUntil
        (attempt pid) (disk,faults)).2.1 =
      match fate faults bytes with
      | none => disk
      | some content => disk.setRoot (put (some (.file content)) path disk.root) := by
  rw [execUntil_run_bind,execUntil_passOn,Files.createNew,execUntil_perform,
    attempt_createNew habsent hparent]
  unfold fate
  by_cases hopen : proceeds faults[0]? = true
  · have hwrite : (attempt pid (.append path bytes)
        (disk.setRoot (put (some (.file [])) path disk.root),faults.tail)).2.1 =
        disk.setRoot (put (some (.file (kept bytes faults[1]?))) path disk.root) := by
      rw [attempt_append hparent,List.getElem?_tail]
    rw [if_pos hopen,if_pos hopen]
    simp only [Except.mapError]
    rw [execUntil_run_bind,execUntil_passOn,Files.append,execUntil_perform]
    rcases hattempt : attempt pid (.append path bytes)
      (disk.setRoot (put (some (.file [])) path disk.root),faults.tail) with ⟨_ | e | ⟨⟩,s'⟩
    · rw [hattempt] at hwrite
      exact hwrite
    · rw [hattempt] at hwrite
      exact hwrite
    · rw [hattempt] at hwrite
      exact (execUntil_syncs s').trans hwrite
  · have hfailed : (attempt pid (.createNew path) (disk,faults)).1 ≠ some (.ok ()) := by
      rcases faults with _ | ⟨fault,faults⟩
      · exact absurd rfl hopen
      · cases fault with
        | proceed => exact absurd rfl hopen
        | _ => simp [attempt,FileOp.failure]
    rw [if_neg hopen,if_neg hopen]
    rcases hresult : (attempt pid (.createNew path) (disk,faults)).1 with _ | e | ⟨⟩
    · rfl
    · rfl
    · exact absurd hresult hfailed

theorem exec_create {ε : Type} {wrap : IoErrorKind → ε} (habsent : get path disk.root = none)
    (hparent : HasParent path disk.root)
    (hq : stat q (put (some (.file bytes)) path disk.root) = .ok node) :
    (do
      Files.passOn wrap (Files.createNew path)
      Files.passOn wrap (Files.append path bytes)
      Files.passOn wrap (Files.sync path)
      Files.passOn wrap (Files.sync q) : Fallible (FileOp ν) FileOp.Result ε Unit).run.exec
        (perform pid) disk = (.ok (),disk.setRoot (put (some (.file bytes)) path disk.root)) := by
  have hcreate : (Files.createNew path).exec (perform pid) disk =
      (.ok (),disk.setRoot (put (some (.file [])) path disk.root)) :=
    perform_createNew pid habsent hparent
  have happend : (Files.append path bytes).exec (perform pid)
      (disk.setRoot (put (some (.file [])) path disk.root)) =
        (.ok (),disk.setRoot (put (some (.file bytes)) path disk.root)) :=
    perform_append_new pid hparent bytes
  have hsync : ∀ p node, stat p (put (some (.file bytes)) path disk.root) = .ok node →
      (Files.sync p).exec (perform pid) (disk.setRoot (put (some (.file bytes)) path disk.root)) =
        (.ok (),disk.setRoot (put (some (.file bytes)) path disk.root)) := by
    intro p node hp
    change ((stat p _).map fun _ => (),_) = _
    rw [setRoot,hp]
    rfl
  rw [exec_passOn_bind hcreate,exec_passOn_bind happend,
    exec_passOn_bind (hsync path _ (stat_of_get (get_put_self _ hparent)))]
  exact exec_passOn_eq_ok.2 (hsync q _ hq)

theorem attempt_createDir_cases (pid : ℕ) (path : List ν) (s : Disk ν × List Fault) :
    ((attempt pid (.createDir path) s).2.1 = s.1 ∧
      (attempt pid (.createDir path) s).1 ≠ some (.ok ())) ∨
    (HasParent path s.1.root ∧ get path s.1.root = none ∧
      (attempt pid (.createDir path) s).2.1 =
        s.1.setRoot (put (some (.directory [])) path s.1.root)) := by
  rcases attempt_cases pid (.createDir path) s with
    ⟨hresult,hdisk⟩ | ⟨hresult | hresult,hdisk | ⟨count,hdisk⟩⟩
  · rcases exec_createDir_cases pid path s.1 with
      ⟨hparent,habsent,hexec⟩ | ⟨node,-,hexec⟩ | ⟨e,-,hexec⟩
    · have hperform : perform pid (.createDir path) s.1 = _ := hexec
      rw [hdisk,hperform]
      exact Or.inr ⟨hparent,habsent,rfl⟩
    all_goals
      have hperform : perform pid (.createDir path) s.1 = _ := hexec
      rw [hresult,hdisk,hperform]
      exact Or.inl ⟨rfl,by simp⟩
  all_goals
    rw [hresult,hdisk]
    exact Or.inl ⟨rfl,by simp [FileOp.failure]⟩

theorem attempt_rename_cases (pid : ℕ) (source target : List ν) (s : Disk ν × List Fault) :
    (attempt pid (.rename source target) s).2.1 = s.1 ∨
      (attempt pid (.rename source target) s).2.1 = (s.1.move source target).2 := by
  rcases attempt_cases pid (.rename source target) s with ⟨-,hdisk⟩ | ⟨-,hdisk | ⟨count,hdisk⟩⟩
  · exact Or.inr hdisk
  · exact Or.inl hdisk
  · exact Or.inl hdisk

theorem get_move {p : List ν} {a b : ν} (hsource : get (p++[a]) disk.root = some node)
    (htarget : get (p++[b]) disk.root = none) :
    get (p++[a]) (disk.move (p++[a]) (p++[b])).2.root = none ∧
      get (p++[b]) (disk.move (p++[a]) (p++[b])).2.root = some node := by
  have hdir : IsDirectory (get p disk.root) := isDirectory_of_get_append hsource (by simp)
  have hne : a ≠ b := by
    rintro rfl
    rw [hsource] at htarget
    cases htarget
  have hapart : ∀ {x y : ν}, x ≠ y → ¬ p++[x] <+: p++[y] := by
    intro x y hxy hbegin
    have hsame : p++[x] = p++[y] := hbegin.eq_of_length (by simp)
    simp [hxy] at hsame
  have hremoved : IsDirectory (get p (put none (p++[a]) disk.root)) := by
    refine isDirectory_get_put none (fun h => ?_) hdir
    have hlength := h.length_le
    rw [List.length_append,List.length_singleton] at hlength
    omega
  rw [move,stat_of_get hsource]
  simp only [if_neg (hapart hne),reach_eq_ok.2 ⟨hasParent_append_singleton.2 hdir,htarget⟩,renameOver,
    setRoot]
  constructor
  · rw [get_put_of_disjoint _ (hapart hne.symm) (hapart hne)]
    exact get_put_self none (hasParent_append_singleton.2 hdir)
  · exact get_put_self _ (hasParent_append_singleton.2 hremoved)

theorem execUntil_create_present {ε : Type} {wrap : IoErrorKind → ε}
    {rest : Unit → Fallible (FileOp ν) FileOp.Result ε Unit}
    (h : get path disk.root = some node) :
    ((Files.passOn wrap (Files.createNew path) >>= rest).run.execUntil
        (attempt pid) (disk,faults)).2.1 = disk := by
  obtain ⟨hdisk,hfailed⟩ : (attempt pid (.createNew path) (disk,faults)).2.1 = disk ∧
      (attempt pid (.createNew path) (disk,faults)).1 ≠ some (.ok ()) := attempt_createNew_present h
  rw [execUntil_run_bind,execUntil_passOn,Files.createNew,execUntil_perform]
  rcases hattempt : attempt pid (.createNew path) (disk,faults) with ⟨_ | e | ⟨⟩,s'⟩
  · rw [hattempt] at hdisk
    exact hdisk
  · rw [hattempt] at hdisk
    exact hdisk
  · rw [hattempt] at hfailed
    exact absurd rfl hfailed

end Fate

end Disk
end CommitCiPreflight
