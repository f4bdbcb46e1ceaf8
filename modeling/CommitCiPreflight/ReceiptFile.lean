import CommitCiPreflight.Staging
import CommitCiPreflight.TemporaryFile
import CommitCiPreflight.WorkspaceSpec

/-! `write_canonical_receipt_bytes_atomic` of `run.rs`: a receipt is written beside its place and
renamed into it. -/
namespace CommitCiPreflight

open Program FileTree
open Files (passOn)

/-- The variants of `RunError` that the writer returns. -/
inductive ReceiptFileError
  | io (error : IoErrorKind)
  | unsafeReceiptPath
  deriving DecidableEq

/-- What may become of a place: it stays as it is, a directory stays one, and a missing one may be
created where that is allowed. -/
def Grown (inside : Prop) (before after : Option (FileTree OsString)) : Prop :=
  after = before ∨ (IsDirectory before ∧ IsDirectory after) ∨
    (inside ∧ before = none ∧ IsDirectory after)

theorem Grown.trans {inside inside' : Prop} {x y z : Option (FileTree OsString)}
    (h : Grown inside x y) (h' : Grown inside' y z) (himp : inside' → inside) : Grown inside x z := by
  rcases h' with rfl | ⟨hy,hz⟩ | ⟨hinside,rfl,hz⟩
  · exact h
  · rcases h with rfl | ⟨hx,-⟩ | ⟨hinside,hx,-⟩
    · exact Or.inr (Or.inl ⟨hy,hz⟩)
    · exact Or.inr (Or.inl ⟨hx,hz⟩)
    · exact Or.inr (Or.inr ⟨hinside,hx,hz⟩)
  · rcases h with rfl | ⟨-,hnone⟩ | ⟨-,-,hnone⟩
    · exact Or.inr (Or.inr ⟨himp hinside,rfl,hz⟩)
    all_goals simp [IsDirectory] at hnone

/-- A disk on which directories were created below a base, on the way to a path. -/
structure Chained (base path : HostPath) (before after : Disk OsString) : Prop where
  frame : ∀ q, ¬ q <+: path → get q after.root = get q before.root
  above : ∀ q, q <+: path → Grown (StrictlyAbove base q) (get q before.root) (get q after.root)
  counters : after.counters = before.counters

theorem Chained.refl (base path : HostPath) (disk : Disk OsString) : Chained base path disk disk :=
  ⟨fun _ _ => rfl,fun _ _ => Or.inl rfl,rfl⟩

theorem Chained.trans {base path : HostPath} {names : List OsString} {d d₁ d₂ : Disk OsString}
    (h : Chained base path d d₁) (h' : Chained path (path++names) d₁ d₂) (hbase : base <+: path) :
    Chained base (path++names) d d₂ := by
  have hbelow : ∀ q, q <+: path → q <+: path++names := fun q hq => hq.trans (List.prefix_append _ _)
  refine ⟨fun q hq => ?_,fun q hq => ?_,h'.counters.trans h.counters⟩
  · exact (h'.frame q hq).trans (h.frame q fun hp => hq (hbelow q hp))
  · have hinside : StrictlyAbove path q → StrictlyAbove base q := by
      rintro ⟨hpq,hne⟩
      refine ⟨hbase.trans hpq,?_⟩
      rintro rfl
      exact hne (hpq.eq_of_length_le hbase.length_le)
    by_cases hp : q <+: path
    · exact (h.above q hp).trans (h'.above q hq) hinside
    · have hsame := h'.above q hq
      rw [h.frame q hp] at hsame
      rcases hsame with hsame | hsame | ⟨hpq,hsame⟩
      · exact Or.inl hsame
      · exact Or.inr (Or.inl hsame)
      · exact Or.inr (Or.inr ⟨hinside hpq,hsame⟩)

/-- What a step writes is below the base, and everything above it is a directory: no link is
followed. -/
def Plain (base : HostPath) (step : FileStep) : Prop :=
  ∀ path ∈ step.op.writes, StrictlyAbove base path ∧
    ∀ q, StrictlyAbove q path → IsDirectory (get q step.state.root)

section Chain

variable {pid : ℕ} {disk : Disk OsString} {base current : HostPath} {name : OsString}

end Chain

/-- What the four calls leave: nothing, some of the temporary file, or the receipt in its place. -/
inductive Written (target temporary : HostPath) (bytes : Bytes) (disk : Disk OsString) :
    Option (Except ReceiptFileError Unit) → Disk OsString → Prop
  | kept {value : Option (Except ReceiptFileError Unit)} (h : value ≠ some (.ok ())) :
    Written target temporary bytes disk value disk
  | started {value : Option (Except ReceiptFileError Unit)} (content : Bytes)
    (h : value ≠ some (.ok ())) (habsent : get temporary disk.root = none)
    (hparent : HasParent temporary disk.root) :
    Written target temporary bytes disk value
      (disk.setRoot (put (some (.file content)) temporary disk.root))
  | replaced {value : Option (Except ReceiptFileError Unit)}
    (h : value = none ∨ value = some (.ok ())) (habsent : get temporary disk.root = none)
    (hparent : HasParent temporary disk.root) (htarget : ¬ IsDirectory (get target disk.root)) :
    Written target temporary bytes disk value
      (disk.setRoot (put (some (.file bytes)) target
        (put none temporary (put (some (.file bytes)) temporary disk.root))))

section Publish

variable {pid : ℕ} {disk : Disk OsString} {followed : Bool} {target temporary : HostPath}
  {bytes : Bytes}

variable {value : Option (Except ReceiptFileError Unit)} {disk₁ disk₂ : Disk OsString}
  {base parent : HostPath} {name tmp : OsString}

/-- A temporary path that no file is removed from: it is free, or a directory. -/
def Safe (parent : HostPath) (name tmp : OsString) (disk : Disk OsString) : Prop :=
  IsDirectory (get (parent++[tmp]) disk.root) ∨ get (parent++[tmp]) disk.root = none ∧ tmp ≠ name

theorem Safe.foreign {value' : Option Unit} {steps : List FileStep} (h : Safe parent name tmp disk)
    (hwritten : Written (parent++[name]) (parent++[tmp]) bytes disk value disk₁)
    (hdiscarded : Discarded (parent++[tmp]) disk₁ steps value' disk₂) {node : FileTree OsString}
    (hnode : get (parent++[tmp]) disk.root = some node) :
    get (parent++[tmp]) disk₂.root = some node := by
  suffices hdisk : disk₂ = disk by rw [hdisk,hnode]
  rcases h with hdirectory | ⟨habsent,-⟩
  case inr => cases habsent.symm.trans hnode
  cases hwritten with
  | kept _ =>
    cases hdiscarded with
    | removed _ hnode hfile => exact absurd (hnode ▸ hdirectory) hfile
    | _ => rfl
  | started _ _ habsent => cases habsent.symm.trans hnode
  | replaced _ habsent => cases habsent.symm.trans hnode

end Publish

section Call

variable {pid : ℕ} {disk : Disk OsString} {followed : Bool} {root above : HostPath}
  {name : OsString} {output : String} {bytes : Bytes}

variable {tmp : OsString} {disk₁ disk₂ disk₃ : Disk OsString}
  {steps steps' : List FileStep} {value : Option (Except ReceiptFileError HostPath)}

theorem Chained.way (hchained : Chained root (root++above) disk disk₁)
    (hdir : IsDirectory (get (root++above) disk₁.root)) {q : HostPath} {node : FileTree OsString}
    (hq : StrictlyAbove q (root++above++[name])) (hnode : get q disk.root = some node) :
    IsDirectory (some node) := by
  have hbelow := (List.prefix_concat_iff.1 hq.1).resolve_left hq.2
  have hafter := Disk.isDirectory_above hbelow hdir
  rcases hchained.above q hbelow with hsame | ⟨hbefore,-⟩ | ⟨-,hnone,-⟩
  · rwa [hsame,hnode] at hafter
  · rwa [hnode] at hbefore
  · rw [hnode] at hnone
    cases hnone

section Exec

variable {path target : HostPath} {node : FileTree OsString}

variable (hparent : HasParent path disk.root) (habsent : get path disk.root = none)
include hparent habsent

end Exec

end Call

end CommitCiPreflight
