import CommitCiPreflight.Mishap
import CommitCiPreflight.Mounts

/-! A temporary file beside its target, and its removal under mishaps. -/
namespace CommitCiPreflight

open Program FileTree

abbrev FileStep := Step (Disk OsString) (FileOp OsString) FileOp.Result

/-- The removal of the temporary file, which is there, failed. -/
def RemovalFailed (temporary : HostPath) (steps : List FileStep) : Prop :=
  ∃ (disk : Disk OsString) (e : IoErrorKind), get temporary disk.root ≠ none ∧
    ⟨disk,.removeFile temporary,some (.error e)⟩ ∈ steps

/-- A look at the temporary file, which is there, failed. -/
def Unseen (temporary : HostPath) (steps : List FileStep) : Prop :=
  ∃ (disk : Disk OsString) (e : IoErrorKind), get temporary disk.root ≠ none ∧
    ⟨disk,.metadata temporary,some (.error e)⟩ ∈ steps

section

variable {temporary : HostPath} {steps steps' : List FileStep}

theorem RemovalFailed.append (h : RemovalFailed temporary steps') :
    RemovalFailed temporary (steps++steps') := by
  obtain ⟨disk,e,hthere,hstep⟩ := h
  exact ⟨disk,e,hthere,List.mem_append_right _ hstep⟩

theorem Unseen.append (h : Unseen temporary steps') : Unseen temporary (steps++steps') := by
  obtain ⟨disk,e,hthere,hstep⟩ := h
  exact ⟨disk,e,hthere,List.mem_append_right _ hstep⟩

end

section

variable {pid : ℕ} {disk disk₁ disk₂ : Disk OsString} {followed : Bool} {temporary parent : HostPath}
  {name tmp : OsString}

inductive Discarded (temporary : HostPath) (disk : Disk OsString) :
    List FileStep → Option Unit → Disk OsString → Prop
  | killed {steps : List FileStep} : Discarded temporary disk steps none disk
  | absent {steps : List FileStep} (h : get temporary disk.root = none) :
    Discarded temporary disk steps (some ()) disk
  | link {steps : List FileStep} (l : List UInt8) (h : get temporary disk.root = some (.symlink l)) :
    Discarded temporary disk steps (some ()) disk
  | failed {steps : List FileStep} (h : RemovalFailed temporary steps) :
    Discarded temporary disk steps (some ()) disk
  | unseen {steps : List FileStep} (h : Unseen temporary steps) :
    Discarded temporary disk steps (some ()) disk
  | removed {steps : List FileStep} {value : Option Unit} (node : FileTree OsString)
    (h : get temporary disk.root = some node) (hfile : ¬ IsDirectory (some node)) :
    Discarded temporary disk steps value (disk.setRoot (put none temporary disk.root))

end

end CommitCiPreflight
