import CommitCiPreflight.FileFaults

/-! Programs under mishaps of any kind: every call may fail instead of being carried out, a
write may stop halfway, and the process may be killed at any call. -/
namespace CommitCiPreflight

namespace Program

variable {Op : Type} {Result : Op → Type} {σ α β ε : Type}

/-- A call of a run: the state it met, and its answer unless the process was killed. -/
structure Step (σ Op : Type) (Result : Op → Type) where
  state : σ
  op : Op
  answer : Option (Result op)

section Always

variable (answers : (op : Op) → σ → Result op → σ → Prop) (dies : Op → σ → σ → Prop)

/-- However the calls are answered, and wherever the process is killed: what holds of the steps,
of the value, which is missing after a kill, and of the state at the end. -/
def Always : Program Op Result α → σ → (List (Step σ Op Result) → Option α → σ → Prop) → Prop
  | .done a, s, Q => Q [] (some a) s
  | .call op next, s, Q =>
    (∀ s', dies op s s' → Q [⟨s,op,none⟩] none s') ∧
      ∀ result s', answers op s result s' →
        (next result).Always s' fun steps => Q (⟨s,op,some result⟩::steps)

variable {answers dies} {Q Q' : List (Step σ Op Result) → Option α → σ → Prop} {s : σ}
  {p : Program Op Result α}

theorem Always.mono (h : p.Always answers dies s Q)
    (hQ : ∀ steps value s', Q steps value s' → Q' steps value s') : p.Always answers dies s Q' := by
  induction p generalizing s Q Q' with
  | done a => exact hQ _ _ _ h
  | call op next ih =>
    refine ⟨fun s' hdies => hQ _ _ _ (h.1 s' hdies),fun result s' hanswer => ?_⟩
    exact ih result (h.2 result s' hanswer) fun steps value s' => hQ _ value s'

theorem Always.and (h : p.Always answers dies s Q) (h' : p.Always answers dies s Q') :
    p.Always answers dies s fun steps value s' => Q steps value s' ∧ Q' steps value s' := by
  induction p generalizing s Q Q' with
  | done a => exact ⟨h,h'⟩
  | call op next ih =>
    refine ⟨fun s' hdies => ⟨h.1 s' hdies,h'.1 s' hdies⟩,fun result s' hanswer => ?_⟩
    exact ih result (h.2 result s' hanswer) (h'.2 result s' hanswer)

/-- Among the runs is the one in which every call is carried out. -/
theorem Always.exec {perform : (op : Op) → σ → Result op × σ} (h : p.Always answers dies s Q)
    (hperform : ∀ op s, answers op s (perform op s).1 (perform op s).2) :
    ∃ steps, Q steps (some (p.exec perform s).1) (p.exec perform s).2 := by
  induction p generalizing s Q with
  | done a => exact ⟨[],h⟩
  | call op next ih =>
    obtain ⟨steps,hsteps⟩ := ih _ (h.2 _ _ (hperform op s))
    exact ⟨_,hsteps⟩

end Always

end Program

variable {ν : Type}

def FileOp.refusal (e : IoErrorKind) : (op : FileOp ν) → Option op.Result
  | .metadata _ => some (.error e)
  | .readFile _ => some (.error e)
  | .readLink _ => some (.error e)
  | .readDir _ => some (.error e)
  | .readTree _ => some (.error e)
  | .createDir _ => some (.error e)
  | .createNew _ => some (.error e)
  | .openCreate _ => some (.error e)
  | .truncate _ => some (.error e)
  | .append _ _ => some (.error e)
  | .createSymlink _ _ => some (.error e)
  | .sync _ => some (.error e)
  | .rename _ _ => some (.error e)
  | .removeFile _ => some (.error e)
  | .removeDir _ => some (.error e)
  | .tryLock _ => some (.error e)
  | .unlock _ => none
  | .fetchAdd _ => none

namespace Disk

variable [LinearOrder ν]

open FileTree Program

/-- A call is carried out, or fails with any error, a write perhaps after some bytes. -/
def Answers (pid : ℕ) (op : FileOp ν) (disk : Disk ν) (result : op.Result) (disk' : Disk ν) : Prop :=
  perform pid op disk = (result,disk') ∨
    ∃ e, op.refusal e = some result ∧ (disk' = disk ∨ ∃ count, disk' = disk.partly pid count op)

/-- The process is killed before, during or after a call. -/
def Dies (pid : ℕ) (op : FileOp ν) (disk disk' : Disk ν) : Prop :=
  disk' = disk ∨ disk' = (perform pid op disk).2 ∨ ∃ count, disk' = disk.partly pid count op

/-- A program on a disk, under mishaps. -/
abbrev Always {α : Type} (pid : ℕ) (p : FileProgram ν α) (disk : Disk ν)
    (Q : List (Step (Disk ν) (FileOp ν) FileOp.Result) → Option α → Disk ν → Prop) : Prop :=
  p.Always (Answers pid) (Dies pid) disk Q

section Rules

variable {pid : ℕ} {disk : Disk ν} {path source target : List ν}

variable {Q : List (Step (Disk ν) (FileOp ν) FileOp.Result) → Option (Except IoErrorKind Unit) →
  Disk ν → Prop}

end Rules

end Disk

end CommitCiPreflight
