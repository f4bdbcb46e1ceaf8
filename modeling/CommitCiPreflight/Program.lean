import Mathlib.Data.List.Basic

/-! Programs that call their environment. A program is the tree of its calls, so that a
statement over its runs is a statement over every way the environment may answer. -/
namespace CommitCiPreflight

theorem except_bind_eq_ok {ε α β : Type} {x : Except ε α} {f : α → Except ε β} {b : β} :
    (x >>= f) = .ok b ↔ ∃ a, x = .ok a ∧ f a = .ok b := by
  cases x with
  | error e =>
    change Except.error e = Except.ok b ↔ _
    simp
  | ok a =>
    change f a = .ok b ↔ _
    simp

/-- `if c { return Err(e); }` before the rest. -/
theorem except_guard_eq_ok {ε α β : Type} {c : Prop} [Decidable c] {e : ε} {f : α → Except ε β}
    {x : Except ε β} {b : β} : (if c then (.error e >>= f) else x) = .ok b ↔ ¬ c ∧ x = .ok b := by
  by_cases hc : c
  · simp [hc,except_bind_eq_ok]
  · simp [hc]

theorem forM_eq_ok_iff {ε α : Type} {f : α → Except ε Unit} {as : List α} :
    as.forM f = .ok () ↔ ∀ a ∈ as, f a = .ok () := by
  induction as with
  | nil => exact ⟨fun _ => by simp,fun _ => rfl⟩
  | cons a as ih =>
    change (f a >>= fun _ => as.forM f) = .ok () ↔ _
    rw [except_bind_eq_ok,List.forall_mem_cons]
    exact ⟨fun ⟨_,hfirst,hrest⟩ => ⟨hfirst,ih.1 hrest⟩,fun ⟨hfirst,hrest⟩ => ⟨_,hfirst,ih.2 hrest⟩⟩

/-- A program returns, or performs an operation and continues with its result. -/
inductive Program (Op : Type) (Result : Op → Type) (α : Type)
  | done (value : α)
  | call (op : Op) (next : Result op → Program Op Result α)

namespace Program

variable {Op : Type} {Result : Op → Type} {α β ε : Type}

def bind : Program Op Result α → (α → Program Op Result β) → Program Op Result β
  | .done value, f => f value
  | .call op next, f => .call op fun result => (next result).bind f

instance : Monad (Program Op Result) where
  pure := .done
  bind := bind

theorem done_bind (a : α) (f : α → Program Op Result β) :
    ((.done a : Program Op Result α) >>= f) = f a := rfl

theorem call_bind (op : Op) (next : Result op → Program Op Result α)
    (f : α → Program Op Result β) :
    (.call op next >>= f) = .call op fun result => next result >>= f := rfl

instance : LawfulMonad (Program Op Result) :=
  LawfulMonad.mk' _
    (fun x => by
      induction x with
      | done a => rfl
      | call op next ih => exact congrArg (Program.call op) (funext ih))
    (fun _ _ => rfl)
    (fun x f g => by
      induction x with
      | done a => rfl
      | call op next ih => exact congrArg (Program.call op) (funext ih))

def perform (op : Op) : Program Op Result (Result op) := .call op .done

/-- A fallible program: a failed call ends it, as the `?` operator does. -/
abbrev Fallible (Op : Type) (Result : Op → Type) (ε α : Type) := ExceptT ε (Program Op Result) α

/-- A call whose error the caller handles itself. -/
def attempt (x : Fallible Op Result ε α) : Fallible Op Result ε (Except ε α) :=
  ExceptT.lift x.run

def ofExcept (x : Except ε α) : Fallible Op Result ε α := ExceptT.mk (.done x)

def ensure (c : Prop) [Decidable c] (e : ε) : Fallible Op Result ε Unit :=
  if c then pure () else throw e

abbrev Event (Op : Type) (Result : Op → Type) := Σ op, Result op

inductive Runs : Program Op Result α → List (Event Op Result) → α → Prop
  | done (a : α) : Runs (.done a) [] a
  | call {op : Op} {next : Result op → Program Op Result α} {result : Result op}
      {trace : List (Event Op Result)} {a : α} (run : Runs (next result) trace a) :
      Runs (.call op next) (⟨op,result⟩::trace) a

section Runs

variable {p : Program Op Result α} {f : α → Program Op Result β} {x : Fallible Op Result ε α}
  {trace : List (Event Op Result)} {g : α → Fallible Op Result ε β} {outcome : Except ε β}

theorem runs_done {a b : α} :
    Runs (.done a : Program Op Result α) trace b ↔ trace = [] ∧ b = a := by
  constructor
  · rintro ⟨⟩
    exact ⟨rfl,rfl⟩
  · rintro ⟨rfl,rfl⟩
    exact .done b

theorem runs_call {op : Op} {next : Result op → Program Op Result α} {a : α} :
    Runs (.call op next) trace a ↔
      ∃ result rest, trace = ⟨op,result⟩::rest ∧ Runs (next result) rest a := by
  constructor
  · rintro ⟨⟩
    exact ⟨_,_,rfl,‹_›⟩
  · rintro ⟨result,rest,rfl,h⟩
    exact .call h

/-- A run of a sequence is a run of its first part followed by a run of the rest. -/
theorem runs_bind {b : β} :
    Runs (p >>= f) trace b ↔
      ∃ a first rest, trace = first++rest ∧ Runs p first a ∧ Runs (f a) rest b := by
  induction p generalizing trace with
  | done a =>
    rw [done_bind]
    constructor
    · intro h
      exact ⟨a,[],trace,rfl,.done a,h⟩
    · rintro ⟨c,first,rest,rfl,hfirst,hrest⟩
      obtain ⟨rfl,rfl⟩ := runs_done.1 hfirst
      exact hrest
  | call op next ih =>
    rw [call_bind,runs_call]
    constructor
    · rintro ⟨result,tail,rfl,h⟩
      obtain ⟨a,first,rest,rfl,hfirst,hrest⟩ := (ih result).1 h
      exact ⟨a,⟨op,result⟩::first,rest,rfl,.call hfirst,hrest⟩
    · rintro ⟨a,first,rest,rfl,hfirst,hrest⟩
      obtain ⟨result,tail,rfl,h⟩ := runs_call.1 hfirst
      exact ⟨result,tail++rest,rfl,(ih result).2 ⟨a,tail,rest,rfl,h,hrest⟩⟩

theorem runs_perform {op : Op} {result : Result op} :
    Runs (perform op : Program Op Result (Result op)) trace result ↔ trace = [⟨op,result⟩] := by
  rw [perform,runs_call]
  constructor
  · rintro ⟨r,rest,rfl,h⟩
    obtain ⟨rfl,rfl⟩ := runs_done.1 h
    rfl
  · rintro rfl
    exact ⟨result,[],rfl,.done result⟩

theorem runs_run_bind :
    Runs (x >>= g).run trace outcome ↔
      (∃ e, outcome = .error e ∧ Runs x.run trace (.error e)) ∨
      ∃ a first rest, trace = first++rest ∧ Runs x.run first (.ok a) ∧
        Runs (g a).run rest outcome := by
  rw [ExceptT.run_bind,runs_bind]
  constructor
  · rintro ⟨a | a,first,rest,rfl,hfirst,hrest⟩
    · obtain ⟨rfl,rfl⟩ := runs_done.1 hrest
      exact Or.inl ⟨a,rfl,by simpa using hfirst⟩
    · exact Or.inr ⟨a,first,rest,rfl,hfirst,hrest⟩
  · rintro (⟨e,rfl,h⟩ | ⟨a,first,rest,rfl,hfirst,hrest⟩)
    · exact ⟨.error e,trace,[],(List.append_nil _).symm,h,.done _⟩
    · exact ⟨.ok a,first,rest,rfl,hfirst,hrest⟩

theorem runs_lift_bind :
    Runs (ExceptT.lift p >>= g).run trace outcome ↔
      ∃ a first rest, trace = first++rest ∧ Runs p first a ∧ Runs (g a).run rest outcome := by
  change Runs ((p >>= fun a => .done (Except.ok a)) >>= ExceptT.bindCont g) trace outcome ↔ _
  rw [runs_bind]
  constructor
  · rintro ⟨a,first,rest,rfl,hfirst,hrest⟩
    obtain ⟨b,head,tail,rfl,hhead,htail⟩ := runs_bind.1 hfirst
    obtain ⟨rfl,rfl⟩ := runs_done.1 htail
    exact ⟨b,head,rest,by simp,hhead,hrest⟩
  · rintro ⟨a,first,rest,rfl,hfirst,hrest⟩
    exact ⟨.ok a,first,rest,rfl,runs_bind.2 ⟨a,first,[],by simp,hfirst,.done _⟩,hrest⟩

theorem runs_pure {a : α} {outcome : Except ε α} :
    Runs (pure a : Fallible Op Result ε α).run trace outcome ↔ trace = [] ∧ outcome = .ok a :=
  runs_done

theorem runs_throw {e : ε} {outcome : Except ε α} :
    Runs (throw e : Fallible Op Result ε α).run trace outcome ↔ trace = [] ∧ outcome = .error e :=
  runs_done

theorem runs_ofExcept {y : Except ε α} :
    Runs (ofExcept y >>= g).run trace outcome ↔
      (∃ e, y = .error e ∧ trace = [] ∧ outcome = .error e) ∨
      ∃ a, y = .ok a ∧ Runs (g a).run trace outcome := by
  cases y with
  | error e =>
    change Runs (.done (.error e)) trace outcome ↔ _
    simp [runs_done]
  | ok a =>
    change Runs (g a).run trace outcome ↔ _
    simp

end Runs

/-- Whatever `Q` holds of comes after something that `P` holds of. -/
def Precedes {E : Type} (P Q : E → Prop) (trace : List E) : Prop :=
  ∀ before event after, trace = before++event::after → Q event → ∃ earlier ∈ before, P earlier

section Precedes

variable {E : Type} {P Q : E → Prop}

@[simp] theorem precedes_nil : Precedes P Q ([] : List E) := by
  intro before event after h
  simp at h

@[simp] theorem precedes_cons {event : E} {trace : List E} :
    Precedes P Q (event::trace) ↔ ¬ Q event ∧ (P event ∨ Precedes P Q trace) := by
  constructor
  · intro h
    refine ⟨fun hq => ?_,?_⟩
    · obtain ⟨_,hmem,-⟩ := h [] event trace rfl hq
      simp at hmem
    · by_cases hp : P event
      · exact Or.inl hp
      · right
        intro before later after htrace hq
        obtain ⟨earlier,hmem,hearlier⟩ := h (event::before) later after (by simp [htrace]) hq
        rcases List.mem_cons.1 hmem with rfl | hmem
        · exact absurd hearlier hp
        · exact ⟨earlier,hmem,hearlier⟩
  · rintro ⟨hq,h⟩ before later after htrace hlater
    cases before with
    | nil =>
      obtain ⟨rfl,-⟩ := List.cons.inj htrace
      exact absurd hlater hq
    | cons first before =>
      obtain ⟨rfl,htail⟩ := List.cons.inj htrace
      rcases h with hp | h
      · exact ⟨event,List.mem_cons_self,hp⟩
      · obtain ⟨earlier,hmem,hearlier⟩ := h before later after htail hlater
        exact ⟨earlier,List.mem_cons_of_mem _ hmem,hearlier⟩

end Precedes

section Under

variable (answer : (op : Op) → Result op) {x : Fallible Op Result ε α}
  {g : α → Fallible Op Result ε β}

def under : Program Op Result α → List (Event Op Result) × α
  | .done a => ([],a)
  | .call op next =>
    (⟨op,answer op⟩::((next (answer op)).under).1,((next (answer op)).under).2)

theorem under_bind (p : Program Op Result α) (f : α → Program Op Result β) :
    (p >>= f).under answer =
      ((p.under answer).1++((f (p.under answer).2).under answer).1,
        ((f (p.under answer).2).under answer).2) := by
  induction p with
  | done a => rfl
  | call op next ih =>
    rw [call_bind,under,ih]
    rfl

theorem under_run_bind_ok {a : α} (h : (x.run.under answer).2 = .ok a) :
    (x >>= g).run.under answer =
      ((x.run.under answer).1++((g a).run.under answer).1,((g a).run.under answer).2) := by
  rw [ExceptT.run_bind,under_bind,h]

theorem under_run_bind_error {e : ε} (h : (x.run.under answer).2 = .error e) :
    (x >>= g).run.under answer = ((x.run.under answer).1,.error e) := by
  rw [ExceptT.run_bind,under_bind,h]
  exact congrArg (·,Except.error e) (List.append_nil _)

theorem under_lift_bind (p : Program Op Result α) (g : α → Fallible Op Result ε β) :
    (ExceptT.lift p >>= g).run.under answer =
      ((p.under answer).1++((g (p.under answer).2).run.under answer).1,
        ((g (p.under answer).2).run.under answer).2) := by
  change ((p >>= fun a => .done (Except.ok a)) >>= ExceptT.bindCont g).under answer = _
  rw [under_bind,under_bind]
  simp [under,ExceptT.bindCont,ExceptT.run]

theorem runs_under (p : Program Op Result α) : Runs p (p.under answer).1 (p.under answer).2 := by
  induction p with
  | done a => exact .done a
  | call op next ih => exact .call (ih _)

end Under

/-- Every operation the program may perform is allowed. -/
inductive Uses (allowed : Op → Prop) : Program Op Result α → Prop
  | done (a : α) : Uses allowed (.done a)
  | call {op : Op} {next : Result op → Program Op Result α} (head : allowed op)
      (tail : ∀ result, Uses allowed (next result)) : Uses allowed (.call op next)

section Uses

variable {allowed : Op → Prop} {p : Program Op Result α} {x : Fallible Op Result ε α}

theorem uses_bind {f : α → Program Op Result β} (hp : p.Uses allowed)
    (hf : ∀ a, (f a).Uses allowed) : (p >>= f).Uses allowed := by
  induction hp with
  | done a => exact hf a
  | call head _ ih => exact .call head ih

theorem uses_mono {allowed' : Op → Prop} (hp : p.Uses allowed)
    (h : ∀ op, allowed op → allowed' op) : p.Uses allowed' := by
  induction hp with
  | done a => exact .done a
  | call head _ ih => exact .call (h _ head) ih

theorem uses_run_bind {g : α → Fallible Op Result ε β} (hx : x.run.Uses allowed)
    (hg : ∀ a, (g a).run.Uses allowed) : (x >>= g).run.Uses allowed := by
  rw [ExceptT.run_bind]
  refine uses_bind hx fun outcome => ?_
  cases outcome with
  | error e => exact .done _
  | ok a => exact hg a

theorem uses_attempt (hx : x.run.Uses allowed) : (attempt x).run.Uses allowed :=
  uses_bind hx fun _ => .done _

theorem uses_perform {op : Op} (h : allowed op) :
    (perform op : Program Op Result (Result op)).Uses allowed :=
  .call h fun _ => .done _

theorem uses_lift (hp : p.Uses allowed) : (liftM p : Fallible Op Result ε α).run.Uses allowed :=
  uses_bind hp fun _ => .done _

theorem uses_ensure {c : Prop} [Decidable c] {e : ε} :
    (ensure c e : Fallible Op Result ε Unit).run.Uses allowed := by
  unfold ensure
  split <;> exact .done _

theorem uses_forM {f : α → Fallible Op Result ε Unit} {as : List α}
    (h : ∀ a ∈ as, (f a).run.Uses allowed) : (as.forM f).run.Uses allowed := by
  induction as with
  | nil => exact .done _
  | cons a as ih =>
    change (f a >>= fun _ => as.forM f).run.Uses allowed
    exact uses_run_bind (h a List.mem_cons_self)
      fun _ => ih fun b hb => h b (List.mem_cons_of_mem _ hb)

theorem uses_foldlM {f : β → α → Fallible Op Result ε β} {as : List α} {b : β}
    (h : ∀ b, ∀ a ∈ as, (f b a).run.Uses allowed) : (as.foldlM f b).run.Uses allowed := by
  induction as generalizing b with
  | nil => exact .done _
  | cons a as ih =>
    rw [List.foldlM_cons]
    exact uses_run_bind (h b a List.mem_cons_self)
      fun _ => ih fun b c hc => h b c (List.mem_cons_of_mem _ hc)

theorem Runs.uses {trace : List (Event Op Result)} {a : α} (h : Runs p trace a)
    (hp : p.Uses allowed) : ∀ event ∈ trace, allowed event.1 := by
  induction h with
  | done a => simp
  | call _ ih =>
    cases hp with
    | call head tail => exact List.forall_mem_cons.2 ⟨head,ih (tail _)⟩

end Uses

/-- Every value the program may return satisfies the predicate. -/
inductive Returns (Q : α → Prop) : Program Op Result α → Prop
  | done {a : α} (value : Q a) : Returns Q (.done a)
  | call {op : Op} {next : Result op → Program Op Result α}
      (tail : ∀ result, Returns Q (next result)) : Returns Q (.call op next)

/-- Every value the program may succeed with satisfies the predicate. -/
def Yields (Q : α → Prop) (x : Fallible Op Result ε α) : Prop :=
  x.run.Returns fun outcome => ∀ a, outcome = .ok a → Q a

section Returns

variable {allowed : Op → Prop} {P : α → Prop} {Q : β → Prop} {x : Fallible Op Result ε α}
  {f : α → Program Op Result β} {g : α → Fallible Op Result ε β}

theorem returns_true (p : Program Op Result α) (h : ∀ a, P a) : p.Returns P := by
  induction p with
  | done a => exact .done (h a)
  | call op next ih => exact .call ih

theorem returns_bind {p : Program Op Result α} (hp : p.Returns P)
    (hf : ∀ a, P a → (f a).Returns Q) : (p >>= f).Returns Q := by
  induction hp with
  | done value => exact hf _ value
  | call _ ih => exact .call ih

theorem yields_bind (hx : Yields P x) (hg : ∀ a, P a → Yields Q (g a)) :
    Yields Q (x >>= g) := by
  rw [Yields,ExceptT.run_bind]
  refine returns_bind hx fun outcome houtcome => ?_
  cases outcome with
  | error e => exact .done (by simp)
  | ok a => exact hg a (houtcome a rfl)

theorem yields_then (hg : ∀ a, Yields Q (g a)) : Yields Q (x >>= g) :=
  yields_bind (returns_true _ fun _ _ _ => trivial) fun a (_ : True) => hg a

theorem yields_pure {a : α} (h : P a) : Yields P (pure a : Fallible Op Result ε α) :=
  .done (by rintro _ ⟨⟩; exact h)

theorem yields_throw {e : ε} : Yields P (throw e : Fallible Op Result ε α) :=
  .done (by rintro _ ⟨⟩)

theorem yields_attempt (hx : Yields P x) :
    Yields (fun outcome : Except ε α => ∀ a, outcome = .ok a → P a) (attempt x) :=
  returns_bind hx fun _ houtcome => .done (by rintro _ ⟨⟩; exact houtcome)

theorem uses_bind_of_returns {p : Program Op Result α} (hp : p.Uses allowed) (hr : p.Returns P)
    (hf : ∀ a, P a → (f a).Uses allowed) : (p >>= f).Uses allowed := by
  induction hr with
  | done value => exact hf _ value
  | call _ ih =>
    cases hp with
    | call head tail => exact .call head fun result => ih result (tail result)

end Returns

section Exec

variable {σ : Type} (step : (op : Op) → σ → Result op × σ) {x : Fallible Op Result ε α}
  {g : α → Fallible Op Result ε β} {s : σ} {s' : σ}

def exec : Program Op Result α → σ → α × σ
  | .done a, s => (a,s)
  | .call op next, s => (next (step op s).1).exec (step op s).2

theorem exec_bind (p : Program Op Result α) (f : α → Program Op Result β) (s : σ) :
    (p >>= f).exec step s = (f (p.exec step s).1).exec step (p.exec step s).2 := by
  induction p generalizing s with
  | done a => rfl
  | call op next ih => exact ih _ _

theorem exec_run_bind_eq_ok {b : β} :
    (x >>= g).run.exec step s = (.ok b,s') ↔
      ∃ a s₁, x.run.exec step s = (.ok a,s₁) ∧ (g a).run.exec step s₁ = (.ok b,s') := by
  rw [ExceptT.run_bind,exec_bind]
  rcases hx : x.run.exec step s with ⟨e | a,s₁⟩
  · change (Except.error e,s₁) = (Except.ok b,s') ↔ _
    simp
  · simp

theorem exec_lift_bind (p : Program Op Result α) (g : α → Fallible Op Result ε β) (s : σ) :
    ((liftM p : Fallible Op Result ε α) >>= g).run.exec step s =
      (g (p.exec step s).1).run.exec step (p.exec step s).2 := by
  change ((p >>= fun a => .done (Except.ok a)) >>= ExceptT.bindCont g).exec step s = _
  rw [exec_bind,exec_bind]
  rfl

theorem exec_ofExcept (y : Except ε α) (s : σ) :
    (ofExcept y : Fallible Op Result ε α).run.exec step s = (y,s) := rfl

theorem exec_run_bind_ok {a : α} (h : x.run.exec step s = (.ok a,s')) :
    (x >>= g).run.exec step s = (g a).run.exec step s' := by
  rw [ExceptT.run_bind,exec_bind,h]

theorem exec_run_bind_error {e : ε} (h : x.run.exec step s = (.error e,s')) :
    (x >>= g).run.exec step s = (.error e,s') := by
  rw [ExceptT.run_bind,exec_bind,h]
  rfl

theorem exec_ofExcept_bind {y : Except ε α} {a : α} (h : y = .ok a) :
    (ofExcept y >>= g).run.exec step s = (g a).run.exec step s :=
  exec_run_bind_ok step (h ▸ exec_ofExcept step _ s)

theorem exec_ensure_bind {c : Prop} [Decidable c] {e : ε} {g : Unit → Fallible Op Result ε β}
    (h : c) : (ensure c e >>= g).run.exec step s = (g ()).run.exec step s := by
  rw [ensure,if_pos h]
  rfl

theorem exec_ensure_bind_neg {c : Prop} [Decidable c] {e : ε} {g : Unit → Fallible Op Result ε β}
    (h : ¬ c) : (ensure c e >>= g).run.exec step s = (.error e,s) := by
  rw [ensure,if_neg h]
  rfl

theorem exec_forM_eq_ok {f : α → Fallible Op Result ε Unit} {a : α} {as : List α} :
    ((a::as).forM f).run.exec step s = (.ok (),s') ↔
      ∃ s₁, (f a).run.exec step s = (.ok (),s₁) ∧ (as.forM f).run.exec step s₁ = (.ok (),s') := by
  change (f a >>= fun _ => as.forM f).run.exec step s = _ ↔ _
  rw [exec_run_bind_eq_ok]
  constructor
  · rintro ⟨⟨⟩,s₁,h⟩
    exact ⟨s₁,h⟩
  · rintro ⟨s₁,h⟩
    exact ⟨(),s₁,h⟩

theorem exec_attempt (x : Fallible Op Result ε α) (s : σ) :
    (attempt x).run.exec step s = (.ok (x.run.exec step s).1,(x.run.exec step s).2) :=
  exec_bind step _ _ s

/-- What every operation of a program preserves, the program preserves. -/
theorem exec_preserves (Inv : σ → Prop) {p : Program Op Result α}
    (hp : p.Uses fun op => ∀ s, Inv s → Inv (step op s).2) (hs : Inv s) :
    Inv (p.exec step s).2 := by
  induction hp generalizing s with
  | done a => exact hs
  | call head _ ih => exact ih _ (head s hs)

end Exec

section ExecUntil

variable {σ : Type} (step : (op : Op) → σ → Option (Result op) × σ)

def execUntil : Program Op Result α → σ → Option α × σ
  | .done a, s => (some a,s)
  | .call op next, s =>
    match step op s with
    | (some result,s') => (next result).execUntil s'
    | (none,s') => (none,s')

/-- A sequence is killed in its first part, or goes on from where that ends. -/
theorem execUntil_bind (p : Program Op Result α) (f : α → Program Op Result β) (s : σ) :
    (p >>= f).execUntil step s =
      match p.execUntil step s with
      | (some a,s') => (f a).execUntil step s'
      | (none,s') => (none,s') := by
  induction p generalizing s with
  | done a => rfl
  | call op next ih =>
    rw [call_bind,execUntil,execUntil]
    rcases step op s with ⟨_ | result,s'⟩
    · rfl
    · exact ih result s'

theorem execUntil_run_bind {x : Fallible Op Result ε α} {g : α → Fallible Op Result ε β} {s : σ} :
    (x >>= g).run.execUntil step s =
      match x.run.execUntil step s with
      | (some (.ok a),s') => (g a).run.execUntil step s'
      | (some (.error e),s') => (some (.error e),s')
      | (none,s') => (none,s') := by
  rw [ExceptT.run_bind,execUntil_bind]
  rcases x.run.execUntil step s with ⟨_ | e | a,s'⟩
  · rfl
  · rfl
  · rfl

theorem execUntil_preserves (Inv : σ → Prop) {p : Program Op Result α}
    (hp : p.Uses fun op => ∀ s, Inv s → Inv (step op s).2) {s : σ} (hs : Inv s) :
    Inv (p.execUntil step s).2 := by
  induction hp generalizing s with
  | done a => exact hs
  | call head _ ih =>
    have hnext := head s hs
    rw [execUntil]
    rcases hstep : step _ s with ⟨_ | result,s'⟩
    · rwa [hstep] at hnext
    · rw [hstep] at hnext
      exact ih result hnext

theorem execUntil_eq_exec {τ : Type} {alone : (op : Op) → τ → Result op × τ} (read : σ → τ)
    {p : Program Op Result α} {s : σ}
    (hp : p.Uses fun op => step op s = (some (alone op (read s)).1,s) ∧
      (alone op (read s)).2 = read s) :
    p.execUntil step s = (some (p.exec alone (read s)).1,s) ∧
      (p.exec alone (read s)).2 = read s := by
  induction hp with
  | done a => exact ⟨rfl,rfl⟩
  | call head _ ih =>
    rw [execUntil,exec,head.1,head.2]
    exact ih _

end ExecUntil

end Program
end CommitCiPreflight
