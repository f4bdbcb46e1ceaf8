import Mathlib.Algebra.Order.Ring.Int
import Mathlib.Data.List.Basic

/-! Results of Rust calls. A call returns `Ok`, returns `Err`, or panics: an index out of
range, a failed `expect` and an arithmetic overflow are all panics, so a result proved
not to be `panic` neither aborts nor wraps. -/
namespace CommitCiPreflight

inductive Outcome (ε α : Type)
  | ok (value : α) | err (error : ε) | panic
  deriving DecidableEq, Repr

namespace Outcome

variable {ε ε' α β : Type} {x : Outcome ε α} {f : α → Outcome ε β} {as : List α}
  {step : β → α → Outcome ε β}

/-- The `?` operator. -/
def bind (x : Outcome ε α) (f : α → Outcome ε β) : Outcome ε β :=
  match x with
  | .ok a => f a
  | .err e => .err e
  | .panic => .panic

instance : Monad (Outcome ε) where
  pure := .ok
  bind := bind

@[simp] theorem pure_eq (a : α) : (pure a : Outcome ε α) = .ok a := rfl
@[simp] theorem ok_bind (a : α) (f : α → Outcome ε β) : (Outcome.ok a >>= f) = f a := rfl
@[simp] theorem err_bind (e : ε) (f : α → Outcome ε β) :
    (Outcome.err e >>= f) = .err e := rfl
@[simp] theorem panic_bind (f : α → Outcome ε β) :
    (Outcome.panic >>= f) = .panic := rfl

theorem bind_eq_ok {b : β} : (x >>= f) = .ok b ↔ ∃ a, x = .ok a ∧ f a = .ok b := by
  cases x <;> simp

theorem exists_unit {p : Unit → Prop} : (∃ u, p u) ↔ p () :=
  ⟨fun ⟨_,h⟩ => h,fun h => ⟨(),h⟩⟩

theorem bind_eq_err {e : ε} : (x >>= f) = .err e ↔ x = .err e ∨ ∃ a, x = .ok a ∧ f a = .err e := by
  cases x <;> simp

theorem bind_eq_panic : (x >>= f) = .panic ↔ x = .panic ∨ ∃ a, x = .ok a ∧ f a = .panic := by
  cases x <;> simp

theorem bind_ne_panic (hx : x ≠ .panic) (hf : ∀ a, x = .ok a → f a ≠ .panic) :
    (x >>= f) ≠ .panic := by
  intro h
  rcases bind_eq_panic.mp h with h | ⟨a,ha,h⟩
  · exact hx h
  · exact hf a ha h

/-- `Result::map_err`, also `Option::ok_or` for a call whose `None` is `err ()`. -/
def mapErr (f : ε → ε') : Outcome ε α → Outcome ε' α
  | .ok a => .ok a
  | .err e => .err (f e)
  | .panic => .panic

@[simp] theorem mapErr_eq_ok {f : ε → ε'} {a : α} : x.mapErr f = .ok a ↔ x = .ok a := by
  cases x <;> simp [mapErr]

@[simp] theorem mapErr_eq_panic {f : ε → ε'} : x.mapErr f = .panic ↔ x = .panic := by
  cases x <;> simp [mapErr]

def ofExcept : Except ε α → Outcome ε α
  | .ok a => .ok a
  | .error e => .err e

/-- `Option::ok_or`. -/
def ofOption (e : ε) : Option α → Outcome ε α
  | some a => .ok a
  | none => .err e

@[simp] theorem ofOption_eq_ok {e : ε} {o : Option α} {a : α} :
    ofOption e o = .ok a ↔ o = some a := by
  cases o <;> simp [ofOption]

@[simp] theorem ofOption_ne_panic (e : ε) (o : Option α) : ofOption e o ≠ .panic := by
  cases o <;> simp [ofOption]

/-- `Option::expect`. -/
def expect : Option α → Outcome ε α
  | some a => .ok a
  | none => .panic

@[simp] theorem expect_some (a : α) : (expect (some a) : Outcome ε α) = .ok a := rfl

/-- An early `return Err(e)` unless the condition holds. -/
def ensure (c : Prop) [Decidable c] (e : ε) : Outcome ε Unit :=
  if c then .ok () else .err e

@[simp] theorem ensure_eq_ok {c : Prop} [Decidable c] {e : ε} {u : Unit} :
    ensure c e = .ok u ↔ c := by
  simp [ensure]

@[simp] theorem ensure_ne_panic (c : Prop) [Decidable c] (e : ε) : ensure c e ≠ .panic := by
  unfold ensure
  split <;> simp

@[simp] theorem ensure_eq_err {c : Prop} [Decidable c] {e e' : ε} :
    ensure c e = .err e' ↔ ¬c ∧ e = e' := by
  unfold ensure
  split <;> simp_all

/-- Only the accepted result is kept: which error a rejection reports is forgotten. -/
def toOption : Outcome ε α → Option α
  | .ok a => some a
  | .err _ | .panic => none

@[simp] theorem toOption_eq_some {a : α} : x.toOption = some a ↔ x = .ok a := by
  cases x <;> simp [toOption]

theorem exists_of_isSome (h : x.toOption.isSome = true) : ∃ a, x = .ok a := by
  obtain ⟨a,ha⟩ := Option.isSome_iff_exists.1 h
  exact ⟨a,toOption_eq_some.1 ha⟩

/-- `for item in items { f(item)?; }` -/
def each (f : α → Outcome ε Unit) : List α → Outcome ε Unit
  | [] => .ok ()
  | a::as => do f a; each f as

@[simp] theorem each_eq_ok {f : α → Outcome ε Unit} {u : Unit} :
    each f as = .ok u ↔ ∀ a ∈ as, f a = .ok () := by
  induction as with
  | nil => simp [each]
  | cons a as ih =>
    simp only [each,List.forall_mem_cons,bind_eq_ok]
    constructor
    · rintro ⟨_,ha,has⟩
      exact ⟨ha,ih.mp has⟩
    · rintro ⟨ha,has⟩
      exact ⟨(),ha,ih.mpr has⟩

theorem each_ne_panic {f : α → Outcome ε Unit} (h : ∀ a ∈ as, f a ≠ .panic) :
    each f as ≠ .panic := by
  induction as with
  | nil => simp [each]
  | cons a as ih =>
    refine bind_ne_panic (h a (by simp)) fun _ _ => ih ?_
    intro b hb
    exact h b (by simp [hb])

/-- `for item in items { state = step(state, item)?; }` -/
def fold (step : β → α → Outcome ε β) : β → List α → Outcome ε β
  | b, [] => .ok b
  | b, a::as => do let b' ← step b a; fold step b' as

@[simp] theorem fold_nil (step : β → α → Outcome ε β) (b : β) : fold step b [] = .ok b := rfl

@[simp] theorem fold_cons (step : β → α → Outcome ε β) (b : β) (a : α) (as : List α) :
    fold step b (a::as) = (step b a >>= fun b' => fold step b' as) := rfl

theorem fold_of_steps {next : β → α → β} (h : ∀ b, ∀ a ∈ as, step b a = .ok (next b a)) (b : β) :
    fold step b as = .ok (as.foldl next b) := by
  induction as generalizing b with
  | nil => rfl
  | cons a as ih =>
    rw [fold_cons,h b a List.mem_cons_self,ok_bind,List.foldl_cons]
    exact ih (fun b a ha => h b a (List.mem_cons_of_mem _ ha)) _

/-- What every iteration preserves, the loop preserves. The invariant names the items
already consumed. -/
theorem fold_invariant (Inv : List α → β → Prop)
    (hstep : ∀ seen b a b', Inv seen b → step b a = .ok b' → Inv (seen++[a]) b') {seen : List α}
    {b b' : β} (hb : Inv seen b) (h : fold step b as = .ok b') : Inv (seen++as) b' := by
  induction as generalizing seen b with
  | nil =>
    rw [fold_nil,ok.injEq] at h
    simpa [← h] using hb
  | cons a as ih =>
    obtain ⟨c,hc,h⟩ := bind_eq_ok.mp h
    simpa using ih (hstep seen b a c hb hc) h

/-- A loop that rejects an item for its own sake, for its starting state or for a clash
with an earlier item succeeds exactly when every item is valid and free and no two
clash. -/
theorem fold_eq_ok_iff {next : β → α → β} {valid : α → Prop} {free : β → α → Prop}
    {clash : α → α → Prop}
    (hstep : ∀ b a b', step b a = .ok b' ↔ valid a ∧ free b a ∧ b' = next b a)
    (hfree : ∀ b a x, free (next b a) x ↔ ¬ clash a x ∧ free b x) {b b' : β} :
    fold step b as = .ok b' ↔
      (∀ a ∈ as, valid a ∧ free b a) ∧ as.Pairwise (fun a x => ¬ clash a x) ∧
        b' = as.foldl next b := by
  induction as generalizing b with
  | nil => simp [eq_comm]
  | cons a as ih =>
    simp only [fold_cons,bind_eq_ok,hstep,ih,List.forall_mem_cons,List.pairwise_cons,
      List.foldl_cons]
    constructor
    · rintro ⟨_,⟨hvalid,hb,rfl⟩,hall,hpairs,hb'⟩
      have hrest := fun x hx => (hfree b a x).1 (hall x hx).2
      exact ⟨⟨⟨hvalid,hb⟩,fun x hx => ⟨(hall x hx).1,(hrest x hx).2⟩⟩,
        ⟨fun x hx => (hrest x hx).1,hpairs⟩,hb'⟩
    · rintro ⟨⟨⟨hvalid,hb⟩,hall⟩,⟨hclash,hpairs⟩,hb'⟩
      have hrest := fun x hx => (hfree b a x).2 ⟨hclash x hx,(hall x hx).2⟩
      exact ⟨_,⟨hvalid,hb,rfl⟩,fun x hx => ⟨(hall x hx).1,hrest x hx⟩,hpairs,hb'⟩

theorem pairwise_ne_of_clash {f : α → β} :
    as.Pairwise (fun a x => ¬ f x = f a) ↔ (as.map f).Nodup := by
  rw [List.Nodup,List.pairwise_map]
  exact ⟨fun h => h.imp fun hne he => hne he.symm,fun h => h.imp fun hne he => hne he.symm⟩

theorem fold_append (step : β → α → Outcome ε β) (b : β) (as bs : List α) :
    fold step b (as++bs) = (fold step b as >>= fun b' => fold step b' bs) := by
  induction as generalizing b with
  | nil => rfl
  | cons a as ih =>
    rw [List.cons_append,fold_cons,fold_cons]
    cases step b a with
    | ok c => exact ih c
    | err e => rfl
    | panic => rfl

/-- Nested loops over one state are a loop over the concatenation. -/
theorem fold_flatMap {γ : Type} (step : β → α → Outcome ε β) (items : γ → List α)
    (gs : List γ) (b : β) :
    fold (fun b g => fold step b (items g)) b gs = fold step b (gs.flatMap items) := by
  induction gs generalizing b with
  | nil => rfl
  | cons g gs ih =>
    rw [fold_cons,List.flatMap_cons,fold_append]
    cases fold step b (items g) with
    | ok c => exact ih c
    | err e => rfl
    | panic => rfl

theorem fold_ne_panic (Inv : β → Prop) {b : β} (hb : Inv b)
    (hstep : ∀ b, Inv b → ∀ a ∈ as, step b a ≠ .panic ∧
      ∀ b', step b a = .ok b' → Inv b') : fold step b as ≠ .panic := by
  induction as generalizing b with
  | nil => simp
  | cons a as ih =>
    have ha := hstep b hb a (by simp)
    refine bind_ne_panic ha.1 fun c hc => ih (ha.2 c hc) ?_
    intro d hd x hx
    exact hstep d hd x (by simp [hx])

theorem fold_ne_panic_of_step (h : ∀ b a, step b a ≠ .panic) (b : β) (as : List α) :
    fold step b as ≠ .panic :=
  fold_ne_panic (fun _ => True) trivial fun b _ a _ => ⟨h b a,fun _ _ => trivial⟩

def Fails (x : Outcome ε α) (P : ε → Prop) : Prop := ∀ e, x = .err e → P e

section Fails

variable {P : ε → Prop}

theorem fails_ok (a : α) : Fails (.ok a : Outcome ε α) P := by simp [Fails]

theorem fails_err {e : ε} (h : P e) : Fails (.err e : Outcome ε α) P := by simpa [Fails] using h

theorem fails_ensure {c : Prop} [Decidable c] {e : ε} (h : P e) : Fails (ensure c e) P := by
  intro e' he
  exact (ensure_eq_err.1 he).2 ▸ h

theorem fails_ofOption {e : ε} {o : Option α} (h : P e) : Fails (ofOption e o) P := by
  cases o with
  | none => exact fails_err h
  | some a => exact fails_ok a

theorem Fails.bind {x : Outcome ε α} {f : α → Outcome ε β} (hx : Fails x P)
    (hf : ∀ a, Fails (f a) P) : Fails (x >>= f) P := by
  intro e he
  rcases bind_eq_err.1 he with he | ⟨a,-,he⟩
  · exact hx e he
  · exact hf a e he

theorem Fails.each {f : α → Outcome ε Unit} (h : ∀ a, Fails (f a) P) (as : List α) :
    Fails (each f as) P := by
  induction as with
  | nil => exact fails_ok ()
  | cons a as ih => exact (h a).bind fun _ => ih

theorem Fails.fold {step : β → α → Outcome ε β} (h : ∀ b a, Fails (step b a) P) (b : β)
    (as : List α) : Fails (fold step b as) P := by
  induction as generalizing b with
  | nil => exact fails_ok b
  | cons a as ih => exact (h b a).bind fun b' => ih b'

end Fails

/-- An `i64` operator: a result outside the type overflows. -/
def i64 (x : ℤ) : Outcome ε ℤ := if -2^63 ≤ x ∧ x < 2^63 then .ok x else .panic

theorem i64_eq_ok {x : ℤ} (hlow : -2^63 ≤ x) (hhigh : x < 2^63) :
    (i64 x : Outcome ε ℤ) = .ok x := if_pos ⟨hlow,hhigh⟩

/-- `count -= 1` on an unsigned type. -/
def decrement : ℕ → Outcome ε ℕ
  | 0 => .panic
  | n+1 => .ok n

end Outcome
end CommitCiPreflight
