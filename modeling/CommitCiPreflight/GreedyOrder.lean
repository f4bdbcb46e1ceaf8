import Mathlib.Data.Finset.Card
import Mathlib.Data.Finset.Max
import Mathlib.Data.List.Nodup
import Mathlib.Logic.Relation
import Mathlib.Order.Bounds.Basic

/-! Greedy topological order of a finite dependency graph: the least node whose
dependencies are all placed comes next, until no such node is left. The nodes that are
never placed are those on a cycle and those that depend on one. -/
namespace CommitCiPreflight
namespace GreedyOrder

open Relation

variable {κ : Type} (nodes : Finset κ) (deps : κ → List κ)

/-- Not placed, with every dependency placed. -/
def Ready (placed : List κ) (a : κ) : Prop :=
  a ∈ nodes ∧ a ∉ placed ∧ ∀ d ∈ deps a, d ∈ placed

def Stuck (placed : List κ) : Prop := ∀ a, ¬ Ready nodes deps placed a

def DependsOn (a b : κ) : Prop := b ∈ deps a

/-- On a cycle, or dependent on a node that is. -/
def ReachesCycle (a : κ) : Prop :=
  ∃ b, ReflTransGen (DependsOn deps) a b ∧ TransGen (DependsOn deps) b b

variable {nodes deps} {a : κ} {placed : List κ}

theorem not_reachesCycle_of_acc (h : Acc (Function.swap (DependsOn deps)) a) :
    ¬ ReachesCycle deps a := by
  rintro ⟨b,hreach,hcycle⟩
  have hb : Acc (Function.swap (DependsOn deps)) b := by
    clear hcycle
    induction hreach with
    | refl => exact h
    | tail _ hstep ih => exact ih.inv hstep
  have hirrefl : ∀ x, Acc (TransGen (Function.swap (DependsOn deps))) x →
      ¬ TransGen (Function.swap (DependsOn deps)) x x := by
    intro x hx
    induction hx with
    | intro x _ ih => exact fun hxx => ih x hxx hxx
  exact hirrefl b hb.transGen (transGen_swap.2 hcycle)

theorem ReachesCycle.of_dependsOn {b : κ} (hab : DependsOn deps a b) (hb : ReachesCycle deps b) :
    ReachesCycle deps a := by
  obtain ⟨c,hbc,hc⟩ := hb
  exact ⟨c,ReflTransGen.head hab hbc,hc⟩

theorem card_reachable_lt {b : κ} (hab : DependsOn deps a b) (hnode : b ∈ nodes)
    (hb : ¬ TransGen (DependsOn deps) b b) [DecidableRel (TransGen (DependsOn deps))] :
    (nodes.filter (TransGen (DependsOn deps) b)).card <
      (nodes.filter (TransGen (DependsOn deps) a)).card := by
  apply Finset.card_lt_card
  refine ⟨?_,fun hsub => hb ?_⟩
  · intro x hx
    rw [Finset.mem_filter] at hx ⊢
    exact ⟨hx.1,TransGen.head hab hx.2⟩
  · exact (Finset.mem_filter.1 (hsub (Finset.mem_filter.2 ⟨hnode,TransGen.single hab⟩))).2

/-- When nothing is ready, every node left over reaches a cycle: otherwise a left-over
node that reaches fewest nodes would depend on one that reaches fewer. -/
theorem Stuck.reachesCycle (h : Stuck nodes deps placed)
    (hclosed : ∀ a ∈ nodes, ∀ d ∈ deps a, d ∈ nodes) (ha : a ∈ nodes) (hleft : a ∉ placed) :
    ReachesCycle deps a := by
  classical
  by_contra hcycle
  have hne : (nodes.filter fun x => x ∉ placed ∧ ¬ ReachesCycle deps x).Nonempty :=
    ⟨a,Finset.mem_filter.2 ⟨ha,hleft,hcycle⟩⟩
  obtain ⟨x,hx,hmin⟩ := Finset.exists_min_image _
    (fun x => (nodes.filter (TransGen (DependsOn deps) x)).card) hne
  obtain ⟨hxn,hxp,hxc⟩ := Finset.mem_filter.1 hx
  have hdep : ∃ d ∈ deps x, d ∉ placed := by
    by_contra hall
    push Not at hall
    exact h x ⟨hxn,hxp,hall⟩
  obtain ⟨d,hd,hdp⟩ := hdep
  have hdn := hclosed x hxn d hd
  have hdc : ¬ ReachesCycle deps d := fun hdc => hxc (ReachesCycle.of_dependsOn hd hdc)
  have hlt := card_reachable_lt hd hdn fun hloop => hdc ⟨d,.refl,hloop⟩
  exact absurd (hmin d (Finset.mem_filter.2 ⟨hdn,hdp,hdc⟩)) (not_le.2 hlt)

section Greedy

variable [LinearOrder κ]

variable (nodes deps) in
/-- Every position is filled with the least ready node. -/
inductive Greedy : List κ → Prop
  | nil : Greedy []
  | place {placed : List κ} {a : κ} (before : Greedy placed)
      (least : IsLeast {x | Ready nodes deps placed x} a) : Greedy (placed++[a])

namespace Greedy

variable {placed : List κ}

theorem nodup (h : Greedy nodes deps placed) : placed.Nodup := by
  induction h with
  | nil => exact List.nodup_nil
  | place _ least ih =>
    refine List.nodup_append.2 ⟨ih,List.nodup_singleton _,?_⟩
    rintro x hx y hy rfl
    exact least.1.2.1 (List.mem_singleton.1 hy ▸ hx)

theorem mem_nodes (h : Greedy nodes deps placed) : ∀ a ∈ placed, a ∈ nodes := by
  induction h with
  | nil => simp
  | place _ least ih =>
    intro x hx
    rcases List.mem_append.1 hx with hx | hx
    · exact ih x hx
    · exact List.mem_singleton.1 hx ▸ least.1.1

theorem deps_mem (h : Greedy nodes deps placed) : ∀ a ∈ placed, ∀ d ∈ deps a, d ∈ placed := by
  induction h with
  | nil => simp
  | place _ least ih =>
    intro x hx d hd
    rcases List.mem_append.1 hx with hx | hx
    · exact List.mem_append_left _ (ih x hx d hd)
    · cases List.mem_singleton.1 hx
      exact List.mem_append_left _ (least.1.2.2 d hd)

/-- Every position of a greedy order holds the least node ready there. -/
theorem split {before after : List κ} {a : κ} (h : Greedy nodes deps placed)
    (hsplit : placed = before++a::after) :
    Greedy nodes deps before ∧ IsLeast {x | Ready nodes deps before x} a := by
  induction h generalizing after with
  | nil => simp at hsplit
  | place hbefore least ih =>
    rcases List.eq_nil_or_concat after with rfl | ⟨after,z,rfl⟩
    · obtain ⟨rfl,hz⟩ := List.append_inj_left' hsplit rfl, List.append_inj_right' hsplit rfl
      cases hz
      exact ⟨hbefore,least⟩
    · rw [List.concat_eq_append,← List.cons_append,← List.append_assoc] at hsplit
      exact ih (List.append_inj_left' hsplit rfl)

theorem acc (h : Greedy nodes deps placed) :
    ∀ a ∈ placed, Acc (Function.swap (DependsOn deps)) a := by
  induction h with
  | nil => simp
  | place _ least ih =>
    intro x hx
    rcases List.mem_append.1 hx with hx | hx
    · exact ih x hx
    · cases List.mem_singleton.1 hx
      exact Acc.intro _ fun d hd => ih d (least.1.2.2 d hd)

end Greedy

/-- A greedy order that cannot continue leaves exactly the nodes that reach a cycle. -/
theorem Greedy.left_over_iff {placed : List κ} (h : Greedy nodes deps placed)
    (hstuck : Stuck nodes deps placed) (hclosed : ∀ a ∈ nodes, ∀ d ∈ deps a, d ∈ nodes) {a : κ}
    (ha : a ∈ nodes) : a ∉ placed ↔ ReachesCycle deps a :=
  ⟨hstuck.reachesCycle hclosed ha,
    fun hcycle hmem => not_reachesCycle_of_acc (h.acc a hmem) hcycle⟩

end Greedy

variable [DecidableEq κ]

variable (deps) in
def pending (placed : List κ) (a : κ) : ℕ := (deps a).countP (· ∉ placed)

theorem pending_eq_zero : pending deps placed a = 0 ↔ ∀ d ∈ deps a, d ∈ placed := by
  simp [pending,List.countP_eq_zero]

theorem pending_nil (a : κ) : pending deps [] a = (deps a).length := by
  simp [pending]

theorem pending_place_of_notMem {b : κ} (h : b ∉ deps a) :
    pending deps (placed++[b]) a = pending deps placed a := by
  refine List.countP_congr fun d hd => ?_
  have hne : d ≠ b := fun he => h (he ▸ hd)
  simp [hne]

theorem pending_place {b : κ} (hnodup : (deps a).Nodup) (hb : b ∉ placed) (h : b ∈ deps a) :
    pending deps placed a = pending deps (placed++[b]) a+1 := by
  obtain ⟨xs,ys,hdeps⟩ := List.append_of_mem h
  have hrest : ∀ d ∈ xs++ys, d ≠ b := by
    intro d hd he
    rw [hdeps,List.nodup_middle,List.nodup_cons] at hnodup
    exact hnodup.1 (he ▸ hd)
  have hsame : ∀ zs : List κ, (∀ d ∈ zs, d ≠ b) →
      zs.countP (· ∉ placed++[b]) = zs.countP (· ∉ placed) := by
    intro zs hzs
    refine List.countP_congr fun d hd => ?_
    simp [hzs d hd]
  simp only [pending,hdeps,List.countP_append,List.countP_cons,
    hsame xs fun d hd => hrest d (by simp [hd]),hsame ys fun d hd => hrest d (by simp [hd])]
  simp [hb]
  omega

/-- Placing a node releases exactly the nodes for which it was the last one missing. -/
theorem ready_place_iff {b : κ} (hdeps : ∀ x ∈ placed, ∀ d ∈ deps x, d ∈ placed)
    (hb : Ready nodes deps placed b) :
    Ready nodes deps (placed++[b]) a ↔
      (Ready nodes deps placed a ∧ a ≠ b) ∨
        (a ∈ nodes ∧ b ∈ deps a ∧ pending deps (placed++[b]) a = 0) := by
  rw [pending_eq_zero]
  constructor
  · rintro ⟨hnode,hplaced,hall⟩
    rw [List.mem_append,List.mem_singleton,not_or] at hplaced
    by_cases hba : b ∈ deps a
    · exact Or.inr ⟨hnode,hba,hall⟩
    · refine Or.inl ⟨⟨hnode,hplaced.1,fun d hd => ?_⟩,hplaced.2⟩
      refine (List.mem_append.1 (hall d hd)).resolve_right fun hdb => hba ?_
      exact List.mem_singleton.1 hdb ▸ hd
  · rintro (⟨⟨hnode,hplaced,hall⟩,hne⟩ | ⟨hnode,hba,hall⟩)
    · exact ⟨hnode,by simp [hplaced,hne],fun d hd => List.mem_append_left _ (hall d hd)⟩
    · refine ⟨hnode,fun hmem => ?_,hall⟩
      rcases List.mem_append.1 hmem with hmem | hmem
      · exact hb.2.1 (hdeps a hmem b hba)
      · rw [List.mem_singleton.1 hmem] at hba
        exact hb.2.1 (hb.2.2 b hba)

end GreedyOrder
end CommitCiPreflight
