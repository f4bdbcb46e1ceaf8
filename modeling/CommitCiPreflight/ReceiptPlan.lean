import CommitCiPreflight.ReceiptSpec
import Mathlib.Data.Fintype.EquivFin

/-! The evidence of a receipt against the checks of its embedded plan. Validation compares
the number of checks and looks every planned id up in the evidence. That pairs the two
lists only when the plan names no id twice, which nothing requires of an embedded plan. -/
namespace CommitCiPreflight

open Outcome Receipt

/-- Lists of one length, the first with distinct keys, such that every item of the second
has a partner with its key in the first: a pairing exists exactly when the keys of the
second are distinct too. -/
theorem exists_pairing_iff {α β κ : Type} {xs : List α} {ys : List β} {f : α → κ} {g : β → κ}
    {R : α → β → Prop} (hxs : (xs.map f).Nodup) (hlength : ys.length = xs.length)
    (hpartner : ∀ y ∈ ys, ∃ x ∈ xs, f x = g y ∧ R x y) :
    (∃ σ : Fin xs.length ≃ Fin ys.length, ∀ i, f (xs.get i) = g (ys.get (σ i)) ∧
      R (xs.get i) (ys.get (σ i))) ↔ (ys.map g).Nodup := by
  have hinjective : ∀ {γ : Type} {zs : List γ} {h : γ → κ},
      (zs.map h).Nodup ↔ Function.Injective fun i : Fin zs.length => h (zs.get i) := by
    intro γ zs h
    rw [← List.ofFn_getElem_eq_map,List.nodup_ofFn]
    rfl
  rw [hinjective] at hxs ⊢
  constructor
  · rintro ⟨σ,hσ⟩ i j hij
    have hkey : ∀ i, f (xs.get (σ.symm i)) = g (ys.get i) := by
      intro i
      simpa using (hσ (σ.symm i)).1
    have heq := hxs ((hkey i).trans (hij.trans (hkey j).symm))
    exact σ.symm.injective heq
  · intro hys
    have hindex : ∀ j : Fin ys.length, ∃ i : Fin xs.length,
        f (xs.get i) = g (ys.get j) ∧ R (xs.get i) (ys.get j) := by
      intro j
      obtain ⟨x,hx,hfx⟩ := hpartner (ys.get j) (List.get_mem ys j)
      obtain ⟨i,rfl⟩ := List.get_of_mem hx
      exact ⟨i,hfx⟩
    choose partner hspec using hindex
    have hpartnerinj : Function.Injective partner := by
      intro j k hjk
      exact hys ((hspec j).1.symm.trans (hjk ▸ (hspec k).1))
    have hbijective : Function.Bijective partner :=
      (Fintype.bijective_iff_injective_and_card partner).2 ⟨hpartnerinj,by simp [hlength]⟩
    refine ⟨(Equiv.ofBijective partner hbijective).symm,fun i => ?_⟩
    obtain ⟨j,rfl⟩ := hbijective.2 i
    have hj : (Equiv.ofBijective partner hbijective).symm (partner j) = j :=
      (Equiv.ofBijective partner hbijective).symm_apply_apply j
    rw [hj]
    exact hspec j

/-- The evidence and the planned checks are in one-to-one correspondence. -/
def ReceiptV2.Corresponds (receipt : ReceiptV2) : Prop :=
  ∃ σ : Fin receipt.checks.length ≃ Fin receipt.executionPlan.checks.length, ∀ i,
    (receipt.checks.get i).id = (receipt.executionPlan.checks.get (σ i)).id ∧
      (receipt.checks.get i).Matches (receipt.executionPlan.checks.get (σ i))

theorem findPlanned_eq_ok {checks : List CheckEvidence} {planned : NormalizedCheck}
    (h : findPlanned checks planned = .ok ()) :
    ∃ evidence ∈ checks, evidence.id = planned.id ∧ evidence.Matches planned := by
  simp only [findPlanned,bind_eq_ok,ofOption_eq_ok,ensure_eq_ok] at h
  obtain ⟨evidence,hfind,hmatches⟩ := h
  exact ⟨evidence,List.mem_of_find?_eq_some hfind,
    by simpa using List.find?_some hfind,hmatches⟩

/-- An accepted receipt pairs its evidence with the planned checks exactly when the plan
names no check twice. -/
theorem validate_corresponds_iff (crates : Crates) (receipt : ReceiptV2)
    (h : receipt.validate crates = .ok ()) :
    receipt.Corresponds ↔ (receipt.executionPlan.checks.map (·.id)).Nodup := by
  obtain ⟨hcommon,-,-,-,hlength,hplanned,-⟩ := ReceiptV2.validate_eq_ok.1 h
  have hnodup : (receipt.checks.map (·.id)).Nodup :=
    (ReceiptCommon.validate_eq_ok.1 hcommon).2.nodup
  exact exists_pairing_iff hnodup hlength fun planned hmem =>
    findPlanned_eq_ok (hplanned planned hmem)

/-- Two checks run in another order than planned, and a plan that lists `fmt` twice. -/
theorem validate_corresponds_iff_samples :
    (ReceiptV2.sample .reference (.sample sampleImage ["fmt","test"]) ["test","fmt"]).Corresponds ∧
      ¬ (ReceiptV2.sample .reference (.sample sampleImage ["fmt","fmt"])
        ["fmt","unplanned"]).Corresponds := by
  have hdistinct : (ReceiptV2.sample .reference (.sample sampleImage ["fmt","test"])
      ["test","fmt"]).validate .reference = .ok () :=
    ReceiptV2.sample_validate (by decide +kernel) rfl rfl (by decide +kernel) rfl
  have hrepeated : (ReceiptV2.sample .reference (.sample sampleImage ["fmt","fmt"])
      ["fmt","unplanned"]).validate .reference = .ok () :=
    ReceiptV2.sample_validate (by decide +kernel) rfl rfl (by decide +kernel) rfl
  rw [validate_corresponds_iff _ _ hdistinct,validate_corresponds_iff _ _ hrepeated]
  decide

/-- The plan lists `fmt` twice, and the evidence of `unplanned` is accepted. -/
theorem unplanned_evidence_accepted :
    (ReceiptV2.sample .reference (.sample sampleImage ["fmt","fmt"])
        ["fmt","unplanned"]).validate .reference = .ok () ∧
      ¬ (ReceiptV2.sample .reference (.sample sampleImage ["fmt","fmt"])
        ["fmt","unplanned"]).Corresponds := by
  refine ⟨ReceiptV2.sample_validate (by decide +kernel) rfl rfl (by decide +kernel) rfl,?_⟩
  rintro ⟨σ,hσ⟩
  exact absurd (hσ ⟨1,by decide⟩).1 (by
    generalize σ ⟨1,by decide⟩ = j
    revert j
    decide)

end CommitCiPreflight
