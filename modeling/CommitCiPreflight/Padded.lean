import CommitCiPreflight.Text
import Mathlib.Data.List.Lex

/-! Decimal numbers of a fixed width. The order of the numbers is the byte order of their
texts. -/
namespace CommitCiPreflight

theorem lt_append_of_lt {α : Type} [LinearOrder α] {as bs : List α} (h : as < bs)
    (hlength : as.length = bs.length) (cs ds : List α) : as++cs < bs++ds := by
  induction as generalizing bs with
  | nil =>
    cases bs with
    | nil => exact absurd h (lt_irrefl _)
    | cons b bs => simp at hlength
  | cons a as ih =>
    cases bs with
    | nil => simp at hlength
    | cons b bs =>
      rw [List.cons_append,List.cons_append,List.cons_lt_cons_iff]
      rcases List.cons_lt_cons_iff.1 h with hab | ⟨rfl,hlt⟩
      · exact Or.inl hab
      · exact Or.inr ⟨rfl,ih hlt (by simpa using hlength)⟩

theorem append_lt_append_left {α : Type} [LinearOrder α] (as : List α) {bs cs : List α}
    (h : bs < cs) : as++bs < as++cs := by
  induction as with
  | nil => exact h
  | cons a as ih => exact List.cons_lt_cons_iff.2 (Or.inr ⟨rfl,ih⟩)

theorem map_lt_map_iff {α β : Type} [LT α] [LT β] {f : α → β} (hlt : ∀ a b, f a < f b ↔ a < b)
    (hinjective : Function.Injective f) {as bs : List α} : as.map f < bs.map f ↔ as < bs := by
  induction as generalizing bs with
  | nil => cases bs <;> simp
  | cons a as ih =>
    cases bs with
    | nil => simp
    | cons b bs =>
      rw [List.map_cons,List.map_cons,List.cons_lt_cons_iff,List.cons_lt_cons_iff,hlt,ih,
        hinjective.eq_iff]

namespace Text

/-- `format!("{n:0width$}")`. -/
def padded (width n : ℕ) : String := String.ofList ((Nat.toDigits 10 n).leftpad width '0')

theorem leftpad_toDigits_succ (width n : ℕ) (hwidth : 0 < width) :
    (Nat.toDigits 10 n).leftpad (width+1) '0' =
      (Nat.toDigits 10 (n/10)).leftpad width '0'++[(n%10).digitChar] := by
  by_cases hn : n < 10
  · rw [Nat.div_eq_of_lt hn,Nat.mod_eq_of_lt hn,Nat.toDigits_of_lt_base hn,Nat.toDigits_zero]
    obtain ⟨width,rfl⟩ : ∃ k, width = k+1 := ⟨width-1,by omega⟩
    simp [List.leftpad,List.replicate_succ']
  · rw [Nat.toDigits_of_base_le (by omega) (by omega)]
    simp only [List.leftpad,List.length_append,List.length_singleton,List.append_assoc]
    congr 2
    omega

variable {width : ℕ} {layout : List (ℕ × Char)}

theorem length_leftpad_toDigits {n : ℕ} (hwidth : 0 < width) (hn : n < 10^width) :
    ((Nat.toDigits 10 n).leftpad width '0').length = width := by
  have hdigits : (Nat.toDigits 10 n).length ≤ width := (Nat.length_toDigits_le_iff (by omega) hwidth).2 hn
  simp [List.leftpad]
  omega

theorem leftpad_toDigits_lt {m n : ℕ} (hwidth : 0 < width) (hn : n < 10^width) (h : m < n) :
    ((Nat.toDigits 10 m).leftpad width '0').map Char.toNat <
      ((Nat.toDigits 10 n).leftpad width '0').map Char.toNat := by
  have hdigit : ∀ a < 10, ∀ b < 10, a < b → a.digitChar.toNat < b.digitChar.toNat := by decide
  induction width, hwidth using Nat.le_induction generalizing m n with
  | base =>
    have hn' : n < 10 := by omega
    rw [Nat.toDigits_of_lt_base (by omega),Nat.toDigits_of_lt_base hn']
    exact List.cons_lt_cons_iff.2 (Or.inl (hdigit m (by omega) n hn' h))
  | succ width hwidth ih =>
    rw [leftpad_toDigits_succ width m hwidth,leftpad_toDigits_succ width n hwidth,List.map_append,
      List.map_append]
    have hpow : n/10 < 10^width := by
      rw [pow_succ] at hn
      omega
    by_cases hdiv : m/10 < n/10
    · refine lt_append_of_lt (ih hpow hdiv) ?_ _ _
      rw [List.length_map,List.length_map,length_leftpad_toDigits hwidth hpow,
        length_leftpad_toDigits hwidth (by omega)]
    · have hsame : m/10 = n/10 := by omega
      rw [hsame]
      refine append_lt_append_left _ (List.cons_lt_cons_iff.2 (Or.inl ?_))
      exact hdigit _ (by omega) _ (by omega) (by omega)

theorem map_toNat_bytes_ascii {cs : List Char} (h : ∀ c ∈ cs, c.toNat < 128) :
    (bytes (String.ofList cs)).map UInt8.toNat = cs.map Char.toNat := by
  rw [bytes_ofList]
  induction cs with
  | nil => rfl
  | cons c cs ih =>
    have hc : c.val.toNat < 128 := h c List.mem_cons_self
    rw [List.flatMap_cons,List.map_append,ih fun d hd => h d (List.mem_cons_of_mem _ hd),
      String.utf8EncodeChar,if_pos (by omega)]
    simp only [List.map_cons,List.map_nil,List.singleton_append,List.cons.injEq,and_true]
    exact UInt8.toNat_ofNat_of_lt' (show c.val.toNat < 256 by omega)

theorem toNat_lt_of_isDigit {c : Char} (h : c.isDigit = true) : c.toNat < 128 := by
  simp only [Char.isDigit,Bool.and_eq_true,decide_eq_true_eq] at h
  have hle : c.val.toNat ≤ 57 := UInt32.le_iff_toNat_le.1 h.2
  exact hle.trans_lt (by decide)

theorem map_toNat_bytes {cs : List Char} (h : ∀ c ∈ cs, c.isDigit = true) :
    (bytes (String.ofList cs)).map UInt8.toNat = cs.map Char.toNat :=
  map_toNat_bytes_ascii fun c hc => toNat_lt_of_isDigit (h c hc)

theorem isDigit_leftpad_toDigits (width n : ℕ) :
    ∀ c ∈ (Nat.toDigits 10 n).leftpad width '0', c.isDigit = true := by
  intro c hc
  rcases List.mem_append.1 hc with hc | hc
  · rw [List.eq_of_mem_replicate hc]
    rfl
  · exact Nat.isDigit_of_mem_toDigits (by omega) (by omega) hc

/-- Texts that start with padded numbers are ordered as the numbers are. -/
theorem bytes_padded_lt {m n : ℕ} (hwidth : 0 < width) (hn : n < 10^width) (h : m < n)
    (s t : String) :
    (bytes (padded width m++s)).map UInt8.toNat < (bytes (padded width n++t)).map UInt8.toNat := by
  have hpadded : ∀ k, (bytes (padded width k)).map UInt8.toNat =
      ((Nat.toDigits 10 k).leftpad width '0').map Char.toNat :=
    fun k => map_toNat_bytes (isDigit_leftpad_toDigits width k)
  rw [bytes_append,bytes_append,List.map_append,List.map_append,hpadded,hpadded]
  refine lt_append_of_lt (leftpad_toDigits_lt hwidth hn h) ?_ _ _
  rw [List.length_map,List.length_map,length_leftpad_toDigits hwidth hn,
    length_leftpad_toDigits hwidth (h.trans hn)]

theorem bytes_padded_head (hwidth : 0 < width) (n : ℕ) (s : String) :
    ∃ b bs, bytes (padded width n++s) = b::bs ∧ 48 ≤ b.toNat ∧ b.toNat ≤ 57 := by
  have hdigits := isDigit_leftpad_toDigits width n
  have hmap := map_toNat_bytes hdigits
  have hlength : 0 < ((Nat.toDigits 10 n).leftpad width '0').length := by
    rw [List.length_leftpad]
    exact hwidth.trans_le (le_max_left _ _)
  obtain ⟨c,cs,hcs⟩ := List.exists_cons_of_length_pos hlength
  have hc := hdigits c (hcs ▸ List.mem_cons_self)
  simp only [Char.isDigit,Bool.and_eq_true,decide_eq_true_eq,ge_iff_le] at hc
  cases hbytes : bytes (padded width n) with
  | nil =>
    rw [padded] at hbytes
    rw [hbytes,hcs] at hmap
    simp at hmap
  | cons b bs =>
    have hb : b.toNat = c.toNat := by
      rw [padded] at hbytes
      rw [hbytes,hcs] at hmap
      exact (List.cons.inj hmap).1
    refine ⟨b,bs++bytes s,by rw [bytes_append,hbytes,List.cons_append],?_,?_⟩
    · rw [hb]
      exact UInt32.le_iff_toNat_le.1 hc.1
    · rw [hb]
      exact UInt32.le_iff_toNat_le.1 hc.2

/-- Unpadded numbers differ as well: padding them to one width keeps equal texts equal. -/
theorem toString_injective : Function.Injective (toString : ℕ → String) := by
  have hne : ∀ m n : ℕ, m < n → Nat.toDigits 10 m ≠ Nat.toDigits 10 n := by
    intro m n h heq
    have hn : n < 10^(n+1) := calc
      n < 10^n := Nat.lt_pow_self (by decide)
      _ ≤ 10^(n+1) := Nat.pow_le_pow_right (by decide) (by omega)
    have hlt := leftpad_toDigits_lt (Nat.succ_pos n) hn h
    rw [heq] at hlt
    exact lt_irrefl _ hlt
  intro m n h
  have hdigits : Nat.toDigits 10 m = Nat.toDigits 10 n := String.ofList_injective h
  rcases lt_trichotomy m n with hlt | heq | hgt
  · exact absurd hdigits (hne m n hlt)
  · exact heq
  · exact absurd hdigits.symm (hne n m hgt)

theorem length_bytes_padded {n : ℕ} (hwidth : 0 < width) (hn : n < 10^width) :
    (bytes (padded width n)).length = width := by
  have hmap := congrArg List.length (map_toNat_bytes (isDigit_leftpad_toDigits width n))
  rwa [List.length_map,List.length_map,length_leftpad_toDigits hwidth hn] at hmap

/-- Numbers of fixed widths, each with the separator that follows it. -/
def fixedFields : List (ℕ × Char) → List ℕ → String
  | (width,separator)::layout,n::ns =>
    padded width n++(String.singleton separator++fixedFields layout ns)
  | _,_ => ""

def Fits (layout : List (ℕ × Char)) (ns : List ℕ) : Prop :=
  List.Forall₂ (fun field n => 0 < field.1 ∧ n < 10^field.1) layout ns

theorem bytes_fixedFields_lt {ms ns : List ℕ} (hms : Fits layout ms) (hns : Fits layout ns)
    (h : ms < ns) :
    (bytes (fixedFields layout ms)).map UInt8.toNat <
      (bytes (fixedFields layout ns)).map UInt8.toNat := by
  induction hms generalizing ns with
  | nil =>
    cases hns
    exact absurd h (lt_irrefl _)
  | cons hm hms ih =>
    cases hns with
    | cons hn hns =>
      rcases List.cons_lt_cons_iff.1 h with hlt | ⟨rfl,hlt⟩
      · exact bytes_padded_lt hn.1 hn.2 hlt _ _
      · rw [fixedFields,fixedFields,bytes_append,bytes_append,bytes_append,bytes_append,
          List.map_append,List.map_append,List.map_append,List.map_append]
        exact append_lt_append_left _ (append_lt_append_left _ (ih hns hlt))

theorem bytes_fixedFields_lt_iff {ms ns : List ℕ} (hms : Fits layout ms) (hns : Fits layout ns) :
    (bytes (fixedFields layout ms)).map UInt8.toNat <
      (bytes (fixedFields layout ns)).map UInt8.toNat ↔ ms < ns := by
  refine ⟨fun h => ?_,bytes_fixedFields_lt hms hns⟩
  rcases lt_trichotomy ms ns with hlt | rfl | hgt
  · exact hlt
  · exact absurd h (lt_irrefl _)
  · exact absurd h (bytes_fixedFields_lt hns hms hgt).not_gt

theorem bytes_lt_iff {s t : String} :
    bytes s < bytes t ↔ (bytes s).map UInt8.toNat < (bytes t).map UInt8.toNat :=
  (map_lt_map_iff (fun _ _ => UInt8.lt_iff_toNat_lt.symm) fun _ _ => UInt8.toNat_inj.1).symm

theorem lt_iff_bytes {s t : String} (hs : ∀ c ∈ s.toList, c.toNat < 128)
    (ht : ∀ c ∈ t.toList, c.toNat < 128) : s < t ↔ bytes s < bytes t := by
  have hbytes : ∀ u : String, (∀ c ∈ u.toList, c.toNat < 128) →
      (bytes u).map UInt8.toNat = u.toList.map Char.toNat := by
    intro u hu
    have hmap := map_toNat_bytes_ascii hu
    rwa [String.ofList_toList] at hmap
  have hchar : ∀ a b : Char, a.toNat < b.toNat ↔ a < b := fun a b => UInt32.lt_iff_toNat_lt.symm
  rw [String.lt_iff_toList_lt,bytes_lt_iff,hbytes s hs,hbytes t ht,
    map_lt_map_iff hchar fun _ _ => Char.toNat_inj.1]

theorem fixedFields_ascii (h : ∀ field ∈ layout, field.2.toNat < 128) (ns : List ℕ) :
    ∀ c ∈ (fixedFields layout ns).toList, c.toNat < 128 := by
  induction layout generalizing ns with
  | nil => simp [fixedFields]
  | cons field layout ih =>
    cases ns with
    | nil => simp [fixedFields]
    | cons n ns =>
      intro c hc
      rw [fixedFields,String.toList_append,String.toList_append,List.mem_append,List.mem_append] at hc
      rcases hc with hc | hc | hc
      · rw [padded,String.toList_ofList] at hc
        exact toNat_lt_of_isDigit (isDigit_leftpad_toDigits _ _ c hc)
      · rw [String.toList_singleton,List.mem_singleton] at hc
        exact hc ▸ h field List.mem_cons_self
      · exact ih (fun field hfield => h field (List.mem_cons_of_mem _ hfield)) ns c hc

end Text
end CommitCiPreflight
