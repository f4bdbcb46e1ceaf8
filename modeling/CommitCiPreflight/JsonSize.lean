import CommitCiPreflight.JsonText
import Mathlib.Algebra.Order.BigOperators.Group.List
import Mathlib.Data.List.Perm.Subperm

/-! How long the compact text of a value can be. The bound does not look at the characters
of a string, so it can be evaluated on values that hold digests. -/
namespace CommitCiPreflight

open JsonText

namespace Json

mutual
def weight (ft : FloatText) : Json → ℕ
  | .null | .bool _ => 5
  | .num n => (printNumber ft n).length
  | .str s => 6*s.utf8ByteSize+2
  | .arr items => weightItems ft items+2
  | .obj members => weightMembers ft members+2
def weightItems (ft : FloatText) : List Json → ℕ
  | [] => 0
  | x::xs => weight ft x+1+weightItems ft xs
def weightMembers (ft : FloatText) : List (String × Json) → ℕ
  | [] => 0
  | (k,v)::ms => 6*k.utf8ByteSize+weight ft v+4+weightMembers ft ms
end

end Json

open Json

variable (ft : FloatText)

theorem weightMembers_eq (members : List (String × Json)) :
    weightMembers ft members =
      (members.map fun m => 6*m.1.utf8ByteSize+weight ft m.2+4).sum := by
  induction members with
  | nil => rfl
  | cons m ms ih => simp [weightMembers,ih]

theorem weightItems_eq (items : List Json) :
    weightItems ft items = (items.map fun x => weight ft x+1).sum := by
  induction items with
  | nil => rfl
  | cons m ms ih => simp [weightItems,ih]

theorem length_flatMap_le {α β : Type} {f : α → List β} {k : ℕ} (h : ∀ a, (f a).length ≤ k)
    (as : List α) : (as.flatMap f).length ≤ k*as.length := by
  induction as with
  | nil => simp
  | cons a as ih =>
    have ha := h a
    rw [List.flatMap_cons,List.length_append,List.length_cons,Nat.mul_add]
    omega

theorem length_printString_le (s : String) : (printString s).length ≤ 6*s.utf8ByteSize+2 := by
  have hescape : ∀ c, (escapeChar c).length ≤ 6 := by
    intro c
    unfold escapeChar
    split_ifs <;> simp
  have hflat := length_flatMap_le hescape s.toList
  have hchars := Text.length_toList_le s
  simp only [printString,List.length_cons,List.length_append,List.length_nil]
  omega

theorem length_utf8_escapeChar_le (c : Char) :
    ((escapeChar c).flatMap String.utf8EncodeChar).length ≤ 6*c.utf8Size := by
  have hpos := c.utf8Size_pos
  have hdigit : ∀ n < 16, (hexDigit n).utf8Size = 1 := by decide
  unfold escapeChar
  split_ifs
  on_goal 8 =>
    have hhigh := hdigit (c.toNat/16) (by omega)
    have hlow := hdigit (c.toNat%16) (by omega)
    simp only [List.flatMap_cons,List.flatMap_nil,List.length_append,List.length_nil,
      String.length_utf8EncodeChar,hhigh,hlow]
    change 6 ≤ _
    omega
  on_goal 8 =>
    simp only [List.flatMap_cons,List.flatMap_nil,List.append_nil,String.length_utf8EncodeChar]
    omega
  all_goals
    change 2 ≤ _
    omega

theorem length_bytes_printString_le (s : String) :
    (Text.bytes (String.ofList (printString s))).length ≤ 6*s.utf8ByteSize+2 := by
  have hbody : ∀ cs : List Char, ((cs.flatMap escapeChar).flatMap String.utf8EncodeChar).length ≤
      6*(cs.flatMap String.utf8EncodeChar).length := by
    intro cs
    induction cs with
    | nil => simp
    | cons c cs ih =>
      have hc := length_utf8_escapeChar_le c
      simp only [List.flatMap_cons,List.flatMap_append,List.length_append,
        String.length_utf8EncodeChar]
      omega
  have hsize : s.utf8ByteSize = (s.toList.flatMap String.utf8EncodeChar).length := by
    rw [← Text.length_bytes,← Text.bytes_ofList,String.ofList_toList]
  have hs := hbody s.toList
  rw [Text.bytes_ofList,printString,List.flatMap_cons,List.flatMap_append,List.length_append,
    List.length_append,hsize]
  change 1+(_+1) ≤ _
  omega

theorem length_utf8_obj_le {members : List (String × Json)} {b : ℕ}
    (h : ∀ m ∈ members, ((printString m.1).flatMap String.utf8EncodeChar).length+
      ((print ft m.2).flatMap String.utf8EncodeChar).length ≤ b) :
    ((print ft (.obj members)).flatMap String.utf8EncodeChar).length ≤
      members.length*(b+2)+2 := by
  have hmembers : ∀ members : List (String × Json), (∀ m ∈ members,
      ((printString m.1).flatMap String.utf8EncodeChar).length+
        ((print ft m.2).flatMap String.utf8EncodeChar).length ≤ b) →
      ((printMembers ft members).flatMap String.utf8EncodeChar).length ≤
        members.length*(b+2)+1 := by
    intro members h
    induction members with
    | nil =>
      rw [printMembers,List.length_nil,Nat.zero_mul]
      exact le_refl 1
    | cons m ms ih =>
      have hm := h m (by simp)
      have hms := ih fun y hy => h y (by simp [hy])
      have hcomma : (String.utf8EncodeChar ',').length = 1 := rfl
      have hcolon : (String.utf8EncodeChar ':').length = 1 := rfl
      simp only [printMembers,List.flatMap_cons,List.flatMap_append,List.length_append,
        List.length_cons,Nat.add_mul,one_mul,hcomma,hcolon]
      omega
  cases members with
  | nil =>
    rw [print,List.length_nil,Nat.zero_mul]
    exact le_refl 2
  | cons m ms =>
    have hm := h m (by simp)
    have hms := hmembers ms fun y hy => h y (by simp [hy])
    have hopen : (String.utf8EncodeChar '{').length = 1 := rfl
    have hcolon : (String.utf8EncodeChar ':').length = 1 := rfl
    simp only [print,List.flatMap_cons,List.flatMap_append,List.length_append,
      List.length_cons,Nat.add_mul,one_mul,hopen,hcolon]
    omega

theorem length_print_le (v : Json) : (print ft v).length ≤ weight ft v := by
  induction v using Json.induction with
  | null => simp [print,weight]
  | bool b => cases b <;> simp [print,weight]
  | num n => simp [print,weight]
  | str s => exact length_printString_le s
  | arr items ih =>
    have hitems : ∀ items : List Json, (∀ x ∈ items, (print ft x).length ≤ weight ft x) →
        (printItems ft items).length ≤ weightItems ft items+1 := by
      intro items h
      induction items with
      | nil => simp [printItems,weightItems]
      | cons x xs ihxs =>
        have hx := h x (by simp)
        have hxs := ihxs fun y hy => h y (by simp [hy])
        simp only [printItems,weightItems,List.length_cons,List.length_append]
        omega
    cases items with
    | nil => simp [print,weight]
    | cons x xs =>
      have hx := ih x (by simp)
      have hxs := hitems xs fun y hy => ih y (by simp [hy])
      simp only [print,weight,weightItems,List.length_cons,List.length_append]
      omega
  | obj members ih =>
    have hmembers : ∀ members : List (String × Json),
        (∀ m ∈ members, (print ft m.2).length ≤ weight ft m.2) →
        (printMembers ft members).length ≤ weightMembers ft members+1 := by
      intro members h
      induction members with
      | nil => simp [printMembers,weightMembers]
      | cons m ms ihms =>
        have hm := h m (by simp)
        have hkey := length_printString_le m.1
        have hms := ihms fun y hy => h y (by simp [hy])
        simp only [printMembers,weightMembers,List.length_cons,List.length_append]
        omega
    cases members with
    | nil => simp [print,weight]
    | cons m ms =>
      have hm := ih m (by simp)
      have hkey := length_printString_le m.1
      have hms := hmembers ms fun y hy => ih y (by simp [hy])
      simp only [print,weight,weightMembers,List.length_cons,List.length_append]
      omega

theorem weight_normalizeJson_le (v : Json) : weight ft (normalizeJson v) ≤ weight ft v := by
  induction v using Json.induction with
  | null | bool _ | num _ | str _ => rfl
  | arr items ih =>
    rw [normalizeJson_arr,weight,weight,weightItems_eq,weightItems_eq,List.map_map,
      add_le_add_iff_right]
    exact List.sum_le_sum fun x hx => Nat.add_le_add_right (ih x hx) 1
  | obj members ih =>
    rw [normalizeJson_obj,weight,weight,weightMembers_eq,weightMembers_eq,add_le_add_iff_right]
    set normalized := members.map fun m => (m.1,normalizeJson m.2) with hnormalized
    have hsub : (collectMembers normalized).Subperm normalized :=
      List.Nodup.subperm ((OrderedMap.keys_nodup _).of_map _) fun m hm =>
        OrderedMap.mem_of_mem_ofList hm
    obtain ⟨kept,hperm,hkept⟩ := hsub
    calc ((collectMembers normalized).map fun m => 6*m.1.utf8ByteSize+weight ft m.2+4).sum
        = (kept.map fun m => 6*m.1.utf8ByteSize+weight ft m.2+4).sum :=
          (hperm.map _).sum_nat.symm
      _ ≤ (normalized.map fun m => 6*m.1.utf8ByteSize+weight ft m.2+4).sum :=
          (hkept.map _).sum_le_sum fun _ _ => Nat.zero_le _
      _ ≤ (members.map fun m => 6*m.1.utf8ByteSize+weight ft m.2+4).sum := by
          rw [hnormalized,List.map_map]
          refine List.sum_le_sum fun m hm => ?_
          have hm := ih m hm
          simp only [Function.comp]
          omega

theorem length_bytes_print_le (v : Json) :
    (Text.bytes (String.ofList (print ft v))).length ≤ 4*weight ft v := by
  have hchar : ∀ c, (String.utf8EncodeChar c).length ≤ 4 := by
    intro c
    rw [String.length_utf8EncodeChar]
    exact c.utf8Size_le_four
  rw [Text.bytes_ofList]
  exact (length_flatMap_le hchar _).trans (Nat.mul_le_mul_left 4 (length_print_le ft v))

end CommitCiPreflight
