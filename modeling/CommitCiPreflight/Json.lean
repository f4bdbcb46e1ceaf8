import CommitCiPreflight.OrderedMap
import Mathlib.Algebra.Order.Ring.Int
import Mathlib.Data.List.Forall2
import Mathlib.Data.List.Perm.Basic
import Mathlib.Data.String.Basic

/-! JSON values. The members of an object are a list, in the order a document or a
serializer gives them: `serde_json::Value` keeps them in a `BTreeMap`, which is the
sorted form `normalizeJson` computes. -/
namespace CommitCiPreflight

/-- The exponent field of an IEEE 754 binary64 pattern is not all ones. -/
def FiniteBits (bits : UInt64) : Prop := (bits >>> 52) &&& 0x7ff ≠ 0x7ff

instance (bits : UInt64) : Decidable (FiniteBits bits) :=
  inferInstanceAs (Decidable (_ ≠ _))

/-- A finite `f64`, given by its bit pattern: two zeros of different sign differ here. -/
abbrev FiniteF64 := {bits : UInt64 // FiniteBits bits}

/-- A number as `serde_json` stores it: `u64`, a negative `i64`, or a finite `f64`. -/
inductive Number
  | posInt (n : UInt64)
  | negInt (n : ℤ) (range : -2^63 ≤ n ∧ n < 0)
  | float (value : FiniteF64)
  deriving DecidableEq

inductive Json
  | null
  | bool (b : Bool)
  | num (n : Number)
  | str (s : String)
  | arr (items : List Json)
  | obj (members : List (String × Json))

namespace Json

/-- Induction over a value and everything nested in it. -/
theorem induction {P : Json → Prop} (null : P .null) (bool : ∀ b, P (.bool b))
    (num : ∀ n, P (.num n)) (str : ∀ s, P (.str s))
    (arr : ∀ items, (∀ x ∈ items, P x) → P (.arr items))
    (obj : ∀ members, (∀ m ∈ members, P m.2) → P (.obj members)) (j : Json) : P j :=
  @Json.rec P (fun items => ∀ x ∈ items, P x) (fun members => ∀ m ∈ members, P m.2)
    (fun m => P m.2) null bool num str (fun items h => arr items h) (fun members h => obj members h)
    (fun _ h => absurd h List.not_mem_nil)
    (fun _ _ hx hxs => List.forall_mem_cons.mpr ⟨hx,hxs⟩)
    (fun _ h => absurd h List.not_mem_nil)
    (fun _ _ hm hms => List.forall_mem_cons.mpr ⟨hm,hms⟩)
    (fun _ _ h => h) j

mutual
def decEq : (a b : Json) → Decidable (a = b)
  | .null, .null => isTrue rfl
  | .bool a, .bool b => decidable_of_iff (a = b) (by simp)
  | .num a, .num b => decidable_of_iff (a = b) (by simp)
  | .str a, .str b => decidable_of_iff (a = b) (by simp)
  | .arr a, .arr b => @decidable_of_iff _ (a = b) (by simp) (decEqItems a b)
  | .obj a, .obj b => @decidable_of_iff _ (a = b) (by simp) (decEqMembers a b)
  | .null, .bool _ | .null, .num _ | .null, .str _ | .null, .arr _ | .null, .obj _
  | .bool _, .null | .bool _, .num _ | .bool _, .str _ | .bool _, .arr _ | .bool _, .obj _
  | .num _, .null | .num _, .bool _ | .num _, .str _ | .num _, .arr _ | .num _, .obj _
  | .str _, .null | .str _, .bool _ | .str _, .num _ | .str _, .arr _ | .str _, .obj _
  | .arr _, .null | .arr _, .bool _ | .arr _, .num _ | .arr _, .str _ | .arr _, .obj _
  | .obj _, .null | .obj _, .bool _ | .obj _, .num _ | .obj _, .str _ | .obj _, .arr _ =>
    isFalse (by simp)
def decEqItems : (a b : List Json) → Decidable (a = b)
  | [], [] => isTrue rfl
  | [], _::_ | _::_, [] => isFalse (by simp)
  | a::as, b::bs =>
    @decidable_of_iff _ (a = b ∧ as = bs) (by simp)
      (@instDecidableAnd _ _ (decEq a b) (decEqItems as bs))
def decEqMembers : (a b : List (String × Json)) → Decidable (a = b)
  | [], [] => isTrue rfl
  | [], _::_ | _::_, [] => isFalse (by simp)
  | (k,a)::as, (l,b)::bs =>
    @decidable_of_iff _ (k = l ∧ a = b ∧ as = bs) (by simp [and_assoc])
      (@instDecidableAnd _ _ _ (@instDecidableAnd _ _ (decEq a b) (decEqMembers as bs)))
end

instance : DecidableEq Json := decEq

end Json

/-- Collect members into a `BTreeMap`: sorted by key, the last of equal keys kept. -/
def collectMembers (members : List (String × Json)) : List (String × Json) :=
  (OrderedMap.ofList members).entries

mutual
/-- Sort every object, at every depth. -/
def normalizeJson : Json → Json
  | .arr items => .arr (normalizeItems items)
  | .obj members => .obj (collectMembers (normalizeMembers members))
  | .null => .null
  | .bool b => .bool b
  | .num n => .num n
  | .str s => .str s
def normalizeItems : List Json → List Json
  | [] => []
  | x::xs => normalizeJson x::normalizeItems xs
def normalizeMembers : List (String × Json) → List (String × Json)
  | [] => []
  | (k,v)::ms => (k,normalizeJson v)::normalizeMembers ms
end

theorem normalizeItems_eq (items : List Json) : normalizeItems items = items.map normalizeJson := by
  induction items with
  | nil => rfl
  | cons x xs ih => simp [normalizeItems,ih]

theorem normalizeMembers_eq (members : List (String × Json)) :
    normalizeMembers members = members.map fun m => (m.1,normalizeJson m.2) := by
  induction members with
  | nil => rfl
  | cons m ms ih => simp [normalizeMembers,ih]

@[simp] theorem normalizeJson_null : normalizeJson .null = .null := rfl
@[simp] theorem normalizeJson_bool (b : Bool) : normalizeJson (.bool b) = .bool b := rfl
@[simp] theorem normalizeJson_num (n : Number) : normalizeJson (.num n) = .num n := rfl
@[simp] theorem normalizeJson_str (s : String) : normalizeJson (.str s) = .str s := rfl

@[simp] theorem normalizeJson_arr (items : List Json) :
    normalizeJson (.arr items) = .arr (items.map normalizeJson) := by
  rw [normalizeJson,normalizeItems_eq]

theorem normalizeJson_obj (members : List (String × Json)) :
    normalizeJson (.obj members) =
      .obj (collectMembers (members.map fun m => (m.1,normalizeJson m.2))) := by
  rw [normalizeJson,normalizeMembers_eq]

theorem collectMembers_of_sorted {ms : List (String × Json)} (h : SortedKeys ms) :
    collectMembers ms = ms :=
  congrArg OrderedMap.entries (OrderedMap.ofList_entries ⟨ms,h⟩)

theorem collectMembers_eq_iff {ms ns : List (String × Json)} (hm : (ms.map Prod.fst).Nodup)
    (hn : (ns.map Prod.fst).Nodup) : collectMembers ms = collectMembers ns ↔ ms.Perm ns := by
  rw [collectMembers,collectMembers,OrderedMap.entries_inj,OrderedMap.ofList_eq_iff hm hn]

namespace Json

/-- No object at any depth repeats a key: what every `serde_json::Value` satisfies. -/
inductive Distinct : Json → Prop
  | null : Distinct .null
  | bool (b : Bool) : Distinct (.bool b)
  | num (n : Number) : Distinct (.num n)
  | str (s : String) : Distinct (.str s)
  | arr {items : List Json} (h : ∀ x ∈ items, Distinct x) : Distinct (.arr items)
  | obj {members : List (String × Json)} (keys : (members.map Prod.fst).Nodup)
      (h : ∀ m ∈ members, Distinct m.2) : Distinct (.obj members)

/-- Equality up to the order of object members at every depth. -/
inductive SameValue : Json → Json → Prop
  | null : SameValue .null .null
  | bool (b : Bool) : SameValue (.bool b) (.bool b)
  | num (n : Number) : SameValue (.num n) (.num n)
  | str (s : String) : SameValue (.str s) (.str s)
  | arr {xs ys : List Json} (h : List.Forall₂ SameValue xs ys) : SameValue (.arr xs) (.arr ys)
  | obj {ms zs ns : List (String × Json)} (reorder : ms.Perm zs)
      (keys : zs.map Prod.fst = ns.map Prod.fst)
      (values : List.Forall₂ SameValue (zs.map Prod.snd) (ns.map Prod.snd)) :
      SameValue (.obj ms) (.obj ns)

/-- Every float of the value is one of these. -/
inductive FloatsIn (S : Set FiniteF64) : Json → Prop
  | null : FloatsIn S .null
  | bool (b : Bool) : FloatsIn S (.bool b)
  | num {n : Number} (h : ∀ f, n = .float f → f ∈ S) : FloatsIn S (.num n)
  | str (s : String) : FloatsIn S (.str s)
  | arr {items : List Json} (h : ∀ x ∈ items, FloatsIn S x) : FloatsIn S (.arr items)
  | obj {members : List (String × Json)} (h : ∀ m ∈ members, FloatsIn S m.2) :
      FloatsIn S (.obj members)

section FloatsIn

variable {S T : Set FiniteF64} {n : Number} {xs : List Json} {ms : List (String × Json)} {v : Json}

theorem FloatsIn.number (h : (Json.num n).FloatsIn S) : ∀ f, n = .float f → f ∈ S := by
  cases h with | num h => exact h

theorem FloatsIn.mono (h : v.FloatsIn S) (hST : S ⊆ T) : v.FloatsIn T := by
  induction h with
  | null => exact .null
  | bool b => exact .bool b
  | num h => exact .num fun f hf => hST (h f hf)
  | str s => exact .str s
  | arr _ ih => exact .arr ih
  | obj _ ih => exact .obj ih

theorem floatsIn_univ (v : Json) : v.FloatsIn Set.univ := by
  induction v using Json.induction with
  | null => exact .null
  | bool b => exact .bool b
  | num n => exact .num fun _ _ => Set.mem_univ _
  | str s => exact .str s
  | arr items ih => exact .arr ih
  | obj members ih => exact .obj ih

end FloatsIn

mutual
/-- How many arrays and objects enclose the deepest scalar. -/
def nesting : Json → ℕ
  | .arr items => nestingItems items+1
  | .obj members => nestingMembers members+1
  | .null | .bool _ | .num _ | .str _ => 0
def nestingItems : List Json → ℕ
  | [] => 0
  | x::xs => max (nesting x) (nestingItems xs)
def nestingMembers : List (String × Json) → ℕ
  | [] => 0
  | (_,v)::ms => max (nesting v) (nestingMembers ms)
end

theorem nestingItems_le {items : List Json} {n : ℕ} :
    nestingItems items ≤ n ↔ ∀ x ∈ items, x.nesting ≤ n := by
  induction items with
  | nil => simp [nestingItems]
  | cons x xs ih => simp [nestingItems,ih]

theorem nestingMembers_le {members : List (String × Json)} {n : ℕ} :
    nestingMembers members ≤ n ↔ ∀ m ∈ members, m.2.nesting ≤ n := by
  induction members with
  | nil => simp [nestingMembers]
  | cons m ms ih => simp [nestingMembers,ih]

end Json

/-- `f64` has two zeros, and they are equal. -/
def Number.unsignedZero : Number → Number
  | .float value =>
    if value.val = 0x8000000000000000 then .float ⟨0,by decide⟩ else .float value
  | n => n

namespace Json

mutual
/-- The value without the signs of its zeros: two values are equal for `serde_json::Value`,
which compares floats as `f64`, when these are. -/
def unsignedZeros : Json → Json
  | .num n => .num n.unsignedZero
  | .arr items => .arr (unsignedItems items)
  | .obj members => .obj (unsignedMembers members)
  | .null => .null
  | .bool b => .bool b
  | .str s => .str s
def unsignedItems : List Json → List Json
  | [] => []
  | x::xs => unsignedZeros x::unsignedItems xs
def unsignedMembers : List (String × Json) → List (String × Json)
  | [] => []
  | (k,v)::ms => (k,unsignedZeros v)::unsignedMembers ms
end

@[simp] theorem unsignedZeros_arr (items : List Json) :
    unsignedZeros (.arr items) = .arr (items.map unsignedZeros) := by
  rw [unsignedZeros]
  induction items with
  | nil => rfl
  | cons x xs ih => simpa [unsignedItems] using ih

@[simp] theorem unsignedZeros_obj (members : List (String × Json)) :
    unsignedZeros (.obj members) = .obj (members.map fun m => (m.1,unsignedZeros m.2)) := by
  rw [unsignedZeros]
  induction members with
  | nil => rfl
  | cons m ms ih => simpa [unsignedMembers] using ih

theorem FloatsIn.unsignedZeros {v : Json} (h : v.FloatsIn ∅) : v.unsignedZeros = v := by
  induction h with
  | null | bool _ | str _ => rfl
  | @num n h =>
    cases n with
    | float f => exact absurd (h f rfl) (Set.notMem_empty f)
    | posInt _ | negInt _ _ => rfl
  | arr _ ih => rw [unsignedZeros_arr,List.map_congr_left ih,List.map_id']
  | @obj members _ ih =>
    have hsame : ∀ m ∈ members, (m.1,m.2.unsignedZeros) = m := fun m hm => Prod.ext rfl (ih m hm)
    rw [unsignedZeros_obj,List.map_congr_left hsame,List.map_id']

end Json

open Json

theorem floatsIn_normalizeJson {S : Set FiniteF64} {v : Json} (h : v.FloatsIn S) :
    (normalizeJson v).FloatsIn S := by
  induction h with
  | null => exact .null
  | bool b => exact .bool b
  | num h => exact .num h
  | str s => exact .str s
  | arr _ ih =>
    rw [normalizeJson_arr]
    exact .arr (List.forall_mem_map.2 ih)
  | obj _ ih =>
    rw [normalizeJson_obj]
    refine .obj fun m hm => ?_
    obtain ⟨n,hn,rfl⟩ := List.mem_map.1 (OrderedMap.mem_of_mem_ofList hm)
    exact ih n hn

theorem nesting_normalizeJson_le (v : Json) : (normalizeJson v).nesting ≤ v.nesting := by
  induction v using Json.induction with
  | null | bool _ | num _ | str _ => rfl
  | arr items ih =>
    have hitems := nestingItems_le.1 (le_refl (nestingItems items))
    simp only [normalizeJson_arr,nesting,add_le_add_iff_right,nestingItems_le,List.mem_map]
    rintro y ⟨x,hx,rfl⟩
    exact (ih x hx).trans (hitems x hx)
  | obj members ih =>
    have hmembers := nestingMembers_le.1 (le_refl (nestingMembers members))
    simp only [normalizeJson_obj,nesting,add_le_add_iff_right,nestingMembers_le]
    intro m hm
    obtain ⟨n,hn,rfl⟩ := List.mem_map.1 (OrderedMap.mem_of_mem_ofList hm)
    exact (ih n hn).trans (hmembers n hn)

theorem keys_map_normalize (members : List (String × Json)) :
    (members.map fun m => (m.1,normalizeJson m.2)).map Prod.fst = members.map Prod.fst := by
  simp [Function.comp_def]

theorem map_eq_map_iff_forall₂ {α β γ : Type} {f : α → γ} {g : β → γ} {xs : List α}
    {ys : List β} : xs.map f = ys.map g ↔ List.Forall₂ (fun a b => f a = g b) xs ys := by
  rw [← List.forall₂_eq_eq_eq,List.forall₂_map_left_iff,List.forall₂_map_right_iff]

theorem forall₂_congr_mem {α β : Type} {R S : α → β → Prop} {xs : List α} {ys : List β}
    (h : ∀ a ∈ xs, ∀ b ∈ ys, (R a b ↔ S a b)) :
    List.Forall₂ R xs ys ↔ List.Forall₂ S xs ys := by
  induction xs generalizing ys with
  | nil => cases ys <;> simp
  | cons x xs ih =>
    cases ys with
    | nil => simp
    | cons y ys =>
      rw [List.forall₂_cons,List.forall₂_cons,h x (by simp) y (by simp),ih]
      intro a ha b hb
      exact h a (by simp [ha]) b (by simp [hb])

/-- A permutation of images comes from a permutation of the originals. -/
theorem exists_perm_of_map_perm {α β : Type} {f : α → β} {xs ys : List α}
    (h : (xs.map f).Perm (ys.map f)) : ∃ zs, xs.Perm zs ∧ zs.map f = ys.map f := by
  have hcomp : Relation.Comp (· = List.map f ·) List.Perm (ys.map f) xs := by
    rw [List.eq_map_comp_perm]
    exact h.symm
  obtain ⟨zs,hzs,hperm⟩ := hcomp
  exact ⟨zs,hperm.symm,hzs.symm⟩

/-- Two values without repeated keys normalize alike exactly when they differ at most in
the order of members. The induction follows the first value; at an object the two sorted
member lists agree exactly when the unsorted ones are permutations of each other. -/
theorem normalizeJson_eq_iff {v w : Json} (hv : v.Distinct) (hw : w.Distinct) :
    normalizeJson v = normalizeJson w ↔ SameValue v w := by
  induction v using Json.induction generalizing w with
  | null | bool _ | num _ | str _ =>
    constructor
    · intro h
      cases w <;> simp_all [normalizeJson_obj]
      constructor
    · intro h
      cases h
      rfl
  | arr items ih =>
    have hitems : ∀ x ∈ items, x.Distinct := by cases hv with | arr h => exact h
    have hiff : ∀ others : List Json, (∀ x ∈ others, x.Distinct) →
        (items.map normalizeJson = others.map normalizeJson ↔
          List.Forall₂ SameValue items others) := by
      intro others hothers
      rw [map_eq_map_iff_forall₂]
      exact forall₂_congr_mem fun a ha b hb => ih a ha (hitems a ha) (hothers b hb)
    constructor
    · intro h
      cases w with
      | arr others =>
        cases hw with
        | arr hothers =>
          rw [normalizeJson_arr,normalizeJson_arr,Json.arr.injEq] at h
          exact .arr ((hiff others hothers).mp h)
      | null | bool _ | num _ | str _ => simp at h
      | obj _ => simp [normalizeJson_obj] at h
    · intro h
      cases h with
      | arr hsame =>
        cases hw with
        | arr hothers =>
          rw [normalizeJson_arr,normalizeJson_arr,(hiff _ hothers).mpr hsame]
  | obj members ih =>
    obtain ⟨hkeys,hmembers⟩ : (members.map Prod.fst).Nodup ∧ ∀ m ∈ members, m.2.Distinct := by
      cases hv with | obj hk h => exact ⟨hk,h⟩
    have hiff : ∀ zs others : List (String × Json), members.Perm zs →
        (∀ m ∈ others, m.2.Distinct) →
        ((zs.map fun m => (m.1,normalizeJson m.2)) =
          (others.map fun m => (m.1,normalizeJson m.2)) ↔
        zs.map Prod.fst = others.map Prod.fst ∧
          List.Forall₂ SameValue (zs.map Prod.snd) (others.map Prod.snd)) := by
      intro zs others hperm hothers
      rw [map_eq_map_iff_forall₂,map_eq_map_iff_forall₂,List.forall₂_map_left_iff,
        List.forall₂_map_right_iff]
      rw [forall₂_congr_mem (S := fun a b => a.1 = b.1 ∧ a.2.SameValue b.2)]
      · constructor
        · intro h
          exact ⟨h.imp fun _ _ => And.left,h.imp fun _ _ => And.right⟩
        · rintro ⟨hk,hvals⟩
          exact hk.mp (fun _ _ => And.intro) hvals
      · intro a ha b hb
        have hmem := hperm.mem_iff.mpr ha
        rw [Prod.mk.injEq,ih a hmem (hmembers a hmem) (hothers b hb)]
    constructor
    · intro h
      cases w with
      | obj others =>
        cases hw with
        | obj hokeys hothers =>
          rw [normalizeJson_obj,normalizeJson_obj,Json.obj.injEq,
            collectMembers_eq_iff (by rwa [keys_map_normalize]) (by rwa [keys_map_normalize])] at h
          obtain ⟨zs,hperm,hzs⟩ := exists_perm_of_map_perm h
          obtain ⟨hk,hvals⟩ := (hiff zs others hperm hothers).mp hzs
          exact .obj hperm hk hvals
      | null | bool _ | num _ | str _ => simp [normalizeJson_obj] at h
      | arr _ => simp [normalizeJson_obj] at h
    · intro h
      cases h with
      | @obj _ zs others hperm hk hvals =>
        cases hw with
        | obj hokeys hothers =>
          rw [normalizeJson_obj,normalizeJson_obj,Json.obj.injEq,
            collectMembers_eq_iff (by rwa [keys_map_normalize]) (by rwa [keys_map_normalize]),
            ← (hiff zs others hperm hothers).mpr ⟨hk,hvals⟩]
          exact hperm.map _

theorem normalizeJson_distinct (v : Json) : (normalizeJson v).Distinct := by
  induction v using Json.induction with
  | null => exact .null
  | bool b => exact .bool b
  | num n => exact .num n
  | str s => exact .str s
  | arr items ih =>
    rw [normalizeJson_arr]
    exact .arr (List.forall_mem_map.2 ih)
  | obj members ih =>
    rw [normalizeJson_obj]
    refine .obj (OrderedMap.keys_nodup _) fun m hm => ?_
    obtain ⟨n,hn,rfl⟩ := List.mem_map.1 (OrderedMap.mem_of_mem_ofList hm)
    exact ih n hn

theorem normalizeJson_idem (v : Json) : normalizeJson (normalizeJson v) = normalizeJson v := by
  induction v using Json.induction with
  | null | bool _ | num _ | str _ => rfl
  | arr items ih =>
    simp only [normalizeJson_arr,List.map_map,Json.arr.injEq]
    exact List.map_congr_left ih
  | obj members ih =>
    rw [normalizeJson_obj,normalizeJson_obj,Json.obj.injEq]
    have hfixed : ∀ m ∈ collectMembers (members.map fun m => (m.1,normalizeJson m.2)),
        (m.1,normalizeJson m.2) = m := by
      intro m hm
      obtain ⟨n,hn,rfl⟩ := List.mem_map.1 (OrderedMap.mem_of_mem_ofList hm)
      rw [ih n hn]
    rw [List.map_congr_left hfixed,List.map_id']
    exact congrArg OrderedMap.entries (OrderedMap.ofList_entries _)

end CommitCiPreflight
