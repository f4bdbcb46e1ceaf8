import CommitCiPreflight.Json

/-! Derived serializers and deserializers for records with named fields. A record is
written as an object, and is read from an object whose keys are known and not repeated
or from an array that lists the fields in order. A codec carries the proof that it reads
back what it writes, whatever order the members are then sorted into. -/
namespace CommitCiPreflight

/-- A type with a JSON form. `depth` bounds the nesting of everything it writes, and it writes no
float. -/
structure Codec (α : Type) where
  encode : α → Json
  decode : Json → Option α
  decode_encode : ∀ x, decode (normalizeJson (encode x)) = some x
  encode_ne_null : ∀ x, encode x ≠ .null
  depth : ℕ
  nesting_le : ∀ x, (encode x).nesting ≤ depth
  floatFree : ∀ x, (encode x).FloatsIn ∅

theorem normalizeJson_eq_null {v : Json} : normalizeJson v = .null ↔ v = .null := by
  cases v <;> simp [normalizeJson_obj]

theorem Json.str_ne_null (s : String) : Json.str s ≠ .null := by simp

theorem Json.bool_ne_null (b : Bool) : Json.bool b ≠ .null := by simp

namespace Codec

variable {α : Type}

theorem floatsIn (c : Codec α) (x : α) (S : Set FiniteF64) : (c.encode x).FloatsIn S :=
  (c.floatFree x).mono (Set.empty_subset S)

theorem encode_injective (c : Codec α) {x y : α}
    (h : normalizeJson (c.encode x) = normalizeJson (c.encode y)) : x = y := by
  have hx := c.decode_encode x
  rw [h,c.decode_encode y] at hx
  exact (Option.some.inj hx).symm

def string : Codec String where
  encode := .str
  decode
    | .str s => some s
    | _ => none
  decode_encode _ := rfl
  encode_ne_null := Json.str_ne_null
  depth := 0
  nesting_le _ := le_rfl
  floatFree := .str

def bool : Codec Bool where
  encode := .bool
  decode
    | .bool b => some b
    | _ => none
  decode_encode _ := rfl
  encode_ne_null := Json.bool_ne_null
  depth := 0
  nesting_le _ := le_rfl
  floatFree := .bool

def u64 : Codec UInt64 where
  encode n := .num (.posInt n)
  decode
    | .num (.posInt n) => some n
    | _ => none
  decode_encode _ := rfl
  encode_ne_null _ := by simp
  depth := 0
  nesting_le _ := le_rfl
  floatFree _ := .num (by simp)

def u32 : Codec UInt32 where
  encode n := .num (.posInt n.toUInt64)
  decode
    | .num (.posInt n) => if n.toNat < 2^32 then some n.toUInt32 else none
    | _ => none
  decode_encode n := by
    have h : n.toUInt64.toNat < 2^32 := n.toNat_lt
    simp only [normalizeJson_num,if_pos h,UInt32.toUInt32_toUInt64]
  encode_ne_null _ := by simp
  depth := 0
  nesting_le _ := le_rfl
  floatFree _ := .num (by simp)

def u16 : Codec UInt16 where
  encode n := .num (.posInt n.toUInt64)
  decode
    | .num (.posInt n) => if n.toNat < 2^16 then some n.toUInt16 else none
    | _ => none
  decode_encode n := by
    have h : n.toUInt64.toNat < 2^16 := n.toNat_lt
    simp only [normalizeJson_num,if_pos h,UInt16.toUInt16_toUInt64]
  encode_ne_null _ := by simp
  depth := 0
  nesting_le _ := le_rfl
  floatFree _ := .num (by simp)

def i32 : Codec Int32 where
  encode n :=
    if h : n.toInt < 0 then .num (.negInt n.toInt ⟨by have := n.le_toInt; omega,h⟩)
    else .num (.posInt (UInt64.ofNat n.toInt.toNat))
  decode
    | .num (.posInt n) => if n.toNat < 2^31 then some (Int32.ofInt n.toNat) else none
    | .num (.negInt n _) => if -2^31 ≤ n then some (Int32.ofInt n) else none
    | _ => none
  decode_encode n := by
    have hlow := n.le_toInt
    have hhigh := n.toInt_lt
    by_cases h : n.toInt < 0
    · simp only [dif_pos h,normalizeJson_num,if_pos hlow,Int32.ofInt_toInt]
    · have hsize : (UInt64.ofNat n.toInt.toNat).toNat = n.toInt.toNat :=
        UInt64.toNat_ofNat_of_lt' (show n.toInt.toNat < 2^64 by omega)
      have hcast : (n.toInt.toNat : ℤ) = n.toInt := Int.toNat_of_nonneg (by omega)
      have hlt : n.toInt.toNat < 2^31 := by omega
      simp only [dif_neg h,normalizeJson_num,hsize,if_pos hlt,hcast,Int32.ofInt_toInt]
  encode_ne_null n := by split <;> simp
  depth := 0
  nesting_le n := by split <;> exact le_rfl
  floatFree n := by split <;> exact .num (by simp)

/-- `Vec<T>`. -/
def list (c : Codec α) : Codec (List α) where
  encode xs := .arr (xs.map c.encode)
  decode
    | .arr items => items.mapM c.decode
    | _ => none
  decode_encode xs := by
    simp only [normalizeJson_arr,List.map_map,List.mapM_map]
    induction xs with
    | nil => rfl
    | cons x xs ih =>
      simp only [List.mapM_cons,Function.comp_apply,c.decode_encode,Option.bind_eq_bind,
        Option.bind_some] at ih ⊢
      rw [ih]
      rfl
  encode_ne_null _ := by simp
  depth := c.depth+1
  nesting_le xs := by
    simp only [Json.nesting,add_le_add_iff_right,Json.nestingItems_le,List.mem_map]
    rintro _ ⟨x,-,rfl⟩
    exact c.nesting_le x
  floatFree xs := .arr (List.forall_mem_map.2 fun x _ => c.floatFree x)

/-- A fieldless enumeration under the labels of its variants: read from the label, or
from an object whose only member maps the label to null. -/
def enum (label : α → String) (variants : List α)
    (complete : ∀ x, variants.find? (label · = label x) = some x) : Codec α where
  encode x := .str (label x)
  decode
    | .str s => variants.find? (label · = s)
    | .obj [(s,.null)] => variants.find? (label · = s)
    | _ => none
  decode_encode x := complete x
  encode_ne_null _ := by simp
  depth := 0
  nesting_le _ := le_rfl
  floatFree x := .str (label x)

end Codec

inductive Form
  | map
  | seq
  deriving DecidableEq

structure Members where
  form : Form
  entries : List (String × Json)

namespace Members

/-- What a strict record with the given fields can be read from. -/
def ofJson (names : List String) : Json → Option Members
  | .obj members =>
    if (members.map Prod.fst).Nodup ∧ ∀ k ∈ members.map Prod.fst, k ∈ names then
      some ⟨.map,members⟩
    else none
  | .arr items =>
    if items.length ≤ names.length then some ⟨.seq,names.zip items⟩ else none
  | _ => none

variable {names : List String}

theorem ofJson_normalizeJson (nodup : names.Nodup) {members : List (String × Json)}
    (keys : (members.map Prod.fst).Sublist names) :
    ∃ entries, ofJson names (normalizeJson (.obj members)) = some ⟨.map,entries⟩ ∧
      ∀ k, lookupEntry k entries = (lookupEntry k members).map normalizeJson := by
  have hnodup := keys.nodup nodup
  rw [← keys_map_normalize] at hnodup
  have hsame := (OrderedMap.entries_ofList_perm hnodup).map Prod.fst
  refine ⟨collectMembers (members.map fun m => (m.1,normalizeJson m.2)),?_,fun k => ?_⟩
  · rw [normalizeJson_obj,ofJson,if_pos]
    refine ⟨hsame.nodup_iff.2 hnodup,fun k hk => keys.subset ?_⟩
    rw [← keys_map_normalize]
    exact hsame.mem_iff.1 hk
  · rw [← lookupEntry_map fun _ => normalizeJson]
    exact OrderedMap.get?_ofList hnodup k

theorem ofJson_obj {members : List (String × Json)} {ms : Members}
    (h : ofJson names (.obj members) = some ms) :
    (∀ k ∈ members.map Prod.fst, k ∈ names) ∧ ms.entries = members := by
  rw [ofJson] at h
  split_ifs at h with hnames
  exact ⟨hnames.2,Option.some.inj h ▸ rfl⟩

theorem ofJson_arr {items : List Json} {ms : Members} (h : ofJson names (.arr items) = some ms) :
    items.length ≤ names.length ∧ ms.entries.map Prod.fst = names.take items.length := by
  rw [ofJson] at h
  split_ifs at h with hlength
  obtain rfl := Option.some.inj h
  refine ⟨hlength,?_⟩
  rw [List.zip_eq_zip_take_min,Nat.min_eq_right hlength,List.map_fst_zip (by simp [hlength])]

end Members

/-- How one field is written, read, and filled in when it is absent. -/
structure Field (β : Type) where
  name : String
  write : β → Option Json
  read : Json → Option β
  absent : Form → Option β
  read_write : ∀ x v, write x = some v → read (normalizeJson v) = some x
  absent_write : ∀ x, write x = none → absent .map = some x
  depth : ℕ
  nesting_le : ∀ x v, write x = some v → v.nesting ≤ depth
  floatFree : ∀ x v, write x = some v → v.FloatsIn ∅

namespace Field

variable {α : Type}

def required (name : String) (c : Codec α) : Field α where
  name := name
  write x := some (c.encode x)
  read := c.decode
  absent _ := none
  read_write x v h := by
    cases h
    exact c.decode_encode x
  absent_write _ h := by simp at h
  depth := c.depth
  nesting_le x v h := by
    cases h
    exact c.nesting_le x
  floatFree x v h := by
    cases h
    exact c.floatFree x

def readOption (c : Codec α) : Json → Option (Option α)
  | .null => some none
  | v => (c.decode v).map some

theorem readOption_encode (c : Codec α) (x : α) :
    readOption c (normalizeJson (c.encode x)) = some (some x) := by
  have hne : normalizeJson (c.encode x) ≠ .null :=
    fun h => c.encode_ne_null x (normalizeJson_eq_null.1 h)
  unfold readOption
  split
  · exact absurd ‹_› hne
  · rw [c.decode_encode]
    rfl

/-- `Option<T>`, written as null when it is none. -/
def nullable (name : String) (c : Codec α) : Field (Option α) where
  name := name
  write
    | none => some .null
    | some x => some (c.encode x)
  read := readOption c
  absent
    | .map => some none
    | .seq => none
  read_write x v h := by
    cases x <;> cases h
    · rfl
    · exact readOption_encode c _
  absent_write x h := by cases x <;> simp at h
  depth := c.depth
  nesting_le x v h := by
    cases x <;> cases h
    · exact Nat.zero_le _
    · exact c.nesting_le _
  floatFree x v h := by
    cases x <;> cases h
    · exact .null
    · exact c.floatFree _

/-- `Option<T>` skipped when it is none. Only a field with `serde(default)` may be
missing at the end of an array. -/
def omitNone (name : String) (c : Codec α) (default : Bool) : Field (Option α) where
  name := name
  write x := x.map c.encode
  read := readOption c
  absent
    | .map => some none
    | .seq => if default then some none else none
  read_write x v h := by
    cases x <;> cases h
    exact readOption_encode c _
  absent_write x h := by
    cases x
    · rfl
    · simp at h
  depth := c.depth
  nesting_le x v h := by
    cases x <;> cases h
    exact c.nesting_le _
  floatFree x v h := by
    cases x <;> cases h
    exact c.floatFree _

/-- `Vec<T>` with `serde(default)`, skipped when it is empty. -/
def omitEmpty (name : String) (c : Codec α) : Field (List α) where
  name := name
  write xs := if xs = [] then none else some (c.list.encode xs)
  read := c.list.decode
  absent _ := some []
  read_write xs v h := by
    split at h <;> cases h
    exact c.list.decode_encode xs
  absent_write xs h := by
    split at h
    · simp [*]
    · simp at h
  depth := c.list.depth
  nesting_le xs v h := by
    split at h <;> cases h
    exact c.list.nesting_le xs
  floatFree xs v h := by
    split at h <;> cases h
    exact c.list.floatFree xs

def take (f : Field α) (ms : Members) : Option α :=
  match lookupEntry f.name ms.entries with
  | some v => f.read v
  | none => f.absent ms.form

theorem take_eq_some (f : Field α) {entries : List (String × Json)} {x : α}
    (h : lookupEntry f.name entries = (f.write x).map normalizeJson) :
    f.take ⟨.map,entries⟩ = some x := by
  unfold take
  rw [h]
  cases hw : f.write x with
  | none => exact f.absent_write x hw
  | some v => exact f.read_write x v hw

theorem take_required {name : String} {c : Codec α} {ms : Members} {x : α}
    (h : (required name c).take ms = some x) :
    ∃ v, lookupEntry name ms.entries = some v ∧ c.decode v = some x := by
  simp only [take,required] at h
  cases hlookup : lookupEntry name ms.entries with
  | none => simp [hlookup] at h
  | some v => exact ⟨v,rfl,by simpa [hlookup] using h⟩

def member (f : Field α) (x : α) : List (String × Json) :=
  match f.write x with
  | none => []
  | some v => [(f.name,v)]

theorem lookupEntry_member (f : Field α) (x : α) : lookupEntry f.name (f.member x) = f.write x := by
  unfold member
  cases f.write x <;> simp [lookupEntry]

theorem keys_member (f : Field α) (x : α) : ((f.member x).map Prod.fst).Sublist [f.name] := by
  unfold member
  cases f.write x <;> simp

end Field

/-- The fields taken so far of records of type `σ`, and the value built from them. -/
structure Fields (σ α : Type) where
  names : List String
  write : σ → List (String × Json)
  read : Members → Option α
  value : σ → α
  keys_sublist : ∀ x, ((write x).map Prod.fst).Sublist names
  read_write : names.Nodup → ∀ x entries,
    (∀ k ∈ names, lookupEntry k entries = (lookupEntry k (write x)).map normalizeJson) →
      read ⟨.map,entries⟩ = some (value x)
  depth : ℕ
  nesting_le : ∀ x, ∀ m ∈ write x, m.2.nesting ≤ depth
  floatFree : ∀ x, ∀ m ∈ write x, m.2.FloatsIn ∅

namespace Fields

variable {σ α β : Type}

def of (f : α) : Fields σ α where
  names := []
  write _ := []
  read _ := some f
  value _ := f
  keys_sublist _ := List.Sublist.slnil
  read_write _ _ _ _ := rfl
  depth := 0
  nesting_le _ := by simp
  floatFree _ := by simp

theorem lookupEntry_write_eq_none (fs : Fields σ α) {k : String} (h : k ∉ fs.names) (x : σ) :
    lookupEntry k (fs.write x) = none :=
  lookupEntry_eq_none_iff.2 fun hk => h ((fs.keys_sublist x).subset hk)

/-- The next field, in declaration order. -/
def add (fs : Fields σ (β → α)) (f : Field β) (get : σ → β) : Fields σ α where
  names := fs.names++[f.name]
  write x := fs.write x++f.member (get x)
  read ms := (fs.read ms).bind fun g => (f.take ms).map g
  value x := fs.value x (get x)
  keys_sublist x := by
    rw [List.map_append]
    exact (fs.keys_sublist x).append (f.keys_member (get x))
  read_write hnodup x entries h := by
    rw [List.nodup_append] at hnodup
    have hfresh : f.name ∉ fs.names := fun hm => hnodup.2.2 _ hm _ (by simp) rfl
    have hold : ∀ k ∈ fs.names,
        lookupEntry k entries = (lookupEntry k (fs.write x)).map normalizeJson := by
      intro k hk
      have hne : k ∉ (f.member (get x)).map Prod.fst := by
        intro hm
        exact hfresh (List.mem_singleton.1 ((f.keys_member (get x)).subset hm) ▸ hk)
      rw [h k (by simp [hk]),lookupEntry_append,lookupEntry_eq_none_iff.2 hne,Option.or_none]
    have hnew : lookupEntry f.name entries = (f.write (get x)).map normalizeJson := by
      rw [h f.name (by simp),lookupEntry_append,fs.lookupEntry_write_eq_none hfresh,
        Option.none_or,f.lookupEntry_member]
    rw [fs.read_write hnodup.1 x entries hold,Option.bind_some,f.take_eq_some hnew]
    rfl
  depth := max fs.depth f.depth
  nesting_le x m hm := by
    rcases List.mem_append.1 hm with hm | hm
    · exact (fs.nesting_le x m hm).trans (le_max_left _ _)
    · unfold Field.member at hm
      cases hw : f.write (get x) with
      | none => simp [hw] at hm
      | some v =>
        rw [hw,List.mem_singleton] at hm
        subst hm
        exact (f.nesting_le _ v hw).trans (le_max_right _ _)
  floatFree x m hm := by
    rcases List.mem_append.1 hm with hm | hm
    · exact fs.floatFree x m hm
    · unfold Field.member at hm
      cases hw : f.write (get x) with
      | none => simp [hw] at hm
      | some v =>
        rw [hw,List.mem_singleton] at hm
        subst hm
        exact f.floatFree _ v hw

def Needs (fs : Fields σ α) (name : String) : Prop :=
  ∀ ms x, fs.read ms = some x → name ∈ ms.entries.map Prod.fst

theorem needs_required (fs : Fields σ (β → α)) (name : String) (c : Codec β) (get : σ → β) :
    (fs.add (.required name c) get).Needs name := by
  intro ms x hread
  obtain ⟨_,-,hmap⟩ := Option.bind_eq_some_iff.1 hread
  obtain ⟨_,htake,-⟩ := Option.map_eq_some_iff.1 hmap
  obtain ⟨v,hlookup,-⟩ := Field.take_required htake
  by_contra hnot
  rw [lookupEntry_eq_none_iff.2 hnot] at hlookup
  cases hlookup

theorem Needs.add {fs : Fields σ (β → α)} {name : String} (h : fs.Needs name) (f : Field β)
    (get : σ → β) : (fs.add f get).Needs name := by
  intro ms x hread
  obtain ⟨g,hg,-⟩ := Option.bind_eq_some_iff.1 hread
  exact h ms g hg

end Fields

/-- A record with `deny_unknown_fields`. -/
def Codec.struct {α : Type} (fs : Fields α α) (nodup : fs.names.Nodup)
    (whole : ∀ x, fs.value x = x) : Codec α where
  encode x := .obj (fs.write x)
  decode v := (Members.ofJson fs.names v).bind fs.read
  decode_encode x := by
    obtain ⟨entries,hof,hlookup⟩ := Members.ofJson_normalizeJson nodup (fs.keys_sublist x)
    rw [hof,Option.bind_some,fs.read_write nodup x entries (fun k _ => hlookup k),whole]
  encode_ne_null _ := by simp
  depth := fs.depth+1
  nesting_le x := by
    simpa only [Json.nesting,add_le_add_iff_right,Json.nestingMembers_le] using fs.nesting_le x
  floatFree x := .obj (fs.floatFree x)

/-- A record whose values are no containers is read back as it was written. -/
theorem Codec.struct_decode_encode {α : Type} {fs : Fields α α} {nodup : fs.names.Nodup}
    {whole : ∀ x, fs.value x = x} {x : α}
    (hflat : ∀ m ∈ fs.write x, normalizeJson m.2 = m.2) :
    (Codec.struct fs nodup whole).decode ((Codec.struct fs nodup whole).encode x) = some x := by
  have hof : Members.ofJson fs.names (.obj (fs.write x)) = some ⟨.map,fs.write x⟩ :=
    if_pos ⟨(fs.keys_sublist x).nodup nodup,fun k hk => (fs.keys_sublist x).subset hk⟩
  have hlookup : ∀ k, lookupEntry k (fs.write x) =
      (lookupEntry k (fs.write x)).map normalizeJson := by
    intro k
    cases hk : lookupEntry k (fs.write x) with
    | none => rfl
    | some v =>
      have hmem := (lookupEntry_eq_some_iff ((fs.keys_sublist x).nodup nodup)).1 hk
      exact congrArg some (hflat (k,v) hmem).symm
  change (Members.ofJson fs.names (.obj (fs.write x))).bind fs.read = some x
  rw [hof,Option.bind_some,fs.read_write nodup x _ fun k _ => hlookup k,whole]

end CommitCiPreflight
