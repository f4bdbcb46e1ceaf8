import Mathlib.Data.List.Sort
import Mathlib.Data.List.Nodup
import Mathlib.Order.Bounds.Basic
import Mathlib.Data.Set.Function

/-! Maps and sets kept as strictly sorted entry lists, the observable behaviour of
`BTreeMap` and `BTreeSet`: iteration is in ascending key order and an insertion
replaces the value of an equal key. -/
namespace CommitCiPreflight

variable {κ α β : Type} [LinearOrder κ] {es : List (κ × α)} {k : κ}

/-- Insert into a sorted entry list, replacing the value of an equal key. -/
def insertEntry (k : κ) (v : α) : List (κ × α) → List (κ × α)
  | [] => [(k,v)]
  | e::es =>
    if k < e.1 then (k,v)::e::es
    else if k = e.1 then (k,v)::es
    else e::insertEntry k v es

def lookupEntry (k : κ) : List (κ × α) → Option α
  | [] => none
  | e::es => if k = e.1 then some e.2 else lookupEntry k es

def SortedKeys (es : List (κ × α)) : Prop := es.Pairwise fun a b => a.1 < b.1

theorem lookupEntry_insertEntry (k k' : κ) (v : α) (es : List (κ × α)) :
    lookupEntry k' (insertEntry k v es) = if k' = k then some v else lookupEntry k' es := by
  induction es with
  | nil => rfl
  | cons e es ih =>
    simp only [insertEntry]
    split
    · rfl
    · split
      · rename_i hke
        by_cases hk : k' = k
        · simp [lookupEntry,hk]
        · simp [lookupEntry,hk,← hke]
      · rename_i hlt hke
        by_cases hk : k' = k
        · subst k'
          simp [lookupEntry,hke,ih]
        · simp [lookupEntry,hk,ih]

theorem mem_insertEntry {v : α} {e : κ × α} (h : e ∈ insertEntry k v es) : e = (k,v) ∨ e ∈ es := by
  induction es with
  | nil => simpa [insertEntry] using h
  | cons a es ih =>
    simp only [insertEntry] at h
    split_ifs at h
    · simpa using h
    · rcases List.mem_cons.mp h with rfl | h
      · exact Or.inl rfl
      · exact Or.inr (by simp [h])
    · rcases List.mem_cons.mp h with rfl | h
      · exact Or.inr (by simp)
      · exact (ih h).imp_right (by simp +contextual)

theorem insertEntry_perm {v : α} (h : k ∉ es.map Prod.fst) :
    (insertEntry k v es).Perm ((k,v)::es) := by
  induction es with
  | nil => exact List.Perm.refl _
  | cons e es ih =>
    rw [List.map_cons,List.mem_cons,not_or] at h
    simp only [insertEntry,if_neg h.1]
    split
    · exact List.Perm.refl _
    · exact ((ih h.2).cons e).trans (List.Perm.swap _ _ _)

theorem sortedKeys_insertEntry (k : κ) (v : α) (h : SortedKeys es) :
    SortedKeys (insertEntry k v es) := by
  induction es with
  | nil => simp [insertEntry,SortedKeys]
  | cons e es ih =>
    have hes : SortedKeys es := h.of_cons
    have he : ∀ a ∈ es, e.1 < a.1 := fun a ha => List.rel_of_pairwise_cons h ha
    simp only [insertEntry]
    split_ifs with hlt heq
    · refine List.Pairwise.cons ?_ h
      intro a ha
      rcases List.mem_cons.mp ha with rfl | ha
      · exact hlt
      · exact hlt.trans (he a ha)
    · subst heq
      exact List.Pairwise.cons he hes
    · refine List.Pairwise.cons ?_ (ih hes)
      intro a ha
      rcases mem_insertEntry ha with rfl | ha
      · exact lt_of_le_of_ne (not_lt.mp hlt) (Ne.symm heq)
      · exact he a ha

theorem lookupEntry_eq_some_iff {v : α} (h : (es.map Prod.fst).Nodup) :
    lookupEntry k es = some v ↔ (k,v) ∈ es := by
  induction es with
  | nil => simp [lookupEntry]
  | cons e es ih =>
    rw [List.map_cons,List.nodup_cons] at h
    by_cases hk : k = e.1
    · subst hk
      have hnot : (e.1,v) ∉ es := fun hm => h.1 (List.mem_map.mpr ⟨_,hm,rfl⟩)
      simp only [lookupEntry,if_true,Option.some.injEq,List.mem_cons,hnot,or_false]
      constructor
      · rintro rfl
        rfl
      · intro hv
        exact (congrArg Prod.snd hv).symm
    · simp only [lookupEntry,if_neg hk,ih h.2,List.mem_cons]
      constructor
      · exact Or.inr
      · rintro (hm | hm)
        · exact absurd (congrArg Prod.fst hm) hk
        · exact hm

theorem lookupEntry_eq_none_iff : lookupEntry k es = none ↔ k ∉ es.map Prod.fst := by
  induction es with
  | nil => simp [lookupEntry]
  | cons e es ih =>
    by_cases hk : k = e.1
    · simp [lookupEntry,hk]
    · simp [lookupEntry,hk,ih]

theorem lookupEntry_append (k : κ) (es fs : List (κ × α)) :
    lookupEntry k (es++fs) = (lookupEntry k es).or (lookupEntry k fs) := by
  induction es with
  | nil => rfl
  | cons e es ih =>
    by_cases hk : k = e.1
    · simp [lookupEntry,hk]
    · simp [lookupEntry,hk,ih]

theorem lookupEntry_map (f : κ → α → β) (k : κ) (es : List (κ × α)) :
    lookupEntry k (es.map fun e => (e.1,f e.1 e.2)) = (lookupEntry k es).map (f k) := by
  induction es with
  | nil => rfl
  | cons e es ih =>
    by_cases hk : k = e.1
    · simp [lookupEntry,← hk]
    · simp [lookupEntry,hk,ih]

theorem SortedKeys.nodup (h : SortedKeys es) : (es.map Prod.fst).Nodup := by
  rw [List.Nodup,List.pairwise_map]
  exact List.Pairwise.imp (fun hab => ne_of_lt hab) h

theorem SortedKeys.eq_of_lookup {fs : List (κ × α)} (hes : SortedKeys es) (hfs : SortedKeys fs)
    (h : ∀ k, lookupEntry k es = lookupEntry k fs) : es = fs := by
  have hmem : ∀ e, e ∈ es ↔ e ∈ fs := by
    intro e
    rw [← lookupEntry_eq_some_iff hes.nodup,← lookupEntry_eq_some_iff hfs.nodup,h]
  have hperm : es.Perm fs :=
    (List.perm_ext_iff_of_nodup (hes.nodup.of_map _) (hfs.nodup.of_map _)).mpr hmem
  exact List.Perm.eq_of_pairwise (fun a b _ _ hab hba => absurd hab (not_lt.mpr hba.le))
    hes hfs hperm

structure OrderedMap (κ α : Type) [LinearOrder κ] where
  entries : List (κ × α)
  sorted : SortedKeys entries
  deriving DecidableEq

namespace OrderedMap

def empty : OrderedMap κ α := ⟨[],List.Pairwise.nil⟩

def get? (m : OrderedMap κ α) (k : κ) : Option α := lookupEntry k m.entries

def insert (m : OrderedMap κ α) (k : κ) (v : α) : OrderedMap κ α :=
  ⟨insertEntry k v m.entries,sortedKeys_insertEntry k v m.sorted⟩

def keys (m : OrderedMap κ α) : List κ := m.entries.map Prod.fst

/-- `into_values`: the values in ascending key order. -/
def values (m : OrderedMap κ α) : List α := m.entries.map Prod.snd

def ofList (es : List (κ × α)) : OrderedMap κ α :=
  es.foldl (fun m e => m.insert e.1 e.2) empty

/-- Rewrite every value in place, as a collected iterator over the entries does. -/
def mapValues (f : κ → α → β) (m : OrderedMap κ α) : OrderedMap κ β :=
  ⟨m.entries.map fun e => (e.1,f e.1 e.2),
    by simpa [SortedKeys,List.pairwise_map] using m.sorted⟩

variable {m : OrderedMap κ α} {es : List (κ × α)}

@[ext] theorem ext {n : OrderedMap κ α} (h : ∀ k, m.get? k = n.get? k) : m = n := by
  have he := SortedKeys.eq_of_lookup m.sorted n.sorted h
  cases m
  cases n
  simp_all

theorem entries_inj {n : OrderedMap κ α} : m.entries = n.entries ↔ m = n := by
  cases m
  cases n
  simp

@[simp] theorem get?_empty (k : κ) : (empty : OrderedMap κ α).get? k = none := rfl

theorem get?_insert (m : OrderedMap κ α) (k k' : κ) (v : α) :
    (m.insert k v).get? k' = if k' = k then some v else m.get? k' :=
  lookupEntry_insertEntry k k' v m.entries

theorem get?_foldl_insert (es : List (κ × α)) (m : OrderedMap κ α) (k : κ) :
    (es.foldl (fun m e => m.insert e.1 e.2) m).get? k =
      (lookupEntry k es.reverse).or (m.get? k) := by
  induction es generalizing m with
  | nil => rfl
  | cons e es ih =>
    rw [List.foldl_cons,ih,get?_insert,List.reverse_cons,lookupEntry_append,Option.or_assoc]
    by_cases hk : k = e.1 <;> simp [lookupEntry,hk]

theorem get?_ofList (h : (es.map Prod.fst).Nodup) (k : κ) :
    (ofList es).get? k = lookupEntry k es := by
  have hreverse : lookupEntry k es.reverse = lookupEntry k es := by
    apply Option.ext
    intro v
    rw [lookupEntry_eq_some_iff h,lookupEntry_eq_some_iff (by simpa using h),List.mem_reverse]
  rw [ofList,get?_foldl_insert,hreverse,get?_empty,Option.or_none]

theorem exists_get?_ofList {e : κ × α} (h : e ∈ es) : ∃ v, (ofList es).get? e.1 = some v := by
  rw [ofList,get?_foldl_insert,get?_empty,Option.or_none,← Option.isSome_iff_exists,
    Option.isSome_iff_ne_none,ne_eq,lookupEntry_eq_none_iff,not_not,List.map_reverse,
    List.mem_reverse]
  exact List.mem_map_of_mem h

theorem mem_entries {k : κ} {v : α} : (k,v) ∈ m.entries ↔ m.get? k = some v :=
  (lookupEntry_eq_some_iff m.sorted.nodup).symm

theorem get?_eq_none {k : κ} : m.get? k = none ↔ k ∉ m.keys :=
  lookupEntry_eq_none_iff

theorem mem_keys {k : κ} : k ∈ m.keys ↔ ∃ v, m.get? k = some v := by
  rw [← not_iff_not,← get?_eq_none,not_exists]
  cases m.get? k <;> simp

theorem mem_values {v : α} : v ∈ m.values ↔ ∃ k, m.get? k = some v := by
  constructor
  · intro h
    obtain ⟨⟨k,w⟩,he,rfl⟩ := List.mem_map.mp h
    exact ⟨k,mem_entries.mp he⟩
  · rintro ⟨k,hk⟩
    exact List.mem_map.mpr ⟨(k,v),mem_entries.mpr hk,rfl⟩

theorem mem_of_mem_ofList {e : κ × α} (h : e ∈ (ofList es).entries) : e ∈ es := by
  have hfold : ∀ (es : List (κ × α)) (m : OrderedMap κ α),
      e ∈ (es.foldl (fun m e => m.insert e.1 e.2) m).entries → e ∈ m.entries ∨ e ∈ es := by
    intro es
    induction es with
    | nil => intro m hm; exact Or.inl hm
    | cons a es ih =>
      intro m hm
      rcases ih _ hm with hm | hm
      · exact (mem_insertEntry hm).elim (fun he => Or.inr (by simp [he])) Or.inl
      · exact Or.inr (by simp [hm])
  exact (hfold es empty h).resolve_left List.not_mem_nil

theorem entries_ofList_perm (h : (es.map Prod.fst).Nodup) : (ofList es).entries.Perm es := by
  apply (List.perm_ext_iff_of_nodup ((ofList es).sorted.nodup.of_map _) (h.of_map _)).2
  rintro ⟨k,v⟩
  rw [mem_entries,get?_ofList h,lookupEntry_eq_some_iff h]

theorem ofList_entries (m : OrderedMap κ α) : ofList m.entries = m := by
  ext1 k
  exact get?_ofList m.sorted.nodup k

theorem ofList_eq_iff {fs : List (κ × α)} (hes : (es.map Prod.fst).Nodup)
    (hfs : (fs.map Prod.fst).Nodup) : ofList es = ofList fs ↔ es.Perm fs := by
  constructor
  · intro h
    exact (entries_ofList_perm hes).symm.trans (h ▸ entries_ofList_perm hfs)
  · intro h
    ext1 k
    rw [get?_ofList hes,get?_ofList hfs]
    apply Option.ext
    intro v
    rw [lookupEntry_eq_some_iff hes,lookupEntry_eq_some_iff hfs,h.mem_iff]

theorem ofList_eq_of_perm {fs : List (κ × α)} (h : es.Perm fs) (hnodup : (es.map Prod.fst).Nodup) :
    ofList es = ofList fs :=
  (ofList_eq_iff hnodup ((h.map Prod.fst).nodup_iff.1 hnodup)).2 h

theorem keys_nodup (m : OrderedMap κ α) : m.keys.Nodup := m.sorted.nodup

theorem get?_mapValues (f : κ → α → β) (m : OrderedMap κ α) (k : κ) :
    (m.mapValues f).get? k = (m.get? k).map (f k) :=
  lookupEntry_map f k m.entries

end OrderedMap

/-- `BTreeSet`: its elements in ascending order, without repetition. -/
structure OrderedSet (κ : Type) [LinearOrder κ] where
  toList : List κ
  sorted : toList.Pairwise (· < ·)
  deriving DecidableEq

namespace OrderedSet

instance : Membership κ (OrderedSet κ) := ⟨fun s a => a ∈ s.toList⟩

instance (a : κ) (s : OrderedSet κ) : Decidable (a ∈ s) :=
  inferInstanceAs (Decidable (a ∈ s.toList))

def empty : OrderedSet κ := ⟨[],List.Pairwise.nil⟩

variable {as : List κ} {s : OrderedSet κ} {a : κ}

theorem sorted_orderedInsert (h : as.Pairwise (· < ·)) (ha : a ∉ as) :
    (as.orderedInsert (· ≤ ·) a).Pairwise (· < ·) := by
  have hle := List.Pairwise.orderedInsert (r := (· ≤ ·)) a as (h.imp le_of_lt)
  have hnodup : (as.orderedInsert (· ≤ ·) a).Nodup :=
    (as.perm_orderedInsert (· ≤ ·) a).nodup_iff.mpr (List.nodup_cons.mpr ⟨ha,h.imp ne_of_lt⟩)
  exact hle.imp₂ (fun _ _ => lt_of_le_of_ne) hnodup

def insert (s : OrderedSet κ) (a : κ) : OrderedSet κ :=
  if h : a ∈ s.toList then s
  else ⟨s.toList.orderedInsert (· ≤ ·) a,sorted_orderedInsert s.sorted h⟩

/-- `iter().collect()`. -/
def ofList (as : List κ) : OrderedSet κ := as.foldl insert empty

/-- `pop_first`: remove the smallest element. -/
def popFirst (s : OrderedSet κ) : Option (κ × OrderedSet κ) :=
  match s with
  | ⟨[],_⟩ => none
  | ⟨a::as,h⟩ => some (a,⟨as,h.of_cons⟩)

@[simp] theorem mem_toList : a ∈ s.toList ↔ a ∈ s := Iff.rfl

@[simp] theorem not_mem_empty (a : κ) : a ∉ (empty : OrderedSet κ) := List.not_mem_nil

@[simp] theorem mem_insert {x : κ} : x ∈ s.insert a ↔ x = a ∨ x ∈ s := by
  unfold insert
  split
  · rename_i h
    constructor
    · exact Or.inr
    · rintro (rfl | hx)
      · exact h
      · exact hx
  · exact List.mem_orderedInsert _

theorem notMem_insert (s : OrderedSet κ) (a x : κ) : x ∉ s.insert a ↔ ¬ x = a ∧ x ∉ s := by
  simp

theorem nodup (s : OrderedSet κ) : s.toList.Nodup := List.Pairwise.imp ne_of_lt s.sorted

theorem ext {t : OrderedSet κ} (h : ∀ a, a ∈ s ↔ a ∈ t) : s = t := by
  have hperm : s.toList.Perm t.toList := (List.perm_ext_iff_of_nodup s.nodup t.nodup).mpr h
  have he := List.Perm.eq_of_pairwise
    (fun a b _ _ hab hba => absurd hab (not_lt.mpr hba.le)) s.sorted t.sorted hperm
  cases s
  cases t
  simp_all

theorem mem_foldl_insert {x : κ} : x ∈ as.foldl insert s ↔ x ∈ s ∨ x ∈ as := by
  induction as generalizing s with
  | nil => simp
  | cons a as ih =>
    rw [List.foldl_cons,ih,mem_insert,List.mem_cons]
    tauto

@[simp] theorem mem_ofList {x : κ} : x ∈ ofList as ↔ x ∈ as := by
  simp [ofList,mem_foldl_insert]

theorem ofList_eq_iff {bs : List κ} : ofList as = ofList bs ↔ ∀ x, x ∈ as ↔ x ∈ bs := by
  constructor
  · intro h x
    rw [← mem_ofList,h,mem_ofList]
  · intro h
    apply ext
    simpa using h

theorem ofList_eq_of_perm {bs : List κ} (h : as.Perm bs) : ofList as = ofList bs :=
  ofList_eq_iff.2 fun _ => h.mem_iff

theorem toList_ofList_eq_nil : (ofList as).toList = [] ↔ as = [] := by
  rw [List.eq_nil_iff_forall_not_mem,List.eq_nil_iff_forall_not_mem]
  simp

theorem toList_ofList_perm (h : as.Nodup) : (ofList as).toList.Perm as :=
  (List.perm_ext_iff_of_nodup (ofList as).nodup h).2 fun x => by simp

theorem popFirst_eq_none : s.popFirst = none ↔ ∀ a, a ∉ s := by
  rcases s with ⟨as,h⟩
  cases as with
  | nil => simp [popFirst,← mem_toList]
  | cons a as =>
    simp only [popFirst,reduceCtorEq,false_iff,not_forall,not_not]
    exact ⟨a,List.mem_cons_self⟩

theorem popFirst_eq_some {s' : OrderedSet κ} (h : s.popFirst = some (a,s')) :
    IsLeast {x | x ∈ s} a ∧ ∀ x, x ∈ s' ↔ x ∈ s ∧ x ≠ a := by
  rcases s with ⟨_ | ⟨b,bs⟩,hs⟩
  · simp [popFirst] at h
  · simp only [popFirst,Option.some.injEq,Prod.mk.injEq] at h
    obtain ⟨rfl,rfl⟩ := h
    have hb : ∀ x ∈ bs, b < x := fun x hx => List.rel_of_pairwise_cons hs hx
    refine ⟨⟨List.mem_cons_self,?_⟩,?_⟩
    · intro x hx
      rcases List.mem_cons.mp hx with rfl | hx
      · exact le_rfl
      · exact (hb x hx).le
    · intro x
      constructor
      · intro hx
        exact ⟨List.mem_cons_of_mem _ hx,(hb x hx).ne'⟩
      · rintro ⟨hx,hne⟩
        exact (List.mem_cons.mp hx).resolve_left hne

end OrderedSet
end CommitCiPreflight
