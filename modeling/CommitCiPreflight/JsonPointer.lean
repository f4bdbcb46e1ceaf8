import CommitCiPreflight.Json
import CommitCiPreflight.Padded

/-! Pointers into JSON values, as RFC 6901 has them, and the places where two values differ. -/
namespace CommitCiPreflight
namespace JsonPointer

def children : Json → List (String × Json)
  | .obj members => members
  | .arr items => items.mapIdx fun index item => (toString index,item)
  | _ => []

def resolve : Option Json → List String → Option Json
  | value,[] => value
  | value,token::tokens => resolve (value.bind fun v => lookupEntry token (children v)) tokens

def Alike : Json → Json → Prop
  | .obj _,.obj _ | .arr _,.arr _ => True
  | _,_ => False

/-- One side has no value, or both have values that differ and are no two objects or arrays. -/
def DiffersHere : Option Json → Option Json → Prop
  | some a,some b => a.unsignedZeros ≠ b.unsignedZeros ∧ ¬ Alike a b
  | none,none => False
  | _,_ => True

def Differs (a b : Option Json) (pointer : List String) : Prop :=
  DiffersHere (resolve a pointer) (resolve b pointer)

/-- The values differ at the pointer and nowhere on the way to it. -/
def MinimalDiffering (a b : Option Json) (pointer : List String) : Prop :=
  Differs a b pointer ∧ ∀ above, above <+: pointer → above ≠ pointer → ¬ Differs a b above

/-- The order of the keys of an object and of the indices of an array. -/
def Before : Option Json → String → String → Prop
  | some (.obj _),a,b => a < b
  | some (.arr _),a,b => ∃ i j : ℕ, a = toString i ∧ b = toString j ∧ i < j
  | _,_,_ => False

/-- The first pointer is visited before the second: they part at a value, and the first takes
the child that comes earlier. -/
def DepthFirst (value : Option Json) (p q : List String) : Prop :=
  ∃ common a b p' q', p = common++a::p' ∧ q = common++b::q' ∧ Before (resolve value common) a b

def escapeChar (c : Char) : List Char :=
  if c = '~' then ['~','0'] else if c = '/' then ['~','1'] else [c]

def escape (token : String) : String := String.ofList (token.toList.flatMap escapeChar)

def text : List String → String
  | [] => ""
  | token::tokens => "/"++escape token++text tokens

theorem escapeChar_ne_nil (c : Char) : escapeChar c ≠ [] := by
  unfold escapeChar
  split_ifs <;> simp

/-- No code of a character begins another. -/
theorem escapeChar_append_inj {c d : Char} {cs ds : List Char}
    (h : escapeChar c++cs = escapeChar d++ds) : c = d ∧ cs = ds := by
  unfold escapeChar at h
  split_ifs at h
  all_goals
    simp only [List.cons_append,List.nil_append,List.cons.injEq] at h
    grind

theorem escape_injective : Function.Injective escape := by
  have hchars : ∀ cs ds : List Char, cs.flatMap escapeChar = ds.flatMap escapeChar → cs = ds := by
    intro cs
    induction cs with
    | nil =>
      intro ds h
      cases ds with
      | nil => rfl
      | cons d ds => simp [escapeChar_ne_nil] at h
    | cons c cs ih =>
      intro ds h
      cases ds with
      | nil => simp [escapeChar_ne_nil] at h
      | cons d ds =>
        rw [List.flatMap_cons,List.flatMap_cons] at h
        obtain ⟨rfl,hrest⟩ := escapeChar_append_inj h
        rw [ih ds hrest]
  intro s t h
  have hlists := congrArg String.toList h
  rw [escape,escape,String.toList_ofList,String.toList_ofList] at hlists
  exact String.toList_inj.1 (hchars _ _ hlists)

theorem slash_not_mem_escape (token : String) : '/' ∉ (escape token).toList := by
  rw [escape,String.toList_ofList,List.mem_flatMap]
  rintro ⟨c,-,hc⟩
  unfold escapeChar at hc
  grind

theorem eq_of_separated {α : Type} {x : α} {as bs cs ds : List α} (ha : x ∉ as) (hb : x ∉ bs)
    (hc : cs = [] ∨ ∃ r, cs = x::r) (hd : ds = [] ∨ ∃ r, ds = x::r) (h : as++cs = bs++ds) :
    as = bs ∧ cs = ds := by
  induction as generalizing bs with
  | nil =>
    cases bs with
    | nil => exact ⟨rfl,h⟩
    | cons b bs =>
      obtain rfl | ⟨r,rfl⟩ := hc
      · simp at h
      · simp only [List.nil_append,List.cons_append,List.cons.injEq] at h
        exact absurd (h.1 ▸ List.mem_cons_self) hb
  | cons a as ih =>
    cases bs with
    | nil =>
      obtain rfl | ⟨r,rfl⟩ := hd
      · simp at h
      · simp only [List.nil_append,List.cons_append,List.cons.injEq] at h
        exact absurd (h.1 ▸ List.mem_cons_self) ha
    | cons b bs =>
      simp only [List.cons_append,List.cons.injEq] at h
      obtain ⟨rfl,rfl⟩ := ih (List.not_mem_of_not_mem_cons ha) (List.not_mem_of_not_mem_cons hb) h.2
      exact ⟨by rw [h.1],rfl⟩

theorem toList_text_cons (token : String) (tokens : List String) :
    (text (token::tokens)).toList = '/'::((escape token).toList++(text tokens).toList) := by
  simp [text]

theorem text_head (tokens : List String) :
    (text tokens).toList = [] ∨ ∃ rest, (text tokens).toList = '/'::rest := by
  cases tokens with
  | nil => exact Or.inl rfl
  | cons token tokens => exact Or.inr ⟨_,toList_text_cons token tokens⟩

theorem text_injective : Function.Injective text := by
  intro p
  induction p with
  | nil =>
    intro q h
    cases q with
    | nil => rfl
    | cons token q =>
      have hlists := congrArg String.toList h
      rw [toList_text_cons] at hlists
      simp [text] at hlists
  | cons token p ih =>
    intro q h
    have hlists := congrArg String.toList h
    cases q with
    | nil =>
      rw [toList_text_cons] at hlists
      simp [text] at hlists
    | cons other q =>
      rw [toList_text_cons,toList_text_cons,List.cons.injEq,and_iff_right rfl] at hlists
      obtain ⟨htoken,hrest⟩ := eq_of_separated (slash_not_mem_escape token)
        (slash_not_mem_escape other) (text_head p) (text_head q) hlists
      rw [escape_injective (String.toList_inj.1 htoken),ih (String.toList_inj.1 hrest)]

def child (token : String) (value : Option Json) : Option Json :=
  value.bind fun v => lookupEntry token (children v)

/-- The minimal differing locations of two values in depth-first order; there are none exactly
when the values are equal. -/
structure Locates (a b : Option Json) (locations : List (List String)) : Prop where
  mem : ∀ p, p ∈ locations ↔ MinimalDiffering a b p
  ordered : locations.Pairwise (DepthFirst a)
  same : locations = [] ↔ a.map Json.unsignedZeros = b.map Json.unsignedZeros

section Locations

variable {a b : Option Json}

theorem minimalDiffering_of_here (h : DiffersHere a b) (p : List String) :
    MinimalDiffering a b p ↔ p = [] := by
  constructor
  · intro hp
    by_contra hne
    have hempty : [] <+: p := List.nil_prefix
    exact hp.2 [] hempty (Ne.symm hne) h
  · rintro rfl
    exact ⟨h,fun above habove hne => absurd (List.prefix_nil.1 habove) hne⟩

theorem locates_here (h : DiffersHere a b) : Locates a b [[]] where
  mem p := by rw [minimalDiffering_of_here h,List.mem_singleton]
  ordered := List.pairwise_singleton _ _
  same := by
    refine iff_of_false (by simp) fun hsame => ?_
    cases a with
    | none => cases b <;> simp_all [DiffersHere]
    | some x =>
      cases b with
      | none => simp at hsame
      | some y => exact h.1 (Option.some.inj hsame)

theorem minimalDiffering_cons (h : ¬ DiffersHere a b) (token : String) (p : List String) :
    MinimalDiffering a b (token::p) ↔ MinimalDiffering (child token a) (child token b) p := by
  unfold MinimalDiffering
  refine and_congr Iff.rfl ⟨fun hmin above habove hne => ?_,fun hmin above habove hne => ?_⟩
  · exact hmin (token::above) (List.cons_prefix_cons.2 ⟨rfl,habove⟩) (by simpa using hne)
  · cases above with
    | nil => exact h
    | cons first above =>
      obtain ⟨rfl,hrest⟩ := List.cons_prefix_cons.1 habove
      exact hmin above hrest (by simpa using hne)

theorem not_minimalDiffering_nil (h : ¬ DiffersHere a b) : ¬ MinimalDiffering a b [] :=
  fun hp => h hp.1

theorem DepthFirst.cons {token : String} {p q : List String} (h : DepthFirst (child token a) p q) :
    DepthFirst a (token::p) (token::q) := by
  obtain ⟨common,x,y,p',q',rfl,rfl,hbefore⟩ := h
  exact ⟨token::common,x,y,p',q',rfl,rfl,hbefore⟩

theorem DepthFirst.of_before {x y : String} (h : Before a x y) (p q : List String) :
    DepthFirst a (x::p) (y::q) := ⟨[],x,y,p,q,rfl,rfl,h⟩

theorem minimalDiffering_none (p : List String) : ¬ MinimalDiffering none none p := by
  have hresolve : resolve none p = none := by
    induction p with
    | nil => rfl
    | cons token p ih => exact ih
  rintro ⟨hp,-⟩
  rw [Differs,hresolve] at hp
  exact hp

/-- The locations below a value that is no difference itself. -/
theorem locates_children {keys : List String} {below : String → List (List String)}
    (hhere : ¬ DiffersHere a b) (hkeys : keys.Pairwise (Before a))
    (hcomplete : ∀ key, key ∉ keys → child key a = none ∧ child key b = none)
    (hbelow : ∀ key ∈ keys, Locates (child key a) (child key b) (below key))
    (hsame : (∀ key, (child key a).map Json.unsignedZeros = (child key b).map Json.unsignedZeros) ↔
      a.map Json.unsignedZeros = b.map Json.unsignedZeros) :
    Locates a b (keys.flatMap fun key => (below key).map (key::·)) where
  mem p := by
    rw [List.mem_flatMap]
    constructor
    · rintro ⟨key,hkey,hp⟩
      obtain ⟨q,hq,rfl⟩ := List.mem_map.1 hp
      exact (minimalDiffering_cons hhere key q).2 (((hbelow key hkey).mem q).1 hq)
    · intro hp
      cases p with
      | nil => exact absurd hp (not_minimalDiffering_nil hhere)
      | cons key q =>
        rw [minimalDiffering_cons hhere] at hp
        by_cases hkey : key ∈ keys
        · exact ⟨key,hkey,List.mem_map_of_mem (((hbelow key hkey).mem q).2 hp)⟩
        · obtain ⟨ha,hb⟩ := hcomplete key hkey
          rw [ha,hb] at hp
          exact absurd hp (minimalDiffering_none q)
  ordered := by
    rw [List.pairwise_flatMap]
    refine ⟨fun key hkey => ?_,hkeys.imp fun hbefore p hp q hq => ?_⟩
    · exact (hbelow key hkey).ordered.map _ fun _ _ h => h.cons
    · obtain ⟨p',-,rfl⟩ := List.mem_map.1 hp
      obtain ⟨q',-,rfl⟩ := List.mem_map.1 hq
      exact DepthFirst.of_before hbefore p' q'
  same := by
    rw [List.flatMap_eq_nil_iff,← hsame]
    refine ⟨fun h key => ?_,fun h key hkey => ?_⟩
    · by_cases hkey : key ∈ keys
      · exact (hbelow key hkey).same.1 (List.map_eq_nil_iff.1 (h key hkey))
      · obtain ⟨ha,hb⟩ := hcomplete key hkey
        rw [ha,hb]
    · exact List.map_eq_nil_iff.2 ((hbelow key hkey).same.2 (h key))

end Locations

theorem locates_same {x y : Json} (halike : ¬ Alike x y) (h : x.unsignedZeros = y.unsignedZeros) :
    Locates (some x) (some y) [] := by
  have hscalar : children x = [] ∧ children y = [] := by
    cases x <;> cases y <;> simp_all [Alike,children,Json.unsignedZeros]
  have hchild : ∀ key, child key (some x) = none ∧ child key (some y) = none := by
    intro key
    simp [child,hscalar,lookupEntry]
  have hsame : (∀ key, (child key (some x)).map Json.unsignedZeros =
      (child key (some y)).map Json.unsignedZeros) ↔
      (some x).map Json.unsignedZeros = (some y).map Json.unsignedZeros :=
    iff_of_true (fun key => by rw [(hchild key).1,(hchild key).2]) (congrArg some h)
  exact @locates_children (some x) (some y) [] (fun _ => []) (fun hhere => hhere.1 h)
    List.Pairwise.nil (fun key _ => hchild key) (by simp) hsame

theorem child_arr (items : List Json) (index : ℕ) :
    child (toString index) (some (.arr items)) = items[index]? := by
  have hoffset : ∀ (items : List Json) (offset index : ℕ),
      lookupEntry (toString (offset+index)) (items.mapIdx fun i x => (toString (offset+i),x)) =
        items[index]? := by
    intro items
    induction items with
    | nil => intro offset index; rfl
    | cons item items ih =>
      intro offset index
      rw [List.mapIdx_cons,lookupEntry]
      cases index with
      | zero => simp
      | succ index =>
        have hne : toString (offset+(index+1)) ≠ toString (offset+0) := by
          intro h
          have := Text.toString_injective h
          omega
        rw [if_neg hne,List.getElem?_cons_succ,← ih (offset+1) index]
        simp only [Nat.add_assoc,Nat.add_comm 1]
  simpa [child,children] using hoffset items 0 index

theorem child_arr_eq_none {items : List Json} {key : String}
    (h : ∀ index < items.length, key ≠ toString index) : child key (some (.arr items)) = none := by
  refine lookupEntry_eq_none_iff.2 fun hmem => ?_
  obtain ⟨entry,hentry,rfl⟩ := List.mem_map.1 hmem
  obtain ⟨index,hindex,rfl⟩ := List.mem_mapIdx.1 hentry
  exact h index hindex rfl

theorem locates_obj {members others : List (String × Json)} {below : String → List (List String)}
    (hmembers : SortedKeys members) (hothers : SortedKeys others)
    (hbelow : ∀ key ∈ (OrderedSet.ofList (members.map Prod.fst++others.map Prod.fst)).toList,
      Locates (lookupEntry key members) (lookupEntry key others) (below key)) :
    Locates (some (.obj members)) (some (.obj others))
      ((OrderedSet.ofList (members.map Prod.fst++others.map Prod.fst)).toList.flatMap
        fun key => (below key).map (key::·)) := by
  have hsorted : ∀ {ms : List (String × Json)}, SortedKeys ms →
      SortedKeys (ms.map fun m => (m.1,m.2.unsignedZeros)) :=
    fun h => h.map _ fun _ _ hlt => hlt
  refine locates_children (fun h => h.2 trivial) (OrderedSet.sorted _) (fun key hkey => ?_) hbelow ?_
  · rw [OrderedSet.mem_toList,OrderedSet.mem_ofList,List.mem_append,not_or] at hkey
    exact ⟨lookupEntry_eq_none_iff.2 hkey.1,lookupEntry_eq_none_iff.2 hkey.2⟩
  · have hlookup : ∀ key (ms : List (String × Json)), (child key (some (.obj ms))).map
        Json.unsignedZeros = lookupEntry key (ms.map fun m => (m.1,m.2.unsignedZeros)) :=
      fun key ms => (lookupEntry_map (fun _ => Json.unsignedZeros) key ms).symm
    simp only [hlookup,Option.map_some,Json.unsignedZeros_obj,Option.some.injEq,Json.obj.injEq]
    constructor
    · exact (hsorted hmembers).eq_of_lookup (hsorted hothers)
    · intro h key
      rw [h]

theorem locates_arr {items others : List Json} {below : String → List (List String)}
    (hbelow : ∀ index < max items.length others.length,
      Locates items[index]? others[index]? (below (toString index))) :
    Locates (some (.arr items)) (some (.arr others))
      (((List.range (max items.length others.length)).map toString).flatMap
        fun key => (below key).map (key::·)) := by
  have hnone : ∀ key, key ∉ (List.range (max items.length others.length)).map toString →
      child key (some (.arr items)) = none ∧ child key (some (.arr others)) = none := by
    intro key hkey
    have hne : ∀ index < max items.length others.length, key ≠ toString index :=
      fun index hindex h => hkey (h ▸ List.mem_map_of_mem (List.mem_range.2 hindex))
    exact ⟨child_arr_eq_none fun index hindex => hne index (lt_max_of_lt_left hindex),
      child_arr_eq_none fun index hindex => hne index (lt_max_of_lt_right hindex)⟩
  refine locates_children (fun h => h.2 trivial) ?_ hnone ?_ ?_
  · refine List.pairwise_lt_range.map _ fun i j hlt => ?_
    exact ⟨i,j,rfl,rfl,hlt⟩
  · intro key hkey
    obtain ⟨index,hindex,rfl⟩ := List.mem_map.1 hkey
    rw [child_arr,child_arr]
    exact hbelow index (List.mem_range.1 hindex)
  · simp only [Option.map_some,Json.unsignedZeros_arr,Option.some.injEq,Json.arr.injEq]
    constructor
    · intro h
      refine List.ext_getElem? fun index => ?_
      have hindex := h (toString index)
      rw [child_arr,child_arr] at hindex
      rw [List.getElem?_map,List.getElem?_map,hindex]
    · intro h key
      by_cases hkey : key ∈ (List.range (max items.length others.length)).map toString
      · obtain ⟨index,-,rfl⟩ := List.mem_map.1 hkey
        rw [child_arr,child_arr,← List.getElem?_map,← List.getElem?_map,h]
      · rw [(hnone key hkey).1,(hnone key hkey).2]

theorem depthFirst_irrefl (value : Option Json) (p : List String) : ¬ DepthFirst value p p := by
  rintro ⟨common,a,b,p',q',hp,hq,hbefore⟩
  obtain ⟨rfl,-⟩ := List.cons.inj (List.append_cancel_left (hp.symm.trans hq))
  unfold Before at hbefore
  split at hbefore
  · exact lt_irrefl _ hbefore
  · obtain ⟨i,j,rfl,hij,hlt⟩ := hbefore
    exact hlt.ne (Text.toString_injective hij)
  · exact hbefore

theorem Locates.nodup {a b : Option Json} {locations : List (List String)}
    (h : Locates a b locations) : locations.Nodup := by
  refine List.Pairwise.imp ?_ h.ordered
  rintro p _ hbefore rfl
  exact depthFirst_irrefl a p hbefore

theorem escape_toString (n : ℕ) : escape (toString n) = toString n := by
  have hdigit : ∀ c ∈ (toString n).toList, escapeChar c = [c] := by
    intro c hc
    have hmem : c ∈ Nat.toDigits 10 n := by simpa using hc
    have hdigit : c.isDigit = true := Nat.isDigit_of_mem_toDigits (by decide) (by decide) hmem
    have htilde : c ≠ '~' := by rintro rfl; simp at hdigit
    have hslash : c ≠ '/' := by rintro rfl; simp at hdigit
    rw [escapeChar,if_neg htilde,if_neg hslash]
  rw [escape,List.flatMap_congr hdigit,List.flatMap_singleton',String.ofList_toList]

end JsonPointer
end CommitCiPreflight
