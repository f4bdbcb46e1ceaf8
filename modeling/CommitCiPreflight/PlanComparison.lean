import CommitCiPreflight.JsonPointer
import CommitCiPreflight.TrustedPlan

/-! The comparison of two plans field by field reports their minimal differing locations in
depth-first order, up to the limit on the findings. -/
namespace CommitCiPreflight

open JsonPointer

def planFinding (path : String) : VerificationFindingV1 :=
  ⟨"policy.execution_plan.field_mismatch","execution_plan"++path,
    "receipt execution-plan field does not match trusted configuration"⟩

/-- As many of the findings are added as there is room for. -/
def Appends (f : List VerificationFindingV1 → List VerificationFindingV1)
    (found : List VerificationFindingV1) : Prop :=
  ∀ findings, f findings = findings++found.take (maxPlanFindings-findings.length)

theorem appends_pushPlanFinding (path : String) :
    Appends (pushPlanFinding path) [planFinding path] := by
  intro findings
  by_cases h : findings.length < maxPlanFindings
  · rw [pushPlanFinding,if_pos h,List.take_of_length_le (by simp; omega)]
    rfl
  · rw [pushPlanFinding,if_neg h,Nat.sub_eq_zero_of_le (not_lt.1 h),List.take_zero,List.append_nil]

/-- The loop stops early only when there is no room left. -/
theorem appends_compareChildren {ι : Type} {items : List ι} {child : ι → Child}
    {found : ι → List VerificationFindingV1} (h : ∀ i ∈ items, Appends (child i).compare (found i)) :
    Appends (compareChildren (items.map child)) (items.flatMap found) := by
  induction items with
  | nil => exact fun findings => by simp [compareChildren]
  | cons i items ih =>
    intro findings
    have hrest := ih fun j hj => h j (List.mem_cons_of_mem _ hj)
    have hroom : maxPlanFindings-(findings++(found i).take (maxPlanFindings-findings.length)).length =
        maxPlanFindings-findings.length-(found i).length := by
      rw [List.length_append,List.length_take]
      omega
    rw [List.map_cons,compareChildren,h i List.mem_cons_self findings,List.flatMap_cons,
      List.take_append]
    split_ifs with hfull
    · rw [← hroom,Nat.sub_eq_zero_of_le hfull,List.take_zero,List.append_nil]
    · rw [hrest,hroom,List.append_assoc]

theorem compareMembers_eq (members : List (String × Json)) :
    compareMembers members = members.map fun m => (m.1,comparePlanValue m.2) := by
  induction members with
  | nil => simp [compareMembers]
  | cons m ms ih => simp [compareMembers,ih]

theorem compareItems_eq (items : List Json) :
    compareItems items = items.map comparePlanValue := by
  induction items with
  | nil => simp [compareItems]
  | cons x xs ih => simp [compareItems,ih]

/-- The comparison of two values, or of a value with none, reports where they differ. -/
def Reports (compare : String → List VerificationFindingV1 → List VerificationFindingV1)
    (locations : List (List String)) : Prop :=
  ∀ path, Appends (compare path) (locations.map fun p => planFinding (path++text p))

theorem reports_pushPlanFinding : Reports pushPlanFinding [[]] := by
  intro path
  have hpath : path++text [] = path := String.append_empty
  rw [List.map_singleton,hpath]
  exact appends_pushPlanFinding path

variable {trusted receipt : Json}

theorem reports_comparePlanValue {locations : List (List String)}
    {body : String → List VerificationFindingV1 → List VerificationFindingV1}
    (hlocates : Locates (some trusted) (some receipt) locations) (hreports : Reports body locations)
    (hbody : ∀ path findings,
      ¬ (maxPlanFindings ≤ findings.length ∨ trusted.unsignedZeros = receipt.unsignedZeros) →
      comparePlanValue trusted receipt path findings = body path findings) :
    Reports (comparePlanValue trusted receipt) locations := by
  intro path findings
  by_cases hskip : maxPlanFindings ≤ findings.length ∨
      trusted.unsignedZeros = receipt.unsignedZeros
  · have heq : comparePlanValue trusted receipt path findings = findings := by
      rw [comparePlanValue.eq_def]
      simp only [hskip,if_true]
    rw [heq]
    rcases hskip with hfull | hsame
    · rw [Nat.sub_eq_zero_of_le hfull,List.take_zero,List.append_nil]
    · rw [hlocates.same.2 (congrArg some hsame),List.map_nil,List.take_nil,List.append_nil]
  · rw [hbody path findings hskip,hreports path findings]

theorem exists_reports_child {trusted receipt : Option Json} (hsome : trusted ≠ none ∨ receipt ≠ none)
    (hvalue : ∀ t r, trusted = some t → receipt = some r →
      ∃ locations, Locates (some t) (some r) locations ∧ Reports (comparePlanValue t r) locations) :
    ∃ locations, Locates trusted receipt locations ∧
      Reports (fun path => Child.compare ⟨path,trusted.map comparePlanValue,receipt⟩) locations := by
  cases trusted with
  | none =>
    cases receipt with
    | none => simp at hsome
    | some r => exact ⟨[[]],locates_here trivial,reports_pushPlanFinding⟩
  | some t =>
    cases receipt with
    | none => exact ⟨[[]],locates_here trivial,reports_pushPlanFinding⟩
    | some r => exact hvalue t r rfl rfl

theorem escapeJsonPointer_eq (token : String) : escapeJsonPointer token = escape token := by
  have hchar : ∀ c : Char, (if c = '~' then ['~','0'] else [c]).flatMap
      (fun c => if c = '/' then ['~','1'] else [c]) = escapeChar c := by
    intro c
    unfold escapeChar
    split_ifs <;> simp_all
  rw [escapeJsonPointer,escape,List.flatMap_assoc]
  simp only [hchar]

theorem map_planFinding_cons (path token : String) (locations : List (List String)) :
    (locations.map (token::·)).map (fun p => planFinding (path++text p)) =
      locations.map fun p => planFinding (path++"/"++escape token++text p) := by
  simp [text,String.append_assoc]

theorem exists_reports_members {trusted receipt : List (String × Json)}
    (htrusted : SortedKeys trusted) (hreceipt : SortedKeys receipt)
    (hvalue : ∀ m ∈ trusted, ∀ n ∈ receipt, ∃ locations,
      Locates (some m.2) (some n.2) locations ∧ Reports (comparePlanValue m.2 n.2) locations) :
    ∃ locations, Locates (some (.obj trusted)) (some (.obj receipt)) locations ∧
      Reports (fun path => compareChildren (memberChildren (compareMembers trusted) receipt path))
        locations := by
  have hlookup : ∀ key, lookupEntry key (compareMembers trusted) =
      (lookupEntry key trusted).map comparePlanValue := by
    intro key
    rw [compareMembers_eq]
    exact lookupEntry_map (fun _ => comparePlanValue) key trusted
  have hkeys : (compareMembers trusted).map Prod.fst = trusted.map Prod.fst := by
    simp [compareMembers_eq]
  have hchild : ∀ key ∈ (OrderedSet.ofList (trusted.map Prod.fst++receipt.map Prod.fst)).toList,
      ∃ locations, Locates (lookupEntry key trusted) (lookupEntry key receipt) locations ∧
        Reports (fun path => Child.compare
          ⟨path,(lookupEntry key trusted).map comparePlanValue,lookupEntry key receipt⟩) locations := by
    intro key hkey
    refine exists_reports_child ?_ fun t r ht hr => ?_
    · rw [ne_eq,ne_eq,lookupEntry_eq_none_iff,lookupEntry_eq_none_iff,not_not,not_not]
      exact List.mem_append.1 (OrderedSet.mem_ofList.1 hkey)
    · exact hvalue (key,t) ((lookupEntry_eq_some_iff htrusted.nodup).1 ht) (key,r)
        ((lookupEntry_eq_some_iff hreceipt.nodup).1 hr)
  choose! below hlocates hreports using hchild
  refine ⟨_,locates_obj htrusted hreceipt hlocates,fun path => ?_⟩
  simp only [memberChildren,hlookup,hkeys,List.map_flatMap,map_planFinding_cons,escapeJsonPointer_eq]
  exact appends_compareChildren fun key hkey => hreports key hkey _

theorem exists_reports_items {trusted receipt : List Json}
    (hvalue : ∀ t ∈ trusted, ∀ r ∈ receipt, ∃ locations,
      Locates (some t) (some r) locations ∧ Reports (comparePlanValue t r) locations) :
    ∃ locations, Locates (some (.arr trusted)) (some (.arr receipt)) locations ∧
      Reports (fun path => compareChildren (itemChildren (compareItems trusted) receipt path))
        locations := by
  have hchild : ∀ index < max trusted.length receipt.length,
      ∃ locations, Locates trusted[index]? receipt[index]? locations ∧
        Reports (fun path => Child.compare
          ⟨path,trusted[index]?.map comparePlanValue,receipt[index]?⟩) locations := by
    intro index hindex
    refine exists_reports_child ?_ fun t r ht hr => ?_
    · rw [lt_max_iff] at hindex
      simpa using hindex
    · exact hvalue t (List.mem_of_getElem? ht) r (List.mem_of_getElem? hr)
  choose! below hlocates hreports using hchild
  obtain ⟨under,hunder⟩ : ∃ under : String → List (List String),
      ∀ index, under (toString index) = below index := by
    refine ⟨fun key => below (Function.invFun toString key),fun index => ?_⟩
    exact congrArg below (Function.leftInverse_invFun Text.toString_injective index)
  have hlocates' : ∀ index < max trusted.length receipt.length,
      Locates trusted[index]? receipt[index]? (under (toString index)) :=
    fun index hindex => hunder index ▸ hlocates index hindex
  refine ⟨_,locates_arr hlocates',fun path => ?_⟩
  simp only [itemChildren,compareItems_eq,List.getElem?_map,List.length_map,List.map_flatMap,
    map_planFinding_cons,List.flatMap_map,escape_toString,hunder]
  exact appends_compareChildren fun index hindex => hreports index (List.mem_range.1 hindex) _

theorem exists_reports_scalar
    (hobj : ∀ members others, trusted = .obj members → receipt ≠ .obj others)
    (harr : ∀ items others, trusted = .arr items → receipt ≠ .arr others) :
    ∃ locations, Locates (some trusted) (some receipt) locations ∧
      Reports (comparePlanValue trusted receipt) locations := by
  have halike : ¬ Alike trusted receipt := by
    cases trusted <;> cases receipt <;> simp_all [Alike]
  have hbody : ∀ path findings, ¬ (maxPlanFindings ≤ findings.length ∨
      trusted.unsignedZeros = receipt.unsignedZeros) →
      comparePlanValue trusted receipt path findings = pushPlanFinding path findings := by
    intro path findings hskip
    rw [comparePlanValue.eq_def]
    simp only [hskip,if_false]
  by_cases hsame : trusted.unsignedZeros = receipt.unsignedZeros
  · have hlocates := locates_same halike hsame
    have hnothing : Reports (fun _ findings => findings) [] := fun path findings => by simp
    refine ⟨[],hlocates,reports_comparePlanValue hlocates hnothing ?_⟩
    exact fun path findings hskip => absurd (Or.inr hsame) hskip
  · have hlocates : Locates (some trusted) (some receipt) [[]] := locates_here ⟨hsame,halike⟩
    exact ⟨[[]],hlocates,reports_comparePlanValue hlocates reports_pushPlanFinding hbody⟩

theorem normal_arr {items : List Json} (h : normalizeJson (.arr items) = .arr items) :
    ∀ x ∈ items, normalizeJson x = x := by
  rw [normalizeJson_arr,Json.arr.injEq] at h
  exact List.map_inj_left.1 (h.trans (List.map_id' items).symm)

theorem normal_obj {members : List (String × Json)}
    (h : normalizeJson (.obj members) = .obj members) :
    SortedKeys members ∧ ∀ m ∈ members, normalizeJson m.2 = m.2 := by
  rw [normalizeJson_obj,Json.obj.injEq,collectMembers] at h
  refine ⟨h ▸ (OrderedMap.ofList _).sorted,fun m hm => ?_⟩
  rw [← h] at hm
  obtain ⟨n,-,rfl⟩ := List.mem_map.1 (OrderedMap.mem_of_mem_ofList hm)
  exact normalizeJson_idem n.2

/-- The comparison is sound and complete on values as `to_value` builds them: the induction
is on the trusted value. -/
theorem exists_reports (htrusted : normalizeJson trusted = trusted)
    (hreceipt : normalizeJson receipt = receipt) :
    ∃ locations, Locates (some trusted) (some receipt) locations ∧
      Reports (comparePlanValue trusted receipt) locations := by
  induction trusted using Json.induction generalizing receipt with
  | null | bool _ | num _ | str _ => exact exists_reports_scalar (by simp) (by simp)
  | arr items ih =>
    cases receipt with
    | arr others =>
      obtain ⟨locations,hlocates,hreports⟩ := exists_reports_items fun t ht r hr =>
        ih t ht (normal_arr htrusted t ht) (normal_arr hreceipt r hr)
      refine ⟨locations,hlocates,reports_comparePlanValue hlocates hreports fun path findings hskip => ?_⟩
      rw [comparePlanValue.eq_def]
      simp only [hskip,if_false]
    | _ => exact exists_reports_scalar (by simp) (by simp)
  | obj members ih =>
    cases receipt with
    | obj others =>
      obtain ⟨hsorted,hnormal⟩ := normal_obj htrusted
      obtain ⟨hsorted',hnormal'⟩ := normal_obj hreceipt
      obtain ⟨locations,hlocates,hreports⟩ := exists_reports_members hsorted hsorted'
        fun m hm n hn => ih m hm (hnormal m hm) (hnormal' n hn)
      refine ⟨locations,hlocates,reports_comparePlanValue hlocates hreports fun path findings hskip => ?_⟩
      rw [comparePlanValue.eq_def]
      simp only [hskip,if_false]
    | _ => exact exists_reports_scalar (by simp) (by simp)

theorem compareExecutionPlan_eq_nil {trusted receipt : ExecutionPlanV1}
    {findings : List VerificationFindingV1} :
    compareExecutionPlan trusted receipt findings = [] ↔ findings = [] ∧ receipt = trusted := by
  have hnormal := fun plan => normalizeJson_idem (ExecutionPlanV1.codec.encode plan)
  have hunsigned := fun plan => (floatsIn_normalizeJson (ExecutionPlanV1.codec.floatFree plan)).unsignedZeros
  obtain ⟨locations,hlocates,hreports⟩ := exists_reports (hnormal trusted) (hnormal receipt)
  rw [compareExecutionPlan,toValue,toValue,hreports "" findings,List.append_eq_nil_iff]
  refine and_congr_right ?_
  rintro rfl
  rw [List.take_eq_nil_iff,List.map_eq_nil_iff,hlocates.same,Option.map_some,Option.map_some,
    Option.some.injEq,hunsigned,hunsigned,or_iff_right (by decide)]
  exact ⟨fun h => (ExecutionPlanV1.codec.encode_injective h).symm,fun h => h ▸ rfl⟩

/-- A value as `serde_json` holds it: every object sorted by its keys, without repetition. -/
def SortedJson := {value : Json // normalizeJson value = value}

def SortedJson.ofJson (value : Json) : SortedJson := ⟨normalizeJson value,normalizeJson_idem value⟩

/-- What a comparison appends to findings that leave room. -/
theorem comparePlanValue_appends (trusted receipt : SortedJson) (path : String)
    (findings : List VerificationFindingV1) (hroom : findings.length < maxPlanFindings) :
    ∃ appended, comparePlanValue trusted.1 receipt.1 path findings = findings++appended ∧
      (appended = [] ↔ trusted.1.unsignedZeros = receipt.1.unsignedZeros) ∧
      (∃ locations : List (List String),
        (∀ p, p ∈ locations ↔ MinimalDiffering (some trusted.1) (some receipt.1) p) ∧
        locations.Nodup ∧ locations.Pairwise (DepthFirst (some trusted.1)) ∧
        appended = (locations.take (min (maxPlanFindings-findings.length) locations.length)).map
          fun p => planFinding (path++text p)) ∧
      (appended.map VerificationFindingV1.field).Nodup := by
  obtain ⟨locations,hlocates,hreports⟩ := exists_reports trusted.2 receipt.2
  have htake : (locations.map fun p => planFinding (path++text p)).take
      (maxPlanFindings-findings.length) =
      (locations.take (min (maxPlanFindings-findings.length) locations.length)).map
        fun p => planFinding (path++text p) := by
    rw [← List.map_take,List.take_eq_take_min]
  refine ⟨_,(hreports path findings).trans (by rw [htake]),?_,
    ⟨locations,hlocates.mem,hlocates.nodup,hlocates.ordered,rfl⟩,?_⟩
  · rw [← htake,List.take_eq_nil_iff,List.map_eq_nil_iff,hlocates.same,or_iff_right (by omega),
      Option.map_some,Option.map_some,Option.some.injEq]
  · rw [List.map_map]
    refine (hlocates.nodup.sublist (List.take_sublist _ _)).map fun p q h => ?_
    have hfield : "execution_plan"++(path++text p) = "execution_plan"++(path++text q) := h
    exact text_injective ((String.append_right_inj _).1 ((String.append_right_inj _).1 hfield))

/-- Two objects that differ in a member and in the length of another. -/
theorem comparePlanValue_appends_sample :
    let trusted := SortedJson.ofJson (.obj [("b",.arr [.bool true,.null]),("a/~",.str "x")])
    let receipt := SortedJson.ofJson (.obj [("b",.arr [.bool true]),("a/~",.str "y")])
    comparePlanValue trusted.1 receipt.1 "" [] = [planFinding "/a~1~0",planFinding "/b/1"] ∧
      ∃ appended, comparePlanValue trusted.1 receipt.1 "" [] = []++appended ∧
        (appended = [] ↔ trusted.1.unsignedZeros = receipt.1.unsignedZeros) ∧
        (∃ locations : List (List String),
          (∀ p, p ∈ locations ↔ MinimalDiffering (some trusted.1) (some receipt.1) p) ∧
          locations.Nodup ∧ locations.Pairwise (DepthFirst (some trusted.1)) ∧
          appended = (locations.take (min (maxPlanFindings-0) locations.length)).map
            fun p => planFinding (""++text p)) ∧
        (appended.map VerificationFindingV1.field).Nodup := by
  intro trusted receipt
  exact ⟨by decide +kernel,comparePlanValue_appends trusted receipt "" [] (by decide)⟩

end CommitCiPreflight
