import CommitCiPreflight.ConfigSpec
import CommitCiPreflight.GreedyOrder

/-! The order of the checks in a plan. The loop of `topological_checks` keeps a count of
missing dependencies and a set of ready checks in place of the graph; its invariant says
what they stand for, so that the loop computes the greedy topological order. -/
namespace CommitCiPreflight

open Outcome GreedyOrder

def dependsOnOf (byId : OrderedMap String CheckConfig) (id : String) : List String :=
  ((byId.get? id).map (·.dependsOn)).getD []

structure WellFormed (byId : OrderedMap String CheckConfig) : Prop where
  id : ∀ id check, byId.get? id = some check → check.id = id
  nodup : ∀ id check, byId.get? id = some check → check.dependsOn.Nodup
  closed : ∀ id check, byId.get? id = some check → ∀ d ∈ check.dependsOn, d ∈ byId.keys

abbrev nodes (byId : OrderedMap String CheckConfig) : Finset String := byId.keys.toFinset

section Graph

variable {byId : OrderedMap String CheckConfig}

theorem dependsOnOf_eq {id : String} {check : CheckConfig} (h : byId.get? id = some check) :
    dependsOnOf byId id = check.dependsOn := by
  simp [dependsOnOf,h]

theorem mem_dependsOnOf {id d : String} :
    d ∈ dependsOnOf byId id ↔ ∃ check, byId.get? id = some check ∧ d ∈ check.dependsOn := by
  cases h : byId.get? id <;> simp [dependsOnOf,h]

theorem WellFormed.dependsOnOf_nodup (h : WellFormed byId) (id : String) :
    (dependsOnOf byId id).Nodup := by
  unfold dependsOnOf
  cases hid : byId.get? id with
  | none => simp
  | some check => simpa using h.nodup id check hid

theorem WellFormed.dependsOnOf_mem (h : WellFormed byId) :
    ∀ id ∈ nodes byId, ∀ d ∈ dependsOnOf byId id, d ∈ nodes byId := by
  intro id _ d hd
  obtain ⟨check,hcheck,hd⟩ := mem_dependsOnOf.1 hd
  exact List.mem_toFinset.2 (h.closed id check hcheck d hd)

theorem mem_foldl_dependents (id : String) (deps : List String)
    (dependents : OrderedMap String (OrderedSet String)) (d x : String) :
    x ∈ ((deps.foldl (fun dependents dependency =>
      dependents.insert dependency (((dependents.get? dependency).getD .empty).insert id))
        dependents).get? d).getD .empty ↔
      x ∈ (dependents.get? d).getD .empty ∨ (x = id ∧ d ∈ deps) := by
  induction deps generalizing dependents with
  | nil => simp
  | cons e es ih =>
    rw [List.foldl_cons,ih,OrderedMap.get?_insert]
    by_cases hde : d = e
    · subst hde
      simp
      tauto
    · simp [hde]

theorem mem_dependentsOf {d x : String} :
    x ∈ ((dependentsOf byId).get? d).getD .empty ↔ d ∈ dependsOnOf byId x := by
  have hfold : ∀ (es : List (String × CheckConfig))
      (dependents : OrderedMap String (OrderedSet String)),
      x ∈ ((es.foldl (fun dependents entry => entry.2.dependsOn.foldl
        (fun dependents dependency => dependents.insert dependency
          (((dependents.get? dependency).getD .empty).insert entry.1)) dependents)
            dependents).get? d).getD .empty ↔
        x ∈ (dependents.get? d).getD .empty ∨
          ∃ check, (x,check) ∈ es ∧ d ∈ check.dependsOn := by
    intro es
    induction es with
    | nil => simp
    | cons e es ih =>
      intro dependents
      rw [List.foldl_cons,ih,mem_foldl_dependents,or_assoc]
      refine or_congr_right ?_
      constructor
      · rintro (⟨rfl,hd⟩ | ⟨check,hmem,hd⟩)
        · exact ⟨e.2,List.mem_cons_self,hd⟩
        · exact ⟨check,List.mem_cons_of_mem _ hmem,hd⟩
      · rintro ⟨check,hmem,hd⟩
        rcases List.mem_cons.1 hmem with rfl | hmem
        · exact Or.inl ⟨rfl,hd⟩
        · exact Or.inr ⟨check,hmem,hd⟩
  rw [dependentsOf,hfold,mem_dependsOnOf]
  simp [OrderedMap.mem_entries]

end Graph

/-- Releasing a set of children lowers each of their counts by one and makes those ready
that reach zero. -/
theorem fold_releaseChild {children : List String} (hnodup : children.Nodup) {left : String → ℕ}
    {indegree : OrderedMap String ℕ} (ready : OrderedSet String)
    (h : ∀ c ∈ children, indegree.get? c = some (left c+1)) :
    ∃ indegree' ready', fold releaseChild (indegree,ready) children = .ok (indegree',ready') ∧
      (∀ x, indegree'.get? x = if x ∈ children then some (left x) else indegree.get? x) ∧
      ∀ x, x ∈ ready' ↔ x ∈ ready ∨ (x ∈ children ∧ left x = 0) := by
  induction children generalizing indegree ready with
  | nil => exact ⟨indegree,ready,rfl,by simp,by simp⟩
  | cons c cs ih =>
    rw [List.nodup_cons] at hnodup
    have hstep : releaseChild (indegree,ready) c = .ok (indegree.insert c (left c),
        if left c = 0 then ready.insert c else ready) := by
      simp [releaseChild,h c List.mem_cons_self,decrement]
    have hrest : ∀ x ∈ cs, (indegree.insert c (left c)).get? x = some (left x+1) := by
      intro x hx
      have hne : x ≠ c := fun he => hnodup.1 (he ▸ hx)
      rw [OrderedMap.get?_insert,if_neg hne,h x (List.mem_cons_of_mem _ hx)]
    obtain ⟨indegree',ready',hfold,hcount,hready⟩ :=
      ih hnodup.2 (if left c = 0 then ready.insert c else ready) hrest
    refine ⟨indegree',ready',by rw [fold_cons,hstep,ok_bind,hfold],fun x => ?_,fun x => ?_⟩
    · rw [hcount,OrderedMap.get?_insert]
      by_cases hxc : x = c
      · subst hxc
        simp [hnodup.1]
      · simp [hxc]
    · rw [hready]
      by_cases hzero : left c = 0
      · by_cases hxc : x = c
        · subst hxc
          simp [hzero]
        · simp [hzero,hxc]
      · by_cases hxc : x = c
        · subst hxc
          simp [hzero]
        · simp [hzero,hxc]

/-- What the loop's state stands for after placing some checks. -/
structure LoopInvariant (byId : OrderedMap String CheckConfig) (placed : List String)
    (state : TopologicalState) : Prop where
  greedy : Greedy (nodes byId) (dependsOnOf byId) placed
  ordered : List.Forall₂ (fun id c => ∃ check, byId.get? id = some check ∧ normalizeCheck check = c)
    placed state.ordered
  indegree : state.indegree = byId.mapValues fun id _ => pending (dependsOnOf byId) placed id
  ready : ∀ id, id ∈ state.ready ↔ Ready (nodes byId) (dependsOnOf byId) placed id

section Loop

variable {byId : OrderedMap String CheckConfig} {placed : List String} {state : TopologicalState}

theorem loopInvariant_start : LoopInvariant byId [] (topologicalStart byId) := by
  have hindegree : (byId.mapValues fun _ check => check.dependsOn.length) =
      byId.mapValues fun id _ => pending (dependsOnOf byId) [] id := by
    ext1 id
    rw [OrderedMap.get?_mapValues,OrderedMap.get?_mapValues]
    cases h : byId.get? id with
    | none => rfl
    | some check => simp [pending_nil,dependsOnOf_eq h]
  refine ⟨.nil,.nil,hindegree,fun id => ?_⟩
  simp only [topologicalStart,OrderedSet.mem_ofList,List.mem_map,List.mem_filter,Prod.exists,
    exists_and_right,exists_eq_right,OrderedMap.mem_entries,OrderedMap.get?_mapValues,
    decide_eq_true_eq,Ready,List.mem_toFinset,OrderedMap.mem_keys]
  cases h : byId.get? id with
  | none => simp
  | some check => simp [dependsOnOf_eq h,List.eq_nil_iff_forall_not_mem]

/-- One iteration places the least ready check. -/
theorem loopInvariant_step (hwf : WellFormed byId) (h : LoopInvariant byId placed state)
    {id : String} {ready : OrderedSet String} (hpop : state.ready.popFirst = some (id,ready)) :
    ∃ check indegree ready', byId.get? id = some check ∧
      releaseDependents (dependentsOf byId) id (state.indegree,ready) = .ok (indegree,ready') ∧
      LoopInvariant byId (placed++[id]) ⟨indegree,ready',state.ordered++[normalizeCheck check]⟩ := by
  obtain ⟨hleast,hrest⟩ := OrderedSet.popFirst_eq_some hpop
  have hleast : IsLeast {x | Ready (nodes byId) (dependsOnOf byId) placed x} id := by
    simpa only [h.ready] using hleast
  have hready : Ready (nodes byId) (dependsOnOf byId) placed id := hleast.1
  obtain ⟨check,hcheck⟩ := OrderedMap.mem_keys.1 (List.mem_toFinset.1 hready.1)
  have hchild : ∀ c ∈ (((dependentsOf byId).get? id).getD .empty).toList,
      state.indegree.get? c = some (pending (dependsOnOf byId) (placed++[id]) c+1) := by
    intro c hc
    have hdep := mem_dependentsOf.1 hc
    obtain ⟨child,hchild,-⟩ := mem_dependsOnOf.1 hdep
    rw [h.indegree,OrderedMap.get?_mapValues,hchild,Option.map_some,
      pending_place (hwf.dependsOnOf_nodup c) hready.2.1 hdep]
  obtain ⟨indegree,ready',hfold,hcount,hmem⟩ :=
    fold_releaseChild (OrderedSet.nodup _) ready hchild
  refine ⟨check,indegree,ready',hcheck,?_,?_⟩
  · rw [← hfold,releaseDependents]
    cases (dependentsOf byId).get? id <;> rfl
  refine ⟨.place h.greedy hleast,?_,?_,fun x => ?_⟩
  · exact List.rel_append h.ordered (.cons ⟨check,hcheck,rfl⟩ .nil)
  · ext1 x
    simp only [hcount,OrderedMap.get?_mapValues,OrderedSet.mem_toList,mem_dependentsOf]
    by_cases hdep : id ∈ dependsOnOf byId x
    · obtain ⟨child,hchild,-⟩ := mem_dependsOnOf.1 hdep
      rw [if_pos hdep,hchild,Option.map_some]
    · rw [if_neg hdep,h.indegree,OrderedMap.get?_mapValues,pending_place_of_notMem hdep]
  · rw [hmem,hrest,h.ready,OrderedSet.mem_toList,mem_dependentsOf,
      ready_place_iff h.greedy.deps_mem hready]
    refine or_congr_right ⟨fun hleft => ⟨?_,hleft⟩,fun hright => hright.2⟩
    obtain ⟨child,hchild,-⟩ := mem_dependsOnOf.1 hleft.1
    exact List.mem_toFinset.2 (OrderedMap.mem_keys.2 ⟨child,hchild⟩)

/-- The loop ends within its fuel, with an order that cannot be continued. -/
theorem topologicalLoop_eq_ok (hwf : WellFormed byId) {fuel : ℕ}
    (h : LoopInvariant byId placed state) (hfuel : (nodes byId).card < fuel+placed.length) :
    ∃ placed' state', topologicalLoop byId (dependentsOf byId) fuel state = .ok state' ∧
      LoopInvariant byId placed' state' ∧ Stuck (nodes byId) (dependsOnOf byId) placed' := by
  induction fuel generalizing placed state with
  | zero =>
    have hle : placed.length ≤ (nodes byId).card := by
      rw [← List.toFinset_card_of_nodup h.greedy.nodup]
      refine Finset.card_le_card fun x hx => ?_
      exact h.greedy.mem_nodes x (List.mem_toFinset.1 hx)
    omega
  | succ fuel ih =>
    rw [topologicalLoop]
    cases hpop : state.ready.popFirst with
    | none =>
      refine ⟨placed,state,rfl,h,fun x hx => ?_⟩
      exact OrderedSet.popFirst_eq_none.1 hpop x ((h.ready x).2 hx)
    | some next =>
      obtain ⟨id,ready⟩ := next
      obtain ⟨check,indegree,ready',hcheck,hmatch,hinv⟩ := loopInvariant_step hwf h hpop
      have hstep := ih hinv (by simp; omega)
      simpa only [hcheck,expect_some,ok_bind,hmatch] using hstep

theorem filter_indegree (h : LoopInvariant byId placed state)
    (hstuck : Stuck (nodes byId) (dependsOnOf byId) placed) :
    (state.indegree.entries.filter (0 < ·.2)).map Prod.fst = byId.keys.filter (· ∉ placed) := by
  rw [h.indegree,OrderedMap.mapValues,List.filter_map,List.map_map,OrderedMap.keys,
    List.filter_map]
  refine congrArg (List.map Prod.fst) (List.filter_congr fun e he => ?_)
  have hnode : e.1 ∈ nodes byId := List.mem_toFinset.2 (List.mem_map.2 ⟨e,he,rfl⟩)
  have hiff : 0 < pending (dependsOnOf byId) placed e.1 ↔ e.1 ∉ placed := by
    rw [Nat.pos_iff_ne_zero,ne_eq,pending_eq_zero,not_iff_not]
    constructor
    · intro hall
      by_contra hmem
      exact hstuck e.1 ⟨hnode,hmem,hall⟩
    · exact h.greedy.deps_mem e.1
  simp [hiff]

/-- The greedy order is returned when it places every check; the rest is reported as
cyclic otherwise. -/
theorem topologicalChecks_eq (hwf : WellFormed byId) :
    ∃ placed ordered, Greedy (nodes byId) (dependsOnOf byId) placed ∧
      Stuck (nodes byId) (dependsOnOf byId) placed ∧
      List.Forall₂ (fun id c => ∃ check, byId.get? id = some check ∧ normalizeCheck check = c)
        placed ordered ∧
      topologicalChecks byId = if placed.length = byId.keys.length then .ok ordered
        else .err (.dependencyCycle (byId.keys.filter (· ∉ placed))) := by
  have hcard : (nodes byId).card = byId.entries.length := by
    rw [List.toFinset_card_of_nodup byId.keys_nodup,OrderedMap.keys,List.length_map]
  obtain ⟨placed,state,hloop,hinv,hstuck⟩ := topologicalLoop_eq_ok hwf loopInvariant_start
    (show (nodes byId).card < byId.entries.length+1+[].length by simp [hcard])
  refine ⟨placed,state.ordered,hinv.greedy,hstuck,hinv.ordered,?_⟩
  rw [topologicalChecks,hloop,ok_bind,filter_indegree hinv hstuck,← hinv.ordered.length_eq,
    OrderedMap.keys,List.length_map,ensure]
  split <;> rfl

theorem Greedy.perm_keys (h : Greedy (nodes byId) (dependsOnOf byId) placed)
    (hlength : placed.length = byId.keys.length) : placed.Perm byId.keys := by
  have hsub : placed ⊆ byId.keys := fun x hx => List.mem_toFinset.1 (h.mem_nodes x hx)
  exact (List.subperm_of_subset h.nodup hsub).perm_of_length_le hlength.ge

theorem length_eq_keys_iff (h : Greedy (nodes byId) (dependsOnOf byId) placed) :
    placed.length = byId.keys.length ↔ ∀ id ∈ byId.keys, id ∈ placed := by
  constructor
  · intro hlength id hid
    exact (Greedy.perm_keys h hlength).mem_iff.2 hid
  · intro hall
    refine List.Perm.length_eq ((List.perm_ext_iff_of_nodup h.nodup byId.keys_nodup).2 fun x => ?_)
    exact ⟨fun hx => List.mem_toFinset.1 (h.mem_nodes x hx),hall x⟩

end Loop

variable {checks : List CheckConfig}

theorem wellFormed_checksById (hids : (checks.map (·.id)).Nodup)
    (hdeps : ∀ check ∈ checks, ∀ d ∈ check.dependsOn, ∃ c ∈ checks, c.id = d) :
    WellFormed (checksById checks) := by
  refine ⟨fun id check h => ?_,fun id check h => ?_,fun id check h d hd => ?_⟩ <;>
    obtain ⟨c,hc,hid,rfl⟩ := (get?_checksById hids).1 h
  · exact hid
  · exact OrderedSet.nodup _
  · rw [mem_keys_checksById hids]
    exact hdeps c hc d (by simpa [CheckConfig.sorted] using hd)

theorem validateDependencies_checksById (hids : (checks.map (·.id)).Nodup) :
    validateDependencies (checksById checks) = .ok () ↔
      ∀ check ∈ checks, ∀ d ∈ check.dependsOn, d ≠ check.id ∧ ∃ c ∈ checks, c.id = d := by
  simp only [validateDependencies_eq_ok,OrderedMap.mem_values,get?_checksById hids,
    mem_keys_checksById hids]
  constructor
  · intro h check hc d hd
    exact h check.sorted ⟨check.id,check,hc,rfl,rfl⟩ d (by simpa [CheckConfig.sorted] using hd)
  · rintro h _ ⟨id,check,hc,-,rfl⟩ d hd
    exact h check hc d (by simpa [CheckConfig.sorted] using hd)

section Order

variable {byId : OrderedMap String CheckConfig} {placed : List String}
  {ordered : List NormalizedCheck}

theorem map_id_of_forall₂ (hwf : WellFormed byId)
    (h : List.Forall₂ (fun id c => ∃ check, byId.get? id = some check ∧ normalizeCheck check = c)
      placed ordered) : ordered.map (·.id) = placed := by
  induction h with
  | nil => rfl
  | cons hc _ ih =>
    obtain ⟨check,hcheck,rfl⟩ := hc
    rw [List.map_cons,ih]
    exact congrArg (·::_) (hwf.id _ _ hcheck)

theorem filterMap_of_forall₂ (h : List.Forall₂
      (fun id c => ∃ check, byId.get? id = some check ∧ normalizeCheck check = c) placed ordered) :
    placed.filterMap (fun id => (byId.get? id).map normalizeCheck) = ordered := by
  induction h with
  | nil => rfl
  | cons hc _ ih =>
    obtain ⟨check,hcheck,rfl⟩ := hc
    simp [hcheck,ih]

theorem ordered_perm (h : List.Forall₂
      (fun id c => ∃ check, byId.get? id = some check ∧ normalizeCheck check = c) placed ordered)
    (hperm : placed.Perm byId.keys) : ordered.Perm (byId.values.map normalizeCheck) := by
  have hkeys : byId.keys.filterMap (fun id => (byId.get? id).map normalizeCheck) =
      byId.values.map normalizeCheck := by
    rw [OrderedMap.keys,OrderedMap.values,List.filterMap_map,List.map_map,
      ← List.filterMap_eq_map]
    refine List.filterMap_congr fun e he => ?_
    simp [OrderedMap.mem_entries.1 (show (e.1,e.2) ∈ byId.entries from he)]
  rw [← filterMap_of_forall₂ h,← hkeys]
  exact hperm.filterMap _

end Order

/-- Each check of a plan comes after its dependencies, and before every later check that
was ready at the same time. -/
structure GreedyChecks (checks : List NormalizedCheck) : Prop where
  dependencies : ∀ before c after, checks = before++c::after →
    ∀ d ∈ c.dependsOn, d ∈ before.map (·.id)
  least : ∀ before c after, checks = before++c::after → ∀ other ∈ after,
    (∀ d ∈ other.dependsOn, d ∈ before.map (·.id)) → c.id < other.id

theorem normalizeChecks_order {out : List NormalizedCheck} (h : normalizeChecks checks = .ok out) :
    out.Perm (checks.map fun check => normalizeCheck check.sorted) ∧
      (out.map (·.id)).Nodup ∧ GreedyChecks out := by
  obtain ⟨-,⟨-,hids⟩,hdeps,htop⟩ := normalizeChecks_eq_ok.1 h
  have hwf := wellFormed_checksById hids fun check hc d hd =>
    ((validateDependencies_checksById hids).1 hdeps check hc d hd).2
  obtain ⟨placed,ordered,hgreedy,-,hforall,hresult⟩ := topologicalChecks_eq hwf
  rw [htop] at hresult
  split at hresult <;> cases hresult
  rename_i hlength
  have hplaced := map_id_of_forall₂ hwf hforall
  have hcheck : ∀ c ∈ out, dependsOnOf (checksById checks) c.id = c.dependsOn ∧
      c.id ∈ (checksById checks).keys := by
    intro c hc
    rw [← filterMap_of_forall₂ hforall] at hc
    obtain ⟨id,-,hmap⟩ := List.mem_filterMap.1 hc
    obtain ⟨check,hget,rfl⟩ := Option.map_eq_some_iff.1 hmap
    have hid : id = check.id := (hwf.id id check hget).symm
    subst hid
    exact ⟨dependsOnOf_eq hget,OrderedMap.mem_keys.2 ⟨check,hget⟩⟩
  refine ⟨?_,hplaced ▸ hgreedy.nodup,⟨?_,?_⟩⟩
  · refine (ordered_perm hforall (Greedy.perm_keys hgreedy hlength)).trans ?_
    have hvalues := ((checksById_entries_perm hids).map Prod.snd).map normalizeCheck
    simpa [OrderedMap.values,Function.comp_def] using hvalues
  · rintro before c after rfl d hd
    have hsplit := (hgreedy.split (by rw [← hplaced,List.map_append,List.map_cons])).2
    exact hsplit.1.2.2 d ((hcheck c (by simp)).1 ▸ hd)
  · rintro before c after rfl other hother hready
    have hsplit := (hgreedy.split (by rw [← hplaced,List.map_append,List.map_cons])).2
    have hnodup := hplaced ▸ hgreedy.nodup
    rw [List.map_append,List.map_cons,List.nodup_append,List.nodup_cons] at hnodup
    have hmem : other.id ∈ after.map (·.id) := List.mem_map.2 ⟨other,hother,rfl⟩
    obtain ⟨hdeps,hnode⟩ := hcheck other (by simp [hother])
    have hle := hsplit.2 ⟨List.mem_toFinset.2 hnode,
      fun hbefore => hnodup.2.2 _ hbefore _ (List.mem_cons_of_mem _ hmem) rfl,hdeps ▸ hready⟩
    exact lt_of_le_of_ne hle fun he => hnodup.2.1.1 (he ▸ hmem)

def DeclaredDependency (checks : List CheckConfig) (a b : String) : Prop :=
  ∃ check ∈ checks, check.id = a ∧ b ∈ check.dependsOn

theorem dependsOn_checksById (hids : (checks.map (·.id)).Nodup) :
    DependsOn (dependsOnOf (checksById checks)) = DeclaredDependency checks := by
  funext a b
  rw [GreedyOrder.DependsOn,mem_dependsOnOf,DeclaredDependency,eq_iff_iff]
  constructor
  · rintro ⟨_,hget,hb⟩
    obtain ⟨c,hc,hid,rfl⟩ := (get?_checksById hids).1 hget
    exact ⟨c,hc,hid,by simpa [CheckConfig.sorted] using hb⟩
  · rintro ⟨c,hc,hid,hb⟩
    exact ⟨c.sorted,(get?_checksById hids).2 ⟨c,hc,hid,rfl⟩,by simpa [CheckConfig.sorted] using hb⟩

theorem mem_keys_of_reachesCycle {byId : OrderedMap String CheckConfig} {a : String}
    (h : ReachesCycle (dependsOnOf byId) a) : a ∈ byId.keys := by
  have hsource : ∀ {x y}, DependsOn (dependsOnOf byId) x y → x ∈ byId.keys := by
    intro x y hxy
    obtain ⟨check,hget,-⟩ := mem_dependsOnOf.1 hxy
    exact OrderedMap.mem_keys.2 ⟨check,hget⟩
  obtain ⟨b,hreach,hcycle⟩ := h
  rcases Relation.ReflTransGen.cases_head hreach with rfl | ⟨c,hac,-⟩
  · obtain ⟨c,hbc,-⟩ := Relation.TransGen.head'_iff.1 hcycle
    exact hsource hbc
  · exact hsource hac

theorem topologicalChecks_cycle {byId : OrderedMap String CheckConfig} (hwf : WellFormed byId) :
    ((∃ ids, topologicalChecks byId = .err (.dependencyCycle ids)) ↔
      ∃ a, Relation.TransGen (DependsOn (dependsOnOf byId)) a a) ∧
    ∀ ids, topologicalChecks byId = .err (.dependencyCycle ids) →
      ∀ a, a ∈ ids ↔ ReachesCycle (dependsOnOf byId) a := by
  obtain ⟨placed,ordered,hgreedy,hstuck,-,hresult⟩ := topologicalChecks_eq hwf
  have hleft : ∀ a, a ∈ byId.keys.filter (· ∉ placed) ↔ ReachesCycle (dependsOnOf byId) a := by
    intro a
    rw [List.mem_filter,decide_eq_true_eq]
    constructor
    · rintro ⟨hkey,hleft⟩
      exact (hgreedy.left_over_iff hstuck hwf.dependsOnOf_mem (List.mem_toFinset.2 hkey)).1 hleft
    · intro hcycle
      have hkey := mem_keys_of_reachesCycle hcycle
      exact ⟨hkey,
        (hgreedy.left_over_iff hstuck hwf.dependsOnOf_mem (List.mem_toFinset.2 hkey)).2 hcycle⟩
  rw [hresult]
  refine ⟨?_,fun ids hids => ?_⟩
  · constructor
    · rintro ⟨ids,hids⟩
      split at hids <;> cases hids
      rename_i hnot
      rw [length_eq_keys_iff hgreedy] at hnot
      push Not at hnot
      obtain ⟨a,hkey,hplaced⟩ := hnot
      obtain ⟨b,-,hb⟩ := (hleft a).1 (List.mem_filter.2 ⟨hkey,by simpa using hplaced⟩)
      exact ⟨b,hb⟩
    · rintro ⟨a,ha⟩
      have hmem := List.mem_filter.1 ((hleft a).2 ⟨a,.refl,ha⟩)
      have hnot : ¬ placed.length = byId.keys.length := by
        rw [length_eq_keys_iff hgreedy]
        intro hall
        simp [hall a hmem.1] at hmem
      rw [if_neg hnot]
      exact ⟨_,rfl⟩
  · split at hids <;> cases hids
    exact hleft

def NotCycle (e : ConfigError) : Prop := ∀ ids, e ≠ .dependencyCycle ids

theorem rejectPathOverlap_fails (first second : String) :
    (rejectPathOverlap first second).Fails NotCycle :=
  fails_ensure (by simp [NotCycle])

theorem isolateCaches_fails (output : String) (caches : List NormalizedCache) :
    (isolateCaches output caches).Fails NotCycle := by
  induction caches with
  | nil => exact fails_ok ()
  | cons cache caches ih =>
    exact (Fails.each (fun _ => rejectPathOverlap_fails _ _) caches).bind fun _ =>
      (rejectPathOverlap_fails _ _).bind fun _ => ih

theorem isolateArtifact_fails (output : String) (caches : List NormalizedCache)
    (artifacts : OrderedSet String) (artifact : String) :
    (isolateArtifact output caches artifacts artifact).Fails NotCycle :=
  (fails_ensure (by simp [NotCycle])).bind fun _ =>
    (Fails.each (fun _ => rejectPathOverlap_fails _ _) _).bind fun _ =>
    (rejectPathOverlap_fails _ _).bind fun _ =>
    (Fails.each (fun _ => rejectPathOverlap_fails _ _) _).bind fun _ => fails_ok _

theorem validatePathIsolation_fails (receipt : NormalizedReceipt) (caches : List NormalizedCache)
    (checks : List NormalizedCheck) :
    (validatePathIsolation receipt caches checks).Fails NotCycle :=
  (isolateCaches_fails _ _).bind fun _ =>
    (Fails.fold (fun _ _ => Fails.fold (isolateArtifact_fails _ _) _ _) _ _).bind fun _ => fails_ok _

theorem validateBounded_fails (field : String) (value minimum maximum : UInt64) :
    (validateBounded field value minimum maximum).Fails NotCycle :=
  fails_ensure (by simp [NotCycle])

theorem normalizeStorage_fails (schemaVersion : String) (storage : Option StorageConfig)
    (checks : List NormalizedCheck) :
    (normalizeStorage schemaVersion storage checks).Fails NotCycle := by
  unfold normalizeStorage
  split
  · exact (fails_ensure (by simp [NotCycle])).bind fun _ => fails_ok _
  · exact (fails_ofOption (by simp [NotCycle])).bind fun _ =>
      (validateBounded_fails _ _ _ _).bind fun _ =>
      (validateBounded_fails _ _ _ _).bind fun _ =>
      (validateBounded_fails _ _ _ _).bind fun _ =>
      (fails_ofOption (by simp [NotCycle])).bind fun _ =>
      (fails_ofOption (by simp [NotCycle])).bind fun _ =>
      (fails_ensure (by simp [NotCycle])).bind fun _ => fails_ok _

/-- Everything `into_plan` checks before it looks at the dependencies. -/
structure ConfigV1.PassesOtherValidations (crates : Crates) (config : ConfigV1) : Prop where
  topLevel : config.validateTopLevel = .ok ()
  sections : ∃ caches runtime environment, normalizeCaches config.caches = .ok caches ∧
    normalizeRuntime config.schemaVersion config.runtime = .ok runtime ∧
    normalizeEnvironment crates config.schemaVersion config.environment caches = .ok environment
  counts : config.checks ≠ [] ∧ config.checks.length ≤ maxChecks ∧
    config.checks.any (·.required) = true
  checks : ∃ byId, fold collectCheck .empty config.checks = .ok byId

theorem intoPlan_eq_cycle {crates : Crates} {config : ConfigV1}
    (h : config.PassesOtherValidations crates)
    (hdeps : ∀ check ∈ config.checks, ∀ d ∈ check.dependsOn,
      d ≠ check.id ∧ ∃ c ∈ config.checks, c.id = d) {ids : List String} :
    config.intoPlan crates = .err (.dependencyCycle ids) ↔
      topologicalChecks (checksById config.checks) = .err (.dependencyCycle ids) := by
  obtain ⟨caches,runtime,environment,hcaches,hruntime,henvironment⟩ := h.sections
  obtain ⟨byId,hbyId⟩ := h.checks
  obtain ⟨-,hids,rfl⟩ := collectChecks_eq_ok.1 hbyId
  have hchecks : normalizeChecks config.checks = topologicalChecks (checksById config.checks) := by
    have hdependencies := (validateDependencies_checksById hids).2 hdeps
    simp only [normalizeChecks,ensure,if_pos h.counts.1,if_pos h.counts.2.1,if_pos h.counts.2.2,
      hbyId,hdependencies,ok_bind]
  simp only [ConfigV1.intoPlan,h.topLevel,hcaches,hruntime,henvironment,ok_bind,hchecks]
  rw [bind_eq_err]
  refine ⟨fun herr => herr.resolve_right ?_,Or.inl⟩
  rintro ⟨checks,-,herr⟩
  refine Fails.bind (normalizeStorage_fails _ _ _) (fun _ => ?_) _ herr ids rfl
  exact (validatePathIsolation_fails _ _ _).bind fun _ => fails_ok _

/-- An accepted plan lists the declared checks in greedy topological order. Once the other
validations pass and every dependency names another declared check, `into_plan` reports a
cycle exactly when there is one, naming the checks that lie on a cycle or depend on one. -/
theorem intoPlan_topological_order (crates : Crates) (config : ConfigV1) :
    (∀ envelope, config.intoPlan crates = .ok envelope →
      envelope.plan.checks.Perm (config.checks.map fun check => normalizeCheck check.sorted) ∧
      GreedyChecks envelope.plan.checks) ∧
    (config.PassesOtherValidations crates →
      (∀ check ∈ config.checks, ∀ d ∈ check.dependsOn,
        d ≠ check.id ∧ ∃ c ∈ config.checks, c.id = d) →
      ((∃ ids, config.intoPlan crates = .err (.dependencyCycle ids)) ↔
        ∃ a, Relation.TransGen (DeclaredDependency config.checks) a a) ∧
      ∀ ids, config.intoPlan crates = .err (.dependencyCycle ids) → ∀ a, a ∈ ids ↔
        ∃ b, Relation.ReflTransGen (DeclaredDependency config.checks) a b ∧
          Relation.TransGen (DeclaredDependency config.checks) b b) := by
  refine ⟨fun envelope h => ?_,fun hpasses hdeps => ?_⟩
  · obtain ⟨hperm,-,hgreedy⟩ := normalizeChecks_order (ConfigV1.intoPlan_eq_ok.1 h).checks
    exact ⟨hperm,hgreedy⟩
  · obtain ⟨byId,hbyId⟩ := hpasses.checks
    have hids := (collectChecks_eq_ok.1 hbyId).2.1
    have hwf := wellFormed_checksById hids fun check hc d hd => (hdeps check hc d hd).2
    obtain ⟨hiff,hmem⟩ := topologicalChecks_cycle hwf
    simp only [intoPlan_eq_cycle hpasses hdeps]
    simp only [ReachesCycle,dependsOn_checksById hids] at hiff hmem
    exact ⟨hiff,hmem⟩

def ConfigV1.sample (checks : List CheckConfig) : ConfigV1 where
  schemaVersion := "1.0"
  project := "example/project"
  runtime := ⟨.dockerCompatible,
    "ghcr.io/example/ci@sha256:aaaaaaaaaaaaaaaaaaaaaaaaaaaaaaaaaaaaaaaaaaaaaaaaaaaaaaaaaaaaaaaa",
    4,4096,512,false,none,none⟩
  receipt := ⟨".ccp/receipt.json",86400⟩
  environment := ⟨[],.empty,[],[]⟩
  caches := []
  storage := none
  checks

def CheckConfig.sample (id : String) (dependsOn : List String) : CheckConfig :=
  ⟨id,true,["cargo","test"],".",300,dependsOn,[],[]⟩

def ConfigV1.sampleAcyclic : ConfigV1 := .sample [.sample "test" ["fmt"],.sample "fmt" []]

def ConfigV1.sampleCyclic : ConfigV1 :=
  .sample [.sample "a" ["b"],.sample "b" ["a"],.sample "c" ["a"],.sample "d" []]

theorem ConfigV1.sampleCyclic_passes : sampleCyclic.PassesOtherValidations .reference where
  topLevel := by decide +kernel
  sections := ⟨[],_,_,rfl,rfl,rfl⟩
  counts := by decide
  checks := ⟨_,rfl⟩

theorem intoPlan_topological_order_samples :
    (∃ envelope, ConfigV1.sampleAcyclic.intoPlan .reference = .ok envelope ∧
      envelope.plan.checks.map (·.id) = ["fmt","test"] ∧ GreedyChecks envelope.plan.checks) ∧
    ConfigV1.sampleCyclic.intoPlan .reference = .err (.dependencyCycle ["a","b","c"]) ∧
      (∃ a, Relation.TransGen (DeclaredDependency ConfigV1.sampleCyclic.checks) a a) ∧
      ∃ b, Relation.ReflTransGen (DeclaredDependency ConfigV1.sampleCyclic.checks) "c" b ∧
        Relation.TransGen (DeclaredDependency ConfigV1.sampleCyclic.checks) b b := by
  have haccepted : (ConfigV1.sampleAcyclic.intoPlan .reference).toOption.map
      (·.plan.checks.map (·.id)) = some ["fmt","test"] := by decide +kernel
  obtain ⟨envelope,henvelope,hids⟩ := Option.map_eq_some_iff.1 haccepted
  rw [toOption_eq_some] at henvelope
  have hcycle : ConfigV1.sampleCyclic.intoPlan .reference =
      .err (.dependencyCycle ["a","b","c"]) := by decide +kernel
  obtain ⟨hiff,hmem⟩ := (intoPlan_topological_order .reference .sampleCyclic).2
    ConfigV1.sampleCyclic_passes (by decide)
  exact ⟨⟨envelope,henvelope,hids,
    ((intoPlan_topological_order .reference .sampleAcyclic).1 envelope henvelope).2⟩,hcycle,
    hiff.1 ⟨_,hcycle⟩,(hmem _ hcycle "c").1 (by decide)⟩

end CommitCiPreflight
