import CommitCiPreflight.GithubActions

/-! `reject_yaml_indirection` against the trees whose events it reads: it accepts a stream exactly
when no node is an alias, anchored or tagged, and every mapping has distinct scalar keys. -/
namespace CommitCiPreflight
namespace GithubActions

/-- A node of a YAML document, as the parser's events spell it. -/
inductive Node
  | reference
  | scalar (text : String) (anchor : ℕ) (tagged : Bool)
  | sequence (anchor : ℕ) (tagged : Bool) (items : List Node)
  | mapping (anchor : ℕ) (tagged : Bool) (entries : List (Node × Node))

namespace Node

mutual
def events : Node → List YamlEvent
  | .reference => [.alias]
  | .scalar text anchor tagged => [.scalar text anchor tagged]
  | .sequence anchor tagged items => .sequenceStart anchor tagged::(itemEvents items++[.sequenceEnd])
  | .mapping anchor tagged entries => .mappingStart anchor tagged::(entryEvents entries++[.mappingEnd])
def itemEvents : List Node → List YamlEvent
  | [] => []
  | item::items => events item++itemEvents items
def entryEvents : List (Node × Node) → List YamlEvent
  | [] => []
  | (key,value)::entries => events key++(events value++entryEvents entries)
end

mutual
def mappings : Node → List (List (Node × Node))
  | .reference | .scalar _ _ _ => []
  | .sequence _ _ items => itemMappings items
  | .mapping _ _ entries => entries::entryMappings entries
def itemMappings : List Node → List (List (Node × Node))
  | [] => []
  | item::items => mappings item++itemMappings items
def entryMappings : List (Node × Node) → List (List (Node × Node))
  | [] => []
  | (key,value)::entries => mappings key++(mappings value++entryMappings entries)
end

def isCollection : Node → Bool
  | .sequence _ _ _ | .mapping _ _ _ => true
  | _ => false

def scalarText : Node → Option String
  | .scalar text _ _ => some text
  | _ => none

end Node

/-- Events that are properly nested: the nodes of some documents one after another, with the marks
of the stream and of its documents anywhere between their events. -/
def WellNested (nodes : List Node) (events : List YamlEvent) : Prop :=
  events.filter (fun event => match event with
    | .other => false
    | _ => true) = nodes.flatMap Node.events

/-- The event carries an anchor or a tag. -/
def Marked : YamlEvent → Prop
  | .scalar _ anchor tagged | .mappingStart anchor tagged | .sequenceStart anchor tagged =>
    anchor ≠ 0 ∨ tagged = true
  | _ => False

def rejectEvents (stack : List Context) (events : List YamlEvent) :
    Except GithubActionsError (List Context) :=
  events.foldlM rejectEvent stack

variable {stack stack' : List Context} {events : List YamlEvent} {keys : List String} {anchor : ℕ}
  {tagged : Bool}

theorem rejectEvents_cons_eq_ok {event : YamlEvent} :
    rejectEvents stack (event::events) = .ok stack' ↔
      ∃ between, rejectEvent stack event = .ok between ∧ rejectEvents between events = .ok stack' := by
  rw [rejectEvents,List.foldlM_cons,except_bind_eq_ok]
  rfl

theorem rejectEvents_append_eq_ok {xs ys : List YamlEvent} :
    rejectEvents stack (xs++ys) = .ok stack' ↔
      ∃ between, rejectEvents stack xs = .ok between ∧ rejectEvents between ys = .ok stack' := by
  rw [rejectEvents,List.foldlM_append,except_bind_eq_ok]
  rfl

theorem rejectEvents_singleton (stack : List Context) (event : YamlEvent) :
    rejectEvents stack [event] = rejectEvent stack event := by
  cases h : rejectEvent stack event <;> simp [rejectEvents,h]

/-- The innermost open collection is a mapping that waits for a key. -/
def ExpectsKey : List Context → Prop
  | .mapping true _::_ => True
  | _ => False

theorem not_expectsKey_sequence : ¬ ExpectsKey (.sequence::stack) := fun h => h

theorem not_expectsKey_value : ¬ ExpectsKey (.mapping false keys::stack) := fun h => h

theorem rejectAnchorOrTag_eq_ok :
    rejectAnchorOrTag anchor tagged = .ok () ↔ anchor = 0 ∧ tagged = false := by
  unfold rejectAnchorOrTag structureError
  split
  · rename_i h
    exact ⟨fun he => (by cases he),fun ⟨ha,ht⟩ => absurd h (by simp [ha,ht])⟩
  · rename_i h
    rw [not_or,not_not,Bool.not_eq_true] at h
    exact ⟨fun _ => h,fun _ => rfl⟩

theorem rejectComplexKey_eq_ok (message : String) :
    rejectComplexKey message stack = .ok () ↔ ¬ ExpectsKey stack := by
  unfold rejectComplexKey ExpectsKey structureError
  split <;> simp

theorem rejectEvent_start_eq_ok {message : String} {context : Context} :
    (do
      rejectAnchorOrTag anchor tagged
      rejectComplexKey message stack
      return context::stack : Except GithubActionsError (List Context)) = .ok stack' ↔
      (anchor = 0 ∧ tagged = false) ∧ ¬ ExpectsKey stack ∧ stack' = context::stack := by
  rw [except_bind_eq_ok,← rejectAnchorOrTag_eq_ok,← rejectComplexKey_eq_ok message]
  constructor
  · rintro ⟨⟨⟩,hmarks,h⟩
    obtain ⟨⟨⟩,hkey,h⟩ := except_bind_eq_ok.1 h
    exact ⟨hmarks,hkey,(Except.ok.inj h).symm⟩
  · rintro ⟨hmarks,hkey,rfl⟩
    exact ⟨(),hmarks,except_bind_eq_ok.2 ⟨(),hkey,rfl⟩⟩

theorem rejectEvent_scalar_value {text : String} (hvalue : ¬ ExpectsKey stack) :
    rejectEvent stack (.scalar text anchor tagged) = .ok stack' ↔
      (anchor = 0 ∧ tagged = false) ∧ stack' = completeParentValue stack := by
  have hrest : rejectEvent stack (.scalar text anchor tagged) =
      rejectAnchorOrTag anchor tagged >>= fun _ => .ok (completeParentValue stack) := by
    rcases stack with _ | ⟨⟨⟨⟩,keys⟩ | _,stack⟩
    · rfl
    · rfl
    · exact absurd trivial hvalue
    · rfl
  rw [hrest,except_bind_eq_ok,← rejectAnchorOrTag_eq_ok]
  constructor
  · rintro ⟨⟨⟩,hmarks,h⟩
    exact ⟨hmarks,(Except.ok.inj h).symm⟩
  · rintro ⟨hmarks,rfl⟩
    exact ⟨(),hmarks,rfl⟩

theorem rejectEvent_scalar_key {text : String} :
    rejectEvent (.mapping true keys::stack) (.scalar text anchor tagged) = .ok stack' ↔
      (anchor = 0 ∧ tagged = false) ∧ text ∉ keys ∧ stack' = .mapping false (text::keys)::stack := by
  have hrest : rejectEvent (.mapping true keys::stack) (.scalar text anchor tagged) =
      rejectAnchorOrTag anchor tagged >>= fun _ =>
        if text ∈ keys then structureError "workflow contains a duplicate mapping key"
        else .ok (.mapping false (text::keys)::stack) := rfl
  rw [hrest,except_bind_eq_ok,← rejectAnchorOrTag_eq_ok]
  constructor
  · rintro ⟨⟨⟩,hmarks,h⟩
    split at h
    · cases h
    · exact ⟨hmarks,‹_›,(Except.ok.inj h).symm⟩
  · rintro ⟨hmarks,hnew,rfl⟩
    exact ⟨(),hmarks,if_neg hnew⟩

namespace Node

mutual
/-- What the filter lets pass. -/
def Clean : Node → Prop
  | .reference => False
  | .scalar _ anchor tagged => anchor = 0 ∧ tagged = false
  | .sequence anchor tagged items => (anchor = 0 ∧ tagged = false) ∧ CleanItems items
  | .mapping anchor tagged entries => (anchor = 0 ∧ tagged = false) ∧ CleanEntries [] entries
def CleanItems : List Node → Prop
  | [] => True
  | item::items => Clean item ∧ CleanItems items
def CleanEntries (seen : List String) : List (Node × Node) → Prop
  | [] => True
  | (.scalar text anchor tagged,value)::entries =>
    (anchor = 0 ∧ tagged = false) ∧ text ∉ seen ∧ Clean value ∧ CleanEntries (text::seen) entries
  | _::_ => False
end

def keysAfter (seen : List String) (entries : List (Node × Node)) : List String :=
  (entries.filterMap fun entry => entry.1.scalarText).reverse++seen

end Node

open Node

theorem rejectEvents_key {key : Node} :
    rejectEvents (.mapping true keys::stack) key.events = .ok stack' ↔
      ∃ text, key = .scalar text 0 false ∧ text ∉ keys ∧
        stack' = .mapping false (text::keys)::stack := by
  cases key with
  | reference =>
    rw [events,rejectEvents_singleton]
    exact ⟨fun h => (by cases h),fun ⟨_,h,_⟩ => (by cases h)⟩
  | scalar text anchor tagged =>
    rw [events,rejectEvents_singleton,rejectEvent_scalar_key]
    constructor
    · rintro ⟨⟨rfl,rfl⟩,hnew,rfl⟩
      exact ⟨text,rfl,hnew,rfl⟩
    · rintro ⟨_,⟨⟩,hnew,rfl⟩
      exact ⟨⟨rfl,rfl⟩,hnew,rfl⟩
  | sequence anchor tagged items =>
    rw [events,rejectEvents_cons_eq_ok]
    constructor
    · rintro ⟨between,hstart,-⟩
      exact absurd trivial (rejectEvent_start_eq_ok.1 hstart).2.1
    · rintro ⟨_,h,_⟩
      cases h
  | mapping anchor tagged entries =>
    rw [events,rejectEvents_cons_eq_ok]
    constructor
    · rintro ⟨between,hstart,-⟩
      exact absurd trivial (rejectEvent_start_eq_ok.1 hstart).2.1
    · rintro ⟨_,h,_⟩
      cases h

mutual
/-- In the place of a value a node is let pass if it is clean, and the value is then complete. -/
theorem rejectEvents_value (stack : List Context) (hvalue : ¬ ExpectsKey stack) :
    (node : Node) → ∀ stack', rejectEvents stack node.events = .ok stack' ↔
      node.Clean ∧ stack' = completeParentValue stack
  | .reference => by
    intro stack'
    rw [events,rejectEvents_singleton,Clean]
    exact ⟨fun h => (by cases h),fun h => h.1.elim⟩
  | .scalar text anchor tagged => by
    intro stack'
    rw [events,rejectEvents_singleton,rejectEvent_scalar_value hvalue,Clean]
  | .sequence anchor tagged items => by
    intro stack'
    rw [events,rejectEvents_cons_eq_ok,Clean]
    constructor
    · rintro ⟨_,hstart,h⟩
      obtain ⟨hmarks,-,rfl⟩ := rejectEvent_start_eq_ok.1 hstart
      obtain ⟨_,hitems,hend⟩ := rejectEvents_append_eq_ok.1 h
      obtain ⟨hclean,rfl⟩ := (rejectEvents_items stack items _).1 hitems
      rw [rejectEvents_singleton] at hend
      exact ⟨⟨hmarks,hclean⟩,(Except.ok.inj hend).symm⟩
    · rintro ⟨⟨hmarks,hclean⟩,rfl⟩
      refine ⟨_,rejectEvent_start_eq_ok.2 ⟨hmarks,hvalue,rfl⟩,rejectEvents_append_eq_ok.2 ?_⟩
      exact ⟨_,(rejectEvents_items stack items _).2 ⟨hclean,rfl⟩,rejectEvents_singleton _ _⟩
  | .mapping anchor tagged entries => by
    intro stack'
    rw [events,rejectEvents_cons_eq_ok,Clean]
    constructor
    · rintro ⟨_,hstart,h⟩
      obtain ⟨hmarks,-,rfl⟩ := rejectEvent_start_eq_ok.1 hstart
      obtain ⟨_,hentries,hend⟩ := rejectEvents_append_eq_ok.1 h
      obtain ⟨hclean,rfl⟩ := (rejectEvents_entries stack [] entries _).1 hentries
      rw [rejectEvents_singleton] at hend
      exact ⟨⟨hmarks,hclean⟩,(Except.ok.inj hend).symm⟩
    · rintro ⟨⟨hmarks,hclean⟩,rfl⟩
      refine ⟨_,rejectEvent_start_eq_ok.2 ⟨hmarks,hvalue,rfl⟩,rejectEvents_append_eq_ok.2 ?_⟩
      exact ⟨_,(rejectEvents_entries stack [] entries _).2 ⟨hclean,rfl⟩,rejectEvents_singleton _ _⟩
theorem rejectEvents_items (stack : List Context) :
    (items : List Node) → ∀ stack', rejectEvents (.sequence::stack) (itemEvents items) = .ok stack' ↔
      CleanItems items ∧ stack' = .sequence::stack
  | [] => by
    intro stack'
    rw [itemEvents,CleanItems]
    exact ⟨fun h => ⟨trivial,(Except.ok.inj h).symm⟩,fun h => h.2 ▸ rfl⟩
  | item::items => by
    intro stack'
    rw [itemEvents,rejectEvents_append_eq_ok,CleanItems]
    constructor
    · rintro ⟨_,hitem,h⟩
      obtain ⟨hclean,rfl⟩ := (rejectEvents_value _ not_expectsKey_sequence item _).1 hitem
      obtain ⟨hrest,rfl⟩ := (rejectEvents_items stack items _).1 h
      exact ⟨⟨hclean,hrest⟩,rfl⟩
    · rintro ⟨⟨hclean,hrest⟩,rfl⟩
      exact ⟨_,(rejectEvents_value _ not_expectsKey_sequence item _).2 ⟨hclean,rfl⟩,
        (rejectEvents_items stack items _).2 ⟨hrest,rfl⟩⟩
theorem rejectEvents_entries (stack : List Context) (seen : List String) :
    (entries : List (Node × Node)) → ∀ stack',
      rejectEvents (.mapping true seen::stack) (entryEvents entries) = .ok stack' ↔
        CleanEntries seen entries ∧ stack' = .mapping true (keysAfter seen entries)::stack
  | [] => by
    intro stack'
    rw [entryEvents,CleanEntries]
    exact ⟨fun h => ⟨trivial,(Except.ok.inj h).symm⟩,fun h => h.2 ▸ rfl⟩
  | (key,value)::entries => by
    intro stack'
    rw [entryEvents,rejectEvents_append_eq_ok]
    constructor
    · rintro ⟨_,hkey,h⟩
      obtain ⟨text,rfl,hnew,rfl⟩ := rejectEvents_key.1 hkey
      obtain ⟨_,hvalue,h⟩ := rejectEvents_append_eq_ok.1 h
      obtain ⟨hclean,rfl⟩ := (rejectEvents_value _ not_expectsKey_value value _).1 hvalue
      obtain ⟨hrest,rfl⟩ := (rejectEvents_entries stack (text::seen) entries _).1 h
      refine ⟨⟨⟨rfl,rfl⟩,hnew,hclean,hrest⟩,?_⟩
      simp [keysAfter,scalarText]
    · rintro ⟨hclean,rfl⟩
      cases key with
      | scalar text anchor tagged =>
        obtain ⟨⟨rfl,rfl⟩,hnew,hclean,hrest⟩ := hclean
        refine ⟨_,rejectEvents_key.2 ⟨text,rfl,hnew,rfl⟩,rejectEvents_append_eq_ok.2 ?_⟩
        refine ⟨_,(rejectEvents_value _ not_expectsKey_value value _).2 ⟨hclean,rfl⟩,?_⟩
        refine (rejectEvents_entries stack (text::seen) entries _).2 ⟨hrest,?_⟩
        simp [keysAfter,scalarText]
      | _ => exact hclean.elim
end

/-- No event is an alias, and none carries an anchor or a tag. -/
def Plain (events : List YamlEvent) : Prop := ∀ event ∈ events, event ≠ .alias ∧ ¬ Marked event

/-- The keys of a mapping are no collections, and no two scalars among them have the same text. -/
def Keyed (entries : List (Node × Node)) : Prop :=
  (∀ entry ∈ entries, entry.1.isCollection = false) ∧
    (entries.filterMap fun entry => entry.1.scalarText).Nodup

theorem plain_append {xs ys : List YamlEvent} : Plain (xs++ys) ↔ Plain xs ∧ Plain ys := by
  simp only [Plain,List.forall_mem_append]

theorem plain_cons {event : YamlEvent} :
    Plain (event::events) ↔ (event ≠ .alias ∧ ¬ Marked event) ∧ Plain events := by
  simp only [Plain,List.forall_mem_cons]

theorem plain_nil : Plain [] := by simp [Plain]

theorem not_marked_iff : ¬ (anchor ≠ 0 ∨ tagged = true) ↔ anchor = 0 ∧ tagged = false := by
  rw [not_or,not_not,Bool.not_eq_true]

mutual
theorem clean_iff : (node : Node) →
    (node.Clean ↔ Plain node.events ∧ ∀ entries ∈ node.mappings, Keyed entries)
  | .reference => by
    rw [Clean,events,plain_cons]
    simp
  | .scalar text anchor tagged => by
    rw [Clean,events,mappings,plain_cons,← not_marked_iff]
    simp [plain_nil,Marked]
  | .sequence anchor tagged items => by
    rw [Clean,events,mappings,plain_cons,plain_append,plain_cons,cleanItems_iff items,← not_marked_iff]
    simp [plain_nil,Marked,and_assoc]
  | .mapping anchor tagged entries => by
    rw [Clean,events,mappings,plain_cons,plain_append,plain_cons,cleanEntries_iff [] entries,
      ← not_marked_iff]
    simp only [List.forall_mem_cons,Keyed]
    simp [plain_nil,Marked]
    tauto
theorem cleanItems_iff : (items : List Node) →
    (CleanItems items ↔ Plain (itemEvents items) ∧ ∀ entries ∈ itemMappings items, Keyed entries)
  | [] => by simp [CleanItems,itemEvents,itemMappings,plain_nil]
  | item::items => by
    rw [CleanItems,itemEvents,itemMappings,plain_append,clean_iff item,cleanItems_iff items,
      List.forall_mem_append]
    tauto
theorem cleanEntries_iff (seen : List String) : (entries : List (Node × Node)) →
    (CleanEntries seen entries ↔ Plain (entryEvents entries) ∧
      (∀ inner ∈ entryMappings entries, Keyed inner) ∧ Keyed entries ∧
      ∀ text ∈ entries.filterMap fun entry => entry.1.scalarText, text ∉ seen)
  | [] => by simp [CleanEntries,entryEvents,entryMappings,plain_nil,Keyed]
  | (.reference,value)::entries => by
    rw [CleanEntries,entryEvents,events,plain_append,plain_cons]
    · simp
    · simp
  | (.scalar text anchor tagged,value)::entries => by
    have hkeys : (∀ key ∈ entries.filterMap fun entry => entry.1.scalarText, key ∉ text::seen) ↔
        text ∉ (entries.filterMap fun entry => entry.1.scalarText) ∧
          ∀ key ∈ entries.filterMap fun entry => entry.1.scalarText, key ∉ seen := by
      simp only [List.mem_cons,not_or,forall_and]
      exact and_congr_left' ⟨fun h hmem => h text hmem rfl,fun h key hmem he => h (he ▸ hmem)⟩
    have hscalar : Plain [.scalar text anchor tagged] ↔ ¬ (anchor ≠ 0 ∨ tagged = true) := by
      simp [Plain,Marked]
    rw [CleanEntries,entryEvents,events,entryMappings,mappings,plain_append,plain_append,hscalar,
      clean_iff value,cleanEntries_iff (text::seen) entries,hkeys,← not_marked_iff,List.nil_append,
      List.forall_mem_append]
    simp only [Keyed,List.forall_mem_cons,List.filterMap_cons,scalarText,List.nodup_cons,
      isCollection]
    tauto
  | (.sequence anchor tagged items,value)::entries => by
    rw [CleanEntries]
    · simp [Keyed,isCollection]
    · simp
  | (.mapping anchor tagged inner,value)::entries => by
    rw [CleanEntries]
    · simp [Keyed,isCollection]
    · simp
end

theorem rejectEvents_filter (stack : List Context) (events : List YamlEvent) :
    rejectEvents stack (events.filter fun event => match event with
      | .other => false
      | _ => true) = rejectEvents stack events := by
  induction events generalizing stack with
  | nil => rfl
  | cons event events ih =>
    cases event with
    | other => exact ih stack
    | _ =>
      rw [List.filter_cons_of_pos (by rfl),rejectEvents,rejectEvents,List.foldlM_cons,List.foldlM_cons]
      exact congrArg _ (funext ih)

theorem rejectYamlIndirection_eq_ok :
    rejectYamlIndirection (events.map .ok) = .ok () ↔ ∃ stack, rejectEvents [] events = .ok stack := by
  have hfold : rejectYamlIndirection (events.map .ok) = rejectEvents [] events >>= fun _ => .ok () := by
    rw [rejectYamlIndirection,List.foldlM_map]
    rfl
  rw [hfold,except_bind_eq_ok]
  exact ⟨fun ⟨stack,h,_⟩ => ⟨stack,h⟩,fun ⟨stack,h⟩ => ⟨stack,h,rfl⟩⟩

theorem rejectEvents_nodes (nodes : List Node) (stack : List Context) :
    rejectEvents [] (nodes.flatMap Node.events) = .ok stack ↔
      (∀ node ∈ nodes, node.Clean) ∧ stack = [] := by
  induction nodes with
  | nil => exact ⟨fun h => ⟨by simp,(Except.ok.inj h).symm⟩,fun h => h.2 ▸ rfl⟩
  | cons node nodes ih =>
    rw [List.flatMap_cons,rejectEvents_append_eq_ok,List.forall_mem_cons]
    constructor
    · rintro ⟨_,hnode,h⟩
      obtain ⟨hclean,rfl⟩ := (rejectEvents_value [] (fun h => h) node _).1 hnode
      obtain ⟨hrest,rfl⟩ := ih.1 h
      exact ⟨⟨hclean,hrest⟩,rfl⟩
    · rintro ⟨⟨hclean,hrest⟩,rfl⟩
      exact ⟨[],(rejectEvents_value [] (fun h => h) node _).2 ⟨hclean,rfl⟩,ih.2 ⟨hrest,rfl⟩⟩

/-- The filter is exact on every properly nested stream of events. -/
theorem rejectYamlIndirection_exact {nodes : List Node} {events : List YamlEvent}
    (h : WellNested nodes events) :
    rejectYamlIndirection (events.map .ok) = .ok () ↔
      (∀ event ∈ events, event ≠ .alias) ∧ (∀ event ∈ events, ¬ Marked event) ∧
        (∀ node ∈ nodes, ∀ entries ∈ node.mappings, ∀ entry ∈ entries,
          entry.1.isCollection = false) ∧
        ∀ node ∈ nodes, ∀ entries ∈ node.mappings,
          (entries.filterMap fun entry => entry.1.scalarText).Nodup := by
  have hplain : Plain (nodes.flatMap Node.events) ↔ Plain events := by
    rw [← h]
    constructor
    · intro hfiltered event hevent
      cases event with
      | other => exact ⟨by simp,fun hmarked => hmarked⟩
      | _ => exact hfiltered _ (List.mem_filter.2 ⟨hevent,rfl⟩)
    · exact fun hall event hevent => hall event (List.mem_filter.1 hevent).1
  have hnodes : (∀ node ∈ nodes, node.Clean) ↔ Plain (nodes.flatMap Node.events) ∧
      ∀ node ∈ nodes, ∀ entries ∈ node.mappings, Keyed entries := by
    simp only [clean_iff,Plain,List.forall_mem_flatMap]
    exact ⟨fun hall => ⟨fun node hnode => (hall node hnode).1,fun node hnode => (hall node hnode).2⟩,
      fun hall node hnode => ⟨hall.1 node hnode,hall.2 node hnode⟩⟩
  have hstack : (∃ stack, rejectEvents [] events = .ok stack) ↔ ∀ node ∈ nodes, node.Clean := by
    rw [← rejectEvents_filter,h]
    simp only [rejectEvents_nodes]
    exact ⟨fun ⟨_,hclean,_⟩ => hclean,fun hclean => ⟨[],hclean,rfl⟩⟩
  rw [rejectYamlIndirection_eq_ok,hstack,hnodes,hplain]
  simp only [Plain,Keyed,forall_and,and_assoc]

def keyedNode (first second : String) : Node :=
  .sequence 0 false [.mapping 0 false
    [(.scalar first 0 false,.scalar "push" 0 false),(.scalar second 0 false,.sequence 0 false [])]]

theorem rejectYamlIndirection_exact_keyed :
    WellNested [keyedNode "on" "jobs"] (.other::((keyedNode "on" "jobs").events++[.other])) ∧
      rejectYamlIndirection ((.other::((keyedNode "on" "jobs").events++[.other])).map .ok) = .ok () ∧
      rejectYamlIndirection ((keyedNode "on" "on").events.map .ok) ≠ .ok () := by
  have hnested : WellNested [keyedNode "on" "jobs"]
      (.other::((keyedNode "on" "jobs").events++[.other])) := rfl
  have hrepeated : WellNested [keyedNode "on" "on"] (keyedNode "on" "on").events := rfl
  refine ⟨hnested,(rejectYamlIndirection_exact hnested).2 ⟨?_,?_,?_,?_⟩,fun h => ?_⟩
  · simp [keyedNode,events,itemEvents,entryEvents]
  · simp [keyedNode,events,itemEvents,entryEvents,Marked]
  · simp only [keyedNode,mappings,itemMappings,entryMappings,List.forall_mem_cons,List.append_nil,
      isCollection]
    simp
  · simp [keyedNode,mappings,itemMappings,entryMappings,scalarText]
  · have hkeys := ((rejectYamlIndirection_exact hrepeated).1 h).2.2.2
    simp [keyedNode,mappings,itemMappings,entryMappings,scalarText] at hkeys

end GithubActions
end CommitCiPreflight
