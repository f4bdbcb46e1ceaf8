import CommitCiPreflight.Matrix
import CommitCiPreflight.MountPlan

/-! What an accepted matrix configuration becomes: the plan of every runtime, and the overlay the
runtimes share. -/
namespace CommitCiPreflight

open Outcome

theorem forall₂_trans {α β γ : Type} {R : α → β → Prop} {S : β → γ → Prop} {T : α → γ → Prop}
    {as : List α} {bs : List β} {cs : List γ} (hab : List.Forall₂ R as bs)
    (hbc : List.Forall₂ S bs cs) (h : ∀ a ∈ as, ∀ b ∈ bs, ∀ c, R a b → S b c → T a c) :
    List.Forall₂ T as cs := by
  induction hab generalizing cs with
  | nil =>
    obtain rfl := List.forall₂_nil_left_iff.1 hbc
    exact .nil
  | cons hfirst _ ih =>
    obtain ⟨c,rest,hc,hrest,rfl⟩ := List.forall₂_cons_left_iff.1 hbc
    refine .cons (h _ List.mem_cons_self _ List.mem_cons_self c hfirst hc) (ih hrest ?_)
    exact fun a ha b hb => h a (List.mem_cons_of_mem _ ha) b (List.mem_cons_of_mem _ hb)

theorem mapM_congr {ε α β : Type} {f g : α → Except ε β} {as as' : List α}
    (h : List.Forall₂ (fun a a' => g a' = f a) as as') : as'.mapM g = as.mapM f := by
  induction h with
  | nil => rfl
  | cons hfirst _ ih => rw [List.mapM_cons,List.mapM_cons,hfirst,ih]

section Build

variable {crates : Crates} {config : MatrixConfigV2} {profile : MatrixPlanProfile}
  {envelope : MatrixPlanEnvelopeV2}

def MatrixConfigV2.groupOf (config : MatrixConfigV2) (runtime : MatrixRuntimeConfigV2) : ConfigV1 :=
  config.group runtime
    ((config.checks.filter (·.runtimeId = runtime.id)).map MatrixCheckConfigV2.asV1)

def MatrixConfigV2.runtimesById (config : MatrixConfigV2) :
    OrderedMap String MatrixRuntimeConfigV2 :=
  .ofList (config.runtimes.map fun runtime => (runtime.id,runtime))

theorem collectRuntime_eq_ok (byId : OrderedMap String MatrixRuntimeConfigV2)
    (runtime : MatrixRuntimeConfigV2) (byId' : OrderedMap String MatrixRuntimeConfigV2) :
    collectRuntime byId runtime = .ok byId' ↔
      validateIdentifier "runtimes.id" runtime.id = .ok () ∧ byId.get? runtime.id = none ∧
        byId' = byId.insert runtime.id runtime := by
  simp only [collectRuntime,bind_eq_ok,exists_unit,mapErr_eq_ok,ensure_eq_ok,pure_eq,ok.injEq,
    @eq_comm _ _ byId']

theorem collectRuntimes_ok {byId : OrderedMap String MatrixRuntimeConfigV2}
    (h : fold collectRuntime .empty config.runtimes = .ok byId) :
    (config.runtimes.map (·.id)).Nodup ∧ byId = config.runtimesById := by
  have hfree : ∀ (byId : OrderedMap String MatrixRuntimeConfigV2)
      (runtime other : MatrixRuntimeConfigV2),
      (byId.insert runtime.id runtime).get? other.id = none ↔
        ¬ other.id = runtime.id ∧ byId.get? other.id = none := by
    intro byId runtime other
    rw [OrderedMap.get?_insert]
    by_cases h : other.id = runtime.id <;> simp [h]
  rw [fold_eq_ok_iff collectRuntime_eq_ok hfree,pairwise_ne_of_clash] at h
  obtain ⟨-,hnodup,rfl⟩ := h
  rw [MatrixConfigV2.runtimesById,OrderedMap.ofList,List.foldl_map]
  exact ⟨hnodup,rfl⟩

/-- The checks that are assigned to a runtime are those that name it, and every check names a
runtime. -/
structure Assigned (runtimeById : OrderedMap String MatrixRuntimeConfigV2)
    (seen : List MatrixCheckConfigV2)
    (state : OrderedMap String String × OrderedMap String (List CheckConfig)) : Prop where
  known : ∀ check ∈ seen, (runtimeById.get? check.runtimeId).isSome
  checks : ∀ id, (state.2.get? id).getD [] =
    (seen.filter (·.runtimeId = id)).map MatrixCheckConfigV2.asV1

theorem assigned_of_fold {runtimeById : OrderedMap String MatrixRuntimeConfigV2}
    {state : OrderedMap String String × OrderedMap String (List CheckConfig)}
    (h : fold (assignCheck runtimeById) (.empty,.empty) config.checks = .ok state) :
    Assigned runtimeById config.checks state := by
  have hstart : Assigned runtimeById [] (.empty,.empty) := ⟨by simp,by simp⟩
  refine fold_invariant (Assigned runtimeById) ?_ hstart h
  rintro seen ⟨checkRuntime,checksByRuntime⟩ check state' hseen hstep
  simp only [assignCheck,bind_eq_ok,exists_unit,ensure_eq_ok,pure_eq,ok.injEq] at hstep
  obtain ⟨-,hruntime,-,rfl⟩ := hstep
  refine ⟨?_,fun id => ?_⟩
  · exact List.forall_mem_append.2 ⟨hseen.known,by simpa using hruntime⟩
  · simp only [OrderedMap.get?_insert,List.filter_append,List.map_append,← hseen.checks id]
    by_cases hid : id = check.runtimeId
    · simp [hid]
    · simp [hid,Ne.symm hid]

theorem runtimesById_ids : ∀ entry ∈ config.runtimesById.entries, entry.1 = entry.2.id := by
  intro entry hentry
  obtain ⟨runtime,-,rfl⟩ := List.mem_map.1 (OrderedMap.mem_of_mem_ofList hentry)
  rfl

theorem runtimesById_perm (h : (config.runtimes.map (·.id)).Nodup) :
    (config.runtimesById.entries.map Prod.snd).Perm config.runtimes := by
  have hperm : config.runtimesById.entries.Perm (config.runtimes.map fun runtime =>
      (runtime.id,runtime)) := by
    refine OrderedMap.entries_ofList_perm ?_
    rw [List.map_map]
    exact h
  have hvalues := hperm.map Prod.snd
  rwa [List.map_map,show Prod.snd ∘ (fun runtime : MatrixRuntimeConfigV2 => (runtime.id,runtime)) =
    id from rfl,List.map_id] at hvalues

def runtimeEntry (group : String × ExecutionPlanEnvelopeV1) : MatrixRuntimePlanV2 :=
  ⟨group.1,group.2.planDigest,group.2.plan.runtime,group.2.plan.checks⟩

def sharedOf (group : String × ExecutionPlanEnvelopeV1) : SharedPlan :=
  (group.2.plan.receipt,group.2.plan.environment,group.2.plan.caches)

/-- The loop over the runtimes makes an accepted plan of every group, and keeps what the first
shares. -/
theorem planRuntimes_ok {checksByRuntime : OrderedMap String (List CheckConfig)}
    {entries : List (String × MatrixRuntimeConfigV2)}
    {state state' : List MatrixRuntimePlanV2 × Option SharedPlan}
    (hchecks : ∀ id, (checksByRuntime.get? id).getD [] =
      (config.checks.filter (·.runtimeId = id)).map MatrixCheckConfigV2.asV1)
    (hids : ∀ entry ∈ entries, entry.1 = entry.2.id)
    (h : fold (planRuntime crates config checksByRuntime) state entries = .ok state') :
    ∃ groups : List (String × ExecutionPlanEnvelopeV1),
      List.Forall₂ (fun entry group => group.1 = entry.1 ∧
        (config.groupOf entry.2).intoPlan crates = .ok group.2) entries groups ∧
      state' = (state.1++groups.map runtimeEntry,state.2.or (groups.head?.map sharedOf)) := by
  induction entries generalizing state with
  | nil =>
    rw [fold_nil,ok.injEq] at h
    subst h
    exact ⟨[],.nil,by simp⟩
  | cons entry entries ih =>
    obtain ⟨hid,hids⟩ := List.forall_mem_cons.1 hids
    obtain ⟨next,hstep,hrest⟩ := bind_eq_ok.1 h
    simp only [planRuntime,bind_eq_ok,exists_unit,ensure_eq_ok,mapErr_eq_ok,pure_eq,ok.injEq,
      hchecks,hid] at hstep
    obtain ⟨-,group,hgroup,rfl⟩ := hstep
    obtain ⟨groups,hgroups,rfl⟩ := ih hids hrest
    refine ⟨(entry.1,group)::groups,.cons ⟨rfl,hgroup⟩ hgroups,?_⟩
    cases state.2 <;> simp [runtimeEntry,sharedOf,hid]

/-- An accepted matrix configuration: every group is an accepted configuration of its own. -/
structure MatrixConfigV2.Accepted (crates : Crates) (config : MatrixConfigV2)
    (groups : List (String × ExecutionPlanEnvelopeV1)) (plan : MatrixPlanV2) : Prop where
  ids : (config.runtimes.map (·.id)).Nodup
  several : 2 ≤ config.runtimes.length
  known : ∀ check ∈ config.checks, (config.runtimesById.get? check.runtimeId).isSome
  accepts : List.Forall₂ (fun entry group => group.1 = entry.1 ∧
    (config.groupOf entry.2).intoPlan crates = .ok group.2) config.runtimesById.entries groups
  runtimes : plan.runtimes = groups.map runtimeEntry
  project : plan.project = config.project
  shared : groups.head?.map sharedOf = some (plan.receipt,plan.environment,plan.caches)

theorem exists_accepted (h : config.buildPlanWithProfile crates profile = .ok envelope) :
    ∃ groups plan, config.Accepted crates groups plan ∧
      ∀ profile, config.buildPlanWithProfile crates profile =
        ofExcept (bindProfile crates profile plan) := by
  simp only [MatrixConfigV2.buildPlanWithProfile,bind_eq_ok,exists_unit,ensure_eq_ok] at h
  obtain ⟨hversion,hcount,byId,hbyId,⟨checkRuntime,checksByRuntime⟩,hassign,hcross,
    ⟨runtimes,shared⟩,hplans,⟨receipt,environment,caches⟩,hexpect,-⟩ := h
  have hbind : ∀ profile, config.buildPlanWithProfile crates profile =
      ofExcept (bindProfile crates profile
        ⟨matrixConfigSchemaVersion,config.project,receipt,environment,caches,runtimes⟩) := by
    intro profile
    rw [MatrixConfigV2.buildPlanWithProfile,(ensure_eq_ok (u := ())).2 hversion,ok_bind,
      (ensure_eq_ok (u := ())).2 hcount,ok_bind,hbyId,ok_bind,hassign,ok_bind]
    dsimp only
    rw [hcross,ok_bind,hplans,ok_bind]
    dsimp only
    rw [hexpect,ok_bind]
  obtain ⟨hids,rfl⟩ := collectRuntimes_ok hbyId
  obtain ⟨hknown,hchecks⟩ := assigned_of_fold hassign
  obtain ⟨groups,hgroups,hstate⟩ := planRuntimes_ok hchecks runtimesById_ids hplans
  obtain ⟨rfl,rfl⟩ := Prod.mk.inj hstate
  have hshared : groups.head?.map sharedOf = some (receipt,environment,caches) := by
    cases hhead : groups.head? with
    | none => simp [hhead,expect] at hexpect
    | some group => simpa [hhead] using hexpect
  exact ⟨groups,_,⟨hids,hcount.1,hknown,hgroups,by simp,rfl,hshared⟩,hbind⟩

theorem buildPlanWithProfile_ok (h : config.buildPlanWithProfile crates profile = .ok envelope) :
    ∃ groups plan, config.Accepted crates groups plan ∧
      bindProfile crates profile plan = .ok envelope := by
  obtain ⟨groups,plan,haccepted,hbind⟩ := exists_accepted h
  exact ⟨groups,plan,haccepted,ofExcept_eq_ok.1 ((hbind profile).symm.trans h)⟩

theorem sharedOf_eq {runtime other : MatrixRuntimeConfigV2}
    {group group' : String × ExecutionPlanEnvelopeV1}
    (h : (config.groupOf runtime).intoPlan crates = .ok group.2)
    (h' : (config.groupOf other).intoPlan crates = .ok group'.2) :
    sharedOf group = sharedOf group' := by
  have haccepted := ConfigV1.intoPlan_eq_ok.1 h
  have haccepted' := ConfigV1.intoPlan_eq_ok.1 h'
  have hcaches : group.2.plan.caches = group'.2.plan.caches :=
    ok.inj (haccepted.caches.symm.trans haccepted'.caches)
  have henvironment : group.2.plan.environment = group'.2.plan.environment := by
    have hsame := haccepted.environment
    rw [hcaches] at hsame
    exact ok.inj (hsame.symm.trans haccepted'.environment)
  rw [sharedOf,sharedOf,hcaches,henvironment,haccepted.receipt,haccepted'.receipt]
  rfl

namespace MatrixConfigV2.Accepted

variable {groups : List (String × ExecutionPlanEnvelopeV1)} {plan : MatrixPlanV2}

variable (h : config.Accepted crates groups plan)
include h

theorem exists_runtime :
    ∀ group ∈ groups, ∃ runtime, (group.1,runtime) ∈ config.runtimesById.entries ∧
      (config.groupOf runtime).intoPlan crates = .ok group.2 := by
  intro group hgroup
  obtain ⟨entry,hentry,hid,haccepted⟩ := exists_of_forall₂ h.accepts hgroup
  exact ⟨entry.2,hid ▸ hentry,haccepted⟩

theorem groups_ids :
    groups.map (·.1) = config.runtimesById.keys := by
  have hids : List.Forall₂ (fun entry group => group.1 = entry.1) config.runtimesById.entries
      groups := h.accepts.imp fun _ _ => And.left
  clear h
  rw [OrderedMap.keys]
  generalize config.runtimesById.entries = entries at hids ⊢
  induction hids with
  | nil => rfl
  | cons hid _ ih => rw [List.map_cons,List.map_cons,hid,ih]

theorem sharedOf_group :
    ∀ group ∈ groups, sharedOf group = (plan.receipt,plan.environment,plan.caches) := by
  intro group hgroup
  obtain ⟨first,hfirst,hshared⟩ := Option.map_eq_some_iff.1 h.shared
  obtain ⟨runtime,-,hruntime⟩ := h.exists_runtime group hgroup
  obtain ⟨runtime',-,hruntime'⟩ := h.exists_runtime first (List.mem_of_mem_head? hfirst)
  exact (sharedOf_eq hruntime hruntime').trans hshared

theorem plan_eq {group : String × ExecutionPlanEnvelopeV1} (hgroup : group ∈ groups) :
    group.2.plan = {
        schemaVersion := "1.0"
        project := plan.project
        runtime := group.2.plan.runtime
        receipt := plan.receipt
        environment := plan.environment
        caches := plan.caches
        storage := none
        checks := group.2.plan.checks } ∧
      group.2.planDigest = group.2.plan.digest crates ∧ group.2.fixedEnvironment = .empty := by
  obtain ⟨runtime,-,hruntime⟩ := h.exists_runtime group hgroup
  have haccepted := ConfigV1.intoPlan_eq_ok.1 hruntime
  have hstorage : group.2.plan.storage = none := by
    have hnormalized := haccepted.storage
    exact (ok.inj hnormalized).symm
  obtain ⟨hreceipt,hrest⟩ := Prod.mk.inj (h.sharedOf_group group hgroup)
  obtain ⟨henvironment,hcaches⟩ := Prod.mk.inj hrest
  refine ⟨?_,haccepted.digest,haccepted.fixed⟩
  rw [← hreceipt,← henvironment,← hcaches,h.project,← hstorage]
  have hversion := haccepted.schemaVersion
  have hproject := haccepted.project
  rw [show (config.groupOf runtime).schemaVersion = "1.0" from rfl] at hversion
  rw [show (config.groupOf runtime).project = config.project from rfl] at hproject
  rw [← hversion,← hproject]

end MatrixConfigV2.Accepted

/-- Two runtime plans that differ at most in their digests. -/
def SameRuntime (runtime other : MatrixRuntimePlanV2) : Prop :=
  other = {runtime with configurationDigest := other.configurationDigest}

theorem projectLegacyBasis_congr {plan : MatrixPlanV2} {runtimes : List MatrixRuntimePlanV2}
    (h : List.Forall₂ SameRuntime plan.runtimes runtimes) :
    projectLegacyBasis crates {plan with runtimes} = projectLegacyBasis crates plan := by
  have hmap : ∀ environmentAllow,
      runtimes.mapM (projectLegacyRuntime crates {plan with runtimes} environmentAllow) =
        plan.runtimes.mapM (projectLegacyRuntime crates plan environmentAllow) := by
    refine fun environmentAllow => mapM_congr (h.imp fun runtime other hsame => ?_)
    rw [hsame]
    rfl
  simp only [projectLegacyBasis,hmap]

/-- A plan under its profile: only the digests of the runtimes depend on the profile, and all of
them are known. -/
structure Bound (crates : Crates) (profile : MatrixPlanProfile) (plan : MatrixPlanV2)
    (envelope : MatrixPlanEnvelopeV2) : Prop where
  valid : envelope.validateProfileBinding crates = .ok ()
  profiled : envelope.profile = profile
  same : List.Forall₂ SameRuntime plan.runtimes envelope.plan.runtimes
  planned : envelope.plan = {plan with runtimes := envelope.plan.runtimes}
  current : profile = .currentV2 → envelope.plan.runtimes = plan.runtimes
  legacy : profile = .legacyV1 → ∃ basis, envelope.legacyBasis = some basis ∧
    ∀ runtime ∈ envelope.plan.runtimes, ∃ digest, basis.runtimeDigest runtime.id = .ok digest

theorem bound_of_bindProfile {plan : MatrixPlanV2}
    (h : bindProfile crates profile plan = .ok envelope) :
    Bound crates profile plan envelope := by
  cases profile with
  | currentV2 =>
    obtain rfl := Except.ok.inj h
    exact ⟨if_neg (by simp),rfl,List.forall₂_same.2 fun runtime _ => rfl,rfl,fun _ => rfl,nofun⟩
  | legacyV1 =>
    obtain ⟨basis,hbasis,h⟩ := except_bind_eq_ok.1 h
    obtain ⟨runtimes,hruntimes,h⟩ := except_bind_eq_ok.1 h
    obtain rfl := Except.ok.inj h
    rw [mapM_eq_ok_iff_forall₂] at hruntimes
    have hdigests : List.Forall₂ (fun runtime other => SameRuntime runtime other ∧
        basis.runtimeDigest other.id = .ok other.configurationDigest) plan.runtimes runtimes := by
      refine hruntimes.imp fun runtime other hother => ?_
      obtain ⟨digest,hdigest,hother⟩ := except_bind_eq_ok.1 hother
      obtain rfl := Except.ok.inj hother
      exact ⟨rfl,hdigest⟩
    have hdigest : ∀ runtime ∈ runtimes,
        basis.runtimeDigest runtime.id = .ok runtime.configurationDigest := by
      intro runtime hruntime
      obtain ⟨-,-,-,hdigest⟩ := exists_of_forall₂ hdigests hruntime
      exact hdigest
    have hsame := hdigests.imp fun _ _ => And.left
    refine ⟨?_,rfl,hsame,rfl,nofun,fun _ => ⟨basis,rfl,fun runtime h => ⟨_,hdigest runtime h⟩⟩⟩
    have hprojected : projectLegacyBasis crates {plan with runtimes} = .ok basis :=
      (projectLegacyBasis_congr hsame).trans hbasis
    simp only [MatrixPlanEnvelopeV2.validateProfileBinding,hprojected,except_ok_bind]
    rw [if_neg (by simp)]
    refine forM_eq_ok_iff.2 fun runtime hruntime => ?_
    rw [hdigest runtime hruntime,except_ok_bind,if_neg (by simp)]
    rfl

section Envelopes

variable {groups : List (String × ExecutionPlanEnvelopeV1)} {plan : MatrixPlanV2}

theorem Bound.runtimePlan_eq (h : Bound crates profile plan envelope)
    (haccepted : config.Accepted crates groups plan) {group : String × ExecutionPlanEnvelopeV1}
    {runtime : MatrixRuntimePlanV2} (hgroup : group ∈ groups)
    (hsame : SameRuntime (runtimeEntry group) runtime) :
    envelope.runtimePlan runtime = group.2.plan := by
  rw [(haccepted.plan_eq hgroup).1,MatrixPlanEnvelopeV2.runtimePlan,h.planned,hsame]
  rfl

theorem runtimeDigest_current {runtime : MatrixRuntimePlanV2} {digest : String}
    (hprofile : envelope.profile = .currentV2)
    (h : envelope.runtimeDigest crates runtime = .ok digest) :
    digest = (envelope.runtimePlan runtime).digest crates := by
  simp only [MatrixPlanEnvelopeV2.runtimeDigest,hprofile] at h
  split at h
  · contradiction
  · exact (Except.ok.inj h).symm

/-- Every runtime has the plan of its group, and in the current profile its digest. -/
theorem runtimeEnvelopes_ok (haccepted : config.Accepted crates groups plan)
    (h : Bound crates profile plan envelope) :
    ∃ runtimes, envelope.runtimeEnvelopes crates = .ok runtimes ∧
      List.Forall₂ (fun group runtime => runtime.1 = group.1 ∧ runtime.2.plan = group.2.plan ∧
        runtime.2.fixedEnvironment = .empty ∧
        (profile = .currentV2 → runtime.2.planDigest = group.2.planDigest)) groups runtimes := by
  have hsame : List.Forall₂ (fun group runtime => SameRuntime (runtimeEntry group) runtime) groups
      envelope.plan.runtimes := by
    rw [← List.forall₂_map_left_iff,← haccepted.runtimes]
    exact h.same
  have hdigests : ∀ runtime ∈ envelope.plan.runtimes,
      ∃ digest, envelope.runtimeDigest crates runtime = .ok digest := by
    intro runtime hruntime
    unfold MatrixPlanEnvelopeV2.runtimeDigest
    cases hprofile : envelope.profile with
    | currentV2 =>
      rw [h.current (h.profiled.symm.trans hprofile),haccepted.runtimes] at hruntime
      obtain ⟨group,hgroup,rfl⟩ := List.mem_map.1 hruntime
      have hdigest : ((envelope.runtimePlan (runtimeEntry group)).digest crates) =
          (runtimeEntry group).configurationDigest := by
        have hself : SameRuntime (runtimeEntry group) (runtimeEntry group) := rfl
        rw [h.runtimePlan_eq haccepted hgroup hself]
        exact (haccepted.plan_eq hgroup).2.1.symm
      exact ⟨_,if_neg (not_not.2 hdigest)⟩
    | legacyV1 =>
      obtain ⟨basis,hbasis,hknown⟩ := h.legacy (h.profiled.symm.trans hprofile)
      obtain ⟨digest,hdigest⟩ := hknown runtime hruntime
      refine ⟨digest,?_⟩
      simp only [MatrixPlanEnvelopeV2.runtimeConfigurationDigest,h.valid,except_ok_bind,hprofile,
        hbasis,hdigest]
  obtain ⟨runtimes,hruntimes⟩ : ∃ runtimes, (envelope.plan.runtimes.mapM fun runtime => do
      let planDigest ← envelope.runtimeDigest crates runtime
      return (runtime.id,(⟨planDigest,envelope.runtimePlan runtime,.empty⟩ :
        ExecutionPlanEnvelopeV1))) = .ok runtimes := by
    refine mapM_eq_ok.2 fun runtime hruntime => ?_
    obtain ⟨digest,hdigest⟩ := hdigests runtime hruntime
    exact ⟨_,except_bind_eq_ok.2 ⟨digest,hdigest,rfl⟩⟩
  refine ⟨runtimes,?_,forall₂_trans hsame (mapM_eq_ok_iff_forall₂.1 hruntimes) ?_⟩
  · rw [MatrixPlanEnvelopeV2.runtimeEnvelopes,h.valid]
    exact hruntimes
  · intro group hgroup runtime _ result hsame hresult
    obtain ⟨digest,hdigest,hresult⟩ := except_bind_eq_ok.1 hresult
    obtain rfl := Except.ok.inj hresult
    have hplan := h.runtimePlan_eq haccepted hgroup hsame
    refine ⟨congrArg MatrixRuntimePlanV2.id hsame,hplan,rfl,fun hcurrent => ?_⟩
    rw [(haccepted.plan_eq hgroup).2.1,← hplan]
    exact runtimeDigest_current (h.profiled.trans hcurrent) hdigest

theorem foldlM_joinChecks {overlay : ExecutionPlanEnvelopeV1}
    {runtimes : List (String × ExecutionPlanEnvelopeV1)}
    (h : ∀ runtime ∈ runtimes, runtime.2.plan.caches = overlay.plan.caches ∧
      runtime.2.plan.environment = overlay.plan.environment ∧
      runtime.2.plan.storage = overlay.plan.storage ∧
      runtime.2.fixedEnvironment = overlay.fixedEnvironment) :
    runtimes.foldlM joinChecks overlay = .ok {overlay with plan := {overlay.plan with
      checks := overlay.plan.checks++runtimes.flatMap (·.2.plan.checks)}} := by
  induction runtimes generalizing overlay with
  | nil => simp [List.foldlM,pure,Except.pure]
  | cons runtime runtimes ih =>
    obtain ⟨⟨hcaches,henvironment,hstorage,hfixed⟩,hrest⟩ := List.forall_mem_cons.1 h
    have hjoin : joinChecks overlay runtime = .ok {overlay with plan := {overlay.plan with
        checks := overlay.plan.checks++runtime.2.plan.checks}} :=
      if_neg (by simp [hcaches,henvironment,hstorage,hfixed])
    rw [List.foldlM_cons,hjoin,except_ok_bind]
    refine (ih ?_).trans ?_
    · exact hrest
    · simp

variable (haccepted : config.Accepted crates groups plan)
include haccepted

/-- The plan of the overlay has the shared caches, and the checks of all groups in the order of
the runtimes. -/
theorem overlayEnvelope_ok (h : Bound crates profile plan envelope) :
    ∃ combined, envelope.overlayEnvelope crates = .ok combined ∧
      combined.plan.caches = plan.caches ∧
      combined.plan.checks = groups.flatMap (·.2.plan.checks) := by
  obtain ⟨runtimes,hruntimes,hgroups⟩ := runtimeEnvelopes_ok haccepted h
  have hshared : ∀ runtime ∈ runtimes, runtime.2.plan.caches = plan.caches ∧
      runtime.2.plan.environment = plan.environment ∧ runtime.2.plan.storage = none ∧
      runtime.2.fixedEnvironment = .empty := by
    intro runtime hruntime
    obtain ⟨group,hgroup,-,hplan,hfixed,-⟩ := exists_of_forall₂ hgroups hruntime
    rw [hplan,(haccepted.plan_eq hgroup).1]
    exact ⟨rfl,rfl,rfl,hfixed⟩
  have hchecks : runtimes.flatMap (·.2.plan.checks) = groups.flatMap (·.2.plan.checks) := by
    clear hruntimes hshared haccepted
    induction hgroups with
    | nil => rfl
    | cons hfirst _ ih => rw [List.flatMap_cons,List.flatMap_cons,hfirst.2.1,ih]
  obtain ⟨first,hfirst⟩ : ∃ first, runtimes.head? = some first := by
    cases hgroups with
    | nil => simpa using haccepted.shared
    | cons => exact ⟨_,rfl⟩
  obtain ⟨hcaches,henvironment,hstorage,hfixed⟩ := hshared first (List.mem_of_mem_head? hfirst)
  have hjoined : runtimes.foldlM joinChecks {first.2 with plan := {first.2.plan with checks := []}} =
      _ := foldlM_joinChecks fun runtime hruntime => by
    rw [hcaches,henvironment,hstorage,hfixed]
    exact hshared runtime hruntime
  have hoverlay : envelope.overlayEnvelope crates =
      runtimes.foldlM joinChecks {first.2 with plan := {first.2.plan with checks := []}} := by
    simp only [MatrixPlanEnvelopeV2.overlayEnvelope,h.valid,hruntimes,except_ok_bind,hfirst]
  exact ⟨_,hoverlay.trans hjoined,hcaches,by simp [hchecks]⟩

theorem artifactContracts_of_matrix :
    ∀ group ∈ groups, ∀ check ∈ group.2.plan.checks, check.artifactContracts = [] := by
  intro group hgroup check hcheck
  obtain ⟨runtime,-,hruntime⟩ := haccepted.exists_runtime group hgroup
  have hperm := (normalizeChecks_order (ConfigV1.intoPlan_eq_ok.1 hruntime).checks).1
  obtain ⟨declared,hdeclared,rfl⟩ := List.mem_map.1 (hperm.mem_iff.1 hcheck)
  obtain ⟨matrixCheck,-,rfl⟩ := List.mem_map.1 hdeclared
  rfl

theorem artifactKind_of_matrix :
    ∀ group ∈ groups, ∀ check ∈ group.2.plan.checks, ∀ path,
      artifactKindFor check path = .regularFile := by
  intro group hgroup check hcheck path
  rw [artifactKindFor,artifactContracts_of_matrix haccepted group hgroup check hcheck]
  rfl

theorem mem_groupArtifacts
    {group : String × ExecutionPlanEnvelopeV1} (hgroup : group ∈ groups) {path : String} :
    path ∈ group.2.plan.checks.flatMap (·.artifacts) ↔
      ∃ check ∈ config.checks, check.runtimeId = group.1 ∧ path ∈ check.artifacts := by
  obtain ⟨runtime,hentry,hruntime⟩ := haccepted.exists_runtime group hgroup
  have hid : group.1 = runtime.id := runtimesById_ids _ hentry
  rw [(artifacts_perm (ConfigV1.intoPlan_eq_ok.1 hruntime).checks).mem_iff]
  simp [MatrixConfigV2.groupOf,MatrixConfigV2.group,MatrixCheckConfigV2.asV1,hid,and_assoc]

theorem exists_group {check : MatrixCheckConfigV2} (hcheck : check ∈ config.checks) :
    ∃ group ∈ groups, group.1 = check.runtimeId := by
  obtain ⟨runtime,hruntime⟩ := Option.isSome_iff_exists.1 (haccepted.known check hcheck)
  obtain ⟨group,hgroup,hid,-⟩ :=
    exists_of_forall₂ haccepted.accepts.flip (OrderedMap.mem_entries.2 hruntime)
  exact ⟨group,hgroup,hid⟩

end Envelopes

end Build

end CommitCiPreflight
