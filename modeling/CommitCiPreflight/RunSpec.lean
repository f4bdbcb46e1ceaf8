import CommitCiPreflight.ConfigOrder
import CommitCiPreflight.Run

/-! The check loop runs a check only after its dependencies have passed, and not once the
run was cancelled or the runtime failed. -/
namespace CommitCiPreflight

open Outcome

/-- The evidence names the check and the command that the plan declares. -/
structure CheckEvidence.Attests (evidence : CheckEvidence) (check : NormalizedCheck) : Prop where
  id : evidence.id = check.id
  required : evidence.required = check.required
  argv : evidence.argv = check.argv
  workingDirectory : evidence.workingDirectory = check.workingDirectory

/-- The check was not run, for a stated reason. -/
def CheckEvidence.NotRun (evidence : CheckEvidence) : Prop :=
  evidence.status = .notRun ∧ ∃ reason, evidence.incompleteReason = some reason ∧ reason ≠ ""

def Passed (evidence : List CheckEvidence) (id : String) : Prop :=
  ∃ e ∈ evidence, e.id = id ∧ e.status = .pass

theorem notRun_attests (check : NormalizedCheck) (reason : String) :
    (notRun check reason).Attests check :=
  ⟨rfl,rfl,rfl,rfl⟩

theorem evidenceFromResult_attests {crates : Crates} {check : NormalizedCheck}
    {result : ProcessResult} {evidence : CheckEvidence}
    (h : evidenceFromResult crates check result = .ok evidence) : evidence.Attests check := by
  simp only [evidenceFromResult,bind_eq_ok,exists_unit,pure_eq,ok.injEq] at h
  obtain ⟨-,rfl⟩ := h
  exact ⟨rfl,rfl,rfl,rfl⟩

section World

variable {ρ : Type} (world : RunWorld ρ)

/-- The call ended with a runtime error, or was cancelled by resource pressure. -/
def RunWorld.EndsRun (call : RuntimeCall) : Prop :=
  match call.response with
  | .error _ => True
  | .ok result => result.termination = .cancelled ∧
      (world.tokenAtEnd call.iteration).reason = some .resourcePressure

/-- Everything one iteration can do. -/
inductive Iterated (state : RunState) (declared : NormalizedCheck) : RunState → Prop
  | skipped {reason : String} {terminal : Option String} (stated : reason ≠ "")
      (terminal_ne : terminal ≠ some "") (keeps : terminal = none → state.terminalReason = none) :
      Iterated state declared
        ({state with terminalReason := terminal}.push declared (notRun declared reason))
  | called {response : Except RuntimeError ProcessResult} {evidence : CheckEvidence}
      {terminal : Option String}
      (start : (world.tokenAtStart state.checks.length).isCancelled = false)
      (unended : state.terminalReason = none)
      (ready : ∀ d ∈ declared.dependsOn, state.statuses.get? d = some .pass)
      (attests : evidence.Attests declared) (terminal_ne : terminal ≠ some "")
      (ends : world.EndsRun ⟨state.checks.length,declared,response⟩ → terminal ≠ none) :
      Iterated state declared (RunState.push
        {state with
          terminalReason := terminal
          calls := state.calls++[⟨state.checks.length,declared,response⟩]} declared evidence)

variable {world} {state : RunState} {declared : NormalizedCheck} {checks : List NormalizedCheck}
  {crates : Crates} {state' : RunState}

theorem cancellationReasonText_ne (token : CancellationToken) : cancellationReasonText token ≠ "" := by
  unfold cancellationReasonText
  split <;> decide

theorem recordResponse_eq_ok {n : ℕ} {response : Except RuntimeError ProcessResult}
    (hterminal : state.terminalReason ≠ some "")
    (h : recordResponse crates world n state declared response = .ok state') :
    ∃ evidence terminal, state' = {state with terminalReason := terminal}.push declared evidence ∧
      evidence.Attests declared ∧ terminal ≠ some "" ∧
      (world.EndsRun ⟨n,declared,response⟩ → terminal ≠ none) := by
  cases response with
  | ok result =>
    simp only [recordResponse] at h
    split_ifs at h with hpressure
    · rw [pure_eq,ok.injEq] at h
      exact ⟨_,_,h.symm,notRun_attests _ _,by decide,fun _ => by simp⟩
    · obtain ⟨evidence,hevidence,h⟩ := bind_eq_ok.1 h
      rw [pure_eq,ok.injEq] at h
      exact ⟨evidence,state.terminalReason,h.symm,evidenceFromResult_attests hevidence,hterminal,
        fun hends => absurd hends hpressure⟩
  | error error =>
    simp only [recordResponse] at h
    split_ifs at h with hfatal hpressure
    · rw [pure_eq,ok.injEq] at h
      exact ⟨_,_,h.symm,notRun_attests _ _,by decide,fun _ => by simp⟩
    · rw [pure_eq,ok.injEq] at h
      exact ⟨_,_,h.symm,notRun_attests _ _,by decide,fun _ => by simp⟩

theorem runIteration_iterated {item : NormalizedCheck × ρ}
    (hterminal : state.terminalReason ≠ some "")
    (h : runIteration crates world state item = .ok state') :
    Iterated world state item.1 state' := by
  obtain ⟨declared,rendered⟩ := item
  by_cases hcancelled : (world.tokenAtStart state.checks.length).isCancelled
  · simp only [runIteration,hcancelled,↓reduceIte,pure_eq,ok.injEq] at h
    exact h ▸ .skipped (cancellationReasonText_ne _) (by simp [cancellationReasonText_ne]) (by simp)
  cases hreason : state.terminalReason with
  | some reason =>
    rw [hreason] at hterminal
    simp only [runIteration,hcancelled,hreason,Bool.false_eq_true,↓reduceIte,pure_eq,ok.injEq] at h
    exact h ▸ .skipped (by simpa using hterminal) (by simpa [hreason] using hterminal) (by simp)
  | none =>
    by_cases hready : ∃ d ∈ declared.dependsOn, state.statuses.get? d ≠ some .pass
    · simp only [runIteration,hcancelled,hreason,hready,Bool.false_eq_true,↓reduceIte,pure_eq,
        ok.injEq] at h
      exact h ▸ .skipped (by decide) hterminal id
    · simp only [runIteration,hcancelled,hreason,hready,Bool.false_eq_true,↓reduceIte] at h
      obtain ⟨evidence,terminal,rfl,hattests,hne,hends⟩ := recordResponse_eq_ok (by simp) h
      push Not at hready
      exact .called (by simpa using hcancelled) hreason hready hattests hne hends

/-- Why the runtime was called, given the evidence and the calls of the run. -/
structure RuntimeCall.Justified (world : RunWorld ρ) (checks : List NormalizedCheck)
    (evidence : List CheckEvidence) (calls : List RuntimeCall) (call : RuntimeCall) : Prop where
  check : checks[call.iteration]? = some call.check
  token : (world.tokenAtStart call.iteration).isCancelled = false
  dependencies : ∀ d ∈ call.check.dependsOn, Passed (evidence.take call.iteration) d
  earlier : ∀ other ∈ calls, other.iteration < call.iteration → ¬ world.EndsRun other

theorem RuntimeCall.Justified.append {evidence : List CheckEvidence} {calls : List RuntimeCall}
    {call : RuntimeCall} (h : call.Justified world checks evidence calls)
    (hlength : evidence.length = checks.length) (check : NormalizedCheck) (e : CheckEvidence)
    (more : List RuntimeCall) (hmore : ∀ other ∈ more, other.iteration = checks.length) :
    call.Justified world (checks++[check]) (evidence++[e]) (calls++more) := by
  obtain ⟨hlt,-⟩ := List.getElem?_eq_some_iff.1 h.check
  refine ⟨?_,h.token,fun d hd => ?_,fun other hother hearlier => ?_⟩
  · rw [List.getElem?_append_left hlt,h.check]
  · rw [List.take_append_of_le_length (by omega)]
    exact h.dependencies d hd
  · rcases List.mem_append.1 hother with hother | hother
    · exact h.earlier other hother hearlier
    · exact absurd (hmore other hother) (by omega)

/-- What holds after the iterations over `checks`. -/
structure RunInvariant (world : RunWorld ρ) (checks : List NormalizedCheck) (state : RunState) :
    Prop where
  attests : List.Forall₂ CheckEvidence.Attests state.checks checks
  passed : ∀ id, state.statuses.get? id = some .pass → Passed state.checks id
  calls : ∀ call ∈ state.calls, call.Justified world checks state.checks state.calls
  unended : state.terminalReason = none → ∀ call ∈ state.calls, ¬ world.EndsRun call
  terminal_ne : state.terminalReason ≠ some ""
  skipped : ∀ (i : ℕ) (e : CheckEvidence), state.checks[i]? = some e →
    (∀ call ∈ state.calls, call.iteration ≠ i) → e.NotRun

theorem RunInvariant.initial (world : RunWorld ρ) : RunInvariant world [] .initial :=
  ⟨.nil,by simp [RunState.initial],by simp [RunState.initial],by simp [RunState.initial],
    by simp [RunState.initial],by simp [RunState.initial]⟩

theorem passed_append {evidence : List CheckEvidence} {id : String} (h : Passed evidence id)
    (e : CheckEvidence) : Passed (evidence++[e]) id := by
  obtain ⟨e',he',hid,hpass⟩ := h
  exact ⟨e',by simp [he'],hid,hpass⟩

theorem RunInvariant.passed_push (h : RunInvariant world checks state) {evidence : CheckEvidence}
    (hattests : evidence.Attests declared) (id : String)
    (hget : (state.statuses.insert declared.id evidence.status).get? id = some .pass) :
    Passed (state.checks++[evidence]) id := by
  rw [OrderedMap.get?_insert] at hget
  split_ifs at hget with hid
  · exact ⟨evidence,by simp,hattests.id.trans hid.symm,Option.some.inj hget⟩
  · exact passed_append (h.passed id hget) evidence

theorem getElem?_concat_eq_some {α : Type} {xs : List α} {x y : α} {i : ℕ}
    (h : (xs++[x])[i]? = some y) : xs[i]? = some y ∨ i = xs.length ∧ y = x := by
  rcases lt_trichotomy i xs.length with hi | rfl | hi
  · exact .inl (by rwa [List.getElem?_append_left hi] at h)
  · exact .inr ⟨rfl,by simpa [eq_comm] using h⟩
  · rw [List.getElem?_eq_none (by simp; omega)] at h
    cases h

/-- One iteration keeps the invariant. -/
theorem RunInvariant.step (h : RunInvariant world checks state)
    (hstep : Iterated world state declared state') :
    RunInvariant world (checks++[declared]) state' := by
  have hlength := h.attests.length_eq
  cases hstep with
  | @skipped reason _ hstated hterminal hkeeps =>
    have hattests := notRun_attests declared reason
    refine ⟨List.rel_append h.attests (.cons hattests .nil),h.passed_push hattests,?_,
      fun hnone => h.unended (hkeeps hnone),hterminal,?_⟩
    · intro call hcall
      simpa [RunState.push] using
        (h.calls call hcall).append hlength declared (notRun declared reason) [] (by simp)
    · intro i e he hcalls
      rcases getElem?_concat_eq_some he with he | ⟨-,rfl⟩
      · exact h.skipped i e he hcalls
      · exact ⟨rfl,reason,rfl,hstated⟩
  | @called response evidence _ hstart hunended hready hattests hterminal hends =>
    have hold : ∀ call ∈ state.calls, ¬ world.EndsRun call := h.unended hunended
    refine ⟨List.rel_append h.attests (.cons hattests .nil),h.passed_push hattests,?_,?_,
      hterminal,?_⟩
    · intro call hcall
      rcases List.mem_append.1 hcall with hcall | hcall
      · exact (h.calls call hcall).append hlength declared evidence _ (by simp [hlength])
      · obtain rfl := List.mem_singleton.1 hcall
        refine ⟨by simp [hlength],hstart,fun d hd => ?_,fun other hother hearlier => ?_⟩
        · simpa [RunState.push] using h.passed d (hready d hd)
        · rcases List.mem_append.1 hother with hother | hother
          · exact hold other hother
          · obtain rfl := List.mem_singleton.1 hother
            exact absurd hearlier (lt_irrefl _)
    · intro hnone call hcall
      rcases List.mem_append.1 hcall with hcall | hcall
      · exact hold call hcall
      · obtain rfl := List.mem_singleton.1 hcall
        exact fun hended => hends hended hnone
    · intro i e he hcalls
      rcases getElem?_concat_eq_some he with he | ⟨rfl,-⟩
      · exact h.skipped i e he fun call hcall => hcalls call (by simp [RunState.push,hcall])
      · exact absurd rfl (hcalls ⟨_,declared,response⟩ (by simp [RunState.push]))

/-- What every iteration keeps, with the checks done so far, holds of a whole run. -/
theorem runChecks_induction (Inv : List NormalizedCheck → RunState → Prop)
    (hinitial : Inv [] .initial)
    (hstep : ∀ checks s item s', Inv checks s → runIteration crates world s item = .ok s' →
      Inv (checks++[item.1]) s') {plan : ExecutionPlanV1} {rendered : List ρ}
    (h : runChecks crates world plan rendered = .ok state) : Inv plan.checks state := by
  simp only [runChecks,bind_eq_ok,exists_unit,ensure_eq_ok] at h
  obtain ⟨hlength,h⟩ := h
  have hnil : Inv (([] : List (NormalizedCheck × ρ)).map Prod.fst) .initial := hinitial
  have hrun := fold_invariant (fun seen s => Inv (seen.map Prod.fst) s)
    (fun seen s item s' hinv hitem => by
      rw [List.map_append]
      exact hstep _ s item s' hinv hitem) hnil h
  rwa [List.nil_append,List.map_fst_zip (by omega)] at hrun

theorem runChecks_invariant {plan : ExecutionPlanV1} {rendered : List ρ}
    (h : runChecks crates world plan rendered = .ok state) :
    RunInvariant world plan.checks state :=
  runChecks_induction _ (.initial world)
    (fun _ _ _ _ hinv hstep => hinv.step (runIteration_iterated hinv.terminal_ne hstep)) h

def PlanDependency (checks : List NormalizedCheck) (a b : String) : Prop :=
  ∃ check ∈ checks, check.id = a ∧ b ∈ check.dependsOn

/-- A check that passed was run, so its dependencies had passed. -/
theorem RunInvariant.passed_dependency (h : RunInvariant world checks state)
    (hids : (checks.map (·.id)).Nodup) {a b : String} (hpassed : Passed state.checks a)
    (hdepends : PlanDependency checks a b) : Passed state.checks b := by
  obtain ⟨e,he,rfl,hpass⟩ := hpassed
  obtain ⟨check,hcheck,hid,hb⟩ := hdepends
  obtain ⟨i,hi⟩ := List.mem_iff_getElem?.1 he
  have hcalled : ∃ call ∈ state.calls, call.iteration = i := by
    by_contra hnone
    push Not at hnone
    exact absurd ((h.skipped i e hi hnone).1.symm.trans hpass) (by decide)
  obtain ⟨call,hcall,rfl⟩ := hcalled
  have hjustified := h.calls call hcall
  obtain ⟨hlt,hget⟩ := List.getElem?_eq_some_iff.1 hi
  obtain ⟨hlt',hget'⟩ := List.getElem?_eq_some_iff.1 hjustified.check
  have hattests : e.Attests call.check := by
    rw [← hget,← hget']
    exact h.attests.get hlt hlt'
  obtain rfl : check = call.check := List.inj_on_of_nodup_map hids hcheck
    (List.mem_of_getElem? hjustified.check) (hid.trans hattests.id)
  obtain ⟨e',he',hid',hpass'⟩ := hjustified.dependencies b hb
  exact ⟨e',List.mem_of_mem_take he',hid',hpass'⟩

end World

/-- When the loop ends there is one entry per check, in the order of the plan. A check was
run only after its dependencies had passed, before the run was cancelled and before the
runtime failed, and the checks that were not run say why. -/
theorem runChecks_evidence {ρ : Type} (crates : Crates) (config : ConfigV1)
    (envelope : ExecutionPlanEnvelopeV1) (hplan : config.intoPlan crates = .ok envelope)
    (world : RunWorld ρ) (rendered : List ρ) (state : RunState)
    (hrun : runChecks crates world envelope.plan rendered = .ok state) :
    List.Forall₂ CheckEvidence.Attests state.checks envelope.plan.checks ∧
    (∀ call ∈ state.calls,
      call.Justified world envelope.plan.checks state.checks state.calls) ∧
    (∀ (i : ℕ) (e : CheckEvidence), state.checks[i]? = some e →
      (∀ call ∈ state.calls, call.iteration ≠ i) → e.NotRun) ∧
    ∀ a b, Relation.TransGen (PlanDependency envelope.plan.checks) a b →
      Passed state.checks a → Passed state.checks b := by
  have hinv := runChecks_invariant hrun
  have hids := (normalizeChecks_order (ConfigV1.intoPlan_eq_ok.1 hplan).checks).2.1
  refine ⟨hinv.attests,hinv.calls,hinv.skipped,fun a b hpath hpassed => ?_⟩
  induction hpath with
  | single hdepends => exact hinv.passed_dependency hids hpassed hdepends
  | tail _ hdepends ih => exact hinv.passed_dependency hids ih hdepends

def CapturedStream.sampleEmpty : CapturedStream :=
  ⟨[],0,"sha256:e3b0c44298fc1c149afbf4c8996fb92427ae41e4649b934ca495991b7852b855",false⟩

/-- Every check succeeds, and the user cancels while the first one runs. -/
def RunWorld.sample : RunWorld Unit where
  token := ⟨none⟩
  before _ := []
  during n := if n = 0 then [.user] else []
  executeCheck _ _ _ :=
    .ok ⟨.completed,.verified,some ⟨true,some 0⟩,.sampleEmpty,.sampleEmpty,1200⟩

theorem runChecks_evidence_sample :
    ∃ envelope state, ConfigV1.sampleAcyclic.intoPlan .reference = .ok envelope ∧
      runChecks .reference .sample envelope.plan [(),()] = .ok state ∧
      state.checks.map (fun e => (e.id,e.status)) = [("fmt",.pass),("test",.notRun)] ∧
      state.calls.map (·.iteration) = [0] ∧
      (∀ call ∈ state.calls,
        call.Justified .sample envelope.plan.checks state.checks state.calls) ∧
      ∀ e, state.checks[1]? = some e → e.NotRun := by
  have hcomputed : (ConfigV1.sampleAcyclic.intoPlan .reference).toOption.bind (fun envelope =>
      (runChecks .reference .sample envelope.plan [(),()]).toOption.map fun state =>
        (state.checks.map (fun e => (e.id,e.status)),state.calls.map (·.iteration))) =
      some ([("fmt",.pass),("test",.notRun)],[0]) := by decide +kernel
  obtain ⟨envelope,hplan,hcomputed⟩ := Option.bind_eq_some_iff.1 hcomputed
  obtain ⟨state,hrun,hresult⟩ := Option.map_eq_some_iff.1 hcomputed
  rw [toOption_eq_some] at hplan hrun
  obtain ⟨hchecks,hcalls⟩ := Prod.mk.inj hresult
  obtain ⟨-,hjustified,hskipped,-⟩ := runChecks_evidence .reference _ envelope hplan .sample _ state
    hrun
  refine ⟨envelope,state,hplan,hrun,hchecks,hcalls,hjustified,fun e he => ?_⟩
  refine hskipped 1 e he fun call hcall hone => ?_
  have hmem := List.mem_map_of_mem (f := (·.iteration)) hcall
  rw [hcalls,hone] at hmem
  exact absurd hmem (by decide)

end CommitCiPreflight
