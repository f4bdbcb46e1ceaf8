import CommitCiPreflight.Supervisor

/-! How a supervised child ends: which exits of `execute` seal its descendants, and what a result
says about them. -/
namespace CommitCiPreflight

open Program

abbrev SupervisorEvent := Event SupervisorCall SupervisorCall.Result

def Seals : SupervisorEvent → Prop
  | ⟨.sealDescendants _,_⟩ => True
  | _ => False

def AsksToStop : SupervisorEvent → Prop
  | ⟨.requestGracefulStop,_⟩ => True
  | _ => False

def WaitFails : SupervisorEvent → Prop
  | ⟨.tryWait,.error _⟩ => True
  | _ => False

/-- A cancellation, a stale generation or the expiry of the execution budget is seen. -/
def ObservesStop (deadline : ProcessDeadline) : SupervisorEvent → Prop
  | ⟨.isCancelled,answer⟩ => answer = true
  | ⟨.ensureCurrent,.error _⟩ => True
  | ⟨.now,now⟩ => deadline.executionBudget ≤ now-deadline.started
  | _ => False

/-- The one call of `seal_descendants` succeeds, and the output is collected after it. -/
def Collected (trace : List SupervisorEvent) (result : ProcessResult) : Prop :=
  ∃ before between after deadline deadline', trace = before++⟨.sealDescendants deadline,.ok ()⟩::
      between++⟨.collectOutput deadline',.ok (result.stdout,result.stderr)⟩::after ∧
    ∀ event ∈ before++between++after, ¬ Seals event

section Runs

variable {α : Type} {trace : List SupervisorEvent} {outcome : Except Ending α}
  {deadline : ProcessDeadline}

theorem runs_executionExpired {k : Bool → Supervised α} :
    Runs (deadline.executionExpired >>= k).run trace outcome ↔
      ∃ (now : ℕ) (rest : List SupervisorEvent), trace = ⟨.now,now⟩::rest ∧
        Runs (k (decide (deadline.executionBudget ≤ now-deadline.started))).run rest outcome :=
  runs_call

theorem runs_sealDescendants {stage : String} {k : Unit → Supervised α}
    (h : Runs (sealDescendants deadline stage >>= k).run trace outcome) :
    ∃ (now remaining : ℕ) (response : Except IoErrorKind Unit) (rest : List SupervisorEvent),
      trace = ⟨.now,now⟩::⟨.sealDescendants remaining,response⟩::rest ∧
      ((response ≠ .ok () ∧ rest = [] ∧ outcome = .error (.failed (.cleanupUncertain stage))) ∨
        response = .ok () ∧ Runs (k ()).run rest outcome) := by
  obtain ⟨now,rest,rfl,hseal⟩ := runs_call.1 h
  obtain ⟨response,rest,rfl,hrest⟩ := runs_call.1 hseal
  refine ⟨now,_,response,rest,rfl,?_⟩
  cases response with
  | error e =>
    obtain ⟨rfl,rfl⟩ := runs_done.1 hrest
    exact Or.inl ⟨by simp,rfl,rfl⟩
  | ok u => exact Or.inr ⟨rfl,hrest⟩

theorem runs_sealAndCollect {stage : String} {k : CapturedStream × CapturedStream → Supervised α}
    (h : Runs (sealAndCollect deadline stage >>= k).run trace outcome) :
    ∃ (now remaining : ℕ) (response : Except IoErrorKind Unit) (rest : List SupervisorEvent),
      trace = ⟨.now,now⟩::⟨.sealDescendants remaining,response⟩::rest ∧
      (rest = [] ∧ outcome = .error (.failed (.cleanupUncertain stage)) ∨
        ∃ (now' remaining' : ℕ)
          (collected : Except IoErrorKind (CapturedStream × CapturedStream))
          (last : List SupervisorEvent),
          rest = ⟨.now,now'⟩::⟨.collectOutput remaining',collected⟩::last ∧
          (last = [] ∧ outcome = .error (.failed .output) ∨
            response = .ok () ∧ ∃ streams, collected = .ok streams ∧
              Runs (k streams).run last outcome)) := by
  obtain ⟨now,rest,rfl,hseal⟩ := runs_call.1 h
  obtain ⟨response,rest,rfl,hrest⟩ := runs_call.1 hseal
  refine ⟨now,_,response,rest,rfl,?_⟩
  cases response with
  | error e => exact Or.inl (runs_done.1 hrest)
  | ok u =>
    obtain ⟨now',rest,rfl,hcollect⟩ := runs_call.1 hrest
    obtain ⟨collected,last,rfl,hlast⟩ := runs_call.1 hcollect
    refine Or.inr ⟨now',_,collected,last,rfl,?_⟩
    cases collected with
    | error e => exact Or.inl (runs_done.1 hlast)
    | ok streams => exact Or.inr ⟨rfl,streams,rfl,hlast⟩

end Runs

/-- An event of no consequence for how a child is contained. -/
def Neutral (event : SupervisorEvent) : Prop :=
  ¬ Seals event ∧ ¬ AsksToStop event ∧ ¬ WaitFails event

/-- The descendants are sealed, and a result is one whose output was collected after that. -/
structure SealedEnding (termination : ProcessTermination) (trace : List SupervisorEvent)
    (outcome : Except Ending ProcessResult) : Prop where
  seals : ∃ event ∈ trace, Seals event
  returns : outcome ≠ .error .polling
  monitored : ∀ event ∈ trace, ¬ AsksToStop event ∧ ¬ WaitFails event
  collected : ∀ result, outcome = .ok result →
    Collected trace result ∧ result.termination = termination

section Endings

variable {termination : ProcessTermination} {trace : List SupervisorEvent}
  {outcome : Except Ending ProcessResult} {event : SupervisorEvent}

theorem Collected.cons {result : ProcessResult} (hevent : ¬ Seals event)
    (h : Collected trace result) : Collected (event::trace) result := by
  obtain ⟨before,between,after,deadline,deadline',rfl,hseals⟩ := h
  exact ⟨event::before,between,after,deadline,deadline',rfl,List.forall_mem_cons.2 ⟨hevent,hseals⟩⟩

theorem SealedEnding.cons (hevent : Neutral event) (h : SealedEnding termination trace outcome) :
    SealedEnding termination (event::trace) outcome where
  seals := by
    obtain ⟨sealing,hmem,hseals⟩ := h.seals
    exact ⟨sealing,List.mem_cons_of_mem _ hmem,hseals⟩
  returns := h.returns
  monitored := List.forall_mem_cons.2 ⟨hevent.2,h.monitored⟩
  collected result hresult :=
    ⟨(h.collected result hresult).1.cons hevent.1,(h.collected result hresult).2⟩

theorem sealedEnding_of_sealAndCollect {deadline : ProcessDeadline} {stage : String}
    {k : CapturedStream × CapturedStream → Supervised ProcessResult}
    (hk : ∀ streams rest outcome, Runs (k streams).run rest outcome →
      (∀ event ∈ rest, Neutral event) ∧ outcome ≠ .error .polling ∧
        ∀ result, outcome = .ok result →
          (result.stdout,result.stderr) = streams ∧ result.termination = termination)
    (h : Runs (sealAndCollect deadline stage >>= k).run trace outcome) :
    SealedEnding termination trace outcome := by
  obtain ⟨now,remaining,response,rest,rfl,hrest⟩ := runs_sealAndCollect h
  rcases hrest with ⟨rfl,rfl⟩ | ⟨now',remaining',collected,last,rfl,⟨rfl,rfl⟩ | ⟨rfl,streams,rfl,hlast⟩⟩
  · constructor <;> simp [Seals,AsksToStop,WaitFails]
  · constructor <;> simp [Seals,AsksToStop,WaitFails]
  obtain ⟨hneutral,hreturns,hresult⟩ := hk streams last outcome hlast
  refine ⟨by simp [Seals],hreturns,?_,fun result houtcome => ?_⟩
  · simpa [AsksToStop,WaitFails] using fun event hmem => (hneutral event hmem).2
  obtain ⟨rfl,rfl⟩ := hresult result houtcome
  refine ⟨⟨[⟨.now,now⟩],[⟨.now,now'⟩],last,remaining,remaining',rfl,?_⟩,rfl⟩
  simpa [Seals] using fun event hmem => (hneutral event hmem).1

theorem runs_processResult {deadline : ProcessDeadline} {exit : Option ExitOutcome}
    {streams : CapturedStream × CapturedStream}
    (h : Runs (processResult deadline termination exit streams).run trace outcome) :
    (∀ event ∈ trace, Neutral event) ∧ outcome ≠ .error .polling ∧
      ∀ result, outcome = .ok result →
        (result.stdout,result.stderr) = streams ∧ result.termination = termination := by
  obtain ⟨now,rest,rfl,hrest⟩ := runs_call.1 h
  obtain ⟨rfl,rfl⟩ := runs_done.1 hrest
  refine ⟨by simp [Neutral,Seals,AsksToStop,WaitFails],by simp,?_⟩
  rintro result ⟨⟩
  exact ⟨rfl,rfl⟩

/-- How a stop ends: it goes on for more polls than are given, the child can no longer be monitored
in its grace period, or the descendants are sealed. -/
inductive StopEnding (termination : ProcessTermination) :
    List SupervisorEvent → Except Ending ProcessResult → Prop
  | polling {trace : List SupervisorEvent} (neutral : ∀ event ∈ trace, Neutral event) :
      StopEnding termination trace (.error .polling)
  | unmonitored {trace : List SupervisorEvent} {error : IoErrorKind}
      (neutral : ∀ event ∈ trace, Neutral event) :
      StopEnding termination (trace++[⟨.tryWait,.error error⟩])
        (.error (.failed (.cleanupUncertain "graceful stop monitoring")))
  | sealed {trace : List SupervisorEvent} {outcome : Except Ending ProcessResult}
      (ending : SealedEnding termination trace outcome) : StopEnding termination trace outcome

theorem StopEnding.cons (hevent : Neutral event) (h : StopEnding termination trace outcome) :
    StopEnding termination (event::trace) outcome := by
  cases h with
  | polling neutral => exact .polling (List.forall_mem_cons.2 ⟨hevent,neutral⟩)
  | unmonitored neutral =>
    rw [← List.cons_append]
    exact .unmonitored (List.forall_mem_cons.2 ⟨hevent,neutral⟩)
  | sealed ending => exact .sealed (ending.cons hevent)

theorem neutral_now {now : ℕ} : Neutral ⟨.now,now⟩ := by simp [Neutral,Seals,AsksToStop,WaitFails]

variable {deadline : ProcessDeadline} {supervisor : ProcessSupervisor} {polls : ℕ}
  {result : ProcessResult} {first : List SupervisorEvent}

theorem stopEnding_of_forceStop (h : Runs (forceStop deadline termination).run trace outcome) :
    StopEnding termination trace outcome := by
  obtain ⟨now,rest,rfl,hforce⟩ := runs_call.1 h
  obtain ⟨response,rest,rfl,hrest⟩ := runs_call.1 hforce
  refine (StopEnding.cons ?_ ?_).cons neutral_now
  · simp [Neutral,Seals,AsksToStop,WaitFails]
  cases response with
  | error e =>
    obtain ⟨now',remaining,sealing,last,rfl,⟨-,rfl,rfl⟩ | ⟨-,hlast⟩⟩ := runs_sealDescendants hrest
    · exact .sealed (by constructor <;> simp [Seals,AsksToStop,WaitFails])
    · obtain ⟨rfl,rfl⟩ := runs_throw.1 hlast
      exact .sealed (by constructor <;> simp [Seals,AsksToStop,WaitFails])
  | ok exit =>
    exact .sealed (sealedEnding_of_sealAndCollect (fun _ _ _ => runs_processResult) hrest)

theorem runs_graceRemains {graceStarted : ℕ} {α : Type} {outcome : Except Ending α}
    {k : Bool → Supervised α} (h : Runs (graceRemains deadline graceStarted >>= k).run trace outcome) :
    ∃ (now now' : ℕ) (remains : Bool) (rest : List SupervisorEvent),
      trace = ⟨.now,now⟩::⟨.now,now'⟩::rest ∧ Runs (k remains).run rest outcome := by
  obtain ⟨now,rest,rfl,hnext⟩ := runs_call.1 h
  obtain ⟨now',rest,rfl,hrest⟩ := runs_call.1 hnext
  exact ⟨now,now',_,rest,rfl,hrest⟩

theorem stopEnding_of_awaitGrace {graceStarted : ℕ}
    (h : Runs (awaitGrace deadline supervisor termination graceStarted polls >>=
      forceUnlessStopped deadline termination).run trace outcome) :
    StopEnding termination trace outcome := by
  induction polls generalizing trace with
  | zero =>
    obtain ⟨rfl,rfl⟩ := runs_done.1 h
    exact .polling (by simp)
  | succ polls ih =>
    rw [awaitGrace,bind_assoc] at h
    obtain ⟨now,now',remains,rest,rfl,hrest⟩ := runs_graceRemains h
    refine (StopEnding.cons neutral_now ?_).cons neutral_now
    cases remains with
    | false => exact stopEnding_of_forceStop hrest
    | true =>
      obtain ⟨answer,rest,rfl,hanswer⟩ := runs_call.1 hrest
      rcases answer with error | exit | exit
      · obtain ⟨rfl,rfl⟩ := runs_done.1 hanswer
        exact StopEnding.unmonitored (List.forall_mem_nil _)
      · obtain ⟨_,rest,rfl,hagain⟩ := runs_call.1 hanswer
        refine StopEnding.cons ?_ (StopEnding.cons ?_ (ih hagain))
        · simp [Neutral,Seals,AsksToStop,WaitFails]
        · simp [Neutral,Seals,AsksToStop,WaitFails]
      · refine StopEnding.cons ?_ (.sealed ?_)
        · simp [Neutral,Seals,AsksToStop,WaitFails]
        have hseal : Runs (sealAndCollect deadline "graceful descendant seal" >>=
            processResult deadline termination (some exit)).run rest outcome := by
          have hmapped : Runs ((sealAndCollect deadline "graceful descendant seal" >>=
              fun streams => processResult deadline termination (some exit) streams >>=
                fun result => pure (some result)) >>=
              forceUnlessStopped deadline termination).run rest outcome := hanswer
          simpa only [bind_assoc,pure_bind,forceUnlessStopped,bind_pure] using hmapped
        exact sealedEnding_of_sealAndCollect (fun _ _ _ => runs_processResult) hseal

theorem stopEnding_of_stopAndCollect
    (h : Runs (stopAndCollect deadline supervisor termination polls).run trace outcome) :
    ∃ answer rest, trace = ⟨.requestGracefulStop,answer⟩::rest ∧
      StopEnding termination rest outcome := by
  obtain ⟨answer,rest,rfl,hrest⟩ := runs_call.1 h
  refine ⟨answer,rest,rfl,?_⟩
  rcases answer with error | stop
  · exact stopEnding_of_forceStop hrest
  cases stop with
  | requested =>
    obtain ⟨graceStarted,rest,rfl,hgrace⟩ := runs_call.1 hrest
    exact (stopEnding_of_awaitGrace hgrace).cons neutral_now
  | alreadyStopped => exact stopEnding_of_forceStop hrest
  | unsupported => exact stopEnding_of_forceStop hrest

/-- The outcome of a child that was stopped: that of its stop, or an error in place of its
result. -/
def AfterStop (stopped outcome : Except Ending ProcessResult) : Prop :=
  outcome = stopped ∨ ∃ result error, stopped = .ok result ∧ outcome = .error (.failed error)

/-- How the life of a child ends: it goes on for more polls than are given, the child is stopped,
or it is found to have exited by itself. -/
inductive ChildEnding (deadline : ProcessDeadline) :
    List SupervisorEvent → Except Ending ProcessResult → Prop
  | polling {trace : List SupervisorEvent} (neutral : ∀ event ∈ trace, Neutral event) :
      ChildEnding deadline trace (.error .polling)
  | stopped {termination : ProcessTermination} {first rest : List SupervisorEvent}
      {answer : Except IoErrorKind GracefulStop} {stop outcome : Except Ending ProcessResult}
      (early : ∀ event ∈ first, ¬ Seals event ∧ ¬ AsksToStop event)
      (forced : termination ≠ .completed) (ending : StopEnding termination rest stop)
      (after : AfterStop stop outcome) :
      ChildEnding deadline (first++⟨.requestGracefulStop,answer⟩::rest) outcome
  | exited {first rest : List SupervisorEvent} {exit : ExitOutcome}
      {outcome : Except Ending ProcessResult}
      (early : ∀ event ∈ first, Neutral event ∧ ¬ ObservesStop deadline event)
      (ending : SealedEnding .completed rest outcome) :
      ChildEnding deadline (first++⟨.tryWait,.ok (some exit)⟩::rest) outcome

theorem ChildEnding.cons (hevent : Neutral event) (hstop : ¬ ObservesStop deadline event)
    (h : ChildEnding deadline trace outcome) : ChildEnding deadline (event::trace) outcome := by
  cases h with
  | polling neutral => exact .polling (List.forall_mem_cons.2 ⟨hevent,neutral⟩)
  | stopped early forced ending after =>
    rw [← List.cons_append]
    exact .stopped (List.forall_mem_cons.2 ⟨⟨hevent.1,hevent.2.1⟩,early⟩) forced ending after
  | exited early ending =>
    rw [← List.cons_append]
    exact .exited (List.forall_mem_cons.2 ⟨⟨hevent,hstop⟩,early⟩) ending

theorem ChildEnding.append (hfirst : ∀ event ∈ first, Neutral event ∧ ¬ ObservesStop deadline event)
    (h : ChildEnding deadline trace outcome) : ChildEnding deadline (first++trace) outcome := by
  induction first with
  | nil => exact h
  | cons event first ih =>
    obtain ⟨⟨hevent,hstop⟩,hfirst⟩ := List.forall_mem_cons.1 hfirst
    exact (ih hfirst).cons hevent hstop

theorem sealedEnding_of_completeChild {exit : ExitOutcome}
    (h : Runs (completeChild deadline exit).run trace outcome) :
    SealedEnding .completed trace outcome := by
  refine sealedEnding_of_sealAndCollect (fun streams rest outcome hrest => ?_) h
  obtain ⟨answer,last,rfl,hlast⟩ := runs_call.1 hrest
  have hneutral : Neutral ⟨.ensureCurrent,answer⟩ := by simp [Neutral,Seals,AsksToStop,WaitFails]
  cases answer with
  | error error =>
    obtain ⟨rfl,rfl⟩ := runs_done.1 hlast
    exact ⟨by simpa using hneutral,by simp,by simp⟩
  | ok u =>
    obtain ⟨hlast,hreturns,hresult⟩ := runs_processResult hlast
    exact ⟨List.forall_mem_cons.2 ⟨hneutral,hlast⟩,hreturns,hresult⟩

theorem childEnding_of_stopAndCollect (first : List SupervisorEvent)
    (early : ∀ event ∈ first, ¬ Seals event ∧ ¬ AsksToStop event)
    (forced : termination ≠ .completed)
    (h : Runs (stopAndCollect deadline supervisor termination polls).run trace outcome) :
    ChildEnding deadline (first++trace) outcome := by
  obtain ⟨answer,rest,rfl,ending⟩ := stopEnding_of_stopAndCollect h
  exact .stopped early forced ending (Or.inl rfl)

theorem childEnding_of_stop_throw {error : ProcessError} (first : List SupervisorEvent)
    (early : ∀ event ∈ first, ¬ Seals event ∧ ¬ AsksToStop event)
    (forced : termination ≠ .completed)
    (h : Runs (stopAndCollect deadline supervisor termination polls >>= fun _ =>
      (throw (.failed error) : Supervised ProcessResult)).run trace outcome) :
    ChildEnding deadline (first++trace) outcome := by
  rcases runs_run_bind.1 h with ⟨e,rfl,hstop⟩ | ⟨result,stopping,last,rfl,hstop,hlast⟩
  · exact childEnding_of_stopAndCollect first early forced hstop
  obtain ⟨rfl,rfl⟩ := runs_throw.1 hlast
  obtain ⟨answer,rest,rfl,ending⟩ := stopEnding_of_stopAndCollect hstop
  rw [List.append_nil]
  exact .stopped early forced ending (Or.inr ⟨result,error,rfl,rfl⟩)

/-- The life of a child, by induction on the polls. -/
theorem childEnding_of_pollChild
    (h : Runs (pollChild deadline supervisor polls).run trace outcome) :
    ChildEnding deadline trace outcome := by
  induction polls generalizing trace with
  | zero =>
    obtain ⟨rfl,rfl⟩ := runs_done.1 h
    exact .polling (by simp)
  | succ polls ih =>
    obtain ⟨current,rest,rfl,hcurrent⟩ := runs_call.1 h
    cases current with
    | error stale =>
      exact childEnding_of_stop_throw [⟨.ensureCurrent,.error stale⟩]
        (by simp [Seals,AsksToStop]) (by simp) hcurrent
    | ok u =>
      obtain ⟨cancelled,rest,rfl,hcancelled⟩ := runs_call.1 hcurrent
      cases cancelled with
      | true =>
        exact childEnding_of_stopAndCollect [⟨.ensureCurrent,.ok u⟩,⟨.isCancelled,true⟩]
          (by simp [Seals,AsksToStop]) (by simp) hcancelled
      | false =>
        obtain ⟨now,rest,rfl,hnow⟩ := runs_executionExpired.1 hcancelled
        by_cases hexpired : deadline.executionBudget ≤ now-deadline.started
        · rw [decide_eq_true hexpired] at hnow
          exact childEnding_of_stopAndCollect
            [⟨.ensureCurrent,.ok u⟩,⟨.isCancelled,false⟩,⟨.now,now⟩]
            (by simp [Seals,AsksToStop]) (by simp) hnow
        rw [decide_eq_false hexpired] at hnow
        have hquiet : ∀ event ∈ [⟨.ensureCurrent,.ok u⟩,⟨.isCancelled,false⟩,⟨.now,now⟩],
            Neutral event ∧ ¬ ObservesStop deadline event := by
          simpa [Neutral,Seals,AsksToStop,WaitFails,ObservesStop] using hexpired
        obtain ⟨observed,rest,rfl,hobserved⟩ := runs_call.1 hnow
        rcases observed with failure | exit | exit
        · exact childEnding_of_stop_throw
            [⟨.ensureCurrent,.ok u⟩,⟨.isCancelled,false⟩,⟨.now,now⟩,⟨.tryWait,.error failure⟩]
            (by simp [Seals,AsksToStop]) (by simp) hobserved
        · obtain ⟨_,rest,rfl,hagain⟩ := runs_call.1 hobserved
          refine ChildEnding.append hquiet (.cons ?_ ?_ (.cons ?_ ?_ (ih hagain)))
          all_goals simp [Neutral,Seals,AsksToStop,WaitFails,ObservesStop]
        · exact .exited hquiet (sealedEnding_of_completeChild hobserved)

/-- Once the child has been asked to stop, no `try_wait` fails. -/
def GraceMonitored (trace : List SupervisorEvent) : Prop :=
  trace.Pairwise fun earlier later => AsksToStop earlier → ¬ WaitFails later

theorem graceMonitored_of_not_asked (h : ∀ event ∈ trace, ¬ AsksToStop event) :
    GraceMonitored trace :=
  List.pairwise_of_forall_mem_list fun earlier hmem _ _ hasks => absurd hasks (h earlier hmem)

theorem graceMonitored_asked_iff {rest : List SupervisorEvent}
    {answer : Except IoErrorKind GracefulStop} (hfirst : ∀ event ∈ first, ¬ AsksToStop event)
    (hrest : ∀ event ∈ rest, ¬ AsksToStop event) :
    GraceMonitored (first++⟨.requestGracefulStop,answer⟩::rest) ↔
      ∀ event ∈ rest, ¬ WaitFails event := by
  rw [GraceMonitored,List.pairwise_append,List.pairwise_cons]
  constructor
  · rintro ⟨-,⟨hasked,-⟩,-⟩ event hmem
    exact hasked event hmem trivial
  · intro hwaits
    exact ⟨graceMonitored_of_not_asked hfirst,
      ⟨fun event hmem _ => hwaits event hmem,graceMonitored_of_not_asked hrest⟩,
      fun event hmem _ _ hasks => absurd hasks (hfirst event hmem)⟩

theorem StopEnding.not_asksToStop (h : StopEnding termination trace outcome) :
    ∀ event ∈ trace, ¬ AsksToStop event := by
  cases h with
  | polling neutral => exact fun event hmem => (neutral event hmem).2.1
  | unmonitored neutral =>
    refine List.forall_mem_append.2 ⟨fun event hmem => (neutral event hmem).2.1,?_⟩
    simp [AsksToStop]
  | sealed ending => exact fun event hmem => (ending.monitored event hmem).1

/-- The descendants of a child whose stop returns are sealed, if it could be monitored. -/
theorem StopEnding.monitored_iff (h : StopEnding termination trace outcome) :
    (∀ event ∈ trace, ¬ WaitFails event) ↔
      (outcome ≠ .error .polling → ∃ event ∈ trace, Seals event) := by
  cases h with
  | polling neutral => simpa using fun event hmem => (neutral event hmem).2.2
  | unmonitored neutral =>
    refine iff_of_false (fun hwaits => ?_) fun hseals => ?_
    · exact hwaits _ (List.mem_append_right _ (List.mem_singleton_self _)) trivial
    obtain ⟨event,hmem,hevent⟩ := hseals (by simp)
    rcases List.mem_append.1 hmem with hmem | hmem
    · exact (neutral event hmem).1 hevent
    · rw [List.mem_singleton.1 hmem] at hevent
      exact hevent
  | sealed ending =>
    exact iff_of_true (fun event hmem => (ending.monitored event hmem).2) fun _ => ending.seals

theorem ChildEnding.graceMonitored_iff (h : ChildEnding deadline trace outcome) :
    GraceMonitored trace ↔ (outcome ≠ .error .polling → ∃ event ∈ trace, Seals event) := by
  cases h with
  | polling neutral =>
    exact iff_of_true (graceMonitored_of_not_asked fun event hmem => (neutral event hmem).2.1)
      fun hreturns => absurd rfl hreturns
  | @stopped termination first rest answer stop outcome early forced ending after =>
    rw [graceMonitored_asked_iff (fun event hmem => (early event hmem).2) ending.not_asksToStop,
      ending.monitored_iff]
    have hreturns : outcome = .error .polling ↔ stop = .error .polling := by
      obtain rfl | ⟨result,error,rfl,rfl⟩ := after <;> simp
    have hseals : (∃ event ∈ first++⟨.requestGracefulStop,answer⟩::rest, Seals event) ↔
        ∃ event ∈ rest, Seals event := by
      constructor
      · rintro ⟨event,hmem,hevent⟩
        rcases List.mem_append.1 hmem with hmem | hmem
        · exact absurd hevent (early event hmem).1
        rcases List.mem_cons.1 hmem with rfl | hmem
        · exact absurd hevent not_false
        · exact ⟨event,hmem,hevent⟩
      · rintro ⟨event,hmem,hevent⟩
        exact ⟨event,List.mem_append_right _ (List.mem_cons_of_mem _ hmem),hevent⟩
    rw [ne_eq,ne_eq,hreturns,hseals]
  | exited early ending =>
    refine iff_of_true (graceMonitored_of_not_asked ?_) fun _ => ?_
    · refine List.forall_mem_append.2 ⟨fun event hmem => (early event hmem).1.2.1,?_⟩
      refine List.forall_mem_cons.2 ⟨?_,fun event hmem => (ending.monitored event hmem).1⟩
      simp [AsksToStop]
    obtain ⟨event,hmem,hevent⟩ := ending.seals
    exact ⟨event,List.mem_append_right _ (List.mem_cons_of_mem _ hmem),hevent⟩

theorem Collected.append (hfirst : ∀ event ∈ first, ¬ Seals event) (h : Collected trace result) :
    Collected (first++trace) result := by
  induction first with
  | nil => exact h
  | cons event first ih =>
    obtain ⟨hevent,hfirst⟩ := List.forall_mem_cons.1 hfirst
    exact (ih hfirst).cons hevent

theorem StopEnding.collected (h : StopEnding termination trace (.ok result)) :
    Collected trace result ∧ result.termination = termination := by
  cases h with
  | sealed ending => exact ending.collected result rfl

theorem AfterStop.of_ok {stop : Except Ending ProcessResult} (h : AfterStop stop (.ok result)) :
    stop = .ok result := by
  obtain h | ⟨_,_,_,h⟩ := h
  · exact h.symm
  · cases h

theorem ChildEnding.collected (h : ChildEnding deadline trace (.ok result)) :
    Collected trace result := by
  cases h with
  | stopped early forced ending after =>
    obtain rfl := after.of_ok
    refine Collected.append (fun event hmem => (early event hmem).1) (.cons ?_ ending.collected.1)
    simp [Seals]
  | exited early ending =>
    refine Collected.append (fun event hmem => (early event hmem).1.1)
      (.cons ?_ (ending.collected result rfl).1)
    simp [Seals]

theorem ChildEnding.completed (h : ChildEnding deadline trace (.ok result))
    (hresult : result.termination = .completed) :
    ∃ before exit after, trace = before++⟨.tryWait,.ok (some exit)⟩::after ∧
      ∀ event ∈ before, ¬ ObservesStop deadline event := by
  cases h with
  | stopped early forced ending after =>
    obtain rfl := after.of_ok
    exact absurd (ending.collected.2.symm.trans hresult) forced
  | exited early ending => exact ⟨_,_,_,rfl,fun event hmem => (early event hmem).2⟩

end Endings

/-- What `execute` owes the child it has spawned. -/
structure ContainsChild (supervisor : ProcessSupervisor) (request : ProcessRequest)
    (trace : List SupervisorEvent) (outcome : Except Ending ProcessResult) : Prop where
  seals : ⟨.spawnWithOutput,.ok ()⟩ ∈ trace → outcome ≠ .error .polling →
    ∃ event ∈ trace, Seals event
  collected : ∀ result, outcome = .ok result → result.cleanup = .verified →
    Collected trace result
  completed : ∀ result, outcome = .ok result → result.termination = .completed →
    ∃ (started : ℕ) (exit : ExitOutcome) (before after : List SupervisorEvent),
      trace = ⟨.ensureCurrent,.ok ()⟩::⟨.now,started⟩::before++
        ⟨.tryWait,.ok (some exit)⟩::after ∧
      ∀ event ∈ before, ¬ ObservesStop
        (ProcessDeadline.new started request.timeout supervisor.gracePeriod) event

section Execute

variable {supervisor : ProcessSupervisor} {crates : Crates} {polls : ℕ} {request : ProcessRequest}
  {trace : List SupervisorEvent} {outcome : Except Ending ProcessResult}

/-- A run spawns no child, or spawns one and polls it. -/
theorem runs_execute (h : Runs (supervisor.execute crates polls request).run trace outcome) :
    ((∀ event ∈ trace, Neutral event ∧ event ≠ ⟨.spawnWithOutput,.ok ()⟩) ∧
      ∀ result, outcome = .ok result →
        result.cleanup = .notRequired ∧ result.termination = .cancelled) ∨
    ∃ (started : ℕ) (rest : List SupervisorEvent),
      trace = ⟨.ensureCurrent,.ok ()⟩::⟨.now,started⟩::⟨.isCancelled,false⟩::
        ⟨.spawnWithOutput,.ok ()⟩::rest ∧
      ChildEnding (.new started request.timeout supervisor.gracePeriod) rest outcome := by
  rcases runs_ofExcept.1 h with ⟨error,-,rfl,rfl⟩ | ⟨_,-,hvalid⟩
  · exact Or.inl ⟨by simp,by simp⟩
  obtain ⟨current,rest,rfl,hcurrent⟩ := runs_call.1 hvalid
  cases current with
  | error stale =>
    obtain ⟨rfl,rfl⟩ := runs_done.1 hcurrent
    exact Or.inl ⟨by simp [Neutral,Seals,AsksToStop,WaitFails],by simp⟩
  | ok u =>
    obtain ⟨started,rest,rfl,hstarted⟩ := runs_call.1 hcurrent
    obtain ⟨cancelled,rest,rfl,hcancelled⟩ := runs_call.1 hstarted
    cases cancelled with
    | true =>
      obtain ⟨now,rest,rfl,hnow⟩ := runs_call.1 hcancelled
      obtain ⟨rfl,rfl⟩ := runs_done.1 hnow
      refine Or.inl ⟨by simp [Neutral,Seals,AsksToStop,WaitFails],?_⟩
      rintro result ⟨⟩
      exact ⟨rfl,rfl⟩
    | false =>
      obtain ⟨spawned,rest,rfl,hspawned⟩ := runs_call.1 hcancelled
      cases spawned with
      | error error =>
        obtain ⟨rfl,rfl⟩ := runs_done.1 hspawned
        exact Or.inl ⟨by simp [Neutral,Seals,AsksToStop,WaitFails],by simp⟩
      | ok v => exact Or.inr ⟨started,rest,rfl,childEnding_of_pollChild hspawned⟩

/-- The child is contained in exactly those runs in which it could be monitored after it had been
asked to stop. -/
theorem execute_containsChild_iff
    (h : Runs (supervisor.execute crates polls request).run trace outcome) :
    ContainsChild supervisor request trace outcome ↔ GraceMonitored trace := by
  rcases runs_execute h with ⟨hquiet,hresult⟩ | ⟨started,rest,rfl,ending⟩
  · refine iff_of_true ?_ (graceMonitored_of_not_asked fun event hmem => (hquiet event hmem).1.2.1)
    refine ⟨fun hspawn => absurd rfl (hquiet _ hspawn).2,fun result houtcome hverified => ?_,
      fun result houtcome hcompleted => ?_⟩
    · rw [(hresult result houtcome).1] at hverified
      cases hverified
    · rw [(hresult result houtcome).2] at hcompleted
      cases hcompleted
  have hgrace : GraceMonitored (⟨.ensureCurrent,.ok ()⟩::⟨.now,started⟩::⟨.isCancelled,false⟩::
      ⟨.spawnWithOutput,.ok ()⟩::rest) ↔ GraceMonitored rest := by
    simp [GraceMonitored,AsksToStop]
  have hseals : ∀ event ∈ [⟨.ensureCurrent,.ok ()⟩,⟨.now,started⟩,⟨.isCancelled,false⟩,
      ⟨.spawnWithOutput,.ok ()⟩], ¬ Seals event := by
    simp [Seals]
  rw [hgrace,ending.graceMonitored_iff]
  constructor
  · intro hcontains hreturns
    obtain ⟨event,hmem,hevent⟩ := hcontains.seals (by simp) hreturns
    rcases List.mem_append (s := [_,_,_,_]).1 hmem with hmem | hmem
    · exact absurd hevent (hseals event hmem)
    · exact ⟨event,hmem,hevent⟩
  · intro hcontained
    refine ⟨fun _ hreturns => ?_,fun result houtcome _ => ?_,fun result houtcome hcompleted => ?_⟩
    · obtain ⟨event,hmem,hevent⟩ := hcontained hreturns
      exact ⟨event,by simp [hmem],hevent⟩
    · subst houtcome
      exact ending.collected.append hseals
    · subst houtcome
      obtain ⟨before,exit,after,rfl,hbefore⟩ := ending.completed hcompleted
      refine ⟨started,exit,⟨.isCancelled,false⟩::⟨.spawnWithOutput,.ok ()⟩::before,after,rfl,?_⟩
      simpa [ObservesStop] using hbefore

/-- A current, uncancelled run whose child gives one answer to every `try_wait`; the clock stands
still. -/
def answerCall (observed : Except IoErrorKind (Option ExitOutcome)) :
    (call : SupervisorCall) → call.Result
  | .now => (0 : ℕ)
  | .ensureCurrent => .ok ()
  | .isCancelled => false
  | .spawnWithOutput => .ok ()
  | .tryWait => observed
  | .requestGracefulStop => .ok .requested
  | .forceStopAndWait _ => .ok none
  | .sealDescendants _ => .ok ()
  | .collectOutput _ => .ok (.empty .reference,.empty .reference)
  | .sleep _ => ()

def ProcessRequest.sample : ProcessRequest :=
  ⟨⟨Text.bytes "docker"⟩,⟨Text.bytes "/"⟩,60*1000000000,1048576⟩

def superviseSample (observed : Except IoErrorKind (Option ExitOutcome)) :
    List SupervisorEvent × Except Ending ProcessResult :=
  (ProcessSupervisor.new.execute .reference 2 .sample).run.under (answerCall observed)

/-- A run that is cancelled once its child is there; the child exits when it is asked to stop. -/
def stoppedSample : List SupervisorEvent :=
  [⟨.ensureCurrent,.ok ()⟩,⟨.now,(0 : ℕ)⟩,⟨.isCancelled,false⟩,⟨.spawnWithOutput,.ok ()⟩,
    ⟨.ensureCurrent,.ok ()⟩,⟨.isCancelled,true⟩,⟨.requestGracefulStop,.ok .requested⟩,
    ⟨.now,(0 : ℕ)⟩,⟨.now,(0 : ℕ)⟩,⟨.now,(0 : ℕ)⟩,⟨.tryWait,.ok (some ⟨false,none⟩)⟩,
    ⟨.now,(0 : ℕ)⟩,⟨.sealDescendants 500000000,.ok ()⟩,⟨.now,(0 : ℕ)⟩,
    ⟨.collectOutput 500000000,.ok (.empty .reference,.empty .reference)⟩,⟨.now,(0 : ℕ)⟩]

theorem runs_stoppedSample : ∃ result,
    Runs (ProcessSupervisor.new.execute .reference 2 .sample).run stoppedSample (.ok result) ∧
      result.termination = .cancelled :=
  ⟨_,.call (.call (.call (.call (.call (.call (.call (.call (.call (.call (.call (.call (.call
    (.call (.call (.call (.done _)))))))))))))))),rfl⟩

theorem execute_containsChild_sample :
    GraceMonitored (superviseSample (.ok (some ⟨true,some 0⟩))).1 ∧
      ContainsChild .new .sample (superviseSample (.ok (some ⟨true,some 0⟩))).1
        (superviseSample (.ok (some ⟨true,some 0⟩))).2 ∧
      ∃ result, Runs (ProcessSupervisor.new.execute .reference 2 .sample).run stoppedSample
          (.ok result) ∧ result.termination = .cancelled ∧
        (∃ event ∈ stoppedSample, AsksToStop event) ∧ GraceMonitored stoppedSample ∧
        ContainsChild .new .sample stoppedSample (.ok result) := by
  have hgrace : GraceMonitored (superviseSample (.ok (some ⟨true,some 0⟩))).1 := by
    refine graceMonitored_of_not_asked (List.forall_iff_forall_mem.1 ?_)
    exact ⟨id,id,id,id,id,id,id,id,id,id,id,id,id,id⟩
  have hstopped : GraceMonitored stoppedSample := by
    simp [GraceMonitored,stoppedSample,AsksToStop,WaitFails]
  obtain ⟨result,hrun,hcancelled⟩ := runs_stoppedSample
  exact ⟨hgrace,(execute_containsChild_iff (runs_under _ _)).2 hgrace,result,hrun,hcancelled,
    ⟨⟨.requestGracefulStop,.ok .requested⟩,by simp [stoppedSample],trivial⟩,hstopped,
    (execute_containsChild_iff hrun).2 hstopped⟩

/-- A child that cannot be waited for is asked to stop, and then left without its descendants
being sealed. -/
theorem execute_leaves_descendants :
    ∃ trace outcome, Runs (ProcessSupervisor.new.execute .reference 2 .sample).run trace outcome ∧
      outcome = .error (.failed (.cleanupUncertain "graceful stop monitoring")) ∧
      ⟨.spawnWithOutput,.ok ()⟩ ∈ trace ∧ (∀ event ∈ trace, ¬ Seals event) ∧
      ¬ ContainsChild .new .sample trace outcome := by
  have hrun : superviseSample (.error .other) = ([⟨.ensureCurrent,.ok ()⟩,⟨.now,(0 : ℕ)⟩,
      ⟨.isCancelled,false⟩,⟨.spawnWithOutput,.ok ()⟩,⟨.ensureCurrent,.ok ()⟩,⟨.isCancelled,false⟩,
      ⟨.now,(0 : ℕ)⟩,⟨.tryWait,.error .other⟩,⟨.requestGracefulStop,.ok .requested⟩,
      ⟨.now,(0 : ℕ)⟩,⟨.now,(0 : ℕ)⟩,⟨.now,(0 : ℕ)⟩,⟨.tryWait,.error .other⟩],
      .error (.failed (.cleanupUncertain "graceful stop monitoring"))) := rfl
  have hseals : ∀ event ∈ (superviseSample (.error .other)).1, ¬ Seals event := by
    simp [hrun,Seals]
  have hspawn : ⟨.spawnWithOutput,.ok ()⟩ ∈ (superviseSample (.error .other)).1 := by simp [hrun]
  have houtcome : (superviseSample (.error .other)).2 =
      .error (.failed (.cleanupUncertain "graceful stop monitoring")) := by rw [hrun]
  refine ⟨_,_,runs_under _ _,houtcome,hspawn,hseals,fun hcontains => ?_⟩
  obtain ⟨event,hmem,hevent⟩ := hcontains.seals hspawn (houtcome.trans_ne (by simp))
  exact hseals event hmem hevent

end Execute

end CommitCiPreflight
