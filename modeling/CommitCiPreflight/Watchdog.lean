import CommitCiPreflight.Resource

/-! The watchdog trips by a rule over its samples: once at hard pressure, or after fifteen samples
in a row under soft pressure. Samples are counted from one. -/
namespace CommitCiPreflight

open Outcome

def WatchdogState.feed (run : WatchdogState × List WatchdogDecision) (snapshot : ResourceSnapshot) :
    Outcome ResourceProbeError (WatchdogState × List WatchdogDecision) := do
  let (state,decision) ← run.1.observe snapshot
  return (state,run.2++[decision])

/-- The decisions of a fresh watchdog on a sequence of samples. -/
def WatchdogState.feedAll (samples : List ResourceSnapshot) :
    Outcome ResourceProbeError (WatchdogState × List WatchdogDecision) :=
  fold feed (default,[]) samples

/-- Pressure that trips at once. -/
def ResourceSnapshot.Hard (s : ResourceSnapshot) : Prop :=
  s.availablePercent.toNat ≤ 3 ∨ s.reclaimableUncompressedBytes.toNat < 512*2^20 ∨
    (70*s.totalMemoryBytes.toNat ≤ 100*s.compressorOccupiedBytes.toNat ∧
      (s.availablePercent.toNat ≤ 8 ∨ s.reclaimableUncompressedBytes.toNat < 1536*2^20 ∨
        4*2^30 ≤ s.swapUsedBytes.toNat))

instance (s : ResourceSnapshot) : Decidable s.Hard := inferInstanceAs (Decidable (_ ∨ _))

section Rule

variable (samples : List ResourceSnapshot)

def sampleAt (i : ℕ) : Option ResourceSnapshot := if i = 0 then none else samples[i-1]?

def HardAt (i : ℕ) : Prop := ∃ s, sampleAt samples i = some s ∧ s.Hard

/-- More swap than fifteen samples ago, by a gibibyte. -/
def grownAt (i : ℕ) (s : ResourceSnapshot) : Bool :=
  decide (16 ≤ i) && (sampleAt samples (i-15)).any fun earlier =>
    earlier.swapUsedBytes.toNat+2^30 ≤ s.swapUsedBytes.toNat

/-- Two of the five signals. -/
def SoftAt (i : ℕ) : Prop := ∃ s, sampleAt samples i = some s ∧
  2 ≤ [decide (s.availablePercent.toNat < 10),
    decide (s.reclaimableUncompressedBytes.toNat < 1536*2^20),
    decide (55*s.totalMemoryBytes.toNat ≤ 100*s.compressorOccupiedBytes.toNat),
    decide (4*2^30 ≤ s.swapUsedBytes.toNat),grownAt samples i s].count true

def TripsAt (i : ℕ) : Prop :=
  HardAt samples i ∨ 15 ≤ i ∧ ∀ j, i-14 ≤ j → j ≤ i → SoftAt samples j

end Rule

theorem hard_iff (s : ResourceSnapshot) :
    (s.availablePercent ≤ hardAvailablePercent ∨
      s.reclaimableUncompressedBytes < hardReclaimableBytes ∨
      s.hasHardCompoundCompression = true) ↔ s.Hard := by
  simp only [ResourceSnapshot.Hard,ResourceSnapshot.hasHardCompoundCompression,
    ResourceSnapshot.compressorPercentAtLeast,ratioAtLeast,Bool.and_eq_true,Bool.or_eq_true,
    decide_eq_true_eq,UInt8.le_iff_toNat_le,UInt64.lt_iff_toNat_lt,ge_iff_le,
    UInt64.le_iff_toNat_le]
  have havailable : hardAvailablePercent.toNat = 3 := rfl
  have hreclaimable : hardReclaimableBytes.toNat = 512*2^20 := rfl
  have hcompressor : hardCompressorPercent.toNat = 70 := rfl
  have hcompanion : hardCompressorCompanionAvailablePercent.toNat = 8 := rfl
  have hsoft : softReclaimableBytes.toNat = 1536*2^20 := rfl
  have hswap : softSwapBytes.toNat = 4*2^30 := rfl
  rw [havailable,hreclaimable,hcompressor,hcompanion,hsoft,hswap,mul_comm 70,mul_comm 100,or_assoc]

theorem softSignals_iff (s : ResourceSnapshot) (grown : Bool) :
    WatchdogState.softSignals s grown ≥ softRequiredSignals ↔
      2 ≤ [decide (s.availablePercent.toNat < 10),
        decide (s.reclaimableUncompressedBytes.toNat < 1536*2^20),
        decide (55*s.totalMemoryBytes.toNat ≤ 100*s.compressorOccupiedBytes.toNat),
        decide (4*2^30 ≤ s.swapUsedBytes.toNat),grown].count true := by
  have hcount : ∀ a b c d e : Bool,
      signal a+signal b+signal c+signal d+signal e ≥ softRequiredSignals ↔
        2 ≤ [a,b,c,d,e].count true := by decide
  have havailable : softAvailablePercent.toNat = 10 := rfl
  have hreclaimable : softReclaimableBytes.toNat = 1536*2^20 := rfl
  have hcompressor : softCompressorPercent.toNat = 55 := rfl
  have hswap : softSwapBytes.toNat = 4*2^30 := rfl
  rw [WatchdogState.softSignals,hcount]
  simp only [ResourceSnapshot.compressorPercentAtLeast,ratioAtLeast,UInt8.lt_iff_toNat_lt,
    UInt64.lt_iff_toNat_lt,ge_iff_le,UInt64.le_iff_toNat_le,havailable,hreclaimable,hcompressor,
    hswap,mul_comm]

section Run

variable {samples : List ResourceSnapshot} {n : ℕ} {s : ResourceSnapshot} {state : WatchdogState}

theorem sampleAt_succ (n : ℕ) : sampleAt samples (n+1) = samples[n]? := rfl

/-- The window after so many samples: the swap of the last sixteen of them. -/
def windowAt (samples : List ResourceSnapshot) (n : ℕ) : List UInt64 :=
  ((samples.take n).map (·.swapUsedBytes)).drop (n-16)

theorem length_windowAt (h : n ≤ samples.length) : (windowAt samples n).length = min n 16 := by
  simp only [windowAt,List.length_drop,List.length_map,List.length_take]
  omega

theorem pushSwap_windowAt (h : samples[n]? = some s) :
    WatchdogState.pushSwap (windowAt samples n) s.swapUsedBytes = windowAt samples (n+1) := by
  obtain ⟨hn,rfl⟩ := List.getElem?_eq_some_iff.1 h
  have htake : ((samples.take (n+1)).map (·.swapUsedBytes)) =
      (samples.take n).map (·.swapUsedBytes)++[samples[n].swapUsedBytes] := by
    rw [← List.take_concat_get' samples n hn,List.map_append,List.map_singleton]
  have hlength : ((samples.take n).map (·.swapUsedBytes)).length = n := by
    rw [List.length_map,List.length_take]
    omega
  have hpushed : windowAt samples n++[samples[n].swapUsedBytes] =
      ((samples.take (n+1)).map (·.swapUsedBytes)).drop (n-16) := by
    rw [htake,List.drop_append_of_le_length (by omega)]
    rfl
  rw [WatchdogState.pushSwap,hpushed,List.length_drop,List.length_map,List.length_take,windowAt]
  by_cases hfull : 16 ≤ n
  · rw [if_pos (by rw [softTrendWindowSamples]; omega),List.tail_drop]
    congr 1
    omega
  · rw [if_neg (by rw [softTrendWindowSamples]; omega)]
    congr 1
    omega

theorem swapGrowth_windowAt (h : samples[n]? = some s) :
    WatchdogState.swapGrowth (windowAt samples (n+1)) s.swapUsedBytes =
      .ok (grownAt samples (n+1) s) := by
  obtain ⟨hn,rfl⟩ := List.getElem?_eq_some_iff.1 h
  have hlength := length_windowAt (show n+1 ≤ samples.length from hn)
  rw [WatchdogState.swapGrowth,hlength,grownAt,softTrendWindowSamples]
  by_cases hfull : 16 ≤ n+1
  · have hfirst : (windowAt samples (n+1)).head? = some samples[n-15].swapUsedBytes := by
      rw [windowAt,List.head?_drop,List.getElem?_map,List.getElem?_take,if_pos (by omega),
        List.getElem?_eq_getElem (by omega)]
      simp only [Option.map_some]
      congr 3
    have hearlier : sampleAt samples (n+1-15) = some samples[n-15] := by
      rw [show n+1-15 = (n-15)+1 by omega,sampleAt_succ,List.getElem?_eq_getElem (by omega)]
    rw [if_pos (by omega),hfirst,expect_some,ok_bind,hearlier,decide_eq_true hfull,Bool.true_and,
      pure_eq,Option.any_some]
    congr 1
    have hgrowth : softSwapGrowthBytes.toNat = 2^30 := rfl
    rw [decide_eq_decide,saturatingSub,ge_iff_le,UInt64.le_iff_toNat_le,hgrowth]
    split
    · rename_i hle
      rw [UInt64.toNat_sub_of_le _ _ hle]
      rw [UInt64.le_iff_toNat_le] at hle
      omega
    · rename_i hle
      rw [UInt64.le_iff_toNat_le] at hle
      change 2^30 ≤ 0 ↔ _
      omega
  · rw [if_neg (by omega),decide_eq_false hfull,Bool.false_and]

/-- What the state holds as long as no sample has tripped. -/
structure Untripped (samples : List ResourceSnapshot) (n : ℕ) (state : WatchdogState) : Prop where
  firstTrip : state.firstTrip = none
  window : state.swapWindow = windowAt samples n
  few : state.consecutiveSoftSamples.toNat < 15
  run_le : state.consecutiveSoftSamples.toNat ≤ n
  soft : ∀ j, n-state.consecutiveSoftSamples.toNat < j → j ≤ n → SoftAt samples j
  broken : state.consecutiveSoftSamples.toNat < n →
    ¬ SoftAt samples (n-state.consecutiveSoftSamples.toNat)

theorem untripped_default : Untripped samples 0 .default := by
  constructor
  · rfl
  · rfl
  · decide
  · decide
  · intro j hlow hhigh
    omega
  · intro h
    omega

theorem hardAt_succ (h : samples[n]? = some s) : HardAt samples (n+1) ↔ s.Hard := by
  simp [HardAt,sampleAt_succ,h]

theorem softAt_succ (h : samples[n]? = some s) :
    SoftAt samples (n+1) ↔
      WatchdogState.softSignals s (grownAt samples (n+1) s) ≥ softRequiredSignals := by
  rw [softSignals_iff]
  simp only [SoftAt,sampleAt_succ,h,Option.some.injEq,exists_eq_left']

/-- The counter says whether the last fifteen samples were all under soft pressure. -/
theorem Untripped.trips_iff (h : Untripped samples n state) :
    TripsAt samples (n+1) ↔ HardAt samples (n+1) ∨
      SoftAt samples (n+1) ∧ state.consecutiveSoftSamples.toNat = 14 := by
  have hfew := h.few
  have hle := h.run_le
  refine or_congr_right ⟨?_,?_⟩
  · rintro ⟨hlong,hall⟩
    refine ⟨hall (n+1) (by omega) le_rfl,?_⟩
    by_contra hne
    exact h.broken (by omega) (hall _ (by omega) (by omega))
  · rintro ⟨hsoft,hcount⟩
    refine ⟨by omega,fun j hlow hhigh => ?_⟩
    rcases Nat.lt_or_ge n j with hlast | hearlier
    · rwa [show j = n+1 by omega]
    · exact h.soft j (by omega) hearlier

def ReasonAt (samples : List ResourceSnapshot) (i : ℕ) (reason : WatchdogTripReason) : Prop :=
  HardAt samples i ∧ reason = .hardPressure ∨ ¬ HardAt samples i ∧ reason = .softPressure

theorem toNat_saturatingSucc {n : UInt8} (h : n.toNat < 15) :
    (saturatingSucc n).toNat = n.toNat+1 := by
  have hne : n ≠ 255 := by
    rintro rfl
    exact absurd h (by decide)
  have hone : (1 : UInt8).toNat = 1 := rfl
  rw [saturatingSucc,if_neg hne,UInt8.toNat_add,hone]
  omega

theorem Untripped.observe (h : Untripped samples n state) (hs : samples[n]? = some s)
    (hvalid : s.validate = .ok ()) :
    ∃ state' decision, state.observe s = .ok (state',decision) ∧
      (¬ TripsAt samples (n+1) ∧ decision = .continue ∧ Untripped samples (n+1) state' ∨
        TripsAt samples (n+1) ∧ ∃ reason, ReasonAt samples (n+1) reason ∧
          decision = .tripped reason ∧ state'.firstTrip = some reason) := by
  have hfew := h.few
  have hle := h.run_le
  have hfifteen : softConsecutiveSamples.toNat = 15 := rfl
  have hcounter := toNat_saturatingSucc hfew
  rw [WatchdogState.observe,hvalid,ok_bind,h.firstTrip]
  dsimp only
  rw [h.window,pushSwap_windowAt hs,swapGrowth_windowAt hs,ok_bind]
  by_cases hhard : HardAt samples (n+1)
  · rw [if_pos ((hard_iff s).2 ((hardAt_succ hs).1 hhard))]
    exact ⟨_,_,rfl,.inr ⟨.inl hhard,.hardPressure,.inl ⟨hhard,rfl⟩,rfl,rfl⟩⟩
  rw [if_neg fun hcode => hhard ((hardAt_succ hs).2 ((hard_iff s).1 hcode))]
  by_cases hsoft : SoftAt samples (n+1)
  · rw [if_pos ((softAt_succ hs).1 hsoft)]
    by_cases hlong : state.consecutiveSoftSamples.toNat = 14
    · have hreached : saturatingSucc state.consecutiveSoftSamples ≥ softConsecutiveSamples := by
        rw [ge_iff_le,UInt8.le_iff_toNat_le]
        omega
      rw [if_pos hreached]
      exact ⟨_,_,rfl,.inr ⟨h.trips_iff.2 (.inr ⟨hsoft,hlong⟩),.softPressure,
        .inr ⟨hhard,rfl⟩,rfl,rfl⟩⟩
    · have hbelow : ¬ saturatingSucc state.consecutiveSoftSamples ≥ softConsecutiveSamples := by
        rw [ge_iff_le,UInt8.le_iff_toNat_le]
        omega
      rw [if_neg hbelow]
      refine ⟨_,_,rfl,.inl ⟨?_,rfl,⟨rfl,rfl,?_,?_,?_,?_⟩⟩⟩
      · rw [h.trips_iff]
        tauto
      · dsimp only
        omega
      · dsimp only
        omega
      · intro j hlow hhigh
        dsimp only at hlow
        rcases Nat.lt_or_ge n j with hlast | hearlier
        · rwa [show j = n+1 by omega]
        · exact h.soft j (by omega) hearlier
      · dsimp only
        intro hlt
        rw [hcounter,Nat.add_sub_add_right]
        exact h.broken (by omega)
  · rw [if_neg fun hcode => hsoft ((softAt_succ hs).2 hcode)]
    refine ⟨_,_,rfl,.inl ⟨?_,rfl,⟨rfl,rfl,show 0 < 15 by decide,Nat.zero_le _,?_,?_⟩⟩⟩
    · rw [h.trips_iff]
      tauto
    · intro j hlow hhigh
      change n+1-0 < j at hlow
      omega
    · intro _
      exact hsoft

theorem observe_tripped {reason : WatchdogTripReason} (h : state.firstTrip = some reason)
    (hvalid : s.validate = .ok ()) : state.observe s = .ok (state,.tripped reason) := by
  rw [WatchdogState.observe,hvalid,ok_bind,h]
  rfl

/-- The first sample that trips, and why. -/
def FirstTrip (samples : List ResourceSnapshot) (n : ℕ) (reason : WatchdogTripReason) : Prop :=
  ∃ i ≤ n, TripsAt samples i ∧ (∀ j < i, ¬ TripsAt samples j) ∧ ReasonAt samples i reason

/-- The decision on a sample, by the rule. -/
def DecidedAt (samples : List ResourceSnapshot) (n : ℕ) (decision : WatchdogDecision) : Prop :=
  (∀ i ≤ n, ¬ TripsAt samples i) ∧ decision = .continue ∨
    ∃ reason, FirstTrip samples n reason ∧ decision = .tripped reason

theorem not_tripsAt_zero : ¬ TripsAt samples 0 := by
  rintro (⟨s,hs,-⟩ | ⟨hlong,-⟩)
  · simp [sampleAt] at hs
  · omega

/-- The state and the decisions after so many samples. -/
structure Reached (samples : List ResourceSnapshot) (n : ℕ)
    (run : WatchdogState × List WatchdogDecision) : Prop where
  state : (∀ i ≤ n, ¬ TripsAt samples i) ∧ Untripped samples n run.1 ∨
    ∃ reason, FirstTrip samples n reason ∧ run.1.firstTrip = some reason
  length : run.2.length = n
  decided : ∀ k decision, run.2[k]? = some decision → DecidedAt samples (k+1) decision

theorem Reached.feed {run : WatchdogState × List WatchdogDecision} (h : Reached samples n run)
    (hs : samples[n]? = some s) (hvalid : s.validate = .ok ()) :
    ∃ run', WatchdogState.feed run s = .ok run' ∧ Reached samples (n+1) run' := by
  have hextend : ∀ {decision : WatchdogDecision}, DecidedAt samples (n+1) decision →
      ∀ k d, (run.2++[decision])[k]? = some d → DecidedAt samples (k+1) d := by
    intro decision hdecision k d hd
    rcases Nat.lt_or_ge k n with hk | hk
    · rw [List.getElem?_append_left (h.length ▸ hk)] at hd
      exact h.decided k d hd
    · rw [List.getElem?_append_right (h.length ▸ hk),List.getElem?_singleton] at hd
      split at hd
      · rename_i hzero
        obtain rfl := Option.some.inj hd
        rw [h.length] at hzero
        rwa [show k = n by omega]
      · simp at hd
  rcases h.state with ⟨hquiet,huntripped⟩ | ⟨reason,⟨i,hi,htrips,hleast,hreason⟩,hfirst⟩
  · obtain ⟨state',decision,hobserve,hcases⟩ := huntripped.observe hs hvalid
    refine ⟨(state',run.2++[decision]),by rw [WatchdogState.feed,hobserve]; rfl,?_⟩
    rcases hcases with ⟨hnot,rfl,hnext⟩ | ⟨htrips,reason,hreason,rfl,hfirst⟩
    · have hstill : ∀ i ≤ n+1, ¬ TripsAt samples i := by
        intro i hi
        rcases Nat.lt_or_ge n i with hlast | hearlier
        · rwa [show i = n+1 by omega]
        · exact hquiet i hearlier
      exact ⟨.inl ⟨hstill,hnext⟩,by simp [h.length],hextend (.inl ⟨hstill,rfl⟩)⟩
    · have htrip : FirstTrip samples (n+1) reason :=
        ⟨n+1,le_rfl,htrips,fun j hj => hquiet j (by omega),hreason⟩
      exact ⟨.inr ⟨reason,htrip,hfirst⟩,by simp [h.length],hextend (.inr ⟨reason,htrip,rfl⟩)⟩
  · have htrip : FirstTrip samples (n+1) reason := ⟨i,by omega,htrips,hleast,hreason⟩
    refine ⟨(run.1,run.2++[.tripped reason]),?_,
      .inr ⟨reason,htrip,hfirst⟩,by simp [h.length],hextend (.inr ⟨reason,htrip,rfl⟩)⟩
    rw [WatchdogState.feed,observe_tripped hfirst hvalid]
    rfl

theorem feedAll_reached (hvalid : ∀ s ∈ samples, s.validate = .ok ()) :
    ∀ n ≤ samples.length, ∃ run, WatchdogState.feedAll (samples.take n) = .ok run ∧
      Reached samples n run := by
  intro n
  induction n with
  | zero =>
    intro _
    refine ⟨_,by rw [List.take_zero]; rfl,.inl ⟨?_,untripped_default⟩,rfl,by simp⟩
    intro i hi
    rw [Nat.le_zero.1 hi]
    exact not_tripsAt_zero
  | succ n ih =>
    intro hn
    obtain ⟨run,hrun,hreached⟩ := ih (by omega)
    have hs : samples[n]? = some samples[n] := List.getElem?_eq_getElem hn
    obtain ⟨run',hfeed,hnext⟩ := hreached.feed hs (hvalid _ (List.getElem_mem hn))
    refine ⟨run',?_,hnext⟩
    rw [WatchdogState.feedAll] at hrun ⊢
    rw [← List.take_concat_get' samples n hn,fold_append,hrun,ok_bind,fold_cons,hfeed,ok_bind,
      fold_nil]

end Run

/-- The watchdog decides by the rule: it trips at a sample exactly when that sample or an earlier
one trips, and the reason is that of the first. -/
theorem watchdog_rule (samples : List ResourceSnapshot)
    (hvalid : ∀ s ∈ samples, s.validate = .ok ()) :
    ∃ state decisions, WatchdogState.feedAll samples = .ok (state,decisions) ∧
      decisions.length = samples.length ∧
      ∀ n decision, decisions[n-1]? = some decision → 1 ≤ n →
        ((∃ reason, decision = .tripped reason) ↔ ∃ i ≤ n, TripsAt samples i) ∧
        ∀ i ≤ n, TripsAt samples i → (∀ j < i, ¬ TripsAt samples j) →
          (HardAt samples i → decision = .tripped .hardPressure) ∧
          (¬ HardAt samples i → decision = .tripped .softPressure) := by
  obtain ⟨⟨state,decisions⟩,hrun,hreached⟩ := feedAll_reached hvalid samples.length le_rfl
  rw [List.take_length] at hrun
  refine ⟨state,decisions,hrun,hreached.length,fun n decision hdecision hn => ?_⟩
  have hdecided := hreached.decided (n-1) decision hdecision
  rw [Nat.sub_add_cancel hn] at hdecided
  rcases hdecided with ⟨hquiet,rfl⟩ | ⟨reason,⟨i,hi,htrips,hleast,hreason⟩,rfl⟩
  · refine ⟨⟨by simp,?_⟩,fun i hi htrips => absurd htrips (hquiet i hi)⟩
    rintro ⟨i,hi,htrips⟩
    exact absurd htrips (hquiet i hi)
  · refine ⟨⟨fun _ => ⟨i,hi,htrips⟩,fun _ => ⟨reason,rfl⟩⟩,fun k hk hktrips hkleast => ?_⟩
    have hsame : k = i := by
      rcases lt_trichotomy k i with hlt | heq | hgt
      · exact absurd hktrips (hleast k hlt)
      · exact heq
      · exact absurd htrips (hkleast i hgt)
    subst hsame
    rcases hreason with ⟨hhard,rfl⟩ | ⟨hnot,rfl⟩
    · exact ⟨fun _ => rfl,fun hnot => absurd hhard hnot⟩
    · exact ⟨fun hhard => absurd hhard hnot,fun _ => rfl⟩

/-- Nine percent available and a gibibyte reclaimable: two soft signals, no hard one. -/
def ResourceSnapshot.pressed : ResourceSnapshot := ⟨9,1073741824,0,17179869184,0,0⟩

theorem watchdog_rule_pressed :
    (∀ i, 15 ≤ i → i ≤ 20 → ∃ j ≤ i, TripsAt (List.replicate 20 .pressed) j) ∧
      ∃ state decisions,
        WatchdogState.feedAll (List.replicate 20 .pressed) = .ok (state,decisions) ∧
          decisions = List.replicate 14 .continue++List.replicate 6 (.tripped .softPressure) := by
  obtain ⟨state,decisions,hrun,-,hrule⟩ := watchdog_rule (List.replicate 20 .pressed) (by
    intro s hs
    rw [List.eq_of_mem_replicate hs]
    rfl)
  have hdecisions : decisions =
      List.replicate 14 .continue++List.replicate 6 (.tripped .softPressure) := by
    have hknown : (WatchdogState.feedAll (List.replicate 20 .pressed)).toOption.map Prod.snd =
        some (List.replicate 14 .continue++List.replicate 6 (.tripped .softPressure)) := by
      decide +kernel
    rw [hrun] at hknown
    exact Option.some.inj hknown
  refine ⟨fun i hlow hhigh => ?_,state,decisions,hrun,hdecisions⟩
  refine (hrule i (.tripped .softPressure) ?_ (by omega)).1.1 ⟨_,rfl⟩
  rw [hdecisions,List.getElem?_append_right (by simp; omega),List.length_replicate,
    List.getElem?_replicate,if_pos (by omega)]

theorem not_hard_of_admitted {s : ResourceSnapshot} (h : evaluatePreStart s = .ok .admitted) :
    s.validate = .ok () ∧ ¬ s.Hard := by
  obtain ⟨⟨⟩,hvalid,hdecision⟩ := bind_eq_ok.1 h
  refine ⟨hvalid,fun hhard => ?_⟩
  rw [pure_eq,ok.injEq,ite_eq_left_iff] at hdecision
  obtain ⟨havailable,hreclaimable,hcompound⟩ :=
    of_not_not fun hnot => absurd (hdecision hnot) (by decide)
  rcases (hard_iff s).2 hhard with hlow | hlow | hlow
  · exact absurd (UInt8.le_trans havailable hlow) (by decide)
  · exact absurd (UInt64.lt_of_le_of_lt hreclaimable hlow) (by decide)
  · exact hcompound hlow

/-- While every sample would be admitted before a run, the watchdog trips at soft pressure only, and
never within the first fourteen. -/
theorem feedAll_admitted {samples : List ResourceSnapshot}
    (h : ∀ s ∈ samples, evaluatePreStart s = .ok .admitted) :
    ∃ state decisions, WatchdogState.feedAll samples = .ok (state,decisions) ∧
      decisions.length = samples.length ∧ ∀ k decision, decisions[k]? = some decision →
        decision = .continue ∨ 14 ≤ k ∧ decision = .tripped .softPressure := by
  obtain ⟨⟨state,decisions⟩,hrun,hreached⟩ :=
    feedAll_reached (fun s hs => (not_hard_of_admitted (h s hs)).1) samples.length le_rfl
  rw [List.take_length] at hrun
  have hsoft : ∀ i, ¬ HardAt samples i := by
    rintro i ⟨s,hs,hhard⟩
    unfold sampleAt at hs
    split at hs
    · cases hs
    · exact (not_hard_of_admitted (h s (List.mem_of_getElem? hs))).2 hhard
  refine ⟨state,decisions,hrun,hreached.length,fun k decision hdecision => ?_⟩
  rcases hreached.decided k decision hdecision with
    ⟨-,hcontinue⟩ | ⟨reason,⟨i,hi,htrips,-,hreason⟩,rfl⟩
  · exact Or.inl hcontinue
  · obtain ⟨hlong,-⟩ := htrips.resolve_left (hsoft i)
    obtain ⟨-,rfl⟩ := hreason.resolve_left fun hhard => hsoft i hhard.1
    exact Or.inr ⟨by omega,rfl⟩

/-- A quarter available, four gibibytes reclaimable, and swap in use. -/
theorem feedAll_admitted_swapping :
    ∃ state decisions, WatchdogState.feedAll
        (List.replicate 20 ⟨25,4294967296,10307921510,17179869184,8589934592,17179869184⟩) =
        .ok (state,decisions) ∧ decisions.length = 20 ∧
      ∀ k decision, decisions[k]? = some decision →
        decision = .continue ∨ 14 ≤ k ∧ decision = .tripped .softPressure := by
  refine feedAll_admitted fun s hs => ?_
  rw [List.eq_of_mem_replicate hs]
  decide +kernel

end CommitCiPreflight
