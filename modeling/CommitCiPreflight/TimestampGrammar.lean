import CommitCiPreflight.CivilFormat
import CommitCiPreflight.RunJournal
import CommitCiPreflight.RunReceiptSpec
import CommitCiPreflight.Slices
import CommitCiPreflight.VerifyDecision

/-! Receipts, the verifier and the run journal read one grammar of timestamps. The journal cuts the
text itself, so its parser is followed step by step here, with the cuts that may panic. -/
namespace CommitCiPreflight

open Outcome

namespace RunJournal

/-- `value[start..end].parse::<u32>()`. -/
def number (value : String) (start stop : ℕ) : Outcome RunJournalError ℕ := do
  let digits ← expect (Text.slice value start stop)
  ofOption .invalidTimestamp (Text.parseUnsigned 32 digits)

/-- The last day of a month, or an early return. -/
def maxDay (leap : Bool) (month : ℕ) : Outcome RunJournalError ℕ :=
  if month ∈ [1,3,5,7,8,10,12] then .ok 31
  else if month ∈ [4,6,9,11] then .ok 30
  else if month = 2 then .ok (if leap then 29 else 28)
  else .err .invalidTimestamp

/-- `validate_timestamp` with every cut that may panic. -/
def validateTimestampSteps (value : String) : Outcome RunJournalError Unit :=
  let bytes := Text.bytes value
  if bytes.length = 20 ∧
      (timestampSeparators.all fun separator => bytes[separator.1]? = some (Text.ascii separator.2)) ∧
      ((List.range 20).all fun index => index ∈ timestampSeparators.map Prod.fst ∨
        bytes[index]?.any Text.isAsciiDigit) then do
    let year ← number value 0 4
    let month ← number value 5 7
    let day ← number value 8 10
    let hour ← number value 11 13
    let minute ← number value 14 16
    let second ← number value 17 19
    let maxDay ← maxDay (leap year) month
    ensure (year ≠ 0 ∧ (1 ≤ day ∧ day ≤ maxDay) ∧ hour < 24 ∧ minute < 60 ∧ second < 60)
      .invalidTimestamp
  else .err .invalidTimestamp

end RunJournal

variable {bytes : List UInt8}

theorem fold_decimalDigit_eq {value : ℕ} (hdigits : ∀ b ∈ bytes, Text.isAsciiDigit b = true)
    (hpanic : fold decimalDigit value bytes ≠ .panic) :
    fold decimalDigit value bytes =
      .ok (bytes.foldl (fun n byte => n*10+(byte.toNat-48)) value) := by
  induction bytes generalizing value with
  | nil => rfl
  | cons byte bytes ih =>
    rw [List.forall_mem_cons] at hdigits
    rw [fold_cons,decimalDigit,if_pos hdigits.1,u32] at hpanic ⊢
    split at hpanic
    · rename_i hfits
      rw [ok_bind] at hpanic
      rw [if_pos hfits,ok_bind]
      exact ih hdigits.2 hpanic
    · exact absurd rfl hpanic

theorem mem_slice_iff {start stop : ℕ} {b : UInt8} :
    b ∈ (bytes.take stop).drop start ↔ ∃ i, start ≤ i ∧ i < stop ∧ bytes[i]? = some b := by
  rw [List.mem_iff_getElem?]
  constructor
  · rintro ⟨i,hi⟩
    rw [List.getElem?_drop,List.getElem?_take] at hi
    split at hi
    · exact ⟨start+i,by omega,by assumption,hi⟩
    · simp at hi
  · rintro ⟨i,hlow,hhigh,hi⟩
    refine ⟨i-start,?_⟩
    rw [List.getElem?_drop,List.getElem?_take,Nat.add_sub_cancel' hlow,if_pos hhigh]
    exact hi

theorem readNumber_eq_ok_iff {start stop n : ℕ} (hle : start ≤ stop) (hstop : stop ≤ bytes.length)
    (hshort : stop-start < 10) :
    readNumber bytes start stop = .ok n ↔
      (∀ i b, start ≤ i → i < stop → bytes[i]? = some b → Text.isAsciiDigit b = true) ∧
        n = RunJournal.timestampNumber bytes start stop := by
  have hspec := readNumber_spec hle hstop hshort
  constructor
  · intro h
    have hdigits := fun i b hlow hhigh hi => readNumber_digits (i := i) (b := b) h hi hlow hhigh
    refine ⟨hdigits,?_⟩
    rw [readNumber,byteSlice,if_pos ⟨hle,hstop⟩,ok_bind] at h hspec
    rw [parseDecimal,fold_decimalDigit_eq _ hspec.1,ok.injEq] at h
    · exact h.symm
    · intro b hb
      obtain ⟨i,hlow,hhigh,hi⟩ := mem_slice_iff.1 hb
      exact hdigits i b hlow hhigh hi
  · rintro ⟨hdigits,rfl⟩
    rw [readNumber,byteSlice,if_pos ⟨hle,hstop⟩,ok_bind] at hspec ⊢
    refine fold_decimalDigit_eq ?_ hspec.1
    intro b hb
    obtain ⟨i,hlow,hhigh,hi⟩ := mem_slice_iff.1 hb
    exact hdigits i b hlow hhigh hi

namespace RunJournal

def civilTime (bytes : Bytes) : CivilTime where
  year := timestampNumber bytes 0 4
  month := timestampNumber bytes 5 7
  day := timestampNumber bytes 8 10
  hour := timestampNumber bytes 11 13
  minute := timestampNumber bytes 14 16
  second := timestampNumber bytes 17 19

/-- The shape of a timestamp: separators and digits in their places. -/
def Shaped (bytes : Bytes) : Prop :=
  bytes.length = 20 ∧
    (timestampSeparators.all fun separator => bytes[separator.1]? = some (Text.ascii separator.2)) ∧
    ((List.range 20).all fun index => index ∈ timestampSeparators.map Prod.fst ∨
      bytes[index]?.any Text.isAsciiDigit)

instance (bytes : Bytes) : Decidable (Shaped bytes) := inferInstanceAs (Decidable (_ ∧ _))

theorem Shaped.digit {bytes : Bytes} (h : Shaped bytes) {i : ℕ} {b : UInt8}
    (hi : bytes[i]? = some b) (hplace : i ∉ timestampSeparators.map Prod.fst) :
    Text.isAsciiDigit b = true := by
  have hlt : i < 20 := h.1 ▸ (List.getElem?_eq_some_iff.1 hi).1
  have hplaced := of_decide_eq_true (List.all_eq_true.1 h.2.2 i (List.mem_range.2 hlt))
  rw [hi] at hplaced
  exact hplaced.resolve_left hplace

theorem separator_places (i : ℕ) : i ∉ timestampSeparators.map Prod.fst ↔
    i ≠ 4 ∧ i ≠ 7 ∧ i ≠ 10 ∧ i ≠ 13 ∧ i ≠ 16 ∧ i ≠ 19 := by
  simp [timestampSeparators]

/-- The separators and the digits in their places are what `readCivil` reads. -/
theorem readCivil_eq_ok_iff {bytes : Bytes} {t : CivilTime} :
    readCivil bytes = .ok t ↔ Shaped bytes ∧ t = civilTime bytes := by
  simp only [readCivil,bind_eq_ok,exists_unit,ensure_eq_ok,each_eq_ok,pure_eq,ok.injEq]
  have hseparators : ∀ hlength : bytes.length = 20,
      (∀ separator ∈ timestampSeparators, requireByte bytes separator = .ok ()) ↔
        timestampSeparators.all (fun separator =>
          bytes[separator.1]? = some (Text.ascii separator.2)) = true := by
    intro hlength
    rw [List.all_eq_true]
    refine forall₂_congr fun separator hmem => ?_
    have hbound : ∀ separator ∈ timestampSeparators, separator.1 < 20 := by decide
    have hlt : separator.1 < bytes.length := hlength ▸ hbound separator hmem
    rw [requireByte,byteAt,List.getElem?_eq_getElem hlt,expect_some,ok_bind,ensure_eq_ok,
      decide_eq_true_eq,Option.some.injEq]
  constructor
  · rintro ⟨hlength,hplaces,_,hyear,_,hmonth,_,hday,_,hhour,_,hminute,_,hsecond,rfl⟩
    rw [readNumber_eq_ok_iff (by decide) (by omega) (by decide)] at hyear hmonth hday
    rw [readNumber_eq_ok_iff (by decide) (by omega) (by decide)] at hhour hminute hsecond
    refine ⟨⟨hlength,(hseparators hlength).1 hplaces,?_⟩,?_⟩
    · rw [List.all_eq_true]
      intro i hi
      rw [decide_eq_true_eq,or_iff_not_imp_left,separator_places]
      intro hplace
      have hlt : i < bytes.length := hlength ▸ List.mem_range.1 hi
      have hbyte := List.getElem?_eq_getElem hlt
      rw [hbyte,Option.any_some]
      rcases (show i < 4 ∨ 5 ≤ i ∧ i < 7 ∨ 8 ≤ i ∧ i < 10 ∨ 11 ≤ i ∧ i < 13 ∨ 14 ≤ i ∧ i < 16 ∨
        17 ≤ i ∧ i < 19 by omega) with h | h | h | h | h | h
      · exact hyear.1 i _ (Nat.zero_le i) h hbyte
      · exact hmonth.1 i _ h.1 h.2 hbyte
      · exact hday.1 i _ h.1 h.2 hbyte
      · exact hhour.1 i _ h.1 h.2 hbyte
      · exact hminute.1 i _ h.1 h.2 hbyte
      · exact hsecond.1 i _ h.1 h.2 hbyte
    · rw [civilTime,hyear.2,hmonth.2,hday.2,hhour.2,hminute.2,hsecond.2]
  · rintro ⟨hshaped,rfl⟩
    have hlength := hshaped.1
    have hnumber : ∀ start stop, start ≤ stop → stop ≤ 20 → stop-start < 10 →
        (∀ i, start ≤ i → i < stop → i ∉ timestampSeparators.map Prod.fst) →
        readNumber bytes start stop = .ok (timestampNumber bytes start stop) := by
      intro start stop hle hstop hshort hplaces
      refine (readNumber_eq_ok_iff hle (hlength ▸ hstop) hshort).2 ⟨?_,rfl⟩
      intro i b hlow hhigh hi
      exact hshaped.digit hi (hplaces i hlow hhigh)
    simp only [separator_places] at hnumber
    exact ⟨hlength,(hseparators hlength).2 hshaped.2.1,
      _,hnumber 0 4 (by decide) (by decide) (by decide) (by omega),
      _,hnumber 5 7 (by decide) (by decide) (by decide) (by omega),
      _,hnumber 8 10 (by decide) (by decide) (by decide) (by omega),
      _,hnumber 11 13 (by decide) (by decide) (by decide) (by omega),
      _,hnumber 14 16 (by decide) (by decide) (by decide) (by omega),
      _,hnumber 17 19 (by decide) (by decide) (by decide) (by omega),rfl⟩

variable {value : String}

theorem validateTimestamp_eq_ok :
    validateTimestamp value = .ok () ↔ ∃ seconds, parseUtcSeconds value = .ok seconds := by
  have hcode : validateTimestamp value = .ok () ↔ Shaped (Text.bytes value) ∧
      (civilTime (Text.bytes value)).InRange (leap (civilTime (Text.bytes value)).year) := by
    unfold validateTimestamp
    dsimp only
    split
    · rename_i h
      exact iff_of_true rfl ⟨⟨h.1,h.2.1,h.2.2.1⟩,h.2.2.2⟩
    · rename_i h
      exact iff_of_false (by simp) fun hboth => h ⟨hboth.1.1,hboth.1.2.1,hboth.1.2.2,hboth.2⟩
  simp only [hcode,parseUtcSeconds_eq_ok,readCivil_eq_ok_iff]
  constructor
  · rintro ⟨hshaped,hrange⟩
    exact ⟨_,_,⟨hshaped,rfl⟩,hrange,rfl⟩
  · rintro ⟨_,_,⟨hshaped,rfl⟩,hrange,-⟩
    exact ⟨hshaped,hrange⟩

theorem Shaped.ascii (h : Shaped (Text.bytes value)) : ∀ c ∈ value.toList, c.toNat < 128 := by
  have hbytes := readCivil_bytes (readCivil_eq_ok_iff.2 ⟨h,rfl⟩)
  intro c hc
  exact (Text.ascii_of_bytes (fun b hb => (hbytes b hb).2.trans (by decide)) hc).1

theorem Shaped.bytes_eq (h : Shaped (Text.bytes value)) :
    Text.bytes value = value.toList.map fun c => UInt8.ofNat c.toNat := by
  have hbytes := Text.bytes_ascii h.ascii
  rwa [String.ofList_toList] at hbytes

theorem isDigit_of_isAsciiDigit {c : Char} (hascii : c.toNat < 128)
    (h : Text.isAsciiDigit (UInt8.ofNat c.toNat) = true) : c.isDigit = true := by
  have hn : (UInt8.ofNat c.toNat).toNat = c.toNat :=
    UInt8.toNat_ofNat_of_lt' (show c.toNat < 256 by omega)
  have hzero : (Text.ascii '0').toNat = 48 := rfl
  have hnine : (Text.ascii '9').toNat = 57 := rfl
  rw [Text.isAsciiDigit,Bool.and_eq_true,decide_eq_true_eq,decide_eq_true_eq,
    UInt8.le_iff_toNat_le,UInt8.le_iff_toNat_le,hn,hzero,hnine] at h
  rw [Char.isDigit,Bool.and_eq_true,decide_eq_true_eq,decide_eq_true_eq]
  exact ⟨UInt32.le_iff_toNat_le.2 h.1,UInt32.le_iff_toNat_le.2 h.2⟩

theorem foldl_bytes_eq {cs : List Char} (h : ∀ c ∈ cs, c.toNat < 128) (n : ℕ) :
    (cs.map fun c => UInt8.ofNat c.toNat).foldl (fun n byte => n*10+(byte.toNat-48)) n =
      Nat.ofDigitChars 10 cs n := by
  induction cs generalizing n with
  | nil => rfl
  | cons c cs ih =>
    rw [List.forall_mem_cons] at h
    have hc : (UInt8.ofNat c.toNat).toNat = c.toNat :=
      UInt8.toNat_ofNat_of_lt' (show c.toNat < 256 by omega)
    rw [List.map_cons,List.foldl_cons,hc,Nat.ofDigitChars_cons,mul_comm 10]
    exact ih h.2 _

theorem Shaped.number_eq {value : String} (h : Shaped (Text.bytes value)) {start stop : ℕ}
    (hlt : start < stop) (hstop : stop ≤ 20) (hshort : stop-start < 10)
    (hplaces : ∀ i, start ≤ i → i < stop → i ∉ timestampSeparators.map Prod.fst) :
    number value start stop = .ok (timestampNumber (Text.bytes value) start stop) := by
  have hascii := h.ascii
  have hbytes := h.bytes_eq
  have hlength : value.toList.length = 20 := by
    rw [← h.1,hbytes,List.length_map]
  have hslice : Text.slice value start stop =
      some (String.ofList ((value.toList.take stop).drop start)) :=
    Text.slice_ascii hascii hlt.le (hlength ▸ hstop)
  have hpiece : ∀ c ∈ (value.toList.take stop).drop start, c.toNat < 128 :=
    fun c hc => hascii c (List.mem_of_mem_take (List.mem_of_mem_drop hc))
  have hne : (value.toList.take stop).drop start ≠ [] := by
    rw [ne_eq,List.drop_eq_nil_iff,List.length_take]
    omega
  have hdigits : ((value.toList.take stop).drop start).all Char.isDigit = true := by
    rw [List.all_eq_true]
    intro c hc
    refine isDigit_of_isAsciiDigit (hpiece c hc) ?_
    have hmem : UInt8.ofNat c.toNat ∈ ((Text.bytes value).take stop).drop start := by
      rw [hbytes,← List.map_take,← List.map_drop]
      exact List.mem_map_of_mem hc
    obtain ⟨i,hlow,hhigh,hi⟩ := mem_slice_iff.1 hmem
    exact h.digit hi (hplaces i hlow hhigh)
  have hvalue : timestampNumber (Text.bytes value) start stop =
      Nat.ofDigitChars 10 ((value.toList.take stop).drop start) 0 := by
    rw [timestampNumber,hbytes,← List.map_take,← List.map_drop,foldl_bytes_eq hpiece]
  have hsmall : Nat.ofDigitChars 10 ((value.toList.take stop).drop start) 0 < 2^32 := by
    refine (Text.ofDigitChars_lt hdigits).trans_le ((Nat.pow_le_pow_right (by decide) ?_).trans
      (show 10^9 ≤ 2^32 by decide))
    rw [List.length_drop,List.length_take]
    omega
  rw [number,hslice,expect_some,ok_bind,Text.parseUnsigned_digits hne hdigits,if_pos hsmall,hvalue]
  rfl

theorem maxDay_bind (leap : Bool) (month : ℕ) (P : ℕ → Prop) [DecidablePred P] (day : ℕ)
    (hday : ∀ n, P n → 1 ≤ day ∧ day ≤ n) :
    (maxDay leap month >>= fun maxDay => ensure (P maxDay) .invalidTimestamp) =
      ensure (P (daysInMonth leap month)) .invalidTimestamp := by
  unfold maxDay daysInMonth
  split_ifs
  · rfl
  · rfl
  · rfl
  · rfl
  · rw [err_bind,ensure,if_neg]
    intro hzero
    have := hday 0 hzero
    omega

theorem inRange_iff {leap : Bool} {t : CivilTime} :
    t.InRange leap ↔ t.year ≠ 0 ∧ (1 ≤ t.day ∧ t.day ≤ daysInMonth leap t.month) ∧ t.hour < 24 ∧
      t.minute < 60 ∧ t.second < 60 := by
  rw [CivilTime.InRange]
  omega

/-- The parser of the journal never panics, and decides as its summary does. -/
theorem validateTimestampSteps_eq (value : String) :
    validateTimestampSteps value = Outcome.ofExcept (validateTimestamp value) := by
  by_cases h : Shaped (Text.bytes value)
  · have hnumber := @Shaped.number_eq value h
    simp only [separator_places] at hnumber
    have hsteps : validateTimestampSteps value =
        if (civilTime (Text.bytes value)).InRange (leap (civilTime (Text.bytes value)).year) then
          .ok () else .err .invalidTimestamp := by
      refine (if_pos h).trans ?_
      rw [hnumber (by decide) (by decide) (by decide) (by omega),ok_bind,
        hnumber (by decide) (by decide) (by decide) (by omega),ok_bind,
        hnumber (by decide) (by decide) (by decide) (by omega),ok_bind,
        hnumber (by decide) (by decide) (by decide) (by omega),ok_bind,
        hnumber (by decide) (by decide) (by decide) (by omega),ok_bind,
        hnumber (by decide) (by decide) (by decide) (by omega),ok_bind]
      refine (maxDay_bind _ _ (fun maxDay => _ ∧ (_ ∧ _ ≤ maxDay) ∧ _) _ fun n hn => hn.2.1).trans ?_
      exact if_congr (inRange_iff (t := civilTime (Text.bytes value))).symm rfl rfl
    have hsummary : validateTimestamp value =
        if (civilTime (Text.bytes value)).InRange (leap (civilTime (Text.bytes value)).year) then
          .ok () else .error .invalidTimestamp := by
      unfold validateTimestamp
      dsimp only
      refine if_congr ⟨fun hall => hall.2.2.2,fun hrange => ⟨h.1,h.2.1,h.2.2,hrange⟩⟩ rfl rfl
    rw [hsteps,hsummary]
    split <;> rfl
  · have hsteps : validateTimestampSteps value = .err .invalidTimestamp := if_neg h
    have hsummary : validateTimestamp value = .error .invalidTimestamp :=
      if_neg fun hall => h ⟨hall.1,hall.2.1,hall.2.2.1⟩
    rw [hsteps,hsummary]
    rfl

end RunJournal

theorem requireTimestamp_eq_ok {field value : String} :
    Receipt.requireTimestamp field value = .ok () ↔
      ∃ seconds, parseUtcSeconds value = .ok seconds := by
  constructor
  · exact parseUtcSeconds_of_requireTimestamp
  · rintro ⟨seconds,h⟩
    exact requireTimestamp_of_parse h

theorem validateTimestampSteps_eq_ok {value : String} :
    RunJournal.validateTimestampSteps value = .ok () ↔
      ∃ seconds, parseUtcSeconds value = .ok seconds := by
  rw [RunJournal.validateTimestampSteps_eq,← RunJournal.validateTimestamp_eq_ok]
  cases RunJournal.validateTimestamp value <;> simp [Outcome.ofExcept]

theorem parseUtcSeconds_of_format {s : UInt64} {text : String}
    (h : Run.formatUnixUtc s = .ok text) : ∃ seconds, parseUtcSeconds text = .ok seconds := by
  obtain ⟨t,hrange,hseconds,hrun,-⟩ := exists_formatUnixUtc s
  rw [hrun,bind_eq_ok] at h
  obtain ⟨_,hyear,htext⟩ := h
  rw [ensure_eq_ok] at hyear
  rw [ok.injEq] at htext
  exact ⟨_,parseUtcSeconds_eq_ok_text.2 ⟨t,t.fits hrange hyear,hrange,htext.symm,hseconds⟩⟩

theorem checkFreshness_valid_time {run : RunEvidence} {seconds evaluatedAt : ℤ}
    {policy : VerificationPolicyV1} {findings : List VerificationFindingV1}
    (hparse : parseUtcSeconds run.finishedAtUtc = .ok seconds)
    (h : checkFreshness run policy evaluatedAt = .ok findings) :
    ∀ finding ∈ findings, finding.code ≠ "policy.invalid_time" := by
  rw [checkFreshness,hparse] at h
  dsimp only at h
  split at h
  · obtain rfl := Outcome.ok.inj h
    simp
  · obtain ⟨age,-,hfindings⟩ := bind_eq_ok.1 h
    obtain rfl := Outcome.ok.inj hfindings
    rw [require]
    split <;> simp

theorem checkContents_code {view : ReceiptPolicyView} {policy : VerificationPolicyV1}
    {expectedCommit : String} :
    ∀ finding ∈ checkContents view policy expectedCommit,
      finding.code ≠ "policy.invalid_time" := by
  have hrequire : ∀ (condition : Prop) [Decidable condition] (finding : VerificationFindingV1),
      finding.code ≠ "policy.invalid_time" →
      ∀ f ∈ require condition finding, f.code ≠ "policy.invalid_time" := by
    intro condition _ finding hcode f hf
    rw [require] at hf
    split at hf
    · simp at hf
    · rwa [List.mem_singleton.1 hf]
  intro finding hfinding
  simp only [checkContents,List.mem_append] at hfinding
  rcases hfinding with (((((((h | h) | h) | h) | h) | h) | h) | h) | h
  all_goals exact hrequire _ _ (by decide) _ h

/-- Receipts, the verifier and the journal accept the same texts, among them all that the clock of
a run writes, so the verifier never finds the time of a valid receipt unreadable. -/
theorem timestamp_grammar :
    (∀ field value : String,
      (Receipt.requireTimestamp field value = .ok () ↔
        ∃ seconds, parseUtcSeconds value = .ok seconds) ∧
      (RunJournal.validateTimestampSteps value = .ok () ↔
        ∃ seconds, parseUtcSeconds value = .ok seconds) ∧
      Receipt.requireTimestamp field value ≠ .panic ∧ parseUtcSeconds value ≠ .panic ∧
      RunJournal.validateTimestampSteps value ≠ .panic) ∧
    (∀ (s : UInt64) (text : String), Run.formatUnixUtc s = .ok text →
      (∀ field, Receipt.requireTimestamp field text = .ok ()) ∧
      (∃ seconds, parseUtcSeconds text = .ok seconds) ∧
      RunJournal.validateTimestampSteps text = .ok ()) ∧
    ∀ receipt : VerifiedReceipt, receipt.common.validate = .ok () →
      (∃ seconds, parseUtcSeconds receipt.common.run.startedAtUtc = .ok seconds) ∧
      (∃ seconds, parseUtcSeconds receipt.common.run.finishedAtUtc = .ok seconds) ∧
      ∀ policy expectedCommit evaluatedAt findings,
        evaluatePolicy receipt.view policy expectedCommit evaluatedAt = .ok findings →
        ∀ finding ∈ findings, finding.code ≠ "policy.invalid_time" := by
  refine ⟨fun field value => ⟨requireTimestamp_eq_ok,validateTimestampSteps_eq_ok,
    requireTimestamp_ne_panic field value,parseUtcSeconds_ne_panic value,?_⟩,
    fun s text h => ?_,fun receipt hvalid => ?_⟩
  · rw [RunJournal.validateTimestampSteps_eq]
    cases RunJournal.validateTimestamp value <;> simp [Outcome.ofExcept]
  · have hparse := parseUtcSeconds_of_format h
    exact ⟨fun field => requireTimestamp_eq_ok.2 hparse,hparse,
      validateTimestampSteps_eq_ok.2 hparse⟩
  · have hfields := (ReceiptCommon.validate_eq_ok.1 hvalid).1
    simp only [ReceiptCommon.validateFields,bind_eq_ok,exists_unit] at hfields
    obtain ⟨-,-,-,-,-,-,hstarted,hfinished,-⟩ := hfields
    rw [requireTimestamp_eq_ok] at hstarted hfinished
    refine ⟨hstarted,hfinished,fun policy expectedCommit evaluatedAt findings hfindings => ?_⟩
    obtain ⟨seconds,hseconds⟩ := hfinished
    obtain ⟨freshness,hfreshness,hall⟩ := bind_eq_ok.1 hfindings
    obtain rfl := Outcome.ok.inj hall
    intro finding hfinding
    rcases List.mem_append.1 hfinding with hcontents | hfresh
    · exact checkContents_code finding hcontents
    · exact checkFreshness_valid_time hseconds hfreshness finding hfresh

theorem timestamp_grammar_sample :
    RunJournal.validateTimestampSteps "2026-08-29T10:00:00Z" = .ok () ∧
      ∃ seconds, parseUtcSeconds ReceiptV1.sample.run.finishedAtUtc = .ok seconds := by
  have hvalid : ReceiptV1.sample.common.validate = .ok () := by decide +kernel
  have hformat : Run.formatUnixUtc 1787997600 = .ok "2026-08-29T10:00:00Z" := by decide +kernel
  exact ⟨(timestamp_grammar.2.1 _ _ hformat).2.2,
    (timestamp_grammar.2.2 (.v1 ⟨"",ReceiptV1.sample⟩) hvalid).2.1⟩

end CommitCiPreflight
