import CommitCiPreflight.Outcome
import CommitCiPreflight.Text

/-! UTC timestamps of the form `2026-08-29T10:00:00Z`. A byte index, a slice and every
integer operation of the source is a step that may panic; none of them does. -/
namespace CommitCiPreflight

open Outcome

section Bytes

variable {ε : Type}

/-- `bytes[index]`. -/
def byteAt (bytes : List UInt8) (index : ℕ) : Outcome ε UInt8 := expect bytes[index]?

/-- `&bytes[start..stop]`. -/
def byteSlice (bytes : List UInt8) (start stop : ℕ) : Outcome ε (List UInt8) :=
  if start ≤ stop ∧ stop ≤ bytes.length then .ok ((bytes.take stop).drop start) else .panic

def u32 (x : ℕ) : Outcome ε ℕ := if x < 2^32 then .ok x else .panic

end Bytes

def decimalDigit (value : ℕ) (byte : UInt8) : Outcome Unit ℕ :=
  if Text.isAsciiDigit byte then u32 (value*10+(byte.toNat-48)) else .err ()

/-- `parse_decimal` of `receipt.rs` and `decimal` of `verify.rs`, which are the same. -/
def parseDecimal (bytes : List UInt8) : Outcome Unit ℕ := fold decimalDigit 0 bytes

structure CivilTime where
  (year month day hour minute second : ℕ)
  deriving DecidableEq

/-- `bytes[4] == b'-'` and its like. -/
def requireByte (bytes : List UInt8) (separator : ℕ × Char) : Outcome Unit Unit := do
  let byte ← byteAt bytes separator.1
  ensure (byte = Text.ascii separator.2) ()

/-- `parse_decimal(&bytes[start..stop])`. -/
def readNumber (bytes : List UInt8) (start stop : ℕ) : Outcome Unit ℕ := do
  let digits ← byteSlice bytes start stop
  parseDecimal digits

/-- The separators and the six numbers between them. -/
def readCivil (bytes : List UInt8) : Outcome Unit CivilTime := do
  ensure (bytes.length = 20) ()
  each (requireByte bytes) [(4,'-'),(7,'-'),(10,'T'),(13,':'),(16,':'),(19,'Z')]
  let year ← readNumber bytes 0 4
  let month ← readNumber bytes 5 7
  let day ← readNumber bytes 8 10
  let hour ← readNumber bytes 11 13
  let minute ← readNumber bytes 14 16
  let second ← readNumber bytes 17 19
  return ⟨year,month,day,hour,minute,second⟩

def daysInMonth (leap : Bool) (month : ℕ) : ℕ :=
  if month ∈ [1,3,5,7,8,10,12] then 31
  else if month ∈ [4,6,9,11] then 30
  else if month = 2 then if leap then 29 else 28
  else 0

def CivilTime.InRange (leap : Bool) (t : CivilTime) : Prop :=
  0 < t.year ∧ (1 ≤ t.day ∧ t.day ≤ daysInMonth leap t.month) ∧ t.hour ≤ 23 ∧ t.minute ≤ 59 ∧
    t.second ≤ 59

instance (leap : Bool) (t : CivilTime) : Decidable (t.InRange leap) :=
  inferInstanceAs (Decidable (_ ∧ _))

/-- The leap year test of `parse_utc_seconds`. -/
def leap (year : ℕ) : Bool := year%4 == 0 && (year%100 != 0 || year%400 == 0)

def divisibleBy (value divisor : ℕ) : Bool := value/divisor*divisor == value

/-- The leap year test of `require_timestamp`. -/
def leapYear (year : ℕ) : Bool :=
  divisibleBy year 4 && (!divisibleBy year 100 || divisibleBy year 400)

/-- `checked_mul` and `checked_add` on `i64`. -/
def checkedI64 (x : ℤ) : Outcome Unit ℤ := if -2^63 ≤ x ∧ x < 2^63 then .ok x else .err ()

theorem checkedI64_eq_ok {x : ℤ} (hlow : -2^63 ≤ x) (hhigh : x < 2^63) :
    checkedI64 x = .ok x := if_pos ⟨hlow,hhigh⟩

/-- The days since 1970 by the arithmetic of `parse_utc_seconds`, one operator a line;
`div_euclid` is the division of `ℤ` and `/` truncates. -/
def civilDays (t : CivilTime) : Outcome Unit ℤ := do
  let adjustedYear ← i64 (t.year-if t.month ≤ 2 then 1 else 0)
  let era := adjustedYear/400
  let eraYears ← i64 (era*400)
  let yearOfEra ← i64 (adjustedYear-eraYears)
  let shiftedMonth ← i64 (t.month+if t.month > 2 then -3 else 9)
  let scaledMonth ← i64 (153*shiftedMonth)
  let scaledMonth ← i64 (scaledMonth+2)
  let dayOfYear ← i64 (scaledMonth.tdiv 5+t.day)
  let dayOfYear ← i64 (dayOfYear-1)
  let dayOfEra ← i64 (yearOfEra*365)
  let dayOfEra ← i64 (dayOfEra+yearOfEra.tdiv 4)
  let dayOfEra ← i64 (dayOfEra-yearOfEra.tdiv 100)
  let dayOfEra ← i64 (dayOfEra+dayOfYear)
  let eraDays ← i64 (era*146097)
  let days ← i64 (eraDays+dayOfEra)
  i64 (days-719468)

def civilSeconds (t : CivilTime) : Outcome Unit ℤ := do
  let days ← civilDays t
  let seconds ← checkedI64 (days*86400)
  let hours ← i64 (t.hour*3600)
  let minutes ← i64 (t.minute*60)
  let clock ← i64 (hours+minutes)
  let clock ← i64 (clock+t.second)
  checkedI64 (seconds+clock)

/-- `None` is the error. -/
def parseUtcSeconds (value : String) : Outcome Unit ℤ := do
  let t ← readCivil (Text.bytes value)
  ensure (t.InRange (leap t.year)) ()
  civilSeconds t

variable {bytes : List UInt8}

theorem parseDecimal_spec (h : bytes.length < 10) :
    parseDecimal bytes ≠ .panic ∧ ∀ n, parseDecimal bytes = .ok n → n < 10^bytes.length := by
  have hfold : ∀ (bytes : List UInt8) (value k : ℕ), k+bytes.length < 10 → value < 10^k →
      fold decimalDigit value bytes ≠ .panic ∧
        ∀ n, fold decimalDigit value bytes = .ok n → n < 10^(k+bytes.length) := by
    intro bytes
    induction bytes with
    | nil =>
      intro value k _ hvalue
      exact ⟨by simp,fun n hn => by simp_all⟩
    | cons byte bytes ih =>
      intro value k hk hvalue
      rw [List.length_cons] at hk ⊢
      rw [fold_cons]
      by_cases hdigit : Text.isAsciiDigit byte = true
      · have hbyte : byte.toNat-48 ≤ 9 := by
          have hle : byte.toNat ≤ 57 := by
            have hboth := Bool.and_eq_true_iff.1 hdigit
            exact UInt8.le_iff_toNat_le.1 (of_decide_eq_true hboth.2)
          omega
        have hnext : value*10+(byte.toNat-48) < 10^(k+1) := by
          rw [pow_succ]
          omega
        have hbound : (10 : ℕ)^(k+1) ≤ 10^9 := Nat.pow_le_pow_right (by decide) (by omega)
        have hstep : decimalDigit value byte = .ok (value*10+(byte.toNat-48)) := by
          rw [decimalDigit,if_pos hdigit,u32,if_pos (by omega)]
        rw [hstep,ok_bind]
        have hrest := ih (value*10+(byte.toNat-48)) (k+1) (by omega) hnext
        rwa [show k+(bytes.length+1) = k+1+bytes.length by omega]
      · rw [decimalDigit,if_neg hdigit]
        simp
  simpa [parseDecimal] using hfold bytes 0 0 (by omega) (by simp)

theorem requireByte_ne_panic {separator : ℕ × Char} (h : separator.1 < bytes.length) :
    requireByte bytes separator ≠ .panic := by
  rw [requireByte,byteAt,List.getElem?_eq_getElem h,expect_some,ok_bind]
  exact ensure_ne_panic _ _

theorem readNumber_spec {start stop : ℕ} (hle : start ≤ stop) (hstop : stop ≤ bytes.length)
    (hshort : stop-start < 10) :
    readNumber bytes start stop ≠ .panic ∧
      ∀ n, readNumber bytes start stop = .ok n → n < 10^(stop-start) := by
  have hlength : ((bytes.take stop).drop start).length = stop-start := by simp [hstop]
  have hspec := parseDecimal_spec (hlength.trans_lt hshort)
  rw [hlength] at hspec
  rwa [readNumber,byteSlice,if_pos ⟨hle,hstop⟩,ok_bind]

theorem readCivil_ne_panic (bytes : List UInt8) : readCivil bytes ≠ .panic := by
  refine bind_ne_panic (ensure_ne_panic _ _) fun _ hlength => ?_
  rw [ensure_eq_ok] at hlength
  have hnumber : ∀ start stop, start ≤ stop → stop ≤ 20 → stop-start < 10 →
      readNumber bytes start stop ≠ .panic :=
    fun _ _ hle hstop hshort => (readNumber_spec hle (hlength ▸ hstop) hshort).1
  refine bind_ne_panic (each_ne_panic ?_) fun _ _ => ?_
  · intro separator hmem
    refine requireByte_ne_panic (hlength ▸ ?_)
    revert separator
    decide
  refine bind_ne_panic (hnumber 0 4 (by decide) (by decide) (by decide)) fun _ _ => ?_
  refine bind_ne_panic (hnumber 5 7 (by decide) (by decide) (by decide)) fun _ _ => ?_
  refine bind_ne_panic (hnumber 8 10 (by decide) (by decide) (by decide)) fun _ _ => ?_
  refine bind_ne_panic (hnumber 11 13 (by decide) (by decide) (by decide)) fun _ _ => ?_
  refine bind_ne_panic (hnumber 14 16 (by decide) (by decide) (by decide)) fun _ _ => ?_
  refine bind_ne_panic (hnumber 17 19 (by decide) (by decide) (by decide)) fun _ _ => ?_
  simp

theorem readCivil_year_lt {t : CivilTime} (h : readCivil bytes = .ok t) : t.year < 10000 := by
  simp only [readCivil,bind_eq_ok,exists_unit,ensure_eq_ok,pure_eq,ok.injEq] at h
  obtain ⟨hlength,-,year,hyear,_,-,_,-,_,-,_,-,_,-,rfl⟩ := h
  exact (readNumber_spec (by decide) (by omega) (by decide)).2 year hyear

theorem divisibleBy_eq (value divisor : ℕ) : divisibleBy value divisor = (value%divisor == 0) := by
  rw [Bool.eq_iff_iff,divisibleBy,beq_iff_eq,beq_iff_eq,← Nat.dvd_iff_mod_eq_zero]
  constructor
  · intro h
    exact ⟨value/divisor,by rw [mul_comm,h]⟩
  · exact Nat.div_mul_cancel

theorem leapYear_eq_leap (year : ℕ) : leapYear year = leap year := by
  simp [leapYear,leap,divisibleBy_eq,bne]

theorem daysInMonth_le (leap : Bool) (month : ℕ) : daysInMonth leap month ≤ 31 := by
  unfold daysInMonth
  split_ifs <;> decide

theorem month_mem_of_daysInMonth {leap : Bool} {month : ℕ} (h : 0 < daysInMonth leap month) :
    1 ≤ month ∧ month ≤ 12 := by
  simp only [daysInMonth,List.mem_cons,List.not_mem_nil,or_false] at h
  split_ifs at h <;> omega

def CivilTime.days (t : CivilTime) : ℤ :=
  let adjustedYear : ℤ := t.year-if t.month ≤ 2 then 1 else 0
  let yearOfEra := adjustedYear%400
  let shiftedMonth : ℤ := t.month+if t.month > 2 then -3 else 9
  let dayOfYear := (153*shiftedMonth+2)/5+t.day-1
  let dayOfEra := yearOfEra*365+yearOfEra/4-yearOfEra/100+dayOfYear
  adjustedYear/400*146097+dayOfEra-719468

def CivilTime.seconds (t : CivilTime) : ℤ :=
  t.days*86400+(t.hour*3600+t.minute*60+t.second)

section Overflow

variable {leap : Bool} {t : CivilTime}

/-- No operator of the source overflows on a date in range. -/
theorem civilDays_eq (hrange : t.InRange leap) (hyear : t.year < 10000) :
    civilDays t = .ok t.days ∧ -10^7 < t.days ∧ t.days < 10^7 := by
  obtain ⟨hpositive,⟨hday,hdays⟩,-⟩ := hrange
  obtain ⟨hmonth,hmonths⟩ := month_mem_of_daysInMonth (by omega : 0 < daysInMonth leap t.month)
  have hday31 := hdays.trans (daysInMonth_le leap t.month)
  have hadjusted : ∃ y : ℤ, (t.year-if t.month ≤ 2 then 1 else 0 : ℤ) = y ∧ 0 ≤ y ∧ y < 10000 :=
    ⟨_,rfl,by split <;> omega,by split <;> omega⟩
  have hshifted : ∃ m : ℤ, (t.month+if t.month > 2 then -3 else 9 : ℤ) = m ∧ 0 ≤ m ∧ m < 12 :=
    ⟨_,rfl,by split <;> omega,by split <;> omega⟩
  obtain ⟨y,hy,hy₀,hy₁⟩ := hadjusted
  obtain ⟨m,hm,hm₀,hm₁⟩ := hshifted
  have hera : y-y/400*400 = y%400 := by omega
  rw [civilDays,CivilTime.days,hy,hm]
  refine ⟨?_,by omega,by omega⟩
  simp (disch := omega) only [i64_eq_ok,ok_bind,hera,Int.tdiv_eq_ediv_of_nonneg]

theorem civilSeconds_eq (hrange : t.InRange leap) (hyear : t.year < 10000) :
    civilSeconds t = .ok t.seconds := by
  obtain ⟨hdays,hlow,hhigh⟩ := civilDays_eq hrange hyear
  obtain ⟨-,-,hhour,hminute,hsecond⟩ := hrange
  rw [civilSeconds,hdays,ok_bind,CivilTime.seconds]
  generalize t.days = days at hlow hhigh ⊢
  rw [checkedI64_eq_ok (by omega) (by omega),ok_bind,i64_eq_ok (by omega) (by omega),ok_bind,
    i64_eq_ok (by omega) (by omega),ok_bind,i64_eq_ok (by omega) (by omega),ok_bind,
    i64_eq_ok (by omega) (by omega),ok_bind,checkedI64_eq_ok (by omega) (by omega)]

end Overflow

theorem parseUtcSeconds_eq_ok {value : String} {seconds : ℤ} :
    parseUtcSeconds value = .ok seconds ↔
      ∃ t, readCivil (Text.bytes value) = .ok t ∧ t.InRange (leap t.year) ∧
        t.seconds = seconds := by
  simp only [parseUtcSeconds,bind_eq_ok,exists_unit,ensure_eq_ok]
  refine exists_congr fun t => and_congr_right fun ht => and_congr_right fun hrange => ?_
  rw [civilSeconds_eq hrange (readCivil_year_lt ht),ok.injEq]

theorem parseUtcSeconds_ne_panic (value : String) : parseUtcSeconds value ≠ .panic := by
  refine bind_ne_panic (readCivil_ne_panic _) fun t ht => ?_
  refine bind_ne_panic (ensure_ne_panic _ _) fun _ hrange => ?_
  rw [ensure_eq_ok] at hrange
  rw [civilSeconds_eq hrange (readCivil_year_lt ht)]
  simp

example : parseUtcSeconds "2000-02-29T00:00:01Z" = .ok 951782401 := by decide +kernel

end CommitCiPreflight
