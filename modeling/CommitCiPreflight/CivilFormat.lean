import CommitCiPreflight.Calendar
import CommitCiPreflight.Padded
import CommitCiPreflight.Timestamp
import Mathlib.Tactic.IntervalCases

/-! The clock's timestamps: `format_unix_utc` of `run.rs`, which writes the times of a run, and
of `verify.rs`, which writes the time of an evaluation, against `parse_utc_seconds`. -/
namespace CommitCiPreflight

open Outcome Calendar

/-- `format!("{n:0width$}")` of a signed number. -/
def Text.paddedInt (width : ℕ) (n : ℤ) : String :=
  if n < 0 then "-"++padded (width-1) n.natAbs else padded width n.toNat

/-- `u64::try_from(n).ok()?`. -/
def tryFromI64 (n : ℤ) : Outcome Unit ℕ := if 0 ≤ n then .ok n.toNat else .err ()

def yearOfEra (dayOfEra : ℤ) : Outcome Unit ℤ := do
  let days ← i64 (dayOfEra-dayOfEra.tdiv 1460)
  let days ← i64 (days+dayOfEra.tdiv 36524)
  let days ← i64 (days-dayOfEra.tdiv 146096)
  return days.tdiv 365

def daysBeforeYear (yearOfEra : ℤ) : Outcome Unit ℤ := do
  let days ← i64 (365*yearOfEra)
  let days ← i64 (days+yearOfEra.tdiv 4)
  i64 (days-yearOfEra.tdiv 100)

def monthAndDay (dayOfYear : ℤ) : Outcome Unit (ℤ × ℤ) := do
  let scaledDay ← i64 (5*dayOfYear)
  let scaledDay ← i64 (scaledDay+2)
  let monthPrime := scaledDay.tdiv 153
  let scaledMonth ← i64 (153*monthPrime)
  let scaledMonth ← i64 (scaledMonth+2)
  let day ← i64 (dayOfYear-scaledMonth.tdiv 5)
  let day ← i64 (day+1)
  let month ← i64 (monthPrime+if monthPrime < 10 then 3 else -9)
  return (month,day)

namespace Run

def civilFromDays (daysSinceEpoch : ℤ) : Outcome Unit (ℤ × ℤ × ℤ) := do
  let z ← i64 (daysSinceEpoch+719468)
  let eraStart ← if 0 ≤ z then pure z else i64 (z-146096)
  let era := eraStart.tdiv 146097
  let eraDays ← i64 (era*146097)
  let dayOfEra ← i64 (z-eraDays)
  let yearOfEra ← yearOfEra dayOfEra
  let eraYears ← i64 (era*400)
  let year ← i64 (yearOfEra+eraYears)
  let yearDays ← daysBeforeYear yearOfEra
  let dayOfYear ← i64 (dayOfEra-yearDays)
  let (month,day) ← monthAndDay dayOfYear
  let year ← i64 (year+if month ≤ 2 then 1 else 0)
  return (year,month,day)

/-- `RunError::Clock` is the only error. -/
def formatUnixUtc (seconds : UInt64) : Outcome Unit String := do
  let days ← checkedI64 (seconds.toNat/86400 : ℕ)
  let daySeconds := seconds.toNat%86400
  let hour := daySeconds/3600
  let minute := daySeconds%3600/60
  let second := daySeconds%60
  let (year,month,day) ← civilFromDays days
  ensure (1 ≤ year ∧ year ≤ 9999) ()
  return Text.paddedInt 4 year++"-"++Text.paddedInt 2 month++"-"++Text.paddedInt 2 day++"T"++
    Text.padded 2 hour++":"++Text.padded 2 minute++":"++Text.padded 2 second++"Z"

end Run

namespace Verify

/-- Unlike its namesake it checks some of its operators, and its month and day are unsigned. -/
def civilFromDays (daysSinceEpoch : ℤ) : Outcome Unit (ℤ × ℕ × ℕ) := do
  let shifted ← checkedI64 (daysSinceEpoch+719468)
  let eraStart ← if 0 ≤ shifted then pure shifted else checkedI64 (shifted-146096)
  let era := eraStart.tdiv 146097
  let eraDays ← checkedI64 (era*146097)
  let dayOfEra ← checkedI64 (shifted-eraDays)
  let yearOfEra ← yearOfEra dayOfEra
  let eraYears ← checkedI64 (era*400)
  let year ← checkedI64 (yearOfEra+eraYears)
  let yearDays ← daysBeforeYear yearOfEra
  let dayOfYear ← checkedI64 (dayOfEra-yearDays)
  let (month,day) ← monthAndDay dayOfYear
  let year ← i64 (year+if month ≤ 2 then 1 else 0)
  let month ← tryFromI64 month
  let day ← tryFromI64 day
  return (year,month,day)

/-- `None` is the error. -/
def formatUnixUtc (seconds : UInt64) : Outcome Unit String := do
  let days ← checkedI64 (seconds.toNat/86400 : ℕ)
  let secondsOfDay := seconds.toNat%86400
  let (year,month,day) ← civilFromDays days
  ensure (1 ≤ year ∧ year ≤ 9999) ()
  let hour := secondsOfDay/3600
  let minute := secondsOfDay%3600/60
  let second := secondsOfDay%60
  return Text.paddedInt 4 year++"-"++Text.padded 2 month++"-"++Text.padded 2 day++"T"++
    Text.padded 2 hour++":"++Text.padded 2 minute++":"++Text.padded 2 second++"Z"

end Verify

structure EraDay (dayOfEra century group year day : ℤ) : Prop where
  century_bounds : 0 ≤ century ∧ century ≤ 3
  group_bounds : 0 ≤ group ∧ group ≤ 24
  year_bounds : 0 ≤ year ∧ year ≤ 3
  day_bounds : 0 ≤ day ∧ day ≤ 365
  eq : dayOfEra = 36524*century+1461*group+365*year+day
  leap : day = 365 → year = 3 ∧ (group ≠ 24 ∨ century = 3)

variable {dayOfEra day : ℤ} {t : CivilTime} {bytes : List UInt8}

theorem exists_eraDay (hlow : 0 ≤ dayOfEra) (hhigh : dayOfEra < 146097) :
    ∃ century group year day, EraDay dayOfEra century group year day := by
  obtain ⟨century,hcentury⟩ : ∃ c, c = min (dayOfEra/36524) 3 := ⟨_,rfl⟩
  obtain ⟨rest,hrest⟩ : ∃ e, e = dayOfEra-36524*century := ⟨_,rfl⟩
  obtain ⟨year,hyear⟩ : ∃ y, y = min (rest%1461/365) 3 := ⟨_,rfl⟩
  exact ⟨century,rest/1461,year,rest%1461-365*year,by omega,by omega,by omega,by omega,by omega,
    by omega⟩

/-- The quotient of the source is the year of the era. -/
theorem EraDay.yearOfEra_eq {century group year : ℤ} (h : EraDay dayOfEra century group year day) :
    (dayOfEra-dayOfEra/1460+dayOfEra/36524-dayOfEra/146096)/365 = 100*century+4*group+year := by
  obtain ⟨hcentury,hgroup,hyear,hday,rfl,hleap⟩ := h
  have hleaps : (36524*century+1461*group+365*year+day)/1460 =
      25*century+group+(24*century+group+365*year+day)/1460 := by omega
  have hextra : (24*century+group+365*year+day)/1460 = 0 ∨
      (24*century+group+365*year+day)/1460 = 1 := by omega
  have hcenturies : (36524*century+1461*group+365*year+day)/36524 = century ∨
      (century = 3 ∧ group = 24 ∧ year = 3 ∧ day = 365) := by omega
  rcases hcenturies with hcenturies | ⟨rfl,rfl,rfl,rfl⟩
  · have hera : (36524*century+1461*group+365*year+day)/146096 = 0 := by omega
    rw [hleaps,hcenturies,hera]
    omega
  · rfl

theorem tryFromI64_eq_ok {n : ℕ} : tryFromI64 n = .ok n := by simp [tryFromI64]

theorem yearOfEra_eq (hlow : 0 ≤ dayOfEra) (hhigh : dayOfEra < 146097) :
    yearOfEra dayOfEra =
      .ok ((dayOfEra-dayOfEra/1460+dayOfEra/36524-dayOfEra/146096)/365) := by
  rw [yearOfEra]
  simp (disch := omega) only [i64_eq_ok,ok_bind,pure_eq,Int.tdiv_eq_ediv_of_nonneg]

theorem daysBeforeYear_eq {year : ℤ} (hlow : 0 ≤ year) (hhigh : year < 400) :
    daysBeforeYear year = .ok (365*year+year/4-year/100) := by
  rw [daysBeforeYear]
  simp (disch := omega) only [i64_eq_ok,ok_bind,Int.tdiv_eq_ediv_of_nonneg]

theorem monthAndDay_eq (hlow : 0 ≤ day) (hhigh : day < 366) :
    monthAndDay day = .ok ((5*day+2)/153+(if (5*day+2)/153 < 10 then 3 else -9),
      day-(153*((5*day+2)/153)+2)/5+1) := by
  rw [monthAndDay]
  simp (disch := omega) only [i64_eq_ok,ok_bind,pure_eq,Int.tdiv_eq_ediv_of_nonneg]

/-- Both modules find the same date, and no operator overflows. -/
theorem civilFromDays_eq {days era year : ℤ} {civil month d : ℕ} (hshifted : 0 ≤ days+719468)
    (hdays : days < 2^48) (hera : (days+719468)/146097 = era)
    (hdayOfEra : days+719468-era*146097 = dayOfEra) (hyears : yearOfEra dayOfEra = .ok year)
    (hyear : 0 ≤ year ∧ year < 400) (hday : dayOfEra-(365*year+year/4-year/100) = day)
    (hmonth : monthAndDay day = .ok (month,d))
    (hcivil : year+era*400+(if (month : ℤ) ≤ 2 then 1 else 0) = civil) :
    Run.civilFromDays days = .ok (civil,month,d) ∧
      Verify.civilFromDays days = .ok (civil,month,d) := by
  have hera_bounds : 0 ≤ era ∧ era < 2^40 := by omega
  have hdayOfEra_bounds : 0 ≤ dayOfEra ∧ dayOfEra < 146097 := by omega
  have hcivil_bounds : (civil : ℤ) < 2^60 := by
    rw [← hcivil]
    split <;> omega
  have hbefore := daysBeforeYear_eq hyear.1 hyear.2
  have hcivil' : (i64 (year+era*400+if (month : ℤ) ≤ 2 then 1 else 0) : Outcome Unit ℤ) =
      .ok (civil : ℤ) := by
    rw [hcivil]
    exact i64_eq_ok (by omega) (by omega)
  constructor
  · rw [Run.civilFromDays,i64_eq_ok (by omega) (by omega),ok_bind,if_pos hshifted,pure_eq,ok_bind]
    dsimp only
    rw [Int.tdiv_eq_ediv_of_nonneg hshifted,hera,i64_eq_ok (by omega) (by omega),ok_bind,hdayOfEra,
      i64_eq_ok (by omega) (by omega),ok_bind,hyears,ok_bind,i64_eq_ok (by omega) (by omega),ok_bind,
      i64_eq_ok (by omega) (by omega),ok_bind,hbefore,ok_bind,hday,i64_eq_ok (by omega) (by omega),ok_bind,
      hmonth,ok_bind]
    dsimp only
    rw [hcivil',ok_bind]
    rfl
  · rw [Verify.civilFromDays,checkedI64_eq_ok (by omega) (by omega),ok_bind,if_pos hshifted,pure_eq,ok_bind]
    dsimp only
    rw [Int.tdiv_eq_ediv_of_nonneg hshifted,hera,checkedI64_eq_ok (by omega) (by omega),ok_bind,hdayOfEra,
      checkedI64_eq_ok (by omega) (by omega),ok_bind,hyears,ok_bind,checkedI64_eq_ok (by omega) (by omega),ok_bind,
      checkedI64_eq_ok (by omega) (by omega),ok_bind,hbefore,ok_bind,hday,checkedI64_eq_ok (by omega) (by omega),ok_bind,
      hmonth,ok_bind]
    dsimp only
    rw [hcivil',ok_bind]
    rw [tryFromI64_eq_ok,ok_bind,tryFromI64_eq_ok,ok_bind,pure_eq]

theorem exists_monthAndDay (hlow : 0 ≤ day) (hhigh : day < 366) :
    ∃ month d : ℕ, monthAndDay day = .ok (month,d) ∧
      (∀ leap, (day = 365 → leap = true) → 1 ≤ d ∧ d ≤ daysInMonth leap month) ∧
      (153*(month+if (month : ℤ) > 2 then -3 else 9)+2)/5+d-1 = day := by
  obtain ⟨m,hm⟩ : ∃ m, m = (5*day+2)/153 := ⟨_,rfl⟩
  obtain ⟨d,hd⟩ : ∃ d : ℕ, (d : ℤ) = day-(153*m+2)/5+1 := ⟨(day-(153*m+2)/5+1).toNat,by omega⟩
  have heq := monthAndDay_eq hlow hhigh
  rw [← hm,← hd] at heq
  obtain ⟨month,hmonth⟩ : ∃ month : ℕ, (month : ℤ) = m+(if m < 10 then 3 else -9) :=
    ⟨(m+(if m < 10 then 3 else -9)).toNat,by split <;> omega⟩
  rw [← hmonth] at heq
  refine ⟨month,d,heq,fun leap hleap => ?_,?_⟩
  · have hm₀ : 0 ≤ m := by omega
    have hm₁ : m ≤ 11 := by omega
    have hlength : (day = 365 → leap = true) → d ≤ daysInMonth leap month := by
      interval_cases m
      all_goals
        norm_num at hmonth
        norm_cast at hmonth
        subst hmonth
        cases leap <;> simp [daysInMonth] <;> omega
    exact ⟨by omega,hlength hleap⟩
  · split at hmonth <;> split <;> omega

theorem leap_eq_true {year : ℕ} : leap year = true ↔ IsLeap year := by
  simp [leap,IsLeap]

theorem exists_civilFromDays {days : ℤ} (hlow : 0 ≤ days) (hhigh : days < 2^48) :
    ∃ year month day : ℕ, Run.civilFromDays days = .ok (year,month,day) ∧
      Verify.civilFromDays days = .ok (year,month,day) ∧ 0 < year ∧
      (1 ≤ day ∧ day ≤ daysInMonth (leap year) month) ∧
      ∀ hour minute second, (CivilTime.mk year month day hour minute second).days = days := by
  obtain ⟨era,hera⟩ : ∃ era, (days+719468)/146097 = era := ⟨_,rfl⟩
  obtain ⟨dayOfEra,hdayOfEra⟩ : ∃ dayOfEra, days+719468-era*146097 = dayOfEra := ⟨_,rfl⟩
  have hera_bounds : 0 ≤ era := by omega
  have hlow' : 0 ≤ dayOfEra := by omega
  have hhigh' : dayOfEra < 146097 := by omega
  obtain ⟨century,group,rest,day,heraDay⟩ := exists_eraDay hlow' hhigh'
  obtain ⟨year,hyear⟩ : ∃ year, year = 100*century+4*group+rest := ⟨_,rfl⟩
  have hyears := yearOfEra_eq hlow' hhigh'
  rw [heraDay.yearOfEra_eq,← hyear] at hyears
  obtain ⟨hcentury,hgroup,hrest,hday,heq,hleap⟩ := heraDay
  have hyear_bounds : 0 ≤ year ∧ year < 400 := by omega
  have hgroups : year/4 = 25*century+group := by omega
  have hcenturies : year/100 = century := by omega
  have hdayOfYear : dayOfEra-(365*year+year/4-year/100) = day := by omega
  obtain ⟨month,d,hmonth,hd,hback⟩ := exists_monthAndDay hday.1 (Int.lt_add_one_of_le hday.2)
  obtain ⟨civil,hcivil⟩ : ∃ civil : ℕ,
      year+era*400+(if (month : ℤ) ≤ 2 then 1 else 0) = (civil : ℤ) :=
    ⟨(year+era*400+(if (month : ℤ) ≤ 2 then 1 else 0)).toNat,by split <;> omega⟩
  have hleap' : day = 365 → leap civil = true := by
    rintro rfl
    have hfebruary : monthAndDay 365 = .ok (2,29) := by decide
    rw [hfebruary,ok.injEq,Prod.mk.injEq] at hmonth
    rw [← hmonth.1,if_pos le_rfl] at hcivil
    rw [leap_eq_true,IsLeap]
    omega
  obtain ⟨hrun,hverify⟩ := civilFromDays_eq (by omega) hhigh hera hdayOfEra hyears hyear_bounds
    hdayOfYear hmonth hcivil
  refine ⟨civil,month,d,hrun,hverify,?_,hd _ hleap',fun _ _ _ => ?_⟩
  · have hera_large : 4 ≤ era := by omega
    split at hcivil <;> omega
  · have hadjusted : (civil : ℤ)-(if month ≤ 2 then 1 else 0) = year+era*400 := by
      rw [← hcivil]
      split <;> split <;> omega
    have hmonth' : ((month : ℤ)+if month > 2 then -3 else 9) =
        month+if (month : ℤ) > 2 then -3 else 9 := by
      split <;> split <;> omega
    have hquotient : (year+era*400)/400 = era := by omega
    have hremainder : (year+era*400)%400 = year := by omega
    simp only [CivilTime.days,hadjusted,hmonth',hback,hquotient,hremainder]
    omega

theorem daysInMonth_eq (year month : ℕ) : daysInMonth (leap year) month = monthLength year month := by
  unfold monthLength
  split
  case h_12 => by_cases hleap : IsLeap year <;> simp [daysInMonth,leap_eq_true,hleap]
  case h_13 => simp_all [daysInMonth]
  all_goals rfl

def CivilTime.instant (t : CivilTime) (h : t.InRange (leap t.year)) : Instant where
  year := t.year
  month := t.month
  day := t.day
  hour := t.hour
  minute := t.minute
  second := t.second
  day_pos := h.2.1.1
  day_le := daysInMonth_eq t.year t.month ▸ h.2.1.2
  hour_le := h.2.2.1
  minute_le := h.2.2.2.1
  second_le := h.2.2.2.2

/-- The days up to the first of March do not depend on whether the year is a leap year. -/
theorem march_first (year : ℕ) : yearStart year+monthStart year 3 =
    365*year+year/4-year/100+year/400-719468 := by
  rw [yearStart_eq]
  by_cases hleap : IsLeap year
  all_goals
    simp only [monthStart,monthLength,hleap,if_true,if_false]
    unfold IsLeap at hleap
    omega

theorem monthStart_march (year : ℕ) {month : ℕ} (hlow : 3 ≤ month) (hhigh : month ≤ 12) :
    (monthStart year month : ℤ) = monthStart year 3+(153*(month-3)+2)/5 := by
  interval_cases month <;> simp [monthStart,monthLength] <;> omega

theorem CivilTime.dayNumber_instant (h : t.InRange (leap t.year)) :
    (t.instant h).dayNumber = t.days := by
  obtain ⟨hmonth,hmonths⟩ := (t.instant h).month_bounds
  have hpositive := h.1
  simp only [instant] at hmonth hmonths
  simp only [Instant.dayNumber,instant,days]
  by_cases hmarch : 3 ≤ t.month
  · have hfirst := march_first t.year
    rw [monthStart_march t.year hmarch hmonths,if_neg (by omega),if_pos (by omega)]
    omega
  · rw [if_pos (by omega),if_neg (by omega),yearStart_eq]
    interval_cases hm : t.month
    all_goals
      simp only [monthStart,monthLength]
      omega

theorem decimalDigit_eq_ok {value n : ℕ} {byte : UInt8} (hvalue : value < 10^8) :
    decimalDigit value byte = .ok n ↔
      n/10 = value ∧ byte = UInt8.ofNat (48+n%10) := by
  have hdigit : Text.isAsciiDigit byte = true ↔ 48 ≤ byte.toNat ∧ byte.toNat ≤ 57 := by
    simp only [Text.isAsciiDigit,Bool.and_eq_true,decide_eq_true_eq,UInt8.le_iff_toNat_le]
    rfl
  have hbyte : ∀ k < 10, (UInt8.ofNat (48+k)).toNat = 48+k := fun k hk =>
    UInt8.toNat_ofNat_of_lt' (show 48+k < 256 by omega)
  rw [decimalDigit]
  constructor
  · intro h
    split at h
    case isTrue hbounds =>
      rw [hdigit] at hbounds
      rw [u32,if_pos (by omega),ok.injEq] at h
      refine ⟨by omega,UInt8.toNat_inj.1 ?_⟩
      rw [hbyte _ (by omega)]
      omega
    case isFalse => simp at h
  · rintro ⟨rfl,rfl⟩
    have hlast := hbyte (n%10) (by omega)
    rw [if_pos (hdigit.2 (by omega)),hlast,u32,if_pos (by omega),ok.injEq]
    omega

theorem bytes_padded_succ {width n : ℕ} (hwidth : 0 < width) :
    Text.bytes (Text.padded (width+1) n) =
      Text.bytes (Text.padded width (n/10))++[UInt8.ofNat (48+n%10)] := by
  have hdigit : ∀ k < 10, Text.bytes (String.ofList [k.digitChar]) = [UInt8.ofNat (48+k)] := by
    decide
  rw [Text.padded,Text.leftpad_toDigits_succ width n hwidth,String.ofList_append,Text.bytes_append,
    hdigit (n%10) (by omega)]
  rfl

theorem parseDecimal_concat (bytes : List UInt8) (byte : UInt8) :
    parseDecimal (bytes++[byte]) = parseDecimal bytes >>= fun value => decimalDigit value byte := by
  have hlast : ∀ value, fold decimalDigit value [byte] = decimalDigit value byte := by
    intro value
    rw [fold_cons]
    cases decimalDigit value byte <;> rfl
  rw [parseDecimal,fold_append]
  simp only [hlast]
  rfl

theorem parseDecimal_eq_ok {width : ℕ} (hwidth : 0 < width) (hshort : width < 9) :
    ∀ {bytes : List UInt8} {n : ℕ}, bytes.length = width →
      (parseDecimal bytes = .ok n ↔ n < 10^width ∧ bytes = Text.bytes (Text.padded width n)) := by
  induction width, hwidth using Nat.le_induction with
  | base =>
    intro bytes n hlength
    obtain ⟨byte,rfl⟩ := List.length_eq_one_iff.1 hlength
    have hdigit : ∀ k < 10, Text.bytes (Text.padded 1 k) = [UInt8.ofNat (48+k)] := by decide
    rw [← List.nil_append [byte],parseDecimal_concat]
    change decimalDigit 0 byte = .ok n ↔ _
    rw [decimalDigit_eq_ok (by decide)]
    constructor
    · rintro ⟨hn,rfl⟩
      have hlt : n < 10 := by omega
      exact ⟨hlt,by rw [Nat.mod_eq_of_lt hlt,hdigit n hlt]; rfl⟩
    · rintro ⟨hn,heq⟩
      have hlt : n < 10 := hn
      rw [hdigit n hlt] at heq
      rw [Nat.mod_eq_of_lt hlt]
      exact ⟨by omega,(List.cons.inj heq).1⟩
  | succ width hwidth ih =>
    intro bytes n hlength
    obtain ⟨init,last,rfl⟩ := (List.eq_nil_or_concat' bytes).resolve_left (by
      rintro rfl
      simp at hlength)
    have hinit : init.length = width := by simpa using hlength
    have hpow : (10 : ℕ)^width ≤ 10^8 := Nat.pow_le_pow_right (by decide) (by omega)
    rw [parseDecimal_concat,bind_eq_ok,bytes_padded_succ hwidth]
    constructor
    · rintro ⟨value,hvalue,hn⟩
      obtain ⟨hlt,rfl⟩ := (ih (by omega) hinit).1 hvalue
      obtain ⟨rfl,rfl⟩ := (decimalDigit_eq_ok (by omega)).1 hn
      exact ⟨by rw [pow_succ]; omega,rfl⟩
    · rintro ⟨hn,heq⟩
      obtain ⟨hleft,hright⟩ := List.append_inj' heq rfl
      rw [pow_succ] at hn
      have hlt : n/10 < 10^width := by omega
      refine ⟨n/10,(ih (by omega) hinit).2 ⟨hlt,hleft⟩,?_⟩
      exact (decimalDigit_eq_ok (by omega)).2 ⟨rfl,(List.cons.inj hright).1⟩

def CivilTime.fields (t : CivilTime) : List ℕ :=
  [t.year,t.month,t.day,t.hour,t.minute,t.second]

def civilLayout : List (ℕ × Char) := [(4,'-'),(2,'-'),(2,'T'),(2,':'),(2,':'),(2,'Z')]

def CivilTime.text (t : CivilTime) : String := Text.fixedFields civilLayout t.fields

theorem requireByte_eq_ok {index : ℕ} {c : Char} (h : index < bytes.length) :
    requireByte bytes (index,c) = .ok () ↔
      bytes.drop index = Text.ascii c::bytes.drop (index+1) := by
  rw [requireByte,byteAt,List.getElem?_eq_getElem h,expect_some,ok_bind,ensure_eq_ok,
    List.drop_eq_getElem_cons h,List.cons.injEq,and_iff_left rfl]

theorem readNumber_eq_ok {start stop n : ℕ} (hle : start < stop) (hstop : stop ≤ bytes.length)
    (hshort : stop-start < 9) :
    readNumber bytes start stop = .ok n ↔ n < 10^(stop-start) ∧
      bytes.drop start = Text.bytes (Text.padded (stop-start) n)++bytes.drop stop := by
  have hlength : ((bytes.take stop).drop start).length = stop-start := by simp [hstop]
  have hsplit : bytes.drop start = (bytes.take stop).drop start++bytes.drop stop := by
    conv_lhs => rw [← List.take_append_drop stop bytes,List.drop_append_of_le_length (by simp; omega)]
  rw [readNumber,byteSlice,if_pos ⟨hle.le,hstop⟩,ok_bind,parseDecimal_eq_ok (by omega) hshort hlength,
    hsplit,List.append_left_inj]

theorem drop_field {start width n : ℕ} {c : Char} {rest : String}
    (h : bytes.drop start = Text.bytes (Text.padded width n++(String.singleton c++rest)))
    (hwidth : 0 < width) (hn : n < 10^width)
    (hc : Text.bytes (String.singleton c) = [Text.ascii c]) :
    bytes.drop start = Text.bytes (Text.padded width n)++bytes.drop (start+width) ∧
      bytes.drop (start+width) = Text.ascii c::bytes.drop (start+width+1) ∧
      bytes.drop (start+width+1) = Text.bytes rest := by
  rw [Text.bytes_append,Text.bytes_append,hc] at h
  have hseparator : bytes.drop (start+width) = Text.ascii c::Text.bytes rest := by
    rw [← List.drop_drop,h,List.drop_left' (Text.length_bytes_padded hwidth hn)]
    rfl
  have hrest : bytes.drop (start+width+1) = Text.bytes rest := by
    rw [← List.drop_drop,hseparator,List.drop_one,List.tail_cons]
  exact ⟨by rw [h,hseparator]; rfl,by rw [hseparator,hrest],hrest⟩

theorem fits_civil : Text.Fits civilLayout t.fields ↔ t.year < 10^4 ∧
    t.month < 10^2 ∧ t.day < 10^2 ∧ t.hour < 10^2 ∧ t.minute < 10^2 ∧ t.second < 10^2 := by
  simp [Text.Fits,civilLayout,CivilTime.fields]

theorem readCivil_eq_ok :
    readCivil bytes = .ok t ↔ Text.Fits civilLayout t.fields ∧ bytes = Text.bytes t.text := by
  have hdash : Text.bytes (String.singleton '-') = [Text.ascii '-'] := by decide
  have htime : Text.bytes (String.singleton 'T') = [Text.ascii 'T'] := by decide
  have hcolon : Text.bytes (String.singleton ':') = [Text.ascii ':'] := by decide
  have hzone : Text.bytes (String.singleton 'Z') = [Text.ascii 'Z'] := by decide
  rw [fits_civil]
  constructor
  · intro h
    simp only [readCivil,bind_eq_ok,exists_unit,ensure_eq_ok,each_eq_ok,List.forall_mem_cons,
      pure_eq,ok.injEq] at h
    obtain ⟨hlength,⟨h4,h7,h10,h13,h16,h19,-⟩,year,hyear,month,hmonth,day,hday,hour,hhour,
      minute,hminute,second,hsecond,rfl⟩ := h
    rw [requireByte_eq_ok (by omega)] at h4 h7 h10 h13 h16 h19
    rw [readNumber_eq_ok (by omega) (by omega) (by omega)] at hyear hmonth hday hhour hminute hsecond
    refine ⟨⟨hyear.1,hmonth.1,hday.1,hhour.1,hminute.1,hsecond.1⟩,?_⟩
    have hend : bytes.drop 20 = [] := List.drop_eq_nil_of_le (by omega)
    have hall := hyear.2
    rw [h4,hmonth.2,h7,hday.2,h10,hhour.2,h13,hminute.2,h16,hsecond.2,h19,hend] at hall
    rw [← List.drop_zero (l := bytes),hall]
    simp only [CivilTime.text,CivilTime.fields,civilLayout,Text.fixedFields,Text.bytes_append,
      hdash,htime,hcolon,hzone]
    rfl
  · rintro ⟨⟨hyear,hmonth,hday,hhour,hminute,hsecond⟩,hall⟩
    rw [← List.drop_zero (l := bytes)] at hall
    rw [CivilTime.text,CivilTime.fields,civilLayout] at hall
    obtain ⟨h0,h4,hall⟩ := drop_field hall (by decide) hyear hdash
    obtain ⟨h5,h7,hall⟩ := drop_field hall (by decide) hmonth hdash
    obtain ⟨h8,h10,hall⟩ := drop_field hall (by decide) hday htime
    obtain ⟨h11,h13,hall⟩ := drop_field hall (by decide) hhour hcolon
    obtain ⟨h14,h16,hall⟩ := drop_field hall (by decide) hminute hcolon
    obtain ⟨h17,h19,hall⟩ := drop_field hall (by decide) hsecond hzone
    have hlength : bytes.length = 20 := by
      have hend := congrArg List.length hall
      have hlast := congrArg List.length h19
      simp only [List.length_drop,List.length_cons] at hend hlast
      change _ = 0 at hend
      omega
    simp only [readCivil,bind_eq_ok,exists_unit,ensure_eq_ok,each_eq_ok,List.forall_mem_cons,
      pure_eq,ok.injEq]
    refine ⟨hlength,⟨(requireByte_eq_ok (by omega)).2 h4,(requireByte_eq_ok (by omega)).2 h7,
      (requireByte_eq_ok (by omega)).2 h10,(requireByte_eq_ok (by omega)).2 h13,
      (requireByte_eq_ok (by omega)).2 h16,(requireByte_eq_ok (by omega)).2 h19,by simp⟩,?_⟩
    have hnumber : ∀ {start stop n : ℕ}, start < stop → stop ≤ 20 → stop-start < 9 →
        n < 10^(stop-start) →
        bytes.drop start = Text.bytes (Text.padded (stop-start) n)++bytes.drop stop →
        readNumber bytes start stop = .ok n :=
      fun hlt hstop hshort hn h => (readNumber_eq_ok hlt (hlength ▸ hstop) hshort).2 ⟨hn,h⟩
    exact ⟨_,hnumber (by decide) (by decide) (by decide) hyear h0,
      _,hnumber (by decide) (by decide) (by decide) hmonth h5,
      _,hnumber (by decide) (by decide) (by decide) hday h8,
      _,hnumber (by decide) (by decide) (by decide) hhour h11,
      _,hnumber (by decide) (by decide) (by decide) hminute h14,
      _,hnumber (by decide) (by decide) (by decide) hsecond h17,rfl⟩

theorem CivilTime.seconds_instant (h : t.InRange (leap t.year)) :
    (t.instant h).seconds = t.seconds := by
  rw [Instant.seconds,dayNumber_instant h,seconds]
  rfl

/-- An accepted text is the text of its time. -/
theorem parseUtcSeconds_eq_ok_text {value : String} {seconds : ℤ} :
    parseUtcSeconds value = .ok seconds ↔ ∃ t : CivilTime, Text.Fits civilLayout t.fields ∧
      t.InRange (leap t.year) ∧ value = t.text ∧ t.seconds = seconds := by
  rw [parseUtcSeconds_eq_ok]
  refine exists_congr fun t => ?_
  rw [readCivil_eq_ok,Text.bytes_injective.eq_iff]
  tauto

theorem CivilTime.fits (h : t.InRange (leap t.year)) (hyear : t.year ≤ 9999) :
    Text.Fits civilLayout t.fields := by
  have hmonth : t.month ≤ 12 := (t.instant h).month_bounds.2
  obtain ⟨-,⟨-,hday⟩,hhour,hminute,hsecond⟩ := h
  have hdays := hday.trans (daysInMonth_le _ _)
  rw [fits_civil]
  omega

theorem paddedInt_natCast (width n : ℕ) : Text.paddedInt width n = Text.padded width n := by
  rw [Text.paddedInt,if_neg (by omega),Int.toNat_natCast]

theorem exists_formatUnixUtc (s : UInt64) : ∃ t : CivilTime, t.InRange (leap t.year) ∧
    t.seconds = s.toNat ∧
    Run.formatUnixUtc s = (ensure (t.year ≤ 9999) () >>= fun _ => .ok t.text) ∧
    Verify.formatUnixUtc s = (ensure (t.year ≤ 9999) () >>= fun _ => .ok t.text) := by
  have hs := s.toNat_lt
  obtain ⟨year,month,day,hrun,hverify,hpositive,hday,hdays⟩ :=
    exists_civilFromDays (Int.natCast_nonneg (s.toNat/86400)) (by omega)
  have hchecked : checkedI64 (s.toNat/86400 : ℕ) = .ok ((s.toNat/86400 : ℕ) : ℤ) :=
    checkedI64_eq_ok (by omega) (by omega)
  have hyears : ∀ p : Outcome Unit String,
      (ensure (1 ≤ (year : ℤ) ∧ (year : ℤ) ≤ 9999) () >>= fun _ => p) =
        (ensure (year ≤ 9999) () >>= fun _ => p) := by
    intro p
    have hiff : 1 ≤ (year : ℤ) ∧ (year : ℤ) ≤ 9999 ↔ year ≤ 9999 := by omega
    simp only [ensure,hiff]
  refine ⟨⟨year,month,day,s.toNat%86400/3600,s.toNat%86400%3600/60,s.toNat%86400%60⟩,
    ⟨hpositive,hday,?_⟩,?_,?_,?_⟩
  · dsimp only
    omega
  · rw [CivilTime.seconds,hdays]
    dsimp only
    omega
  · rw [Run.formatUnixUtc,hchecked,ok_bind,hrun,ok_bind]
    dsimp only
    rw [hyears]
    simp only [paddedInt_natCast,CivilTime.text,CivilTime.fields,civilLayout,Text.fixedFields,
      String.append_assoc]
    rfl
  · rw [Verify.formatUnixUtc,hchecked,ok_bind,hverify,ok_bind]
    dsimp only
    rw [hyears]
    simp only [paddedInt_natCast,CivilTime.text,CivilTime.fields,civilLayout,Text.fixedFields,
      String.append_assoc]
    rfl

theorem civilTime_lt_iff {u : CivilTime} (ht : t.InRange (leap t.year))
    (hu : u.InRange (leap u.year)) : t.seconds < u.seconds ↔ t.fields < u.fields := by
  rw [← CivilTime.seconds_instant ht,← CivilTime.seconds_instant hu]
  exact Instant.seconds_lt_iff

theorem civilTime_eq_of_seconds {u : CivilTime} (ht : t.InRange (leap t.year))
    (hu : u.InRange (leap u.year)) (h : t.seconds = u.seconds) : t = u := by
  rw [← CivilTime.seconds_instant ht,← CivilTime.seconds_instant hu] at h
  have hfields : t.fields = u.fields := Instant.fields_eq_of_seconds h
  simp only [CivilTime.fields,List.cons.injEq,and_true] at hfields
  cases t
  cases u
  simpa only [CivilTime.mk.injEq] using hfields

theorem year_le_of_seconds {s : ℕ} (ht : t.InRange (leap t.year)) (hs : t.seconds = s)
    (h : ((s/86400 : ℕ) : ℤ) < yearStart 10000) : t.year ≤ 9999 := by
  by_contra hlate
  have hstart := yearStart_mono (show 10000 ≤ t.year by omega)
  have hday : yearStart t.year ≤ t.days := by
    rw [← CivilTime.dayNumber_instant ht]
    exact (t.instant ht).yearStart_le_dayNumber
  obtain ⟨-,-,hhour,hminute,hsecond⟩ := ht
  rw [CivilTime.seconds] at hs
  omega

/-- The conversions are exact: formatting and reading are inverse to each other, the byte order
of the texts is the order of the times, and nothing overflows. -/
theorem civil_time_exact :
    (∀ s : UInt64, ((s.toNat/86400 : ℕ) : ℤ) < yearStart 10000 → ∃ text,
      Verify.formatUnixUtc s = .ok text ∧ Run.formatUnixUtc s = .ok text ∧
        parseUtcSeconds text = .ok s.toNat) ∧
    (∀ (text : String) (n : ℕ), parseUtcSeconds text = .ok n → ∃ s : UInt64, s.toNat = n ∧
      Verify.formatUnixUtc s = .ok text ∧ Run.formatUnixUtc s = .ok text) ∧
    (∀ (t₁ t₂ : String) (n₁ n₂ : ℤ), parseUtcSeconds t₁ = .ok n₁ → parseUtcSeconds t₂ = .ok n₂ →
      (Text.bytes t₁ < Text.bytes t₂ ↔ n₁ < n₂) ∧ (t₁ < t₂ ↔ n₁ < n₂)) ∧
    (∀ s, Verify.formatUnixUtc s ≠ .panic ∧ Run.formatUnixUtc s ≠ .panic) ∧
    ∀ text, parseUtcSeconds text ≠ .panic := by
  have hpanic : ∀ (t : CivilTime),
      (ensure (t.year ≤ 9999) () >>= fun _ => .ok t.text : Outcome Unit String) ≠ .panic :=
    fun t => bind_ne_panic (ensure_ne_panic _ _) fun _ _ => by simp
  have hwritten : ∀ t : CivilTime, t.year ≤ 9999 →
      (ensure (t.year ≤ 9999) () >>= fun _ => .ok t.text : Outcome Unit String) = .ok t.text :=
    fun t h => by rw [ensure,if_pos h,ok_bind]
  refine ⟨fun s hs => ?_,fun text n htext => ?_,fun t₁ t₂ n₁ n₂ h₁ h₂ => ?_,fun s => ?_,
    parseUtcSeconds_ne_panic⟩
  · obtain ⟨t,hrange,hseconds,hrun,hverify⟩ := exists_formatUnixUtc s
    have hyear := year_le_of_seconds hrange hseconds hs
    rw [hwritten t hyear] at hrun hverify
    exact ⟨t.text,hverify,hrun,
      parseUtcSeconds_eq_ok_text.2 ⟨t,CivilTime.fits hrange hyear,hrange,rfl,hseconds⟩⟩
  · obtain ⟨t,hfits,hrange,rfl,hseconds⟩ := parseUtcSeconds_eq_ok_text.1 htext
    have hyear := (fits_civil.1 hfits).1
    have hbound : n < 2^64 := by
      have hdays := (civilDays_eq hrange hyear).2.2
      obtain ⟨-,-,hhour,hminute,hsecond⟩ := hrange
      rw [CivilTime.seconds] at hseconds
      omega
    obtain ⟨u,hrange',hseconds',hrun,hverify⟩ := exists_formatUnixUtc (UInt64.ofNat n)
    have hnat : (UInt64.ofNat n).toNat = n := UInt64.toNat_ofNat_of_lt' hbound
    rw [hnat] at hseconds'
    obtain rfl := civilTime_eq_of_seconds hrange' hrange (hseconds'.trans hseconds.symm)
    rw [hwritten u (Nat.le_of_lt_succ hyear)] at hrun hverify
    exact ⟨UInt64.ofNat n,hnat,hverify,hrun⟩
  · obtain ⟨c₁,hfits₁,hrange₁,rfl,rfl⟩ := parseUtcSeconds_eq_ok_text.1 h₁
    obtain ⟨c₂,hfits₂,hrange₂,rfl,rfl⟩ := parseUtcSeconds_eq_ok_text.1 h₂
    have hbytes : Text.bytes c₁.text < Text.bytes c₂.text ↔ c₁.seconds < c₂.seconds := by
      rw [Text.bytes_lt_iff,civilTime_lt_iff hrange₁ hrange₂]
      exact Text.bytes_fixedFields_lt_iff hfits₁ hfits₂
    have hascii : ∀ c : CivilTime, ∀ x ∈ c.text.toList, x.toNat < 128 :=
      fun c => Text.fixedFields_ascii (by decide) c.fields
    exact ⟨hbytes,(Text.lt_iff_bytes (hascii c₁) (hascii c₂)).trans hbytes⟩
  · obtain ⟨t,-,-,hrun,hverify⟩ := exists_formatUnixUtc s
    rw [hrun,hverify]
    exact ⟨hpanic t,hpanic t⟩

theorem civil_time_exact_sample :
    (∃ text, Verify.formatUnixUtc 253402300799 = .ok text ∧
      Run.formatUnixUtc 253402300799 = .ok text ∧ parseUtcSeconds text = .ok 253402300799) ∧
    (∃ s : UInt64, s.toNat = 951782401 ∧ Verify.formatUnixUtc s = .ok "2000-02-29T00:00:01Z" ∧
      Run.formatUnixUtc s = .ok "2000-02-29T00:00:01Z") ∧
    ("0001-01-01T00:00:00Z" < "1969-12-31T23:59:59Z" ↔ (-62135596800 : ℤ) < -1) := by
  obtain ⟨hformat,hback,horder,-⟩ := civil_time_exact
  refine ⟨hformat 253402300799 ?_,hback "2000-02-29T00:00:01Z" 951782401 (by decide +kernel),
    (horder _ _ _ _ (by decide +kernel) (by decide +kernel)).2⟩
  rw [yearStart_eq]
  decide

end CommitCiPreflight
