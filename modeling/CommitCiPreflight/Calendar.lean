import Mathlib.Algebra.Order.Ring.Int
import Mathlib.Data.List.Lex
import Mathlib.Order.Monotone.Basic

/-! The Gregorian calendar, counted year by year and month by month. The order of instants is
the lexicographic order of their fields. -/
namespace CommitCiPreflight
namespace Calendar

def IsLeap (year : ℕ) : Prop := year%4 = 0 ∧ (year%100 ≠ 0 ∨ year%400 = 0)

instance (year : ℕ) : Decidable (IsLeap year) := inferInstanceAs (Decidable (_ ∧ _))

def yearLength (year : ℕ) : ℕ := if IsLeap year then 366 else 365

def monthLength (year : ℕ) : ℕ → ℕ
  | 1 | 3 | 5 | 7 | 8 | 10 | 12 => 31
  | 4 | 6 | 9 | 11 => 30
  | 2 => if IsLeap year then 29 else 28
  | _ => 0

/-- The days from 1970-01-01 to the first of January of the year. -/
def yearStart : ℕ → ℤ
  | 0 => -719528
  | year+1 => yearStart year+yearLength year

def monthStart (year : ℕ) : ℕ → ℕ
  | 0 => 0
  | month+1 => monthStart year month+monthLength year month

theorem yearStart_eq (year : ℕ) : yearStart year =
    365*year+(year+3)/4-(year+99)/100+(year+399)/400-719528 := by
  induction year with
  | zero => rfl
  | succ year ih =>
    rw [yearStart,ih,yearLength]
    by_cases hleap : IsLeap year
    all_goals
      simp only [hleap,if_true,if_false]
      unfold IsLeap at hleap
      omega

example : yearStart 1970 = 0 := by rw [yearStart_eq]; rfl

theorem yearStart_mono {year other : ℕ} (h : year ≤ other) : yearStart year ≤ yearStart other := by
  induction h with
  | refl => rfl
  | step _ ih =>
    rw [yearStart]
    omega

theorem monthStart_mono (year : ℕ) : Monotone (monthStart year) :=
  monotone_nat_of_le_succ fun month => by
    rw [monthStart]
    omega

theorem monthStart_thirteen (year : ℕ) : monthStart year 13 = yearLength year := by
  simp only [monthStart,monthLength,yearLength]
  split <;> rfl

theorem month_of_monthLength {year month : ℕ} (h : 0 < monthLength year month) :
    1 ≤ month ∧ month ≤ 12 := by
  unfold monthLength at h
  split at h <;> omega

/-- A second of a day of the calendar. -/
structure Instant where
  (year month day hour minute second : ℕ)
  day_pos : 1 ≤ day
  day_le : day ≤ monthLength year month
  hour_le : hour ≤ 23
  minute_le : minute ≤ 59
  second_le : second ≤ 59

namespace Instant

def fields (t : Instant) : List ℕ := [t.year,t.month,t.day,t.hour,t.minute,t.second]

def dayNumber (t : Instant) : ℤ := yearStart t.year+monthStart t.year t.month+t.day-1

/-- The seconds since 1970-01-01T00:00:00Z, without leap seconds. -/
def seconds (t : Instant) : ℤ := t.dayNumber*86400+(t.hour*3600+t.minute*60+t.second)

theorem month_bounds (t : Instant) : 1 ≤ t.month ∧ t.month ≤ 12 :=
  month_of_monthLength (t.day_pos.trans t.day_le)

theorem dayNumber_lt_month (t : Instant) :
    t.dayNumber < yearStart t.year+monthStart t.year (t.month+1) := by
  have hday := t.day_le
  rw [dayNumber,monthStart]
  omega

theorem dayNumber_lt_year (t : Instant) : t.dayNumber < yearStart (t.year+1) := by
  have hmonth := monthStart_mono t.year (Nat.add_le_add_right t.month_bounds.2 1)
  have hday := t.dayNumber_lt_month
  rw [monthStart_thirteen] at hmonth
  rw [yearStart]
  omega

theorem yearStart_le_dayNumber (t : Instant) : yearStart t.year ≤ t.dayNumber := by
  have hday := t.day_pos
  rw [dayNumber]
  omega

/-- Of two days, the one with the smaller fields comes first. -/
theorem dayNumber_lt {t u : Instant} (h : [t.year,t.month,t.day] < [u.year,u.month,u.day]) :
    t.dayNumber < u.dayNumber := by
  rcases List.cons_lt_cons_iff.1 h with hyear | ⟨hyear,h⟩
  · have hnext := yearStart_mono (Nat.succ_le_of_lt hyear)
    exact t.dayNumber_lt_year.trans_le (hnext.trans u.yearStart_le_dayNumber)
  rcases List.cons_lt_cons_iff.1 h with hmonth | ⟨hmonth,h⟩
  · have hnext : monthStart t.year (t.month+1) ≤ monthStart t.year u.month :=
      monthStart_mono t.year hmonth
    have hday := u.day_pos
    have hlt := t.dayNumber_lt_month
    have hu : u.dayNumber = yearStart t.year+monthStart t.year u.month+u.day-1 := by
      rw [dayNumber,hyear]
    omega
  · have hday : t.day < u.day := (List.cons_lt_cons_iff.1 h).resolve_right (by simp)
    rw [dayNumber,dayNumber,hyear,hmonth]
    omega

theorem seconds_lt_of_fields {t u : Instant} (h : t.fields < u.fields) : t.seconds < u.seconds := by
  have ht := t.hour_le
  have ht₁ := t.minute_le
  have ht₂ := t.second_le
  have hu := u.hour_le
  have hu₁ := u.minute_le
  have hu₂ := u.second_le
  simp only [fields,List.cons_lt_cons_iff,List.lt_irrefl,and_false,or_false] at h
  by_cases hdays : [t.year,t.month,t.day] < [u.year,u.month,u.day]
  · have hlt := dayNumber_lt hdays
    rw [seconds,seconds]
    omega
  · have hsame : t.year = u.year ∧ t.month = u.month ∧ t.day = u.day := by
      simp only [List.cons_lt_cons_iff,List.lt_irrefl,and_false,or_false] at hdays
      omega
    have hnumber : t.dayNumber = u.dayNumber := by
      rw [dayNumber,dayNumber,hsame.1,hsame.2.1,hsame.2.2]
    rw [seconds,seconds,hnumber]
    omega

theorem seconds_lt_iff {t u : Instant} : t.seconds < u.seconds ↔ t.fields < u.fields := by
  refine ⟨fun h => ?_,seconds_lt_of_fields⟩
  rcases lt_trichotomy t.fields u.fields with hlt | heq | hgt
  · exact hlt
  · simp only [fields,List.cons.injEq,and_true] at heq
    obtain ⟨hyear,hmonth,hday,hhour,hminute,hsecond⟩ := heq
    rw [seconds,seconds,dayNumber,dayNumber,hyear,hmonth,hday,hhour,hminute,hsecond] at h
    exact absurd h (lt_irrefl _)
  · exact absurd h (seconds_lt_of_fields hgt).not_gt

theorem fields_eq_of_seconds {t u : Instant} (h : t.seconds = u.seconds) : t.fields = u.fields :=
  le_antisymm (not_lt.1 fun hlt => (seconds_lt_of_fields hlt).ne' h)
    (not_lt.1 fun hlt => (seconds_lt_of_fields hlt).ne h)

end Instant
end Calendar
end CommitCiPreflight
