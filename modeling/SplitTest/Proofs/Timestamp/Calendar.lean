import Mathlib.Tactic.IntervalCases
import SplitTest.Timestamp

/-!
The Gregorian calendar by its rules, for all years: which are leap years, and how long months are.
The date that is computed from a number of days exists and has that number.
-/

namespace SplitTest

namespace Date

def IsLeap (year : Int) : Prop := year % 4 = 0 ∧ (year % 100 = 0 → year % 400 = 0)

instance : DecidablePred IsLeap := fun year =>
  inferInstanceAs (Decidable (year % 4 = 0 ∧ (year % 100 = 0 → year % 400 = 0)))

def yearLength (year : Int) : Nat := if IsLeap year then 366 else 365

def monthLength (year : Int) : Nat → Nat
  | 2 => if IsLeap year then 29 else 28
  | 4 | 6 | 9 | 11 => 30
  | _ => 31

structure Valid (d : Date) : Prop where
  month_pos : 1 ≤ d.month
  month_le : d.month ≤ 12
  day_pos : 1 ≤ d.day
  day_le : d.day ≤ monthLength d.year d.month

def leapsBefore (year : Int) : Int := (year - 1) / 4 - (year - 1) / 100 + (year - 1) / 400

def yearStart (year : Int) : Int := 365 * (year - 1970) + leapsBefore year - leapsBefore 1970

def monthStart (year : Int) : Nat → Nat
  | 0 | 1 => 0
  | month + 2 => monthStart year (month + 1) + monthLength year (month + 1)

def number (d : Date) : Int := yearStart d.year + monthStart d.year d.month + d.day - 1

variable {d d' : Date} {year year' : Int} {month month' days : Nat}

theorem yearStart_succ (year : Int) : yearStart (year + 1) = yearStart year + yearLength year := by
  simp only [yearStart, leapsBefore, yearLength]
  split
  case isTrue leap =>
    rw [IsLeap] at leap
    omega
  case isFalse common =>
    rw [IsLeap] at common
    omega

theorem monthLength_le : monthLength year month ≤ 31 := by
  unfold monthLength
  split
  · split <;> decide
  all_goals decide

theorem yearStart_mono (le : year ≤ year') : yearStart year ≤ yearStart year' := by
  simp only [yearStart, leapsBefore]
  omega

theorem monthStart_succ (pos : 1 ≤ month) :
    monthStart year (month + 1) = monthStart year month + monthLength year month := by
  obtain ⟨before, rfl⟩ := Nat.exists_eq_add_of_le' pos
  rfl

theorem monthStart_next_le (year : Int) (pos : 1 ≤ month) (lt : month < month') :
    monthStart year month + monthLength year month ≤ monthStart year month' := by
  induction lt with
  | refl => exact Nat.le_of_eq (monthStart_succ pos).symm
  | step later ih =>
    rw [monthStart_succ (Nat.le_trans pos (Nat.le_of_succ_le later))]
    exact Nat.le_add_right_of_le ih

theorem monthStart_thirteen : monthStart year 13 = yearLength year := by
  simp only [monthStart, monthLength, yearLength]
  split <;> rfl

namespace Valid

variable (valid : d.Valid) (valid' : d'.Valid)
include valid

theorem yearStart_le_number : yearStart d.year ≤ d.number := by
  have pos := valid.day_pos
  rw [number]
  omega

theorem number_lt_yearStart : d.number < yearStart (d.year + 1) := by
  have last := monthStart_next_le d.year valid.month_pos (Nat.lt_succ_of_le valid.month_le)
  have fits := valid.day_le
  rw [monthStart_thirteen] at last
  rw [number, yearStart_succ]
  omega

theorem le_year (late : yearStart year ≤ d.number) : year ≤ d.year := by
  by_contra earlier
  have before := valid.number_lt_yearStart
  have mono : yearStart (d.year + 1) ≤ yearStart year := yearStart_mono (by omega)
  omega

theorem year_lt (early : d.number < yearStart year) : d.year < year := by
  by_contra later
  have after := valid.yearStart_le_number
  have mono : yearStart year ≤ yearStart d.year := yearStart_mono (by omega)
  omega

include valid'

theorem number_lt_of_year_lt (earlier : d.year < d'.year) : d.number < d'.number := by
  calc
    d.number < yearStart (d.year + 1) := valid.number_lt_yearStart
    _ ≤ yearStart d'.year := yearStart_mono earlier
    _ ≤ d'.number := valid'.yearStart_le_number

theorem number_lt_of_month_lt (same : d.year = d'.year) (earlier : d.month < d'.month) :
    d.number < d'.number := by
  have next := monthStart_next_le d.year valid.month_pos earlier
  have fits := valid.day_le
  have pos := valid'.day_pos
  rw [number, number, ← same]
  omega

end Valid

theorem monthStart_march (year : Int) (le : month ≤ 9) :
    monthStart year (month + 3) + 306 = yearLength year + (153 * month + 2) / 5 := by
  interval_cases month <;> simp only [monthStart, monthLength, yearLength] <;> split <;> omega

theorem march_month (fits : days ≤ 365) : (5 * days + 2) / 153 ≤ 9 ∨
    (5 * days + 2) / 153 = 10 ∨ (5 * days + 2) / 153 = 11 := by
  omega

theorem number_ofMarch (fits : days ≤ 365) :
    (ofMarch year days).number = yearStart (year + 1) - 306 + days := by
  obtain march | january | february := march_month fits
  · have start := monthStart_march year march
    have next := yearStart_succ year
    simp only [ofMarch, Nat.lt_succ_of_le march, if_true, number]
    omega
  · simp only [ofMarch, january, Nat.reduceSub, Nat.reduceLT, if_false, number, monthStart]
    omega
  · simp only [ofMarch, february, Nat.reduceSub, Nat.reduceLT, if_false, number, monthStart,
      monthLength]
    omega

theorem valid_ofMarch (fits : days ≤ 365) (leap : days = 365 → IsLeap (year + 1)) :
    (ofMarch year days).Valid := by
  obtain march | january | february := march_month fits
  · simp only [ofMarch, Nat.lt_succ_of_le march, if_true]
    refine ⟨Nat.le_add_left _ _, Nat.add_le_add_right march 3, Nat.le_add_left _ _, ?_⟩
    dsimp only
    generalize month : (5 * days + 2) / 153 = m at march
    interval_cases m <;> simp only [monthLength] <;> omega
  · simp only [ofMarch, january, Nat.reduceSub, Nat.reduceLT, if_false]
    refine ⟨Nat.le_refl 1, Nat.le_add_left 1 11, Nat.le_add_left _ _, ?_⟩
    simp only [monthLength]
    omega
  · simp only [ofMarch, february, Nat.reduceSub, Nat.reduceLT, if_false]
    refine ⟨Nat.le_add_left 1 1, Nat.le_add_left 2 10, Nat.le_add_left _ _, ?_⟩
    simp only [monthLength]
    split
    case isTrue => omega
    case isFalse common =>
      have short : days ≠ 365 := fun last => common (leap last)
      omega

section Era

variable {day century four one rest : Nat}

structure InEra (day century four one rest : Nat) : Prop where
  day_eq : day = 36524 * century + 1461 * four + 365 * one + rest
  century_le : century ≤ 3
  four_le : four ≤ 24
  one_le : one ≤ 3
  rest_le : rest ≤ 365
  last : rest = 365 → one = 3 ∧ (four < 24 ∨ century = 3)

theorem exists_inEra (inside : day < 146097) :
    ∃ century four one rest, InEra day century four one rest := by
  let century := min (day / 36524) 3
  let ofCentury := day - 36524 * century
  let one := min (ofCentury % 1461 / 365) 3
  refine ⟨century, ofCentury / 1461, one, ofCentury % 1461 - 365 * one, ?_⟩
  constructor <;> omega

namespace InEra

variable (inEra : InEra day century four one rest)
include inEra

theorem year_eq :
    (day - day / 1460 + day / 36524 - day / 146096) / 365 = 100 * century + 4 * four + one := by
  obtain ⟨day_eq, century_le, four_le, one_le, rest_le, last⟩ := inEra
  have fours : day / 1460 = 25 * century + four +
      if 1460 ≤ 24 * century + four + 365 * one + rest then 1 else 0 := by
    split <;> omega
  have centuries : day / 36524 = century + if four = 24 ∧ rest = 365 then 1 else 0 := by
    split <;> omega
  have eras : day / 146096 = if century = 3 ∧ four = 24 ∧ rest = 365 then 1 else 0 := by
    split <;> omega
  rw [fours, centuries, eras]
  split <;> split <;> split <;> omega

theorem rest_eq : day - eraYearStart (100 * century + 4 * four + one) = rest := by
  obtain ⟨day_eq, century_le, four_le, one_le, -, -⟩ := inEra
  rw [eraYearStart]
  omega

theorem isLeap (era : Int) (last : rest = 365) :
    IsLeap (era * 400 + (100 * century + 4 * four + one : Nat) + 1) := by
  obtain ⟨-, century_le, four_le, -, -, leap⟩ := inEra
  obtain ⟨rfl, ends⟩ := leap last
  rw [IsLeap]
  omega

theorem yearStart_eq (era : Int) :
    yearStart (era * 400 + (100 * century + 4 * four + one : Nat) + 1) - 306 + rest =
      era * 146097 + day - 719468 := by
  obtain ⟨day_eq, century_le, four_le, one_le, -, -⟩ := inEra
  simp only [yearStart, leapsBefore]
  omega

end InEra

end Era

theorem ofDays_eq (days : Int) : ∃ year rest, ofDays days = ofMarch year rest ∧ rest ≤ 365 ∧
    (rest = 365 → IsLeap (year + 1)) ∧ yearStart (year + 1) - 306 + rest = days := by
  have inside : ((days + 719468) % 146097).toNat < 146097 := by omega
  obtain ⟨century, four, one, rest, inEra⟩ := exists_inEra inside
  refine ⟨(days + 719468) / 146097 * 400 + (100 * century + 4 * four + one : Nat), rest, ?_,
    inEra.rest_le, inEra.isLeap _, ?_⟩
  · simp only [ofDays, inEra.year_eq, inEra.rest_eq]
  · rw [inEra.yearStart_eq]
    omega

theorem valid_ofDays (days : Int) : (ofDays days).Valid := by
  obtain ⟨year, rest, same, fits, leap, -⟩ := ofDays_eq days
  rw [same]
  exact valid_ofMarch fits leap

@[simp] theorem number_ofDays (days : Int) : (ofDays days).number = days := by
  obtain ⟨year, rest, same, fits, -, start⟩ := ofDays_eq days
  rw [same, number_ofMarch fits, start]

end Date

end SplitTest
