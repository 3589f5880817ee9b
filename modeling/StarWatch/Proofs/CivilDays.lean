import Mathlib.Algebra.Order.Ring.Int
import Mathlib.Tactic.IntervalCases
import StarWatch.Calendar

/-!
# Every day number is a day

An era of 400 years, from March to February, has four centuries, each of 25 groups
of four years. A century lacks the leap day of its last year, all but the fourth,
so the days of an era split uniquely into centuries, groups, years and days. The
arithmetic of the calendar finds this split: every number is the number of the
day that it gives, and that day exists.
-/

namespace StarWatch.Calendar

section Years

def yearOfEra (day : Int) : Int := (day - day / 1460 + day / 36524 - day / 146096) / 365

def yearStart (year : Int) : Int := 365 * year + year / 4 - year / 100

/-- A day of an era in centuries, groups of four years, years and days. The leap day ends a group of
years, and a century only if it is the fourth. -/
structure EraDay (day century group year rest : Int) : Prop where
  split : day = 36524 * century + 1461 * group + 365 * year + rest
  century_bounds : 0 ≤ century ∧ century ≤ 3
  group_bounds : 0 ≤ group ∧ group ≤ 24
  year_bounds : 0 ≤ year ∧ year ≤ 3
  rest_bounds : 0 ≤ rest ∧ rest ≤ 365
  leap : rest = 365 → year = 3 ∧ (group = 24 → century = 3)

/-- The last day of an era, and of a group, would begin a fifth part; it belongs to the fourth. -/
theorem exists_eraDay {day : Int} (first : 0 ≤ day) (last : day < eraDays) :
    ∃ century group year rest, EraDay day century group year rest := by
  have bound : day < 146097 := last
  obtain ⟨century, inCentury, century_bounds, day_eq, inCentury_bounds, fourth⟩ :
      ∃ c m : Int, (0 ≤ c ∧ c ≤ 3) ∧ day = 36524 * c + m ∧ (0 ≤ m ∧ m ≤ 36524) ∧
        (m = 36524 → c = 3) := by
    by_cases short : day < 146096
    · exact ⟨day / 36524, day % 36524, by omega, by omega, by omega, by omega⟩
    · exact ⟨3, 36524, by omega, by omega, by omega, by omega⟩
  obtain ⟨year, rest, year_bounds, inGroup, rest_bounds, leap⟩ :
      ∃ y s : Int, (0 ≤ y ∧ y ≤ 3) ∧ inCentury % 1461 = 365 * y + s ∧ (0 ≤ s ∧ s ≤ 365) ∧
        (s = 365 → y = 3) := by
    by_cases short : inCentury % 1461 < 1460
    · exact ⟨inCentury % 1461 / 365, inCentury % 1461 % 365, by omega, by omega, by omega, by omega⟩
    · exact ⟨3, 365, by omega, by omega, by omega, by omega⟩
  refine ⟨century, inCentury / 1461, year, rest, by omega, century_bounds, by omega, year_bounds,
    rest_bounds, ?_⟩
  intro last
  have final := leap last
  exact ⟨final, by omega⟩

namespace EraDay

variable {day century group year rest : Int}

theorem yearOfEra_eq (e : EraDay day century group year rest) :
    yearOfEra day = 100 * century + 4 * group + year := by
  obtain ⟨split, century_bounds, group_bounds, year_bounds, rest_bounds, leap⟩ := e
  have centuries : day / 36524 - day / 146096 = century := by
    by_cases last : day = 146096
    · omega
    · have early : day / 146096 = 0 := by omega
      omega
  have groups : day / 1460 = 25 * century + group ∨
      day / 1460 = 25 * century + group + 1 ∧ 1460 ≤ 24 * century + group + 365 * year + rest := by
    omega
  rw [yearOfEra]
  rcases groups with groups | ⟨groups, late⟩
  · omega
  · omega

theorem yearStart_eq (e : EraDay day century group year rest) :
    yearStart (100 * century + 4 * group + year) = day - rest := by
  obtain ⟨split, century_bounds, group_bounds, year_bounds, rest_bounds, leap⟩ := e
  have fours : (100 * century + 4 * group + year) / 4 = 25 * century + group := by omega
  have hundreds : (100 * century + 4 * group + year) / 100 = century := by omega
  rw [yearStart, fours, hundreds]
  omega

theorem yearInEra_bounds (e : EraDay day century group year rest) :
    0 ≤ 100 * century + 4 * group + year ∧ 100 * century + 4 * group + year < 400 := by
  obtain ⟨-, century_bounds, group_bounds, year_bounds, -⟩ := e
  omega

/-- A 366th day is the last of February, in a civil year that is a leap year. -/
theorem isLeap_of_last (e : EraDay day century group year rest) (last : rest = 365) (era : Int) :
    isLeap (100 * century + 4 * group + year + era * 400 + 1) = true := by
  obtain ⟨split, century_bounds, group_bounds, year_bounds, rest_bounds, leap⟩ := e
  obtain ⟨fourth, centuries⟩ := leap last
  simp only [isLeap, Bool.and_eq_true, Bool.or_eq_true, decide_eq_true_eq]
  omega

end EraDay

end Years

section Months

/-- The month of a day of the year, both counted from March. -/
def monthOfDay (day : Int) : Int := (5 * day + 2) / 153

def monthStart (month : Int) : Int := (153 * month + 2) / 5

/-- Months from March on have 153 days in each five, so the linear count finds the month. -/
theorem monthOfDay_bounds {day : Int} (first : 0 ≤ day) (last : day ≤ 365) :
    (0 ≤ monthOfDay day ∧ monthOfDay day ≤ 11) ∧
      monthStart (monthOfDay day) ≤ day ∧ day < monthStart (monthOfDay day + 1) := by
  simp only [monthOfDay, monthStart]
  omega

def marchDate (year month day : Int) : Date :=
  if month < 10 then ⟨year, (month + 3).toNat, (day + 1).toNat⟩
  else ⟨year + 1, (month - 9).toNat, (day + 1).toNat⟩

/-- A day of a month, both counted from March and from 0; a 366th day only before a leap year's
March. -/
structure MarchDay (year month day : Int) : Prop where
  months : 0 ≤ month ∧ month ≤ 11
  first : 0 ≤ day
  inMonth : monthStart month + day < monthStart (month + 1)
  inYear : monthStart month + day ≤ 365
  leap : monthStart month + day = 365 → isLeap (year + 1) = true

namespace MarchDay

variable {year month day : Int}

theorem dayNumber_marchDate (d : MarchDay year month day) :
    dayNumber (marchDate year month day) =
      year / 400 * eraDays + (yearStart (year % 400) + (monthStart month + day)) - epochShift := by
  obtain ⟨months, first, -⟩ := d
  simp only [marchDate, monthStart, yearStart]
  split
  · have later : ¬ (month + 3).toNat ≤ 2 := by omega
    have civil : ((month + 3).toNat : Int) - 3 = month := by omega
    simp only [dayNumber, later, civil, if_false]
    omega
  · have earlier : (month - 9).toNat ≤ 2 := by omega
    have civil : ((month - 9).toNat : Int) + 9 = month := by omega
    have before : year + 1 - 1 = year := by omega
    simp only [dayNumber, earlier, civil, before, if_true]
    omega

theorem daysInMonth_of_lt (low : 0 ≤ month) (high : month < 10) (year : Int) :
    (daysInMonth year (month + 3).toNat : Int) = monthStart (month + 1) - monthStart month := by
  interval_cases month
  all_goals rfl

theorem valid_marchDate (d : MarchDay year month day) : Valid (marchDate year month day) := by
  obtain ⟨⟨low, high⟩, first, inMonth, inYear, leap⟩ := d
  simp only [marchDate]
  split
  · rename_i early
    have days := daysInMonth_of_lt low early year
    simp only [Valid]
    omega
  · rename_i late
    simp only [Valid]
    obtain rfl | rfl : month = 10 ∨ month = 11 := by omega
    · have january : daysInMonth (year + 1) (10 - 9 : Int).toNat = 31 := rfl
      simp only [monthStart] at inMonth
      omega
    · have february : daysInMonth (year + 1) (11 - 9 : Int).toNat =
          if isLeap (year + 1) then 29 else 28 := rfl
      simp only [monthStart] at inYear leap
      have within : (day + 1).toNat ≤ daysInMonth (year + 1) (11 - 9 : Int).toNat := by
        rw [february]
        split
        · omega
        · rename_i common
          have before : day ≠ 28 := fun last => common (leap (by omega))
          omega
      omega

end MarchDay

end Months

variable {n century group year rest : Int}

/-- The date of a day number, by the split of its day of the era. -/
theorem ofDayNumber_eq (e : EraDay ((n + epochShift) % eraDays) century group year rest) :
    ofDayNumber n =
      marchDate (100 * century + 4 * group + year + (n + epochShift) / eraDays * 400)
        (monthOfDay rest) (rest - monthStart (monthOfDay rest)) := by
  obtain ⟨⟨low, high⟩, -⟩ := monthOfDay_bounds e.rest_bounds.1 e.rest_bounds.2
  have years := e.yearOfEra_eq
  have inYear : (n + epochShift) % eraDays -
      yearStart (100 * century + 4 * group + year) = rest := by
    rw [e.yearStart_eq, Int.sub_sub_self]
  rw [yearOfEra] at years
  rw [yearStart] at inYear
  rw [marchDate]
  split
  · rename_i early
    rw [monthOfDay] at low early
    have spring : ¬ (5 * rest + 2) / 153 + 3 ≤ 2 := by omega
    simp only [ofDayNumber, years, inYear, if_pos early, if_neg spring]
    rfl
  · rename_i late
    rw [monthOfDay] at high late
    have winter : (5 * rest + 2) / 153 - 9 ≤ 2 := by omega
    simp only [ofDayNumber, years, inYear, if_neg late, if_pos winter]
    rfl

/-- A day number is a day of some month of some year. -/
theorem exists_marchDay (n : Int) : ∃ year month day : Int, MarchDay year month day ∧
    ofDayNumber n = marchDate year month day ∧
    n = year / 400 * eraDays + (yearStart (year % 400) + (monthStart month + day)) -
      epochShift := by
  have first : 0 ≤ (n + epochShift) % eraDays := Int.emod_nonneg _ (by decide)
  have last : (n + epochShift) % eraDays < eraDays := Int.emod_lt_of_pos _ (by decide)
  obtain ⟨century, group, year, rest, e⟩ := exists_eraDay first last
  obtain ⟨rest_low, rest_high⟩ := e.rest_bounds
  obtain ⟨months, start, finish⟩ := monthOfDay_bounds rest_low rest_high
  refine ⟨_, _, _, ⟨months, by omega, by omega, by omega, ?_⟩, ofDayNumber_eq e, ?_⟩
  · intro leapDay
    exact e.isLeap_of_last (by omega) _
  · have years := e.yearInEra_bounds
    have era : (100 * century + 4 * group + year + (n + epochShift) / eraDays * 400) / 400 =
        (n + epochShift) / eraDays := by omega
    have inEra : (100 * century + 4 * group + year + (n + epochShift) / eraDays * 400) % 400 =
        100 * century + 4 * group + year := by omega
    have whole := Int.emod_add_mul_ediv (n + epochShift) eraDays
    rw [era, inEra, e.yearStart_eq]
    simp only [eraDays] at whole ⊢
    omega

theorem dayNumber_ofDayNumber (n : Int) : dayNumber (ofDayNumber n) = n := by
  obtain ⟨year, month, day, d, shown, number⟩ := exists_marchDay n
  rw [shown, d.dayNumber_marchDate]
  exact number.symm

theorem valid_ofDayNumber (n : Int) : Valid (ofDayNumber n) := by
  obtain ⟨year, month, day, d, shown, -⟩ := exists_marchDay n
  rw [shown]
  exact d.valid_marchDate

end StarWatch.Calendar
