import Mathlib.Logic.Function.Iterate
import Mathlib.Tactic.IntervalCases
import Tablewright.Proofs.Calendar.Order

/-!
# The days of the calendar

Within a month a day follows the one before it, and after the last day of a month comes the first
one of the next month (`Date.next`). The numbers of days count the days in this order: the next
day has the next number (`dayNumber_next`), every number is that of a day
(`dayNumber_ofDayNumber`), and days compare as their numbers do (`order_eq_compare`). So a day is reached from another one after as many steps as their numbers
differ by (`iterate_next_eq_iff`).
-/

namespace Tablewright.Date

open Function

/-- A day of the calendar, in any year. -/
structure IsDay (d : Date) : Prop where
  month_pos : 1 ≤ d.month
  month_le : d.month ≤ 12
  day_pos : 1 ≤ d.day
  day_le : d.day ≤ daysInMonth d.year d.month

/-- The day after a day. -/
def next (d : Date) : Date :=
  if d.day < daysInMonth d.year d.month then { d with day := d.day + 1 }
  else if d.month < 12 then ⟨d.year, d.month + 1, 1⟩
  else ⟨d.year + 1, 1, 1⟩

/-- The order of dates: a part matters only if the parts before it are the same. -/
def order (a b : Date) : Ordering :=
  (compare a.year b.year).then <| (compare a.month b.month).then (compare a.day b.day)

/-- Dates are ordered linearly. -/
instance : Std.TransCmp order :=
  inferInstanceAs (Std.TransCmp (compareLex (compareOn fun d : Date => d.year) <|
    compareLex (compareOn fun d : Date => d.month) (compareOn fun d : Date => d.day)))

/-- Dates at the same place in the order are the same. -/
theorem eq_of_order {a b : Date} (h : order a b = .eq) : a = b := by
  simp only [order, Ordering.then_eq_eq, Int.compare_eq_eq, Nat.compare_eq_eq] at h
  obtain ⟨hyear, hmonth, hday⟩ := h
  obtain ⟨_, _, _⟩ := a
  obtain ⟨_, _, _⟩ := b
  subst hyear hmonth hday
  rfl

theorem isValid_iff {d : Date} :
    d.IsValid ↔ firstYear ≤ d.year ∧ d.year ≤ lastYear ∧ d.IsDay := by
  simp only [IsValid, isRepresented, Bool.and_eq_true, decide_eq_true_eq]
  constructor
  · rintro ⟨⟨⟨⟨⟨hfirst, hlast⟩, hmonth⟩, hmonth'⟩, hday⟩, hday'⟩
    exact ⟨hfirst, hlast, hmonth, hmonth', hday, hday'⟩
  · rintro ⟨hfirst, hlast, hmonth, hmonth', hday, hday'⟩
    exact ⟨⟨⟨⟨⟨hfirst, hlast⟩, hmonth⟩, hmonth'⟩, hday⟩, hday'⟩

theorem IsValid.isDay {d : Date} (h : d.IsValid) : d.IsDay :=
  (isValid_iff.1 h).2.2

theorem daysInMonth_pos (year : Int) (month : Nat) : 1 ≤ daysInMonth year month := by
  unfold daysInMonth
  split
  · split <;> decide
  all_goals decide

/-! ## Years and months -/

theorem isLeapYear_iff (year : Int) :
    isLeapYear year = true ↔ year % 4 = 0 ∧ (year % 100 ≠ 0 ∨ year % 400 = 0) := by
  simp [isLeapYear]

/-- The number of days from 1 March of year 0 to 1 March of a year. -/
def daysBeforeMarch (year : Int) : Int :=
  365 * year + year / 4 - year / 100 + year / 400

theorem daysBeforeMarch_eq (year : Int) :
    year / 400 * daysPerEra + daysBeforeYear (year % 400) = daysBeforeMarch year := by
  unfold daysPerEra daysBeforeYear daysBeforeMarch
  omega

/-- The leap day comes in the year before 1 March. -/
theorem daysBeforeMarch_eq_add (year : Int) :
    daysBeforeMarch year = daysBeforeMarch (year - 1) + 337 + daysInMonth year 2 := by
  have hleap := isLeapYear_iff year
  simp only [daysBeforeMarch, daysInMonth]
  split
  case isTrue h =>
    rw [hleap] at h
    omega
  case isFalse h =>
    rw [hleap] at h
    omega

theorem dayNumber_eq_first (year : Int) (month day : Nat) :
    dayNumber ⟨year, month, day⟩ = dayNumber ⟨year, month, 1⟩ + day - 1 := by
  simp only [dayNumber]
  omega

/-- Every month ends where the next one begins, counted from March on. February comes last there,
and its length depends on the year. -/
theorem daysBeforeMonth_add_one (year : Int) {month : Nat} (hpos : 1 ≤ month) (hle : month ≤ 12)
    (hne : month ≠ 2) : daysBeforeMonth (monthFromMarch month + 1) =
      daysBeforeMonth (monthFromMarch month) + daysInMonth year month := by
  interval_cases month
  case «2» => contradiction
  all_goals rfl

/-- A month has as many days as it is long. -/
theorem dayNumber_nextMonth (year : Int) {month : Nat} (hpos : 1 ≤ month) (hlt : month < 12) :
    dayNumber ⟨year, month + 1, 1⟩ = dayNumber ⟨year, month, 1⟩ + daysInMonth year month := by
  simp only [dayNumber, daysBeforeMarch_eq]
  obtain rfl | hne := eq_or_ne month 2
  · have hmarch : daysBeforeMonth (monthFromMarch 3) = 0 := rfl
    have hfebruary : daysBeforeMonth (monthFromMarch 2) = 337 := rfl
    rw [if_neg (by decide), if_pos (by decide), daysBeforeMarch_eq_add, hmarch, hfebruary]
    omega
  · have hsame : month + 1 ≤ 2 ↔ month ≤ 2 := by omega
    have hmonth : monthFromMarch (month + 1) = monthFromMarch month + 1 := by
      unfold monthFromMarch
      omega
    rw [if_congr hsame rfl rfl, hmonth, daysBeforeMonth_add_one year hpos (Nat.le_of_lt hlt) hne]
    omega

/-- A year ends with December. -/
theorem dayNumber_nextYear (year : Int) :
    dayNumber ⟨year + 1, 1, 1⟩ = dayNumber ⟨year, 12, 1⟩ + 31 := by
  have hjanuary : daysBeforeMonth (monthFromMarch 1) = 306 := rfl
  have hdecember : daysBeforeMonth (monthFromMarch 12) = 275 := rfl
  simp only [dayNumber, daysBeforeMarch_eq]
  rw [if_pos (by decide), if_neg (by decide), hjanuary, hdecember, Int.add_sub_cancel]
  omega

/-! ## The next day -/

theorem IsDay.next {d : Date} (h : d.IsDay) : d.next.IsDay := by
  obtain ⟨hmonth, hmonth12, -, -⟩ := h
  unfold Date.next
  split
  case isTrue hday => exact ⟨hmonth, hmonth12, Nat.le_add_left 1 _, hday⟩
  split
  case isTrue hmonth => exact ⟨Nat.le_add_left 1 _, hmonth, Nat.le_refl 1, daysInMonth_pos _ _⟩
  case isFalse => exact ⟨Nat.le_refl 1, Nat.le_add_left 1 11, Nat.le_refl 1, daysInMonth_pos _ _⟩

/-- The next day has the next number. -/
theorem dayNumber_next {d : Date} (h : d.IsDay) : d.next.dayNumber = d.dayNumber + 1 := by
  obtain ⟨year, month, day⟩ := d
  obtain ⟨hmonth, hmonth12, -, hlast⟩ :
    1 ≤ month ∧ month ≤ 12 ∧ 1 ≤ day ∧ day ≤ daysInMonth year month := ⟨h.1, h.2, h.3, h.4⟩
  have hnumber := dayNumber_eq_first year month day
  unfold Date.next
  split
  case isTrue =>
    have hnext := dayNumber_eq_first year month (day + 1)
    change dayNumber ⟨year, month, day + 1⟩ = _
    omega
  -- the day is the last one of its month
  case isFalse hend =>
    change ¬day < daysInMonth year month at hend
    split
    case isTrue hlt =>
      have hnext := dayNumber_nextMonth year hmonth hlt
      change dayNumber ⟨year, month + 1, 1⟩ = _
      omega
    case isFalse hdecember =>
      obtain rfl : month = 12 := Nat.le_antisymm hmonth12 (Nat.le_of_not_lt hdecember)
      have hnext := dayNumber_nextYear year
      have hlength : daysInMonth year 12 = 31 := rfl
      change dayNumber ⟨year + 1, 1, 1⟩ = _
      omega

theorem IsDay.iterate_next {d : Date} (h : d.IsDay) (k : Nat) : (Date.next^[k] d).IsDay := by
  induction k with
  | zero => exact h
  | succ k ih =>
    rw [iterate_succ_apply']
    exact ih.next

theorem dayNumber_iterate_next {d : Date} (h : d.IsDay) (k : Nat) :
    (Date.next^[k] d).dayNumber = d.dayNumber + k := by
  induction k with
  | zero => simp
  | succ k ih =>
    rw [iterate_succ_apply', dayNumber_next (h.iterate_next k), ih]
    omega

/-! ## The order of days -/

/-- Months follow each other without gaps. -/
theorem dayNumber_month_le (year : Int) {a b : Nat} (hpos : 1 ≤ a) (hlt : a < b) (hle : b ≤ 12) :
    dayNumber ⟨year, a, 1⟩ + daysInMonth year a ≤ dayNumber ⟨year, b, 1⟩ := by
  induction b, hlt using Nat.le_induction with
  | base => rw [dayNumber_nextMonth year hpos hle]
  | succ b hab ih =>
    have hnext := dayNumber_nextMonth year (show 1 ≤ b by omega) hle
    have := ih (by omega)
    omega

/-- A month lies in its year. -/
theorem dayNumber_month_bounds (year : Int) {month : Nat} (hpos : 1 ≤ month) (hle : month ≤ 12) :
    dayNumber ⟨year, 1, 1⟩ ≤ dayNumber ⟨year, month, 1⟩ ∧
      dayNumber ⟨year, month, 1⟩ + daysInMonth year month ≤ dayNumber ⟨year + 1, 1, 1⟩ := by
  rw [dayNumber_nextYear]
  constructor
  · obtain rfl | hlt := Nat.eq_or_lt_of_le hpos
    · exact Int.le_refl _
    · have := dayNumber_month_le year (Nat.le_refl 1) hlt hle
      omega
  · obtain rfl | hlt := Nat.eq_or_lt_of_le hle
    · exact Int.le_refl _
    · have := dayNumber_month_le year hpos hlt (Nat.le_refl 12)
      omega

/-- A day lies in its year. -/
theorem IsDay.dayNumber_bounds {d : Date} (h : d.IsDay) :
    dayNumber ⟨d.year, 1, 1⟩ ≤ d.dayNumber ∧ d.dayNumber < dayNumber ⟨d.year + 1, 1, 1⟩ := by
  have hmonth := dayNumber_month_bounds d.year h.month_pos h.month_le
  have hnumber := dayNumber_eq_first d.year d.month d.day
  have hfirst := h.day_pos
  have hlast := h.day_le
  change d.dayNumber = _ at hnumber
  omega

theorem dayNumber_year_le {a b : Int} (h : a ≤ b) :
    dayNumber ⟨a, 1, 1⟩ ≤ dayNumber ⟨b, 1, 1⟩ := by
  simp only [dayNumber, daysBeforeMarch_eq]
  rw [if_pos (by decide), if_pos (by decide)]
  unfold daysBeforeMarch
  omega

/-- An earlier day has a lesser number. -/
theorem dayNumber_lt_of_order {a b : Date} (ha : a.IsDay) (hb : b.IsDay) (h : order a b = .lt) :
    a.dayNumber < b.dayNumber := by
  have hyear := ha.dayNumber_bounds
  have hyear' := hb.dayNumber_bounds
  obtain ⟨year, month, day⟩ := a
  obtain ⟨year', month', day'⟩ := b
  obtain ⟨hmonth, -, hday, hlast⟩ :
    1 ≤ month ∧ month ≤ 12 ∧ 1 ≤ day ∧ day ≤ daysInMonth year month := ⟨ha.1, ha.2, ha.3, ha.4⟩
  obtain ⟨hmonth12', hday'⟩ : month' ≤ 12 ∧ 1 ≤ day' := ⟨hb.2, hb.3⟩
  simp only [order, Ordering.then_eq_lt, Int.compare_eq_lt, Nat.compare_eq_lt, Int.compare_eq_eq,
    Nat.compare_eq_eq] at h
  obtain hyears | ⟨rfl, hmonths⟩ := h
  · have := dayNumber_year_le (Int.add_one_le_of_lt hyears)
    exact Int.lt_of_lt_of_le hyear.2 (Int.le_trans this hyear'.1)
  rw [dayNumber_eq_first year month day, dayNumber_eq_first year month' day']
  obtain hmonths | ⟨rfl, hdays⟩ := hmonths
  · have := dayNumber_month_le year hmonth hmonths hmonth12'
    omega
  · omega

/-- **Days compare as their numbers do.** -/
theorem order_eq_compare {a b : Date} (ha : a.IsDay) (hb : b.IsDay) :
    order a b = compare a.dayNumber b.dayNumber := by
  cases h : order a b with
  | lt => exact (Int.compare_eq_lt.2 (dayNumber_lt_of_order ha hb h)).symm
  | eq =>
    rw [eq_of_order h]
    exact (Int.compare_eq_eq.2 rfl).symm
  | gt =>
    have hswap : order b a = .lt := Std.OrientedCmp.gt_iff_lt.1 h
    exact (Int.compare_eq_gt.2 (dayNumber_lt_of_order hb ha hswap)).symm

/-- Different days have different numbers. -/
theorem eq_of_dayNumber_eq {a b : Date} (ha : a.IsDay) (hb : b.IsDay)
    (h : a.dayNumber = b.dayNumber) : a = b :=
  eq_of_order (by rw [order_eq_compare ha hb, Int.compare_eq_eq.2 h])

/-- The numbers of the days that are represented. -/
theorem IsValid.dayNumber_bounds {d : Date} (h : d.IsValid) :
    -95745824 ≤ d.dayNumber ∧ d.dayNumber ≤ 95745704 := by
  obtain ⟨hfirst, hlast, hday⟩ := isValid_iff.1 h
  have hbounds := hday.dayNumber_bounds
  have hle := dayNumber_year_le hfirst
  have hle' := dayNumber_year_le (Int.add_le_add_right hlast 1)
  have hstart : dayNumber ⟨firstYear, 1, 1⟩ = -95745824 := by decide
  have hend : dayNumber ⟨lastYear + 1, 1, 1⟩ = 95745705 := by decide
  omega

/-! ## Days of numbers -/

/-- A day of an era by its century, its cycle of four years and its year. The centuries and the
cycles end with a day more if their last year is a leap year. -/
theorem exists_yearParts {n : Int} (hpos : 0 ≤ n) (hlt : n < daysPerEra) :
    ∃ century cycle year day : Int, n = 36524 * century + 1461 * cycle + 365 * year + day ∧
      0 ≤ century ∧ century ≤ 3 ∧ 0 ≤ cycle ∧ cycle ≤ 24 ∧ 0 ≤ year ∧ year ≤ 3 ∧ 0 ≤ day ∧
      (day ≤ 364 ∨ day = 365 ∧ year = 3 ∧ (cycle ≤ 23 ∨ century = 3)) := by
  unfold daysPerEra at hlt
  -- the last day of an era belongs to its last century, the last day of a leap year to its year
  obtain ⟨century, rest, hn, hcentury, hcentury3, hrest, hrest'⟩ :
      ∃ century rest, n = 36524 * century + rest ∧ 0 ≤ century ∧ century ≤ 3 ∧ 0 ≤ rest ∧
        (rest < 36524 ∨ rest = 36524 ∧ century = 3) :=
    ⟨min (n / 36524) 3, n - 36524 * min (n / 36524) 3, by omega, by omega, by omega, by omega,
      by omega⟩
  refine ⟨century, rest / 1461, min (rest % 1461 / 365) 3,
    rest % 1461 - 365 * min (rest % 1461 / 365) 3, ?_⟩
  omega

/-- A day of an era lies in its year, whose last day is the leap day if it is the 366th. -/
theorem yearOfEra_bounds {n : Int} (hpos : 0 ≤ n) (hlt : n < daysPerEra) :
    0 ≤ yearOfEra n ∧ yearOfEra n < 400 ∧ 0 ≤ n - daysBeforeYear (yearOfEra n) ∧
      (n - daysBeforeYear (yearOfEra n) ≤ 364 ∨
        n - daysBeforeYear (yearOfEra n) = 365 ∧ isLeapYear (yearOfEra n + 1)) := by
  obtain ⟨century, cycle, year, day, hn, hcentury, hcentury3, hcycle, hcycle24, hyear, hyear3, hday,
    hlast⟩ := exists_yearParts hpos hlt
  have hcenturies : n / 36524 - n / 146096 = century := by
    have : n < 36524 * century + 36524 ∨ century = 3 ∧ n = 146096 := by omega
    obtain hinside | ⟨rfl, rfl⟩ := this
    · omega
    · rfl
  -- a cycle is a day longer than 1460 days, so the quotient runs ahead of the cycles by one at most
  have hcycles : n / 1460 = 25 * century + cycle +
      if 1460 ≤ 24 * century + cycle + 365 * year + day then 1 else 0 := by
    split <;> omega
  have hyears : yearOfEra n = 100 * century + 4 * cycle + year := by
    unfold yearOfEra
    split at hcycles <;> omega
  have hdays : daysBeforeYear (yearOfEra n) = 36524 * century + 1461 * cycle + 365 * year := by
    rw [hyears]
    unfold daysBeforeYear
    omega
  rw [hdays, hyears, isLeapYear_iff]
  omega

/-- A day of a year from March on lies in its month. -/
theorem monthOfDay_bounds {n month : Int} (hpos : 0 ≤ n) (hle : n ≤ 365)
    (hmonth : month = (5 * n + 2) / 153) :
    0 ≤ month ∧ month ≤ 11 ∧ daysBeforeMonth month ≤ n ∧ n < daysBeforeMonth (month + 1) := by
  unfold daysBeforeMonth
  omega

/-- A month by its number from March on. -/
theorem exists_month {m : Int} (hpos : 0 ≤ m) (hle : m ≤ 11) :
    ∃ month : Nat, 1 ≤ month ∧ month ≤ 12 ∧ monthFromMarch month = m ∧
      (month ≤ 2 ↔ ¬m < 10) ∧ (if m < 10 then m + 3 else m - 9).toNat = month := by
  refine ⟨(if m < 10 then m + 3 else m - 9).toNat, ?_⟩
  unfold monthFromMarch
  split <;> omega

/-- The day of a number, with the year from March on that it belongs to. -/
theorem exists_ofDayNumber (n : Int) : ∃ (year : Int) (month day : Nat),
    ofDayNumber n = ⟨if month ≤ 2 then year + 1 else year, month, day⟩ ∧
      1 ≤ month ∧ month ≤ 12 ∧ 1 ≤ day ∧
      day ≤ daysInMonth (if month ≤ 2 then year + 1 else year) month ∧
      n = daysBeforeMarch year + daysBeforeMonth (monthFromMarch month) + day - 1 := by
  have hn : n / daysPerEra * daysPerEra + n % daysPerEra = n := Int.ediv_mul_add_emod n daysPerEra
  have hera := Int.emod_nonneg n (show daysPerEra ≠ 0 by decide)
  have hera' := Int.emod_lt_of_pos n (show 0 < daysPerEra by decide)
  simp only [ofDayNumber]
  generalize n / daysPerEra = era at *
  generalize n % daysPerEra = dayOfEra at *
  obtain ⟨hyear, hyear400, hday, hlast⟩ := yearOfEra_bounds hera hera'
  generalize yearOfEra dayOfEra = yearOfEra at *
  generalize hdayOfYear : dayOfEra - daysBeforeYear yearOfEra = dayOfYear at *
  obtain ⟨hm, hm11, hbefore, hafter⟩ := monthOfDay_bounds hday (by omega) rfl
  generalize (5 * dayOfYear + 2) / 153 = m at *
  obtain ⟨month, hmonth, hmonth12, rfl, hlate, hmonthOf⟩ := exists_month hm hm11
  have hnumber : n = daysBeforeMarch (era * 400 + yearOfEra) + dayOfYear := by
    have hdiv : (era * 400 + yearOfEra) / 400 = era := by omega
    have hmod : (era * 400 + yearOfEra) % 400 = yearOfEra := by omega
    rw [← daysBeforeMarch_eq, hdiv, hmod]
    omega
  refine ⟨era * 400 + yearOfEra, month,
    (dayOfYear - daysBeforeMonth (monthFromMarch month) + 1).toNat, ?_, hmonth, hmonth12, ?_, ?_,
    ?_⟩
  · rw [hmonthOf, if_congr hlate rfl rfl, ite_not]
  · omega
  -- the year from March on ends with February, so that its length is the length of the month
  · obtain rfl | hne := eq_or_ne month 2
    · have hleap : isLeapYear (era * 400 + yearOfEra + 1) = isLeapYear (yearOfEra + 1) := by
        rw [Bool.eq_iff_iff, isLeapYear_iff, isLeapYear_iff]
        omega
      have hfebruary : daysBeforeMonth (monthFromMarch 2) = 337 := rfl
      rw [if_pos (by decide), daysInMonth, hleap, hfebruary]
      obtain hplain | ⟨rfl, hleapYear⟩ := hlast
      · split <;> omega
      · rw [if_pos hleapYear]
        decide
    · have := daysBeforeMonth_add_one (if month ≤ 2 then era * 400 + yearOfEra + 1
        else era * 400 + yearOfEra) hmonth hmonth12 hne
      omega
  · omega

theorem isDay_ofDayNumber (n : Int) : (ofDayNumber n).IsDay := by
  obtain ⟨year, month, day, h, hmonth, hmonth12, hday, hlast, -⟩ := exists_ofDayNumber n
  rw [h]
  exact ⟨hmonth, hmonth12, hday, hlast⟩

/-- Every number is that of its day. -/
theorem dayNumber_ofDayNumber (n : Int) : (ofDayNumber n).dayNumber = n := by
  obtain ⟨year, month, day, h, -, -, -, -, hn⟩ := exists_ofDayNumber n
  have hyear : (if month ≤ 2 then (if month ≤ 2 then year + 1 else year) - 1
      else if month ≤ 2 then year + 1 else year) = year := by
    split <;> omega
  rw [h]
  simp only [dayNumber, daysBeforeMarch_eq, hyear]
  exact hn.symm

/-- **A day is reached after as many days as the numbers differ by.** -/
theorem iterate_next_eq_iff {a b : Date} (ha : a.IsDay) (hb : b.IsDay) {k : Nat} :
    Date.next^[k] a = b ↔ b.dayNumber = a.dayNumber + k := by
  rw [← dayNumber_iterate_next ha]
  constructor
  · rintro rfl
    rfl
  · intro h
    exact eq_of_dayNumber_eq (ha.iterate_next k) hb h.symm

end Tablewright.Date
