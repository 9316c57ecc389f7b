import OpenRfc.Foundation.Fallible
import OpenRfc.Foundation.Search
import Mathlib.Tactic.Linarith

/-!
The calendar of the temporal codecs: Julian up to October 1582, Gregorian from then on, and ten days
shorter in that month. A date is counted from the first day of the year one.
-/

namespace OpenRfc.Values
open Fallible

structure CalendarDate where
  year : Nat
  month : Nat
  day : Nat
deriving DecidableEq, Repr

def daysByMonth : List Nat := [31, 29, 31, 30, 31, 30, 31, 31, 30, 31, 30, 31]

def isLeapYear (year : Nat) : Bool :=
  if year < 1582 then year % 4 = 0
  else year % 4 = 0 && (year % 100 ≠ 0 || year % 400 = 0)

def daysInMonth (year month : Nat) : Nat :=
  if month = 2 then (if isLeapYear year then 29 else 28)
  else if year = 1582 ∧ month = 10 then 21
  else daysByMonth.getD (month - 1) 0

/-- A month without the days which have been left out of October 1582. -/
def conventionalMaximum (year month : Nat) : Nat :=
  if month = 2 then (if isLeapYear year then 29 else 28) else daysByMonth.getD (month - 1) 0

/-- `value.toString().padStart(width, "0")` -/
def padded (width value : Nat) : String :=
  String.ofList (List.replicate (width - (toString value).length) '0') ++ toString value

def twoDigits (value : Nat) : String := padded 2 value
def fourDigits (value : Nat) : String := padded 4 value

def parseDateParts (path name : String) (year month day : Nat) : Except String CalendarDate := do
  require (1 ≤ year ∧ year ≤ 9999) s!"{path} {name} year must be in 0001..9999"
  require (1 ≤ month ∧ month ≤ 12) s!"{path} {name} month must be in 01..12"
  require (1 ≤ day ∧ day ≤ conventionalMaximum year month)
    s!"{path} {name} has invalid day {twoDigits day}"
  require (¬(year = 1582 ∧ month = 10 ∧ 5 ≤ day ∧ day ≤ 14))
    s!"{path} {name} is in the Gregorian calendar gap 1582-10-05..1582-10-14"
  .ok ⟨year, month, day⟩

def daysInPreviousYears (year : Nat) : Nat :=
  let previousYears := year - 1
  let through1600 := min previousYears 1600
  let withinCentury := through1600 % 100
  let days := through1600 / 100 * 36525 + withinCentury / 4 * 1461 + withinCentury % 4 * 365
  let days := if 1582 < year then days - 10 else days
  if previousYears ≤ 1600 then days
  else
    let after1600 := previousYears - 1600
    let days := days + after1600 / 400 * 146097
    let after1600 := after1600 % 400
    let finalCentury := after1600 % 100
    days + after1600 / 100 * 36524 + finalCentury / 4 * 1461 + finalCentury % 4 * 365

/-- The lengths of the months of a year. -/
def monthLengths (year : Nat) : List Nat := (List.range 12).map fun month => daysInMonth year (month + 1)

def dateOrdinal (date : CalendarDate) : Nat :=
  let adjustedDay := if date.year = 1582 ∧ date.month = 10 ∧ 15 ≤ date.day then date.day - 10
    else date.day
  daysInPreviousYears date.year + ((monthLengths date.year).take (date.month - 1)).sum +
    (adjustedDay - 1)

def dateFromOrdinal (ordinal : Nat) : CalendarDate :=
  let year := Search.lastTrue (fun candidate => daysInPreviousYears candidate ≤ ordinal) 1 10000
  let (months, remaining) := Search.locate (monthLengths year) (ordinal - daysInPreviousYears year)
  let month := months + 1
  let day := remaining + 1
  ⟨year, month, if year = 1582 ∧ month = 10 ∧ 4 < day then day + 10 else day⟩

section Years

theorem sum_monthLengths (year : Nat) : (monthLengths year).sum =
    if year = 1582 then 355 else if isLeapYear year then 366 else 365 := by
  have hleap : isLeapYear 1582 = false := rfl
  by_cases hyear : year = 1582
  · subst hyear
    rfl
  · cases h : isLeapYear year <;> simp [monthLengths, daysInMonth, daysByMonth, hyear, h, List.range,
      List.range.loop]

theorem isLeapYear_iff (year : Nat) : isLeapYear year = true ↔
    year % 4 = 0 ∧ (year < 1582 ∨ year % 100 ≠ 0 ∨ year % 400 = 0) := by
  rw [isLeapYear]
  split
  · simp_all
  · rename_i hlate
    simp [hlate]

/-- The days of Julian years, counted by centuries, by four years, and by years. -/
theorem julian_days (n : Nat) :
    n / 100 * 36525 + n % 100 / 4 * 1461 + n % 100 % 4 * 365 = 365 * n + n / 4 := by
  have hquarter : n / 4 = 25 * (n / 100) + n % 100 / 4 := by omega
  omega

theorem gregorian_days (n : Nat) :
    n / 400 * 146097 + n % 400 / 100 * 36524 + n % 400 % 100 / 4 * 1461 +
      n % 400 % 100 % 4 * 365 + n / 100 = 365 * n + n / 4 + n / 400 := by
  have hquarter : n / 4 = 100 * (n / 400) + n % 400 / 4 := by omega
  have hcentury : n / 100 = 4 * (n / 400) + n % 400 / 100 := by omega
  have hjulian := julian_days (n % 400)
  have hrest := Nat.div_add_mod n 400
  linarith only [hquarter, hcentury, hjulian, hrest]

theorem daysInPreviousYears_early {year : Nat} (h : year ≤ 1601) :
    daysInPreviousYears year + (if 1582 < year then 10 else 0) =
      365 * (year - 1) + (year - 1) / 4 := by
  have hjulian := julian_days (year - 1)
  simp only [daysInPreviousYears]
  rw [Nat.min_eq_left (by omega), if_pos (by omega), hjulian]
  split_ifs <;> omega

theorem daysInPreviousYears_late {year n : Nat} (h : year = 1601 + n) (hpos : 0 < n) :
    daysInPreviousYears year + n / 100 = 584390 + (365 * n + n / 4 + n / 400) := by
  have hgregorian := gregorian_days n
  have hyears : year - 1 - 1600 = n := by omega
  simp only [daysInPreviousYears]
  rw [Nat.min_eq_right (by omega), if_neg (by omega), if_pos (by omega), hyears, ← hgregorian]
  omega

/-- A year starts where the months of the one before it end. -/
theorem daysInPreviousYears_succ {year : Nat} (hpos : 0 < year) :
    daysInPreviousYears (year + 1) = daysInPreviousYears year + (monthLengths year).sum := by
  rw [sum_monthLengths]
  by_cases hearly : year ≤ 1600
  · have hthis := daysInPreviousYears_early (show year ≤ 1601 by omega)
    have hnext := daysInPreviousYears_early (show year + 1 ≤ 1601 by omega)
    rw [Nat.add_sub_cancel] at hnext
    by_cases hleap : isLeapYear year = true
    · have hyear := (isLeapYear_iff year).mp hleap
      have hquarter : year / 4 = (year - 1) / 4 + 1 := by omega
      rw [if_pos hleap]
      split_ifs at hthis hnext ⊢ <;> omega
    · have hyear := mt (isLeapYear_iff year).mpr hleap
      rw [if_neg hleap]
      by_cases hgap : year < 1582
      · have hquarter : year / 4 = (year - 1) / 4 := by omega
        split_ifs at hthis hnext ⊢ <;> omega
      · have hquarter : year / 4 = (year - 1) / 4 := by omega
        split_ifs at hthis hnext ⊢ <;> omega
  · by_cases hcentury : year = 1601
    · subst hcentury
      decide
    · obtain ⟨n, hn⟩ : ∃ n, year = 1601 + n := ⟨year - 1601, by omega⟩
      have hthis := daysInPreviousYears_late hn (by omega)
      have hnext := daysInPreviousYears_late (show year + 1 = 1601 + (n + 1) by omega) (by omega)
      rw [if_neg (by omega)]
      by_cases hleap : isLeapYear year = true
      · have hyear := (isLeapYear_iff year).mp hleap
        have hquarter : (n + 1) / 4 = n / 4 + 1 := by omega
        rw [if_pos hleap]
        by_cases hfour : year % 400 = 0
        · have hhundred : (n + 1) / 100 = n / 100 + 1 := by omega
          have hlong : (n + 1) / 400 = n / 400 + 1 := by omega
          omega
        · have hhundred : (n + 1) / 100 = n / 100 := by omega
          have hlong : (n + 1) / 400 = n / 400 := by omega
          omega
      · have hyear := mt (isLeapYear_iff year).mpr hleap
        have hlong : (n + 1) / 400 = n / 400 := by omega
        rw [if_neg hleap]
        by_cases hfour : year % 4 = 0
        · have hquarter : (n + 1) / 4 = n / 4 + 1 := by omega
          have hhundred : (n + 1) / 100 = n / 100 + 1 := by omega
          omega
        · have hquarter : (n + 1) / 4 = n / 4 := by omega
          have hhundred : (n + 1) / 100 = n / 100 := by omega
          omega

theorem daysInPreviousYears_mono {year year' : Nat} (hpos : 0 < year) (h : year ≤ year') :
    daysInPreviousYears year ≤ daysInPreviousYears year' := by
  induction year', h using Nat.le_induction with
  | base => exact le_rfl
  | succ year' hle ih =>
      rw [daysInPreviousYears_succ (by omega)]
      omega

end Years

section Dates
variable {date : CalendarDate}

/-- A date which has been parsed. -/
def CalendarDate.Valid (date : CalendarDate) : Prop :=
  (1 ≤ date.year ∧ date.year ≤ 9999) ∧ (1 ≤ date.month ∧ date.month ≤ 12) ∧
    (1 ≤ date.day ∧ date.day ≤ conventionalMaximum date.year date.month) ∧
    ¬(date.year = 1582 ∧ date.month = 10 ∧ 5 ≤ date.day ∧ date.day ≤ 14)

theorem parseDateParts_eq_ok {path name : String} {year month day : Nat} :
    parseDateParts path name year month day = .ok date ↔
      (⟨year, month, day⟩ : CalendarDate).Valid ∧ ⟨year, month, day⟩ = date := by
  simp only [parseDateParts, bind_eq_ok, require_eq_ok, exists_const, Except.ok.injEq,
    CalendarDate.Valid, and_assoc]

theorem length_monthLengths (year : Nat) : (monthLengths year).length = 12 := by
  simp [monthLengths]

theorem getElem_monthLengths {year month : Nat} (h : month < (monthLengths year).length) :
    (monthLengths year)[month] = daysInMonth year (month + 1) := by
  simp [monthLengths]

/-- The day of a month, counted without the days which have been left out. -/
def dayIndex (date : CalendarDate) : Nat :=
  (if date.year = 1582 ∧ date.month = 10 ∧ 15 ≤ date.day then date.day - 10 else date.day) - 1

theorem dayIndex_lt (h : date.Valid) : dayIndex date < daysInMonth date.year date.month := by
  obtain ⟨-, -, ⟨hday, hmax⟩, hgap⟩ := h
  by_cases hoctober : date.year = 1582 ∧ date.month = 10
  · have hlength : daysInMonth date.year date.month = 21 := by
      rw [hoctober.1, hoctober.2]
      rfl
    have hlast : conventionalMaximum date.year date.month = 31 := by
      rw [hoctober.1, hoctober.2]
      rfl
    rw [dayIndex, hlength]
    split_ifs <;> omega
  · have hlength : daysInMonth date.year date.month = conventionalMaximum date.year date.month := by
      rw [daysInMonth, if_neg hoctober, conventionalMaximum]
    rw [dayIndex, hlength, if_neg (fun h => hoctober ⟨h.1, h.2.1⟩)]
    omega

/-- A date is found again from the number of its day. -/
theorem dateFromOrdinal_dateOrdinal (h : date.Valid) : dateFromOrdinal (dateOrdinal date) = date := by
  have hindex := dayIndex_lt h
  obtain ⟨⟨hyear, hyear'⟩, ⟨hmonth, hmonth'⟩, ⟨hday, hmax⟩, hgap⟩ := h
  have hordinal : dateOrdinal date = daysInPreviousYears date.year +
      (((monthLengths date.year).take (date.month - 1)).sum + dayIndex date) := by
    rw [dateOrdinal, dayIndex, Nat.add_assoc]
  have hmonths : date.month - 1 < (monthLengths date.year).length := by
    rw [length_monthLengths]
    omega
  have hrest : dayIndex date < (monthLengths date.year)[date.month - 1] := by
    rw [getElem_monthLengths hmonths, Nat.sub_add_cancel hmonth]
    exact hindex
  have hlocate := Search.locate_sum_add hmonths hrest
  have hwithin : ((monthLengths date.year).take (date.month - 1)).sum + dayIndex date <
      (monthLengths date.year).sum :=
    Search.sum_take_add_lt hmonths hrest
  have hfound : Search.lastTrue (fun candidate => daysInPreviousYears candidate ≤
      dateOrdinal date) 1 10000 = date.year := by
    apply Search.lastTrue_eq (by omega) (by omega)
    intro candidate hpos _
    rw [decide_eq_true_iff, hordinal]
    constructor
    · intro hle
      by_contra hgt
      have hmono := daysInPreviousYears_mono (show 0 < date.year + 1 by omega)
        (show date.year + 1 ≤ candidate by omega)
      rw [daysInPreviousYears_succ (by omega)] at hmono
      omega
    · intro hle
      have hmono := daysInPreviousYears_mono hpos hle
      omega
  have hmonth : date.month - 1 + 1 = date.month := Nat.sub_add_cancel hmonth
  have hday : (if date.year = 1582 ∧ date.month = 10 ∧ 4 < dayIndex date + 1 then
      dayIndex date + 1 + 10 else dayIndex date + 1) = date.day := by
    rw [dayIndex]
    split_ifs <;> omega
  rw [dateFromOrdinal, hfound, hordinal, Nat.add_sub_cancel_left, hlocate]
  dsimp only
  rw [hmonth, hday]

end Dates
end OpenRfc.Values
