import OpenRfc.Values.ClassicTemporal

/-!
The calendar in the order of its dates. Every number in its range is the number of a date or of a
week, and the numbers follow the order of years, months and days.
-/

namespace OpenRfc.Values
open Fallible

section Dates
variable {date date' : CalendarDate}

theorem dateOrdinal_eq (date : CalendarDate) : dateOrdinal date =
    daysInPreviousYears date.year +
      (((monthLengths date.year).take (date.month - 1)).sum + dayIndex date) := by
  rw [dateOrdinal, dayIndex, Nat.add_assoc]

/-- A day of a month, with the days which have been left out in front of it. -/
theorem exists_dayIndex {year month index : Nat} (h : index < daysInMonth year month) :
    ∃ day, (1 ≤ day ∧ day ≤ conventionalMaximum year month) ∧
      ¬(year = 1582 ∧ month = 10 ∧ 5 ≤ day ∧ day ≤ 14) ∧ dayIndex ⟨year, month, day⟩ = index := by
  by_cases hoctober : year = 1582 ∧ month = 10
  · obtain ⟨rfl, rfl⟩ := hoctober
    have hlength : daysInMonth 1582 10 = 21 := rfl
    have hlast : conventionalMaximum 1582 10 = 31 := rfl
    by_cases hlate : 4 ≤ index
    · refine ⟨index + 11, by omega, by omega, ?_⟩
      unfold dayIndex
      dsimp only
      rw [if_pos ⟨rfl, rfl, by omega⟩]
      omega
    · refine ⟨index + 1, by omega, by omega, ?_⟩
      unfold dayIndex
      dsimp only
      rw [if_neg (by omega), Nat.add_sub_cancel]
  · rw [daysInMonth, if_neg hoctober, ← conventionalMaximum] at h
    refine ⟨index + 1, by omega, fun hgap => hoctober ⟨hgap.1, hgap.2.1⟩, ?_⟩
    rw [dayIndex, if_neg (fun hgap => hoctober ⟨hgap.1, hgap.2.1⟩), Nat.add_sub_cancel]

theorem exists_dateOrdinal {ordinal : Nat} (h : ordinal < daysInPreviousYears 10000) :
    ∃ date : CalendarDate, date.Valid ∧ dateOrdinal date = ordinal := by
  have hzero : daysInPreviousYears 1 = 0 := rfl
  obtain ⟨year, hpos, hlast, hstart, hend⟩ :=
    Search.exists_step (show 1 ≤ 10000 by omega) (show daysInPreviousYears 1 ≤ ordinal by omega) h
  rw [daysInPreviousYears_succ hpos] at hend
  obtain ⟨months, rest, hmonths, hrest, hwithin⟩ := Search.exists_locate
    (show ordinal - daysInPreviousYears year < (monthLengths year).sum by omega)
  rw [getElem_monthLengths hmonths] at hrest
  rw [length_monthLengths] at hmonths
  obtain ⟨day, hday, hgap, hindex⟩ := exists_dayIndex hrest
  refine ⟨⟨year, months + 1, day⟩, ⟨⟨hpos, Nat.le_of_lt_succ hlast⟩,
    ⟨Nat.le_add_left 1 months, hmonths⟩, hday, hgap⟩, ?_⟩
  rw [dateOrdinal_eq, hindex, Nat.add_sub_cancel, hwithin]
  exact Nat.add_sub_of_le hstart

theorem dateOrdinal_lt_next (h : date.Valid) :
    dateOrdinal date < daysInPreviousYears (date.year + 1) := by
  have hindex := dayIndex_lt h
  obtain ⟨⟨hyear, -⟩, ⟨hmonth, hmonth'⟩, -, -⟩ := h
  have hmonths : date.month - 1 < (monthLengths date.year).length := by
    rw [length_monthLengths]
    omega
  have hsum : _ + dayIndex date < _ := Search.sum_take_add_lt hmonths
    (by rw [getElem_monthLengths hmonths, Nat.sub_add_cancel hmonth]; exact hindex)
  rw [dateOrdinal_eq, daysInPreviousYears_succ hyear]
  omega

/-- Days are numbered in the order of years, months and days. -/
theorem dateOrdinal_lt (h : date.Valid) (h' : date'.Valid)
    (hlt : dateGroups date < dateGroups date') : dateOrdinal date < dateOrdinal date' := by
  simp only [dateGroups, List.cons_lt_cons_iff, List.not_lt_nil, and_false, or_false] at hlt
  rcases hlt with hyear | ⟨hyear, hmonth | ⟨hmonth, hday⟩⟩
  · have hnext := dateOrdinal_lt_next h
    have hmono := daysInPreviousYears_mono (show 0 < date.year + 1 by omega)
      (show date.year + 1 ≤ date'.year by omega)
    rw [dateOrdinal_eq date']
    omega
  · have hindex := dayIndex_lt h
    obtain ⟨-, ⟨hfirst, -⟩, -, -⟩ := h
    obtain ⟨-, ⟨-, hlast⟩, -, -⟩ := h'
    have hlength := length_monthLengths date.year
    have hmonths : date.month - 1 < (monthLengths date.year).length := by omega
    have hsum : ((monthLengths date.year).take (date.month - 1)).sum + dayIndex date < _ :=
      Search.sum_take_add_lt_of_lt (show date.month - 1 < date'.month - 1 by omega) (by omega)
      (by rw [getElem_monthLengths hmonths, Nat.sub_add_cancel hfirst]; exact hindex)
    rw [dateOrdinal_eq, dateOrdinal_eq, ← hyear]
    omega
  · obtain ⟨-, -, ⟨hfirst, -⟩, hgap⟩ := h
    obtain ⟨-, -, -, hgap'⟩ := h'
    have hindex : dayIndex date < dayIndex date' := by
      rw [dayIndex, dayIndex]
      split_ifs <;> omega
    rw [dateOrdinal_eq, dateOrdinal_eq, ← hyear, ← hmonth]
    omega

end Dates

section Weeks
variable {year week : Nat}

theorem yearsWithWeek53_get (hpos : 0 < year) (hmax : year ≤ 9999)
    (hlong : calendarYearHasWeek53 year = true) :
    yearsWithWeek53[priorWeek53Count year]? = some year := by
  have hrange : List.range' year (10000 - year) =
      year :: List.range' (year + 1) (10000 - year - 1) := by
    have hcount : 10000 - year = 10000 - year - 1 + 1 := by omega
    rw [hcount, List.range'_succ, ← hcount]
  rw [priorWeek53Count_eq hpos (by omega), yearsWithWeek53_split hpos (by omega),
    List.getElem?_append_right le_rfl, Nat.sub_self, hrange, List.filter_cons_of_pos hlong]
  rfl

theorem weekOrdinal_of {path : String} (hpos : 0 < year) (hmax : year ≤ 9999)
    (hlong : week = 53 → calendarYearHasWeek53 year = true) :
    weekOrdinal path year week = .ok (weekStart year + week) := by
  have hcount := priorWeek53Count_eq hpos (show year ≤ 10000 by omega)
  have hle := List.length_filter_le calendarYearHasWeek53 (List.range' 1 (year - 1))
  rw [List.length_range'] at hle
  rw [weekOrdinal, if_neg (by omega)]
  dsimp only
  rw [require_of, ok_bind, weekStart]
  · exact congrArg Except.ok (by omega)
  · rintro ⟨hlast, hother⟩
    exact hother (yearsWithWeek53_get hpos hmax (hlong hlast))

theorem weekStart_end : weekStart 10000 = 521724 := by
  have hcount : ((List.range' 1 9999).filter calendarYearHasWeek53).length = 1776 := by
    decide +kernel
  rw [weekStart, priorWeek53Count_eq (by omega) le_rfl, hcount]

theorem exists_weekOrdinal (path : String) {ordinal : Nat} (h : ordinal ≤ 521724) :
    ∃ year week, year ≤ 9999 ∧ (1 ≤ week ∧ week ≤ 53) ∧
      weekOrdinal path year week = .ok ordinal := by
  rcases Nat.eq_zero_or_pos ordinal with rfl | hordinal
  · exact ⟨0, 53, by omega, by omega, rfl⟩
  · have hzero : weekStart 1 = 0 := by
      rw [weekStart, priorWeek53Count_eq (by omega) (by omega)]
      rfl
    have hend := weekStart_end
    obtain ⟨year, hpos, hlast, hstart, hstop⟩ := Search.exists_step
      (f := weekStart) (show 1 ≤ 10000 by omega) (show weekStart 1 ≤ ordinal - 1 by omega)
      (show ordinal - 1 < weekStart 10000 by omega)
    rw [weekStart_succ hpos (by omega), weekCount] at hstop
    have hsum : weekStart year + (ordinal - weekStart year) = ordinal := by omega
    refine ⟨year, ordinal - weekStart year, by omega, by split at hstop <;> omega, ?_⟩
    rw [weekOrdinal_of hpos (by omega), hsum]
    intro hweek
    by_contra hshort
    rw [if_neg hshort] at hstop
    omega

/-- Weeks are numbered in the order of years and weeks. -/
theorem weekOrdinal_lt {path : String} {year' week' ordinal ordinal' : Nat}
    (hyear : year ≤ 9999) (hyear' : year' ≤ 9999) (hweek : week ≤ 53) (hweek' : 1 ≤ week' ∧ week' ≤ 53)
    (h : weekOrdinal path year week = .ok ordinal)
    (h' : weekOrdinal path year' week' = .ok ordinal')
    (hlt : year < year' ∨ year = year' ∧ week < week') : ordinal < ordinal' := by
  rcases Nat.eq_zero_or_pos year' with rfl | hpos'
  · obtain ⟨hzero, hless⟩ := hlt.resolve_left (Nat.not_lt_zero year)
    rw [weekOrdinal, if_pos hzero] at h
    obtain ⟨_, hlast, -⟩ := bind_eq_ok.mp h
    rw [require_eq_ok] at hlast
    omega
  · obtain ⟨rfl, -⟩ := weekOrdinal_eq_ok hpos' hyear' h'
    rcases Nat.eq_zero_or_pos year with rfl | hpos
    · rw [weekOrdinal, if_pos rfl] at h
      obtain ⟨_, -, h⟩ := bind_eq_ok.mp h
      rw [← Except.ok.inj h]
      omega
    · obtain ⟨rfl, hlong⟩ := weekOrdinal_eq_ok hpos hyear h
      rcases hlt with hless | ⟨rfl, hless⟩
      · have hnext := weekStart_succ hpos hyear
        have hmono := weekStart_mono (show 0 < year + 1 by omega)
          (show year + 1 ≤ year' by omega) (by omega)
        have hcount : week ≤ weekCount year := by
          rw [weekCount]
          split
          · exact hweek
          · rename_i hshort
            have hne : week ≠ 53 := fun he => hshort (hlong he)
            omega
        omega
      · omega

end Weeks
end OpenRfc.Values
