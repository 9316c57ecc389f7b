import OpenRfc.Values.Calendar
import OpenRfc.Values.RfcValue

/-!
Dates, times, and the compact temporal types. A compact value is a signed integer which counts from
the start of its calendar; zero is the initial value.
-/

namespace OpenRfc.Values
open Fallible Numeral

section DateAndTime

def blanks (count : Nat) : JsString := List.replicate count 0x20

def isDigits (count : Nat) (s : JsString) : Bool := s.length = count && s.all (digitOf? · |>.isSome)

/-- `/^(?:\d{count}| {count}|)$/u` -/
def isClassicText (count : Nat) (s : JsString) : Bool := isDigits count s || s = blanks count || s = []

def assertClassicText (count : Nat) (error : String) (value : RfcValue) : Except String JsString :=
  match value with
  | .text s => do
    require (isClassicText count s) error
    .ok s
  | _ => .error error

def classicWireText (count : Nat) (error : String) (value : RfcValue) : Except String JsString := do
  let s ← assertClassicText count error value
  .ok (if s = [] then blanks count else s)

def classicPublicText (count : Nat) (error : String) (value : JsString) : Except String JsString := do
  require (isDigits count value || value = blanks count) error
  .ok (if value = blanks count then [] else value)

def invalidDate (path : String) : String :=
  s!"{path} expects YYYYMMDD, an empty string, or eight spaces"

def invalidTime (path : String) : String :=
  s!"{path} expects HHMMSS, an empty string, or six spaces"

def assertClassicDate (value : RfcValue) (path : String) : Except String JsString :=
  assertClassicText 8 (invalidDate path) value

def assertClassicTime (value : RfcValue) (path : String) : Except String JsString :=
  assertClassicText 6 (invalidTime path) value

def classicDateWireText (value : RfcValue) (path : String) : Except String JsString :=
  classicWireText 8 (invalidDate path) value

def classicDatePublicText (value : JsString) (path : String) : Except String JsString :=
  classicPublicText 8 s!"{path} expects YYYYMMDD or eight spaces from the wire" value

def classicTimeWireText (value : RfcValue) (path : String) : Except String JsString :=
  classicWireText 6 (invalidTime path) value

def classicTimePublicText (value : JsString) (path : String) : Except String JsString :=
  classicPublicText 6 s!"{path} expects HHMMSS or six spaces from the wire" value

variable {count : Nat} {error error' : String} {value : RfcValue} {s : JsString}

theorem assertClassicText_eq_ok :
    assertClassicText count error value = .ok s ↔ value = .text s ∧ isClassicText count s = true := by
  cases value with
  | text s' =>
      simp only [assertClassicText, bind_eq_ok, require_eq_ok, exists_const, Except.ok.injEq,
        RfcValue.text.injEq]
      exact ⟨fun h => ⟨h.2, h.2 ▸ h.1⟩, fun h => ⟨h.1 ▸ h.2, h.1⟩⟩
  | _ => exact iff_of_false (by rintro ⟨⟩) fun h => RfcValue.noConfusion h.1

/-- A date or a time on the wire has its full width, and is blank where there is none. -/
theorem public_wireText (error' : String) (h : classicWireText count error value = .ok s) :
    s.length = count ∧ ∃ s', value = .text s' ∧ isClassicText count s' = true ∧
      s = (if s' = [] then blanks count else s') ∧
      classicPublicText count error' s = .ok (if s' = blanks count then [] else s') := by
  obtain ⟨s', hs', hwire⟩ := bind_eq_ok.mp h
  obtain ⟨rfl, hclassic⟩ := assertClassicText_eq_ok.mp hs'
  obtain rfl := Except.ok.inj hwire
  have hblanks : (blanks count).length = count := List.length_replicate
  have hlength : (if s' = [] then blanks count else s').length = count := by
    split
    · exact hblanks
    · rename_i hne
      simp only [isClassicText, isDigits, Bool.or_eq_true, Bool.and_eq_true, decide_eq_true_eq,
        hne, or_false] at hclassic
      obtain ⟨hcount, -⟩ | rfl := hclassic
      · exact hcount
      · exact hblanks
  refine ⟨hlength, s', rfl, hclassic, rfl, ?_⟩
  rw [classicPublicText]
  split
  · rename_i hnil
    rw [require_of (by simp), ok_bind, if_pos rfl, hnil]
    split <;> rfl
  · rename_i hne
    simp only [isClassicText, hne, decide_false, Bool.or_false] at hclassic
    rw [require_of hclassic, ok_bind]

end DateAndTime

/-- The types whose values are counted. -/
inductive ClassicTemporalExid
  | utcLong
  | utcSecond
  | utcMinute
  | dtDay
  | dtWeek
  | dtMonth
  | tSecond
  | tMinute
  | cDay
deriving DecidableEq, Repr

structure TemporalSpecification where
  name : String
  byteLength : Nat
  maximumRaw : Nat

namespace ClassicTemporalExid

def specification : ClassicTemporalExid → TemporalSpecification
  | utcLong => ⟨"UTCLONG", 8, 3155380704000000000⟩
  | utcSecond => ⟨"UTCSECOND", 8, 315538070400⟩
  | utcMinute => ⟨"UTCMINUTE", 8, 5258967840⟩
  | dtDay => ⟨"DTDAY", 4, 3652061⟩
  | dtWeek => ⟨"DTWEEK", 4, 521725⟩
  | dtMonth => ⟨"DTMONTH", 4, 119988⟩
  | tSecond => ⟨"TSECOND", 4, 86401⟩
  | tMinute => ⟨"TMINUTE", 2, 1441⟩
  | cDay => ⟨"CDAY", 2, 366⟩

def two : FormPart := .digits 2 (by decide)
def four : FormPart := .digits 4 (by decide)
def dash : FormPart := .literal 0x2d
def colon : FormPart := .literal 0x3a

/-- The pattern of a type. -/
def form : ClassicTemporalExid → Form
  | utcLong => [four, dash, two, dash, two, .literal 0x54, two, colon, two, colon, two,
      .literal 0x2e, .digits 7 (by decide)]
  | utcSecond => [four, dash, two, dash, two, .literal 0x54, two, colon, two, colon, two]
  | utcMinute => [four, dash, two, dash, two, .literal 0x54, two, colon, two]
  | dtDay => [four, dash, two, dash, two]
  | dtWeek => [four, dash, .literal 0x57, two]
  | dtMonth => [four, dash, two]
  | tSecond => [two, colon, two, colon, two]
  | tMinute => [two, colon, two]
  | cDay => [two, dash, two]

def expected : ClassicTemporalExid → String
  | utcLong => "YYYY-MM-DDTHH:MM:SS.fffffff"
  | utcSecond => "YYYY-MM-DDTHH:MM:SS"
  | utcMinute => "YYYY-MM-DDTHH:MM"
  | dtDay => "YYYY-MM-DD"
  | dtWeek => "YYYY-Www"
  | dtMonth => "YYYY-MM"
  | tSecond => "HH:MM:SS"
  | tMinute => "HH:MM"
  | cDay => "MM-DD"

/-- `0000-00-00T00:00:00.0000000` -/
def utcLongInitial : JsString := Form.write (form utcLong) [0, 0, 0, 0, 0, 0, 0]

/-- `classicTemporalInitialValue` -/
def initialValue : ClassicTemporalExid → JsString
  | utcLong => utcLongInitial
  | _ => []

end ClassicTemporalExid

structure ClockTime where
  hour : Nat
  minute : Nat
  second : Nat
deriving DecidableEq, Repr

def parseClock (path name : String) (hour minute second : Nat) (allowEndOfDay : Bool) :
    Except String ClockTime := do
  let maximumHour := if allowEndOfDay then 24 else 23
  require (hour ≤ maximumHour) s!"{path} {name} hours must be in 00..{maximumHour}"
  require (minute ≤ 59) s!"{path} {name} minutes must be in 00..59"
  require (second ≤ 59) s!"{path} {name} seconds must be in 00..59"
  let maximum := if name = "TMINUTE" then "24:00" else "24:00:00"
  require (¬(hour = 24 ∧ (minute ≠ 0 ∨ second ≠ 0))) s!"{path} {name} must not exceed {maximum}"
  .ok ⟨hour, minute, second⟩

def clockSeconds (clock : ClockTime) : Nat := clock.hour * 3600 + clock.minute * 60 + clock.second

section Weeks

def calendarYearHasWeek53 (year : Nat) : Bool :=
  let januaryFirst := (5 + daysInPreviousYears year) % 7
  januaryFirst = 3 || (januaryFirst = 2 && isLeapYear year)

def yearsWithWeek53 : List Nat := (List.range' 1 9999).filter calendarYearHasWeek53

def priorWeek53Count (year : Nat) : Nat :=
  Search.firstTrue (fun middle => !(yearsWithWeek53.getD middle 0 < year)) 0 yearsWithWeek53.length

def weekOrdinal (path : String) (year week : Nat) : Except String Nat :=
  if year = 0 then do
    require (week = 53) s!"{path} DTWEEK year zero permits only 0000-W53"
    .ok 0
  else do
    let priorLongYears := priorWeek53Count year
    require (¬(week = 53 ∧ yearsWithWeek53[priorLongYears]? ≠ some year))
      s!"{path} DTWEEK year {fourDigits year} does not have week 53"
    .ok (priorLongYears * 53 + (year - 1 - priorLongYears) * 52 + week)

def weekFromOrdinal (ordinal : Nat) : Nat × Nat :=
  if ordinal = 0 then (0, 53)
  else
    let year := Search.firstTrue (fun year => ordinal ≤ year * 52 + priorWeek53Count (year + 1)) 1 9999
    (year, ordinal - ((year - 1) * 52 + priorWeek53Count year))

end Weeks

section Raw
variable (path : String)

/-- The raw value of the numbers in a text, less one. -/
def ordinalOf (exid : ClassicTemporalExid) (groups : List Nat) : Except String Nat :=
  let name := exid.specification.name
  match exid, groups with
  | .utcLong, [year, month, day, hour, minute, second, fraction] => do
    let date ← parseDateParts path name year month day
    let clock ← parseClock path name hour minute second false
    .ok ((dateOrdinal date * 86400 + clockSeconds clock) * 10000000 + fraction)
  | .utcSecond, [year, month, day, hour, minute, second] => do
    let date ← parseDateParts path name year month day
    let clock ← parseClock path name hour minute second false
    .ok (dateOrdinal date * 86400 + clockSeconds clock)
  | .utcMinute, [year, month, day, hour, minute] => do
    let date ← parseDateParts path name year month day
    let clock ← parseClock path name hour minute 0 false
    .ok (dateOrdinal date * 1440 + clock.hour * 60 + clock.minute)
  | .dtDay, [year, month, day] => do
    let date ← parseDateParts path name year month day
    .ok (dateOrdinal date)
  | .dtWeek, [year, week] => do
    require (1 ≤ week ∧ week ≤ 53) s!"{path} {name} week must be in 01..53"
    weekOrdinal path year week
  | .dtMonth, [year, month] => do
    require (1 ≤ year ∧ year ≤ 9999) s!"{path} {name} year must be in 0001..9999"
    require (1 ≤ month ∧ month ≤ 12) s!"{path} {name} month must be in 01..12"
    .ok ((year - 1) * 12 + (month - 1))
  | .tSecond, [hour, minute, second] => do
    let clock ← parseClock path name hour minute second true
    .ok (clockSeconds clock)
  | .tMinute, [hour, minute] => do
    let clock ← parseClock path name hour minute 0 true
    .ok (clock.hour * 60 + clock.minute)
  | .cDay, [month, day] => do
    require (1 ≤ month ∧ month ≤ 12) s!"{path} {name} month must be in 01..12"
    require (1 ≤ day ∧ day ≤ daysByMonth.getD (month - 1) 0)
      s!"{path} {name} has invalid day {twoDigits day}"
    .ok ((daysByMonth.take (month - 1)).sum + (day - 1))
  | _, _ => .error s!"{path} {name} expects {exid.expected}"

def encodeRaw (exid : ClassicTemporalExid) (raw : Nat) : Except String Bytes := do
  require (raw ≤ exid.specification.maximumRaw)
    s!"{path} {exid.specification.name} is outside its valid raw range"
  .ok (Bytes.signedLittleEndian exid.specification.byteLength raw)

def rawValue (exid : ClassicTemporalExid) (value : Bytes) : Except String Nat := do
  let spec := exid.specification
  require (value.length = spec.byteLength)
    s!"{path} {spec.name} expects {spec.byteLength} raw bytes; received {value.length}"
  let raw := Bytes.signedLittleNumber value
  require (0 ≤ raw ∧ raw ≤ spec.maximumRaw) s!"{path} {spec.name} is outside its valid raw range"
  .ok raw.toNat

/-- A string in the form of its type is counted, and the initial values are zero. -/
def encodeClassicTemporal (exid : ClassicTemporalExid) (value : RfcValue) : Except String Bytes :=
  match value with
  | .text s =>
    if s = [] ∨ (exid = .utcLong ∧ s = ClassicTemporalExid.utcLongInitial) then encodeRaw path exid 0
    else
      match exid.form.match? s with
      | none => .error s!"{path} {exid.specification.name} expects {exid.expected}"
      | some groups => do
        let ordinal ← ordinalOf path exid groups
        encodeRaw path exid (ordinal + 1)
  | _ =>
    .error s!"{path} {exid.specification.name} expects a string in the documented fixed form"

def dateGroups (date : CalendarDate) : List Nat := [date.year, date.month, date.day]

/-- `formatClock` with seconds -/
def clockGroups (seconds : Nat) : List Nat := [seconds / 3600, seconds % 3600 / 60, seconds % 3600 % 60]

/-- The numbers in the text of a raw value, less one. -/
def groupsOf (exid : ClassicTemporalExid) (ordinal : Nat) : List Nat :=
  match exid with
  | .utcLong =>
    dateGroups (dateFromOrdinal (ordinal / 864000000000)) ++
      clockGroups (ordinal % 864000000000 / 10000000) ++ [ordinal % 864000000000 % 10000000]
  | .utcSecond => dateGroups (dateFromOrdinal (ordinal / 86400)) ++ clockGroups (ordinal % 86400)
  | .utcMinute =>
    dateGroups (dateFromOrdinal (ordinal / 1440)) ++ [ordinal % 1440 / 60, ordinal % 1440 % 60]
  | .dtDay => dateGroups (dateFromOrdinal ordinal)
  | .dtWeek => [(weekFromOrdinal ordinal).1, (weekFromOrdinal ordinal).2]
  | .dtMonth => [ordinal / 12 + 1, ordinal % 12 + 1]
  | .tSecond => clockGroups ordinal
  | .tMinute => [ordinal / 60, ordinal % 60]
  | .cDay =>
    [(Search.locate daysByMonth ordinal).1 + 1, (Search.locate daysByMonth ordinal).2 + 1]

def decodeClassicTemporal (exid : ClassicTemporalExid) (value : Bytes) : Except String JsString := do
  let raw ← rawValue path exid value
  .ok (if raw = 0 then exid.initialValue else Form.write exid.form (groupsOf exid (raw - 1)))

end Raw

section Weeks
variable {year week : Nat}

/-- The long years in front of a year. -/
theorem yearsWithWeek53_split (hpos : 0 < year) (hmax : year ≤ 10000) :
    yearsWithWeek53 = (List.range' 1 (year - 1)).filter calendarYearHasWeek53 ++
      (List.range' year (10000 - year)).filter calendarYearHasWeek53 := by
  have hsplit : List.range' 1 9999 = List.range' 1 (year - 1) ++ List.range' year (10000 - year) := by
    have happend : List.range' 1 (year - 1) 1 ++ List.range' (1 + 1 * (year - 1)) (10000 - year) 1 = _ :=
      List.range'_append
    have hstart : 1 + 1 * (year - 1) = year := by omega
    have hcount : year - 1 + (10000 - year) = 9999 := by omega
    rw [hstart, hcount] at happend
    exact happend.symm
  rw [yearsWithWeek53, hsplit, List.filter_append]

theorem priorWeek53Count_eq (hpos : 0 < year) (hmax : year ≤ 10000) :
    priorWeek53Count year = ((List.range' 1 (year - 1)).filter calendarYearHasWeek53).length := by
  rw [priorWeek53Count, yearsWithWeek53_split hpos hmax]
  apply Search.firstTrue_append
  · intro y hy
    have hmem := List.mem_range'_1.mp (List.mem_of_mem_filter hy)
    omega
  · intro y hy
    exact (List.mem_range'_1.mp (List.mem_of_mem_filter hy)).1

/-- How many weeks lie in front of a year, and how many are in it. -/
def weekStart (year : Nat) : Nat := (year - 1) * 52 + priorWeek53Count year

def weekCount (year : Nat) : Nat := if calendarYearHasWeek53 year then 53 else 52

theorem weekStart_succ (hpos : 0 < year) (hmax : year ≤ 9999) :
    weekStart (year + 1) = weekStart year + weekCount year := by
  have hrange : List.range' 1 (year + 1 - 1) = List.range' 1 (year - 1) ++ [year] := by
    have happend : List.range' 1 (year - 1 + 1) 1 = _ := List.range'_concat
    have hstart : 1 + 1 * (year - 1) = year := by omega
    have hcount : year - 1 + 1 = year + 1 - 1 := by omega
    rw [hstart, hcount] at happend
    exact happend
  rw [weekStart, weekStart, weekCount, priorWeek53Count_eq (by omega) (by omega),
    priorWeek53Count_eq hpos (by omega), hrange, List.filter_append, List.length_append]
  cases h : calendarYearHasWeek53 year with
  | false =>
      simp [h]
      omega
  | true =>
      simp [h]
      omega

theorem weekStart_mono {year year' : Nat} (hpos : 0 < year) (h : year ≤ year') (hmax : year' ≤ 10000) :
    weekStart year ≤ weekStart year' := by
  induction year', h using Nat.le_induction with
  | base => exact le_rfl
  | succ year' hle ih =>
      have hprevious := ih (by omega)
      rw [weekStart_succ (by omega) (by omega)]
      omega

theorem weekOrdinal_eq_ok {path : String} {ordinal : Nat} (hpos : 0 < year) (hmax : year ≤ 9999)
    (h : weekOrdinal path year week = .ok ordinal) :
    ordinal = weekStart year + week ∧ (week = 53 → calendarYearHasWeek53 year = true) := by
  rw [weekOrdinal, if_neg (by omega)] at h
  obtain ⟨_, hlong, h⟩ := bind_eq_ok.mp h
  rw [require_eq_ok, not_and, not_not] at hlong
  have hcount := priorWeek53Count_eq hpos (by omega)
  have hle := List.length_filter_le calendarYearHasWeek53 (List.range' 1 (year - 1))
  rw [List.length_range'] at hle
  have hvalue := Except.ok.inj h
  constructor
  · rw [weekStart]
    omega
  · intro hweek
    exact (List.mem_filter.mp (List.mem_of_getElem? (hlong hweek))).2

/-- A week is found again from its number. -/
theorem weekFromOrdinal_weekOrdinal {path : String} {ordinal : Nat} (hyear : year ≤ 9999)
    (hweek : 1 ≤ week) (hlast : week ≤ 53) (h : weekOrdinal path year week = .ok ordinal) :
    weekFromOrdinal ordinal = (year, week) := by
  by_cases hzero : year = 0
  · rw [weekOrdinal, if_pos hzero] at h
    obtain ⟨_, hlong, h⟩ := bind_eq_ok.mp h
    rw [require_eq_ok] at hlong
    rw [← Except.ok.inj h, weekFromOrdinal, if_pos rfl, hzero, hlong]
  · have hpos : 0 < year := Nat.pos_of_ne_zero hzero
    obtain ⟨rfl, hlong⟩ := weekOrdinal_eq_ok hpos hyear h
    have hcount : week ≤ weekCount year := by
      rw [weekCount]
      split
      · exact hlast
      · rename_i hshort
        have hne : week ≠ 53 := fun he => hshort (hlong he)
        omega
    have hend (y : Nat) : y * 52 + priorWeek53Count (y + 1) = weekStart (y + 1) := by
      rw [weekStart, Nat.add_sub_cancel]
    have hfound : Search.firstTrue (fun y => weekStart year + week ≤ y * 52 +
        priorWeek53Count (y + 1)) 1 9999 = year := by
      apply Search.firstTrue_eq (by omega) hyear
      intro y hy hy'
      rw [decide_eq_true_iff, hend]
      constructor
      · intro hle
        by_contra hlt
        have hmono := weekStart_mono (show 0 < y + 1 by omega) (show y + 1 ≤ year by omega)
          (by omega)
        omega
      · intro hle
        have hmono := weekStart_mono (show 0 < year + 1 by omega) (show year + 1 ≤ y + 1 by omega)
          (by omega)
        rw [weekStart_succ hpos hyear] at hmono
        omega
    rw [weekFromOrdinal, if_neg (by omega), hfound]
    dsimp only
    rw [← weekStart, Nat.add_sub_cancel_left]

end Weeks

section RoundTrip
variable {path : String} {exid : ClassicTemporalExid} {groups : List Nat} {ordinal : Nat}

theorem parseClock_eq_ok {name : String} {hour minute second : Nat} {allowEndOfDay : Bool}
    {clock : ClockTime} (h : parseClock path name hour minute second allowEndOfDay = .ok clock) :
    clock = ⟨hour, minute, second⟩ ∧ minute ≤ 59 ∧ second ≤ 59 ∧
      clockSeconds clock ≤ 86400 ∧ (allowEndOfDay = false → clockSeconds clock < 86400) := by
  simp only [parseClock, bind_eq_ok, require_eq_ok, exists_const, Except.ok.injEq] at h
  obtain ⟨hhour, hminute, hsecond, hend, rfl⟩ := h
  rw [clockSeconds]
  dsimp only
  refine ⟨rfl, hminute, hsecond, ?_, ?_⟩
  · split at hhour <;> omega
  · intro hday
    rw [hday, if_neg Bool.false_ne_true] at hhour
    omega

theorem clockGroups_clockSeconds {hour minute second : Nat} (hminute : minute ≤ 59)
    (hsecond : second ≤ 59) :
    clockGroups (clockSeconds ⟨hour, minute, second⟩) = [hour, minute, second] := by
  have hhours : (hour * 3600 + minute * 60 + second) / 3600 = hour := by omega
  have hrest : (hour * 3600 + minute * 60 + second) % 3600 = minute * 60 + second := by omega
  have hminutes : (minute * 60 + second) / 60 = minute := by omega
  have hseconds : (minute * 60 + second) % 60 = second := by omega
  rw [clockSeconds, clockGroups, hhours, hrest, hminutes, hseconds]

/-- The numbers of a text are found again from what has been counted. -/
theorem groupsOf_ordinalOf (h : ordinalOf path exid groups = .ok ordinal)
    (hyear : exid = .dtWeek → groups.head?.getD 0 ≤ 9999)
    (hfraction : exid = .utcLong → groups.getLast?.getD 0 < 10000000) :
    groupsOf exid ordinal = groups := by
  have hdate {name : String} {year month day : Nat} {date : CalendarDate}
      (h : parseDateParts path name year month day = .ok date) :
      dateGroups (dateFromOrdinal (dateOrdinal date)) = [year, month, day] := by
    obtain ⟨hvalid, rfl⟩ := parseDateParts_eq_ok.mp h
    rw [dateFromOrdinal_dateOrdinal hvalid, dateGroups]
  unfold ordinalOf at h
  split at h
  · rename_i year month day hour minute second fraction
    obtain ⟨date, hparts, h⟩ := bind_eq_ok.mp h
    obtain ⟨clock, hclock, h⟩ := bind_eq_ok.mp h
    obtain ⟨rfl, hminute, hsecond, -, hseconds⟩ := parseClock_eq_ok hclock
    have hseconds := hseconds rfl
    have hclock : clockGroups (clockSeconds ⟨hour, minute, second⟩) = _ :=
      clockGroups_clockSeconds hminute hsecond
    have hfraction : fraction < 10000000 := hfraction rfl
    obtain rfl := Except.ok.inj h
    generalize clockSeconds ⟨hour, minute, second⟩ = seconds at hseconds hclock
    have hday : ((dateOrdinal date * 86400 + seconds) * 10000000 + fraction) / 864000000000 =
        dateOrdinal date := by omega
    have hrest : ((dateOrdinal date * 86400 + seconds) * 10000000 + fraction) % 864000000000 =
        seconds * 10000000 + fraction := by omega
    have htime : (seconds * 10000000 + fraction) / 10000000 = seconds := by
      rw [Nat.add_comm, Nat.add_mul_div_right _ _ (by decide), Nat.div_eq_of_lt hfraction,
        Nat.zero_add]
    have hpart : (seconds * 10000000 + fraction) % 10000000 = fraction := by
      rw [Nat.add_comm, Nat.add_mul_mod_self_right, Nat.mod_eq_of_lt hfraction]
    rw [groupsOf, hday, hrest, htime, hpart, hdate hparts, hclock]
    rfl
  · rename_i year month day hour minute second
    obtain ⟨date, hparts, h⟩ := bind_eq_ok.mp h
    obtain ⟨clock, hclock, h⟩ := bind_eq_ok.mp h
    obtain ⟨rfl, hminute, hsecond, -, hseconds⟩ := parseClock_eq_ok hclock
    have hseconds := hseconds rfl
    have hclock : clockGroups (clockSeconds ⟨hour, minute, second⟩) = _ :=
      clockGroups_clockSeconds hminute hsecond
    obtain rfl := Except.ok.inj h
    generalize clockSeconds ⟨hour, minute, second⟩ = seconds at hseconds hclock
    have hday : (dateOrdinal date * 86400 + seconds) / 86400 = dateOrdinal date := by omega
    have hrest : (dateOrdinal date * 86400 + seconds) % 86400 = seconds := by omega
    rw [groupsOf, hday, hrest, hdate hparts, hclock]
    rfl
  · rename_i year month day hour minute
    obtain ⟨date, hparts, h⟩ := bind_eq_ok.mp h
    obtain ⟨clock, hclock, h⟩ := bind_eq_ok.mp h
    obtain ⟨rfl, hminute, -, -, hseconds⟩ := parseClock_eq_ok hclock
    have hseconds : hour * 3600 + minute * 60 + 0 < 86400 := hseconds rfl
    obtain rfl := Except.ok.inj h
    have hday : (dateOrdinal date * 1440 + hour * 60 + minute) / 1440 = dateOrdinal date := by omega
    have hrest : (dateOrdinal date * 1440 + hour * 60 + minute) % 1440 = hour * 60 + minute := by
      omega
    have hhour : (hour * 60 + minute) / 60 = hour := by omega
    have hpart : (hour * 60 + minute) % 60 = minute := by omega
    rw [groupsOf]
    dsimp only
    rw [hday, hrest, hhour, hpart, hdate hparts]
    rfl
  · obtain ⟨date, hparts, h⟩ := bind_eq_ok.mp h
    rw [← Except.ok.inj h]
    exact hdate hparts
  · rename_i year week
    obtain ⟨_, hweek, h⟩ := bind_eq_ok.mp h
    rw [require_eq_ok] at hweek
    have hyear : year ≤ 9999 := hyear rfl
    rw [groupsOf, weekFromOrdinal_weekOrdinal hyear hweek.1 hweek.2 h]
  · rename_i year month
    obtain ⟨_, hyears, h⟩ := bind_eq_ok.mp h
    obtain ⟨_, hmonths, h⟩ := bind_eq_ok.mp h
    rw [require_eq_ok] at hyears hmonths
    obtain rfl := Except.ok.inj h
    have hquotient : ((year - 1) * 12 + (month - 1)) / 12 + 1 = year := by omega
    have hrest : ((year - 1) * 12 + (month - 1)) % 12 + 1 = month := by omega
    rw [groupsOf, hquotient, hrest]
  · obtain ⟨clock, hclock, h⟩ := bind_eq_ok.mp h
    obtain ⟨rfl, hminute, hsecond, -, -⟩ := parseClock_eq_ok hclock
    rw [← Except.ok.inj h]
    exact clockGroups_clockSeconds hminute hsecond
  · rename_i hour minute
    obtain ⟨clock, hclock, h⟩ := bind_eq_ok.mp h
    obtain ⟨rfl, hminute, -, -, -⟩ := parseClock_eq_ok hclock
    obtain rfl := Except.ok.inj h
    have hhour : (hour * 60 + minute) / 60 = hour := by omega
    have hpart : (hour * 60 + minute) % 60 = minute := by omega
    rw [groupsOf]
    dsimp only
    rw [hhour, hpart]
  · rename_i month day
    obtain ⟨_, hmonths, h⟩ := bind_eq_ok.mp h
    obtain ⟨_, hdays, h⟩ := bind_eq_ok.mp h
    rw [require_eq_ok] at hmonths hdays
    obtain rfl := Except.ok.inj h
    have hindex : month - 1 < daysByMonth.length := by
      change month - 1 < 12
      omega
    rw [List.getD_eq_getElem _ _ hindex] at hdays
    rw [groupsOf, Search.locate_sum_add hindex (by omega), Nat.sub_add_cancel hmonths.1,
      Nat.sub_add_cancel hdays.1]
  · exact absurd h nofun

theorem specification_fits (exid : ClassicTemporalExid) :
    2 * (exid.specification.maximumRaw : Int) < 256 ^ exid.specification.byteLength := by
  cases exid <;> decide

theorem rawValue_encodeRaw {raw : Nat} {bytes : Bytes} (h : encodeRaw path exid raw = .ok bytes) :
    bytes.length = exid.specification.byteLength ∧ rawValue path exid bytes = .ok raw := by
  obtain ⟨_, hmax, h⟩ := bind_eq_ok.mp h
  rw [require_eq_ok] at hmax
  obtain rfl := Except.ok.inj h
  have hlength := Bytes.length_signedLittleEndian exid.specification.byteLength raw
  have hfits := specification_fits exid
  have hvalue : Bytes.signedLittleNumber
      (Bytes.signedLittleEndian exid.specification.byteLength raw) = raw :=
    Bytes.signedLittleNumber_signedLittleEndian (by omega) (by omega)
  refine ⟨hlength, ?_⟩
  rw [rawValue]
  dsimp only
  rw [require_of hlength, ok_bind, hvalue, require_of (by omega), ok_bind, Int.toNat_natCast]

/-- A text is decoded as it has been encoded, and an empty one as the initial value. -/
theorem decode_encodeClassicTemporal {value : RfcValue} {bytes : Bytes}
    (h : encodeClassicTemporal path exid value = .ok bytes) :
    ∃ s, value = .text s ∧ bytes.length = exid.specification.byteLength ∧
      decodeClassicTemporal path exid bytes = .ok (if s = [] then exid.initialValue else s) := by
  cases value with
  | text s =>
      refine ⟨s, rfl, ?_⟩
      rw [encodeClassicTemporal] at h
      split at h
      · rename_i hinitial
        obtain ⟨hlength, hraw⟩ := rawValue_encodeRaw h
        refine ⟨hlength, ?_⟩
        rw [decodeClassicTemporal, hraw, ok_bind, if_pos rfl]
        split
        · rfl
        · rename_i hne
          obtain ⟨rfl, rfl⟩ := hinitial.resolve_left hne
          rfl
      · rename_i hinitial
        split at h
        · exact absurd h nofun
        · rename_i groups hgroups
          obtain ⟨ordinal, hordinal, h⟩ := bind_eq_ok.mp h
          obtain ⟨hlength, hraw⟩ := rawValue_encodeRaw h
          refine ⟨hlength, ?_⟩
          have hbounds := Form.lt_of_match hgroups
          have hsame : groupsOf exid ordinal = groups := by
            apply groupsOf_ordinalOf hordinal
            · rintro rfl
              cases hbounds with
              | cons hyear _ =>
                  change _ < 10000 at hyear
                  exact Nat.le_of_lt_succ hyear
            · rintro rfl
              have hlength : groups.length = 7 := hbounds.length_eq.symm
              have hlast := hbounds.get (i := 6) (by decide) (by omega)
              rw [List.getLast?_eq_getElem?, hlength, List.getElem?_eq_getElem (by omega)]
              exact hlast
          rw [decodeClassicTemporal, hraw, ok_bind, if_neg (by omega), Nat.add_sub_cancel, hsame,
            Form.write_of_match hgroups, if_neg (fun hnil => hinitial (.inl hnil))]
  | _ => exact absurd h nofun

end RoundTrip
end OpenRfc.Values
