import OpenRfc.Values.CalendarOrder

/-!
Compact temporal values and their texts. Every raw value in its range has a text, every text its
raw value, and the raw values follow the calendar.
-/

namespace OpenRfc.Values
open Fallible

section Groups
variable {path : String} {exid : ClassicTemporalExid} {groups groups' : List Nat}
  {ordinal ordinal' : Nat}

/-- The widths of the numbers in a text. -/
def groupWidths : ClassicTemporalExid → List Nat
  | .utcLong => [4, 2, 2, 2, 2, 2, 7]
  | .utcSecond => [4, 2, 2, 2, 2, 2]
  | .utcMinute => [4, 2, 2, 2, 2]
  | .dtDay => [4, 2, 2]
  | .dtWeek => [4, 2]
  | .dtMonth => [4, 2]
  | .tSecond => [2, 2, 2]
  | .tMinute => [2, 2]
  | .cDay => [2, 2]

theorem fits_iff : Form.Fits exid.form groups ↔
    List.Forall₂ (fun width group => group < 10 ^ width) (groupWidths exid) groups := by
  cases exid <;> rfl

theorem parseDateParts_of {name : String} {date : CalendarDate} (h : date.Valid) :
    parseDateParts path name date.year date.month date.day = .ok date :=
  parseDateParts_eq_ok.mpr ⟨h, rfl⟩

theorem CalendarDate.Valid.fits {date : CalendarDate} (h : date.Valid) :
    date.year < 10 ^ 4 ∧ date.month < 10 ^ 2 ∧ date.day < 10 ^ 2 := by
  obtain ⟨⟨-, hyear⟩, ⟨hmonth, hmonth'⟩, ⟨-, hday⟩, -⟩ := h
  have hlast : conventionalMaximum date.year date.month ≤ 31 := by
    rw [conventionalMaximum]
    split_ifs
    · omega
    · omega
    · have hall : ∀ length ∈ daysByMonth, length ≤ 31 := by decide
      have hindex : date.month - 1 < daysByMonth.length := by
        change date.month - 1 < 12
        omega
      rw [List.getD_eq_getElem _ _ hindex]
      exact hall _ (List.getElem_mem hindex)
  omega

theorem parseClock_of {name : String} {hour minute second : Nat} {allowEndOfDay : Bool}
    (hhour : hour ≤ if allowEndOfDay then 24 else 23) (hminute : minute ≤ 59)
    (hsecond : second ≤ 59) (hend : hour = 24 → minute = 0 ∧ second = 0) :
    parseClock path name hour minute second allowEndOfDay = .ok ⟨hour, minute, second⟩ := by
  rw [parseClock]
  dsimp only
  rw [require_of hhour, ok_bind, require_of hminute, ok_bind, require_of hsecond, ok_bind,
    require_of (by omega), ok_bind]

/-- The time of a day which is not over. -/
theorem exists_clock {seconds : Nat} (h : seconds < 86400) :
    ∃ hour minute second, (hour < 10 ^ 2 ∧ minute < 10 ^ 2 ∧ second < 10 ^ 2) ∧
      (∀ path name, parseClock path name hour minute second false =
        .ok ⟨hour, minute, second⟩) ∧
      clockSeconds ⟨hour, minute, second⟩ = seconds := by
  refine ⟨seconds / 3600, seconds % 3600 / 60, seconds % 60, by omega, ?_, ?_⟩
  · intro path name
    apply parseClock_of
    · show seconds / 3600 ≤ 23
      omega
    all_goals omega
  · rw [clockSeconds]
    dsimp only
    omega

/-- A number of minutes, of which there may be a whole day. -/
theorem exists_minutes {minutes : Nat} {allowEndOfDay : Bool}
    (h : minutes < if allowEndOfDay then 1441 else 1440) :
    ∃ hour minute, (hour < 10 ^ 2 ∧ minute < 10 ^ 2) ∧
      (∀ path name, parseClock path name hour minute 0 allowEndOfDay = .ok ⟨hour, minute, 0⟩) ∧
      hour * 60 + minute = minutes := by
  have hhour : minutes / 60 ≤ if allowEndOfDay then 24 else 23 := by
    split at h <;> split <;> omega
  refine ⟨minutes / 60, minutes % 60, by split at h <;> omega, ?_, by omega⟩
  intro path name
  apply parseClock_of hhour
  · omega
  · exact Nat.zero_le 59
  · split at h <;> omega

/-- Every number of a type is that of a text. -/
theorem exists_groups (path : String) (h : ordinal < exid.specification.maximumRaw) :
    ∃ groups, Form.Fits exid.form groups ∧ ordinalOf path exid groups = .ok ordinal := by
  have hdays : daysInPreviousYears 10000 = 3652061 := by decide +kernel
  cases exid with
  | utcLong =>
      change ordinal < 3155380704000000000 at h
      obtain ⟨date, hvalid, hdate⟩ :=
        exists_dateOrdinal (show ordinal / 864000000000 < daysInPreviousYears 10000 by omega)
      obtain ⟨hour, minute, second, hfits, hclock, hseconds⟩ :=
        exists_clock (show ordinal % 864000000000 / 10000000 < 86400 by omega)
      refine ⟨[date.year, date.month, date.day, hour, minute, second, ordinal % 10000000], ?_, ?_⟩
      · have hdate := hvalid.fits
        simp [fits_iff, groupWidths]
        omega
      · show (parseDateParts path _ _ _ _ >>= _) = _
        rw [parseDateParts_of hvalid, ok_bind]
        show (parseClock path _ _ _ _ _ >>= _) = _
        rw [hclock, ok_bind, hdate, hseconds]
        exact congrArg Except.ok (by omega)
  | utcSecond =>
      change ordinal < 315538070400 at h
      obtain ⟨date, hvalid, hdate⟩ :=
        exists_dateOrdinal (show ordinal / 86400 < daysInPreviousYears 10000 by omega)
      obtain ⟨hour, minute, second, hfits, hclock, hseconds⟩ :=
        exists_clock (show ordinal % 86400 < 86400 by omega)
      refine ⟨[date.year, date.month, date.day, hour, minute, second], ?_, ?_⟩
      · have hdate := hvalid.fits
        simp [fits_iff, groupWidths]
        omega
      · show (parseDateParts path _ _ _ _ >>= _) = _
        rw [parseDateParts_of hvalid, ok_bind]
        show (parseClock path _ _ _ _ _ >>= _) = _
        rw [hclock, ok_bind, hdate, hseconds]
        exact congrArg Except.ok (by omega)
  | utcMinute =>
      change ordinal < 5258967840 at h
      obtain ⟨date, hvalid, hdate⟩ :=
        exists_dateOrdinal (show ordinal / 1440 < daysInPreviousYears 10000 by omega)
      obtain ⟨hour, minute, hfits, hclock, hminutes⟩ :=
        exists_minutes
          (show ordinal % 1440 < if false then 1441 else 1440 from Nat.mod_lt _ (by decide))
      refine ⟨[date.year, date.month, date.day, hour, minute], ?_, ?_⟩
      · have hdate := hvalid.fits
        simp [fits_iff, groupWidths]
        omega
      · show (parseDateParts path _ _ _ _ >>= _) = _
        rw [parseDateParts_of hvalid, ok_bind]
        show (parseClock path _ _ _ _ _ >>= _) = _
        rw [hclock, ok_bind, hdate]
        exact congrArg Except.ok (by dsimp only; omega)
  | dtDay =>
      obtain ⟨date, hvalid, hdate⟩ := exists_dateOrdinal (by rw [hdays]; exact h)
      refine ⟨[date.year, date.month, date.day], ?_, ?_⟩
      · have hdate := hvalid.fits
        simp [fits_iff, groupWidths]
        omega
      · show (parseDateParts path _ _ _ _ >>= _) = _
        rw [parseDateParts_of hvalid, ok_bind, hdate]
  | dtWeek =>
      obtain ⟨year, week, hyear, hweek, hordinal⟩ :=
        exists_weekOrdinal path (Nat.le_of_lt_succ h)
      refine ⟨[year, week], ?_, ?_⟩
      · simp [fits_iff, groupWidths]
        omega
      · show (require _ _ >>= _) = _
        rw [require_of hweek, ok_bind, hordinal]
  | dtMonth =>
      change ordinal < 119988 at h
      refine ⟨[ordinal / 12 + 1, ordinal % 12 + 1], ?_, ?_⟩
      · simp [fits_iff, groupWidths]
        omega
      · show (require _ _ >>= _) = _
        rw [require_of (by omega), ok_bind]
        show (require _ _ >>= _) = _
        rw [require_of (by omega), ok_bind]
        exact congrArg Except.ok (by omega)
  | tSecond =>
      change ordinal < 86401 at h
      refine ⟨[ordinal / 3600, ordinal % 3600 / 60, ordinal % 60], ?_, ?_⟩
      · simp [fits_iff, groupWidths]
        omega
      · have hhour : ordinal / 3600 ≤ 24 := by omega
        show (parseClock path _ _ _ _ _ >>= _) = _
        rw [parseClock_of hhour (show ordinal % 3600 / 60 ≤ 59 by omega)
          (show ordinal % 60 ≤ 59 by omega) (by omega), ok_bind]
        exact congrArg Except.ok (by rw [clockSeconds]; dsimp only; omega)
  | tMinute =>
      change ordinal < 1441 at h
      obtain ⟨hour, minute, hfits, hclock, hminutes⟩ :=
        exists_minutes (show ordinal < if true then 1441 else 1440 from h)
      refine ⟨[hour, minute], ?_, ?_⟩
      · simp [fits_iff, groupWidths]
        omega
      · show (parseClock path _ _ _ _ _ >>= _) = _
        rw [hclock, ok_bind]
        exact congrArg Except.ok hminutes
  | cDay =>
      obtain ⟨months, rest, hmonths, hrest, hsum⟩ :=
        Search.exists_locate (show ordinal < daysByMonth.sum from h)
      have hall : ∀ length ∈ daysByMonth, length ≤ 31 := by decide
      have hlength := hall _ (List.getElem_mem hmonths)
      have hcount : daysByMonth.length = 12 := rfl
      refine ⟨[months + 1, rest + 1], ?_, ?_⟩
      · simp [fits_iff, groupWidths]
        omega
      · show (require _ _ >>= _) = _
        rw [require_of (by omega), ok_bind]
        show (require _ _ >>= _) = _
        rw [require_of, ok_bind]
        · rw [Nat.add_sub_cancel, Nat.add_sub_cancel, hsum]
        · rw [Nat.add_sub_cancel, List.getD_eq_getElem _ _ hmonths]
          omega

/-- The numbers of a text are the numbers of its ordinal. -/
theorem groupsOf_of_fits (hfits : Form.Fits exid.form groups)
    (h : ordinalOf path exid groups = .ok ordinal) : groupsOf exid ordinal = groups := by
  rw [fits_iff] at hfits
  apply groupsOf_ordinalOf h
  · rintro rfl
    cases hfits with
    | cons hyear _ => exact Nat.le_of_lt_succ hyear
  · rintro rfl
    have hlength : groups.length = 7 := hfits.length_eq.symm
    have hlast := hfits.get (i := 6) (by decide) (by omega)
    rw [List.getLast?_eq_getElem?, hlength, List.getElem?_eq_getElem (by omega)]
    exact hlast

end Groups

section Order
variable {exid : ClassicTemporalExid} {ordinal ordinal' n : Nat}

theorem append_lt_append {first first' : List Nat} (rest rest' : List Nat)
    (hlength : first.length = first'.length) (h : first < first') :
    first ++ rest < first' ++ rest' := by
  induction first generalizing first' with
  | nil =>
      cases first' with
      | nil => exact absurd h (List.lt_irrefl [])
      | cons group first' => exact absurd hlength nofun
  | cons group first ih =>
      cases first' with
      | nil => exact absurd hlength nofun
      | cons group' first' =>
          rw [List.cons_append, List.cons_append, List.cons_lt_cons_iff]
          rcases List.cons_lt_cons_iff.mp h with hless | ⟨heq, hrest⟩
          · exact .inl hless
          · exact .inr ⟨heq, ih (Nat.succ.inj hlength) hrest⟩

/-- Numbers which are written by a quotient and a remainder. -/
theorem divMod_lt {f g : Nat → List Nat} (h : ordinal < ordinal')
    (hlength : ∀ a b, (f a).length = (f b).length)
    (hf : ordinal / n < ordinal' / n → f (ordinal / n) < f (ordinal' / n))
    (hg : ordinal % n < ordinal' % n → g (ordinal % n) < g (ordinal' % n)) :
    f (ordinal / n) ++ g (ordinal % n) < f (ordinal' / n) ++ g (ordinal' % n) := by
  rcases Nat.lt_or_eq_of_le (Nat.div_le_div_right (c := n) h.le) with hless | heq
  · exact append_lt_append _ _ (hlength _ _) (hf hless)
  · rw [heq]
    apply List.append_left_lt
    apply hg
    have hsum := Nat.div_add_mod ordinal n
    have hsum' := Nat.div_add_mod ordinal' n
    rw [heq] at hsum
    omega

theorem singleton_lt {a b : Nat} (h : a < b) : [a] < [b] := List.cons_lt_cons_iff.mpr (.inl h)

theorem clockGroups_lt (h : ordinal < ordinal') : clockGroups ordinal < clockGroups ordinal' :=
  divMod_lt (f := fun hour => [hour]) (g := fun rest => [rest / 60, rest % 60]) h
    (fun _ _ => rfl) singleton_lt fun hrest =>
      divMod_lt (f := fun minute => [minute]) (g := fun second => [second]) hrest
        (fun _ _ => rfl) singleton_lt singleton_lt

/-- Dates follow one another as their numbers do. -/
theorem dateFromOrdinal_lt (h : ordinal < ordinal') (hmax : ordinal' < daysInPreviousYears 10000) :
    dateGroups (dateFromOrdinal ordinal) < dateGroups (dateFromOrdinal ordinal') := by
  obtain ⟨date, hvalid, rfl⟩ := exists_dateOrdinal (h.trans hmax)
  obtain ⟨date', hvalid', rfl⟩ := exists_dateOrdinal hmax
  rw [dateFromOrdinal_dateOrdinal hvalid, dateFromOrdinal_dateOrdinal hvalid']
  rcases lt_trichotomy (dateGroups date) (dateGroups date') with hless | heq | hgreater
  · exact hless
  · have hsame : date = date' := by
      simp only [dateGroups, List.cons.injEq, and_true] at heq
      obtain ⟨hyear, hmonth, hday⟩ := heq
      show (⟨date.year, date.month, date.day⟩ : CalendarDate) = _
      rw [hyear, hmonth, hday]
    rw [hsame] at h
    exact absurd h (Nat.lt_irrefl _)
  · exact absurd (dateOrdinal_lt hvalid' hvalid hgreater) (Nat.not_lt_of_lt h)

theorem weekFromOrdinal_lt (h : ordinal < ordinal') (hmax : ordinal' ≤ 521724) :
    [(weekFromOrdinal ordinal).1, (weekFromOrdinal ordinal).2] <
      [(weekFromOrdinal ordinal').1, (weekFromOrdinal ordinal').2] := by
  obtain ⟨year, week, hyear, hweek, hordinal⟩ := exists_weekOrdinal "" (h.le.trans hmax)
  obtain ⟨year', week', hyear', hweek', hordinal'⟩ := exists_weekOrdinal "" hmax
  rw [weekFromOrdinal_weekOrdinal hyear hweek.1 hweek.2 hordinal,
    weekFromOrdinal_weekOrdinal hyear' hweek'.1 hweek'.2 hordinal']
  simp only [List.cons_lt_cons_iff, List.not_lt_nil, and_false, or_false]
  by_contra hless
  rcases Nat.lt_or_ge year' year with hgreater | hle
  · have hlt := weekOrdinal_lt hyear' hyear hweek'.2 hweek hordinal' hordinal (.inl hgreater)
    omega
  · obtain rfl : year = year' := by omega
    rcases Nat.lt_or_ge week' week with hgreater | hge
    · have hlt := weekOrdinal_lt hyear' hyear hweek'.2 hweek hordinal' hordinal
        (.inr ⟨rfl, hgreater⟩)
      omega
    · obtain rfl : week = week' := by omega
      rw [hordinal] at hordinal'
      have hsame := Except.ok.inj hordinal'
      omega

theorem locate_lt {lengths : List Nat} (h : ordinal < ordinal') (hmax : ordinal' < lengths.sum) :
    [(Search.locate lengths ordinal).1 + 1, (Search.locate lengths ordinal).2 + 1] <
      [(Search.locate lengths ordinal').1 + 1, (Search.locate lengths ordinal').2 + 1] := by
  obtain ⟨index, rest, hindex, hrest, rfl⟩ := Search.exists_locate (h.trans hmax)
  obtain ⟨index', rest', hindex', hrest', rfl⟩ := Search.exists_locate hmax
  rw [Search.locate_sum_add hindex hrest, Search.locate_sum_add hindex' hrest']
  simp only [List.cons_lt_cons_iff, List.not_lt_nil, and_false, or_false]
  rcases lt_trichotomy index index' with hless | rfl | hgreater
  · exact .inl (by omega)
  · exact .inr ⟨rfl, by omega⟩
  · have hsum := Search.sum_take_add_lt_of_lt hgreater hindex.le hrest'
    omega

/-- The numbers of a text follow the calendar. -/
theorem groupsOf_lt (h : ordinal < ordinal') (hmax : ordinal' < exid.specification.maximumRaw) :
    groupsOf exid ordinal < groupsOf exid ordinal' := by
  have hdays : daysInPreviousYears 10000 = 3652061 := by decide +kernel
  cases exid with
  | utcLong =>
      change ordinal' < 3155380704000000000 at hmax
      simp only [groupsOf, List.append_assoc]
      refine divMod_lt (f := fun day => dateGroups (dateFromOrdinal day))
        (g := fun rest => clockGroups (rest / 10000000) ++ [rest % 10000000]) h (fun _ _ => rfl)
        (fun hday => dateFromOrdinal_lt hday (by omega)) fun hrest => ?_
      exact divMod_lt (f := clockGroups) (g := fun fraction => [fraction]) hrest (fun _ _ => rfl)
        clockGroups_lt singleton_lt
  | utcSecond =>
      change ordinal' < 315538070400 at hmax
      exact divMod_lt (f := fun day => dateGroups (dateFromOrdinal day)) (g := clockGroups) h
        (fun _ _ => rfl) (fun hday => dateFromOrdinal_lt hday (by omega)) clockGroups_lt
  | utcMinute =>
      change ordinal' < 5258967840 at hmax
      refine divMod_lt (f := fun day => dateGroups (dateFromOrdinal day))
        (g := fun rest => [rest / 60, rest % 60]) h (fun _ _ => rfl)
        (fun hday => dateFromOrdinal_lt hday (by omega)) fun hrest => ?_
      exact divMod_lt (f := fun hour => [hour]) (g := fun minute => [minute]) hrest
        (fun _ _ => rfl) singleton_lt singleton_lt
  | dtDay => exact dateFromOrdinal_lt h (by rw [hdays]; exact hmax)
  | dtWeek => exact weekFromOrdinal_lt h (Nat.le_of_lt_succ hmax)
  | dtMonth =>
      exact divMod_lt (f := fun year => [year + 1]) (g := fun month => [month + 1]) h
        (fun _ _ => rfl) (fun hyear => singleton_lt (Nat.succ_lt_succ hyear))
        fun hmonth => singleton_lt (Nat.succ_lt_succ hmonth)
  | tSecond => exact clockGroups_lt h
  | tMinute =>
      exact divMod_lt (f := fun hour => [hour]) (g := fun minute => [minute]) h (fun _ _ => rfl)
        singleton_lt singleton_lt
  | cDay => exact locate_lt h hmax

end Order

section Texts
variable {path : String} {exid : ClassicTemporalExid} {raw : Nat}

/-- The bytes of a raw value. -/
def rawBytes (exid : ClassicTemporalExid) (raw : Nat) : Bytes :=
  Bytes.signedLittleEndian exid.specification.byteLength raw

theorem encodeRaw_of (path : String) (h : raw ≤ exid.specification.maximumRaw) :
    encodeRaw path exid raw = .ok (rawBytes exid raw) := by
  rw [encodeRaw, require_of h, ok_bind, rawBytes]

theorem decode_rawBytes (path : String) (h : raw ≤ exid.specification.maximumRaw) :
    decodeClassicTemporal path exid (rawBytes exid raw) =
      .ok (if raw = 0 then exid.initialValue else Form.write exid.form (groupsOf exid (raw - 1))) := by
  obtain ⟨-, hraw⟩ := rawValue_encodeRaw (encodeRaw_of path h)
  rw [decodeClassicTemporal, hraw, ok_bind]

/-- The text of a raw value, and the numbers in it. -/
theorem match_write_groupsOf (path : String) (hpos : 0 < raw)
    (h : raw ≤ exid.specification.maximumRaw) :
    exid.form.match? (Form.write exid.form (groupsOf exid (raw - 1))) =
        some (groupsOf exid (raw - 1)) ∧
      ordinalOf path exid (groupsOf exid (raw - 1)) = .ok (raw - 1) := by
  obtain ⟨groups, hfits, hordinal⟩ :=
    exists_groups path (show raw - 1 < exid.specification.maximumRaw by omega)
  rw [groupsOf_of_fits hfits hordinal]
  exact ⟨Form.match_write hfits, hordinal⟩

theorem match_initial (exid : ClassicTemporalExid) : exid.form.match? [] = none := by
  cases exid <;> decide

theorem match_utcLongInitial : ClassicTemporalExid.utcLong.form.match?
    ClassicTemporalExid.utcLongInitial = some [0, 0, 0, 0, 0, 0, 0] := by
  apply Form.match_write
  rw [fits_iff]
  simp [groupWidths]

theorem not_ordinalOf_zeros :
    ordinalOf path .utcLong [0, 0, 0, 0, 0, 0, 0] ≠ .ok ordinal := by
  intro h
  obtain ⟨date, hparts, -⟩ := bind_eq_ok.mp h
  obtain ⟨hvalid, -⟩ := parseDateParts_eq_ok.mp hparts
  exact absurd hvalid.1.1 (by decide)

/-- The text of a raw value is encoded as its bytes. -/
theorem encode_rawBytes (path : String) (h : raw ≤ exid.specification.maximumRaw) :
    ∃ s, decodeClassicTemporal path exid (rawBytes exid raw) = .ok s ∧
      encodeClassicTemporal path exid (.text s) = .ok (rawBytes exid raw) := by
  refine ⟨_, decode_rawBytes path h, ?_⟩
  rcases Nat.eq_zero_or_pos raw with rfl | hpos
  · rw [if_pos rfl, encodeClassicTemporal, if_pos, encodeRaw_of path h]
    cases exid with
    | utcLong => exact .inr ⟨rfl, rfl⟩
    | _ => exact .inl rfl
  · obtain ⟨hmatch, hordinal⟩ := match_write_groupsOf path hpos h
    rw [if_neg (by omega), encodeClassicTemporal, if_neg, hmatch]
    · dsimp only
      rw [hordinal, ok_bind, Nat.sub_add_cancel hpos, encodeRaw_of path h]
    · rintro (hempty | ⟨rfl, hinitial⟩)
      · rw [hempty, match_initial] at hmatch
        cases hmatch
      · rw [hinitial, match_utcLongInitial] at hmatch
        rw [← Option.some.inj hmatch] at hordinal
        exact not_ordinalOf_zeros hordinal

/-- The text names a day which the change of the calendar has left out. -/
def InCalendarGap (exid : ClassicTemporalExid) (s : JsString) : Prop :=
  ∃ day rest, exid.form.match? s = some (1582 :: 10 :: day :: rest) ∧ 5 ≤ day ∧ day ≤ 14

theorem not_ordinalOf_gap {day : Nat} {rest : List Nat} (hday : 5 ≤ day ∧ day ≤ 14) :
    ordinalOf path exid (1582 :: 10 :: day :: rest) ≠ .ok ordinal := by
  have hdate (name : String) (date : CalendarDate) :
      parseDateParts path name 1582 10 day ≠ .ok date := by
    intro h
    obtain ⟨hvalid, -⟩ := parseDateParts_eq_ok.mp h
    exact hvalid.2.2.2 ⟨rfl, rfl, hday⟩
  intro h
  unfold ordinalOf at h
  split at h
  case h_5 | h_6 | h_8 | h_9 =>
    rename_i hgroups
    cases hgroups
  case h_7 =>
    rename_i hgroups
    cases hgroups
    obtain ⟨clock, hclock, -⟩ := bind_eq_ok.mp h
    obtain ⟨rfl, -, -, hseconds, -⟩ := parseClock_eq_ok hclock
    change 1582 * 3600 + 10 * 60 + day ≤ 86400 at hseconds
    omega
  case h_10 => cases h
  all_goals
    rename_i hgroups
    cases hgroups
    obtain ⟨date, hparts, -⟩ := bind_eq_ok.mp h
    exact hdate _ _ hparts

theorem rawValue_eq_ok {bytes : Bytes} (h : rawValue path exid bytes = .ok raw) :
    raw ≤ exid.specification.maximumRaw ∧ bytes = rawBytes exid raw := by
  simp only [rawValue, bind_eq_ok, require_eq_ok, exists_const, Except.ok.injEq] at h
  obtain ⟨hlength, ⟨hpos, hmax⟩, rfl⟩ := h
  refine ⟨by omega, ?_⟩
  rw [rawBytes, Int.toNat_of_nonneg hpos, Bytes.signedLittleEndian_signedLittleNumber hlength]

/-- No text which has been decoded names a day of the gap. -/
theorem decode_not_inCalendarGap {bytes : Bytes} {s : JsString}
    (h : decodeClassicTemporal path exid bytes = .ok s) : ¬InCalendarGap exid s := by
  rintro ⟨day, rest, hgap, hday⟩
  obtain ⟨raw, hraw, -⟩ := bind_eq_ok.mp h
  obtain ⟨hmax, rfl⟩ := rawValue_eq_ok hraw
  rw [decode_rawBytes path hmax] at h
  obtain rfl := Except.ok.inj h
  split at hgap
  · cases exid with
    | utcLong =>
        have hzeros := match_utcLongInitial.symm.trans hgap
        cases hzeros
    | _ => exact absurd ((match_initial _).symm.trans hgap) nofun
  · rename_i hne
    obtain ⟨hmatch, hordinal⟩ := match_write_groupsOf path (Nat.pos_of_ne_zero hne) hmax
    rw [hmatch] at hgap
    rw [Option.some.inj hgap] at hordinal
    exact not_ordinalOf_gap hday hordinal

end Texts

/-- The texts of a type and its raw values are the same, in the order of the calendar. -/
theorem classicTemporal_bijection (path : String) (exid : ClassicTemporalExid) :
    (∀ raw ≤ exid.specification.maximumRaw,
      ∃ s, decodeClassicTemporal path exid (rawBytes exid raw) = .ok s ∧
        encodeClassicTemporal path exid (.text s) = .ok (rawBytes exid raw)) ∧
    (∀ s bytes, encodeClassicTemporal path exid (.text s) = .ok bytes →
      decodeClassicTemporal path exid bytes = .ok (if s = [] then exid.initialValue else s)) ∧
    (∀ raw raw', 1 ≤ raw → raw < raw' → raw' ≤ exid.specification.maximumRaw →
      ∃ s s' groups groups', decodeClassicTemporal path exid (rawBytes exid raw) = .ok s ∧
        decodeClassicTemporal path exid (rawBytes exid raw') = .ok s' ∧
        exid.form.match? s = some groups ∧ exid.form.match? s' = some groups' ∧
        groups < groups') ∧
    (∀ bytes s, decodeClassicTemporal path exid bytes = .ok s → ¬InCalendarGap exid s) := by
  refine ⟨fun raw h => encode_rawBytes path h, ?_, ?_,
    fun bytes s h => decode_not_inCalendarGap h⟩
  · intro s bytes h
    obtain ⟨s', hs, -, hdecode⟩ := decode_encodeClassicTemporal h
    obtain rfl := RfcValue.text.inj hs
    exact hdecode
  · intro raw raw' hpos hlt hmax
    have hdecode := decode_rawBytes path (hlt.le.trans hmax)
    have hdecode' := decode_rawBytes path hmax
    rw [if_neg (by omega)] at hdecode hdecode'
    obtain ⟨hmatch, -⟩ := match_write_groupsOf path hpos (hlt.le.trans hmax)
    obtain ⟨hmatch', -⟩ := match_write_groupsOf path (Nat.zero_lt_of_lt hlt) hmax
    exact ⟨_, _, _, _, hdecode, hdecode', hmatch, hmatch', groupsOf_lt (by omega) (by omega)⟩

end OpenRfc.Values
