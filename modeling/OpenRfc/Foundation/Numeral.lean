import OpenRfc.Foundation.Digits
import OpenRfc.Foundation.JsString

/-!
Decimal numerals within JavaScript strings: digits, an optional sign, and integers as they are
written by default.
-/

namespace OpenRfc.Numeral

/-- The digit which a code unit stands for. -/
def digitOf? (unit : UInt16) : Option Digit :=
  if 0x30 ≤ unit ∧ unit ≤ 0x39 then some (Fin.ofNat 10 (unit.toNat - 0x30)) else none

def unitOf (digit : Digit) : UInt16 := UInt16.ofNat (0x30 + digit.val)

/-- A string of digits. -/
def text (digits : Digits) : JsString := digits.map unitOf

/-- The digits at the start of a string, as many as there are, and the rest: `\d*` -/
def readDigits : JsString → Digits × JsString
  | [] => ([], [])
  | unit :: rest =>
    match digitOf? unit with
    | some digit => (digit :: (readDigits rest).1, (readDigits rest).2)
    | none => ([], unit :: rest)

/-- `[+-]?`, and whether it is a minus. -/
def readSign : JsString → Bool × JsString
  | 0x2d :: rest => (true, rest)
  | 0x2b :: rest => (false, rest)
  | rest => (false, rest)

def signText (negative : Bool) : JsString := if negative then [0x2d] else []

/-- `String(n)` -/
def intText (n : Int) : JsString := signText (n < 0) ++ text (Digits.ofNat n.natAbs)

section Reading

theorem digitOf?_unitOf : ∀ digit : Digit, digitOf? (unitOf digit) = some digit := by decide

/-- A string which does not go on with a digit. -/
def NoDigit (rest : JsString) : Prop := ∀ unit ∈ rest.head?, digitOf? unit = none

theorem readDigits_text (digits : Digits) {rest : JsString} (h : NoDigit rest) :
    readDigits (text digits ++ rest) = (digits, rest) := by
  induction digits with
  | nil =>
      cases rest with
      | nil => rfl
      | cons unit rest =>
          have hunit : digitOf? unit = none := h unit rfl
          rw [text, List.map_nil, List.nil_append, readDigits, hunit]
  | cons digit digits ih =>
      have hcons : text (digit :: digits) ++ rest = unitOf digit :: (text digits ++ rest) := rfl
      rw [hcons, readDigits, digitOf?_unitOf, ih]

theorem readDigits_text_nil (digits : Digits) : readDigits (text digits) = (digits, []) := by
  have h : readDigits (text digits ++ []) = (digits, []) := readDigits_text digits nofun
  rwa [List.append_nil] at h

/-- What is read and what remains. -/
theorem text_readDigits (s : JsString) : text (readDigits s).1 ++ (readDigits s).2 = s := by
  induction s with
  | nil => rfl
  | cons unit rest ih =>
      rw [readDigits]
      cases hdigit : digitOf? unit with
      | none => rfl
      | some digit =>
          have hunit : unitOf digit = unit := by
            rw [digitOf?] at hdigit
            split at hdigit
            · rename_i hrange
              obtain ⟨hlow, hhigh⟩ := hrange
              rw [UInt16.le_iff_toNat_le] at hlow hhigh
              rw [← Option.some.inj hdigit]
              apply UInt16.toNat_inj.mp
              have hval : (Fin.ofNat 10 (unit.toNat - 0x30)).val = unit.toNat - 0x30 :=
                Nat.mod_eq_of_lt (by
                  have h39 : (0x39 : UInt16).toNat = 0x39 := rfl
                  omega)
              rw [unitOf, hval, UInt16.toNat_ofNat']
              have h30 : (0x30 : UInt16).toNat = 0x30 := rfl
              have hlt := UInt16.toNat_lt unit
              omega
            · exact absurd hdigit nofun
          have hcons : text (digit :: (readDigits rest).1) ++ (readDigits rest).2 =
              unitOf digit :: (text (readDigits rest).1 ++ (readDigits rest).2) := rfl
          dsimp only
          rw [hcons, ih, hunit]

theorem ne_sign_unitOf : ∀ digit : Digit, unitOf digit ≠ 0x2d ∧ unitOf digit ≠ 0x2b := by decide

/-- A sign in front of a string which starts with none of its own. -/
theorem readSign_signText (negative : Bool) {s : JsString}
    (h : ∀ unit ∈ s.head?, unit ≠ 0x2d ∧ unit ≠ 0x2b) :
    readSign (signText negative ++ s) = (negative, s) := by
  cases negative with
  | true => rfl
  | false =>
      change readSign s = (false, s)
      unfold readSign
      split
      · exact absurd rfl (h _ rfl).1
      · exact absurd rfl (h _ rfl).2
      · rfl

end Reading
end OpenRfc.Numeral

/-!
Texts of a fixed form, in which groups of digits of fixed widths stand between literal characters.
-/

namespace OpenRfc
open Numeral

inductive FormPart
  | digits (width : Nat) (pos : 0 < width)
  | literal (unit : UInt16)

abbrev Form := List FormPart

namespace Form

/-- The numbers of the groups of a text, if it has the form. -/
def match? : Form → JsString → Option (List Nat)
  | [], s => if s = [] then some [] else none
  | .literal _ :: _, [] => none
  | .literal unit :: form, first :: s => if first = unit then match? form s else none
  | .digits width _ :: form, s =>
    let group := (readDigits (s.take width)).1
    if group.length = width then (match? form (s.drop width)).map (Digits.number group :: ·)
    else none

/-- The text with given numbers in its groups: `String(n).padStart(width, "0")` -/
def write : Form → List Nat → JsString
  | .literal unit :: form, groups => unit :: write form groups
  | .digits width _ :: form, group :: groups =>
    text ((Digits.ofNat group).pad width) ++ write form groups
  | _, _ => []

theorem pad_ofNat_number {digits : Digits} {width : Nat} (hpos : 0 < width)
    (h : digits.length = width) : (Digits.ofNat digits.number).pad width = digits := by
  have hlt := Digits.number_lt digits
  rw [h] at hlt
  apply Digits.number_injective
  · rw [Digits.length_pad _ (Digits.length_ofNat_le hpos hlt), h]
  · rw [Digits.number_pad, Digits.number_ofNat]

/-- A text is written again from the numbers of its groups. -/
theorem write_of_match {form : Form} {s : JsString} {groups : List Nat}
    (h : match? form s = some groups) : write form groups = s := by
  induction form generalizing s groups with
  | nil =>
      simp only [match?, Option.ite_none_right_eq_some] at h
      rw [write, h.1]
      all_goals simp
  | cons part form ih =>
      cases part with
      | literal unit =>
          cases s with
          | nil => simp [match?] at h
          | cons first s =>
              simp only [match?, Option.ite_none_right_eq_some] at h
              rw [write, ih h.2, h.1]
      | digits width pos =>
          simp only [match?, Option.ite_none_right_eq_some, Option.map_eq_some_iff] at h
          obtain ⟨hlength, rest, hrest, rfl⟩ := h
          have hread := text_readDigits (s.take width)
          have htake : text (readDigits (s.take width)).1 = s.take width := by
            have hlen := congrArg List.length hread
            rw [List.length_append, text, List.length_map, hlength, List.length_take] at hlen
            have hnil : (readDigits (s.take width)).2 = [] := by
              apply List.eq_nil_of_length_eq_zero
              omega
            rwa [hnil, List.append_nil] at hread
          rw [write, pad_ofNat_number pos hlength, htake, ih hrest, List.take_append_drop]

/-- The widths of the groups. -/
def widths (form : Form) : List Nat :=
  form.filterMap fun part => match part with
    | .digits width _ => some width
    | .literal _ => none

/-- Every group has a number of its width. -/
theorem lt_of_match {form : Form} {s : JsString} {groups : List Nat}
    (h : match? form s = some groups) :
    List.Forall₂ (fun width group => group < 10 ^ width) (widths form) groups := by
  induction form generalizing s groups with
  | nil =>
      simp only [match?, Option.ite_none_right_eq_some] at h
      obtain rfl := Option.some.inj h.2
      exact .nil
  | cons part form ih =>
      cases part with
      | literal unit =>
          cases s with
          | nil => simp [match?] at h
          | cons first s =>
              simp only [match?, Option.ite_none_right_eq_some] at h
              exact ih h.2
      | digits width pos =>
          simp only [match?, Option.ite_none_right_eq_some, Option.map_eq_some_iff] at h
          obtain ⟨hlength, rest, hrest, rfl⟩ := h
          have hlt := Digits.number_lt (readDigits (s.take width)).1
          rw [hlength] at hlt
          exact .cons hlt (ih hrest)

/-- The numbers are within the widths of their groups. -/
def Fits (form : Form) (groups : List Nat) : Prop :=
  List.Forall₂ (fun width group => group < 10 ^ width) (widths form) groups

/-- The numbers of a text which has been written from them. -/
theorem match_write {form : Form} {groups : List Nat} (h : Fits form groups) :
    match? form (write form groups) = some groups := by
  induction form generalizing groups with
  | nil =>
      cases h
      rfl
  | cons part form ih =>
      cases part with
      | literal unit =>
          rw [write, match?, if_pos rfl]
          exact ih h
      | digits width pos =>
          cases h with
          | @cons _ group _ groups hlt h =>
              have hlength := Digits.length_pad _ (Digits.length_ofNat_le pos hlt)
              have htext : (text ((Digits.ofNat group).pad width)).length = width := by
                rw [text, List.length_map, hlength]
              rw [write, match?, List.take_left' htext, List.drop_left' htext, readDigits_text_nil]
              dsimp only
              rw [if_pos hlength, ih h, Option.map_some, Digits.number_pad, Digits.number_ofNat]

end Form
end OpenRfc
