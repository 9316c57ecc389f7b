import OpenRfc.Foundation.Double
import OpenRfc.Foundation.Fallible
import OpenRfc.Foundation.Numeral

/-!
The values which a caller supplies and receives, and the readings of them which the codecs share:
integers within a range, signed 64-bit integers in one of three representations, and decimals.
-/

namespace OpenRfc.Values
open Fallible Numeral

/-- A value of JavaScript, as far as the codecs tell values apart. An object has its own enumerable
properties. -/
inductive RfcValue
  | text (s : JsString)
  | number (d : Double)
  | bigint (n : Int)
  | bytes (b : Bytes)
  | object (properties : List (JsString × RfcValue))
  | array (elements : List RfcValue)
  | primitive
deriving Repr

abbrev RfcRecord := List (JsString × RfcValue)

/-- What the runtime makes of numbers and of objects: `d.toString()`, and `value.toString`, which
may be no function, or return something else than a string. -/
structure Host where
  numberText : Double → JsString
  objectText : RfcValue → Option (Option JsString)

/-- `Number.isSafeInteger(value)` and the bounds of a type. -/
def integer (value : RfcValue) (minimum maximum : Int) (error : String) : Except String Int :=
  match value with
  | .number d =>
    match d.safeInteger? with
    | some n => if minimum ≤ n ∧ n ≤ maximum then .ok n else .error error
    | none => .error error
  | _ => .error error

theorem integer_eq_ok {value : RfcValue} {minimum maximum n : Int} {error : String}
    (h : integer value minimum maximum error = .ok n) :
    minimum ≤ n ∧ n ≤ maximum ∧ ∃ d, value = .number d ∧ d.safeInteger? = some n := by
  cases value with
  | number d =>
      rw [integer] at h
      split at h
      · rename_i m hm
        split at h
        · rename_i hrange
          obtain rfl := Except.ok.inj h
          exact ⟨hrange.1, hrange.2, d, rfl, hm⟩
        · exact absurd h nofun
      · exact absurd h nofun
  | _ => exact absurd h nofun

section Int8

inductive ClassicInt8Mode
  | number
  | bigint
  | string
deriving DecidableEq, Repr

def int8Min : Int := -2 ^ 63
def int8Max : Int := 2 ^ 63 - 1

def assertSignedInt8 (value : Int) (path : String) : Except String Int := do
  require (int8Min ≤ value ∧ value ≤ int8Max) s!"{path} expects a signed 64-bit integer"
  .ok value

/-- `-?`, and whether it is there. -/
def readMinus : JsString → Bool × JsString
  | 0x2d :: rest => (true, rest)
  | rest => (false, rest)

/-- `/^(?:0|-[1-9][0-9]*|[1-9][0-9]*)$/u`, and the integer which the text denotes. -/
def canonicalInteger? (s : JsString) : Option Int :=
  let (negative, rest) := readMinus s
  match readDigits rest with
  | (digits, []) =>
    if digits = [0] ∧ negative = false ∨ digits ≠ [] ∧ digits.head? ≠ some 0 then
      some (if negative then -(digits.number : Int) else digits.number)
    else none
  | _ => none

def encodeClassicInt8 (value : RfcValue) (mode : ClassicInt8Mode) (path : String) :
    Except String Int :=
  match mode with
  | .number =>
    match value with
    | .number d =>
      match d.safeInteger? with
      | some n => assertSignedInt8 n path
      | none => .error s!"{path} expects a safe integer number in number mode"
    | _ => .error s!"{path} expects a safe integer number in number mode"
  | .bigint =>
    match value with
    | .bigint n => assertSignedInt8 n path
    | .number d =>
      match d.safeInteger? with
      | some n => assertSignedInt8 n path
      | none => .error s!"{path} expects a signed 64-bit integer"
    | _ => .error s!"{path} expects a signed 64-bit integer"
  | .string =>
    match value with
    | .text s =>
      match (if s.length ≤ 20 then canonicalInteger? s else none) with
      | some n => assertSignedInt8 n path
      | none => .error s!"{path} expects a canonical signed decimal string in string mode"
    | _ => .error s!"{path} expects a canonical signed decimal string in string mode"

/-- A 64-bit integer beyond the safe range has no number of its own, and is not rounded. -/
def decodeClassicInt8 (value : Int) (mode : ClassicInt8Mode) (path : String) :
    Except String RfcValue := do
  let normalized ← assertSignedInt8 value path
  match mode with
  | .bigint => .ok (.bigint normalized)
  | .string => .ok (.text (intText normalized))
  | .number =>
    require (normalized.natAbs ≤ Double.maxSafeInteger)
      s!"{path} INT8 result exceeds JavaScript's safe integer range; use bigint or string mode"
    .ok (.number (Double.ofInt normalized))

def classicInt8InitialValue : ClassicInt8Mode → RfcValue
  | .number => .number (Double.ofInt 0)
  | .bigint => .bigint 0
  | .string => .text [0x30]

/-- The representation of an integer in a mode. -/
def int8Value (mode : ClassicInt8Mode) (n : Int) : RfcValue :=
  match mode with
  | .number => .number (Double.ofInt n)
  | .bigint => .bigint n
  | .string => .text (intText n)

/-- The integer which a value stands for. -/
def RfcValue.integer? : RfcValue → Option Int
  | .number d => d.safeInteger?
  | .bigint n => some n
  | .text s => canonicalInteger? s
  | _ => none

theorem assertSignedInt8_eq_ok {value n : Int} {path : String} :
    assertSignedInt8 value path = .ok n ↔ int8Min ≤ value ∧ value ≤ int8Max ∧ value = n := by
  simp only [assertSignedInt8, bind_eq_ok, require_eq_ok, exists_const, Except.ok.injEq, and_assoc]

/-- What is encoded is the integer of the value. -/
theorem integer_of_encodeClassicInt8 {value : RfcValue} {mode : ClassicInt8Mode} {path : String}
    {n : Int} (h : encodeClassicInt8 value mode path = .ok n) :
    int8Min ≤ n ∧ n ≤ int8Max ∧ value.integer? = some n ∧
      (mode = .number → n.natAbs ≤ Double.maxSafeInteger) ∧
      (mode = .string → ∃ s, value = .text s) := by
  have hchecked {m : Int} (hm : value.integer? = some m) (h : assertSignedInt8 m path = .ok n) :
      int8Min ≤ n ∧ n ≤ int8Max ∧ value.integer? = some n := by
    obtain ⟨hmin, hmax, rfl⟩ := assertSignedInt8_eq_ok.mp h
    exact ⟨hmin, hmax, hm⟩
  cases mode with
  | number =>
      cases value with
      | number d =>
          simp only [encodeClassicInt8] at h
          split at h
          · rename_i m hm
            obtain ⟨hmin, hmax, hn⟩ := hchecked hm h
            exact ⟨hmin, hmax, hn, fun _ => (Double.eq_ofInt hn).1, nofun⟩
          · exact absurd h nofun
      | _ => exact absurd h nofun
  | bigint =>
      cases value with
      | bigint m =>
          obtain ⟨hmin, hmax, hn⟩ := hchecked rfl h
          exact ⟨hmin, hmax, hn, nofun, nofun⟩
      | number d =>
          simp only [encodeClassicInt8] at h
          split at h
          · rename_i m hm
            obtain ⟨hmin, hmax, hn⟩ := hchecked hm h
            exact ⟨hmin, hmax, hn, nofun, nofun⟩
          · exact absurd h nofun
      | _ => exact absurd h nofun
  | string =>
      cases value with
      | text s =>
          simp only [encodeClassicInt8] at h
          split at h
          · rename_i m hm
            obtain ⟨hmin, hmax, hn⟩ := hchecked (Option.ite_none_right_eq_some.mp hm).2 h
            exact ⟨hmin, hmax, hn, nofun, fun _ => ⟨s, rfl⟩⟩
          · exact absurd h nofun
      | _ => exact absurd h nofun

theorem decodeClassicInt8_eq {n : Int} {mode : ClassicInt8Mode} (hmin : int8Min ≤ n)
    (hmax : n ≤ int8Max) (hsafe : mode = .number → n.natAbs ≤ Double.maxSafeInteger)
    (path : String) : decodeClassicInt8 n mode path = .ok (int8Value mode n) := by
  have hassert : assertSignedInt8 n path = .ok n := assertSignedInt8_eq_ok.mpr ⟨hmin, hmax, rfl⟩
  cases mode with
  | number => simp only [decodeClassicInt8, hassert, ok_bind, require_of (hsafe rfl), int8Value]
  | bigint => simp only [decodeClassicInt8, hassert, ok_bind, int8Value]
  | string => simp only [decodeClassicInt8, hassert, ok_bind, int8Value]

/-- The text of an integer is read as the integer. -/
theorem canonicalInteger_intText (n : Int) : canonicalInteger? (intText n) = some n := by
  have hnormal := Digits.normal_ofNat n.natAbs
  have hnumber := Digits.number_ofNat n.natAbs
  have hzero := Digits.number_eq_zero_iff hnormal
  have hread := readDigits_text_nil (Digits.ofNat n.natAbs)
  have hminus : readMinus (intText n) = (decide (n < 0), text (Digits.ofNat n.natAbs)) := by
    by_cases hneg : n < 0
    · rw [intText, decide_eq_true hneg]
      rfl
    · rw [intText, decide_eq_false hneg]
      obtain ⟨digit, rest, hdigits⟩ := List.exists_cons_of_ne_nil hnormal.ne_nil
      rw [hdigits, signText, if_neg Bool.false_ne_true, List.nil_append, text, List.map_cons]
      unfold readMinus
      split
      · rename_i heq
        exact absurd (List.cons.inj heq).1 (ne_sign_unitOf digit).1
      · rfl
  rw [canonicalInteger?, hminus]
  dsimp only
  rw [hread]
  dsimp only
  have hvalue : (if decide (n < 0) = true then -((Digits.ofNat n.natAbs).number : Int)
      else (Digits.ofNat n.natAbs).number) = n := by
    rw [hnumber]
    by_cases hneg : n < 0
    · rw [if_pos (decide_eq_true hneg)]
      omega
    · rw [if_neg (by simpa using hneg)]
      omega
  rw [if_pos, hvalue]
  obtain hdigits | ⟨digit, rest, hdigits, hne⟩ := hnormal
  · refine .inl ⟨hdigits, decide_eq_false ?_⟩
    rw [hnumber] at hzero
    have hnatAbs := hzero.mpr hdigits
    omega
  · rw [hdigits]
    exact .inr ⟨List.cons_ne_nil _ _, fun he => hne (Option.some.inj he)⟩

end Int8

section Decimals
variable (host : Host)

/-- The JavaScript representation of decimal outputs. A number mode converts by `Number`. -/
inductive ClassicBcdMode
  | string
  | converter (convert : JsString → Except String RfcValue)

def projectClassicBcdOutput (value : JsString) (mode : ClassicBcdMode) : Except String RfcValue :=
  match mode with
  | .string => .ok (.text value)
  | .converter convert => convert value

def nonEmptyText (s : JsString) : JsString := if s = [] then [0x30] else s

/-- The text of a decimal. -/
def decimalText (value : RfcValue) (path : String) : Except String JsString :=
  match value with
  | .number d => do
    require d.isFinite s!"{path} expects a finite decimal"
    .ok (host.numberText d)
  | .text s => .ok (nonEmptyText s)
  | .bigint n => .ok (intText n)
  | .primitive => .error s!"{path} expects a decimal string, number, bigint, or decimal object"
  | value =>
    match host.objectText value with
    | none => .error s!"{path} decimal object must provide toString()"
    | some none => .error s!"{path} decimal object's toString() must return a string"
    | some (some text) => .ok (nonEmptyText text)

end Decimals
end OpenRfc.Values
