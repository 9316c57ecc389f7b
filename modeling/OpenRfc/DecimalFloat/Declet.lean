import OpenRfc.Foundation.Digits
import Mathlib.Data.Nat.Bitwise

/-!
Densely packed decimal. Three digits are packed into ten bits, of which 24 patterns are redundant:
they are read, but never written.
-/

namespace OpenRfc.DecimalFloat

def encodeDpdDeclet (value : Nat) : Nat :=
  let left := value / 100
  let middle := value / 10 % 10
  let right := value % 10
  let largePattern := (if 8 ≤ left then 4 else 0) ||| (if 8 ≤ middle then 2 else 0) |||
    (if 8 ≤ right then 1 else 0)
  match largePattern with
  | 0 => (left <<< 7) ||| (middle <<< 4) ||| right
  | 1 => (left <<< 7) ||| (middle <<< 4) ||| 0b1000 ||| (right &&& 1)
  | 2 => (left <<< 7) ||| (((right &&& 0b110) ||| (middle &&& 1)) <<< 4) ||| 0b1010 |||
      (right &&& 1)
  | 4 => (((right &&& 0b110) ||| (left &&& 1)) <<< 7) ||| (middle <<< 4) ||| 0b1100 |||
      (right &&& 1)
  | 6 => (((right &&& 0b110) ||| (left &&& 1)) <<< 7) ||| ((middle &&& 1) <<< 4) ||| 0b1110 |||
      (right &&& 1)
  | 5 => (((middle &&& 0b110) ||| (left &&& 1)) <<< 7) |||
      ((0b010 ||| (middle &&& 1)) <<< 4) ||| 0b1110 ||| (right &&& 1)
  | 3 => (left <<< 7) ||| ((0b100 ||| (middle &&& 1)) <<< 4) ||| 0b1110 ||| (right &&& 1)
  | _ => ((left &&& 1) <<< 7) ||| ((0b110 ||| (middle &&& 1)) <<< 4) ||| 0b1110 |||
      (right &&& 1)

def decodeDpdDeclet (code : Nat) : Nat :=
  let pqr := (code >>> 7) &&& 0b111
  let stu := (code >>> 4) &&& 0b111
  let v := (code >>> 3) &&& 1
  let w := (code >>> 2) &&& 1
  let x := (code >>> 1) &&& 1
  let y := code &&& 1
  let pqy := (((code >>> 9) &&& 1) <<< 2) ||| (((code >>> 8) &&& 1) <<< 1) ||| y
  let large (bit : Nat) := 8 + ((code >>> bit) &&& 1)
  let (left, middle, right) :=
    if v = 0 then (pqr, stu, code &&& 0b111)
    else if w = 0 ∧ x = 0 then (pqr, stu, 8 + y)
    else if w = 0 ∧ x = 1 then
      (pqr, large 4, (((code >>> 6) &&& 1) <<< 2) ||| (((code >>> 5) &&& 1) <<< 1) ||| y)
    else if w = 1 ∧ x = 0 then (large 7, stu, pqy)
    else
      let st := (code >>> 5) &&& 0b11
      if st = 0 then (large 7, large 4, pqy)
      else if st = 1 then
        (large 7, (((code >>> 9) &&& 1) <<< 2) ||| (((code >>> 8) &&& 1) <<< 1) |||
          ((code >>> 4) &&& 1), 8 + y)
      else if st = 2 then (pqr, large 4, 8 + y)
      -- The two highest bits are ignored here.
      else (large 7, large 4, 8 + y)
  left * 100 + middle * 10 + right

/-- A bit pattern which is written: where all three digits are large, the bits which are ignored
are zero. -/
def IsCanonicalDeclet (code : Nat) : Prop := code &&& 0x6e = 0x6e → code &&& 0x300 = 0

instance (code : Nat) : Decidable (IsCanonicalDeclet code) := inferInstanceAs (Decidable (_ → _))

section Continuation

/-- The digits in threes, each of them in ten bits, behind the bits which are given. -/
def continueCoefficient (encoded : Nat) : Digits → Nat
  | [] => encoded
  | [a] => (encoded <<< 10) ||| encodeDpdDeclet (Digits.number [a])
  | [a, b] => (encoded <<< 10) ||| encodeDpdDeclet (Digits.number [a, b])
  | a :: b :: c :: digits =>
    continueCoefficient ((encoded <<< 10) ||| encodeDpdDeclet (Digits.number [a, b, c])) digits

def encodeCoefficientContinuation (digits : Digits) : Nat := continueCoefficient 0 digits

/-- `String(value).padStart(3, "0")`, of a number below 1000 -/
def decletDigits (value : Nat) : Digits :=
  [Fin.ofNat 10 (value / 100), Fin.ofNat 10 (value / 10), Fin.ofNat 10 value]

/-- The digits in a number of declets, the last of which are the lowest bits. -/
def decodeDeclets : Nat → Nat → Digits
  | 0, _ => []
  | count + 1, bits =>
    decodeDeclets count (bits >>> 10) ++ decletDigits (decodeDpdDeclet (bits &&& 0x3ff))

def decodeCoefficientContinuation (bits digitCount : Nat) : Digits :=
  decodeDeclets (digitCount / 3) bits

end Continuation

section Declets

/-- Every value of three digits. -/
theorem encodeDpdDeclet_spec : ∀ value < 1000, decodeDpdDeclet (encodeDpdDeclet value) = value ∧
    encodeDpdDeclet value < 1024 ∧ IsCanonicalDeclet (encodeDpdDeclet value) := by
  decide +kernel

theorem decodeDpdDeclet_encode (value : Nat) (h : value < 1000) :
    decodeDpdDeclet (encodeDpdDeclet value) = value :=
  (encodeDpdDeclet_spec value h).1

theorem encodeDpdDeclet_lt (value : Nat) (h : value < 1000) : encodeDpdDeclet value < 1024 :=
  (encodeDpdDeclet_spec value h).2.1

theorem isCanonicalDeclet_encode (value : Nat) (h : value < 1000) :
    IsCanonicalDeclet (encodeDpdDeclet value) :=
  (encodeDpdDeclet_spec value h).2.2

theorem number_three (a b c : Digit) : Digits.number [a, b, c] = a * 100 + b * 10 + c := by
  simp only [Digits.number, List.foldl_cons, List.foldl_nil]
  omega

theorem number_three_lt (a b c : Digit) : Digits.number [a, b, c] < 1000 := by
  rw [number_three]
  omega

theorem decletDigits_number (a b c : Digit) : decletDigits (Digits.number [a, b, c]) = [a, b, c] := by
  rw [number_three, decletDigits]
  refine congrArg₂ _ (Fin.ext ?_) (congrArg₂ _ (Fin.ext ?_) (congrArg₂ _ (Fin.ext ?_) rfl))
  · change (a * 100 + b * 10 + c : Nat) / 100 % 10 = a
    omega
  · change (a * 100 + b * 10 + c : Nat) / 10 % 10 = b
    omega
  · change (a * 100 + b * 10 + c : Nat) % 10 = c
    omega

end Declets

section Groups
variable {count : Nat} {digits : Digits}

/-- Bits behind bits: the lower ones are those which have been appended. -/
theorem shiftLeft_or {value width : Nat} (h : value < 2 ^ width) (bits : Nat) :
    (bits <<< width) ||| value = bits * 2 ^ width + value := by
  rw [← Nat.shiftLeft_add_eq_or_of_lt h, Nat.shiftLeft_eq]

theorem shiftRight_append {value width : Nat} (h : value < 2 ^ width) (bits : Nat) :
    (bits * 2 ^ width + value) >>> width = bits := by
  rw [Nat.shiftRight_eq_div_pow, Nat.mul_comm, Nat.mul_add_div (Nat.two_pow_pos width),
    Nat.div_eq_of_lt h, Nat.add_zero]

theorem mask_append {value width : Nat} (h : value < 2 ^ width) (bits : Nat) :
    (bits * 2 ^ width + value) &&& (2 ^ width - 1) = value := by
  rw [Nat.and_two_pow_sub_one_eq_mod, Nat.mul_add_mod_self_right, Nat.mod_eq_of_lt h]

/-- A string of threes is empty, or ends with three digits. -/
theorem threes_cases (h : digits.length = 3 * (count + 1)) :
    ∃ before a b c, digits = before ++ [a, b, c] ∧ before.length = 3 * count := by
  have hlength : (digits.drop (3 * count)).length = 3 := by
    rw [List.length_drop]
    omega
  obtain ⟨a, b, c, hlast⟩ := List.length_eq_three.mp hlength
  refine ⟨digits.take (3 * count), a, b, c, ?_, ?_⟩
  · rw [← hlast, List.take_append_drop]
  · rw [List.length_take]
    omega

theorem continueCoefficient_append (h : digits.length = 3 * count) (encoded : Nat)
    (a b c : Digit) :
    continueCoefficient encoded (digits ++ [a, b, c]) =
      (continueCoefficient encoded digits <<< 10) ||| encodeDpdDeclet (Digits.number [a, b, c]) := by
  induction count generalizing encoded digits with
  | zero =>
      obtain rfl := List.length_eq_zero_iff.mp h
      rfl
  | succ count ih =>
      match digits, h with
      | x :: y :: z :: rest, h =>
        have hrest : rest.length = 3 * count := by
          simp only [List.length_cons] at h
          omega
        exact ih hrest _

/-- The digits of a string of threes are packed into ten bits each, and unpacked again. -/
theorem decodeDeclets_encode (h : digits.length = 3 * count) :
    encodeCoefficientContinuation digits < 2 ^ (10 * count) ∧
      decodeDeclets count (encodeCoefficientContinuation digits) = digits := by
  induction count generalizing digits with
  | zero =>
      obtain rfl := List.length_eq_zero_iff.mp h
      exact ⟨Nat.one_pos, rfl⟩
  | succ count ih =>
      obtain ⟨before, a, b, c, rfl, hbefore⟩ := threes_cases h
      obtain ⟨hlt, hdecode⟩ := ih hbefore
      have hdeclet : encodeDpdDeclet (Digits.number [a, b, c]) < 2 ^ 10 :=
        encodeDpdDeclet_lt _ (number_three_lt a b c)
      rw [encodeCoefficientContinuation, continueCoefficient_append hbefore,
        ← encodeCoefficientContinuation, shiftLeft_or hdeclet]
      constructor
      · rw [Nat.mul_succ, Nat.pow_add]
        omega
      · rw [decodeDeclets, shiftRight_append hdeclet, hdecode]
        have hmask := mask_append hdeclet (encodeCoefficientContinuation before)
        change _ &&& 0x3ff = _ at hmask
        rw [hmask, decodeDpdDeclet_encode _ (number_three_lt a b c), decletDigits_number]

theorem length_decodeDeclets (count bits : Nat) : (decodeDeclets count bits).length = 3 * count := by
  induction count generalizing bits with
  | zero => rfl
  | succ count ih =>
      rw [decodeDeclets, List.length_append, ih]
      rfl

/-- Are all groups of ten bits such as are written? -/
def CanonicalDeclets : Nat → Nat → Prop
  | 0, bits => bits = 0
  | count + 1, bits => CanonicalDeclets count (bits >>> 10) ∧ IsCanonicalDeclet (bits &&& 0x3ff)

theorem canonicalDeclets_encode (h : digits.length = 3 * count) :
    CanonicalDeclets count (encodeCoefficientContinuation digits) := by
  induction count generalizing digits with
  | zero =>
      obtain rfl := List.length_eq_zero_iff.mp h
      exact rfl
  | succ count ih =>
      obtain ⟨before, a, b, c, rfl, hbefore⟩ := threes_cases h
      have hdeclet : encodeDpdDeclet (Digits.number [a, b, c]) < 2 ^ 10 :=
        encodeDpdDeclet_lt _ (number_three_lt a b c)
      have hmask := mask_append hdeclet (encodeCoefficientContinuation before)
      change _ &&& 0x3ff = _ at hmask
      rw [encodeCoefficientContinuation, continueCoefficient_append hbefore,
        ← encodeCoefficientContinuation, shiftLeft_or hdeclet, CanonicalDeclets,
        shiftRight_append hdeclet, hmask]
      exact ⟨ih hbefore, isCanonicalDeclet_encode _ (number_three_lt a b c)⟩

end Groups
end OpenRfc.DecimalFloat
