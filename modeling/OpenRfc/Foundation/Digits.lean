import Mathlib.Data.Nat.Digits.Defs
import Mathlib.Data.List.DropRight

/-!
Strings of decimal digits, the highest digit first. Leading and trailing zeros may be stripped and
padded, and what that does to the number of a string is all that a numeral rests on.
-/

abbrev Digit := Fin 10
abbrev Digits := List Digit

instance Digit.neZero : NeZero 10 := ⟨by decide⟩

namespace Digits

/-- The number which a digit string denotes. -/
def number (digits : Digits) : Nat :=
  digits.foldl (fun (value : Nat) (digit : Digit) => value * 10 + digit.val) 0

def stripZeros (digits : Digits) : Digits := digits.dropWhile (· == 0)

/-- The digits without leading zeros, of which one remains where there is nothing else. -/
def significant (digits : Digits) : Digits :=
  if digits.stripZeros = [] then [0] else digits.stripZeros

def trailingZeroCount (digits : Digits) : Nat := (digits.reverse.takeWhile (· == 0)).length

/-- A string with leading zeros up to a width. -/
def pad (width : Nat) (digits : Digits) : Digits :=
  List.replicate (width - digits.length) 0 ++ digits

/-- The digits of a number, as many as the first argument allows. -/
def lowDigits : Nat → Nat → Digits
  | 0, _ => []
  | count + 1, n => if n < 10 then [Fin.ofNat 10 n] else lowDigits count (n / 10) ++ [Fin.ofNat 10 n]

/-- The digits of a number, without leading zeros. -/
def ofNat (n : Nat) : Digits := lowDigits (n + 1) n

section Number

@[simp] theorem number_nil : number [] = 0 := rfl

@[simp] theorem number_singleton (digit : Digit) : number [digit] = digit := by
  simp [number]

theorem number_append_singleton (digits : Digits) (digit : Digit) :
    number (digits ++ [digit]) = number digits * 10 + digit := by
  simp [number]

theorem number_append (xs ys : Digits) :
    number (xs ++ ys) = number xs * 10 ^ ys.length + number ys := by
  induction ys using List.reverseRecOn with
  | nil => simp
  | append_singleton ys y ih =>
      rw [← List.append_assoc, number_append_singleton, ih, number_append_singleton,
        List.length_append, List.length_singleton, Nat.pow_succ]
      ring

@[simp] theorem number_zeros (count : Nat) : number (List.replicate count 0) = 0 := by
  induction count with
  | zero => rfl
  | succ count ih =>
      rw [List.replicate_succ', number_append_singleton, ih]
      rfl

theorem number_lt (digits : Digits) : number digits < 10 ^ digits.length := by
  induction digits using List.reverseRecOn with
  | nil => exact Nat.one_pos
  | append_singleton digits digit ih =>
      rw [number_append_singleton, List.length_append, List.length_singleton, Nat.pow_succ]
      omega

/-- Strings of one length are told apart by their numbers. -/
theorem number_injective {xs ys : Digits} (hlength : xs.length = ys.length)
    (h : number xs = number ys) : xs = ys := by
  induction xs using List.reverseRecOn generalizing ys with
  | nil => exact (List.length_eq_zero_iff.mp hlength.symm).symm
  | append_singleton xs x ih =>
      induction ys using List.reverseRecOn with
      | nil => simp at hlength
      | append_singleton ys y _ =>
          simp only [List.length_append, List.length_singleton, Nat.add_right_cancel_iff] at hlength
          rw [number_append_singleton, number_append_singleton] at h
          have hx := x.isLt
          have hy := y.isLt
          rw [ih hlength (by omega), Fin.ext (by omega : x.val = y.val)]

theorem number_ofNat (n : Nat) : number (ofNat n) = n := by
  have h (count n : Nat) (hn : n < count) : number (lowDigits count n) = n := by
    induction count generalizing n with
    | zero => omega
    | succ count ih =>
        rw [lowDigits]
        split
        · rename_i hdigit
          rw [number_singleton]
          exact Nat.mod_eq_of_lt hdigit
        · rw [number_append_singleton, ih (n / 10) (by omega)]
          change n / 10 * 10 + n % 10 = n
          omega
  exact h (n + 1) n (Nat.lt_succ_self n)

theorem length_ofNat_le {n width : Nat} (hwidth : 0 < width) (h : n < 10 ^ width) :
    (ofNat n).length ≤ width := by
  have hlow (count n width : Nat) (hwidth : 0 < width) (h : n < 10 ^ width) :
      (lowDigits count n).length ≤ width := by
    induction count generalizing n width with
    | zero => exact Nat.zero_le _
    | succ count ih =>
        rw [lowDigits]
        split
        · exact hwidth
        · obtain ⟨width, rfl⟩ := Nat.exists_eq_succ_of_ne_zero hwidth.ne'
          have hpos : 0 < width := by
            by_contra hzero
            obtain rfl : width = 0 := by omega
            omega
          have hdiv : n / 10 < 10 ^ width := by
            rw [Nat.pow_succ] at h
            omega
          have hrest := ih (n / 10) width hpos hdiv
          rw [List.length_append, List.length_singleton]
          omega
  exact hlow (n + 1) n width hwidth h

theorem ofNat_ne_nil (n : Nat) : ofNat n ≠ [] := by
  rw [ofNat, lowDigits]
  split
  · exact List.cons_ne_nil _ _
  · exact List.append_ne_nil_of_right_ne_nil _ (List.cons_ne_nil _ _)

end Number

section Zeros
variable (digits : Digits)

/-- The leading zeros of a string, and the rest. -/
theorem zeros_append_stripZeros :
    ∃ count, List.replicate count 0 ++ digits.stripZeros = digits := by
  induction digits with
  | nil => exact ⟨0, rfl⟩
  | cons digit digits ih =>
      rw [stripZeros, List.dropWhile_cons]
      split
      · rename_i hzero
        obtain ⟨count, hcount⟩ := ih
        refine ⟨count + 1, ?_⟩
        rw [List.replicate_succ, List.cons_append, ← stripZeros, hcount, eq_of_beq hzero]
      · exact ⟨0, rfl⟩

theorem stripZeros_zeros_append (count : Nat) :
    stripZeros (List.replicate count 0 ++ digits) = digits.stripZeros := by
  induction count with
  | zero => rfl
  | succ count ih =>
      rw [List.replicate_succ, List.cons_append, stripZeros, List.dropWhile_cons_of_pos rfl,
        ← stripZeros, ih]

theorem number_stripZeros : number digits.stripZeros = number digits := by
  obtain ⟨count, hcount⟩ := zeros_append_stripZeros digits
  rw [← congrArg number hcount, number_append, number_zeros]
  omega

theorem length_stripZeros_le : digits.stripZeros.length ≤ digits.length := by
  obtain ⟨count, hcount⟩ := zeros_append_stripZeros digits
  rw [← congrArg List.length hcount, List.length_append]
  omega

theorem stripZeros_stripZeros : digits.stripZeros.stripZeros = digits.stripZeros :=
  List.dropWhile_idempotent _ _

theorem stripZeros_pad (width : Nat) : (digits.pad width).stripZeros = digits.stripZeros :=
  stripZeros_zeros_append _ _

theorem length_pad {width : Nat} (h : digits.length ≤ width) : (digits.pad width).length = width := by
  rw [pad, List.length_append, List.length_replicate]
  omega

theorem number_pad (width : Nat) : number (digits.pad width) = number digits := by
  rw [pad, number_append, number_zeros]
  omega

/-- A string which ends with zeros, and what stands in front of them. -/
theorem take_append_zeros {count : Nat} (h : count ≤ digits.trailingZeroCount) :
    digits.take (digits.length - count) ++ List.replicate count 0 = digits := by
  have hzeros : digits.drop (digits.length - count) = List.replicate count 0 := by
    have hle : count ≤ digits.length := by
      apply h.trans
      exact (List.takeWhile_sublist _).length_le.trans_eq List.length_reverse
    apply List.reverse_injective
    rw [List.reverse_drop, List.reverse_replicate, Nat.sub_sub_self hle, List.eq_replicate_iff]
    constructor
    · rw [List.length_take, List.length_reverse, Nat.min_eq_left hle]
    · intro digit hdigit
      rw [← List.takeWhile_append_dropWhile (p := (· == 0)) (l := digits.reverse),
        List.take_append_of_le_length h] at hdigit
      have hzero := List.mem_takeWhile_imp (List.mem_of_mem_take hdigit)
      exact eq_of_beq hzero
  rw [← hzeros, List.take_append_drop]

theorem trailingZeroCount_append_singleton (digit : Digit) :
    trailingZeroCount (digits ++ [digit]) = if digit = 0 then digits.trailingZeroCount + 1 else 0 := by
  rw [trailingZeroCount, List.reverse_append, List.reverse_singleton, List.singleton_append,
    List.takeWhile_cons]
  by_cases hzero : digit = 0
  · simp [hzero, trailingZeroCount]
  · simp [hzero]

/-- The powers of ten which divide a number other than zero are those of its trailing zeros. -/
theorem pow_dvd_number_iff (hne : number digits ≠ 0) {count : Nat} :
    10 ^ count ∣ number digits ↔ count ≤ digits.trailingZeroCount := by
  induction digits using List.reverseRecOn generalizing count with
  | nil => exact absurd rfl hne
  | append_singleton digits digit ih =>
      rw [number_append_singleton] at hne
      rw [number_append_singleton, trailingZeroCount_append_singleton]
      cases count with
      | zero => simp
      | succ count =>
          by_cases hzero : digit = 0
          · rw [hzero] at hne
            have hrest : 10 ^ count ∣ number digits ↔ count ≤ trailingZeroCount digits :=
              ih fun h => hne (by rw [h]; rfl)
            have hsplit : number digits * 10 + ((0 : Digit) : Nat) = number digits * 10 := rfl
            rw [hzero, hsplit, if_pos rfl, Nat.pow_succ,
              Nat.mul_dvd_mul_iff_right (by decide : 0 < 10), hrest, Nat.add_le_add_iff_right]
          · have hlast : digit.val ≠ 0 := fun h => hzero (Fin.ext h)
            have hdigit := digit.isLt
            rw [if_neg hzero]
            refine iff_of_false (fun hdvd => ?_) (by omega)
            have hten : 10 ∣ number digits * 10 + digit.val :=
              (Dvd.intro_left (10 ^ count) (pow_succ 10 count).symm).trans hdvd
            omega

end Zeros

section Leading
variable {digits : Digits}

/-- A string whose first digit is not zero. -/
def Leading (digits : Digits) : Prop := ∃ digit rest, digits = digit :: rest ∧ digit ≠ 0

/-- The strings in which no leading zero can be left out. -/
def Normal (digits : Digits) : Prop := digits = [0] ∨ Leading digits

theorem leading_of_stripZeros (h : digits.stripZeros ≠ []) : Leading digits.stripZeros := by
  cases hstrip : digits.stripZeros with
  | nil => exact absurd hstrip h
  | cons digit rest =>
      refine ⟨digit, rest, rfl, ?_⟩
      rintro rfl
      have hagain := stripZeros_stripZeros digits
      rw [hstrip, stripZeros, List.dropWhile_cons_of_pos rfl] at hagain
      have hlength := length_stripZeros_le rest
      rw [stripZeros, hagain, List.length_cons] at hlength
      omega

theorem normal_significant (digits : Digits) : Normal digits.significant := by
  rw [significant]
  split
  · exact .inl rfl
  · rename_i hne
    exact .inr (leading_of_stripZeros hne)

theorem number_significant (digits : Digits) : number digits.significant = number digits := by
  rw [significant]
  split
  · rename_i hnil
    have hnumber := number_stripZeros digits
    rw [hnil] at hnumber
    exact hnumber
  · exact number_stripZeros digits

theorem length_significant_le {width : Nat} (hwidth : 0 < width) (h : digits.length ≤ width) :
    digits.significant.length ≤ width := by
  rw [significant]
  split
  · exact hwidth
  · exact (length_stripZeros_le digits).trans h

theorem Leading.stripZeros_eq (h : Leading digits) : digits.stripZeros = digits := by
  obtain ⟨digit, rest, rfl, hne⟩ := h
  exact List.dropWhile_cons_of_neg (by simpa using hne)

theorem Leading.ne_nil (h : Leading digits) : digits ≠ [] := by
  obtain ⟨digit, rest, rfl, -⟩ := h
  exact List.cons_ne_nil _ _

theorem Normal.significant_eq (h : Normal digits) : digits.significant = digits := by
  obtain rfl | h := h
  · rfl
  · rw [significant, h.stripZeros_eq, if_neg h.ne_nil]

theorem Normal.ne_nil (h : Normal digits) : digits ≠ [] := by
  obtain rfl | h := h
  · exact List.cons_ne_nil _ _
  · exact h.ne_nil

theorem Leading.append (h : Leading digits) (digits' : Digits) : Leading (digits ++ digits') := by
  obtain ⟨digit, rest, rfl, hne⟩ := h
  exact ⟨digit, rest ++ digits', rfl, hne⟩

theorem Leading.take (h : Leading digits) {count : Nat} (hcount : 0 < count) :
    Leading (digits.take count) := by
  obtain ⟨digit, rest, rfl, hne⟩ := h
  obtain ⟨count, rfl⟩ := Nat.exists_eq_succ_of_ne_zero hcount.ne'
  exact ⟨digit, rest.take count, rfl, hne⟩

theorem Leading.le_number (h : Leading digits) : 10 ^ (digits.length - 1) ≤ number digits := by
  obtain ⟨digit, rest, rfl, hne⟩ := h
  have hsplit := number_append [digit] rest
  have hdigit : 1 ≤ digit.val := Nat.one_le_iff_ne_zero.mpr (Fin.val_ne_of_ne hne)
  rw [number_singleton] at hsplit
  calc 10 ^ ((digit :: rest).length - 1) = 1 * 10 ^ rest.length := by simp
    _ ≤ digit.val * 10 ^ rest.length := Nat.mul_le_mul_right _ hdigit
    _ ≤ number ([digit] ++ rest) := by omega

/-- Digits without leading zeros are as many as the power of ten which bounds their number. -/
theorem Leading.number_lt_pow_iff (h : Leading digits) (width : Nat) :
    digits.number < 10 ^ width ↔ digits.length ≤ width := by
  have hpos : 0 < digits.length := List.length_pos_of_ne_nil h.ne_nil
  constructor
  · intro hlt
    have hpow := (Nat.pow_lt_pow_iff_right (by decide : 1 < 10)).mp (h.le_number.trans_lt hlt)
    omega
  · exact fun hle => (number_lt digits).trans_le (Nat.pow_le_pow_right (by decide) hle)

theorem Leading.number_pos (h : Leading digits) : 0 < digits.number :=
  (Nat.pow_pos (by decide)).trans_le h.le_number

/-- Digits without leading zeros are the digits of their number. -/
theorem Normal.ofNat_number (h : Normal digits) : ofNat digits.number = digits := by
  obtain rfl | h := h
  · rfl
  have hpos : 0 < digits.length := List.length_pos_of_ne_nil h.ne_nil
  have hle := length_ofNat_le hpos (number_lt digits)
  have hlow := h.le_number
  have hhigh := number_lt (ofNat digits.number)
  rw [number_ofNat] at hhigh
  have hlength := (Nat.pow_lt_pow_iff_right (by decide : 1 < 10)).mp (hlow.trans_lt hhigh)
  exact number_injective (by omega) (number_ofNat _)

theorem normal_ofNat (n : Nat) : Normal (ofNat n) := by
  have hnormal := normal_significant (ofNat n)
  have hsame := hnormal.ofNat_number
  rw [number_significant, number_ofNat] at hsame
  rwa [← hsame] at hnormal

theorem number_eq_zero_iff (h : Normal digits) : digits.number = 0 ↔ digits = [0] := by
  constructor
  · intro hzero
    obtain rfl | h := h
    · rfl
    · have hle := h.le_number
      have hpos : 0 < 10 ^ (digits.length - 1) := Nat.pow_pos (by decide)
      omega
  · rintro rfl
    rfl

/-- The trailing zeros do not reach the first digit. -/
theorem Leading.trailingZeroCount_lt (h : Leading digits) :
    digits.trailingZeroCount < digits.length := by
  by_contra hle
  have hle : digits.length ≤ digits.trailingZeroCount := by omega
  have happend := take_append_zeros digits hle
  obtain ⟨digit, rest, rfl, hne⟩ := h
  rw [Nat.sub_self, List.take_zero, List.nil_append, List.length_cons,
    List.replicate_succ] at happend
  exact hne (List.cons.inj happend).1.symm

theorem significant_zeros_append (count : Nat) (digits : Digits) :
    significant (List.replicate count 0 ++ digits) = digits.significant := by
  rw [significant, stripZeros_zeros_append, significant]

/-- The digits which are padded are the same whether leading zeros have been left out or not. -/
theorem pad_significant {width : Nat} (hwidth : 0 < width) (h : digits.length ≤ width) :
    digits.significant.pad width = digits.pad width := by
  obtain ⟨count, hcount⟩ := zeros_append_stripZeros digits
  have hlength := congrArg List.length hcount
  rw [List.length_append, List.length_replicate] at hlength
  have hpad : digits.pad width = List.replicate (width - digits.stripZeros.length) 0 ++
      digits.stripZeros := by
    rw [pad, ← hcount, ← List.append_assoc, List.replicate_append_replicate, hcount,
      ← hlength]
    congr 2
    omega
  rw [hpad, significant]
  split
  · rename_i hnil
    rw [hnil, pad, List.length_singleton, List.length_nil, List.append_nil,
      ← List.replicate_succ']
    congr 1
    omega
  · rfl

end Leading
end Digits
