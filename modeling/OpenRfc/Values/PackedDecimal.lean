import OpenRfc.DecimalFloat.Meaning
import OpenRfc.Values.RfcValue

/-!
Packed decimals: two decimal digits in a byte, and the sign behind the last one. A text is brought
to a fixed number of fractional digits without rounding.
-/

namespace OpenRfc.Values
open Fallible Numeral
open DecimalFloat (matchFinite)

def maxPackedDecimalTextLength : Nat := 4096

section Scaling

/-- The sum of two safe integers as a number. Of two odd neighbours beyond the safe range the even
number between them is a multiple of four. -/
def addNumbers (m n : Int) : Int :=
  let sum := m + n
  if sum.natAbs ≤ 2 ^ 53 ∨ sum % 2 = 0 then sum
  else if (sum + 1) % 4 = 0 then sum + 1
  else sum - 1

def isSafeInteger (n : Int) : Prop := n.natAbs ≤ Double.maxSafeInteger

instance (n : Int) : Decidable (isSafeInteger n) := inferInstanceAs (Decidable (_ ≤ _))

variable (path : String) (decimals capacity : Nat)

def exceedsCapacity : String := s!"{path} exceeds its {capacity}-digit packed capacity"

def tooPrecise : String := s!"{path} has more than {decimals} fractional digits"

/-- An exponent beyond the safe range. There is only zero left. -/
def scaledUnsafe (coefficient : Digits) (exponent : Int) : Except String (Digits × Bool) :=
  if coefficient.stripZeros = [] then .ok ([0], false)
  else if 0 < exponent then .error (exceedsCapacity path capacity)
  else .error (tooPrecise path decimals)

/-- The coefficient with the decimal point moved behind the last fractional digit. -/
def shiftCoefficient (coefficient : Digits) (shift : Int) : Except String Digits :=
  if 0 ≤ shift then do
    require (coefficient.stripZeros.length + shift ≤ capacity) (exceedsCapacity path capacity)
    .ok (coefficient ++ List.replicate shift.toNat 0)
  else do
    let split := coefficient.length - (-shift).toNat
    require (Digits.stripZeros (coefficient.drop split) = []) (tooPrecise path decimals)
    .ok (if coefficient.take split = [] then [0] else coefficient.take split)

/-- The digits of a decimal without its point, and whether it is negative. -/
def scaledDigits (text : JsString) : Except String (Digits × Bool) :=
  match matchFinite text with
  | none => .error s!"{path} is not a decimal value"
  | some found => do
    let coefficient := found.integer ++ found.fraction
    if ¬isSafeInteger found.exponent then
      scaledUnsafe path decimals capacity coefficient found.exponent
    else
      let shift := addNumbers (addNumbers found.exponent decimals) (-found.fraction.length)
      if ¬isSafeInteger shift then scaledUnsafe path decimals capacity coefficient shift
      else do
        let scaled ← shiftCoefficient path decimals capacity coefficient shift
        require (scaled.significant.length ≤ capacity) (exceedsCapacity path capacity)
        .ok (scaled.significant, found.negative && scaled.significant.stripZeros ≠ [])

end Scaling

section Codec
variable (host : Host) (path : String)

/-- The number of digits in a packed decimal. -/
def geometry (byteLength decimals : Nat) : Except String Nat := do
  require (1 ≤ byteLength ∧ byteLength ≤ 16) s!"{path} packed length must be an integer in 1..16"
  let digits := byteLength * 2 - 1
  let maximumDecimals := min 14 digits
  require (decimals ≤ maximumDecimals)
    s!"{path} decimals must be an integer in 0..{maximumDecimals}"
  .ok digits

/-- Two hexadecimal digits in a byte. -/
def joinNibbles : List (Fin 16) → Bytes
  | high :: low :: nibbles => UInt8.ofNat (high.val * 16 + low.val) :: joinNibbles nibbles
  | _ => []

def splitNibbles (bytes : Bytes) : List (Fin 16) :=
  bytes.flatMap fun byte => [Fin.ofNat 16 (byte.toNat / 16), Fin.ofNat 16 byte.toNat]

def digitNibble (digit : Digit) : Fin 16 := Fin.ofNat 16 digit.val

/-- `D` for negative numbers, and `C` -/
def signNibble (negative : Bool) : Fin 16 := if negative then 0xd else 0xc

def encodePackedDecimal (value : RfcValue) (byteLength decimals : Nat) : Except String Bytes := do
  let capacity ← geometry path byteLength decimals
  let text ← decimalText host value path
  require (text.length ≤ maxPackedDecimalTextLength)
    s!"{path} decimal text exceeds {maxPackedDecimalTextLength} characters"
  let scaled ← scaledDigits path decimals capacity text
  .ok (joinNibbles ((scaled.1.pad capacity).map digitNibble ++ [signNibble scaled.2]))

/-- `/^\d+$/u`, of hexadecimal digits -/
def decimalDigits? (nibbles : List (Fin 16)) : Option Digits :=
  nibbles.mapM fun nibble => if h : nibble.val < 10 then some ⟨nibble.val, h⟩ else none

/-- Is a sign negative? All bytes of an unused field may be zero. -/
def readSignNibble (nibbles : List (Fin 16)) : Except String Bool :=
  let sign := if nibbles.all (· == 0) then 0xc else nibbles.getLast?.getD 0
  if sign = 0xa ∨ sign = 0xc ∨ sign = 0xe ∨ sign = 0xf then .ok false
  else if sign = 0xb ∨ sign = 0xd then .ok true
  else .error s!"{path} contains invalid sign nibble {(Nat.digitChar sign.val).toUpper}"

/-- The text of digits with a decimal point in front of the last ones. -/
def packedText (negative : Bool) (digits : Digits) (decimals : Nat) : JsString :=
  let integer := Digits.significant (digits.take (digits.length - decimals))
  let nonzero := digits.stripZeros ≠ []
  signText (negative && nonzero) ++ text integer ++
    if decimals = 0 then [] else 0x2e :: text (digits.drop (digits.length - decimals))

def decodePackedDecimal (value : Bytes) (decimals : Nat) : Except String JsString := do
  let capacity ← geometry path value.length decimals
  let nibbles := splitNibbles value
  match decimalDigits? (nibbles.take capacity) with
  | none => .error s!"{path} contains a non-decimal digit nibble"
  | some digits => do
    let negative ← readSignNibble path nibbles
    .ok (packedText negative digits decimals)

end Codec

section Nibbles

theorem length_joinNibbles {nibbles : List (Fin 16)} {count : Nat}
    (h : nibbles.length = 2 * count) : (joinNibbles nibbles).length = count := by
  induction count generalizing nibbles with
  | zero =>
      obtain rfl := List.eq_nil_of_length_eq_zero h
      rfl
  | succ count ih =>
      match nibbles, h with
      | high :: low :: nibbles, h =>
        have hrest : nibbles.length = 2 * count := by
          simp only [List.length_cons] at h
          omega
        simp [joinNibbles, ih hrest]

theorem splitNibbles_joinNibbles {nibbles : List (Fin 16)} {count : Nat}
    (h : nibbles.length = 2 * count) : splitNibbles (joinNibbles nibbles) = nibbles := by
  induction count generalizing nibbles with
  | zero =>
      obtain rfl := List.eq_nil_of_length_eq_zero h
      rfl
  | succ count ih =>
      match nibbles, h with
      | high :: low :: nibbles, h =>
        have hrest : nibbles.length = 2 * count := by
          simp only [List.length_cons] at h
          omega
        have hbyte : (UInt8.ofNat (high.val * 16 + low.val)).toNat = high.val * 16 + low.val := by
          rw [UInt8.toNat_ofNat']
          omega
        have hhigh : Fin.ofNat 16 ((high.val * 16 + low.val) / 16) = high := by
          apply Fin.ext
          change (high.val * 16 + low.val) / 16 % 16 = high.val
          omega
        have hlow : Fin.ofNat 16 (high.val * 16 + low.val) = low := by
          apply Fin.ext
          change (high.val * 16 + low.val) % 16 = low.val
          omega
        rw [joinNibbles, splitNibbles, List.flatMap_cons, ← splitNibbles, ih hrest, hbyte, hhigh,
          hlow]
        rfl

theorem decimalDigits_map (digits : Digits) :
    decimalDigits? (digits.map digitNibble) = some digits := by
  have hnibble (digit : Digit) : (digitNibble digit).val = digit.val :=
    Nat.mod_eq_of_lt (by omega)
  induction digits with
  | nil => rfl
  | cons digit digits ih =>
      rw [decimalDigits?] at ih
      rw [decimalDigits?, List.map_cons, List.mapM_cons, ih, hnibble]
      simp

/-- The sign which has been written is not taken for the zeros of an unused field. -/
theorem readSignNibble_sign (path : String) (nibbles : List (Fin 16)) (negative : Bool) :
    readSignNibble path (nibbles ++ [signNibble negative]) = .ok negative := by
  have hall : (nibbles ++ [signNibble negative]).all (· == 0) = false := by
    cases negative <;> simp [signNibble]
  rw [readSignNibble, hall, List.getLast?_concat]
  cases negative <;> rfl

end Nibbles

section Value
variable {path : String} {decimals capacity : Nat} {coefficient digits : Digits}
  {text : JsString} {negative : Bool}

/-- The rounding of sums does not reach a shift within the width of a packed decimal. -/
theorem shift_exact {exponent shift : Int} {decimals fraction : Nat}
    (hexponent : isSafeInteger exponent) (hdecimals : decimals ≤ 14) (hfraction : fraction ≤ 4096)
    (h : addNumbers (addNumbers exponent decimals) (-fraction) = shift)
    (hshift : isSafeInteger shift) (hsmall : shift ≤ 31) :
    shift = exponent + decimals - fraction := by
  have hsafe : Double.maxSafeInteger = 2 ^ 53 - 1 := rfl
  rw [isSafeInteger] at hexponent hshift
  have hinner : addNumbers exponent decimals = exponent + decimals ∨
      2 ^ 53 ≤ addNumbers exponent decimals ∧ addNumbers exponent decimals ≤ 2 ^ 53 + 15 := by
    simp only [addNumbers]
    omega
  simp only [addNumbers] at h hinner
  omega

theorem number_eq_zero (h : coefficient.stripZeros = []) : coefficient.number = 0 := by
  rw [← Digits.number_stripZeros, h]
  rfl

theorem stripZeros_eq_nil_iff : coefficient.stripZeros = [] ↔ coefficient.number = 0 := by
  constructor
  · exact number_eq_zero
  · intro hzero
    by_contra hne
    have hle := (Digits.leading_of_stripZeros hne).le_number
    rw [Digits.number_stripZeros, hzero] at hle
    exact absurd hle (Nat.pow_pos (by decide)).not_ge

theorem shiftCoefficient_eq_ok {shift : Int}
    (h : shiftCoefficient path decimals capacity coefficient shift = .ok digits) :
    (digits.number : ℚ) = DecimalFloat.scaled coefficient shift ∧ (0 ≤ shift → shift ≤ capacity) := by
  rw [shiftCoefficient] at h
  split at h
  · rename_i hshift
    obtain ⟨_, hcapacity, h⟩ := bind_eq_ok.mp h
    rw [require_eq_ok] at hcapacity
    obtain rfl := Except.ok.inj h
    refine ⟨?_, fun _ => by omega⟩
    have hzeros := DecimalFloat.scaled_append_zeros coefficient 0 shift.toNat
    rw [DecimalFloat.scaled, zpow_zero, mul_one] at hzeros
    rw [hzeros]
    congr 1
    omega
  · rename_i hshift
    obtain ⟨_, hzeros, h⟩ := bind_eq_ok.mp h
    rw [require_eq_ok] at hzeros
    refine ⟨?_, fun hpos => absurd hpos hshift⟩
    have hdrop := number_eq_zero hzeros
    have hsplit := Digits.number_append (coefficient.take (coefficient.length - (-shift).toNat))
      (coefficient.drop (coefficient.length - (-shift).toNat))
    rw [List.take_append_drop, hdrop, List.length_drop] at hsplit
    have hten : (10 : ℚ) ≠ 0 := by norm_num
    rw [DecimalFloat.scaled, hsplit]
    split at h
    · rename_i hnil
      obtain rfl := Except.ok.inj h
      simp [hnil]
    · rename_i hne
      obtain rfl := Except.ok.inj h
      have hpos := List.length_pos_of_ne_nil hne
      rw [List.length_take] at hpos
      have hcount : coefficient.length - (coefficient.length - (-shift).toNat) = (-shift).toNat := by
        omega
      have hpower : (10 : ℚ) ^ (-shift).toNat * 10 ^ shift = 1 := by
        rw [← zpow_natCast, ← zpow_add₀ hten]
        have hsum : ((-shift).toNat : Int) + shift = 0 := by omega
        rw [hsum, zpow_zero]
      rw [hcount]
      push_cast
      rw [add_zero, mul_assoc, hpower, mul_one]

theorem length_readDigits (s : JsString) :
    (readDigits s).1.length + (readDigits s).2.length = s.length := by
  have h := congrArg List.length (text_readDigits s)
  rw [List.length_append, Numeral.text, List.length_map] at h
  exact h

theorem length_coefficient_le {found : DecimalFloat.FiniteMatch} (h : matchFinite text = some found) :
    (found.integer ++ found.fraction).length ≤ text.length := by
  have hsign : (readSign text).2.length ≤ text.length := by
    unfold readSign
    split <;> simp
  have hinteger := length_readDigits (readSign text).2
  have hfraction (s : JsString) : (DecimalFloat.readFraction s).1.length ≤ s.length := by
    unfold DecimalFloat.readFraction
    split
    · rename_i rest
      have hrest := length_readDigits rest
      rw [List.length_cons]
      omega
    · exact Nat.zero_le _
  have hle := hfraction (readDigits (readSign text).2).2
  simp only [matchFinite] at h
  split at h
  · cases h
  · obtain ⟨exponent, -, rfl⟩ := Option.map_eq_some_iff.mp h
    rw [List.length_append]
    dsimp only
    omega

theorem length_fraction_le {found : DecimalFloat.FiniteMatch} (h : matchFinite text = some found) :
    found.fraction.length ≤ text.length := by
  have hle := length_coefficient_le h
  rw [List.length_append] at hle
  omega

theorem scaledUnsafe_eq_ok {exponent : Int}
    (h : scaledUnsafe path decimals capacity coefficient exponent = .ok (digits, negative)) :
    coefficient.number = 0 ∧ digits = [0] ∧ negative = false := by
  rw [scaledUnsafe] at h
  split at h
  · rename_i hzero
    obtain ⟨rfl, rfl⟩ := Prod.mk.inj (Except.ok.inj h)
    exact ⟨number_eq_zero hzero, rfl, rfl⟩
  · split at h <;> exact absurd h nofun

/-- The scaled digits denote the decimal without its point. -/
theorem scaledDigits_eq_ok (hpos : 0 < capacity) (hcapacity : capacity ≤ 31) (hdecimals : decimals ≤ 14)
    (hlength : text.length ≤ maxPackedDecimalTextLength)
    (h : scaledDigits path decimals capacity text = .ok (digits, negative)) :
    ∃ found, matchFinite text = some found ∧ Digits.Normal digits ∧ digits.length ≤ capacity ∧
      negative = (found.negative && digits.number ≠ 0) ∧
      (digits.number : ℚ) = DecimalFloat.scaled (found.integer ++ found.fraction)
        (found.exponent - found.fraction.length) * 10 ^ decimals := by
  rw [scaledDigits] at h
  cases hmatch : matchFinite text with
  | none =>
      rw [hmatch] at h
      exact absurd h nofun
  | some found =>
      rw [hmatch] at h
      dsimp only at h
      refine ⟨found, rfl, ?_⟩
      have hzero {exponent : Int} (h : scaledUnsafe path decimals capacity
          (found.integer ++ found.fraction) exponent = .ok (digits, negative)) :
          Digits.Normal digits ∧ digits.length ≤ capacity ∧
            negative = (found.negative && digits.number ≠ 0) ∧
            (digits.number : ℚ) = DecimalFloat.scaled (found.integer ++ found.fraction)
              (found.exponent - found.fraction.length) * 10 ^ decimals := by
        obtain ⟨hnumber, rfl, rfl⟩ := scaledUnsafe_eq_ok h
        refine ⟨.inl rfl, hpos, by simp, ?_⟩
        simp [DecimalFloat.scaled, hnumber]
      split at h
      · exact hzero h
      rename_i hexponent
      rw [not_not] at hexponent
      split at h
      · exact hzero h
      rename_i hshift
      rw [not_not] at hshift
      obtain ⟨scaled, hscaled, h⟩ := bind_eq_ok.mp h
      obtain ⟨_, hfits, h⟩ := bind_eq_ok.mp h
      rw [require_eq_ok] at hfits
      obtain ⟨rfl, rfl⟩ := Prod.mk.inj (Except.ok.inj h)
      obtain ⟨hnumber, hsmall⟩ := shiftCoefficient_eq_ok hscaled
      have hexact := shift_exact hexponent hdecimals ((length_fraction_le hmatch).trans hlength) rfl
        hshift (by omega)
      refine ⟨Digits.normal_significant _, hfits, by simp [stripZeros_eq_nil_iff], ?_⟩
      have hten : (10 : ℚ) ≠ 0 := by norm_num
      rw [Digits.number_significant, hnumber, hexact, DecimalFloat.scaled, DecimalFloat.scaled,
        mul_assoc, ← zpow_natCast, ← zpow_add₀ hten]
      congr 2
      omega

end Value

section RoundTrip
variable {host : Host} {path : String} {value : RfcValue} {byteLength decimals capacity : Nat}

theorem geometry_eq_ok (h : geometry path byteLength decimals = .ok capacity) :
    1 ≤ byteLength ∧ byteLength ≤ 16 ∧ capacity + 1 = 2 * byteLength ∧ decimals ≤ 14 ∧
      decimals ≤ capacity := by
  simp only [geometry, bind_eq_ok, require_eq_ok, exists_const, Except.ok.injEq] at h
  omega

/-- What has been packed is read as the text of the scaled digits. -/
theorem decode_encodePackedDecimal {bytes : Bytes}
    (h : encodePackedDecimal host path value byteLength decimals = .ok bytes) :
    ∃ capacity text scaled, geometry path byteLength decimals = .ok capacity ∧
      decimalText host value path = .ok text ∧ text.length ≤ maxPackedDecimalTextLength ∧
      scaledDigits path decimals capacity text = .ok scaled ∧
      bytes.length = byteLength ∧
      decodePackedDecimal path bytes decimals =
        .ok (packedText scaled.2 (scaled.1.pad capacity) decimals) := by
  obtain ⟨capacity, hgeometry, h⟩ := bind_eq_ok.mp h
  obtain ⟨text, htext, h⟩ := bind_eq_ok.mp h
  obtain ⟨_, hlength, h⟩ := bind_eq_ok.mp h
  rw [require_eq_ok] at hlength
  obtain ⟨scaled, hscaled, h⟩ := bind_eq_ok.mp h
  obtain rfl := Except.ok.inj h
  refine ⟨capacity, text, scaled, hgeometry, htext, hlength, hscaled, ?_⟩
  obtain ⟨hmin, hmax, hcapacity, hdecimals, -⟩ := geometry_eq_ok hgeometry
  obtain ⟨_, -, -, hfits, -⟩ := scaledDigits_eq_ok (by omega) (by omega) hdecimals hlength hscaled
  have hpad := Digits.length_pad scaled.1 hfits
  have hnibbles : ((scaled.1.pad capacity).map digitNibble ++ [signNibble scaled.2]).length =
      2 * byteLength := by
    rw [List.length_append, List.length_map, hpad, List.length_singleton, hcapacity]
  have hbytes := length_joinNibbles hnibbles
  refine ⟨hbytes, ?_⟩
  rw [decodePackedDecimal, hbytes, hgeometry, ok_bind, splitNibbles_joinNibbles hnibbles]
  have htake : ((scaled.1.pad capacity).map digitNibble ++ [signNibble scaled.2]).take capacity =
      (scaled.1.pad capacity).map digitNibble := by
    apply List.take_left'
    rw [List.length_map, hpad]
  dsimp only
  rw [htake, decimalDigits_map]
  dsimp only
  rw [readSignNibble_sign, ok_bind]

section Canonical
variable {digits : Digits} (negative : Bool)

theorem matchFinite_packedText :
    matchFinite (packedText negative digits decimals) =
      some ⟨negative && digits.stripZeros ≠ [],
        Digits.significant (digits.take (digits.length - decimals)),
        digits.drop (digits.length - decimals), 0⟩ := by
  have hne := (Digits.normal_significant (digits.take (digits.length - decimals))).ne_nil
  rw [packedText]
  split
  · rename_i hzero
    have hplain := DecimalFloat.matchFinite_plain (negative && digits.stripZeros ≠ []) hne
      DecimalFloat.noDigit_nil nofun
    rw [List.append_assoc, hplain, hzero, Nat.sub_zero, List.drop_length]
    rfl
  · have hpoint := DecimalFloat.matchFinite_point (negative && digits.stripZeros ≠ [])
      (digits.drop (digits.length - decimals)) hne DecimalFloat.noDigit_nil
    rw [List.append_nil] at hpoint
    rw [List.append_assoc, hpoint]
    rfl

/-- Leading zeros make no difference in front of other digits. -/
theorem stripZeros_significant_append (xs ys : Digits) :
    Digits.stripZeros (xs.significant ++ ys) = Digits.stripZeros (xs ++ ys) := by
  obtain ⟨count, hcount⟩ := Digits.zeros_append_stripZeros xs
  have hxs : Digits.stripZeros (xs ++ ys) = Digits.stripZeros (xs.stripZeros ++ ys) := by
    conv_lhs => rw [← hcount]
    rw [List.append_assoc, Digits.stripZeros_zeros_append]
  rw [hxs, Digits.significant]
  split
  · rename_i hnil
    rw [hnil]
    exact Digits.stripZeros_zeros_append ys 1
  · rfl

/-- The text of packed digits has the same scaled digits. -/
theorem scaledDigits_packedText (path : String) (hlength : digits.length = capacity)
    (hpos : 0 < capacity) (hsmall : capacity ≤ 31) (hdecimals : decimals ≤ capacity) :
    scaledDigits path decimals capacity (packedText negative digits decimals) =
      .ok (digits.significant, negative && digits.stripZeros ≠ []) := by
  have hcoefficient : Digits.stripZeros (Digits.significant
      (digits.take (digits.length - decimals)) ++ digits.drop (digits.length - decimals)) =
      digits.stripZeros := by
    rw [stripZeros_significant_append, List.take_append_drop]
  have hdrop : (digits.drop (digits.length - decimals)).length = decimals := by
    rw [List.length_drop]
    omega
  have hshift : addNumbers (addNumbers 0 decimals)
      (-((digits.drop (digits.length - decimals)).length : Int)) = 0 := by
    rw [hdrop]
    simp only [addNumbers]
    omega
  have hle := Digits.length_stripZeros_le digits
  have hsignificant : Digits.significant (Digits.significant
      (digits.take (digits.length - decimals)) ++ digits.drop (digits.length - decimals)) =
      digits.significant := by
    rw [Digits.significant, hcoefficient, Digits.significant]
  have hfits := Digits.length_significant_le hpos hlength.le
  have hstrip : digits.significant.stripZeros = [] ↔ digits.stripZeros = [] := by
    rw [stripZeros_eq_nil_iff, stripZeros_eq_nil_iff, Digits.number_significant]
  rw [scaledDigits, matchFinite_packedText negative]
  dsimp only
  rw [if_neg (by decide), hshift, if_neg (by decide), shiftCoefficient, if_pos le_rfl, hcoefficient,
    require_of (by omega), ok_bind, Int.toNat_zero, List.replicate_zero, List.append_nil, ok_bind,
    hsignificant, require_of hfits, ok_bind]
  simp [hstrip]

theorem length_packedText_le (hdecimals : decimals ≤ digits.length) :
    (packedText negative digits decimals).length ≤ digits.length + 3 := by
  have htake : (digits.take (digits.length - decimals)).length ≤ digits.length - decimals + 1 := by
    rw [List.length_take]
    omega
  have hinteger := Digits.length_significant_le (Nat.succ_pos (digits.length - decimals)) htake
  have hsign := DecimalFloat.length_signText_le (negative && digits.stripZeros ≠ [])
  rw [packedText, List.length_append, List.length_append, text, List.length_map]
  split
  · rw [List.length_nil]
    omega
  · rw [List.length_cons, text, List.length_map, List.length_drop]
    omega

theorem packedText_ne_nil : packedText negative digits decimals ≠ [] := by
  have hne := (Digits.normal_significant (digits.take (digits.length - decimals))).ne_nil
  intro hnil
  rw [packedText, List.append_eq_nil_iff, List.append_eq_nil_iff, text, List.map_eq_nil_iff] at hnil
  exact hne hnil.1.2

/-- The text of packed digits is packed and read as before. -/
theorem encode_packedText (host : Host) (path : String)
    (hgeometry : geometry path byteLength decimals = .ok capacity) (hlength : digits.length = capacity) :
    ∃ bytes, encodePackedDecimal host path (.text (packedText negative digits decimals)) byteLength
        decimals = .ok bytes ∧
      decodePackedDecimal path bytes decimals = .ok (packedText negative digits decimals) := by
  obtain ⟨hmin, hmax, hcapacity, hdecimals, hfraction⟩ := geometry_eq_ok hgeometry
  have hshort := length_packedText_le negative (hfraction.trans_eq hlength.symm)
  have htext : decimalText host (.text (packedText negative digits decimals)) path =
      .ok (packedText negative digits decimals) := by
    rw [decimalText, nonEmptyText, if_neg (packedText_ne_nil negative)]
  have hscaled := scaledDigits_packedText negative path hlength (by omega) (by omega) hfraction
  have hencode : ∃ bytes, encodePackedDecimal host path (.text (packedText negative digits decimals))
      byteLength decimals = .ok bytes := by
    rw [encodePackedDecimal, hgeometry, ok_bind, htext, ok_bind,
      require_of (by rw [maxPackedDecimalTextLength]; omega), ok_bind, hscaled, ok_bind]
    exact ⟨_, rfl⟩
  obtain ⟨bytes, hencode⟩ := hencode
  refine ⟨bytes, hencode, ?_⟩
  obtain ⟨_, _, _, hgeometry', htext', -, hscaled', -, hdecode⟩ := decode_encodePackedDecimal hencode
  rw [hgeometry] at hgeometry'
  obtain rfl := Except.ok.inj hgeometry'
  rw [htext] at htext'
  obtain rfl := Except.ok.inj htext'
  rw [hscaled] at hscaled'
  obtain rfl := Except.ok.inj hscaled'
  have hpad : digits.pad capacity = digits := by
    rw [Digits.pad, hlength, Nat.sub_self]
    rfl
  rw [hdecode, Digits.pad_significant (by omega) hlength.le, packedText, packedText, hpad]
  simp

/-- What is read can be packed again, and is read as before. -/
theorem encodePackedDecimal_again {bytes : Bytes}
    (h : encodePackedDecimal host path value byteLength decimals = .ok bytes) :
    ∃ s bytes', decodePackedDecimal path bytes decimals = .ok s ∧
      encodePackedDecimal host path (.text s) byteLength decimals = .ok bytes' ∧
      decodePackedDecimal path bytes' decimals = .ok s := by
  obtain ⟨capacity, text, scaled, hgeometry, -, htextLength, hscaled, -, hdecode⟩ :=
    decode_encodePackedDecimal h
  obtain ⟨hmin, hmax, hcapacity, hdecimals, -⟩ := geometry_eq_ok hgeometry
  obtain ⟨_, -, -, hfits, -⟩ := scaledDigits_eq_ok (by omega) (by omega) hdecimals htextLength hscaled
  obtain ⟨bytes', hencode, hagain⟩ :=
    encode_packedText scaled.2 host path hgeometry (Digits.length_pad scaled.1 hfits)
  exact ⟨_, bytes', hdecode, hencode, hagain⟩

end Canonical
end RoundTrip
end OpenRfc.Values
