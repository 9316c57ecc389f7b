import OpenRfc.Foundation.JsString

/-!
Base64 with padding. Three bytes are four sextets, and the last group may lack one or two bytes.
-/

namespace OpenRfc.Base64

abbrev Sextet := Fin 64

def unitOf (sextet : Sextet) : UInt16 :=
  UInt16.ofNat <|
    if sextet.val < 26 then 0x41 + sextet.val
    else if sextet.val < 52 then 0x61 + (sextet.val - 26)
    else if sextet.val < 62 then 0x30 + (sextet.val - 52)
    else if sextet.val = 62 then 0x2b
    else 0x2f

/-- `[A-Za-z0-9+/]`, and the sextet which the code unit stands for -/
def sextet? (unit : UInt16) : Option Sextet :=
  if 0x41 ≤ unit ∧ unit ≤ 0x5a then some (Fin.ofNat 64 (unit.toNat - 0x41))
  else if 0x61 ≤ unit ∧ unit ≤ 0x7a then some (Fin.ofNat 64 (unit.toNat - 0x61 + 26))
  else if 0x30 ≤ unit ∧ unit ≤ 0x39 then some (Fin.ofNat 64 (unit.toNat - 0x30 + 52))
  else if unit = 0x2b then some 62
  else if unit = 0x2f then some 63
  else none

/-- The sign of a missing sextet: `=` -/
def padding : UInt16 := 0x3d

section Groups
variable (a b c : UInt8)

/-- The sextets of three bytes. -/
def first : Sextet := Fin.ofNat 64 (a.toNat / 4)
def second : Sextet := Fin.ofNat 64 (a.toNat % 4 * 16 + b.toNat / 16)
def third : Sextet := Fin.ofNat 64 (b.toNat % 16 * 4 + c.toNat / 64)
def fourth : Sextet := Fin.ofNat 64 (c.toNat % 64)

/-- A byte of two sextets which follow each other. -/
def firstByte (s t : Sextet) : UInt8 := UInt8.ofNat (s.val * 4 + t.val / 16)
def secondByte (s t : Sextet) : UInt8 := UInt8.ofNat (s.val % 16 * 16 + t.val / 4)
def thirdByte (s t : Sextet) : UInt8 := UInt8.ofNat (s.val % 4 * 64 + t.val)

end Groups

/-- `bytes.toString("base64")` -/
def encode : Bytes → JsString
  | [] => []
  | [a] => [unitOf (first a), unitOf (second a 0), padding, padding]
  | [a, b] => [unitOf (first a), unitOf (second a b), unitOf (third b 0), padding]
  | a :: b :: c :: bytes =>
    unitOf (first a) :: unitOf (second a b) :: unitOf (third b c) :: unitOf (fourth c) :: encode bytes

/-- `/^(?:[A-Za-z0-9+/]{4})*(?:[A-Za-z0-9+/]{2}==|[A-Za-z0-9+/]{3}=)?$/u` -/
def isPadded : JsString → Bool
  | [] => true
  | [a, b, c, d] =>
    (sextet? a).isSome && (sextet? b).isSome &&
      ((sextet? c).isSome && ((sextet? d).isSome || d = padding) || c = padding && d = padding)
  | a :: b :: c :: d :: s =>
    (sextet? a).isSome && (sextet? b).isSome && (sextet? c).isSome && (sextet? d).isSome && isPadded s
  | _ => false

/-- `Buffer.from(s, "base64")`, of padded text. The bits which the last sextet has too many are left
out. -/
def decode : JsString → Bytes
  | a :: b :: c :: d :: s =>
    match sextet? a, sextet? b, sextet? c, sextet? d with
    | some a, some b, some c, some d => firstByte a b :: secondByte b c :: thirdByte c d :: decode s
    | some a, some b, some c, none => [firstByte a b, secondByte b c]
    | some a, some b, none, _ => [firstByte a b]
    | _, _, _, _ => []
  | _ => []

/-- `s.endsWith("==") ? 2 : s.endsWith("=") ? 1 : 0` -/
def paddingCount (s : JsString) : Nat :=
  match s.reverse with
  | x :: y :: _ => if x = padding then if y = padding then 2 else 1 else 0
  | [x] => if x = padding then 1 else 0
  | [] => 0

/-- The number of bytes of padded text. -/
def decodedLength (s : JsString) : Nat := s.length / 4 * 3 - paddingCount s

section RoundTrip

@[simp] theorem sextet?_unitOf : ∀ sextet : Sextet, sextet? (unitOf sextet) = some sextet := by decide

@[simp] theorem sextet?_padding : sextet? padding = none := by decide

theorem unitOf_ne_padding : ∀ sextet : Sextet, unitOf sextet ≠ padding := by decide

@[simp] theorem firstByte_first (a b : UInt8) : firstByte (first a) (second a b) = a := by
  apply UInt8.toNat_inj.mp
  have ha := a.toNat_lt
  have hb := b.toNat_lt
  simp only [firstByte, first, second, Fin.ofNat, UInt8.toNat_ofNat']
  omega

@[simp] theorem secondByte_second (a b c : UInt8) : secondByte (second a b) (third b c) = b := by
  apply UInt8.toNat_inj.mp
  have hb := b.toNat_lt
  have hc := c.toNat_lt
  simp only [secondByte, second, third, Fin.ofNat, UInt8.toNat_ofNat']
  omega

@[simp] theorem thirdByte_third (b c : UInt8) : thirdByte (third b c) (fourth c) = c := by
  apply UInt8.toNat_inj.mp
  have hc := c.toNat_lt
  simp only [thirdByte, third, fourth, Fin.ofNat, UInt8.toNat_ofNat']
  omega

theorem decode_of_encode (bytes : Bytes) : decode (encode bytes) = bytes := by
  fun_induction encode bytes with
  | case1 => rfl
  | case2 a => simp [decode]
  | case3 a b => simp [decode]
  | case4 a b c bytes ih => simp [decode, ih]

theorem isPadded_cons {a b c d : UInt16} (s : JsString) (ha : (sextet? a).isSome = true)
    (hb : (sextet? b).isSome = true) (hc : (sextet? c).isSome = true) (hd : (sextet? d).isSome = true) :
    isPadded (a :: b :: c :: d :: s) = isPadded s := by
  cases s with
  | nil => simp [isPadded, ha, hb, hc, hd]
  | cons e s => simp [isPadded, ha, hb, hc, hd]

theorem isPadded_encode (bytes : Bytes) : isPadded (encode bytes) = true := by
  fun_induction encode bytes with
  | case1 => rfl
  | case2 a => simp [isPadded]
  | case3 a b => simp [isPadded]
  | case4 a b c bytes ih => rw [isPadded_cons _ (by simp) (by simp) (by simp) (by simp), ih]

theorem length_encode (bytes : Bytes) : (encode bytes).length = (bytes.length + 2) / 3 * 4 := by
  fun_induction encode bytes with
  | case1 => rfl
  | case2 a => simp
  | case3 a b => simp
  | case4 a b c bytes ih =>
      simp only [List.length_cons, ih]
      omega

/-- The characters of the alphabet, and the padding. -/
theorem mem_encode {bytes : Bytes} {unit : UInt16} (h : unit ∈ encode bytes) :
    unit = padding ∨ ∃ sextet, unit = unitOf sextet := by
  fun_induction encode bytes with
  | case1 => exact absurd h List.not_mem_nil
  | case2 a => grind
  | case3 a b => grind
  | case4 a b c bytes ih => grind

/-- Only the end of a string counts. -/
theorem paddingCount_append (s : JsString) {t : JsString} (h : 2 ≤ t.length) :
    paddingCount (s ++ t) = paddingCount t := by
  obtain ⟨x, y, rest, hreverse⟩ : ∃ x y rest, t.reverse = x :: y :: rest := by
    match ht : t.reverse with
    | [] => simp_all
    | [_] =>
        have hlength := congrArg List.length ht
        simp only [List.length_reverse, List.length_singleton] at hlength
        omega
    | x :: y :: rest => exact ⟨x, y, rest, rfl⟩
  simp only [paddingCount, List.reverse_append, hreverse, List.cons_append]

theorem paddingCount_encode_cons (a b c : UInt8) (bytes : Bytes) :
    paddingCount (encode (a :: b :: c :: bytes)) = paddingCount (encode bytes) := by
  cases bytes with
  | nil => simp [paddingCount, encode, unitOf_ne_padding]
  | cons d bytes =>
      have hlength := length_encode (d :: bytes)
      rw [List.length_cons] at hlength
      exact paddingCount_append [_, _, _, _] (by omega)

theorem paddingCount_encode (bytes : Bytes) :
    paddingCount (encode bytes) + bytes.length = (bytes.length + 2) / 3 * 3 := by
  induction bytes using encode.induct with
  | case1 => rfl
  | case2 a => simp [paddingCount, encode]
  | case3 a b => simp [paddingCount, encode, unitOf_ne_padding]
  | case4 a b c bytes ih =>
      rw [paddingCount_encode_cons]
      simp only [List.length_cons]
      omega

theorem decodedLength_encode (bytes : Bytes) : decodedLength (encode bytes) = bytes.length := by
  have hpadding := paddingCount_encode bytes
  rw [decodedLength, length_encode]
  omega

end RoundTrip

section Padded

theorem unitOf_of_sextet {unit : UInt16} {sextet : Sextet} (h : sextet? unit = some sextet) :
    unitOf sextet = unit := by
  apply UInt16.toNat_inj.mp
  simp only [sextet?, UInt16.le_iff_toNat_le, UInt16.reduceToNat] at h
  split at h
  · obtain rfl := Option.some.inj h
    simp only [unitOf, Fin.ofNat, UInt16.toNat_ofNat']
    split <;> omega
  · split at h
    · obtain rfl := Option.some.inj h
      simp only [unitOf, Fin.ofNat, UInt16.toNat_ofNat']
      split <;> [omega; split <;> omega]
    · split at h
      · obtain rfl := Option.some.inj h
        simp only [unitOf, Fin.ofNat, UInt16.toNat_ofNat']
        split <;> [omega; (split <;> [omega; (split <;> omega)])]
      · split at h
        · rename_i hunit
          subst hunit
          obtain rfl := Option.some.inj h
          rfl
        · split at h
          · rename_i hunit
            subst hunit
            obtain rfl := Option.some.inj h
            rfl
          · cases h

theorem unitOf_inj {s t : Sextet} : unitOf s = unitOf t ↔ s = t := by
  refine ⟨fun h => ?_, congrArg unitOf⟩
  have hsextets := congrArg sextet? h
  rwa [sextet?_unitOf, sextet?_unitOf, Option.some.injEq] at hsextets

section Groups
variable (x y z w : Sextet)

@[simp] theorem first_firstByte : first (firstByte x y) = x := by
  apply Fin.ext
  simp only [first, firstByte, Fin.ofNat, UInt8.toNat_ofNat']
  omega

@[simp] theorem second_firstByte : second (firstByte x y) (secondByte y z) = y := by
  apply Fin.ext
  simp only [second, firstByte, secondByte, Fin.ofNat, UInt8.toNat_ofNat']
  omega

@[simp] theorem third_secondByte : third (secondByte y z) (thirdByte z w) = z := by
  apply Fin.ext
  simp only [third, secondByte, thirdByte, Fin.ofNat, UInt8.toNat_ofNat']
  omega

@[simp] theorem fourth_thirdByte : fourth (thirdByte z w) = w := by
  apply Fin.ext
  simp only [fourth, thirdByte, Fin.ofNat, UInt8.toNat_ofNat']
  omega

/-- A byte takes the upper two bits of the second sextet. -/
theorem second_firstByte_zero : second (firstByte x y) 0 = y ↔ y.val % 16 = 0 := by
  rw [Fin.ext_iff]
  simp only [second, firstByte, Fin.ofNat, UInt8.toNat_ofNat', UInt8.toNat_zero]
  omega

/-- A byte takes the upper four bits of the third sextet. -/
theorem third_secondByte_zero : third (secondByte y z) 0 = z ↔ z.val % 4 = 0 := by
  rw [Fin.ext_iff]
  simp only [third, secondByte, Fin.ofNat, UInt8.toNat_ofNat', UInt8.toNat_zero]
  omega

end Groups

/-- Padded text: groups of four sextets, of which the last group may lack two or one. -/
inductive Padded : JsString → Prop
  | nil : Padded []
  | group (x y z w : Sextet) {s : JsString} (rest : Padded s) :
      Padded (unitOf x :: unitOf y :: unitOf z :: unitOf w :: s)
  | three (x y z : Sextet) : Padded [unitOf x, unitOf y, unitOf z, padding]
  | two (x y : Sextet) : Padded [unitOf x, unitOf y, padding, padding]

theorem exists_unitOf {unit : UInt16} (h : (sextet? unit).isSome = true) :
    ∃ sextet, unit = unitOf sextet := by
  obtain ⟨sextet, hsextet⟩ := Option.isSome_iff_exists.mp h
  exact ⟨sextet, (unitOf_of_sextet hsextet).symm⟩

theorem padded_of_isPadded {s : JsString} (h : isPadded s = true) : Padded s := by
  fun_induction isPadded s with
  | case1 => exact .nil
  | case2 a b c d =>
      simp only [Bool.and_eq_true, Bool.or_eq_true, decide_eq_true_eq] at h
      obtain ⟨⟨ha, hb⟩, ⟨hc, hd⟩ | ⟨rfl, rfl⟩⟩ := h
      · obtain ⟨x, rfl⟩ := exists_unitOf ha
        obtain ⟨y, rfl⟩ := exists_unitOf hb
        obtain ⟨z, rfl⟩ := exists_unitOf hc
        obtain hd | rfl := hd
        · obtain ⟨w, rfl⟩ := exists_unitOf hd
          exact .group x y z w .nil
        · exact .three x y z
      · obtain ⟨x, rfl⟩ := exists_unitOf ha
        obtain ⟨y, rfl⟩ := exists_unitOf hb
        exact .two x y
  | case3 a b c d s hs ih =>
      simp only [Bool.and_eq_true] at h
      obtain ⟨⟨⟨⟨ha, hb⟩, hc⟩, hd⟩, hrest⟩ := h
      obtain ⟨x, rfl⟩ := exists_unitOf ha
      obtain ⟨y, rfl⟩ := exists_unitOf hb
      obtain ⟨z, rfl⟩ := exists_unitOf hc
      obtain ⟨w, rfl⟩ := exists_unitOf hd
      exact .group x y z w (ih hrest)
  | case4 => exact nomatch h

theorem Padded.length {s : JsString} (h : Padded s) : s = [] ∨ 4 ≤ s.length := by
  cases h with
  | nil => exact .inl rfl
  | group => exact .inr (by simp)
  | three | two => exact .inr (Nat.le_refl 4)

end Padded
end OpenRfc.Base64
