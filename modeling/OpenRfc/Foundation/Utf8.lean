import OpenRfc.Foundation.JsString

/-!
UTF-8. Well-formed strings are the ones which consist of characters, and have bytes of their own.
-/

namespace OpenRfc.JsString

/-- `Buffer.from(s, "utf8")`, of a well-formed string -/
def utf8 (s : JsString) : Bytes := s.chars.flatMap String.utf8EncodeChar

section Characters

theorem char_range (c : Char) : c.toNat < 0xd800 ∨ 0xdfff < c.toNat ∧ c.toNat < 0x110000 := c.valid

theorem toNat_ofNat {n : Nat} (h : n.isValidChar) : (Char.ofNat n).toNat = n := by
  rw [Char.ofNat, dif_pos h]
  rfl

/-- A code unit which is no half of a pair is a character. -/
theorem chars_cons {unit : UInt16} (h : isHighSurrogate unit = false) (s : JsString) :
    chars (unit :: s) = Char.ofNat unit.toNat :: chars s := by
  cases s with
  | nil => rfl
  | cons low s => simp [chars, h]

theorem chars_pair {high low : UInt16} (hhigh : isHighSurrogate high = true)
    (hlow : isLowSurrogate low = true) (s : JsString) :
    chars (high :: low :: s) =
      Char.ofNat (0x10000 + (high.toNat - 0xd800) * 0x400 + (low.toNat - 0xdc00)) :: chars s := by
  simp [chars, hhigh, hlow]

theorem isHighSurrogate_iff {unit : UInt16} :
    isHighSurrogate unit = true ↔ 0xd800 ≤ unit.toNat ∧ unit.toNat ≤ 0xdbff := by
  simp [isHighSurrogate, UInt16.le_iff_toNat_le]

theorem isLowSurrogate_iff {unit : UInt16} :
    isLowSurrogate unit = true ↔ 0xdc00 ≤ unit.toNat ∧ unit.toNat ≤ 0xdfff := by
  simp [isLowSurrogate, UInt16.le_iff_toNat_le]

theorem chars_ofChar_append (c : Char) (s : JsString) : chars (ofChar c ++ s) = c :: chars s := by
  have hrange := char_range c
  rw [ofChar]
  split
  · rename_i hplane
    have hunit : (UInt16.ofNat c.toNat).toNat = c.toNat := UInt16.toNat_ofNat_of_lt' hplane
    have hhigh : isHighSurrogate (UInt16.ofNat c.toNat) = false := by
      rw [Bool.eq_false_iff, ne_eq, isHighSurrogate_iff, hunit]
      omega
    rw [List.singleton_append, chars_cons hhigh, hunit, Char.ofNat_toNat]
  · rename_i hplane
    have hhigh : (UInt16.ofNat (0xd800 + (c.toNat - 0x10000) / 0x400)).toNat =
        0xd800 + (c.toNat - 0x10000) / 0x400 :=
      UInt16.toNat_ofNat_of_lt' (by show _ < 65536; omega)
    have hlow : (UInt16.ofNat (0xdc00 + (c.toNat - 0x10000) % 0x400)).toNat =
        0xdc00 + (c.toNat - 0x10000) % 0x400 :=
      UInt16.toNat_ofNat_of_lt' (by show _ < 65536; omega)
    rw [List.cons_append, List.singleton_append, chars_pair, hhigh, hlow]
    · have hnumber : 0x10000 + (0xd800 + (c.toNat - 0x10000) / 0x400 - 0xd800) * 0x400 +
          (0xdc00 + (c.toNat - 0x10000) % 0x400 - 0xdc00) = c.toNat := by omega
      rw [hnumber, Char.ofNat_toNat]
    · rw [isHighSurrogate_iff, hhigh]
      omega
    · rw [isLowSurrogate_iff, hlow]
      omega

theorem chars_ofChars_append (cs : List Char) (s : JsString) :
    chars (ofChars cs ++ s) = cs ++ chars s := by
  induction cs with
  | nil => rfl
  | cons c cs ih =>
      rw [ofChars, List.flatMap_cons, List.append_assoc, chars_ofChar_append, ← ofChars, ih,
        List.cons_append]

@[simp] theorem chars_ofChars (cs : List Char) : chars (ofChars cs) = cs := by
  have h := chars_ofChars_append cs []
  rwa [List.append_nil, chars, List.append_nil] at h

theorem ofChars_append (cs cs' : List Char) : ofChars (cs ++ cs') = ofChars cs ++ ofChars cs' :=
  List.flatMap_append

theorem ofChars_cons (c : Char) (cs : List Char) : ofChars (c :: cs) = ofChar c ++ ofChars cs :=
  List.flatMap_cons

/-- A code unit in front of the surrogates is a character of its own. -/
theorem mem_ofChars {unit : UInt16} {cs : List Char} (hmem : unit ∈ ofChars cs)
    (hunit : unit.toNat < 0xd800) : ∃ c ∈ cs, c.toNat = unit.toNat := by
  obtain ⟨c, hc, hmem⟩ := List.mem_flatMap.mp hmem
  refine ⟨c, hc, ?_⟩
  have hrange := char_range c
  rw [ofChar] at hmem
  split at hmem
  · rename_i hplane
    rw [List.mem_singleton.mp hmem, UInt16.toNat_ofNat_of_lt' hplane]
  · simp only [List.mem_cons, List.not_mem_nil, or_false] at hmem
    obtain rfl | rfl := hmem
    · rw [UInt16.toNat_ofNat_of_lt' (by show _ < 65536; omega)] at hunit
      omega
    · rw [UInt16.toNat_ofNat_of_lt' (by show _ < 65536; omega)] at hunit
      omega

theorem ofChar_ne_nil (c : Char) : ofChar c ≠ [] := by
  rw [ofChar]
  split
  · exact List.cons_ne_nil _ _
  · exact List.cons_ne_nil _ _

end Characters

section WellFormed

theorem isWellFormed_cons {unit : UInt16} (h : isHighSurrogate unit = false) (units : JsString) :
    isWellFormed (unit :: units) = (!isLowSurrogate unit && isWellFormed units) := by
  rw [isWellFormed.eq_def]
  simp [h]

/-- The code units in front of the surrogates. -/
theorem isWellFormed_of_lt {s : JsString} (h : ∀ unit ∈ s, unit < 0xd800) : s.isWellFormed = true := by
  induction s with
  | nil => rfl
  | cons unit units ih =>
      obtain ⟨hunit, hunits⟩ := List.forall_mem_cons.mp h
      have hunit : unit.toNat < 0xd800 := UInt16.lt_iff_toNat_lt.mp hunit
      have hhigh : isHighSurrogate unit = false := by
        rw [Bool.eq_false_iff, ne_eq, isHighSurrogate_iff]
        omega
      have hlow : isLowSurrogate unit = false := by
        rw [Bool.eq_false_iff, ne_eq, isLowSurrogate_iff]
        omega
      rw [isWellFormed_cons hhigh, hlow, ih hunits]
      rfl

theorem isWellFormed_ofChar_append (c : Char) (s : JsString) :
    isWellFormed (ofChar c ++ s) = isWellFormed s := by
  have hrange := char_range c
  rw [ofChar]
  split
  · rename_i hplane
    have hunit : (UInt16.ofNat c.toNat).toNat = c.toNat := UInt16.toNat_ofNat_of_lt' hplane
    have hhigh : isHighSurrogate (UInt16.ofNat c.toNat) = false := by
      rw [Bool.eq_false_iff, ne_eq, isHighSurrogate_iff, hunit]
      omega
    have hlow : isLowSurrogate (UInt16.ofNat c.toNat) = false := by
      rw [Bool.eq_false_iff, ne_eq, isLowSurrogate_iff, hunit]
      omega
    rw [List.singleton_append, isWellFormed_cons hhigh, hlow]
    rfl
  · rename_i hplane
    have hhigh : isHighSurrogate (UInt16.ofNat (0xd800 + (c.toNat - 0x10000) / 0x400)) = true := by
      rw [isHighSurrogate_iff, UInt16.toNat_ofNat_of_lt' (by show _ < 65536; omega)]
      omega
    have hlow : isLowSurrogate (UInt16.ofNat (0xdc00 + (c.toNat - 0x10000) % 0x400)) = true := by
      rw [isLowSurrogate_iff, UInt16.toNat_ofNat_of_lt' (by show _ < 65536; omega)]
      omega
    rw [List.cons_append, List.singleton_append, isWellFormed.eq_def]
    dsimp only
    rw [if_pos hhigh, hlow, Bool.true_and]

theorem isWellFormed_ofChars_append (cs : List Char) (s : JsString) :
    isWellFormed (ofChars cs ++ s) = isWellFormed s := by
  induction cs with
  | nil => rfl
  | cons c cs ih => rw [ofChars_cons, List.append_assoc, isWellFormed_ofChar_append, ih]

@[simp] theorem isWellFormed_ofChars (cs : List Char) : isWellFormed (ofChars cs) = true := by
  have h := isWellFormed_ofChars_append cs []
  rwa [List.append_nil] at h

/-- A well-formed string is put together from its characters. -/
theorem ofChars_chars {s : JsString} (h : s.isWellFormed = true) : ofChars s.chars = s := by
  fun_induction isWellFormed s with
  | case1 => rfl
  | case2 => exact absurd h nofun
  | case3 high hhigh low units ih =>
      rw [Bool.and_eq_true] at h
      have hhighRange := isHighSurrogate_iff.mp hhigh
      have hlowRange := isLowSurrogate_iff.mp h.1
      rw [chars_pair hhigh h.1, ofChars_cons, ih h.2, ofChar]
      generalize hn : 0x10000 + (high.toNat - 0xd800) * 0x400 + (low.toNat - 0xdc00) = n
      have hvalid : (Char.ofNat n).toNat = n :=
        toNat_ofNat (.inr ⟨by omega, by omega⟩)
      have hfirst : 0xd800 + (n - 0x10000) / 0x400 = high.toNat := by omega
      have hsecond : 0xdc00 + (n - 0x10000) % 0x400 = low.toNat := by omega
      rw [hvalid, if_neg (by omega), hfirst, hsecond, UInt16.ofNat_toNat, UInt16.ofNat_toNat]
      rfl
  | case4 unit units hhigh ih =>
      rw [Bool.and_eq_true, Bool.not_eq_true'] at h
      have hhighRange := mt isHighSurrogate_iff.mpr hhigh
      have hlowRange := mt isLowSurrogate_iff.mpr (Bool.eq_false_iff.mp h.1)
      have hlt := unit.toNat_lt
      have hvalid : (Char.ofNat unit.toNat).toNat = unit.toNat := by
        apply toNat_ofNat
        rw [Nat.isValidChar]
        omega
      rw [chars_cons (Bool.eq_false_iff.mpr hhigh), ofChars_cons, ih h.2, ofChar, hvalid, if_pos hlt,
        UInt16.ofNat_toNat]
      rfl

theorem isWellFormed_append {s t : JsString} (h : s.isWellFormed = true) :
    (s ++ t).isWellFormed = t.isWellFormed := by
  rw [← ofChars_chars h, isWellFormed_ofChars_append]

theorem chars_append {s : JsString} (h : s.isWellFormed = true) (t : JsString) :
    (s ++ t).chars = s.chars ++ t.chars := by
  conv_lhs => rw [← ofChars_chars h]
  rw [chars_ofChars_append]

end WellFormed

section Encoding

theorem utf8_append {s : JsString} (h : s.isWellFormed = true) (t : JsString) :
    (s ++ t).utf8 = s.utf8 ++ t.utf8 := by
  rw [utf8, chars_append h, List.flatMap_append, utf8, utf8]

theorem utf8_ofChars (cs : List Char) : (ofChars cs).utf8 = cs.flatMap String.utf8EncodeChar := by
  rw [utf8, chars_ofChars]

theorem chars_of_lt {s : JsString} (h : ∀ unit ∈ s, unit < 0x80) :
    s.chars = s.map fun unit : UInt16 => Char.ofNat unit.toNat := by
  induction s with
  | nil => rfl
  | cons unit s ih =>
      obtain ⟨hunit, hs⟩ := List.forall_mem_cons.mp h
      have hhigh : isHighSurrogate unit = false := by
        rw [Bool.eq_false_iff, ne_eq, isHighSurrogate_iff]
        have hunit : unit.toNat < 0x80 := UInt16.lt_iff_toNat_lt.mp hunit
        omega
      rw [chars_cons hhigh, ih hs, List.map_cons]

theorem isWellFormed_of_ascii {s : JsString} (h : ∀ unit ∈ s, unit < 0x80) : s.isWellFormed = true :=
  isWellFormed_of_lt fun unit hunit => UInt16.lt_of_lt_of_le (h unit hunit) (by decide)

/-- ASCII text has one byte for every code unit. -/
theorem utf8_of_ascii {s : JsString} (h : ∀ unit ∈ s, unit < 0x80) : s.utf8 = s.map UInt16.toUInt8 := by
  rw [utf8, chars_of_lt h, List.flatMap_map, List.map_eq_flatMap]
  apply List.flatMap_congr
  intro unit hunit
  have hlt : unit.toNat < 0x80 := UInt16.lt_iff_toNat_lt.mp (h unit hunit)
  have hval : (Char.ofNat unit.toNat).val.toNat = unit.toNat := by
    apply toNat_ofNat
    rw [Nat.isValidChar]
    omega
  rw [String.utf8EncodeChar, hval, if_pos (by omega)]
  exact congrArg (fun byte => [byte]) (UInt8.toNat_inj.mp (by simp))

theorem ofUtf8?_utf8 {s : JsString} (h : s.isWellFormed = true) : ofUtf8? s.utf8 = some s := by
  have hbytes : ByteArray.mk s.utf8.toArray = s.chars.utf8Encode := by
    apply ByteArray.ext
    rw [utf8, List.utf8Encode, List.data_toByteArray]
  rw [ofUtf8?, hbytes, List.utf8Decode?_utf8Encode, Option.map_some, List.toList_toArray,
    ofChars_chars h]

end Encoding
end OpenRfc.JsString
