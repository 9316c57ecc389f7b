import OpenRfc.Xrfc.MarkupFidelity

/-!
Character references of any padding, and the text of recursive parameters. The writer refers to the
characters which have no other spelling, and the reader takes them from references only.
-/

namespace OpenRfc.Xrfc
open Fallible Values
open JsString (ofChar ofChars)

section References

/-- `decodeXmlEntityReference(raw, start, path)`, of an ampersand at the start -/
def decodeXmlEntityReferenceAt (raw : JsString) (start : Nat) (path : String) :
    Except String (Nat × Nat) := do
  let (codePoint, length) ← decodeXmlEntityReference (raw.drop (start + 1)) path
  .ok (codePoint, length + 1)

inductive ReferenceRadix
  | decimal
  | hexadecimal (upper : Bool)

namespace ReferenceRadix

def base : ReferenceRadix → Nat
  | decimal => 10
  | hexadecimal _ => 16

/-- What stands between the number sign and the digits. -/
def marker : ReferenceRadix → JsString
  | decimal => []
  | hexadecimal _ => [0x78]

def digitUnit (radix : ReferenceRadix) (digit : Nat) : UInt16 :=
  match radix with
  | decimal => UInt16.ofNat (0x30 + digit)
  | hexadecimal upper =>
    if digit < 10 then UInt16.ofNat (0x30 + digit)
    else UInt16.ofNat ((if upper then 0x41 else 0x61) + (digit - 10))

def digit? : ReferenceRadix → UInt16 → Option Nat
  | decimal => decimalDigit?
  | hexadecimal _ => hexadecimalDigit?

end ReferenceRadix

/-- `codePoint.toString(radix)` -/
def digitsText (radix : ReferenceRadix) (codePoint : Nat) : JsString :=
  if codePoint = 0 then [0x30]
  else (Nat.digits radix.base codePoint).reverse.map radix.digitUnit

/-- `text.padStart(width, "0")` -/
def padStart (width : Nat) (text : JsString) : JsString := text.leftpad width 0x30

/-- A reference with its digits padded to a width. -/
def characterReference (radix : ReferenceRadix) (width codePoint : Nat) : JsString :=
  0x26 :: 0x23 :: (radix.marker ++ padStart width (digitsText radix codePoint) ++ [0x3b])

end References

section Recursive

/-- The characters of which the writer makes references. -/
def canonicalEntityCodePoints : List Nat :=
  [0, 1, 2, 3, 4, 5, 6, 7, 8, 11, 12,
    14, 15, 16, 17, 18, 19, 20, 21, 22, 23, 24, 25, 26, 27, 28, 29, 30, 31,
    38, 60, 62]

def escapedChunk (character : Char) : JsString :=
  if character.toNat ∈ canonicalEntityCodePoints then characterReference .decimal 2 character.toNat
  else ofChar character

/-- The bytes of the chunks, counted up to a maximum. -/
def escapedTextByteLength (path : String) (maximumBytes : Nat) : List Char → Nat → Except String Nat
  | [], bytes => .ok bytes
  | character :: characters, bytes => do
    require (¬(character.toNat = 0xfffe ∨ character.toNat = 0xffff))
      s!"{path} contains an unsupported non-character"
    let bytes := bytes + (escapedChunk character).utf8.length
    require (bytes ≤ Double.maxSafeInteger ∧ bytes ≤ maximumBytes)
      s!"{path} XML value exceeds {maximumBytes} bytes"
    escapedTextByteLength path maximumBytes characters bytes

def escapedText (value : JsString) (path : String) (maximumBytes : Nat) : Except String Bytes := do
  assertUnicodeScalarText value path
  let bytes ← escapedTextByteLength path maximumBytes value.chars 0
  let result := value.chars.flatMap fun character => (escapedChunk character).utf8
  require (result.length = bytes) s!"{path} xRFC text encoding length changed"
  .ok result

/-- Is a character refused where it does not stand in a reference? -/
def isRefusedRaw (character : Char) : Bool :=
  character.toNat = 0xfffe || character.toNat = 0xffff ||
    (character.toNat < 0x20 && !(character.toNat = 9 || character.toNat = 10 || character.toNat = 13))

/-- The two characters which the writer refuses are refused in references, too. -/
def assertReferencedCodePoint (path : String) (codePoint : Nat) : Except String Unit :=
  require (¬(codePoint = 0xfffe ∨ codePoint = 0xffff)) s!"{path} contains an out-of-range XML entity"

/-- `decodeEntities` of the recursive codec -/
def decodeRecursiveEntities (raw : JsString) (path : String) : Except String JsString := do
  require (¬[0x5d, 0x5d, 0x3e] <:+: raw) s!"{path} contains non-canonical raw xRFC text"
  require (raw.chars.all fun character => !isRefusedRaw character)
    s!"{path} contains non-canonical raw xRFC text"
  let result ← decodeReferences path (assertReferencedCodePoint path) (raw.length + 1) raw
  assertUnicodeScalarText result path
  .ok result

end Recursive

section Digits
variable {radix : ReferenceRadix} {digit codePoint width : Nat}

theorem one_lt_base (radix : ReferenceRadix) : 1 < radix.base := by
  cases radix with
  | decimal => decide
  | hexadecimal _ => exact (by decide : 1 < 16)

/-- A digit is read as it is spelled, in either case of its letter, and is not taken for another
part of a reference. -/
theorem digit?_digitUnit (h : digit < radix.base) :
    radix.digit? (radix.digitUnit digit) = some digit ∧ radix.digitUnit digit ≠ 0x3b ∧
      radix.digitUnit digit ≠ 0x78 ∧ radix.digitUnit digit < 0x80 := by
  cases radix with
  | decimal =>
      change digit < 10 at h
      revert digit
      decide
  | hexadecimal upper =>
      change digit < 16 at h
      cases upper with
      | false =>
          revert digit
          decide
      | true =>
          revert digit
          decide

/-- The number of digits, the highest first. -/
def digitsNumber (radix : ReferenceRadix) (digits : List Nat) : Nat :=
  digits.foldl (fun number digit => number * radix.base + digit) 0

theorem digitsNumber_zeros (count : Nat) (digits : List Nat) :
    digitsNumber radix (List.replicate count 0 ++ digits) = digitsNumber radix digits := by
  induction count with
  | zero => rfl
  | succ count ih =>
      rw [List.replicate_succ, List.cons_append, digitsNumber, List.foldl_cons, Nat.zero_mul]
      exact ih

theorem digitsNumber_reverse (digits : List Nat) :
    digitsNumber radix digits.reverse = Nat.ofDigits radix.base digits := by
  rw [digitsNumber, List.foldl_reverse, Nat.ofDigits_eq_foldr]
  congr 1
  funext digit number
  rw [Nat.add_comm, Nat.mul_comm]
  rfl

/-- The digits of a character, the highest first. -/
theorem digitsText_eq (radix : ReferenceRadix) (h : codePoint < 0x110000) :
    ∃ digits : List Nat, (∀ digit ∈ digits, digit < radix.base) ∧ digits ≠ [] ∧ digits.length ≤ 32 ∧
      digitsText radix codePoint = digits.map radix.digitUnit ∧
      digitsNumber radix digits = codePoint := by
  rw [digitsText]
  split
  · rename_i hzero
    refine ⟨[0], ?_, List.cons_ne_nil _ _, by decide, ?_, ?_⟩
    · intro digit hdigit
      rw [List.mem_singleton.mp hdigit]
      exact Nat.lt_of_succ_lt (one_lt_base radix)
    · cases radix with
      | decimal => rfl
      | hexadecimal upper => rfl
    · rw [hzero, digitsNumber, List.foldl_cons, Nat.zero_mul]
      rfl
  · rename_i hne
    refine ⟨(Nat.digits radix.base codePoint).reverse, ?_, ?_, ?_, rfl, ?_⟩
    · intro digit hdigit
      exact Nat.digits_lt_base (one_lt_base radix) (List.mem_reverse.mp hdigit)
    · rw [Ne, List.reverse_eq_nil_iff]
      exact Nat.digits_ne_nil_iff_ne_zero.mpr hne
    · have hpow : 2 ^ 32 ≤ radix.base ^ 32 := Nat.pow_le_pow_left (one_lt_base radix) 32
      rw [List.length_reverse, Nat.digits_length_le_iff (one_lt_base radix)]
      omega
    · rw [digitsNumber_reverse, Nat.ofDigits_digits]

/-- Padding adds zeros, which do not count. -/
theorem padStart_digitsText (radix : ReferenceRadix) (hcode : codePoint < 0x110000) (hwidth : width ≤ 32) :
    ∃ digits : List Nat, (∀ digit ∈ digits, digit < radix.base) ∧ digits ≠ [] ∧ digits.length ≤ 32 ∧
      padStart width (digitsText radix codePoint) = digits.map radix.digitUnit ∧
      digitsNumber radix digits = codePoint := by
  obtain ⟨digits, hdigits, hne, hlength, htext, hnumber⟩ := digitsText_eq radix hcode
  have hzero : radix.digitUnit 0 = 0x30 := by
    cases radix with
    | decimal => rfl
    | hexadecimal upper => rfl
  refine ⟨List.replicate (width - digits.length) 0 ++ digits, ?_, ?_, ?_, ?_, ?_⟩
  · intro digit hdigit
    obtain hdigit | hdigit := List.mem_append.mp hdigit
    · rw [List.eq_of_mem_replicate hdigit]
      exact Nat.lt_of_succ_lt (one_lt_base radix)
    · exact hdigits digit hdigit
  · exact List.append_ne_nil_of_right_ne_nil _ hne
  · rw [List.length_append, List.length_replicate]
    omega
  · rw [padStart, htext, List.leftpad, List.length_map, List.map_append, List.map_replicate, hzero]
  · rw [digitsNumber_zeros, hnumber]

theorem mapM_digit? {digits : List Nat} (h : ∀ digit ∈ digits, digit < radix.base) :
    (digits.map radix.digitUnit).mapM radix.digit? = some digits := by
  induction digits with
  | nil => rfl
  | cons digit digits ih =>
      obtain ⟨hdigit, hdigits⟩ := List.forall_mem_cons.mp h
      rw [List.map_cons, List.mapM_cons, (digit?_digitUnit hdigit).1, ih hdigits]
      rfl

end Digits

section Reading
variable {radix : ReferenceRadix} {codePoint width : Nat} {raw : JsString} {path : String}

/-- The body of a reference is taken for a number of its radix. -/
theorem referencedCodePoint_run {run : JsString} (hrun : ∀ unit ∈ run, unit ≠ 0x78) :
    referencedCodePoint path (0x23 :: (radix.marker ++ run)) =
      characterReferenceValue path run radix.base radix.digit? := by
  cases radix with
  | hexadecimal upper => rfl
  | decimal =>
      change referencedCodePoint path (0x23 :: run) = _
      cases run with
      | nil => rfl
      | cons unit run =>
          have hunit := (List.forall_mem_cons.mp hrun).1
          unfold referencedCodePoint
          split
          · rename_i heq
            exact absurd heq nofun
          · rename_i heq
            simp only [List.cons.injEq, true_and] at heq
            exact absurd heq.1 hunit
          · rename_i heq
            rw [(List.cons.inj heq).2]
            rfl
          · rename_i hother
            exact absurd rfl (hother _)

/-- A reference is read as its character, however its digits are spelled and padded. -/
theorem decodeXmlEntityReference_reference (radix : ReferenceRadix)
    (hcode : codePoint.isValidChar) (hwidth : width ≤ 32) (path : String) (after : JsString) :
    decodeXmlEntityReference ((characterReference radix width codePoint).tail ++ after) path =
      .ok (codePoint, (characterReference radix width codePoint).tail.length) := by
  have hlt : codePoint < 0x110000 := by
    rw [Nat.isValidChar] at hcode
    omega
  obtain ⟨digits, hdigits, hne, hlength, htext, hnumber⟩ :=
    padStart_digitsText radix hlt hwidth
  have hunit : ∀ unit ∈ digits.map radix.digitUnit, unit ≠ 0x3b ∧ unit ≠ 0x78 := by
    intro unit hunit
    obtain ⟨digit, hdigit, rfl⟩ := List.mem_map.mp hunit
    obtain ⟨-, hsemicolon, hx, -⟩ := digit?_digitUnit (hdigits digit hdigit)
    exact ⟨hsemicolon, hx⟩
  have hbody : ∀ unit ∈ 0x23 :: (radix.marker ++ digits.map radix.digitUnit),
      decide (unit ≠ 0x3b) = true := by
    intro unit hmem
    rw [decide_eq_true_iff]
    simp only [List.mem_cons, List.mem_append] at hmem
    obtain rfl | hmem | hmem := hmem
    · decide
    · cases radix with
      | decimal => cases hmem
      | hexadecimal upper =>
          rw [List.mem_singleton.mp hmem]
          decide
    · exact (hunit unit hmem).1
  have htail : (characterReference radix width codePoint).tail ++ after =
      (0x23 :: (radix.marker ++ digits.map radix.digitUnit)) ++ 0x3b :: after := by
    simp [characterReference, htext]
  have htake : ((characterReference radix width codePoint).tail ++ after).takeWhile (· ≠ 0x3b) =
      0x23 :: (radix.marker ++ digits.map radix.digitUnit) := by
    rw [htail, List.takeWhile_append_of_pos hbody, List.takeWhile_cons_of_neg (by decide),
      List.append_nil]
  have hvalue : characterReferenceValue path (digits.map radix.digitUnit) radix.base radix.digit? =
      .ok codePoint := by
    rw [characterReferenceValue, mapM_digit? hdigits]
    dsimp only
    rw [if_pos ⟨by rw [List.length_map]; exact hlength, by simpa using hne⟩]
    exact congrArg Except.ok hnumber
  rw [Nat.isValidChar] at hcode
  rw [decodeXmlEntityReference, htake, htail, require_of (by simp), ok_bind,
    referencedCodePoint_run fun unit h => (hunit unit h).2, hvalue, ok_bind,
    require_of (by omega), ok_bind]
  simp [characterReference, htext, Nat.add_assoc]

/-- What is read is a character, and the reference ends within the text. -/
theorem decodeXmlEntityReference_eq_ok {length : Nat}
    (h : decodeXmlEntityReference raw path = .ok (codePoint, length)) :
    codePoint.isValidChar ∧ length ≤ raw.length := by
  obtain ⟨_, hlength, h⟩ := bind_eq_ok.mp h
  obtain ⟨value, -, h⟩ := bind_eq_ok.mp h
  obtain ⟨_, hrange, h⟩ := bind_eq_ok.mp h
  rw [require_eq_ok] at hlength hrange
  obtain ⟨rfl, rfl⟩ := Prod.mk.inj (Except.ok.inj h)
  rw [Nat.isValidChar]
  omega

end Reading
section RoundTrip
variable {codePoint : Nat} {c : Char} {cs : List Char} {path : String}

/-- A reference of the writer consists of ASCII characters, none of which ends a tag. -/
theorem ascii_characterReference (h : codePoint < 0x110000) :
    ∀ unit ∈ characterReference .decimal 2 codePoint,
      unit < 0x80 ∧ 0x20 ≤ unit ∧ unit ≠ 0x3e := by
  obtain ⟨digits, hdigits, -, -, htext, -⟩ :=
    padStart_digitsText .decimal h (by decide : 2 ≤ 32)
  have hdigit : ∀ digit < 10, ReferenceRadix.digitUnit .decimal digit < 0x80 ∧
      0x20 ≤ ReferenceRadix.digitUnit .decimal digit ∧
      ReferenceRadix.digitUnit .decimal digit ≠ 0x3e := by decide
  intro unit hunit
  rw [characterReference, htext] at hunit
  simp only [ReferenceRadix.marker, List.mem_cons, List.mem_append, List.not_mem_nil, or_false,
    false_or] at hunit
  obtain rfl | rfl | hunit | rfl := hunit
  · decide
  · decide
  · obtain ⟨digit, hmem, rfl⟩ := List.mem_map.mp hunit
    exact hdigit digit (hdigits digit hmem)
  · decide

/-- The characters of a chunk are admitted raw, and none of them ends a tag. -/
theorem chars_escapedChunk (hc : ¬(c.toNat = 0xfffe ∨ c.toNat = 0xffff)) :
    (escapedChunk c).isWellFormed = true ∧ 0x3e ∉ escapedChunk c ∧
      ∀ character ∈ (escapedChunk c).chars, isRefusedRaw character = false := by
  rw [escapedChunk]
  split
  · have hrange := JsString.char_range c
    have hunits := ascii_characterReference (by omega : c.toNat < 0x110000)
    have hascii : ∀ unit ∈ characterReference .decimal 2 c.toNat, unit < 0x80 :=
      fun unit hunit => (hunits unit hunit).1
    refine ⟨JsString.isWellFormed_of_ascii hascii, fun hmem => (hunits _ hmem).2.2 rfl, ?_⟩
    rw [JsString.chars_of_lt hascii]
    intro character hmem
    obtain ⟨unit, hunit, rfl⟩ := List.mem_map.mp hmem
    obtain ⟨hhigh, hlow, -⟩ := hunits unit hunit
    rw [UInt16.lt_iff_toNat_lt] at hhigh
    rw [UInt16.le_iff_toNat_le] at hlow
    have hnumber : (Char.ofNat unit.toNat).toNat = unit.toNat :=
      JsString.toNat_ofNat (.inl (hhigh.trans (by decide)))
    simp only [UInt16.reduceToNat] at hhigh hlow
    simp only [isRefusedRaw, hnumber, Bool.or_eq_false_iff, Bool.and_eq_false_imp, decide_eq_false_iff_not]
    refine ⟨⟨by omega, by omega⟩, fun h => ?_⟩
    simp only [decide_eq_true_eq] at h
    omega
  · rename_i hplain
    have hsmall : ∀ n < 0x20, n ∉ canonicalEntityCodePoints → n = 9 ∨ n = 10 ∨ n = 13 := by decide
    refine ⟨?_, ?_, ?_⟩
    · have hformed := JsString.isWellFormed_ofChars [c]
      rwa [JsString.ofChars_cons, ofChars, List.flatMap_nil, List.append_nil] at hformed
    · apply not_mem_ofChar (by decide)
      rintro he
      rw [he] at hplain
      exact hplain (by decide)
    · have hchars := JsString.chars_ofChar_append c []
      rw [List.append_nil] at hchars
      intro character hmem
      rw [hchars] at hmem
      obtain rfl : character = c := by simpa [JsString.chars] using hmem
      obtain ⟨hlow, hhigh⟩ := not_or.mp hc
      simp only [isRefusedRaw, hlow, hhigh, decide_false, Bool.false_or, Bool.and_eq_false_imp,
        decide_eq_true_eq, Bool.not_eq_false', Bool.or_eq_true]
      intro hcontrol
      obtain h | h | h := hsmall _ hcontrol hplain
      · exact .inl (.inl h)
      · exact .inl (.inr h)
      · exact .inr h

/-- The text of the chunks. -/
def chunks (cs : List Char) : JsString := cs.flatMap escapedChunk

theorem chunks_cons (c : Char) (cs : List Char) : chunks (c :: cs) = escapedChunk c ++ chunks cs :=
  List.flatMap_cons

/-- The text of the chunks is admitted raw. -/
theorem chars_chunks (hcs : ∀ c ∈ cs, ¬(c.toNat = 0xfffe ∨ c.toNat = 0xffff)) :
    (chunks cs).isWellFormed = true ∧ 0x3e ∉ chunks cs ∧
      (∀ character ∈ (chunks cs).chars, isRefusedRaw character = false) ∧
      (chunks cs).utf8 = cs.flatMap fun c => (escapedChunk c).utf8 := by
  induction cs with
  | nil => exact ⟨rfl, nofun, nofun, rfl⟩
  | cons c cs ih =>
      obtain ⟨hc, hcs⟩ := List.forall_mem_cons.mp hcs
      obtain ⟨hformed, hend, hchars⟩ := chars_escapedChunk hc
      obtain ⟨ihformed, ihend, ihchars, ihutf8⟩ := ih hcs
      rw [chunks_cons]
      refine ⟨(JsString.isWellFormed_append hformed).trans ihformed, ?_, ?_, ?_⟩
      · rw [List.mem_append, not_or]
        exact ⟨hend, ihend⟩
      · rw [JsString.chars_append hformed]
        intro character hmem
        obtain hmem | hmem := List.mem_append.mp hmem
        · exact hchars character hmem
        · exact ihchars character hmem
      · rw [JsString.utf8_append hformed, ihutf8, List.flatMap_cons]

/-- The chunks are read as the characters of which they have been made. -/
theorem decodeReferences_chunks (path : String) {rounds : Nat}
    (hcs : ∀ c ∈ cs, ¬(c.toNat = 0xfffe ∨ c.toNat = 0xffff)) (hrounds : cs.length ≤ rounds) :
    decodeReferences path (assertReferencedCodePoint path) (rounds + 1) (chunks cs) =
      .ok (ofChars cs) := by
  induction cs generalizing rounds with
  | nil => rfl
  | cons c cs ih =>
      obtain ⟨hc, hcs⟩ := List.forall_mem_cons.mp hcs
      rw [List.length_cons] at hrounds
      obtain ⟨rounds, rfl⟩ : ∃ n, rounds = n + 1 := ⟨rounds - 1, by omega⟩
      rw [chunks_cons, JsString.ofChars_cons, escapedChunk]
      split
      · have hreference := decodeXmlEntityReference_reference .decimal
          c.valid (by decide : 2 ≤ 32) path (chunks cs)
        exact decodeReferences_reference _ hreference (require_of hc) (ih hcs (by omega))
      · rename_i hplain
        have hampersand : 0x26 ∉ ofChar c := by
          apply not_mem_ofChar (by decide)
          intro he
          rw [he] at hplain
          exact hplain (by decide)
        exact decodeReferences_append hampersand (ih hcs (by omega))

theorem length_le_chunks (cs : List Char) : cs.length ≤ (chunks cs).length := by
  induction cs with
  | nil => exact le_rfl
  | cons c cs ih =>
      have hpos : 1 ≤ (escapedChunk c).length := by
        rw [escapedChunk]
        split
        · exact Nat.le_add_left 1 _
        · exact List.length_pos_iff.mpr (JsString.ofChar_ne_nil c)
      rw [chunks_cons, List.length_append, List.length_cons]
      omega

/-- The bytes of the chunks are counted where they are admitted. -/
theorem escapedTextByteLength_of (path : String) {maximumBytes bytes : Nat}
    (hcs : ∀ c ∈ cs, ¬(c.toNat = 0xfffe ∨ c.toNat = 0xffff))
    (hmaximum : maximumBytes ≤ Double.maxSafeInteger)
    (hbytes : bytes + (cs.flatMap fun c => (escapedChunk c).utf8).length ≤ maximumBytes) :
    escapedTextByteLength path maximumBytes cs bytes =
      .ok (bytes + (cs.flatMap fun c => (escapedChunk c).utf8).length) := by
  induction cs generalizing bytes with
  | nil => rfl
  | cons c cs ih =>
      obtain ⟨hc, hcs⟩ := List.forall_mem_cons.mp hcs
      rw [List.flatMap_cons, List.length_append] at hbytes
      rw [escapedTextByteLength, require_of hc, ok_bind]
      dsimp only
      rw [require_of (by omega), ok_bind, ih hcs (by omega), List.flatMap_cons, List.length_append,
        Nat.add_assoc]

/-- Every character has references of every padding, what is read of any text is a character within
it, and the text of the writer is read as it was. -/
theorem xml_references (path : String) :
    (∀ radix width codePoint before after, codePoint.isValidChar → width ≤ 32 →
      decodeXmlEntityReferenceAt (before ++ characterReference radix width codePoint ++ after)
        before.length path = .ok (codePoint, (characterReference radix width codePoint).length)) ∧
    (∀ raw start codePoint length, raw[start]? = some 0x26 →
      decodeXmlEntityReferenceAt raw start path = .ok (codePoint, length) →
      codePoint.isValidChar ∧ start + length ≤ raw.length) ∧
    ∀ value : JsString, value.isWellFormed = true →
      (∀ c ∈ value.chars, ¬(c.toNat = 0xfffe ∨ c.toNat = 0xffff)) →
      ∃ raw : JsString, raw.isWellFormed = true ∧
        (∀ maximumBytes, raw.utf8.length ≤ maximumBytes → maximumBytes ≤ Double.maxSafeInteger →
          escapedText value path maximumBytes = .ok raw.utf8) ∧
        decodeRecursiveEntities raw path = .ok value := by
  refine ⟨fun radix width codePoint before after hcode hwidth => ?_,
    fun raw start codePoint length hstart h => ?_, fun value hformed hcs => ?_⟩
  · have hdrop : (before ++ characterReference radix width codePoint ++ after).drop
        (before.length + 1) = (characterReference radix width codePoint).tail ++ after := by
      rw [List.append_assoc, ← List.drop_drop, List.drop_left]
      rfl
    rw [decodeXmlEntityReferenceAt, hdrop, decodeXmlEntityReference_reference radix hcode hwidth, ok_bind]
    rfl
  · obtain ⟨⟨codePoint', length'⟩, hreference, h⟩ := bind_eq_ok.mp h
    obtain ⟨rfl, rfl⟩ := Prod.mk.inj (Except.ok.inj h)
    obtain ⟨hvalid, hlength⟩ := decodeXmlEntityReference_eq_ok hreference
    rw [List.length_drop] at hlength
    obtain ⟨hstart, -⟩ := List.getElem?_eq_some_iff.mp hstart
    exact ⟨hvalid, by omega⟩
  · obtain ⟨hchunks, hend, hchars, hutf8⟩ := chars_chunks hcs
    have htext : assertUnicodeScalarText value path = .ok () :=
      assertUnicodeScalarText_eq_ok.mpr hformed
    refine ⟨chunks value.chars, hchunks, fun maximumBytes hbytes hmaximum => ?_, ?_⟩
    · rw [hutf8] at hbytes
      have hcount := escapedTextByteLength_of path hcs hmaximum
        (by omega : 0 + (value.chars.flatMap fun c => (escapedChunk c).utf8).length ≤ maximumBytes)
      rw [escapedText, htext, ok_bind, hcount, ok_bind]
      dsimp only
      rw [require_of (by omega), ok_bind, hutf8]
    · have hinfix : ¬[0x5d, 0x5d, 0x3e] <:+: chunks value.chars :=
        fun h => hend (h.subset (by decide))
      have hraw : ((chunks value.chars).chars.all fun character => !isRefusedRaw character) = true := by
        rw [List.all_eq_true]
        intro character hmem
        rw [hchars character hmem]
        rfl
      have hloop := decodeReferences_chunks path hcs (length_le_chunks value.chars)
      rw [JsString.ofChars_chars hformed] at hloop
      change decodeReferences path _ ((chunks value.chars).length + 1) _ = _ at hloop
      rw [decodeRecursiveEntities, require_of hinfix, ok_bind, require_of hraw, ok_bind, hloop,
        ok_bind, htext, ok_bind]

/-- `&#x0041;`, and a text with a character of markup, a control character, and a surrogate pair. -/
theorem xml_references_samples :
    decodeXmlEntityReferenceAt (JsString.literal "x&#x0041;rest") 1 "TEXT" = .ok (0x41, 8) ∧
      (Nat.isValidChar 0x41 ∧ 1 + 8 ≤ (JsString.literal "x&#x0041;rest").length) ∧
      ∃ raw : JsString, raw.isWellFormed = true ∧
        (∀ maximumBytes, raw.utf8.length ≤ maximumBytes → maximumBytes ≤ Double.maxSafeInteger →
          escapedText [0x3e, 0x1f, 0xd83d, 0xde00] "TEXT" maximumBytes = .ok raw.utf8) ∧
        decodeRecursiveEntities raw "TEXT" = .ok [0x3e, 0x1f, 0xd83d, 0xde00] := by
  obtain ⟨hreference, hwithin, hround⟩ := xml_references "TEXT"
  have hread := hreference (.hexadecimal true) 4 0x41 (JsString.literal "x") (JsString.literal "rest")
    (by decide) (by decide)
  have hspelled : characterReference (.hexadecimal true) 4 0x41 = JsString.literal "&#x0041;" := by
    decide +kernel
  rw [hspelled] at hread
  have htext : decodeXmlEntityReferenceAt (JsString.literal "x&#x0041;rest") 1 "TEXT" =
      .ok (0x41, 8) := hread
  refine ⟨htext, hwithin _ 1 0x41 8 (by decide) htext, hround _ (by decide) ?_⟩
  exact @of_decide_eq_true _ (List.decidableBAll _ _) (by decide)

end RoundTrip

end OpenRfc.Xrfc
