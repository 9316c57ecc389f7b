import OpenRfc.Classic.Structure
import OpenRfc.DecimalFloat.RoundTrip

/-!
A structure is decoded to the normal form of the record which has been encoded. Every field has its
own bytes, which no other field and no gap overwrites.
-/

namespace OpenRfc.Classic
open Fallible Values
open DecimalFloat (DecimalFloatFormat DECF16 DECF34 LongS meaningOf)

-- One lemma for each type unfolds these, so their equations are made here once.
attribute [local simp] encodeValue decodeValue initialValue

section NormalForm
variable (host : Host) (field : RfcStructureField) (fieldPath : String)

/-- A decimal number in its canonical text, which denotes the same number. -/
def DecimalForm (format : DecimalFloatFormat) (value out : RfcValue) : Prop :=
  ∃ text canonical meaning, decimalFloatText host fieldPath value = .ok text ∧
    DecimalFloat.parseDecimal format fieldPath text = .ok canonical ∧
    meaningOf text = some meaning ∧ meaningOf canonical.text = some meaning ∧
    out = .text canonical.text

/-- A packed decimal in its canonical text: the number of digits in front of the point is the least
one, and the number of digits behind it is the declared one. -/
def PackedForm (value out : RfcValue) : Prop :=
  ∃ text found, ∃ number : Nat, decimalText host value fieldPath = .ok text ∧
    DecimalFloat.matchFinite text = some found ∧
    (number : ℚ) = DecimalFloat.scaled (found.integer ++ found.fraction)
      (found.exponent - found.fraction.length) * 10 ^ field.decimals ∧
    out = .text (packedText found.negative
      ((Digits.ofNat number).pad (2 * field.internalLength - 1)) field.decimals)

/-- A number without the sign of zero. -/
def IntegerForm (value out : RfcValue) : Prop :=
  ∃ d, value = .number d ∧ out = .number d.withoutZeroSign

/-- What a value of a field becomes. -/
def NormalForm (int8Mode : ClassicInt8Mode) (value out : RfcValue) : Prop :=
  match field.exid with
  | .temporal exid => ∃ s, value = .text s ∧ out = .text (if s = [] then exid.initialValue else s)
  | .char => ∃ s, value = .text s ∧ out = .text s.trimTrailingSpaces
  | .numc =>
    ∃ s, value = .text s ∧
      out = .text (List.replicate (field.internalLength / 2 - s.length) 0x30 ++ s)
  | .date => ∃ s, value = .text s ∧ out = .text (if s = blanks 8 then [] else s)
  | .time => ∃ s, value = .text s ∧ out = .text (if s = blanks 6 then [] else s)
  | .raw =>
    ∃ bytes, value = .bytes bytes ∧
      out = .bytes (bytes ++ Bytes.alloc (field.internalLength - bytes.length))
  | .float => ∃ d, value = .number d ∧ out = .number d
  | .int4 | .int2 | .int1 => IntegerForm value out
  | .int8 => ∃ n, value.integer? = some n ∧ out = int8Value int8Mode n
  | .packed => PackedForm host field fieldPath value out
  | .decf16 => DecimalForm host fieldPath DECF16 value out
  | .decf34 => DecimalForm host fieldPath DECF34 value out
  | _ => False

/-- A decimal number which is spelled with the long s is read as another one. -/
def SpelledPlainly (value : RfcValue) : Prop :=
  (field.exid = .decf16 ∨ field.exid = .decf34) →
    ∀ text, decimalFloatText host fieldPath value = .ok text → ¬LongS text

end NormalForm

section Fields
variable {host : Host} {field : RfcStructureField} {fieldPath : String} {value : RfcValue}
  {int8Mode : ClassicInt8Mode} {bytes : Bytes}

/-- The bytes of a field, and what they are decoded to. -/
def Decodes (host : Host) (field : RfcStructureField) (fieldPath : String) (int8Mode : ClassicInt8Mode)
    (value : RfcValue) (bytes : Bytes) : Prop :=
  bytes.length ≤ field.internalLength ∧ ∃ out, NormalForm host field fieldPath int8Mode value out ∧
    decodeValue field fieldPath (bytes ++ Bytes.alloc (field.internalLength - bytes.length))
      int8Mode .string = .ok out

/-- Bytes which have the width of the field. -/
theorem Decodes.of_full (out : RfcValue) (hlength : bytes.length = field.internalLength)
    (hform : NormalForm host field fieldPath int8Mode value out)
    (hdecode : decodeValue field fieldPath bytes int8Mode .string = .ok out) :
    Decodes host field fieldPath int8Mode value bytes := by
  refine ⟨hlength.le, out, hform, ?_⟩
  rw [hlength, Nat.sub_self]
  simpa [Bytes.alloc] using hdecode

theorem assertWidth_eq_ok {width : Nat} {error : String} {u : Unit} :
    assertWidth field fieldPath width error = .ok u ↔ field.internalLength = width :=
  require_eq_ok

theorem characterLength_eq_ok {characters : Nat} :
    characterLength field fieldPath = .ok characters ↔ field.internalLength = 2 * characters := by
  simp only [characterLength, bind_eq_ok, require_eq_ok, exists_const, Except.ok.injEq]
  omega

section Characters

theorem decodes_char (hexid : field.exid = .char)
    (h : encodeValue host field fieldPath value int8Mode = .ok bytes) :
    Decodes host field fieldPath int8Mode value bytes := by
  cases value with
  | text s =>
      simp only [encodeValue, hexid] at h
      obtain ⟨characters, hcharacters, h⟩ := bind_eq_ok.mp h
      have hwidth := characterLength_eq_ok.mp hcharacters
      obtain ⟨hlength, -⟩ := decodeAbapCharacterBytes_encodeAbapChar h
      apply Decodes.of_full (.text s.trimTrailingSpaces)
      · omega
      · simp only [NormalForm, hexid]
        exact ⟨s, rfl, rfl⟩
      · simp only [decodeValue, hexid, hcharacters, ok_bind, decodeAbapChar_encodeAbapChar h]
  | _ =>
      simp only [encodeValue, hexid] at h
      exact absurd h nofun

/-- No digit is a space. -/
theorem trimTrailingSpaces_digits {s : JsString} {count : Nat} (h : isDigits s.length s = true) :
    JsString.trimTrailingSpaces (List.replicate count 0x30 ++ s) = List.replicate count 0x30 ++ s := by
  apply List.rdropWhile_eq_self_iff.mpr
  intro hne hspace
  have hmem := List.getLast_mem hne
  rw [eq_of_beq hspace] at hmem
  rcases List.mem_append.mp hmem with hzero | hdigit
  · exact absurd (List.eq_of_mem_replicate hzero) (by decide)
  · simp only [isDigits, Bool.and_eq_true, List.all_eq_true] at h
    exact absurd (h.2 _ hdigit) (by decide)

theorem decodes_numc (hexid : field.exid = .numc)
    (h : encodeValue host field fieldPath value int8Mode = .ok bytes) :
    Decodes host field fieldPath int8Mode value bytes := by
  simp only [encodeValue, hexid] at h
  obtain ⟨characters, hcharacters, h⟩ := bind_eq_ok.mp h
  have hwidth := characterLength_eq_ok.mp hcharacters
  cases value with
  | text s =>
      dsimp only at h
      split at h
      · rename_i hdigits
        obtain ⟨hlength, -⟩ := decodeAbapCharacterBytes_encodeAbapChar h
        have hhalf : field.internalLength / 2 = characters := by omega
        apply Decodes.of_full (.text (List.replicate (characters - s.length) 0x30 ++ s))
        · omega
        · simp only [NormalForm, hexid, hhalf]
          exact ⟨s, rfl, rfl⟩
        · simp only [decodeValue, hexid, hcharacters, ok_bind, decodeAbapChar_encodeAbapChar h,
            trimTrailingSpaces_digits hdigits.1]
      · exact absurd h nofun
  | _ => exact absurd h nofun

/-- The units of a date or a time are digits or spaces. -/
theorem isWellFormed_of_classicText {count : Nat} {s : JsString} (h : isClassicText count s = true) :
    s.isWellFormed = true := by
  apply JsString.isWellFormed_of_lt
  intro unit hunit
  simp only [isClassicText, isDigits, Bool.or_eq_true, Bool.and_eq_true, decide_eq_true_eq,
    List.all_eq_true] at h
  obtain (⟨-, hdigits⟩ | rfl) | rfl := h
  · have hdigit := hdigits unit hunit
    simp only [Numeral.digitOf?] at hdigit
    split at hdigit
    · rename_i hrange
      rw [UInt16.lt_iff_toNat_lt]
      have hle := UInt16.le_iff_toNat_le.mp hrange.2
      simp only [UInt16.reduceToNat] at hle ⊢
      omega
    · cases hdigit
  · obtain rfl := List.eq_of_mem_replicate hunit
    decide
  · exact absurd hunit List.not_mem_nil

theorem decodeAbapFixedChar_wireText {count : Nat} {error : String} {wire : JsString}
    (h : classicWireText count error value = .ok wire) (hcount : count ≤ 0x7fff) :
    decodeAbapFixedChar wire.utf16le count = .ok wire := by
  obtain ⟨hlength, s, -, hclassic, rfl, -⟩ := public_wireText "" h
  refine decodeAbapCharacterBytes_utf16le ?_ hlength hcount
  split
  · have hblanks : isClassicText count (blanks count) = true := by simp [isClassicText]
    exact isWellFormed_of_classicText hblanks
  · exact isWellFormed_of_classicText hclassic

theorem decodes_date (hexid : field.exid = .date)
    (h : encodeValue host field fieldPath value int8Mode = .ok bytes) :
    Decodes host field fieldPath int8Mode value bytes := by
  simp only [encodeValue, hexid, bind_eq_ok, Except.ok.injEq] at h
  obtain ⟨_, hwidth, _, -, wire, hwire, rfl⟩ := h
  rw [assertWidth_eq_ok] at hwidth
  have hcharacters : characterLength field fieldPath = .ok 8 := characterLength_eq_ok.mpr hwidth
  obtain ⟨hlength, s, hvalue, -, -, hpublic⟩ :=
    public_wireText s!"{fieldPath} expects YYYYMMDD or eight spaces from the wire" hwire
  apply Decodes.of_full (.text (if s = blanks 8 then [] else s))
  · rw [JsString.length_utf16le, hlength, hwidth]
  · simp only [NormalForm, hexid]
    exact ⟨s, hvalue, rfl⟩
  · simp only [decodeValue, hexid, hcharacters, ok_bind,
      decodeAbapFixedChar_wireText hwire (by decide), classicDatePublicText, hpublic]

theorem decodes_time (hexid : field.exid = .time)
    (h : encodeValue host field fieldPath value int8Mode = .ok bytes) :
    Decodes host field fieldPath int8Mode value bytes := by
  simp only [encodeValue, hexid, bind_eq_ok, Except.ok.injEq] at h
  obtain ⟨_, hwidth, _, -, wire, hwire, rfl⟩ := h
  rw [assertWidth_eq_ok] at hwidth
  have hcharacters : characterLength field fieldPath = .ok 6 := characterLength_eq_ok.mpr hwidth
  obtain ⟨hlength, s, hvalue, -, -, hpublic⟩ :=
    public_wireText s!"{fieldPath} expects HHMMSS or six spaces from the wire" hwire
  apply Decodes.of_full (.text (if s = blanks 6 then [] else s))
  · rw [JsString.length_utf16le, hlength, hwidth]
  · simp only [NormalForm, hexid]
    exact ⟨s, hvalue, rfl⟩
  · simp only [decodeValue, hexid, hcharacters, ok_bind,
      decodeAbapFixedChar_wireText hwire (by decide), classicTimePublicText, hpublic]

end Characters

section Numbers

theorem decodes_raw (hexid : field.exid = .raw)
    (h : encodeValue host field fieldPath value int8Mode = .ok bytes) :
    Decodes host field fieldPath int8Mode value bytes := by
  cases value with
  | bytes data =>
      simp only [encodeValue, hexid, bind_eq_ok, Except.ok.injEq, require_eq_ok, exists_const] at h
      obtain ⟨hfits, rfl⟩ := h
      refine ⟨hfits, .bytes (data ++ Bytes.alloc (field.internalLength - data.length)), ?_, ?_⟩
      · simp only [NormalForm, hexid]
        exact ⟨data, rfl, rfl⟩
      · simp only [decodeValue, hexid]
  | _ =>
      simp only [encodeValue, hexid] at h
      exact absurd h nofun

theorem decodes_float (hexid : field.exid = .float)
    (h : encodeValue host field fieldPath value int8Mode = .ok bytes) :
    Decodes host field fieldPath int8Mode value bytes := by
  cases value with
  | number d =>
      simp only [encodeValue, hexid, bind_eq_ok, Except.ok.injEq, require_eq_ok, exists_const] at h
      obtain ⟨⟨hwidth, hfinite⟩, rfl⟩ := h
      apply Decodes.of_full (.number d)
      · rw [Double.length_littleEndian, hwidth]
      · simp only [NormalForm, hexid]
        exact ⟨d, rfl, rfl⟩
      · simp only [decodeValue, hexid, assertWidth, require_of hwidth, ok_bind,
          Double.ofLittleEndian_littleEndian, require_of hfinite]
  | _ =>
      simp only [encodeValue, hexid] at h
      exact absurd h nofun

/-- An integer is read again from its bytes. -/
theorem integerForm_encodeInteger {minimum maximum : Int} {width : Nat}
    (hlow : -(256 ^ width : Int) ≤ 2 * minimum) (hhigh : 2 * maximum < 256 ^ width)
    (h : encodeInteger fieldPath value minimum maximum width = .ok bytes) :
    bytes.length = width ∧
      IntegerForm value (.number (Double.ofInt (Bytes.signedLittleNumber bytes))) := by
  simp only [encodeInteger, bind_eq_ok, Except.ok.injEq] at h
  obtain ⟨n, hn, rfl⟩ := h
  obtain ⟨hmin, hmax, d, rfl, hsafe⟩ := integer_eq_ok hn
  refine ⟨Bytes.length_signedLittleEndian _ _, d, rfl, ?_⟩
  rw [Bytes.signedLittleNumber_signedLittleEndian (by omega) (by omega),
    Double.ofInt_safeInteger hsafe]

theorem decodes_int4 (hexid : field.exid = .int4)
    (h : encodeValue host field fieldPath value int8Mode = .ok bytes) :
    Decodes host field fieldPath int8Mode value bytes := by
  simp only [encodeValue, hexid] at h
  obtain ⟨_, hwidth, h⟩ := bind_eq_ok.mp h
  rw [assertWidth_eq_ok] at hwidth
  obtain ⟨hlength, hform⟩ := integerForm_encodeInteger (by decide) (by decide) h
  apply Decodes.of_full _ (hlength.trans hwidth.symm)
  · simp only [NormalForm, hexid]
    exact hform
  · simp only [decodeValue, hexid, assertWidth, require_of hwidth, ok_bind]

theorem decodes_int2 (hexid : field.exid = .int2)
    (h : encodeValue host field fieldPath value int8Mode = .ok bytes) :
    Decodes host field fieldPath int8Mode value bytes := by
  simp only [encodeValue, hexid] at h
  obtain ⟨_, hwidth, h⟩ := bind_eq_ok.mp h
  rw [assertWidth_eq_ok] at hwidth
  obtain ⟨hlength, hform⟩ := integerForm_encodeInteger (by decide) (by decide) h
  apply Decodes.of_full _ (hlength.trans hwidth.symm)
  · simp only [NormalForm, hexid]
    exact hform
  · simp only [decodeValue, hexid, assertWidth, require_of hwidth, ok_bind]

theorem decodes_int1 (hexid : field.exid = .int1)
    (h : encodeValue host field fieldPath value int8Mode = .ok bytes) :
    Decodes host field fieldPath int8Mode value bytes := by
  simp only [encodeValue, hexid, bind_eq_ok, Except.ok.injEq] at h
  obtain ⟨_, hwidth, n, hn, rfl⟩ := h
  rw [assertWidth_eq_ok] at hwidth
  obtain ⟨hmin, hmax, d, rfl, hsafe⟩ := integer_eq_ok hn
  have hnumber : ((Bytes.littleNumber (Bytes.littleEndian 1 n.toNat) : Nat) : Int) = n := by
    rw [Bytes.littleNumber_littleEndian (by omega)]
    omega
  apply Decodes.of_full (.number d.withoutZeroSign)
  · rw [Bytes.length_littleEndian, hwidth]
  · simp only [NormalForm, hexid]
    exact ⟨d, rfl, rfl⟩
  · simp only [decodeValue, hexid, assertWidth, require_of hwidth, ok_bind, hnumber,
      Double.ofInt_safeInteger hsafe]

theorem decodes_int8 (hexid : field.exid = .int8)
    (h : encodeValue host field fieldPath value int8Mode = .ok bytes) :
    Decodes host field fieldPath int8Mode value bytes := by
  simp only [encodeValue, hexid, bind_eq_ok, Except.ok.injEq] at h
  obtain ⟨_, hwidth, n, hn, rfl⟩ := h
  rw [assertWidth_eq_ok] at hwidth
  obtain ⟨hmin, hmax, hinteger, hsafe, -⟩ := integer_of_encodeClassicInt8 hn
  have hnumber : Bytes.signedLittleNumber (Bytes.signedLittleEndian 8 n) = n := by
    apply Bytes.signedLittleNumber_signedLittleEndian
    · rw [int8Min] at hmin
      omega
    · rw [int8Max] at hmax
      omega
  apply Decodes.of_full (int8Value int8Mode n)
  · rw [Bytes.length_signedLittleEndian, hwidth]
  · simp only [NormalForm, hexid]
    exact ⟨n, hinteger, rfl⟩
  · simp only [decodeValue, hexid, assertWidth, require_of hwidth, ok_bind, hnumber,
      decodeClassicInt8_eq hmin hmax hsafe]

theorem decodes_temporal {exid : ClassicTemporalExid} (hexid : field.exid = .temporal exid)
    (h : encodeValue host field fieldPath value int8Mode = .ok bytes) :
    Decodes host field fieldPath int8Mode value bytes := by
  simp only [encodeValue, hexid] at h
  obtain ⟨_, hwidth, h⟩ := bind_eq_ok.mp h
  rw [assertWidth_eq_ok] at hwidth
  obtain ⟨s, hvalue, hlength, hdecode⟩ := decode_encodeClassicTemporal h
  apply Decodes.of_full _ (hlength.trans hwidth.symm)
  · simp only [NormalForm, hexid]
    exact ⟨s, hvalue, rfl⟩
  · simp only [decodeValue, hexid, hdecode, ok_bind]

end Numbers

section Decimals

/-- A sign in front of zero is left out. -/
theorem packedText_sign (negative : Bool) {digits : Digits} {number : Nat}
    (h : digits.number = number) (decimals : Nat) :
    packedText (negative && number ≠ 0) digits decimals = packedText negative digits decimals := by
  have hzero : digits.stripZeros = [] ↔ digits.number = 0 := stripZeros_eq_nil_iff
  rw [h] at hzero
  simp only [packedText, ne_eq, hzero]
  cases negative <;> simp

theorem packedForm_encodePackedDecimal
    (h : encodePackedDecimal host fieldPath value field.internalLength field.decimals = .ok bytes) :
    bytes.length = field.internalLength ∧ ∃ s,
      PackedForm host field fieldPath value (.text s) ∧
      decodePackedDecimal fieldPath bytes field.decimals = .ok s := by
  obtain ⟨capacity, text, scaled, hgeometry, htext, htextLength, hscaled, hlength, hdecode⟩ :=
    decode_encodePackedDecimal h
  obtain ⟨hmin, hmax, hcapacity, hdecimals, -⟩ := geometry_eq_ok hgeometry
  obtain ⟨found, hfound, hnormal, hfits, hnegative, hnumber⟩ :=
    scaledDigits_eq_ok (by omega) (by omega) hdecimals htextLength hscaled
  refine ⟨hlength, _, ⟨text, found, scaled.1.number, htext, hfound, hnumber, rfl⟩, ?_⟩
  have hwidth : 2 * field.internalLength - 1 = capacity := by omega
  rw [hdecode, hwidth, hnormal.ofNat_number, hnegative, packedText_sign _ (Digits.number_pad _ _)]

theorem decodes_packed (hexid : field.exid = .packed)
    (h : encodeValue host field fieldPath value int8Mode = .ok bytes) :
    Decodes host field fieldPath int8Mode value bytes := by
  simp only [encodeValue, hexid] at h
  obtain ⟨hlength, s, hform, hdecode⟩ := packedForm_encodePackedDecimal h
  apply Decodes.of_full (.text s) hlength
  · simp only [NormalForm, hexid]
    exact hform
  · simp only [decodeValue, hexid, hdecode, ok_bind, projectClassicBcdOutput]

theorem decimalForm_encode {format : DecimalFloatFormat}
    (hplain : ∀ text, decimalFloatText host fieldPath value = .ok text → ¬LongS text)
    (h : encodeDecimalFloatValue host fieldPath format value = .ok bytes) :
    bytes.length = format.byteLength ∧ ∃ s, DecimalForm host fieldPath format value (.text s) ∧
      DecimalFloat.decodeDecimalFloat format fieldPath bytes = .ok s := by
  obtain ⟨text, htext, h⟩ := bind_eq_ok.mp h
  obtain ⟨canonical, hcanonical, h⟩ := bind_eq_ok.mp h
  obtain rfl := Except.ok.inj h
  obtain ⟨hvalid, meaning, hmeaning, hsame⟩ := DecimalFloat.meaning_parseDecimal hcanonical
  obtain ⟨-, hdecode, hlength⟩ := DecimalFloat.text_round_trip fieldPath hvalid
  refine ⟨hlength.1, canonical.text, ⟨text, canonical, meaning, htext, hcanonical, hmeaning, ?_, rfl⟩,
    hdecode⟩
  rw [DecimalFloat.meaning_text hvalid, hsame.mpr (hplain text htext)]

theorem decodes_decf16 (hexid : field.exid = .decf16)
    (hplain : SpelledPlainly host field fieldPath value)
    (h : encodeValue host field fieldPath value int8Mode = .ok bytes) :
    Decodes host field fieldPath int8Mode value bytes := by
  simp only [encodeValue, hexid] at h
  obtain ⟨_, hwidth, h⟩ := bind_eq_ok.mp h
  rw [assertWidth_eq_ok] at hwidth
  obtain ⟨hlength, s, hform, hdecode⟩ := decimalForm_encode (hplain (.inl hexid)) h
  apply Decodes.of_full (.text s) (hlength.trans hwidth.symm)
  · simp only [NormalForm, hexid]
    exact hform
  · simp only [decodeValue, hexid, hdecode, ok_bind, projectClassicBcdOutput]

theorem decodes_decf34 (hexid : field.exid = .decf34)
    (hplain : SpelledPlainly host field fieldPath value)
    (h : encodeValue host field fieldPath value int8Mode = .ok bytes) :
    Decodes host field fieldPath int8Mode value bytes := by
  simp only [encodeValue, hexid] at h
  obtain ⟨_, hwidth, h⟩ := bind_eq_ok.mp h
  rw [assertWidth_eq_ok] at hwidth
  obtain ⟨hlength, s, hform, hdecode⟩ := decimalForm_encode (hplain (.inr hexid)) h
  apply Decodes.of_full (.text s) (hlength.trans hwidth.symm)
  · simp only [NormalForm, hexid]
    exact hform
  · simp only [decodeValue, hexid, hdecode, ok_bind, projectClassicBcdOutput]

end Decimals

/-- Whatever has been encoded for a field is decoded to its normal form. -/
theorem decodes_of_encodeValue (hplain : SpelledPlainly host field fieldPath value)
    (h : encodeValue host field fieldPath value int8Mode = .ok bytes) :
    Decodes host field fieldPath int8Mode value bytes := by
  cases hexid : field.exid with
  | char => exact decodes_char hexid h
  | numc => exact decodes_numc hexid h
  | date => exact decodes_date hexid h
  | time => exact decodes_time hexid h
  | raw => exact decodes_raw hexid h
  | float => exact decodes_float hexid h
  | int4 => exact decodes_int4 hexid h
  | int2 => exact decodes_int2 hexid h
  | int1 => exact decodes_int1 hexid h
  | int8 => exact decodes_int8 hexid h
  | packed => exact decodes_packed hexid h
  | decf16 => exact decodes_decf16 hexid hplain h
  | decf34 => exact decodes_decf34 hexid hplain h
  | temporal exid => exact decodes_temporal hexid h
  | string | xstring | flatStructure | deepStructure | table | other code =>
      simp only [encodeValue, hexid] at h
      exact absurd h nofun

end Fields

section Layout
variable {host : Host} {definition : RfcStructureDefinition} {input : RfcRecord}
  {int8Mode : ClassicInt8Mode} {fields : List RfcStructureField}

/-- The values of the fields are spelled plainly. -/
def InputPlain (host : Host) (definition : RfcStructureDefinition) (input : RfcRecord) : Prop :=
  ∀ field ∈ definition.fields, ∀ value, input.lookup field.fieldName = some value →
    SpelledPlainly host field (path definition field) value

/-- What is written for a field depends on the value of the field alone. -/
def FieldWritten (host : Host) (definition : RfcStructureDefinition) (input : RfcRecord)
    (int8Mode : ClassicInt8Mode) (bytes : Bytes) (field : RfcStructureField) : Prop :=
  ∃ value encoded, fieldValue definition field input int8Mode = .ok value ∧
    encodeValue host field (path definition field) value int8Mode = .ok encoded ∧
    bytes.slice field.offset field.internalLength =
      encoded ++ Bytes.alloc (field.internalLength - encoded.length)

/-- The gap is filled from the end of the field up to the next one. -/
theorem fillGap_eq_ok {field : RfcStructureField} {nextOffset : Nat} {target filled : Bytes}
    (hstart : field.byteEnd ≤ nextOffset) (hend : nextOffset ≤ target.length)
    (hzeros : target.drop field.byteEnd = Bytes.alloc (target.length - field.byteEnd))
    (h : fillGap definition field nextOffset target = .ok filled) :
    filled.length = target.length ∧ filled.take field.byteEnd = target.take field.byteEnd ∧
      filled.drop nextOffset = Bytes.alloc (target.length - nextOffset) := by
  have hrest : target.drop nextOffset = Bytes.alloc (target.length - nextOffset) := by
    have hdrop := congrArg (List.drop (nextOffset - field.byteEnd)) hzeros
    rw [List.drop_drop, Bytes.alloc, List.drop_replicate] at hdrop
    rw [Bytes.alloc]
    convert hdrop using 2 <;> omega
  rw [fillGap] at h
  split at h
  · obtain ⟨_, heven, h⟩ := bind_eq_ok.mp h
    rw [require_eq_ok] at heven
    obtain rfl := Except.ok.inj h
    have hlength : (JsString.utf16le (List.replicate ((nextOffset - field.byteEnd) / 2)
        (if field.exid = .char then 0x20 else 0x30))).length = nextOffset - field.byteEnd := by
      rw [JsString.length_utf16le, List.length_replicate]
      omega
    have hfits : field.byteEnd + (JsString.utf16le (List.replicate ((nextOffset - field.byteEnd) / 2)
        (if field.exid = .char then 0x20 else 0x30))).length ≤ target.length := by
      omega
    exact ⟨Bytes.length_write hfits, Bytes.take_write hfits le_rfl,
      (Bytes.drop_write hfits (by omega)).trans hrest⟩
  · obtain rfl := Except.ok.inj h
    exact ⟨rfl, rfl, hrest⟩

/-- The initial value of a decimal number is spelled plainly. -/
theorem spelledPlainly_fieldValue {field : RfcStructureField} {value : RfcValue}
    (hfield : field ∈ definition.fields) (hplain : InputPlain host definition input)
    (h : fieldValue definition field input int8Mode = .ok value) :
    SpelledPlainly host field (path definition field) value := by
  rw [fieldValue] at h
  split at h
  · rename_i supplied hsupplied
    obtain rfl := Except.ok.inj h
    exact hplain field hfield supplied hsupplied
  · intro hexid text htext
    have hzero : value = .text [0x30] := by
      obtain hexid | hexid := hexid <;> simp only [initialValue, hexid, Except.ok.injEq] at h <;>
        exact h.symm
    rw [hzero, decimalFloatText, Except.ok.injEq] at htext
    rw [← htext]
    decide

/-- One field is written behind what is there already, and the rest behind it. -/
theorem encodeFields_eq_ok {previousEnd : Nat} {target bytes : Bytes}
    (hplain : InputPlain host definition input) (hmem : ∀ field ∈ fields, field ∈ definition.fields)
    (hconsecutive : Consecutive definition.byteLength previousEnd fields)
    (hlength : target.length = definition.byteLength)
    (hzeros : target.drop previousEnd = Bytes.alloc (target.length - previousEnd))
    (h : encodeFields host definition input int8Mode fields target = .ok bytes) :
    bytes.length = definition.byteLength ∧ bytes.take previousEnd = target.take previousEnd ∧
      ∀ field ∈ fields, FieldWritten host definition input int8Mode bytes field := by
  induction fields generalizing previousEnd target with
  | nil =>
      obtain rfl := Except.ok.inj h
      exact ⟨hlength, rfl, nofun⟩
  | cons field fields ih =>
      obtain ⟨value, hvalue, h⟩ := bind_eq_ok.mp h
      obtain ⟨written, hwritten, h⟩ := bind_eq_ok.mp h
      obtain ⟨encoded, hencoded, hwritten⟩ := bind_eq_ok.mp hwritten
      obtain rfl := Except.ok.inj hwritten
      obtain ⟨filled, hfilled, h⟩ := bind_eq_ok.mp h
      obtain ⟨hstart, hend, hrest⟩ := hconsecutive
      have hfield : field ∈ definition.fields := hmem field List.mem_cons_self
      obtain ⟨hshort, -⟩ := decodes_of_encodeValue
        (spelledPlainly_fieldValue hfield hplain hvalue) hencoded
      rw [RfcStructureField.byteEnd] at hend
      have hfits : field.offset + encoded.length ≤ target.length := by omega
      have hdrop {count : Nat} (hcount : previousEnd ≤ count) :
          target.drop count = Bytes.alloc (target.length - count) := by
        have hdrop := congrArg (List.drop (count - previousEnd)) hzeros
        rw [List.drop_drop, Bytes.alloc, List.drop_replicate] at hdrop
        rw [Bytes.alloc]
        convert hdrop using 2 <;> omega
      generalize hnext : (fields.head?.map (·.offset)).getD definition.byteLength = nextOffset at h hfilled
      have hbounds : field.byteEnd ≤ nextOffset ∧ nextOffset ≤ definition.byteLength ∧
          Consecutive definition.byteLength nextOffset fields := by
        cases fields with
        | nil =>
            obtain rfl : definition.byteLength = nextOffset := hnext
            exact ⟨hend, le_rfl, trivial⟩
        | cons next fields =>
            obtain rfl : next.offset = nextOffset := hnext
            obtain ⟨hnextStart, hnextEnd, hnextRest⟩ := hrest
            refine ⟨hnextStart, ?_, le_rfl, hnextEnd, hnextRest⟩
            rw [RfcStructureField.byteEnd] at hnextEnd
            omega
      obtain ⟨hnextStart, hnextEnd, hnextRest⟩ := hbounds
      have hwrittenLength := Bytes.length_write hfits
      have hwrittenZeros : (target.write field.offset encoded).drop field.byteEnd =
          Bytes.alloc ((target.write field.offset encoded).length - field.byteEnd) := by
        have hbyteEnd : field.offset + encoded.length ≤ field.byteEnd := Nat.add_le_add_left hshort _
        rw [Bytes.drop_write hfits hbyteEnd, hwrittenLength]
        exact hdrop (by omega)
      obtain ⟨hfilledLength, hfilledTake, hfilledZeros⟩ :=
        fillGap_eq_ok hnextStart (by omega) hwrittenZeros hfilled
      obtain ⟨hbytesLength, hbytesTake, hfields⟩ := ih
        (fun other hother => hmem other (List.mem_cons_of_mem _ hother)) hnextRest (by omega)
        (by rw [hfilledZeros, hfilledLength]) h
      have hupTo {count : Nat} (hcount : count ≤ field.byteEnd) :
          bytes.take count = (target.write field.offset encoded).take count := by
        have h₁ := congrArg (List.take count) hbytesTake
        have h₂ := congrArg (List.take count) hfilledTake
        rw [List.take_take, List.take_take, Nat.min_eq_left (by omega)] at h₁ h₂
        exact h₁.trans h₂
      refine ⟨hbytesLength, ?_, ?_⟩
      · have hbefore : previousEnd ≤ field.byteEnd := by
          rw [RfcStructureField.byteEnd]
          omega
        rw [hupTo hbefore, Bytes.take_write hfits hstart]
      · intro other hother
        rcases List.mem_cons.mp hother with rfl | hother
        · refine ⟨value, encoded, hvalue, hencoded, ?_⟩
          rw [← Bytes.slice_take (le_refl _), ← RfcStructureField.byteEnd, hupTo le_rfl,
            RfcStructureField.byteEnd, Bytes.slice_take (le_refl _)]
          exact Bytes.slice_write hfits (hdrop hstart) hshort (by omega)
        · exact hfields other hother

/-- A record with the normal form of the value of every field, in the order of the fields. -/
def RecordForm (host : Host) (definition : RfcStructureDefinition) (int8Mode : ClassicInt8Mode)
    (input output : RfcRecord) : Prop :=
  List.Forall₂ (fun field entry => entry.1 = field.fieldName ∧
    ∃ value, fieldValue definition field input int8Mode = .ok value ∧
      NormalForm host field (path definition field) int8Mode value entry.2) definition.fields output

theorem decodeFields_eq_ok {bytes : Bytes} (hplain : InputPlain host definition input)
    (hmem : ∀ field ∈ fields, field ∈ definition.fields)
    (hwritten : ∀ field ∈ fields, FieldWritten host definition input int8Mode bytes field) :
    ∃ output, decodeFields definition bytes int8Mode .string fields = .ok output ∧
      List.Forall₂ (fun field entry => entry.1 = field.fieldName ∧
        ∃ value, fieldValue definition field input int8Mode = .ok value ∧
          NormalForm host field (path definition field) int8Mode value entry.2) fields output := by
  induction fields with
  | nil => exact ⟨[], rfl, .nil⟩
  | cons field fields ih =>
      obtain ⟨hfield, hfields⟩ := List.forall_mem_cons.mp hmem
      obtain ⟨⟨value, encoded, hvalue, hencoded, hslice⟩, hrest⟩ := List.forall_mem_cons.mp hwritten
      obtain ⟨-, out, hform, hdecode⟩ := decodes_of_encodeValue
        (spelledPlainly_fieldValue hfield hplain hvalue) hencoded
      obtain ⟨output, houtput, hforms⟩ := ih hfields hrest
      refine ⟨(field.fieldName, out) :: output, ?_, .cons ⟨rfl, value, hvalue, hform⟩ hforms⟩
      rw [decodeFields, readValue, hslice, hdecode, ok_bind, houtput, ok_bind]

/-- Two records with the same value for a field are encoded with the same bytes for it. -/
theorem FieldWritten.slice_eq {input' : RfcRecord} {bytes bytes' : Bytes} {field : RfcStructureField}
    (h : FieldWritten host definition input int8Mode bytes field)
    (h' : FieldWritten host definition input' int8Mode bytes' field)
    (hsame : fieldValue definition field input int8Mode = fieldValue definition field input' int8Mode) :
    bytes.slice field.offset field.internalLength = bytes'.slice field.offset field.internalLength := by
  obtain ⟨value, encoded, hvalue, hencoded, hslice⟩ := h
  obtain ⟨value', encoded', hvalue', hencoded', hslice'⟩ := h'
  rw [hsame, hvalue'] at hvalue
  obtain rfl := Except.ok.inj hvalue
  rw [hencoded'] at hencoded
  obtain rfl := Except.ok.inj hencoded
  rw [hslice, hslice']

theorem encodeClassicStructure_eq_ok {bytes : Bytes}
    (h : encodeClassicStructure host definition input int8Mode = .ok bytes) :
    validateClassicStructureCodec definition host none = .ok definition ∧
      assertFixedStructure host definition = .ok () ∧ Validated host definition ∧
      encodeFields host definition input int8Mode definition.fields
        (Bytes.alloc definition.byteLength) = .ok bytes := by
  obtain ⟨normalized, hvalidate, hrest⟩ := bind_eq_ok.mp h
  obtain ⟨rfl, hvalidated⟩ := validate_eq_ok hvalidate
  obtain ⟨⟨⟩, hfixed, hfields⟩ := bind_eq_ok.mp hrest
  split at hfields
  · exact absurd hfields nofun
  · exact ⟨hvalidate, hfixed, hvalidated, hfields⟩

theorem fieldWritten_of_encode {bytes : Bytes} (hplain : InputPlain host definition input)
    (h : encodeClassicStructure host definition input int8Mode = .ok bytes) :
    bytes.length = definition.byteLength ∧
      ∀ field ∈ definition.fields, FieldWritten host definition input int8Mode bytes field := by
  obtain ⟨-, -, hvalidated, hfields⟩ := encodeClassicStructure_eq_ok h
  have hzeros : (Bytes.alloc definition.byteLength).drop 0 =
      Bytes.alloc ((Bytes.alloc definition.byteLength).length - 0) := by
    simp
  obtain ⟨hlength, -, hwritten⟩ := encodeFields_eq_ok hplain (fun _ h => h) hvalidated.consecutive
    (Bytes.length_alloc _) hzeros hfields
  exact ⟨hlength, hwritten⟩

/-- An encoded structure has the declared length, is decoded to the normal form of the record, and
holds for every field what the value of that field alone is encoded to. -/
theorem structure_round_trip (host : Host) (definition : RfcStructureDefinition)
    (int8Mode : ClassicInt8Mode) (input : RfcRecord) (bytes : Bytes)
    (hplain : InputPlain host definition input)
    (h : encodeClassicStructure host definition input int8Mode = .ok bytes) :
    bytes.length = definition.byteLength ∧
      (∃ output, decodeClassicStructure host definition bytes int8Mode .string = .ok output ∧
        RecordForm host definition int8Mode input output) ∧
      (∀ field ∈ definition.fields, FieldWritten host definition input int8Mode bytes field) ∧
      ∀ input' bytes', InputPlain host definition input' →
        encodeClassicStructure host definition input' int8Mode = .ok bytes' →
        ∀ field ∈ definition.fields,
          fieldValue definition field input int8Mode = fieldValue definition field input' int8Mode →
          bytes.slice field.offset field.internalLength =
            bytes'.slice field.offset field.internalLength := by
  obtain ⟨hlength, hwritten⟩ := fieldWritten_of_encode hplain h
  obtain ⟨hvalidate, hfixed, -, -⟩ := encodeClassicStructure_eq_ok h
  obtain ⟨output, houtput, hforms⟩ := decodeFields_eq_ok hplain (fun _ h => h) hwritten
  refine ⟨hlength, ⟨output, ?_, hforms⟩, hwritten, ?_⟩
  · rw [decodeClassicStructure, hvalidate, ok_bind, hfixed, ok_bind, require_of hlength, ok_bind,
      houtput]
  · intro input' bytes' hplain' h' field hfield hsame
    exact (hwritten field hfield).slice_eq ((fieldWritten_of_encode hplain' h').2 field hfield) hsame

/-- A runtime for records without numbers which are written as decimals. -/
def plainHost : Host where
  numberText d := Numeral.intText (d.safeInteger?.getD 0)
  objectText _ := none

/-- A structure `S` of a character `C`, a gap, and a number `I`. -/
def sampleStructure : RfcStructureDefinition :=
  ⟨[0x53], 8, [⟨[0x53], [0x43], 1, 0, 2, 0, .char⟩, ⟨[0x53], [0x49], 2, 4, 4, 0, .int4⟩]⟩

theorem structure_round_trip_sample :
    ∃ bytes, bytes.length = 8 ∧
      ∃ output, decodeClassicStructure plainHost sampleStructure bytes .bigint .string = .ok output ∧
        RecordForm plainHost sampleStructure .bigint [([0x43], .text [0x41])] output := by
  have hplain : InputPlain plainHost sampleStructure [([0x43], .text [0x41])] := by
    intro field hfield value _ hexid
    simp only [sampleStructure, List.mem_cons, List.not_mem_nil, or_false] at hfield
    obtain rfl | rfl := hfield <;> simp at hexid
  have hencode : encodeClassicStructure plainHost sampleStructure [([0x43], .text [0x41])] .bigint =
      .ok [0x41, 0, 0x20, 0, 0, 0, 0, 0] := by
    decide +kernel
  obtain ⟨hlength, houtput, -⟩ := structure_round_trip plainHost sampleStructure .bigint _ _ hplain hencode
  exact ⟨_, hlength, houtput⟩

/-- A structure `S` of one INT8. -/
def int8Structure : RfcStructureDefinition := ⟨[0x53], 8, [⟨[0x53], [0x4c], 1, 0, 8, 0, .int8⟩]⟩

/-- The number five comes back as a bigint, and is no longer what has been supplied. -/
theorem int8_number_changed :
    ∃ bytes, encodeClassicStructure plainHost int8Structure [([0x4c], .number (Double.ofInt 5))] .bigint =
        .ok bytes ∧
      decodeClassicStructure plainHost int8Structure bytes .bigint .string =
        .ok [([0x4c], .bigint 5)] ∧
      RfcValue.bigint 5 ≠ .number (Double.ofInt 5) := by
  have hvalidate : validateClassicStructureCodec int8Structure plainHost none = .ok int8Structure := by
    decide +kernel
  have hfixed : assertFixedStructure plainHost int8Structure = .ok () := by
    decide +kernel
  refine ⟨[5, 0, 0, 0, 0, 0, 0, 0], by decide +kernel, ?_, nofun⟩
  rw [decodeClassicStructure, hvalidate, ok_bind, hfixed, ok_bind, require_of (by decide), ok_bind]
  have hslice : Bytes.signedLittleNumber (Bytes.slice [5, 0, 0, 0, 0, 0, 0, 0] 0 8) = 5 := by
    decide +kernel
  have hint8 (path : String) : decodeClassicInt8 5 .bigint path = .ok (int8Value .bigint 5) := by
    apply decodeClassicInt8_eq <;> decide
  simp only [int8Structure, decodeFields, readValue, decodeValue, assertWidth, require_of, ok_bind,
    hslice, hint8, int8Value]

end Layout
end OpenRfc.Classic
