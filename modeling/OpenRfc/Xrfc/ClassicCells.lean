import OpenRfc.Classic.StructureRoundTrip
import OpenRfc.Xrfc.ClassicParameter
import OpenRfc.Xrfc.MarkupFidelity

/-!
The cells of flat parameters. The text of a cell is read as the normal form of its value, and the
reader stays within the limits which the writer has checked.
-/

namespace OpenRfc.Xrfc
open Fallible Values
open Classic (RfcStructureDefinition RfcStructureField path characterLength int4Min int4Max
  PackedForm IntegerForm)

section Separated
variable {separator : UInt16}

theorem isDigits_iff {count : Nat} {s : JsString} :
    isDigits count s = true ↔ s.length = count ∧ ∀ unit ∈ s, (Numeral.digitOf? unit).isSome = true := by
  simp [isDigits]

/-- Separated digits have their separators, and nothing else which is no digit. -/
theorem isSeparated_separated (hseparator : Numeral.digitOf? separator = none) {widths : List Nat}
    {s : JsString} (h : isDigits widths.sum s = true) :
    isSeparated separator widths (separated separator widths s) = true ∧
      (separated separator widths s).filter (· ≠ separator) = s := by
  induction widths generalizing s with
  | nil =>
      have hnil := List.length_eq_zero_iff.mp (isDigits_iff.mp h).1
      subst hnil
      exact ⟨rfl, rfl⟩
  | cons width widths ih =>
      have hkeep {t : JsString} (ht : ∀ unit ∈ t, (Numeral.digitOf? unit).isSome = true) :
          t.filter (· ≠ separator) = t := by
        rw [List.filter_eq_self]
        intro unit hunit
        refine decide_eq_true ?_
        rintro rfl
        have hsome := ht unit hunit
        rw [hseparator] at hsome
        exact absurd hsome nofun
      obtain ⟨hlength, hdigits⟩ := isDigits_iff.mp h
      cases widths with
      | nil =>
          rw [List.sum_singleton] at h
          exact ⟨h, hkeep hdigits⟩
      | cons width' widths =>
          rw [List.sum_cons] at hlength
          have hfront : ∀ unit ∈ s.take width, (Numeral.digitOf? unit).isSome = true :=
            fun unit hunit => hdigits unit (List.mem_of_mem_take hunit)
          have hrest : isDigits (width' :: widths).sum (s.drop width) = true := by
            refine isDigits_iff.mpr ⟨?_, fun unit hunit => hdigits unit (List.mem_of_mem_drop hunit)⟩
            rw [List.length_drop]
            omega
          obtain ⟨hseparated, hfilter⟩ := ih hrest
          have hwidth : (s.take width).length = width := by
            rw [List.length_take]
            omega
          rw [separated]
          · constructor
            · rw [isSeparated, List.take_left' hwidth, List.drop_left' hwidth]
              · have hnext : (s.take width ++ separator ::
                    separated separator (width' :: widths) (s.drop width)).drop (width + 1) =
                    separated separator (width' :: widths) (s.drop width) := by
                  rw [List.drop_append, List.drop_eq_nil_of_le (by omega), hwidth, List.nil_append,
                    Nat.add_sub_cancel_left, List.drop_succ_cons, List.drop_zero]
                rw [hnext, hseparated, isDigits_iff.mpr ⟨hwidth, hfront⟩]
                simp
              · exact nofun
            · have hself : ([separator] : JsString).filter (· ≠ separator) = [] := by simp
              rw [List.filter_append, hkeep hfront, ← List.singleton_append, List.filter_append, hself,
                List.nil_append, hfilter, List.take_append_drop]
          · exact nofun

end Separated

section NormalForm
variable (host : Host) (numberOf : JsString → Double) (definition : RfcStructureDefinition)
  (field : RfcStructureField) (path : String) (int8Mode : ClassicInt8Mode) (bcd : ClassicBcdMode)

/-- What a value of a cell becomes, before decimals are projected. -/
def CellForm (value out : RfcValue) : Prop :=
  match field.exid with
  | .int4 => IntegerForm value out
  | .char | .string => ∃ s, value = .text s ∧ out = .text s
  | .numc =>
    ∃ s, value = .text s ∧
      out = .text (List.replicate (field.internalLength / 2 - s.length) 0x30 ++ s)
  | .date => ∃ s, value = .text s ∧ out = .text (if s = blanks 8 then [] else s)
  | .time => ∃ s, value = .text s ∧ out = .text (if s = blanks 6 then [] else s)
  | .raw =>
    ∃ bytes, value = .bytes bytes ∧
      out = .bytes (bytes ++ Bytes.alloc (field.internalLength - bytes.length))
  | .xstring => ∃ bytes, value = .bytes bytes ∧ out = .bytes bytes
  | .packed => PackedForm host field path value out
  | .float => ∃ d, value = .number d ∧ out = .number (numberOf (floatText host d))
  | .int8 => ∃ n, value.integer? = some n ∧ out = int8Value int8Mode n
  | _ => False

/-- A packed decimal in the representation of the mode. -/
def projectCell (out : RfcValue) : Except String RfcValue :=
  match field.exid, out with
  | .packed, .text s => projectClassicBcdOutput s bcd
  | _, out => .ok out

/-- The text of a number is a number, and is read as a finite one. -/
def ReadsFloats : Prop :=
  ∀ d : Double, d.isFinite = true →
    isFiniteFloatLexical (floatText host d) = true ∧ (numberOf (floatText host d)).isFinite = true

end NormalForm

section Cells
variable {host : Host} {numberOf : JsString → Double} {definition : RfcStructureDefinition}
  {field : RfcStructureField} {path : String} {int8Mode : ClassicInt8Mode} {bcd : ClassicBcdMode}
  {limits : NormalizedClassicXrfcLimits} {value : RfcValue} {text : JsString}

/-- The text of a cell is read as a value in normal form. No more bytes are projected than the markup
of the text has. -/
def Reads (host : Host) (numberOf : JsString → Double) (field : RfcStructureField)
    (limits : NormalizedClassicXrfcLimits) (int8Mode : ClassicInt8Mode) (bcd : ClassicBcdMode)
    (path : String) (value : RfcValue) (text : JsString) : Prop :=
  ∃ out, CellForm host numberOf field path int8Mode value out ∧
    ∀ projected, projected + (escape text).utf8.length ≤ limits.maxParameterBytes →
      ∃ consumed, consumed ≤ (escape text).utf8.length ∧
        decodeCell host numberOf field limits int8Mode bcd path text projected =
          (projectCell field bcd out).map fun value => (value, projected + consumed)

/-- A cell which projects no bytes. -/
theorem Reads.of_plain (out : RfcValue)
    (hform : CellForm host numberOf field path int8Mode value out)
    (hdecode : ∀ projected, decodeCell host numberOf field limits int8Mode bcd path text projected =
      (projectCell field bcd out).map fun value => (value, projected)) :
    Reads host numberOf field limits int8Mode bcd path value text :=
  ⟨out, hform, fun projected _ => ⟨0, Nat.zero_le _, hdecode projected⟩⟩

theorem reads_int4 (hexid : field.exid = .int4) (h : integerCell path value = .ok text) :
    Reads host numberOf field limits int8Mode bcd path value text := by
  obtain ⟨n, hn, h⟩ := bind_eq_ok.mp h
  obtain rfl := Except.ok.inj h
  obtain ⟨hmin, hmax, d, rfl, hsafe⟩ := integer_eq_ok hn
  apply Reads.of_plain (.number d.withoutZeroSign)
  · simp only [CellForm, hexid]
    exact ⟨d, rfl, rfl⟩
  · intro projected
    simp only [decodeCell, hexid, canonicalInteger_intText, hmin, hmax, and_self, if_true,
      projectCell, Double.ofInt_safeInteger hsafe]
    rfl

theorem reads_char (hexid : field.exid = .char) {s : JsString} (hformed : s.isWellFormed = true)
    {capacity : Nat} (hcapacity : characterLength field path = .ok capacity)
    (hfits : s.length ≤ capacity) :
    Reads host numberOf field limits int8Mode bcd path (.text s) s := by
  apply Reads.of_plain (.text s)
  · simp only [CellForm, hexid]
    exact ⟨s, rfl, rfl⟩
  · intro projected
    have hchecked : assertUnicodeScalarText s path = .ok () := assertUnicodeScalarText_eq_ok.mpr hformed
    simp only [decodeCell, hexid, hchecked, ok_bind, hcapacity, require_of hfits, projectCell]
    rfl

theorem reads_string (hexid : field.exid = .string) {s : JsString} (hformed : s.isWellFormed = true)
    (hnul : 0 ∉ s) : Reads host numberOf field limits int8Mode bcd path (.text s) s := by
  apply Reads.of_plain (.text s)
  · simp only [CellForm, hexid]
    exact ⟨s, rfl, rfl⟩
  · intro projected
    have hchecked : assertUnicodeScalarText s path = .ok () := assertUnicodeScalarText_eq_ok.mpr hformed
    simp only [decodeCell, hexid, hchecked, ok_bind, require_of hnul, projectCell]
    rfl

theorem consumeClassicXrfcDecodedBytes_of {projected count : Nat}
    (hsafe : limits.maxParameterBytes ≤ Double.maxSafeInteger) (hcell : count ≤ limits.maxCellBytes)
    (h : projected + count ≤ limits.maxParameterBytes) :
    consumeClassicXrfcDecodedBytes limits projected count path = .ok (projected + count) := by
  rw [consumeClassicXrfcDecodedBytes, require_of hcell, ok_bind, checkedClassicXrfcLength,
    require_of (h.trans hsafe), ok_bind, ok_bind, require_of h, ok_bind]

theorem plain_of_digits {s : JsString} (h : ∀ unit ∈ s, (Numeral.digitOf? unit).isSome = true) :
    ∀ unit ∈ s, unit < 0x80 ∧ 0x20 ≤ unit ∧ unit ≠ 0x26 ∧ unit ≠ 0x3c ∧ unit ≠ 0x3e := by
  intro unit hunit
  have hsome := h unit hunit
  rw [Numeral.digitOf?] at hsome
  split at hsome
  · grind
  · cases hsome

theorem length_utf8_escape_of_digits {s : JsString}
    (h : ∀ unit ∈ s, (Numeral.digitOf? unit).isSome = true) : (escape s).utf8.length = s.length := by
  have hplain := plain_of_digits h
  rw [escape_of_plain hplain, JsString.utf8_of_ascii fun unit hunit => (hplain unit hunit).1,
    List.length_map]

theorem reads_numc (hexid : field.exid = .numc)
    (hsafe : limits.maxParameterBytes ≤ Double.maxSafeInteger) {s : JsString}
    (hdigits : isDigits s.length s = true) {capacity : Nat}
    (hcapacity : characterLength field path = .ok capacity) (hfits : s.length ≤ capacity)
    (hcell : capacity ≤ limits.maxCellBytes) :
    Reads host numberOf field limits int8Mode bcd path (.text s)
      (List.replicate (capacity - s.length) 0x30 ++ s) := by
  have hhalf : field.internalLength / 2 = capacity := by
    simp only [characterLength, bind_eq_ok, require_eq_ok, exists_const, Except.ok.injEq] at hcapacity
    exact hcapacity.2
  have hpadded : ∀ unit ∈ List.replicate (capacity - s.length) 0x30 ++ s,
      (Numeral.digitOf? unit).isSome = true := by
    intro unit hunit
    rcases List.mem_append.mp hunit with hunit | hunit
    · rw [List.eq_of_mem_replicate hunit]
      rfl
    · exact (isDigits_iff.mp hdigits).2 unit hunit
  have hlength : (List.replicate (capacity - s.length) 0x30 ++ s).length = capacity := by
    rw [List.length_append, List.length_replicate]
    omega
  have hbytes := length_utf8_escape_of_digits hpadded
  refine ⟨.text (List.replicate (capacity - s.length) 0x30 ++ s), ?_, ?_⟩
  · simp only [CellForm, hexid, hhalf]
    exact ⟨s, rfl, rfl⟩
  · intro projected hprojected
    generalize List.replicate (capacity - s.length) 0x30 ++ s = padded at *
    have hpad : List.replicate (capacity - padded.length) 0x30 ++ padded = padded := by
      rw [hlength, Nat.sub_self]
      rfl
    have hconsume : consumeClassicXrfcDecodedBytes limits projected capacity path =
        .ok (projected + capacity) :=
      consumeClassicXrfcDecodedBytes_of hsafe hcell (by omega)
    refine ⟨capacity, by omega, ?_⟩
    simp only [decodeCell, hexid, hcapacity, ok_bind,
      require_of (And.intro (isDigits_iff.mpr ⟨rfl, hpadded⟩) hlength.le), hconsume, hpad, projectCell]
    rfl

theorem separated_ne_nil {separator : UInt16} {widths : List Nat} (h : 2 ≤ widths.length)
    (s : JsString) : separated separator widths s ≠ [] := by
  match widths, h with
  | _ :: _ :: _, _ =>
      rw [separated]
      · simp
      · exact nofun

/-- A date or a time which is not blank is put together again from its groups. -/
theorem separated_classicText {separator : UInt16} (hseparator : Numeral.digitOf? separator = none)
    (widths : List Nat) (hgroups : 2 ≤ widths.length) {count : Nat} (hsum : widths.sum = count)
    {s : JsString} (hclassic : isClassicText count s = true) (hblank : ¬(s = [] ∨ s = blanks count)) :
    separated separator widths s ≠ [] ∧
      isSeparated separator widths (separated separator widths s) = true ∧
      (separated separator widths s).filter (· ≠ separator) = s := by
  rw [not_or] at hblank
  subst hsum
  have hdigits : isDigits widths.sum s = true := by
    simp only [isClassicText, hblank.1, hblank.2, decide_false, Bool.or_false] at hclassic
    exact hclassic
  exact ⟨separated_ne_nil hgroups s, isSeparated_separated hseparator hdigits⟩

theorem reads_date (hexid : field.exid = .date) (htext : canonicalDateText path value = .ok text) :
    Reads host numberOf field limits int8Mode bcd path value text := by
  obtain ⟨s, hs, h⟩ := bind_eq_ok.mp htext
  obtain ⟨rfl, hclassic⟩ := assertClassicText_eq_ok.mp hs
  obtain rfl := Except.ok.inj h
  apply Reads.of_plain (.text (if s = blanks 8 then [] else s))
  · simp only [CellForm, hexid]
    exact ⟨s, rfl, rfl⟩
  · intro projected
    simp only [decodeCell, hexid, projectCell]
    split
    · rename_i hblank
      have hout : (if s = blanks 8 then [] else s) = [] := by
        obtain rfl | rfl := hblank <;> rfl
      rw [if_pos rfl, hout]
      rfl
    · rename_i hblank
      have hseparator : Numeral.digitOf? dash = none := by decide
      obtain ⟨hne, hseparated, hfilter⟩ := separated_classicText hseparator dateWidths (by decide) rfl
        hclassic hblank
      rw [if_neg hne, require_of hseparated, ok_bind, hfilter, hs, ok_bind,
        if_neg (not_or.mp hblank).2]
      rfl

theorem reads_time (hexid : field.exid = .time) (htext : canonicalTimeText path value = .ok text) :
    Reads host numberOf field limits int8Mode bcd path value text := by
  obtain ⟨s, hs, h⟩ := bind_eq_ok.mp htext
  obtain ⟨rfl, hclassic⟩ := assertClassicText_eq_ok.mp hs
  obtain rfl := Except.ok.inj h
  apply Reads.of_plain (.text (if s = blanks 6 then [] else s))
  · simp only [CellForm, hexid]
    exact ⟨s, rfl, rfl⟩
  · intro projected
    simp only [decodeCell, hexid, projectCell]
    split
    · rename_i hblank
      have hout : (if s = blanks 6 then [] else s) = [] := by
        obtain rfl | rfl := hblank <;> rfl
      rw [if_pos rfl, hout]
      rfl
    · rename_i hblank
      have hseparator : Numeral.digitOf? colon = none := by decide
      obtain ⟨hne, hseparated, hfilter⟩ := separated_classicText hseparator timeWidths (by decide) rfl
        hclassic hblank
      rw [if_neg hne, require_of hseparated, ok_bind, hfilter, hs, ok_bind,
        if_neg (not_or.mp hblank).2]
      rfl

theorem reads_packed (hexid : field.exid = .packed) {bytes : Bytes}
    (hbytes : encodePackedDecimal host path value field.internalLength field.decimals = .ok bytes)
    (htext : decodePackedDecimal path bytes field.decimals = .ok text) :
    Reads host numberOf field limits int8Mode bcd path value text := by
  obtain ⟨-, s, hform, hdecode⟩ := Classic.packedForm_encodePackedDecimal hbytes
  obtain rfl := Except.ok.inj (htext.symm.trans hdecode)
  obtain ⟨s, bytes', hdecode', hagain, hread⟩ := encodePackedDecimal_again hbytes
  obtain rfl := Except.ok.inj (htext.symm.trans hdecode')
  apply Reads.of_plain (.text text)
  · simp only [CellForm, hexid]
    exact hform
  · intro projected
    simp only [decodeCell, hexid, hagain, ok_bind, hread, projectCell]
    cases projectClassicBcdOutput text bcd with
    | error e => rfl
    | ok out => rfl

theorem reads_float (hexid : field.exid = .float) (hfloat : ReadsFloats host numberOf) {d : Double}
    (hfinite : d.isFinite = true) :
    Reads host numberOf field limits int8Mode bcd path (.number d) (floatText host d) := by
  obtain ⟨hlexical, hread⟩ := hfloat d hfinite
  apply Reads.of_plain (.number (numberOf (floatText host d)))
  · simp only [CellForm, hexid]
    exact ⟨d, rfl, rfl⟩
  · intro projected
    simp only [decodeCell, hexid, require_of hlexical, require_of hread, ok_bind, projectCell]
    rfl

theorem length_intText_int8 {n : Int} (hmin : int8Min ≤ n) (hmax : n ≤ int8Max) :
    (Numeral.intText n).length ≤ 20 := by
  have hlt : n.natAbs < 10 ^ 19 := by
    rw [int8Min] at hmin
    rw [int8Max] at hmax
    omega
  exact DecimalFloat.length_intText_le (by decide) hlt

theorem reads_int8 (hexid : field.exid = .int8) {n : Int}
    (hn : encodeClassicInt8 value int8Mode path = .ok n) :
    Reads host numberOf field limits int8Mode bcd path value (Numeral.intText n) := by
  obtain ⟨hmin, hmax, hvalue, hsafe, -⟩ := integer_of_encodeClassicInt8 hn
  apply Reads.of_plain (int8Value int8Mode n)
  · simp only [CellForm, hexid]
    exact ⟨n, hvalue, rfl⟩
  · intro projected
    simp only [decodeCell, hexid, length_intText_int8 hmin hmax, if_true, canonicalInteger_intText,
      decodeClassicInt8_eq hmin hmax hsafe, ok_bind, projectCell]
    rfl

/-- Base64 has more characters than bytes. -/
theorem length_le_utf8_encode (bytes : Bytes) :
    bytes.length ≤ (escape (Base64.encode bytes)).utf8.length := by
  rw [escape_encode, utf8_encode, List.length_map, Base64.length_encode]
  omega

theorem reads_raw (hexid : field.exid = .raw)
    (hsafe : limits.maxParameterBytes ≤ Double.maxSafeInteger) {bytes : Bytes}
    (hlength : bytes.length ≤ field.internalLength) (hcell : field.internalLength ≤ limits.maxCellBytes) :
    Reads host numberOf field limits int8Mode bcd path (.bytes bytes)
      (Base64.encode (bytes ++ Bytes.alloc (field.internalLength - bytes.length))) := by
  refine ⟨.bytes (bytes ++ Bytes.alloc (field.internalLength - bytes.length)), ?_, ?_⟩
  · simp only [CellForm, hexid]
    exact ⟨bytes, rfl, rfl⟩
  · intro projected hprojected
    have hwidth : (bytes ++ Bytes.alloc (field.internalLength - bytes.length)).length =
        field.internalLength := by
      rw [List.length_append, Bytes.length_alloc]
      omega
    generalize bytes ++ Bytes.alloc (field.internalLength - bytes.length) = padded at *
    have hle := length_le_utf8_encode padded
    have hconsume : consumeClassicXrfcDecodedBytes limits projected field.internalLength path =
        .ok (projected + field.internalLength) :=
      consumeClassicXrfcDecodedBytes_of hsafe hcell (by omega)
    refine ⟨field.internalLength, by omega, ?_⟩
    simp only [decodeCell, hexid, hconsume, ok_bind,
      decodeClassicXrfcBase64_encode padded (hwidth.trans_le hcell), require_of hwidth, projectCell]
    rfl

theorem reads_xstring (hexid : field.exid = .xstring)
    (hsafe : limits.maxParameterBytes ≤ Double.maxSafeInteger) {bytes : Bytes}
    (hcell : bytes.length ≤ limits.maxCellBytes) :
    Reads host numberOf field limits int8Mode bcd path (.bytes bytes) (Base64.encode bytes) := by
  refine ⟨.bytes bytes, ?_, ?_⟩
  · simp only [CellForm, hexid]
    exact ⟨bytes, rfl, rfl⟩
  · intro projected hprojected
    have hle := length_le_utf8_encode bytes
    have hconsume : consumeClassicXrfcDecodedBytes limits projected bytes.length path =
        .ok (projected + bytes.length) :=
      consumeClassicXrfcDecodedBytes_of hsafe hcell (by omega)
    refine ⟨bytes.length, hle, ?_⟩
    simp only [decodeCell, hexid, decodeClassicXrfcBase64_encode bytes hcell, ok_bind, hconsume,
      projectCell]
    rfl

/-- The text within the tags of a cell. -/
def PlannedCell.content : PlannedCell → JsString
  | .text _ value _ => value
  | .bytes _ value _ => Base64.encode value

/-- A cell has the planned length, which is within the limit of cells, and its text is read as the
value. -/
structure Planned (host : Host) (numberOf : JsString → Double) (field : RfcStructureField)
    (limits : NormalizedClassicXrfcLimits) (int8Mode : ClassicInt8Mode) (bcd : ClassicBcdMode)
    (path : String) (value : RfcValue) (cell : PlannedCell) : Prop where
  field_eq : cell.field = field
  xmlText : XmlText cell.content
  length_eq : cell.encodedByteLength = (escape cell.content).utf8.length
  length_le : cell.encodedByteLength ≤ limits.maxCellBytes
  reads : Reads host numberOf field limits int8Mode bcd path value cell.content

theorem plannedBytesCell_eq_ok {bytes : Bytes} {exactLength : Option Nat} {cell : PlannedCell}
    (h : plannedBytesCell field limits path bytes exactLength = .ok cell) :
    (∀ exact ∈ exactLength, bytes.length ≤ exact) ∧
      (exactLength.getD bytes.length + 2) / 3 * 4 ≤ limits.maxCellBytes ∧
      cell = .bytes field (bytes ++ Bytes.alloc (exactLength.getD bytes.length - bytes.length))
        ((exactLength.getD bytes.length + 2) / 3 * 4) := by
  simp only [plannedBytesCell, bind_eq_ok, require_eq_ok, exists_const, Except.ok.injEq] at h
  exact ⟨h.1, h.2.1.2.1, h.2.2.symm⟩

theorem length_utf8_escape_encode (bytes : Bytes) :
    (escape (Base64.encode bytes)).utf8.length = (bytes.length + 2) / 3 * 4 := by
  rw [escape_encode, utf8_encode, List.length_map, Base64.length_encode]

theorem planned_raw (hexid : field.exid = .raw)
    (hsafe : limits.maxParameterBytes ≤ Double.maxSafeInteger) {cell : PlannedCell}
    (h : planCell host field limits int8Mode path value = .ok cell) :
    Planned host numberOf field limits int8Mode bcd path value cell := by
  simp only [planCell, hexid] at h
  cases value with
  | bytes bytes =>
      obtain ⟨hexact, hcell, rfl⟩ := plannedBytesCell_eq_ok h
      have hlength : bytes.length ≤ field.internalLength := hexact _ rfl
      rw [Option.getD_some] at hcell ⊢
      have hwidth : (bytes ++ Bytes.alloc (field.internalLength - bytes.length)).length =
          field.internalLength := by
        rw [List.length_append, Bytes.length_alloc]
        omega
      refine ⟨rfl, xmlText_encode _, ?_, hcell, reads_raw hexid hsafe hlength (by omega)⟩
      rw [PlannedCell.content, length_utf8_escape_encode, hwidth]
      rfl
  | _ => cases h

theorem planned_xstring (hexid : field.exid = .xstring)
    (hsafe : limits.maxParameterBytes ≤ Double.maxSafeInteger) {cell : PlannedCell}
    (h : planCell host field limits int8Mode path value = .ok cell) :
    Planned host numberOf field limits int8Mode bcd path value cell := by
  simp only [planCell, hexid] at h
  cases value with
  | bytes bytes =>
      obtain ⟨-, hcell, rfl⟩ := plannedBytesCell_eq_ok h
      have hpad : bytes ++ Bytes.alloc (bytes.length - bytes.length) = bytes := by
        rw [Nat.sub_self]
        exact List.append_nil _
      rw [Option.getD_none, hpad] at *
      refine ⟨rfl, xmlText_encode _, ?_, hcell, reads_xstring hexid hsafe (by omega)⟩
      exact (length_utf8_escape_encode bytes).symm
  | _ => cases h

theorem reads_cellText (hsafe : limits.maxParameterBytes ≤ Double.maxSafeInteger)
    (hfloat : field.exid = .float → ReadsFloats host numberOf)
    (h : cellText host field limits int8Mode path value = .ok text) :
    Reads host numberOf field limits int8Mode bcd path value text := by
  cases hexid : field.exid with
  | int4 =>
      simp only [cellText, hexid] at h
      exact reads_int4 hexid h
  | char =>
      simp only [cellText, hexid] at h
      cases value with
      | text s =>
          simp only [bind_eq_ok, assertUnicodeScalarText_eq_ok, require_eq_ok, exists_const,
            Except.ok.injEq] at h
          obtain ⟨hformed, capacity, hcapacity, hfits, rfl⟩ := h
          exact reads_char hexid hformed hcapacity hfits
      | _ => cases h
  | numc =>
      simp only [cellText, hexid] at h
      obtain ⟨capacity, hcapacity, h⟩ := bind_eq_ok.mp h
      obtain ⟨_, hcell, h⟩ := bind_eq_ok.mp h
      rw [require_eq_ok] at hcell
      cases value with
      | text s =>
          dsimp only at h
          split at h
          · rename_i hdigits
            obtain rfl := Except.ok.inj h
            exact reads_numc hexid hsafe hdigits.1 hcapacity hdigits.2 (by omega)
          · cases h
      | _ => cases h
  | date =>
      simp only [cellText, hexid] at h
      exact reads_date hexid h
  | time =>
      simp only [cellText, hexid] at h
      exact reads_time hexid h
  | packed =>
      simp only [cellText, hexid] at h
      obtain ⟨bytes, hbytes, htext⟩ := bind_eq_ok.mp h
      exact reads_packed hexid hbytes htext
  | float =>
      simp only [cellText, hexid] at h
      cases value with
      | number d =>
          simp only [bind_eq_ok, require_eq_ok, exists_const, Except.ok.injEq] at h
          obtain ⟨hfinite, rfl⟩ := h
          exact reads_float hexid (hfloat hexid) hfinite
      | _ => cases h
  | int8 =>
      simp only [cellText, hexid] at h
      obtain ⟨n, hn, h⟩ := bind_eq_ok.mp h
      obtain rfl := Except.ok.inj h
      exact reads_int8 hexid hn
  | string =>
      simp only [cellText, hexid] at h
      cases value with
      | text s =>
          simp only [bind_eq_ok, assertUnicodeScalarText_eq_ok, require_eq_ok, exists_const,
            Except.ok.injEq] at h
          obtain ⟨hformed, hnul, rfl⟩ := h
          exact reads_string hexid hformed hnul
      | _ => cases h
  | _ =>
      simp only [cellText, hexid] at h
      cases h

theorem planned_of_planCell (hsafe : limits.maxParameterBytes ≤ Double.maxSafeInteger)
    (hfloat : field.exid = .float → ReadsFloats host numberOf) {cell : PlannedCell}
    (h : planCell host field limits int8Mode path value = .ok cell) :
    Planned host numberOf field limits int8Mode bcd path value cell := by
  by_cases hraw : field.exid = .raw
  · exact planned_raw hraw hsafe h
  by_cases hxstring : field.exid = .xstring
  · exact planned_xstring hxstring hsafe h
  have htext : planCell host field limits int8Mode path value = (do
      let text ← cellText host field limits int8Mode path value
      let encodedByteLength ← escapedClassicXrfcXmlByteLength text path
      require (encodedByteLength ≤ limits.maxCellBytes)
        s!"{path} XML value exceeds {limits.maxCellBytes} encoded bytes"
      .ok (.text field text encodedByteLength)) := by
    unfold planCell
    split
    · rename_i hexid
      exact absurd hexid hraw
    · rename_i hexid
      exact absurd hexid hxstring
    · rfl
  rw [htext] at h
  simp only [bind_eq_ok, require_eq_ok, exists_const, Except.ok.injEq] at h
  obtain ⟨text, hcell, n, hlength, hle, rfl⟩ := h
  obtain ⟨hxml, rfl⟩ := escapedClassicXrfcXmlByteLength_eq_ok hlength
  exact ⟨rfl, hxml, rfl, hle, reads_cellText hsafe hfloat hcell⟩

end Cells

end OpenRfc.Xrfc
