import OpenRfc.Cpic.FieldChain
import OpenRfc.Values.ClassicTemporal
import OpenRfc.Values.PackedDecimal

/-!
The fields of a structure and where they lie in it. Fields follow one another without overlapping,
and every type has its own width.
-/

namespace OpenRfc.Classic
open Fallible Values
open Cpic (defaultMaxCpicFieldLength)

/-- The types of fields and parameters. -/
inductive RfcExid
  | char | numc | date | time | raw | float | int4 | int2 | int1 | int8
  | packed | decf16 | decf34 | string | xstring
  | temporal (exid : ClassicTemporalExid)
  | flatStructure | deepStructure | table
  | other (code : JsString)
deriving DecidableEq, Repr

/-- The letter of a type. -/
def RfcExid.code : RfcExid → String
  | .char => "C" | .numc => "N" | .date => "D" | .time => "T" | .raw => "X" | .float => "F"
  | .int4 => "I" | .int2 => "s" | .int1 => "b" | .int8 => "8" | .packed => "P" | .decf16 => "a"
  | .decf34 => "e" | .string => "g" | .xstring => "y"
  | .temporal .utcLong => "p" | .temporal .utcSecond => "n" | .temporal .utcMinute => "w"
  | .temporal .dtDay => "d" | .temporal .dtWeek => "7" | .temporal .dtMonth => "x"
  | .temporal .tSecond => "t" | .temporal .tMinute => "i" | .temporal .cDay => "c"
  | .flatStructure => "u" | .deepStructure => "v" | .table => "h"
  | .other code => code.text

structure RfcStructureField where
  tableName : JsString
  fieldName : JsString
  position : Nat
  offset : Nat
  internalLength : Nat
  decimals : Nat
  exid : RfcExid
deriving DecidableEq, Repr

structure RfcStructureDefinition where
  name : JsString
  byteLength : Nat
  fields : List RfcStructureField
deriving DecidableEq, Repr

def maxClassicStructureFields : Nat := 100000

def RfcStructureField.byteEnd (field : RfcStructureField) : Nat := field.offset + field.internalLength

section Snapshot

/-- The loop over the fields. -/
def checkFields (name : JsString) (byteLength : Nat) :
    Nat → Nat → List JsString → List RfcStructureField → Except String Unit
  | _, _, _, [] => .ok ()
  | index, previousEnd, names, field :: fields => do
    require (field.tableName = name ∧ field.fieldName ≠ [] ∧ field.fieldName ∉ names ∧
        field.position = index + 1 ∧ field.offset ≤ Double.maxSafeInteger ∧
        previousEnd ≤ field.offset ∧ field.internalLength ≤ Double.maxSafeInteger ∧
        field.decimals ≤ Double.maxSafeInteger)
      s!"{name.text} structure field {index} has invalid geometry"
    require (field.byteEnd ≤ Double.maxSafeInteger ∧ field.byteEnd ≤ byteLength)
      s!"{name.text}.{field.fieldName.text} exceeds the structure byteLength"
    checkFields name byteLength (index + 1) field.byteEnd (field.fieldName :: names) fields

def snapshotClassicStructureDefinition (definition : RfcStructureDefinition)
    (requestedName : Option JsString) : Except String RfcStructureDefinition := do
  let name := definition.name
  let expectedName := requestedName.getD name
  require (name ≠ [] ∧ name = expectedName)
    s!"{expectedName.text} structure definition has an invalid name"
  require (definition.byteLength ≤ Double.maxSafeInteger)
    s!"{name.text} structure byteLength must be a non-negative safe integer"
  require (definition.byteLength ≤ defaultMaxCpicFieldLength)
    s!"{name.text} structure byteLength exceeds {defaultMaxCpicFieldLength}"
  require (definition.fields.length ≤ maxClassicStructureFields)
    s!"{name.text} structure field count exceeds {maxClassicStructureFields}"
  checkFields name definition.byteLength 0 0 [] definition.fields
  .ok definition

end Snapshot

section Codec
variable (definition : RfcStructureDefinition) (field : RfcStructureField)

def path : String := s!"{definition.name.text}.{field.fieldName.text}"

variable (fieldPath : String)

def characterLength : Except String Nat := do
  require (field.internalLength % 2 = 0) s!"{fieldPath} Unicode character width must be even"
  .ok (field.internalLength / 2)

def notImplemented : String := s!"{fieldPath} classic RFC type {field.exid.code} is not implemented"

def assertWidth (width : Nat) (error : String) : Except String Unit :=
  require (field.internalLength = width) s!"{fieldPath} {error}"

def temporalWidthError (exid : ClassicTemporalExid) : String :=
  s!"compact temporal type {(RfcExid.temporal exid).code} must occupy " ++
    s!"{exid.specification.byteLength} bytes"

/-- The width of a field is the one of its type. The packed decimals have their own rules. -/
def assertFieldCodec (host : Host) : Except String Unit :=
  match field.exid with
  | .temporal exid =>
    assertWidth field fieldPath exid.specification.byteLength (temporalWidthError exid)
  | .char | .numc => do
    let _ ← characterLength field fieldPath
    .ok ()
  | .date => assertWidth field fieldPath 16 "DATE must occupy 16 Unicode bytes"
  | .time => assertWidth field fieldPath 12 "TIME must occupy 12 Unicode bytes"
  | .raw => .ok ()
  | .float => assertWidth field fieldPath 8 "FLOAT must occupy 8 bytes"
  | .int4 => assertWidth field fieldPath 4 "INT4 must occupy 4 bytes"
  | .int2 => assertWidth field fieldPath 2 "INT2 must occupy 2 bytes"
  | .int1 => assertWidth field fieldPath 1 "INT1 must occupy 1 byte"
  | .int8 => assertWidth field fieldPath 8 "INT8 must occupy 8 bytes"
  | .packed => do
    let _ ← encodePackedDecimal host fieldPath (.text [0x30]) field.internalLength field.decimals
    .ok ()
  | .decf16 => assertWidth field fieldPath 8 "DECF16 must occupy 8 bytes"
  | .decf34 => assertWidth field fieldPath 16 "DECF34 must occupy 16 bytes"
  | .string => assertWidth field fieldPath 8 "STRING descriptor must occupy 8 bytes"
  | .xstring => assertWidth field fieldPath 8 "XSTRING descriptor must occupy 8 bytes"
  | _ => .error (notImplemented field fieldPath)

/-- Check the codecs of all fields. -/
def assertFieldCodecs (host : Host) : List RfcStructureField → Except String Unit
  | [] => .ok ()
  | field :: fields => do
    assertFieldCodec field (path definition field) host
    assertFieldCodecs host fields

def validateClassicStructureCodec (host : Host) (requestedName : Option JsString) :
    Except String RfcStructureDefinition := do
  let normalized ← snapshotClassicStructureDefinition definition requestedName
  assertFieldCodecs normalized host normalized.fields
  .ok normalized

def isDynamic (field : RfcStructureField) : Bool := field.exid = .string || field.exid = .xstring

def classicStructureHasDynamicFields (host : Host) : Except String Bool := do
  let normalized ← validateClassicStructureCodec definition host none
  .ok (normalized.fields.any isDynamic)

end Codec

section Geometry

/-- Fields which follow one another from a place on, and end within a structure. -/
def Consecutive (byteLength : Nat) : Nat → List RfcStructureField → Prop
  | _, [] => True
  | previousEnd, field :: fields =>
    previousEnd ≤ field.offset ∧ field.byteEnd ≤ byteLength ∧
      Consecutive byteLength field.byteEnd fields

theorem checkFields_eq_ok {name : JsString} {byteLength index previousEnd : Nat}
    {names : List JsString} {fields : List RfcStructureField} {u : Unit}
    (h : checkFields name byteLength index previousEnd names fields = .ok u) :
    Consecutive byteLength previousEnd fields ∧ (fields.map (·.fieldName)).Nodup ∧
      ∀ field ∈ fields, field.fieldName ∉ names := by
  induction fields generalizing index previousEnd names with
  | nil => exact ⟨trivial, List.nodup_nil, nofun⟩
  | cons field fields ih =>
      simp only [checkFields, bind_eq_ok, require_eq_ok, exists_const] at h
      obtain ⟨⟨-, -, hnew, -, -, hstart, -, -⟩, ⟨-, hend⟩, h⟩ := h
      obtain ⟨hconsecutive, hnodup, hnames⟩ := ih h
      refine ⟨⟨hstart, hend, hconsecutive⟩, ?_, ?_⟩
      · rw [List.map_cons, List.nodup_cons]
        refine ⟨fun hmem => ?_, hnodup⟩
        obtain ⟨other, hother, he⟩ := List.mem_map.mp hmem
        exact hnames other hother (he ▸ List.mem_cons_self)
      · intro other hother
        rcases List.mem_cons.mp hother with rfl | hother
        · exact hnew
        · exact fun hmem => hnames other hother (List.mem_cons_of_mem _ hmem)

theorem assertFieldCodecs_eq_ok {definition : RfcStructureDefinition} {host : Host}
    {fields : List RfcStructureField} {u : Unit} :
    assertFieldCodecs definition host fields = .ok u ↔
      ∀ field ∈ fields, assertFieldCodec field (path definition field) host = .ok () := by
  induction fields with
  | nil => exact iff_of_true rfl nofun
  | cons field fields ih =>
      simp only [assertFieldCodecs, bind_eq_ok, ih, List.forall_mem_cons]
      exact ⟨fun ⟨_, hfield, hrest⟩ => ⟨hfield, hrest⟩, fun ⟨hfield, hrest⟩ => ⟨_, hfield, hrest⟩⟩

/-- A definition with a valid geometry and a codec for every field. -/
structure Validated (host : Host) (definition : RfcStructureDefinition) : Prop where
  fits : definition.byteLength ≤ defaultMaxCpicFieldLength
  consecutive : Consecutive definition.byteLength 0 definition.fields
  nodup : (definition.fields.map (·.fieldName)).Nodup
  codecs : ∀ field ∈ definition.fields,
    assertFieldCodec field (path definition field) host = .ok ()

theorem validate_eq_ok {definition normalized : RfcStructureDefinition} {host : Host}
    {requestedName : Option JsString}
    (h : validateClassicStructureCodec definition host requestedName = .ok normalized) :
    normalized = definition ∧ Validated host definition := by
  obtain ⟨snapshot, hsnapshot, h⟩ := bind_eq_ok.mp h
  simp only [snapshotClassicStructureDefinition, bind_eq_ok, require_eq_ok, exists_const,
    Except.ok.injEq] at hsnapshot
  obtain ⟨-, -, hfits, -, _, hcheck, rfl⟩ := hsnapshot
  simp only [bind_eq_ok, exists_const, Except.ok.injEq, assertFieldCodecs_eq_ok] at h
  obtain ⟨hconsecutive, hnodup, -⟩ := checkFields_eq_ok hcheck
  exact ⟨h.2.symm, hfits, hconsecutive, hnodup, h.1⟩

end Geometry
end OpenRfc.Classic
