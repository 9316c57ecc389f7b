import OpenRfc.Foundation.Bytes
import OpenRfc.Foundation.Fallible

/-!
Writers of records of a fixed size. A record is a list of fields; a writer refuses a number
outside the range of its field, and bytes for which there is no room.
-/

namespace OpenRfc.Wire
open Fallible

/-- One call of a writer, with the name which its errors give to the field. -/
inductive Field
  /-- `writeUInt8`, `writeUInt16BE` and `writeUInt32BE` -/
  | uint (width : Nat) (value : Int) (field : String)
  /-- `writeInt32BE` -/
  | int32 (value : Int) (field : String)
  /-- `writeBytes` -/
  | bytes (value : Bytes) (field : String)
deriving DecidableEq, Repr

namespace Field

def name : Field → String
  | uint _ _ field | int32 _ field | bytes _ field => field

def width : Field → Nat
  | uint width _ _ => width
  | int32 _ _ => 4
  | bytes value _ => value.length

def encode : Field → Bytes
  | uint width value _ => Bytes.bigEndian width value.toNat
  | int32 value _ => Bytes.bigEndian 4 (value % 2 ^ 32).toNat
  | bytes value _ => value

/-- The bounds of a number. -/
def InRange : Field → Prop
  | uint width value _ => 0 ≤ value ∧ value ≤ 256 ^ width - 1
  | int32 value _ => -2 ^ 31 ≤ value ∧ value ≤ 2 ^ 31 - 1
  | bytes _ _ => True

@[simp] theorem length_encode (field : Field) : field.encode.length = field.width := by
  cases field with
  | uint width value name => exact Bytes.length_bigEndian _ _
  | int32 value name => exact Bytes.length_bigEndian _ _
  | bytes value name => rfl

end Field

/-- The bytes of a field, or the error of the function which makes them. -/
def bytesField (bytes : Except String Bytes) (field : String) : Except String Field :=
  bytes.map fun value => .bytes value field

/-- What has been written of fields which are in range. -/
inductive Written : List (Except String Field) → Bytes → Prop
  | nil : Written [] []
  | cons {field : Field} {steps : List (Except String Field)} {record : Bytes} :
      field.InRange → Written steps record → Written (.ok field :: steps) (field.encode ++ record)

structure CheckedByteWriter where
  length : Nat
  context : String
  data : Bytes
deriving DecidableEq, Repr

namespace CheckedByteWriter

def create (length : Nat) (context : String) : CheckedByteWriter := ⟨length, context, []⟩

def offset (w : CheckedByteWriter) : Nat := w.data.length

def remaining (w : CheckedByteWriter) : Nat := w.length - w.offset

/-- `#ensure` -/
def ensure (w : CheckedByteWriter) (length : Nat) (field : String) : Except String Unit :=
  require (length ≤ w.remaining)
    s!"{w.context}.{field}: need {length} bytes at offset {w.offset}; {w.remaining} remain"

/-- `#integer` -/
def integer (w : CheckedByteWriter) (value minimum maximum : Int) (field : String) :
    Except String Unit :=
  require (minimum ≤ value ∧ value ≤ maximum)
    s!"{w.context}.{field}: value {value} must be an integer in {minimum}..{maximum}"

def checkField (w : CheckedByteWriter) : Field → Except String Unit
  | .uint width value name => w.integer value 0 (256 ^ width - 1) name
  | .int32 value name => w.integer value (-2 ^ 31) (2 ^ 31 - 1) name
  | .bytes _ _ => .ok ()

def write (w : CheckedByteWriter) (field : Field) : Except String CheckedByteWriter := do
  w.checkField field
  w.ensure field.width field.name
  .ok { w with data := w.data ++ field.encode }

def writeAll (w : CheckedByteWriter) : List Field → Except String CheckedByteWriter
  | [] => .ok w
  | field :: fields => do
    let w ← w.write field
    w.writeAll fields

def finish (w : CheckedByteWriter) : Except String Bytes := do
  require (w.remaining = 0) s!"{w.context}: {w.remaining} unwritten bytes remain"
  .ok w.data

/-- Fields each of which is made in front of its call. -/
def writeSteps (w : CheckedByteWriter) : List (Except String Field) →
    Except String CheckedByteWriter
  | [] => .ok w
  | step :: steps => do
    let field ← step
    let w ← w.write field
    w.writeSteps steps

theorem checkField_eq_ok {w : CheckedByteWriter} {field : Field} {u : Unit} :
    w.checkField field = .ok u ↔ field.InRange := by
  cases field with
  | uint width value name | int32 value name => exact require_eq_ok
  | bytes value name => exact iff_of_true rfl trivial

theorem write_eq_ok {w w' : CheckedByteWriter} {field : Field} :
    w.write field = .ok w' ↔ field.InRange ∧ field.width ≤ w.remaining ∧
      { w with data := w.data ++ field.encode } = w' := by
  simp only [write, bind_eq_ok, checkField_eq_ok, ensure, require_eq_ok, exists_const,
    Except.ok.injEq]

/-- Fields which are in range are written one behind the other, as long as there is room. -/
theorem writeAll_ok {w : CheckedByteWriter} {fields : List Field}
    (hr : ∀ field ∈ fields, field.InRange)
    (hl : (fields.map Field.width).sum ≤ w.remaining) :
    w.writeAll fields = .ok { w with data := w.data ++ (fields.map Field.encode).flatten } := by
  induction fields generalizing w with
  | nil => simp [writeAll]
  | cons field fields ih =>
      rw [List.forall_mem_cons] at hr
      rw [List.map_cons, List.sum_cons] at hl
      have hw : w.write field = .ok { w with data := w.data ++ field.encode } :=
        write_eq_ok.mpr ⟨hr.1, by omega, rfl⟩
      rw [writeAll, hw, ok_bind, ih hr.2]
      · rw [List.map_cons, List.flatten_cons, List.append_assoc]
      · simp only [remaining, offset, List.length_append, Field.length_encode] at hl ⊢
        omega

/-- What has been written was in range. -/
theorem inRange_of_writeAll {w w' : CheckedByteWriter} {fields : List Field}
    (h : w.writeAll fields = .ok w') : ∀ field ∈ fields, field.InRange := by
  induction fields generalizing w with
  | nil => exact nofun
  | cons field fields ih =>
      obtain ⟨w1, hw, hall⟩ := bind_eq_ok.mp h
      rw [List.forall_mem_cons]
      exact ⟨(write_eq_ok.mp hw).1, ih hall⟩

/-- A writer adds the fields, and nothing else. -/
theorem data_of_writeAll {w w' : CheckedByteWriter} {fields : List Field}
    (h : w.writeAll fields = .ok w') : w'.data = w.data ++ (fields.map Field.encode).flatten := by
  induction fields generalizing w with
  | nil =>
      obtain rfl := Except.ok.inj h
      exact (List.append_nil _).symm
  | cons field fields ih =>
      obtain ⟨w₁, hw, hall⟩ := bind_eq_ok.mp h
      obtain ⟨-, -, rfl⟩ := write_eq_ok.mp hw
      rw [ih hall, List.map_cons, List.flatten_cons, List.append_assoc]

theorem writeSteps_eq_ok {w w' : CheckedByteWriter} {steps : List (Except String Field)}
    (h : w.writeSteps steps = .ok w') :
    w'.length = w.length ∧ ∃ record, Written steps record ∧ w'.data = w.data ++ record := by
  induction steps generalizing w with
  | nil =>
      obtain rfl := Except.ok.inj h
      exact ⟨rfl, [], .nil, (List.append_nil _).symm⟩
  | cons step steps ih =>
      obtain ⟨field, rfl, hwrite⟩ := bind_eq_ok.mp h
      obtain ⟨w₁, hw, hrest⟩ := bind_eq_ok.mp hwrite
      obtain ⟨hlength, record, hrecord, hdata⟩ := ih hrest
      obtain ⟨hrange, -, rfl⟩ := write_eq_ok.mp hw
      exact ⟨hlength, field.encode ++ record, .cons hrange hrecord, by rw [hdata, List.append_assoc]⟩

/-- A writer does not go beyond its end. -/
theorem offset_writeSteps_le {w w' : CheckedByteWriter} {steps : List (Except String Field)}
    (h : w.writeSteps steps = .ok w') (hw : w.offset ≤ w.length) : w'.offset ≤ w'.length := by
  induction steps generalizing w with
  | nil =>
      obtain rfl := Except.ok.inj h
      exact hw
  | cons step steps ih =>
      obtain ⟨field, -, hwrite⟩ := bind_eq_ok.mp h
      obtain ⟨w₁, hw₁, hrest⟩ := bind_eq_ok.mp hwrite
      obtain ⟨-, hroom, rfl⟩ := write_eq_ok.mp hw₁
      refine ih hrest ?_
      simp only [remaining, offset, List.length_append, Field.length_encode] at hw hroom ⊢
      omega

end CheckedByteWriter

/-- A record of a given length, field by field. -/
def encodeRecord (length : Nat) (context : String) (fields : List Field) :
    Except String Bytes := do
  let w ← (CheckedByteWriter.create length context).writeAll fields
  w.finish

/-- A record of a given length, with fields each of which is made in front of its call. -/
def encodeSteps (length : Nat) (context : String) (steps : List (Except String Field)) :
    Except String Bytes := do
  let w ← (CheckedByteWriter.create length context).writeSteps steps
  w.finish

theorem length_encoded (fields : List Field) :
    (fields.map Field.encode).flatten.length = (fields.map Field.width).sum := by
  rw [List.length_flatten, List.map_map]
  congr 1
  apply List.map_congr_left
  exact fun field _ => field.length_encode

theorem encodeRecord_ok {length : Nat} {fields : List Field} (context : String)
    (hl : (fields.map Field.width).sum = length) (hr : ∀ field ∈ fields, field.InRange) :
    encodeRecord length context fields = .ok (fields.map Field.encode).flatten := by
  have hlength : (fields.map Field.encode).flatten.length = length :=
    (length_encoded fields).trans hl
  have hroom : (fields.map Field.width).sum ≤
      (CheckedByteWriter.create length context).remaining := hl.le
  rw [encodeRecord, CheckedByteWriter.writeAll_ok hr hroom, ok_bind,
    CheckedByteWriter.finish, require_of, ok_bind]
  · rfl
  · change length - ([] ++ _).length = 0
    rw [List.nil_append, hlength, Nat.sub_self]

theorem exists_encodeRecord {length : Nat} {fields : List Field} (context : String)
    (hl : (fields.map Field.width).sum = length) (hr : ∀ field ∈ fields, field.InRange) :
    ∃ record, encodeRecord length context fields = .ok record ∧ record.length = length :=
  ⟨_, encodeRecord_ok context hl hr, (length_encoded fields).trans hl⟩

theorem inRange_of_encodeRecord {length : Nat} {context : String} {fields : List Field}
    {record : Bytes} (h : encodeRecord length context fields = .ok record) :
    ∀ field ∈ fields, field.InRange := by
  obtain ⟨w, hw, -⟩ := bind_eq_ok.mp h
  exact CheckedByteWriter.inRange_of_writeAll hw

theorem eq_of_encodeRecord {length : Nat} {context : String} {fields : List Field}
    {record : Bytes} (h : encodeRecord length context fields = .ok record) :
    record = (fields.map Field.encode).flatten := by
  obtain ⟨w, hw, h⟩ := bind_eq_ok.mp h
  obtain ⟨-, -, h⟩ := bind_eq_ok.mp h
  obtain rfl := Except.ok.inj h
  exact CheckedByteWriter.data_of_writeAll hw

theorem encodeSteps_eq_ok {length : Nat} {context : String} {steps : List (Except String Field)}
    {record : Bytes} (h : encodeSteps length context steps = .ok record) :
    Written steps record ∧ record.length = length := by
  obtain ⟨w, hw, hfinish⟩ := bind_eq_ok.mp h
  obtain ⟨_, hfull, hdata⟩ := bind_eq_ok.mp hfinish
  obtain ⟨hlength, written, hwritten, hbytes⟩ := CheckedByteWriter.writeSteps_eq_ok hw
  obtain rfl := Except.ok.inj hdata
  have hroom := require_eq_ok.mp hfull
  have hend := CheckedByteWriter.offset_writeSteps_le hw (Nat.zero_le _)
  rw [CheckedByteWriter.remaining, hlength] at hroom
  rw [hlength] at hend
  change w.data = [] ++ written at hbytes
  refine ⟨?_, Nat.le_antisymm hend (Nat.le_of_sub_eq_zero hroom)⟩
  rw [hbytes]
  exact hwritten

end OpenRfc.Wire
