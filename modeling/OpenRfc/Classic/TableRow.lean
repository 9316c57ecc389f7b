import OpenRfc.Cpic.CutRequest

/-!
The header of a classic table and its rows. A row which is shorter than the declared width
stands for one whose last byte is repeated.
-/

namespace OpenRfc.Classic
open Fallible Cpic

structure RfcTableHeader where
  declaredRowByteLength : Nat
  rowCount : Nat
deriving DecidableEq, Repr

def decodeRfcTableHeader (value : Bytes) : Except String RfcTableHeader := do
  require (value.length = 8)
    s!"classic RFC table header must contain exactly 8 bytes; received {value.length}"
  .ok ⟨Bytes.number (Bytes.slice value 0 4), Bytes.number (Bytes.slice value 4 4)⟩

def decodeSimpleCompressedTableRow (value : Bytes) (declaredRowByteLength : Nat)
    (tableName : JsString) (rowIndex : Nat) : Except String Bytes := do
  require (value.length ≠ 0)
    s!"classic RFC table {tableName.text} simple-compressed row {rowIndex} is empty"
  require (value.length ≤ declaredRowByteLength)
    (s!"classic RFC table {tableName.text} simple-compressed row {rowIndex} has {value.length} " ++
      s!"encoded bytes; declared row width is {declaredRowByteLength}")
  if value.length = declaredRowByteLength then .ok value
  else do
    require (declaredRowByteLength ≤ defaultMaxCpicFieldLength)
      (s!"classic RFC table {tableName.text} simple-compressed row {rowIndex} expands to " ++
        s!"{declaredRowByteLength} bytes; maximum is {defaultMaxCpicFieldLength}")
    .ok (value ++ List.replicate (declaredRowByteLength - value.length) (value.getLastD 0))

theorem decodeSimpleCompressedTableRow_full {value : Bytes} {declaredRowByteLength : Nat}
    (h : value.length ≠ 0) (hl : value.length = declaredRowByteLength) (tableName : JsString)
    (rowIndex : Nat) :
    decodeSimpleCompressedTableRow value declaredRowByteLength tableName rowIndex = .ok value := by
  rw [decodeSimpleCompressedTableRow, require_of h, ok_bind, require_of hl.le, ok_bind, if_pos hl]

theorem decodeRfcTableHeader_ok {rowByteLength rowCount : Nat} (hl : rowByteLength ≤ 0xffffffff)
    (hc : rowCount ≤ 0xffffffff) :
    decodeRfcTableHeader (tableHeader rowByteLength rowCount) = .ok ⟨rowByteLength, rowCount⟩ := by
  rw [decodeRfcTableHeader, require_of (by simp [tableHeader]), ok_bind, slice_tableHeader_width,
    slice_tableHeader_count, Bytes.number_bigEndian 4 (by omega), Bytes.number_bigEndian 4 (by omega)]

end OpenRfc.Classic
