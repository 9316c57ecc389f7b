import OpenRfc.Classic.ResultGrouping

/-!
What is returned of a response are its fields, in their order, put into groups.
-/

namespace OpenRfc.Classic
open Fallible Cpic

/-- The bytes of a name, with spaces behind it. -/
def NameBytes (name : JsString) (bytes : Bytes) : Prop :=
  name ≠ [] ∧ ∃ count, bytes = JsString.utf16le (name ++ List.replicate count 0x20)

/-- A row is the value of its field, or the value with its last byte repeated up to the width. -/
inductive RowOf (width : Nat) : CpicField → WireBuffer → Prop
  | content {value : Bytes} {borrowed : Bool} : value ≠ [] → value.length ≤ width →
      RowOf width ⟨CpicTag.tableContent, value⟩ ⟨value, borrowed⟩
  | compr {front : Bytes} {last : UInt8} {borrowed : Bool} : front.length < width →
      RowOf width ⟨CpicTag.tableCompr, front ++ [last]⟩
        ⟨front ++ List.replicate (width - front.length) last, borrowed⟩

inductive Group
  | requestedOutput (name : JsString)
  | scalar (scalar : ClassicRfcScalar)
  | table (table : ClassicRfcTable)
  | xrfcParameter (parameter : ClassicRfcXrfcParameter)

namespace Group

/-- The fields of a group. -/
inductive Fields : Group → List CpicField → Prop
  | requestedOutput {name : JsString} {nameBytes : Bytes} : NameBytes name nameBytes →
      Fields (.requestedOutput name) [⟨CpicTag.requestedOutput, nameBytes⟩]
  | scalar {scalar : ClassicRfcScalar} {nameBytes : Bytes} : NameBytes scalar.name nameBytes →
      Fields (.scalar scalar)
        [⟨CpicTag.parameterName, nameBytes⟩, ⟨CpicTag.parameterValue, scalar.value.bytes⟩]
  | table {table : ClassicRfcTable} {nameBytes : Bytes} {rows : List CpicField} :
      NameBytes table.name nameBytes → table.declaredRowByteLength ≤ 0xffffffff →
      table.rows.length ≤ 0xffffffff →
      List.Forall₂ (RowOf table.declaredRowByteLength) rows table.rows →
      Fields (.table table) (⟨CpicTag.tableName, nameBytes⟩ ::
        ⟨CpicTag.tableHeader, tableHeader table.declaredRowByteLength table.rows.length⟩ :: rows)
  | xrfcParameter {parameter : ClassicRfcXrfcParameter} {chunks : List Bytes} :
      chunks ≠ [] → (∀ chunk ∈ chunks, chunk ≠ []) → parameter.value.bytes = chunks.flatten →
      parameter.chunkCount = chunks.length →
      Fields (.xrfcParameter parameter) (⟨CpicTag.xRfcParameter, []⟩ ::
        (chunks.map fun chunk => ⟨CpicTag.xRfcData, chunk⟩) ++ [⟨CpicTag.xRfcParameter, []⟩])

def name? : Group → Option JsString
  | .scalar value => some value.name
  | .table value => some value.name
  | _ => none

/-- The bytes of the rows of a table. -/
def tableBytes : Group → Nat
  | .table value => (value.rows.map (·.bytes.length)).sum
  | _ => 0

end Group

def Grouping.add (s : Grouping) : Group → Grouping
  | .requestedOutput name => s.addRequestedOutput name
  | .scalar scalar => s.addScalar scalar
  | .table table => s.addTable table
  | .xrfcParameter parameter => s.addXrfcParameter parameter

section Names

theorem decodeAbapText_eq_ok {value : Bytes} {name : JsString}
    (h : decodeAbapText value = .ok name) :
    ∃ count, value = JsString.utf16le (name ++ List.replicate count 0x20) := by
  simp only [decodeAbapText, bind_eq_ok, require_eq_ok, Except.ok.injEq] at h
  obtain ⟨-, heven, -, -, rfl⟩ := h
  have hsplit : (JsString.codeUnits value).rdropWhile (· == 0x20) ++
      (JsString.codeUnits value).rtakeWhile (· == 0x20) = JsString.codeUnits value :=
    List.rdropWhile_append_rtakeWhile
  refine ⟨((JsString.codeUnits value).rtakeWhile (· == 0x20)).length, ?_⟩
  have hspaces : (JsString.codeUnits value).rtakeWhile (· == 0x20) = List.replicate _ 0x20 :=
    List.eq_replicate_iff.mpr ⟨rfl, fun unit hunit => by
      simpa using List.mem_rtakeWhile_imp hunit⟩
  rw [← hspaces, JsString.trimTrailingSpaces, hsplit, JsString.utf16le_codeUnits heven]

theorem decodeParameterName_eq_ok {value : Bytes} {field : String} {name : JsString}
    (h : decodeParameterName value field = .ok name) : NameBytes name value := by
  simp only [decodeParameterName, bind_eq_ok, require_eq_ok, Except.ok.injEq] at h
  obtain ⟨_, hname, -, ⟨hne, -⟩, rfl⟩ := h
  exact ⟨hne, decodeAbapText_eq_ok hname⟩

theorem decodeRfcTableHeader_eq_ok {value : Bytes} {header : RfcTableHeader}
    (h : decodeRfcTableHeader value = .ok header) :
    header.declaredRowByteLength ≤ 0xffffffff ∧ header.rowCount ≤ 0xffffffff ∧
      value = tableHeader header.declaredRowByteLength header.rowCount := by
  simp only [decodeRfcTableHeader, bind_eq_ok, require_eq_ok, Except.ok.injEq] at h
  obtain ⟨-, hlength, rfl⟩ := h
  have hwidth := Bytes.number_slice_lt value 0 4
  have hcount := Bytes.number_slice_lt value 4 4
  refine ⟨by simp only; omega, by simp only; omega, ?_⟩
  rw [tableHeader, Bytes.bigEndian_number (Bytes.length_slice (by omega)),
    Bytes.bigEndian_number (Bytes.length_slice (by omega))]
  simp only [Bytes.slice, List.drop_zero]
  rw [List.take_of_length_le (show (value.drop 4).length ≤ 4 by simp [hlength]),
    List.take_append_drop]

end Names

section Rows
variable {borrow : Bool} {header : RfcTableHeader} {name : JsString}

theorem decodeSimpleCompressedTableRow_eq_ok {value row : Bytes} {width index : Nat}
    (h : decodeSimpleCompressedTableRow value width name index = .ok row) :
    ∃ front last, value = front ++ [last] ∧ front.length < width ∧
      row = front ++ List.replicate (width - front.length) last := by
  simp only [decodeSimpleCompressedTableRow, bind_eq_ok, require_eq_ok] at h
  obtain ⟨-, hne, -, hle, h⟩ := h
  rcases List.eq_nil_or_concat value with rfl | ⟨front, last, rfl⟩
  · exact absurd rfl hne
  · rw [List.concat_eq_append, List.length_append, List.length_singleton] at hle h
    refine ⟨front, last, List.concat_eq_append, by omega, ?_⟩
    split at h
    · rename_i heq
      obtain rfl : _ = row := Except.ok.inj h
      rw [show width - front.length = 1 by omega, List.replicate_one]
    · rename_i hlt
      simp only [bind_eq_ok, require_eq_ok, Except.ok.injEq] at h
      obtain ⟨-, -, rfl⟩ := h
      rw [show width - front.length = (width - (front.length + 1)) + 1 by omega,
        List.replicate_succ, List.append_assoc]
      simp

theorem decodeRow_eq_ok {field : CpicField} {row : WireBuffer} {index : Nat}
    (htag : isRowTag field.tag = true) (h : decodeRow borrow header name index field = .ok row) :
    RowOf header.declaredRowByteLength field row := by
  obtain ⟨tag, value⟩ := field
  rw [decodeRow] at h
  split at h
  · rename_i hcompr
    obtain rfl : tag = CpicTag.tableCompr := hcompr
    simp only [decodeTableComprRow, bind_eq_ok, Except.ok.injEq] at h
    obtain ⟨bytes, hbytes, rfl⟩ := h
    obtain ⟨front, last, rfl, hlt, rfl⟩ := decodeSimpleCompressedTableRow_eq_ok hbytes
    exact .compr hlt
  · rename_i hcontent
    obtain rfl : tag = CpicTag.tableContent := by
      simp only [isRowTag, decide_eq_true_eq] at htag
      exact htag.resolve_right hcontent
    simp only [decodeTableContentRow, bind_eq_ok, require_eq_ok, Except.ok.injEq] at h
    obtain ⟨-, hne, -, hle, rfl⟩ := h
    exact .content (List.length_pos_iff.mp (Nat.pos_of_ne_zero hne)) hle

theorem decodeRows_eq_ok {s read : TableRows} {fields : List CpicField}
    (h : decodeRows borrow header name s fields = .ok read) :
    ∃ rowFields rows, fields = rowFields ++ fields.drop rows.length ∧ read.rows = s.rows ++ rows ∧
      List.Forall₂ (RowOf header.declaredRowByteLength) rowFields rows := by
  induction fields generalizing s with
  | nil =>
      rw [decodeRows, Except.ok.injEq] at h
      exact ⟨[], [], rfl, by rw [h, List.append_nil], .nil⟩
  | cons field fields ih =>
      rw [decodeRows] at h
      split at h
      · rename_i hmore
        obtain ⟨row, hrow, h⟩ := bind_eq_ok.mp h
        obtain ⟨rowFields, rows, hfields, hrows, hall⟩ := ih h
        refine ⟨field :: rowFields, row :: rows, ?_, ?_, .cons (decodeRow_eq_ok hmore.2 hrow) hall⟩
        · rw [List.length_cons, List.drop_succ_cons, List.cons_append, ← hfields]
        · rw [hrows, TableRows.push, List.append_assoc, List.singleton_append]
      · obtain rfl := Except.ok.inj h
        exact ⟨[], [], rfl, (List.append_nil _).symm, .nil⟩

theorem collectChunks_eq_ok {chunks found : List Bytes} {byteLength total : Nat}
    {fields : List CpicField} (h : collectChunks chunks byteLength fields = .ok (found, total)) :
    ∃ more, found = chunks ++ more ∧ (∀ chunk ∈ more, chunk ≠ []) ∧
      fields = (more.map fun chunk => ⟨CpicTag.xRfcData, chunk⟩) ++ fields.drop more.length := by
  induction fields generalizing chunks byteLength with
  | nil =>
      rw [collectChunks, Except.ok.injEq, Prod.mk.injEq] at h
      exact ⟨[], by rw [h.1, List.append_nil], by simp, rfl⟩
  | cons field fields ih =>
      rw [collectChunks] at h
      split at h
      · rename_i htag
        simp only [bind_eq_ok, require_eq_ok] at h
        obtain ⟨-, hne, -, -, h⟩ := h
        obtain ⟨more, rfl, hmore, hfields⟩ := ih h
        refine ⟨field.value :: more, by simp, List.forall_mem_cons.mpr ⟨?_, hmore⟩, ?_⟩
        · exact List.length_pos_iff.mp (Nat.pos_of_ne_zero hne)
        · rw [List.length_cons, List.drop_succ_cons, List.map_cons, List.cons_append, ← hfields,
            ← htag]
      · obtain ⟨rfl, -⟩ := Prod.mk.inj (Except.ok.inj h)
        exact ⟨[], (List.append_nil _).symm, by simp, rfl⟩

end Rows

section Groups
variable {borrow : Bool} {s t : Grouping} {field : CpicField} {fields : List CpicField}
  {count : Nat}

/-- A group was read: its fields, and what it adds. -/
def ReadsGroup (s t : Grouping) (fields : List CpicField) (count : Nat) : Prop :=
  ∃ group piece, Group.Fields group piece ∧ fields = piece ++ fields.drop (count + 1) ∧
    t = s.add group ∧ ∀ name ∈ group.name?, name ∉ s.names

theorem decodeScalar_reads (htag : field.tag = CpicTag.parameterName)
    (h : decodeScalar borrow s field fields = .ok (t, count)) :
    ReadsGroup s t (field :: fields) count := by
  obtain ⟨tag, nameBytes⟩ := field
  obtain rfl : tag = CpicTag.parameterName := htag
  rw [decodeScalar] at h
  obtain ⟨name, hname, h⟩ := bind_eq_ok.mp h
  cases fields with
  | nil => cases h
  | cons valueField rest =>
    simp only [bind_eq_ok, require_eq_ok, Except.ok.injEq, Prod.mk.injEq] at h
    obtain ⟨-, hvalue, -, hnew, rfl, rfl⟩ := h
    refine ⟨.scalar ⟨name, retainedWireBuffer borrow valueField.value⟩, _,
      .scalar (decodeParameterName_eq_ok hname), ?_, rfl, ?_⟩
    · rw [← hvalue]
      rfl
    · rintro _ ⟨⟩
      exact hnew

theorem decodeTable_reads (htag : field.tag = CpicTag.tableName)
    (h : decodeTable borrow s field fields = .ok (t, count)) :
    ReadsGroup s t (field :: fields) count := by
  obtain ⟨tag, nameBytes⟩ := field
  obtain rfl : tag = CpicTag.tableName := htag
  rw [decodeTable] at h
  obtain ⟨name, hname, h⟩ := bind_eq_ok.mp h
  cases fields with
  | nil => cases h
  | cons headerField rowFields =>
    obtain ⟨headerTag, headerBytes⟩ := headerField
    simp only [bind_eq_ok, require_eq_ok, Except.ok.injEq, Prod.mk.injEq] at h
    obtain ⟨-, rfl, -, hnew, header, hheader, read, hread, -, hcount, rfl, rfl⟩ := h
    obtain ⟨hwidth, hrowCount, rfl⟩ := decodeRfcTableHeader_eq_ok hheader
    obtain ⟨found, rows, hfields, hrows, hall⟩ := decodeRows_eq_ok hread
    rw [List.nil_append] at hrows
    rw [← hrows] at hfields hall
    rw [← hcount] at hrowCount
    refine ⟨.table _, _, .table (decodeParameterName_eq_ok hname) hwidth hrowCount hall, ?_, rfl, ?_⟩
    · simp only [hcount, Nat.add_comm 1, List.drop_succ_cons, List.cons_append] at hfields ⊢
      rw [← hfields]
    · rintro _ ⟨⟩
      exact hnew

theorem decodeXrfcParameter_reads (htag : field.tag = CpicTag.xRfcParameter)
    (h : decodeXrfcParameter borrow s field fields = .ok (t, count)) :
    ReadsGroup s t (field :: fields) count := by
  obtain ⟨tag, value⟩ := field
  obtain rfl : tag = CpicTag.xRfcParameter := htag
  simp only [decodeXrfcParameter, bind_eq_ok, require_eq_ok] at h
  obtain ⟨-, hvalue, ⟨chunks, total⟩, hchunks, -, hne, h⟩ := h
  obtain rfl := List.eq_nil_of_length_eq_zero hvalue
  obtain ⟨more, hmore, hnonempty, hfields⟩ := collectChunks_eq_ok hchunks
  obtain rfl : chunks = more := hmore
  cases hclosing : fields[chunks.length]? with
  | none => simp [hclosing] at h
  | some closing =>
      simp only [hclosing, bind_eq_ok, require_eq_ok, Except.ok.injEq, Prod.mk.injEq] at h
      obtain ⟨-, hclose, -, hempty, rfl, rfl⟩ := h
      have hdrop : fields.drop chunks.length = closing :: fields.drop (chunks.length + 1) := by
        obtain ⟨hlt, rfl⟩ := List.getElem?_eq_some_iff.mp hclosing
        exact List.drop_eq_getElem_cons hlt
      have hclosing : closing = ⟨CpicTag.xRfcParameter, []⟩ := by
        rw [← hclose, ← List.eq_nil_of_length_eq_zero hempty]
      refine ⟨.xrfcParameter _, _, .xrfcParameter
        (List.length_pos_iff.mp (Nat.pos_of_ne_zero hne)) hnonempty rfl rfl, ?_, rfl, by rintro _ ⟨⟩⟩
      simp only [List.drop_succ_cons, List.cons_append, List.append_assoc, List.nil_append]
      rw [← hclosing, ← hdrop, ← hfields]

/-- A field which is passed over, or a group. -/
theorem decodeGroup_eq_ok (h : decodeGroup borrow s field fields = .ok (t, count)) :
    (field.tag ∈ nonApplicationTags ∧ t = s ∧ count = 0) ∨
      ReadsGroup s t (field :: fields) count := by
  rw [decodeGroup] at h
  split at h
  · rename_i htag
    obtain ⟨rfl, rfl⟩ := Prod.mk.inj (Except.ok.inj h)
    exact .inl ⟨htag, rfl, rfl⟩
  right
  split at h
  · rename_i htag
    obtain ⟨tag, nameBytes⟩ := field
    obtain rfl : tag = CpicTag.requestedOutput := htag
    simp only [bind_eq_ok, Except.ok.injEq, Prod.mk.injEq] at h
    obtain ⟨name, hname, rfl, rfl⟩ := h
    exact ⟨.requestedOutput name, _, .requestedOutput (decodeParameterName_eq_ok hname), rfl, rfl,
      by rintro _ ⟨⟩⟩
  split at h
  · cases h
  split at h
  · exact decodeXrfcParameter_reads ‹_› h
  split at h
  · cases h
  split at h
  · cases h
  split at h
  · exact decodeScalar_reads ‹_› h
  split at h
  · exact decodeTable_reads ‹_› h
  · cases h

end Groups

/-- Fields which are groups, with fields between them which do not belong to the result. -/
inductive Grouped : List CpicField → List Group → List (List CpicField) → Prop
  | nil : Grouped [] [] []
  | pass {field fields groups pieces} : field.tag ∈ nonApplicationTags →
      Grouped fields groups pieces → Grouped (field :: fields) groups pieces
  | group {group piece fields groups pieces} : group.Fields piece →
      Grouped fields groups pieces → Grouped (piece ++ fields) (group :: groups) (piece :: pieces)

theorem decodeGroups_eq_ok {borrow : Bool} {s t : Grouping} {fields : List CpicField}
    (h : decodeGroups borrow s fields = .ok t) (hs : s.names.Nodup) :
    ∃ groups pieces, Grouped fields groups pieces ∧ t = groups.foldl Grouping.add s ∧
      t.names.Nodup := by
  fun_induction decodeGroups borrow s fields with
  | case1 s => exact ⟨[], [], .nil, (Except.ok.inj h).symm, Except.ok.inj h ▸ hs⟩
  | case2 s field fields ih =>
      obtain ⟨⟨next, count⟩, hgroup, h⟩ := bind_eq_ok.mp h
      rcases decodeGroup_eq_ok hgroup with ⟨htag, rfl, rfl⟩ | ⟨group, piece, hfields, hpiece, rfl, hnew⟩
      · obtain ⟨groups, pieces, hgrouped, ht, hnodup⟩ := ih next 0 h hs
        exact ⟨groups, pieces, .pass htag hgrouped, ht, hnodup⟩
      · have hnames : (s.add group).names.Nodup := by
          cases group with
          | requestedOutput _ | xrfcParameter _ => exact hs
          | scalar value | table value =>
              exact List.nodup_append_comm.mp (List.nodup_cons.mpr ⟨hnew value.name rfl, hs⟩)
        obtain ⟨groups, pieces, hgrouped, ht, hnodup⟩ := ih _ count h hnames
        rw [List.drop_succ_cons] at hpiece
        rw [hpiece]
        exact ⟨group :: groups, piece :: pieces, .group hfields hgrouped, ht, hnodup⟩

section Application
variable {group : Group} {piece : List CpicField}

def groupTags : List Int :=
  [CpicTag.requestedOutput, CpicTag.parameterName, CpicTag.parameterValue, CpicTag.tableName,
    CpicTag.tableHeader, CpicTag.tableContent, CpicTag.tableCompr, CpicTag.xRfcParameter,
    CpicTag.xRfcData]

theorem isRowTag_of_row {width : Nat} {field : CpicField} {row : WireBuffer}
    (h : RowOf width field row) : isRowTag field.tag = true := by
  cases h <;> rfl

theorem row_of_mem {width : Nat} {fields : List CpicField} {rows : List WireBuffer}
    (h : List.Forall₂ (RowOf width) fields rows) {field : CpicField} (hfield : field ∈ fields) :
    isRowTag field.tag = true := by
  induction h with
  | nil => cases hfield
  | cons hrow _ ih =>
      rcases List.mem_cons.mp hfield with rfl | hfield
      · exact isRowTag_of_row hrow
      · exact ih hfield

theorem Group.Fields.tags (h : group.Fields piece) : ∀ field ∈ piece, field.tag ∈ groupTags := by
  intro field hfield
  cases h with
  | requestedOutput _ | scalar _ =>
      simp only [List.mem_cons, List.not_mem_nil, or_false] at hfield
      rcases hfield with rfl | rfl <;> simp [groupTags]
  | table _ _ _ hrows =>
      rcases List.mem_cons.mp hfield with rfl | hfield
      · simp [groupTags]
      rcases List.mem_cons.mp hfield with rfl | hfield
      · simp [groupTags]
      have htag := row_of_mem hrows hfield
      simp only [isRowTag, decide_eq_true_eq] at htag
      rcases htag with htag | htag <;> simp [groupTags, htag]
  | xrfcParameter _ _ _ _ =>
      simp only [List.cons_append, List.mem_cons, List.mem_append, List.mem_map, List.not_mem_nil,
        or_false] at hfield
      rcases hfield with rfl | ⟨chunk, -, rfl⟩ | rfl <;> simp [groupTags]

/-- The fields of a group belong to the result. -/
theorem Group.Fields.application (h : group.Fields piece) :
    ∀ field ∈ piece, field.tag ∉ nonApplicationTags := by
  have hdisjoint : ∀ tag ∈ groupTags, tag ∉ nonApplicationTags := by decide
  exact fun field hfield => hdisjoint field.tag (h.tags field hfield)

theorem Group.Fields.table_of_name (h : group.Fields piece) {field : CpicField}
    (hfield : field ∈ piece) (htag : field.tag = CpicTag.tableName) :
    ∃ table, group = .table table := by
  cases h with
  | requestedOutput _ | scalar _ =>
      simp only [List.mem_cons, List.not_mem_nil, or_false] at hfield
      rcases hfield with rfl | rfl <;>
        simp [CpicTag.requestedOutput, CpicTag.parameterName, CpicTag.parameterValue,
          CpicTag.tableName] at htag
  | table _ _ _ _ => exact ⟨_, rfl⟩
  | xrfcParameter _ _ _ _ =>
      simp only [List.cons_append, List.mem_cons, List.mem_append, List.mem_map, List.not_mem_nil,
        or_false] at hfield
      rcases hfield with rfl | ⟨chunk, -, rfl⟩ | rfl <;>
        simp [CpicTag.xRfcParameter, CpicTag.xRfcData, CpicTag.tableName] at htag

theorem Grouped.filter {fields : List CpicField} {groups : List Group}
    {pieces : List (List CpicField)} (h : Grouped fields groups pieces) :
    fields.filter (fun field => field.tag ∉ nonApplicationTags) = pieces.flatten ∧
      List.Forall₂ Group.Fields groups pieces := by
  induction h with
  | nil => exact ⟨rfl, .nil⟩
  | pass htag _ ih =>
      rw [List.filter_cons_of_neg (by simpa using htag)]
      exact ih
  | group hfields _ ih =>
      rw [List.filter_append, List.flatten_cons, ih.1,
        List.filter_eq_self.mpr fun field hfield => by simpa using hfields.application field hfield]
      exact ⟨rfl, .cons hfields ih.2⟩

end Application

section Preflight
variable {name : JsString} {header : RfcTableHeader} {total : Nat} {fields : List CpicField}

theorem rowDecodedBytes_eq {field : CpicField} {row : WireBuffer}
    (h : RowOf header.declaredRowByteLength field row) :
    rowDecodedBytes header field = row.bytes.length := by
  cases h with
  | content _ _ => rfl
  | compr hlt =>
      rw [rowDecodedBytes, if_pos rfl, List.length_append, List.length_replicate]
      omega

/-- The first pass finds the rows which the second one reads. -/
theorem preflightRows_eq_ok {rowFields : List CpicField} {rows : List WireBuffer}
    {before index bytes count : Nat}
    (hrows : List.Forall₂ (RowOf header.declaredRowByteLength) rowFields rows)
    (hcount : index + rows.length = header.rowCount)
    (h : preflightRows name header before index (rowFields ++ fields) = .ok (bytes, count)) :
    bytes = before + (rows.map (·.bytes.length)).sum ∧ count = header.rowCount := by
  induction hrows generalizing before index with
  | nil =>
      rw [List.length_nil] at hcount
      have hend : preflightRows name header before index fields = .ok (before, index) := by
        cases fields with
        | nil => rw [preflightRows]
        | cons field fields => rw [preflightRows, if_neg (by omega)]
      rw [List.nil_append, hend, Except.ok.injEq, Prod.mk.injEq] at h
      exact ⟨h.1.symm, by omega⟩
  | @cons field row rowFields rows hrow hrows ih =>
      rw [List.length_cons] at hcount
      rw [List.cons_append, preflightRows, if_pos ⟨by omega, isRowTag_of_row hrow⟩] at h
      obtain ⟨-, -, h⟩ := bind_eq_ok.mp h
      obtain ⟨hbytes, hfound⟩ := ih (by omega) h
      rw [rowDecodedBytes_eq hrow] at hbytes
      exact ⟨by rw [List.map_cons, List.sum_cons]; omega, hfound⟩

theorem preflightTables_pass {field : CpicField} (htag : field.tag ≠ CpicTag.tableName) :
    preflightTables total (field :: fields) = preflightTables total fields := by
  cases fields with
  | nil => rw [preflightTables, preflightTables]
  | cons next fields => rw [preflightTables, if_neg fun h => htag h.1]

theorem preflightTables_append {piece : List CpicField}
    (htags : ∀ field ∈ piece, field.tag ≠ CpicTag.tableName) :
    preflightTables total (piece ++ fields) = preflightTables total fields := by
  induction piece with
  | nil => rfl
  | cons field piece ih =>
      obtain ⟨htag, htags⟩ := List.forall_mem_cons.mp htags
      rw [List.cons_append, preflightTables_pass htag, ih htags]

/-- The bytes of a table have been added, and stay within the limits. -/
theorem preflightTables_table {table : ClassicRfcTable} {piece : List CpicField}
    (hpiece : (Group.table table).Fields piece)
    (h : preflightTables total (piece ++ fields) = .ok ()) :
    (Group.table table).tableBytes ≤ defaultMaxClassicRfcTableDecodedBytes ∧
      total + (Group.table table).tableBytes ≤ defaultMaxClassicRfcResultTableDecodedBytes ∧
      preflightTables (total + (Group.table table).tableBytes) fields = .ok () := by
  cases hpiece with
  | @table _ nameBytes rowFields hname hwidth hcount hrows =>
      rw [List.cons_append, List.cons_append, preflightTables, if_pos ⟨rfl, rfl⟩] at h
      obtain ⟨⟨next, count⟩, htable, h⟩ := bind_eq_ok.mp h
      simp only [preflightTable, decodeRfcTableHeader_ok hwidth hcount, ok_bind, bind_eq_ok,
        require_eq_ok, Except.ok.injEq, Prod.mk.injEq] at htable
      obtain ⟨name, -, ⟨bytes, found⟩, hread, -, hfound, -, hlimit, -, hresult, rfl, rfl⟩ := htable
      obtain ⟨rfl, -⟩ := preflightRows_eq_ok hrows (Nat.zero_add _) hread
      simp only [Nat.zero_add] at hlimit hresult h
      rw [show found = rowFields.length from hfound.trans hrows.length_eq.symm,
        List.drop_left] at h
      exact ⟨hlimit, hresult, h⟩

theorem preflightTables_grouped {groups : List Group} {pieces : List (List CpicField)}
    (hgrouped : Grouped fields groups pieces) (h : preflightTables total fields = .ok ())
    (htotal : total ≤ defaultMaxClassicRfcResultTableDecodedBytes) :
    total + (groups.map Group.tableBytes).sum ≤ defaultMaxClassicRfcResultTableDecodedBytes := by
  induction hgrouped generalizing total with
  | nil => simpa using htotal
  | pass htag _ ih =>
      refine ih ?_ htotal
      rwa [preflightTables_pass fun hname => by rw [hname] at htag; revert htag; decide] at h
  | @group group piece fields groups pieces hpiece _ ih =>
      cases group with
      | table table =>
          obtain ⟨-, hresult, h⟩ := preflightTables_table hpiece h
          have hsum := ih h hresult
          rw [List.map_cons, List.sum_cons]
          omega
      | requestedOutput _ | scalar _ | xrfcParameter _ =>
          have htags : ∀ field ∈ piece, field.tag ≠ CpicTag.tableName := by
            intro field hfield htag
            obtain ⟨table, htable⟩ := hpiece.table_of_name hfield htag
            cases htable
          rw [preflightTables_append htags] at h
          simpa [Group.tableBytes] using ih h htotal

end Preflight

section Result

def Group.result (groups : List Group) : ClassicRfcResult where
  requestedOutputs := groups.filterMap fun | .requestedOutput name => some name | _ => none
  scalars := groups.filterMap fun | .scalar value => some value | _ => none
  tables := groups.filterMap fun | .table value => some value | _ => none
  xrfcParameters := groups.filterMap fun | .xrfcParameter value => some value | _ => none

theorem foldl_add_result (groups : List Group) (s : Grouping) :
    (groups.foldl Grouping.add s).result =
      ⟨s.result.requestedOutputs ++ (Group.result groups).requestedOutputs,
        s.result.scalars ++ (Group.result groups).scalars,
        s.result.tables ++ (Group.result groups).tables,
        s.result.xrfcParameters ++ (Group.result groups).xrfcParameters⟩ := by
  induction groups generalizing s with
  | nil => simp [Group.result]
  | cons group groups ih =>
      rw [List.foldl_cons, ih]
      cases group <;>
        simp [Group.result, Grouping.add, Grouping.addRequestedOutput, Grouping.addScalar,
          Grouping.addTable, Grouping.addXrfcParameter]

theorem foldl_add_names (groups : List Group) (s : Grouping) :
    (groups.foldl Grouping.add s).names.Perm
      (s.names ++ ((Group.result groups).scalars.map (·.name) ++
        (Group.result groups).tables.map (·.name))) := by
  induction groups generalizing s with
  | nil => simp [Group.result]
  | cons group groups ih =>
      rw [List.foldl_cons]
      refine (ih _).trans ?_
      cases group with
      | requestedOutput _ | xrfcParameter _ => exact .refl _
      | scalar value =>
          simp [Group.result, Grouping.add, Grouping.addScalar]
      | table value =>
          simp only [Group.result, Grouping.add, Grouping.addTable, List.append_assoc,
            List.filterMap_cons, List.map_cons, List.singleton_append]
          exact List.perm_middle.symm.append_left _

theorem tableBytes_sum (groups : List Group) :
    (groups.map Group.tableBytes).sum =
      ((Group.result groups).tables.map fun table =>
        (table.rows.map (·.bytes.length)).sum).sum := by
  induction groups with
  | nil => rfl
  | cons group groups ih =>
      rw [List.map_cons, List.sum_cons, ih]
      cases group <;> simp [Group.result, Group.tableBytes]

end Result

section Ownership

def WireBuffer.copied (buffer : WireBuffer) : WireBuffer := ⟨buffer.bytes, false⟩

def ClassicRfcScalar.copied (scalar : ClassicRfcScalar) : ClassicRfcScalar :=
  { scalar with value := scalar.value.copied }

def ClassicRfcTable.copied (table : ClassicRfcTable) : ClassicRfcTable :=
  { table with rows := table.rows.map WireBuffer.copied }

def ClassicRfcXrfcParameter.copied (parameter : ClassicRfcXrfcParameter) :
    ClassicRfcXrfcParameter :=
  { parameter with value := parameter.value.copied }

/-- The values of a result, without the memory which they share. -/
def ClassicRfcResult.copied (result : ClassicRfcResult) : ClassicRfcResult where
  requestedOutputs := result.requestedOutputs
  scalars := result.scalars.map ClassicRfcScalar.copied
  tables := result.tables.map ClassicRfcTable.copied
  xrfcParameters := result.xrfcParameters.map ClassicRfcXrfcParameter.copied

def Grouping.copied (s : Grouping) : Grouping := ⟨s.result.copied, s.names⟩

def TableRows.copied (s : TableRows) : TableRows :=
  { s with rows := s.rows.map WireBuffer.copied }

variable {field : CpicField} {fields : List CpicField}

theorem decodeRow_copied (header : RfcTableHeader) (name : JsString) (index : Nat)
    (field : CpicField) : decodeRow false header name index field =
      (decodeRow true header name index field).map WireBuffer.copied := by
  rw [decodeRow, decodeRow]
  split
  · rw [decodeTableComprRow, decodeTableComprRow]
    cases decodeSimpleCompressedTableRow field.value header.declaredRowByteLength name index <;> rfl
  · simp only [decodeTableContentRow, require]
    split <;> [split; skip] <;> rfl

theorem decodeRows_copied (header : RfcTableHeader) (name : JsString) (s : TableRows)
    (fields : List CpicField) : decodeRows false header name s.copied fields =
      (decodeRows true header name s fields).map TableRows.copied := by
  induction fields generalizing s with
  | nil => rfl
  | cons field fields ih =>
      have hlength : s.copied.rows.length = s.rows.length := List.length_map _
      rw [decodeRows, decodeRows, hlength, decodeRow_copied]
      split
      · cases hrow : decodeRow true header name s.rows.length field with
        | error message => rfl
        | ok row =>
            have hpush : s.copied.push row.copied (field.tag = CpicTag.tableCompr) =
                (s.push row (field.tag = CpicTag.tableCompr)).copied := by
              simp [TableRows.push, TableRows.copied, WireBuffer.copied]
            change decodeRows false header name (s.copied.push row.copied _) fields = _
            rw [hpush, ih]
            rfl
      · rfl

/-- What is read of a group, without the memory which is shared. -/
def copiedGroup (read : Grouping × Nat) : Grouping × Nat := (read.1.copied, read.2)

theorem decodeScalar_copied (s : Grouping) (field : CpicField) (fields : List CpicField) :
    decodeScalar false s.copied field fields =
      (decodeScalar true s field fields).map copiedGroup := by
  rw [decodeScalar, decodeScalar, map_bind]
  refine bind_congr fun name => ?_
  cases fields with
  | nil => rfl
  | cons valueField fields =>
      rw [map_bind]
      refine bind_congr fun _ => ?_
      rw [map_bind]
      refine bind_congr fun _ => ?_
      simp [Except.map, copiedGroup, Grouping.copied, Grouping.addScalar, ClassicRfcResult.copied,
        ClassicRfcScalar.copied, WireBuffer.copied, retainedWireBuffer]

theorem decodeTable_copied (s : Grouping) (field : CpicField) (fields : List CpicField) :
    decodeTable false s.copied field fields =
      (decodeTable true s field fields).map copiedGroup := by
  rw [decodeTable, decodeTable, map_bind]
  refine bind_congr fun name => ?_
  cases fields with
  | nil => rfl
  | cons headerField fields =>
      rw [map_bind]
      refine bind_congr fun _ => ?_
      rw [map_bind]
      refine bind_congr fun _ => ?_
      rw [map_bind]
      refine bind_congr fun header => ?_
      have hrows := decodeRows_copied header name
        ⟨[], false, false, header.declaredRowByteLength⟩ fields
      change decodeRows false header name
        ⟨[], false, false, header.declaredRowByteLength⟩ fields = _ at hrows
      rw [hrows]
      cases decodeRows true header name
          ⟨[], false, false, header.declaredRowByteLength⟩ fields with
      | error message => rfl
      | ok read =>
          have hlength : read.copied.rows.length = read.rows.length := List.length_map _
          change (require (read.copied.rows.length = header.rowCount) _ >>= fun _ => _) =
            (require (read.rows.length = header.rowCount) _ >>= fun _ => _).map copiedGroup
          rw [map_bind, hlength]
          refine bind_congr fun _ => ?_
          simp [Except.map, copiedGroup, Grouping.copied, Grouping.addTable, TableRows.copied,
            ClassicRfcResult.copied, ClassicRfcTable.copied, TableRows.encoding,
            TableRows.compression]

theorem decodeXrfcParameter_copied (s : Grouping) (field : CpicField) (fields : List CpicField) :
    decodeXrfcParameter false s.copied field fields =
      (decodeXrfcParameter true s field fields).map copiedGroup := by
  rw [decodeXrfcParameter, decodeXrfcParameter, map_bind]
  refine bind_congr fun _ => ?_
  rw [map_bind]
  refine bind_congr fun read => ?_
  rw [map_bind]
  refine bind_congr fun _ => ?_
  cases fields[read.1.length]? with
  | none => rfl
  | some closing =>
      rw [map_bind]
      refine bind_congr fun _ => ?_
      rw [map_bind]
      refine bind_congr fun _ => ?_
      simp [Except.map, copiedGroup, Grouping.copied, Grouping.addXrfcParameter,
        ClassicRfcResult.copied, ClassicRfcXrfcParameter.copied, WireBuffer.copied]

/-- Groups are read in the same way, whoever owns the fields. -/
theorem decodeGroup_copied (s : Grouping) (field : CpicField) (fields : List CpicField) :
    decodeGroup false s.copied field fields =
      (decodeGroup true s field fields).map copiedGroup := by
  rw [decodeGroup, decodeGroup, decodeXrfcParameter_copied, decodeScalar_copied, decodeTable_copied]
  repeat' split
  all_goals first | rfl | skip
  cases decodeParameterName field.value "requested output name" <;> rfl

theorem decodeGroups_copied (s : Grouping) (fields : List CpicField) :
    decodeGroups false s.copied fields = (decodeGroups true s fields).map Grouping.copied := by
  fun_induction decodeGroups true s fields with
  | case1 s => rw [decodeGroups]; rfl
  | case2 s field fields ih =>
      rw [decodeGroups, decodeGroup_copied]
      cases hread : decodeGroup true s field fields with
      | error message => rfl
      | ok read => exact ih read.1 read.2

theorem decodeOwnedClassicRfcResult_copied (fields : List CpicField) :
    decodeClassicRfcResult fields =
      (decodeOwnedClassicRfcResult fields).map ClassicRfcResult.copied := by
  have hgroups := decodeGroups_copied .empty fields
  change decodeGroups false .empty fields = _ at hgroups
  rw [decodeClassicRfcResult, decodeOwnedClassicRfcResult, decodeClassicRfcResultWithOwnership,
    decodeClassicRfcResultWithOwnership, hgroups]
  cases preflightClassicRfcResultBytes fields with
  | error message => rfl
  | ok _ =>
      cases preflightClassicRfcTableBytes fields with
      | error message => rfl
      | ok _ =>
          simp only [ok_bind]
          cases decodeGroups true .empty fields <;> rfl

end Ownership

/-- A response is rejected, or what is returned of it is its fields in groups. -/
theorem decodeClassicRfcResult_flattens (fields : List CpicField) :
    (∃ message, decodeClassicRfcResult fields = .error message) ∨
      ∃ groups pieces, decodeClassicRfcResult fields = .ok (Group.result groups) ∧
        List.Forall₂ Group.Fields groups pieces ∧
        fields.filter (fun field => field.tag ∉ nonApplicationTags) = pieces.flatten ∧
        ((Group.result groups).scalars.map (·.name) ++
          (Group.result groups).tables.map (·.name)).Nodup ∧
        ((Group.result groups).tables.map fun table =>
            (table.rows.map (·.bytes.length)).sum).sum ≤
          defaultMaxClassicRfcResultTableDecodedBytes ∧
        (decodeOwnedClassicRfcResult fields).map ClassicRfcResult.copied =
          .ok (Group.result groups) := by
  cases hresult : decodeClassicRfcResult fields with
  | error message => exact .inl ⟨message, rfl⟩
  | ok result =>
      right
      have howned := decodeOwnedClassicRfcResult_copied fields
      rw [hresult] at howned
      simp only [decodeClassicRfcResult, decodeClassicRfcResultWithOwnership, bind_eq_ok,
        Except.ok.injEq] at hresult
      obtain ⟨_, -, _, hpreflight, s, hs, rfl⟩ := hresult
      obtain ⟨groups, pieces, hgrouped, rfl, hnodup⟩ := decodeGroups_eq_ok hs List.nodup_nil
      have hgroups : (groups.foldl Grouping.add .empty).result = Group.result groups :=
        foldl_add_result groups .empty
      rw [hgroups] at howned ⊢
      obtain ⟨hflatten, hfields⟩ := hgrouped.filter
      have hsum := preflightTables_grouped hgrouped hpreflight (Nat.zero_le _)
      rw [Nat.zero_add, tableBytes_sum] at hsum
      exact ⟨groups, pieces, rfl, hfields, hflatten,
        (foldl_add_names groups .empty).nodup_iff.mp hnodup, hsum, howned.symm⟩

end OpenRfc.Classic
