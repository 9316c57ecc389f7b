import OpenRfc.Xrfc.ClassicCells

/-!
A flat parameter is read as the normal form of the value which has been written. The length which is
planned for rows and documents is the one of their markup.
-/

namespace OpenRfc.Xrfc
open Fallible Values
open Classic (RfcStructureDefinition RfcStructureField path)

section Markup

def cellMarkup (cell : PlannedCell) : JsString := element cell.field.fieldName (escape cell.content)

/-- What is written within the element of an item, or within the one of a structure. -/
def cellsMarkup (cells : List PlannedCell) : JsString := cells.flatMap cellMarkup

def rowMarkup (itemWrapper : Bool) (row : PlannedRow) : JsString :=
  if itemWrapper then element itemName (cellsMarkup row.cells) else cellsMarkup row.cells

def rowsMarkup (itemWrapper : Bool) (rows : List PlannedRow) : JsString :=
  rows.flatMap (rowMarkup itemWrapper)

def parameterMarkup (parameterName : JsString) (kind : ClassicXrfcKind) (rows : List PlannedRow) : JsString :=
  element parameterName (rowsMarkup (kind = .table) rows)

/-- A cell whose planned length is the one of its markup. -/
structure Measured (cell : PlannedCell) : Prop where
  name : isSimpleXmlName cell.field.fieldName = true
  length_eq : cell.encodedByteLength = (escape cell.content).utf8.length

theorem isSimpleXmlName_item : isSimpleXmlName itemName = true := by decide

variable {capacity : Nat}

theorem writes_cell {cell : PlannedCell} (h : Measured cell) :
    Writes capacity (fun target => writePlannedCell target cell) (cellMarkup cell) := by
  cases cell with
  | text field value n =>
      exact ((writes_openTag h.name).append (writes_escape value)).append (writes_closeTag h.name)
  | bytes field value n =>
      have hcontent : Writes capacity (fun target => writeAscii target (Base64.encode value))
          (escape (Base64.encode value)) := by
        rw [escape_encode]
        exact writes_ascii fun unit hunit => (plain_encode value unit hunit).1
      exact ((writes_openTag h.name).append hcontent).append (writes_closeTag h.name)

theorem writes_row (itemWrapper : Bool) {row : PlannedRow} (h : ∀ cell ∈ row.cells, Measured cell) :
    Writes capacity (fun target => writePlannedRow itemWrapper target row) (rowMarkup itemWrapper row) := by
  have hcontent : Writes capacity (fun target => row.cells.foldl writePlannedCell target) (cellsMarkup row.cells) :=
    Writes.foldl fun cell hcell => writes_cell (h cell hcell)
  cases itemWrapper with
  | false => exact hcontent
  | true =>
      exact ((writes_openTag isSimpleXmlName_item).append hcontent).append
        (writes_closeTag isSimpleXmlName_item)

theorem isWellFormed_rowMarkup (itemWrapper : Bool) {row : PlannedRow}
    (h : ∀ cell ∈ row.cells, Measured cell) : (rowMarkup itemWrapper row).isWellFormed = true :=
  (writes_row itemWrapper h : Writes 0 _ _).wellFormed

/-- A buffer of the length of a document is filled by the document. -/
theorem writeParameter_eq {parameterName : JsString} (hname : isSimpleXmlName parameterName = true)
    (kind : ClassicXrfcKind) {rows : List PlannedRow} (h : ∀ row ∈ rows, ∀ cell ∈ row.cells, Measured cell)
    {byteLength : Nat} (hlength : byteLength = (parameterMarkup parameterName kind rows).utf8.length) :
    writeParameter parameterName kind rows byteLength =
      ⟨(parameterMarkup parameterName kind rows).utf8, byteLength⟩ := by
  have hrows : Writes byteLength
      (fun target => rows.foldl (writePlannedRow (kind = .table)) target)
      (rowsMarkup (kind = .table) rows) :=
    Writes.foldl fun row hrow => writes_row _ (h row hrow)
  have hwrites := ((writes_openTag hname).append hrows).append (writes_closeTag hname)
  have hholding := hwrites.holding [] (by rw [List.length_nil, hlength]; exact (Nat.zero_add _).le)
  rw [List.nil_append, ← element, ← parameterMarkup] at hholding
  have hempty : Target.holding byteLength [] = ⟨Bytes.alloc byteLength, 0⟩ := rfl
  rw [hempty] at hholding
  rw [writeParameter, hholding, Target.holding, ← hlength, Nat.sub_self]
  exact congrArg (fun buffer => Target.mk buffer byteLength) (List.append_nil _)

theorem length_cellMarkup {cell : PlannedCell} (h : Measured cell) :
    (cellMarkup cell).utf8.length = cellByteLength cell := by
  rw [cellMarkup, length_utf8_element h.name (isWellFormed_escape _), cellByteLength, h.length_eq]

end Markup

section Rows
variable {host : Host} {numberOf : JsString → Double} {definition : RfcStructureDefinition}
  {int8Mode : ClassicInt8Mode} {bcd : ClassicBcdMode} {limits : NormalizedClassicXrfcLimits}

/-- The fields which a row may have. -/
structure Cellular (host : Host) (numberOf : JsString → Double) (field : RfcStructureField) : Prop where
  name : isSimpleXmlName field.fieldName = true
  float : field.exid = .float → ReadsFloats host numberOf

/-- The planned cell of a field, with the value which it holds. -/
def PlannedFor (host : Host) (numberOf : JsString → Double) (definition : RfcStructureDefinition)
    (limits : NormalizedClassicXrfcLimits) (int8Mode : ClassicInt8Mode) (bcd : ClassicBcdMode)
    (record : RfcRecord) (field : RfcStructureField) (cell : PlannedCell) : Prop :=
  Cellular host numberOf field ∧ ∃ value, suppliedCell int8Mode record field = .ok value ∧
    Planned host numberOf field limits int8Mode bcd (path definition field) value cell

theorem PlannedFor.measured {record : RfcRecord} {field : RfcStructureField} {cell : PlannedCell}
    (h : PlannedFor host numberOf definition limits int8Mode bcd record field cell) : Measured cell := by
  obtain ⟨hfield, value, -, hplanned⟩ := h
  exact ⟨hplanned.field_eq ▸ hfield.name, hplanned.length_eq⟩

variable (bcd) in
theorem planCells_eq_ok (hsafe : limits.maxParameterBytes ≤ Double.maxSafeInteger) {record : RfcRecord}
    {rowPath : String} {fields : List RfcStructureField}
    (hfields : ∀ field ∈ fields, Cellular host numberOf field) {n m : Nat} {cells : List PlannedCell}
    (h : planCells host definition limits int8Mode record rowPath fields n = .ok (cells, m)) :
    List.Forall₂ (PlannedFor host numberOf definition limits int8Mode bcd record) fields cells ∧
      m = n + (cellsMarkup cells).utf8.length ∧ (fields ≠ [] → m ≤ limits.maxRowBytes) := by
  induction fields generalizing n cells with
  | nil =>
      obtain ⟨rfl, rfl⟩ := Prod.mk.inj (Except.ok.inj h)
      exact ⟨.nil, rfl, fun hne => absurd rfl hne⟩
  | cons field fields ih =>
      obtain ⟨hfield, hfields⟩ := List.forall_mem_cons.mp hfields
      obtain ⟨value, hvalue, h⟩ := bind_eq_ok.mp h
      obtain ⟨cell, hcell, h⟩ := bind_eq_ok.mp h
      obtain ⟨next, hnext, h⟩ := bind_eq_ok.mp h
      obtain ⟨_, hrow, h⟩ := bind_eq_ok.mp h
      rw [require_eq_ok] at hrow
      obtain ⟨⟨rest, last⟩, hrest, h⟩ := bind_eq_ok.mp h
      obtain ⟨rfl, rfl⟩ := Prod.mk.inj (Except.ok.inj h)
      obtain ⟨hcells, hlast, hmax⟩ := ih hfields hrest
      have hplanned : PlannedFor host numberOf definition limits int8Mode bcd record field cell :=
        ⟨hfield, value, hvalue, planned_of_planCell hsafe hfield.float hcell⟩
      have hmeasured := hplanned.measured
      have hformed : (cellMarkup cell).isWellFormed = true :=
        isWellFormed_element hmeasured.name (isWellFormed_escape _)
      refine ⟨.cons hplanned hcells, ?_, fun _ => ?_⟩
      · rw [cellsMarkup, List.flatMap_cons, JsString.utf8_append hformed, List.length_append,
          length_cellMarkup hmeasured, hlast, checkedClassicXrfcLength_eq_ok hnext, Nat.add_assoc,
          cellsMarkup]
      · cases fields with
        | nil =>
            obtain ⟨rfl, rfl⟩ := Prod.mk.inj (Except.ok.inj hrest)
            exact hrow
        | cons field' fields => exact hmax (List.cons_ne_nil _ _)

/-- The entry of a field in a record which has been read. -/
def EntryForm (host : Host) (numberOf : JsString → Double) (definition : RfcStructureDefinition)
    (int8Mode : ClassicInt8Mode) (record : RfcRecord) (field : RfcStructureField)
    (entry : JsString × RfcValue) : Prop :=
  entry.1 = field.fieldName ∧ ∃ value, suppliedCell int8Mode record field = .ok value ∧
    CellForm host numberOf field (path definition field) int8Mode value entry.2

/-- A record with the packed decimals in the representation of the mode. -/
def projectRow (bcd : ClassicBcdMode) : List RfcStructureField → RfcRecord → Except String RfcRecord
  | field :: fields, (name, value) :: row => do
    let value ← projectCell field bcd value
    let row ← projectRow bcd fields row
    .ok ((name, value) :: row)
  | _, _ => .ok []

theorem parseCells_of {record : RfcRecord} {fields : List RfcStructureField} {cells : List PlannedCell}
    (h : List.Forall₂ (PlannedFor host numberOf definition limits int8Mode bcd record) fields cells) :
    ∃ row, List.Forall₂ (EntryForm host numberOf definition int8Mode record) fields row ∧
      ∀ (parser : ExactClassicXrfcParser) (projected : Nat) (rest : JsString),
        parser.limits = limits → parser.rest = cellsMarkup cells ++ rest →
        projected + (cellsMarkup cells).utf8.length ≤ limits.maxParameterBytes →
        ∃ consumed, consumed ≤ (cellsMarkup cells).utf8.length ∧
          parseCells host numberOf definition limits int8Mode bcd fields parser projected =
            (projectRow bcd fields row).map fun row =>
              (row, parser.skipText (cellsMarkup cells), projected + consumed) := by
  induction h with
  | nil => exact ⟨[], .nil, fun parser projected rest _ _ _ => ⟨0, Nat.zero_le _, rfl⟩⟩
  | @cons field cell fields cells hcell hcells ih =>
      obtain ⟨row, hrow, hparse⟩ := ih
      have hmeasured := hcell.measured
      obtain ⟨hfield, value, hvalue, hplanned⟩ := hcell
      obtain ⟨out, hform, hread⟩ := hplanned.reads
      obtain rfl := hplanned.field_eq
      refine ⟨(cell.field.fieldName, out) :: row, .cons ⟨rfl, value, hvalue, hform⟩ hrow, ?_⟩
      intro parser projected rest hlimits hrest hprojected
      have hformed : (cellMarkup cell).isWellFormed = true :=
        isWellFormed_element hmeasured.name (isWellFormed_escape _)
      have hmarkup : cellsMarkup (cell :: cells) = cellMarkup cell ++ cellsMarkup cells := rfl
      rw [hmarkup, JsString.utf8_append hformed, List.length_append] at hprojected ⊢
      rw [hmarkup, List.append_assoc] at hrest
      have hshort : (escape cell.content).utf8.length ≤ (cellMarkup cell).utf8.length := by
        rw [cellMarkup, length_utf8_element hmeasured.name (isWellFormed_escape _)]
        omega
      have hlimit : (escape cell.content).utf8.length ≤ parser.limits.maxCellBytes := by
        rw [hlimits, ← hplanned.length_eq]
        exact hplanned.length_le
      obtain ⟨hopen, htext, hclose, hnext⟩ := ExactClassicXrfcParser.read_cell hmeasured.name
        hplanned.xmlText hrest hlimit (path definition cell.field)
      obtain ⟨consumed, hconsumed, hdecode⟩ := hread projected (by omega)
      obtain ⟨consumed', hconsumed', hcells⟩ := hparse (parser.skipText (cellMarkup cell))
        (projected + consumed) rest hlimits hnext (by omega)
      refine ⟨consumed + consumed', by omega, ?_⟩
      rw [parseCells, hopen, ok_bind, htext, ok_bind]
      dsimp only
      rw [hclose, ok_bind, hdecode, projectRow]
      cases projectCell cell.field bcd out with
      | error e => rfl
      | ok value =>
          change (parseCells host numberOf definition limits int8Mode bcd fields
            (parser.skipText (cellMarkup cell)) (projected + consumed) >>= _) = _
          rw [hcells, ok_bind]
          cases projectRow bcd fields row with
          | error e => rfl
          | ok row =>
              rw [ExactClassicXrfcParser.skipText_append hformed, ← Nat.add_assoc]
              rfl

/-- A row which has been read. -/
def RowForm (host : Host) (numberOf : JsString → Double) (definition : RfcStructureDefinition)
    (int8Mode : ClassicInt8Mode) (input : RfcValue) (row : RfcRecord) : Prop :=
  ∃ record, rowProperties input = some record ∧
    List.Forall₂ (EntryForm host numberOf definition int8Mode record) definition.fields row

/-- A planned row of a value, whose length is the one of its markup. -/
def RowPlanned (host : Host) (numberOf : JsString → Double) (definition : RfcStructureDefinition)
    (limits : NormalizedClassicXrfcLimits) (int8Mode : ClassicInt8Mode) (bcd : ClassicBcdMode)
    (itemWrapper : Bool) (input : RfcValue) (row : PlannedRow) : Prop :=
  (∃ record, rowProperties input = some record ∧
    List.Forall₂ (PlannedFor host numberOf definition limits int8Mode bcd record) definition.fields row.cells) ∧
  row.encodedByteLength = (rowMarkup itemWrapper row).utf8.length ∧
  row.encodedByteLength ≤ limits.maxRowBytes

theorem measured_of_forall₂ {record : RfcRecord} {fields : List RfcStructureField} {cells : List PlannedCell}
    (h : List.Forall₂ (PlannedFor host numberOf definition limits int8Mode bcd record) fields cells) :
    ∀ cell ∈ cells, Measured cell := by
  induction h with
  | nil => nofun
  | cons hcell _ ih => exact List.forall_mem_cons.mpr ⟨hcell.measured, ih⟩

theorem RowPlanned.measured {itemWrapper : Bool} {input : RfcValue} {row : PlannedRow}
    (h : RowPlanned host numberOf definition limits int8Mode bcd itemWrapper input row) :
    ∀ cell ∈ row.cells, Measured cell := by
  obtain ⟨⟨record, -, hcells⟩, -, -⟩ := h
  exact measured_of_forall₂ hcells

theorem isWellFormed_cellsMarkup {cells : List PlannedCell} (h : ∀ cell ∈ cells, Measured cell) :
    (cellsMarkup cells).isWellFormed = true := by
  have hwrites : Writes 0 (fun target => cells.foldl writePlannedCell target) (cellsMarkup cells) :=
    Writes.foldl fun cell hcell => writes_cell (h cell hcell)
  exact hwrites.wellFormed

variable (bcd) in
theorem planRow_eq_ok (hsafe : limits.maxParameterBytes ≤ Double.maxSafeInteger)
    (hfields : ∀ field ∈ definition.fields, Cellular host numberOf field)
    (hne : definition.fields ≠ []) {input : RfcValue} {itemWrapper : Bool} {rowIndex : Option Nat}
    {row : PlannedRow}
    (h : planRow host definition limits int8Mode input itemWrapper rowIndex = .ok row) :
    RowPlanned host numberOf definition limits int8Mode bcd itemWrapper input row := by
  rw [planRow] at h
  dsimp only at h
  split at h
  · exact absurd h nofun
  rename_i record hrecord
  split at h
  · exact absurd h nofun
  obtain ⟨⟨cells, m⟩, hplan, h⟩ := bind_eq_ok.mp h
  obtain rfl := Except.ok.inj h
  obtain ⟨hcells, hm, hmax⟩ := planCells_eq_ok bcd hsafe hfields hplan
  refine ⟨⟨record, hrecord, hcells⟩, ?_, hmax hne⟩
  subst hm
  cases itemWrapper with
  | false => exact Nat.zero_add _
  | true =>
      have hformed := isWellFormed_cellsMarkup (measured_of_forall₂ hcells)
      have hlength := length_utf8_element isSimpleXmlName_item hformed
      change itemWrapperByteLength + _ = (element itemName (cellsMarkup cells)).utf8.length
      simp only [itemWrapperByteLength, classicXrfcOpenTagByteLength, classicXrfcCloseTagByteLength,
        itemName, List.length_cons, List.length_nil] at hlength ⊢
      omega

variable (bcd) in
theorem appendRows_eq_ok (hsafe : limits.maxParameterBytes ≤ Double.maxSafeInteger)
    (hfields : ∀ field ∈ definition.fields, Cellular host numberOf field)
    (hne : definition.fields ≠ []) {parameterName : JsString} {kind : ClassicXrfcKind} {index n m : Nat}
    {values : List RfcValue} {rows : List PlannedRow} (hn : n ≤ limits.maxParameterBytes)
    (h : appendRows host definition limits int8Mode parameterName kind index values n = .ok (rows, m)) :
    List.Forall₂ (RowPlanned host numberOf definition limits int8Mode bcd (kind = .table)) values rows ∧
      m = n + (rowsMarkup (kind = .table) rows).utf8.length ∧ m ≤ limits.maxParameterBytes := by
  induction values generalizing index n rows with
  | nil =>
      obtain ⟨rfl, rfl⟩ := Prod.mk.inj (Except.ok.inj h)
      exact ⟨.nil, rfl, hn⟩
  | cons value values ih =>
      obtain ⟨row, hrow, h⟩ := bind_eq_ok.mp h
      obtain ⟨next, hnext, h⟩ := bind_eq_ok.mp h
      obtain ⟨_, hfits, h⟩ := bind_eq_ok.mp h
      rw [require_eq_ok] at hfits
      obtain ⟨⟨rest, last⟩, hrest, h⟩ := bind_eq_ok.mp h
      obtain ⟨rfl, rfl⟩ := Prod.mk.inj (Except.ok.inj h)
      obtain ⟨hrows, hlast, hmax⟩ := ih hfits hrest
      have hplanned : RowPlanned host numberOf definition limits int8Mode bcd (kind = .table) value row :=
        planRow_eq_ok bcd hsafe hfields hne hrow
      refine ⟨.cons hplanned hrows, ?_, hmax⟩
      have hformed := isWellFormed_rowMarkup (kind = .table) hplanned.measured
      rw [rowsMarkup, List.flatMap_cons, JsString.utf8_append hformed, List.length_append,
        ← rowsMarkup, ← hplanned.2.1, hlast, checkedClassicXrfcLength_eq_ok hnext, Nat.add_assoc]

theorem parseRow_of {itemWrapper : Bool} {input : RfcValue} {row : PlannedRow}
    (h : RowPlanned host numberOf definition limits int8Mode bcd itemWrapper input row) :
    ∃ out, RowForm host numberOf definition int8Mode input out ∧
      ∀ (parser : ExactClassicXrfcParser) (projected : Nat) (rest : JsString),
        parser.limits = limits → parser.rest = rowMarkup itemWrapper row ++ rest →
        projected + (rowMarkup itemWrapper row).utf8.length ≤ limits.maxParameterBytes →
        ∃ consumed, consumed ≤ (rowMarkup itemWrapper row).utf8.length ∧
          parseRow host numberOf definition limits int8Mode bcd itemWrapper parser projected =
            (projectRow bcd definition.fields out).map fun out =>
              (out, parser.skipText (rowMarkup itemWrapper row), projected + consumed) := by
  have hmeasured := h.measured
  obtain ⟨⟨record, hrecord, hcells⟩, hlength, hmax⟩ := h
  have hformed := isWellFormed_cellsMarkup hmeasured
  obtain ⟨out, hout, hparse⟩ := parseCells_of hcells
  refine ⟨out, ⟨record, hrecord, hout⟩, ?_⟩
  intro parser projected rest hlimits hrest hprojected
  have hrowLength : (parser.skipText (rowMarkup itemWrapper row)).rowByteLength parser.byteOffset ≤
      limits.maxRowBytes := by
    rw [ExactClassicXrfcParser.rowByteLength, ExactClassicXrfcParser.byteOffset_skipText]
    omega
  cases itemWrapper with
  | false =>
      obtain ⟨consumed, hconsumed, hcells⟩ := hparse parser projected rest hlimits hrest hprojected
      refine ⟨consumed, hconsumed, ?_⟩
      rw [parseRow]
      simp only [Bool.false_eq_true, if_false, ok_bind]
      rw [hcells]
      cases projectRow bcd definition.fields out with
      | error e => rfl
      | ok out =>
          change (require ((parser.skipText (rowMarkup false row)).rowByteLength parser.byteOffset ≤
            limits.maxRowBytes) _ >>= _) = _
          rw [require_of hrowLength]
          rfl
  | true =>
      have hmarkup : rowMarkup true row = element itemName (cellsMarkup row.cells) := rfl
      have hlengths := length_utf8_element isSimpleXmlName_item hformed
      rw [hmarkup] at hrest hprojected hrowLength ⊢
      have hstart := hrest
      rw [element, List.append_assoc, List.append_assoc] at hstart
      have hopen := ExactClassicXrfcParser.openElement_of isSimpleXmlName_item hstart
      have hinner := ExactClassicXrfcParser.rest_skipText hstart
      obtain ⟨consumed, hconsumed, hcells⟩ := hparse (parser.skipText (openTag itemName)) projected
        (closeTag itemName ++ rest) hlimits hinner (by omega)
      have hclose := ExactClassicXrfcParser.closeElement_of isSimpleXmlName_item
        (ExactClassicXrfcParser.rest_skipText hinner)
      rw [← ExactClassicXrfcParser.skipText_element isSimpleXmlName_item hformed] at hclose
      refine ⟨consumed, by omega, ?_⟩
      rw [parseRow]
      simp only [if_true, hopen, ok_bind]
      rw [hcells]
      cases projectRow bcd definition.fields out with
      | error e => rfl
      | ok out =>
          change (ExactClassicXrfcParser.closeElement _ _ >>= _) = _
          rw [hclose, ok_bind, require_of hrowLength, ok_bind]
          rfl

def projectRows (bcd : ClassicBcdMode) (fields : List RfcStructureField) :
    List RfcRecord → Except String (List RfcRecord)
  | [] => .ok []
  | row :: rows => do
    let row ← projectRow bcd fields row
    let rows ← projectRows bcd fields rows
    .ok (row :: rows)

theorem startsWithCloseTag_of_rows {parameterName rest : JsString} {rows : List PlannedRow}
    {parser : ExactClassicXrfcParser}
    (h : parser.rest = rowsMarkup true rows ++ (closeTag parameterName ++ rest)) :
    parser.startsWithCloseTag parameterName = rows.isEmpty := by
  rw [ExactClassicXrfcParser.startsWithCloseTag, h]
  cases rows with
  | nil =>
      rw [rowsMarkup, List.flatMap_nil, List.nil_append, List.isEmpty_nil, List.isPrefixOf_iff_prefix]
      exact List.prefix_append _ _
  | cons row rows => rfl

theorem parseRows_of (parameterName : JsString) {values : List RfcValue} {rows : List PlannedRow}
    (h : List.Forall₂ (RowPlanned host numberOf definition limits int8Mode bcd true) values rows) :
    ∃ outs, List.Forall₂ (RowForm host numberOf definition int8Mode) values outs ∧
      ∀ (remaining : Nat) (parser : ExactClassicXrfcParser) (projected : Nat) (rest : JsString),
        rows.length ≤ remaining → parser.limits = limits →
        parser.rest = rowsMarkup true rows ++ (closeTag parameterName ++ rest) →
        projected + (rowsMarkup true rows).utf8.length ≤ limits.maxParameterBytes →
        parseRows host numberOf definition limits int8Mode bcd parameterName remaining parser projected =
          (projectRows bcd definition.fields outs).map fun outs =>
            (outs, parser.skipText (rowsMarkup true rows)) := by
  induction h with
  | nil =>
      refine ⟨[], .nil, fun remaining parser projected rest _ _ hrest _ => ?_⟩
      have hclose : parser.startsWithCloseTag parameterName = true := startsWithCloseTag_of_rows hrest
      cases remaining with
      | zero =>
          rw [parseRows, if_pos hclose]
          rfl
      | succ remaining =>
          rw [parseRows, if_pos hclose]
          rfl
  | @cons value row values rows hrow _ ih =>
      obtain ⟨outs, houts, hparse⟩ := ih
      have hformed := isWellFormed_rowMarkup true hrow.measured
      obtain ⟨out, hout, hparseRow⟩ := parseRow_of hrow
      refine ⟨out :: outs, .cons hout houts, ?_⟩
      intro remaining parser projected rest hremaining hlimits hrest hprojected
      have hclose : parser.startsWithCloseTag parameterName = false := startsWithCloseTag_of_rows hrest
      have hmarkup : rowsMarkup true (row :: rows) = rowMarkup true row ++ rowsMarkup true rows := rfl
      rw [hmarkup, JsString.utf8_append hformed, List.length_append] at hprojected
      rw [hmarkup, List.append_assoc] at hrest
      rw [List.length_cons] at hremaining
      obtain ⟨remaining, rfl⟩ : ∃ n, remaining = n + 1 := ⟨remaining - 1, by omega⟩
      obtain ⟨consumed, hconsumed, hread⟩ := hparseRow parser projected _ hlimits hrest (by omega)
      have hrows := hparse remaining (parser.skipText (rowMarkup true row)) (projected + consumed) rest
        (by omega) hlimits (ExactClassicXrfcParser.rest_skipText hrest) (by omega)
      rw [parseRows, hclose, if_neg Bool.false_ne_true, hread, projectRows]
      cases projectRow bcd definition.fields out with
      | error e => rfl
      | ok out =>
          change (parseRows host numberOf definition limits int8Mode bcd parameterName remaining
            (parser.skipText (rowMarkup true row)) (projected + consumed) >>= _) = _
          rw [hrows, ok_bind, hmarkup, ExactClassicXrfcParser.skipText_append hformed]
          cases projectRows bcd definition.fields outs with
          | error e => rfl
          | ok outs => rfl

end Rows

section Parameter
variable {host : Host} {numberOf : JsString → Double} {definition : RfcStructureDefinition}
  {int8Mode : ClassicInt8Mode} {bcd : ClassicBcdMode} {limits : NormalizedClassicXrfcLimits}
  {parameterName : JsString} {kind : ClassicXrfcKind}

/-- The rows of a parameter as its value. -/
def outputValue (kind : ClassicXrfcKind) (rows : List RfcRecord) : RfcValue :=
  match kind with
  | .structured => .object (rows.headD [])
  | .table => .array (rows.map .object)

/-- What is written for some values is read as their normal form. -/
theorem parseParameter_of (hname : isSimpleXmlName parameterName = true) {values : List RfcValue}
    {rows : List PlannedRow} (hsingle : kind = .structured → values.length = 1)
    (hcount : kind = .table → rows.length ≤ limits.maxRows)
    (hfits : (parameterMarkup parameterName kind rows).utf8.length ≤ limits.maxParameterBytes)
    (h : List.Forall₂ (RowPlanned host numberOf definition limits int8Mode bcd (kind = .table)) values rows) :
    ∃ outs, List.Forall₂ (RowForm host numberOf definition int8Mode) values outs ∧
      parseParameter host numberOf definition limits int8Mode bcd parameterName kind
          (parameterMarkup parameterName kind rows) =
        (projectRows bcd definition.fields outs).map (outputValue kind) := by
  have hrows : ∀ row ∈ rows, ∀ cell ∈ row.cells, Measured cell := by
    clear hsingle hcount hfits
    induction h with
    | nil => nofun
    | cons hrow _ ih => exact List.forall_mem_cons.mpr ⟨hrow.measured, ih⟩
  have hformed : (rowsMarkup (kind = .table) rows).isWellFormed = true := by
    have hwrites : Writes 0 (fun target => rows.foldl (writePlannedRow (kind = .table)) target)
        (rowsMarkup (kind = .table) rows) :=
      Writes.foldl fun row hrow => writes_row _ (hrows row hrow)
    exact hwrites.wellFormed
  rw [parameterMarkup, length_utf8_element hname hformed] at hfits
  generalize hparser : ({ rest := parameterMarkup parameterName kind rows, limits } :
    ExactClassicXrfcParser) = parser
  have hrest : parser.rest = element parameterName (rowsMarkup (kind = .table) rows) ++ [] := by
    rw [← hparser, List.append_nil, parameterMarkup]
  have hlimits : parser.limits = limits := by rw [← hparser]
  have hstart := hrest
  rw [element, List.append_assoc, List.append_assoc] at hstart
  have hopen := ExactClassicXrfcParser.openElement_of hname hstart
  have hinner := ExactClassicXrfcParser.rest_skipText hstart
  have hclose := ExactClassicXrfcParser.closeElement_of hname
    (ExactClassicXrfcParser.rest_skipText hinner)
  rw [← ExactClassicXrfcParser.skipText_element hname hformed] at hclose
  have hfinish : (parser.skipText (element parameterName (rowsMarkup (kind = .table) rows))).finish =
      .ok () := by
    rw [ExactClassicXrfcParser.finish, require_of (ExactClassicXrfcParser.rest_skipText hrest)]
  cases kind with
  | structured =>
      obtain ⟨value, rfl⟩ := List.length_eq_one_iff.mp (hsingle rfl)
      obtain ⟨row, hrow, rfl⟩ : ∃ row, RowPlanned host numberOf definition limits int8Mode bcd false value row ∧
          rows = [row] := by
        cases h with
        | cons hrow hnil =>
            cases hnil
            exact ⟨_, hrow, rfl⟩
      obtain ⟨out, hout, hparse⟩ := parseRow_of hrow
      have hmarkup : rowsMarkup (ClassicXrfcKind.structured = .table) [row] = rowMarkup false row :=
        List.append_nil _
      rw [hmarkup] at hinner hfits hclose hfinish
      obtain ⟨consumed, -, hread⟩ := hparse (parser.skipText (openTag parameterName)) 0 _ hlimits hinner
        (by omega)
      refine ⟨[out], .cons hout .nil, ?_⟩
      rw [parseParameter, hparser, hopen, ok_bind]
      dsimp only
      rw [hread, projectRows]
      cases projectRow bcd definition.fields out with
      | error e => rfl
      | ok out =>
          change (ExactClassicXrfcParser.closeElement _ _ >>= _) = _
          rw [hclose, ok_bind, hfinish]
          rfl
  | table =>
      obtain ⟨outs, houts, hparse⟩ := parseRows_of parameterName h
      have hread := hparse limits.maxRows (parser.skipText (openTag parameterName)) 0 _ (hcount rfl) hlimits hinner
        (by
          change 0 + (rowsMarkup (ClassicXrfcKind.table = .table) rows).utf8.length ≤ _
          omega)
      refine ⟨outs, houts, ?_⟩
      rw [parseParameter, hparser, hopen, ok_bind]
      dsimp only
      rw [hread]
      cases projectRows bcd definition.fields outs with
      | error e => rfl
      | ok outs =>
          change (ExactClassicXrfcParser.closeElement _ _ >>= _) = _
          have hclose' := hclose
          change ExactClassicXrfcParser.closeElement ((parser.skipText (openTag parameterName)).skipText
            (rowsMarkup true rows)) parameterName = _ at hclose'
          rw [hclose', ok_bind, hfinish]
          rfl

theorem normalizeDefinition_eq_ok {normalized : RfcStructureDefinition}
    (h : normalizeDefinition host definition = .ok normalized) :
    normalized = definition ∧ definition.fields ≠ [] ∧
      ∀ field ∈ definition.fields, isSimpleXmlName field.fieldName = true := by
  have hnames {fields : List RfcStructureField} {u : Unit}
      (hfields : assertXrfcFields definition fields = .ok u) :
      ∀ field ∈ fields, isSimpleXmlName field.fieldName = true := by
    induction fields with
    | nil => nofun
    | cons field fields ih =>
        simp only [assertXrfcFields, assertClassicXrfcXmlName, bind_eq_ok, require_eq_ok,
          exists_const] at hfields
        exact List.forall_mem_cons.mpr ⟨hfields.1, ih hfields.2.2⟩
  obtain ⟨validated, hvalidate, hdynamic⟩ := bind_eq_ok.mp h
  obtain ⟨hsame, -⟩ := Classic.validate_eq_ok hvalidate
  obtain ⟨dynamic, hfound, hrest⟩ := bind_eq_ok.mp hdynamic
  simp only [bind_eq_ok, require_eq_ok, exists_const, Except.ok.injEq] at hrest
  obtain ⟨hyes, _, hfields, hnormalized⟩ := hrest
  rw [hsame] at hfound hfields hnormalized
  obtain ⟨validated', hvalidate', hany⟩ := bind_eq_ok.mp hfound
  refine ⟨hnormalized.symm, fun hnil => ?_, hnames hfields⟩
  rw [(Classic.validate_eq_ok hvalidate').1, hnil, List.any_nil] at hany
  exact absurd ((Except.ok.inj hany).trans hyes) Bool.false_ne_true

theorem normalizeClassicXrfcLimits_safe {options : ClassicXrfcLimits}
    (h : normalizeClassicXrfcLimits options = .ok limits) :
    limits.maxParameterBytes ≤ Double.maxSafeInteger := by
  simp only [normalizeClassicXrfcLimits, boundedLimit, bind_eq_ok, require_eq_ok, exists_const,
    Except.ok.injEq] at h
  obtain ⟨_, -, _, -, _, ⟨hmax, rfl⟩, _, -, rfl⟩ := h
  exact hmax.trans (by decide)

theorem head_parameterMarkup (parameterName : JsString) (kind : ClassicXrfcKind) (rows : List PlannedRow) :
    ∃ rest, parameterMarkup parameterName kind rows = 0x3c :: (parameterName ++ 0x3e :: rest) := by
  refine ⟨rowsMarkup (kind = .table) rows ++ closeTag parameterName, ?_⟩
  rw [parameterMarkup, element, openTag]
  simp

/-- A document is text which starts with an angle bracket. -/
theorem decodeDocument_utf8 {text rest : JsString} (hformed : text.isWellFormed = true)
    (hhead : text = 0x3c :: rest) {maxParameterBytes : Nat} (hfits : text.utf8.length ≤ maxParameterBytes)
    (name : String) : decodeDocument text.utf8 maxParameterBytes name = .ok text := by
  have hbytes : text.utf8 = 0x3c :: JsString.utf8 rest := by
    rw [hhead, JsString.utf8, JsString.chars_cons (by decide)]
    rfl
  have hpos : text.utf8.length ≠ 0 := by
    rw [hbytes, List.length_cons]
    exact Nat.succ_ne_zero _
  have hmark : isByteOrderMark text.utf8 = false := by
    rw [isByteOrderMark, hbytes, List.take_succ_cons, decide_eq_false_iff_not]
    intro he
    exact absurd (List.cons.inj he).1 (by decide)
  rw [decodeDocument, require_of ⟨hpos, hfits⟩, ok_bind, require_of hmark, ok_bind,
    JsString.ofUtf8?_utf8 hformed]

theorem leadingTag?_of {parameterName rest : JsString} (hname : isSimpleXmlName parameterName = true) :
    leadingTag? (0x3c :: (parameterName ++ 0x3e :: rest)) = some parameterName := by
  have htake : (parameterName ++ 0x3e :: rest).takeWhile isNameUnit = parameterName := by
    rw [List.takeWhile_append_of_pos (isNameUnit_of_mem hname), List.takeWhile_cons_of_neg (by decide),
      List.append_nil]
  rw [leadingTag?, htake, List.drop_left, if_pos ⟨hname, rfl⟩]

/-- The rows of a parameter in normal form. -/
def ParameterForm (host : Host) (numberOf : JsString → Double) (definition : RfcStructureDefinition)
    (int8Mode : ClassicInt8Mode) (kind : ClassicXrfcKind) (value : RfcValue) (outs : List RfcRecord) : Prop :=
  match kind with
  | .structured => List.Forall₂ (RowForm host numberOf definition int8Mode) [value] outs
  | .table =>
    ∃ rows, value = .array rows ∧ List.Forall₂ (RowForm host numberOf definition int8Mode) rows outs

theorem projectRow_string (fields : List RfcStructureField) {row : RfcRecord}
    (h : row.length = fields.length) : projectRow .string fields row = .ok row := by
  induction row generalizing fields with
  | nil => cases fields <;> rfl
  | cons entry row ih =>
      cases fields with
      | nil => exact absurd h (Nat.succ_ne_zero _)
      | cons field fields =>
          have hcell : projectCell field .string entry.2 = .ok entry.2 := by
            unfold projectCell
            split
            · rename_i heq
              exact congrArg Except.ok heq.symm
            · rfl
          rw [projectRow, hcell, ok_bind, ih fields (Nat.succ.inj h), ok_bind]

theorem projectRows_string {values : List RfcValue} {outs : List RfcRecord}
    (h : List.Forall₂ (RowForm host numberOf definition int8Mode) values outs) :
    projectRows .string definition.fields outs = .ok outs := by
  induction h with
  | nil => rfl
  | cons hrow _ ih =>
      obtain ⟨record, -, hentries⟩ := hrow
      rw [projectRows, projectRow_string _ hentries.length_eq.symm, ok_bind, ih, ok_bind]

theorem measured_of_rows {values : List RfcValue} {rows : List PlannedRow}
    (h : List.Forall₂ (RowPlanned host numberOf definition limits int8Mode bcd (kind = .table)) values rows) :
    ∀ row ∈ rows, ∀ cell ∈ row.cells, Measured cell := by
  induction h with
  | nil => nofun
  | cons hrow _ ih => exact List.forall_mem_cons.mpr ⟨hrow.measured, ih⟩

theorem isWellFormed_rowsMarkup {rows : List PlannedRow} (h : ∀ row ∈ rows, ∀ cell ∈ row.cells, Measured cell)
    (itemWrapper : Bool) : (rowsMarkup itemWrapper rows).isWellFormed = true := by
  have hwrites : Writes 0 (fun target => rows.foldl (writePlannedRow itemWrapper) target)
      (rowsMarkup itemWrapper rows) :=
    Writes.foldl fun row hrow => writes_row _ (h row hrow)
  exact hwrites.wellFormed

variable (bcd) in
/-- The rows which are planned, and the document which they are written as. -/
theorem planned_rows (hname : isSimpleXmlName parameterName = true)
    (hsafe : limits.maxParameterBytes ≤ Double.maxSafeInteger)
    (hfields : ∀ field ∈ definition.fields, Cellular host numberOf field) (hne : definition.fields ≠ [])
    (htags : classicXrfcOpenTagByteLength parameterName + classicXrfcCloseTagByteLength parameterName ≤
      limits.maxParameterBytes) {values : List RfcValue} {rows : List PlannedRow} {byteLength : Nat}
    (h : appendRows host definition limits int8Mode parameterName kind 0 values
        (classicXrfcOpenTagByteLength parameterName + classicXrfcCloseTagByteLength parameterName) =
      .ok (rows, byteLength)) :
    List.Forall₂ (RowPlanned host numberOf definition limits int8Mode bcd (kind = .table)) values rows ∧
      byteLength = (parameterMarkup parameterName kind rows).utf8.length ∧
      byteLength ≤ limits.maxParameterBytes ∧
      writeParameter parameterName kind rows byteLength =
        ⟨(parameterMarkup parameterName kind rows).utf8, byteLength⟩ := by
  obtain ⟨hrows, hlength, hfits⟩ := appendRows_eq_ok bcd hsafe hfields hne htags h
  have hmeasured := measured_of_rows hrows
  have hmarkup : byteLength = (parameterMarkup parameterName kind rows).utf8.length := by
    rw [parameterMarkup, length_utf8_element hname (isWellFormed_rowsMarkup hmeasured _), hlength]
    omega
  exact ⟨hrows, hmarkup, hfits, writeParameter_eq hname kind hmeasured hmarkup⟩

/-- What is checked and planned before a document is written. -/
theorem encodeClassicXrfcParameter_eq_ok {value : RfcValue} {options : ClassicXrfcLimits} {bytes : Bytes}
    (hencode : encodeClassicXrfcParameter host parameterName definition kind value options int8Mode = .ok bytes) :
    isSimpleXmlName parameterName = true ∧ ∃ limits values rows byteLength,
      normalizeClassicXrfcLimits options = .ok limits ∧
      classicXrfcOpenTagByteLength parameterName + classicXrfcCloseTagByteLength parameterName ≤
        limits.maxParameterBytes ∧
      parameterRows limits parameterName kind value = .ok values ∧
      appendRows host definition limits int8Mode parameterName kind 0 values
          (classicXrfcOpenTagByteLength parameterName + classicXrfcCloseTagByteLength parameterName) =
        .ok (rows, byteLength) ∧
      bytes = (writeParameter parameterName kind rows byteLength).buffer := by
  obtain ⟨_, hname, h₁⟩ := bind_eq_ok.mp hencode
  rw [assertClassicXrfcXmlName, require_eq_ok] at hname
  obtain ⟨normalized, hnormalized, h₂⟩ := bind_eq_ok.mp h₁
  rw [(normalizeDefinition_eq_ok hnormalized).1] at h₂
  obtain ⟨limits, hlimits, h₃⟩ := bind_eq_ok.mp h₂
  obtain ⟨_, htags, h₄⟩ := bind_eq_ok.mp h₃
  rw [require_eq_ok] at htags
  obtain ⟨values, hvalues, h₅⟩ := bind_eq_ok.mp h₄
  obtain ⟨⟨rows, byteLength⟩, happend, h₆⟩ := bind_eq_ok.mp h₅
  obtain ⟨_, -, h₇⟩ := bind_eq_ok.mp h₆
  exact ⟨hname, limits, values, rows, byteLength, hlimits, htags, hvalues, happend,
    (Except.ok.inj h₇).symm⟩

/-- The rows of a value are as many as its kind allows. -/
theorem parameterRows_eq_ok {value : RfcValue} {values : List RfcValue}
    (h : parameterRows limits parameterName kind value = .ok values) :
    (kind = .structured → values.length = 1) ∧ (kind = .table → values.length ≤ limits.maxRows) ∧
      ∀ host numberOf definition int8Mode outs,
        List.Forall₂ (RowForm host numberOf definition int8Mode) values outs →
        ParameterForm host numberOf definition int8Mode kind value outs := by
  cases kind with
  | structured =>
      obtain rfl := Except.ok.inj h
      exact ⟨fun _ => rfl, nofun, fun _ _ _ _ outs houts => houts⟩
  | table =>
      cases value with
      | array rows =>
          simp only [parameterRows, bind_eq_ok, require_eq_ok, exists_const, Except.ok.injEq] at h
          obtain ⟨hcount, rfl⟩ := h
          exact ⟨nofun, fun _ => hcount, fun _ _ _ _ outs houts => ⟨rows, rfl, houts⟩⟩
      | _ => exact absurd h nofun

/-- Every document which is written has its planned length, names its parameter, and is read as the
normal form of the value. -/
theorem flat_round_trip (host : Host) (numberOf : JsString → Double) (parameterName : JsString)
    (definition normalized : RfcStructureDefinition) (kind : ClassicXrfcKind) (value : RfcValue)
    (options : ClassicXrfcLimits) (int8Mode : ClassicInt8Mode) (bcd : ClassicBcdMode)
    (hdefinition : validateClassicXrfcDefinition host definition = .ok normalized)
    (hfloat : (∃ field ∈ definition.fields, field.exid = .float) → ReadsFloats host numberOf) :
    (∀ limits values rows byteLength, isSimpleXmlName parameterName = true →
      normalizeClassicXrfcLimits options = .ok limits →
      classicXrfcOpenTagByteLength parameterName + classicXrfcCloseTagByteLength parameterName ≤
        limits.maxParameterBytes →
      appendRows host normalized limits int8Mode parameterName kind 0 values
          (classicXrfcOpenTagByteLength parameterName + classicXrfcCloseTagByteLength parameterName) =
        .ok (rows, byteLength) →
      (writeParameter parameterName kind rows byteLength).offset = byteLength) ∧
    ∀ bytes, encodeClassicXrfcParameter host parameterName definition kind value options int8Mode = .ok bytes →
      decodeClassicXrfcParameterName bytes options = .ok parameterName ∧
      ∃ outs, ParameterForm host numberOf definition int8Mode kind value outs ∧
        decodeClassicXrfcParameter host numberOf definition int8Mode bcd parameterName kind bytes options =
          (projectRows bcd definition.fields outs).map (outputValue kind) ∧
        (bcd = .string →
          decodeClassicXrfcParameter host numberOf definition int8Mode bcd parameterName kind bytes options =
            .ok (outputValue kind outs)) := by
  obtain ⟨rfl, hne, hnames⟩ := normalizeDefinition_eq_ok hdefinition
  have hfields : ∀ field ∈ normalized.fields, Cellular host numberOf field := fun field hfield =>
    ⟨hnames field hfield, fun hexid => hfloat ⟨field, hfield, hexid⟩⟩
  constructor
  · intro limits values rows byteLength hname hlimits htags happend
    obtain ⟨-, -, -, hwrite⟩ := planned_rows .string hname (normalizeClassicXrfcLimits_safe hlimits)
      hfields hne htags happend
    rw [hwrite]
  intro bytes hencode
  obtain ⟨hname, limits, values, rows, byteLength, hlimits, htags, hvalues, happend, rfl⟩ :=
    encodeClassicXrfcParameter_eq_ok hencode
  obtain ⟨hrows, hlength, hfits, hwrite⟩ := planned_rows bcd hname
    (normalizeClassicXrfcLimits_safe hlimits) hfields hne htags happend
  obtain ⟨hsingle, hcount, hform⟩ := parameterRows_eq_ok hvalues
  rw [hlength] at hfits
  obtain ⟨outs, houts, hparse⟩ := parseParameter_of hname hsingle
    (fun hkind => hrows.length_eq ▸ hcount hkind) hfits hrows
  obtain ⟨rest, hhead⟩ := head_parameterMarkup parameterName kind rows
  have hformed : (parameterMarkup parameterName kind rows).isWellFormed = true :=
    isWellFormed_element hname (isWellFormed_rowsMarkup (measured_of_rows hrows) _)
  have hdocument := decodeDocument_utf8 hformed hhead hfits
  have hnamed : assertClassicXrfcXmlName parameterName "xRFC parameter name" = .ok () := require_of hname
  have hdecode : decodeClassicXrfcParameter host numberOf normalized int8Mode bcd parameterName kind
      (parameterMarkup parameterName kind rows).utf8 options =
        (projectRows bcd normalized.fields outs).map (outputValue kind) := by
    rw [decodeClassicXrfcParameter, hnamed, ok_bind, ← validateClassicXrfcDefinition, hdefinition, ok_bind,
      hlimits, ok_bind, hdocument, ok_bind, hparse]
  rw [hwrite]
  refine ⟨?_, outs, hform _ _ _ _ outs houts, hdecode, ?_⟩
  · rw [decodeClassicXrfcParameterName, hlimits, ok_bind, hdocument, ok_bind, hhead, leadingTag?_of hname]
  · rintro rfl
    rw [hdecode, projectRows_string houts]
    rfl

/-- Rows `S` of a character `C` and bytes `Y`. -/
def sampleRow : RfcStructureDefinition :=
  ⟨[0x53], 16, [⟨[0x53], [0x43], 1, 0, 4, 0, .char⟩, ⟨[0x53], [0x59], 2, 8, 8, 0, .xstring⟩]⟩

def sampleTable : RfcValue := .array [.object [([0x43], .text [0x3c]), ([0x59], .bytes [1, 2])]]

/-- `<P><item><C>&#60;</C><Y>AQI=</Y></item></P>` -/
def sampleDocument : Bytes :=
  [60, 80, 62, 60, 105, 116, 101, 109, 62, 60, 67, 62, 38, 35, 54, 48, 59, 60, 47, 67, 62, 60, 89, 62,
    65, 81, 73, 61, 60, 47, 89, 62, 60, 47, 105, 116, 101, 109, 62, 60, 47, 80, 62]

theorem flat_round_trip_sample :
    decodeClassicXrfcParameterName sampleDocument {} = .ok [0x50] ∧
    ∃ outs, ParameterForm Classic.plainHost (fun _ => Double.zero) sampleRow .bigint .table sampleTable outs ∧
      decodeClassicXrfcParameter Classic.plainHost (fun _ => Double.zero) sampleRow .bigint .string [0x50]
        .table sampleDocument {} = .ok (outputValue .table outs) := by
  have hdefinition : validateClassicXrfcDefinition Classic.plainHost sampleRow = .ok sampleRow := by
    decide +kernel
  have hfloat : (∃ field ∈ sampleRow.fields, field.exid = .float) →
      ReadsFloats Classic.plainHost fun _ => Double.zero := by
    rintro ⟨field, hfield, hexid⟩
    simp only [sampleRow, List.mem_cons, List.not_mem_nil, or_false] at hfield
    obtain rfl | rfl := hfield <;> exact absurd hexid nofun
  have hencode : encodeClassicXrfcParameter Classic.plainHost [0x50] sampleRow .table sampleTable {} .bigint =
      .ok sampleDocument := by
    decide +kernel
  obtain ⟨-, hread⟩ := flat_round_trip Classic.plainHost (fun _ => Double.zero) [0x50] sampleRow sampleRow
    .table sampleTable {} .bigint .string hdefinition hfloat
  obtain ⟨hname, outs, hform, -, hdecode⟩ := hread sampleDocument hencode
  exact ⟨hname, outs, hform, hdecode rfl⟩

end Parameter
end OpenRfc.Xrfc
