import OpenRfc.RecursiveClassic.Descriptor

/-!
The reader of strict recursive documents. A first pass checks the whole document and makes no
values; a second pass makes them. The passes are written apart from each other.
-/

namespace OpenRfc.RecursiveClassic
open Fallible Xrfc Values
open Classic (int4Min int4Max)

/-- The parser and the budget of a pass. -/
structure ValueTraversal where
  parser : ExactClassicXrfcParser
  nodes : Nat := 0
  rows : Nat := 0

section Scalars
variable (limits : NormalizedRecursiveClassicXrfcLimits) (internalType : RecursiveScalarType)
  (internalLength : Nat) (value : JsString) (path : String)

/-- `Math.floor(limits.maxCellBytes / 4) * 3` -/
def maximumDecodedBytes : Nat := limits.maxCellBytes / 4 * 3

def decodeScalar : Except String RfcValue :=
  match internalType with
  | .int4 =>
    match canonicalInteger? value with
    | some decoded => do
      require (int4Min ≤ decoded ∧ decoded ≤ int4Max) s!"{path} INT4 value is out of range"
      .ok (.number (Double.ofInt decoded))
    | none => .error s!"{path} contains a non-canonical INT4 value"
  | .char => do
    assertUnicodeScalarText value path
    require (2 * value.length ≤ internalLength) s!"{path} does not fit CHAR({internalLength / 2})"
    .ok (.text value)
  | .string => do
    assertUnicodeScalarText value path
    require (0 ∉ value) s!"{path} contains NUL"
    .ok (.text value)
  | .xstring => do
    let decoded ← decodeClassicXrfcBase64 value path (maximumDecodedBytes limits)
    .ok (.bytes decoded)

def base64Sextet (characterCode : UInt16) : Nat :=
  if 0x41 ≤ characterCode ∧ characterCode ≤ 0x5a then characterCode.toNat - 0x41
  else if 0x61 ≤ characterCode ∧ characterCode ≤ 0x7a then characterCode.toNat - 0x61 + 26
  else if 0x30 ≤ characterCode ∧ characterCode ≤ 0x39 then characterCode.toNat - 0x30 + 52
  else if characterCode = 0x2b then 62 else 63

/-- The bits of the last sextet of padded text which belong to no byte. -/
def unusedBits (value : JsString) : Nat :=
  match Base64.paddingCount value with
  | 2 => base64Sextet (value.getD (value.length - 3) 0) &&& 0x0f
  | 1 => base64Sextet (value.getD (value.length - 2) 0) &&& 0x03
  | _ => 0

def preflightScalar : Except String Unit :=
  match internalType with
  | .int4 =>
    match canonicalInteger? value with
    | some decoded =>
      require (int4Min ≤ decoded ∧ decoded ≤ int4Max) s!"{path} INT4 value is out of range"
    | none => .error s!"{path} contains a non-canonical INT4 value"
  | .char => do
    assertUnicodeScalarText value path
    require (2 * value.length ≤ internalLength) s!"{path} does not fit CHAR({internalLength / 2})"
  | .string => do
    assertUnicodeScalarText value path
    require (0 ∉ value) s!"{path} contains NUL"
  | .xstring => do
    let value := value.filter fun unit => !(unit == 0x0d || unit == 0x0a)
    require (Base64.isPadded value) s!"{path} contains non-canonical base64"
    require (unusedBits value = 0) s!"{path} contains non-canonical base64"
    require (Base64.decodedLength value ≤ maximumDecodedBytes limits)
      s!"{path} decoded bytes exceed its configured limit"

end Scalars

section Traversal
variable (limits : NormalizedRecursiveClassicXrfcLimits)

def visitValue (depth : Nat) (path : String) (traversal : ValueTraversal) :
    Except String ValueTraversal := do
  require (depth ≤ limits.maxDepth) s!"{path} value depth exceeds {limits.maxDepth}"
  require (traversal.nodes + 1 ≤ limits.maxNodes)
    s!"{path} value node count exceeds {limits.maxNodes}"
  .ok { traversal with nodes := traversal.nodes + 1 }

/-- What is checked of the bytes of a row, which started at an offset. -/
def checkRowLength (path : String) (start : Nat) (traversal : ValueTraversal) : Except String Unit :=
  require (traversal.parser.rowByteLength start ≤ limits.maxRowBytes)
    s!"{path} XML row exceeds {limits.maxRowBytes} encoded bytes"

/-- The head of the loop over the rows of a table. -/
def startRow (path : String) (traversal : ValueTraversal) : Except String ValueTraversal := do
  require (traversal.rows + 1 ≤ limits.maxRows) s!"{path} row count exceeds {limits.maxRows}"
  let parser ← traversal.parser.openElement itemName
  .ok { traversal with parser, rows := traversal.rows + 1 }

def openField (name : JsString) (traversal : ValueTraversal) : Except String ValueTraversal := do
  let parser ← traversal.parser.openElement name
  .ok { traversal with parser }

def closeField (name : JsString) (traversal : ValueTraversal) : Except String ValueTraversal := do
  let parser ← traversal.parser.closeElement name
  .ok { traversal with parser }

/-- The loop over the rows of a table. A round takes one of the rows which the limit leaves, and
the rows of the tables in it take others, so none are left in front of `startRow` when there are
none `remaining`. -/
def preflightRows (preflightLine : String → ValueTraversal → Except String ValueTraversal)
    (closingTag : JsString) (path : String) :
    Nat → Nat → ValueTraversal → Except String ValueTraversal
  | 0, _, traversal =>
    if traversal.parser.startsWithCloseTag closingTag then .ok traversal
    else .error s!"{path} row count exceeds {limits.maxRows}"
  | remaining + 1, rowIndex, traversal =>
    if traversal.parser.startsWithCloseTag closingTag then .ok traversal
    else do
      let rowPath := s!"{path}[{rowIndex}]"
      let start := traversal.parser.byteOffset
      let traversal ← startRow limits path traversal
      let traversal ← preflightLine rowPath traversal
      let traversal ← closeField itemName traversal
      checkRowLength limits rowPath start traversal
      preflightRows preflightLine closingTag path remaining (rowIndex + 1) traversal

mutual

def preflightValueContent (descriptor : RecursiveClassicXrfcDescriptor) (path : String)
    (depth : Nat) (closingTag : JsString) (traversal : ValueTraversal) :
    Except String ValueTraversal := do
  let traversal ← visitValue limits depth path traversal
  match descriptor with
  | .scalar _ internalType internalLength => do
    let (text, parser) ← traversal.parser.cell path
    preflightScalar limits internalType internalLength text path
    .ok { traversal with parser }
  | .structured _ _ fields => do
    let start := traversal.parser.byteOffset
    let traversal ← preflightFields fields path depth traversal
    checkRowLength limits path start traversal
    .ok traversal
  | .table _ _ line =>
    preflightRows limits (fun rowPath => preflightValueContent line rowPath (depth + 1) itemName)
      closingTag path (limits.maxRows - traversal.rows) 0 traversal

/-- The loop over the fields of a structure. -/
def preflightFields (fields : List RecursiveClassicXrfcDescriptor) (path : String) (depth : Nat)
    (traversal : ValueTraversal) : Except String ValueTraversal :=
  match fields with
  | [] => .ok traversal
  | field :: fields => do
    let traversal ← openField field.name traversal
    let traversal ← preflightValueContent field s!"{path}.{field.name.text}" (depth + 1) field.name
      traversal
    let traversal ← closeField field.name traversal
    preflightFields fields path depth traversal

end

/-- The loop over the rows of a table, which makes their values. -/
def parseRecursiveRows
    (parseLine : String → ValueTraversal → Except String (RfcValue × ValueTraversal))
    (closingTag : JsString) (path : String) :
    Nat → Nat → ValueTraversal → Except String (List RfcValue × ValueTraversal)
  | 0, _, traversal =>
    if traversal.parser.startsWithCloseTag closingTag then .ok ([], traversal)
    else .error s!"{path} row count exceeds {limits.maxRows}"
  | remaining + 1, index, traversal =>
    if traversal.parser.startsWithCloseTag closingTag then .ok ([], traversal)
    else do
      let rowPath := s!"{path}[{index}]"
      let start := traversal.parser.byteOffset
      let traversal ← startRow limits path traversal
      let (row, traversal) ← parseLine rowPath traversal
      let traversal ← closeField itemName traversal
      checkRowLength limits rowPath start traversal
      let (rows, traversal) ← parseRecursiveRows parseLine closingTag path remaining (index + 1)
        traversal
      .ok (row :: rows, traversal)

mutual

def parseValueContent (descriptor : RecursiveClassicXrfcDescriptor) (path : String) (depth : Nat)
    (closingTag : JsString) (traversal : ValueTraversal) :
    Except String (RfcValue × ValueTraversal) := do
  let traversal ← visitValue limits depth path traversal
  match descriptor with
  | .scalar _ internalType internalLength => do
    let (text, parser) ← traversal.parser.cell path
    let value ← decodeScalar limits internalType internalLength text path
    .ok (value, { traversal with parser })
  | .structured _ _ fields => do
    let start := traversal.parser.byteOffset
    let (result, traversal) ← parseFields fields path depth traversal
    checkRowLength limits path start traversal
    .ok (.object result, traversal)
  | .table _ _ line => do
    let (rows, traversal) ← parseRecursiveRows limits
      (fun rowPath => parseValueContent line rowPath (depth + 1) itemName)
      closingTag path (limits.maxRows - traversal.rows) 0 traversal
    .ok (.array rows, traversal)

/-- The loop over the fields of a structure, which defines their values. -/
def parseFields (fields : List RecursiveClassicXrfcDescriptor) (path : String) (depth : Nat)
    (traversal : ValueTraversal) : Except String (RfcRecord × ValueTraversal) :=
  match fields with
  | [] => .ok ([], traversal)
  | field :: fields => do
    let traversal ← openField field.name traversal
    let (value, traversal) ← parseValueContent field s!"{path}.{field.name.text}" (depth + 1)
      field.name traversal
    let traversal ← closeField field.name traversal
    let (rest, traversal) ← parseFields fields path depth traversal
    .ok ((field.name, value) :: rest, traversal)

end

end Traversal

section Documents
variable (resolved : ResolvedRecursiveClassicXrfcParameter)
  (limits : NormalizedRecursiveClassicXrfcLimits)

/-- `${trusted.functionName}.${trusted.parameterName}` -/
def ResolvedRecursiveClassicXrfcParameter.path : String :=
  s!"{resolved.functionName.text}.{resolved.parameterName.text}"

/-- The text of a document, and the limits for it. -/
def recursiveDocument (value : Bytes) (limits : RecursiveClassicXrfcLimits) :
    Except String (NormalizedRecursiveClassicXrfcLimits × JsString) := do
  let limits ← normalizeLimits limits
  let text ← decodeDocument value limits.maxParameterBytes
    s!"{resolved.parameterName.text} xRFC XML"
  .ok (limits, text)

/-- A pass over a document, with a parser of its own. -/
def startDocument (text : JsString) : Except String ValueTraversal :=
  openField resolved.parameterName { parser := { rest := text, limits := limits.toNormalizedClassicXrfcLimits } }

def finishDocument (traversal : ValueTraversal) : Except String Unit := do
  let traversal ← closeField resolved.parameterName traversal
  traversal.parser.finish

/-- The first pass. -/
def preflightDocument (text : JsString) : Except String Unit := do
  let traversal ← startDocument resolved limits text
  let traversal ← preflightValueContent limits resolved.root resolved.path 1 resolved.parameterName
    traversal
  finishDocument resolved traversal

/-- The second pass. -/
def parseDocument (text : JsString) : Except String RfcValue := do
  let traversal ← startDocument resolved limits text
  let (result, traversal) ← parseValueContent limits resolved.root resolved.path 1
    resolved.parameterName traversal
  finishDocument resolved traversal
  .ok result

def decodeRecursiveClassicXrfcParameter (value : Bytes) (limits : RecursiveClassicXrfcLimits) :
    Except String RfcValue := do
  let (limits, text) ← recursiveDocument resolved value limits
  preflightDocument resolved limits text
  parseDocument resolved limits text

end Documents
/-!
The pass which makes no values succeeds if and only if the one which makes them does.
-/

open Base64

section Scalars

theorem base64Sextet_unitOf : ∀ sextet : Sextet, base64Sextet (unitOf sextet) = sextet.val := by
  decide

theorem unusedBits_group (x y z w : Sextet) {s : JsString} (h : Padded s) :
    unusedBits (unitOf x :: unitOf y :: unitOf z :: unitOf w :: s) = unusedBits s := by
  rcases h.length with rfl | hlength
  · simp [unusedBits, paddingCount, unitOf_ne_padding]
  · have hcount : paddingCount (unitOf x :: unitOf y :: unitOf z :: unitOf w :: s) = paddingCount s :=
      paddingCount_append [unitOf x, unitOf y, unitOf z, unitOf w] (by omega)
    have hdrop : ∀ i, i ≤ 4 → (unitOf x :: unitOf y :: unitOf z :: unitOf w :: s).getD
        (s.length + 4 - i) 0 = s.getD (s.length - i) 0 := by
      intro i hi
      have hindex : s.length + 4 - i = (s.length - i) + 4 := by omega
      rw [hindex]
      rfl
    simp only [unusedBits, hcount, List.length_cons, Nat.add_assoc, Nat.reduceAdd]
    rw [hdrop 3 (by decide), hdrop 2 (by decide)]

/-- The bits which are not used are all that a text may lose on the way through its bytes. -/
theorem encode_decode_iff {value : JsString} (h : Padded value) :
    encode (decode value) = value ↔ unusedBits value = 0 := by
  induction h with
  | nil => exact iff_of_true rfl rfl
  | group x y z w rest ih =>
      rw [unusedBits_group x y z w rest, ← ih]
      simp [decode, encode]
  | three x y z =>
      have hunused : unusedBits [unitOf x, unitOf y, unitOf z, padding] = z.val % 4 := by
        have hcount : paddingCount [unitOf x, unitOf y, unitOf z, padding] = 1 := by
          simp [paddingCount, unitOf_ne_padding]
        rw [unusedBits, hcount]
        change base64Sextet (unitOf z) &&& 2 ^ 2 - 1 = _
        rw [base64Sextet_unitOf, Nat.and_two_pow_sub_one_eq_mod]
      rw [hunused, ← third_secondByte_zero y z]
      have hdecode : decode [unitOf x, unitOf y, unitOf z, padding] = [firstByte x y, secondByte y z] := by
        simp [decode]
      rw [hdecode, encode, first_firstByte, second_firstByte]
      simp [unitOf_inj]
  | two x y =>
      have hunused : unusedBits [unitOf x, unitOf y, padding, padding] = y.val % 16 := by
        have hcount : paddingCount [unitOf x, unitOf y, padding, padding] = 2 := rfl
        rw [unusedBits, hcount]
        change base64Sextet (unitOf y) &&& 2 ^ 4 - 1 = _
        rw [base64Sextet_unitOf, Nat.and_two_pow_sub_one_eq_mod]
      rw [hunused, ← second_firstByte_zero x y]
      have hdecode : decode [unitOf x, unitOf y, padding, padding] = [firstByte x y] := by
        simp [decode]
      rw [hdecode, encode, first_firstByte]
      simp [unitOf_inj]
variable (limits : NormalizedRecursiveClassicXrfcLimits) (internalType : RecursiveScalarType)
  (internalLength : Nat) (value : JsString) (path : String)

theorem isOk_preflightScalar :
    (preflightScalar limits internalType internalLength value path).isOk =
      (decodeScalar limits internalType internalLength value path).isOk := by
  cases internalType with
  | int4 =>
      rw [preflightScalar, decodeScalar]
      cases canonicalInteger? value with
      | none => rfl
      | some decoded => exact (isOk_bind_ok _ _).symm
  | char => exact isOk_bind_congr fun _ => (isOk_bind_ok _ _).symm
  | string => exact isOk_bind_congr fun _ => (isOk_bind_ok _ _).symm
  | xstring =>
      rw [preflightScalar, decodeScalar, isOk_bind_ok, decodeClassicXrfcBase64]
      dsimp only
      generalize value.filter (fun unit => !(unit == 0x0d || unit == 0x0a)) = text
      split
      · rename_i hempty
        subst hempty
        rfl
      · by_cases hpadded : isPadded text = true
        · have hcanonical := encode_decode_iff (padded_of_isPadded hpadded)
          simp only [require, hpadded, if_true, ok_bind, ← hcanonical]
          split <;> split <;> rfl
        · simp only [require, hpadded]
          rfl

end Scalars

section Traversal
variable (limits : NormalizedRecursiveClassicXrfcLimits)

theorem preflightRows_imitates
    {preflightLine : String → ValueTraversal → Except String ValueTraversal}
    {parseLine : String → ValueTraversal → Except String (RfcValue × ValueTraversal)}
    (hline : ∀ path traversal, Imitates (preflightLine path traversal) (parseLine path traversal))
    (closingTag : JsString) (path : String) (remaining index : Nat) (traversal : ValueTraversal) :
    Imitates (preflightRows limits preflightLine closingTag path remaining index traversal)
      (parseRecursiveRows limits parseLine closingTag path remaining index traversal) := by
  induction remaining generalizing index traversal with
  | zero =>
      rw [preflightRows, parseRecursiveRows]
      split <;> rfl
  | succ remaining ih =>
      rw [preflightRows, parseRecursiveRows]
      split
      · exact imitates_ok _ _
      · refine imitates_bind_of_same fun started => ?_
        refine (hline _ started).bind fun row traversal => ?_
        refine imitates_bind_of_same fun closed => ?_
        refine imitates_bind_of_same fun _ => ?_
        exact (ih (index + 1) closed).map_value (fun rows => row :: rows) fun _ _ => rfl

mutual

theorem preflightValueContent_imitates (descriptor : RecursiveClassicXrfcDescriptor) (path : String)
    (depth : Nat) (closingTag : JsString) (traversal : ValueTraversal) :
    Imitates (preflightValueContent limits descriptor path depth closingTag traversal)
      (parseValueContent limits descriptor path depth closingTag traversal) := by
  cases descriptor with
  | scalar _ internalType internalLength =>
      rw [preflightValueContent, parseValueContent]
      refine imitates_bind_of_same fun visited => ?_
      refine imitates_bind_of_same fun (text, parser) => ?_
      exact imitates_bind_of_isOk (isOk_preflightScalar limits internalType internalLength text path)
        fun _ value => imitates_ok _ value
  | structured _ _ fields =>
      rw [preflightValueContent, parseValueContent]
      refine imitates_bind_of_same fun visited => ?_
      refine (preflightFields_imitates fields path depth visited).bind fun result traversal => ?_
      exact imitates_bind_of_same fun _ => imitates_ok _ _
  | table _ _ line =>
      rw [preflightValueContent, parseValueContent]
      refine imitates_bind_of_same fun visited => ?_
      have hrows := preflightRows_imitates limits
        (fun rowPath => preflightValueContent_imitates line rowPath (depth + 1) itemName)
        closingTag path (limits.maxRows - visited.rows) 0 visited
      exact hrows.map_value RfcValue.array fun _ _ => rfl

theorem preflightFields_imitates (fields : List RecursiveClassicXrfcDescriptor) (path : String)
    (depth : Nat) (traversal : ValueTraversal) :
    Imitates (preflightFields limits fields path depth traversal)
      (parseFields limits fields path depth traversal) := by
  cases fields with
  | nil =>
      rw [preflightFields, parseFields]
      exact imitates_ok _ _
  | cons field fields =>
      rw [preflightFields, parseFields]
      refine imitates_bind_of_same fun opened => ?_
      refine (preflightValueContent_imitates field _ _ _ opened).bind fun value traversal => ?_
      refine imitates_bind_of_same fun closed => ?_
      exact (preflightFields_imitates fields path depth closed).map_value
        (fun rest => (field.name, value) :: rest) fun _ _ => rfl

end

end Traversal

section Documents
variable (resolved : ResolvedRecursiveClassicXrfcParameter)

theorem isOk_preflightDocument (limits : NormalizedRecursiveClassicXrfcLimits) (text : JsString) :
    (preflightDocument resolved limits text).isOk = (parseDocument resolved limits text).isOk := by
  have himitates : Imitates (preflightDocument resolved limits text)
      ((parseDocument resolved limits text).map fun result => (result, ())) := by
    rw [preflightDocument, parseDocument, map_bind]
    refine imitates_bind_of_same fun started => ?_
    rw [map_bind]
    refine (preflightValueContent_imitates limits resolved.root _ _ _ started).bind
      fun result traversal => ?_
    dsimp only
    cases finishDocument resolved traversal <;> rfl
  refine himitates.isOk.trans ?_
  cases parseDocument resolved limits text <;> rfl

/-- The first pass succeeds if and only if the second one would, so the errors of the reader are the
ones from in front of the second pass, and it makes no value of a document which it rejects. -/
theorem preflight_exact :
    (∀ limits text,
      (preflightDocument resolved limits text).isOk = (parseDocument resolved limits text).isOk) ∧
    ∀ value options e, decodeRecursiveClassicXrfcParameter resolved value options = .error e →
      recursiveDocument resolved value options = .error e ∨
      ∃ limits text, recursiveDocument resolved value options = .ok (limits, text) ∧
        preflightDocument resolved limits text = .error e := by
  refine ⟨isOk_preflightDocument resolved, fun value options e herror => ?_⟩
  rw [decodeRecursiveClassicXrfcParameter] at herror
  cases hdocument : recursiveDocument resolved value options with
  | error e' =>
      rw [hdocument, error_bind] at herror
      obtain rfl := Except.error.inj herror
      exact .inl rfl
  | ok document =>
      obtain ⟨limits, text⟩ := document
      rw [hdocument, ok_bind] at herror
      refine .inr ⟨limits, text, rfl, ?_⟩
      have hexact := isOk_preflightDocument resolved limits text
      cases hpreflight : preflightDocument resolved limits text with
      | error e' =>
          simp only [hpreflight, error_bind] at herror
          rw [Except.error.inj herror]
      | ok u =>
          rw [hpreflight] at hexact
          obtain ⟨result, hresult⟩ := exists_eq_ok hexact.symm
          simp only [hpreflight, ok_bind, hresult] at herror
          cases herror

end Documents
end OpenRfc.RecursiveClassic
