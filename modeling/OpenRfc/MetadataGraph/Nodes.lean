import OpenRfc.TypeGraph.Components

/-!
The nodes of a graph of types, which are made of the rows of RFC_METADATA_GET. The rows of a type
stand together; a table and a scalar have one row without a field name.
-/

namespace OpenRfc.MetadataGraph
open Fallible Indexed Xrfc
open Classic (RfcExid)
open TypeGraph (ProvisionalReference RecursiveMetadataError)

structure TypeRow where
  typeName : JsString
  fieldName : JsString
  associatedType : JsString
  nucTotalLength : Nat
  ucTotalLength : Nat
  decimals : Nat
  internalType : RfcExid
  nucOffset : Nat
  ucOffset : Nat
  nucLength : Nat
  ucLength : Nat
  timestamp : JsString

structure IndirectRow where
  tableName : JsString
  fieldPath : JsString
  targetType : JsString

structure ParameterRow where
  functionName : JsString
  parameterClass : RfcParameterClass
  parameterName : JsString
  tableName : JsString
  fieldPath : JsString
  internalType : RfcExid
  position : Nat
  internalLength : Nat
  decimals : Nat
  defaultValue : JsString
  parameterText : JsString
  optional : Bool

/-- Fields and nodes whose references are not known to be cyclic yet, and those of the graph. -/
structure MetadataField (Reference : Type) where
  name : JsString
  position : Nat
  internalType : RfcExid
  decimals : Nat
  nucOffset : Nat
  ucOffset : Nat
  nucLength : Nat
  ucLength : Nat
  reference : Reference

structure MetadataNode (Reference : Type) where
  name : JsString
  kind : RecursiveMetadataKind
  nucLength : Nat
  ucLength : Nat
  timestamp : JsString
  fields : List (MetadataField Reference)

abbrev ProvisionalField := MetadataField ProvisionalReference
abbrev ProvisionalNode := MetadataNode ProvisionalReference

structure RecursiveMetadataLimits where
  maxNodes : Nat
  maxEdges : Nat
  maxDepth : Nat

section Nodes

def classifyReference (internalType : RfcExid) (associatedType : JsString) (path : String) :
    Except RecursiveMetadataError ProvisionalReference :=
  match internalType with
  | .flatStructure | .deepStructure => do
    require (associatedType ≠ []) ⟨"MISSING_ASSOCIATED_TYPE", path⟩
    .ok (.container .structured associatedType)
  | .table => do
    require (associatedType ≠ []) ⟨"MISSING_ASSOCIATED_TYPE", path⟩
    .ok (.container .table associatedType)
  | internalType => .ok (.scalar internalType)

def safeEnd (offset length : Nat) (path : String) : Except RecursiveMetadataError Nat := do
  require (offset + length ≤ Double.maxSafeInteger) ⟨"INVALID_GEOMETRY", path⟩
  .ok (offset + length)

/-- The rows of a type. There is a first one. -/
structure TypeGroup where
  name : JsString
  first : TypeRow
  rest : List TypeRow

def TypeGroup.rows (group : TypeGroup) : List TypeRow := group.first :: group.rest

def TypeGroup.ofRow (row : TypeRow) : TypeGroup := ⟨row.typeName, row, []⟩

/-- The loop over the rows, which adds to a current group and keeps the names of those before. -/
def groupRows : Nat → List JsString → Option TypeGroup → List TypeRow →
    Except RecursiveMetadataError (List TypeGroup)
  | _, _, current, [] => .ok current.toList
  | index, closed, none, row :: rows =>
    groupRows (index + 1) closed (some (.ofRow row)) rows
  | index, closed, some current, row :: rows =>
    if current.name = row.typeName then
      groupRows (index + 1) closed (some { current with rest := current.rest ++ [row] }) rows
    else do
      require (row.typeName ∉ current.name :: closed)
        ⟨"NONCONTIGUOUS_TYPE", s!"DATATYPESCONT[{index}].TYPENAME"⟩
      let groups ← groupRows (index + 1) (current.name :: closed) (some (.ofRow row)) rows
      .ok (current :: groups)

/-- What is known before a row: the names and the ends of the fields in front. -/
structure FieldState where
  names : List JsString
  previousNucEnd : Nat
  previousUcEnd : Nat

section Fields
variable (group : TypeGroup) (groupIndex nucTotal ucTotal : Nat)

def buildFields : Nat → FieldState → List TypeRow →
    Except RecursiveMetadataError (List ProvisionalField)
  | _, _, [] => .ok []
  | fieldIndex, state, row :: rows => do
    let path := s!"DATATYPESCONT:{groupIndex}:{fieldIndex}"
    require (row.nucTotalLength = group.first.nucTotalLength ∧
      row.ucTotalLength = group.first.ucTotalLength) ⟨"INCONSISTENT_TOTAL_LENGTH", path⟩
    require (row.timestamp = group.first.timestamp) ⟨"INCONSISTENT_TIMESTAMP", path⟩
    require (row.fieldName ∉ state.names) ⟨"DUPLICATE_FIELD", path⟩
    let nucEnd ← safeEnd row.nucOffset row.nucLength path
    let ucEnd ← safeEnd row.ucOffset row.ucLength path
    require (state.previousNucEnd ≤ row.nucOffset ∧ state.previousUcEnd ≤ row.ucOffset ∧
      nucEnd ≤ nucTotal ∧ ucEnd ≤ ucTotal) ⟨"INVALID_GEOMETRY", path⟩
    let reference ← classifyReference row.internalType row.associatedType s!"{path}.INTTYPE"
    let fields ← buildFields (fieldIndex + 1) ⟨row.fieldName :: state.names, nucEnd, ucEnd⟩ rows
    .ok ({ row with name := row.fieldName, position := fieldIndex + 1, reference } :: fields)

end Fields

/-- A node whose only row has no field name is a scalar or a table, by the reference of the row. -/
def nodeKind (anonymous : Option ProvisionalReference) : RecursiveMetadataKind :=
  match anonymous with
  | none => .container .structured
  | some (.scalar _) => .scalar
  | some (.container _ _) => .container .table

/-- The total length of a node. A scalar which gives none is as long as its row. -/
def effectiveTotal (anonymous : Option ProvisionalReference) (total offset length : Nat)
    (path : String) : Except RecursiveMetadataError Nat :=
  match anonymous with
  | some (.scalar _) => if total = 0 then safeEnd offset length path else .ok total
  | _ => .ok total

def anonymousReference (groupIndex : Nat) (group : TypeGroup) :
    Except RecursiveMetadataError (Option ProvisionalReference) :=
  if group.rows.any (·.fieldName.isEmpty) then do
    require (group.rest = []) ⟨"INVALID_TABLE_SHAPE", s!"DATATYPESCONT:{groupIndex}"⟩
    let reference ← classifyReference group.first.internalType group.first.associatedType
      s!"DATATYPESCONT:{groupIndex}:0.INTTYPE"
    .ok (some reference)
  else .ok none

def buildNode (groupIndex : Nat) (group : TypeGroup) :
    Except RecursiveMetadataError ProvisionalNode := do
  let first := group.first
  let path := s!"DATATYPESCONT:{groupIndex}:0"
  let anonymous ← anonymousReference groupIndex group
  let nucTotal ← effectiveTotal anonymous first.nucTotalLength first.nucOffset first.nucLength path
  let ucTotal ← effectiveTotal anonymous first.ucTotalLength first.ucOffset first.ucLength path
  let fields ← buildFields group groupIndex nucTotal ucTotal 0 ⟨[], 0, 0⟩ group.rows
  .ok ⟨group.name, nodeKind anonymous, nucTotal, ucTotal, first.timestamp, fields⟩

/-- The fields of a node which refer to other nodes. -/
def fieldEdges (node : ProvisionalNode) : Nat :=
  node.fields.countP (·.reference.targetType?.isSome)

/-- The loop over the groups, which counts the edges of all of them. -/
def buildGroups (limits : RecursiveMetadataLimits) : Nat → Nat → List TypeGroup →
    Except RecursiveMetadataError (List ProvisionalNode)
  | _, _, [] => .ok []
  | groupIndex, edges, group :: groups => do
    let node ← buildNode groupIndex group
    let edges := edges + fieldEdges node
    require (edges ≤ limits.maxEdges) ⟨"EDGE_LIMIT", "DATATYPESCONT"⟩
    let nodes ← buildGroups limits (groupIndex + 1) edges groups
    .ok (node :: nodes)

def buildNodes (rows : List TypeRow) (limits : RecursiveMetadataLimits) :
    Except RecursiveMetadataError (List ProvisionalNode) := do
  let groups ← groupRows 0 [] none rows
  require (groups.length ≤ limits.maxNodes) ⟨"NODE_LIMIT", "DATATYPESCONT"⟩
  buildGroups limits 0 0 groups

end Nodes

section Kinds

/-- `-`, which stands between the names of a path of fields. -/
def pathSeparator : UInt16 := 0x2d

/-- The target of the rows of a path, if there is one of them only. -/
def indirectTarget (indirectRows : List IndirectRow) (tableName fieldPath : JsString) :
    List JsString :=
  match indirectRows.filter fun row => row.tableName = tableName ∧ row.fieldPath = fieldPath with
  | [row] => [row.targetType]
  | _ => []

def requiredTablesOfParameter (indirectRows : List IndirectRow) (parameter : ParameterRow) :
    List JsString :=
  if parameter.internalType ≠ .table then []
  else if pathSeparator ∈ parameter.fieldPath then
    indirectTarget indirectRows parameter.tableName parameter.fieldPath
  else if parameter.fieldPath = [] ∧ parameter.tableName ≠ [] then [parameter.tableName]
  else []

def requiredTablesOfField (field : ProvisionalField) : List JsString :=
  match field.reference with
  | .container .table targetType => [targetType]
  | _ => []

/-- Scalars to which something refers as to a table are tables. -/
def refineTableNodeKinds (nodes : List ProvisionalNode) (parameters : List ParameterRow)
    (indirectRows : List IndirectRow) : List ProvisionalNode :=
  let requiredTables := (nodes.flatMap fun node => node.fields.flatMap requiredTablesOfField) ++
    parameters.flatMap (requiredTablesOfParameter indirectRows)
  nodes.map fun node =>
    if node.kind = .scalar ∧ node.name ∈ requiredTables then
      { node with kind := .container .table }
    else node

/-- `byName.get(name)` -/
def byName {Reference : Type} (nodes : List (MetadataNode Reference)) (name : JsString) :
    Option (MetadataNode Reference) :=
  nodes.find? (·.name = name)

def validateFieldTarget (nodes : List ProvisionalNode) (nodeIndex fieldIndex : Nat)
    (field : ProvisionalField) : Except RecursiveMetadataError Unit :=
  match field.reference with
  | .scalar _ => .ok ()
  | .container kind targetType =>
    match byName nodes targetType with
    | none => .error ⟨"FOREIGN_TYPE_REFERENCE", s!"node:{nodeIndex}:{fieldIndex}"⟩
    | some target =>
      require (target.kind = .container kind)
        ⟨"REFERENCE_KIND_MISMATCH", s!"node:{nodeIndex}:{fieldIndex}"⟩

def validateNodeTargets (nodes : List ProvisionalNode) : Except RecursiveMetadataError Unit :=
  forEach (fun nodeIndex node => forEach (validateFieldTarget nodes nodeIndex) 0 node.fields)
    0 nodes

end Kinds
end OpenRfc.MetadataGraph
