import OpenRfc.MetadataGraph.Nodes

/-!
The parameters of a function and what they refer to: a type by its name, the type of a field, or the
target of an indirect row, whose path goes through several fields.
-/

namespace OpenRfc.MetadataGraph
open Fallible Indexed Xrfc
open Classic (RfcExid)
open TypeGraph (ProvisionalReference RecursiveMetadataError)

structure MetadataParameter (Reference : Type) where
  functionName : JsString
  name : JsString
  parameterClass : RfcParameterClass
  position : Nat
  associatedType : JsString
  internalLength : Nat
  decimals : Nat
  defaultValue : JsString
  parameterText : JsString
  optional : Bool
  reference : Reference

inductive ProvisionalParameterReference
  | exception
  | scalar (internalType : RfcExid)
  | scalarTable (internalType : RfcExid)
  | container (kind : ClassicXrfcKind) (targetType : JsString)

abbrev ProvisionalParameter := MetadataParameter ProvisionalParameterReference

/-- What the rows in front have used and found. -/
structure ParameterState where
  parameters : List (JsString × JsString)
  consumedIndirect : List (JsString × JsString)
  roots : List JsString
  edgeCount : Nat

abbrev ParameterStep := StateT ParameterState (Except RecursiveMetadataError)

def rejectStep {α : Type} (code path : String) : ParameterStep α := fun _ => .error ⟨code, path⟩

def requireStep (p : Prop) [Decidable p] (code path : String) : ParameterStep Unit :=
  if p then pure () else rejectStep code path

def addRoot (name : JsString) : ParameterStep Unit :=
  modify fun s => if name ∈ s.roots then s else { s with roots := s.roots ++ [name] }

def addEdge : ParameterStep Unit := modify fun s => { s with edgeCount := s.edgeCount + 1 }

def checkIndirectRow (rows : List IndirectRow) (index : Nat) (row : IndirectRow) :
    Except RecursiveMetadataError Unit := do
  require (pathSeparator ∈ row.fieldPath)
    ⟨"INVALID_INDIRECT_PATH", s!"INDIRECTTYPES[{index}].FIELDNAME"⟩
  require ((row.tableName, row.fieldPath) ∉
      (rows.take index).map fun row => (row.tableName, row.fieldPath))
    ⟨"DUPLICATE_INDIRECT_TYPE", s!"INDIRECTTYPES[{index}]"⟩

section Resolution
variable (nodes : List ProvisionalNode) (path : String)

def resolveSegments (node : ProvisionalNode) :
    List JsString → Except RecursiveMetadataError ProvisionalReference
  | [] => .error ⟨"INVALID_FIELD_PATH", path⟩
  | segment :: segments => do
    require (segment ≠ []) ⟨"INVALID_FIELD_PATH", path⟩
    match node.fields.find? (·.name = segment) with
    | none => .error ⟨"FOREIGN_FIELD_REFERENCE", path⟩
    | some field =>
      if segments = [] then .ok field.reference
      else
        match field.reference with
        | .container .structured targetType =>
          match byName nodes targetType with
          | some target =>
            if target.kind = .container .structured then resolveSegments target segments
            else .error ⟨"FOREIGN_TYPE_REFERENCE", path⟩
          | none => .error ⟨"FOREIGN_TYPE_REFERENCE", path⟩
        | _ => .error ⟨"INVALID_FIELD_PATH", path⟩

def resolveFieldPath (node : ProvisionalNode) (fieldPath : JsString) :
    Except RecursiveMetadataError ProvisionalReference :=
  resolveSegments nodes path node (fieldPath.splitOn pathSeparator)

end Resolution

section Parameter
variable (nodes : List ProvisionalNode) (indirectRows : List IndirectRow) (row : ParameterRow)
  (path : String)

def typeNamed (name : JsString) : ParameterStep ProvisionalNode :=
  match byName nodes name with
  | some node => pure node
  | none => rejectStep "FOREIGN_TYPE_REFERENCE" path

/-- The target of the indirect row of a parameter, which is consumed. -/
def indirectTargetType : ParameterStep JsString := do
  match indirectRows.find? fun indirect =>
      indirect.tableName = row.tableName ∧ indirect.fieldPath = row.fieldPath with
  | none => rejectStep "MISSING_INDIRECT_TYPE" path
  | some mapping =>
    modify fun s =>
      { s with consumedIndirect := (row.tableName, row.fieldPath) :: s.consumedIndirect }
    pure mapping.targetType

def mappedTarget : ParameterStep (Option ProvisionalNode) :=
  if pathSeparator ∉ row.fieldPath then pure none
  else do
    requireStep (row.tableName ≠ []) "MISSING_ASSOCIATED_TYPE" s!"{path}.TABNAME"
    let targetType ← indirectTargetType indirectRows row path
    let target ← typeNamed nodes path targetType
    addRoot targetType
    pure (some target)

def directFieldReference : ParameterStep (Option ProvisionalReference) :=
  if row.fieldPath = [] ∨ pathSeparator ∈ row.fieldPath then pure none
  else do
    requireStep (row.tableName ≠ []) "MISSING_ASSOCIATED_TYPE" s!"{path}.TABNAME"
    let owner ← typeNamed nodes path row.tableName
    addRoot row.tableName
    let reference ← StateT.lift (resolveFieldPath nodes path owner row.fieldPath)
    pure (some reference)

/-- A node is a scalar or a table of scalars. -/
def hasScalarLine (node : ProvisionalNode) : Bool :=
  match node.fields with
  | [field] => field.name.isEmpty && field.reference.targetType?.isNone
  | _ => false

def requireScalarLine (node : ProvisionalNode) : ParameterStep Unit :=
  requireStep (hasScalarLine node = true) "REFERENCE_KIND_MISMATCH" path

def requireScalar : ProvisionalReference → ParameterStep Unit
  | .scalar _ => pure ()
  | .container _ _ => rejectStep "REFERENCE_KIND_MISMATCH" path

/-- What a scalar parameter, or a table of scalars, says of its type. Where `counted` holds, each
reference is an edge. -/
def checkScalarType (counted : Bool) : ParameterStep Unit := do
  let edge : ParameterStep Unit := if counted then addEdge else pure ()
  let mapped ← mappedTarget nodes indirectRows row path
  let direct ← directFieldReference nodes row path
  match mapped, direct with
  | some mapped, some direct => do
    requireScalarLine path mapped
    edge
    requireScalar path direct
    edge
  | some mapped, none => do
    requireScalarLine path mapped
    edge
  | none, some direct => do
    requireScalar path direct
    edge
  | none, none =>
    if row.fieldPath = [] ∧ row.tableName ≠ [] then
      match byName nodes row.tableName with
      | some named => do
        requireScalarLine path named
        addRoot row.tableName
        edge
      | none => pure ()
    else pure ()

/-- The name of the type of a structure or a table. -/
def containerType : ParameterStep JsString := do
  requireStep (row.tableName ≠ []) "MISSING_ASSOCIATED_TYPE" s!"{path}.TABNAME"
  if pathSeparator ∈ row.fieldPath then indirectTargetType indirectRows row path
  else if row.fieldPath ≠ [] then do
    let owner ← typeNamed nodes path row.tableName
    let resolved ← StateT.lift (resolveFieldPath nodes path owner row.fieldPath)
    match resolved with
    | .scalar _ => rejectStep "REFERENCE_KIND_MISMATCH" path
    | .container _ targetType => pure targetType
  else pure row.tableName

def checkEdges (limits : RecursiveMetadataLimits) : ParameterStep Unit := do
  let s ← get
  requireStep (s.edgeCount ≤ limits.maxEdges) "EDGE_LIMIT" path

def isContainer (internalType : RfcExid) : Bool :=
  internalType = .flatStructure ∨ internalType = .deepStructure ∨ internalType = .table

def parameterReference (limits : RecursiveMetadataLimits) :
    ParameterStep ProvisionalParameterReference := do
  if row.parameterClass = .exception then pure .exception
  else if isContainer row.internalType then do
    let isTable := row.parameterClass = .tables ∨ row.internalType = .table
    let targetType ← containerType nodes indirectRows row path
    let target ← typeNamed nodes path targetType
    requireStep (isTable ∨ target.kind = .container .structured) "REFERENCE_KIND_MISMATCH" path
    requireStep (row.internalType = .table → target.kind = .container .table)
      "REFERENCE_KIND_MISMATCH" path
    addEdge
    checkEdges path limits
    addRoot targetType
    pure (.container (if isTable then .table else .structured) targetType)
  else if row.parameterClass = .tables then do
    checkScalarType nodes indirectRows row path false
    addEdge
    checkEdges path limits
    pure (.scalarTable row.internalType)
  else do
    checkScalarType nodes indirectRows row path true
    checkEdges path limits
    pure (.scalar row.internalType)

def provisionalParameter (limits : RecursiveMetadataLimits) : ParameterStep ProvisionalParameter := do
  let s ← get
  requireStep ((row.functionName, row.parameterName) ∉ s.parameters) "DUPLICATE_PARAMETER" path
  set { s with parameters := (row.functionName, row.parameterName) :: s.parameters }
  let reference ← parameterReference nodes indirectRows row path limits
  pure { row with name := row.parameterName, associatedType := row.tableName, reference }

end Parameter

section Parameters
variable (nodes : List ProvisionalNode) (indirectRows : List IndirectRow)
  (limits : RecursiveMetadataLimits)

/-- The loop over the rows of the parameters. -/
def parameterRows : Nat → List ParameterRow → ParameterStep (List ProvisionalParameter)
  | _, [] => pure []
  | index, row :: rows => do
    let parameter ← provisionalParameter nodes indirectRows row s!"PARAMETERS[{index}]" limits
    let parameters ← parameterRows (index + 1) rows
    pure (parameter :: parameters)

structure ProvisionalParameters where
  values : List ProvisionalParameter
  rootTypes : List JsString

def provisionalParameters (rows : List ParameterRow) :
    Except RecursiveMetadataError ProvisionalParameters := do
  forEach (checkIndirectRow indirectRows) 0 indirectRows
  let edgeCount := (nodes.map fieldEdges).sum
  let (values, s) ← parameterRows nodes indirectRows limits 0 rows ⟨[], [], [], edgeCount⟩
  forEach (fun index row =>
    require ((row.tableName, row.fieldPath) ∈ s.consumedIndirect)
      ⟨"FOREIGN_INDIRECT_TYPE", s!"INDIRECTTYPES[{index}]"⟩) 0 indirectRows
  .ok ⟨values, s.roots⟩

end Parameters
end OpenRfc.MetadataGraph
