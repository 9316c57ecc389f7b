import OpenRfc.MetadataGraph.Normalize

/-!
The metadata of a function as trees: the graph of its types is unfolded below each parameter. A
counter of descriptors and a bound on the depth keep a small graph from unfolding into a large
document.
-/

namespace OpenRfc.ModernMetadata
open Fallible Indexed MetadataGraph
open Classic (RfcExid)
open Xrfc (RecursiveMetadataParameterReference RfcParameterClass)

structure ModernMetadataProjectionError where
  code : String
  path : String
deriving DecidableEq, Repr

/-- What is inside a structure, or in the lines of a table. A scalar has nothing inside. -/
inductive Nesting
  | none | fields | tableFields
deriving DecidableEq, Repr

/-- The properties of a parameter which a field does not have, and the other way round. -/
inductive Placement
  | parameter (defaultValue parameterText : JsString) (optional : Bool)
  | field (offset : Nat)
deriving DecidableEq, Repr

inductive ModernMetadataParameter
  | descriptor (name : JsString) (nwrfcType abapType format : String) (length decimals : Nat)
      (associatedType : Option JsString) (nesting : Nesting)
      (nested : List ModernMetadataParameter) (placement : Placement)

structure ModernRfcMetadata where
  rfcName : JsString
  importing : List ModernMetadataParameter
  exporting : List ModernMetadataParameter
  changing : List ModernMetadataParameter
  table : List ModernMetadataParameter

section Types

def rfcType? : RfcExid → Option String
  | .char => "RFCTYPE_CHAR" | .numc => "RFCTYPE_NUM" | .date => "RFCTYPE_DATE"
  | .time => "RFCTYPE_TIME" | .raw => "RFCTYPE_BYTE" | .packed => "RFCTYPE_BCD"
  | .float => "RFCTYPE_FLOAT" | .int4 => "RFCTYPE_INT" | .int1 => "RFCTYPE_INT1"
  | .int2 => "RFCTYPE_INT2" | .int8 => "RFCTYPE_INT8" | .decf16 => "RFCTYPE_DECF16"
  | .decf34 => "RFCTYPE_DECF34" | .string => "RFCTYPE_STRING" | .xstring => "RFCTYPE_XSTRING"
  | .temporal .utcLong => "RFCTYPE_UTCLONG" | .temporal .utcSecond => "RFCTYPE_UTCSECOND"
  | .temporal .utcMinute => "RFCTYPE_UTCMINUTE" | .temporal .dtDay => "RFCTYPE_DTDAY"
  | .temporal .dtWeek => "RFCTYPE_DTWEEK" | .temporal .dtMonth => "RFCTYPE_DTMONTH"
  | .temporal .tSecond => "RFCTYPE_TSECOND" | .temporal .tMinute => "RFCTYPE_TMINUTE"
  | .temporal .cDay => "RFCTYPE_CDAY" | .flatStructure => "RFCTYPE_STRUCTURE"
  | .deepStructure | .table | .other _ => none

/-- The letters of the ABAP types, which are small for some types only. -/
def abapType? : RfcExid → Option String
  | .char => "c" | .numc => "n" | .date => "d" | .time => "t" | .raw => "x" | .packed => "p"
  | .float => "f" | .int4 => "i" | .int1 => "b" | .int2 => "s" | .int8 => "8" | .decf16 => "a"
  | .decf34 => "e" | .string => "g" | .xstring => "y" | .temporal .utcLong => "p"
  | .temporal .utcSecond => "n" | .temporal .utcMinute => "w" | .temporal .dtDay => "d"
  | .temporal .dtWeek => "7" | .temporal .dtMonth => "x" | .temporal .tSecond => "t"
  | .temporal .tMinute => "i" | .temporal .cDay => "c" | .flatStructure => "u"
  | .deepStructure | .table | .other _ => none

def format : RfcExid → String
  | .date => "YYYYMMDD"
  | .time => "HHMMSS"
  | _ => ""

/-- Types whose characters are two bytes wide in a Unicode system. -/
def hasCharacterWidth : RfcExid → Bool
  | .char | .numc | .date | .time => true
  | _ => false

end Types

section Limits

def defaultMaxProjectedDescriptors : Nat := 100000
def absoluteMaxProjectedDescriptors : Nat := 1000000
def defaultMaxProjectionDepth : Nat := 64
def absoluteMaxProjectionDepth : Nat := 256

structure ModernMetadataProjectionOptions where
  maxProjectedDescriptors : Option Int := none
  maxProjectionDepth : Option Int := none

def projectionLimit (candidate : Option Int) (fallback maximum : Nat) (path : String) :
    Except ModernMetadataProjectionError Nat := do
  let value := candidate.getD fallback
  require (0 ≤ value ∧ value ≤ maximum) ⟨"INVALID_LIMIT", path⟩
  .ok value.toNat

end Limits

structure ProjectionContext where
  graph : RecursiveMetadataGraph
  maxProjectedDescriptors : Nat
  maxProjectionDepth : Nat

/-- A step of the projection. The number is that of the descriptors so far. -/
abbrev Projection := StateT Nat (Except ModernMetadataProjectionError)

def rejectProjection {α : Type} (code path : String) : Projection α := fun _ => .error ⟨code, path⟩

section Project
variable (context : ProjectionContext)

def consumeDescriptor (path : String) : Projection Unit := fun projectedDescriptors =>
  if context.maxProjectedDescriptors < projectedDescriptors + 1 then
    .error ⟨"PROJECTION_LIMIT", path⟩
  else .ok ((), projectedDescriptors + 1)

def referencedNode (name : JsString) (path : String) : Projection RecursiveMetadataTypeNode :=
  match context.graph.nodes.lookup name with
  | some node => pure node
  | none => rejectProjection "FOREIGN_TYPE" path

/-- The order of two elements with their indices: by their positions, and then by the indices. -/
def isBefore {α : Type} (position : α → Nat) (left right : α × Nat) : Prop :=
  position left.1 < position right.1 ∨
    position left.1 = position right.1 ∧ left.2 ≤ right.2

instance {α : Type} (position : α → Nat) : DecidableRel (isBefore position) := fun _ _ =>
  inferInstanceAs (Decidable (_ ∨ _))

def orderedFields (fields : List RecursiveMetadataField) : List RecursiveMetadataField :=
  (fields.zipIdx.insertionSort (isBefore MetadataField.position)).map (·.1)

def scalarParameterNucLength (internalType : RfcExid) (internalLength : Nat) (path : String) :
    Projection Nat :=
  if hasCharacterWidth internalType then
    if internalLength % 2 = 1 then rejectProjection "INVALID_NUC_LENGTH" path
    else pure (internalLength / 2)
  else pure internalLength

/-- The descriptor of a scalar, for its place. -/
def scalarMetadata (name : JsString) (internalType : RfcExid) (length decimals : Nat)
    (path : String) : Projection (Placement → ModernMetadataParameter) :=
  match rfcType? internalType, abapType? internalType with
  | some nwrfcType, some abapType =>
    pure (.descriptor name nwrfcType abapType (format internalType) length decimals none .none [])
  | _, _ => rejectProjection "UNSUPPORTED_SCALAR_TYPE" path

/-- The loop over the fields of a structure, given how one of them is projected. -/
def projectFields (projectField : RecursiveMetadataField → String →
      Projection ModernMetadataParameter) (path : String) :
    Nat → List RecursiveMetadataField → Projection (List ModernMetadataParameter)
  | _, [] => pure []
  | index, field :: fields => do
    let first ← projectField field s!"{path}.fields[{index}]"
    let rest ← projectFields projectField path (index + 1) fields
    pure (first :: rest)

def projectStructureFields (projectField : RecursiveMetadataField → String →
      Projection ModernMetadataParameter) (node : RecursiveMetadataTypeNode) (path : String) :
    Projection (List ModernMetadataParameter) :=
  if node.kind ≠ .container .structured then rejectProjection "REFERENCE_KIND_MISMATCH" path
  else projectFields projectField path 0 (orderedFields node.fields)

structure ProjectedTableLine where
  length : Nat
  fields : List ModernMetadataParameter

/-- `assertProjectionDepth`: `levels` is `maxProjectionDepth + 1` less the depth. -/
def assertProjectionDepth (levels : Nat) (path : String) : Projection Unit :=
  if levels = 0 then rejectProjection "DEPTH_LIMIT" path else pure ()

/-- The line of a table. That of a structured table is the structure itself. -/
def projectTableLine (projectField : RecursiveMetadataField → String →
      Projection ModernMetadataParameter) (levels : Nat) (node : RecursiveMetadataTypeNode)
    (path : String) : Projection ProjectedTableLine := do
  assertProjectionDepth levels path
  if node.kind = .container .structured then do
    let fields ← projectStructureFields projectField node path
    pure ⟨node.nucLength, fields⟩
  else
    match node.fields with
    | [line] =>
      if line.name ≠ [] then rejectProjection "INVALID_TABLE_LINE" path
      else
        match line.reference with
        | .container .structured targetType _ => do
          let target ← referencedNode context targetType s!"{path}.line"
          if target.kind ≠ .container .structured then
            rejectProjection "REFERENCE_KIND_MISMATCH" s!"{path}.line"
          else do
            let fields ← projectStructureFields projectField target s!"{path}.line"
            pure ⟨target.nucLength, fields⟩
        | _ => do
          let field ← projectField line s!"{path}.line"
          pure ⟨line.nucLength, [field]⟩
    | _ => rejectProjection "INVALID_TABLE_LINE" path

/-- A field at a depth which leaves some levels below `maxProjectionDepth`. -/
def projectField : Nat → RecursiveMetadataField → String → Projection ModernMetadataParameter
  | 0, _, path => rejectProjection "DEPTH_LIMIT" path
  | levels + 1, field, path => do
    consumeDescriptor context path
    match field.reference with
    | .scalar _ => do
      let metadata ← scalarMetadata field.name field.internalType field.nucLength field.decimals path
      pure (metadata (.field field.nucOffset))
    | .container .structured targetType _ => do
      let target ← referencedNode context targetType path
      let fields ← projectStructureFields (projectField levels) target path
      pure (.descriptor field.name "RFCTYPE_STRUCTURE" "u" "" field.nucLength field.decimals
        (some targetType) .fields fields (.field field.nucOffset))
    | .container .table targetType _ => do
      let target ← referencedNode context targetType path
      if target.kind ≠ .container .table then rejectProjection "REFERENCE_KIND_MISMATCH" path
      else do
        let line ← projectTableLine context (projectField levels) levels target path
        pure (.descriptor field.name "RFCTYPE_TABLE" "h" "" field.nucLength field.decimals
          (some targetType) .tableFields line.fields (.field field.nucOffset))

def projectSyntheticScalarTableLine (parameter : RecursiveMetadataParameter)
    (internalType : RfcExid) (path : String) : Projection ProjectedTableLine := do
  assertProjectionDepth context.maxProjectionDepth s!"{path}.line"
  consumeDescriptor context s!"{path}.line"
  let length ← scalarParameterNucLength internalType parameter.internalLength s!"{path}.length"
  let metadata ← scalarMetadata [] internalType length parameter.decimals s!"{path}.line"
  pure ⟨length, [metadata (.field 0)]⟩

def placement (parameter : RecursiveMetadataParameter) : Placement :=
  .parameter parameter.defaultValue parameter.parameterText parameter.optional

def tableParameter (parameter : RecursiveMetadataParameter) (associatedType : JsString)
    (line : ProjectedTableLine) : ModernMetadataParameter :=
  .descriptor parameter.name "RFCTYPE_TABLE" "h" "" line.length parameter.decimals
    (if associatedType = [] then none else some associatedType) .tableFields line.fields
    (placement parameter)

/-- A parameter. Its fields are at depth one. -/
def projectParameter (parameter : RecursiveMetadataParameter) (path : String) :
    Projection ModernMetadataParameter := do
  consumeDescriptor context path
  match parameter.reference with
  | .type (.scalar internalType) => do
    let length ← scalarParameterNucLength internalType parameter.internalLength s!"{path}.length"
    let metadata ← scalarMetadata parameter.name internalType length parameter.decimals path
    pure (metadata (placement parameter))
  | .type (.container .structured targetType _) => do
    let target ← referencedNode context targetType path
    if target.kind ≠ .container .structured then rejectProjection "REFERENCE_KIND_MISMATCH" path
    else do
      let fields ← projectStructureFields (projectField context context.maxProjectionDepth) target path
      pure (.descriptor parameter.name "RFCTYPE_STRUCTURE" "u" "" target.nucLength
        parameter.decimals (some targetType) .fields fields (placement parameter))
  | .type (.container .table targetType _) => do
    let target ← referencedNode context targetType path
    let line ← projectTableLine context (projectField context context.maxProjectionDepth)
      context.maxProjectionDepth target path
    pure (tableParameter parameter targetType line)
  | .scalarLine internalType => do
    let line ← projectSyntheticScalarTableLine context parameter internalType path
    pure (tableParameter parameter parameter.associatedType line)
  | .exception => rejectProjection "REFERENCE_KIND_MISMATCH" path

/-- The loop over the parameters, each with its index in the graph. -/
def projectParameters : List (RecursiveMetadataParameter × Nat) →
    Projection (List ModernMetadataParameter)
  | [] => pure []
  | (parameter, index) :: parameters => do
    let converted ← projectParameter context parameter s!"graph.parameters[{index}]"
    let rest ← projectParameters parameters
    pure (converted :: rest)

end Project

section Validate
variable (graph : RecursiveMetadataGraph)

def validateFieldReference (field : RecursiveMetadataField) :
    Except ModernMetadataProjectionError Unit :=
  match field.reference with
  | .scalar _ => .ok ()
  | .container kind targetType cyclic => do
    require (cyclic = false) ⟨"CYCLIC_GRAPH", "graph.nodes"⟩
    match graph.nodes.lookup targetType with
    | none => .error ⟨"FOREIGN_TYPE", "graph.nodes"⟩
    | some target =>
      require (target.kind = .container kind) ⟨"REFERENCE_KIND_MISMATCH", "graph.nodes"⟩

def validateNode (entry : JsString × RecursiveMetadataTypeNode) :
    Except ModernMetadataProjectionError Unit := do
  require (entry.1 = entry.2.name) ⟨"INVALID_NODE_IDENTITY", "graph.nodes"⟩
  forEach (fun _ => validateFieldReference graph) 0 entry.2.fields

def isTableReference : RecursiveMetadataParameterReference → Bool
  | .type (.container .table _ _) | .scalarLine _ => true
  | _ => false

def validateParameter (index : Nat) (parameter : RecursiveMetadataParameter) :
    Except ModernMetadataProjectionError Unit := do
  let path := s!"graph.parameters[{index}]"
  if parameter.parameterClass = .exception then
    require (parameter.reference = .exception) ⟨"REFERENCE_KIND_MISMATCH", path⟩
  else do
    require (parameter.parameterClass = .tables → isTableReference parameter.reference = true)
      ⟨"REFERENCE_KIND_MISMATCH", path⟩
    match parameter.reference with
    | .exception => .error ⟨"REFERENCE_KIND_MISMATCH", path⟩
    | .type (.container _ targetType cyclic) => do
      require (cyclic = false) ⟨"CYCLIC_GRAPH", path⟩
      require (graph.nodes.lookup targetType).isSome ⟨"FOREIGN_TYPE", path⟩
    | _ => .ok ()

/-- The name of the function, unless the graph has a cycle or something else is wrong with it. -/
def validateProjectionGraph : Except ModernMetadataProjectionError JsString := do
  require (graph.version = 1) ⟨"INVALID_GRAPH_VERSION", "graph"⟩
  require (graph.cycles = []) ⟨"CYCLIC_GRAPH", "graph.cycles"⟩
  forEach (fun index name =>
    require (graph.nodes.lookup name).isSome ⟨"FOREIGN_TYPE", s!"graph.rootTypeNames[{index}]"⟩)
    0 graph.rootTypeNames
  forEach (fun _ => validateNode graph) 0 graph.nodes
  forEach (validateParameter graph) 0 graph.parameters
  let functionNames := functionNamesOf (graph.parameters.map (·.functionName))
  require (functionNames.length ≤ 1) ⟨"MULTIPLE_FUNCTIONS", "graph.parameters"⟩
  match graph.functionIdentity, functionNames with
  | some name, [] => .ok name
  | some name, other :: _ => do
    require (other = name) ⟨"FOREIGN_FUNCTION_REFERENCE", "graph.parameters"⟩
    .ok name
  | none, name :: _ => .ok name
  | none, [] => .error ⟨"MISSING_FUNCTION", "graph.parameters"⟩

end Validate

section Graph

/-- The parameters but the exceptions, by their positions, with their indices in the graph. -/
def orderedParameters (graph : RecursiveMetadataGraph) : List (RecursiveMetadataParameter × Nat) :=
  (graph.parameters.zipIdx.filter (·.1.parameterClass ≠ .exception)).insertionSort
    (isBefore MetadataParameter.position)

def groupOf (parameterClass : RfcParameterClass)
    (converted : List (RfcParameterClass × ModernMetadataParameter)) :
    List ModernMetadataParameter :=
  (converted.filter (·.1 = parameterClass)).map (·.2)

def groupParameters (rfcName : JsString)
    (converted : List (RfcParameterClass × ModernMetadataParameter)) : ModernRfcMetadata where
  rfcName
  importing := groupOf .importing converted
  exporting := groupOf .exporting converted
  changing := groupOf .changing converted
  table := groupOf .tables converted

def toModernRfcMetadataFromRecursiveGraph (graph : RecursiveMetadataGraph)
    (options : ModernMetadataProjectionOptions) :
    Except ModernMetadataProjectionError ModernRfcMetadata := do
  let rfcName ← validateProjectionGraph graph
  let maxProjectedDescriptors ← projectionLimit options.maxProjectedDescriptors
    defaultMaxProjectedDescriptors absoluteMaxProjectedDescriptors "options.maxProjectedDescriptors"
  let maxProjectionDepth ← projectionLimit options.maxProjectionDepth
    defaultMaxProjectionDepth absoluteMaxProjectionDepth "options.maxProjectionDepth"
  let ordered := orderedParameters graph
  let (converted, _) ← projectParameters ⟨graph, maxProjectedDescriptors, maxProjectionDepth⟩ ordered 0
  .ok (groupParameters rfcName ((ordered.map (·.1.parameterClass)).zip converted))

end Graph
end OpenRfc.ModernMetadata
