import OpenRfc.Xrfc.RecursiveValidation

/-!
Plans of the parameters which the strict codec of recursive documents serves. A plan is the tree of
the types behind a parameter. With an index of the parameters, the trees of types are kept in
caches, also those which could not be built.
-/

namespace OpenRfc.RecursiveClassic
open Fallible Xrfc
open Classic (RfcExid)

deriving instance DecidableEq for NormalizedClassicXrfcLimits

section Limits

structure RecursiveClassicXrfcLimits extends ClassicXrfcLimits where
  maxNodes : Option Nat := none
  maxDepth : Option Nat := none

structure NormalizedRecursiveClassicXrfcLimits extends NormalizedClassicXrfcLimits where
  maxNodes : Nat
  maxDepth : Nat
deriving DecidableEq, Repr

def defaultMaxNodes : Nat := 100000
def absoluteMaxNodes : Nat := 1000000
def defaultMaxDepth : Nat := 64
def absoluteMaxDepth : Nat := 256

def normalizeLimits (limits : RecursiveClassicXrfcLimits) :
    Except String NormalizedRecursiveClassicXrfcLimits := do
  let classic ← normalizeClassicXrfcLimits limits.toClassicXrfcLimits
  let maxNodes ← boundedLimit limits.maxNodes defaultMaxNodes absoluteMaxNodes "maxNodes"
  let maxDepth ← boundedLimit limits.maxDepth defaultMaxDepth absoluteMaxDepth "maxDepth"
  .ok { classic with maxNodes, maxDepth }

end Limits

section Identity

structure RecursiveClassicXrfcParameterIdentity where
  functionName : JsString
  parameterName : JsString
  parameterClass : RfcParameterClass
  associatedType : JsString
  internalType : RfcExid
deriving DecidableEq, Repr

/-- `internalType.length === 1` -/
def isOneCharacter : RfcExid → Bool
  | .other code => code.length = 1
  | _ => true

def snapshotIdentity (identity : RecursiveClassicXrfcParameterIdentity) :
    Except String RecursiveClassicXrfcParameterIdentity := do
  assertClassicXrfcXmlName identity.parameterName "xRFC parameter name"
  require (identity.functionName ≠ []) "recursive xRFC function name must be non-empty"
  require (identity.parameterClass ≠ .exception)
    "recursive xRFC parameter class must be I, E, C, or T"
  require (isOneCharacter identity.internalType)
    "recursive xRFC internal type must contain one character"
  .ok identity

/-- The name of a parameter in its errors. -/
def RecursiveClassicXrfcParameterIdentity.path (identity : RecursiveClassicXrfcParameterIdentity) :
    String :=
  s!"{identity.functionName.text}.{identity.parameterName.text}"

end Identity

section Descriptors

/-- The types of the cells: `I`, `C`, `g` and `y` -/
inductive RecursiveScalarType
  | int4 | char | string | xstring
deriving DecidableEq, Repr

/-- `SUPPORTED_SCALARS` -/
def supportedScalar? : RfcExid → Option RecursiveScalarType
  | .int4 => some .int4
  | .char => some .char
  | .string => some .string
  | .xstring => some .xstring
  | _ => none

inductive RecursiveClassicXrfcDescriptor
  | scalar (name : JsString) (internalType : RecursiveScalarType) (internalLength : Nat)
  | structured (name typeName : JsString) (fields : List RecursiveClassicXrfcDescriptor)
  | table (name typeName : JsString) (line : RecursiveClassicXrfcDescriptor)
deriving Repr

namespace RecursiveClassicXrfcDescriptor

def name : RecursiveClassicXrfcDescriptor → JsString
  | scalar name _ _ | structured name _ _ | table name _ _ => name

/-- `bindDescriptorRootName` -/
def withName (name : JsString) : RecursiveClassicXrfcDescriptor → RecursiveClassicXrfcDescriptor
  | scalar _ internalType internalLength => scalar name internalType internalLength
  | structured _ typeName fields => structured name typeName fields
  | table _ typeName line => table name typeName line

end RecursiveClassicXrfcDescriptor

structure DescriptorTemplate where
  root : RecursiveClassicXrfcDescriptor
  descriptorNodeCount : Nat
  descriptorMaximumDepth : Nat
deriving Repr

/-- `JSON.stringify([kind, typeName, …])` -/
abbrev TemplateKey := ClassicXrfcKind × JsString × NormalizedRecursiveClassicXrfcLimits

/-- A template, or the message of the error which stands in its place. -/
abbrev TemplateCache := List (TemplateKey × Except String DescriptorTemplate)

/-- The caches of an index: those of the types of parameters, and of all types. -/
structure DescriptorCaches where
  templates : TemplateCache
  subtrees : TemplateCache

/-- The budget of a walk, and the caches of its index if there is one. -/
structure DescriptorBudget where
  nodes : Nat
  maximumDepth : Nat
  caches : Option DescriptorCaches

/-- A step of a walk, which changes its budget even where it fails. -/
abbrev Build := ExceptT String (StateM DescriptorBudget)

/-- A check, which leaves the budget as it is. -/
def checked {α : Type} (x : Except String α) : Build α := ExceptT.mk (pure x)

end Descriptors

section Walk
variable (graph : RecursiveMetadataGraph) (limits : NormalizedRecursiveClassicXrfcLimits)

def visitDescriptor (depth : Nat) (path : String) : Build Unit := do
  checked (require (depth ≤ limits.maxDepth) s!"{path} descriptor depth exceeds {limits.maxDepth}")
  modify fun budget =>
    { budget with nodes := budget.nodes + 1, maximumDepth := max budget.maximumDepth depth }
  let budget ← get
  checked (require (budget.nodes ≤ limits.maxNodes)
    s!"{path} descriptor node count exceeds {limits.maxNodes}")

def requiredNode (typeName : JsString) (kind : ClassicXrfcKind) (path : String) :
    Except String RecursiveMetadataTypeNode :=
  let error := s!"{path} requires recursive {kind.label} node {typeName.text}"
  match graph.node? typeName with
  | none => .error error
  | some node => do
    require (node.kind = .container kind ∧ node.name = typeName) error
    .ok node

/-- What is checked of a scalar behind its visit. -/
def checkScalar (field : RecursiveMetadataField) (referenceType : RfcExid) (path : String) :
    Except String RecursiveClassicXrfcDescriptor := do
  require (referenceType = field.internalType) s!"{path} contains inconsistent scalar metadata"
  match supportedScalar? field.internalType with
  | none => .error (s!"{path} type {field.internalType.code} is not implemented for the proven " ++
      "recursive xRFC subset")
  | some internalType => do
    require (field.ucLength ≤ Double.maxSafeInteger) s!"{path} contains invalid Unicode geometry"
    require (¬(internalType = .int4 ∧ field.ucLength ≠ 4))
      s!"{path} INT4 must occupy four Unicode bytes"
    require (¬(internalType = .char ∧ field.ucLength % 2 ≠ 0))
      s!"{path} Unicode character width must be even"
    .ok (.scalar field.name internalType field.ucLength)

def scalarDescriptor (field : RecursiveMetadataField) (referenceType : RfcExid) (path : String)
    (depth : Nat) : Build RecursiveClassicXrfcDescriptor := do
  visitDescriptor limits depth path
  checked (checkScalar field referenceType path)

/-- The walk into a type, under a name, at a path and a depth. -/
abbrev NodeVisit :=
  JsString → ClassicXrfcKind → JsString → String → Nat → Build RecursiveClassicXrfcDescriptor

/-- What is checked of a reference in front of the walk into its type. -/
def checkReference (field : RecursiveMetadataField) (kind : ClassicXrfcKind) (cyclic : Bool)
    (path : String) : Except String Unit := do
  require (cyclic = false) s!"{path} contains a cyclic recursive reference"
  require (¬(kind = .structured ∧ field.internalType ≠ .flatStructure ∧
      field.internalType ≠ .deepStructure))
    s!"{path} contains inconsistent structure metadata"
  require (¬(kind = .table ∧ field.internalType ≠ .table))
    s!"{path} contains inconsistent table metadata"

def descriptorForReference (visitNode : NodeVisit) (field : RecursiveMetadataField) (path : String)
    (depth : Nat) : Build RecursiveClassicXrfcDescriptor := do
  checked (assertClassicXrfcXmlName field.name s!"{path} field name")
  match field.reference with
  | .scalar referenceType => scalarDescriptor limits field referenceType path depth
  | .container kind targetType cyclic => do
    checked (checkReference field kind cyclic path)
    visitNode targetType kind field.name path depth

/-- What is checked of the name and the position of a field. -/
def checkField (field : RecursiveMetadataField) (index : Nat) (names : List JsString)
    (path fieldPath : String) : Except String Unit := do
  require (field.name ≠ []) s!"{fieldPath} structure field name must not be empty"
  require (field.name ∉ names) s!"{path} contains duplicate field {field.name.text}"
  require (field.position = index + 1) s!"{fieldPath} has inconsistent field position"

def structureFieldPath (path : String) (field : RecursiveMetadataField) (index : Nat) : String :=
  if field.name = [] then s!"{path}.<field:{index}>" else s!"{path}.{field.name.text}"

/-- The loop over the fields of a structure. -/
def buildFields (visitNode : NodeVisit) (path : String) (depth : Nat) :
    List RecursiveMetadataField → Nat → List JsString → Build (List RecursiveClassicXrfcDescriptor)
  | [], _, _ => pure []
  | field :: fields, index, names => do
    let fieldPath := structureFieldPath path field index
    checked (checkField field index names path fieldPath)
    let descriptor ← descriptorForReference limits visitNode field fieldPath (depth + 1)
    let descriptors ← buildFields visitNode path depth fields (index + 1) (field.name :: names)
    pure (descriptor :: descriptors)

def buildStructureDescriptor (visitNode : NodeVisit) (node : RecursiveMetadataTypeNode)
    (name : JsString) (path : String) (depth : Nat) : Build RecursiveClassicXrfcDescriptor := do
  let fields ← buildFields limits visitNode path depth node.fields 0 []
  pure (.structured name node.name fields)

/-- The type of the line of a table. -/
def lineType (node : RecursiveMetadataTypeNode) (path : String) : Except String JsString :=
  match node.fields with
  | [line] =>
    match line.name, line.reference with
    | [], .container .structured targetType false => .ok targetType
    | _, _ => .error s!"{path} table {node.name.text} requires one non-cyclic structured line"
  | _ => .error s!"{path} table {node.name.text} must contain one line descriptor"

def buildTableDescriptor (visitNode : NodeVisit) (node : RecursiveMetadataTypeNode)
    (name : JsString) (path : String) (depth : Nat) : Build RecursiveClassicXrfcDescriptor := do
  let targetType ← checked (lineType node path)
  let line ← visitNode targetType .structured [] s!"{path}[]" (depth + 1)
  pure (.table name node.name line)

/-- The walk through a type. A type is active below itself, which its `finally` ends. -/
def buildNodeDescriptorUncached (visitNode : List JsString → NodeVisit)
    (activeTypes : List JsString) : NodeVisit := fun typeName kind name path depth => do
  visitDescriptor limits depth path
  checked (require (typeName ∉ activeTypes)
    s!"{path} contains a cyclic recursive type {typeName.text}")
  let node ← checked (requiredNode graph typeName kind path)
  match kind with
  | .structured =>
    buildStructureDescriptor limits (visitNode (typeName :: activeTypes)) node name path depth
  | .table => buildTableDescriptor (visitNode (typeName :: activeTypes)) node name path depth

def descriptorTemplatePath : String := "<recursive-xrfc-root>"

/-- `throwDescriptorFailure` -/
def descriptorFailure (message path : String) : String := message.replace descriptorTemplatePath path

/-- `applyCachedDescriptorMetrics` -/
def applyCachedDescriptorMetrics (template : DescriptorTemplate) (depth : Nat) (path : String) :
    Build Unit := do
  let maximumDepth := depth + template.descriptorMaximumDepth - 1
  checked (require (maximumDepth ≤ limits.maxDepth)
    s!"{path} descriptor depth exceeds {limits.maxDepth}")
  let budget ← get
  let nodes := budget.nodes + template.descriptorNodeCount
  checked (require (nodes ≤ Double.maxSafeInteger ∧ nodes ≤ limits.maxNodes)
    s!"{path} descriptor node count exceeds {limits.maxNodes}")
  set { budget with nodes, maximumDepth := max budget.maximumDepth maximumDepth }

/-- A walk which starts anew, for a template. The budget around it does not change. -/
def buildTemplate (visit : NodeVisit) (typeName : JsString) (kind : ClassicXrfcKind)
    (caches : DescriptorCaches) : Except String DescriptorTemplate × Option DescriptorCaches :=
  let (result, budget) := (visit typeName kind [] descriptorTemplatePath 1).run
    ⟨0, 0, some caches⟩
  (result.map fun root => ⟨root, budget.nodes, budget.maximumDepth⟩, budget.caches)

/-- The template of a type, from the cache or for it. -/
def subtreeTemplate (uncached : NodeVisit) (typeName : JsString) (kind : ClassicXrfcKind)
    (caches : DescriptorCaches) : Except String DescriptorTemplate × Option DescriptorCaches :=
  match caches.subtrees.lookup (kind, typeName, limits) with
  | some template => (template, some caches)
  | none =>
    let (template, caches) := buildTemplate uncached typeName kind caches
    (template, caches.map fun caches =>
      { caches with subtrees := ((kind, typeName, limits), template) :: caches.subtrees })

/-- The descriptor which a template stands for. -/
def useTemplate (template : Except String DescriptorTemplate) (name : JsString) (path : String)
    (depth : Nat) : Build RecursiveClassicXrfcDescriptor := do
  let template ← checked (template.mapError fun message => descriptorFailure message path)
  applyCachedDescriptorMetrics limits template depth path
  pure (template.root.withName name)

/-- The walk into a type. It goes down as long as there are types which are not active; there are
never more than `fuel` of them. -/
def buildNodeDescriptor : Nat → List JsString → NodeVisit
  | 0, _ => fun typeName _ _ path _ =>
    checked (.error s!"{path} contains a cyclic recursive type {typeName.text}")
  | fuel + 1, activeTypes => fun typeName kind name path depth => do
    let uncached := buildNodeDescriptorUncached graph limits (buildNodeDescriptor fuel) activeTypes
    let budget ← get
    match budget.caches with
    | none => uncached typeName kind name path depth
    | some caches => do
      checked (require (typeName ∉ activeTypes)
        s!"{path} contains a cyclic recursive type {typeName.text}")
      let (template, caches) := subtreeTemplate limits uncached typeName kind caches
      set { budget with caches }
      useTemplate limits template name path depth

end Walk

section Resolve

structure ResolvedRecursiveClassicXrfcParameter where
  functionName : JsString
  parameterName : JsString
  parameterClass : RfcParameterClass
  kind : ClassicXrfcKind
  root : RecursiveClassicXrfcDescriptor
  descriptorNodeCount : Nat
  descriptorMaximumDepth : Nat
deriving Repr

/-- The parameters of a graph by name, and what has been kept of its types. -/
structure RecursiveMetadataParameterIndex where
  parameters : List (JsString × RecursiveMetadataParameter)
  caches : DescriptorCaches

def absoluteMaxParameterCount : Nat := 100000

/-- The loop over the parameters. -/
def indexParameters (functionName : JsString) :
    List (JsString × RecursiveMetadataParameter) → List RecursiveMetadataParameter →
    Except String (List (JsString × RecursiveMetadataParameter))
  | indexed, [] => .ok indexed
  | indexed, parameter :: parameters => do
    require (parameter.name ≠ [])
      s!"recursive xRFC metadata parameter {indexed.length} name must be non-empty"
    require (parameter.name ∉ indexed.map (·.1))
      s!"{functionName.text}.{parameter.name.text} has duplicate recursive metadata"
    indexParameters functionName (indexed ++ [(parameter.name, parameter)]) parameters

def createRecursiveMetadataParameterIndex (graph : RecursiveMetadataGraph) :
    Except String RecursiveMetadataParameterIndex := do
  let functionName := graph.functionIdentity.getD []
  require (functionName ≠ []) "recursive xRFC metadata lacks a function identity"
  require (graph.limits.maxRows ≤ absoluteMaxParameterCount)
    s!"recursive xRFC graph maxRows is outside 0..{absoluteMaxParameterCount}"
  require (graph.parameters.length ≤ graph.limits.maxRows)
    s!"recursive xRFC graph exceeds its row budget {graph.limits.maxRows}"
  let parameters ← indexParameters functionName [] graph.parameters
  .ok ⟨parameters, ⟨[], []⟩⟩

variable (graph : RecursiveMetadataGraph)

def matchingParameters (identity : RecursiveClassicXrfcParameterIdentity) :
    Except String RecursiveMetadataParameter :=
  match graph.parameters.filter fun parameter => parameter.name = identity.parameterName with
  | [parameter] => .ok parameter
  | found => .error
    s!"{identity.path} recursive metadata contains {found.length} matching parameters"

def matchingParameter (identity : RecursiveClassicXrfcParameterIdentity)
    (index : Option RecursiveMetadataParameterIndex) :
    Except String RecursiveMetadataParameter := do
  require (graph.functionIdentity = some identity.functionName)
    ("recursive xRFC metadata identity does not match function " ++ identity.functionName.text)
  let parameter ← match index with
    | none => matchingParameters graph identity
    | some index =>
      match index.parameters.lookup identity.parameterName with
      | some parameter => .ok parameter
      | none => .error s!"{identity.path} recursive metadata contains 0 matching parameters"
  require (parameter.functionName = identity.functionName ∧
      parameter.parameterClass = identity.parameterClass ∧
      parameter.associatedType = identity.associatedType ∧
      parameter.internalType = identity.internalType)
    s!"{identity.path} recursive descriptor does not match flat metadata"
  .ok parameter

/-- The type of a parameter. -/
def rootReference (identity : RecursiveClassicXrfcParameterIdentity)
    (parameter : RecursiveMetadataParameter) : Except String (ClassicXrfcKind × JsString) :=
  match parameter.reference with
  | .type (.container kind targetType cyclic) => do
    require (cyclic = false) s!"{identity.path} contains a cyclic recursive reference"
    .ok (kind, targetType)
  | _ => .error s!"{identity.path} is not a recursive structure or structured table"

/-- The walk into a type behind a parameter. -/
def buildRoot (limits : NormalizedRecursiveClassicXrfcLimits) : NodeVisit :=
  buildNodeDescriptor graph limits (graph.nodes.length + 1) []

/-- The plan of a parameter whose template is known. -/
def resolvedParameter (identity : RecursiveClassicXrfcParameterIdentity) (kind : ClassicXrfcKind)
    (template : DescriptorTemplate) : ResolvedRecursiveClassicXrfcParameter where
  functionName := identity.functionName
  parameterName := identity.parameterName
  parameterClass := identity.parameterClass
  kind := kind
  root := template.root
  descriptorNodeCount := template.descriptorNodeCount
  descriptorMaximumDepth := template.descriptorMaximumDepth

/-- The limits of a resolution, and the type which is to be walked through. -/
def resolvedReference (identity : RecursiveClassicXrfcParameterIdentity)
    (limits : RecursiveClassicXrfcLimits) (index : Option RecursiveMetadataParameterIndex) :
    Except String (NormalizedRecursiveClassicXrfcLimits × ClassicXrfcKind × JsString) := do
  let identity ← snapshotIdentity identity
  let limits ← normalizeLimits limits
  let parameter ← matchingParameter graph identity index
  let (kind, targetType) ← rootReference identity parameter
  .ok (limits, kind, targetType)

def resolveRecursiveClassicXrfcParameter (identity : RecursiveClassicXrfcParameterIdentity)
    (limits : RecursiveClassicXrfcLimits) :
    Except String ResolvedRecursiveClassicXrfcParameter := do
  let (limits, kind, targetType) ← resolvedReference graph identity limits none
  let (root, budget) := (buildRoot graph limits targetType kind identity.parameterName
    identity.path 1).run ⟨0, 0, none⟩
  let root ← root
  .ok (resolvedParameter identity kind ⟨root, budget.nodes, budget.maximumDepth⟩)

/-- The template of the type of a parameter, from the cache or for it. -/
def rootTemplate (limits : NormalizedRecursiveClassicXrfcLimits) (typeName : JsString)
    (kind : ClassicXrfcKind) (caches : DescriptorCaches) :
    Except String DescriptorTemplate × DescriptorCaches :=
  match caches.templates.lookup (kind, typeName, limits) with
  | some template => (template, caches)
  | none =>
    let (template, built) := buildTemplate (buildRoot graph limits) typeName kind caches
    let caches := built.getD caches
    (template,
      { caches with templates := ((kind, typeName, limits), template) :: caches.templates })

/-- The plan of a parameter, and the index with what has been kept. -/
def resolveRecursiveClassicXrfcParameterFromIndex (index : RecursiveMetadataParameterIndex)
    (identity : RecursiveClassicXrfcParameterIdentity) (limits : RecursiveClassicXrfcLimits) :
    Except String ResolvedRecursiveClassicXrfcParameter × RecursiveMetadataParameterIndex :=
  match resolvedReference graph identity limits (some index) with
  | .error e => (.error e, index)
  | .ok (limits, kind, targetType) =>
    let (template, caches) := rootTemplate graph limits targetType kind index.caches
    (match template with
      | .error message => .error (descriptorFailure message identity.path)
      | .ok template => .ok (resolvedParameter identity kind
          { template with root := template.root.withName identity.parameterName }),
      { index with caches })

end Resolve
end OpenRfc.RecursiveClassic
