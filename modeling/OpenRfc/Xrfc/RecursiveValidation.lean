import OpenRfc.Xrfc.RecursiveMetadata

/-!
The validation of the types behind a parameter. The walk goes down the references of a node, keeps
the heights of the nodes which it has finished, and, for a graph which the normaliser has
produced, leaves them in the caches of the index of the parameters, where later walks find them.
-/

namespace OpenRfc.Xrfc
open Classic (RfcExid)
open Fallible

structure GraphTraversalBudget where
  maxNodes : Nat
  maxRows : Nat
  maxEdges : Nat
  nodes : Nat
  rows : Nat
  edges : Nat
deriving Repr

def absoluteGraphMaxNodes : Nat := 20000
def absoluteGraphMaxRows : Nat := 100000
def absoluteGraphMaxEdges : Nat := 100000

def declaredGraphLimit (value maximum : Nat) (label : String) : Except String Unit :=
  require (value ≤ maximum) s!"recursive xRFC graph {label} is outside 0..{maximum}"

def graphTraversalBudget (graph : RecursiveMetadataGraph) :
    Except String GraphTraversalBudget := do
  let limits := graph.limits
  declaredGraphLimit limits.maxNodes absoluteGraphMaxNodes "maxNodes"
  declaredGraphLimit limits.maxRows absoluteGraphMaxRows "maxRows"
  declaredGraphLimit limits.maxEdges absoluteGraphMaxEdges "maxEdges"
  require (graph.nodes.length ≤ limits.maxNodes)
    s!"recursive xRFC graph exceeds its node budget {limits.maxNodes}"
  require (graph.parameters.length ≤ limits.maxRows)
    s!"recursive xRFC graph exceeds its row budget {limits.maxRows}"
  .ok ⟨limits.maxNodes, limits.maxRows, limits.maxEdges, 0, 0, 0⟩

def consumeGraphNode (node : RecursiveMetadataTypeNode) (budget : GraphTraversalBudget)
    (path : String) : Except String GraphTraversalBudget := do
  let budget := { budget with nodes := budget.nodes + 1 }
  require (budget.nodes ≤ budget.maxNodes)
    s!"{path} exceeds recursive xRFC graph node budget {budget.maxNodes}"
  let budget := { budget with rows := budget.rows + node.fields.length }
  require (budget.rows ≤ budget.maxRows)
    s!"{path} exceeds recursive xRFC graph row budget {budget.maxRows}"
  .ok budget

def consumeGraphEdge (budget : GraphTraversalBudget) (path : String) :
    Except String GraphTraversalBudget := do
  let budget := { budget with edges := budget.edges + 1 }
  require (budget.edges ≤ budget.maxEdges)
    s!"{path} exceeds recursive xRFC graph edge budget {budget.maxEdges}"
  .ok budget

def ClassicXrfcKind.label : ClassicXrfcKind → String
  | .structured => "structure"
  | .table => "table"

def requiredNode (graph : RecursiveMetadataGraph) (name : JsString) (kind : ClassicXrfcKind)
    (path : String) : Except String RecursiveMetadataTypeNode :=
  match graph.node? name with
  | none => .error s!"{path} requires recursive {kind.label} node {name.text}"
  | some node => do
    require (node.kind = .container kind)
      s!"{path} requires recursive {kind.label} node {name.text}"
    require (node.name = name)
      (s!"{path} recursive {kind.label} node identity {node.name.text} disagrees with map key " ++
        name.text)
    .ok node

def targetNode (graph : RecursiveMetadataGraph) (kind : ClassicXrfcKind) (targetType : JsString)
    (cyclic : Bool) (path : String) : Except String RecursiveMetadataTypeNode := do
  require (cyclic = false) s!"{path} contains a cyclic recursive RFC type"
  requiredNode graph targetType kind path

/-- `SUPPORTED_SCALAR_TYPES` -/
def isSupportedScalarType : RfcExid → Bool
  | .flatStructure | .deepStructure | .table | .other _ => false
  | _ => true

def isCharacterType (exid : RfcExid) : Bool :=
  exid = .char || exid = .numc || exid = .date || exid = .time

/-- The descriptor of a node: one anonymous field of a scalar, one anonymous field or only named
ones of a table, and only named ones of a structure. -/
def checkDescriptor (node : RecursiveMetadataTypeNode) (path : String) : Except String Unit :=
  let anonymous := node.fields.map (·.name) = [[]]
  let named := ∀ field ∈ node.fields, field.name ≠ []
  match node.kind with
  | .scalar => require anonymous s!"{path} scalar type has an invalid anonymous descriptor"
  | .container .table =>
    require (anonymous ∨ (node.fields ≠ [] ∧ named))
      s!"{path} table type has an invalid line descriptor"
  | .container .structured => require named s!"{path} structure contains an anonymous field"

def fieldPath (path : String) (field : RecursiveMetadataField) : String :=
  if field.name = [] then s!"{path}.item" else s!"{path}.{field.name.text}"

/-- A field without a name has no tag. -/
def checkTag (name : JsString) : Except String Unit :=
  if name = [] then .ok () else discard (escapeRecursiveXrfcTag name)

/-- What is checked of a field of a node in front of the walk into its type. -/
def checkField (node : RecursiveMetadataTypeNode) (path : String) (names : List JsString)
    (field : RecursiveMetadataField) : Except String Unit := do
  require (field.name ∉ names) s!"{path} contains duplicate field {field.name.text}"
  checkTag field.name
  let fieldPath := fieldPath path field
  match field.reference with
  | .scalar internalType => do
    require (internalType = field.internalType ∧ isSupportedScalarType field.internalType)
      s!"{fieldPath} xRFC scalar type {field.internalType.code} is not implemented"
    require (¬(isCharacterType field.internalType ∧ field.ucLength % 2 ≠ 0))
      s!"{fieldPath} Unicode character width must be even"
  | .container kind _ _ => do
    require (node.kind ≠ .scalar) s!"{fieldPath} scalar node contains a container reference"
    require (¬(kind = .structured ∧ field.internalType ≠ .flatStructure ∧
        field.internalType ≠ .deepStructure))
      s!"{fieldPath} contains inconsistent structure metadata"
    require (¬(kind = .table ∧ field.internalType ≠ .table))
      s!"{fieldPath} contains inconsistent table metadata"

/-- The caches of an index, which is shared by the walks for the parameters of a graph. -/
structure IndexCaches where
  validated : List (ClassicXrfcKind × JsString × Nat)
  subtrees : List ((RecursiveMetadataKind × JsString) × Nat)
deriving Repr

/-- What a walk changes. There are no caches where there is no index, or where its graph is not
cacheable. -/
structure Walk where
  subtreeHeights : List (JsString × Nat)
  budget : GraphTraversalBudget
  caches : Option IndexCaches
deriving Repr

/-- A step of a walk, which changes the caches even where it fails. -/
abbrev Outcome (α : Type) := Except String α × Walk

def Outcome.andThen {α β : Type} : Outcome α → (α → Walk → Outcome β) → Outcome β
  | (.ok a, walk), next => next a walk
  | (.error e, walk), _ => (.error e, walk)

namespace Walk

def cached? (walk : Walk) (node : RecursiveMetadataTypeNode) : Option Nat :=
  walk.caches.bind fun caches => caches.subtrees.lookup (node.kind, node.name)

def setHeight (walk : Walk) (node : RecursiveMetadataTypeNode) (height : Nat) : Walk :=
  { walk with subtreeHeights := (node.name, height) :: walk.subtreeHeights }

def setCached (walk : Walk) (node : RecursiveMetadataTypeNode) (height : Nat) : Walk :=
  { walk with caches := walk.caches.map fun caches =>
    { caches with subtrees := ((node.kind, node.name), height) :: caches.subtrees } }

end Walk

section Walking
variable (graph : RecursiveMetadataGraph)

/-- The loop over the fields of a node, with the names which it has seen and the height so far. -/
def validateFields (visit : RecursiveMetadataTypeNode → String → Walk → Outcome Nat)
    (node : RecursiveMetadataTypeNode) (path : String) :
    List RecursiveMetadataField → List JsString → Nat → Walk → Outcome Nat
  | [], _, subtreeHeight, walk => (.ok subtreeHeight, walk)
  | field :: fields, names, subtreeHeight, walk =>
    match checkField node path names field, field.reference with
    | .error e, _ => (.error e, walk)
    | .ok (), .scalar _ =>
      validateFields visit node path fields (field.name :: names) subtreeHeight walk
    | .ok (), .container kind targetType cyclic =>
      match consumeGraphEdge walk.budget (fieldPath path field) with
      | .error e => (.error e, walk)
      | .ok budget =>
        match targetNode graph kind targetType cyclic (fieldPath path field) with
        | .error e => (.error e, { walk with budget })
        | .ok target =>
          (visit target (fieldPath path field) { walk with budget }).andThen
            fun childHeight walk =>
              validateFields visit node path fields (field.name :: names)
                (max subtreeHeight (1 + childHeight)) walk

/-- The walk through a node. `levels` is `maximumDepth + 1 - depth`, so that the walk has gone too
deep where there are none left; `visiting` loses the name of a node again in its `finally`. -/
def validateNode (maximumDepth : Nat) :
    Nat → List JsString → RecursiveMetadataTypeNode → String → Walk → Outcome Nat
  | 0, _, _, path, walk => (.error s!"{path} exceeds recursive xRFC depth {maximumDepth}", walk)
  | levels + 1, visiting, node, path, walk =>
    match walk.subtreeHeights.lookup node.name with
    | some knownHeight =>
      if levels + 1 < knownHeight then
        (.error s!"{path} exceeds recursive xRFC depth {maximumDepth}", walk)
      else (.ok knownHeight, walk)
    | none =>
      if node.name ∈ visiting then (.error s!"{path} contains a cyclic recursive RFC type", walk)
      else
        match walk.cached? node with
        | some height =>
          if levels + 1 < height then
            (.error s!"{path} exceeds recursive xRFC depth {maximumDepth}", walk)
          else (.ok height, walk.setHeight node height)
        | none =>
          match consumeGraphNode node walk.budget path, checkDescriptor node path with
          | .error e, _ => (.error e, walk)
          | .ok _, .error e => (.error e, walk)
          | .ok budget, .ok () =>
            (validateFields graph
                (fun target path walk =>
                  validateNode maximumDepth levels (node.name :: visiting) target path walk)
                node path node.fields [] 1 { walk with budget }).andThen
              fun subtreeHeight walk =>
                (.ok subtreeHeight, (walk.setHeight node subtreeHeight).setCached node subtreeHeight)

/-- A plan, whose node is the one which the graph has under its name. -/
structure ResolvedRecursiveXrfcParameter where
  kind : ClassicXrfcKind
  node : RecursiveMetadataTypeNode
  registered : graph.node? node.name = some node

/-- The validation of a resolved parameter, with the caches it leaves behind. -/
def validateRecursiveXrfcParameterAtDepth (parameterName : JsString) (maximumDepth : Nat)
    (resolved : ResolvedRecursiveXrfcParameter graph) (caches : Option IndexCaches) :
    Except String Unit × Option IndexCaches :=
  match escapeRecursiveXrfcTag parameterName with
  | .error e => (.error e, caches)
  | .ok _ =>
    let key := (resolved.kind, resolved.node.name, maximumDepth)
    if caches.any fun caches => caches.validated.contains key then (.ok (), caches)
    else
      match graphTraversalBudget graph with
      | .error e => (.error e, caches)
      | .ok traversalBudget =>
        match validateNode graph maximumDepth maximumDepth [] resolved.node parameterName.text
            ⟨[], traversalBudget, caches⟩ with
        | (.error e, walk) => (.error e, walk.caches)
        | (.ok _, walk) =>
          (.ok (), walk.caches.map fun caches =>
            { caches with validated := key :: caches.validated })

/-- The same checks without a memory, down every path again. -/
def rewalkTarget (visit : RecursiveMetadataTypeNode → Bool) (field : RecursiveMetadataField) :
    Bool :=
  match field.reference with
  | .scalar _ => true
  | .container kind targetType cyclic =>
    match targetNode graph kind targetType cyclic "" with
    | .error _ => false
    | .ok target => visit target

def rewalkFields (visit : RecursiveMetadataTypeNode → Bool) (node : RecursiveMetadataTypeNode) :
    List RecursiveMetadataField → List JsString → Bool
  | [], _ => true
  | field :: fields, names =>
    (checkField node "" names field).isOk && rewalkTarget graph visit field &&
      rewalkFields visit node fields (field.name :: names)

def rewalk : Nat → RecursiveMetadataTypeNode → Bool
  | 0, _ => false
  | levels + 1, node =>
    (checkDescriptor node "").isOk && rewalkFields graph (rewalk levels) node node.fields []

end Walking
end OpenRfc.Xrfc
