import OpenRfc.MetadataGraph.Parameters

/-!
The graph which is made of all rows: its nodes and parameters know which of their references lie on
cycles, and no node is beyond the reach of the roots.
-/

namespace OpenRfc.MetadataGraph
open Fallible Indexed Xrfc
open TypeGraph (ProvisionalGraph ProvisionalReference RecursiveMetadataCycle RecursiveMetadataError
  graphComponents finalReference finalCycles reachableFrom)

abbrev RecursiveMetadataField := MetadataField RecursiveMetadataReference
abbrev RecursiveMetadataTypeNode := MetadataNode RecursiveMetadataReference
abbrev RecursiveMetadataParameter := MetadataParameter RecursiveMetadataParameterReference

/-- The identity of the function is its name. -/
structure RecursiveMetadataGraph where
  version : Nat
  functionIdentity : Option JsString
  nodes : List (JsString × RecursiveMetadataTypeNode)
  parameters : List RecursiveMetadataParameter
  rootTypeNames : List JsString
  cycles : List RecursiveMetadataCycle

/-- The rows of an answer. `functionNames` may be missing. -/
structure MetadataRows where
  functionNames : Option (List JsString)
  typeRows : List TypeRow
  indirectRows : List IndirectRow
  parameterRows : List ParameterRow

section Function

def snapshotFunctionIdentity :
    Option (List JsString) → Except RecursiveMetadataError (Option JsString)
  | none | some [] => .ok none
  | some [name] => .ok (some name)
  | some (_ :: _ :: _) => .error ⟨"MULTIPLE_FUNCTION_IDENTITIES", "FUNCTIONNAMES"⟩

/-- `new Set(parameters.map((parameter) => parameter.functionName))` -/
def functionNamesOf (names : List JsString) : List JsString := names.dedup

def validateFunctionIdentity (identity : Option JsString) (identityWasProvided : Bool)
    (parameters : List ParameterRow) : Except RecursiveMetadataError Unit := do
  let names := functionNamesOf (parameters.map (·.functionName))
  require (names.length ≤ 1) ⟨"MULTIPLE_FUNCTIONS", "PARAMETERS"⟩
  require (¬(identityWasProvided ∧ identity = none ∧ names ≠ []))
    ⟨"MISSING_FUNCTION_IDENTITY", "FUNCTIONNAMES"⟩
  require (∀ name ∈ identity, ∀ other ∈ names, other = name)
    ⟨"FOREIGN_FUNCTION_REFERENCE", "PARAMETERS"⟩

end Function

section Components

def componentField (field : ProvisionalField) : TypeGraph.ProvisionalField :=
  ⟨field.name, field.position, field.internalType, field.decimals, field.ucLength, field.reference⟩

def componentNode (node : ProvisionalNode) : TypeGraph.ProvisionalNode :=
  ⟨node.name, node.kind, node.fields.map componentField⟩

/-- The graph of which the components are searched. The checks in front leave no other case. -/
def provisionalGraph? (nodes : List ProvisionalNode) (roots : List JsString) :
    Option ProvisionalGraph :=
  let nodes := nodes.map componentNode
  if h : (nodes.map (·.name)).Nodup ∧
      (∀ node ∈ nodes, ∀ field ∈ node.fields,
        ∀ name ∈ field.reference.targetType?, name ∈ nodes.map (·.name)) ∧
      ∀ name ∈ roots, name ∈ nodes.map (·.name) then
    some ⟨nodes, roots, h.1, h.2.1, h.2.2⟩
  else none

/-- The nodes which the loop over the stack of names reaches from the roots. -/
def reachableNodes (graph : ProvisionalGraph) : List Nat :=
  reachableFrom graph.adjacency.targets graph.adjacency.size (graph.roots.map graph.indexByName)

end Components

section Final
variable (graph : ProvisionalGraph) (components : TypeGraph.Components)

def finalNodes (nodes : List ProvisionalNode) : List (JsString × RecursiveMetadataTypeNode) :=
  nodes.zipIdx.map fun (node, nodeIndex) =>
    (node.name,
      { node with
        fields := node.fields.map fun field =>
          { field with reference := finalReference graph components nodeIndex field.reference } })

def finalParameterReference : ProvisionalParameterReference → RecursiveMetadataParameterReference
  | .exception => .exception
  | .scalar internalType => .type (.scalar internalType)
  | .scalarTable internalType => .scalarLine internalType
  | .container kind targetType =>
    .type (.container kind targetType (components.cyclicComponents.contains
      (components.componentByNode (graph.indexByName targetType))))

def finalParameters (values : List ProvisionalParameter) : List RecursiveMetadataParameter :=
  values.map fun parameter =>
    { parameter with reference := finalParameterReference graph components parameter.reference }

end Final

section Normalize

def graphRoots (nodes : List ProvisionalNode) (rootTypeNames rootTypes : List JsString) :
    List JsString :=
  let roots := rootTypeNames ++ rootTypes.filter (· ∉ rootTypeNames)
  if roots = [] then nodes.map (·.name) else roots

def normalizeRecursiveMetadataGraph (rows : MetadataRows) (rootTypeNames : List JsString)
    (limits : RecursiveMetadataLimits) : Except RecursiveMetadataError RecursiveMetadataGraph := do
  let functionIdentity ← snapshotFunctionIdentity rows.functionNames
  validateFunctionIdentity functionIdentity rows.functionNames.isSome rows.parameterRows
  let built ← buildNodes rows.typeRows limits
  let nodes := refineTableNodeKinds built rows.parameterRows rows.indirectRows
  validateNodeTargets nodes
  let parameters ← provisionalParameters nodes rows.indirectRows limits rows.parameterRows
  forEach (fun index name =>
    require (name ∈ nodes.map (·.name)) ⟨"FOREIGN_ROOT", s!"options.rootTypeNames[{index}]"⟩)
    0 rootTypeNames
  let roots := graphRoots nodes rootTypeNames parameters.rootTypes
  match provisionalGraph? nodes roots with
  | none => .error ⟨"FOREIGN_TYPE_NODE", "DATATYPESCONT"⟩
  | some graph => do
    let components ← graphComponents graph limits.maxDepth
    require ((reachableNodes graph).length = nodes.length) ⟨"FOREIGN_TYPE_NODE", "DATATYPESCONT"⟩
    .ok {
      version := 1
      functionIdentity
      nodes := finalNodes graph components nodes
      parameters := finalParameters graph components parameters.values
      rootTypeNames := roots
      cycles := finalCycles graph components }

end Normalize
end OpenRfc.MetadataGraph
