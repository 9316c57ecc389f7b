import OpenRfc.Foundation.Loop
import OpenRfc.Xrfc.RecursiveMetadata

/-!
The components of a graph of types: a depth-first search which notes the order in which it leaves
the nodes, a search backwards in the opposite order which collects the components, and the length
of the longest path of components from those of the roots. Loops are given the number of steps
which they need at most; stacks have their top in front.
-/

namespace OpenRfc.TypeGraph
open Xrfc

inductive ProvisionalReference
  | scalar (internalType : Classic.RfcExid)
  | container (kind : ClassicXrfcKind) (targetType : JsString)
deriving DecidableEq, Repr

def ProvisionalReference.targetType? : ProvisionalReference → Option JsString
  | scalar _ => none
  | container _ targetType => some targetType

structure ProvisionalField where
  name : JsString
  position : Nat
  internalType : Classic.RfcExid
  decimals : Nat
  ucLength : Nat
  reference : ProvisionalReference
deriving DecidableEq, Repr

structure ProvisionalNode where
  name : JsString
  kind : RecursiveMetadataKind
  fields : List ProvisionalField
deriving DecidableEq, Repr

/-- Names are distinct, and the targets of the references and the roots are names of nodes. -/
structure ProvisionalGraph where
  nodes : List ProvisionalNode
  roots : List JsString
  distinct : (nodes.map (·.name)).Nodup
  targets : ∀ node ∈ nodes, ∀ field ∈ node.fields,
    ∀ name ∈ field.reference.targetType?, name ∈ nodes.map (·.name)
  rootNodes : ∀ name ∈ roots, name ∈ nodes.map (·.name)

structure RecursiveMetadataError where
  code : String
  path : String
deriving DecidableEq, Repr

/-- The nodes to which each node refers, by their indices. -/
structure Adjacency where
  neighbors : List (List Nat)
  bounded : ∀ targets ∈ neighbors, ∀ target ∈ targets, target < neighbors.length

namespace Adjacency
variable (adjacency : Adjacency)

def size : Nat := adjacency.neighbors.length

def targets (node : Nat) : List Nat := adjacency.neighbors.getD node []

/-- The reverse edges to a node, in the order of their sources. -/
def sources (node : Nat) : List Nat :=
  (List.range adjacency.size).flatMap fun source =>
    (adjacency.targets source).filterMap fun target => if target = node then some source else none

/-- The steps of a search: to each node, over each of its edges, and away from it. -/
def work : Nat :=
  ((List.range adjacency.size).map fun node => (adjacency.targets node).length + 1).sum

end Adjacency

section Finish
variable (adjacency : Adjacency)

structure Frame where
  node : Nat
  next : Nat
deriving DecidableEq, Repr

/-- The nodes which were left, the last one first. -/
structure Visit where
  stack : List Frame
  visited : List Nat
  finish : List Nat
deriving DecidableEq, Repr

def Visit.step (s : Visit) : Option Visit :=
  match s.stack with
  | [] => none
  | frame :: stack =>
    match (adjacency.targets frame.node)[frame.next]? with
    | some target =>
      let stack := { frame with next := frame.next + 1 } :: stack
      if target ∈ s.visited then some { s with stack }
      else some { s with stack := ⟨target, 0⟩ :: stack, visited := target :: s.visited }
    | none => some { s with stack, finish := frame.node :: s.finish }

def Visit.start (s : Visit) (start : Nat) : Visit :=
  if start ∈ s.visited then s
  else
    Loop.run (Visit.step adjacency) adjacency.work
      { s with stack := [⟨start, 0⟩], visited := start :: s.visited }

def finishOrder : List Nat :=
  ((List.range adjacency.size).foldl (Visit.start adjacency) ⟨[], [], []⟩).finish

end Finish

section Collect
variable (adjacency : Adjacency)

/-- A component while it is collected. -/
structure Collection where
  stack : List Nat
  members : List Nat
  componentByNode : Nat → Option Nat

def Collection.assign (component : Nat) (s : Collection) (source : Nat) : Collection :=
  if s.componentByNode source = none then
    { s with
      stack := source :: s.stack
      componentByNode := Function.update s.componentByNode source (some component) }
  else s

def Collection.step (component : Nat) (s : Collection) : Option Collection :=
  match s.stack with
  | [] => none
  | node :: stack =>
    some ((adjacency.sources node).foldl (Collection.assign component)
      { s with stack, members := s.members ++ [node] })

structure Partition where
  componentByNode : Nat → Option Nat
  nodesByComponent : List (List Nat)

def Partition.collect (s : Partition) (start : Nat) : Partition :=
  if s.componentByNode start = none then
    let component := s.nodesByComponent.length
    let collection := Loop.run (Collection.step adjacency component) adjacency.size
      ⟨[start], [], Function.update s.componentByNode start (some component)⟩
    ⟨collection.componentByNode,
      s.nodesByComponent ++ [collection.members.insertionSort (· ≤ ·)]⟩
  else s

def partition : Partition :=
  (finishOrder adjacency).foldl (Partition.collect adjacency) ⟨fun _ => none, []⟩

/-- The component of a node. The search leaves no node without one. -/
def componentByNode (node : Nat) : Nat :=
  ((partition adjacency).componentByNode node).getD 0

def nodesByComponent : List (List Nat) := (partition adjacency).nodesByComponent

def isCyclic (members : List Nat) : Bool :=
  match members with
  | [] => false
  | [node] => node ∈ adjacency.targets node
  | _ :: _ :: _ => true

def cyclicComponents : List Nat :=
  (List.range (nodesByComponent adjacency).length).filter fun component =>
    isCyclic adjacency ((nodesByComponent adjacency).getD component [])

/-- The components to which the nodes of another one refer, each once. -/
def componentAdjacency (component : Nat) : List Nat :=
  (((List.range adjacency.size).filter (componentByNode adjacency · = component)).flatMap
    fun source =>
      ((adjacency.targets source).map (componentByNode adjacency)).filter
        (component ≠ ·)).eraseDups

end Collect

section Levels
variable (edges : Nat → List Nat)

/-- The components which are reachable from the roots, in the order in which they were found. -/
structure Reach where
  stack : List Nat
  reachable : List Nat
deriving DecidableEq, Repr

def Reach.step (s : Reach) : Option Reach :=
  match s.stack with
  | [] => none
  | component :: stack =>
    if component ∈ s.reachable then some { s with stack }
    else
      some ⟨(edges component).reverse ++ stack, s.reachable ++ [component]⟩

/-- The steps from some roots on, for a number of components. -/
def Reach.work (size : Nat) (roots : List Nat) : Nat :=
  roots.length + ((List.range size).map fun component => (edges component).length).sum

def reachableFrom (size : Nat) (roots : List Nat) : List Nat :=
  (Loop.run (Reach.step edges) (Reach.work edges size roots) ⟨roots.reverse, []⟩).reachable

/-- Components whose predecessors have all been passed wait in a queue. -/
structure Levels where
  queue : List Nat
  indegree : Nat → Int
  depth : Nat → Nat
  maximumDepth : Nat

def Levels.relax (reachable : List Nat) (source : Nat) (s : Levels) (target : Nat) : Levels :=
  if target ∈ reachable then
    let indegree := s.indegree target - 1
    { s with
      queue := if indegree = 0 then s.queue ++ [target] else s.queue
      indegree := Function.update s.indegree target indegree
      depth := Function.update s.depth target (max (s.depth target) (s.depth source + 1)) }
  else s

def Levels.step (reachable : List Nat) (s : Levels) : Option Levels :=
  match s.queue with
  | [] => none
  | source :: queue =>
    let depth := if s.depth source = 0 then Function.update s.depth source 1 else s.depth
    some ((edges source).foldl (Levels.relax reachable source)
      { s with queue, depth, maximumDepth := max s.maximumDepth (depth source) })

def initialIndegree (reachable : List Nat) (target : Nat) : Int :=
  (reachable.flatMap fun source => (edges source).filter (· ∈ reachable)).count target

def rootDepth (roots : List Nat) : Nat → Nat :=
  roots.foldl (fun depth root => Function.update depth root (max (depth root) 1)) fun _ => 0

def Levels.start (reachable roots : List Nat) : Levels where
  queue := reachable.filter (initialIndegree edges reachable · = 0)
  indegree := initialIndegree edges reachable
  depth := rootDepth roots
  maximumDepth := 0

def maximumDepth (size : Nat) (roots : List Nat) : Nat :=
  let reachable := reachableFrom edges size roots
  (Loop.run (Levels.step edges reachable) size (Levels.start edges reachable roots)).maximumDepth

end Levels

namespace ProvisionalGraph
variable (graph : ProvisionalGraph)

def indexByName (name : JsString) : Nat := (graph.nodes.map (·.name)).idxOf name

theorem indexByName_lt {graph : ProvisionalGraph} {name : JsString}
    (h : name ∈ graph.nodes.map (·.name)) : graph.indexByName name < graph.nodes.length := by
  have hlt := List.idxOf_lt_length_of_mem h
  rwa [List.length_map] at hlt

def targetIndices (node : ProvisionalNode) : List Nat :=
  node.fields.filterMap fun field => field.reference.targetType?.map graph.indexByName

def adjacency : Adjacency where
  neighbors := graph.nodes.map graph.targetIndices
  bounded := by
    intro targets htargets target htarget
    obtain ⟨node, hnode, rfl⟩ := List.mem_map.mp htargets
    obtain ⟨field, hfield, hname⟩ := List.mem_filterMap.mp htarget
    obtain ⟨name, htarget?, rfl⟩ := Option.map_eq_some_iff.mp hname
    rw [List.length_map]
    exact indexByName_lt (graph.targets node hnode field hfield name htarget?)

def rootComponents : List Nat :=
  if graph.roots = [] then List.range (nodesByComponent graph.adjacency).length
  else graph.roots.map fun name => componentByNode graph.adjacency (graph.indexByName name)

end ProvisionalGraph

structure Components where
  componentByNode : Nat → Nat
  nodesByComponent : List (List Nat)
  cyclicComponents : List Nat
  maximumDepth : Nat

/-- What the searches find, before the depth is compared with its limit. -/
def components (graph : ProvisionalGraph) : Components where
  componentByNode := componentByNode graph.adjacency
  nodesByComponent := nodesByComponent graph.adjacency
  cyclicComponents := cyclicComponents graph.adjacency
  maximumDepth := maximumDepth (componentAdjacency graph.adjacency)
    (nodesByComponent graph.adjacency).length graph.rootComponents

def graphComponents (graph : ProvisionalGraph) (maxDepth : Nat) :
    Except RecursiveMetadataError Components :=
  if maxDepth < (components graph).maximumDepth then .error ⟨"DEPTH_LIMIT", "metadata-graph"⟩
  else .ok (components graph)

def finalReference (graph : ProvisionalGraph) (components : Components) (nodeIndex : Nat) :
    ProvisionalReference → RecursiveMetadataReference
  | .scalar internalType => .scalar internalType
  | .container kind targetType =>
    let component := components.componentByNode nodeIndex
    .container kind targetType
      (component == components.componentByNode (graph.indexByName targetType) &&
        components.cyclicComponents.contains component)

def finalField (graph : ProvisionalGraph) (components : Components) (nodeIndex : Nat)
    (field : ProvisionalField) : RecursiveMetadataField where
  name := field.name
  position := field.position
  internalType := field.internalType
  decimals := field.decimals
  ucLength := field.ucLength
  reference := finalReference graph components nodeIndex field.reference

def finalNodes (graph : ProvisionalGraph) (components : Components) :
    List (JsString × RecursiveMetadataTypeNode) :=
  graph.nodes.zipIdx.map fun (node, nodeIndex) =>
    (node.name, ⟨node.name, node.kind, node.fields.map (finalField graph components nodeIndex)⟩)

structure RecursiveMetadataCycle where
  id : String
  typeNames : List JsString
deriving DecidableEq, Repr

def finalCycles (graph : ProvisionalGraph) (components : Components) :
    List RecursiveMetadataCycle :=
  ((List.range components.nodesByComponent.length).filter
      (components.cyclicComponents.contains ·)).zipIdx.map fun (component, index) =>
    ⟨"cycle:" ++ toString index,
      (components.nodesByComponent.getD component []).filterMap fun node =>
        graph.nodes[node]?.map (·.name)⟩

end OpenRfc.TypeGraph
