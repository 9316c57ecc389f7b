import OpenRfc.TypeGraph.LongestPath
import OpenRfc.TypeGraph.StrongComponents

/-!
What the searches find of a graph of types, in terms of the references between its nodes.
-/

namespace OpenRfc.TypeGraph
open Condensation Relation Xrfc

section ComponentAdjacency
variable {adjacency : Adjacency} {source target : Nat}

theorem nodup_eraseDups (list : List Nat) : list.eraseDups.Nodup := by
  induction hlength : list.length using Nat.strong_induction_on generalizing list with
  | _ length ih =>
      cases list with
      | nil => exact List.nodup_nil
      | cons first rest =>
          rw [List.length_cons] at hlength
          rw [List.eraseDups_cons, List.nodup_cons]
          refine ⟨fun hmem => ?_, ih _ ?_ _ rfl⟩
          · simpa using (List.mem_filter.mp (List.mem_eraseDups.mp hmem)).2
          · have hle := List.length_filter_le (fun other => !other == first) rest
            omega

theorem mem_componentAdjacency : target ∈ componentAdjacency adjacency source ↔
    Condensed adjacency.Edge (componentByNode adjacency) source target := by
  simp only [componentAdjacency, List.mem_eraseDups, List.mem_flatMap, List.mem_filter,
    List.mem_range, List.mem_map, decide_eq_true_eq, Condensation.Condensed, Relation.Map]
  constructor
  · rintro ⟨node, ⟨-, rfl⟩, ⟨node', hedge, rfl⟩, hne⟩
    exact ⟨hne, node, node', hedge, rfl, rfl⟩
  · rintro ⟨hne, node, node', hedge, rfl, rfl⟩
    exact ⟨node, ⟨Adjacency.Edge.source_lt hedge, rfl⟩, ⟨node', hedge, rfl⟩, hne⟩

theorem layered {roots : List Nat}
    (hroots : ∀ root ∈ roots, root < (nodesByComponent adjacency).length) :
    Layered (componentAdjacency adjacency) (nodesByComponent adjacency).length roots where
  distinct := fun _ => nodup_eraseDups _
  source_lt := by
    intro source target hedge
    obtain ⟨-, node, node', hstep, rfl, -⟩ := mem_componentAdjacency.mp hedge
    exact componentByNode_lt hstep.source_lt
  target_lt := by
    intro source target hedge
    obtain ⟨-, node, node', hstep, -, rfl⟩ := mem_componentAdjacency.mp hedge
    exact componentByNode_lt hstep.target_lt
  acyclic := componentByNode_labels.acyclic.mono fun _ _ => mem_componentAdjacency.mp
  root_lt := hroots

end ComponentAdjacency

namespace ProvisionalGraph
variable {graph : ProvisionalGraph} {source target : Nat} {node : ProvisionalNode}

/-- A node has a field whose reference names another one. -/
def References (graph : ProvisionalGraph) (source target : Nat) : Prop :=
  ∃ node ∈ graph.nodes[source]?, ∃ field ∈ node.fields, ∃ name ∈ field.reference.targetType?,
    (graph.nodes[target]?).map (·.name) = some name

theorem indexByName_eq (hnode : graph.nodes[target]? = some node) :
    graph.indexByName node.name = target := by
  obtain ⟨hlt, rfl⟩ := List.getElem?_eq_some_iff.mp hnode
  have hlt : target < (graph.nodes.map (·.name)).length := by rwa [List.length_map]
  have hindex := graph.distinct.idxOf_getElem target hlt
  rwa [List.getElem_map] at hindex

theorem indexByName_spec {name : JsString} (hname : name ∈ graph.nodes.map (·.name)) :
    (graph.nodes[graph.indexByName name]?).map (·.name) = some name := by
  rw [← List.getElem?_map, indexByName]
  exact List.getElem?_idxOf hname

theorem indexByName_iff {name : JsString} (hname : name ∈ graph.nodes.map (·.name)) :
    graph.indexByName name = target ↔ (graph.nodes[target]?).map (·.name) = some name := by
  constructor
  · rintro rfl
    exact indexByName_spec hname
  · intro htarget
    obtain ⟨node, hnode, rfl⟩ := Option.map_eq_some_iff.mp htarget
    exact indexByName_eq hnode

theorem adjacency_size : graph.adjacency.size = graph.nodes.length :=
  List.length_map _

/-- The edges of the searches are the references. -/
theorem edge_eq_references : graph.adjacency.Edge = graph.References := by
  funext source target
  apply propext
  have htargets : graph.adjacency.targets source =
      (graph.nodes[source]?.map graph.targetIndices).getD [] := by
    rw [Adjacency.targets, List.getD_eq_getElem?_getD, adjacency, List.getElem?_map]
  rw [Adjacency.Edge, htargets, References]
  cases hnode : graph.nodes[source]? with
  | none => simp
  | some node =>
      have hknown := graph.targets node (List.mem_of_getElem? hnode)
      simp only [Option.map_some, Option.getD_some, targetIndices, List.mem_filterMap,
        Option.map_eq_some_iff, Option.mem_def, Option.some.injEq, exists_eq_left']
      constructor
      · rintro ⟨field, hfield, name, hname, hindex⟩
        exact ⟨field, hfield, name, hname,
          Option.map_eq_some_iff.mp ((indexByName_iff (hknown field hfield name hname)).mp hindex)⟩
      · rintro ⟨field, hfield, name, hname, htarget⟩
        exact ⟨field, hfield, name, hname, (indexByName_iff (hknown field hfield name hname)).mpr
          (Option.map_eq_some_iff.mpr htarget)⟩

/-- A component with a root, or any one if no roots are given. -/
def IsRootComponent (graph : ProvisionalGraph) (found : Components) (component : Nat) : Prop :=
  (graph.roots = [] ∧ component < found.nodesByComponent.length) ∨
    ∃ index, ∃ node ∈ graph.nodes[index]?, node.name ∈ graph.roots ∧
      found.componentByNode index = component

theorem mem_rootComponents {component : Nat} : component ∈ graph.rootComponents ↔
    graph.IsRootComponent (components graph) component := by
  rw [rootComponents, IsRootComponent]
  split
  · rename_i hnone
    simp [hnone, components]
  · rename_i hsome
    simp only [hsome, false_and, false_or, List.mem_map, components]
    constructor
    · rintro ⟨name, hname, rfl⟩
      obtain ⟨node, hnode, heq⟩ :=
        Option.map_eq_some_iff.mp (indexByName_spec (graph.rootNodes name hname))
      exact ⟨_, node, hnode, heq ▸ hname, rfl⟩
    · rintro ⟨index, node, hnode, hname, rfl⟩
      exact ⟨node.name, hname, by rw [indexByName_eq hnode]⟩

theorem rootComponents_lt : ∀ component ∈ graph.rootComponents,
    component < (nodesByComponent graph.adjacency).length := by
  intro component hcomponent
  rcases mem_rootComponents.mp hcomponent with ⟨-, hlt⟩ | ⟨index, node, hnode, -, rfl⟩
  · exact hlt
  · refine componentByNode_lt ?_
    rw [adjacency_size]
    exact (List.getElem?_eq_some_iff.mp hnode).1

end ProvisionalGraph

/-- What is found is exact: the components are the strongly connected ones, each listed once with
its nodes in their order; a reference is marked as cyclic iff it is on a cycle; the components with
a cycle are listed, in their order; and the depth is the number of components on a longest path
from a root. -/
structure Exact (graph : ProvisionalGraph) (found : Components) : Prop where
  strong : ∀ a < graph.nodes.length, ∀ b < graph.nodes.length,
    (found.componentByNode a = found.componentByNode b ↔ Mutual graph.References a b)
  partition : found.nodesByComponent.flatten.Perm (List.range graph.nodes.length)
  members : ∀ component members, found.nodesByComponent[component]? = some members →
    members ≠ [] ∧ members.Pairwise (· < ·) ∧
      ∀ node ∈ members, found.componentByNode node = component
  marks : ∀ source target node (index : Nat) (field : ProvisionalField) kind name,
    graph.nodes[source]? = some node → node.fields[index]? = some field →
    field.reference = .container kind name → (graph.nodes[target]?).map (·.name) = some name →
    ∃ final cyclic, (finalNodes graph found)[source]? = some (node.name, final) ∧
      (final.fields[index]?).map RecursiveMetadataField.reference =
        some (.container kind name cyclic) ∧
      (cyclic = true ↔ ReflTransGen graph.References target source)
  cycles : ∃ cyclic : List (List Nat), cyclic.Sublist found.nodesByComponent ∧
    (∀ members ∈ found.nodesByComponent,
      members ∈ cyclic ↔ ∃ node ∈ members, TransGen graph.References node node) ∧
    finalCycles graph found = cyclic.zipIdx.map fun (members, index) =>
      ⟨"cycle:" ++ toString index, members.filterMap fun node => graph.nodes[node]?.map (·.name)⟩
  depth : IsGreatest {length | ∃ path : List Nat,
    (∀ first ∈ path.head?, graph.IsRootComponent found first) ∧
    path.IsChain (Condensed graph.References found.componentByNode) ∧ path.length = length}
    found.maximumDepth

section Exact
variable (graph : ProvisionalGraph)

theorem nodesByComponent_perm (adjacency : Adjacency) :
    (nodesByComponent adjacency).flatten.Perm (List.range adjacency.size) := by
  have hspec : ∀ component (hlt : component < (nodesByComponent adjacency).length), _ :=
    fun component hlt => nodesByComponent_spec (List.getElem?_eq_getElem hlt)
  refine (List.perm_ext_iff_of_nodup ?_ List.nodup_range).mpr fun node => ?_
  · refine List.nodup_flatten.mpr ⟨fun members hmembers => ?_, ?_⟩
    · obtain ⟨component, hlt, rfl⟩ := List.mem_iff_getElem.mp hmembers
      exact (hspec component hlt).2.1.imp fun hless => hless.ne
    · refine List.pairwise_iff_getElem.mpr fun i j hi hj hless node hnode hnode' => ?_
      have hsame := (((hspec i hi).2.2 node).mp hnode).2
      rw [(((hspec j hj).2.2 node).mp hnode').2] at hsame
      exact hless.ne hsame.symm
  · rw [List.mem_flatten, List.mem_range]
    constructor
    · rintro ⟨members, hmembers, hnode⟩
      obtain ⟨component, hlt, rfl⟩ := List.mem_iff_getElem.mp hmembers
      exact (((hspec component hlt).2.2 node).mp hnode).1
    · intro hnode
      have hlt := componentByNode_lt hnode
      exact ⟨_, List.getElem_mem hlt, ((hspec _ hlt).2.2 node).mpr ⟨hnode, rfl⟩⟩

theorem finalNodes_marks {graph : ProvisionalGraph} {source target index : Nat}
    {node : ProvisionalNode} {field : ProvisionalField} {kind : ClassicXrfcKind} {name : JsString}
    (hnode : graph.nodes[source]? = some node) (hfield : node.fields[index]? = some field)
    (hreference : field.reference = .container kind name)
    (htarget : (graph.nodes[target]?).map (·.name) = some name) :
    ∃ final cyclic, (finalNodes graph (components graph))[source]? = some (node.name, final) ∧
      (final.fields[index]?).map RecursiveMetadataField.reference =
        some (.container kind name cyclic) ∧
      (cyclic = true ↔ ReflTransGen graph.References target source) := by
  obtain ⟨targetNode, htargetNode, rfl⟩ := Option.map_eq_some_iff.mp htarget
  have hedge : graph.adjacency.Edge source target := by
    rw [ProvisionalGraph.edge_eq_references]
    exact ⟨node, hnode, field, List.mem_of_getElem? hfield, targetNode.name,
      by rw [hreference]; rfl, htarget⟩
  refine ⟨⟨node.name, node.kind, node.fields.map (finalField graph (components graph) source)⟩,
    (components graph).componentByNode source ==
        (components graph).componentByNode (graph.indexByName targetNode.name) &&
      (components graph).cyclicComponents.contains ((components graph).componentByNode source),
    ?_, ?_, ?_⟩
  · rw [finalNodes, List.getElem?_map, List.getElem?_zipIdx, hnode]
    simp
  · simp only [List.getElem?_map, hfield, Option.map_some, finalField, hreference, finalReference]
  · rw [← ProvisionalGraph.edge_eq_references, edge_on_cycle_iff hedge,
      ProvisionalGraph.indexByName_eq htargetNode]
    simp [components]

theorem finalCycles_eq : finalCycles graph (components graph) =
    ((cyclicComponents graph.adjacency).map
        ((nodesByComponent graph.adjacency).getD · [])).zipIdx.map fun (members, index) =>
      ⟨"cycle:" ++ toString index,
        members.filterMap fun node => graph.nodes[node]?.map (·.name)⟩ := by
  have hfilter : (List.range (nodesByComponent graph.adjacency).length).filter
      ((cyclicComponents graph.adjacency).contains ·) = cyclicComponents graph.adjacency := by
    rw [cyclicComponents]
    apply List.filter_congr
    intro component hcomponent
    apply Bool.eq_iff_iff.mpr
    rw [List.contains_iff_mem, List.mem_filter, and_iff_right hcomponent]
  rw [finalCycles]
  simp only [components, hfilter, List.zipIdx_map, List.map_map]
  rfl

theorem components_exact : Exact graph (components graph) where
  strong := by
    intro a ha b hb
    rw [← ProvisionalGraph.edge_eq_references]
    rw [← ProvisionalGraph.adjacency_size] at ha hb
    exact componentByNode_labels.exact ha hb
  partition := by
    rw [← ProvisionalGraph.adjacency_size]
    exact nodesByComponent_perm graph.adjacency
  members := by
    intro component members hmembers
    obtain ⟨hne, hsorted, hmem⟩ := nodesByComponent_spec hmembers
    exact ⟨hne, hsorted, fun node hnode => ((hmem node).mp hnode).2⟩
  marks := fun _ _ _ _ _ _ _ => finalNodes_marks
  cycles := by
    have hall : (List.range (nodesByComponent graph.adjacency).length).map
        ((nodesByComponent graph.adjacency).getD · []) = nodesByComponent graph.adjacency :=
      List.ext_getElem (by simp) fun i hi hi' => by simp [hi']
    refine ⟨_, ?_, fun members hmembers => ?_, finalCycles_eq graph⟩
    · have hsublist : (cyclicComponents graph.adjacency).Sublist (List.range _) :=
        List.filter_sublist
      have hmap := hsublist.map ((nodesByComponent graph.adjacency).getD · [])
      rwa [hall] at hmap
    · obtain ⟨component, hlt, rfl⟩ := List.mem_iff_getElem.mp hmembers
      have hspec := nodesByComponent_spec (List.getElem?_eq_getElem hlt)
      rw [List.mem_map, ← ProvisionalGraph.edge_eq_references]
      constructor
      · rintro ⟨other, hcyclic, heq⟩
        obtain ⟨hlt', node, hnode, hcomponent, hcycle⟩ := mem_cyclicComponents.mp hcyclic
        rw [List.getD_eq_getElem _ _ hlt'] at heq
        rw [← heq]
        exact ⟨node, ((nodesByComponent_spec (List.getElem?_eq_getElem hlt')).2.2 node).mpr
          ⟨hnode, hcomponent⟩, hcycle⟩
      · rintro ⟨node, hnode, hcycle⟩
        obtain ⟨hnode, hcomponent⟩ := (hspec.2.2 node).mp hnode
        exact ⟨component, mem_cyclicComponents.mpr ⟨hlt, node, hnode, hcomponent, hcycle⟩,
          List.getD_eq_getElem _ _ hlt⟩
  depth := by
    have hgreatest := maximumDepth_isGreatest (layered graph.rootComponents_lt)
    simp only [mem_componentAdjacency, ProvisionalGraph.edge_eq_references,
      ProvisionalGraph.mem_rootComponents] at hgreatest
    exact hgreatest

/-- The search rejects a graph iff its depth exceeds the limit. -/
theorem graphComponents_exact (maxDepth : Nat) :
    ∃ found, Exact graph found ∧
      graphComponents graph maxDepth =
        if maxDepth < found.maximumDepth then .error ⟨"DEPTH_LIMIT", "metadata-graph"⟩
        else .ok found :=
  ⟨components graph, components_exact graph, rfl⟩

end Exact
end OpenRfc.TypeGraph
