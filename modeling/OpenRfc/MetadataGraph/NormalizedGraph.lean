import OpenRfc.MetadataGraph.Shapes
import OpenRfc.MetadataGraph.Normalize
import OpenRfc.TypeGraph.MetadataCycles

/-!
What holds of every graph which the normalizer accepts. Where no type is below itself it marks no
reference as cyclic.
-/

namespace OpenRfc.MetadataGraph
open Fallible Indexed Relation Xrfc
open TypeGraph (ProvisionalGraph ProvisionalReference graphComponents components)

section Properties
variable (graph : RecursiveMetadataGraph)

/-- A type has a field which refers to another one. -/
def References (source target : JsString) : Prop :=
  ∃ node ∈ graph.nodes.lookup source, ∃ field ∈ node.fields, ∃ kind cyclic,
    field.reference = .container kind target cyclic

/-- No type is below itself. -/
def Acyclic : Prop := ∀ name, ¬TransGen (References graph) name name

/-- A reference of a parameter whose class is known. -/
def FitsGraph (parameterClass : RfcParameterClass) : RecursiveMetadataParameterReference → Prop
  | .exception => parameterClass = .exception
  | .type (.scalar _) => parameterClass ≠ .exception ∧ parameterClass ≠ .tables
  | .scalarLine _ => parameterClass = .tables
  | .type (.container kind targetType _) => parameterClass ≠ .exception ∧
      (parameterClass = .tables → kind = .table) ∧
      ∃ target, graph.nodes.lookup targetType = some target ∧
        (kind = .structured → target.kind = .container .structured)

structure Normalized : Prop where
  version : graph.version = 1
  names : ∀ entry ∈ graph.nodes, entry.1 = entry.2.name
  shapes : ∀ entry ∈ graph.nodes, Shaped entry.2
  references : ∀ entry ∈ graph.nodes, ∀ field ∈ entry.2.fields, ∀ kind targetType cyclic,
    field.reference = .container kind targetType cyclic →
      ∃ target, graph.nodes.lookup targetType = some target ∧ target.kind = .container kind
  roots : ∀ name ∈ graph.rootTypeNames, (graph.nodes.lookup name).isSome
  parameters : ∀ parameter ∈ graph.parameters,
    FitsGraph graph parameter.parameterClass parameter.reference
  functions : (functionNamesOf (graph.parameters.map (·.functionName))).length ≤ 1 ∧
    ∀ name ∈ graph.functionIdentity,
      ∀ other ∈ functionNamesOf (graph.parameters.map (·.functionName)), other = name
  unmarked : Acyclic graph → graph.cycles = [] ∧
    (∀ entry ∈ graph.nodes, ∀ field ∈ entry.2.fields, ∀ kind targetType cyclic,
      field.reference = .container kind targetType cyclic → cyclic = false) ∧
    ∀ parameter ∈ graph.parameters, ∀ kind targetType cyclic,
      parameter.reference = .type (.container kind targetType cyclic) → cyclic = false

theorem mem_of_lookup {α β : Type} [BEq α] [LawfulBEq α] {entries : List (α × β)} {key : α}
    {value : β} (h : entries.lookup key = some value) : (key, value) ∈ entries := by
  obtain ⟨front, rest, rfl, -⟩ := List.lookup_eq_some_iff.mp h
  exact List.mem_append_right front List.mem_cons_self

variable {graph} {name : JsString} {node : RecursiveMetadataTypeNode}

theorem Normalized.shaped (hgraph : Normalized graph) (hnode : graph.nodes.lookup name = some node) : Shaped node :=
  hgraph.shapes (name, node) (mem_of_lookup hnode)

theorem Normalized.target (hgraph : Normalized graph) (hnode : graph.nodes.lookup name = some node)
    {field : RecursiveMetadataField} (hfield : field ∈ node.fields) {kind : ClassicXrfcKind}
    {targetType : JsString} {cyclic : Bool}
    (hreference : field.reference = .container kind targetType cyclic) :
    ∃ target, graph.nodes.lookup targetType = some target ∧ target.kind = .container kind :=
  hgraph.references (name, node) (mem_of_lookup hnode) field hfield _ _ _ hreference

theorem Normalized.parameterTarget (hgraph : Normalized graph)
    {parameter : RecursiveMetadataParameter} (hparameter : parameter ∈ graph.parameters) {kind : ClassicXrfcKind} {targetType : JsString}
    {cyclic : Bool} (hreference : parameter.reference = .type (.container kind targetType cyclic)) :
    ∃ target, graph.nodes.lookup targetType = some target ∧
      (kind = .structured → target.kind = .container .structured) := by
  have hfits := hgraph.parameters parameter hparameter
  rw [hreference] at hfits
  exact hfits.2.2

end Properties

section Final
variable {graph : ProvisionalGraph} {found : TypeGraph.Components} {nodes : List ProvisionalNode}

theorem lookup_eq_some_of_mem {α β : Type} [BEq α] [LawfulBEq α] {entries : List (α × β)} {key : α}
    {value : β} (hdistinct : (entries.map Prod.fst).Nodup) (h : (key, value) ∈ entries) :
    entries.lookup key = some value := by
  induction entries with
  | nil => cases h
  | cons entry entries ih =>
    rw [List.map_cons, List.nodup_cons] at hdistinct
    rw [List.lookup_cons]
    rcases List.mem_cons.mp h with rfl | h
    · rw [beq_self_eq_true]
    · have hne : key ≠ entry.1 := fun heq =>
        hdistinct.1 (heq ▸ List.mem_map.mpr ⟨(key, value), h, rfl⟩)
      rw [beq_false_of_ne hne]
      exact ih hdistinct.2 h

theorem names_finalNodes : (finalNodes graph found nodes).map Prod.fst = nodes.map MetadataNode.name := by
  have hmap : (finalNodes graph found nodes).map Prod.fst =
      (nodes.zipIdx.map Prod.fst).map MetadataNode.name := by
    rw [finalNodes, List.map_map, List.map_map]
    rfl
  rw [hmap, List.zipIdx_map_fst]

def finalNode (graph : ProvisionalGraph) (found : TypeGraph.Components) (index : Nat)
    (node : ProvisionalNode) : RecursiveMetadataTypeNode :=
  { node with
    fields := node.fields.map fun field =>
      { field with reference := TypeGraph.finalReference graph found index field.reference } }

theorem mem_finalNodes {entry : JsString × RecursiveMetadataTypeNode} :
    entry ∈ finalNodes graph found nodes ↔ ∃ index node, nodes[index]? = some node ∧
      entry = (node.name, finalNode graph found index node) := by
  rw [finalNodes, List.mem_map]
  constructor
  · rintro ⟨⟨node, index⟩, hmem, rfl⟩
    exact ⟨index, node, (List.mem_zipIdx_iff_getElem?.mp hmem), rfl⟩
  · rintro ⟨index, node, hnode, rfl⟩
    exact ⟨(node, index), List.mem_zipIdx_iff_getElem?.mpr hnode, rfl⟩

theorem lookup_finalNodes (hdistinct : (nodes.map MetadataNode.name).Nodup) {index : Nat}
    {node : ProvisionalNode} (hnode : nodes[index]? = some node) :
    (finalNodes graph found nodes).lookup node.name = some (finalNode graph found index node) :=
  lookup_eq_some_of_mem (names_finalNodes.symm ▸ hdistinct)
    (mem_finalNodes.mpr ⟨index, node, hnode, rfl⟩)

theorem lookup_of_byName (hdistinct : (nodes.map MetadataNode.name).Nodup) {name : JsString}
    {node : ProvisionalNode} (h : byName nodes name = some node) :
    ∃ final, (finalNodes graph found nodes).lookup name = some final ∧ final.kind = node.kind := by
  obtain ⟨hmem, rfl⟩ := byName_mem h
  obtain ⟨index, hnode⟩ := List.mem_iff_getElem?.mp hmem
  exact ⟨_, lookup_finalNodes hdistinct hnode, rfl⟩

theorem lookup_isSome_of_name (hdistinct : (nodes.map MetadataNode.name).Nodup) {name : JsString}
    (h : name ∈ nodes.map MetadataNode.name) :
    ((finalNodes graph found nodes).lookup name).isSome := by
  obtain ⟨node, hmem, rfl⟩ := List.mem_map.mp h
  obtain ⟨index, hnode⟩ := List.mem_iff_getElem?.mp hmem
  rw [lookup_finalNodes hdistinct hnode]
  rfl

theorem shaped_finalNode {index : Nat} {node : ProvisionalNode} (h : Shaped node) :
    Shaped (finalNode graph found index node) where
  fields_ne := fun hnil => h.fields_ne (List.map_eq_nil_iff.mp hnil)
  line := by
    intro hkind
    obtain ⟨line, hline, hname⟩ := h.line hkind
    refine ⟨{ line with reference := TypeGraph.finalReference graph found index line.reference },
      ?_, hname⟩
    rw [finalNode, hline]
    rfl

/-- The references of the final fields are those of the fields they are made of. -/
theorem finalNode_reference {index : Nat} {node : ProvisionalNode} {field : RecursiveMetadataField}
    (hfield : field ∈ (finalNode graph found index node).fields) {kind : ClassicXrfcKind}
    {targetType : JsString} {cyclic : Bool}
    (hreference : field.reference = .container kind targetType cyclic) :
    ∃ original ∈ node.fields, original.reference = .container kind targetType ∧
      (cyclic = true → found.cyclicComponents ≠ []) := by
  obtain ⟨original, horiginal, rfl⟩ := List.mem_map.mp hfield
  refine ⟨original, horiginal, ?_⟩
  cases href : original.reference with
  | scalar internalType =>
    rw [href] at hreference
    cases hreference
  | container kind' targetType' =>
    rw [href] at hreference
    cases hreference
    refine ⟨rfl, fun hcyclic hnil => ?_⟩
    rw [hnil] at hcyclic
    simp at hcyclic

end Final

section Graph
variable {nodes : List ProvisionalNode} {roots : List JsString} {provisional : ProvisionalGraph}

theorem provisionalGraph?_eq_some (h : provisionalGraph? nodes roots = some provisional) :
    provisional.nodes = nodes.map componentNode ∧ provisional.roots = roots := by
  rw [provisionalGraph?] at h
  split at h
  · obtain rfl := Option.some.inj h
    exact ⟨rfl, rfl⟩
  · cases h

theorem graphRoots_known {rootTypeNames rootTypes : List JsString}
    (hgiven : ∀ name ∈ rootTypeNames, name ∈ nodes.map MetadataNode.name)
    (hfound : ∀ name ∈ rootTypes, name ∈ nodes.map MetadataNode.name) :
    ∀ name ∈ graphRoots nodes rootTypeNames rootTypes, name ∈ nodes.map MetadataNode.name := by
  rw [graphRoots]
  split
  · exact fun _ h => h
  · intro name hname
    rcases List.mem_append.mp hname with hname | hname
    · exact hgiven name hname
    · exact hfound name (List.mem_of_mem_filter hname)

/-- The name of a node by its index. -/
def nameAt (nodes : List ProvisionalNode) (index : Nat) : JsString :=
  (nodes[index]?).elim [] MetadataNode.name

theorem references_of_index (hdistinct : (nodes.map MetadataNode.name).Nodup)
    (hnodes : provisional.nodes = nodes.map componentNode) {found : TypeGraph.Components}
    {graph : RecursiveMetadataGraph} (hgraph : graph.nodes = finalNodes provisional found nodes)
    {source target : Nat} (h : provisional.References source target) :
    References graph (nameAt nodes source) (nameAt nodes target) := by
  obtain ⟨node, hnode, field, hfield, name, hname, htarget⟩ := h
  rw [hnodes, List.getElem?_map] at hnode htarget
  obtain ⟨original, horiginal, rfl⟩ := Option.map_eq_some_iff.mp hnode
  obtain ⟨originalField, hmem, rfl⟩ := List.mem_map.mp hfield
  rw [Option.map_map] at htarget
  obtain ⟨targetNode, htargetNode, rfl⟩ := Option.map_eq_some_iff.mp htarget
  have hfinal : (finalNodes provisional found nodes).lookup original.name =
      some (finalNode provisional found source original) :=
    lookup_finalNodes hdistinct horiginal
  rw [nameAt, nameAt, horiginal, htargetNode]
  refine ⟨_, by rw [hgraph]; exact hfinal, _, List.mem_map_of_mem hmem, ?_⟩
  cases href : originalField.reference with
  | scalar internalType =>
    rw [componentField, href] at hname
    cases hname
  | container kind targetType =>
    rw [componentField, href] at hname
    obtain rfl := Option.some.inj hname
    exact ⟨kind, _, rfl⟩

/-- Where no type is below itself there is no cyclic component. -/
theorem cyclicComponents_of_acyclic (hdistinct : (nodes.map MetadataNode.name).Nodup)
    (hnodes : provisional.nodes = nodes.map componentNode) {graph : RecursiveMetadataGraph}
    (hgraph : graph.nodes = finalNodes provisional (components provisional) nodes)
    (hacyclic : Acyclic graph) : (components provisional).cyclicComponents = [] := by
  apply List.eq_nil_iff_forall_not_mem.mpr
  intro component hcomponent
  obtain ⟨-, node, -, -, hcycle⟩ := TypeGraph.mem_cyclicComponents.mp hcomponent
  rw [ProvisionalGraph.edge_eq_references] at hcycle
  exact hacyclic _ (hcycle.lift (nameAt nodes) fun _ _ => references_of_index hdistinct hnodes hgraph)

end Graph

section Normalized

theorem fitsGraph_of_fitsClass {nodes : List ProvisionalNode} {graph : RecursiveMetadataGraph}
    {provisional : ProvisionalGraph} {found : TypeGraph.Components}
    (hdistinct : (nodes.map MetadataNode.name).Nodup)
    (hgraph : graph.nodes = finalNodes provisional found nodes)
    {parameterClass : RfcParameterClass} {reference : ProvisionalParameterReference}
    (h : FitsClass nodes parameterClass reference) :
    FitsGraph graph parameterClass (finalParameterReference provisional found reference) := by
  cases reference with
  | exception => exact h
  | scalar internalType => exact h
  | scalarTable internalType => exact h
  | container kind targetType =>
    obtain ⟨hexception, htables, target, htarget, hkind⟩ := h
    obtain ⟨final, hfinal, hsame⟩ :
        ∃ final, (finalNodes provisional found nodes).lookup targetType = some final ∧
          final.kind = target.kind := lookup_of_byName hdistinct htarget
    exact ⟨hexception, htables, final, by rw [hgraph]; exact hfinal, fun h => hsame.trans (hkind h)⟩

theorem functionNames_of_rows {nodes : List ProvisionalNode} {rows : List ParameterRow}
    {values : List ProvisionalParameter} (h : List.Forall₂ (OfRow nodes) rows values) :
    values.map MetadataParameter.functionName = rows.map ParameterRow.functionName := by
  induction h with
  | nil => rfl
  | cons hrow _ ih => rw [List.map_cons, List.map_cons, hrow.1, ih]

theorem fitsClass_of_rows {nodes : List ProvisionalNode} {rows : List ParameterRow}
    {values : List ProvisionalParameter} (h : List.Forall₂ (OfRow nodes) rows values) :
    ∀ parameter ∈ values, FitsClass nodes parameter.parameterClass parameter.reference := by
  induction h with
  | nil => exact nofun
  | cons hrow _ ih => exact List.forall_mem_cons.mpr ⟨hrow.2, ih⟩

theorem functions_of_validate {identity : Option JsString} {provided : Bool}
    {rows : List ParameterRow} (h : validateFunctionIdentity identity provided rows = .ok ()) :
    (functionNamesOf (rows.map ParameterRow.functionName)).length ≤ 1 ∧
      ∀ name ∈ identity, ∀ other ∈ functionNamesOf (rows.map ParameterRow.functionName),
        other = name := by
  simp only [validateFunctionIdentity, bind_eq_ok, require_eq_ok] at h
  obtain ⟨-, hlength, -, -, hidentity⟩ := h
  exact ⟨hlength, hidentity⟩

/-- The graph which is made of what passed the checks. -/
theorem normalized_of_parts {nodes : List ProvisionalNode} {roots : List JsString}
    {provisional : ProvisionalGraph} {found : TypeGraph.Components} {rows : List ParameterRow}
    {values : List ProvisionalParameter} {identity : Option JsString}
    (hdistinct : (nodes.map MetadataNode.name).Nodup) (hshaped : ∀ node ∈ nodes, Shaped node)
    (htargets : validateNodeTargets nodes = .ok ()) (hrows : List.Forall₂ (OfRow nodes) rows values)
    (hroots : ∀ name ∈ roots, name ∈ nodes.map MetadataNode.name)
    (hfunctions : (functionNamesOf (rows.map ParameterRow.functionName)).length ≤ 1 ∧
      ∀ name ∈ identity, ∀ other ∈ functionNamesOf (rows.map ParameterRow.functionName),
        other = name)
    (hnodes : provisional.nodes = nodes.map componentNode) (hfound : found = components provisional) :
    Normalized ⟨1, identity, finalNodes provisional found nodes,
      finalParameters provisional found values, roots, TypeGraph.finalCycles provisional found⟩ where
  version := rfl
  names := by
    intro entry hentry
    obtain ⟨index, node, -, rfl⟩ := mem_finalNodes.mp hentry
    rfl
  shapes := by
    intro entry hentry
    obtain ⟨index, node, hnode, rfl⟩ := mem_finalNodes.mp hentry
    exact shaped_finalNode (hshaped node (List.mem_of_getElem? hnode))
  references := by
    intro entry hentry field hfield kind targetType cyclic hreference
    obtain ⟨index, node, hnode, rfl⟩ := mem_finalNodes.mp hentry
    obtain ⟨original, horiginal, href, -⟩ := finalNode_reference hfield hreference
    obtain ⟨target, htarget, hkind⟩ :=
      targets_of_validateNodeTargets htargets (List.mem_of_getElem? hnode) horiginal href
    obtain ⟨final, hfinal, hsame⟩ := lookup_of_byName hdistinct htarget
    exact ⟨final, hfinal, hsame.trans hkind⟩
  roots := fun name hname => lookup_isSome_of_name hdistinct (hroots name hname)
  parameters := by
    intro parameter hparameter
    obtain ⟨value, hvalue, rfl⟩ := List.mem_map.mp hparameter
    exact fitsGraph_of_fitsClass hdistinct rfl (fitsClass_of_rows hrows value hvalue)
  functions := by
    have hnames : (finalParameters provisional found values).map MetadataParameter.functionName =
        rows.map ParameterRow.functionName := by
      rw [← functionNames_of_rows hrows, finalParameters, List.map_map]
      rfl
    rw [hnames]
    exact hfunctions
  unmarked := by
    intro hacyclic
    have hnone : found.cyclicComponents = [] := by
      subst hfound
      exact cyclicComponents_of_acyclic hdistinct hnodes rfl hacyclic
    refine ⟨?_, ?_, ?_⟩
    · rw [TypeGraph.finalCycles, hnone]
      simp
    · intro entry hentry field hfield kind targetType cyclic hreference
      obtain ⟨index, node, -, rfl⟩ := mem_finalNodes.mp hentry
      obtain ⟨-, -, -, hcyclic⟩ := finalNode_reference hfield hreference
      exact Bool.eq_false_iff.mpr fun htrue => hcyclic htrue hnone
    · intro parameter hparameter kind targetType cyclic hreference
      obtain ⟨value, -, rfl⟩ := List.mem_map.mp hparameter
      cases href : value.reference with
      | exception | scalar _ | scalarTable _ =>
        rw [href] at hreference
        cases hreference
      | container kind' targetType' =>
        rw [href, finalParameterReference, hnone] at hreference
        cases hreference
        rfl

theorem normalized_of_normalizeRecursiveMetadataGraph {rows : MetadataRows}
    {rootTypeNames : List JsString} {limits : RecursiveMetadataLimits}
    {graph : RecursiveMetadataGraph}
    (h : normalizeRecursiveMetadataGraph rows rootTypeNames limits = .ok graph) :
    Normalized graph := by
  simp only [normalizeRecursiveMetadataGraph, bind_eq_ok] at h
  obtain ⟨identity, -, _, hfunctions, built, hbuilt, _, htargets, parameters, hparameters, _, hroots,
    h⟩ := h
  obtain ⟨hbuiltDistinct, hbuiltShaped⟩ := shaped_of_buildNodes hbuilt
  have hdistinct : ((refineTableNodeKinds built rows.parameterRows rows.indirectRows).map
      MetadataNode.name).Nodup := names_refineTableNodeKinds.symm ▸ hbuiltDistinct
  have hshaped : ∀ node ∈ refineTableNodeKinds built rows.parameterRows rows.indirectRows,
      Shaped node := shaped_refineTableNodeKinds hbuiltShaped
  obtain ⟨hrows, hfound⟩ := provisionalParameters_spec hparameters
  generalize refineTableNodeKinds built rows.parameterRows rows.indirectRows = nodes at *
  cases hprovisional : provisionalGraph? nodes (graphRoots nodes rootTypeNames parameters.rootTypes) with
  | none =>
    rw [hprovisional] at h
    cases h
  | some provisional =>
    rw [hprovisional] at h
    simp only [bind_eq_ok] at h
    obtain ⟨found, hcomponents, _, -, h⟩ := h
    obtain rfl := Except.ok.inj h
    refine normalized_of_parts hdistinct hshaped htargets hrows
      (graphRoots_known (fun name hname => ?_) hfound) (functions_of_validate hfunctions)
      (provisionalGraph?_eq_some hprovisional).1 ?_
    · obtain ⟨index, hknown⟩ := exists_of_forEach hroots hname
      exact require_eq_ok.mp hknown
    · rw [graphComponents] at hcomponents
      split at hcomponents
      · cases hcomponents
      · exact (Except.ok.inj hcomponents).symm

end Normalized
end OpenRfc.MetadataGraph
