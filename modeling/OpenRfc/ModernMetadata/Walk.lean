import OpenRfc.Foundation.BudgetedWalk
import OpenRfc.MetadataGraph.NormalizedGraph
import OpenRfc.ModernMetadata.Unfolding

/-!
The projection walks over the unfolding of a graph: it describes all of it, or fails at a limit
which the unfolding exceeds, or at a scalar which has no description.
-/

namespace OpenRfc.ModernMetadata
open BudgetedWalk MetadataGraph Unfolding
open Classic (RfcExid)
open Xrfc (RecursiveMetadataReference)

variable {graph : RecursiveMetadataGraph} {maximum levels : Nat}

/-- A step of the projection walks over a part of the unfolding. -/
abbrev Projects {γ : Type} (graph : RecursiveMetadataGraph) (maximum levels : Nat)
    (labels : List Descriptor) (projection : Projection γ)
    (result : List ModernMetadataParameter → Option γ) : Prop :=
  Walks (below graph) (describe graph) ModernMetadataProjectionError.IsLimit maximum levels labels
    projection result

section Scalars

theorem isLimit_projection (path : String) :
    ModernMetadataProjectionError.IsLimit ⟨"PROJECTION_LIMIT", path⟩ := .inl rfl

theorem isLimit_depth (path : String) :
    ModernMetadataProjectionError.IsLimit ⟨"DEPTH_LIMIT", path⟩ := .inr rfl

theorem scalarMetadata_projects (name : JsString) (internalType : RfcExid) (length decimals : Nat)
    (path : String) :
    Projects graph maximum levels [] (scalarMetadata name internalType length decimals path)
      fun _ => scalar? name internalType length decimals := by
  have hlimit : ¬ModernMetadataProjectionError.IsLimit ⟨"UNSUPPORTED_SCALAR_TYPE", path⟩ := by
    simp [ModernMetadataProjectionError.IsLimit]
  rw [scalarMetadata]
  cases hrfc : rfcType? internalType with
  | none => exact Walks.fail (by rw [scalar?, hrfc]; rfl) hlimit
  | some nwrfcType =>
    cases habap : abapType? internalType with
    | none => exact Walks.fail (by rw [scalar?, hrfc, habap]; rfl) hlimit
    | some abapType => exact Walks.pure (by rw [scalar?, hrfc, habap]; rfl)

/-- A scalar whose length is computed first. -/
theorem measured_projects {γ : Type} {internalType : RfcExid} {internalLength : Nat} {path : String}
    {next : Nat → Projection γ} {result : Nat → Option γ}
    (h : ∀ length, Projects graph maximum levels [] (next length) fun _ => result length) :
    Projects graph maximum levels []
      (scalarParameterNucLength internalType internalLength path >>= next)
      fun _ => (nucLength? internalType internalLength).bind result := by
  rw [scalarParameterNucLength, nucLength?]
  split
  · split
    · exact Walks.fail rfl (by simp [ModernMetadataProjectionError.IsLimit])
    · exact h _
  · exact h _

end Scalars

section Fields
variable {context : ProjectionContext} {project : RecursiveMetadataField → String →
  Projection ModernMetadataParameter}

/-- A field of a node. -/
def Known (graph : RecursiveMetadataGraph) (field : RecursiveMetadataField) : Prop :=
  ∃ name node, graph.nodes.lookup name = some node ∧ field ∈ node.fields

theorem orderedFields_perm (fields : List RecursiveMetadataField) :
    (orderedFields fields).Perm fields := by
  have hsorted := (List.perm_insertionSort (isBefore MetadataField.position) fields.zipIdx).map
    Prod.fst
  rwa [List.zipIdx_map_fst] at hsorted

theorem orderedFields_ne {fields : List RecursiveMetadataField} (h : fields ≠ []) :
    orderedFields fields ≠ [] := fun hnil =>
  h (List.perm_nil.mp (hnil ▸ orderedFields_perm fields).symm)

theorem structureFields_eq {targetType : JsString} {node : RecursiveMetadataTypeNode}
    (h : graph.nodes.lookup targetType = some node) :
    structureFields graph targetType = orderedFields node.fields := by
  rw [structureFields, h]
  rfl

theorem referencedNode_eq {targetType : JsString} {node : RecursiveMetadataTypeNode}
    (h : context.graph.nodes.lookup targetType = some node) (path : String) :
    referencedNode context targetType path = pure node := by
  rw [referencedNode, h]

theorem projectFields_projects {fields : List RecursiveMetadataField}
    (h : ∀ field ∈ fields, ∀ path,
      Projects graph maximum levels [.field field] (project field path) List.head?)
    (path : String) (index : Nat) :
    Projects graph maximum levels (fields.map .field) (projectFields project path index fields)
      some := by
  induction fields generalizing index with
  | nil => exact Walks.pure rfl
  | cons field fields ih =>
    rw [projectFields, List.map_cons]
    exact Walks.cons (h field List.mem_cons_self _)
      (ih (fun other hother => h other (List.mem_cons_of_mem _ hother)) (index + 1))

theorem projectStructureFields_projects {node : RecursiveMetadataTypeNode}
    (hkind : node.kind = .container .structured)
    (h : ∀ field ∈ node.fields, ∀ path,
      Projects graph maximum levels [.field field] (project field path) List.head?)
    (path : String) :
    Projects graph maximum levels ((orderedFields node.fields).map .field)
      (projectStructureFields project node path) some := by
  rw [projectStructureFields, if_neg (not_not.mpr hkind)]
  exact projectFields_projects (fun field hfield =>
    h field ((orderedFields_perm node.fields).mem_iff.mp hfield)) path 0

theorem lineFields_ne (hgraph : Normalized graph) {name : JsString}
    {node : RecursiveMetadataTypeNode} (hnode : graph.nodes.lookup name = some node) :
    lineFields graph node ≠ [] := by
  rw [lineFields]
  split
  · exact orderedFields_ne (hgraph.shaped hnode).fields_ne
  · rename_i hkind
    obtain ⟨line, hline, -⟩ := (hgraph.shaped hnode).line hkind
    rw [hline, List.flatMap_singleton]
    split
    · rename_i targetType cyclic href
      obtain ⟨target, htarget, -⟩ := hgraph.target hnode (hline ▸ List.mem_singleton_self line) href
      rw [structureFields_eq htarget]
      exact orderedFields_ne (hgraph.shaped htarget).fields_ne
    · exact List.cons_ne_nil _ _

theorem projectTableLine_projects (hgraph : Normalized graph) (hcontext : context.graph = graph)
    {name : JsString} {node : RecursiveMetadataTypeNode}
    (hnode : graph.nodes.lookup name = some node)
    (h : ∀ field, Known graph field → ∀ path,
      Projects graph maximum levels [.field field] (project field path) List.head?)
    (path : String) :
    Projects graph maximum levels ((lineFields graph node).map .field)
      (projectTableLine context project levels node path)
      fun nested => some ⟨lineLength graph node, nested⟩ := by
  rw [projectTableLine, assertProjectionDepth]
  split
  · rename_i hlevels
    subst hlevels
    exact Walks.fail_depth (fun hnil => lineFields_ne hgraph hnode (List.map_eq_nil_iff.mp hnil))
      (isLimit_depth path)
  · rw [pure_bind, lineFields, lineLength]
    split
    · rename_i hkind
      exact (projectStructureFields_projects hkind
        (fun field hfield => h field ⟨name, node, hnode, hfield⟩) path).map _
    · rename_i hkind
      obtain ⟨line, hline, hname⟩ := (hgraph.shaped hnode).line hkind
      have hmem : line ∈ node.fields := hline ▸ List.mem_singleton_self line
      have hsingle : Projects graph maximum levels [.field line]
          (project line s!"{path}.line" >>= fun field => pure ⟨line.nucLength, [field]⟩)
          fun nested => some (ProjectedTableLine.mk line.nucLength nested) := by
        refine ((h line ⟨name, node, hnode, hmem⟩ _).map _).congr fun forest nested hforest hnested => ?_
        obtain ⟨-, field, -, rfl⟩ := Walks.describe_of_folds hforest hnested
        rfl
      rw [hline]
      simp only [List.flatMap_singleton, List.head?_cons, Option.elim_some, hname, ne_eq,
        not_true_eq_false, ↓reduceIte]
      cases href : line.reference with
      | scalar internalType => exact hsingle
      | container kind targetType cyclic =>
        cases kind with
        | table => exact hsingle
        | structured =>
          obtain ⟨target, htarget, htargetKind⟩ := hgraph.target hnode hmem href
          dsimp only
          rw [referencedNode_eq (by rw [hcontext]; exact htarget), structureFields_eq htarget,
            htarget, pure_bind, if_neg (not_not.mpr htargetKind)]
          exact (projectStructureFields_projects htargetKind
            (fun field hfield => h field ⟨targetType, target, htarget, hfield⟩) _).map _

end Fields

section Descriptors
variable {context : ProjectionContext}

theorem projectField_projects (hgraph : Normalized graph) (hcontext : context.graph = graph)
    (levels : Nat) (field : RecursiveMetadataField) (hknown : Known graph field) (path : String) :
    Projects graph context.maxProjectedDescriptors levels [.field field]
      (projectField context levels field path) List.head? := by
  induction levels generalizing field path with
  | zero => exact Walks.fail_depth (List.cons_ne_nil _ _) (isLimit_depth path)
  | succ levels ih =>
    obtain ⟨name, node, hnode, hfield⟩ := hknown
    rw [projectField]
    cases href : field.reference with
    | scalar internalType =>
      have hbelow : below graph (.field field) = [] := by
        rw [below, href]
        rfl
      refine Walks.descriptor (isLimit_projection path)
        (hbelow ▸ scalarMetadata_projects _ _ _ _ path) fun nested => ?_
      rw [describe, href]
    | container kind targetType cyclic =>
      obtain ⟨target, hlookup, hkind⟩ := hgraph.target hnode hfield href
      have hreferenced : referencedNode context targetType path = pure target :=
        referencedNode_eq (hcontext ▸ hlookup) path
      cases kind with
      | structured =>
        have hbelow : below graph (.field field) = (orderedFields target.fields).map .field := by
          rw [below, href, referenceFields, structureFields_eq hlookup]
        dsimp only
        rw [hreferenced, pure_bind]
        refine Walks.descriptor (isLimit_projection path)
          (hbelow ▸ projectStructureFields_projects hkind
            (fun other hother => ih other ⟨targetType, target, hlookup, hother⟩) path) fun nested => ?_
        rw [describe, href]
        rfl
      | table =>
        have hbelow : below graph (.field field) = (lineFields graph target).map .field := by
          rw [below, href, referenceFields, hlookup]
          rfl
        dsimp only
        rw [hreferenced, pure_bind, if_neg (not_not.mpr hkind)]
        refine Walks.descriptor (isLimit_projection path)
          (hbelow ▸ projectTableLine_projects hgraph hcontext hlookup ih path) fun nested => ?_
        rw [describe, href]
        rfl

/-- A descriptor of a scalar whose length is computed. -/
theorem scalarDescriptor_projects {label : Descriptor} {name : JsString} {internalType : RfcExid}
    {internalLength decimals : Nat} {place : Placement} (hbelow : below graph label = [])
    (hdescribe : ∀ nested, describe graph label nested =
      ((nucLength? internalType internalLength).bind fun length =>
        scalar? name internalType length decimals).map (· place))
    (path lengthPath : String) :
    Projects graph context.maxProjectedDescriptors (levels + 1) [label]
      (do
        consumeDescriptor context path
        let length ← scalarParameterNucLength internalType internalLength lengthPath
        let metadata ← scalarMetadata name internalType length decimals path
        pure (metadata place))
      List.head? := by
  have hmeasured : Projects graph context.maxProjectedDescriptors levels []
      (scalarParameterNucLength internalType internalLength lengthPath >>= fun length =>
        scalarMetadata name internalType length decimals path)
      fun _ => (nucLength? internalType internalLength).bind fun length =>
        scalar? name internalType length decimals :=
    measured_projects fun length => scalarMetadata_projects name internalType length decimals path
  have hdescriptor := Walks.descriptor (isLimit_projection path) (hbelow ▸ hmeasured) hdescribe
  rwa [bind_assoc] at hdescriptor

theorem scalarParameterNucLength_eq (internalType : RfcExid) (internalLength : Nat) (path : String) :
    scalarParameterNucLength internalType internalLength path =
      match nucLength? internalType internalLength with
      | some length => pure length
      | none => rejectProjection "INVALID_NUC_LENGTH" path := by
  rw [scalarParameterNucLength, nucLength?]
  split
  · split <;> rfl
  · rfl

theorem projectSyntheticScalarTableLine_projects (parameter : RecursiveMetadataParameter)
    (internalType : RfcExid) (path : String) :
    Projects graph context.maxProjectedDescriptors context.maxProjectionDepth
      [.scalarLine parameter internalType]
      (projectSyntheticScalarTableLine context parameter internalType path)
      fun nested => (nucLength? internalType parameter.internalLength).map fun length =>
        ⟨length, nested⟩ := by
  rw [projectSyntheticScalarTableLine, assertProjectionDepth]
  split
  · rename_i hlevels
    rw [hlevels]
    exact Walks.fail_depth (List.cons_ne_nil _ _) (isLimit_depth _)
  · rename_i hlevels
    obtain ⟨levels, hlevels⟩ := Nat.exists_eq_succ_of_ne_zero hlevels
    have hline : Projects graph context.maxProjectedDescriptors (levels + 1)
        [.scalarLine parameter internalType] _ List.head? :=
      scalarDescriptor_projects rfl (fun nested => rfl) s!"{path}.line" s!"{path}.length"
    have hagree : ∀ forest nested,
        Unfolds (below graph) [.scalarLine parameter internalType] forest →
        folds (describe graph) forest = some nested →
        (nucLength? internalType parameter.internalLength).map (ProjectedTableLine.mk · nested) =
          nested.head?.map fun field => ⟨(nucLength? internalType parameter.internalLength).getD 0,
            [field]⟩ := by
      intro forest nested hforest hnested
      obtain ⟨inner, field, hdescribe, rfl⟩ := Walks.describe_of_folds hforest hnested
      rw [describe] at hdescribe
      cases hlength : nucLength? internalType parameter.internalLength with
      | none =>
        rw [hlength] at hdescribe
        cases hdescribe
      | some length => rfl
    have hmap := (hline.map _).congr hagree
    rw [pure_bind, hlevels]
    rw [scalarParameterNucLength_eq] at hmap ⊢
    simp only [bind_assoc, pure_bind] at hmap
    cases hlength : nucLength? internalType parameter.internalLength with
    | none =>
      rw [hlength] at hmap
      exact hmap
    | some length =>
      rw [hlength] at hmap
      exact hmap

theorem projectParameter_projects (hgraph : Normalized graph) (hcontext : context.graph = graph)
    {parameter : RecursiveMetadataParameter} (hparameter : parameter ∈ graph.parameters)
    (hclass : parameter.reference ≠ .exception) (path : String) :
    Projects graph context.maxProjectedDescriptors (context.maxProjectionDepth + 1)
      [.parameter parameter] (projectParameter context parameter path) List.head? := by
  have hfield := projectField_projects hgraph hcontext context.maxProjectionDepth
  rw [projectParameter]
  cases href : parameter.reference with
  | exception => exact absurd href hclass
  | scalarLine internalType =>
    have hbelow : below graph (.parameter parameter) = [.scalarLine parameter internalType] := by
      rw [below, href]
    refine Walks.descriptor (isLimit_projection path)
      (hbelow ▸ projectSyntheticScalarTableLine_projects parameter internalType path) fun nested => ?_
    rw [describe, href, Option.map_map]
    rfl
  | type reference =>
    cases reference with
    | scalar internalType =>
      have hbelow : below graph (.parameter parameter) = [] := by
        rw [below, href]
        rfl
      exact scalarDescriptor_projects hbelow (fun nested => by rw [describe, href]) path _
    | container kind targetType cyclic =>
      obtain ⟨target, hlookup, hkind⟩ := hgraph.parameterTarget hparameter href
      have hreferenced : referencedNode context targetType path = pure target :=
        referencedNode_eq (hcontext ▸ hlookup) path
      cases kind with
      | structured =>
        have hbelow : below graph (.parameter parameter) =
            (orderedFields target.fields).map .field := by
          simp only [below, href, referenceFields, structureFields_eq hlookup]
        dsimp only
        rw [hreferenced, pure_bind, if_neg (not_not.mpr (hkind rfl))]
        refine Walks.descriptor (isLimit_projection path)
          (hbelow ▸ projectStructureFields_projects (hkind rfl)
            (fun other hother => hfield other ⟨targetType, target, hlookup, hother⟩) path)
          fun nested => ?_
        simp only [describe, href, hlookup, Option.elim_some, Option.map_some]
      | table =>
        have hbelow : below graph (.parameter parameter) = (lineFields graph target).map .field := by
          simp only [below, href, referenceFields, hlookup, Option.elim_some]
        dsimp only
        rw [hreferenced, pure_bind]
        refine Walks.descriptor (isLimit_projection path)
          (hbelow ▸ projectTableLine_projects hgraph hcontext hlookup hfield path) fun nested => ?_
        simp only [describe, href, hlookup, Option.elim_some, Option.map_some]

theorem projectParameters_projects (hgraph : Normalized graph) (hcontext : context.graph = graph)
    {entries : List (RecursiveMetadataParameter × Nat)}
    (hentries : ∀ entry ∈ entries, entry.1 ∈ graph.parameters ∧ entry.1.reference ≠ .exception) :
    Projects graph context.maxProjectedDescriptors (context.maxProjectionDepth + 1)
      (entries.map fun entry => .parameter entry.1) (projectParameters context entries) some := by
  induction entries with
  | nil => exact Walks.pure rfl
  | cons entry entries ih =>
    obtain ⟨hmem, hclass⟩ := hentries entry List.mem_cons_self
    rw [projectParameters, List.map_cons]
    exact Walks.cons (projectParameter_projects hgraph hcontext hmem hclass _)
      (ih fun other hother => hentries other (List.mem_cons_of_mem _ hother))

end Descriptors
end OpenRfc.ModernMetadata
