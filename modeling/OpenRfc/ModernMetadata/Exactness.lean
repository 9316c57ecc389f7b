import OpenRfc.ModernMetadata.Walk
import Mathlib.Order.WellFoundedSet

/-!
Where no type is below itself every way down ends, so that there is an unfolding.
-/

namespace OpenRfc.ModernMetadata
open BudgetedWalk Fallible Indexed MetadataGraph Relation Unfolding
open Classic (RfcExid)
open Xrfc (RecursiveMetadataReference RecursiveMetadataParameterReference ClassicXrfcKind)

variable {graph : RecursiveMetadataGraph}

/-- The reference which a descriptor follows. -/
def descriptorReference? : Descriptor → Option RecursiveMetadataReference
  | .parameter parameter =>
    match parameter.reference with
    | .type reference => some reference
    | _ => none
  | .scalarLine _ _ => none
  | .field field => some field.reference

theorem mem_structureFields {targetType : JsString} {field : RecursiveMetadataField}
    (h : field ∈ structureFields graph targetType) :
    ∃ node, graph.nodes.lookup targetType = some node ∧ field ∈ node.fields := by
  rw [structureFields] at h
  cases hlookup : graph.nodes.lookup targetType with
  | none =>
    rw [hlookup] at h
    cases h
  | some node =>
    rw [hlookup] at h
    exact ⟨node, rfl, (orderedFields_perm node.fields).mem_iff.mp h⟩

/-- The fields below a reference are those of its type, or of the type of its line. -/
theorem mem_referenceFields {kind : ClassicXrfcKind} {targetType : JsString} {cyclic : Bool}
    {field : RecursiveMetadataField}
    (h : field ∈ referenceFields graph (.container kind targetType cyclic)) :
    ∃ owner node, ReflTransGen (References graph) targetType owner ∧
      graph.nodes.lookup owner = some node ∧ field ∈ node.fields := by
  cases kind with
  | structured =>
    obtain ⟨node, hnode, hfield⟩ := mem_structureFields h
    exact ⟨targetType, node, .refl, hnode, hfield⟩
  | table =>
    rw [referenceFields] at h
    cases hlookup : graph.nodes.lookup targetType with
    | none =>
      rw [hlookup] at h
      cases h
    | some node =>
      rw [hlookup, Option.elim_some, lineFields] at h
      split at h
      · exact ⟨targetType, node, .refl, hlookup, (orderedFields_perm node.fields).mem_iff.mp h⟩
      · obtain ⟨line, hline, hmem⟩ := List.mem_flatMap.mp h
        cases href : line.reference with
        | scalar internalType =>
          rw [href] at hmem
          obtain rfl := List.mem_singleton.mp hmem
          exact ⟨targetType, node, .refl, hlookup, hline⟩
        | container kind lineType cyclic =>
          rw [href] at hmem
          cases kind with
          | table =>
            obtain rfl := List.mem_singleton.mp hmem
            exact ⟨targetType, node, .refl, hlookup, hline⟩
          | structured =>
            obtain ⟨target, htarget, hfield⟩ := mem_structureFields hmem
            exact ⟨lineType, target,
              .single ⟨node, hlookup, line, hline, .structured, cyclic, href⟩, htarget, hfield⟩

theorem acc_of_below_nil {descriptor : Descriptor} (h : below graph descriptor = []) :
    Acc (fun lower upper => lower ∈ below graph upper) descriptor := by
  refine Acc.intro descriptor fun lower hlower => ?_
  rw [h] at hlower
  cases hlower

theorem below_eq_of_reference {descriptor : Descriptor} {reference : RecursiveMetadataReference}
    (h : descriptorReference? descriptor = some reference) :
    below graph descriptor = (referenceFields graph reference).map .field := by
  cases descriptor with
  | field field =>
    obtain rfl := Option.some.inj h
    rfl
  | scalarLine parameter internalType => cases h
  | parameter parameter =>
    rw [descriptorReference?] at h
    cases href : parameter.reference with
    | exception | scalarLine _ =>
      rw [href] at h
      cases h
    | type _ =>
      rw [href] at h
      obtain rfl := Option.some.inj h
      rw [below, href]

theorem acc_of_unknown {descriptor : Descriptor} {kind : ClassicXrfcKind} {targetType : JsString}
    {cyclic : Bool} (hunknown : targetType ∉ graph.nodes.map Prod.fst)
    (h : descriptorReference? descriptor = some (.container kind targetType cyclic)) :
    Acc (fun lower upper => lower ∈ below graph upper) descriptor := by
  have hlookup : graph.nodes.lookup targetType = none := by
    cases hlookup : graph.nodes.lookup targetType with
    | none => rfl
    | some node => exact absurd (List.mem_map_of_mem (mem_of_lookup hlookup)) hunknown
  refine acc_of_below_nil ?_
  rw [below_eq_of_reference h]
  cases kind with
  | structured => rw [referenceFields, structureFields, hlookup]; rfl
  | table => rw [referenceFields, hlookup]; rfl

/-- The names of types, each above those to which it refers in the end. -/
theorem wellFounded_references (hacyclic : Acyclic graph) : WellFounded fun lower upper =>
    TransGen (References graph) upper lower ∧ lower ∈ graph.nodes.map Prod.fst ∧
      upper ∈ graph.nodes.map Prod.fst := by
  have hfinite : {name | name ∈ graph.nodes.map Prod.fst}.Finite :=
    List.finite_toSet (graph.nodes.map Prod.fst)
  have horder : IsStrictOrder JsString fun lower upper => TransGen (References graph) upper lower :=
    { irrefl := hacyclic
      trans := fun _ _ _ hlower hupper => hupper.trans hlower }
  exact Set.wellFoundedOn_iff.mp hfinite.wellFoundedOn

/-- A descriptor whose reference leads to a type is accessible, whatever else it is. -/
theorem acc_of_targetType (hacyclic : Acyclic graph) (targetType : JsString)
    (hname : targetType ∈ graph.nodes.map Prod.fst) (descriptor : Descriptor) {kind : ClassicXrfcKind}
    {cyclic : Bool} (h : descriptorReference? descriptor = some (.container kind targetType cyclic)) :
    Acc (fun lower upper => lower ∈ below graph upper) descriptor := by
  induction targetType using (wellFounded_references hacyclic).induction generalizing descriptor kind
    cyclic with
  | _ targetType ih =>
    refine Acc.intro descriptor fun lower hlower => ?_
    rw [below_eq_of_reference h] at hlower
    obtain ⟨field, hfield, rfl⟩ := List.mem_map.mp hlower
    obtain ⟨owner, node, hpath, hnode, hmem⟩ := mem_referenceFields hfield
    cases href : field.reference with
    | scalar internalType =>
      refine acc_of_below_nil ?_
      rw [below, href]
      rfl
    | container kind' lowerType cyclic' =>
      have hstep : References graph owner lowerType :=
        ⟨node, hnode, field, hmem, kind', cyclic', href⟩
      by_cases hknown : lowerType ∈ graph.nodes.map Prod.fst
      · exact ih lowerType ⟨.tail' hpath hstep, hknown, hname⟩ hknown _ (congrArg some href)
      · refine acc_of_unknown hknown (congrArg some href)

/-- There is an unfolding below any descriptors. -/
theorem wellFounded_below (hacyclic : Acyclic graph) :
    WellFounded fun lower upper => lower ∈ below graph upper := by
  refine ⟨fun descriptor => ?_⟩
  cases href : descriptorReference? descriptor with
  | some reference =>
    cases reference with
    | scalar internalType => exact acc_of_below_nil (below_eq_of_reference href)
    | container kind targetType cyclic =>
      by_cases hknown : targetType ∈ graph.nodes.map Prod.fst
      · exact acc_of_targetType hacyclic targetType hknown descriptor href
      · exact acc_of_unknown hknown href
  | none =>
    cases descriptor with
    | field field => cases href
    | scalarLine parameter internalType => exact acc_of_below_nil rfl
    | parameter parameter =>
      rw [descriptorReference?] at href
      cases hparameter : parameter.reference with
      | type reference =>
        rw [hparameter] at href
        cases href
      | exception =>
        refine acc_of_below_nil ?_
        rw [below, hparameter]
      | scalarLine internalType =>
        refine Acc.intro _ fun lower hlower => ?_
        rw [below, hparameter] at hlower
        obtain rfl := List.mem_singleton.mp hlower
        exact acc_of_below_nil rfl

theorem exists_unfolding (hacyclic : Acyclic graph) : ∃ forest, IsUnfolding graph forest :=
  exists_unfolds (wellFounded_below hacyclic) _

/-!
The metadata of a function are its unfolding, all of it and within the limits. Without cycles only
an unfolding which exceeds a limit is rejected for that.
-/

section Limits

/-- The limits of the options, which are within the absolute ones. -/
structure HasLimits (options : ModernMetadataProjectionOptions)
    (maxProjectedDescriptors maxProjectionDepth : Nat) : Prop where
  descriptors : options.maxProjectedDescriptors.getD defaultMaxProjectedDescriptors =
    (maxProjectedDescriptors : Int)
  descriptors_le : maxProjectedDescriptors ≤ absoluteMaxProjectedDescriptors
  depth : options.maxProjectionDepth.getD defaultMaxProjectionDepth = (maxProjectionDepth : Int)
  depth_le : maxProjectionDepth ≤ absoluteMaxProjectionDepth

theorem projectionLimit_eq_ok {candidate : Option Int} {fallback maximum value : Nat}
    {path : String} : projectionLimit candidate fallback maximum path = .ok value ↔
      candidate.getD fallback = (value : Int) ∧ value ≤ maximum := by
  simp only [projectionLimit, bind_eq_ok, require_eq_ok, Except.ok.injEq]
  constructor
  · rintro ⟨-, ⟨hnonneg, hle⟩, rfl⟩
    omega
  · rintro ⟨heq, hle⟩
    refine ⟨(), ?_, ?_⟩
    · rw [heq]
      omega
    · rw [heq]
      rfl

end Limits

section Validation

theorem validateNode_of_normalized (hgraph : Normalized graph) (hacyclic : Acyclic graph)
    {entry : JsString × RecursiveMetadataTypeNode} (hentry : entry ∈ graph.nodes) :
    validateNode graph entry = .ok () := by
  rw [validateNode, require_of (hgraph.names entry hentry), ok_bind]
  refine forEach_of_forall fun _ field hfield => ?_
  rw [validateFieldReference]
  cases href : field.reference with
  | scalar internalType => rfl
  | container kind targetType cyclic =>
    obtain ⟨target, htarget, hkind⟩ := hgraph.references entry hentry field hfield _ _ _ href
    have hcyclic := (hgraph.unmarked hacyclic).2.1 entry hentry field hfield _ _ _ href
    dsimp only
    rw [require_of hcyclic, ok_bind, htarget]
    exact require_of hkind

theorem validateParameter_of_normalized (hgraph : Normalized graph) (hacyclic : Acyclic graph)
    (index : Nat) {parameter : RecursiveMetadataParameter} (hmem : parameter ∈ graph.parameters) :
    validateParameter graph index parameter = .ok () := by
  have hfits := hgraph.parameters parameter hmem
  have hcyclic := (hgraph.unmarked hacyclic).2.2 parameter hmem
  rw [validateParameter]
  cases href : parameter.reference with
  | exception =>
    rw [href] at hfits
    rw [if_pos (show parameter.parameterClass = .exception from hfits)]
    rfl
  | scalarLine internalType =>
    rw [href] at hfits
    have htables : parameter.parameterClass = .tables := hfits
    simp [htables, isTableReference, require]
  | type reference =>
    cases reference with
    | scalar internalType =>
      rw [href] at hfits
      obtain ⟨hexception, htables⟩ := hfits
      simp [hexception, htables, require]
    | container kind targetType cyclic =>
      rw [href] at hfits
      obtain ⟨hexception, htables, target, htarget, -⟩ := hfits
      obtain rfl := hcyclic kind targetType cyclic href
      have htable : parameter.parameterClass = .tables →
          isTableReference (.type (.container kind targetType false)) = true := by
        intro h
        rw [htables h]
        rfl
      rw [if_neg hexception]
      simp only [require_of htable, htarget, ok_bind, Option.isSome_some]
      rfl

/-- A graph without cycles is valid, unless it has no function. -/
theorem validateProjectionGraph_of_acyclic (hgraph : Normalized graph) (hacyclic : Acyclic graph) :
    (∃ rfcName, validateProjectionGraph graph = .ok rfcName) ∨
      graph.parameters = [] ∧
        validateProjectionGraph graph = .error ⟨"MISSING_FUNCTION", "graph.parameters"⟩ := by
  have hroots : forEach (fun index name =>
      require (graph.nodes.lookup name).isSome
        (⟨"FOREIGN_TYPE", s!"graph.rootTypeNames[{index}]"⟩ : ModernMetadataProjectionError))
      0 graph.rootTypeNames = .ok () :=
    forEach_eq_ok.mpr fun index name hname =>
      require_of (hgraph.roots name (List.mem_of_getElem? hname))
  have hnodes : forEach (fun _ => validateNode graph) 0 graph.nodes = .ok () :=
    forEach_of_forall fun _ _ => validateNode_of_normalized hgraph hacyclic
  have hparameters : forEach (validateParameter graph) 0 graph.parameters = .ok () :=
    forEach_of_forall fun index _ => validateParameter_of_normalized hgraph hacyclic index
  obtain ⟨hlength, hidentity⟩ := hgraph.functions
  simp only [validateProjectionGraph, require_of hgraph.version,
    require_of (hgraph.unmarked hacyclic).1, hroots, hnodes, hparameters, require_of hlength, ok_bind]
  cases hname : graph.functionIdentity with
  | some name =>
    left
    cases hnames : functionNamesOf (graph.parameters.map (·.functionName)) with
    | nil => exact ⟨name, rfl⟩
    | cons other others =>
      rw [hname, hnames] at hidentity
      refine ⟨name, ?_⟩
      dsimp only
      rw [require_of (hidentity name rfl other List.mem_cons_self)]
      rfl
  | none =>
    cases hnames : functionNamesOf (graph.parameters.map (·.functionName)) with
    | nil =>
      right
      refine ⟨?_, rfl⟩
      rw [functionNamesOf, List.dedup_eq_nil, List.map_eq_nil_iff] at hnames
      exact hnames
    | cons name others => exact .inl ⟨name, rfl⟩

end Validation

section Exactness
variable {options : ModernMetadataProjectionOptions}

/-- The parameters and fields of an unfolding. -/
def descriptorCount (forest : List (Unfolding Descriptor)) : Nat := sizes forest

/-- The levels of an unfolding below those of the parameters. -/
def nestingDepth (forest : List (Unfolding Descriptor)) : Nat := heights forest - 1

/-- Metadata which describe a whole unfolding, each parameter in the group of its class. -/
def IsMetadataOf (graph : RecursiveMetadataGraph) (forest : List (Unfolding Descriptor))
    (metadata : ModernRfcMetadata) : Prop :=
  ∃ rfcName values, validateProjectionGraph graph = .ok rfcName ∧
    folds (describe graph) forest = some values ∧
    metadata = groupParameters rfcName
      (((orderedParameters graph).map (·.1.parameterClass)).zip values)

theorem mem_orderedParameters {entry : RecursiveMetadataParameter × Nat}
    (h : entry ∈ orderedParameters graph) :
    entry.1 ∈ graph.parameters ∧ entry.1.parameterClass ≠ .exception := by
  have hmem := (List.perm_insertionSort (isBefore MetadataParameter.position) _).mem_iff.mp h
  obtain ⟨hzip, hclass⟩ := List.mem_filter.mp hmem
  refine ⟨?_, by simpa using hclass⟩
  have hfst := List.mem_map_of_mem (f := Prod.fst) hzip
  rwa [List.zipIdx_map_fst] at hfst

theorem projectParameters_walks (hgraph : Normalized graph) (maximum depth : Nat) :
    Projects graph maximum (depth + 1) (roots graph)
      (projectParameters ⟨graph, maximum, depth⟩ (orderedParameters graph)) some := by
  have hentries : ∀ entry ∈ orderedParameters graph,
      entry.1 ∈ graph.parameters ∧ entry.1.reference ≠ .exception := by
    intro entry hentry
    obtain ⟨hmem, hclass⟩ := mem_orderedParameters hentry
    refine ⟨hmem, fun hexception => hclass ?_⟩
    have hfits := hgraph.parameters entry.1 hmem
    rwa [hexception] at hfits
  have hcontext : (ProjectionContext.mk graph maximum depth).graph = graph := rfl
  exact projectParameters_projects hgraph hcontext hentries

/-- The projection of a valid graph within valid limits. -/
theorem toModernRfcMetadata_eq {rfcName : JsString} {maximum depth : Nat}
    (hvalid : validateProjectionGraph graph = .ok rfcName) (hlimits : HasLimits options maximum depth) :
    toModernRfcMetadataFromRecursiveGraph graph options =
      projectParameters ⟨graph, maximum, depth⟩ (orderedParameters graph) 0 >>= fun converted =>
        .ok (groupParameters rfcName
          (((orderedParameters graph).map (·.1.parameterClass)).zip converted.1)) := by
  rw [toModernRfcMetadataFromRecursiveGraph, hvalid, ok_bind,
    projectionLimit_eq_ok.mpr ⟨hlimits.descriptors, hlimits.descriptors_le⟩, ok_bind,
    projectionLimit_eq_ok.mpr ⟨hlimits.depth, hlimits.depth_le⟩, ok_bind]

/-- What is returned describes the unfolding, which is within the limits. -/
theorem unfolding_of_returned (hgraph : Normalized graph) {metadata : ModernRfcMetadata}
    (h : toModernRfcMetadataFromRecursiveGraph graph options = .ok metadata) :
    ∃ maximum depth forest, HasLimits options maximum depth ∧ IsUnfolding graph forest ∧
      IsMetadataOf graph forest metadata ∧ descriptorCount forest ≤ maximum ∧
      nestingDepth forest ≤ depth := by
  have hrun := h
  simp only [toModernRfcMetadataFromRecursiveGraph, bind_eq_ok] at hrun
  obtain ⟨rfcName, hvalid, maximum, hmaximum, depth, hdepth, ⟨converted, count⟩, hproject, hgroup⟩ :=
    hrun
  obtain ⟨hdescriptors, hdescriptorsLe⟩ := projectionLimit_eq_ok.mp hmaximum
  obtain ⟨hdepth, hdepthLe⟩ := projectionLimit_eq_ok.mp hdepth
  obtain ⟨forest, hforest, hvalues, hcount, hle, hheight⟩ :=
    (projectParameters_walks hgraph maximum depth).returns 0 converted count hproject
  rw [Option.bind_fun_some] at hvalues
  refine ⟨maximum, depth, forest, ⟨hdescriptors, hdescriptorsLe, hdepth, hdepthLe⟩, hforest,
    ⟨rfcName, converted, hvalid, hvalues, (Except.ok.inj hgroup).symm⟩, ?_, ?_⟩
  · have hle := hle (Nat.zero_le maximum)
    rw [descriptorCount]
    omega
  · rw [nestingDepth]
    omega

/-- Without cycles a failure is one at a limit which the unfolding exceeds, or there is no
description of the unfolding. -/
theorem failure_of_acyclic (hgraph : Normalized graph) (hacyclic : Acyclic graph)
    {forest : List (Unfolding Descriptor)} (hforest : IsUnfolding graph forest)
    {maximum depth : Nat} (hlimits : HasLimits options maximum depth)
    {e : ModernMetadataProjectionError}
    (h : toModernRfcMetadataFromRecursiveGraph graph options = .error e) :
    e.IsLimit ∧ (maximum < descriptorCount forest ∨ depth < nestingDepth forest) ∨
      ¬e.IsLimit ∧ (folds (describe graph) forest = none ∨ forest = []) := by
  rcases validateProjectionGraph_of_acyclic hgraph hacyclic with ⟨rfcName, hvalid⟩ | ⟨hnone, hvalid⟩
  · rw [toModernRfcMetadata_eq hvalid hlimits] at h
    cases hproject : projectParameters ⟨graph, maximum, depth⟩ (orderedParameters graph) 0 with
    | ok converted =>
      rw [hproject] at h
      cases h
    | error e' =>
      rw [hproject] at h
      cases h
      rcases (projectParameters_walks hgraph maximum depth).fails 0 e forest hproject
        (Nat.zero_le _) hforest with ⟨hlimit, hexceeds⟩ | ⟨hne, hfolds⟩
      · refine .inl ⟨hlimit, hexceeds.imp ?_ ?_⟩
        · rw [descriptorCount]
          omega
        · rw [nestingDepth]
          omega
      · rw [Option.bind_fun_some] at hfolds
        exact .inr ⟨hne, .inl hfolds⟩
  · have hroots : roots graph = [] := by
      rw [roots, orderedParameters, hnone]
      rfl
    rw [toModernRfcMetadataFromRecursiveGraph, hvalid] at h
    cases h
    rw [IsUnfolding, hroots, unfolds_nil] at hforest
    exact .inr ⟨by simp [ModernMetadataProjectionError.IsLimit], .inr hforest⟩

end Exactness

section Samples

def sampleRow (parameterName tableName : String) (internalType : RfcExid) : ParameterRow where
  functionName := JsString.literal "F"
  parameterClass := .importing
  parameterName := JsString.literal parameterName
  tableName := JsString.literal tableName
  fieldPath := []
  internalType
  position := 0
  internalLength := 4
  decimals := 0
  defaultValue := []
  parameterText := []
  optional := false

def sampleParameter (row : ParameterRow) (reference : RecursiveMetadataParameterReference) :
    RecursiveMetadataParameter :=
  { row with name := row.parameterName, associatedType := row.tableName, reference }

/-- A parameter of a structure with one field. -/
def structuredRows : MetadataRows where
  functionNames := none
  typeRows := [{
    typeName := JsString.literal "S", fieldName := JsString.literal "X"
    associatedType := JsString.literal "INT4", nucTotalLength := 4, ucTotalLength := 4, decimals := 0
    internalType := .int4, nucOffset := 0, ucOffset := 0, nucLength := 4, ucLength := 4
    timestamp := [] }]
  indirectRows := []
  parameterRows := [sampleRow "A" "S" .flatStructure]

def structuredGraph : RecursiveMetadataGraph where
  version := 1
  functionIdentity := none
  nodes := [(JsString.literal "S", {
    name := JsString.literal "S", kind := .container .structured, nucLength := 4, ucLength := 4
    timestamp := []
    fields := [{
      name := JsString.literal "X", position := 1, internalType := .int4, decimals := 0
      nucOffset := 0, ucOffset := 0, nucLength := 4, ucLength := 4, reference := .scalar .int4 }] })]
  parameters := [sampleParameter (sampleRow "A" "S" .flatStructure)
    (.type (.container .structured (JsString.literal "S") false))]
  rootTypeNames := [JsString.literal "S"]
  cycles := []

def structuredMetadata : ModernRfcMetadata where
  rfcName := JsString.literal "F"
  importing := [.descriptor (JsString.literal "A") "RFCTYPE_STRUCTURE" "u" "" 4 0
    (some (JsString.literal "S")) .fields
    [.descriptor (JsString.literal "X") "RFCTYPE_INT" "i" "" 4 0 none .none [] (.field 0)]
    (.parameter [] [] false)]
  exporting := []
  changing := []
  table := []

/-- Two scalars, the first of a type which has no letter here. -/
def unsupportedRows : MetadataRows where
  functionNames := none
  typeRows := []
  indirectRows := []
  parameterRows := [sampleRow "A" "" (.other (JsString.literal "?")), sampleRow "B" "" .int4]

def unsupportedGraph : RecursiveMetadataGraph where
  version := 1
  functionIdentity := none
  nodes := []
  parameters := [
    sampleParameter (sampleRow "A" "" (.other (JsString.literal "?")))
      (.type (.scalar (.other (JsString.literal "?")))),
    sampleParameter (sampleRow "B" "" .int4) (.type (.scalar .int4))]
  rootTypeNames := []
  cycles := []

end Samples
end OpenRfc.ModernMetadata
