import OpenRfc.MetadataGraph.Parameters

/-!
The shapes of what is made of rows: of the nodes, and of the references of the parameters.
-/

/-!
The nodes which are made of rows have distinct names, fields, and, where they are no structures, one
field without a name.
-/

namespace OpenRfc.MetadataGraph
open Fallible Indexed Xrfc
open TypeGraph (ProvisionalReference RecursiveMetadataError)

/-- A node has fields. One of a table or a scalar has one without a name. -/
structure Shaped {Reference : Type} (node : MetadataNode Reference) : Prop where
  fields_ne : node.fields ≠ []
  line : node.kind ≠ .container .structured → ∃ line, node.fields = [line] ∧ line.name = []

section Groups

theorem groupRows_distinct {index : Nat} {closed : List JsString} {current : Option TypeGroup}
    {rows : List TypeRow} {groups : List TypeGroup}
    (h : groupRows index closed current rows = .ok groups)
    (hcurrent : ∀ group ∈ current, group.name ∉ closed) (hnone : current = none → closed = []) :
    (groups.map TypeGroup.name).Nodup ∧ ∀ group ∈ groups, group.name ∉ closed := by
  induction rows generalizing index closed current groups with
  | nil =>
    rw [groupRows] at h
    obtain rfl := Except.ok.inj h
    cases current with
    | none => exact ⟨List.nodup_nil, nofun⟩
    | some group =>
      refine ⟨List.nodup_singleton _, fun other hother => ?_⟩
      obtain rfl := List.mem_singleton.mp hother
      exact hcurrent other rfl
  | cons row rows ih =>
    cases current with
    | none =>
      rw [groupRows] at h
      obtain rfl := hnone rfl
      exact ih h (fun _ _ => List.not_mem_nil) nofun
    | some group =>
      rw [groupRows] at h
      split at h
      · exact ih h (fun other hother => by cases hother; exact hcurrent group rfl) nofun
      · simp only [bind_eq_ok, require_eq_ok] at h
        obtain ⟨-, hfresh, rest, hrest, h⟩ := h
        obtain rfl := Except.ok.inj h
        obtain ⟨hdistinct, hout⟩ :=
          ih hrest (fun other hother => by cases hother; exact hfresh) nofun
        refine ⟨?_, ?_⟩
        · rw [List.map_cons, List.nodup_cons]
          refine ⟨fun hmem => ?_, hdistinct⟩
          obtain ⟨other, hother, hsame⟩ := List.mem_map.mp hmem
          exact hout other hother (hsame ▸ List.mem_cons_self)
        · intro other hother
          rcases List.mem_cons.mp hother with rfl | hother
          · exact hcurrent other rfl
          · exact fun hmem => hout other hother (List.mem_cons_of_mem _ hmem)

end Groups

section Build

theorem names_of_buildFields {group : TypeGroup} {groupIndex nucTotal ucTotal fieldIndex : Nat}
    {state : FieldState} {rows : List TypeRow} {fields : List ProvisionalField}
    (h : buildFields group groupIndex nucTotal ucTotal fieldIndex state rows = .ok fields) :
    fields.map MetadataField.name = rows.map TypeRow.fieldName := by
  induction rows generalizing fieldIndex state fields with
  | nil =>
    obtain rfl := Except.ok.inj h
    rfl
  | cons row rows ih =>
    simp only [buildFields, bind_eq_ok, require_eq_ok] at h
    obtain ⟨-, -, -, -, -, -, nucEnd, -, ucEnd, -, -, -, reference, -, rest, hrest, h⟩ := h
    obtain rfl := Except.ok.inj h
    rw [List.map_cons, List.map_cons, ih hrest]

theorem shaped_of_buildNode {groupIndex : Nat} {group : TypeGroup} {node : ProvisionalNode}
    (h : buildNode groupIndex group = .ok node) : node.name = group.name ∧ Shaped node := by
  simp only [buildNode, bind_eq_ok] at h
  obtain ⟨anonymous, hanonymous, nucTotal, -, ucTotal, -, fields, hfields, h⟩ := h
  obtain rfl := Except.ok.inj h
  have hnames := names_of_buildFields hfields
  refine ⟨rfl, ?_, ?_⟩
  · rintro rfl
    cases hnames
  · intro hkind
    rw [anonymousReference] at hanonymous
    split at hanonymous
    · rename_i hblank
      simp only [bind_eq_ok, require_eq_ok] at hanonymous
      obtain ⟨-, hrest, reference, -, -⟩ := hanonymous
      rw [TypeGroup.rows, hrest] at hblank hnames
      obtain ⟨line, rfl, hline⟩ := List.map_eq_singleton_iff.mp hnames
      refine ⟨line, rfl, hline.trans ?_⟩
      simpa using hblank
    · obtain rfl := Except.ok.inj hanonymous
      exact absurd rfl hkind

theorem shaped_of_buildGroups {limits : RecursiveMetadataLimits} {groupIndex edges : Nat}
    {groups : List TypeGroup} {nodes : List ProvisionalNode}
    (h : buildGroups limits groupIndex edges groups = .ok nodes) :
    nodes.map MetadataNode.name = groups.map TypeGroup.name ∧ ∀ node ∈ nodes, Shaped node := by
  induction groups generalizing groupIndex edges nodes with
  | nil =>
    obtain rfl := Except.ok.inj h
    exact ⟨rfl, nofun⟩
  | cons group groups ih =>
    simp only [buildGroups, bind_eq_ok, require_eq_ok] at h
    obtain ⟨node, hnode, -, -, rest, hrest, h⟩ := h
    obtain rfl := Except.ok.inj h
    obtain ⟨hname, hshaped⟩ := shaped_of_buildNode hnode
    obtain ⟨hnames, hall⟩ := ih hrest
    exact ⟨by rw [List.map_cons, List.map_cons, hname, hnames],
      List.forall_mem_cons.mpr ⟨hshaped, hall⟩⟩

theorem shaped_of_buildNodes {limits : RecursiveMetadataLimits} {rows : List TypeRow}
    {nodes : List ProvisionalNode} (h : buildNodes rows limits = .ok nodes) :
    (nodes.map MetadataNode.name).Nodup ∧ ∀ node ∈ nodes, Shaped node := by
  simp only [buildNodes, bind_eq_ok, require_eq_ok] at h
  obtain ⟨groups, hgroups, -, -, hnodes⟩ := h
  obtain ⟨hnames, hshaped⟩ := shaped_of_buildGroups hnodes
  exact ⟨hnames ▸ (groupRows_distinct hgroups nofun fun _ => rfl).1, hshaped⟩

end Build

section Refine
variable {nodes : List ProvisionalNode} {parameters : List ParameterRow}
  {indirectRows : List IndirectRow}

theorem names_refineTableNodeKinds :
    (refineTableNodeKinds nodes parameters indirectRows).map MetadataNode.name =
      nodes.map MetadataNode.name := by
  rw [refineTableNodeKinds, List.map_map]
  apply List.map_congr_left
  intro node _
  rw [Function.comp_apply]
  split <;> rfl

theorem shaped_refineTableNodeKinds (h : ∀ node ∈ nodes, Shaped node) :
    ∀ node ∈ refineTableNodeKinds nodes parameters indirectRows, Shaped node := by
  intro node hnode
  obtain ⟨original, horiginal, rfl⟩ := List.mem_map.mp hnode
  have hshaped := h original horiginal
  split
  · rename_i hrequired
    refine ⟨hshaped.fields_ne, fun _ => hshaped.line ?_⟩
    rw [hrequired.1]
    exact nofun
  · exact hshaped

end Refine

section Targets
variable {nodes : List ProvisionalNode}

/-- The references of all fields lead to nodes of their kinds. -/
theorem targets_of_validateNodeTargets (h : validateNodeTargets nodes = .ok ())
    {node : ProvisionalNode} (hnode : node ∈ nodes) {field : ProvisionalField}
    (hfield : field ∈ node.fields) {kind : ClassicXrfcKind} {targetType : JsString}
    (hreference : field.reference = .container kind targetType) :
    ∃ target, byName nodes targetType = some target ∧ target.kind = .container kind := by
  obtain ⟨nodeIndex, hfields⟩ := exists_of_forEach h hnode
  obtain ⟨fieldIndex, hvalid⟩ := exists_of_forEach hfields hfield
  rw [validateFieldTarget, hreference] at hvalid
  dsimp only at hvalid
  cases htarget : byName nodes targetType with
  | none =>
    rw [htarget] at hvalid
    cases hvalid
  | some target =>
    rw [htarget] at hvalid
    exact ⟨target, rfl, require_eq_ok.mp hvalid⟩

end Targets
end OpenRfc.MetadataGraph

/-!
What the references of the parameters are: none of an exception, tables of the tables, and types
which are nodes.
-/

namespace OpenRfc.MetadataGraph
open Fallible Indexed Xrfc
open TypeGraph (ProvisionalReference RecursiveMetadataError)

variable {nodes : List ProvisionalNode} {indirectRows : List IndirectRow} {row : ParameterRow}
  {path : String}

/-- The roots found so far are names of nodes. -/
def RootsKnown (nodes : List ProvisionalNode) (s : ParameterState) : Prop :=
  ∀ name ∈ s.roots, name ∈ nodes.map MetadataNode.name

/-- What a parameter of a class may refer to. -/
def FitsClass (nodes : List ProvisionalNode) (parameterClass : RfcParameterClass) :
    ProvisionalParameterReference → Prop
  | .exception => parameterClass = .exception
  | .scalar _ => parameterClass ≠ .exception ∧ parameterClass ≠ .tables
  | .scalarTable _ => parameterClass = .tables
  | .container kind targetType => parameterClass ≠ .exception ∧
      (parameterClass = .tables → kind = .table) ∧
      ∃ target, byName nodes targetType = some target ∧
        (kind = .structured → target.kind = .container .structured)

theorem byName_mem {name : JsString} {node : ProvisionalNode} (h : byName nodes name = some node) :
    node ∈ nodes ∧ node.name = name := by
  rw [byName] at h
  exact ⟨List.mem_of_find?_eq_some h, by simpa using List.find?_some h⟩

theorem name_mem_of_byName {name : JsString} {node : ProvisionalNode}
    (h : byName nodes name = some node) : name ∈ nodes.map MetadataNode.name := by
  obtain ⟨hmem, rfl⟩ := byName_mem h
  exact List.mem_map_of_mem hmem

section Steps
variable {I : ParameterState → Prop}

theorem rejectStep_ensures {α : Type} {Q : α → Prop} (code path : String) :
    Ensures I (rejectStep code path) Q :=
  Ensures.fail fun _ => ⟨_, rfl⟩

theorem requireStep_ensures (p : Prop) [Decidable p] (code path : String) :
    Ensures I (requireStep p code path) fun _ => p := by
  rw [requireStep]
  exact Ensures.ite (fun h => Ensures.pure h) fun _ => rejectStep_ensures code path

theorem addRoot_ensures {name : JsString} (h : name ∈ nodes.map MetadataNode.name) :
    Ensures (RootsKnown nodes) (addRoot name) fun _ => True := by
  refine Ensures.modify fun s hs => ?_
  split
  · exact hs
  · intro other hother
    rcases List.mem_append.mp hother with hother | hother
    · exact hs other hother
    · rwa [List.mem_singleton.mp hother]

theorem addEdge_ensures : Ensures (RootsKnown nodes) addEdge fun _ => True :=
  Ensures.modify fun _ hs => hs

theorem typeNamed_ensures (name : JsString) :
    Ensures I (typeNamed nodes path name) fun node => byName nodes name = some node := by
  rw [typeNamed]
  cases h : byName nodes name with
  | none => exact rejectStep_ensures _ path
  | some node => exact Ensures.pure rfl

theorem indirectTargetType_ensures :
    Ensures (RootsKnown nodes) (indirectTargetType indirectRows row path) fun _ => True := by
  rw [indirectTargetType]
  split
  · exact rejectStep_ensures _ path
  · exact Ensures.bind (Ensures.modify fun _ hs => hs) fun _ _ => Ensures.pure trivial

theorem mappedTarget_ensures :
    Ensures (RootsKnown nodes) (mappedTarget nodes indirectRows row path) fun _ => True := by
  rw [mappedTarget]
  refine Ensures.ite (fun _ => Ensures.pure trivial) fun _ => ?_
  refine Ensures.bind (requireStep_ensures _ _ _) fun _ _ => ?_
  refine Ensures.bind indirectTargetType_ensures fun targetType _ => ?_
  refine Ensures.bind (typeNamed_ensures targetType) fun target htarget => ?_
  exact Ensures.bind (addRoot_ensures (name_mem_of_byName htarget)) fun _ _ => Ensures.pure trivial

theorem directFieldReference_ensures :
    Ensures (RootsKnown nodes) (directFieldReference nodes row path) fun _ => True := by
  rw [directFieldReference]
  refine Ensures.ite (fun _ => Ensures.pure trivial) fun _ => ?_
  refine Ensures.bind (requireStep_ensures _ _ _) fun _ _ => ?_
  refine Ensures.bind (typeNamed_ensures row.tableName) fun owner howner => ?_
  refine Ensures.bind (addRoot_ensures (name_mem_of_byName howner)) fun _ _ => ?_
  exact Ensures.bind (Ensures.lift fun _ _ => trivial) fun _ _ => Ensures.pure trivial

theorem requireScalarLine_ensures (node : ProvisionalNode) :
    Ensures I (requireScalarLine path node) fun _ => True :=
  (requireStep_ensures _ _ _).mono fun _ _ => trivial

theorem requireScalar_ensures (reference : ProvisionalReference) :
    Ensures I (requireScalar path reference) fun _ => True := by
  cases reference with
  | scalar internalType => exact Ensures.pure trivial
  | container kind targetType => exact rejectStep_ensures _ path

theorem checkScalarType_ensures (counted : Bool) :
    Ensures (RootsKnown nodes) (checkScalarType nodes indirectRows row path counted)
      fun _ => True := by
  have hedge : Ensures (RootsKnown nodes) (if counted = true then addEdge else pure ())
      fun _ => True :=
    Ensures.ite (fun _ => addEdge_ensures) fun _ => Ensures.pure trivial
  rw [checkScalarType]
  refine Ensures.bind mappedTarget_ensures fun mapped _ => ?_
  refine Ensures.bind directFieldReference_ensures fun direct _ => ?_
  cases mapped with
  | some mapped =>
    cases direct with
    | some direct =>
      refine Ensures.bind (requireScalarLine_ensures mapped) fun _ _ => ?_
      exact Ensures.bind hedge fun _ _ => Ensures.bind (requireScalar_ensures direct) fun _ _ => hedge
    | none => exact Ensures.bind (requireScalarLine_ensures mapped) fun _ _ => hedge
  | none =>
    cases direct with
    | some direct => exact Ensures.bind (requireScalar_ensures direct) fun _ _ => hedge
    | none =>
      refine Ensures.ite (fun _ => ?_) fun _ => Ensures.pure trivial
      cases hnamed : byName nodes row.tableName with
      | none => exact Ensures.pure trivial
      | some named =>
        refine Ensures.bind (requireScalarLine_ensures named) fun _ _ => ?_
        exact Ensures.bind (addRoot_ensures (name_mem_of_byName hnamed)) fun _ _ => hedge

theorem containerType_ensures :
    Ensures (RootsKnown nodes) (containerType nodes indirectRows row path) fun _ => True := by
  rw [containerType]
  refine Ensures.bind (requireStep_ensures _ _ _) fun _ _ => ?_
  refine Ensures.ite (fun _ => indirectTargetType_ensures) fun _ => ?_
  refine Ensures.ite (fun _ => ?_) fun _ => Ensures.pure trivial
  refine Ensures.bind (typeNamed_ensures row.tableName) fun owner _ => ?_
  refine Ensures.bind (Ensures.lift fun _ _ => trivial) fun resolved _ => ?_
  cases resolved with
  | scalar internalType => exact rejectStep_ensures _ path
  | container kind targetType => exact Ensures.pure trivial

theorem checkEdges_ensures (limits : RecursiveMetadataLimits) :
    Ensures I (checkEdges path limits) fun _ => True := by
  rw [checkEdges]
  exact Ensures.bind Ensures.get fun s _ => (requireStep_ensures _ _ _).mono fun _ _ => trivial

theorem parameterReference_ensures (limits : RecursiveMetadataLimits) :
    Ensures (RootsKnown nodes) (parameterReference nodes indirectRows row path limits)
      (FitsClass nodes row.parameterClass) := by
  rw [parameterReference]
  refine Ensures.ite (fun hexception => Ensures.pure hexception) fun hexception => ?_
  refine Ensures.ite (fun _ => ?_) fun _ => ?_
  · refine Ensures.bind containerType_ensures fun targetType _ => ?_
    refine Ensures.bind (typeNamed_ensures targetType) fun target htarget => ?_
    refine Ensures.bind (requireStep_ensures _ _ _) fun _ hkind => ?_
    refine Ensures.bind (requireStep_ensures _ _ _) fun _ _ => ?_
    refine Ensures.bind addEdge_ensures fun _ _ => ?_
    refine Ensures.bind (checkEdges_ensures limits) fun _ _ => ?_
    refine Ensures.bind (addRoot_ensures (name_mem_of_byName htarget)) fun _ _ => ?_
    refine Ensures.pure ⟨hexception, fun htables => if_pos (.inl htables), target, htarget, ?_⟩
    split
    · exact nofun
    · rename_i htable
      exact fun _ => hkind.resolve_left htable
  · refine Ensures.ite (fun htables => ?_) fun htables => ?_
    · refine Ensures.bind (checkScalarType_ensures false) fun _ _ => ?_
      refine Ensures.bind addEdge_ensures fun _ _ => ?_
      exact Ensures.bind (checkEdges_ensures limits) fun _ _ => Ensures.pure htables
    · refine Ensures.bind (checkScalarType_ensures true) fun _ _ => ?_
      exact Ensures.bind (checkEdges_ensures limits) fun _ _ => Ensures.pure ⟨hexception, htables⟩

end Steps

section Parameters
variable {limits : RecursiveMetadataLimits}

/-- A parameter is made of its row. -/
def OfRow (nodes : List ProvisionalNode) (row : ParameterRow) (parameter : ProvisionalParameter) :
    Prop :=
  parameter.functionName = row.functionName ∧
    FitsClass nodes parameter.parameterClass parameter.reference

theorem provisionalParameter_ensures :
    Ensures (RootsKnown nodes) (provisionalParameter nodes indirectRows row path limits)
      (OfRow nodes row) := by
  rw [provisionalParameter]
  refine Ensures.bind Ensures.get fun s hs => ?_
  refine Ensures.bind (requireStep_ensures _ _ _) fun _ _ => ?_
  refine Ensures.bind (Ensures.set hs) fun _ _ => ?_
  exact Ensures.bind (parameterReference_ensures limits) fun reference hreference =>
    Ensures.pure ⟨rfl, hreference⟩

theorem parameterRows_ensures (index : Nat) (rows : List ParameterRow) :
    Ensures (RootsKnown nodes) (parameterRows nodes indirectRows limits index rows)
      (List.Forall₂ (OfRow nodes) rows) := by
  induction rows generalizing index with
  | nil => exact Ensures.pure .nil
  | cons row rows ih =>
    rw [parameterRows]
    refine Ensures.bind provisionalParameter_ensures fun parameter hparameter => ?_
    exact Ensures.bind (ih (index + 1)) fun parameters hparameters =>
      Ensures.pure (.cons hparameter hparameters)

theorem provisionalParameters_spec {rows : List ParameterRow} {parameters : ProvisionalParameters}
    (h : provisionalParameters nodes indirectRows limits rows = .ok parameters) :
    List.Forall₂ (OfRow nodes) rows parameters.values ∧
      ∀ name ∈ parameters.rootTypes, name ∈ nodes.map MetadataNode.name := by
  simp only [provisionalParameters, bind_eq_ok] at h
  obtain ⟨_, -, ⟨values, s⟩, hrun, _, -, h⟩ := h
  obtain rfl := Except.ok.inj h
  obtain ⟨hroots, hvalues⟩ := parameterRows_ensures 0 rows _ values s (by exact nofun) hrun
  exact ⟨hvalues, hroots⟩

end Parameters
end OpenRfc.MetadataGraph
