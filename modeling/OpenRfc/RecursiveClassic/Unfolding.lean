import OpenRfc.RecursiveClassic.Descriptor

/-!
The tree which a type unfolds to, without any limits. A type which lies below itself has none.
-/

namespace OpenRfc.RecursiveClassic
open Fallible Xrfc
open Classic (RfcExid)

namespace RecursiveClassicXrfcDescriptor

mutual

/-- The number of nodes of a tree. -/
def nodeCount : RecursiveClassicXrfcDescriptor → Nat
  | scalar _ _ _ => 1
  | structured _ _ fields => nodeCounts fields + 1
  | table _ _ line => line.nodeCount + 1

def nodeCounts : List RecursiveClassicXrfcDescriptor → Nat
  | [] => 0
  | field :: fields => field.nodeCount + nodeCounts fields

end

mutual

/-- The number of nodes on the longest way down. -/
def height : RecursiveClassicXrfcDescriptor → Nat
  | scalar _ _ _ => 1
  | structured _ _ fields => heights fields + 1
  | table _ _ line => line.height + 1

def heights : List RecursiveClassicXrfcDescriptor → Nat
  | [] => 0
  | field :: fields => max field.height (heights fields)

end

variable (name : JsString) (descriptor : RecursiveClassicXrfcDescriptor)

@[simp] theorem nodeCount_withName : (descriptor.withName name).nodeCount = descriptor.nodeCount := by
  cases descriptor <;> rfl

@[simp] theorem height_withName : (descriptor.withName name).height = descriptor.height := by
  cases descriptor <;> rfl

theorem nodeCount_le_nodeCounts {fields : List RecursiveClassicXrfcDescriptor}
    (h : descriptor ∈ fields) : descriptor.nodeCount ≤ nodeCounts fields := by
  induction fields with
  | nil => exact absurd h List.not_mem_nil
  | cons field fields ih =>
      rw [nodeCounts]
      rcases List.mem_cons.mp h with rfl | h
      · exact Nat.le_add_right _ _
      · exact Nat.le_add_left_of_le (ih h)

theorem height_pos : 0 < descriptor.height := by
  cases descriptor <;> simp [height]

end RecursiveClassicXrfcDescriptor

section Unfold
variable (graph : RecursiveMetadataGraph)

/-- What a type unfolds to under a name. -/
abbrev TypeUnfolding := JsString → ClassicXrfcKind → JsString → Option RecursiveClassicXrfcDescriptor

def unfoldField (visit : TypeUnfolding) (field : RecursiveMetadataField) :
    Option RecursiveClassicXrfcDescriptor := do
  (assertClassicXrfcXmlName field.name "").toOption
  match field.reference with
  | .scalar referenceType => (checkScalar field referenceType "").toOption
  | .container kind targetType cyclic => do
    (checkReference field kind cyclic "").toOption
    visit targetType kind field.name

def unfoldFields (visit : TypeUnfolding) :
    List RecursiveMetadataField → Nat → List JsString → Option (List RecursiveClassicXrfcDescriptor)
  | [], _, _ => some []
  | field :: fields, index, names => do
    (checkField field index names "" "").toOption
    let descriptor ← unfoldField visit field
    let descriptors ← unfoldFields visit fields (index + 1) (field.name :: names)
    some (descriptor :: descriptors)

def unfoldNode (visit : TypeUnfolding) : TypeUnfolding := fun typeName kind name => do
  let node ← (requiredNode graph typeName kind "").toOption
  match kind with
  | .structured => do
    let fields ← unfoldFields visit node.fields 0 []
    some (.structured name node.name fields)
  | .table => do
    let targetType ← (lineType node "").toOption
    let line ← visit targetType .structured []
    some (.table name node.name line)

/-- A tree of at most so many types on a way down. -/
def unfolding : Nat → TypeUnfolding
  | 0 => fun _ _ _ => none
  | levels + 1 => unfoldNode graph (unfolding levels)

/-- A type unfolds to a tree. -/
def Unfolds (typeName : JsString) (kind : ClassicXrfcKind) (name : JsString)
    (descriptor : RecursiveClassicXrfcDescriptor) : Prop :=
  ∃ levels, unfolding graph levels typeName kind name = some descriptor

end Unfold

section Checks
variable (field : RecursiveMetadataField) (path fieldPath : String)

theorem toOption_assertName (label : String) (name : JsString) :
    (assertClassicXrfcXmlName name label).toOption = (assertClassicXrfcXmlName name "").toOption := by
  simp only [assertClassicXrfcXmlName, toOption_require]

theorem toOption_checkScalar (referenceType : RfcExid) :
    (checkScalar field referenceType path).toOption =
      (checkScalar field referenceType "").toOption := by
  simp only [checkScalar, toOption_bind, toOption_require]
  cases supportedScalar? field.internalType with
  | none => rfl
  | some internalType => simp only [toOption_bind, toOption_require]

theorem eq_scalar_of_checkScalar {referenceType : RfcExid}
    {descriptor : RecursiveClassicXrfcDescriptor}
    (h : checkScalar field referenceType path = .ok descriptor) :
    ∃ internalType, descriptor = .scalar field.name internalType field.ucLength := by
  simp only [checkScalar, bind_eq_ok, require_eq_ok, exists_const] at h
  obtain ⟨-, h⟩ := h
  cases hsupported : supportedScalar? field.internalType with
  | none =>
      rw [hsupported] at h
      cases h
  | some internalType =>
      simp only [hsupported, bind_eq_ok, require_eq_ok, exists_const, Except.ok.injEq] at h
      exact ⟨internalType, h.2.2.2.symm⟩

theorem toOption_checkReference (kind : ClassicXrfcKind) (cyclic : Bool) :
    (checkReference field kind cyclic path).toOption =
      (checkReference field kind cyclic "").toOption := by
  simp only [checkReference, toOption_bind, toOption_require]

theorem toOption_checkField (index : Nat) (names : List JsString) :
    (checkField field index names path fieldPath).toOption =
      (checkField field index names "" "").toOption := by
  simp only [checkField, toOption_bind, toOption_require]

theorem toOption_requiredNode (graph : RecursiveMetadataGraph) (typeName : JsString)
    (kind : ClassicXrfcKind) :
    (requiredNode graph typeName kind path).toOption =
      (requiredNode graph typeName kind "").toOption := by
  rw [requiredNode, requiredNode]
  cases graph.node? typeName with
  | none => rfl
  | some node => simp only [toOption_bind, toOption_require]

theorem toOption_lineType (node : RecursiveMetadataTypeNode) :
    (lineType node path).toOption = (lineType node "").toOption := by
  rw [lineType, lineType]
  split
  · split <;> rfl
  · rfl

end Checks

section Trees
variable {graph : RecursiveMetadataGraph} {typeName : JsString} {kind : ClassicXrfcKind}
  {name : JsString} {descriptor : RecursiveClassicXrfcDescriptor}

/-- What one visit finds, the other finds as well. -/
def Extends (visit visit' : TypeUnfolding) : Prop :=
  ∀ typeName kind name descriptor, visit typeName kind name = some descriptor →
    visit' typeName kind name = some descriptor

variable {visit visit' : TypeUnfolding}

theorem unfoldField_extends (h : Extends visit visit') {field : RecursiveMetadataField}
    (hfield : unfoldField visit field = some descriptor) :
    unfoldField visit' field = some descriptor := by
  simp only [unfoldField, Option.bind_eq_bind, Option.bind_eq_some_iff] at hfield ⊢
  obtain ⟨u, hname, hfield⟩ := hfield
  refine ⟨u, hname, ?_⟩
  cases hreference : field.reference with
  | scalar referenceType => rwa [hreference] at hfield
  | container kind targetType cyclic =>
      rw [hreference] at hfield
      simp only [Option.bind_eq_some_iff] at hfield ⊢
      obtain ⟨u, hchecked, hvisit⟩ := hfield
      exact ⟨u, hchecked, h _ _ _ _ hvisit⟩

theorem unfoldFields_extends (h : Extends visit visit') {fields : List RecursiveMetadataField}
    {index : Nat} {names : List JsString} {descriptors : List RecursiveClassicXrfcDescriptor}
    (hfields : unfoldFields visit fields index names = some descriptors) :
    unfoldFields visit' fields index names = some descriptors := by
  induction fields generalizing index names descriptors with
  | nil => exact hfields
  | cons field fields ih =>
      simp only [unfoldFields, Option.bind_eq_bind, Option.bind_eq_some_iff] at hfields ⊢
      obtain ⟨u, hchecked, first, hfirst, rest, hrest, heq⟩ := hfields
      exact ⟨u, hchecked, first, unfoldField_extends h hfirst, rest, ih hrest, heq⟩

theorem unfoldNode_extends (h : Extends visit visit') :
    Extends (unfoldNode graph visit) (unfoldNode graph visit') := by
  intro typeName kind name descriptor hnode
  simp only [unfoldNode, Option.bind_eq_bind, Option.bind_eq_some_iff] at hnode ⊢
  obtain ⟨node, hrequired, hnode⟩ := hnode
  refine ⟨node, hrequired, ?_⟩
  cases kind with
  | structured =>
      obtain ⟨fields, hfields, heq⟩ := Option.bind_eq_some_iff.mp hnode
      exact Option.bind_eq_some_iff.mpr ⟨fields, unfoldFields_extends h hfields, heq⟩
  | table =>
      simp only [Option.bind_eq_some_iff] at hnode ⊢
      obtain ⟨targetType, hline, line, hvisit, heq⟩ := hnode
      exact ⟨targetType, hline, line, h _ _ _ _ hvisit, heq⟩

theorem unfolding_succ (levels : Nat) :
    Extends (unfolding graph levels) (unfolding graph (levels + 1)) := by
  induction levels with
  | zero => exact nofun
  | succ levels ih => exact unfoldNode_extends ih

theorem unfolding_add (levels more : Nat) :
    Extends (unfolding graph levels) (unfolding graph (levels + more)) := by
  induction more with
  | zero => exact fun _ _ _ _ h => h
  | succ more ih => exact fun _ _ _ _ h => unfolding_succ _ _ _ _ _ (ih _ _ _ _ h)

/-- A type unfolds in one way. -/
theorem Unfolds.unique {descriptor' : RecursiveClassicXrfcDescriptor}
    (h : Unfolds graph typeName kind name descriptor)
    (h' : Unfolds graph typeName kind name descriptor') : descriptor = descriptor' := by
  obtain ⟨levels, h⟩ := h
  obtain ⟨levels', h'⟩ := h'
  have hmore := unfolding_add levels levels' _ _ _ _ h
  have hmore' := unfolding_add levels' levels _ _ _ _ h'
  rw [Nat.add_comm levels' levels, hmore] at hmore'
  exact Option.some.inj hmore'

/-- The name does not matter for what lies below. -/
theorem unfolding_withName (levels : Nat) (typeName : JsString) (kind : ClassicXrfcKind)
    (name name' : JsString) :
    unfolding graph levels typeName kind name' =
      (unfolding graph levels typeName kind name).map (·.withName name') := by
  cases levels with
  | zero => rfl
  | succ levels =>
      simp only [unfolding, unfoldNode, Option.bind_eq_bind, Option.map_bind]
      congr 1
      funext node
      cases kind with
      | structured => simp [RecursiveClassicXrfcDescriptor.withName]
      | table => simp [RecursiveClassicXrfcDescriptor.withName]

theorem Unfolds.withName (h : Unfolds graph typeName kind name descriptor) (name' : JsString) :
    Unfolds graph typeName kind name' (descriptor.withName name') := by
  obtain ⟨levels, h⟩ := h
  refine ⟨levels, ?_⟩
  rw [unfolding_withName levels typeName kind name name', h]
  rfl

/-- The node of a type which unfolds. -/
theorem Unfolds.exists_node (h : Unfolds graph typeName kind name descriptor) :
    ∃ node, requiredNode graph typeName kind "" = .ok node := by
  obtain ⟨levels, h⟩ := h
  cases levels with
  | zero => cases h
  | succ levels =>
      obtain ⟨node, hnode, -⟩ := Option.bind_eq_some_iff.mp h
      exact ⟨node, toOption_eq_some.mp hnode⟩

theorem requiredNode_eq_ok {path : String} {node : RecursiveMetadataTypeNode} :
    requiredNode graph typeName kind path = .ok node ↔
      graph.node? typeName = some node ∧ node.kind = .container kind ∧ node.name = typeName := by
  rw [requiredNode]
  cases graph.node? typeName with
  | none => exact ⟨nofun, nofun⟩
  | some found =>
      simp only [bind_eq_ok, require_eq_ok, exists_const, Except.ok.injEq, Option.some.injEq]
      constructor
      · rintro ⟨hfound, rfl⟩
        exact ⟨rfl, hfound⟩
      · rintro ⟨rfl, hfound⟩
        exact ⟨hfound, rfl⟩

/-- A type has one kind, and one tree but for its name. -/
theorem Unfolds.nodeCount_eq {kind' : ClassicXrfcKind} {name' : JsString}
    {descriptor' : RecursiveClassicXrfcDescriptor}
    (h : Unfolds graph typeName kind name descriptor)
    (h' : Unfolds graph typeName kind' name' descriptor') :
    descriptor'.nodeCount = descriptor.nodeCount := by
  obtain ⟨node, hnode⟩ := h.exists_node
  obtain ⟨node', hnode'⟩ := h'.exists_node
  obtain ⟨hfound, hkind, -⟩ := requiredNode_eq_ok.mp hnode
  obtain ⟨hfound', hkind', -⟩ := requiredNode_eq_ok.mp hnode'
  obtain rfl : node = node' := Option.some.inj (hfound.symm.trans hfound')
  obtain rfl : kind = kind' := RecursiveMetadataKind.container.inj (hkind.symm.trans hkind')
  rw [← (h.withName name').unique h', RecursiveClassicXrfcDescriptor.nodeCount_withName]

/-- A type which occurs in the tree of another one, if that has a tree. -/
def Below (graph : RecursiveMetadataGraph) (typeName ancestor : JsString) : Prop :=
  ∀ kind name descriptor, Unfolds graph ancestor kind name descriptor →
    ∃ kind' name' descriptor', Unfolds graph typeName kind' name' descriptor' ∧
      descriptor'.nodeCount < descriptor.nodeCount

theorem Below.trans {lower middle upper : JsString} (h : Below graph lower middle)
    (h' : Below graph middle upper) : Below graph lower upper := by
  intro kind name descriptor hupper
  obtain ⟨kind₁, name₁, descriptor₁, hmiddle, hlt₁⟩ := h' kind name descriptor hupper
  obtain ⟨kind₂, name₂, descriptor₂, hlower, hlt₂⟩ := h kind₁ name₁ descriptor₁ hmiddle
  exact ⟨kind₂, name₂, descriptor₂, hlower, hlt₂.trans hlt₁⟩

/-- A type which unfolds is not below itself. -/
theorem Unfolds.not_below (h : Unfolds graph typeName kind name descriptor) :
    ¬Below graph typeName typeName := by
  intro hbelow
  obtain ⟨kind', name', descriptor', h', hlt⟩ := hbelow kind name descriptor h
  exact absurd (h.nodeCount_eq h') hlt.ne

/-- The trees of the fields are parts of the tree. -/
theorem mem_of_unfoldFields {fields : List RecursiveMetadataField} {index : Nat}
    {names : List JsString} {descriptors : List RecursiveClassicXrfcDescriptor}
    (h : unfoldFields visit fields index names = some descriptors) {field : RecursiveMetadataField}
    (hfield : field ∈ fields) :
    ∃ descriptor ∈ descriptors, unfoldField visit field = some descriptor := by
  induction fields generalizing index names descriptors with
  | nil => exact absurd hfield List.not_mem_nil
  | cons next fields ih =>
      simp only [unfoldFields, Option.bind_eq_bind, Option.bind_eq_some_iff] at h
      obtain ⟨_, -, first, hfirst, rest, hrest, heq⟩ := h
      obtain rfl := Option.some.inj heq
      rcases List.mem_cons.mp hfield with rfl | hfield
      · exact ⟨first, List.mem_cons_self, hfirst⟩
      · obtain ⟨descriptor, hmem, hunfold⟩ := ih hrest hfield
        exact ⟨descriptor, List.mem_cons_of_mem _ hmem, hunfold⟩

/-- The references which a node of a type holds. -/
def Refers (graph : RecursiveMetadataGraph) (typeName targetType : JsString) : Prop :=
  ∃ node, graph.node? typeName = some node ∧ ∃ field ∈ node.fields, ∃ kind cyclic,
    field.reference = .container kind targetType cyclic

theorem refers_of_lineType {node : RecursiveMetadataTypeNode} {path : String} {targetType : JsString}
    (hfound : graph.node? typeName = some node) (h : lineType node path = .ok targetType) :
    Refers graph typeName targetType := by
  rw [lineType] at h
  split at h
  · rename_i line hline
    split at h
    · rename_i hreference
      obtain rfl := Except.ok.inj h
      exact ⟨node, hfound, line, by simp [hline], _, _, hreference⟩
    · cases h
  · cases h

theorem below_of_refers {targetType : JsString} (h : Refers graph typeName targetType) :
    Below graph targetType typeName := by
  obtain ⟨node, hfound, field, hfield, targetKind, cyclic, hreference⟩ := h
  rintro kind name descriptor ⟨levels, h⟩
  cases levels with
  | zero => cases h
  | succ levels =>
      simp only [unfolding, unfoldNode, Option.bind_eq_bind, Option.bind_eq_some_iff] at h
      obtain ⟨node', hnode, h⟩ := h
      obtain ⟨hfound', -, -⟩ := requiredNode_eq_ok.mp (toOption_eq_some.mp hnode)
      obtain rfl : node = node' := Option.some.inj (hfound.symm.trans hfound')
      cases kind with
      | structured =>
          obtain ⟨descriptors, hfields, heq⟩ := Option.bind_eq_some_iff.mp h
          obtain rfl := Option.some.inj heq
          obtain ⟨child, hmem, hchild⟩ := mem_of_unfoldFields hfields hfield
          simp only [unfoldField, hreference, Option.bind_eq_bind, Option.bind_eq_some_iff] at hchild
          obtain ⟨_, -, _, -, hvisit⟩ := hchild
          exact ⟨targetKind, field.name, child, ⟨levels, hvisit⟩,
            Nat.lt_succ_of_le (child.nodeCount_le_nodeCounts hmem)⟩
      | table =>
          simp only [Option.bind_eq_some_iff] at h
          obtain ⟨lineTarget, hline, line, hvisit, heq⟩ := h
          obtain rfl := Option.some.inj heq
          refine ⟨.structured, [], line, ⟨levels, ?_⟩, Nat.lt_succ_self _⟩
          rw [toOption_eq_some, lineType] at hline
          split at hline
          · rename_i only honly
            obtain rfl : field = only := by
              rw [honly] at hfield
              exact List.mem_singleton.mp hfield
            split at hline
            · rename_i hreference'
              rw [hreference] at hreference'
              obtain ⟨-, rfl, -⟩ := RecursiveMetadataReference.container.inj hreference'
              obtain rfl := Except.ok.inj hline
              exact hvisit
            · cases hline
          · cases hline

end Trees

section Parts
variable (graph : RecursiveMetadataGraph)

def FieldUnfolds (field : RecursiveMetadataField) (descriptor : RecursiveClassicXrfcDescriptor) :
    Prop :=
  ∃ levels, unfoldField (unfolding graph levels) field = some descriptor

def FieldsUnfold (fields : List RecursiveMetadataField) (index : Nat) (names : List JsString)
    (descriptors : List RecursiveClassicXrfcDescriptor) : Prop :=
  ∃ levels, unfoldFields (unfolding graph levels) fields index names = some descriptors

variable {graph} {field : RecursiveMetadataField} {fields : List RecursiveMetadataField}
  {typeName name : JsString} {descriptor : RecursiveClassicXrfcDescriptor} {index : Nat}
  {names : List JsString} {descriptors : List RecursiveClassicXrfcDescriptor}
  (path fieldPath : String)

theorem exists_unit {p : Unit → Prop} : (∃ u, p u) ↔ p () := ⟨fun ⟨_, h⟩ => h, fun h => ⟨(), h⟩⟩

theorem fieldUnfolds_scalar {referenceType : RfcExid} (h : field.reference = .scalar referenceType) :
    FieldUnfolds graph field descriptor ↔
      assertClassicXrfcXmlName field.name s!"{path} field name" = .ok () ∧
        checkScalar field referenceType path = .ok descriptor := by
  rw [eq_ok_of_toOption (toOption_assertName _ _), eq_ok_of_toOption (toOption_checkScalar _ _ _)]
  simp only [FieldUnfolds, unfoldField, h, Option.bind_eq_bind, Option.bind_eq_some_iff,
    toOption_eq_some, exists_unit, exists_const]

theorem fieldUnfolds_container {kind : ClassicXrfcKind} {targetType : JsString} {cyclic : Bool}
    (h : field.reference = .container kind targetType cyclic) :
    FieldUnfolds graph field descriptor ↔
      assertClassicXrfcXmlName field.name s!"{path} field name" = .ok () ∧
        checkReference field kind cyclic path = .ok () ∧
          Unfolds graph targetType kind field.name descriptor := by
  rw [eq_ok_of_toOption (toOption_assertName _ _), eq_ok_of_toOption (toOption_checkReference _ _ _ _)]
  simp only [FieldUnfolds, unfoldField, h, Option.bind_eq_bind, Option.bind_eq_some_iff,
    toOption_eq_some, exists_unit, exists_and_left, Unfolds]

theorem FieldUnfolds.unique {descriptor' : RecursiveClassicXrfcDescriptor}
    (h : FieldUnfolds graph field descriptor) (h' : FieldUnfolds graph field descriptor') :
    descriptor = descriptor' := by
  obtain ⟨levels, h⟩ := h
  obtain ⟨levels', h'⟩ := h'
  have hmore := unfoldField_extends (unfolding_add levels levels') h
  have hmore' := unfoldField_extends (unfolding_add levels' levels) h'
  rw [Nat.add_comm levels' levels, hmore] at hmore'
  exact Option.some.inj hmore'

theorem fieldsUnfold_nil : FieldsUnfold graph [] index names descriptors ↔ [] = descriptors := by
  simp only [FieldsUnfold, unfoldFields, exists_const, Option.some.injEq]

theorem fieldsUnfold_cons :
    FieldsUnfold graph (field :: fields) index names descriptors ↔
      checkField field index names path fieldPath = .ok () ∧
        ∃ first, FieldUnfolds graph field first ∧
          ∃ rest, FieldsUnfold graph fields (index + 1) (field.name :: names) rest ∧
            first :: rest = descriptors := by
  rw [eq_ok_of_toOption (toOption_checkField _ _ _ _ _)]
  simp only [FieldsUnfold, FieldUnfolds, unfoldFields, Option.bind_eq_bind, Option.bind_eq_some_iff,
    toOption_eq_some, exists_unit, Option.some.injEq]
  constructor
  · rintro ⟨levels, hchecked, first, hfirst, rest, hrest, heq⟩
    exact ⟨hchecked, first, ⟨levels, hfirst⟩, rest, ⟨levels, hrest⟩, heq⟩
  · rintro ⟨hchecked, first, ⟨levels, hfirst⟩, rest, ⟨levels', hrest⟩, heq⟩
    refine ⟨levels + levels', hchecked, first, unfoldField_extends (unfolding_add _ _) hfirst, rest,
      ?_, heq⟩
    rw [Nat.add_comm]
    exact unfoldFields_extends (unfolding_add _ _) hrest

/-- A tree which is found with some levels. -/
theorem unfolds_iff_unfoldNode {kind : ClassicXrfcKind} :
    Unfolds graph typeName kind name descriptor ↔
      ∃ levels, unfoldNode graph (unfolding graph levels) typeName kind name = some descriptor := by
  constructor
  · rintro ⟨levels, h⟩
    exact ⟨levels, unfolding_succ _ _ _ _ _ h⟩
  · rintro ⟨levels, h⟩
    exact ⟨levels + 1, h⟩

theorem unfolds_structured :
    Unfolds graph typeName .structured name descriptor ↔
      ∃ node, requiredNode graph typeName .structured path = .ok node ∧
        ∃ fields, FieldsUnfold graph node.fields 0 [] fields ∧
          .structured name node.name fields = descriptor := by
  simp only [unfolds_iff_unfoldNode, eq_ok_of_toOption (toOption_requiredNode path _ _ _),
    unfoldNode, Option.bind_eq_bind, Option.bind_eq_some_iff, toOption_eq_some, Option.some.injEq,
    FieldsUnfold]
  constructor
  · rintro ⟨levels, node, hnode, fields, hfields, heq⟩
    exact ⟨node, hnode, fields, ⟨levels, hfields⟩, heq⟩
  · rintro ⟨node, hnode, fields, ⟨levels, hfields⟩, heq⟩
    exact ⟨levels, node, hnode, fields, hfields, heq⟩

theorem unfolds_table :
    Unfolds graph typeName .table name descriptor ↔
      ∃ node, requiredNode graph typeName .table path = .ok node ∧
        ∃ targetType, lineType node path = .ok targetType ∧
          ∃ line, Unfolds graph targetType .structured [] line ∧
            .table name node.name line = descriptor := by
  rw [unfolds_iff_unfoldNode]
  simp only [eq_ok_of_toOption (toOption_requiredNode path _ _ _),
    eq_ok_of_toOption (toOption_lineType path _), unfoldNode, Option.bind_eq_bind,
    Option.bind_eq_some_iff, toOption_eq_some, Option.some.injEq, Unfolds]
  constructor
  · rintro ⟨levels, node, hnode, targetType, hline, line, hvisit, heq⟩
    exact ⟨node, hnode, targetType, hline, line, ⟨levels, hvisit⟩, heq⟩
  · rintro ⟨node, hnode, targetType, hline, line, ⟨levels, hvisit⟩, heq⟩
    exact ⟨levels, node, hnode, targetType, hline, line, hvisit, heq⟩

end Parts
end OpenRfc.RecursiveClassic
