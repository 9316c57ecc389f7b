import OpenRfc.Foundation.Depth
import OpenRfc.Xrfc.RecursiveValidation

/-!
When the types behind a node can be written: every node which can be reached is well formed, and no
chain of references is longer than the depth allows. A walk down every path decides just that.
-/

namespace OpenRfc.Xrfc
open Fallible Relation

section Fields

def RecursiveMetadataField.isContainer (field : RecursiveMetadataField) : Bool :=
  match field.reference with
  | .scalar _ => false
  | .container _ _ _ => true

/-- The node behind the reference of a field. -/
def RecursiveMetadataGraph.follow (graph : RecursiveMetadataGraph)
    (field : RecursiveMetadataField) : Option RecursiveMetadataTypeNode :=
  match field.reference with
  | .scalar _ => none
  | .container kind targetType cyclic => (targetNode graph kind targetType cyclic "").toOption

/-- A field which fits the kind of its node, and whose type can be written. -/
structure RecursiveMetadataField.Shaped (field : RecursiveMetadataField)
    (node : RecursiveMetadataTypeNode) : Prop where
  tag : field.name.isWellFormed = true
  scalar : ∀ internalType, field.reference = .scalar internalType →
    internalType = field.internalType ∧ isSupportedScalarType field.internalType = true ∧
      (isCharacterType field.internalType = true → field.ucLength % 2 = 0)
  container : ∀ kind targetType cyclic, field.reference = .container kind targetType cyclic →
    node.kind ≠ .scalar ∧
      (kind = .structured →
        field.internalType = .flatStructure ∨ field.internalType = .deepStructure) ∧
      (kind = .table → field.internalType = .table)

/-- A node whose fields fit its kind, have names of their own, and refer to nodes which exist, are
of the kind that is referred to, and are not marked as cyclic. -/
structure WellFormed (graph : RecursiveMetadataGraph) (node : RecursiveMetadataTypeNode) :
    Prop where
  scalar : node.kind = .scalar → node.fields.map (·.name) = [[]]
  table : node.kind = .container .table → node.fields.map (·.name) = [[]] ∨
    (node.fields ≠ [] ∧ ∀ field ∈ node.fields, field.name ≠ [])
  structured : node.kind = .container .structured → ∀ field ∈ node.fields, field.name ≠ []
  distinct : (node.fields.map (·.name)).Nodup
  shaped : ∀ field ∈ node.fields, field.Shaped node
  resolved : ∀ field ∈ node.fields, field.isContainer = true →
    ∃ target, graph.follow field = some target

/-- One type is that of a field of another. -/
def Child (graph : RecursiveMetadataGraph) (node target : RecursiveMetadataTypeNode) : Prop :=
  ∃ field ∈ node.fields, graph.follow field = some target

variable {graph : RecursiveMetadataGraph} {node target : RecursiveMetadataTypeNode}
  {field : RecursiveMetadataField} {path : String} {names : List JsString}

theorem checkDescriptor_eq_ok {u : Unit} : checkDescriptor node path = .ok u ↔
    (node.kind = .scalar → node.fields.map (·.name) = [[]]) ∧
      (node.kind = .container .table → node.fields.map (·.name) = [[]] ∨
        (node.fields ≠ [] ∧ ∀ field ∈ node.fields, field.name ≠ [])) ∧
      (node.kind = .container .structured → ∀ field ∈ node.fields, field.name ≠ []) := by
  unfold checkDescriptor
  split
  · rename_i hkind
    simp [hkind, require_eq_ok]
  · rename_i hkind
    simp [hkind, require_eq_ok]
  · rename_i hkind
    simp [hkind, require_eq_ok]

theorem checkTag_eq_ok {name : JsString} {u : Unit} :
    checkTag name = .ok u ↔ name.isWellFormed = true := by
  unfold checkTag
  split
  · rename_i hempty
    rw [hempty]
    exact iff_of_true rfl rfl
  · rename_i hne
    show (escapeRecursiveXrfcTag name >>= fun _ => .ok ()) = _ ↔ _
    simp only [escapeRecursiveXrfcTag, bind_eq_ok, require_eq_ok, exists_const,
      Values.assertUnicodeScalarText_eq_ok, and_true]
    constructor
    · rintro ⟨_, _, h, _⟩
      exact h
    · exact fun h => ⟨_, hne, h, rfl⟩

theorem checkField_eq_ok {u : Unit} : checkField node path names field = .ok u ↔
    field.name ∉ names ∧ field.Shaped node := by
  simp only [checkField, bind_eq_ok, require_eq_ok, exists_const, checkTag_eq_ok]
  refine and_congr_right fun _ => ?_
  constructor
  · rintro ⟨htag, h⟩
    split at h
    · rename_i internalType hreference
      simp only [bind_eq_ok, require_eq_ok, exists_const] at h
      refine ⟨htag, ?_, fun _ _ _ hother => ?_⟩
      · intro other hother
        obtain rfl := RecursiveMetadataReference.scalar.inj (hreference.symm.trans hother)
        refine ⟨h.1.1, h.1.2, fun hcharacter => ?_⟩
        by_contra hodd
        exact h.2 ⟨hcharacter, hodd⟩
      · rw [hreference] at hother
        cases hother
    · rename_i kind targetType cyclic hreference
      simp only [bind_eq_ok, require_eq_ok, exists_const] at h
      refine ⟨htag, fun _ hother => ?_, ?_⟩
      · rw [hreference] at hother
        cases hother
      · intro _ _ _ hother
        obtain ⟨rfl, -, -⟩ :=
          RecursiveMetadataReference.container.inj (hreference.symm.trans hother)
        obtain ⟨hkind, hstructure, htable⟩ := h
        refine ⟨hkind, fun hstructured => ?_, fun htabular => ?_⟩
        · by_contra hnone
          exact hstructure ⟨hstructured, not_or.mp hnone⟩
        · by_contra hnone
          exact htable ⟨htabular, hnone⟩
  · rintro ⟨htag, hscalar, hcontainer⟩
    refine ⟨htag, ?_⟩
    split
    · rename_i internalType hreference
      obtain ⟨hsame, hsupported, heven⟩ := hscalar _ hreference
      simp only [bind_eq_ok, require_eq_ok, exists_const]
      exact ⟨⟨hsame, hsupported⟩, fun hodd => hodd.2 (heven hodd.1)⟩
    · rename_i kind targetType cyclic hreference
      obtain ⟨hkind, hstructure, htable⟩ := hcontainer _ _ _ hreference
      simp only [bind_eq_ok, require_eq_ok, exists_const]
      refine ⟨hkind, fun hnone => ?_, fun hnone => hnone.2 (htable hnone.1)⟩
      exact (hstructure hnone.1).elim hnone.2.1 hnone.2.2

theorem targetNode_eq_ok {kind : ClassicXrfcKind} {targetType : JsString} {cyclic : Bool} :
    targetNode graph kind targetType cyclic path = .ok target ↔
      cyclic = false ∧ graph.node? targetType = some target ∧ target.kind = .container kind ∧
        target.name = targetType := by
  simp only [targetNode, bind_eq_ok, require_eq_ok, exists_const, requiredNode]
  refine and_congr_right fun _ => ?_
  split
  · rename_i hnone
    simp [hnone]
  · rename_i other hsome
    simp only [bind_eq_ok, require_eq_ok, exists_const, Except.ok.injEq, hsome, Option.some.injEq]
    constructor
    · rintro ⟨hkind, hname, rfl⟩
      exact ⟨rfl, hkind, hname⟩
    · rintro ⟨rfl, hkind, hname⟩
      exact ⟨hkind, hname, rfl⟩

/-- The path stands in the errors only. -/
theorem targetNode_eq_ok_iff_follow {kind : ClassicXrfcKind} {targetType : JsString}
    {cyclic : Bool} (hreference : field.reference = .container kind targetType cyclic) :
    targetNode graph kind targetType cyclic path = .ok target ↔
      graph.follow field = some target := by
  rw [RecursiveMetadataGraph.follow, hreference]
  dsimp only
  rw [toOption_eq_some, targetNode_eq_ok, targetNode_eq_ok]

/-- A node which the graph has under its name. -/
def Registered (graph : RecursiveMetadataGraph) (node : RecursiveMetadataTypeNode) : Prop :=
  graph.node? node.name = some node

theorem registered_of_follow (h : graph.follow field = some target) :
    Registered graph target := by
  unfold RecursiveMetadataGraph.follow at h
  split at h
  · cases h
  · obtain ⟨-, hnode, -, hname⟩ := targetNode_eq_ok.mp (toOption_eq_some.mp h)
    rw [Registered, hname]
    exact hnode

theorem isContainer_of_follow (h : graph.follow field = some target) :
    field.isContainer = true := by
  unfold RecursiveMetadataGraph.follow at h
  unfold RecursiveMetadataField.isContainer
  split at h
  · cases h
  · rfl

theorem Child.registered (h : Child graph node target) : Registered graph target := by
  obtain ⟨field, -, hfollow⟩ := h
  exact registered_of_follow hfollow

theorem Registered.of_reachable (h : Registered graph node)
    (hreach : ReflTransGen (Child graph) node target) : Registered graph target := by
  rcases ReflTransGen.cases_tail hreach with rfl | ⟨_, -, hstep⟩
  · exact h
  · exact hstep.registered

theorem Registered.eq_of_name {other : RecursiveMetadataTypeNode} (h : Registered graph node)
    (hother : Registered graph other) (hname : node.name = other.name) : node = other := by
  rw [Registered, hname] at h
  exact Option.some.inj (h.symm.trans hother)

end Fields

section Rewalk
variable {graph : RecursiveMetadataGraph} {node : RecursiveMetadataTypeNode}

/-- Every node which can be reached is well formed. -/
def AllWellFormed (graph : RecursiveMetadataGraph) (node : RecursiveMetadataTypeNode) : Prop :=
  ∀ target, ReflTransGen (Child graph) node target → WellFormed graph target

theorem allWellFormed_iff : AllWellFormed graph node ↔
    WellFormed graph node ∧ ∀ target, Child graph node target → AllWellFormed graph target := by
  constructor
  · intro h
    exact ⟨h node .refl, fun target hstep other hreach => h other (.head hstep hreach)⟩
  · rintro ⟨hnode, hchildren⟩ target hreach
    rcases ReflTransGen.cases_head hreach with rfl | ⟨child, hstep, hrest⟩
    · exact hnode
    · exact hchildren child hstep target hrest

theorem isOk_iff {ε α : Type} {x : Except ε α} : x.isOk = true ↔ ∃ a, x = .ok a := by
  cases x <;> simp [Except.isOk, Except.toBool]

theorem rewalkTarget_iff {visit : RecursiveMetadataTypeNode → Bool}
    {field : RecursiveMetadataField} : rewalkTarget graph visit field = true ↔
      (field.isContainer = true →
        ∃ target, graph.follow field = some target ∧ visit target = true) := by
  unfold rewalkTarget RecursiveMetadataField.isContainer RecursiveMetadataGraph.follow
  cases field.reference with
  | scalar internalType => simp
  | container kind targetType cyclic =>
      rcases htarget : targetNode graph kind targetType cyclic "" with e | target <;>
        simp [htarget, Except.toOption]

theorem rewalkFields_iff {visit : RecursiveMetadataTypeNode → Bool}
    {fields : List RecursiveMetadataField} {names : List JsString} :
    rewalkFields graph visit node fields names = true ↔
      (∀ field ∈ fields, field.name ∉ names) ∧ (fields.map (·.name)).Nodup ∧
        (∀ field ∈ fields, field.Shaped node) ∧
        ∀ field ∈ fields, field.isContainer = true →
          ∃ target, graph.follow field = some target ∧ visit target = true := by
  induction fields generalizing names with
  | nil => simp [rewalkFields]
  | cons field fields ih =>
      rw [rewalkFields, Bool.and_eq_true, Bool.and_eq_true, rewalkTarget_iff, ih, isOk_iff]
      simp only [checkField_eq_ok, exists_const, List.forall_mem_cons, List.map_cons,
        List.nodup_cons, List.mem_map, not_exists, not_and]
      simp only [List.mem_cons, not_or]
      constructor
      · rintro ⟨⟨⟨hname, hshaped⟩, hthis⟩, hnames, hnodup, hshapes, hrest⟩
        exact ⟨⟨hname, fun other hother => (hnames other hother).2⟩,
          ⟨fun other hother => (hnames other hother).1, hnodup⟩, ⟨hshaped, hshapes⟩,
          ⟨hthis, hrest⟩⟩
      · rintro ⟨⟨hname, hnames⟩, ⟨hfresh, hnodup⟩, ⟨hshaped, hshapes⟩, hthis, hrest⟩
        exact ⟨⟨⟨hname, hshaped⟩, hthis⟩,
          fun other hother => ⟨hfresh other hother, hnames other hother⟩, hnodup, hshapes, hrest⟩

/-- The walk down every path accepts what is well formed and not too deep. -/
theorem rewalk_iff {levels : Nat} : rewalk graph levels node = true ↔
    AllWellFormed graph node ∧ Depth.Within (Child graph) levels node := by
  induction levels generalizing node with
  | zero => exact iff_of_false Bool.false_ne_true fun h => h.2
  | succ levels ih =>
      rw [rewalk, Bool.and_eq_true, isOk_iff, rewalkFields_iff, allWellFormed_iff]
      simp only [checkDescriptor_eq_ok, exists_const, ih]
      constructor
      · rintro ⟨⟨hscalar, htable, hstructured⟩, -, hdistinct, hshaped, hvisit⟩
        refine ⟨⟨⟨hscalar, htable, hstructured, hdistinct, hshaped, ?_⟩, ?_⟩, ?_⟩
        · intro field hfield hcontainer
          obtain ⟨target, hfollow, -⟩ := hvisit field hfield hcontainer
          exact ⟨target, hfollow⟩
        · rintro target ⟨field, hfield, hfollow⟩
          obtain ⟨other, hother, hwell, -⟩ :=
            hvisit field hfield (isContainer_of_follow hfollow)
          obtain rfl := Option.some.inj (hfollow.symm.trans hother)
          exact hwell
        · rintro target ⟨field, hfield, hfollow⟩
          obtain ⟨other, hother, -, hwithin⟩ :=
            hvisit field hfield (isContainer_of_follow hfollow)
          obtain rfl := Option.some.inj (hfollow.symm.trans hother)
          exact hwithin
      · rintro ⟨⟨hwell, hchildren⟩, hwithin⟩
        refine ⟨⟨hwell.scalar, hwell.table, hwell.structured⟩, fun _ _ => List.not_mem_nil,
          hwell.distinct, hwell.shaped, ?_⟩
        intro field hfield hcontainer
        obtain ⟨target, hfollow⟩ := hwell.resolved field hfield hcontainer
        have hstep : Child graph node target := ⟨field, hfield, hfollow⟩
        exact ⟨target, hfollow, hchildren target hstep, hwithin target hstep⟩

end Rewalk
end OpenRfc.Xrfc
