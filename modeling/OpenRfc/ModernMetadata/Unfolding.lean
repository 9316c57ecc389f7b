import OpenRfc.Foundation.Unfolding
import OpenRfc.ModernMetadata.Projection

/-!
The unfolding of a graph below the parameters, and the trees which describe it.
-/

namespace OpenRfc.ModernMetadata
open MetadataGraph Unfolding
open Classic (RfcExid)
open Xrfc (RecursiveMetadataReference)

/-- What a descriptor describes. -/
inductive Descriptor
  | parameter (parameter : RecursiveMetadataParameter)
  | scalarLine (parameter : RecursiveMetadataParameter) (internalType : RfcExid)
  | field (field : RecursiveMetadataField)

section Spec
variable (graph : RecursiveMetadataGraph)

def structureFields (targetType : JsString) : List RecursiveMetadataField :=
  (graph.nodes.lookup targetType).elim [] fun node => orderedFields node.fields

/-- The fields of the line of a table: those of its structure, or the line itself. -/
def lineFields (node : RecursiveMetadataTypeNode) : List RecursiveMetadataField :=
  if node.kind = .container .structured then orderedFields node.fields
  else node.fields.flatMap fun line =>
    match line.reference with
    | .container .structured targetType _ => structureFields graph targetType
    | _ => [line]

def lineLength (node : RecursiveMetadataTypeNode) : Nat :=
  if node.kind = .container .structured then node.nucLength
  else node.fields.head?.elim 0 fun line =>
    match line.reference with
    | .container .structured targetType _ =>
      (graph.nodes.lookup targetType).elim 0 (·.nucLength)
    | _ => line.nucLength

def referenceFields : RecursiveMetadataReference → List RecursiveMetadataField
  | .scalar _ => []
  | .container .structured targetType _ => structureFields graph targetType
  | .container .table targetType _ => (graph.nodes.lookup targetType).elim [] (lineFields graph)

def below : Descriptor → List Descriptor
  | .parameter parameter =>
    match parameter.reference with
    | .type reference => (referenceFields graph reference).map .field
    | .scalarLine internalType => [.scalarLine parameter internalType]
    | .exception => []
  | .scalarLine _ _ => []
  | .field field => (referenceFields graph field.reference).map .field

/-- The descriptors at the top. -/
def roots : List Descriptor := (orderedParameters graph).map fun entry => .parameter entry.1

def IsUnfolding (forest : List (Unfolding Descriptor)) : Prop :=
  Unfolds (below graph) (roots graph) forest

end Spec

section Describe
variable (graph : RecursiveMetadataGraph)

def scalar? (name : JsString) (internalType : RfcExid) (length decimals : Nat) :
    Option (Placement → ModernMetadataParameter) :=
  (rfcType? internalType).bind fun nwrfcType => (abapType? internalType).map fun abapType =>
    .descriptor name nwrfcType abapType (format internalType) length decimals none .none []

/-- The length of a scalar in a non-Unicode system, which an odd number of bytes does not have. -/
def nucLength? (internalType : RfcExid) (internalLength : Nat) : Option Nat :=
  if hasCharacterWidth internalType then
    if internalLength % 2 = 1 then none else some (internalLength / 2)
  else some internalLength

def describe : Descriptor → List ModernMetadataParameter → Option ModernMetadataParameter
  | .field field, nested =>
    match field.reference with
    | .scalar _ =>
      (scalar? field.name field.internalType field.nucLength field.decimals).map
        (· (.field field.nucOffset))
    | .container .structured targetType _ =>
      some (.descriptor field.name "RFCTYPE_STRUCTURE" "u" "" field.nucLength field.decimals
        (some targetType) .fields nested (.field field.nucOffset))
    | .container .table targetType _ =>
      some (.descriptor field.name "RFCTYPE_TABLE" "h" "" field.nucLength field.decimals
        (some targetType) .tableFields nested (.field field.nucOffset))
  | .scalarLine parameter internalType, _ =>
    ((nucLength? internalType parameter.internalLength).bind fun length =>
      scalar? [] internalType length parameter.decimals).map (· (.field 0))
  | .parameter parameter, nested =>
    match parameter.reference with
    | .type (.scalar internalType) =>
      ((nucLength? internalType parameter.internalLength).bind fun length =>
        scalar? parameter.name internalType length parameter.decimals).map (· (placement parameter))
    | .type (.container .structured targetType _) =>
      some (.descriptor parameter.name "RFCTYPE_STRUCTURE" "u" ""
        ((graph.nodes.lookup targetType).elim 0 (·.nucLength)) parameter.decimals (some targetType)
        .fields nested (placement parameter))
    | .type (.container .table targetType _) =>
      some (tableParameter parameter targetType
        ⟨(graph.nodes.lookup targetType).elim 0 (lineLength graph), nested⟩)
    | .scalarLine internalType =>
      (nucLength? internalType parameter.internalLength).map fun length =>
        tableParameter parameter parameter.associatedType ⟨length, nested⟩
    | .exception => none

/-- A type which has a letter here, and a length for the parameters of it. -/
def IsSupported (internalType : RfcExid) (internalLength : Nat) : Prop :=
  (rfcType? internalType).isSome ∧ (hasCharacterWidth internalType → internalLength % 2 = 0)

/-- What has a description: all but scalars of other types, or of lengths which are odd. -/
def IsDescribable : Descriptor → Prop
  | .field field =>
    match field.reference with
    | .scalar _ => (rfcType? field.internalType).isSome
    | .container _ _ _ => True
  | .scalarLine parameter internalType => IsSupported internalType parameter.internalLength
  | .parameter parameter =>
    match parameter.reference with
    | .type (.scalar internalType) => IsSupported internalType parameter.internalLength
    | .type (.container _ _ _) => True
    | .scalarLine internalType => hasCharacterWidth internalType → parameter.internalLength % 2 = 0
    | .exception => False

theorem isSome_abapType_iff (internalType : RfcExid) :
    (abapType? internalType).isSome = (rfcType? internalType).isSome := by
  cases internalType with
  | temporal exid => cases exid <;> rfl
  | _ => rfl

theorem isSome_scalar_iff (name : JsString) (internalType : RfcExid) (length decimals : Nat) :
    (scalar? name internalType length decimals).isSome = (rfcType? internalType).isSome := by
  rw [scalar?]
  cases hrfc : rfcType? internalType with
  | none => rfl
  | some nwrfcType =>
    rw [Option.bind_some, Option.isSome_map, isSome_abapType_iff, hrfc]

theorem isSome_nucLength_iff (internalType : RfcExid) (internalLength : Nat) :
    (nucLength? internalType internalLength).isSome ↔
      (hasCharacterWidth internalType → internalLength % 2 = 0) := by
  rw [nucLength?]
  split
  · rename_i hwidth
    split
    · rename_i hodd
      simp [hwidth, hodd]
    · rename_i hodd
      simp [hwidth]
      omega
  · rename_i hwidth
    simp [hwidth]

theorem isSome_measured_iff (name : JsString) (internalType : RfcExid) (internalLength decimals : Nat) :
    ((nucLength? internalType internalLength).bind fun length =>
      scalar? name internalType length decimals).isSome ↔ IsSupported internalType internalLength := by
  rw [IsSupported, ← isSome_nucLength_iff]
  cases nucLength? internalType internalLength with
  | none => simp
  | some length => simp [isSome_scalar_iff]

theorem isSome_describe_iff (descriptor : Descriptor) (nested : List ModernMetadataParameter) :
    (describe graph descriptor nested).isSome ↔ IsDescribable descriptor := by
  cases descriptor with
  | scalarLine parameter internalType =>
    rw [describe, Option.isSome_map, isSome_measured_iff]
    rfl
  | field field =>
    rw [describe, IsDescribable]
    cases field.reference with
    | scalar internalType => simp [isSome_scalar_iff]
    | container kind targetType cyclic => cases kind <;> simp
  | parameter parameter =>
    rw [describe, IsDescribable]
    cases parameter.reference with
    | exception => simp
    | scalarLine internalType =>
      dsimp only
      rw [Option.isSome_map, isSome_nucLength_iff]
    | type reference =>
      cases reference with
      | scalar internalType =>
        dsimp only
        rw [Option.isSome_map, isSome_measured_iff]
      | container kind targetType cyclic => cases kind <;> simp

end Describe

/-- A limit was exceeded. -/
def ModernMetadataProjectionError.IsLimit (e : ModernMetadataProjectionError) : Prop :=
  e.code = "PROJECTION_LIMIT" ∨ e.code = "DEPTH_LIMIT"

end OpenRfc.ModernMetadata
