import OpenRfc.Appc.Plan

/-!
The final SAP parameters of a compact record. They declare the length of the message to which the
record says it belongs; the record carries the bytes of its own slice.
-/

namespace OpenRfc.Appc
open DirectCpic (AppcFunction appcRecordHeaderLength readUInt16BE)
open Fallible Wire

/-- The last eight bytes of a record. -/
def finalSapParametersOf (record : Bytes) : Bytes :=
  record.drop (record.length - appcFinalSapParameterLength)

/-- The application packet length which a record declares. -/
def declaredPacketLength (record : Bytes) : Nat := readUInt16BE (finalSapParametersOf record) 2

/-- The application bytes between the header and the final parameters. -/
def carriedApplicationData (record : Bytes) : Bytes :=
  (record.drop appcRecordHeaderLength).take
    (record.length - appcRecordHeaderLength - appcFinalSapParameterLength)

variable {fragment : AppcOutgoingDataFragment} {record : Bytes}

theorem validateFinalSapParameters_eq_ok {parameters : Bytes} {length : Nat} {u : Unit}
    (h : validateFinalSapParameters parameters length = .ok u) :
    parameters.length = appcFinalSapParameterLength ∧ readUInt16BE parameters 0 = 0 ∧
      readUInt16BE parameters 2 = length := by
  simpa only [validateFinalSapParameters, bind_eq_ok, require_eq_ok, exists_const] using h

theorem checkFragment_compact {u : Unit} (h : checkFragment fragment = .ok u)
    (hcount : fragment.fragmentCount = 1) :
    fragment.finalSapParameters.length = appcFinalSapParameterLength ∧
      readUInt16BE fragment.finalSapParameters 2 = fragment.messageApplicationDataLength := by
  simp only [checkFragment, bind_eq_ok, require_eq_ok, exists_const] at h
  obtain ⟨-, -, -, -, -, h⟩ := h
  rw [checkFragmentData, if_pos hcount] at h
  simp only [bind_eq_ok, require_eq_ok, exists_const, mapError_eq_ok] at h
  obtain ⟨_, _, -, hparameters⟩ := h
  obtain ⟨hlength, -, hdeclared⟩ := validateFinalSapParameters_eq_ok hparameters
  exact ⟨hlength, hdeclared⟩

/-- The header, the slice and the final parameters of a compact record. -/
theorem encode_compact (h : encodeOutgoingAppcDataFragment fragment = .ok record)
    (hcount : fragment.fragmentCount = 1) :
    declaredPacketLength record = fragment.messageApplicationDataLength ∧
      carriedApplicationData record = fragment.applicationData := by
  obtain ⟨_, hcheck, h⟩ := bind_eq_ok.mp h
  obtain ⟨operationInfo, -, h⟩ := bind_eq_ok.mp h
  obtain ⟨hlength, hdeclared⟩ := checkFragment_compact hcheck hcount
  obtain ⟨header, hheader, hrecord⟩ := encodeAppcRecord_eq_ok h
  rw [List.flatten_cons, List.flatten_cons, List.flatten_nil, List.append_nil] at hrecord
  have htotal : record.length = appcRecordHeaderLength + fragment.applicationData.length +
      appcFinalSapParameterLength := by
    rw [hrecord, List.length_append, List.length_append, hheader, hlength, Nat.add_assoc]
  constructor
  · have htail : finalSapParametersOf record = fragment.finalSapParameters := by
      rw [finalSapParametersOf, htotal, Nat.add_sub_cancel, hrecord, ← List.append_assoc]
      apply List.drop_left'
      rw [List.length_append, hheader]
    rw [declaredPacketLength, htail, hdeclared]
  · have hslice : record.length - appcRecordHeaderLength - appcFinalSapParameterLength =
        fragment.applicationData.length := by
      omega
    rw [carriedApplicationData, hslice, hrecord, List.drop_left' hheader]
    exact List.take_left' rfl

/-- A compact record declares the length of what it carries exactly when the fragment has the bytes of
its whole message. -/
theorem compact_tail_consistent_iff (fragment : AppcOutgoingDataFragment) (record : Bytes)
    (hcount : fragment.fragmentCount = 1)
    (h : encodeOutgoingAppcDataFragment fragment = .ok record) :
    declaredPacketLength record = (carriedApplicationData record).length ↔
      fragment.applicationData.length = fragment.messageApplicationDataLength := by
  obtain ⟨hdeclared, hcarried⟩ := encode_compact h hcount
  rw [hdeclared, hcarried]
  exact eq_comm

/-- A compact fragment of some bytes, whose final parameters declare three. -/
def sampleFragment (applicationData : Bytes) : AppcOutgoingDataFragment :=
  { functionCode := .sapSend
    isFinal := true
    sapParameterLength := 8
    fragmentIndex := 0
    fragmentCount := 1
    applicationData
    finalSapParameters := [0, 0, 0, 3, 0, 0, 0x6d, 0x60]
    messageApplicationDataLength := 3
    communicationIndex := 0
    connectionIndex := 1
    info := some 5
    vector := some 12
    conversationId := some (Bytes.alloc 8) }

theorem exists_encode_sample {applicationData : Bytes}
    (h : applicationData ∈ [[1, 2, 3], [1, 2, 3, 4]]) :
    ∃ record, encodeOutgoingAppcDataFragment (sampleFragment applicationData) = .ok record := by
  have hok : ∀ applicationData ∈ [[1, 2, 3], [1, 2, 3, 4]],
      (encodeOutgoingAppcDataFragment (sampleFragment applicationData)).isOk = true := by
    decide +kernel
  specialize hok applicationData h
  cases hrecord : encodeOutgoingAppcDataFragment (sampleFragment applicationData) with
  | error e =>
      rw [hrecord] at hok
      exact absurd hok nofun
  | ok record => exact ⟨record, rfl⟩

theorem compact_tail_consistent_sample :
    ∃ record, encodeOutgoingAppcDataFragment (sampleFragment [1, 2, 3]) = .ok record ∧
      (declaredPacketLength record = (carriedApplicationData record).length ↔
        (sampleFragment [1, 2, 3]).applicationData.length =
          (sampleFragment [1, 2, 3]).messageApplicationDataLength) := by
  obtain ⟨record, hrecord⟩ := exists_encode_sample (.head _)
  exact ⟨record, hrecord, compact_tail_consistent_iff _ record rfl hrecord⟩

/-- A fragment may have other bytes than its message. -/
theorem not_compact_tail_consistent :
    ¬∀ fragment record, fragment.fragmentCount = 1 →
      encodeOutgoingAppcDataFragment fragment = .ok record →
      declaredPacketLength record = (carriedApplicationData record).length := by
  intro h
  obtain ⟨record, hrecord⟩ := exists_encode_sample (.tail _ (.head _))
  obtain ⟨hdeclared, hcarried⟩ := encode_compact hrecord rfl
  have hequal := h _ record rfl hrecord
  rw [hdeclared, hcarried] at hequal
  exact absurd hequal (by decide)

end OpenRfc.Appc
