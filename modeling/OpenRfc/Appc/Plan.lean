import OpenRfc.Appc.Outgoing

/-!
Every step of a plan is encoded, the slices make up the application data, and the client takes
the steps of a plan one after the other, with an acknowledgement behind every barrier.
-/

namespace OpenRfc.Appc
open DirectCpic (AppcClientSetupState AppcFunction Cause appcProtocolVersion
  appcRecordHeaderLength
  decodeAppcHeader maxAppcAsyncSendsBeforeSync maxAppcOutgoingMessageLength
  outgoingFragmentSemantics outgoingFragmentSemantics_isData)
open Fallible Wire

section Records
variable {functionCode : AppcFunction} {input : AppcRecordHeaderInput} {operationInfo : Bytes}
  {sapParameterLength : Nat} {trailingData : List Bytes} {context : String}
  {communicationIndex connectionIndex : Int}

/-- The bounds of the two indices. -/
def IndicesInRange (communicationIndex connectionIndex : Int) : Prop :=
  (Field.uint 2 communicationIndex "").InRange ∧ (Field.uint 2 connectionIndex "").InRange

theorem uint_zero_inRange (width : Nat) (field : String) : (Field.uint width 0 field).InRange := by
  have hp : (1 : Int) ≤ 256 ^ width := by
    exact_mod_cast Nat.one_le_pow width 256 (by omega)
  exact ⟨Int.le_refl 0, by omega⟩

theorem uint_cast_inRange {width value : Nat} (field : String) (h : value < 256 ^ width) :
    (Field.uint width value field).InRange := by
  have hp : (value : Int) < 256 ^ width := by exact_mod_cast h
  exact ⟨Int.natCast_nonneg value, by omega⟩

theorem encodeAppcAsyncDataInfo_ok {dataLength : Nat}
    (hl : 1 ≤ dataLength ∧ dataLength ≤ maxAppcApplicationDataFragmentLength)
    (hi : IndicesInRange communicationIndex connectionIndex) :
    ∃ info, encodeAppcAsyncDataInfo dataLength communicationIndex connectionIndex = .ok info ∧
      info.length = 32 := by
  have hr : ∀ field ∈ [Field.uint 2 0 "reserved", .uint 2 dataLength "dataLength",
      .bytes (Bytes.alloc 24) "reserved2",
      .uint 2 communicationIndex "communicationIndex",
      .uint 2 connectionIndex "connectionIndex"], field.InRange := by
    simp only [List.forall_mem_cons]
    refine ⟨uint_zero_inRange _ _, uint_cast_inRange _ ?_, trivial, hi.1, hi.2, nofun⟩
    simp only [maxAppcApplicationDataFragmentLength] at hl
    omega
  obtain ⟨info, he, hlength⟩ := exists_encodeRecord "APPC async-send info" rfl hr
  refine ⟨info, ?_, hlength⟩
  rw [encodeAppcAsyncDataInfo, require_of hl, ok_bind]
  exact he

theorem encodeFixedAscii_empty (field : String) :
    encodeFixedAscii "" field = .ok (Bytes.alloc 8) := rfl

theorem encodeAppcExtendedInfo_ok (hi : IndicesInRange communicationIndex connectionIndex) :
    ∃ info, encodeAppcExtendedInfo { communicationIndex, connectionIndex } = .ok info ∧
      info.length = 32 := by
  have hr : ∀ field ∈ [Field.bytes (Bytes.alloc 8) "shortDestinationName",
      .bytes (Bytes.alloc 8) "logicalUnitName",
      .bytes (Bytes.alloc 8) "transactionProgramName",
      .uint 1 0 "connectionType", .uint 1 0 "clientInfo", .uint 2 0 "reserved",
      .uint 2 communicationIndex "communicationIndex",
      .uint 2 connectionIndex "connectionIndex"], field.InRange := by
    simp only [List.forall_mem_cons]
    exact ⟨trivial, trivial, trivial, uint_zero_inRange _ _, uint_zero_inRange _ _,
      uint_zero_inRange _ _, hi.1, hi.2, nofun⟩
  obtain ⟨info, he, hlength⟩ := exists_encodeRecord "APPC extended info" rfl hr
  refine ⟨info, ?_, hlength⟩
  simp only [encodeAppcExtendedInfo, encodeFixedAscii_empty, ok_bind]
  exact he

/-- What has been encoded had its indices in range. -/
theorem indicesInRange_of_outgoingOperationInfo {dataLength : Nat} {info : Bytes}
    (h : outgoingOperationInfo functionCode dataLength communicationIndex connectionIndex =
      .ok info) : IndicesInRange communicationIndex connectionIndex := by
  unfold outgoingOperationInfo at h
  split at h
  · obtain ⟨-, -, h⟩ := bind_eq_ok.mp h
    have hr := inRange_of_encodeRecord h
    simp only [List.forall_mem_cons] at hr
    exact ⟨hr.2.2.2.1, hr.2.2.2.2.1⟩
  · simp only [encodeAppcExtendedInfo, encodeFixedAscii_empty, ok_bind] at h
    have hr := inRange_of_encodeRecord h
    simp only [List.forall_mem_cons] at hr
    exact ⟨hr.2.2.2.2.2.2.1, hr.2.2.2.2.2.2.2.1⟩

theorem width_fields :
    ((input.fields functionCode sapParameterLength).map Field.width).sum = 39 := by
  simp only [AppcRecordHeaderInput.fields, List.map_cons, List.map_nil, List.sum_cons,
    List.sum_nil, Field.width]
  rfl

theorem encodeAppcRecord_ok (context : String) (trailingData : List Bytes)
    (hc : (input.conversationId.getD (Bytes.alloc 8)).length = 8)
    (ho : operationInfo.length = 32) (hs : sapParameterLength ≤ 0xffff)
    (hr : ∀ field ∈ input.fields functionCode sapParameterLength, field.InRange) :
    ∃ record, encodeAppcRecord functionCode input operationInfo sapParameterLength
      trailingData context = .ok record := by
  have hrecord : ∃ record, encodeRecord (appcRecordHeaderLength + trailingData.flatten.length)
      context (.uint 1 appcProtocolVersion.toNat "protocolVersion" ::
        input.fields functionCode sapParameterLength ++
        .bytes (input.conversationId.getD (Bytes.alloc 8)) "conversationId" ::
        .bytes operationInfo "operationInfo" ::
        trailingData.map fun part => .bytes part "trailingData") = .ok record ∧
      record.length = appcRecordHeaderLength + trailingData.flatten.length := by
    apply exists_encodeRecord
    · have hw : (Field.width ∘ fun part => Field.bytes part "trailingData") = List.length := rfl
      rw [List.map_append, List.map_cons, List.sum_append, List.sum_cons, width_fields]
      simp only [List.map_cons, List.map_map, List.sum_cons, Field.width, hc, ho, hw,
        List.length_flatten, appcRecordHeaderLength]
      omega
    · intro field hf
      rw [List.cons_append, List.mem_cons, List.mem_append, List.mem_cons, List.mem_cons] at hf
      obtain rfl | hf | rfl | rfl | hf := hf
      · exact ⟨by decide, by decide⟩
      · exact hr field hf
      · trivial
      · trivial
      · obtain ⟨part, -, rfl⟩ := List.mem_map.mp hf
        trivial
  obtain ⟨record, he, -⟩ := hrecord
  refine ⟨record, ?_⟩
  rw [encodeAppcRecord, require_of hc, ok_bind, require_of ho, ok_bind, require_of hs, ok_bind]
  exact he

theorem inRange_of_encodeAppcRecord {record : Bytes}
    (h : encodeAppcRecord functionCode input operationInfo sapParameterLength trailingData
      context = .ok record) :
    ∀ field ∈ input.fields functionCode sapParameterLength, field.InRange := by
  obtain ⟨-, -, h⟩ := bind_eq_ok.mp h
  obtain ⟨-, -, h⟩ := bind_eq_ok.mp h
  obtain ⟨-, -, h⟩ := bind_eq_ok.mp h
  intro field hf
  apply inRange_of_encodeRecord h
  rw [List.cons_append]
  exact List.mem_cons_of_mem _ (List.mem_append_left _ hf)

/-- A record is its header and the data behind it. -/
theorem encodeAppcRecord_eq_ok {record : Bytes}
    (h : encodeAppcRecord functionCode input operationInfo sapParameterLength trailingData
      context = .ok record) :
    ∃ header : Bytes, header.length = appcRecordHeaderLength ∧
      record = header ++ trailingData.flatten := by
  simp only [encodeAppcRecord, bind_eq_ok, require_eq_ok, exists_const] at h
  obtain ⟨hconversation, hoperation, -, h⟩ := h
  let header : List Field := .uint 1 appcProtocolVersion.toNat "protocolVersion" ::
    input.fields functionCode sapParameterLength ++
    [.bytes (input.conversationId.getD (Bytes.alloc 8)) "conversationId", .bytes operationInfo "operationInfo"]
  have hdata : (trailingData.map fun part => Field.bytes part "trailingData").map Field.encode =
      trailingData := by
    rw [List.map_map]
    exact List.map_id _
  refine ⟨(header.map Field.encode).flatten, ?_, ?_⟩
  · rw [length_encoded]
    simp only [header, List.map_append, List.map_cons, List.map_nil, List.cons_append, List.sum_cons,
      List.sum_append, List.sum_nil, width_fields, Field.width, hconversation, hoperation]
    rfl
  · have hfields := eq_of_encodeRecord h
    rw [hfields]
    conv_rhs => rw [← hdata]
    simp [header]

end Records

section Semantics
variable {fragmentIndex fragmentCount : Nat}

theorem semantics_last (h : 1 < fragmentCount) :
    outgoingFragmentSemantics (fragmentCount - 1) fragmentCount = ⟨.receive, true, 1, 0, 0⟩ := by
  rw [outgoingFragmentSemantics, if_neg (by omega), if_pos rfl]

/-- The steps before the last one of a streamed message. -/
theorem semantics_data (h : fragmentIndex + 1 < fragmentCount) :
    outgoingFragmentSemantics fragmentIndex fragmentCount =
      if 0 < fragmentIndex ∧ fragmentIndex % maxAppcAsyncSendsBeforeSync = 0 then
        ⟨.sendData, false, 1, 0, 0⟩
      else ⟨.asyncSendData, false, 0, 0, 0⟩ := by
  rw [outgoingFragmentSemantics, if_neg (by omega), if_neg (by omega)]
  simp only [maxAppcAsyncSendsBeforeSync]
  congr 1
  apply propext
  omega

/-- The numbers which a step puts into its record are small. -/
theorem semantics_bounds (fragmentIndex fragmentCount : Nat) :
    (outgoingFragmentSemantics fragmentIndex fragmentCount).info ≤ 5 ∧
      (outgoingFragmentSemantics fragmentIndex fragmentCount).vector ≤ 0x0c ∧
      (outgoingFragmentSemantics fragmentIndex fragmentCount).sapParameterLength ≤ 8 := by
  unfold outgoingFragmentSemantics
  split
  · decide
  · split
    · decide
    · split
      · decide
      · decide

end Semantics

section Plans
variable {input : AppcOutgoingDataPlanInput} {options : AppcOutgoingDataPlannerOptions}
  {fragments : List AppcOutgoingDataFragment}

/-- What an input has passed when a plan is returned. -/
structure Admitted (input : AppcOutgoingDataPlanInput) : Prop where
  length : input.applicationData.length ≤ maxAppcOutgoingMessageLength
  compact : ∀ parameters, input.finalSapParameters = some parameters →
    validateFinalSapParameters parameters input.applicationData.length = .ok () ∧
      input.applicationData.length ≤ maxAppcApplicationDataFragmentLength
  streamed : input.finalSapParameters = none →
    maxAppcApplicationDataFragmentLength < input.applicationData.length
  conversationId : (input.conversationId.getD (Bytes.alloc 8)).length = 8
  indices : IndicesInRange input.communicationIndex input.connectionIndex
  header : ∃ functionCode sapParameterLength,
    ∀ field ∈ input.fields functionCode sapParameterLength, field.InRange

theorem checkPlanInput_ok (h : checkPlanInput input options = .ok ()) :
    input.applicationData.length ≤ maxAppcOutgoingMessageLength ∧
      (∀ parameters, input.finalSapParameters = some parameters →
        validateFinalSapParameters parameters input.applicationData.length = .ok () ∧
          input.applicationData.length ≤ maxAppcApplicationDataFragmentLength) ∧
      (input.finalSapParameters = none →
        maxAppcApplicationDataFragmentLength < input.applicationData.length) := by
  obtain ⟨_, hmax, h⟩ := bind_eq_ok.mp h
  obtain ⟨-, -, h⟩ := bind_eq_ok.mp h
  obtain ⟨_, hlength, h⟩ := bind_eq_ok.mp h
  rw [require_eq_ok] at hmax hlength
  refine ⟨by omega, ?_⟩
  cases hf : input.finalSapParameters with
  | none =>
      rw [hf] at h
      exact ⟨nofun, fun _ => require_eq_ok.mp h⟩
  | some parameters =>
      rw [hf] at h
      obtain ⟨_, hvalid, h⟩ := bind_eq_ok.mp h
      refine ⟨?_, nofun⟩
      intro _ he
      cases he
      exact ⟨hvalid, require_eq_ok.mp h⟩

theorem planOutgoing_ok (h : planOutgoingAppcDataFragments input options = .ok fragments) :
    Admitted input ∧ fragments = (List.range (fragmentCount input)).map (plannedFragment input) := by
  obtain ⟨_, hinput, h⟩ := bind_eq_ok.mp h
  obtain ⟨-, -, h⟩ := bind_eq_ok.mp h
  obtain ⟨-, -, h⟩ := bind_eq_ok.mp h
  obtain ⟨_, hid, h⟩ := bind_eq_ok.mp h
  obtain ⟨record, hrecord, h⟩ := bind_eq_ok.mp h
  obtain ⟨operationInfo, hinfo, hrecord⟩ := bind_eq_ok.mp hrecord
  obtain ⟨hlength, hcompact, hstreamed⟩ := checkPlanInput_ok hinput
  refine ⟨⟨hlength, hcompact, hstreamed, require_eq_ok.mp hid,
    indicesInRange_of_outgoingOperationInfo hinfo, _, _,
    inRange_of_encodeAppcRecord hrecord⟩, ?_⟩
  exact (Except.ok.inj h).symm

theorem fragmentCount_compact {parameters : Bytes} (h : input.finalSapParameters = some parameters) :
    fragmentCount input = 1 := by
  simp [fragmentCount, useSingleRecord, h]

theorem fragmentCount_streamed (h : input.finalSapParameters = none) :
    fragmentCount input = (input.applicationData.length + 27999) / 28000 + 1 := by
  simp [fragmentCount, dataFragmentCount, useSingleRecord, h,
    maxAppcApplicationDataFragmentLength]

/-- The fields of a header are in range whatever function they are for. -/
theorem inRange_fields {header : AppcRecordHeaderInput} {functionCode functionCode' : AppcFunction}
    {sapParameterLength sapParameterLength' : Nat}
    (h : ∀ field ∈ header.fields functionCode sapParameterLength, field.InRange)
    (hs : sapParameterLength' ≤ 0xffff) :
    ∀ field ∈ header.fields functionCode' sapParameterLength', field.InRange := by
  simp only [AppcRecordHeaderInput.fields, List.forall_mem_cons] at h ⊢
  obtain ⟨-, hprotocol, hmode, huid, hgateway, herror, hinfo2, htrace, htime, hinfo3, htimeout,
    hinfo4, hsequence, -, hrest⟩ := h
  refine ⟨?_, hprotocol, hmode, huid, hgateway, herror, hinfo2, htrace, htime, hinfo3, htimeout,
    hinfo4, hsequence, ?_, hrest⟩
  · exact uint_cast_inRange _ (UInt8.toNat_lt _)
  · apply uint_cast_inRange
    omega

theorem one_le_fragmentCount (input : AppcOutgoingDataPlanInput) : 1 ≤ fragmentCount input := by
  unfold fragmentCount
  split
  · exact le_rfl
  · omega

theorem probeRecord_ok (h : Admitted input) : ∃ record, probeRecord input = .ok record := by
  obtain ⟨functionCode, sapParameterLength, hheader⟩ := h.header
  unfold probeRecord
  cases hf : input.finalSapParameters with
  | some parameters =>
      have hsingle : useSingleRecord input = true := by
        rw [useSingleRecord, hf]
        rfl
      obtain ⟨info, hinfo, hlength⟩ := encodeAppcExtendedInfo_ok h.indices
      simp only [hsingle, if_true]
      rw [outgoingOperationInfo, if_neg (by decide), hinfo, ok_bind]
      exact encodeAppcRecord_ok _ _ h.conversationId hlength (by decide)
        (inRange_fields hheader (by decide))
  | none =>
      have hsingle : useSingleRecord input = false := by
        rw [useSingleRecord, hf]
        rfl
      have hstreamed := h.streamed hf
      have hslice : 1 ≤ min input.applicationData.length maxAppcApplicationDataFragmentLength ∧
          min input.applicationData.length maxAppcApplicationDataFragmentLength ≤
            maxAppcApplicationDataFragmentLength := by
        unfold maxAppcApplicationDataFragmentLength at hstreamed ⊢
        omega
      obtain ⟨info, hinfo, hlength⟩ := encodeAppcAsyncDataInfo_ok hslice h.indices
      simp only [hsingle, Bool.false_eq_true, if_false]
      rw [outgoingOperationInfo, if_pos (.inl rfl), hinfo, ok_bind]
      exact encodeAppcRecord_ok _ _ h.conversationId hlength (by decide)
        (inRange_fields hheader (by decide))

/-- A plan is returned for an input within the limits of the options. -/
theorem planOutgoing_of_admitted (h : Admitted input)
    (hmaximum : options.maxApplicationDataLength ≤ maxAppcOutgoingMessageLength)
    (hlength : (input.applicationData.length : Int) ≤ options.maxApplicationDataLength)
    (hstreaming : useSingleRecord input = true ∨ options.cpicStreaming = .enabled)
    (hcount : (fragmentCount input : Int) ≤ options.maxFragments) :
    ∃ fragments, planOutgoingAppcDataFragments input options = .ok fragments := by
  obtain ⟨record, hrecord⟩ := probeRecord_ok h
  have hone := one_le_fragmentCount input
  have hcheck : checkPlanInput input options = .ok () := by
    rw [checkPlanInput, require_of ⟨by omega, hmaximum⟩, ok_bind, require_of (by omega), ok_bind,
      require_of hlength, ok_bind]
    cases hf : input.finalSapParameters with
    | some parameters =>
        obtain ⟨hvalid, hcompact⟩ := h.compact parameters hf
        dsimp only
        rw [hvalid, ok_bind, require_of hcompact]
    | none => exact require_of (h.streamed hf)
  refine ⟨(List.range (fragmentCount input)).map (plannedFragment input), ?_⟩
  rw [planOutgoingAppcDataFragments, hcheck, ok_bind, require_of hstreaming, ok_bind,
    require_of hcount, ok_bind]
  dsimp only
  rw [require_of h.conversationId, ok_bind, hrecord, ok_bind]

/-- The slices of data, one behind the other. -/
theorem flatten_slices (data : Bytes) (size count : Nat) :
    ((List.range count).map fun i => (data.drop (i * size)).take size).flatten =
      data.take (count * size) := by
  induction count with
  | zero => simp
  | succ count ih =>
      rw [List.range_succ, List.map_append, List.flatten_append, ih, Nat.succ_mul, List.take_add]
      simp

/-- The data of a step which is not the terminator. -/
theorem plannedFragment_data {fragmentIndex : Nat}
    (h : (outgoingFragmentSemantics fragmentIndex (fragmentCount input)).functionCode ≠ .receive) :
    (plannedFragment input fragmentIndex).applicationData =
      (input.applicationData.drop
        (fragmentIndex * maxAppcApplicationDataFragmentLength)).take
          maxAppcApplicationDataFragmentLength := by
  simp only [plannedFragment, if_neg h]
  rw [List.drop_take]
  rcases Nat.le_total input.applicationData.length
    (fragmentIndex * maxAppcApplicationDataFragmentLength +
      maxAppcApplicationDataFragmentLength) with hle | hle
  · rw [Nat.min_eq_left hle, List.take_of_length_le, List.take_of_length_le]
    · rw [List.length_drop]
      omega
    · rw [List.length_drop]
  · rw [Nat.min_eq_right hle, Nat.add_sub_cancel_left]

theorem plannedFragment_terminator (h : 1 < fragmentCount input) :
    (plannedFragment input (fragmentCount input - 1)).applicationData = [] := by
  simp only [plannedFragment, semantics_last h, if_true]
  rw [List.drop_eq_nil_iff, List.length_take]
  exact Nat.min_le_left _ _

/-- The header of a step is in range if that of the plan is. -/
theorem plannedFragment_inRange (h : Admitted input) (fragmentIndex : Nat) :
    ∀ field ∈ (plannedFragment input fragmentIndex).fields
      (plannedFragment input fragmentIndex).functionCode
      (plannedFragment input fragmentIndex).sapParameterLength, field.InRange := by
  obtain ⟨functionCode, sapParameterLength, hr⟩ := h.header
  obtain ⟨hinfo, hvector, hsap⟩ :=
    semantics_bounds fragmentIndex (fragmentCount input)
  simp only [AppcRecordHeaderInput.fields, List.forall_mem_cons] at hr ⊢
  obtain ⟨-, hprotocol, hmode, huid, hgateway, herror, hinfo2, htrace, htime, hinfo3, htimeout,
    hinfo4, hsequence, -, hpadding, -, -, happc, hsapReturn, -⟩ := hr
  refine ⟨?_, hprotocol, hmode, huid, hgateway, herror, hinfo2, htrace, htime, hinfo3, htimeout,
    hinfo4, hsequence, ?_, hpadding, ?_, ?_, happc, hsapReturn, nofun⟩
  · exact uint_cast_inRange _ (UInt8.toNat_lt _)
  · apply uint_cast_inRange
    change (outgoingFragmentSemantics fragmentIndex (fragmentCount input)).sapParameterLength < _
    omega
  · apply uint_cast_inRange
    omega
  · apply uint_cast_inRange
    omega

/-- What the encoder demands of the data of a step. -/
theorem checkFragmentData_planned (h : Admitted input) {fragmentIndex : Nat}
    (hi : fragmentIndex < fragmentCount input) :
    checkFragmentData (plannedFragment input fragmentIndex) = .ok () := by
  cases hf : input.finalSapParameters with
  | some parameters =>
      obtain ⟨hvalid, hlength⟩ := h.compact parameters hf
      have hone : (plannedFragment input fragmentIndex).fragmentCount = 1 :=
        fragmentCount_compact hf
      have hp : (plannedFragment input fragmentIndex).finalSapParameters = parameters := by
        simp [plannedFragment, useSingleRecord, hf]
      rw [checkFragmentData, if_pos hone, require_of, ok_bind, hp]
      · change (validateFinalSapParameters parameters input.applicationData.length).mapError _ = _
        rw [hvalid]
        rfl
      · simp only [plannedFragment, List.length_drop, List.length_take]
        omega
  | none =>
      have hlength := h.streamed hf
      have hcount := fragmentCount_streamed hf
      simp only [maxAppcApplicationDataFragmentLength] at hlength
      have hp : (plannedFragment input fragmentIndex).finalSapParameters = [] := by
        simp [plannedFragment, useSingleRecord, hf]
      have hne : (plannedFragment input fragmentIndex).fragmentCount ≠ 1 := by
        change fragmentCount input ≠ 1
        omega
      rw [checkFragmentData, if_neg hne, hp]
      by_cases hlast : fragmentIndex = fragmentCount input - 1
      · subst hlast
        have hfunction : (plannedFragment input (fragmentCount input - 1)).functionCode =
            .receive := by
          simp only [plannedFragment, semantics_last (by omega : 1 < fragmentCount input)]
        rw [hfunction, if_neg (by decide), plannedFragment_terminator (by omega)]
        rfl
      · have hdata : fragmentIndex + 1 < fragmentCount input := by omega
        have hsemantics := semantics_data hdata
        have hfunction : (plannedFragment input fragmentIndex).functionCode = .asyncSendData ∨
            (plannedFragment input fragmentIndex).functionCode = .sendData := by
          change (outgoingFragmentSemantics fragmentIndex (fragmentCount input)).functionCode = _ ∨
            (outgoingFragmentSemantics fragmentIndex (fragmentCount input)).functionCode = _
          rw [hsemantics]
          split
          · exact .inr rfl
          · exact .inl rfl
        rw [if_pos hfunction, require_of, ok_bind]
        · rfl
        · rw [plannedFragment_data]
          · simp only [List.length_take, List.length_drop, maxAppcApplicationDataFragmentLength]
            omega
          · intro hr
            change (plannedFragment input fragmentIndex).functionCode = _ at hr
            rw [hr] at hfunction
            exact hfunction.elim nofun nofun

theorem length_planned (fragmentIndex : Nat) :
    (plannedFragment input fragmentIndex).applicationData.length ≤
      maxAppcApplicationDataFragmentLength := by
  simp only [plannedFragment, List.length_drop, List.length_take]
  split <;> omega

theorem length_parameters (h : Admitted input) (fragmentIndex : Nat) :
    (plannedFragment input fragmentIndex).finalSapParameters.length ≤
      appcFinalSapParameterLength := by
  cases hf : input.finalSapParameters with
  | none => simp [plannedFragment, useSingleRecord, hf]
  | some parameters =>
      obtain ⟨_, hlength, -⟩ := bind_eq_ok.mp (h.compact parameters hf).1
      rw [require_eq_ok] at hlength
      simp [plannedFragment, useSingleRecord, hf, hlength]

theorem checkFragment_planned (h : Admitted input) {fragmentIndex : Nat}
    (hi : fragmentIndex < fragmentCount input) :
    checkFragment (plannedFragment input fragmentIndex) = .ok () := by
  have hid : ((plannedFragment input fragmentIndex).conversationId.getD []).length = 8 :=
    h.conversationId
  rw [checkFragment, checkSnapshot, require_of hid, ok_bind,
    require_of (length_planned fragmentIndex), ok_bind,
    require_of (length_parameters h fragmentIndex), ok_bind, require_of, ok_bind,
    require_of (show (plannedFragment input fragmentIndex).fragmentIndex <
      (plannedFragment input fragmentIndex).fragmentCount from hi), ok_bind,
    require_of (show (plannedFragment input fragmentIndex).messageApplicationDataLength ≤
      maxAppcOutgoingMessageLength from h.length), ok_bind,
    show checkSemantics (plannedFragment input fragmentIndex) = .ok () from
      require_of ⟨rfl, rfl, rfl, rfl, rfl⟩, ok_bind]
  · exact checkFragmentData_planned h hi
  · change 1 ≤ fragmentCount input
    omega

theorem fragmentOperationInfo_planned (h : Admitted input) {fragmentIndex : Nat}
    (hi : fragmentIndex < fragmentCount input) :
    ∃ info, fragmentOperationInfo (plannedFragment input fragmentIndex) = .ok info ∧
      info.length = 32 := by
  unfold fragmentOperationInfo outgoingOperationInfo
  split
  · exact encodeAppcAsyncDataInfo_ok ⟨by decide, le_rfl⟩ h.indices
  · split
    · rename_i hfunction
      have hcheck := checkFragmentData_planned h hi
      apply encodeAppcAsyncDataInfo_ok ?_ h.indices
      by_cases hone : (plannedFragment input fragmentIndex).fragmentCount = 1
      · exfalso
        have hzero : (plannedFragment input fragmentIndex).functionCode = .sapSend := by
          change fragmentCount input = 1 at hone
          change (outgoingFragmentSemantics fragmentIndex (fragmentCount input)).functionCode = _
          rw [hone, outgoingFragmentSemantics, if_pos rfl]
        rw [hzero] at hfunction
        exact hfunction.elim nofun nofun
      · rw [checkFragmentData, if_neg hone, if_pos hfunction] at hcheck
        obtain ⟨_, hlength, -⟩ := bind_eq_ok.mp hcheck
        exact require_eq_ok.mp hlength
    · exact encodeAppcExtendedInfo_ok h.indices

/-- Every step of a plan is encoded. -/
theorem encode_planned (h : Admitted input) {fragmentIndex : Nat}
    (hi : fragmentIndex < fragmentCount input) :
    ∃ record, encodeOutgoingAppcDataFragment (plannedFragment input fragmentIndex) =
      .ok record := by
  obtain ⟨info, hinfo, hlength⟩ := fragmentOperationInfo_planned h hi
  rw [encodeOutgoingAppcDataFragment, checkFragment_planned h hi, ok_bind, hinfo, ok_bind]
  apply encodeAppcRecord_ok
  · exact h.conversationId
  · exact hlength
  · have hs := (semantics_bounds fragmentIndex (fragmentCount input)).2.2
    change (outgoingFragmentSemantics fragmentIndex
      (fragmentCount input)).sapParameterLength ≤ 0xffff
    omega
  · exact plannedFragment_inRange h fragmentIndex

end Plans

section Conversation

/-- A reply which the peer sends behind a barrier. -/
def Acknowledges (payload : Bytes) : Prop :=
  appcRecordHeaderLength ≤ payload.length ∧
    ∃ header, decodeAppcHeader payload = .ok header ∧ header.functionCode = .sendData ∧
      header.appcReturnCode = 0 ∧ header.sapReturnCode = 0

/-- The client sends the steps of a plan, and receives a reply behind every barrier. -/
def exchangePlan (reply : Nat → Bytes) :
    AppcClientSetupState → List AppcOutgoingDataFragment → Except Cause AppcClientSetupState
  | state, [] => .ok state
  | state, fragment :: fragments =>
    match state.sent fragment.functionCode fragment.isFinal with
    | .error cause => .error cause
    | .ok state =>
        if fragment.functionCode = .sendData then
          match state.received (reply fragment.fragmentIndex) with
          | (_, .error cause) => .error cause
          | (state, .ok _) => exchangePlan reply state fragments
        else exchangePlan reply state fragments

theorem received_acknowledges {payload : Bytes} (h : Acknowledges payload) :
    AppcClientSetupState.sendBarrierPending.received payload =
      (.sendContinuation, .ok .accepted) := by
  obtain ⟨hlength, header, hd, hfunction, hcode, hsap⟩ := h
  have hlong : ¬ payload.length < appcRecordHeaderLength := by omega
  simp only [AppcClientSetupState.received, if_neg hlong, hd, hcode, hsap, hfunction]
  rfl

variable {input : AppcOutgoingDataPlanInput} {reply : Nat → Bytes}

/-- The steps of a streamed plan from one of them on. -/
theorem exchangePlan_streamed (hreply : ∀ i, Acknowledges (reply i))
    (hcount : 1 < fragmentCount input) (k m : Nat) (hk : k + m + 1 = fragmentCount input) :
    exchangePlan reply (if k = 0 then .ready else .sendContinuation)
      ((List.range' k (m + 1)).map (plannedFragment input)) = .ok .responsePending := by
  induction m generalizing k with
  | zero =>
      obtain rfl : k = fragmentCount input - 1 := by omega
      have hsemantics := semantics_last hcount
      have hfunction : (plannedFragment input (fragmentCount input - 1)).functionCode =
          .receive := congrArg (·.functionCode) hsemantics
      have hfinal : (plannedFragment input (fragmentCount input - 1)).isFinal = true :=
        congrArg (·.isFinal) hsemantics
      rw [if_neg (by omega), List.range'_one, List.map_singleton, exchangePlan, hfunction, hfinal]
      rfl
  | succ m ih =>
      have hsemantics := semantics_data (by omega : k + 1 < fragmentCount input)
      have hnext := ih (k + 1) (by omega)
      rw [if_neg (by omega)] at hnext
      rw [List.range'_succ, List.map_cons, exchangePlan]
      by_cases hbarrier : 0 < k ∧ k % maxAppcAsyncSendsBeforeSync = 0
      · rw [if_pos hbarrier] at hsemantics
        have hfunction : (plannedFragment input k).functionCode = .sendData :=
          congrArg (·.functionCode) hsemantics
        have hfinal : (plannedFragment input k).isFinal = false :=
          congrArg (·.isFinal) hsemantics
        have hsent : AppcClientSetupState.sendContinuation.sent .sendData false =
            .ok .sendBarrierPending := rfl
        rw [if_neg (by omega), hfunction, hfinal, hsent]
        dsimp only
        rw [if_pos rfl, received_acknowledges (hreply _)]
        exact hnext
      · rw [if_neg hbarrier] at hsemantics
        have hfunction : (plannedFragment input k).functionCode = .asyncSendData :=
          congrArg (·.functionCode) hsemantics
        have hfinal : (plannedFragment input k).isFinal = false :=
          congrArg (·.isFinal) hsemantics
        have hsent : (if k = 0 then AppcClientSetupState.ready else .sendContinuation).sent
            .asyncSendData false = .ok .sendContinuation := by
          split
          · rfl
          · rfl
        rw [hfunction, hfinal, hsent]
        exact hnext

/-- Among the steps of a streamed plan there are never more asynchronous ones in a row than the
barriers allow. -/
theorem length_asynchronous {before run after : List AppcOutgoingDataFragment}
    (h : (List.range (fragmentCount input)).map (plannedFragment input) = before ++ run ++ after)
    (hrun : ∀ fragment ∈ run, fragment.functionCode = .asyncSendData) :
    run.length ≤ maxAppcAsyncSendsBeforeSync := by
  by_contra hn
  simp only [maxAppcAsyncSendsBeforeSync] at hn
  -- The run is long enough for a step which is a barrier.
  let j := 21 - before.length % 21
  have hj : j < run.length := by omega
  have hmultiple : 0 < before.length + j ∧
      (before.length + j) % maxAppcAsyncSendsBeforeSync = 0 := by
    simp only [maxAppcAsyncSendsBeforeSync]
    omega
  have hlength := congrArg List.length h
  simp only [List.length_map, List.length_range, List.length_append] at hlength
  have hget : run[j]? = some (plannedFragment input (before.length + j)) := by
    have hall := congrArg (·[before.length + j]?) h
    simp only [List.getElem?_map, List.append_assoc] at hall
    rw [List.getElem?_append_right (by omega), Nat.add_sub_cancel_left,
      List.getElem?_append_left hj, List.getElem?_range (by omega)] at hall
    exact hall.symm
  have hfunction := hrun _ (List.mem_of_getElem? hget)
  change (outgoingFragmentSemantics _ _).functionCode = _ at hfunction
  by_cases hlast : before.length + j + 1 < fragmentCount input
  · rw [semantics_data hlast, if_pos hmultiple] at hfunction
    cases hfunction
  · obtain hlast : before.length + j = fragmentCount input - 1 := by omega
    rw [hlast, semantics_last (by omega)] at hfunction
    cases hfunction

end Conversation

/-- What a plan of an input is good for. -/
structure Carries (input : AppcOutgoingDataPlanInput)
    (fragments : List AppcOutgoingDataFragment) : Prop where
  encoded : ∀ fragment ∈ fragments,
    ∃ record, encodeOutgoingAppcDataFragment fragment = .ok record
  slices : (fragments.map (·.applicationData)).flatten = input.applicationData
  compact : input.finalSapParameters.isSome → ∃ fragment, fragments = [fragment] ∧
    fragment.functionCode = .sapSend ∧
    fragment.applicationData.length ≤ maxAppcApplicationDataFragmentLength
  streamed : input.finalSapParameters = none → ∃ first steps last,
    fragments = first :: steps ++ [last] ∧ first.functionCode = .asyncSendData ∧
      (∀ fragment ∈ first :: steps,
        (fragment.functionCode = .asyncSendData ∨ fragment.functionCode = .sendData) ∧
          1 ≤ fragment.applicationData.length ∧
          fragment.applicationData.length ≤ maxAppcApplicationDataFragmentLength) ∧
      last.functionCode = .receive ∧ last.isFinal = true ∧ last.applicationData = []
  barriers : ∀ before run after, fragments = before ++ run ++ after →
    (∀ fragment ∈ run, fragment.functionCode = .asyncSendData) →
    run.length ≤ maxAppcAsyncSendsBeforeSync
  accepted : ∀ reply : Nat → Bytes, (∀ i, Acknowledges (reply i)) →
    exchangePlan reply .ready fragments = .ok .responsePending

theorem carries_planned (input : AppcOutgoingDataPlanInput)
    (options : AppcOutgoingDataPlannerOptions) (fragments : List AppcOutgoingDataFragment)
    (h : planOutgoingAppcDataFragments input options = .ok fragments) :
    Carries input fragments := by
  obtain ⟨hadmitted, rfl⟩ := planOutgoing_ok h
  have hencoded : ∀ fragment ∈ (List.range (fragmentCount input)).map (plannedFragment input),
      ∃ record, encodeOutgoingAppcDataFragment fragment = .ok record := by
    intro fragment hf
    obtain ⟨i, hi, rfl⟩ := List.mem_map.mp hf
    exact encode_planned hadmitted (List.mem_range.mp hi)
  cases hf : input.finalSapParameters with
  | some parameters =>
      have hcount := fragmentCount_compact hf
      obtain ⟨-, hlength⟩ := hadmitted.compact parameters hf
      have hfunction : (plannedFragment input 0).functionCode = .sapSend := by
        change (outgoingFragmentSemantics 0 (fragmentCount input)).functionCode = _
        rw [hcount]
        rfl
      have hfinal : (plannedFragment input 0).isFinal = true := by
        change (outgoingFragmentSemantics 0 (fragmentCount input)).isFinal = _
        rw [hcount]
        rfl
      have hdata : (plannedFragment input 0).applicationData = input.applicationData := by
        rw [plannedFragment_data]
        · rw [Nat.zero_mul, List.drop_zero, List.take_of_length_le hlength]
        · change (plannedFragment input 0).functionCode ≠ .receive
          rw [hfunction]
          exact nofun
      have hplan : (List.range (fragmentCount input)).map (plannedFragment input) =
          [plannedFragment input 0] := by
        rw [hcount]
        rfl
      refine ⟨hencoded, ?_, ?_, ?_, fun _ _ _ => length_asynchronous, ?_⟩
      · rw [hplan, List.map_singleton, List.flatten_singleton, hdata]
      · exact fun _ => ⟨_, hplan, hfunction, hdata ▸ hlength⟩
      · rw [hf]
        exact nofun
      · intro reply _
        rw [hplan, exchangePlan, hfunction, hfinal]
        rfl
  | none =>
      have hlength := hadmitted.streamed hf
      have hcount := fragmentCount_streamed hf
      simp only [maxAppcApplicationDataFragmentLength] at hlength
      obtain ⟨count, hc⟩ : ∃ count, fragmentCount input = count + 2 + 1 :=
        ⟨fragmentCount input - 3, by omega⟩
      have hlast : plannedFragment input (count + 2) =
          plannedFragment input (fragmentCount input - 1) := by
        rw [hc]
        rfl
      have hdata : ∀ i < count + 2,
          ((plannedFragment input i).functionCode = .asyncSendData ∨
            (plannedFragment input i).functionCode = .sendData) ∧
          (plannedFragment input i).applicationData = (input.applicationData.drop
            (i * maxAppcApplicationDataFragmentLength)).take
              maxAppcApplicationDataFragmentLength := by
        intro i hi
        have hsemantics := semantics_data (by omega : i + 1 < fragmentCount input)
        have hfunction : (plannedFragment input i).functionCode = .asyncSendData ∨
            (plannedFragment input i).functionCode = .sendData := by
          change (outgoingFragmentSemantics i (fragmentCount input)).functionCode = _ ∨
            (outgoingFragmentSemantics i (fragmentCount input)).functionCode = _
          rw [hsemantics]
          split
          · exact .inr rfl
          · exact .inl rfl
        refine ⟨hfunction, plannedFragment_data ?_⟩
        intro hr
        change (plannedFragment input i).functionCode = _ at hr
        rw [hr] at hfunction
        exact hfunction.elim nofun nofun
      refine ⟨hencoded, ?_, ?_, ?_, fun _ _ _ => length_asynchronous, ?_⟩
      · rw [hc, List.range_succ, List.map_append, List.map_append, List.flatten_append,
          List.map_singleton, List.map_singleton, List.flatten_singleton, hlast,
          plannedFragment_terminator (by omega), List.append_nil, List.map_map]
        calc
          _ = ((List.range (count + 2)).map fun i => (input.applicationData.drop
              (i * maxAppcApplicationDataFragmentLength)).take
                maxAppcApplicationDataFragmentLength).flatten := by
            congr 1
            apply List.map_congr_left
            exact fun i hi => (hdata i (List.mem_range.mp hi)).2
          _ = input.applicationData := by
            rw [flatten_slices, List.take_of_length_le]
            simp only [maxAppcApplicationDataFragmentLength]
            omega
      · rw [hf]
        exact nofun
      · intro _
        refine ⟨plannedFragment input 0, (List.range' 1 (count + 1)).map (plannedFragment input),
          plannedFragment input (count + 2), ?_, ?_, ?_, ?_⟩
        · rw [hc, List.range_succ, List.map_append, List.range_eq_range', List.range'_succ]
          rfl
        · exact congrArg (·.functionCode) (semantics_data (by omega : 0 + 1 < fragmentCount input))
        · have hsteps : plannedFragment input 0 ::
              (List.range' 1 (count + 1)).map (plannedFragment input) =
              (List.range (count + 2)).map (plannedFragment input) := by
            rw [List.range_eq_range', List.range'_succ]
            rfl
          rw [hsteps]
          intro fragment hfragment
          obtain ⟨i, hi, rfl⟩ := List.mem_map.mp hfragment
          rw [List.mem_range] at hi
          obtain ⟨hfunction, happlication⟩ := hdata i hi
          refine ⟨hfunction, ?_, length_planned i⟩
          rw [happlication, List.length_take, List.length_drop]
          simp only [maxAppcApplicationDataFragmentLength]
          omega
        · have hsemantics := semantics_last (by omega : 1 < fragmentCount input)
          rw [hlast]
          exact ⟨congrArg (·.functionCode) hsemantics, congrArg (·.isFinal) hsemantics,
            plannedFragment_terminator (by omega)⟩
      · intro reply hreply
        rw [List.range_eq_range', hc]
        exact exchangePlan_streamed hreply (by omega) 0 (count + 2) (by omega)

/-- One byte and its final SAP parameters. -/
def compactInput : AppcOutgoingDataPlanInput where
  applicationData := [0x41]
  finalSapParameters := some [0, 0, 0, 1, 0, 0, 0, 0]
  communicationIndex := 1
  connectionIndex := 2

theorem carries_compactInput : ∃ fragments,
    planOutgoingAppcDataFragments compactInput {} = .ok fragments ∧
      Carries compactInput fragments :=
  ⟨_, rfl, carries_planned compactInput {} _ rfl⟩

end OpenRfc.Appc
