import OpenRfc.Callback.RequestGroups
import OpenRfc.Foundation.Utf8

/-!
A request which the encoder writes is the request which a callback decoder reads, as long as the
packet and not only its field chain stays within the limit of a chain.
-/

namespace OpenRfc.Callback
open Fallible Cursor Cpic Classic Xrfc Collected

section Bytes

theorem valueBytes_le_chainLength (fields : List CpicField) :
    valueBytes fields ≤ chainLength fields := by
  apply List.sum_le_sum
  intro field _
  rw [recordLength]
  omega

theorem value_le_chainLength_of_mem {fields : List CpicField} {field : CpicField}
    (h : field ∈ fields) : field.value.length ≤ chainLength fields := by
  apply le_trans _ (valueBytes_le_chainLength fields)
  exact List.single_le_sum (fun _ _ => Nat.zero_le _) _ (List.mem_map_of_mem h)

theorem chainLength_flatMap {α : Type} (group : α → List CpicField) (xs : List α) :
    chainLength (xs.flatMap group) = (xs.map fun x => chainLength (group x)).sum := by
  induction xs with
  | nil => rfl
  | cons x xs ih => rw [List.flatMap_cons, chainLength_append, ih, List.map_cons, List.sum_cons]

theorem chainLength_le_flatMap {α : Type} {group : α → List CpicField} {xs : List α} {x : α}
    (hx : x ∈ xs) : chainLength (group x) ≤ chainLength (xs.flatMap group) := by
  rw [chainLength_flatMap]
  exact List.single_le_sum (fun _ _ => Nat.zero_le _) _ (List.mem_map_of_mem hx)

theorem tableBytes_le_chainLength (table : CpicTable) :
    tableBytes table ≤ chainLength (tableGroup table) := by
  apply le_trans _ (valueBytes_le_chainLength _)
  have hrows : (table.rows.map fun row => List.length row).sum = tableBytes table := rfl
  simp only [valueBytes, tableGroup, List.map_cons, List.sum_cons, List.map_map,
    Function.comp_def, hrows]
  omega

theorem value_le_chainLength (parameter : CpicNamedValue) :
    parameter.value.length ≤ chainLength (xrfcGroup parameter) := by
  apply le_trans _ (valueBytes_le_chainLength _)
  have hlength := congrArg List.length (flatten_classic_chunks parameter.value)
  rw [List.length_flatten] at hlength
  have hchunks : ((Bytes.chunks classicXrfcXmlChunkLength parameter.value).map
      fun chunk => List.length chunk).sum = parameter.value.length := hlength
  simp only [valueBytes, xrfcGroup, xrfcValueFields, List.cons_append, List.map_cons,
    List.map_append, List.sum_cons, List.sum_append, List.map_map, Function.comp_def, hchunks]
  omega

end Bytes

section Names

/-- A kernel release is read as it has been written. -/
theorem decodeCallbackName_release {release : JsString} (h : isKernelRelease release = true)
    (path : String) : decodeCallbackName release.utf16le path 16 = .ok release := by
  simp only [isKernelRelease, Bool.and_eq_true, beq_iff_eq, List.all_eq_true,
    decide_eq_true_eq] at h
  obtain ⟨hlength, hdigits⟩ := h
  have hformed : release.isWellFormed = true := by
    apply JsString.isWellFormed_of_lt
    intro unit hunit
    exact UInt16.lt_of_le_of_lt (hdigits unit hunit).2 (by decide)
  have hnul : 0 ∉ release := by
    intro hzero
    exact absurd (hdigits 0 hzero).1 (by decide)
  have hcontrol : release.any isControl = false := by
    rw [List.any_eq_false]
    intro unit hunit hcontrol
    have hunit := hdigits unit hunit
    simp only [isControl, Bool.or_eq_true, Bool.and_eq_true, decide_eq_true_eq, beq_iff_eq,
      UInt16.le_iff_toNat_le, ← UInt16.toNat_inj] at hunit hcontrol
    simp at hunit hcontrol
    omega
  have hblank : release.getLast? ≠ some 0x20 := by
    intro hlast
    exact absurd (hdigits 0x20 (List.mem_of_getLast? hlast)).1 (by decide)
  exact decodeCallbackName_utf16le ⟨by omega, by omega, hnul, hformed⟩ ⟨hcontrol, hblank⟩ path

end Names

/-- What a decoder can read of a request: plain names, and documents whose roots carry the names
of their parameters. -/
structure Readable (input : CpicCutFunctionRequestInput) : Prop where
  functionName : PlainName input.functionName
  requestedOutputs : ∀ name ∈ input.requestedOutputs, PlainName name
  imports : ∀ parameter ∈ input.imports, PlainName parameter.name
  tables : ∀ table ∈ input.tables, PlainName table.name
  roots : ∀ parameter ∈ input.xrfcParameters,
    decodeRecursiveXrfcParameterName parameter.value = .ok parameter.name

/-- The request which carries an input. -/
def requestOf (input : CpicCutFunctionRequestInput) : RfcCallbackRequest where
  functionName := input.functionName
  kernelRelease := input.release
  requestedOutputs := input.requestedOutputs
  imports := input.imports
  tables := input.tables
  xrfcParameters := input.xrfcParameters.map xrfcParameter

section Scan
variable {input : CpicCutFunctionRequestInput}

theorem not_mem_of_nodup_split {α β : Type} (names : List β) {f : α → β} {before after : List α}
    {x : α} (h : (names ++ (before ++ x :: after).map f).Nodup) :
    f x ∉ names ++ before.map f := by
  rw [List.map_append, List.map_cons, ← List.append_assoc] at h
  have hdisjoint := (List.nodup_append.mp h).2.2
  intro hmem
  exact hdisjoint _ hmem _ List.mem_cons_self rfl

/-- What has been collected behind the fields which every request has. -/
def opened (input : CpicCutFunctionRequestInput) : Collected where
  functionName := some input.functionName
  kernelRelease := input.release

theorem scan_opening (hfits : RequestFits input) (hreadable : Readable input)
    (rest : List CpicField) :
    scan collect 0 {} ([⟨CpicTag.kernel, input.release.utf16le⟩,
        ⟨CpicTag.function, input.functionName.utf16le⟩, ⟨CpicTag.callContext, []⟩] ++ rest) =
      scan collect 0 (opened input) rest := by
  have hkernel (fields : List CpicField) :
      collect {} ⟨CpicTag.kernel, input.release.utf16le⟩ fields =
        .ok ({ kernelRelease := input.release }, 0) := by
    change readKernel {} ⟨CpicTag.kernel, input.release.utf16le⟩ = _
    rw [readKernel, require_of rfl, ok_bind, decodeCallbackName_release hfits.release, ok_bind]
  have hfunction (fields : List CpicField) :
      collect { kernelRelease := input.release }
          ⟨CpicTag.function, input.functionName.utf16le⟩ fields = .ok (opened input, 0) := by
    change readFunction { kernelRelease := input.release }
      ⟨CpicTag.function, input.functionName.utf16le⟩ = _
    rw [readFunction, require_of rfl, ok_bind,
      decodeCallbackName_utf16le hfits.functionName hreadable.functionName, ok_bind]
    rfl
  have hcontext (fields : List CpicField) :
      collect (opened input) ⟨CpicTag.callContext, []⟩ fields = .ok (opened input, 0) := rfl
  simp only [List.cons_append, List.nil_append, scan, hkernel, hfunction, hcontext, ok_bind]

theorem admits_requestedOutputs (hfits : RequestFits input) (hreadable : Readable input) :
    AdmitsAll (fun (s : Collected) name =>
        NameFits name 30 ∧ PlainName name ∧ name ∉ s.requestedOutputs)
      addRequestedOutput (opened input) input.requestedOutputs := by
  apply admitsAll_of_splits
  intro before name after he
  have hname : name ∈ input.requestedOutputs := he ▸ List.mem_append_right _ List.mem_cons_self
  refine ⟨hfits.requestedOutputs name hname, hreadable.requestedOutputs name hname, ?_⟩
  have hnodup := hfits.outputNames
  rw [he, ← List.map_id (before ++ name :: after)] at hnodup
  have hnew := not_mem_of_nodup_split [] hnodup
  rw [List.map_id] at hnew
  rw [foldl_addRequestedOutput]
  exact hnew

variable {s : Collected}

theorem admits_imports (hfits : RequestFits input) (hreadable : Readable input)
    (hnames : (s.names ++ input.imports.map CpicNamedValue.name).Nodup) :
    AdmitsAll (fun (s : Collected) parameter =>
        NameFits parameter.name 30 ∧ PlainName parameter.name ∧ parameter.name ∉ s.names)
      addImport s input.imports := by
  apply admitsAll_of_splits
  intro before parameter after he
  have hparameter : parameter ∈ input.imports :=
    he ▸ List.mem_append_right _ List.mem_cons_self
  refine ⟨hfits.imports parameter hparameter, hreadable.imports parameter hparameter, ?_⟩
  rw [he] at hnames
  rw [foldl_addImport]
  exact not_mem_of_nodup_split s.names hnames

theorem admits_tables (hfits : RequestFits input) (hreadable : Readable input)
    (hnames : (s.names ++ input.tables.map CpicTable.name).Nodup)
    (hbytes : s.decodedTableBytes + (input.tables.map tableBytes).sum ≤
      defaultMaxCpicFieldChainLength) :
    AdmitsAll (fun (s : Collected) table =>
        TableFits table ∧ PlainName table.name ∧ table.name ∉ s.names ∧
          s.decodedTableBytes + tableBytes table ≤ defaultMaxCpicFieldChainLength)
      addTable s input.tables := by
  apply admitsAll_of_splits
  intro before table after he
  have htable : table ∈ input.tables := he ▸ List.mem_append_right _ List.mem_cons_self
  rw [he] at hnames hbytes
  rw [List.map_append, List.map_cons, List.sum_append, List.sum_cons] at hbytes
  rw [foldl_addTable]
  refine ⟨hfits.tables table htable, hreadable.tables table htable,
    not_mem_of_nodup_split s.names hnames, ?_⟩
  dsimp only
  omega

theorem admits_xrfcParameters (hfits : RequestFits input) (hreadable : Readable input)
    (hnames : (s.names ++ input.xrfcParameters.map CpicNamedValue.name).Nodup)
    (hbytes : ∀ parameter ∈ input.xrfcParameters,
      parameter.value.length ≤ defaultMaxCpicFieldChainLength) :
    AdmitsAll (fun (s : Collected) parameter =>
        parameter.value.length ≤ defaultMaxCpicFieldChainLength ∧ parameter.value.length ≠ 0 ∧
          decodeRecursiveXrfcParameterName parameter.value = .ok parameter.name ∧
          parameter.name ∉ s.names)
      addXrfcParameter s input.xrfcParameters := by
  apply admitsAll_of_splits
  intro before parameter after he
  have hparameter : parameter ∈ input.xrfcParameters :=
    he ▸ List.mem_append_right _ List.mem_cons_self
  rw [he] at hnames
  rw [foldl_addXrfcParameter]
  exact ⟨hbytes parameter hparameter, (hfits.xrfcParameters parameter hparameter).2,
    hreadable.roots parameter hparameter, not_mem_of_nodup_split s.names hnames⟩

/-- What has been collected of a request. -/
def collected (input : CpicCutFunctionRequestInput) : Collected where
  functionName := some input.functionName
  kernelRelease := input.release
  requestedOutputs := input.requestedOutputs
  imports := input.imports
  tables := input.tables
  xrfcParameters := input.xrfcParameters.map xrfcParameter
  names := input.names
  decodedTableBytes := (input.tables.map tableBytes).sum

/-- The fields of a readable request are collected, when the chain is within its limit. -/
theorem scan_fields (hfits : RequestFits input) (hreadable : Readable input)
    (hchain : chainLength input.fields ≤ defaultMaxCpicFieldChainLength) :
    scan collect 0 {} (input.fields ++ [endField]) = .ok (collected input) := by
  simp only [CpicCutFunctionRequestInput.fields, chainLength_append] at hchain
  have htables : 0 + (input.tables.map tableBytes).sum ≤ defaultMaxCpicFieldChainLength := by
    have hle : (input.tables.map tableBytes).sum ≤
        chainLength (input.tables.flatMap tableGroup) := by
      rw [chainLength_flatMap]
      exact List.sum_le_sum fun table _ => tableBytes_le_chainLength table
    omega
  have hvalues : ∀ parameter ∈ input.xrfcParameters,
      parameter.value.length ≤ defaultMaxCpicFieldChainLength := by
    intro parameter hparameter
    have hvalue := value_le_chainLength parameter
    have hgroup : chainLength (xrfcGroup parameter) ≤
        chainLength (input.xrfcParameters.flatMap xrfcGroup) := chainLength_le_flatMap hparameter
    omega
  have hnames := hfits.inputNames
  have htableNames := (List.nodup_append.mp hnames).1
  have himportNames := (List.nodup_append.mp htableNames).1
  rw [CpicCutFunctionRequestInput.fields, List.append_assoc, List.append_assoc, List.append_assoc,
    List.append_assoc, scan_opening hfits hreadable,
    scan_groups readsGroup_requestedOutput (admits_requestedOutputs hfits hreadable),
    foldl_addRequestedOutput,
    scan_groups readsGroup_import (admits_imports hfits hreadable ?_), foldl_addImport,
    scan_groups readsGroup_table (admits_tables hfits hreadable ?_ ?_), foldl_addTable,
    scan_groups readsGroup_xrfcParameter (admits_xrfcParameters hfits hreadable ?_ hvalues),
    foldl_addXrfcParameter]
  · have hend (s : Collected) : scan collect 0 s [endField] = .ok s := rfl
    rw [hend]
    simp [collected, opened, CpicCutFunctionRequestInput.names]
  · exact hnames
  · exact htableNames
  · exact htables
  · exact himportNames

end Scan

section Fidelity
variable {input : CpicCutFunctionRequestInput}

/-- A callback request carries the call of an input. -/
def Carries (input : CpicCutFunctionRequestInput) (request : RfcCallbackRequest) : Prop :=
  request.functionName = input.functionName ∧
    request.kernelRelease = input.release ∧
    request.requestedOutputs = input.requestedOutputs ∧
    request.imports = input.imports ∧
    request.tables = input.tables ∧
    request.xrfcParameters.map RfcCallbackXrfcParameter.toCpicNamedValue = input.xrfcParameters

theorem carries_requestOf (input : CpicCutFunctionRequestInput) :
    Carries input (requestOf input) := by
  refine ⟨rfl, rfl, rfl, rfl, rfl, ?_⟩
  rw [requestOf, List.map_map]
  exact List.map_id _

/-- The request which is read from a chain: the packet has six bytes more than the chain, and
the limit of a chain is asked of the packet. -/
theorem decode_chain_eq_ok {chain : Bytes} {request : RfcCallbackRequest}
    (hfits : RequestFits input) (hreadable : Readable input)
    (hchain : encodeCpicFieldChain CpicTag.contextEnd (input.fields ++ [endField]) = .ok chain) :
    decodeCpicRfcCallbackRequest (cpicCutFunctionRequestPrefix ++ chain ++ [0xff, 0xff]) =
        .ok request ↔
      chain.length + 6 ≤ defaultMaxCpicFieldChainLength ∧ requestOf input = request := by
  generalize hdata : cpicCutFunctionRequestPrefix ++ chain ++ [0xff, 0xff] = data
  have hlength : data.length = chain.length + 6 := by
    rw [← hdata, List.length_append, List.length_append]
    change 4 + chain.length + 2 = chain.length + 6
    omega
  have hstart : isCpicRfcCallbackRequest data = true := by
    rw [← hdata, isCpicRfcCallbackRequest, List.append_assoc, List.take_left, beq_self_eq_true]
  have hdrop : data.drop cpicCutFunctionRequestPrefix.length = chain ++ [0xff, 0xff] := by
    rw [← hdata, List.append_assoc, List.drop_left]
  have hfields : decodeCpicFieldChainPrefix (chain ++ [0xff, 0xff]) CpicTag.contextEnd
      CpicTag.end = .ok ⟨input.fields ++ [endField], chain.length⟩ :=
    decodeCpicFieldChainPrefix_encoded hchain
      (fun field hfield => (callTags_spec _ (tag_mem_callTags field hfield)).2) _
  have htrailer : exactCallbackTrailer data cpicCutFunctionRequestPrefix.length chain.length =
      .ok () := by
    apply require_of
    constructor
    · change data.length - (4 + chain.length) = 2
      omega
    · rw [← hdata, ← List.length_append, List.drop_left]
      rfl
  have hbound : chainLength input.fields ≤ defaultMaxCpicFieldChainLength := by
    have hle := chainLength_le_of_encoded hchain
    rw [chainLength_append] at hle
    omega
  have hscan : scan collect 0 {} (input.fields ++ [endField]) = .ok (collected input) :=
    scan_fields hfits hreadable hbound
  have hdecode : decodeCpicRfcCallbackRequest data =
      require (chain.length + 6 ≤ defaultMaxCpicFieldChainLength)
          s!"callback CUT request exceeds {defaultMaxCpicFieldChainLength} bytes" >>= fun _ =>
        .ok (requestOf input) := by
    simp only [decodeCpicRfcCallbackRequest, hstart, require_of trivial, ok_bind,
      boundedCallbackSnapshot, hlength]
    by_cases hsize : chain.length + 6 ≤ defaultMaxCpicFieldChainLength
    · simp only [require_of hsize, ok_bind, hdrop, hfields, htrailer, hscan]
      rfl
    · simp only [require, if_neg hsize, error_bind]
      rfl
  simp only [hdecode, bind_eq_ok, require_eq_ok, exists_const, Except.ok.injEq]

/-- The bytes of the field chain of a request. -/
def requestChainLength (input : CpicCutFunctionRequestInput) : Nat :=
  chainLength (input.fields ++ [endField])

/-- The packet of a request is read if and only if its chain leaves six bytes of the limit to
the prefix and the sentinel of the packet. -/
theorem carries_iff_of_fits (hfits : RequestFits input) (hreadable : Readable input)
    {chain : Bytes} (maximumRfcPacketSize : Nat)
    (hchain : encodeCpicFieldChain CpicTag.contextEnd (input.fields ++ [endField]) = .ok chain) :
    (∃ data request,
        applicationData (cpicCutFunctionRequestPrefix ++ chain ++
          packetTrailer (cpicCutFunctionRequestPrefix.length + chain.length)
            maximumRfcPacketSize) = .ok data ∧
        decodeCpicRfcCallbackRequest data = .ok request ∧ Carries input request) ↔
      requestChainLength input + 6 ≤ defaultMaxCpicFieldChainLength := by
  have hdata := applicationData_packet cpicCutFunctionRequestPrefix hchain (by decide)
    (fun field hfield => (callTags_spec _ (tag_mem_callTags field hfield)).1)
    maximumRfcPacketSize
  have hlength : chain.length = requestChainLength input := by
    obtain ⟨-, _, -, -, -, -, rfl⟩ := encodeCpicFieldChain_eq_ok.mp hchain
    exact length_chainBytes _ _
  rw [hdata, ← hlength]
  constructor
  · rintro ⟨data, request, hdata, hdecode, -⟩
    rw [← Except.ok.inj hdata] at hdecode
    exact ((decode_chain_eq_ok hfits hreadable hchain).mp hdecode).1
  · intro hsize
    exact ⟨_, _, rfl, (decode_chain_eq_ok hfits hreadable hchain).mpr ⟨hsize, rfl⟩,
      carries_requestOf input⟩

/-- A request arrives as it has been sent if and only if its chain is six bytes shorter than
the limit of a chain. -/
theorem request_faithful_iff {packet : Bytes} (h : encodeCpicCutFunctionRequest input = .ok packet)
    (hreadable : Readable input) :
    (∃ data request, applicationData packet = .ok data ∧
        decodeCpicRfcCallbackRequest data = .ok request ∧ Carries input request) ↔
      requestChainLength input + 6 ≤ defaultMaxCpicFieldChainLength := by
  obtain ⟨hfits, chain, hchain, rfl⟩ := encodeCpicCutFunctionRequest_eq_ok.mp h
  exact carries_iff_of_fits hfits hreadable _ hchain

/-- A call with an output, an import, a table of two rows and a document. -/
def sampleRequest : CpicCutFunctionRequestInput where
  functionName := [0x46]
  requestedOutputs := [[0x4f]]
  imports := [⟨[0x49], [1, 2, 3]⟩]
  tables := [⟨[0x54], 2, [[4, 5], [6, 7]]⟩]
  xrfcParameters := [⟨[0x50], [0x3c, 0x50, 0x3e, 0x3c, 0x2f, 0x50, 0x3e]⟩]

theorem sampleRequest_readable : Readable sampleRequest where
  functionName := by decide
  requestedOutputs := by decide
  imports := by decide
  tables := by decide
  roots := by
    intro parameter hparameter
    rw [List.mem_singleton.mp hparameter]
    decide +kernel

theorem request_faithful_sample : ∃ packet,
    encodeCpicCutFunctionRequest sampleRequest = .ok packet ∧
      ∃ data request, applicationData packet = .ok data ∧
        decodeCpicRfcCallbackRequest data = .ok request ∧ Carries sampleRequest request := by
  cases h : encodeCpicCutFunctionRequest sampleRequest with
  | error e =>
      have hok : (encodeCpicCutFunctionRequest sampleRequest).isOk = true := by decide +kernel
      rw [h] at hok
      cases hok
  | ok packet =>
      exact ⟨packet, rfl, (request_faithful_iff h sampleRequest_readable).mpr (by decide)⟩

section Limit

/-- A call with one import of a given length. -/
def bulkyRequest (size : Nat) : CpicCutFunctionRequestInput where
  functionName := [0x46]
  imports := [⟨[0x49], List.replicate size 0⟩]

theorem bulkyRequest_fits (size : Nat) : RequestFits (bulkyRequest size) where
  release := by
    change isKernelRelease defaultKernelRelease = true
    decide
  packetSize := by
    change (0 : Int) ≤ 0x8500 ∧ (0x8500 : Int) ≤ 0xffffffff
    decide
  functionName := by
    change NameFits [0x46] 40
    decide
  requestedOutputs := nofun
  imports := by
    intro parameter hparameter
    rw [List.mem_singleton.mp hparameter]
    change NameFits [0x49] 30
    decide
  tables := nofun
  xrfcParameters := nofun
  outputNames := List.nodup_nil
  inputNames := List.nodup_singleton _

theorem bulkyRequest_readable (size : Nat) : Readable (bulkyRequest size) where
  functionName := by
    change PlainName [0x46]
    decide
  requestedOutputs := nofun
  imports := by
    intro parameter hparameter
    rw [List.mem_singleton.mp hparameter]
    change PlainName [0x49]
    decide
  tables := nofun
  roots := nofun

theorem requestChainLength_bulkyRequest {size : Nat} (h : rfcProCompactLengthMax < size) :
    requestChainLength (bulkyRequest size) = size + 50 := by
  have hheader : headerLength size = 8 := if_neg (Nat.not_le.mpr h)
  have hvalue : recordLength ⟨CpicTag.parameterValue, List.replicate size 0⟩ = 2 + 8 + size := by
    rw [recordLength, List.length_replicate, hheader]
  change 12 + (8 + (6 + (8 +
    (recordLength ⟨CpicTag.parameterValue, List.replicate size 0⟩ + (6 + 0))))) = size + 50
  omega

/-- The encoder accepts the call as long as the chain is within its limit. -/
theorem bulkyRequest_chain {size : Nat} (h : rfcProCompactLengthMax < size)
    (hsize : size + 50 ≤ defaultMaxCpicFieldChainLength) :
    encodeCpicFieldChain CpicTag.contextEnd ((bulkyRequest size).fields ++ [endField]) =
      .ok (chainBytes CpicTag.contextEnd ((bulkyRequest size).fields ++ [endField])) := by
  have hchain : chainLength ((bulkyRequest size).fields ++ [endField]) = size + 50 :=
    requestChainLength_bulkyRequest h
  refine encodeCpicFieldChain_eq_ok.mpr ⟨by decide, _, resolve_default, ?_, ?_, ?_, rfl⟩
  · change 6 ≤ defaultMaxCpicFieldCount
    decide
  · intro field hfield
    constructor
    · rcases List.mem_append.mp hfield with hfield | hfield
      · exact callTags_range _ (tag_mem_callTags field hfield)
      · rw [List.mem_singleton.mp hfield]
        decide
    · have hvalue := value_le_chainLength_of_mem hfield
      change field.value.length ≤ defaultMaxCpicFieldChainLength
      omega
  · rw [hchain]
    exact hsize

/-- The encoder fills the limit of a chain to its last byte. The decoder does not. -/
theorem not_request_faithful : ∃ input packet, encodeCpicCutFunctionRequest input = .ok packet ∧
    Readable input ∧
    ¬ ∃ data request, applicationData packet = .ok data ∧
      decodeCpicRfcCallbackRequest data = .ok request ∧ Carries input request := by
  have hcompact : rfcProCompactLengthMax < 268435406 := by decide
  have hchain := bulkyRequest_chain hcompact (by decide)
  have hfits := bulkyRequest_fits 268435406
  have hreadable := bulkyRequest_readable 268435406
  refine ⟨bulkyRequest 268435406, _, encodeCpicCutFunctionRequest_eq_ok.mpr
    ⟨hfits, _, hchain, rfl⟩, hreadable, ?_⟩
  rw [carries_iff_of_fits hfits hreadable _ hchain, requestChainLength_bulkyRequest hcompact]
  decide

end Limit

end Fidelity
end OpenRfc.Callback
