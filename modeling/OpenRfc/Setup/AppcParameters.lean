import OpenRfc.Setup.AsciiText
import OpenRfc.Wire.CheckedReader

/-!
The parameters of the APPC records which open a conversation. Texts are padded with NUL or with
spaces, and end at the first padding byte; a text which is padded with spaces is therefore read
back only if it contains none.
-/

namespace OpenRfc.Setup
open Fallible Wire CheckedByteReader

def appcExtendedInitializeOptionsLength : Nat := 341
def appcInitializeParametersLength : Nat := 373
def appcPartnerParametersLength : Nat := 144

structure AppcExtendedInitializeOptions where
  optionFlags : Int
  rootId : JsString
  connectionId : JsString
  connectionIdSuffix : Int
  timeout : Int
  keepaliveTimeout : Int
  exportTrace : Int
  startType : Int
  networkProtocol : Int
  localAddressV6 : Bytes
  longLogicalUnitName : JsString
  operatingSystemUser : JsString
  localAddressV4 : Bytes
  longTransactionProgramName : JsString
deriving DecidableEq, Repr

structure AppcInitializeParameters where
  clientIdentifier : JsString
  options : AppcExtendedInitializeOptions
deriving DecidableEq, Repr

structure AppcPartnerLogicalUnitParameters where
  longLogicalUnitName : JsString
  partnerHostAddress : Bytes
deriving DecidableEq, Repr

def exactBytes (value : Bytes) (length : Nat) (field : String) : Except String Bytes := do
  require (value.length = length)
    s!"{field} must contain exactly {length} bytes; received {value.length}"
  .ok value

/-- `/^[0-9A-F]{16}$/` -/
def isHexId (value : JsString) : Bool :=
  value.length = 16 ∧ value.all fun unit =>
    (0x30 ≤ unit ∧ unit ≤ 0x39) ∨ (0x41 ≤ unit ∧ unit ≤ 0x46)

def fixedHexId (value : JsString) (field : String) : Except String Bytes := do
  require (isHexId value)
    s!"{field} must contain exactly 16 uppercase hexadecimal characters"
  .ok (asciiBytes value)

/-- `"CPIC"` -/
def cpicProtocolName : JsString := [0x43, 0x50, 0x49, 0x43]

section Encode

def encodeAppcExtendedInitializeOptions (options : AppcExtendedInitializeOptions) :
    Except String Bytes :=
  encodeSteps appcExtendedInitializeOptionsLength "APPC extended initialize options"
    [.ok (.uint 1 1 "version"),
      .ok (.uint 1 options.optionFlags "optionFlags"),
      bytesField (encodePaddedAscii cpicProtocolName 8 0 "protocolName") "protocolName",
      bytesField (fixedHexId options.rootId "rootId") "rootId",
      bytesField (fixedHexId options.connectionId "connectionId") "connectionId",
      .ok (.uint 4 options.connectionIdSuffix "connectionIdSuffix"),
      .ok (.int32 options.timeout "timeout"),
      .ok (.int32 options.keepaliveTimeout "keepaliveTimeout"),
      .ok (.uint 1 options.exportTrace "exportTrace"),
      .ok (.uint 1 options.startType "startType"),
      .ok (.uint 1 options.networkProtocol "networkProtocol"),
      bytesField (exactBytes options.localAddressV6 16 "localAddressV6") "localAddressV6",
      bytesField (encodePaddedAscii options.longLogicalUnitName 128 0 "longLogicalUnitName")
        "longLogicalUnitName",
      .ok (.bytes (Bytes.alloc 16) "reserved1"),
      bytesField (encodePaddedAscii options.operatingSystemUser 12 0x20 "operatingSystemUser")
        "operatingSystemUser",
      .ok (.bytes (Bytes.alloc 8) "reserved2"),
      .ok (.bytes (Bytes.alloc 4) "reserved3"),
      .ok (.bytes (Bytes.alloc 12) "reserved4"),
      .ok (.bytes (Bytes.alloc 16) "reserved5"),
      bytesField (exactBytes options.localAddressV4 4 "localAddressV4") "localAddressV4",
      .ok (.bytes (Bytes.alloc 4) "reserved6"),
      bytesField (encodePaddedAscii options.longTransactionProgramName 64 0
        "longTransactionProgramName") "longTransactionProgramName"]

def encodeAppcInitializeParameters (parameters : AppcInitializeParameters) : Except String Bytes :=
  encodeSteps appcInitializeParametersLength "APPC initialize parameters"
    [bytesField (encodePaddedAscii parameters.clientIdentifier 32 0x20 "clientIdentifier")
        "clientIdentifier",
      bytesField (encodeAppcExtendedInitializeOptions parameters.options) "extendedOptions"]

def encodeAppcPartnerLogicalUnitParameters (parameters : AppcPartnerLogicalUnitParameters) :
    Except String Bytes :=
  encodeSteps appcPartnerParametersLength "APPC partner logical-unit parameters"
    [bytesField (encodePaddedAscii parameters.longLogicalUnitName 128 0x20 "longLogicalUnitName")
        "longLogicalUnitName",
      bytesField (exactBytes parameters.partnerHostAddress 16 "partnerHostAddress")
        "partnerHostAddress"]

end Encode

section Decode

/-- A text of a record. -/
def readPaddedAscii (length : Nat) (padding : UInt8) (field : String) : Read JsString := do
  let bytes ← readBytes length field
  StateT.lift (decodePaddedAscii bytes padding field)

def readHexId (field : String) : Read JsString := do
  let bytes ← readBytes 16 field
  let _ ← StateT.lift (fixedHexId (asciiText bytes) field)
  pure (asciiText bytes)

def readReserved (length : Nat) (field : String) : Read Unit := do
  let reserved ← readBytes length field
  check (∀ byte ∈ reserved, byte = 0) s!"APPC extended initialize {field} must be zero"

def readAppcExtendedInitializeOptions : Read AppcExtendedInitializeOptions := do
  let version ← readUInt 1 "version"
  check (version = 1) s!"unsupported APPC extended initialize options version {version}"
  let optionFlags ← readUInt 1 "optionFlags"
  let protocolName ← readPaddedAscii 8 0 "protocolName"
  check (protocolName = cpicProtocolName)
    s!"unsupported APPC extended initialize protocol {protocolName.text}"
  let rootId ← readHexId "rootId"
  let connectionId ← readHexId "connectionId"
  let connectionIdSuffix ← readUInt 4 "connectionIdSuffix"
  let timeout ← readInt32BE "timeout"
  let keepaliveTimeout ← readInt32BE "keepaliveTimeout"
  let exportTrace ← readUInt 1 "exportTrace"
  let startType ← readUInt 1 "startType"
  let networkProtocol ← readUInt 1 "networkProtocol"
  let localAddressV6 ← readBytes 16 "localAddressV6"
  let longLogicalUnitName ← readPaddedAscii 128 0 "longLogicalUnitName"
  readReserved 16 "reserved1"
  let operatingSystemUser ← readPaddedAscii 12 0x20 "operatingSystemUser"
  readReserved 8 "reserved2"
  readReserved 4 "reserved3"
  readReserved 12 "reserved4"
  readReserved 16 "reserved5"
  let localAddressV4 ← readBytes 4 "localAddressV4"
  readReserved 4 "reserved6"
  let longTransactionProgramName ← readPaddedAscii 64 0 "longTransactionProgramName"
  pure
    { optionFlags, rootId, connectionId, connectionIdSuffix, timeout, keepaliveTimeout, exportTrace,
      startType, networkProtocol, localAddressV6, longLogicalUnitName, operatingSystemUser,
      localAddressV4, longTransactionProgramName }

def decodeAppcExtendedInitializeOptions (data : Bytes) :
    Except String AppcExtendedInitializeOptions := do
  require (data.length = appcExtendedInitializeOptionsLength)
    (s!"APPC extended initialize options need exactly {appcExtendedInitializeOptionsLength} " ++
      s!"bytes; received {data.length}")
  CheckedByteReader.run "APPC extended initialize options" data do
    let options ← readAppcExtendedInitializeOptions
    finish
    pure options

/-- The options within the parameters. -/
def readExtendedOptions : Read AppcExtendedInitializeOptions := do
  let bytes ← readBytes appcExtendedInitializeOptionsLength "extendedOptions"
  StateT.lift (decodeAppcExtendedInitializeOptions bytes)

def readAppcInitializeParameters : Read AppcInitializeParameters := do
  let clientIdentifier ← readPaddedAscii 32 0x20 "clientIdentifier"
  let options ← readExtendedOptions
  pure ⟨clientIdentifier, options⟩

def decodeAppcInitializeParameters (data : Bytes) : Except String AppcInitializeParameters := do
  require (data.length = appcInitializeParametersLength)
    (s!"APPC initialize parameters need exactly {appcInitializeParametersLength} bytes; " ++
      s!"received {data.length}")
  CheckedByteReader.run "APPC initialize parameters" data do
    let parameters ← readAppcInitializeParameters
    finish
    pure parameters

def readAppcPartnerLogicalUnitParameters : Read AppcPartnerLogicalUnitParameters := do
  let longLogicalUnitName ← readPaddedAscii 128 0x20 "longLogicalUnitName"
  let partnerHostAddress ← readBytes 16 "partnerHostAddress"
  pure ⟨longLogicalUnitName, partnerHostAddress⟩

def decodeAppcPartnerLogicalUnitParameters (data : Bytes) :
    Except String AppcPartnerLogicalUnitParameters := do
  require (data.length = appcPartnerParametersLength)
    (s!"APPC partner logical-unit parameters need exactly {appcPartnerParametersLength} bytes; " ++
      s!"received {data.length}")
  CheckedByteReader.run "APPC partner logical-unit parameters" data do
    let parameters ← readAppcPartnerLogicalUnitParameters
    finish
    pure parameters

end Decode

section Fields
variable {value : JsString} {bytes : Bytes} {field name : String} {length : Nat} {padding : UInt8}

theorem reads_exactBytes {made : Bytes} (h : exactBytes bytes length field = .ok made) :
    Reads (readBytes length name) made bytes := by
  simp only [exactBytes, bind_eq_ok, require_eq_ok, exists_const, Except.ok.injEq] at h
  obtain ⟨hlength, rfl⟩ := h
  exact reads_bytes hlength

theorem reads_paddedAscii (h : encodePaddedAscii value length padding field = .ok bytes)
    (hpadding : padding ∉ asciiBytes value) : Reads (readPaddedAscii length padding name) bytes value := by
  rw [readPaddedAscii, ← List.append_nil bytes]
  refine (reads_bytes (length_encodePaddedAscii h)).bind ?_
  exact reads_lift (decodePaddedAscii_of h hpadding name)

theorem printable_of_encoded (h : encodePaddedAscii value length padding field = .ok bytes) :
    isPrintable value = true :=
  (encodePaddedAscii_eq_ok.mp h).1.1

/-- A text which is padded with NUL. -/
theorem reads_zeroPadded (h : encodePaddedAscii value length 0 field = .ok bytes) :
    Reads (readPaddedAscii length 0 name) bytes value :=
  reads_paddedAscii h (zero_not_mem_asciiBytes (printable_of_encoded h))

/-- A text which is padded with spaces, and contains none. -/
theorem reads_spacePadded (hspace : 0x20 ∉ value)
    (h : encodePaddedAscii value length 0x20 field = .ok bytes) :
    Reads (readPaddedAscii length 0x20 name) bytes value :=
  reads_paddedAscii h (space_not_mem_asciiBytes (printable_of_encoded h) hspace)

theorem isPrintable_of_hexId (h : isHexId value = true) : isPrintable value = true := by
  simp only [isHexId, Bool.decide_and, Bool.and_eq_true, decide_eq_true_eq, List.all_eq_true] at h
  rw [isPrintable_iff]
  intro unit hunit
  have hdigit := h.2 unit hunit
  simp only [UInt16.le_iff_toNat_le, UInt16.reduceToNat] at hdigit ⊢
  omega

theorem reads_hexId (h : fixedHexId value field = .ok bytes) : Reads (readHexId name) bytes value := by
  simp only [fixedHexId, bind_eq_ok, require_eq_ok, exists_const, Except.ok.injEq] at h
  obtain ⟨hvalue, rfl⟩ := h
  have hlength : (asciiBytes value).length = 16 := by
    simp only [isHexId, Bool.decide_and, Bool.and_eq_true, decide_eq_true_eq] at hvalue
    rw [asciiBytes, List.length_map, hvalue.1]
  have hchecked : fixedHexId (asciiText (asciiBytes value)) name = .ok (asciiBytes value) := by
    rw [asciiText_asciiBytes (isPrintable_of_hexId hvalue), fixedHexId, require_of hvalue, ok_bind]
  rw [readHexId, ← List.append_nil (asciiBytes value)]
  refine (reads_bytes hlength).bind ((reads_lift hchecked).after ?_)
  rw [asciiText_asciiBytes (isPrintable_of_hexId hvalue)]
  exact reads_pure value

theorem reads_reserved : Reads (readReserved length name) (Bytes.alloc length) () := by
  rw [readReserved, ← List.append_nil (Bytes.alloc length)]
  refine (reads_bytes List.length_replicate).bind (reads_check fun byte hbyte => ?_)
  exact List.eq_of_mem_replicate hbyte

end Fields

section RoundTrip

/-- What is written of options is read back. -/
theorem decodeAppcExtendedInitializeOptions_of {options : AppcExtendedInitializeOptions}
    {record : Bytes} (hspace : 0x20 ∉ options.operatingSystemUser)
    (h : encodeAppcExtendedInitializeOptions options = .ok record) :
    decodeAppcExtendedInitializeOptions record = .ok options := by
  obtain ⟨hwritten, hlength⟩ := encodeSteps_eq_ok h
  obtain ⟨optionFlags, rootId, connectionId, connectionIdSuffix, timeout, keepaliveTimeout,
    exportTrace, startType, networkProtocol, localAddressV6, longLogicalUnitName,
    operatingSystemUser, localAddressV4, longTransactionProgramName⟩ := options
  rw [decodeAppcExtendedInitializeOptions, require_of hlength, ok_bind]
  apply Reads.run
  refine hwritten.reads_uint fun version _ hversion h => ?_
  refine (reads_check (by omega)).after (h.reads_uint fun _ _ hflags h => ?_)
  refine h.reads_bytes (fun _ => reads_zeroPadded) fun _ h => ?_
  refine (reads_check rfl).after ?_
  refine h.reads_bytes (fun _ => reads_hexId) fun _ h => ?_
  refine h.reads_bytes (fun _ => reads_hexId) fun _ h => ?_
  refine h.reads_uint fun _ _ hsuffix h => ?_
  refine h.reads_int32 fun _ h => ?_
  refine h.reads_int32 fun _ h => ?_
  refine h.reads_uint fun _ _ htrace h => ?_
  refine h.reads_uint fun _ _ hstart h => ?_
  refine h.reads_uint fun _ _ hnetwork h => ?_
  refine h.reads_bytes (fun _ => reads_exactBytes) fun _ h => ?_
  refine h.reads_bytes (fun _ => reads_zeroPadded) fun _ h => ?_
  refine h.reads_field reads_reserved fun _ h => ?_
  refine h.reads_bytes (fun _ => reads_spacePadded hspace) fun _ h => ?_
  refine h.reads_field reads_reserved fun _ h => ?_
  refine h.reads_field reads_reserved fun _ h => ?_
  refine h.reads_field reads_reserved fun _ h => ?_
  refine h.reads_field reads_reserved fun _ h => ?_
  refine h.reads_bytes (fun _ => reads_exactBytes) fun _ h => ?_
  refine h.reads_field reads_reserved fun _ h => ?_
  refine h.reads_bytes (fun _ => reads_zeroPadded) fun _ h => ?_
  simp only at hflags hsuffix htrace hstart hnetwork
  rw [← hflags, ← hsuffix, ← htrace, ← hstart, ← hnetwork]
  exact h.reads_end _

theorem reads_extendedOptions {options : AppcExtendedInitializeOptions} {bytes : Bytes}
    (hspace : 0x20 ∉ options.operatingSystemUser)
    (h : encodeAppcExtendedInitializeOptions options = .ok bytes) :
    Reads readExtendedOptions bytes options := by
  rw [readExtendedOptions, ← List.append_nil bytes]
  refine (reads_bytes (encodeSteps_eq_ok h).2).bind ?_
  exact reads_lift (decodeAppcExtendedInitializeOptions_of hspace h)

theorem decodeAppcInitializeParameters_of {parameters : AppcInitializeParameters} {record : Bytes}
    (hclient : 0x20 ∉ parameters.clientIdentifier)
    (huser : 0x20 ∉ parameters.options.operatingSystemUser)
    (h : encodeAppcInitializeParameters parameters = .ok record) :
    decodeAppcInitializeParameters record = .ok parameters := by
  obtain ⟨hwritten, hlength⟩ := encodeSteps_eq_ok h
  rw [decodeAppcInitializeParameters, require_of hlength, ok_bind]
  apply Reads.run
  refine hwritten.reads_bytes (fun _ => reads_spacePadded hclient) fun _ h => ?_
  refine h.reads_bytes (fun _ => reads_extendedOptions huser) fun _ h => ?_
  exact h.reads_end parameters

theorem decodeAppcPartnerLogicalUnitParameters_of {parameters : AppcPartnerLogicalUnitParameters}
    {record : Bytes} (hname : 0x20 ∉ parameters.longLogicalUnitName)
    (h : encodeAppcPartnerLogicalUnitParameters parameters = .ok record) :
    decodeAppcPartnerLogicalUnitParameters record = .ok parameters := by
  obtain ⟨hwritten, hlength⟩ := encodeSteps_eq_ok h
  rw [decodeAppcPartnerLogicalUnitParameters, require_of hlength, ok_bind]
  apply Reads.run
  refine hwritten.reads_bytes (fun _ => reads_spacePadded hname) fun _ h => ?_
  refine h.reads_bytes (fun _ => reads_exactBytes) fun _ h => ?_
  exact h.reads_end parameters

end RoundTrip
end OpenRfc.Setup
