import OpenRfc.Foundation.Numeral
import OpenRfc.Setup.AppcParameters

/-!
The record which a gateway receives from a client in front of the APPC setup. Its texts are padded
with NUL or with spaces, and padding of either kind is taken from their ends.
-/

namespace OpenRfc.Setup
open Fallible Wire CheckedByteReader

def gatewayNormalClientLength : Nat := 64
def gatewayProtocolVersion : Nat := 2
def gatewayNormalClientRequest : Nat := 3

structure GatewayNormalClientRecord where
  address : JsString
  service : JsString
  codePage : JsString
  gatewayOptionLevel : Int
  logicalUnit : JsString
  transactionProgram : JsString
  conversationId : JsString
  appcHeaderVersion : Int
  acceptInfo : Int
  index : Int
  returnCode : Int
  echoData : Int
deriving DecidableEq, Repr

/-- The number which a string of digits starts with: `Number(part)` for a part of an address. -/
def octet (part : JsString) : UInt8 := UInt8.ofNat (Numeral.readDigits part).1.number

/-- `String(byte)` -/
def octetText (byte : UInt8) : JsString := Numeral.text (Digits.ofNat byte.toNat)

/-- `isIPv4`: four octets in decimal, without leading zeros. -/
def isIPv4 (address : JsString) : Bool :=
  let parts := address.splitOn 0x2e
  parts.length = 4 ∧ parts.all fun part => octetText (octet part) = part

def encodeIpv4 (address : JsString) : Except String Bytes := do
  require (isIPv4 address) "address must be an IPv4 address for gateway protocol version 2"
  .ok ((address.splitOn 0x2e).map octet)

def decodeIpv4 (data : Bytes) : JsString := [0x2e].intercalate (data.map octetText)

def validateSigned16 (value : Int) : Except String Unit :=
  require (-0x8000 ≤ value ∧ value ≤ 0x7fff) "index must be a signed 16-bit integer"

/-- `/^\d{4}$/` -/
def isCodePage (codePage : JsString) : Bool :=
  codePage.length = 4 ∧ codePage.all fun unit => 0x30 ≤ unit ∧ unit ≤ 0x39

def encodeGatewayNormalClient (record : GatewayNormalClientRecord) : Except String Bytes := do
  validateSigned16 record.index
  require (isCodePage record.codePage) "codePage must contain exactly four ASCII digits"
  encodeSteps gatewayNormalClientLength "gateway normal-client record"
    [.ok (.uint 1 gatewayProtocolVersion "version"),
      .ok (.uint 1 gatewayNormalClientRequest "requestType"),
      bytesField (encodeIpv4 record.address) "address",
      .ok (.uint 4 0 "reserved1"),
      bytesField (encodePaddedAscii record.service 10 0 "service") "service",
      .ok (.bytes (asciiBytes record.codePage) "codePage"),
      .ok (.bytes (Bytes.alloc 5) "reserved2"),
      .ok (.uint 1 record.gatewayOptionLevel "gatewayOptionLevel"),
      bytesField (encodePaddedAscii record.logicalUnit 8 0x20 "logicalUnit") "logicalUnit",
      bytesField (encodePaddedAscii record.transactionProgram 8 0x20 "transactionProgram")
        "transactionProgram",
      bytesField (encodePaddedAscii record.conversationId 8 0x20 "conversationId")
        "conversationId",
      .ok (.uint 1 record.appcHeaderVersion "appcHeaderVersion"),
      .ok (.uint 1 record.acceptInfo "acceptInfo"),
      .ok (.uint 2 (record.index % 0x10000) "index"),
      .ok (.uint 4 record.returnCode "returnCode"),
      .ok (.uint 1 record.echoData "echoData"),
      .ok (.uint 1 0 "filler")]

section Decode

/-- A text of a record. -/
def readAscii (length : Nat) (field : String) : Read JsString := do
  let bytes ← readBytes length field
  StateT.lift (decodeAscii bytes field)

def readIpv4 : Read JsString := do
  let bytes ← readBytes 4 "address"
  pure (decodeIpv4 bytes)

def readZero (width : Nat) (field : String) : Read Unit := do
  let value ← readUInt width field
  check (value = 0) s!"gateway normal-client {field} field must be zero"

def readZeros (length : Nat) (field : String) : Read Unit := do
  let reserved ← readBytes length field
  check (reserved = Bytes.alloc length) s!"gateway normal-client {field} field must be zero"

def signedIndex (unsignedIndex : Nat) : Int :=
  if unsignedIndex > 0x7fff then unsignedIndex - 0x10000 else unsignedIndex

def readGatewayNormalClient : Read GatewayNormalClientRecord := do
  let _ ← readUInt 1 "version"
  let requestType ← readUInt 1 "requestType"
  check (requestType = gatewayNormalClientRequest)
    s!"expected GW_NORMAL_CLIENT request type 3; received {requestType}"
  let address ← readIpv4
  readZero 4 "reserved1"
  let service ← readAscii 10 "service"
  let codePage ← readAscii 4 "codePage"
  readZeros 5 "reserved2"
  let gatewayOptionLevel ← readUInt 1 "gatewayOptionLevel"
  let logicalUnit ← readAscii 8 "logicalUnit"
  let transactionProgram ← readAscii 8 "transactionProgram"
  let conversationId ← readAscii 8 "conversationId"
  let appcHeaderVersion ← readUInt 1 "appcHeaderVersion"
  let acceptInfo ← readUInt 1 "acceptInfo"
  let unsignedIndex ← readUInt 2 "index"
  let returnCode ← readUInt 4 "returnCode"
  let echoData ← readUInt 1 "echoData"
  readZero 1 "filler"
  pure
    { address, service, codePage, gatewayOptionLevel, logicalUnit, transactionProgram,
      conversationId, appcHeaderVersion, acceptInfo, index := signedIndex unsignedIndex,
      returnCode, echoData }

def decodeGatewayNormalClient (data : Bytes) : Except String GatewayNormalClientRecord := do
  require (2 ≤ data.length) "gateway normal-client record needs at least 2 bytes"
  let version := data.headD 0
  require (version ≠ 3) "gateway protocol version 3 IPv6 records are not implemented"
  require (version.toNat = gatewayProtocolVersion) s!"unsupported gateway protocol version {version}"
  require (data.length = gatewayNormalClientLength)
    (s!"gateway version-2 normal-client record needs {gatewayNormalClientLength} bytes; " ++
      s!"received {data.length}")
  CheckedByteReader.run "gateway normal-client record" data do
    let record ← readGatewayNormalClient
    finish
    pure record

end Decode

section RoundTrip
variable {value : JsString} {bytes : Bytes} {field name : String} {length : Nat} {padding : UInt8}

theorem reads_ipv4 (h : encodeIpv4 value = .ok bytes) : Reads readIpv4 bytes value := by
  simp only [encodeIpv4, bind_eq_ok, require_eq_ok, exists_const, Except.ok.injEq] at h
  obtain ⟨hvalid, rfl⟩ := h
  simp only [isIPv4, Bool.decide_and, Bool.and_eq_true, decide_eq_true_eq, List.all_eq_true] at hvalid
  obtain ⟨hlength, hparts⟩ := hvalid
  have hread : Reads readIpv4 _ _ :=
    (reads_bytes ((List.length_map octet).trans hlength)).map decodeIpv4
  have hsame : ∀ part ∈ value.splitOn 0x2e, (octetText ∘ octet) part = id part := hparts
  have htext : decodeIpv4 ((value.splitOn 0x2e).map octet) = value := by
    rw [decodeIpv4, List.map_map, List.map_congr_left hsame, List.map_id, List.intercalate_splitOn]
  rwa [htext] at hread

/-- A text which does not end with a space. -/
theorem reads_ascii (hpadding : padding = 0 ∨ padding = 0x20) (hlast : value.getLast? ≠ some 0x20)
    (h : encodePaddedAscii value length padding field = .ok bytes) :
    Reads (readAscii length name) bytes value := by
  rw [readAscii, ← List.append_nil bytes]
  refine (reads_bytes (length_encodePaddedAscii h)).bind ?_
  exact reads_lift (decodeAscii_of h hpadding hlast name)

theorem reads_codePage (h : isCodePage value = true) :
    Reads (readAscii 4 name) (asciiBytes value) value := by
  simp only [isCodePage, Bool.decide_and, Bool.and_eq_true, decide_eq_true_eq, List.all_eq_true] at h
  obtain ⟨hlength, hdigits⟩ := h
  simp only [UInt16.le_iff_toNat_le, UInt16.reduceToNat] at hdigits
  have hprintable : isPrintable value = true := by
    rw [isPrintable_iff]
    intro unit hunit
    have hdigit := hdigits unit hunit
    simp only [UInt16.le_iff_toNat_le, UInt16.reduceToNat]
    omega
  have hencoded : encodePaddedAscii value 4 0 name = .ok (asciiBytes value) := by
    refine encodePaddedAscii_eq_ok.mpr ⟨⟨hprintable, hlength.le⟩, ?_⟩
    rw [hlength, Nat.sub_self, List.replicate_zero, List.append_nil]
  refine reads_ascii (.inl rfl) (fun hlast => ?_) hencoded
  exact absurd (hdigits _ (List.mem_of_getLast? hlast)).1 (by decide)

theorem reads_zeros : Reads (readZeros length name) (Bytes.alloc length) () := by
  have hread : Reads (readZeros length name) (Bytes.alloc length ++ []) () :=
    (reads_bytes List.length_replicate).bind (reads_check rfl)
  rwa [List.append_nil] at hread

theorem reads_zero {width : Nat} {steps : List (Except String Field)} {record : Bytes} {β : Type}
    {next : Unit → Read β} {b : β} (h : Written (.ok (.uint width 0 field) :: steps) record)
    (hnext : ∀ rest, Written steps rest → Reads (next ()) rest b) :
    Reads (readZero width name >>= next) record b := by
  rw [readZero, bind_assoc]
  refine h.reads_uint fun value rest hvalue h => (reads_check ?_).after (hnext rest h)
  omega

theorem signedIndex_of {index : Int} {unsignedIndex : Nat} (hlower : -0x8000 ≤ index)
    (hupper : index ≤ 0x7fff) (h : index % 0x10000 = unsignedIndex) :
    signedIndex unsignedIndex = index := by
  rw [signedIndex]
  split <;> omega

/-- What is written of a client is read back. -/
theorem decodeGatewayNormalClient_of {record : GatewayNormalClientRecord}
    (hservice : record.service.getLast? ≠ some 0x20)
    (hunit : record.logicalUnit.getLast? ≠ some 0x20)
    (hprogram : record.transactionProgram.getLast? ≠ some 0x20)
    (hconversation : record.conversationId.getLast? ≠ some 0x20)
    (h : encodeGatewayNormalClient record = .ok bytes) :
    decodeGatewayNormalClient bytes = .ok record := by
  simp only [encodeGatewayNormalClient, validateSigned16, bind_eq_ok, require_eq_ok,
    exists_const] at h
  obtain ⟨⟨hlower, hupper⟩, hcodePage, h⟩ := h
  obtain ⟨hwritten, hlength⟩ := encodeSteps_eq_ok h
  have hhead : bytes.headD 0 = 2 := by
    cases hwritten with
    | cons _ _ => rfl
  rw [decodeGatewayNormalClient, require_of (by rw [hlength]; decide), ok_bind]
  simp only [hhead]
  rw [require_of (by decide), ok_bind, require_of (by decide), ok_bind, require_of hlength, ok_bind]
  clear h hlength hhead
  apply Reads.run
  refine hwritten.reads_uint fun _ _ _ h => ?_
  refine h.reads_uint fun _ _ hrequest h => (reads_check (Int.ofNat_inj.mp hrequest.symm)).after ?_
  refine h.reads_bytes (fun _ => reads_ipv4) fun _ h => ?_
  refine reads_zero h fun _ h => ?_
  refine h.reads_bytes (fun _ => reads_ascii (.inl rfl) hservice) fun _ h => ?_
  refine h.reads_field (reads_codePage hcodePage) fun _ h => ?_
  refine h.reads_field reads_zeros fun _ h => ?_
  refine h.reads_uint fun _ _ hlevel h => ?_
  refine h.reads_bytes (fun _ => reads_ascii (.inr rfl) hunit) fun _ h => ?_
  refine h.reads_bytes (fun _ => reads_ascii (.inr rfl) hprogram) fun _ h => ?_
  refine h.reads_bytes (fun _ => reads_ascii (.inr rfl) hconversation) fun _ h => ?_
  refine h.reads_uint fun _ _ hversion h => ?_
  refine h.reads_uint fun _ _ haccept h => ?_
  refine h.reads_uint fun _ _ hindex h => ?_
  refine h.reads_uint fun _ _ hreturn h => ?_
  refine h.reads_uint fun _ _ hecho h => ?_
  refine reads_zero h fun _ h => ?_
  rw [← hlevel, ← hversion, ← haccept, ← hreturn, ← hecho, signedIndex_of hlower hupper hindex]
  exact h.reads_end record

end RoundTrip

/-- Every record which is written is read back. -/
def RecordsReadBack : Prop :=
  (∀ parameters record, encodeAppcInitializeParameters parameters = .ok record →
      decodeAppcInitializeParameters record = .ok parameters) ∧
    (∀ parameters record, encodeAppcPartnerLogicalUnitParameters parameters = .ok record →
      decodeAppcPartnerLogicalUnitParameters record = .ok parameters) ∧
    ∀ client record, encodeGatewayNormalClient client = .ok record →
      decodeGatewayNormalClient record = .ok client

/-- The texts which are padded with spaces, and end at the first of them. -/
def AppcInitializeParameters.SpaceFree (parameters : AppcInitializeParameters) : Prop :=
  0x20 ∉ parameters.clientIdentifier ∧ 0x20 ∉ parameters.options.operatingSystemUser

instance (parameters : AppcInitializeParameters) : Decidable parameters.SpaceFree :=
  inferInstanceAs (Decidable (_ ∧ _))

def AppcPartnerLogicalUnitParameters.SpaceFree (parameters : AppcPartnerLogicalUnitParameters) :
    Prop :=
  0x20 ∉ parameters.longLogicalUnitName

instance (parameters : AppcPartnerLogicalUnitParameters) : Decidable parameters.SpaceFree :=
  inferInstanceAs (Decidable (¬_))

/-- The texts from whose ends spaces are taken. -/
def GatewayNormalClientRecord.texts (client : GatewayNormalClientRecord) : List JsString :=
  [client.service, client.logicalUnit, client.transactionProgram, client.conversationId]

def GatewayNormalClientRecord.Trimmed (client : GatewayNormalClientRecord) : Prop :=
  ∀ value ∈ client.texts, value.getLast? ≠ some 0x20

instance (client : GatewayNormalClientRecord) : Decidable client.Trimmed :=
  inferInstanceAs (Decidable (∀ value ∈ client.texts, _))

theorem recordsReadBack_of_unpadded :
    (∀ parameters record, parameters.SpaceFree →
      encodeAppcInitializeParameters parameters = .ok record →
      decodeAppcInitializeParameters record = .ok parameters) ∧
    (∀ parameters record, parameters.SpaceFree →
      encodeAppcPartnerLogicalUnitParameters parameters = .ok record →
      decodeAppcPartnerLogicalUnitParameters record = .ok parameters) ∧
    ∀ client record, client.Trimmed → encodeGatewayNormalClient client = .ok record →
      decodeGatewayNormalClient record = .ok client := by
  refine ⟨fun parameters record hspace h => ?_, fun parameters record hspace h => ?_,
    fun client record htrimmed h => ?_⟩
  · exact decodeAppcInitializeParameters_of hspace.1 hspace.2 h
  · exact decodeAppcPartnerLogicalUnitParameters_of hspace h
  · simp only [GatewayNormalClientRecord.Trimmed, GatewayNormalClientRecord.texts,
      List.forall_mem_cons] at htrimmed
    obtain ⟨hservice, hunit, hprogram, hconversation, -⟩ := htrimmed
    exact decodeGatewayNormalClient_of hservice hunit hprogram hconversation h

section Sample

def sampleParameters : AppcInitializeParameters where
  clientIdentifier := [0x4e, 0x57, 0x52, 0x46, 0x43]
  options :=
    { optionFlags := 0
      rootId := List.replicate 16 0x46
      connectionId := List.replicate 16 0x30
      connectionIdSuffix := 1
      timeout := -1
      keepaliveTimeout := 300
      exportTrace := 0
      startType := 0
      networkProtocol := 2
      localAddressV6 := Bytes.alloc 16
      longLogicalUnitName := [0x6c, 0x20, 0x75]
      operatingSystemUser := [0x75, 0x73, 0x65, 0x72]
      localAddressV4 := [127, 0, 0, 1]
      longTransactionProgramName := [0x73, 0x61, 0x70] }

def samplePartner : AppcPartnerLogicalUnitParameters := ⟨[0x68, 0x6f, 0x73, 0x74], Bytes.alloc 16⟩

def sampleClient : GatewayNormalClientRecord where
  address := [0x31, 0x30, 0x2e, 0x30, 0x2e, 0x30, 0x2e, 0x31]
  service := [0x73, 0x20, 0x67]
  codePage := [0x34, 0x31, 0x30, 0x33]
  gatewayOptionLevel := 6
  logicalUnit := [0x68, 0x6f, 0x73, 0x74]
  transactionProgram := [0x73, 0x61, 0x70]
  conversationId := []
  appcHeaderVersion := 6
  acceptInfo := 0xcb
  index := -1
  returnCode := 0
  echoData := 0

theorem recordsReadBack_samples :
    (∃ record, encodeAppcInitializeParameters sampleParameters = .ok record ∧
      decodeAppcInitializeParameters record = .ok sampleParameters) ∧
    (∃ record, encodeAppcPartnerLogicalUnitParameters samplePartner = .ok record ∧
      decodeAppcPartnerLogicalUnitParameters record = .ok samplePartner) ∧
    ∃ record, encodeGatewayNormalClient sampleClient = .ok record ∧
      decodeGatewayNormalClient record = .ok sampleClient := by
  obtain ⟨hparameters, hpartner, hclient⟩ := recordsReadBack_of_unpadded
  refine ⟨?_, ?_, ?_⟩
  · obtain ⟨record, h⟩ := exists_eq_ok
      (by decide +kernel : (encodeAppcInitializeParameters sampleParameters).isOk = true)
    exact ⟨record, h, hparameters _ _ (by decide) h⟩
  · obtain ⟨record, h⟩ := exists_eq_ok
      (by decide +kernel : (encodeAppcPartnerLogicalUnitParameters samplePartner).isOk = true)
    exact ⟨record, h, hpartner _ _ (by decide) h⟩
  · obtain ⟨record, h⟩ := exists_eq_ok
      (by decide +kernel : (encodeGatewayNormalClient sampleClient).isOk = true)
    exact ⟨record, h, hclient _ _ (by decide) h⟩

/-- A name with a space within is written, and not read. -/
theorem not_recordsReadBack : ¬RecordsReadBack := by
  intro h
  have hencoded : encodeAppcPartnerLogicalUnitParameters ⟨[0x52, 0x20, 0x46], Bytes.alloc 16⟩ =
      .ok (([0x52, 0x20, 0x46] ++ List.replicate 125 0x20) ++ Bytes.alloc 16) := by decide +kernel
  exact absurd (h.2.1 _ _ hencoded) (by decide +kernel)

end Sample
end OpenRfc.Setup
