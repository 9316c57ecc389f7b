import OpenRfc.Appc.Outgoing
import OpenRfc.Cpic.FieldChain

/-!
The trailers of CPIC packets. A compact packet carries eight bytes of SAP parameters behind its
application data, with its size among them; a streamed packet ends with the sentinel alone.
-/

namespace OpenRfc.Cpic
open Fallible
open Appc (maxAppcApplicationDataFragmentLength)

namespace CpicTag

def destination : Int := 0x0006
def clientAddress : Int := 0x0007
def partnerHost : Int := 0x0008
def kernel : Int := 0x000b
def connectionType : Int := 0x0011
def kernelRelease : Int := 0x0012
def kernelPatch : Int := 0x0013
def systemCodePage : Int := 0x0016
def partnerSystem : Int := 0x0018
def start : Int := 0x0101
def function : Int := 0x0102
def protocolVersion : Int := 0x0103
def capabilities : Int := 0x0106
def program : Int := 0x0130
def logonStatus : Int := 0x0161
def parameterName : Int := 0x0201
def parameterValue : Int := 0x0203
def requestedOutput : Int := 0x0205
def tableName : Int := 0x0301
def tableHeader : Int := 0x0302
def tableContent : Int := 0x0303
def tableCompr : Int := 0x0304
def logonMarker : Int := 0x0337
def unresolved0420 : Int := 0x0420
def responseStart : Int := 0x0500
def contextEnd : Int := 0x0502
def responseContext : Int := 0x0503
def callContext : Int := 0x0512
def session : Int := 0x0514
def xRfcParameter : Int := 0x3c02
def xRfcData : Int := 0x3c05
def «end» : Int := 0xffff

end CpicTag

def packetTrailer (packetPrefixAndChainLength maximumRfcPacketSize : Nat) : Bytes :=
  let cpicPacketSize := packetPrefixAndChainLength + 2
  if cpicPacketSize > maxAppcApplicationDataFragmentLength then [0xff, 0xff]
  else [0xff, 0xff] ++ [0, 0] ++ Bytes.bigEndian 2 cpicPacketSize ++
    Bytes.bigEndian 4 maximumRfcPacketSize

inductive CpicFramingMode
  | compact
  | streamed
deriving DecidableEq, Repr

structure CpicRequestAppcFraming where
  mode : CpicFramingMode
  applicationDataLength : Nat
  finalSapParameterLength : Nat
deriving DecidableEq, Repr

/-- The 16-bit number at a distance from the end of a packet. -/
def wordFromEnd (bytes : Bytes) (distance : Nat) : Nat :=
  Bytes.number (Bytes.slice bytes (bytes.length - distance) 2)

def inspectCpicRequestAppcFraming (bytes : Bytes) : Except String CpicRequestAppcFraming :=
  if 10 ≤ bytes.length ∧ wordFromEnd bytes 10 = 0xffff ∧ wordFromEnd bytes 8 = 0 ∧
      wordFromEnd bytes 6 = bytes.length - 8 ∧
      bytes.length - 8 ≤ maxAppcApplicationDataFragmentLength then
    .ok ⟨.compact, bytes.length - 8, 8⟩
  else if bytes.length > maxAppcApplicationDataFragmentLength ∧ 6 ≤ bytes.length ∧
      wordFromEnd bytes 6 = 0xffff ∧ wordFromEnd bytes 4 = 0 ∧ wordFromEnd bytes 2 = 0xffff then
    .ok ⟨.streamed, bytes.length, 0⟩
  else .error "CPIC request has an invalid APPC framing trailer"

/-- A packet without the SAP parameters of compact framing. -/
def applicationData (packet : Bytes) : Except String Bytes := do
  let framing ← inspectCpicRequestAppcFraming packet
  .ok (packet.take framing.applicationDataLength)

section Framing

theorem wordFromEnd_append {packet : Bytes} {distance : Nat} (before word after : Bytes)
    (hpacket : before ++ word ++ after = packet) (hword : word.length = 2)
    (hdistance : distance = 2 + after.length) :
    wordFromEnd packet distance = Bytes.number word := by
  rw [← hpacket, wordFromEnd, Bytes.slice_append]
  · simp only [List.length_append]
    omega
  · exact hword.symm

/-- Application data which end with the sentinel, in compact framing. -/
theorem inspect_compact {before parameters : Bytes}
    (hsize : before.length + 2 ≤ maxAppcApplicationDataFragmentLength)
    (hparameters : parameters.length = 4) :
    inspectCpicRequestAppcFraming (before ++ [0xff, 0xff] ++ [0, 0] ++
      Bytes.bigEndian 2 (before.length + 2) ++ parameters) =
        .ok ⟨.compact, before.length + 2, 8⟩ := by
  generalize hpacket : before ++ [0xff, 0xff] ++ [0, 0] ++ Bytes.bigEndian 2 (before.length + 2) ++
      parameters = packet
  have hlength : packet.length = before.length + 10 := by
    rw [← hpacket]
    simp [hparameters]
  have hsentinel : wordFromEnd packet 10 = 0xffff :=
    wordFromEnd_append before [0xff, 0xff]
      ([0, 0] ++ Bytes.bigEndian 2 (before.length + 2) ++ parameters)
      (by simp [← hpacket]) rfl (by simp [hparameters])
  have hzero : wordFromEnd packet 8 = 0 :=
    wordFromEnd_append (before ++ [0xff, 0xff]) [0, 0]
      (Bytes.bigEndian 2 (before.length + 2) ++ parameters) (by simp [← hpacket]) rfl
      (by simp [hparameters])
  have hword : wordFromEnd packet 6 = packet.length - 8 := by
    rw [wordFromEnd_append _ _ _ hpacket (by simp) (by rw [hparameters]), hlength]
    unfold maxAppcApplicationDataFragmentLength at hsize
    exact Bytes.number_bigEndian 2 (by omega)
  have hcompact : 10 ≤ packet.length ∧ wordFromEnd packet 10 = 0xffff ∧
      wordFromEnd packet 8 = 0 ∧ wordFromEnd packet 6 = packet.length - 8 ∧
      packet.length - 8 ≤ maxAppcApplicationDataFragmentLength :=
    ⟨by omega, hsentinel, hzero, hword, by omega⟩
  have hdata : packet.length - 8 = before.length + 2 := by omega
  rw [inspectCpicRequestAppcFraming, if_pos hcompact, hdata]

/-- Application data which end with an empty End record and the sentinel, streamed. -/
theorem inspect_streamed {before previousTag : Bytes} (hprevious : previousTag.length = 2)
    (hne : Bytes.number previousTag ≠ 0)
    (hsize : before.length + 8 > maxAppcApplicationDataFragmentLength) :
    inspectCpicRequestAppcFraming
        (before ++ previousTag ++ [0xff, 0xff] ++ [0, 0] ++ [0xff, 0xff]) =
      .ok ⟨.streamed, before.length + 8, 0⟩ := by
  generalize hpacket : before ++ previousTag ++ [0xff, 0xff] ++ [0, 0] ++ [0xff, 0xff] = packet
  have hlength : packet.length = before.length + 8 := by
    rw [← hpacket]
    simp [hprevious]
  have htag : wordFromEnd packet 8 = Bytes.number previousTag :=
    wordFromEnd_append before previousTag [0xff, 0xff, 0, 0, 0xff, 0xff] (by simp [← hpacket])
      hprevious rfl
  have hend : wordFromEnd packet 6 = 0xffff :=
    wordFromEnd_append (before ++ previousTag) [0xff, 0xff] [0, 0, 0xff, 0xff]
      (by simp [← hpacket]) rfl rfl
  have hzero : wordFromEnd packet 4 = 0 :=
    wordFromEnd_append (before ++ previousTag ++ [0xff, 0xff]) [0, 0] [0xff, 0xff]
      (by simp [← hpacket]) rfl rfl
  have hsentinel : wordFromEnd packet 2 = 0xffff :=
    wordFromEnd_append (before ++ previousTag ++ [0xff, 0xff, 0, 0]) [0xff, 0xff] []
      (by simp [← hpacket]) rfl rfl
  have hcompact : ¬ (10 ≤ packet.length ∧ wordFromEnd packet 10 = 0xffff ∧
      wordFromEnd packet 8 = 0 ∧ wordFromEnd packet 6 = packet.length - 8 ∧
      packet.length - 8 ≤ maxAppcApplicationDataFragmentLength) := by
    rw [htag]
    exact fun h => hne h.2.2.1
  have hstreamed : packet.length > maxAppcApplicationDataFragmentLength ∧ 6 ≤ packet.length ∧
      wordFromEnd packet 6 = 0xffff ∧ wordFromEnd packet 4 = 0 ∧ wordFromEnd packet 2 = 0xffff :=
    ⟨by omega, by omega, hend, hzero, hsentinel⟩
  rw [inspectCpicRequestAppcFraming, if_neg hcompact, if_pos hstreamed, hlength]

def endField : CpicField := ⟨CpicTag.end, []⟩

/-- The framing of contents behind which the sentinel stands. -/
def framingOf (contents : Bytes) : CpicRequestAppcFraming :=
  if contents.length + 2 ≤ maxAppcApplicationDataFragmentLength then
    ⟨.compact, contents.length + 2, 8⟩
  else ⟨.streamed, contents.length + 2, 0⟩

/-- The framing of a packet: a header, a chain which ends with the End field, and the trailer. -/
theorem inspect_packet (header : Bytes) {chain : Bytes} {previousTag : Int}
    {fields : List CpicField}
    (hchain : encodeCpicFieldChain previousTag (fields ++ [endField]) = .ok chain)
    (hprevious : 0 < previousTag) (hfields : ∀ field ∈ fields, 0 < field.tag)
    (maximumRfcPacketSize : Nat) :
    inspectCpicRequestAppcFraming (header ++ chain ++
        packetTrailer (header.length + chain.length) maximumRfcPacketSize) =
      .ok (framingOf (header ++ chain)) := by
  by_cases hsize : header.length + chain.length + 2 > maxAppcApplicationDataFragmentLength
  · obtain ⟨hle, resolved, -, -, hfits, -, rfl⟩ := encodeCpicFieldChain_eq_ok.mp hchain
    rw [List.forall_mem_append] at hfits
    have hlast := lastTag_pos hprevious hfields
    have hlast' := lastTag_le hle fun field hfield => (hfits.1 field hfield).1
    have hend : chainBytes (lastTag previousTag fields) [endField] =
        Bytes.bigEndian 2 (lastTag previousTag fields).toNat ++ [0xff, 0xff] ++ [0, 0] := by
      have hheader : headerBytes CpicTag.end.toNat 0 = [0xff, 0xff] ++ [0, 0] := by decide
      rw [chainBytes, chainBytes, recordBytes, endField, List.length_nil, hheader,
        List.append_nil, List.append_nil, ← List.append_assoc]
    have hne : Bytes.number (Bytes.bigEndian 2 (lastTag previousTag fields).toNat) ≠ 0 := by
      rw [Bytes.number_bigEndian 2 (by omega)]
      omega
    have hsplit : header ++ chainBytes previousTag (fields ++ [endField]) =
        (header ++ chainBytes previousTag fields) ++
          Bytes.bigEndian 2 (lastTag previousTag fields).toNat ++ [0xff, 0xff] ++ [0, 0] := by
      rw [chainBytes_append, hend]
      simp
    have hlength := congrArg List.length hsplit
    simp only [List.length_append, List.length_cons, List.length_nil, Bytes.length_bigEndian]
      at hlength hsize
    have hframing : framingOf (header ++ chainBytes previousTag (fields ++ [endField])) =
        ⟨.streamed, (header ++ chainBytes previousTag fields).length + 8, 0⟩ := by
      rw [framingOf, if_neg]
      · rw [hsplit]
        simp [Nat.add_assoc]
      · rw [List.length_append]
        omega
    rw [packetTrailer, if_pos hsize, hframing, hsplit]
    apply inspect_streamed (Bytes.length_bigEndian 2 _) hne
    rw [List.length_append]
    omega
  · have hle : (header ++ chain).length + 2 ≤ maxAppcApplicationDataFragmentLength := by
      rw [List.length_append]
      omega
    rw [packetTrailer, if_neg hsize, ← List.length_append, ← List.append_assoc,
      ← List.append_assoc, ← List.append_assoc, framingOf, if_pos hle]
    exact inspect_compact hle (Bytes.length_bigEndian 4 _)

theorem applicationDataLength_framingOf (contents : Bytes) :
    (framingOf contents).applicationDataLength = contents.length + 2 := by
  unfold framingOf
  split
  · rfl
  · rfl

/-- Every trailer starts with the sentinel. -/
theorem packetTrailer_eq (length maximumRfcPacketSize : Nat) :
    packetTrailer length maximumRfcPacketSize = [0xff, 0xff] ++
      if length + 2 > maxAppcApplicationDataFragmentLength then []
      else [0, 0] ++ Bytes.bigEndian 2 (length + 2) ++ Bytes.bigEndian 4 maximumRfcPacketSize := by
  unfold packetTrailer
  dsimp only
  split
  · rfl
  · simp only [List.append_assoc]

theorem take_packet (contents : Bytes) (maximumRfcPacketSize : Nat) :
    (contents ++ packetTrailer contents.length maximumRfcPacketSize).take (contents.length + 2) =
      contents ++ [0xff, 0xff] := by
  rw [packetTrailer_eq, ← List.append_assoc]
  exact List.take_left' (by simp)

/-- The application data of a packet: a header, a chain which ends with the End field, and the
sentinel. -/
theorem applicationData_packet (header : Bytes) {chain : Bytes} {previousTag : Int}
    {fields : List CpicField}
    (hchain : encodeCpicFieldChain previousTag (fields ++ [endField]) = .ok chain)
    (hprevious : 0 < previousTag) (hfields : ∀ field ∈ fields, 0 < field.tag)
    (maximumRfcPacketSize : Nat) :
    applicationData (header ++ chain ++
        packetTrailer (header.length + chain.length) maximumRfcPacketSize) =
      .ok (header ++ chain ++ [0xff, 0xff]) := by
  rw [applicationData, inspect_packet header hchain hprevious hfields, ok_bind,
    applicationDataLength_framingOf, ← List.length_append, take_packet]

end Framing
end OpenRfc.Cpic
