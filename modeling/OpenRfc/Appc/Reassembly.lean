import OpenRfc.DirectCpic.Appc
import OpenRfc.Foundation.Bytes
import OpenRfc.Foundation.Streams

/-!
The decoder which reassembles messages across records. A message starts at an `F_SAP_SEND`, or
at an `F_RECEIVE` where that is allowed; it is continued by `F_RECEIVE` records of the same
conversation, and ends at the record which carries the end of the message, or at the record
with which the conversation is deallocated.
-/

namespace OpenRfc.Appc
open DirectCpic (AppcFunction AppcHeader Cause appcCommonHeaderLength appcRecordHeaderLength
  appcReturnCodeDeallocatedNormal decodeAppcHeader readUInt16BE)

def appcVectorEndOfMessage : Nat := 0x04
def defaultMaxAppcMessageLength : Nat := 256 * 1024 * 1024
def defaultMaxAppcMessageFragments : Nat := 65536

structure AppcDataFragment where
  header : AppcHeader
  data : Bytes
  isFinal : Bool
deriving DecidableEq, Repr

structure AppcIncomingDataOperationInfo where
  dataLength : Nat
  communicationIndex : Nat
  connectionIndex : Nat
deriving DecidableEq, Repr

structure AppcMessage where
  data : Bytes
  conversationId : Bytes
  sequenceNumber : Nat
  fragmentCount : Nat
  communicationIndex : Nat
  connectionIndex : Nat
deriving DecidableEq, Repr

structure PendingMessage where
  chunks : List Bytes
  conversationId : Bytes
  sequenceNumber : Nat
  byteLength : Nat
  fragmentCount : Nat
  communicationIndex : Nat
  connectionIndex : Nat
deriving DecidableEq, Repr

/-- The constructor refuses a limit of no fragments. -/
structure AppcConversationDecoderOptions where
  maxMessageLength : Nat := defaultMaxAppcMessageLength
  maxFragments : Nat := defaultMaxAppcMessageFragments
  allowInitialReceive : Bool := false
  validateIncomingDataOperationInfo : Bool := false
  positive : 1 ≤ maxFragments := by decide
deriving Repr

section Decoding

def isRfcData (functionCode : AppcFunction) : Bool :=
  functionCode = .sapSend || functionCode = .receive

def decodeAppcDataFragment (payload : Bytes) : Except Cause AppcDataFragment :=
  if payload.length < appcRecordHeaderLength then
    .error (.error ("an APPC data record needs " ++ toString appcRecordHeaderLength ++
      " bytes; received " ++ toString payload.length))
  else
    match decodeAppcHeader payload with
    | .error cause => .error cause
    | .ok header =>
        if isRfcData header.functionCode = false then
          .error (.error (header.functionCode.name ++ " is not an APPC RFC data fragment"))
        else
          .ok
            { header
              data := payload.drop appcRecordHeaderLength
              isFinal := header.vector &&& appcVectorEndOfMessage != 0 }

def decodeAppcIncomingDataOperationInfo (data : Bytes) :
    Except Cause AppcIncomingDataOperationInfo :=
  if data.length ≠ 32 then
    .error (.error ("incoming APPC data operation info must contain exactly 32 bytes; " ++
      "received " ++ toString data.length))
  else
    .ok ⟨readUInt16BE data 10, readUInt16BE data 28, readUInt16BE data 30⟩

/-- The return codes with which a record may be pushed. -/
def checkReturnCodes (terminalDeallocation : Bool) (header : AppcHeader) : Except Cause Unit :=
  if terminalDeallocation then
    if header.appcReturnCode ≠ appcReturnCodeDeallocatedNormal ∨ header.sapReturnCode ≠ 0 then
      .error (.error ("terminal APPC deallocation requires APPC return code 18 and SAP " ++
        "return code 0"))
    else .ok ()
  else if header.appcReturnCode = appcReturnCodeDeallocatedNormal ∧ header.sapReturnCode = 0 then
    .error (.error "normal deallocation must use the terminal decoder")
  else if header.appcReturnCode ≠ 0 ∨ header.sapReturnCode ≠ 0 then
    .error (.error (header.functionCode.name ++ " cannot be decoded after APPC return code " ++
      toString header.appcReturnCode ++ " and SAP return code " ++
      toString header.sapReturnCode))
  else .ok ()

variable (options : AppcConversationDecoderOptions)

def checkLimits (byteLength fragmentCount : Nat) : Except Cause Unit :=
  if byteLength > options.maxMessageLength then
    .error (.error ("APPC message length " ++ toString byteLength ++
      " exceeds configured limit " ++ toString options.maxMessageLength))
  else if fragmentCount > options.maxFragments then
    .error (.error ("APPC fragment count " ++ toString fragmentCount ++
      " exceeds configured limit " ++ toString options.maxFragments))
  else .ok ()

/-- The limits are checked before the data of a record are copied. -/
def checkIncoming (pending : Option PendingMessage) (payload : Bytes) : Except Cause Unit :=
  if payload.length ≥ appcRecordHeaderLength then
    checkLimits options
      ((pending.elim 0 (·.byteLength)) + (payload.length - appcRecordHeaderLength))
      ((pending.elim 0 (·.fragmentCount)) + 1)
  else .ok ()

def checkDataLength (fragment : AppcDataFragment)
    (operationInfo : AppcIncomingDataOperationInfo) : Except Cause Unit :=
  if options.validateIncomingDataOperationInfo ∧
      operationInfo.dataLength ≠ fragment.data.length then
    .error (.error ("incoming APPC data length " ++ toString operationInfo.dataLength ++
      " does not match record payload length " ++ toString fragment.data.length))
  else .ok ()

/-- The fields by which records belong together. `moment` ends the texts of the errors. -/
def checkContinuation (pending : PendingMessage) (header : AppcHeader)
    (operationInfo : AppcIncomingDataOperationInfo) (moment : String) : Except Cause Unit :=
  if pending.conversationId ≠ header.conversationId then
    .error (.error ("APPC conversation ID changed " ++ moment))
  else if pending.sequenceNumber ≠ header.sequenceNumber then
    .error (.error ("APPC sequence number changed " ++ moment))
  else if pending.communicationIndex ≠ operationInfo.communicationIndex ∨
      pending.connectionIndex ≠ operationInfo.connectionIndex then
    .error (.error ("APPC connection indices changed " ++ moment))
  else .ok ()

/-- The fragment of a data record, with its operation information, behind all the checks that
do not depend on what kind of record it is. -/
def readFragment (pending : Option PendingMessage) (payload : Bytes) :
    Except Cause (AppcDataFragment × AppcIncomingDataOperationInfo) := do
  checkIncoming options pending payload
  let fragment ← decodeAppcDataFragment payload
  let operationInfo ← decodeAppcIncomingDataOperationInfo
    ((payload.take appcRecordHeaderLength).drop appcCommonHeaderLength)
  checkDataLength options fragment operationInfo
  .ok (fragment, operationInfo)

end Decoding

/-- A message which has not ended yet consists of its first fragment. -/
def PendingMessage.start (fragment : AppcDataFragment)
    (operationInfo : AppcIncomingDataOperationInfo) : PendingMessage where
  chunks := [fragment.data]
  conversationId := fragment.header.conversationId
  sequenceNumber := fragment.header.sequenceNumber
  byteLength := fragment.data.length
  fragmentCount := 1
  communicationIndex := operationInfo.communicationIndex
  connectionIndex := operationInfo.connectionIndex

def PendingMessage.append (pending : PendingMessage) (data : Bytes) : PendingMessage :=
  { pending with
    chunks := pending.chunks ++ [data]
    byteLength := pending.byteLength + data.length
    fragmentCount := pending.fragmentCount + 1 }

def PendingMessage.message (pending : PendingMessage) : AppcMessage where
  data := pending.chunks.flatten
  conversationId := pending.conversationId
  sequenceNumber := pending.sequenceNumber
  fragmentCount := pending.fragmentCount
  communicationIndex := pending.communicationIndex
  connectionIndex := pending.connectionIndex

structure AppcConversationDecoder where
  options : AppcConversationDecoderOptions
  pending : Option PendingMessage
deriving Repr

namespace AppcConversationDecoder

/-- What a call returns or throws, and the decoder it leaves behind. -/
abbrev Outcome := Except Cause (List AppcMessage) × AppcConversationDecoder

def create (options : AppcConversationDecoderOptions) : AppcConversationDecoder :=
  ⟨options, none⟩

def bufferedByteLength (d : AppcConversationDecoder) : Nat := d.pending.elim 0 (·.byteLength)

def fragmentCount (d : AppcConversationDecoder) : Nat := d.pending.elim 0 (·.fragmentCount)

/-- The first fragment of a message, which may be its last one. -/
def startMessage (d : AppcConversationDecoder) (fragment : AppcDataFragment)
    (operationInfo : AppcIncomingDataOperationInfo) (isFinal : Bool) : Outcome :=
  match checkLimits d.options fragment.data.length 1 with
  | .error cause => (.error cause, d)
  | .ok () =>
      if isFinal then (.ok [(PendingMessage.start fragment operationInfo).message], d)
      else (.ok [], { d with pending := some (.start fragment operationInfo) })

/-- A fragment behind others. -/
def continueMessage (d : AppcConversationDecoder) (pending : PendingMessage)
    (fragment : AppcDataFragment) (operationInfo : AppcIncomingDataOperationInfo)
    (moment : String) (isFinal : Bool) : Outcome :=
  match checkContinuation pending fragment.header operationInfo moment with
  | .error cause => (.error cause, d)
  | .ok () =>
      match checkLimits d.options (pending.byteLength + fragment.data.length)
        (pending.fragmentCount + 1) with
      | .error cause => (.error cause, d)
      | .ok () =>
          if isFinal then
            (.ok [(pending.append fragment.data).message], { d with pending := none })
          else (.ok [], { d with pending := some (pending.append fragment.data) })

def pushTerminal (d : AppcConversationDecoder) (fragment : AppcDataFragment)
    (operationInfo : AppcIncomingDataOperationInfo) : Outcome :=
  if fragment.data.length = 0 then (.error .normalDeallocationWithoutData, d)
  else
    match d.pending with
    | none =>
        if fragment.header.functionCode = .receive ∧ d.options.allowInitialReceive = false then
          (.error (.error "received terminal F_RECEIVE without a preceding F_SAP_SEND"), d)
        else d.startMessage fragment operationInfo true
    | some pending =>
        if fragment.header.functionCode ≠ .receive then
          (.error (.error ("normal deallocation started a new F_SAP_SEND during a fragmented " ++
            "message")), d)
        else
          d.continueMessage pending fragment operationInfo "at normal deallocation" true

def pushOrdinary (d : AppcConversationDecoder) (fragment : AppcDataFragment)
    (operationInfo : AppcIncomingDataOperationInfo) : Outcome :=
  if fragment.header.functionCode = .sapSend then
    if d.pending.isSome then
      (.error (.error ("received a new F_SAP_SEND during an unfinished fragmented " ++
        "message")), d)
    else d.startMessage fragment operationInfo fragment.isFinal
  else
    match d.pending with
    | none =>
        if d.options.allowInitialReceive = false then
          (.error (.error "received F_RECEIVE without a preceding fragmented F_SAP_SEND"), d)
        else d.startMessage fragment operationInfo fragment.isFinal
    | some pending =>
        d.continueMessage pending fragment operationInfo "within a fragmented message"
          fragment.isFinal

/-- A record of control may stand between messages. -/
def pushControl (d : AppcConversationDecoder) (header : AppcHeader)
    (terminalDeallocation : Bool) : Outcome :=
  if d.pending.isSome then
    (.error (.error (header.functionCode.name ++
      " interrupted a fragmented message before its final APPC record")), d)
  else if terminalDeallocation then (.error .normalDeallocationWithoutData, d)
  else (.ok [], d)

/-- `#push` -/
def pushRecord (d : AppcConversationDecoder) (payload : Bytes) (terminalDeallocation : Bool) :
    Outcome :=
  match decodeAppcHeader payload with
  | .error cause => (.error cause, d)
  | .ok header =>
      match checkReturnCodes terminalDeallocation header with
      | .error cause => (.error cause, d)
      | .ok () =>
          if isRfcData header.functionCode = false then
            d.pushControl header terminalDeallocation
          else
            match readFragment d.options d.pending payload with
            | .error cause => (.error cause, d)
            | .ok (fragment, operationInfo) =>
                if terminalDeallocation then d.pushTerminal fragment operationInfo
                else d.pushOrdinary fragment operationInfo

def push (d : AppcConversationDecoder) (payload : Bytes) : Outcome := d.pushRecord payload false

def pushTerminalDeallocation (d : AppcConversationDecoder) (payload : Bytes) : Outcome :=
  d.pushRecord payload true

def finish (d : AppcConversationDecoder) : Except Cause Unit :=
  match d.pending with
  | none => .ok ()
  | some pending => .error (.error ("truncated APPC message: " ++
      toString pending.fragmentCount ++ " fragment(s), " ++ toString pending.byteLength ++
      " bytes buffered"))

end AppcConversationDecoder
end OpenRfc.Appc
