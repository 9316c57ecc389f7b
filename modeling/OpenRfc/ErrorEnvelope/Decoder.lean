import OpenRfc.Foundation.JsString
import OpenRfc.Foundation.OrderedMap
import OpenRfc.Foundation.Tally

/-!
The error facts and the control records of a response. The loop over the fields collects them
with their limits; what has been collected is classified behind the loop.
-/

namespace OpenRfc.ErrorEnvelope
open Fallible Tally
open JsString (codeUnits)

namespace RfcErrorTag

def exceptionKey : Int := 0x0401
def errorMessage : Int := 0x0402
def runtimeId : Int := 0x0403
def t100Text : Int := 0x0404
def messageV1 : Int := 0x0411
def messageV2 : Int := 0x0412
def messageV3 : Int := 0x0413
def messageV4 : Int := 0x0414
def messageClass : Int := 0x0415
def messageType : Int := 0x0416
def messageNumber : Int := 0x0417
def callStack : Int := 0x0418
def unresolved0420 : Int := 0x0420
def useClassExceptions : Int := 0x0421
def classExceptionInfo : Int := 0x0422
def classException : Int := 0x0423
def classExceptionEnd : Int := 0x0424

end RfcErrorTag
open RfcErrorTag

def rfcErrorEnvelopeEndTag : Int := 0xffff

/-- Classic response tags which are not part of an error record. -/
def classicResponseDataTags : List Int :=
  [0x0102, 0x0201, 0x0203, 0x0205, 0x0301, 0x0302, 0x0303, 0x0304, 0x0502, 0x0503, 0x0512, 0x0514]

def textTags : List Int :=
  [exceptionKey, errorMessage, runtimeId, t100Text, messageV1, messageV2, messageV3, messageV4,
    messageClass, messageType, messageNumber, callStack]

def classExceptionTags : List Int := [classExceptionInfo, classException, classExceptionEnd]

def messageTextTags : List Int := [errorMessage, t100Text]
def messageIdentityTags : List Int := [messageClass, messageType, messageNumber]

def secondaryErrorTags : List Int :=
  [messageV1, messageV2, messageV3, messageV4, callStack] ++ messageTextTags ++ messageIdentityTags

structure RfcErrorEnvelopeField where
  tag : Int
  value : Bytes
deriving DecidableEq, Repr

inductive RfcErrorEnvelopeReasonCode
  | invalidField
  | missingEnd
  | invalidEnd
  | duplicateFact
  | textTooLarge
  | totalTextTooLarge
  | oddUtf16Length
  | nonAsciiText
  | embeddedNul
  | unpairedSurrogate
  | emptyDiscriminator
  | conflictingDiscriminators
  | ambiguousFacts
  | unknownTag
  | classExceptionUnsupported
  | controlTooLarge
  | totalControlTooLarge
  | tooManyControls
  | tooManyFields
  | unresolvedSuccessControl
deriving DecidableEq, Repr

/-- A protocol error with its reason, or a `RangeError` about the options. -/
inductive RfcErrorEnvelopeError
  | protocol (reasonCode : RfcErrorEnvelopeReasonCode) (message : String)
  | range (message : String)
deriving DecidableEq, Repr

def protocolError (reasonCode : RfcErrorEnvelopeReasonCode) (message : String) :
    RfcErrorEnvelopeError := .protocol reasonCode message

inductive TextEncoding
  | utf16le
  | ascii
deriving DecidableEq, Repr

structure RfcErrorEnvelopeDecodeOptions where
  textEncoding : TextEncoding := .utf16le
  maxTextByteLength : Int := 1024 * 1024
  maxTotalTextByteLength : Int := 4 * 1024 * 1024
  maxControlByteLength : Int := 4 * 1024
  maxTotalControlByteLength : Int := 64 * 1024
  maxControlCount : Int := 64
  maxFieldCount : Int := 256
  additionalAllowedTags : List Int := []
deriving DecidableEq, Repr

/-- `0x` and four hexadecimal digits -/
def tagText (tag : Int) : String :=
  "0x" ++ String.ofList ((Nat.toDigits 16 tag.toNat).leftpad 4 '0')

def boundedInteger (value minimum maximum : Int) (field : String) :
    Except RfcErrorEnvelopeError Unit :=
  require (minimum ≤ value ∧ value ≤ maximum)
    (.range s!"{field} must be an integer in {minimum}..{maximum}")

section Texts

/-- No code unit is zero, and surrogates stand in pairs. -/
def checkCodeUnits (tag : Int) : JsString → Except RfcErrorEnvelopeError Unit
  | [] => .ok ()
  | codeUnit :: units =>
    if codeUnit = 0 then
      .error (protocolError .embeddedNul s!"RFCPRO error fact {tagText tag} contains NUL")
    else if JsString.isHighSurrogate codeUnit then
      match units with
      | [] => .error (protocolError .unpairedSurrogate
          s!"RFCPRO error fact {tagText tag} ends with an unpaired surrogate")
      | low :: units =>
        if JsString.isLowSurrogate low then checkCodeUnits tag units
        else .error (protocolError .unpairedSurrogate
          s!"RFCPRO error fact {tagText tag} contains an unpaired surrogate")
    else if JsString.isLowSurrogate codeUnit then
      .error (protocolError .unpairedSurrogate
        s!"RFCPRO error fact {tagText tag} contains an unpaired surrogate")
    else checkCodeUnits tag units

def decodeStrictUtf16Le (value : Bytes) (tag maximumByteLength : Int) :
    Except RfcErrorEnvelopeError JsString := do
  require ((value.length : Int) ≤ maximumByteLength)
    (protocolError .textTooLarge
      s!"RFCPRO error fact {tagText tag} exceeds the configured text limit")
  require (value.length % 2 = 0)
    (protocolError .oddUtf16Length
      s!"RFCPRO error fact {tagText tag} has an odd UTF-16LE byte length")
  checkCodeUnits tag (codeUnits value)
  .ok (codeUnits value).trimTrailingSpaces

def checkAscii (tag : Int) : Bytes → Except RfcErrorEnvelopeError Unit
  | [] => .ok ()
  | byte :: bytes =>
    if byte = 0 then
      .error (protocolError .embeddedNul s!"RFCPRO error fact {tagText tag} contains NUL")
    else if byte > 0x7f then
      .error (protocolError .nonAsciiText
        s!"RFCPRO error fact {tagText tag} contains unsupported non-ASCII text")
    else checkAscii tag bytes

def decodeStrictAscii (value : Bytes) (tag : Int) : Except RfcErrorEnvelopeError JsString := do
  checkAscii tag value
  .ok (JsString.trimTrailingSpaces (value.map UInt8.toUInt16))

end Texts

structure RfcErrorFactProvenance where
  tag : Int
  ordinal : Nat
  byteLength : Nat
deriving DecidableEq, Repr

structure RfcUnresolvedControlFact where
  ordinal : Nat
  byteLength : Nat
  valueHex : String
deriving DecidableEq, Repr

/-- `buffer.toString("hex")` -/
def hex (value : Bytes) : String :=
  String.ofList (value.flatMap fun byte =>
    [Nat.digitChar (byte.toNat / 16), Nat.digitChar (byte.toNat % 16)])

section Loop

/-- The variables of the loop. `present` is the set of the keys of `values`. -/
structure Collected where
  ordinal : Nat
  values : OrderedMap Int JsString
  provenance : List RfcErrorFactProvenance
  unresolved0420 : List RfcUnresolvedControlFact
  totalTextByteLength : Nat
  totalControlByteLength : Nat
  controlCount : Nat
  sawUseClassExceptions : Bool
  sawSupplementalClassExceptionInfo : Bool

def Collected.initial : Collected := ⟨0, .empty, [], [], 0, 0, 0, false, false⟩

def Collected.present (s : Collected) (tag : Int) : Bool := (s.values.get tag).isSome

variable (options : RfcErrorEnvelopeDecodeOptions)

def decodeText (field : RfcErrorEnvelopeField) : Except RfcErrorEnvelopeError JsString :=
  match options.textEncoding with
  | .ascii => decodeStrictAscii field.value field.tag
  | .utf16le => decodeStrictUtf16Le field.value field.tag options.maxTextByteLength

/-- The branch of the loop for error facts. -/
def collectText (s : Collected) (field : RfcErrorEnvelopeField) :
    Except RfcErrorEnvelopeError Collected := do
  require (s.present field.tag = false)
    (protocolError .duplicateFact
      s!"RFCPRO response repeats singleton error fact {tagText field.tag}")
  require ((field.value.length : Int) ≤ options.maxTextByteLength)
    (protocolError .textTooLarge
      s!"RFCPRO error fact {tagText field.tag} exceeds the configured text limit")
  require ((s.totalTextByteLength : Int) ≤ options.maxTotalTextByteLength - field.value.length)
    (protocolError .totalTextTooLarge
      "RFCPRO error facts exceed the configured aggregate text limit")
  let text ← decodeText options field
  .ok { s with
    values := s.values.set field.tag text
    totalTextByteLength := s.totalTextByteLength + field.value.length
    provenance := s.provenance ++ [⟨field.tag, s.ordinal, field.value.length⟩] }

/-- What tells the branches for control records apart: whether the control is a repetition
which is refused, two messages, and what is noted about the control. -/
structure ControlRule where
  duplicate : Bool
  duplicateMessage : String
  tooLargeMessage : String
  note : Collected → Collected

/-- The control 0x0420 may be repeated. -/
def unresolvedControl (s : Collected) (field : RfcErrorEnvelopeField) : ControlRule where
  duplicate := false
  duplicateMessage := ""
  tooLargeMessage := "unresolved RFCPRO control 0x0420 exceeds the configured limit"
  note s' := { s' with
    unresolved0420 := s'.unresolved0420 ++ [⟨s.ordinal, field.value.length, hex field.value⟩] }

def useClassExceptionsControl (s : Collected) : ControlRule where
  duplicate := s.sawUseClassExceptions
  duplicateMessage := "RFCPRO response repeats singleton class-exception control 0x0421"
  tooLargeMessage := "RFCPRO class-exception control exceeds the configured limit"
  note s' := { s' with sawUseClassExceptions := true }

def classExceptionInfoControl (s : Collected) : ControlRule where
  duplicate := s.sawSupplementalClassExceptionInfo
  duplicateMessage := "RFCPRO response repeats singleton class-exception info 0x0422"
  tooLargeMessage := "RFCPRO class-exception info exceeds the configured limit"
  note s' := { s' with sawSupplementalClassExceptionInfo := true }

/-- A branch of the loop for control records. -/
def collectControl (s : Collected) (field : RfcErrorEnvelopeField) (rule : ControlRule) :
    Except RfcErrorEnvelopeError Collected := do
  require ((s.controlCount : Int) < options.maxControlCount)
    (protocolError .tooManyControls
      "RFCPRO response exceeds the configured control-count limit")
  require (rule.duplicate = false) (protocolError .duplicateFact rule.duplicateMessage)
  require ((field.value.length : Int) ≤ options.maxControlByteLength)
    (protocolError .controlTooLarge rule.tooLargeMessage)
  require ((s.totalControlByteLength : Int) ≤
      options.maxTotalControlByteLength - field.value.length)
    (protocolError .totalControlTooLarge
      "RFCPRO response controls exceed the configured aggregate byte limit")
  .ok (rule.note { s with
    controlCount := s.controlCount + 1
    totalControlByteLength := s.totalControlByteLength + field.value.length
    provenance := s.provenance ++ [⟨field.tag, s.ordinal, field.value.length⟩] })

/-- The branches of the loop. -/
def collectField (s : Collected) (field : RfcErrorEnvelopeField) :
    Except RfcErrorEnvelopeError Collected :=
  if field.tag ∈ textTags then collectText options s field
  else if field.tag = unresolved0420 then
    collectControl options s field (unresolvedControl s field)
  else if field.tag = useClassExceptions then
    collectControl options s field (useClassExceptionsControl s)
  else if field.tag = classExceptionInfo then
    collectControl options s field (classExceptionInfoControl s)
  else do
    require (field.tag ∉ classExceptionTags)
      (protocolError .classExceptionUnsupported
        s!"RFCPRO class-exception fact {tagText field.tag} is not supported")
    require (field.tag ∈ classicResponseDataTags ++ options.additionalAllowedTags)
      (protocolError .unknownTag s!"RFCPRO response contains unknown tag {tagText field.tag}")
    .ok s

/-- The body of the loop, with its counter. -/
def collect (s : Collected) (field : RfcErrorEnvelopeField) :
    Except RfcErrorEnvelopeError Collected := do
  let s ← collectField options s field
  .ok { s with ordinal := s.ordinal + 1 }

end Loop

section Classification

inductive RfcErrorEnvelopeOutcome
  | success
  | abapException
  | abapRuntime
  | abapMessage
deriving DecidableEq, Repr

inductive SuccessControl
  | zeroControl
  | notApplicable
deriving DecidableEq, Repr

structure RfcRemoteErrorFacts where
  exceptionKey : JsString
  plainText : JsString
  runtimeId : JsString
  t100Text : JsString
  messageClass : JsString
  messageType : JsString
  messageNumber : JsString
  messageV1 : JsString
  messageV2 : JsString
  messageV3 : JsString
  messageV4 : JsString
  callStack : JsString
  provenance : List RfcErrorFactProvenance
  unresolved0420 : List RfcUnresolvedControlFact
deriving DecidableEq, Repr

structure RfcErrorEnvelope where
  outcome : RfcErrorEnvelopeOutcome
  successControl : SuccessControl
  facts : RfcRemoteErrorFacts
deriving DecidableEq, Repr

/-- The text of a fact, which is empty where the fact is missing. -/
def Collected.text (s : Collected) (tag : Int) : JsString := (s.values.get tag).getD []

def hasNonEmptyFact (tags : List Int) (s : Collected) : Bool :=
  tags.any fun tag => s.text tag ≠ []

def hasCoherentMessageIdentity (s : Collected) : Bool :=
  messageIdentityTags.all fun tag => s.text tag ≠ []

def hasAnyTag (tags : List Int) (s : Collected) : Bool := tags.any s.present

/-- Is there just one control 0x0420, of four zero bytes? -/
def hasZeroControl (s : Collected) : Bool :=
  match s.unresolved0420 with
  | [control] => control.byteLength == 4 && control.valueHex == "00000000"
  | _ => false

def classify (s : Collected) :
    Except RfcErrorEnvelopeError (RfcErrorEnvelopeOutcome × SuccessControl) := do
  require (¬(s.present exceptionKey ∧ s.text exceptionKey = []))
    (protocolError .emptyDiscriminator "RFCPRO declared-exception key is empty")
  require (¬(s.present runtimeId ∧ s.text runtimeId = []))
    (protocolError .emptyDiscriminator "RFCPRO runtime identifier is empty")
  require (¬(s.present exceptionKey ∧ s.present runtimeId))
    (protocolError .conflictingDiscriminators
      "RFCPRO response contains both declared-exception and runtime identifiers")
  require (¬(s.sawSupplementalClassExceptionInfo ∧
      (¬s.present exceptionKey ∨ s.sawUseClassExceptions)))
    (protocolError .classExceptionUnsupported
      ("RFCPRO class-exception info is only supported as supplemental data " ++
        "for a classic declared exception"))
  if s.present exceptionKey then .ok (.abapException, .notApplicable)
  else if s.present runtimeId then .ok (.abapRuntime, .notApplicable)
  else if hasNonEmptyFact messageTextTags s || hasCoherentMessageIdentity s then
    .ok (.abapMessage, .notApplicable)
  else do
    require (hasAnyTag secondaryErrorTags s = false)
      (protocolError .ambiguousFacts
        "RFCPRO response contains secondary error facts without a discriminator")
    require (hasZeroControl s)
      (protocolError .unresolvedSuccessControl
        "RFCPRO response lacks the zero 0x0420 success control")
    .ok (.success, .zeroControl)

def Collected.facts (s : Collected) : RfcRemoteErrorFacts where
  exceptionKey := s.text exceptionKey
  plainText := s.text errorMessage
  runtimeId := s.text runtimeId
  t100Text := s.text t100Text
  messageClass := s.text messageClass
  messageType := s.text messageType
  messageNumber := s.text messageNumber
  messageV1 := s.text messageV1
  messageV2 := s.text messageV2
  messageV3 := s.text messageV3
  messageV4 := s.text messageV4
  callStack := s.text callStack
  provenance := s.provenance
  unresolved0420 := s.unresolved0420

end Classification

section Decode

def checkOptions (options : RfcErrorEnvelopeDecodeOptions) : Except RfcErrorEnvelopeError Unit := do
  boundedInteger options.maxTextByteLength 0 0x7fffffff "maxTextByteLength"
  boundedInteger options.maxTotalTextByteLength 0 0x7fffffff "maxTotalTextByteLength"
  boundedInteger options.maxControlByteLength 0 0x7fffffff "maxControlByteLength"
  boundedInteger options.maxTotalControlByteLength 0 0x7fffffff "maxTotalControlByteLength"
  boundedInteger options.maxControlCount 0 0x7fffffff "maxControlCount"
  boundedInteger options.maxFieldCount 1 0x7fffffff "maxFieldCount"
  options.additionalAllowedTags.forM fun tag =>
    boundedInteger tag 0 0xffff "additionalAllowedTags entry"

/-- The first loop over the fields. -/
def checkFields : Nat → List RfcErrorEnvelopeField → Except RfcErrorEnvelopeError Unit
  | _, [] => .ok ()
  | ordinal, field :: fields => do
    require (0 ≤ field.tag ∧ field.tag ≤ 0xffff)
      (protocolError .invalidField s!"RFCPRO response field {ordinal} is invalid")
    checkFields (ordinal + 1) fields

def isEnd (field : RfcErrorEnvelopeField) : Bool := field.tag == rfcErrorEnvelopeEndTag

/-- The index of the End field, which has to occur once, last, and without a value. -/
def findEnd (fields : List RfcErrorEnvelopeField) : Except RfcErrorEnvelopeError Nat := do
  require (fields.countP isEnd ≠ 0)
    (protocolError .missingEnd "RFCPRO response lacks its terminal End field")
  let endIndex := fields.findIdx isEnd
  require (fields.countP isEnd = 1 ∧ endIndex + 1 = fields.length ∧
      fields[endIndex]?.map RfcErrorEnvelopeField.value = some [])
    (protocolError .invalidEnd
      "RFCPRO response End field must occur once, last, with zero length")
  .ok endIndex

def decodeRfcErrorEnvelope (fields : List RfcErrorEnvelopeField)
    (options : RfcErrorEnvelopeDecodeOptions) :
    Except RfcErrorEnvelopeError RfcErrorEnvelope := do
  checkOptions options
  require ((fields.length : Int) ≤ options.maxFieldCount)
    (protocolError .tooManyFields
      "RFCPRO response exceeds the configured envelope field-count limit")
  checkFields 0 fields
  let endIndex ← findEnd fields
  let s ← run (collect options) .initial (fields.take endIndex)
  let (outcome, successControl) ← classify s
  .ok ⟨outcome, successControl, s.facts⟩

end Decode
end OpenRfc.ErrorEnvelope
