import OpenRfc.DirectCpic.Appc

/-!
The public operations of a direct-CPIC session, as programs over what an operation does
between its awaits. The codecs of the payloads are a parameter.
-/

namespace OpenRfc.DirectCpic

/-- `ClassicBcdConversionError` passes `#decodeApplicationResult`; anything else does not. -/
inductive DecodeError
  | bcdConversion (message : String)
  | malformed (message : String)
deriving DecidableEq, Repr

/-- What the normalization of a metadata output throws. -/
inductive NormalizeError
  | recursiveMetadata (code : String)
  | error (message : String)
deriving DecidableEq, Repr

/-- What an operation rejects with: `RfcCoreError`, or an error without a failure. -/
inductive Thrown
  | core (failure : RfcFailure)
  | recursiveMetadata (code : String)
  | error (message : String)
deriving DecidableEq

def NormalizeError.thrown : NormalizeError → Thrown
  | .recursiveMetadata code => .recursiveMetadata code
  | .error message => .error message

inductive ResponseKind
  | regular
  | reset
  | sessionRefresh
deriving DecidableEq, Repr

/-- `DecodedCpicFunctionResultFields` -/
structure DecodedFields (Fields : Type) where
  outcome : RfcOutcome
  facts : RfcRemoteErrorFacts
  fields : Fields

/-- A decoded initial-logon response. -/
inductive LogonReply (Value : Type)
  | success (result : Value)
  | rejected (status : Option Nat) (rejection : Option String)

structure AppcMessage where
  data : Bytes
  conversationId : Bytes
  communicationIndex : Nat
  connectionIndex : Nat
deriving DecidableEq, Repr

/-- What the place of a fragment in its plan makes of the record. -/
structure OutgoingFragmentSemantics where
  functionCode : AppcFunction
  isFinal : Bool
  info : Nat
  vector : Nat
  sapParameterLength : Nat
deriving DecidableEq, Repr

/-- One step of an outgoing plan, as far as the writer checks it. -/
structure AppcOutgoingDataFragment extends OutgoingFragmentSemantics where
  fragmentIndex : Nat
  fragmentCount : Nat
  conversationId : Bytes
  sequenceNumber : Nat
  communicationIndex : Nat
  connectionIndex : Nat
  applicationData : Bytes
  messageApplicationDataLength : Nat
deriving DecidableEq, Repr

/-- The codecs which a session calls, with the identity they are given. -/
structure Codec (Fields Value : Type) where
  conversationId : Bytes
  connectionIndex : Nat
  /-- The checks of `#planOutgoingRequest` and `planOutgoingAppcDataFragments`. -/
  planOutgoingRequest : Bytes → Except Cause (List AppcOutgoingDataFragment)
  snapshotOutgoingAppcDataFragment :
    AppcOutgoingDataFragment → Except Cause AppcOutgoingDataFragment
  /-- The checks of the data of a fragment, and its record behind the version and the function
  code. -/
  encodeAppcRecord : AppcOutgoingDataFragment → Except Cause Bytes
  /-- The connection index in the operation information of a record. -/
  decodeAppcAsyncDataInfo : Bytes → Except Cause Nat
  /-- `AppcConversationDecoder`: a payload pushed after others completes a message or not. -/
  push : (allowInitialReceive : Bool) → List Bytes → Bytes → Except Cause (Option AppcMessage)
  pushTerminalDeallocation :
    (allowInitialReceive : Bool) → List Bytes → Bytes → Except Cause AppcMessage
  /-- `decoder.finish()`, after these payloads. -/
  finish : (allowInitialReceive : Bool) → List Bytes → Except Cause Unit
  isCpicRfcCallbackRequest : Bytes → Bool
  callbacks : Bool
  encodeCpicFunctionRequest : (functionName : String) → (sessionId : Bytes) → Except String Bytes
  encodeCpicCutFunctionRequest : (functionName : String) → Except String Bytes
  buildRfcGetFunctionInterfaceRequest : String → Except String Bytes
  buildDdIfFieldInfoGetRequest : String → Except String Bytes
  buildRfcGetStructureDefinitionRequest : String → Except String Bytes
  decodeResultFields : ResponseKind → Bytes → Except String (DecodedFields Fields)
  decodeCpicInitialLogonResponse : Bytes → Except String (LogonReply Value)
  decodeRfcFunctionInterfaceResult : String → Fields → Except DecodeError Value
  decodeDdIfFieldInfoGetResult : String → Fields → Except DecodeError Value
  detectRfcStructureDefinitionRowName : String → Fields → Except DecodeError (Option String)
  decodeRfcStructureDefinitionResult : String → Fields → Except DecodeError Value
  pingResult : Fields → Value
  resetResult : Value
  /-- `exchange` resolves with the bytes of the reply. -/
  bytesResult : Bytes → Value

inductive CacheKey
  | function (name : String)
  | structure (name : String)
deriving DecidableEq, Repr

/-- What is left of an operation. The awaited steps end the synchronous part. -/
inductive Program (Fields Value : Type) where
  | resolve (value : Value)
  | reject (e : Thrown)
  /-- Read `#authenticated`. -/
  | authenticated (next : Bool → Program Fields Value)
  | sessionId (next : Option Bytes → Program Fields Value)
  | cached (key : CacheKey) (next : Option Value → Program Fields Value)
  | store (key : CacheKey) (value : Value) (next : Program Fields Value)
  /-- Check that an exchange is available and become the compound operation owner. -/
  | claim (next : Except Thrown Unit → Program Fields Value)
  | release (next : Program Fields Value)
  /-- Await a promise which is settled. -/
  | tick (next : Program Fields Value)
  | exchange (request : Bytes) (allowCallbacks owned : Bool)
      (next : Except Thrown Bytes → Program Fields Value)
  | decodeRegularResponse (response : Bytes) (kind : ResponseKind)
      (next : Except Thrown (DecodedFields Fields) → Program Fields Value)
  /-- `#decodeApplicationResult`, of a decoder which throws. -/
  | decodeFailed (e : DecodeError) (next : Thrown → Program Fields Value)
  /-- The end of `logonAndPing`. -/
  | decodeLogon (response sessionId : Bytes) (next : Except Thrown Value → Program Fields Value)

namespace Program
variable {Fields Value : Type}

/-- Go on with a result, or let an error through. -/
def onOk {α : Type} (next : α → Program Fields Value) : Except Thrown α → Program Fields Value
  | .ok a => next a
  | .error e => .reject e

/-- What an encoder throws is not a core error. -/
def encoded (next : Bytes → Program Fields Value) : Except String Bytes → Program Fields Value
  | .ok request => next request
  | .error message => .reject (.error message)

/-- `if (!this.#authenticated || this.#cpicSessionId === undefined) throw …` -/
def requireAuthenticated (message : String) (next : Bytes → Program Fields Value) :
    Program Fields Value :=
  .authenticated fun authenticated =>
    .sessionId fun
      | some cpicSessionId =>
          if authenticated then next cpicSessionId else .reject (.error message)
      | none => .reject (.error message)

/-- `#decodeApplicationResult(decode)`: the decoder runs at once, its value is awaited. -/
def decodeApplicationResult {α : Type} (result : Except DecodeError α)
    (next : Except Thrown α → Program Fields Value) : Program Fields Value :=
  match result with
  | .ok a => .tick (next (.ok a))
  | .error e => .decodeFailed e fun thrown => next (.error thrown)

variable (codec : Codec Fields Value)

def exchangeOnly (request : Bytes) (allowCallbacks : Bool) : Program Fields Value :=
  .exchange request allowCallbacks false (onOk fun data => .resolve (codec.bytesResult data))

/-- `cpicSessionId` holds the random bytes which the request was encoded with. -/
def logonAndPing (cpicSessionId : Bytes) (request : Except String Bytes) :
    Program Fields Value :=
  .authenticated fun
    | true => .reject (.error "direct CPIC session is already authenticated")
    | false =>
        encoded (fun request =>
          .exchange request false false <| onOk fun response =>
            .decodeLogon response cpicSessionId <| onOk fun value => .resolve value) request

def ping : Program Fields Value :=
  requireAuthenticated "direct CPIC session must be authenticated before ping" fun cpicSessionId =>
    encoded (fun request =>
      .exchange request false false <| onOk fun response =>
        .decodeRegularResponse response .regular <| onOk fun decoded =>
          .resolve (codec.pingResult decoded.fields))
      (codec.encodeCpicFunctionRequest "RFC_PING" cpicSessionId)

/-- The `finally` of `resetServerContext`. -/
def releaseAndReject {α : Type} (next : α → Program Fields Value) :
    Except Thrown α → Program Fields Value
  | .ok a => next a
  | .error e => .release (.reject e)

/-- After the reply to `SYSTEM_RESET_RFC_SERVER`: re-establish the session header. -/
def refreshSession : Program Fields Value :=
  .sessionId fun
    | none => .release (.reject (.error "sessionId must be a Uint8Array"))
    | some cpicSessionId =>
        match codec.encodeCpicFunctionRequest "RFC_PING" cpicSessionId with
        | .error message => .release (.reject (.error message))
        | .ok request =>
            .exchange request false true <| releaseAndReject fun refresh =>
              .decodeRegularResponse refresh .sessionRefresh <| releaseAndReject fun _ =>
                .release (.resolve codec.resetResult)

def resetServerContext : Program Fields Value :=
  requireAuthenticated "direct CPIC session must be authenticated before server-context reset"
    fun _ =>
      .claim <| onOk fun () =>
        match codec.encodeCpicCutFunctionRequest "SYSTEM_RESET_RFC_SERVER" with
        | .error message => .release (.reject (.error message))
        | .ok request =>
            .exchange request false true <| releaseAndReject fun response =>
              .decodeRegularResponse response .reset <| releaseAndReject fun _ =>
                refreshSession codec

/-- A lookup which is answered from its cache, or by one exchange. -/
def lookup (message : String) (key : CacheKey) (request : Except String Bytes)
    (decode : Fields → Except DecodeError Value)
    (next : Except Thrown Value → Program Fields Value) : Program Fields Value :=
  .authenticated fun authenticated =>
    .sessionId fun
      | none => next (.error (.error message))
      | some _ =>
          if authenticated then
            .cached key fun
              | some value => next (.ok value)
              | none =>
                  match request with
                  | .error message => next (.error (.error message))
                  | .ok request =>
                      .exchange request false false fun
                        | .error e => next (.error e)
                        | .ok response =>
                            .decodeRegularResponse response .regular fun
                              | .error e => next (.error e)
                              | .ok decoded =>
                                  decodeApplicationResult (decode decoded.fields) fun
                                    | .error e => next (.error e)
                                    | .ok value => .store key value (next (.ok value))
          else
            next (.error (.error message))

/-- The settlement of an operation. -/
def settle : Except Thrown Value → Program Fields Value
  | .ok value => .resolve value
  | .error e => .reject e

def lookupFunctionInterface (functionName : String)
    (next : Except Thrown Value → Program Fields Value) : Program Fields Value :=
  lookup "direct CPIC session must be authenticated before metadata lookup"
    (.function functionName) (codec.buildRfcGetFunctionInterfaceRequest functionName)
    (codec.decodeRfcFunctionInterfaceResult functionName) next

def lookupStructureDefinition (structureName : String)
    (next : Except Thrown Value → Program Fields Value) : Program Fields Value :=
  lookup "direct CPIC session must be authenticated before structure metadata lookup"
    (.structure structureName) (codec.buildDdIfFieldInfoGetRequest structureName)
    (codec.decodeDdIfFieldInfoGetResult structureName) next

def getFunctionInterface (functionName : String) : Program Fields Value :=
  lookupFunctionInterface codec functionName settle

def getStructureDefinition (structureName : String) : Program Fields Value :=
  lookupStructureDefinition codec structureName settle

/-- The exchange of `getLegacyStructureDefinition` for a concrete structure. -/
def legacyRow (structureName rowName : String) : Program Fields Value :=
  encoded (fun request =>
    .exchange request false false <| onOk fun response =>
      .decodeRegularResponse response .regular <| onOk fun decoded =>
        decodeApplicationResult (codec.decodeRfcStructureDefinitionResult rowName decoded.fields) <|
          onOk fun definition =>
            .store (.structure rowName) definition <|
              .store (.structure structureName) definition <| .resolve definition)
    (codec.buildRfcGetStructureDefinitionRequest rowName)

def getLegacyStructureDefinition (structureName : String) : Program Fields Value :=
  requireAuthenticated "direct CPIC session must be authenticated before metadata lookup"
    fun _ =>
      .cached (.structure structureName) fun
        | some value => .resolve value
        | none =>
            encoded (fun request =>
              .exchange request false false <| onOk fun response =>
                .decodeRegularResponse response .regular <| onOk fun decoded =>
                  decodeApplicationResult
                    (codec.detectRfcStructureDefinitionRowName structureName decoded.fields) <|
                    onOk fun
                      | some rowName =>
                          .cached (.structure rowName) fun
                            | some cachedRow =>
                                .store (.structure structureName) cachedRow <|
                                  .resolve cachedRow
                            | none => legacyRow codec structureName rowName
                      | none =>
                          decodeApplicationResult (codec.decodeRfcStructureDefinitionResult structureName
                              decoded.fields) <| onOk fun definition =>
                            .store (.structure structureName) definition <|
                              .resolve definition)
              (codec.buildRfcGetStructureDefinitionRequest structureName)

/-- `invokeClassicWithMetadata`; a failed preparation is a `DirectCpicPreWireError`. -/
def invokeWithMetadata (request : Except String Bytes)
    (decode : Fields → Except DecodeError Value)
    (next : Except Thrown Value → Program Fields Value) : Program Fields Value :=
  match request with
  | .error message => next (.error (.error message))
  | .ok request =>
      .exchange request true false fun
        | .error e => next (.error e)
        | .ok response =>
            .decodeRegularResponse response .regular fun
              | .error e => next (.error e)
              | .ok decoded => decodeApplicationResult (decode decoded.fields) next

def invokeClassicWithMetadata (request : Except String Bytes)
    (decode : Fields → Except DecodeError Value) : Program Fields Value :=
  invokeWithMetadata request decode settle

/-- The optimized lookups: one classic invocation, whose output is normalized. -/
def optimizedLookup (message : String) (request : Except String Bytes)
    (decode : Fields → Except DecodeError Value) (normalize : Value → Except NormalizeError Value)
    (next : Except Thrown Value → Program Fields Value) : Program Fields Value :=
  .authenticated fun authenticated =>
    .sessionId fun
      | none => next (.error (.error message))
      | some _ =>
          if authenticated then
            invokeWithMetadata request decode fun
              | .error e => .tick (next (.error e))
              | .ok output => .tick <|
                  match normalize output with
                  | .ok value => next (.ok value)
                  | .error e => next (.error e.thrown)
          else
            next (.error (.error message))

/-- What `invokeClassic` has come to with the function interface: the serializer and the
metadata needs of the call. -/
structure ClassicInvocation (Fields Value : Type) where
  /-- Some parameter is recursive or may be. -/
  needsRecursiveMetadata : Bool
  /-- The recursive metadata cannot be done without. -/
  requiresRecursiveMetadata : Bool
  recursiveRequest : Except String Bytes
  decodeRecursive : Fields → Except DecodeError Value
  normalizeRecursive : Value → Except NormalizeError Value
  /-- `#admitRecursiveSerializerSend`, then the structures which are to be looked up. -/
  admits : Option Value → Except String (List String)
  request : Option Value → List (String × Value) → Except String Bytes
  decode : Option Value → List (String × Value) → Fields → Except DecodeError Value

def recursiveMetadataUnavailableKeys : List String :=
  ["FU_NOT_FOUND", "FUNCTION_NOT_EXIST", "RFC_NOT_FOUND"]

def recursiveMetadataAuthorizationKeys : List String :=
  ["CALL_FUNCTION_NO_AUTHORITY", "RFC_NO_AUTHORITY", "RFC_AUTHORIZATION_FAILURE"]

def allowsOptionalRecursiveMetadataFallback : Thrown → Bool
  | .error _ => false
  | .recursiveMetadata code => code == "REMOTE_DDIC_RESOLUTION_ERRORS"
  | .core failure =>
      failure.disposition == .reusable &&
        ((failure.category == .abapException &&
            recursiveMetadataUnavailableKeys.contains failure.key) ||
          recursiveMetadataAuthorizationKeys.contains failure.key ||
          recursiveMetadataAuthorizationKeys.contains failure.abap.runtimeId)

/-- The loop of `invokeClassic` over its structures. -/
def lookupStructures (next : Except Thrown (List (String × Value)) → Program Fields Value) :
    List String → List (String × Value) → Program Fields Value
  | [], structures => next (.ok structures)
  | name :: names, structures =>
      lookupStructureDefinition codec name fun
        | .error e => .tick (next (.error e))
        | .ok definition => .tick (lookupStructures next names (structures ++ [(name, definition)]))

/-- The end of `invokeClassic`, with the recursive metadata or without. -/
def invokeAdmitted (invocation : ClassicInvocation Fields Value) (recursive : Option Value) :
    Program Fields Value :=
  match invocation.admits recursive with
  | .error message => .reject (.error message)
  | .ok names =>
      lookupStructures codec (onOk fun structures =>
        invokeWithMetadata (invocation.request recursive structures)
          (invocation.decode recursive structures) settle) names []

/-- `invokeClassic` after the lookup of the function interface. -/
def invokeCaptured (capture : Value → Except String (ClassicInvocation Fields Value))
    (metadata : Value) : Program Fields Value :=
  match capture metadata with
  | .error message => .reject (.error message)
  | .ok invocation =>
      if invocation.needsRecursiveMetadata then
        optimizedLookup
          "direct CPIC session must be authenticated before recursive metadata lookup"
          invocation.recursiveRequest invocation.decodeRecursive invocation.normalizeRecursive fun
          | .ok value => .tick (invokeAdmitted codec invocation (some value))
          | .error e => .tick <|
              if invocation.requiresRecursiveMetadata = true ∨
                  allowsOptionalRecursiveMetadataFallback e = false then
                .reject e
              else
                invokeAdmitted codec invocation none
      else
        invokeAdmitted codec invocation none

def invokeClassic (functionName : String)
    (capture : Value → Except String (ClassicInvocation Fields Value)) : Program Fields Value :=
  lookupFunctionInterface codec functionName fun
    | .error e => .tick (.reject e)
    | .ok metadata => .tick (invokeCaptured codec capture metadata)

end Program

/-- A call of a public method, with what the caller and its encoders made of it. -/
inductive Call (Fields Value : Type) where
  | exchange (request : Bytes) (allowCallbacks : Bool)
  | logonAndPing (cpicSessionId : Bytes) (request : Except String Bytes)
  | ping
  | resetServerContext
  | getFunctionInterface (functionName : String)
  | getStructureDefinition (structureName : String)
  | getLegacyStructureDefinition (structureName : String)
  /-- The optimized function, recursive function, structure and timestamp lookups. -/
  | optimizedLookup (message : String) (request : Except String Bytes)
      (decode : Fields → Except DecodeError Value) (normalize : Value → Except NormalizeError Value)
  | invokeClassicWithMetadata (request : Except String Bytes)
      (decode : Fields → Except DecodeError Value)
  | invokeClassic (functionName : String)
      (capture : Value → Except String (Program.ClassicInvocation Fields Value))

def Call.isExchange {Fields Value : Type} : Call Fields Value → Bool
  | .exchange _ _ => true
  | _ => false

/-- The call which does not look at `#authenticated`. -/
def Call.isInvocation {Fields Value : Type} : Call Fields Value → Bool
  | .invokeClassicWithMetadata _ _ => true
  | _ => false

def Call.program {Fields Value : Type} (codec : Codec Fields Value) :
    Call Fields Value → Program Fields Value
  | .exchange request allowCallbacks => .exchangeOnly codec request allowCallbacks
  | .logonAndPing cpicSessionId request => .logonAndPing cpicSessionId request
  | .ping => .ping codec
  | .resetServerContext => .resetServerContext codec
  | .getFunctionInterface functionName => .getFunctionInterface codec functionName
  | .getStructureDefinition structureName => .getStructureDefinition codec structureName
  | .getLegacyStructureDefinition structureName =>
      .getLegacyStructureDefinition codec structureName
  | .optimizedLookup message request decode normalize =>
      .optimizedLookup message request decode normalize .settle
  | .invokeClassicWithMetadata request decode => .invokeClassicWithMetadata request decode
  | .invokeClassic functionName capture => .invokeClassic codec functionName capture

end OpenRfc.DirectCpic
