import OpenRfc.Connection.Direct
import OpenRfc.Foundation.Utf8
import OpenRfc.SapRouter.Route

/-!
The plan of a connection. One snapshot of the parameters selects the route, the authentication, and
the proxies on the way; no input and output takes place.
-/

namespace OpenRfc.Connection
open Fallible

inductive ConnectionProviderCapability
  | directRfcTransport
  | messageServerRfcTransport
  | messageServerSaprouterRouting
  | websocketRfcTransport
  | namedUserAuthentication
  | logonTicketAuthentication
  | principalPropagation
  | saprouterRouting
  | connectivitySocks5Tcp
  | connectivityRfcProxy
  | connectivityProxyAuthorization
deriving DecidableEq, Repr

structure DirectConnectionRoute where
  host : JsString
  applicationServerHost : JsString
  port : Nat
  applicationServerService : JsString
  sysnr : JsString
  cpicStreaming : CpicStreaming
deriving DecidableEq

structure MessageServerConnectionRoute where
  messageServerHost : JsString
  messageServerService : Option JsString
  systemId : JsString
  group : JsString
deriving DecidableEq

structure WebSocketConnectionRoute where
  host : JsString
  port : Option Nat
deriving DecidableEq

inductive ConnectionRoute
  | direct (route : DirectConnectionRoute)
  | messageServer (route : MessageServerConnectionRoute)
  | websocket (route : WebSocketConnectionRoute)
deriving DecidableEq

inductive ConnectionAuthenticationPlan
  | namedUser (name password : JsString)
  | logonTicket (name ticket : JsString)
  | principalPropagation (businessUserToken : JsString)
deriving DecidableEq

structure ConnectivityProxyPlan where
  host : JsString
  port : Nat
  authorization : Option JsString
  subaccount : Option JsString
  locationId : Option JsString
deriving DecidableEq

structure ConnectivitySocks5Plan where
  host : JsString
  port : Nat
  accessToken : JsString
  locationId : Option JsString
deriving DecidableEq

structure ConnectionRoutePlan where
  route : ConnectionRoute
  logon : NormalizedRfcLogon
  authentication : ConnectionAuthenticationPlan
  /-- The route string, which has been validated. -/
  sapRouter : Option JsString
  connectivityProxy : Option ConnectivityProxyPlan
  connectivitySocks5 : Option ConnectivitySocks5Plan
  requiredProviderCapabilities : List ConnectionProviderCapability
deriving DecidableEq

/-- A direct plan with a user, as a normalized connection. -/
def normalizedDirectConnectionFromPlan (plan : ConnectionRoutePlan) :
    Except String NormalizedDirectConnection :=
  match plan.route with
  | .direct route =>
    let connection (name : JsString) (credential : DirectCredential) :
        NormalizedDirectConnection :=
      { host := route.host
        applicationServerHost := route.applicationServerHost
        port := route.port
        applicationServerService := route.applicationServerService
        client := plan.logon.client
        user := name
        credential := credential
        language := plan.logon.language
        sysnr := route.sysnr
        cpicStreaming := route.cpicStreaming }
    match plan.authentication with
    | .principalPropagation _ =>
      .error "normalized direct connection requires user authentication"
    | .logonTicket name ticket => .ok (connection name (.ticket ticket))
    | .namedUser name password => .ok (connection name (.password password))
  | _ => .error "normalized direct connection requires a direct route"

section Snapshot

/-- `CANONICAL_PARAMETER_BY_KEY` -/
def canonicalParameter (key : JsString) : Option ConnectionParameterName :=
  connectionParameterNames.find? fun name => key = name.key false ∨ key = name.key true

/-- What is held under each name, if it is held. -/
abbrev ConnectionParameterSnapshot := ConnectionParameterName → ParameterValue

structure SnapshotState where
  seen : List ConnectionParameterName
  snapshot : ConnectionParameterSnapshot

/-- The loop of `snapshotConnectionParameters` reads one property. -/
def snapshotProperty (state : SnapshotState) :
    ParameterKey × PropertyDescriptor → Except String SnapshotState
  | (.symbol _, _) => .error "RFC connection parameter keys must be strings"
  | (.string key, descriptor) =>
    match canonicalParameter key with
    | none => .error s!"unknown RFC connection parameter {key.text}"
    | some canonical =>
      if canonical ∈ state.seen then
        .error s!"duplicate RFC connection parameter {canonical.text}"
      else
        match descriptor with
        | .accessor => .error s!"RFC connection parameter {key.text} must be an own data property"
        | .data value =>
          .ok ⟨canonical :: state.seen, Function.update state.snapshot canonical value⟩

def snapshotConnectionParameters : RfcConnectionParameters →
    Except String ConnectionParameterSnapshot
  | .value => .error "RFC connection parameters must be an object"
  | .object o => do
    require (o.isProxy = false) "RFC connection parameters must not be a Proxy"
    require (o.hasCustomPrototype = false)
      "RFC connection parameters must not have a custom prototype"
    let state ← o.properties.entries.foldlM snapshotProperty ⟨[], fun _ => .undefined⟩
    .ok state.snapshot

end Snapshot

section Plan
open ConnectionParameterName

namespace ConnectionParameterSnapshot
variable (input : ConnectionParameterSnapshot)

abbrev hasValue (name : ConnectionParameterName) : Prop := input name ≠ .undefined

/-- `textParameter(input, name, true)` -/
def requiredText (name : ConnectionParameterName) : Except String JsString :=
  textValue name (input name)

/-- `textParameter(input, name, false)` -/
def optionalText (name : ConnectionParameterName) : Except String (Option JsString) :=
  optionalTextValue name (input name)

def asciiText (name : ConnectionParameterName) (maximumLength : Nat) (value : JsString) :
    Except String JsString := do
  require (IsPrintable maximumLength value)
    s!"{name.text} must contain 1..{maximumLength} printable ASCII bytes"
  .ok value

/-- `asciiTextParameter(input, name, true, maximumLength)` -/
def requiredAsciiText (name : ConnectionParameterName) (maximumLength : Nat) :
    Except String JsString := do
  asciiText name maximumLength (← input.requiredText name)

/-- `asciiTextParameter(input, name, false, maximumLength)` -/
def optionalAsciiText (name : ConnectionParameterName) (maximumLength : Nat) :
    Except String (Option JsString) := do
  match ← input.optionalText name with
  | none => .ok none
  | some value => (asciiText name maximumLength value).map some

def portParameter (name : ConnectionParameterName) : Except String Nat := do
  let value ← input.requiredText name
  match digitsOf? 1 value.length value with
  | none => .error s!"{name.text} must be an integer in 1..65535"
  | some digits =>
    require (1 ≤ digits.number ∧ digits.number ≤ 65535)
      s!"{name.text} must be an integer in 1..65535"
    .ok digits.number

end ConnectionParameterSnapshot

variable (input : ConnectionParameterSnapshot)

inductive RouteKind
  | direct
  | messageServer
  | websocket

def selectRoute : Except String RouteKind :=
  if input.hasValue ashost then .ok .direct
  else if input.hasValue mshost then .ok .messageServer
  else if input.hasValue wshost then .ok .websocket
  else .error "one of ashost, mshost, or wshost is required"

/-- Parameters which a route takes are refused without the host that selects it. -/
def rejectOrphaned (host : ConnectionParameterName) (names : List ConnectionParameterName) :
    Except String Unit :=
  names.forM fun name =>
    require (input.hasValue host ∨ ¬input.hasValue name)
      s!"{name.text} requires a selected {host.text} route"

def rejectOrphanedRouteParameters : Except String Unit := do
  rejectOrphaned input ashost [gwhost, gwserv, port, sysnr, cpicStreaming]
  rejectOrphaned input mshost [msserv, r3name, sysid, group]
  rejectOrphaned input wshost [wsport]

/-- The values under some of the names. -/
def pick (names : List ConnectionParameterName) (h : names.Nodup) : RfcConnectionParameters :=
  .object (.ofNames (names.filter (input.hasValue ·)) (h.filter _) input)

structure PlannedRoute where
  route : ConnectionRoute
  logon : NormalizedRfcLogon
  capability : ConnectionProviderCapability

def planDirectRoute : Except String PlannedRoute := do
  let normalized ← normalizeDirectRouteConnectionParameters
    (pick input [ashost, gwhost, gwserv, port, sysnr, client, lang, cpicStreaming] (by decide))
  .ok {
    route := .direct {
      host := normalized.host
      applicationServerHost := normalized.applicationServerHost
      port := normalized.port
      applicationServerService := normalized.applicationServerService
      sysnr := normalized.sysnr
      cpicStreaming := normalized.cpicStreaming }
    logon := ⟨normalized.client, normalized.language⟩
    capability := .directRfcTransport }

/-- `R3NAME` takes precedence over `SYSID`. -/
def systemIdText : Except String JsString :=
  if input.hasValue r3name then input.requiredText r3name else input.requiredText sysid

def checkSystemId (systemId : JsString) : Except String Unit :=
  require (systemId.length = 3 ∧ systemId.all isAlphanumeric = true)
    "r3name/sysid must be a three-character SAP system ID"

def planMessageServerRoute : Except String PlannedRoute := do
  let logon ← normalizeRfcLogonParameters (pick input [client, lang] (by decide))
  require (input.hasValue r3name ∨ input.hasValue sysid)
    "r3name or sysid is required for a message-server route"
  require (input.hasValue group)
    "group is required for a message-server route"
  let systemId ← systemIdText input
  checkSystemId systemId
  let service ← input.optionalAsciiText msserv 64
  let host ← input.requiredAsciiText mshost 255
  let groupName ← input.requiredAsciiText group 64
  .ok {
    route := .messageServer {
      messageServerHost := host
      messageServerService := service
      systemId := systemId
      group := groupName }
    logon := logon
    capability := .messageServerRfcTransport }

def webSocketPort : Except String (Option Nat) :=
  if input.hasValue wsport then (input.portParameter wsport).map some else .ok none

def planWebSocketRoute : Except String PlannedRoute := do
  let logon ← normalizeRfcLogonParameters (pick input [client, lang] (by decide))
  let port ← webSocketPort input
  let host ← input.requiredAsciiText wshost 255
  .ok ⟨.websocket ⟨host, port⟩, logon, .websocketRfcTransport⟩

def planRoute : Except String PlannedRoute := do
  rejectOrphanedRouteParameters input
  match ← selectRoute input with
  | .direct => planDirectRoute input
  | .messageServer => planMessageServerRoute input
  | .websocket => planWebSocketRoute input

/-- A user with a password or with a ticket. -/
def planUserAuthentication :
    Except String (ConnectionAuthenticationPlan × ConnectionProviderCapability) := do
  require (¬(input.hasValue passwd ∧ input.hasValue mysapsso2))
    "passwd and mysapsso2 cannot be combined"
  require (input.hasValue mysapsso2 ∨ input.hasValue user ∧ input.hasValue passwd)
    "user and passwd must be supplied together"
  require (input.hasValue mysapsso2 → input.hasValue user)
    "user and mysapsso2 must be supplied together"
  let name ← input.requiredText user
  if input.hasValue mysapsso2 then do
    let ticket ← normalizeRfcLogonTicket (input mysapsso2)
    .ok (.logonTicket name ticket, .logonTicketAuthentication)
  else do
    let password ← input.requiredText passwd
    .ok (.namedUser name password, .namedUserAuthentication)

def planAuthentication :
    Except String (ConnectionAuthenticationPlan × ConnectionProviderCapability) := do
  match ← input.optionalText businessUserToken with
  | some token =>
    require (¬(input.hasValue user ∨ input.hasValue passwd ∨ input.hasValue mysapsso2))
      "business_user_token cannot be combined with user, passwd, or mysapsso2"
    .ok (.principalPropagation token, .principalPropagation)
  | none => planUserAuthentication input

def planConnectivityProxy : Except String (Option ConnectivityProxyPlan) := do
  require (input.hasValue connectivityProxyHost ↔ input.hasValue connectivityProxyPort)
    "connectivity_proxy_host and connectivity_proxy_port must be supplied together"
  if input.hasValue connectivityProxyHost then do
    let authorization ← input.optionalText connectivityProxyAuthentication
    let subaccount ← input.optionalAsciiText connectivitySubaccount 255
    let locationId ← input.optionalAsciiText connectivityLocationId 255
    let host ← input.requiredAsciiText connectivityProxyHost 255
    let port ← input.portParameter connectivityProxyPort
    .ok (some ⟨host, port, authorization, subaccount, locationId⟩)
  else do
    require (¬(input.hasValue connectivityProxyAuthentication ∨
        input.hasValue connectivitySubaccount ∨ input.hasValue connectivityLocationId))
      "Connectivity proxy options require connectivity_proxy_host and connectivity_proxy_port"
    .ok none

/-- At most 189 bytes without control characters -/
def checkSocks5LocationId (locationId : Option JsString) : Except String Unit :=
  require (∀ text ∈ locationId, text.utf8.length ≤ 189 ∧ text.hasNoControls)
    "connectivity_socks5_location_id must use at most 189 bytes without control characters"

def planConnectivitySocks5Route : Except String ConnectivitySocks5Plan := do
  require (input.hasValue connectivitySocks5ProxyHost ∧
      input.hasValue connectivitySocks5ProxyPort ∧ input.hasValue connectivitySocks5AccessToken)
    ("connectivity_socks5_proxy_host, connectivity_socks5_proxy_port, and " ++
      "connectivity_socks5_access_token must be supplied together")
  let accessToken ← input.requiredAsciiText connectivitySocks5AccessToken 65536
  require (¬JsString.literal "Bearer " <+: accessToken)
    "connectivity_socks5_access_token must be a raw token without a Bearer prefix"
  let locationId ← input.optionalText connectivitySocks5LocationId
  checkSocks5LocationId locationId
  let host ← input.requiredAsciiText connectivitySocks5ProxyHost 255
  let port ← input.portParameter connectivitySocks5ProxyPort
  .ok ⟨host, port, accessToken, locationId⟩

def planConnectivitySocks5 : Except String (Option ConnectivitySocks5Plan) := do
  if input.hasValue connectivitySocks5ProxyHost ∨ input.hasValue connectivitySocks5ProxyPort ∨
      input.hasValue connectivitySocks5AccessToken then
    (planConnectivitySocks5Route input).map some
  else do
    require (¬input.hasValue connectivitySocks5LocationId)
      "connectivity_socks5_location_id requires the complete Connectivity SOCKS5 route"
    .ok none

def sapRouterRouteString : Except String (Option JsString) := do
  match ← input.optionalText saprouter with
  | none => .ok none
  | some value =>
    match SapRouter.assertSapRouterRoutePrefix (.string value.chars) with
    | .error _ => .error "saprouter must be a valid SAProuter route prefix"
    | .ok _ => .ok (some value)

end Plan

section Combination

def ConnectionRoute.isDirect : ConnectionRoute → Bool
  | .direct _ => true
  | _ => false

def ConnectionRoute.isMessageServer : ConnectionRoute → Bool
  | .messageServer _ => true
  | _ => false

def ConnectionRoute.isWebSocket : ConnectionRoute → Bool
  | .websocket _ => true
  | _ => false

def ConnectionAuthenticationPlan.isPrincipalPropagation : ConnectionAuthenticationPlan → Bool
  | .principalPropagation _ => true
  | _ => false

/-- The checks of a Connectivity SOCKS5 route against the other parts of a plan. -/
def checkSocks5Combination (route : ConnectionRoute)
    (authentication : ConnectionAuthenticationPlan) (routeString : Option JsString)
    (socks5 : Option ConnectivitySocks5Plan) : Except String Unit := do
  require (socks5 = none ∨ route.isDirect = true)
    "Connectivity SOCKS5 is supported only for a direct ashost route"
  require (socks5 = none ∨ authentication.isPrincipalPropagation = false)
    "Connectivity SOCKS5 requires user authentication"
  require (socks5 = none ∨ routeString = none)
    "Connectivity SOCKS5 cannot be combined with SAProuter"

def requiredCapabilities (route : PlannedRoute) (authentication : ConnectionProviderCapability)
    (routeString : Option JsString) (proxy : Option ConnectivityProxyPlan)
    (socks5 : Option ConnectivitySocks5Plan) : List ConnectionProviderCapability :=
  [route.capability, authentication] ++
    (if routeString ≠ none then [.saprouterRouting] else []) ++
    (if routeString ≠ none ∧ route.route.isMessageServer = true then
      [.messageServerSaprouterRouting] else []) ++
    (match proxy with
      | none => []
      | some proxy => .connectivityRfcProxy ::
        (if proxy.authorization ≠ none then [.connectivityProxyAuthorization] else [])) ++
    (if socks5 ≠ none then [.connectivitySocks5Tcp] else [])

/-- `planConnectionRoute`, behind its snapshot -/
def planSnapshot (input : ConnectionParameterSnapshot) : Except String ConnectionRoutePlan := do
  let route ← planRoute input
  let (authentication, capability) ← planAuthentication input
  let connectivityProxy ← planConnectivityProxy input
  let connectivitySocks5 ← planConnectivitySocks5 input
  require (connectivityProxy = none ∨ connectivitySocks5 = none)
    "Connectivity RFC proxy and Connectivity SOCKS5 routes cannot be combined"
  require (authentication.isPrincipalPropagation = false ∨ connectivityProxy ≠ none)
    "business_user_token requires a Connectivity proxy route"
  let routeString ← sapRouterRouteString input
  require (routeString = none ∨ route.route.isWebSocket = false)
    "saprouter cannot be combined with WebSocket RFC"
  checkSocks5Combination route.route authentication routeString connectivitySocks5
  .ok {
    route := route.route
    logon := route.logon
    authentication := authentication
    sapRouter := routeString
    connectivityProxy := connectivityProxy
    connectivitySocks5 := connectivitySocks5
    requiredProviderCapabilities :=
      requiredCapabilities route capability routeString connectivityProxy connectivitySocks5 }

end Combination

def planConnectionRoute (parameters : RfcConnectionParameters) :
    Except String ConnectionRoutePlan := do
  planSnapshot (← snapshotConnectionParameters parameters)

end OpenRfc.Connection
