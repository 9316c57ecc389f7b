import OpenRfc.Foundation.Fallible
import OpenRfc.Foundation.OrderedMap
import OpenRfc.Foundation.Numeral

/-!
The parameter objects which describe a connection. The recognized names are spelled in lower or in
upper case; what an object holds under a name is read once, and never through an accessor.
-/

namespace OpenRfc.Connection
open Fallible

/-- What `${n}` makes of a number. -/
abbrev NumberText := { text : JsString // text ≠ [] }

/-- A value of a property. Numbers are known by their texts, and what is neither a text nor a number
by its identity. -/
inductive ParameterValue
  | undefined
  | null
  | text (s : JsString)
  | number (text : NumberText)
  | other (id : Nat)
deriving DecidableEq

namespace ParameterValue

/-- `===` -/
def strictlyEquals : ParameterValue → ParameterValue → Bool
  | .number m, .number n => m = n && m.1 != JsString.literal "NaN"
  | v, w => v = w

/-- `v ?? w` -/
def orElse (v w : ParameterValue) : ParameterValue :=
  match v with
  | .undefined | .null => w
  | v => v

end ParameterValue

inductive ConnectionParameterName
  | ashost
  | gwhost
  | gwserv
  | port
  | sysnr
  | client
  | user
  | passwd
  | mysapsso2
  | lang
  | cpicStreaming
  | mshost
  | msserv
  | r3name
  | sysid
  | group
  | wshost
  | wsport
  | saprouter
  | connectivityProxyHost
  | connectivityProxyPort
  | connectivityProxyAuthentication
  | connectivitySubaccount
  | connectivityLocationId
  | connectivitySocks5ProxyHost
  | connectivitySocks5ProxyPort
  | connectivitySocks5AccessToken
  | connectivitySocks5LocationId
  | businessUserToken
  | sncMode
deriving DecidableEq, Repr

namespace ConnectionParameterName

def text : ConnectionParameterName → String
  | ashost => "ashost"
  | gwhost => "gwhost"
  | gwserv => "gwserv"
  | port => "port"
  | sysnr => "sysnr"
  | client => "client"
  | user => "user"
  | passwd => "passwd"
  | mysapsso2 => "mysapsso2"
  | lang => "lang"
  | cpicStreaming => "cpic_streaming"
  | mshost => "mshost"
  | msserv => "msserv"
  | r3name => "r3name"
  | sysid => "sysid"
  | group => "group"
  | wshost => "wshost"
  | wsport => "wsport"
  | saprouter => "saprouter"
  | connectivityProxyHost => "connectivity_proxy_host"
  | connectivityProxyPort => "connectivity_proxy_port"
  | connectivityProxyAuthentication => "connectivity_proxy_authentication"
  | connectivitySubaccount => "connectivity_subaccount"
  | connectivityLocationId => "connectivity_location_id"
  | connectivitySocks5ProxyHost => "connectivity_socks5_proxy_host"
  | connectivitySocks5ProxyPort => "connectivity_socks5_proxy_port"
  | connectivitySocks5AccessToken => "connectivity_socks5_access_token"
  | connectivitySocks5LocationId => "connectivity_socks5_location_id"
  | businessUserToken => "business_user_token"
  | sncMode => "snc_mode"

/-- A name as it is spelled in lower case, or in upper case. -/
def key (name : ConnectionParameterName) (upper : Bool) : JsString :=
  JsString.literal (if upper then name.text.toUpper else name.text)

end ConnectionParameterName

open ConnectionParameterName

/-- `CONNECTION_PARAMETER_NAMES` -/
def connectionParameterNames : List ConnectionParameterName :=
  [ashost, gwhost, gwserv, port, sysnr, client, user, passwd, mysapsso2, lang, cpicStreaming, mshost,
    msserv, r3name, sysid, group, wshost, wsport, saprouter, connectivityProxyHost,
    connectivityProxyPort, connectivityProxyAuthentication, connectivitySubaccount,
    connectivityLocationId, connectivitySocks5ProxyHost, connectivitySocks5ProxyPort,
    connectivitySocks5AccessToken, connectivitySocks5LocationId, businessUserToken]

/-- `RECOGNIZED_DIRECT_PARAMETER_NAMES` -/
def recognizedDirectParameterNames : List ConnectionParameterName :=
  connectionParameterNames ++ [sncMode]

inductive ParameterKey
  | string (s : JsString)
  | symbol (id : Nat)
deriving DecidableEq

inductive PropertyDescriptor
  | data (value : ParameterValue)
  | accessor
deriving DecidableEq

/-- An object with its own properties, in the order of `Reflect.ownKeys`. -/
structure ParameterObject where
  isProxy : Bool := false
  hasCustomPrototype : Bool := false
  properties : OrderedMap ParameterKey PropertyDescriptor

/-- What a caller passes: an object, or a value which is none. -/
inductive RfcConnectionParameters
  | value
  | object (o : ParameterObject)

section Names

theorem mem_recognizedDirectParameterNames (name : ConnectionParameterName) :
    name ∈ recognizedDirectParameterNames := by
  cases name <;> decide

theorem mem_connectionParameterNames {name : ConnectionParameterName} :
    name ∈ connectionParameterNames ↔ name ≠ sncMode := by
  cases name <;> decide

theorem nodup_keys : ((recognizedDirectParameterNames ×ˢ [false, true]).map fun spelled =>
    spelled.1.key spelled.2).Nodup := by
  decide +kernel

theorem key_inj {name name' : ConnectionParameterName} {upper upper' : Bool} :
    name.key upper = name'.key upper' ↔ name = name' ∧ upper = upper' := by
  have hmem (name : ConnectionParameterName) (upper : Bool) :
      (name, upper) ∈ recognizedDirectParameterNames ×ˢ [false, true] :=
    List.mem_product.mpr ⟨mem_recognizedDirectParameterNames name, by cases upper <;> decide⟩
  constructor
  · intro h
    exact Prod.mk.inj (List.inj_on_of_nodup_map nodup_keys (hmem name upper) (hmem name' upper') h)
  · rintro ⟨rfl, rfl⟩
    rfl

end Names

namespace ParameterObject

/-- `Object.getOwnPropertyDescriptor(input, key)` -/
def own (o : ParameterObject) (key : JsString) : Option PropertyDescriptor :=
  o.properties.get (.string key)

/-- The value of an own data property. -/
def value (o : ParameterObject) (key : JsString) : ParameterValue :=
  match o.own key with
  | some (.data value) => value
  | _ => .undefined

/-- What is read of a name which may be spelled in lower or in upper case. -/
def held (o : ParameterObject) (name : ConnectionParameterName) : ParameterValue :=
  (o.value (name.key false)).orElse (o.value (name.key true))

/-- A plain object with values under names in lower case. -/
def ofNames (names : List ConnectionParameterName) (h : names.Nodup)
    (values : ConnectionParameterName → ParameterValue) : ParameterObject where
  properties :=
    { entries := names.map fun name => (.string (name.key false), .data (values name))
      nodup := by
        rw [List.map_map]
        refine h.map fun name name' hkey => ?_
        simpa [key_inj] using hkey }

theorem own_ofNames {names : List ConnectionParameterName} {h : names.Nodup}
    {values : ConnectionParameterName → ParameterValue} {name : ConnectionParameterName}
    {upper : Bool} :
    (ofNames names h values).own (name.key upper) =
      if name ∈ names ∧ upper = false then some (.data (values name)) else none := by
  split
  · rename_i hname
    rw [own, OrderedMap.get_eq_some_iff, hname.2]
    exact List.mem_map.mpr ⟨name, hname.1, rfl⟩
  · rename_i hname
    rw [own, OrderedMap.get_eq_none_iff]
    intro hkey
    obtain ⟨name', hname', hkey⟩ : ∃ name' ∈ names, name'.key false = name.key upper := by
      simpa [ofNames] using hkey
    obtain ⟨rfl, rfl⟩ := key_inj.mp hkey
    exact hname ⟨hname', rfl⟩

end ParameterObject

/-!
The normalization of direct connections to an application server: the endpoint of the gateway, the
logon with its language, and a password or a logon ticket.
-/

open Numeral

section Texts

def isAlphanumeric (unit : UInt16) : Bool :=
  0x30 ≤ unit && unit ≤ 0x39 || 0x41 ≤ unit && unit ≤ 0x5a || 0x61 ≤ unit && unit ≤ 0x7a

/-- `toUpperCase` of a letter or digit in ASCII -/
def upperUnit (unit : UInt16) : UInt16 :=
  if 0x61 ≤ unit ∧ unit ≤ 0x7a then unit - 0x20 else unit

/-- `/^[\x20-\x7e]{1,maximum}$/u` -/
def IsPrintable (maximum : Nat) (s : JsString) : Prop :=
  1 ≤ s.length ∧ s.length ≤ maximum ∧ s.all (fun unit => 0x20 ≤ unit && unit ≤ 0x7e) = true

instance (maximum : Nat) (s : JsString) : Decidable (IsPrintable maximum s) :=
  inferInstanceAs (Decidable (_ ∧ _ ∧ _))

/-- The digits of `/^\d{least,most}$/u` -/
def digitsOf? (least most : Nat) (s : JsString) : Option Digits :=
  if (readDigits s).2 = [] ∧ least ≤ s.length ∧ s.length ≤ most then some (readDigits s).1 else none

/-- `s.padStart(width, "0")` -/
def padStart (width : Nat) (s : JsString) : JsString := List.replicate (width - s.length) 0x30 ++ s

end Texts

section LogonTicket

def defaultMaxRfcLogonTicketLength : Nat := 16 * 1024

/-- What `String.prototype.trim` removes. -/
def isWhiteSpace (unit : UInt16) : Bool :=
  [0x09, 0x0a, 0x0b, 0x0c, 0x0d, 0x20, 0xa0, 0x1680, 0x2028, 0x2029, 0x202f, 0x205f, 0x3000,
    0xfeff].contains unit || 0x2000 ≤ unit && unit ≤ 0x200a

def trim (s : JsString) : JsString := (s.dropWhile isWhiteSpace).rdropWhile isWhiteSpace

def hexDigit? (unit : UInt16) : Option Nat :=
  if 0x30 ≤ unit ∧ unit ≤ 0x39 then some (unit.toNat - 0x30)
  else if 0x41 ≤ unit ∧ unit ≤ 0x46 then some (unit.toNat - 0x37)
  else if 0x61 ≤ unit ∧ unit ≤ 0x66 then some (unit.toNat - 0x57)
  else none

/-- Escaped octets at the start of a string, and what stands behind them. -/
def percentOctets : Nat → JsString → Option (Bytes × JsString)
  | 0, s => some ([], s)
  | count + 1, 0x25 :: high :: low :: rest => do
    let high ← hexDigit? high
    let low ← hexDigit? low
    let (octets, rest) ← percentOctets count rest
    some (UInt8.ofNat (16 * high + low) :: octets, rest)
  | _, _ => none

/-- The number of octets which the first one of a character announces. -/
def octetCount? (octet : UInt8) : Option Nat :=
  if octet < 0x80 then some 1
  else if octet < 0xc0 then none
  else if octet < 0xe0 then some 2
  else if octet < 0xf0 then some 3
  else if octet < 0xf8 then some 4
  else none

/-- The loop of `decodeURIComponent`, which takes one turn for a code unit or an escaped
character. -/
def decodeTurns : Nat → JsString → Option JsString
  | _, [] => some []
  | 0, _ :: _ => none
  | turns + 1, unit :: rest =>
    if unit ≠ 0x25 then (decodeTurns turns rest).map (unit :: ·)
    else do
      let (first, _) ← percentOctets 1 (unit :: rest)
      let count ← octetCount? (first.headD 0)
      let (octets, rest) ← percentOctets count (unit :: rest)
      let decoded ← JsString.ofUtf8? octets
      (decodeTurns turns rest).map (decoded ++ ·)

def decodeURIComponent (s : JsString) : Option JsString := decodeTurns s.length s

/-- `/^[A-Za-z0-9+/]+={0,2}$/u` -/
def isBase64Text (s : JsString) : Bool :=
  let body := s.rdropWhile (· == 0x3d)
  body != [] && body.all (fun unit => isAlphanumeric unit || unit == 0x2b || unit == 0x2f) &&
    s.length - body.length ≤ 2

def normalizeRfcLogonTicket (input : ParameterValue) : Except String JsString :=
  let maximum := defaultMaxRfcLogonTicketLength
  match input with
  | .text input => do
    require (input.length ≤ maximum * 3 + 2) s!"mysapsso2 exceeds {maximum} canonical ASCII bytes"
    match decodeURIComponent (trim input) with
    | none => .error "mysapsso2 contains invalid percent encoding"
    | some decoded =>
      let normalized := decoded.map fun unit => if unit = 0x21 then 0x2f else unit
      require (1 ≤ normalized.length ∧ normalized.length ≤ maximum)
        s!"mysapsso2 must contain 1..{maximum} canonical ASCII bytes"
      require (isBase64Text normalized = true ∧ normalized.length % 4 ≠ 1 ∧
          ([0x3d] <:+ normalized → normalized.length % 4 = 0))
        "mysapsso2 must contain canonical base64 ticket text"
      .ok normalized
  | _ => .error "mysapsso2 must be a string"

end LogonTicket

section Languages

/-- `ISO_TO_SAP_LANGUAGE` -/
def isoToSapLanguage : List (String × String) :=
  [("AF", "a"), ("SQ", "뽑"), ("AG", "뢇"), ("AR", "A"), ("AZ", "뢚"), ("BD", "룤"), ("BB", "룢"),
    ("BN", "룮"), ("BK", "룫"), ("BS", "룳"), ("Z9", "&"), ("BG", "W"), ("CA", "c"), ("ZH", "1"),
    ("ZF", "M"), ("KW", "뱗"), ("HR", "6"), ("Z1", "Z"), ("CS", "C"), ("DA", "K"), ("NL", "N"),
    ("DM", "릭"), ("EN", "E"), ("6N", "둮"), ("ET", "9"), ("FI", "U"), ("FR", "F"), ("3F", "덆"),
    ("DE", "D"), ("4G", "뎧"), ("EL", "G"), ("HE", "B"), ("HI", "묩"), ("HU", "H"), ("IS", "b"),
    ("IN", "뮎"), ("ID", "i"), ("IR", "뮒"), ("IT", "I"), ("JA", "J"), ("KK", "뱋"), ("KO", "3"),
    ("LV", "Y"), ("LT", "X"), ("MK", "봋"), ("MS", "7"), ("MV", "봖"), ("MO", "봏"), ("NI", "뵩"),
    ("NO", "O"), ("OM", "뷍"), ("P1", "븑"), ("PL", "L"), ("PT", "P"), ("1P", "느"), ("PK", "븫"),
    ("RO", "4"), ("RU", "R"), ("SA", "뽁"), ("SR", "0"), ("SH", "d"), ("SK", "Q"), ("SL", "5"),
    ("ES", "S"), ("1X", "늘"), ("SV", "V"), ("TA", "뾡"), ("TT", "뾴"), ("1Q", "늑"),
    ("2Q", "닱"), ("TH", "2"), ("TR", "T"), ("TC", "뾣"), ("Z8", ";"), ("UK", "8"), ("VI", "쁩")]

/-- `SAP_TO_ISO_LANGUAGE` has the key. -/
def isSapLanguage (language : JsString) : Bool :=
  isoToSapLanguage.any fun entry => JsString.literal entry.2 == language

/-- `/^[A-Za-z0-9]{2}(?:[-_][A-Za-z0-9]{2,8})*$/u` -/
def isIsoLanguage (language : JsString) : Bool :=
  match language.splitOnP fun unit => unit == 0x2d || unit == 0x5f with
  | [] => false
  | code :: subtags =>
    code.length == 2 && code.all isAlphanumeric &&
      subtags.all fun subtag =>
        2 ≤ subtag.length && subtag.length ≤ 8 && subtag.all isAlphanumeric

def languageIsoToSap (language : JsString) : Except String JsString := do
  require (language ≠ []) "language must be a non-empty string"
  require (isIsoLanguage language = true) s!"Language ISO code not found: {language.text}"
  let iso := (language.take 2).map upperUnit
  match isoToSapLanguage.find? fun entry => JsString.literal entry.1 == iso with
  | none => .error s!"Language ISO code not found: {language.text}"
  | some entry => .ok (JsString.literal entry.2)

def normalizeDirectConnectionLanguage (language : JsString) : Except String JsString :=
  if isSapLanguage language then .ok language else languageIsoToSap language

end Languages

inductive CpicStreaming
  | disabled
  | enabled
deriving DecidableEq, Repr

/-- Direct route and logon fields which do not select an authentication mode. -/
structure NormalizedDirectRouteConnection where
  host : JsString
  applicationServerHost : JsString
  port : Nat
  applicationServerService : JsString
  client : JsString
  language : JsString
  sysnr : JsString
  cpicStreaming : CpicStreaming
deriving DecidableEq

inductive DirectCredential
  | password (password : JsString)
  | ticket (ticket : JsString)
deriving DecidableEq

structure NormalizedDirectConnection extends NormalizedDirectRouteConnection where
  user : JsString
  credential : DirectCredential
deriving DecidableEq

structure NormalizedRfcLogon where
  client : JsString
  language : JsString
deriving DecidableEq

/-- The text of a value, or of a number. -/
def textValue (name : ConnectionParameterName) : ParameterValue → Except String JsString
  | .text [] => .error s!"{name.text} must be a non-empty string or number"
  | .text s => .ok s
  | .number n => .ok n.1
  | _ => .error s!"{name.text} must be a non-empty string or number"

def optionalTextValue (name : ConnectionParameterName) (value : ParameterValue) :
    Except String (Option JsString) :=
  if value = .undefined then .ok none else (textValue name value).map some

section Direct

/-- The own properties under the recognized names in lower and in upper case. -/
abbrev DirectSnapshot := ConnectionParameterName → Bool → ParameterValue

def snapshotDirectConnectionParameters :
    RfcConnectionParameters → Except String DirectSnapshot
  | .value => .error "RFC connection parameters must be an object"
  | .object o => do
    recognizedDirectParameterNames.forM fun name => [false, true].forM fun upper =>
      require (o.own (name.key upper) ≠ some .accessor)
        s!"RFC connection parameter {(name.key upper).text} must be an own data property"
    .ok fun name upper => o.value (name.key upper)

namespace DirectSnapshot
variable (input : DirectSnapshot)

def parameter (name : ConnectionParameterName) : Except String ParameterValue := do
  let lower := input name false
  let upper := input name true
  require (lower = .undefined ∨ upper = .undefined ∨ lower.strictlyEquals upper = true)
    s!"conflicting {(name.key false).text} and {(name.key true).text} values"
  .ok (lower.orElse upper)

/-- `textParameter(input, name, true)` -/
def requiredText (name : ConnectionParameterName) : Except String JsString := do
  textValue name (← input.parameter name)

/-- `textParameter(input, name, false)` -/
def optionalText (name : ConnectionParameterName) : Except String (Option JsString) := do
  optionalTextValue name (← input.parameter name)

end DirectSnapshot

variable (input : DirectSnapshot)

def systemNumber : Except String JsString := do
  let raw := (← input.optionalText .sysnr).getD (JsString.literal "00")
  require ((digitsOf? 1 2 raw).isSome = true) "sysnr must contain one or two decimal digits"
  .ok (padStart 2 raw)

def clientNumber : Except String JsString := do
  let raw ← input.requiredText .client
  require ((digitsOf? 1 3 raw).isSome = true) "client must contain one to three decimal digits"
  .ok (padStart 3 raw)

/-- The number of `/^sapgw(\d{2})$/u` -/
def gatewayServiceNumber? (raw : JsString) : Option Nat :=
  if raw.take 5 = JsString.literal "sapgw" then (digitsOf? 2 2 (raw.drop 5)).map Digits.number
  else none

/-- The port which a text denotes. What is too long for a safe integer is beyond the ports, too. -/
def portOf (raw : JsString) : Except String Nat := do
  match gatewayServiceNumber? raw, digitsOf? 1 raw.length raw with
  | none, none => .error "gwserv must be a TCP port or sapgwNN service name"
  | service, digits =>
    let numeric := (service.map (3300 + ·)).getD ((digits.map Digits.number).getD 0)
    require (1 ≤ numeric ∧ numeric ≤ 65535) "gateway TCP port must be an integer in 1..65535"
    .ok numeric

/-- The service or the port, the service first. -/
def gatewayText : Except String (Option JsString) := do
  match ← input.optionalText .gwserv with
  | some raw => .ok (some raw)
  | none => input.optionalText .port

def gatewayPort (sysnr : JsString) : Except String Nat := do
  match ← gatewayText input with
  | none => .ok (3300 + (readDigits sysnr).1.number)
  | some raw => portOf raw

def cpicStreamingPolicy : Except String CpicStreaming := do
  let value ← input.parameter .cpicStreaming
  if value = .undefined ∨ value = .text (JsString.literal "disabled") then .ok .disabled
  else if value = .text (JsString.literal "enabled") then .ok .enabled
  else .error "cpic_streaming must be disabled or enabled"

def rejectUnsupportedDirectParameters : Except String Unit :=
  [ConnectionParameterName.wshost, .saprouter, .sncMode].forM fun unsupported => do
    require ((← input.parameter unsupported) = .undefined)
      s!"{unsupported.text} connections are not implemented; use direct ashost/sysnr"

def checkApplicationServerHost (ashost : JsString) : Except String Unit :=
  require (IsPrintable 64 ashost)
    "ashost must contain 1..64 ASCII bytes for the CPIC application-server name"

def normalizeRfcLogonParameterSnapshot : Except String NormalizedRfcLogon := do
  let language := (← input.optionalText .lang).getD (JsString.literal "E")
  let client ← clientNumber input
  let language ← normalizeDirectConnectionLanguage language
  .ok ⟨client, language⟩

def normalizeDirectRouteConnectionParameterSnapshot :
    Except String NormalizedDirectRouteConnection := do
  rejectUnsupportedDirectParameters input
  let ashost ← input.requiredText .ashost
  checkApplicationServerHost ashost
  let gwhost ← input.optionalText .gwhost
  let sysnr ← systemNumber input
  let logon ← normalizeRfcLogonParameterSnapshot input
  let port ← gatewayPort input sysnr
  let cpicStreaming ← cpicStreamingPolicy input
  .ok {
    host := gwhost.getD ashost
    applicationServerHost := ashost
    port := port
    applicationServerService := JsString.literal "sapdp" ++ sysnr
    client := logon.client
    language := logon.language
    sysnr := sysnr
    cpicStreaming := cpicStreaming }

/-- A password or a ticket, and not both. -/
def directCredential (password ticket : Option JsString) : Except String DirectCredential :=
  match password, ticket with
  | some password, none => .ok (.password password)
  | none, some ticket => .ok (.ticket ticket)
  | _, _ => .error "exactly one of passwd or mysapsso2 must be supplied"

def directTicket : Except String (Option JsString) := do
  let rawTicket ← input.parameter .mysapsso2
  if rawTicket = .undefined then .ok none else (normalizeRfcLogonTicket rawTicket).map some

/-- The order of the checks is kept, although another path makes the same ones. -/
def normalizeDirectConnectionParameterSnapshot : Except String NormalizedDirectConnection := do
  rejectUnsupportedDirectParameters input
  let ashost ← input.requiredText .ashost
  checkApplicationServerHost ashost
  let gwhost ← input.optionalText .gwhost
  let sysnr ← systemNumber input
  let language := (← input.optionalText .lang).getD (JsString.literal "E")
  let port ← gatewayPort input sysnr
  let client ← clientNumber input
  let user ← input.requiredText .user
  let password ← input.optionalText .passwd
  let ticket ← directTicket input
  let credential ← directCredential password ticket
  let language ← normalizeDirectConnectionLanguage language
  let cpicStreaming ← cpicStreamingPolicy input
  .ok {
    host := gwhost.getD ashost
    applicationServerHost := ashost
    port := port
    applicationServerService := JsString.literal "sapdp" ++ sysnr
    client := client
    user := user
    credential := credential
    language := language
    sysnr := sysnr
    cpicStreaming := cpicStreaming }

end Direct

def normalizeDirectConnectionParameters (input : RfcConnectionParameters) :
    Except String NormalizedDirectConnection := do
  normalizeDirectConnectionParameterSnapshot (← snapshotDirectConnectionParameters input)

def normalizeDirectRouteConnectionParameters (input : RfcConnectionParameters) :
    Except String NormalizedDirectRouteConnection := do
  normalizeDirectRouteConnectionParameterSnapshot (← snapshotDirectConnectionParameters input)

def normalizeRfcLogonParameters (input : RfcConnectionParameters) :
    Except String NormalizedRfcLogon := do
  normalizeRfcLogonParameterSnapshot (← snapshotDirectConnectionParameters input)

end OpenRfc.Connection
