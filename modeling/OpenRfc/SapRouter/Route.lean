import OpenRfc.Foundation.Streams

/-!
SAProuter route strings. A route is admitted once, at the network boundary; what is admitted
carries the hops with their passwords in an opaque part and a public part without them.
-/

namespace OpenRfc.SapRouter

abbrev Text := List Char

/-- A value of unknown type. -/
inductive Value
  | string (text : Text)
  | safeInteger (n : Int)
  | other
deriving DecidableEq, Repr

inductive Thrown
  | rangeError (message : String)
  | error (message : String)
deriving DecidableEq, Repr

def SAPROUTER_DEFAULT_SERVICE : Text := ['3', '2', '9', '9']
def SAPROUTER_MAX_ROUTE_BYTES : Nat := 2048
def SAPROUTER_MAX_ROUTE_HOPS : Nat := 255
def REDACTED : Text := "[REDACTED]".toList
def ROUTE_PREFIX_SENTINEL_HOST : Text := "open-rfc-target.invalid".toList
def ROUTE_PREFIX_SENTINEL_PORT : Nat := 65535

def invalidRoute {α : Type} : Except Thrown α :=
  .error (.rangeError "SAProuter route string is invalid")

def isPrintable (c : Char) : Bool := 0x20 ≤ c.toNat && c.toNat ≤ 0x7e

inductive FieldKind
  | host
  | service
  | password
deriving DecidableEq, Repr

def FieldKind.shortest : FieldKind → Nat
  | .host => 2
  | .service => 1
  | .password => 1

def FieldKind.longest : FieldKind → Nat
  | .host => 255
  | .service => 63
  | .password => 255

/-- The characters of a field. A password holds every printable character except the
delimiter of the route. -/
def FieldKind.admits : FieldKind → Char → Bool
  | .host, c => c.isAlphanum || c ∈ ['_', '.', ':', '%', '[', ']', '-']
  | .service, c => c.isAlphanum || c ∈ ['_', '.', '-']
  | .password, c => isPrintable c && c != '/'

def FieldKind.Admits (kind : FieldKind) (value : Text) : Prop :=
  kind.shortest ≤ value.length ∧ value.length ≤ kind.longest ∧ ∀ c ∈ value, kind.admits c

instance (kind : FieldKind) (value : Text) : Decidable (kind.Admits value) :=
  inferInstanceAs (Decidable (_ ∧ _ ∧ _))

/-- The text of a field which passed its check. -/
def RouteField (kind : FieldKind) : Type := { value : Text // kind.Admits value }

instance (kind : FieldKind) : DecidableEq (RouteField kind) :=
  inferInstanceAs (DecidableEq { value : Text // kind.Admits value })

def routeField (value : Option Text) (kind : FieldKind) : Except Thrown (RouteField kind) :=
  match value with
  | none => invalidRoute
  | some value => if h : kind.Admits value then .ok ⟨value, h⟩ else invalidRoute

structure InternalSapRouterHop where
  host : RouteField .host
  service : Option (RouteField .service)
  password : Option (RouteField .password)
deriving DecidableEq

def optionalText {kind : FieldKind} (field : Option (RouteField kind)) : Text :=
  field.elim [] fun field => field.1

def internalHopByteLength (hop : InternalSapRouterHop) : Nat :=
  hop.host.1.length + 1 + ((optionalText hop.service).length + 1) +
    ((optionalText hop.password).length + 1)

def routeByteLength (hops : List InternalSapRouterHop) : Nat :=
  (hops.map internalHopByteLength).sum

structure InternalSapRouterRoute where
  hops : List InternalSapRouterHop
  byteLength : Nat
  two_le : 2 ≤ hops.length
  length_le : hops.length ≤ SAPROUTER_MAX_ROUTE_HOPS
  last_open : ∀ hop ∈ hops.getLast?, hop.password = none
  byteLength_eq : byteLength = routeByteLength hops
  byteLength_le : byteLength ≤ SAPROUTER_MAX_ROUTE_BYTES

structure SapRouterRouteHop where
  host : Text
  service : Text
  usesDefaultService : Bool
  passwordProtected : Bool
deriving DecidableEq, Repr

structure SapRouterFirstHop where
  host : Text
  service : Text
  usesDefaultService : Bool
deriving DecidableEq, Repr

/-- What inspection and serialization of an admitted route show. -/
@[ext]
structure SafeRouteView where
  hopCount : Nat
  byteLength : Nat
  firstHop : SapRouterFirstHop
  hops : List SapRouterRouteHop
  redactedRouteString : Text
deriving DecidableEq, Repr

/-- An admitted route with its entry of the side table. -/
structure AdmittedSapRouterRoute extends SafeRouteView where
  internal : InternalSapRouterRoute

def safeRouteView (route : AdmittedSapRouterRoute) : SafeRouteView := route.toSafeRouteView

def redactedHop (hop : InternalSapRouterHop) : Text :=
  "/H/".toList ++ hop.host.1 ++
    (hop.service.elim [] fun service => "/S/".toList ++ service.1) ++
    (hop.password.elim [] fun _ => "/W/".toList ++ REDACTED)

def redactedRoute (hops : List InternalSapRouterHop) : Text := hops.flatMap redactedHop

/-- The attributes of a hop which have been read. -/
structure HopAttributes where
  service : Option (RouteField .service)
  password : Option (RouteField .password)
  passwordSeen : Bool

/-- One turn of the inner loop, for a token which is not `H`. -/
def routeAttribute (token : Text) (rawValue : Option Text) (read : HopAttributes) :
    Except Thrown HopAttributes :=
  if token = ['S'] then
    if read.service ≠ none ∨ read.passwordSeen then invalidRoute
    else do
      let service ← routeField rawValue .service
      return { read with service := some service }
  else if token = ['W'] then
    if read.passwordSeen then invalidRoute
    else do
      let password ← routeField rawValue .password
      return { read with password := some password, passwordSeen := true }
  else invalidRoute

/-- The inner loop: the attributes of a hop and the parts behind them. -/
def routeAttributes : List Text → HopAttributes → Except Thrown (HopAttributes × List Text)
  | [], read => .ok (read, [])
  | [token], read =>
    if token = ['H'] then .ok (read, [token])
    else do
      let read ← routeAttribute token none read
      return (read, [])
  | token :: rawValue :: rest, read =>
    if token = ['H'] then .ok (read, token :: rawValue :: rest)
    else do
      let read ← routeAttribute token (some rawValue) read
      routeAttributes rest read

/-- The outer loop. Every turn reads a part, so that the number of parts bounds the turns. -/
def routeHops : Nat → List Text → List InternalSapRouterHop →
    Except Thrown (List InternalSapRouterHop)
  | _, [], hops => .ok hops
  | 0, _ :: _, _ => invalidRoute
  | turns + 1, part :: rest, hops =>
    if part ≠ ['H'] then invalidRoute
    else do
      let host ← routeField rest.head? .host
      let (read, rest) ← routeAttributes rest.tail ⟨none, none, false⟩
      let hops := hops ++ [⟨host, read.service, read.password⟩]
      if hops.length > SAPROUTER_MAX_ROUTE_HOPS then invalidRoute
      else routeHops turns rest hops

theorem ne_invalidRoute {α : Type} {a : α} : (invalidRoute : Except Thrown α) ≠ .ok a :=
  nofun

/-- What a turn of the outer loop does. -/
theorem routeHops_cons {turns : Nat} {part : Text} {rest : List Text}
    {hops hops' : List InternalSapRouterHop}
    (h : routeHops turns (part :: rest) hops = .ok hops') :
    ∃ turns' host read rest', turns = turns' + 1 ∧ part = ['H'] ∧
      routeField rest.head? .host = .ok host ∧
      routeAttributes rest.tail ⟨none, none, false⟩ = .ok (read, rest') ∧
      hops.length + 1 ≤ SAPROUTER_MAX_ROUTE_HOPS ∧
      routeHops turns' rest' (hops ++ [⟨host, read.service, read.password⟩]) = .ok hops' := by
  cases turns with
  | zero => exact absurd h ne_invalidRoute
  | succ turns =>
      simp only [routeHops] at h
      split at h
      · exact absurd h ne_invalidRoute
      · rename_i hp
        obtain ⟨host, hhost, h⟩ := Fallible.bind_eq_ok.mp h
        obtain ⟨⟨read, rest'⟩, hread, h⟩ := Fallible.bind_eq_ok.mp h
        simp only [List.length_append, List.length_singleton] at h
        split at h
        · exact absurd h ne_invalidRoute
        · exact ⟨turns, host, read, rest', rfl, not_not.mp hp, hhost, hread, by omega, h⟩

theorem routeHops_length_le {turns : Nat} {parts : List Text}
    {hops hops' : List InternalSapRouterHop} (h : routeHops turns parts hops = .ok hops')
    (hl : hops.length ≤ SAPROUTER_MAX_ROUTE_HOPS) :
    hops'.length ≤ SAPROUTER_MAX_ROUTE_HOPS := by
  induction turns generalizing parts hops with
  | zero =>
      cases parts with
      | nil => cases h; exact hl
      | cons part rest => exact absurd h ne_invalidRoute
  | succ turns ih =>
      cases parts with
      | nil => cases h; exact hl
      | cons part rest =>
          obtain ⟨turns', host, read, rest', ht, -, -, -, hm, h⟩ := routeHops_cons h
          cases ht
          apply ih h
          simpa using hm

/-- The public part and the side table of a route. -/
def admitted (internal : InternalSapRouterRoute) : AdmittedSapRouterRoute :=
  let first := internal.hops.head (List.ne_nil_of_length_pos (by have := internal.two_le; omega))
  { hopCount := internal.hops.length
    byteLength := internal.byteLength
    firstHop := {
      host := first.host.1
      service := first.service.elim SAPROUTER_DEFAULT_SERVICE fun service => service.1
      usesDefaultService := first.service.isNone }
    hops := internal.hops.map fun hop => {
      host := hop.host.1
      service := hop.service.elim SAPROUTER_DEFAULT_SERVICE fun service => service.1
      usesDefaultService := hop.service.isNone
      passwordProtected := hop.password.isSome }
    redactedRouteString := redactedRoute internal.hops
    internal := internal }

/-- The checks which follow the loops. -/
def admitHops (hops : List InternalSapRouterHop) (hm : hops.length ≤ SAPROUTER_MAX_ROUTE_HOPS) :
    Except Thrown AdmittedSapRouterRoute :=
  if h : 2 ≤ hops.length ∧ ∀ hop ∈ hops.getLast?, hop.password = none then
    if hb : routeByteLength hops ≤ SAPROUTER_MAX_ROUTE_BYTES then
      .ok (admitted {
        hops
        byteLength := routeByteLength hops
        two_le := h.1
        length_le := hm
        last_open := h.2
        byteLength_eq := rfl
        byteLength_le := hb })
    else invalidRoute
  else invalidRoute

def admitSapRouterRoute (input : Value) : Except Thrown AdmittedSapRouterRoute :=
  match input with
  | .string text =>
    if text.length > SAPROUTER_MAX_ROUTE_BYTES ∨ text = [] ∨ ¬ text.all isPrintable then
      invalidRoute
    else
      let parts := text.splitOn '/'
      if parts.head? ≠ some [] ∨ parts.length < 5 then invalidRoute
      else
        match h : routeHops parts.length parts.tail [] with
        | .error e => .error e
        | .ok hops => admitHops hops (routeHops_length_le h (Nat.zero_le _))
  | _ => invalidRoute

def assertSapRouterRoutePrefix (input : Value) : Except Thrown Text :=
  match input with
  | .string text =>
    if ¬ "/H/".toList <:+ text ∨ text.length > SAPROUTER_MAX_ROUTE_BYTES ∨
        text = [] ∨ ¬ text.all isPrintable then invalidRoute
    else do
      -- Reuse the parser of complete routes with a fixed harmless endpoint.
      let _ ← admitSapRouterRoute (.string (text ++ ROUTE_PREFIX_SENTINEL_HOST ++
        "/S/".toList ++ Nat.toDigits 10 ROUTE_PREFIX_SENTINEL_PORT))
      return text
  | _ => invalidRoute

def completeSapRouterRoute (pre gatewayHost gatewayPort : Value) :
    Except Thrown AdmittedSapRouterRoute := do
  let pre ← assertSapRouterRoutePrefix pre
  let host ← routeField (match gatewayHost with | .string host => some host | _ => none) .host
  match gatewayPort with
  | .safeInteger port =>
    if port < 1 ∨ port > 0xffff then invalidRoute
    else admitSapRouterRoute (.string
      (pre ++ host.1 ++ "/S/".toList ++ Nat.toDigits 10 port.toNat))
  | _ => invalidRoute

end OpenRfc.SapRouter
