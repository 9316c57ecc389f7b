import OpenRfc.SapRouter.Request

/-!
The integrity of routes: what is admitted is what the grammar says, what is sent is what was
admitted, and what is shown does not depend on the passwords.
-/

namespace OpenRfc.SapRouter
open Delimited Bytes

section Views

/-- A hop with its password replaced by the length of it. -/
def InternalSapRouterHop.masked (hop : InternalSapRouterHop) :
    RouteField .host × Option (RouteField .service) × Option Nat :=
  (hop.host, hop.service, hop.password.map fun password => password.1.length)

theorem map_eq_of_masked {β : Type} {f : InternalSapRouterHop → β}
    (hf : Function.FactorsThrough f InternalSapRouterHop.masked)
    {hops hops' : List InternalSapRouterHop}
    (h : hops.map InternalSapRouterHop.masked = hops'.map InternalSapRouterHop.masked) :
    hops.map f = hops'.map f := by
  induction hops generalizing hops' with
  | nil =>
      cases hops' with
      | nil => rfl
      | cons hop' hops' => cases h
  | cons hop hops ih =>
      cases hops' with
      | nil => cases h
      | cons hop' hops' =>
          rw [List.map_cons, List.map_cons, List.cons.injEq] at h
          rw [List.map_cons, List.map_cons, hf h.1, ih h.2]

theorem isSome_eq_of_masked {hop hop' : InternalSapRouterHop} (h : hop.masked = hop'.masked) :
    hop.password.isSome = hop'.password.isSome := by
  have hp := congrArg (fun m => m.2.2.isSome) h
  simpa [InternalSapRouterHop.masked] using hp

theorem length_eq_of_masked {hop hop' : InternalSapRouterHop} (h : hop.masked = hop'.masked) :
    (optionalText hop.password).length = (optionalText hop'.password).length := by
  have hp := congrArg (fun m => m.2.2.getD 0) h
  obtain ⟨_, _, password⟩ := hop
  obtain ⟨_, _, password'⟩ := hop'
  cases password with
  | none =>
      cases password' with
      | none => rfl
      | some password' => exact hp
  | some password =>
      cases password' with
      | none => exact hp
      | some password' => exact hp

theorem internalHopByteLength_masked :
    Function.FactorsThrough internalHopByteLength InternalSapRouterHop.masked := by
  intro hop hop' h
  have hh : hop.host = hop'.host := congrArg Prod.fst h
  have hs : hop.service = hop'.service := congrArg (fun m => m.2.1) h
  unfold internalHopByteLength
  rw [hh, hs, length_eq_of_masked h]

theorem redactedHop_masked :
    Function.FactorsThrough redactedHop InternalSapRouterHop.masked := by
  intro hop hop' h
  have hh : hop.host = hop'.host := congrArg Prod.fst h
  have hs : hop.service = hop'.service := congrArg (fun m => m.2.1) h
  have hp := isSome_eq_of_masked h
  unfold redactedHop
  rw [hh, hs]
  cases hw : hop.password <;> cases hw' : hop'.password <;> simp_all

def InternalSapRouterHop.shown (hop : InternalSapRouterHop) : SapRouterRouteHop where
  host := hop.host.1
  service := hop.service.elim SAPROUTER_DEFAULT_SERVICE fun service => service.1
  usesDefaultService := hop.service.isNone
  passwordProtected := hop.password.isSome

theorem shown_masked :
    Function.FactorsThrough InternalSapRouterHop.shown InternalSapRouterHop.masked := by
  intro hop hop' h
  have hh : hop.host = hop'.host := congrArg Prod.fst h
  have hs : hop.service = hop'.service := congrArg (fun m => m.2.1) h
  unfold InternalSapRouterHop.shown
  rw [hh, hs, isSome_eq_of_masked h]

/-- What is shown of a route is determined by the hops with their passwords masked. -/
theorem safeRouteView_admitted {route route' : InternalSapRouterRoute}
    (h : route.hops.map InternalSapRouterHop.masked =
      route'.hops.map InternalSapRouterHop.masked) :
    safeRouteView (admitted route) = safeRouteView (admitted route') := by
  have hlen : route.hops.length = route'.hops.length := by
    simpa using congrArg List.length h
  have hbytes : route.byteLength = route'.byteLength := by
    rw [route.byteLength_eq, route'.byteLength_eq, routeByteLength, routeByteLength,
      map_eq_of_masked internalHopByteLength_masked h]
  have hshown : route.hops.map InternalSapRouterHop.shown =
      route'.hops.map InternalSapRouterHop.shown :=
    map_eq_of_masked shown_masked h
  have hredacted : redactedRoute route.hops = redactedRoute route'.hops := by
    rw [redactedRoute, redactedRoute, List.flatMap_def, List.flatMap_def,
      map_eq_of_masked redactedHop_masked h]
  have hfirst : (admitted route).firstHop = (admitted route').firstHop := by
    obtain ⟨hops, _, h2, _, _, _, _⟩ := route
    obtain ⟨hops', _, h2', _, _, _, _⟩ := route'
    cases hops with
    | nil => exact absurd h2 (by decide)
    | cons hop hops =>
        cases hops' with
        | nil => exact absurd h2' (by decide)
        | cons hop' hops' =>
            have hh := (List.cons.inj hshown).1
            simp only [InternalSapRouterHop.shown, SapRouterRouteHop.mk.injEq] at hh
            simp only [admitted, List.head_cons, SapRouterFirstHop.mk.injEq]
            exact ⟨hh.1, hh.2.1, hh.2.2.1⟩
  exact SafeRouteView.ext hlen hbytes hfirst hshown hredacted

end Views

/-- The integrity of the routes of the transport. -/
structure RouteIntegrity : Prop where
  /-- Exactly the strings of the grammar are admitted, with the hops they stand for. -/
  admits : ∀ text hops,
    (∃ route, admitSapRouterRoute (.string text) = .ok route ∧ route.internal.hops = hops) ↔
      RouteString text hops
  only_strings : ∀ input route, admitSapRouterRoute input = .ok route →
    ∃ text, input = .string text
  /-- The request of a route says what the hops of the route are. -/
  encodes : ∀ route niVersion payload,
    encodeSapRouterRouteRequestPayload route niVersion = .ok payload →
      readRouteRequest payload = routeRequest route.internal.hops ∧
      payload.length = SAPROUTER_ROUTE_HEADER_LENGTH + routeByteLength route.internal.hops
  /-- Every route can be encoded, with every version. -/
  encodable : ∀ route (n : Nat), 1 ≤ n → n ≤ 255 →
    ∃ payload, encodeSapRouterRouteRequestPayload route (some (.safeInteger n)) = .ok payload
  /-- No payload belongs to two lists of hops. -/
  injective : ∀ route route' niVersion niVersion' payload,
    encodeSapRouterRouteRequestPayload route niVersion = .ok payload →
    encodeSapRouterRouteRequestPayload route' niVersion' = .ok payload →
      route.internal.hops = route'.internal.hops
  /-- The hops of a completed route are those of the prefix and the endpoint. -/
  completes : ∀ pre gatewayHost gatewayPort route,
    completeSapRouterRoute pre gatewayHost gatewayPort = .ok route →
      ∃ hops, Completed pre gatewayHost gatewayPort hops route ∧
        ∀ hops', pre = .string (prefixString hops') → hops' = hops
  /-- Routes which differ in the characters of passwords only are shown alike. -/
  shows : ∀ input input' route route', admitSapRouterRoute input = .ok route →
    admitSapRouterRoute input' = .ok route' →
    route.internal.hops.map InternalSapRouterHop.masked =
      route'.internal.hops.map InternalSapRouterHop.masked →
    safeRouteView route = safeRouteView route'

theorem admitSapRouterRoute_string {input : Value} {route : AdmittedSapRouterRoute}
    (h : admitSapRouterRoute input = .ok route) : ∃ text, input = .string text := by
  cases input with
  | string text => exact ⟨text, rfl⟩
  | safeInteger n => exact absurd h ne_invalidRoute
  | other => exact absurd h ne_invalidRoute

theorem encodeSapRouterRouteRequestPayload_ok {route : AdmittedSapRouterRoute}
    {niVersion : Option Value} {payload : Bytes}
    (h : encodeSapRouterRouteRequestPayload route niVersion = .ok payload) :
    readRouteRequest payload = routeRequest route.internal.hops ∧
    payload.length = SAPROUTER_ROUTE_HEADER_LENGTH + routeByteLength route.internal.hops := by
  rw [encodeSapRouterRouteRequestPayload_eq] at h
  cases hv : normalizedNiVersion (niVersion.getD (.safeInteger SAPROUTER_DEFAULT_NI_VERSION)) with
  | error e =>
      rw [hv] at h
      cases h
  | ok n =>
      rw [hv] at h
      cases h
      refine ⟨readRouteRequest_payload route.internal n, ?_⟩
      rw [List.length_append, length_routeHeader, length_routeFields]

theorem saprouter_route_integrity : RouteIntegrity where
  admits _ _ := admitSapRouterRoute_iff
  only_strings _ _ := admitSapRouterRoute_string
  encodes _ _ _ := encodeSapRouterRouteRequestPayload_ok
  encodable route n h1 hn := by
    rw [encodeSapRouterRouteRequestPayload_eq]
    have hv : normalizedNiVersion (.safeInteger n) = .ok n := by
      simp only [normalizedNiVersion]
      rw [if_neg (by omega), Int.toNat_natCast]
    rw [Option.getD_some, hv]
    exact ⟨_, rfl⟩
  injective route route' _ _ payload h h' := by
    apply routeRequest_injective
    rw [← (encodeSapRouterRouteRequestPayload_ok h).1,
      ← (encodeSapRouterRouteRequestPayload_ok h').1]
  completes _ _ _ _ h := by
    obtain ⟨hops, hc⟩ := completeSapRouterRoute_ok h
    exact ⟨hops, hc, fun _ => hc.hops_unique⟩
  shows input input' route route' h h' hm := by
    obtain ⟨text, rfl⟩ := admitSapRouterRoute_string h
    obtain ⟨text', rfl⟩ := admitSapRouterRoute_string h'
    rw [(admitSapRouterRoute_ok h).2, (admitSapRouterRoute_ok h').2]
    exact safeRouteView_admitted hm

end OpenRfc.SapRouter
