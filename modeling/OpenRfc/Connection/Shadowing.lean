import OpenRfc.Connection.Dependence

/-!
The influence of a parameter on the plan of a session. A parameter of an accepted object either has
another value with which the plan is another one, or it is shadowed by one which takes precedence.
-/

namespace OpenRfc.Connection
open Fallible ConnectionParameterName

/-- A parameter whose place is taken: by the host of a route which is selected first, by the service
of a gateway, or by the other name of a system. -/
def Shadowed (input : ConnectionParameterSnapshot) : ConnectionParameterName → Prop
  | .mshost => input.hasValue ashost
  | .msserv | .r3name | .group => input.hasValue ashost ∧ input.hasValue mshost
  | .sysid => input.hasValue mshost ∧ (input.hasValue ashost ∨ input.hasValue r3name)
  | .wshost => input.hasValue ashost ∨ input.hasValue mshost
  | .wsport => input.hasValue wshost ∧ (input.hasValue ashost ∨ input.hasValue mshost)
  | .port => input.hasValue ashost ∧ (input gwserv).orElse .undefined ≠ .undefined
  | _ => False

section Orphans
variable {input : ConnectionParameterSnapshot} {name : ConnectionParameterName}
  {value : ParameterValue}

/-- The host with which a parameter belongs to a route. -/
def routeHost : ConnectionParameterName → Option ConnectionParameterName
  | .gwhost | .gwserv | .port | .sysnr | .cpicStreaming => some ashost
  | .msserv | .r3name | .sysid | .group => some mshost
  | .wsport => some wshost
  | _ => none

theorem rejectOrphaned_eq_ok {host : ConnectionParameterName} {names : List ConnectionParameterName} :
    rejectOrphaned input host names = .ok () ↔
      ∀ name ∈ names, input.hasValue name → input.hasValue host := by
  rw [rejectOrphaned, forM_eq_ok]
  refine forall₂_congr fun name _ => ?_
  rw [require_eq_ok, or_comm, ← imp_iff_not_or]

theorem rejectOrphanedRouteParameters_eq_ok :
    rejectOrphanedRouteParameters input = .ok () ↔
      ∀ name, ∀ host ∈ routeHost name, input.hasValue name → input.hasValue host := by
  have hall : rejectOrphanedRouteParameters input = .ok () ↔
      rejectOrphaned input ashost [gwhost, gwserv, port, sysnr, cpicStreaming] = .ok () ∧
      rejectOrphaned input mshost [msserv, r3name, sysid, ConnectionParameterName.group] = .ok () ∧
      rejectOrphaned input wshost [wsport] = .ok () := by
    simp only [rejectOrphanedRouteParameters, bind_eq_ok]
    constructor
    · rintro ⟨⟨⟩, hdirect, ⟨⟩, hmessage, hsocket⟩
      exact ⟨hdirect, hmessage, hsocket⟩
    · rintro ⟨hdirect, hmessage, hsocket⟩
      exact ⟨(), hdirect, (), hmessage, hsocket⟩
  rw [hall, rejectOrphaned_eq_ok, rejectOrphaned_eq_ok, rejectOrphaned_eq_ok]
  constructor
  · rintro ⟨hdirect, hmessage, hsocket⟩ name host hhost
    cases name with
    | gwhost | gwserv | port | sysnr | cpicStreaming =>
        cases hhost
        exact hdirect _ (by decide)
    | msserv | r3name | sysid | group =>
        cases hhost
        exact hmessage _ (by decide)
    | wsport =>
        cases hhost
        exact hsocket _ (by decide)
    | _ => cases hhost
  · intro h
    refine ⟨fun name hname => h name ashost ?_, fun name hname => h name mshost ?_,
      fun name hname => h name wshost ?_⟩
    · revert name
      decide
    · revert name
      decide
    · revert name
      decide

theorem hasValue_update (hvalue : value ≠ .undefined) {other : ConnectionParameterName}
    (h : input.hasValue other) :
    ConnectionParameterSnapshot.hasValue (Function.update input name value) other := by
  rw [ConnectionParameterSnapshot.hasValue, Function.update_apply]
  split
  · exact hvalue
  · exact h

/-- A parameter whose host is there is not orphaned by another value. -/
theorem rejectOrphaned_update (h : rejectOrphanedRouteParameters input = .ok ())
    (hvalue : value ≠ .undefined) (hhost : ∀ host ∈ routeHost name, input.hasValue host) :
    rejectOrphanedRouteParameters (Function.update input name value) = .ok () := by
  rw [rejectOrphanedRouteParameters_eq_ok] at h ⊢
  intro other host hother hgiven
  by_cases hsame : other = name
  · exact hasValue_update hvalue (hhost host (hsame ▸ hother))
  · rw [ConnectionParameterSnapshot.hasValue, Function.update_of_ne hsame] at hgiven
    exact hasValue_update hvalue (h other host hother hgiven)

end Orphans

section Shadows
variable {input : ConnectionParameterSnapshot} {name : ConnectionParameterName}
  {value : ParameterValue} {plan : ConnectionRoutePlan}

theorem planRoute_of_direct (horphaned : rejectOrphanedRouteParameters input = .ok ())
    (h : input.hasValue ashost) : planRoute input = planDirectRoute input := by
  rw [planRoute, horphaned, ok_bind, selectRoute, if_pos h, ok_bind]

theorem planRoute_of_messageServer (horphaned : rejectOrphanedRouteParameters input = .ok ())
    (hdirect : ¬input.hasValue ashost) (h : input.hasValue mshost) :
    planRoute input = planMessageServerRoute input := by
  rw [planRoute, horphaned, ok_bind, selectRoute, if_neg hdirect, if_pos h, ok_bind]

theorem shadowed_mem (h : Shadowed input name) :
    name ∈ [mshost, msserv, r3name, sysid, ConnectionParameterName.group, wshost, wsport, port] := by
  cases name with
  | mshost | msserv | r3name | sysid | group | wshost | wsport | port => decide
  | _ => cases h

/-- A shadowed parameter of a route has the host of its route. -/
theorem routeHost_of_shadowed (h : Shadowed input name) :
    ∀ host ∈ routeHost name, input.hasValue host := by
  intro host hhost
  cases name with
  | msserv | r3name | group =>
      cases hhost
      exact h.2
  | sysid | wsport | port =>
      cases hhost
      exact h.1
  | gwhost | gwserv | sysnr | cpicStreaming => cases h
  | _ => cases hhost

/-- Without the host of an application server, the host of a message server is what shadows. -/
theorem shadowed_messageServer (h : Shadowed input name) (hdirect : ¬input.hasValue ashost) :
    input.hasValue mshost ∧ (name = sysid ∧ input.hasValue r3name ∨ name = wshost ∨ name = wsport) := by
  cases name with
  | mshost => exact absurd h hdirect
  | msserv | r3name | group | port => exact absurd h.1 hdirect
  | sysid => exact ⟨h.1, .inl ⟨rfl, h.2.resolve_left hdirect⟩⟩
  | wshost => exact ⟨h.resolve_left hdirect, .inr (.inl rfl)⟩
  | wsport => exact ⟨h.2.resolve_left hdirect, .inr (.inr rfl)⟩
  | _ => cases h

/-- A shadowed parameter is not among those which the selected route reads. -/
theorem planRoute_shadowed (horphaned : rejectOrphanedRouteParameters input = .ok ())
    (h : Shadowed input name) (hvalue : value ≠ .undefined) :
    planRoute (Function.update input name value) = planRoute input := by
  have hagree {names : List ConnectionParameterName} (hnames : name ∉ names) :
      ∀ other ∈ names, Function.update input name value other = input other :=
    fun other hother => Function.update_of_ne (ne_of_mem_of_not_mem hother hnames) ..
  have horphaned' := rejectOrphaned_update horphaned hvalue (routeHost_of_shadowed h)
  by_cases hdirect : input.hasValue ashost
  · rw [planRoute_of_direct horphaned hdirect,
      planRoute_of_direct horphaned' (hasValue_update hvalue hdirect)]
    have hunread : ∀ name ∈ [mshost, msserv, r3name, sysid, ConnectionParameterName.group, wshost,
        wsport, port], name ∉ [ashost, gwhost, gwserv, sysnr, client, lang, cpicStreaming] := by
      decide
    refine planDirectRoute_congr (hagree (hunread name (shadowed_mem h))) ?_
    by_cases hport : name = port
    · subst hport
      exact .inr h.2
    · exact .inl (Function.update_of_ne (Ne.symm hport) ..)
  · obtain ⟨hmshost, hname⟩ := shadowed_messageServer h hdirect
    have hother : name ≠ ashost := by
      rintro rfl
      cases h
    have hdirect' : ¬ConnectionParameterSnapshot.hasValue (Function.update input name value) ashost := by
      rw [ConnectionParameterSnapshot.hasValue, Function.update_of_ne hother.symm]
      exact hdirect
    rw [planRoute_of_messageServer horphaned hdirect hmshost,
      planRoute_of_messageServer horphaned' hdirect' (hasValue_update hvalue hmshost)]
    rcases hname with ⟨rfl, hr3name⟩ | rfl | rfl
    · refine planMessageServerRoute_congr (hagree (by decide)) (.inr ?_)
      exact hasValue_update hvalue hr3name
    · exact planMessageServerRoute_congr (hagree (by decide))
        (.inl (Function.update_of_ne (by decide) ..))
    · exact planMessageServerRoute_congr (hagree (by decide))
        (.inl (Function.update_of_ne (by decide) ..))

/-- Another value of a shadowed parameter leaves the plan as it is. -/
theorem planSnapshot_shadowed (h : planSnapshot input = .ok plan) (hname : Shadowed input name)
    (hvalue : value ≠ .undefined) :
    planSnapshot (Function.update input name value) = .ok plan := by
  obtain ⟨route, capability, hroute, -⟩ := planSnapshot_eq_ok h
  have hagree {names : List ConnectionParameterName}
      (hnames : ∀ name ∈ [mshost, msserv, r3name, sysid, ConnectionParameterName.group, wshost,
        wsport, port], name ∉ names) :
      ∀ other ∈ names, Function.update input name value other = input other :=
    fun other hother =>
      Function.update_of_ne (ne_of_mem_of_not_mem hother (hnames name (shadowed_mem hname))) ..
  rw [← h]
  exact planSnapshot_congr (planRoute_shadowed (planRoute_eq_ok hroute).1 hname hvalue)
    (planAuthentication_congr (hagree (by decide)))
    (planConnectivityProxy_congr (hagree (by decide)))
    (planConnectivitySocks5_congr (hagree (by decide)))
    (sapRouterRouteString_congr (hagree (by decide : ∀ name ∈ [mshost, msserv, r3name, sysid,
      ConnectionParameterName.group, wshost, wsport, port], name ∉ [saprouter]) _
        (List.mem_singleton_self _)))

end Shadows

/-- A control character, which no check admits. -/
def refusedText : JsString := [1]

section Refusals
variable {input : ConnectionParameterSnapshot} {name : ConnectionParameterName}
  {direct : DirectSnapshot} {route : PlannedRoute}

theorem textValue_refused (name : ConnectionParameterName) :
    textValue name (.text refusedText) = .ok refusedText := rfl

theorem optionalTextValue_refused (name : ConnectionParameterName) :
    optionalTextValue name (.text refusedText) = .ok (some refusedText) := rfl

theorem not_isPrintable_refusedText (maximum : Nat) : ¬IsPrintable maximum refusedText :=
  fun h => absurd h.2.2 (by decide)

theorem requiredAsciiText_refused {maximum : Nat} {s : JsString}
    (h : input.requiredAsciiText name maximum = .ok s) : input name ≠ .text refusedText := by
  intro hvalue
  rw [ConnectionParameterSnapshot.requiredAsciiText, ConnectionParameterSnapshot.requiredText, hvalue,
    textValue_refused, ok_bind, ConnectionParameterSnapshot.asciiText, require,
    if_neg (not_isPrintable_refusedText maximum)] at h
  cases h

theorem optionalAsciiText_refused {maximum : Nat} {s : Option JsString}
    (h : input.optionalAsciiText name maximum = .ok s) : input name ≠ .text refusedText := by
  intro hvalue
  rw [ConnectionParameterSnapshot.optionalAsciiText, ConnectionParameterSnapshot.optionalText, hvalue,
    optionalTextValue_refused, ok_bind] at h
  dsimp only at h
  rw [ConnectionParameterSnapshot.asciiText, require,
    if_neg (not_isPrintable_refusedText maximum)] at h
  cases h

theorem portParameter_refused {n : Nat} (h : input.portParameter name = .ok n) :
    input name ≠ .text refusedText := by
  intro hvalue
  rw [ConnectionParameterSnapshot.portParameter, ConnectionParameterSnapshot.requiredText, hvalue,
    textValue_refused] at h
  cases h

theorem logon_refused {logon : NormalizedRfcLogon}
    (h : normalizeRfcLogonParameterSnapshot direct = .ok logon) :
    ∀ name ∈ [client, lang], direct.parameter name ≠ .ok (.text refusedText) := by
  simp only [normalizeRfcLogonParameterSnapshot, bind_eq_ok] at h
  obtain ⟨language, hlanguage, clientText, hclient, sapLanguage, hsapLanguage, -⟩ := h
  simp only [List.forall_mem_cons, List.not_mem_nil, false_imp_iff, implies_true, and_true]
  constructor
  · intro hvalue
    rw [clientNumber, DirectSnapshot.requiredText, hvalue] at hclient
    cases hclient
  · intro hvalue
    rw [DirectSnapshot.optionalText, hvalue] at hlanguage
    obtain rfl : some refusedText = language := Except.ok.inj hlanguage
    have hunknown : isSapLanguage refusedText = false := by decide +kernel
    have hnone : isIsoLanguage refusedText = false := by decide +kernel
    rw [Option.getD_some, normalizeDirectConnectionLanguage, hunknown, if_neg Bool.false_ne_true,
      languageIsoToSap, hnone] at hsapLanguage
    cases hsapLanguage

theorem directRoute_refused {normalized : NormalizedDirectRouteConnection}
    (h : normalizeDirectRouteConnectionParameterSnapshot direct = .ok normalized) :
    (∀ name ∈ [ashost, gwserv, sysnr, client, lang, cpicStreaming],
      direct.parameter name ≠ .ok (.text refusedText)) ∧
      (direct.parameter gwserv = .ok .undefined →
        direct.parameter port ≠ .ok (.text refusedText)) := by
  obtain ⟨ashostText, gwhostText, sysnrText, logon, portNumber, streaming, hashost, hcheck, -, hsysnr,
    hlogon, hport, hstreaming, -⟩ := normalizeDirectRoute_eq_ok h
  have hlogonNames := logon_refused hlogon
  simp only [List.forall_mem_cons, List.not_mem_nil, false_imp_iff, implies_true,
    and_true] at hlogonNames ⊢
  refine ⟨⟨?_, ?_, ?_, hlogonNames.1, hlogonNames.2, ?_⟩, ?_⟩
  · intro hvalue
    rw [DirectSnapshot.requiredText, hvalue] at hashost
    obtain rfl : refusedText = ashostText := Except.ok.inj hashost
    exact not_isPrintable_refusedText 64 (require_eq_ok.mp hcheck)
  · intro hvalue
    rw [gatewayPort, gatewayText, DirectSnapshot.optionalText, hvalue] at hport
    cases hport
  · intro hvalue
    rw [systemNumber, DirectSnapshot.optionalText, hvalue] at hsysnr
    cases hsysnr
  · intro hvalue
    rw [cpicStreamingPolicy, hvalue] at hstreaming
    cases hstreaming
  · intro hservice hvalue
    rw [gatewayPort, gatewayText, DirectSnapshot.optionalText, hservice] at hport
    change (direct.optionalText port >>= _) = _ at hport
    rw [DirectSnapshot.optionalText, hvalue] at hport
    cases hport

/-- What is refused under a name which is picked, is refused in the snapshot. -/
theorem parameter_of_refused {names : List ConnectionParameterName}
    (hread : ∀ name, direct.parameter name =
      .ok (if name ∈ names then (input name).orElse .undefined else .undefined))
    (hname : name ∈ names) (h : direct.parameter name ≠ .ok (.text refusedText)) :
    input name ≠ .text refusedText := by
  intro hvalue
  rw [hread, if_pos hname, hvalue] at h
  exact h rfl

theorem planDirectRoute_refused (h : planDirectRoute input = .ok route) :
    (∀ name ∈ [ashost, gwserv, sysnr, client, lang, cpicStreaming],
      input name ≠ .text refusedText) ∧
      ((input gwserv).orElse .undefined = .undefined → input port ≠ .text refusedText) := by
  obtain ⟨normalized, hnormalized, -⟩ := planDirectRoute_eq_ok h
  obtain ⟨direct, hdirect, hread⟩ := parameter_of_pick input
    [ashost, gwhost, gwserv, port, sysnr, client, lang, cpicStreaming] (by decide)
  rw [normalizeDirectRouteConnectionParameters, hdirect, ok_bind] at hnormalized
  obtain ⟨hnames, hport⟩ := directRoute_refused hnormalized
  have hpicked : ∀ name ∈ [ashost, gwserv, sysnr, client, lang, cpicStreaming],
      name ∈ [ashost, gwhost, gwserv, port, sysnr, client, lang, cpicStreaming] := by decide
  constructor
  · exact fun name hname => parameter_of_refused hread (hpicked name hname) (hnames name hname)
  · intro hservice
    refine parameter_of_refused hread (by decide) (hport ?_)
    rw [hread, if_pos (by decide), hservice]

theorem rfcLogon_refused {logon : NormalizedRfcLogon}
    (h : normalizeRfcLogonParameters (pick input [client, lang] (by decide)) = .ok logon) :
    ∀ name ∈ [client, lang], input name ≠ .text refusedText := by
  obtain ⟨direct, hdirect, hread⟩ := parameter_of_pick input [client, lang] (by decide)
  rw [normalizeRfcLogonParameters, hdirect, ok_bind] at h
  exact fun name hname => parameter_of_refused hread hname (logon_refused h name hname)

theorem planMessageServerRoute_refused (h : planMessageServerRoute input = .ok route) :
    (∀ name ∈ [client, lang, mshost, msserv, r3name, ConnectionParameterName.group],
      input name ≠ .text refusedText) ∧
      (¬input.hasValue r3name → input sysid ≠ .text refusedText) := by
  simp only [planMessageServerRoute, bind_eq_ok] at h
  obtain ⟨logon, hlogon, -, -, -, -, systemId, hsystemId, ⟨⟩, hcheck, service, hservice, host, hhost,
    groupName, hgroup, -⟩ := h
  have hlogonNames := rfcLogon_refused hlogon
  have hsystem (name : ConnectionParameterName) (htext : input.requiredText name = .ok systemId) :
      input name ≠ .text refusedText := by
    intro hvalue
    rw [ConnectionParameterSnapshot.requiredText, hvalue, textValue_refused] at htext
    obtain rfl := Except.ok.inj htext
    exact absurd (require_eq_ok.mp hcheck) (by decide)
  simp only [List.forall_mem_cons, List.not_mem_nil, false_imp_iff, implies_true,
    and_true] at hlogonNames ⊢
  refine ⟨⟨hlogonNames.1, hlogonNames.2, requiredAsciiText_refused hhost,
    optionalAsciiText_refused hservice, ?_, requiredAsciiText_refused hgroup⟩, ?_⟩
  · intro hvalue
    have hgiven : input.hasValue r3name := by
      rw [ConnectionParameterSnapshot.hasValue, hvalue]
      simp
    rw [systemIdText, if_pos hgiven] at hsystemId
    exact hsystem r3name hsystemId hvalue
  · intro hgiven
    rw [systemIdText, if_neg hgiven] at hsystemId
    exact hsystem sysid hsystemId

theorem planWebSocketRoute_refused (h : planWebSocketRoute input = .ok route) :
    ∀ name ∈ [client, lang, wshost, wsport], input name ≠ .text refusedText := by
  simp only [planWebSocketRoute, bind_eq_ok] at h
  obtain ⟨logon, hlogon, portNumber, hport, host, hhost, -⟩ := h
  have hlogonNames := rfcLogon_refused hlogon
  simp only [List.forall_mem_cons, List.not_mem_nil, false_imp_iff, implies_true,
    and_true] at hlogonNames ⊢
  refine ⟨hlogonNames.1, hlogonNames.2, requiredAsciiText_refused hhost, ?_⟩
  intro hvalue
  have hgiven : input.hasValue wsport := by
    rw [ConnectionParameterSnapshot.hasValue, hvalue]
    simp
  rw [webSocketPort, if_pos hgiven] at hport
  cases hport' : input.portParameter wsport with
  | error message => simp [hport', Except.map] at hport
  | ok n => exact portParameter_refused hport' hvalue

theorem planAuthentication_refused {authentication : ConnectionAuthenticationPlan}
    {capability : ConnectionProviderCapability}
    (h : planAuthentication input = .ok (authentication, capability)) :
    input mysapsso2 ≠ .text refusedText := by
  intro hvalue
  have hgiven : input.hasValue mysapsso2 := by
    rw [ConnectionParameterSnapshot.hasValue, hvalue]
    nofun
  rw [planAuthentication, bind_eq_ok] at h
  obtain ⟨token, -, h⟩ := h
  cases token with
  | some token =>
      obtain ⟨⟨⟩, hnone, -⟩ := bind_eq_ok.mp h
      exact require_eq_ok.mp hnone (.inr (.inr hgiven))
  | none =>
      simp only [planUserAuthentication, bind_eq_ok, if_pos hgiven] at h
      obtain ⟨-, -, -, -, -, -, -, -, ticket, hticket, -⟩ := h
      rw [hvalue] at hticket
      have hrefused : (normalizeRfcLogonTicket (.text refusedText)).isOk = false := by decide +kernel
      rw [hticket] at hrefused
      cases hrefused

theorem planConnectivityProxy_refused {proxy : Option ConnectivityProxyPlan}
    (h : planConnectivityProxy input = .ok proxy) :
    ∀ name ∈ [connectivityProxyHost, connectivityProxyPort, connectivitySubaccount,
      connectivityLocationId], input name ≠ .text refusedText := by
  rw [planConnectivityProxy, bind_eq_ok] at h
  obtain ⟨⟨⟩, hboth, h⟩ := h
  rw [require_eq_ok] at hboth
  simp only [List.forall_mem_cons, List.not_mem_nil, false_imp_iff, implies_true, and_true]
  by_cases hhost : input.hasValue connectivityProxyHost
  · simp only [if_pos hhost, bind_eq_ok] at h
    obtain ⟨_, -, subaccount, hsubaccount, location, hlocation, host, hhost, portNumber, hport, -⟩ := h
    exact ⟨requiredAsciiText_refused hhost, portParameter_refused hport,
      optionalAsciiText_refused hsubaccount, optionalAsciiText_refused hlocation⟩
  · simp only [if_neg hhost, bind_eq_ok, require_eq_ok] at h
    obtain ⟨-, hoptions, -⟩ := h
    have hport : ¬input.hasValue connectivityProxyPort := fun h => hhost (hboth.mpr h)
    have hdefined {name : ConnectionParameterName} (h : ¬input.hasValue name) :
        input name ≠ .text refusedText := by
      rw [not_not.mp h]
      simp
    exact ⟨hdefined hhost, hdefined hport, hdefined fun h => hoptions (.inr (.inl h)),
      hdefined fun h => hoptions (.inr (.inr h))⟩

theorem planConnectivitySocks5_refused {socks5 : Option ConnectivitySocks5Plan}
    (h : planConnectivitySocks5 input = .ok socks5) :
    ∀ name ∈ [connectivitySocks5ProxyHost, connectivitySocks5ProxyPort,
      connectivitySocks5AccessToken, connectivitySocks5LocationId],
      input name ≠ .text refusedText := by
  rw [planConnectivitySocks5] at h
  simp only [List.forall_mem_cons, List.not_mem_nil, false_imp_iff, implies_true, and_true]
  split at h
  · cases hroute : planConnectivitySocks5Route input with
    | error message => simp [hroute, Except.map] at h
    | ok route =>
        simp only [planConnectivitySocks5Route, bind_eq_ok] at hroute
        obtain ⟨-, -, token, htoken, -, -, location, hlocation, ⟨⟩, hcheck, host, hhost, portNumber,
          hport, -⟩ := hroute
        refine ⟨requiredAsciiText_refused hhost, portParameter_refused hport,
          requiredAsciiText_refused htoken, fun hvalue => ?_⟩
        rw [ConnectionParameterSnapshot.optionalText, hvalue, optionalTextValue_refused] at hlocation
        obtain rfl := Except.ok.inj hlocation
        have hclean := (require_eq_ok.mp hcheck refusedText rfl).2
        exact absurd hclean (by decide)
  · rename_i hnone
    simp only [bind_eq_ok, require_eq_ok] at h
    obtain ⟨-, hlocation, -⟩ := h
    have hdefined {name : ConnectionParameterName} (h : ¬input.hasValue name) :
        input name ≠ .text refusedText := by
      rw [not_not.mp h]
      simp
    exact ⟨hdefined fun h => hnone (.inl h), hdefined fun h => hnone (.inr (.inl h)),
      hdefined fun h => hnone (.inr (.inr h)), hdefined hlocation⟩

theorem sapRouterRouteString_refused {routeString : Option JsString}
    (h : sapRouterRouteString input = .ok routeString) : input saprouter ≠ .text refusedText := by
  intro hvalue
  rw [sapRouterRouteString, ConnectionParameterSnapshot.optionalText, hvalue,
    optionalTextValue_refused, ok_bind] at h
  have hinvalid : SapRouter.assertSapRouterRoutePrefix (.string refusedText.chars) =
      SapRouter.invalidRoute := by rfl
  dsimp only at h
  rw [hinvalid] at h
  cases h

end Refusals

/-- The texts of a plan which no check restricts. -/
def ConnectionRoutePlan.shown (plan : ConnectionRoutePlan) :
    ConnectionParameterName → Option JsString
  | .gwhost =>
    match plan.route with
    | .direct route => some route.host
    | _ => none
  | .user =>
    match plan.authentication with
    | .namedUser name _ | .logonTicket name _ => some name
    | .principalPropagation _ => none
  | .passwd =>
    match plan.authentication with
    | .namedUser _ password => some password
    | _ => none
  | .businessUserToken =>
    match plan.authentication with
    | .principalPropagation token => some token
    | _ => none
  | .connectivityProxyAuthentication => plan.connectivityProxy.bind (·.authorization)
  | _ => none

def shownNames : List ConnectionParameterName :=
  [gwhost, user, passwd, businessUserToken, connectivityProxyAuthentication]

section Influence
variable {input : ConnectionParameterSnapshot} {name : ConnectionParameterName}
  {plan : ConnectionRoutePlan} {route : PlannedRoute} {text : JsString}

theorem hasValue_of_text (h : input name = .text text) : input.hasValue name := by
  rw [ConnectionParameterSnapshot.hasValue, h]
  nofun

theorem planRoute_cases (h : planRoute input = .ok route) :
    (input.hasValue ashost → planDirectRoute input = .ok route) ∧
      (¬input.hasValue ashost → input.hasValue mshost →
        planMessageServerRoute input = .ok route) ∧
      (¬input.hasValue ashost → ¬input.hasValue mshost → planWebSocketRoute input = .ok route) := by
  obtain ⟨-, ⟨hashost, hroute⟩ | ⟨hashost, hmshost, hroute⟩ | ⟨hashost, hmshost, -, hroute⟩⟩ :=
    planRoute_eq_ok h
  · exact ⟨fun _ => hroute, fun h => absurd hashost h, fun h => absurd hashost h⟩
  · exact ⟨fun h => absurd h hashost, fun _ _ => hroute, fun _ h => absurd hmshost h⟩
  · exact ⟨fun h => absurd h hashost, fun _ h => absurd h hmshost, fun _ _ => hroute⟩

/-- A parameter of a route whose refusal goes unnoticed is shadowed. -/
theorem shadowed_of_route (h : planRoute input = .ok route) (hvalue : input name = .text refusedText)
    (hname : name ∈ [ashost, gwserv, port, sysnr, client, lang, cpicStreaming, mshost, msserv, r3name,
      sysid, ConnectionParameterName.group, wshost, wsport]) : Shadowed input name := by
  have horphaned := rejectOrphanedRouteParameters_eq_ok.mp (planRoute_eq_ok h).1
  have hgiven := hasValue_of_text hvalue
  have hhost {host : ConnectionParameterName} (hhost : host ∈ routeHost name) :
      input.hasValue host := horphaned name host hhost hgiven
  obtain ⟨hdirect, hmessage, hsocket⟩ := planRoute_cases h
  by_cases hashost : input.hasValue ashost
  · obtain ⟨hrefused, hport⟩ := planDirectRoute_refused (hdirect hashost)
    cases name with
    | ashost | gwserv | sysnr | client | lang | cpicStreaming =>
        exact absurd hvalue (hrefused _ (by decide))
    | port => exact ⟨hashost, fun hservice => hport hservice hvalue⟩
    | mshost => exact hashost
    | msserv | r3name | group => exact ⟨hashost, hhost rfl⟩
    | sysid => exact ⟨hhost rfl, .inl hashost⟩
    | wshost => exact .inl hashost
    | wsport => exact ⟨hhost rfl, .inl hashost⟩
    | _ => exact absurd hname (by decide)
  by_cases hmshost : input.hasValue mshost
  · obtain ⟨hrefused, hsysid⟩ := planMessageServerRoute_refused (hmessage hashost hmshost)
    cases name with
    | ashost => exact absurd hgiven hashost
    | gwserv | port | sysnr | cpicStreaming => exact absurd (hhost rfl) hashost
    | client | lang | mshost | msserv | r3name | group =>
        exact absurd hvalue (hrefused _ (by decide))
    | sysid => exact ⟨hmshost, .inr (not_not.mp fun hnone => hsysid hnone hvalue)⟩
    | wshost => exact .inr hmshost
    | wsport => exact ⟨hhost rfl, .inr hmshost⟩
    | _ => exact absurd hname (by decide)
  · have hrefused := planWebSocketRoute_refused (hsocket hashost hmshost)
    cases name with
    | ashost => exact absurd hgiven hashost
    | mshost => exact absurd hgiven hmshost
    | gwserv | port | sysnr | cpicStreaming => exact absurd (hhost rfl) hashost
    | msserv | r3name | sysid | group => exact absurd (hhost rfl) hmshost
    | client | lang | wshost | wsport => exact absurd hvalue (hrefused _ (by decide))
    | _ => exact absurd hname (by decide)

/-- No check overlooks a control character, except behind a parameter which takes precedence. -/
theorem shadowed_of_refused (h : planSnapshot input = .ok plan)
    (hvalue : input name = .text refusedText) (hname : name ∉ shownNames)
    (hplanned : name ≠ sncMode) : Shadowed input name := by
  obtain ⟨route, capability, hroute, hauthentication, hproxy, hsocks5, hrouter, -⟩ :=
    planSnapshot_eq_ok h
  cases name with
  | mysapsso2 => exact absurd hvalue (planAuthentication_refused hauthentication)
  | connectivityProxyHost | connectivityProxyPort | connectivitySubaccount
    | connectivityLocationId =>
      exact absurd hvalue (planConnectivityProxy_refused hproxy _ (by decide))
  | connectivitySocks5ProxyHost | connectivitySocks5ProxyPort | connectivitySocks5AccessToken
    | connectivitySocks5LocationId =>
      exact absurd hvalue (planConnectivitySocks5_refused hsocks5 _ (by decide))
  | saprouter => exact absurd hvalue (sapRouterRouteString_refused hrouter)
  | gwhost | user | passwd | businessUserToken | connectivityProxyAuthentication =>
      exact absurd (by decide) hname
  | sncMode => exact absurd rfl hplanned
  | _ => exact shadowed_of_route hroute hvalue (by decide)

theorem textValue_of_ne_nil (name : ConnectionParameterName) (h : text ≠ []) :
    textValue name (.text text) = .ok text := by
  cases text with
  | nil => exact absurd rfl h
  | cons unit text => rfl

theorem optionalTextValue_of_ne_nil (name : ConnectionParameterName) (h : text ≠ []) :
    optionalTextValue name (.text text) = .ok (some text) := by
  rw [optionalTextValue, if_neg (by simp), textValue_of_ne_nil name h]
  rfl

theorem host_of_gwhost (h : planDirectRoute input = .ok route) (hvalue : input gwhost = .text text)
    (htext : text ≠ []) : ∃ direct, route.route = .direct direct ∧ direct.host = text := by
  obtain ⟨normalized, hnormalized, hroute, -⟩ := planDirectRoute_eq_ok h
  obtain ⟨direct, hdirect, hread⟩ := parameter_of_pick input
    [ashost, gwhost, gwserv, port, sysnr, client, lang, cpicStreaming] (by decide)
  rw [normalizeDirectRouteConnectionParameters, hdirect, ok_bind] at hnormalized
  obtain ⟨_, gwhostText, _, _, _, _, -, -, hgwhost, -, -, -, -, rfl⟩ :=
    normalizeDirectRoute_eq_ok hnormalized
  have hsame : direct.optionalText gwhost = .ok (some text) := by
    rw [DirectSnapshot.optionalText, hread, if_pos (by decide), hvalue, ok_bind]
    exact optionalTextValue_of_ne_nil gwhost htext
  rw [hsame] at hgwhost
  obtain rfl := Except.ok.inj hgwhost
  exact ⟨_, hroute, rfl⟩

/-- What the authentication shows of a user, a password, and a token. -/
theorem shown_of_authentication {authentication : ConnectionAuthenticationPlan}
    {capability : ConnectionProviderCapability}
    (h : planAuthentication input = .ok (authentication, capability)) (htext : text ≠ []) :
    (input user = .text text →
      (∃ password, authentication = .namedUser text password) ∨
        ∃ ticket, authentication = .logonTicket text ticket) ∧
      (input passwd = .text text → ∃ name, authentication = .namedUser name text) ∧
      (input businessUserToken = .text text → authentication = .principalPropagation text) := by
  rw [planAuthentication, bind_eq_ok] at h
  obtain ⟨token, htoken, h⟩ := h
  cases token with
  | some token =>
      simp only [bind_eq_ok, require_eq_ok, not_or] at h
      obtain ⟨-, ⟨huser, hpasswd, -⟩, h⟩ := h
      obtain ⟨rfl, -⟩ := Prod.mk.inj (Except.ok.inj h)
      refine ⟨fun hvalue => absurd (hasValue_of_text hvalue) huser,
        fun hvalue => absurd (hasValue_of_text hvalue) hpasswd, fun hvalue => ?_⟩
      rw [ConnectionParameterSnapshot.optionalText, hvalue,
        optionalTextValue_of_ne_nil _ htext] at htoken
      rw [Option.some.inj (Except.ok.inj htoken)]
  | none =>
      have hnotoken : input businessUserToken ≠ .text text := by
        intro hvalue
        rw [ConnectionParameterSnapshot.optionalText, hvalue,
          optionalTextValue_of_ne_nil _ htext] at htoken
        cases htoken
      simp only [planUserAuthentication, bind_eq_ok, require_eq_ok] at h
      obtain ⟨-, hone, -, -, -, -, name, hname, h⟩ := h
      have hsame (hvalue : input user = .text text) : name = text := by
        rw [ConnectionParameterSnapshot.requiredText, hvalue, textValue_of_ne_nil _ htext] at hname
        exact (Except.ok.inj hname).symm
      split at h
      · rename_i hticket
        obtain ⟨ticket, -, h⟩ := bind_eq_ok.mp h
        obtain ⟨rfl, -⟩ := Prod.mk.inj (Except.ok.inj h)
        exact ⟨fun hvalue => .inr ⟨ticket, by rw [hsame hvalue]⟩,
          fun hvalue => absurd ⟨hasValue_of_text hvalue, hticket⟩ hone,
          fun hvalue => absurd hvalue hnotoken⟩
      · obtain ⟨password, hpassword, h⟩ := bind_eq_ok.mp h
        obtain ⟨rfl, -⟩ := Prod.mk.inj (Except.ok.inj h)
        refine ⟨fun hvalue => .inl ⟨password, by rw [hsame hvalue]⟩, fun hvalue => ⟨name, ?_⟩,
          fun hvalue => absurd hvalue hnotoken⟩
        rw [ConnectionParameterSnapshot.requiredText, hvalue,
          textValue_of_ne_nil _ htext] at hpassword
        rw [Except.ok.inj hpassword]

theorem authorization_of_proxy {proxy : Option ConnectivityProxyPlan}
    (h : planConnectivityProxy input = .ok proxy)
    (hvalue : input connectivityProxyAuthentication = .text text) (htext : text ≠ []) :
    proxy.bind (·.authorization) = some text := by
  rw [planConnectivityProxy, bind_eq_ok] at h
  obtain ⟨⟨⟩, -, h⟩ := h
  by_cases hhost : input.hasValue connectivityProxyHost
  · simp only [if_pos hhost, bind_eq_ok] at h
    obtain ⟨authorization, hauthorization, _, -, _, -, _, -, _, -, h⟩ := h
    obtain rfl := Except.ok.inj h
    rw [ConnectionParameterSnapshot.optionalText, hvalue,
      optionalTextValue_of_ne_nil _ htext] at hauthorization
    exact (Except.ok.inj hauthorization).symm
  · simp only [if_neg hhost, bind_eq_ok, require_eq_ok] at h
    obtain ⟨-, hoptions, -⟩ := h
    exact absurd (.inl (hasValue_of_text hvalue)) hoptions

theorem shown_of_text (h : planSnapshot input = .ok plan) (hvalue : input name = .text text)
    (htext : text ≠ []) (hname : name ∈ shownNames) : plan.shown name = some text := by
  obtain ⟨route, capability, hroute, hauthentication, hproxy, -, -, hplanRoute, -⟩ :=
    planSnapshot_eq_ok h
  obtain ⟨huser, hpasswd, htoken⟩ := shown_of_authentication hauthentication htext
  cases name with
  | gwhost =>
      have hashost := rejectOrphanedRouteParameters_eq_ok.mp (planRoute_eq_ok hroute).1 gwhost
        ashost rfl (hasValue_of_text hvalue)
      obtain ⟨direct, hdirect, hhost⟩ :=
        host_of_gwhost ((planRoute_cases hroute).1 hashost) hvalue htext
      simp only [ConnectionRoutePlan.shown, hplanRoute, hdirect, hhost]
  | user =>
      rcases huser hvalue with ⟨password, hplan⟩ | ⟨ticket, hplan⟩ <;>
        simp only [ConnectionRoutePlan.shown, hplan]
  | passwd =>
      obtain ⟨_, hplan⟩ := hpasswd hvalue
      simp only [ConnectionRoutePlan.shown, hplan]
  | businessUserToken => simp only [ConnectionRoutePlan.shown, htoken hvalue]
  | connectivityProxyAuthentication => exact authorization_of_proxy hproxy hvalue htext
  | _ => exact absurd hname (by decide)

/-- What shadows a parameter are the other ones. -/
theorem shadowed_update {value : ParameterValue} :
    Shadowed (Function.update input name value) name ↔ Shadowed input name := by
  cases name <;> simp [Shadowed]

/-- A parameter which is not shadowed has a text with which the plan is not the same. -/
theorem exists_influence (hname : ¬Shadowed input name) (hplanned : name ≠ sncMode) :
    ∃ text : JsString, text ≠ [] ∧
      planSnapshot (Function.update input name (.text text)) ≠ .ok plan := by
  by_cases hshown : name ∈ shownNames
  · -- One of two texts differs from what the plan shows.
    obtain ⟨text, htext, hother⟩ : ∃ text : JsString, text ≠ [] ∧ plan.shown name ≠ some text := by
      by_cases hfirst : plan.shown name = some [0x61]
      · exact ⟨[0x62], nofun, by rw [hfirst]; decide⟩
      · exact ⟨[0x61], nofun, hfirst⟩
    refine ⟨text, htext, fun h => hother ?_⟩
    exact shown_of_text h (Function.update_self ..) htext hshown
  · refine ⟨refusedText, nofun, fun h => hname ?_⟩
    exact shadowed_update.mp (shadowed_of_refused h (Function.update_self ..) hshown hplanned)

end Influence

section Session
variable {o : ParameterObject} {plan : ConnectionRoutePlan} {name : ConnectionParameterName}

theorem isGiven_text {text : JsString} : (ParameterValue.text text).IsGiven :=
  ⟨nofun, nofun, by simp [ParameterValue.strictlyEquals]⟩

/-- A parameter which has a value is planned with some effect, unless it is shadowed; then any other
value leads to the same plan. -/
theorem planRFCClientSessionRoute_depends
    (h : planRFCClientSessionRoute (.object o) = .ok plan)
    (hvalue : ∃ upper, o.value (name.key upper) ≠ .undefined) :
    (¬Shadowed o.held name → ∃ text : JsString, text ≠ [] ∧
      planRFCClientSessionRoute (.object (o.withValue name (.text text))) ≠ .ok plan) ∧
      (Shadowed o.held name → ∀ value : ParameterValue, value.IsGiven →
        planRFCClientSessionRoute (.object (o.withValue name value)) = .ok plan) := by
  obtain ⟨hsurface, -, hplan⟩ := planSession_eq_ok h
  have hheld : ∃ upper, o.own (name.key upper) ≠ none := by
    obtain ⟨upper, hupper⟩ := hvalue
    refine ⟨upper, fun hnone => hupper ?_⟩
    rw [ParameterObject.value, hnone]
  have hplanned : name ≠ sncMode := by
    rintro rfl
    obtain ⟨upper, hupper⟩ := hheld
    exact hupper (own_sncMode_of_surface hsurface upper)
  constructor
  · intro hname
    obtain ⟨text, htext, hother⟩ := exists_influence hname hplanned
    refine ⟨text, htext, ?_⟩
    rw [planSession_withValue h isGiven_text hheld]
    exact hother
  · intro hname value hgiven
    rw [planSession_withValue h hgiven hheld]
    exact planSnapshot_shadowed hplan hname hgiven.1

/-- The user has an effect; the host of a message server has none next to that of an application
server. -/
theorem planRFCClientSessionRoute_depends_sample :
    ∃ plan, planRFCClientSessionRoute (.object (sampleParameters [mshost] (by decide))) = .ok plan ∧
      (∃ text : JsString, text ≠ [] ∧ planRFCClientSessionRoute
        (.object ((sampleParameters [mshost] (by decide)).withValue user (.text text))) ≠ .ok plan) ∧
      planRFCClientSessionRoute (.object ((sampleParameters [mshost] (by decide)).withValue mshost
        (.text (JsString.literal "other.example.test")))) = .ok plan := by
  have hok : (planRFCClientSessionRoute
      (.object (sampleParameters [mshost] (by decide)))).isOk = true := by decide +kernel
  obtain ⟨plan, hplan⟩ := exists_eq_ok hok
  have huser : (sampleParameters [mshost] (by decide)).value (user.key false) ≠ .undefined := by
    decide +kernel
  have hmshost : (sampleParameters [mshost] (by decide)).value (mshost.key false) ≠ .undefined := by
    decide +kernel
  have hashost : (sampleParameters [mshost] (by decide)).held ashost ≠ .undefined := by
    decide +kernel
  exact ⟨plan, hplan, (planRFCClientSessionRoute_depends hplan ⟨false, huser⟩).1 id,
    (planRFCClientSessionRoute_depends hplan ⟨false, hmshost⟩).2 hashost _ isGiven_text⟩

/-- The host of a message server is silently ignored next to that of an application server. -/
theorem mshost_ignored :
    ∃ plan, planRFCClientSessionRoute (.object (sampleParameters [mshost] (by decide))) = .ok plan ∧
      (sampleParameters [mshost] (by decide)).value (mshost.key false) ≠ .undefined ∧
      ∀ value : ParameterValue, value.IsGiven →
        planRFCClientSessionRoute
          (.object ((sampleParameters [mshost] (by decide)).withValue mshost value)) =
            .ok plan := by
  have hok : (planRFCClientSessionRoute
      (.object (sampleParameters [mshost] (by decide)))).isOk = true := by decide +kernel
  obtain ⟨plan, hplan⟩ := exists_eq_ok hok
  have hmshost : (sampleParameters [mshost] (by decide)).value (mshost.key false) ≠ .undefined := by
    decide +kernel
  have hheld : (sampleParameters [mshost] (by decide)).own (mshost.key false) ≠ none := by
    decide +kernel
  have hashost : (sampleParameters [mshost] (by decide)).held ashost ≠ .undefined := by
    decide +kernel
  refine ⟨plan, hplan, hmshost, fun value hvalue => ?_⟩
  rw [planSession_withValue hplan hvalue ⟨false, hheld⟩]
  exact planSnapshot_shadowed (planSession_eq_ok hplan).2.2 hashost hvalue.1

end Session

end OpenRfc.Connection
