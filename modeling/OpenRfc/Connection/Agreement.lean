import OpenRfc.Connection.Admission

/-!
The two normalizations of a direct connection. One reads the parameters at once; the other one plans
a route with an authentication and projects them.
-/

namespace OpenRfc.Connection
open Fallible ConnectionParameterName

section Readers
variable {first second : DirectSnapshot} {name : ConnectionParameterName}

theorem requiredText_congr (h : first.parameter name = second.parameter name) :
    first.requiredText name = second.requiredText name := by
  rw [DirectSnapshot.requiredText, DirectSnapshot.requiredText, h]

theorem optionalText_congr (h : first.parameter name = second.parameter name) :
    first.optionalText name = second.optionalText name := by
  rw [DirectSnapshot.optionalText, DirectSnapshot.optionalText, h]

theorem gatewayPort_congr (hgwserv : first.parameter gwserv = second.parameter gwserv)
    (hport : first.parameter port = second.parameter port) (sysnr : JsString) :
    gatewayPort first sysnr = gatewayPort second sysnr := by
  rw [gatewayPort, gatewayPort, gatewayText, gatewayText, optionalText_congr hgwserv,
    optionalText_congr hport]

/-- What a direct route reads, it reads of every snapshot which holds the same values. -/
theorem normalizeDirect_of_route {normalized : NormalizedDirectRouteConnection}
    (hagree : ∀ name ∈ [ashost, gwhost, gwserv, port, sysnr, client, lang, cpicStreaming],
      first.parameter name = second.parameter name)
    (hroute : normalizeDirectRouteConnectionParameterSnapshot second = .ok normalized)
    (hsupported : rejectUnsupportedDirectParameters first = .ok ()) {userText : JsString}
    (huser : first.requiredText user = .ok userText) {password ticket : Option JsString}
    (hpassword : first.optionalText passwd = .ok password)
    (hticket : directTicket first = .ok ticket) {credential : DirectCredential}
    (hcredential : directCredential password ticket = .ok credential) :
    normalizeDirectConnectionParameterSnapshot first = .ok ⟨normalized, userText, credential⟩ := by
  simp only [List.forall_mem_cons, List.not_mem_nil, false_imp_iff, implies_true, and_true] at hagree
  obtain ⟨hashost, hgwhost, hgwserv, hport, hsysnr, hclient, hlang, hstreaming⟩ := hagree
  obtain ⟨ashostText, gwhostText, sysnrText, logon, portNumber, streaming, hashostText, hcheck,
    hgwhostText, hsysnrText, hlogon, hportNumber, hstreamingPolicy, rfl⟩ :=
    normalizeDirectRoute_eq_ok hroute
  simp only [normalizeRfcLogonParameterSnapshot, bind_eq_ok] at hlogon
  obtain ⟨language, hlanguage, clientText, hclientText, sapLanguage, hsapLanguage, hlogon⟩ := hlogon
  obtain rfl := Except.ok.inj hlogon
  have hsysnrFirst : systemNumber first = .ok sysnrText := by
    rw [← hsysnrText, systemNumber, systemNumber, optionalText_congr hsysnr]
  have hclientFirst : clientNumber first = .ok clientText := by
    rw [← hclientText, clientNumber, clientNumber, requiredText_congr hclient]
  have hstreamingFirst : cpicStreamingPolicy first = .ok streaming := by
    rw [← hstreamingPolicy, cpicStreamingPolicy, cpicStreamingPolicy, hstreaming]
  rw [normalizeDirectConnectionParameterSnapshot, hsupported, ok_bind, requiredText_congr hashost,
    hashostText, ok_bind, hcheck, ok_bind, optionalText_congr hgwhost, hgwhostText, ok_bind,
    hsysnrFirst, ok_bind, optionalText_congr hlang, hlanguage, ok_bind,
    gatewayPort_congr hgwserv hport, hportNumber, ok_bind, hclientFirst, ok_bind, huser, ok_bind,
    hpassword, ok_bind, hticket, ok_bind, hcredential, ok_bind, hsapLanguage, ok_bind,
    hstreamingFirst, ok_bind]

end Readers

section Authentication
variable {input : ConnectionParameterSnapshot} {authentication : ConnectionAuthenticationPlan}
  {capability : ConnectionProviderCapability}

/-- The authentication of a user, by the credential of a direct connection. -/
def DirectCredential.planFor (userText : JsString) :
    DirectCredential → ConnectionAuthenticationPlan
  | .password s => .namedUser userText s
  | .ticket s => .logonTicket userText s

theorem orElse_of_textValue {name : ConnectionParameterName} {value : ParameterValue}
    {s : JsString} (h : textValue name value = .ok s) : value.orElse .undefined = value := by
  cases value with
  | undefined | null => cases h
  | text s | number n | other id => rfl

theorem orElse_of_ticket {value : ParameterValue} {ticket : JsString}
    (h : normalizeRfcLogonTicket value = .ok ticket) :
    value.orElse .undefined = value ∧ value ≠ .undefined := by
  cases value with
  | text s => exact ⟨rfl, nofun⟩
  | undefined | null | number n | other id => cases h

theorem planUserAuthentication_of (h : planAuthentication input = .ok (authentication, capability))
    (huser : authentication.isPrincipalPropagation = false) :
    planUserAuthentication input = .ok (authentication, capability) := by
  rw [planAuthentication, bind_eq_ok] at h
  obtain ⟨token, -, h⟩ := h
  cases token with
  | none => exact h
  | some token =>
      obtain ⟨⟨⟩, -, h⟩ := bind_eq_ok.mp h
      obtain ⟨rfl, -⟩ := Prod.mk.inj (Except.ok.inj h)
      cases huser

/-- A user whom the plan authenticates has the same credential in a direct connection. -/
theorem credential_of_authentication {direct : DirectSnapshot}
    (h : planAuthentication input = .ok (authentication, capability))
    (huser : authentication.isPrincipalPropagation = false)
    (hread : ∀ name ∈ [user, passwd, mysapsso2],
      direct.parameter name = .ok ((input name).orElse .undefined)) :
    ∃ userText password ticket credential, direct.requiredText user = .ok userText ∧
      direct.optionalText passwd = .ok password ∧ directTicket direct = .ok ticket ∧
      directCredential password ticket = .ok credential ∧
      authentication = credential.planFor userText := by
  simp only [List.forall_mem_cons, List.not_mem_nil, false_imp_iff, implies_true, and_true] at hread
  obtain ⟨hreadUser, hreadPasswd, hreadTicket⟩ := hread
  have hplan := planUserAuthentication_of h huser
  simp only [planUserAuthentication, bind_eq_ok, require_eq_ok] at hplan
  obtain ⟨⟨⟩, hone, ⟨⟩, -, ⟨⟩, -, userText, huserText, hplan⟩ := hplan
  have hdirectUser : direct.requiredText user = .ok userText := by
    rw [DirectSnapshot.requiredText, hreadUser, ok_bind, orElse_of_textValue huserText]
    exact huserText
  split at hplan
  · rename_i hticket
    obtain ⟨ticket, hnormalized, hplan⟩ := bind_eq_ok.mp hplan
    obtain ⟨rfl, -⟩ := Prod.mk.inj (Except.ok.inj hplan)
    obtain ⟨hsame, hdefined⟩ := orElse_of_ticket hnormalized
    have hpasswd : input passwd = .undefined := by
      by_contra hpasswd
      exact hone ⟨hpasswd, hticket⟩
    refine ⟨userText, none, some ticket, .ticket ticket, hdirectUser, ?_, ?_, rfl, rfl⟩
    · rw [DirectSnapshot.optionalText, hreadPasswd, ok_bind, hpasswd]
      rfl
    · rw [directTicket, hreadTicket, ok_bind, hsame, if_neg hdefined, hnormalized]
      rfl
  · rename_i hticket
    obtain ⟨password, hpassword, hplan⟩ := bind_eq_ok.mp hplan
    obtain ⟨rfl, -⟩ := Prod.mk.inj (Except.ok.inj hplan)
    have hticket : input mysapsso2 = .undefined := not_not.mp hticket
    rw [ConnectionParameterSnapshot.requiredText] at hpassword
    refine ⟨userText, some password, none, .password password, hdirectUser, ?_, ?_, rfl, rfl⟩
    · have hdefined : input passwd ≠ .undefined := by
        intro hundefined
        rw [hundefined] at hpassword
        cases hpassword
      rw [DirectSnapshot.optionalText, hreadPasswd, ok_bind, orElse_of_textValue hpassword,
        optionalTextValue, if_neg hdefined]
      exact congrArg (Except.map some) hpassword
    · rw [directTicket, hreadTicket, ok_bind, hticket]
      rfl

end Authentication

section Agreement
variable {o : ParameterObject} {plan : ConnectionRoutePlan}

/-- A parameter which is planned for but not held is none of the unsupported ones. -/
theorem rejectUnsupported_eq {direct : DirectSnapshot}
    (hwshost : direct.parameter wshost = .ok (o.held wshost))
    (hsaprouter : direct.parameter saprouter = .ok .undefined)
    (hsncMode : direct.parameter sncMode = .ok .undefined) :
    rejectUnsupportedDirectParameters direct =
      if o.held wshost = .undefined then .ok ()
      else .error "wshost connections are not implemented; use direct ashost/sysnr" := by
  change (direct.parameter wshost >>= fun value => require (value = .undefined) _) >>=
    (fun _ => (direct.parameter saprouter >>= fun value => require (value = .undefined) _) >>=
      fun _ => (direct.parameter sncMode >>= fun value => require (value = .undefined) _) >>=
        fun _ => .ok ()) = _
  rw [hwshost, hsaprouter, hsncMode]
  simp only [ok_bind, require]
  split <;> rfl

theorem saprouter_undefined {input : ConnectionParameterSnapshot}
    (h : sapRouterRouteString input = .ok none) : input saprouter = .undefined := by
  rw [sapRouterRouteString, bind_eq_ok] at h
  obtain ⟨value, hvalue, h⟩ := h
  cases value with
  | none =>
      rw [ConnectionParameterSnapshot.optionalText, optionalTextValue] at hvalue
      split at hvalue
      · assumption
      · cases htext : textValue saprouter (input saprouter) with
        | error message => simp [htext, Except.map] at hvalue
        | ok s => simp [htext, Except.map] at hvalue
  | some value =>
      dsimp only at h
      split at h <;> cases h

theorem sncMode_undefined {input : ConnectionParameterSnapshot}
    (h : snapshotConnectionParameters (.object o) = .ok input) : input sncMode = .undefined := by
  cases spelled_of_snapshot h sncMode with
  | absent _ hundefined => exact hundefined
  | held _ hplanned => exact absurd rfl hplanned

/-- The projection of a plan for a user of a direct route. -/
theorem normalizedDirectConnectionFromPlan_eq {normalized : NormalizedDirectRouteConnection}
    {userText : JsString} {credential : DirectCredential}
    (hroute : plan.route = .direct ⟨normalized.host, normalized.applicationServerHost,
      normalized.port, normalized.applicationServerService, normalized.sysnr,
      normalized.cpicStreaming⟩)
    (hlogon : plan.logon = ⟨normalized.client, normalized.language⟩)
    (hauthentication : plan.authentication = credential.planFor userText) :
    normalizedDirectConnectionFromPlan plan = .ok ⟨normalized, userText, credential⟩ := by
  rw [normalizedDirectConnectionFromPlan, hroute, hlogon, hauthentication]
  cases credential with
  | password password => rfl
  | ticket ticket => rfl

/-- Where the plan is a direct one for a user, and no host of a WebSocket is given, both
normalizations give the same connection. -/
theorem directConnections_agree (h : planConnectionRoute (.object o) = .ok plan)
    (hdirect : plan.route.isDirect = true)
    (huser : plan.authentication.isPrincipalPropagation = false) (hrouter : plan.sapRouter = none)
    (hnull : ∀ name : ConnectionParameterName, o.value (name.key true) ≠ .null) :
    ∃ connection, normalizedDirectConnectionFromPlan plan = .ok connection ∧
      normalizeDirectConnectionParameters (.object o) =
        if o.held wshost = .undefined then .ok connection
        else .error "wshost connections are not implemented; use direct ashost/sysnr" := by
  obtain ⟨input, hinput, hplan⟩ := bind_eq_ok.mp h
  obtain ⟨route, capability, hroute, hauthentication, -, -, hrouteString, hplanRoute, hplanLogon⟩ :=
    planSnapshot_eq_ok hplan
  rw [hplanRoute] at hdirect
  obtain ⟨normalized, hnormalized, hshape, hlogon⟩ :=
    planDirectRoute_eq_ok (planDirectRoute_of_isDirect hroute hdirect)
  obtain ⟨picked, hpicked, hpickedRead⟩ := parameter_of_pick input
    [ashost, gwhost, gwserv, port, sysnr, client, lang, cpicStreaming] (by decide)
  rw [normalizeDirectRouteConnectionParameters, hpicked, ok_bind] at hnormalized
  let direct : DirectSnapshot := fun name upper => o.value (name.key upper)
  have hsnapshot : snapshotDirectConnectionParameters (.object o) = .ok direct :=
    snapshotDirectConnectionParameters_object (own_ne_accessor_of_snapshot hinput)
  have hread (name : ConnectionParameterName) :
      direct.parameter name = .ok ((input name).orElse .undefined) := by
    rw [← held_of_snapshot hinput (hnull name)]
    exact parameter_of_snapshot hinput name
  obtain ⟨userText, password, ticket, credential, huserText, hpassword, hticket, hcredential,
    hplanFor⟩ := credential_of_authentication hauthentication huser fun name _ => hread name
  rw [hrouter] at hrouteString
  have hsupported := rejectUnsupported_eq (parameter_of_snapshot hinput wshost)
    (by rw [hread saprouter, saprouter_undefined hrouteString]; rfl)
    (by rw [hread sncMode, sncMode_undefined hinput]; rfl)
  refine ⟨⟨normalized, userText, credential⟩, ?_, ?_⟩
  · exact normalizedDirectConnectionFromPlan_eq (hplanRoute.trans hshape)
      (hplanLogon.trans hlogon) hplanFor
  · rw [normalizeDirectConnectionParameters, hsnapshot, ok_bind]
    split
    · rename_i hwshost
      rw [if_pos hwshost] at hsupported
      refine normalizeDirect_of_route (fun name hname => ?_) hnormalized hsupported huserText
        hpassword hticket hcredential
      rw [hread name, hpickedRead name, if_pos hname]
    · rename_i hwshost
      rw [if_neg hwshost] at hsupported
      rw [normalizeDirectConnectionParameterSnapshot, hsupported]
      rfl

/-- Is the plan a direct one for a user, without a proxy? -/
def ConnectionRoutePlan.isPlainDirect (plan : ConnectionRoutePlan) : Bool :=
  plan.route.isDirect && !plan.authentication.isPrincipalPropagation && plan.sapRouter == none &&
    plan.connectivityProxy == none && plan.connectivitySocks5 == none

theorem directConnections_agree_sample :
    ∃ plan connection, planConnectionRoute (.object (sampleParameters [] (by decide))) = .ok plan ∧
      normalizedDirectConnectionFromPlan plan = .ok connection ∧
      normalizeDirectConnectionParameters (.object (sampleParameters [] (by decide))) =
        .ok connection := by
  have hplain : (planConnectionRoute (.object (sampleParameters [] (by decide)))).toOption.any
      ConnectionRoutePlan.isPlainDirect = true := by decide +kernel
  obtain ⟨plan, hplan, hplain⟩ := (Option.any_eq_true _ _).mp hplain
  have hplan := toOption_eq_some.mp hplan
  simp only [ConnectionRoutePlan.isPlainDirect, Bool.and_eq_true, Bool.not_eq_true',
    beq_iff_eq] at hplain
  obtain ⟨⟨⟨⟨hdirect, huser⟩, hrouter⟩, -⟩, -⟩ := hplain
  have hupper (name : ConnectionParameterName) :
      (sampleParameters [] (by decide)).value (name.key true) = .undefined := by
    simp [ParameterObject.value, sampleParameters, ParameterObject.own_ofNames]
  have hwshost : (sampleParameters [] (by decide)).held wshost = .undefined := by decide +kernel
  obtain ⟨connection, hprojected, hnormalized⟩ := directConnections_agree hplan hdirect huser hrouter
    fun name => by rw [hupper name]; simp
  rw [if_pos hwshost] at hnormalized
  exact ⟨plan, connection, hplan, hprojected, hnormalized⟩

/-- The host of an application server takes precedence in the plan; the other normalization refuses
the host of a WebSocket next to it. -/
theorem wshost_refused :
    ∃ plan, planConnectionRoute (.object (sampleParameters [wshost] (by decide))) = .ok plan ∧
      plan.isPlainDirect = true ∧
      ¬∃ connection, normalizeDirectConnectionParameters
        (.object (sampleParameters [wshost] (by decide))) = .ok connection := by
  have hplain : (planConnectionRoute
      (.object (sampleParameters [wshost] (by decide)))).toOption.any
        ConnectionRoutePlan.isPlainDirect = true := by decide +kernel
  have hrefused : (normalizeDirectConnectionParameters
      (.object (sampleParameters [wshost] (by decide)))).isOk = false := by decide +kernel
  obtain ⟨plan, hplan, hplain⟩ := (Option.any_eq_true _ _).mp hplain
  refine ⟨plan, toOption_eq_some.mp hplan, hplain, ?_⟩
  rintro ⟨connection, hconnection⟩
  rw [hconnection] at hrefused
  cases hrefused

end Agreement

end OpenRfc.Connection
