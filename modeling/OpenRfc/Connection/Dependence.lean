import OpenRfc.Connection.Admission

/-!
The strict admission of a route: every own property of the parameter object is checked, the two
spellings of a name must not disagree, and what remains is planned.
-/

namespace OpenRfc.Connection
open Fallible ConnectionParameterName

/-- `RFC_CLIENT_ROUTE_PARAMETERS`, which are the names of the plan -/
def rfcClientRouteParameters : List ConnectionParameterName := connectionParameterNames

/-- `UNPLANNED_SEMANTIC_RFC_PARAMETERS` -/
def unplannedSemanticRfcParameters : List String :=
  ["abap_debug", "alias_user", "asxml", "cfit", "codepage", "compression_type", "delta", "dest",
    "extiddata", "extidtype", "getsso2", "lcheck", "logon_group_check_interval", "max_reg_count",
    "no_compression", "on_cce", "password_change_enforced", "pcs", "program_id", "proxy_host",
    "proxy_passwd", "proxy_port", "proxy_user", "reg_count", "saplogon_id",
    "serialization_format", "server_name", "snc_lib", "snc_mode", "snc_myname", "snc_partnername",
    "snc_partner_names", "snc_qop", "snc_sso", "sys_ids", "tls_client_certificate_logon",
    "tls_client_pse", "tls_server_partner_auth", "tls_server_pse", "tls_trust_all", "tpname",
    "trace", "use_repository_roundtrip_optimization", "use_sapgui", "use_symbolic_names",
    "use_tls", "x509cert"]

/-- `UNPLANNED_SEMANTIC_KEYS`, by the name in lower case -/
def unplannedSemanticName (key : JsString) : Option String :=
  unplannedSemanticRfcParameters.find? fun name =>
    key = JsString.literal name ∨ key = JsString.literal name.toUpper

def isRouteParameterKey (key : JsString) : Prop :=
  ∃ name ∈ rfcClientRouteParameters, key = name.key false ∨ key = name.key true

instance (key : JsString) : Decidable (isRouteParameterKey key) :=
  inferInstanceAs (Decidable (∃ name ∈ rfcClientRouteParameters, _))

def validateProperty : ParameterKey × PropertyDescriptor → Except String Unit
  | (.symbol _, _) => .error "RFC connection parameter keys must be strings"
  | (.string key, .accessor) =>
    .error s!"RFC connection parameter {key.text} must be an own data property"
  | (.string key, .data _) =>
    if isRouteParameterKey key then .ok ()
    else
      match unplannedSemanticName key with
      | some name =>
        .error s!"{name} connections are not implemented; no session provider can be selected"
      | none => .error s!"unknown RFC connection parameter {key.text}"

def validateRFCClientConnectionParameterSurface : RfcConnectionParameters → Except String Unit
  | .value => .error "RFC connection parameters must be an object"
  | .object o => do
    require (o.isProxy = false) "RFC connection parameters must not be a Proxy"
    require (o.hasCustomPrototype = false)
      "RFC connection parameters must not have a custom prototype"
    o.properties.entries.forM validateProperty

/-- The two spellings of a name have one value, if both have one. -/
def checkSpellings (o : ParameterObject) (name : ConnectionParameterName) : Except String Unit :=
  let lower := o.value (name.key false)
  let upper := o.value (name.key true)
  require (lower = .undefined ∨ upper = .undefined ∨ lower.strictlyEquals upper = true)
    s!"conflicting {(name.key false).text} and {(name.key true).text} values"

/-- The names which are given, with one value each. -/
def capturedParameters (o : ParameterObject) : ParameterObject :=
  .ofNames
    (rfcClientRouteParameters.filter fun name =>
      o.value (name.key false) ≠ .undefined ∨ o.value (name.key true) ≠ .undefined)
    ((by decide : rfcClientRouteParameters.Nodup).filter _) o.held

/-- A value which is no object holds nothing. -/
def captureRouteParameters : RfcConnectionParameters → Except String RfcConnectionParameters
  | .value => .ok (.object (capturedParameters ⟨false, false, .empty⟩))
  | .object o => do
    rfcClientRouteParameters.forM (checkSpellings o)
    .ok (.object (capturedParameters o))

def planRFCClientSessionRoute (input : RfcConnectionParameters) :
    Except String ConnectionRoutePlan := do
  validateRFCClientConnectionParameterSurface input
  planConnectionRoute (← captureRouteParameters input)


/-!
What the plan of a session is made from: of an accepted object, the values which are held under the
names, and of these the ones which the parts of the plan read.
-/

namespace ParameterObject

/-- The object in which a value stands under each spelling of a name which is there. -/
def withValue (o : ParameterObject) (name : ConnectionParameterName) (value : ParameterValue) :
    ParameterObject :=
  { o with
    properties := o.properties.adjust fun key descriptor =>
      if key = .string (name.key false) ∨ key = .string (name.key true) then .data value
      else descriptor }

variable {o : ParameterObject} {name name' : ConnectionParameterName} {value : ParameterValue}
  {upper : Bool}

theorem own_withValue :
    (o.withValue name value).own (name'.key upper) =
      if name' = name then (o.own (name'.key upper)).map fun _ => .data value
      else o.own (name'.key upper) := by
  have hkey : (ParameterKey.string (name'.key upper) = .string (name.key false) ∨
      ParameterKey.string (name'.key upper) = .string (name.key true)) ↔ name' = name := by
    simp only [ParameterKey.string.injEq, key_inj]
    cases upper <;> simp
  rw [own, withValue, OrderedMap.get_adjust]
  simp only [hkey]
  split
  · rfl
  · exact Option.map_id' ..

theorem value_withValue_of_ne (h : name' ≠ name) :
    (o.withValue name value).value (name'.key upper) = o.value (name'.key upper) := by
  rw [ParameterObject.value, own_withValue, if_neg h]
  rfl

theorem value_withValue_self :
    (o.withValue name value).value (name.key upper) =
      if o.own (name.key upper) = none then .undefined else value := by
  rw [ParameterObject.value, own_withValue, if_pos rfl]
  cases o.own (name.key upper) with
  | none => rfl
  | some descriptor => rfl

theorem held_withValue_of_ne (h : name' ≠ name) :
    (o.withValue name value).held name' = o.held name' := by
  rw [held, held, value_withValue_of_ne h, value_withValue_of_ne h]

end ParameterObject

section Session
variable {o : ParameterObject} {plan : ConnectionRoutePlan} {name : ConnectionParameterName}
  {value : ParameterValue}

/-- A value which is there, and which a comparison of the two spellings does not refuse. -/
def ParameterValue.IsGiven (value : ParameterValue) : Prop :=
  value ≠ .undefined ∧ value ≠ .null ∧ value.strictlyEquals value = true

theorem ParameterValue.IsGiven.orElse (h : value.IsGiven) (other : ParameterValue) :
    value.orElse other = value := by
  cases value with
  | undefined => exact absurd rfl h.1
  | null => exact absurd rfl h.2.1
  | text s | number n | other id => rfl

theorem held_withValue (hvalue : value.IsGiven) (hheld : ∃ upper, o.own (name.key upper) ≠ none) :
    (o.withValue name value).held = Function.update o.held name value := by
  funext name'
  by_cases hname : name' = name
  · subst hname
    rw [Function.update_self, ParameterObject.held, ParameterObject.value_withValue_self,
      ParameterObject.value_withValue_self]
    obtain ⟨upper, hupper⟩ := hheld
    by_cases hlower : o.own (name'.key false) = none
    · have hthere : o.own (name'.key true) ≠ none := by
        cases upper with
        | false => exact absurd hlower hupper
        | true => exact hupper
      rw [if_pos hlower, if_neg hthere]
      rfl
    · rw [if_neg hlower]
      exact hvalue.orElse _
  · rw [Function.update_of_ne hname]
    exact ParameterObject.held_withValue_of_ne hname

/-- The loop of the snapshot, over names which it has not seen. -/
theorem foldlM_snapshotProperty (values : ConnectionParameterName → ParameterValue)
    (names : List ConnectionParameterName) (hnodup : names.Nodup) (hplanned : sncMode ∉ names)
    (state : SnapshotState) (hseen : ∀ name ∈ names, name ∉ state.seen) :
    ∃ seen, (names.map fun name => (ParameterKey.string (name.key false),
        PropertyDescriptor.data (values name))).foldlM snapshotProperty state =
      .ok ⟨seen, fun name => if name ∈ names then values name else state.snapshot name⟩ := by
  induction names generalizing state with
  | nil => exact ⟨state.seen, by simp [pure, Except.pure]⟩
  | cons first names ih =>
      obtain ⟨hfirst, hnodup⟩ := List.nodup_cons.mp hnodup
      have hcanonical : canonicalParameter (first.key false) = some first :=
        canonicalParameter_eq_some.mpr
          ⟨fun he => hplanned (he ▸ List.mem_cons_self ..), false, rfl⟩
      have hstep : snapshotProperty state (.string (first.key false), .data (values first)) =
          .ok ⟨first :: state.seen, Function.update state.snapshot first (values first)⟩ := by
        simp only [snapshotProperty, hcanonical, if_neg (hseen first (List.mem_cons_self ..))]
      obtain ⟨seen, hrest⟩ := ih hnodup (fun h => hplanned (List.mem_cons_of_mem _ h))
        ⟨first :: state.seen, Function.update state.snapshot first (values first)⟩ fun name hname => by
          simp only [List.mem_cons, not_or]
          exact ⟨fun he => hfirst (he ▸ hname), hseen name (List.mem_cons_of_mem _ hname)⟩
      refine ⟨seen, ?_⟩
      rw [List.map_cons, List.foldlM_cons, hstep, ok_bind, hrest]
      congr 2
      funext name
      by_cases he : name = first
      · subst he
        simp [hfirst]
      · simp [he]

theorem snapshot_ofNames {values : ConnectionParameterName → ParameterValue}
    {names : List ConnectionParameterName} (hnodup : names.Nodup) (hplanned : sncMode ∉ names) :
    snapshotConnectionParameters (.object (.ofNames names hnodup values)) =
      .ok fun name => if name ∈ names then values name else .undefined := by
  obtain ⟨seen, hloop⟩ := foldlM_snapshotProperty values names hnodup hplanned
    ⟨[], fun _ => .undefined⟩ fun _ _ => List.not_mem_nil
  have hplain : (ParameterObject.ofNames names hnodup values).isProxy = false ∧
      (ParameterObject.ofNames names hnodup values).hasCustomPrototype = false := ⟨rfl, rfl⟩
  rw [snapshotConnectionParameters, require_of hplain.1, ok_bind, require_of hplain.2, ok_bind]
  simp only [ParameterObject.ofNames]
  rw [hloop]
  rfl

/-- A surface without accessors and unknown names holds no other name. -/
theorem own_sncMode_of_surface
    (h : validateRFCClientConnectionParameterSurface (.object o) = .ok ()) (upper : Bool) :
    o.own (sncMode.key upper) = none := by
  simp only [validateRFCClientConnectionParameterSurface, bind_eq_ok, forM_eq_ok] at h
  obtain ⟨_, -, _, -, hproperties⟩ := h
  by_contra hsome
  obtain ⟨descriptor, hdescriptor⟩ := Option.ne_none_iff_exists'.mp hsome
  have hvalid := hproperties _ (OrderedMap.get_eq_some_iff.mp hdescriptor)
  have hroute : ¬isRouteParameterKey (sncMode.key upper) := by
    rintro ⟨name, hname, hkey | hkey⟩
    · obtain ⟨rfl, -⟩ := key_inj.mp hkey
      exact absurd hname (by decide)
    · obtain ⟨rfl, -⟩ := key_inj.mp hkey
      exact absurd hname (by decide)
  cases descriptor with
  | accessor => cases hvalid
  | data value =>
      rw [validateProperty, if_neg hroute] at hvalid
      split at hvalid <;> cases hvalid

theorem held_sncMode_of_surface
    (h : validateRFCClientConnectionParameterSurface (.object o) = .ok ()) :
    o.held sncMode = .undefined := by
  simp [ParameterObject.held, ParameterObject.value, own_sncMode_of_surface h,
    ParameterValue.orElse]

/-- Where the surface and the spellings are admitted, what is held under the names is planned. -/
theorem planSession_eq (hsurface : validateRFCClientConnectionParameterSurface (.object o) = .ok ())
    (hspelled : ∀ name ∈ rfcClientRouteParameters, checkSpellings o name = .ok ()) :
    planRFCClientSessionRoute (.object o) = planSnapshot o.held := by
  have hplanned : sncMode ∉ rfcClientRouteParameters.filter fun name =>
      o.value (name.key false) ≠ .undefined ∨ o.value (name.key true) ≠ .undefined :=
    fun h => absurd (List.mem_of_mem_filter h) (by decide)
  have hloop : rfcClientRouteParameters.forM (checkSpellings o) = .ok () := forM_eq_ok.mpr hspelled
  rw [planRFCClientSessionRoute, hsurface, ok_bind, captureRouteParameters, hloop, ok_bind, ok_bind, planConnectionRoute, capturedParameters,
    snapshot_ofNames _ hplanned, ok_bind]
  congr 1
  funext name
  split
  · rfl
  · rename_i hname
    by_cases hsnc : name = sncMode
    · rw [hsnc]
      exact (held_sncMode_of_surface hsurface).symm
    · have hmem : name ∈ rfcClientRouteParameters := mem_connectionParameterNames.mpr hsnc
      simp only [List.mem_filter, hmem, true_and, decide_eq_true_eq, not_or, ne_eq, not_not] at hname
      rw [ParameterObject.held, hname.1, hname.2]
      rfl

theorem planSession_eq_ok (h : planRFCClientSessionRoute (.object o) = .ok plan) :
    validateRFCClientConnectionParameterSurface (.object o) = .ok () ∧
      (∀ name ∈ rfcClientRouteParameters, checkSpellings o name = .ok ()) ∧
      planSnapshot o.held = .ok plan := by
  have hplan := h
  rw [planRFCClientSessionRoute, bind_eq_ok] at h
  obtain ⟨⟨⟩, hsurface, h⟩ := h
  obtain ⟨captured, hcaptured, -⟩ := bind_eq_ok.mp h
  rw [captureRouteParameters, bind_eq_ok] at hcaptured
  obtain ⟨⟨⟩, hspelled, -⟩ := hcaptured
  have hspelled := forM_eq_ok.mp hspelled
  exact ⟨hsurface, hspelled, (planSession_eq hsurface hspelled).symm.trans hplan⟩

/-- A value which is given in place of another one meets the same checks. -/
theorem planSession_withValue (h : planRFCClientSessionRoute (.object o) = .ok plan)
    (hvalue : value.IsGiven) (hheld : ∃ upper, o.own (name.key upper) ≠ none) :
    planRFCClientSessionRoute (.object (o.withValue name value)) =
      planSnapshot (Function.update o.held name value) := by
  obtain ⟨hsurface, hspelled, -⟩ := planSession_eq_ok h
  rw [← held_withValue hvalue hheld]
  refine planSession_eq ?_ fun name' hname' => ?_
  · simp only [validateRFCClientConnectionParameterSurface, bind_eq_ok, forM_eq_ok] at hsurface ⊢
    obtain ⟨_, hproxy, _, hprototype, hproperties⟩ := hsurface
    refine ⟨_, hproxy, _, hprototype, fun property hproperty => ?_⟩
    obtain ⟨⟨key, descriptor⟩, hmem, rfl⟩ := List.mem_map.mp hproperty
    have hvalid := hproperties _ hmem
    cases key with
    | symbol id => cases hvalid
    | string key =>
        cases descriptor with
        | accessor => cases hvalid
        | data old =>
            dsimp only
            split <;> exact hvalid
  · by_cases hsame : name' = name
    · subst hsame
      rw [checkSpellings]
      refine require_of ?_
      rw [ParameterObject.value_withValue_self, ParameterObject.value_withValue_self]
      split
      · exact .inl rfl
      · split
        · exact .inr (.inl rfl)
        · exact .inr (.inr hvalue.2.2)
    · rw [checkSpellings, ParameterObject.value_withValue_of_ne hsame,
        ParameterObject.value_withValue_of_ne hsame]
      exact hspelled name' hname'

end Session

section Congruence
variable {first second : ConnectionParameterSnapshot}

theorem planAuthentication_congr
    (h : ∀ name ∈ [businessUserToken, user, passwd, mysapsso2], first name = second name) :
    planAuthentication first = planAuthentication second := by
  simp only [List.forall_mem_cons, List.not_mem_nil, false_imp_iff, implies_true, and_true] at h
  obtain ⟨htoken, huser, hpasswd, hticket⟩ := h
  unfold planAuthentication planUserAuthentication ConnectionParameterSnapshot.optionalText
    ConnectionParameterSnapshot.requiredText ConnectionParameterSnapshot.hasValue
  rw [htoken, huser, hpasswd, hticket]

theorem planConnectivityProxy_congr
    (h : ∀ name ∈ [connectivityProxyHost, connectivityProxyPort, connectivityProxyAuthentication,
      connectivitySubaccount, connectivityLocationId], first name = second name) :
    planConnectivityProxy first = planConnectivityProxy second := by
  simp only [List.forall_mem_cons, List.not_mem_nil, false_imp_iff, implies_true, and_true] at h
  obtain ⟨hhost, hport, hauthentication, hsubaccount, hlocation⟩ := h
  unfold planConnectivityProxy ConnectionParameterSnapshot.optionalText
    ConnectionParameterSnapshot.optionalAsciiText ConnectionParameterSnapshot.requiredAsciiText
    ConnectionParameterSnapshot.portParameter ConnectionParameterSnapshot.optionalText
    ConnectionParameterSnapshot.requiredText ConnectionParameterSnapshot.hasValue
  rw [hhost, hport, hauthentication, hsubaccount, hlocation]

theorem planConnectivitySocks5_congr
    (h : ∀ name ∈ [connectivitySocks5ProxyHost, connectivitySocks5ProxyPort,
      connectivitySocks5AccessToken, connectivitySocks5LocationId], first name = second name) :
    planConnectivitySocks5 first = planConnectivitySocks5 second := by
  simp only [List.forall_mem_cons, List.not_mem_nil, false_imp_iff, implies_true, and_true] at h
  obtain ⟨hhost, hport, htoken, hlocation⟩ := h
  unfold planConnectivitySocks5 planConnectivitySocks5Route ConnectionParameterSnapshot.optionalText
    ConnectionParameterSnapshot.requiredAsciiText ConnectionParameterSnapshot.portParameter
    ConnectionParameterSnapshot.requiredText ConnectionParameterSnapshot.hasValue
  rw [hhost, hport, htoken, hlocation]

theorem sapRouterRouteString_congr (h : first saprouter = second saprouter) :
    sapRouterRouteString first = sapRouterRouteString second := by
  simp only [sapRouterRouteString, ConnectionParameterSnapshot.optionalText, h]

theorem planSnapshot_congr (hroute : planRoute first = planRoute second)
    (hauthentication : planAuthentication first = planAuthentication second)
    (hproxy : planConnectivityProxy first = planConnectivityProxy second)
    (hsocks5 : planConnectivitySocks5 first = planConnectivitySocks5 second)
    (hrouter : sapRouterRouteString first = sapRouterRouteString second) :
    planSnapshot first = planSnapshot second := by
  rw [planSnapshot, planSnapshot, hroute, hauthentication, hproxy, hsocks5, hrouter]

/-- The logon of the routes without an application server. -/
theorem normalizeRfcLogon_congr (hclient : first client = second client)
    (hlang : first lang = second lang) :
    normalizeRfcLogonParameters (pick first [client, lang] (by decide)) =
      normalizeRfcLogonParameters (pick second [client, lang] (by decide)) := by
  obtain ⟨direct, hdirect, hread⟩ := parameter_of_pick first [client, lang] (by decide)
  obtain ⟨direct', hdirect', hread'⟩ := parameter_of_pick second [client, lang] (by decide)
  have hsame (name : ConnectionParameterName) (h : first name = second name) :
      direct.parameter name = direct'.parameter name := by
    rw [hread, hread', h]
  rw [normalizeRfcLogonParameters, normalizeRfcLogonParameters, hdirect, hdirect', ok_bind, ok_bind]
  simp only [normalizeRfcLogonParameterSnapshot, clientNumber, DirectSnapshot.optionalText,
    DirectSnapshot.requiredText, hsame client hclient, hsame lang hlang]

/-- Only one of the two names of a system is read. -/
theorem planMessageServerRoute_congr
    (h : ∀ name ∈ [client, lang, mshost, msserv, r3name, ConnectionParameterName.group],
      first name = second name)
    (hsysid : first sysid = second sysid ∨ first.hasValue r3name) :
    planMessageServerRoute first = planMessageServerRoute second := by
  simp only [List.forall_mem_cons, List.not_mem_nil, false_imp_iff, implies_true, and_true] at h
  obtain ⟨hclient, hlang, hmshost, hmsserv, hr3name, hgroup⟩ := h
  have hsystem : systemIdText first = systemIdText second ∧
      (first.hasValue r3name ∨ first.hasValue sysid ↔
        second.hasValue r3name ∨ second.hasValue sysid) := by
    simp only [systemIdText, ConnectionParameterSnapshot.requiredText,
      ConnectionParameterSnapshot.hasValue] at hsysid ⊢
    rcases hsysid with hsysid | hsysid
    · simp only [hr3name, hsysid, and_self]
    · have hsecond : second r3name ≠ .undefined := hr3name ▸ hsysid
      rw [if_pos hsysid, if_pos hsecond, hr3name]
      exact ⟨rfl, iff_of_true (.inl hsecond) (.inl hsecond)⟩
  simp only [planMessageServerRoute, ConnectionParameterSnapshot.requiredAsciiText,
    ConnectionParameterSnapshot.optionalAsciiText, ConnectionParameterSnapshot.optionalText,
    ConnectionParameterSnapshot.requiredText, hsystem.1, hsystem.2,
    normalizeRfcLogon_congr hclient hlang]
  simp only [ConnectionParameterSnapshot.hasValue, hmshost, hmsserv, hgroup]

theorem gatewayText_of_service {direct : DirectSnapshot} {value : ParameterValue}
    (hread : direct.parameter gwserv = .ok value) (hvalue : value ≠ .undefined) :
    gatewayText direct = (textValue gwserv value).map some := by
  rw [gatewayText, DirectSnapshot.optionalText, hread, ok_bind, optionalTextValue, if_neg hvalue]
  cases textValue gwserv value <;> rfl

/-- The port is not read where a service of the gateway is there. -/
theorem planDirectRoute_congr
    (h : ∀ name ∈ [ashost, gwhost, gwserv, sysnr, client, lang, cpicStreaming],
      first name = second name)
    (hport : first port = second port ∨ (first gwserv).orElse .undefined ≠ .undefined) :
    planDirectRoute first = planDirectRoute second := by
  simp only [List.forall_mem_cons, List.not_mem_nil, false_imp_iff, implies_true, and_true] at h
  obtain ⟨hashost, hgwhost, hgwserv, hsysnr, hclient, hlang, hstreaming⟩ := h
  obtain ⟨direct, hdirect, hread⟩ := parameter_of_pick first
    [ashost, gwhost, gwserv, port, sysnr, client, lang, cpicStreaming] (by decide)
  obtain ⟨direct', hdirect', hread'⟩ := parameter_of_pick second
    [ashost, gwhost, gwserv, port, sysnr, client, lang, cpicStreaming] (by decide)
  have hsame (name : ConnectionParameterName) (h : first name = second name) :
      direct.parameter name = direct'.parameter name := by
    rw [hread, hread', h]
  have hunread (name : ConnectionParameterName)
      (hname : name ∉ [ashost, gwhost, gwserv, port, sysnr, client, lang, cpicStreaming]) :
      direct.parameter name = direct'.parameter name := by
    rw [hread, hread', if_neg hname, if_neg hname]
  have hgateway (sysnrText : JsString) :
      gatewayPort direct sysnrText = gatewayPort direct' sysnrText := by
    have htext : gatewayText direct = gatewayText direct' := by
      rcases hport with hport | hservice
      · simp only [gatewayText, DirectSnapshot.optionalText, hsame gwserv hgwserv, hsame port hport]
      · have hread : direct.parameter gwserv = .ok ((first gwserv).orElse .undefined) := by
          rw [hread, if_pos (by decide)]
        rw [gatewayText_of_service hread hservice,
          gatewayText_of_service ((hsame gwserv hgwserv).symm.trans hread) hservice]
    rw [gatewayPort, gatewayPort, htext]
  rw [planDirectRoute, planDirectRoute, normalizeDirectRouteConnectionParameters,
    normalizeDirectRouteConnectionParameters, hdirect, hdirect', ok_bind, ok_bind]
  simp only [normalizeDirectRouteConnectionParameterSnapshot, rejectUnsupportedDirectParameters,
    systemNumber, normalizeRfcLogonParameterSnapshot, clientNumber, cpicStreamingPolicy,
    DirectSnapshot.optionalText, DirectSnapshot.requiredText, hsame ashost hashost,
    hsame gwhost hgwhost, hsame sysnr hsysnr, hsame client hclient, hsame lang hlang,
    hsame cpicStreaming hstreaming, hgateway, List.forM_eq_forM, List.forM_cons, List.forM_nil,
    hunread wshost (by decide), hunread saprouter (by decide), hunread sncMode (by decide)]

end Congruence

end OpenRfc.Connection
