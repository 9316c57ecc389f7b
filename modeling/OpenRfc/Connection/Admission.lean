import OpenRfc.Connection.Route

/-!
What is known of a parameter object whose plan has been made: each name is held under one spelling,
and every part of the plan passed its checks.
-/

namespace OpenRfc.Connection
open Fallible ConnectionParameterName

section Snapshots
variable {name : ConnectionParameterName}

theorem canonicalParameter_eq_some {key : JsString} :
    canonicalParameter key = some name ↔ name ≠ sncMode ∧ ∃ upper, key = name.key upper := by
  have hspelled (name : ConnectionParameterName) :
      key = name.key false ∨ key = name.key true ↔ ∃ upper, key = name.key upper := by
    simp [Bool.exists_bool]
  constructor
  · intro h
    have hkey := List.find?_some h
    exact ⟨mem_connectionParameterNames.mp (List.mem_of_find?_eq_some h),
      (hspelled name).mp (of_decide_eq_true hkey)⟩
  · rintro ⟨hname, upper, rfl⟩
    have hsome : (canonicalParameter (name.key upper)).isSome = true := by
      rw [canonicalParameter, List.find?_isSome]
      refine ⟨name, mem_connectionParameterNames.mpr hname, decide_eq_true ?_⟩
      cases upper with
      | false => exact .inl rfl
      | true => exact .inr rfl
    obtain ⟨name', hname'⟩ := Option.isSome_iff_exists.mp hsome
    have hfound := hname'
    rw [canonicalParameter] at hfound
    have hkey := List.find?_some hfound
    rw [decide_eq_true_eq] at hkey
    have hsame : name' = name := by
      rcases hkey with hkey | hkey <;> exact (key_inj.mp hkey).1.symm
    rw [hname', hsame]

/-- A property which the loop reads. -/
theorem snapshotProperty_eq_ok {state state' : SnapshotState}
    {property : ParameterKey × PropertyDescriptor} (h : snapshotProperty state property = .ok state') :
    ∃ name upper value, property = (.string (name.key upper), .data value) ∧ name ≠ sncMode ∧
      name ∉ state.seen ∧
      state' = ⟨name :: state.seen, Function.update state.snapshot name value⟩ := by
  obtain ⟨key, descriptor⟩ := property
  cases key with
  | symbol id => cases h
  | string key =>
      rw [snapshotProperty] at h
      split at h
      · cases h
      · rename_i name hname
        split at h
        · cases h
        · rename_i hseen
          split at h
          · cases h
          · rename_i value
            obtain ⟨hplanned, upper, rfl⟩ := canonicalParameter_eq_some.mp hname
            exact ⟨name, upper, value, rfl, hplanned, hseen, (Except.ok.inj h).symm⟩

/-- The properties which the loop has read, from a state in which some names have been seen. -/
structure Snapshotted (properties : List (ParameterKey × PropertyDescriptor))
    (state state' : SnapshotState) : Prop where
  kept : ∀ name ∈ state.seen, state'.snapshot name = state.snapshot name
  read : ∀ property ∈ properties, ∃ name upper value,
    property = (.string (name.key upper), .data value) ∧ name ≠ sncMode ∧ name ∉ state.seen ∧
      state'.snapshot name = value
  absent : ∀ name, (∀ upper descriptor, (.string (name.key upper), descriptor) ∉ properties) →
    state'.snapshot name = state.snapshot name
  once : ∀ (name : ConnectionParameterName) (descriptor descriptor' : PropertyDescriptor),
    (.string (name.key false), descriptor) ∈ properties →
      (.string (name.key true), descriptor') ∉ properties

theorem snapshotted_of_foldlM {properties : List (ParameterKey × PropertyDescriptor)}
    {state state' : SnapshotState} (h : properties.foldlM snapshotProperty state = .ok state') :
    Snapshotted properties state state' := by
  induction properties generalizing state with
  | nil =>
      obtain rfl : state = state' := Except.ok.inj h
      exact ⟨fun _ _ => rfl, by simp, fun _ _ => rfl, by simp⟩
  | cons property properties ih =>
      rw [List.foldlM_cons, bind_eq_ok] at h
      obtain ⟨next, hnext, h⟩ := h
      obtain ⟨name, upper, value, rfl, hplanned, hseen, rfl⟩ := snapshotProperty_eq_ok hnext
      obtain ⟨hkept, hread, habsent, honce⟩ := ih h
      have hvalue : state'.snapshot name = value := by
        simpa using hkept name (List.mem_cons_self ..)
      -- No later property is held under the name.
      have hlater : ∀ upper' descriptor,
          (.string (name.key upper'), descriptor) ∉ properties := by
        intro upper' descriptor hmem
        obtain ⟨name', _, _, hproperty, -, hname', -⟩ := hread _ hmem
        obtain ⟨hkey, -⟩ := Prod.mk.inj hproperty
        obtain ⟨rfl, -⟩ := key_inj.mp (ParameterKey.string.inj hkey)
        exact hname' (List.mem_cons_self ..)
      constructor
      case kept =>
        intro name' hname'
        have hne : name' ≠ name := fun he => hseen (he ▸ hname')
        simpa [hne] using hkept name' (List.mem_cons_of_mem _ hname')
      case read =>
        intro property hproperty
        rcases List.mem_cons.mp hproperty with rfl | hproperty
        · exact ⟨name, upper, value, rfl, hplanned, hseen, hvalue⟩
        · obtain ⟨name', upper', value', rfl, hplanned', hseen', hvalue'⟩ := hread _ hproperty
          exact ⟨name', upper', value', rfl, hplanned',
            fun he => hseen' (List.mem_cons_of_mem _ he), hvalue'⟩
      case absent =>
        intro name' hname'
        have hne : name' ≠ name := by
          rintro rfl
          exact hname' upper (.data value) (List.mem_cons_self ..)
        rw [habsent name' fun upper' descriptor hmem =>
          hname' upper' descriptor (List.mem_cons_of_mem _ hmem)]
        exact Function.update_of_ne hne ..
      case once =>
        intro name' descriptor descriptor' hlower hupper
        rcases List.mem_cons.mp hlower with hfirst | hrest
        · obtain ⟨hkey, -⟩ := Prod.mk.inj hfirst
          obtain ⟨rfl, rfl⟩ := key_inj.mp (ParameterKey.string.inj hkey)
          rcases List.mem_cons.mp hupper with hsecond | hsecond
          · simp [key_inj] at hsecond
          · exact hlater _ _ hsecond
        · rcases List.mem_cons.mp hupper with hsecond | hsecond
          · obtain ⟨hkey, -⟩ := Prod.mk.inj hsecond
            obtain ⟨rfl, rfl⟩ := key_inj.mp (ParameterKey.string.inj hkey)
            exact hlater _ _ hrest
          · exact honce name' descriptor descriptor' hrest hsecond

variable {o : ParameterObject} {snapshot : ConnectionParameterSnapshot}

/-- The spellings of one name: at most one is held, and it is held as data. -/
inductive Spelled (o : ParameterObject) (snapshot : ConnectionParameterSnapshot)
    (name : ConnectionParameterName) : Prop
  | absent (none : ∀ upper, o.own (name.key upper) = none) (undefined : snapshot name = .undefined)
  | held (upper : Bool) (planned : name ≠ sncMode)
      (data : o.own (name.key upper) = some (.data (snapshot name)))
      (other : o.own (name.key !upper) = none)

theorem spelled_of_snapshot (h : snapshotConnectionParameters (.object o) = .ok snapshot)
    (name : ConnectionParameterName) : Spelled o snapshot name := by
  simp only [snapshotConnectionParameters, bind_eq_ok, require_eq_ok] at h
  obtain ⟨-, -, -, -, state, hstate, h⟩ := h
  obtain rfl := Except.ok.inj h
  obtain ⟨-, hread, habsent, honce⟩ := snapshotted_of_foldlM hstate
  have hown {upper : Bool} {descriptor : PropertyDescriptor} :
      o.own (name.key upper) = some descriptor ↔
        (.string (name.key upper), descriptor) ∈ o.properties.entries :=
    OrderedMap.get_eq_some_iff
  by_cases hnone : ∀ upper, o.own (name.key upper) = none
  · refine .absent hnone (habsent name fun upper descriptor hmem => ?_)
    rw [← hown, hnone upper] at hmem
    cases hmem
  · obtain ⟨upper, hsome⟩ := not_forall.mp hnone
    obtain ⟨descriptor, hdescriptor⟩ := Option.ne_none_iff_exists'.mp hsome
    obtain ⟨name', _, value, hproperty, hplanned, -, hvalue⟩ := hread _ (hown.mp hdescriptor)
    obtain ⟨hkey, rfl⟩ := Prod.mk.inj hproperty
    obtain ⟨rfl, rfl⟩ := key_inj.mp (ParameterKey.string.inj hkey)
    refine .held upper hplanned (hvalue ▸ hdescriptor) ?_
    by_contra hother
    obtain ⟨descriptor', hdescriptor'⟩ := Option.ne_none_iff_exists'.mp hother
    have hfirst := hown.mp hdescriptor
    have hsecond := hown.mp hdescriptor'
    cases upper with
    | false => exact honce name _ _ hfirst hsecond
    | true => exact honce name _ _ hsecond hfirst

end Snapshots

section Readers
variable {o : ParameterObject} {snapshot : ConnectionParameterSnapshot}
  {name : ConnectionParameterName} {upper : Bool}

theorem snapshotDirectConnectionParameters_object
    (h : ∀ (name : ConnectionParameterName) upper, o.own (name.key upper) ≠ some .accessor) :
    snapshotDirectConnectionParameters (.object o) =
      .ok fun name upper => o.value (name.key upper) := by
  have hchecks : recognizedDirectParameterNames.forM (fun name => [false, true].forM fun upper =>
      require (o.own (name.key upper) ≠ some .accessor)
        s!"RFC connection parameter {(name.key upper).text} must be an own data property") =
      .ok () :=
    forM_eq_ok.mpr fun name _ => forM_eq_ok.mpr fun upper _ => require_of (h name upper)
  rw [snapshotDirectConnectionParameters, hchecks, ok_bind]

theorem own_ne_accessor_of_snapshot (h : snapshotConnectionParameters (.object o) = .ok snapshot)
    (name : ConnectionParameterName) (upper : Bool) : o.own (name.key upper) ≠ some .accessor := by
  cases spelled_of_snapshot h name with
  | absent hnone _ => simp [hnone upper]
  | held upper' _ hdata hother =>
      by_cases hsame : upper = upper'
      · simp [hsame, hdata]
      · have hnot : upper = !upper' := by cases upper <;> cases upper' <;> simp_all
        simp [hnot, hother]

/-- A name which is held under one spelling does not conflict with itself. -/
theorem parameter_of_snapshot (h : snapshotConnectionParameters (.object o) = .ok snapshot)
    (name : ConnectionParameterName) :
    DirectSnapshot.parameter (fun name upper => o.value (name.key upper)) name =
      .ok (o.held name) := by
  have hone : o.value (name.key false) = .undefined ∨ o.value (name.key true) = .undefined := by
    cases spelled_of_snapshot h name with
    | absent hnone _ => exact .inl (by simp [ParameterObject.value, hnone])
    | held upper _ hdata hother =>
        cases upper with
        | false =>
            have hupper : o.own (name.key true) = none := hother
            exact .inr (by simp [ParameterObject.value, hupper])
        | true =>
            have hlower : o.own (name.key false) = none := hother
            exact .inl (by simp [ParameterObject.value, hlower])
  rw [DirectSnapshot.parameter, require_of (hone.imp_right .inl), ok_bind]
  rfl

/-- Either reader finds the same value, unless it is `null` under a name in upper case. -/
theorem held_of_snapshot (h : snapshotConnectionParameters (.object o) = .ok snapshot)
    (hnull : o.value (name.key true) ≠ .null) :
    o.held name = (snapshot name).orElse .undefined := by
  cases spelled_of_snapshot h name with
  | absent hnone hundefined =>
      simp [ParameterObject.held, ParameterObject.value, hnone, hundefined, ParameterValue.orElse]
  | held upper _ hdata hother =>
      cases upper with
      | false =>
          have hupper : o.own (name.key true) = none := hother
          simp [ParameterObject.held, ParameterObject.value, hdata, hupper]
      | true =>
          have hlower : o.own (name.key false) = none := hother
          have hvalue : snapshot name ≠ .null := by
            simpa [ParameterObject.value, hdata] using hnull
          simp only [ParameterObject.held, ParameterObject.value, hdata, hlower]
          cases hs : snapshot name with
          | null => exact absurd hs hvalue
          | undefined | text s | number n | other id => rfl

/-- What is picked is read under its name in lower case. -/
theorem parameter_of_pick (snapshot : ConnectionParameterSnapshot)
    (names : List ConnectionParameterName) (h : names.Nodup) :
    ∃ direct : DirectSnapshot,
      snapshotDirectConnectionParameters (pick snapshot names h) = .ok direct ∧
        ∀ name, direct.parameter name =
          .ok (if name ∈ names then (snapshot name).orElse .undefined else .undefined) := by
  refine ⟨_, snapshotDirectConnectionParameters_object fun name upper => ?_, fun name => ?_⟩
  · rw [ParameterObject.own_ofNames]
    split <;> simp
  · simp only [DirectSnapshot.parameter, ParameterObject.value, ParameterObject.own_ofNames,
      List.mem_filter, decide_eq_true_eq, Bool.true_eq_false, and_false, if_false, and_true]
    by_cases hname : name ∈ names
    · by_cases hvalue : snapshot.hasValue name
      · simp [hname, hvalue, require]
      · have hundefined : snapshot name = .undefined := not_not.mp hvalue
        simp [hname, hvalue, hundefined, require, ParameterValue.orElse]
    · simp [hname, require, ParameterValue.orElse]

/-- What a direct route has read. -/
theorem normalizeDirectRoute_eq_ok {direct : DirectSnapshot}
    {normalized : NormalizedDirectRouteConnection}
    (h : normalizeDirectRouteConnectionParameterSnapshot direct = .ok normalized) :
    ∃ ashostText gwhostText sysnrText logon portNumber streaming,
      direct.requiredText ashost = .ok ashostText ∧
      checkApplicationServerHost ashostText = .ok () ∧
      direct.optionalText gwhost = .ok gwhostText ∧ systemNumber direct = .ok sysnrText ∧
      normalizeRfcLogonParameterSnapshot direct = .ok logon ∧
      gatewayPort direct sysnrText = .ok portNumber ∧ cpicStreamingPolicy direct = .ok streaming ∧
      normalized = ⟨gwhostText.getD ashostText, ashostText, portNumber,
        JsString.literal "sapdp" ++ sysnrText, logon.client, logon.language, sysnrText,
        streaming⟩ := by
  simp only [normalizeDirectRouteConnectionParameterSnapshot, bind_eq_ok] at h
  obtain ⟨⟨⟩, -, ashostText, hashost, ⟨⟩, hcheck, gwhostText, hgwhost, sysnrText, hsysnr, logon,
    hlogon, portNumber, hport, streaming, hstreaming, h⟩ := h
  exact ⟨ashostText, gwhostText, sysnrText, logon, portNumber, streaming, hashost, hcheck, hgwhost,
    hsysnr, hlogon, hport, hstreaming, (Except.ok.inj h).symm⟩

end Readers

section Plans
variable {input : ConnectionParameterSnapshot} {plan : ConnectionRoutePlan} {route : PlannedRoute}

/-- The parts of a plan. -/
theorem planSnapshot_eq_ok (h : planSnapshot input = .ok plan) :
    ∃ route capability, planRoute input = .ok route ∧
      planAuthentication input = .ok (plan.authentication, capability) ∧
      planConnectivityProxy input = .ok plan.connectivityProxy ∧
      planConnectivitySocks5 input = .ok plan.connectivitySocks5 ∧
      sapRouterRouteString input = .ok plan.sapRouter ∧
      plan.route = route.route ∧ plan.logon = route.logon := by
  simp only [planSnapshot, bind_eq_ok] at h
  obtain ⟨route, hroute, ⟨authentication, capability⟩, hauthentication, proxy, hproxy, socks5, hsocks5,
    -, -, -, -, routeString, hrouteString, -, -, -, -, h⟩ := h
  obtain rfl := Except.ok.inj h
  exact ⟨route, capability, hroute, hauthentication, hproxy, hsocks5, hrouteString, rfl, rfl⟩

/-- The hosts select the route. -/
theorem planRoute_eq_ok (h : planRoute input = .ok route) :
    rejectOrphanedRouteParameters input = .ok () ∧
      (input.hasValue ashost ∧ planDirectRoute input = .ok route ∨
        ¬input.hasValue ashost ∧ input.hasValue mshost ∧ planMessageServerRoute input = .ok route ∨
        ¬input.hasValue ashost ∧ ¬input.hasValue mshost ∧ input.hasValue wshost ∧
          planWebSocketRoute input = .ok route) := by
  rw [planRoute, bind_eq_ok] at h
  obtain ⟨⟨⟩, horphaned, h⟩ := h
  refine ⟨horphaned, ?_⟩
  rw [selectRoute] at h
  by_cases hashost : input.hasValue ashost
  · rw [if_pos hashost] at h
    exact .inl ⟨hashost, h⟩
  rw [if_neg hashost] at h
  by_cases hmshost : input.hasValue mshost
  · rw [if_pos hmshost] at h
    exact .inr (.inl ⟨hashost, hmshost, h⟩)
  rw [if_neg hmshost] at h
  by_cases hwshost : input.hasValue wshost
  · rw [if_pos hwshost] at h
    exact .inr (.inr ⟨hashost, hmshost, hwshost, h⟩)
  · rw [if_neg hwshost] at h
    cases h

theorem planDirectRoute_eq_ok (h : planDirectRoute input = .ok route) :
    ∃ normalized, normalizeDirectRouteConnectionParameters
        (pick input [ashost, gwhost, gwserv, port, sysnr, client, lang, cpicStreaming] (by decide)) =
          .ok normalized ∧
      route.route = .direct ⟨normalized.host, normalized.applicationServerHost, normalized.port,
        normalized.applicationServerService, normalized.sysnr, normalized.cpicStreaming⟩ ∧
      route.logon = ⟨normalized.client, normalized.language⟩ := by
  rw [planDirectRoute, bind_eq_ok] at h
  obtain ⟨normalized, hnormalized, h⟩ := h
  obtain rfl := Except.ok.inj h
  exact ⟨normalized, hnormalized, rfl, rfl⟩

/-- Only the host of an application server leads to a direct route. -/
theorem planDirectRoute_of_isDirect (h : planRoute input = .ok route)
    (hdirect : route.route.isDirect = true) : planDirectRoute input = .ok route := by
  obtain ⟨-, ⟨-, hroute⟩ | ⟨-, -, hroute⟩ | ⟨-, -, -, hroute⟩⟩ := planRoute_eq_ok h
  · exact hroute
  · simp only [planMessageServerRoute, bind_eq_ok] at hroute
    obtain ⟨_, -, _, -, _, -, _, -, _, -, _, -, _, -, _, -, hroute⟩ := hroute
    obtain rfl := Except.ok.inj hroute
    cases hdirect
  · simp only [planWebSocketRoute, bind_eq_ok] at hroute
    obtain ⟨_, -, _, -, _, -, hroute⟩ := hroute
    obtain rfl := Except.ok.inj hroute
    cases hdirect

end Plans

/-- A user with a password at an application server, with the hosts which are named besides. -/
def sampleParameters (names : List ConnectionParameterName)
    (h : (names ++ [ashost, sysnr, client, user, passwd]).Nodup) : ParameterObject :=
  .ofNames (names ++ [ashost, sysnr, client, user, passwd]) h fun
    | ashost => .text (JsString.literal "app.example.test")
    | sysnr => .number ⟨JsString.literal "7", nofun⟩
    | client => .text (JsString.literal "1")
    | user => .text (JsString.literal "RFCUSER")
    | passwd => .text (JsString.literal "secret")
    | mshost => .text (JsString.literal "ms.example.test")
    | wshost => .text (JsString.literal "ws.example.test")
    | _ => .undefined

end OpenRfc.Connection
