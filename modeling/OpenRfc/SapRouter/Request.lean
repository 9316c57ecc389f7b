import OpenRfc.SapRouter.Grammar
import OpenRfc.Foundation.Bytes

/-!
Completing a route prefix with the endpoint of a gateway. The prefix is checked with a fixed
endpoint; the check also shows that the prefix ends where a hop starts, so that any other
endpoint becomes one final hop as well.
-/

namespace OpenRfc.SapRouter
open Delimited Bytes

theorem admits_toDigits {n : Nat} (h : n ≤ 65535) :
    FieldKind.service.Admits (Nat.toDigits 10 n) := by
  have hl := (Nat.length_toDigits_le_iff (b := 10) (n := n) (k := 5) (by decide) (by decide)).mpr
    (by omega)
  refine ⟨?_, ?_, ?_⟩
  · exact Nat.length_toDigits_pos
  · exact Nat.le_trans hl (by decide)
  · intro c hc
    have hd := Nat.isDigit_of_mem_toDigits (by decide) (by decide) hc
    simp [FieldKind.admits, Char.isAlphanum, hd]

def portField (port : Nat) (h : port ≤ 65535) : RouteField .service :=
  ⟨Nat.toDigits 10 port, admits_toDigits h⟩

@[simp] theorem portField_val (port : Nat) (h : port ≤ 65535) :
    (portField port h).1 = Nat.toDigits 10 port := rfl

/-- The hop of an endpoint: the target of a route, which no password protects. -/
def endpoint (host : RouteField .host) (port : Nat) (h : port ≤ 65535) : InternalSapRouterHop :=
  ⟨host, some (portField port h), none⟩

/-- The text of a route prefix: complete hops and the keyword of a host. -/
def prefixString (hops : List InternalSapRouterHop) : Text := routeString hops ++ "/H/".toList

theorem prefixString_injective {hops hops' : List InternalSapRouterHop}
    (h : prefixString hops = prefixString hops') : hops = hops' :=
  routeString_injective (List.append_cancel_right h)

theorem prefixString_endpoint (hops : List InternalSapRouterHop) (host : RouteField .host)
    {port : Nat} (h : port ≤ 65535) :
    prefixString hops ++ host.1 ++ "/S/".toList ++ Nat.toDigits 10 port =
      routeString (hops ++ [endpoint host port h]) := by
  simp [prefixString, routeString, endpoint, InternalSapRouterHop.parts, attributeParts]

/-- A route whose last parts are a host and a service ends with that hop. -/
theorem exists_last_hop {hops : List InternalSapRouterHop} {parts : List Text} {host service : Text}
    (hp : routeParts hops = parts ++ [['H'], host, ['S'], service])
    (ho : ∀ hop ∈ hops.getLast?, hop.password = none) :
    ∃ front, parts = routeParts front := by
  rcases List.eq_nil_or_concat' hops with rfl | ⟨front, last, rfl⟩
  · rw [routeParts_nil] at hp
    simp at hp
  · have hw : last.password = none := ho last (by simp)
    cases hs : last.service with
    | some field =>
        refine ⟨front, ?_⟩
        simp only [routeParts_append, routeParts_cons, routeParts_nil, List.append_nil,
          InternalSapRouterHop.parts, attributeParts, hs, hw, Option.elim_some,
          Option.elim_none] at hp
        exact (List.append_inj_left' hp (by simp)).symm
    | none =>
        -- The last two parts would be a keyword `H` and a host, but the keyword there is `S`.
        have hl : (['H'] :: [last.host.1]) = (['S'] :: [service]) := by
          apply @List.append_inj_right' _ (routeParts front) _ (parts ++ [['H'], host])
          · simpa [InternalSapRouterHop.parts, attributeParts, hs, hw] using hp
          · rfl
        simp at hl

/-- The text before the last keyword of an admissible prefix is a list of complete hops,
whatever the endpoint is with which the prefix has been checked. -/
theorem exists_prefix_hops {front : Text} {host service : Text} {hops : List InternalSapRouterHop}
    (hh : '/' ∉ host) (hv : '/' ∉ service)
    (h : front ++ "/H/".toList ++ host ++ "/S/".toList ++ service = routeString hops)
    (ho : ∀ hop ∈ hops.getLast?, hop.password = none) :
    ∃ hops, front = routeString hops := by
  have ht : front ++ "/H/".toList ++ host ++ "/S/".toList ++ service =
      front ++ '/' :: ['/'].intercalate [['H'], host, ['S'], service] := by
    simp
  have hs := congrArg (List.splitOn '/') h
  rw [ht, List.splitOn_append_cons_self, splitOn_routeString, List.splitOn_intercalate] at hs
  · obtain ⟨first, parts, hf⟩ := List.exists_cons_of_ne_nil (List.splitOn_ne_nil '/' front)
    rw [hf, List.cons_append, List.cons.injEq] at hs
    obtain ⟨hops', hp⟩ := exists_last_hop hs.2.symm ho
    refine ⟨hops', ?_⟩
    rw [hs.1, hp] at hf
    exact eq_led_of_splitOn hf
  · simp [hh, hv]
  · simp

/-- What the check of a prefix establishes. -/
theorem assertSapRouterRoutePrefix_ok {pre : Value} {text : Text}
    (h : assertSapRouterRoutePrefix pre = .ok text) :
    pre = .string text ∧ ∃ hops, text = prefixString hops := by
  cases pre with
  | safeInteger n => exact absurd h ne_invalidRoute
  | other => exact absurd h ne_invalidRoute
  | string pre =>
      simp only [assertSapRouterRoutePrefix] at h
      split at h
      · exact absurd h ne_invalidRoute
      · rename_i hn
        rw [not_or, not_not] at hn
        obtain ⟨route, hr, h⟩ := Fallible.bind_eq_ok.mp h
        cases h
        obtain ⟨front, rfl⟩ := hn.1
        have hg := (admitSapRouterRoute_ok hr).1
        obtain ⟨hops, rfl⟩ := exists_prefix_hops (by decide) (by decide) hg.text_eq hg.last_open
        exact ⟨rfl, hops, rfl⟩

/-- What completion has been given, and the hops of the route it makes. -/
structure Completed (pre gatewayHost gatewayPort : Value)
    (hops : List InternalSapRouterHop) (route : AdmittedSapRouterRoute) : Prop where
  pre_eq : pre = .string (prefixString hops)
  final : ∃ host, ∃ port : Nat, ∃ h : port ≤ 65535, 1 ≤ port ∧
    gatewayHost = .string host.1 ∧ gatewayPort = .safeInteger port ∧
    route.internal.hops = hops ++ [endpoint host port h]

theorem completeSapRouterRoute_ok {pre gatewayHost gatewayPort : Value}
    {route : AdmittedSapRouterRoute}
    (h : completeSapRouterRoute pre gatewayHost gatewayPort = .ok route) :
    ∃ hops, Completed pre gatewayHost gatewayPort hops route := by
  obtain ⟨text, hp, hc⟩ := Fallible.bind_eq_ok.mp h
  clear h
  obtain ⟨rfl, hops, rfl⟩ := assertSapRouterRoutePrefix_ok hp
  obtain ⟨host, hh, h⟩ := Fallible.bind_eq_ok.mp hc
  have hv := eq_of_routeField hh
  cases gatewayPort with
  | string text => exact absurd h ne_invalidRoute
  | other => exact absurd h ne_invalidRoute
  | safeInteger port =>
      dsimp only at h
      split at h
      · exact absurd h ne_invalidRoute
      · rename_i hn
        have hport : port.toNat ≤ 65535 := by omega
        rw [prefixString_endpoint hops host hport] at h
        refine ⟨hops, rfl, host, port.toNat, hport, by omega, ?_, ?_, ?_⟩
        · cases gatewayHost with
          | string text =>
              cases hv
              rfl
          | safeInteger n => cases hv
          | other => cases hv
        · rw [Int.toNat_of_nonneg (by omega)]
        · exact (routeString_injective (admitSapRouterRoute_ok h).1.text_eq).symm

/-- The hops of a prefix are determined by it. -/
theorem Completed.hops_unique {pre gatewayHost gatewayPort : Value}
    {hops hops' : List InternalSapRouterHop} {route : AdmittedSapRouterRoute}
    (h : Completed pre gatewayHost gatewayPort hops route)
    (h' : pre = .string (prefixString hops')) : hops' = hops := by
  have he := h.pre_eq
  rw [h', Value.string.injEq] at he
  exact prefixString_injective he

/-!
The route request: a header of fixed size and the fields of the hops, every field ended by a
NUL byte. No field of a route holds that byte, so that the fields can be read back from the
payload, and with them the hops.
-/

def SAPROUTER_ROUTE_INFORMATION_VERSION : Nat := 2
def SAPROUTER_DEFAULT_NI_VERSION : Int := 40
def SAPROUTER_ROUTE_HEADER_LENGTH : Nat := 0x18

/-- `Buffer` writes the low byte of every character. -/
def ascii (text : Text) : Bytes := text.map fun c => UInt8.ofNat c.toNat

def SAPROUTER_ROUTE_EYECATCHER : Bytes := ascii "NI_ROUTE".toList ++ [0]

def normalizedNiVersion (value : Value) : Except Thrown Nat :=
  match value with
  | .safeInteger n =>
    if n < 1 ∨ n > 255 then .error (.rangeError "niVersion must be an integer in 1..255")
    else .ok n.toNat
  | _ => .error (.rangeError "niVersion must be an integer in 1..255")

def InternalSapRouterHop.fields (hop : InternalSapRouterHop) : List Bytes :=
  [ascii hop.host.1, ascii (optionalText hop.service), ascii (optionalText hop.password)]

/-- One turn of the loop over the fields, with the payload and the offset behind it. -/
def writeField (state : Bytes × Nat) (field : Bytes) : Bytes × Nat :=
  let offset := state.2 + room state.1 state.2 field
  (write (write state.1 state.2 field) offset [0], offset + 1)

def encodeSapRouterRouteRequestPayload (route : AdmittedSapRouterRoute)
    (niVersion : Option Value) : Except Thrown Bytes := do
  let internal := route.internal
  let niVersion ← normalizedNiVersion
    (niVersion.getD (.safeInteger SAPROUTER_DEFAULT_NI_VERSION))
  let payload := alloc (SAPROUTER_ROUTE_HEADER_LENGTH + internal.byteLength)
  let payload := write payload 0 SAPROUTER_ROUTE_EYECATCHER
  let payload := write payload 9 [UInt8.ofNat SAPROUTER_ROUTE_INFORMATION_VERSION]
  let payload := write payload 10 [UInt8.ofNat niVersion]
  let payload := write payload 11 [UInt8.ofNat internal.hops.length]
  let payload := write payload 12 [0]
  let payload := write payload 13 (bigEndian 2 0)
  let payload := write payload 15 [UInt8.ofNat (internal.hops.length - 1)]
  let payload := write payload 16 (bigEndian 4 internal.byteLength)
  let payload := write payload 20
    (bigEndian 4 (internal.hops.head?.elim 0 internalHopByteLength))
  let (payload, offset) := (internal.hops.flatMap InternalSapRouterHop.fields).foldl writeField
    (payload, SAPROUTER_ROUTE_HEADER_LENGTH)
  if offset ≠ payload.length then .error (.error "internal SAProuter route length mismatch")
  else return payload

/-- The header of a request. -/
def routeHeader (route : InternalSapRouterRoute) (niVersion : Nat) : Bytes :=
  SAPROUTER_ROUTE_EYECATCHER ++ [UInt8.ofNat SAPROUTER_ROUTE_INFORMATION_VERSION] ++
    [UInt8.ofNat niVersion] ++ [UInt8.ofNat route.hops.length] ++ [0] ++ bigEndian 2 0 ++
    [UInt8.ofNat (route.hops.length - 1)] ++ bigEndian 4 route.byteLength ++
    bigEndian 4 (route.hops.head?.elim 0 internalHopByteLength)

@[simp] theorem length_ascii (text : Text) : (ascii text).length = text.length := by
  simp [ascii]

theorem length_eyecatcher : SAPROUTER_ROUTE_EYECATCHER.length = 9 := by decide

theorem length_routeHeader (route : InternalSapRouterRoute) (niVersion : Nat) :
    (routeHeader route niVersion).length = SAPROUTER_ROUTE_HEADER_LENGTH := by
  simp [routeHeader, length_eyecatcher, SAPROUTER_ROUTE_HEADER_LENGTH]

section Filling

theorem writeField_alloc (filled field : Bytes) {free : Nat} (h : field.length + 1 ≤ free) :
    writeField (filled ++ alloc free, filled.length) field =
      (filled ++ (field ++ [0]) ++ alloc (free - (field.length + 1)),
        (filled ++ (field ++ [0])).length) := by
  have hr : room (filled ++ alloc free) filled.length field = field.length := by
    apply room_of_fits
    simp only [List.length_append, length_alloc]
    omega
  unfold writeField
  simp only [hr]
  rw [write_alloc filled field rfl (by omega), write_alloc (filled ++ field) [0]
    (by rw [List.length_append]) (by rw [List.length_singleton]; omega)]
  simp [Nat.sub_sub]
  omega

/-- Writing every field with its NUL byte fills exactly the room which was reserved. -/
theorem foldl_writeField (fields : List Bytes) (filled : Bytes) {free : Nat}
    (h : (ended 0 fields).length = free) :
    fields.foldl writeField (filled ++ alloc free, filled.length) =
      (filled ++ ended 0 fields, (filled ++ ended 0 fields).length) := by
  induction fields generalizing filled free with
  | nil =>
      subst h
      simp [alloc]
  | cons field fields ih =>
      simp only [ended_cons, List.length_append, List.length_cons] at h
      rw [List.foldl_cons, writeField_alloc filled field (by omega), ih _ (by omega)]
      simp

theorem length_fields (hop : InternalSapRouterHop) :
    (ended 0 hop.fields).length = internalHopByteLength hop := by
  simp [InternalSapRouterHop.fields, internalHopByteLength]
  omega

theorem length_routeFields (hops : List InternalSapRouterHop) :
    (ended 0 (hops.flatMap InternalSapRouterHop.fields)).length = routeByteLength hops := by
  induction hops with
  | nil => rfl
  | cons hop hops ih =>
      rw [List.flatMap_cons, ended_append, List.length_append, ih, length_fields]
      rfl

/-- The writes of the header, from the front to the back. -/
theorem write_routeHeader (route : InternalSapRouterRoute) (niVersion free : Nat) :
    write (write (write (write (write (write (write (write (write
      (alloc (SAPROUTER_ROUTE_HEADER_LENGTH + free)) 0 SAPROUTER_ROUTE_EYECATCHER)
      9 [UInt8.ofNat SAPROUTER_ROUTE_INFORMATION_VERSION]) 10 [UInt8.ofNat niVersion])
      11 [UInt8.ofNat route.hops.length]) 12 [0]) 13 (bigEndian 2 0))
      15 [UInt8.ofNat (route.hops.length - 1)]) 16 (bigEndian 4 route.byteLength))
      20 (bigEndian 4 (route.hops.head?.elim 0 internalHopByteLength)) =
    routeHeader route niVersion ++ alloc free := by
  have hn : alloc (SAPROUTER_ROUTE_HEADER_LENGTH + free) =
      [] ++ alloc (SAPROUTER_ROUTE_HEADER_LENGTH + free) := rfl
  have hf : SAPROUTER_ROUTE_HEADER_LENGTH + free = 24 + free := rfl
  rw [hn, write_alloc, write_alloc, write_alloc, write_alloc, write_alloc, write_alloc,
    write_alloc, write_alloc, write_alloc]
  all_goals simp only [List.nil_append, List.length_append, List.length_singleton,
    length_eyecatcher, length_bigEndian, List.length_nil]
  · unfold routeHeader
    congr 2
    omega
  all_goals omega

/-- The payload is the header and the fields, for every admitted route and every version. -/
theorem encodeSapRouterRouteRequestPayload_eq (route : AdmittedSapRouterRoute)
    (niVersion : Option Value) :
    encodeSapRouterRouteRequestPayload route niVersion =
      (normalizedNiVersion (niVersion.getD (.safeInteger SAPROUTER_DEFAULT_NI_VERSION))).map
        fun n => routeHeader route.internal n ++
          ended 0 (route.internal.hops.flatMap InternalSapRouterHop.fields) := by
  unfold encodeSapRouterRouteRequestPayload
  cases normalizedNiVersion (niVersion.getD (.safeInteger SAPROUTER_DEFAULT_NI_VERSION)) with
  | error e => rfl
  | ok n =>
      have hf := length_routeFields route.internal.hops
      rw [← route.internal.byteLength_eq] at hf
      have hw := foldl_writeField (route.internal.hops.flatMap InternalSapRouterHop.fields)
        (routeHeader route.internal n) hf
      rw [length_routeHeader] at hw
      simp only [Fallible.ok_bind, write_routeHeader, hw, ne_eq, not_true_eq_false, if_false]
      rfl

end Filling

section Reading

/-- What a payload says. -/
structure RouteRequest where
  hopCount : Nat
  remainingHops : Nat
  byteLength : Nat
  firstHopLength : Nat
  fields : List (Bytes × Bytes × Bytes)
deriving DecidableEq, Repr

def readRouteRequest (payload : Bytes) : RouteRequest where
  hopCount := number (slice payload 11 1)
  remainingHops := number (slice payload 15 1)
  byteLength := number (slice payload 16 4)
  firstHopLength := number (slice payload 20 4)
  fields := regroup ((payload.drop SAPROUTER_ROUTE_HEADER_LENGTH).splitOn 0).dropLast

def InternalSapRouterHop.encoded (hop : InternalSapRouterHop) : Bytes × Bytes × Bytes :=
  (ascii hop.host.1, ascii (optionalText hop.service), ascii (optionalText hop.password))

/-- What a payload has to say about a list of hops. -/
def routeRequest (hops : List InternalSapRouterHop) : RouteRequest where
  hopCount := hops.length
  remainingHops := hops.length - 1
  byteLength := routeByteLength hops
  firstHopLength := hops.head?.elim 0 internalHopByteLength
  fields := hops.map InternalSapRouterHop.encoded

theorem toNat_ofNat_of_printable {c : Char} (h : isPrintable c) :
    (UInt8.ofNat c.toNat).toNat = c.toNat := by
  simp only [isPrintable, Bool.and_eq_true, decide_eq_true_eq] at h
  rw [UInt8.toNat_ofNat']
  omega

theorem ascii_ne_nul {text : Text} (h : ∀ c ∈ text, isPrintable c) : 0 ∉ ascii text := by
  intro h0
  obtain ⟨c, hc, he⟩ := List.mem_map.mp h0
  have hn := toNat_ofNat_of_printable (h c hc)
  have hp := h c hc
  simp only [isPrintable, Bool.and_eq_true, decide_eq_true_eq] at hp
  rw [he, UInt8.toNat_zero] at hn
  omega

theorem ascii_injective {text text' : Text} (h : ∀ c ∈ text, isPrintable c)
    (h' : ∀ c ∈ text', isPrintable c) (he : ascii text = ascii text') : text = text' := by
  induction text generalizing text' with
  | nil =>
      cases text' with
      | nil => rfl
      | cons c' text' => cases he
  | cons c text ih =>
      cases text' with
      | nil => cases he
      | cons c' text' =>
          simp only [ascii, List.map_cons, List.cons.injEq] at he
          rw [List.forall_mem_cons] at h h'
          have hc := congrArg UInt8.toNat he.1
          rw [toNat_ofNat_of_printable h.1, toNat_ofNat_of_printable h'.1] at hc
          rw [Char.toNat_inj.mp hc, ih h.2 h'.2 he.2]

theorem optionalText_printable {kind : FieldKind} (field : Option (RouteField kind)) :
    ∀ c ∈ optionalText field, isPrintable c := by
  cases field with
  | none => simp [optionalText]
  | some field => exact field.printable

theorem optionalText_injective {kind : FieldKind} {field field' : Option (RouteField kind)}
    (h : optionalText field = optionalText field') : field = field' := by
  cases field with
  | none =>
      cases field' with
      | none => rfl
      | some field' => exact absurd h.symm field'.ne_nil
  | some field =>
      cases field' with
      | none => exact absurd h field.ne_nil
      | some field' => exact congrArg some (Subtype.ext h)

theorem encoded_injective {hop hop' : InternalSapRouterHop} (h : hop.encoded = hop'.encoded) :
    hop = hop' := by
  obtain ⟨host, service, password⟩ := hop
  obtain ⟨host', service', password'⟩ := hop'
  simp only [InternalSapRouterHop.encoded, Prod.mk.injEq] at h
  rw [Subtype.ext (ascii_injective host.printable host'.printable h.1),
    optionalText_injective (ascii_injective (optionalText_printable service)
      (optionalText_printable service') h.2.1),
    optionalText_injective (ascii_injective (optionalText_printable password)
      (optionalText_printable password') h.2.2)]

/-- Different hop lists are described differently. -/
theorem routeRequest_injective {hops hops' : List InternalSapRouterHop}
    (h : routeRequest hops = routeRequest hops') : hops = hops' := by
  have hf : hops.map InternalSapRouterHop.encoded = hops'.map InternalSapRouterHop.encoded :=
    congrArg RouteRequest.fields h
  exact List.map_injective_iff.mpr (fun _ _ => encoded_injective) hf

theorem nul_not_mem_fields {hops : List InternalSapRouterHop} :
    ∀ field ∈ hops.flatMap InternalSapRouterHop.fields, 0 ∉ field := by
  intro field h
  obtain ⟨hop, -, hf⟩ := List.mem_flatMap.mp h
  simp only [InternalSapRouterHop.fields, List.mem_cons, List.not_mem_nil, or_false] at hf
  rcases hf with rfl | rfl | rfl
  · exact ascii_ne_nul hop.host.printable
  · exact ascii_ne_nul (optionalText_printable hop.service)
  · exact ascii_ne_nul (optionalText_printable hop.password)

theorem readRouteRequest_payload (route : InternalSapRouterRoute) (niVersion : Nat) :
    readRouteRequest (routeHeader route niVersion ++
      ended 0 (route.hops.flatMap InternalSapRouterHop.fields)) = routeRequest route.hops := by
  have hm : route.hops.length ≤ 255 := route.length_le
  have h2 := route.two_le
  have hb : route.byteLength ≤ 2048 := route.byteLength_le
  have hh : route.hops.head?.elim 0 internalHopByteLength ≤ route.byteLength := by
    rw [route.byteLength_eq]
    cases route.hops with
    | nil => exact Nat.le_refl 0
    | cons hop hops => exact Nat.le_add_right _ _
  let body := ended 0 (route.hops.flatMap InternalSapRouterHop.fields)
  have hcount : slice (routeHeader route niVersion ++ body) 11 1 =
      [UInt8.ofNat route.hops.length] := by
    simp only [routeHeader, List.append_assoc]
    rw [← List.append_assoc, ← List.append_assoc, ← List.append_assoc]
    apply slice_append <;> simp [length_eyecatcher]
  have hrest : slice (routeHeader route niVersion ++ body) 15 1 =
      [UInt8.ofNat (route.hops.length - 1)] := by
    unfold routeHeader
    rw [List.append_assoc, List.append_assoc]
    apply slice_append <;> simp [length_eyecatcher]
  have htotal : slice (routeHeader route niVersion ++ body) 16 4 =
      bigEndian 4 route.byteLength := by
    unfold routeHeader
    rw [List.append_assoc]
    apply slice_append <;> simp [length_eyecatcher]
  have hfirst : slice (routeHeader route niVersion ++ body) 20 4 =
      bigEndian 4 (route.hops.head?.elim 0 internalHopByteLength) := by
    unfold routeHeader
    apply slice_append <;> simp [length_eyecatcher]
  have hbody : (routeHeader route niVersion ++ body).drop SAPROUTER_ROUTE_HEADER_LENGTH = body := by
    rw [← length_routeHeader route niVersion, List.drop_left]
  have hfields : regroup (route.hops.flatMap InternalSapRouterHop.fields) =
      route.hops.map InternalSapRouterHop.encoded :=
    regroup_flatMap _ _ _ route.hops
  simp only [readRouteRequest, routeRequest, RouteRequest.mk.injEq]
  refine ⟨?_, ?_, ?_, ?_, ?_⟩
  · rw [hcount, number_singleton, UInt8.toNat_ofNat']
    omega
  · rw [hrest, number_singleton, UInt8.toNat_ofNat']
    omega
  · rw [htotal, number_bigEndian 4 (by omega), route.byteLength_eq]
  · rw [hfirst, number_bigEndian 4 (by omega)]
  · rw [hbody, splitOn_ended nul_not_mem_fields, List.dropLast_concat, hfields]

end Reading
end OpenRfc.SapRouter
