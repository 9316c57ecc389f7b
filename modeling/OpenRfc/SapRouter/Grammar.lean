import OpenRfc.SapRouter.Route
import Mathlib.Data.Nat.Digits.Lemmas

/-!
The language of route strings: `/H/host[/S/service][/W/password]`, once for every hop. The
parser splits at a delimiter which also stands before the keywords; since a host has two
characters at least, a part which the parser expects to be a keyword is never a host, and
the hops can be read back from the parts of a route in one way only.
-/

namespace OpenRfc.SapRouter
open Delimited

def attributeParts (service : Option (RouteField .service))
    (password : Option (RouteField .password)) : List Text :=
  (service.elim [] fun service => [['S'], service.1]) ++
    (password.elim [] fun password => [['W'], password.1])

def InternalSapRouterHop.parts (hop : InternalSapRouterHop) : List Text :=
  ['H'] :: hop.host.1 :: attributeParts hop.service hop.password

def routeParts (hops : List InternalSapRouterHop) : List Text :=
  hops.flatMap InternalSapRouterHop.parts

/-- The text of a list of hops. -/
def routeString (hops : List InternalSapRouterHop) : Text := led '/' (routeParts hops)

/-- The strings of the grammar, with the hops they stand for. -/
structure RouteString (text : Text) (hops : List InternalSapRouterHop) : Prop where
  text_eq : text = routeString hops
  two_le : 2 ≤ hops.length
  hops_le : hops.length ≤ SAPROUTER_MAX_ROUTE_HOPS
  last_open : ∀ hop ∈ hops.getLast?, hop.password = none
  length_le : text.length ≤ SAPROUTER_MAX_ROUTE_BYTES

@[simp] theorem routeParts_append (hops hops' : List InternalSapRouterHop) :
    routeParts (hops ++ hops') = routeParts hops ++ routeParts hops' :=
  List.flatMap_append

@[simp] theorem routeParts_cons (hop : InternalSapRouterHop) (hops : List InternalSapRouterHop) :
    routeParts (hop :: hops) = hop.parts ++ routeParts hops := rfl

@[simp] theorem routeParts_nil : routeParts [] = [] := rfl

section Fields

theorem printable_of_alphanum {c : Char} (h : c.isAlphanum) : isPrintable c ∧ c ≠ '/' := by
  have hc : c.val.toNat = c.toNat := rfl
  have h : ((decide (65 ≤ c.val ∧ c.val ≤ 90) || (97 ≤ c.val && c.val ≤ 122)) ||
      (48 ≤ c.val && c.val ≤ 57)) = true := h
  simp only [Bool.or_eq_true, Bool.and_eq_true, decide_eq_true_eq, UInt32.le_iff_toNat_le,
    UInt32.reduceToNat, hc] at h
  constructor
  · simp only [isPrintable, Bool.and_eq_true, decide_eq_true_eq]
    omega
  · rintro rfl
    have : '/'.toNat = 47 := rfl
    omega

theorem printable_of_punctuation :
    ∀ c ∈ ['_', '.', ':', '%', '[', ']', '-'], isPrintable c ∧ c ≠ '/' := by
  simp [isPrintable]

theorem printable_of_admits {kind : FieldKind} {c : Char} (h : kind.admits c) :
    isPrintable c ∧ c ≠ '/' := by
  cases kind with
  | password => simpa [FieldKind.admits] using h
  | host =>
      simp only [FieldKind.admits, Bool.or_eq_true, decide_eq_true_eq] at h
      exact h.elim printable_of_alphanum (printable_of_punctuation c)
  | service =>
      simp only [FieldKind.admits, Bool.or_eq_true, decide_eq_true_eq] at h
      apply h.elim printable_of_alphanum
      intro hp
      apply printable_of_punctuation
      simp only [List.mem_cons, List.not_mem_nil, or_false] at hp ⊢
      rcases hp with rfl | rfl | rfl <;> simp

theorem RouteField.ne_slash {kind : FieldKind} (field : RouteField kind) : '/' ∉ field.1 :=
  fun h => (printable_of_admits (field.2.2.2 _ h)).2 rfl

theorem RouteField.printable {kind : FieldKind} (field : RouteField kind) :
    ∀ c ∈ field.1, isPrintable c :=
  fun _ h => (printable_of_admits (field.2.2.2 _ h)).1

/-- No field of a route is empty. -/
theorem RouteField.ne_nil {kind : FieldKind} (field : RouteField kind) : field.1 ≠ [] := by
  have h := field.2.1
  intro he
  rw [he] at h
  cases kind <;> simp [FieldKind.shortest] at h

@[simp] theorem routeField_val {kind : FieldKind} (field : RouteField kind) :
    routeField (some field.1) kind = .ok field := by
  exact dif_pos field.2

theorem eq_of_routeField {kind : FieldKind} {value : Option Text} {field : RouteField kind}
    (h : routeField value kind = .ok field) : value = some field.1 := by
  cases value with
  | none => exact absurd h ne_invalidRoute
  | some value =>
      simp only [routeField] at h
      split at h
      · cases h
        rfl
      · exact absurd h ne_invalidRoute

theorem mem_attributeParts {service : Option (RouteField .service)}
    {password : Option (RouteField .password)} {part : Text}
    (h : part ∈ attributeParts service password) :
    part = ['S'] ∨ part = ['W'] ∨ (∃ kind, ∃ field : RouteField kind, part = field.1) := by
  rw [attributeParts, List.mem_append] at h
  rcases h with h | h
  · cases service with
    | none => cases h
    | some service =>
        simp only [Option.elim_some, List.mem_cons, List.not_mem_nil, or_false] at h
        rcases h with h | h
        · exact .inl h
        · exact .inr (.inr ⟨_, service, h⟩)
  · cases password with
    | none => cases h
    | some password =>
        simp only [Option.elim_some, List.mem_cons, List.not_mem_nil, or_false] at h
        rcases h with h | h
        · exact .inr (.inl h)
        · exact .inr (.inr ⟨_, password, h⟩)

theorem mem_routeParts {hops : List InternalSapRouterHop} {part : Text}
    (h : part ∈ routeParts hops) :
    part ∈ [['H'], ['S'], ['W']] ∨ ∃ kind, ∃ field : RouteField kind, part = field.1 := by
  obtain ⟨hop, -, h⟩ := List.mem_flatMap.mp h
  rw [InternalSapRouterHop.parts, List.mem_cons, List.mem_cons] at h
  rcases h with rfl | rfl | h
  · exact .inl (by simp)
  · exact .inr ⟨_, hop.host, rfl⟩
  · rcases mem_attributeParts h with rfl | rfl | h
    · exact .inl (by simp)
    · exact .inl (by simp)
    · exact .inr h

theorem slash_not_mem_routeParts {hops : List InternalSapRouterHop} :
    ∀ part ∈ routeParts hops, '/' ∉ part := by
  intro part h
  rcases mem_routeParts h with h | ⟨kind, field, rfl⟩
  · have hk : ∀ p ∈ [['H'], ['S'], ['W']], '/' ∉ p := by decide
    exact hk part h
  · exact field.ne_slash

theorem routeString_printable {hops : List InternalSapRouterHop} :
    ∀ c ∈ routeString hops, isPrintable c := by
  intro c h
  obtain ⟨part, hp, hc⟩ := List.mem_flatMap.mp h
  rcases List.mem_cons.mp hc with rfl | hc
  · decide
  · rcases mem_routeParts hp with hp | ⟨kind, field, rfl⟩
    · have hk : ∀ p ∈ [['H'], ['S'], ['W']], ∀ c ∈ p, isPrintable c := by
        simp [isPrintable]
      exact hk part hp c hc
    · exact field.printable c hc

theorem splitOn_routeString (hops : List InternalSapRouterHop) :
    (routeString hops).splitOn '/' = [] :: routeParts hops :=
  splitOn_led slash_not_mem_routeParts

end Fields

section Sound

def HopAttributes.parts (read : HopAttributes) : List Text :=
  attributeParts read.service read.password

/-- The flag of the loop says whether a password has been read. -/
def HopAttributes.Coherent (read : HopAttributes) : Prop :=
  read.passwordSeen = read.password.isSome

theorem routeAttribute_sound {token : Text} {rawValue : Option Text} {read read' : HopAttributes}
    (hc : read.Coherent) (h : routeAttribute token rawValue read = .ok read') :
    read'.Coherent ∧ ∃ value, rawValue = some value ∧ read'.parts = read.parts ++ [token, value] := by
  unfold routeAttribute at h
  split at h
  · rename_i ht
    split at h
    · exact absurd h ne_invalidRoute
    · rename_i hr
      obtain ⟨service, hs, h⟩ := Fallible.bind_eq_ok.mp h
      cases h
      rw [not_or, not_not] at hr
      have hp : read.password = none := by
        have := hc
        simp_all [HopAttributes.Coherent]
      refine ⟨hc, service.1, eq_of_routeField hs, ?_⟩
      simp [HopAttributes.parts, attributeParts, hr.1, hp, ht]
  · split at h
    · rename_i ht
      split at h
      · exact absurd h ne_invalidRoute
      · rename_i hr
        obtain ⟨password, hs, h⟩ := Fallible.bind_eq_ok.mp h
        cases h
        have hp : read.password = none := by
          have := hc
          simp_all [HopAttributes.Coherent]
        refine ⟨rfl, password.1, eq_of_routeField hs, ?_⟩
        simp [HopAttributes.parts, attributeParts, hp, ht]
    · exact absurd h ne_invalidRoute

/-- The parts which a hop has consumed and those which it leaves are the parts before it. -/
theorem routeAttributes_sound {parts rest : List Text} {read read' : HopAttributes}
    (hc : read.Coherent) (h : routeAttributes parts read = .ok (read', rest)) :
    read.parts ++ parts = read'.parts ++ rest := by
  fun_induction routeAttributes parts read with
  | case1 read =>
      cases h
      rfl
  | case2 read =>
      cases h
      rfl
  | case3 token read ht =>
      obtain ⟨next, hn, h⟩ := Fallible.bind_eq_ok.mp h
      obtain ⟨-, value, hv, -⟩ := routeAttribute_sound hc hn
      cases hv
  | case4 rawValue more read =>
      cases h
      rfl
  | case5 token rawValue more read ht ih =>
      obtain ⟨next, hn, h⟩ := Fallible.bind_eq_ok.mp h
      obtain ⟨hc', value, hv, hp⟩ := routeAttribute_sound hc hn
      cases hv
      rw [← ih next hc' h, hp]
      simp

theorem routeHops_sound {turns : Nat} {parts : List Text} {hops hops' : List InternalSapRouterHop}
    (h : routeHops turns parts hops = .ok hops') :
    routeParts hops ++ parts = routeParts hops' := by
  induction turns generalizing parts hops with
  | zero =>
      cases parts with
      | nil =>
          cases h
          simp
      | cons part rest => exact absurd h ne_invalidRoute
  | succ turns ih =>
      cases parts with
      | nil =>
          cases h
          simp
      | cons part rest =>
          obtain ⟨turns', host, read, rest', ht, rfl, hh, hr, -, h⟩ := routeHops_cons h
          cases ht
          have hc : HopAttributes.Coherent ⟨none, none, false⟩ := rfl
          have hs := routeAttributes_sound hc hr
          have hrest : rest = host.1 :: rest.tail := by
            rw [List.cons_head?_tail (eq_of_routeField hh)]
          rw [← ih h, hrest]
          simp only [HopAttributes.parts, attributeParts, Option.elim_none, List.nil_append] at hs
          simp [hs, InternalSapRouterHop.parts, attributeParts]

end Sound

section Complete

/-- A hop ends where the parts do or where the next hop starts. -/
def HopEnd (rest : List Text) : Prop := rest = [] ∨ rest.head? = some ['H']

theorem hopEnd_routeParts (hops : List InternalSapRouterHop) : HopEnd (routeParts hops) := by
  cases hops with
  | nil => exact .inl rfl
  | cons hop hops => exact .inr rfl

theorem routeAttributes_hopEnd {rest : List Text} (h : HopEnd rest) (read : HopAttributes) :
    routeAttributes rest read = .ok (read, rest) := by
  rcases h with rfl | h
  · rfl
  · match rest, h with
    | [token], h =>
      cases h
      rfl
    | token :: rawValue :: more, h =>
      cases h
      rfl

theorem routeAttributes_attributeParts {rest : List Text} (h : HopEnd rest)
    (service : Option (RouteField .service)) (password : Option (RouteField .password)) :
    routeAttributes (attributeParts service password ++ rest) ⟨none, none, false⟩ =
      .ok (⟨service, password, password.isSome⟩, rest) := by
  cases service <;> cases password <;>
    simp [attributeParts, routeAttributes, routeAttribute, routeAttributes_hopEnd h, pure,
      Except.pure]

theorem routeHops_routeParts {turns : Nat} {hops done : List InternalSapRouterHop}
    (ht : hops.length ≤ turns) (hl : done.length + hops.length ≤ SAPROUTER_MAX_ROUTE_HOPS) :
    routeHops turns (routeParts hops) done = .ok (done ++ hops) := by
  induction hops generalizing turns done with
  | nil => cases turns <;> simp [routeHops]
  | cons hop hops ih =>
      cases turns with
      | zero => cases ht
      | succ turns =>
          rw [List.length_cons] at ht hl
          have hi := @ih turns (done ++ [hop]) (by omega)
            (by rw [List.length_append, List.length_singleton]; omega)
          have ha := routeAttributes_attributeParts (hopEnd_routeParts hops)
            hop.service hop.password
          have hn : ¬ (done ++ [hop]).length > SAPROUTER_MAX_ROUTE_HOPS := by
            rw [List.length_append, List.length_singleton]
            omega
          simp only [routeParts_cons, InternalSapRouterHop.parts, List.cons_append, routeHops,
            ne_eq, not_true_eq_false, if_false, List.head?_cons, routeField_val, List.tail_cons,
            ha, Fallible.ok_bind, if_neg hn, hi]
          simp

theorem routeParts_injective {hops hops' : List InternalSapRouterHop}
    (h : routeParts hops = routeParts hops') : hops = hops' := by
  induction hops generalizing hops' with
  | nil =>
      cases hops' with
      | nil => rfl
      | cons hop' hops' => cases h
  | cons hop hops ih =>
      cases hops' with
      | nil => cases h
      | cons hop' hops' =>
          simp only [routeParts_cons, InternalSapRouterHop.parts, List.cons_append,
            List.cons.injEq, true_and] at h
          -- The attributes of a hop end where the next keyword `H` stands.
          have ha := routeAttributes_attributeParts (hopEnd_routeParts hops)
            hop.service hop.password
          rw [h.2, routeAttributes_attributeParts (hopEnd_routeParts hops')] at ha
          simp only [Except.ok.injEq, Prod.mk.injEq, HopAttributes.mk.injEq] at ha
          rw [ih ha.2.symm, List.cons_eq_cons]
          refine ⟨?_, rfl⟩
          obtain ⟨host, service, password⟩ := hop
          obtain ⟨host', service', password'⟩ := hop'
          cases ha.1.1
          cases ha.1.2.1
          cases Subtype.ext h.1
          rfl

/-- The hops of a route are determined by its text. -/
theorem routeString_injective {hops hops' : List InternalSapRouterHop}
    (h : routeString hops = routeString hops') : hops = hops' :=
  routeParts_injective (led_injective slash_not_mem_routeParts slash_not_mem_routeParts h)

end Complete

section Admission

theorem internalHopByteLength_le (hop : InternalSapRouterHop) :
    internalHopByteLength hop ≤ (led '/' hop.parts).length := by
  unfold internalHopByteLength InternalSapRouterHop.parts attributeParts optionalText
  cases hop.service <;> cases hop.password <;> simp <;> omega

/-- The encoded length of a route never exceeds the length of its text. -/
theorem routeByteLength_le (hops : List InternalSapRouterHop) :
    routeByteLength hops ≤ (routeString hops).length := by
  induction hops with
  | nil => exact Nat.le_refl 0
  | cons hop hops ih =>
      have hh := internalHopByteLength_le hop
      simp only [routeByteLength, List.map_cons, List.sum_cons, routeString, routeParts_cons,
        led_append, List.length_append] at ih ⊢
      omega

theorem two_mul_length_le (hops : List InternalSapRouterHop) :
    2 * hops.length ≤ (routeParts hops).length := by
  induction hops with
  | nil => exact Nat.le_refl 0
  | cons hop hops ih =>
      simp only [routeParts_cons, InternalSapRouterHop.parts, List.length_cons,
        List.length_append]
      omega

/-- What the parser has admitted, and what it makes of it. -/
theorem admitSapRouterRoute_ok {text : Text} {route : AdmittedSapRouterRoute}
    (h : admitSapRouterRoute (.string text) = .ok route) :
    RouteString text route.internal.hops ∧ route = admitted route.internal := by
  simp only [admitSapRouterRoute] at h
  split at h
  · exact absurd h ne_invalidRoute
  · rename_i ht
    split at h
    · exact absurd h ne_invalidRoute
    · rename_i hp
      rw [not_or, not_not] at hp
      split at h
      · cases h
      · rename_i hops hr
        unfold admitHops at h
        split at h
        · rename_i hh
          split at h
          · cases h
            have hs := routeHops_sound hr
            have hparts : text.splitOn '/' = [] :: (text.splitOn '/').tail :=
              (List.cons_head?_tail hp.1).symm
            rw [routeParts_nil, List.nil_append] at hs
            rw [hs] at hparts
            exact ⟨⟨eq_led_of_splitOn hparts, hh.1, routeHops_length_le hr (Nat.zero_le _), hh.2,
              by omega⟩, rfl⟩
          · exact absurd h ne_invalidRoute
        · exact absurd h ne_invalidRoute

theorem admitSapRouterRoute_routeString {text : Text} {hops : List InternalSapRouterHop}
    (h : RouteString text hops) :
    ∃ route, admitSapRouterRoute (.string text) = .ok route ∧ route.internal.hops = hops := by
  obtain ⟨rfl, h2, hm, ho, hl⟩ := h
  have hp := two_mul_length_le hops
  have hr := @routeHops_routeParts ((routeParts hops).length + 1) hops []
    (by omega) (by simpa using hm)
  have hne : routeString hops ≠ [] := by
    intro he
    have hs := splitOn_routeString hops
    rw [he, List.splitOn_nil] at hs
    have hz : routeParts hops = [] := (List.tail_eq_of_cons_eq hs).symm
    rw [hz, List.length_nil] at hp
    omega
  have hprint : (routeString hops).all isPrintable := List.all_eq_true.mpr routeString_printable
  have hb := Nat.le_trans (routeByteLength_le hops) hl
  have hn : ¬ ((routeString hops).length > SAPROUTER_MAX_ROUTE_BYTES ∨ routeString hops = [] ∨
      ¬ (routeString hops).all isPrintable) := by
    rintro (h | h | h)
    · omega
    · exact hne h
    · exact h hprint
  have hk : ¬ (((routeString hops).splitOn '/').head? ≠ some [] ∨
      ((routeString hops).splitOn '/').length < 5) := by
    rw [splitOn_routeString]
    simp only [List.head?_cons, ne_eq, not_true_eq_false, List.length_cons, false_or]
    omega
  simp only [admitSapRouterRoute, if_neg hn, if_neg hk]
  split
  · rename_i e he
    rw [splitOn_routeString, List.length_cons, List.tail_cons, hr] at he
    cases he
  · rename_i hops' he
    have hh : hops' = hops := by
      rw [splitOn_routeString, List.length_cons, List.tail_cons, hr] at he
      cases he
      rfl
    subst hh
    unfold admitHops
    rw [dif_pos ⟨h2, ho⟩, dif_pos hb]
    exact ⟨_, rfl, rfl⟩

/-- Exactly the strings of the grammar are admitted, as the hops they stand for. -/
theorem admitSapRouterRoute_iff {text : Text} {hops : List InternalSapRouterHop} :
    (∃ route, admitSapRouterRoute (.string text) = .ok route ∧ route.internal.hops = hops) ↔
      RouteString text hops := by
  constructor
  · rintro ⟨route, hr, rfl⟩
    exact (admitSapRouterRoute_ok hr).1
  · exact admitSapRouterRoute_routeString

end Admission
end OpenRfc.SapRouter
