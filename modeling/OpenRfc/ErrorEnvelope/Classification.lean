import OpenRfc.ErrorEnvelope.Contributions

/-!
What is classified as success, and that the order of the fields in front of the End field has
no influence on the classification.
-/

namespace OpenRfc.ErrorEnvelope
open Fallible Tally RfcErrorTag

section Fields
variable {options : RfcErrorEnvelopeDecodeOptions}

theorem checkFields_eq_ok {fields : List RfcErrorEnvelopeField} {ordinal : Nat} {u : Unit} :
    checkFields ordinal fields = .ok u ↔ ∀ field ∈ fields, 0 ≤ field.tag ∧ field.tag ≤ 0xffff := by
  induction fields generalizing ordinal with
  | nil => exact iff_of_true rfl nofun
  | cons field fields ih =>
      simp only [checkFields, bind_eq_ok, require_eq_ok, exists_const, ih, List.forall_mem_cons]

theorem findIdx_isEnd_concat {before : List RfcErrorEnvelopeField} {last : RfcErrorEnvelopeField}
    (hbefore : ∀ field ∈ before, isEnd field = false) (hlast : isEnd last = true) :
    (before ++ [last]).findIdx isEnd = before.length := by
  rw [List.findIdx_append, List.findIdx_eq_length_of_false hbefore, if_neg (Nat.lt_irrefl _),
    List.findIdx_cons, hlast]
  exact Nat.zero_add _

theorem countP_isEnd_concat (last : RfcErrorEnvelopeField)
    {before : List RfcErrorEnvelopeField} (hbefore : ∀ field ∈ before, isEnd field = false) :
    (before ++ [last]).countP isEnd = if isEnd last then 1 else 0 := by
  have hzero : before.countP isEnd = 0 := by
    apply List.countP_eq_zero.mpr
    intro field hf
    rw [hbefore field hf]
    exact Bool.false_ne_true
  rw [List.countP_append, hzero, List.countP_singleton, Nat.zero_add]

/-- The End field stands behind all others. -/
theorem findEnd_eq_ok {fields : List RfcErrorEnvelopeField} {endIndex : Nat} :
    findEnd fields = .ok endIndex ↔
      ∃ before last, fields = before ++ [last] ∧ (∀ field ∈ before, isEnd field = false) ∧
        isEnd last = true ∧ last.value = [] ∧ endIndex = before.length := by
  simp only [findEnd, bind_eq_ok, require_eq_ok, exists_const, Except.ok.injEq]
  constructor
  · rintro ⟨hpresent, ⟨hcount, hlast, hvalue⟩, rfl⟩
    rcases List.eq_nil_or_concat' fields with rfl | ⟨before, last, rfl⟩
    · cases hlast
    · rw [List.length_append, List.length_singleton, Nat.add_right_cancel_iff] at hlast
      have hbefore : ∀ field ∈ before, isEnd field = false := by
        intro field hf
        rw [List.findIdx_append] at hlast
        split at hlast
        · omega
        · rename_i hnone
          have hle : before.findIdx isEnd = before.length :=
            Nat.le_antisymm List.findIdx_le_length (Nat.not_lt.mp hnone)
          exact List.findIdx_eq_length.mp hle field hf
      have hend : isEnd last = true := by
        rw [countP_isEnd_concat _ hbefore] at hpresent
        by_contra hno
        rw [if_neg hno] at hpresent
        exact hpresent rfl
      rw [hlast, List.getElem?_concat_length, Option.map_some, Option.some.injEq] at hvalue
      exact ⟨before, last, rfl, hbefore, hend, hvalue, hlast⟩
  · rintro ⟨before, last, rfl, hbefore, hlast, hvalue, rfl⟩
    have hcount := countP_isEnd_concat last hbefore
    rw [if_pos hlast] at hcount
    have hindex := findIdx_isEnd_concat hbefore hlast
    refine ⟨by rw [hcount]; exact one_ne_zero, ⟨hcount, ?_, ?_⟩, hindex⟩
    · rw [hindex, List.length_append, List.length_singleton]
    · rw [hindex, List.getElem?_concat_length, Option.map_some, hvalue]

/-- What an accepted response consists of. -/
theorem decode_eq_ok {fields : List RfcErrorEnvelopeField} {envelope : RfcErrorEnvelope} :
    decodeRfcErrorEnvelope fields options = .ok envelope ↔
      checkOptions options = .ok () ∧ (fields.length : Int) ≤ options.maxFieldCount ∧
        (∀ field ∈ fields, 0 ≤ field.tag ∧ field.tag ≤ 0xffff) ∧
        ∃ before last s outcome, fields = before ++ [last] ∧
          (∀ field ∈ before, isEnd field = false) ∧ isEnd last = true ∧ last.value = [] ∧
          run (collect options) .initial before = .ok s ∧ classify s = .ok outcome ∧
          envelope = ⟨outcome.1, outcome.2, s.facts⟩ := by
  simp only [decodeRfcErrorEnvelope, bind_eq_ok, require_eq_ok, checkFields_eq_ok, findEnd_eq_ok,
    exists_const, Except.ok.injEq]
  constructor
  · rintro ⟨u, hoptions, hcount, hfields, endIndex,
      ⟨before, last, rfl, hbefore, hlast, hvalue, rfl⟩, s, hrun, outcome, houtcome, rfl⟩
    rw [List.take_left] at hrun
    exact ⟨hoptions, hcount, hfields, before, last, s, outcome, rfl, hbefore, hlast, hvalue, hrun,
      houtcome, rfl⟩
  · rintro ⟨hoptions, hcount, hfields, before, last, s, outcome, rfl, hbefore, hlast, hvalue,
      hrun, houtcome, rfl⟩
    refine ⟨(), hoptions, hcount, hfields, before.length,
      ⟨before, last, rfl, hbefore, hlast, hvalue, rfl⟩, s, ?_, outcome, houtcome, rfl⟩
    rw [List.take_left]
    exact hrun

end Fields

section Order
variable {options : RfcErrorEnvelopeDecodeOptions} {s t : Collected}

theorem toNat_injective : Function.Injective Bool.toNat := by
  decide

theorem get_eq_of_total (h : s.total = t.total) (tag : Int) : s.values.get tag = t.values.get tag := by
  have hperm : s.values.entries.Perm t.values.entries :=
    Multiset.coe_eq_coe.mp (congrArg Contribution.texts h)
  ext text
  rw [OrderedMap.get_eq_some_iff, OrderedMap.get_eq_some_iff]
  exact hperm.mem_iff

theorem hasZeroControl_iff :
    hasZeroControl s = true ↔ s.total.controls = {(4, "00000000")} := by
  have hlist : s.total.controls = {(4, "00000000")} ↔
      s.unresolved0420.map RfcUnresolvedControlFact.digits = [(4, "00000000")] := by
    show ((s.unresolved0420.map RfcUnresolvedControlFact.digits : List _) :
      Multiset (Nat × String)) = _ ↔ _
    rw [← Multiset.coe_singleton, Multiset.coe_eq_coe, List.perm_singleton]
  rw [hlist, hasZeroControl]
  split
  · rename_i control he
    rw [he]
    simp [RfcUnresolvedControlFact.digits]
  · rename_i hno
    refine iff_of_false Bool.false_ne_true fun he => ?_
    rw [List.map_eq_cons_iff] at he
    obtain ⟨control, rest, he, -, hrest⟩ := he
    rw [List.map_eq_nil_iff] at hrest
    rw [hrest] at he
    exact hno control he

/-- The classification depends on the sum of the contributions only. -/
theorem classify_eq_of_total (h : s.total = t.total) : classify s = classify t := by
  have hget := get_eq_of_total h
  have hpresent : s.present = t.present := by
    funext tag
    rw [Collected.present, Collected.present, hget]
  have htext : s.text = t.text := by
    funext tag
    rw [Collected.text, Collected.text, hget]
  have huse : s.sawUseClassExceptions = t.sawUseClassExceptions :=
    toNat_injective (congrArg Contribution.useClassExceptions h)
  have hinfo : s.sawSupplementalClassExceptionInfo = t.sawSupplementalClassExceptionInfo :=
    toNat_injective (congrArg Contribution.classExceptionInfo h)
  have hzero : hasZeroControl s = hasZeroControl t := by
    rw [Bool.eq_iff_iff, hasZeroControl_iff, hasZeroControl_iff, h]
  have hany : hasAnyTag secondaryErrorTags s = hasAnyTag secondaryErrorTags t := by
    rw [hasAnyTag, hasAnyTag, hpresent]
  unfold classify hasNonEmptyFact hasCoherentMessageIdentity
  rw [hpresent, htext, huse, hinfo, hzero, hany]

end Order

section Success
variable {options : RfcErrorEnvelopeDecodeOptions} {s : Collected}

/-- Four bytes whose digits are zero are zero. -/
theorem eq_zero_of_hex {value : Bytes} (hlength : value.length = 4)
    (h : hex value = "00000000") : value = [0, 0, 0, 0] := by
  have hdigits : ∀ n : Fin 256, Nat.digitChar (n.val / 16) = '0' → Nat.digitChar (n.val % 16) = '0' →
      n = 0 := by
    decide +kernel
  have hchars : ∀ c ∈ (hex value).toList, c = '0' := by
    rw [h]
    simp
  have hbytes : ∀ byte ∈ value, byte = 0 := by
    intro byte hb
    rw [hex, String.toList_ofList] at hchars
    have hmem := fun c hc => hchars c (List.mem_flatMap.mpr ⟨byte, hb, hc⟩)
    have hzero := hdigits ⟨byte.toNat, UInt8.toNat_lt byte⟩
      (hmem _ List.mem_cons_self) (hmem _ (List.mem_cons_of_mem _ List.mem_cons_self))
    exact UInt8.toNat_inj.mp (congrArg Fin.val hzero)
  rw [List.eq_replicate_of_mem hbytes, hlength]
  rfl

/-- The controls 0x0420 of a list of fields. -/
def unresolvedControls (fields : List RfcErrorEnvelopeField) : List RfcErrorEnvelopeField :=
  fields.filter fun field => field.tag = unresolved0420

theorem controls_contribution {field : RfcErrorEnvelopeField} {c : Contribution}
    (h : contribution options field = some c) :
    c.controls = if field.tag = unresolved0420 then
      {(field.value.length, hex field.value)} else 0 := by
  unfold contribution at h
  split at h
  · rename_i htext
    have hne : field.tag ≠ unresolved0420 := by
      intro he
      rw [he] at htext
      exact absurd htext (by decide)
    rw [if_neg hne]
    split at h
    · cases h
    · rw [Option.ite_none_right_eq_some] at h
      cases h.2
      rfl
  · split at h
    · rw [Option.ite_none_right_eq_some] at h
      cases h.2
      rfl
    · rename_i hcontrol
      have hne : field.tag ≠ unresolved0420 := by
        intro he
        exact hcontrol (he ▸ List.mem_cons_self)
      rw [if_neg hne]
      rw [Option.ite_none_right_eq_some] at h
      cases h.2
      rfl

theorem controls_contributions {fields : List RfcErrorEnvelopeField} {m : Contribution}
    (h : contributions (contribution options) fields = some m) :
    m.controls = ((unresolvedControls fields).map fun field =>
      (field.value.length, hex field.value) : List (Nat × String)) := by
  induction fields generalizing m with
  | nil =>
      cases h
      rfl
  | cons field fields ih =>
      obtain ⟨c, cs, hc, hcs, rfl⟩ := contributions_cons_eq_some.mp h
      rw [Contribution.controls_add, controls_contribution hc, ih hcs]
      unfold unresolvedControls
      rw [List.filter_cons]
      by_cases he : field.tag = unresolved0420
      · rw [if_pos he, if_pos (decide_eq_true he), List.map_cons, ← Multiset.cons_coe,
          Multiset.singleton_add]
      · rw [if_neg he, zero_add, if_neg (by simp [he])]

/-- What has been classified as success has no text, and no supplemental record. -/
theorem of_classify_success {successControl : SuccessControl}
    (h : classify s = .ok (.success, successControl)) :
    (∀ tag ∈ textTags, s.present tag = false) ∧ s.sawSupplementalClassExceptionInfo = false ∧
      hasZeroControl s = true := by
  simp only [classify, bind_eq_ok, require_eq_ok, exists_const] at h
  obtain ⟨-, -, -, hinfo, h⟩ := h
  split at h
  · cases h
  · rename_i hkey
    split at h
    · cases h
    · rename_i hruntime
      split at h
      · cases h
      · simp only [bind_eq_ok, require_eq_ok, exists_const] at h
        obtain ⟨hsecondary, hzero, -⟩ := h
        refine ⟨?_, ?_, hzero⟩
        · have hnone : ∀ tag ∈ secondaryErrorTags, s.present tag = false := by
            intro tag ht
            exact Bool.eq_false_iff.mpr (List.any_eq_false.mp hsecondary tag ht)
          intro tag ht
          by_cases hmem : tag ∈ secondaryErrorTags
          · exact hnone tag hmem
          · have hrest : ∀ tag ∈ textTags, tag ∉ secondaryErrorTags →
                tag = exceptionKey ∨ tag = runtimeId := by
              decide
            rcases hrest tag ht hmem with rfl | rfl
            · exact Bool.eq_false_iff.mpr hkey
            · exact Bool.eq_false_iff.mpr hruntime
        · by_contra hsaw
          exact hinfo ⟨Bool.not_eq_false _ |>.mp hsaw, .inl hkey⟩

/-- A fact which has been collected is present behind the loop. -/
theorem present_of_contributions {fields : List RfcErrorEnvelopeField} {m : Contribution}
    (h : contributions (contribution options) fields = some m) (hs : s.total = m)
    {field : RfcErrorEnvelopeField} (hf : field ∈ fields) (htext : field.tag ∈ textTags) :
    s.present field.tag = true := by
  obtain ⟨c, d, hc, rfl⟩ := contribution_of_mem h hf
  rw [contribution, if_pos htext] at hc
  split at hc
  · cases hc
  · rename_i text hdecode
    rw [Option.ite_none_right_eq_some] at hc
    cases hc.2
    have hmem : (field.tag, text) ∈ s.total.texts := by
      rw [hs, Contribution.texts_add]
      exact Multiset.mem_add.mpr (.inl (Multiset.mem_singleton_self _))
    rw [Collected.present, OrderedMap.get_eq_some_iff.mpr (Multiset.mem_coe.mp hmem)]
    rfl

theorem saw_of_contributions {fields : List RfcErrorEnvelopeField} {m : Contribution}
    (h : contributions (contribution options) fields = some m) (hs : s.total = m)
    {field : RfcErrorEnvelopeField} (hf : field ∈ fields)
    (hclass : field.tag ∈ classExceptionTags) :
    s.sawSupplementalClassExceptionInfo = true := by
  obtain ⟨c, d, hc, rfl⟩ := contribution_of_mem h hf
  have htext : field.tag ∉ textTags := by
    simp only [classExceptionTags, List.mem_cons, List.not_mem_nil, or_false] at hclass
    rcases hclass with he | he | he <;> rw [he] <;> decide
  rw [contribution, if_neg htext] at hc
  split at hc
  · rename_i hcontrol
    have he : field.tag = classExceptionInfo := by
      simp only [controlTags, classExceptionTags, List.mem_cons, List.not_mem_nil,
        or_false] at hcontrol hclass
      rcases hclass with he | he | he
      · exact he
      all_goals
        rw [he] at hcontrol
        exact absurd hcontrol (by decide)
    rw [Option.ite_none_right_eq_some] at hc
    cases hc.2
    have hinfo := congrArg Contribution.classExceptionInfo hs
    have hone : (controlContribution field).classExceptionInfo = 1 := by
      rw [controlContribution, he]
      rfl
    rw [Contribution.classExceptionInfo_add, hone] at hinfo
    have hsaw : s.sawSupplementalClassExceptionInfo.toNat = 1 + d.classExceptionInfo := hinfo
    cases hb : s.sawSupplementalClassExceptionInfo with
    | true => rfl
    | false =>
        rw [hb, Bool.toNat_false] at hsaw
        omega
  · rw [Option.ite_none_right_eq_some] at hc
    exact absurd hclass hc.1.1

theorem zeroControl_of_contributions {fields : List RfcErrorEnvelopeField} {m : Contribution}
    {last : RfcErrorEnvelopeField} (h : contributions (contribution options) fields = some m)
    (hs : s.total = m) (hzero : hasZeroControl s = true) (hlast : last.tag = rfcErrorEnvelopeEndTag) :
    (unresolvedControls (fields ++ [last])).map RfcErrorEnvelopeField.value = [[0, 0, 0, 0]] := by
  have hcontrols := controls_contributions h
  rw [← hs, hasZeroControl_iff.mp hzero, ← Multiset.coe_singleton, Multiset.coe_eq_coe,
    List.singleton_perm, eq_comm, List.map_eq_singleton_iff] at hcontrols
  obtain ⟨control, hcontrol, hdigits⟩ := hcontrols
  rw [Prod.mk.injEq] at hdigits
  have hnone : unresolvedControls [last] = [] := by
    rw [unresolvedControls, List.filter_singleton, hlast]
    rfl
  rw [unresolvedControls, List.filter_append]
  show ((unresolvedControls fields ++ unresolvedControls [last]).map _) = _
  rw [hnone, hcontrol, List.append_nil, List.map_singleton, eq_zero_of_hex hdigits.1 hdigits.2]

end Success

/-- A response whose only End field is its last field has nothing behind it. -/
theorem end_is_last {before after front : List RfcErrorEnvelopeField}
    {last last' : RfcErrorEnvelopeField} (hlast : isEnd last = true)
    (hfront : ∀ field ∈ front, isEnd field = false)
    (h : before ++ last :: after = front ++ [last']) : after = [] ∧ before = front ∧ last' = last := by
  rcases List.eq_nil_or_concat' after with rfl | ⟨middle, x, rfl⟩
  · obtain ⟨hfronts, hlasts⟩ := List.append_inj' h rfl
    exact ⟨rfl, hfronts, (List.singleton_inj.mp hlasts).symm⟩
  · have hassoc : before ++ last :: (middle ++ [x]) = (before ++ last :: middle) ++ [x] := by
      rw [List.append_assoc, List.cons_append]
    rw [hassoc] at h
    obtain ⟨hfronts, -⟩ := List.append_inj' h rfl
    have hno := hfront last (hfronts ▸ List.mem_append_right _ List.mem_cons_self)
    rw [hlast] at hno
    cases hno

section Limits
variable {options : RfcErrorEnvelopeDecodeOptions}

theorem admissible_initial (h : checkOptions options = .ok ()) :
    Admissible options Collected.initial.total := by
  simp only [checkOptions, boundedInteger, bind_eq_ok, require_eq_ok, exists_const] at h
  obtain ⟨-, htext, -, hcontrol, hcount, -⟩ := h
  exact admissible_total_iff.mpr ⟨htext.1, hcontrol.1, hcount.1⟩

end Limits

/-- The texts of the facts. -/
def RfcRemoteErrorFacts.texts (facts : RfcRemoteErrorFacts) : List JsString :=
  [facts.exceptionKey, facts.plainText, facts.runtimeId, facts.t100Text, facts.messageClass,
    facts.messageType, facts.messageNumber, facts.messageV1, facts.messageV2, facts.messageV3,
    facts.messageV4, facts.callStack]

theorem texts_eq_of_total {s t : Collected} (h : s.total = t.total) :
    s.facts.texts = t.facts.texts := by
  have htext : s.text = t.text := by
    funext tag
    rw [Collected.text, Collected.text, get_eq_of_total h]
  simp only [RfcRemoteErrorFacts.texts, Collected.facts, htext]

/-- Success is reported only of a response without any error fact and any class-exception
record, whose single control 0x0420 is zero. Neither the acceptance of a response nor its
outcome nor its texts depend on the order of the fields in front of the End field. -/
theorem classification :
    (∀ fields options envelope, decodeRfcErrorEnvelope fields options = .ok envelope →
      envelope.outcome = .success →
        (∀ field ∈ fields, field.tag ∉ textTags ∧ field.tag ∉ classExceptionTags) ∧
        (unresolvedControls fields).map RfcErrorEnvelopeField.value = [[0, 0, 0, 0]]) ∧
    (∀ before before' last after options envelope, last.tag = rfcErrorEnvelopeEndTag →
      before.Perm before' →
      decodeRfcErrorEnvelope (before ++ last :: after) options = .ok envelope →
        ∃ envelope', decodeRfcErrorEnvelope (before' ++ last :: after) options = .ok envelope' ∧
          envelope'.outcome = envelope.outcome ∧
          envelope'.successControl = envelope.successControl ∧
          envelope'.facts.texts = envelope.facts.texts) := by
  constructor
  · intro fields options envelope h hsuccess
    obtain ⟨hoptions, -, -, before, last, s, ⟨outcome, successControl⟩, rfl, -, hlast, -, hrun,
      hclassify, rfl⟩ := decode_eq_ok.mp h
    cases hsuccess
    obtain ⟨htexts, hinfo, hzero⟩ := of_classify_success hclassify
    obtain ⟨m, hm, htotal, -⟩ := tallies_collect.of_run (admissible_initial hoptions) hrun
    have hs : s.total = m := htotal.trans (zero_add m)
    have hend : last.tag = rfcErrorEnvelopeEndTag := beq_iff_eq.mp hlast
    constructor
    · intro field hf
      rcases List.mem_append.mp hf with hf | hf
      · constructor
        · intro htext
          have hpresent := present_of_contributions hm hs hf htext
          rw [htexts _ htext] at hpresent
          exact Bool.false_ne_true hpresent
        · intro hclass
          have hsaw := saw_of_contributions hm hs hf hclass
          rw [hinfo] at hsaw
          exact Bool.false_ne_true hsaw
      · rw [List.mem_singleton.mp hf, hend]
        decide
    · exact zeroControl_of_contributions hm hs hzero hend
  · intro before before' last after options envelope hend hperm h
    obtain ⟨hoptions, hcount, hfields, front, last', s, outcome, he, hfront, hlast', hvalue, hrun,
      hclassify, rfl⟩ := decode_eq_ok.mp h
    obtain ⟨rfl, rfl, rfl⟩ := end_is_last (beq_iff_eq.mpr hend) hfront he
    obtain ⟨t, ht, htotal⟩ :=
      tallies_collect.run_perm hperm (admissible_initial hoptions) hrun
    have hlength : (before' ++ [last']).length = (before ++ [last']).length :=
      (hperm.symm.append_right _).length_eq
    refine ⟨⟨outcome.1, outcome.2, t.facts⟩, decode_eq_ok.mpr ⟨hoptions, ?_, ?_, before', last', t,
      outcome, rfl, ?_, hlast', hvalue, ht, ?_, rfl⟩, rfl, rfl, texts_eq_of_total htotal⟩
    · rw [hlength]
      exact hcount
    · intro field hf
      exact hfields field ((hperm.symm.append_right _).mem_iff.mp hf)
    · intro field hf
      exact hfront field (hperm.symm.mem_iff.mp hf)
    · rw [classify_eq_of_total htotal]
      exact hclassify

/-- A successful response, and a message whose two records change places. -/
theorem classification_samples :
    (∀ field ∈ [⟨0x0503, [1]⟩, ⟨0x0420, [0, 0, 0, 0]⟩, ⟨0xffff, []⟩],
      (field : RfcErrorEnvelopeField).tag ∉ textTags ∧ field.tag ∉ classExceptionTags) ∧
    ∃ envelope, decodeRfcErrorEnvelope
        [⟨0x0420, [1]⟩, ⟨0x0402, [0x41, 0]⟩, ⟨0xffff, []⟩] {} = .ok envelope ∧
      envelope.outcome = .abapMessage :=
  ⟨(classification.1 _ {} ⟨.success, .zeroControl, ⟨[], [], [], [], [], [], [], [], [], [], [], [],
      [⟨0x0420, 1, 4⟩], [⟨1, 4, "00000000"⟩]⟩⟩ (by decide) rfl).1,
    (classification.2 [⟨0x0402, [0x41, 0]⟩, ⟨0x0420, [1]⟩] _ ⟨0xffff, []⟩ [] {}
      ⟨.abapMessage, .notApplicable, ⟨[], [0x41], [], [], [], [], [], [], [], [], [], [],
        [⟨0x0402, 0, 2⟩, ⟨0x0420, 1, 1⟩], [⟨1, 1, "01"⟩]⟩⟩ rfl (.swap _ _ _) (by decide)).imp
          fun _ h => ⟨h.1, h.2.1⟩⟩

end OpenRfc.ErrorEnvelope
