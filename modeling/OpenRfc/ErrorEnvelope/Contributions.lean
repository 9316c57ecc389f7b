import OpenRfc.ErrorEnvelope.Decoder

/-!
What a field contributes to what the loop collects. Every check of the loop is about one field,
or about a sum which only grows; so the order of the fields is without influence.
-/

namespace OpenRfc.ErrorEnvelope
open Fallible Tally RfcErrorTag

/-- Texts with their tags, lengths and digits of the controls 0x0420, and five numbers. -/
@[ext]
structure Contribution where
  texts : Multiset (Int × JsString)
  controls : Multiset (Nat × String)
  textByteLength : Nat
  controlByteLength : Nat
  controlCount : Nat
  useClassExceptions : Nat
  classExceptionInfo : Nat

namespace Contribution

instance : Zero Contribution := ⟨⟨0, 0, 0, 0, 0, 0, 0⟩⟩

instance : Add Contribution where
  add m n := ⟨m.texts + n.texts, m.controls + n.controls, m.textByteLength + n.textByteLength,
    m.controlByteLength + n.controlByteLength, m.controlCount + n.controlCount,
    m.useClassExceptions + n.useClassExceptions, m.classExceptionInfo + n.classExceptionInfo⟩

@[simp] theorem texts_zero : (0 : Contribution).texts = 0 := rfl
@[simp] theorem controls_zero : (0 : Contribution).controls = 0 := rfl
@[simp] theorem texts_add (m n : Contribution) : (m + n).texts = m.texts + n.texts := rfl
@[simp] theorem controls_add (m n : Contribution) : (m + n).controls = m.controls + n.controls := rfl
@[simp] theorem textByteLength_add (m n : Contribution) :
    (m + n).textByteLength = m.textByteLength + n.textByteLength := rfl
@[simp] theorem controlByteLength_add (m n : Contribution) :
    (m + n).controlByteLength = m.controlByteLength + n.controlByteLength := rfl
@[simp] theorem controlCount_add (m n : Contribution) :
    (m + n).controlCount = m.controlCount + n.controlCount := rfl
@[simp] theorem useClassExceptions_add (m n : Contribution) :
    (m + n).useClassExceptions = m.useClassExceptions + n.useClassExceptions := rfl
@[simp] theorem classExceptionInfo_add (m n : Contribution) :
    (m + n).classExceptionInfo = m.classExceptionInfo + n.classExceptionInfo := rfl

instance : AddCommMonoid Contribution where
  add_assoc m n k := by
    ext1 <;> simp [add_assoc]
  add_comm m n := by
    ext1 <;> simp [add_comm]
  zero_add m := by
    ext1 <;> exact zero_add _
  add_zero m := by
    ext1 <;> exact add_zero _
  nsmul := nsmulRec

end Contribution

variable (options : RfcErrorEnvelopeDecodeOptions)

def controlTags : List Int := [unresolved0420, useClassExceptions, classExceptionInfo]

/-- What a control record contributes. -/
def controlContribution (field : RfcErrorEnvelopeField) : Contribution :=
  { (0 : Contribution) with
    controls := if field.tag = unresolved0420 then
      {(field.value.length, hex field.value)} else 0
    controlByteLength := field.value.length
    controlCount := 1
    useClassExceptions := if field.tag = useClassExceptions then 1 else 0
    classExceptionInfo := if field.tag = classExceptionInfo then 1 else 0 }

def contribution (field : RfcErrorEnvelopeField) : Option Contribution :=
  if field.tag ∈ textTags then
    match decodeText options field with
    | .error _ => none
    | .ok text =>
      if (field.value.length : Int) ≤ options.maxTextByteLength then
        some { (0 : Contribution) with
          texts := {(field.tag, text)}, textByteLength := field.value.length }
      else none
  else if field.tag ∈ controlTags then
    if (field.value.length : Int) ≤ options.maxControlByteLength then
      some (controlContribution field)
    else none
  else if field.tag ∉ classExceptionTags ∧
      field.tag ∈ classicResponseDataTags ++ options.additionalAllowedTags then some 0
  else none

def RfcUnresolvedControlFact.digits (control : RfcUnresolvedControlFact) : Nat × String :=
  (control.byteLength, control.valueHex)

def Collected.total (s : Collected) : Contribution where
  texts := s.values.entries
  controls := s.unresolved0420.map RfcUnresolvedControlFact.digits
  textByteLength := s.totalTextByteLength
  controlByteLength := s.totalControlByteLength
  controlCount := s.controlCount
  useClassExceptions := s.sawUseClassExceptions.toNat
  classExceptionInfo := s.sawSupplementalClassExceptionInfo.toNat

structure Admissible (m : Contribution) : Prop where
  texts : (m.texts.map Prod.fst).Nodup
  textByteLength : (m.textByteLength : Int) ≤ options.maxTotalTextByteLength
  controlByteLength : (m.controlByteLength : Int) ≤ options.maxTotalControlByteLength
  controlCount : (m.controlCount : Int) ≤ options.maxControlCount
  useClassExceptions : m.useClassExceptions ≤ 1
  classExceptionInfo : m.classExceptionInfo ≤ 1

variable {options}

theorem Admissible.of_add {m n : Contribution} (h : Admissible options (m + n)) :
    Admissible options m := by
  obtain ⟨h₁, h₂, h₃, h₄, h₅, h₆⟩ := h
  simp only [Contribution.texts_add, Contribution.textByteLength_add,
    Contribution.controlByteLength_add, Contribution.controlCount_add,
    Contribution.useClassExceptions_add, Contribution.classExceptionInfo_add,
    Multiset.map_add] at h₁ h₂ h₃ h₄ h₅ h₆
  refine ⟨?_, by omega, by omega, by omega, by omega, by omega⟩
  exact Multiset.nodup_of_le (Multiset.le_add_right _ _) h₁

theorem present_eq_false_iff {s : Collected} {tag : Int} :
    s.present tag = false ↔ s.values.get tag = none := by
  rw [Collected.present, ← Bool.not_eq_true, Option.isSome_iff_ne_none, not_not]

section Steps
variable {s s' : Collected} {field : RfcErrorEnvelopeField}

theorem collectText_eq_ok :
    collectText options s field = .ok s' ↔
      ∃ text, decodeText options field = .ok text ∧ s.present field.tag = false ∧
        (field.value.length : Int) ≤ options.maxTextByteLength ∧
        (s.totalTextByteLength : Int) ≤ options.maxTotalTextByteLength - field.value.length ∧
        s' = { s with
          values := s.values.set field.tag text
          totalTextByteLength := s.totalTextByteLength + field.value.length
          provenance := s.provenance ++ [⟨field.tag, s.ordinal, field.value.length⟩] } := by
  simp only [collectText, bind_eq_ok, require_eq_ok, exists_const, Except.ok.injEq]
  constructor
  · rintro ⟨hp, hl, ht, text, htext, rfl⟩
    exact ⟨text, htext, hp, hl, ht, rfl⟩
  · rintro ⟨text, htext, hp, hl, ht, rfl⟩
    exact ⟨hp, hl, ht, text, htext, rfl⟩

theorem collectControl_eq_ok {rule : ControlRule} :
    collectControl options s field rule = .ok s' ↔
      (s.controlCount : Int) < options.maxControlCount ∧ rule.duplicate = false ∧
        (field.value.length : Int) ≤ options.maxControlByteLength ∧
        (s.totalControlByteLength : Int) ≤
          options.maxTotalControlByteLength - field.value.length ∧
        rule.note { s with
          controlCount := s.controlCount + 1
          totalControlByteLength := s.totalControlByteLength + field.value.length
          provenance := s.provenance ++ [⟨field.tag, s.ordinal, field.value.length⟩] } = s' := by
  simp only [collectControl, bind_eq_ok, require_eq_ok, exists_const, Except.ok.injEq]

theorem admissible_total_iff :
    Admissible options s.total ↔
      (s.totalTextByteLength : Int) ≤ options.maxTotalTextByteLength ∧
        (s.totalControlByteLength : Int) ≤ options.maxTotalControlByteLength ∧
        (s.controlCount : Int) ≤ options.maxControlCount := by
  constructor
  · intro h
    exact ⟨h.textByteLength, h.controlByteLength, h.controlCount⟩
  · rintro ⟨htext, hcontrol, hcount⟩
    refine ⟨?_, htext, hcontrol, hcount, Bool.toNat_le _, Bool.toNat_le _⟩
    show ((s.values.entries : Multiset (Int × JsString)).map Prod.fst).Nodup
    rw [Multiset.map_coe, Multiset.coe_nodup]
    exact s.values.nodup

theorem of_collectText (hfield : field.tag ∈ textTags) (hs : Admissible options s.total)
    (h : collectText options s field = .ok s') :
    ∃ c, contribution options field = some c ∧ s'.total = s.total + c ∧
      Admissible options s'.total := by
  obtain ⟨text, htext, hpresent, hlength, htotal, rfl⟩ := collectText_eq_ok.mp h
  obtain ⟨-, hcontrol, hcount⟩ := admissible_total_iff.mp hs
  refine ⟨{ (0 : Contribution) with
    texts := {(field.tag, text)}, textByteLength := field.value.length }, ?_, ?_, ?_⟩
  · rw [contribution, if_pos hfield, htext]
    exact if_pos hlength
  · have hentries := OrderedMap.entries_set_of_none text (present_eq_false_iff.mp hpresent)
    ext1
    · show ((s.values.set field.tag text).entries : Multiset (Int × JsString)) = _
      rw [hentries]
      rfl
    · exact (add_zero _).symm
    all_goals rfl
  · refine admissible_total_iff.mpr ⟨?_, hcontrol, hcount⟩
    show ((s.totalTextByteLength + field.value.length : Nat) : Int) ≤ _
    omega

theorem contribution_of_control (hfield : field.tag ∈ controlTags)
    (hlength : (field.value.length : Int) ≤ options.maxControlByteLength) :
    contribution options field = some (controlContribution field) := by
  have htext : field.tag ∉ textTags := by
    intro h
    simp only [controlTags, textTags, List.mem_cons, List.not_mem_nil, or_false] at hfield h
    rcases hfield with he | he | he <;> rw [he] at h <;> exact absurd h (by decide)
  rw [contribution, if_neg htext, if_pos hfield, if_pos hlength]

/-- A rule refuses just what is too much of its kind, and notes what its control contributes. -/
structure ControlRule.Notes (rule : ControlRule) (s : Collected) (field : RfcErrorEnvelopeField) :
    Prop where
  duplicate_iff : rule.duplicate = false ↔
    (s.total + controlContribution field).useClassExceptions ≤ 1 ∧
      (s.total + controlContribution field).classExceptionInfo ≤ 1
  total_note : rule.duplicate = false → ∀ provenance,
    (rule.note { s with
      controlCount := s.controlCount + 1
      totalControlByteLength := s.totalControlByteLength + field.value.length
      provenance }).total = s.total + controlContribution field

theorem notes_unresolvedControl (he : field.tag = unresolved0420) :
    (unresolvedControl s field).Notes s field := by
  have hc : controlContribution field =
      ⟨0, {(field.value.length, hex field.value)}, 0, field.value.length, 1, 0, 0⟩ := by
    rw [controlContribution, he]
    rfl
  constructor
  · rw [hc]
    exact iff_of_true rfl ⟨Bool.toNat_le _, Bool.toNat_le _⟩
  · intro _ provenance
    rw [hc]
    ext1
    · exact (add_zero _).symm
    · show (((s.unresolved0420 ++ [_]).map RfcUnresolvedControlFact.digits : List _) :
        Multiset (Nat × String)) = _
      rw [List.map_append, ← Multiset.coe_add]
      rfl
    all_goals rfl

theorem notes_useClassExceptionsControl (he : field.tag = useClassExceptions) :
    (useClassExceptionsControl s).Notes s field := by
  have hc : controlContribution field = ⟨0, 0, 0, field.value.length, 1, 1, 0⟩ := by
    rw [controlContribution, he]
    rfl
  constructor
  · rw [hc]
    show s.sawUseClassExceptions = false ↔
      s.sawUseClassExceptions.toNat + 1 ≤ 1 ∧ s.sawSupplementalClassExceptionInfo.toNat ≤ 1
    cases s.sawUseClassExceptions with
    | true => simp
    | false => exact iff_of_true rfl ⟨le_rfl, Bool.toNat_le _⟩
  · intro hfresh provenance
    have hfresh : s.sawUseClassExceptions = false := hfresh
    rw [hc]
    ext1
    · exact (add_zero _).symm
    · exact (add_zero _).symm
    · rfl
    · rfl
    · rfl
    · show 1 = s.sawUseClassExceptions.toNat + 1
      rw [hfresh]
      rfl
    · rfl

theorem notes_classExceptionInfoControl (he : field.tag = classExceptionInfo) :
    (classExceptionInfoControl s).Notes s field := by
  have hc : controlContribution field = ⟨0, 0, 0, field.value.length, 1, 0, 1⟩ := by
    rw [controlContribution, he]
    rfl
  constructor
  · rw [hc]
    show s.sawSupplementalClassExceptionInfo = false ↔
      s.sawUseClassExceptions.toNat ≤ 1 ∧ s.sawSupplementalClassExceptionInfo.toNat + 1 ≤ 1
    cases s.sawSupplementalClassExceptionInfo with
    | true => simp
    | false => exact iff_of_true rfl ⟨Bool.toNat_le _, le_rfl⟩
  · intro hfresh provenance
    have hfresh : s.sawSupplementalClassExceptionInfo = false := hfresh
    rw [hc]
    ext1
    · exact (add_zero _).symm
    · exact (add_zero _).symm
    · rfl
    · rfl
    · rfl
    · rfl
    · show 1 = s.sawSupplementalClassExceptionInfo.toNat + 1
      rw [hfresh]
      rfl

theorem collectField_control (options : RfcErrorEnvelopeDecodeOptions) (s : Collected)
    (hfield : field.tag ∈ controlTags) :
    ∃ rule : ControlRule, rule.Notes s field ∧
      collectField options s field = collectControl options s field rule := by
  simp only [controlTags, List.mem_cons, List.not_mem_nil, or_false] at hfield
  rcases hfield with he | he | he
  · refine ⟨_, notes_unresolvedControl he, ?_⟩
    rw [collectField, if_neg (by rw [he]; decide), if_pos he]
  · refine ⟨_, notes_useClassExceptionsControl he, ?_⟩
    rw [collectField, if_neg (by rw [he]; decide), if_neg (by rw [he]; decide), if_pos he]
  · refine ⟨_, notes_classExceptionInfoControl he, ?_⟩
    rw [collectField, if_neg (by rw [he]; decide), if_neg (by rw [he]; decide),
      if_neg (by rw [he]; decide), if_pos he]

theorem collectField_data (htext : field.tag ∉ textTags) (hcontrol : field.tag ∉ controlTags) :
    collectField options s field = (do
      require (field.tag ∉ classExceptionTags)
        (protocolError .classExceptionUnsupported
          s!"RFCPRO class-exception fact {tagText field.tag} is not supported")
      require (field.tag ∈ classicResponseDataTags ++ options.additionalAllowedTags)
        (protocolError .unknownTag s!"RFCPRO response contains unknown tag {tagText field.tag}")
      .ok s) := by
  simp only [controlTags, List.mem_cons, List.not_mem_nil, or_false, not_or] at hcontrol
  rw [collectField, if_neg htext, if_neg hcontrol.1, if_neg hcontrol.2.1, if_neg hcontrol.2.2]

theorem of_collectControl {rule : ControlRule} (hrule : rule.Notes s field)
    (hs : Admissible options s.total) (h : collectControl options s field rule = .ok s') :
    (field.value.length : Int) ≤ options.maxControlByteLength ∧
      s'.total = s.total + controlContribution field ∧ Admissible options s'.total := by
  obtain ⟨hcount, hfresh, hlength, htotal, rfl⟩ := collectControl_eq_ok.mp h
  have hnote := hrule.total_note hfresh
    (s.provenance ++ [⟨field.tag, s.ordinal, field.value.length⟩])
  obtain ⟨huse, hinfo⟩ := hrule.duplicate_iff.mp hfresh
  refine ⟨hlength, hnote, ?_⟩
  rw [hnote]
  refine ⟨?_, ?_, ?_, ?_, huse, hinfo⟩
  · show ((s.total.texts + 0).map Prod.fst).Nodup
    rw [add_zero]
    exact hs.texts
  · exact hs.textByteLength
  · show ((s.totalControlByteLength + field.value.length : Nat) : Int) ≤ _
    omega
  · show ((s.controlCount + 1 : Nat) : Int) ≤ _
    omega

theorem collectControl_of {rule : ControlRule} (hrule : rule.Notes s field)
    (hlength : (field.value.length : Int) ≤ options.maxControlByteLength)
    (hadm : Admissible options (s.total + controlContribution field)) :
    ∃ s', collectControl options s field rule = .ok s' := by
  have hfresh := hrule.duplicate_iff.mpr ⟨hadm.useClassExceptions, hadm.classExceptionInfo⟩
  have htotal : ((s.totalControlByteLength + field.value.length : Nat) : Int) ≤ _ :=
    hadm.controlByteLength
  have hcount : ((s.controlCount + 1 : Nat) : Int) ≤ _ := hadm.controlCount
  exact ⟨_, collectControl_eq_ok.mpr ⟨by omega, hfresh, hlength, by omega, rfl⟩⟩

theorem collectText_of {text : JsString} (htext : decodeText options field = .ok text)
    (hlength : (field.value.length : Int) ≤ options.maxTextByteLength)
    (hadm : Admissible options (s.total + { (0 : Contribution) with
      texts := {(field.tag, text)}, textByteLength := field.value.length })) :
    ∃ s', collectText options s field = .ok s' := by
  have htotal : ((s.totalTextByteLength + field.value.length : Nat) : Int) ≤ _ :=
    hadm.textByteLength
  have hpresent : s.present field.tag = false := by
    have htexts := hadm.texts
    rw [Contribution.texts_add, Multiset.map_add, Multiset.nodup_add] at htexts
    rw [present_eq_false_iff, OrderedMap.get_eq_none_iff]
    intro hmem
    exact Multiset.disjoint_left.mp htexts.2.2 (Multiset.mem_coe.mpr hmem)
      (Multiset.mem_map.mpr ⟨_, Multiset.mem_singleton_self _, rfl⟩)
  exact ⟨_, collectText_eq_ok.mpr ⟨text, htext, hpresent, hlength, by omega, rfl⟩⟩

theorem of_collectField (hs : Admissible options s.total)
    (h : collectField options s field = .ok s') :
    ∃ c, contribution options field = some c ∧ s'.total = s.total + c ∧
      Admissible options s'.total := by
  by_cases htext : field.tag ∈ textTags
  · rw [collectField, if_pos htext] at h
    exact of_collectText htext hs h
  · by_cases hcontrol : field.tag ∈ controlTags
    · obtain ⟨rule, hrule, he⟩ := collectField_control options s hcontrol
      rw [he] at h
      obtain ⟨hlength, htotal, hadm⟩ := of_collectControl hrule hs h
      exact ⟨_, contribution_of_control hcontrol hlength, htotal, hadm⟩
    · rw [collectField_data htext hcontrol] at h
      simp only [bind_eq_ok, require_eq_ok, exists_const, Except.ok.injEq] at h
      obtain ⟨hclass, hallowed, rfl⟩ := h
      refine ⟨0, ?_, (add_zero _).symm, hs⟩
      rw [contribution, if_neg htext, if_neg hcontrol, if_pos ⟨hclass, hallowed⟩]

theorem collectField_of {c : Contribution} (hc : contribution options field = some c)
    (hadm : Admissible options (s.total + c)) : ∃ s', collectField options s field = .ok s' := by
  by_cases htext : field.tag ∈ textTags
  · rw [contribution, if_pos htext] at hc
    cases hdecode : decodeText options field with
    | error e =>
        rw [hdecode] at hc
        cases hc
    | ok text =>
        rw [hdecode] at hc
        simp only [Option.ite_none_right_eq_some, Option.some.injEq] at hc
        obtain ⟨hlength, rfl⟩ := hc
        rw [collectField, if_pos htext]
        exact collectText_of hdecode hlength hadm
  · by_cases hcontrol : field.tag ∈ controlTags
    · obtain ⟨rule, hrule, he⟩ := collectField_control options s hcontrol
      rw [contribution, if_neg htext, if_pos hcontrol, Option.ite_none_right_eq_some] at hc
      obtain ⟨hlength, he'⟩ := hc
      cases he'
      rw [he]
      exact collectControl_of hrule hlength hadm
    · rw [contribution, if_neg htext, if_neg hcontrol, Option.ite_none_right_eq_some] at hc
      rw [collectField_data htext hcontrol, require_of hc.1.1, ok_bind, require_of hc.1.2]
      exact ⟨s, rfl⟩

end Steps

/-- The loop of the decoder adds up what its fields contribute. -/
theorem tallies_collect :
    Tallies (collect options) (contribution options) Collected.total (Admissible options) where
  of_add h := h.of_add
  of_step hs h := by
    obtain ⟨s', hstep, he⟩ := bind_eq_ok.mp h
    cases he
    have hfield := of_collectField hs hstep
    exact hfield
  step_of hc hadm := by
    obtain ⟨s', hstep⟩ := collectField_of hc hadm
    refine ⟨{ s' with ordinal := s'.ordinal + 1 }, ?_⟩
    rw [collect, hstep, ok_bind]

end OpenRfc.ErrorEnvelope
