import OpenRfc.Cpic.Framing
import OpenRfc.Foundation.OptionalSequence

/-!
The grammars of the first response of a server. A grammar is a list of coordinates, some of which
may be absent, and the tags of the fields decide which coordinate a field is for.
-/

namespace OpenRfc.Cpic

/-- The widths which a coordinate admits. `text` bounds a name or an address. -/
inductive CoordinateWidth
  | exactly (byteLength : Nat)
  | oneOf (byteLengths : List Nat)
  | text (maxByteLength : Nat)
deriving DecidableEq, Repr

structure InitialCpicGrammarCoordinate where
  tag : Int
  width : CoordinateWidth
  isOptional : Bool := false
deriving DecidableEq, Repr

def initialCpicMaxTextCoordinateByteLength : Nat := 255
def initialCpicUnresolved0450 : Int := 0x0450

def textCoordinate (tag : Int) (isOptional : Bool := false) : InitialCpicGrammarCoordinate :=
  ⟨tag, .text initialCpicMaxTextCoordinateByteLength, isOptional⟩

def initialCpicErrorPreambleGrammar : List InitialCpicGrammarCoordinate :=
  [⟨CpicTag.protocolVersion, .exactly 4, false⟩,
    ⟨CpicTag.capabilities, .exactly 11, false⟩,
    ⟨CpicTag.logonStatus, .exactly 1, true⟩,
    ⟨CpicTag.systemCodePage, .oneOf [4, 8], false⟩,
    ⟨initialCpicUnresolved0450, .exactly 3, true⟩,
    textCoordinate CpicTag.clientAddress,
    ⟨0x0020, .exactly 46, true⟩,
    ⟨0x0021, .exactly 10, true⟩,
    textCoordinate CpicTag.partnerSystem,
    textCoordinate CpicTag.partnerHost,
    ⟨CpicTag.connectionType, .oneOf [1, 2], false⟩,
    ⟨CpicTag.kernelPatch, .oneOf [4, 8], false⟩,
    ⟨CpicTag.kernelRelease, .oneOf [4, 8], false⟩,
    textCoordinate CpicTag.destination,
    textCoordinate CpicTag.program,
    ⟨CpicTag.responseStart, .exactly 0, false⟩]

def initialCpicRichRfcPingPreambleGrammar : List InitialCpicGrammarCoordinate :=
  [⟨CpicTag.protocolVersion, .exactly 4, false⟩,
    ⟨CpicTag.capabilities, .exactly 11, false⟩,
    ⟨CpicTag.logonStatus, .exactly 1, true⟩,
    ⟨CpicTag.systemCodePage, .exactly 8, false⟩,
    ⟨initialCpicUnresolved0450, .exactly 6, true⟩,
    ⟨0x0451, .exactly 20, true⟩,
    ⟨0x0452, .exactly 4, true⟩,
    textCoordinate 0x0453 true,
    textCoordinate CpicTag.clientAddress,
    ⟨0x0020, .exactly 92, true⟩,
    ⟨0x0021, .exactly 20, true⟩,
    textCoordinate CpicTag.partnerSystem,
    textCoordinate CpicTag.partnerHost,
    ⟨CpicTag.connectionType, .exactly 2, false⟩,
    ⟨CpicTag.kernelPatch, .exactly 8, false⟩,
    ⟨CpicTag.kernelRelease, .exactly 8, false⟩,
    textCoordinate CpicTag.destination true,
    textCoordinate CpicTag.program,
    ⟨0x0150, .exactly 24, false⟩,
    ⟨0x0151, .exactly 6, false⟩,
    ⟨0x0152, .exactly 2, false⟩]

def initialCpicRichRfcPingResponseGrammar : List InitialCpicGrammarCoordinate :=
  [⟨CpicTag.responseStart, .exactly 0, false⟩,
    ⟨CpicTag.responseContext, .exactly 0, false⟩,
    ⟨CpicTag.session, .exactly 16, false⟩,
    ⟨CpicTag.unresolved0420, .exactly 4, false⟩,
    ⟨CpicTag.callContext, .exactly 0, false⟩,
    textCoordinate CpicTag.program,
    ⟨0x0667, .exactly 8, false⟩,
    ⟨0x0126, .exactly 4, true⟩,
    ⟨CpicTag.end, .exactly 0, false⟩]

def initialCpicRichRfcPingGrammar : List InitialCpicGrammarCoordinate :=
  initialCpicRichRfcPingPreambleGrammar ++ initialCpicRichRfcPingResponseGrammar

/-- `INITIAL_CPIC_RICH_RFCPING_TAG_LIMITS`: how often a tag may occur -/
def initialCpicRichRfcPingTagLimit (tag : Int) : Nat :=
  initialCpicRichRfcPingGrammar.countP fun coordinate => coordinate.tag == tag

section Walk

def matchesInitialCpicGrammarCoordinate (field : CpicField)
    (coordinate : InitialCpicGrammarCoordinate) : Bool :=
  field.tag == coordinate.tag &&
    match coordinate.width with
    | .exactly byteLength => field.value.length == byteLength
    | .oneOf byteLengths => byteLengths.contains field.value.length
    | .text maxByteLength => 1 ≤ field.value.length && field.value.length ≤ maxByteLength

/-- The coordinates of a grammar which the fields take, one for each field, and the fields which
remain. A field which does not match leaves out a coordinate which is optional. -/
def walkGrammar : List InitialCpicGrammarCoordinate → List CpicField →
    Option (List InitialCpicGrammarCoordinate × List CpicField)
  | [], fields => some ([], fields)
  | coordinate :: grammar, field :: fields =>
    if matchesInitialCpicGrammarCoordinate field coordinate then
      (walkGrammar grammar fields).map fun (taken, rest) => (coordinate :: taken, rest)
    else if coordinate.isOptional then walkGrammar grammar (field :: fields)
    else none
  | coordinate :: grammar, [] =>
    if coordinate.isOptional then walkGrammar grammar [] else none

structure InitialCpicErrorPreambleMatch where
  fieldCount : Nat
  allowedTags : List Int
deriving DecidableEq, Repr

def matchInitialCpicErrorPreamble (fields : List CpicField) :
    Option InitialCpicErrorPreambleMatch :=
  (walkGrammar initialCpicErrorPreambleGrammar fields).map fun (taken, _) =>
    ⟨taken.length, taken.map InitialCpicGrammarCoordinate.tag⟩

structure InitialCpicGrammarMatch where
  preambleFieldCount : Nat
  embeddedAllowedTags : List Int
deriving DecidableEq, Repr

def matchInitialCpicRichGrammar (fields : List CpicField) : Option InitialCpicGrammarMatch :=
  match walkGrammar initialCpicRichRfcPingGrammar fields with
  | some (taken, []) =>
    let tags := taken.map InitialCpicGrammarCoordinate.tag
    -- The grammar has one coordinate for this tag, and it is not optional.
    if CpicTag.responseStart ∈ tags then
      some ⟨tags.findIdx (· == CpicTag.responseStart), tags.filter (· == 0x0126)⟩
    else none
  | _ => none

def hasInitialCpicCompositeDuplicate (fields : List CpicField) : Bool :=
  initialCpicRichRfcPingGrammar.any fun coordinate =>
    initialCpicRichRfcPingTagLimit coordinate.tag <
      fields.countP fun field => field.tag == coordinate.tag

end Walk
open OptionalSequence

/-- The fields match the coordinates which are not omitted, one to one and in order. -/
def GrammarMatch (grammar : List InitialCpicGrammarCoordinate) (fields : List CpicField)
    (taken : List InitialCpicGrammarCoordinate) : Prop :=
  Matches InitialCpicGrammarCoordinate.isOptional matchesInitialCpicGrammarCoordinate grammar
    fields taken

def ApartByTag (c next : InitialCpicGrammarCoordinate) : Prop := c.tag ≠ next.tag

instance : DecidableRel ApartByTag := fun c next => inferInstanceAs (Decidable (c.tag ≠ next.tag))

variable {fields : List CpicField}

theorem walkGrammar_eq (grammar : List InitialCpicGrammarCoordinate) (fields : List CpicField) :
    walkGrammar grammar fields = walk InitialCpicGrammarCoordinate.isOptional
      matchesInitialCpicGrammarCoordinate grammar fields := by
  fun_induction walkGrammar grammar fields <;> simp_all [walk]

theorem apartByTag (field : CpicField) (c next : InitialCpicGrammarCoordinate)
    (hapart : ApartByTag c next) (h : matchesInitialCpicGrammarCoordinate field c = true) :
    matchesInitialCpicGrammarCoordinate field next = false := by
  rw [matchesInitialCpicGrammarCoordinate, Bool.and_eq_true, beq_iff_eq] at h
  have hne : field.tag ≠ next.tag := h.1 ▸ hapart
  rw [matchesInitialCpicGrammarCoordinate, beq_false_of_ne hne, Bool.false_and]

theorem determined_richGrammar :
    Determined InitialCpicGrammarCoordinate.isOptional ApartByTag initialCpicRichRfcPingGrammar := by
  decide

theorem determined_errorGrammar :
    Determined InitialCpicGrammarCoordinate.isOptional ApartByTag
      initialCpicErrorPreambleGrammar := by
  decide

theorem matchInitialCpicRichGrammar_isSome :
    (matchInitialCpicRichGrammar fields).isSome ↔
      ∃ taken, GrammarMatch initialCpicRichRfcPingGrammar fields taken := by
  have hwalk : ∀ taken, walkGrammar initialCpicRichRfcPingGrammar fields = some (taken, []) ↔
      GrammarMatch initialCpicRichRfcPingGrammar fields taken := fun taken => by
    rw [walkGrammar_eq]
    exact walk_eq_some_nil determined_richGrammar apartByTag
  rw [matchInitialCpicRichGrammar]
  constructor
  · intro h
    split at h
    · rename_i taken heq
      exact ⟨taken, (hwalk taken).mp heq⟩
    · cases h
  · rintro ⟨taken, h⟩
    have hstart : (⟨CpicTag.responseStart, .exactly 0, false⟩ : InitialCpicGrammarCoordinate) ∈
        taken := h.omits.mem_of_required (by decide) rfl
    simp only [(hwalk taken).mpr h]
    rw [if_pos (List.mem_map_of_mem hstart), Option.isSome_some]

theorem matchInitialCpicErrorPreamble_isSome :
    (matchInitialCpicErrorPreamble fields).isSome ↔
      ∃ count taken, GrammarMatch initialCpicErrorPreambleGrammar (fields.take count) taken := by
  rw [matchInitialCpicErrorPreamble, Option.isSome_map, walkGrammar_eq]
  exact walk_isSome determined_errorGrammar apartByTag

/-- The fields of an error preamble are as many as a choice of its coordinates matches. -/
theorem matchInitialCpicErrorPreamble_longest {m : InitialCpicErrorPreambleMatch}
    (h : matchInitialCpicErrorPreamble fields = some m) :
    ∃ taken, taken.map InitialCpicGrammarCoordinate.tag = m.allowedTags ∧
      GrammarMatch initialCpicErrorPreambleGrammar (fields.take m.fieldCount) taken ∧
      ∀ count chosen, GrammarMatch initialCpicErrorPreambleGrammar (fields.take count) chosen →
        chosen <+: taken := by
  rw [matchInitialCpicErrorPreamble, walkGrammar_eq] at h
  obtain ⟨⟨taken, rest⟩, hwalk, rfl⟩ := Option.map_eq_some_iff.mp h
  obtain ⟨hmatch, hlongest⟩ := walk_longest determined_errorGrammar apartByTag hwalk
  exact ⟨taken, rfl, hmatch, hlongest⟩

/-- The walk over a grammar of a logon rejects no fields which the grammar admits. -/
theorem logonGrammars_admit (fields : List CpicField) :
    ((matchInitialCpicRichGrammar fields).isSome ↔
      ∃ taken, GrammarMatch initialCpicRichRfcPingGrammar fields taken) ∧
    ((matchInitialCpicErrorPreamble fields).isSome ↔
      ∃ count taken, GrammarMatch initialCpicErrorPreambleGrammar (fields.take count) taken) ∧
    ∀ m, matchInitialCpicErrorPreamble fields = some m →
      (∃ taken, taken.map InitialCpicGrammarCoordinate.tag = m.allowedTags ∧
        GrammarMatch initialCpicErrorPreambleGrammar (fields.take m.fieldCount) taken) ∧
      ∀ count ≤ fields.length, (∃ chosen,
        GrammarMatch initialCpicErrorPreambleGrammar (fields.take count) chosen) →
        count ≤ m.fieldCount := by
  refine ⟨matchInitialCpicRichGrammar_isSome, matchInitialCpicErrorPreamble_isSome,
    fun m h => ?_⟩
  obtain ⟨taken, htags, hmatch, hlongest⟩ := matchInitialCpicErrorPreamble_longest h
  refine ⟨⟨taken, htags, hmatch⟩, fun count hcount ⟨chosen, hchosen⟩ => ?_⟩
  have hshorter := (hlongest count chosen hchosen).length_le
  rw [← hchosen.accepted.length_eq, ← hmatch.accepted.length_eq, List.length_take,
    List.length_take] at hshorter
  omega

/-- An error preamble without the coordinates which may be absent, and one more field. -/
def sampleErrorFields : List CpicField :=
  [⟨CpicTag.protocolVersion, Bytes.alloc 4⟩, ⟨CpicTag.capabilities, Bytes.alloc 11⟩,
    ⟨CpicTag.systemCodePage, Bytes.alloc 8⟩, ⟨CpicTag.clientAddress, Bytes.alloc 20⟩,
    ⟨CpicTag.partnerSystem, Bytes.alloc 6⟩, ⟨CpicTag.partnerHost, Bytes.alloc 12⟩,
    ⟨CpicTag.connectionType, Bytes.alloc 2⟩, ⟨CpicTag.kernelPatch, Bytes.alloc 8⟩,
    ⟨CpicTag.kernelRelease, Bytes.alloc 8⟩, ⟨CpicTag.destination, Bytes.alloc 8⟩,
    ⟨CpicTag.program, Bytes.alloc 16⟩, ⟨CpicTag.responseStart, []⟩, ⟨0x0402, Bytes.alloc 3⟩]

theorem logonGrammars_admit_sample :
    ∃ m, matchInitialCpicErrorPreamble sampleErrorFields = some m ∧ 12 ≤ m.fieldCount := by
  have hfound : (matchInitialCpicErrorPreamble sampleErrorFields).isSome = true := by decide
  obtain ⟨m, hm⟩ := Option.isSome_iff_exists.mp hfound
  obtain ⟨-, -, hmatch⟩ := logonGrammars_admit sampleErrorFields
  refine ⟨m, hm, (hmatch m hm).2 12 (by decide) ?_⟩
  exact ⟨initialCpicErrorPreambleGrammar.filter (!·.isOptional),
    ⟨by repeat constructor, by repeat constructor⟩⟩

end OpenRfc.Cpic
