import OpenRfc.Xrfc.Markup

/-!
What is written is read again: tags, escaped text, and the bytes of base64. The length which is
planned is the one which is written.
-/

namespace OpenRfc.Xrfc
open Fallible Values
open JsString (ofChar ofChars)

section Escaping

/-- The characters of which XML documents consist. -/
def XmlCodePoint (n : Nat) : Prop :=
  ¬(n = 0 ∨ n < 0x20 ∧ n ≠ 0x09 ∧ n ≠ 0x0a ∧ n ≠ 0x0d ∨ n = 0xfffe ∨ n = 0xffff)

theorem assertXmlCodePoint_eq_ok {n : Nat} {path : String} {u : Unit} :
    assertXmlCodePoint n path = .ok u ↔ XmlCodePoint n := by
  rw [assertXmlCodePoint, require_eq_ok, XmlCodePoint]

theorem assertXmlCodePoints_eq_ok {path : String} {cs : List Char} {u : Unit} :
    assertXmlCodePoints path cs = .ok u ↔ ∀ c ∈ cs, XmlCodePoint c.toNat := by
  induction cs with
  | nil => exact iff_of_true rfl nofun
  | cons c cs ih =>
      simp only [assertXmlCodePoints, bind_eq_ok, assertXmlCodePoint_eq_ok, exists_const, ih,
        List.forall_mem_cons]

/-- A text of XML characters. -/
def XmlText (s : JsString) : Prop := s.isWellFormed = true ∧ ∀ c ∈ s.chars, XmlCodePoint c.toNat

def escapeChar (c : Char) : List Char :=
  if c = '&' then ['&', '#', '3', '8', ';']
  else if c = '<' then ['&', '#', '6', '0', ';']
  else if c = '>' then ['&', '#', '6', '2', ';']
  else [c]

/-- The markup of a text. -/
def escape (s : JsString) : JsString := ofChars (s.chars.flatMap escapeChar)

theorem isWellFormed_escape (s : JsString) : (escape s).isWellFormed = true :=
  JsString.isWellFormed_ofChars _

theorem utf8_escape (s : JsString) :
    (escape s).utf8 = s.chars.flatMap fun c => (escapeChar c).flatMap String.utf8EncodeChar := by
  rw [escape, JsString.utf8_ofChars, List.flatMap_assoc]

theorem length_escapeChar (c : Char) : ((escapeChar c).flatMap String.utf8EncodeChar).length =
    if c = '&' ∨ c = '<' ∨ c = '>' then 5 else c.utf8Size := by
  unfold escapeChar
  split
  · rename_i h
    rw [if_pos (.inl h)]
    rfl
  · split
    · rename_i h
      rw [if_pos (.inr (.inl h))]
      rfl
    · split
      · rename_i h
        rw [if_pos (.inr (.inr h))]
        rfl
      · rename_i h₁ h₂ h₃
        rw [if_neg (not_or.mpr ⟨h₁, not_or.mpr ⟨h₂, h₃⟩⟩), List.flatMap_singleton,
          String.length_utf8EncodeChar]

theorem checkedClassicXrfcLength_eq_ok {current additional n : Nat} {label : String}
    (h : checkedClassicXrfcLength current additional label = .ok n) : n = current + additional := by
  simp only [checkedClassicXrfcLength, bind_eq_ok, require_eq_ok, exists_const, Except.ok.injEq] at h
  exact h.2.symm

theorem escapedByteLength_eq_ok {path : String} {cs : List Char} {n m : Nat}
    (h : escapedByteLength path cs n = .ok m) : (∀ c ∈ cs, XmlCodePoint c.toNat) ∧
      m = n + (cs.flatMap fun c => (escapeChar c).flatMap String.utf8EncodeChar).length := by
  induction cs generalizing n with
  | nil => exact ⟨nofun, (Except.ok.inj h).symm⟩
  | cons c cs ih =>
      simp only [escapedByteLength, bind_eq_ok, assertXmlCodePoint_eq_ok, exists_const] at h
      obtain ⟨hc, next, hnext, h⟩ := h
      obtain ⟨hcs, hm⟩ := ih h
      refine ⟨List.forall_mem_cons.mpr ⟨hc, hcs⟩, ?_⟩
      rw [hm, checkedClassicXrfcLength_eq_ok hnext, List.flatMap_cons, List.length_append,
        length_escapeChar, Nat.add_assoc]

theorem escapedClassicXrfcXmlByteLength_eq_ok {s : JsString} {path : String} {n : Nat}
    (h : escapedClassicXrfcXmlByteLength s path = .ok n) :
    XmlText s ∧ n = (escape s).utf8.length := by
  obtain ⟨_, hformed, h⟩ := bind_eq_ok.mp h
  obtain ⟨hcs, hn⟩ := escapedByteLength_eq_ok h
  exact ⟨⟨assertUnicodeScalarText_eq_ok.mp hformed, hcs⟩, by rw [hn, Nat.zero_add, utf8_escape]⟩

end Escaping

section Writing

/-- A buffer which is filled with some bytes. -/
def Target.holding (capacity : Nat) (written : Bytes) : Target :=
  ⟨written ++ Bytes.alloc (capacity - written.length), written.length⟩

variable {capacity : Nat} {written : Bytes}

theorem writeAscii_holding {value : JsString} (h : written.length + value.length ≤ capacity) :
    writeAscii (Target.holding capacity written) value =
      Target.holding capacity (written ++ value.map UInt16.toUInt8) := by
  have hfits : (value.map UInt16.toUInt8).length ≤ capacity - written.length := by
    rw [List.length_map]
    omega
  have hroom : Bytes.room (written ++ Bytes.alloc (capacity - written.length)) written.length
      (value.map UInt16.toUInt8) = value.length := by
    rw [Bytes.room_of_fits, List.length_map]
    rw [List.length_append, Bytes.length_alloc]
    omega
  rw [writeAscii, Target.holding, Target.holding]
  dsimp only
  rw [hroom, Bytes.write_alloc _ _ rfl hfits, List.length_append, List.length_map, Nat.sub_sub]

theorem writeCharacter_holding {c : Char}
    (h : written.length + (String.utf8EncodeChar c).length ≤ capacity) :
    writeCharacter (Target.holding capacity written) c =
      Target.holding capacity (written ++ String.utf8EncodeChar c) := by
  rw [writeCharacter, Target.holding, Target.holding]
  dsimp only
  rw [if_pos, Bytes.write_alloc _ _ rfl (by omega), List.length_append, Nat.sub_sub]
  rw [List.length_append, Bytes.length_alloc]
  omega

theorem writeEscapedCharacter_holding {c : Char}
    (h : written.length + ((escapeChar c).flatMap String.utf8EncodeChar).length ≤ capacity) :
    writeEscapedCharacter (Target.holding capacity written) c =
      Target.holding capacity (written ++ (escapeChar c).flatMap String.utf8EncodeChar) := by
  unfold escapeChar at h ⊢
  unfold writeEscapedCharacter
  split
  · rename_i hc
    rw [if_pos hc] at h
    exact writeAscii_holding h
  · rename_i hc
    rw [if_neg hc] at h
    split
    · rename_i hc
      rw [if_pos hc] at h
      exact writeAscii_holding h
    · rename_i hc
      rw [if_neg hc] at h
      split
      · rename_i hc
        rw [if_pos hc] at h
        exact writeAscii_holding h
      · rename_i hc
        rw [if_neg hc, List.flatMap_singleton] at h
        rw [List.flatMap_singleton]
        exact writeCharacter_holding h

theorem writeEscapedClassicXrfcText_holding {value : JsString}
    (h : written.length + (escape value).utf8.length ≤ capacity) :
    writeEscapedClassicXrfcText (Target.holding capacity written) value =
      Target.holding capacity (written ++ (escape value).utf8) := by
  rw [utf8_escape] at h ⊢
  rw [writeEscapedClassicXrfcText]
  generalize value.chars = cs at h
  induction cs generalizing written with
  | nil => rw [List.foldl_nil, List.flatMap_nil, List.append_nil]
  | cons c cs ih =>
      rw [List.flatMap_cons, List.length_append] at h
      rw [List.foldl_cons, writeEscapedCharacter_holding (by omega), ih, List.flatMap_cons,
        List.append_assoc]
      rw [List.length_append]
      omega

end Writing

section Tags
variable {name : JsString}

theorem ascii_of_isNameUnit {unit : UInt16} (h : isNameUnit unit = true) : unit < 0x80 := by
  simp only [isNameUnit, isNameStart, isUpper, isLower, isDigit, Bool.or_eq_true, Bool.and_eq_true,
    decide_eq_true_eq, beq_iff_eq] at h
  grind

theorem isNameUnit_of_mem (h : isSimpleXmlName name = true) :
    ∀ unit ∈ name, isNameUnit unit = true := by
  cases name with
  | nil => exact absurd h nofun
  | cons unit units =>
      rw [isSimpleXmlName, Bool.and_eq_true, List.all_eq_true] at h
      rw [List.forall_mem_cons, isNameUnit, h.1]
      exact ⟨rfl, h.2⟩

theorem ascii_openTag (h : isSimpleXmlName name = true) : ∀ unit ∈ openTag name, unit < 0x80 := by
  intro unit hunit
  simp only [openTag, List.mem_cons, List.mem_append, List.not_mem_nil, or_false] at hunit
  obtain rfl | hunit | rfl := hunit
  · decide
  · exact ascii_of_isNameUnit (isNameUnit_of_mem h unit hunit)
  · decide

theorem ascii_closeTag (h : isSimpleXmlName name = true) : ∀ unit ∈ closeTag name, unit < 0x80 := by
  intro unit hunit
  simp only [closeTag, List.mem_cons, List.mem_append, List.not_mem_nil, or_false] at hunit
  obtain rfl | rfl | hunit | rfl := hunit
  · decide
  · decide
  · exact ascii_of_isNameUnit (isNameUnit_of_mem h unit hunit)
  · decide

theorem length_openTag (name : JsString) : (openTag name).length = classicXrfcOpenTagByteLength name := by
  simp [openTag, classicXrfcOpenTagByteLength]

theorem length_closeTag (name : JsString) : (closeTag name).length = classicXrfcCloseTagByteLength name := by
  simp [closeTag, classicXrfcCloseTagByteLength]

/-- Writing markup behind what a buffer holds, where there is room for it. -/
structure Writes (capacity : Nat) (write : Target → Target) (markup : JsString) : Prop where
  wellFormed : markup.isWellFormed = true
  holding : ∀ written : Bytes, written.length + markup.utf8.length ≤ capacity →
    write (Target.holding capacity written) = Target.holding capacity (written ++ markup.utf8)

variable {capacity : Nat}

theorem writes_nil : Writes capacity id [] :=
  ⟨rfl, fun written _ => congrArg (Target.holding capacity) (List.append_nil written).symm⟩

theorem Writes.append {write write' : Target → Target} {markup markup' : JsString}
    (h : Writes capacity write markup) (h' : Writes capacity write' markup') :
    Writes capacity (fun target => write' (write target)) (markup ++ markup') := by
  refine ⟨(JsString.isWellFormed_append h.wellFormed).trans h'.wellFormed, ?_⟩
  intro written hfits
  rw [JsString.utf8_append h.wellFormed, List.length_append] at hfits
  rw [h.holding written (by omega), h'.holding _ (by rw [List.length_append]; omega),
    JsString.utf8_append h.wellFormed, List.append_assoc]

theorem Writes.foldl {α : Type} {write : Target → α → Target} {markup : α → JsString} {xs : List α}
    (h : ∀ x ∈ xs, Writes capacity (fun target => write target x) (markup x)) :
    Writes capacity (fun target => xs.foldl write target) (xs.flatMap markup) := by
  induction xs with
  | nil => exact writes_nil
  | cons x xs ih =>
      obtain ⟨hx, hxs⟩ := List.forall_mem_cons.mp h
      exact hx.append (ih hxs)

theorem writes_ascii {token : JsString} (hascii : ∀ unit ∈ token, unit < 0x80) :
    Writes capacity (fun target => writeAscii target token) token := by
  refine ⟨JsString.isWellFormed_of_ascii hascii, ?_⟩
  intro written hfits
  rw [JsString.utf8_of_ascii hascii, List.length_map] at hfits
  rw [writeAscii_holding hfits, JsString.utf8_of_ascii hascii]

theorem writes_openTag (h : isSimpleXmlName name = true) :
    Writes capacity (fun target => writeClassicXrfcOpenTag target name) (openTag name) :=
  writes_ascii (ascii_openTag h)

theorem writes_closeTag (h : isSimpleXmlName name = true) :
    Writes capacity (fun target => writeClassicXrfcCloseTag target name) (closeTag name) :=
  writes_ascii (ascii_closeTag h)

theorem writes_escape (s : JsString) :
    Writes capacity (fun target => writeEscapedClassicXrfcText target s) (escape s) :=
  ⟨isWellFormed_escape s, fun _ hfits => writeEscapedClassicXrfcText_holding hfits⟩

/-- The element of a name. -/
def element (name content : JsString) : JsString := openTag name ++ content ++ closeTag name

theorem isWellFormed_element {content : JsString} (h : isSimpleXmlName name = true)
    (hcontent : content.isWellFormed = true) : (element name content).isWellFormed = true := by
  rw [element, List.append_assoc,
    JsString.isWellFormed_append (JsString.isWellFormed_of_ascii (ascii_openTag h)),
    JsString.isWellFormed_append hcontent, JsString.isWellFormed_of_ascii (ascii_closeTag h)]

theorem length_utf8_element {content : JsString} (h : isSimpleXmlName name = true)
    (hcontent : content.isWellFormed = true) : (element name content).utf8.length =
      classicXrfcOpenTagByteLength name + content.utf8.length + classicXrfcCloseTagByteLength name := by
  rw [element, List.append_assoc,
    JsString.utf8_append (JsString.isWellFormed_of_ascii (ascii_openTag h)),
    JsString.utf8_append hcontent, JsString.utf8_of_ascii (ascii_openTag h),
    JsString.utf8_of_ascii (ascii_closeTag h), List.length_append, List.length_append, List.length_map,
    List.length_map, length_openTag, length_closeTag, Nat.add_assoc]

end Tags

section References

theorem not_mem_ofChar {c : Char} {unit : UInt16} (hunit : unit.toNat < 0xd800)
    (hne : c.toNat ≠ unit.toNat) : unit ∉ ofChar c := by
  intro hmem
  have hchar : unit ∈ ofChars [c] := by simpa [ofChars] using hmem
  obtain ⟨d, hd, he⟩ := JsString.mem_ofChars hchar hunit
  rw [List.mem_singleton.mp hd] at he
  exact hne he

section Loop
variable {path : String} {policy : Nat → Except String Unit} {raw result : JsString} {rounds : Nat}

/-- Text in front of the first reference is kept. -/
theorem decodeReferences_append {plain : JsString} (hplain : 0x26 ∉ plain)
    (h : decodeReferences path policy (rounds + 1) raw = .ok result) :
    decodeReferences path policy (rounds + 1) (plain ++ raw) = .ok (plain ++ result) := by
  have htake : (plain ++ raw).takeWhile (· ≠ 0x26) = plain ++ raw.takeWhile (· ≠ 0x26) := by
    apply List.takeWhile_append_of_pos
    intro unit hunit
    exact decide_eq_true fun he => hplain (he ▸ hunit)
  rw [decodeReferences] at h ⊢
  dsimp only at h ⊢
  rw [htake, List.length_append, List.drop_append, List.drop_eq_nil_of_le (by omega),
    List.nil_append, Nat.add_sub_cancel_left]
  split at h
  · rename_i hdrop
    rw [Except.ok.inj h]
  · rename_i rest hdrop
    obtain ⟨⟨codePoint, length⟩, hreference, h⟩ := bind_eq_ok.mp h
    obtain ⟨_, hcode, h⟩ := bind_eq_ok.mp h
    obtain ⟨after, hafter, h⟩ := bind_eq_ok.mp h
    rw [hreference, ok_bind, hcode, ok_bind, hafter, ok_bind, ← Except.ok.inj h]
    simp only [List.append_assoc]

/-- A reference is read as its character. -/
theorem decodeReferences_reference {c : Char} (body : JsString)
    (hreference : decodeXmlEntityReference (body ++ raw) path = .ok (c.toNat, body.length))
    (hc : policy c.toNat = .ok ()) (h : decodeReferences path policy rounds raw = .ok result) :
    decodeReferences path policy (rounds + 1) (0x26 :: (body ++ raw)) = .ok (ofChar c ++ result) := by
  have htake : List.takeWhile (· ≠ 0x26) (0x26 :: (body ++ raw)) = [] := rfl
  rw [decodeReferences, htake]
  simp only [List.length_nil, List.drop_zero, hreference, ok_bind, hc, List.drop_left, h,
    Char.ofNat_toNat, List.nil_append]

theorem decodeEntitiesLoop_eq (path : String) :
    decodeEntitiesLoop path = decodeReferences path (assertXmlCodePoint · path) := by
  funext rounds
  induction rounds with
  | zero => rfl
  | succ rounds ih =>
      funext raw
      simp only [decodeEntitiesLoop, decodeReferences, ih]

end Loop

theorem decodeEntitiesLoop_escape {path : String} {cs : List Char} {rounds : Nat}
    (hrounds : cs.length ≤ rounds) :
    decodeEntitiesLoop path (rounds + 1) (ofChars (cs.flatMap escapeChar)) = .ok (ofChars cs) := by
  rw [decodeEntitiesLoop_eq]
  induction cs generalizing rounds with
  | nil => rfl
  | cons c cs ih =>
      rw [List.length_cons] at hrounds
      obtain ⟨rounds, rfl⟩ : ∃ n, rounds = n + 1 := ⟨rounds - 1, by omega⟩
      rw [List.flatMap_cons, JsString.ofChars_append, JsString.ofChars_cons]
      unfold escapeChar
      split
      · rename_i hc
        subst hc
        exact decodeReferences_reference [0x23, 0x33, 0x38, 0x3b] rfl rfl (ih (by omega))
      · split
        · rename_i hc
          subst hc
          exact decodeReferences_reference [0x23, 0x36, 0x30, 0x3b] rfl rfl (ih (by omega))
        · split
          · rename_i hc
            subst hc
            exact decodeReferences_reference [0x23, 0x36, 0x32, 0x3b] rfl rfl
              (ih (by omega))
          · rename_i hne _ _
            have hplain : 0x26 ∉ ofChar c := by
              apply not_mem_ofChar (by decide)
              intro he
              apply hne
              rw [← Char.ofNat_toNat c, he]
              rfl
            have hsingle : ofChars [c] = ofChar c := List.append_nil _
            rw [hsingle]
            exact decodeReferences_append hplain (ih (by omega))

theorem length_le_ofChars (cs : List Char) : cs.length ≤ (ofChars cs).length := by
  induction cs with
  | nil => exact le_rfl
  | cons c cs ih =>
      have hpos := List.length_pos_iff.mpr (JsString.ofChar_ne_nil c)
      rw [JsString.ofChars_cons, List.length_append, List.length_cons]
      omega

theorem length_le_escapeChars (cs : List Char) : cs.length ≤ (cs.flatMap escapeChar).length := by
  induction cs with
  | nil => exact le_rfl
  | cons c cs ih =>
      have hpos : 1 ≤ (escapeChar c).length := by
        unfold escapeChar
        split_ifs <;> simp
      rw [List.flatMap_cons, List.length_append, List.length_cons]
      omega

theorem decodeEntities_escape {s : JsString} (h : XmlText s) (path : String) :
    decodeEntities (escape s) path = .ok s := by
  have hrounds : s.chars.length ≤ (escape s).length :=
    (length_le_escapeChars _).trans (length_le_ofChars _)
  have hloop : decodeEntitiesLoop path ((escape s).length + 1) (escape s) = .ok s := by
    conv_rhs => rw [← JsString.ofChars_chars h.1]
    exact decodeEntitiesLoop_escape hrounds
  have hformed : assertUnicodeScalarText s path = .ok () := assertUnicodeScalarText_eq_ok.mpr h.1
  have hchecked : assertXmlCodePoints path s.chars = .ok () := assertXmlCodePoints_eq_ok.mpr h.2
  rw [decodeEntities, hloop, ok_bind, hformed, ok_bind, hchecked, ok_bind]

end References

section Base64
variable (bytes : Bytes)

/-- The characters of base64 are written as they are. -/
theorem plain_encode : ∀ unit ∈ Base64.encode bytes, unit < 0x80 ∧ 0x20 ≤ unit ∧
    unit ≠ 0x26 ∧ unit ≠ 0x3c ∧ unit ≠ 0x3e := by
  intro unit hunit
  obtain rfl | ⟨sextet, rfl⟩ := Base64.mem_encode hunit
  · decide
  · clear hunit
    revert sextet
    decide

theorem xmlText_of_ascii {s : JsString} (hs : ∀ unit ∈ s, unit < 0x80 ∧ 0x20 ≤ unit) : XmlText s := by
  have hascii : ∀ unit ∈ s, unit < 0x80 := fun unit hunit => (hs unit hunit).1
  refine ⟨JsString.isWellFormed_of_ascii hascii, ?_⟩
  rw [JsString.chars_of_lt hascii]
  intro c hc
  obtain ⟨unit, hunit, rfl⟩ := List.mem_map.mp hc
  have hlow : 0x20 ≤ unit.toNat := UInt16.le_iff_toNat_le.mp (hs unit hunit).2
  have hhigh : unit.toNat < 0x80 := UInt16.lt_iff_toNat_lt.mp (hs unit hunit).1
  rw [JsString.toNat_ofNat (.inl (by omega)), XmlCodePoint]
  omega

/-- Text without markup is written as it is. -/
theorem escape_of_plain {s : JsString} (hs : ∀ unit ∈ s, unit < 0x80 ∧ 0x20 ≤ unit ∧
    unit ≠ 0x26 ∧ unit ≠ 0x3c ∧ unit ≠ 0x3e) : escape s = s := by
  have hascii : ∀ unit ∈ s, unit < 0x80 := fun unit hunit => (hs unit hunit).1
  have hchars : s.chars.flatMap escapeChar = s.chars := by
    conv_rhs => rw [← List.flatMap_singleton' s.chars]
    apply List.flatMap_congr
    rw [JsString.chars_of_lt hascii]
    intro c hc
    obtain ⟨unit, hunit, rfl⟩ := List.mem_map.mp hc
    obtain ⟨hlt, -, hamp, hless, hgreater⟩ := hs unit hunit
    have hlt : unit.toNat < 0x80 := UInt16.lt_iff_toNat_lt.mp hlt
    have hne {c : Char} {other : UInt16} (hc : c.toNat = other.toNat) (h : unit ≠ other) :
        Char.ofNat unit.toNat ≠ c := by
      rintro rfl
      rw [JsString.toNat_ofNat (.inl (by omega))] at hc
      exact h (UInt16.toNat_inj.mp hc)
    rw [escapeChar, if_neg (hne rfl hamp), if_neg (hne rfl hless), if_neg (hne rfl hgreater)]
  rw [escape, hchars, JsString.ofChars_chars (JsString.isWellFormed_of_ascii hascii)]

theorem escape_encode : escape (Base64.encode bytes) = Base64.encode bytes :=
  escape_of_plain (plain_encode bytes)

theorem xmlText_encode : XmlText (Base64.encode bytes) :=
  xmlText_of_ascii fun unit hunit => ⟨(plain_encode bytes unit hunit).1, (plain_encode bytes unit hunit).2.1⟩

theorem utf8_encode : (Base64.encode bytes).utf8 = (Base64.encode bytes).map UInt16.toUInt8 :=
  JsString.utf8_of_ascii fun unit hunit => (plain_encode bytes unit hunit).1

theorem decodeClassicXrfcBase64_encode {maximum : Nat} (h : bytes.length ≤ maximum) (path : String) :
    decodeClassicXrfcBase64 (Base64.encode bytes) path maximum = .ok bytes := by
  have hfilter : (Base64.encode bytes).filter (fun unit => !(unit == 0x0d || unit == 0x0a)) =
      Base64.encode bytes := by
    rw [List.filter_eq_self]
    intro unit hunit
    have hlow := (plain_encode bytes unit hunit).2.1
    have hne {other : UInt16} (hother : other < 0x20) : (unit == other) = false := by
      rw [beq_eq_false_iff_ne]
      rintro rfl
      exact absurd (UInt16.lt_of_lt_of_le hother hlow) (UInt16.lt_irrefl _)
    rw [hne (by decide), hne (by decide)]
    rfl
  rw [decodeClassicXrfcBase64, hfilter]
  dsimp only
  split
  · rename_i hnil
    have hdecode := Base64.decode_of_encode bytes
    rw [hnil] at hdecode
    rw [← hdecode]
    rfl
  · rw [require_of (Base64.isPadded_encode bytes), ok_bind,
      require_of ((Base64.decodedLength_encode bytes).trans_le h), ok_bind, Base64.decode_of_encode,
      require_of rfl, ok_bind]

end Base64

namespace ExactClassicXrfcParser
variable {parser : ExactClassicXrfcParser} {name rest : JsString}

/-- A parser behind a text. -/
def skipText (parser : ExactClassicXrfcParser) (text : JsString) : ExactClassicXrfcParser :=
  parser.skip text.length text.utf8.length

theorem skipText_append {s : JsString} (h : s.isWellFormed = true) (t : JsString) :
    parser.skipText (s ++ t) = (parser.skipText s).skipText t := by
  simp only [skipText, skip, JsString.utf8_append h, List.length_append, List.drop_drop, Nat.add_assoc]

@[simp] theorem limits_skipText (text : JsString) : (parser.skipText text).limits = parser.limits := rfl

@[simp] theorem byteOffset_skipText (text : JsString) :
    (parser.skipText text).byteOffset = parser.byteOffset + text.utf8.length := rfl

theorem rest_skipText {text : JsString} (h : parser.rest = text ++ rest) :
    (parser.skipText text).rest = rest := by
  simp [skipText, skip, h]

theorem expect_ascii {token : JsString} (hascii : ∀ unit ∈ token, unit < 0x80)
    (h : parser.rest = token ++ rest) : parser.expect token = .ok (parser.skipText token) := by
  have hprefix : token <+: parser.rest := ⟨rest, h.symm⟩
  rw [expect, require_of hprefix, ok_bind, skipText, JsString.utf8_of_ascii hascii, List.length_map]

theorem openElement_of (hname : isSimpleXmlName name = true) (h : parser.rest = openTag name ++ rest) :
    parser.openElement name = .ok (parser.skipText (openTag name)) :=
  expect_ascii (ascii_openTag hname) h

theorem closeElement_of (hname : isSimpleXmlName name = true) (h : parser.rest = closeTag name ++ rest) :
    parser.closeElement name = .ok (parser.skipText (closeTag name)) :=
  expect_ascii (ascii_closeTag hname) h

/-- Markup has no angle brackets. -/
theorem not_mem_escape (s : JsString) : 0x3c ∉ escape s ∧ 0x3e ∉ escape s := by
  have hplain {unit : UInt16} (hunit : unit.toNat < 0xd800)
      (h : ∀ c d, d ∈ escapeChar c → d.toNat ≠ unit.toNat) : unit ∉ escape s := by
    intro hmem
    obtain ⟨d, hd, he⟩ := JsString.mem_ofChars hmem hunit
    obtain ⟨c, -, hc⟩ := List.mem_flatMap.mp hd
    exact h c d hc he
  have hchar (c d : Char) (hd : d ∈ escapeChar c) : d ≠ '<' ∧ d ≠ '>' := by
    unfold escapeChar at hd
    split_ifs at hd with hamp hless hgreater
    · simp only [List.mem_cons, List.not_mem_nil, or_false] at hd
      obtain rfl | rfl | rfl | rfl | rfl := hd <;> decide
    · simp only [List.mem_cons, List.not_mem_nil, or_false] at hd
      obtain rfl | rfl | rfl | rfl | rfl := hd <;> decide
    · simp only [List.mem_cons, List.not_mem_nil, or_false] at hd
      obtain rfl | rfl | rfl | rfl | rfl := hd <;> decide
    · rw [List.mem_singleton.mp hd]
      exact ⟨hless, hgreater⟩
  constructor
  · exact hplain (by decide) fun c d hd he => (hchar c d hd).1 (Char.toNat_inj.mp he)
  · exact hplain (by decide) fun c d hd he => (hchar c d hd).2 (Char.toNat_inj.mp he)

theorem cell_escape {s : JsString} (htext : XmlText s) (h : parser.rest = escape s ++ 0x3c :: rest)
    (hlimit : (escape s).utf8.length ≤ parser.limits.maxCellBytes) (path : String) :
    parser.cell path = .ok (s, parser.skipText (escape s)) := by
  obtain ⟨hless, hgreater⟩ := not_mem_escape s
  have htake : parser.rest.takeWhile (· ≠ 0x3c) = escape s := by
    have hmarkup : ∀ unit ∈ escape s, decide (unit ≠ 0x3c) = true := fun unit hunit =>
      decide_eq_true fun he => hless (he ▸ hunit)
    rw [h, List.takeWhile_append_of_pos hmarkup]
    simp
  have hshort : (escape s).length < parser.rest.length := by
    rw [h, List.length_append, List.length_cons]
    omega
  have hmark : ¬[0x5d, 0x5d, 0x3e] <:+: escape s := fun hmarks =>
    hgreater (hmarks.subset (by decide))
  rw [cell, htake, require_of hshort, ok_bind, require_of hmark, ok_bind]
  dsimp only
  rw [require_of hlimit, ok_bind, decodeEntities_escape htext, ok_bind, skipText]

theorem skipText_element {content : JsString} (hname : isSimpleXmlName name = true)
    (hcontent : content.isWellFormed = true) : parser.skipText (element name content) =
      ((parser.skipText (openTag name)).skipText content).skipText (closeTag name) := by
  rw [element, List.append_assoc, skipText_append (JsString.isWellFormed_of_ascii (ascii_openTag hname)),
    skipText_append hcontent]

/-- An element with a text is read as the text. -/
theorem read_cell {s : JsString} (hname : isSimpleXmlName name = true) (htext : XmlText s)
    (h : parser.rest = element name (escape s) ++ rest)
    (hlimit : (escape s).utf8.length ≤ parser.limits.maxCellBytes) (path : String) :
    parser.openElement name = .ok (parser.skipText (openTag name)) ∧
      (parser.skipText (openTag name)).cell path =
        .ok (s, (parser.skipText (openTag name)).skipText (escape s)) ∧
      ((parser.skipText (openTag name)).skipText (escape s)).closeElement name =
        .ok (parser.skipText (element name (escape s))) ∧
      (parser.skipText (element name (escape s))).rest = rest := by
  rw [element, List.append_assoc, List.append_assoc] at h
  have hopen := rest_skipText h
  have hclose := rest_skipText hopen
  refine ⟨openElement_of hname h, cell_escape htext hopen hlimit path, ?_, ?_⟩
  · rw [skipText_element hname (isWellFormed_escape s)]
    exact closeElement_of hname hclose
  · rw [skipText_element hname (isWellFormed_escape s)]
    exact rest_skipText hclose

end ExactClassicXrfcParser
end OpenRfc.Xrfc
