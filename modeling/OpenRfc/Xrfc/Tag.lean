import OpenRfc.Values.UnicodeScalar

/-!
The tags of xRFC documents. A tag spells the name of a parameter, a field or a namespace, and
escapes what may not stand in the name of an XML element.
-/

namespace OpenRfc.Xrfc
open Fallible Values

def isDigit (unit : UInt16) : Bool := 0x30 ≤ unit && unit ≤ 0x39
def isUpper (unit : UInt16) : Bool := 0x41 ≤ unit && unit ≤ 0x5a
def isLower (unit : UInt16) : Bool := 0x61 ≤ unit && unit ≤ 0x7a

/-- May a code unit stand for itself, at the front of a tag or behind it? The halves of a
surrogate pair, as all characters behind Latin-1, may. -/
def isTagUnit (first : Bool) (unit : UInt16) : Bool :=
  isUpper unit || isLower unit || unit == 0x5f || (!first && isDigit unit) || 0xff < unit

def hexDigit (n : Nat) : UInt16 := UInt16.ofNat (if n < 10 then 0x30 + n else 0x41 + (n - 10))

/-- `_-` for a slash, and `_--` with two hexadecimal digits for anything else -/
def escapeUnit (first : Bool) (unit : UInt16) : JsString :=
  if isTagUnit first unit then [unit]
  else if unit = 0x2f then [0x5f, 0x2d]
  else [0x5f, 0x2d, 0x2d, hexDigit (unit.toNat / 16), hexDigit (unit.toNat % 16)]

def escapeUnits : JsString → JsString
  | [] => []
  | unit :: units => escapeUnit true unit ++ units.flatMap (escapeUnit false)

def escapeRecursiveXrfcTag (name : JsString) : Except String JsString := do
  require (name ≠ []) "xRFC tag name must be a non-empty string"
  assertUnicodeScalarText name "xRFC tag name"
  .ok (escapeUnits name)

/-- `/^[0-9A-F]$/u`, and the value of the digit -/
def hexValue? (unit : UInt16) : Option Nat :=
  if isDigit unit then some (unit.toNat - 0x30)
  else if 0x41 ≤ unit ∧ unit ≤ 0x46 then some (unit.toNat - 0x41 + 10)
  else none

def invalidTagEscape : String := "xRFC XML parameter contains an invalid tag escape"

/-- The loop over the code units of a tag. -/
def unescapeUnits : JsString → Except String JsString
  | [] => .ok []
  | 0x5f :: 0x2d :: 0x2d :: high :: low :: units =>
    match hexValue? high, hexValue? low with
    | some high, some low => do
      let rest ← unescapeUnits units
      .ok (UInt16.ofNat (16 * high + low) :: rest)
    | _, _ => .error invalidTagEscape
  | 0x5f :: 0x2d :: 0x2d :: _ => .error invalidTagEscape
  | 0x5f :: 0x2d :: units => do
    let rest ← unescapeUnits units
    .ok (0x2f :: rest)
  | unit :: units => do
    let rest ← unescapeUnits units
    .ok (unit :: rest)

def unescapeRecursiveXrfcTag (value : JsString) : Except String JsString := do
  let result ← unescapeUnits value
  assertUnicodeScalarText result "xRFC tag name"
  let escaped ← escapeRecursiveXrfcTag result
  require (escaped = value) "xRFC XML parameter contains a non-canonical tag escape"
  .ok result

def defaultMaxParameterBytes : Nat := 256 * 1024 * 1024

/-- Read the name of a parameter from the root of its document. -/
def decodeRecursiveXrfcParameterName (value : Bytes) : Except String JsString := do
  require (value.length ≠ 0 ∧ value.length ≤ defaultMaxParameterBytes)
    s!"recursive xRFC XML must contain 1..{defaultMaxParameterBytes} bytes"
  require (value.take 3 ≠ [0xef, 0xbb, 0xbf]) "recursive xRFC XML must not contain a UTF-8 BOM"
  match JsString.ofUtf8? value with
  | none => .error "The encoded data was not valid for encoding utf-8"
  | some text => do
    require (text.head? = some 0x3c) "recursive xRFC XML lacks its top-level tag"
    let end_ := text.idxOf 0x3e
    let tag := (text.take end_).drop 1
    require (end_ < text.length ∧ 2 ≤ end_ ∧ end_ ≤ 256 ∧ 0x3c ∉ tag)
      "recursive xRFC XML lacks a supported top-level tag"
    unescapeRecursiveXrfcTag tag


section Units
variable {first : Bool} {unit : UInt16} {rest out : JsString}

theorem isTagUnit_hyphen (first : Bool) : isTagUnit first 0x2d = false := by
  cases first <;> decide

theorem hexValue_hexDigit : ∀ n < 16, hexValue? (hexDigit n) = some n := by decide

/-- What is not kept as it is belongs to Latin-1. -/
theorem le_of_not_isTagUnit (h : isTagUnit first unit = false) : unit.toNat ≤ 0xff := by
  simp only [isTagUnit, Bool.or_eq_false_iff, decide_eq_false_iff_not] at h
  exact UInt16.le_iff_toNat_le.mp (UInt16.not_lt.mp h.2)

theorem head_escapeUnit (first : Bool) (unit : UInt16) :
    ∃ head tail, escapeUnit first unit = head :: tail ∧ head ≠ 0x2d := by
  unfold escapeUnit
  split
  · rename_i h
    refine ⟨unit, [], rfl, ?_⟩
    rintro rfl
    rw [isTagUnit_hyphen] at h
    exact absurd h nofun
  · split
    · exact ⟨0x5f, _, rfl, by decide⟩
    · exact ⟨0x5f, _, rfl, by decide⟩

theorem head_flatMap_escapeUnit (first : Bool) (units : JsString) :
    (units.flatMap (escapeUnit first)).head? ≠ some 0x2d := by
  cases units with
  | nil => exact nofun
  | cons unit units =>
      obtain ⟨head, tail, he, hne⟩ := head_escapeUnit first unit
      rw [List.flatMap_cons, he, List.cons_append, List.head?_cons]
      exact fun h => hne (Option.some.inj h)

/-- A unit which begins no escape stands for itself. -/
theorem unescapeUnits_plain (h : unescapeUnits rest = .ok out)
    (hplain : unit = 0x5f → rest.head? ≠ some 0x2d) : unescapeUnits (unit :: rest) = .ok (unit :: out) := by
  rw [unescapeUnits]
  · rw [h]
    rfl
  · rintro high low units rfl rfl
    exact hplain rfl rfl
  · rintro units rfl rfl
    exact hplain rfl rfl
  · rintro units rfl rfl
    exact hplain rfl rfl

theorem unescapeUnits_slash (h : unescapeUnits rest = .ok out) (hrest : rest.head? ≠ some 0x2d) :
    unescapeUnits (0x5f :: 0x2d :: rest) = .ok (0x2f :: out) := by
  rw [unescapeUnits]
  · rw [h]
    rfl
  · rintro high low units rfl
    exact hrest rfl
  · rintro units rfl
    exact hrest rfl

theorem unescapeUnits_hex (h : unescapeUnits rest = .ok out) (hunit : unit.toNat ≤ 0xff) :
    unescapeUnits (0x5f :: 0x2d :: 0x2d :: hexDigit (unit.toNat / 16) :: hexDigit (unit.toNat % 16) :: rest) =
      .ok (unit :: out) := by
  rw [unescapeUnits, hexValue_hexDigit _ (by omega), hexValue_hexDigit _ (by omega)]
  dsimp only
  rw [h, ok_bind, Nat.div_add_mod, UInt16.ofNat_toNat]

theorem unescapeUnits_escapeUnit (h : unescapeUnits rest = .ok out) (hrest : rest.head? ≠ some 0x2d) :
    unescapeUnits (escapeUnit first unit ++ rest) = .ok (unit :: out) := by
  unfold escapeUnit
  split
  · exact unescapeUnits_plain h fun _ => hrest
  · rename_i hescaped
    split
    · rename_i hslash
      rw [hslash]
      exact unescapeUnits_slash h hrest
    · exact unescapeUnits_hex h (le_of_not_isTagUnit (Bool.eq_false_of_not_eq_true hescaped))

theorem unescapeUnits_flatMap (units : JsString) :
    unescapeUnits (units.flatMap (escapeUnit false)) = .ok units := by
  induction units with
  | nil => rfl
  | cons unit units ih =>
      exact unescapeUnits_escapeUnit ih (head_flatMap_escapeUnit false units)

theorem unescapeUnits_escapeUnits (name : JsString) : unescapeUnits (escapeUnits name) = .ok name := by
  cases name with
  | nil => rfl
  | cons unit units =>
      exact unescapeUnits_escapeUnit (unescapeUnits_flatMap units) (head_flatMap_escapeUnit false units)

end Units

section Tags
variable {name tag : JsString}

theorem escapeRecursiveXrfcTag_eq_ok :
    escapeRecursiveXrfcTag name = .ok tag ↔
      name ≠ [] ∧ name.isWellFormed = true ∧ escapeUnits name = tag := by
  simp only [escapeRecursiveXrfcTag, bind_eq_ok, require_eq_ok, assertUnicodeScalarText_eq_ok, exists_const,
    Except.ok.injEq]

theorem escape_of_unescape (h : unescapeRecursiveXrfcTag tag = .ok name) :
    escapeRecursiveXrfcTag name = .ok tag := by
  simp only [unescapeRecursiveXrfcTag, bind_eq_ok, require_eq_ok, exists_const, Except.ok.injEq] at h
  obtain ⟨result, -, _, -, escaped, hescape, rfl, rfl⟩ := h
  exact hescape

theorem unescape_of_escape (h : escapeRecursiveXrfcTag name = .ok tag) :
    unescapeRecursiveXrfcTag tag = .ok name := by
  obtain ⟨-, hformed, rfl⟩ := escapeRecursiveXrfcTag_eq_ok.mp h
  have hchecked : assertUnicodeScalarText name "xRFC tag name" = .ok () :=
    assertUnicodeScalarText_eq_ok.mpr hformed
  rw [unescapeRecursiveXrfcTag, unescapeUnits_escapeUnits, ok_bind, hchecked, ok_bind, h, ok_bind,
    require_of rfl, ok_bind]

/-- Every name has a tag which denotes it, and no other name has the tag. The tags which are accepted
are the ones of names, and each denotes one name, which no other tag denotes. -/
theorem tags_denote_names :
    (∀ name : JsString, name ≠ [] → name.isWellFormed = true →
      ∃ tag, escapeRecursiveXrfcTag name = .ok tag ∧ unescapeRecursiveXrfcTag tag = .ok name) ∧
    (∀ name name' tag, escapeRecursiveXrfcTag name = .ok tag →
      escapeRecursiveXrfcTag name' = .ok tag → name = name') ∧
    (∀ tag name, unescapeRecursiveXrfcTag tag = .ok name ↔ escapeRecursiveXrfcTag name = .ok tag) ∧
    ∀ tag tag' name, unescapeRecursiveXrfcTag tag = .ok name →
      unescapeRecursiveXrfcTag tag' = .ok name → tag = tag' := by
  refine ⟨?_, ?_, ?_, ?_⟩
  · intro name hne hformed
    have hescape : escapeRecursiveXrfcTag name = .ok (escapeUnits name) :=
      escapeRecursiveXrfcTag_eq_ok.mpr ⟨hne, hformed, rfl⟩
    exact ⟨escapeUnits name, hescape, unescape_of_escape hescape⟩
  · intro name name' tag h h'
    exact Except.ok.inj ((unescape_of_escape h).symm.trans (unescape_of_escape h'))
  · exact fun tag name => ⟨escape_of_unescape, unescape_of_escape⟩
  · intro tag tag' name h h'
    exact Except.ok.inj ((escape_of_unescape h).symm.trans (escape_of_unescape h'))

/-- `/A-` is spelled `_-A_--2D`. -/
example : escapeRecursiveXrfcTag [0x2f, 0x41, 0x2d] =
    .ok [0x5f, 0x2d, 0x41, 0x5f, 0x2d, 0x2d, 0x32, 0x44] := by
  rfl

end Tags
end OpenRfc.Xrfc
