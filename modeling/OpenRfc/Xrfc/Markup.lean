import OpenRfc.Cpic.FieldChain
import OpenRfc.Foundation.Base64
import OpenRfc.Foundation.Double
import OpenRfc.Foundation.Numeral
import OpenRfc.Foundation.Utf8
import OpenRfc.Xrfc.Tag

/-!
The markup which the xRFC codecs share: limits, tags, escaped text and base64 in cells, and a parser
of documents which have elements and cells only.
-/

namespace OpenRfc.Xrfc
open Fallible Values
open Cpic (defaultMaxCpicFieldLength defaultMaxCpicFieldChainLength defaultMaxCpicFieldCount)

section Limits

structure ClassicXrfcLimits where
  maxCellBytes : Option Nat := none
  maxRowBytes : Option Nat := none
  maxParameterBytes : Option Nat := none
  maxRows : Option Nat := none

structure NormalizedClassicXrfcLimits where
  maxCellBytes : Nat
  maxRowBytes : Nat
  maxParameterBytes : Nat
  maxRows : Nat
deriving Repr

def boundedLimit (value : Option Nat) (fallback maximum : Nat) (label : String) :
    Except String Nat := do
  let normalized := value.getD fallback
  require (normalized ≤ maximum) s!"{label} must be an integer in 0..{maximum}"
  .ok normalized

def normalizeClassicXrfcLimits (limits : ClassicXrfcLimits) :
    Except String NormalizedClassicXrfcLimits := do
  let maxCellBytes ← boundedLimit limits.maxCellBytes defaultMaxCpicFieldLength
    defaultMaxCpicFieldLength "maxCellBytes"
  let maxRowBytes ← boundedLimit limits.maxRowBytes defaultMaxCpicFieldLength
    defaultMaxCpicFieldLength "maxRowBytes"
  let maxParameterBytes ← boundedLimit limits.maxParameterBytes defaultMaxCpicFieldChainLength
    defaultMaxCpicFieldChainLength "maxParameterBytes"
  let maxRows ← boundedLimit limits.maxRows defaultMaxCpicFieldCount 0xffffffff "maxRows"
  .ok ⟨maxCellBytes, maxRowBytes, maxParameterBytes, maxRows⟩

end Limits

section Tags

/-- `[A-Za-z_]` -/
def isNameStart (unit : UInt16) : Bool := isUpper unit || isLower unit || unit == 0x5f

/-- `[A-Za-z0-9_]` -/
def isNameUnit (unit : UInt16) : Bool := isNameStart unit || isDigit unit

/-- `/^[A-Za-z_][A-Za-z0-9_]*$/u` -/
def isSimpleXmlName : JsString → Bool
  | [] => false
  | unit :: units => isNameStart unit && units.all isNameUnit

def assertClassicXrfcXmlName (value : JsString) (label : String) : Except String Unit :=
  require (isSimpleXmlName value) s!"{label} must be a simple XML name supported by the proven xRFC subset"

def classicXrfcOpenTagByteLength (name : JsString) : Nat := name.length + 2
def classicXrfcCloseTagByteLength (name : JsString) : Nat := name.length + 3

def checkedClassicXrfcLength (current additional : Nat) (label : String) : Except String Nat := do
  require (current + additional ≤ Double.maxSafeInteger) s!"{label} encoded length is unsafe"
  .ok (current + additional)

def openTag (name : JsString) : JsString := 0x3c :: (name ++ [0x3e])
def closeTag (name : JsString) : JsString := 0x3c :: 0x2f :: (name ++ [0x3e])

end Tags

section Escapes

def assertXmlCodePoint (codePoint : Nat) (path : String) : Except String Unit :=
  require (¬(codePoint = 0 ∨ codePoint < 0x20 ∧ codePoint ≠ 0x09 ∧ codePoint ≠ 0x0a ∧ codePoint ≠ 0x0d ∨
      codePoint = 0xfffe ∨ codePoint = 0xffff))
    s!"{path} contains a character unsupported by XML 1.0"

/-- The loop over the characters of a text. -/
def escapedByteLength (path : String) : List Char → Nat → Except String Nat
  | [], byteLength => .ok byteLength
  | c :: cs, byteLength => do
    assertXmlCodePoint c.toNat path
    let byteLength ← checkedClassicXrfcLength byteLength
      (if c = '&' ∨ c = '<' ∨ c = '>' then 5 else c.utf8Size) path
    escapedByteLength path cs byteLength

def escapedClassicXrfcXmlByteLength (value : JsString) (path : String) : Except String Nat := do
  assertUnicodeScalarText value path
  escapedByteLength path value.chars 0

end Escapes

section Writing

/-- A buffer which is written from its start on. -/
structure Target where
  buffer : Bytes
  offset : Nat

/-- `target.write(value, offset, "ascii")` -/
def writeAscii (target : Target) (value : JsString) : Target :=
  let data := value.map UInt16.toUInt8
  ⟨target.buffer.write target.offset data, target.offset + target.buffer.room target.offset data⟩

/-- `target.write(character, offset, "utf8")`, which writes no character in part -/
def writeCharacter (target : Target) (character : Char) : Target :=
  let data := String.utf8EncodeChar character
  if target.offset + data.length ≤ target.buffer.length then
    ⟨target.buffer.write target.offset data, target.offset + data.length⟩
  else target

def writeClassicXrfcOpenTag (target : Target) (name : JsString) : Target := writeAscii target (openTag name)
def writeClassicXrfcCloseTag (target : Target) (name : JsString) : Target := writeAscii target (closeTag name)

/-- `&#38;`, `&#60;` and `&#62;` -/
def ampersandReference : JsString := [0x26, 0x23, 0x33, 0x38, 0x3b]
def lessThanReference : JsString := [0x26, 0x23, 0x36, 0x30, 0x3b]
def greaterThanReference : JsString := [0x26, 0x23, 0x36, 0x32, 0x3b]

def writeEscapedCharacter (target : Target) (character : Char) : Target :=
  if character = '&' then writeAscii target ampersandReference
  else if character = '<' then writeAscii target lessThanReference
  else if character = '>' then writeAscii target greaterThanReference
  else writeCharacter target character

def writeEscapedClassicXrfcText (target : Target) (value : JsString) : Target :=
  value.chars.foldl writeEscapedCharacter target

end Writing

section References

/-- The entities which XML predefines. -/
def namedXmlEntityCodePoint? (body : JsString) : Option Nat :=
  if body = [0x61, 0x6d, 0x70] then some 0x26
  else if body = [0x6c, 0x74] then some 0x3c
  else if body = [0x67, 0x74] then some 0x3e
  else if body = [0x71, 0x75, 0x6f, 0x74] then some 0x22
  else if body = [0x61, 0x70, 0x6f, 0x73] then some 0x27
  else none

def maximumCharacterReferenceRun : Nat := 32

def decimalDigit? (unit : UInt16) : Option Nat :=
  if isDigit unit then some (unit.toNat - 0x30) else none

/-- `[0-9A-Fa-f]`, and the value of the digit -/
def hexadecimalDigit? (unit : UInt16) : Option Nat :=
  if isDigit unit then some (unit.toNat - 0x30)
  else if 0x41 ≤ unit ∧ unit ≤ 0x46 then some (unit.toNat - 0x41 + 10)
  else if 0x61 ≤ unit ∧ unit ≤ 0x66 then some (unit.toNat - 0x61 + 10)
  else none

/-- The number of a run of digits. Leading zeros do not count. -/
def characterReferenceValue (path : String) (digits : JsString) (radix : Nat)
    (digit? : UInt16 → Option Nat) : Except String Nat :=
  match digits.mapM digit? with
  | some values =>
    if digits.length ≤ maximumCharacterReferenceRun ∧ digits ≠ [] then
      .ok (values.foldl (fun number digit => number * radix + digit) 0)
    else .error s!"{path} contains an unsupported XML entity"
  | none => .error s!"{path} contains an unsupported XML entity"

def referencedCodePoint (path : String) (body : JsString) : Except String Nat :=
  match body with
  | [] => .error s!"{path} contains an empty XML entity"
  | 0x23 :: 0x78 :: digits => characterReferenceValue path digits 16 hexadecimalDigit?
  | 0x23 :: digits => characterReferenceValue path digits 10 decimalDigit?
  | body =>
    match namedXmlEntityCodePoint? body with
    | some codePoint => .ok codePoint
    | none => .error s!"{path} contains an unsupported XML entity"

/-- The character which the reference behind an ampersand denotes, and the length of the reference
without the ampersand. -/
def decodeXmlEntityReference (rest : JsString) (path : String) : Except String (Nat × Nat) := do
  let body := rest.takeWhile (· ≠ 0x3b)
  require (body.length < rest.length) s!"{path} contains a truncated XML entity"
  let codePoint ← referencedCodePoint path body
  require (¬(codePoint > 0x10ffff ∨ 0xd800 ≤ codePoint ∧ codePoint ≤ 0xdfff))
    s!"{path} contains an out-of-range XML entity"
  .ok (codePoint, body.length + 1)

/-- The loop over the references, with what is demanded of their characters. Each round reads one of
them at least. -/
def decodeReferences (path : String) (policy : Nat → Except String Unit) :
    Nat → JsString → Except String JsString
  | 0, _ => .ok []
  | rounds + 1, raw =>
    let before := raw.takeWhile (· ≠ 0x26)
    match raw.drop before.length with
    | [] => .ok raw
    | _ :: rest => do
      let (codePoint, length) ← decodeXmlEntityReference rest path
      policy codePoint
      let result ← decodeReferences path policy rounds (rest.drop length)
      .ok (before ++ JsString.ofChar (Char.ofNat codePoint) ++ result)

/-- The loop of the classic parser. -/
def decodeEntitiesLoop (path : String) : Nat → JsString → Except String JsString
  | 0, _ => .ok []
  | rounds + 1, raw =>
    let before := raw.takeWhile (· ≠ 0x26)
    match raw.drop before.length with
    | [] => .ok raw
    | _ :: rest => do
      let (codePoint, length) ← decodeXmlEntityReference rest path
      assertXmlCodePoint codePoint path
      let result ← decodeEntitiesLoop path rounds (rest.drop length)
      .ok (before ++ JsString.ofChar (Char.ofNat codePoint) ++ result)

def assertXmlCodePoints (path : String) : List Char → Except String Unit
  | [] => .ok ()
  | c :: cs => do
    assertXmlCodePoint c.toNat path
    assertXmlCodePoints path cs

def decodeEntities (raw : JsString) (path : String) : Except String JsString := do
  let result ← decodeEntitiesLoop path (raw.length + 1) raw
  assertUnicodeScalarText result path
  assertXmlCodePoints path result.chars
  .ok result

/-- SAP wraps longer cells as MIME does. Only the line separators are removed. -/
def decodeClassicXrfcBase64 (value : JsString) (path : String) (maximum : Nat) :
    Except String Bytes := do
  let value := value.filter fun unit => !(unit == 0x0d || unit == 0x0a)
  if value = [] then .ok []
  else do
    require (Base64.isPadded value) s!"{path} contains non-canonical base64"
    require (Base64.decodedLength value ≤ maximum) s!"{path} decoded bytes exceed {maximum}"
    let decoded := Base64.decode value
    require (Base64.encode decoded = value) s!"{path} contains non-canonical base64"
    .ok decoded

end References

section Parsing

/-- The part of a text which is still to be parsed, and what lies in front of it. -/
structure ExactClassicXrfcParser where
  rest : JsString
  limits : NormalizedClassicXrfcLimits
  offset : Nat := 0
  byteOffset : Nat := 0

namespace ExactClassicXrfcParser
variable (parser : ExactClassicXrfcParser)

def skip (units bytes : Nat) : ExactClassicXrfcParser :=
  { parser with
    rest := parser.rest.drop units
    offset := parser.offset + units
    byteOffset := parser.byteOffset + bytes }

def expect (token : JsString) : Except String ExactClassicXrfcParser := do
  require (token <+: parser.rest) s!"xRFC XML expected {token.text} at character {parser.offset}"
  .ok (parser.skip token.length token.length)

def startsWithCloseTag (name : JsString) : Bool := (closeTag name).isPrefixOf parser.rest

def openElement (name : JsString) : Except String ExactClassicXrfcParser := parser.expect (openTag name)
def closeElement (name : JsString) : Except String ExactClassicXrfcParser := parser.expect (closeTag name)

def cell (path : String) : Except String (JsString × ExactClassicXrfcParser) := do
  let raw : JsString := parser.rest.takeWhile (· ≠ 0x3c)
  require (raw.length < parser.rest.length) s!"xRFC XML {path} is truncated"
  require (¬[0x5d, 0x5d, 0x3e] <:+: raw) s!"{path} contains invalid XML character data"
  let byteLength := raw.utf8.length
  require (byteLength ≤ parser.limits.maxCellBytes)
    s!"{path} XML value exceeds {parser.limits.maxCellBytes} encoded bytes"
  let text ← decodeEntities raw path
  .ok (text, parser.skip raw.length byteLength)

def rowByteLength (start : Nat) : Nat := parser.byteOffset - start

def finish : Except String Unit :=
  require (parser.rest = []) s!"xRFC XML has trailing content at character {parser.offset}"

end ExactClassicXrfcParser
end Parsing
end OpenRfc.Xrfc
