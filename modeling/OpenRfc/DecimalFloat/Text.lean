import OpenRfc.DecimalFloat.Layout
import OpenRfc.Foundation.Fallible
import OpenRfc.Foundation.Numeral

/-!
Decimal texts. A text is matched, its digits and its exponent are brought into the range of a
format without rounding, and a number is written in the shorter of two notations.
-/

namespace OpenRfc.DecimalFloat
open Fallible Numeral

def maxDecimalFloatTextLength : Nat := 4096

section Special

/-- What the `i` and `u` flags of a pattern make equal to a small letter. -/
def foldCase (unit : UInt16) : UInt16 :=
  if 0x41 ≤ unit ∧ unit ≤ 0x5a then unit + 0x20 else if unit = 0x17f then 0x73 else unit

/-- `toLowerCase()`, of the letters which a pattern admits -/
def toLowerCase (unit : UInt16) : UInt16 :=
  if 0x41 ≤ unit ∧ unit ≤ 0x5a then unit + 0x20 else unit

/-- `inf`, `infinity`, `nan` and `snan` -/
def infWord : JsString := [0x69, 0x6e, 0x66]
def infinityWord : JsString := [0x69, 0x6e, 0x66, 0x69, 0x6e, 0x69, 0x74, 0x79]
def nanWord : JsString := [0x6e, 0x61, 0x6e]
def snanWord : JsString := [0x73, 0x6e, 0x61, 0x6e]

/-- A word at the start of a string, and the rest. -/
def readWord (word s : JsString) : Option (JsString × JsString) :=
  if (s.take word.length).map foldCase = word then some (s.take word.length, s.drop word.length)
  else none

/-- The groups of the two patterns for special values. -/
inductive SpecialMatch
  | infinity (negative : Bool)
  | nan (negative : Bool) (word : JsString) (digits : Digits)
deriving DecidableEq, Repr

/-- `/^([+-]?)(?:inf|infinity)$/iu`, and `/^([+-]?)(s?nan)(\d*)$/iu` -/
def matchSpecial (text : JsString) : Option SpecialMatch :=
  let (negative, rest) := readSign text
  if rest.map foldCase = infWord ∨ rest.map foldCase = infinityWord then some (.infinity negative)
  else
    match (readWord snanWord rest).or (readWord nanWord rest) with
    | none => none
    | some (word, rest) =>
      match readDigits rest with
      | (digits, []) => some (.nan negative word digits)
      | _ => none

def parseSpecial (text : JsString) (format : DecimalFloatFormat) (path : String) :
    Except String (Option SpecialDecimal) :=
  match matchSpecial text with
  | none => .ok none
  | some (.infinity negative) => .ok (some ⟨negative, .infinity, []⟩)
  | some (.nan negative word digits) => do
    let diagnostic := digits.stripZeros
    let capacity := format.precision - 1
    require (diagnostic.length ≤ capacity) s!"{path} exceeds its {capacity}-digit NaN payload"
    .ok (some ⟨negative, if word.map toLowerCase = snanWord then .snan else .nan, diagnostic⟩)

end Special

section Finite

/-- The groups of the pattern for numbers. The exponent is `BigInt(match[5] ?? "0")`. -/
structure FiniteMatch where
  negative : Bool
  integer : Digits
  fraction : Digits
  exponent : Int
deriving DecidableEq, Repr

/-- `(?:[eE]([+-]?\d+))?$` -/
def readExponent : JsString → Option Int
  | [] => some 0
  | unit :: rest =>
    if unit = 0x65 ∨ unit = 0x45 then
      let (negative, rest) := readSign rest
      match readDigits rest with
      | (digit :: digits, []) =>
        some (if negative then -(Digits.number (digit :: digits) : Int)
          else Digits.number (digit :: digits))
      | _ => none
    else none

/-- The digits behind a decimal point, if there is one. -/
def readFraction : JsString → Digits × JsString
  | 0x2e :: rest => readDigits rest
  | rest => ([], rest)

/-- `/^([+-]?)(?:(\d+)(?:\.(\d*))?|\.(\d+))(?:[eE]([+-]?\d+))?$/u` -/
def matchFinite (text : JsString) : Option FiniteMatch :=
  let (negative, rest) := readSign text
  let (integer, rest) := readDigits rest
  let (fraction, rest) := readFraction rest
  if integer = [] ∧ fraction = [] then none
  else (readExponent rest).map fun exponent => ⟨negative, integer, fraction, exponent⟩

variable (format : DecimalFloatFormat) (path : String)

def minimumExponent : Int := -(format.exponentBias : Int)

def maximumExponent : Int := 3 * 2 ^ format.exponentContinuationBits - 1 - format.exponentBias

/-- The trailing zeros which go beyond the precision are moved into the exponent. -/
def shortenCoefficient (coefficient : Digits) (exponent : Int) :
    Except String (Digits × Int) :=
  if coefficient ≠ [0] ∧ format.precision < coefficient.length then do
    let excessDigits := coefficient.length - format.precision
    require (excessDigits ≤ coefficient.trailingZeroCount)
      s!"{path} exceeds {format.precision} significant digits without rounding"
    .ok (coefficient.take (coefficient.length - excessDigits), exponent + excessDigits)
  else .ok (coefficient, exponent)

/-- Zeros are appended or taken off until the exponent is in range. -/
def fitExponent (coefficient : Digits) (exponent : Int) : Except String (Digits × Int) :=
  if coefficient = [0] then
    .ok ([0], min (max exponent (minimumExponent format)) (maximumExponent format))
  else if maximumExponent format < exponent then do
    let requiredZeros := exponent - maximumExponent format
    let availableDigits : Int := format.precision - coefficient.length
    require (requiredZeros ≤ availableDigits)
      s!"{path} is outside {format.label} range without rounding"
    .ok (coefficient ++ List.replicate requiredZeros.toNat 0, maximumExponent format)
  else if exponent < minimumExponent format then do
    let requiredZeros := minimumExponent format - exponent
    require (requiredZeros ≤ coefficient.trailingZeroCount)
      s!"{path} is outside {format.label} range without rounding"
    .ok (coefficient.take (coefficient.length - requiredZeros.toNat), minimumExponent format)
  else .ok (coefficient, exponent)

def parseFinite (text : JsString) : Except String FiniteDecimal :=
  match matchFinite text with
  | none => .error s!"{path} expects a valid decimal"
  | some found => do
    let coefficient := (found.integer ++ found.fraction).significant
    let (coefficient, exponent) ← shortenCoefficient format path coefficient
      (found.exponent - found.fraction.length)
    let (coefficient, exponent) ← fitExponent format path coefficient exponent
    .ok ⟨found.negative, coefficient, exponent⟩

end Finite

section Format

/-- A number in plain or in scientific notation, without its sign. -/
def formatBody (digits : Digits) (exponent : Int) : JsString :=
  let adjustedExponent := exponent + digits.length - 1
  if exponent ≤ 0 ∧ -6 ≤ adjustedExponent then
    if exponent = 0 then text digits
    else
      let point := digits.length + exponent
      if 0 < point then text (digits.take point.toNat) ++ 0x2e :: text (digits.drop point.toNat)
      else 0x30 :: 0x2e :: (text (List.replicate (-point).toNat 0) ++ text digits)
  else
    let significand := if digits.length = 1 then text digits
      else text (digits.take 1) ++ 0x2e :: text (digits.drop 1)
    significand ++ 0x45 :: ((if 0 ≤ adjustedExponent then [0x2b] else []) ++
      intText adjustedExponent)

def formatFinite (negative : Bool) (coefficient : Digits) (exponent : Int) : JsString :=
  signText negative ++ formatBody coefficient.significant exponent

/-- `Infinity`, `NaN` and `sNaN` -/
def SpecialKind.text : SpecialKind → JsString
  | .infinity => [0x49, 0x6e, 0x66, 0x69, 0x6e, 0x69, 0x74, 0x79]
  | .nan => [0x4e, 0x61, 0x4e]
  | .snan => [0x73, 0x4e, 0x61, 0x4e]

def DecimalValue.text : DecimalValue → JsString
  | .finite value => formatFinite value.negative value.coefficient value.exponent
  | .special value =>
      signText value.negative ++ value.kind.text ++ Numeral.text value.diagnostic

end Format

section Codec
variable (format : DecimalFloatFormat) (path : String)

def parseDecimal (text : JsString) : Except String DecimalValue := do
  require (text.length ≤ maxDecimalFloatTextLength)
    s!"{path} decimal text exceeds {maxDecimalFloatTextLength} characters"
  match ← parseSpecial text format path with
  | some special => .ok (.special special)
  | none => do
    let finite ← parseFinite format path text
    .ok (.finite finite)

def encodeDecimalFloat (text : JsString) : Except String Bytes := do
  let value ← parseDecimal format path text
  .ok (encodeValue format value)

def decodeDecimalFloat (value : Bytes) : Except String JsString := do
  require (value.length = format.byteLength) s!"{path} expects exactly {format.byteLength} bytes"
  .ok (decodeValue format value).text

end Codec

def encodeDecimalFloat16 (value : JsString) (path : String := "DECF16") : Except String Bytes :=
  encodeDecimalFloat DECF16 path value

def decodeDecimalFloat16 (value : Bytes) (path : String := "DECF16") : Except String JsString :=
  decodeDecimalFloat DECF16 path value

def encodeDecimalFloat34 (value : JsString) (path : String := "DECF34") : Except String Bytes :=
  encodeDecimalFloat DECF34 path value

end OpenRfc.DecimalFloat
