import OpenRfc.Foundation.Fallible
import OpenRfc.Foundation.JsString

/-! Texts which consist of Unicode scalar values. -/

namespace OpenRfc.Values
open Fallible

/-- Reject isolated surrogates. -/
def assertUnicodeScalarText (value : JsString) (path : String) : Except String Unit :=
  require value.isWellFormed s!"{path} contains an isolated surrogate code unit"

theorem assertUnicodeScalarText_eq_ok {value : JsString} {path : String} {u : Unit} :
    assertUnicodeScalarText value path = .ok u ↔ value.isWellFormed = true :=
  require_eq_ok

end OpenRfc.Values
