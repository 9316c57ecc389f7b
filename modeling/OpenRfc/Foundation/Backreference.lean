import Mathlib.Data.List.Basic
import Mathlib.Data.List.TakeDrop

/-!
Texts which are rebuilt from literals and from references into what has been rebuilt already.
A reference may reach into the elements it appends itself.
-/

universe u

namespace Backreference
variable {α : Type u}

/-- Append elements one by one, each a copy of the one `distance` places before it. -/
def copy (out : List α) (distance : Nat) : Nat → List α
  | 0 => out
  | length + 1 => copy (out ++ out[out.length - distance]?.toList) distance length

/-- A reference whose elements have been compared extends a prefix of the text. -/
theorem copy_take {text : List α} {position distance length : Nat} (hd : distance ≤ position)
    (hl : position + length ≤ text.length) (hpos : 1 ≤ distance)
    (hm : ∀ k < length, text[position + k - distance]? = text[position + k]?) :
    copy (text.take position) distance length = text.take (position + length) := by
  induction length generalizing position with
  | zero => rfl
  | succ length ih =>
      have hlength : (text.take position).length = position := by
        rw [List.length_take]
        omega
      have hget : (text.take position)[position - distance]? = text[position]? := by
        rw [List.getElem?_take_of_lt (by omega)]
        exact hm 0 (Nat.succ_pos length)
      have hnext : text.take position ++ text[position]?.toList = text.take (position + 1) :=
        List.take_add_one.symm
      rw [copy, hlength, hget, hnext, ih (by omega) (by omega), Nat.add_assoc,
        Nat.add_comm 1 length]
      intro k hk
      have h := hm (k + 1) (by omega)
      rw [Nat.add_assoc, Nat.add_comm 1 k]
      exact h

end Backreference
