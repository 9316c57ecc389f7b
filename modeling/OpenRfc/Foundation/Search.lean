import Mathlib.Data.List.GetD
import Mathlib.Data.Nat.Init
import Mathlib.Algebra.GroupWithZero.Nat

/-!
Searches through the natural numbers: by halving an interval, and through blocks of given lengths
which follow one another.
-/

namespace Search

section Halving
variable (p : Nat → Bool)

/-- The last number in front of an end for which `p` holds, if it holds up to a number. -/
def lastTrue (lower limit : Nat) : Nat :=
  if lower < limit then
    let middle := (lower + (limit - 1)) / 2
    if p middle then lastTrue (middle + 1) limit else lastTrue lower middle
  else limit - 1
termination_by limit - lower

/-- The first number of an interval for which `p` holds, if it holds from a number on, and the end
of the interval where there is none. -/
def firstTrue (lower upper : Nat) : Nat :=
  if lower < upper then
    let middle := (lower + upper) / 2
    if p middle then firstTrue lower middle else firstTrue (middle + 1) upper
  else lower
termination_by upper - lower

variable {p}

theorem lastTrue_eq {lower limit threshold : Nat} (hlower : lower ≤ threshold + 1)
    (hlimit : threshold < limit)
    (h : ∀ i, lower ≤ i → i < limit → (p i = true ↔ i ≤ threshold)) :
    lastTrue p lower limit = threshold := by
  fun_induction lastTrue p lower limit with
  | case1 lower limit hlt middle htrue ih =>
      have hmiddle := (h middle (by omega) (by omega)).mp htrue
      exact ih (by omega) hlimit fun i hi hi' => h i (by omega) hi'
  | case2 lower limit hlt middle hfalse ih =>
      have hmiddle := mt (h middle (by omega) (by omega)).mpr hfalse
      exact ih hlower (by omega) fun i hi hi' => h i hi (by omega)
  | case3 lower limit hge => omega

theorem firstTrue_eq {lower upper threshold : Nat} (hlower : lower ≤ threshold)
    (hupper : threshold ≤ upper)
    (h : ∀ i, lower ≤ i → i < upper → (p i = true ↔ threshold ≤ i)) :
    firstTrue p lower upper = threshold := by
  fun_induction firstTrue p lower upper with
  | case1 lower upper hlt middle htrue ih =>
      have hmiddle := (h middle (by omega) (by omega)).mp htrue
      exact ih hlower (by omega) fun i hi hi' => h i hi (by omega)
  | case2 lower upper hlt middle hfalse ih =>
      have hmiddle := mt (h middle (by omega) (by omega)).mpr hfalse
      exact ih (by omega) hupper fun i hi hi' => h i (by omega) hi'
  | case3 lower upper hge => omega

/-- The search in a list whose smaller elements stand in front of the others. -/
theorem firstTrue_append {xs ys : List Nat} {bound : Nat} (hxs : ∀ x ∈ xs, x < bound)
    (hys : ∀ y ∈ ys, bound ≤ y) :
    firstTrue (fun i => !((xs ++ ys).getD i 0 < bound)) 0 (xs ++ ys).length = xs.length := by
  apply firstTrue_eq (Nat.zero_le _) (by simp)
  intro i _ hi
  rw [Bool.not_eq_true', decide_eq_false_iff_not, Nat.not_lt]
  by_cases hlt : i < xs.length
  · rw [List.getD_append _ _ _ _ hlt, List.getD_eq_getElem _ _ hlt]
    have hx := hxs _ (List.getElem_mem hlt)
    omega
  · rw [List.length_append] at hi
    have hindex : i - xs.length < ys.length := by omega
    rw [List.getD_append_right _ _ _ _ (by omega), List.getD_eq_getElem _ _ hindex]
    have hy := hys _ (List.getElem_mem hindex)
    omega

/-- A number between two values of a function lies between two which follow each other. -/
theorem exists_step {f : Nat → Nat} {lower upper n : Nat} (hle : lower ≤ upper)
    (hlower : f lower ≤ n) (hupper : n < f upper) :
    ∃ i, lower ≤ i ∧ i < upper ∧ f i ≤ n ∧ n < f (i + 1) := by
  induction upper, hle using Nat.le_induction with
  | base => omega
  | succ upper hle ih =>
      rcases Nat.lt_or_ge n (f upper) with hlt | hge
      · obtain ⟨i, hi, hi', hstep⟩ := ih hlt
        exact ⟨i, hi, by omega, hstep⟩
      · exact ⟨upper, hle, Nat.lt_succ_self upper, hge, hupper⟩

end Halving

section Blocks

/-- The index of the block in which a number lies, and how far behind the start of the block. -/
def locate : List Nat → Nat → Nat × Nat
  | [], rest => (0, rest)
  | length :: lengths, rest =>
    if rest < length then (0, rest)
    else ((locate lengths (rest - length)).1 + 1, (locate lengths (rest - length)).2)

theorem sum_take_add_lt {lengths : List Nat} {index rest : Nat} (hindex : index < lengths.length)
    (hrest : rest < lengths[index]) : (lengths.take index).sum + rest < lengths.sum := by
  induction lengths generalizing index with
  | nil => simp at hindex
  | cons length lengths ih =>
      cases index with
      | zero =>
          have hlt : rest < length := by simpa using hrest
          simp only [List.take_zero, List.sum_nil, List.sum_cons]
          omega
      | succ index =>
          have hindex : index < lengths.length := by simpa using hindex
          have htail := ih hindex (by simpa using hrest)
          rw [List.take_succ_cons, List.sum_cons, List.sum_cons]
          omega

theorem locate_sum_add {lengths : List Nat} {index rest : Nat} (hindex : index < lengths.length)
    (hrest : rest < lengths[index]) :
    locate lengths ((lengths.take index).sum + rest) = (index, rest) := by
  induction lengths generalizing index with
  | nil => simp at hindex
  | cons length lengths ih =>
      cases index with
      | zero =>
          have hlt : rest < length := by simpa using hrest
          simp [locate, hlt]
      | succ index =>
          have hindex : index < lengths.length := by simpa using hindex
          have htail := ih hindex (by simpa using hrest)
          have hsub : length + (lengths.take index).sum + rest - length =
              (lengths.take index).sum + rest := by omega
          rw [List.take_succ_cons, List.sum_cons, locate, if_neg (by omega), hsub, htail]

/-- Every number in front of the end of the blocks lies in one of them. -/
theorem exists_locate {lengths : List Nat} {n : Nat} (h : n < lengths.sum) :
    ∃ index rest, ∃ hindex : index < lengths.length, rest < lengths[index] ∧
      (lengths.take index).sum + rest = n := by
  induction lengths generalizing n with
  | nil => simp at h
  | cons length lengths ih =>
      rw [List.sum_cons] at h
      rcases Nat.lt_or_ge n length with hlt | hge
      · exact ⟨0, n, Nat.succ_pos _, hlt, Nat.zero_add n⟩
      · obtain ⟨index, rest, hindex, hrest, hsum⟩ := ih (show n - length < lengths.sum by omega)
        refine ⟨index + 1, rest, Nat.succ_lt_succ hindex, hrest, ?_⟩
        rw [List.take_succ_cons, List.sum_cons]
        omega

/-- A block ends before a later one starts. -/
theorem sum_take_add_lt_of_lt {lengths : List Nat} {index index' rest : Nat} (h : index < index')
    (hindex : index' ≤ lengths.length) (hrest : rest < lengths[index]) :
    (lengths.take index).sum + rest < (lengths.take index').sum := by
  have hshort : index < (lengths.take index').length := by
    rw [List.length_take]
    omega
  have hsum : _ + rest < _ := sum_take_add_lt hshort (by rw [List.getElem_take]; exact hrest)
  rwa [List.take_take, Nat.min_eq_left (Nat.le_of_lt h)] at hsum

end Blocks
end Search
