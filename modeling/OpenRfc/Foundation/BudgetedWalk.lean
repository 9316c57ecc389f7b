import OpenRfc.Foundation.Unfolding

/-!
Walks which unfold a shared structure on the way, and count the labels they pass. One that returns
has described the whole unfolding within its bounds; one that fails at a bound has met more than
the bounds allow, and one that fails otherwise has met what cannot be described.
-/

namespace BudgetedWalk
open Unfolding
variable {α β γ δ ε : Type}

abbrev Walk (ε α : Type) := StateT Nat (Except ε) α

namespace Walk

/-- Counts a label, up to a maximum. -/
def charge (maximum : Nat) (e : ε) : Walk ε Unit := fun count =>
  if maximum < count + 1 then .error e else .ok ((), count + 1)

def fail (e : ε) : Walk ε α := fun _ => .error e

theorem bind_run (x : Walk ε α) (f : α → Walk ε β) (count : Nat) :
    (x >>= f) count = match x count with
      | .ok (a, count') => f a count'
      | .error e => .error e := by
  change (StateT.bind x f) count = _
  rw [StateT.bind]
  cases x count <;> rfl

theorem bind_ok {x : Walk ε α} {f : α → Walk ε β} {count count' : Nat} {b : β}
    (h : (x >>= f) count = .ok (b, count')) :
    ∃ a middle, x count = .ok (a, middle) ∧ f a middle = .ok (b, count') := by
  rw [bind_run] at h
  cases hx : x count with
  | error e =>
    rw [hx] at h
    cases h
  | ok pair =>
    rw [hx] at h
    exact ⟨pair.1, pair.2, rfl, h⟩

theorem bind_error {x : Walk ε α} {f : α → Walk ε β} {count : Nat} {e : ε}
    (h : (x >>= f) count = .error e) :
    x count = .error e ∨ ∃ a middle, x count = .ok (a, middle) ∧ f a middle = .error e := by
  rw [bind_run] at h
  cases hx : x count with
  | error e' =>
    rw [hx] at h
    cases h
    exact .inl rfl
  | ok pair =>
    rw [hx] at h
    exact .inr ⟨pair.1, pair.2, rfl, h⟩

theorem charge_ok {maximum count count' : Nat} {e : ε} {u : Unit}
    (h : charge maximum e count = .ok (u, count')) : count' = count + 1 ∧ count + 1 ≤ maximum := by
  rw [charge] at h
  split at h
  · cases h
  · rename_i hle
    cases h
    exact ⟨rfl, Nat.le_of_not_lt hle⟩

theorem charge_error {maximum count : Nat} {e e' : ε}
    (h : charge maximum e count = .error e') : e' = e ∧ maximum < count + 1 := by
  rw [charge] at h
  split at h
  · rename_i hlt
    cases h
    exact ⟨rfl, hlt⟩
  · cases h

end Walk

/-- A forest has too many labels or too many levels. -/
def Exceeds (maximum levels count : Nat) (forest : List (Unfolding α)) : Prop :=
  maximum < count + sizes forest ∨ levels < heights forest

/-- A walk below some labels, and what it makes of their descriptions. -/
structure Walks (below : α → List α) (describe : α → List β → Option β) (isLimit : ε → Prop)
    (maximum levels : Nat) (labels : List α) (walk : Walk ε γ) (result : List β → Option γ) :
    Prop where
  returns : ∀ count value count', walk count = .ok (value, count') → ∃ forest,
    Unfolds below labels forest ∧ (folds describe forest).bind result = some value ∧
      count' = count + sizes forest ∧ (count ≤ maximum → count' ≤ maximum) ∧
      heights forest ≤ levels
  fails : ∀ count e forest, walk count = .error e → count ≤ maximum →
    Unfolds below labels forest →
      isLimit e ∧ Exceeds maximum levels count forest ∨
        ¬isLimit e ∧ (folds describe forest).bind result = none

namespace Walks
variable {below : α → List α} {describe : α → List β → Option β} {isLimit : ε → Prop}
  {maximum levels : Nat} {label : α} {labels : List α}

theorem pure {result : List β → Option γ} {value : γ} (h : result [] = some value) :
    Walks below describe isLimit maximum levels [] (pure value) result where
  returns := by
    intro count value' count' hrun
    cases hrun
    exact ⟨[], unfolds_nil.mpr rfl, by rw [folds_nil]; exact h, rfl, id, Nat.zero_le _⟩
  fails := by
    intro count e forest hrun
    cases hrun

theorem fail {result : List β → Option γ} {e : ε} (h : result [] = none) (he : ¬isLimit e) :
    Walks below describe isLimit maximum levels [] (Walk.fail e) result where
  returns := by
    intro count value count' hrun
    cases hrun
  fails := by
    intro count e' forest hrun hcount hforest
    cases hrun
    rw [unfolds_nil.mp hforest, folds_nil]
    exact .inr ⟨he, h⟩

/-- No level is left for the labels. -/
theorem fail_depth {result : List β → Option γ} {e : ε} (hlabels : labels ≠ []) (he : isLimit e) :
    Walks below describe isLimit maximum 0 labels (Walk.fail e) result where
  returns := by
    intro count value count' hrun
    cases hrun
  fails := by
    intro count e' forest hrun hcount hforest
    cases hrun
    refine .inl ⟨he, .inr ?_⟩
    cases labels with
    | nil => exact absurd rfl hlabels
    | cons label labels =>
      obtain ⟨children, rest, rfl, -, -⟩ := unfolds_cons.mp hforest
      rw [heights_cons, height_node]
      omega

theorem congr {walk : Walk ε γ} {result result' : List β → Option γ}
    (h : Walks below describe isLimit maximum levels labels walk result)
    (hresult : ∀ forest nested, Unfolds below labels forest → folds describe forest = some nested →
      result' nested = result nested) :
    Walks below describe isLimit maximum levels labels walk result' := by
  have hsame : ∀ forest, Unfolds below labels forest →
      (folds describe forest).bind result' = (folds describe forest).bind result := by
    intro forest hforest
    cases hfolds : folds describe forest with
    | none => rfl
    | some nested => exact hresult forest nested hforest hfolds
  constructor
  · intro count value count' hrun
    obtain ⟨forest, hforest, hvalue, hrest⟩ := h.returns count value count' hrun
    exact ⟨forest, hforest, (hsame forest hforest).trans hvalue, hrest⟩
  · intro count e forest hrun hcount hforest
    rw [hsame forest hforest]
    exact h.fails count e forest hrun hcount hforest

/-- What one label is described as. -/
theorem describe_of_folds {forest : List (Unfolding α)} {nested : List β}
    (hforest : Unfolds below [label] forest) (hfolds : folds describe forest = some nested) :
    ∃ inner value, describe label inner = some value ∧ nested = [value] := by
  obtain ⟨children, rest, rfl, -, hrest⟩ := unfolds_cons.mp hforest
  obtain rfl := unfolds_nil.mp hrest
  rw [folds_cons, folds_nil, fold_node] at hfolds
  obtain ⟨value, hvalue, hmap⟩ := Option.bind_eq_some_iff.mp hfolds
  obtain ⟨inner, -, hdescribe⟩ := Option.bind_eq_some_iff.mp hvalue
  exact ⟨inner, value, hdescribe, (Option.some.inj hmap).symm⟩

theorem map {walk : Walk ε γ} {result : List β → Option γ} (f : γ → δ)
    (h : Walks below describe isLimit maximum levels labels walk result) :
    Walks below describe isLimit maximum levels labels
      (walk >>= fun value => Pure.pure (f value)) fun nested => (result nested).map f := by
  have hmap : ∀ forest, ((folds describe forest).bind fun nested => (result nested).map f) =
      ((folds describe forest).bind result).map f := by
    intro forest
    cases folds describe forest <;> rfl
  constructor
  · intro count value count' hrun
    obtain ⟨value, middle, hwalk, hpure⟩ := Walk.bind_ok hrun
    cases hpure
    obtain ⟨forest, hforest, hvalue, hrest⟩ := h.returns _ _ _ hwalk
    refine ⟨forest, hforest, ?_, hrest⟩
    rw [hmap, hvalue, Option.map_some]
  · intro count e forest hrun hcount hforest
    rcases Walk.bind_error hrun with hwalk | ⟨value, middle, -, hpure⟩
    · rcases h.fails _ _ _ hwalk hcount hforest with hlimit | ⟨hne, hnone⟩
      · exact .inl hlimit
      · refine .inr ⟨hne, ?_⟩
        rw [hmap, hnone, Option.map_none]
    · cases hpure

/-- A label which is counted before what is below it. -/
theorem descriptor {e : ε} {walk : Walk ε γ} {result : List β → Option γ} {finish : γ → β}
    (he : isLimit e) (h : Walks below describe isLimit maximum levels (below label) walk result)
    (hdescribe : ∀ nested, describe label nested = (result nested).map finish) :
    Walks below describe isLimit maximum (levels + 1) [label]
      (Walk.charge maximum e >>= fun _ => walk >>= fun value => Pure.pure (finish value))
      List.head? := by
  have hfold : ∀ children, (folds describe [node label children]).bind List.head? =
      ((folds describe children).bind result).map finish := by
    intro children
    rw [folds_cons, folds_nil, fold_node]
    cases hnested : folds describe children with
    | none => rfl
    | some nested =>
      rw [Option.bind_some, Option.bind_some, hdescribe]
      cases result nested <;> rfl
  constructor
  · intro count value count' hrun
    obtain ⟨_, middle, hcharge, hwalk⟩ := Walk.bind_ok hrun
    obtain ⟨rfl, hle⟩ := Walk.charge_ok hcharge
    obtain ⟨inner, last, hinner, hpure⟩ := Walk.bind_ok hwalk
    cases hpure
    obtain ⟨children, hchildren, hvalue, rfl, hcount, hheight⟩ := h.returns _ _ _ hinner
    refine ⟨[node label children], unfolds_cons.mpr ⟨children, [], rfl, hchildren,
      unfolds_nil.mpr rfl⟩, ?_, ?_, fun _ => hcount hle, ?_⟩
    · rw [hfold, hvalue, Option.map_some]
    · rw [sizes_cons, size_node, sizes_nil]
      omega
    · rw [heights_cons, height_node, heights_nil]
      omega
  · intro count e' forest hrun hcount hforest
    obtain ⟨children, rest, rfl, hchildren, hrest⟩ := unfolds_cons.mp hforest
    obtain rfl := unfolds_nil.mp hrest
    rcases Walk.bind_error hrun with hcharge | ⟨_, middle, hcharge, hwalk⟩
    · obtain ⟨rfl, hlt⟩ := Walk.charge_error hcharge
      refine .inl ⟨he, .inl ?_⟩
      rw [sizes_cons, size_node]
      omega
    · obtain ⟨rfl, hle⟩ := Walk.charge_ok hcharge
      rcases Walk.bind_error hwalk with hinner | ⟨_, _, -, hpure⟩
      · rcases h.fails _ _ _ hinner hle hchildren with ⟨hlimit, hexceeds⟩ | ⟨hne, hnone⟩
        · refine .inl ⟨hlimit, ?_⟩
          rw [Exceeds, sizes_cons, size_node, sizes_nil, heights_cons, height_node, heights_nil]
          rcases hexceeds with hsize | hheight
          · exact .inl (by omega)
          · exact .inr (by omega)
        · refine .inr ⟨hne, ?_⟩
          rw [hfold, hnone, Option.map_none]
      · cases hpure

theorem cons {first : Walk ε β} {rest : Walk ε (List β)}
    (hfirst : Walks below describe isLimit maximum levels [label] first List.head?)
    (hrest : Walks below describe isLimit maximum levels labels rest some) :
    Walks below describe isLimit maximum levels (label :: labels)
      (first >>= fun value => rest >>= fun values => Pure.pure (value :: values)) some where
  returns := by
    intro count value count' hrun
    obtain ⟨value, middle, hone, hrun⟩ := Walk.bind_ok hrun
    obtain ⟨values, last, hmany, hpure⟩ := Walk.bind_ok hrun
    cases hpure
    obtain ⟨trees, htrees, hvalue, rfl, hcount, hheight⟩ := hfirst.returns _ _ _ hone
    obtain ⟨children, rest, rfl, hchildren, hnil⟩ := unfolds_cons.mp htrees
    obtain rfl := unfolds_nil.mp hnil
    obtain ⟨forest, hforest, hvalues, rfl, hcount', hheight'⟩ := hrest.returns _ _ _ hmany
    refine ⟨node label children :: forest,
      unfolds_cons.mpr ⟨children, forest, rfl, hchildren, hforest⟩, ?_, ?_,
      fun hle => hcount' (hcount hle), ?_⟩
    · rw [Option.bind_fun_some] at hvalues ⊢
      rw [folds_cons, folds_nil] at hvalue
      cases hfold : (node label children).fold describe with
      | none =>
        rw [hfold] at hvalue
        cases hvalue
      | some found =>
        rw [hfold] at hvalue
        obtain rfl := Option.some.inj hvalue
        rw [folds_cons, hfold, hvalues]
        rfl
    · rw [sizes_cons, sizes_nil, sizes_cons]
      omega
    · rw [heights_cons, heights_nil, Nat.max_zero] at hheight
      rw [heights_cons]
      exact max_le hheight hheight'
  fails := by
    intro count e forest hrun hcount hforest
    obtain ⟨children, forest, rfl, hchildren, hlabels⟩ := unfolds_cons.mp hforest
    have hone : Unfolds below [label] [node label children] :=
      unfolds_cons.mpr ⟨children, [], rfl, hchildren, unfolds_nil.mpr rfl⟩
    rcases Walk.bind_error hrun with hrun | ⟨value, middle, hrun, hmany⟩
    · rcases hfirst.fails _ _ _ hrun hcount hone with ⟨hlimit, hexceeds⟩ | ⟨hne, hnone⟩
      · refine .inl ⟨hlimit, ?_⟩
        rw [Exceeds, sizes_cons, heights_cons] at hexceeds ⊢
        rw [sizes_nil, heights_nil] at hexceeds
        rcases hexceeds with hsize | hheight
        · exact .inl (by omega)
        · exact .inr (by omega)
      · refine .inr ⟨hne, ?_⟩
        rw [folds_cons, folds_nil] at hnone
        rw [folds_cons]
        cases hfold : (node label children).fold describe with
        | none => rfl
        | some found =>
          rw [hfold] at hnone
          cases hnone
    · obtain ⟨trees, htrees, -, rfl, hcount', -⟩ := hfirst.returns _ _ _ hrun
      obtain rfl := unfolds_unique htrees hone
      rcases Walk.bind_error hmany with hmany | ⟨_, _, -, hpure⟩
      · rcases hrest.fails _ _ _ hmany (hcount' hcount) hlabels with ⟨hlimit, hexceeds⟩ | ⟨hne, hnone⟩
        · refine .inl ⟨hlimit, ?_⟩
          rw [Exceeds, sizes_cons, heights_cons]
          rw [Exceeds, sizes_cons, sizes_nil] at hexceeds
          rcases hexceeds with hsize | hheight
          · exact .inl (by omega)
          · exact .inr (by omega)
        · refine .inr ⟨hne, ?_⟩
          rw [Option.bind_fun_some] at hnone ⊢
          rw [folds_cons, hnone]
          cases (node label children).fold describe <;> rfl
      · cases hpure

end Walks
end BudgetedWalk
