import Mathlib.Algebra.Order.BigOperators.Group.Finset
import Mathlib.Algebra.GroupWithZero.Nat

/-!
Loops which run until no step is left, and the work which the marks of a set leave to be done.
-/

universe u

namespace Loop
variable {σ : Type u}

/-- A number of steps at most. -/
def run (step : σ → Option σ) : Nat → σ → σ
  | 0, s => s
  | fuel + 1, s =>
    match step s with
    | none => s
    | some next => run step fuel next

/-- A loop has ended when there was fuel for the steps which its invariant allows. -/
theorem run_ends {step : σ → Option σ} {P : Nat → σ → Prop}
    (hstep : ∀ n s next, P n s → step s = some next → ∃ m < n, P m next)
    {fuel n : Nat} {s : σ} (hs : P n s) (hfuel : n ≤ fuel) :
    ∃ m, P m (run step fuel s) ∧ step (run step fuel s) = none := by
  induction fuel generalizing n s with
  | zero =>
      refine ⟨n, hs, ?_⟩
      cases hnext : step s with
      | none => exact hnext
      | some next =>
          obtain ⟨m, hless, -⟩ := hstep n s next hs hnext
          omega
  | succ fuel ih =>
      rw [run]
      cases hnext : step s with
      | none => exact ⟨n, hs, hnext⟩
      | some next =>
          obtain ⟨m, hless, hs⟩ := hstep n s next hs hnext
          exact ih hs (by omega)

/-- The steps may be counted by a measure of the states. -/
theorem run_spec {step : σ → Option σ} {P : σ → Prop} {measure : σ → Nat}
    (hstep : ∀ s next, P s → step s = some next → P next ∧ measure next < measure s)
    {fuel : Nat} {s : σ} (hs : P s) (hfuel : measure s ≤ fuel) :
    P (run step fuel s) ∧ step (run step fuel s) = none := by
  obtain ⟨-, ⟨hend, -⟩, hnone⟩ := run_ends (P := fun n s => P s ∧ measure s = n)
    (fun n s next ⟨hs, hmeasure⟩ hnext => by
      obtain ⟨hs, hless⟩ := hstep s next hs hnext
      exact ⟨_, hmeasure ▸ hless, hs, rfl⟩)
    ⟨hs, rfl⟩ hfuel
  exact ⟨hend, hnone⟩

section Outstanding
variable (weight : Nat → Nat) (size : Nat) (p q : Nat → Prop) [DecidablePred p] [DecidablePred q]

/-- The weights of the numbers below a bound which have a property. -/
def outstanding : Nat := ∑ n ∈ (Finset.range size).filter p, weight n

variable {weight size p q}

/-- A number loses the property. -/
theorem outstanding_eq_add {n : Nat} (hn : n < size) (hp : p n) (hq : ∀ i, q i ↔ p i ∧ i ≠ n) :
    outstanding weight size p = weight n + outstanding weight size q := by
  have hmem : n ∈ (Finset.range size).filter p := by simp [hn, hp]
  have hrest : (Finset.range size).filter q = ((Finset.range size).filter p).erase n := by
    ext i
    simp only [Finset.mem_filter, Finset.mem_erase, Finset.mem_range, hq]
    tauto
  rw [outstanding, outstanding, hrest, Finset.add_sum_erase _ _ hmem]

/-- A number is marked. -/
theorem outstanding_mark {marked : List Nat} {n : Nat} (hn : n < size) (hnew : n ∉ marked) :
    outstanding weight size (· ∉ marked) =
      weight n + outstanding weight size (· ∉ n :: marked) :=
  outstanding_eq_add hn hnew fun i => by rw [List.mem_cons, not_or, and_comm]

/-- All of the weights. -/
theorem outstanding_le_sum : outstanding weight size p ≤ ((List.range size).map weight).sum := by
  have hsum : outstanding weight size p ≤ ∑ n ∈ Finset.range size, weight n :=
    Finset.sum_le_sum_of_subset (Finset.filter_subset _ _)
  exact hsum

theorem outstanding_one_le : outstanding (fun _ => 1) size p ≤ size :=
  outstanding_le_sum.trans (by simp)

end Outstanding
end Loop
