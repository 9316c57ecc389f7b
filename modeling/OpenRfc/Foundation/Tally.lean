import OpenRfc.Foundation.Fallible
import Mathlib.Algebra.BigOperators.Group.List.Basic

/-!
Loops which tally a list. An element contributes something, or is refused on its own account;
contributions are added up, and their sum has to stay admissible. The order of the elements
then has no influence on whether the loop succeeds, nor on what it has added up.
-/

namespace Tally
open Fallible
variable {σ α ε M : Type} [AddCommMonoid M]

/-- The loop. -/
def run (step : σ → α → Except ε σ) : σ → List α → Except ε σ
  | s, [] => .ok s
  | s, x :: xs => do
    let s ← step s x
    run step s xs

/-- The sum of what the elements of a list contribute, if none is refused. -/
def contributions (contribution : α → Option M) : List α → Option M
  | [] => some 0
  | x :: xs => do
    let c ← contribution x
    let cs ← contributions contribution xs
    some (c + cs)

/-- A step which adds what its element contributes, and fails just if it may not. -/
structure Tallies (step : σ → α → Except ε σ) (contribution : α → Option M) (total : σ → M)
    (Admissible : M → Prop) : Prop where
  of_add : ∀ {m n}, Admissible (m + n) → Admissible m
  of_step : ∀ {s x s'}, Admissible (total s) → step s x = .ok s' →
    ∃ c, contribution x = some c ∧ total s' = total s + c ∧ Admissible (total s')
  step_of : ∀ {s x c}, contribution x = some c → Admissible (total s + c) →
    ∃ s', step s x = .ok s'

section Contributions
variable {contribution : α → Option M}

theorem contributions_cons_eq_some {x : α} {xs : List α} {m : M} :
    contributions contribution (x :: xs) = some m ↔
      ∃ c cs, contribution x = some c ∧ contributions contribution xs = some cs ∧ c + cs = m := by
  simp only [contributions, Option.bind_eq_bind, Option.bind_eq_some_iff, Option.some.injEq]
  constructor
  · rintro ⟨c, hc, cs, hcs, he⟩
    exact ⟨c, cs, hc, hcs, he⟩
  · rintro ⟨c, cs, hc, hcs, he⟩
    exact ⟨c, hc, cs, hcs, he⟩

theorem contributions_perm {xs ys : List α} (h : xs.Perm ys) :
    contributions contribution xs = contributions contribution ys := by
  induction h with
  | nil => rfl
  | cons x _ ih => rw [contributions, contributions, ih]
  | swap x y xs =>
      simp only [contributions]
      cases contribution x with
      | none => cases contribution y <;> rfl
      | some c =>
          cases contribution y with
          | none => rfl
          | some d =>
              cases contributions contribution xs with
              | none => rfl
              | some cs => exact congrArg some (add_left_comm d c cs)
  | trans _ _ ih₁ ih₂ => exact ih₁.trans ih₂

theorem contribution_of_mem {x : α} {xs : List α} {m : M}
    (h : contributions contribution xs = some m) (hx : x ∈ xs) :
    ∃ c d, contribution x = some c ∧ m = c + d := by
  induction xs generalizing m with
  | nil => cases hx
  | cons y ys ih =>
      obtain ⟨c, cs, hc, hcs, rfl⟩ := contributions_cons_eq_some.mp h
      rcases List.mem_cons.mp hx with rfl | hy
      · exact ⟨c, cs, hc, rfl⟩
      · obtain ⟨d, e, hd, rfl⟩ := ih hcs hy
        exact ⟨d, c + e, hd, add_left_comm c d e⟩

end Contributions

section Run
variable {step : σ → α → Except ε σ} {contribution : α → Option M} {total : σ → M}
  {Admissible : M → Prop}

theorem Tallies.of_run (T : Tallies step contribution total Admissible) {s s' : σ} {xs : List α}
    (hs : Admissible (total s)) (h : run step s xs = .ok s') :
    ∃ m, contributions contribution xs = some m ∧ total s' = total s + m ∧
      Admissible (total s') := by
  induction xs generalizing s with
  | nil =>
      cases h
      exact ⟨0, rfl, (add_zero _).symm, hs⟩
  | cons x xs ih =>
      obtain ⟨s₁, hstep, hrest⟩ := bind_eq_ok.mp h
      obtain ⟨c, hc, htotal, hadm⟩ := T.of_step hs hstep
      obtain ⟨m, hm, htotal', hadm'⟩ := ih hadm hrest
      refine ⟨c + m, contributions_cons_eq_some.mpr ⟨c, m, hc, hm, rfl⟩, ?_, hadm'⟩
      rw [htotal', htotal, add_assoc]

theorem Tallies.run_of (T : Tallies step contribution total Admissible) {s : σ} {xs : List α}
    {m : M} (hm : contributions contribution xs = some m) (hadm : Admissible (total s + m)) :
    ∃ s', run step s xs = .ok s' := by
  induction xs generalizing s m with
  | nil => exact ⟨s, rfl⟩
  | cons x xs ih =>
      obtain ⟨c, cs, hc, hcs, rfl⟩ := contributions_cons_eq_some.mp hm
      rw [← add_assoc] at hadm
      obtain ⟨s₁, hstep⟩ := T.step_of hc (T.of_add hadm)
      obtain ⟨c', hc', htotal, -⟩ := T.of_step (T.of_add (T.of_add hadm)) hstep
      rw [hc] at hc'
      cases hc'
      rw [← htotal] at hadm
      obtain ⟨s', hrun⟩ := ih hcs hadm
      refine ⟨s', ?_⟩
      rw [run, hstep, ok_bind, hrun]

/-- The order of the elements does not matter. -/
theorem Tallies.run_perm (T : Tallies step contribution total Admissible) {s s' : σ}
    {xs ys : List α} (hperm : xs.Perm ys) (hs : Admissible (total s))
    (h : run step s xs = .ok s') : ∃ t, run step s ys = .ok t ∧ total t = total s' := by
  obtain ⟨m, hm, htotal, hadm⟩ := T.of_run hs h
  rw [contributions_perm hperm] at hm
  rw [htotal] at hadm
  obtain ⟨t, ht⟩ := T.run_of hm hadm
  obtain ⟨m', hm', htotal', -⟩ := T.of_run hs ht
  rw [hm] at hm'
  cases hm'
  exact ⟨t, ht, htotal'.trans htotal.symm⟩

end Run
end Tally
