import OpenRfc.Foundation.Fallible

/-!
Loops which read a list with a cursor. One step sees the item at the cursor and all that stands
behind it, and says how many of the items behind it belong to it; the loop goes on behind them.
What writes one group of items for every entry of a list is read back entry by entry.
-/

namespace Cursor
open Fallible
variable {ε α β σ : Type}

/-- The loop, with the number of items which are still to be skipped. -/
def scan (step : σ → α → List α → Except ε (σ × Nat)) : Nat → σ → List α → Except ε σ
  | _, s, [] => .ok s
  | skip + 1, s, _ :: rest => scan step skip s rest
  | 0, s, x :: rest => do
    let (s', skip) ← step s x rest
    scan step skip s' rest

/-- A state admits the entries of a list, one after the other. -/
def AdmitsAll (Admits : σ → β → Prop) (add : σ → β → σ) : σ → List β → Prop
  | _, [] => True
  | s, x :: xs => Admits s x ∧ AdmitsAll Admits add (add s x) xs

/-- The group of an entry is read in one step, whatever stands behind it. -/
def ReadsGroup (step : σ → α → List α → Except ε (σ × Nat)) (group : β → List α)
    (add : σ → β → σ) (Admits : σ → β → Prop) : Prop :=
  ∀ s x rest, Admits s x → ∃ first others, group x = first :: others ∧
    step s first (others ++ rest) = .ok (add s x, others.length)

section Scan
variable {step : σ → α → List α → Except ε (σ × Nat)} {group : β → List α} {add : σ → β → σ}
  {Admits : σ → β → Prop} {s : σ}

theorem scan_skip (skipped rest : List α) :
    scan step skipped.length s (skipped ++ rest) = scan step 0 s rest := by
  induction skipped with
  | nil => rfl
  | cons x skipped ih => exact ih

theorem scan_group (h : ReadsGroup step group add Admits) {x : β} (hx : Admits s x)
    (rest : List α) : scan step 0 s (group x ++ rest) = scan step 0 (add s x) rest := by
  obtain ⟨first, others, hgroup, hstep⟩ := h s x rest hx
  rw [hgroup, List.cons_append, scan, hstep, ok_bind]
  exact scan_skip others rest

/-- What has been written entry by entry is read entry by entry. -/
theorem scan_groups (h : ReadsGroup step group add Admits) {xs : List β}
    (hxs : AdmitsAll Admits add s xs) (rest : List α) :
    scan step 0 s (xs.flatMap group ++ rest) = scan step 0 (xs.foldl add s) rest := by
  induction xs generalizing s with
  | nil => rfl
  | cons x xs ih =>
      rw [List.flatMap_cons, List.append_assoc, scan_group h hxs.1, ih hxs.2]
      rfl

end Scan

/-- Entries are admitted when each is admitted by a state to which those in front of it have
been added. -/
theorem admitsAll_of_splits {Admits : σ → β → Prop} {add : σ → β → σ} {s : σ} {xs : List β}
    (h : ∀ before x after, xs = before ++ x :: after → Admits (before.foldl add s) x) :
    AdmitsAll Admits add s xs := by
  induction xs generalizing s with
  | nil => trivial
  | cons x xs ih =>
      refine ⟨h [] x xs rfl, ih ?_⟩
      intro before y after he
      apply h (x :: before) y after
      rw [he, List.cons_append]

end Cursor
