import Mathlib.Logic.Relation
import Mathlib.Data.List.Basic

/-!
Deterministic machines whose labels carry every choice of the environment, and
the runs they have. A guard restricts the steps of a run by the state before the
step and its label; the runs without a guard are the ones whose guard is `True`.
-/

universe u v

/-- A start state and a partial step. A label which is not enabled gives `none`. -/
structure Machine (σ : Type u) (ε : Type v) where
  init : σ
  step : σ → ε → Option σ

namespace Machine
variable {σ : Type u} {ε : Type v}

/-- One step whose starting state and label satisfy the guard. -/
def Next (M : Machine σ ε) (guard : σ → ε → Prop) (s s' : σ) : Prop :=
  ∃ e, guard s e ∧ M.step s e = some s'

/-- The states of the runs all of whose steps satisfy the guard. -/
def ReachableUnder (M : Machine σ ε) (guard : σ → ε → Prop) (s : σ) : Prop :=
  Relation.ReflTransGen (M.Next guard) M.init s

def Reachable (M : Machine σ ε) : σ → Prop :=
  M.ReachableUnder fun _ _ => True

theorem ReachableUnder.step {M : Machine σ ε} {guard : σ → ε → Prop} {s s' : σ} {e : ε}
    (hs : M.ReachableUnder guard s) (hg : guard s e) (he : M.step s e = some s') :
    M.ReachableUnder guard s' :=
  hs.tail ⟨e, hg, he⟩

theorem Reachable.step {M : Machine σ ε} {s s' : σ} {e : ε}
    (hs : M.Reachable s) (he : M.step s e = some s') : M.Reachable s' :=
  ReachableUnder.step hs trivial he

/-- The invariant rule of guarded runs. The step may use that the state before it
is reached by such a run. -/
theorem ReachableUnder.invariant {M : Machine σ ε} {guard : σ → ε → Prop} {P : σ → Prop}
    (hinit : P M.init)
    (hstep : ∀ s e s', M.ReachableUnder guard s → P s → guard s e →
      M.step s e = some s' → P s')
    {s : σ} (hs : M.ReachableUnder guard s) : P s := by
  induction hs with
  | refl => exact hinit
  | tail hr hn ih =>
      obtain ⟨e, hg, he⟩ := hn
      exact hstep _ e _ hr ih hg he

theorem Reachable.invariant {M : Machine σ ε} {P : σ → Prop} (hinit : P M.init)
    (hstep : ∀ s e s', M.Reachable s → P s → M.step s e = some s' → P s')
    {s : σ} (hs : M.Reachable s) : P s :=
  ReachableUnder.invariant hinit (fun s e s' hr hp _ he => hstep s e s' hr hp he) hs

theorem ReachableUnder.mono {M : Machine σ ε} {guard guard' : σ → ε → Prop}
    (h : ∀ s e, guard s e → guard' s e) {s : σ} (hs : M.ReachableUnder guard s) :
    M.ReachableUnder guard' s := by
  induction hs with
  | refl => exact .refl
  | tail _ hn ih =>
      obtain ⟨e, hg, he⟩ := hn
      exact ih.tail ⟨e, h _ e hg, he⟩

theorem ReachableUnder.reachable {M : Machine σ ε} {guard : σ → ε → Prop} {s : σ}
    (hs : M.ReachableUnder guard s) : M.Reachable s :=
  hs.mono fun _ _ _ => trivial

/-- The refinement rule. Where every step is a sequence of smaller moves on a view of
the state, so is every run. -/
theorem Reachable.moves {δ : Type v} {M : Machine σ ε} {R : δ → δ → Prop} (view : σ → δ)
    (hstep : ∀ s e s', M.step s e = some s' → Relation.ReflTransGen R (view s) (view s'))
    {s : σ} (hs : M.Reachable s) : Relation.ReflTransGen R (view M.init) (view s) :=
  Reachable.invariant (P := fun s => Relation.ReflTransGen R (view M.init) (view s)) .refl
    (fun s e s' _ hp he => hp.trans (hstep s e s' he)) hs

/-- What every move preserves holds after any number of them. -/
theorem moves_preserve {δ : Type v} {R : δ → δ → Prop} {P : δ → Prop}
    (hmove : ∀ d d', P d → R d d' → P d') {d d' : δ}
    (h : Relation.ReflTransGen R d d') (hd : P d) : P d' := by
  induction h with
  | refl => exact hd
  | tail _ hm ih => exact hmove _ _ ih hm

/-- Execute a list of labels, first label first. -/
def run (M : Machine σ ε) (s : σ) : List ε → Option σ
  | [] => some s
  | e :: es => (M.step s e).bind fun s' => M.run s' es

theorem run_cons (M : Machine σ ε) (s : σ) (e : ε) (es : List ε) :
    M.run s (e :: es) = (M.step s e).bind fun s' => M.run s' es := rfl

theorem reachable_run {M : Machine σ ε} {s s' : σ} (hs : M.Reachable s) {es : List ε}
    (h : M.run s es = some s') : M.Reachable s' := by
  induction es generalizing s with
  | nil =>
      obtain rfl : s = s' := by simpa [run] using h
      exact hs
  | cons e es ih =>
      rw [run_cons, Option.bind_eq_some_iff] at h
      obtain ⟨t, ht, h⟩ := h
      exact ih (hs.step ht) h

theorem reachable_of_run {M : Machine σ ε} {es : List ε} {s : σ}
    (h : M.run M.init es = some s) : M.Reachable s :=
  reachable_run .refl h

/-- A run which was executed, and what was found of its last state. -/
theorem reachable_of_any (M : Machine σ ε) (es : List ε) (p : σ → Bool)
    (h : (M.run M.init es).any p = true) :
    ∃ s, M.run M.init es = some s ∧ M.Reachable s ∧ p s = true := by
  obtain ⟨s, hs, hp⟩ := (Option.any_eq_true _ _).mp h
  exact ⟨s, hs, reachable_of_run hs, hp⟩

/-- Execute a list of labels as long as a decidable guard holds of every step. -/
def runUnder (M : Machine σ ε) (guard : σ → ε → Prop) [∀ s e, Decidable (guard s e)]
    (s : σ) : List ε → Option σ
  | [] => some s
  | e :: es => if guard s e then (M.step s e).bind fun s' => M.runUnder guard s' es else none

theorem reachableUnder_runUnder {M : Machine σ ε} {guard : σ → ε → Prop}
    [∀ s e, Decidable (guard s e)] {s s' : σ} (hs : M.ReachableUnder guard s) {es : List ε}
    (h : M.runUnder guard s es = some s') : M.ReachableUnder guard s' := by
  induction es generalizing s with
  | nil =>
      obtain rfl : s = s' := by simpa [runUnder] using h
      exact hs
  | cons e es ih =>
      simp only [runUnder] at h
      split at h
      · rename_i hg
        rw [Option.bind_eq_some_iff] at h
        obtain ⟨t, ht, h⟩ := h
        exact ih (hs.step hg ht) h
      · cases h

theorem reachableUnder_of_runUnder {M : Machine σ ε} {guard : σ → ε → Prop}
    [∀ s e, Decidable (guard s e)] {es : List ε} {s : σ}
    (h : M.runUnder guard M.init es = some s) : M.ReachableUnder guard s :=
  reachableUnder_runUnder .refl h

end Machine
