import OpenRfc.Destination.Cycles
import Mathlib.Algebra.Order.BigOperators.Group.Finset
import Mathlib.Algebra.GroupWithZero.Nat

/-!
The work which is left to the members, and that it ends: every step which is no call lowers
one measure. A run of such steps is therefore finite, and once none is left every retirement
has settled.
-/

set_option linter.unusedSectionVars false

namespace OpenRfc.Destination
open WaitGraph

def OpenPhase.work : OpenPhase → Nat
  | .queued => 4
  | .opening => 3
  | .delivered _ => 2
  | .disposing _ => 1
  | _ => 0

def HookPhase.work : HookPhase → Nat
  | .waiting => 2
  | .running => 1
  | .settled _ => 0

def Retirement.work (r : Retirement) : Nat :=
  (r.hooks .application).elim 0 HookPhase.work + (r.hooks .repository).elim 0 HookPhase.work +
    if r.outcome.isNone then 1 else 0

/-- The steps which a generation has left. One whose retirement has not begun has all of the
retirement left. -/
def DestinationConfigurationGeneration.work (s : DestinationConfigurationGeneration) : Nat :=
  (s.opens.map fun x => x.phase.work).sum + s.retirement.elim 6 Retirement.work

def RfcDestinationRuntime.work (x : RfcDestinationRuntime) : Nat :=
  x.repository.work + (if x.generation.isNone then 1 else 0) +
    if x.state = .retired then 0 else 1

namespace DestinationConfigurationGeneration
variable {cfg : Settings} {s s' : DestinationConfigurationGeneration}

theorem sum_set {α : Type} (f : α → Nat) {xs : List α} {i : Nat} {x : α} (hx : xs[i]? = some x)
    (y : α) : ((xs.set i y).map f).sum + f x = (xs.map f).sum + f y := by
  induction xs generalizing i with
  | nil => cases hx
  | cons z xs ih =>
      cases i with
      | zero =>
          cases hx
          simp only [List.set_cons_zero, List.map_cons, List.sum_cons]
          omega
      | succ i =>
          have hi := ih (i := i) hx
          simp only [List.set_cons_succ, List.map_cons, List.sum_cons]
          omega

/-- An open which moves on has less work left, and so has its generation. -/
theorem work_of_set {i : Nat} {x y : Open} (hx : s.opens[i]? = some x)
    (hp : y.phase.work < x.phase.work) (hopens : s'.opens = s.opens.set i y)
    (hret : s'.retirement = s.retirement) : s'.work < s.work := by
  have hsum := sum_set (fun x : Open => x.phase.work) hx y
  unfold work
  rw [hopens, hret]
  omega

theorem work_of_hook {r : Retirement} {lane : Lane} {phase : HookPhase} (phase' : HookPhase)
    (hr : s.retirement = some r) (hk : r.hooks lane = some phase)
    (hp : phase'.work < phase.work) (o : Observation) :
    ((s.setHook r lane phase').observe o).work < s.work := by
  unfold work
  rw [hr]
  cases lane <;>
    simp only [observe, setHook, Retirement.work, hk, Option.elim_some, reduceCtorEq, if_true,
      if_false] <;> omega

/-- Beginning a retirement leaves no more work than there was. -/
theorem work_retire : (s.retire cfg).work ≤ s.work := by
  cases hr : s.retirement with
  | some r => simp only [work, DestinationConfigurationGeneration.retire, hr, observe, le_refl]
  | none =>
      have hlane (lane : Lane) :
          (if cfg.hooked lane then some HookPhase.waiting else none).elim 0 HookPhase.work ≤ 2 := by
        split <;> decide
      have h1 := hlane .application
      have h2 := hlane .repository
      simp only [work, DestinationConfigurationGeneration.retire, hr, observe, Option.elim_some,
        Option.elim_none, Retirement.work, Option.isNone_none, if_true]
      omega

theorem work_of_step {e : Event} (he : step cfg s e = some s')
    (hopen : ∀ lane, e ≠ .openLane lane) (hretire : e ≠ .retire) : s'.work < s.work := by
  cases e with
  | openLane lane => exact absurd rfl (hopen lane)
  | retire => exact absurd rfl hretire
  | callFactory i =>
      simp only [step] at he
      split at he
      · rename_i lane hx
        cases he
        exact work_of_set (y := ⟨lane, .opening⟩) hx (Nat.lt_add_one 3) rfl rfl
      · cases he
  | deliver i c =>
      simp only [step] at he
      split at he
      · rename_i lane hx
        cases he
        exact work_of_set (y := ⟨lane, .delivered c⟩) hx (Nat.lt_add_one 2) rfl rfl
      · cases he
  | reject i reason =>
      simp only [step] at he
      split at he
      · rename_i lane hx
        cases he
        exact work_of_set (y := ⟨lane, .rejected reason⟩) hx (Nat.zero_lt_succ 2) rfl rfl
      · cases he
  | resume i =>
      simp only [step] at he
      split at he
      · rename_i lane c hx
        cases he
        unfold resume
        split
        · exact work_of_set (y := ⟨lane, .disposing c⟩) hx (Nat.lt_add_one 1) rfl rfl
        · exact work_of_set (y := ⟨lane, .succeeded c⟩) hx Nat.zero_lt_two rfl rfl
      · cases he
  | settleDisposal i outcome =>
      simp only [step] at he
      split at he
      · rename_i lane c hx
        cases he
        exact work_of_set (y := ⟨lane, .disposed c outcome⟩) hx Nat.zero_lt_one rfl rfl
      · cases he
  | callHook lane =>
      simp only [step] at he
      split at he
      · rename_i r hr
        split at he
        · rename_i hk
          cases he
          exact work_of_hook .running hr hk Nat.one_lt_two _
        · cases he
      · cases he
  | settleHook lane outcome =>
      simp only [step] at he
      split at he
      · rename_i r hr
        split at he
        · rename_i hk
          cases he
          exact work_of_hook (.settled outcome) hr hk Nat.zero_lt_one _
        · cases he
      · cases he
  | finish =>
      simp only [step] at he
      split at he
      · rename_i r hr
        split at he
        · rename_i hd
          cases he
          rw [Bool.and_eq_true] at hd
          simp only [work, finish, observe, hr, Option.elim_some, Retirement.work, hd.1,
            Option.isNone_some, Bool.false_eq_true, if_true, if_false]
          omega
        · cases he
      · cases he

end DestinationConfigurationGeneration

namespace Network
variable {ι κ : Type} [DecidableEq ι] [DecidableEq κ] {cfg : NetworkSettings ι κ}
  {s s' : Network ι κ}

section Work
variable [Fintype ι] [Fintype κ]

def work (s : Network ι κ) : Nat :=
  ∑ g, (s.generation g).work + ∑ r, (s.runtime r).work

theorem sum_update_le {α β : Type} [Fintype α] [DecidableEq α] (f : β → Nat) (x : α → β) {a : α}
    {y : β} (h : f y ≤ f (x a)) : ∑ b, f (Function.update x a y b) ≤ ∑ b, f (x b) := by
  apply Finset.sum_le_sum
  intro b _
  by_cases hb : b = a
  · subst hb
    rw [Function.update_self]
    exact h
  · rw [Function.update_of_ne hb]

theorem sum_update_lt {α β : Type} [Fintype α] [DecidableEq α] (f : β → Nat) (x : α → β) {a : α}
    {y : β} (h : f y < f (x a)) : ∑ b, f (Function.update x a y b) < ∑ b, f (x b) := by
  apply Finset.sum_lt_sum
  · intro b _
    by_cases hb : b = a
    · subst hb
      rw [Function.update_self]
      exact h.le
    · rw [Function.update_of_ne hb]
  · refine ⟨a, Finset.mem_univ a, ?_⟩
    rw [Function.update_self]
    exact h

theorem work_setRuntime {r : κ} {x : RfcDestinationRuntime} (hx : x.work < (s.runtime r).work) :
    (s.setRuntime r x).work < s.work := by
  have := sum_update_lt RfcDestinationRuntime.work s.runtime hx
  simp only [work, setRuntime]
  omega

theorem work_setGeneration {g : ι} {x : DestinationConfigurationGeneration}
    (hx : x.work < (s.generation g).work) : (s.setGeneration g x).work < s.work := by
  have := sum_update_lt DestinationConfigurationGeneration.work s.generation hx
  simp only [work, setGeneration]
  omega

theorem work_retireGeneration (cfg : NetworkSettings ι κ) (s : Network ι κ)
    (context : AsyncContext ι κ) (g : ι) :
    (s.retireGeneration cfg context g).2.work ≤ s.work := by
  have := sum_update_le DestinationConfigurationGeneration.work s.generation (a := g)
    (y := (s.generation g).retire (cfg.generation g))
    DestinationConfigurationGeneration.work_retire
  simp only [work, retireGeneration_generation, retireGeneration_runtime]
  omega

/-- Every step which is no call leaves less work. -/
theorem work_of_step {e : NetworkEvent ι κ} (hw : e.isWork = true)
    (he : Network.step cfg s e = some s') : s'.work < s.work := by
  cases e with
  | openLane caller g lane => cases hw
  | retire caller m => cases hw
  | untrack owner target => cases hw
  | untrackDestination owner target => cases hw
  | generation g e =>
      simp only [Network.step] at he
      split at he
      · rename_i hallow
        obtain ⟨x, hx, rfl⟩ := Option.map_eq_some_iff.mp he
        apply work_setGeneration
        apply DestinationConfigurationGeneration.work_of_step hx
        · rintro lane rfl
          cases hallow
        · rintro rfl
          cases hallow
      · cases he
  | callRepository r =>
      simp only [Network.step] at he
      split at he
      · rename_i hr
        cases he
        apply work_setRuntime
        rw [hr]
        decide
      · cases he
  | callGeneration r =>
      simp only [Network.step] at he
      split at he
      · cases he
      · rename_i _ phase _ hr
        cases he
        have hle :=
          work_retireGeneration cfg s (s.taskContext (.repository r)) (cfg.generationOf r)
        refine lt_of_lt_of_le ?_ hle
        apply work_setRuntime
        rw [retireGeneration_runtime, hr]
        simp [RfcDestinationRuntime.work]
      · cases he
  | settleRepository r outcome =>
      simp only [Network.step] at he
      split at he
      · rename_i hr
        split at he
        · cases he
          apply work_setRuntime
          rw [hr]
          simp [RfcDestinationRuntime.work, HookPhase.work]
        · cases he
      · cases he
  | throwRepository r =>
      simp only [Network.step] at he
      split at he
      · rename_i hr
        split at he
        · cases he
          apply work_setRuntime
          rw [hr]
          decide
        · cases he
      · cases he
  | finishRuntime r =>
      simp only [Network.step] at he
      split at he
      · rename_i hr
        split at he
        · cases he
          apply work_setRuntime
          rw [hr]
          simp [RfcDestinationRuntime.work]
        · cases he
      · cases he

theorem bounded_work {es : List (NetworkEvent ι κ)} (hw : ∀ e ∈ es, e.isWork = true)
    (hrun : (network cfg).run s es = some s') : es.length + s'.work ≤ s.work := by
  induction es generalizing s with
  | nil =>
      obtain rfl : s = s' := by simpa [Machine.run] using hrun
      exact (Nat.zero_add _).le
  | cons e es ih =>
      rw [Machine.run_cons, Option.bind_eq_some_iff] at hrun
      obtain ⟨t, ht, hrun⟩ := hrun
      have h1 := work_of_step (hw e List.mem_cons_self) ht
      have h2 := ih (fun e he => hw e (List.mem_cons_of_mem _ he)) hrun
      rw [List.length_cons]
      omega

end Work

section Invariants

theorem Ordered.same (h : Ordered cfg s) {e : NetworkEvent ι κ} (hs : Stepped cfg s e s')
    (hr : s'.runtime = s.runtime) : Ordered cfg s' where
  waiting r := by
    rw [hr]
    exact h.waiting r
  begun r := by
    rw [hr]
    exact fun hp => (hs.phase _).ne_active (h.begun r hp)

theorem Ordered.set (h : Ordered cfg s) {e : NetworkEvent ι κ} (hs : Stepped cfg s e s') {r : κ}
    {x : RfcDestinationRuntime} (hr : s'.runtime = Function.update s.runtime r x)
    (hwaiting : x.repository = .waiting → x.generation = none)
    (hbegun : x.generation = some .promise →
      s'.phase (.generation (cfg.generationOf r)) ≠ .active) :
    Ordered cfg s' := by
  constructor
  · intro r'
    rw [hr]
    by_cases he : r' = r
    · subst he
      rw [Function.update_self]
      exact hwaiting
    · rw [Function.update_of_ne he]
      exact h.waiting r'
  · intro r'
    rw [hr]
    by_cases he : r' = r
    · subst he
      rw [Function.update_self]
      exact hbegun
    · rw [Function.update_of_ne he]
      exact fun hp => (hs.phase _).ne_active (h.begun r' hp)

theorem answered_runtime (caller : Option (Task ι κ)) (m : Member ι κ) (answer : Answer) :
    (s.answered caller m answer).runtime = s.runtime := by
  unfold answered
  dsimp only
  split <;> rfl

theorem retireRuntime_runtime (context : AsyncContext ι κ) (r : κ) :
    (s.retireRuntime context r).2.runtime = s.runtime ∨
      (s.retireRuntime context r).2.runtime =
        Function.update s.runtime r { s.runtime r with state := .retiring } := by
  unfold retireRuntime
  dsimp only
  split
  · exact .inl rfl
  · split
    · exact .inr rfl
    · exact .inl rfl

theorem Ordered.step (ha : Accounts cfg s) (h : Ordered cfg s) {e : NetworkEvent ι κ}
    (he : Network.step cfg s e = some s') : Ordered cfg s' := by
  have hs := step_stepped ha he
  -- A runtime which keeps the answer of its generation keeps what is known of it.
  have kept {r : κ} {phase : GenerationState} {repository : HookPhase} {answer : Option Answer}
      (hr : s.runtime r = ⟨phase, repository, answer⟩) (hp : answer = some .promise) :
      s'.phase (.generation (cfg.generationOf r)) ≠ .active := by
    apply (hs.phase _).ne_active
    apply h.begun r
    rw [hr]
    exact hp
  cases e with
  | openLane caller g lane =>
      simp only [Network.step] at he
      split at he <;> cases he
      exact h.same hs rfl
  | retire caller m =>
      simp only [Network.step] at he
      split at he <;> cases he
      cases m with
      | generation g =>
          exact h.same hs ((answered_runtime _ _ _).trans (retireGeneration_runtime _ g))
      | runtime r =>
          rcases retireRuntime_runtime (s := s) (caller.elim ⟨none, none⟩ s.taskContext) r
            with hr | hr
          · exact h.same hs ((answered_runtime _ _ _).trans hr)
          · apply h.set hs ((answered_runtime _ _ _).trans hr) (h.waiting r)
            exact fun hp => (hs.phase _).ne_active (h.begun r hp)
  | generation g e =>
      simp only [Network.step] at he
      split at he
      · obtain ⟨x, hx, rfl⟩ := Option.map_eq_some_iff.mp he
        exact h.same hs rfl
      · cases he
  | callRepository r =>
      simp only [Network.step] at he
      split at he
      · cases he
        exact h.set hs rfl (by rintro ⟨⟩) (by rintro ⟨⟩)
      · cases he
  | callGeneration r =>
      simp only [Network.step] at he
      split at he
      · cases he
      · rename_i _ phase hp hr
        cases he
        have hc := retireGeneration_called (s.taskContext (.repository r))
          (ha.accounted (cfg.generationOf r)).retiring
        apply h.set hs
        · rw [setRuntime, retireGeneration_runtime]
        · exact fun hw => (hp hw).elim
        · exact fun hb => hc.begun (Option.some.inj hb)
      · cases he
  | settleRepository r outcome =>
      simp only [Network.step] at he
      split at he
      · rename_i hr
        split at he <;> cases he
        exact h.set hs rfl (by rintro ⟨⟩) (kept hr)
      · cases he
  | throwRepository r =>
      simp only [Network.step] at he
      split at he
      · split at he <;> cases he
        exact h.set hs rfl (by rintro ⟨⟩) (by rintro ⟨⟩)
      · cases he
  | finishRuntime r =>
      simp only [Network.step] at he
      split at he
      · rename_i hr
        split at he <;> cases he
        exact h.set hs rfl (by rintro ⟨⟩) (kept hr)
      · cases he
  | untrack owner target =>
      simp only [Network.step] at he
      split at he <;> cases he
      exact h.same hs rfl
  | untrackDestination owner target =>
      simp only [Network.step] at he
      split at he <;> cases he
      exact h.same hs rfl

/-- What holds of the members, the graphs and the foreign code in every run of the guard. -/
structure Sound (cfg : NetworkSettings ι κ) (s : Network ι κ) : Prop where
  accounts : Accounts cfg s
  tracked : Tracked s
  unmixed : s.NoMixedWait
  ordered : Ordered cfg s

theorem Sound.initial : Sound cfg .initial where
  accounts _ := .refl
  tracked := Tracked.initial
  unmixed _ _ _ _ hm := (List.not_mem_nil hm).elim
  ordered := ⟨fun _ _ => rfl, nofun⟩

theorem Sound.step (h : Sound cfg s) {e : NetworkEvent ι κ} (hg : s.Unmixed e)
    (he : Network.step cfg s e = some s') : Sound cfg s' where
  accounts := h.accounts.step he
  tracked := (step_stepped h.accounts he).tracked h.tracked
  unmixed := (step_stepped h.accounts he).noMixedWait h.unmixed hg
  ordered := h.ordered.step h.accounts he

/-- A step which is no call gives no promise to foreign code. -/
theorem unmixed_of_isWork {e : NetworkEvent ι κ} (hw : e.isWork = true) : s.Unmixed e := by
  cases e with
  | retire caller m => cases hw
  | _ => trivial

theorem sound_run (h : Sound cfg s) {es : List (NetworkEvent ι κ)}
    (hw : ∀ e ∈ es, e.isWork = true) (hrun : (network cfg).run s es = some s') :
    Sound cfg s' ∧ ∀ m, s.phase m ≠ .active → s'.phase m ≠ .active := by
  induction es generalizing s with
  | nil =>
      obtain rfl : s = s' := by simpa [Machine.run] using hrun
      exact ⟨h, fun _ hm => hm⟩
  | cons e es ih =>
      rw [Machine.run_cons, Option.bind_eq_some_iff] at hrun
      obtain ⟨t, ht, hrun⟩ := hrun
      have hstep := h.step (unmixed_of_isWork (hw e List.mem_cons_self)) ht
      obtain ⟨hs, hkeep⟩ := ih hstep (fun e he => hw e (List.mem_cons_of_mem _ he)) hrun
      exact ⟨hs, fun m hm => hkeep m (((step_stepped h.accounts ht).phase m).ne_active hm)⟩

end Invariants

/-- No retirement waits, through others, for itself; whatever work is left ends, and with it
every retirement which has begun; and a caller from outside is given the promise. -/
structure NoWaitCycle (cfg : NetworkSettings ι κ) (s : Network ι κ) : Prop where
  acyclic : Acyclic (Waits cfg s)
  bounded : ∃ n, ∀ es s', (∀ e ∈ es, NetworkEvent.isWork e = true) →
    (network cfg).run s es = some s' → es.length ≤ n
  settles : ∀ es s', (∀ e ∈ es, NetworkEvent.isWork e = true) →
    (network cfg).run s es = some s' → Quiet cfg s' →
    ∀ m, s.phase m ≠ .active → s'.settled m = true
  outside : ∀ m answer, (none, m, answer) ∈ s.answers → answer = .promise

theorem noWaitCycle_of_unmixed [Finite ι] [Finite κ]
    (h : (network cfg).ReachableUnder Unmixed s) : NoWaitCycle cfg s := by
  have hs : Sound cfg s := h.invariant Sound.initial fun _ _ _ _ hp hg he => hp.step hg he
  have := Fintype.ofFinite ι
  have := Fintype.ofFinite κ
  constructor
  · exact waits_acyclic hs.accounts hs.tracked hs.unmixed
  · refine ⟨s.work, fun es s' hw hrun => ?_⟩
    have := bounded_work hw hrun
    omega
  · intro es s' hw hrun hq m hm
    obtain ⟨hs', hkeep⟩ := sound_run hs hw hrun
    have hne := settled_of_quiet hs'.accounts hs'.tracked hs'.unmixed hs'.ordered hq m
    rw [settled, decide_eq_true_eq]
    cases hp : s'.phase m with
    | active => exact absurd hp (hkeep m hm)
    | retiring => exact absurd hp hne
    | retired => rfl
  · exact hs.tracked.outside

/-- One runtime over one generation, whose application lane has a hook. -/
def pair : NetworkSettings Unit Unit :=
  ⟨fun _ => ⟨"only", fun lane => lane = .application⟩, fun _ => ()⟩

/-- The hook of the generation runs inside the retirement of the runtime, and calls it. -/
def hookInside : List (NetworkEvent Unit Unit) :=
  [.retire none (.runtime ()), .callRepository (), .callGeneration (),
    .generation () (.callHook .application),
    .retire (some (.hook () .application)) (.runtime ())]

/-- The hook does not know of the runtime, which has been retired from outside. -/
def hookOutside : List (NetworkEvent Unit Unit) :=
  [.retire none (.generation ()), .retire none (.runtime ()),
    .generation () (.callHook .application),
    .retire (some (.hook () .application)) (.runtime ()), .callRepository (),
    .callGeneration ()]

theorem noWaitCycle_hookInside :
    ∃ s, (network pair).runUnder Unmixed .initial hookInside = some s ∧
      s.isRunning (.hook () .application) = true ∧
      (some (.hook () .application), .runtime (), .acknowledgement) ∈ s.answers ∧
      NoWaitCycle pair s := by
  have hrun : ((network pair).runUnder Unmixed .initial hookInside).any (fun s =>
      s.isRunning (.hook () .application) && decide
        ((some (.hook () .application), .runtime (), .acknowledgement) ∈ s.answers)) = true := by
    decide
  obtain ⟨s, hs, hp⟩ := (Option.any_eq_true _ _).mp hrun
  rw [Bool.and_eq_true, decide_eq_true_eq] at hp
  exact ⟨s, hs, hp.1, hp.2, noWaitCycle_of_unmixed (Machine.reachableUnder_of_runUnder hs)⟩

theorem not_noWaitCycle_hookOutside :
    ∃ s, (network pair).Reachable s ∧ ¬ NoWaitCycle pair s := by
  have hrun : ((network pair).run .initial hookOutside).any (fun s =>
      s.isRunning (.hook () .application) &&
      decide (.runtime () ∈ s.awaits (.hook () .application)) &&
      decide (s.phase (.runtime ()) = .retiring) &&
      decide ((s.runtime ()).generation = some .promise) &&
      decide (s.phase (.generation ()) = .retiring)) = true := by
    decide
  obtain ⟨s, -, hs, hp⟩ := Machine.reachable_of_any _ _ _ hrun
  simp only [Bool.and_eq_true, decide_eq_true_eq] at hp
  obtain ⟨⟨⟨⟨hhook, hawait⟩, hruntime⟩, hbody⟩, hgeneration⟩ := hp
  refine ⟨s, hs, fun h => h.acyclic (.generation ()) ?_⟩
  have h1 : Waits pair s (.generation ()) (.runtime ()) :=
    .hook () .application _ hhook hawait hruntime
  have h2 : Waits pair s (.runtime ()) (.generation ()) := .body () hruntime hbody hgeneration
  exact .tail (.single h1) h2

end Network
end OpenRfc.Destination
