import OpenRfc.Destination.Waiting
import Mathlib.Data.Finite.Sum

/-!
Retirements do not wait for each other in a cycle, as long as no generation waits for a
runtime. Then some member which has not settled waits for no other, and its own work goes on.
-/

set_option linter.unusedSectionVars false

namespace OpenRfc.Destination
open WaitGraph

/-- A step which is no call from foreign code or from outside. -/
def NetworkEvent.isWork {ι κ : Type} : NetworkEvent ι κ → Bool
  | .generation _ _ | .callRepository _ | .callGeneration _ | .settleRepository _ _
  | .throwRepository _ | .finishRuntime _ => true
  | _ => false

namespace Network
variable {ι κ : Type} [DecidableEq ι] [DecidableEq κ] {cfg : NetworkSettings ι κ}
  {s s' : Network ι κ}

/-- A call of `retire` on the runtime is answered with the acknowledgement, or with a promise
which has settled. -/
def releases (s : Network ι κ) (context : AsyncContext ι κ) (r : κ) : Bool :=
  s.settled (.runtime r) || owns context.destination r ||
    context.destination.any fun c =>
      retirementJoinWouldCycle s.destinationRetirementDependencies c.owner r

/-- Where a hook or a late disposal of a generation calls `retire` of a runtime, it is not
given a pending promise. -/
def Unmixed (s : Network ι κ) : NetworkEvent ι κ → Prop
  | .retire (some (.hook g lane)) (.runtime r) =>
    s.releases (s.taskContext (.hook g lane)) r = true
  | .retire (some (.disposal g i)) (.runtime r) =>
    s.releases (s.taskContext (.disposal g i)) r = true
  | _ => True

instance (s : Network ι κ) (e : NetworkEvent ι κ) : Decidable (s.Unmixed e) := by
  unfold Unmixed
  split <;> infer_instance

/-- No generation awaits the promise of a runtime which has not settled. -/
def NoMixedWait (s : Network ι κ) : Prop :=
  ∀ t g r, Task.owner t = .generation g → .runtime r ∈ s.awaits t →
    s.phase (.runtime r) = .retired

theorem retireRuntime_releases {context : AsyncContext ι κ} {r : κ}
    (h : s.releases context r = true) (ha : (s.retireRuntime context r).1 = .promise) :
    s.phase (.runtime r) = .retired := by
  rw [releases, Bool.or_eq_true, Bool.or_eq_true] at h
  rcases h with (h | h) | h
  · rw [settled, decide_eq_true_eq] at h
    exact h
  · simp only [retireRuntime, h, if_true] at ha
    cases ha
  · obtain ⟨c, hc, hcycle⟩ := (Option.any_eq_true _ _).mp h
    simp only [retireRuntime, joinRetirement, trackRetirementJoin, hc, hcycle, if_true] at ha
    split at ha <;> cases ha

theorem Stepped.noMixedWait {e : NetworkEvent ι κ} (hs : Stepped cfg s e s')
    (h : s.NoMixedWait) (hg : s.Unmixed e) : s'.NoMixedWait := by
  intro t g r ht hm
  rcases hs.awaits t _ hm with hm | hn
  · exact (hs.phase _).retired (h t g r ht hm)
  · apply (hs.phase _).retired
    have hrel : s.releases (s.taskContext t) r = true := by
      rw [hn.call] at hg
      cases t with
      | hook g' lane => exact hg
      | disposal g' i => exact hg
      | repository r' => cases ht
    exact retireRuntime_releases hrel hn.answer

section Acyclic

/-- A generation which waits, waits for a generation, and the wait is tracked. -/
theorem waits_generation (ha : Accounts cfg s) (ht : Tracked s) (hm : s.NoMixedWait) {g : ι}
    {m : Member ι κ} (h : Waits cfg s (.generation g) m) :
    ∃ g', m = .generation g' ∧ Edge s.retirementDependencies g g' := by
  have foreign {t : Task ι κ} (hown : Task.owner t = .generation g)
      (hr : s.isRunning t = true) (hmem : m ∈ s.awaits t) (hp : s.phase m = .retiring) :
      ∃ g', m = .generation g' ∧ Edge s.retirementDependencies g g' := by
    have hg := isRunning_owner ha hr
    rw [hown] at hg
    cases m with
    | generation g' => exact ⟨g', rfl, ht.generations t g g' hown hmem hg hp⟩
    | runtime r => exact absurd ((hm t g r hown hmem).symm.trans hp) nofun
  cases h with
  | hook _ lane _ hr hmem hp => exact foreign rfl hr hmem hp
  | disposal _ i _ hr hmem hp => exact foreign rfl hr hmem hp

theorem waits_runtime (ha : Accounts cfg s) (ht : Tracked s) {r r' : κ}
    (h : Waits cfg s (.runtime r) (.runtime r')) :
    Edge s.destinationRetirementDependencies r r' := by
  cases h with
  | repository _ _ hr hmem hp => exact ht.runtimes _ r r' rfl hmem (isRunning_owner ha hr) hp

theorem waits_acyclic (ha : Accounts cfg s) (ht : Tracked s) (hm : s.NoMixedWait) :
    Acyclic (Waits cfg s) := by
  have generations {g : ι} {m : Member ι κ}
      (h : Relation.TransGen (Waits cfg s) (.generation g) m) :
      ∃ g', m = .generation g' ∧ Relation.TransGen (Edge s.retirementDependencies) g g' := by
    induction h with
    | single h =>
        obtain ⟨g', rfl, he⟩ := waits_generation ha ht hm h
        exact ⟨g', rfl, .single he⟩
    | tail _ h ih =>
        obtain ⟨g', rfl, hg⟩ := ih
        obtain ⟨g'', rfl, he⟩ := waits_generation ha ht hm h
        exact ⟨g'', rfl, hg.tail he⟩
  -- A walk which ends at a runtime has met runtimes only.
  have runtimes {m m' : Member ι κ} (h : Relation.TransGen (Waits cfg s) m m') :
      ∀ r', m' = .runtime r' → ∃ r, m = .runtime r ∧
        Relation.TransGen (Edge s.destinationRetirementDependencies) r r' := by
    induction h with
    | single h =>
        rintro r' rfl
        cases m with
        | generation g =>
            obtain ⟨g', he, -⟩ := waits_generation ha ht hm h
            cases he
        | runtime r => exact ⟨r, rfl, .single (waits_runtime ha ht h)⟩
    | @tail m' _ _ h ih =>
        rintro r'' rfl
        cases m' with
        | generation g =>
            obtain ⟨g', he, -⟩ := waits_generation ha ht hm h
            cases he
        | runtime r' =>
            obtain ⟨r, rfl, hr⟩ := ih r' rfl
            exact ⟨r, rfl, hr.tail (waits_runtime ha ht h)⟩
  intro m h
  cases m with
  | generation g =>
      obtain ⟨g', he, hg⟩ := generations h
      cases he
      exact ht.acyclic g hg
  | runtime r =>
      obtain ⟨r', he, hr⟩ := runtimes h r rfl
      cases he
      exact ht.acyclicDestination r hr

end Acyclic

section Quiet

/-- No work is left which is not waiting. -/
def Quiet (cfg : NetworkSettings ι κ) (s : Network ι κ) : Prop :=
  ∀ e, NetworkEvent.isWork e = true → Network.step cfg s e = none

/-- The runtimes call their repository first. -/
structure Ordered (cfg : NetworkSettings ι κ) (s : Network ι κ) : Prop where
  waiting : ∀ r, (s.runtime r).repository = .waiting → (s.runtime r).generation = none
  begun : ∀ r, (s.runtime r).generation = some .promise →
    s.phase (.generation (cfg.generationOf r)) ≠ .active

theorem isReady_of_idle (ht : Tracked s) {t : Task ι κ}
    (h : ∀ m ∈ s.awaits t, s.phase m ≠ .retiring) : s.isReady t = true := by
  rw [isReady, List.all_eq_true]
  intro m hm
  rw [settled, decide_eq_true_eq]
  cases hp : s.phase m with
  | active => exact absurd hp (ht.begun t m hm)
  | retiring => exact absurd hp (h m hm)
  | retired => rfl

/-- A generation which waits for no member has work left. -/
theorem generation_works (ha : Accounts cfg s) (ht : Tracked s) {g : ι}
    (hp : s.phase (.generation g) = .retiring)
    (hidle : ∀ m, ¬ Waits cfg s (.generation g) m) :
    ∃ e, s.allows g e = true ∧
      ((s.generation g).step (cfg.generation g) e).isSome = true := by
  have hg := (ha.accounted g).retiring
  have hstate : (s.generation g).state = .retiring := hp
  obtain ⟨r, hr⟩ : ∃ r, (s.generation g).retirement = some r := by
    apply Option.ne_none_iff_exists'.mp
    intro hn
    rw [hg.active.mpr hn] at hstate
    cases hstate
  have ho : r.outcome = none := by
    by_contra ho
    rw [hg.retired.mpr ⟨r, hr, ho⟩] at hstate
    cases hstate
  have hready {t : Task ι κ} (h : ∀ m ∈ s.awaits t, s.phase m = .retiring →
      Waits cfg s (.generation g) m) : s.isReady t = true :=
    isReady_of_idle ht fun m hm hp => hidle m (h m hm hp)
  by_contra hnone
  push Not at hnone
  have hooks : ∀ lane phase, r.hooks lane = some phase → phase.isSettled = true := by
    intro lane phase hk
    cases phase with
    | settled outcome => rfl
    | waiting =>
        have := hnone (.callHook lane) rfl
        simp [DestinationConfigurationGeneration.step, hr, hk] at this
    | running =>
        have hrun : s.isRunning (.hook g lane) = true := by
          simp only [isRunning, hr, hk]
        have := hnone (.settleHook lane (.ok ()))
          (hready fun m hm hp => .hook g lane m hrun hm hp)
        simp [DestinationConfigurationGeneration.step, hr, hk] at this
  have opens : ∀ i ∈ r.admittedOpenDrain, (s.generation g).hasSettled i = true := by
    intro i hi
    have hlt := hg.bounded r hr i hi
    obtain ⟨x, hx⟩ : ∃ x, (s.generation g).opens[i]? = some x :=
      ⟨_, List.getElem?_eq_getElem hlt⟩
    obtain ⟨lane, phase⟩ := x
    rw [DestinationConfigurationGeneration.hasSettled, hx, Option.any_some]
    cases phase with
    | queued =>
        have := hnone (.callFactory i) rfl
        simp [DestinationConfigurationGeneration.step, hx] at this
    | opening =>
        have := hnone (.reject i (.foreign 0)) rfl
        simp [DestinationConfigurationGeneration.step, hx] at this
    | delivered c =>
        have := hnone (.resume i) rfl
        simp [DestinationConfigurationGeneration.step, hx] at this
    | disposing c =>
        have hrun : s.isRunning (.disposal g i) = true := by
          simp only [isRunning, hx]
        have := hnone (.settleDisposal i (.ok ()))
          (hready fun m hm hp => .disposal g i m hrun hm hp)
        simp [DestinationConfigurationGeneration.step, hx] at this
    | refused => rfl
    | succeeded c => rfl
    | rejected reason => rfl
    | disposed c outcome => rfl
  have hd : (s.generation g).drained r = true := by
    rw [DestinationConfigurationGeneration.drained, Bool.and_eq_true, List.all_eq_true,
      List.all_eq_true]
    refine ⟨fun lane _ => ?_, opens⟩
    cases hk : r.hooks lane with
    | none => rfl
    | some phase => exact hooks lane phase hk
  have := hnone .finish rfl
  simp [DestinationConfigurationGeneration.step, hr, ho, hd] at this

/-- A runtime which waits for no member has work left. -/
theorem runtime_works (ht : Tracked s) (hord : Ordered cfg s) {r : κ}
    (hp : s.phase (.runtime r) = .retiring) (hidle : ∀ m, ¬ Waits cfg s (.runtime r) m) :
    ∃ e : NetworkEvent ι κ, e.isWork = true ∧ (Network.step cfg s e).isSome = true := by
  have hstate : (s.runtime r).state = .retiring := hp
  have hwaiting := hord.waiting r
  have hbegun := hord.begun r
  have hbody := hidle (.generation (cfg.generationOf r))
  cases hr : s.runtime r with
  | mk state repository generation =>
  rw [hr] at hstate hwaiting hbegun
  dsimp only at hstate hwaiting hbegun
  subst hstate
  cases repository with
  | waiting =>
      obtain rfl := hwaiting rfl
      exact ⟨.callRepository r, rfl, by simp [Network.step, hr]⟩
  | running =>
      have hready : s.isReady (.repository r) = true := by
        apply isReady_of_idle ht
        intro m hm hpm
        refine hidle m (.repository r m ?_ hm hpm)
        simp only [isRunning, hr]
      exact ⟨.settleRepository r (.ok ()), rfl, by simp [Network.step, hr, hready]⟩
  | settled outcome =>
      cases generation with
      | none => exact ⟨.callGeneration r, rfl, by simp [Network.step, hr]⟩
      | some answer =>
          refine ⟨.finishRuntime r, rfl, ?_⟩
          have hdone : answer = .acknowledgement ∨
              s.settled (.generation (cfg.generationOf r)) = true := by
            cases answer with
            | acknowledgement => exact .inl rfl
            | promise =>
                right
                rw [settled, decide_eq_true_eq]
                cases hg : s.phase (.generation (cfg.generationOf r)) with
                | active => exact absurd hg (hbegun rfl)
                | retiring =>
                    refine absurd ?_ hbody
                    exact .body r (by rw [hr]) (by rw [hr]) hg
                | retired => rfl
          simp [Network.step, hr, hdone]

def Member.toSum : Member ι κ → ι ⊕ κ
  | .generation g => .inl g
  | .runtime r => .inr r

instance [Finite ι] [Finite κ] : Finite (Member ι κ) := by
  apply Finite.of_injective (@Member.toSum ι κ)
  intro m m' h
  cases m <;> cases m' <;> cases h <;> rfl

/-- When no work is left, every retirement has settled. -/
theorem settled_of_quiet [Finite ι] [Finite κ] (ha : Accounts cfg s) (ht : Tracked s)
    (hm : s.NoMixedWait) (hord : Ordered cfg s) (hq : Quiet cfg s) (m : Member ι κ) :
    s.phase m ≠ .retiring := by
  intro hp
  obtain ⟨m, hp, hidle⟩ := (waits_acyclic ha ht hm).exists_idle (p := fun m => s.phase m = .retiring) hp
  have hnone : ∀ m', ¬ Waits cfg s m m' := by
    intro m' hw
    apply hidle m' hw
    cases hw with
    | hook _ _ _ _ _ hp => exact hp
    | disposal _ _ _ _ _ hp => exact hp
    | repository _ _ _ _ hp => exact hp
    | body _ _ _ hp' => exact hp'
  cases m with
  | generation g =>
      obtain ⟨e, hallow, he⟩ := generation_works ha ht hp hnone
      have hstep := hq (.generation g e) rfl
      obtain ⟨x, hx⟩ := Option.isSome_iff_exists.mp he
      simp [Network.step, hallow, hx] at hstep
  | runtime r =>
      obtain ⟨e, hwork, he⟩ := runtime_works ht hord hp hnone
      rw [hq e hwork] at he
      cases he

end Quiet

end Network
end OpenRfc.Destination
