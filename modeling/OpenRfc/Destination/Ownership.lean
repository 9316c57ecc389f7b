import OpenRfc.Destination.Accounts

/-!
Ownership of the connections of a generation. A connection which a factory delivers is
returned to the caller or handed back to the factory, once; a retirement settles after all
that it waits for, and reports every failure of a hook and of a late disposal.
-/

namespace OpenRfc.Destination

/-- A call of `factory.dispose` for the open. -/
def Observation.isDisposal (i : Nat) : Observation → Bool
  | .factoryDispose j _ => j = i
  | _ => false

/-- The promise of the open is fulfilled. -/
def Observation.isFulfilment (i : Nat) : Observation → Bool
  | .fulfilled j _ => j = i
  | _ => false

namespace DestinationConfigurationGeneration

/-- Who owns a connection which the factory of an open has delivered. -/
inductive Owned (s : DestinationConfigurationGeneration) (i c : Nat) : Prop
  /-- The continuation of the open has not run. -/
  | undecided (hflight : i ∈ s.inFlightOpens)
      (hdispose : s.trace.countP (Observation.isDisposal i) = 0)
      (hfulfil : s.trace.countP (Observation.isFulfilment i) = 0)
  /-- The caller. -/
  | returned (hmem : .fulfilled i c ∈ s.trace)
      (hdispose : s.trace.countP (Observation.isDisposal i) = 0)
      (hfulfil : s.trace.countP (Observation.isFulfilment i) = 1)
  /-- The factory. -/
  | disposed (hmem : .factoryDispose i c ∈ s.trace)
      (hdispose : s.trace.countP (Observation.isDisposal i) = 1)
      (hfulfil : s.trace.countP (Observation.isFulfilment i) = 0)

/-- The promise of the open has settled. -/
def OpenSettled (s : DestinationConfigurationGeneration) (i : Nat) : Prop :=
  (∃ c, .fulfilled i c ∈ s.trace) ∨ ∃ reason, .rejected i reason ∈ s.trace

structure LaneOwnership (cfg : Settings) (s : DestinationConfigurationGeneration) : Prop where
  /-- Every delivered connection has one owner. -/
  owned : ∀ i c, .delivered i c ∈ s.trace → s.Owned i c
  /-- No other connection is returned or disposed of. -/
  delivered : ∀ i c, .fulfilled i c ∈ s.trace ∨ .factoryDispose i c ∈ s.trace →
    .delivered i c ∈ s.trace
  /-- The opens which are counted as succeeded are those which have returned a connection. -/
  succeeded : ∀ lane, (s.monitor lane).succeeded = tally s.opens lane OpenPhase.isSucceeded
  returned : ∀ (i : Nat) (c : Nat), .fulfilled i c ∈ s.trace ↔
    ∃ x, s.opens[i]? = some x ∧ x.phase = .succeeded c
  /-- The factory is not called for an open which is requested after `retire`. -/
  no_late_open : ∀ after i lane before,
    s.trace = after ++ .admitted i lane :: before ∨ s.trace = after ++ .refused i lane :: before →
    .retireCalled ∈ before → .factoryOpen i ∉ s.trace
  balance : ∀ lane, (s.monitor lane).attempts =
    (s.monitor lane).succeeded + (s.monitor lane).failed + (s.monitor lane).inFlight
  /-- The generation is retired when the retirement has settled, and not before. -/
  retired : s.state = .retired ↔ ∃ r, s.retirement = some r ∧ r.outcome ≠ none
  /-- The retirement settles after its hooks, the opens and their late disposals. -/
  drained : s.state = .retired →
    (∀ lane, cfg.hooked lane = true → ∃ outcome, .hookSettled lane outcome ∈ s.trace) ∧
    (∀ i lane, .admitted i lane ∈ s.trace → s.OpenSettled i) ∧
    ∀ i c, .factoryDispose i c ∈ s.trace → ∃ outcome, .disposalSettled i outcome ∈ s.trace
  /-- The retirement is rejected if and only if a hook or a late disposal has failed. -/
  rejects : ∀ r outcome, s.retirement = some r → r.outcome = some outcome →
    ((∃ reason, outcome = .error reason) ↔
      (∃ lane reason, .hookSettled lane (.error reason) ∈ s.trace) ∨
      ∃ i reason, .disposalSettled i (.error reason) ∈ s.trace)

variable {cfg : Settings} {s s' : DestinationConfigurationGeneration}

section Stories

theorem Told.mem_iff (h : Told cfg s) {i : Nat} {o : Observation} (ho : o.about i = true) :
    o ∈ s.trace ↔ ∃ x, s.opens[i]? = some x ∧ o ∈ x.phase.story cfg i x.lane := by
  have hf := h i
  have hm : o ∈ s.trace ↔ o ∈ s.trace.filter (Observation.about i) := by
    rw [List.mem_filter]
    exact ⟨fun hm => ⟨hm, ho⟩, And.left⟩
  rw [hm, hf]
  cases s.opens[i]? with
  | none => simp
  | some x => simp

theorem Told.countP_eq (h : Told cfg s) {i : Nat} {x : Open} (hx : s.opens[i]? = some x)
    {p : Observation → Bool} (hp : ∀ o, p o = true → o.about i = true) :
    s.trace.countP p = (x.phase.story cfg i x.lane).countP p := by
  have hf := h i
  rw [hx, Option.elim_some] at hf
  rw [← hf, List.countP_filter]
  apply List.countP_congr
  intro o _
  simp only [Bool.and_eq_true]
  exact ⟨fun ho => ⟨ho, hp o ho⟩, And.left⟩

theorem isDisposal_about {i : Nat} (o : Observation) (h : o.isDisposal i = true) :
    o.about i = true := by
  cases o <;> simp_all [Observation.isDisposal, Observation.about]

theorem isFulfilment_about {i : Nat} (o : Observation) (h : o.isFulfilment i = true) :
    o.about i = true := by
  cases o <;> simp_all [Observation.isFulfilment, Observation.about]

theorem Told.owned (h : Told cfg s) (hc : Counted s) {i c : Nat}
    (hm : .delivered i c ∈ s.trace) : s.Owned i c := by
  obtain ⟨x, hx, hs⟩ := (h.mem_iff (i := i) (by simp [Observation.about])).mp hm
  have hd := h.countP_eq hx isDisposal_about
  have hf := h.countP_eq hx isFulfilment_about
  have hmem {o : Observation} (ho : o.about i = true)
      (hm : o ∈ x.phase.story cfg i x.lane) : o ∈ s.trace := (h.mem_iff ho).mpr ⟨x, hx, hm⟩
  have hflight := (hc.in_flight i).mpr
  cases hp : x.phase with
  | refused => simp [hp, OpenPhase.story] at hs
  | queued => simp [hp, OpenPhase.story] at hs
  | opening => simp [hp, OpenPhase.story] at hs
  | rejected reason => simp [hp, OpenPhase.story] at hs
  | delivered c' =>
      apply Owned.undecided
      · exact hflight ⟨x, hx, by rw [hp]; rfl⟩
      · rw [hd, hp]
        rfl
      · rw [hf, hp]
        rfl
  | succeeded c' =>
      obtain rfl : c = c' := by simpa [hp, OpenPhase.story] using hs
      apply Owned.returned
      · apply hmem (by simp [Observation.about])
        simp [hp, OpenPhase.story]
      · rw [hd, hp]
        rfl
      · rw [hf, hp]
        simp [OpenPhase.story, Observation.isFulfilment]
  | disposing c' =>
      obtain rfl : c = c' := by simpa [hp, OpenPhase.story] using hs
      apply Owned.disposed
      · apply hmem (by simp [Observation.about])
        simp [hp, OpenPhase.story]
      · rw [hd, hp]
        simp [OpenPhase.story, Observation.isDisposal]
      · rw [hf, hp]
        rfl
  | disposed c' outcome =>
      obtain rfl : c = c' := by simpa [hp, OpenPhase.story] using hs
      apply Owned.disposed
      · apply hmem (by simp [Observation.about])
        simp [hp, OpenPhase.story]
      · rw [hd, hp]
        simp [OpenPhase.story, Observation.isDisposal]
      · rw [hf, hp]
        rfl

theorem Told.fulfilled_iff (h : Told cfg s) {i c : Nat} :
    .fulfilled i c ∈ s.trace ↔ ∃ x, s.opens[i]? = some x ∧ x.phase = .succeeded c := by
  rw [h.mem_iff (i := i) (by simp [Observation.about])]
  apply exists_congr
  intro x
  apply and_congr_right
  intro _
  cases x.phase <;> simp [OpenPhase.story, eq_comm]

theorem Told.disposalSettled_iff (h : Told cfg s) {i : Nat} {outcome : Except Reason Unit} :
    .disposalSettled i outcome ∈ s.trace ↔
      ∃ x c, s.opens[i]? = some x ∧ x.phase = .disposed c outcome := by
  rw [h.mem_iff (i := i) (by simp [Observation.about])]
  apply exists_congr
  intro x
  cases x.phase <;> simp [OpenPhase.story, eq_comm]

theorem Told.delivered (h : Told cfg s) {i c : Nat}
    (hm : .fulfilled i c ∈ s.trace ∨ .factoryDispose i c ∈ s.trace) :
    .delivered i c ∈ s.trace := by
  rw [h.mem_iff (i := i) (by simp [Observation.about])]
  rw [h.mem_iff (i := i) (by simp [Observation.about]),
    h.mem_iff (i := i) (by simp [Observation.about])] at hm
  rcases hm with ⟨x, hx, hm⟩ | ⟨x, hx, hm⟩
  · refine ⟨x, hx, ?_⟩
    cases hp : x.phase <;> simp_all [OpenPhase.story]
  · refine ⟨x, hx, ?_⟩
    cases hp : x.phase <;> simp_all [OpenPhase.story]

/-- An open which is requested after `retire` is refused, and the factory is not called. -/
theorem Told.no_late_open (h : Told cfg s) (hr : Retiring cfg s) {after before : List Observation}
    {i : Nat} {lane : Lane}
    (ht : s.trace = after ++ .admitted i lane :: before ∨
      s.trace = after ++ .refused i lane :: before)
    (hb : .retireCalled ∈ before) : .factoryOpen i ∉ s.trace := by
  have hm : .refused i lane ∈ s.trace := by
    rcases ht with ht | ht
    · exact absurd hb (History.each_iff.mp hr.law after _ before ht)
    · rw [ht]
      simp
  rw [h.mem_iff (i := i) (by simp [Observation.about])] at hm ⊢
  obtain ⟨x, hx, hm⟩ := hm
  rintro ⟨y, hy, hf⟩
  rw [hx] at hy
  cases hy
  cases hp : x.phase <;> simp_all [OpenPhase.story]

theorem tally_balance (opens : List Open) (lane : Lane) :
    tally opens lane (fun p => !p.isRefused) = tally opens lane OpenPhase.isSucceeded +
      tally opens lane OpenPhase.isFailed + tally opens lane OpenPhase.isPending := by
  unfold tally
  beta_reduce
  induction opens with
  | nil => rfl
  | cons x xs ih =>
      simp only [List.countP_cons]
      have hx : (if (x.lane = lane && !x.phase.isRefused) then 1 else 0) =
          (if (x.lane = lane && x.phase.isSucceeded) then 1 else 0) +
          (if (x.lane = lane && x.phase.isFailed) then 1 else 0) +
          (if (x.lane = lane && x.phase.isPending) then 1 else 0) := by
        by_cases hl : x.lane = lane
        · cases x.phase <;> simp [hl, OpenPhase.isRefused, OpenPhase.isSucceeded,
            OpenPhase.isFailed, OpenPhase.isPending]
        · simp [hl]
      omega

theorem Counted.balance (h : Counted s) (lane : Lane) : (s.monitor lane).attempts =
    (s.monitor lane).succeeded + (s.monitor lane).failed + (s.monitor lane).inFlight := by
  rw [h.monitor lane]
  exact tally_balance s.opens lane

end Stories

section Retired

/-- What has settled when the generation is retired. -/
theorem Retiring.drained_of_retired (h : Retiring cfg s) (ht : Told cfg s)
    (hs : s.state = .retired) :
    (∀ lane, cfg.hooked lane = true → ∃ outcome, .hookSettled lane outcome ∈ s.trace) ∧
    (∀ i lane, .admitted i lane ∈ s.trace → s.OpenSettled i) ∧
    ∀ i c, .factoryDispose i c ∈ s.trace → ∃ outcome, .disposalSettled i outcome ∈ s.trace := by
  obtain ⟨r, hr, hne⟩ := h.retired.mp hs
  obtain ⟨out, ho⟩ := Option.ne_none_iff_exists'.mp hne
  obtain ⟨hd, -⟩ := h.outcome r out hr ho
  have hpend {i : Nat} {x : Open} (hx : s.opens[i]? = some x) : x.phase.isPending = false := by
    cases hp : x.phase.isPending with
    | false => rfl
    | true =>
        rw [h.outcome_none hr hx hp] at hne
        exact absurd rfl hne
  refine ⟨?_, ?_, ?_⟩
  · intro lane hl
    cases hk : r.hooks lane with
    | none =>
        rw [(h.hooks r hr lane).mp hk] at hl
        cases hl
    | some phase =>
        have hps := hooks_of_drained hd hk
        cases phase with
        | settled outcome => exact ⟨outcome, (h.told lane outcome).mpr ⟨r, hr, hk⟩⟩
        | waiting => cases hps
        | running => cases hps
  · intro i lane hm
    rw [ht.mem_iff (i := i) (by simp [Observation.about])] at hm
    obtain ⟨x, hx, hm⟩ := hm
    have hp := hpend hx
    unfold OpenSettled
    cases hq : x.phase with
    | succeeded c => exact .inl ⟨c, ht.fulfilled_iff.mpr ⟨x, hx, hq⟩⟩
    | rejected reason =>
        refine .inr ⟨reason, ?_⟩
        rw [ht.mem_iff (i := i) (by simp [Observation.about])]
        exact ⟨x, hx, by simp [hq, OpenPhase.story]⟩
    | disposed c outcome =>
        refine .inr ⟨disposalReason cfg outcome, ?_⟩
        rw [ht.mem_iff (i := i) (by simp [Observation.about])]
        exact ⟨x, hx, by simp [hq, OpenPhase.story]⟩
    | refused => simp [hq, OpenPhase.story] at hm
    | queued => simp [hq, OpenPhase.isPending] at hp
    | opening => simp [hq, OpenPhase.isPending] at hp
    | delivered c => simp [hq, OpenPhase.isPending] at hp
    | disposing c => simp [hq, OpenPhase.isPending] at hp
  · intro i c hm
    rw [ht.mem_iff (i := i) (by simp [Observation.about])] at hm
    obtain ⟨x, hx, hm⟩ := hm
    have hp := hpend hx
    cases hq : x.phase <;> simp [hq, OpenPhase.story, OpenPhase.isPending] at hm hp
    rename_i c' outcome
    exact ⟨outcome, ht.disposalSettled_iff.mpr ⟨x, c', hx, hq⟩⟩

/-- A factory has rejected an open of the drain with the late disposal error of another
generation. -/
def ForeignLate (s : DestinationConfigurationGeneration) (r : Retirement) : Prop :=
  ∃ i x reason, i ∈ r.admittedOpenDrain ∧ s.opens[i]? = some x ∧ x.phase = .rejected reason ∧
    reason.isLateOpenDisposal = true

theorem drainFailure_ne_none {i : Nat} : (∃ reason, s.drainFailure cfg i = some reason) ↔
    ∃ x, s.opens[i]? = some x ∧ ((∃ c reason, x.phase = .disposed c (.error reason)) ∨
      ∃ reason, x.phase = .rejected reason ∧ reason.isLateOpenDisposal = true) := by
  unfold drainFailure
  cases s.opens[i]? with
  | none => simp
  | some x =>
      simp only [Option.bind_some, Option.filter_eq_some_iff, Option.some.injEq, exists_eq_left']
      cases x.phase with
      | disposed c outcome =>
          cases outcome <;> simp [OpenPhase.rejection, disposalReason, Reason.isLateOpenDisposal]
      | refused => simp [OpenPhase.rejection, Reason.isLateOpenDisposal]
      | _ => simp [OpenPhase.rejection]

theorem retirementOutcome_error {failures : List Reason} :
    (∃ reason, retirementOutcome cfg failures = .error reason) ↔ failures ≠ [] := by
  unfold retirementOutcome
  cases failures <;> simp

/-- What a retirement reports. -/
theorem Retiring.rejects_iff (h : Retiring cfg s) (ht : Told cfg s) {r : Retirement}
    {outcome : Except Reason Unit} (hr : s.retirement = some r) (ho : r.outcome = some outcome) :
    (∃ reason, outcome = .error reason) ↔
      ((∃ lane reason, .hookSettled lane (.error reason) ∈ s.trace) ∨
        ∃ i reason, .disposalSettled i (.error reason) ∈ s.trace) ∨ s.ForeignLate r := by
  obtain ⟨-, rfl⟩ := h.outcome r outcome hr ho
  rw [retirementOutcome_error, failures, ne_eq, List.append_eq_nil_iff, not_and_or, or_assoc]
  apply or_congr
  · rw [List.filterMap_eq_nil_iff]
    push Not
    constructor
    · rintro ⟨lane, -, hl⟩
      obtain ⟨reason, hl⟩ := Option.ne_none_iff_exists'.mp hl
      obtain ⟨phase, hp, hl⟩ := Option.bind_eq_some_iff.mp hl
      refine ⟨lane, reason, (h.told lane _).mpr ⟨r, hr, ?_⟩⟩
      rw [hp]
      cases phase with
      | settled outcome => cases outcome <;> simp_all [HookPhase.failure]
      | waiting => cases hl
      | running => cases hl
    · rintro ⟨lane, reason, hm⟩
      obtain ⟨r', hr', hp⟩ := (h.told lane _).mp hm
      rw [hr] at hr'
      cases hr'
      exact ⟨lane, by cases lane <;> simp, by simp [hp, HookPhase.failure]⟩
  · have hn : ¬ r.admittedOpenDrain.filterMap (s.drainFailure cfg) = [] ↔
        ∃ i ∈ r.admittedOpenDrain, ∃ reason, s.drainFailure cfg i = some reason := by
      rw [List.filterMap_eq_nil_iff]
      push Not
      simp only [Option.ne_none_iff_exists']
    rw [hn]
    constructor
    · rintro ⟨i, hi, hf⟩
      obtain ⟨x, hx, ⟨c, reason, hp⟩ | ⟨reason, hp, hl⟩⟩ := drainFailure_ne_none.mp hf
      · exact .inl ⟨i, reason, ht.disposalSettled_iff.mpr ⟨x, c, hx, hp⟩⟩
      · exact .inr ⟨i, x, reason, hi, hx, hp, hl⟩
    · rintro (⟨i, reason, hm⟩ | ⟨i, x, reason, hi, hx, hp, hl⟩)
      · obtain ⟨x, c, hx, hp⟩ := ht.disposalSettled_iff.mp hm
        refine ⟨i, h.drain r hr i x hx (.inr ?_), ?_⟩
        · rw [hp]
          rfl
        · exact drainFailure_ne_none.mpr ⟨x, hx, .inl ⟨c, reason, hp⟩⟩
      · exact ⟨i, hi, drainFailure_ne_none.mpr ⟨x, hx, .inr ⟨reason, hp, hl⟩⟩⟩

end Retired
/-- No promise of a factory which the retirement waits for is rejected with the late disposal
error of another generation. -/
def NoForeignLate (s : DestinationConfigurationGeneration) : Prop :=
  ∀ r, s.retirement = some r → ¬ s.ForeignLate r

end DestinationConfigurationGeneration

open DestinationConfigurationGeneration

/-- While the generation retires, no factory rejects an open with the late disposal error of
another generation. -/
def OwnFailures (s : DestinationConfigurationGeneration) : Event → Prop
  | .reject _ reason => s.state ≠ .active → reason.isLateOpenDisposal = false
  | _ => True

instance (s : DestinationConfigurationGeneration) (e : Event) : Decidable (OwnFailures s e) := by
  cases e <;> unfold OwnFailures <;> infer_instance

structure Accounted (cfg : Settings) (s : DestinationConfigurationGeneration) : Prop where
  told : Told cfg s
  counted : Counted s
  retiring : Retiring cfg s

theorem accounted_reachable {cfg : Settings} {s : DestinationConfigurationGeneration}
    (h : (generation cfg).Reachable s) : Accounted cfg s := by
  apply h.invariant (P := Accounted cfg)
  · refine ⟨fun i => by simp [generation, initial], ⟨fun _ => rfl, ?_⟩, .initial⟩
    simp [generation, initial]
  · intro s e s' _ ha he
    have hm := step_move he
    exact ⟨hm.told ha.told, hm.counted ha.counted, hm.retiring ha.retiring ha.counted⟩

theorem rejected_of_set {opens : List Open} {i j : Nat} {x y : Open} {phase : OpenPhase}
    (hx : (opens.set j { y with phase })[i]? = some x) {reason : Reason}
    (hp : x.phase = .rejected reason) (hn : phase ≠ .rejected reason) : opens[i]? = some x := by
  rw [List.getElem?_set] at hx
  split at hx
  · split at hx
    · cases hx
      exact absurd hp hn
    · cases hx
  · exact hx

/-- An open is rejected with a value of the factory where the factory rejects it. -/
theorem rejected_of_step {cfg : Settings} {s s' : DestinationConfigurationGeneration} {e : Event}
    (he : step cfg s e = some s') {i : Nat} {x : Open} {reason : Reason}
    (hx : s'.opens[i]? = some x) (hp : x.phase = .rejected reason) :
    s.opens[i]? = some x ∨ e = .reject i reason ∧ s'.retirement = s.retirement := by
  have appended {y : Open} (hx : (s.opens ++ [y])[i]? = some x)
      (hy : y.phase ≠ .rejected reason) : s.opens[i]? = some x := by
    rw [List.getElem?_append] at hx
    split at hx
    · exact hx
    · rw [List.getElem?_singleton] at hx
      split at hx
      · cases hx
        exact absurd hp hy
      · cases hx
  cases e with
  | openLane lane =>
      cases he
      unfold openLane at hx
      split at hx
      · exact .inl (appended hx (by rintro ⟨⟩))
      · exact .inl (appended hx (by rintro ⟨⟩))
  | callFactory j =>
      simp only [step] at he
      split at he <;> cases he
      exact .inl (rejected_of_set hx hp (by rintro ⟨⟩))
  | deliver j c =>
      simp only [step] at he
      split at he <;> cases he
      exact .inl (rejected_of_set hx hp (by rintro ⟨⟩))
  | reject j reason' =>
      simp only [step] at he
      split at he <;> cases he
      by_cases hr : reason' = reason ∧ j = i
      · obtain ⟨rfl, rfl⟩ := hr
        exact .inr ⟨rfl, rfl⟩
      · have hx' := hx
        simp only [fail, leave, count, setPhase, observe, List.getElem?_set] at hx'
        split at hx'
        · rename_i hj
          split at hx'
          · cases hx'
            cases hp
            exact absurd ⟨rfl, hj⟩ hr
          · cases hx'
        · exact .inl hx'
  | resume j =>
      simp only [step] at he
      split at he <;> cases he
      unfold resume at hx
      split at hx
      · exact .inl (rejected_of_set hx hp (by rintro ⟨⟩))
      · exact .inl (rejected_of_set hx hp (by rintro ⟨⟩))
  | settleDisposal j outcome =>
      simp only [step] at he
      split at he <;> cases he
      exact .inl (rejected_of_set hx hp (by rintro ⟨⟩))
  | retire =>
      cases he
      unfold retire at hx
      split at hx <;> exact .inl hx
  | callHook lane =>
      simp only [step] at he
      split at he
      · split at he <;> cases he
        exact .inl hx
      · cases he
  | settleHook lane outcome =>
      simp only [step] at he
      split at he
      · split at he <;> cases he
        exact .inl hx
      · cases he
  | finish =>
      simp only [step] at he
      split at he
      · split at he <;> cases he
        exact .inl hx
      · cases he

/-- The drain of a retirement is chosen when the retirement begins. -/
theorem drain_of_move {cfg : Settings} {s s' : DestinationConfigurationGeneration}
    (hm : Move cfg s s') {r' : Retirement} (hr' : s'.retirement = some r') :
    (∃ r, s.retirement = some r ∧ r.admittedOpenDrain = r'.admittedOpenDrain) ∨
      s'.opens = s.opens ∧ r'.admittedOpenDrain = s.inFlightOpens := by
  cases hm with
  | admitted lane hs =>
      simp only [openLane, hs, ne_eq, not_true_eq_false, if_false] at hr'
      exact .inl ⟨r', hr', rfl⟩
  | refused lane hs =>
      simp only [openLane, hs, ne_eq, not_false_eq_true, if_true] at hr'
      exact .inl ⟨r', hr', rfl⟩
  | advanced i x phase o hx ha => exact .inl ⟨r', hr', rfl⟩
  | succeeded i x c hx hp hs => exact .inl ⟨r', hr', rfl⟩
  | failed i x phase new hx hf => exact .inl ⟨r', hr', rfl⟩
  | retireAgain hr => exact .inl ⟨r', hr', rfl⟩
  | retired hr =>
      simp only [retire, hr, observe, Option.some.injEq] at hr'
      subst hr'
      refine .inr ⟨?_, rfl⟩
      simp only [retire, hr]
      rfl
  | hook r lane phase phase' o hr hp hh =>
      cases hr'
      exact .inl ⟨r, hr, rfl⟩
  | finished r hr ho hd =>
      cases hr'
      exact .inl ⟨r, hr, rfl⟩

theorem noForeignLate_step {cfg : Settings} {s s' : DestinationConfigurationGeneration}
    {e : Event} (ha : Accounted cfg s) (h : s.NoForeignLate) (hg : OwnFailures s e)
    (he : step cfg s e = some s') : s'.NoForeignLate := by
  rintro r' hr' ⟨i, x, reason, hi, hx, hp, hl⟩
  have hold : s.opens[i]? = some x → False := by
    intro hs
    rcases drain_of_move (step_move he) hr' with ⟨r, hr, hd⟩ | ⟨-, hd⟩
    · exact h r hr ⟨i, x, reason, hd ▸ hi, hs, hp, hl⟩
    · obtain ⟨y, hy, hpend⟩ := (ha.counted.in_flight i).mp (hd ▸ hi)
      rw [hs] at hy
      cases hy
      rw [hp] at hpend
      cases hpend
  rcases rejected_of_step he hx hp with hs | ⟨rfl, hsame⟩
  · exact hold hs
  · have hstate : s.state ≠ .active := by
      intro hs
      rw [hsame, ha.retiring.active.mp hs] at hr'
      cases hr'
    rw [hg hstate] at hl
    cases hl

/-- The connections of a generation have one owner each, and its retirement reports the
failures of its hooks and late disposals. -/
theorem laneOwnership_of_ownFailures {cfg : Settings} {s : DestinationConfigurationGeneration}
    (h : (generation cfg).ReachableUnder OwnFailures s) : LaneOwnership cfg s := by
  have ha := accounted_reachable h.reachable
  have hn : s.NoForeignLate := by
    apply h.invariant (P := NoForeignLate)
    · intro r hr
      cases hr
    · intro t e t' ht hp hg he
      exact noForeignLate_step (accounted_reachable ht.reachable) hp hg he
  exact {
    owned := fun i c hm => ha.told.owned ha.counted hm
    delivered := fun i c hm => ha.told.delivered hm
    succeeded := fun lane => by rw [ha.counted.monitor lane]
    returned := fun i c => ha.told.fulfilled_iff
    no_late_open := fun after i lane before ht hb => ha.told.no_late_open ha.retiring ht hb
    balance := ha.counted.balance
    retired := ha.retiring.retired
    drained := ha.retiring.drained_of_retired ha.told
    rejects := fun r outcome hr ho => by
      rw [ha.retiring.rejects_iff ha.told hr ho, or_iff_left (hn r hr)] }

/-- A generation whose application factory opens its connections through another generation,
and has a hook. -/
def nested : Settings := ⟨"outer", fun lane => lane = .application⟩

/-- The connection of an open arrives while the hook runs, and cannot be disposed of. -/
def lateOpen : List Event :=
  [.openLane .application, .callFactory 0, .retire, .callHook .application, .deliver 0 7,
    .resume 0, .settleHook .application (.ok ()), .settleDisposal 0 (.error (.foreign 1)),
    .finish]

/-- The other generation retires while it opens, and fails to dispose of the connection. -/
def foreignLate : List Event :=
  [.openLane .application, .callFactory 0, .retire, .callHook .application,
    .settleHook .application (.ok ()),
    .reject 0 (.lateOpenDisposal
      "destination generation inner could not dispose a late-opened connection" (.foreign 1)),
    .finish]

/-- A hook or a late disposal has failed. -/
def Observation.isFailure : Observation → Bool
  | .hookSettled _ (.error _) | .disposalSettled _ (.error _) => true
  | _ => false

theorem laneOwnership_lateOpen :
    ∃ s, (generation nested).runUnder OwnFailures .initial lateOpen = some s ∧
      s.trace.any Observation.isFailure = true ∧ LaneOwnership nested s := by
  have hrun : ((generation nested).runUnder OwnFailures .initial lateOpen).any
      (fun s => s.trace.any Observation.isFailure) = true := by decide
  obtain ⟨s, hs, hp⟩ := (Option.any_eq_true _ _).mp hrun
  exact ⟨s, hs, hp, laneOwnership_of_ownFailures (Machine.reachableUnder_of_runUnder hs)⟩

theorem not_laneOwnership_foreignLate :
    ∃ s, (generation nested).Reachable s ∧ ¬ LaneOwnership nested s := by
  have hrun : ((generation nested).run .initial foreignLate).any (fun s =>
      s.trace.all (fun o => !o.isFailure) && s.retirement.any fun r => r.outcome.any fun o =>
        match o with | .error _ => true | .ok _ => false) = true := by decide
  obtain ⟨s, -, hs, hp⟩ := Machine.reachable_of_any _ _ _ hrun
  refine ⟨s, hs, fun h => ?_⟩
  rw [Bool.and_eq_true, List.all_eq_true] at hp
  obtain ⟨r, hr, ho⟩ := (Option.any_eq_true _ _).mp hp.2
  obtain ⟨outcome, ho, he⟩ := (Option.any_eq_true _ _).mp ho
  cases outcome with
  | ok _ => cases he
  | error reason =>
      rcases (h.rejects r _ hr ho).mp ⟨reason, rfl⟩ with ⟨lane, reason, hm⟩ | ⟨i, reason, hm⟩
      · cases hp.1 _ hm
      · cases hp.1 _ hm

end OpenRfc.Destination
