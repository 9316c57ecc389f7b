import OpenRfc.Destination.Generation

/-!
The accounts of a generation: what the trace, the counters, the set of opens in flight and
the retirement say about each other in every reachable state.
-/

namespace OpenRfc.Destination

def OpenPhase.isRefused : OpenPhase → Bool
  | .refused => true
  | _ => false

def OpenPhase.isSucceeded : OpenPhase → Bool
  | .succeeded _ => true
  | _ => false

def OpenPhase.isFailed : OpenPhase → Bool
  | .rejected _ | .disposed _ _ => true
  | _ => false

/-- The late connection of the open has been handed to the factory. -/
def OpenPhase.isLate : OpenPhase → Bool
  | .disposing _ | .disposed _ _ => true
  | _ => false

/-- The opens of a lane which are in a kind of phase. -/
def tally (opens : List Open) (lane : Lane) (p : OpenPhase → Bool) : Nat :=
  opens.countP fun x => x.lane = lane && p x.phase

theorem Fails.kind {cfg : Settings} {i : Nat} {phase phase' : OpenPhase}
    {new : List Observation} (h : Fails cfg i phase phase' new) :
    phase'.isRefused = false ∧ phase'.isSucceeded = false ∧ phase'.isFailed = true := by
  cases h <;> exact ⟨rfl, rfl, rfl⟩

namespace DestinationConfigurationGeneration
variable {cfg : Settings} {s s' : DestinationConfigurationGeneration}

section Told

theorem Told.append (h : Told cfg s) {y : Open} (hopens : s'.opens = s.opens ++ [y])
    (htrace : s'.trace = y.phase.story cfg s.opens.length y.lane ++ s.trace) : Told cfg s' := by
  intro j
  rw [htrace, hopens, List.filter_append, h j]
  by_cases hj : s.opens.length = j
  · subst hj
    have hf : ∀ o ∈ y.phase.story cfg s.opens.length y.lane,
        Observation.about s.opens.length o = true := by
      intro o ho
      rw [about_story o ho]
      simp
    rw [List.filter_eq_self.mpr hf]
    simp
  · have hf : ∀ o ∈ y.phase.story cfg s.opens.length y.lane,
        ¬ Observation.about j o = true := by
      intro o ho
      rw [about_story o ho]
      simpa using hj
    rw [List.filter_eq_nil_iff.mpr hf, List.nil_append, List.getElem?_append]
    split
    · rfl
    · rename_i hn
      rw [List.getElem?_eq_none (by omega), List.getElem?_eq_none (by simp; omega)]

theorem Told.set (h : Told cfg s) (new : List Observation) {i : Nat} {x : Open}
    {phase : OpenPhase} (hx : s.opens[i]? = some x)
    (hopens : s'.opens = s.opens.set i { x with phase }) (htrace : s'.trace = new ++ s.trace)
    (hstory : phase.story cfg i x.lane = new ++ x.phase.story cfg i x.lane) : Told cfg s' := by
  intro j
  rw [htrace, hopens, List.filter_append, h j]
  have hnew : ∀ o ∈ new, o.about j = decide (i = j) := by
    intro o ho
    have hm : o ∈ phase.story cfg i x.lane := by
      rw [hstory]
      exact List.mem_append_left _ ho
    exact about_story o hm
  by_cases hj : i = j
  · subst hj
    have hf : ∀ o ∈ new, Observation.about i o = true := fun o ho => by simp [hnew o ho]
    rw [List.filter_eq_self.mpr hf, hx, List.getElem?_set_self (by
      obtain ⟨hi, _⟩ := List.getElem?_eq_some_iff.mp hx
      exact hi)]
    exact hstory.symm
  · have hf : ∀ o ∈ new, ¬ Observation.about j o = true := fun o ho => by simp [hnew o ho, hj]
    rw [List.filter_eq_nil_iff.mpr hf, List.getElem?_set_ne hj, List.nil_append]

theorem Told.same (h : Told cfg s) {o : Observation} (hopens : s'.opens = s.opens)
    (htrace : s'.trace = o :: s.trace) (ho : ∀ i, o.about i = false) : Told cfg s' := by
  intro j
  rw [htrace, hopens, List.filter_cons_of_neg (by simp [ho j])]
  exact h j

theorem Move.told (hm : Move cfg s s') (h : Told cfg s) : Told cfg s' := by
  cases hm with
  | admitted lane hs =>
      apply h.append (y := ⟨lane, .queued⟩) <;> simp [openLane, hs, count, observe, OpenPhase.story]
  | refused lane hs =>
      apply h.append (y := ⟨lane, .refused⟩) <;> simp [openLane, hs, observe, OpenPhase.story]
  | advanced i x phase o hx ha => exact h.set [o] hx rfl rfl (ha.story x.lane)
  | succeeded i x c hx hp hs =>
      refine h.set [.fulfilled i c] hx rfl rfl ?_
      rw [hp]
      rfl
  | failed i x phase new hx hf => exact h.set new hx rfl rfl (hf.story x.lane)
  | retireAgain hr => exact h.same rfl rfl fun _ => rfl
  | retired hr =>
      apply h.same (o := .retireCalled) <;> simp [retire, hr, observe, Observation.about]
  | hook r lane phase phase' o hr hp hh =>
      refine h.same rfl rfl fun _ => ?_
      cases hh <;> rfl
  | finished r hr ho hd => exact h.same rfl rfl fun _ => rfl

end Told

section Counted

/-- The counters of the lanes and the set of opens in flight, read off the opens. -/
structure Counted (s : DestinationConfigurationGeneration) : Prop where
  monitor : ∀ lane, s.monitor lane =
    { attempts := tally s.opens lane fun p => !p.isRefused
      succeeded := tally s.opens lane OpenPhase.isSucceeded
      failed := tally s.opens lane OpenPhase.isFailed
      inFlight := tally s.opens lane OpenPhase.isPending }
  in_flight : ∀ i, i ∈ s.inFlightOpens ↔ ∃ x, s.opens[i]? = some x ∧ x.phase.isPending

theorem tally_append (opens : List Open) (y : Open) (lane : Lane) (p : OpenPhase → Bool) :
    tally (opens ++ [y]) lane p =
      tally opens lane p + if y.lane = lane ∧ p y.phase then 1 else 0 := by
  simp [tally, List.countP_append, List.countP_singleton]

theorem tally_set {opens : List Open} {i : Nat} {x : Open} (hx : opens[i]? = some x)
    (phase : OpenPhase) (lane : Lane) (p : OpenPhase → Bool) :
    tally (opens.set i { x with phase }) lane p + (if x.lane = lane ∧ p x.phase then 1 else 0) =
      tally opens lane p + if x.lane = lane ∧ p phase then 1 else 0 := by
  obtain ⟨hi, rfl⟩ := List.getElem?_eq_some_iff.mp hx
  have hpos : opens[i].lane = lane ∧ p opens[i].phase →
      0 < opens.countP fun x => x.lane = lane && p x.phase := by
    intro h
    apply List.countP_pos_iff.mpr
    exact ⟨opens[i], List.getElem_mem hi, by simpa using h⟩
  unfold tally
  rw [List.countP_set hi]
  simp only [Bool.and_eq_true, decide_eq_true_eq]
  split
  · rename_i h
    have := hpos h
    omega
  · omega

theorem tally_set_same {opens : List Open} {i : Nat} {x : Open} (hx : opens[i]? = some x)
    {phase : OpenPhase} (lane : Lane) {p : OpenPhase → Bool} (hp : p phase = p x.phase) :
    tally (opens.set i { x with phase }) lane p = tally opens lane p := by
  have ht := tally_set hx phase lane p
  rw [hp] at ht
  omega

/-- An open which stays pending leaves the counters as they are. -/
theorem Counted.set (h : Counted s) {i : Nat} {x : Open} {phase : OpenPhase}
    (hx : s.opens[i]? = some x) (hp : x.phase.isPending = true) (hp' : phase.isPending = true)
    (hopens : s'.opens = s.opens.set i { x with phase }) (hmonitor : s'.monitor = s.monitor)
    (hflight : s'.inFlightOpens = s.inFlightOpens) : Counted s' := by
  have hsame : ∀ p ∈ [fun p => !p.isRefused, OpenPhase.isSucceeded, OpenPhase.isFailed,
      OpenPhase.isPending], p phase = p x.phase := by
    cases hq : x.phase <;> cases hq' : phase <;> simp_all [OpenPhase.isPending,
      OpenPhase.isRefused, OpenPhase.isSucceeded, OpenPhase.isFailed]
  constructor
  · intro lane
    rw [hmonitor, hopens, h.monitor lane, tally_set_same hx lane (hsame _ (by simp)),
      tally_set_same hx lane (hsame _ (by simp)), tally_set_same hx lane (hsame _ (by simp)),
      tally_set_same hx lane (hsame _ (by simp))]
  · intro j
    rw [hflight, hopens, h.in_flight j]
    by_cases hj : i = j
    · subst hj
      obtain ⟨hi, -⟩ := List.getElem?_eq_some_iff.mp hx
      rw [List.getElem?_set_self hi, hx]
      simp [hp, hp']
    · rw [List.getElem?_set_ne hj]

/-- An open which leaves moves from the opens in flight to another counter of its lane. -/
theorem Counted.settled (h : Counted s) {i : Nat} {x : Open} {phase : OpenPhase}
    {f : LaneMonitor → LaneMonitor} {new : List Observation} (hx : s.opens[i]? = some x)
    (hp : x.phase.isPending = true) (hp' : phase.isPending = false)
    (hr : phase.isRefused = false)
    (hf : ∀ m, f m = { m with
      succeeded := m.succeeded + if phase.isSucceeded then 1 else 0
      failed := m.failed + if phase.isFailed then 1 else 0 }) :
    Counted (s.settled i x phase f new) := by
  have hx' : x.phase.isRefused = false ∧ x.phase.isSucceeded = false ∧
      x.phase.isFailed = false := by
    cases hq : x.phase <;> simp_all [OpenPhase.isPending, OpenPhase.isRefused,
      OpenPhase.isSucceeded, OpenPhase.isFailed]
  constructor
  · intro lane
    have h1 : tally (s.opens.set i { x with phase }) lane (fun p => !p.isRefused) =
        tally s.opens lane fun p => !p.isRefused :=
      tally_set_same hx lane (by simp [hr, hx'.1])
    have h2 := tally_set hx phase lane OpenPhase.isSucceeded
    have h3 := tally_set hx phase lane OpenPhase.isFailed
    have h4 := tally_set hx phase lane OpenPhase.isPending
    simp only [hp, hp', hx'.2.1, hx'.2.2, Bool.false_eq_true, and_false, if_false, Nat.add_zero,
      and_true] at h2 h3 h4
    simp only [DestinationConfigurationGeneration.settled, leave, count, setPhase]
    by_cases hl : lane = x.lane
    · subst hl
      simp only [if_true, hf, h.monitor x.lane, LaneMonitor.mk.injEq]
      simp only [true_and, if_true] at h2 h3 h4
      refine ⟨h1.symm, h2.symm, h3.symm, ?_⟩
      omega
    · have hl' : ¬ x.lane = lane := fun he => hl he.symm
      simp only [if_neg hl, h.monitor lane, LaneMonitor.mk.injEq]
      simp only [hl', false_and, if_false, Nat.add_zero] at h2 h3 h4
      exact ⟨h1.symm, h2.symm, h3.symm, h4.symm⟩
  · intro j
    simp only [DestinationConfigurationGeneration.settled, leave, count, setPhase,
      List.mem_filter, decide_eq_true_eq]
    by_cases hj : i = j
    · subst hj
      obtain ⟨hi, -⟩ := List.getElem?_eq_some_iff.mp hx
      rw [List.getElem?_set_self hi]
      simp [hp']
    · rw [List.getElem?_set_ne hj, h.in_flight j]
      simp [Ne.symm hj]

theorem Counted.same (h : Counted s) (hopens : s'.opens = s.opens)
    (hmonitor : s'.monitor = s.monitor) (hflight : s'.inFlightOpens = s.inFlightOpens) :
    Counted s' := by
  constructor
  · intro lane
    rw [hmonitor, hopens, h.monitor lane]
  · intro i
    rw [hflight, hopens, h.in_flight i]

theorem in_flight_append {opens : List Open} {y : Open} {i : Nat} :
    (∃ x, (opens ++ [y])[i]? = some x ∧ x.phase.isPending) ↔
      (∃ x, opens[i]? = some x ∧ x.phase.isPending) ∨
        i = opens.length ∧ y.phase.isPending := by
  rw [List.getElem?_append]
  split
  · rename_i hi
    have hne : i ≠ opens.length := by omega
    simp [hne]
  · rename_i hi
    rw [List.getElem?_eq_none (l := opens) (by omega)]
    by_cases he : i = opens.length
    · simp [he]
    · rw [List.getElem?_eq_none (by simp; omega)]
      simp [he]

theorem Move.counted (hm : Move cfg s s') (h : Counted s) : Counted s' := by
  cases hm with
  | admitted lane hs =>
      constructor
      · intro l
        simp only [openLane, hs, ne_eq, not_true_eq_false, if_false, observe, count,
          tally_append]
        by_cases hl : l = lane
        · simp [hl, h.monitor lane, OpenPhase.isRefused, OpenPhase.isSucceeded,
            OpenPhase.isFailed, OpenPhase.isPending]
        · have hl' : ¬ lane = l := fun he => hl he.symm
          simp [hl, hl', h.monitor l]
      · intro i
        simp only [openLane, hs, ne_eq, not_true_eq_false, if_false, observe, count,
          in_flight_append, List.mem_append, h.in_flight i, List.mem_singleton]
        simp [OpenPhase.isPending]
  | refused lane hs =>
      constructor
      · intro l
        simp only [openLane, hs, ne_eq, not_false_eq_true, if_true, observe, tally_append]
        simp [h.monitor l, OpenPhase.isRefused, OpenPhase.isSucceeded, OpenPhase.isFailed,
          OpenPhase.isPending]
      · intro i
        simp only [openLane, hs, ne_eq, not_false_eq_true, if_true, observe, in_flight_append,
          h.in_flight i]
        simp [OpenPhase.isPending]
  | advanced i x phase o hx ha =>
      apply h.set hx ha.pending.1 ha.pending.2 <;> rfl
  | succeeded i x c hx hp hs =>
      apply h.settled hx
      · rw [hp]
        rfl
      · rfl
      · rfl
      · intro m
        rfl
  | failed i x phase new hx hf =>
      apply h.settled hx hf.pending.1 hf.pending.2 hf.kind.1
      intro m
      rw [hf.kind.2.1, hf.kind.2.2]
      rfl
  | retireAgain hr => exact h.same rfl rfl rfl
  | retired hr =>
      apply h.same <;> simp [retire, hr, observe]
  | hook r lane phase phase' o hr hp hh => exact h.same rfl rfl rfl
  | finished r hr ho hd => exact h.same rfl rfl rfl

end Counted

section Retiring

/-- No open is admitted after a call of `retire`. -/
def AdmissionLaw : Observation → List Observation → Prop
  | .admitted _ _, past => .retireCalled ∉ past
  | _, _ => True

/-- What holds of the retirement of a generation. -/
structure Retiring (cfg : Settings) (s : DestinationConfigurationGeneration) : Prop where
  active : s.state = .active ↔ s.retirement = none
  called : .retireCalled ∈ s.trace → s.state ≠ .active
  law : History.Each AdmissionLaw s.trace
  late : ∀ (i : Nat) (x : Open), s.opens[i]? = some x → x.phase.isLate = true → s.state ≠ .active
  drain : ∀ r, s.retirement = some r → ∀ (i : Nat) (x : Open), s.opens[i]? = some x →
    x.phase.isPending = true ∨ x.phase.isLate = true → i ∈ r.admittedOpenDrain
  bounded : ∀ r, s.retirement = some r → ∀ i ∈ r.admittedOpenDrain, i < s.opens.length
  hooks : ∀ r, s.retirement = some r → ∀ lane, r.hooks lane = none ↔ cfg.hooked lane = false
  told : ∀ lane o, .hookSettled lane o ∈ s.trace ↔
    ∃ r, s.retirement = some r ∧ r.hooks lane = some (.settled o)
  retired : s.state = .retired ↔ ∃ r, s.retirement = some r ∧ r.outcome ≠ none
  outcome : ∀ r o, s.retirement = some r → r.outcome = some o →
    s.drained r = true ∧ o = retirementOutcome cfg (s.failures cfg r)

theorem Retiring.initial : Retiring cfg initial where
  active := ⟨fun _ => rfl, fun _ => rfl⟩
  called := nofun
  law := trivial
  late := nofun
  drain := nofun
  bounded := nofun
  hooks := nofun
  told := by simp [DestinationConfigurationGeneration.initial]
  retired := by simp [DestinationConfigurationGeneration.initial]
  outcome := nofun

theorem hasSettled_of_drained {r : Retirement} (h : s.drained r = true) :
    ∀ i ∈ r.admittedOpenDrain, s.hasSettled i = true := by
  rw [drained, Bool.and_eq_true] at h
  exact List.all_eq_true.mp h.2

theorem hooks_of_drained {r : Retirement} (h : s.drained r = true) {lane : Lane}
    {phase : HookPhase} (hp : r.hooks lane = some phase) : phase.isSettled = true := by
  rw [drained, Bool.and_eq_true] at h
  have hl := List.all_eq_true.mp h.1 lane (by cases lane <;> simp)
  rw [hp] at hl
  exact hl

/-- A retirement which has settled waits for no open. -/
theorem Retiring.outcome_none (h : Retiring cfg s) {r : Retirement} (hr : s.retirement = some r)
    {i : Nat} {x : Open} (hx : s.opens[i]? = some x) (hp : x.phase.isPending = true) :
    r.outcome = none := by
  cases ho : r.outcome with
  | none => rfl
  | some o =>
      have hs := hasSettled_of_drained (h.outcome r o hr ho).1 i (h.drain r hr i x hx (.inl hp))
      rw [hasSettled, hx, Option.any_some, hp] at hs
      cases hs

/-- A move of an open which is in flight. -/
theorem Retiring.set (h : Retiring cfg s) (new : List Observation) {i : Nat} {x : Open}
    {phase : OpenPhase} (hx : s.opens[i]? = some x) (hp : x.phase.isPending = true)
    (hl : phase.isLate = true → s.state ≠ .active)
    (hopens : s'.opens = s.opens.set i { x with phase }) (hstate : s'.state = s.state)
    (hret : s'.retirement = s.retirement) (htrace : s'.trace = new ++ s.trace)
    (hnew : ∀ o ∈ new, o.about i = true ∧ ∀ lane, o ≠ .admitted i lane) : Retiring cfg s' := by
  have hi := (List.getElem?_eq_some_iff.mp hx).1
  have hmem {o : Observation} (ho : o.about i = false) : o ∈ s'.trace ↔ o ∈ s.trace := by
    rw [htrace, List.mem_append]
    constructor
    · rintro (hn | hn)
      · rw [(hnew o hn).1] at ho
        cases ho
      · exact hn
    · exact .inr
  constructor
  · rw [hstate, hret]
    exact h.active
  · rw [hstate, hmem rfl]
    exact h.called
  · rw [htrace]
    apply History.Each.append h.law
    intro o past ho
    obtain ⟨ha, hne⟩ := hnew o ho
    cases o with
    | admitted j lane =>
        rw [Observation.about, decide_eq_true_eq] at ha
        exact absurd (by rw [ha]) (hne lane)
    | _ => trivial
  · intro j y hy hlate
    rw [hstate]
    rw [hopens] at hy
    by_cases hj : i = j
    · subst hj
      rw [List.getElem?_set_self hi] at hy
      cases hy
      exact hl hlate
    · rw [List.getElem?_set_ne hj] at hy
      exact h.late j y hy hlate
  · intro r hr j y hy hj'
    rw [hret] at hr
    rw [hopens] at hy
    by_cases hj : i = j
    · subst hj
      exact h.drain r hr i x hx (.inl hp)
    · rw [List.getElem?_set_ne hj] at hy
      exact h.drain r hr j y hy hj'
  · rw [hret, hopens, List.length_set]
    exact h.bounded
  · rw [hret]
    exact h.hooks
  · intro lane o
    rw [hmem rfl, hret]
    exact h.told lane o
  · rw [hstate, hret]
    exact h.retired
  · intro r o hr ho
    rw [hret] at hr
    rw [h.outcome_none hr hx hp] at ho
    cases ho

/-- A move which leaves the opens, and what the retirement says, as they are. -/
theorem Retiring.same (h : Retiring cfg s) {o : Observation} (hopens : s'.opens = s.opens)
    (hstate : s'.state = s.state) (hret : s'.retirement = s.retirement)
    (htrace : s'.trace = o :: s.trace) (hlaw : AdmissionLaw o s.trace)
    (ho : ∀ lane outcome, o ≠ .hookSettled lane outcome)
    (hcalled : o = .retireCalled → s.state ≠ .active) : Retiring cfg s' := by
  have hdrained (r : Retirement) : s'.drained r = s.drained r := by
    unfold drained hasSettled
    rw [hopens]
  have hfailures (r : Retirement) : s'.failures cfg r = s.failures cfg r := by
    unfold failures drainFailure
    rw [hopens]
  constructor
  · rw [hstate, hret]
    exact h.active
  · rw [hstate, htrace, List.mem_cons]
    rintro (he | hm)
    · exact hcalled he.symm
    · exact h.called hm
  · rw [htrace]
    exact ⟨hlaw, h.law⟩
  · rw [hopens, hstate]
    exact h.late
  · rw [hret, hopens]
    exact h.drain
  · rw [hret, hopens]
    exact h.bounded
  · rw [hret]
    exact h.hooks
  · intro lane outcome
    rw [htrace, hret, List.mem_cons, ← h.told lane outcome]
    constructor
    · rintro (he | hm)
      · exact absurd he.symm (ho lane outcome)
      · exact hm
    · exact .inr
  · rw [hstate, hret]
    exact h.retired
  · rw [hret]
    intro r outcome hr hout
    rw [hdrained, hfailures]
    exact h.outcome r outcome hr hout

theorem hasSettled_append {i : Nat} {y : Open} (h : s.hasSettled i = true)
    (hopens : s'.opens = s.opens ++ [y]) :
    s'.hasSettled i = true ∧ s'.drainFailure cfg i = s.drainFailure cfg i := by
  have hi : i < s.opens.length := by
    by_contra hn
    rw [hasSettled, List.getElem?_eq_none (by omega)] at h
    cases h
  unfold hasSettled drainFailure at *
  rw [hopens, List.getElem?_append_left hi]
  exact ⟨h, rfl⟩

/-- An open which is requested, and refused if the retirement has begun. -/
theorem Retiring.append (h : Retiring cfg s) (y : Open) (new : List Observation)
    (hopens : s'.opens = s.opens ++ [y]) (hstate : s'.state = s.state)
    (hret : s'.retirement = s.retirement) (htrace : s'.trace = new ++ s.trace)
    (hl : y.phase.isLate = false) (hp : y.phase.isPending = true → s.state = .active)
    (hnew : ∀ o ∈ new, o.about s.opens.length = true)
    (hadm : ∀ i lane, .admitted i lane ∈ new → s.state = .active) : Retiring cfg s' := by
  have hmem {o : Observation} (ho : o.about s.opens.length = false) :
      o ∈ s'.trace ↔ o ∈ s.trace := by
    rw [htrace, List.mem_append]
    constructor
    · rintro (hn | hn)
      · rw [hnew o hn] at ho
        cases ho
      · exact hn
    · exact .inr
  have hget {i : Nat} {x : Open} (hx : s'.opens[i]? = some x) :
      s.opens[i]? = some x ∨ x = y := by
    rw [hopens, List.getElem?_append] at hx
    split at hx
    · exact .inl hx
    · rw [List.getElem?_singleton] at hx
      split at hx
      · cases hx
        exact .inr rfl
      · cases hx
  constructor
  · rw [hstate, hret]
    exact h.active
  · rw [hstate, hmem rfl]
    exact h.called
  · rw [htrace]
    have hcalled : s.state = .active → .retireCalled ∉ s.trace := fun hs hc => h.called hc hs
    clear htrace hmem
    induction new with
    | nil => exact h.law
    | cons o new ih =>
        refine ⟨?_, ih (fun o' ho' => hnew o' (List.mem_cons_of_mem _ ho'))
          fun i lane hm => hadm i lane (List.mem_cons_of_mem _ hm)⟩
        cases o with
        | admitted i lane =>
            intro hm
            rcases List.mem_append.mp hm with hm | hm
            · have hb := hnew _ (List.mem_cons_of_mem _ hm)
              cases hb
            · exact hcalled (hadm i lane List.mem_cons_self) hm
        | _ => trivial
  · intro i x hx hlate
    rw [hstate]
    rcases hget hx with hx | rfl
    · exact h.late i x hx hlate
    · rw [hl] at hlate
      cases hlate
  · intro r hr i x hx hpl
    rw [hret] at hr
    rcases hget hx with hx | rfl
    · exact h.drain r hr i x hx hpl
    · rcases hpl with hpend | hlate
      · rw [h.active.mp (hp hpend)] at hr
        cases hr
      · rw [hl] at hlate
        cases hlate
  · intro r hr i hi
    rw [hret] at hr
    rw [hopens, List.length_append]
    exact Nat.lt_of_lt_of_le (h.bounded r hr i hi) (Nat.le_add_right _ _)
  · rw [hret]
    exact h.hooks
  · intro lane o
    rw [hmem rfl, hret]
    exact h.told lane o
  · rw [hstate, hret]
    exact h.retired
  · intro r o hr ho
    rw [hret] at hr
    obtain ⟨hd, hout⟩ := h.outcome r o hr ho
    have hs := hasSettled_of_drained hd
    constructor
    · rw [drained, Bool.and_eq_true] at hd ⊢
      refine ⟨hd.1, List.all_eq_true.mpr fun i hi => ?_⟩
      exact (@hasSettled_append cfg _ _ _ _ (hs i hi) hopens).1
    · rw [hout]
      unfold failures
      congr 2
      apply List.filterMap_congr
      intro i hi
      exact (hasSettled_append (hs i hi) hopens).2.symm

theorem Retiring.retired_move (h : Retiring cfg s) (hc : Counted s) (hr : s.retirement = none) :
    Retiring cfg (s.retire cfg) := by
  have hs : s.state = .active := h.active.mpr hr
  have hnone {lane : Lane} {o : Except Reason Unit} : .hookSettled lane o ∉ s.trace := by
    rw [h.told lane o, hr]
    rintro ⟨r, hr', -⟩
    cases hr'
  simp only [retire, hr]
  constructor
  · simp [observe]
  · simp [observe]
  · exact ⟨trivial, h.law⟩
  · intro i x _ _
    simp [observe]
  · intro r hr' i x hx hpl
    cases hr'
    rcases hpl with hp | hl
    · exact (hc.in_flight i).mpr ⟨x, hx, hp⟩
    · exact absurd hs (h.late i x hx hl)
  · intro r hr' i hi
    cases hr'
    obtain ⟨x, hx, -⟩ := (hc.in_flight i).mp hi
    exact (List.getElem?_eq_some_iff.mp hx).1
  · intro r hr' lane
    cases hr'
    cases hk : cfg.hooked lane <;> simp [hk]
  · intro lane o
    simp only [observe, List.mem_cons, reduceCtorEq, false_or, Option.some.injEq]
    constructor
    · exact fun hm => absurd hm hnone
    · rintro ⟨r, rfl, hh⟩
      dsimp only at hh
      split at hh <;> cases hh
  · simp [observe]
  · intro r o hr' ho
    cases hr'
    cases ho

theorem Retiring.hook_move (h : Retiring cfg s) {r : Retirement} {lane : Lane}
    {phase phase' : HookPhase} {o : Observation} (hr : s.retirement = some r)
    (hp : r.hooks lane = some phase) (hh : HookMove lane phase phase' o) :
    Retiring cfg ((s.setHook r lane phase').observe o) := by
  have hopen : r.outcome = none := by
    cases ho : r.outcome with
    | none => rfl
    | some out =>
        have hs := hooks_of_drained (h.outcome r out hr ho).1 hp
        cases hh <;> cases hs
  constructor
  · simp only [setHook, observe, reduceCtorEq, iff_false]
    intro hs
    rw [h.active.mp hs] at hr
    cases hr
  · have hne : o ≠ .retireCalled := by cases hh <;> simp
    simp only [setHook, observe, List.mem_cons]
    rintro (he | hm)
    · exact absurd he.symm hne
    · exact h.called hm
  · refine ⟨?_, h.law⟩
    cases hh <;> trivial
  · exact h.late
  · intro r' hr' i x hx hpl
    cases hr'
    exact h.drain r hr i x hx hpl
  · intro r' hr' i hi
    cases hr'
    exact h.bounded r hr i hi
  · intro r' hr' l
    cases hr'
    have hk := h.hooks r hr l
    dsimp only
    split
    · rename_i hl
      subst hl
      rw [hp] at hk
      simpa using hk
    · exact hk
  · intro l out
    have ht := h.told l out
    rw [hr] at ht
    simp only [setHook, observe, List.mem_cons, ht, Option.some.injEq, exists_eq_left']
    by_cases hl : l = lane
    · subst hl
      rw [hp, if_pos rfl]
      cases hh with
      | called => simp
      | settled outcome =>
          simp only [Observation.hookSettled.injEq, true_and, Option.some.injEq,
            HookPhase.settled.injEq, reduceCtorEq, or_false]
          exact eq_comm
    · rw [if_neg hl]
      have hne : .hookSettled l out ≠ o := by
        cases hh with
        | called => simp
        | settled outcome => simp [hl]
      simp [hne]
  · have hne : s.state ≠ .retired := by
      intro hs
      obtain ⟨r', hr', ho⟩ := h.retired.mp hs
      rw [hr] at hr'
      cases hr'
      exact ho hopen
    constructor
    · exact fun hs => absurd hs hne
    · rintro ⟨r', hr', ho⟩
      cases hr'
      exact absurd hopen ho
  · intro r' out hr' ho
    cases hr'
    rw [hopen] at ho
    cases ho

theorem Retiring.finished_move (h : Retiring cfg s) {r : Retirement} (hr : s.retirement = some r)
    (hd : s.drained r = true) : Retiring cfg (s.finish cfg r) := by
  constructor
  · simp [finish, observe]
  · simp [finish, observe]
  · exact ⟨trivial, h.law⟩
  · intro i x _ _
    simp [finish, observe]
  · intro r' hr' i x hx hpl
    cases hr'
    exact h.drain r hr i x hx hpl
  · intro r' hr' i hi
    cases hr'
    exact h.bounded r hr i hi
  · intro r' hr' l
    cases hr'
    exact h.hooks r hr l
  · intro l out
    have ht := h.told l out
    rw [hr] at ht
    simpa [finish, observe] using ht
  · simp [finish, observe]
  · intro r' out hr' ho
    cases hr'
    cases ho
    exact ⟨hd, rfl⟩

theorem Advances.news {i : Nat} {phase phase' : OpenPhase} {o : Observation}
    (h : Advances s i phase phase' o) :
    (phase'.isLate = true → s.state ≠ .active) ∧ o.about i = true ∧ ∀ lane, o ≠ .admitted i lane := by
  cases h with
  | called => simp [OpenPhase.isLate, Observation.about]
  | delivered c => simp [OpenPhase.isLate, Observation.about]
  | disposing c hs => exact ⟨fun _ => hs, by simp [Observation.about], by simp⟩

theorem Fails.news {i : Nat} {phase phase' : OpenPhase} {new : List Observation}
    (h : Fails cfg i phase phase' new) :
    (phase'.isLate = true → phase.isLate = true) ∧
      ∀ o ∈ new, o.about i = true ∧ ∀ lane, o ≠ .admitted i lane := by
  cases h <;> simp [OpenPhase.isLate, Observation.about]

theorem Move.retiring (hm : Move cfg s s') (h : Retiring cfg s) (hc : Counted s) :
    Retiring cfg s' := by
  cases hm with
  | admitted lane hs =>
      apply h.append ⟨lane, .queued⟩ [.admitted s.opens.length lane]
      all_goals simp [openLane, hs, count, observe, OpenPhase.isLate, Observation.about]
  | refused lane hs =>
      apply h.append ⟨lane, .refused⟩ [.rejected s.opens.length (.error (retiredMessage cfg)),
        .refused s.opens.length lane]
      all_goals simp [openLane, hs, observe, OpenPhase.isLate, OpenPhase.isPending,
        Observation.about]
  | advanced i x phase o hx ha =>
      obtain ⟨hl, hn⟩ := Advances.news ha
      apply h.set [o] hx ha.pending.1 hl
      · rfl
      · rfl
      · rfl
      · rfl
      · simpa using hn
  | succeeded i x c hx hp hs =>
      have hpend : x.phase.isPending = true := by
        rw [hp]
        rfl
      have hlate : (OpenPhase.succeeded c).isLate = true → s.state ≠ .active := nofun
      apply h.set [.fulfilled i c] hx hpend hlate
      · rfl
      · rfl
      · rfl
      · rfl
      · simp [Observation.about]
  | failed i x phase new hx hf =>
      obtain ⟨hl, hn⟩ := Fails.news hf
      exact h.set new hx hf.pending.1 (fun hlate => h.late i x hx (hl hlate)) rfl rfl rfl rfl hn
  | retireAgain hr =>
      apply h.same (o := .retireCalled)
      · rfl
      · rfl
      · rfl
      · rfl
      · trivial
      · simp
      · exact fun _ hs => hr (h.active.mp hs)
  | retired hr => exact h.retired_move hc hr
  | hook r lane phase phase' o hr hp hh => exact h.hook_move hr hp hh
  | finished r hr ho hd => exact h.finished_move hr hd

end Retiring
end DestinationConfigurationGeneration
end OpenRfc.Destination
