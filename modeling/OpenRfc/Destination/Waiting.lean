import OpenRfc.Destination.Retirement

/-!
Waiting of retirements for each other. Every wait of a generation for a generation, and of a
runtime for a runtime, is an edge of the graph which is searched before the next one is
added. A wait of a generation for a runtime is an edge of neither: with such waits a cycle
can close, and without them none can.
-/

set_option linter.unusedSectionVars false

namespace OpenRfc.Destination
open WaitGraph

section Joins
variable {α : Type} [DecidableEq α]

theorem retirementJoinWouldCycle_iff {dependencies : List (α × α)} {owner target : α} :
    retirementJoinWouldCycle dependencies owner target = true ↔
      Relation.ReflTransGen (Edge dependencies) target owner :=
  search_iff

/-- What a join answers, and what becomes of the dependencies. -/
structure Joined (dependencies : List (α × α)) (context : Option (RetirementContext α))
    (target : α) (answer : Answer) (dependencies' : List (α × α)) : Prop where
  grows : ∀ x y, Edge dependencies x y → Edge dependencies' x y
  acyclic : Acyclic (Edge dependencies) → Acyclic (Edge dependencies')
  tracked : answer = .promise → ∀ c, context = some c → Edge dependencies' c.owner target
  outside : context = none → answer = .promise

theorem joinRetirement_joined (dependencies : List (α × α))
    (context : Option (RetirementContext α)) (target : α) :
    Joined dependencies context target (joinRetirement dependencies context target).1
      (joinRetirement dependencies context target).2 := by
  cases context with
  | none =>
      exact ⟨fun _ _ h => h, fun h => h, fun _ c hc => (Option.some_ne_none c hc.symm).elim,
        fun _ => rfl⟩
  | some c =>
      cases hc : retirementJoinWouldCycle dependencies c.owner target with
      | true =>
          simp only [joinRetirement, trackRetirementJoin, hc, if_true]
          exact ⟨fun _ _ h => h, fun h => h, nofun, nofun⟩
      | false =>
          simp only [joinRetirement, trackRetirementJoin, hc, Bool.false_eq_true, if_false]
          have hedge {x y : α} : Edge (dependencies.insert (c.owner, target)) x y ↔
              Edge dependencies x y ∨ x = c.owner ∧ y = target := by
            simp [Edge, or_comm]
          constructor
          · exact fun x y h => hedge.mpr (.inl h)
          · intro h
            have hn : ¬ Relation.ReflTransGen (Edge dependencies) target c.owner := by
              rw [← retirementJoinWouldCycle_iff, hc]
              exact Bool.false_ne_true
            exact (h.insert hn).mono fun x y => hedge.mp
          · rintro - c' hc'
            cases hc'
            exact hedge.mpr (.inr ⟨rfl, rfl⟩)
          · nofun

end Joins

namespace Network
variable {ι κ : Type} [DecidableEq ι] [DecidableEq κ] {cfg : NetworkSettings ι κ}
  {s s' : Network ι κ}

/-- A member moves on from active to retiring, and from there to retired. -/
inductive PhaseMove : GenerationState → GenerationState → Prop
  | same (p : GenerationState) : PhaseMove p p
  | begun : PhaseMove .active .retiring
  | settled : PhaseMove .retiring .retired

/-- What is known after a call of `retire` in a context. -/
structure Called (s : Network ι κ) (context : AsyncContext ι κ) (m : Member ι κ)
    (answer : Answer) (s' : Network ι κ) : Prop where
  phase : ∀ m', PhaseMove (s.phase m') (s'.phase m')
  begun : answer = .promise → s'.phase m ≠ .active
  awaits : s'.awaits = s.awaits
  answers : s'.answers = s.answers
  grows : ∀ x y, Edge s.retirementDependencies x y → Edge s'.retirementDependencies x y
  growsDestination : ∀ x y, Edge s.destinationRetirementDependencies x y →
    Edge s'.destinationRetirementDependencies x y
  acyclic : Acyclic (Edge s.retirementDependencies) → Acyclic (Edge s'.retirementDependencies)
  acyclicDestination : Acyclic (Edge s.destinationRetirementDependencies) →
    Acyclic (Edge s'.destinationRetirementDependencies)
  tracked : answer = .promise → ∀ g c, m = .generation g → context.hook = some c →
    s.phase m = .retired ∨ Edge s'.retirementDependencies c.owner g
  trackedDestination : answer = .promise → ∀ r c, m = .runtime r →
    context.destination = some c → Edge s'.destinationRetirementDependencies c.owner r
  outside : context = ⟨none, none⟩ → answer = .promise

theorem retire_phase {cfg : Settings} {x : DestinationConfigurationGeneration}
    (h : DestinationConfigurationGeneration.Retiring cfg x) :
    PhaseMove x.state (x.retire cfg).state ∧ (x.retire cfg).state ≠ .active := by
  cases hr : x.retirement with
  | none =>
      have hs := h.active.mpr hr
      have hs' : (x.retire cfg).state = .retiring := by
        simp only [DestinationConfigurationGeneration.retire, hr]
        rfl
      rw [hs, hs']
      exact ⟨.begun, (by rintro ⟨⟩)⟩
  | some r =>
      have hs' : (x.retire cfg).state = x.state := by
        simp only [DestinationConfigurationGeneration.retire, hr]
        rfl
      rw [hs']
      refine ⟨.same _, fun hs => ?_⟩
      rw [h.active.mp hs] at hr
      cases hr

theorem phase_setGeneration {g : ι} {x : DestinationConfigurationGeneration}
    (h : PhaseMove (s.generation g).state x.state) (m : Member ι κ) :
    PhaseMove (s.phase m) ((s.setGeneration g x).phase m) := by
  cases m with
  | runtime r => exact .same _
  | generation g' =>
      by_cases hg : g' = g
      · subst hg
        simpa [phase, setGeneration] using h
      · simp only [phase, setGeneration, Function.update_of_ne hg]
        exact .same _

theorem phase_setRuntime {r : κ} {x : RfcDestinationRuntime}
    (h : PhaseMove (s.runtime r).state x.state) (m : Member ι κ) :
    PhaseMove (s.phase m) ((s.setRuntime r x).phase m) := by
  cases m with
  | generation g => exact .same _
  | runtime r' =>
      by_cases hr : r' = r
      · subst hr
        simpa [phase, setRuntime] using h
      · simp only [phase, setRuntime, Function.update_of_ne hr]
        exact .same _

theorem retireGeneration_called {g : ι} (context : AsyncContext ι κ)
    (h : DestinationConfigurationGeneration.Retiring (cfg.generation g) (s.generation g)) :
    Called s context (.generation g) (s.retireGeneration cfg context g).1
      (s.retireGeneration cfg context g).2 := by
  obtain ⟨hmove, hbegun⟩ := retire_phase h
  have hphase := phase_setGeneration (s := s) hmove
  have hbegun' : (s.setGeneration g ((s.generation g).retire (cfg.generation g))).phase
      (.generation g) ≠ .active := by
    simpa [phase, setGeneration] using hbegun
  by_cases hretired : (s.generation g).state = .retired
  · simp only [retireGeneration, if_pos hretired]
    exact {
      phase := hphase
      begun := fun _ => hbegun'
      awaits := rfl
      answers := rfl
      grows := fun _ _ h => h
      growsDestination := fun _ _ h => h
      acyclic := fun h => h
      acyclicDestination := fun h => h
      tracked := fun _ g' c hg _ => by
        cases hg
        exact .inl hretired
      trackedDestination := nofun
      outside := fun _ => rfl }
  · cases howns : owns context.hook g with
    | true =>
        simp only [retireGeneration, if_neg hretired, howns, if_true]
        refine ⟨hphase, nofun, rfl, rfl, fun _ _ h => h, fun _ _ h => h, fun h => h, fun h => h,
          nofun, nofun, ?_⟩
        rintro rfl
        cases howns
    | false =>
        have hj := joinRetirement_joined s.retirementDependencies context.hook g
        simp only [retireGeneration, if_neg hretired, howns, Bool.false_eq_true, if_false]
        split <;> exact {
          phase := hphase
          begun := fun _ => hbegun'
          awaits := rfl
          answers := rfl
          grows := hj.grows
          growsDestination := fun _ _ h => h
          acyclic := hj.acyclic
          acyclicDestination := fun h => h
          tracked := fun ha g' c hg hc => by
            cases hg
            exact .inr (hj.tracked ha c hc)
          trackedDestination := nofun
          outside := fun hc => hj.outside (by rw [hc]) }

theorem retireRuntime_called (context : AsyncContext ι κ) (r : κ) :
    Called s context (.runtime r) (s.retireRuntime context r).1
      (s.retireRuntime context r).2 := by
  cases howns : owns context.destination r with
  | true =>
      simp only [retireRuntime, howns, if_true]
      refine ⟨fun _ => .same _, nofun, rfl, rfl, fun _ _ h => h, fun _ _ h => h, fun h => h,
        fun h => h, nofun, nofun, ?_⟩
      rintro rfl
      cases howns
  | false =>
      have hj := joinRetirement_joined s.destinationRetirementDependencies context.destination r
      simp only [retireRuntime, howns, Bool.false_eq_true, if_false]
      split
      · rename_i hactive
        have hmove : PhaseMove (s.runtime r).state .retiring := by
          rw [hactive]
          exact .begun
        exact {
          phase := phase_setRuntime (s := s) hmove
          begun := fun _ => by simp [phase, setRuntime]
          awaits := rfl
          answers := rfl
          grows := fun _ _ h => h
          growsDestination := hj.grows
          acyclic := fun h => h
          acyclicDestination := hj.acyclic
          tracked := nofun
          trackedDestination := fun ha r' c hr hc => by
            cases hr
            exact hj.tracked ha c hc
          outside := fun hc => hj.outside (by rw [hc]) }
      · rename_i hactive
        exact {
          phase := fun _ => .same _
          begun := fun _ => hactive
          awaits := rfl
          answers := rfl
          grows := fun _ _ h => h
          growsDestination := hj.grows
          acyclic := fun h => h
          acyclicDestination := hj.acyclic
          tracked := nofun
          trackedDestination := fun ha r' c hr hc => by
            cases hr
            exact hj.tracked ha c hc
          outside := fun hc => hj.outside (by rw [hc]) }

/-- The member whose retirement waits for the foreign code. -/
def Task.owner : Task ι κ → Member ι κ
  | .hook g _ => .generation g
  | .disposal g _ => .generation g
  | .repository r => .runtime r

theorem PhaseMove.ne_active {p p' : GenerationState} (h : PhaseMove p p') (hp : p ≠ .active) :
    p' ≠ .active := by
  cases h with
  | same => exact hp
  | begun => exact nofun
  | settled => exact nofun

theorem PhaseMove.retiring {p p' : GenerationState} (h : PhaseMove p p') (hp : p ≠ .active)
    (hp' : p' = .retiring) : p = .retiring := by
  cases h with
  | same => exact hp'
  | begun => exact absurd rfl hp
  | settled => rfl

theorem PhaseMove.retired {p p' : GenerationState} (h : PhaseMove p p') (hp : p = .retired) :
    p' = .retired := by
  subst hp
  cases h
  rfl

theorem taskContext_generation {t : Task ι κ} {g : ι} (ht : Task.owner t = .generation g) :
    ∃ c, (s.taskContext t).hook = some c ∧ c.owner = g := by
  cases t with
  | hook g' lane =>
      cases ht
      exact ⟨_, rfl, rfl⟩
  | disposal g' i =>
      cases ht
      exact ⟨_, rfl, rfl⟩
  | repository r => cases ht

theorem taskContext_runtime {t : Task ι κ} {r : κ} (ht : Task.owner t = .runtime r) :
    ∃ c, (s.taskContext t).destination = some c ∧ c.owner = r := by
  cases t with
  | hook g' lane => cases ht
  | disposal g' i => cases ht
  | repository r =>
      cases ht
      exact ⟨_, rfl, rfl⟩

theorem answered_awaits {caller : Option (Task ι κ)} {m m' : Member ι κ} {answer : Answer}
    {t : Task ι κ} (h : m' ∈ (s.answered caller m answer).awaits t) :
    m' ∈ s.awaits t ∨ caller = some t ∧ m' = m ∧ answer = .promise := by
  unfold answered at h
  dsimp only at h
  split at h
  · rename_i t'
    by_cases ht : t = t'
    · subst ht
      simp only [Function.update_self, List.mem_cons] at h
      rcases h with h | h
      · exact .inr ⟨rfl, h, rfl⟩
      · exact .inl h
    · simp only [Function.update_of_ne ht] at h
      exact .inl h
  · exact .inl h

theorem answered_answers (caller : Option (Task ι κ)) (m : Member ι κ) (answer : Answer) :
    (s.answered caller m answer).answers = (caller, m, answer) :: s.answers := by
  unfold answered
  dsimp only
  split <;> rfl

theorem answered_phase (caller : Option (Task ι κ)) (m m' : Member ι κ) (answer : Answer) :
    (s.answered caller m answer).phase m' = s.phase m' := by
  unfold answered
  dsimp only
  split <;> cases m' <;> rfl

theorem answered_dependencies (caller : Option (Task ι κ)) (m : Member ι κ) (answer : Answer) :
    (s.answered caller m answer).retirementDependencies = s.retirementDependencies ∧
      (s.answered caller m answer).destinationRetirementDependencies =
        s.destinationRetirementDependencies := by
  unfold answered
  dsimp only
  split <;> exact ⟨rfl, rfl⟩

section Steps

/-- The generations of the network are in states which a generation can reach. -/
def Accounts (cfg : NetworkSettings ι κ) (s : Network ι κ) : Prop :=
  ∀ g, (Destination.generation (cfg.generation g)).Reachable (s.generation g)

theorem Accounts.accounted (h : Accounts cfg s) (g : ι) :
    Accounted (cfg.generation g) (s.generation g) :=
  accounted_reachable (h g)

theorem Accounts.set (h : Accounts cfg s) {g : ι} {x : DestinationConfigurationGeneration}
    (hx : (Destination.generation (cfg.generation g)).Reachable x)
    (hgen : s'.generation = Function.update s.generation g x) : Accounts cfg s' := by
  intro g'
  rw [hgen]
  by_cases hg : g' = g
  · subst hg
    rw [Function.update_self]
    exact hx
  · rw [Function.update_of_ne hg]
    exact h g'

theorem retireGeneration_generation (context : AsyncContext ι κ) (g : ι) :
    (s.retireGeneration cfg context g).2.generation =
      Function.update s.generation g ((s.generation g).retire (cfg.generation g)) := by
  unfold retireGeneration
  dsimp only
  split
  · rfl
  · split
    · rfl
    · split <;> rfl

theorem retireGeneration_runtime (context : AsyncContext ι κ) (g : ι) :
    (s.retireGeneration cfg context g).2.runtime = s.runtime := by
  unfold retireGeneration
  dsimp only
  split
  · rfl
  · split
    · rfl
    · split <;> rfl

theorem retireRuntime_generation (context : AsyncContext ι κ) (r : κ) :
    (s.retireRuntime context r).2.generation = s.generation := by
  unfold retireRuntime
  dsimp only
  split
  · rfl
  · split <;> rfl

theorem answered_generation (caller : Option (Task ι κ)) (m : Member ι κ) (answer : Answer) :
    (s.answered caller m answer).generation = s.generation := by
  unfold answered
  dsimp only
  split <;> rfl

theorem Accounts.step {e : NetworkEvent ι κ} (h : Accounts cfg s)
    (he : step cfg s e = some s') : Accounts cfg s' := by
  have called (context : AsyncContext ι κ) (g : ι) :
      Accounts cfg (s.retireGeneration cfg context g).2 := by
    apply h.set (g := g) _ (retireGeneration_generation context g)
    exact (h g).step (e := .retire) rfl
  have same {s' : Network ι κ} (hs : s'.generation = s.generation) : Accounts cfg s' := by
    intro g
    rw [hs]
    exact h g
  cases e with
  | openLane caller g lane =>
      simp only [Network.step] at he
      split at he <;> cases he
      exact h.set (g := g) ((h g).step (e := .openLane lane) rfl) rfl
  | retire caller m =>
      simp only [Network.step] at he
      split at he <;> cases he
      intro g
      rw [answered_generation]
      cases m with
      | generation g' => exact called _ g' g
      | runtime r => exact same (retireRuntime_generation _ r) g
  | generation g e =>
      simp only [Network.step] at he
      split at he
      · obtain ⟨x, hx, rfl⟩ := Option.map_eq_some_iff.mp he
        exact h.set (g := g) ((h g).step hx) rfl
      · cases he
  | callRepository r =>
      simp only [Network.step] at he
      split at he <;> cases he
      exact same rfl
  | callGeneration r =>
      simp only [Network.step] at he
      split at he
      · cases he
      · cases he
        intro g
        exact called _ (cfg.generationOf r) g
      · cases he
  | settleRepository r outcome =>
      simp only [Network.step] at he
      split at he
      · split at he <;> cases he
        exact same rfl
      · cases he
  | throwRepository r =>
      simp only [Network.step] at he
      split at he
      · split at he <;> cases he
        exact same rfl
      · cases he
  | finishRuntime r =>
      simp only [Network.step] at he
      split at he
      · split at he <;> cases he
        exact same rfl
      · cases he
  | untrack owner target =>
      simp only [Network.step] at he
      split at he <;> cases he
      exact same rfl
  | untrackDestination owner target =>
      simp only [Network.step] at he
      split at he <;> cases he
      exact same rfl

theorem isRunning_hook {g : ι} {lane : Lane} (h : s.isRunning (.hook g lane) = true) :
    ∃ r, (s.generation g).retirement = some r ∧ r.hooks lane = some .running := by
  simp only [isRunning] at h
  split at h
  · rename_i r hr
    split at h
    · rename_i hk
      exact ⟨r, hr, hk⟩
    · cases h
  · cases h

theorem isRunning_disposal {g : ι} {i : Nat} (h : s.isRunning (.disposal g i) = true) :
    ∃ x c, (s.generation g).opens[i]? = some x ∧ x.phase = .disposing c := by
  simp only [isRunning] at h
  split at h
  · rename_i lane c hx
    exact ⟨_, c, hx, rfl⟩
  · cases h

theorem isRunning_repository {r : κ} (h : s.isRunning (.repository r) = true) :
    (s.runtime r).state = .retiring ∧ (s.runtime r).repository = .running := by
  simp only [isRunning] at h
  split at h
  · rename_i hr
    rw [hr]
    exact ⟨rfl, rfl⟩
  · cases h

/-- A generation whose retirement has not settled, and has begun, is retiring. -/
theorem retiring_of_pending {cfg : Settings} {x : DestinationConfigurationGeneration}
    (h : DestinationConfigurationGeneration.Retiring cfg x) (ha : x.state ≠ .active)
    (hr : ∀ r, x.retirement = some r → r.outcome = none) : x.state = .retiring := by
  cases hs : x.state with
  | active => exact absurd hs ha
  | retiring => rfl
  | retired =>
      obtain ⟨r, hret, hne⟩ := h.retired.mp hs
      exact absurd (hr r hret) hne

/-- The retirement which foreign code runs for is pending. -/
theorem isRunning_owner (h : Accounts cfg s) {t : Task ι κ} (ht : s.isRunning t = true) :
    s.phase (Task.owner t) = .retiring := by
  cases t with
  | hook g lane =>
      obtain ⟨r, hr, hk⟩ := isRunning_hook ht
      have hg := (h.accounted g).retiring
      apply retiring_of_pending hg
      · intro hs
        rw [hg.active.mp hs] at hr
        cases hr
      · intro r' hr'
        rw [hr] at hr'
        cases hr'
        cases ho : r.outcome with
        | none => rfl
        | some out =>
            have hset := DestinationConfigurationGeneration.hooks_of_drained
              (hg.outcome r out hr ho).1 hk
            cases hset
  | disposal g i =>
      obtain ⟨x, c, hx, hp⟩ := isRunning_disposal ht
      have hg := (h.accounted g).retiring
      have hpend : x.phase.isPending = true := by
        rw [hp]
        rfl
      apply retiring_of_pending hg
      · apply hg.late i x hx
        rw [hp]
        rfl
      · exact fun r hr => hg.outcome_none hr hx hpend
  | repository r => exact (isRunning_repository ht).1

/-- A step of a generation which is no call moves its state on only where it is finished. -/
theorem phase_of_step {cfg : Settings} {x x' : DestinationConfigurationGeneration} {e : Event}
    (h : DestinationConfigurationGeneration.Retiring cfg x)
    (he : DestinationConfigurationGeneration.step cfg x e = some x') : PhaseMove x.state x'.state := by
  have hm := DestinationConfigurationGeneration.step_move he
  cases hm with
  | admitted lane hs =>
      have : (x.openLane cfg lane).state = x.state := by
        simp [DestinationConfigurationGeneration.openLane, hs,
          DestinationConfigurationGeneration.observe, DestinationConfigurationGeneration.count]
      rw [this]
      exact .same _
  | refused lane hs =>
      have : (x.openLane cfg lane).state = x.state := by
        simp [DestinationConfigurationGeneration.openLane, hs,
          DestinationConfigurationGeneration.observe]
      rw [this]
      exact .same _
  | advanced i y phase o hx ha => exact .same _
  | succeeded i y c hx hp hs => exact .same _
  | failed i y phase new hx hf => exact .same _
  | retireAgain hr => exact .same _
  | retired hr => exact (retire_phase h).1
  | hook r lane phase phase' o hr hp hh => exact .same _
  | finished r hr ho hd =>
      have hs : x.state = .retiring := by
        apply retiring_of_pending h
        · intro hs
          rw [h.active.mp hs] at hr
          cases hr
        · intro r' hr'
          rw [hr] at hr'
          cases hr'
          exact ho
      rw [hs]
      exact .settled

/-- A dependency which is removed belonged to a member which has settled. -/
theorem edge_of_untrack {α : Type} [DecidableEq α] {dependencies : List (α × α)}
    {owner target x y : α} (phase : α → GenerationState)
    (hs : phase owner = .retired ∨ phase target = .retired) (hx : phase x = .retiring)
    (hy : phase y = .retiring) (hd : Edge dependencies x y) :
    Edge (dependencies.filter (· ≠ (owner, target))) x y := by
  apply List.mem_filter.mpr
  refine ⟨hd, ?_⟩
  simp only [decide_eq_true_eq, ne_eq, Prod.mk.injEq, not_and]
  rintro rfl rfl
  rcases hs with hs | hs
  · exact absurd (hs.symm.trans hx) nofun
  · exact absurd (hs.symm.trans hy) nofun

theorem retireMember_called (h : Accounts cfg s) (context : AsyncContext ι κ)
    (m : Member ι κ) :
    Called s context m (s.retireMember cfg context m).1 (s.retireMember cfg context m).2 := by
  cases m with
  | generation g => exact retireGeneration_called context (h.accounted g).retiring
  | runtime r => exact retireRuntime_called context r

/-- Foreign code has been given the promise of a member. -/
structure NewWait (cfg : NetworkSettings ι κ) (s : Network ι κ) (e : NetworkEvent ι κ)
    (s' : Network ι κ) (t : Task ι κ) (m : Member ι κ) : Prop where
  call : e = .retire (some t) m
  answer : (s.retireMember cfg (s.taskContext t) m).1 = .promise
  owner : s.phase (Task.owner t) = .retiring
  begun : s'.phase m ≠ .active
  generations : ∀ g g', Task.owner t = .generation g → m = .generation g' →
    s'.phase m = .retired ∨ Edge s'.retirementDependencies g g'
  runtimes : ∀ r r', Task.owner t = .runtime r → m = .runtime r' →
    Edge s'.destinationRetirementDependencies r r'

/-- What a step can do to the members, the graphs and the foreign code. -/
structure Stepped (cfg : NetworkSettings ι κ) (s : Network ι κ) (e : NetworkEvent ι κ)
    (s' : Network ι κ) : Prop where
  phase : ∀ m, PhaseMove (s.phase m) (s'.phase m)
  acyclic : Acyclic (Edge s.retirementDependencies) → Acyclic (Edge s'.retirementDependencies)
  acyclicDestination : Acyclic (Edge s.destinationRetirementDependencies) →
    Acyclic (Edge s'.destinationRetirementDependencies)
  /-- A dependency between members which are pending is kept. -/
  edge : ∀ g g', s'.phase (.generation g) = .retiring → s'.phase (.generation g') = .retiring →
    Edge s.retirementDependencies g g' → Edge s'.retirementDependencies g g'
  edgeDestination : ∀ r r', s'.phase (.runtime r) = .retiring →
    s'.phase (.runtime r') = .retiring → Edge s.destinationRetirementDependencies r r' →
    Edge s'.destinationRetirementDependencies r r'
  awaits : ∀ t m, m ∈ s'.awaits t → m ∈ s.awaits t ∨ NewWait cfg s e s' t m
  answers : ∀ m answer, (none, m, answer) ∈ s'.answers →
    (none, m, answer) ∈ s.answers ∨ answer = .promise

/-- A step which only moves members on. -/
theorem stepped_of_phase {e : NetworkEvent ι κ}
    (hphase : ∀ m, PhaseMove (s.phase m) (s'.phase m)) (hawaits : s'.awaits = s.awaits)
    (hanswers : s'.answers = s.answers)
    (hdeps : s'.retirementDependencies = s.retirementDependencies)
    (hdest : s'.destinationRetirementDependencies = s.destinationRetirementDependencies) :
    Stepped cfg s e s' where
  phase := hphase
  acyclic h := by
    rw [hdeps]
    exact h
  acyclicDestination h := by
    rw [hdest]
    exact h
  edge _ _ _ _ h := by
    rw [hdeps]
    exact h
  edgeDestination _ _ _ _ h := by
    rw [hdest]
    exact h
  awaits _ _ h := by
    rw [hawaits] at h
    exact .inl h
  answers _ _ h := by
    rw [hanswers] at h
    exact .inl h

theorem stepped_setRuntime {e : NetworkEvent ι κ} {r : κ} {x : RfcDestinationRuntime}
    (hx : PhaseMove (s.runtime r).state x.state) : Stepped cfg s e (s.setRuntime r x) :=
  stepped_of_phase (phase_setRuntime hx) rfl rfl rfl rfl

/-- A call of `retire`, by foreign code or from outside. -/
theorem stepped_retire (h : Accounts cfg s) {caller : Option (Task ι κ)} {m : Member ι κ}
    (hr : caller.all s.isRunning = true)
    (he : s' = (s.retireMember cfg (caller.elim ⟨none, none⟩ s.taskContext) m).2.answered caller m
      (s.retireMember cfg (caller.elim ⟨none, none⟩ s.taskContext) m).1) :
    Stepped cfg s (.retire caller m) s' := by
  have hc := retireMember_called h (caller.elim ⟨none, none⟩ s.taskContext) m
  generalize hx : s.retireMember cfg (caller.elim ⟨none, none⟩ s.taskContext) m = x at hc he
  obtain ⟨answer, called⟩ := x
  subst he
  obtain ⟨hd, hd'⟩ := answered_dependencies (s := called) caller m answer
  constructor
  · intro m'
    rw [answered_phase]
    exact hc.phase m'
  · rw [hd]
    exact hc.acyclic
  · rw [hd']
    exact hc.acyclicDestination
  · rw [hd]
    exact fun g g' _ _ => hc.grows g g'
  · rw [hd']
    exact fun r r' _ _ => hc.growsDestination r r'
  · intro t m' hm
    rcases answered_awaits hm with hm | ⟨rfl, rfl, rfl⟩
    · rw [hc.awaits] at hm
      exact .inl hm
    · refine .inr ⟨rfl, ?_, isRunning_owner h (by simpa using hr), ?_, ?_, ?_⟩
      · exact congrArg Prod.fst hx
      · rw [answered_phase]
        exact hc.begun rfl
      · intro g g' ht he
        obtain ⟨c, hctx, rfl⟩ := taskContext_generation (s := s) ht
        rw [hd, answered_phase]
        exact (hc.tracked rfl g' c he hctx).imp (hc.phase m').retired id
      · intro r r' ht he
        obtain ⟨c, hctx, rfl⟩ := taskContext_runtime (s := s) ht
        rw [hd']
        exact hc.trackedDestination rfl r' c he hctx
  · intro m' answer' hm
    rw [answered_answers, hc.answers, List.mem_cons] at hm
    rcases hm with hm | hm
    · cases hm
      exact .inr (hc.outside rfl)
    · exact .inl hm

theorem step_stepped {e : NetworkEvent ι κ} (h : Accounts cfg s)
    (he : Network.step cfg s e = some s') : Stepped cfg s e s' := by
  cases e with
  | openLane caller g lane =>
      simp only [Network.step] at he
      split at he <;> cases he
      have hp : PhaseMove (s.generation g).state
          ((s.generation g).openLane (cfg.generation g) lane).state :=
        phase_of_step (e := .openLane lane) (h.accounted g).retiring rfl
      exact stepped_of_phase (phase_setGeneration hp) rfl rfl rfl rfl
  | retire caller m =>
      simp only [Network.step] at he
      split at he
      · rename_i hr
        cases he
        exact stepped_retire h hr rfl
      · cases he
  | generation g e =>
      simp only [Network.step] at he
      split at he
      · obtain ⟨x, hx, rfl⟩ := Option.map_eq_some_iff.mp he
        have hp := phase_of_step (h.accounted g).retiring hx
        exact stepped_of_phase (phase_setGeneration hp) rfl rfl rfl rfl
      · cases he
  | callRepository r =>
      simp only [Network.step] at he
      split at he
      · rename_i hr
        cases he
        apply stepped_setRuntime
        rw [hr]
        exact .same _
      · cases he
  | callGeneration r =>
      simp only [Network.step] at he
      split at he
      · cases he
      · rename_i phase _ hr
        cases he
        have hc := retireGeneration_called (s := s) (s.taskContext (.repository r))
          (h.accounted (cfg.generationOf r)).retiring
        have hp : PhaseMove ((s.retireGeneration cfg (s.taskContext (.repository r))
            (cfg.generationOf r)).2.runtime r).state .retiring := by
          rw [retireGeneration_runtime, hr]
          exact .same _
        constructor
        · intro m
          have h1 := hc.phase m
          cases m with
          | generation g => exact h1
          | runtime r' =>
              have h2 : (s.retireGeneration cfg (s.taskContext (.repository r))
                  (cfg.generationOf r)).2.phase (.runtime r') = s.phase (.runtime r') := by
                simp only [Network.phase, retireGeneration_runtime]
              rw [← h2]
              exact phase_setRuntime hp (.runtime r')
        · exact hc.acyclic
        · exact hc.acyclicDestination
        · exact fun g g' _ _ => hc.grows g g'
        · exact fun r r' _ _ => hc.growsDestination r r'
        · exact fun t m hm => .inl (hc.awaits ▸ hm)
        · exact fun m answer hm => .inl (hc.answers ▸ hm)
      · cases he
  | settleRepository r outcome =>
      simp only [Network.step] at he
      split at he
      · rename_i hr
        split at he <;> cases he
        apply stepped_setRuntime
        rw [hr]
        exact .same _
      · cases he
  | throwRepository r =>
      simp only [Network.step] at he
      split at he
      · rename_i hr
        split at he <;> cases he
        apply stepped_setRuntime
        rw [hr]
        exact .settled
      · cases he
  | finishRuntime r =>
      simp only [Network.step] at he
      split at he
      · rename_i hr
        split at he <;> cases he
        apply stepped_setRuntime
        rw [hr]
        exact .settled
      · cases he
  | untrack owner target =>
      simp only [Network.step] at he
      split at he
      · rename_i hs
        cases he
        rw [Bool.or_eq_true, settled, settled, decide_eq_true_eq, decide_eq_true_eq] at hs
        constructor
        · exact fun _ => .same _
        · exact fun h => h.mono fun x y hm => (List.mem_filter.mp hm).1
        · exact fun h => h
        · exact fun g g' hg hg' hd =>
            edge_of_untrack (fun g => s.phase (.generation g)) hs hg hg' hd
        · exact fun _ _ _ _ hd => hd
        · exact fun _ _ hm => .inl hm
        · exact fun _ _ hm => .inl hm
      · cases he
  | untrackDestination owner target =>
      simp only [Network.step] at he
      split at he
      · rename_i hs
        cases he
        rw [Bool.or_eq_true, settled, settled, decide_eq_true_eq, decide_eq_true_eq] at hs
        constructor
        · exact fun _ => .same _
        · exact fun h => h
        · exact fun h => h.mono fun x y hm => (List.mem_filter.mp hm).1
        · exact fun _ _ _ _ hd => hd
        · exact fun r r' hr hr' hd =>
            edge_of_untrack (fun r => s.phase (.runtime r)) hs hr hr' hd
        · exact fun _ _ hm => .inl hm
        · exact fun _ _ hm => .inl hm
      · cases he

end Steps

/-- What is awaited has begun to retire, and awaiting a member of the same kind is tracked. -/
structure Tracked (s : Network ι κ) : Prop where
  acyclic : Acyclic (Edge s.retirementDependencies)
  acyclicDestination : Acyclic (Edge s.destinationRetirementDependencies)
  owner : ∀ t m, m ∈ s.awaits t → s.phase (Task.owner t) ≠ .active
  begun : ∀ t m, m ∈ s.awaits t → s.phase m ≠ .active
  generations : ∀ t g g', Task.owner t = .generation g → .generation g' ∈ s.awaits t →
    s.phase (.generation g) = .retiring → s.phase (.generation g') = .retiring →
    Edge s.retirementDependencies g g'
  runtimes : ∀ t r r', Task.owner t = .runtime r → .runtime r' ∈ s.awaits t →
    s.phase (.runtime r) = .retiring → s.phase (.runtime r') = .retiring →
    Edge s.destinationRetirementDependencies r r'
  outside : ∀ m answer, (none, m, answer) ∈ s.answers → answer = .promise

theorem acyclic_nil {α : Type} : Acyclic (Edge ([] : List (α × α))) := by
  intro x hx
  obtain ⟨y, hy, -⟩ := Relation.TransGen.head'_iff.mp hx
  exact List.not_mem_nil hy

theorem Tracked.initial : Tracked (initial : Network ι κ) where
  acyclic := acyclic_nil
  acyclicDestination := acyclic_nil
  owner _ _ hm := (List.not_mem_nil hm).elim
  begun _ _ hm := (List.not_mem_nil hm).elim
  generations _ _ _ _ hm := (List.not_mem_nil hm).elim
  runtimes _ _ _ _ hm := (List.not_mem_nil hm).elim
  outside _ _ hm := (List.not_mem_nil hm).elim

theorem Stepped.tracked {e : NetworkEvent ι κ} (hs : Stepped cfg s e s') (h : Tracked s) :
    Tracked s' where
  acyclic := hs.acyclic h.acyclic
  acyclicDestination := hs.acyclicDestination h.acyclicDestination
  owner := by
    intro t m hm
    apply (hs.phase _).ne_active
    rcases hs.awaits t m hm with hm | hn
    · exact h.owner t m hm
    · rw [hn.owner]
      exact nofun
  begun := by
    intro t m hm
    rcases hs.awaits t m hm with hm | hn
    · exact (hs.phase _).ne_active (h.begun t m hm)
    · exact hn.begun
  generations := by
    intro t g g' ht hm hg hg'
    rcases hs.awaits t _ hm with hm | hn
    · have hown := h.owner t _ hm
      rw [ht] at hown
      exact hs.edge g g' hg hg' (h.generations t g g' ht hm ((hs.phase _).retiring hown hg)
        ((hs.phase _).retiring (h.begun t _ hm) hg'))
    · rcases hn.generations g g' ht rfl with hr | hd
      · exact absurd (hr.symm.trans hg') nofun
      · exact hd
  runtimes := by
    intro t r r' ht hm hr hr'
    rcases hs.awaits t _ hm with hm | hn
    · have hown := h.owner t _ hm
      rw [ht] at hown
      exact hs.edgeDestination r r' hr hr' (h.runtimes t r r' ht hm
        ((hs.phase _).retiring hown hr) ((hs.phase _).retiring (h.begun t _ hm) hr'))
    · exact hn.runtimes r r' ht rfl
  outside := by
    intro m answer hm
    rcases hs.answers m answer hm with hm | ha
    · exact h.outside m answer hm
    · exact ha

end Network
end OpenRfc.Destination
