import OpenRfc.Foundation.Machine
import OpenRfc.Foundation.History

/-!
One configuration generation of a destination: two lanes of connections, opened by factories
outside of it, and a retirement which drains both. Every promise of a factory settles at a
label of its own, and so does the continuation behind it where it reads the state again.
-/

namespace OpenRfc.Destination

inductive Lane
  | application
  | repository
deriving DecidableEq, Repr

/-- A value with which a promise is rejected. -/
inductive Reason
  /-- A value of the factory. -/
  | foreign (value : Nat)
  | error (message : String)
  /-- A `DestinationLateOpenDisposalError`, of this generation or of another one. -/
  | lateOpenDisposal (message : String) (cause : Reason)
  | aggregate (failures : List Reason) (message : String)

def Reason.isLateOpenDisposal : Reason → Bool
  | .lateOpenDisposal _ _ => true
  | _ => false

structure LaneMonitor where
  attempts : Nat
  succeeded : Nat
  failed : Nat
  inFlight : Nat
deriving DecidableEq, Repr

def emptyLaneMonitor : LaneMonitor := ⟨0, 0, 0, 0⟩

/-- What the constructor has been given, as far as the lanes depend on it. -/
structure Settings where
  generationId : String
  /-- The factory of the lane has a `retire` operation. -/
  hooked : Lane → Bool

inductive GenerationState
  | active
  | retiring
  | retired
deriving DecidableEq, Repr

/-- How far the promise of an open is. -/
inductive OpenPhase
  /-- It was rejected at once: the generation was not active. -/
  | refused
  /-- The microtask which calls the factory has not run. -/
  | queued
  | opening
  /-- The factory has delivered a connection; the continuation has not run. -/
  | delivered (connection : Nat)
  | succeeded (connection : Nat)
  | rejected (reason : Reason)
  /-- The late connection has been handed to the factory. -/
  | disposing (connection : Nat)
  | disposed (connection : Nat) (outcome : Except Reason Unit)

structure Open where
  lane : Lane
  phase : OpenPhase

inductive HookPhase
  | waiting
  | running
  | settled (outcome : Except Reason Unit)

structure Retirement where
  /-- The opens in flight when the retirement began. -/
  admittedOpenDrain : List Nat
  hooks : Lane → Option HookPhase
  /-- How the promise has settled. -/
  outcome : Option (Except Reason Unit)

inductive Observation
  /-- An open was requested, and is in flight. -/
  | admitted (i : Nat) (lane : Lane)
  /-- An open was requested, and its promise rejected at once. -/
  | refused (i : Nat) (lane : Lane)
  | factoryOpen (i : Nat)
  | delivered (i : Nat) (connection : Nat)
  | factoryDispose (i : Nat) (connection : Nat)
  | disposalSettled (i : Nat) (outcome : Except Reason Unit)
  /-- The promise of an open was fulfilled. -/
  | fulfilled (i : Nat) (connection : Nat)
  | rejected (i : Nat) (reason : Reason)
  | retireCalled
  | hookCalled (lane : Lane)
  | hookSettled (lane : Lane) (outcome : Except Reason Unit)
  | retired (outcome : Except Reason Unit)

structure DestinationConfigurationGeneration where
  state : GenerationState
  monitor : Lane → LaneMonitor
  opens : List Open
  inFlightOpens : List Nat
  retirement : Option Retirement
  trace : List Observation

inductive Event
  | openLane (lane : Lane)
  /-- The microtask which calls `factory.open`. -/
  | callFactory (i : Nat)
  | deliver (i : Nat) (connection : Nat)
  /-- `factory.open` throws, or its promise is rejected. -/
  | reject (i : Nat) (reason : Reason)
  /-- The continuation after `await factory.open()`. -/
  | resume (i : Nat)
  | settleDisposal (i : Nat) (outcome : Except Reason Unit)
  | retire
  | callHook (lane : Lane)
  | settleHook (lane : Lane) (outcome : Except Reason Unit)
  /-- The continuation of the retirement after the hooks and the drain. -/
  | finish

def retiredMessage (cfg : Settings) : String :=
  s!"destination generation {cfg.generationId} is retired"

def retiredWhileOpeningMessage (cfg : Settings) : String :=
  s!"destination generation {cfg.generationId} retired while opening"

def lateOpenDisposalMessage (cfg : Settings) : String :=
  s!"destination generation {cfg.generationId} could not dispose a late-opened connection"

def retirementFailedMessage (cfg : Settings) : String :=
  s!"destination generation {cfg.generationId} retirement failed"

/-- What an open is rejected with whose late connection has been disposed of. -/
def disposalReason (cfg : Settings) : Except Reason Unit → Reason
  | .ok () => .error (retiredWhileOpeningMessage cfg)
  | .error cause => .lateOpenDisposal (lateOpenDisposalMessage cfg) cause

def OpenPhase.isPending : OpenPhase → Bool
  | .queued | .opening | .delivered _ | .disposing _ => true
  | _ => false

/-- What the promise of an open has been rejected with. -/
def OpenPhase.rejection (cfg : Settings) : OpenPhase → Option Reason
  | .refused => some (.error (retiredMessage cfg))
  | .rejected reason => some reason
  | .disposed _ outcome => some (disposalReason cfg outcome)
  | _ => none

def HookPhase.failure : HookPhase → Option Reason
  | .settled (.error reason) => some reason
  | _ => none

def HookPhase.isSettled : HookPhase → Bool
  | .settled _ => true
  | _ => false

namespace DestinationConfigurationGeneration

def initial : DestinationConfigurationGeneration where
  state := .active
  monitor := fun _ => emptyLaneMonitor
  opens := []
  inFlightOpens := []
  retirement := none
  trace := []

def observe (s : DestinationConfigurationGeneration) (o : Observation) :
    DestinationConfigurationGeneration :=
  { s with trace := o :: s.trace }

def count (s : DestinationConfigurationGeneration) (lane : Lane)
    (f : LaneMonitor → LaneMonitor) : DestinationConfigurationGeneration :=
  { s with monitor := fun l => if l = lane then f (s.monitor l) else s.monitor l }

def setPhase (s : DestinationConfigurationGeneration) (i : Nat) (x : Open) (phase : OpenPhase) :
    DestinationConfigurationGeneration :=
  { s with opens := s.opens.set i { x with phase } }

def openLane (cfg : Settings) (s : DestinationConfigurationGeneration) (lane : Lane) :
    DestinationConfigurationGeneration :=
  let i := s.opens.length
  if s.state ≠ .active then
    let s := { s with opens := s.opens ++ [Open.mk lane .refused] }
    (s.observe (.refused i lane)).observe (.rejected i (.error (retiredMessage cfg)))
  else
    let s := s.count lane
      fun m => { m with attempts := m.attempts + 1, inFlight := m.inFlight + 1 }
    let s := { s with
      opens := s.opens ++ [Open.mk lane .queued]
      inFlightOpens := s.inFlightOpens ++ [i] }
    s.observe (.admitted i lane)

/-- The `finally` block of an open. -/
def leave (s : DestinationConfigurationGeneration) (i : Nat) (x : Open) :
    DestinationConfigurationGeneration :=
  let s := s.count x.lane fun m => { m with inFlight := m.inFlight - 1 }
  { s with inFlightOpens := s.inFlightOpens.filter fun j => j ≠ i }

/-- The promise of an open is rejected. -/
def fail (s : DestinationConfigurationGeneration) (i : Nat) (x : Open) (phase : OpenPhase)
    (reason : Reason) : DestinationConfigurationGeneration :=
  let s := (s.setPhase i x phase).count x.lane fun m => { m with failed := m.failed + 1 }
  (s.leave i x).observe (.rejected i reason)

def resume (s : DestinationConfigurationGeneration) (i : Nat) (x : Open) (connection : Nat) :
    DestinationConfigurationGeneration :=
  if s.state ≠ .active then
    (s.setPhase i x (.disposing connection)).observe (.factoryDispose i connection)
  else
    let s := (s.setPhase i x (.succeeded connection)).count x.lane
      fun m => { m with succeeded := m.succeeded + 1 }
    (s.leave i x).observe (.fulfilled i connection)

def retire (cfg : Settings) (s : DestinationConfigurationGeneration) :
    DestinationConfigurationGeneration :=
  match s.retirement with
  | some _ => s.observe .retireCalled
  | none =>
    let retirement : Retirement := {
      admittedOpenDrain := s.inFlightOpens
      hooks := fun lane => if cfg.hooked lane then some .waiting else none
      outcome := none }
    { s with state := .retiring, retirement := some retirement }.observe .retireCalled

def setHook (s : DestinationConfigurationGeneration) (r : Retirement) (lane : Lane)
    (phase : HookPhase) : DestinationConfigurationGeneration :=
  let r := { r with hooks := fun l => if l = lane then some phase else r.hooks l }
  { s with retirement := some r }

/-- The promise of an open which the retirement waits for has settled. -/
def hasSettled (s : DestinationConfigurationGeneration) (i : Nat) : Bool :=
  (s.opens[i]?).any fun x => !x.phase.isPending

/-- The failure of an open which the retirement reports. -/
def drainFailure (cfg : Settings) (s : DestinationConfigurationGeneration) (i : Nat) :
    Option Reason :=
  ((s.opens[i]?).bind fun x => x.phase.rejection cfg).filter Reason.isLateOpenDisposal

def failures (cfg : Settings) (s : DestinationConfigurationGeneration) (r : Retirement) :
    List Reason :=
  [Lane.application, Lane.repository].filterMap (fun lane => (r.hooks lane).bind HookPhase.failure)
    ++ r.admittedOpenDrain.filterMap (s.drainFailure cfg)

/-- The hooks and the drain of the retirement have settled. -/
def drained (s : DestinationConfigurationGeneration) (r : Retirement) : Bool :=
  [Lane.application, Lane.repository].all (fun lane => (r.hooks lane).all HookPhase.isSettled) &&
    r.admittedOpenDrain.all s.hasSettled

/-- How the promise of a retirement settles. -/
def retirementOutcome (cfg : Settings) (failures : List Reason) : Except Reason Unit :=
  if failures.length > 0 then .error (.aggregate failures (retirementFailedMessage cfg))
  else .ok ()

def finish (cfg : Settings) (s : DestinationConfigurationGeneration) (r : Retirement) :
    DestinationConfigurationGeneration :=
  let outcome := retirementOutcome cfg (s.failures cfg r)
  { s with state := .retired, retirement := some { r with outcome := some outcome } }.observe
    (.retired outcome)

def step (cfg : Settings) (s : DestinationConfigurationGeneration) :
    Event → Option DestinationConfigurationGeneration
  | .openLane lane => some (s.openLane cfg lane)
  | .callFactory i =>
    match s.opens[i]? with
    | some ⟨lane, .queued⟩ =>
      some ((s.setPhase i ⟨lane, .queued⟩ .opening).observe (.factoryOpen i))
    | _ => none
  | .deliver i connection =>
    match s.opens[i]? with
    | some ⟨lane, .opening⟩ =>
      some ((s.setPhase i ⟨lane, .opening⟩ (.delivered connection)).observe
        (.delivered i connection))
    | _ => none
  | .reject i reason =>
    match s.opens[i]? with
    | some ⟨lane, .opening⟩ => some (s.fail i ⟨lane, .opening⟩ (.rejected reason) reason)
    | _ => none
  | .resume i =>
    match s.opens[i]? with
    | some ⟨lane, .delivered connection⟩ =>
      some (s.resume i ⟨lane, .delivered connection⟩ connection)
    | _ => none
  | .settleDisposal i outcome =>
    match s.opens[i]? with
    | some ⟨lane, .disposing connection⟩ =>
      some ((s.observe (.disposalSettled i outcome)).fail i ⟨lane, .disposing connection⟩
        (.disposed connection outcome) (disposalReason cfg outcome))
    | _ => none
  | .retire => some (s.retire cfg)
  | .callHook lane =>
    match s.retirement with
    | some r =>
      match r.hooks lane with
      | some .waiting => some ((s.setHook r lane .running).observe (.hookCalled lane))
      | _ => none
    | none => none
  | .settleHook lane outcome =>
    match s.retirement with
    | some r =>
      match r.hooks lane with
      | some .running =>
        some ((s.setHook r lane (.settled outcome)).observe (.hookSettled lane outcome))
      | _ => none
    | none => none
  | .finish =>
    match s.retirement with
    | some r => if r.outcome.isNone && s.drained r then some (s.finish cfg r) else none
    | none => none

end DestinationConfigurationGeneration

def generation (cfg : Settings) : Machine DestinationConfigurationGeneration Event :=
  ⟨.initial, DestinationConfigurationGeneration.step cfg⟩

/-!
What a step of a generation can do. The observations about an open are, at every moment, the
story of the phase it is in: a step which moves an open on adds to both.
-/

def Observation.about (i : Nat) : Observation → Bool
  | .admitted j _ | .refused j _ | .factoryOpen j | .delivered j _ | .factoryDispose j _
  | .disposalSettled j _ | .fulfilled j _ | .rejected j _ => j = i
  | _ => false

/-- What has been observed of an open in the phase, newest first. -/
def OpenPhase.story (cfg : Settings) (i : Nat) (lane : Lane) : OpenPhase → List Observation
  | .refused => [.rejected i (.error (retiredMessage cfg)), .refused i lane]
  | .queued => [.admitted i lane]
  | .opening => [.factoryOpen i, .admitted i lane]
  | .delivered c => [.delivered i c, .factoryOpen i, .admitted i lane]
  | .succeeded c => [.fulfilled i c, .delivered i c, .factoryOpen i, .admitted i lane]
  | .rejected reason => [.rejected i reason, .factoryOpen i, .admitted i lane]
  | .disposing c => [.factoryDispose i c, .delivered i c, .factoryOpen i, .admitted i lane]
  | .disposed c outcome =>
    [.rejected i (disposalReason cfg outcome), .disposalSettled i outcome, .factoryDispose i c,
      .delivered i c, .factoryOpen i, .admitted i lane]

/-- The next phases of an open whose promise stays pending. -/
inductive Advances (s : DestinationConfigurationGeneration) (i : Nat) :
    OpenPhase → OpenPhase → Observation → Prop
  | called : Advances s i .queued .opening (.factoryOpen i)
  | delivered (c : Nat) : Advances s i .opening (.delivered c) (.delivered i c)
  | disposing (c : Nat) (h : s.state ≠ .active) :
      Advances s i (.delivered c) (.disposing c) (.factoryDispose i c)

/-- The last phases of an open whose promise is rejected. -/
inductive Fails (cfg : Settings) (i : Nat) :
    OpenPhase → OpenPhase → List Observation → Prop
  | rejected (reason : Reason) :
      Fails cfg i .opening (.rejected reason) [.rejected i reason]
  | disposed (c : Nat) (outcome : Except Reason Unit) :
      Fails cfg i (.disposing c) (.disposed c outcome)
        [.rejected i (disposalReason cfg outcome), .disposalSettled i outcome]

theorem Advances.story {cfg : Settings} {s : DestinationConfigurationGeneration} {i : Nat} {phase phase' : OpenPhase} {o : Observation}
    (h : Advances s i phase phase' o) (lane : Lane) :
    phase'.story cfg i lane = o :: phase.story cfg i lane := by
  cases h <;> rfl

theorem Fails.story {cfg : Settings} {i : Nat} {phase phase' : OpenPhase} {new : List Observation}
    (h : Fails cfg i phase phase' new) (lane : Lane) :
    phase'.story cfg i lane = new ++ phase.story cfg i lane := by
  cases h <;> rfl

theorem Advances.pending {s : DestinationConfigurationGeneration} {i : Nat}
    {phase phase' : OpenPhase} {o : Observation} (h : Advances s i phase phase' o) :
    phase.isPending = true ∧ phase'.isPending = true := by
  cases h <;> exact ⟨rfl, rfl⟩

theorem Fails.pending {cfg : Settings} {i : Nat} {phase phase' : OpenPhase}
    {new : List Observation} (h : Fails cfg i phase phase' new) :
    phase.isPending = true ∧ phase'.isPending = false := by
  cases h <;> exact ⟨rfl, rfl⟩

theorem about_story {cfg : Settings} {i j : Nat} {lane : Lane} {phase : OpenPhase} :
    ∀ o ∈ phase.story cfg i lane, o.about j = decide (i = j) := by
  intro o ho
  cases phase <;> simp only [OpenPhase.story, List.mem_cons, List.not_mem_nil, or_false] at ho <;>
    rcases ho with rfl | rfl | rfl | rfl | rfl | rfl <;> rfl

/-- The next phase of a retirement hook. -/
inductive HookMove (lane : Lane) : HookPhase → HookPhase → Observation → Prop
  | called : HookMove lane .waiting .running (.hookCalled lane)
  | settled (outcome : Except Reason Unit) :
      HookMove lane .running (.settled outcome) (.hookSettled lane outcome)

namespace DestinationConfigurationGeneration

/-- The state after an open has left: its lane, the set of opens in flight and the trace. -/
def settled (s : DestinationConfigurationGeneration) (i : Nat) (x : Open) (phase : OpenPhase)
    (f : LaneMonitor → LaneMonitor) (new : List Observation) :
    DestinationConfigurationGeneration :=
  let s := ((s.setPhase i x phase).count x.lane f).leave i x
  { s with trace := new ++ s.trace }

inductive Move (cfg : Settings) (s : DestinationConfigurationGeneration) :
    DestinationConfigurationGeneration → Prop
  | admitted (lane : Lane) (h : s.state = .active) : Move cfg s (s.openLane cfg lane)
  | refused (lane : Lane) (h : s.state ≠ .active) : Move cfg s (s.openLane cfg lane)
  | advanced (i : Nat) (x : Open) (phase : OpenPhase) (o : Observation)
      (hx : s.opens[i]? = some x) (h : Advances s i x.phase phase o) :
      Move cfg s ((s.setPhase i x phase).observe o)
  | succeeded (i : Nat) (x : Open) (c : Nat) (hx : s.opens[i]? = some x)
      (hp : x.phase = .delivered c) (h : s.state = .active) :
      Move cfg s (s.settled i x (.succeeded c) (fun m => { m with succeeded := m.succeeded + 1 })
        [.fulfilled i c])
  | failed (i : Nat) (x : Open) (phase : OpenPhase) (new : List Observation)
      (hx : s.opens[i]? = some x) (h : Fails cfg i x.phase phase new) :
      Move cfg s (s.settled i x phase (fun m => { m with failed := m.failed + 1 }) new)
  | retireAgain (h : s.retirement ≠ none) : Move cfg s (s.observe .retireCalled)
  | retired (h : s.retirement = none) : Move cfg s (s.retire cfg)
  | hook (r : Retirement) (lane : Lane) (phase phase' : HookPhase) (o : Observation)
      (hr : s.retirement = some r) (hp : r.hooks lane = some phase)
      (h : HookMove lane phase phase' o) : Move cfg s ((s.setHook r lane phase').observe o)
  | finished (r : Retirement) (hr : s.retirement = some r) (ho : r.outcome = none)
      (hd : s.drained r = true) : Move cfg s (s.finish cfg r)

variable {cfg : Settings} {s s' : DestinationConfigurationGeneration}

theorem step_move {e : Event} (h : step cfg s e = some s') : Move cfg s s' := by
  cases e with
  | openLane lane =>
      cases h
      by_cases hs : s.state = .active
      · exact .admitted lane hs
      · exact .refused lane hs
  | callFactory i =>
      simp only [step] at h
      split at h
      · rename_i lane hx
        cases h
        exact .advanced i _ _ _ hx .called
      · cases h
  | deliver i c =>
      simp only [step] at h
      split at h
      · rename_i lane hx
        cases h
        exact .advanced i _ _ _ hx (.delivered c)
      · cases h
  | reject i reason =>
      simp only [step] at h
      split at h
      · rename_i lane hx
        cases h
        exact .failed i _ _ _ hx (.rejected reason)
      · cases h
  | resume i =>
      simp only [step] at h
      split at h
      · rename_i lane c hx
        cases h
        unfold resume
        split
        · rename_i hs
          exact .advanced i _ _ _ hx (.disposing c hs)
        · rename_i hs
          exact .succeeded i _ c hx rfl (not_not.mp hs)
      · cases h
  | settleDisposal i outcome =>
      simp only [step] at h
      split at h
      · rename_i lane c hx
        cases h
        exact .failed i _ _ _ hx (.disposed c outcome)
      · cases h
  | retire =>
      cases h
      cases hr : s.retirement with
      | none => exact .retired hr
      | some r =>
          have ha : s.retire cfg = s.observe .retireCalled := by
            simp only [DestinationConfigurationGeneration.retire, hr]
          rw [ha]
          exact .retireAgain (by simp [hr])
  | callHook lane =>
      simp only [step] at h
      split at h
      · rename_i r hr
        split at h
        · rename_i hp
          cases h
          exact .hook r lane _ _ _ hr hp .called
        · cases h
      · cases h
  | settleHook lane outcome =>
      simp only [step] at h
      split at h
      · rename_i r hr
        split at h
        · rename_i hp
          cases h
          exact .hook r lane _ _ _ hr hp (.settled outcome)
        · cases h
      · cases h
  | finish =>
      simp only [step] at h
      split at h
      · rename_i r hr
        split at h
        · rename_i hd
          cases h
          rw [Bool.and_eq_true, Option.isNone_iff_eq_none] at hd
          exact .finished r hr hd.1 hd.2
        · cases h
      · cases h

/-- The observations about every open are the story of its phase. -/
def Told (cfg : Settings) (s : DestinationConfigurationGeneration) : Prop :=
  ∀ i, s.trace.filter (Observation.about i) =
    (s.opens[i]?).elim [] fun x => x.phase.story cfg i x.lane

end DestinationConfigurationGeneration
end OpenRfc.Destination
