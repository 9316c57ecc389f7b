import Mathlib.Algebra.Order.Ring.Rat

/-!
The bounded wait which the transaction runtime and the session-context runtime share:
one call of `#bounded`, from its first clock read to the settlement of the promise it
returns. Every call of the clock, the scheduler or the adapter is caller code which may
re-enter the runtime, so each of them is a phase of its own: the call is on the stack
until the event which ends it.
-/

namespace OpenRfc.Lifecycle

/-- Clock readings and delays, in milliseconds. -/
abbrev Time := ℚ

def maxEarlyTimerRearms : Nat := 64

/-- What a scheduler's `now` does. A reading which is not finite, or which makes the
deadline infinite, fails with the error the runtime throws for it. -/
inductive Reading (ε : Type)
  | value (t : Time)
  | failed (e : ε)

/-- `#readClock`: the readings of one runtime never decrease. -/
def readClock {ε : Type} (last : Time) (notMonotonic : ε) : Reading ε → Except ε Time
  | .value t => if t < last then .error notMonotonic else .ok t
  | .failed e => .error e

inductive Phase
  /-- The adapter call which precedes the wait is on the stack. -/
  | handing
  /-- The clock is read for the deadline. -/
  | deadline
  /-- The clock is read for the first timer. -/
  | arming
  /-- The first timer is being scheduled. -/
  | scheduling
  /-- The adapter call which the wait bounds is on the stack. -/
  | calling
  /-- The promise of that call is pending, or its reaction is queued. -/
  | waiting
  /-- The wait has ended, and so has every call it made. -/
  | over
deriving DecidableEq, Repr

/-- One call of `#bounded`. `result` is what its promise is settled with: the source's
`active` is true as long as there is none. -/
structure Bounded (ν ε : Type) where
  phase : Phase
  /-- Its controller is aborted when the runtime is closed. -/
  closable : Bool
  /-- The adapter call, once it has been made; calls are numbered from one. -/
  work : Nat
  /-- How the promise of the adapter call has settled. -/
  raw : Option (Except ε ν)
  aborted : Option ε
  deadline : Time
  remaining : Time
  timerGeneration : Nat
  earlyRearms : Nat
  /-- The microtask which rearms the timer is queued. -/
  rearming : Bool
  result : Option (Except ε ν)

namespace Bounded
variable {ν ε : Type}

def start (closable : Bool) : Bounded ν ε where
  phase := .deadline
  closable := closable
  work := 0
  raw := none
  aborted := none
  deadline := 0
  remaining := 0
  timerGeneration := 0
  earlyRearms := 0
  rearming := false
  result := none

/-- A wait for the promise of an adapter call which is made first. -/
def hand : Bounded ν ε := { (start false : Bounded ν ε) with phase := .handing }

def active (b : Bounded ν ε) : Bool := b.result.isNone

/-- `finish`. A call which is on the stack stays there. -/
def finish (b : Bounded ν ε) (r : Except ε ν) : Bounded ν ε :=
  match b.result with
  | some _ => b
  | none =>
      { b with
        phase := if b.phase = .scheduling ∨ b.phase = .calling then b.phase else .over
        timerGeneration := b.timerGeneration + 1
        result := some r }

/-- The adapter call which precedes the wait returns its promise, or throws. -/
def handed (b : Bounded ν ε) : Option ε → Bounded ν ε
  | none => { b with phase := .deadline }
  | some e => b.finish (.error e)

def readDeadline (b : Bounded ν ε) (timeout : Time) : Except ε Time → Bounded ν ε
  | .ok t => { b with phase := .arming, deadline := t + timeout }
  | .error e => b.finish (.error e)

/-- The clock read of `arm`. -/
def arm (b : Bounded ν ε) : Except ε Time → Bounded ν ε
  | .ok t =>
      { b with
        phase := .scheduling
        remaining := max 0 (b.deadline - t)
        timerGeneration := b.timerGeneration + 1 }
  | .error e => b.finish (.error e)

/-- The scheduler returns a task, or throws. The wait goes on to `next` unless it has
ended meanwhile; a wait which obeys its abort signal does not go on once aborted. -/
def scheduled (b : Bounded ν ε) (obeysAbort : Bool) (next : Phase) (thrown : Option ε) :
    Bounded ν ε :=
  match b.result, thrown, b.aborted, obeysAbort with
  | some _, _, _, _ => { b with phase := .over }
  | none, some e, _, _ | none, none, some e, true =>
      { b.finish (.error e) with phase := .over }
  | none, none, _, _ => { b with phase := next }

/-- The adapter call returns its promise, or throws. -/
def returned (b : Bounded ν ε) (thrown : Option ε) : Bounded ν ε :=
  match b.result, thrown with
  | some _, _ => { b with phase := .over }
  | none, some e => { b.finish (.error e) with phase := .over }
  | none, none => { b with phase := .waiting }

/-- Whether the callback of the timer of a generation still acts on the wait. -/
def ticks (b : Bounded ν ε) (generation : Nat) : Bool :=
  b.active && !b.rearming && b.timerGeneration == generation &&
    (b.phase == .scheduling || b.phase == .calling || b.phase == .waiting)

/-- The timer callback. -/
def fire (b : Bounded ν ε) (expired early : ε) : Except ε Time → Bounded ν ε
  | .error e => b.finish (.error e)
  | .ok t =>
      if b.deadline - t ≤ 0 then b.finish (.error expired)
      else if b.remaining ≤ b.deadline - t ∨ maxEarlyTimerRearms < b.earlyRearms + 1 then
        b.finish (.error early)
      else
        { b with
          earlyRearms := b.earlyRearms + 1
          timerGeneration := b.timerGeneration + 1
          rearming := true }

/-- The microtask which rearms the timer acts on the wait. -/
def rearms (b : Bounded ν ε) : Bool := b.active && b.rearming && b.phase == .waiting

def rearm (b : Bounded ν ε) (thrown : Option ε) : Except ε Time → Bounded ν ε
  | .error e => b.finish (.error e)
  | .ok t =>
      let b := { b with
        rearming := false
        remaining := max 0 (b.deadline - t)
        timerGeneration := b.timerGeneration + 1 }
      match thrown with
      | none => b
      | some e => b.finish (.error e)

def abort (b : Bounded ν ε) (reason : ε) : Bounded ν ε :=
  if b.closable && b.active && b.aborted.isNone then { b with aborted := some reason } else b

end Bounded

/-- The adapter call has not been reached yet. -/
def Phase.setup : Phase → Bool
  | .handing | .deadline | .arming | .scheduling => true
  | .calling | .waiting | .over => false

namespace Bounded
variable {ν ε : Type} {b b' b'' : Bounded ν ε}

/-- The wait will go on to its adapter call. -/
def Unmade (b : Bounded ν ε) : Prop :=
  b.phase.setup = true ∧ b.result = none ∧ b.aborted = none

/-- The adapter call has been made, and not been answered. -/
def Made (b : Bounded ν ε) : Prop := b.phase = .calling ∨ b.phase = .waiting

/-- The promise of the adapter call, or of the wait, has been fulfilled with a value. -/
def Fulfilled (b : Bounded ν ε) (v : ν) : Prop :=
  b.raw = some (.ok v) ∨ b.result = some (.ok v)

/-- A wait goes on or ends, and its adapter call is neither made nor answered. -/
structure Passive (b b' : Bounded ν ε) : Prop where
  closable : b'.closable = b.closable
  work : b'.work = b.work
  setup : b'.phase.setup = true → b.phase.setup = true
  unmade : b'.Unmade → b.Unmade
  made : b'.Made → b.Made
  fulfilled : ∀ v, b'.Fulfilled v → b.Fulfilled v

theorem Passive.refl (b : Bounded ν ε) : Passive b b := ⟨rfl, rfl, id, id, id, fun _ => id⟩

theorem Passive.trans (h : Passive b b') (h' : Passive b' b'') : Passive b b'' :=
  ⟨h'.closable.trans h.closable, h'.work.trans h.work, h.setup ∘ h'.setup, h.unmade ∘ h'.unmade,
    h.made ∘ h'.made, fun v => h.fulfilled v ∘ h'.fulfilled v⟩

/-- A wait which keeps its promises, and reaches no adapter call. -/
theorem Passive.move (hc : b'.closable = b.closable) (hw : b'.work = b.work)
    (hraw : b'.raw = b.raw) (hr : b'.result = b.result) (ha : b'.aborted = b.aborted)
    (hs : b'.phase.setup = true → b.phase.setup = true) (hm : b'.Made → b.Made) :
    Passive b b' := by
  refine ⟨hc, hw, hs, fun hu => ⟨hs hu.1, ?_⟩, hm, fun v hv => ?_⟩
  · rw [← hr, ← ha]
    exact hu.2
  · rw [Fulfilled, ← hraw, ← hr]
    exact hv

theorem Passive.over (b : Bounded ν ε) : Passive b { b with phase := .over } :=
  .move rfl rfl rfl rfl rfl (by simp [Phase.setup]) (by simp [Made])

theorem Passive.finish (e : ε) : Passive b (b.finish (.error e)) := by
  unfold Bounded.finish
  split
  · exact .refl b
  · rename_i hr
    have kept : ∀ p, (if b.phase = .scheduling ∨ b.phase = .calling then b.phase else .over) = p →
        p ≠ .over → b.phase = p := by
      intro p hp ho
      split at hp
      · exact hp
      · exact absurd hp.symm ho
    refine ⟨rfl, rfl, fun hs => ?_, fun hu => ?_, fun hm => ?_, fun v hv => ?_⟩
    · rw [kept _ rfl (by intro ho; dsimp only at hs; rw [ho] at hs; cases hs)]
      exact hs
    · cases hu.2.1
    · rcases hm with hm | hm
      · exact .inl (kept _ hm (by simp))
      · exact .inr (kept _ hm (by simp))
    · rcases hv with hv | hv
      · exact .inl hv
      · cases hv

theorem Passive.handed {thrown : Option ε} (hp : b.phase = .handing) :
    Passive b (b.handed thrown) := by
  cases thrown with
  | none =>
      exact .move rfl rfl rfl rfl rfl (by simp [hp, Phase.setup]) (by simp [Bounded.handed, Made])
  | some e => exact .finish e

theorem Passive.readDeadline {timeout : Time} {t : Except ε Time} (hp : b.phase = .deadline) :
    Passive b (b.readDeadline timeout t) := by
  cases t with
  | ok t =>
      exact .move rfl rfl rfl rfl rfl (by simp [hp, Phase.setup]) (by simp [Bounded.readDeadline, Made])
  | error e => exact .finish e

theorem Passive.arm {t : Except ε Time} (hp : b.phase = .arming) : Passive b (b.arm t) := by
  cases t with
  | ok t =>
      exact .move rfl rfl rfl rfl rfl (by simp [hp, Phase.setup]) (by simp [Bounded.arm, Made])
  | error e => exact .finish e

/-- The scheduler returns: the wait has ended, or it goes on to its next phase. -/
theorem scheduled_cases {next : Phase} {thrown : Option ε} :
    ((b.scheduled true next thrown).phase = .over ∧ Passive b (b.scheduled true next thrown)) ∨
      (b.result = none ∧ b.aborted = none ∧
        b.scheduled true next thrown = { b with phase := next }) := by
  unfold scheduled
  split
  · exact .inl ⟨rfl, .over b⟩
  · exact .inl ⟨rfl, .trans (.finish _) (.over _)⟩
  · exact .inl ⟨rfl, .trans (.finish _) (.over _)⟩
  · rename_i hr hn
    refine .inr ⟨hr, ?_, rfl⟩
    cases ha : b.aborted with
    | none => rfl
    | some e => exact absurd rfl (hn e ha)

theorem Passive.returned (thrown : Option ε) (hp : b.phase = .calling) :
    Passive b (b.returned thrown) := by
  unfold Bounded.returned
  split
  · exact .over b
  · exact .trans (.finish _) (.over _)
  · exact .move rfl rfl rfl rfl rfl (by simp [Phase.setup]) fun _ => .inl hp

theorem Passive.fire {expired early : ε} {t : Except ε Time} :
    Passive b (b.fire expired early t) := by
  unfold Bounded.fire
  split
  · exact .finish _
  · split
    · exact .finish _
    · split
      · exact .finish _
      · exact .move rfl rfl rfl rfl rfl id id

theorem Passive.rearm {thrown : Option ε} {t : Except ε Time} : Passive b (b.rearm thrown t) := by
  unfold Bounded.rearm
  split
  · exact .finish _
  · rename_i t
    have moved : Passive b { b with
        rearming := false
        remaining := max 0 (b.deadline - t)
        timerGeneration := b.timerGeneration + 1 } := .move rfl rfl rfl rfl rfl id id
    dsimp only
    split
    · exact moved
    · exact moved.trans (.finish _)

/-- The reaction on the promise of the adapter call. -/
theorem Passive.react {outcome : Except ε ν} (hp : b.phase = .waiting)
    (hraw : b.raw = some outcome) : Passive b (b.finish outcome) := by
  unfold Bounded.finish
  split
  · exact .refl b
  · rw [if_neg (by simp [hp])]
    refine ⟨rfl, rfl, fun hs => ?_, fun hu => ?_, fun hm => ?_, fun v hv => ?_⟩
    · cases hs
    · cases hu.1
    · rcases hm with hm | hm <;> cases hm
    · rcases hv with hv | hv
      · exact .inl hv
      · exact .inl (hraw.trans hv)

theorem Passive.abort (reason : ε) : Passive b (b.abort reason) := by
  unfold Bounded.abort
  split
  · exact ⟨rfl, rfl, id, fun hu => absurd hu.2.2 (by simp), id, fun _ => id⟩
  · exact .refl b

/-- Once aborted, a closable wait makes no adapter call. -/
theorem not_unmade_abort {reason : ε} (hc : b.closable = true) : ¬ (b.abort reason).Unmade := by
  unfold Bounded.abort
  split
  · exact fun hu => absurd hu.2.2 (by simp)
  · rename_i hn
    rintro ⟨-, hr, ha⟩
    simp [hc, active, hr, ha] at hn

end Bounded

end OpenRfc.Lifecycle
