import OpenRfc.Diagnostics.Dispatcher
import Mathlib.Algebra.BigOperators.Group.List.Basic
import Mathlib.Algebra.GroupWithZero.Nat

/-!
What the dispatcher does with the events it accepts. They reach the sink one at a time, in the
order in which they were numbered, and a flush is over no sooner than the writes it waits for.
-/

namespace OpenRfc.Diagnostics
variable {δ : Type}

/-- What is known of the settled writes in a phase of the end. -/
def ClosePhase.Known (accepted settled : Nat) : ClosePhase → Prop
  | .flushing call => call.acceptedBefore = accepted
  | .closingSink | .done => accepted ≤ settled

theorem ClosePhase.Known.mono {accepted settled settled' : Nat} {phase : ClosePhase}
    (h : phase.Known accepted settled) (hle : settled ≤ settled') :
    phase.Known accepted settled' := by
  cases phase with
  | flushing call => exact h
  | closingSink | done => exact Nat.le_trans h hle

namespace RfcDiagnosticDispatcher

/-- The counters and the queue agree with what has happened. -/
structure Recorded (s : RfcDiagnosticDispatcher δ) : Prop where
  split : s.settled ++ s.writing ++ s.queue = s.acceptedEvents
  written : s.written = s.settled ++ s.writing
  numbered : s.acceptedEvents.map (·.sequence) = List.range' 1 s.sequence
  accepted : s.accepted = s.acceptedEvents.length
  outcomes : s.delivered + s.failedWrites = s.settled.length
  failures : s.sinkFailures = s.failedWrites + s.failedCloses
  bounded : s.queue.length ≤ s.maxQueued
  dropped : s.dropped = (rfcDiagnosticCategories.map s.droppedByCategory).sum

/-- One microtask or one write keeps the drain alive while there is something left to do. -/
structure Driven (s : RfcDiagnosticDispatcher δ) : Prop where
  writing : s.writing.length = if s.draining then 1 else 0
  microtasks : s.microtasks = if s.scheduled then 1 else 0
  exclusive : s.draining = true → s.scheduled = false
  alive : s.queue ≠ [] ∨ s.flushWaiters ≠ [] → s.scheduled = true ∨ s.draining = true

structure Awaited (s : RfcDiagnosticDispatcher δ) : Prop where
  flushed : ∀ call ∈ s.flushed, call.acceptedBefore ≤ s.settled.length
  waiting : ∀ call ∈ s.flushWaiters, call.acceptedBefore ≤ s.accepted
  closing : ∀ phase ∈ s.closing, s.closed = true ∧ phase.Known s.accepted s.settled.length
  closeCalls : ∀ acceptedBefore ∈ s.closeCalls, acceptedBefore ≤ s.accepted

variable {s : RfcDiagnosticDispatcher δ}

/-- Where nothing is queued or written, everything accepted has settled. -/
theorem Recorded.all_settled (h : s.Recorded) (hw : s.writing = []) (hq : s.queue = []) :
    s.settled = s.acceptedEvents := by
  simpa [hw, hq] using h.split

theorem Driven.writing_nil (h : s.Driven) (hd : s.draining = false) : s.writing = [] := by
  simpa [hd] using h.writing

theorem Recorded.scheduleDrain (h : s.Recorded) : s.scheduleDrain.Recorded := by
  unfold RfcDiagnosticDispatcher.scheduleDrain
  split
  · exact h
  · exact { h with }

theorem Awaited.scheduleDrain (h : s.Awaited) : s.scheduleDrain.Awaited := by
  unfold RfcDiagnosticDispatcher.scheduleDrain
  split
  · exact h
  · exact { h with }

/-- What is queued may be new: a drain is under way afterwards. -/
theorem Driven.scheduleDrain (hw : s.writing.length = if s.draining then 1 else 0)
    (hm : s.microtasks = if s.scheduled then 1 else 0)
    (he : s.draining = true → s.scheduled = false) : s.scheduleDrain.Driven := by
  unfold RfcDiagnosticDispatcher.scheduleDrain
  split
  · exact ⟨hw, hm, he, fun _ => ‹_›⟩
  · rename_i hidle
    simp only [not_or, Bool.not_eq_true] at hidle
    refine ⟨hw, ?_, ?_, fun _ => .inl rfl⟩
    · simpa [hidle.1] using hm
    · intro hd
      exact absurd (hidle.2.symm.trans hd) Bool.noConfusion

section Loop

theorem Recorded.endDrain (h : s.Recorded) : s.endDrain.Recorded := by
  simp only [RfcDiagnosticDispatcher.endDrain]
  split
  · exact Recorded.scheduleDrain { h with }
  · exact { h with }

/-- The loop goes on from a dispatcher which writes nothing. -/
theorem Recorded.drainLoop (h : s.Recorded) (hw : s.writing = []) : s.drainLoop.Recorded := by
  unfold RfcDiagnosticDispatcher.drainLoop
  split
  · exact h.endDrain
  · rename_i event queue hq
    have hsplit := h.split
    have hwritten := h.written
    have hbounded := h.bounded
    simp only [hw, hq, List.append_nil, List.length_cons] at hsplit hwritten hbounded
    refine { h with split := ?_, written := ?_, bounded := ?_ }
    · simpa [hw] using hsplit
    · simp [hw, hwritten]
    · exact Nat.le_of_succ_le hbounded

theorem Driven.drainLoop (hw : s.writing = []) (hm : s.microtasks = 0)
    (hd : s.draining = true) (hs : s.scheduled = false) : s.drainLoop.Driven := by
  unfold RfcDiagnosticDispatcher.drainLoop
  split
  · simp only [RfcDiagnosticDispatcher.endDrain]
    split
    · exact Driven.scheduleDrain (by simp [hw]) (by simp [hm, hs]) (by simp)
    · rename_i hq
      refine ⟨by simp [hw], by simp [hm, hs], by simp, fun hleft => ?_⟩
      simp only [ne_eq, not_not] at hq
      simp [hq] at hleft
  · exact ⟨by simp [hw, hd], by simp [hm, hs], fun _ => hs, fun _ => .inr hd⟩

theorem Awaited.endDrain (h : s.Awaited) (hr : s.Recorded) (hw : s.writing = []) :
    s.endDrain.Awaited := by
  simp only [RfcDiagnosticDispatcher.endDrain]
  split
  · exact Awaited.scheduleDrain { h with }
  · rename_i hq
    simp only [ne_eq, not_not] at hq
    have hall : s.accepted = s.settled.length := by rw [hr.accepted, hr.all_settled hw hq]
    refine { h with flushed := ?_, waiting := by simp }
    intro call hcall
    rcases List.mem_append.mp hcall with hcall | hcall
    · exact hall ▸ h.waiting call hcall
    · exact h.flushed call hcall

theorem Awaited.drainLoop (h : s.Awaited) (hr : s.Recorded) (hw : s.writing = []) :
    s.drainLoop.Awaited := by
  unfold RfcDiagnosticDispatcher.drainLoop
  split
  · exact h.endDrain hr hw
  · exact { h with }

end Loop

structure Sound (s : RfcDiagnosticDispatcher δ) : Prop where
  recorded : s.Recorded
  driven : s.Driven
  awaited : s.Awaited

section Steps

theorem sum_update (counts : RfcDiagnosticCategory → Nat) (category : RfcDiagnosticCategory) :
    (rfcDiagnosticCategories.map (Function.update counts category (counts category + 1))).sum =
      (rfcDiagnosticCategories.map counts).sum + 1 := by
  cases category <;> simp [rfcDiagnosticCategories, Function.update] <;> omega

/-- An event is accepted only before the end. -/
theorem Awaited.accept (h : s.Awaited) (ho : s.closed = false)
    (event : RfcDiagnosticEvent δ) :
    Awaited { s with
      sequence := s.sequence + 1
      queue := s.queue ++ [event]
      accepted := s.accepted + 1
      acceptedEvents := s.acceptedEvents ++ [event] } where
  flushed := h.flushed
  waiting call hcall := Nat.le_succ_of_le (h.waiting call hcall)
  closing phase hphase :=
    absurd (ho.symm.trans (h.closing phase hphase).1) Bool.noConfusion
  closeCalls n hn := Nat.le_succ_of_le (h.closeCalls n hn)

theorem Recorded.accept (h : s.Recorded) (hroom : s.queue.length < s.maxQueued)
    {event : RfcDiagnosticEvent δ} (hnumber : event.sequence = s.sequence + 1) :
    Recorded { s with
      sequence := s.sequence + 1
      queue := s.queue ++ [event]
      accepted := s.accepted + 1
      acceptedEvents := s.acceptedEvents ++ [event] } := by
  refine { h with split := ?_, numbered := ?_, accepted := ?_, bounded := ?_ }
  · simp [← h.split]
  · simp only [List.map_append, h.numbered, List.map_cons, List.map_nil, hnumber]
    rw [List.range'_concat, Nat.one_mul, Nat.add_comm 1]
  · simp [h.accepted]
  · simpa using Nat.succ_le_of_lt hroom

theorem Sound.emit (h : s.Sound) (timestamp : String)
    (input : Except String (RfcDiagnosticInput δ)) : (s.emit timestamp input).2.Sound := by
  unfold RfcDiagnosticDispatcher.emit
  split
  · exact h
  · rename_i hopen
    simp only [Bool.not_eq_true] at hopen
    split
    · exact h
    · rename_i snapshot
      split
      · exact ⟨{ h.recorded with }, { h.driven with }, { h.awaited with }⟩
      · split
        · refine ⟨{ h.recorded with dropped := ?_ }, { h.driven with }, { h.awaited with }⟩
          exact (congrArg (· + 1) h.recorded.dropped).trans (sum_update _ _).symm
        · rename_i hroom
          refine ⟨.scheduleDrain ?_, ?_, .scheduleDrain ?_⟩
          · exact h.recorded.accept (Nat.lt_of_not_le hroom) rfl
          · exact .scheduleDrain h.driven.writing h.driven.microtasks h.driven.exclusive
          · exact h.awaited.accept hopen _

theorem Sound.setLevel (h : s.Sound) (category : RfcDiagnosticCategory)
    (level : RfcDiagnosticLevel) : (s.setLevel category level).2.Sound := by
  unfold RfcDiagnosticDispatcher.setLevel
  split
  · exact h
  · exact ⟨{ h.recorded with }, { h.driven with }, { h.awaited with }⟩

/-- A flush which returns at once finds nothing on its way to the sink. -/
theorem Sound.flush (h : s.Sound) : s.flush.2.Sound := by
  simp only [RfcDiagnosticDispatcher.flush]
  split
  · rename_i hidle
    simp only [Bool.not_eq_true] at hidle
    have hw := h.driven.writing_nil hidle.2.1
    have hall := h.recorded.all_settled hw hidle.2.2
    refine ⟨{ h.recorded with }, { h.driven with }, { h.awaited with flushed := ?_ }⟩
    intro call hcall
    rcases List.mem_cons.mp hcall with rfl | hcall
    · exact Nat.le_of_eq (h.recorded.accepted.trans (congrArg List.length hall).symm)
    · exact h.awaited.flushed call hcall
  · rename_i hbusy
    refine ⟨{ h.recorded with }, { h.driven with alive := fun _ => ?_ },
      { h.awaited with waiting := ?_ }⟩
    · by_contra hidle
      simp only [not_or, Bool.not_eq_true] at hidle
      simp only [hidle.1, hidle.2, Bool.false_eq_true, not_false_eq_true, true_and] at hbusy
      exact (h.driven.alive (.inl hbusy)).elim (by simp [hidle.1]) (by simp [hidle.2])
    · intro call hcall
      rcases List.mem_append.mp hcall with hcall | hcall
      · exact h.awaited.waiting call hcall
      · obtain rfl := List.mem_singleton.mp hcall
        exact Nat.le_refl s.accepted

theorem flush_frame (s : RfcDiagnosticDispatcher δ) :
    s.flush.1.acceptedBefore = s.accepted ∧ s.flush.2.accepted = s.accepted ∧
      s.flush.2.settled = s.settled ∧ s.flush.2.closed = s.closed ∧
      s.flush.2.closeCalls = s.closeCalls := by
  simp only [RfcDiagnosticDispatcher.flush]
  split <;> exact ⟨rfl, rfl, rfl, rfl, rfl⟩

theorem Sound.close (h : s.Sound) : s.close.Sound := by
  have hcalls : ∀ n ∈ s.accepted :: s.closeCalls, n ≤ s.accepted := by
    intro n hn
    rcases List.mem_cons.mp hn with rfl | hn
    · exact Nat.le_refl _
    · exact h.awaited.closeCalls n hn
  simp only [RfcDiagnosticDispatcher.close]
  split
  · exact ⟨{ h.recorded with }, { h.driven with }, { h.awaited with closeCalls := hcalls }⟩
  · rename_i hnone
    let s' : RfcDiagnosticDispatcher δ :=
      { s with closeCalls := s.accepted :: s.closeCalls, closed := true }
    have hclosed : Sound s' := by
      refine ⟨{ h.recorded with }, { h.driven with },
        { h.awaited with closeCalls := hcalls, closing := ?_ }⟩
      intro phase hphase
      cases hnone.symm.trans hphase
    obtain ⟨hcall, haccepted, hsettled, hend, _⟩ := flush_frame s'
    have hf := hclosed.flush
    refine ⟨{ hf.recorded with }, { hf.driven with }, { hf.awaited with closing := ?_ }⟩
    intro phase hphase
    obtain rfl := Option.some.inj hphase
    exact ⟨hend, hcall.trans haccepted.symm⟩

theorem Sound.finishClose (h : s.Sound) {s' : RfcDiagnosticDispatcher δ}
    (hs : s.finishClose = some s') : s'.Sound := by
  unfold RfcDiagnosticDispatcher.finishClose at hs
  split at hs
  · rename_i call hphase
    split at hs
    · rename_i hflushed
      obtain rfl := Option.some.inj hs
      obtain ⟨hclosed, hcall⟩ := h.awaited.closing _ hphase
      have hsettled : s.accepted ≤ s.settled.length :=
        Nat.le_trans (Nat.le_of_eq hcall.symm) (h.awaited.flushed call hflushed)
      refine ⟨{ h.recorded with }, { h.driven with }, { h.awaited with closing := ?_ }⟩
      intro phase hphase
      obtain rfl := Option.some.inj hphase
      refine ⟨hclosed, ?_⟩
      split <;> exact hsettled
    · cases hs
  · cases hs

theorem Sound.sinkClosed (h : s.Sound) {closed : Bool} {s' : RfcDiagnosticDispatcher δ}
    (hs : s.sinkClosed closed = some s') : s'.Sound := by
  unfold RfcDiagnosticDispatcher.sinkClosed at hs
  split at hs
  · rename_i hphase
    have hdone : ∀ phase ∈ some ClosePhase.done,
        s.closed = true ∧ phase.Known s.accepted s.settled.length := by
      intro phase hd
      obtain rfl := Option.some.inj hd
      obtain ⟨hclosed, hknown⟩ := h.awaited.closing _ hphase
      exact ⟨hclosed, hknown⟩
    obtain rfl := Option.some.inj hs
    split
    · exact ⟨{ h.recorded with }, { h.driven with }, { h.awaited with closing := hdone }⟩
    · refine ⟨{ h.recorded with failures := ?_ }, { h.driven with },
        { h.awaited with closing := hdone }⟩
      simp [h.recorded.failures, Nat.add_assoc]
  · cases hs

theorem Sound.microtask (h : s.Sound) {s' : RfcDiagnosticDispatcher δ}
    (hs : s.microtask = some s') : s'.Sound := by
  unfold RfcDiagnosticDispatcher.microtask at hs
  split at hs
  · cases hs
  · rename_i hpending
    obtain rfl := Option.some.inj hs
    have hscheduled : s.scheduled = true := by
      by_contra hidle
      exact hpending (by simpa [hidle] using h.driven.microtasks)
    have hdraining : s.draining = false := by
      by_contra hd
      simp [h.driven.exclusive (by simpa using hd)] at hscheduled
    have hone : s.microtasks = 1 := by simpa [hscheduled] using h.driven.microtasks
    have hw := h.driven.writing_nil hdraining
    simp only [RfcDiagnosticDispatcher.drain, hdraining, Bool.false_eq_true, if_false]
    refine ⟨.drainLoop { h.recorded with } hw, .drainLoop hw ?_ rfl rfl,
      .drainLoop { h.awaited with } { h.recorded with } hw⟩
    simp [hone]

theorem Recorded.settle (h : s.Recorded) {event : RfcDiagnosticEvent δ}
    (hw : s.writing = [event]) {delivered failedWrites sinkFailures : Nat}
    (hsum : delivered + failedWrites = s.settled.length + 1)
    (hfailures : sinkFailures = failedWrites + s.failedCloses) :
    Recorded { s with
      writing := s.writing.eraseIdx 0
      settled := s.settled ++ [event]
      delivered := delivered
      sinkFailures := sinkFailures
      failedWrites := failedWrites } := by
  have hsplit := h.split
  have hwritten := h.written
  simp only [hw] at hsplit hwritten
  refine { h with split := ?_, written := ?_, outcomes := ?_, failures := hfailures }
  · simpa [hw] using hsplit
  · simpa [hw] using hwritten
  · simpa using hsum

theorem Awaited.settle (h : s.Awaited) (event : RfcDiagnosticEvent δ) :
    Awaited { s with settled := s.settled ++ [event] } := by
  have hgrown : s.settled.length ≤ (s.settled ++ [event]).length := by simp
  refine { h with flushed := ?_, closing := ?_ }
  · exact fun call hcall => Nat.le_trans (h.flushed call hcall) hgrown
  · intro phase hphase
    obtain ⟨hclosed, hknown⟩ := h.closing phase hphase
    exact ⟨hclosed, hknown.mono hgrown⟩

/-- A write that settles is the only one. -/
theorem Driven.only_write (h : s.Driven) {index : Nat} {event : RfcDiagnosticEvent δ}
    (hevent : s.writing[index]? = some event) :
    index = 0 ∧ s.writing = [event] ∧ s.draining = true := by
  have hdraining : s.draining = true := by
    by_contra hd
    simp [h.writing_nil (by simpa using hd)] at hevent
  have hone : s.writing.length = 1 := by simpa [hdraining] using h.writing
  obtain ⟨first, hfirst⟩ := List.length_eq_one_iff.mp hone
  cases index with
  | zero =>
      obtain rfl : first = event := by simpa [hfirst] using hevent
      exact ⟨rfl, hfirst, hdraining⟩
  | succ index => simp [hfirst] at hevent

theorem Sound.writeSettled (h : s.Sound) {index : Nat} {delivered : Bool}
    {s' : RfcDiagnosticDispatcher δ} (hs : s.writeSettled index delivered = some s') :
    s'.Sound := by
  unfold RfcDiagnosticDispatcher.writeSettled at hs
  split at hs
  · cases hs
  · rename_i event hevent
    obtain rfl := Option.some.inj hs
    obtain ⟨rfl, hw, hdraining⟩ := h.driven.only_write hevent
    have hscheduled := h.driven.exclusive hdraining
    have hm : s.microtasks = 0 := by simpa [hscheduled] using h.driven.microtasks
    have hnil : s.writing.eraseIdx 0 = [] := by simp [hw]
    have houtcomes := h.recorded.outcomes
    have hfailures := h.recorded.failures
    have ha := h.awaited.settle event
    cases delivered with
    | true =>
        have hr := h.recorded.settle hw
          (show s.delivered + 1 + s.failedWrites = s.settled.length + 1 by omega) hfailures
        exact ⟨.drainLoop { hr with } hnil, .drainLoop hnil hm hdraining hscheduled,
          .drainLoop { ha with } { hr with } hnil⟩
    | false =>
        have hr := h.recorded.settle hw
          (show s.delivered + (s.failedWrites + 1) = s.settled.length + 1 by omega)
          (show s.sinkFailures + 1 = s.failedWrites + 1 + s.failedCloses by omega)
        exact ⟨.drainLoop { hr with } hnil, .drainLoop hnil hm hdraining hscheduled,
          .drainLoop { ha with } { hr with } hnil⟩

end Steps

section Frames

@[simp] theorem scheduleDrain_maxQueued : s.scheduleDrain.maxQueued = s.maxQueued := by
  unfold RfcDiagnosticDispatcher.scheduleDrain
  split <;> rfl

@[simp] theorem drainLoop_maxQueued : s.drainLoop.maxQueued = s.maxQueued := by
  simp only [RfcDiagnosticDispatcher.drainLoop, RfcDiagnosticDispatcher.endDrain]
  split
  · split <;> simp
  · rfl

/-- What the loop leaves to be written, and to be waited for. -/
structure Continues (s t : RfcDiagnosticDispatcher δ) : Prop where
  scheduled : t.scheduled = s.scheduled
  left : t.writing.length + t.queue.length = s.writing.length + s.queue.length
  acceptedEvents : t.acceptedEvents = s.acceptedEvents
  waiting : ∀ call, call ∈ s.flushWaiters ∨ call ∈ s.flushed →
    call ∈ t.flushWaiters ∨ call ∈ t.flushed

theorem drainLoop_continues (hw : s.writing = []) : Continues s s.drainLoop := by
  unfold RfcDiagnosticDispatcher.drainLoop
  split
  · rename_i hq
    simp only [RfcDiagnosticDispatcher.endDrain, hq, ne_eq, not_true_eq_false, if_false]
    exact ⟨rfl, by simp [hq], rfl, fun call hcall => .inr (List.mem_append.mpr hcall)⟩
  · rename_i event queue hq
    exact ⟨rfl, by simp [hw, hq, Nat.add_comm], rfl, fun call hcall => hcall⟩

end Frames

end RfcDiagnosticDispatcher

open RfcDiagnosticDispatcher

section Runs
variable {options : RfcDiagnosticDispatcherOptions} {s : RfcDiagnosticDispatcher δ}

theorem dispatcher_step_sound {e : DispatcherStep δ} {s' : RfcDiagnosticDispatcher δ}
    (h : s.Sound) (hs : (dispatcher δ options).step s e = some s') : s'.Sound := by
  cases e with
  | emit timestamp input =>
      obtain rfl := Option.some.inj hs
      exact h.emit timestamp input
  | setLevel category level =>
      obtain rfl := Option.some.inj hs
      exact h.setLevel category level
  | flush =>
      obtain rfl := Option.some.inj hs
      exact h.flush
  | close =>
      obtain rfl := Option.some.inj hs
      exact h.close
  | finishClose => exact h.finishClose hs
  | sinkClosed closed => exact h.sinkClosed hs
  | microtask => exact h.microtask hs
  | writeSettled index delivered => exact h.writeSettled hs

theorem dispatcher_sound (h : (dispatcher δ options).Reachable s) : s.Sound := by
  refine h.invariant ⟨⟨rfl, rfl, rfl, rfl, rfl, rfl, Nat.zero_le _, rfl⟩, ⟨rfl, rfl, ?_, ?_⟩, ?_⟩
    fun _ _ _ _ hsound hs => dispatcher_step_sound hsound hs
  · simp [dispatcher]
  · simp [dispatcher]
  · constructor <;> simp [dispatcher]

theorem dispatcher_maxQueued (h : (dispatcher δ options).Reachable s) :
    s.maxQueued = options.maxQueued := by
  refine Machine.Reachable.invariant (P := fun s => s.maxQueued = options.maxQueued) rfl
    (fun s e s' _ hmax hs => ?_) h
  rw [← hmax]
  cases e with
  | emit timestamp input =>
      obtain rfl := Option.some.inj hs
      simp only [RfcDiagnosticDispatcher.emit]
      split
      · rfl
      · split
        · rfl
        · split
          · rfl
          · split
            · rfl
            · simp
  | setLevel category level =>
      obtain rfl := Option.some.inj hs
      simp only [RfcDiagnosticDispatcher.setLevel]
      split <;> rfl
  | flush =>
      obtain rfl := Option.some.inj hs
      simp only [RfcDiagnosticDispatcher.flush]
      split <;> rfl
  | close =>
      obtain rfl := Option.some.inj hs
      simp only [RfcDiagnosticDispatcher.close, RfcDiagnosticDispatcher.flush]
      split
      · rfl
      · split <;> rfl
  | finishClose =>
      simp only [dispatcher, RfcDiagnosticDispatcher.finishClose] at hs
      grind
  | sinkClosed closed =>
      simp only [dispatcher, RfcDiagnosticDispatcher.sinkClosed] at hs
      grind
  | microtask =>
      simp only [dispatcher, RfcDiagnosticDispatcher.microtask,
        RfcDiagnosticDispatcher.drain] at hs
      grind [drainLoop_maxQueued]
  | writeSettled index delivered =>
      simp only [dispatcher, RfcDiagnosticDispatcher.writeSettled] at hs
      grind [drainLoop_maxQueued]

/-- The write under way settles, and after it one write for each queued event. -/
theorem writes_settle (outcomes : List Bool) (h : s.Sound) (hidle : s.scheduled = false)
    (hleft : outcomes.length = s.writing.length + s.queue.length) :
    ∃ t, (dispatcher δ options).run s (outcomes.map (.writeSettled 0)) = some t ∧
      t.settled = s.acceptedEvents ∧ t.written = s.acceptedEvents ∧
      ∀ call, call ∈ s.flushWaiters ∨ call ∈ s.flushed → call ∈ t.flushed := by
  induction outcomes generalizing s with
  | nil =>
      simp only [List.length_nil] at hleft
      have hw : s.writing = [] := List.length_eq_zero_iff.mp (by omega)
      have hq : s.queue = [] := List.length_eq_zero_iff.mp (by omega)
      have hall := h.recorded.all_settled hw hq
      have hdraining : s.draining = false := by simpa [hw] using h.driven.writing
      have hwaiters : s.flushWaiters = [] := by
        by_contra hne
        simpa [hidle, hdraining] using h.driven.alive (.inr hne)
      refine ⟨s, rfl, hall, ?_, ?_⟩
      · rw [h.recorded.written, hw, List.append_nil, hall]
      · intro call hcall
        simpa [hwaiters] using hcall
  | cons outcome outcomes ih =>
      simp only [List.length_cons] at hleft
      have hdraining : s.draining = true := by
        by_contra hd
        simp only [Bool.not_eq_true] at hd
        have hw := h.driven.writing_nil hd
        have hq : s.queue ≠ [] := by
          intro hq
          simp [hw, hq] at hleft
        simpa [hidle, hd] using h.driven.alive (.inl hq)
      have hone : s.writing.length = 1 := by simpa [hdraining] using h.driven.writing
      obtain ⟨event, hw⟩ := List.length_eq_one_iff.mp hone
      obtain ⟨s', hs, hcontinues⟩ : ∃ s', s.writeSettled 0 outcome = some s' ∧
          Continues { s with writing := [] } s' := by
        refine ⟨_, by simp only [RfcDiagnosticDispatcher.writeSettled, hw]; rfl, ?_⟩
        cases outcome with
        | true => exact { drainLoop_continues (by simp) with }
        | false => exact { drainLoop_continues (by simp) with }
      obtain ⟨t, ht, hsettled, hwritten, hflushed⟩ := ih (h.writeSettled hs)
        (hcontinues.scheduled.trans hidle)
        (by rw [hcontinues.left]; simp only [List.length_nil]; omega)
      refine ⟨t, ?_, hsettled.trans hcontinues.acceptedEvents,
        hwritten.trans hcontinues.acceptedEvents,
        fun call hcall => hflushed call (hcontinues.waiting call hcall)⟩
      rw [List.map_cons, Machine.run_cons]
      simp only [dispatcher, hs, Option.bind_some]
      exact ht

/-- The steps which are left to the runtime and the sink, the outcomes being the sink's choice. -/
def remaining (s : RfcDiagnosticDispatcher δ) (outcomes : List Bool) : List (DispatcherStep δ) :=
  List.replicate s.microtasks .microtask ++ outcomes.map (.writeSettled 0)

theorem remaining_delivers (outcomes : List Bool) (h : s.Sound)
    (hleft : outcomes.length = s.writing.length + s.queue.length) :
    ∃ t, (dispatcher δ options).run s (remaining s outcomes) = some t ∧
      t.settled = s.acceptedEvents ∧ t.written = s.acceptedEvents ∧
      ∀ call, call ∈ s.flushWaiters ∨ call ∈ s.flushed → call ∈ t.flushed := by
  cases hscheduled : s.scheduled with
  | false =>
      have hm : s.microtasks = 0 := by simpa [hscheduled] using h.driven.microtasks
      rw [remaining, hm]
      exact writes_settle outcomes h hscheduled hleft
  | true =>
      have hm : s.microtasks = 1 := by simpa [hscheduled] using h.driven.microtasks
      have hdraining : s.draining = false := by
        by_contra hd
        simpa [hscheduled] using h.driven.exclusive (by simpa using hd)
      have hw := h.driven.writing_nil hdraining
      let s₀ := { s with microtasks := 0, scheduled := false, draining := true }
      have hs : s.microtask = some s₀.drainLoop := by
        simp [RfcDiagnosticDispatcher.microtask, RfcDiagnosticDispatcher.drain, hm, hdraining, s₀]
      have hcontinues : Continues s₀ s₀.drainLoop := drainLoop_continues hw
      obtain ⟨t, ht, hsettled, hwritten, hflushed⟩ := writes_settle outcomes (h.microtask hs)
        hcontinues.scheduled (hleft.trans hcontinues.left.symm)
      refine ⟨t, ?_, hsettled.trans hcontinues.acceptedEvents,
        hwritten.trans hcontinues.acceptedEvents,
        fun call hcall => hflushed call (hcontinues.waiting call hcall)⟩
      rw [remaining, hm, List.replicate_one, List.singleton_append, Machine.run_cons]
      simp only [dispatcher, hs, Option.bind_some]
      exact ht

end Runs

/-- What holds of the dispatcher at any time. -/
structure Accountable (options : RfcDiagnosticDispatcherOptions)
    (s : RfcDiagnosticDispatcher δ) : Prop where
  /-- An accepted event has been passed to the sink once, or is queued. -/
  once : s.written ++ s.queue = s.acceptedEvents
  increasing : s.acceptedEvents.Pairwise (·.sequence < ·.sequence)
  /-- The earlier writes have settled when the next one is made. -/
  serialized : s.written = s.settled ++ s.writing ∧ s.writing.length ≤ 1
  accepted : s.accepted = s.acceptedEvents.length
  balance : s.accepted = s.delivered + s.failedWrites + s.queue.length + s.writing.length
  failures : s.sinkFailures = s.failedWrites + s.failedCloses
  bounded : s.queue.length ≤ options.maxQueued
  dropped : s.dropped = (rfcDiagnosticCategories.map s.droppedByCategory).sum
  flushed : ∀ call ∈ s.flushed, s.acceptedEvents.take call.acceptedBefore <+: s.settled
  closed : s.closing = some .done →
    ∀ acceptedBefore ∈ s.closeCalls, s.acceptedEvents.take acceptedBefore <+: s.settled
  /-- Once the writes settle, every accepted event has been passed to the sink and every flush is
  over. -/
  delivers : ∀ outcomes : List Bool, outcomes.length = s.writing.length + s.queue.length →
    ∃ t, (dispatcher δ options).run s (remaining s outcomes) = some t ∧
      t.settled = s.acceptedEvents ∧ t.written = s.acceptedEvents ∧
      ∀ call, call ∈ s.flushWaiters ∨ call ∈ s.flushed → call ∈ t.flushed

theorem RfcDiagnosticDispatcher.Recorded.take_settled {s : RfcDiagnosticDispatcher δ}
    (h : s.Recorded) {count : Nat} (hcount : count ≤ s.settled.length) :
    s.acceptedEvents.take count <+: s.settled := by
  rw [← h.split, List.append_assoc, List.take_append_of_le_length hcount]
  exact List.take_prefix count s.settled

theorem RfcDiagnosticDispatcher.Recorded.increasing {s : RfcDiagnosticDispatcher δ}
    (h : s.Recorded) : s.acceptedEvents.Pairwise (·.sequence < ·.sequence) := by
  rw [← List.pairwise_map, h.numbered]
  exact List.pairwise_lt_range'

/-- The accepted events reach the sink in order and one at a time, and are accounted for. -/
theorem dispatcher_accountable (options : RfcDiagnosticDispatcherOptions)
    (s : RfcDiagnosticDispatcher δ) (h : (dispatcher δ options).Reachable s) :
    Accountable options s := by
  have hs := dispatcher_sound h
  have hr := hs.recorded
  have hone : s.writing.length ≤ 1 := by
    rw [hs.driven.writing]
    split <;> omega
  constructor
  case once => rw [hr.written, hr.split]
  case increasing => exact hr.increasing
  case serialized => exact ⟨hr.written, hone⟩
  case accepted => exact hr.accepted
  case balance =>
    have houtcomes := hr.outcomes
    rw [hr.accepted, ← hr.split, List.length_append, List.length_append]
    omega
  case failures => exact hr.failures
  case bounded => exact dispatcher_maxQueued h ▸ hr.bounded
  case dropped => exact hr.dropped
  case flushed => exact fun call hcall => hr.take_settled (hs.awaited.flushed call hcall)
  case closed =>
    intro hdone acceptedBefore hcall
    obtain ⟨_, hknown⟩ := hs.awaited.closing .done hdone
    exact hr.take_settled (Nat.le_trans (hs.awaited.closeCalls acceptedBefore hcall) hknown)
  case delivers => exact fun outcomes hleft => remaining_delivers outcomes hs hleft

/-- Two events are accepted within the first write, which fails, and a third one has no room. -/
theorem dispatcher_accountable_reentrant :
    ∃ s : RfcDiagnosticDispatcher Unit,
      Accountable ⟨2, fun _ => .info, false, by decide, by decide⟩ s ∧
      s.written.map (·.sequence) = [1, 2, 3] ∧ s.delivered = 2 ∧ s.sinkFailures = 1 ∧
      s.dropped = 1 ∧ s.filtered = 1 ∧ s.closing = some .done := by
  let input (level : RfcDiagnosticLevel) : DispatcherStep Unit :=
    .emit "2026-01-01T00:00:00.000Z" (.ok ⟨.call, level, ()⟩)
  obtain ⟨s, _, hs, hlast⟩ := Machine.reachable_of_any
    (dispatcher Unit ⟨2, fun _ => .info, false, by decide, by decide⟩)
    [input .info, .flush, .microtask, input .debug, input .warn, input .info, input .error,
      .writeSettled 0 false, .close, .writeSettled 0 true, .writeSettled 0 true, .finishClose]
    (fun s => decide (s.written.map (·.sequence) = [1, 2, 3] ∧ s.delivered = 2 ∧
      s.sinkFailures = 1 ∧ s.dropped = 1 ∧ s.filtered = 1 ∧ s.closing = some .done)) (by rfl)
  exact ⟨s, dispatcher_accountable _ s hs, by simpa using hlast⟩

end OpenRfc.Diagnostics
