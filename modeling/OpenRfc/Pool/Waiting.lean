import OpenRfc.Pool.Leases

/-!
Waiters. The queue holds the waiters which have been accepted and not answered, in the
order of their arrival. An answer is one grant of as many fresh leases as were asked
for, or one error; a grant goes to the oldest waiter without an answer, before its
deadline and only if its caller has not aborted it.
-/

namespace OpenRfc.Pool
open ConnectionPoolRuntime

def Accepted (w : Nat) (h : List Observation) : Prop :=
  ∃ n deadline, .accepted w n deadline ∈ h

/-- The promise of a waiter has been settled. -/
def Answered (w : Nat) (h : List Observation) : Prop :=
  (∃ leases, .granted w leases ∈ h) ∨ ∃ e, .acquireRejected w e ∈ h

def Observation.answers (w : Nat) : Observation → Bool
  | .granted w' _ | .acquireRejected w' _ => w' = w
  | _ => false

theorem Observation.answers_iff {w : Nat} {o : Observation} :
    o.answers w = true ↔ (∃ leases, o = .granted w leases) ∨ ∃ e, o = .acquireRejected w e := by
  cases o <;> simp [answers]

/-- Waiters arrive in the order of their numbers. A waiter is rejected once, or granted
exactly as many fresh and distinct leases as it asked for: before its deadline, unless
its caller has aborted it, and when every waiter before it has been answered. -/
def WaiterLaw : Observation → List Observation → Prop
  | .accepted w _ _, past => ∀ w', Accepted w' past → w' < w
  | .acquireRejected w _, past => Accepted w past ∧ ¬ Answered w past
  | .granted w leases, past =>
      (∃ n deadline, .accepted w n deadline ∈ past ∧ leases.length = n ∧
        ∀ t, .clockRead t ∈ past → t < deadline) ∧
      leases.Nodup ∧ (∀ l ∈ leases, ¬ Granted l past) ∧
      ¬ Answered w past ∧ .aborted w ∉ past ∧
      ∀ w', w' < w → Accepted w' past → Answered w' past
  | _, _ => True

/-- What the queue, its waiters and the history agree on. -/
structure QueueBook (cfg : Settings) (s : ConnectionPoolRuntime) : Prop where
  sorted : s.waiters.Pairwise (· < ·)
  waiters_lt : ∀ w ∈ s.waiters, w < s.nextWaiterId
  active : ∀ w, (s.waiter w).active = true ↔ w ∈ s.waiters
  length_le : s.waiters.length ≤ cfg.maxWaiters
  queued : ∀ w ∈ s.waiters,
    .accepted w (s.waiter w).count (s.waiter w).deadline ∈ s.trace
  accepted_lt : ∀ w, Accepted w s.trace → w < s.nextWaiterId
  open_or_answered : ∀ w, Accepted w s.trace → w ∈ s.waiters ∨ Answered w s.trace
  answered : ∀ w, Answered w s.trace → w < s.nextWaiterId ∧ w ∉ s.waiters
  aborted : ∀ w, .aborted w ∈ s.trace → w < s.nextWaiterId ∧ w ∉ s.waiters
  clock : ∀ t, .clockRead t ∈ s.trace → ∃ last, s.lastClockValue = some last ∧ t ≤ last
  law : History.Each WaiterLaw s.trace

/-- Observations which concern no waiter and no clock. -/
def Unqueued : Observation → Prop
  | .accepted .. | .granted .. | .acquireRejected .. | .aborted .. | .clockRead .. => False
  | _ => True

namespace QueueBook
variable {cfg : Settings} {s s' : ConnectionPoolRuntime}

/-- The waiters are the ones of before, and what was observed concerns none of them. -/
theorem frame (h : QueueBook cfg s) (hw : s'.waiters = s.waiters)
    (hx : ∀ w, (s'.waiter w).count = (s.waiter w).count ∧
      (s'.waiter w).deadline = (s.waiter w).deadline ∧
      (s'.waiter w).active = (s.waiter w).active)
    (hn : s'.nextWaiterId = s.nextWaiterId) (hc : s'.lastClockValue = s.lastClockValue)
    (ht : s'.trace = s.trace) : QueueBook cfg s' := by
  refine ⟨hw ▸ h.sorted, ?_, fun w => ?_, hw ▸ h.length_le, fun w hmem => ?_, ?_, ?_, ?_, ?_, ?_,
    ht ▸ h.law⟩
  · rw [hw, hn]; exact h.waiters_lt
  · rw [(hx w).2.2, hw]; exact h.active w
  · rw [hw] at hmem
    rw [(hx w).1, (hx w).2.1, ht]
    exact h.queued w hmem
  · rw [ht, hn]; exact h.accepted_lt
  · rw [ht, hw]; exact h.open_or_answered
  · rw [ht, hn, hw]; exact h.answered
  · rw [ht, hn, hw]; exact h.aborted
  · rw [ht, hc]; exact h.clock

theorem observe (h : QueueBook cfg s) {o : Observation} (ho : Unqueued o) :
    QueueBook cfg (s.observe o) := by
  have accepted_iff : ∀ w, Accepted w (o :: s.trace) ↔ Accepted w s.trace := by
    intro w
    cases o <;> first | exact ho.elim | simp [Accepted]
  have answered_iff : ∀ w, Answered w (o :: s.trace) ↔ Answered w s.trace := by
    intro w
    cases o <;> first | exact ho.elim | simp [Answered]
  refine ⟨h.sorted, h.waiters_lt, h.active, h.length_le,
    fun w hw => List.mem_cons_of_mem _ (h.queued w hw), fun w hw => ?_, fun w hw => ?_,
    fun w hw => ?_, fun w hw => ?_, fun t ht => ?_, ⟨?_, h.law⟩⟩
  · exact h.accepted_lt w ((accepted_iff w).mp hw)
  · change w ∈ s.waiters ∨ Answered w (o :: s.trace)
    rw [answered_iff]
    exact h.open_or_answered w ((accepted_iff w).mp hw)
  · exact h.answered w ((answered_iff w).mp hw)
  · rcases List.mem_cons.mp hw with rfl | hw
    · exact ho.elim
    · exact h.aborted w hw
  · rcases List.mem_cons.mp ht with rfl | ht
    · exact ho.elim
    · exact h.clock t ht
  · cases o <;> first | exact ho.elim | trivial

/-- The clock is monotonic. -/
theorem clockRead (h : QueueBook cfg s) {t : Time}
    (hlast : ∀ last, s.lastClockValue = some last → last ≤ t) :
    QueueBook cfg ({ s with lastClockValue := some t }.observe (.clockRead t)) := by
  have accepted_iff : ∀ w, Accepted w (.clockRead t :: s.trace) ↔ Accepted w s.trace := by
    simp [Accepted]
  have answered_iff : ∀ w, Answered w (.clockRead t :: s.trace) ↔ Answered w s.trace := by
    simp [Answered]
  refine ⟨h.sorted, h.waiters_lt, h.active, h.length_le,
    fun w hw => List.mem_cons_of_mem _ (h.queued w hw), fun w hw => ?_, fun w hw => ?_,
    fun w hw => ?_, fun w hw => ?_, fun t' ht => ?_, ⟨trivial, h.law⟩⟩
  · exact h.accepted_lt w ((accepted_iff w).mp hw)
  · change w ∈ s.waiters ∨ Answered w (.clockRead t :: s.trace)
    rw [answered_iff]
    exact h.open_or_answered w ((accepted_iff w).mp hw)
  · exact h.answered w ((answered_iff w).mp hw)
  · exact h.aborted w (by simpa [ConnectionPoolRuntime.observe] using hw)
  · refine ⟨t, rfl, ?_⟩
    rcases List.mem_cons.mp ht with e | ht
    · exact le_of_eq (Observation.clockRead.inj e)
    · obtain ⟨last, hl, hle⟩ := h.clock t' ht
      exact le_trans hle (hlast last hl)

theorem pushWaiter (h : QueueBook cfg s) (n : Nat) (deadline : Time)
    (hlen : s.waiters.length < cfg.maxWaiters) : QueueBook cfg (s.pushWaiter n deadline) := by
  generalize hs' : s.pushWaiter n deadline = s'
  have waiters_eq : s'.waiters = s.waiters ++ [s.nextWaiterId] := by rw [← hs']; rfl
  have next_eq : s'.nextWaiterId = s.nextWaiterId + 1 := by rw [← hs']; rfl
  have clock_eq : s'.lastClockValue = s.lastClockValue := by rw [← hs']; rfl
  have trace_eq : s'.trace = .accepted s.nextWaiterId n deadline :: s.trace := by
    rw [← hs']; rfl
  have new : s'.waiter s.nextWaiterId = ⟨n, deadline, true, 0, 0, 0, false⟩ := by
    rw [← hs']
    simp [ConnectionPoolRuntime.pushWaiter, ConnectionPoolRuntime.observe]
  have old : ∀ w, w ≠ s.nextWaiterId → s'.waiter w = s.waiter w := by
    intro w hw
    rw [← hs']
    simp [ConnectionPoolRuntime.pushWaiter, ConnectionPoolRuntime.observe, hw]
  have mem : ∀ w, w ∈ s'.waiters ↔ w ∈ s.waiters ∨ w = s.nextWaiterId := by
    intro w
    simp [waiters_eq]
  have fresh : s.nextWaiterId ∉ s.waiters := fun hw => Nat.lt_irrefl _ (h.waiters_lt _ hw)
  have accepted_iff : ∀ w, Accepted w s'.trace ↔ w = s.nextWaiterId ∨ Accepted w s.trace := by
    intro w
    simp [Accepted, trace_eq, exists_or]
  have answered_iff : ∀ w, Answered w s'.trace ↔ Answered w s.trace := by
    intro w
    simp [Answered, trace_eq]
  refine ⟨?_, fun w hw => ?_, fun w => ?_, ?_, fun w hw => ?_, fun w hw => ?_, fun w hw => ?_,
    fun w hw => ?_, fun w hw => ?_, fun t ht => ?_, ?_⟩
  · rw [waiters_eq, List.pairwise_append]
    refine ⟨h.sorted, by simp, fun a ha b hb => ?_⟩
    rw [List.mem_singleton.mp hb]
    exact h.waiters_lt a ha
  · rw [next_eq]
    rcases (mem w).mp hw with hw | rfl
    · exact Nat.lt_succ_of_lt (h.waiters_lt w hw)
    · exact Nat.lt_succ_self _
  · rw [mem]
    by_cases e : w = s.nextWaiterId
    · simp [e, new]
    · simp [e, old w e, h.active w]
  · rw [waiters_eq, List.length_append, List.length_singleton]
    exact hlen
  · rw [trace_eq]
    rcases (mem w).mp hw with hw | rfl
    · rw [old w (fun e => fresh (e ▸ hw))]
      exact List.mem_cons_of_mem _ (h.queued w hw)
    · rw [new]
      exact List.mem_cons_self ..
  · rw [next_eq]
    rcases (accepted_iff w).mp hw with rfl | hw
    · exact Nat.lt_succ_self _
    · exact Nat.lt_succ_of_lt (h.accepted_lt w hw)
  · rw [mem, answered_iff]
    rcases (accepted_iff w).mp hw with rfl | hw
    · exact Or.inl (Or.inr rfl)
    · exact (h.open_or_answered w hw).imp Or.inl id
  · obtain ⟨hlt, hnot⟩ := h.answered w ((answered_iff w).mp hw)
    rw [next_eq, mem]
    exact ⟨Nat.lt_succ_of_lt hlt, not_or.mpr ⟨hnot, Nat.ne_of_lt hlt⟩⟩
  · obtain ⟨hlt, hnot⟩ := h.aborted w (by simpa [trace_eq] using hw)
    rw [next_eq, mem]
    exact ⟨Nat.lt_succ_of_lt hlt, not_or.mpr ⟨hnot, Nat.ne_of_lt hlt⟩⟩
  · rw [clock_eq]
    exact h.clock t (by simpa [trace_eq] using ht)
  · rw [trace_eq]
    exact ⟨h.accepted_lt, h.law⟩

/-- An abort comes after the waiter has left the queue. -/
theorem abort (h : QueueBook cfg s) {w : Nat} (hw : w < s.nextWaiterId)
    (ha : (s.waiter w).active = false) : QueueBook cfg (s.observe (.aborted w)) := by
  have gone : w ∉ s.waiters := fun hmem => by
    rw [(h.active w).mpr hmem] at ha
    cases ha
  have accepted_iff : ∀ w', Accepted w' (.aborted w :: s.trace) ↔ Accepted w' s.trace := by
    simp [Accepted]
  have answered_iff : ∀ w', Answered w' (.aborted w :: s.trace) ↔ Answered w' s.trace := by
    simp [Answered]
  refine ⟨h.sorted, h.waiters_lt, h.active, h.length_le,
    fun w' hw' => List.mem_cons_of_mem _ (h.queued w' hw'), fun w' hw' => ?_, fun w' hw' => ?_,
    fun w' hw' => ?_, fun w' hw' => ?_, fun t ht => ?_, ⟨trivial, h.law⟩⟩
  · exact h.accepted_lt w' ((accepted_iff w').mp hw')
  · change w' ∈ s.waiters ∨ Answered w' (.aborted w :: s.trace)
    rw [answered_iff]
    exact h.open_or_answered w' ((accepted_iff w').mp hw')
  · exact h.answered w' ((answered_iff w').mp hw')
  · rcases List.mem_cons.mp hw' with e | hw'
    · obtain rfl := Observation.aborted.inj e
      exact ⟨hw, gone⟩
    · exact h.aborted w' hw'
  · exact h.clock t (by simpa [ConnectionPoolRuntime.observe] using ht)

/-- A waiter of the queue is answered. -/
theorem answer (h : QueueBook cfg s) {w : Nat} {o : Observation}
    (ha : (s.waiter w).active = true)
    (ho : (∃ leases, o = .granted w leases) ∨ ∃ e, o = .acquireRejected w e)
    (hlaw : WaiterLaw o s.trace) (hw : s'.waiters = s.waiters.erase w)
    (hx : ∀ w', (s'.waiter w').count = (s.waiter w').count ∧
      (s'.waiter w').deadline = (s.waiter w').deadline ∧
      ((s'.waiter w').active = true ↔ (s.waiter w').active = true ∧ w' ≠ w))
    (hn : s'.nextWaiterId = s.nextWaiterId) (hc : s'.lastClockValue = s.lastClockValue)
    (ht : s'.trace = o :: s.trace) : QueueBook cfg s' := by
  have nodup : s.waiters.Nodup := h.sorted.imp fun hlt => Nat.ne_of_lt hlt
  have hmem := (h.active w).mp ha
  have mem : ∀ w', w' ∈ s'.waiters ↔ w' ≠ w ∧ w' ∈ s.waiters := by
    intro w'
    rw [hw, nodup.mem_erase_iff]
  have accepted_iff : ∀ w', Accepted w' s'.trace ↔ Accepted w' s.trace := by
    intro w'
    rcases ho with ⟨ls, rfl⟩ | ⟨e, rfl⟩ <;> simp [Accepted, ht]
  have answered_iff : ∀ w', Answered w' s'.trace ↔ w' = w ∨ Answered w' s.trace := by
    intro w'
    rcases ho with ⟨ls, rfl⟩ | ⟨e, rfl⟩
    · simp only [Answered, ht, List.mem_cons, Observation.granted.injEq, exists_or,
        exists_and_left, exists_eq, and_true, reduceCtorEq, false_or, or_assoc]
    · simp only [Answered, ht, List.mem_cons, Observation.acquireRejected.injEq, exists_or,
        exists_and_left, exists_eq, and_true, reduceCtorEq, false_or]
      tauto
  refine ⟨?_, fun w' hw' => ?_, fun w' => ?_, ?_, fun w' hw' => ?_, fun w' hw' => ?_,
    fun w' hw' => ?_, fun w' hw' => ?_, fun w' hw' => ?_, fun t htime => ?_, ?_⟩
  · rw [hw]
    exact h.sorted.sublist List.erase_sublist
  · rw [hn]
    exact h.waiters_lt w' ((mem w').mp hw').2
  · rw [(hx w').2.2, mem, h.active w', and_comm]
  · rw [hw]
    exact Nat.le_trans List.length_erase_le h.length_le
  · rw [(hx w').1, (hx w').2.1, ht]
    exact List.mem_cons_of_mem _ (h.queued w' ((mem w').mp hw').2)
  · rw [hn]
    exact h.accepted_lt w' ((accepted_iff w').mp hw')
  · rw [mem, answered_iff]
    by_cases e : w' = w
    · exact Or.inr (Or.inl e)
    · exact (h.open_or_answered w' ((accepted_iff w').mp hw')).imp (fun hq => ⟨e, hq⟩) Or.inr
  · rw [hn, mem]
    rcases (answered_iff w').mp hw' with rfl | hw'
    · exact ⟨h.waiters_lt w' hmem, fun hq => hq.1 rfl⟩
    · exact ⟨(h.answered w' hw').1, fun hq => (h.answered w' hw').2 hq.2⟩
  · rw [hn, mem]
    have hold : .aborted w' ∈ s.trace := by
      rcases ho with ⟨ls, rfl⟩ | ⟨e, rfl⟩ <;> simpa [ht] using hw'
    exact ⟨(h.aborted w' hold).1, fun hq => (h.aborted w' hold).2 hq.2⟩
  · rw [hc]
    refine h.clock t ?_
    rcases ho with ⟨ls, rfl⟩ | ⟨e, rfl⟩ <;> simpa [ht] using htime
  · rw [ht]
    exact ⟨hlaw, h.law⟩

theorem dequeue_waiter (s : ConnectionPoolRuntime) (w w' : Nat) :
    ((s.dequeue w).waiter w').count = (s.waiter w').count ∧
      ((s.dequeue w).waiter w').deadline = (s.waiter w').deadline ∧
      (((s.dequeue w).waiter w').active = true ↔ (s.waiter w').active = true ∧ w' ≠ w) := by
  by_cases e : w' = w
  · subst e
    simp [dequeue, updateWaiter]
  · simp [dequeue, updateWaiter, e]

theorem reject (h : QueueBook cfg s) {w : Nat} (e : Failure) (ha : (s.waiter w).active = true) :
    QueueBook cfg ((s.dequeue w).observe (.acquireRejected w e)) := by
  have hw := (h.active w).mp ha
  refine h.answer ha (Or.inr ⟨e, rfl⟩) ⟨⟨_, _, h.queued w hw⟩, fun hans => ?_⟩ rfl
    (dequeue_waiter s w) rfl rfl rfl
  exact (h.answered w hans).2 hw

/-- The grant of fresh leases to the head of the queue, before its deadline. -/
theorem grant (h : QueueBook cfg s) (hl : LeaseBook s) {w : Nat} {healthy : List Nat} {t : Time}
    (ha : (s.waiter w).active = true) (head : s.waiters.head? = some w)
    (hlen : healthy.length = (s.waiter w).count) (ht : s.lastClockValue = some t)
    (hdue : t < (s.waiter w).deadline) :
    QueueBook cfg ({ s.dequeue w with toStore := issueLeases healthy s.toStore }.observe
      (.granted w (List.range' (s.lastLeaseGeneration + 1) healthy.length))) := by
  have hw := (h.active w).mp ha
  refine h.answer ha (Or.inl ⟨_, rfl⟩) ⟨?_, List.nodup_range', ?_, ?_, ?_, ?_⟩ rfl
    (dequeue_waiter s w) rfl rfl rfl
  · refine ⟨_, _, h.queued w hw, ?_, fun t' ht' => ?_⟩
    · rw [List.length_range', hlen]
    · obtain ⟨last, hlast, hle⟩ := h.clock t' ht'
      obtain rfl := Option.some.inj (ht.symm.trans hlast)
      exact lt_of_le_of_lt hle hdue
  · intro l hmem hold
    rw [List.mem_range'_1] at hmem
    have := hl.granted_le hold
    omega
  · exact fun hans => (h.answered w hans).2 hw
  · exact fun hab => (h.aborted w hab).2 hw
  · intro w' hlt hacc
    rcases h.open_or_answered w' hacc with hmem | hans
    · -- the head of a sorted queue is its least element
      obtain ⟨rest, hrest⟩ := List.head?_eq_some_iff.mp head
      have hsorted := h.sorted
      rw [hrest, List.pairwise_cons] at hsorted
      rw [hrest, List.mem_cons] at hmem
      rcases hmem with rfl | hmem
      · exact absurd hlt (Nat.lt_irrefl _)
      · have := hsorted.1 w' hmem
        omega
    · exact hans

theorem move {d d' : Desk} (h : QueueBook cfg d.pool) (booked : Booked cfg d)
    (hm : Move cfg d d') : QueueBook cfg d'.pool := by
  have same : ∀ (s : ConnectionPoolRuntime) w, (s.waiter w).count = (s.waiter w).count ∧
      (s.waiter w).deadline = (s.waiter w).deadline ∧
      (s.waiter w).active = (s.waiter w).active := fun _ _ => ⟨rfl, rfl, rfl⟩
  cases hm with
  | clock s V T t hlast => exact h.clockRead hlast
  | refuse s V T o ho => exact h.observe (by cases o <;> trivial)
  | accept s V T n deadline hopen hlen => exact h.pushWaiter n deadline hlen
  | timer s V T w f hf =>
      refine h.frame rfl (fun w' => ?_) rfl rfl rfl
      by_cases e : w' = w
      · subst e
        simpa [updateWaiter] using hf (s.waiter w')
      · simp [updateWaiter, e]
  | aborted s V T w hw ha => exact h.abort hw ha
  | reject s V T w e ha => exact h.reject e ha
  | shift s V T w rest hw ha =>
      have := (h.active w).mpr (by simp [hw])
      rw [ha] at this
      cases this
  | duplicate s V T c r => exact h.observe trivial
  | shutdown s V T requested =>
      exact (h.observe (o := .entered requested) trivial).frame rfl (same s) rfl rfl rfl
  | escalate s V T =>
      exact (h.observe (o := .entered .closing) trivial).frame rfl (same s) rfl rfl rfl
  | close s V T => exact (h.observe (o := .entered .closed) trivial).frame rfl (same s) rfl rfl rfl
  | admitRecord s V c r o x =>
      exact (h.observe (o := .admitted (s.creation c).operation s.nextPhysicalId) trivial).frame
        rfl (same s) rfl rfl rfl
  | grant s V T w healthy t hV hopen ha head hlen ht hdue =>
      exact h.grant booked.2 ha head hlen ht hdue
  | callbackStart s V T l =>
      exact (h.observe (o := .reached l (s.lease l).physical) trivial).frame rfl (same s) rfl rfl
        rfl
  | takeBack s V l =>
      exact (h.observe (o := .takenBack l (s.lease l).physical) trivial).frame rfl (same s) rfl
        rfl rfl
  | invoke s V T o x =>
      have h' : QueueBook cfg { s with
          toStore := s.toStore.updateOperation o { x with invoked := true } } :=
        h.frame rfl (same s) rfl rfl rfl
      change QueueBook cfg (s.invoke o x)
      unfold ConnectionPoolRuntime.invoke observeInvocation
      split
      · exact h'.observe trivial
      · exact h'.observe trivial
      · exact h'
  | settle s V T o x out =>
      have h' : QueueBook cfg { s with
          toStore := s.toStore.updateOperation o
            { x with raw := some out, result := some (x.result.getD out) } } :=
        h.frame rfl (same s) rfl rfl rfl
      change QueueBook cfg (s.settle o x out)
      unfold ConnectionPoolRuntime.settle observeDelivery
      split
      · exact h'.observe trivial
      · exact h'
  | _ => exact h.frame rfl (same _) rfl rfl rfl

end QueueBook

theorem queueBook_initial (cfg : Settings) : QueueBook cfg initial := by
  constructor <;>
    simp [initial, requestPump, dispatching, Accepted, Answered, History.Each]

theorem reachable_queueBook {cfg : Settings} {s : ConnectionPoolRuntime}
    (hs : (machine cfg).Reachable s) : QueueBook cfg s := by
  refine (reachable_desk (P := fun d => Booked cfg d ∧ QueueBook cfg d.pool)
    ⟨booked_initial cfg, queueBook_initial cfg⟩ ?_ ?_ hs).2
  · rintro d d' ⟨booked, h⟩ hm
    exact ⟨booked.move hm, h.move booked hm⟩
  · rintro d d' ⟨booked, h⟩ ht
    refine ⟨booked.turn ht, ?_⟩
    obtain ⟨D, -, -, rfl⟩ := ht
    exact h.frame rfl (fun _ => ⟨rfl, rfl, rfl⟩) rfl rfl rfl

/-- What a caller may rely on about its acquisitions: every answer of the run obeys the
law of the waiters, and the queue is bounded. -/
structure AcquisitionSafety (cfg : Settings) (s : ConnectionPoolRuntime) : Prop where
  law : ∀ post o past, s.trace = post ++ o :: past → WaiterLaw o past
  answered_once : ∀ w, s.trace.countP (·.answers w) ≤ 1
  waiters_le : s.waiters.length ≤ cfg.maxWaiters

end OpenRfc.Pool
