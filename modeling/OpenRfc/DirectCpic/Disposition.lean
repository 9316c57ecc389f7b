import OpenRfc.DirectCpic.Success
import OpenRfc.DirectCpic.Transmission

/-!
The disposition of a failure, against the state of the session when it is thrown.
-/

namespace OpenRfc.DirectCpic

variable {Fields Value : Type}

/-- The frames which have come in since the last exchange returned. -/
def unsolicited : List Observation → List Bytes
  | [] => []
  | .arrived frame :: past => unsolicited past ++ [frame]
  | .returned .. :: _ => []
  | _ :: past => unsolicited past

/-- The exchange has returned its message. -/
def Returned (x : Nat) (past : List Observation) : Prop :=
  ∃ payloads message ended, .returned x payloads message ended ∈ past

/-- What the disposition of a failure says of the session which it is thrown on. -/
structure Agrees (i : Nat) (failure : RfcFailure) (at_ : Snapshot) (past : List Observation) :
    Prop where
  shut : failure.disposition ≠ .reusable → at_.closed = true
  /-- Beside a logon which was accepted from a reply that ended the conversation, only another
  call which closes the session before a declared exception is decoded leaves a failure reusable
  on a closed session. -/
  reusable : failure.disposition = .reusable → at_.closed = false ∨
    (failure.phase = .envelopeDecode ∧ at_.setup ≠ .closed) ∨ ∃ j, .loggedOn j true ∈ past
  conversation : at_.setup = .closed → at_.closed = true
  notStarted : failure.disposition = .reusable → failure.transmission = .notStarted →
    at_.closed = false → ∀ x, .began x i ∈ past → Returned x past
  ready : at_.closed = false → at_.busy = false →
    at_.setup = .ready ∧ at_.frames <:+ unsolicited past

def Disposed : Observation → List Observation → Prop
  | .threw i failure _ at_, past => Agrees i failure at_ past
  | _, _ => True

/-- The operation is inside the exchange. -/
def Turn.InExchange (d : Turn Fields Value) (i x : Nat) : Prop :=
  match d.control with
  | .exchange j y _ _ => j = i ∧ y.id = x
  | _ => ∃ y, d.session.Exchanging i y ∧ y.id = x

/-- On an open session, an exchange which has begun and has not returned is still going on. -/
def Turn.Answered (d : Turn Fields Value) : Prop :=
  d.session.closed = false → ∀ x i, .began x i ∈ d.session.trace →
    Returned x d.session.trace ∨ d.InExchange i x

/-- What is queued while no exchange is going on came in after the last one. -/
def Turn.Unread (d : Turn Fields Value) : Prop :=
  match d.control with
  | .exchange _ _ _ (.complete _ false) => d.session.transport.frames = []
  | .exchange _ _ _ _ => True
  | _ => d.session.closed = false → d.session.busy = false →
      d.session.transport.frames <:+ unsolicited d.session.trace

namespace DirectCpicSession
variable {s s' : DirectCpicSession Fields Value} {i j x : Nat}

/-- The operation waits inside the exchange. -/
def WaitsIn (s : DirectCpicSession Fields Value) (i x : Nat) : Prop :=
  ∃ y, s.Exchanging i y ∧ y.id = x

theorem WaitsIn.settleReceive (h : s.WaitsIn i x) (outcome : Except Cause Bytes) :
    (s.settleReceive outcome).WaitsIn i x := by
  obtain ⟨y, hy, hid⟩ := h
  cases hp : s.transport.pendingReceive with
  | none =>
      rw [settleReceive_of_none hp]
      exact ⟨y, hy, hid⟩
  | some k =>
      refine ⟨_, (exchanging_settleReceive hp).mpr ⟨y, hy, rfl⟩, ?_⟩
      split
      · exact hid
      · exact hid

theorem WaitsIn.setStage {stage : Stage Fields Value} (h : s.WaitsIn i x) (ho : s.Outside j)
    (hs : stage.isOutside = true) : (s.setStage j stage).WaitsIn i x := by
  obtain ⟨y, hy, hid⟩ := h
  exact ⟨y, (ho.exchanging_setStage hs).mpr hy, hid⟩

theorem waitsIn_stopped {y : Exchange} {next : Except Thrown Bytes → Program Fields Value}
    (hi : i < s.operations.length) : (s.setStage i (.exchanging y next)).WaitsIn i y.id :=
  ⟨y, exchanging_setStage.mpr ⟨hi, next, rfl⟩, rfl⟩

theorem fail_frames (t : NiSocketTransport) (cause : Cause) :
    (t.fail cause).frames = [] ∨ (t.fail cause).frames = t.frames := by
  unfold NiSocketTransport.fail
  split
  · exact .inl rfl
  · exact .inr rfl

end DirectCpicSession

theorem Returned.cons {x : Nat} {o : Observation} {past : List Observation}
    (h : Returned x past) : Returned x (o :: past) := by
  obtain ⟨payloads, message, ended, h⟩ := h
  exact ⟨payloads, message, ended, List.mem_cons_of_mem o h⟩

/-- No exchange begins with what is observed, if anything is. -/
def Unbegun (past past' : List Observation) : Prop :=
  past' = past ∨ ∃ o, past' = o :: past ∧ ∀ x i, o ≠ .began x i

/-- A failure which closes its generation is thrown on a closed session. -/
theorem Agrees.closed {i : Nat} {failure : RfcFailure} {at_ : Snapshot} {past : List Observation}
    (hf : failure.disposition ≠ .reusable) (hc : at_.closed = true) :
    Agrees i failure at_ past where
  shut _ := hc
  reusable h := absurd h hf
  conversation _ := hc
  notStarted h := absurd h hf
  ready h := by cases h.symm.trans hc

open DirectCpicSession in
/-- A call which is refused before it begins an exchange. -/
theorem Agrees.refused {s : DirectCpicSession Fields Value} {i : Nat}
    {program : Program Fields Value} {failure : RfcFailure}
    (hc : Turn.Coherent ⟨s, .running i program⟩) (hans : Turn.Answered ⟨s, .running i program⟩)
    (hu : Turn.Unread ⟨s, .running i program⟩)
    (hf : failure.disposition = .reusable)
    (hopen : s.closed = false ∨ ∃ j, .loggedOn j true ∈ s.trace) :
    Agrees i failure s.snapshot s.trace where
  shut h := absurd hf h
  reusable _ := hopen.imp_right .inr
  conversation := hc.1.closed_of_setup
  notStarted _ _ hclosed x hx := by
    obtain hr | ⟨y, hy, -⟩ := hans hclosed x i hx
    · exact hr
    · exact absurd hy (hc.2.2 y)
  ready hclosed hbusy := ⟨hc.1.ready hbusy hclosed, hu hclosed hbusy⟩

namespace Turn
variable {d d' : Turn Fields Value}
open DirectCpicSession

theorem Answered.same (h : d.Answered)
    (hc : d'.session.closed = false → d.session.closed = false)
    (ht : Unbegun d.session.trace d'.session.trace)
    (hin : ∀ i x, d.InExchange i x → d'.InExchange i x) : d'.Answered := by
  intro hclosed x i hx
  obtain ht | ⟨o, ht, ho⟩ := ht
  · rw [ht] at hx ⊢
    exact (h (hc hclosed) x i hx).imp_right (hin i x)
  · rw [ht] at hx ⊢
    have hx : .began x i ∈ d.session.trace := by
      obtain rfl | hx := List.mem_cons.mp hx
      · exact absurd rfl (ho x i)
      · exact hx
    exact (h (hc hclosed) x i hx).imp Returned.cons (hin i x)

theorem Answered.closed (hc : d.session.closed = true) : d.Answered := by
  intro hclosed
  cases hclosed.symm.trans hc

theorem Answered.move {codec : Codec Fields Value} {lax : Lax} (h : d.Answered)
    (hc : d.Coherent) (hl : d.Linked) (hm : Move codec lax d d') : d'.Answered := by
  cases hm with
  | @arrived s frame ho =>
      cases hp : s.transport.pendingReceive with
      | none =>
          rw [arrive_of_none hp]
          exact h.same id (.inr ⟨_, rfl, by simp⟩) fun _ _ hin => hin
      | some i =>
          rw [arrive_of_some hp]
          have hclosed := (s.observe (.arrived frame)).settleReceive_closed (.ok frame)
          refine h.same (fun hc => hclosed.symm.trans hc) (.inr ⟨.arrived frame,
            (settleReceive_fields _ _).2.2.2.1, by simp⟩) fun i x hin => ?_
          exact WaitsIn.settleReceive (s := s.observe (.arrived frame)) hin _
  | transportFailed cause =>
      exact h.same (fun hc => (settleReceive_closed _).symm.trans hc)
        (.inl (settleReceive_fields _ _).2.2.2.1) fun i x hin => WaitsIn.settleReceive hin _
  | @sendSettled s i o x next index step rest outcome ho hs hx =>
      refine h.same id (.inl rfl) fun j n hin => ?_
      obtain ⟨y, hy, rfl⟩ := hin
      by_cases hj : j = i
      · subst hj
        obtain rfl := hy.unique ⟨o, next, ho, hs⟩
        exact waitsIn_stopped hy.lt
      · exact ⟨y, (exchanging_setStage_ne hj).mpr hy, rfl⟩
  | closed hclosed hb ho hg =>
      exact .closed (close_closed (by simp [hclosed, hb, ho]))
  | closeFinished hd => exact .closed (closeTransport_closed.trans (hl.closing hd).1)
  | called c hg =>
      refine h.same id (.inl rfl) fun j n hin => ?_
      obtain ⟨y, hy, hid⟩ := hin
      exact ⟨y, exchanging_addOperation.mpr hy, hid⟩
  | resumed ho hs => exact h.same id (.inl rfl) fun _ _ hin => hin
  | threwTerminated ho hs =>
      exact h.same id (.inr ⟨_, rfl, by simp⟩) fun _ _ hin =>
        WaitsIn.setStage (s := observe _ _) hin (.of_stage ho (by rw [hs]; rfl)) rfl
  | resolved value | rejected e | declaredException failure next hf hp ht hs hr =>
      exact h.same id (.inr ⟨_, rfl, by simp⟩) fun _ _ hin =>
        WaitsIn.setStage (s := observe _ _) hin hc.2 rfl
  | deallocated next hs | answered decoded next hs | exchangeBusy next hclosed hok =>
      exact h.same id (.inr ⟨_, rfl, by simp⟩) fun _ _ hin =>
        WaitsIn.setStage (s := observe _ _) hin hc.2 rfl
  | requestRefused next hclosed hok hr =>
      exact h.same id (.inr ⟨_, rfl, by simp⟩) fun _ _ hin =>
        WaitsIn.setStage (s := observe _ _) hin hc.2 rfl
  | readAuthenticated next | readSessionId next | readDescriptor key next =>
      exact h.same id (.inl rfl) fun _ _ hin => hin
  | stored key value next | claimed next hok | released next hr =>
      exact h.same id (.inl rfl) fun _ _ hin => hin
  | claimRefused next hok | loggedOn value next hg =>
      exact h.same id (.inr ⟨_, rfl, by simp⟩) fun _ _ hin => hin
  | ticked next | bcdFailed message next | exchangeClosed next hclosed =>
      exact h.same id (.inl rfl) fun _ _ hin => WaitsIn.setStage hin hc.2 rfl
  | valueMalformed message next hg => exact .closed terminateGeneration_closed
  | logonFailed failure next hf hg | responseFailed failure next hf hg =>
      exact .closed terminateGeneration_closed
  | caught y cause transmission hy hpoint hg => exact .closed terminateGeneration_closed
  | ended message hd hs hg => exact .closed terminateGeneration_closed
  | failed hx =>
      have hfit := hc.1.fits
      unfold Fits StageFits at hfit
      rw [hx] at hfit
      exact .closed hfit.1
  | @began s i request allowCallbacks owned outgoingPlan next hopen ha =>
      have hfree := hc.1.free (assertExchangeAvailable_ok ha)
      intro _ n j hn
      obtain hn | hn := List.mem_cons.mp hn
      · cases hn
        exact .inr ⟨rfl, rfl⟩
      · obtain hr | ⟨y, hy, -⟩ := h hopen n j hn
        · exact .inl hr.cons
        · exact absurd hy (hfree.nobody j y)
  | @taken s i o x next ho hs hx =>
      refine h.same id (.inl rfl) fun j n hin => ?_
      obtain ⟨y, hy, rfl⟩ := hin
      obtain hfree | ⟨k, z, hz, hh⟩ : s.Waiting := hc
      · exact absurd hy (hfree.nobody j y)
      · obtain rfl := hh.alone j y hy
        obtain rfl := hh.alone i x ⟨o, next, ho, hs⟩
        obtain rfl := hy.unique ⟨o, next, ho, hs⟩
        exact ⟨rfl, rfl⟩
  | frameQueued cause hpoint =>
      exact h.same (fun hc => (settleReceive_closed _).symm.trans hc)
        (.inl (settleReceive_fields _ _).2.2.2.1) fun _ _ hin => hin
  | planned steps y hy hpoint hs hp =>
      exact h.same id (.inr ⟨_, rfl, by simp⟩) fun _ _ hin => ⟨hin.1, hy.trans hin.2⟩
  | sendAccepted hx hf | completed message hd hq hs | completeRefused | completedEnded hx =>
      exact h.same id (.inl rfl) fun _ _ hin => hin
  | acknowledged setup hx hs | read hx =>
      exact h.same id (.inr ⟨_, rfl, by simp⟩) fun _ _ hin => hin
  | sent hs =>
      refine h.same id (.inr ⟨_, rfl, by simp⟩) fun _ _ hin => ?_
      obtain ⟨rfl, rfl⟩ := hin
      exact waitsIn_stopped hc.2.1
  | awaitsAcknowledgement hx hf | written | readMore hs =>
      refine h.same id (.inl rfl) fun _ _ hin => ?_
      obtain ⟨rfl, rfl⟩ := hin
      exact waitsIn_stopped hc.2.1
  | writerFailed index cause hpoint =>
      refine h.same (fun hc => closeTransport_closed.symm.trans hc) (.inl closeTransport_trace)
        fun _ _ hin => ?_
      obtain ⟨rfl, rfl⟩ := hin
      refine waitsIn_stopped ?_
      rw [closeTransport_fields (hc.1.notPending hc.2.2)]
      exact hc.2.1
  | @returned s i x next message ended =>
      intro hclosed n j hn
      obtain hn | hn := List.mem_cons.mp hn
      · cases hn
      · obtain hr | ⟨rfl, rfl⟩ := h hclosed n j hn
        · exact .inl hr.cons
        · exact .inl ⟨_, _, _, List.mem_cons_self⟩

/-- While an exchange goes on, or on a closed session, nothing is said of the queue. -/
theorem Unread.of_busy {s : DirectCpicSession Fields Value}
    (h : s.closed = true ∨ s.busy = true) : Unread (⟨s, .idle⟩ : Turn Fields Value) := by
  intro hc hb
  obtain h | h := h
  · cases hc.symm.trans h
  · cases hb.symm.trans h

theorem Unread.move {codec : Codec Fields Value} {lax : Lax} (h : d.Unread)
    (hc : d.Coherent) (hl : d.Linked) (hm : Move codec lax d d') : d'.Unread := by
  cases hm with
  | @arrived s frame ho =>
      cases hp : s.transport.pendingReceive with
      | none =>
          rw [arrive_of_none hp]
          intro hclosed hbusy
          obtain ⟨front, hfront⟩ := h hclosed hbusy
          exact ⟨front, (List.append_assoc _ _ _).symm.trans (congrArg (· ++ [frame]) hfront)⟩
      | some i =>
          rw [arrive_of_some hp]
          refine .of_busy (.inr ?_)
          rw [(settleReceive_fields _ _).2.1]
          obtain hfree | ⟨j, x, -, hh⟩ : s.Waiting := hc
          · cases hp.symm.trans hfree.receiving
          · exact hh.busy
  | @transportFailed s cause =>
      intro hclosed hbusy
      have hfields := s.settleReceive_fields (.error (s.transport.terminalError.getD cause))
      have hqueued := h ((settleReceive_closed _).symm.trans hclosed)
        (hfields.2.1.symm.trans hbusy)
      change (NiSocketTransport.fail _ cause).frames <:+ _
      obtain hf | hf := fail_frames (s.settleReceive
        (.error (s.transport.terminalError.getD cause))).transport cause
      · rw [hf]
        exact List.nil_suffix
      · rw [hf, hfields.2.2.2.2.2.2]
        change _ <:+ unsolicited (settleReceive _ _).trace
        rw [hfields.2.2.2.1]
        exact hqueued
  | closed hclosed hb ho hg => exact .of_busy (.inl (close_closed (by simp [hclosed, hb, ho])))
  | closeFinished hd =>
      exact .of_busy (.inl (closeTransport_closed.trans (hl.closing hd).1))
  | valueMalformed message next hg => exact .of_busy (.inl terminateGeneration_closed)
  | logonFailed failure next hf hg | responseFailed failure next hf hg =>
      exact .of_busy (.inl terminateGeneration_closed)
  | caught y cause transmission hy hpoint hg => exact .of_busy (.inl terminateGeneration_closed)
  | ended message hd hs hg => exact .of_busy (.inl terminateGeneration_closed)
  | failed hx =>
      have hfit := hc.1.fits
      unfold Fits StageFits at hfit
      rw [hx] at hfit
      exact .of_busy (.inl hfit.1)
  | sent hs | awaitsAcknowledgement hx hf | written | readMore hs =>
      exact .of_busy (.inr hc.1.busy)
  | writerFailed index cause hpoint =>
      exact .of_busy (.inr ((settleReceive_fields _ _).2.1.trans hc.1.busy))
  | @returned s i x next message ended =>
      cases ended with
      | true => exact .of_busy (.inl hc.1.fits.2)
      | false =>
          intro _ _
          have hframes : s.transport.frames = [] := h
          rw [show (s.returnMessage i next x message false).transport = s.transport from rfl,
            hframes]
          exact List.nil_suffix
  | completed message hd hq hs => exact (assertNoQueuedFrames_ok hq).2
  | frameQueued cause hpoint => obtain rfl | rfl := hpoint <;> exact trivial
  | began | taken | planned | sendAccepted | acknowledged | read => exact trivial
  | completeRefused | completedEnded => exact trivial
  | _ => exact h

end Turn

open DirectCpicSession in
theorem disposed_move {codec : Codec Fields Value} {lax : Lax} {d d' : Turn Fields Value}
    (h : History.Each Disposed d.session.trace) (hc : d.Coherent) (hl : d.Linked)
    (ha : d.Aware codec lax) (hans : d.Answered) (hu : d.Unread) (hm : Move codec lax d d') :
    History.Each Disposed d'.session.trace := by
  cases hm with
  | arrived frame ho => exact each_arrive h trivial
  | closed hclosed hb ho hg => exact each_close h trivial trivial
  | transportFailed cause | frameQueued cause hpoint => exact each_settleReceive h _
  | writerFailed index cause hpoint => exact each_settleReceive h _
  | @closeFinished s hd =>
      exact each_settleReceive (s := { s with deallocating := false }) h _
  | valueMalformed message next hg => exact each_terminateGeneration h trivial
  | logonFailed failure next hf hg | responseFailed failure next hf hg =>
      exact each_terminateGeneration h trivial
  | ended message hd hs hg => exact each_terminateGeneration h trivial
  | caught y cause transmission hy hpoint hg => exact ⟨trivial, each_terminateGeneration h trivial⟩
  | sendSettled outcome ho hs hx | called c hg | resumed ho hs => exact h
  | readAuthenticated next | readSessionId next | readDescriptor key next => exact h
  | stored key value next | claimed next hok | released next hr | ticked next => exact h
  | bcdFailed message next | exchangeClosed next hclosed | taken ho hs hx => exact h
  | sendAccepted hx hf | awaitsAcknowledgement hx hf | written | readMore hs => exact h
  | completed message hd hq hs | completeRefused | completedEnded hx => exact h
  | loggedOn value next hg | answered decoded next hs | rejected e | resolved value =>
      exact ⟨trivial, h⟩
  | began outgoingPlan next hclosed hok | planned steps y hy hpoint hs hp | sent hs =>
      exact ⟨trivial, h⟩
  | acknowledged setup hx hs | read hx | returned => exact ⟨trivial, h⟩
  | @threwTerminated s i o failure program ho hs =>
      have hi := ha.others _ _ nofun ho
      rw [hs] at hi
      obtain ⟨hf, hclosed, -⟩ := hi
      exact ⟨.closed hf hclosed, h⟩
  | @failed s i x next failure hx =>
      have hfit := hc.1.fits
      unfold Fits StageFits at hfit
      rw [hx] at hfit
      exact ⟨.closed hfit.2 hfit.1, h⟩
  | @deallocated s i response kind next hs =>
      refine ⟨.closed ?_ (hc.1.closed_of_setup hs), h⟩
      rw [RfcFailure.disposition_eq]
      exact nofun
  | @declaredException s i response kind failure next hf hp ht hs hr =>
      refine ⟨?_, h⟩
      exact
        { shut := fun hn => absurd hf hn
          reusable := fun _ => .inr (.inl ⟨hp, hs⟩)
          conversation := hc.1.closed_of_setup
          notStarted := fun _ hn => by cases hn.symm.trans ht
          ready := fun hclosed hbusy => ⟨hc.1.ready hbusy hclosed, hu hclosed hbusy⟩ }
  | @exchangeBusy s i request allowCallbacks owned failure next hclosed hok =>
      refine ⟨.refused hc hans hu ?_ (.inl hclosed), h⟩
      rw [assertExchangeAvailable_error hok]
      exact concurrentCallFailure_disposition _
  | requestRefused next hclosed hok hr =>
      exact ⟨.refused hc hans hu (requestEncodingFailure_disposition _) (.inl hclosed), h⟩
  | @claimRefused s i failure next hok =>
      obtain ⟨k, hk, hlive, -⟩ := ha.running
      refine ⟨.refused hc hans hu ?_ ?_, h⟩
      · rw [assertExchangeAvailable_error hok]
        exact concurrentCallFailure_disposition _
      · cases hclosed : s.closed with
        | false => exact .inl rfl
        | true => exact .inr ((ha.shut hclosed).resolve_left (hk.live hlive))

/-- A ping is refused while another one is in flight. -/
def refusedPing : List (Event Unit Nat) := loggedOn ++ [.call .ping, .call .ping]

/-- A stronger agreement: the disposition tells the closed sessions from the others exactly, an
operation which fails before a transmission has begun no exchange, and a session which is open
after a failure is between two exchanges. -/
def ExactlyDisposed : Observation → List Observation → Prop
  | .threw i failure _ at_, past =>
      (failure.disposition = .reusable ↔ at_.closed = false) ∧
        (failure.disposition = .reusable → failure.transmission = .notStarted →
          ∀ x, .began x i ∉ past) ∧
        (at_.closed = false → at_.setup = .ready ∧ at_.frames = [])
  | _, _ => True

end OpenRfc.DirectCpic
