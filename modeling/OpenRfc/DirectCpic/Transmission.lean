import OpenRfc.DirectCpic.Exchanges

/-!
What a session sends and receives. The records of a plan go out in their order and once, a
message is made of the frames which came after them, and after a failed exchange nothing is
sent any more.
-/

namespace OpenRfc.DirectCpic

variable {Fields Value : Type}

/-- The exchange which has begun and has neither returned nor failed. -/
def inFlight : List Observation → Option Nat
  | [] => none
  | .began x _ :: _ => some x
  | .returned _ _ _ _ :: _ | .failed _ :: _ => none
  | _ :: past => inFlight past

/-- The records of the last plan which have not been handed to the transport. -/
def remaining : List Observation → List Bytes
  | [] => []
  | .planned _ records :: _ => records
  | .sent _ _ _ :: past => (remaining past).tail
  | _ :: past => remaining past

/-- The frames which have arrived, in their order. -/
def arrivals : List Observation → List Bytes
  | [] => []
  | .arrived frame :: past => arrivals past ++ [frame]
  | _ :: past => arrivals past

/-- The frames which exchanges have received, in their order. -/
def receipts : List Observation → List Bytes
  | [] => []
  | .received _ frame :: past => receipts past ++ [frame]
  | _ :: past => receipts past

/-- The frames which have been received since a record was last sent. -/
def replyFrames : List Observation → List Bytes
  | [] => []
  | .sent _ _ _ :: _ => []
  | .received _ frame :: past => replyFrames past ++ [frame]
  | _ :: past => replyFrames past

/-- The decoder makes a message with these data of the payloads. -/
def DecodedFrom (codec : Codec Fields Value) (payloads : List Bytes) (data : Bytes)
    (ended : Bool) : Prop :=
  ∃ allowInitialReceive front last message, payloads = front ++ [last] ∧ message.data = data ∧
    if ended then
      codec.pushTerminalDeallocation allowInitialReceive front last = .ok message
    else
      codec.push allowInitialReceive front last = .ok (some message)

/-- What may be observed after what. An exchange begins on a session which is open and which no
other exchange holds. A plan is begun with no frame left over, its records are handed out from
the head, and the frames of the returned message have all been received since. -/
def Transmitted (codec : Codec Fields Value) : Observation → List Observation → Prop
  | .began _ _, past =>
      inFlight past = none ∧ remaining past = [] ∧ .terminated ∉ past ∧ .closing ∉ past
  | .planned x records, past =>
      inFlight past = some x ∧ remaining past = [] ∧ receipts past = arrivals past ∧
        ∃ plan steps, codec.prepare plan = .ok steps ∧ records = steps.map (·.record)
  | .sent x record isOpen, past =>
      inFlight past = some x ∧ (remaining past).head? = some record ∧
        (∀ y, .failed y ∉ past) ∧ .closing ∉ past ∧ (.terminated ∈ past → isOpen = false)
  | .received x frame, past =>
      inFlight past = some x ∧ receipts past ++ [frame] <+: arrivals past
  | .returned x payloads data ended, past =>
      inFlight past = some x ∧ remaining past = [] ∧ payloads <:+ replyFrames past ∧
        DecodedFrom codec payloads data ended ∧ (ended = true → .terminated ∈ past)
  | .failed x, past => inFlight past = some x ∧ .terminated ∈ past
  | .closing, past => inFlight past = none ∧ .terminated ∉ past ∧ .closing ∉ past
  | .deallocateSent, past => inFlight past = none ∧ .terminated ∉ past
  | _, _ => True

/-- The observations which are not about what is sent and received. -/
def Observation.isAside : Observation → Bool
  | .threw _ _ _ _ | .answered _ _ | .loggedOn _ _ | .resolved _ _ _ _ | .rejected _ _ => true
  | _ => false

section
variable {codec : Codec Fields Value} {past : List Observation} {x : Nat}

theorem terminated_of_failed (h : History.Each (Transmitted codec) past) {y : Nat}
    (hy : .failed y ∈ past) : .terminated ∈ past := by
  induction past with
  | nil => cases hy
  | cons o past ih =>
      obtain rfl | hy := List.mem_cons.mp hy
      · exact List.mem_cons_of_mem _ h.1.2
      · exact List.mem_cons_of_mem _ (ih h.2 hy)

/-- While an exchange is in flight, none has failed and nobody has closed the session. -/
theorem open_of_inFlight (h : History.Each (Transmitted codec) past)
    (hx : inFlight past = some x) : (∀ y, .failed y ∉ past) ∧ .closing ∉ past := by
  induction past with
  | nil => cases hx
  | cons o past ih =>
      obtain ⟨ho, hpast⟩ := h
      cases o with
      | began z i =>
          obtain ⟨-, -, hterminated, hclosing⟩ := ho
          refine ⟨fun y hy => ?_, by simpa using hclosing⟩
          exact hterminated (terminated_of_failed hpast (by simpa using hy))
      | returned z payloads data ended => cases hx
      | failed z => cases hx
      | closing =>
          have hx : inFlight past = some x := hx
          rw [ho.1] at hx
          cases hx
      | _ => simpa using ih hpast hx

end

/-- The records, the frames and the state of the session agree. `settled` are the frames which
have been handed to an exchange that has not gone on yet. -/
structure Ledger (codec : Codec Fields Value) (trace : List Observation) (closed isOpen : Bool)
    (frames : List Bytes) (flight : Option Nat) (records payloads settled : List Bytes) :
    Prop where
  law : History.Each (Transmitted codec) trace
  ended : closed = true ↔ .terminated ∈ trace ∨ .closing ∈ trace
  dead : .terminated ∈ trace → isOpen = false
  inFlight : inFlight trace = flight
  remaining : remaining trace = records
  reply : payloads <:+ replyFrames trace
  received : receipts trace ++ settled <+: arrivals trace
  queued : isOpen = true → arrivals trace = receipts trace ++ settled ++ frames

def DirectCpicSession.Ledger (codec : Codec Fields Value) (s : DirectCpicSession Fields Value)
    (flight : Option Nat) (records payloads settled : List Bytes) : Prop :=
  DirectCpic.Ledger codec s.trace s.closed s.transport.isOpen s.transport.frames flight records
    payloads settled

/-- The frames which a settled `receive` has handed over. -/
def settledFrames : Option (Except Cause Bytes) → List Bytes
  | some (.ok frame) => [frame]
  | _ => []

namespace DirectCpicSession

/-- What is on record while an exchange waits. -/
def StageKept (codec : Codec Fields Value) (s : DirectCpicSession Fields Value) (x : Exchange) :
    ExchangeStage → Prop
  | .sending _ _ rest _ => s.Ledger codec (some x.id) (rest.map (·.record)) [] []
  | .acknowledging _ _ rest outcome =>
      s.Ledger codec (some x.id) (rest.map (·.record)) [] (settledFrames outcome) ∧
        (outcome = none → s.transport.frames = [])
  | .writerClosing _ _ => ∃ records, s.Ledger codec (some x.id) records [] []
  | .receiving outcome =>
      s.Ledger codec (some x.id) [] x.payloads (settledFrames outcome) ∧
        (outcome = none → s.transport.frames = [])
  | .deallocating message =>
      s.Ledger codec (some x.id) [] x.payloads [] ∧ Decodes codec x message true ∧
        .terminated ∈ s.trace
  | .failing _ => (∃ records, s.Ledger codec none records [] []) ∧ .terminated ∈ s.trace

/-- What is on record at a point of an exchange. -/
def Kept (codec : Codec Fields Value) (s : DirectCpicSession Fields Value) (x : Exchange) :
    Point → Prop
  | .taken => s.StageKept codec x x.stage
  | .began => s.Ledger codec (some x.id) [] [] []
  | .writing _ steps => s.Ledger codec (some x.id) (steps.map (·.record)) [] []
  | .read => s.Ledger codec (some x.id) [] x.payloads []
  | .complete message ended =>
      s.Ledger codec (some x.id) [] x.payloads [] ∧ Decodes codec x message ended ∧
        (ended = true → .terminated ∈ s.trace) ∧
        (ended = false → s.transport.isOpen = true ∧ s.transport.frames = [])

/-- What is on record while no exchange holds the session. -/
def Rest (codec : Codec Fields Value) (s : DirectCpicSession Fields Value) : Prop :=
  ∃ records, s.Ledger codec none records [] [] ∧ (s.closed = false → records = [])

end DirectCpicSession

def Turn.Recorded (codec : Codec Fields Value) (d : Turn Fields Value) : Prop :=
  match d.control with
  | .exchange _ x _ point => d.session.Kept codec x point
  | _ =>
      (d.session.busy = false → d.session.Rest codec) ∧
        ∀ i x, d.session.Exchanging i x → d.session.Kept codec x .taken

section
variable {codec : Codec Fields Value} {trace : List Observation} {closed isOpen : Bool}
  {frames : List Bytes} {flight : Option Nat} {records payloads settled : List Bytes}

/-- An observation which is not about sending and receiving. -/
theorem Ledger.aside
    (h : Ledger codec trace closed isOpen frames flight records payloads settled)
    {o : Observation} (ho : o.isAside = true) :
    Ledger codec (o :: trace) closed isOpen frames flight records payloads settled := by
  cases o with
  | threw _ _ _ _ | answered _ _ | loggedOn _ | resolved _ _ _ _ | rejected _ _ =>
      exact
        { h with
          law := ⟨trivial, h.law⟩
          ended := by simpa using h.ended
          dead := by simpa using h.dead }
  | _ => cases ho

/-- The transport is closed. -/
theorem Ledger.disconnected
    (h : Ledger codec trace closed isOpen frames flight records payloads settled)
    (queue : List Bytes) :
    Ledger codec trace closed false queue flight records payloads settled :=
  { h with
    dead := fun _ => rfl
    queued := nofun }

/-- Frames which are not looked at any more. -/
theorem Ledger.dropped
    (h : Ledger codec trace closed false frames flight records payloads settled) :
    Ledger codec trace closed false frames flight records [] [] :=
  { h with
    reply := List.nil_suffix
    received := by
      rw [List.append_nil]
      exact (List.prefix_append _ _).trans h.received
    queued := nofun }

/-- The generation is terminated. -/
theorem Ledger.terminated
    (h : Ledger codec trace closed isOpen frames flight records payloads settled)
    (queue : List Bytes) :
    Ledger codec (.terminated :: trace) true false queue flight records payloads settled :=
  { h with
    law := ⟨trivial, h.law⟩
    ended := by simp
    dead := fun _ => rfl
    queued := nofun }

/-- A frame is queued. -/
theorem Ledger.arrivedQueued
    (h : Ledger codec trace closed true frames flight records payloads settled) (frame : Bytes) :
    Ledger codec (.arrived frame :: trace) closed true (frames ++ [frame]) flight records payloads
      settled :=
  { h with
    law := ⟨trivial, h.law⟩
    ended := by simpa using h.ended
    dead := by simpa using h.dead
    received := h.received.trans (List.prefix_append _ _)
    queued := fun _ => by
      change arrivals trace ++ [frame] = receipts trace ++ settled ++ (frames ++ [frame])
      rw [h.queued rfl, List.append_assoc _ frames] }

/-- A frame is handed over. -/
theorem Ledger.arrivedSettled
    (h : Ledger codec trace closed true [] flight records payloads []) (frame : Bytes) :
    Ledger codec (.arrived frame :: trace) closed true [] flight records payloads [frame] := by
  have harrivals : arrivals (.arrived frame :: trace) =
      receipts (.arrived frame :: trace) ++ [frame] := by
    change arrivals trace ++ [frame] = receipts trace ++ [frame]
    rw [h.queued rfl, List.append_nil, List.append_nil]
  exact
    { h with
      law := ⟨trivial, h.law⟩
      ended := by simpa using h.ended
      dead := by simpa using h.dead
      received := by simp [harrivals]
      queued := fun _ => by
        rw [harrivals, List.append_nil] }

theorem Ledger.forget
    (h : Ledger codec trace closed isOpen frames flight records payloads settled) :
    Ledger codec trace closed isOpen frames flight records [] settled :=
  { h with reply := List.nil_suffix }

theorem Ledger.not_terminated
    (h : Ledger codec trace false isOpen frames flight records payloads settled) :
    .terminated ∉ trace ∧ .closing ∉ trace := by
  rw [← not_or, ← h.ended]
  exact nofun

theorem Ledger.began {i x : Nat}
    (h : Ledger codec trace false isOpen frames none [] payloads settled) :
    Ledger codec (.began x i :: trace) false isOpen frames (some x) [] payloads settled :=
  { h with
    law := ⟨⟨h.inFlight, h.remaining, h.not_terminated⟩, h.law⟩
    ended := by simpa using h.ended
    dead := by simpa using h.dead
    inFlight := rfl }

theorem Ledger.planned {x : Nat} {plan : List AppcOutgoingDataFragment}
    {steps : List OutgoingStep}
    (h : Ledger codec trace closed true [] (some x) [] payloads [])
    (hp : codec.prepare plan = .ok steps) :
    Ledger codec (.planned x (steps.map (·.record)) :: trace) closed true [] (some x)
      (steps.map (·.record)) payloads [] :=
  { h with
    law := ⟨⟨h.inFlight, h.remaining, by simpa using (h.queued rfl).symm, plan, steps, hp, rfl⟩,
      h.law⟩
    ended := by simpa using h.ended
    dead := by simpa using h.dead
    remaining := rfl }

theorem Ledger.sent {x : Nat} {record : Bytes}
    (h : Ledger codec trace closed isOpen frames (some x) (record :: records) payloads settled) :
    Ledger codec (.sent x record isOpen :: trace) closed isOpen frames (some x) records []
      settled := by
  obtain ⟨hfailed, hclosing⟩ := open_of_inFlight h.law h.inFlight
  exact
    { h with
      law := ⟨⟨h.inFlight, by rw [h.remaining]; rfl, hfailed, hclosing, h.dead⟩, h.law⟩
      ended := by simpa using h.ended
      dead := by simpa using h.dead
      remaining := by
        change (DirectCpic.remaining trace).tail = records
        rw [h.remaining]
        rfl
      reply := List.nil_suffix }

theorem Ledger.receivedFrame {x : Nat} {frame : Bytes}
    (h : Ledger codec trace closed isOpen frames (some x) records payloads [frame]) :
    Ledger codec (.received x frame :: trace) closed isOpen frames (some x) records
      (payloads ++ [frame]) [] :=
  { h with
    law := ⟨⟨h.inFlight, h.received⟩, h.law⟩
    ended := by simpa using h.ended
    dead := by simpa using h.dead
    reply := by
      obtain ⟨front, hfront⟩ := h.reply
      exact ⟨front, by rw [← List.append_assoc, hfront]; rfl⟩
    received := by
      rw [List.append_nil]
      exact h.received
    queued := fun ho => by
      rw [List.append_nil]
      exact h.queued ho }

theorem Ledger.returned {x : Nat} {data : Bytes} {ended : Bool}
    (h : Ledger codec trace closed isOpen frames (some x) [] payloads settled)
    (hd : DecodedFrom codec payloads data ended) (he : ended = true → .terminated ∈ trace) :
    Ledger codec (.returned x payloads data ended :: trace) closed isOpen frames none [] payloads
      settled :=
  { h with
    law := ⟨⟨h.inFlight, h.remaining, h.reply, hd, he⟩, h.law⟩
    ended := by simpa using h.ended
    dead := by simpa using h.dead
    inFlight := rfl }

theorem Ledger.failed {x : Nat}
    (h : Ledger codec trace closed isOpen frames (some x) records payloads settled)
    (ht : .terminated ∈ trace) :
    Ledger codec (.failed x :: trace) closed isOpen frames none records payloads settled :=
  { h with
    law := ⟨⟨h.inFlight, ht⟩, h.law⟩
    ended := by simpa using h.ended
    dead := by simpa using h.dead
    inFlight := rfl }

theorem Ledger.closing
    (h : Ledger codec trace false isOpen frames none records payloads settled) :
    Ledger codec (.closing :: trace) true isOpen frames none records payloads settled :=
  { h with
    law := ⟨⟨h.inFlight, h.not_terminated⟩, h.law⟩
    ended := by simp
    dead := by simpa using h.dead }

theorem Ledger.deallocateSent
    (h : Ledger codec trace closed isOpen frames none records payloads settled)
    (ht : .terminated ∉ trace) :
    Ledger codec (.deallocateSent :: trace) closed isOpen frames none records payloads settled :=
  { h with
    law := ⟨⟨h.inFlight, ht⟩, h.law⟩
    ended := by simpa using h.ended
    dead := by simpa using h.dead }

end

namespace DirectCpicSession
variable {codec : Codec Fields Value} {s s' : DirectCpicSession Fields Value} {i : Nat}
  {x : Exchange} {point : Point}

/-- What is on record while no exchange is running. -/
def Logged (codec : Codec Fields Value) (s : DirectCpicSession Fields Value) : Prop :=
  (s.busy = false → s.Rest codec) ∧ ∀ i x, s.Exchanging i x → s.Kept codec x .taken

/-- What the record of a waiting session depends on. -/
structure Steady (codec : Codec Fields Value) (s s' : DirectCpicSession Fields Value) : Prop where
  ledger : ∀ flight records payloads settled, s.Ledger codec flight records payloads settled →
    s'.Ledger codec flight records payloads settled
  terminated : .terminated ∈ s.trace → .terminated ∈ s'.trace

theorem StageKept.steady {stage : ExchangeStage} (h : s.StageKept codec x stage)
    (hs : s.Steady codec s')
    (hf : stage.isPending = true → s.transport.frames = [] → s'.transport.frames = []) :
    s'.StageKept codec x stage := by
  cases stage with
  | sending index step rest outcome => exact hs.ledger _ _ _ _ h
  | acknowledging index step rest outcome =>
      refine ⟨hs.ledger _ _ _ _ h.1, ?_⟩
      rintro rfl
      exact hf rfl (h.2 rfl)
  | writerClosing index cause =>
      obtain ⟨records, hl⟩ := h
      exact ⟨records, hs.ledger _ _ _ _ hl⟩
  | receiving outcome =>
      refine ⟨hs.ledger _ _ _ _ h.1, ?_⟩
      rintro rfl
      exact hf rfl (h.2 rfl)
  | deallocating message => exact ⟨hs.ledger _ _ _ _ h.1, h.2.1, hs.terminated h.2.2⟩
  | failing failure =>
      obtain ⟨⟨records, hl⟩, ht⟩ := h
      exact ⟨⟨records, hs.ledger _ _ _ _ hl⟩, hs.terminated ht⟩

theorem Logged.steady (h : s.Logged codec) (hs : s.Steady codec s')
    (hf : s'.transport.frames = s.transport.frames) (hb : s'.busy = s.busy)
    (hc : s'.closed = false → s.closed = false)
    (hx : ∀ j y, s'.Exchanging j y → s.Exchanging j y) : s'.Logged codec := by
  refine ⟨fun hbusy => ?_, fun j y hy => (h.2 j y (hx j y hy)).steady hs fun _ he => hf.trans he⟩
  obtain ⟨records, hl, hr⟩ := h.1 (hb.symm.trans hbusy)
  exact ⟨records, hs.ledger _ _ _ _ hl, fun hclosed => hr (hc hclosed)⟩

theorem steady_aside {o : Observation} (ho : o.isAside = true) (ht : s'.trace = o :: s.trace)
    (htransport : s'.transport = s.transport) (hc : s'.closed = s.closed) :
    s.Steady codec s' where
  ledger := by
    intro flight records payloads settled hl
    unfold DirectCpicSession.Ledger
    rw [ht, htransport, hc]
    exact hl.aside ho
  terminated hm := by
    rw [ht]
    exact List.mem_cons_of_mem _ hm

/-- The transport is closed under a waiting session. -/
theorem steady_disconnected (ht : s'.trace = s.trace) (hopen : s'.transport.isOpen = false)
    (hc : s'.closed = s.closed) : s.Steady codec s' where
  ledger := by
    intro flight records payloads settled hl
    unfold DirectCpicSession.Ledger
    rw [ht, hopen, hc]
    exact hl.disconnected _
  terminated hm := by
    rw [ht]
    exact hm

theorem steady_terminateGeneration : s.Steady codec s.terminateGeneration := by
  cases hc : s.closed with
  | true =>
      rw [terminateGeneration_of_closed hc]
      exact ⟨fun _ _ _ _ hl => hl, id⟩
  | false =>
      rw [terminateGeneration_of_open hc]
      have htrace : ({ s with
          closed := true
          cpicSessionId := none
          descriptors := fun _ => none } : DirectCpicSession Fields Value).closeTransport.trace =
            s.trace := (settleReceive_fields _ _).2.2.2.1
      refine ⟨fun _ _ _ _ hl => ?_, fun hm => ?_⟩
      · unfold DirectCpicSession.Ledger DirectCpicSession.observe
        dsimp only
        rw [htrace, closeTransport_closed]
        exact hl.terminated _
      · exact List.mem_cons_of_mem _ (by rw [htrace]; exact hm)

theorem StageKept.refused {stage : ExchangeStage} (h : s.StageKept codec x stage)
    (hs : s.Steady codec s') (cause : Cause) :
    s'.StageKept codec x (stage.settleReceive (.error cause)) := by
  cases stage with
  | acknowledging index step rest outcome =>
      cases outcome with
      | none => exact ⟨hs.ledger _ _ _ _ h.1, nofun⟩
      | some outcome => exact ⟨hs.ledger _ _ _ _ h.1, nofun⟩
  | receiving outcome =>
      cases outcome with
      | none => exact ⟨hs.ledger _ _ _ _ h.1, nofun⟩
      | some outcome => exact ⟨hs.ledger _ _ _ _ h.1, nofun⟩
  | sending index step rest outcome => exact StageKept.steady h hs nofun
  | writerClosing index cause => exact StageKept.steady h hs nofun
  | deallocating message => exact StageKept.steady h hs nofun
  | failing failure => exact StageKept.steady h hs nofun

/-- The exchange which waits has been handed what its `receive` came to. -/
theorem Waiting.exchanging_settleReceive (h : s.Waiting) {outcome : Except Cause Bytes} {j : Nat}
    {y : Exchange} (hy : (s.settleReceive outcome).Exchanging j y) :
    ∃ x, s.Exchanging j x ∧ y = { x with stage := x.stage.settleReceive outcome } := by
  obtain hf | ⟨i, x, hx, hh⟩ := h
  · rw [settleReceive_of_none hf.receiving] at hy
    exact absurd hy (hf.nobody j y)
  · obtain ⟨z, hz, hz', rfl⟩ := hh.settled hx outcome
      (t := (s.settleReceive outcome).transport) (settleReceive_pendingReceive _)
    obtain rfl := hz'.alone j y hy
    exact ⟨x, hx, Exchanging.unique hy hz⟩

/-- A pending `receive` is refused. -/
theorem Logged.refused (h : s.Logged codec) (hw : s.Waiting) (hs : s.Steady codec s')
    (cause : Cause) (hb : s'.busy = s.busy) (hc : s'.closed = false → s.closed = false)
    (hx : ∀ j y, s'.Exchanging j y → (s.settleReceive (.error cause)).Exchanging j y) :
    s'.Logged codec := by
  refine ⟨fun hbusy => ?_, fun j y hy => ?_⟩
  · obtain ⟨records, hl, hr⟩ := h.1 (hb.symm.trans hbusy)
    exact ⟨records, hs.ledger _ _ _ _ hl, fun hclosed => hr (hc hclosed)⟩
  · obtain ⟨x, hx', rfl⟩ := hw.exchanging_settleReceive (hx j y hy)
    exact StageKept.refused (h.2 j x hx') hs cause

theorem fail_isOpen (t : NiSocketTransport) (cause : Cause) : (t.fail cause).isOpen = false := by
  unfold NiSocketTransport.fail
  split
  · rfl
  · rename_i h
    simpa using h

theorem Logged.failTransport (h : s.Logged codec) (hw : s.Waiting) (cause : Cause) :
    (s.failTransport cause).Logged codec :=
  h.refused hw
    (steady_disconnected (settleReceive_fields s _).2.2.2.1 (fail_isOpen _ _)
      (failTransport_closed cause)) _
    (settleReceive_fields s _).2.1 (fun hc => (failTransport_closed cause).symm.trans hc)
    fun _ _ hy => hy

theorem Logged.closeTransport (h : s.Logged codec) (hw : s.Waiting) :
    s.closeTransport.Logged codec :=
  h.refused hw
    (steady_disconnected (settleReceive_fields s _).2.2.2.1 rfl closeTransport_closed) _
    (settleReceive_fields s _).2.1 (fun hc => closeTransport_closed.symm.trans hc)
    fun _ _ hy => hy

theorem Logged.terminateGeneration (h : s.Logged codec) (hw : s.Waiting) :
    s.terminateGeneration.Logged codec := by
  cases hc : s.closed with
  | true =>
      rw [terminateGeneration_of_closed hc]
      exact h
  | false =>
      have hs : s.Steady codec s.terminateGeneration := steady_terminateGeneration
      rw [terminateGeneration_of_open hc] at hs ⊢
      refine h.refused hw hs (.ni .connectionClosed "NI socket was closed locally")
        (settleReceive_fields _ _).2.1 (fun _ => hc) fun j y hy => (Exchanging.congr ?_).mpr hy
      exact (settleReceive_operations s _).trans
        (settleReceive_operations { s with
          closed := true
          cpicSessionId := none
          descriptors := fun _ => none } _).symm

/-- An operation goes on outside of an exchange. -/
theorem Logged.setStage (h : s.Logged codec) (ho : s.Outside i) {stage : Stage Fields Value}
    (hs : stage.isOutside = true) : (s.setStage i stage).Logged codec :=
  h.steady ⟨fun _ _ _ _ hl => hl, id⟩ rfl rfl id fun _ _ hy =>
    (ho.exchanging_setStage hs).mp hy

theorem Logged.observe (h : s.Logged codec) {o : Observation} (ho : o.isAside = true) :
    (s.observe o).Logged codec :=
  h.steady (steady_aside ho rfl rfl rfl) rfl rfl id fun _ _ hy => hy

theorem Logged.threw (h : s.Logged codec) (ho : s.Outside i) (failure : RfcFailure)
    (program : Program Fields Value) : (s.threw i failure program).Logged codec := by
  unfold DirectCpicSession.threw
  exact (h.observe rfl).setStage ho rfl

theorem Logged.terminate (h : s.Logged codec) (hw : s.Waiting) (ho : s.Outside i)
    (failure : RfcFailure) (program : Program Fields Value) :
    (s.terminate i failure program).Logged codec := by
  unfold DirectCpicSession.terminate
  exact (h.terminateGeneration hw).setStage ho.terminateGeneration rfl

/-- A frame is queued, or handed to the exchange which waits for it. -/
theorem Logged.arrive (h : s.Logged codec) (hw : s.Waiting) (hopen : s.transport.isOpen = true)
    (frame : Bytes) : (s.arrive frame).Logged codec := by
  cases hp : s.transport.pendingReceive with
  | none =>
      have hs : s.Steady codec (s.arrive frame) := by
        rw [arrive_of_none hp]
        refine ⟨fun flight records payloads settled hl => ?_, List.mem_cons_of_mem _⟩
        unfold DirectCpicSession.Ledger at *
        dsimp only [DirectCpicSession.observe]
        rw [hopen] at hl ⊢
        exact hl.arrivedQueued frame
      rw [arrive_of_none hp] at hs ⊢
      refine ⟨fun hbusy => ?_, fun j y hy => ?_⟩
      · obtain ⟨records, hl, hr⟩ := h.1 hbusy
        exact ⟨records, hs.ledger _ _ _ _ hl, hr⟩
      · have hnot := mt (hw.pendingReceive_iff hy).mpr (by simp [hp])
        exact (h.2 j y hy).steady hs fun hpend => absurd hpend hnot
  | some k =>
      have hw' : (s.observe (.arrived frame)).Waiting := hw.alike (alike_observe s _)
      rw [arrive_of_some hp]
      refine ⟨fun hbusy => ?_, fun j y hy => ?_⟩
      · rw [(settleReceive_fields _ _).2.1] at hbusy
        have := (hw.free hbusy).receiving
        rw [hp] at this
        cases this
      · obtain ⟨x, hx, rfl⟩ := hw'.exchanging_settleReceive hy
        have hk : k = j := by
          obtain hf | ⟨i, z, hz, hh⟩ := hw
          · exact absurd hx (hf.nobody j x)
          · exact ((hh.receiving k).mp hp).1.trans (hh.alone j x hx).symm
        subst hk
        have hpend := (hw.pendingReceive_iff hx).mp hp
        have hl {flight : Option Nat} {records payloads : List Bytes}
            (hl : s.Ledger codec flight records payloads []) (hf : s.transport.frames = []) :
            ((s.observe (.arrived frame)).settleReceive (.ok frame)).Ledger codec flight records
              payloads [frame] := by
          obtain ⟨-, -, -, htrace, -, hisOpen, hframes⟩ :=
            (s.observe (.arrived frame)).settleReceive_fields (.ok frame)
          unfold DirectCpicSession.Ledger at *
          rw [htrace, hisOpen, hframes, settleReceive_closed]
          dsimp only [DirectCpicSession.observe]
          rw [hopen, hf] at hl ⊢
          exact hl.arrivedSettled frame
        have hkept : s.StageKept codec x x.stage := h.2 k x hx
        cases hstage : x.stage with
        | acknowledging index step rest outcome =>
            rw [hstage] at hpend hkept
            cases outcome with
            | none =>
                exact ⟨hl hkept.1 (hkept.2 rfl), nofun⟩
            | some outcome => cases hpend
        | receiving outcome =>
            rw [hstage] at hpend hkept
            cases outcome with
            | none =>
                exact ⟨hl hkept.1 (hkept.2 rfl), nofun⟩
            | some outcome => cases hpend
        | _ =>
            rw [hstage] at hpend
            cases hpend

/-- The exchange which was running waits. -/
theorem Logged.of_stage (s' : DirectCpicSession Fields Value) (h : s.Holding i x point)
    (hops : s'.operations = s.operations)
    (hb : s'.busy = true) {y : Exchange} {next : Except Thrown Bytes → Program Fields Value}
    (hk : s'.StageKept codec y y.stage) :
    (s'.setStage i (.exchanging y next)).Logged codec := by
  refine ⟨fun hbusy => ?_, fun j z hz => ?_⟩
  · rw [show (s'.setStage i (.exchanging y next)).busy = s'.busy from rfl, hb] at hbusy
    cases hbusy
  · have halone : ∀ j y, s'.Exchanging j y → j = i := fun j z hz =>
      h.alone j z ((Exchanging.congr hops).mp hz)
    obtain rfl := alone_setStage halone j z hz
    obtain ⟨-, next', he⟩ := exchanging_setStage.mp hz
    cases he
    exact hk

/-- The exchange which was running has ended. -/
theorem Logged.of_rest (h : s.Holding i x point)
    (hops : ∀ j y, s'.Exchanging j y → j ≠ i ∧ s.Exchanging j y) (hr : s'.Rest codec) :
    s'.Logged codec :=
  ⟨fun _ => hr, fun j y hy => absurd (h.alone j y (hops j y hy).2) (hops j y hy).1⟩

/-- An exchange which has not entered its catch is in flight. -/
theorem Kept.ledger (h : s.Kept codec x point)
    (hp : point = .taken → x.stage.isFailing = false) :
    ∃ records payloads settled, s.Ledger codec (some x.id) records payloads settled := by
  cases point with
  | taken =>
      have hp := hp rfl
      unfold Kept StageKept at h
      cases hx : x.stage with
      | sending index step rest outcome =>
          rw [hx] at h
          exact ⟨_, _, _, h⟩
      | acknowledging index step rest outcome =>
          rw [hx] at h
          exact ⟨_, _, _, h.1⟩
      | writerClosing index cause =>
          rw [hx] at h
          obtain ⟨records, hl⟩ := h
          exact ⟨_, _, _, hl⟩
      | receiving outcome =>
          rw [hx] at h
          exact ⟨_, _, _, h.1⟩
      | deallocating message =>
          rw [hx] at h
          exact ⟨_, _, _, h.1⟩
      | failing failure =>
          rw [hx] at hp
          cases hp
  | began => exact ⟨_, _, _, h⟩
  | writing index steps => exact ⟨_, _, _, h⟩
  | read => exact ⟨_, _, _, h⟩
  | complete message ended => exact ⟨_, _, _, h.1⟩

/-- An exchange in flight ends the generation itself. -/
theorem Ledger.terminateGeneration {records payloads settled : List Bytes} {flight : Nat}
    (h : s.Ledger codec (some flight) records payloads settled) :
    s.terminateGeneration.Ledger codec (some flight) records payloads settled ∧
      .terminated ∈ s.terminateGeneration.trace := by
  have hl := steady_terminateGeneration.ledger _ _ _ _ h
  obtain ⟨-, hclosing⟩ := open_of_inFlight hl.law hl.inFlight
  exact ⟨hl, (hl.ended.mp terminateGeneration_closed).resolve_right hclosing⟩

/-- What was still on its way to the exchange is dropped with the transport. -/
theorem Ledger.dead_dropped {records payloads settled : List Bytes} {flight : Option Nat}
    (h : s.Ledger codec flight records payloads settled) (ht : .terminated ∈ s.trace) :
    s.Ledger codec flight records [] [] := by
  have hdead := h.dead ht
  unfold DirectCpicSession.Ledger at *
  rw [hdead] at h ⊢
  exact h.dropped

/-- What a `receive` hands over at once. -/
theorem Ledger.receive {records payloads : List Bytes} {flight : Option Nat}
    (h : s.Ledger codec flight records payloads []) (i : Nat) :
    DirectCpicSession.Ledger codec { s with transport := (s.transport.receive i).1 } flight
        records payloads (settledFrames (s.transport.receive i).2) ∧
      ((s.transport.receive i).2 = none → (s.transport.receive i).1.frames = []) := by
  unfold DirectCpicSession.Ledger NiSocketTransport.receive at *
  cases hopen : s.transport.isOpen with
  | false =>
      simp only [Bool.false_eq_true, if_false]
      exact ⟨h, nofun⟩
  | true =>
      simp only [if_true]
      cases hframes : s.transport.frames with
      | cons frame frames =>
          rw [hopen, hframes] at h
          refine ⟨{ h with received := ?_, queued := ?_ }, nofun⟩
          · rw [h.queued rfl]
            exact ⟨frames, by simp [settledFrames]⟩
          · intro _
            rw [h.queued rfl]
            simp [settledFrames]
      | nil =>
          cases hp : s.transport.pendingReceive with
          | some k => exact ⟨h, nofun⟩
          | none =>
              rw [hopen, hframes] at h
              exact ⟨h, fun _ => rfl⟩

theorem Logged.receiveReply (h : s.Holding i x point) {y : Exchange}
    {next : Except Thrown Bytes → Program Fields Value}
    (hl : s.Ledger codec (some y.id) [] y.payloads []) :
    (s.receiveReply i next y).Logged codec :=
  Logged.of_stage { s with transport := (s.transport.receive i).1 } h rfl h.busy
    (Ledger.receive hl i)

/-- A record is handed to the transport. -/
theorem Logged.sent (h : s.Holding i x point) {setup : AppcClientSetupState} {index : Nat}
    {step : OutgoingStep} {rest : List OutgoingStep}
    {next : Except Thrown Bytes → Program Fields Value}
    (hl : s.Ledger codec (some x.id) (step.record :: rest.map (·.record)) [] []) :
    (({ s with setup }.observe (.sent x.id step.record s.transport.isOpen)).setStage i
      (.exchanging { x with stage := .sending index step rest s.transport.send } next)).Logged
      codec := by
  apply Logged.of_stage (h := h)
  · rfl
  · exact h.busy
  · exact DirectCpic.Ledger.sent hl

theorem Logged.close (h : s.Logged codec) (hw : s.Waiting) (hb : s.busy = false)
    (hc : s.closed = false) : s.close.Logged codec := by
  obtain ⟨records, hl, hr⟩ := h.1 hb
  have hfree := hw.free hb
  have hclosing : s.Ledger codec none records [] [] → DirectCpicSession.Ledger codec ({ s with
      closed := true
      cpicSessionId := none
      descriptors := fun _ => none }.observe .closing) none records [] [] := by
    intro hl
    unfold DirectCpicSession.Ledger at *
    rw [hc] at hl
    exact hl.closing
  have hlogged : Logged codec ({ s with
      closed := true
      cpicSessionId := none
      descriptors := fun _ => none }.observe .closing) :=
    ⟨fun _ => ⟨records, hclosing hl, nofun⟩, fun j y hy => absurd hy (hfree.nobody j y)⟩
  have hwaiting : Waiting ({ s with
      closed := true
      cpicSessionId := none
      descriptors := fun _ => none }.observe .closing) :=
    hw.alike ⟨fun _ _ => Iff.rfl, rfl, rfl, rfl, rfl, fun _ => rfl⟩
  unfold DirectCpicSession.close
  split
  · exact h
  · dsimp only
    split
    · split
      · refine ⟨fun _ => ⟨records, (hclosing hl).deallocateSent ?_, nofun⟩, fun j y hy =>
          absurd hy (hfree.nobody j y)⟩
        unfold DirectCpicSession.Ledger at hl
        rw [hc] at hl
        simpa [DirectCpicSession.observe] using hl.not_terminated.1
      · exact hlogged.closeTransport hwaiting
    · exact hlogged.closeTransport hwaiting

end DirectCpicSession

open DirectCpicSession in
theorem Turn.Recorded.move {codec : Codec Fields Value} {lax : Lax} {d d' : Turn Fields Value}
    (h : d.Recorded codec) (hc : d.Coherent) (hm : Move codec lax d d') :
    d'.Recorded codec := by
  cases hm with
  | arrived frame ho => exact Logged.arrive h hc ho frame
  | transportFailed cause => exact Logged.failTransport h hc cause
  | @sendSettled s i o x next index step rest outcome ho hs hx =>
      have hxe : s.Exchanging i x := ⟨o, next, ho, hs⟩
      obtain hfree | ⟨j, y, hy, hh⟩ : s.Waiting := hc
      · exact absurd hxe (hfree.nobody i x)
      · obtain rfl := hh.alone i x hxe
        have hk : s.StageKept codec x x.stage := h.2 i x hxe
        rw [hx] at hk
        exact Logged.of_stage _ hh rfl hh.busy hk
  | closed hc' hb ho hg => exact Logged.close h hc hb hc'
  | @closeFinished s hd =>
      have hl : Logged codec { s with deallocating := false } :=
        Logged.steady h ⟨fun _ _ _ _ hl => hl, id⟩ rfl rfl id fun _ _ hy => hy
      have hw : Waiting { s with deallocating := false } :=
        Waiting.alike hc ⟨fun _ _ => Iff.rfl, rfl, rfl, rfl, rfl, id⟩
      exact hl.closeTransport hw
  | called c hg =>
      exact Logged.steady h ⟨fun _ _ _ _ hl => hl, id⟩ rfl rfl id fun _ _ hy =>
        exchanging_addOperation.mp hy
  | resumed ho hs => exact h
  | threwTerminated ho hs => exact Logged.threw h (.of_stage ho (by rw [hs]; rfl)) _ _
  | resolved value | rejected e => exact (Logged.observe h rfl).setStage hc.2 rfl
  | readAuthenticated next | readSessionId next | readDescriptor key next => exact h
  | stored key value next | claimed next ha | released next hr =>
      exact Logged.steady h ⟨fun _ _ _ _ hl => hl, id⟩ rfl rfl id fun _ _ hy => hy
  | loggedOn value next hg =>
      exact Logged.steady h (steady_aside rfl rfl rfl rfl) rfl rfl id fun _ _ hy => hy
  | claimRefused next ha => exact Logged.observe h rfl
  | ticked next | bcdFailed message next | exchangeClosed next hc' =>
      exact Logged.setStage h hc.2 rfl
  | valueMalformed message next hg => exact Logged.terminate h hc.1 hc.2 _ _
  | logonFailed failure next hf hg | responseFailed failure next hf hg =>
      exact Logged.terminate h hc.1 hc.2 _ _
  | declaredException failure next hf hp ht hs hr => exact Logged.threw h hc.2 _ _
  | deallocated next hs | exchangeBusy next hc' ha | requestRefused next hc' ha hr =>
      exact Logged.threw h hc.2 _ _
  | answered decoded next hs => exact (Logged.observe h rfl).setStage hc.2 rfl
  | @began s i request allowCallbacks owned outgoingPlan next hc' ha =>
      obtain ⟨records, hl, hr⟩ := h.1 (assertExchangeAvailable_ok ha)
      obtain rfl := hr hc'
      unfold DirectCpicSession.Ledger at hl
      rw [hc'] at hl
      change DirectCpicSession.Ledger codec _ (some s.exchanges) [] [] []
      unfold DirectCpicSession.Ledger DirectCpicSession.takeSession DirectCpicSession.observe
      dsimp only
      rw [hc']
      exact hl.began
  | taken ho hs hx => exact h.2 _ _ ⟨_, _, ho, hs⟩
  | @caught s i x point next y cause transmission hy hpoint hg =>
      obtain ⟨records, payloads, settled, hl⟩ := Kept.ledger h hpoint
      obtain ⟨hl, ht⟩ := hl.terminateGeneration
      obtain ⟨hops, hbusy, -, -, -⟩ := terminateGeneration_fields (hc.1.notPending hc.2.2)
      refine Logged.of_stage (s.terminateGeneration.observe (.failed y.id)) hc.1 hops
        (hbusy.trans hc.1.busy) ⟨⟨records, ?_⟩, List.mem_cons_of_mem _ ht⟩
      rw [hy]
      exact (hl.dead_dropped ht).failed ht
  | @frameQueued s i x point next cause hpoint =>
      have hfields := failTransport_fields (hc.1.notPending hc.2.2) cause
      have hsteady : s.Steady codec (s.failTransport cause) :=
        steady_disconnected (by rw [hfields]) (by rw [hfields]; exact fail_isOpen _ _)
          (failTransport_closed cause)
      obtain rfl | rfl := hpoint
      · exact hsteady.ledger _ _ _ _ h
      · exact hsteady.ledger _ _ _ _ h
  | @failed s i x next failure hx =>
      have hfit := hc.1.fits
      unfold Fits StageFits at hfit
      rw [hx] at hfit
      have hk : s.StageKept codec x x.stage := h
      rw [hx] at hk
      obtain ⟨⟨records, hl⟩, -⟩ := hk
      refine Logged.of_rest hc.1 (fun j y => exchanging_modify rfl fun _ => rfl)
        ⟨records, Ledger.aside hl rfl, fun hopen => ?_⟩
      exact absurd hfit (by rw [show s.closed = false from hopen]; exact nofun)
  | @planned s i x point next steps y hy hpoint hs hp =>
      have hk : ∃ payloads, s.Ledger codec (some x.id) [] payloads [] ∧
          s.transport.isOpen = true ∧ s.transport.frames = [] := by
        obtain ⟨rfl, hq⟩ | ⟨message, ended, rfl⟩ := hpoint
        · exact ⟨_, h, assertNoQueuedFrames_ok hq⟩
        · cases ended with
          | true =>
              have hfit := hc.1.fits.1
              rw [hs] at hfit
              cases hfit
          | false => exact ⟨_, h.1, h.2.2.2 rfl⟩
      obtain ⟨payloads, hl, hopen, hframes⟩ := hk
      unfold DirectCpicSession.Ledger at hl
      rw [hopen, hframes, ← hy] at hl
      change DirectCpicSession.Ledger codec _ (some y.id) (steps.map (·.record)) [] []
      unfold DirectCpicSession.Ledger DirectCpicSession.observe
      dsimp only
      rw [hopen, hframes]
      exact (hl.planned hp).forget
  | @sent s i x index step rest setup next hs =>
      exact Logged.sent hc.1 h
  | @sendAccepted s i x index step rest next hx hf =>
      have hk : s.StageKept codec x x.stage := h
      rw [hx] at hk
      exact hk
  | @awaitsAcknowledgement s i x index step rest next hx hf =>
      have hk : s.StageKept codec x x.stage := h
      rw [hx] at hk
      exact Logged.of_stage { s with transport := (s.transport.receive i).1 } hc.1 rfl
        hc.1.busy (Ledger.receive hk i)
  | @acknowledged s i x index step rest payload next setup hx hs =>
      have hk : s.StageKept codec x x.stage := h
      rw [hx] at hk
      exact (Ledger.receivedFrame hk.1).forget
  | @writerFailed s i x point next index cause hpoint =>
      have hfailing : point = .taken → x.stage.isFailing = false := by
        obtain ⟨rfl, hw⟩ | ⟨index, steps, rfl⟩ := hpoint
        · intro _
          cases hx : x.stage with
          | failing failure =>
              rw [hx] at hw
              cases hw
          | _ => rfl
        · exact nofun
      obtain ⟨records, payloads, settled, hl⟩ := Kept.ledger h hfailing
      have hfields := closeTransport_fields (hc.1.notPending hc.2.2)
      unfold Recorded DirectCpicSession.failWriter
      rw [hfields]
      exact Logged.of_stage { s with transport := s.transport.close } hc.1 rfl hc.1.busy
        ⟨records, (DirectCpic.Ledger.disconnected hl _).dropped⟩
  | written => exact Logged.receiveReply hc.1 h
  | @read s i x payload next hx =>
      have hk : s.StageKept codec x x.stage := h
      rw [hx] at hk
      exact Ledger.receivedFrame hk.1
  | readMore hs => exact Logged.receiveReply hc.1 h
  | @ended s i x next message hd hs hg =>
      obtain ⟨hl, ht⟩ := DirectCpicSession.Ledger.terminateGeneration h
      obtain ⟨hops, hbusy, -, -, -⟩ := terminateGeneration_fields (hc.1.notPending hc.2.2)
      exact Logged.of_stage _ hc.1 hops (hbusy.trans hc.1.busy) ⟨hl, hd, ht⟩
  | completed message hd hq hs => exact ⟨h, hd, nofun, fun _ => assertNoQueuedFrames_ok hq⟩
  | completeRefused => exact h
  | @completedEnded s i x next message hx =>
      have hk : s.StageKept codec x x.stage := h
      rw [hx] at hk
      exact ⟨hk.1, hk.2.1, fun _ => hk.2.2, nofun⟩
  | @returned s i x next message ended =>
      obtain ⟨hl, ⟨front, last, hpayloads, hdecode⟩, hended, -⟩ := h
      refine Logged.of_rest hc.1 (fun j y => exchanging_modify rfl fun _ => rfl)
        ⟨[], ?_, fun _ => rfl⟩
      exact (Ledger.returned hl
        ⟨_, front, last, message, hpayloads, rfl, hdecode⟩ hended).forget

/-- The records of the last plan, and those of them which have been handed out. -/
def lastPlan : List Observation → List Bytes
  | [] => []
  | .planned _ records :: _ => records
  | _ :: past => lastPlan past

def handedOut : List Observation → List Bytes
  | [] => []
  | .planned _ _ :: _ => []
  | .sent _ record _ :: past => handedOut past ++ [record]
  | _ :: past => handedOut past

/-- The records of a plan go out in their order, each at most once. -/
theorem handedOut_remaining {codec : Codec Fields Value} {past : List Observation}
    (h : History.Each (Transmitted codec) past) :
    handedOut past ++ remaining past = lastPlan past := by
  induction past with
  | nil => rfl
  | cons o past ih =>
      cases o with
      | planned x records => rfl
      | sent x record isOpen =>
          obtain ⟨-, hhead, -⟩ := h.1
          change handedOut past ++ [record] ++ (remaining past).tail = lastPlan past
          rw [← ih h.2, List.append_assoc, List.singleton_append]
          rw [List.head?_eq_some_iff] at hhead
          obtain ⟨rest, hrest⟩ := hhead
          rw [hrest, List.tail_cons]
      | _ => exact ih h.2

/-- The guard or the planning of the request refuses an exchange. -/
def Refused (codec : Codec Fields Value) (s : DirectCpicSession Fields Value) (i : Nat)
    (request : Bytes) (owned : Bool) (failure : RfcFailure) : Prop :=
  s.assertExchangeAvailable (if owned then some i else none) = .error failure ∨
    s.assertExchangeAvailable (if owned then some i else none) = .ok () ∧
      (∃ cause, codec.planOutgoingRequest request = .error cause) ∧
      failure = requestEncodingFailure s.authenticated

theorem assertExchangeAvailable_error {s : DirectCpicSession Fields Value} {owner : Option Nat}
    {failure : RfcFailure} (h : s.assertExchangeAvailable owner = .error failure) :
    failure = concurrentCallFailure s.authenticated := by
  unfold DirectCpicSession.assertExchangeAvailable at h
  split at h
  · cases h
    rfl
  · cases h

theorem concurrentCallFailure_disposition (establishedSession : Bool) :
    (concurrentCallFailure establishedSession).disposition = .reusable := by
  rw [RfcFailure.disposition_eq]
  rfl

theorem requestEncodingFailure_disposition (establishedSession : Bool) :
    (requestEncodingFailure establishedSession).disposition = .reusable := by
  rw [RfcFailure.disposition_eq]
  rfl

/-- A refused exchange throws, and changes nothing else. -/
theorem beginExchange_refused {codec : Codec Fields Value} {s : DirectCpicSession Fields Value}
    {i : Nat} {request : Bytes} {owned : Bool} {failure : RfcFailure} (hc : s.closed = false)
    (h : Refused codec s i request owned failure)
    (next : Except Thrown Bytes → Program Fields Value) (allowCallbacks : Bool) :
    s.beginExchange codec i next request allowCallbacks owned =
      s.threw i failure (next (.error (.core failure))) := by
  unfold DirectCpicSession.beginExchange
  rw [if_neg (by simp [hc])]
  obtain he | ⟨hok, ⟨cause, hplan⟩, rfl⟩ := h
  · rw [he]
  · rw [hok]
    dsimp only
    rw [hplan]

/-- At-most-once transmission. -/
structure AtMostOnce (codec : Codec Fields Value) (s : DirectCpicSession Fields Value) : Prop where
  order : handedOut s.trace ++ remaining s.trace = lastPlan s.trace
  law : History.Each (Transmitted codec) s.trace
  ended : s.closed = true ↔ .terminated ∈ s.trace ∨ .closing ∈ s.trace
  refused : ∀ i next request allowCallbacks owned failure, s.closed = false →
    Refused codec s i request owned failure →
      failure.disposition = .reusable ∧
        ∃ operations, s.beginExchange codec i next request allowCallbacks owned =
          { s with
            operations
            trace := .threw i failure (s.reply i) s.snapshot :: s.trace }

theorem recorded_initial (codec : Codec Fields Value) :
    Turn.Recorded codec (⟨.initial, .idle⟩ : Turn Fields Value) := by
  refine ⟨fun _ => ⟨[], ?_, fun _ => rfl⟩, ?_⟩
  · exact
      { law := trivial
        ended := by simp [DirectCpicSession.initial]
        dead := nofun
        inFlight := rfl
        remaining := rfl
        reply := List.nil_suffix
        received := List.nil_prefix
        queued := fun _ => rfl }
  · rintro i x ⟨o, next, ho, -⟩
    cases ho

end OpenRfc.DirectCpic
