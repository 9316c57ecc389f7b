import OpenRfc.DirectCpic.Moves

/-!
The exchange which holds the session. Between two moves at most one operation is inside an
exchange, and where it has got to says what state the conversation is in.
-/

namespace OpenRfc.DirectCpic

variable {Fields Value : Type}

/-- The operation waits for something else than the transport, or has settled. -/
def Stage.isOutside : Stage Fields Value → Bool
  | .exchanging _ _ => false
  | _ => true

namespace DirectCpicSession
variable {s s' : DirectCpicSession Fields Value} {i j : Nat} {x y : Exchange} {point : Point}
  {stage : Stage Fields Value}

/-- The operation waits inside an exchange. -/
def Exchanging (s : DirectCpicSession Fields Value) (i : Nat) (x : Exchange) : Prop :=
  ∃ o next, s.operations[i]? = some o ∧ o.stage = .exchanging x next

/-- The state of the conversation while an exchange waits. -/
def StageFits (s : DirectCpicSession Fields Value) : ExchangeStage → Prop
  | .sending _ step rest _ =>
      s.setup ≠ .closed ∧ (step.functionCode = .sendData → s.setup = .sendBarrierPending) ∧
        ∀ step ∈ rest, step.functionCode.isData = true
  | .acknowledging _ _ rest _ =>
      s.setup = .sendBarrierPending ∧ ∀ step ∈ rest, step.functionCode.isData = true
  | .writerClosing _ _ | .receiving _ => s.setup ≠ .closed
  | .deallocating _ => s.setup = .closed ∧ s.closed = true
  | .failing failure => s.closed = true ∧ failure.disposition ≠ .reusable

/-- The state of the conversation at a point of an exchange. -/
def Fits (s : DirectCpicSession Fields Value) (x : Exchange) : Point → Prop
  | .taken => s.StageFits x.stage
  | .began => s.setup = .ready
  | .writing _ steps => s.setup ≠ .closed ∧ ∀ step ∈ steps, step.functionCode.isData = true
  | .read => True
  | .complete _ true => s.setup = .closed ∧ s.closed = true
  | .complete _ false => s.setup = .ready

/-- The exchange of the operation holds the session, alone, and has got to the point. -/
structure Holding (s : DirectCpicSession Fields Value) (i : Nat) (x : Exchange)
    (point : Point) : Prop where
  busy : s.busy = true
  id : x.id + 1 = s.exchanges
  alone : ∀ j y, s.Exchanging j y → j = i
  receiving : ∀ k, s.transport.pendingReceive = some k ↔
    k = i ∧ point = .taken ∧ x.stage.isPending = true
  fits : s.Fits x point

/-- No exchange holds the session. -/
structure Free (s : DirectCpicSession Fields Value) : Prop where
  busy : s.busy = false
  nobody : ∀ j y, ¬ s.Exchanging j y
  receiving : s.transport.pendingReceive = none
  ready : s.closed = true ∨ s.setup = .ready

/-- No exchange is running: it waits where it will be taken up, or there is none. -/
def Waiting (s : DirectCpicSession Fields Value) : Prop :=
  s.Free ∨ ∃ i x, s.Exchanging i x ∧ s.Holding i x .taken

/-- The operation is not inside an exchange. -/
def Outside (s : DirectCpicSession Fields Value) (i : Nat) : Prop :=
  i < s.operations.length ∧ ∀ y, ¬ s.Exchanging i y

end DirectCpicSession

def Turn.Coherent (d : Turn Fields Value) : Prop :=
  match d.control with
  | .idle => d.session.Waiting
  | .running i _ => d.session.Waiting ∧ d.session.Outside i
  | .exchange i x _ point =>
      d.session.Holding i x point ∧ i < d.session.operations.length ∧
        (point = .taken → x.stage.isPending = false)

namespace DirectCpicSession
variable {s s' : DirectCpicSession Fields Value} {i j : Nat} {x y : Exchange} {point : Point}
  {stage : Stage Fields Value}

theorem Exchanging.unique (hx : s.Exchanging i x) (hy : s.Exchanging i y) : x = y := by
  obtain ⟨o, next, ho, hs⟩ := hx
  obtain ⟨o', next', ho', hs'⟩ := hy
  rw [ho] at ho'
  cases ho'
  rw [hs] at hs'
  cases hs'
  rfl

theorem Exchanging.lt (hx : s.Exchanging i x) : i < s.operations.length := by
  obtain ⟨o, next, ho, -⟩ := hx
  exact (List.getElem?_eq_some_iff.mp ho).1

theorem Exchanging.congr (ho : s'.operations = s.operations) :
    s'.Exchanging i x ↔ s.Exchanging i x := by
  unfold Exchanging
  rw [ho]

theorem exchanging_setStage_ne (hj : j ≠ i) :
    (s.setStage i stage).Exchanging j y ↔ s.Exchanging j y := by
  unfold Exchanging
  simp [setStage, hj.symm]

theorem exchanging_setStage :
    (s.setStage i stage).Exchanging i y ↔
      i < s.operations.length ∧ ∃ next, stage = .exchanging y next := by
  unfold Exchanging
  simp only [setStage, List.getElem?_modify, Option.map_eq_map]
  constructor
  · rintro ⟨o, next, ho, hs⟩
    cases ho' : s.operations[i]? with
    | none => simp [ho'] at ho
    | some p =>
        simp only [ho', Option.map_some, if_true, Option.some.injEq] at ho
        subst ho
        exact ⟨(List.getElem?_eq_some_iff.mp ho').1, next, hs⟩
  · rintro ⟨hlt, next, rfl⟩
    exact ⟨_, next, by rw [List.getElem?_eq_getElem hlt]; rfl, rfl⟩

theorem alone_setStage (h : ∀ j y, s.Exchanging j y → j = i) :
    ∀ j y, (s.setStage i stage).Exchanging j y → j = i := by
  intro j y hy
  by_contra hj
  exact hj (h j y ((exchanging_setStage_ne hj).mp hy))

theorem none_setStage (h : ∀ j y, s.Exchanging j y → j = i)
    (hs : stage.isOutside = true) :
    ∀ j y, ¬ (s.setStage i stage).Exchanging j y := by
  intro j y hy
  obtain rfl := alone_setStage h j y hy
  obtain ⟨-, next, rfl⟩ := exchanging_setStage.mp hy
  cases hs

theorem Outside.of_stage {o : Operation Fields Value} (ho : s.operations[i]? = some o)
    (hs : o.stage.isOutside = true) : s.Outside i := by
  refine ⟨(List.getElem?_eq_some_iff.mp ho).1, ?_⟩
  rintro y ⟨o', next, ho', hs'⟩
  rw [ho] at ho'
  cases ho'
  rw [hs'] at hs
  cases hs

/-- An operation which is outside goes on outside: the others are as they were. -/
theorem Outside.exchanging_setStage (h : s.Outside i) (hs : stage.isOutside = true) :
    (s.setStage i stage).Exchanging j y ↔ s.Exchanging j y := by
  by_cases hj : j = i
  · subst hj
    refine ⟨fun hy => ?_, fun hy => absurd hy (h.2 y)⟩
    obtain ⟨-, next, rfl⟩ := DirectCpicSession.exchanging_setStage.mp hy
    cases hs
  · exact exchanging_setStage_ne hj

/-- What the coherence of a waiting session depends on. -/
structure Alike (s s' : DirectCpicSession Fields Value) : Prop where
  exchanging : ∀ j y, s'.Exchanging j y ↔ s.Exchanging j y
  receiving : s'.transport.pendingReceive = s.transport.pendingReceive
  setup : s'.setup = s.setup
  busy : s'.busy = s.busy
  exchanges : s'.exchanges = s.exchanges
  closed : s.closed = true → s'.closed = true

theorem StageFits.congr {stage : ExchangeStage} (h : s.StageFits stage)
    (hs : s'.setup = s.setup) (hc : s.closed = true → s'.closed = true) :
    s'.StageFits stage := by
  unfold StageFits at *
  rw [hs]
  cases stage with
  | deallocating message => exact ⟨h.1, hc h.2⟩
  | failing failure => exact ⟨hc h.1, h.2⟩
  | _ => exact h

theorem Fits.congr (h : s.Fits x point) (hs : s'.setup = s.setup)
    (hc : s.closed = true → s'.closed = true) : s'.Fits x point := by
  cases point with
  | taken => exact StageFits.congr h hs hc
  | began => exact hs.trans h
  | writing index steps => exact ⟨by rw [hs]; exact h.1, h.2⟩
  | read => exact trivial
  | complete message ended =>
      cases ended with
      | true => exact ⟨hs.trans h.1, hc h.2⟩
      | false => exact hs.trans h

theorem Holding.alike (h : s.Holding i x point) (ha : s.Alike s') : s'.Holding i x point where
  busy := ha.busy.trans h.busy
  id := h.id.trans ha.exchanges.symm
  alone := fun j y hy => h.alone j y ((ha.exchanging j y).mp hy)
  receiving := by rw [ha.receiving]; exact h.receiving
  fits := h.fits.congr ha.setup ha.closed

theorem Waiting.alike (h : s.Waiting) (ha : s.Alike s') : s'.Waiting := by
  obtain hf | ⟨i, x, hx, hh⟩ := h
  · exact .inl
      { busy := ha.busy.trans hf.busy
        nobody := fun j y hy => hf.nobody j y ((ha.exchanging j y).mp hy)
        receiving := ha.receiving.trans hf.receiving
        ready := hf.ready.imp ha.closed fun hr => ha.setup.trans hr }
  · exact .inr ⟨i, x, (ha.exchanging i x).mpr hx, hh.alike ha⟩

/-- The operation goes on outside an exchange. -/
theorem Waiting.setStage (h : s.Waiting) (ho : s.Outside i)
    (hs : stage.isOutside = true) : (s.setStage i stage).Waiting :=
  h.alike ⟨fun _ _ => ho.exchanging_setStage hs, rfl, rfl, rfl, rfl, id⟩

/-- A frame is handed to the exchange which waits for it, or its `receive` is refused. -/
theorem StageFits.settleReceive {stage : ExchangeStage} (h : s.StageFits stage)
    (outcome : Except Cause Bytes) : s.StageFits (stage.settleReceive outcome) := by
  cases stage with
  | acknowledging index step rest result => cases result <;> exact h
  | receiving result => cases result <;> exact h
  | _ => exact h

theorem isPending_settleReceive (stage : ExchangeStage) (outcome : Except Cause Bytes) :
    (stage.settleReceive outcome).isPending = false := by
  cases stage with
  | acknowledging index step rest result => cases result <;> rfl
  | receiving result => cases result <;> rfl
  | _ => rfl

theorem settleReceive_of_not_isPending {stage : ExchangeStage} (h : stage.isPending = false)
    {outcome : Except Cause Bytes} : stage.settleReceive outcome = stage := by
  cases stage with
  | acknowledging index step rest result =>
      cases result with
      | none => cases h
      | some result => rfl
  | receiving result =>
      cases result with
      | none => cases h
      | some result => rfl
  | _ => rfl

theorem settleReceive_of_none {outcome : Except Cause Bytes}
    (h : s.transport.pendingReceive = none) : s.settleReceive outcome = s := by
  unfold DirectCpicSession.settleReceive
  rw [h]

/-- The stages after a pending `receive` has settled. -/
theorem exchanging_settleReceive {outcome : Except Cause Bytes}
    (h : s.transport.pendingReceive = some i) :
    (s.settleReceive outcome).Exchanging j y ↔
      ∃ x, s.Exchanging j x ∧
        y = if j = i then { x with stage := x.stage.settleReceive outcome } else x := by
  unfold DirectCpicSession.settleReceive Exchanging
  rw [h]
  simp only [List.getElem?_modify, Option.map_eq_map]
  by_cases hj : i = j
  · subst hj
    simp only [if_true]
    constructor
    · rintro ⟨o, next, ho, hs⟩
      cases ho' : s.operations[i]? with
      | none => simp [ho'] at ho
      | some p =>
          simp only [ho', Option.map_some, Option.some.injEq] at ho
          subst ho
          dsimp only at hs
          cases hp : p.stage with
          | exchanging x next' =>
              rw [hp] at hs
              cases hs
              exact ⟨x, ⟨p, _, rfl, hp⟩, rfl⟩
          | _ =>
              rw [hp] at hs
              cases hs
    · rintro ⟨x, ⟨o, next, ho, hs⟩, rfl⟩
      exact ⟨_, next, by rw [ho]; rfl, by simp [hs, Stage.settleReceive]⟩
  · simp only [hj, if_false, if_neg (Ne.symm hj)]
    constructor
    · rintro ⟨o, next, ho, hs⟩
      refine ⟨y, ⟨o, next, ?_, hs⟩, rfl⟩
      simpa using ho
    · rintro ⟨x, ⟨o, next, ho, hs⟩, rfl⟩
      exact ⟨o, next, by simpa using ho, hs⟩

/-- What settling the pending `receive` leaves of the session. -/
theorem settleReceive_fields (s : DirectCpicSession Fields Value)
    (outcome : Except Cause Bytes) :
    (s.settleReceive outcome).setup = s.setup ∧ (s.settleReceive outcome).busy = s.busy ∧
      (s.settleReceive outcome).exchanges = s.exchanges ∧
      (s.settleReceive outcome).trace = s.trace ∧
      (s.settleReceive outcome).operations.length = s.operations.length ∧
      (s.settleReceive outcome).transport.isOpen = s.transport.isOpen ∧
      (s.settleReceive outcome).transport.frames = s.transport.frames := by
  unfold DirectCpicSession.settleReceive
  split
  · exact ⟨rfl, rfl, rfl, rfl, rfl, rfl, rfl⟩
  · exact ⟨rfl, rfl, rfl, rfl, List.length_modify .., rfl, rfl⟩

theorem settleReceive_operations (s : DirectCpicSession Fields Value)
    (outcome : Except Cause Bytes) :
    (s.settleReceive outcome).operations =
      match s.transport.pendingReceive with
      | none => s.operations
      | some i => s.operations.modify i fun o =>
          { o with stage := o.stage.settleReceive outcome } := by
  cases h : s.transport.pendingReceive <;> simp only [DirectCpicSession.settleReceive, h]

theorem terminateGeneration_of_closed (h : s.closed = true) : s.terminateGeneration = s := by
  unfold DirectCpicSession.terminateGeneration
  rw [if_pos h]

theorem terminateGeneration_of_open (h : s.closed = false) :
    s.terminateGeneration = ({ s with
      closed := true
      cpicSessionId := none
      descriptors := fun _ => none }.closeTransport.observe .terminated) := by
  unfold DirectCpicSession.terminateGeneration
  rw [if_neg (by simp [h])]

/-- The exchange which waits is handed what its `receive` comes to. -/
theorem Holding.settled (h : s.Holding i x .taken) (hx : s.Exchanging i x)
    (outcome : Except Cause Bytes) {t : NiSocketTransport} (ht : t.pendingReceive = none) :
    ∃ y, { s.settleReceive outcome with transport := t }.Exchanging i y ∧
      { s.settleReceive outcome with transport := t }.Holding i y .taken ∧
      y = { x with stage := x.stage.settleReceive outcome } := by
  obtain ⟨hsetup, hbusy, hexchanges, -⟩ := s.settleReceive_fields outcome
  have hclosed := s.settleReceive_closed outcome
  cases hp : s.transport.pendingReceive with
  | none =>
      have hnot : x.stage.isPending = false := by
        cases hpend : x.stage.isPending with
        | false => rfl
        | true =>
            have := (h.receiving i).mpr ⟨rfl, rfl, hpend⟩
            rw [hp] at this
            cases this
      rw [settleReceive_of_none hp]
      refine ⟨x, hx, ⟨h.busy, h.id, h.alone, fun k => ?_, h.fits⟩, ?_⟩
      · constructor
        · intro hk
          exact absurd hk (by simp [ht])
        · rintro ⟨-, -, hpend⟩
          rw [hnot] at hpend
          cases hpend
      · rw [settleReceive_of_not_isPending hnot]
  | some k =>
      obtain ⟨rfl, -, -⟩ := (h.receiving k).mp hp
      have hy : (s.settleReceive outcome).Exchanging k
          { x with stage := x.stage.settleReceive outcome } :=
        (exchanging_settleReceive hp).mpr ⟨x, hx, (if_pos rfl).symm⟩
      refine ⟨_, hy, ⟨hbusy.trans h.busy, h.id.trans hexchanges.symm, ?_, fun l => ?_, ?_⟩,
        rfl⟩
      · intro j z hz
        obtain ⟨z', hz', -⟩ := (exchanging_settleReceive hp).mp hz
        exact h.alone j z' hz'
      · constructor
        · intro hl
          exact absurd hl (by simp [ht])
        · rintro ⟨-, -, hpend⟩
          rw [isPending_settleReceive] at hpend
          cases hpend
      · exact StageFits.congr (StageFits.settleReceive h.fits outcome) hsetup
          fun hc => hclosed.trans hc

theorem Free.settled (h : s.Free) (outcome : Except Cause Bytes) {t : NiSocketTransport}
    (ht : t.pendingReceive = none) : { s.settleReceive outcome with transport := t }.Free := by
  rw [settleReceive_of_none h.receiving]
  exact ⟨h.busy, h.nobody, ht, h.ready⟩

theorem Waiting.settled (h : s.Waiting) (outcome : Except Cause Bytes) {t : NiSocketTransport}
    (ht : t.pendingReceive = none) :
    { s.settleReceive outcome with transport := t }.Waiting := by
  obtain hf | ⟨i, x, hx, hh⟩ := h
  · exact .inl (hf.settled outcome ht)
  · obtain ⟨y, hy, hh', -⟩ := hh.settled hx outcome ht
    exact .inr ⟨i, y, hy, hh'⟩

theorem Outside.settleReceive (h : s.Outside i) (outcome : Except Cause Bytes) :
    (s.settleReceive outcome).Outside i := by
  refine ⟨by rw [(s.settleReceive_fields outcome).2.2.2.2.1]; exact h.1, fun y hy => ?_⟩
  cases hp : s.transport.pendingReceive with
  | none =>
      rw [settleReceive_of_none hp] at hy
      exact h.2 y hy
  | some k =>
      obtain ⟨z, hz, -⟩ := (exchanging_settleReceive hp).mp hy
      exact h.2 z hz

theorem fail_pendingReceive (t : NiSocketTransport) (cause : Cause)
    (h : t.pendingReceive = none) : (t.fail cause).pendingReceive = none := by
  unfold NiSocketTransport.fail
  split
  · rfl
  · exact h

theorem settleReceive_pendingReceive (outcome : Except Cause Bytes) :
    (s.settleReceive outcome).transport.pendingReceive = none := by
  unfold DirectCpicSession.settleReceive
  split
  · assumption
  · rfl

theorem Waiting.closeTransport (h : s.Waiting) : s.closeTransport.Waiting :=
  h.settled _ rfl

theorem Waiting.failTransport (h : s.Waiting) (cause : Cause) : (s.failTransport cause).Waiting :=
  h.settled _ (fail_pendingReceive _ _ (settleReceive_pendingReceive _))

/-- An observation changes nothing of an exchange. -/
theorem alike_observe (s : DirectCpicSession Fields Value) (o : Observation) :
    s.Alike (s.observe o) := ⟨fun _ _ => Iff.rfl, rfl, rfl, rfl, rfl, id⟩

theorem Waiting.terminateGeneration (h : s.Waiting) : s.terminateGeneration.Waiting := by
  unfold DirectCpicSession.terminateGeneration
  split
  · exact h
  · refine (Waiting.closeTransport ?_).alike (alike_observe _ _)
    exact h.alike ⟨fun _ _ => Iff.rfl, rfl, rfl, rfl, rfl, fun _ => rfl⟩

theorem Outside.terminateGeneration (h : s.Outside i) : s.terminateGeneration.Outside i := by
  unfold DirectCpicSession.terminateGeneration
  split
  · exact h
  · have hc : Outside { s with
        closed := true
        cpicSessionId := none
        descriptors := fun _ => none } i := h
    exact hc.settleReceive _

theorem Waiting.terminate (h : s.Waiting) (ho : s.Outside i) (failure : RfcFailure)
    (program : Program Fields Value) : (s.terminate i failure program).Waiting := by
  unfold DirectCpicSession.terminate
  exact h.terminateGeneration.setStage ho.terminateGeneration rfl

theorem Waiting.threw (h : s.Waiting) (ho : s.Outside i) (failure : RfcFailure)
    (program : Program Fields Value) : (s.threw i failure program).Waiting := by
  unfold DirectCpicSession.threw
  exact (h.alike (alike_observe s _)).setStage ho rfl

/-- No `receive` is pending while an exchange is running. -/
theorem Holding.notPending (h : s.Holding i x point)
    (hp : point = .taken → x.stage.isPending = false) :
    s.transport.pendingReceive = none := by
  cases hr : s.transport.pendingReceive with
  | none => rfl
  | some k =>
      obtain ⟨-, hpoint, hpend⟩ := (h.receiving k).mp hr
      rw [hp hpoint] at hpend
      cases hpend

/-- The exchange which is running goes on at another point. -/
theorem Holding.goesOn (h : s.Holding i x point)
    (hp : point = .taken → x.stage.isPending = false) {point' : Point} (hy : y.id = x.id)
    (ha : s.Alike { s' with setup := s.setup }) (hpoint : point' ≠ .taken)
    (hf : s'.Fits y point') : s'.Holding i y point' where
  busy := ha.busy.trans h.busy
  id := (congrArg (· + 1) hy).trans (h.id.trans ha.exchanges.symm)
  alone := fun j z hz => h.alone j z ((ha.exchanging j z).mp hz)
  receiving := by
    intro k
    have hr : s'.transport.pendingReceive = none := ha.receiving.trans (h.notPending hp)
    rw [hr]
    exact ⟨nofun, fun hk => absurd hk.2.1 hpoint⟩
  fits := hf

/-- The exchange which is running stops at a stage. -/
theorem Holding.stops (h : s.Holding i x point) (s' : DirectCpicSession Fields Value)
    (hi : i < s.operations.length)
    {next : Except Thrown Bytes → Program Fields Value} (hy : y.id = x.id)
    (hops : s'.operations = s.operations) (hbusy : s'.busy = s.busy)
    (hexchanges : s'.exchanges = s.exchanges)
    (hr : ∀ k, s'.transport.pendingReceive = some k ↔ k = i ∧ y.stage.isPending = true)
    (hf : s'.StageFits y.stage) : (s'.setStage i (.exchanging y next)).Waiting := by
  have hi : i < s'.operations.length := by rw [hops]; exact hi
  refine .inr ⟨i, y, exchanging_setStage.mpr ⟨hi, next, rfl⟩, ?_⟩
  exact
    { busy := hbusy.trans h.busy
      id := (congrArg (· + 1) hy).trans (h.id.trans hexchanges.symm)
      alone := alone_setStage fun j z hz => h.alone j z ((Exchanging.congr hops).mp hz)
      receiving := fun k => (hr k).trans ⟨fun hk => ⟨hk.1, rfl, hk.2⟩, fun hk => ⟨hk.1, hk.2.2⟩⟩
      fits := hf }

/-- The exchange which is running ends. -/
theorem Holding.ends (h : s.Holding i x point)
    (hops : ∀ j y, s'.Exchanging j y → j ≠ i ∧ s.Exchanging j y) (hbusy : s'.busy = false)
    (hr : s'.transport.pendingReceive = none)
    (hready : s'.closed = true ∨ s'.setup = .ready) : s'.Waiting :=
  .inl ⟨hbusy, fun j y hy => (hops j y hy).1 (h.alone j y (hops j y hy).2), hr, hready⟩

/-- What terminating the generation leaves of a session no `receive` of which is pending. -/
theorem terminateGeneration_fields (h : s.transport.pendingReceive = none) :
    s.terminateGeneration.operations = s.operations ∧
      s.terminateGeneration.busy = s.busy ∧ s.terminateGeneration.exchanges = s.exchanges ∧
      s.terminateGeneration.setup = s.setup ∧
      s.terminateGeneration.transport.pendingReceive = none := by
  unfold DirectCpicSession.terminateGeneration
  split
  · exact ⟨rfl, rfl, rfl, rfl, h⟩
  · unfold DirectCpicSession.closeTransport
    rw [settleReceive_of_none (by exact h)]
    exact ⟨rfl, rfl, rfl, rfl, rfl⟩

/-- What a `receive` comes to at once, or that it is pending. -/
theorem receive_pendingReceive {t : NiSocketTransport} (h : t.pendingReceive = none) (k : Nat) :
    (t.receive i).1.pendingReceive = some k ↔ k = i ∧ (t.receive i).2 = none := by
  unfold NiSocketTransport.receive
  split
  · split
    · simp [h]
    · rw [h]
      simp [eq_comm]
  · simp [h]

theorem Holding.receiveReply (h : s.Holding i x point) (hi : i < s.operations.length)
    (hp : point = .taken → x.stage.isPending = false)
    {next : Except Thrown Bytes → Program Fields Value} (hy : y.id = x.id)
    (hs : s.setup ≠ .closed) : (s.receiveReply i next y).Waiting := by
  refine h.stops { s with transport := (s.transport.receive i).1 } hi ?_ rfl rfl rfl
    (fun k => (receive_pendingReceive (h.notPending hp) k).trans (and_congr_right fun _ => ?_)) hs
  · exact hy
  · cases (s.transport.receive i).2 <;> simp [ExchangeStage.isPending]

theorem Waiting.free (h : s.Waiting) (hb : s.busy = false) : s.Free := by
  obtain hf | ⟨i, x, -, hh⟩ := h
  · exact hf
  · rw [hh.busy] at hb
    cases hb

theorem assertNoQueuedFrames_ok {t : NiSocketTransport} (h : t.assertNoQueuedFrames = .ok ()) :
    t.isOpen = true ∧ t.frames = [] := by
  unfold NiSocketTransport.assertNoQueuedFrames at h
  split at h
  · rename_i ho
    split at h
    · exact ⟨ho, ‹_›⟩
    · cases h
  · cases h

theorem assertExchangeAvailable_ok {owner : Option Nat}
    (h : s.assertExchangeAvailable owner = .ok ()) : s.busy = false := by
  unfold assertExchangeAvailable at h
  split at h
  · cases h
  · rename_i hb
    simp only [not_or, Bool.not_eq_true] at hb
    exact hb.1

/-- The exchange which waits for a frame is the one whose `receive` is pending. -/
theorem Waiting.pendingReceive_iff (h : s.Waiting) (hx : s.Exchanging i x) :
    s.transport.pendingReceive = some i ↔ x.stage.isPending = true := by
  obtain hf | ⟨j, y, hy, hh⟩ := h
  · exact absurd hx (hf.nobody i x)
  · obtain rfl := hh.alone i x hx
    obtain rfl := hx.unique hy
    rw [hh.receiving]
    exact ⟨fun hk => hk.2.2, fun hp => ⟨rfl, rfl, hp⟩⟩

theorem arrive_of_none {frame : Bytes} (h : s.transport.pendingReceive = none) :
    s.arrive frame = { s.observe (.arrived frame) with
      transport := { s.transport with frames := s.transport.frames ++ [frame] } } := by
  simp only [DirectCpicSession.arrive, observe, h]

theorem arrive_of_some {frame : Bytes} (h : s.transport.pendingReceive = some i) :
    s.arrive frame = (s.observe (.arrived frame)).settleReceive (.ok frame) := by
  simp only [DirectCpicSession.arrive, observe, h]

theorem Waiting.arrive (h : s.Waiting) (frame : Bytes) : (s.arrive frame).Waiting := by
  have h := h.alike (alike_observe s (.arrived frame))
  unfold DirectCpicSession.arrive
  dsimp only
  split
  · exact h.settled (.ok frame) (settleReceive_pendingReceive _)
  · exact h.alike ⟨fun _ _ => Iff.rfl, rfl, rfl, rfl, rfl, id⟩

/-- The pending send of an exchange settles. -/
theorem Waiting.replaced (h : s.Waiting) (hx : s.Exchanging i x)
    (hpend : x.stage.isPending = false) {stage : ExchangeStage} (hq : stage.isPending = false)
    (hf : s.StageFits x.stage → s.StageFits stage)
    (next : Except Thrown Bytes → Program Fields Value) :
    (s.setStage i (.exchanging { x with stage } next)).Waiting := by
  obtain hfree | ⟨j, y, hy, hh⟩ := h
  · exact absurd hx (hfree.nobody i x)
  · obtain rfl := hh.alone i x hx
    obtain rfl := hx.unique hy
    have hr : s.transport.pendingReceive = none := hh.notPending fun _ => hpend
    refine hh.stops _ hx.lt rfl rfl rfl rfl (fun k => ?_) (hf hh.fits)
    rw [hr]
    exact ⟨nofun, fun hk => by simp [hq] at hk⟩

theorem Free.close (h : s.Free) : s.close.Waiting := by
  unfold DirectCpicSession.close
  split
  · exact .inl h
  · dsimp only
    have hclosing : Waiting ({ s with
        closed := true
        cpicSessionId := none
        descriptors := fun _ => none }.observe .closing) :=
      .inl ⟨h.busy, h.nobody, h.receiving, .inl rfl⟩
    split
    · split
      · exact .inl ⟨h.busy, h.nobody, h.receiving, .inl rfl⟩
      · exact hclosing.closeTransport
    · exact hclosing.closeTransport

/-- A call is outside of an exchange until it begins one. -/
theorem exchanging_addOperation {codec : Codec Fields Value} {c : Call Fields Value} :
    (s.addOperation codec c).Exchanging j y ↔ s.Exchanging j y := by
  unfold Exchanging addOperation
  constructor
  · rintro ⟨o, next, ho, hs⟩
    obtain hlt | rfl | hgt := Nat.lt_trichotomy j s.operations.length
    · exact ⟨o, next, by simpa [List.getElem?_append_left hlt] using ho, hs⟩
    · simp only [List.getElem?_concat_length, Option.some.injEq] at ho
      subst ho
      cases hs
    · have : (s.operations ++ [Operation.mk c none (.awaiting (c.program codec))])[j]? = none := by
        rw [List.getElem?_eq_none_iff]
        simpa using Nat.succ_le_of_lt hgt
      rw [this] at ho
      cases ho
  · rintro ⟨o, next, ho, hs⟩
    have hlt := (List.getElem?_eq_some_iff.mp ho).1
    exact ⟨o, next, by simpa [List.getElem?_append_left hlt] using ho, hs⟩

theorem Waiting.addOperation (h : s.Waiting) (codec : Codec Fields Value)
    (c : Call Fields Value) :
    (s.addOperation codec c).Waiting ∧ (s.addOperation codec c).Outside s.operations.length := by
  refine ⟨h.alike ⟨fun _ _ => exchanging_addOperation, rfl, rfl, rfl, rfl, id⟩, ?_, ?_⟩
  · simp [DirectCpicSession.addOperation]
  · intro y hy
    have := (exchanging_addOperation.mp hy).lt
    omega

/-- An operation which leaves its exchange is outside. -/
theorem exchanging_modify {f : Operation Fields Value → Operation Fields Value}
    (hops : s'.operations = s.operations.modify i f) (hf : ∀ o, (f o).stage.isOutside = true)
    (hy : s'.Exchanging j y) : j ≠ i ∧ s.Exchanging j y := by
  obtain ⟨o, next, ho, hs⟩ := hy
  rw [hops, List.getElem?_modify, Option.map_eq_map] at ho
  cases hp : s.operations[j]? with
  | none => simp [hp] at ho
  | some p =>
      rw [hp, Option.map_some, Option.some.injEq] at ho
      by_cases hj : i = j
      · rw [if_pos hj] at ho
        have := hf p
        rw [ho, hs] at this
        cases this
      · rw [if_neg hj] at ho
        subst ho
        exact ⟨Ne.symm hj, p, next, hp, hs⟩

/-- What the transport is left with by `close`, or by a failure, when no `receive` is
pending. -/
theorem closeTransport_fields (h : s.transport.pendingReceive = none) :
    s.closeTransport = { s with transport := s.transport.close } := by
  unfold DirectCpicSession.closeTransport
  rw [settleReceive_of_none h]

theorem failTransport_fields (h : s.transport.pendingReceive = none) (cause : Cause) :
    s.failTransport cause = { s with transport := s.transport.fail cause } := by
  unfold DirectCpicSession.failTransport
  rw [settleReceive_of_none h]

end DirectCpicSession

open DirectCpicSession in
theorem Turn.Coherent.move {codec : Codec Fields Value} {lax : Lax} {d d' : Turn Fields Value}
    (h : d.Coherent) (hm : Move codec lax d d') : d'.Coherent := by
  cases hm with
  | arrived frame ho => exact h.arrive frame
  | transportFailed cause => exact h.failTransport cause
  | sendSettled outcome ho hs hx =>
      refine h.replaced ⟨_, _, ho, hs⟩ (by rw [hx]; rfl) rfl (fun hf => ?_) _
      rw [hx] at hf
      exact hf
  | closed hc hb ho hg => exact (h.free hb).close
  | @closeFinished s hd =>
      have h : Waiting { s with deallocating := false } :=
        h.alike ⟨fun _ _ => Iff.rfl, rfl, rfl, rfl, rfl, id⟩
      exact h.closeTransport
  | called c hg => exact h.addOperation codec c
  | resumed ho hs => exact ⟨h, .of_stage ho (by rw [hs]; rfl)⟩
  | threwTerminated ho hs => exact h.threw (.of_stage ho (by rw [hs]; rfl)) _ _
  | resolved value | rejected e =>
      exact (h.1.alike (alike_observe _ _)).setStage h.2 rfl
  | readAuthenticated next | readSessionId next | readDescriptor key next => exact h
  | stored key value next | claimed next ha | released next hr | loggedOn value next hg =>
      exact ⟨h.1.alike ⟨fun _ _ => Iff.rfl, rfl, rfl, rfl, rfl, id⟩, h.2⟩
  | claimRefused next ha => exact ⟨h.1.alike (alike_observe _ _), h.2⟩
  | ticked next | bcdFailed message next | exchangeClosed next hc => exact h.1.setStage h.2 rfl
  | valueMalformed message next hg => exact h.1.terminate h.2 _ _
  | logonFailed failure next hf hg | responseFailed failure next hf hg =>
      exact h.1.terminate h.2 _ _
  | declaredException failure next hf hp ht hs hr => exact h.1.threw h.2 _ _
  | deallocated next hs | exchangeBusy next hc ha | requestRefused next hc ha hr =>
      exact h.1.threw h.2 _ _
  | answered decoded next hs => exact (h.1.alike (alike_observe _ _)).setStage h.2 rfl
  | began outgoingPlan next hc ha =>
      have hfree := h.1.free (assertExchangeAvailable_ok ha)
      have hready := hfree.ready.resolve_left (by simp [hc])
      refine ⟨⟨rfl, rfl, fun j y hy => absurd hy (hfree.nobody j y), fun k => ?_, hready⟩,
        h.2.1, nofun⟩
      exact ⟨fun hk => absurd (hfree.receiving.symm.trans hk) nofun, fun hk => nomatch hk.2.1⟩
  | taken ho hs hx =>
      obtain hfree | ⟨j, y, hy, hh⟩ := h
      · exact absurd ⟨_, _, ho, hs⟩ (hfree.nobody _ _)
      · obtain rfl := hh.alone _ _ ⟨_, _, ho, hs⟩
        obtain rfl := hy.unique ⟨_, _, ho, hs⟩
        exact ⟨hh, hy.lt, fun _ => hx⟩
  | caught y cause transmission hy hpoint hg =>
      obtain ⟨hh, hi, hp⟩ := h
      obtain ⟨hops, hbusy, hexchanges, -, hr⟩ := terminateGeneration_fields (hh.notPending hp)
      refine hh.stops _ hi hy hops hbusy hexchanges (fun k => ?_)
        ⟨terminateGeneration_closed, exchangeFailure_disposition _ _ _ _⟩
      exact ⟨fun hk => absurd (hr.symm.trans hk) nofun, fun hk => nomatch hk.2⟩
  | frameQueued cause hpoint =>
      obtain ⟨hh, hi, hp⟩ := h
      have hf := failTransport_fields (hh.notPending hp) cause
      refine ⟨?_, by rw [hf]; exact hi, hp⟩
      rw [hf]
      refine hh.goesOn hp rfl ⟨fun _ _ => Iff.rfl, ?_, rfl, rfl, rfl, id⟩ ?_ (hh.fits.congr rfl id)
      · rw [hh.notPending hp]
        exact fail_pendingReceive _ _ (hh.notPending hp)
      · obtain rfl | rfl := hpoint <;> exact nofun
  | failed hx =>
      obtain ⟨hh, hi, hp⟩ := h
      have hfit := hh.fits
      unfold Fits StageFits at hfit
      rw [hx] at hfit
      exact hh.ends (fun j y => exchanging_modify rfl fun _ => rfl) rfl (hh.notPending hp)
        (.inl hfit.1)
  | @planned s i x point next steps y hy hpoint hs hp =>
      obtain ⟨hh, hi, hp'⟩ := h
      have hopen : s.setup ≠ .closed := by
        rw [hs]
        exact nofun
      exact ⟨hh.goesOn hp' hy ⟨fun _ _ => Iff.rfl, rfl, rfl, rfl, rfl, id⟩ nofun
        ⟨hopen, codec.prepare_isData hp⟩, hi, nofun⟩
  | sent hs =>
      obtain ⟨hh, hi, hp⟩ := h
      obtain ⟨hopen, hdata⟩ := hh.fits
      obtain ⟨hclosed, hbarrier⟩ :=
        AppcClientSetupState.sent_isData (hdata _ List.mem_cons_self) hs
      refine hh.stops _ hi rfl rfl rfl rfl (fun k => ?_)
        ⟨hclosed, hbarrier, fun step hstep => hdata step (List.mem_cons_of_mem _ hstep)⟩
      exact ⟨fun hk => absurd ((hh.notPending hp).symm.trans hk) nofun, fun hk => nomatch hk.2⟩
  | sendAccepted hx hf =>
      obtain ⟨hh, hi, hp⟩ := h
      have hfit := hh.fits
      unfold Fits StageFits at hfit
      rw [hx] at hfit
      exact ⟨hh.goesOn hp rfl ⟨fun _ _ => Iff.rfl, rfl, rfl, rfl, rfl, id⟩ nofun
        ⟨hfit.1, hfit.2.2⟩, hi, nofun⟩
  | @awaitsAcknowledgement s i x index step rest next hx hf =>
      obtain ⟨hh, hi, hp⟩ := h
      have hfit := hh.fits
      unfold Fits StageFits at hfit
      rw [hx] at hfit
      refine hh.stops { s with transport := (s.transport.receive i).1 } hi rfl rfl rfl rfl
        (fun k => (receive_pendingReceive (hh.notPending hp) k).trans
          (and_congr_right fun _ => ?_)) ⟨hfit.2.1 hf, hfit.2.2⟩
      cases (s.transport.receive i).2 <;> simp [ExchangeStage.isPending]
  | @acknowledged s i x index step rest payload next setup hx hs =>
      obtain ⟨hh, hi, hp⟩ := h
      have hfit := hh.fits
      unfold Fits StageFits at hfit
      rw [hx] at hfit
      refine ⟨hh.goesOn hp rfl ⟨fun _ _ => Iff.rfl, rfl, rfl, rfl, rfl, id⟩ nofun
        ⟨?_, hfit.2⟩, hi, nofun⟩
      have hsetup : setup ≠ .closed := by
        obtain rfl | ⟨rfl, acknowledgement, hack⟩ := hs
        · rw [hfit.1]
          exact nofun
        · rw [hfit.1, AppcClientSetupState.received_acknowledgement hack]
          exact nofun
      exact hsetup
  | @writerFailed s i x point next index cause hpoint =>
      obtain ⟨hh, hi, hp⟩ := h
      have hclose := closeTransport_fields (hh.notPending hp)
      have hsetup : s.setup ≠ .closed := by
        obtain ⟨rfl, hwriting⟩ | ⟨index, steps, rfl⟩ := hpoint
        · have hfit := hh.fits
          unfold Fits StageFits at hfit
          cases hx : x.stage with
          | sending index step rest outcome =>
              rw [hx] at hfit
              exact hfit.1
          | acknowledging index step rest outcome =>
              rw [hx] at hfit
              rw [hfit.1]
              exact nofun
          | _ =>
              rw [hx] at hwriting
              cases hwriting
        · exact hh.fits.1
      unfold Coherent DirectCpicSession.failWriter
      rw [hclose]
      refine hh.stops _ hi rfl rfl rfl rfl (fun k => ?_) hsetup
      exact ⟨nofun, fun hk => nomatch hk.2⟩
  | written =>
      obtain ⟨hh, hi, hp⟩ := h
      exact hh.receiveReply hi hp rfl hh.fits.1
  | read hx =>
      obtain ⟨hh, hi, hp⟩ := h
      exact ⟨hh.goesOn hp rfl ⟨fun _ _ => Iff.rfl, rfl, rfl, rfl, rfl, id⟩ nofun trivial, hi,
        nofun⟩
  | readMore hs =>
      obtain ⟨hh, hi, hp⟩ := h
      exact hh.receiveReply hi hp rfl hs
  | ended message hd hs hg =>
      obtain ⟨hh, hi, hp⟩ := h
      obtain ⟨hops, hbusy, hexchanges, hsetup, hr⟩ :=
        terminateGeneration_fields (hh.notPending hp)
      refine hh.stops _ hi rfl hops hbusy hexchanges (fun k => ?_)
        ⟨hsetup.trans hs, terminateGeneration_closed⟩
      exact ⟨fun hk => absurd (hr.symm.trans hk) nofun, fun hk => nomatch hk.2⟩
  | completed message hd hq hs =>
      obtain ⟨hh, hi, hp⟩ := h
      exact ⟨hh.goesOn hp rfl ⟨fun _ _ => Iff.rfl, rfl, rfl, rfl, rfl, id⟩ nofun rfl, hi, nofun⟩
  | completeRefused =>
      obtain ⟨hh, hi, hp⟩ := h
      exact ⟨hh.goesOn hp rfl ⟨fun _ _ => Iff.rfl, rfl, rfl, rfl, rfl, id⟩ nofun trivial, hi,
        nofun⟩
  | completedEnded hx =>
      obtain ⟨hh, hi, hp⟩ := h
      have hfit := hh.fits
      unfold Fits StageFits at hfit
      rw [hx] at hfit
      exact ⟨hh.goesOn hp rfl ⟨fun _ _ => Iff.rfl, rfl, rfl, rfl, rfl, id⟩ nofun hfit, hi, nofun⟩
  | @returned s i x next message ended =>
      obtain ⟨hh, hi, hp⟩ := h
      refine hh.ends (fun j y => exchanging_modify rfl fun _ => rfl) rfl (hh.notPending hp) ?_
      cases ended with
      | true => exact .inl hh.fits.2
      | false => exact .inr hh.fits

theorem coherent_initial : Turn.Coherent (⟨.initial, .idle⟩ : Turn Fields Value) :=
  .inl
    { busy := rfl
      nobody := by
        rintro j y ⟨o, next, ho, -⟩
        cases ho
      receiving := rfl
      ready := .inr rfl }

namespace DirectCpicSession
variable {s : DirectCpicSession Fields Value}

/-- A conversation which has ended is only seen on a session which is closed. -/
theorem Waiting.closed_of_setup (h : s.Waiting) (hs : s.setup = .closed) : s.closed = true := by
  obtain hf | ⟨i, x, -, hh⟩ := h
  · refine hf.ready.resolve_right fun hr => ?_
    rw [hs] at hr
    cases hr
  · have hfit := hh.fits
    unfold Fits StageFits at hfit
    dsimp only at hfit
    split at hfit
    · exact absurd hs hfit.1
    · rw [hs] at hfit
      cases hfit.1
    · exact absurd hs hfit
    · exact absurd hs hfit
    · exact hfit.2
    · exact hfit.1

/-- A session nobody is using, and which is not closed, can take another exchange. -/
theorem Waiting.ready (h : s.Waiting) (hb : s.busy = false) (hc : s.closed = false) :
    s.setup = .ready := by
  refine (h.free hb).ready.resolve_left ?_
  rw [hc]
  exact nofun

end DirectCpicSession

end OpenRfc.DirectCpic
