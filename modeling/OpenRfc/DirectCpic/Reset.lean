import OpenRfc.DirectCpic.Disposition

/-!
A reset of the server context is all or nothing: while a session which has been reset is not
refreshed, nothing but the refresh is sent on it, and a reset which fails after the server has
been reset leaves the session closed.
-/

namespace OpenRfc.DirectCpic

variable {Fields Value : Type}

/-- The error does not leave its generation reusable. -/
def Thrown.Fatal (e : Thrown) : Prop :=
  ∀ failure, e = .core failure → failure.disposition ≠ .reusable

theorem Thrown.fatal_error (message : String) : (Thrown.error message).Fatal := by
  intro failure h
  cases h

theorem Thrown.fatal_core {failure : RfcFailure} (h : failure.disposition ≠ .reusable) :
    (Thrown.core failure).Fatal := by
  intro failure' he
  cases he
  exact h

namespace Program
variable (codec : Codec Fields Value)

/-- What a reset goes on with when the reply to its refresh has been decoded. -/
def refreshed : Except Thrown (DecodedFields Fields) → Program Fields Value :=
  releaseAndReject fun _ => .release (.resolve codec.resetResult)

/-- What a reset goes on with after the exchange of its refresh. -/
def refreshReply : Except Thrown Bytes → Program Fields Value :=
  releaseAndReject fun refresh =>
    .decodeRegularResponse refresh .sessionRefresh (refreshed codec)

/-- What a pending reset awaits. -/
def AwaitsRefresh (s : DirectCpicSession Fields Value) : Program Fields Value → Prop
  | .sessionId next => .sessionId next = refreshSession codec
  | .decodeRegularResponse _ kind next => kind = .sessionRefresh ∧ next = refreshed codec
  | .release next => s.closed = true ∧ ∃ e : Thrown, e.Fatal ∧ next = .reject e
  | _ => False

/-- What a pending reset runs. -/
def RunsRefresh (s : DirectCpicSession Fields Value) : Program Fields Value → Prop
  | .sessionId next => .sessionId next = refreshSession codec
  | .exchange _ _ owned next => owned = true ∧ next = refreshReply codec
  | .decodeRegularResponse _ kind next => kind = .sessionRefresh ∧ next = refreshed codec
  | .release next => ∃ e : Thrown, e.Fatal ∧ next = .reject e
  | .reject e => s.closed = true ∧ e.Fatal
  | _ => False

theorem AwaitsRefresh.runs {codec : Codec Fields Value} {s : DirectCpicSession Fields Value}
    {program : Program Fields Value} (h : AwaitsRefresh codec s program) :
    RunsRefresh codec s program := by
  cases program with
  | release next => exact h.2
  | sessionId | decodeRegularResponse => exact h
  | _ => exact absurd h id

/-- The refresh is requested with the session id, or fails before. -/
theorem RunsRefresh.id {codec : Codec Fields Value} {s : DirectCpicSession Fields Value}
    {next : Option Bytes → Program Fields Value} (h : RunsRefresh codec s (.sessionId next))
    (cpicSessionId : Option Bytes) : RunsRefresh codec s (next cpicSessionId) := by
  have h : Program.sessionId next = refreshSession codec := h
  unfold refreshSession at h
  rw [Program.sessionId.inj h]
  cases cpicSessionId with
  | none => exact ⟨_, Thrown.fatal_error _, rfl⟩
  | some cpicSessionId =>
      dsimp only
      cases codec.encodeCpicFunctionRequest "RFC_PING" cpicSessionId with
      | error message => exact ⟨_, Thrown.fatal_error _, rfl⟩
      | ok request => exact ⟨rfl, rfl⟩

end Program

namespace DirectCpicSession

/-- Where a pending reset has got to. -/
def StageRefreshes (codec : Codec Fields Value) (s : DirectCpicSession Fields Value) :
    Stage Fields Value → Prop
  | .awaiting program => program.AwaitsRefresh codec s
  | .terminating failure program =>
      failure.disposition ≠ .reusable ∧ s.closed = true ∧
        program = .release (.reject (.core failure))
  | .exchanging _ next => next = Program.refreshReply codec
  | .rejected e => s.closed = true ∧ e.Fatal
  | .resolved _ => False

end DirectCpicSession

/-- A reset holds the session from its first exchange on, and until it is refreshed. -/
structure Turn.Resetting (codec : Codec Fields Value) (d : Turn Fields Value) : Prop where
  owner : ∀ i, Pending d.session.trace i →
    d.session.closed = true ∨ d.session.compoundOperationOwner = some i
  live : d.session.compoundOperationOwner ≠ none → d.session.cpicSessionId = none →
    d.session.closed = true
  held : ∀ j x, d.InExchange j x → .began x j ∈ d.session.trace ∧
    ∀ i, d.session.compoundOperationOwner = some i → j = i
  bound : ∀ i kind, .answered i kind ∈ d.session.trace → i < d.session.operations.length
  stages : ∀ i o, Pending d.session.trace i → d.actor ≠ some i →
    d.session.operations[i]? = some o → d.session.StageRefreshes codec o.stage
  running : match d.control with
    | .idle => True
    | .running i program => Pending d.session.trace i → program.RunsRefresh codec d.session
    | .exchange i _ next _ => Pending d.session.trace i → next = Program.refreshReply codec

namespace DirectCpicSession
variable {codec : Codec Fields Value} {s s' t : DirectCpicSession Fields Value} {i j x : Nat}

theorem StageRefreshes.same {stage stage' : Stage Fields Value}
    (h : s.StageRefreshes codec stage) (hs : SameStage stage stage')
    (hc : s.closed = true → s'.closed = true) : s'.StageRefreshes codec stage' := by
  obtain rfl | ⟨y, z, next, rfl, rfl⟩ := hs
  · cases stage' with
    | awaiting program =>
        cases program with
        | release next => exact ⟨hc h.1, h.2⟩
        | _ => exact h
    | terminating failure program => exact ⟨h.1, hc h.2.1, h.2.2⟩
    | rejected e => exact ⟨hc h.1, h.2⟩
    | exchanging y next => exact h
    | resolved value => exact h
  · exact h

/-- What most of the code leaves as it is. -/
structure Undisturbed (s s' : DirectCpicSession Fields Value) : Prop where
  stages : ∀ (j : Nat) (o' : Operation Fields Value), s'.operations[j]? = some o' →
    ∃ o : Operation Fields Value, s.operations[j]? = some o ∧ SameStage o.stage o'.stage
  length : s'.operations.length = s.operations.length
  closed : s.closed = true → s'.closed = true
  owner : s'.compoundOperationOwner = s.compoundOperationOwner
  live : s'.cpicSessionId = none → s.cpicSessionId = none ∨ s'.closed = true
  pending : ∀ j, Pending s'.trace j → Pending s.trace j
  answered : ∀ j kind, .answered j kind ∈ s'.trace → .answered j kind ∈ s.trace
  began : ∀ x j, .began x j ∈ s.trace → .began x j ∈ s'.trace

theorem Undisturbed.refl : s.Undisturbed s :=
  ⟨fun _ o' ho' => ⟨o', ho', .inl rfl⟩, rfl, id, rfl, .inl, fun _ h => h, fun _ _ h => h,
    fun _ _ h => h⟩

theorem Undisturbed.trans (h : s.Undisturbed s') (h' : s'.Undisturbed t) : s.Undisturbed t where
  stages j o' ho' := by
    obtain ⟨o, ho, hs⟩ := h'.stages j o' ho'
    obtain ⟨p, hp, hs'⟩ := h.stages j o ho
    exact ⟨p, hp, hs'.trans hs⟩
  length := h'.length.trans h.length
  closed hc := h'.closed (h.closed hc)
  owner := h'.owner.trans h.owner
  live hn := by
    obtain hn | hc := h'.live hn
    · exact (h.live hn).imp_right h'.closed
    · exact .inr hc
  pending j hj := h.pending j (h'.pending j hj)
  answered j kind hj := h.answered j kind (h'.answered j kind hj)
  began x j hx := h'.began x j (h.began x j hx)

theorem undisturbed_observe {o : Observation} (ho : ∀ j kind, o ≠ .answered j kind) :
    s.Undisturbed (s.observe o) where
  stages _ o' ho' := ⟨o', ho', .inl rfl⟩
  length := rfl
  closed := id
  owner := rfl
  live := .inl
  pending j := (pending_cons (ho j)).mp
  answered j kind hj := by
    obtain rfl | hj := List.mem_cons.mp hj
    · exact absurd rfl (ho j kind)
    · exact hj
  began _ _ := List.mem_cons_of_mem o

/-- Nothing of it is touched. -/
theorem undisturbed_of_eq (hops : s'.operations = s.operations) (hc : s'.closed = s.closed)
    (ho : s'.compoundOperationOwner = s.compoundOperationOwner)
    (hid : s'.cpicSessionId = none → s.cpicSessionId = none) (ht : s'.trace = s.trace) :
    s.Undisturbed s' where
  stages _ o' ho' := ⟨o', by rw [← hops]; exact ho', .inl rfl⟩
  length := by rw [hops]
  closed h := hc.trans h
  owner := ho
  live h := .inl (hid h)
  pending _ h := by rwa [← ht]
  answered _ _ h := by rwa [← ht]
  began _ _ h := by rwa [ht]

theorem undisturbed_settled (outcome : Except Cause Bytes) (t : NiSocketTransport) :
    s.Undisturbed { s.settleReceive outcome with transport := t } where
  stages j o' ho' := by
    obtain ⟨o, ho, -, -, hs⟩ := s.stages_settleReceive outcome j o' ho'
    exact ⟨o, ho, hs⟩
  length := (s.settleReceive_fields outcome).2.2.2.2.1
  closed h := (settleReceive_closed outcome).trans h
  owner := (s.settleReceive_known outcome).2.1
  live h := .inl ((s.settleReceive_known outcome).2.2.symm.trans h)
  pending j h := by
    dsimp only at h
    rwa [(s.settleReceive_fields outcome).2.2.2.1] at h
  answered j kind h := by
    dsimp only at h
    rwa [(s.settleReceive_fields outcome).2.2.2.1] at h
  began x j h := by
    dsimp only
    rwa [(s.settleReceive_fields outcome).2.2.2.1]

/-- The generation ends. -/
theorem undisturbed_shut (hops : s'.operations = s.operations) (hc : s'.closed = true)
    (ho : s'.compoundOperationOwner = s.compoundOperationOwner) (ht : s'.trace = s.trace) :
    s.Undisturbed s' where
  stages _ o' ho' := ⟨o', by rw [← hops]; exact ho', .inl rfl⟩
  length := by rw [hops]
  closed _ := hc
  owner := ho
  live _ := .inr hc
  pending _ h := by rwa [← ht]
  answered _ _ h := by rwa [← ht]
  began _ _ h := by rwa [ht]

theorem undisturbed_terminateGeneration : s.Undisturbed s.terminateGeneration := by
  cases hc : s.closed with
  | true =>
      rw [terminateGeneration_of_closed hc]
      exact .refl
  | false =>
      rw [terminateGeneration_of_open hc]
      have hshut : s.Undisturbed { s with
          closed := true
          cpicSessionId := none
          descriptors := fun _ => none } := undisturbed_shut rfl rfl rfl rfl
      exact (hshut.trans (undisturbed_settled _ _)).trans (undisturbed_observe (by simp))

theorem undisturbed_close : s.Undisturbed s.close := by
  unfold close
  split
  · exact .refl
  · have hshut : s.Undisturbed { s with
        closed := true
        cpicSessionId := none
        descriptors := fun _ => none } := undisturbed_shut rfl rfl rfl rfl
    have hclosing := hshut.trans (undisturbed_observe (o := .closing) (by simp))
    dsimp only
    split
    · split
      · refine hclosing.trans (.trans ?_ (undisturbed_observe (by simp)))
        exact undisturbed_of_eq rfl rfl rfl id rfl
      · exact hclosing.trans (undisturbed_settled _ _)
    · exact hclosing.trans (undisturbed_settled _ _)

theorem assertExchangeAvailable_owner {owner : Option Nat}
    (h : s.assertExchangeAvailable owner = .ok ()) :
    s.compoundOperationOwner = none ∨ s.compoundOperationOwner = owner := by
  unfold assertExchangeAvailable at h
  split at h
  · cases h
  · rename_i hn
    by_contra hne
    rw [not_or] at hne
    exact hn (.inr hne)

theorem assertExchangeAvailable_of_owner {owner : Option Nat} (hb : s.busy = false)
    (ho : s.compoundOperationOwner = none ∨ s.compoundOperationOwner = owner) :
    s.assertExchangeAvailable owner = .ok () := by
  unfold assertExchangeAvailable
  rw [if_neg]
  rintro (h | ⟨hn, hne⟩)
  · cases hb.symm.trans h
  · exact ho.elim hn hne

/-- The operation stops in its exchange. -/
theorem waitsIn_stop {y : Exchange} {next : Except Thrown Bytes → Program Fields Value}
    (halone : ∀ j z, s.Exchanging j z → j = i)
    (h : (s.setStage i (.exchanging y next)).WaitsIn j x) : i = j ∧ y.id = x := by
  obtain ⟨z, hz, rfl⟩ := h
  obtain rfl := alone_setStage halone j z hz
  obtain ⟨-, next', he⟩ := exchanging_setStage.mp hz
  cases he
  exact ⟨rfl, rfl⟩

theorem waitsIn_of_settleReceive {outcome : Except Cause Bytes}
    (h : (s.settleReceive outcome).WaitsIn i x) : s.WaitsIn i x := by
  obtain ⟨y, hy, hid⟩ := h
  cases hp : s.transport.pendingReceive with
  | none =>
      rw [settleReceive_of_none hp] at hy
      exact ⟨y, hy, hid⟩
  | some k =>
      obtain ⟨z, hz, rfl⟩ := (exchanging_settleReceive hp).mp hy
      refine ⟨z, hz, ?_⟩
      split at hid
      · exact hid
      · exact hid

theorem waitsIn_of_terminateGeneration (h : s.terminateGeneration.WaitsIn i x) :
    s.WaitsIn i x := by
  cases hc : s.closed with
  | true =>
      rw [terminateGeneration_of_closed hc] at h
      exact h
  | false =>
      rw [terminateGeneration_of_open hc] at h
      exact waitsIn_of_settleReceive (s := { s with
        closed := true
        cpicSessionId := none
        descriptors := fun _ => none }) h

theorem nobody_close (h : s.Free) (j : Nat) (y : Exchange) : ¬ s.close.Exchanging j y := by
  have hclosing : Free ({ s with
      closed := true
      cpicSessionId := none
      descriptors := fun _ => none }.observe .closing) :=
    ⟨h.busy, h.nobody, h.receiving, .inl rfl⟩
  unfold close
  split
  · exact h.nobody j y
  · dsimp only
    split
    · split
      · exact h.nobody j y
      · exact (hclosing.settled _ rfl).nobody j y
    · exact (hclosing.settled _ rfl).nobody j y

theorem undisturbed_replied {ended : Bool} {x : Nat} {payloads : List Bytes} {data : Bytes} :
    s.Undisturbed (s.replied i ended (.returned x payloads data ended)) where
  stages j o' ho' := by
    simp only [replied, observe, List.getElem?_modify, Option.map_eq_map,
      Option.map_eq_some_iff] at ho'
    obtain ⟨o, ho, rfl⟩ := ho'
    refine ⟨o, ho, .inl ?_⟩
    split
    · rfl
    · rfl
  length := List.length_modify ..
  closed := id
  owner := rfl
  live := .inl
  pending j := (pending_cons (by simp)).mp
  answered j kind hj := by simpa [replied, observe] using hj
  began _ _ := List.mem_cons_of_mem _

theorem waitsIn_of_replied {ended : Bool} {o : Observation}
    (h : (s.replied i ended o).WaitsIn j x) : s.WaitsIn j x := by
  obtain ⟨y, ⟨o', next, ho', hs⟩, hid⟩ := h
  simp only [replied, observe, List.getElem?_modify, Option.map_eq_map,
    Option.map_eq_some_iff] at ho'
  obtain ⟨p, hp, rfl⟩ := ho'
  refine ⟨y, ⟨p, next, hp, ?_⟩, hid⟩
  split at hs
  · exact hs
  · exact hs

theorem waitsIn_of_setStage {stage : Stage Fields Value}
    (h : (s.setStage j stage).WaitsIn i x) (ho : s.Outside j) (hs : stage.isOutside = true) :
    s.WaitsIn i x := by
  obtain ⟨y, hy, hid⟩ := h
  exact ⟨y, (ho.exchanging_setStage hs).mp hy, hid⟩

end DirectCpicSession

namespace Turn
variable {codec : Codec Fields Value} {d d' : Turn Fields Value}
  {s s' : DirectCpicSession Fields Value} {i : Nat}
open DirectCpicSession

theorem Resetting.keeps (h : d.Resetting codec) (hu : d.session.Undisturbed d'.session)
    (hin : ∀ j x, d'.InExchange j x → d.InExchange j x)
    (hst : ∀ j o, Pending d.session.trace j → d'.actor ≠ some j →
      d'.session.operations[j]? = some o → d'.session.StageRefreshes codec o.stage)
    (hrun : match d'.control with
      | .idle => True
      | .running i program => Pending d.session.trace i → program.RunsRefresh codec d'.session
      | .exchange i _ next _ => Pending d.session.trace i → next = Program.refreshReply codec) :
    d'.Resetting codec where
  owner j hj := by
    rw [hu.owner]
    exact (h.owner j (hu.pending j hj)).imp_left hu.closed
  live ho hid := by
    rw [hu.owner] at ho
    obtain hid | hc := hu.live hid
    · exact hu.closed (h.live ho hid)
    · exact hc
  held j x hj := by
    rw [hu.owner]
    obtain ⟨hb, ho⟩ := h.held j x (hin j x hj)
    exact ⟨hu.began x j hb, ho⟩
  bound j kind hj := by
    rw [hu.length]
    exact h.bound j kind (hu.answered j kind hj)
  stages j o hj := hst j o (hu.pending j hj)
  running := by
    cases hd : d'.control with
    | idle => trivial
    | running i program =>
        rw [hd] at hrun
        exact fun hi => hrun (hu.pending i hi)
    | exchange i y next point =>
        rw [hd] at hrun
        exact fun hi => hrun (hu.pending i hi)

theorem Resetting.others (h : d.Resetting codec) (hu : d.session.Undisturbed s') {j : Nat}
    {o : Operation Fields Value} (hp : Pending d.session.trace j) (hj : d.actor ≠ some j)
    (ho : s'.operations[j]? = some o) : s'.StageRefreshes codec o.stage := by
  obtain ⟨p, hp', hs⟩ := hu.stages j o ho
  exact (h.stages j p hp hj hp').same hs hu.closed

/-- Something happens while no code is running. -/
theorem Resetting.idles (h : Resetting codec ⟨s, .idle⟩) (hu : s.Undisturbed s')
    (hin : ∀ j x, s'.WaitsIn j x → s.WaitsIn j x) : Resetting codec ⟨s', .idle⟩ :=
  h.keeps hu hin (fun _ _ hp _ ho => h.others hu hp nofun ho) trivial

theorem stageRefreshes_setStage {stage stage' : Stage Fields Value} :
    (s.setStage i stage').StageRefreshes codec stage ↔ s.StageRefreshes codec stage := by
  cases stage with
  | awaiting program => cases program <;> exact Iff.rfl
  | _ => exact Iff.rfl

/-- The code of the operation stops, or none was running. -/
theorem Resetting.stops (h : d.Resetting codec) (ha : d.actor = none ∨ d.actor = some i)
    (hu : d.session.Undisturbed s') {stage : Stage Fields Value}
    (hin : ∀ j x, (s'.setStage i stage).WaitsIn j x → d.InExchange j x)
    (hi : Pending d.session.trace i → s'.StageRefreshes codec stage) :
    Resetting codec ⟨s'.setStage i stage, .idle⟩ := by
  have hlength : (s'.setStage i stage).operations.length = s'.operations.length :=
    List.length_modify ..
  refine
    { owner := fun j hj => ?_
      live := fun ho hid => ?_
      held := fun j x hj => ?_
      bound := fun j kind hj => ?_
      stages := fun j o hj _ ho => ?_
      running := trivial }
  · have := (h.owner j (hu.pending j hj)).imp_left hu.closed
    rw [← hu.owner] at this
    exact this
  · obtain hid | hc := hu.live hid
    · exact hu.closed (h.live (by rw [← hu.owner]; exact ho) hid)
    · exact hc
  · obtain ⟨hb, ho⟩ := h.held j x (hin j x hj)
    exact ⟨hu.began x j hb, fun k hk => ho k (hu.owner.symm.trans hk)⟩
  · exact Nat.lt_of_lt_of_eq (h.bound j kind (hu.answered j kind hj))
      (hlength.trans hu.length).symm
  · rw [stageRefreshes_setStage]
    have hj := hu.pending j hj
    by_cases hji : i = j
    · subst hji
      simp only [setStage, List.getElem?_modify, Option.map_eq_map, if_true,
        Option.map_eq_some_iff] at ho
      obtain ⟨o', -, rfl⟩ := ho
      exact hi hj
    · have ho : s'.operations[j]? = some o := by simpa [setStage, hji] using ho
      refine h.others hu hj ?_ ho
      obtain ha | ha := ha
      · rw [ha]
        rintro ⟨⟩
      · rw [ha]
        simpa using hji

/-- The code which is running goes on. -/
theorem Resetting.runs (h : d.Resetting codec) (ha : d.actor = some i)
    (hu : d.session.Undisturbed s') {program : Program Fields Value}
    (hin : ∀ j x, s'.WaitsIn j x → d.InExchange j x)
    (hi : Pending d.session.trace i → program.RunsRefresh codec s') :
    Resetting codec ⟨s', .running i program⟩ :=
  h.keeps hu hin (fun _ _ hp hj ho => h.others hu hp (by rw [ha]; exact hj) ho) hi

theorem Resetting.exchanges (h : d.Resetting codec) (ha : d.actor = some i)
    (hu : d.session.Undisturbed s') {x : Exchange} {point : Point}
    {next : Except Thrown Bytes → Program Fields Value} (hin : d.InExchange i x.id)
    (hi : Pending d.session.trace i → next = Program.refreshReply codec) :
    Resetting codec ⟨s', .exchange i x next point⟩ := by
  refine h.keeps hu ?_ (fun _ _ hp hj ho => h.others hu hp (by rw [ha]; exact hj) ho) hi
  rintro j n ⟨rfl, rfl⟩
  exact hin

/-- The exchange which is running stops at a stage. -/
theorem Resetting.halts {x y : Exchange} {point : Point}
    {next : Except Thrown Bytes → Program Fields Value}
    (h : Resetting codec ⟨s, .exchange i x next point⟩) (hu : s.Undisturbed s')
    (halone : ∀ j z, s'.Exchanging j z → j = i) (hy : y.id = x.id) :
    Resetting codec ⟨s'.setStage i (.exchanging y next), .idle⟩ := by
  refine h.stops (.inr rfl) hu (fun j n hin => ?_) fun hi => h.running hi
  obtain ⟨rfl, rfl⟩ := waitsIn_stop halone hin
  exact ⟨rfl, hy.symm⟩

theorem Resetting.move {lax : Lax} (h : d.Resetting codec) (hc : d.Coherent)
    (ha : d.Aware codec lax) (hlax : ¬ lax.refreshRefused) (hm : Move codec lax d d') :
    d'.Resetting codec := by
  cases hm with
  | @arrived s frame ho =>
      cases hp : s.transport.pendingReceive with
      | none =>
          rw [arrive_of_none hp]
          refine h.idles (.trans (undisturbed_observe (o := .arrived frame) (by simp))
            (undisturbed_of_eq rfl rfl rfl id rfl)) fun _ _ hin => hin
      | some i =>
          rw [arrive_of_some hp]
          refine h.idles (.trans (undisturbed_observe (o := .arrived frame) (by simp))
            (undisturbed_settled _ _)) fun _ _ hin => ?_
          exact waitsIn_of_settleReceive (s := s.observe (.arrived frame)) hin
  | transportFailed cause =>
      exact h.idles (undisturbed_settled _ _) fun _ _ hin => waitsIn_of_settleReceive hin
  | @sendSettled s i o x next index step rest outcome ho hs hx =>
      refine h.stops (.inl rfl) .refl (fun j n hin => ?_) fun hi => ?_
      · obtain ⟨y, hy, rfl⟩ := hin
        by_cases hj : j = i
        · subst hj
          obtain ⟨-, next', he⟩ := exchanging_setStage.mp hy
          cases he
          exact ⟨x, ⟨o, next, ho, hs⟩, rfl⟩
        · exact ⟨y, (exchanging_setStage_ne hj).mp hy, rfl⟩
      · have := h.stages i o hi (by rintro ⟨⟩) ho
        rw [hs] at this
        exact this
  | @closed s hclosed hb ho hg =>
      refine h.idles undisturbed_close fun j x hin => ?_
      have hfree : s.Free := Waiting.free hc hb
      obtain ⟨y, hy, -⟩ := hin
      exact absurd hy (nobody_close hfree j y)
  | @closeFinished s hd =>
      have hu : s.Undisturbed { s with deallocating := false } :=
        undisturbed_of_eq rfl rfl rfl id rfl
      refine h.idles (hu.trans (undisturbed_settled _ _)) fun _ _ hin => ?_
      exact waitsIn_of_settleReceive (s := { s with deallocating := false }) hin
  | @called s c hg =>
      refine
        { owner := h.owner
          live := h.live
          held := fun j x hin => ?_
          bound := fun j kind hj => ?_
          stages := fun j o hj hne ho => ?_
          running := fun hi => ?_ }
      · obtain ⟨y, hy, hid⟩ := hin
        exact h.held j x ⟨y, exchanging_addOperation.mp hy, hid⟩
      · have hlt : j < s.operations.length := h.bound j kind hj
        simp only [addOperation, List.length_append]
        omega
      · have hlt : j < s.operations.length := h.bound j _ hj.1
        have ho : s.operations[j]? = some o := by
          simpa [addOperation, List.getElem?_append_left hlt] using ho
        exact (h.stages j o hj (by rintro ⟨⟩) ho).same (.inl rfl) id
      · exact absurd (h.bound _ _ hi.1) (Nat.lt_irrefl _)
  | resumed ho hs =>
      refine h.keeps .refl (fun _ _ hin => hin) (fun j p hj _ hp => h.stages j p hj (by rintro ⟨⟩) hp)
        fun hi => ?_
      have := h.stages _ _ hi (by rintro ⟨⟩) ho
      rw [hs] at this
      exact this.runs
  | @threwTerminated s i o failure program ho hs =>
      refine h.stops (.inl rfl) (undisturbed_observe (by simp)) (fun j x hin => ?_) fun hi => ?_
      · exact waitsIn_of_setStage (s := s.observe _) hin (.of_stage ho (by rw [hs]; rfl)) rfl
      · have := h.stages i o hi (by rintro ⟨⟩) ho
        rw [hs] at this
        obtain ⟨hf, hclosed, rfl⟩ := this
        exact ⟨hclosed, _, Thrown.fatal_core hf, rfl⟩
  | @resolved s i value =>
      refine h.stops (.inr rfl) (undisturbed_observe (by simp)) (fun j x hin => ?_)
        fun hi => h.running hi
      exact waitsIn_of_setStage (s := s.observe _) hin hc.2 rfl
  | @rejected s i e =>
      refine h.stops (.inr rfl) (undisturbed_observe (by simp)) (fun j x hin => ?_)
        fun hi => h.running hi
      exact waitsIn_of_setStage (s := s.observe _) hin hc.2 rfl
  | readAuthenticated next | readDescriptor key next =>
      exact h.runs rfl .refl (fun _ _ hin => hin) fun hi => absurd (h.running hi) id
  | @readSessionId s i next =>
      exact h.runs rfl .refl (fun _ _ hin => hin) fun hi => Program.RunsRefresh.id (h.running hi) _
  | stored key value next =>
      apply h.runs rfl
      · exact undisturbed_of_eq rfl rfl rfl id rfl
      · exact fun _ _ hin => hin
      · exact fun hi => absurd (h.running hi) id
  | @claimed s i next hok =>
      have howner : s.compoundOperationOwner = none :=
        (assertExchangeAvailable_owner hok).elim id id
      have hfree := hc.1.free (assertExchangeAvailable_ok hok)
      obtain ⟨k, hk, hlive, -⟩ := ha.running
      refine
        { owner := fun j hj => .inl ?_
          live := fun _ hid => absurd hid (hk.live hlive)
          held := fun j x hin => ?_
          bound := h.bound
          stages := fun j o hj hne ho => (h.stages j o hj hne ho).same (.inl rfl) id
          running := fun hi => absurd (h.running hi) id }
      · refine (h.owner j hj).resolve_right ?_
        rw [howner]
        rintro ⟨⟩
      · obtain ⟨y, hy, -⟩ := hin
        exact absurd hy (hfree.nobody j y)
  | claimRefused next hok =>
      exact h.runs rfl (undisturbed_observe (by simp)) (fun _ _ hin => hin)
        fun hi => absurd (h.running hi) id
  | @released s i next hr =>
      have hclosed (hi : Pending s.trace i) : s.closed = true :=
        (hr.resolve_left hlax).resolve_left (not_not.mpr hi)
      have howner {j : Nat} (hj : (if s.compoundOperationOwner = some i then none
          else s.compoundOperationOwner) = some j) : s.compoundOperationOwner = some j := by
        split at hj
        · cases hj
        · exact hj
      refine
        { owner := fun j hj => ?_
          live := fun ho hid => h.live (fun hn => ho ?_) hid
          held := fun j x hin => ?_
          bound := h.bound
          stages := fun j o hj hne ho => (h.stages j o hj hne ho).same (.inl rfl) id
          running := fun hi => ?_ }
      · by_cases hji : j = i
        · exact .inl (hclosed (hji ▸ hj))
        · refine (h.owner j hj).imp_right fun ho => ?_
          dsimp only
          rw [ho, if_neg (by simpa using hji)]
      · dsimp only
        rw [hn]
        split
        · rfl
        · rfl
      · obtain ⟨hb, ho⟩ := h.held j x hin
        exact ⟨hb, fun k hk => ho k (howner hk)⟩
      · obtain ⟨e, he, rfl⟩ := h.running hi
        exact ⟨hclosed hi, he⟩
  | ticked next | bcdFailed message next =>
      exact h.stops (.inr rfl) .refl (fun _ _ hin => waitsIn_of_setStage hin hc.2 rfl)
        fun hi => absurd (h.running hi) id
  | valueMalformed message next hg =>
      refine h.stops (.inr rfl) undisturbed_terminateGeneration (fun j x hin => ?_)
        fun hi => absurd (h.running hi) id
      exact waitsIn_of_terminateGeneration
        (waitsIn_of_setStage hin hc.2.terminateGeneration rfl)
  | logonFailed failure next hf hg =>
      refine h.stops (.inr rfl) undisturbed_terminateGeneration (fun j x hin => ?_)
        fun hi => absurd (h.running hi) id
      exact waitsIn_of_terminateGeneration
        (waitsIn_of_setStage hin hc.2.terminateGeneration rfl)
  | responseFailed failure next hf hg =>
      refine h.stops (.inr rfl) undisturbed_terminateGeneration (fun j x hin => ?_) fun hi => ?_
      · exact waitsIn_of_terminateGeneration
          (waitsIn_of_setStage hin hc.2.terminateGeneration rfl)
      · obtain ⟨rfl, rfl⟩ := h.running hi
        exact ⟨hf, terminateGeneration_closed, rfl⟩
  | @loggedOn s i response cpicSessionId value next hg =>
      refine h.runs rfl ?_ (fun _ _ hin => hin) fun hi => absurd (h.running hi) id
      have hu : s.Undisturbed
          { s with cpicSessionId := some cpicSessionId, authenticated := true } :=
        undisturbed_of_eq rfl rfl rfl (by rintro ⟨⟩) rfl
      exact hu.trans (undisturbed_observe (by simp))
  | @declaredException s i response kind failure next hf hp ht hs hr =>
      refine h.stops (.inr rfl) (undisturbed_observe (by simp)) (fun j x hin => ?_)
        fun hi => absurd hi (hr.resolve_left hlax)
      exact waitsIn_of_setStage (s := s.observe _) hin hc.2 rfl
  | @deallocated s i response kind next hs =>
      refine h.stops (.inr rfl) (undisturbed_observe (by simp)) (fun j x hin => ?_) fun hi => ?_
      · exact waitsIn_of_setStage (s := s.observe _) hin hc.2 rfl
      · obtain ⟨rfl, rfl⟩ := h.running hi
        refine ⟨hc.1.closed_of_setup hs, _, Thrown.fatal_core ?_, rfl⟩
        rw [RfcFailure.disposition_eq]
        rintro ⟨⟩
  | @answered s i response kind decoded next hs =>
      obtain ⟨k, hk, -, howner, hreset, -⟩ := ha.running
      -- A reset becomes pending, or it is refreshed; nothing else can be answered to it.
      have hpending (j : Nat) (hj : Pending (.answered i kind :: s.trace) j) :
          j = i ∧ kind = .reset ∨ j ≠ i ∧ Pending s.trace j := by
        by_cases hji : j = i
        · subst hji
          refine .inl ⟨rfl, ?_⟩
          cases kind with
          | reset => rfl
          | sessionRefresh => exact absurd List.mem_cons_self hj.2
          | regular =>
              have hj : Pending s.trace j := by simpa [Pending] using hj
              cases (h.running hj).1
        · exact .inr ⟨hji, by simpa [Pending, hji] using hj⟩
      have hown {j : Nat} (hj : Pending (.answered i kind :: s.trace) j) :
          s.closed = true ∨ s.compoundOperationOwner = some j := by
        obtain ⟨rfl, rfl⟩ | ⟨-, hj⟩ := hpending j hj
        · exact .inr (hk.owner (howner (by rintro ⟨⟩)))
        · exact h.owner j hj
      refine
        { owner := fun j hj => hown hj
          live := h.live
          held := fun j x hin => ?_
          bound := fun j kind' hj => ?_
          stages := fun j o hj _ ho => ?_
          running := trivial }
      · have hin := waitsIn_of_setStage (s := s.observe _) hin hc.2 rfl
        obtain ⟨hb, ho⟩ := h.held j x hin
        exact ⟨List.mem_cons_of_mem _ hb, ho⟩
      · refine Nat.lt_of_lt_of_eq ?_ (List.length_modify ..).symm
        obtain hj | hj := List.mem_cons.mp hj
        · cases hj
          exact hc.2.1
        · exact h.bound j kind' hj
      · rw [stageRefreshes_setStage]
        obtain ⟨rfl, rfl⟩ | ⟨hji, hj⟩ := hpending j hj
        · simp only [setStage, List.getElem?_modify, Option.map_eq_map, if_true,
            Option.map_eq_some_iff] at ho
          obtain ⟨o', -, rfl⟩ := ho
          dsimp only
          rw [hreset rfl decoded]
          rfl
        · have ho : s.operations[j]? = some o := by
            simpa [setStage, observe, Ne.symm hji] using ho
          exact (h.stages j o hj (by simpa [actor] using Ne.symm hji) ho).same (.inl rfl) id
  | @exchangeClosed s i request allowCallbacks owned next hclosed =>
      refine h.stops (.inr rfl) .refl (fun _ _ hin => waitsIn_of_setStage hin hc.2 rfl)
        fun hi => ?_
      obtain ⟨-, rfl⟩ := h.running hi
      exact ⟨hclosed, _, Thrown.fatal_error _, rfl⟩
  | @exchangeBusy s i request allowCallbacks owned failure next hopen hok =>
      refine h.stops (.inr rfl) (undisturbed_observe (by simp)) (fun j x hin => ?_) fun hi => ?_
      · exact waitsIn_of_setStage (s := s.observe _) hin hc.2 rfl
      · obtain ⟨rfl, -⟩ := h.running hi
        have howner := (h.owner i hi).resolve_left (by rw [hopen]; rintro ⟨⟩)
        obtain hfree | ⟨j, y, hy, hh⟩ := hc.1
        · have hok' := assertExchangeAvailable_of_owner hfree.busy (Or.inr howner)
          cases hok.symm.trans hok'
        · obtain rfl := (h.held j y.id ⟨y, hy, rfl⟩).2 i howner
          exact absurd hy (hc.2.2 y)
  | @requestRefused s i request allowCallbacks owned next hopen hok hr =>
      refine h.stops (.inr rfl) (undisturbed_observe (by simp)) (fun j x hin => ?_)
        fun hi => absurd hi (hr.resolve_left hlax)
      exact waitsIn_of_setStage (s := s.observe _) hin hc.2 rfl
  | @began s i request allowCallbacks owned outgoingPlan next hopen hok =>
      refine
        { owner := fun j hj => h.owner j ((pending_cons (by simp)).mp hj)
          live := h.live
          held := ?_
          bound := fun j kind hj => ?_
          stages := fun j o hj hne ho => ?_
          running := fun hi => (h.running ((pending_cons (by simp)).mp hi)).2 }
      · rintro j n ⟨rfl, rfl⟩
        refine ⟨List.mem_cons_self, fun k hk => ?_⟩
        have hk : s.compoundOperationOwner = some k := hk
        obtain hn | hn := assertExchangeAvailable_owner hok
        · cases hk.symm.trans hn
        · have hn := hk.symm.trans hn
          split at hn
          · exact (Option.some.inj hn).symm
          · cases hn
      · exact h.bound j kind (by simpa [takeSession, observe] using hj)
      · have hj : Pending s.trace j := (pending_cons (by simp)).mp hj
        exact (h.stages j o hj hne ho).same (.inl rfl) id
  | @taken s i o x next ho hs hx =>
      refine h.keeps .refl ?_ (fun j p hj _ hp => h.stages j p hj (by rintro ⟨⟩) hp) fun hi => ?_
      · rintro j n ⟨rfl, rfl⟩
        exact ⟨x, ⟨o, next, ho, hs⟩, rfl⟩
      · have := h.stages i o hi (by rintro ⟨⟩) ho
        rw [hs] at this
        exact this
  | @caught s i x point next y cause transmission hy hpoint hg =>
      have hops := (terminateGeneration_fields (hc.1.notPending hc.2.2)).1
      apply h.halts
      · exact undisturbed_terminateGeneration.trans (undisturbed_observe (by simp))
      · exact fun j z hz => hc.1.alone j z ((Exchanging.congr hops).mp hz)
      · exact hy
  | frameQueued cause hpoint =>
      exact h.exchanges rfl (undisturbed_settled _ _) ⟨rfl, rfl⟩ h.running
  | @failed s i x next failure hx =>
      have hfit := hc.1.fits
      unfold Fits StageFits at hfit
      rw [hx] at hfit
      have hu : s.Undisturbed { s with busy := false } := undisturbed_of_eq rfl rfl rfl id rfl
      refine h.stops (.inr rfl) (hu.trans (undisturbed_observe (by simp))) (fun j n hin => ?_)
        fun hi => ?_
      · obtain ⟨z, hz, -⟩ := hin
        exact absurd hz (none_setStage hc.1.alone rfl j z)
      · cases h.running hi
        exact ⟨hfit.1, _, Thrown.fatal_core hfit.2, rfl⟩
  | planned steps y hy hpoint hs hp =>
      exact h.exchanges rfl (undisturbed_observe (by simp)) ⟨rfl, hy.symm⟩ h.running
  | sendAccepted hx hf | completedEnded hx =>
      exact h.exchanges rfl .refl ⟨rfl, rfl⟩ h.running
  | @sent s i x index step rest setup next hs =>
      have hu : s.Undisturbed { s with setup } := undisturbed_of_eq rfl rfl rfl id rfl
      apply h.halts
      · exact hu.trans (undisturbed_observe (by simp))
      · exact hc.1.alone
      · rfl
  | awaitsAcknowledgement hx hf | written | readMore hs =>
      apply h.halts
      · exact undisturbed_of_eq rfl rfl rfl id rfl
      · exact hc.1.alone
      · rfl
  | @acknowledged s i x index step rest payload next setup hx hs =>
      have hu : s.Undisturbed { s with setup } := undisturbed_of_eq rfl rfl rfl id rfl
      exact h.exchanges rfl (hu.trans (undisturbed_observe (by simp))) ⟨rfl, rfl⟩ h.running
  | @read s i x payload next hx =>
      have hu : s.Undisturbed { s with setup := (s.setup.received payload).1 } :=
        undisturbed_of_eq rfl rfl rfl id rfl
      exact h.exchanges rfl (hu.trans (undisturbed_observe (by simp))) ⟨rfl, rfl⟩ h.running
  | @writerFailed s i x point next index cause hpoint =>
      apply h.halts
      · exact undisturbed_settled _ _
      · intro k z hz
        obtain ⟨y, hy, -⟩ := waitsIn_of_settleReceive ⟨z, hz, rfl⟩
        exact hc.1.alone k y hy
      · rfl
  | @ended s i x next message hd hs hg =>
      have hops := (terminateGeneration_fields (hc.1.notPending hc.2.2)).1
      apply h.halts
      · exact undisturbed_terminateGeneration
      · exact fun j z hz => hc.1.alone j z ((Exchanging.congr hops).mp hz)
      · rfl
  | completed message hd hq hs | completeRefused =>
      apply h.exchanges rfl
      · exact undisturbed_of_eq rfl rfl rfl id rfl
      · exact ⟨rfl, rfl⟩
      · exact h.running
  | @returned s i x next message ended =>
      rw [returnMessage_eq]
      refine h.stops (.inr rfl) undisturbed_replied (fun j n hin => ?_) fun hi => ?_
      · obtain ⟨z, hz, -⟩ := hin
        refine absurd hz (none_setStage (fun k y hy => ?_) rfl j z)
        obtain ⟨w, hw, -⟩ := waitsIn_of_replied ⟨y, hy, rfl⟩
        exact hc.1.alone k w hw
      · cases h.running hi
        exact ⟨rfl, rfl⟩

end Turn

/-- While a reset is pending, only its own exchanges begin, and only their records go out. -/
def Completed : Observation → List Observation → Prop
  | .began _ i, past => ∀ j, Pending past j → i = j
  | .sent x _ isOpen, past => isOpen = true → ∀ j, Pending past j → .began x j ∈ past
  | _, _ => True

/-- A reset of the server context is all or nothing. -/
structure ResetIsAllOrNothing (s : DirectCpicSession Fields Value) : Prop where
  law : History.Each Completed s.trace
  resolved : ∀ (i : Nat) (o : Operation Fields Value) (value : Value),
    s.operations[i]? = some o → o.stage = .resolved value → ¬ Pending s.trace i
  rejected : ∀ (i : Nat) (o : Operation Fields Value) (e : Thrown), s.operations[i]? = some o →
    o.stage = .rejected e → Pending s.trace i → s.closed = true ∧ e.Fatal

open DirectCpicSession in
theorem completed_move {codec : Codec Fields Value} {lax : Lax} {d d' : Turn Fields Value}
    (h : History.Each Completed d.session.trace) (hc : d.Coherent) (hl : d.Linked)
    (hr : d.Resetting codec) (hm : Move codec lax d d') :
    History.Each Completed d'.session.trace := by
  cases hm with
  | @began s i request allowCallbacks owned outgoingPlan next hopen hok =>
      refine ⟨fun j hj => ?_, h⟩
      have howner := (hr.owner j hj).resolve_left (by rw [hopen]; exact nofun)
      obtain hn | hn := assertExchangeAvailable_owner hok
      · cases howner.symm.trans hn
      · have hn := howner.symm.trans hn
        split at hn
        · exact (Option.some.inj hn).symm
        · cases hn
  | @sent s i x index step rest setup next hs =>
      refine ⟨fun hopen j hj => ?_, h⟩
      obtain ⟨hb, ho⟩ := hr.held i x.id ⟨rfl, rfl⟩
      obtain hclosed | howner := hr.owner j hj
      · cases hc.1.busy.symm.trans (hl.closing (hl.shut hclosed hopen)).2
      · rwa [← ho j howner]
  | arrived frame ho => exact each_arrive h trivial
  | closed hclosed hb ho hg => exact each_close h trivial trivial
  | transportFailed cause | frameQueued cause hpoint => exact each_settleReceive h _
  | writerFailed index cause hpoint => exact each_settleReceive h _
  | @closeFinished s hd =>
      exact each_settleReceive (s := { s with deallocating := false }) h _
  | valueMalformed message next hg => exact each_terminateGeneration h trivial
  | logonFailed failure next hf hg | responseFailed failure next hf hg =>
      exact each_terminateGeneration h trivial
  | ended message hd hs hg => exact each_terminateGeneration h trivial
  | caught y cause transmission hy hpoint hg => exact ⟨trivial, each_terminateGeneration h trivial⟩
  | sendSettled outcome ho hs hx | called c hg | resumed ho hs => exact h
  | readAuthenticated next | readSessionId next | readDescriptor key next => exact h
  | stored key value next | claimed next hok | released next hr | ticked next => exact h
  | bcdFailed message next | exchangeClosed next hclosed | taken ho hs hx => exact h
  | sendAccepted hx hf | awaitsAcknowledgement hx hf | written | readMore hs => exact h
  | completed message hd hq hs | completeRefused | completedEnded hx => exact h
  | threwTerminated ho hs | rejected e | claimRefused next hok => exact ⟨trivial, h⟩
  | loggedOn value next hg | declaredException failure next hf hp ht hs hr => exact ⟨trivial, h⟩
  | deallocated next hs | answered decoded next hs | exchangeBusy next hclosed hok =>
      exact ⟨trivial, h⟩
  | requestRefused next hclosed hok hr | resolved value => exact ⟨trivial, h⟩
  | failed hx | planned steps y hy hpoint hs hp => exact ⟨trivial, h⟩
  | acknowledged setup hx hs | read hx | returned => exact ⟨trivial, h⟩

namespace DirectCpicSession

/-- The steps of the runs in which a pending reset can be completed: its refresh can be encoded
and planned, and the reply to the refresh is not a declared exception on a live conversation. -/
structure Refreshable (codec : Codec Fields Value) (s : DirectCpicSession Fields Value)
    (e : Event Fields Value) : Prop where
  request : ∀ (i : Nat) (callback : Except Cause Bytes) (o : Operation Fields Value)
    (cpicSessionId : Bytes), e = .resume i callback → Pending s.trace i →
    s.operations[i]? = some o → o.stage = .awaiting (Program.refreshSession codec) →
    s.closed = false → s.cpicSessionId = some cpicSessionId →
    ∃ request outgoingPlan,
      codec.encodeCpicFunctionRequest "RFC_PING" cpicSessionId = .ok request ∧
        codec.planOutgoingRequest request = .ok outgoingPlan
  response : ∀ (i : Nat) (callback : Except Cause Bytes) (o : Operation Fields Value)
    (response : Bytes) (kind : ResponseKind)
    (next : Except Thrown (DecodedFields Fields) → Program Fields Value)
    (decoded : DecodedFields Fields), e = .resume i callback → Pending s.trace i →
    s.operations[i]? = some o → o.stage = .awaiting (.decodeRegularResponse response kind next) →
    s.setup ≠ .closed → s.authenticated = true →
    codec.decodeResultFields kind response = .ok decoded → decoded.outcome ≠ .abapException

theorem Refreshable.refreshed {codec : Codec Fields Value} {s : DirectCpicSession Fields Value}
    {e : Event Fields Value} (hg : s.Refreshable codec e)
    (h : Turn.Resetting codec ⟨s, .idle⟩) : s.Refreshed codec e := by
  intro i program t hran hp
  unfold ran at hran
  split at hran
  · cases hran
    exact absurd (h.bound _ _ hp.1) (Nat.lt_irrefl _)
  · split at hran
    · rename_i callback _ call reply program' ho
      cases hran
      have hawaits : program.AwaitsRefresh codec s := h.stages i _ hp nofun ho
      cases program with
      | sessionId next =>
          have hnext : Program.sessionId next = Program.refreshSession codec := hawaits
          have hlive : s.cpicSessionId = none → s.closed = true := fun hid =>
            (h.owner i hp).elim id fun ho => h.live (by rw [ho]; exact nofun) hid
          have hbody := hnext
          unfold Program.refreshSession at hbody
          rw [Program.sessionId.inj hbody]
          unfold Refreshing
          cases hid : s.cpicSessionId with
          | none => exact ⟨hlive hid, trivial⟩
          | some id =>
              dsimp only
              cases hc : s.closed with
              | true =>
                  cases codec.encodeCpicFunctionRequest "RFC_PING" id with
                  | error message => exact ⟨hc, trivial⟩
                  | ok request => exact fun ho => by cases hc.symm.trans ho
              | false =>
                  obtain ⟨request, outgoingPlan, hencode, hplan⟩ :=
                    hg.request i callback _ id rfl hp ho (congrArg Stage.awaiting hnext) hc hid
                  rw [hencode]
                  exact fun _ _ => ⟨outgoingPlan, hplan⟩
      | decodeRegularResponse response kind next =>
          by_cases hs : s.setup = .closed
          · exact .inl hs
          · cases ha : s.authenticated with
            | false => exact .inr (.inl ha)
            | true =>
                exact .inr (.inr fun decoded hd =>
                  hg.response i callback _ response kind next decoded rfl hp ho rfl hs ha hd)
      | release next =>
          obtain ⟨hc, e, -, rfl⟩ := hawaits
          exact ⟨hc, trivial⟩
      | _ => exact absurd hawaits id
    · cases hran
  · cases hran

end DirectCpicSession

theorem resetting_initial (codec : Codec Fields Value) :
    Turn.Resetting codec (⟨.initial, .idle⟩ : Turn Fields Value) where
  owner j hj := by cases hj.1
  live ho := absurd rfl ho
  held j x hin := by
    obtain ⟨y, ⟨o, next, ho, -⟩, -⟩ := hin
    cases ho
  bound j kind hj := by cases hj
  stages j o hj := by cases hj.1
  running := trivial

/-- The runs in which a reset is refreshed. -/
def Lax.refreshed : Lax := ⟨True, False⟩

/-- In every run in which pending resets can be completed, a reset is all or nothing. -/
theorem resetIsAllOrNothing_of_refreshable {codec : Codec Fields Value}
    {s : DirectCpicSession Fields Value}
    (hs : (machine codec).ReachableUnder (DirectCpicSession.Refreshable codec) s) :
    ResetIsAllOrNothing s := by
  obtain ⟨-, -, -, hr, h⟩ := Machine.ReachableUnder.invariant (M := machine codec)
    (P := fun s => Turn.Coherent ⟨s, .idle⟩ ∧ Turn.Linked ⟨s, .idle⟩ ∧
      Turn.Aware codec .refreshed ⟨s, .idle⟩ ∧ Turn.Resetting codec ⟨s, .idle⟩ ∧
      History.Each Completed s.trace)
    ⟨coherent_initial, linked_initial, aware_initial _, resetting_initial codec, trivial⟩
    (fun s e s' _ hp hg he => by
      have hmoves := @DirectCpicSession.step_moves _ _ codec .refreshed _ _ _ he (.inl trivial)
        (.inr (hg.refreshed hp.2.2.2.1))
      refine Moves.invariant (P := fun d => d.Coherent ∧ d.Linked ∧ d.Aware codec .refreshed ∧
        d.Resetting codec ∧ History.Each Completed d.session.trace) ?_ hmoves hp
      rintro d d' ⟨hc, hl, ha, hr, h⟩ hm
      exact ⟨hc.move hm, hl.move hc hm, ha.move hc hl hm, hr.move hc ha id hm,
        completed_move h hc hl hr hm⟩) hs
  refine ⟨h, fun i o value ho hs hp => ?_, fun i o e ho hs hp => ?_⟩
  · have := hr.stages i o hp nofun ho
    rw [hs] at this
    exact this
  · have := hr.stages i o hp nofun ho
    rw [hs] at this
    exact this

namespace DirectCpicSession
variable (codec : Codec Fields Value) (s : DirectCpicSession Fields Value)

def requestPlanned : Bool :=
  s.cpicSessionId.all fun cpicSessionId =>
    match codec.encodeCpicFunctionRequest "RFC_PING" cpicSessionId with
    | .ok request => (codec.planOutgoingRequest request).isOk
    | .error _ => false

def responseAccepted (i : Nat) : Bool :=
  match s.operations[i]? with
  | some ⟨_, _, .awaiting (.decodeRegularResponse response kind _)⟩ =>
      match codec.decodeResultFields kind response with
      | .ok decoded => decoded.outcome ≠ .abapException
      | .error _ => true
  | _ => true

/-- A step which plainly meets the guard. -/
def plainlyRefreshable : Event Fields Value → Bool
  | .resume i _ => !decide (Pending s.trace i) || s.requestPlanned codec && s.responseAccepted codec i
  | _ => true

variable {codec s}

theorem refreshable_of_plainly {e : Event Fields Value}
    (h : s.plainlyRefreshable codec e = true) : s.Refreshable codec e := by
  have hplain {i : Nat} {callback : Except Cause Bytes} (he : e = .resume i callback)
      (hp : Pending s.trace i) :
      s.requestPlanned codec = true ∧ s.responseAccepted codec i = true := by
    subst he
    simpa [plainlyRefreshable, hp] using h
  refine ⟨?_, ?_⟩
  · intro i callback o cpicSessionId he hp _ _ _ hid
    have hrequest := (hplain he hp).1
    unfold requestPlanned at hrequest
    rw [hid, Option.all_some] at hrequest
    split at hrequest
    · rename_i request hencode
      cases hplan : codec.planOutgoingRequest request with
      | ok outgoingPlan => exact ⟨request, outgoingPlan, hencode, hplan⟩
      | error cause =>
          rw [hplan] at hrequest
          cases hrequest
    · cases hrequest
  · intro i callback o response kind next decoded he hp ho hs _ _ hd
    have hresponse := (hplain he hp).2
    obtain ⟨call, reply, stage⟩ := o
    dsimp only at hs
    subst hs
    simpa [responseAccepted, ho, hd] using hresponse

end DirectCpicSession

/-- A logon, and a reset which is answered by the reply with the code and then by the last one. -/
def resetThen (code : UInt8) : List (Event Unit Nat) :=
  loggedOn ++ .call .resetServerContext :: answered 1 (sampleRecord 0xcb 0 [0]) ++
    [.resume 1 noCallback, .resume 1 noCallback] ++ answered 1 (sampleRecord 0xcb 0 [code]) ++
    [.resume 1 noCallback, .resume 1 noCallback]

/-- A reset which is refreshed. -/
theorem resetIsAllOrNothing_resetThen :
    ∃ s, (machine sampleCodec).ReachableUnder (DirectCpicSession.Refreshable sampleCodec) s ∧
      ResetIsAllOrNothing s ∧ .answered 1 .sessionRefresh ∈ s.trace ∧
      .resolved 1 false (some false) .authenticated ∈ s.trace := by
  obtain ⟨s, hs, hp⟩ := (Option.any_eq_true
    (fun s : DirectCpicSession Unit Nat => decide (.answered 1 .sessionRefresh ∈ s.trace ∧
      .resolved 1 false (some false) .authenticated ∈ s.trace)) _).mp
    (show ((machine sampleCodec).runUnder
      (fun s e => s.plainlyRefreshable sampleCodec e = true) .initial
      (resetThen 0)).any _ = true by decide +kernel)
  have hr := (Machine.reachableUnder_of_runUnder hs).mono fun _ _ h =>
    DirectCpicSession.refreshable_of_plainly h
  exact ⟨s, hr, resetIsAllOrNothing_of_refreshable hr, of_decide_eq_true hp⟩

/-- The refresh is answered by a declared exception; a ping goes out on the session. -/
theorem not_resetIsAllOrNothing_resetThen :
    ∃ s, (machine sampleCodec).run .initial (resetThen 1 ++ [.call .ping]) = some s ∧
      (machine sampleCodec).Reachable s ∧ Pending s.trace 1 ∧ s.closed = false ∧
      .sent 3 (sampleRecord 0xcb 0 [1]) true ∈ s.trace ∧ ¬ ResetIsAllOrNothing s := by
  obtain ⟨s, hs, hr, hp⟩ := Machine.reachable_of_any (machine sampleCodec)
    (resetThen 1 ++ [.call .ping])
    (fun s => decide (Pending s.trace 1 ∧ s.closed = false ∧
      .sent 3 (sampleRecord 0xcb 0 [1]) true ∈ s.trace) &&
      s.operations[1]?.any fun o => match o.stage with
        | .rejected _ => true
        | _ => false) (by decide +kernel)
  rw [Bool.and_eq_true, Option.any_eq_true] at hp
  obtain ⟨hp, o, ho, hstage⟩ := hp
  obtain ⟨hpending, hopen, hsent⟩ := of_decide_eq_true hp
  refine ⟨s, hs, hr, hpending, hopen, hsent, fun h => ?_⟩
  cases hs : o.stage with
  | rejected e => cases hopen.symm.trans (h.rejected 1 o e ho hs hpending).1
  | _ =>
      rw [hs] at hstage
      cases hstage

end OpenRfc.DirectCpic
