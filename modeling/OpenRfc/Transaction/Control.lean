import OpenRfc.Foundation.Fallible
import OpenRfc.Foundation.History
import OpenRfc.Transaction.Step

/-!
Control safety. Three paths end a transaction, a control operation, a close during a
call and a call which fails ambiguously; all of them claim the terminal promise first,
and only its executor goes on. So a transaction makes one control call at most, and none
once its outcome is uncertain.
-/

namespace OpenRfc.Transaction
open Lifecycle Fallible

def AdapterCall.isControl : AdapterCall → Bool
  | .invoke _ .commit | .invoke _ .rollback => true
  | _ => false

def AdapterCall.isBusiness : AdapterCall → Bool
  | .invoke _ .business => true
  | _ => false

def AdapterCall.isReset : AdapterCall → Bool
  | .reset _ => true
  | _ => false

def TransactionOutcome.isFinal : TransactionOutcome → Bool
  | .none | .active => false
  | _ => true

/-- Nothing of the transaction is left but to end it. -/
def TransactionRuntimeState.ending : TransactionRuntimeState → Bool
  | .idle | .opening | .active | .calling => false
  | _ => true

/-- No control call has been made. -/
def Uncontrolled (trace : List Observation) : Prop :=
  ∀ work call, .called work call ∈ trace → call.isControl = false

/-- A call has been made, and fulfilled with a value. -/
def Answered (call : AdapterCall) (v : JsValue) (trace : List Observation) : Prop :=
  ∃ work, .called work call ∈ trace ∧ .settled work (.ok v) ∈ trace

/-- A control call has returned a clean RETURN. -/
def Controlled (operation : ControlOperation) (trace : List Observation) : Prop :=
  ∃ lease v, Answered (.invoke lease operation.kind) v trace ∧ ReturnClean v

/-- What may be observed when. -/
def Lawful (o : Observation) (past : List Observation) : Prop :=
  match o with
  | .called _ call =>
      (call.isBusiness = true → ∀ request, .accepted request ∉ past) ∧
      (call.isControl = true → Uncontrolled past ∧ .endedAmbiguous ∉ past) ∧
      (call.isReset = true → ∃ operation, Controlled operation past)
  | .released _ disposition => disposition.reusable = true →
      (∃ operation, Controlled operation past) ∧ ∃ lease v, Answered (.reset lease) v past
  | _ => True

/-- An observation which is neither a control call nor an end of the transaction. -/
def Observation.isHarmless : Observation → Bool
  | .called _ call => !call.isControl
  | .settled .. | .released .. => true
  | _ => false

section Traces
variable {o : Observation} {past : List Observation}

theorem Answered.cons {call : AdapterCall} {v : JsValue} (h : Answered call v past)
    (o : Observation) : Answered call v (o :: past) := by
  obtain ⟨work, hc, hs⟩ := h
  exact ⟨work, List.mem_cons_of_mem _ hc, List.mem_cons_of_mem _ hs⟩

theorem Controlled.cons {operation : ControlOperation} (h : Controlled operation past)
    (o : Observation) : Controlled operation (o :: past) := by
  obtain ⟨lease, v, ha, hv⟩ := h
  exact ⟨lease, v, ha.cons o, hv⟩

theorem Uncontrolled.cons (h : Uncontrolled past)
    (ho : ∀ work call, o = .called work call → call.isControl = false) :
    Uncontrolled (o :: past) := by
  intro work call hm
  rcases List.mem_cons.mp hm with rfl | hm
  · exact ho work call rfl
  · exact h work call hm

end Traces

/-- The wait for an adapter call knows what has become of it. -/
structure Told (call : AdapterCall) (trace : List Observation) (b : Bounded JsValue Failure) :
    Prop where
  made : b.Made → .called b.work call ∈ trace
  fulfilled : ∀ v, b.Fulfilled v → b.phase.setup = false ∧ .called b.work call ∈ trace ∧
    .settled b.work (.ok v) ∈ trace

section Told
variable {call : AdapterCall} {trace : List Observation} {b b' : Bounded JsValue Failure}

theorem Told.passive (h : Told call trace b) (k : b.Passive b') : Told call trace b' := by
  refine ⟨fun hm => k.work ▸ h.made (k.made hm), fun v hv => ?_⟩
  obtain ⟨hp, hc, hs⟩ := h.fulfilled v (k.fulfilled v hv)
  refine ⟨?_, k.work ▸ hc, k.work ▸ hs⟩
  cases hb : b'.phase.setup with
  | false => rfl
  | true =>
      rw [k.setup hb] at hp
      cases hp

theorem Told.cons (h : Told call trace b) (o : Observation) : Told call (o :: trace) b :=
  ⟨fun hm => List.mem_cons_of_mem _ (h.made hm), fun v hv => (h.fulfilled v hv).imp id
    (And.imp (List.mem_cons_of_mem _) (List.mem_cons_of_mem _))⟩

theorem Told.start (call : AdapterCall) (trace : List Observation) (closable : Bool) :
    Told call trace (.start closable) := by
  refine ⟨fun hm => ?_, fun v hv => ?_⟩
  · rcases hm with hm | hm <;> cases hm
  · rcases hv with hv | hv <;> cases hv

/-- A wait whose adapter call is on the stack. -/
theorem not_unmade_calling (work : Nat) :
    ¬ { b with phase := .calling, work := work }.Unmade := by
  rintro ⟨hs, -⟩
  cases hs

theorem Told.invoked (h : Told call trace b) (hp : b.phase = .scheduling) (work : Nat) :
    Told call (.called work call :: trace) { b with phase := .calling, work := work } := by
  refine ⟨fun _ => List.mem_cons_self, fun v hv => ?_⟩
  have hs := (h.fulfilled v hv).1
  rw [hp] at hs
  cases hs

theorem Told.answered (h : Told call trace b) {v : JsValue} (hv : b.Fulfilled v) :
    Answered call v trace :=
  ⟨b.work, (h.fulfilled v hv).2⟩

end Told

/-- A lease is handed back for reuse only after a control call and a reset have succeeded. -/
def Plan.Earned (plan : Plan) (trace : List Observation) : Prop :=
  plan.reusable = true →
    (∃ operation, Controlled operation trace) ∧ ∃ lease v, Answered (.reset lease) v trace

/-- The executor has given up on the release of the lease, or it has ended. -/
def Terminal.left : Terminal → Bool
  | .unconverged .. | .settled _ => true
  | _ => false

namespace TransactionRuntime

/-- The business call has been invoked, or its failure is being classified. -/
def CallLive (s : TransactionRuntime) : Prop :=
  (∃ lease functionName, s.businessCall = .invoking lease functionName) ∨
    ∃ error, s.businessCall = .classifying error

/-- What holds as long as the terminal promise has not been claimed. -/
structure Open (s : TransactionRuntime) : Prop where
  live : s.CallLive → s.state = .calling
  outcome : s.outcome.isFinal = false
  accepted : ∀ request, .accepted request ∉ s.trace
  ambiguous : .endedAmbiguous ∉ s.trace
  uncontrolled : Uncontrolled s.trace

/-- What holds while its executor is suspended somewhere. -/
def Stage (s : TransactionRuntime) : Prop :=
  match s.terminal with
  | .awaitingCall => s.outcome.isFinal = false ∧ Uncontrolled s.trace ∧
      (.endedAmbiguous ∈ s.trace →
        s.activeCallDisposition = some .ambiguous ∧ ¬ s.CallLive)
  | .control lease operation _ => s.outcome.isFinal = false ∧ .endedAmbiguous ∉ s.trace ∧
      ((s.wait .terminal).phase.setup = true → Uncontrolled s.trace) ∧
      Told (.invoke lease operation.kind) s.trace (s.wait .terminal)
  | .resetting lease operation _ => Controlled operation s.trace ∧
      Told (.reset lease) s.trace (s.wait .terminal)
  | .operationConvergence plan _ | .prepared plan | .unconverged plan _ => plan.Earned s.trace
  | _ => True

theorem stage_control {s : TransactionRuntime} {lease : Nat} {operation : ControlOperation}
    {reason : TransactionReleaseReason} (ht : s.terminal = .control lease operation reason) :
    s.Stage ↔ s.outcome.isFinal = false ∧ .endedAmbiguous ∉ s.trace ∧
      ((s.wait .terminal).phase.setup = true → Uncontrolled s.trace) ∧
      Told (.invoke lease operation.kind) s.trace (s.wait .terminal) := by
  unfold Stage
  rw [ht]

theorem stage_resetting {s : TransactionRuntime} {lease : Nat} {operation : ControlOperation}
    {reason : TransactionReleaseReason} (ht : s.terminal = .resetting lease operation reason) :
    s.Stage ↔ Controlled operation s.trace ∧ Told (.reset lease) s.trace (s.wait .terminal) := by
  unfold Stage
  rw [ht]

structure Book (s : TransactionRuntime) : Prop where
  lawful : History.Each Lawful s.trace
  unclaimed : s.terminal = .unclaimed → s.Open
  claimed : s.terminal ≠ .unclaimed → s.state.ending = true
  live : s.terminal ≠ .unclaimed → s.CallLive →
    s.state = .closing ∧ s.terminal = .awaitingCall
  stage : s.Stage
  outcome : ∀ operation : ControlOperation, s.outcome = operation.outcome →
    Controlled operation s.trace
  closable : ∀ lease functionName, s.businessCall = .invoking lease functionName →
    (s.wait .call).closable = true ∧ (s.terminal ≠ .unclaimed → ¬ (s.wait .call).Unmade)
  late : ∀ quarantine disposition, s.lateRelease = .awaiting quarantine disposition →
    disposition.reusable = false
  left : s.lateRelease ≠ .unclaimed → s.terminal.left = true

/-- A step keeps the books, and a final outcome. -/
structure Advances (s s' : TransactionRuntime) : Prop where
  book : s'.Book
  outcome : s'.outcome = s.outcome ∨ s.outcome.isFinal = false

variable {cfg : Settings} {s s' : TransactionRuntime}

/-- A step which leaves the transaction as it is. -/
structure Untouched (s s' : TransactionRuntime) : Prop where
  state : s'.state = s.state
  outcome : s'.outcome = s.outcome
  businessCall : s'.businessCall = s.businessCall
  disposition : s'.activeCallDisposition = s.activeCallDisposition
  terminal : s'.terminal = s.terminal
  lateRelease : s'.lateRelease = s.lateRelease
  trace : s'.trace = s.trace ∨ ∃ o,
    (o.isHarmless = true ∨ s.terminal ≠ .unclaimed ∧ ∃ request, o = .accepted request) ∧
      Lawful o s.trace ∧ s'.trace = o :: s.trace

/-- It does not concern the waits of a call and of the executor either, but that their adapter
calls are answered. -/
structure Frame (s s' : TransactionRuntime) : Prop extends Untouched s s' where
  call : (s'.wait .call).closable = (s.wait .call).closable ∧
    ((s'.wait .call).Unmade → (s.wait .call).Unmade)
  executor : ∀ job call, s.job .terminal = some job → job.adapterCall = some call →
    ((s'.wait .terminal).phase.setup = true → (s.wait .terminal).phase.setup = true) ∧
      (Told call s.trace (s.wait .terminal) → Told call s'.trace (s'.wait .terminal))

theorem Frame.mem (k : Frame s s') {o : Observation} (h : o ∈ s.trace) : o ∈ s'.trace := by
  rcases k.trace with e | ⟨o', -, -, e⟩
  · rwa [e]
  · rw [e]
    exact List.mem_cons_of_mem _ h

theorem Frame.of_mem (k : Frame s s') {o : Observation} (h : o ∈ s'.trace)
    (ho : o.isHarmless = false) (ha : ∀ request, o = .accepted request → s.terminal = .unclaimed) :
    o ∈ s.trace := by
  rcases k.trace with e | ⟨o', ho', -, e⟩
  · rwa [e] at h
  · rw [e] at h
    rcases List.mem_cons.mp h with rfl | h
    · rcases ho' with ho' | ⟨ht, request, hr⟩
      · rw [ho] at ho'
        cases ho'
      · exact absurd (ha request hr) ht
    · exact h

theorem Frame.not_ambiguous (k : Frame s s') (h : .endedAmbiguous ∉ s.trace) :
    .endedAmbiguous ∉ s'.trace :=
  fun hm => h (k.of_mem hm rfl (by simp))

theorem Frame.answered (k : Frame s s') {call : AdapterCall} {v : JsValue}
    (h : Answered call v s.trace) : Answered call v s'.trace := by
  obtain ⟨work, hc, hs⟩ := h
  exact ⟨work, k.mem hc, k.mem hs⟩

theorem Frame.controlled (k : Frame s s') {operation : ControlOperation}
    (h : Controlled operation s.trace) : Controlled operation s'.trace := by
  obtain ⟨lease, v, ha, hv⟩ := h
  exact ⟨lease, v, k.answered ha, hv⟩

theorem Frame.uncontrolled (k : Frame s s') (h : Uncontrolled s.trace) : Uncontrolled s'.trace := by
  intro work call hm
  cases hc : call.isControl with
  | false => rfl
  | true => exact hc ▸ h work call (k.of_mem hm (by simp [Observation.isHarmless, hc]) (by simp))

theorem Frame.live (k : Frame s s') : s'.CallLive ↔ s.CallLive := by
  unfold CallLive
  rw [k.businessCall]

theorem Frame.earned (k : Frame s s') {plan : Plan} (h : plan.Earned s.trace) :
    plan.Earned s'.trace := by
  intro hr
  obtain ⟨⟨operation, hc⟩, lease, v, ha⟩ := h hr
  exact ⟨⟨operation, k.controlled hc⟩, lease, v, k.answered ha⟩

theorem Frame.stage (k : Frame s s') (h : s.Stage) : s'.Stage := by
  have told := k.executor
  unfold Stage at h ⊢
  unfold TransactionRuntime.job at told
  rw [k.terminal]
  cases ht : s.terminal with
  | awaitingCall =>
      rw [ht] at h
      obtain ⟨ho, hu, ha⟩ := h
      refine ⟨k.outcome ▸ ho, k.uncontrolled hu, fun hm => ?_⟩
      rw [k.disposition, k.live]
      exact ha (k.of_mem hm rfl (by simp))
  | control lease operation reason =>
      rw [ht] at h told
      obtain ⟨ho, ha, hu, hw⟩ := h
      exact ⟨k.outcome ▸ ho, k.not_ambiguous ha,
        fun hs => k.uncontrolled (hu ((told _ _ rfl rfl).1 hs)), (told _ _ rfl rfl).2 hw⟩
  | resetting lease operation reason =>
      rw [ht] at h told
      exact ⟨k.controlled h.1, (told _ _ rfl rfl).2 h.2⟩
  | operationConvergence plan quarantine | prepared plan | unconverged plan failure =>
      rw [ht] at h
      exact k.earned h
  | _ => trivial

theorem Frame.book (k : Frame s s') (h : s.Book) : s'.Book where
  lawful := by
    rcases k.trace with e | ⟨o, -, ho, e⟩
    · rw [e]
      exact h.lawful
    · rw [e]
      exact ⟨ho, h.lawful⟩
  unclaimed ht := by
    obtain ⟨hl, ho, ha, hm, hu⟩ := h.unclaimed (k.terminal ▸ ht)
    exact ⟨fun hlive => k.state.trans (hl (k.live.mp hlive)), k.outcome ▸ ho,
      fun request hr => ha request (k.of_mem hr rfl fun _ _ => k.terminal ▸ ht),
      k.not_ambiguous hm, k.uncontrolled hu⟩
  claimed ht := by
    rw [k.state]
    exact h.claimed (k.terminal ▸ ht)
  live ht hl := by
    rw [k.state, k.terminal]
    exact h.live (k.terminal ▸ ht) (k.live.mp hl)
  stage := k.stage h.stage
  outcome operation ho := k.controlled (h.outcome operation (k.outcome ▸ ho))
  closable lease functionName hb := by
    obtain ⟨hc, hu⟩ := h.closable lease functionName (k.businessCall ▸ hb)
    exact ⟨k.call.1.trans hc, fun ht hm => hu (k.terminal ▸ ht) (k.call.2 hm)⟩
  late quarantine disposition hl := h.late quarantine disposition (k.lateRelease ▸ hl)
  left hl := by
    rw [k.terminal]
    exact h.left (k.lateRelease ▸ hl)

theorem Frame.advances (k : Frame s s') (h : s.Book) : Advances s s' := ⟨k.book h, .inl k.outcome⟩

theorem Frame.followed {s'' : TransactionRuntime} (k : Frame s s') (h : s.Book)
    (next : s'.Book → Advances s' s'') : Advances s s'' := by
  obtain ⟨hb, ho⟩ := next (k.book h)
  rw [k.outcome] at ho
  exact ⟨hb, ho⟩

/-! The bounded waits. -/

theorem Untouched.refl (s : TransactionRuntime) : Untouched s s :=
  ⟨rfl, rfl, rfl, rfl, rfl, rfl, .inl rfl⟩

theorem Untouched.told (k : Untouched s s') {call : AdapterCall} {b : Bounded JsValue Failure}
    (h : Told call s.trace b) : Told call s'.trace b := by
  rcases k.trace with e | ⟨o, -, -, e⟩
  · rwa [e]
  · rw [e]
    exact h.cons o

theorem Untouched.kept (k : Untouched s s') (hw : s'.wait = s.wait) : Frame s s' := by
  refine { k with call := ?_, executor := fun job call _ _ => ?_ } <;> rw [hw]
  · exact ⟨rfl, id⟩
  · exact ⟨id, k.told⟩

theorem Frame.refl (s : TransactionRuntime) : Frame s s := (Untouched.refl s).kept rfl

/-- One wait moves on. -/
theorem Untouched.frame (k : Untouched s s') (who : Thread) (b' : Bounded JsValue Failure)
    (hw : s'.wait = Function.update s.wait who b')
    (hc : who = .call → b'.closable = (s.wait who).closable ∧
      (b'.Unmade → (s.wait who).Unmade))
    (hx : who = .terminal → ∀ job call, s.job who = some job → job.adapterCall = some call →
      (b'.phase.setup = true → (s.wait who).phase.setup = true) ∧
        (Told call s.trace (s.wait who) → Told call s'.trace b')) : Frame s s' := by
  refine { k with call := ?_, executor := fun job call hj hjob => ?_ } <;> rw [hw]
  · by_cases e : who = .call
    · subst e
      rw [Function.update_self]
      exact hc rfl
    · rw [Function.update_of_ne (Ne.symm e)]
      exact ⟨rfl, id⟩
  · by_cases e : who = .terminal
    · subst e
      rw [Function.update_self]
      exact hx rfl job call hj hjob
    · rw [Function.update_of_ne (Ne.symm e)]
      exact ⟨id, k.told⟩

theorem job_call {job : Job} (h : s.job .call = some job) : ∃ lease functionName,
    s.businessCall = .invoking lease functionName ∧ job = .business lease functionName := by
  simp only [TransactionRuntime.job] at h
  split at h
  · rename_i hb
    exact ⟨_, _, hb, (Option.some.inj h).symm⟩
  · cases h

/-- A wait moves on, in a state which is otherwise the same. The wait for the end of other
operations is no matter of the books. -/
theorem Frame.await (k : Frame s s') (hw : s'.wait = s.wait) {who : Thread} {job : Job}
    (hj : s.job who = some job) {b' : Bounded JsValue Failure}
    (hb : job.adapterCall = none ∨ (s.wait who).Passive b') : Frame s (s'.await who b') := by
  refine Untouched.frame { k with } who b' (by rw [← hw]; rfl)
    (fun e => ?_) fun e job' call hj' hc => ?_
  · subst e
    obtain ⟨lease, functionName, -, rfl⟩ := job_call hj
    have hb := hb.resolve_left (by simp [Job.adapterCall])
    exact ⟨hb.closable, hb.unmade⟩
  · obtain rfl := Option.some.inj (hj.symm.trans hj')
    have hb := hb.resolve_left (by rw [hc]; simp)
    exact ⟨hb.setup, fun h => k.told (h.passive hb)⟩

theorem Frame.observe (k : Frame s s') (he : s'.trace = s.trace) {o : Observation}
    (ho : o.isHarmless = true) (hl : Lawful o s.trace) : Frame s (s'.observe o) :=
  { k with
    trace := .inr ⟨o, .inl ho, hl, congrArg (o :: ·) he⟩
    executor := fun job call hj hc =>
      ⟨(k.executor job call hj hc).1, fun ht => ((k.executor job call hj hc).2 ht).cons o⟩ }

theorem Frame.readClock (s : TransactionRuntime) (r : Reading Failure) :
    Frame s (s.readClock r).2 ∧ (s.readClock r).2.wait = s.wait ∧
      (s.readClock r).2.trace = s.trace := by
  unfold TransactionRuntime.readClock
  split
  · exact ⟨{ Frame.refl s with }, rfl, rfl⟩
  · exact ⟨Frame.refl s, rfl, rfl⟩

theorem Frame.detach (k : Frame s s') (call : AdapterCall) (b : Bounded JsValue Failure)
    (tracked : Bool) : Frame s (s'.detach call b tracked) := { k with }

theorem Frame.ticked (k : Frame s s') (hw : s'.wait = s.wait) {who : Thread} {job : Job}
    (hj : s.job who = some job) {b' : Bounded JsValue Failure}
    (hb : (s.wait who).Passive b') : Frame s (s'.ticked who job (s.wait who) b') := by
  have moved := k.await hw hj (.inr hb)
  unfold TransactionRuntime.ticked
  dsimp only
  split
  · rename_i call _ _ _
    have detached := moved.detach call (s.wait who) true
    cases call <;> exact { detached with }
  · exact moved

/-- The promise of an adapter call settles. -/
theorem Frame.settle {who : Thread} (hp : (s.wait who).phase = .waiting)
    (outcome : Except Failure JsValue) :
    Frame s ((s.await who { s.wait who with raw := some outcome }).observe
      (.settled (s.wait who).work outcome)) := by
  refine Untouched.frame { Untouched.refl s with
    trace := .inr ⟨.settled (s.wait who).work outcome, .inl rfl, trivial, rfl⟩ } who _ rfl
    (fun _ => ⟨rfl, id⟩) fun _ job call _ _ => ⟨id, fun h => ?_⟩
  have called := List.mem_cons_of_mem (.settled (s.wait who).work outcome) (h.made (.inr hp))
  refine ⟨fun _ => called, fun v hv => ?_⟩
  rcases hv with hv | hv
  · obtain rfl := Option.some.inj hv
    refine ⟨?_, called, List.mem_cons_self⟩
    rw [hp]
    rfl
  · exact (h.cons _).fulfilled v (.inr hv)

/-- An adapter call which is no control call is made. -/
theorem Frame.invoke {who : Thread} {job : Job} {call : AdapterCall}
    (hj : s.job who = some job) (hc : job.adapterCall = some call)
    (hn : call.isControl = false) (hl : Lawful (.called s.nextWork call) s.trace)
    (hp : (s.wait who).phase = .scheduling) :
    Frame s (s.invoke who call { s.wait who with phase := .calling }) := by
  refine Untouched.frame { Untouched.refl s with
    trace := .inr ⟨_, .inl (by simp [Observation.isHarmless, hn]), hl, rfl⟩ } who _ rfl
    (fun _ => ⟨rfl, fun hu => absurd hu (not_unmade_calling _)⟩) fun _ job' call' hj' hc' => ?_
  obtain rfl := Option.some.inj (hj.symm.trans hj')
  obtain rfl := Option.some.inj (hc.symm.trans hc')
  refine ⟨fun hs => ?_, fun h => h.invoked hp _⟩
  cases hs

/-- A control call is made. -/
theorem Book.control (h : s.Book) {lease : Nat} {operation : ControlOperation}
    {reason : TransactionReleaseReason} (ht : s.terminal = .control lease operation reason)
    (hp : (s.wait .terminal).phase = .scheduling) :
    Advances s (s.invoke .terminal (.invoke lease operation.kind)
      { s.wait .terminal with phase := .calling }) := by
  obtain ⟨hfinal, hamb, hun, hw⟩ := (stage_control ht).mp h.stage
  have hbusiness : (AdapterCall.invoke lease operation.kind).isBusiness = false := by
    cases operation <;> rfl
  refine ⟨{ h with
    lawful := ⟨⟨?_, fun _ => ⟨hun (by rw [hp]; rfl), hamb⟩, ?_⟩, h.lawful⟩
    unclaimed := ?_
    stage := ?_
    outcome := fun o ho => (h.outcome o ho).cons _ }, .inl rfl⟩
  · intro hb
    rw [hbusiness] at hb
    cases hb
  · intro hr
    cases hr
  · intro hu
    rw [show s.terminal = .unclaimed from hu] at ht
    cases ht
  · have hterminal : (s.invoke .terminal (.invoke lease operation.kind)
        { s.wait .terminal with phase := .calling }).terminal =
          .control lease operation reason := ht
    refine (stage_control hterminal).mpr ⟨hfinal, ?_, fun hs => ?_, ?_⟩
    · intro hm
      rcases List.mem_cons.mp hm with hm | hm
      · cases hm
      · exact hamb hm
    · cases hs
    · exact hw.invoked hp _

/-- A wait reaches its adapter call. -/
theorem Book.invoke (h : s.Book) {who : Thread} {job : Job} {call : AdapterCall}
    (hj : s.job who = some job) (hc : job.adapterCall = some call)
    (hp : (s.wait who).phase = .scheduling) (hr : (s.wait who).result = none)
    (ha : (s.wait who).aborted = none) :
    Advances s (s.invoke who call { s.wait who with phase := .calling }) := by
  cases who with
  | begin =>
      have acquires : call = .acquire := by
        simp only [TransactionRuntime.job] at hj
        split at hj <;> cases hj <;> cases hc
        rfl
      subst acquires
      exact (Frame.invoke hj hc rfl (by simp [Lawful, AdapterCall.isBusiness,
        AdapterCall.isControl, AdapterCall.isReset]) hp).advances h
  | call =>
      obtain ⟨lease, functionName, hb, rfl⟩ := job_call hj
      cases hc
      have hl : Lawful (.called s.nextWork (.invoke lease .business)) s.trace := by
        refine ⟨fun _ request => ?_, by simp [AdapterCall.isControl],
          by simp [AdapterCall.isReset]⟩
        refine (h.unclaimed (by_contra fun ht => ?_)).accepted request
        exact (h.closable lease functionName hb).2 ht ⟨by rw [hp]; rfl, hr, ha⟩
      exact (Frame.invoke hj rfl rfl hl hp).advances h
  | terminal =>
      cases ht : s.terminal with
      | control lease operation reason =>
          simp only [TransactionRuntime.job, ht, Option.some.injEq] at hj
          subst hj
          cases hc
          exact h.control ht hp
      | resetting lease operation reason =>
          obtain ⟨hcontrolled, -⟩ := (stage_resetting ht).mp h.stage
          obtain rfl : .reset lease operation = job := by
            simpa only [TransactionRuntime.job, ht, Option.some.injEq] using hj
          cases hc
          exact (Frame.invoke hj rfl rfl ⟨by simp [AdapterCall.isBusiness],
            by simp [AdapterCall.isControl], fun _ => ⟨_, hcontrolled⟩⟩ hp).advances h
      | acquireConvergence | operationConvergence | releasing =>
          simp only [TransactionRuntime.job, ht, Option.some.injEq] at hj
          subst hj
          cases hc
      | _ => simp [TransactionRuntime.job, ht] at hj
  | lateRelease =>
      simp only [TransactionRuntime.job] at hj
      split at hj <;> cases hj
      cases hc
  | lateAcquire work =>
      simp only [TransactionRuntime.job] at hj
      split at hj <;> cases hj
      cases hc

theorem Book.armed (h : s.Book) {who : Thread} {job : Job} {thrown : Option Failure}
    (hj : s.job who = some job) (hp : (s.wait who).phase = .scheduling) :
    Advances s (s.armed who job (s.wait who) thrown) := by
  unfold TransactionRuntime.armed
  split
  · rename_i hn
    exact ((Frame.refl s).await rfl hj (.inl hn)).advances h
  · rename_i call hc
    obtain ⟨ho, hq⟩ | ⟨hr, ha, heq⟩ := Bounded.scheduled_cases (b := s.wait who)
    · rw [if_neg (by rw [ho]; simp)]
      exact ((Frame.refl s).await rfl hj (.inr hq)).advances h
    · dsimp only
      rw [heq, if_pos rfl]
      exact h.invoke hj hc hp hr ha

theorem Frame.returned {who : Thread} {job : Job} {call : AdapterCall} {thrown : Option Failure}
    (hj : s.job who = some job) (hp : (s.wait who).phase = .calling) :
    Frame s (s.returned who call (s.wait who) thrown) := by
  have moved := (Frame.refl s).await rfl hj (.inr (.returned thrown hp))
  unfold TransactionRuntime.returned
  dsimp only
  split
  · exact moved.observe rfl rfl trivial
  · exact moved
  · exact moved.detach call _ false

/-- What happens to a bounded wait. -/
theorem signal_advances (h : s.Book) {who : Thread} {job : Job} {sig : Signal}
    (hj : s.job who = some job) (he : s.signal cfg who job (s.wait who) sig = some s') :
    Advances s s' := by
  have refl := Frame.refl s
  cases sig with
  | handed thrown =>
      simp only [signal, Option.ite_none_right_eq_some, Option.some.injEq] at he
      obtain ⟨hp, rfl⟩ := he
      exact (refl.await rfl hj (.inr (.handed hp))).advances h
  | clock r =>
      obtain ⟨hclock, hw, -⟩ := Frame.readClock s r
      simp only [signal] at he
      split at he
      · rename_i hp
        obtain rfl := Option.some.inj he
        exact (hclock.await hw hj (.inr (.readDeadline hp))).advances h
      · rename_i hp
        obtain rfl := Option.some.inj he
        exact (hclock.await hw hj (.inr (.arm hp))).advances h
      · cases he
  | scheduled thrown =>
      simp only [signal, Option.ite_none_right_eq_some, Option.some.injEq] at he
      obtain ⟨hp, rfl⟩ := he
      exact h.armed hj hp
  | returned thrown =>
      simp only [signal] at he
      split at he
      · rename_i hp
        obtain rfl := Option.some.inj he
        exact (Frame.returned hj hp).advances h
      · cases he
  | timer generation r =>
      obtain ⟨hclock, hw, -⟩ := Frame.readClock s r
      simp only [signal, Option.ite_none_right_eq_some, Option.some.injEq] at he
      obtain ⟨-, rfl⟩ := he
      exact (hclock.ticked hw hj .fire).advances h
  | rearm r thrown =>
      obtain ⟨hclock, hw, -⟩ := Frame.readClock s r
      simp only [signal, Option.ite_none_right_eq_some, Option.some.injEq] at he
      obtain ⟨-, rfl⟩ := he
      exact (hclock.ticked hw hj .rearm).advances h
  | settle outcome =>
      simp only [signal] at he
      split at he
      · cases he
      · cases he
      · obtain rfl := Option.some.inj he
        exact (refl.await rfl hj (.inl rfl)).advances h
      · rename_i hp _ _ _ _
        obtain rfl := Option.some.inj he
        exact (Frame.settle hp outcome).advances h
      · cases he
  | converge rejected =>
      simp only [signal] at he
      split at he
      · obtain ⟨outcome, -, rfl⟩ := Option.map_eq_some_iff.mp he
        exact (refl.await rfl hj (.inl rfl)).advances h
      · obtain ⟨outcome, -, rfl⟩ := Option.map_eq_some_iff.mp he
        exact (refl.await rfl hj (.inl rfl)).advances h
      · cases he
  | react =>
      simp only [signal] at he
      split at he
      · rename_i outcome hp hraw hr
        obtain rfl := Option.some.inj he
        exact (refl.await rfl hj (.inr (.react hp hraw))).advances h
      · cases he

/-! The steps of the transaction. -/

/-- What holds of a transaction which is ending, and whose call is not live. -/
structure Ended (s : TransactionRuntime) : Prop where
  lawful : History.Each Lawful s.trace
  ending : s.state.ending = true
  quiet : ¬ s.CallLive
  outcome : ∀ operation : ControlOperation, s.outcome = operation.outcome →
    Controlled operation s.trace
  late : ∀ quarantine disposition, s.lateRelease = .awaiting quarantine disposition →
    disposition.reusable = false

theorem Ended.book (h : s.Ended) (ht : s.terminal ≠ .unclaimed) (hst : s.Stage)
    (hl : s.lateRelease ≠ .unclaimed → s.terminal.left = true) : s.Book where
  lawful := h.lawful
  unclaimed hu := absurd hu ht
  claimed _ := h.ending
  live _ hl := absurd hl h.quiet
  stage := hst
  outcome := h.outcome
  closable lease functionName hb := absurd (.inl ⟨lease, functionName, hb⟩) h.quiet
  late := h.late
  left := hl

theorem Book.ended (h : s.Book) (ht : s.terminal ≠ .unclaimed)
    (hn : s.terminal = .awaitingCall → ¬ s.CallLive) : s.Ended where
  lawful := h.lawful
  ending := h.claimed ht
  quiet hl := hn (h.live ht hl).2 hl
  outcome := h.outcome
  late := h.late

/-- Where a business call is live, it has been made or is being closed. -/
theorem Book.of_live (h : s.Book) (hl : s.CallLive) :
    s.terminal = .unclaimed ∧ s.state = .calling ∨
      s.terminal = .awaitingCall ∧ s.state = .closing := by
  by_cases ht : s.terminal = .unclaimed
  · exact .inl ⟨ht, (h.unclaimed ht).live hl⟩
  · exact .inr (h.live ht hl).symm

theorem Book.open_of (h : s.Book) {state : TransactionRuntimeState} (hs : s.state = state)
    (hn : state.ending = false) : s.terminal = .unclaimed ∧ s.Open := by
  have ht : s.terminal = .unclaimed := by
    by_contra ht
    rw [← hs, h.claimed ht] at hn
    cases hn
  exact ⟨ht, h.unclaimed ht⟩

/-- A transaction which is not ending, and where no call is active. -/
theorem Book.atRest (h : s.Book) {state : TransactionRuntimeState} (hs : s.state = state)
    (hn : state.ending = false) (hc : state ≠ .calling) :
    s.terminal = .unclaimed ∧ s.Open ∧ ¬ s.CallLive := by
  obtain ⟨ht, ho⟩ := h.open_of hs hn
  exact ⟨ht, ho, fun hl => hc (hs ▸ ho.live hl)⟩

theorem controlled_of_not_final (h : s.outcome.isFinal = false) {trace : List Observation} :
    ∀ operation : ControlOperation, s.outcome = operation.outcome → Controlled operation trace := by
  intro operation e
  rw [e] at h
  cases operation <;> cases h

theorem not_final_outcome {outcome : TransactionOutcome}
    (h : outcome = .rejected ∨ outcome = .ambiguous) (operation : ControlOperation) :
    outcome ≠ operation.outcome := by
  rcases h with rfl | rfl <;> cases operation <;> simp [ControlOperation.outcome]

theorem Ended.ambiguous (h : s.Ended) {outcome : TransactionOutcome}
    (ho : outcome = .rejected ∨ outcome = .ambiguous) : { s with outcome := outcome }.Ended :=
  { h with outcome := fun operation e => absurd e (not_final_outcome ho operation) }

theorem Ended.settle (h : s.Ended) (result : Except Failure Unit) :
    (s.settleTerminal result).Book :=
  Ended.book { h with } (by simp [settleTerminal]) trivial
    fun _ => rfl

theorem Ended.shut (h : s.Ended) (state : TransactionRuntimeState) (hs : state.ending = true) :
    { s with state := state }.Ended :=
  { h with ending := hs }

theorem Ended.finishClosed (h : s.Ended) : s.finishClosed.Ended :=
  { h with ending := rfl }

/-- The executor goes on to a place at which nothing more is claimed of it. -/
theorem Ended.move (h : s.Ended) (hf : s.lateRelease = .unclaimed) {terminal : Terminal}
    (ht : terminal ≠ .unclaimed) (hst : { s with terminal := terminal }.Stage) :
    { s with terminal := terminal }.Book :=
  Ended.book { h with } ht hst fun hl => absurd hf hl

theorem Ended.prepare (h : s.Ended) (hf : s.lateRelease = .unclaimed) {plan : Plan}
    (hp : plan.Earned s.trace) : (s.prepareReleaseAfterQuarantine plan).Book := by
  unfold prepareReleaseAfterQuarantine
  split
  · exact h.move hf (by simp) hp
  · exact Ended.book { h with } (by simp [await]) hp
      fun hl => absurd hf hl

theorem earned_releaseOnly {primary : Option Failure} {reason : TransactionReleaseReason}
    {outcome : TransactionOutcome} {trace : List Observation} :
    (Plan.releaseOnly primary reason outcome).Earned trace := by
  intro hr
  cases hr

/-- A control operation is only started where none has been, and no call has ended
ambiguously. -/
theorem Ended.control (h : s.Ended) (hf : s.lateRelease = .unclaimed)
    (ho : s.outcome.isFinal = false) (ha : .endedAmbiguous ∉ s.trace)
    (hu : Uncontrolled s.trace) (operation : ControlOperation)
    (reason : TransactionReleaseReason) : Advances s (s.finishControl operation reason) := by
  unfold finishControl
  split
  · refine ⟨Ended.book ⟨h.lawful, ?_, h.quiet, h.outcome, h.late⟩ (by simp [await]) ?_
      fun hl => absurd hf hl, .inl rfl⟩
    · cases operation <;> rfl
    · exact (stage_control rfl).mpr ⟨ho, ha, fun _ => hu, .start _ _ _⟩
  · exact ⟨h.settle _, .inl rfl⟩

theorem Book.fresh (h : s.Book) {terminal : Terminal} (ht : s.terminal = terminal)
    (hn : terminal.left = false) : s.lateRelease = .unclaimed := by
  by_contra hl
  rw [← ht, h.left hl] at hn
  cases hn

/-- A transaction whose terminal promise is not claimed goes on. -/
theorem Book.goOn (h : s.Book) (ht : s.terminal = .unclaimed) (ho : s'.Open)
    (ht' : s'.terminal = .unclaimed) (htr : s'.trace = s.trace)
    (hl : s'.lateRelease = s.lateRelease) (hc : ∀ lease functionName,
      s'.businessCall = .invoking lease functionName → (s'.wait .call).closable = true) :
    s'.Book where
  lawful := htr ▸ h.lawful
  unclaimed _ := ho
  claimed hn := absurd ht' hn
  live hn := absurd ht' hn
  stage := by
    unfold Stage
    rw [ht']
    trivial
  outcome := controlled_of_not_final ho.outcome
  closable lease functionName hb := ⟨hc lease functionName hb, fun hn => absurd ht' hn⟩
  late quarantine disposition he := h.late quarantine disposition (hl ▸ he)
  left hn := by
    rw [hl, h.fresh ht rfl] at hn
    exact absurd rfl hn

/-- The same, where no call is live. -/
theorem Book.goOnQuiet (h : s.Book) (ht : s.terminal = .unclaimed) (hq : ¬ s'.CallLive)
    (hf : s'.outcome.isFinal = false) (ht' : s'.terminal = .unclaimed)
    (htr : s'.trace = s.trace) (hl : s'.lateRelease = s.lateRelease) : s'.Book := by
  obtain ⟨-, -, ha, hm, hu⟩ := h.unclaimed ht
  exact h.goOn ht ⟨fun hlive => absurd hlive hq, hf, htr ▸ ha, htr ▸ hm, htr ▸ hu⟩ ht' htr hl
    fun lease functionName hb => absurd (.inl ⟨lease, functionName, hb⟩) hq

theorem Book.quiet (h : s.Book) (hs : s.state ≠ .calling) (hc : s.state ≠ .closing) :
    ¬ s.CallLive := by
  intro hl
  rcases h.of_live hl with ⟨-, e⟩ | ⟨-, e⟩
  · exact hs e
  · exact hc e

theorem Book.begin (h : s.Book) : Advances s (s.answer s.begin) := by
  unfold TransactionRuntime.begin
  split
  · rename_i hs
    obtain ⟨ht, ho, hq⟩ := h.atRest hs rfl (by simp)
    exact ⟨h.goOnQuiet ht hq ho.outcome ht rfl rfl, .inl rfl⟩
  · exact ⟨h, .inl rfl⟩

theorem Book.beginFailed (h : s.Book) : Advances s s.beginFailed := by
  unfold TransactionRuntime.beginFailed
  by_cases hs : s.state = .opening
  · obtain ⟨ht, ho, hq⟩ := h.atRest hs rfl (by simp)
    exact ⟨h.goOnQuiet ht hq ho.outcome ht rfl rfl, .inl rfl⟩
  · rw [if_neg hs]
    exact Frame.advances { Frame.refl s with } h

/-- A lease is handed to the adapter by a function which is neither a call nor the executor. -/
theorem Frame.handOver (k : Frame s s') (hw : s'.wait = s.wait) (ht : s'.trace = s.trace)
    (who : Thread) (hc : who ≠ .call) (hx : who ≠ .terminal) (lease : Nat)
    (disposition : TransactionReleaseDisposition) (hd : disposition.reusable = false) :
    Frame s (s'.handOver who lease disposition) := by
  have awaited : Frame s (s'.await who .hand) :=
    Untouched.frame { k with } who .hand (by rw [← hw]; rfl)
      (fun e => absurd e hc) fun e => absurd e hx
  refine awaited.observe ht rfl fun hr => ?_
  rw [hd] at hr
  cases hr

theorem Book.acquireEnded (h : s.Book) (token : TransactionToken)
    (result : Except Failure JsValue) : Advances s (s.acquireEnded token result) := by
  unfold TransactionRuntime.acquireEnded
  split
  · exact h.beginFailed
  · split
    · dsimp only
      split
      · rename_i hs
        obtain ⟨ht, ho, hq⟩ := h.atRest hs rfl (by simp)
        exact ⟨h.goOnQuiet ht hq rfl ht rfl rfl, .inr ho.outcome⟩
      · refine Frame.advances (Frame.handOver ?_ ?_ ?_ .begin (by simp) (by simp) _ _ ?_) h
        · exact { Frame.refl s with }
        all_goals rfl
    · exact h.beginFailed

theorem Book.beginRolledBack (h : s.Book) (error : Failure) (result : Except Failure JsValue) :
    Advances s (s.beginRolledBack error result) := by
  unfold TransactionRuntime.beginRolledBack
  split
  · exact h.beginFailed
  · refine Frame.followed ?_ h Book.beginFailed
    exact { Frame.refl s with }

/-! Business calls. -/

/-- A call which is being closed ends. -/
theorem Book.callClosed (h : s.Book) (ht : s.terminal = .awaitingCall) (hl : s.CallLive)
    (disposition : Option CallDisposition) :
    Advances s { s with activeCallDisposition := disposition, businessCall := .idle } := by
  have hn : s.terminal ≠ .unclaimed := by simp [ht]
  have hst := h.stage
  unfold Stage at hst
  rw [ht] at hst
  obtain ⟨ho, hu, ha⟩ := hst
  refine ⟨Ended.book ⟨h.lawful, h.claimed hn, by simp [CallLive], h.outcome, h.late⟩ hn ?_
    h.left, .inl rfl⟩
  unfold Stage
  dsimp only
  rw [ht]
  exact ⟨ho, hu, fun hm => absurd hl (ha hm).2⟩

theorem Book.callClosedAmbiguous (h : s.Book) (ht : s.terminal = .awaitingCall) :
    Advances s ({ s with
      activeCallDisposition := some .ambiguous
      businessCall := .idle }.observe .endedAmbiguous) := by
  have hn : s.terminal ≠ .unclaimed := by simp [ht]
  have hst := h.stage
  unfold Stage at hst
  rw [ht] at hst
  obtain ⟨ho, hu, -⟩ := hst
  refine ⟨Ended.book ⟨⟨trivial, h.lawful⟩, h.claimed hn, by simp [CallLive, observe],
    fun operation e => (h.outcome operation e).cons _, h.late⟩ hn ?_ h.left, .inl rfl⟩
  unfold Stage
  dsimp only [observe]
  rw [ht]
  exact ⟨ho, hu.cons (by simp), fun _ => ⟨rfl, by simp [CallLive]⟩⟩

/-- Where a business call may fail. -/
def CallFails (s : TransactionRuntime) : Prop :=
  s.state = .calling ∨ s.state = .closing ∧ s.CallLive

theorem Book.callFails (h : s.Book) (hl : s.CallLive) : s.CallFails := by
  rcases h.of_live hl with ⟨-, e⟩ | ⟨-, e⟩
  · exact .inl e
  · exact .inr ⟨e, hl⟩

theorem Book.closing (h : s.Book) (hl : s.CallFails) (hs : s.state = .closing) :
    s.terminal = .awaitingCall ∧ s.CallLive := by
  obtain ⟨-, hlive⟩ := hl.resolve_left (by rw [hs]; simp)
  rcases h.of_live hlive with ⟨-, e⟩ | ⟨ht, -⟩
  · rw [hs] at e
    cases e
  · exact ⟨ht, hlive⟩

theorem Book.calling (h : s.Book) (hl : s.CallFails) (hs : s.state ≠ .closing) :
    s.terminal = .unclaimed ∧ s.Open ∧ s.state = .calling := by
  have hcalling := hl.resolve_right fun hc => hs hc.1
  obtain ⟨ht, ho⟩ := h.open_of hcalling rfl
  exact ⟨ht, ho, hcalling⟩

theorem Book.recovered (h : s.Book) (ht : s.terminal = .unclaimed) :
    Advances s { s with state := .active, businessCall := .idle } :=
  ⟨h.goOnQuiet ht (by simp [CallLive]) (h.unclaimed ht).outcome ht rfl rfl, .inl rfl⟩

theorem claimTerminal_of (ht : s.terminal = .unclaimed)
    (executor : TransactionRuntime → TransactionRuntime) : s.claimTerminal executor = executor s := by
  unfold claimTerminal
  rw [ht]

theorem Book.businessClassified (h : s.Book) (hl : s.CallFails) (kind : TransactionFailureKind)
    (failure : Failure) : Advances s (s.businessClassified kind failure) := by
  unfold TransactionRuntime.businessClassified
  split
  · rename_i hs
    obtain ⟨ht, hlive⟩ := h.closing hl hs
    cases kind with
    | recoverable => exact h.callClosed ht hlive _
    | ambiguous => exact h.callClosedAmbiguous ht
  · rename_i hs
    obtain ⟨ht, ho, -⟩ := h.calling hl hs
    cases kind with
    | recoverable => exact h.recovered ht
    | ambiguous =>
        have ended : Ended ({ s with
            outcome := .ambiguous
            state := .failed
            businessCall := .awaitingTerminal failure }.observe .endedAmbiguous) :=
          ⟨⟨trivial, h.lawful⟩, rfl, by simp [CallLive, observe],
            fun operation e => absurd e (not_final_outcome (.inr rfl) operation), h.late⟩
        dsimp only
        rw [claimTerminal_of (by exact ht)]
        exact ⟨ended.prepare (h.fresh ht rfl) earned_releaseOnly, .inr ho.outcome⟩

theorem Book.businessFailed (h : s.Book) (hl : s.CallFails) (error : Failure) :
    Advances s (s.businessFailed cfg error) := by
  unfold TransactionRuntime.businessFailed
  split
  · rename_i hs
    obtain ⟨ht, hlive⟩ := h.closing hl hs
    split
    · exact h.callClosed ht hlive _
    · exact h.callClosedAmbiguous ht
  · rename_i hs
    split
    · exact h.businessClassified hl .ambiguous error
    · obtain ⟨ht, ho, hcalling⟩ := h.calling hl hs
      refine ⟨h.goOn ht ⟨fun _ => hcalling, ho.outcome, ho.accepted, ho.ambiguous,
        ho.uncontrolled⟩ ht rfl rfl ?_, .inl rfl⟩
      intro lease functionName hb
      cases hb

theorem Book.classified (h : s.Book) {error : Failure}
    (hb : s.businessCall = .classifying error)
    (answer : Except Failure (Option TransactionFailureKind)) :
    Advances s (s.classified error answer) := by
  have hl := h.callFails (.inr ⟨error, hb⟩)
  unfold TransactionRuntime.classified
  dsimp only
  split
  · exact h.businessClassified hl _ _
  · exact h.businessClassified hl _ _
  · exact h.businessClassified hl _ _

theorem Book.businessEnded (h : s.Book) (hlive : s.CallLive) (result : Except Failure JsValue) :
    Advances s (s.businessEnded cfg result) := by
  have hl := h.callFails hlive
  unfold TransactionRuntime.businessEnded
  split
  · exact h.businessFailed hl _
  · split
    · exact h.businessFailed hl _
    · split
      · rename_i hs
        exact h.callClosed (h.closing hl hs).1 hlive _
      · rename_i hs
        exact h.recovered (h.calling hl hs).1

theorem state_of_requireState {expected : TransactionRuntimeState} {operation : String}
    {u : Unit} (h : s.requireState expected operation = .ok u) : s.state = expected := by
  unfold requireState at h
  split at h
  · assumption
  · cases h

theorem Book.call (h : s.Book) {token : Option TransactionToken} {functionName : String}
    (he : s.call cfg token functionName = .ok s') : Advances s s' := by
  unfold TransactionRuntime.call at he
  obtain ⟨-, -, he⟩ := bind_eq_ok.mp he
  split at he
  · cases he
  · obtain ⟨_, hactive, he⟩ := bind_eq_ok.mp he
    obtain ⟨_, _, he⟩ := bind_eq_ok.mp he
    obtain ⟨ht, ho, hq⟩ := h.atRest (state_of_requireState hactive) rfl (by simp)
    dsimp only at he
    split at he
    · cases he
      refine ⟨h.goOn ht ⟨fun _ => rfl, ho.outcome, ho.accepted, ho.ambiguous, ho.uncontrolled⟩
        ht rfl rfl fun lease functionName hb => ?_, .inl rfl⟩
      simp only [await, Function.update_self]
      rfl
    · cases he
      have called : Book { s with activeCallDisposition := none, state := .calling } :=
        h.goOnQuiet ht hq ho.outcome ht rfl rfl
      have failed := @Book.businessFailed cfg _ called (.inl rfl)
        (runtimeError .invalidTransactionState "transaction has no pinned lease")
      exact ⟨failed.book, failed.outcome⟩

/-! The public calls which end the transaction. -/

/-- A transaction which is to be ended, where no call is live. -/
theorem Book.accepted (h : s.Book) (ht : s.terminal = .unclaimed) (hq : ¬ s.CallLive)
    {state : TransactionRuntimeState} (hs : state.ending = true) (request : Request) :
    Ended ({ s with state := state }.observe (.accepted request)) ∧
      .endedAmbiguous ∉ (.accepted request :: s.trace) ∧
      Uncontrolled (.accepted request :: s.trace) := by
  obtain ⟨-, ho, -, hm, hu⟩ := h.unclaimed ht
  refine ⟨⟨⟨trivial, h.lawful⟩, hs, hq, controlled_of_not_final ho,
    h.late⟩, ?_, hu.cons (by simp)⟩
  simpa using hm

theorem Book.finishControl (h : s.Book) (hs : s.state = .active)
    {state : TransactionRuntimeState} (he : state.ending = true) (request : Request)
    (operation : ControlOperation) (reason : TransactionReleaseReason) :
    Advances s (({ s with state := state }.observe (.accepted request)).finishControl operation
      reason) := by
  obtain ⟨ht, ho, hq⟩ := h.atRest hs rfl (by simp)
  obtain ⟨ended, ha, hu⟩ := h.accepted ht hq he request
  have advanced := ended.control (h.fresh ht rfl) ho.outcome ha hu operation reason
  exact ⟨advanced.book, advanced.outcome⟩

theorem Book.endTransaction (h : s.Book) {token : Option TransactionToken}
    {operation : ControlOperation} {request : Request} {reason : TransactionReleaseReason}
    (he : s.endTransaction token operation request reason = .ok s') : Advances s s' := by
  unfold TransactionRuntime.endTransaction at he
  obtain ⟨_, _, he⟩ := bind_eq_ok.mp he
  obtain ⟨_, hactive, he⟩ := bind_eq_ok.mp he
  cases he
  have hs := state_of_requireState hactive
  obtain ⟨ht, -⟩ := h.open_of hs rfl
  rw [claimTerminal_of (by exact ht)]
  exact h.finishControl hs (by cases operation <;> rfl) request operation reason

/-- A call which is live is aborted before anything else is done. -/
theorem Book.closeDuringCall (h : s.Book) (hs : s.state = .calling) (request : Request)
    (reason : String) :
    Advances s ((s.observe (.accepted request)).closeDuringCall reason) := by
  obtain ⟨ht, ho⟩ := h.open_of hs rfl
  have ha : .endedAmbiguous ∉ (.accepted request :: s.trace) := by simpa using ho.ambiguous
  have hu : Uncontrolled (.accepted request :: s.trace) := ho.uncontrolled.cons (by simp)
  unfold TransactionRuntime.closeDuringCall
  rw [claimTerminal_of (by exact ht)]
  refine ⟨?_, .inl rfl⟩
  exact {
    lawful := ⟨trivial, h.lawful⟩
    unclaimed := by simp [abortClosableWork]
    claimed := fun _ => rfl
    live := fun _ _ => ⟨rfl, rfl⟩
    stage := ⟨ho.outcome, hu, fun hm => absurd hm ha⟩
    outcome := controlled_of_not_final ho.outcome
    closable := fun lease functionName hb => by
      obtain ⟨hc, -⟩ := h.closable lease functionName hb
      exact ⟨(Bounded.Passive.abort _).closable.trans hc, fun _ => Bounded.not_unmade_abort hc⟩
    late := h.late
    left := fun hl => absurd (h.fresh ht rfl) hl }

theorem Book.cancel (h : s.Book) {token : Option TransactionToken}
    (he : s.cancel token = .ok s') : Advances s s' := by
  unfold TransactionRuntime.cancel at he
  obtain ⟨_, _, he⟩ := bind_eq_ok.mp he
  obtain ⟨_, hcalling, he⟩ := bind_eq_ok.mp he
  cases he
  exact h.closeDuringCall (state_of_requireState hcalling) .cancel _

theorem Book.abort (h : s.Book) {token : Option TransactionToken}
    (he : s.abort token = .ok s') : Advances s s' := by
  unfold TransactionRuntime.abort at he
  obtain ⟨_, _, he⟩ := bind_eq_ok.mp he
  split at he
  · exact h.endTransaction he
  · cases he
    exact ⟨h, .inl rfl⟩
  · exact h.cancel he
  · exact h.endTransaction he

theorem Book.closeUnclaimed (h : s.Book) (ht : s.terminal = .unclaimed)
    (he : (s.observe (.accepted .close)).closeUnclaimed = .ok s') : Advances s s' := by
  have hf := h.fresh ht rfl
  have accepted {now : TransactionRuntimeState} (hnow : s.state = now) (hn : now ≠ .calling)
      (state : TransactionRuntimeState) (hs : state.ending = true) :
      Ended ({ s with state := state }.observe (.accepted .close)) :=
    (h.accepted ht (fun hl => hn (hnow ▸ (h.unclaimed ht).live hl)) hs .close).1
  unfold TransactionRuntime.closeUnclaimed at he
  split at he
  · rename_i hs
    cases he
    exact ⟨(accepted hs (by simp) _ rfl).settle _, .inl rfl⟩
  · rename_i hs
    cases he
    have ended := accepted hs (by simp) .closing rfl
    exact ⟨Ended.book ⟨ended.lawful, rfl, ended.quiet, ended.outcome, ended.late⟩
      (by simp [abortClosableWork]) trivial fun hl => absurd hf hl, .inl rfl⟩
  · rename_i hs
    cases he
    exact h.closeDuringCall hs .close _
  · rename_i hs
    cases he
    exact h.finishControl hs rfl .close .rollback .closeRollback
  · rename_i hs
    cases he
    have ended := accepted hs (by simp) s.state (by rw [show s.state = _ from hs]; rfl)
    exact ⟨ended.settle _, .inl rfl⟩
  · split at he
    · rename_i hs
      cases he
      have ended := accepted hs.1 (by simp) .closing rfl
      exact ⟨ended.move hf (by simp) trivial, .inl rfl⟩
    · cases he

theorem Book.close (h : s.Book) (he : s.close = .ok s') : Advances s s' := by
  unfold TransactionRuntime.close at he
  split at he
  · rename_i ht
    exact h.closeUnclaimed ht he
  · rename_i hn
    cases he
    have untouched : Untouched s (s.observe (.accepted .close)) := { Untouched.refl s with
      trace := .inr ⟨.accepted .close, .inr ⟨hn, .close, rfl⟩, trivial, rfl⟩ }
    exact (untouched.kept rfl).advances h

/-! The executor of the terminal promise. -/

theorem controlFailure_none {operation : ControlOperation} {result : Except Failure JsValue}
    (h : controlFailure operation result = none) : ∃ v, result = .ok v ∧ ReturnClean v := by
  unfold controlFailure at h
  split at h
  · cases h
  · rename_i v
    split at h
    · cases h
    · rename_i v' hv
      obtain rfl : v = v' := by
        unfold resultObject at hv
        split at hv <;> cases hv
        rfl
      split at h
      · cases h
      · rename_i u hu
        exact ⟨v, rfl, returnClean_of_inspect hu⟩

theorem ended_ok {who : Thread} {v : JsValue} (h : s.ended who = some (.ok v)) :
    (s.wait who).Fulfilled v := by
  unfold TransactionRuntime.ended at h
  split at h
  · exact .inr h
  · cases h

theorem outcome_injective {operation operation' : ControlOperation}
    (h : operation.outcome = operation'.outcome) : operation = operation' := by
  cases operation <;> cases operation' <;> first | rfl | cases h

theorem Ended.finishCloseWithoutLease (h : s.Ended) : Advances s s.finishCloseWithoutLease := by
  unfold TransactionRuntime.finishCloseWithoutLease
  split
  · exact ⟨(h.shut .failed rfl).settle _, .inl rfl⟩
  · exact ⟨(h.shut .closed rfl).settle _, .inl rfl⟩

theorem Ended.activeCallEnded (h : s.Ended) (hf : s.lateRelease = .unclaimed)
    (ho : s.outcome.isFinal = false) (hu : Uncontrolled s.trace)
    (ha : .endedAmbiguous ∈ s.trace → s.activeCallDisposition = some .ambiguous) :
    Advances s s.activeCallEnded := by
  unfold TransactionRuntime.activeCallEnded
  split
  · rename_i hd
    refine h.control hf ho (fun hm => ?_) hu _ _
    rw [ha hm] at hd
    cases hd
  · exact ⟨(h.ambiguous (.inr rfl)).prepare hf earned_releaseOnly, .inr ho⟩

theorem Ended.controlEnded (h : s.Ended) (hf : s.lateRelease = .unclaimed) {lease : Nat}
    {operation : ControlOperation} {reason : TransactionReleaseReason}
    {result : Except Failure JsValue} (hr : s.ended .terminal = some result)
    (ho : s.outcome.isFinal = false)
    (hw : Told (.invoke lease operation.kind) s.trace (s.wait .terminal)) :
    Advances s (s.controlEnded lease operation reason result) := by
  unfold TransactionRuntime.controlEnded
  split
  · exact ⟨(h.ambiguous (.inl rfl)).prepare hf earned_releaseOnly, .inr ho⟩
  · exact ⟨(h.ambiguous (.inr rfl)).prepare hf earned_releaseOnly, .inr ho⟩
  · rename_i hn
    obtain ⟨v, rfl, hv⟩ := controlFailure_none hn
    have hc : Controlled operation s.trace := ⟨lease, v, hw.answered (ended_ok hr), hv⟩
    refine ⟨Ended.book ⟨h.lawful, rfl, h.quiet, fun o e => outcome_injective e ▸ hc, h.late⟩
      (by simp [await]) ((stage_resetting rfl).mpr ⟨hc, ?_⟩) fun hl => absurd hf hl, .inr ho⟩
    simp only [await, Function.update_self]
    exact .start _ _ _

theorem Ended.resetEnded (h : s.Ended) (hf : s.lateRelease = .unclaimed) {lease : Nat}
    {operation : ControlOperation} {reason : TransactionReleaseReason}
    {result : Except Failure JsValue} (hr : s.ended .terminal = some result)
    (hc : Controlled operation s.trace) (hw : Told (.reset lease) s.trace (s.wait .terminal)) :
    (s.resetEnded operation reason result).Book := by
  refine h.prepare hf fun hreusable => ⟨⟨operation, hc⟩, ?_⟩
  cases result with
  | error e => cases hreusable
  | ok v => exact ⟨lease, v, hw.answered (ended_ok hr)⟩

theorem prepare_outcome (s : TransactionRuntime) (plan : Plan) :
    (s.prepareReleaseAfterQuarantine plan).outcome = s.outcome := by
  unfold prepareReleaseAfterQuarantine
  split <;> rfl

theorem Ended.operationsConverged (h : s.Ended) (hf : s.lateRelease = .unclaimed) {plan : Plan}
    (hp : plan.Earned s.trace) (quarantine : List Nat) (result : Except Failure JsValue) :
    Advances s (s.operationsConverged plan quarantine result) := by
  unfold TransactionRuntime.operationsConverged
  split
  · exact ⟨Ended.book { h with } (by simp) hp
      fun hl => absurd hf hl, .inl rfl⟩
  · unfold startLateRelease
    rw [hf]
    refine ⟨Ended.book ⟨h.lawful, h.ending, h.quiet, h.outcome, fun _ disposition hl => ?_⟩
      (by simp) hp fun _ => rfl, .inl rfl⟩
    obtain ⟨-, rfl⟩ := LateRelease.awaiting.inj hl
    rfl

theorem Ended.releasePublishedLease (h : s.Ended) (hf : s.lateRelease = .unclaimed) {plan : Plan}
    (hp : plan.Earned s.trace) : Advances s (s.releasePublishedLease plan) := by
  unfold TransactionRuntime.releasePublishedLease
  dsimp only
  split
  · refine ⟨Ended.book ⟨⟨hp, h.lawful⟩, rfl, h.quiet,
      fun operation e => (h.outcome operation e).cons _, h.late⟩ ?_ trivial fun hl => ?_, .inl rfl⟩
    · simp [handOver, await, observe]
    · exact absurd hf hl
  · have claimed : Ended { s with releaseClaimed := true } :=
      { h with }
    exact ⟨claimed.finishClosed.settle _, .inl rfl⟩

theorem Book.resumeTerminal (h : s.Book) (he : s.resumeTerminal = some s') : Advances s s' := by
  have hst := h.stage
  unfold Stage at hst
  unfold TransactionRuntime.resumeTerminal at he
  have ended (hn : s.terminal ≠ .unclaimed) (hq : s.terminal ≠ .awaitingCall) : s.Ended :=
    h.ended hn fun hc => absurd hc hq
  cases ht : s.terminal with
  | unclaimed | settled result =>
      rw [ht] at he
      cases he
  | awaitingOpening =>
      rw [ht] at he ended
      dsimp only at he
      split at he
      · cases he
        have hE := ended (by simp) (by simp)
        unfold openingEnded
        split
        · exact hE.finishCloseWithoutLease
        · exact ⟨Ended.book { hE with }
            (by simp [await]) trivial fun hl => absurd (h.fresh ht rfl) hl, .inl rfl⟩
      · cases he
  | awaitingCall =>
      rw [ht] at he hst
      dsimp only at he
      split at he
      · rename_i hb
        cases he
        obtain ⟨ho, hu, ha⟩ := hst
        have hq : ¬ s.CallLive := by simp [CallLive, hb]
        exact (h.ended (by simp [ht]) fun _ => hq).activeCallEnded (h.fresh ht rfl) ho hu
          fun hm => (ha hm).1
      · cases he
  | acquireConvergence pending =>
      rw [ht] at he ended
      obtain ⟨result, -, rfl⟩ := Option.map_eq_some_iff.mp he
      have hE := ended (by simp) (by simp)
      unfold acquiresConverged
      split
      · exact hE.finishCloseWithoutLease
      · exact ⟨(hE.shut .failed rfl).settle _, .inl rfl⟩
  | control lease operation reason =>
      rw [ht] at he ended hst
      obtain ⟨result, hr, rfl⟩ := Option.map_eq_some_iff.mp he
      exact (ended (by simp) (by simp)).controlEnded (h.fresh ht rfl) hr hst.1 hst.2.2.2
  | resetting lease operation reason =>
      rw [ht] at he ended hst
      obtain ⟨result, hr, rfl⟩ := Option.map_eq_some_iff.mp he
      exact ⟨(ended (by simp) (by simp)).resetEnded (h.fresh ht rfl) hr hst.1 hst.2,
        .inl (prepare_outcome s _)⟩
  | operationConvergence plan quarantine =>
      rw [ht] at he ended hst
      obtain ⟨result, -, rfl⟩ := Option.map_eq_some_iff.mp he
      exact (ended (by simp) (by simp)).operationsConverged (h.fresh ht rfl) hst quarantine result
  | prepared plan =>
      rw [ht] at he ended hst
      cases he
      exact (ended (by simp) (by simp)).releasePublishedLease (h.fresh ht rfl) hst
  | unconverged plan failure =>
      rw [ht] at he ended
      cases he
      exact ⟨((ended (by simp) (by simp)).shut .failed rfl).settle _, .inl rfl⟩
  | releasing lease plan disposition =>
      rw [ht] at he ended
      obtain ⟨result, -, rfl⟩ := Option.map_eq_some_iff.mp he
      exact ⟨(ended (by simp) (by simp)).finishClosed.settle _, .inl rfl⟩

/-! The late release, and adapter calls whose waits have ended before them. -/

/-- The late release acts behind the executor. -/
theorem Book.lately (h : s.Book) (hl : s.lateRelease ≠ .unclaimed) :
    s.Ended ∧ s.terminal ≠ .unclaimed := by
  have hleft := h.left hl
  have hn : s.terminal ≠ .unclaimed := by
    intro ht
    rw [ht] at hleft
    cases hleft
  refine ⟨h.ended hn fun ht => ?_, hn⟩
  rw [ht] at hleft
  cases hleft

/-- What the executor has left does not depend on what the late release does. -/
theorem Ended.late_book (h : s'.Ended) (hs : s.Book) (hl : s.lateRelease ≠ .unclaimed)
    (ht : s'.terminal = s.terminal) (htr : ∀ plan : Plan, plan.Earned s.trace →
      plan.Earned s'.trace) : s'.Book := by
  have hleft := hs.left hl
  have hst := hs.stage
  unfold Stage at hst
  refine h.book (ht ▸ (hs.lately hl).2) ?_ fun _ => ht ▸ hleft
  unfold Stage
  rw [ht]
  cases hx : s.terminal with
  | unconverged plan failure =>
      rw [hx] at hst
      exact htr plan hst
  | settled result => trivial
  | _ =>
      rw [hx] at hleft
      cases hleft

theorem Earned.cons {plan : Plan} {trace : List Observation} (h : plan.Earned trace)
    (o : Observation) : plan.Earned (o :: trace) := by
  intro hr
  obtain ⟨⟨operation, hc⟩, lease, v, ha⟩ := h hr
  exact ⟨⟨operation, hc.cons o⟩, lease, v, ha.cons o⟩

theorem Book.resumeLateRelease (h : s.Book) (he : s.resumeLateRelease = some s') :
    Advances s s' := by
  unfold TransactionRuntime.resumeLateRelease at he
  split at he
  · rename_i quarantine disposition hl
    simp only [Option.ite_none_right_eq_some, Option.some.injEq] at he
    obtain ⟨-, rfl⟩ := he
    have hne : s.lateRelease ≠ .unclaimed := by simp [hl]
    obtain ⟨hE, -⟩ := h.lately hne
    unfold lateReleaseConverged
    dsimp only
    split
    · refine ⟨Ended.late_book ⟨⟨fun hr => ?_, hE.lawful⟩, rfl, hE.quiet,
        fun operation e => (hE.outcome operation e).cons _, ?_⟩ h hne rfl
        fun plan hp => Earned.cons hp _, .inl rfl⟩
      · rw [h.late quarantine disposition hl] at hr
        cases hr
      · simp [handOver, await, observe]
    · exact ⟨Ended.late_book ⟨hE.lawful, rfl, hE.quiet, hE.outcome, by simp [finishClosed]⟩
        h hne rfl fun _ => id, .inl rfl⟩
  · rename_i lease disposition hl
    obtain ⟨result, -, rfl⟩ := Option.map_eq_some_iff.mp he
    have hne : s.lateRelease ≠ .unclaimed := by simp [hl]
    obtain ⟨hE, -⟩ := h.lately hne
    exact ⟨Ended.late_book ⟨hE.lawful, rfl, hE.quiet, hE.outcome,
      by simp [lateReleaseEnded, finishClosed]⟩ h hne rfl fun _ => id, .inl rfl⟩
  · cases he
  · cases he

theorem Book.settleAcquireQuarantineState (h : s.Book) :
    Advances s s.settleAcquireQuarantineState := by
  unfold TransactionRuntime.settleAcquireQuarantineState
  split
  · rename_i hs _
    have hq := h.quiet (by rw [hs]; simp) (by rw [hs]; simp)
    split
    · rename_i ht
      exact ⟨h.goOnQuiet ht hq (h.unclaimed ht).outcome ht rfl rfl, .inl rfl⟩
    · rename_i hn
      have hE := (h.ended hn fun _ => hq).shut .closed rfl
      exact ⟨hE.book hn h.stage h.left, .inl rfl⟩
  · exact ⟨h, .inl rfl⟩

theorem Book.reactDetached (h : s.Book) (work : Nat) (x : Detached)
    (outcome : Except Failure JsValue) : Advances s (s.reactDetached work x outcome) := by
  unfold TransactionRuntime.reactDetached
  dsimp only
  split
  · exact Frame.advances { Frame.refl s with } h
  · split
    · refine Frame.advances (Frame.handOver ?_ ?_ ?_ (.lateAcquire work) (by simp) (by simp)
        _ _ ?_) h
      · exact { Frame.refl s with }
      all_goals rfl
    · exact Frame.advances { Frame.refl s with } h
  · exact Frame.advances { Frame.refl s with } h

theorem Book.answer (h : s.Book) {x : Except Failure TransactionRuntime}
    (hx : ∀ s', x = .ok s' → Advances s s') : Advances s (s.answer x) := by
  cases x with
  | error e => exact ⟨h, .inl rfl⟩
  | ok s' => exact hx s' rfl

/-- Every step keeps the books. -/
theorem Book.step (h : s.Book) {e : Event} (he : s.step cfg e = some s') : Advances s s' := by
  cases e with
  | begin =>
      obtain rfl := Option.some.inj he
      exact h.begin
  | call token functionName =>
      obtain rfl := Option.some.inj he
      exact h.answer fun _ => h.call
  | commit token | rollback token =>
      obtain rfl := Option.some.inj he
      exact h.answer fun _ => h.endTransaction
  | abort token =>
      obtain rfl := Option.some.inj he
      exact h.answer fun _ => h.abort
  | cancel token =>
      obtain rfl := Option.some.inj he
      exact h.answer fun _ => h.cancel
  | close =>
      obtain rfl := Option.some.inj he
      exact h.answer fun _ => h.close
  | classified answer =>
      simp only [TransactionRuntime.step] at he
      split at he
      · rename_i hb
        obtain rfl := Option.some.inj he
        exact h.classified hb answer
      · cases he
  | signal who sig =>
      simp only [TransactionRuntime.step] at he
      split at he
      · rename_i hj
        exact signal_advances h hj he
      · cases he
  | resume who =>
      simp only [TransactionRuntime.step, TransactionRuntime.resume] at he
      cases who with
      | begin =>
          simp only [resumeBegin] at he
          split at he
          · obtain ⟨result, -, rfl⟩ := Option.map_eq_some_iff.mp he
            exact h.acquireEnded _ result
          · obtain ⟨result, -, rfl⟩ := Option.map_eq_some_iff.mp he
            exact h.beginRolledBack _ result
          · cases he
      | call =>
          simp only [resumeCall] at he
          split at he
          · rename_i lease functionName hb
            obtain ⟨result, -, rfl⟩ := Option.map_eq_some_iff.mp he
            exact h.businessEnded (.inl ⟨lease, functionName, hb⟩) result
          · rename_i failure result hb ht
            obtain rfl := Option.some.inj he
            have hn : s.terminal ≠ .unclaimed := by simp [ht]
            have hE := h.ended hn fun hc => by simp [ht] at hc
            refine ⟨Ended.book ⟨hE.lawful, hE.ending, by simp [CallLive], hE.outcome, hE.late⟩
              hn ?_ h.left, .inl rfl⟩
            unfold Stage
            dsimp only
            rw [ht]
            trivial
          · cases he
      | terminal => exact h.resumeTerminal he
      | lateRelease => exact h.resumeLateRelease he
      | lateAcquire work =>
          simp only [Option.ite_none_right_eq_some] at he
          obtain ⟨result, -, rfl⟩ := Option.map_eq_some_iff.mp he.2
          exact Frame.advances { Frame.refl s with } h
  | settleDetached work outcome =>
      simp only [TransactionRuntime.step] at he
      split at he
      · obtain rfl := Option.some.inj he
        exact Frame.advances (Untouched.kept { Untouched.refl s with
          trace := .inr ⟨.settled work outcome, .inl rfl, trivial, rfl⟩ } rfl) h
      · cases he
  | reactDetached work =>
      simp only [TransactionRuntime.step] at he
      split at he
      · obtain rfl := Option.some.inj he
        exact h.reactDetached work _ _
      · cases he
  | acquireQuarantineSettled work =>
      simp only [TransactionRuntime.step] at he
      split at he
      · rename_i result _
        simp only [Option.ite_none_right_eq_some, Option.some.injEq] at he
        obtain ⟨-, rfl⟩ := he
        refine Frame.followed ?_ h Book.settleAcquireQuarantineState
        cases result <;> exact { Frame.refl s with }
      · cases he

theorem book_initial : Book initial where
  lawful := trivial
  unclaimed _ := ⟨fun hl => by simp [CallLive, initial] at hl, rfl, by simp [initial],
    by simp [initial], fun _ _ hm => by cases hm⟩
  claimed hn := absurd rfl hn
  live hn := absurd rfl hn
  stage := trivial
  outcome operation e := by cases operation <;> cases e
  closable _ _ hb := by cases hb
  late _ _ hl := by cases hl
  left hl := absurd rfl hl

end TransactionRuntime

open TransactionRuntime

theorem book_reachable {cfg : Settings} {s : TransactionRuntime} (hs : (machine cfg).Reachable s) :
    s.Book :=
  hs.invariant (P := Book) book_initial fun _ _ _ _ h he => (h.step he).book

def Observation.isControlCall : Observation → Bool
  | .called _ call => call.isControl
  | _ => false

theorem count_controlCalls {trace : List Observation} (h : History.Each Lawful trace) :
    trace.countP Observation.isControlCall ≤ 1 := by
  have none_of {past : List Observation} (hu : Uncontrolled past) :
      past.countP Observation.isControlCall = 0 := by
    rw [List.countP_eq_zero]
    intro o ho
    cases o with
    | called work call =>
        rw [Observation.isControlCall, hu work call ho]
        simp
    | _ => simp [Observation.isControlCall]
  induction trace with
  | nil => exact Nat.zero_le 1
  | cons o past ih =>
      rw [List.countP_cons]
      cases hc : o.isControlCall with
      | false => exact ih h.2
      | true =>
          cases o with
          | called work call =>
              rw [none_of (h.1.2.1 hc).1]
              exact Nat.le_refl 1
          | _ => cases hc

/-- In every run, whatever the order of calls, completions, timeouts and aborts: one control
call at most is made, and each observation comes when it may. The outcome is `committed` or
`rolledBack` only after the control call has returned a clean RETURN, and a final outcome
stays. -/
structure ControlSafety (cfg : Settings) (s : TransactionRuntime) : Prop where
  single : s.trace.countP Observation.isControlCall ≤ 1
  lawful : History.Each Lawful s.trace
  outcome : ∀ operation : ControlOperation, s.outcome = operation.outcome →
    Controlled operation s.trace
  final : ∀ e s', (machine cfg).step s e = some s' → s.outcome.isFinal = true →
    s'.outcome = s.outcome

theorem controlSafety_reachable (cfg : Settings) {s : TransactionRuntime}
    (hs : (machine cfg).Reachable s) : ControlSafety cfg s := by
  have h := book_reachable hs
  refine ⟨count_controlCalls h.lawful, h.lawful, h.outcome, fun e s' he hf => ?_⟩
  refine (Book.step h he).outcome.resolve_right fun hn => ?_
  rw [hf] at hn
  cases hn

def tenSeconds : Settings := ⟨10000, by decide, true⟩

/-- A wait whose adapter call is fulfilled with a value. -/
def awaitCall (who : Thread) (v : JsValue) : List Event :=
  [.signal who (.clock (.value 0)), .signal who (.clock (.value 0)),
    .signal who (.scheduled none), .signal who (.returned none),
    .signal who (.settle (.ok v)), .signal who .react, .resume who]

/-- A transaction is committed, and its lease is reset. -/
def committing : List Event :=
  [.begin] ++ awaitCall .begin (.object []) ++ [.commit (some ⟨1⟩)] ++
    awaitCall .terminal (.object [("RETURN", .object [("TYPE", .string ['S'])])]) ++
    awaitCall .terminal .undefined ++ [.resume .terminal]

theorem controlSafety_committing : ∃ s,
    (machine tenSeconds).run (machine tenSeconds).init committing = some s ∧
      s.outcome = .committed ∧ s.state = .releasing ∧ ControlSafety tenSeconds s := by
  obtain ⟨s, hrun, hs, hp⟩ := Machine.reachable_of_any (machine tenSeconds) committing
    (fun s => s.outcome = .committed ∧ s.state = .releasing) (by decide +kernel)
  obtain ⟨ho, hst⟩ := of_decide_eq_true hp
  exact ⟨s, hrun, ho, hst, controlSafety_reachable tenSeconds hs⟩

end OpenRfc.Transaction
