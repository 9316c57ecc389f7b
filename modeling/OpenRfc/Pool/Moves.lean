import OpenRfc.Foundation.Machine
import OpenRfc.Pool.Runtime
import Mathlib.Data.Multiset.AddSub

/-!
The pool as a machine. A label is one public call, one timer or abort callback, or
one microtask, with every choice of the environment in it: what a clock reads, what
a factory callback settles with, which queued reaction runs next. The labels which
a state enables cover every order in which the source's promises can settle.
-/

namespace OpenRfc.Pool

inductive Event
  | acquire (number : JsNumber) (timeoutMs : Option JsNumber) (initiallyAborted : Bool)
      (reading : Reading) (registration : ConnectionPoolRuntime.Registration)
  | abort (waiter : Nat)
  | timer (waiter : Nat) (generation : Nat) (reading : Reading)
  | rearm (waiter : Nat) (reading : Reading) (scheduleError : Option Failure)
  | pump
  | dispatchLoop
  | dispatchClock (reading : Reading)
  | dispatchValidated
  | dispatchFinally
  /-- The microtask which invokes the factory callback of an operation. -/
  | invoke (operation : Nat)
  /-- The factory's promise settles. -/
  | settle (operation : Nat) (outcome : Settlement)
  /-- The deadline of an operation expires, or scheduling it failed. -/
  | expire (operation : Nat) (e : Failure)
  /-- The reaction on the bounded result of an operation. Its microtask is queued
  after the one which invokes the factory callback. -/
  | react (operation : Nat)
  /-- The reaction on the factory's promise of an operation which expired. -/
  | reactRaw (operation : Nat)
  | withActiveLease (token : LeaseToken)
  | callbackSettled (lease : Nat)
  | resetActiveLease (token : LeaseToken)
  | release (token : LeaseToken) (reusable : Option Bool) (idleHigh : Option JsNumber)
  /-- A `release` call continues after its last await. -/
  | resume (index : Nat)
  | beginShutdown (closing : Bool) (timeoutMs : Option JsNumber)
      (deadlineError : Option Failure)
  | shutdownExpired (e : Failure)

namespace ConnectionPoolRuntime

/-- The constructor's last action is to request a pump. -/
def initial : ConnectionPoolRuntime :=
  requestPump {
    toStore := Store.empty
    waiters := []
    waiter := fun _ => ⟨0, 0, false, 0, 0, 0, false⟩
    nextWaiterId := 1
    lastClockValue := none
    pumpScheduled := false
    dispatch := .stopped
    pumpRequestedWhileDispatching := false
    lowWaterBlocked := false
    state := .opened
    closePromise := none
    closeSettled := false
    counters := ⟨0, 0, 0, 0, 0, 0, 0⟩
    callbacks := []
    followUps := []
    trace := [] }

/-- What starting a callback shows to the outside. -/
def observeInvocation (s : ConnectionPoolRuntime) : Purpose → ConnectionPoolRuntime
  | .destroy p => s.observe (.destroyStarted p)
  | .resetLease l => s.observe (.reached l (s.lease l).physical)
  | _ => s

def observeDelivery (s : ConnectionPoolRuntime) (o : Nat) :
    Purpose → Settlement → ConnectionPoolRuntime
  | .create _, .fulfilled (.object r) => s.observe (.delivered o r)
  | _, _ => s

def invoke (s : ConnectionPoolRuntime) (o : Nat) (h : Lifecycle) :
    ConnectionPoolRuntime :=
  { s with toStore := s.toStore.updateOperation o { h with invoked := true } }.observeInvocation
    h.purpose

def settle (s : ConnectionPoolRuntime) (o : Nat) (h : Lifecycle)
    (outcome : Settlement) : ConnectionPoolRuntime :=
  { s with
    toStore := s.toStore.updateOperation o
      { h with raw := some outcome, result := some (h.result.getD outcome) } }.observeDelivery o
    h.purpose outcome

theorem toStore_invoke (s : ConnectionPoolRuntime) (o : Nat) (h : Lifecycle) :
    (s.invoke o h).toStore = s.toStore.updateOperation o { h with invoked := true } := by
  unfold invoke observeInvocation
  split <;> rfl

theorem toStore_settle (s : ConnectionPoolRuntime) (o : Nat) (h : Lifecycle)
    (outcome : Settlement) :
    (s.settle o h outcome).toStore = s.toStore.updateOperation o
      { h with raw := some outcome, result := some (h.result.getD outcome) } := by
  unfold settle observeDelivery
  split <;> rfl

/-- The `expire` of `#startLifecycle`. -/
def expire (s : ConnectionPoolRuntime) (o : Nat) (h : Lifecycle) (e : Failure) :
    ConnectionPoolRuntime :=
  let s := { s with
    toStore := s.toStore.updateOperation o
      { h with expired := true, result := some (.rejected e) } }
  let s := match h.purpose with
    | .create c =>
        { s with toStore := s.toStore.updateCreation c fun x => { x with aborted := true } }
    | _ => s
  s.count fun n => match e with
    | .poolError .lifecycleTimeout _ => { n with lifecycleTimeouts := n.lifecycleTimeouts + 1 }
    | _ => n

/-- The reaction on `lifecycle.result`, by the code which awaits it. -/
def react (cfg : Settings) (s : ConnectionPoolRuntime) (o : Nat) (h : Lifecycle)
    (result : Settlement) : ConnectionPoolRuntime :=
  let s := { s with toStore := s.toStore.updateOperation o { h with resultHandled := true } }
  match h.purpose, result with
  | .create c, .fulfilled v => s.creationSucceeded cfg c v false
  | .create c, .rejected e =>
      if h.expired then s.creationExpired cfg c e else s.creationFailed cfg c e false
  | .validate p, r => s.validationSettled p o h.expired r
  | .resetLease l, .fulfilled _ => s.resetLeaseSettled l o false
  | .resetLease l, .rejected _ => s.resetLeaseSettled l o true
  | .resetReturn p, .fulfilled _ => s.resetReturnSettled cfg p o false
  | .resetReturn p, .rejected _ => s.resetReturnSettled cfg p o true
  | .destroy p, .fulfilled _ => s.finishDestroy p o
  | .destroy p, .rejected e => s.destroyRejected p e

/-- The reaction on `lifecycle.raw` after an expiry. Only creations and destructions
register one. -/
def reactRaw (cfg : Settings) (s : ConnectionPoolRuntime) (o : Nat) (h : Lifecycle)
    (raw : Settlement) : ConnectionPoolRuntime :=
  let s := { s with toStore := s.toStore.updateOperation o { h with rawHandled := true } }
  match h.purpose, raw with
  | .create c, .fulfilled v => s.creationSucceeded cfg c v true
  | .create c, .rejected e => s.creationFailed cfg c e true
  | .destroy p, .fulfilled _ => s.finishDestroy p o
  | _, _ => s

/-- Whether a suspended `release` may continue, and whether its await throws. -/
def awaited (s : ConnectionPoolRuntime) : FollowUp → Option Bool
  | .parked => some false
  | .evicted o | .retired o | .resetFailed o | .trimmed o =>
      match s.operation o with
      | some h =>
          if h.resultHandled then
            match h.result with
            | some (.rejected _) => some true
            | _ => some false
          else none
      | none => none

def step (cfg : Settings) (s : ConnectionPoolRuntime) : Event → Option ConnectionPoolRuntime
  | .acquire number timeoutMs initiallyAborted reading registration =>
      some (s.acquire cfg number timeoutMs initiallyAborted reading registration)
  | .abort w => if w < s.nextWaiterId then some (s.abort cfg w) else none
  | .timer w generation reading =>
      if (s.waiter w).active ∧ (s.waiter w).timeoutGeneration = generation ∧
          (s.waiter w).rearming = false then
        some (s.handleTimeout cfg w reading)
      else none
  | .rearm w reading scheduleError =>
      if (s.waiter w).active ∧ (s.waiter w).rearming then
        some (s.rearm cfg w reading scheduleError)
      else none
  | .pump => if s.pumpScheduled then some s.pump else none
  | .dispatchLoop => if s.dispatch = .loop then some (s.dispatchLoop cfg) else none
  | .dispatchClock reading =>
      match s.dispatch with
      | .clock w => some (s.dispatchClock cfg w reading)
      | .finalClock w healthy => some (s.dispatchFinal cfg w healthy reading)
      | _ => none
  | .dispatchValidated =>
      match s.dispatch with
      | .validating w cs =>
          if cs.all fun c => c.outcome.isSome then some (s.dispatchValidated cfg w cs) else none
      | _ => none
  | .dispatchFinally => if s.dispatch = .returned then some s.dispatchFinally else none
  | .invoke o =>
      match s.operation o with
      | some h => if h.invoked then none else some (s.invoke o h)
      | none => none
  | .settle o outcome =>
      match s.operation o with
      | some h => if h.invoked ∧ h.raw = none then some (s.settle o h outcome) else none
      | none => none
  | .expire o e =>
      match s.operation o with
      | some h => if h.result = none then some (s.expire o h e) else none
      | none => none
  | .react o =>
      match s.operation o with
      | some h =>
          match h.result with
          | some r =>
              if h.invoked ∧ h.resultHandled = false then some (s.react cfg o h r) else none
          | none => none
      | none => none
  | .reactRaw o =>
      match s.operation o with
      | some h =>
          match h.raw, h.purpose with
          | some r, .create _ =>
              if h.expired ∧ h.rawHandled = false then some (s.reactRaw cfg o h r) else none
          | some r, .destroy _ =>
              if h.expired ∧ h.rawHandled = false ∧ h.resultHandled then
                some (s.reactRaw cfg o h r)
              else none
          | _, _ => none
      | none => none
  | .withActiveLease token => some (s.withActiveLease token)
  | .callbackSettled l => if l ∈ s.callbacks then some (s.callbackSettled l) else none
  | .resetActiveLease token => some (s.resetActiveLease cfg token)
  | .release token reusable idleHigh => some (s.release cfg token reusable idleHigh)
  | .resume i =>
      match s.followUps[i]? with
      | some f =>
          (s.awaited f).map fun threw =>
            { s with followUps := s.followUps.eraseIdx i }.resumeRelease f threw
      | none => none
  | .beginShutdown closing timeoutMs deadlineError =>
      some (s.beginShutdown cfg closing timeoutMs deadlineError)
  | .shutdownExpired e =>
      if s.closePromise = some .pending then some (s.shutdownExpired e) else none

end ConnectionPoolRuntime

/-- The pool of one configuration. -/
def machine (cfg : Settings) : Machine ConnectionPoolRuntime Event where
  init := ConnectionPoolRuntime.initial
  step := ConnectionPoolRuntime.step cfg

/-- A pool of two connections which provides a reset. -/
def twoConnections : Settings where
  maxConnections := 2
  maxWaiters := 4
  acquireTimeoutMs := 1000
  lifecycleTimeoutMs := 1000
  shutdownTimeoutMs := 1000
  lowWater := 0
  idleHigh := 2
  validateOnCheckout := false
  resetOnRelease := false
  providesReset := true
  maxConnections_pos := by decide
  maxWaiters_pos := by decide
  lowWater_le := by decide
  idleHigh_le := by decide
  reset_provided := fun _ => rfl

def Event.acquireOne (now : Time) : Event :=
  .acquire (.finite 1) none false (.value now) (.arms (.value now) none)

/-- One waiter arrives, a connection is created for it and leased to it. -/
def leaseOne : List Event :=
  [.pump, .dispatchLoop, .dispatchFinally, .acquireOne 0, .pump, .dispatchLoop,
    .dispatchClock (.value 1), .dispatchFinally, .invoke 1,
    .settle 1 (.fulfilled (.object 7)), .react 1, .pump, .dispatchLoop,
    .dispatchClock (.value 2), .dispatchValidated, .dispatchClock (.value 3), .dispatchLoop,
    .dispatchFinally]

/-!
The moves of the pool. A job of the source runs to its end without yielding, and may
do many things on the way; a move is one of them. In the middle of a job the pool
holds some connections which no list mentions: those which the dispatch loop has
checked out, and the one which the running code has in hand. A desk is a pool
together with these connections. Every step of the machine is a sequence of moves,
so that what each move preserves holds in every reachable state.
-/

structure Desk where
  pool : ConnectionPoolRuntime
  checkout : Multiset Nat
  hand : Option Nat

/-- The connections which the suspended dispatch loop has checked out. -/
def Dispatch.candidates : Dispatch → List Nat
  | .validating _ cs => cs.map (·.physical)
  | .finalClock _ healthy => healthy
  | _ => []

/-- The desk between two jobs. -/
def ConnectionPoolRuntime.desk (s : ConnectionPoolRuntime) : Desk :=
  ⟨s, s.dispatch.candidates, none⟩

/-- The connection `p` is given away, by the checkout or from the hand. -/
def Gives (p : Nat) (V : Multiset Nat) (T : Option Nat) (V' : Multiset Nat)
    (T' : Option Nat) : Prop :=
  (V = p ::ₘ V' ∧ T' = T) ∨ (T = some p ∧ T' = none ∧ V' = V)

/-- What the outcome of an operation is taken from: the factory's promise, or the
bounded result, which carries an expiry only as a rejection. -/
def Lifecycle.Settled (x : Lifecycle) (outcome : Settlement) : Prop :=
  x.raw = some outcome ∨
    (x.result = some outcome ∧ (x.expired = true → ∃ v, outcome = .fulfilled v))

def Observation.Refusal : Observation → Prop
  | .acquireRefused _ | .operationRefused .. | .releaseRefused .. => True
  | _ => False

/-- A creation which ends without a record: rejected, without an object, or with an
object which the pool already owns. -/
def Fruitless (s : ConnectionPoolRuntime) (c : Nat) : Prop :=
  ∃ o x out, s.operation o = some x ∧ x.purpose = .create c ∧ x.Settled out ∧
    ((∀ r, out ≠ .fulfilled (.object r)) ∨ .duplicate (s.creation c).operation ∈ s.trace)

/-- The pool has reacted on the bounded result of a creation. -/
def Store.Answered (st : Store) (c : Nat) : Prop :=
  ∃ o x, st.operation o = some x ∧ x.purpose = .create c ∧ x.resultHandled = true

open ConnectionPoolRuntime in
inductive Move (cfg : Settings) : Desk → Desk → Prop
  | bookkeeping (s V T) (scheduled requested blocked : Bool) (n : Counters)
      (fs : List FollowUp)
      (hs : scheduled = true → s.pumpScheduled = true ∨ s.dispatch = .stopped) :
      Move cfg ⟨s, V, T⟩ ⟨{ s with
        pumpScheduled := scheduled
        pumpRequestedWhileDispatching := requested
        lowWaterBlocked := blocked
        counters := n
        followUps := fs }, V, T⟩
  | clock (s V T) (t : Time) (h : ∀ last, s.lastClockValue = some last → last ≤ t) :
      Move cfg ⟨s, V, T⟩ ⟨{ s with lastClockValue := some t }.observe (.clockRead t), V, T⟩
  | refuse (s V T) (o : Observation) (h : o.Refusal) :
      Move cfg ⟨s, V, T⟩ ⟨s.observe o, V, T⟩
  | accept (s V T) (n : Nat) (deadline : Time) (hopen : s.state = .opened)
      (hlen : s.waiters.length < cfg.maxWaiters) (hn : 1 ≤ n ∧ n ≤ cfg.maxConnections) :
      Move cfg ⟨s, V, T⟩ ⟨s.pushWaiter n deadline, V, T⟩
  | timer (s V T) (w : Nat) (f : Waiter → Waiter)
      (hf : ∀ x, (f x).count = x.count ∧ (f x).deadline = x.deadline ∧ (f x).active = x.active) :
      Move cfg ⟨s, V, T⟩ ⟨s.updateWaiter w f, V, T⟩
  | aborted (s V T) (w : Nat) (hw : w < s.nextWaiterId) (h : (s.waiter w).active = false) :
      Move cfg ⟨s, V, T⟩ ⟨s.observe (.aborted w), V, T⟩
  | reject (s V T) (w : Nat) (e : Failure) (h : (s.waiter w).active = true) :
      Move cfg ⟨s, V, T⟩ ⟨(s.dequeue w).observe (.acquireRejected w e), V, T⟩
  | shift (s V T) (w : Nat) (rest : List Nat) (hw : s.waiters = w :: rest)
      (h : (s.waiter w).active = false) :
      Move cfg ⟨s, V, T⟩ ⟨{ s with waiters := rest }, V, T⟩
  | creations (s V T) (f : Nat → Creation)
      (hf : ∀ c, (f c).operation = (s.creation c).operation)
      (ht : ∀ c, (f c).terminalError = (s.creation c).terminalError ∨ s.Answered c) :
      Move cfg ⟨s, V, T⟩ ⟨{ s with creation := f }, V, T⟩
  | create (s V T) (owner : Option Nat) (hopen : s.state = .opened)
      (hcap : s.capacity < cfg.maxConnections) :
      Move cfg ⟨s, V, T⟩ ⟨{ s with toStore := s.toStore.startCreation owner }, V, T⟩
  | fruitless (s V T) (c : Nat) (h : Fruitless s c) :
      Move cfg ⟨s, V, T⟩ ⟨{ s with creating := s.creating.erase c }, V, T⟩
  | duplicate (s V T) (c r o : Nat) (x : Lifecycle) (h : s.owns r)
      (ho : s.operation o = some x) (hx : x.purpose = .create c)
      (hs : x.Settled (.fulfilled (.object r))) :
      Move cfg ⟨s, V, T⟩ ⟨s.observe (.duplicate (s.creation c).operation), V, T⟩
  | admitRecord (s V) (c r o : Nat) (x : Lifecycle) (hc : c ∈ s.creating) (hr : ¬ s.owns r)
      (ho : s.operation o = some x) (hx : x.purpose = .create c)
      (hs : x.Settled (.fulfilled (.object r))) :
      Move cfg ⟨s, V, none⟩
        ⟨{ s with
            toStore := { s.toStore with creating := s.creating.erase c }.addRecord r }.observe
          (.admitted (s.creation c).operation s.nextPhysicalId), V, some s.nextPhysicalId⟩
  | cell (s V T) (p : Nat) (f : PhysicalConnection → PhysicalConnection)
      (hf : ∀ x, (f x).resource = x.resource ∧ (f x).state = x.state ∧
        (f x).generation = x.generation ∧ (f x).destroyOperation = x.destroyOperation) :
      Move cfg ⟨s, V, T⟩ ⟨{ s with toStore := s.toStore.updatePhysical p f }, V, T⟩
  | checkout (s T) (n : Nat) :
      Move cfg ⟨s, 0, T⟩ ⟨{ s with toStore := s.toStore.checkout n }, ↑(s.idle.take n), T⟩
  | validate (s V T) (p : Nat) :
      Move cfg ⟨s, V, T⟩
        ⟨{ s with toStore := s.toStore.startPhysicalLifecycle p (.validate p) }, V, T⟩
  | park (s V T V' T') (p : Nat) (waiting : Bool) (hp : p ∈ s.records)
      (h : Gives p V T V' T') (hopen : s.state = .opened) :
      Move cfg ⟨s, V, T⟩ ⟨{ s with toStore := s.toStore.park p waiting }, V', T'⟩
  | drop (s V T V' T') (p : Nat) (hp : p ∉ s.records) (h : Gives p V T V' T') :
      Move cfg ⟨s, V, T⟩ ⟨s, V', T'⟩
  | destroy (s V T V' T') (p : Nat)
      (h : Gives p V T V' T' ∨ (p ∈ s.idle ∧ V' = V ∧ T' = T)) :
      Move cfg ⟨s, V, T⟩ ⟨{ s with toStore := s.toStore.destroy p }, V', T'⟩
  | grant (s V T) (w : Nat) (healthy : List Nat) (t : Time) (hV : V = ↑healthy)
      (hopen : s.state = .opened) (hw : (s.waiter w).active = true)
      (head : s.waiters.head? = some w) (hlen : healthy.length = (s.waiter w).count)
      (ht : s.lastClockValue = some t) (hdue : t < (s.waiter w).deadline) :
      Move cfg ⟨s, V, T⟩
        ⟨{ s.dequeue w with toStore := issueLeases healthy s.toStore }.observe
          (.granted w (List.range' (s.lastLeaseGeneration + 1) healthy.length)), 0, T⟩
  | callbackStart (s V T) (l : Nat) (ha : (s.lease l).active = true)
      (hz : (s.lease l).activeOperations = 0) :
      Move cfg ⟨s, V, T⟩ ⟨{ s with
        toStore := s.toStore.updateLease l .enter
        callbacks := l :: s.callbacks }.observe (.reached l (s.lease l).physical), V, T⟩
  | callbackEnd (s V T) (l : Nat) (h : l ∈ s.callbacks) :
      Move cfg ⟨s, V, T⟩ ⟨s.callbackSettled l, V, T⟩
  | resetStart (s V T) (l : Nat) (ha : (s.lease l).active = true)
      (hz : (s.lease l).activeOperations = 0) :
      Move cfg ⟨s, V, T⟩ ⟨{ s with toStore := s.toStore.startLeaseReset l }, V, T⟩
  | resetEnd (s V T) (l o : Nat) (x : Lifecycle) (ho : s.operation o = some x)
      (hx : x.purpose = .resetLease l) (hi : x.invoked = true) (hh : x.resultHandled = false)
      (hr : x.result.isSome = true) :
      Move cfg ⟨s, V, T⟩ ⟨{ s with
        toStore := (s.toStore.updateOperation o
          { x with resultHandled := true }).endLeaseReset l o }, V, T⟩
  | takeBack (s V) (l : Nat) (ha : (s.lease l).active = true)
      (hz : (s.lease l).activeOperations = 0) :
      Move cfg ⟨s, V, none⟩
        ⟨{ s with toStore := s.toStore.takeBack l }.observe
          (.takenBack l (s.lease l).physical), V, some (s.lease l).physical⟩
  | startReturn (s V) (p : Nat) :
      Move cfg ⟨s, V, some p⟩ ⟨{ s with toStore := s.toStore.startReturn p }, V, none⟩
  | returned (s V) (o p : Nat) (x : Lifecycle) (ho : s.operation o = some x)
      (hx : x.purpose = .resetReturn p) (hh : x.resultHandled = false)
      (hr : x.result.isSome = true) :
      Move cfg ⟨s, V, none⟩
        ⟨{ s with toStore := s.toStore.updateOperation o { x with resultHandled := true } },
          V, some p⟩
  | removeRecord (s V T) (p o : Nat) (x : Lifecycle) (v : FactoryValue) (hp : p ∈ s.records)
      (ho : s.operation o = some x) (hx : x.purpose = .destroy p)
      (hs : x.Settled (.fulfilled v)) :
      Move cfg ⟨s, V, T⟩ ⟨{ s with toStore := s.toStore.removeRecord p o }, V, T⟩
  | invoke (s V T) (o : Nat) (x : Lifecycle) (ho : s.operation o = some x)
      (hi : x.invoked = false) : Move cfg ⟨s, V, T⟩ ⟨s.invoke o x, V, T⟩
  | settle (s V T) (o : Nat) (x : Lifecycle) (out : Settlement)
      (ho : s.operation o = some x) (hi : x.invoked = true) (hr : x.raw = none) :
      Move cfg ⟨s, V, T⟩ ⟨s.settle o x out, V, T⟩
  | expire (s V T) (o : Nat) (x : Lifecycle) (e : Failure) (ho : s.operation o = some x)
      (hr : x.result = none) :
      Move cfg ⟨s, V, T⟩ ⟨{ s with
        toStore := s.toStore.updateOperation o
          { x with expired := true, result := some (.rejected e) } }, V, T⟩
  | handled (s V T) (o : Nat) (x : Lifecycle) (ho : s.operation o = some x)
      (hl : ∀ l, x.purpose ≠ .resetLease l) (hp : ∀ p, x.purpose ≠ .resetReturn p)
      (hr : x.result.isSome = true) :
      Move cfg ⟨s, V, T⟩ ⟨{ s with
        toStore := s.toStore.updateOperation o { x with resultHandled := true } }, V, T⟩
  | rawHandled (s V T) (o : Nat) (x : Lifecycle) (ho : s.operation o = some x) :
      Move cfg ⟨s, V, T⟩ ⟨{ s with
        toStore := s.toStore.updateOperation o { x with rawHandled := true } }, V, T⟩
  | shutdown (s V T) (requested : ConnectionPoolRuntimeState) (hopen : s.state = .opened)
      (h : requested = .retiring ∨ requested = .closing) :
      Move cfg ⟨s, V, T⟩ ⟨{ s with state := requested, closePromise := some .pending }.observe
        (.entered requested), V, T⟩
  | escalate (s V T) (h : s.state = .retiring) :
      Move cfg ⟨s, V, T⟩ ⟨{ s with state := .closing }.observe (.entered .closing), V, T⟩
  | failClose (s V T) (e : Failure) (hs : s.closeSettled = false) (hp : s.closePromise ≠ none) :
      Move cfg ⟨s, V, T⟩
        ⟨{ s with closeSettled := true, closePromise := some (.rejected e) }, V, T⟩
  | close (s V T) (h : s.state = .retiring ∨ s.state = .closing) (hc : s.creating = [])
      (hr : s.records = []) :
      Move cfg ⟨s, V, T⟩ ⟨{ s with
        state := .closed
        closeSettled := true
        closePromise := if s.closeSettled then s.closePromise else some .resolved }.observe
          (.entered .closed), V, T⟩

/-- The dispatch loop proceeds to another point at which it holds the same
connections. It does not start while a pump is scheduled. -/
def Turn (d d' : Desk) : Prop :=
  ∃ D : Dispatch, d.checkout = D.candidates ∧
    (d.pool.dispatch = .stopped → d.pool.pumpScheduled = true → D = .stopped) ∧
    d' = { d with pool := { d.pool with dispatch := D } }

abbrev Moves (cfg : Settings) : Desk → Desk → Prop :=
  Relation.ReflTransGen (Move cfg)

abbrev Jobs (cfg : Settings) : Desk → Desk → Prop :=
  Relation.ReflTransGen fun d d' => Move cfg d d' ∨ Turn d d'

theorem Moves.jobs {cfg : Settings} {d d' : Desk} (h : Moves cfg d d') : Jobs cfg d d' :=
  Relation.ReflTransGen.mono (fun _ _ => Or.inl) _ _ h

theorem Move.dispatch_eq {cfg : Settings} {d d' : Desk} (h : Move cfg d d') :
    d'.pool.dispatch = d.pool.dispatch := by
  cases h with
  | invoke s V T o x =>
      simp only [ConnectionPoolRuntime.invoke, ConnectionPoolRuntime.observeInvocation]
      split <;> rfl
  | settle s V T o x out =>
      simp only [ConnectionPoolRuntime.settle, ConnectionPoolRuntime.observeDelivery]
      split <;> rfl
  | _ => rfl

theorem Moves.dispatch_eq {cfg : Settings} {d d' : Desk} (h : Moves cfg d d') :
    d'.pool.dispatch = d.pool.dispatch := by
  induction h with
  | refl => rfl
  | tail _ hm ih => exact hm.dispatch_eq.trans ih

/-- A job which does not touch the dispatch loop. -/
theorem Moves.desk {cfg : Settings} {s s' : ConnectionPoolRuntime}
    (h : Moves cfg s.desk ⟨s', s.dispatch.candidates, none⟩) : Jobs cfg s.desk s'.desk := by
  have e : s'.desk = ⟨s', s.dispatch.candidates, none⟩ := by
    rw [ConnectionPoolRuntime.desk, h.dispatch_eq]
    rfl
  rw [e]
  exact h.jobs

/-- A job which ends with a turn of the dispatch loop. -/
theorem Moves.turn {cfg : Settings} {d : Desk} {s : ConnectionPoolRuntime} (D : Dispatch)
    (h : Moves cfg d ⟨s, D.candidates, none⟩)
    (hD : s.dispatch = .stopped → s.pumpScheduled = true → D = .stopped) :
    Jobs cfg d { s with dispatch := D }.desk :=
  h.jobs.tail (Or.inr ⟨D, rfl, hD, rfl⟩)

/-- A job which ends with a turn of a dispatch loop which has been running. -/
theorem Moves.running {cfg : Settings} {d : Desk} {s : ConnectionPoolRuntime} (D : Dispatch)
    (h : Moves cfg d ⟨s, D.candidates, none⟩) (hd : d.pool.dispatch ≠ .stopped) :
    Jobs cfg d { s with dispatch := D }.desk :=
  h.turn D fun e => absurd (h.dispatch_eq.symm.trans e) hd

end OpenRfc.Pool
