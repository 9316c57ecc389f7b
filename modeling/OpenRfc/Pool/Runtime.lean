import OpenRfc.Pool.Store

/-!
The pool's synchronous code: waiters and their timers, the pump, the dispatch loop,
creation outcomes, leases, release and shutdown. Every function here runs without
yielding. A call into caller code which the source follows by re-checking its state
(the clock reads of `#waiterCannotDispatch`) ends one of these functions and starts
the next; the value read is an argument.
-/

namespace OpenRfc.Pool

/-- What a scheduler's `now` does. -/
inductive Reading
  | value (t : Time)
  | nonFinite
  | threw (e : Failure)
deriving DecidableEq

structure Waiter where
  count : Nat
  deadline : Time
  active : Bool
  timeoutGeneration : Nat
  /-- The delay with which the task of the current generation was scheduled. -/
  scheduledRemaining : Time
  earlyTimeoutRearms : Nat
  /-- The microtask which rearms the timer is queued. -/
  rearming : Bool
deriving DecidableEq

/-- A candidate of a checkout, with the outcome of `#validate` once it has one. -/
structure Candidate where
  physical : Nat
  outcome : Option (Bool × Option Failure)
deriving DecidableEq

/-- Where the dispatch loop is suspended. `returned` is the time between the return
of `#dispatch` and the `finally` of `#requestPump`. -/
inductive Dispatch
  | stopped
  | loop
  | clock (waiter : Nat)
  | validating (waiter : Nat) (candidates : List Candidate)
  | finalClock (waiter : Nat) (healthy : List Nat)
  | returned
deriving DecidableEq

def Dispatch.settleCandidate (p : Nat) (outcome : Bool × Option Failure) :
    Dispatch → Dispatch
  | .validating w cs =>
      .validating w
        (cs.map fun c => if c.physical = p then { c with outcome := some outcome } else c)
  | d => d

inductive ShutdownPromise
  | pending
  | resolved
  | rejected (e : Failure)
deriving DecidableEq

/-- What a `release` call awaits after it has taken its connection back. -/
inductive FollowUp
  /-- `await this.#destroy(physical)` of a connection which is not reusable. -/
  | evicted (operation : Nat)
  /-- The destruction after a reset during which the pool was shut down. -/
  | retired (operation : Nat)
  /-- The destruction after a failed reset. -/
  | resetFailed (operation : Nat)
  /-- `await this.#returnToPool(physical)` where the pool destroys the connection. -/
  | trimmed (operation : Nat)
  /-- `await this.#returnToPool(physical)` where the pool keeps the connection. -/
  | parked
deriving DecidableEq

/-- A lease argument: a foreign or forged token, or one which the pool issued. -/
inductive LeaseToken
  | foreign
  | forged
  | issued (lease : Nat)
deriving DecidableEq

inductive Observation
  | acquireRefused (e : Failure)
  | accepted (waiter : Nat) (count : Nat) (deadline : Time)
  | granted (waiter : Nat) (leases : List Nat)
  | acquireRejected (waiter : Nat) (e : Failure)
  | aborted (waiter : Nat)
  | clockRead (t : Time)
  | delivered (operation : Nat) (resource : Nat)
  /-- The object which a creation delivered is already owned by the pool. -/
  | duplicate (operation : Nat)
  | admitted (operation : Nat) (physical : Nat)
  | destroyStarted (physical : Nat)
  | entered (state : ConnectionPoolRuntimeState)
  | operationRefused (token : LeaseToken) (e : Failure)
  /-- A `withActiveLease` callback, or the factory's reset for `resetActiveLease`, is
  started with the resource of a connection. -/
  | reached (lease : Nat) (physical : Nat)
  | releaseRefused (token : LeaseToken) (e : Failure)
  | takenBack (lease : Nat) (physical : Nat)
deriving DecidableEq

structure Queue where
  waiters : List Nat
  waiter : Nat → Waiter
  nextWaiterId : Nat
  lastClockValue : Option Time

structure Pump where
  pumpScheduled : Bool
  dispatch : Dispatch
  pumpRequestedWhileDispatching : Bool
  lowWaterBlocked : Bool

structure Shutdown where
  state : ConnectionPoolRuntimeState
  closePromise : Option ShutdownPromise
  closeSettled : Bool

structure Counters where
  creationFailures : Nat
  creationAborts : Nat
  healthFailures : Nat
  resetFailures : Nat
  destroyFailures : Nat
  lifecycleTimeouts : Nat
  shutdownTimeouts : Nat

/-- `callbacks` holds the lease of every `withActiveLease` callback which has not
settled; `trace` is the history of the run, newest first. -/
structure ConnectionPoolRuntime extends Store, Queue, Pump, Shutdown where
  counters : Counters
  callbacks : List Nat
  followUps : List FollowUp
  trace : List Observation

namespace ConnectionPoolRuntime

def observe (s : ConnectionPoolRuntime) (o : Observation) :
    ConnectionPoolRuntime := { s with trace := o :: s.trace }

def count (s : ConnectionPoolRuntime) (f : Counters → Counters) :
    ConnectionPoolRuntime := { s with counters := f s.counters }

def updateWaiter (s : ConnectionPoolRuntime) (w : Nat) (f : Waiter → Waiter) :
    ConnectionPoolRuntime :=
  { s with waiter := Function.update s.waiter w (f (s.waiter w)) }

def dispatching (s : ConnectionPoolRuntime) : Bool := s.dispatch != .stopped

def requestPump (s : ConnectionPoolRuntime) : ConnectionPoolRuntime :=
  if s.state ≠ .opened then s
  else if s.dispatching then { s with pumpRequestedWhileDispatching := true }
  else if s.pumpScheduled then s
  else { s with pumpScheduled := true }

def failClose (s : ConnectionPoolRuntime) (e : Failure) : ConnectionPoolRuntime :=
  if s.closeSettled ∨ s.closePromise = none then s
  else { s with closeSettled := true, closePromise := some (.rejected e) }

/-- The first terminal error of a creation, then that of a record, rejects the
shutdown promise. -/
def failCloseWith (s : ConnectionPoolRuntime) : Option Failure → ConnectionPoolRuntime
  | some e => s.failClose e
  | none => s

def checkClosed (s : ConnectionPoolRuntime) : ConnectionPoolRuntime :=
  if s.state ≠ .retiring ∧ s.state ≠ .closing then s
  else
    let s := s.failCloseWith (s.creating.findSome? fun c => (s.creation c).terminalError)
    let s := s.failCloseWith (s.records.findSome? fun p => (s.physical p).destroyError)
    if s.creating = [] ∧ s.records = [] then
      { s with
        state := .closed
        closeSettled := true
        closePromise := if s.closeSettled then s.closePromise else some .resolved }.observe
          (.entered .closed)
    else s

/-- `#readClock`: a clock must be finite and monotonic. -/
def readClock (s : ConnectionPoolRuntime) :
    Reading → Except Failure (Time × ConnectionPoolRuntime)
  | .value t =>
      if s.lastClockValue.any fun last => t < last then
        .error (.error "connection pool scheduler clock must be finite and monotonic")
      else .ok (t, { s with lastClockValue := some t }.observe (.clockRead t))
  | .nonFinite =>
      .error (.error "connection pool scheduler clock must be finite and monotonic")
  | .threw e => .error e

/-- The waiter which `#reconcileCreations` serves. -/
def head (s : ConnectionPoolRuntime) : Option Nat :=
  if s.state = .opened then s.waiters.head? else none

/-- How many creations are still of use, by `#reconcileCreations`. -/
def creationsNeeded (cfg : Settings) (s : ConnectionPoolRuntime) : Nat :=
  let desired := match s.head with
    | some w => (s.waiter w).count
    | none => if s.state = .opened ∧ s.lowWaterBlocked = false then cfg.lowWater else 0
  desired - (s.idle.length + s.resettingCount)

/-- `#reconcileCreations` -/
def reconcileCreations (cfg : Settings) (s : ConnectionPoolRuntime) : ConnectionPoolRuntime :=
  { s with toStore := s.toStore.reconcileLoop s.head s.creating (s.creationsNeeded cfg) }

def dequeue (s : ConnectionPoolRuntime) (w : Nat) : ConnectionPoolRuntime :=
  { s.updateWaiter w fun x =>
      { x with active := false, timeoutGeneration := x.timeoutGeneration + 1 } with
    waiters := s.waiters.erase w }

/-- `#cleanupWaiter` of an active waiter. -/
def cleanupWaiter (cfg : Settings) (s : ConnectionPoolRuntime) (w : Nat) :
    ConnectionPoolRuntime :=
  reconcileCreations cfg (s.dequeue w)

/-- `#rejectWaiter` -/
def rejectWaiter (cfg : Settings) (s : ConnectionPoolRuntime) (w : Nat) (e : Failure) :
    ConnectionPoolRuntime :=
  if (s.waiter w).active then
    ((s.cleanupWaiter cfg w).observe (.acquireRejected w e)).requestPump
  else s

/-- `#returnToPool` -/
def returnToPool (cfg : Settings) (s : ConnectionPoolRuntime) (p : Nat) :
    ConnectionPoolRuntime :=
  if p ∉ s.records then s
  else if s.state ≠ .opened then { s with toStore := s.toStore.destroy p }
  else if s.waiters ≠ [] ∨
      s.idle.length < (s.physical p).recycleIdleHigh.getD cfg.idleHigh then
    { s with toStore := s.toStore.park p (s.waiters ≠ []) }
  else
    { s with toStore :=
        (s.toStore.updatePhysical p fun c => { c with recycleIdleHigh := none }).destroy p }

def returnAll (cfg : Settings) (s : ConnectionPoolRuntime) (ps : List Nat) :
    ConnectionPoolRuntime :=
  ps.foldl (fun s p => s.returnToPool cfg p) s

def startCreation (cfg : Settings) (owner : Option Nat) (s : ConnectionPoolRuntime) :
    ConnectionPoolRuntime :=
  if s.state ≠ .opened ∨ cfg.maxConnections ≤ s.capacity then s
  else { s with toStore := s.toStore.startCreation owner }

def startCreations (cfg : Settings) (owner : Option Nat) :
    Nat → ConnectionPoolRuntime → ConnectionPoolRuntime
  | 0, s => s
  | n + 1, s => startCreations cfg owner n (startCreation cfg owner s)

/-- `#ensureWaiterCapacity` -/
def ensureWaiterCapacity (cfg : Settings) (s : ConnectionPoolRuntime) (w : Nat) :
    ConnectionPoolRuntime :=
  let missing := (s.waiter w).count - s.expectedAvailable
  let slots := cfg.maxConnections - s.capacity
  startCreations cfg (some w) (min missing slots) s

/-- `#ensureLowWater` -/
def ensureLowWater (cfg : Settings) (s : ConnectionPoolRuntime) : ConnectionPoolRuntime :=
  if s.lowWaterBlocked ∨ cfg.lowWater = 0 then s
  else
    let missing := cfg.lowWater - s.expectedAvailable
    let slots := cfg.maxConnections - s.capacity
    startCreations cfg none (min missing slots) s

/-- `#trimIdleHigh` -/
def trimIdleHigh (cfg : Settings) (s : ConnectionPoolRuntime) : ConnectionPoolRuntime :=
  if s.state ≠ .opened ∨ s.waiters ≠ [] then s
  else { s with toStore := s.toStore.trimIdleHigh cfg.idleHigh }

/-! Acquisition. -/

/-- What happens while an accepted waiter registers its abort listener and arms its
timer: one of the hooks fails, the signal turns out to be aborted, or the timer is
scheduled after a further clock read. -/
inductive Registration
  | threw (e : Failure)
  | aborted
  | arms (reading : Reading) (scheduleError : Option Failure)

/-- `#armTimeout` of an active waiter of an open pool. -/
def armTimeout (cfg : Settings) (s : ConnectionPoolRuntime) (w : Nat) (reading : Reading)
    (scheduleError : Option Failure) : ConnectionPoolRuntime :=
  match s.readClock reading with
  | .error e => s.rejectWaiter cfg w e
  | .ok (now, s) =>
      let s := s.updateWaiter w fun x =>
        { x with
          timeoutGeneration := x.timeoutGeneration + 1
          scheduledRemaining := max 0 (x.deadline - now)
          rearming := false }
      match scheduleError with
      | some e => s.rejectWaiter cfg w e
      | none => s

def acquireClosed : Failure :=
  poolError .poolClosed "connection pool is closing or closed"

def acquireAborted : Failure :=
  poolError .acquireAborted "connection acquire was aborted"

def acquireTimedOut : Failure :=
  poolError .acquireTimeout "connection acquire timed out"

def acquireOverloaded : Failure :=
  poolError .poolOverloaded "connection pool waiter limit reached"

/-- The checks which `acquire` makes before it reads the clock. -/
def acquireChecks (cfg : Settings) (s : ConnectionPoolRuntime) (number : JsNumber)
    (timeoutMs : Option JsNumber) (initiallyAborted : Bool) : Except Failure (Nat × Time) := do
  let n ← integer number 1 cfg.maxConnections "acquire count"
  let ms ← timeout (timeoutMs.getD (.finite cfg.acquireTimeoutMs)) "acquire timeoutMs"
  if s.state ≠ .opened then throw acquireClosed
  if initiallyAborted then throw acquireAborted
  if cfg.maxWaiters ≤ s.waiters.length then throw acquireOverloaded
  return (n.1, ms)

/-- A failed check is reported as such while the pool is open. -/
def acquireRefusal (s : ConnectionPoolRuntime) (e : Failure) : Failure :=
  if s.state = .opened then e else acquireClosed

/-- Queue a waiter whose checks have passed. -/
def pushWaiter (s : ConnectionPoolRuntime) (n : Nat) (deadline : Time) :
    ConnectionPoolRuntime :=
  { s with
    waiter := Function.update s.waiter s.nextWaiterId ⟨n, deadline, true, 0, 0, 0, false⟩
    waiters := s.waiters ++ [s.nextWaiterId]
    nextWaiterId := s.nextWaiterId + 1
    lowWaterBlocked := false }.observe (.accepted s.nextWaiterId n deadline)

/-- The abort listener of a waiter. -/
def abort (cfg : Settings) (s : ConnectionPoolRuntime) (w : Nat) : ConnectionPoolRuntime :=
  (s.rejectWaiter cfg w acquireAborted).observe (.aborted w)

def register (cfg : Settings) (s : ConnectionPoolRuntime) (w : Nat) :
    Registration → ConnectionPoolRuntime
  | .threw e => s.rejectWaiter cfg w e
  | .aborted => s.abort cfg w
  | .arms reading scheduleError => s.armTimeout cfg w reading scheduleError

/-- `acquire`. Caller code which runs during its first clock read may change the pool;
the source repeats its checks afterwards, so such a run is one where that code ran
before the call. -/
def acquire (cfg : Settings) (s : ConnectionPoolRuntime) (number : JsNumber)
    (timeoutMs : Option JsNumber)
    (initiallyAborted : Bool) (reading : Reading) (registration : Registration) : ConnectionPoolRuntime :=
  match s.acquireChecks cfg number timeoutMs initiallyAborted with
  | .error e => s.observe (.acquireRefused (s.acquireRefusal e))
  | .ok (n, ms) =>
      match s.readClock reading with
      | .error e => s.observe (.acquireRefused (s.acquireRefusal e))
      | .ok (now, s) =>
          ((s.pushWaiter n (now + ms)).register cfg s.nextWaiterId registration).requestPump

/-- `#handleTimeout` of the current generation of an active waiter. -/
def handleTimeout (cfg : Settings) (s : ConnectionPoolRuntime) (w : Nat) (reading : Reading) :
    ConnectionPoolRuntime :=
  match s.readClock reading with
  | .error e => s.rejectWaiter cfg w e
  | .ok (now, s) =>
      let x := s.waiter w
      if s.state ≠ .opened then s.rejectWaiter cfg w acquireClosed
      else if 0 < x.deadline - now then
        if x.scheduledRemaining ≤ x.deadline - now ∨
            maxEarlyTimeoutRearms < x.earlyTimeoutRearms + 1 then
          (s.updateWaiter w fun x =>
              { x with earlyTimeoutRearms := x.earlyTimeoutRearms + 1 }).rejectWaiter cfg w
            (.error
              "connection pool scheduler fired acquire timeout before its deadline without bounded progress")
        else
          s.updateWaiter w fun x =>
            { x with
              earlyTimeoutRearms := x.earlyTimeoutRearms + 1
              timeoutGeneration := x.timeoutGeneration + 1
              rearming := true }
      else s.rejectWaiter cfg w acquireTimedOut

/-- The microtask which rearms a timer that fired early. -/
def rearm (cfg : Settings) (s : ConnectionPoolRuntime) (w : Nat) (reading : Reading)
    (scheduleError : Option Failure) : ConnectionPoolRuntime :=
  if s.state ≠ .opened then s.rejectWaiter cfg w acquireClosed
  else s.armTimeout cfg w reading scheduleError

/-! Dispatch. -/

/-- `#waiterCannotDispatch` from its clock read on. -/
def waiterCannotDispatch (cfg : Settings) (s : ConnectionPoolRuntime) (w : Nat)
    (reading : Reading) :
    Bool × ConnectionPoolRuntime :=
  match s.readClock reading with
  | .error e =>
      (true, if s.state = .opened ∧ (s.waiter w).active ∧ s.waiters.head? = some w then
        s.rejectWaiter cfg w e else s)
  | .ok (now, s) =>
      if s.state ≠ .opened ∨ (s.waiter w).active = false ∨ s.waiters.head? ≠ some w then
        (true, s)
      else if now < (s.waiter w).deadline then (false, s)
      else (true, s.rejectWaiter cfg w acquireTimedOut)

/-- The top of the dispatch loop. -/
def dispatchLoop (cfg : Settings) (s : ConnectionPoolRuntime) : ConnectionPoolRuntime :=
  if s.state ≠ .opened then { s with dispatch := .returned }
  else
    match s.waiters with
    | [] => { (s.trimIdleHigh cfg).ensureLowWater cfg with dispatch := .returned }
    | w :: rest =>
        if (s.waiter w).active then { s with dispatch := .clock w }
        else { s with waiters := rest }

/-- `#validate` up to its first await, for one candidate. -/
def startValidation (cfg : Settings) (s : ConnectionPoolRuntime) (p : Nat) :
    Candidate × ConnectionPoolRuntime :=
  if cfg.validateOnCheckout then
    (⟨p, none⟩, { s with toStore := s.toStore.startPhysicalLifecycle p (.validate p) })
  else (⟨p, some (true, none)⟩, s)

def startValidations (cfg : Settings) :
    List Nat → ConnectionPoolRuntime → List Candidate × ConnectionPoolRuntime
  | [], s => ([], s)
  | p :: ps, s =>
      let (c, s) := startValidation cfg s p
      let (cs, s) := startValidations cfg ps s
      (c :: cs, s)

/-- The loop body after the first clock read. -/
def dispatchClock (cfg : Settings) (s : ConnectionPoolRuntime) (w : Nat) (reading : Reading) :
    ConnectionPoolRuntime :=
  match s.waiterCannotDispatch cfg w reading with
  | (true, s) => { s with dispatch := .loop }
  | (false, s) =>
      if s.idle.length < (s.waiter w).count then
        { s.ensureWaiterCapacity cfg w with dispatch := .returned }
      else
        let ps := s.idle.take (s.waiter w).count
        let (cs, s) := startValidations cfg ps
          { s with toStore := s.toStore.checkout (s.waiter w).count }
        { s with dispatch := .validating w cs }

def healthyOf (cs : List Candidate) : List Nat :=
  (cs.filter fun c => c.outcome.any (·.1)).map (·.physical)

def unhealthyOf (cs : List Candidate) : List Nat :=
  (cs.filter fun c => !c.outcome.any (·.1)).map (·.physical)

def validationError (cs : List Candidate) : Option Failure :=
  cs.findSome? fun c => c.outcome.bind (·.2)

/-- The healthy rest of a failed checkout flows back. -/
def giveUp (cfg : Settings) (s : ConnectionPoolRuntime) (healthy : List Nat) :
    ConnectionPoolRuntime :=
  let s := s.returnAll cfg healthy
  { (if s.state ≠ .opened then s.checkClosed else s) with dispatch := .loop }

/-- The loop body after `Promise.all`. -/
def dispatchValidated (cfg : Settings) (s : ConnectionPoolRuntime) (w : Nat)
    (cs : List Candidate) : ConnectionPoolRuntime :=
  let s := { s with toStore := s.toStore.destroyAll (unhealthyOf cs) }
  match validationError cs with
  | some e =>
      let s := s.returnAll cfg (healthyOf cs)
      { s.rejectWaiter cfg w e with dispatch := .loop }
  | none =>
      if s.state ≠ .opened ∨ (s.waiter w).active = false ∨ s.waiters.head? ≠ some w then
        s.giveUp cfg (healthyOf cs)
      else { s with dispatch := .finalClock w (healthyOf cs) }

def issueLeases (ps : List Nat) (st : Store) : Store :=
  ps.foldl Store.issueLease st

def closedDuringCheckout : Failure :=
  poolError .poolClosed "connection pool closed during checkout"

/-- The loop body after the second clock read: the grant, if it is still due. -/
def dispatchFinal (cfg : Settings) (s : ConnectionPoolRuntime) (w : Nat) (healthy : List Nat)
    (reading : Reading) : ConnectionPoolRuntime :=
  match s.waiterCannotDispatch cfg w reading with
  | (true, s) => s.giveUp cfg healthy
  | (false, s) =>
      if healthy.length ≠ (s.waiter w).count then
        { s.returnAll cfg healthy with dispatch := .loop }
      else
        let s := s.cleanupWaiter cfg w
        if s.state ≠ .opened then
          let s := (s.returnAll cfg healthy).observe (.acquireRejected w closedDuringCheckout)
          { s.requestPump.checkClosed with dispatch := .loop }
        else
          let leases := List.range' (s.lastLeaseGeneration + 1) healthy.length
          { s with toStore := issueLeases healthy s.toStore, dispatch := .loop }.observe
            (.granted w leases)

/-- The microtask of `#requestPump`. -/
def pump (s : ConnectionPoolRuntime) : ConnectionPoolRuntime :=
  let s := { s with pumpScheduled := false }
  if s.state ≠ .opened ∨ s.dispatching then s
  else { s with dispatch := .loop, pumpRequestedWhileDispatching := false }

/-- The `finally` of `#requestPump`. -/
def dispatchFinally (s : ConnectionPoolRuntime) : ConnectionPoolRuntime :=
  let s := { s with dispatch := .stopped }
  if s.pumpRequestedWhileDispatching then s.requestPump else s

/-! Outcomes of creations. -/

/-- The active waiter, if any, for which a creation was started is rejected. -/
def rejectOwner (cfg : Settings) (s : ConnectionPoolRuntime) (owner : Option Nat)
    (e : Failure) : ConnectionPoolRuntime :=
  match s.waiters.find? fun w => owner = some w ∧ (s.waiter w).active with
  | some w => s.rejectWaiter cfg w (creationError e)
  | none => s

/-- `#creationFailedAfterRemoval` -/
def creationFailedAfterRemoval (cfg : Settings) (s : ConnectionPoolRuntime) (c : Nat)
    (e : Failure) : ConnectionPoolRuntime :=
  let x := s.creation c
  let s := s.count fun n => if x.aborted then { n with creationAborts := n.creationAborts + 1 }
    else { n with creationFailures := n.creationFailures + 1 }
  ({ s with lowWaterBlocked := true }.rejectOwner cfg x.ownerWaiterId e).requestPump.checkClosed

/-- `#creationFailed` -/
def creationFailed (cfg : Settings) (s : ConnectionPoolRuntime) (c : Nat) (e : Failure)
    (late : Bool) :
    ConnectionPoolRuntime :=
  if c ∉ s.creating then s
  else
    let s := { s with creating := s.creating.erase c }
    if late then s.requestPump.checkClosed else s.creationFailedAfterRemoval cfg c e

/-- `#creationExpired` -/
def creationExpired (cfg : Settings) (s : ConnectionPoolRuntime) (c : Nat) (e : Failure) :
    ConnectionPoolRuntime :=
  if c ∉ s.creating ∨ (s.creation c).terminalError ≠ none then s
  else
    let x := s.creation c
    let s := { s with
      toStore := s.toStore.updateCreation c fun x => { x with terminalError := some e } }
    let s := s.count fun n =>
      if x.abortRequested then { n with creationAborts := n.creationAborts + 1 }
      else { n with creationFailures := n.creationFailures + 1 }
    let s := { s with lowWaterBlocked := true }.rejectOwner cfg x.ownerWaiterId e
    (if s.state ≠ .opened then s.failClose e else s).requestPump.checkClosed

/-- A fresh record goes to the pool or, if its creation was aborted or the pool is no
longer open, is destroyed. -/
def placeRecord (cfg : Settings) (s : ConnectionPoolRuntime) (p : Nat) (aborted late : Bool) :
    ConnectionPoolRuntime :=
  if aborted then
    let s := s.count fun n =>
      if late then n else { n with creationAborts := n.creationAborts + 1 }
    { s with toStore := s.toStore.destroy p }.requestPump.checkClosed
  else
    let s := { s with lowWaterBlocked := false }
    if s.state ≠ .opened then { s with toStore := s.toStore.destroy p }.requestPump.checkClosed
    else (s.returnToPool cfg p).requestPump.checkClosed

/-- A delivered resource which is not yet owned becomes a record of the pool. -/
def admitRecord (cfg : Settings) (s : ConnectionPoolRuntime) (c : Nat) (r : Nat) (late : Bool) :
    ConnectionPoolRuntime :=
  let admitted := { s with toStore := s.toStore.addRecord r }.observe
    (.admitted (s.creation c).operation s.nextPhysicalId)
  admitted.placeRecord cfg s.nextPhysicalId (s.creation c).aborted late

/-- `#creationSucceeded` -/
def creationSucceeded (cfg : Settings) (s : ConnectionPoolRuntime) (c : Nat)
    (value : FactoryValue)
    (late : Bool) : ConnectionPoolRuntime :=
  if c ∉ s.creating then s
  else
    let s := { s with creating := s.creating.erase c }
    match value with
    | .object r =>
        if s.owns r then
          let s := s.observe (.duplicate (s.creation c).operation)
          if late then s.requestPump.checkClosed
          else s.creationFailedAfterRemoval cfg c
            (.error "connection factory returned a resource already owned by the pool")
        else s.admitRecord cfg c r late
    | _ =>
        if late then s.requestPump.checkClosed
        else s.creationFailedAfterRemoval cfg c
          (.typeError "connection factory must create a non-null object")

/-! Destruction, leases and release. -/

/-- The `finish` of `#destroy`. -/
def finishDestroy (s : ConnectionPoolRuntime) (p : Nat) (o : Nat) : ConnectionPoolRuntime :=
  if p ∉ s.records then s
  else { s with toStore := s.toStore.removeRecord p o }.requestPump.checkClosed

/-- The rejection handler of `#destroy`. -/
def destroyRejected (s : ConnectionPoolRuntime) (p : Nat) (e : Failure) :
    ConnectionPoolRuntime :=
  let s := s.count fun n => { n with destroyFailures := n.destroyFailures + 1 }
  let s := { s with
    toStore := s.toStore.updatePhysical p fun c => { c with destroyError := some e } }
  let s := if s.state ≠ .opened then s.failClose e else s
  s.requestPump.checkClosed

/-- `#activeLeaseRecord` -/
def activeLeaseRecord (s : ConnectionPoolRuntime) : LeaseToken → Except Failure Nat
  | .foreign => .error (poolError .wrongPool "lease does not belong to this pool")
  | .forged => .error (poolError .staleLease "lease token is not recognized")
  | .issued l =>
      if l = 0 ∨ s.lastLeaseGeneration < l then
        .error (poolError .staleLease "lease token is not recognized")
      else if (s.lease l).active then .ok l
      else if (s.physical (s.lease l).physical).generation ≠ (s.lease l).generation then
        .error (poolError .staleLease "lease generation is stale")
      else .error (poolError .doubleRelease "lease was already released")

def leaseBusy : Failure :=
  poolError .poolLeaseBusy "connection lease already has an active operation"

def leaseActive : Failure :=
  poolError .activeLease "connection lease has an active operation"

def withActiveLease (s : ConnectionPoolRuntime) (token : LeaseToken) : ConnectionPoolRuntime :=
  match s.activeLeaseRecord token with
  | .error e => s.observe (.operationRefused token e)
  | .ok l =>
      if s.state = .closing ∨ s.state = .closed then
        s.observe (.operationRefused token acquireClosed)
      else if (s.lease l).activeOperations ≠ 0 then
        s.observe (.operationRefused token leaseBusy)
      else
        { s with
          toStore := s.toStore.updateLease l .enter
          callbacks := l :: s.callbacks }.observe (.reached l (s.lease l).physical)

/-- The callback of `withActiveLease` settles. -/
def callbackSettled (s : ConnectionPoolRuntime) (l : Nat) : ConnectionPoolRuntime :=
  { s with
    toStore := s.toStore.updateLease l .leave
    callbacks := s.callbacks.erase l }

/-- `resetActiveLease` up to its await. -/
def resetActiveLease (cfg : Settings) (s : ConnectionPoolRuntime) (token : LeaseToken) :
    ConnectionPoolRuntime :=
  match s.activeLeaseRecord token with
  | .error e => s.observe (.operationRefused token e)
  | .ok l =>
      if s.state ≠ .opened then s.observe (.operationRefused token acquireClosed)
      else if cfg.providesReset = false then
        s.observe (.operationRefused token
          (.typeError "connection pool factory does not provide reset"))
      else if (s.lease l).activeOperations ≠ 0 then
        s.observe (.operationRefused token leaseBusy)
      else
        { s with toStore := s.toStore.startLeaseReset l }

/-- The `catch` and `finally` of `resetActiveLease`. -/
def resetLeaseSettled (s : ConnectionPoolRuntime) (l : Nat) (o : Nat) (failed : Bool) :
    ConnectionPoolRuntime :=
  { s with toStore := s.toStore.endLeaseReset l o }.count fun n =>
    if failed then { n with resetFailures := n.resetFailures + 1 } else n

def followUp (s : ConnectionPoolRuntime) (f : FollowUp) :
    ConnectionPoolRuntime := { s with followUps := s.followUps ++ [f] }

/-- The end of a `release` whose connection is reusable. -/
def finishReturn (cfg : Settings) (s : ConnectionPoolRuntime) (p : Nat) :
    ConnectionPoolRuntime :=
  let s := { s with lowWaterBlocked := false }.returnToPool cfg p
  match (s.physical p).destroyOperation with
  | some o => s.followUp (.trimmed o)
  | none => s.followUp .parked

/-- Destroy a connection on behalf of a `release` call, which then awaits it. -/
def destroyFor (s : ConnectionPoolRuntime) (p : Nat) (f : Nat → FollowUp) :
    ConnectionPoolRuntime :=
  let s := { s with toStore := s.toStore.destroy p }
  s.followUp (f ((s.physical p).destroyOperation.getD 0))

def releaseIdleHigh (cfg : Settings) : Option JsNumber → Except Failure (Option Nat)
  | none => .ok none
  | some value => (integer value 0 cfg.maxConnections "release idleHigh").map fun n => some n.1

/-- `release` up to its first await. -/
def release (cfg : Settings) (s : ConnectionPoolRuntime) (token : LeaseToken)
    (reusable : Option Bool)
    (idleHigh : Option JsNumber) : ConnectionPoolRuntime :=
  match releaseIdleHigh cfg idleHigh with
  | .error e => s.observe (.releaseRefused token e)
  | .ok recycleIdleHigh =>
      match s.activeLeaseRecord token with
      | .error e => s.observe (.releaseRefused token e)
      | .ok l =>
          if (s.lease l).activeOperations ≠ 0 then
            s.observe (.releaseRefused token leaseActive)
          else
            let p := (s.lease l).physical
            let s := { s with toStore := s.toStore.takeBack l }.observe (.takenBack l p)
            if reusable.getD true = false ∨ s.state ≠ .opened then s.destroyFor p .evicted
            else
              let s := { s with
                toStore := s.toStore.updatePhysical p
                  fun c => { c with recycleIdleHigh := recycleIdleHigh } }
              if cfg.resetOnRelease then
                { s with toStore := s.toStore.startReturn p }
              else s.finishReturn cfg p

/-- The continuation of `release` after the reset of its connection. -/
def resetReturnSettled (cfg : Settings) (s : ConnectionPoolRuntime) (p : Nat) (o : Nat)
    (failed : Bool) : ConnectionPoolRuntime :=
  if failed then
    (s.count fun n => { n with resetFailures := n.resetFailures + 1 }).destroyFor p .resetFailed
  else
    let s := { s with toStore := s.toStore.clearLifecycle p o }
    if s.state ≠ .opened then s.destroyFor p .retired else s.finishReturn cfg p

/-- The continuation of `release` after its last await. -/
def resumeRelease (s : ConnectionPoolRuntime) : FollowUp → Bool → ConnectionPoolRuntime
  | .evicted _, false => s.requestPump.checkClosed
  | .retired _, false => s.checkClosed
  | .resetFailed _, _ => s.requestPump
  | .trimmed _, false => s.requestPump
  | .parked, _ => s.requestPump
  | _, true => s

/-- The outcome of one candidate's validation reaches the dispatch loop. -/
def validated (s : ConnectionPoolRuntime) (p : Nat) (outcome : Bool × Option Failure) :
    ConnectionPoolRuntime :=
  { s with dispatch := s.dispatch.settleCandidate p outcome }

def countHealthFailure (s : ConnectionPoolRuntime) : ConnectionPoolRuntime :=
  s.count fun n => { n with healthFailures := n.healthFailures + 1 }

/-- The continuation of `#validate` after its await. -/
def validationSettled (s : ConnectionPoolRuntime) (p : Nat) (o : Nat) (expired : Bool)
    (outcome : Settlement) : ConnectionPoolRuntime :=
  let s := { s with toStore := s.toStore.clearLifecycle p o }
  match outcome with
  | .fulfilled (.boolean true) => s.validated p (true, none)
  | .fulfilled _ => s.countHealthFailure.validated p (false, none)
  | .rejected e => s.countHealthFailure.validated p (false, if expired then some e else none)

/-! Shutdown. -/

def rejectAll (cfg : Settings) (e : Failure) :
    List Nat → ConnectionPoolRuntime → ConnectionPoolRuntime
  | [], s => s
  | w :: ws, s => rejectAll cfg e ws (s.rejectWaiter cfg w e)

def abortAll (cs : List Nat) (st : Store) : Store :=
  cs.foldl Store.abortCreation st

/-- The part of `#beginShutdown` which an open pool executes. `deadlineError` is the
failure, if any, of scheduling the shutdown deadline. -/
def startShutdown (cfg : Settings) (s : ConnectionPoolRuntime)
    (requested : ConnectionPoolRuntimeState)
    (deadlineError : Option Failure) : ConnectionPoolRuntime :=
  let s := { s with state := requested, closePromise := some .pending }.observe
    (.entered requested)
  let s := s.failCloseWith deadlineError
  let s := rejectAll cfg (poolError .poolClosed "connection pool stopped while waiting")
    s.waiters s
  let s := { s with toStore := abortAll s.creating s.toStore }
  let s := { s with toStore := s.toStore.destroyAll s.idle }
  s.checkClosed

/-- `#beginShutdown`. Calls with an inadmissible timeout throw and change nothing. -/
def beginShutdown (cfg : Settings) (s : ConnectionPoolRuntime) (closing : Bool)
    (timeoutMs : Option JsNumber)
    (deadlineError : Option Failure) : ConnectionPoolRuntime :=
  match timeout (timeoutMs.getD (.finite cfg.shutdownTimeoutMs)) "shutdown timeoutMs" with
  | .error _ => s
  | .ok _ =>
      match s.state with
      | .closed | .closing => s
      | .retiring =>
          if closing then { s with state := .closing }.observe (.entered .closing) else s
      | .opened => s.startShutdown cfg (if closing then .closing else .retiring) deadlineError

/-- The shutdown deadline expires. -/
def shutdownExpired (s : ConnectionPoolRuntime) (e : Failure) : ConnectionPoolRuntime :=
  (s.count fun n => match e with
    | .poolError .poolShutdownTimeout _ => { n with shutdownTimeouts := n.shutdownTimeouts + 1 }
    | _ => n).failClose e

end ConnectionPoolRuntime
end OpenRfc.Pool
