import Mathlib.Algebra.Order.Ring.Rat

/-!
The pool's physical store: the connections it owns, the creations and lifecycle
operations in progress and the lease tokens it has issued. Objects which the
source compares by identity are cells of a heap, named by their address; the sets
and arrays of the source are lists of addresses in insertion order. An address is
written `p` for a physical connection, `c` for a creation, `w` for a waiter, `l` for
a lease, which is its generation, `o` for an operation and `r` for a resource.

The abort signals of validations, resets and destructions are left out. Nothing in
the pool reads them back; the signal of a creation is read, and is kept.
-/

namespace OpenRfc.Pool

/-- Clock readings and delays, in milliseconds. -/
abbrev Time := ℚ

inductive ConnectionPoolRuntimeState
  | opened
  | retiring
  | closing
  | closed
deriving DecidableEq, Repr

inductive ConnectionPoolRuntimeErrorCode
  | poolClosed
  | poolOverloaded
  | acquireTimeout
  | acquireAborted
  | wrongPool
  | staleLease
  | doubleRelease
  | poolLeaseBusy
  | activeLease
  | lifecycleTimeout
  | poolShutdownTimeout
deriving DecidableEq, Repr

/-- What a promise is rejected with. `foreign` is a value thrown by caller code;
its flag says whether that value is an `Error`. -/
inductive Failure
  | poolError (code : ConnectionPoolRuntimeErrorCode) (message : String)
  | typeError (message : String)
  | rangeError (message : String)
  | error (message : String)
  | foreign (value : Nat) (isError : Bool)
  | caused (message : String) (cause : Failure)
deriving DecidableEq, Repr

def poolError (code : ConnectionPoolRuntimeErrorCode) (message : String) : Failure :=
  .poolError code message

def creationError : Failure → Failure
  | .foreign value false =>
      .caused "connection factory failed with a non-Error value" (.foreign value false)
  | e => e

/-- A number handed in by a caller. -/
inductive JsNumber
  | finite (value : ℚ)
  | nonFinite
deriving DecidableEq, Repr

def maxSafeInteger : Nat := 2 ^ 53 - 1

def maxTimerMs : Nat := 2147483647

def maxEarlyTimeoutRearms : Nat := 64

def integer (value : JsNumber) (minimum maximum : Nat) (path : String) :
    Except Failure { n : Nat // minimum ≤ n ∧ n ≤ maximum } :=
  match value with
  | .finite q =>
      if h : q.den = 1 ∧ |q.num| ≤ maxSafeInteger ∧
          minimum ≤ q.num.toNat ∧ q.num.toNat ≤ maximum ∧ 0 ≤ q.num then
        .ok ⟨q.num.toNat, h.2.2.1, h.2.2.2.1⟩
      else .error (.rangeError s!"{path} must be an integer in {minimum}..{maximum}")
  | .nonFinite => .error (.rangeError s!"{path} must be an integer in {minimum}..{maximum}")

def timeout (value : JsNumber) (path : String) : Except Failure Time :=
  match value with
  | .finite q =>
      if q < 1 ∨ (maxTimerMs : ℚ) < q then
        .error (.rangeError s!"{path} must be finite and in 1..{maxTimerMs}")
      else .ok q
  | .nonFinite => .error (.rangeError s!"{path} must be finite and in 1..{maxTimerMs}")

/-- The fields which the constructor sets, with what it has checked of them. -/
structure Settings where
  maxConnections : Nat
  maxWaiters : Nat
  acquireTimeoutMs : Time
  lifecycleTimeoutMs : Time
  shutdownTimeoutMs : Time
  lowWater : Nat
  idleHigh : Nat
  validateOnCheckout : Bool
  resetOnRelease : Bool
  providesReset : Bool
  maxConnections_pos : 1 ≤ maxConnections
  maxWaiters_pos : 1 ≤ maxWaiters
  lowWater_le : lowWater ≤ idleHigh
  idleHigh_le : idleHigh ≤ maxConnections
  reset_provided : resetOnRelease = true → providesReset = true


inductive PhysicalState
  | idle
  | validating
  | leased
  | resetting
  | closing
deriving DecidableEq, Repr

/-- `destroyOperation` is the operation whose reaction settles `destroyPromise`. -/
structure PhysicalConnection where
  resource : Nat
  state : PhysicalState
  generation : Nat
  recycleIdleHigh : Option Nat
  destroyOperation : Option Nat
  destroyError : Option Failure
  lifecycle : Option Nat
deriving DecidableEq

structure Creation where
  ownerWaiterId : Option Nat
  /-- `controller.signal.aborted` -/
  aborted : Bool
  abortRequested : Bool
  terminalError : Option Failure
  operation : Nat
deriving DecidableEq

structure LeaseRecord where
  physical : Nat
  generation : Nat
  active : Bool
  activeOperations : Nat
deriving DecidableEq

/-- `record.activeOperations += 1` -/
def LeaseRecord.enter (r : LeaseRecord) : LeaseRecord :=
  { r with activeOperations := r.activeOperations + 1 }

/-- `record.activeOperations -= 1` -/
def LeaseRecord.leave (r : LeaseRecord) : LeaseRecord :=
  { r with activeOperations := r.activeOperations - 1 }

/-- Which callback an operation runs, and for whom its result is awaited. -/
inductive Purpose
  | create (creation : Nat)
  | validate (physical : Nat)
  | resetLease (lease : Nat)
  | resetReturn (physical : Nat)
  | destroy (physical : Nat)
deriving DecidableEq

/-- A value which a factory callback resolves with. -/
inductive FactoryValue
  | object (resource : Nat)
  | boolean (value : Bool)
  | other
deriving DecidableEq

inductive Settlement
  | fulfilled (value : FactoryValue)
  | rejected (error : Failure)
deriving DecidableEq

/-- A lifecycle operation. `raw` is the factory's promise, `result` the bounded one;
the two flags say whether the pool's reactions on them have run. -/
structure Lifecycle where
  purpose : Purpose
  expired : Bool
  invoked : Bool
  raw : Option Settlement
  result : Option Settlement
  resultHandled : Bool
  rawHandled : Bool
deriving DecidableEq

structure Store where
  records : List Nat
  physical : Nat → PhysicalConnection
  nextPhysicalId : Nat
  idle : List Nat
  creating : List Nat
  creation : Nat → Creation
  nextCreationId : Nat
  leased : List Nat
  lease : Nat → LeaseRecord
  lastLeaseGeneration : Nat
  operation : Nat → Option Lifecycle
  nextOperationId : Nat

namespace Store

def empty : Store where
  records := []
  physical := fun _ => ⟨0, .closing, 0, none, none, none, none⟩
  nextPhysicalId := 1
  idle := []
  creating := []
  creation := fun _ => ⟨none, false, false, none, 0⟩
  nextCreationId := 1
  leased := []
  lease := fun _ => ⟨0, 0, false, 0⟩
  lastLeaseGeneration := 0
  operation := fun _ => none
  nextOperationId := 1

def updatePhysical (st : Store) (p : Nat)
    (f : PhysicalConnection → PhysicalConnection) : Store :=
  { st with physical := Function.update st.physical p (f (st.physical p)) }

def updateAll (st : Store) (ps : List Nat)
    (f : PhysicalConnection → PhysicalConnection) : Store :=
  ps.foldl (fun st p => st.updatePhysical p f) st

def updateCreation (st : Store) (c : Nat) (f : Creation → Creation) : Store :=
  { st with creation := Function.update st.creation c (f (st.creation c)) }

def updateLease (st : Store) (l : Nat) (f : LeaseRecord → LeaseRecord) : Store :=
  { st with lease := Function.update st.lease l (f (st.lease l)) }

def updateOperation (st : Store) (o : Nat) (h : Lifecycle) : Store :=
  { st with operation := Function.update st.operation o (some h) }

/-- `#startLifecycle`. The factory callback is invoked by a later microtask. -/
def startLifecycle (st : Store) (purpose : Purpose) : Store :=
  { st with
    operation := Function.update st.operation st.nextOperationId
      (some ⟨purpose, false, false, none, none, false, false⟩)
    nextOperationId := st.nextOperationId + 1 }

/-- Start a lifecycle operation on a physical connection and remember its handle. -/
def startPhysicalLifecycle (st : Store) (p : Nat) (purpose : Purpose) : Store :=
  (st.startLifecycle purpose).updatePhysical p
    fun c => { c with lifecycle := some st.nextOperationId }

@[simp] theorem updatePhysical_self (st : Store) (p : Nat)
    (f : PhysicalConnection → PhysicalConnection) :
    (st.updatePhysical p f).physical p = f (st.physical p) := by
  simp [updatePhysical]

@[simp] theorem updatePhysical_ne (st : Store) {p q : Nat}
    (f : PhysicalConnection → PhysicalConnection) (h : q ≠ p) :
    (st.updatePhysical p f).physical q = st.physical q := by
  simp [updatePhysical, h]

@[simp] theorem startLifecycle_physical (st : Store) (purpose : Purpose) :
    (st.startLifecycle purpose).physical = st.physical := rfl

theorem startLifecycle_operation (st : Store) (purpose : Purpose) (o : Nat) :
    (st.startLifecycle purpose).operation o =
      if o = st.nextOperationId then some ⟨purpose, false, false, none, none, false, false⟩
      else st.operation o := by
  by_cases e : o = st.nextOperationId <;> simp [startLifecycle, e]

@[simp] theorem startPhysicalLifecycle_self (st : Store) (p : Nat) (purpose : Purpose) :
    (st.startPhysicalLifecycle p purpose).physical p =
      { st.physical p with lifecycle := some st.nextOperationId } := by
  simp [startPhysicalLifecycle]

@[simp] theorem startPhysicalLifecycle_ne (st : Store) {p q : Nat} (purpose : Purpose)
    (h : q ≠ p) :
    (st.startPhysicalLifecycle p purpose).physical q = st.physical q := by
  simp [startPhysicalLifecycle, h]

theorem startPhysicalLifecycle_operation (st : Store) (p : Nat) (purpose : Purpose) (o : Nat) :
    (st.startPhysicalLifecycle p purpose).operation o =
      if o = st.nextOperationId then some ⟨purpose, false, false, none, none, false, false⟩
      else st.operation o :=
  startLifecycle_operation st purpose o

theorem updateOperation_operation (st : Store) (o : Nat) (h : Lifecycle) (o' : Nat) :
    (st.updateOperation o h).operation o' = if o' = o then some h else st.operation o' := by
  by_cases e : o' = o <;> simp [updateOperation, e]

theorem updateLease_lease (st : Store) (l : Nat) (f : LeaseRecord → LeaseRecord) (k : Nat) :
    (st.updateLease l f).lease k = if k = l then f (st.lease l) else st.lease k := by
  by_cases e : k = l <;> simp [updateLease, e]

/-- `if (physical.lifecycle === lifecycle) physical.lifecycle = undefined` -/
def clearLifecycle (st : Store) (p : Nat) (o : Nat) : Store :=
  if (st.physical p).lifecycle = some o then
    st.updatePhysical p fun c => { c with lifecycle := none }
  else st

def capacity (st : Store) : Nat :=
  st.records.length + st.creating.length

/-- `#resourceRecords.has(resource)` -/
def owns (st : Store) (r : Nat) : Prop :=
  ∃ p ∈ st.records, (st.physical p).resource = r

instance (st : Store) (r : Nat) : Decidable (st.owns r) :=
  inferInstanceAs (Decidable (∃ p ∈ st.records, (st.physical p).resource = r))

def resettingCount (st : Store) : Nat :=
  st.records.countP fun p => (st.physical p).state = .resetting

/-- Creations whose signal has not been aborted. -/
def liveCreations (st : Store) : Nat :=
  st.creating.countP fun c => !(st.creation c).aborted

/-- `#expectedAvailable` -/
def expectedAvailable (st : Store) : Nat :=
  st.idle.length + st.liveCreations + st.resettingCount

/-- `#destroy` up to the reactions on its lifecycle operation. -/
def destroy (st : Store) (p : Nat) : Store :=
  if (st.physical p).destroyOperation.isSome then st
  else
    (({ st with idle := st.idle.erase p }.updatePhysical p
        fun c => { c with state := .closing }).startPhysicalLifecycle p (.destroy p)).updatePhysical
      p fun c => { c with destroyOperation := some st.nextOperationId }

/-- `#destroy` of a connection which has not been destroyed before. -/
theorem destroy_eq {st : Store} {p : Nat} (hd : (st.physical p).destroyOperation = none) :
    st.destroy p = { st with
      idle := st.idle.erase p
      physical := Function.update st.physical p { st.physical p with
        state := .closing
        lifecycle := some st.nextOperationId
        destroyOperation := some st.nextOperationId }
      operation := Function.update st.operation st.nextOperationId
        (some ⟨.destroy p, false, false, none, none, false, false⟩)
      nextOperationId := st.nextOperationId + 1 } := by
  simp [destroy, hd, startPhysicalLifecycle, updatePhysical, startLifecycle]

def destroyAll (st : Store) (ps : List Nat) : Store :=
  ps.foldl destroy st

/-- Put a connection on the idle list. The one-shot recycle policy is kept while a
waiter may still validate the connection. -/
def park (st : Store) (p : Nat) (waiting : Bool) : Store :=
  let st := st.updatePhysical p fun c => { c with state := .idle }
  let st := if p ∈ st.idle then st else { st with idle := st.idle ++ [p] }
  if waiting then st else st.updatePhysical p fun c => { c with recycleIdleHigh := none }

/-- `#abortCreation` -/
def abortCreation (st : Store) (c : Nat) : Store :=
  st.updateCreation c fun x => { x with abortRequested := true, aborted := true }

/-- The loop of `#reconcileCreations`: the oldest live creations serve the head
waiter, the surplus ones are aborted. -/
def reconcileLoop (owner : Option Nat) : List Nat → Nat → Store → Store
  | [], _, st => st
  | c :: cs, needed, st =>
      if (st.creation c).aborted then reconcileLoop owner cs needed st
      else if 0 < needed then
        reconcileLoop owner cs (needed - 1)
          (st.updateCreation c fun x => { x with ownerWaiterId := owner })
      else
        reconcileLoop owner cs needed
          ((st.updateCreation c fun x => { x with ownerWaiterId := none }).abortCreation c)

/-- `#startCreation` once its guard has passed. -/
def startCreation (st : Store) (owner : Option Nat) : Store :=
  { st with
    creating := st.creating ++ [st.nextCreationId]
    creation := Function.update st.creation st.nextCreationId
      ⟨owner, false, false, none, st.nextOperationId⟩
    nextCreationId := st.nextCreationId + 1 }.startLifecycle (.create st.nextCreationId)

/-- A delivered resource becomes a record of the pool. -/
def addRecord (st : Store) (r : Nat) : Store :=
  { st with
    records := st.records ++ [st.nextPhysicalId]
    physical := Function.update st.physical st.nextPhysicalId
      ⟨r, .idle, 0, none, none, none, none⟩
    nextPhysicalId := st.nextPhysicalId + 1 }

/-- The `finish` of `#destroy`. -/
def removeRecord (st : Store) (p : Nat) (o : Nat) : Store :=
  { ((st.updatePhysical p fun c => { c with destroyError := none }).clearLifecycle p o) with
    records := st.records.erase p }

/-- Take connections from the front of the idle list for validation. -/
def checkout (st : Store) (count : Nat) : Store :=
  { st with idle := st.idle.drop count }.updateAll (st.idle.take count)
    fun c => { c with state := .validating }

/-- The checkout of the first idle connection. -/
def checkoutOne (st : Store) (p : Nat) (rest : List Nat) : Store :=
  { st with idle := rest }.updatePhysical p fun c => { c with state := .validating }

/-- `#lease`: issue a token for a connection. -/
def issueLease (st : Store) (p : Nat) : Store :=
  let l := st.lastLeaseGeneration + 1
  { st.updatePhysical p fun c =>
      { c with recycleIdleHigh := none, state := .leased, generation := l } with
    lastLeaseGeneration := l
    leased := st.leased ++ [l]
    lease := Function.update st.lease l ⟨p, l, true, 0⟩ }

/-- The point of `release` where the pool takes the connection back. -/
def takeBack (st : Store) (l : Nat) : Store :=
  { st.updateLease l fun r => { r with active := false } with leased := st.leased.erase l }

/-- `resetActiveLease`: the holder of a lease starts a reset of its connection. -/
def startLeaseReset (st : Store) (l : Nat) : Store :=
  ((st.updateLease l .enter).updatePhysical (st.lease l).physical fun c =>
    { c with state := .resetting }).startPhysicalLifecycle (st.lease l).physical (.resetLease l)

/-- The `finally` of `resetActiveLease`. -/
def endLeaseReset (st : Store) (l : Nat) (o : Nat) : Store :=
  let p := (st.lease l).physical
  let st := (st.updateLease l .leave).clearLifecycle p o
  if (st.lease l).active ∧ (st.physical p).state = .resetting then
    st.updatePhysical p fun c => { c with state := .leased }
  else st

theorem endLeaseReset_frame (st : Store) (l o : Nat) :
    (st.endLeaseReset l o).lease = (st.updateLease l .leave).lease ∧
      (st.endLeaseReset l o).operation = st.operation ∧
      (st.endLeaseReset l o).lastLeaseGeneration = st.lastLeaseGeneration := by
  unfold endLeaseReset clearLifecycle
  dsimp only
  refine ⟨?_, ?_, ?_⟩ <;> split <;> split <;> rfl

/-- `release`: a connection on its way back to the pool is reset. -/
def startReturn (st : Store) (p : Nat) : Store :=
  (st.updatePhysical p fun c => { c with state := .resetting }).startPhysicalLifecycle p
    (.resetReturn p)

/-- The effective bound which `#trimIdleHigh` computes. -/
def effectiveHigh (st : Store) (idleHigh : Nat) : Nat :=
  st.idle.foldl (fun high p => min high ((st.physical p).recycleIdleHigh.getD idleHigh)) idleHigh

/-- The loop of `#trimIdleHigh`. Its fuel is the length of the idle list, which
every iteration shortens. -/
def trimLoop (high : Nat) : Nat → Store → Store
  | 0, st => st
  | fuel + 1, st =>
      if high < st.idle.length then
        match st.idle.getLast? with
        | some p => trimLoop high fuel (st.destroy p)
        | none => st
      else st

/-- `#trimIdleHigh` on an open pool without waiters. -/
def trimIdleHigh (st : Store) (idleHigh : Nat) : Store :=
  let st := trimLoop (st.effectiveHigh idleHigh) st.idle.length st
  st.updateAll st.idle fun c => { c with recycleIdleHigh := none }

/-! What the operations of the store leave alone. -/

theorem park_frame (st : Store) (p : Nat) (waiting : Bool) :
    (st.park p waiting).lease = st.lease ∧
      (st.park p waiting).lastLeaseGeneration = st.lastLeaseGeneration ∧
      (st.park p waiting).operation = st.operation := by
  unfold park
  dsimp only
  refine ⟨?_, ?_, ?_⟩ <;> split <;> split <;> rfl

theorem destroy_frame (st : Store) (p : Nat) :
    (st.destroy p).lease = st.lease ∧
      (st.destroy p).lastLeaseGeneration = st.lastLeaseGeneration := by
  unfold destroy
  refine ⟨?_, ?_⟩ <;> split <;> rfl

theorem updateAll_frame (st : Store) (ps : List Nat)
    (f : PhysicalConnection → PhysicalConnection) :
    (st.updateAll ps f).lease = st.lease ∧
      (st.updateAll ps f).lastLeaseGeneration = st.lastLeaseGeneration ∧
      (st.updateAll ps f).operation = st.operation := by
  induction ps generalizing st with
  | nil => exact ⟨rfl, rfl, rfl⟩
  | cons p ps ih => exact ih (st.updatePhysical p f)

theorem checkout_frame (st : Store) (n : Nat) :
    (st.checkout n).lease = st.lease ∧
      (st.checkout n).lastLeaseGeneration = st.lastLeaseGeneration ∧
      (st.checkout n).operation = st.operation :=
  updateAll_frame { st with idle := st.idle.drop n } _ _

theorem removeRecord_frame (st : Store) (p o : Nat) :
    (st.removeRecord p o).lease = st.lease ∧
      (st.removeRecord p o).lastLeaseGeneration = st.lastLeaseGeneration ∧
      (st.removeRecord p o).operation = st.operation := by
  unfold removeRecord clearLifecycle
  refine ⟨?_, ?_, ?_⟩ <;> dsimp only <;> split <;> rfl

/-- The pool owns the same connections and awaits the same creations, of which only
the operation is compared. -/
structure SameStock (st st' : Store) : Prop where
  records : st'.records = st.records
  nextPhysicalId : st'.nextPhysicalId = st.nextPhysicalId
  creating : st'.creating = st.creating
  nextCreationId : st'.nextCreationId = st.nextCreationId
  creation : ∀ c, (st'.creation c).operation = (st.creation c).operation

theorem SameStock.after {st st' st'' : Store} (h' : SameStock st' st'') (h : SameStock st st') :
    SameStock st st'' :=
  ⟨h'.records.trans h.records, h'.nextPhysicalId.trans h.nextPhysicalId,
    h'.creating.trans h.creating, h'.nextCreationId.trans h.nextCreationId,
    fun c => (h'.creation c).trans (h.creation c)⟩

theorem updateAll_stock (st : Store) (ps : List Nat)
    (f : PhysicalConnection → PhysicalConnection) : SameStock st (st.updateAll ps f) := by
  induction ps generalizing st with
  | nil => exact ⟨rfl, rfl, rfl, rfl, fun _ => rfl⟩
  | cons p ps ih => exact (ih (st.updatePhysical p f)).after ⟨rfl, rfl, rfl, rfl, fun _ => rfl⟩

theorem checkout_stock (st : Store) (n : Nat) : SameStock st (st.checkout n) :=
  (updateAll_stock { st with idle := st.idle.drop n } _ _).after ⟨rfl, rfl, rfl, rfl, fun _ => rfl⟩

theorem clearLifecycle_stock (st : Store) (p o : Nat) : SameStock st (st.clearLifecycle p o) := by
  unfold clearLifecycle
  split <;> exact ⟨rfl, rfl, rfl, rfl, fun _ => rfl⟩

theorem park_stock (st : Store) (p : Nat) (waiting : Bool) :
    SameStock st (st.park p waiting) := by
  unfold park
  dsimp only
  split <;> split <;> exact ⟨rfl, rfl, rfl, rfl, fun _ => rfl⟩

theorem destroy_stock (st : Store) (p : Nat) : SameStock st (st.destroy p) := by
  unfold destroy
  split <;> exact ⟨rfl, rfl, rfl, rfl, fun _ => rfl⟩

theorem endLeaseReset_stock (st : Store) (l o : Nat) : SameStock st (st.endLeaseReset l o) := by
  unfold endLeaseReset
  dsimp only
  have cleared : SameStock st
      ((st.updateLease l .leave).clearLifecycle (st.lease l).physical o) :=
    (clearLifecycle_stock (st.updateLease l .leave) _ o).after ⟨rfl, rfl, rfl, rfl, fun _ => rfl⟩
  split
  · exact ⟨cleared.records, cleared.nextPhysicalId, cleared.creating, cleared.nextCreationId,
      cleared.creation⟩
  · exact cleared

end Store
end OpenRfc.Pool
