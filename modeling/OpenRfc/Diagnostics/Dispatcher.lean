import OpenRfc.Foundation.Machine

/-!
The dispatcher of diagnostic events. Emitters fill a bounded queue, a microtask starts to drain it,
and each event is handed to the sink once the write before it has settled. Emitters, flushes and
the end of the dispatcher come at any time, also from within a write.
-/

namespace OpenRfc.Diagnostics

inductive RfcDiagnosticCategory
  | call
  | metadata
  | network
  | lifecycle
  | pool
  | locking
  | performance
deriving DecidableEq, Repr

/-- `RFC_DIAGNOSTIC_CATEGORIES` -/
def rfcDiagnosticCategories : List RfcDiagnosticCategory :=
  [.call, .metadata, .network, .lifecycle, .pool, .locking, .performance]

inductive RfcDiagnosticLevel
  | error
  | warn
  | info
  | debug
  | trace
deriving DecidableEq, Repr

/-- `LEVEL_INDEX` -/
def RfcDiagnosticLevel.index : RfcDiagnosticLevel → Nat
  | error => 0
  | warn => 1
  | info => 2
  | debug => 3
  | trace => 4

/-- An input whose fields have been checked, with the fields which the dispatcher does not read. -/
structure RfcDiagnosticInput (δ : Type) where
  category : RfcDiagnosticCategory
  level : RfcDiagnosticLevel
  details : δ
deriving DecidableEq, Repr

structure RfcDiagnosticEvent (δ : Type) where
  sequence : Nat
  timestamp : String
  input : RfcDiagnosticInput δ
deriving DecidableEq, Repr

structure RfcDiagnosticDispatcherOptions where
  maxQueued : Nat := 1024
  levels : RfcDiagnosticCategory → RfcDiagnosticLevel := fun _ => .info
  sinkCloses : Bool := false
  positive : 1 ≤ maxQueued
  bounded : maxQueued ≤ 65536

/-- A call of `flush`, and the number of the events which have been accepted before it. -/
structure FlushCall where
  id : Nat
  acceptedBefore : Nat
deriving DecidableEq, Repr

/-- What `#finishClose` waits for. -/
inductive ClosePhase
  | flushing (call : FlushCall)
  | closingSink
  | done
deriving DecidableEq, Repr

structure RfcDiagnosticDispatcher (δ : Type) where
  maxQueued : Nat
  sinkCloses : Bool
  levels : RfcDiagnosticCategory → RfcDiagnosticLevel
  queue : List (RfcDiagnosticEvent δ) := []
  flushWaiters : List FlushCall := []
  droppedByCategory : RfcDiagnosticCategory → Nat := fun _ => 0
  sequence : Nat := 0
  scheduled : Bool := false
  draining : Bool := false
  closed : Bool := false
  closing : Option ClosePhase := none
  accepted : Nat := 0
  delivered : Nat := 0
  filtered : Nat := 0
  dropped : Nat := 0
  sinkFailures : Nat := 0
  /-- The microtasks which have been queued and have not run. -/
  microtasks : Nat := 0
  /-- The writes which have been called and have not settled. -/
  writing : List (RfcDiagnosticEvent δ) := []
  -- what has happened so far
  acceptedEvents : List (RfcDiagnosticEvent δ) := []
  written : List (RfcDiagnosticEvent δ) := []
  settled : List (RfcDiagnosticEvent δ) := []
  failedWrites : Nat := 0
  failedCloses : Nat := 0
  flushCount : Nat := 0
  flushed : List FlushCall := []
  closeCalls : List Nat := []

variable {δ : Type}

namespace RfcDiagnosticDispatcher
variable (s : RfcDiagnosticDispatcher δ)

def scheduleDrain : RfcDiagnosticDispatcher δ :=
  if s.scheduled ∨ s.draining then s
  else { s with scheduled := true, microtasks := s.microtasks + 1 }

def setLevel (category : RfcDiagnosticCategory) (level : RfcDiagnosticLevel) :
    Except String Unit × RfcDiagnosticDispatcher δ :=
  if s.closed then (.error "diagnostic dispatcher is closed", s)
  else (.ok (), { s with levels := Function.update s.levels category level })

/-- An input which fails its checks is thrown back. -/
def emit (timestamp : String) (input : Except String (RfcDiagnosticInput δ)) :
    Except String Bool × RfcDiagnosticDispatcher δ :=
  if s.closed then (.error "diagnostic dispatcher is closed", s)
  else
    match input with
    | .error message => (.error message, s)
    | .ok snapshot =>
      if (s.levels snapshot.category).index < snapshot.level.index then
        (.ok false, { s with filtered := s.filtered + 1 })
      else if s.maxQueued ≤ s.queue.length then
        (.ok false, { s with
          dropped := s.dropped + 1
          droppedByCategory := Function.update s.droppedByCategory snapshot.category
            (s.droppedByCategory snapshot.category + 1) })
      else
        let event := ⟨s.sequence + 1, timestamp, snapshot⟩
        (.ok true, scheduleDrain { s with
          sequence := s.sequence + 1
          queue := s.queue ++ [event]
          accepted := s.accepted + 1
          acceptedEvents := s.acceptedEvents ++ [event] })

/-- The call, and the dispatcher with its waiter unless the call returns at once. -/
def flush : FlushCall × RfcDiagnosticDispatcher δ :=
  let call := ⟨s.flushCount, s.accepted⟩
  let s := { s with flushCount := s.flushCount + 1 }
  if ¬s.scheduled ∧ ¬s.draining ∧ s.queue = [] then (call, { s with flushed := call :: s.flushed })
  else (call, { s with flushWaiters := s.flushWaiters ++ [call] })

/-- Every call returns the one promise of `#closing`. -/
def close : RfcDiagnosticDispatcher δ :=
  let s := { s with closeCalls := s.accepted :: s.closeCalls }
  match s.closing with
  | some _ => s
  | none =>
    let (call, s) := flush { s with closed := true }
    { s with closing := some (.flushing call) }

/-- `#finishClose`, behind its flush -/
def finishClose : Option (RfcDiagnosticDispatcher δ) :=
  match s.closing with
  | some (.flushing call) =>
    if call ∈ s.flushed then
      some { s with closing := some (if s.sinkCloses then .closingSink else .done) }
    else none
  | _ => none

/-- The end of `sink.close`, which may have thrown. -/
def sinkClosed (closed : Bool) : Option (RfcDiagnosticDispatcher δ) :=
  match s.closing with
  | some .closingSink =>
    some (if closed then { s with closing := some .done }
      else { s with
        closing := some .done
        sinkFailures := s.sinkFailures + 1
        failedCloses := s.failedCloses + 1 })
  | _ => none

/-- The `finally` of `#drain` -/
def endDrain : RfcDiagnosticDispatcher δ :=
  let s := { s with draining := false }
  if s.queue ≠ [] then s.scheduleDrain
  else { s with flushed := s.flushWaiters ++ s.flushed, flushWaiters := [] }

/-- The loop of `#drain`, up to the next write. -/
def drainLoop : RfcDiagnosticDispatcher δ :=
  match s.queue with
  | [] => s.endDrain
  | event :: queue =>
    { s with queue := queue, writing := s.writing ++ [event], written := s.written ++ [event] }

def drain : RfcDiagnosticDispatcher δ :=
  if s.draining then s else drainLoop { s with draining := true }

/-- The microtask which `#scheduleDrain` has queued. -/
def microtask : Option (RfcDiagnosticDispatcher δ) :=
  if s.microtasks = 0 then none
  else some (drain { s with microtasks := s.microtasks - 1, scheduled := false })

/-- A write settles, or throws, and its loop goes on. -/
def writeSettled (index : Nat) (delivered : Bool) : Option (RfcDiagnosticDispatcher δ) :=
  match s.writing[index]? with
  | none => none
  | some event =>
    let s := { s with writing := s.writing.eraseIdx index, settled := s.settled ++ [event] }
    some (drainLoop (if delivered then { s with delivered := s.delivered + 1 }
      else { s with sinkFailures := s.sinkFailures + 1, failedWrites := s.failedWrites + 1 }))

end RfcDiagnosticDispatcher

/-- What callers, the sink, and the runtime do. -/
inductive DispatcherStep (δ : Type)
  | emit (timestamp : String) (input : Except String (RfcDiagnosticInput δ))
  | setLevel (category : RfcDiagnosticCategory) (level : RfcDiagnosticLevel)
  | flush
  | close
  | finishClose
  | sinkClosed (closed : Bool)
  | microtask
  | writeSettled (index : Nat) (delivered : Bool)

def dispatcher (δ : Type) (options : RfcDiagnosticDispatcherOptions) :
    Machine (RfcDiagnosticDispatcher δ) (DispatcherStep δ) where
  init :=
    { maxQueued := options.maxQueued, sinkCloses := options.sinkCloses, levels := options.levels }
  step s
    | .emit timestamp input => some (s.emit timestamp input).2
    | .setLevel category level => some (s.setLevel category level).2
    | .flush => some s.flush.2
    | .close => some s.close
    | .finishClose => s.finishClose
    | .sinkClosed closed => s.sinkClosed closed
    | .microtask => s.microtask
    | .writeSettled index delivered => s.writeSettled index delivered

end OpenRfc.Diagnostics
