import OpenRfc.Foundation.Machine
import OpenRfc.Transaction.Runtime

/-!
The transaction runtime as a machine. A label is one public call, the end of one call
into caller code, one timer callback or one promise reaction, with every choice of the
environment in it. Between two labels any other may come, so a label also stands for a
call which caller code makes while it is itself on the stack.
-/

namespace OpenRfc.Transaction
open Lifecycle

/-- What happens to a bounded wait. -/
inductive Signal
  /-- The adapter's release returns its promise, or throws. -/
  | handed (thrown : Option Failure)
  /-- The clock which the wait reads returns. -/
  | clock (reading : Reading Failure)
  /-- The scheduler returns a task, or throws. -/
  | scheduled (thrown : Option Failure)
  /-- The adapter call returns its promise, or throws. -/
  | returned (thrown : Option Failure)
  | timer (generation : Nat) (reading : Reading Failure)
  | rearm (reading : Reading Failure) (thrown : Option Failure)
  /-- The promise of the adapter call settles. -/
  | settle (outcome : Except Failure JsValue)
  /-- The promises of a quarantine have all been fulfilled, or one has been rejected. -/
  | converge (rejected : Option Nat)
  /-- The reaction on the promise which the wait waits for. -/
  | react

inductive Event
  | begin
  | call (token : Option TransactionToken) (functionName : String)
  | commit (token : Option TransactionToken)
  | rollback (token : Option TransactionToken)
  | abort (token : Option TransactionToken)
  | cancel (token : Option TransactionToken)
  | close
  /-- The classifier returns a kind, returns another value, or throws. -/
  | classified (answer : Except Failure (Option TransactionFailureKind))
  | signal (who : Thread) (signal : Signal)
  /-- An asynchronous function continues after its await. -/
  | resume (who : Thread)
  /-- The promise of a detached call settles. -/
  | settleDetached (work : Nat) (outcome : Except Failure JsValue)
  | reactDetached (work : Nat)
  /-- The reaction on the completion of a quarantined acquire. -/
  | acquireQuarantineSettled (work : Nat)

def clockError : Failure :=
  .error "transaction scheduler clock must be finite and monotonic"

def earlyError : Failure :=
  .error "transaction scheduler fired early without bounded progress"

def expiredError (cfg : Settings) (job : Job) : Failure :=
  runtimeError .operationTimeout s!"{job.label} exceeded {cfg.operationTimeoutMs}ms"

namespace TransactionRuntime

def initial : TransactionRuntime where
  state := .idle
  outcome := .none
  nextTransactionId := 1
  token := none
  lease := none
  opening := .idle
  acquireQuarantines := []
  acquireQuarantineFailure := none
  businessCall := .idle
  activeCallDisposition := none
  terminal := .unclaimed
  releaseClaimed := false
  operationQuarantine := none
  lateRelease := .unclaimed
  lateCleanups := []
  lastClockValue := 0
  wait := fun _ => .start false
  detached := fun _ => none
  settlement := fun _ => none
  nextWork := 1
  trace := []

/-- The clock value of a reading which `#readClock` accepts is kept. -/
def readClock (s : TransactionRuntime) (r : Reading Failure) :
    Except Failure Time × TransactionRuntime :=
  match Lifecycle.readClock s.lastClockValue clockError r with
  | .ok t => (.ok t, { s with lastClockValue := t })
  | .error e => (.error e, s)

/-- The wait of an adapter call reaches the call. -/
def invoke (s : TransactionRuntime) (who : Thread) (call : AdapterCall)
    (b : Bounded JsValue Failure) : TransactionRuntime :=
  ({ s with nextWork := s.nextWork + 1 }.await who { b with work := s.nextWork }).observe
    (.called s.nextWork call)

def armed (s : TransactionRuntime) (who : Thread) (job : Job) (b : Bounded JsValue Failure)
    (thrown : Option Failure) : TransactionRuntime :=
  match job.adapterCall with
  | none => s.await who (b.scheduled true .waiting thrown)
  | some call =>
      let b := b.scheduled true .calling thrown
      if b.phase = .calling then s.invoke who call b else s.await who b

/-- A call which throws has settled. One which returns its promise to a wait which has
ended is detached, without a quarantine. -/
def returned (s : TransactionRuntime) (who : Thread) (call : AdapterCall)
    (b : Bounded JsValue Failure) (thrown : Option Failure) : TransactionRuntime :=
  let s := s.await who (b.returned thrown)
  match b.active, thrown with
  | _, some e => s.observe (.settled b.work (.error e))
  | true, none => s
  | false, none => s.detach call b false

/-- The timer or its microtask has acted on the wait. If it has ended a wait for a
promise, the adapter call is quarantined. -/
def ticked (s : TransactionRuntime) (who : Thread) (job : Job) (b b' : Bounded JsValue Failure) :
    TransactionRuntime :=
  let s := s.await who b'
  match job.adapterCall, b.phase, b'.phase with
  | some call, .waiting, .over => (s.detach call b true).trackQuarantine b.work call
  | _, _, _ => s

/-- `Promise.all` over the completions of a quarantine. -/
def allSettled (s : TransactionRuntime) (pending : List Nat) :
    Option Nat → Option (Except Failure JsValue)
  | none =>
      if pending.all fun w => match s.settlement w with
        | some (.ok _) => true
        | _ => false
      then some (.ok .undefined) else none
  | some w =>
      if w ∈ pending then
        match s.settlement w with
        | some (.error e) => some (.error e)
        | _ => none
      else none

def signal (cfg : Settings) (s : TransactionRuntime) (who : Thread) (job : Job)
    (b : Bounded JsValue Failure) : Signal → Option TransactionRuntime
  | .handed thrown =>
      if b.phase = .handing then some (s.await who (b.handed thrown)) else none
  | .clock r =>
      match b.phase with
      | .deadline =>
          some ((s.readClock r).2.await who
            (b.readDeadline cfg.operationTimeoutMs (s.readClock r).1))
      | .arming => some ((s.readClock r).2.await who (b.arm (s.readClock r).1))
      | _ => none
  | .scheduled thrown =>
      if b.phase = .scheduling then some (s.armed who job b thrown) else none
  | .returned thrown =>
      match job.adapterCall, b.phase with
      | some call, .calling => some (s.returned who call b thrown)
      | _, _ => none
  | .timer generation r =>
      if b.ticks generation then
        some ((s.readClock r).2.ticked who job b
          (b.fire (expiredError cfg job) earlyError (s.readClock r).1))
      else none
  | .rearm r thrown =>
      if b.rearms then
        some ((s.readClock r).2.ticked who job b (b.rearm thrown (s.readClock r).1))
      else none
  | .settle outcome =>
      match b.phase, b.raw, job with
      | .waiting, none, .acquireConvergence _ | .waiting, none, .operationConvergence _ => none
      | .waiting, none, .release .. =>
          some (s.await who { b with raw := some outcome })
      | .waiting, none, _ =>
          some ((s.await who { b with raw := some outcome }).observe (.settled b.work outcome))
      | _, _, _ => none
  | .converge rejected =>
      match b.phase, b.raw, job with
      | .waiting, none, .acquireConvergence pending
      | .waiting, none, .operationConvergence pending =>
          (s.allSettled pending rejected).map fun outcome =>
            s.await who { b with raw := some outcome }
      | _, _, _ => none
  | .react =>
      match b.phase, b.raw, b.result with
      | .waiting, some outcome, none => some (s.await who (b.finish outcome))
      | _, _, _ => none

def resumeBegin (s : TransactionRuntime) : Option TransactionRuntime :=
  match s.opening with
  | .acquiring token => (s.ended .begin).map (s.acquireEnded token)
  | .rollingBack _ error => (s.ended .begin).map (s.beginRolledBack error)
  | .idle => none

def resumeCall (cfg : Settings) (s : TransactionRuntime) : Option TransactionRuntime :=
  match s.businessCall, s.terminal with
  | .invoking .., _ => (s.ended .call).map (s.businessEnded cfg)
  | .awaitingTerminal _, .settled _ => some { s with businessCall := .idle }
  | _, _ => none

def resumeTerminal (s : TransactionRuntime) : Option TransactionRuntime :=
  match s.terminal with
  | .unclaimed | .settled _ => none
  | .awaitingOpening =>
      match s.opening with
      | .idle => some s.openingEnded
      | _ => none
  | .awaitingCall =>
      match s.businessCall with
      | .idle => some s.activeCallEnded
      | _ => none
  | .acquireConvergence _ => (s.ended .terminal).map s.acquiresConverged
  | .control lease operation releaseReason =>
      (s.ended .terminal).map (s.controlEnded lease operation releaseReason)
  | .resetting _ operation releaseReason =>
      (s.ended .terminal).map (s.resetEnded operation releaseReason)
  | .operationConvergence plan quarantine =>
      (s.ended .terminal).map (s.operationsConverged plan quarantine)
  | .prepared plan => some (s.releasePublishedLease plan)
  | .unconverged plan failure => some (s.leaveQuarantined plan failure)
  | .releasing _ plan _ => (s.ended .terminal).map (s.publishedLeaseReleased plan)

def resumeLateRelease (s : TransactionRuntime) : Option TransactionRuntime :=
  match s.lateRelease with
  | .awaiting quarantine disposition =>
      if quarantine.all fun w => (s.settlement w).isSome then
        some (s.lateReleaseConverged quarantine disposition)
      else none
  | .releasing .. => (s.ended .lateRelease).map fun _ => s.lateReleaseEnded
  | .unclaimed | .done => none

def resume (cfg : Settings) (s : TransactionRuntime) : Thread → Option TransactionRuntime
  | .begin => s.resumeBegin
  | .call => s.resumeCall cfg
  | .terminal => s.resumeTerminal
  | .lateRelease => s.resumeLateRelease
  | .lateAcquire work =>
      if work ∈ s.lateCleanups then
        (s.ended (.lateAcquire work)).map (s.lateAcquireCleaned work)
      else none

/-- A public call which throws, or rejects at once, leaves the runtime as it is. -/
def answer (s : TransactionRuntime) : Except Failure TransactionRuntime → TransactionRuntime
  | .ok s' => s'
  | .error _ => s

def step (cfg : Settings) (s : TransactionRuntime) : Event → Option TransactionRuntime
  | .begin => some (s.answer s.begin)
  | .call token functionName => some (s.answer (s.call cfg token functionName))
  | .commit token => some (s.answer (s.commit token))
  | .rollback token => some (s.answer (s.rollback token))
  | .abort token => some (s.answer (s.abort token))
  | .cancel token => some (s.answer (s.cancel token))
  | .close => some (s.answer s.close)
  | .classified answer =>
      match s.businessCall with
      | .classifying error => some (s.classified error answer)
      | _ => none
  | .signal who signal =>
      match s.job who with
      | some job => s.signal cfg who job (s.wait who) signal
      | none => none
  | .resume who => s.resume cfg who
  | .settleDetached work outcome =>
      match s.detached work with
      | some ⟨call, none, tracked⟩ =>
          some ({ s with
            detached := Function.update s.detached work
              (some ⟨call, some outcome, tracked⟩) }.observe (.settled work outcome))
      | _ => none
  | .reactDetached work =>
      match s.detached work with
      | some ⟨call, some outcome, tracked⟩ =>
          some (s.reactDetached work ⟨call, some outcome, tracked⟩ outcome)
      | _ => none
  | .acquireQuarantineSettled work =>
      match s.settlement work with
      | some result =>
          if work ∈ s.acquireQuarantines then some (s.acquireQuarantineSettled work result)
          else none
      | none => none

end TransactionRuntime

def machine (cfg : Settings) : Machine TransactionRuntime Event where
  init := .initial
  step := TransactionRuntime.step cfg

end OpenRfc.Transaction
