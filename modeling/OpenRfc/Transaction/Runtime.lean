import OpenRfc.Lifecycle.Bounded
import OpenRfc.Transaction.ControlReturn

/-!
The transaction runtime. Its asynchronous functions are kept as the points at which they
await: `begin`, one business call, the executor of the terminal promise, the detached
late release, and one cleanup for every acquire which is fulfilled after its deadline.
Each has at most one bounded wait at a time. A lease is named by the acquire call which
delivers it.
-/

namespace OpenRfc.Transaction
open Lifecycle

structure TransactionToken where
  transactionId : Nat
deriving DecidableEq, Repr

inductive TransactionInvocationKind
  | business
  | commit
  | rollback
deriving DecidableEq, Repr

def ControlOperation.kind : ControlOperation → TransactionInvocationKind
  | .commit => .commit
  | .rollback => .rollback

inductive TransactionReleaseReason
  | commit
  | rollback
  | closeRollback
  | beginRollback
  | ambiguous
  | controlRejected
  | resetFailed
deriving DecidableEq, Repr

structure TransactionReleaseDisposition where
  reusable : Bool
  reason : TransactionReleaseReason
  outcome : TransactionOutcome
deriving DecidableEq, Repr

inductive TransactionFailureKind
  | recoverable
  | ambiguous
deriving DecidableEq, Repr

inductive CallDisposition
  | stable
  | ambiguous
deriving DecidableEq, Repr

/-- The options, as the constructor keeps them. -/
structure Settings where
  operationTimeoutMs : Time
  timeout_range : 1 ≤ operationTimeoutMs ∧ operationTimeoutMs ≤ 2147483647
  providesClassifier : Bool

/-- The adapter calls which use the physical session, or wait for one. -/
inductive AdapterCall
  | acquire
  | invoke (lease : Nat) (kind : TransactionInvocationKind)
  | reset (lease : Nat)
deriving DecidableEq, Repr

/-- What a bounded wait waits for. -/
inductive Job
  | acquire
  | business (lease : Nat) (functionName : String)
  | control (lease : Nat) (operation : ControlOperation)
  | reset (lease : Nat) (operation : ControlOperation)
  | release (lease : Nat) (disposition : TransactionReleaseDisposition)
  | acquireConvergence (pending : List Nat)
  | operationConvergence (quarantine : List Nat)

/-- The adapter call which the wait makes and bounds. The others wait for a promise
which exists already. -/
def Job.adapterCall : Job → Option AdapterCall
  | .acquire => some .acquire
  | .business lease _ => some (.invoke lease .business)
  | .control lease operation => some (.invoke lease operation.kind)
  | .reset lease _ => some (.reset lease)
  | .release .. | .acquireConvergence _ | .operationConvergence _ => none

def Job.label : Job → String
  | .acquire => "transaction lease acquire"
  | .business _ functionName => s!"business call {functionName}"
  | .control _ operation => s!"BAPI transaction {operation.text}"
  | .reset _ operation => s!"transaction reset after {operation.text}"
  | .release _ disposition =>
      if disposition.reusable then "transaction lease release"
      else "transaction lease eviction"
  | .acquireConvergence _ => "timed-out transaction acquire convergence"
  | .operationConvergence _ => "uncertain transaction operation convergence"

inductive Thread
  | begin
  | call
  | terminal
  | lateRelease
  | lateAcquire (work : Nat)
deriving DecidableEq, Repr

/-- Where `begin` is suspended. -/
inductive Opening
  | idle
  | acquiring (token : TransactionToken)
  /-- Its catch awaits the release of the lease it has acquired. -/
  | rollingBack (lease : Nat) (error : Failure)

/-- Where a business call is suspended. -/
inductive BusinessCall
  | idle
  | invoking (lease : Nat) (functionName : String)
  /-- The classifier is on the stack. -/
  | classifying (error : Failure)
  | awaitingTerminal (failure : Failure)

/-- The two ways to the release of the published lease: after a control operation has
succeeded, with what failed since then, or without one. -/
inductive Plan
  | control (operation : ControlOperation) (releaseReason : TransactionReleaseReason)
      (cleanup : List Failure)
  | releaseOnly (primary : Option Failure) (reason : TransactionReleaseReason)
      (outcome : TransactionOutcome)

/-- Where the executor of the terminal promise is suspended. -/
inductive Terminal
  | unclaimed
  | awaitingOpening
  | acquireConvergence (pending : List Nat)
  | awaitingCall
  | control (lease : Nat) (operation : ControlOperation)
      (releaseReason : TransactionReleaseReason)
  | resetting (lease : Nat) (operation : ControlOperation)
      (releaseReason : TransactionReleaseReason)
  | operationConvergence (plan : Plan) (quarantine : List Nat)
  /-- `#prepareReleaseAfterQuarantine` has returned without a failure. -/
  | prepared (plan : Plan)
  /-- It has returned a failure, after it has started the late release. -/
  | unconverged (plan : Plan) (failure : Failure)
  | releasing (lease : Nat) (plan : Plan) (disposition : TransactionReleaseDisposition)
  | settled (result : Except Failure Unit)

inductive LateRelease
  | unclaimed
  | awaiting (quarantine : List Nat) (disposition : TransactionReleaseDisposition)
  | releasing (lease : Nat) (disposition : TransactionReleaseDisposition)
  | done

/-- An adapter call whose wait has ended before its promise settled. Its settlement is
tracked unless the wait ended before the call returned. -/
structure Detached where
  call : AdapterCall
  raw : Option (Except Failure JsValue)
  tracked : Bool

inductive Request
  | commit
  | rollback
  | cancel
  | close
deriving DecidableEq, Repr

inductive Observation
  | called (work : Nat) (call : AdapterCall)
  /-- The promise of an adapter call settles, or the call throws. -/
  | settled (work : Nat) (outcome : Except Failure JsValue)
  /-- The lease is handed to the adapter's release. -/
  | released (lease : Nat) (disposition : TransactionReleaseDisposition)
  | accepted (request : Request)
  /-- A business call has ended with an ambiguous disposition. -/
  | endedAmbiguous

/-- `settlement` holds how the completion of a detached call has settled; `trace` is the
history of the run, newest first. -/
structure TransactionRuntime where
  state : TransactionRuntimeState
  outcome : TransactionOutcome
  nextTransactionId : Nat
  token : Option TransactionToken
  lease : Option Nat
  opening : Opening
  acquireQuarantines : List Nat
  acquireQuarantineFailure : Option Failure
  businessCall : BusinessCall
  activeCallDisposition : Option CallDisposition
  terminal : Terminal
  releaseClaimed : Bool
  operationQuarantine : Option (List Nat)
  lateRelease : LateRelease
  lateCleanups : List Nat
  lastClockValue : Time
  wait : Thread → Bounded JsValue Failure
  detached : Nat → Option Detached
  settlement : Nat → Option (Except Failure Unit)
  nextWork : Nat
  trace : List Observation

def TransactionRuntimeState.text : TransactionRuntimeState → String
  | .idle => "idle"
  | .opening => "opening"
  | .active => "active"
  | .calling => "calling"
  | .committing => "committing"
  | .rollingBack => "rollingBack"
  | .resetting => "resetting"
  | .releasing => "releasing"
  | .closing => "closing"
  | .failed => "failed"
  | .closed => "closed"

def TransactionOutcome.text : TransactionOutcome → String
  | .none => "none"
  | .active => "active"
  | .committed => "committed"
  | .rolledBack => "rolledBack"
  | .rejected => "rejected"
  | .ambiguous => "ambiguous"

def controlledFunctionName (value : String) : Except Failure String :=
  if 1 ≤ value.length ∧ value.length ≤ 30 ∧
      value.toList.all (fun c => '\x20' ≤ c && c ≤ '\x7e') then .ok value
  else .error (.rangeError "functionName must contain 1..30 ASCII bytes")

def raiseTerminalFailure (outcome : TransactionOutcome) (primary : Option Failure)
    (cleanup : List Failure) (message : String) : Except Failure Unit :=
  match primary, cleanup with
  | none, [] => .ok ()
  | some e, [] => .error e
  | none, errors => .error (.terminalError outcome errors message)
  | some e, errors => .error (.terminalError outcome (e :: errors) message)

namespace Plan

def reusable : Plan → Bool
  | .control _ _ cleanup => cleanup.isEmpty
  | .releaseOnly .. => false

def reason : Plan → TransactionReleaseReason
  | .control _ releaseReason cleanup =>
      if cleanup.isEmpty then releaseReason else .resetFailed
  | .releaseOnly _ reason _ => reason

def primary : Plan → Option Failure
  | .control .. => none
  | .releaseOnly primary _ _ => primary

def cleanup : Plan → List Failure
  | .control _ _ cleanup => cleanup
  | .releaseOnly .. => []

/-- After a control operation the outcome is read where it is used. -/
def outcome (current : TransactionOutcome) : Plan → TransactionOutcome
  | .control .. => current
  | .releaseOnly _ _ outcome => outcome

def disposition (current : TransactionOutcome) (p : Plan) : TransactionReleaseDisposition :=
  ⟨p.reusable, p.reason, p.outcome current⟩

def quarantinedMessage : Plan → String
  | .control operation _ _ =>
      s!"transaction {operation.text} completed but its physical lease remains quarantined"
  | .releaseOnly _ _ outcome =>
      s!"transaction ended {outcome.text} while its physical lease remains quarantined"

def failedMessage : Plan → String
  | .control operation _ _ => s!"transaction {operation.text} completed but cleanup failed"
  | .releaseOnly _ _ outcome =>
      s!"transaction ended {outcome.text} and lease eviction failed"

end Plan

namespace TransactionRuntime

def observe (s : TransactionRuntime) (o : Observation) : TransactionRuntime :=
  { s with trace := o :: s.trace }

def await (s : TransactionRuntime) (who : Thread) (b : Bounded JsValue Failure) :
    TransactionRuntime :=
  { s with wait := Function.update s.wait who b }

/-- What the bounded wait of an asynchronous function waits for. -/
def job (s : TransactionRuntime) : Thread → Option Job
  | .begin =>
      match s.opening with
      | .acquiring _ => some .acquire
      | .rollingBack lease _ => some (.release lease ⟨false, .beginRollback, .none⟩)
      | .idle => none
  | .call =>
      match s.businessCall with
      | .invoking lease functionName => some (.business lease functionName)
      | _ => none
  | .terminal =>
      match s.terminal with
      | .acquireConvergence pending => some (.acquireConvergence pending)
      | .control lease operation _ => some (.control lease operation)
      | .resetting lease operation _ => some (.reset lease operation)
      | .operationConvergence _ quarantine => some (.operationConvergence quarantine)
      | .releasing lease _ disposition => some (.release lease disposition)
      | _ => none
  | .lateRelease =>
      match s.lateRelease with
      | .releasing lease disposition => some (.release lease disposition)
      | _ => none
  | .lateAcquire work =>
      if work ∈ s.lateCleanups then some (.release work ⟨false, .beginRollback, .none⟩)
      else none

/-- The settlement of the promise which an asynchronous function awaits, once every call
on the stack of its wait has returned. -/
def ended (s : TransactionRuntime) (who : Thread) : Option (Except Failure JsValue) :=
  match (s.wait who).phase with
  | .over => (s.wait who).result
  | _ => none

def requireToken (s : TransactionRuntime) (token : Option TransactionToken) :
    Except Failure Unit :=
  if token.isSome ∧ token = s.token then .ok ()
  else .error (runtimeError .invalidTransactionToken
    "transaction token does not belong to this runtime")

def requireState (s : TransactionRuntime) (expected : TransactionRuntimeState)
    (operation : String) : Except Failure Unit :=
  if s.state = expected then .ok ()
  else .error (runtimeError
    (if s.state = .closing ∨ s.state = .closed then .transactionClosing
      else .invalidTransactionState)
    s!"cannot {operation} while transaction runtime is {s.state.text}")

/-- `#abortClosableWork` -/
def abortClosableWork (s : TransactionRuntime) (reason : Failure) : TransactionRuntime :=
  { s with wait := fun who => (s.wait who).abort reason }

/-- `#claimTerminal`. The executor runs up to its first await. -/
def claimTerminal (s : TransactionRuntime)
    (executor : TransactionRuntime → TransactionRuntime) : TransactionRuntime :=
  match s.terminal with
  | .unclaimed => executor s
  | _ => s

def settleTerminal (s : TransactionRuntime) (result : Except Failure Unit) :
    TransactionRuntime :=
  { s with terminal := .settled result }

/-- The call of the adapter's release in `#releaseLease`, by the function which awaits
the result. -/
def handOver (s : TransactionRuntime) (who : Thread) (lease : Nat)
    (disposition : TransactionReleaseDisposition) : TransactionRuntime :=
  (s.await who .hand).observe (.released lease disposition)

def finishClosed (s : TransactionRuntime) : TransactionRuntime :=
  { s with lease := none, state := .closed }

/-- `#prepareReleaseAfterQuarantine`, up to its first await. -/
def prepareReleaseAfterQuarantine (s : TransactionRuntime) (plan : Plan) :
    TransactionRuntime :=
  match s.operationQuarantine with
  | none => { s with terminal := .prepared plan }
  | some quarantine =>
      { s with terminal := .operationConvergence plan quarantine }.await .terminal
        (.start false)

/-- `#startLateRelease` -/
def startLateRelease (s : TransactionRuntime) (quarantine : List Nat) (plan : Plan) :
    TransactionRuntime :=
  match s.lateRelease with
  | .unclaimed =>
      { s with
        lateRelease :=
          .awaiting quarantine ⟨false, plan.reason, plan.outcome s.outcome⟩ }
  | _ => s

/-- The lease which `#releasePublishedLease` hands over, once it has claimed to. -/
def claimRelease (s : TransactionRuntime) : Option Nat :=
  if s.releaseClaimed then none
  else match s.token, s.lease with
    | some _, some lease => some lease
    | _, _ => none

/-- `#releasePublishedLease`, called by the executor of the terminal promise. -/
def releasePublishedLease (s : TransactionRuntime) (plan : Plan) : TransactionRuntime :=
  let disposition := plan.disposition s.outcome
  match s.claimRelease with
  | some lease =>
      { s with
        releaseClaimed := true
        state := .releasing
        terminal := .releasing lease plan disposition }.handOver .terminal lease disposition
  | none =>
      ({ s with releaseClaimed := true }.finishClosed).settleTerminal
        (raiseTerminalFailure (plan.outcome s.outcome) plan.primary plan.cleanup
          plan.failedMessage)

/-- The terminal executor continues after the release of the published lease. -/
def publishedLeaseReleased (s : TransactionRuntime) (plan : Plan)
    (result : Except Failure JsValue) : TransactionRuntime :=
  let cleanup := match result with
    | .ok _ => plan.cleanup
    | .error e => plan.cleanup ++ [e]
  s.finishClosed.settleTerminal
    (raiseTerminalFailure (plan.outcome s.outcome) plan.primary cleanup plan.failedMessage)

/-- `#finishControl`, up to its first await. -/
def finishControl (s : TransactionRuntime) (operation : ControlOperation)
    (releaseReason : TransactionReleaseReason) : TransactionRuntime :=
  match s.token, s.lease with
  | some _, some lease =>
      { s with
        state := operation.state
        terminal := .control lease operation releaseReason }.await .terminal (.start false)
  | _, _ =>
      s.settleTerminal (.error (runtimeError .invalidTransactionState
        s!"{operation.text} requires a pinned transaction lease"))

/-- What the result of a control invocation says: nothing, if it has succeeded. -/
def controlFailure (operation : ControlOperation) (result : Except Failure JsValue) :
    Option Failure :=
  match result with
  | .error e => some e
  | .ok v =>
      match resultObject v s!"BAPI transaction {operation.text}" with
      | .error e => some e
      | .ok v =>
          match inspectControlReturn operation v with
          | .error e => some e
          | .ok _ => none

/-- `#finishControl` continues after the invocation. -/
def controlEnded (s : TransactionRuntime) (lease : Nat) (operation : ControlOperation)
    (releaseReason : TransactionReleaseReason) (result : Except Failure JsValue) :
    TransactionRuntime :=
  match controlFailure operation result with
  | some (.bapiError o returns) =>
      { s with outcome := .rejected }.prepareReleaseAfterQuarantine
        (.releaseOnly (some (.bapiError o returns)) .controlRejected .rejected)
  | some primary =>
      { s with outcome := .ambiguous }.prepareReleaseAfterQuarantine
        (.releaseOnly (some primary) .ambiguous .ambiguous)
  | none =>
      { s with
        outcome := operation.outcome
        state := .resetting
        terminal := .resetting lease operation releaseReason }.await .terminal (.start false)

/-- `#finishControl` continues after the reset. -/
def resetEnded (s : TransactionRuntime) (operation : ControlOperation)
    (releaseReason : TransactionReleaseReason) (result : Except Failure JsValue) :
    TransactionRuntime :=
  s.prepareReleaseAfterQuarantine (.control operation releaseReason
    (match result with
      | .ok _ => []
      | .error e => [e]))

/-- `#prepareReleaseAfterQuarantine` continues after its await. -/
def operationsConverged (s : TransactionRuntime) (plan : Plan) (quarantine : List Nat)
    (result : Except Failure JsValue) : TransactionRuntime :=
  match result with
  | .ok _ =>
      { s with
        operationQuarantine :=
          if s.operationQuarantine = some quarantine then none else s.operationQuarantine
        terminal := .prepared plan }
  | .error e => { s.startLateRelease quarantine plan with terminal := .unconverged plan e }

/-- The executor gives up on a lease whose operations have not converged. -/
def leaveQuarantined (s : TransactionRuntime) (plan : Plan) (failure : Failure) :
    TransactionRuntime :=
  { s with state := .failed }.settleTerminal
    (raiseTerminalFailure (plan.outcome s.outcome) plan.primary (plan.cleanup ++ [failure])
      plan.quarantinedMessage)

/-- The last lines of `#finishCloseDuringOpening`. -/
def finishCloseWithoutLease (s : TransactionRuntime) : TransactionRuntime :=
  match s.acquireQuarantineFailure with
  | some e => { s with state := .failed }.settleTerminal (.error e)
  | none => { s with state := .closed }.settleTerminal (.ok ())

/-- `#finishCloseDuringOpening` continues once `begin` has ended. -/
def openingEnded (s : TransactionRuntime) : TransactionRuntime :=
  if s.acquireQuarantines = [] then s.finishCloseWithoutLease
  else
    { s with terminal := .acquireConvergence s.acquireQuarantines }.await .terminal
      (.start false)

def acquiresConverged (s : TransactionRuntime) (result : Except Failure JsValue) :
    TransactionRuntime :=
  match result with
  | .ok _ => s.finishCloseWithoutLease
  | .error e => { s with state := .failed }.settleTerminal (.error e)

/-- `#finishCloseDuringCall` continues once the business call has ended. -/
def activeCallEnded (s : TransactionRuntime) : TransactionRuntime :=
  match s.activeCallDisposition with
  | some .stable => s.finishControl .rollback .closeRollback
  | _ =>
      { s with outcome := .ambiguous }.prepareReleaseAfterQuarantine
        (.releaseOnly none .ambiguous .ambiguous)

/-- `begin`, up to its first await. -/
def begin (s : TransactionRuntime) : Except Failure TransactionRuntime :=
  if s.state = .idle then
    .ok ({ s with
      state := .opening
      acquireQuarantineFailure := none
      nextTransactionId := s.nextTransactionId + 1
      opening := .acquiring ⟨s.nextTransactionId⟩ }.await .begin (.start true))
  else
    .error (runtimeError .invalidTransactionState
      s!"cannot begin transaction while runtime is {s.state.text}")

/-- The end of the catch of `begin`, and its finally. -/
def beginFailed (s : TransactionRuntime) : TransactionRuntime :=
  { s with
    state :=
      if s.state = .opening then
        if s.acquireQuarantines = [] then .idle else .failed
      else s.state
    opening := .idle }

/-- `begin` continues after the acquire. -/
def acquireEnded (s : TransactionRuntime) (token : TransactionToken)
    (result : Except Failure JsValue) : TransactionRuntime :=
  match result with
  | .error _ => s.beginFailed
  | .ok v =>
      if v.isObject then
        let lease := (s.wait .begin).work
        if s.state = .opening then
          { s with
            lease := some lease
            token := some token
            state := .active
            outcome := .active
            opening := .idle }
        else
          { s with
            opening := .rollingBack lease (runtimeError .transactionClosing
              "transaction closed while its lease was opening") }.handOver .begin lease
                ⟨false, .beginRollback, .none⟩
      else s.beginFailed

/-- The catch of `begin` continues after the release. -/
def beginRolledBack (s : TransactionRuntime) (error : Failure)
    (result : Except Failure JsValue) : TransactionRuntime :=
  match result with
  | .ok _ => s.beginFailed
  | .error cleanupError =>
      let failure : Option Failure :=
        if s.state = .closing then
          some (.aggregate [error, cleanupError]
            "transaction begin and lease rollback both failed")
        else s.acquireQuarantineFailure
      { s with acquireQuarantineFailure := failure }.beginFailed

/-- The classification of a failed business call has ended. -/
def businessClassified (s : TransactionRuntime) (kind : TransactionFailureKind)
    (failure : Failure) : TransactionRuntime :=
  if s.state = .closing then
    match kind with
    | .recoverable =>
        { s with activeCallDisposition := some .stable, businessCall := .idle }
    | .ambiguous =>
        { s with
          activeCallDisposition := some .ambiguous
          businessCall := .idle }.observe .endedAmbiguous
  else
    match kind with
    | .recoverable => { s with state := .active, businessCall := .idle }
    | .ambiguous =>
        ({ s with
          outcome := .ambiguous
          state := .failed
          businessCall := .awaitingTerminal failure }.observe .endedAmbiguous).claimTerminal
          fun s => s.prepareReleaseAfterQuarantine (.releaseOnly none .ambiguous .ambiguous)

/-- The catch of `call`, up to the classifier. -/
def businessFailed (cfg : Settings) (s : TransactionRuntime) (error : Failure) :
    TransactionRuntime :=
  if s.state = .closing then
    match s.activeCallDisposition with
    | some _ => { s with businessCall := .idle }
    | none =>
        { s with
          activeCallDisposition := some .ambiguous
          businessCall := .idle }.observe .endedAmbiguous
  else if error.isTimeout || !cfg.providesClassifier then
    s.businessClassified .ambiguous error
  else { s with businessCall := .classifying error }

/-- What the classifier does: it answers with a kind, with another value, or throws. -/
def classified (s : TransactionRuntime) (error : Failure)
    (answer : Except Failure (Option TransactionFailureKind)) : TransactionRuntime :=
  let failed (e : Failure) := s.businessClassified .ambiguous (.aggregate [error, e]
    "business call and transaction failure classification both failed")
  match answer with
  | .ok (some kind) => s.businessClassified kind error
  | .ok none => failed (.typeError "classifyFailure must return recoverable or ambiguous")
  | .error e => failed e

/-- `call`, from its last check up to its first await. -/
def call (cfg : Settings) (s : TransactionRuntime) (token : Option TransactionToken)
    (functionName : String) : Except Failure TransactionRuntime := do
  s.requireToken token
  if s.state = .calling then
    throw (runtimeError .concurrentTransactionOperation
      "transaction already has an active business call")
  s.requireState .active "call a business function"
  let functionName ← controlledFunctionName functionName
  let s := { s with activeCallDisposition := none, state := .calling }
  match s.lease with
  | some lease =>
      return { s with businessCall := .invoking lease functionName }.await .call (.start true)
  | none =>
      return s.businessFailed cfg
        (runtimeError .invalidTransactionState "transaction has no pinned lease")

/-- `call` continues after its invocation. -/
def businessEnded (cfg : Settings) (s : TransactionRuntime)
    (result : Except Failure JsValue) : TransactionRuntime :=
  match result with
  | .error e => s.businessFailed cfg e
  | .ok v =>
      match resultObject v "business invocation" with
      | .error e => s.businessFailed cfg e
      | .ok _ =>
          if s.state = .closing then
            { s with activeCallDisposition := some .stable, businessCall := .idle }
          else { s with state := .active, businessCall := .idle }

/-- `commit` and `rollback`. -/
def endTransaction (s : TransactionRuntime) (token : Option TransactionToken)
    (operation : ControlOperation) (request : Request)
    (releaseReason : TransactionReleaseReason) : Except Failure TransactionRuntime := do
  s.requireToken token
  s.requireState .active operation.text
  return ({ s with state := operation.state }.observe (.accepted request)).claimTerminal
    fun s => s.finishControl operation releaseReason

def commit (s : TransactionRuntime) (token : Option TransactionToken) :
    Except Failure TransactionRuntime :=
  s.endTransaction token .commit .commit .commit

def rollback (s : TransactionRuntime) (token : Option TransactionToken) :
    Except Failure TransactionRuntime :=
  s.endTransaction token .rollback .rollback .rollback

/-- `#closeDuringCall` -/
def closeDuringCall (s : TransactionRuntime) (reason : String) : TransactionRuntime :=
  ({ s with state := .closing }.claimTerminal fun s =>
    { s with terminal := .awaitingCall }).abortClosableWork
      (runtimeError .transactionClosing reason)

def cancel (s : TransactionRuntime) (token : Option TransactionToken) :
    Except Failure TransactionRuntime := do
  s.requireToken token
  s.requireState .calling "cancel"
  return (s.observe (.accepted .cancel)).closeDuringCall "transaction call was canceled"

def abort (s : TransactionRuntime) (token : Option TransactionToken) :
    Except Failure TransactionRuntime := do
  s.requireToken token
  match s.state, s.terminal with
  | .closing, .unclaimed => s.rollback token
  | .closing, _ => return s
  | .calling, _ => s.cancel token
  | _, _ => s.rollback token

/-- `close`, when no terminal promise exists yet. -/
def closeUnclaimed (s : TransactionRuntime) : Except Failure TransactionRuntime :=
  match s.state with
  | .idle => .ok ({ s with state := .closed }.settleTerminal (.ok ()))
  | .opening =>
      .ok ({ s with state := .closing, terminal := .awaitingOpening }.abortClosableWork
        (runtimeError .transactionClosing "transaction closed while opening"))
  | .calling => .ok (s.closeDuringCall "transaction closed during a business call")
  | .active => .ok ({ s with state := .closing }.finishControl .rollback .closeRollback)
  | .closed => .ok (s.settleTerminal (.ok ()))
  | state =>
      if state = .failed ∧ s.token = none then
        .ok { s with state := .closing, terminal := .awaitingOpening }
      else .error (runtimeError .invalidTransactionState
        s!"cannot close transaction while runtime is {state.text}")

/-- `close`, and `release`, its alias. -/
def close (s : TransactionRuntime) : Except Failure TransactionRuntime :=
  match s.terminal with
  | .unclaimed => (s.observe (.accepted .close)).closeUnclaimed
  | _ => .ok (s.observe (.accepted .close))

/-- `#settleAcquireQuarantineState` -/
def settleAcquireQuarantineState (s : TransactionRuntime) : TransactionRuntime :=
  match s.acquireQuarantines, s.token, s.state, s.acquireQuarantineFailure with
  | [], none, .failed, none =>
      { s with state := match s.terminal with
        | .unclaimed => .idle
        | _ => .closed }
  | _, _, _, _ => s

/-- The reaction on the completion of a quarantined acquire. -/
def acquireQuarantineSettled (s : TransactionRuntime) (work : Nat)
    (result : Except Failure Unit) : TransactionRuntime :=
  { s with
    acquireQuarantines := s.acquireQuarantines.erase work
    acquireQuarantineFailure := match result with
      | .ok _ => s.acquireQuarantineFailure
      | .error e => some e }.settleAcquireQuarantineState

/-- `onDetached`: `#trackAcquireQuarantine` or `#trackOperationQuarantine`. -/
def trackQuarantine (s : TransactionRuntime) (work : Nat) : AdapterCall → TransactionRuntime
  | .acquire => { s with acquireQuarantines := s.acquireQuarantines ++ [work] }
  | .invoke .. | .reset _ =>
      { s with operationQuarantine := some (s.operationQuarantine.getD [] ++ [work]) }

def detach (s : TransactionRuntime) (call : AdapterCall) (b : Bounded JsValue Failure)
    (tracked : Bool) : TransactionRuntime :=
  { s with
    detached := Function.update s.detached b.work (some ⟨call, b.raw, tracked⟩)
    settlement := Function.update s.settlement b.work none }

def settleCompletion (s : TransactionRuntime) (work : Nat) (result : Except Failure Unit) :
    TransactionRuntime :=
  { s with settlement := Function.update s.settlement work (some result) }

/-- The reaction on the promise of a detached call. Only an acquire has an owner for what
arrives late, `#cleanupLateAcquire`. -/
def reactDetached (s : TransactionRuntime) (work : Nat) (x : Detached)
    (outcome : Except Failure JsValue) : TransactionRuntime :=
  let s := { s with detached := Function.update s.detached work none }
  match x.tracked, x.call, outcome with
  | false, _, _ => s
  | true, .acquire, .ok v =>
      if v.isObject then
        { s with lateCleanups := work :: s.lateCleanups }.handOver (.lateAcquire work) work
          ⟨false, .beginRollback, .none⟩
      else s.settleCompletion work (.ok ())
  | true, _, _ => s.settleCompletion work (.ok ())

/-- `#cleanupLateAcquire` continues after the release. -/
def lateAcquireCleaned (s : TransactionRuntime) (work : Nat)
    (result : Except Failure JsValue) : TransactionRuntime :=
  { s with lateCleanups := s.lateCleanups.erase work }.settleCompletion work
    (result.map fun _ => ())

/-- The late release continues once its quarantine has converged. -/
def lateReleaseConverged (s : TransactionRuntime) (quarantine : List Nat)
    (disposition : TransactionReleaseDisposition) : TransactionRuntime :=
  let s := { s with
    operationQuarantine :=
      if s.operationQuarantine = some quarantine then none else s.operationQuarantine }
  match s.claimRelease with
  | some lease =>
      { s with
        releaseClaimed := true
        state := .releasing
        lateRelease := .releasing lease disposition }.handOver .lateRelease lease disposition
  | none => { s with releaseClaimed := true, lateRelease := .done }.finishClosed

def lateReleaseEnded (s : TransactionRuntime) : TransactionRuntime :=
  { s with lateRelease := .done }.finishClosed

end TransactionRuntime

end OpenRfc.Transaction
