import OpenRfc.Foundation.OrderedMap
import OpenRfc.Metadata.Keys
import OpenRfc.Foundation.Machine

/-!
The metadata repository: a bounded cache of descriptors shared by every principal, and
the bounded tables of capability probes, authorizations and loads in flight which gate
it. An adapter call is admitted, made in a later microtask, settled, and finished by the
last handler of its promise chain; a `get` is suspended between its awaits.
-/

namespace OpenRfc.Metadata

def maxSafeInteger : Nat := 2 ^ 53 - 1

/-- The limits which the constructor keeps. -/
structure Settings where
  maxEntries : Nat
  maxRetainedBytes : Nat
  maxProbeEntries : Nat
  maxAuthorizationEntries : Nat
  maxObjectEpochEntries : Nat
  maxInFlightLoads : Nat
  retained_safe : maxRetainedBytes ≤ maxSafeInteger

/-- What `normalizeSnapshot` accepts of a load. -/
structure MetadataSnapshot (α : Type) where
  value : α
  retainedBytes : Nat
  retained_safe : retainedBytes ≤ maxSafeInteger

structure CacheEntry (α : Type) where
  value : α
  retainedBytes : Nat

inductive ProbeResult
  | available
  | unavailable (fallbackClassification : MetadataAccessFailureClassification)
deriving DecidableEq, Repr

structure ProbeKey where
  capability : MetadataCapabilityKey
  mode : MetadataRepositoryMode
deriving DecidableEq, Repr

inductive ProbeEntry
  | pending (job : Nat)
  | result (r : ProbeResult)
deriving DecidableEq, Repr

inductive AuthorizationEntry
  | pending (job : Nat)
  | settled
deriving DecidableEq, Repr

/-- An entry of a decision table which is not pending. -/
def ProbeEntry.isSettled : ProbeEntry → Bool
  | .pending _ => false
  | .result _ => true

def AuthorizationEntry.isSettled : AuthorizationEntry → Bool
  | .pending _ => false
  | .settled => true

/-- The adapter calls, with the context they are given. The epoch of an access call is
not passed on: its admission is filed under it. -/
inductive AdapterCall
  | probeOptimized (key : ProbeKey)
  | authorize (key : AccessKey)
  | load (key : AccessKey)
deriving DecidableEq, Repr

/-- What the promise chain of an adapter call settles with. -/
inductive Answer (α : Type)
  | probed (r : ProbeResult)
  | authorized
  | loaded (value : α)

inductive Status (α : Type)
  | queued
  | called
  /-- The handlers have run, except for the last. -/
  | settled (result : Except Failure (Answer α))
  | finished (result : Except Failure (Answer α))

/-- An adapter call. `behind` holds the calls whose last handler was queued when this one
was admitted: reactions run in the order in which they are queued, so those handlers run
before this call settles. -/
structure Job (α : Type) where
  call : AdapterCall
  behind : List Nat
  status : Status α

/-- What `#selectStrategy` awaits, or has come to at once. -/
inductive Selection
  | strategy (strategy : MetadataLoadStrategy)
  | result (r : ProbeResult)
  | probing (job : Nat)
  | refused (e : Failure)

inductive Stage
  | selecting (selection : Selection)
  /-- `#authorize` is awaited, for a call in progress or for an entry which has settled. -/
  | authorizing (fallback : Bool) (strategy : MetadataLoadStrategy)
      (admissionEpoch : OperationEpoch) (job : Option Nat)
  | loading (fallback : Bool) (strategy : MetadataLoadStrategy)
      (admissionEpoch : OperationEpoch) (job : Nat)
  /-- The first attempt has failed; the catch of `#getCanonical` is queued. -/
  | failing (strategy : MetadataLoadStrategy) (e : Failure)
  | done

/-- A call of `get`. `epoch` is the one it started in. -/
structure Get where
  lookup : MetadataLookup
  epoch : OperationEpoch
  canceled : Bool
  stage : Stage

inductive Observation (α : Type)
  | started (get : Nat) (lookup : MetadataLookup)
  | canceled (get : Nat)
  | invalidated (structural : MetadataStructuralKey)
  | invalidatedAll
  | retired
  /-- An adapter call is admitted, made, and settles. -/
  | admitted (job : Nat) (call : AdapterCall)
  | called (job : Nat) (call : AdapterCall)
  | fulfilled (job : Nat) (value : Option α)
  | rejected (job : Nat) (e : Failure)
  /-- A `get` passes the authorization gate with a strategy. -/
  | passed (get : Nat) (strategy : MetadataLoadStrategy)
  | joined (get : Nat) (job : Nat)
  | resolved (get : Nat) (value : α)
  | refused (get : Nat) (e : Failure)

structure MetadataRepositoryRuntime (α : Type) where
  retired : Bool
  cache : OrderedMap MetadataStructuralKey (CacheEntry α)
  retainedBytes : Nat
  inFlight : OrderedMap AccessKey Nat
  authorizations : OrderedMap AccessKey AuthorizationEntry
  probes : OrderedMap ProbeKey ProbeEntry
  objectEpochs : OrderedMap MetadataStructuralKey Nat
  globalEpoch : Nat
  activeLoads : Nat
  activeProbes : Nat
  activeAuthorizations : Nat
  jobs : List (Job α)
  gets : List Get
  trace : List (Observation α)

def capacityError (kind : String) (maximum : Nat) : Failure :=
  .error s!"metadata repository {kind} capacity {maximum} is exhausted"

def retiredError : Failure := .error "metadata repository is retired"

def accessClassification : Failure → Option MetadataAccessFailureClassification
  | .access classification _ => some classification
  | _ => none

/-- The classifications which allow the automatic fallback. -/
def fallbackClassification (e : Failure) : Option MetadataAccessFailureClassification :=
  match accessClassification e with
  | some .unavailable => some .unavailable
  | some .authorization => some .authorization
  | _ => none

def MetadataLookup.probeKey (l : MetadataLookup) : ProbeKey := ⟨l.capability, l.mode⟩

def MetadataLookup.accessKey (l : MetadataLookup) (strategy : MetadataLoadStrategy)
    (epoch : OperationEpoch) : AccessKey :=
  ⟨l.capability, l.mode, strategy, l.structural, epoch⟩

namespace MetadataRepositoryRuntime
variable {α : Type}

def observe (s : MetadataRepositoryRuntime α) (o : Observation α) :
    MetadataRepositoryRuntime α :=
  { s with trace := o :: s.trace }

def setStage (s : MetadataRepositoryRuntime α) (g : Nat) (x : Get) (stage : Stage) :
    MetadataRepositoryRuntime α :=
  { s with gets := s.gets.set g { x with stage := stage } }

/-- `#epochFor` -/
def epochFor (s : MetadataRepositoryRuntime α) (o : MetadataStructuralKey) : OperationEpoch :=
  ⟨s.globalEpoch, (s.objectEpochs.get o).getD 0⟩

/-- `#advanceObjectEpoch` -/
def advanceObjectEpoch (cfg : Settings) (s : MetadataRepositoryRuntime α)
    (o : MetadataStructuralKey) : MetadataRepositoryRuntime α :=
  match s.objectEpochs.get o with
  | some n => { s with objectEpochs := s.objectEpochs.touch o (n + 1) }
  | none =>
      if s.objectEpochs.size < cfg.maxObjectEpochEntries then
        { s with objectEpochs := s.objectEpochs.set o 1 }
      else
        { s with
          globalEpoch := s.globalEpoch + 1
          objectEpochs := .empty
          authorizations := .empty
          inFlight := .empty }

def forgetAuthorizationsForStructural (s : MetadataRepositoryRuntime α)
    (o : MetadataStructuralKey) : MetadataRepositoryRuntime α :=
  { s with authorizations := s.authorizations.retain fun k _ => k.structural ≠ o }

def forgetAuthorization (s : MetadataRepositoryRuntime α) (k : AccessKey) :
    MetadataRepositoryRuntime α :=
  { s with authorizations := s.authorizations.delete k }

/-- `#deleteCacheEntry`, and whether it throws or what it returns. -/
def deleteCacheEntry (s : MetadataRepositoryRuntime α) (o : MetadataStructuralKey) :
    MetadataRepositoryRuntime α × Except Failure Bool :=
  match s.cache.get o with
  | none => (s, .ok false)
  | some entry =>
      let s := { s with cache := s.cache.delete o }
      if s.retainedBytes < entry.retainedBytes then
        (s, .error (.error "metadata cache retained-byte subtraction is unsafe"))
      else
        ({ s with retainedBytes := s.retainedBytes - entry.retainedBytes
          }.forgetAuthorizationsForStructural o, .ok true)

/-- `invalidate`. It returns once the trace shows that it has invalidated the object. -/
def invalidate (cfg : Settings) (s : MetadataRepositoryRuntime α)
    (o : MetadataStructuralKey) : MetadataRepositoryRuntime α :=
  match s.deleteCacheEntry o with
  | (s, .error _) => s
  | (s, .ok _) =>
      let s := (s.advanceObjectEpoch cfg o).forgetAuthorizationsForStructural o
      { s with inFlight := s.inFlight.retain fun k _ => k.structural ≠ o }.observe
        (.invalidated o)

def invalidateAll (s : MetadataRepositoryRuntime α) : MetadataRepositoryRuntime α :=
  { s with
    cache := .empty
    retainedBytes := 0
    inFlight := .empty
    authorizations := .empty
    probes := .empty
    objectEpochs := .empty
    globalEpoch := s.globalEpoch + 1 }.observe .invalidatedAll

/-- `retire`. Its abort listeners run before the repository is invalidated; what they call
is like a call before it. -/
def retire (s : MetadataRepositoryRuntime α) : MetadataRepositoryRuntime α :=
  if s.retired then s else { s with retired := true }.invalidateAll.observe .retired

/-- The eviction loop of `#cacheSnapshot`. Without fuel it has not come to an end. -/
def evictionLoop (cfg : Settings) (bytes : Nat) :
    Nat → MetadataRepositoryRuntime α → Option (MetadataRepositoryRuntime α × Except Failure Unit)
  | 0, _ => none
  | fuel + 1, s =>
      if cfg.maxEntries ≤ s.cache.size ∨ cfg.maxRetainedBytes < s.retainedBytes + bytes then
        match s.cache.oldest fun _ _ => true with
        | none => some (s, .error (.error "metadata cache accounting invariant was violated"))
        | some oldest =>
            match s.deleteCacheEntry oldest with
            | (s, .error e) => some (s, .error e)
            | (s, .ok _) => evictionLoop cfg bytes fuel s
      else some (s, .ok ())

/-- `#cacheSnapshot` -/
def cacheSnapshot (cfg : Settings) (s : MetadataRepositoryRuntime α)
    (o : MetadataStructuralKey) (snapshot : MetadataSnapshot α) :
    Option (MetadataRepositoryRuntime α × Except Failure α) :=
  match s.cache.get o with
  | some existing =>
      some ({ s with cache := s.cache.touch o existing }, .ok existing.value)
  | none =>
      if cfg.maxEntries = 0 ∨ cfg.maxRetainedBytes < snapshot.retainedBytes then
        some (s.forgetAuthorizationsForStructural o, .ok snapshot.value)
      else
        (s.evictionLoop cfg snapshot.retainedBytes (s.cache.size + 1)).map fun
          | (s, .error e) => (s, .error e)
          | (s, .ok ()) =>
              if maxSafeInteger < s.retainedBytes + snapshot.retainedBytes then
                (s, .error (.error "metadata cache retained-byte sum is unsafe"))
              else
                ({ s with
                  cache := s.cache.set o ⟨snapshot.value, snapshot.retainedBytes⟩
                  retainedBytes := s.retainedBytes + snapshot.retainedBytes },
                  .ok snapshot.value)

/-- The calls which have settled, and whose last handler is queued. -/
def settledJobs (s : MetadataRepositoryRuntime α) : List Nat :=
  (List.range s.jobs.length).filter fun i =>
    match s.jobs[i]? with
    | some ⟨_, _, .settled _⟩ => true
    | _ => false

/-- An adapter call is admitted. -/
def admitJob (s : MetadataRepositoryRuntime α) (call : AdapterCall) :
    MetadataRepositoryRuntime α :=
  { s with jobs := s.jobs ++ [Job.mk call s.settledJobs .queued] }.observe
    (.admitted s.jobs.length call)

/-- `#probeOptimized`, up to what it awaits. -/
def probeOptimized (cfg : Settings) (s : MetadataRepositoryRuntime α) (key : ProbeKey) :
    MetadataRepositoryRuntime α × Selection :=
  let start (s : MetadataRepositoryRuntime α) :=
    ({ s with
      activeProbes := s.activeProbes + 1
      probes := s.probes.set key (.pending s.jobs.length) }.admitJob (.probeOptimized key),
      Selection.probing s.jobs.length)
  match s.probes.get key with
  | some (.pending job) => (s, .probing job)
  | some (.result r) => ({ s with probes := s.probes.touch key (.result r) }, .result r)
  | none =>
      if cfg.maxProbeEntries ≤ s.activeProbes then
        (s, .refused (capacityError "probe" cfg.maxProbeEntries))
      else if cfg.maxProbeEntries ≤ s.probes.size then
        match s.probes.oldest fun _ e => e.isSettled with
        | none => (s, .refused (capacityError "probe" cfg.maxProbeEntries))
        | some victim => start { s with probes := s.probes.delete victim }
      else start s

/-- `#selectStrategy`, up to what it awaits. -/
def selectStrategy (cfg : Settings) (s : MetadataRepositoryRuntime α) (l : MetadataLookup) :
    MetadataRepositoryRuntime α × Selection :=
  match l.mode with
  | .classic => (s, .strategy .classic)
  | .legacyV3 => (s, .strategy .legacyV3)
  | .auto | .optimizedOnly => s.probeOptimized cfg l.probeKey

/-- `get`, up to its first await. -/
def get (cfg : Settings) (s : MetadataRepositoryRuntime α) (l : MetadataLookup) :
    Except Failure (MetadataRepositoryRuntime α) :=
  if s.retired then .error retiredError
  else
    let epoch := s.epochFor l.structural
    let (s, selection) := (s.observe (.started s.gets.length l)).selectStrategy cfg l
    .ok { s with gets := s.gets ++ [Get.mk l epoch false (.selecting selection)] }

/-- The promise which `get` returned is rejected, unless its caller has given up. -/
def reject (s : MetadataRepositoryRuntime α) (g : Nat) (x : Get) (e : Failure) :
    MetadataRepositoryRuntime α :=
  let s := s.setStage g x .done
  if x.canceled then s else s.observe (.refused g e)

def resolve (s : MetadataRepositoryRuntime α) (g : Nat) (x : Get) (value : α) :
    MetadataRepositoryRuntime α :=
  let s := s.setStage g x .done
  if x.canceled then s else s.observe (.resolved g value)

/-- `#getWithStrategy` throws. -/
def failAttempt (s : MetadataRepositoryRuntime α) (g : Nat) (x : Get) (fallback : Bool)
    (strategy : MetadataLoadStrategy) (e : Failure) : MetadataRepositoryRuntime α :=
  if fallback then s.reject g x e else s.setStage g x (.failing strategy e)

/-- `#authorize`, up to what it awaits: a call in progress, or nothing where the entry has
settled. -/
def authorize (cfg : Settings) (s : MetadataRepositoryRuntime α) (key : AccessKey) :
    MetadataRepositoryRuntime α × Except Failure (Option Nat) :=
  let start (s : MetadataRepositoryRuntime α) :=
    ({ s with
      activeAuthorizations := s.activeAuthorizations + 1
      authorizations := s.authorizations.set key (.pending s.jobs.length) }.admitJob
        (.authorize key), Except.ok (some s.jobs.length))
  match s.authorizations.get key with
  | some (.pending job) => (s, .ok (some job))
  | some .settled =>
      ({ s with authorizations := s.authorizations.touch key .settled }, .ok none)
  | none =>
      if cfg.maxAuthorizationEntries ≤ s.activeAuthorizations then
        (s, .error (capacityError "authorization" cfg.maxAuthorizationEntries))
      else if cfg.maxAuthorizationEntries ≤ s.authorizations.size then
        match s.authorizations.oldest fun _ e => e.isSettled with
        | none => (s, .error (capacityError "authorization" cfg.maxAuthorizationEntries))
        | some victim => start { s with authorizations := s.authorizations.delete victim }
      else start s

/-- One round of the authorization loop of `#getWithStrategy`. -/
def authorizeFor (cfg : Settings) (s : MetadataRepositoryRuntime α) (g : Nat) (x : Get)
    (fallback : Bool) (strategy : MetadataLoadStrategy) (admissionEpoch : OperationEpoch) :
    MetadataRepositoryRuntime α :=
  match s.authorize cfg (x.lookup.accessKey strategy admissionEpoch) with
  | (s, .ok job) => s.setStage g x (.authorizing fallback strategy admissionEpoch job)
  | (s, .error e) => s.failAttempt g x fallback strategy e

/-- `#getWithStrategy`, up to its first await. -/
def getWithStrategy (cfg : Settings) (s : MetadataRepositoryRuntime α) (g : Nat) (x : Get)
    (fallback : Bool) (strategy : MetadataLoadStrategy) : MetadataRepositoryRuntime α :=
  if s.retired then s.failAttempt g x fallback strategy retiredError
  else s.authorizeFor cfg g x fallback strategy x.epoch

/-- `#getWithStrategy` past the authorization gate. -/
def access (cfg : Settings) (s : MetadataRepositoryRuntime α) (g : Nat) (x : Get)
    (fallback : Bool) (strategy : MetadataLoadStrategy) (admissionEpoch : OperationEpoch) :
    MetadataRepositoryRuntime α :=
  let key := x.lookup.accessKey strategy admissionEpoch
  match s.cache.get x.lookup.structural with
  | some cached =>
      { s with cache := s.cache.touch x.lookup.structural cached }.resolve g x cached.value
  | none =>
      match s.inFlight.get key with
      | some job =>
          (s.observe (.joined g job)).setStage g x
            (.loading fallback strategy admissionEpoch job)
      | none =>
          if cfg.maxInFlightLoads ≤ s.activeLoads then
            s.failAttempt g x fallback strategy (capacityError "load" cfg.maxInFlightLoads)
          else
            ({ s with
              activeLoads := s.activeLoads + 1
              inFlight := s.inFlight.set key s.jobs.length }.admitJob (.load key)).setStage g x
                (.loading fallback strategy admissionEpoch s.jobs.length)

/-- `#getWithStrategy` continues after `#authorize`. -/
def authorized (cfg : Settings) (s : MetadataRepositoryRuntime α) (g : Nat) (x : Get)
    (fallback : Bool) (strategy : MetadataLoadStrategy) (admissionEpoch : OperationEpoch) :
    MetadataRepositoryRuntime α :=
  if s.retired then s.failAttempt g x fallback strategy retiredError
  else if s.epochFor x.lookup.structural = admissionEpoch then
    (s.observe (.passed g strategy)).access cfg g x fallback strategy admissionEpoch
  else
    (s.forgetAuthorization (x.lookup.accessKey strategy admissionEpoch)).authorizeFor cfg g x
      fallback strategy (s.epochFor x.lookup.structural)

/-- `#selectStrategy` continues after its probe. -/
def probed (cfg : Settings) (s : MetadataRepositoryRuntime α) (g : Nat) (x : Get) :
    ProbeResult → MetadataRepositoryRuntime α
  | .available => s.getWithStrategy cfg g x false .optimized
  | .unavailable classification =>
      match x.lookup.mode with
      | .auto => s.getWithStrategy cfg g x false .classic
      | _ => s.reject g x (.access classification s!"optimized metadata is {classification.text}")

/-- `#rememberOptimizedFallback` -/
def rememberOptimizedFallback (cfg : Settings) (s : MetadataRepositoryRuntime α) (x : Get)
    (e : Failure) : MetadataRepositoryRuntime α :=
  let key := x.lookup.probeKey
  match fallbackClassification e with
  | none => s
  | some classification =>
      let remember (s : MetadataRepositoryRuntime α) :=
        { s with probes := s.probes.touch key (.result (.unavailable classification)) }
      if s.retired ∨ s.epochFor x.lookup.structural ≠ x.epoch then s
      else
        match s.probes.get key with
        | some (.pending _) => s
        | some (.result _) => remember s
        | none =>
            if cfg.maxProbeEntries ≤ s.probes.size then
              match s.probes.oldest fun _ e => e.isSettled with
              | none => s
              | some victim => remember { s with probes := s.probes.delete victim }
            else remember s

/-- The catch of `#getCanonical`. -/
def attemptFailed (cfg : Settings) (s : MetadataRepositoryRuntime α) (g : Nat) (x : Get)
    (strategy : MetadataLoadStrategy) (e : Failure) : MetadataRepositoryRuntime α :=
  let s := s.forgetAuthorization (x.lookup.accessKey strategy x.epoch)
  if strategy = .optimized ∧ x.lookup.mode = .auto ∧ (fallbackClassification e).isSome then
    ((s.rememberOptimizedFallback cfg x e).forgetAuthorization
      (x.lookup.accessKey .optimized x.epoch)).getWithStrategy cfg g x true .classic
  else s.reject g x e

/-- `#getWithStrategy` continues after the load. -/
def loadEnded (s : MetadataRepositoryRuntime α) (g : Nat) (x : Get) (fallback : Bool)
    (strategy : MetadataLoadStrategy) (admissionEpoch : OperationEpoch) :
    Except Failure (Answer α) → MetadataRepositoryRuntime α
  | .ok (.loaded value) => s.resolve g x value
  | .ok _ => s
  | .error e =>
      (s.forgetAuthorization (x.lookup.accessKey strategy admissionEpoch)).failAttempt g x
        fallback strategy e

def setStatus (s : MetadataRepositoryRuntime α) (j : Nat) (job : Job α)
    (status : Status α) : MetadataRepositoryRuntime α :=
  { s with jobs := s.jobs.set j { job with status := status } }

/-- The handlers of a probe. -/
def probeSettled (s : MetadataRepositoryRuntime α) (j : Nat) (job : Job α) (key : ProbeKey)
    (outcome : Except Failure Unit) : MetadataRepositoryRuntime α :=
  let result : Except Failure ProbeResult := match outcome with
    | .ok () => .ok .available
    | .error e =>
        match fallbackClassification e with
        | some classification => .ok (.unavailable classification)
        | none => .error e
  let own := s.probes.get key = some (.pending j)
  let s := s.setStatus j job (.settled (result.map .probed))
  match result with
  | .ok r => if own then { s with probes := s.probes.set key (.result r) } else s
  | .error _ => if own then { s with probes := s.probes.delete key } else s

/-- The handlers of an authorization. -/
def authorizationSettled (s : MetadataRepositoryRuntime α) (j : Nat) (job : Job α)
    (key : AccessKey) (outcome : Except Failure Unit) : MetadataRepositoryRuntime α :=
  let own := s.authorizations.get key = some (.pending j)
  let s := s.setStatus j job (.settled (outcome.map fun _ => .authorized))
  match outcome with
  | .ok () =>
      if own then
        if !s.retired ∧ s.epochFor key.structural = key.epoch then
          { s with authorizations := s.authorizations.set key .settled }
        else s.forgetAuthorization key
      else s
  | .error _ => if own then s.forgetAuthorization key else s

/-- The handlers of a load. -/
def loadSettled (cfg : Settings) (s : MetadataRepositoryRuntime α) (j : Nat) (job : Job α)
    (key : AccessKey) :
    Except Failure (MetadataSnapshot α) → Option (MetadataRepositoryRuntime α)
  | .error e => some (s.setStatus j job (.settled (.error e)))
  | .ok snapshot =>
      if !s.retired ∧ s.epochFor key.structural = key.epoch then
        (s.cacheSnapshot cfg key.structural snapshot).map fun r =>
          r.1.setStatus j job (.settled (r.2.map .loaded))
      else some (s.setStatus j job (.settled (.ok (.loaded snapshot.value))))

/-- The `finally` of an adapter call. -/
def finish (s : MetadataRepositoryRuntime α) (j : Nat) (job : Job α)
    (result : Except Failure (Answer α)) : MetadataRepositoryRuntime α :=
  let s := s.setStatus j job (.finished result)
  match job.call with
  | .probeOptimized _ => { s with activeProbes := s.activeProbes - 1 }
  | .authorize _ => { s with activeAuthorizations := s.activeAuthorizations - 1 }
  | .load key =>
      { s with
        activeLoads := s.activeLoads - 1
        inFlight := if s.inFlight.get key = some j then s.inFlight.delete key else s.inFlight }

end MetadataRepositoryRuntime

/-!
The metadata repository as a machine. A label is one public call, one adapter call which
is made or settles, the last handler of its promise chain, or the continuation of a `get`.
The labels which a state enables cover every order in which promises can settle.
-/

inductive Event (α : Type)
  | get (lookup : MetadataLookup)
  /-- The caller's signal is aborted. -/
  | cancel (get : Nat)
  | invalidate (structural : MetadataStructuralKey)
  | invalidateAll
  | retire
  /-- The microtask which calls the adapter. -/
  | call (job : Nat)
  /-- A probe or an authorization settles. -/
  | settle (job : Nat) (outcome : Except Failure Unit)
  /-- A load settles, and its snapshot is checked. -/
  | settleLoad (job : Nat) (outcome : Except Failure (MetadataSnapshot α))
  | finish (job : Nat)
  /-- A `get` continues after its await. -/
  | resume (get : Nat)

namespace MetadataRepositoryRuntime
variable {α : Type}

def initial : MetadataRepositoryRuntime α where
  retired := false
  cache := .empty
  retainedBytes := 0
  inFlight := .empty
  authorizations := .empty
  probes := .empty
  objectEpochs := .empty
  globalEpoch := 0
  activeLoads := 0
  activeProbes := 0
  activeAuthorizations := 0
  jobs := []
  gets := []
  trace := []

/-- How the adapter's promise has settled. -/
def observeSettlement (s : MetadataRepositoryRuntime α) (j : Nat) :
    Except Failure (Option α) → MetadataRepositoryRuntime α
  | .ok value => s.observe (.fulfilled j value)
  | .error e => s.observe (.rejected j e)

/-- The result of an adapter call whose promise chain has settled. -/
def finished (s : MetadataRepositoryRuntime α) (j : Nat) : Option (Except Failure (Answer α)) :=
  match s.jobs[j]? with
  | some ⟨_, _, .finished result⟩ => some result
  | _ => none

/-- A call which has been made, once the calls it is behind have finished. -/
def running (s : MetadataRepositoryRuntime α) (j : Nat) : Option (Job α) :=
  match s.jobs[j]? with
  | some ⟨call, behind, .called⟩ =>
      if behind.all fun i => (s.finished i).isSome then some ⟨call, behind, .called⟩ else none
  | _ => none

def resume (cfg : Settings) (s : MetadataRepositoryRuntime α) (g : Nat) (x : Get) :
    Option (MetadataRepositoryRuntime α) :=
  match x.stage with
  | .selecting (.strategy strategy) => some (s.getWithStrategy cfg g x false strategy)
  | .selecting (.result r) => some (s.probed cfg g x r)
  | .selecting (.refused e) => some (s.reject g x e)
  | .selecting (.probing job) =>
      match s.finished job with
      | some (.ok (.probed r)) => some (s.probed cfg g x r)
      | some (.error e) => some (s.reject g x e)
      | _ => none
  | .authorizing fallback strategy admissionEpoch none =>
      some (s.authorized cfg g x fallback strategy admissionEpoch)
  | .authorizing fallback strategy admissionEpoch (some job) =>
      match s.finished job with
      | some (.ok _) => some (s.authorized cfg g x fallback strategy admissionEpoch)
      | some (.error e) => some (s.failAttempt g x fallback strategy e)
      | none => none
  | .loading fallback strategy admissionEpoch job =>
      (s.finished job).map (s.loadEnded g x fallback strategy admissionEpoch)
  | .failing strategy e => some (s.attemptFailed cfg g x strategy e)
  | .done => none

def step (cfg : Settings) (s : MetadataRepositoryRuntime α) :
    Event α → Option (MetadataRepositoryRuntime α)
  | .get l =>
      match s.get cfg l with
      | .ok s' => some s'
      | .error _ => some s
  | .cancel g =>
      match s.gets[g]? with
      | some ⟨l, epoch, false, stage⟩ =>
          match stage with
          | .done => none
          | stage =>
              some ({ s with gets := s.gets.set g ⟨l, epoch, true, stage⟩ }.observe
                (.canceled g))
      | _ => none
  | .invalidate o => some (s.invalidate cfg o)
  | .invalidateAll => some s.invalidateAll
  | .retire => some s.retire
  | .call j =>
      match s.jobs[j]? with
      | some ⟨call, behind, .queued⟩ =>
          some ((s.setStatus j ⟨call, behind, .queued⟩ .called).observe (.called j call))
      | _ => none
  | .settle j outcome =>
      match s.running j with
      | some ⟨.probeOptimized key, behind, status⟩ =>
          some ((s.observeSettlement j (outcome.map fun _ => none)).probeSettled j
            ⟨.probeOptimized key, behind, status⟩ key outcome)
      | some ⟨.authorize key, behind, status⟩ =>
          some ((s.observeSettlement j (outcome.map fun _ => none)).authorizationSettled j
            ⟨.authorize key, behind, status⟩ key outcome)
      | _ => none
  | .settleLoad j outcome =>
      match s.running j with
      | some ⟨.load key, behind, status⟩ =>
          (s.observeSettlement j (outcome.map fun x => some x.value)).loadSettled cfg j
            ⟨.load key, behind, status⟩ key outcome
      | _ => none
  | .finish j =>
      match s.jobs[j]? with
      | some ⟨call, behind, .settled result⟩ =>
          some (s.finish j ⟨call, behind, .settled result⟩ result)
      | _ => none
  | .resume g =>
      match s.gets[g]? with
      | some x => s.resume cfg g x
      | none => none

end MetadataRepositoryRuntime

def machine (α : Type) (cfg : Settings) : Machine (MetadataRepositoryRuntime α) (Event α) where
  init := .initial
  step := MetadataRepositoryRuntime.step cfg

/-- A repository which holds one descriptor and makes one call of each kind at a time. -/
def oneDescriptor : Settings where
  maxEntries := 1
  maxRetainedBytes := 64
  maxProbeEntries := 1
  maxAuthorizationEntries := 2
  maxObjectEpochEntries := 1
  maxInFlightLoads := 1
  retained_safe := by decide

def functionLookup (objectName principalKey : String) (mode : MetadataRepositoryMode) :
    MetadataLookup :=
  ⟨⟨"backend", "g1", "E", "function", objectName⟩, ⟨"backend", principalKey⟩, mode, rfl⟩

def smallSnapshot (value : Nat) : MetadataSnapshot Nat := ⟨value, 8, by decide⟩

/-- A classic `get`, the first of a run, which is authorized, loads, and resolves. -/
def loadedOnce (l : MetadataLookup) : List (Event Nat) :=
  [.get l, .resume 0, .call 0, .settle 0 (.ok ()), .finish 0,
    .resume 0, .call 1, .settleLoad 1 (.ok (smallSnapshot 7)), .finish 1, .resume 0]

end OpenRfc.Metadata
