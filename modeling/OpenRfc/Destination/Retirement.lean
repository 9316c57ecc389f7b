import OpenRfc.Destination.Ownership
import OpenRfc.Foundation.WaitGraph

/-!
Generations and destination runtimes which retire together. The retire hooks and the late
disposals of a generation and the repository of a runtime are foreign code, which may call
`retire` of any other member and await it. Every call carries two asynchronous contexts, one
of the generations and one of the runtimes, and each kind of member keeps a wait-for graph of
its own.
-/

namespace OpenRfc.Destination

structure RetirementContext (α : Type) where
  owners : List α
  owner : α

/-- The asynchronous contexts of a call: `retirementHookContext` and
`destinationRetirementContext`. -/
structure AsyncContext (ι κ : Type) where
  hook : Option (RetirementContext ι)
  destination : Option (RetirementContext κ)

inductive Member (ι κ : Type)
  | generation (g : ι)
  | runtime (r : κ)
deriving DecidableEq

/-- Foreign code which a retirement waits for. -/
inductive Task (ι κ : Type)
  | hook (g : ι) (lane : Lane)
  | disposal (g : ι) (i : Nat)
  | repository (r : κ)
deriving DecidableEq

inductive Caller (ι κ : Type)
  | outside
  | task (t : Task ι κ)
  /-- The factory of a generation, while it opens a connection. -/
  | opening (g : ι) (i : Nat)
deriving DecidableEq

/-- What `retire` returns: the promise of the retirement, or a promise which is fulfilled. -/
inductive Answer
  | promise
  | acknowledgement
deriving DecidableEq, Repr

section Joins
variable {α : Type} [DecidableEq α]

def retirementJoinWouldCycle (dependencies : List (α × α)) (owner target : α) : Bool :=
  WaitGraph.search dependencies owner (1 + dependencies.length) [target] []

/-- The dependencies with the join tracked, or nothing if the join would close a cycle. -/
def trackRetirementJoin (dependencies : List (α × α)) (context : RetirementContext α)
    (target : α) : Option (List (α × α)) :=
  if retirementJoinWouldCycle dependencies context.owner target then none
  else some (dependencies.insert (context.owner, target))

def joinRetirement (dependencies : List (α × α)) (context : Option (RetirementContext α))
    (target : α) : Answer × List (α × α) :=
  match context with
  | none => (.promise, dependencies)
  | some context =>
    match trackRetirementJoin dependencies context target with
    | some dependencies => (.promise, dependencies)
    | none => (.acknowledgement, dependencies)

/-- The caller runs inside a retirement which belongs to the member. -/
def owns (context : Option (RetirementContext α)) (target : α) : Bool :=
  context.any fun c => target ∈ c.owners

/-- The context of the foreign code of a member. -/
def enter (inherited : Option (RetirementContext α)) (owner : α) : RetirementContext α :=
  ⟨(inherited.elim [] RetirementContext.owners).insert owner, owner⟩

end Joins

structure RfcDestinationRuntime where
  state : GenerationState
  /-- The call of `repository.retire()`. -/
  repository : HookPhase
  /-- What `generation.retire()` has returned. -/
  generation : Option Answer

/-- The generations, and the runtimes over them. -/
structure NetworkSettings (ι κ : Type) where
  generation : ι → Settings
  generationOf : κ → ι

structure Network (ι κ : Type) where
  generation : ι → DestinationConfigurationGeneration
  runtime : κ → RfcDestinationRuntime
  retirementDependencies : List (ι × ι)
  destinationRetirementDependencies : List (κ × κ)
  /-- The contexts of the call which began the retirement of a member. -/
  hookContext : ι → AsyncContext ι κ
  runtimeContext : κ → AsyncContext ι κ
  /-- The contexts of the calls which requested the opens of a generation. -/
  openContext : ι → List (AsyncContext ι κ)
  /-- The members whose promise foreign code awaits. -/
  awaits : Task ι κ → List (Member ι κ)
  /-- The answers of the calls of `retire`, newest first. -/
  answers : List (Option (Task ι κ) × Member ι κ × Answer)

inductive NetworkEvent (ι κ : Type)
  | openLane (caller : Caller ι κ) (g : ι) (lane : Lane)
  /-- A call of `retire`, by foreign code of a retirement or from outside. -/
  | retire (caller : Option (Task ι κ)) (m : Member ι κ)
  /-- A step of a generation which is no call. -/
  | generation (g : ι) (e : Event)
  | callRepository (r : κ)
  | callGeneration (r : κ)
  | settleRepository (r : κ) (outcome : Except Reason Unit)
  /-- `repository.retire()` throws before it returns. -/
  | throwRepository (r : κ)
  | finishRuntime (r : κ)
  /-- A dependency is removed, after its target or its owner has settled. -/
  | untrack (owner target : ι)
  | untrackDestination (owner target : κ)

namespace Network
variable {ι κ : Type} [DecidableEq ι] [DecidableEq κ]

def initial : Network ι κ where
  generation := fun _ => .initial
  runtime := fun _ => ⟨.active, .waiting, none⟩
  retirementDependencies := []
  destinationRetirementDependencies := []
  hookContext := fun _ => ⟨none, none⟩
  runtimeContext := fun _ => ⟨none, none⟩
  openContext := fun _ => []
  awaits := fun _ => []
  answers := []

def phase (s : Network ι κ) : Member ι κ → GenerationState
  | .generation g => (s.generation g).state
  | .runtime r => (s.runtime r).state

/-- The retirement of the member has settled. -/
def settled (s : Network ι κ) (m : Member ι κ) : Bool := s.phase m = .retired

def openedIn (s : Network ι κ) (g : ι) (i : Nat) : AsyncContext ι κ :=
  ((s.openContext g)[i]?).getD ⟨none, none⟩

/-- The contexts of the foreign code. -/
def taskContext (s : Network ι κ) : Task ι κ → AsyncContext ι κ
  | .hook g _ => ⟨some (enter (s.hookContext g).hook g), (s.hookContext g).destination⟩
  | .disposal g i => ⟨some (enter (s.openedIn g i).hook g), (s.openedIn g i).destination⟩
  | .repository r =>
    ⟨(s.runtimeContext r).hook, some (enter (s.runtimeContext r).destination r)⟩

def context (s : Network ι κ) : Caller ι κ → AsyncContext ι κ
  | .outside => ⟨none, none⟩
  | .task t => s.taskContext t
  | .opening g i => s.openedIn g i

/-- The foreign code has been called and has not settled. -/
def isRunning (s : Network ι κ) : Task ι κ → Bool
  | .hook g lane =>
    match (s.generation g).retirement with
    | some r => match r.hooks lane with
      | some .running => true
      | _ => false
    | none => false
  | .disposal g i =>
    match (s.generation g).opens[i]? with
    | some ⟨_, .disposing _⟩ => true
    | _ => false
  | .repository r =>
    match s.runtime r with
    | ⟨.retiring, .running, _⟩ => true
    | _ => false

def isCalling (s : Network ι κ) : Caller ι κ → Bool
  | .outside => true
  | .task t => s.isRunning t
  | .opening g i =>
    match (s.generation g).opens[i]? with
    | some ⟨_, .opening⟩ => true
    | _ => false

/-- Whatever the foreign code awaits has settled. -/
def isReady (s : Network ι κ) (t : Task ι κ) : Bool := (s.awaits t).all s.settled

def setGeneration (s : Network ι κ) (g : ι) (x : DestinationConfigurationGeneration) :
    Network ι κ :=
  { s with generation := Function.update s.generation g x }

def setRuntime (s : Network ι κ) (r : κ) (x : RfcDestinationRuntime) : Network ι κ :=
  { s with runtime := Function.update s.runtime r x }

/-- `DestinationConfigurationGeneration.retire`, called in the context. -/
def retireGeneration (cfg : NetworkSettings ι κ) (s : Network ι κ) (context : AsyncContext ι κ)
    (g : ι) : Answer × Network ι κ :=
  let x := s.generation g
  let called := s.setGeneration g (x.retire (cfg.generation g))
  if x.state = .retired then (.promise, called)
  else if owns context.hook g then (.acknowledgement, called)
  else
    let called := if x.retirement.isSome then called
      else { called with hookContext := Function.update s.hookContext g context }
    let (answer, dependencies) := joinRetirement s.retirementDependencies context.hook g
    (answer, { called with retirementDependencies := dependencies })

/-- `RfcDestinationRuntime.retire`, called in the context. -/
def retireRuntime (s : Network ι κ) (context : AsyncContext ι κ) (r : κ) :
    Answer × Network ι κ :=
  let x := s.runtime r
  if owns context.destination r then (.acknowledgement, s)
  else
    let began := s.setRuntime r { x with state := .retiring }
    let called := if x.state = .active then
        { began with runtimeContext := Function.update s.runtimeContext r context }
      else s
    let (answer, dependencies) :=
      joinRetirement s.destinationRetirementDependencies context.destination r
    (answer, { called with destinationRetirementDependencies := dependencies })

def retireMember (cfg : NetworkSettings ι κ) (s : Network ι κ) (context : AsyncContext ι κ) :
    Member ι κ → Answer × Network ι κ
  | .generation g => s.retireGeneration cfg context g
  | .runtime r => s.retireRuntime context r

/-- The caller has been answered. Foreign code awaits the promise it is given. -/
def answered (s : Network ι κ) (caller : Option (Task ι κ)) (m : Member ι κ) (answer : Answer) :
    Network ι κ :=
  let s := { s with answers := (caller, m, answer) :: s.answers }
  match caller, answer with
  | some t, .promise => { s with awaits := Function.update s.awaits t (m :: s.awaits t) }
  | _, _ => s

/-- The steps of a generation which are no calls, and which its foreign code allows. -/
def allows (s : Network ι κ) (g : ι) : Event → Bool
  | .openLane _ | .retire => false
  | .settleHook lane _ => s.isReady (.hook g lane)
  | .settleDisposal i _ => s.isReady (.disposal g i)
  | _ => true

def step (cfg : NetworkSettings ι κ) (s : Network ι κ) :
    NetworkEvent ι κ → Option (Network ι κ)
  | .openLane caller g lane =>
    if s.isCalling caller then
      let opened := s.setGeneration g ((s.generation g).openLane (cfg.generation g) lane)
      let contexts := s.openContext g ++ [s.context caller]
      some { opened with openContext := Function.update s.openContext g contexts }
    else none
  | .retire caller m =>
    if caller.all s.isRunning then
      let context := caller.elim ⟨none, none⟩ s.taskContext
      let (answer, s) := s.retireMember cfg context m
      some (s.answered caller m answer)
    else none
  | .generation g e =>
    if s.allows g e then
      ((s.generation g).step (cfg.generation g) e).map (s.setGeneration g)
    else none
  | .callRepository r =>
    match s.runtime r with
    | ⟨.retiring, .waiting, none⟩ => some (s.setRuntime r ⟨.retiring, .running, none⟩)
    | _ => none
  | .callGeneration r =>
    match s.runtime r with
    | ⟨.retiring, .waiting, none⟩ => none
    | ⟨.retiring, phase, none⟩ =>
      let (answer, s) :=
        s.retireGeneration cfg (s.taskContext (.repository r)) (cfg.generationOf r)
      some (s.setRuntime r ⟨.retiring, phase, some answer⟩)
    | _ => none
  | .settleRepository r outcome =>
    match s.runtime r with
    | ⟨.retiring, .running, called⟩ =>
      if s.isReady (.repository r) then
        some (s.setRuntime r ⟨.retiring, .settled outcome, called⟩)
      else none
    | _ => none
  | .throwRepository r =>
    match s.runtime r with
    | ⟨.retiring, .running, none⟩ =>
      if s.isReady (.repository r) then some (s.setRuntime r ⟨.retired, .running, none⟩)
      else none
    | _ => none
  | .finishRuntime r =>
    match s.runtime r with
    | ⟨.retiring, .settled outcome, some answer⟩ =>
      if answer = .acknowledgement ∨ s.settled (.generation (cfg.generationOf r)) then
        some (s.setRuntime r ⟨.retired, .settled outcome, some answer⟩)
      else none
    | _ => none
  | .untrack owner target =>
    if s.settled (.generation owner) || s.settled (.generation target) then
      let dependencies := s.retirementDependencies.filter (· ≠ (owner, target))
      some { s with retirementDependencies := dependencies }
    else none
  | .untrackDestination owner target =>
    if s.settled (.runtime owner) || s.settled (.runtime target) then
      let dependencies := s.destinationRetirementDependencies.filter (· ≠ (owner, target))
      some { s with destinationRetirementDependencies := dependencies }
    else none

/-- One member waits for the retirement of another, which is pending. -/
inductive Waits (cfg : NetworkSettings ι κ) (s : Network ι κ) : Member ι κ → Member ι κ → Prop
  /-- Foreign code of a generation awaits the promise of the member. -/
  | hook (g : ι) (lane : Lane) (m : Member ι κ) (h : s.isRunning (.hook g lane) = true)
      (ha : m ∈ s.awaits (.hook g lane)) (hm : s.phase m = .retiring) :
      Waits cfg s (.generation g) m
  | disposal (g : ι) (i : Nat) (m : Member ι κ) (h : s.isRunning (.disposal g i) = true)
      (ha : m ∈ s.awaits (.disposal g i)) (hm : s.phase m = .retiring) :
      Waits cfg s (.generation g) m
  /-- The repository of a runtime does. -/
  | repository (r : κ) (m : Member ι κ) (h : s.isRunning (.repository r) = true)
      (ha : m ∈ s.awaits (.repository r)) (hm : s.phase m = .retiring) :
      Waits cfg s (.runtime r) m
  /-- A runtime has been given the promise of its generation. -/
  | body (r : κ) (h : (s.runtime r).state = .retiring)
      (ha : (s.runtime r).generation = some .promise)
      (hm : s.phase (.generation (cfg.generationOf r)) = .retiring) :
      Waits cfg s (.runtime r) (.generation (cfg.generationOf r))

end Network

def network {ι κ : Type} [DecidableEq ι] [DecidableEq κ] (cfg : NetworkSettings ι κ) :
    Machine (Network ι κ) (NetworkEvent ι κ) :=
  ⟨.initial, Network.step cfg⟩

end OpenRfc.Destination
