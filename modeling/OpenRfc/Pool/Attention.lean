import OpenRfc.Pool.Supply

/-!
The pump. As long as the pool is open, either something is under way which will look at
the head waiter again, or the waiter can count on the supply, or the capacity is
exhausted. Two steps of the source can break this: a dispatch which takes the resets of
lease holders for supply and starts too few creations, and a release whose reset fails,
which takes a connection out of the supply and requests no pump before that connection
has been destroyed. In the runs which avoid both, no head waiter is stranded.
-/

namespace OpenRfc.Pool
open ConnectionPoolRuntime

/-- Whether the dispatch loop still has to look at the waiters. -/
def Dispatch.running : Dispatch → Bool
  | .stopped | .returned => false
  | _ => true

namespace ConnectionPoolRuntime

/-- Something is under way which will look at the head waiter. -/
def Awake (s : ConnectionPoolRuntime) : Prop :=
  s.dispatch.running = true ∨ s.pumpScheduled = true ∨
    (s.dispatch = .returned ∧ s.pumpRequestedWhileDispatching = true) ∨
    s.toStore.ExpiryQueued

/-- A head waiter can count on `n` connections, unless the capacity is exhausted. -/
def Served (cfg : Settings) (s : ConnectionPoolRuntime) (n : Nat) : Prop :=
  ∀ w ∈ s.waiters.head?, (s.waiter w).active = true →
    s.capacity = cfg.maxConnections ∨ (s.waiter w).count ≤ n

instance (s : ConnectionPoolRuntime) : Decidable s.Awake :=
  inferInstanceAs (Decidable (_ ∨ _))

instance (cfg : Settings) (s : ConnectionPoolRuntime) (n : Nat) : Decidable (s.Served cfg n) :=
  inferInstanceAs (Decidable (∀ w ∈ s.waiters.head?, _))

def Attended (cfg : Settings) (s : ConnectionPoolRuntime) : Prop :=
  s.state = .opened → s.Awake ∨ s.Served cfg s.supply

/-- A job which requests no pump, and leaves the head waiter and the capacity alone. -/
structure Undisturbed (s s' : ConnectionPoolRuntime) : Prop where
  state : s'.state = s.state
  dispatch : s'.dispatch = s.dispatch
  scheduled : s'.pumpScheduled = s.pumpScheduled
  requested : s'.pumpRequestedWhileDispatching = s.pumpRequestedWhileDispatching
  head : ∀ w ∈ s'.waiters.head?, (s'.waiter w).active = true →
    w ∈ s.waiters.head? ∧ (s.waiter w).active = true ∧ (s'.waiter w).count = (s.waiter w).count
  capacity : s'.capacity = s.capacity
  expiry : s.toStore.ExpiryQueued → s'.toStore.ExpiryQueued

variable {cfg : Settings} {s s' : ConnectionPoolRuntime}

theorem Undisturbed.attended {n : Nat} (k : Undisturbed s s')
    (h : s.state = .opened → s.Awake ∨ s.Served cfg n) (hn : n ≤ s'.supply) :
    s'.Attended cfg := by
  intro hopen
  rcases h (k.state ▸ hopen) with hawake | hserved
  · left
    rcases hawake with hrun | hsched | ⟨hret, hreq⟩ | hexp
    · exact Or.inl (k.dispatch ▸ hrun)
    · exact Or.inr (Or.inl (k.scheduled.trans hsched))
    · exact Or.inr (Or.inr (Or.inl ⟨k.dispatch.trans hret, k.requested.trans hreq⟩))
    · exact Or.inr (Or.inr (Or.inr (k.expiry hexp)))
  · right
    intro w hw ha
    obtain ⟨hw', ha', hcount⟩ := k.head w hw ha
    rw [k.capacity, hcount]
    exact (hserved w hw' ha').imp id fun hle => Nat.le_trans hle hn

/-- A job which concerns neither the store nor the queue nor the pump. -/
theorem Attended.frame (h : s.Attended cfg) (hst : s'.toStore = s.toStore)
    (hq : s'.waiters = s.waiters) (hw : s'.waiter = s.waiter)
    (hp : s'.dispatch = s.dispatch ∧ s'.pumpScheduled = s.pumpScheduled ∧
      s'.pumpRequestedWhileDispatching = s.pumpRequestedWhileDispatching)
    (hs : s'.state = s.state) : s'.Attended cfg := by
  refine Undisturbed.attended ⟨hs, hp.1, hp.2.1, hp.2.2, fun w hmem ha => ?_, by rw [hst], ?_⟩
    h (by rw [hst])
  · rw [hq] at hmem
    rw [hw] at ha
    exact ⟨hmem, ha, by rw [hw]⟩
  · rw [hst]
    exact id

/-- A job which changes the store. -/
theorem Attended.store (h : s.Attended cfg) (st : Store) (hc : st.capacity = s.capacity)
    (hs : s.supply ≤ st.supply) (he : s.toStore.ExpiryQueued → st.ExpiryQueued) :
    { s with toStore := st }.Attended cfg :=
  Undisturbed.attended (s := s) ⟨rfl, rfl, rfl, rfl, fun _ hw ha => ⟨hw, ha, rfl⟩, hc, he⟩ h hs

theorem attended_requestPump (s : ConnectionPoolRuntime) : s.requestPump.Attended cfg := by
  intro hopen
  left
  unfold requestPump at hopen ⊢
  split_ifs at hopen ⊢ with h₁ h₂ h₃
  · exact absurd hopen h₁
  · cases hd : s.dispatch with
    | stopped => simp [dispatching, hd] at h₂
    | returned => exact Or.inr (Or.inr (Or.inl ⟨rfl, rfl⟩))
    | _ => exact Or.inl rfl
  · exact Or.inr (Or.inl h₃)
  · exact Or.inr (Or.inl rfl)

theorem checkClosed_opened (h : s.state = .opened) : s.checkClosed = s := by
  unfold checkClosed
  rw [if_pos (by rw [h]; decide)]

theorem opened_of_checkClosed (h : s.checkClosed.state = .opened) : s.state = .opened := by
  unfold checkClosed at h
  split at h
  · exact h
  · dsimp only at h
    split at h
    · cases h
    · rwa [state_failCloseWith, state_failCloseWith] at h

/-- Most outcomes end this way. -/
theorem attended_pumpAndClose (s : ConnectionPoolRuntime) :
    s.requestPump.checkClosed.Attended cfg := by
  intro hopen
  have hpump := opened_of_checkClosed hopen
  rw [checkClosed_opened hpump]
  exact attended_requestPump s hpump

theorem Attended.checkClosed (h : s.Attended cfg) : s.checkClosed.Attended cfg := by
  intro hopen
  have hs := opened_of_checkClosed hopen
  rw [checkClosed_opened hs]
  exact h hs

theorem Attended.rejectWaiter (h : s.Attended cfg) (w : Nat) (e : Failure) :
    (s.rejectWaiter cfg w e).Attended cfg := by
  unfold ConnectionPoolRuntime.rejectWaiter
  split
  · exact attended_requestPump _
  · exact h

theorem Attended.readClock (h : s.Attended cfg) {r : Reading} {t : Time}
    (hr : s.readClock r = .ok (t, s')) : s'.Attended cfg := by
  obtain ⟨rfl, -⟩ := readClock_ok hr
  exact h.frame rfl rfl rfl ⟨rfl, rfl, rfl⟩ rfl

/-- The timer of a waiter. -/
theorem Attended.updateWaiter (h : s.Attended cfg) (w : Nat) {f : Waiter → Waiter}
    (hf : ∀ x, (f x).count = x.count ∧ (f x).active = x.active :=
      by exact fun _ => ⟨rfl, rfl⟩) : (s.updateWaiter w f).Attended cfg := by
  have same : ∀ v, ((s.updateWaiter w f).waiter v).count = (s.waiter v).count ∧
      ((s.updateWaiter w f).waiter v).active = (s.waiter v).active := by
    intro v
    by_cases e : v = w
    · subst e
      simp [ConnectionPoolRuntime.updateWaiter, hf]
    · simp [ConnectionPoolRuntime.updateWaiter, e]
  refine Undisturbed.attended (s := s) ⟨rfl, rfl, rfl, rfl, fun v hv ha => ?_, rfl, id⟩ h
    (Nat.le_refl _)
  exact ⟨hv, (same v).2 ▸ ha, (same v).1⟩

theorem Attended.armTimeout (h : s.Attended cfg) (w : Nat) (r : Reading) (e : Option Failure) :
    (s.armTimeout cfg w r e).Attended cfg := by
  unfold ConnectionPoolRuntime.armTimeout
  split
  · exact h.rejectWaiter w _
  · rename_i now s' hr
    have h' := (h.readClock hr).updateWaiter w (f := fun x => { x with
      timeoutGeneration := x.timeoutGeneration + 1
      scheduledRemaining := max 0 (x.deadline - now)
      rearming := false })
    dsimp only
    split
    · exact h'.rejectWaiter w _
    · exact h'

theorem Attended.acquire (h : s.Attended cfg) (number : JsNumber) (timeoutMs : Option JsNumber)
    (aborted : Bool) (reading : Reading) (registration : Registration) :
    (s.acquire cfg number timeoutMs aborted reading registration).Attended cfg := by
  unfold ConnectionPoolRuntime.acquire
  split
  · exact h.frame rfl rfl rfl ⟨rfl, rfl, rfl⟩ rfl
  · split
    · exact h.frame rfl rfl rfl ⟨rfl, rfl, rfl⟩ rfl
    · exact attended_requestPump _

theorem Attended.handleTimeout (h : s.Attended cfg) (w : Nat) (r : Reading) :
    (s.handleTimeout cfg w r).Attended cfg := by
  unfold ConnectionPoolRuntime.handleTimeout
  split
  · exact h.rejectWaiter w _
  · rename_i now s' hr
    have h' := h.readClock hr
    dsimp only
    split_ifs
    · exact h'.rejectWaiter w _
    · exact (h'.updateWaiter w).rejectWaiter w _
    · exact h'.updateWaiter w
    · exact h'.rejectWaiter w _

theorem Attended.rearm (h : s.Attended cfg) (w : Nat) (r : Reading) (e : Option Failure) :
    (s.rearm cfg w r e).Attended cfg := by
  unfold ConnectionPoolRuntime.rearm
  split
  · exact h.rejectWaiter w _
  · exact h.armTimeout w r e

/-! Dispatch. -/

theorem attended_of_running (h : s.dispatch.running = true) : s.Attended cfg :=
  fun _ => Or.inl (Or.inl h)

theorem startCreations_rest (owner : Option Nat) (n : Nat) (s : ConnectionPoolRuntime) :
    (s.startCreations cfg owner n).toQueue = s.toQueue ∧
      (s.startCreations cfg owner n).toPump = s.toPump := by
  induction n generalizing s with
  | zero => exact ⟨rfl, rfl⟩
  | succ n ih =>
      have one : (s.startCreation cfg owner).toQueue = s.toQueue ∧
          (s.startCreation cfg owner).toPump = s.toPump := by
        unfold startCreation
        split <;> exact ⟨rfl, rfl⟩
      exact ⟨(ih _).1.trans one.1, (ih _).2.trans one.2⟩

theorem supply_startCreation (st : Store) (owner : Option Nat)
    (h : ∀ c ∈ st.creating, c < st.nextCreationId) :
    (st.startCreation owner).supply = st.supply + 1 := by
  have live : (st.startCreation owner).liveCreations = st.liveCreations + 1 := by
    have old : ∀ c ∈ st.creating, (st.startCreation owner).creation c = st.creation c :=
      fun c hc => Function.update_of_ne (Nat.ne_of_lt (h c hc)) ..
    change (st.creating ++ [st.nextCreationId]).countP _ = _
    rw [List.countP_append, List.countP_singleton]
    congr 1
    · exact List.countP_congr fun c hc => by rw [old c hc]
    · simp [Store.startCreation, Store.startLifecycle]
  have returning : (st.startCreation owner).returningCount = st.returningCount := rfl
  have idle : (st.startCreation owner).idle = st.idle := rfl
  unfold Store.supply
  rw [live, returning, idle]
  omega

/-- Within the capacity, as many creations are started as are asked for. -/
theorem startCreations_supply (owner : Option Nat) (n : Nat) (s : ConnectionPoolRuntime)
    (hopen : s.state = .opened) (hcap : s.capacity + n ≤ cfg.maxConnections)
    (hlt : ∀ c ∈ s.creating, c < s.nextCreationId) :
    (s.startCreations cfg owner n).capacity = s.capacity + n ∧
      (s.startCreations cfg owner n).supply = s.supply + n := by
  induction n generalizing s with
  | zero => exact ⟨rfl, rfl⟩
  | succ n ih =>
      have one : s.startCreation cfg owner =
          { s with toStore := s.toStore.startCreation owner } := by
        unfold ConnectionPoolRuntime.startCreation
        rw [if_neg]
        rw [not_or, not_not, not_le]
        exact ⟨hopen, by omega⟩
      have capacity : (s.toStore.startCreation owner).capacity = s.capacity + 1 := by
        change s.records.length + (s.creating ++ [s.nextCreationId]).length = _
        rw [List.length_append, List.length_singleton]
        rfl
      have lt : ∀ c ∈ (s.toStore.startCreation owner).creating,
          c < (s.toStore.startCreation owner).nextCreationId := by
        intro c hc
        change c ∈ s.creating ++ [s.nextCreationId] at hc
        change c < s.nextCreationId + 1
        rcases List.mem_append.mp hc with hc | hc
        · exact Nat.lt_succ_of_lt (hlt c hc)
        · rw [List.mem_singleton.mp hc]
          exact Nat.lt_succ_self _
      obtain ⟨h₁, h₂⟩ := ih { s with toStore := s.toStore.startCreation owner } hopen
        (by rw [capacity]; omega) lt
      rw [startCreations, one, h₁, h₂, capacity, supply_startCreation _ owner hlt]
      omega

/-- How many creations a dispatch starts for a waiter, where `available` connections are
expected. -/
def creationsFor (cfg : Settings) (s : ConnectionPoolRuntime) (w available : Nat) : Nat :=
  min ((s.waiter w).count - available) (cfg.maxConnections - s.capacity)

theorem waiterCannotDispatch_eq {w : Nat} {r : Reading}
    (h : s.waiterCannotDispatch cfg w r = (false, s')) :
    ∃ t, s' = { s with lastClockValue := some t }.observe (.clockRead t) := by
  unfold ConnectionPoolRuntime.waiterCannotDispatch at h
  split at h
  · cases h
  · rename_i now s₁ hr
    obtain ⟨rfl, -⟩ := readClock_ok hr
    split at h
    · cases h
    · split at h
      · exact ⟨now, (Prod.mk.inj h).2.symm⟩
      · cases h

theorem attended_ensureWaiterCapacity {w : Nat} (hopen : s.state = .opened)
    (hhead : s.waiters.head? = some w) (hcap : s.capacity ≤ cfg.maxConnections)
    (hlt : ∀ c ∈ s.creating, c < s.nextCreationId)
    (hg : s.pumpRequestedWhileDispatching = true ∨
      creationsFor cfg s w s.expectedAvailable = creationsFor cfg s w s.supply) :
    { s.ensureWaiterCapacity cfg w with dispatch := .returned }.Attended cfg := by
  intro _
  have rest : (s.ensureWaiterCapacity cfg w).toQueue = s.toQueue ∧
      (s.ensureWaiterCapacity cfg w).toPump = s.toPump :=
    startCreations_rest (some w) (creationsFor cfg s w s.expectedAvailable) s
  obtain ⟨hqueue, hpump⟩ := rest
  rcases hg with hreq | heq
  · refine Or.inl (Or.inr (Or.inr (Or.inl ⟨rfl, ?_⟩)))
    exact (congrArg Pump.pumpRequestedWhileDispatching hpump).trans hreq
  · right
    intro v hv _
    have hv' : v ∈ s.waiters.head? := (congrArg Queue.waiters hqueue) ▸ hv
    obtain rfl : v = w := by
      rw [hhead] at hv'
      exact (Option.mem_some_iff.mp hv').symm
    have within : s.capacity + creationsFor cfg s v s.expectedAvailable ≤ cfg.maxConnections := by
      unfold creationsFor
      omega
    obtain ⟨h₁, h₂⟩ := startCreations_supply (some v) _ s hopen within hlt
    have hcount : (({ s.ensureWaiterCapacity cfg v with dispatch := .returned } :
        ConnectionPoolRuntime).waiter v).count = (s.waiter v).count :=
      congrArg (fun q : Queue => (q.waiter v).count) hqueue
    rw [hcount]
    change (s.startCreations cfg (some v) (creationsFor cfg s v s.expectedAvailable)).capacity =
      cfg.maxConnections ∨ (s.waiter v).count ≤
        (s.startCreations cfg (some v) (creationsFor cfg s v s.expectedAvailable)).supply
    rw [h₁, h₂, heq]
    unfold creationsFor
    omega

theorem attended_dispatchClock {w : Nat} (r : Reading)
    (hcap : s.capacity ≤ cfg.maxConnections) (hlt : ∀ c ∈ s.creating, c < s.nextCreationId)
    (hg : s.pumpRequestedWhileDispatching = true ∨
      creationsFor cfg s w s.expectedAvailable = creationsFor cfg s w s.supply) :
    (s.dispatchClock cfg w r).Attended cfg := by
  unfold ConnectionPoolRuntime.dispatchClock
  split
  · exact attended_of_running rfl
  · rename_i s' h
    obtain ⟨hopen, -, hhead, -⟩ := waiterCannotDispatch_false h
    obtain ⟨t, rfl⟩ := waiterCannotDispatch_eq h
    split
    · exact attended_ensureWaiterCapacity hopen hhead hcap hlt hg
    · exact attended_of_running rfl

theorem attended_dispatchValidated (w : Nat) (cs : List Candidate) :
    (s.dispatchValidated cfg w cs).Attended cfg := by
  refine attended_of_running ?_
  unfold ConnectionPoolRuntime.dispatchValidated
  dsimp only
  split
  · rfl
  · split <;> rfl

theorem attended_dispatchFinal (w : Nat) (healthy : List Nat) (r : Reading) :
    (s.dispatchFinal cfg w healthy r).Attended cfg := by
  refine attended_of_running ?_
  unfold ConnectionPoolRuntime.dispatchFinal
  split
  · rfl
  · dsimp only
    split
    · rfl
    · split <;> rfl

theorem attended_dispatchLoop (hd : s.dispatch = .loop) :
    (s.dispatchLoop cfg).Attended cfg := by
  unfold ConnectionPoolRuntime.dispatchLoop
  split
  · rename_i hclosed
    exact fun hopen => absurd hopen hclosed
  · split
    · rename_i hempty
      intro _
      right
      intro w hw _
      have rest : ((s.trimIdleHigh cfg).ensureLowWater cfg).waiters = s.waiters := by
        have trimmed : (s.trimIdleHigh cfg).waiters = s.waiters := by
          unfold trimIdleHigh
          split <;> rfl
        unfold ensureLowWater
        split
        · exact trimmed
        · exact (congrArg Queue.waiters (startCreations_rest none _ _).1).trans trimmed
      change w ∈ ((s.trimIdleHigh cfg).ensureLowWater cfg).waiters.head? at hw
      rw [rest, hempty] at hw
      cases hw
    · split
      · exact attended_of_running rfl
      · exact attended_of_running (by rw [show _ = s.dispatch from rfl, hd]; rfl)

theorem attended_pump (h : s.dispatch = .stopped) : s.pump.Attended cfg := by
  unfold ConnectionPoolRuntime.pump
  dsimp only
  split
  · rename_i hstop
    rcases hstop with hclosed | hd
    · exact fun hopen => absurd hopen hclosed
    · simp [dispatching, h] at hd
  · exact attended_of_running rfl

theorem Attended.dispatchFinally (h : s.Attended cfg) (hd : s.dispatch = .returned) :
    s.dispatchFinally.Attended cfg := by
  unfold ConnectionPoolRuntime.dispatchFinally
  dsimp only
  split
  · exact attended_requestPump _
  · rename_i hreq
    intro hopen
    refine (h hopen).imp ?_ id
    rintro (hrun | hsched | ⟨-, hreq'⟩ | hexp)
    · rw [hd] at hrun
      cases hrun
    · exact Or.inr (Or.inl hsched)
    · exact absurd hreq' hreq
    · exact Or.inr (Or.inr (Or.inr hexp))

/-! Lifecycle operations. -/

theorem Attended.updateOperation (h : s.Attended cfg) {o : Nat} {x y : Lifecycle}
    (hx : s.operation o = some x)
    (hy : ∀ c ∈ s.creating, x.purpose = .create c → x.expired = true →
      x.resultHandled = false →
        y.purpose = .create c ∧ y.expired = true ∧ y.resultHandled = false) :
    { s with toStore := s.toStore.updateOperation o y }.Attended cfg :=
  h.store _ rfl (Nat.le_refl _) fun he => he.updateOperation hx hy

theorem Attended.invoke (h : s.Attended cfg) {o : Nat} {x : Lifecycle}
    (hx : s.operation o = some x) : (s.invoke o x).Attended cfg := by
  have h' := h.updateOperation (y := { x with invoked := true }) hx fun _ _ hp he hh =>
    ⟨hp, he, hh⟩
  unfold ConnectionPoolRuntime.invoke observeInvocation
  split
  · exact h'.frame rfl rfl rfl ⟨rfl, rfl, rfl⟩ rfl
  · exact h'.frame rfl rfl rfl ⟨rfl, rfl, rfl⟩ rfl
  · exact h'

theorem Attended.settle (h : s.Attended cfg) {o : Nat} {x : Lifecycle}
    (hx : s.operation o = some x) (out : Settlement) : (s.settle o x out).Attended cfg := by
  have h' := h.updateOperation (y := { x with
    raw := some out
    result := some (x.result.getD out) }) hx fun _ _ hp he hh => ⟨hp, he, hh⟩
  unfold ConnectionPoolRuntime.settle observeDelivery
  split
  · exact h'.frame rfl rfl rfl ⟨rfl, rfl, rfl⟩ rfl
  · exact h'

theorem Attended.expire (h : s.Attended cfg) {o : Nat} {x : Lifecycle}
    (hx : s.operation o = some x) (hh : x.resultHandled = false)
    (hlt : o < s.nextOperationId) (e : Failure) : (s.expire o x e).Attended cfg := by
  unfold ConnectionPoolRuntime.expire
  dsimp only
  split
  · rename_i c hp
    by_cases hc : c ∈ s.creating
    · -- the pool will react on the expiry of this creation
      refine fun _ => Or.inl (Or.inr (Or.inr (Or.inr ⟨c, hc, o, hlt, ?_⟩)))
      change ((s.toStore.updateOperation o _).operation o).any _ = true
      rw [Store.updateOperation_operation, if_pos rfl]
      simp [hp, hh]
    · have h' := h.updateOperation (y := { x with
        expired := true
        result := some (.rejected e) }) hx fun d hd hpd =>
          absurd (Purpose.create.inj (hp.symm.trans hpd) ▸ hd) hc
      refine Attended.frame (h'.store ((s.toStore.updateOperation o { x with
        expired := true
        result := some (.rejected e) }).updateCreation c fun x => { x with aborted := true })
          rfl ?_ id) rfl rfl rfl ⟨rfl, rfl, rfl⟩ rfl
      have live : ((s.toStore.updateOperation o { x with
          expired := true
          result := some (.rejected e) }).updateCreation c
            fun x => { x with aborted := true }).liveCreations = s.liveCreations := by
        refine List.countP_congr fun d hd => ?_
        have hne : d ≠ c := fun e => hc (e ▸ hd)
        simp [Store.updateCreation, Store.updateOperation, hne]
      unfold Store.supply
      rw [live]
      exact Nat.le_refl _
  · rename_i hne
    exact (h.updateOperation (y := { x with
      expired := true
      result := some (.rejected e) }) hx fun c _ hp => absurd hp (hne c)).frame rfl rfl rfl
        ⟨rfl, rfl, rfl⟩ rfl

/-! Outcomes of creations and destructions. -/

theorem attended_creationFailed {c : Nat} (h : c ∉ s.creating → s.Attended cfg) (e : Failure)
    (late : Bool) : (s.creationFailed cfg c e late).Attended cfg := by
  unfold ConnectionPoolRuntime.creationFailed
  split
  · exact h ‹_›
  · dsimp only
    split
    · exact attended_pumpAndClose _
    · exact attended_pumpAndClose _

theorem attended_creationExpired {c : Nat} (h : c ∉ s.creating → s.Attended cfg)
    (ht : (s.creation c).terminalError = none) (e : Failure) :
    (s.creationExpired cfg c e).Attended cfg := by
  unfold ConnectionPoolRuntime.creationExpired
  split
  · rename_i hstop
    rcases hstop with hc | hterm
    · exact h hc
    · exact absurd ht hterm
  · exact attended_pumpAndClose _

theorem attended_creationSucceeded {c : Nat} (h : c ∉ s.creating → s.Attended cfg)
    (v : FactoryValue) (late : Bool) : (s.creationSucceeded cfg c v late).Attended cfg := by
  unfold ConnectionPoolRuntime.creationSucceeded
  split
  · exact h ‹_›
  · dsimp only
    split
    · split
      · split
        · exact attended_pumpAndClose _
        · exact attended_pumpAndClose _
      · unfold ConnectionPoolRuntime.admitRecord placeRecord
        dsimp only
        split
        · exact attended_pumpAndClose _
        · split
          · exact attended_pumpAndClose _
          · exact attended_pumpAndClose _
    · split
      · exact attended_pumpAndClose _
      · exact attended_pumpAndClose _

theorem Attended.finishDestroy (h : s.Attended cfg) (p o : Nat) :
    (s.finishDestroy p o).Attended cfg := by
  unfold ConnectionPoolRuntime.finishDestroy
  split
  · exact h
  · exact attended_pumpAndClose _

/-! Leases and releases. -/

theorem Attended.withActiveLease (h : s.Attended cfg) (token : LeaseToken) :
    (s.withActiveLease token).Attended cfg := by
  unfold ConnectionPoolRuntime.withActiveLease
  split
  · exact h.frame rfl rfl rfl ⟨rfl, rfl, rfl⟩ rfl
  · rename_i l hl
    split
    · exact h.frame rfl rfl rfl ⟨rfl, rfl, rfl⟩ rfl
    · split
      · exact h.frame rfl rfl rfl ⟨rfl, rfl, rfl⟩ rfl
      · refine Attended.frame (h.store (s.toStore.updateLease l .enter) rfl ?_ id)
          rfl rfl rfl ⟨rfl, rfl, rfl⟩ rfl
        exact Store.supply_same rfl rfl rfl rfl (fun _ => rfl) rfl fun k =>
          Store.lease_physical_of_update s.toStore l k (f := .enter) fun _ => rfl

theorem Attended.callbackSettled (h : s.Attended cfg) (l : Nat) :
    (s.callbackSettled l).Attended cfg := by
  refine Attended.frame (h.store (s.toStore.updateLease l .leave) rfl ?_ id)
    rfl rfl rfl ⟨rfl, rfl, rfl⟩ rfl
  exact Store.supply_same rfl rfl rfl rfl (fun _ => rfl) rfl fun k =>
    Store.lease_physical_of_update s.toStore l k (f := .leave) fun _ => rfl

theorem Attended.resetActiveLease (h : s.Attended cfg)
    (hl : ∀ l, (s.lease l).active = true → l ∈ s.leased) (token : LeaseToken) :
    (s.resetActiveLease cfg token).Attended cfg := by
  unfold ConnectionPoolRuntime.resetActiveLease
  split
  · exact h.frame rfl rfl rfl ⟨rfl, rfl, rfl⟩ rfl
  · rename_i l hok
    split
    · exact h.frame rfl rfl rfl ⟨rfl, rfl, rfl⟩ rfl
    · split
      · exact h.frame rfl rfl rfl ⟨rfl, rfl, rfl⟩ rfl
      · split
        · exact h.frame rfl rfl rfl ⟨rfl, rfl, rfl⟩ rfl
        · refine h.store _ rfl
            (Store.supply_startLeaseReset (hl l (activeLeaseRecord_ok hok).1)) fun he => ?_
          have entered : ((s.toStore.updateLease l .enter).updatePhysical (s.lease l).physical
            fun c => { c with state := .resetting }).ExpiryQueued := he
          exact entered.startLifecycle _

theorem Attended.returnToPool (h : s.Attended cfg) {p : Nat} (hnd : s.records.Nodup)
    (hp : p ∉ s.idle) : (s.returnToPool cfg p).Attended cfg := by
  unfold ConnectionPoolRuntime.returnToPool
  split
  · exact h
  · split
    · rename_i hclosed
      exact fun hopen => absurd hopen hclosed
    · split
      · have stock := s.toStore.park_stock p (s.waiters ≠ [])
        have hnext : (s.toStore.park p (s.waiters ≠ [])).nextOperationId = s.nextOperationId := by
          unfold Store.park
          dsimp only
          split <;> split <;> rfl
        refine h.store _ ?_ (Store.supply_park hnd hp _) fun he => he.frame stock.creating
          (Nat.le_of_eq hnext.symm) fun o _ => by rw [(s.toStore.park_frame p _).2.2]
        rw [Store.capacity, stock.records, stock.creating]
        rfl
      · rename_i hkeep
        rw [not_or, not_not] at hkeep
        intro _
        right
        intro w hw _
        change w ∈ s.waiters.head? at hw
        rw [hkeep.1] at hw
        cases hw

theorem Attended.finishReturn (h : s.Attended cfg) {p : Nat} (hnd : s.records.Nodup)
    (hp : p ∉ s.idle) : (s.finishReturn cfg p).Attended cfg := by
  have h' : ({ s with lowWaterBlocked := false }.returnToPool cfg p).Attended cfg :=
    Attended.returnToPool (s := { s with lowWaterBlocked := false })
      (h.frame rfl rfl rfl ⟨rfl, rfl, rfl⟩ rfl) hnd hp
  unfold ConnectionPoolRuntime.finishReturn
  dsimp only
  split <;> exact h'.frame rfl rfl rfl ⟨rfl, rfl, rfl⟩ rfl

theorem capacity_destroy (st : Store) (p : Nat) : (st.destroy p).capacity = st.capacity := by
  rw [Store.capacity, (st.destroy_stock p).records, (st.destroy_stock p).creating]
  rfl

theorem Attended.release (h : s.Attended cfg) (hnd : s.records.Nodup)
    (hl : ∀ l, (s.lease l).active = true → l ∈ s.leased ∧ (s.lease l).physical ∉ s.idle)
    (token : LeaseToken) (reusable : Option Bool) (idleHigh : Option JsNumber) :
    (s.release cfg token reusable idleHigh).Attended cfg := by
  unfold ConnectionPoolRuntime.release
  split
  · exact h.frame rfl rfl rfl ⟨rfl, rfl, rfl⟩ rfl
  · rename_i recycleIdleHigh _
    split
    · exact h.frame rfl rfl rfl ⟨rfl, rfl, rfl⟩ rfl
    · rename_i l hok
      obtain ⟨hmem, hidle⟩ := hl l (activeLeaseRecord_ok hok).1
      split
      · exact h.frame rfl rfl rfl ⟨rfl, rfl, rfl⟩ rfl
      · dsimp only
        split
        · refine Attended.frame (h.store ((s.toStore.takeBack l).destroy (s.lease l).physical)
            (capacity_destroy _ _) (Store.supply_evict hmem hidle) fun he => ?_) rfl rfl rfl
              ⟨rfl, rfl, rfl⟩ rfl
          have taken : (s.toStore.takeBack l).ExpiryQueued := he
          exact taken.destroy _
        · have taken : s.supply ≤ ((s.toStore.takeBack l).updatePhysical (s.lease l).physical
              fun c => { c with recycleIdleHigh := recycleIdleHigh }).supply := by
            refine Nat.le_trans (Store.supply_takeBack l)
              (Store.supply_same rfl rfl rfl rfl (fun q => ?_) rfl fun _ => rfl)
            by_cases e : q = (s.lease l).physical
            · subst e
              rw [Store.updatePhysical_self]
            · rw [Store.updatePhysical_ne _ _ e]
          split
          · refine Attended.frame (h.store (((s.toStore.takeBack l).updatePhysical (s.lease l).physical
                fun c => { c with recycleIdleHigh := recycleIdleHigh }).startReturn
                  (s.lease l).physical) rfl
              (Nat.le_trans taken (Store.supply_startReturn _)) fun he => ?_) rfl rfl rfl
                ⟨rfl, rfl, rfl⟩ rfl
            exact he.frame rfl (Nat.le_succ _) fun o hlt =>
              (Store.startPhysicalLifecycle_operation ..).trans (if_neg (Nat.ne_of_lt hlt))
          · have h' : Attended cfg ({ s with
                toStore := (s.toStore.takeBack l).updatePhysical (s.lease l).physical
                  fun c => { c with recycleIdleHigh := recycleIdleHigh } }.observe
                    (.takenBack l (s.lease l).physical)) :=
              Attended.frame (h.store ((s.toStore.takeBack l).updatePhysical
                (s.lease l).physical fun c => { c with recycleIdleHigh := recycleIdleHigh }) rfl
                taken id) rfl rfl rfl ⟨rfl, rfl, rfl⟩ rfl
            exact h'.finishReturn hnd hidle

theorem Attended.resumeRelease (h : s.Attended cfg) (f : FollowUp) (threw : Bool) :
    (s.resumeRelease f threw).Attended cfg := by
  unfold ConnectionPoolRuntime.resumeRelease
  split
  · exact attended_pumpAndClose _
  · exact h.checkClosed
  · exact attended_requestPump _
  · exact attended_requestPump _
  · exact attended_requestPump _
  · exact h

/-- A connection whose reset failed leaves the supply, which must not need it. -/
theorem attended_resetFailed {p : Nat} (hnd : s.records.Nodup) (hp : p ∉ s.idle) {o : Nat}
    (h : s.state = .opened → s.Awake ∨ s.Served cfg (s.supply - 1)) :
    (s.resetReturnSettled cfg p o true).Attended cfg := by
  have destroyed : { s with toStore := s.toStore.destroy p }.Attended cfg := by
    refine Undisturbed.attended (s := s) ⟨rfl, rfl, rfl, rfl, fun _ hw ha => ⟨hw, ha, rfl⟩,
      capacity_destroy _ _, fun he => he.destroy p⟩ h ?_
    have := Store.supply_destroy hnd hp
    change s.supply - 1 ≤ (s.toStore.destroy p).supply
    omega
  exact destroyed.frame rfl rfl rfl ⟨rfl, rfl, rfl⟩ rfl

theorem Attended.clearLifecycle (h : s.Attended cfg) (p o : Nat) :
    { s with toStore := s.toStore.clearLifecycle p o }.Attended cfg := by
  unfold Store.clearLifecycle
  split
  · refine h.store _ rfl (Store.supply_same rfl rfl rfl rfl (fun q => ?_) rfl fun _ => rfl) id
    by_cases e : q = p
    · subst e
      rw [Store.updatePhysical_self]
    · rw [Store.updatePhysical_ne _ _ e]
  · exact h

theorem Attended.resetReturned (h : s.Attended cfg) {p : Nat} (hnd : s.records.Nodup)
    (hp : p ∉ s.idle) (o : Nat) : (s.resetReturnSettled cfg p o false).Attended cfg := by
  have stock := s.toStore.clearLifecycle_stock p o
  have cleared := h.clearLifecycle p o
  have idle : (s.toStore.clearLifecycle p o).idle = s.idle := by
    unfold Store.clearLifecycle
    split <;> rfl
  unfold ConnectionPoolRuntime.resetReturnSettled
  dsimp only
  rw [if_neg (by simp)]
  split
  · rename_i hclosed
    exact fun hopen => absurd hopen hclosed
  · refine cleared.finishReturn ?_ ?_
    · rw [stock.records]
      exact hnd
    · rw [idle]
      exact hp

theorem Attended.resetLeaseSettled (h : s.Attended cfg) {l : Nat}
    (hl : (s.lease l).active = true → l ∈ s.leased) (o : Nat) (failed : Bool) :
    (s.resetLeaseSettled l o failed).Attended cfg := by
  have stock := s.toStore.endLeaseReset_stock l o
  have hnext : (s.toStore.endLeaseReset l o).nextOperationId = s.nextOperationId := by
    unfold Store.endLeaseReset Store.clearLifecycle
    dsimp only
    split <;> split <;> rfl
  refine Attended.frame (h.store (s.toStore.endLeaseReset l o) ?_
    (Store.supply_endLeaseReset hl) fun he => ?_) rfl rfl rfl ⟨rfl, rfl, rfl⟩ rfl
  · rw [Store.capacity, stock.records, stock.creating]
    rfl
  · exact he.frame stock.creating (Nat.le_of_eq hnext.symm) fun k _ => by
      rw [(s.toStore.endLeaseReset_frame l o).2.1]

/-- The outcome of a validation reaches the dispatch loop, and nothing else. -/
theorem Attended.validationSettled (h : s.Attended cfg) (p o : Nat) (expired : Bool)
    (out : Settlement) : (s.validationSettled p o expired out).Attended cfg := by
  have cleared := h.clearLifecycle p o
  have validated : ∀ {s' : ConnectionPoolRuntime} (outcome : Bool × Option Failure),
      s'.Attended cfg → (s'.validated p outcome).Attended cfg := by
    intro s' outcome h'
    cases hd : s'.dispatch with
    | validating w cs =>
        refine attended_of_running ?_
        simp [ConnectionPoolRuntime.validated, hd, Dispatch.settleCandidate, Dispatch.running]
    | _ =>
        refine h'.frame rfl rfl rfl ⟨?_, rfl, rfl⟩ rfl
        simp [ConnectionPoolRuntime.validated, hd, Dispatch.settleCandidate]
  unfold ConnectionPoolRuntime.validationSettled
  dsimp only
  split
  · exact validated _ cleared
  · exact validated _ (cleared.frame rfl rfl rfl ⟨rfl, rfl, rfl⟩ rfl)
  · exact validated _ (cleared.frame rfl rfl rfl ⟨rfl, rfl, rfl⟩ rfl)

end ConnectionPoolRuntime
/-! Runs. -/

/-- The pump and the dispatch loop exclude each other, and the terminal error of a
creation is the pool's reaction on its expiry. -/
structure PumpBook (s : ConnectionPoolRuntime) : Prop where
  steady : s.pumpScheduled = true → s.dispatch = .stopped
  terminal : ∀ c, (s.creation c).terminalError ≠ none → s.Answered c

theorem pumpBook_initial : PumpBook initial := by
  constructor <;> simp [initial, requestPump, dispatching, Store.empty]

theorem Operations.answered {st st' : Store} (hops : Operations st st') (hd : st.Destructions)
    {c : Nat} (h : st.Answered c) : st'.Answered c := by
  obtain ⟨o, x, hx, hp, hh⟩ := h
  obtain ⟨y, hy, grows⟩ := hops.forward hd hx
  exact ⟨o, y, hy, grows.purpose.trans hp, grows.handled hh⟩

theorem PumpBook.frame {s s' : ConnectionPoolRuntime} (h : PumpBook s)
    (hd : s.toStore.Destructions) (hops : Operations s.toStore s'.toStore)
    (hp : s'.pumpScheduled = s.pumpScheduled) (hdis : s'.dispatch = s.dispatch)
    (hc : s'.creation = s.creation) : PumpBook s' := by
  refine ⟨fun hs => hdis.trans (h.steady (hp ▸ hs)), fun c ht => ?_⟩
  rw [hc] at ht
  exact hops.answered hd (h.terminal c ht)

theorem PumpBook.move {cfg : Settings} {d d' : Desk} (h : PumpBook d.pool)
    (owned : Owned cfg d) (hm : Move cfg d d') : PumpBook d'.pool := by
  have hd := owned.destructions
  have hops := hm.operations
  have hdis := hm.dispatch_eq
  cases hm with
  | bookkeeping s V T scheduled requested blocked n fs hs =>
      exact ⟨fun e => (hs e).elim h.steady id, h.terminal⟩
  | creations s V T f hf ht =>
      refine ⟨h.steady, fun c hterm => ?_⟩
      rcases ht c with e | hans
      · exact h.terminal c (e ▸ hterm)
      · exact hans
  | create s V T owner =>
      refine ⟨h.steady, fun c hterm => ?_⟩
      refine hops.answered hd (h.terminal c ?_)
      by_cases e : c = s.nextCreationId
      · subst e
        simp [Store.startCreation, Store.startLifecycle] at hterm
      · simpa [Store.startCreation, Store.startLifecycle, e] using hterm
  | checkout s T n =>
      exact h.frame hd hops rfl hdis (Store.checkout_creation _ n)
  | park s V T V' T' p waiting => exact h.frame hd hops rfl hdis (Store.park_lists _ p waiting).1
  | destroy s V T V' T' p => exact h.frame hd hops rfl hdis (Store.destroy_lists _ p).1
  | grant s V T w healthy => exact h.frame hd hops rfl hdis (issueLeases_creation_eq healthy _)
  | resetEnd s V T l o x => exact h.frame hd hops rfl hdis (Store.endLeaseReset_lists _ l o).2.1
  | removeRecord s V T p o => exact h.frame hd hops rfl hdis (Store.removeRecord_creation _ p o)
  | invoke s V T o x =>
      refine h.frame hd hops ?_ hdis ?_
      · unfold ConnectionPoolRuntime.invoke observeInvocation
        split <;> rfl
      · rw [toStore_invoke]
        rfl
  | settle s V T o x out =>
      refine h.frame hd hops ?_ hdis ?_
      · unfold ConnectionPoolRuntime.settle observeDelivery
        split <;> rfl
      · rw [toStore_settle]
        rfl
  | _ => exact h.frame hd hops rfl hdis rfl

theorem PumpBook.turn {d d' : Desk} (h : PumpBook d.pool) (ht : Turn d d') :
    PumpBook d'.pool := by
  obtain ⟨D, -, hD, rfl⟩ := ht
  exact ⟨fun hs => hD (h.steady hs) hs, h.terminal⟩

/-- The waiter whose deadline the dispatch loop is about to compare with the clock,
before anything is checked out for it. -/
def Dispatch.atClock : Dispatch → Option Nat
  | .clock w => some w
  | _ => none

/-- The reset of a returned connection has failed. -/
def Store.FailedReturn (st : Store) (o : Nat) : Prop :=
  ((st.operation o).any fun x =>
    match x.purpose, x.result with
    | .resetReturn _, some (.rejected _) => true
    | _, _ => false) = true

instance (st : Store) (o : Nat) : Decidable (st.FailedReturn o) :=
  inferInstanceAs (Decidable (_ = true))

def Event.readsDispatchClock : Event → Bool
  | .dispatchClock _ => true
  | _ => false

def Event.reaction : Event → Option Nat
  | .react o => some o
  | _ => none

/-- A step which is not one of the two which strand a waiter: a dispatch whose creations
are fewer because lease holders reset their connections, with no further pump requested;
and the reaction on the failed reset of a returned connection which the head waiter
counts on, with nothing under way that looks at the waiter again. -/
def Regular (cfg : Settings) (s : ConnectionPoolRuntime) (e : Event) : Prop :=
  (e.readsDispatchClock = true → ∀ w ∈ s.dispatch.atClock,
    s.pumpRequestedWhileDispatching = true ∨
      creationsFor cfg s w s.expectedAvailable = creationsFor cfg s w s.supply) ∧
  ∀ o ∈ e.reaction, s.toStore.FailedReturn o → s.state = .opened →
    s.Awake ∨ s.Served cfg (s.supply - 1)

instance (cfg : Settings) (s : ConnectionPoolRuntime) (e : Event) : Decidable (Regular cfg s e) :=
  inferInstanceAs (Decidable (_ ∧ _))

/-- What the reaction on a bounded result does to the head waiter. -/
theorem ConnectionPoolRuntime.Attended.react {cfg : Settings} {s : ConnectionPoolRuntime} (h : s.Attended cfg)
    {κ : Nat → Custody} {V : Multiset Nat} {T : Option Nat}
    (held : Held cfg s.toStore V T κ) (delivery : DeliveryBook s) (pump : PumpBook s)
    {o : Nat} {x : Lifecycle} {out : Settlement} (ho : s.operation o = some x)
    (hr : x.result = some out) (hh : x.resultHandled = false)
    (hg : s.toStore.FailedReturn o → s.state = .opened →
      s.Awake ∨ s.Served cfg (s.supply - 1)) :
    (s.react cfg o x out).Attended cfg := by
  have hc := held.custodial
  have returning : ∀ p, x.purpose = .resetReturn p → p ∉ s.idle := by
    intro p hp hidle
    have hκ := (hc.returning o x p ho hp hh).2
    rw [((hc.mem_idle p).mp hidle).2] at hκ
    cases hκ
  unfold ConnectionPoolRuntime.react
  generalize hs₁ : { s with
    toStore := s.toStore.updateOperation o { x with resultHandled := true } } = s₁
  have store : s₁.toStore = s.toStore.updateOperation o { x with resultHandled := true } := by
    rw [← hs₁]
  -- unless this is a creation which is still pending, no queued expiry is answered here
  have handled : (∀ c, x.purpose = .create c → c ∉ s₁.creating) → s₁.Attended cfg := by
    intro hne
    rw [store] at hne
    rw [← hs₁]
    exact h.updateOperation ho fun c hcr hp => absurd hcr (hne c hp)
  have absent : ∀ c, x.purpose = .create c → c ∉ s₁.creating → s₁.Attended cfg :=
    fun c hp hcr => handled fun d hd => by
      obtain rfl := Purpose.create.inj (hp.symm.trans hd)
      exact hcr
  dsimp only
  cases hp : x.purpose with
  | create c =>
      cases out with
      | fulfilled v => exact attended_creationSucceeded (absent c hp) v false
      | rejected e =>
          dsimp only
          split
          · refine attended_creationExpired (absent c hp) ?_ e
            rw [store]
            by_contra hterm
            obtain ⟨o', y, hy, hyp, hyh⟩ := pump.terminal c hterm
            obtain rfl : o = o' := (delivery.creations o x c ho hp).2.1.symm.trans
              (delivery.creations o' y c hy hyp).2.1
            obtain rfl := Option.some.inj (ho.symm.trans hy)
            rw [hh] at hyh
            cases hyh
          · exact attended_creationFailed (absent c hp) e false
  | validate p => exact (handled (by simp [hp])).validationSettled p o x.expired out
  | resetLease l =>
      have hl : (s₁.lease l).active = true → l ∈ s₁.leased := by
        rw [store]
        exact (hc.active l).mp
      have h' := handled (by simp [hp])
      cases out with
      | fulfilled v => exact h'.resetLeaseSettled hl o false
      | rejected e => exact h'.resetLeaseSettled hl o true
  | resetReturn p =>
      have hnd : s₁.records.Nodup := by
        rw [store]
        exact hc.records_nodup
      have hidle : p ∉ s₁.idle := by
        rw [store]
        exact returning p hp
      cases out with
      | fulfilled v => exact (handled (by simp [hp])).resetReturned hnd hidle o
      | rejected e =>
          refine attended_resetFailed hnd hidle ?_
          rw [← hs₁]
          refine fun hopen => (hg ?_ hopen).imp ?_ id
          · simp [Store.FailedReturn, ho, hp, hr]
          · refine Or.imp id (Or.imp id (Or.imp id fun he => ?_))
            exact he.updateOperation ho fun c _ hpc => by simp [hp] at hpc
  | destroy p =>
      cases out with
      | fulfilled v => exact (handled (by simp [hp])).finishDestroy p o
      | rejected e => exact attended_pumpAndClose _

theorem ConnectionPoolRuntime.Attended.reactRaw {cfg : Settings} {s : ConnectionPoolRuntime} (h : s.Attended cfg)
    {o : Nat} {x : Lifecycle} (ho : s.operation o = some x) (out : Settlement) :
    (s.reactRaw cfg o x out).Attended cfg := by
  have h' := h.updateOperation (y := { x with rawHandled := true }) ho fun _ _ hp he hh =>
    ⟨hp, he, hh⟩
  unfold ConnectionPoolRuntime.reactRaw
  dsimp only
  split
  · exact attended_creationSucceeded (fun _ => h') _ true
  · exact attended_creationFailed (fun _ => h') _ true
  · exact h'.finishDestroy _ o
  · exact h'

theorem state_requestPump (s : ConnectionPoolRuntime) : s.requestPump.state = s.state := by
  unfold requestPump
  split_ifs <;> rfl

theorem state_rejectWaiter (cfg : Settings) (s : ConnectionPoolRuntime) (w : Nat) (e : Failure) :
    (s.rejectWaiter cfg w e).state = s.state := by
  unfold rejectWaiter
  split
  · obtain ⟨f, hf, -⟩ := reconcileCreations_eq cfg (s.dequeue w)
    rw [state_requestPump, cleanupWaiter, hf]
    rfl
  · rfl

theorem state_rejectAll (cfg : Settings) (e : Failure) (ws : List Nat)
    (s : ConnectionPoolRuntime) : (rejectAll cfg e ws s).state = s.state := by
  induction ws generalizing s with
  | nil => rfl
  | cons w ws ih => exact (ih _).trans (state_rejectWaiter cfg s w e)

/-- A pool whose shutdown has begun is not open. -/
theorem ConnectionPoolRuntime.Attended.beginShutdown {cfg : Settings} {s : ConnectionPoolRuntime}
    (h : s.Attended cfg) (closing : Bool) (timeoutMs : Option JsNumber) (e : Option Failure) :
    (s.beginShutdown cfg closing timeoutMs e).Attended cfg := by
  unfold ConnectionPoolRuntime.beginShutdown
  split
  · exact h
  · split
    · exact h
    · exact h
    · split
      · intro hopen
        cases hopen
      · exact h
    · intro hopen
      have hstate := opened_of_checkClosed hopen
      change (rejectAll cfg _ _ (failCloseWith _ e)).state = _ at hstate
      rw [state_rejectAll, state_failCloseWith] at hstate
      cases closing <;> cases hstate

theorem ConnectionPoolRuntime.Attended.shutdownExpired {cfg : Settings} {s : ConnectionPoolRuntime}
    (h : s.Attended cfg) (e : Failure) : (s.shutdownExpired e).Attended cfg := by
  have failed : ∀ {s : ConnectionPoolRuntime}, s.Attended cfg → (s.failClose e).Attended cfg := by
    intro s h
    unfold failClose
    split
    · exact h
    · exact h.frame rfl rfl rfl ⟨rfl, rfl, rfl⟩ rfl
  exact failed (h.frame rfl rfl rfl ⟨rfl, rfl, rfl⟩ rfl)

/-- A regular step of a reachable pool leaves the head waiter attended to. -/
theorem attended_step {cfg : Settings} {s s' : ConnectionPoolRuntime} {e : Event}
    (owned : Owned cfg s.desk) (delivery : DeliveryBook s) (pump : PumpBook s)
    (h : s.Attended cfg) (hg : Regular cfg s e) (he : s.step cfg e = some s') :
    s'.Attended cfg := by
  obtain ⟨κ, held⟩ := owned.held
  have hc := held.custodial
  cases e with
  | acquire number timeoutMs initiallyAborted reading registration =>
      obtain rfl := Option.some.inj he
      exact h.acquire number timeoutMs initiallyAborted reading registration
  | abort w =>
      simp only [step, Option.ite_none_right_eq_some, Option.some.injEq] at he
      obtain ⟨-, rfl⟩ := he
      exact (h.rejectWaiter w acquireAborted).frame rfl rfl rfl ⟨rfl, rfl, rfl⟩ rfl
  | timer w generation reading =>
      simp only [step, Option.ite_none_right_eq_some, Option.some.injEq] at he
      obtain ⟨-, rfl⟩ := he
      exact h.handleTimeout w reading
  | rearm w reading scheduleError =>
      simp only [step, Option.ite_none_right_eq_some, Option.some.injEq] at he
      obtain ⟨-, rfl⟩ := he
      exact h.rearm w reading scheduleError
  | pump =>
      simp only [step, Option.ite_none_right_eq_some, Option.some.injEq] at he
      obtain ⟨hs, rfl⟩ := he
      exact attended_pump (pump.steady hs)
  | dispatchLoop =>
      simp only [step, Option.ite_none_right_eq_some, Option.some.injEq] at he
      obtain ⟨hd, rfl⟩ := he
      exact attended_dispatchLoop hd
  | dispatchClock reading =>
      simp only [step] at he
      split at he
      · rename_i w hd
        obtain rfl := Option.some.inj he
        refine attended_dispatchClock reading held.capacity held.creating_lt ?_
        exact hg.1 rfl w (by rw [hd]; rfl)
      · obtain rfl := Option.some.inj he
        exact attended_dispatchFinal _ _ reading
      · cases he
  | dispatchValidated =>
      simp only [step] at he
      split at he
      · simp only [Option.ite_none_right_eq_some, Option.some.injEq] at he
        obtain ⟨-, rfl⟩ := he
        exact attended_dispatchValidated _ _
      · cases he
  | dispatchFinally =>
      simp only [step, Option.ite_none_right_eq_some, Option.some.injEq] at he
      obtain ⟨hd, rfl⟩ := he
      exact h.dispatchFinally hd
  | invoke o =>
      simp only [step] at he
      split at he
      · rename_i x ho
        split at he
        · cases he
        · obtain rfl := Option.some.inj he
          exact h.invoke ho
      · cases he
  | settle o out =>
      simp only [step] at he
      split at he
      · rename_i x ho
        simp only [Option.ite_none_right_eq_some, Option.some.injEq] at he
        obtain ⟨-, rfl⟩ := he
        exact h.settle ho out
      · cases he
  | expire o e =>
      simp only [step] at he
      split at he
      · rename_i x ho
        simp only [Option.ite_none_right_eq_some, Option.some.injEq] at he
        obtain ⟨hr, rfl⟩ := he
        refine h.expire ho ?_ (hc.operation_lt o x ho) e
        cases hh : x.resultHandled with
        | false => rfl
        | true =>
            have := (delivery.sound o x ho).handled hh
            rw [hr] at this
            cases this
      · cases he
  | react o =>
      simp only [step] at he
      split at he
      · rename_i x ho
        split at he
        · rename_i out hr
          simp only [Option.ite_none_right_eq_some, Option.some.injEq] at he
          obtain ⟨⟨-, hh⟩, rfl⟩ := he
          exact h.react held delivery pump ho hr hh (hg.2 o rfl)
        · cases he
      · cases he
  | reactRaw o =>
      simp only [step] at he
      split at he
      · rename_i x ho
        split at he
        · simp only [Option.ite_none_right_eq_some, Option.some.injEq] at he
          obtain ⟨-, rfl⟩ := he
          exact h.reactRaw ho _
        · simp only [Option.ite_none_right_eq_some, Option.some.injEq] at he
          obtain ⟨-, rfl⟩ := he
          exact h.reactRaw ho _
        · cases he
      · cases he
  | withActiveLease token =>
      obtain rfl := Option.some.inj he
      exact h.withActiveLease token
  | callbackSettled l =>
      simp only [step, Option.ite_none_right_eq_some, Option.some.injEq] at he
      obtain ⟨-, rfl⟩ := he
      exact h.callbackSettled l
  | resetActiveLease token =>
      obtain rfl := Option.some.inj he
      exact h.resetActiveLease (fun l => (hc.active l).mp) token
  | release token reusable idleHigh =>
      obtain rfl := Option.some.inj he
      refine h.release hc.records_nodup (fun l hl => ?_) token reusable idleHigh
      have hmem := (hc.active l).mp hl
      refine ⟨hmem, fun hidle => ?_⟩
      have hκ : κ (s.lease l).physical = _ := (hc.leased l hmem).2
      rw [((hc.mem_idle _).mp hidle).2] at hκ
      cases hκ
  | resume i =>
      simp only [step] at he
      split at he
      · rw [Option.map_eq_some_iff] at he
        obtain ⟨threw, -, rfl⟩ := he
        exact Attended.resumeRelease (s := { s with followUps := s.followUps.eraseIdx i })
          (h.frame rfl rfl rfl ⟨rfl, rfl, rfl⟩ rfl) _ threw
      · cases he
  | beginShutdown closing timeoutMs deadlineError =>
      obtain rfl := Option.some.inj he
      exact h.beginShutdown closing timeoutMs deadlineError
  | shutdownExpired e =>
      simp only [step, Option.ite_none_right_eq_some, Option.some.injEq] at he
      obtain ⟨-, rfl⟩ := he
      exact h.shutdownExpired e

/-- Whenever an open pool has gone quiet, its capacity is exhausted or the supply suffices
for the head waiter. -/
def NoStrandedWaiter (cfg : Settings) (s : ConnectionPoolRuntime) : Prop :=
  s.state = .opened → s.dispatch = .stopped → s.pumpScheduled = false → s.Served cfg s.supply

instance (cfg : Settings) (s : ConnectionPoolRuntime) : Decidable (NoStrandedWaiter cfg s) :=
  inferInstanceAs (Decidable (_ → _ → _ → _))

theorem reachable_pumpBook {cfg : Settings} {s : ConnectionPoolRuntime}
    (hs : (machine cfg).Reachable s) : PumpBook s := by
  refine (reachable_desk (P := fun d => Owned cfg d ∧ PumpBook d.pool)
    ⟨owned_initial cfg, pumpBook_initial⟩ ?_ ?_ hs).2
  · rintro d d' ⟨owned, h⟩ hm
    exact ⟨owned.move hm, h.move owned hm⟩
  · rintro d d' ⟨owned, h⟩ ht
    exact ⟨owned.turn ht, h.turn ht⟩

theorem reachable_attended {cfg : Settings} {s : ConnectionPoolRuntime}
    (hs : (machine cfg).ReachableUnder (Regular cfg) s) : s.Attended cfg := by
  refine Machine.ReachableUnder.invariant (P := fun s => s.Attended cfg)
    (attended_requestPump _) (fun s e s' hr h hg he => ?_) hs
  exact attended_step (reachable_owned hr.reachable) (reachable_shutdown hr.reachable).1
    (reachable_pumpBook hr.reachable) h hg he

/-- A quiet pool whose waiter waits for a creation. -/
def awaitOne : List Event :=
  [.pump, .dispatchLoop, .dispatchFinally, .acquireOne 0, .pump, .dispatchLoop,
    .dispatchClock (.value 1), .dispatchFinally]

/-- The holder of the only lease resets its connection when a second waiter arrives. -/
def resetHeld : List Event :=
  leaseOne ++ [.resetActiveLease (.issued 1), .acquireOne 4, .pump, .dispatchLoop,
    .dispatchClock (.value 4), .dispatchFinally]

/-- The same pool, which resets a connection when it is released. -/
def resettingConnections : Settings :=
  { twoConnections with resetOnRelease := true, reset_provided := fun _ => rfl }

/-- A connection is reset on its way back, a waiter counts on it, and the reset fails. -/
def failReturn : List Event :=
  leaseOne ++ [.release (.issued 1) none none, .acquireOne 4, .pump, .dispatchLoop,
    .dispatchClock (.value 4), .dispatchFinally, .invoke 2,
    .settle 2 (.rejected (.error "reset failed")), .react 2]

/-- No pump is requested before the connection has been destroyed. -/
theorem strandedWaiter_failReturn : ∃ s,
    (machine resettingConnections).Reachable s ∧ ¬ s.toStore.ExpiryQueued ∧
      ¬ NoStrandedWaiter resettingConnections s := by
  obtain ⟨s, -, hs, hp⟩ := Machine.reachable_of_any (machine resettingConnections) failReturn
    (fun s => ¬ s.toStore.ExpiryQueued ∧ ¬ NoStrandedWaiter resettingConnections s)
    (by decide +kernel)
  obtain ⟨hq, hn⟩ := of_decide_eq_true hp
  exact ⟨s, hs, hq, hn⟩

end OpenRfc.Pool
