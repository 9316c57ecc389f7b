import OpenRfc.Pool.Moves

/-!
Every step of the machine is a sequence of moves. The proofs follow the source,
function by function.
-/

namespace OpenRfc.Pool
open ConnectionPoolRuntime
open Relation (ReflTransGen)

variable {cfg : Settings} {s s' : ConnectionPoolRuntime} {V V' : Multiset Nat} {T T' : Option Nat}
  {p w c : Nat}

theorem state_failCloseWith (s : ConnectionPoolRuntime) (e : Option Failure) :
    (s.failCloseWith e).state = s.state := by
  cases e with
  | none => rfl
  | some e =>
      simp only [failCloseWith, failClose]
      split <;> rfl

namespace Moves

theorem count (f : Counters → Counters) : Moves cfg ⟨s, V, T⟩ ⟨s.count f, V, T⟩ :=
  .single (.bookkeeping s V T _ _ _ (f s.counters) _ Or.inl)

theorem blocked (b : Bool) : Moves cfg ⟨s, V, T⟩ ⟨{ s with lowWaterBlocked := b }, V, T⟩ :=
  .single (.bookkeeping s V T _ _ b _ _ Or.inl)

theorem followUp (f : FollowUp) : Moves cfg ⟨s, V, T⟩ ⟨s.followUp f, V, T⟩ :=
  .single (.bookkeeping s V T _ _ _ _ (s.followUps ++ [f]) Or.inl)

theorem requestPump : Moves cfg ⟨s, V, T⟩ ⟨s.requestPump, V, T⟩ := by
  unfold ConnectionPoolRuntime.requestPump
  split_ifs with _ hd
  · exact .refl
  · exact .single (.bookkeeping s V T _ true _ _ _ Or.inl)
  · exact .refl
  · exact .single (.bookkeeping s V T true _ _ _ _ fun _ => Or.inr (by simpa [dispatching] using hd))

theorem failClose (e : Failure) : Moves cfg ⟨s, V, T⟩ ⟨s.failClose e, V, T⟩ := by
  unfold ConnectionPoolRuntime.failClose
  split_ifs with h
  · exact .refl
  · rw [not_or] at h
    exact .single (.failClose s V T e (by simpa using h.1) h.2)

theorem failCloseUnlessOpen (e : Failure) :
    Moves cfg ⟨s, V, T⟩ ⟨if s.state ≠ .opened then s.failClose e else s, V, T⟩ := by
  split
  · exact failClose e
  · exact .refl

theorem failCloseWith (e : Option Failure) :
    Moves cfg ⟨s, V, T⟩ ⟨s.failCloseWith e, V, T⟩ := by
  cases e with
  | none => exact .refl
  | some e => exact failClose e

theorem checkClosed : Moves cfg ⟨s, V, T⟩ ⟨s.checkClosed, V, T⟩ := by
  unfold ConnectionPoolRuntime.checkClosed
  split
  · exact .refl
  · rename_i hstate
    refine (failCloseWith (s.creating.findSome? fun c => (s.creation c).terminalError)).trans ?_
    have h₁ := state_failCloseWith s (s.creating.findSome? fun c => (s.creation c).terminalError)
    generalize s.failCloseWith (s.creating.findSome? fun c => (s.creation c).terminalError) = s₁
      at h₁ ⊢
    dsimp only
    refine (failCloseWith (s₁.records.findSome? fun p => (s₁.physical p).destroyError)).trans ?_
    have h₂ := state_failCloseWith s₁ (s₁.records.findSome? fun p => (s₁.physical p).destroyError)
    generalize s₁.failCloseWith (s₁.records.findSome? fun p => (s₁.physical p).destroyError) = s₂
      at h₂ ⊢
    have hclosing : s₂.state = .retiring ∨ s₂.state = .closing := by
      rw [h₂, h₁]
      by_contra hn
      rw [not_or] at hn
      exact hstate hn
    split
    · rename_i hempty
      exact .single (.close s₂ V T hclosing hempty.1 hempty.2)
    · exact .refl

theorem pumpAndClose : Moves cfg ⟨s, V, T⟩ ⟨s.requestPump.checkClosed, V, T⟩ :=
  requestPump.trans checkClosed

end Moves

theorem readClock_ok {r : Reading} {t : Time} (h : s.readClock r = .ok (t, s')) :
    s' = { s with lastClockValue := some t }.observe (.clockRead t) ∧
      ∀ last, s.lastClockValue = some last → last ≤ t := by
  cases r with
  | value v =>
      simp only [readClock] at h
      split at h
      · cases h
      · rename_i hlast
        simp only [Except.ok.injEq, Prod.mk.injEq] at h
        obtain ⟨rfl, rfl⟩ := h
        refine ⟨rfl, fun last hl => ?_⟩
        simpa [hl] using hlast
  | nonFinite => cases h
  | threw e => cases h

theorem Moves.readClock {r : Reading} {t : Time} (h : s.readClock r = .ok (t, s')) :
    Moves cfg ⟨s, V, T⟩ ⟨s', V, T⟩ := by
  obtain ⟨rfl, hlast⟩ := readClock_ok h
  exact .single (.clock s V T t hlast)

/-! Creations. -/

theorem reconcileLoop_eq (owner : Option Nat) (cs : List Nat) (n : Nat) (st : Store) :
    ∃ f, st.reconcileLoop owner cs n = { st with creation := f } ∧
      ∀ c, (f c).operation = (st.creation c).operation ∧
        (f c).terminalError = (st.creation c).terminalError := by
  have one : ∀ (st : Store) (c : Nat) (g : Creation → Creation),
      (∀ x, (g x).operation = x.operation ∧ (g x).terminalError = x.terminalError) →
      ∀ d, ((st.updateCreation c g).creation d).operation = (st.creation d).operation ∧
        ((st.updateCreation c g).creation d).terminalError = (st.creation d).terminalError := by
    intro st c g hg d
    by_cases e : d = c
    · subst e
      simp [Store.updateCreation, hg]
    · simp [Store.updateCreation, e]
  induction cs generalizing n st with
  | nil => exact ⟨st.creation, rfl, fun _ => ⟨rfl, rfl⟩⟩
  | cons c cs ih =>
      unfold Store.reconcileLoop
      split_ifs
      · exact ih n st
      · obtain ⟨f, hf, hop⟩ := ih (n - 1) (st.updateCreation c fun x =>
          { x with ownerWaiterId := owner })
        have h := one st c (fun x => { x with ownerWaiterId := owner }) (fun _ => ⟨rfl, rfl⟩)
        exact ⟨f, hf, fun d => ⟨(hop d).1.trans (h d).1, (hop d).2.trans (h d).2⟩⟩
      · obtain ⟨f, hf, hop⟩ := ih n ((st.updateCreation c fun x =>
          { x with ownerWaiterId := none }).abortCreation c)
        have h := one st c (fun x => { x with ownerWaiterId := none }) (fun _ => ⟨rfl, rfl⟩)
        have h' := one (st.updateCreation c fun x => { x with ownerWaiterId := none }) c
          (fun x => { x with abortRequested := true, aborted := true }) (fun _ => ⟨rfl, rfl⟩)
        exact ⟨f, hf, fun d => ⟨(hop d).1.trans ((h' d).1.trans (h d).1),
          (hop d).2.trans ((h' d).2.trans (h d).2)⟩⟩

theorem reconcileCreations_eq (cfg : Settings) (s : ConnectionPoolRuntime) :
    ∃ f, s.reconcileCreations cfg = { s with creation := f } ∧
      ∀ c, (f c).operation = (s.creation c).operation ∧
        (f c).terminalError = (s.creation c).terminalError := by
  obtain ⟨f, hf, hop⟩ := reconcileLoop_eq s.head s.creating (s.creationsNeeded cfg) s.toStore
  exact ⟨f, by rw [reconcileCreations, hf], hop⟩

theorem Moves.rejectWaiter (e : Failure) :
    Moves cfg ⟨s, V, T⟩ ⟨s.rejectWaiter cfg w e, V, T⟩ := by
  unfold ConnectionPoolRuntime.rejectWaiter
  split
  · rename_i hw
    obtain ⟨f, hf, hop⟩ := reconcileCreations_eq cfg (s.dequeue w)
    refine .trans ?_ Moves.requestPump
    rw [cleanupWaiter, hf]
    exact (ReflTransGen.single (.reject s V T w e hw)).tail
      (.creations ((s.dequeue w).observe (.acquireRejected w e)) V T f (fun c => (hop c).1)
        fun c => Or.inl (hop c).2)
  · exact .refl

theorem inactive_rejectWaiter (e : Failure) :
    ((s.rejectWaiter cfg w e).waiter w).active = false := by
  unfold ConnectionPoolRuntime.rejectWaiter
  split
  · obtain ⟨f, hf, -⟩ := reconcileCreations_eq cfg (s.dequeue w)
    rw [cleanupWaiter, hf]
    have : ∀ s : ConnectionPoolRuntime, s.requestPump.waiter = s.waiter := by
      intro s
      unfold requestPump
      split_ifs <;> rfl
    rw [this]
    simp [observe, dequeue, updateWaiter]
  · exact Bool.eq_false_of_not_eq_true ‹_›

theorem nextWaiterId_rejectWaiter (e : Failure) :
    (s.rejectWaiter cfg w e).nextWaiterId = s.nextWaiterId := by
  unfold ConnectionPoolRuntime.rejectWaiter
  split
  · obtain ⟨f, hf, -⟩ := reconcileCreations_eq cfg (s.dequeue w)
    rw [cleanupWaiter, hf]
    unfold requestPump
    split_ifs <;> rfl
  · rfl

theorem Moves.abort (hw : w < s.nextWaiterId) :
    Moves cfg ⟨s, V, T⟩ ⟨s.abort cfg w, V, T⟩ :=
  (Moves.rejectWaiter acquireAborted).tail
    (.aborted _ V T w ((nextWaiterId_rejectWaiter _).symm ▸ hw) (inactive_rejectWaiter _))

theorem Moves.startCreation (owner : Option Nat) :
    Moves cfg ⟨s, V, T⟩ ⟨s.startCreation cfg owner, V, T⟩ := by
  unfold ConnectionPoolRuntime.startCreation
  split
  · exact .refl
  · rename_i h
    rw [not_or] at h
    exact .single (.create s V T owner (by simpa using h.1) (by simpa using h.2))

theorem Moves.startCreations (owner : Option Nat) (n : Nat) :
    Moves cfg ⟨s, V, T⟩ ⟨s.startCreations cfg owner n, V, T⟩ := by
  induction n generalizing s with
  | zero => exact .refl
  | succ n ih => exact (Moves.startCreation owner).trans ih

theorem Moves.ensureLowWater : Moves cfg ⟨s, V, T⟩ ⟨s.ensureLowWater cfg, V, T⟩ := by
  unfold ConnectionPoolRuntime.ensureLowWater
  split
  · exact .refl
  · exact Moves.startCreations none _

/-! Connections which flow back. -/

theorem Gives.checkout : Gives p (p ::ₘ V) T V T := Or.inl ⟨rfl, rfl⟩

theorem Gives.hand : Gives p V (some p) V none := Or.inr ⟨rfl, rfl, rfl⟩

theorem Moves.returnToPool (h : Gives p V T V' T') :
    Moves cfg ⟨s, V, T⟩ ⟨s.returnToPool cfg p, V', T'⟩ := by
  unfold ConnectionPoolRuntime.returnToPool
  split
  · exact .single (.drop s V T V' T' p ‹_› h)
  · rename_i hp
    rw [not_not] at hp
    split
    · exact .single (.destroy s V T V' T' p (Or.inl h))
    · rename_i hopen
      rw [not_not] at hopen
      split
      · exact .single (.park s V T V' T' p _ hp h hopen)
      · exact .head (.cell s V T p (fun c => { c with recycleIdleHigh := none })
          fun x => ⟨rfl, rfl, rfl, rfl⟩) (.single (.destroy _ V T V' T' p (Or.inl h)))

theorem Moves.returnAll (ps : List Nat) :
    Moves cfg ⟨s, ↑ps + V, T⟩ ⟨s.returnAll cfg ps, V, T⟩ := by
  induction ps generalizing s with
  | nil =>
      rw [Multiset.coe_nil, Multiset.zero_add]
      exact .refl
  | cons p ps ih =>
      rw [← Multiset.cons_coe, Multiset.cons_add]
      exact (Moves.returnToPool .checkout).trans ih

theorem Moves.destroyAll (ps : List Nat) :
    Moves cfg ⟨s, ↑ps + V, T⟩ ⟨{ s with toStore := s.toStore.destroyAll ps }, V, T⟩ := by
  induction ps generalizing s with
  | nil =>
      rw [Multiset.coe_nil, Multiset.zero_add]
      exact .refl
  | cons p ps ih =>
      rw [← Multiset.cons_coe, Multiset.cons_add]
      exact .head (.destroy s _ T _ T p (Or.inl .checkout)) ih

theorem destroy_idle (st : Store) (p : Nat) :
    (st.destroy p).idle = st.idle ∨ (st.destroy p).idle = st.idle.erase p := by
  unfold Store.destroy
  split
  · exact Or.inl rfl
  · exact Or.inr rfl

/-- The idle connections are destroyed one after the other. -/
theorem Moves.destroyIdle {ps : List Nat} (h : ps.Sublist s.idle) :
    Moves cfg ⟨s, V, T⟩ ⟨{ s with toStore := s.toStore.destroyAll ps }, V, T⟩ := by
  induction ps generalizing s with
  | nil => exact .refl
  | cons p ps ih =>
      have hp : p ∈ s.idle := h.subset (by simp)
      refine .head (.destroy s V T V T p (Or.inr ⟨hp, rfl, rfl⟩)) (ih ?_)
      change ps.Sublist (s.toStore.destroy p).idle
      rcases destroy_idle s.toStore p with e | e <;> rw [e]
      · exact (List.sublist_cons_self p ps).trans h
      · simpa using h.erase p

theorem Moves.trimLoop (high fuel : Nat) :
    Moves cfg ⟨s, V, T⟩ ⟨{ s with toStore := s.toStore.trimLoop high fuel }, V, T⟩ := by
  induction fuel generalizing s with
  | zero => exact .refl
  | succ fuel ih =>
      unfold Store.trimLoop
      split
      · split
        · rename_i p hp
          exact .head (.destroy s V T V T p (Or.inr ⟨List.mem_of_getLast? hp, rfl, rfl⟩)) ih
        · exact .refl
      · exact .refl

/-- A change of many cells which concerns no custodian. -/
theorem Moves.cells {f : PhysicalConnection → PhysicalConnection}
    (hf : ∀ x, (f x).resource = x.resource ∧ (f x).state = x.state ∧
      (f x).generation = x.generation ∧ (f x).destroyOperation = x.destroyOperation)
    (ps : List Nat) :
    Moves cfg ⟨s, V, T⟩ ⟨{ s with toStore := s.toStore.updateAll ps f }, V, T⟩ := by
  induction ps generalizing s with
  | nil => exact .refl
  | cons p ps ih => exact .head (.cell s V T p f hf) ih

theorem Moves.clearLifecycle (p o : Nat) :
    Moves cfg ⟨s, V, T⟩ ⟨{ s with toStore := s.toStore.clearLifecycle p o }, V, T⟩ := by
  unfold Store.clearLifecycle
  split
  · exact .single (.cell s V T p (fun c => { c with lifecycle := none })
      fun x => ⟨rfl, rfl, rfl, rfl⟩)
  · exact .refl

theorem Moves.trimIdleHigh : Moves cfg ⟨s, V, T⟩ ⟨s.trimIdleHigh cfg, V, T⟩ := by
  unfold ConnectionPoolRuntime.trimIdleHigh
  split
  · exact .refl
  · exact (Moves.trimLoop _ _).trans (Moves.cells (f := fun c => { c with recycleIdleHigh := none })
      (fun x => ⟨rfl, rfl, rfl, rfl⟩) _)

/-! Acquisition. -/

theorem Moves.armTimeout (r : Reading) (e : Option Failure) :
    Moves cfg ⟨s, V, T⟩ ⟨s.armTimeout cfg w r e, V, T⟩ := by
  unfold ConnectionPoolRuntime.armTimeout
  split
  · exact Moves.rejectWaiter _
  · rename_i now s' hr
    refine (Moves.readClock hr).trans (.head (.timer s' V T w (fun x => { x with
      timeoutGeneration := x.timeoutGeneration + 1
      scheduledRemaining := max 0 (x.deadline - now)
      rearming := false }) fun x => ⟨rfl, rfl, rfl⟩) ?_)
    dsimp only
    split
    · exact Moves.rejectWaiter _
    · exact .refl

theorem Moves.register (hw : w < s.nextWaiterId) (r : Registration) :
    Moves cfg ⟨s, V, T⟩ ⟨s.register cfg w r, V, T⟩ := by
  cases r with
  | threw e => exact Moves.rejectWaiter e
  | aborted => exact Moves.abort hw
  | arms reading e => exact Moves.armTimeout reading e

theorem acquireChecks_ok {number : JsNumber} {timeoutMs : Option JsNumber} {aborted : Bool}
    {n : Nat} {ms : Time} (h : s.acquireChecks cfg number timeoutMs aborted = .ok (n, ms)) :
    s.state = .opened ∧ s.waiters.length < cfg.maxWaiters ∧ 1 ≤ n ∧ n ≤ cfg.maxConnections := by
  unfold acquireChecks at h
  cases hn : integer number 1 cfg.maxConnections "acquire count" with
  | error e => simp [hn, bind, Except.bind] at h
  | ok k =>
      cases hm : timeout (timeoutMs.getD (.finite cfg.acquireTimeoutMs)) "acquire timeoutMs" with
      | error e => simp [hn, hm, bind, Except.bind] at h
      | ok m =>
          simp only [hn, hm, bind, Except.bind] at h
          split_ifs at h with hopen _ hlen
          obtain ⟨rfl, -⟩ : k.1 = n ∧ m = ms := by simpa [pure, Except.pure] using h
          rw [not_not] at hopen
          rw [not_le] at hlen
          exact ⟨hopen, hlen, k.2⟩

theorem Moves.acquire (number : JsNumber) (timeoutMs : Option JsNumber) (aborted : Bool)
    (reading : Reading) (registration : Registration) :
    Moves cfg ⟨s, V, T⟩ ⟨s.acquire cfg number timeoutMs aborted reading registration, V, T⟩ := by
  unfold ConnectionPoolRuntime.acquire
  split
  · exact .single (.refuse s V T _ trivial)
  · rename_i n ms hchecks
    obtain ⟨hopen, hlen, hn⟩ := acquireChecks_ok hchecks
    split
    · exact .single (.refuse s V T _ trivial)
    · rename_i now s' hr
      refine (Moves.readClock hr).trans ?_
      obtain ⟨rfl, -⟩ := readClock_ok hr
      refine .head (.accept _ V T n (now + ms) hopen hlen hn) ?_
      exact (Moves.register (Nat.lt_succ_self _) registration).trans Moves.requestPump

theorem Moves.handleTimeout (r : Reading) :
    Moves cfg ⟨s, V, T⟩ ⟨s.handleTimeout cfg w r, V, T⟩ := by
  unfold ConnectionPoolRuntime.handleTimeout
  split
  · exact Moves.rejectWaiter _
  · rename_i now s' hr
    refine (Moves.readClock hr).trans ?_
    dsimp only
    split_ifs
    · exact Moves.rejectWaiter _
    · exact .head (.timer s' V T w (fun x =>
        { x with earlyTimeoutRearms := x.earlyTimeoutRearms + 1 }) fun x => ⟨rfl, rfl, rfl⟩)
        (Moves.rejectWaiter _)
    · exact .single (.timer s' V T w (fun x => { x with
        earlyTimeoutRearms := x.earlyTimeoutRearms + 1
        timeoutGeneration := x.timeoutGeneration + 1
        rearming := true }) fun x => ⟨rfl, rfl, rfl⟩)
    · exact Moves.rejectWaiter _

theorem Moves.rearm (r : Reading) (e : Option Failure) :
    Moves cfg ⟨s, V, T⟩ ⟨s.rearm cfg w r e, V, T⟩ := by
  unfold ConnectionPoolRuntime.rearm
  split
  · exact Moves.rejectWaiter _
  · exact Moves.armTimeout r e

/-! Dispatch. -/

theorem Moves.waiterCannotDispatch (r : Reading) :
    Moves cfg ⟨s, V, T⟩ ⟨(s.waiterCannotDispatch cfg w r).2, V, T⟩ := by
  unfold ConnectionPoolRuntime.waiterCannotDispatch
  split
  · dsimp only
    split
    · exact Moves.rejectWaiter _
    · exact .refl
  · rename_i now s' hr
    refine (Moves.readClock hr).trans ?_
    split_ifs
    · exact .refl
    · exact .refl
    · exact Moves.rejectWaiter _

/-- A waiter which may be served is the active head of an open pool, and the clock has
just been read before its deadline. -/
theorem waiterCannotDispatch_false {r : Reading}
    (h : s.waiterCannotDispatch cfg w r = (false, s')) :
    s'.state = .opened ∧ (s'.waiter w).active = true ∧ s'.waiters.head? = some w ∧
      ∃ t, s'.lastClockValue = some t ∧ t < (s'.waiter w).deadline := by
  unfold ConnectionPoolRuntime.waiterCannotDispatch at h
  split at h
  · cases h
  · rename_i now s₁ hr
    obtain ⟨rfl, -⟩ := readClock_ok hr
    split at h
    · cases h
    · rename_i hstop
      split at h
      · rename_i hdue
        obtain rfl := (Prod.mk.inj h).2
        simp only [not_or, not_not, Bool.not_eq_false] at hstop
        exact ⟨hstop.1, hstop.2.1, hstop.2.2, now, rfl, hdue⟩
      · cases h

theorem Moves.startValidations (ps : List Nat) :
    Moves cfg ⟨s, V, T⟩ ⟨(s.startValidations cfg ps).2, V, T⟩ := by
  induction ps generalizing s with
  | nil => exact .refl
  | cons p ps ih =>
      refine .trans ?_ (ih (s := (startValidation cfg s p).2))
      unfold startValidation
      split
      · exact .single (.validate s V T p)
      · exact .refl

theorem startValidations_physical (ps : List Nat) (s : ConnectionPoolRuntime) :
    (s.startValidations cfg ps).1.map (·.physical) = ps := by
  induction ps generalizing s with
  | nil => rfl
  | cons p ps ih =>
      have : (startValidation cfg s p).1.physical = p := by
        unfold startValidation
        split <;> rfl
      change ((startValidation cfg s p).1.physical :: List.map _ _) = p :: ps
      rw [this, ih]

theorem Jobs.dispatchLoop (hd : s.dispatch = .loop) :
    Jobs cfg s.desk (s.dispatchLoop cfg).desk := by
  have hV : s.desk = ⟨s, 0, none⟩ := by rw [desk, hd]; rfl
  have hr : s.dispatch ≠ .stopped := by rw [hd]; simp
  rw [hV]
  unfold ConnectionPoolRuntime.dispatchLoop
  split
  · exact Moves.running .returned .refl hr
  · split
    · exact Moves.running .returned (Moves.trimIdleHigh.trans Moves.ensureLowWater) hr
    · rename_i w rest hw
      split
      · exact Moves.running (.clock w) .refl hr
      · rename_i hactive
        have hm : Move cfg ⟨s, 0, none⟩ _ := .shift s 0 none w rest hw (by simpa using hactive)
        rw [← hV] at hm ⊢
        exact Moves.desk (by rw [hd]; exact .single hm)

theorem Jobs.dispatchClock (r : Reading) (hd : s.dispatch ≠ .stopped) :
    Jobs cfg ⟨s, 0, none⟩ (s.dispatchClock cfg w r).desk := by
  have hm : Moves cfg ⟨s, 0, none⟩ ⟨(s.waiterCannotDispatch cfg w r).2, 0, none⟩ :=
    Moves.waiterCannotDispatch r
  unfold ConnectionPoolRuntime.dispatchClock
  split
  · rename_i s' h
    rw [h] at hm
    exact Moves.running .loop hm hd
  · rename_i s' h
    rw [h] at hm
    split
    · exact Moves.running .returned (hm.trans (Moves.startCreations (some w) _)) hd
    · generalize hs₁ : { s' with toStore := s'.toStore.checkout (s'.waiter w).count } = s₁
      have hcheckout : Move cfg ⟨s', 0, none⟩ _ := .checkout s' none (s'.waiter w).count
      rw [hs₁] at hcheckout
      have hphys : (s₁.startValidations cfg _).1.map (·.physical) = _ :=
        startValidations_physical (s'.idle.take (s'.waiter w).count) s₁
      refine Moves.running (.validating w _) ((hm.tail hcheckout).trans ?_) hd
      rw [Dispatch.candidates, hphys]
      exact Moves.startValidations _

theorem unhealthy_healthy (cs : List Candidate) :
    (↑(cs.map (·.physical)) : Multiset Nat) = ↑(unhealthyOf cs) + ↑(healthyOf cs) := by
  rw [Multiset.coe_add, Multiset.coe_eq_coe]
  unfold unhealthyOf healthyOf
  rw [← List.map_append]
  refine List.Perm.map _ ?_
  have := List.filter_append_perm (fun c : Candidate => !c.outcome.any (·.1)) cs
  simpa using this.symm

theorem Moves.giveUp (healthy : List Nat) (hV : V = ↑healthy) (hd : s.dispatch ≠ .stopped) :
    Jobs cfg ⟨s, V, none⟩ (s.giveUp cfg healthy).desk := by
  subst hV
  unfold ConnectionPoolRuntime.giveUp
  have hm : Moves cfg ⟨s, ↑healthy + 0, none⟩ _ := Moves.returnAll healthy
  rw [Multiset.add_zero] at hm
  refine Moves.running .loop (hm.trans ?_) hd
  split
  · exact Moves.checkClosed
  · exact .refl

theorem Jobs.dispatchValidated (cs : List Candidate) (hd : s.dispatch ≠ .stopped) :
    Jobs cfg ⟨s, ↑(cs.map (·.physical)), none⟩ (s.dispatchValidated cfg w cs).desk := by
  rw [unhealthy_healthy]
  unfold ConnectionPoolRuntime.dispatchValidated
  refine (Moves.destroyAll (V := ↑(healthyOf cs)) (unhealthyOf cs)).jobs.trans ?_
  have hd₁ : { s with toStore := s.toStore.destroyAll (unhealthyOf cs) }.dispatch ≠ .stopped := hd
  generalize { s with toStore := s.toStore.destroyAll (unhealthyOf cs) } = s₁ at hd₁ ⊢
  dsimp only
  split
  · have hm : Moves cfg ⟨s₁, ↑(healthyOf cs) + 0, none⟩ _ := Moves.returnAll (healthyOf cs)
    rw [Multiset.add_zero] at hm
    exact Moves.running .loop (hm.trans (Moves.rejectWaiter _)) hd₁
  · split
    · exact Moves.giveUp _ rfl hd₁
    · exact Moves.running (.finalClock w (healthyOf cs)) .refl hd₁

theorem Jobs.dispatchFinal (healthy : List Nat) (r : Reading) (hd : s.dispatch ≠ .stopped) :
    Jobs cfg ⟨s, ↑healthy, none⟩ (s.dispatchFinal cfg w healthy r).desk := by
  have hm : Moves cfg ⟨s, ↑healthy, none⟩ ⟨(s.waiterCannotDispatch cfg w r).2, ↑healthy, none⟩ :=
    Moves.waiterCannotDispatch r
  unfold ConnectionPoolRuntime.dispatchFinal
  split
  · rename_i s' h
    rw [h] at hm
    exact hm.jobs.trans (Moves.giveUp _ rfl fun e => hd (hm.dispatch_eq.symm.trans e))
  · rename_i s' h
    rw [h] at hm
    obtain ⟨hopen, hactive, hhead, t, ht, hdue⟩ := waiterCannotDispatch_false h
    split
    · have hback : Moves cfg ⟨s', ↑healthy + 0, none⟩ _ := Moves.returnAll healthy
      rw [Multiset.add_zero] at hback
      exact Moves.running .loop (hm.trans hback) hd
    · rename_i hlen
      rw [not_not] at hlen
      obtain ⟨f, hf, hop⟩ := reconcileCreations_eq cfg (s'.dequeue w)
      rw [cleanupWaiter, hf]
      dsimp only
      split
      · rename_i hclosed
        exact absurd hopen hclosed
      · have hgrant : Move cfg ⟨{ s' with creation := f }, ↑healthy, none⟩ _ :=
          .grant _ ↑healthy none w healthy t rfl hopen hactive hhead hlen ht hdue
        exact Moves.running .loop ((hm.tail (.creations s' _ _ f (fun c => (hop c).1)
          fun c => Or.inl (hop c).2)).tail hgrant) hd

theorem Jobs.pump : Jobs cfg s.desk s.pump.desk := by
  have hm : Moves cfg s.desk ⟨{ s with pumpScheduled := false }, s.dispatch.candidates, none⟩ :=
    .single (.bookkeeping s _ _ false _ _ _ _ (by simp))
  unfold ConnectionPoolRuntime.pump
  dsimp only
  split
  · exact hm.desk
  · rename_i h
    have hd : s.dispatch = .stopped := by
      simpa [dispatching] using (not_or.mp h).2
    have hV : s.desk = ⟨s, Dispatch.loop.candidates, none⟩ := by rw [desk, hd]; rfl
    rw [hV]
    exact Moves.turn .loop (.single (.bookkeeping s _ _ false false _ _ _ (by simp)))
      fun _ e => by cases e

theorem Jobs.dispatchFinally (hd : s.dispatch = .returned) :
    Jobs cfg s.desk s.dispatchFinally.desk := by
  have hstop : Jobs cfg s.desk { s with dispatch := .stopped }.desk := by
    rw [desk, hd]
    exact Moves.turn .stopped .refl fun _ _ => rfl
  unfold ConnectionPoolRuntime.dispatchFinally
  dsimp only
  split
  · exact hstop.trans Moves.requestPump.desk
  · exact hstop

/-! Outcomes of creations. -/

theorem Moves.rejectOwner (owner : Option Nat) (e : Failure) :
    Moves cfg ⟨s, V, T⟩ ⟨s.rejectOwner cfg owner e, V, T⟩ := by
  unfold ConnectionPoolRuntime.rejectOwner
  split
  · exact Moves.rejectWaiter _
  · exact .refl

theorem Moves.creationFailedAfterRemoval (e : Failure) :
    Moves cfg ⟨s, V, T⟩ ⟨s.creationFailedAfterRemoval cfg c e, V, T⟩ :=
  (Moves.count _).trans ((Moves.blocked true).trans
    ((Moves.rejectOwner (s.creation c).ownerWaiterId e).trans Moves.pumpAndClose))

theorem Moves.creationFailed {e : Failure} {late : Bool} (h : Fruitless s c) :
    Moves cfg ⟨s, V, T⟩ ⟨s.creationFailed cfg c e late, V, T⟩ := by
  unfold ConnectionPoolRuntime.creationFailed
  split
  · exact .refl
  · refine .head (.fruitless s V T c h) ?_
    dsimp only
    split
    · exact Moves.pumpAndClose
    · exact Moves.creationFailedAfterRemoval e

theorem Moves.creation (c : Nat) (f : Creation → Creation)
    (hf : ∀ x, (f x).operation = x.operation)
    (ht : (∀ x, (f x).terminalError = x.terminalError) ∨ s.Answered c) :
    Moves cfg ⟨s, V, T⟩ ⟨{ s with toStore := s.toStore.updateCreation c f }, V, T⟩ := by
  refine .single (.creations s V T _ (fun d => ?_) fun d => ?_)
  · by_cases e : d = c
    · subst e
      simp [hf]
    · simp [e]
  · by_cases e : d = c
    · subst e
      exact ht.imp (fun h => by simp [h]) id
    · simp [e]

theorem Moves.creationExpired (e : Failure) (h : s.Answered c) :
    Moves cfg ⟨s, V, T⟩ ⟨s.creationExpired cfg c e, V, T⟩ := by
  unfold ConnectionPoolRuntime.creationExpired
  split
  · exact .refl
  · exact (Moves.creation c (fun x => { x with terminalError := some e }) (fun _ => rfl)
      (Or.inr h)).trans
      ((Moves.count _).trans ((Moves.blocked true).trans
        ((Moves.rejectOwner (s.creation c).ownerWaiterId e).trans
          ((Moves.failCloseUnlessOpen e).trans Moves.pumpAndClose))))

theorem Moves.placeRecord {aborted late : Bool} :
    Moves cfg ⟨s, V, some p⟩ ⟨s.placeRecord cfg p aborted late, V, none⟩ := by
  unfold ConnectionPoolRuntime.placeRecord
  split
  · exact (Moves.count _).trans (.head (.destroy _ V _ V none p (Or.inl .hand)) Moves.pumpAndClose)
  · refine (Moves.blocked false).trans ?_
    dsimp only
    split
    · exact .head (.destroy _ V _ V none p (Or.inl .hand)) Moves.pumpAndClose
    · exact (Moves.returnToPool .hand).trans Moves.pumpAndClose

theorem Moves.admitRecord {r o : Nat} {x : Lifecycle} {late : Bool} (hc : c ∈ s.creating)
    (hr : ¬ s.owns r) (ho : s.operation o = some x) (hx : x.purpose = .create c)
    (hs : x.Settled (.fulfilled (.object r))) :
    Moves cfg ⟨s, V, none⟩
      ⟨{ s with creating := s.creating.erase c }.admitRecord cfg c r late, V, none⟩ :=
  .head (.admitRecord s V c r o x hc hr ho hx hs) Moves.placeRecord

theorem Moves.creationSucceeded {o : Nat} {x : Lifecycle} {v : FactoryValue} {late : Bool}
    (ho : s.operation o = some x) (hx : x.purpose = .create c)
    (hs : x.Settled (.fulfilled v)) :
    Moves cfg ⟨s, V, none⟩ ⟨s.creationSucceeded cfg c v late, V, none⟩ := by
  have useless : (∀ r, v ≠ .object r) → Fruitless s c := fun h =>
    ⟨o, x, _, ho, hx, hs, Or.inl fun r e => h r (Settlement.fulfilled.inj e)⟩
  have ended : ∀ (s' : ConnectionPoolRuntime) (e : Failure), Moves cfg ⟨s', V, none⟩
      ⟨if late then s'.requestPump.checkClosed else s'.creationFailedAfterRemoval cfg c e, V,
        none⟩ := by
    intro s' e
    split
    · exact Moves.pumpAndClose
    · exact Moves.creationFailedAfterRemoval e
  unfold ConnectionPoolRuntime.creationSucceeded
  split
  · exact .refl
  · rename_i hc
    rw [not_not] at hc
    dsimp only
    cases v with
    | object r =>
        dsimp only
        split
        · rename_i howns
          refine .head (.duplicate s V none c r o x howns ho hx hs)
            (.head (.fruitless _ V none c ?_) ?_)
          · exact ⟨o, x, _, ho, hx, hs, Or.inr (List.mem_cons_self ..)⟩
          · exact ended _ _
        · rename_i howns
          exact Moves.admitRecord hc howns ho hx hs
    | boolean b => exact .head (.fruitless s V none c (useless fun r => by simp)) (ended _ _)
    | other => exact .head (.fruitless s V none c (useless fun r => by simp)) (ended _ _)

/-! Destruction, leases and release. -/

theorem Moves.finishDestroy {o : Nat} {x : Lifecycle} {v : FactoryValue}
    (ho : s.operation o = some x) (hx : x.purpose = .destroy p) (hs : x.Settled (.fulfilled v)) :
    Moves cfg ⟨s, V, T⟩ ⟨s.finishDestroy p o, V, T⟩ := by
  unfold ConnectionPoolRuntime.finishDestroy
  split
  · exact .refl
  · rename_i hp
    exact .head (.removeRecord s V T p o x v (by simpa using hp) ho hx hs) Moves.pumpAndClose

theorem Moves.destroyRejected (e : Failure) :
    Moves cfg ⟨s, V, T⟩ ⟨s.destroyRejected p e, V, T⟩ :=
  (Moves.count _).trans (.head (.cell _ V T p (fun c => { c with destroyError := some e })
    fun _ => ⟨rfl, rfl, rfl, rfl⟩) ((Moves.failCloseUnlessOpen e).trans Moves.pumpAndClose))

theorem activeLeaseRecord_ok {token : LeaseToken} {l : Nat}
    (h : s.activeLeaseRecord token = .ok l) : (s.lease l).active = true ∧ token = .issued l := by
  cases token with
  | foreign => cases h
  | forged => cases h
  | issued k =>
      simp only [activeLeaseRecord] at h
      split at h
      · cases h
      · split at h
        · rename_i ha
          cases h
          exact ⟨ha, rfl⟩
        · split at h <;> cases h

theorem Moves.withActiveLease (token : LeaseToken) :
    Moves cfg ⟨s, V, T⟩ ⟨s.withActiveLease token, V, T⟩ := by
  unfold ConnectionPoolRuntime.withActiveLease
  split
  · exact .single (.refuse s V T _ trivial)
  · rename_i l hl
    split
    · exact .single (.refuse s V T _ trivial)
    · split
      · exact .single (.refuse s V T _ trivial)
      · rename_i hz
        exact .single (.callbackStart s V T l (activeLeaseRecord_ok hl).1 (by simpa using hz))

theorem Moves.resetActiveLease (token : LeaseToken) :
    Moves cfg ⟨s, V, T⟩ ⟨s.resetActiveLease cfg token, V, T⟩ := by
  unfold ConnectionPoolRuntime.resetActiveLease
  split
  · exact .single (.refuse s V T _ trivial)
  · rename_i l hl
    split
    · exact .single (.refuse s V T _ trivial)
    · split
      · exact .single (.refuse s V T _ trivial)
      · split
        · exact .single (.refuse s V T _ trivial)
        · rename_i hz
          exact .single (.resetStart s V T l (activeLeaseRecord_ok hl).1 (by simpa using hz))

theorem Moves.destroyFor (f : Nat → FollowUp) :
    Moves cfg ⟨s, V, some p⟩ ⟨s.destroyFor p f, V, none⟩ :=
  .head (.destroy s V _ V none p (Or.inl .hand)) (Moves.followUp _)

theorem Moves.finishReturn : Moves cfg ⟨s, V, some p⟩ ⟨s.finishReturn cfg p, V, none⟩ := by
  unfold ConnectionPoolRuntime.finishReturn
  refine (Moves.blocked false).trans ((Moves.returnToPool .hand).trans ?_)
  dsimp only
  split <;> exact Moves.followUp _

theorem Moves.release (token : LeaseToken) (reusable : Option Bool)
    (idleHigh : Option JsNumber) :
    Moves cfg ⟨s, V, none⟩ ⟨s.release cfg token reusable idleHigh, V, none⟩ := by
  unfold ConnectionPoolRuntime.release
  split
  · exact .single (.refuse s V none _ trivial)
  · rename_i recycleIdleHigh _
    split
    · exact .single (.refuse s V none _ trivial)
    · rename_i l hl
      split
      · exact .single (.refuse s V none _ trivial)
      · rename_i hz
        refine .head (.takeBack s V l (activeLeaseRecord_ok hl).1 (by simpa using hz)) ?_
        dsimp only
        split
        · exact Moves.destroyFor _
        · refine .head (.cell _ V _ (s.lease l).physical
            (fun c => { c with recycleIdleHigh := recycleIdleHigh })
            fun x => ⟨rfl, rfl, rfl, rfl⟩) ?_
          split
          · exact .single (.startReturn _ V (s.lease l).physical)
          · exact Moves.finishReturn

theorem Moves.resetReturnSettled (o : Nat) (failed : Bool) :
    Moves cfg ⟨s, V, some p⟩ ⟨s.resetReturnSettled cfg p o failed, V, none⟩ := by
  unfold ConnectionPoolRuntime.resetReturnSettled
  split
  · exact (Moves.count _).trans (Moves.destroyFor _)
  · refine (Moves.clearLifecycle p o).trans ?_
    dsimp only
    split
    · exact Moves.destroyFor _
    · exact Moves.finishReturn

theorem Moves.resumeRelease (f : FollowUp) (threw : Bool) :
    Moves cfg ⟨s, V, T⟩ ⟨s.resumeRelease f threw, V, T⟩ := by
  unfold ConnectionPoolRuntime.resumeRelease
  split
  · exact Moves.pumpAndClose
  · exact Moves.checkClosed
  · exact Moves.requestPump
  · exact Moves.requestPump
  · exact Moves.requestPump
  · exact .refl

theorem settleCandidate_candidates (p : Nat) (outcome : Bool × Option Failure) (d : Dispatch) :
    (d.settleCandidate p outcome).candidates = d.candidates := by
  cases d with
  | validating w cs =>
      simp only [Dispatch.settleCandidate, Dispatch.candidates, List.map_map]
      refine List.map_congr_left fun c _ => ?_
      simp only [Function.comp]
      split <;> rfl
  | _ => rfl

theorem Moves.validated {d : Desk} (outcome : Bool × Option Failure)
    (h : Moves cfg d ⟨s, s.dispatch.candidates, none⟩) :
    Jobs cfg d (s.validated p outcome).desk := by
  refine Moves.turn _ ?_ fun e _ => by rw [e]; rfl
  rw [settleCandidate_candidates]
  exact h

theorem Jobs.validationSettled {d : Desk} (o : Nat) (expired : Bool) (out : Settlement)
    (h : Moves cfg d ⟨s, s.dispatch.candidates, none⟩) :
    Jobs cfg d (s.validationSettled p o expired out).desk := by
  have hclear := h.trans (Moves.clearLifecycle p o)
  unfold ConnectionPoolRuntime.validationSettled
  dsimp only
  split
  · exact Moves.validated _ hclear
  · exact Moves.validated _ (hclear.trans (Moves.count _))
  · exact Moves.validated _ (hclear.trans (Moves.count _))

/-! Shutdown. -/

theorem Moves.rejectAll (e : Failure) (ws : List Nat) :
    Moves cfg ⟨s, V, T⟩ ⟨s.rejectAll cfg e ws, V, T⟩ := by
  induction ws generalizing s with
  | nil => exact .refl
  | cons w ws ih => exact (Moves.rejectWaiter e).trans ih

theorem Moves.abortAll (cs : List Nat) :
    Moves cfg ⟨s, V, T⟩ ⟨{ s with toStore := abortAll cs s.toStore }, V, T⟩ := by
  induction cs generalizing s with
  | nil => exact .refl
  | cons c cs ih =>
      exact (Moves.creation c (fun x => { x with abortRequested := true, aborted := true })
        (fun _ => rfl) (Or.inl fun _ => rfl)).trans ih

theorem Moves.startShutdown {requested : ConnectionPoolRuntimeState} (e : Option Failure)
    (hopen : s.state = .opened) (h : requested = .retiring ∨ requested = .closing) :
    Moves cfg ⟨s, V, T⟩ ⟨s.startShutdown cfg requested e, V, T⟩ := by
  unfold ConnectionPoolRuntime.startShutdown
  exact .head (.shutdown s V T requested hopen h) ((Moves.failCloseWith e).trans
    ((Moves.rejectAll _ _).trans ((Moves.abortAll _).trans
      ((Moves.destroyIdle (List.Sublist.refl _)).trans Moves.checkClosed))))

theorem Moves.beginShutdown (closing : Bool) (timeoutMs : Option JsNumber)
    (e : Option Failure) :
    Moves cfg ⟨s, V, T⟩ ⟨s.beginShutdown cfg closing timeoutMs e, V, T⟩ := by
  unfold ConnectionPoolRuntime.beginShutdown
  split
  · exact .refl
  · split
    · exact .refl
    · exact .refl
    · rename_i hstate
      split
      · exact .single (.escalate s V T hstate)
      · exact .refl
    · rename_i hstate
      refine Moves.startShutdown e hstate ?_
      cases closing
      · exact Or.inl rfl
      · exact Or.inr rfl

theorem Moves.shutdownExpired (e : Failure) :
    Moves cfg ⟨s, V, T⟩ ⟨s.shutdownExpired e, V, T⟩ :=
  (Moves.count _).trans (Moves.failClose e)

/-! Steps. -/

theorem Jobs.react {o : Nat} {x : Lifecycle} {out : Settlement} (ho : s.operation o = some x)
    (hr : x.result = some out) (hi : x.invoked = true) (hh : x.resultHandled = false) :
    Jobs cfg s.desk (s.react cfg o x out).desk := by
  have same : ∀ {s' : ConnectionPoolRuntime} {y : Lifecycle},
      s' = { s with toStore := s.toStore.updateOperation o y } → s'.operation o = some y := by
    rintro s' y rfl
    simp [Store.updateOperation]
  unfold ConnectionPoolRuntime.react
  generalize hs' : { s with toStore := s.toStore.updateOperation o { x with
    resultHandled := true } } = s'
  have ho' := same hs'.symm
  have hd : s'.dispatch = s.dispatch := by rw [← hs']
  have handled : (∀ l, x.purpose ≠ .resetLease l) → (∀ p, x.purpose ≠ .resetReturn p) →
      Moves cfg s.desk ⟨s', s.dispatch.candidates, none⟩ := by
    intro hl hp
    rw [← hs']
    exact .single (.handled s _ _ o x ho hl hp (by rw [hr]; rfl))
  dsimp only
  cases hx : x.purpose with
  | create c =>
      have hm := handled (by simp [hx]) (by simp [hx])
      cases out with
      | fulfilled v =>
          exact Moves.desk (hm.trans (Moves.creationSucceeded ho' hx (Or.inr ⟨hr, fun _ => ⟨v, rfl⟩⟩)))
      | rejected e =>
          dsimp only
          split
          · exact Moves.desk (hm.trans (Moves.creationExpired e ⟨o, _, ho', hx, rfl⟩))
          · rename_i hexp
            refine Moves.desk (hm.trans (Moves.creationFailed ⟨o, _, .rejected e, ho', hx,
              Or.inr ⟨hr, fun h => absurd h hexp⟩, Or.inl (by simp)⟩))
  | validate p =>
      have hm := handled (by simp [hx]) (by simp [hx])
      exact Jobs.validationSettled o x.expired out (by rw [hd]; exact hm)
  | resetLease l =>
      have hend : ∀ failed, Moves cfg s.desk
          ⟨s'.resetLeaseSettled l o failed, s.dispatch.candidates, none⟩ := by
        intro failed
        rw [← hs']
        exact .head (.resetEnd s _ _ l o x ho hx hi hh (by rw [hr]; rfl)) (Moves.count _)
      cases out <;> exact (hend _).desk
  | resetReturn p =>
      have hm : Moves cfg s.desk ⟨s', s.dispatch.candidates, some p⟩ := by
        rw [← hs']
        exact .single (.returned s _ o p x ho hx hh (by rw [hr]; rfl))
      cases out <;> exact Moves.desk (hm.trans (Moves.resetReturnSettled o _))
  | destroy p =>
      have hm := handled (by simp [hx]) (by simp [hx])
      cases out with
      | fulfilled v =>
          exact Moves.desk (hm.trans (Moves.finishDestroy ho' hx (Or.inr ⟨hr, fun _ => ⟨v, rfl⟩⟩)))
      | rejected e => exact Moves.desk (hm.trans (Moves.destroyRejected e))

theorem Jobs.reactRaw {o : Nat} {x : Lifecycle} {out : Settlement} (ho : s.operation o = some x)
    (hr : x.raw = some out) : Jobs cfg s.desk (s.reactRaw cfg o x out).desk := by
  unfold ConnectionPoolRuntime.reactRaw
  generalize hs' : { s with toStore := s.toStore.updateOperation o { x with
    rawHandled := true } } = s'
  have ho' : s'.operation o = some { x with rawHandled := true } := by
    rw [← hs']
    simp [Store.updateOperation]
  have hm : Moves cfg s.desk ⟨s', s.dispatch.candidates, none⟩ := by
    rw [← hs']
    exact .single (.rawHandled s _ _ o x ho)
  dsimp only
  split
  · rename_i hx
    exact Moves.desk (hm.trans (Moves.creationSucceeded ho' hx (Or.inl hr)))
  · rename_i e hx
    exact Moves.desk (hm.trans (Moves.creationFailed ⟨o, _, .rejected e, ho', hx,
      Or.inl hr, Or.inl (by simp)⟩))
  · rename_i hx
    exact Moves.desk (hm.trans (Moves.finishDestroy ho' hx (Or.inl hr)))
  · exact hm.desk

theorem Moves.expire {o : Nat} {x : Lifecycle} {e : Failure} (ho : s.operation o = some x)
    (hr : x.result = none) : Moves cfg ⟨s, V, T⟩ ⟨s.expire o x e, V, T⟩ := by
  unfold ConnectionPoolRuntime.expire
  refine .head (.expire s V T o x e ho hr) ?_
  refine .trans (b := ⟨_, V, T⟩) ?_ (Moves.count _)
  split
  · exact Moves.creation _ (fun x => { x with aborted := true }) (fun _ => rfl)
      (Or.inl fun _ => rfl)
  · exact .refl

/-- Every step is a sequence of moves and of turns of the dispatch loop. -/
theorem step_jobs {e : Event} (h : s.step cfg e = some s') : Jobs cfg s.desk s'.desk := by
  cases e with
  | acquire number timeoutMs initiallyAborted reading registration =>
      obtain rfl := Option.some.inj h
      exact (Moves.acquire number timeoutMs initiallyAborted reading registration).desk
  | abort w =>
      simp only [ConnectionPoolRuntime.step, Option.ite_none_right_eq_some,
        Option.some.injEq] at h
      obtain ⟨hw, rfl⟩ := h
      exact (Moves.abort hw).desk
  | timer w generation reading =>
      simp only [ConnectionPoolRuntime.step, Option.ite_none_right_eq_some,
        Option.some.injEq] at h
      obtain ⟨-, rfl⟩ := h
      exact (Moves.handleTimeout reading).desk
  | rearm w reading scheduleError =>
      simp only [ConnectionPoolRuntime.step, Option.ite_none_right_eq_some,
        Option.some.injEq] at h
      obtain ⟨-, rfl⟩ := h
      exact (Moves.rearm reading scheduleError).desk
  | pump =>
      simp only [ConnectionPoolRuntime.step, Option.ite_none_right_eq_some,
        Option.some.injEq] at h
      obtain ⟨-, rfl⟩ := h
      exact Jobs.pump
  | dispatchLoop =>
      simp only [ConnectionPoolRuntime.step, Option.ite_none_right_eq_some,
        Option.some.injEq] at h
      obtain ⟨hd, rfl⟩ := h
      exact Jobs.dispatchLoop hd
  | dispatchClock reading =>
      simp only [ConnectionPoolRuntime.step] at h
      split at h
      · rename_i w hd
        obtain rfl := Option.some.inj h
        rw [desk, hd]
        exact Jobs.dispatchClock reading (by rw [hd]; simp)
      · rename_i w healthy hd
        obtain rfl := Option.some.inj h
        rw [desk, hd]
        exact Jobs.dispatchFinal healthy reading (by rw [hd]; simp)
      · cases h
  | dispatchValidated =>
      simp only [ConnectionPoolRuntime.step] at h
      split at h
      · rename_i w cs hd
        simp only [Option.ite_none_right_eq_some, Option.some.injEq] at h
        obtain ⟨-, rfl⟩ := h
        rw [desk, hd]
        exact Jobs.dispatchValidated cs (by rw [hd]; simp)
      · cases h
  | dispatchFinally =>
      simp only [ConnectionPoolRuntime.step, Option.ite_none_right_eq_some,
        Option.some.injEq] at h
      obtain ⟨hd, rfl⟩ := h
      exact Jobs.dispatchFinally hd
  | invoke o =>
      simp only [ConnectionPoolRuntime.step] at h
      split at h
      · rename_i x ho
        split at h
        · cases h
        · rename_i hi
          obtain rfl := Option.some.inj h
          exact Moves.desk (.single (.invoke s _ _ o x ho (by simpa using hi)))
      · cases h
  | settle o out =>
      simp only [ConnectionPoolRuntime.step] at h
      split at h
      · rename_i x ho
        simp only [Option.ite_none_right_eq_some, Option.some.injEq] at h
        obtain ⟨⟨hi, hr⟩, rfl⟩ := h
        exact Moves.desk (.single (.settle s _ _ o x out ho hi hr))
      · cases h
  | expire o e =>
      simp only [ConnectionPoolRuntime.step] at h
      split at h
      · rename_i x ho
        simp only [Option.ite_none_right_eq_some, Option.some.injEq] at h
        obtain ⟨hr, rfl⟩ := h
        exact (Moves.expire ho hr).desk
      · cases h
  | react o =>
      simp only [ConnectionPoolRuntime.step] at h
      split at h
      · rename_i x ho
        split at h
        · rename_i out hr
          simp only [Option.ite_none_right_eq_some, Option.some.injEq] at h
          obtain ⟨⟨hi, hh⟩, rfl⟩ := h
          exact Jobs.react ho hr hi hh
        · cases h
      · cases h
  | reactRaw o =>
      simp only [ConnectionPoolRuntime.step] at h
      split at h
      · rename_i x ho
        split at h
        · rename_i out c hr hx
          simp only [Option.ite_none_right_eq_some, Option.some.injEq] at h
          obtain ⟨-, rfl⟩ := h
          exact Jobs.reactRaw ho hr
        · rename_i out p hr hx
          simp only [Option.ite_none_right_eq_some, Option.some.injEq] at h
          obtain ⟨-, rfl⟩ := h
          exact Jobs.reactRaw ho hr
        · cases h
      · cases h
  | withActiveLease token =>
      obtain rfl := Option.some.inj h
      exact (Moves.withActiveLease token).desk
  | callbackSettled l =>
      simp only [ConnectionPoolRuntime.step, Option.ite_none_right_eq_some,
        Option.some.injEq] at h
      obtain ⟨hl, rfl⟩ := h
      exact Moves.desk (.single (.callbackEnd s _ _ l hl))
  | resetActiveLease token =>
      obtain rfl := Option.some.inj h
      exact (Moves.resetActiveLease token).desk
  | release token reusable idleHigh =>
      obtain rfl := Option.some.inj h
      exact (Moves.release token reusable idleHigh).desk
  | resume i =>
      simp only [ConnectionPoolRuntime.step] at h
      split at h
      · rename_i f hf
        rw [Option.map_eq_some_iff] at h
        obtain ⟨threw, -, rfl⟩ := h
        exact Moves.desk (.head (.bookkeeping s _ _ _ _ _ _ (s.followUps.eraseIdx i) Or.inl)
          (Moves.resumeRelease f threw))
      · cases h
  | beginShutdown closing timeoutMs deadlineError =>
      obtain rfl := Option.some.inj h
      exact (Moves.beginShutdown closing timeoutMs deadlineError).desk
  | shutdownExpired e =>
      simp only [ConnectionPoolRuntime.step, Option.ite_none_right_eq_some,
        Option.some.injEq] at h
      obtain ⟨-, rfl⟩ := h
      exact (Moves.shutdownExpired e).desk

/-- What every move and every turn preserves holds in every reachable state. -/
theorem reachable_desk {P : Desk → Prop} (hinit : P initial.desk)
    (hmove : ∀ d d', P d → Move cfg d d' → P d') (hturn : ∀ d d', P d → Turn d d' → P d')
    (hs : (machine cfg).Reachable s) : P s.desk := by
  refine Machine.moves_preserve (R := fun d d' => Move cfg d d' ∨ Turn d d') ?_
    (hs.moves ConnectionPoolRuntime.desk fun _ _ _ => step_jobs) hinit
  rintro d d' hd (hm | ht)
  · exact hmove d d' hd hm
  · exact hturn d d' hd ht

end OpenRfc.Pool
