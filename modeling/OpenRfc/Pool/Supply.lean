import OpenRfc.Pool.Shutdown
import OpenRfc.Pool.Leases

/-!
What the head waiter can count on. The supply of a pool is its idle connections, its
creations which have not been aborted, and the connections which are reset on their way
back; a connection which the holder of a lease resets is no part of it. The source's own
estimate counts every reset.
-/

namespace OpenRfc.Pool
open ConnectionPoolRuntime

namespace Store

/-- A token in use holds the connection. -/
def HeldByLease (st : Store) (p : Nat) : Prop :=
  ∃ l ∈ st.leased, (st.lease l).physical = p

instance (st : Store) (p : Nat) : Decidable (st.HeldByLease p) :=
  inferInstanceAs (Decidable (∃ l ∈ st.leased, (st.lease l).physical = p))

/-- The connection is reset on its way back to the pool. -/
def Returning (st : Store) (p : Nat) : Prop :=
  (st.physical p).state = .resetting ∧ ¬ st.HeldByLease p

instance (st : Store) (p : Nat) : Decidable (st.Returning p) :=
  inferInstanceAs (Decidable (_ ∧ _))

def returningCount (st : Store) : Nat :=
  st.records.countP fun p => st.Returning p

def supply (st : Store) : Nat :=
  st.idle.length + st.liveCreations + st.returningCount

/-- A creation has been given up by its deadline, and the pool has yet to react. -/
def ExpiryQueued (st : Store) : Prop :=
  ∃ c ∈ st.creating, ∃ o < st.nextOperationId, (st.operation o).any fun x =>
    x.purpose = .create c ∧ x.expired = true ∧ x.resultHandled = false

instance (st : Store) : Decidable st.ExpiryQueued :=
  inferInstanceAs (Decidable (∃ c ∈ st.creating, ∃ o < st.nextOperationId, _))

variable {st st' : Store}

/-- Resets on the way back go on, with the possible exception of one. -/
theorem returningCount_le_succ (st' : Store) (p : Nat) (hnd : st.records.Nodup)
    (hr : st'.records = st.records)
    (h : ∀ q ∈ st.records, q ≠ p → st.Returning q → st'.Returning q) :
    st.returningCount ≤ st'.returningCount + 1 := by
  have others : (st.records.erase p).countP (fun q => st.Returning q) ≤ st'.returningCount := by
    unfold returningCount
    rw [hr]
    refine Nat.le_trans (List.countP_mono_left fun q hq hret => ?_)
      (List.erase_sublist.countP_le)
    have hqp := (hnd.mem_erase_iff.mp hq).1
    simpa using h q (List.mem_of_mem_erase hq) hqp (by simpa using hret)
  have one : st.returningCount ≤ (st.records.erase p).countP (fun q => st.Returning q) + 1 := by
    unfold returningCount
    rw [List.countP_erase]
    split <;> omega
  omega

theorem returningCount_mono (hr : st'.records = st.records)
    (h : ∀ q ∈ st.records, st.Returning q → st'.Returning q) :
    st.returningCount ≤ st'.returningCount := by
  unfold returningCount
  rw [hr]
  exact List.countP_mono_left fun q hq hret => by simpa using h q hq (by simpa using hret)

/-- The supply does not shrink where idle connections and creations are the same ones. -/
theorem supply_mono (hi : st'.idle = st.idle) (hc : st'.creating = st.creating)
    (ha : st'.creation = st.creation) (hr : st'.records = st.records)
    (h : ∀ q ∈ st.records, st.Returning q → st'.Returning q) : st.supply ≤ st'.supply := by
  have := returningCount_mono hr h
  unfold supply liveCreations
  rw [hi, hc, ha]
  omega

/-- Nothing but the operations and the fields of a connection which no state reads. -/
theorem supply_same (hi : st'.idle = st.idle) (hc : st'.creating = st.creating)
    (ha : st'.creation = st.creation) (hr : st'.records = st.records)
    (hp : ∀ q, (st'.physical q).state = (st.physical q).state)
    (hl : st'.leased = st.leased) (hh : ∀ l, (st'.lease l).physical = (st.lease l).physical) :
    st.supply ≤ st'.supply := by
  refine supply_mono hi hc ha hr fun q _ hret => ?_
  unfold Returning HeldByLease at hret ⊢
  rw [hp, hl]
  simpa only [hh] using hret

theorem destroy_idle_of_not_mem {p : Nat} (st : Store) (hp : p ∉ st.idle) :
    (st.destroy p).idle = st.idle := by
  rcases destroy_idle st p with e | e <;> rw [e]
  exact List.erase_of_not_mem hp

theorem destroy_physical_ne {p q : Nat} (st : Store) (h : q ≠ p) :
    (st.destroy p).physical q = st.physical q := by
  cases hd : (st.physical p).destroyOperation with
  | some o => simp [destroy, hd]
  | none =>
      rw [destroy_eq hd]
      exact Function.update_of_ne h ..

theorem destroy_lists (st : Store) (p : Nat) :
    (st.destroy p).creation = st.creation ∧ (st.destroy p).leased = st.leased := by
  unfold destroy
  refine ⟨?_, ?_⟩ <;> split <;> rfl

/-- A destruction costs at most one connection which was on its way back. -/
theorem supply_destroy {p : Nat} (hnd : st.records.Nodup) (hp : p ∉ st.idle) :
    st.supply ≤ (st.destroy p).supply + 1 := by
  have stock := st.destroy_stock p
  obtain ⟨hcreation, hleased⟩ := st.destroy_lists p
  have hret := returningCount_le_succ (st.destroy p) p hnd stock.records
    fun q _ hq hret => by
      unfold Returning HeldByLease at hret ⊢
      rw [destroy_physical_ne st hq, hleased, (st.destroy_frame p).1]
      exact hret
  unfold supply liveCreations at *
  rw [destroy_idle_of_not_mem st hp, stock.creating, hcreation]
  omega

theorem lease_physical_of_update {f : LeaseRecord → LeaseRecord} (st : Store) (l k : Nat)
    (hf : ∀ x, (f x).physical = x.physical) :
    ((st.updateLease l f).lease k).physical = (st.lease k).physical := by
  rw [updateLease_lease]
  split
  · rename_i e
    rw [hf, e]
  · rfl

theorem takeBack_lease_physical (st : Store) (l k : Nat) :
    ((st.takeBack l).lease k).physical = (st.lease k).physical :=
  lease_physical_of_update st l k (f := fun r => { r with active := false })
    fun _ => rfl

theorem heldByLease_takeBack {l q : Nat} (h : (st.takeBack l).HeldByLease q) :
    st.HeldByLease q := by
  obtain ⟨k, hk, hq⟩ := h
  rw [takeBack_lease_physical] at hq
  exact ⟨k, List.mem_of_mem_erase hk, hq⟩

theorem supply_takeBack (l : Nat) : st.supply ≤ (st.takeBack l).supply :=
  supply_mono rfl rfl rfl rfl fun _ _ hret => ⟨hret.1, fun hh => hret.2 (heldByLease_takeBack hh)⟩

/-- A connection which its holder gives up was no part of the supply. -/
theorem supply_evict {l : Nat} (hl : l ∈ st.leased) (hp : (st.lease l).physical ∉ st.idle) :
    st.supply ≤ ((st.takeBack l).destroy (st.lease l).physical).supply := by
  have stock := (st.takeBack l).destroy_stock (st.lease l).physical
  obtain ⟨hcreation, hleased⟩ := (st.takeBack l).destroy_lists (st.lease l).physical
  refine supply_mono (destroy_idle_of_not_mem (st.takeBack l) hp) stock.creating hcreation
    stock.records fun q _ hret => ?_
  have hq : q ≠ (st.lease l).physical := fun e => hret.2 ⟨l, hl, e.symm⟩
  unfold Returning HeldByLease
  rw [destroy_physical_ne _ hq, hleased, ((st.takeBack l).destroy_frame _).1]
  exact ⟨hret.1, fun hh => hret.2 (heldByLease_takeBack hh)⟩

theorem supply_startReturn (p : Nat) : st.supply ≤ (st.startReturn p).supply := by
  refine supply_mono rfl rfl rfl rfl fun q _ hret => ⟨?_, hret.2⟩
  by_cases e : q = p
  · subst e
    simp [startReturn]
  · simp [startReturn, e, hret.1]

theorem park_lists (st : Store) (p : Nat) (waiting : Bool) :
    (st.park p waiting).creation = st.creation ∧ (st.park p waiting).leased = st.leased := by
  unfold park
  dsimp only
  refine ⟨?_, ?_⟩ <;> split <;> split <;> rfl

/-- A parked connection is idle instead of on its way back. -/
theorem supply_park {p : Nat} (hnd : st.records.Nodup) (hp : p ∉ st.idle) (waiting : Bool) :
    st.supply ≤ (st.park p waiting).supply := by
  have stock := st.park_stock p waiting
  have hidle : (st.park p waiting).idle = st.idle ++ [p] := by
    unfold park updatePhysical
    dsimp only
    rw [if_neg hp]
    split <;> rfl
  obtain ⟨hcreation, hleased⟩ := st.park_lists p waiting
  have hphys : ∀ q, q ≠ p → (st.park p waiting).physical q = st.physical q := by
    intro q hq
    unfold park
    dsimp only
    split <;> split <;> simp [hq]
  have hret := returningCount_le_succ (st.park p waiting) p hnd stock.records
    fun q _ hq hret => by
      unfold Returning HeldByLease at hret ⊢
      rw [hphys q hq, hleased, (st.park_frame p waiting).1]
      exact hret
  unfold supply liveCreations at *
  rw [hidle, stock.creating, hcreation, List.length_append, List.length_singleton]
  omega

/-- The holder of a lease may reset its connection; the supply is none the poorer, nor
is it the richer for it. -/
theorem supply_startLeaseReset {l : Nat} (hl : l ∈ st.leased) :
    st.supply ≤ (st.startLeaseReset l).supply := by
  refine supply_mono rfl rfl rfl rfl fun q _ hret => ?_
  have hq : q ≠ (st.lease l).physical := fun e => hret.2 ⟨l, hl, e.symm⟩
  refine ⟨?_, ?_⟩
  · rw [startLeaseReset, startPhysicalLifecycle_ne _ _ hq, updatePhysical_ne _ _ hq]
    exact hret.1
  · rintro ⟨k, hk, hkq⟩
    refine hret.2 ⟨k, hk, ?_⟩
    exact (lease_physical_of_update st l k (f := .enter) fun _ => rfl).symm.trans hkq

theorem endLeaseReset_lists (st : Store) (l o : Nat) :
    (st.endLeaseReset l o).idle = st.idle ∧ (st.endLeaseReset l o).creation = st.creation ∧
      (st.endLeaseReset l o).leased = st.leased := by
  unfold endLeaseReset clearLifecycle
  dsimp only
  refine ⟨?_, ?_, ?_⟩ <;> split <;> split <;> rfl

theorem supply_endLeaseReset {l o : Nat} (hl : (st.lease l).active = true → l ∈ st.leased) :
    st.supply ≤ (st.endLeaseReset l o).supply := by
  obtain ⟨hlease, -, -⟩ := st.endLeaseReset_frame l o
  have stock := st.endLeaseReset_stock l o
  have lists := st.endLeaseReset_lists l o
  have cleared : ∀ q, (((st.updateLease l .leave).clearLifecycle (st.lease l).physical o).physical
      q).state = (st.physical q).state := by
    intro q
    unfold clearLifecycle
    split
    · by_cases e : q = (st.lease l).physical
      · subst e
        rw [updatePhysical_self]
        rfl
      · rw [updatePhysical_ne _ _ e]
        rfl
    · rfl
  have leave_active : ((st.updateLease l .leave).lease l).active = (st.lease l).active := by
    rw [updateLease_lease, if_pos rfl]
    rfl
  refine supply_mono lists.1 stock.creating lists.2.1 stock.records fun q _ hret => ⟨?_, ?_⟩
  · unfold endLeaseReset
    dsimp only
    split
    · rename_i hactive
      have : ((st.updateLease l .leave).lease l).active = true := by
        have := hactive.1
        unfold clearLifecycle at this
        split at this <;> exact this
      have hq : q ≠ (st.lease l).physical := fun e =>
        hret.2 ⟨l, hl (leave_active ▸ this), e.symm⟩
      rw [updatePhysical_ne _ _ hq, cleared]
      exact hret.1
    · rw [cleared]
      exact hret.1
  · rintro ⟨k, hk, hkq⟩
    rw [lists.2.2] at hk
    rw [hlease] at hkq
    exact hret.2 ⟨k, hk, (lease_physical_of_update st l k (f := .leave) fun _ => rfl).symm.trans hkq⟩

theorem checkout_creation (st : Store) (n : Nat) : (st.checkout n).creation = st.creation := by
  have all : ∀ (ps : List Nat) (st : Store) (f : PhysicalConnection → PhysicalConnection),
      (st.updateAll ps f).creation = st.creation := by
    intro ps
    induction ps with
    | nil => exact fun _ _ => rfl
    | cons p ps ih => exact fun st f => ih (st.updatePhysical p f) f
  exact all (st.idle.take n) { st with idle := st.idle.drop n } _

theorem removeRecord_creation (st : Store) (p o : Nat) :
    (st.removeRecord p o).creation = st.creation := by
  unfold removeRecord clearLifecycle
  dsimp only
  split <;> rfl

/-! Expiries. -/

/-- The operations of before are the same ones. -/
theorem ExpiryQueued.frame (h : st.ExpiryQueued) (hc : st'.creating = st.creating)
    (hn : st.nextOperationId ≤ st'.nextOperationId)
    (ho : ∀ o < st.nextOperationId, st'.operation o = st.operation o) : st'.ExpiryQueued := by
  obtain ⟨c, hcr, o, hlt, hx⟩ := h
  exact ⟨c, hc ▸ hcr, o, Nat.lt_of_lt_of_le hlt hn, by rw [ho o hlt]; exact hx⟩

theorem ExpiryQueued.startLifecycle (h : st.ExpiryQueued) (purpose : Purpose) :
    (st.startLifecycle purpose).ExpiryQueued :=
  h.frame rfl (Nat.le_succ _) fun o hlt => by
    rw [startLifecycle_operation, if_neg (Nat.ne_of_lt hlt)]

theorem ExpiryQueued.destroy (h : st.ExpiryQueued) (p : Nat) : (st.destroy p).ExpiryQueued := by
  cases hd : (st.physical p).destroyOperation with
  | some o => simpa [Store.destroy, hd] using h
  | none =>
      refine h.frame (st.destroy_stock p).creating ?_ ?_
      · rw [destroy_eq hd]
        exact Nat.le_succ _
      · intro o hlt
        rw [destroy_eq hd]
        exact Function.update_of_ne (Nat.ne_of_lt hlt) ..

/-- An operation which is no creation, or goes on being one which has been given up. -/
theorem ExpiryQueued.updateOperation (h : st.ExpiryQueued) {o : Nat} {x y : Lifecycle}
    (hx : st.operation o = some x)
    (hy : ∀ c ∈ st.creating, x.purpose = .create c → x.expired = true →
      x.resultHandled = false →
        y.purpose = .create c ∧ y.expired = true ∧ y.resultHandled = false) :
    (st.updateOperation o y).ExpiryQueued := by
  obtain ⟨c, hc, k, hlt, hk⟩ := h
  refine ⟨c, hc, k, hlt, ?_⟩
  rw [updateOperation_operation]
  split
  · rename_i e
    rw [e, hx, Option.any_some, decide_eq_true_eq] at hk
    rw [Option.any_some, decide_eq_true_eq]
    exact hy c hc hk.1 hk.2.1 hk.2.2
  · exact hk

end Store

theorem issueLeases_creation_eq (ps : List Nat) (st : Store) :
    (issueLeases ps st).creation = st.creation := by
  induction ps generalizing st with
  | nil => rfl
  | cons p ps ih => exact ih (st.issueLease p)

end OpenRfc.Pool
