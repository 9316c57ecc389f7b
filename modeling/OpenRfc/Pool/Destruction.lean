import OpenRfc.Pool.Jobs

/-!
Destructions. A connection which is being destroyed names the operation which
destroys it, and that operation names the connection: no connection has two of them.
-/

namespace OpenRfc.Pool
open ConnectionPoolRuntime

namespace Store

structure Destructions (st : Store) : Prop where
  operation_lt : ∀ o x, st.operation o = some x → o < st.nextOperationId
  named : ∀ o x p, st.operation o = some x → x.purpose = .destroy p →
    (st.physical p).destroyOperation = some o
  naming : ∀ p o, (st.physical p).destroyOperation = some o →
    ∃ x, st.operation o = some x ∧ x.purpose = .destroy p
  fresh : ∀ p, st.nextPhysicalId ≤ p → (st.physical p).destroyOperation = none

variable {st st' : Store}

/-- Connections and destructions are the same ones as before. -/
theorem Destructions.same (h : st.Destructions)
    (hp : ∀ q, (st'.physical q).destroyOperation = (st.physical q).destroyOperation)
    (hlt : ∀ o x, st'.operation o = some x → o < st'.nextOperationId)
    (hold : ∀ o x q, st'.operation o = some x → x.purpose = .destroy q →
      ∃ y, st.operation o = some y ∧ y.purpose = .destroy q)
    (hnew : ∀ o x q, st.operation o = some x → x.purpose = .destroy q →
      ∃ y, st'.operation o = some y ∧ y.purpose = .destroy q)
    (hn : st.nextPhysicalId ≤ st'.nextPhysicalId) : st'.Destructions := by
  refine ⟨hlt, ?_, ?_, ?_⟩
  · intro o x q hx hq
    obtain ⟨y, hy, hyq⟩ := hold o x q hx hq
    rw [hp]
    exact h.named o y q hy hyq
  · intro q o ho
    rw [hp] at ho
    obtain ⟨x, hx, hq⟩ := h.naming q o ho
    exact hnew o x q hx hq
  · intro q hq
    rw [hp]
    exact h.fresh q (Nat.le_trans hn hq)

/-- The operations are untouched. -/
theorem Destructions.of_physical (h : st.Destructions)
    (hp : ∀ q, (st'.physical q).destroyOperation = (st.physical q).destroyOperation)
    (ho : st'.operation = st.operation) (hm : st'.nextOperationId = st.nextOperationId)
    (hn : st'.nextPhysicalId = st.nextPhysicalId) : st'.Destructions :=
  h.same hp (by rw [ho, hm]; exact h.operation_lt) (by rw [ho]; exact fun o x q hx hq => ⟨x, hx, hq⟩)
    (by rw [ho]; exact fun o x q hx hq => ⟨x, hx, hq⟩) (Nat.le_of_eq hn.symm)

theorem Destructions.updatePhysical (h : st.Destructions) (p : Nat)
    (f : PhysicalConnection → PhysicalConnection)
    (hf : ∀ x, (f x).destroyOperation = x.destroyOperation) :
    (st.updatePhysical p f).Destructions := by
  refine h.of_physical (fun q => ?_) rfl rfl rfl
  by_cases e : q = p
  · subst e
    rw [updatePhysical_self, hf]
  · rw [updatePhysical_ne st f e]

theorem Destructions.updateAll (h : st.Destructions) (ps : List Nat)
    (f : PhysicalConnection → PhysicalConnection)
    (hf : ∀ x, (f x).destroyOperation = x.destroyOperation) :
    (st.updateAll ps f).Destructions := by
  induction ps generalizing st with
  | nil => exact h
  | cons p ps ih => exact ih (h.updatePhysical p f hf)

theorem Destructions.clearLifecycle (h : st.Destructions) (p o : Nat) :
    (st.clearLifecycle p o).Destructions := by
  unfold Store.clearLifecycle
  split
  · exact h.updatePhysical p _ fun _ => rfl
  · exact h

theorem Destructions.startLifecycle (h : st.Destructions) (purpose : Purpose)
    (hp : ∀ p, purpose ≠ .destroy p) : (st.startLifecycle purpose).Destructions := by
  refine h.same (fun _ => rfl) ?_ ?_ ?_ (Nat.le_refl _)
  · intro o x hx
    rw [startLifecycle_operation] at hx
    change o < st.nextOperationId + 1
    split at hx
    · omega
    · have := h.operation_lt o x hx
      omega
  · intro o x q hx hq
    rw [startLifecycle_operation] at hx
    split at hx
    · obtain rfl := Option.some.inj hx
      exact absurd hq (hp q)
    · exact ⟨x, hx, hq⟩
  · intro o x q hx hq
    have hne : o ≠ st.nextOperationId := Nat.ne_of_lt (h.operation_lt o x hx)
    exact ⟨x, by rw [startLifecycle_operation, if_neg hne]; exact hx, hq⟩

theorem Destructions.startPhysicalLifecycle (h : st.Destructions) (p : Nat)
    (purpose : Purpose) (hp : ∀ q, purpose ≠ .destroy q) :
    (st.startPhysicalLifecycle p purpose).Destructions :=
  (h.startLifecycle purpose hp).updatePhysical p _ fun _ => rfl

theorem Destructions.updateOperation {o : Nat} {x y : Lifecycle} (h : st.Destructions)
    (hx : st.operation o = some x) (hp : y.purpose = x.purpose) :
    (st.updateOperation o y).Destructions := by
  refine h.same (fun _ => rfl) ?_ ?_ ?_ (Nat.le_refl _)
  · intro o' z hz
    rw [updateOperation_operation] at hz
    split at hz
    · rename_i e
      exact e ▸ h.operation_lt o x hx
    · exact h.operation_lt o' z hz
  · intro o' z q hz hq
    rw [updateOperation_operation] at hz
    split at hz
    · rename_i e
      obtain rfl := Option.some.inj hz
      exact ⟨x, e ▸ hx, hp ▸ hq⟩
    · exact ⟨z, hz, hq⟩
  · intro o' z q hz hq
    rw [updateOperation_operation]
    split
    · rename_i e
      subst e
      obtain rfl := Option.some.inj (hx.symm.trans hz)
      exact ⟨y, rfl, hp.trans hq⟩
    · exact ⟨z, hz, hq⟩

/-- `#destroy` names a fresh operation. -/
theorem Destructions.destroy (h : st.Destructions) (p : Nat) (hp : p < st.nextPhysicalId) :
    (st.destroy p).Destructions := by
  cases hd : (st.physical p).destroyOperation with
  | some o =>
      rw [Store.destroy, hd]
      exact h
  | none =>
      rw [destroy_eq hd]
      have hne : ∀ o x, st.operation o = some x → o ≠ st.nextOperationId := fun o x hx =>
        Nat.ne_of_lt (h.operation_lt o x hx)
      refine ⟨?_, ?_, ?_, ?_⟩
      · intro o x hx
        simp only [Function.update_apply] at hx
        change o < st.nextOperationId + 1
        split at hx
        · omega
        · have := h.operation_lt o x hx
          omega
      · intro o x q hx hq
        simp only [Function.update_apply] at hx ⊢
        split at hx
        · rename_i e
          obtain rfl := Option.some.inj hx
          obtain rfl := Purpose.destroy.inj hq
          simp [e]
        · have hq' := h.named o x q hx hq
          split
          · rename_i e
            rw [e, hd] at hq'
            cases hq'
          · exact hq'
      · intro q o ho
        simp only [Function.update_apply] at ho ⊢
        split at ho
        · rename_i e
          obtain rfl := Option.some.inj ho
          exact ⟨_, if_pos rfl, by rw [e]⟩
        · obtain ⟨x, hx, hq⟩ := h.naming q o ho
          exact ⟨x, by simp [hne o x hx, hx], hq⟩
      · intro q hq
        change st.nextPhysicalId ≤ q at hq
        have : q ≠ p := by omega
        simp [this, h.fresh q hq]

theorem Destructions.park (h : st.Destructions) (p : Nat) (waiting : Bool) :
    (st.park p waiting).Destructions := by
  have pushed : ∀ (st : Store), st.Destructions →
      (if p ∈ st.idle then st else { st with idle := st.idle ++ [p] }).Destructions := by
    intro st h
    split
    · exact h
    · exact h.of_physical (fun _ => rfl) rfl rfl rfl
  have h' := pushed _ (h.updatePhysical p (fun c => { c with state := .idle }) fun _ => rfl)
  unfold Store.park
  dsimp only
  split
  · exact h'
  · exact h'.updatePhysical p _ fun _ => rfl

theorem Destructions.startCreation (h : st.Destructions) (owner : Option Nat) :
    (st.startCreation owner).Destructions := by
  have listed : Destructions { st with
      creating := st.creating ++ [st.nextCreationId]
      creation := Function.update st.creation st.nextCreationId
        ⟨owner, false, false, none, st.nextOperationId⟩
      nextCreationId := st.nextCreationId + 1 } := h.of_physical (fun _ => rfl) rfl rfl rfl
  exact listed.startLifecycle _ (by simp)

theorem Destructions.checkout (h : st.Destructions) (n : Nat) : (st.checkout n).Destructions :=
  have dropped : Destructions { st with idle := st.idle.drop n } :=
    h.of_physical (fun _ => rfl) rfl rfl rfl
  dropped.updateAll _ _ fun _ => rfl

theorem Destructions.startLeaseReset (h : st.Destructions) (l : Nat) :
    (st.startLeaseReset l).Destructions := by
  have entered : (st.updateLease l .enter).Destructions :=
    h.of_physical (fun _ => rfl) rfl rfl rfl
  exact (entered.updatePhysical _ (fun c => { c with state := .resetting })
    fun _ => rfl).startPhysicalLifecycle _ _ (by simp)

theorem Destructions.startReturn (h : st.Destructions) (p : Nat) :
    (st.startReturn p).Destructions :=
  (h.updatePhysical p (fun c => { c with state := .resetting })
    fun _ => rfl).startPhysicalLifecycle p _ (by simp)

theorem Destructions.addRecord (h : st.Destructions) (r : Nat) :
    (st.addRecord r).Destructions := by
  refine h.same (fun q => ?_) h.operation_lt (fun o x q hx hq => ⟨x, hx, hq⟩)
    (fun o x q hx hq => ⟨x, hx, hq⟩) (Nat.le_succ _)
  by_cases e : q = st.nextPhysicalId
  · subst e
    simp [Store.addRecord, h.fresh st.nextPhysicalId (Nat.le_refl _)]
  · simp [Store.addRecord, e]

theorem Destructions.issueLeases (h : st.Destructions) (ps : List Nat) :
    (ConnectionPoolRuntime.issueLeases ps st).Destructions := by
  induction ps generalizing st with
  | nil => exact h
  | cons p ps ih =>
      refine ih ?_
      exact (h.updatePhysical p (fun c => { c with
        recycleIdleHigh := none
        state := .leased
        generation := st.lastLeaseGeneration + 1 }) fun _ => rfl).of_physical (fun _ => rfl)
          rfl rfl rfl

theorem Destructions.endLeaseReset (h : st.Destructions) (l o : Nat) :
    (st.endLeaseReset l o).Destructions := by
  have h' : ((st.updateLease l .leave).clearLifecycle (st.lease l).physical o).Destructions :=
    have left : (st.updateLease l .leave).Destructions := h.of_physical (fun _ => rfl) rfl rfl rfl
    left.clearLifecycle _ o
  unfold Store.endLeaseReset
  dsimp only
  split
  · exact h'.updatePhysical _ _ fun _ => rfl
  · exact h'

theorem Destructions.removeRecord (h : st.Destructions) (p o : Nat) :
    (st.removeRecord p o).Destructions :=
  ((h.updatePhysical p (fun c => { c with destroyError := none }) fun _ => rfl).clearLifecycle
    p o).of_physical (fun _ => rfl) rfl rfl rfl

end Store

theorem destructions_initial : initial.toStore.Destructions := by
  refine ⟨?_, ?_, ?_, ?_⟩ <;> simp [initial, requestPump, dispatching, Store.empty]

end OpenRfc.Pool
