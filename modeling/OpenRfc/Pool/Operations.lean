import OpenRfc.Pool.Ownership

/-!
Lifecycle operations. A move leaves the operations alone, starts one, or takes one a
step further: its callback is invoked, its promise settles, its deadline expires, or a
reaction of the pool has run. A promise settles once, and the resource of a connection
never changes.
-/

namespace OpenRfc.Pool
open ConnectionPoolRuntime

inductive Progress : Lifecycle → Lifecycle → Prop
  | invoke (x) (h : x.invoked = false) : Progress x { x with invoked := true }
  | settle (x) (out : Settlement) (hi : x.invoked = true) (h : x.raw = none) :
      Progress x { x with raw := some out, result := some (x.result.getD out) }
  | expire (x) (e : Failure) (h : x.result = none) :
      Progress x { x with expired := true, result := some (.rejected e) }
  | handled (x) (h : x.result.isSome = true) : Progress x { x with resultHandled := true }
  | rawHandled (x) : Progress x { x with rawHandled := true }

/-- A result which is not the promise's own is a rejection by the deadline. -/
structure Lifecycle.Sound (x : Lifecycle) : Prop where
  invoked : x.raw.isSome = true → x.invoked = true
  result : ∀ out, x.result = some out →
    x.raw = some out ∨ (x.expired = true ∧ ∃ e, out = .rejected e)
  handled : x.resultHandled = true → x.result.isSome = true

theorem Lifecycle.Sound.settled {x : Lifecycle} (h : x.Sound) {out : Settlement}
    (hs : x.Settled out) : x.raw = some out := by
  rcases hs with hraw | ⟨hresult, hvalue⟩
  · exact hraw
  · rcases h.result out hresult with hraw | ⟨hexp, e, rfl⟩
    · exact hraw
    · obtain ⟨v, hv⟩ := hvalue hexp
      cases hv

theorem Progress.sound {x y : Lifecycle} (h : Progress x y) (hx : x.Sound) : y.Sound := by
  cases h with
  | invoke => exact ⟨fun _ => rfl, hx.result, hx.handled⟩
  | settle out hi hr =>
      refine ⟨fun _ => hi, fun o ho => ?_, fun _ => rfl⟩
      cases hres : x.result with
      | none =>
          rw [hres] at ho
          exact Or.inl ho
      | some r =>
          rw [hres] at ho
          obtain rfl : r = o := Option.some.inj ho
          rcases hx.result r hres with hraw | hexp
          · rw [hr] at hraw
            cases hraw
          · exact Or.inr hexp
  | expire e hr =>
      refine ⟨hx.invoked, fun o ho => Or.inr ⟨rfl, e, ?_⟩, fun _ => rfl⟩
      exact (Option.some.inj ho).symm
  | handled hr => exact ⟨hx.invoked, hx.result, fun _ => hr⟩
  | rawHandled => exact ⟨hx.invoked, hx.result, hx.handled⟩

/-- What is known of an operation stays known of it. -/
structure Grows (x y : Lifecycle) : Prop where
  purpose : y.purpose = x.purpose
  invoked : x.invoked = true → y.invoked = true
  raw : ∀ out, x.raw = some out → y.raw = some out
  handled : x.resultHandled = true → y.resultHandled = true

theorem Grows.refl (x : Lifecycle) : Grows x x := ⟨rfl, id, fun _ => id, id⟩

theorem Grows.unsettled {x y : Lifecycle} (h : Grows x y) (hy : y.raw = none) : x.raw = none := by
  cases hx : x.raw with
  | none => rfl
  | some out =>
      rw [h.raw out hx] at hy
      cases hy

theorem Progress.grows {x y : Lifecycle} (h : Progress x y) : Grows x y := by
  cases h with
  | settle out hi hr =>
      refine ⟨rfl, id, fun o ho => ?_, id⟩
      rw [hr] at ho
      cases ho
  | invoke => exact ⟨rfl, fun _ => rfl, fun _ => id, id⟩
  | handled => exact ⟨rfl, id, fun _ => id, fun _ => rfl⟩
  | _ => exact ⟨rfl, id, fun _ => id, id⟩

inductive Operations (st st' : Store) : Prop
  | same (h : st'.operation = st.operation)
  | started (purpose : Purpose) (h : st'.operation = (st.startLifecycle purpose).operation)
      (hc : ∀ c, purpose = .create c → c = st.nextCreationId ∧ st'.nextCreationId = c + 1)
  | progressed (o : Nat) (x y : Lifecycle) (hx : st.operation o = some x) (hp : Progress x y)
      (h : st'.operation = (st.updateOperation o y).operation)

theorem Move.operations {cfg : Settings} {d d' : Desk} (hm : Move cfg d d') :
    Operations d.pool.toStore d'.pool.toStore := by
  cases hm with
  | create s V T owner =>
      refine .started (.create s.nextCreationId) rfl fun c hc => ?_
      cases hc
      exact ⟨rfl, rfl⟩
  | validate s V T p => exact .started (.validate p) rfl (by simp)
  | checkout s T n => exact .same (Store.checkout_frame s.toStore n).2.2
  | park s V T V' T' p waiting => exact .same (Store.park_frame s.toStore p waiting).2.2
  | destroy s V T V' T' p =>
      change Operations s.toStore (s.toStore.destroy p)
      cases hd : (s.physical p).destroyOperation with
      | some o =>
          rw [Store.destroy, hd]
          exact .same rfl
      | none =>
          rw [Store.destroy_eq hd]
          exact .started (.destroy p) rfl (by simp)
  | grant s V T w healthy => exact .same (issueLeases_operation healthy s.toStore)
  | resetStart s V T l => exact .started (.resetLease l) rfl (by simp)
  | resetEnd s V T l o x ho hx hi hh hr =>
      exact .progressed o x _ ho (.handled x hr) (Store.endLeaseReset_frame _ l o).2.1
  | startReturn s V p => exact .started (.resetReturn p) rfl (by simp)
  | returned s V o p x ho hx hh hr => exact .progressed o x _ ho (.handled x hr) rfl
  | removeRecord s V T p o => exact .same (Store.removeRecord_frame s.toStore p o).2.2
  | invoke s V T o x ho hi =>
      exact .progressed o x _ ho (.invoke x hi) (by rw [toStore_invoke])
  | settle s V T o x out ho hi hr =>
      exact .progressed o x _ ho (.settle x out hi hr) (by rw [toStore_settle])
  | expire s V T o x e ho hr => exact .progressed o x _ ho (.expire x e hr) rfl
  | handled s V T o x ho hl hp hr => exact .progressed o x _ ho (.handled x hr) rfl
  | rawHandled s V T o x ho => exact .progressed o x _ ho (.rawHandled x) rfl
  | _ => exact .same rfl

/-- The operations of before are still there, and no less is known of them. -/
theorem Operations.forward {st st' : Store} (h : Operations st st') (hd : st.Destructions)
    {o : Nat} {x : Lifecycle} (hx : st.operation o = some x) :
    ∃ y, st'.operation o = some y ∧ Grows x y := by
  cases h with
  | same h => exact ⟨x, by rw [h]; exact hx, .refl x⟩
  | started purpose h hc =>
      have hne : o ≠ st.nextOperationId := Nat.ne_of_lt (hd.operation_lt o x hx)
      refine ⟨x, ?_, .refl x⟩
      rw [h, Store.startLifecycle_operation, if_neg hne]
      exact hx
  | progressed o' x' y hx' hp h =>
      rw [h, Store.updateOperation_operation]
      split
      · rename_i e
        subst e
        obtain rfl := Option.some.inj (hx'.symm.trans hx)
        exact ⟨y, rfl, hp.grows⟩
      · exact ⟨x, hx, .refl x⟩

/-- An operation is one of before, or it has just been started. -/
theorem Operations.backward {st st' : Store} (h : Operations st st') {o : Nat} {y : Lifecycle}
    (hy : st'.operation o = some y) :
    (∃ x, st.operation o = some x ∧ Grows x y ∧ (x = y ∨ Progress x y)) ∨
      (o = st.nextOperationId ∧
        ∃ purpose, y = ⟨purpose, false, false, none, none, false, false⟩ ∧
          ∀ c, purpose = .create c → c = st.nextCreationId ∧ st'.nextCreationId = c + 1) := by
  cases h with
  | same h =>
      rw [h] at hy
      exact Or.inl ⟨y, hy, .refl y, Or.inl rfl⟩
  | started purpose h hc =>
      rw [h, Store.startLifecycle_operation] at hy
      split at hy
      · rename_i e
        exact Or.inr ⟨e, purpose, (Option.some.inj hy).symm, hc⟩
      · exact Or.inl ⟨y, hy, .refl y, Or.inl rfl⟩
  | progressed o' x' z hx' hp h =>
      rw [h, Store.updateOperation_operation] at hy
      split at hy
      · rename_i e
        obtain rfl := Option.some.inj hy
        exact Or.inl ⟨x', e ▸ hx', hp.grows, Or.inr hp⟩
      · exact Or.inl ⟨y, hy, .refl y, Or.inl rfl⟩

theorem Operations.sound {st st' : Store} (h : Operations st st')
    (hs : ∀ o x, st.operation o = some x → x.Sound) :
    ∀ o y, st'.operation o = some y → y.Sound := by
  intro o y hy
  rcases h.backward hy with ⟨x, hx, -, rfl | hp⟩ | ⟨-, purpose, rfl, -⟩
  · exact hs o x hx
  · exact hp.sound (hs o x hx)
  · exact ⟨by simp, by simp, by simp⟩

/-! Resources. -/

/-- The records of before keep their resources. -/
def SameResources (st st' : Store) : Prop :=
  ∀ q, q < st.nextPhysicalId → (st'.physical q).resource = (st.physical q).resource

namespace SameResources

theorem update (st : Store) (p : Nat) {f : PhysicalConnection → PhysicalConnection} (q : Nat)
    (hf : ∀ x, (f x).resource = x.resource) :
    ((st.updatePhysical p f).physical q).resource = (st.physical q).resource := by
  by_cases e : q = p
  · subst e
    rw [Store.updatePhysical_self, hf]
  · rw [Store.updatePhysical_ne st f e]

theorem updateAll (st : Store) (ps : List Nat) {f : PhysicalConnection → PhysicalConnection}
    (q : Nat) (hf : ∀ x, (f x).resource = x.resource) :
    ((st.updateAll ps f).physical q).resource = (st.physical q).resource := by
  induction ps generalizing st with
  | nil => rfl
  | cons p ps ih => exact (ih (st.updatePhysical p f)).trans (update st p q hf)

theorem start (st : Store) (p : Nat) (purpose : Purpose) (q : Nat) :
    ((st.startPhysicalLifecycle p purpose).physical q).resource = (st.physical q).resource :=
  update (st.startLifecycle purpose) p q fun _ => rfl

theorem clear (st : Store) (p o q : Nat) :
    ((st.clearLifecycle p o).physical q).resource = (st.physical q).resource := by
  unfold Store.clearLifecycle
  split
  · exact update st p q fun _ => rfl
  · rfl

theorem destroy (st : Store) (p q : Nat) :
    ((st.destroy p).physical q).resource = (st.physical q).resource := by
  cases hd : (st.physical p).destroyOperation with
  | some o =>
      rw [Store.destroy, hd]
      rfl
  | none =>
      rw [Store.destroy_eq hd]
      by_cases e : q = p
      · subst e
        simp
      · simp [e]

theorem park (st : Store) (p : Nat) (waiting : Bool) (q : Nat) :
    ((st.park p waiting).physical q).resource = (st.physical q).resource := by
  have first := update st p (f := fun c => { c with state := .idle }) q fun _ => rfl
  unfold Store.park
  dsimp only
  split
  · split <;> exact first
  · refine (update _ p q ?_).trans ?_
    · exact fun _ => rfl
    · split <;> exact first

theorem issue (ps : List Nat) (st : Store) (q : Nat) :
    ((issueLeases ps st).physical q).resource = (st.physical q).resource := by
  induction ps generalizing st with
  | nil => rfl
  | cons p ps ih =>
      exact (ih (st.issueLease p)).trans (update st p (f := fun c => { c with
        recycleIdleHigh := none
        state := .leased
        generation := st.lastLeaseGeneration + 1 }) q fun _ => rfl)

theorem endReset (st : Store) (l o q : Nat) :
    ((st.endLeaseReset l o).physical q).resource = (st.physical q).resource := by
  have first := clear (st.updateLease l .leave) (st.lease l).physical o q
  unfold Store.endLeaseReset
  dsimp only
  split
  · refine (update _ _ q ?_).trans first
    exact fun _ => rfl
  · exact first

end SameResources

theorem Move.resources {cfg : Settings} {d d' : Desk} (hm : Move cfg d d') :
    SameResources d.pool.toStore d'.pool.toStore := by
  intro q hq
  cases hm with
  | admitRecord s V c r o x =>
      have hne : q ≠ s.nextPhysicalId := Nat.ne_of_lt hq
      change (Function.update s.physical s.nextPhysicalId _ q).resource = _
      rw [Function.update_of_ne hne]
  | cell s V T p f hf => exact SameResources.update _ p q fun x => (hf x).1
  | checkout s T n => exact SameResources.updateAll { s.toStore with idle := s.idle.drop n } _ q fun _ => rfl
  | validate s V T p => exact SameResources.start _ p _ q
  | park s V T V' T' p waiting => exact SameResources.park _ p waiting q
  | destroy s V T V' T' p => exact SameResources.destroy _ p q
  | grant s V T w healthy => exact SameResources.issue healthy _ q
  | resetStart s V T l =>
      exact (SameResources.start _ _ _ q).trans (SameResources.update _ _ q fun _ => rfl)
  | resetEnd s V T l o x => exact SameResources.endReset _ l o q
  | startReturn s V p =>
      exact (SameResources.start _ p _ q).trans (SameResources.update _ p q fun _ => rfl)
  | removeRecord s V T p o =>
      exact (SameResources.clear _ p o q).trans (SameResources.update _ p q fun _ => rfl)
  | invoke s V T o x => rw [toStore_invoke]; rfl
  | settle s V T o x out => rw [toStore_settle]; rfl
  | _ => rfl

end OpenRfc.Pool
