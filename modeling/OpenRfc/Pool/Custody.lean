import OpenRfc.Pool.Store
import Mathlib.Data.List.Perm.Basic
import Mathlib.Data.List.Nodup

/-!
Custody of physical connections. The purpose of the pool's states is that every
connection has exactly one custodian: the idle list, the checkout in progress, the
holder of one lease, one suspended release, the destruction under way, or the code
which is running right now. `Custodial` says that a store's lists, states and tokens
are what an assignment of custodians prescribes; each operation of the store moves
one connection from one custodian to another.
-/

namespace OpenRfc.Pool

inductive Custody
  | idle
  | checkout
  | transit
  | lease (l : Nat)
  | returning (o : Nat)
  | closing
deriving DecidableEq

/-- The physical states which a connection may be in under each custodian. -/
def Custody.Admits : Custody → PhysicalState → Prop
  | .idle, s => s = .idle
  | .checkout, s => s = .validating
  | .transit, s => s ≠ .closing
  | .lease _, s => s = .leased ∨ s = .resetting
  | .returning _, s => s = .resetting
  | .closing, s => s = .closing

namespace Store

structure Custodial (st : Store) (κ : Nat → Custody) : Prop where
  records_nodup : st.records.Nodup
  records_lt : ∀ p ∈ st.records, p < st.nextPhysicalId
  idle_nodup : st.idle.Nodup
  mem_idle : ∀ p, p ∈ st.idle ↔ p ∈ st.records ∧ κ p = .idle
  admits : ∀ p ∈ st.records, (κ p).Admits (st.physical p).state
  closing : ∀ p ∈ st.records, (st.physical p).destroyOperation.isSome ↔ κ p = .closing
  resource_inj : ∀ p ∈ st.records, ∀ q ∈ st.records,
    (st.physical p).resource = (st.physical q).resource → p = q
  leased_nodup : st.leased.Nodup
  active : ∀ l, (st.lease l).active = true ↔ l ∈ st.leased
  leased : ∀ l ∈ st.leased,
    (st.lease l).physical ∈ st.records ∧ κ (st.lease l).physical = .lease l
  leased_le : ∀ l ∈ st.leased, l ≤ st.lastLeaseGeneration
  returning : ∀ o h p, st.operation o = some h → h.purpose = .resetReturn p →
    h.resultHandled = false → p ∈ st.records ∧ κ p = .returning o
  operation_lt : ∀ o h, st.operation o = some h → o < st.nextOperationId

variable {st : Store} {κ : Nat → Custody} {p : Nat}

/-- Custody does not depend on the creations in progress. -/
theorem Custodial.congr {st' : Store} (h : st.Custodial κ)
    (hr : st'.records = st.records) (hp : st'.physical = st.physical)
    (hn : st'.nextPhysicalId = st.nextPhysicalId) (hi : st'.idle = st.idle)
    (hl : st'.leased = st.leased) (he : st'.lease = st.lease)
    (hg : st'.lastLeaseGeneration = st.lastLeaseGeneration)
    (ho : st'.operation = st.operation) (hm : st'.nextOperationId = st.nextOperationId) :
    st'.Custodial κ := by
  refine ⟨?_, ?_, ?_, ?_, ?_, ?_, ?_, ?_, ?_, ?_, ?_, ?_, ?_⟩
  · rw [hr]; exact h.records_nodup
  · rw [hr, hn]; exact h.records_lt
  · rw [hi]; exact h.idle_nodup
  · rw [hi, hr]; exact h.mem_idle
  · rw [hr, hp]; exact h.admits
  · rw [hr, hp]; exact h.closing
  · rw [hr, hp]; exact h.resource_inj
  · rw [hl]; exact h.leased_nodup
  · rw [hl, he]; exact h.active
  · rw [hr, hl, he]; exact h.leased
  · rw [hl, hg]; exact h.leased_le
  · rw [hr, ho]; exact h.returning
  · rw [ho, hm]; exact h.operation_lt

/-- A change of one cell which its custodian admits. -/
theorem Custodial.updatePhysical (h : st.Custodial κ)
    (f : PhysicalConnection → PhysicalConnection)
    (hs : p ∈ st.records → (κ p).Admits (f (st.physical p)).state)
    (hd : (f (st.physical p)).destroyOperation = (st.physical p).destroyOperation)
    (hr : (f (st.physical p)).resource = (st.physical p).resource) :
    (st.updatePhysical p f).Custodial κ := by
  refine ⟨h.records_nodup, h.records_lt, h.idle_nodup, h.mem_idle, ?_, ?_, ?_,
    h.leased_nodup, h.active, h.leased, h.leased_le, h.returning, h.operation_lt⟩
  · intro q hq
    by_cases e : q = p
    · subst e
      rw [updatePhysical_self]
      exact hs hq
    · rw [updatePhysical_ne st f e]
      exact h.admits q hq
  · intro q hq
    by_cases e : q = p
    · subst e
      rw [updatePhysical_self, hd]
      exact h.closing q hq
    · rw [updatePhysical_ne st f e]
      exact h.closing q hq
  · have same : ∀ q, ((st.updatePhysical p f).physical q).resource =
        (st.physical q).resource := by
      intro q
      by_cases e : q = p
      · subst e
        rw [updatePhysical_self, hr]
      · rw [updatePhysical_ne st f e]
    intro q hq r hr' heq
    rw [same q, same r] at heq
    exact h.resource_inj q hq r hr' heq

/-- A change of one cell which leaves its state alone. -/
theorem Custodial.updatePhysical_frame (h : st.Custodial κ)
    (f : PhysicalConnection → PhysicalConnection)
    (hs : (f (st.physical p)).state = (st.physical p).state)
    (hd : (f (st.physical p)).destroyOperation = (st.physical p).destroyOperation)
    (hr : (f (st.physical p)).resource = (st.physical p).resource) :
    (st.updatePhysical p f).Custodial κ :=
  h.updatePhysical f (fun hp => by rw [hs]; exact h.admits p hp) hd hr

theorem Custodial.clearLifecycle (h : st.Custodial κ) (p : Nat) (o : Nat) :
    (st.clearLifecycle p o).Custodial κ := by
  unfold Store.clearLifecycle
  split
  · exact h.updatePhysical_frame _ rfl rfl rfl
  · exact h

theorem Custodial.updateLease (h : st.Custodial κ) (l : Nat)
    (f : LeaseRecord → LeaseRecord) (hf : (f (st.lease l)).physical = (st.lease l).physical)
    (ha : (f (st.lease l)).active = (st.lease l).active) :
    (st.updateLease l f).Custodial κ := by
  have same : ∀ k, ((st.updateLease l f).lease k).physical = (st.lease k).physical ∧
      ((st.updateLease l f).lease k).active = (st.lease k).active := by
    intro k
    by_cases e : k = l
    · subst e
      simp [Store.updateLease, hf, ha]
    · simp [Store.updateLease, e]
  refine ⟨h.records_nodup, h.records_lt, h.idle_nodup, h.mem_idle, h.admits, h.closing,
    h.resource_inj, h.leased_nodup, ?_, ?_, h.leased_le, h.returning, h.operation_lt⟩
  · intro k
    rw [(same k).2]
    exact h.active k
  · intro k hk
    rw [(same k).1]
    exact h.leased k hk

/-- A change of an operation which does not take its reaction back. -/
theorem Custodial.updateOperation {o : Nat} {x y : Lifecycle} (h : st.Custodial κ)
    (hx : st.operation o = some x) (hp : y.purpose = x.purpose)
    (hh : y.resultHandled = false → x.resultHandled = false) :
    (st.updateOperation o y).Custodial κ := by
  refine ⟨h.records_nodup, h.records_lt, h.idle_nodup, h.mem_idle, h.admits, h.closing,
    h.resource_inj, h.leased_nodup, h.active, h.leased, h.leased_le, ?_, ?_⟩
  · intro o' z p hz hpz hhz
    by_cases e : o' = o
    · subst e
      obtain rfl : y = z := by simpa [Store.updateOperation] using hz
      exact h.returning o' x p hx (hp ▸ hpz) (hh hhz)
    · exact h.returning o' z p (by simpa [Store.updateOperation, e] using hz) hpz hhz
  · intro o' z hz
    by_cases e : o' = o
    · subst e
      exact h.operation_lt o' x hx
    · exact h.operation_lt o' z (by simpa [Store.updateOperation, e] using hz)

/-- A fresh operation other than a returning reset changes no custodian. -/
theorem Custodial.startLifecycle (h : st.Custodial κ) (purpose : Purpose)
    (hp : ∀ p, purpose ≠ .resetReturn p) : (st.startLifecycle purpose).Custodial κ := by
  refine ⟨h.records_nodup, h.records_lt, h.idle_nodup, h.mem_idle, h.admits, h.closing,
    h.resource_inj, h.leased_nodup, h.active, h.leased, h.leased_le, ?_, ?_⟩
  · intro o x p hx hpx hhx
    rw [startLifecycle_operation] at hx
    split at hx
    · obtain rfl := Option.some.inj hx
      exact absurd hpx (hp p)
    · exact h.returning o x p hx hpx hhx
  · intro o x hx
    rw [startLifecycle_operation] at hx
    change o < st.nextOperationId + 1
    split at hx
    · omega
    · have := h.operation_lt o x hx
      omega

theorem Custodial.startPhysicalLifecycle (h : st.Custodial κ) (p : Nat)
    (purpose : Purpose) (hp : ∀ q, purpose ≠ .resetReturn q) :
    (st.startPhysicalLifecycle p purpose).Custodial κ :=
  (h.startLifecycle purpose hp).updatePhysical_frame _ rfl rfl rfl

/-! Moves between custodians. -/

/-- The reassignment of one connection, for a store whose lists already follow it. -/
theorem Custodial.move {st' : Store} {c : Custody} (h : st.Custodial κ)
    (hr : st'.records = st.records) (hn : st'.nextPhysicalId = st.nextPhysicalId)
    (hphys : ∀ q, q ≠ p → st'.physical q = st.physical q)
    (hres : (st'.physical p).resource = (st.physical p).resource)
    (hidle : st'.idle.Nodup)
    (hmem : ∀ q, q ∈ st'.idle ↔ (q ∈ st.idle ∧ q ≠ p) ∨ (q = p ∧ p ∈ st.records ∧ c = .idle))
    (hadm : p ∈ st.records → c.Admits (st'.physical p).state)
    (hclose : p ∈ st.records → ((st'.physical p).destroyOperation.isSome ↔ c = .closing))
    (hnodup : st'.leased.Nodup)
    (hactive : ∀ l, (st'.lease l).active = true ↔ l ∈ st'.leased)
    (hlease : ∀ l ∈ st'.leased, l ≤ st'.lastLeaseGeneration ∧
      ((st'.lease l).physical ∈ st.records ∧
        Function.update κ p c (st'.lease l).physical = .lease l))
    (hret : ∀ o x q, st'.operation o = some x → x.purpose = .resetReturn q →
      x.resultHandled = false → q ∈ st.records ∧ Function.update κ p c q = .returning o)
    (hop : ∀ o x, st'.operation o = some x → o < st'.nextOperationId) :
    st'.Custodial (Function.update κ p c) := by
  refine ⟨by rw [hr]; exact h.records_nodup, by rw [hr, hn]; exact h.records_lt, hidle, ?_, ?_,
    ?_, ?_, hnodup, hactive, fun l hl => hr ▸ (hlease l hl).2, fun l hl => (hlease l hl).1,
    fun o x q hx hp hh => hr ▸ hret o x q hx hp hh, hop⟩
  · intro q
    rw [hmem q, hr]
    by_cases e : q = p
    · subst e
      simp
    · simp [e, h.mem_idle q]
  · intro q hq
    rw [hr] at hq
    by_cases e : q = p
    · subst e
      simpa using hadm hq
    · simpa [e, hphys q e] using h.admits q hq
  · intro q hq
    rw [hr] at hq
    by_cases e : q = p
    · subst e
      simpa using hclose hq
    · simpa [e, hphys q e] using h.closing q hq
  · have same : ∀ q, (st'.physical q).resource = (st.physical q).resource := by
      intro q
      by_cases e : q = p
      · subst e
        exact hres
      · rw [hphys q e]
    intro q hq r hr' heq
    rw [hr] at hq hr'
    rw [same q, same r] at heq
    exact h.resource_inj q hq r hr' heq

/-- A connection which is neither leased nor returning, so that no token and no
suspended release mentions it. -/
def Loose (κ : Nat → Custody) (p : Nat) : Prop :=
  κ p = .idle ∨ κ p = .checkout ∨ κ p = .transit

theorem Loose.lease_ne (h : Loose κ p) (hc : st.Custodial κ) {l : Nat}
    (hl : l ∈ st.leased) : (st.lease l).physical ≠ p := by
  intro e
  have hκ := (hc.leased l hl).2
  rw [e] at hκ
  rcases h with h | h | h <;> rw [h] at hκ <;> cases hκ

theorem Loose.returning_ne (h : Loose κ p) (hc : st.Custodial κ) {o : Nat}
    {x : Lifecycle} {q : Nat} (hx : st.operation o = some x)
    (hq : x.purpose = .resetReturn q) (hh : x.resultHandled = false) : q ≠ p := by
  rintro rfl
  have hκ := (hc.returning o x q hx hq hh).2
  rcases h with h | h | h <;> rw [h] at hκ <;> cases hκ

theorem Loose.not_closing (h : Loose κ p) (hc : st.Custodial κ) (hp : p ∈ st.records) :
    (st.physical p).destroyOperation.isSome = false := by
  cases hd : (st.physical p).destroyOperation.isSome with
  | false => rfl
  | true =>
      have hκ := (hc.closing p hp).mp hd
      rcases h with h | h | h <;> rw [h] at hκ <;> cases hκ

/-- Leases and suspended releases keep their custodians when a loose connection is
reassigned. -/
theorem Loose.leases (h : Loose κ p) (hc : st.Custodial κ) (c : Custody) :
    ∀ l ∈ st.leased, l ≤ st.lastLeaseGeneration ∧ ((st.lease l).physical ∈ st.records ∧
      Function.update κ p c (st.lease l).physical = .lease l) := by
  intro l hl
  refine ⟨hc.leased_le l hl, (hc.leased l hl).1, ?_⟩
  rw [Function.update_of_ne (h.lease_ne hc hl)]
  exact (hc.leased l hl).2

theorem Loose.returns (h : Loose κ p) (hc : st.Custodial κ) (c : Custody) :
    ∀ o x q, st.operation o = some x → x.purpose = .resetReturn q →
      x.resultHandled = false → q ∈ st.records ∧ Function.update κ p c q = .returning o := by
  intro o x q hx hq hh
  refine ⟨(hc.returning o x q hx hq hh).1, ?_⟩
  rw [Function.update_of_ne (h.returning_ne hc hx hq hh)]
  exact (hc.returning o x q hx hq hh).2

/-- The store in which a connection has been pushed onto the idle list. -/
private def pushed (st : Store) (p : Nat) : Store :=
  { (st.updatePhysical p fun c => { c with state := .idle }) with idle := st.idle ++ [p] }

theorem Custodial.park (h : st.Custodial κ) (hp : p ∈ st.records)
    (hκ : κ p = .checkout ∨ κ p = .transit) (waiting : Bool) :
    (st.park p waiting).Custodial (Function.update κ p .idle) := by
  have loose : Loose κ p := Or.inr hκ
  have hnot : p ∉ st.idle := by
    intro hi
    have := ((h.mem_idle p).mp hi).2
    rcases hκ with e | e <;> rw [e] at this <;> cases this
  have moved : (pushed st p).Custodial (Function.update κ p .idle) := by
    refine h.move (c := .idle) rfl rfl (fun q hq => by simp [pushed, hq]) (by simp [pushed]) ?_ ?_
      (fun _ => by simp [pushed, Custody.Admits]) ?_ h.leased_nodup h.active (loose.leases h _)
      (loose.returns h _)
      h.operation_lt
    · exact List.nodup_append.mpr ⟨h.idle_nodup, by simp, by
        rintro a ha b hb rfl
        exact hnot (List.mem_singleton.mp hb ▸ ha)⟩
    · intro q
      simp only [pushed, List.mem_append, List.mem_singleton]
      constructor
      · rintro (hq | rfl)
        · exact Or.inl ⟨hq, fun e => hnot (e ▸ hq)⟩
        · exact Or.inr ⟨rfl, hp, trivial⟩
      · rintro (⟨hq, -⟩ | ⟨rfl, -⟩)
        · exact Or.inl hq
        · exact Or.inr rfl
    · intro _
      have := loose.not_closing h hp
      simp [pushed, this]
  have heq : st.park p waiting =
      if waiting then pushed st p
      else (pushed st p).updatePhysical p fun c => { c with recycleIdleHigh := none } := by
    have : p ∉ (st.updatePhysical p fun c => { c with state := .idle }).idle := hnot
    simp only [Store.park, this, if_false]
    rfl
  rw [heq]
  split
  · exact moved
  · exact moved.updatePhysical_frame _ rfl rfl rfl

theorem Custodial.destroy (h : st.Custodial κ) (hp : p ∈ st.records) (loose : Loose κ p) :
    (st.destroy p).Custodial (Function.update κ p .closing) := by
  have hd : (st.physical p).destroyOperation = none := by
    simpa using loose.not_closing h hp
  rw [destroy_eq hd]
  refine h.move (c := .closing) rfl rfl (fun q hq => by simp [hq]) (by simp)
    (h.idle_nodup.erase p) ?_ (fun _ => by simp [Custody.Admits]) (fun _ => by simp)
    h.leased_nodup h.active (loose.leases h _) ?_ ?_
  · intro q
    rw [h.idle_nodup.mem_erase_iff]
    simp [and_comm]
  · intro o x q hx hq hh
    change Function.update st.operation st.nextOperationId _ o = some x at hx
    rw [Function.update_apply] at hx
    split at hx
    · obtain rfl := Option.some.inj hx
      cases hq
    · exact loose.returns h _ o x q hx hq hh
  · intro o x hx
    change Function.update st.operation st.nextOperationId _ o = some x at hx
    rw [Function.update_apply] at hx
    change o < st.nextOperationId + 1
    split at hx
    · omega
    · have := h.operation_lt o x hx
      omega

theorem Custodial.checkout {rest : List Nat} (h : st.Custodial κ) (hi : st.idle = p :: rest) :
    (st.checkoutOne p rest).Custodial (Function.update κ p .checkout) := by
  have hp := (h.mem_idle p).mp (by simp [hi])
  have loose : Loose κ p := Or.inl hp.2
  have hnd : p ∉ rest ∧ rest.Nodup := List.nodup_cons.mp (hi ▸ h.idle_nodup)
  refine h.move (c := .checkout) rfl rfl (fun q hq => by simp [checkoutOne, hq])
    (by simp [checkoutOne]) hnd.2 ?_ (fun _ => by simp [checkoutOne, Custody.Admits])
    (fun hp => by simp [checkoutOne, loose.not_closing h hp]) h.leased_nodup h.active
    (loose.leases h _) (loose.returns h _) h.operation_lt
  intro q
  change q ∈ rest ↔ _
  rw [hi, List.mem_cons]
  constructor
  · intro hq
    exact Or.inl ⟨Or.inr hq, fun e => hnd.1 (e ▸ hq)⟩
  · rintro (⟨rfl | hq, hne⟩ | ⟨-, -, hc⟩)
    · exact absurd rfl hne
    · exact hq
    · cases hc

theorem Custodial.issueLease (h : st.Custodial κ) (hp : p ∈ st.records)
    (hκ : κ p = .checkout ∨ κ p = .transit) :
    (st.issueLease p).Custodial
      (Function.update κ p (.lease (st.lastLeaseGeneration + 1))) := by
  have loose : Loose κ p := Or.inr hκ
  have hnot : p ∉ st.idle := by
    intro hi
    have := ((h.mem_idle p).mp hi).2
    rcases hκ with e | e <;> rw [e] at this <;> cases this
  have hfresh : st.lastLeaseGeneration + 1 ∉ st.leased := by
    intro hl
    have := h.leased_le _ hl
    omega
  refine h.move (c := .lease (st.lastLeaseGeneration + 1)) rfl rfl
    (fun q hq => by simp [Store.issueLease, hq]) (by simp [Store.issueLease]) h.idle_nodup ?_
    (fun _ => by simp [Store.issueLease, Custody.Admits]) ?_ ?_ ?_ ?_ (loose.returns h _)
    h.operation_lt
  · intro q
    constructor
    · intro hq
      exact Or.inl ⟨hq, fun e => hnot (e ▸ hq)⟩
    · rintro (⟨hq, -⟩ | ⟨-, -, hc⟩)
      · exact hq
      · cases hc
  · intro _
    have := loose.not_closing h hp
    simp [Store.issueLease, this]
  · refine List.nodup_append.mpr ⟨h.leased_nodup, by simp, ?_⟩
    rintro a ha b hb rfl
    exact hfresh (List.mem_singleton.mp hb ▸ ha)
  · intro l
    change (Function.update st.lease (st.lastLeaseGeneration + 1)
      ⟨p, st.lastLeaseGeneration + 1, true, 0⟩ l).active = true ↔
        l ∈ st.leased ++ [st.lastLeaseGeneration + 1]
    by_cases e : l = st.lastLeaseGeneration + 1
    · simp [e]
    · simp [e, h.active l]
  · intro l hl
    change l ∈ st.leased ++ [st.lastLeaseGeneration + 1] at hl
    change l ≤ st.lastLeaseGeneration + 1 ∧ _
    rcases List.mem_append.mp hl with hl | hl
    · have hle := h.leased_le l hl
      have hne : l ≠ st.lastLeaseGeneration + 1 := by omega
      have := loose.leases h (.lease (st.lastLeaseGeneration + 1)) l hl
      simp only [Store.issueLease, Function.update_of_ne hne]
      exact ⟨by omega, this.2⟩
    · obtain rfl := List.mem_singleton.mp hl
      simp [Store.issueLease, hp]

theorem Custodial.takeBack (h : st.Custodial κ) {l : Nat} (hl : l ∈ st.leased) :
    (st.takeBack l).Custodial (Function.update κ (st.lease l).physical .transit) := by
  have hn := h.leased_nodup
  obtain ⟨hp, hκ⟩ := h.leased l hl
  have hadm := h.admits _ hp
  rw [hκ] at hadm
  have samePhysical : ∀ k, ((st.takeBack l).lease k).physical = (st.lease k).physical := by
    intro k
    by_cases e : k = l
    · subst e
      simp [Store.takeBack, Store.updateLease]
    · simp [Store.takeBack, Store.updateLease, e]
  refine h.move (c := .transit) rfl rfl (fun q hq => rfl) rfl h.idle_nodup ?_ ?_ ?_
    (hn.erase l) ?_ ?_ ?_ h.operation_lt
  · intro q
    constructor
    · intro hq
      refine Or.inl ⟨hq, ?_⟩
      rintro rfl
      have := ((h.mem_idle _).mp hq).2
      rw [hκ] at this
      cases this
    · rintro (⟨hq, -⟩ | ⟨-, -, hc⟩)
      · exact hq
      · cases hc
  · intro _
    change (st.physical _).state ≠ .closing
    rcases hadm with e | e <;> rw [e] <;> decide
  · intro _
    have := h.closing _ hp
    rw [hκ] at this
    change (st.physical _).destroyOperation.isSome ↔ _
    simp_all
  · intro k
    change ((st.takeBack l).lease k).active = true ↔ k ∈ st.leased.erase l
    rw [hn.mem_erase_iff]
    by_cases e : k = l
    · subst e
      simp [Store.takeBack, Store.updateLease]
    · simp [Store.takeBack, Store.updateLease, e, h.active k]
  · intro k hk
    change k ∈ st.leased.erase l at hk
    rw [hn.mem_erase_iff] at hk
    obtain ⟨hkp, hkκ⟩ := h.leased k hk.2
    rw [samePhysical k]
    refine ⟨h.leased_le k hk.2, hkp, ?_⟩
    have hne : (st.lease k).physical ≠ (st.lease l).physical := by
      intro e
      rw [e, hκ] at hkκ
      exact hk.1 (Custody.lease.inj hkκ).symm
    rw [Function.update_of_ne hne]
    exact hkκ
  · intro o x q hx hq hh
    obtain ⟨hqr, hqκ⟩ := h.returning o x q hx hq hh
    refine ⟨hqr, ?_⟩
    rw [Function.update_of_ne]
    · exact hqκ
    · rintro rfl
      rw [hκ] at hqκ
      cases hqκ

/-- A reset on the way back to the pool starts. -/
theorem Custodial.startReturn (h : st.Custodial κ) (hp : p ∈ st.records)
    (hκ : κ p = .transit) :
    (st.startReturn p).Custodial (Function.update κ p (.returning st.nextOperationId)) := by
  have loose : Loose κ p := Or.inr (Or.inr hκ)
  have hclose := loose.not_closing h hp
  refine h.move (c := .returning st.nextOperationId) rfl rfl
    (fun q hq => by simp [Store.startReturn, hq]) (by simp [Store.startReturn]) h.idle_nodup ?_
    (fun _ => by simp [Store.startReturn, Custody.Admits])
    (fun _ => by simp [Store.startReturn, hclose]) h.leased_nodup h.active (loose.leases h _) ?_ ?_
  · intro q
    constructor
    · intro hq
      refine Or.inl ⟨hq, ?_⟩
      rintro rfl
      have := ((h.mem_idle q).mp hq).2
      rw [hκ] at this
      cases this
    · rintro (⟨hq, -⟩ | ⟨-, -, hc⟩)
      · exact hq
      · cases hc
  · intro o x q hx hq hh
    rw [Store.startReturn, startPhysicalLifecycle_operation] at hx
    split at hx
    · rename_i e
      obtain rfl := Option.some.inj hx
      obtain rfl := Purpose.resetReturn.inj hq
      exact ⟨hp, by rw [Function.update_self, e]; rfl⟩
    · exact loose.returns h _ o x q hx hq hh
  · intro o x hx
    rw [Store.startReturn, startPhysicalLifecycle_operation] at hx
    change o < st.nextOperationId + 1
    change (if o = st.nextOperationId then _ else st.operation o) = some x at hx
    split at hx
    · omega
    · have := h.operation_lt o x hx
      omega

/-- The holder of a lease resets its connection and keeps it. -/
theorem Custodial.startLeaseReset {l : Nat} (h : st.Custodial κ)
    (hl : (st.lease l).active = true) : (st.startLeaseReset l).Custodial κ := by
  obtain ⟨-, hκ⟩ := h.leased l ((h.active l).mp hl)
  refine ((h.updateLease l .enter rfl rfl).updatePhysical _ (fun _ => ?_) rfl rfl)
    |>.startPhysicalLifecycle _ _ (by simp)
  rw [hκ]
  exact Or.inr rfl

theorem Custodial.endLeaseReset (h : st.Custodial κ) (l o : Nat) :
    (st.endLeaseReset l o).Custodial κ := by
  have h' := (h.updateLease l .leave rfl rfl).clearLifecycle (st.lease l).physical o
  have hp : ((((st.updateLease l .leave).clearLifecycle (st.lease l).physical o).lease
      l).physical) = (st.lease l).physical := by
    unfold Store.clearLifecycle
    split <;> simp [Store.updateLease, Store.updatePhysical, LeaseRecord.leave]
  unfold Store.endLeaseReset
  dsimp only
  generalize (st.updateLease l .leave).clearLifecycle (st.lease l).physical o = st' at h' hp ⊢
  split
  · rename_i hactive
    obtain ⟨-, hκ⟩ := h'.leased l ((h'.active l).mp hactive.1)
    rw [hp] at hκ
    refine h'.updatePhysical (fun c => { c with state := .leased }) (fun _ => ?_) rfl rfl
    rw [hκ]
    exact Or.inl rfl
  · exact h'

/-- The reaction on a reset on the way back takes the connection in hand. -/
theorem Custodial.returned {o : Nat} {x : Lifecycle} (h : st.Custodial κ)
    (hx : st.operation o = some x) (hpx : x.purpose = .resetReturn p)
    (hh : x.resultHandled = false) :
    (st.updateOperation o { x with resultHandled := true }).Custodial
      (Function.update κ p .transit) := by
  obtain ⟨hp, hκ⟩ := h.returning o x p hx hpx hh
  have hadm := h.admits p hp
  rw [hκ] at hadm
  refine h.move (c := .transit) rfl rfl (fun q hq => rfl) rfl h.idle_nodup ?_ ?_ ?_
    h.leased_nodup h.active ?_ ?_ ?_
  · intro q
    constructor
    · intro hq
      refine Or.inl ⟨hq, ?_⟩
      rintro rfl
      have := ((h.mem_idle q).mp hq).2
      rw [hκ] at this
      cases this
    · rintro (⟨hq, -⟩ | ⟨-, -, hc⟩)
      · exact hq
      · cases hc
  · intro _
    change (st.physical p).state ≠ .closing
    rw [hadm]
    decide
  · intro _
    have := h.closing p hp
    rw [hκ] at this
    change (st.physical p).destroyOperation.isSome ↔ _
    simp_all
  · intro l hl
    refine ⟨h.leased_le l hl, (h.leased l hl).1, ?_⟩
    rw [Function.update_of_ne]
    · exact (h.leased l hl).2
    · intro e
      have := (h.leased l hl).2
      change κ (st.lease l).physical = _ at this
      change (st.lease l).physical = p at e
      rw [e, hκ] at this
      cases this
  · intro o' z q hz hq hhz
    by_cases e : o' = o
    · subst e
      obtain rfl : { x with resultHandled := true } = z := by
        simpa [Store.updateOperation] using hz
      cases hhz
    · have hz' : st.operation o' = some z := by simpa [Store.updateOperation, e] using hz
      obtain ⟨hqr, hqκ⟩ := h.returning o' z q hz' hq hhz
      refine ⟨hqr, ?_⟩
      rw [Function.update_of_ne]
      · exact hqκ
      · rintro rfl
        rw [hκ] at hqκ
        exact e (Custody.returning.inj hqκ).symm
  · intro o' z hz
    by_cases e : o' = o
    · subst e
      exact h.operation_lt o' x hx
    · exact h.operation_lt o' z (by simpa [Store.updateOperation, e] using hz)

/-- A delivered resource which no record has enters the pool in hand. -/
theorem Custodial.addRecord (h : st.Custodial κ) {r : Nat} (hr : ¬ st.owns r) :
    (st.addRecord r).Custodial (Function.update κ st.nextPhysicalId .transit) := by
  have fresh : ∀ q ∈ st.records, q ≠ st.nextPhysicalId := by
    intro q hq e
    have := h.records_lt q hq
    omega
  have old : ∀ q ∈ st.records, (st.addRecord r).physical q = st.physical q := by
    intro q hq
    simp [Store.addRecord, fresh q hq]
  have new : (st.addRecord r).physical st.nextPhysicalId =
      ⟨r, .idle, 0, none, none, none, none⟩ := by
    simp [Store.addRecord]
  have mem : ∀ q, q ∈ (st.addRecord r).records ↔ q ∈ st.records ∨ q = st.nextPhysicalId := by
    intro q
    simp [Store.addRecord]
  refine ⟨?_, ?_, h.idle_nodup, ?_, ?_, ?_, ?_, h.leased_nodup, h.active, ?_, h.leased_le, ?_,
    h.operation_lt⟩
  · refine List.nodup_append.mpr ⟨h.records_nodup, by simp, ?_⟩
    rintro a ha b hb rfl
    exact fresh a ha (List.mem_singleton.mp hb)
  · intro q hq
    change q < st.nextPhysicalId + 1
    rcases (mem q).mp hq with hq | rfl
    · have := h.records_lt q hq
      omega
    · omega
  · intro q
    change q ∈ st.idle ↔ _
    rw [h.mem_idle q, mem q]
    constructor
    · rintro ⟨hq, hκ⟩
      exact ⟨Or.inl hq, by rw [Function.update_of_ne (fresh q hq)]; exact hκ⟩
    · rintro ⟨hq | rfl, hκ⟩
      · rw [Function.update_of_ne (fresh q hq)] at hκ
        exact ⟨hq, hκ⟩
      · simp at hκ
  · intro q hq
    rcases (mem q).mp hq with hq | rfl
    · rw [old q hq, Function.update_of_ne (fresh q hq)]
      exact h.admits q hq
    · rw [new]
      simp [Custody.Admits]
  · intro q hq
    rcases (mem q).mp hq with hq | rfl
    · rw [old q hq, Function.update_of_ne (fresh q hq)]
      exact h.closing q hq
    · rw [new]
      simp
  · intro q hq q' hq' heq
    rcases (mem q).mp hq with hq | rfl <;> rcases (mem q').mp hq' with hq' | rfl
    · rw [old q hq, old q' hq'] at heq
      exact h.resource_inj q hq q' hq' heq
    · rw [old q hq, new] at heq
      exact absurd ⟨q, hq, heq⟩ hr
    · rw [new, old q' hq'] at heq
      exact absurd ⟨q', hq', heq.symm⟩ hr
    · rfl
  · intro l hl
    obtain ⟨hp, hκ⟩ := h.leased l hl
    exact ⟨(mem _).mpr (Or.inl hp), by
      change Function.update κ _ _ (st.lease l).physical = _
      rw [Function.update_of_ne (fresh _ hp)]
      exact hκ⟩
  · intro o x q hx hq hh
    obtain ⟨hqr, hκ⟩ := h.returning o x q hx hq hh
    exact ⟨(mem q).mpr (Or.inl hqr), by rw [Function.update_of_ne (fresh q hqr)]; exact hκ⟩

/-- A destroyed connection leaves the pool. -/
theorem Custodial.erase (h : st.Custodial κ) (hκ : p ∈ st.records → κ p = .closing) :
    { st with records := st.records.erase p }.Custodial κ := by
  have mem : ∀ q, q ∈ st.records.erase p ↔ q ≠ p ∧ q ∈ st.records :=
    fun q => h.records_nodup.mem_erase_iff
  have kept : ∀ q, q ∈ st.records → κ q ≠ .closing → q ∈ st.records.erase p := by
    intro q hq hne
    refine (mem q).mpr ⟨?_, hq⟩
    rintro rfl
    exact hne (hκ hq)
  refine ⟨h.records_nodup.erase p, fun q hq => h.records_lt q ((mem q).mp hq).2, h.idle_nodup,
    ?_, fun q hq => h.admits q ((mem q).mp hq).2, fun q hq => h.closing q ((mem q).mp hq).2,
    fun q hq r hr => h.resource_inj q ((mem q).mp hq).2 r ((mem r).mp hr).2, h.leased_nodup,
    h.active, ?_, h.leased_le, ?_, h.operation_lt⟩
  · intro q
    change q ∈ st.idle ↔ q ∈ st.records.erase p ∧ _
    rw [h.mem_idle q]
    constructor
    · rintro ⟨hq, hi⟩
      exact ⟨kept q hq (by rw [hi]; decide), hi⟩
    · rintro ⟨hq, hi⟩
      exact ⟨((mem q).mp hq).2, hi⟩
  · intro l hl
    obtain ⟨hp, hl'⟩ := h.leased l hl
    exact ⟨kept _ hp (by rw [hl']; simp), hl'⟩
  · intro o x q hx hq hh
    obtain ⟨hqr, hq'⟩ := h.returning o x q hx hq hh
    exact ⟨kept q hqr (by rw [hq']; simp), hq'⟩

theorem Custodial.removeRecord (h : st.Custodial κ) (hκ : p ∈ st.records → κ p = .closing)
    (o : Nat) : (st.removeRecord p o).Custodial κ := by
  have h' := (h.updatePhysical_frame (p := p) (fun c => { c with destroyError := none })
    rfl rfl rfl).clearLifecycle p o
  have records_eq : ((st.updatePhysical p fun c => { c with destroyError := none }).clearLifecycle
      p o).records = st.records := by
    unfold Store.clearLifecycle
    split <;> rfl
  have := h'.erase (p := p) (fun hp => hκ (records_eq ▸ hp))
  rw [records_eq] at this
  exact this

end Store
end OpenRfc.Pool
