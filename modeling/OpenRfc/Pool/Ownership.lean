import OpenRfc.Pool.Custody
import OpenRfc.Pool.Destruction

/-!
Ownership in every reachable state. An assignment of custodians is kept through every
move, together with the capacity of the pool; between two jobs no connection is in
hand, which leaves the idle list, the checkout, the leases, the suspended releases
and the destructions as the only custodians.
-/

namespace OpenRfc.Pool
open ConnectionPoolRuntime

/-- The store, the checked-out connections and the one in hand follow an assignment of
custodians, and the pool does not exceed its capacity. -/
structure Held (cfg : Settings) (st : Store) (V : Multiset Nat) (T : Option Nat)
    (κ : Nat → Custody) : Prop where
  custodial : st.Custodial κ
  checkout_nodup : V.Nodup
  mem_checkout : ∀ p, p ∈ V ↔ p ∈ st.records ∧ κ p = .checkout
  mem_hand : ∀ p, T = some p ↔ p ∈ st.records ∧ κ p = .transit
  creating_nodup : st.creating.Nodup
  creating_lt : ∀ c ∈ st.creating, c < st.nextCreationId
  capacity : st.capacity ≤ cfg.maxConnections

namespace Held
variable {cfg : Settings} {st st' : Store} {V V' : Multiset Nat} {T T' : Option Nat}
  {κ : Nat → Custody} {p : Nat}

/-- A change of the store which reassigns nothing. -/
theorem same (h : Held cfg st V T κ) (hc : st'.Custodial κ) (hr : st'.records = st.records)
    (hn : st'.creating = st.creating) (hi : st'.nextCreationId = st.nextCreationId) :
    Held cfg st' V T κ := by
  refine ⟨hc, h.checkout_nodup, ?_, ?_, ?_, ?_, ?_⟩
  · rw [hr]; exact h.mem_checkout
  · rw [hr]; exact h.mem_hand
  · rw [hn]; exact h.creating_nodup
  · rw [hn, hi]; exact h.creating_lt
  · rw [Store.capacity, hr, hn]; exact h.capacity

/-- What is given away was in the pool's hands. -/
theorem gives (h : Held cfg st V T κ) (hg : Gives p V T V' T') :
    p ∈ st.records ∧ (κ p = .checkout ∨ κ p = .transit) := by
  rcases hg with ⟨rfl, -⟩ | ⟨rfl, -, -⟩
  · have := (h.mem_checkout p).mp (Multiset.mem_cons_self p V')
    exact ⟨this.1, Or.inl this.2⟩
  · have := (h.mem_hand p).mp rfl
    exact ⟨this.1, Or.inr this.2⟩

/-- The reassignment of one connection, for a checkout and a hand which follow it. -/
theorem reassigned {c : Custody} (h : Held cfg st V T κ)
    (hc : st'.Custodial (Function.update κ p c)) (hr : st'.records = st.records)
    (hn : st'.creating = st.creating) (hi : st'.nextCreationId = st.nextCreationId)
    (hV : V'.Nodup) (hVq : ∀ q, q ≠ p → (q ∈ V' ↔ q ∈ V))
    (hVp : p ∈ V' ↔ p ∈ st.records ∧ c = .checkout)
    (hTq : ∀ q, q ≠ p → (T' = some q ↔ T = some q))
    (hTp : T' = some p ↔ p ∈ st.records ∧ c = .transit) :
    Held cfg st' V' T' (Function.update κ p c) := by
  refine ⟨hc, hV, fun q => ?_, fun q => ?_, ?_, ?_, ?_⟩
  · rw [hr]
    by_cases e : q = p
    · subst e
      rw [hVp, Function.update_self]
    · rw [hVq q e, h.mem_checkout, Function.update_of_ne e]
  · rw [hr]
    by_cases e : q = p
    · subst e
      rw [hTp, Function.update_self]
    · rw [hTq q e, h.mem_hand, Function.update_of_ne e]
  · rw [hn]; exact h.creating_nodup
  · rw [hn, hi]; exact h.creating_lt
  · rw [Store.capacity, hr, hn]; exact h.capacity

/-- A connection which was given away goes to a custodian other than the checkout and
the hand. -/
theorem given {c : Custody} (h : Held cfg st V T κ) (hg : Gives p V T V' T')
    (hc : st'.Custodial (Function.update κ p c)) (h₁ : c ≠ .checkout) (h₂ : c ≠ .transit)
    (hr : st'.records = st.records) (hn : st'.creating = st.creating)
    (hi : st'.nextCreationId = st.nextCreationId) :
    Held cfg st' V' T' (Function.update κ p c) := by
  have hp := h.gives hg
  rcases hg with ⟨rfl, rfl⟩ | ⟨rfl, rfl, rfl⟩
  · have hnd := Multiset.nodup_cons.mp h.checkout_nodup
    have hκ := ((h.mem_checkout p).mp (Multiset.mem_cons_self ..)).2
    refine h.reassigned hc hr hn hi hnd.2 (fun q e => by simp [e]) ?_ (fun _ _ => Iff.rfl) ?_
    · simp [hnd.1, h₁]
    · simp [h.mem_hand, hκ, h₂]
  · have hκ := ((h.mem_hand p).mp rfl).2
    refine h.reassigned hc hr hn hi h.checkout_nodup (fun _ _ => Iff.rfl) ?_
      (fun q e => by simp [Ne.symm e]) ?_
    · simp [h.mem_checkout, hκ, h₁]
    · simp [h₂]

/-- A connection which neither the checkout nor the hand holds goes to a custodian
other than these. -/
theorem moved {c : Custody} (h : Held cfg st V T κ) (hκ₁ : κ p ≠ .checkout)
    (hκ₂ : κ p ≠ .transit) (hc : st'.Custodial (Function.update κ p c)) (h₁ : c ≠ .checkout)
    (h₂ : c ≠ .transit) (hr : st'.records = st.records) (hn : st'.creating = st.creating)
    (hi : st'.nextCreationId = st.nextCreationId) :
    Held cfg st' V T (Function.update κ p c) :=
  h.reassigned hc hr hn hi h.checkout_nodup (fun _ _ => Iff.rfl)
    (by simp [h.mem_checkout, hκ₁, h₁]) (fun _ _ => Iff.rfl) (by simp [h.mem_hand, hκ₂, h₂])

/-- A connection is taken in hand. -/
theorem taken (h : Held cfg st V none κ) (hp : p ∈ st.records) (hκ : κ p ≠ .checkout)
    (hc : st'.Custodial (Function.update κ p .transit)) (hr : st'.records = st.records)
    (hn : st'.creating = st.creating) (hi : st'.nextCreationId = st.nextCreationId) :
    Held cfg st' V (some p) (Function.update κ p .transit) :=
  h.reassigned hc hr hn hi h.checkout_nodup (fun _ _ => Iff.rfl)
    (by simp [h.mem_checkout, hκ]) (fun q e => by simp [Ne.symm e]) (by simp [hp])

/-- A connection is checked out. -/
theorem checkedOut (h : Held cfg st V T κ) (hp : p ∈ st.records) (hκ : κ p = .idle)
    (hc : st'.Custodial (Function.update κ p .checkout)) (hr : st'.records = st.records)
    (hn : st'.creating = st.creating) (hi : st'.nextCreationId = st.nextCreationId) :
    Held cfg st' (p ::ₘ V) T (Function.update κ p .checkout) := by
  have hnot : p ∉ V := by
    rw [h.mem_checkout, hκ]
    simp
  exact h.reassigned hc hr hn hi (Multiset.nodup_cons.mpr ⟨hnot, h.checkout_nodup⟩)
    (fun q e => by simp [e]) (by simp [hp]) (fun _ _ => Iff.rfl) (by simp [h.mem_hand, hκ])

/-- Connections move from the front of the idle list to the checkout. -/
theorem checkout (h : Held cfg st V T κ) (n : Nat) :
    ∃ κ', Held cfg (st.checkout n) (↑(st.idle.take n) + V) T κ' := by
  induction n generalizing st V κ with
  | zero => exact ⟨κ, by simpa [Store.checkout, Store.updateAll] using h⟩
  | succ n ih =>
      cases hidle : st.idle with
      | nil =>
          refine ⟨κ, ?_⟩
          have : st.checkout (n + 1) = st := by
            simp only [Store.checkout, hidle, List.drop_nil, List.take_nil, Store.updateAll,
              List.foldl_nil]
            rw [← hidle]
          simpa [this] using h
      | cons p rest =>
          have hp := (h.custodial.mem_idle p).mp (by simp [hidle])
          have one := h.custodial.checkout hidle
          obtain ⟨κ', hκ'⟩ := ih (h.checkedOut hp.1 hp.2 one rfl rfl rfl)
          refine ⟨κ', ?_⟩
          have hst : st.checkout (n + 1) = (st.checkoutOne p rest).checkout n := by
            simp only [Store.checkout, hidle, List.drop_succ_cons, List.take_succ_cons,
              Store.updateAll, List.foldl_cons]
            rfl
          have hV : (↑(List.take (n + 1) (p :: rest)) : Multiset Nat) + V =
              ↑(rest.take n) + p ::ₘ V := by
            rw [List.take_succ_cons, ← Multiset.cons_coe, Multiset.cons_add, Multiset.add_cons]
          rw [hst, hV]
          exact hκ'

theorem issueLeases (ps : List Nat) (h : Held cfg st (↑ps + V) T κ) :
    ∃ κ', Held cfg (ConnectionPoolRuntime.issueLeases ps st) V T κ' := by
  induction ps generalizing st κ with
  | nil => exact ⟨κ, by simpa [ConnectionPoolRuntime.issueLeases] using h⟩
  | cons p ps ih =>
      rw [← Multiset.cons_coe, Multiset.cons_add] at h
      have hg : Gives p (p ::ₘ (↑ps + V)) T (↑ps + V) T := .checkout
      obtain ⟨hp, hκ⟩ := h.gives hg
      exact ih (h.given hg (h.custodial.issueLease hp hκ) (by simp) (by simp) rfl rfl rfl)

/-- The operation of a settled or handled lifecycle keeps its purpose. -/
theorem updateOperation {o : Nat} {x y : Lifecycle} (h : Held cfg st V T κ)
    (hx : st.operation o = some x) (hp : y.purpose = x.purpose)
    (hh : y.resultHandled = false → x.resultHandled = false) :
    Held cfg (st.updateOperation o y) V T κ :=
  h.same (h.custodial.updateOperation hx hp hh) rfl rfl rfl

/-- The pool's lists other than those of the creations are the same ones. -/
theorem creations (h : Held cfg st V T κ) (hc : st'.Custodial κ)
    (hr : st'.records = st.records) (hn : st'.creating.Nodup)
    (hlt : ∀ c ∈ st'.creating, c < st'.nextCreationId)
    (hcap : st'.capacity ≤ cfg.maxConnections) : Held cfg st' V T κ := by
  refine ⟨hc, h.checkout_nodup, ?_, ?_, hn, hlt, hcap⟩
  · rw [hr]; exact h.mem_checkout
  · rw [hr]; exact h.mem_hand

theorem startCreation (h : Held cfg st V T κ) (owner : Option Nat)
    (hcap : st.capacity < cfg.maxConnections) :
    Held cfg (st.startCreation owner) V T κ := by
  have hfresh : st.nextCreationId ∉ st.creating := fun hc =>
    Nat.lt_irrefl _ (h.creating_lt _ hc)
  refine h.creations ?_ rfl ?_ ?_ ?_
  · have listed : Store.Custodial { st with
        creating := st.creating ++ [st.nextCreationId]
        creation := Function.update st.creation st.nextCreationId
          ⟨owner, false, false, none, st.nextOperationId⟩
        nextCreationId := st.nextCreationId + 1 } κ :=
      h.custodial.congr rfl rfl rfl rfl rfl rfl rfl rfl rfl
    exact listed.startLifecycle _ (by simp)
  · exact List.nodup_append.mpr ⟨h.creating_nodup, by simp, by
      rintro a ha b hb rfl
      exact hfresh (List.mem_singleton.mp hb ▸ ha)⟩
  · intro c hc
    change c ∈ st.creating ++ [st.nextCreationId] at hc
    change c < st.nextCreationId + 1
    rcases List.mem_append.mp hc with hc | hc
    · have := h.creating_lt c hc
      omega
    · have := List.mem_singleton.mp hc
      omega
  · change st.records.length + (st.creating ++ [st.nextCreationId]).length ≤ cfg.maxConnections
    rw [List.length_append, List.length_singleton]
    exact hcap

theorem eraseCreation (h : Held cfg st V T κ) (c : Nat) :
    Held cfg { st with creating := st.creating.erase c } V T κ := by
  refine h.creations (h.custodial.congr rfl rfl rfl rfl rfl rfl rfl rfl rfl) rfl
    (h.creating_nodup.erase c) (fun d hd => h.creating_lt d (List.mem_of_mem_erase hd)) ?_
  have h₁ := h.capacity
  have h₂ := List.length_erase_le (a := c) (l := st.creating)
  simp only [Store.capacity] at h₁ ⊢
  omega

/-- A creation gives way to a record in hand. -/
theorem admitRecord (h : Held cfg st V none κ) {c r : Nat} (hc : c ∈ st.creating)
    (hr : ¬ st.owns r) :
    Held cfg ({ st with creating := st.creating.erase c }.addRecord r) V
      (some st.nextPhysicalId) (Function.update κ st.nextPhysicalId .transit) := by
  have hlt := h.custodial.records_lt
  have erased := h.eraseCreation c
  have mem : ∀ q, q ∈ st.records ++ [st.nextPhysicalId] ↔
      q ∈ st.records ∨ q = st.nextPhysicalId := by simp
  refine ⟨erased.custodial.addRecord hr, h.checkout_nodup, fun q => ?_, fun q => ?_,
    erased.creating_nodup, erased.creating_lt, ?_⟩
  · change q ∈ V ↔ q ∈ st.records ++ [st.nextPhysicalId] ∧ _
    rw [h.mem_checkout, mem]
    by_cases e : q = st.nextPhysicalId
    · subst e
      simp only [Function.update_self, reduceCtorEq, and_false, iff_false, not_and]
      intro hq
      exact absurd (hlt _ hq) (Nat.lt_irrefl _)
    · simp [e]
  · change some st.nextPhysicalId = some q ↔ q ∈ st.records ++ [st.nextPhysicalId] ∧ _
    rw [mem, Option.some.injEq]
    by_cases e : q = st.nextPhysicalId
    · subst e
      simp
    · simp only [e, or_false, Function.update_of_ne e, Ne.symm e, false_iff, not_and]
      intro hq hκ
      cases (h.mem_hand q).mpr ⟨hq, hκ⟩
  · change (st.records ++ [st.nextPhysicalId]).length + (st.creating.erase c).length ≤ _
    have h₁ := h.capacity
    have h₂ := List.length_erase_of_mem hc
    have h₃ := List.length_pos_of_mem hc
    simp only [Store.capacity] at h₁
    rw [List.length_append, List.length_singleton]
    omega

theorem park (h : Held cfg st V T κ) (hg : Gives p V T V' T') (waiting : Bool) :
    Held cfg (st.park p waiting) V' T' (Function.update κ p .idle) := by
  have stock := st.park_stock p waiting
  obtain ⟨hp, hκ⟩ := h.gives hg
  exact h.given hg (h.custodial.park hp hκ waiting) (by simp) (by simp) stock.records
    stock.creating stock.nextCreationId

theorem destroy (h : Held cfg st V T κ)
    (hg : Gives p V T V' T' ∨ (p ∈ st.idle ∧ V' = V ∧ T' = T)) :
    p ∈ st.records ∧ Held cfg (st.destroy p) V' T' (Function.update κ p .closing) := by
  have stock := st.destroy_stock p
  rcases hg with hg | ⟨hi, rfl, rfl⟩
  · obtain ⟨hp, hκ⟩ := h.gives hg
    exact ⟨hp, h.given hg (h.custodial.destroy hp (Or.inr hκ)) (by simp) (by simp)
      stock.records stock.creating stock.nextCreationId⟩
  · obtain ⟨hp, hκ⟩ := (h.custodial.mem_idle p).mp hi
    exact ⟨hp, h.moved (by simp [hκ]) (by simp [hκ]) (h.custodial.destroy hp (Or.inl hκ))
      (by simp) (by simp) stock.records stock.creating stock.nextCreationId⟩

theorem endLeaseReset (h : Held cfg st V T κ) (l o : Nat) :
    Held cfg (st.endLeaseReset l o) V T κ := by
  have stock := st.endLeaseReset_stock l o
  exact h.same (h.custodial.endLeaseReset l o) stock.records stock.creating stock.nextCreationId

/-- A connection whose destruction succeeded leaves the pool. -/
theorem removeRecord (h : Held cfg st V T κ) (hp : p ∈ st.records) (hκ : κ p = .closing)
    (o : Nat) : Held cfg (st.removeRecord p o) V T κ := by
  have stock : Store.SameStock st
      ((st.updatePhysical p fun c => { c with destroyError := none }).clearLifecycle p o) :=
    (Store.clearLifecycle_stock (st.updatePhysical p fun c => { c with destroyError := none }) p
      o).after ⟨rfl, rfl, rfl, rfl, fun _ => rfl⟩
  have mem : ∀ q, q ∈ st.records.erase p ↔ q ≠ p ∧ q ∈ st.records :=
    fun q => h.custodial.records_nodup.mem_erase_iff
  have records_eq : (st.removeRecord p o).records = st.records.erase p := rfl
  have creating_eq : (st.removeRecord p o).creating = st.creating := stock.creating
  have kept : ∀ q, κ q ≠ .closing → (q ∈ st.records.erase p ↔ q ∈ st.records) := by
    intro q hq
    rw [mem]
    exact ⟨And.right, fun h => ⟨fun e => hq (e ▸ hκ), h⟩⟩
  refine ⟨h.custodial.removeRecord (fun _ => hκ) o, h.checkout_nodup, fun q => ?_, fun q => ?_,
    ?_, ?_, ?_⟩
  · rw [h.mem_checkout, records_eq]
    by_cases e : κ q = .checkout
    · rw [kept q (by rw [e]; simp)]
    · simp [e]
  · rw [h.mem_hand, records_eq]
    by_cases e : κ q = .transit
    · rw [kept q (by rw [e]; simp)]
    · simp [e]
  · rw [creating_eq]
    exact h.creating_nodup
  · rw [creating_eq]
    change ∀ c ∈ st.creating, c < ((st.updatePhysical p fun c =>
      { c with destroyError := none }).clearLifecycle p o).nextCreationId
    rw [stock.nextCreationId]
    exact h.creating_lt
  · have h₁ := h.capacity
    have h₂ := List.length_erase_of_mem hp
    rw [Store.capacity, records_eq, creating_eq]
    simp only [Store.capacity] at h₁
    omega

end Held

theorem issueLeases_operation (ps : List Nat) (st : Store) :
    (issueLeases ps st).operation = st.operation := by
  induction ps generalizing st with
  | nil => rfl
  | cons p ps ih => exact ih (st.issueLease p)

theorem issueLeases_stock (ps : List Nat) (st : Store) :
    Store.SameStock st (issueLeases ps st) := by
  induction ps generalizing st with
  | nil => exact ⟨rfl, rfl, rfl, rfl, fun _ => rfl⟩
  | cons p ps ih => exact (ih (st.issueLease p)).after ⟨rfl, rfl, rfl, rfl, fun _ => rfl⟩

/-- A desk all of whose connections are owned. -/
structure Owned (cfg : Settings) (d : Desk) : Prop where
  held : ∃ κ, Held cfg d.pool.toStore d.checkout d.hand κ
  destructions : d.pool.toStore.Destructions

theorem owned_initial (cfg : Settings) : Owned cfg initial.desk := by
  refine ⟨⟨fun _ => .closing, ?_⟩, destructions_initial⟩
  have hst : initial.desk.pool.toStore = Store.empty := rfl
  rw [hst]
  refine ⟨?_, Multiset.nodup_zero, ?_, ?_, List.nodup_nil, ?_, Nat.zero_le _⟩
  · refine ⟨List.nodup_nil, ?_, List.nodup_nil, ?_, ?_, ?_, ?_, List.nodup_nil, ?_, ?_, ?_, ?_, ?_⟩
    all_goals simp [Store.empty]
  all_goals simp [Store.empty, desk, initial, requestPump, dispatching, Dispatch.candidates]

/-- Moves which leave the store alone. -/
theorem Owned.of_store {cfg : Settings} {s s' : ConnectionPoolRuntime} {V : Multiset Nat}
    {T : Option Nat} (h : Owned cfg ⟨s, V, T⟩) (hs : s'.toStore = s.toStore) :
    Owned cfg ⟨s', V, T⟩ := by
  obtain ⟨hh, hd⟩ := h
  refine ⟨?_, ?_⟩
  · change ∃ κ, Held cfg s'.toStore V T κ
    rw [hs]
    exact hh
  · change s'.toStore.Destructions
    rw [hs]
    exact hd

theorem Owned.move {cfg : Settings} {d d' : Desk} (owned : Owned cfg d) (hm : Move cfg d d') :
    Owned cfg d' := by
  obtain ⟨κ, h⟩ := owned.held
  have hd := owned.destructions
  have hc := h.custodial
  cases hm with
  | creations s V T f hf =>
      exact ⟨⟨κ, h.same (hc.congr rfl rfl rfl rfl rfl rfl rfl rfl rfl) rfl rfl rfl⟩,
        hd.of_physical (fun _ => rfl) rfl rfl rfl⟩
  | create s V T owner hopen hcap => exact ⟨⟨κ, h.startCreation owner hcap⟩, hd.startCreation owner⟩
  | fruitless s V T c hf =>
      exact ⟨⟨κ, h.eraseCreation c⟩, hd.of_physical (fun _ => rfl) rfl rfl rfl⟩
  | admitRecord s V c r o x hcr hr ho hx hs =>
      refine ⟨⟨_, h.admitRecord hcr hr⟩, ?_⟩
      have erased : Store.Destructions { s.toStore with creating := s.creating.erase c } :=
        hd.of_physical (fun _ => rfl) rfl rfl rfl
      exact erased.addRecord r
  | cell s V T p f hf =>
      have := hf (s.physical p)
      exact ⟨⟨κ, h.same (hc.updatePhysical_frame f this.2.1 this.2.2.2 this.1) rfl rfl rfl⟩,
        hd.updatePhysical p f fun x => (hf x).2.2.2⟩
  | checkout s T n =>
      obtain ⟨κ', h'⟩ := h.checkout n
      exact ⟨⟨κ', by simpa using h'⟩, hd.checkout n⟩
  | validate s V T p =>
      exact ⟨⟨κ, h.same (hc.startPhysicalLifecycle p _ (by simp)) rfl rfl rfl⟩,
        hd.startPhysicalLifecycle p _ (by simp)⟩
  | park s V T V' T' p waiting hp hg hopen => exact ⟨⟨_, h.park hg waiting⟩, hd.park p waiting⟩
  | drop s V T V' T' p hp hg => exact absurd (h.gives hg).1 hp
  | destroy s V T V' T' p hg =>
      obtain ⟨hp, h'⟩ := h.destroy hg
      exact ⟨⟨_, h'⟩, hd.destroy p (hc.records_lt p hp)⟩
  | grant s V T w healthy t hV =>
      subst hV
      exact ⟨Held.issueLeases healthy (by simpa using h), hd.issueLeases healthy⟩
  | callbackStart s V T l ha hz =>
      exact ⟨⟨κ, h.same (hc.updateLease l .enter rfl rfl) rfl rfl rfl⟩,
        hd.of_physical (fun _ => rfl) rfl rfl rfl⟩
  | callbackEnd s V T l hl =>
      exact ⟨⟨κ, h.same (hc.updateLease l .leave rfl rfl) rfl rfl rfl⟩,
        hd.of_physical (fun _ => rfl) rfl rfl rfl⟩
  | resetStart s V T l ha hz =>
      exact ⟨⟨κ, h.same (hc.startLeaseReset ha) rfl rfl rfl⟩, hd.startLeaseReset l⟩
  | resetEnd s V T l o x ho hx hi hh =>
      exact ⟨⟨κ, (h.updateOperation (y := { x with resultHandled := true }) ho rfl
          (by simp)).endLeaseReset l o⟩,
        (hd.updateOperation (y := { x with resultHandled := true }) ho rfl).endLeaseReset l o⟩
  | takeBack s V l ha hz =>
      have hl := (hc.active l).mp ha
      obtain ⟨hp, hκ⟩ := hc.leased l hl
      exact ⟨⟨_, h.taken hp (by rw [hκ]; simp) (hc.takeBack hl) rfl rfl rfl⟩,
        hd.of_physical (fun _ => rfl) rfl rfl rfl⟩
  | startReturn s V p =>
      have hg : Gives p V (some p) V none := .hand
      obtain ⟨hp, hκ⟩ := (h.mem_hand p).mp rfl
      exact ⟨⟨_, h.given hg (hc.startReturn hp hκ) (by simp) (by simp) rfl rfl rfl⟩,
        hd.startReturn p⟩
  | returned s V o p x ho hx hh =>
      obtain ⟨hp, hκ⟩ := hc.returning o x p ho hx hh
      exact ⟨⟨_, h.taken hp (by rw [hκ]; simp) (hc.returned ho hx hh) rfl rfl rfl⟩,
        hd.updateOperation ho rfl⟩
  | removeRecord s V T p o x v hp ho hx hs =>
      have hκ : κ p = .closing := (hc.closing p hp).mp (by rw [hd.named o x p ho hx]; rfl)
      exact ⟨⟨κ, h.removeRecord hp hκ o⟩, hd.removeRecord p o⟩
  | invoke s V T o x ho hi =>
      refine ⟨⟨κ, ?_⟩, ?_⟩
      · rw [toStore_invoke]
        exact h.updateOperation ho rfl id
      · rw [toStore_invoke]
        exact hd.updateOperation ho rfl
  | settle s V T o x out ho hi hr =>
      refine ⟨⟨κ, ?_⟩, ?_⟩
      · rw [toStore_settle]
        exact h.updateOperation ho rfl id
      · rw [toStore_settle]
        exact hd.updateOperation ho rfl
  | expire s V T o x e ho hr => exact ⟨⟨κ, h.updateOperation ho rfl id⟩, hd.updateOperation ho rfl⟩
  | handled s V T o x ho hl hp =>
      exact ⟨⟨κ, h.updateOperation ho rfl (by simp)⟩, hd.updateOperation ho rfl⟩
  | rawHandled s V T o x ho =>
      exact ⟨⟨κ, h.updateOperation ho rfl id⟩, hd.updateOperation ho rfl⟩
  | _ => exact owned.of_store rfl

theorem Owned.turn {cfg : Settings} {d d' : Desk} (h : Owned cfg d) (ht : Turn d d') :
    Owned cfg d' := by
  obtain ⟨D, -, -, rfl⟩ := ht
  exact h.of_store rfl

theorem reachable_owned {cfg : Settings} {s : ConnectionPoolRuntime}
    (hs : (machine cfg).Reachable s) : Owned cfg s.desk :=
  reachable_desk (owned_initial cfg) (fun _ _ => Owned.move) (fun _ _ => Owned.turn) hs

/-- The physical state of the pool: what its sets, lists and tokens agree on. -/
structure PhysicallySound (cfg : Settings) (s : ConnectionPoolRuntime) : Prop where
  records_nodup : s.records.Nodup
  creating_nodup : s.creating.Nodup
  capacity : s.records.length + s.creating.length ≤ cfg.maxConnections
  idle_nodup : s.idle.Nodup
  mem_idle : ∀ p, p ∈ s.idle ↔ p ∈ s.records ∧ (s.physical p).state = .idle
  leased : ∀ l, (s.lease l).active = true → (s.lease l).physical ∈ s.records ∧
    ((s.physical (s.lease l).physical).state = .leased ∨
      (s.physical (s.lease l).physical).state = .resetting)
  exclusive : ∀ l l', (s.lease l).active = true → (s.lease l').active = true →
    (s.lease l).physical = (s.lease l').physical → l = l'

/-- Between two jobs the state of a connection tells whether it is idle. -/
theorem Held.mem_idle {cfg : Settings} {st : Store} {V : Multiset Nat} {κ : Nat → Custody}
    (h : Held cfg st V none κ) (p : Nat) :
    p ∈ st.idle ↔ p ∈ st.records ∧ (st.physical p).state = .idle := by
  rw [h.custodial.mem_idle]
  refine and_congr_right fun hp => ?_
  have hadm := h.custodial.admits p hp
  cases hκ : κ p with
  | transit => cases (h.mem_hand p).mpr ⟨hp, hκ⟩
  | idle =>
      rw [hκ] at hadm
      exact iff_of_true rfl hadm
  | lease l =>
      rw [hκ] at hadm
      refine iff_of_false (by simp) ?_
      rcases hadm with e | e <;> rw [e] <;> decide
  | checkout | returning o | closing =>
      rw [hκ] at hadm
      refine iff_of_false (by simp) ?_
      rw [show (st.physical p).state = _ from hadm]
      decide

/-- The physical state is sound after every run, for every order of the calls, timers
and lifecycle outcomes. -/
theorem physicallySound_reachable (cfg : Settings) {s : ConnectionPoolRuntime}
    (hs : (machine cfg).Reachable s) : PhysicallySound cfg s := by
  obtain ⟨⟨κ, h⟩, -⟩ := reachable_owned hs
  have hc := h.custodial
  have custodian : ∀ l, (s.lease l).active = true →
      (s.lease l).physical ∈ s.records ∧ κ (s.lease l).physical = .lease l :=
    fun l hl => hc.leased l ((hc.active l).mp hl)
  refine ⟨hc.records_nodup, h.creating_nodup, h.capacity, hc.idle_nodup, h.mem_idle, ?_, ?_⟩
  · intro l hl
    obtain ⟨hp, hκ⟩ := custodian l hl
    have hadm := hc.admits _ hp
    rw [hκ] at hadm
    exact ⟨hp, hadm⟩
  · intro l l' hl hl' e
    have hκ := (custodian l hl).2
    rw [e, (custodian l' hl').2] at hκ
    exact (Custody.lease.inj hκ).symm

theorem physicallySound_leaseOne : ∃ s,
    (machine twoConnections).run (machine twoConnections).init leaseOne = some s ∧
      s.leased = [1] ∧ PhysicallySound twoConnections s := by
  obtain ⟨s, hrun, hs, hl⟩ := Machine.reachable_of_any (machine twoConnections) leaseOne
    (fun s => s.leased = [1]) (by decide +kernel)
  exact ⟨s, hrun, by simpa using hl, physicallySound_reachable twoConnections hs⟩

end OpenRfc.Pool
