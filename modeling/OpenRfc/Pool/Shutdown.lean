import OpenRfc.Pool.Operations
import OpenRfc.Foundation.History

/-!
Shutdown. The pool closes when it has no record and no pending creation left, and stays
closed; its promise resolves only then. Every object which a creation has delivered is
by then the resource of a connection which was destroyed; no destruction is started
twice.
-/

namespace OpenRfc.Pool
open ConnectionPoolRuntime

/-! Deliveries. -/

/-- The factory has fulfilled the destruction of a connection. -/
def Destroyed (st : Store) (p : Nat) : Prop :=
  ∃ o x v, st.operation o = some x ∧ x.purpose = .destroy p ∧ x.raw = some (.fulfilled v)

/-- A connection with the resource `r`, which the pool owns or has destroyed. -/
def Tracked (st : Store) (p r : Nat) : Prop :=
  p < st.nextPhysicalId ∧ (st.physical p).resource = r ∧ (p ∈ st.records ∨ Destroyed st p)

/-- A destruction is started once. -/
def DestructionLaw : Observation → List Observation → Prop
  | .destroyStarted p, past => .destroyStarted p ∉ past
  | _, _ => True

/-- What became of the object which an operation delivered. -/
def Accounted (s : ConnectionPoolRuntime) (o r : Nat) : Prop :=
  (∃ c ∈ s.creating, (s.creation c).operation = o) ∨ .duplicate o ∈ s.trace ∨
    ∃ p, .admitted o p ∈ s.trace ∧ Tracked s.toStore p r

structure DeliveryBook (s : ConnectionPoolRuntime) : Prop where
  sound : ∀ o x, s.operation o = some x → x.Sound
  law : History.Each DestructionLaw s.trace
  started : ∀ p, .destroyStarted p ∈ s.trace →
    ∃ o x, s.operation o = some x ∧ x.purpose = .destroy p ∧ x.invoked = true
  creations : ∀ o x c, s.operation o = some x → x.purpose = .create c →
    c < s.nextCreationId ∧ (s.creation c).operation = o ∧ (x.raw = none → c ∈ s.creating)
  duplicates : ∀ o, .duplicate o ∈ s.trace → ∃ x r p, s.operation o = some x ∧
    x.raw = some (.fulfilled (.object r)) ∧ Tracked s.toStore p r
  delivered : ∀ o r, .delivered o r ∈ s.trace →
    (∃ x c, s.operation o = some x ∧ x.purpose = .create c ∧
      x.raw = some (.fulfilled (.object r))) ∧ Accounted s o r

theorem deliveryBook_initial : DeliveryBook initial := by
  constructor <;>
    simp [initial, requestPump, dispatching, Store.empty, History.Each]

/-- The observations which the book of deliveries reads. -/
def Observation.OfDelivery : Observation → Prop
  | .delivered .. | .duplicate _ | .admitted .. | .destroyStarted _ => True
  | _ => False

theorem Destroyed.forward {st st' : Store} {p : Nat} (h : Destroyed st p)
    (hops : Operations st st') (hd : st.Destructions) : Destroyed st' p := by
  obtain ⟨o, x, v, ho, hx, hraw⟩ := h
  obtain ⟨y, hy, grows⟩ := hops.forward hd ho
  exact ⟨o, y, v, hy, grows.purpose.trans hx, grows.raw _ hraw⟩

theorem Tracked.forward {st st' : Store} {p r : Nat} (h : Tracked st p r)
    (hops : Operations st st') (hd : st.Destructions) (hres : SameResources st st')
    (hn : st.nextPhysicalId ≤ st'.nextPhysicalId)
    (hr : p ∈ st.records → p ∈ st'.records ∨ Destroyed st' p) : Tracked st' p r := by
  obtain ⟨hlt, hresource, hp⟩ := h
  refine ⟨Nat.lt_of_lt_of_le hlt hn, (hres p hlt).trans hresource, ?_⟩
  rcases hp with hp | hp
  · exact hr hp
  · exact Or.inr (hp.forward hops hd)

namespace DeliveryBook
variable {s s' : ConnectionPoolRuntime}

/-- An object which has been delivered is the one which its operation was fulfilled
with. -/
theorem resource_eq (h : DeliveryBook s) {o r r' : Nat} {x : Lifecycle}
    (hx : s.operation o = some x) (hs : x.Settled (.fulfilled (.object r)))
    (hdel : .delivered o r' ∈ s.trace) : r' = r := by
  obtain ⟨⟨y, c, hy, -, hraw⟩, -⟩ := h.delivered o r' hdel
  obtain rfl := Option.some.inj (hx.symm.trans hy)
  have hraw' := (h.sound o x hx).settled hs
  rw [hraw] at hraw'
  exact FactoryValue.object.inj (Settlement.fulfilled.inj (Option.some.inj hraw'))

/-- One more observation. -/
theorem push (h : DeliveryBook s) {o : Observation} (hlaw : DestructionLaw o s.trace)
    (started : ∀ p, o = .destroyStarted p →
      ∃ o' x, s.operation o' = some x ∧ x.purpose = .destroy p ∧ x.invoked = true)
    (duplicate : ∀ o', o = .duplicate o' → ∃ x r p, s.operation o' = some x ∧
      x.raw = some (.fulfilled (.object r)) ∧ Tracked s.toStore p r)
    (delivered : ∀ o' r, o = .delivered o' r →
      (∃ x c, s.operation o' = some x ∧ x.purpose = .create c ∧
        x.raw = some (.fulfilled (.object r))) ∧ Accounted s o' r) :
    DeliveryBook (s.observe o) := by
  refine ⟨h.sound, ⟨hlaw, h.law⟩, fun p hp => ?_, h.creations, fun o' ho => ?_,
    fun o' r hdel => ?_⟩
  · rcases List.mem_cons.mp hp with hp | hp
    · exact started p hp.symm
    · exact h.started p hp
  · rcases List.mem_cons.mp ho with ho | ho
    · exact duplicate o' ho.symm
    · exact h.duplicates o' ho
  · have known : (∃ x c, s.operation o' = some x ∧ x.purpose = .create c ∧
        x.raw = some (.fulfilled (.object r))) ∧ Accounted s o' r := by
      rcases List.mem_cons.mp hdel with hdel | hdel
      · exact delivered o' r hdel.symm
      · exact h.delivered o' r hdel
    refine ⟨known.1, ?_⟩
    rcases known.2 with hc | hdup | ⟨p, hadm, ht⟩
    · exact Or.inl hc
    · exact Or.inr (Or.inl (List.mem_cons_of_mem _ hdup))
    · exact Or.inr (Or.inr ⟨p, List.mem_cons_of_mem _ hadm, ht⟩)

theorem observe (h : DeliveryBook s) {o : Observation} (ho : ¬ o.OfDelivery) :
    DeliveryBook (s.observe o) := by
  refine h.push ?_ ?_ ?_ ?_
  · cases o <;> first | trivial | exact absurd trivial ho
  · rintro p rfl
    exact absurd trivial ho
  · rintro o' rfl
    exact absurd trivial ho
  · rintro o' r rfl
    exact absurd trivial ho

/-- A change of the store during which no observation of a delivery is made. What the
book says of creations is the caller's to show. -/
theorem keep (h : DeliveryBook s) (hd : s.toStore.Destructions)
    (hops : Operations s.toStore s'.toStore) (hres : SameResources s.toStore s'.toStore)
    (hn : s.nextPhysicalId ≤ s'.nextPhysicalId)
    (hr : ∀ p ∈ s.records, p ∈ s'.records ∨ Destroyed s'.toStore p)
    (ht : s'.trace = s.trace)
    (creations : ∀ o x c, s'.operation o = some x → x.purpose = .create c →
      c < s'.nextCreationId ∧ (s'.creation c).operation = o ∧ (x.raw = none → c ∈ s'.creating))
    (accounted : ∀ o r, .delivered o r ∈ s.trace →
      (∃ c ∈ s.creating, (s.creation c).operation = o) → Accounted s' o r) :
    DeliveryBook s' := by
  refine ⟨hops.sound h.sound, ht ▸ h.law, fun p hp => ?_, creations, fun o ho => ?_,
    fun o r hdel => ?_⟩
  · obtain ⟨o, x, ho, hx, hi⟩ := h.started p (ht ▸ hp)
    obtain ⟨y, hy, grows⟩ := hops.forward hd ho
    exact ⟨o, y, hy, grows.purpose.trans hx, grows.invoked hi⟩
  · obtain ⟨x, r, p, hx, hraw, htr⟩ := h.duplicates o (ht ▸ ho)
    obtain ⟨y, hy, grows⟩ := hops.forward hd hx
    exact ⟨y, r, p, hy, grows.raw _ hraw, htr.forward hops hd hres hn (hr p)⟩
  · rw [ht] at hdel
    obtain ⟨⟨x, c, hx, hp, hraw⟩, hacc⟩ := h.delivered o r hdel
    obtain ⟨y, hy, grows⟩ := hops.forward hd hx
    refine ⟨⟨y, c, hy, grows.purpose.trans hp, grows.raw _ hraw⟩, ?_⟩
    rcases hacc with hc | hdup | ⟨p, hadm, htr⟩
    · exact accounted o r hdel hc
    · exact Or.inr (Or.inl (ht ▸ hdup))
    · exact Or.inr (Or.inr ⟨p, ht ▸ hadm, htr.forward hops hd hres hn (hr p)⟩)

/-- A change of the store which starts and ends no creation. -/
theorem keepCreations (h : DeliveryBook s) (hd : s.toStore.Destructions)
    (hops : Operations s.toStore s'.toStore) (hres : SameResources s.toStore s'.toStore)
    (hn : s'.nextPhysicalId = s.nextPhysicalId)
    (hr : ∀ p ∈ s.records, p ∈ s'.records ∨ Destroyed s'.toStore p)
    (hc : s'.creating = s.creating) (hi : s'.nextCreationId = s.nextCreationId)
    (hco : ∀ c, (s'.creation c).operation = (s.creation c).operation)
    (ht : s'.trace = s.trace) : DeliveryBook s' := by
  refine h.keep hd hops hres (Nat.le_of_eq hn.symm) hr ht ?_ ?_
  · intro o y c hy hp
    rcases hops.backward hy with ⟨x, hx, grows, -⟩ | ⟨-, purpose, rfl, hnew⟩
    · obtain ⟨hlt, hop, hraw⟩ := h.creations o x c hx (grows.purpose ▸ hp)
      rw [hi, hco, hc]
      exact ⟨hlt, hop, fun hy => hraw (grows.unsettled hy)⟩
    · have new := (hnew c hp).2
      rw [hi, (hnew c hp).1] at new
      omega
  · rintro o r - ⟨c, hcr, hop⟩
    exact Or.inl ⟨c, by rwa [hc], by rwa [hco]⟩

theorem frame (h : DeliveryBook s) (hd : s.toStore.Destructions)
    (hops : Operations s.toStore s'.toStore) (hres : SameResources s.toStore s'.toStore)
    (stock : Store.SameStock s.toStore s'.toStore) (ht : s'.trace = s.trace) :
    DeliveryBook s' :=
  h.keepCreations hd hops hres stock.nextPhysicalId (fun _ hp => Or.inl (stock.records ▸ hp))
    stock.creating stock.nextCreationId stock.creation ht

/-- Such a change, with one observation which is not of a delivery. -/
theorem frameObserve {o : Observation} (h : DeliveryBook s) (hd : s.toStore.Destructions)
    (hops : Operations s.toStore s'.toStore) (hres : SameResources s.toStore s'.toStore)
    (stock : Store.SameStock s.toStore s'.toStore) (ht : s'.trace = o :: s.trace)
    (ho : ¬ o.OfDelivery) : DeliveryBook s' := by
  have framed : DeliveryBook { s' with trace := s.trace } := h.frame hd hops hres stock rfl
  have e : s' = { s' with trace := s.trace }.observe o := by
    rw [ConnectionPoolRuntime.observe, ← ht]
  rw [e]
  exact framed.observe ho

/-- A creation is started. -/
theorem create (h : DeliveryBook s) (hd : s.toStore.Destructions) (owner : Option Nat)
    (hlt : ∀ c ∈ s.creating, c < s.nextCreationId) :
    DeliveryBook { s with toStore := s.toStore.startCreation owner } := by
  have hops : Operations s.toStore (s.toStore.startCreation owner) := by
    refine .started (.create s.nextCreationId) rfl fun c hc => ?_
    cases hc
    exact ⟨rfl, rfl⟩
  have kept : ∀ c, c < s.nextCreationId →
      ((s.toStore.startCreation owner).creation c) = s.creation c := fun c hc =>
    Function.update_of_ne (Nat.ne_of_lt hc) ..
  refine h.keep hd hops (fun _ _ => rfl) (Nat.le_refl _) (fun p hp => Or.inl hp) rfl ?_ ?_
  · intro o y c hy hp
    change c < s.nextCreationId + 1 ∧ ((s.toStore.startCreation owner).creation c).operation = o ∧
      (y.raw = none → c ∈ s.creating ++ [s.nextCreationId])
    rcases hops.backward hy with ⟨x, hx, grows, -⟩ | ⟨rfl, purpose, rfl, hnew⟩
    · obtain ⟨hc, hop, hraw⟩ := h.creations o x c hx (grows.purpose ▸ hp)
      rw [kept c hc]
      exact ⟨Nat.lt_succ_of_lt hc, hop,
        fun hy => List.mem_append_left _ (hraw (grows.unsettled hy))⟩
    · obtain ⟨rfl, -⟩ := hnew c hp
      refine ⟨Nat.lt_succ_self _, ?_, fun _ => by simp⟩
      simp [Store.startCreation, Store.startLifecycle]
  · rintro o r - ⟨c, hc, hop⟩
    exact Or.inl ⟨c, List.mem_append_left _ hc, by rw [kept c (hlt c hc)]; exact hop⟩

/-- The creation of a settled operation is not pending for another one's sake. -/
theorem pending_ne (h : DeliveryBook s) {o o' c c' : Nat} {x y : Lifecycle} {out : Settlement}
    (hx : s.operation o = some x) (hc : x.purpose = .create c) (hs : x.Settled out)
    (hy : s.operation o' = some y) (hc' : y.purpose = .create c') (hraw : y.raw = none) :
    c' ≠ c := by
  rintro rfl
  obtain rfl : o' = o :=
    (h.creations o' y c' hy hc').2.1.symm.trans (h.creations o x c' hx hc).2.1
  obtain rfl := Option.some.inj (hx.symm.trans hy)
  rw [(h.sound _ _ hx).settled hs] at hraw
  cases hraw

/-- The creation `c` is no longer pending; the change is made when the outcome of its
operation is known. -/
theorem endCreation (h : DeliveryBook s) (hd : s.toStore.Destructions) {o c : Nat}
    {x : Lifecycle} {out : Settlement} (hx : s.operation o = some x)
    (hc : x.purpose = .create c) (hs : x.Settled out)
    (hop : s'.operation = s.operation) (hres : SameResources s.toStore s'.toStore)
    (hn : s.nextPhysicalId ≤ s'.nextPhysicalId) (hr : ∀ p ∈ s.records, p ∈ s'.records)
    (he : s'.creating = s.creating.erase c) (hi : s'.nextCreationId = s.nextCreationId)
    (hco : s'.creation = s.creation) (ht : s'.trace = s.trace)
    (accounted : ∀ r, .delivered o r ∈ s.trace → Accounted s' o r) : DeliveryBook s' := by
  refine h.keep hd (.same hop) hres hn (fun p hp => Or.inl (hr p hp)) ht ?_ ?_
  · intro o' y c' hy hc'
    rw [hop] at hy
    rw [hi, hco, he]
    obtain ⟨hlt, hoc, hraw⟩ := h.creations o' y c' hy hc'
    exact ⟨hlt, hoc, fun hnone =>
      (List.mem_erase_of_ne (h.pending_ne hx hc hs hy hc' hnone)).mpr (hraw hnone)⟩
  · rintro o' r hdel ⟨c', hcr, hoc⟩
    by_cases e : c' = c
    · subst e
      obtain rfl : o = o' := (h.creations o x c' hx hc).2.1.symm.trans hoc
      exact accounted r hdel
    · exact Or.inl ⟨c', by rw [he]; exact (List.mem_erase_of_ne e).mpr hcr, by rw [hco, hoc]⟩

theorem fruitless (h : DeliveryBook s) (hd : s.toStore.Destructions) {c : Nat}
    (hf : Fruitless s c) :
    DeliveryBook { s with creating := s.creating.erase c } := by
  obtain ⟨o, x, out, hx, hc, hs, hout⟩ := hf
  refine h.endCreation hd hx hc hs rfl (fun _ _ => rfl) (Nat.le_refl _) (fun _ hp => hp) rfl rfl
    rfl rfl fun r hdel => ?_
  rcases hout with hout | hdup
  · obtain ⟨⟨y, -, hy, -, hraw⟩, -⟩ := h.delivered o r hdel
    obtain rfl := Option.some.inj (hx.symm.trans hy)
    have := (h.sound _ _ hx).settled hs
    rw [hraw] at this
    exact absurd (Option.some.inj this).symm (hout r)
  · rw [(h.creations o x c hx hc).2.1] at hdup
    exact Or.inr (Or.inl hdup)

theorem duplicate (h : DeliveryBook s) {c r o : Nat} {x : Lifecycle}
    (hlt : ∀ p ∈ s.records, p < s.nextPhysicalId) (howns : s.owns r)
    (hx : s.operation o = some x) (hc : x.purpose = .create c)
    (hs : x.Settled (.fulfilled (.object r))) :
    DeliveryBook (s.observe (.duplicate (s.creation c).operation)) := by
  refine h.push trivial (by simp) ?_ (by simp)
  rintro o' e
  obtain ⟨p, hp, hr⟩ := howns
  obtain rfl := Observation.duplicate.inj e
  rw [(h.creations o x c hx hc).2.1]
  exact ⟨x, r, p, hx, (h.sound o x hx).settled hs, hlt p hp, hr, Or.inl hp⟩

theorem admitRecord (h : DeliveryBook s) (hd : s.toStore.Destructions) {c r o : Nat}
    {x : Lifecycle} (hx : s.operation o = some x) (hc : x.purpose = .create c)
    (hs : x.Settled (.fulfilled (.object r))) :
    DeliveryBook ({ s with
      toStore := { s.toStore with creating := s.creating.erase c }.addRecord r }.observe
        (.admitted (s.creation c).operation s.nextPhysicalId)) := by
  have hop := (h.creations o x c hx hc).2.1
  have observed : DeliveryBook (s.observe (.admitted (s.creation c).operation s.nextPhysicalId)) :=
    h.push trivial (by simp) (by simp) (by simp)
  refine observed.endCreation hd hx hc hs rfl ?_ (Nat.le_succ _)
    (fun p hp => List.mem_append_left _ hp) rfl rfl rfl rfl ?_
  · intro q hq
    change q < s.nextPhysicalId at hq
    change (Function.update s.physical s.nextPhysicalId _ q).resource = _
    rw [Function.update_of_ne (Nat.ne_of_lt hq)]
    rfl
  · intro r' hdel
    obtain rfl := observed.resource_eq hx hs hdel
    refine Or.inr (Or.inr ⟨s.nextPhysicalId, ?_, Nat.lt_succ_self _, ?_, Or.inl ?_⟩)
    · rw [hop]
      exact List.mem_cons_self ..
    · simp [ConnectionPoolRuntime.observe, Store.addRecord]
    · exact List.mem_append_right _ (List.mem_singleton.mpr rfl)

theorem removeRecord (h : DeliveryBook s) (hd : s.toStore.Destructions) {p o : Nat}
    {x : Lifecycle} {v : FactoryValue} (hx : s.operation o = some x)
    (hp : x.purpose = .destroy p) (hs : x.Settled (.fulfilled v)) :
    DeliveryBook { s with toStore := s.toStore.removeRecord p o } := by
  have stock : Store.SameStock s.toStore
      ((s.toStore.updatePhysical p fun c => { c with destroyError := none }).clearLifecycle p o) :=
    (Store.clearLifecycle_stock (s.toStore.updatePhysical p fun c =>
      { c with destroyError := none }) p o).after ⟨rfl, rfl, rfl, rfl, fun _ => rfl⟩
  have hops := (Store.removeRecord_frame s.toStore p o).2.2
  refine h.keepCreations hd (.same hops) ?_ stock.nextPhysicalId (fun q hq => ?_)
    stock.creating stock.nextCreationId stock.creation rfl
  · intro q hq
    exact (SameResources.clear _ p o q).trans (SameResources.update _ p q fun _ => rfl)
  · by_cases e : q = p
    · subst e
      refine Or.inr ⟨o, x, v, ?_, hp, (h.sound o x hx).settled hs⟩
      exact (congrFun hops o).trans hx
    · exact Or.inl ((List.mem_erase_of_ne e).mpr hq)

theorem invoke (h : DeliveryBook s) (hd : s.toStore.Destructions) {o : Nat} {x : Lifecycle}
    (hx : s.operation o = some x) (hi : x.invoked = false) : DeliveryBook (s.invoke o x) := by
  have hops : Operations s.toStore (s.toStore.updateOperation o { x with invoked := true }) :=
    .progressed o x _ hx (.invoke x hi) rfl
  have h' : DeliveryBook { s with
      toStore := s.toStore.updateOperation o { x with invoked := true } } :=
    h.frame hd hops (fun _ _ => rfl) ⟨rfl, rfl, rfl, rfl, fun _ => rfl⟩ rfl
  unfold ConnectionPoolRuntime.invoke observeInvocation
  split
  · rename_i p hp
    refine h'.push ?_ ?_ (by simp) (by simp)
    · -- an earlier start would be one of this operation, which has not been invoked
      intro hstart
      obtain ⟨o', y, hy, hyp, hyi⟩ := h.started p hstart
      obtain rfl : o = o' :=
        Option.some.inj ((hd.named o x p hx hp).symm.trans (hd.named o' y p hy hyp))
      obtain rfl := Option.some.inj (hx.symm.trans hy)
      rw [hi] at hyi
      cases hyi
    · rintro q e
      obtain rfl := Observation.destroyStarted.inj e
      refine ⟨o, { x with invoked := true }, ?_, hp, rfl⟩
      exact (Store.updateOperation_operation ..).trans (if_pos rfl)
  · exact h'.observe id
  · exact h'

theorem settle (h : DeliveryBook s) (hd : s.toStore.Destructions) {o : Nat} {x : Lifecycle}
    (hx : s.operation o = some x) (hi : x.invoked = true) (hr : x.raw = none)
    (out : Settlement) : DeliveryBook (s.settle o x out) := by
  have hops : Operations s.toStore (s.toStore.updateOperation o
      { x with raw := some out, result := some (x.result.getD out) }) :=
    .progressed o x _ hx (.settle x out hi hr) rfl
  have h' : DeliveryBook { s with
      toStore := s.toStore.updateOperation o
        { x with raw := some out, result := some (x.result.getD out) } } :=
    h.frame hd hops (fun _ _ => rfl) ⟨rfl, rfl, rfl, rfl, fun _ => rfl⟩ rfl
  unfold ConnectionPoolRuntime.settle observeDelivery
  split
  · rename_i c r hc
    refine h'.push trivial (by simp) (by simp) ?_
    rintro o' r' e
    obtain ⟨rfl, rfl⟩ := Observation.delivered.inj e
    obtain ⟨-, hop, hcr⟩ := h.creations o x c hx hc
    refine ⟨⟨_, c, (Store.updateOperation_operation ..).trans (if_pos rfl), hc, rfl⟩, ?_⟩
    exact Or.inl ⟨c, hcr hr, hop⟩
  · exact h'

theorem move {cfg : Settings} {d d' : Desk} (h : DeliveryBook d.pool) (owned : Owned cfg d)
    (hm : Move cfg d d') : DeliveryBook d'.pool := by
  obtain ⟨κ, held⟩ := owned.held
  have hd := owned.destructions
  have hops := hm.operations
  have hres := hm.resources
  have same : ∀ {st : Store}, Store.SameStock st st := ⟨rfl, rfl, rfl, rfl, fun _ => rfl⟩
  cases hm with
  | clock s V T t ht => exact h.frameObserve hd hops hres same rfl id
  | refuse s V T o ho => exact h.observe (by cases o <;> first | exact id | exact absurd ho id)
  | accept s V T n deadline => exact h.frameObserve hd hops hres same rfl id
  | aborted s V T w => exact h.observe id
  | reject s V T w e => exact h.frameObserve hd hops hres same rfl id
  | creations s V T f hf => exact h.frame hd hops hres ⟨rfl, rfl, rfl, rfl, hf⟩ rfl
  | create s V T owner => exact h.create hd owner held.creating_lt
  | fruitless s V T c hf => exact h.fruitless hd hf
  | duplicate s V T c r o x howns ho hx hs =>
      exact h.duplicate held.custodial.records_lt howns ho hx hs
  | admitRecord s V c r o x hc hr ho hx hs => exact h.admitRecord hd ho hx hs
  | checkout s T n => exact h.frame hd hops hres (Store.checkout_stock _ n) rfl
  | park s V T V' T' p waiting => exact h.frame hd hops hres (Store.park_stock _ p waiting) rfl
  | destroy s V T V' T' p => exact h.frame hd hops hres (Store.destroy_stock _ p) rfl
  | grant s V T w healthy =>
      exact h.frameObserve hd hops hres (issueLeases_stock healthy _) rfl id
  | callbackStart s V T l =>
      exact h.frameObserve hd hops hres ⟨rfl, rfl, rfl, rfl, fun _ => rfl⟩ rfl id
  | resetEnd s V T l o x => 
      have stock := (s.toStore.updateOperation o
        { x with resultHandled := true }).endLeaseReset_stock l o
      exact h.frame hd hops hres (stock.after ⟨rfl, rfl, rfl, rfl, fun _ => rfl⟩) rfl
  | takeBack s V l =>
      exact h.frameObserve hd hops hres ⟨rfl, rfl, rfl, rfl, fun _ => rfl⟩ rfl id
  | removeRecord s V T p o x v hp ho hx hs => exact h.removeRecord hd ho hx hs
  | invoke s V T o x ho hi => exact h.invoke hd ho hi
  | settle s V T o x out ho hi hr => exact h.settle hd ho hi hr out
  | shutdown s V T requested => exact h.frameObserve hd hops hres same rfl id
  | escalate s V T => exact h.frameObserve hd hops hres same rfl id
  | close s V T => exact h.frameObserve hd hops hres same rfl id
  | _ => exact h.frame hd hops hres ⟨rfl, rfl, rfl, rfl, fun _ => rfl⟩ rfl

end DeliveryBook

/-! Phases. -/

/-- The state which a history leads to. -/
def stateAfter : List Observation → ConnectionPoolRuntimeState
  | [] => .opened
  | .entered state :: _ => state
  | _ :: past => stateAfter past

/-- A pool which is closed enters no other state, and it is closed out of a shutdown. -/
def PhaseLaw : Observation → List Observation → Prop
  | .entered state, past => stateAfter past ≠ .closed ∧
      (state = .closed → stateAfter past = .retiring ∨ stateAfter past = .closing)
  | _, _ => True

structure PhaseBook (s : ConnectionPoolRuntime) : Prop where
  state : s.state = stateAfter s.trace
  law : History.Each PhaseLaw s.trace
  empty : s.state = .closed → s.records = [] ∧ s.creating = []
  promise : s.closePromise = some .resolved → s.state = .closed

theorem phaseBook_initial : PhaseBook initial := by
  constructor <;> simp [initial, requestPump, dispatching, stateAfter, History.Each]

namespace PhaseBook
variable {s s' : ConnectionPoolRuntime}

/-- A change during which no state is entered. A closed pool has neither records nor
creations, and gets none. -/
theorem frame (h : PhaseBook s) (hs : s'.toShutdown = s.toShutdown) (ht : s'.trace = s.trace)
    (he : s.state = .closed → s.records = [] → s.creating = [] →
      s'.records = [] ∧ s'.creating = []) : PhaseBook s' := by
  have hstate : s'.state = s.state := by rw [hs]
  refine ⟨by rw [hstate, ht, h.state], ht ▸ h.law, fun hc => ?_, fun hp => ?_⟩
  · rw [hstate] at hc
    exact he hc (h.empty hc).1 (h.empty hc).2
  · rw [hs] at hp
    exact hstate.trans (h.promise hp)

theorem observe (h : PhaseBook s) {o : Observation} (ho : ∀ state, o ≠ .entered state) :
    PhaseBook (s.observe o) := by
  have same : stateAfter (s.observe o).trace = stateAfter s.trace := by
    cases o <;> first | rfl | exact absurd rfl (ho _)
  refine ⟨h.state.trans same.symm, ⟨?_, h.law⟩, h.empty, h.promise⟩
  cases o <;> first | trivial | exact absurd rfl (ho _)

theorem frameObserve {o : Observation} (h : PhaseBook s) (hs : s'.toShutdown = s.toShutdown)
    (ht : s'.trace = o :: s.trace) (ho : ∀ state, o ≠ .entered state)
    (hr : s'.records = s.records) (hc : s'.creating = s.creating) : PhaseBook s' := by
  have framed : PhaseBook { s' with trace := s.trace } :=
    h.frame hs rfl fun _ hr' hc' => ⟨hr.trans hr', hc.trans hc'⟩
  have e : s' = { s' with trace := s.trace }.observe o := by
    rw [ConnectionPoolRuntime.observe, ← ht]
  rw [e]
  exact framed.observe ho

theorem stock (h : PhaseBook s) {st : Store} (stock : Store.SameStock s.toStore st) :
    PhaseBook { s with toStore := st } :=
  h.frame rfl rfl fun _ hr hc => ⟨stock.records.trans hr, stock.creating.trans hc⟩

theorem invoke (h : PhaseBook s) (o : Nat) (x : Lifecycle) : PhaseBook (s.invoke o x) := by
  have h' : PhaseBook { s with
      toStore := s.toStore.updateOperation o { x with invoked := true } } :=
    h.stock ⟨rfl, rfl, rfl, rfl, fun _ => rfl⟩
  unfold ConnectionPoolRuntime.invoke observeInvocation
  split
  · exact h'.observe (by simp)
  · exact h'.observe (by simp)
  · exact h'

theorem settle (h : PhaseBook s) (o : Nat) (x : Lifecycle) (out : Settlement) :
    PhaseBook (s.settle o x out) := by
  have h' : PhaseBook { s with
      toStore := s.toStore.updateOperation o
        { x with raw := some out, result := some (x.result.getD out) } } :=
    h.stock ⟨rfl, rfl, rfl, rfl, fun _ => rfl⟩
  unfold ConnectionPoolRuntime.settle observeDelivery
  split
  · exact h'.observe (by simp)
  · exact h'

/-- The pool enters a state on its way to being closed. -/
theorem enter (h : PhaseBook s) {state : ConnectionPoolRuntimeState}
    {promise : Option ShutdownPromise} (hs : s.state ≠ .closed) (hstate : state ≠ .closed)
    (hp : promise ≠ some .resolved) :
    PhaseBook ({ s with state := state, closePromise := promise }.observe (.entered state)) := by
  refine ⟨rfl, ⟨⟨?_, fun e => absurd e hstate⟩, h.law⟩, fun e => absurd e hstate,
    fun e => absurd e hp⟩
  exact h.state ▸ hs

theorem close (h : PhaseBook s) {promise : Option ShutdownPromise}
    (hs : s.state = .retiring ∨ s.state = .closing) (hc : s.creating = [])
    (hr : s.records = []) :
    PhaseBook ({ s with state := .closed, closeSettled := true, closePromise := promise }.observe
      (.entered .closed)) := by
  refine ⟨rfl, ⟨⟨?_, fun _ => h.state ▸ hs⟩, h.law⟩, fun _ => ⟨hr, hc⟩, fun _ => rfl⟩
  rw [← h.state]
  rcases hs with e | e <;> rw [e] <;> decide

theorem move {cfg : Settings} {d d' : Desk} (h : PhaseBook d.pool) (hm : Move cfg d d') :
    PhaseBook d'.pool := by
  cases hm with
  | clock s V T t => exact h.frameObserve (o := .clockRead t) rfl rfl (by simp) rfl rfl
  | refuse s V T o ho => exact h.observe (by rintro state rfl; exact ho)
  | accept s V T n deadline => exact h.frameObserve rfl rfl (by simp) rfl rfl
  | aborted s V T w => exact h.observe (by simp)
  | reject s V T w e => exact h.frameObserve rfl rfl (by simp) rfl rfl
  | create s V T owner hopen => exact h.frame rfl rfl fun hc => by simp [hopen] at hc
  | fruitless s V T c =>
      refine h.frame rfl rfl fun _ hr hc => ⟨hr, ?_⟩
      change s.creating.erase c = []
      rw [show s.creating = [] from hc]
      rfl
  | duplicate s V T c r => exact h.observe (by simp)
  | admitRecord s V c r o x hc =>
      have admitted : PhaseBook (s.observe (.admitted (s.creation c).operation s.nextPhysicalId)) :=
        h.observe (by simp)
      refine admitted.frame rfl rfl fun _ _ hnil => ?_
      rw [show s.creating = [] from hnil] at hc
      cases hc
  | checkout s T n => exact h.stock (Store.checkout_stock _ n)
  | park s V T V' T' p waiting => exact h.stock (Store.park_stock _ p waiting)
  | destroy s V T V' T' p => exact h.stock (Store.destroy_stock _ p)
  | grant s V T w healthy =>
      have stock := issueLeases_stock healthy s.toStore
      exact h.frameObserve rfl rfl (by simp) stock.records stock.creating
  | callbackStart s V T l => exact h.frameObserve rfl rfl (by simp) rfl rfl
  | resetEnd s V T l o x =>
      have stock := (s.toStore.updateOperation o
        { x with resultHandled := true }).endLeaseReset_stock l o
      exact h.stock (stock.after ⟨rfl, rfl, rfl, rfl, fun _ => rfl⟩)
  | takeBack s V l => exact h.frameObserve rfl rfl (by simp) rfl rfl
  | removeRecord s V T p o =>
      have stock := (Store.clearLifecycle_stock (s.toStore.updatePhysical p fun c =>
        { c with destroyError := none }) p o)
      refine h.frame rfl rfl fun _ hr hc => ⟨?_, stock.creating.trans hc⟩
      change s.records.erase p = []
      rw [show s.records = [] from hr]
      rfl
  | invoke s V T o x => exact h.invoke o x
  | settle s V T o x out => exact h.settle o x out
  | shutdown s V T requested hopen hreq =>
      refine h.enter (by rw [show s.state = .opened from hopen]; decide) ?_ (by decide)
      rcases hreq with e | e <;> rw [e] <;> decide
  | escalate s V T hr =>
      refine h.enter (by rw [show s.state = .retiring from hr]; decide) (by decide) fun e => ?_
      rw [h.promise e] at hr
      cases hr
  | failClose s V T e => exact ⟨h.state, h.law, h.empty, by simp⟩
  | close s V T hs hc hr => exact h.close hs hc hr
  | _ => exact h.frame rfl rfl fun _ hr hc => ⟨hr, hc⟩

end PhaseBook

theorem Move.closed {cfg : Settings} {d d' : Desk} (hm : Move cfg d d')
    (h : d.pool.state = .closed) : d'.pool.state = .closed := by
  cases hm with
  | invoke s V T o x =>
      unfold ConnectionPoolRuntime.invoke observeInvocation
      split <;> exact h
  | settle s V T o x out =>
      unfold ConnectionPoolRuntime.settle observeDelivery
      split <;> exact h
  | shutdown s V T requested hopen =>
      rw [hopen] at h
      cases h
  | escalate s V T hr =>
      rw [hr] at h
      cases h
  | close => rfl
  | _ => exact h

/-- Closed is absorbing. -/
theorem step_closed {cfg : Settings} {s s' : ConnectionPoolRuntime} {e : Event}
    (he : s.step cfg e = some s') (h : s.state = .closed) : s'.state = .closed := by
  have kept := Machine.moves_preserve (P := fun d : Desk => d.pool.state = .closed)
    (R := fun d d' => Move cfg d d' ∨ Turn d d') ?_ (step_jobs he) h
  · exact kept
  · rintro d d' hd (hm | ⟨D, -, -, rfl⟩)
    · exact hm.closed hd
    · exact hd

theorem reachable_shutdown {cfg : Settings} {s : ConnectionPoolRuntime}
    (hs : (machine cfg).Reachable s) : DeliveryBook s ∧ PhaseBook s := by
  refine (reachable_desk (P := fun d => Owned cfg d ∧ DeliveryBook d.pool ∧ PhaseBook d.pool)
    ⟨owned_initial cfg, deliveryBook_initial, phaseBook_initial⟩ ?_ ?_ hs).2
  · rintro d d' ⟨owned, h, h'⟩ hm
    exact ⟨owned.move hm, h.move owned hm, h'.move hm⟩
  · rintro d d' ⟨owned, h, h'⟩ ht
    refine ⟨owned.turn ht, ?_⟩
    obtain ⟨D, -, -, rfl⟩ := ht
    exact ⟨h.frame owned.destructions (.same rfl) (fun _ _ => rfl)
      ⟨rfl, rfl, rfl, rfl, fun _ => rfl⟩ rfl, h'.frame rfl rfl fun _ hr hc => ⟨hr, hc⟩⟩

/-- What may be relied on about a pool which is retired or closed. -/
structure ShutdownSafety (cfg : Settings) (s : ConnectionPoolRuntime) : Prop where
  destroyed_once : ∀ p, s.trace.countP (· = .destroyStarted p) ≤ 1
  state_eq : s.state = stateAfter s.trace
  entered : ∀ post state past, s.trace = post ++ .entered state :: past →
    stateAfter past ≠ .closed ∧
      (state = .closed → stateAfter past = .retiring ∨ stateAfter past = .closing)
  empty : s.state = .closed →
    s.records = [] ∧ s.creating = [] ∧ ∀ l, (s.lease l).active = false
  absorbing : s.state = .closed → ∀ e s', (machine cfg).step s e = some s' → s'.state = .closed
  /-- A delivered object was admitted or is one which the pool owned already; in both
  cases its connection has been destroyed when the promise resolves. -/
  resolved : s.closePromise = some .resolved → ∀ o r, .delivered o r ∈ s.trace →
    ∃ p, (.admitted o p ∈ s.trace ∨ .duplicate o ∈ s.trace) ∧ (s.physical p).resource = r ∧
      Destroyed s.toStore p

theorem shutdownSafety_reachable (cfg : Settings) {s : ConnectionPoolRuntime}
    (hs : (machine cfg).Reachable s) : ShutdownSafety cfg s := by
  obtain ⟨delivery, phase⟩ := reachable_shutdown hs
  refine ⟨fun p => ?_, phase.state, fun post state past e => History.each_iff.mp phase.law _ _ _ e,
    fun hc => ?_, fun hc e s' he => step_closed he hc, fun hp o r hdel => ?_⟩
  · refine delivery.law.countP_le_one fun o past hlaw ho o' ho' => ?_
    obtain rfl := of_decide_eq_true ho
    refine decide_eq_false fun e => hlaw (e ▸ ho')
  · refine ⟨(phase.empty hc).1, (phase.empty hc).2, fun l => ?_⟩
    cases ha : (s.lease l).active with
    | false => rfl
    | true =>
        have := ((physicallySound_reachable cfg hs).leased l ha).1
        rw [(phase.empty hc).1] at this
        cases this
  · obtain ⟨hrecords, hcreating⟩ := phase.empty (phase.promise hp)
    have destroyed : ∀ p, Tracked s.toStore p r →
        (s.physical p).resource = r ∧ Destroyed s.toStore p := by
      rintro p ⟨-, hr, hrec | hdes⟩
      · rw [hrecords] at hrec
        cases hrec
      · exact ⟨hr, hdes⟩
    obtain ⟨⟨x, -, hx, -, hraw⟩, ⟨c, hc, -⟩ | hdup | ⟨p, hadm, ht⟩⟩ := delivery.delivered o r hdel
    · rw [hcreating] at hc
      cases hc
    · obtain ⟨y, r', p, hy, hraw', ht⟩ := delivery.duplicates o hdup
      obtain rfl := Option.some.inj (hx.symm.trans hy)
      rw [hraw] at hraw'
      cases hraw'
      exact ⟨p, Or.inr hdup, destroyed p ht⟩
    · exact ⟨p, Or.inl hadm, destroyed p ht⟩

/-- The leased connection is released to a pool which is closing. -/
def closeOne : List Event :=
  leaseOne ++ [.beginShutdown true none none, .release (.issued 1) none none, .invoke 2,
    .settle 2 (.fulfilled .other), .react 2]

theorem shutdownSafety_closeOne : ∃ s,
    (machine twoConnections).run (machine twoConnections).init closeOne = some s ∧
      s.closePromise = some .resolved ∧ .delivered 1 7 ∈ s.trace ∧
      ShutdownSafety twoConnections s := by
  obtain ⟨s, hrun, hs, hl⟩ := Machine.reachable_of_any (machine twoConnections) closeOne
    (fun s => s.closePromise = some .resolved ∧ .delivered 1 7 ∈ s.trace) (by decide +kernel)
  obtain ⟨hp, hd⟩ := of_decide_eq_true hl
  exact ⟨s, hrun, hp, hd, shutdownSafety_reachable twoConnections hs⟩

end OpenRfc.Pool
