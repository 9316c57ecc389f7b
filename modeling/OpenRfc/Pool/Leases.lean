import OpenRfc.Pool.Ownership
import OpenRfc.Foundation.History

/-!
Lease tokens. A token is good for its connection from its grant to its release, and
for one operation at a time. The history of a run is what callers see of it: an
operation reaches the resource of a lease only between the two, so that a token which
was released never reaches a connection which has been leased again.
-/

namespace OpenRfc.Pool
open ConnectionPoolRuntime

/-- The token of a lease has been handed out. -/
def Granted (l : Nat) (h : List Observation) : Prop :=
  ∃ w leases, .granted w leases ∈ h ∧ l ∈ leases

/-- The pool has taken the connection of a lease back. -/
def TakenBack (l : Nat) (h : List Observation) : Prop :=
  ∃ p, .takenBack l p ∈ h

def Observation.takesBack (l : Nat) : Observation → Bool
  | .takenBack l' _ => l' = l
  | _ => false

theorem Observation.takesBack_iff {l : Nat} {o : Observation} :
    o.takesBack l = true ↔ ∃ p, o = .takenBack l p := by
  cases o <;> simp [takesBack]

/-- A lease is used, and is given up, after its grant and before it is given up. -/
def LeaseLaw : Observation → List Observation → Prop
  | .reached l _, past | .takenBack l _, past => Granted l past ∧ ¬ TakenBack l past
  | _, _ => True

/-- A reset of a leased connection whose caller has not been answered. -/
def ResetPending (st : Store) (o l : Nat) : Prop :=
  ∃ x, st.operation o = some x ∧ x.purpose = .resetLease l ∧ x.resultHandled = false

/-- Every reset of a leased connection is one of before, with the same answer pending. -/
def KeepsResets (st st' : Store) : Prop :=
  ∀ o x l, st'.operation o = some x → x.purpose = .resetLease l →
    ∃ y, st.operation o = some y ∧ y.purpose = .resetLease l ∧
      y.resultHandled = x.resultHandled ∧ (x.invoked = false → y.invoked = false)

theorem KeepsResets.of_eq {st st' : Store} (h : st'.operation = st.operation) :
    KeepsResets st st' := by
  intro o x l hx hl
  rw [h] at hx
  exact ⟨x, hx, hl, rfl, id⟩

theorem KeepsResets.start {st st' : Store} (purpose : Purpose)
    (h : ∀ o, st'.operation o = (st.startLifecycle purpose).operation o)
    (hp : ∀ l, purpose ≠ .resetLease l) : KeepsResets st st' := by
  intro o x l hx hl
  rw [h, Store.startLifecycle_operation] at hx
  split at hx
  · obtain rfl := Option.some.inj hx
    exact absurd hl (hp l)
  · exact ⟨x, hx, hl, rfl, id⟩

theorem KeepsResets.destroy (st : Store) (p : Nat) : KeepsResets st (st.destroy p) := by
  unfold Store.destroy
  split
  · exact .of_eq rfl
  · exact .start (.destroy p) (fun o => rfl) (by simp)

theorem KeepsResets.update {st : Store} {o : Nat} {x y : Lifecycle}
    (hx : st.operation o = some x) (hp : y.purpose = x.purpose)
    (hk : ∀ l, x.purpose = .resetLease l → x.resultHandled = y.resultHandled ∧
      (y.invoked = false → x.invoked = false)) : KeepsResets st (st.updateOperation o y) := by
  intro o' z l hz hl
  rw [Store.updateOperation_operation] at hz
  split at hz
  · rename_i e
    subst e
    obtain rfl := Option.some.inj hz
    exact ⟨x, hx, hp ▸ hl, (hk l (hp ▸ hl)).1, (hk l (hp ▸ hl)).2⟩
  · exact ⟨z, hz, hl, rfl, id⟩

theorem issueLeases_spec (ps : List Nat) (st : Store) :
    (issueLeases ps st).lastLeaseGeneration = st.lastLeaseGeneration + ps.length ∧
    (∀ l, l ≤ st.lastLeaseGeneration → (issueLeases ps st).lease l = st.lease l) ∧
    (∀ l, st.lastLeaseGeneration < l → l ≤ st.lastLeaseGeneration + ps.length →
      ((issueLeases ps st).lease l).active = true) ∧
    ∀ l, st.lastLeaseGeneration + ps.length < l →
      (issueLeases ps st).lease l = st.lease l := by
  induction ps generalizing st with
  | nil =>
      refine ⟨rfl, fun _ _ => rfl, fun l h₁ h₂ => ?_, fun _ _ => rfl⟩
      simp only [List.length_nil, Nat.add_zero] at h₂
      omega
  | cons p ps ih =>
      obtain ⟨h₁, h₃, h₄, h₅⟩ := ih (st.issueLease p)
      have step : issueLeases (p :: ps) st = issueLeases ps (st.issueLease p) := rfl
      have hlast : (st.issueLease p).lastLeaseGeneration = st.lastLeaseGeneration + 1 := rfl
      have new : (st.issueLease p).lease (st.lastLeaseGeneration + 1) =
          ⟨p, st.lastLeaseGeneration + 1, true, 0⟩ := by simp [Store.issueLease]
      have old : ∀ l, l ≠ st.lastLeaseGeneration + 1 →
          (st.issueLease p).lease l = st.lease l := fun l hl => by simp [Store.issueLease, hl]
      rw [hlast] at h₁ h₃ h₄ h₅
      rw [step, List.length_cons]
      refine ⟨by omega, fun l hl => ?_, fun l hl hl' => ?_, fun l hl => ?_⟩
      · rw [h₃ l (by omega), old l (by omega)]
      · by_cases e : l = st.lastLeaseGeneration + 1
        · subst e
          rw [h₃ _ (Nat.le_refl _), new]
        · exact h₄ l (by omega) (by omega)
      · rw [h₅ l (by omega), old l (by omega)]

/-- What the tokens, the operations in flight and the history of the leases agree on. -/
structure LeaseBook (s : ConnectionPoolRuntime) : Prop where
  callbacks_nodup : s.callbacks.Nodup
  callback : ∀ l ∈ s.callbacks, (s.lease l).active = true ∧ (s.lease l).activeOperations = 1 ∧
    ∀ o, ¬ ResetPending s.toStore o l
  pending : ∀ o l, ResetPending s.toStore o l → (s.lease l).active = true ∧
    (s.lease l).activeOperations = 1 ∧ ∀ o', ResetPending s.toStore o' l → o' = o
  invoked : ∀ o x l, s.operation o = some x → x.purpose = .resetLease l → x.invoked = false →
    x.resultHandled = false
  law : History.Each LeaseLaw s.trace
  active : ∀ l, (s.lease l).active = true ↔ Granted l s.trace ∧ ¬ TakenBack l s.trace
  taken : ∀ l, TakenBack l s.trace → l ≤ s.lastLeaseGeneration
  issued : ∀ l, (s.lease l).active = true → l ≤ s.lastLeaseGeneration
  reached : ∀ l p, .reached l p ∈ s.trace →
    l ≤ s.lastLeaseGeneration ∧ (s.lease l).physical = p

/-- Observations which concern no lease. -/
def Unleased : Observation → Prop
  | .granted .. | .reached .. | .takenBack .. => False
  | _ => True

namespace LeaseBook
variable {s s' : ConnectionPoolRuntime}

theorem granted_cons {o : Observation} (ho : Unleased o) (l : Nat) (h : List Observation) :
    Granted l (o :: h) ↔ Granted l h := by
  cases o <;> first | exact ho.elim | simp [Granted]

theorem takenBack_cons {o : Observation} (ho : Unleased o) (l : Nat) (h : List Observation) :
    TakenBack l (o :: h) ↔ TakenBack l h := by
  cases o <;> first | exact ho.elim | simp [TakenBack]

/-- A change which concerns no lease. -/
theorem frame (h : LeaseBook s) (hc : s'.callbacks = s.callbacks) (hl : s'.lease = s.lease)
    (hg : s'.lastLeaseGeneration = s.lastLeaseGeneration) (ht : s'.trace = s.trace)
    (hp : KeepsResets s.toStore s'.toStore) : LeaseBook s' := by
  have old : ∀ o l, ResetPending s'.toStore o l → ResetPending s.toStore o l := by
    rintro o l ⟨x, hx, hxl, hh⟩
    obtain ⟨y, hy, hyl, hyh, -⟩ := hp o x l hx hxl
    exact ⟨y, hy, hyl, hyh.trans hh⟩
  refine ⟨hc ▸ h.callbacks_nodup, ?_, ?_, ?_, ht ▸ h.law, ?_, ?_, ?_, ?_⟩
  · intro l hl'
    rw [hc] at hl'
    rw [hl]
    obtain ⟨h₁, h₂, h₃⟩ := h.callback l hl'
    exact ⟨h₁, h₂, fun o ho => h₃ o (old o l ho)⟩
  · intro o l ho
    rw [hl]
    obtain ⟨h₁, h₂, h₃⟩ := h.pending o l (old o l ho)
    exact ⟨h₁, h₂, fun o' ho' => h₃ o' (old o' l ho')⟩
  · intro o x l hx hxl hi
    obtain ⟨y, hy, hyl, hyh, hyi⟩ := hp o x l hx hxl
    exact hyh ▸ h.invoked o y l hy hyl (hyi hi)
  · rw [hl, ht]; exact h.active
  · rw [ht, hg]; exact h.taken
  · rw [hl, hg]; exact h.issued
  · rw [ht, hl, hg]; exact h.reached

theorem of_store (h : LeaseBook s) (hst : s'.toStore = s.toStore)
    (hc : s'.callbacks = s.callbacks) (ht : s'.trace = s.trace) : LeaseBook s' := by
  exact h.frame hc (by rw [hst]) (by rw [hst]) ht (.of_eq (by rw [hst]))

theorem observe (h : LeaseBook s) {o : Observation} (ho : Unleased o) :
    LeaseBook (s.observe o) := by
  refine ⟨h.callbacks_nodup, h.callback, h.pending, h.invoked, ⟨?_, h.law⟩, ?_, ?_, h.issued, ?_⟩
  · cases o <;> first | exact ho.elim | trivial
  · intro l
    change (s.lease l).active = true ↔ Granted l (o :: s.trace) ∧ ¬ TakenBack l (o :: s.trace)
    rw [granted_cons ho, takenBack_cons ho]
    exact h.active l
  · intro l hl
    exact h.taken l ((takenBack_cons ho l s.trace).mp hl)
  · intro l p hlp
    change Observation.reached l p ∈ o :: s.trace at hlp
    rcases List.mem_cons.mp hlp with rfl | hlp
    · exact ho.elim
    · exact h.reached l p hlp

/-- A grant hands out fresh tokens. -/
theorem grant (h : LeaseBook s) {w : Nat} {ps : List Nat}
    (hst : s'.toStore = issueLeases ps s.toStore) (hc : s'.callbacks = s.callbacks)
    (ht : s'.trace =
      .granted w (List.range' (s.lastLeaseGeneration + 1) ps.length) :: s.trace) :
    LeaseBook s' := by
  obtain ⟨hlast, old, new, beyond⟩ := issueLeases_spec ps s.toStore
  have hops := issueLeases_operation ps s.toStore
  rw [← hst] at hlast hops old new beyond
  have active_old : ∀ l, (s.lease l).active = true → s'.lease l = s.lease l :=
    fun l hl => old l (h.issued l hl)
  have pending_old : ∀ o l, ResetPending s'.toStore o l → ResetPending s.toStore o l := by
    rintro o l ⟨x, hx, hl⟩
    rw [hops] at hx
    exact ⟨x, hx, hl⟩
  have granted_iff : ∀ l, Granted l s'.trace ↔
      (s.lastLeaseGeneration < l ∧ l ≤ s.lastLeaseGeneration + ps.length) ∨
        Granted l s.trace := by
    intro l
    simp only [Granted, ht, List.mem_cons]
    constructor
    · rintro ⟨w', ls, e | hw, hl⟩
      · obtain ⟨-, rfl⟩ := Observation.granted.inj e
        rw [List.mem_range'_1] at hl
        exact Or.inl (by omega)
      · exact Or.inr ⟨w', ls, hw, hl⟩
    · rintro (hl | ⟨w', ls, hw, hl⟩)
      · exact ⟨w, _, Or.inl rfl, by rw [List.mem_range'_1]; omega⟩
      · exact ⟨w', ls, Or.inr hw, hl⟩
  have taken_iff : ∀ l, TakenBack l s'.trace ↔ TakenBack l s.trace := by
    intro l
    simp [TakenBack, ht]
  refine ⟨hc ▸ h.callbacks_nodup, ?_, ?_, ?_, ?_, ?_, ?_, ?_, ?_⟩
  · intro l hl
    rw [hc] at hl
    obtain ⟨h₁, h₂, h₃⟩ := h.callback l hl
    rw [active_old l h₁]
    exact ⟨h₁, h₂, fun o ho => h₃ o (pending_old o l ho)⟩
  · intro o l ho
    obtain ⟨h₁, h₂, h₃⟩ := h.pending o l (pending_old o l ho)
    rw [active_old l h₁]
    exact ⟨h₁, h₂, fun o' ho' => h₃ o' (pending_old o' l ho')⟩
  · intro o x l hx
    rw [hops] at hx
    exact h.invoked o x l hx
  · rw [ht]
    exact ⟨trivial, h.law⟩
  · intro l
    rw [taken_iff, granted_iff]
    rcases Nat.lt_or_ge s.lastLeaseGeneration l with hlt | hle
    · have fresh : ¬ TakenBack l s.trace := fun hb => by
        have := h.taken l hb
        omega
      have unissued : (s.lease l).active = false := by
        by_contra ha
        have := h.issued l (by simpa using ha)
        omega
      by_cases hub : l ≤ s.lastLeaseGeneration + ps.length
      · simp [new l hlt hub, hlt, hub, fresh]
      · rw [beyond l (by omega), h.active l]
        simp [hub]
    · rw [old l hle, h.active l]
      simp [Nat.not_lt.mpr hle]
  · intro l hl
    have := h.taken l ((taken_iff l).mp hl)
    omega
  · intro l hl
    by_contra hgt
    rw [beyond l (by omega)] at hl
    have := h.issued l hl
    omega
  · intro l p hp
    rw [ht] at hp
    obtain ⟨hle, hph⟩ := h.reached l p (by simpa using hp)
    rw [old l hle]
    exact ⟨by omega, hph⟩

/-- The holder of a lease reaches its resource. -/
theorem reach (h : LeaseBook s) {l : Nat} (ha : (s.lease l).active = true) :
    LeaseBook (s.observe (.reached l (s.lease l).physical)) := by
  obtain ⟨hg, hn⟩ := (h.active l).mp ha
  refine ⟨h.callbacks_nodup, h.callback, h.pending, h.invoked, ⟨⟨hg, hn⟩, h.law⟩, ?_, ?_,
    h.issued, ?_⟩
  · intro k
    have same : (Granted k (.reached l (s.lease l).physical :: s.trace) ↔ Granted k s.trace) ∧
        (TakenBack k (.reached l (s.lease l).physical :: s.trace) ↔ TakenBack k s.trace) := by
      simp [Granted, TakenBack]
    change (s.lease k).active = true ↔ Granted k (_ :: s.trace) ∧ ¬ TakenBack k (_ :: s.trace)
    rw [same.1, same.2]
    exact h.active k
  · rintro k ⟨p, hp⟩
    exact h.taken k ⟨p, by simpa [ConnectionPoolRuntime.observe] using hp⟩
  · intro k p hp
    change Observation.reached k p ∈ _ :: s.trace at hp
    rcases List.mem_cons.mp hp with e | hp
    · obtain ⟨rfl, rfl⟩ := Observation.reached.inj e
      exact ⟨h.issued k ha, rfl⟩
    · exact h.reached k p hp

/-- A token which no operation uses. -/
theorem free (h : LeaseBook s) {l : Nat} (hz : (s.lease l).activeOperations = 0) :
    l ∉ s.callbacks ∧ ∀ o, ¬ ResetPending s.toStore o l := by
  refine ⟨fun hl => ?_, fun o ho => ?_⟩
  · have := (h.callback l hl).2.1
    omega
  · have := (h.pending o l ho).2.1
    omega

/-- An operation enters: a callback, or a reset. -/
theorem enter (h : LeaseBook s) {l : Nat} (ha : (s.lease l).active = true)
    (hz : (s.lease l).activeOperations = 0)
    (hl : s'.lease = (s.updateLease l .enter).lease)
    (hg : s'.lastLeaseGeneration = s.lastLeaseGeneration) (ht : s'.trace = s.trace)
    (hop : (s'.callbacks = l :: s.callbacks ∧ s'.operation = s.operation) ∨
      (s'.callbacks = s.callbacks ∧
        ∀ o, s'.operation o = (s.startLifecycle (.resetLease l)).operation o)) :
    LeaseBook s' := by
  obtain ⟨hfree, hnone⟩ := h.free hz
  have lease_l : s'.lease l = (s.lease l).enter := by
    rw [hl, Store.updateLease_lease, if_pos rfl]
  have lease_ne : ∀ k, k ≠ l → s'.lease k = s.lease k := fun k hk => by
    rw [hl, Store.updateLease_lease, if_neg hk]
  have same : ∀ k, (s'.lease k).active = (s.lease k).active ∧
      (s'.lease k).physical = (s.lease k).physical := by
    intro k
    by_cases e : k = l
    · subst e
      rw [lease_l]
      exact ⟨rfl, rfl⟩
    · rw [lease_ne k e]
      exact ⟨rfl, rfl⟩
  have one : (s'.lease l).activeOperations = 1 := by
    rw [lease_l, LeaseRecord.enter, hz]
  refine ⟨?_, ?_, ?_, ?_, ht ▸ h.law, ?_, ?_, ?_, ?_⟩
  · rcases hop with ⟨hc, -⟩ | ⟨hc, -⟩ <;> rw [hc]
    · exact List.nodup_cons.mpr ⟨hfree, h.callbacks_nodup⟩
    · exact h.callbacks_nodup
  · intro k hk
    have hkold : k ≠ l → k ∈ s.callbacks := by
      intro e
      rcases hop with ⟨hc, -⟩ | ⟨hc, -⟩ <;> rw [hc] at hk
      · exact (List.mem_cons.mp hk).resolve_left e
      · exact hk
    by_cases e : k = l
    · subst e
      refine ⟨(same k).1.trans ha, one, fun o ho => ?_⟩
      rcases hop with ⟨-, ho'⟩ | ⟨hc, -⟩
      · obtain ⟨x, hx, hxl⟩ := ho
        rw [ho'] at hx
        exact hnone o ⟨x, hx, hxl⟩
      · exact hfree (hc ▸ hk)
    · obtain ⟨h₁, h₂, h₃⟩ := h.callback k (hkold e)
      rw [lease_ne k e]
      refine ⟨h₁, h₂, ?_⟩
      rintro o ⟨x, hx, hxl, hh⟩
      rcases hop with ⟨-, ho'⟩ | ⟨-, ho'⟩
      · rw [ho'] at hx
        exact h₃ o ⟨x, hx, hxl, hh⟩
      · rw [ho', Store.startLifecycle_operation] at hx
        split at hx
        · obtain rfl := Option.some.inj hx
          exact e (Purpose.resetLease.inj hxl).symm
        · exact h₃ o ⟨x, hx, hxl, hh⟩
  · rintro o k ⟨x, hx, hxl, hh⟩
    rcases hop with ⟨-, ho'⟩ | ⟨-, ho'⟩
    · rw [ho'] at hx
      have hk : k ≠ l := fun e => hnone o (e ▸ ⟨x, hx, hxl, hh⟩)
      obtain ⟨h₁, h₂, h₃⟩ := h.pending o k ⟨x, hx, hxl, hh⟩
      rw [lease_ne k hk]
      refine ⟨h₁, h₂, ?_⟩
      rintro o' ⟨y, hy, hyl⟩
      rw [ho'] at hy
      exact h₃ o' ⟨y, hy, hyl⟩
    · have split : ∀ o' k', ResetPending s'.toStore o' k' →
          (o' = s.nextOperationId ∧ k' = l) ∨ (ResetPending s.toStore o' k') := by
        rintro o' k' ⟨y, hy, hyl, hyh⟩
        rw [ho', Store.startLifecycle_operation] at hy
        split at hy
        · rename_i e
          obtain rfl := Option.some.inj hy
          exact Or.inl ⟨e, (Purpose.resetLease.inj hyl).symm⟩
        · exact Or.inr ⟨y, hy, hyl, hyh⟩
      rcases split o k ⟨x, hx, hxl, hh⟩ with ⟨rfl, rfl⟩ | hold
      · refine ⟨(same k).1.trans ha, one, fun o' hpend => ?_⟩
        rcases split o' k hpend with ⟨e, -⟩ | hold
        · exact e
        · exact absurd hold (hnone o')
      · have hk : k ≠ l := fun e => hnone o (e ▸ hold)
        obtain ⟨h₁, h₂, h₃⟩ := h.pending o k hold
        rw [lease_ne k hk]
        refine ⟨h₁, h₂, fun o' hpend => ?_⟩
        rcases split o' k hpend with ⟨-, e⟩ | hold'
        · exact absurd e hk
        · exact h₃ o' hold'
  · intro o x k hx hxl hi
    rcases hop with ⟨-, ho'⟩ | ⟨-, ho'⟩
    · rw [ho'] at hx
      exact h.invoked o x k hx hxl hi
    · rw [ho', Store.startLifecycle_operation] at hx
      split at hx
      · obtain rfl := Option.some.inj hx
        rfl
      · exact h.invoked o x k hx hxl hi
  · intro k
    rw [(same k).1, ht]
    exact h.active k
  · rw [ht, hg]; exact h.taken
  · intro k hk
    rw [(same k).1] at hk
    rw [hg]
    exact h.issued k hk
  · intro k p hp
    rw [ht] at hp
    rw [hg, (same k).2]
    exact h.reached k p hp

/-- The only operation which uses a token leaves it. -/
theorem leave (h : LeaseBook s) {l : Nat} (hl : s'.lease = (s.updateLease l .leave).lease)
    (hg : s'.lastLeaseGeneration = s.lastLeaseGeneration) (ht : s'.trace = s.trace)
    (hc : s'.callbacks = s.callbacks.erase l)
    (old : ∀ o k, ResetPending s'.toStore o k → ResetPending s.toStore o k ∧ k ≠ l)
    (hi : ∀ o x k, s'.operation o = some x → x.purpose = .resetLease k → x.invoked = false →
      x.resultHandled = false) : LeaseBook s' := by
  have lease_ne : ∀ k, k ≠ l → s'.lease k = s.lease k := fun k hk => by
    rw [hl, Store.updateLease_lease, if_neg hk]
  have same : ∀ k, (s'.lease k).active = (s.lease k).active ∧
      (s'.lease k).physical = (s.lease k).physical := by
    intro k
    by_cases e : k = l
    · subst e
      rw [hl, Store.updateLease_lease, if_pos rfl]
      exact ⟨rfl, rfl⟩
    · rw [lease_ne k e]
      exact ⟨rfl, rfl⟩
  refine ⟨hc ▸ h.callbacks_nodup.erase l, ?_, ?_, hi, ht ▸ h.law, ?_, ?_, ?_, ?_⟩
  · intro k hk
    rw [hc, h.callbacks_nodup.mem_erase_iff] at hk
    obtain ⟨h₁, h₂, h₃⟩ := h.callback k hk.2
    rw [lease_ne k hk.1]
    exact ⟨h₁, h₂, fun o ho => h₃ o (old o k ho).1⟩
  · intro o k ho
    obtain ⟨hold, hne⟩ := old o k ho
    obtain ⟨h₁, h₂, h₃⟩ := h.pending o k hold
    rw [lease_ne k hne]
    exact ⟨h₁, h₂, fun o' ho' => h₃ o' (old o' k ho').1⟩
  · intro k
    rw [(same k).1, ht]
    exact h.active k
  · rw [ht, hg]; exact h.taken
  · intro k hk
    rw [(same k).1] at hk
    rw [hg]
    exact h.issued k hk
  · intro k p hp
    rw [ht] at hp
    rw [hg, (same k).2]
    exact h.reached k p hp

/-- The pool takes the connection of an unused token back. -/
theorem takeBack (h : LeaseBook s) {l : Nat} (ha : (s.lease l).active = true)
    (hz : (s.lease l).activeOperations = 0) :
    LeaseBook ({ s with toStore := s.toStore.takeBack l }.observe
      (.takenBack l (s.lease l).physical)) := by
  obtain ⟨hfree, hnone⟩ := h.free hz
  obtain ⟨hgr, hnt⟩ := (h.active l).mp ha
  generalize hs' : { s with toStore := s.toStore.takeBack l }.observe
    (.takenBack l (s.lease l).physical) = s'
  have lease_eq : ∀ k, s'.lease k =
      if k = l then { s.lease l with active := false } else s.lease k := by
    intro k
    rw [← hs']
    exact s.toStore.updateLease_lease l (fun r => { r with active := false }) k
  have lease_ne : ∀ k, k ≠ l → s'.lease k = s.lease k := fun k hk => by
    rw [lease_eq, if_neg hk]
  have active_ne : ∀ k, (s'.lease k).active = true → k ≠ l := by
    rintro k hk rfl
    rw [lease_eq, if_pos rfl] at hk
    cases hk
  have trace_eq : s'.trace = .takenBack l (s.lease l).physical :: s.trace := by rw [← hs']; rfl
  have hlast : s'.lastLeaseGeneration = s.lastLeaseGeneration := by rw [← hs']; rfl
  have hops : s'.operation = s.operation := by rw [← hs']; rfl
  have hcb : s'.callbacks = s.callbacks := by rw [← hs']; rfl
  have old : ∀ o k, ResetPending s'.toStore o k → ResetPending s.toStore o k := by
    rintro o k ⟨x, hx, hxl⟩
    rw [hops] at hx
    exact ⟨x, hx, hxl⟩
  refine ⟨hcb ▸ h.callbacks_nodup, ?_, ?_, ?_, ?_, ?_, ?_, ?_, ?_⟩
  · intro k hk
    rw [hcb] at hk
    have hne : k ≠ l := fun e => hfree (e ▸ hk)
    obtain ⟨h₁, h₂, h₃⟩ := h.callback k hk
    rw [lease_ne k hne]
    exact ⟨h₁, h₂, fun o ho => h₃ o (old o k ho)⟩
  · intro o k ho
    have hne : k ≠ l := fun e => hnone o (e ▸ old o k ho)
    obtain ⟨h₁, h₂, h₃⟩ := h.pending o k (old o k ho)
    rw [lease_ne k hne]
    exact ⟨h₁, h₂, fun o' ho' => h₃ o' (old o' k ho')⟩
  · intro o x k hx
    rw [hops] at hx
    exact h.invoked o x k hx
  · rw [trace_eq]
    exact ⟨⟨hgr, hnt⟩, h.law⟩
  · intro k
    have granted_same : Granted k s'.trace ↔ Granted k s.trace := by simp [Granted, trace_eq]
    have taken_iff : TakenBack k s'.trace ↔ k = l ∨ TakenBack k s.trace := by
      simp only [TakenBack, trace_eq, List.mem_cons, Observation.takenBack.injEq, exists_or,
        exists_and_left, exists_eq, and_true]
    rw [granted_same, taken_iff, lease_eq]
    by_cases e : k = l
    · simp [e]
    · simp [e, h.active k]
  · rintro k ⟨p, hp⟩
    rw [hlast]
    rw [trace_eq] at hp
    rcases List.mem_cons.mp hp with e | hp
    · obtain ⟨rfl, -⟩ := Observation.takenBack.inj e
      exact h.issued k ha
    · exact h.taken k ⟨p, hp⟩
  · intro k hk
    have hne := active_ne k hk
    rw [lease_ne k hne] at hk
    rw [hlast]
    exact h.issued k hk
  · intro k p hp
    rw [trace_eq] at hp
    obtain ⟨h₁, h₂⟩ := h.reached k p (by simpa using hp)
    rw [hlast, lease_eq]
    refine ⟨h₁, ?_⟩
    split
    · rename_i e
      exact e ▸ h₂
    · exact h₂

theorem invoke (h : LeaseBook s) {o : Nat} {x : Lifecycle} (ho : s.operation o = some x)
    (hi : x.invoked = false) : LeaseBook (s.invoke o x) := by
  have h' : LeaseBook { s with toStore := s.toStore.updateOperation o { x with invoked := true } } :=
    h.frame rfl rfl rfl rfl (.update ho rfl fun _ _ => ⟨rfl, by simp⟩)
  unfold ConnectionPoolRuntime.invoke observeInvocation
  split
  · exact h'.observe trivial
  · rename_i l hl
    have ha := (h.pending o l ⟨x, ho, hl, h.invoked o x l ho hl hi⟩).1
    exact h'.reach ha
  · exact h'

theorem settle (h : LeaseBook s) {o : Nat} {x : Lifecycle} {out : Settlement}
    (ho : s.operation o = some x) : LeaseBook (s.settle o x out) := by
  have h' : LeaseBook { s with
      toStore := s.toStore.updateOperation o
        { x with raw := some out, result := some (x.result.getD out) } } :=
    h.frame rfl rfl rfl rfl (.update ho rfl fun _ _ => ⟨rfl, id⟩)
  unfold ConnectionPoolRuntime.settle observeDelivery
  split
  · exact h'.observe trivial
  · exact h'

theorem resetEnd (h : LeaseBook s) {l o : Nat} {x : Lifecycle} (ho : s.operation o = some x)
    (hx : x.purpose = .resetLease l) (hi : x.invoked = true) (hh : x.resultHandled = false) :
    LeaseBook { s with
      toStore := (s.toStore.updateOperation o { x with resultHandled := true }).endLeaseReset
        l o } := by
  obtain ⟨-, -, honly⟩ := h.pending o l ⟨x, ho, hx, hh⟩
  have hfree : l ∉ s.callbacks := fun hl => (h.callback l hl).2.2 o ⟨x, ho, hx, hh⟩
  obtain ⟨hlease, hops, hlast⟩ := (s.toStore.updateOperation o
    { x with resultHandled := true }).endLeaseReset_frame l o
  refine h.leave hlease hlast rfl (List.erase_of_not_mem hfree).symm ?_ ?_
  · -- the answer of this reset is the only one which is no longer pending
    rintro o' k ⟨y, hy, hyk, hyh⟩
    rw [hops, Store.updateOperation_operation] at hy
    split at hy
    · obtain rfl := Option.some.inj hy
      cases hyh
    · rename_i e
      refine ⟨⟨y, hy, hyk, hyh⟩, ?_⟩
      rintro rfl
      exact e (honly o' ⟨y, hy, hyk, hyh⟩)
  · intro o' y k hy hyk hyi
    rw [hops, Store.updateOperation_operation] at hy
    split at hy
    · obtain rfl := Option.some.inj hy
      rw [show x.invoked = false from hyi] at hi
      cases hi
    · exact h.invoked o' y k hy hyk hyi

theorem move {cfg : Settings} {d d' : Desk} (h : LeaseBook d.pool) (owned : Owned cfg d)
    (hm : Move cfg d d') : LeaseBook d'.pool := by
  have hlt := owned.destructions.operation_lt
  cases hm with
  | refuse s V T o ho => exact h.observe (by cases o <;> trivial)
  | reject s V T w e hw =>
      exact (h.observe (o := .acquireRejected w e) trivial).of_store rfl rfl rfl
  | clock s V T t => exact (h.observe (o := .clockRead t) trivial).of_store rfl rfl rfl
  | accept s V T n deadline =>
      exact (h.observe (o := .accepted s.nextWaiterId n deadline) trivial).of_store rfl rfl rfl
  | aborted s V T w => exact h.observe trivial
  | duplicate s V T c r => exact h.observe trivial
  | shutdown s V T requested =>
      exact (h.observe (o := .entered requested) trivial).of_store rfl rfl rfl
  | escalate s V T => exact (h.observe (o := .entered .closing) trivial).of_store rfl rfl rfl
  | close s V T => exact (h.observe (o := .entered .closed) trivial).of_store rfl rfl rfl
  | create s V T owner =>
      exact h.frame rfl rfl rfl rfl (.start (.create s.nextCreationId) (fun _ => rfl) (by simp))
  | admitRecord s V c r o x =>
      exact (h.observe (o := .admitted (s.creation c).operation s.nextPhysicalId) trivial).frame
        rfl rfl rfl rfl (.of_eq rfl)
  | checkout s T n =>
      have frame := Store.checkout_frame s.toStore n
      exact h.frame rfl frame.1 frame.2.1 rfl (.of_eq frame.2.2)
  | validate s V T p =>
      exact h.frame rfl rfl rfl rfl (.start (.validate p) (fun _ => rfl) (by simp))
  | park s V T V' T' p waiting =>
      have frame := Store.park_frame s.toStore p waiting
      exact h.frame rfl frame.1 frame.2.1 rfl (.of_eq frame.2.2)
  | destroy s V T V' T' p =>
      have frame := Store.destroy_frame s.toStore p
      exact h.frame rfl frame.1 frame.2 rfl (.destroy _ p)
  | grant s V T w healthy => exact h.grant rfl rfl rfl
  | callbackStart s V T l ha hz =>
      have entered : LeaseBook { s with
          toStore := s.toStore.updateLease l .enter
          callbacks := l :: s.callbacks } := h.enter ha hz rfl rfl rfl (Or.inl ⟨rfl, rfl⟩)
      have same : ((s.toStore.updateLease l .enter).lease l).physical = (s.lease l).physical ∧
          ((s.toStore.updateLease l .enter).lease l).active = true := by
        rw [Store.updateLease_lease, if_pos rfl]
        exact ⟨rfl, ha⟩
      have reached := entered.reach (l := l) same.2
      rw [show ((s.toStore.updateLease l .enter).lease l).physical = _ from same.1] at reached
      exact reached
  | callbackEnd s V T l hl =>
      obtain ⟨-, -, hnone⟩ := h.callback l hl
      exact h.leave rfl rfl rfl rfl (fun o k hk => ⟨hk, fun e => hnone o (e ▸ hk)⟩) h.invoked
  | resetStart s V T l ha hz =>
      exact h.enter ha hz rfl rfl rfl (Or.inr ⟨rfl, fun _ => rfl⟩)
  | resetEnd s V T l o x ho hx hi hh => exact h.resetEnd ho hx hi hh
  | takeBack s V l ha hz => exact h.takeBack ha hz
  | startReturn s V p =>
      exact h.frame rfl rfl rfl rfl (.start (.resetReturn p) (fun _ => rfl) (by simp))
  | returned s V o p x ho hx =>
      exact h.frame rfl rfl rfl rfl (.update ho rfl fun l hl => absurd (hx.symm.trans hl) (by simp))
  | removeRecord s V T p o x v hp ho hx =>
      have frame := Store.removeRecord_frame s.toStore p o
      exact h.frame rfl frame.1 frame.2.1 rfl (.of_eq frame.2.2)
  | invoke s V T o x ho hi => exact h.invoke ho hi
  | settle s V T o x out ho => exact h.settle ho
  | expire s V T o x e ho => exact h.frame rfl rfl rfl rfl (.update ho rfl fun _ _ => ⟨rfl, id⟩)
  | handled s V T o x ho hl =>
      exact h.frame rfl rfl rfl rfl (.update ho rfl fun l e => absurd e (hl l))
  | rawHandled s V T o x ho =>
      exact h.frame rfl rfl rfl rfl (.update ho rfl fun _ _ => ⟨rfl, id⟩)
  | _ => exact h.frame rfl rfl rfl rfl (.of_eq rfl)

end LeaseBook

theorem LeaseBook.granted_le {s : ConnectionPoolRuntime} (h : LeaseBook s) {l : Nat}
    (hl : Granted l s.trace) : l ≤ s.lastLeaseGeneration := by
  by_cases hb : TakenBack l s.trace
  · exact h.taken l hb
  · exact h.issued l ((h.active l).mpr ⟨hl, hb⟩)

theorem leaseBook_initial : LeaseBook initial := by
  constructor <;>
    simp [initial, requestPump, dispatching, Store.empty, ResetPending, Granted, TakenBack,
      History.Each]

/-- The books on which the other ones rely: who owns each connection, and who holds
each token. -/
def Booked (cfg : Settings) (d : Desk) : Prop := Owned cfg d ∧ LeaseBook d.pool

theorem booked_initial (cfg : Settings) : Booked cfg initial.desk :=
  ⟨owned_initial cfg, leaseBook_initial⟩

theorem Booked.move {cfg : Settings} {d d' : Desk} (h : Booked cfg d) (hm : Move cfg d d') :
    Booked cfg d' :=
  ⟨h.1.move hm, h.2.move h.1 hm⟩

theorem Booked.turn {cfg : Settings} {d d' : Desk} (h : Booked cfg d) (ht : Turn d d') :
    Booked cfg d' := by
  refine ⟨h.1.turn ht, ?_⟩
  obtain ⟨D, -, -, rfl⟩ := ht
  exact h.2.of_store rfl rfl rfl

theorem reachable_leaseBook {cfg : Settings} {s : ConnectionPoolRuntime}
    (hs : (machine cfg).Reachable s) : LeaseBook s :=
  (reachable_desk (booked_initial cfg) (fun _ _ => Booked.move) (fun _ _ => Booked.turn) hs).2

/-- An operation in flight: a callback which has not settled, or a reset which has not
been answered. -/
inductive Flight
  | callback (lease : Nat)
  | reset (operation lease : Nat)

def Flight.lease : Flight → Nat
  | .callback l | .reset _ l => l

def InFlight (s : ConnectionPoolRuntime) : Flight → Prop
  | .callback l => l ∈ s.callbacks
  | .reset o l => ResetPending s.toStore o l

theorem LeaseBook.inFlight {s : ConnectionPoolRuntime} (h : LeaseBook s) {f : Flight}
    (hf : InFlight s f) : (s.lease f.lease).active = true ∧
      (s.lease f.lease).activeOperations = 1 := by
  cases f with
  | callback l => exact ⟨(h.callback l hf).1, (h.callback l hf).2.1⟩
  | reset o l => exact ⟨(h.pending o l hf).1, (h.pending o l hf).2.1⟩

theorem LeaseBook.inFlight_unique {s : ConnectionPoolRuntime} (h : LeaseBook s)
    {f f' : Flight} (hf : InFlight s f) (hf' : InFlight s f') (e : f.lease = f'.lease) :
    f = f' := by
  cases f with
  | callback l =>
      cases f' with
      | callback l' => exact congrArg Flight.callback e
      | reset o l' =>
          obtain rfl : l = l' := e
          exact absurd hf' ((h.callback l hf).2.2 o)
  | reset o l =>
      cases f' with
      | callback l' =>
          obtain rfl : l = l' := e
          exact absurd hf ((h.callback l hf').2.2 o)
      | reset o' l' =>
          obtain rfl : l = l' := e
          rw [(h.pending o l hf).2.2 o' hf']

/-- `release` is refused while an operation is in flight, and changes nothing. -/
theorem LeaseBook.release_refused {s : ConnectionPoolRuntime} (h : LeaseBook s)
    (cfg : Settings) {f : Flight} (hf : InFlight s f) (reusable : Option Bool)
    (idleHigh : Option JsNumber) :
    ∃ e, s.release cfg (.issued f.lease) reusable idleHigh =
      s.observe (.releaseRefused (.issued f.lease) e) := by
  obtain ⟨ha, hone⟩ := h.inFlight hf
  unfold ConnectionPoolRuntime.release
  split
  · exact ⟨_, rfl⟩
  · split
    · exact ⟨_, rfl⟩
    · rename_i l hl
      obtain rfl : f.lease = l := by
        have := (activeLeaseRecord_ok hl).2
        exact LeaseToken.issued.inj this
      rw [if_pos (by omega)]
      exact ⟨_, rfl⟩

/-- What a caller may rely on about its lease tokens. -/
structure LeaseSafety (cfg : Settings) (s : ConnectionPoolRuntime) : Prop where
  /-- A lease is active from its grant until the pool takes its connection back. -/
  active : ∀ l, (s.lease l).active = true ↔ Granted l s.trace ∧ ¬ TakenBack l s.trace
  /-- Operations reach a resource, and releases succeed, only on granted leases which
  have not been taken back: a released token never reaches a resource again. -/
  law : ∀ post o past, s.trace = post ++ o :: past → LeaseLaw o past
  /-- The resource which an operation reaches is the one of its lease. -/
  resource : ∀ l p, .reached l p ∈ s.trace → (s.lease l).physical = p
  takenBack_once : ∀ l, s.trace.countP (·.takesBack l) ≤ 1
  callbacks_nodup : s.callbacks.Nodup
  /-- Operations in flight on one connection are one operation, of an active lease. -/
  single : ∀ f f', InFlight s f → InFlight s f' →
    (s.lease f.lease).physical = (s.lease f'.lease).physical → f = f'
  /-- A release is refused while an operation is in flight; the lease stays active. -/
  refused : ∀ f, InFlight s f → (s.lease f.lease).active = true ∧
    ∀ reusable idleHigh, ∃ e, s.release cfg (.issued f.lease) reusable idleHigh =
      s.observe (.releaseRefused (.issued f.lease) e)

theorem leaseSafety_reachable (cfg : Settings) {s : ConnectionPoolRuntime}
    (hs : (machine cfg).Reachable s) : LeaseSafety cfg s := by
  have h := reachable_leaseBook hs
  have hp := physicallySound_reachable cfg hs
  refine ⟨h.active, History.each_iff.mp h.law, fun l p hl => (h.reached l p hl).2, fun l => ?_,
    h.callbacks_nodup, fun f f' hf hf' e => ?_, fun f hf => ?_⟩
  · refine h.law.countP_le_one fun o past hlaw ho o' ho' => ?_
    rw [← Bool.not_eq_true, Observation.takesBack_iff]
    obtain ⟨p, rfl⟩ := Observation.takesBack_iff.mp ho
    rintro ⟨p', rfl⟩
    exact hlaw.2 ⟨p', ho'⟩
  · exact h.inFlight_unique hf hf'
      (hp.exclusive _ _ (h.inFlight hf).1 (h.inFlight hf').1 e)
  · exact ⟨(h.inFlight hf).1, h.release_refused cfg hf⟩

theorem leaseSafety_leaseOne : ∃ s, (machine twoConnections).run (machine twoConnections).init
    (leaseOne ++ [.withActiveLease (.issued 1)]) = some s ∧ InFlight s (.callback 1) ∧
      LeaseSafety twoConnections s := by
  obtain ⟨s, hrun, hs, hf⟩ := Machine.reachable_of_any (machine twoConnections)
    (leaseOne ++ [.withActiveLease (.issued 1)]) (fun s => 1 ∈ s.callbacks) (by decide +kernel)
  exact ⟨s, hrun, by simpa [InFlight] using hf, leaseSafety_reachable twoConnections hs⟩

end OpenRfc.Pool
