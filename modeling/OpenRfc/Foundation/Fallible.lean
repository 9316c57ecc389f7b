import Mathlib.Control.Monad.Basic
import Mathlib.Data.List.Forall2

/-! Computations which stop at the first error. -/

namespace Fallible
variable {ε α β : Type}

theorem bind_eq_ok {x : Except ε α} {f : α → Except ε β} {b : β} :
    (x >>= f) = .ok b ↔ ∃ a, x = .ok a ∧ f a = .ok b := by
  cases x with
  | error e => simp [bind, Except.bind]
  | ok a => simp [bind, Except.bind]

@[simp] theorem ok_bind (a : α) (f : α → Except ε β) : (Except.ok a >>= f) = f a := rfl

@[simp] theorem error_bind (e : ε) (f : α → Except ε β) : (Except.error e >>= f) = .error e := rfl

theorem map_bind (x : Except ε α) (f : α → Except ε β) {γ : Type} (g : β → γ) :
    (x >>= f).map g = x >>= fun a => (f a).map g := by
  cases x <;> rfl

/-- A check: what does not hold is an error. -/
def require (p : Prop) [Decidable p] (e : ε) : Except ε Unit := if p then .ok () else .error e

theorem require_of {p : Prop} [Decidable p] {e : ε} (h : p) : require p e = .ok () := if_pos h

theorem require_eq_ok {p : Prop} [Decidable p] {e : ε} {u : Unit} :
    require p e = .ok u ↔ p := by
  unfold require
  split
  · rename_i h
    exact iff_of_true rfl h
  · rename_i h
    exact iff_of_false nofun h

theorem exists_eq_ok {x : Except ε α} (h : x.isOk = true) : ∃ a, x = .ok a := by
  cases x with
  | error e => cases h
  | ok a => exact ⟨a, rfl⟩

/-- A loop of checks. -/
theorem forM_eq_ok {l : List α} {check : α → Except ε PUnit} {u : PUnit} :
    l.forM check = .ok u ↔ ∀ a ∈ l, check a = .ok () := by
  induction l with
  | nil => exact iff_of_true rfl (by simp)
  | cons a l ih =>
      have hcons : (a :: l).forM check = check a >>= fun _ => l.forM check := rfl
      rw [hcons, bind_eq_ok, List.forall_mem_cons]
      simp only [ih]
      constructor
      · rintro ⟨⟨⟩, ha, hl⟩
        exact ⟨ha, hl⟩
      · rintro ⟨ha, hl⟩
        exact ⟨(), ha, hl⟩

theorem mapError_eq_ok {ε' : Type} {x : Except ε α} {f : ε → ε'} {a : α} :
    x.mapError f = .ok a ↔ x = .ok a := by
  cases x with
  | error e => simp [Except.mapError]
  | ok a' => simp [Except.mapError]

theorem toOption_eq_some {x : Except ε α} {a : α} : x.toOption = some a ↔ x = .ok a := by
  cases x with
  | error e => exact ⟨nofun, nofun⟩
  | ok a' => simp [Except.toOption]

theorem toOption_bind (x : Except ε α) (f : α → Except ε β) :
    (x >>= f).toOption = x.toOption >>= fun a => (f a).toOption := by
  cases x <;> rfl

theorem toOption_require (p : Prop) [Decidable p] (e : ε) :
    (require p e).toOption = if p then some () else none := by
  rw [require]
  split <;> rfl

/-- What succeeds alike, whatever the errors are. -/
theorem eq_ok_of_toOption {ε' : Type} {x : Except ε α} {y : Except ε' α}
    (h : x.toOption = y.toOption) (a : α) : x = .ok a ↔ y = .ok a := by
  rw [← toOption_eq_some, h, toOption_eq_some]

end Fallible

/-! What a computation with a state keeps of the state, and what it says of its value. -/

namespace Fallible
variable {σ ε α β : Type}

/-- If the computation succeeds, its state still satisfies `I`, and its value satisfies `Q`. -/
def Ensures (I : σ → Prop) (x : StateT σ (Except ε) α) (Q : α → Prop) : Prop :=
  ∀ s a s', I s → x s = .ok (a, s') → I s' ∧ Q a

namespace Ensures
variable {I : σ → Prop} {Q : α → Prop} {R : β → Prop}

theorem pure {a : α} (h : Q a) : Ensures I (pure a : StateT σ (Except ε) α) Q := by
  rintro s _ _ hs ⟨⟩
  exact ⟨hs, h⟩

theorem fail {x : StateT σ (Except ε) α} (h : ∀ s, ∃ e, x s = .error e) : Ensures I x Q := by
  intro s a s' _ hrun
  obtain ⟨e, he⟩ := h s
  rw [he] at hrun
  cases hrun

theorem bind {x : StateT σ (Except ε) α} {f : α → StateT σ (Except ε) β} (hx : Ensures I x Q)
    (hf : ∀ a, Q a → Ensures I (f a) R) : Ensures I (x >>= f) R := by
  intro s b s' hs hrun
  change (StateT.bind x f) s = _ at hrun
  rw [StateT.bind] at hrun
  obtain ⟨⟨a, middle⟩, hx', hrest⟩ := bind_eq_ok.mp hrun
  obtain ⟨hmiddle, ha⟩ := hx s a middle hs hx'
  exact hf a ha middle b s' hmiddle hrest

theorem mono {Q' : α → Prop} {x : StateT σ (Except ε) α} (h : Ensures I x Q)
    (hle : ∀ a, Q a → Q' a) : Ensures I x Q' := by
  intro s a s' hs hrun
  obtain ⟨hs', ha⟩ := h s a s' hs hrun
  exact ⟨hs', hle a ha⟩

theorem modify {f : σ → σ} (h : ∀ s, I s → I (f s)) :
    Ensures I (modify f : StateT σ (Except ε) PUnit) fun _ => True := by
  rintro s _ _ hs ⟨⟩
  exact ⟨h s hs, trivial⟩

theorem get : Ensures I (get : StateT σ (Except ε) σ) I := by
  rintro s _ _ hs ⟨⟩
  exact ⟨hs, hs⟩

theorem set {s : σ} (h : I s) : Ensures I (set s : StateT σ (Except ε) PUnit) fun _ => True := by
  rintro _ _ _ _ ⟨⟩
  exact ⟨h, trivial⟩

theorem lift {x : Except ε α} (h : ∀ a, x = .ok a → Q a) :
    Ensures I (StateT.lift x : StateT σ (Except ε) α) Q := by
  intro s a s' hs hrun
  rw [StateT.lift] at hrun
  obtain ⟨a', ha', hpure⟩ := bind_eq_ok.mp hrun
  cases hpure
  exact ⟨hs, h a ha'⟩

theorem ite {p : Prop} [Decidable p] {x y : StateT σ (Except ε) α} (hx : p → Ensures I x Q)
    (hy : ¬p → Ensures I y Q) : Ensures I (if p then x else y) Q := by
  split
  · exact hx ‹_›
  · exact hy ‹_›

end Ensures
end Fallible

/-!
Pairs of computations, of which one makes values on its way and the other one does the same without
making them. Both stop at the same places; the errors may be others.
-/

namespace Fallible
variable {ε ε' α β γ δ σ τ : Type}

/-- `x` ends in the state in which `y` ends with a value, if `y` ends. -/
def Imitates (x : Except ε σ) (y : Except ε' (α × σ)) : Prop :=
  x.toOption = y.toOption.map Prod.snd

theorem imitates_ok (s : σ) (a : α) : Imitates (.ok s : Except ε σ) (.ok (a, s) : Except ε' (α × σ)) :=
  rfl

/-- What both do first. -/
theorem imitates_bind_of_same {x : Except ε γ} {f : γ → Except ε σ} {g : γ → Except ε (α × σ)}
    (h : ∀ c, Imitates (f c) (g c)) : Imitates (x >>= f) (x >>= g) := by
  cases x with
  | error e => rfl
  | ok c => exact h c

/-- What both do first, each in its own way. -/
theorem imitates_bind_of_isOk {x : Except ε γ} {y : Except ε' δ} {f : γ → Except ε σ}
    {g : δ → Except ε' (α × σ)} (hxy : x.isOk = y.isOk) (h : ∀ c d, Imitates (f c) (g d)) :
    Imitates (x >>= f) (y >>= g) := by
  cases x with
  | error e =>
      cases y with
      | error e' => rfl
      | ok d => cases hxy
  | ok c =>
      cases y with
      | error e' => cases hxy
      | ok d => exact h c d

theorem Imitates.bind {x : Except ε σ} {y : Except ε' (α × σ)} {f : σ → Except ε τ}
    {g : α × σ → Except ε' (β × τ)} (hxy : Imitates x y) (h : ∀ a s, Imitates (f s) (g (a, s))) :
    Imitates (x >>= f) (y >>= g) := by
  cases y with
  | error e' =>
      cases x with
      | error e => rfl
      | ok s => cases hxy
  | ok result =>
      cases x with
      | error e => cases hxy
      | ok s =>
          obtain rfl := Option.some.inj hxy
          exact h result.1 result.2

/-- What is only made of a value. -/
theorem Imitates.map_value {x : Except ε σ} {y : Except ε' (α × σ)} {g : α × σ → Except ε' (β × σ)}
    (hxy : Imitates x y) (f : α → β) (hg : ∀ a s, g (a, s) = .ok (f a, s)) :
    Imitates x (y >>= g) := by
  cases y with
  | error e' => exact hxy
  | ok result =>
      rw [ok_bind, hg]
      exact hxy

theorem Imitates.isOk {x : Except ε σ} {y : Except ε' (α × σ)} (h : Imitates x y) :
    x.isOk = y.isOk := by
  cases x with
  | error e =>
      cases y with
      | error e' => rfl
      | ok result => cases h
  | ok s =>
      cases y with
      | error e' => cases h
      | ok result => rfl

theorem isOk_bind_congr {x : Except ε γ} {f : γ → Except ε α} {g : γ → Except ε β}
    (h : ∀ c, (f c).isOk = (g c).isOk) : (x >>= f).isOk = (x >>= g).isOk := by
  cases x with
  | error e => rfl
  | ok c => exact h c

theorem isOk_bind_ok (x : Except ε γ) (f : γ → α) : (x >>= fun c => .ok (f c)).isOk = x.isOk := by
  cases x <;> rfl

end Fallible

/-! Loops over a list which know the index of each element and stop at the first error. -/

namespace Indexed
open Fallible
variable {ε α β : Type}

def forEach (check : Nat → α → Except ε Unit) : Nat → List α → Except ε Unit
  | _, [] => .ok ()
  | index, a :: as => do
    check index a
    forEach check (index + 1) as

theorem forEach_eq_ok {check : Nat → α → Except ε Unit} {first : Nat} {as : List α} :
    forEach check first as = .ok () ↔
      ∀ index a, as[index]? = some a → check (first + index) a = .ok () := by
  induction as generalizing first with
  | nil => simp [forEach]
  | cons a as ih =>
    simp only [forEach, bind_eq_ok, ih]
    constructor
    · rintro ⟨_, ha, has⟩ (_ | index) a' hget
      · obtain rfl := Option.some.inj hget
        exact ha
      · rw [← Nat.add_assoc, Nat.add_right_comm]
        exact has index a' hget
    · intro h
      refine ⟨(), h 0 a rfl, fun index a' hget => ?_⟩
      rw [Nat.add_assoc, Nat.add_comm 1 index]
      exact h (index + 1) a' hget

theorem forEach_of_forall {check : Nat → α → Except ε Unit} {first : Nat} {as : List α}
    (h : ∀ index, ∀ a ∈ as, check index a = .ok ()) : forEach check first as = .ok () :=
  forEach_eq_ok.mpr fun _ a hget => h _ a (List.mem_of_getElem? hget)

theorem exists_of_forEach {check : Nat → α → Except ε Unit} {first : Nat} {as : List α} {a : α}
    (h : forEach check first as = .ok ()) (ha : a ∈ as) : ∃ index, check index a = .ok () := by
  obtain ⟨index, hget⟩ := List.mem_iff_getElem?.mp ha
  exact ⟨_, forEach_eq_ok.mp h index a hget⟩

end Indexed
