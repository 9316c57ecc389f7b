import Mathlib.Data.List.Chain
import Mathlib.Order.Bounds.Defs

/-!
The depth of a relation below an element: how many members a chain which starts there has at most.
-/

universe u

namespace Depth
open Relation

variable {α : Type u} {R : α → α → Prop} {a b : α} {n m h : Nat}

/-- No chain from an element has more than `n` members. -/
def Within (R : α → α → Prop) : Nat → α → Prop
  | 0, _ => False
  | n + 1, a => ∀ b, R a b → Within R n b

theorem within_iff : Within R n a ↔
    ∀ path : List α, List.IsChain R (a :: path) → (a :: path).length ≤ n := by
  induction n generalizing a with
  | zero => exact iff_of_false id fun hpaths => absurd (hpaths [] (.singleton a)) (by simp)
  | succ n ih =>
      constructor
      · intro hwithin path hchain
        cases path with
        | nil => exact Nat.succ_le_succ (Nat.zero_le n)
        | cons b path =>
            obtain ⟨hstep, hrest⟩ := List.isChain_cons_cons.mp hchain
            exact Nat.succ_le_succ (ih.mp (hwithin b hstep) path hrest)
      · intro hpaths b hstep
        apply ih.mpr
        intro path hchain
        exact Nat.le_of_succ_le_succ (hpaths (b :: path) (List.isChain_cons_cons.mpr ⟨hstep, hchain⟩))

theorem Within.mono (hwithin : Within R n a) (hle : n ≤ m) : Within R m a := by
  rw [within_iff] at hwithin ⊢
  exact fun path hchain => (hwithin path hchain).trans hle

theorem Within.step (hwithin : Within R n a) (hstep : R a b) : Within R (n - 1) b := by
  cases n with
  | zero => exact hwithin.elim
  | succ n => exact hwithin b hstep

/-- A chain which comes back would never end. -/
theorem Within.not_cyclic (hwithin : Within R n a) : ¬TransGen R a a := by
  induction n generalizing a with
  | zero => exact hwithin.elim
  | succ n ih =>
      intro hcycle
      obtain ⟨b, hstep, hback⟩ := TransGen.head'_iff.mp hcycle
      exact ih (hwithin b hstep) (TransGen.tail' hback hstep)

theorem Within.reachable (hwithin : Within R n a) (hreach : ReflTransGen R a b) :
    Within R n b := by
  induction hreach with
  | refl => exact hwithin
  | tail _ hstep ih => exact (ih.step hstep).mono (Nat.sub_le n 1)

/-- A path of a number of members from one of some starts to an element. -/
inductive Walk (R : α → α → Prop) (start : α → Prop) : α → Nat → Prop
  | start {a : α} : start a → Walk R start a 1
  | step {a b : α} {n : Nat} : Walk R start a n → R a b → Walk R start b (n + 1)

section Walk
variable {start : α → Prop} {path : List α}

theorem walk_of_chain (hpath : (path ++ [a]).IsChain R)
    (hstart : ∀ first ∈ (path ++ [a]).head?, start first) :
    Walk R start a (path ++ [a]).length := by
  induction path using List.reverseRecOn generalizing a with
  | nil => exact .start (hstart a rfl)
  | append_singleton path last ih =>
      obtain ⟨hfront, -, hstep⟩ := List.isChain_append.mp hpath
      rw [List.length_append]
      refine .step (ih hfront fun first hfirst => hstart first ?_) (hstep last (by simp) a rfl)
      rw [List.head?_append, hfirst, Option.some_or, Option.mem_some]

theorem Walk.chain (h : Walk R start a n) :
    ∃ path : List α, (path ++ [a]).IsChain R ∧ (∀ first ∈ (path ++ [a]).head?, start first) ∧
      (path ++ [a]).length = n := by
  induction h with
  | start h => exact ⟨[], by simp, by simpa using h, rfl⟩
  | @step a b n _ hstep ih =>
      obtain ⟨path, hpath, hstart, hlength⟩ := ih
      refine ⟨path ++ [a], ?_, fun first hfirst => ?_, by rw [List.length_append, hlength]; rfl⟩
      · refine List.isChain_append.mpr ⟨hpath, .singleton b, fun last hlast next hnext => ?_⟩
        obtain rfl : a = last := by simpa using hlast
        obtain rfl : b = next := by simpa using hnext
        exact hstep
      · obtain ⟨c, hc⟩ : ∃ c, (path ++ [a]).head? = some c := by cases path <;> simp
        rw [List.head?_append, hc, Option.some_or] at hfirst
        exact hstart first (hc.trans hfirst)

/-- The longest path from the starts, if there is one at all. -/
theorem isGreatest_walk {n : Nat} (hupper : ∀ a k, Walk R start a k → k ≤ n)
    (hlower : n = 0 ∨ ∃ a, Walk R start a n) :
    IsGreatest {k | ∃ path : List α, (∀ first ∈ path.head?, start first) ∧ path.IsChain R ∧
      path.length = k} n := by
  constructor
  · rcases hlower with rfl | ⟨a, hwalk⟩
    · exact ⟨[], by simp, .nil, rfl⟩
    · obtain ⟨path, hpath, hstart, hlength⟩ := hwalk.chain
      exact ⟨path ++ [a], hstart, hpath, hlength⟩
  · rintro k ⟨path, hstart, hpath, rfl⟩
    rcases List.eq_nil_or_concat path with rfl | ⟨front, last, rfl⟩
    · exact Nat.zero_le n
    · rw [List.concat_eq_append] at hpath hstart ⊢
      exact hupper last _ (walk_of_chain hpath hstart)

end Walk

/-- The number of members of the longest chain. -/
structure IsHeight (R : α → α → Prop) (a : α) (h : Nat) : Prop where
  within : Within R h a
  least : ∀ n, Within R n a → h ≤ n

/-- The height of an element from those of its successors. -/
theorem isHeight_of_successors (hupper : ∀ b, R a b → ∃ k, IsHeight R b k ∧ k < h) (hpos : 0 < h)
    (hlower : h = 1 ∨ ∃ b, R a b ∧ IsHeight R b (h - 1)) : IsHeight R a h where
  within := by
    obtain ⟨k, rfl⟩ : ∃ k, h = k + 1 := ⟨h - 1, by omega⟩
    intro b hstep
    obtain ⟨i, hheight, hlt⟩ := hupper b hstep
    exact hheight.within.mono (Nat.le_of_lt_succ hlt)
  least := by
    intro n hwithin
    rcases hlower with rfl | ⟨b, hstep, hheight⟩
    · cases n with
      | zero => exact hwithin.elim
      | succ n => exact Nat.succ_le_succ (Nat.zero_le n)
    · have hle := hheight.least _ (hwithin.step hstep)
      cases n with
      | zero => exact hwithin.elim
      | succ n => omega

end Depth
