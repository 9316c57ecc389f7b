import Mathlib.Data.List.Nodup
import Mathlib.Algebra.Order.BigOperators.Group.List
import Mathlib.Algebra.GroupWithZero.Nat

/-!
A map which iterates over its entries in insertion order: overwriting an entry keeps its
place, deleting it and setting it again moves it to the end. No key occurs twice.
-/

universe u v

structure OrderedMap (κ : Type u) (ν : Type v) where
  entries : List (κ × ν)
  nodup : (entries.map Prod.fst).Nodup

namespace OrderedMap
variable {κ : Type u} {ν : Type v}

def empty : OrderedMap κ ν := ⟨[], List.nodup_nil⟩

def size (m : OrderedMap κ ν) : Nat := m.entries.length

/-- The entries which satisfy a predicate, in their order. -/
def retain (m : OrderedMap κ ν) (p : κ → ν → Bool) : OrderedMap κ ν :=
  ⟨m.entries.filter fun e => p e.1 e.2, m.nodup.sublist (List.filter_sublist.map _)⟩

/-- The oldest entry which satisfies a predicate. -/
def oldest (m : OrderedMap κ ν) (p : κ → ν → Bool) : Option κ :=
  (m.entries.find? fun e => p e.1 e.2).map Prod.fst

/-- The sum of a measure of the values. -/
def weight (m : OrderedMap κ ν) (f : ν → Nat) : Nat := (m.entries.map fun e => f e.2).sum

@[simp] theorem size_empty : (empty : OrderedMap κ ν).size = 0 := rfl

theorem size_retain_le (m : OrderedMap κ ν) (p : κ → ν → Bool) :
    (m.retain p).size ≤ m.size :=
  List.length_filter_le _ _

theorem weight_of_size_zero {m : OrderedMap κ ν} (f : ν → Nat) (h : m.size = 0) :
    m.weight f = 0 := by
  simp [weight, List.length_eq_zero_iff.mp h]

theorem exists_oldest {m : OrderedMap κ ν} (h : m.size ≠ 0) :
    ∃ k, m.oldest (fun _ _ => true) = some k := by
  obtain ⟨es, hes⟩ := m
  cases es with
  | nil => exact absurd rfl h
  | cons e es => exact ⟨e.1, by simp [oldest]⟩

variable [DecidableEq κ]

def get (m : OrderedMap κ ν) (k : κ) : Option ν :=
  (m.entries.find? fun e => e.1 = k).map Prod.snd

theorem get_eq_some_iff {m : OrderedMap κ ν} {k : κ} {v : ν} :
    m.get k = some v ↔ (k, v) ∈ m.entries := by
  obtain ⟨es, hes⟩ := m
  unfold get
  induction es with
  | nil => simp
  | cons e es ih =>
      simp only [List.map_cons, List.nodup_cons] at hes
      rw [List.find?_cons]
      by_cases he : e.1 = k
      · subst he
        have hne : (e.1, v) ∉ es := fun h => hes.1 (List.mem_map.mpr ⟨_, h, rfl⟩)
        simp only [decide_true, Option.map_some, Option.some.injEq, List.mem_cons, hne,
          or_false]
        constructor
        · intro h
          rw [← h]
        · intro h
          rw [← h]
      · have hne : (k, v) ≠ e := fun h => he (by rw [← h])
        simpa [he, hne] using ih hes.2

theorem get_eq_none_iff {m : OrderedMap κ ν} {k : κ} :
    m.get k = none ↔ k ∉ m.entries.map Prod.fst := by
  rw [get, Option.map_eq_none_iff, List.find?_eq_none, List.mem_map]
  constructor
  · rintro h ⟨e, he, hk⟩
    exact h e he (by simpa using hk)
  · intro h e he hk
    exact h ⟨e, he, by simpa using hk⟩

/-- The map with the same keys in the same order. -/
def adjust (m : OrderedMap κ ν) (f : κ → ν → ν) : OrderedMap κ ν :=
  ⟨m.entries.map fun e => (e.1, f e.1 e.2), by simpa [Function.comp_def] using m.nodup⟩

theorem get_adjust (m : OrderedMap κ ν) (f : κ → ν → ν) (k : κ) :
    (m.adjust f).get k = (m.get k).map (f k) := by
  obtain ⟨entries, hnodup⟩ := m
  simp only [adjust, get]
  clear hnodup
  induction entries with
  | nil => rfl
  | cons e entries ih =>
      rw [List.map_cons, List.find?_cons, List.find?_cons]
      by_cases he : e.1 = k
      · simp [he]
      · simpa [he] using ih

def delete (m : OrderedMap κ ν) (k : κ) : OrderedMap κ ν := m.retain fun k' _ => k' ≠ k

def set (m : OrderedMap κ ν) (k : κ) (v : ν) : OrderedMap κ ν :=
  if h : k ∈ m.entries.map Prod.fst then
    ⟨m.entries.map fun e => if e.1 = k then (k, v) else e, by
      have : (m.entries.map fun e => if e.1 = k then (k, v) else e).map Prod.fst =
          m.entries.map Prod.fst := by
        rw [List.map_map]
        apply List.map_congr_left
        intro e _
        by_cases he : e.1 = k <;> simp [he]
      rw [this]
      exact m.nodup⟩
  else
    ⟨m.entries ++ [(k, v)], by
      rw [List.map_append, List.nodup_append]
      refine ⟨m.nodup, List.nodup_singleton _, ?_⟩
      intro a ha b hb
      rw [List.map_cons, List.map_nil, List.mem_singleton] at hb
      rintro rfl
      subst hb
      exact h ha⟩

/-- Delete an entry and set it again. -/
def touch (m : OrderedMap κ ν) (k : κ) (v : ν) : OrderedMap κ ν := (m.delete k).set k v

@[simp] theorem get_empty (k : κ) : (empty : OrderedMap κ ν).get k = none := rfl

@[simp] theorem get_retain (m : OrderedMap κ ν) (p : κ → ν → Bool) (k : κ) :
    (m.retain p).get k = (m.get k).filter (p k) := by
  apply Option.ext
  intro v
  rw [get_eq_some_iff, Option.filter_eq_some_iff, get_eq_some_iff]
  simp [retain]

theorem get_delete (m : OrderedMap κ ν) (k k' : κ) :
    (m.delete k).get k' = if k' = k then none else m.get k' := by
  unfold delete
  rw [get_retain]
  by_cases h : k' = k <;> cases m.get k' <;> simp [h]

@[simp] theorem get_delete_self (m : OrderedMap κ ν) (k : κ) : (m.delete k).get k = none := by
  simp [get_delete]

theorem get_set (m : OrderedMap κ ν) (k k' : κ) (v : ν) :
    (m.set k v).get k' = if k' = k then some v else m.get k' := by
  apply Option.ext
  intro w
  rw [get_eq_some_iff]
  unfold set
  split
  · rename_i hk
    rw [List.mem_map]
    by_cases h : k' = k
    · subst h
      obtain ⟨e, he, hek⟩ := List.mem_map.mp hk
      simp only [if_true, Option.some.injEq]
      constructor
      · rintro ⟨x, -, hx⟩
        by_cases hxk : x.1 = k'
        · rw [if_pos hxk] at hx
          exact (Prod.ext_iff.mp hx).2
        · rw [if_neg hxk] at hx
          exact absurd (by rw [hx]) hxk
      · rintro rfl
        exact ⟨e, he, by rw [if_pos hek]⟩
    · rw [if_neg h, get_eq_some_iff]
      constructor
      · rintro ⟨x, hx, heq⟩
        by_cases hxk : x.1 = k
        · rw [if_pos hxk] at heq
          exact absurd (Prod.ext_iff.mp heq).1.symm h
        · rw [if_neg hxk] at heq
          exact heq ▸ hx
      · intro hmem
        exact ⟨_, hmem, by rw [if_neg h]⟩
  · rename_i hk
    rw [List.mem_append, List.mem_singleton, ← get_eq_some_iff (m := m)]
    by_cases h : k' = k
    · subst h
      simp [get_eq_none_iff.mpr hk, eq_comm]
    · simp [h]

@[simp] theorem get_set_self (m : OrderedMap κ ν) (k : κ) (v : ν) :
    (m.set k v).get k = some v := by
  simp [get_set]

theorem get_touch (m : OrderedMap κ ν) (k k' : κ) (v : ν) :
    (m.touch k v).get k' = if k' = k then some v else m.get k' := by
  unfold touch
  rw [get_set]
  split
  · rfl
  · rw [get_delete, if_neg ‹_›]

/-- Moving an entry to the end changes nothing but the order. -/
theorem get_touch_of_get {m : OrderedMap κ ν} {k : κ} {v : ν} (h : m.get k = some v) (k' : κ) :
    (m.touch k v).get k' = m.get k' := by
  rw [get_touch]
  split
  · subst_vars
    exact h.symm
  · rfl

theorem oldest_spec {m : OrderedMap κ ν} {p : κ → ν → Bool} {k : κ}
    (h : m.oldest p = some k) : ∃ v, m.get k = some v ∧ p k v = true := by
  unfold oldest at h
  rw [Option.map_eq_some_iff] at h
  obtain ⟨⟨k', v⟩, he, rfl⟩ := h
  have hp := List.find?_some he
  exact ⟨v, get_eq_some_iff.mpr (List.mem_of_find?_eq_some he), hp⟩

theorem size_delete_le (m : OrderedMap κ ν) (k : κ) : (m.delete k).size ≤ m.size :=
  m.size_retain_le _

/-- An entry and the others. -/
theorem entries_split {m : OrderedMap κ ν} {k : κ} {v : ν} (h : m.get k = some v) :
    ∃ pre post, m.entries = pre ++ (k, v) :: post ∧ (m.delete k).entries = pre ++ post := by
  obtain ⟨pre, post, heq⟩ := List.append_of_mem (get_eq_some_iff.mp h)
  refine ⟨pre, post, heq, ?_⟩
  have hnodup := m.nodup
  rw [heq, List.map_append, List.map_cons, List.nodup_middle, List.nodup_cons,
    ← List.map_append] at hnodup
  have keep : ∀ e ∈ pre ++ post, decide (e.1 ≠ k) = true := by
    intro e he
    rw [decide_eq_true_eq]
    rintro rfl
    exact hnodup.1 (List.mem_map.mpr ⟨e, he, rfl⟩)
  have hpre : pre.filter (fun e => decide (e.1 ≠ k)) = pre :=
    List.filter_eq_self.mpr fun e he => keep e (List.mem_append_left _ he)
  have hpost : post.filter (fun e => decide (e.1 ≠ k)) = post :=
    List.filter_eq_self.mpr fun e he => keep e (List.mem_append_right _ he)
  simp only [delete, retain, heq, List.filter_append, List.filter_cons, ne_eq,
    not_true_eq_false, decide_false, Bool.false_eq_true, if_false]
  exact congrArg₂ (· ++ ·) hpre hpost

theorem size_delete {m : OrderedMap κ ν} {k : κ} {v : ν} (h : m.get k = some v) :
    (m.delete k).size + 1 = m.size := by
  obtain ⟨pre, post, heq, hdel⟩ := entries_split h
  simp only [size, heq, hdel, List.length_append, List.length_cons]
  omega

theorem weight_delete {m : OrderedMap κ ν} {k : κ} {v : ν} (f : ν → Nat)
    (h : m.get k = some v) : (m.delete k).weight f + f v = m.weight f := by
  obtain ⟨pre, post, heq, hdel⟩ := entries_split h
  simp only [weight, heq, hdel, List.map_append, List.map_cons, List.sum_append, List.sum_cons]
  omega

theorem size_set_of_some {m : OrderedMap κ ν} {k : κ} {w : ν} (v : ν)
    (h : m.get k = some w) : (m.set k v).size = m.size := by
  have hk : k ∈ m.entries.map Prod.fst := List.mem_map_of_mem (get_eq_some_iff.mp h)
  simp [set, hk, size]

theorem entries_set_of_none {m : OrderedMap κ ν} {k : κ} (v : ν) (h : m.get k = none) :
    (m.set k v).entries = m.entries ++ [(k, v)] := by
  have hk := get_eq_none_iff.mp h
  simp [set, hk]

theorem size_set_of_none {m : OrderedMap κ ν} {k : κ} (v : ν) (h : m.get k = none) :
    (m.set k v).size = m.size + 1 := by
  simp [size, entries_set_of_none v h]

theorem weight_set_of_none {m : OrderedMap κ ν} {k : κ} (v : ν) (f : ν → Nat)
    (h : m.get k = none) : (m.set k v).weight f = m.weight f + f v := by
  simp [weight, entries_set_of_none v h]

theorem size_touch_of_some {m : OrderedMap κ ν} {k : κ} {w : ν} (v : ν)
    (h : m.get k = some w) : (m.touch k v).size = m.size := by
  unfold touch
  rw [size_set_of_none v (get_delete_self m k), size_delete h]

theorem weight_touch {m : OrderedMap κ ν} {k : κ} {v : ν} (f : ν → Nat)
    (h : m.get k = some v) : (m.touch k v).weight f = m.weight f := by
  unfold touch
  rw [weight_set_of_none v f (get_delete_self m k), weight_delete f h]

end OrderedMap
