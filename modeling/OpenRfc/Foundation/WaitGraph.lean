import Mathlib.Data.Fintype.Card
import Mathlib.Order.WellFounded

/-!
Wait-for graphs: relations without a cycle, how they grow, and the depth-first search over a
list of edges which decides whether a new edge would close a cycle.
-/

universe u

namespace WaitGraph
variable {α : Type u}

/-- No element waits, through others, for itself. -/
def Acyclic (R : α → α → Prop) : Prop := ∀ x, ¬ Relation.TransGen R x x

theorem Acyclic.mono {R S : α → α → Prop} (h : Acyclic S) (hRS : ∀ x y, R x y → S x y) :
    Acyclic R :=
  fun x hx => h x (Relation.TransGen.mono hRS x x hx)

/-- Walks with one more edge which do not need it, or can be split at it. -/
theorem transGen_insert {R : α → α → Prop} {a b x y : α}
    (h : Relation.TransGen (fun u v => R u v ∨ u = a ∧ v = b) x y) :
    Relation.TransGen R x y ∨ Relation.ReflTransGen R x a ∧ Relation.ReflTransGen R b y := by
  induction h with
  | single h =>
      rcases h with h | ⟨rfl, rfl⟩
      · exact .inl (.single h)
      · exact .inr ⟨.refl, .refl⟩
  | tail _ h ih =>
      rcases h with h | ⟨rfl, rfl⟩
      · rcases ih with ih | ⟨h1, h2⟩
        · exact .inl (ih.tail h)
        · exact .inr ⟨h1, h2.tail h⟩
      · rcases ih with ih | ⟨h1, _⟩
        · exact .inr ⟨ih.to_reflTransGen, .refl⟩
        · exact .inr ⟨h1, .refl⟩

/-- An edge whose target does not reach its source closes no cycle. -/
theorem Acyclic.insert {R : α → α → Prop} (h : Acyclic R) {a b : α}
    (hn : ¬ Relation.ReflTransGen R b a) : Acyclic fun u v => R u v ∨ u = a ∧ v = b := by
  intro x hx
  rcases transGen_insert hx with hx | ⟨h1, h2⟩
  · exact h x hx
  · exact hn (h2.trans h1)

/-- Where a relation without a cycle relates the members of a finite set, one of them waits
for no other. -/
theorem Acyclic.exists_idle [Finite α] {R : α → α → Prop} (h : Acyclic R) {p : α → Prop} {x : α}
    (hx : p x) : ∃ y, p y ∧ ∀ z, R y z → ¬ p z := by
  have hwf : WellFounded (Relation.TransGen (Function.swap R)) := by
    have htrans : IsTrans α (Relation.TransGen (Function.swap R)) :=
      ⟨fun _ _ _ => Relation.TransGen.trans⟩
    have hirrefl : Std.Irrefl (Relation.TransGen (Function.swap R)) := by
      refine ⟨fun y hy => h y ?_⟩
      rw [Relation.transGen_swap] at hy
      exact hy
    exact Finite.wellFounded_of_trans_of_irrefl _
  obtain ⟨y, hy, hmin⟩ := hwf.has_min {y | p y} ⟨x, hx⟩
  exact ⟨y, hy, fun z hz hpz => hmin z hpz (.single hz)⟩

section Search
variable [DecidableEq α]

def Edge (edges : List (α × α)) (x y : α) : Prop := (x, y) ∈ edges

def successors (edges : List (α × α)) (x : α) : List α :=
  (edges.filter fun e => e.1 = x).map Prod.snd

/-- Depth-first search for a goal, with a stack and the elements which have been visited. -/
def search (edges : List (α × α)) (goal : α) : Nat → List α → List α → Bool
  | _, [], _ => false
  | 0, _ :: _, _ => false
  | fuel + 1, current :: pending, visited =>
    if current = goal then true
    else if current ∈ visited then search edges goal fuel pending visited
    else search edges goal fuel ((successors edges current).reverse ++ pending)
      (current :: visited)

theorem mem_successors {edges : List (α × α)} {x y : α} :
    y ∈ successors edges x ↔ Edge edges x y := by
  simp [successors, Edge]

theorem search_sound {edges : List (α × α)} {goal : α} {fuel : Nat} {pending visited : List α}
    (h : search edges goal fuel pending visited = true) :
    ∃ x ∈ pending, Relation.ReflTransGen (Edge edges) x goal := by
  induction fuel generalizing pending visited with
  | zero => cases pending <;> cases h
  | succ fuel ih =>
      cases pending with
      | nil => cases h
      | cons current pending =>
          rw [search] at h
          split at h
          · rename_i hc
            exact ⟨current, List.mem_cons_self, hc ▸ .refl⟩
          · split at h
            · obtain ⟨x, hx, hr⟩ := ih h
              exact ⟨x, List.mem_cons_of_mem _ hx, hr⟩
            · obtain ⟨x, hx, hr⟩ := ih h
              rcases List.mem_append.mp hx with hx | hx
              · rw [List.mem_reverse, mem_successors] at hx
                exact ⟨current, List.mem_cons_self, .head hx hr⟩
              · exact ⟨x, List.mem_cons_of_mem _ hx, hr⟩

/-- The edges which the search has not followed. -/
def unvisited (edges : List (α × α)) (visited : List α) : Nat :=
  edges.countP fun e => e.1 ∉ visited

theorem unvisited_cons (edges : List (α × α)) {x : α} {visited : List α} (hx : x ∉ visited) :
    unvisited edges visited = (successors edges x).length + unvisited edges (x :: visited) := by
  unfold unvisited successors
  rw [List.length_map, ← List.countP_eq_length_filter]
  induction edges with
  | nil => rfl
  | cons e edges ih =>
      simp only [List.countP_cons, ih]
      have he : (if e.1 ∉ visited then 1 else 0) =
          (if e.1 = x then 1 else 0) + if e.1 ∉ x :: visited then 1 else 0 := by
        by_cases he : e.1 = x
        · simp [he, hx]
        · simp [he]
      simp only [decide_eq_true_eq]
      omega

/-- A search which ends without success has visited all that its stack reaches. -/
theorem search_complete {edges : List (α × α)} {goal : α} {fuel : Nat}
    {pending visited : List α} (hf : pending.length + unvisited edges visited ≤ fuel)
    (hclosed : ∀ x ∈ visited, ∀ y, Edge edges x y → y ∈ visited ∨ y ∈ pending)
    (hgoal : goal ∉ visited) (h : search edges goal fuel pending visited = false) :
    ∀ x, x ∈ visited ∨ x ∈ pending → ¬ Relation.ReflTransGen (Edge edges) x goal := by
  induction fuel generalizing pending visited with
  | zero =>
      cases pending with
      | cons current pending =>
          rw [List.length_cons] at hf
          omega
      | nil => exact closed_avoids hclosed hgoal
  | succ fuel ih =>
      cases pending with
      | nil => exact closed_avoids hclosed hgoal
      | cons current pending =>
          rw [search] at h
          rw [List.length_cons] at hf
          split at h
          · cases h
          · rename_i hc
            split at h
            · rename_i hv
              have hi := ih (by omega) (fun x hx y hy => by
                rcases hclosed x hx y hy with hy | hy
                · exact .inl hy
                · rcases List.mem_cons.mp hy with rfl | hy
                  · exact .inl hv
                  · exact .inr hy) hgoal h
              rintro x (hx | hx)
              · exact hi x (.inl hx)
              · rcases List.mem_cons.mp hx with rfl | hx
                · exact hi x (.inl hv)
                · exact hi x (.inr hx)
            · rename_i hv
              rw [unvisited_cons edges hv] at hf
              have hi := ih (by simp; omega) (fun x hx y hy => by
                rcases List.mem_cons.mp hx with rfl | hx
                · exact .inr (by simp [mem_successors, hy])
                · rcases hclosed x hx y hy with hy | hy
                  · exact .inl (List.mem_cons_of_mem _ hy)
                  · rcases List.mem_cons.mp hy with rfl | hy
                    · exact .inl List.mem_cons_self
                    · exact .inr (by simp [hy])) (by simp [Ne.symm hc, hgoal]) h
              rintro x (hx | hx)
              · exact hi x (.inl (List.mem_cons_of_mem _ hx))
              · rcases List.mem_cons.mp hx with rfl | hx
                · exact hi x (.inl List.mem_cons_self)
                · exact hi x (.inr (by simp [hx]))
where
  closed_avoids {visited : List α}
      (hclosed : ∀ x ∈ visited, ∀ y, Edge edges x y → y ∈ visited ∨ y ∈ ([] : List α))
      (hgoal : goal ∉ visited) (x : α) (hx : x ∈ visited ∨ x ∈ ([] : List α)) :
      ¬ Relation.ReflTransGen (Edge edges) x goal := by
    intro hr
    have hx : x ∈ visited := hx.resolve_right List.not_mem_nil
    have hall : ∀ y, Relation.ReflTransGen (Edge edges) x y → y ∈ visited := by
      intro y hy
      induction hy with
      | refl => exact hx
      | tail _ he ih => exact (hclosed _ ih _ he).resolve_right List.not_mem_nil
    exact hgoal (hall goal hr)

/-- The search from one element decides whether it reaches the goal. -/
theorem search_iff {edges : List (α × α)} {goal x : α} :
    search edges goal (1 + edges.length) [x] [] = true ↔
      Relation.ReflTransGen (Edge edges) x goal := by
  constructor
  · intro h
    obtain ⟨y, hy, hr⟩ := search_sound h
    rw [List.mem_singleton] at hy
    exact hy ▸ hr
  · intro hr
    cases h : search edges goal (1 + edges.length) [x] [] with
    | true => rfl
    | false =>
        have hf : [x].length + unvisited edges [] ≤ 1 + edges.length := by
          have : unvisited edges [] ≤ edges.length := List.countP_le_length
          simp only [List.length_singleton]
          omega
        exact absurd hr (search_complete hf (by simp) (by simp) h x (.inr (by simp)))

end Search
end WaitGraph
