import OpenRfc.Foundation.Condensation
import OpenRfc.TypeGraph.Components

/-!
The depth-first search leaves every node, and in front of all that a component reaches stands one
of its nodes.
-/

namespace OpenRfc.TypeGraph
open Condensation

def Adjacency.Edge (adjacency : Adjacency) (source target : Nat) : Prop :=
  target ∈ adjacency.targets source

namespace Adjacency
variable {adjacency : Adjacency} {source target : Nat}

theorem Edge.target_lt (hedge : adjacency.Edge source target) : target < adjacency.size := by
  have hmem : target ∈ adjacency.neighbors.getD source [] := hedge
  rcases Nat.lt_or_ge source adjacency.neighbors.length with hlt | hge
  · rw [List.getD_eq_getElem _ _ hlt] at hmem
    exact adjacency.bounded _ (List.getElem_mem hlt) target hmem
  · rw [List.getD_eq_default _ _ hge] at hmem
    exact absurd hmem List.not_mem_nil

theorem Edge.source_lt (hedge : adjacency.Edge source target) : source < adjacency.size := by
  have hmem : target ∈ adjacency.neighbors.getD source [] := hedge
  rcases Nat.lt_or_ge source adjacency.neighbors.length with hlt | hge
  · exact hlt
  · rw [List.getD_eq_default _ _ hge] at hmem
    exact absurd hmem List.not_mem_nil

end Adjacency

namespace Visit
variable {adjacency : Adjacency} {s next : Visit} {start : Nat}

/-- The nodes on the path of the search. -/
def path (s : Visit) : List Nat := s.stack.map (·.node)

structure Valid (adjacency : Adjacency) (s : Visit) : Prop where
  visited : ∀ node, node ∈ s.visited ↔ node ∈ s.path ∨ node ∈ s.finish
  bounded : ∀ node ∈ s.visited, node < adjacency.size
  distinct : (s.path ++ s.finish).Nodup
  chain : s.path.IsChain fun upper lower => adjacency.Edge lower upper
  passed : ∀ frame ∈ s.stack, ∀ target ∈ (adjacency.targets frame.node).take frame.next,
    target ∈ s.visited
  closed : ∀ node ∈ s.finish, ∀ target, adjacency.Edge node target → target ∈ s.visited
  left : Left adjacency.Edge s.path s.finish

/-- The steps which the nodes on the path and those which have not been visited may still take. -/
def rest (adjacency : Adjacency) (s : Visit) : Nat :=
  (s.stack.map fun frame => (adjacency.targets frame.node).length - frame.next + 1).sum +
    Loop.outstanding (fun node => (adjacency.targets node).length + 1) adjacency.size
      (· ∉ s.visited)

section Advance
variable {frame : Frame} {stack : List Frame} {target : Nat}

/-- The frame in front has followed one more edge. -/
def advanced (frame : Frame) (stack : List Frame) : List Frame :=
  { frame with next := frame.next + 1 } :: stack

theorem path_advanced (hstack : s.stack = frame :: stack) :
    (advanced frame stack).map (·.node) = s.path := by
  rw [path, hstack, advanced, List.map_cons, List.map_cons]

theorem passed_advanced (hstack : s.stack = frame :: stack) (hs : s.Valid adjacency)
    (htarget : (adjacency.targets frame.node)[frame.next]? = some target) :
    ∀ upper ∈ advanced frame stack, ∀ node ∈ (adjacency.targets upper.node).take upper.next,
      node = target ∨ node ∈ s.visited := by
  have hpassed := hs.passed
  rw [hstack, List.forall_mem_cons] at hpassed
  intro upper hupper node hnode
  rcases List.mem_cons.mp hupper with rfl | hupper
  · rw [List.take_add_one, List.mem_append, htarget, Option.toList_some,
      List.mem_singleton] at hnode
    exact hnode.symm.imp_right (hpassed.1 node)
  · exact .inr (hpassed.2 upper hupper node hnode)

/-- The target of the edge has been visited. -/
theorem valid_advance (hstack : s.stack = frame :: stack) (hs : s.Valid adjacency)
    (htarget : (adjacency.targets frame.node)[frame.next]? = some target)
    (hvisited : target ∈ s.visited) :
    Valid adjacency { s with stack := advanced frame stack } := by
  have hpath : path { s with stack := advanced frame stack } = s.path := path_advanced hstack
  refine ⟨?_, hs.bounded, ?_, ?_, ?_, hs.closed, ?_⟩
  · rw [hpath]
    exact hs.visited
  · rw [hpath]
    exact hs.distinct
  · rw [hpath]
    exact hs.chain
  · intro upper hupper node hnode
    rcases passed_advanced hstack hs htarget upper hupper node hnode with rfl | hmem
    · exact hvisited
    · exact hmem
  · rw [hpath]
    exact hs.left

/-- A node is visited from the node in front, or as the first one of its path. -/
theorem valid_push (hs : s.Valid adjacency) (hpath : stack.map (·.node) = s.path)
    (hpassed : ∀ upper ∈ stack, ∀ node ∈ (adjacency.targets upper.node).take upper.next,
      node = target ∨ node ∈ s.visited)
    (hnew : target ∉ s.visited) (htarget : target < adjacency.size)
    (hchain : (target :: s.path).IsChain fun upper lower => adjacency.Edge lower upper) :
    Valid adjacency { s with stack := ⟨target, 0⟩ :: stack, visited := target :: s.visited } := by
  have hpath' : path { s with stack := ⟨target, 0⟩ :: stack, visited := target :: s.visited } =
      target :: s.path := by
    rw [← hpath]
    rfl
  constructor
  · intro node
    have hold := hs.visited node
    rw [hpath', List.mem_cons, List.mem_cons, hold, or_assoc]
  · exact List.forall_mem_cons.mpr ⟨htarget, hs.bounded⟩
  · rw [hpath', List.cons_append, List.nodup_cons, List.mem_append]
    exact ⟨fun hmem => hnew ((hs.visited target).mpr hmem), hs.distinct⟩
  · rw [hpath']
    exact hchain
  · intro upper hupper node hnode
    rcases List.mem_cons.mp hupper with rfl | hupper
    · exact absurd hnode (by simp)
    · exact List.mem_cons.mpr (hpassed upper hupper node hnode)
  · exact fun node hnode other hedge =>
      List.mem_cons_of_mem _ (hs.closed node hnode other hedge)
  · rw [hpath']
    intro node hnode
    rcases hs.left node hnode with ⟨other, hother, hmutual⟩ | hleads
    · exact .inl ⟨other, List.mem_cons_of_mem _ hother, hmutual⟩
    · exact .inr hleads

/-- The node in front has no edge left. -/
theorem valid_pop (hstack : s.stack = frame :: stack) (hs : s.Valid adjacency)
    (hdone : (adjacency.targets frame.node)[frame.next]? = none) :
    Valid adjacency { s with stack, finish := frame.node :: s.finish } := by
  have hpath : s.path = frame.node :: stack.map (·.node) := by rw [path, hstack, List.map_cons]
  obtain ⟨hvisited, hbounded, hdistinct, hchain, hpassed, hclosed, hleft⟩ := hs
  rw [hpath] at hdistinct hchain hleft
  simp only [hpath, List.mem_cons] at hvisited
  rw [hstack, List.forall_mem_cons] at hpassed
  rw [List.cons_append, List.nodup_cons, List.mem_append, not_or] at hdistinct
  have hedges : ∀ node ∈ frame.node :: s.finish, ∀ target, adjacency.Edge node target →
      target ∈ s.visited := by
    refine List.forall_mem_cons.mpr ⟨fun target hedge => hpassed.1 target ?_, hclosed⟩
    rw [List.take_of_length_le (List.getElem?_eq_none_iff.mp hdone)]
    exact hedge
  constructor
  · intro node
    rw [hvisited, List.mem_cons, path]
    tauto
  · exact hbounded
  · apply List.nodup_middle.mpr
    rw [List.nodup_cons, List.mem_append, not_or]
    exact hdistinct
  · exact hchain.tail
  · exact hpassed.2
  · exact hedges
  · refine hleft.cons hdistinct.1.2 hchain fun node hnode target hedge => ?_
    have hmem := (hvisited target).mp (hedges node hnode target hedge)
    rw [List.mem_cons]
    tauto

end Advance

theorem step_valid (hs : s.Valid adjacency) (hstep : s.step adjacency = some next) :
    next.Valid adjacency ∧ (∀ node ∈ s.visited, node ∈ next.visited) ∧
      rest adjacency next < rest adjacency s := by
  cases hstack : s.stack with
  | nil => simp [step, hstack] at hstep
  | cons frame stack =>
      have hpath : s.path = frame.node :: stack.map (·.node) := by
        rw [path, hstack, List.map_cons]
      cases htarget : (adjacency.targets frame.node)[frame.next]? with
      | none =>
          obtain rfl : _ = next := by simpa [step, hstack, htarget] using hstep
          refine ⟨valid_pop hstack hs htarget, fun _ => id, ?_⟩
          simp only [rest, hstack, List.map_cons, List.sum_cons]
          omega
      | some target =>
          have hmore := (List.getElem?_eq_some_iff.mp htarget).1
          have hedge : adjacency.Edge frame.node target := List.mem_of_getElem? htarget
          by_cases hvisited : target ∈ s.visited
          · obtain rfl : _ = next := by simpa [step, hstack, htarget, hvisited] using hstep
            refine ⟨valid_advance hstack hs htarget hvisited, fun _ => id, ?_⟩
            simp only [rest, hstack, List.map_cons, List.sum_cons]
            omega
          · obtain rfl : _ = next := by simpa [step, hstack, htarget, hvisited] using hstep
            have hchain := hs.chain
            rw [hpath] at hchain
            refine ⟨valid_push hs (path_advanced hstack) (passed_advanced hstack hs htarget)
              hvisited hedge.target_lt ?_, fun _ => List.mem_cons_of_mem _, ?_⟩
            · rw [hpath]
              exact hchain.cons_cons hedge
            · simp only [rest, hstack, List.map_cons, List.sum_cons,
                Loop.outstanding_mark hedge.target_lt hvisited]
              omega

theorem stack_of_end (hend : s.step adjacency = none) : s.stack = [] := by
  cases hstack : s.stack with
  | nil => rfl
  | cons frame stack =>
      simp only [step, hstack] at hend
      split at hend
      · split at hend <;> cases hend
      · cases hend

/-- Between the searches there is no path. -/
theorem start_valid (hs : s.Valid adjacency) (hempty : s.stack = [])
    (hstart : start < adjacency.size) :
    (s.start adjacency start).Valid adjacency ∧ (s.start adjacency start).stack = [] ∧
      ∀ node ∈ start :: s.visited, node ∈ (s.start adjacency start).visited := by
  rw [Visit.start]
  split
  · rename_i hvisited
    exact ⟨hs, hempty, List.forall_mem_cons.mpr ⟨hvisited, fun _ => id⟩⟩
  · rename_i hnew
    have hpath : s.path = [] := by rw [path, hempty, List.map_nil]
    have hfirst : Valid adjacency { s with stack := [⟨start, 0⟩], visited := start :: s.visited } := by
      refine valid_push hs ?_ (by simp) hnew hstart ?_
      · rw [hpath, List.map_nil]
      · rw [hpath]
        exact .singleton start
    have hfuel : rest adjacency { s with stack := [⟨start, 0⟩], visited := start :: s.visited } ≤
        adjacency.work := by
      have hall : Loop.outstanding _ adjacency.size (· ∉ s.visited) ≤ adjacency.work :=
        Loop.outstanding_le_sum
      rw [Loop.outstanding_mark hstart hnew] at hall
      simp only [rest, List.map_cons, List.map_nil, List.sum_cons, List.sum_nil]
      omega
    obtain ⟨⟨hvalid, hkept⟩, hend⟩ := Loop.run_spec
      (fun s' next (hs' : s'.Valid adjacency ∧ ∀ node ∈ start :: s.visited, node ∈ s'.visited)
          hstep => by
        obtain ⟨hvalid, hmore, hless⟩ := step_valid hs'.1 hstep
        exact ⟨⟨hvalid, fun node hnode => hmore node (hs'.2 node hnode)⟩, hless⟩)
      ⟨hfirst, fun _ => id⟩ hfuel
    exact ⟨hvalid, stack_of_end hend, hkept⟩

end Visit

variable (adjacency : Adjacency)

theorem visit_spec (size : Nat) (hsize : size ≤ adjacency.size) :
    ∃ s, (List.range size).foldl (Visit.start adjacency) ⟨[], [], []⟩ = s ∧
      s.Valid adjacency ∧ s.stack = [] ∧ ∀ node < size, node ∈ s.visited := by
  induction size with
  | zero =>
      refine ⟨_, rfl, ?_, rfl, by simp⟩
      constructor <;> simp [Visit.path, Left]
  | succ size ih =>
      obtain ⟨s, hs, hvalid, hstack, hvisited⟩ := ih (by omega)
      obtain ⟨hvalid', hstack', hvisited'⟩ := Visit.start_valid hvalid hstack hsize
      refine ⟨_, ?_, hvalid', hstack', fun node hnode => hvisited' node ?_⟩
      · rw [List.range_succ, List.foldl_append, hs, List.foldl_cons, List.foldl_nil]
      · rcases Nat.lt_succ_iff_lt_or_eq.mp hnode with hlt | rfl
        · exact List.mem_cons_of_mem _ (hvisited node hlt)
        · exact List.mem_cons_self

theorem finishOrder_spec :
    (finishOrder adjacency).Nodup ∧ (∀ node, node ∈ finishOrder adjacency ↔ node < adjacency.size) ∧
      FinishOrder adjacency.Edge (finishOrder adjacency) := by
  obtain ⟨s, hs, hvalid, hstack, hvisited⟩ := visit_spec adjacency adjacency.size le_rfl
  have hpath : s.path = [] := by rw [Visit.path, hstack, List.map_nil]
  obtain ⟨hmem, hbounded, hdistinct, -, -, -, hleft⟩ := hvalid
  rw [hpath] at hdistinct hleft
  simp only [hpath, List.not_mem_nil, false_or] at hmem
  rw [finishOrder, hs]
  refine ⟨hdistinct, fun node => ?_, fun node hnode => ?_⟩
  · rw [← hmem]
    exact ⟨hbounded node, hvisited node⟩
  · rcases hleft node hnode with ⟨other, hother, -⟩ | hleads
    · exact absurd hother List.not_mem_nil
    · exact hleads

end OpenRfc.TypeGraph
