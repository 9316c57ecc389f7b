import OpenRfc.TypeGraph.FinishOrder

/-!
The search backwards collects the strongly connected components.
-/

namespace OpenRfc.TypeGraph
open Condensation Relation

variable {adjacency : Adjacency}

theorem Adjacency.mem_sources {source node : Nat} :
    source ∈ adjacency.sources node ↔ adjacency.Edge source node := by
  simp only [sources, List.mem_flatMap, List.mem_range, List.mem_filterMap]
  constructor
  · rintro ⟨source', -, target, htarget, hsome⟩
    split at hsome
    · rename_i heq
      obtain rfl : source' = source := by simpa using hsome
      exact heq ▸ htarget
    · cases hsome
  · exact fun hedge => ⟨source, hedge.source_lt, node, hedge, if_pos rfl⟩

namespace Collection
variable {base : Nat → Option Nat} {start component : Nat} {s next : Collection}

def collected (s : Collection) : List Nat := s.members ++ s.stack

structure Valid (adjacency : Adjacency) (base : Nat → Option Nat) (start component : Nat)
    (s : Collection) : Prop where
  assigned : ∀ node, s.componentByNode node =
    if node ∈ s.collected then some component else base node
  new : ∀ node ∈ s.collected, base node = none
  distinct : s.collected.Nodup
  component : ∀ node ∈ s.collected, node < adjacency.size ∧ Mutual adjacency.Edge node start
  start : start ∈ s.collected

def rest (adjacency : Adjacency) (s : Collection) : Nat :=
  s.stack.length + Loop.outstanding (fun _ => 1) adjacency.size (s.componentByNode · = none)

section Assign
variable {source node : Nat}

theorem assign_assigned (s : Collection) (source node : Nat) :
    (s.assign component source).componentByNode node =
      if node = source ∧ s.componentByNode source = none then some component
      else s.componentByNode node := by
  by_cases hnone : s.componentByNode source = none
  · by_cases heq : node = source <;> simp [assign, hnone, heq]
  · simp [assign, hnone]

theorem assign_kept (h : s.componentByNode node ≠ none) (source : Nat) :
    (s.assign component source).componentByNode node ≠ none := by
  rw [assign_assigned]
  split
  · exact Option.some_ne_none component
  · exact h

theorem assign_source (s : Collection) (source : Nat) :
    (s.assign component source).componentByNode source ≠ none := by
  rw [assign_assigned]
  split
  · exact Option.some_ne_none component
  · rename_i h
    exact fun hnone => h ⟨rfl, hnone⟩

theorem assign_members (s : Collection) (source : Nat) :
    (s.assign component source).members = s.members := by
  rw [assign]
  split <;> rfl

theorem assign_rest (hsource : source < adjacency.size) :
    (s.assign component source).rest adjacency = s.rest adjacency := by
  rw [assign]
  split
  · rename_i hnone
    have hless : Loop.outstanding (fun _ => 1) adjacency.size (s.componentByNode · = none) = _ :=
      Loop.outstanding_eq_add (q := fun node =>
          Function.update s.componentByNode source (some component) node = none) hsource hnone
        fun i => by by_cases heq : i = source <;> simp [heq, hnone]
    simp only [rest, hless, List.length_cons]
    omega
  · rfl

/-- A source of a collected node which is in no component is in the one of the start. -/
theorem assign_valid (hs : s.Valid adjacency base start component)
    (hmutual : ∀ node < adjacency.size, base node = none →
      ReflTransGen adjacency.Edge node start → Mutual adjacency.Edge node start)
    (hnode : node ∈ s.collected) (hedge : adjacency.Edge source node) :
    (s.assign component source).Valid adjacency base start component := by
  by_cases hnone : s.componentByNode source = none
  · have hnew : source ∉ s.collected ∧ base source = none := by
      have hassigned := hs.assigned source
      rw [hnone] at hassigned
      split at hassigned
      · cases hassigned
      · exact ⟨‹_›, hassigned.symm⟩
    have hmem : ∀ other, other ∈ (s.assign component source).collected ↔
        other = source ∨ other ∈ s.collected := by
      intro other
      simp only [collected, assign, if_pos hnone, List.mem_append, List.mem_cons]
      tauto
    have hreach := (hs.component node hnode).2.1
    constructor
    · intro other
      rw [assign_assigned]
      by_cases heq : other = source
      · simp [heq, hnone, hmem]
      · simp [heq, hmem, hs.assigned other]
    · intro other hother
      rcases (hmem other).mp hother with rfl | hother
      · exact hnew.2
      · exact hs.new other hother
    · rw [collected, assign, if_pos hnone]
      exact List.nodup_middle.mpr (List.nodup_cons.mpr ⟨hnew.1, hs.distinct⟩)
    · intro other hother
      rcases (hmem other).mp hother with rfl | hother
      · exact ⟨hedge.source_lt, hmutual other hedge.source_lt hnew.2 (.head hedge hreach)⟩
      · exact hs.component other hother
    · exact (hmem start).mpr (.inr hs.start)
  · rw [assign, if_neg hnone]
    exact hs

end Assign

/-- All the sources of a node are assigned. -/
theorem assignAll_valid {node : Nat} {sources : List Nat}
    (hmutual : ∀ node < adjacency.size, base node = none →
      ReflTransGen adjacency.Edge node start → Mutual adjacency.Edge node start)
    (hedges : ∀ source ∈ sources, adjacency.Edge source node)
    (hs : s.Valid adjacency base start component) (hnode : node ∈ s.members) :
    ∃ t, sources.foldl (assign component) s = t ∧ t.Valid adjacency base start component ∧
      t.members = s.members ∧ t.rest adjacency = s.rest adjacency ∧
      (∀ other, s.componentByNode other ≠ none → t.componentByNode other ≠ none) ∧
      ∀ source ∈ sources, t.componentByNode source ≠ none := by
  induction sources generalizing s with
  | nil => exact ⟨s, rfl, hs, rfl, rfl, fun _ => id, by simp⟩
  | cons source sources ih =>
      obtain ⟨hedge, hedges⟩ := List.forall_mem_cons.mp hedges
      have hvalid := assign_valid hs hmutual (List.mem_append_left _ hnode) hedge
      obtain ⟨t, ht, htvalid, hmembers, hrest, hkept, hall⟩ := ih hedges hvalid
        (by rw [assign_members]; exact hnode)
      refine ⟨t, ht, htvalid, hmembers.trans (assign_members s source),
        hrest.trans (assign_rest hedge.source_lt),
        fun other hother => hkept other (assign_kept hother source), ?_⟩
      exact List.forall_mem_cons.mpr ⟨hkept source (assign_source s source), hall⟩

/-- The sources of the members have components. -/
def Closed (adjacency : Adjacency) (s : Collection) : Prop :=
  ∀ node ∈ s.members, ∀ source, adjacency.Edge source node → s.componentByNode source ≠ none

theorem step_valid (hs : s.Valid adjacency base start component)
    (hclosed : s.Closed adjacency)
    (hmutual : ∀ node < adjacency.size, base node = none →
      ReflTransGen adjacency.Edge node start → Mutual adjacency.Edge node start)
    (hstep : s.step adjacency component = some next) :
    (next.Valid adjacency base start component ∧ next.Closed adjacency) ∧
      next.rest adjacency < s.rest adjacency := by
  cases hstack : s.stack with
  | nil => simp [step, hstack] at hstep
  | cons node stack =>
      have hcollected : (s.members ++ [node]) ++ stack = s.collected := by
        rw [collected, hstack, List.append_assoc, List.singleton_append]
      have hmoved : Valid adjacency base start component
          { s with stack, members := s.members ++ [node] } := by
        obtain ⟨hassigned, hnew, hdistinct, hcomponent, hstart⟩ := hs
        rw [← hcollected] at hassigned hnew hdistinct hcomponent hstart
        exact ⟨hassigned, hnew, hdistinct, hcomponent, hstart⟩
      obtain ⟨t, ht, hvalid, hmembers, hrest, hkept, hall⟩ := assignAll_valid hmutual
        (fun source hsource => Adjacency.mem_sources.mp hsource) hmoved
        (List.mem_append_right _ List.mem_cons_self)
      obtain rfl : t = next := by simpa [step, hstack, ht] using hstep
      refine ⟨⟨hvalid, fun member hmember source hedge => ?_⟩, ?_⟩
      · rw [hmembers, List.mem_append, List.mem_singleton] at hmember
        rcases hmember with hmember | rfl
        · exact hkept source (hclosed member hmember source hedge)
        · exact hall source (Adjacency.mem_sources.mpr hedge)
      · rw [hrest]
        simp only [rest, hstack, List.length_cons]
        omega

/-- The nodes which are collected from a start are those of its component. -/
theorem run_spec (hstart : start < adjacency.size) (hnew : base start = none)
    (hsaturated : ∀ a b, Mutual adjacency.Edge a b → base a ≠ none → base b ≠ none)
    (hmutual : ∀ node < adjacency.size, base node = none →
      ReflTransGen adjacency.Edge node start → Mutual adjacency.Edge node start) :
    ∃ t, Loop.run (step adjacency component) adjacency.size
        ⟨[start], [], Function.update base start (some component)⟩ = t ∧
      t.members.Nodup ∧ (∀ node, node ∈ t.members ↔ Mutual adjacency.Edge node start) ∧
      ∀ node, t.componentByNode node =
        if node ∈ t.members then some component else base node := by
  have hfirst : Valid adjacency base start component
      ⟨[start], [], Function.update base start (some component)⟩ := by
    constructor
    · intro node
      by_cases heq : node = start <;> simp [collected, heq]
    all_goals simp [collected, hnew, hstart, Mutual.refl]
  have hfuel : rest adjacency ⟨[start], [], Function.update base start (some component)⟩ ≤
      adjacency.size := by
    have hall : Loop.outstanding (fun _ => 1) adjacency.size (base · = none) ≤ adjacency.size :=
      Loop.outstanding_one_le
    have hless : Loop.outstanding (fun _ => 1) adjacency.size (base · = none) = _ :=
      Loop.outstanding_eq_add (q := fun node =>
          Function.update base start (some component) node = none) hstart hnew
        fun i => by by_cases heq : i = start <;> simp [heq, hnew]
    rw [hless] at hall
    simpa [rest] using hall
  obtain ⟨⟨hvalid, hclosed⟩, hend⟩ := Loop.run_spec
    (fun s next (hs : s.Valid adjacency base start component ∧ s.Closed adjacency) hstep =>
      step_valid hs.1 hs.2 hmutual hstep)
    ⟨hfirst, by simp [Closed]⟩ hfuel
  refine ⟨_, rfl, ?_⟩
  generalize Loop.run (step adjacency component) adjacency.size
    ⟨[start], [], Function.update base start (some component)⟩ = t at hvalid hclosed hend
  have hstack : t.stack = [] := by
    cases hstack : t.stack with
    | nil => rfl
    | cons node stack => simp [step, hstack] at hend
  have hcollected : t.collected = t.members := by rw [collected, hstack, List.append_nil]
  obtain ⟨hassigned, hunassigned, hdistinct, hcomponent, hmember⟩ := hvalid
  rw [hcollected] at hassigned hunassigned hdistinct hcomponent hmember
  refine ⟨hdistinct, fun node => ⟨fun hnode => (hcomponent node hnode).2, fun hnode => ?_⟩,
    hassigned⟩
  -- Backwards along a path to the start, which stays in the component.
  obtain ⟨hreach, hback⟩ := hnode
  induction hreach using ReflTransGen.head_induction_on with
  | refl => exact hmember
  | head hedge hreach ih =>
      have hsource := hclosed _ (ih (hback.tail hedge)) _ hedge
      by_contra hnot
      rw [hassigned, if_neg hnot] at hsource
      exact hsaturated _ start ⟨.head hedge hreach, hback⟩ hsource hnew

end Collection
end OpenRfc.TypeGraph
