import OpenRfc.TypeGraph.Collection

/-!
The components which the searches find are the strongly connected ones, and the cyclic ones are
those with a node on a cycle.
-/

namespace OpenRfc.TypeGraph
open Condensation Relation

variable {adjacency : Adjacency}

namespace Partition
variable {front : List Nat} {s : Partition} {start : Nat}

structure Valid (adjacency : Adjacency) (front : List Nat) (s : Partition) : Prop where
  assigned : ∀ node, s.componentByNode node ≠ none ↔
    ∃ earlier ∈ front, Mutual adjacency.Edge node earlier
  exact : ∀ a b, s.componentByNode a ≠ none →
    (s.componentByNode a = s.componentByNode b ↔ Mutual adjacency.Edge a b)
  bounded : ∀ node component, s.componentByNode node = some component →
    component < s.nodesByComponent.length
  members : ∀ component members, s.nodesByComponent[component]? = some members →
    members ≠ [] ∧ members.Pairwise (· < ·) ∧
      ∀ node, node ∈ members ↔ s.componentByNode node = some component

theorem Valid.saturated (hs : s.Valid adjacency front) {a b : Nat}
    (hmutual : Mutual adjacency.Edge a b) (ha : s.componentByNode a ≠ none) :
    s.componentByNode b ≠ none := by
  rw [← (hs.exact a b ha).mpr hmutual]
  exact ha

/-- The component of a node is added. -/
theorem Valid.extend (hs : s.Valid adjacency front) {t : Collection} (hnodup : t.members.Nodup)
    (hcomponent : ∀ node, node ∈ t.members ↔ Mutual adjacency.Edge node start)
    (hassigned : ∀ node, t.componentByNode node =
      if node ∈ t.members then some s.nodesByComponent.length else s.componentByNode node)
    (hfresh : ∀ node ∈ t.members, s.componentByNode node = none) :
    Valid adjacency (front ++ [start]) ⟨t.componentByNode,
      s.nodesByComponent ++ [t.members.insertionSort (· ≤ ·)]⟩ := by
  constructor
  · intro node
    simp only [hassigned, List.mem_append, List.mem_singleton]
    split
    · rename_i hnode
      exact iff_of_true (Option.some_ne_none _) ⟨start, .inr rfl, (hcomponent node).mp hnode⟩
    · rename_i hnode
      rw [hs.assigned]
      constructor
      · exact fun ⟨earlier, hearlier, hmutual⟩ => ⟨earlier, .inl hearlier, hmutual⟩
      · rintro ⟨earlier, hearlier | rfl, hmutual⟩
        · exact ⟨earlier, hearlier, hmutual⟩
        · exact absurd ((hcomponent node).mpr hmutual) hnode
  · intro a b ha
    simp only [hassigned] at ha ⊢
    by_cases hmemberA : a ∈ t.members <;> by_cases hmemberB : b ∈ t.members
    · simp only [if_pos hmemberA, if_pos hmemberB, true_iff]
      exact ((hcomponent a).mp hmemberA).trans ((hcomponent b).mp hmemberB).symm
    · simp only [if_pos hmemberA, if_neg hmemberB]
      refine iff_of_false (fun heq => ?_) fun hmutual => ?_
      · exact absurd (hs.bounded b _ heq.symm) (Nat.lt_irrefl _)
      · exact hmemberB ((hcomponent b).mpr (hmutual.symm.trans ((hcomponent a).mp hmemberA)))
    · simp only [if_neg hmemberA, if_pos hmemberB]
      refine iff_of_false (fun heq => ?_) fun hmutual => ?_
      · exact absurd (hs.bounded a _ heq) (Nat.lt_irrefl _)
      · exact hmemberA ((hcomponent a).mpr (hmutual.trans ((hcomponent b).mp hmemberB)))
    · simp only [if_neg hmemberA, if_neg hmemberB] at ha ⊢
      exact hs.exact a b ha
  · intro node component hsome
    simp only [hassigned] at hsome
    rw [List.length_append, List.length_singleton]
    split at hsome
    · cases hsome
      exact Nat.lt_succ_self _
    · exact Nat.lt_succ_of_lt (hs.bounded node component hsome)
  · intro component members hmembers
    rcases Nat.lt_trichotomy component s.nodesByComponent.length with hlt | rfl | hgt
    · rw [List.getElem?_append_left hlt] at hmembers
      obtain ⟨hne, hsorted, hmem⟩ := hs.members component members hmembers
      refine ⟨hne, hsorted, fun node => ?_⟩
      simp only [hmem, hassigned]
      by_cases hnode : node ∈ t.members
      · simp [hnode, hfresh node hnode, hlt.ne']
      · simp [hnode]
    · obtain rfl : t.members.insertionSort (· ≤ ·) = members := by simpa using hmembers
      refine ⟨?_, ?_, fun node => ?_⟩
      · exact List.ne_nil_of_mem
          ((List.mem_insertionSort _).mpr ((hcomponent start).mpr (.refl _ start)))
      · have hsorted := List.pairwise_insertionSort (· ≤ ·) t.members
        have hunique := (List.perm_insertionSort (· ≤ ·) t.members).nodup_iff.mpr hnodup
        exact hsorted.imp₂ (fun _ _ hle hne => lt_of_le_of_ne hle hne) hunique
      · simp only [List.mem_insertionSort, hassigned]
        by_cases hnode : node ∈ t.members
        · simp [hnode]
        · simp only [hnode, if_false, false_iff]
          exact fun hsome => Nat.lt_irrefl _ (hs.bounded node _ hsome)
    · rw [List.getElem?_eq_none (by simp; omega)] at hmembers
      cases hmembers

/-- The component of a node is known. -/
theorem Valid.skip (hs : s.Valid adjacency front) (hsome : s.componentByNode start ≠ none) :
    s.Valid adjacency (front ++ [start]) := by
  refine ⟨fun node => ?_, hs.exact, hs.bounded, hs.members⟩
  rw [hs.assigned]
  constructor
  · exact fun ⟨earlier, hearlier, hmutual⟩ =>
      ⟨earlier, List.mem_append_left _ hearlier, hmutual⟩
  · rintro ⟨earlier, hearlier, hmutual⟩
    rcases List.mem_append.mp hearlier with hearlier | hlast
    · exact ⟨earlier, hearlier, hmutual⟩
    · obtain rfl := List.mem_singleton.mp hlast
      obtain ⟨first, hfirst, hmutual'⟩ := (hs.assigned earlier).mp hsome
      exact ⟨first, hfirst, hmutual.trans hmutual'⟩

theorem collect_valid {rest : List Nat} (hs : s.Valid adjacency front)
    (horder : finishOrder adjacency = front ++ start :: rest) :
    (s.collect adjacency start).Valid adjacency (front ++ [start]) := by
  obtain ⟨-, hmem, hfinish⟩ := finishOrder_spec adjacency
  rw [horder] at hmem hfinish
  by_cases hnone : s.componentByNode start = none
  · have hstart : start < adjacency.size := (hmem start).mp (by simp)
    have hfront : start ∉ front := fun hearlier =>
      (hs.assigned start).mpr ⟨start, hearlier, .refl _ start⟩ hnone
    have hmutual : ∀ node < adjacency.size, s.componentByNode node = none →
        ReflTransGen adjacency.Edge node start → Mutual adjacency.Edge node start :=
      fun node hnode hnew hreach => hfinish.mutual hfront ((hmem node).mpr hnode) hreach
        fun earlier hearlier hmutual => (hs.assigned node).mpr ⟨earlier, hearlier, hmutual⟩ hnew
    have hsaturated : ∀ a b, Mutual adjacency.Edge a b → s.componentByNode a ≠ none →
        s.componentByNode b ≠ none := fun a b hmutual ha => hs.saturated hmutual ha
    obtain ⟨t, ht, hnodup, hcomponent, hassigned⟩ : ∃ t,
        Loop.run (Collection.step adjacency s.nodesByComponent.length) adjacency.size _ = t ∧ _ :=
      Collection.run_spec hstart hnone hsaturated hmutual
    rw [collect, if_pos hnone]
    simp only [ht]
    refine hs.extend hnodup hcomponent hassigned fun node hnode => ?_
    by_contra hsome
    exact hs.saturated ((hcomponent node).mp hnode) hsome hnone
  · rw [collect, if_neg hnone]
    exact hs.skip hnone

theorem collectAll_valid {rest : List Nat} (hs : s.Valid adjacency front)
    (horder : finishOrder adjacency = front ++ rest) :
    (rest.foldl (collect adjacency) s).Valid adjacency (finishOrder adjacency) := by
  induction rest generalizing front s with
  | nil =>
      rw [List.append_nil] at horder
      rw [horder]
      exact hs
  | cons start rest ih =>
      refine ih (collect_valid hs horder) ?_
      rw [horder, List.append_assoc, List.singleton_append]

end Partition

variable (adjacency)

theorem partition_valid : (partition adjacency).Valid adjacency (finishOrder adjacency) := by
  have hempty : Partition.Valid adjacency [] ⟨fun _ => none, []⟩ := by constructor <;> simp
  exact Partition.collectAll_valid hempty (List.nil_append _).symm

variable {adjacency}

theorem partition_assigned {node : Nat} (hnode : node < adjacency.size) :
    (partition adjacency).componentByNode node = some (componentByNode adjacency node) := by
  have hassigned := ((partition_valid adjacency).assigned node).mpr
    ⟨node, ((finishOrder_spec adjacency).2.1 node).mpr hnode, .refl _ node⟩
  obtain ⟨component, hsome⟩ := Option.ne_none_iff_exists'.mp hassigned
  rw [componentByNode, hsome, Option.getD_some]

theorem componentByNode_lt {node : Nat} (hnode : node < adjacency.size) :
    componentByNode adjacency node < (nodesByComponent adjacency).length :=
  (partition_valid adjacency).bounded node _ (partition_assigned hnode)

/-- Nodes have one component iff they reach each other. -/
theorem componentByNode_labels :
    Labels adjacency.Edge (· < adjacency.size) (componentByNode adjacency) where
  nodes := fun hedge => ⟨hedge.source_lt, hedge.target_lt⟩
  exact := by
    intro a b ha hb
    have hexact := (partition_valid adjacency).exact a b (by
      rw [partition_assigned ha]
      exact Option.some_ne_none _)
    rwa [partition_assigned ha, partition_assigned hb, Option.some.injEq] at hexact

theorem nodesByComponent_spec {component : Nat} {members : List Nat}
    (hmembers : (nodesByComponent adjacency)[component]? = some members) :
    members ≠ [] ∧ members.Pairwise (· < ·) ∧
      ∀ node, node ∈ members ↔
        node < adjacency.size ∧ componentByNode adjacency node = component := by
  obtain ⟨hne, hsorted, hmem⟩ := (partition_valid adjacency).members component members hmembers
  refine ⟨hne, hsorted, fun node => ?_⟩
  rw [hmem]
  constructor
  · intro hsome
    have hnode : node < adjacency.size := by
      obtain ⟨earlier, hearlier, hmutual⟩ := ((partition_valid adjacency).assigned node).mp (by
        rw [hsome]
        exact Option.some_ne_none _)
      have hlt := ((finishOrder_spec adjacency).2.1 earlier).mp hearlier
      rcases ReflTransGen.cases_head hmutual.1 with rfl | ⟨next, hedge, -⟩
      · exact hlt
      · exact hedge.source_lt
    refine ⟨hnode, ?_⟩
    rw [partition_assigned hnode] at hsome
    exact Option.some.inj hsome
  · rintro ⟨hnode, rfl⟩
    exact partition_assigned hnode

theorem isCyclic_iff {component : Nat} {members : List Nat}
    (hmembers : (nodesByComponent adjacency)[component]? = some members) :
    isCyclic adjacency members = true ↔ ∃ node ∈ members, TransGen adjacency.Edge node node := by
  obtain ⟨hne, hsorted, hmem⟩ := nodesByComponent_spec hmembers
  have hmutual : ∀ a ∈ members, ∀ b ∈ members, Mutual adjacency.Edge a b := by
    intro a ha b hb
    obtain ⟨ha, rfl⟩ := (hmem a).mp ha
    obtain ⟨hb, hsame⟩ := (hmem b).mp hb
    exact (componentByNode_labels.exact ha hb).mp hsame.symm
  match members, hne with
  | [node], _ =>
      simp only [isCyclic, decide_eq_true_eq, List.mem_singleton, exists_eq_left]
      constructor
      · exact fun hself => .single hself
      · intro hcycle
        obtain ⟨next, hedge, hback⟩ := cyclic_iff.mp hcycle
        have hnext : next ∈ [node] := by
          have hnode := (hmem node).mp List.mem_cons_self
          refine (hmem next).mpr ⟨hedge.target_lt, ?_⟩
          rw [← (componentByNode_labels.edge_on_cycle_iff hedge).mp hback]
          exact hnode.2
        obtain rfl := List.mem_singleton.mp hnext
        exact hedge
  | first :: second :: rest, _ =>
      have hlt : first < second := List.rel_of_pairwise_cons hsorted List.mem_cons_self
      have hcycle := (hmutual first List.mem_cons_self second (by simp)).cyclic hlt.ne
      exact iff_of_true rfl ⟨first, List.mem_cons_self, hcycle⟩

/-- A component is listed as cyclic iff one of its nodes is on a cycle. -/
theorem mem_cyclicComponents {component : Nat} :
    component ∈ cyclicComponents adjacency ↔
      component < (nodesByComponent adjacency).length ∧
      ∃ node < adjacency.size, componentByNode adjacency node = component ∧
        TransGen adjacency.Edge node node := by
  rw [cyclicComponents, List.mem_filter, List.mem_range, and_congr_right_iff]
  intro hlt
  have hmembers := List.getElem?_eq_getElem hlt
  obtain ⟨-, -, hmem⟩ := nodesByComponent_spec hmembers
  rw [List.getD_eq_getElem _ _ hlt, isCyclic_iff hmembers]
  constructor
  · rintro ⟨node, hnode, hcycle⟩
    obtain ⟨hlt, hcomponent⟩ := (hmem node).mp hnode
    exact ⟨node, hlt, hcomponent, hcycle⟩
  · rintro ⟨node, hlt, hcomponent, hcycle⟩
    exact ⟨node, (hmem node).mpr ⟨hlt, hcomponent⟩, hcycle⟩

/-- An edge is on a cycle iff it stays in its component, and this one is cyclic. -/
theorem edge_on_cycle_iff {source target : Nat} (hedge : adjacency.Edge source target) :
    ReflTransGen adjacency.Edge target source ↔
      componentByNode adjacency source = componentByNode adjacency target ∧
        componentByNode adjacency source ∈ cyclicComponents adjacency := by
  rw [componentByNode_labels.edge_on_cycle_iff hedge, iff_self_and]
  intro hsame
  have hback := (componentByNode_labels.edge_on_cycle_iff hedge).mpr hsame
  exact mem_cyclicComponents.mpr ⟨componentByNode_lt hedge.source_lt,
    source, hedge.source_lt, rfl, cyclic_iff.mpr ⟨target, hedge, hback⟩⟩

end OpenRfc.TypeGraph
