import OpenRfc.Foundation.WaitGraph

/-!
The strongly connected components of a relation, and the relation between the components. A list
orders the elements as a depth-first search finishes them if every component has an element in it
which stands in front of all that the component reaches.
-/

universe u v

namespace Condensation
open Relation

variable {α : Type u} {β : Type v} {R : α → α → Prop} {a b c : α}

/-- Each element reaches the other. -/
def Mutual (R : α → α → Prop) (a b : α) : Prop :=
  ReflTransGen R a b ∧ ReflTransGen R b a

theorem Mutual.refl (R : α → α → Prop) (a : α) : Mutual R a a :=
  ⟨.refl, .refl⟩

theorem Mutual.symm (h : Mutual R a b) : Mutual R b a :=
  ⟨h.2, h.1⟩

theorem Mutual.trans (hab : Mutual R a b) (hbc : Mutual R b c) : Mutual R a c :=
  ⟨hab.1.trans hbc.1, hbc.2.trans hab.2⟩

/-- An element lies on a cycle iff it has a successor which reaches it. -/
theorem cyclic_iff : TransGen R a a ↔ ∃ b, R a b ∧ ReflTransGen R b a :=
  TransGen.head'_iff

/-- An element is on a cycle if another one is mutually reachable with it. -/
theorem Mutual.cyclic (h : Mutual R a b) (hne : a ≠ b) : TransGen R a a := by
  rcases reflTransGen_iff_eq_or_transGen.mp h.1 with heq | hpath
  · exact absurd heq.symm hne
  · exact hpath.trans_left h.2

section Labels
variable {label : α → β} {node : α → Prop}

/-- A labelling of the nodes by their components. -/
structure Labels (R : α → α → Prop) (node : α → Prop) (label : α → β) : Prop where
  nodes : ∀ {a b}, R a b → node a ∧ node b
  exact : ∀ {a b}, node a → node b → (label a = label b ↔ Mutual R a b)

/-- There is an edge from a component to another one. -/
def Condensed (R : α → α → Prop) (label : α → β) (x y : β) : Prop :=
  x ≠ y ∧ Relation.Map R label label x y

theorem Labels.reaches (hlabels : Labels R node label) {x y : β}
    (hpath : ReflTransGen (Condensed R label) x y) :
    ∀ {a b}, node a → node b → label a = x → label b = y → ReflTransGen R a b := by
  induction hpath with
  | refl => exact fun ha hb hx hy => ((hlabels.exact ha hb).mp (hx.trans hy.symm)).1
  | tail _ hedge ih =>
      intro a b ha hb hx hy
      obtain ⟨-, source, target, hstep, hsource, htarget⟩ := hedge
      obtain ⟨hnode, hnode'⟩ := hlabels.nodes hstep
      have hlast := (hlabels.exact hnode' hb).mp (htarget.trans hy.symm)
      exact ((ih ha hnode hx hsource).tail hstep).trans hlast.1

/-- There is no cycle of components. -/
theorem Labels.acyclic (hlabels : Labels R node label) :
    WaitGraph.Acyclic (Condensed R label) := by
  intro x hcycle
  obtain ⟨y, ⟨hne, source, target, hstep, hsource, htarget⟩, hback⟩ :=
    TransGen.head'_iff.mp hcycle
  obtain ⟨hnode, hnode'⟩ := hlabels.nodes hstep
  have hreturn := hlabels.reaches hback hnode' hnode htarget hsource
  have hsame := (hlabels.exact hnode hnode').mpr ⟨.single hstep, hreturn⟩
  exact hne (hsource.symm.trans (hsame.trans htarget))

/-- An edge is on a cycle iff it stays in its component. -/
theorem Labels.edge_on_cycle_iff (hlabels : Labels R node label) (hstep : R a b) :
    ReflTransGen R b a ↔ label a = label b := by
  obtain ⟨ha, hb⟩ := hlabels.nodes hstep
  rw [hlabels.exact ha hb]
  exact ⟨fun hback => ⟨.single hstep, hback⟩, And.right⟩

end Labels

section FinishOrder
variable [DecidableEq α] {order front rest : List α}

/-- One of the first members of the list, up to another one. -/
def NotAfter (order : List α) (a b : α) : Prop :=
  order.idxOf a ≤ order.idxOf b

theorem NotAfter.cons (h : NotAfter order a b) (hab : b ≠ c) : NotAfter (c :: order) a b := by
  rw [NotAfter, List.idxOf_cons_ne _ hab.symm]
  by_cases hac : c = a
  · rw [hac, List.idxOf_cons_self]
    exact Nat.zero_le _
  · rw [List.idxOf_cons_ne _ hac]
    exact Nat.succ_le_succ h

theorem notAfter_head : NotAfter (a :: order) a b := by
  rw [NotAfter, List.idxOf_cons_self]
  exact Nat.zero_le _

theorem NotAfter.mem_or_eq (h : NotAfter (front ++ b :: rest) a b) (hb : b ∉ front) :
    a ∈ front ∨ a = b := by
  by_cases ha : a ∈ front
  · exact .inl ha
  · rw [NotAfter, List.idxOf_append_of_notMem ha, List.idxOf_append_of_notMem hb,
      List.idxOf_cons_self] at h
    by_cases heq : b = a
    · exact .inr heq.symm
    · rw [List.idxOf_cons_ne _ heq] at h
      omega

/-- An element of the component of another one which stands in front of all that they reach. -/
def Leads (R : α → α → Prop) (order : List α) (leader a : α) : Prop :=
  leader ∈ order ∧ Mutual R a leader ∧
    ∀ b, ReflTransGen R a b → b ∈ order ∧ NotAfter order leader b

def FinishOrder (R : α → α → Prop) (order : List α) : Prop :=
  ∀ a ∈ order, ∃ leader, Leads R order leader a

theorem Leads.cons {leader : α} (h : Leads R order leader a) (hc : c ∉ order) :
    Leads R (c :: order) leader a := by
  obtain ⟨hleader, hmutual, hleads⟩ := h
  refine ⟨List.mem_cons_of_mem _ hleader, hmutual, fun b hreach => ?_⟩
  obtain ⟨hb, hfirst⟩ := hleads b hreach
  exact ⟨List.mem_cons_of_mem _ hb, hfirst.cons (ne_of_mem_of_not_mem hb hc)⟩

/-- While a search goes on, the component of an element which it has left may still be held open
by one on its path. -/
def Left (R : α → α → Prop) (path order : List α) : Prop :=
  ∀ a ∈ order, (∃ b ∈ path, Mutual R a b) ∨ ∃ leader, Leads R order leader a

omit [DecidableEq α] in
theorem reaches_head {path : List α} (hpath : (a :: path).IsChain fun upper lower => R lower upper)
    (hb : b ∈ path) : ReflTransGen R b a := by
  have htrans : (a :: path).IsChain fun upper lower => ReflTransGen R lower upper :=
    hpath.imp fun _ _ h => .single h
  have : IsTrans α fun upper lower => ReflTransGen R lower upper := ⟨fun _ _ _ h h' => h'.trans h⟩
  exact List.rel_of_pairwise_cons (List.isChain_iff_pairwise.mp htrans) hb

/-- A search leaves the last element of its path when it has followed all of its edges. -/
theorem Left.cons {path : List α} (h : Left R (a :: path) order) (ha : a ∉ order)
    (hpath : (a :: path).IsChain fun upper lower => R lower upper)
    (hclosed : ∀ b ∈ a :: order, ∀ c, R b c → c ∈ a :: order ∨ c ∈ path) :
    Left R path (a :: order) := by
  by_cases hback : ∃ b ∈ path, Mutual R a b
  · intro u hu
    rcases List.mem_cons.mp hu with rfl | hu
    · exact .inl hback
    · rcases h u hu with ⟨b, hb, hmutual⟩ | ⟨leader, hleads⟩
      · rcases List.mem_cons.mp hb with rfl | hb
        · obtain ⟨b', hb', hmutual'⟩ := hback
          exact .inl ⟨b', hb', hmutual.trans hmutual'⟩
        · exact .inl ⟨b, hb, hmutual⟩
      · exact .inr ⟨leader, hleads.cons ha⟩
  · have hall : ∀ b, ReflTransGen R a b → b ∈ a :: order := by
      intro b hreach
      induction hreach with
      | refl => exact List.mem_cons_self
      | tail hreach hstep ih =>
          rcases hclosed _ ih _ hstep with hmem | hmem
          · exact hmem
          · exact absurd ⟨_, hmem, hreach.tail hstep, reaches_head hpath hmem⟩ hback
    have hleads : ∀ u, Mutual R u a → ∃ leader, Leads R (a :: order) leader u := fun u hu =>
      ⟨a, List.mem_cons_self, hu, fun b hreach => ⟨hall b (hu.2.trans hreach), notAfter_head⟩⟩
    intro u hu
    rcases List.mem_cons.mp hu with rfl | hu
    · exact .inr (hleads u (.refl R u))
    · rcases h u hu with ⟨b, hb, hmutual⟩ | ⟨leader, hleader⟩
      · rcases List.mem_cons.mp hb with rfl | hb
        · exact .inr (hleads u hmutual)
        · exact .inl ⟨b, hb, hmutual⟩
      · exact .inr ⟨leader, hleader.cons ha⟩

/-- All that reaches an element and is in no component of an earlier one is in its component. -/
theorem FinishOrder.mutual (horder : FinishOrder R (front ++ a :: rest)) (ha : a ∉ front)
    (hb : b ∈ front ++ a :: rest) (hreach : ReflTransGen R b a)
    (hnew : ∀ earlier ∈ front, ¬Mutual R b earlier) : Mutual R b a := by
  obtain ⟨leader, -, hmutual, hleads⟩ := horder b hb
  rcases (hleads a hreach).2.mem_or_eq ha with hearlier | rfl
  · exact absurd hmutual (hnew leader hearlier)
  · exact hmutual

end FinishOrder
end Condensation
