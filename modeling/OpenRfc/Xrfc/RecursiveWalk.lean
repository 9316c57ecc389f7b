import OpenRfc.Xrfc.RecursiveGraph

/-!
The walk which remembers. A height which it keeps is that of the node, wherever it has been found,
and everything below a node which is known is known too; what a walk spends of its budget is what
the nodes cost which it has not known before.
-/

namespace OpenRfc.Xrfc
open Fallible Relation

section Budget
variable {budget budget' : GraphTraversalBudget} {cost cost' : Nat × Nat × Nat}

namespace GraphTraversalBudget

def spend (budget : GraphTraversalBudget) (cost : Nat × Nat × Nat) : GraphTraversalBudget :=
  { budget with
    nodes := budget.nodes + cost.1
    rows := budget.rows + cost.2.1
    edges := budget.edges + cost.2.2 }

structure Within (budget : GraphTraversalBudget) : Prop where
  nodes : budget.nodes ≤ budget.maxNodes
  rows : budget.rows ≤ budget.maxRows
  edges : budget.edges ≤ budget.maxEdges

theorem spend_spend : (budget.spend cost).spend cost' = budget.spend (cost + cost') := by
  simp only [spend, Prod.fst_add, Prod.snd_add, Nat.add_assoc]

theorem Within.of_spend_add (h : (budget.spend (cost + cost')).Within) :
    (budget.spend cost).Within := by
  rw [← spend_spend] at h
  exact ⟨(Nat.le_add_right _ _).trans h.nodes, (Nat.le_add_right _ _).trans h.rows,
    (Nat.le_add_right _ _).trans h.edges⟩

end GraphTraversalBudget

theorem consumeGraphNode_eq_ok {node : RecursiveMetadataTypeNode} {path : String} :
    consumeGraphNode node budget path = .ok budget' ↔
      (budget.nodes + 1 ≤ budget.maxNodes ∧ budget.rows + node.fields.length ≤ budget.maxRows) ∧
        budget.spend (1, node.fields.length, 0) = budget' := by
  simp only [consumeGraphNode, bind_eq_ok, require_eq_ok, exists_const, Except.ok.injEq, and_assoc]
  rfl

theorem consumeGraphEdge_eq_ok {path : String} :
    consumeGraphEdge budget path = .ok budget' ↔
      budget.edges + 1 ≤ budget.maxEdges ∧ budget.spend (0, 0, 1) = budget' := by
  simp only [consumeGraphEdge, bind_eq_ok, require_eq_ok, exists_const, Except.ok.injEq]
  rfl

end Budget

section Costs
variable {graph : RecursiveMetadataGraph} {known known' first second :
  RecursiveMetadataTypeNode → Prop} {node : RecursiveMetadataTypeNode}

def edgeCount (fields : List RecursiveMetadataField) : Nat :=
  fields.countP RecursiveMetadataField.isContainer

/-- One node, its rows, and its references. -/
def nodeCost (node : RecursiveMetadataTypeNode) : Nat × Nat × Nat :=
  (1, node.fields.length, edgeCount node.fields)

def registeredNodes (graph : RecursiveMetadataGraph) : Finset RecursiveMetadataTypeNode :=
  ((graph.nodes.map (·.2)).filter fun node => graph.node? node.name = some node).toFinset

open scoped Classical in
/-- What those nodes cost for which `wanted` holds and which are not known. -/
noncomputable def freshCost (graph : RecursiveMetadataGraph)
    (known wanted : RecursiveMetadataTypeNode → Prop) : Nat × Nat × Nat :=
  ∑ node ∈ (registeredNodes graph).filter fun node => wanted node ∧ ¬known node, nodeCost node

theorem lookup_mem {α β : Type} [BEq α] [LawfulBEq α] {entries : List (α × β)} {key : α} {value : β}
    (h : entries.lookup key = some value) : (key, value) ∈ entries := by
  induction entries with
  | nil => cases h
  | cons entry entries ih =>
      rw [List.lookup_cons] at h
      split at h
      · rename_i heq
        rw [eq_of_beq heq, ← Option.some.inj h]
        exact List.mem_cons_self
      · exact List.mem_cons_of_mem _ (ih h)

theorem lookup_cons_eq {α β : Type} [BEq α] [LawfulBEq α] [DecidableEq α] {entries : List (α × β)} {key key' : α}
    {value : β} : ((key, value) :: entries).lookup key' =
      if key' = key then some value else entries.lookup key' := by
  rw [List.lookup_cons]
  by_cases hkey : key' = key
  · rw [if_pos hkey, beq_iff_eq.mpr hkey]
  · rw [if_neg hkey, beq_false_of_ne hkey]

theorem mem_registeredNodes : node ∈ registeredNodes graph ↔ Registered graph node := by
  simp only [registeredNodes, List.mem_toFinset, List.mem_filter, List.mem_map,
    decide_eq_true_eq]
  refine ⟨fun h => h.2, fun h => ⟨?_, h⟩⟩
  exact ⟨_, lookup_mem h, rfl⟩

theorem freshCost_congr (h : ∀ node, Registered graph node → ¬known node →
    (first node ↔ second node)) : freshCost graph known first = freshCost graph known second := by
  classical
  unfold freshCost
  congr 1
  ext node
  simp only [Finset.mem_filter, mem_registeredNodes]
  exact and_congr_right fun hnode => and_congr_left fun hfresh => h node hnode hfresh

theorem freshCost_of_known (h : ∀ node, first node → known node) :
    freshCost graph known first = 0 := by
  classical
  unfold freshCost
  rw [Finset.filter_false_of_mem, Finset.sum_empty]
  exact fun node _ hnode => hnode.2 (h node hnode.1)

/-- What has been paid for is known afterwards. -/
theorem freshCost_or
    (h : ∀ node, Registered graph node → (known' node ↔ known node ∨ first node)) :
    freshCost graph known (fun node => first node ∨ second node) =
      freshCost graph known first + freshCost graph known' second := by
  classical
  unfold freshCost
  rw [← Finset.sum_filter_add_sum_filter_not _ first]
  congr 2
  · ext node
    simp only [Finset.mem_filter, mem_registeredNodes]
    tauto
  · ext node
    simp only [Finset.mem_filter, mem_registeredNodes]
    have hnode := h node
    tauto

theorem freshCost_self (hnode : Registered graph node) (h : ¬known node) :
    freshCost graph known (· = node) = nodeCost node := by
  classical
  unfold freshCost
  rw [← Finset.sum_singleton nodeCost node]
  congr 1
  ext other
  simp only [Finset.mem_filter, Finset.mem_singleton, mem_registeredNodes]
  refine ⟨fun hother => hother.2.1, ?_⟩
  rintro rfl
  exact ⟨hnode, rfl, h⟩

end Costs

section Knowledge
variable {graph : RecursiveMetadataGraph} {walk walk' walk'' : Walk}
  {node target : RecursiveMetadataTypeNode} {height levels : Nat}

def Reach (graph : RecursiveMetadataGraph) (node target : RecursiveMetadataTypeNode) : Prop :=
  ReflTransGen (Child graph) node target

/-- A height which may be kept. -/
structure Valid (graph : RecursiveMetadataGraph) (node : RecursiveMetadataTypeNode)
    (height : Nat) : Prop where
  wellFormed : AllWellFormed graph node
  height : Depth.IsHeight (Child graph) node height

def Walk.Knows (walk : Walk) (node : RecursiveMetadataTypeNode) : Prop :=
  (walk.subtreeHeights.lookup node.name).isSome = true ∨ (walk.cached? node).isSome = true

structure Walk.Sound (graph : RecursiveMetadataGraph) (walk : Walk) : Prop where
  heights : ∀ node height, Registered graph node →
    walk.subtreeHeights.lookup node.name = some height → Valid graph node height
  cached : ∀ node height, Registered graph node → walk.cached? node = some height →
    Valid graph node height
  closed : ∀ node target, Registered graph node → walk.Knows node → Child graph node target →
    walk.Knows target
  shared : ∀ node, Registered graph node → walk.caches.isSome = true →
    (walk.subtreeHeights.lookup node.name).isSome = true → (walk.cached? node).isSome = true

theorem Walk.Sound.knows_of_reach (hs : walk.Sound graph) (hnode : Registered graph node)
    (hknows : walk.Knows node) (hreach : Reach graph node target) : walk.Knows target := by
  induction hreach with
  | refl => exact hknows
  | tail hreach hstep ih => exact hs.closed _ _ (hnode.of_reachable hreach) ih hstep

theorem Walk.Sound.withBudget (hs : walk.Sound graph) (budget : GraphTraversalBudget) :
    Walk.Sound graph { walk with budget } :=
  ⟨hs.heights, hs.cached, hs.closed, hs.shared⟩

theorem Walk.lookup_setHeight {other : RecursiveMetadataTypeNode} :
    (walk.setHeight node height).subtreeHeights.lookup other.name =
      if other.name = node.name then some height
      else walk.subtreeHeights.lookup other.name :=
  lookup_cons_eq

theorem Walk.cached_setHeight {other : RecursiveMetadataTypeNode} :
    (walk.setHeight node height).cached? other = walk.cached? other := rfl

theorem Walk.cached_setCached {other : RecursiveMetadataTypeNode} :
    (walk.setCached node height).cached? other =
      if walk.caches.isSome = true ∧ (other.kind, other.name) = (node.kind, node.name) then
        some height
      else walk.cached? other := by
  rw [cached?, cached?, setCached]
  cases walk.caches with
  | none => rfl
  | some caches =>
      have hkey : (((node.kind, node.name), height) :: caches.subtrees).lookup
          (other.kind, other.name) = _ := lookup_cons_eq
      simp only [Option.isSome_some, true_and]
      exact hkey

/-- A height which the caches have had is entered among those of the walk. -/
theorem Walk.Sound.hit (hs : walk.Sound graph) (hnode : Registered graph node)
    (hcached : walk.cached? node = some height) :
    Walk.Sound graph (walk.setHeight node height) ∧
      ∀ other, Registered graph other →
        ((walk.setHeight node height).Knows other ↔ walk.Knows other) := by
  have hknows (other : RecursiveMetadataTypeNode) (hother : Registered graph other) :
      (walk.setHeight node height).Knows other ↔ walk.Knows other := by
    unfold Walk.Knows
    rw [Walk.lookup_setHeight, Walk.cached_setHeight]
    split
    · rename_i hname
      obtain rfl := hother.eq_of_name hnode hname
      rw [hcached]
      simp
    · rfl
  refine ⟨⟨?_, hs.cached, ?_, ?_⟩, hknows⟩
  · intro other height' hother hlookup
    rw [Walk.lookup_setHeight] at hlookup
    split at hlookup
    · rename_i hname
      obtain rfl := hother.eq_of_name hnode hname
      rw [← Option.some.inj hlookup]
      exact hs.cached _ _ hnode hcached
    · exact hs.heights _ _ hother hlookup
  · intro other child hother hknown hstep
    rw [hknows other hother] at hknown
    rw [hknows child hstep.registered]
    exact hs.closed _ _ hother hknown hstep
  · intro other hother hcaches hlookup
    rw [Walk.lookup_setHeight] at hlookup
    rw [Walk.cached_setHeight]
    split at hlookup
    · rename_i hname
      obtain rfl := hother.eq_of_name hnode hname
      rw [hcached]
      rfl
    · exact hs.shared _ hother hcaches hlookup

/-- The height of a node is entered when everything below it is known. -/
theorem Walk.Sound.record (hs : walk.Sound graph) (hnode : Registered graph node)
    (hvalid : Valid graph node height)
    (hchildren : ∀ target, Child graph node target → walk.Knows target) :
    Walk.Sound graph ((walk.setHeight node height).setCached node height) ∧
      ∀ other, Registered graph other →
        (((walk.setHeight node height).setCached node height).Knows other ↔
          walk.Knows other ∨ other = node) := by
  have hlookup (other : RecursiveMetadataTypeNode) :
      ((walk.setHeight node height).setCached node height).subtreeHeights.lookup other.name =
        if other.name = node.name then some height
        else walk.subtreeHeights.lookup other.name :=
    Walk.lookup_setHeight
  have hcached (other : RecursiveMetadataTypeNode) :
      ((walk.setHeight node height).setCached node height).cached? other =
        if walk.caches.isSome = true ∧ (other.kind, other.name) = (node.kind, node.name) then
          some height
        else walk.cached? other :=
    Walk.cached_setCached
  have hknows (other : RecursiveMetadataTypeNode) (hother : Registered graph other) :
      ((walk.setHeight node height).setCached node height).Knows other ↔
        walk.Knows other ∨ other = node := by
    unfold Walk.Knows
    rw [hlookup, hcached]
    by_cases hsame : other = node
    · rw [if_pos (congrArg _ hsame)]
      simp [hsame]
    · have hname : other.name ≠ node.name := fun h => hsame (hother.eq_of_name hnode h)
      rw [if_neg hname, if_neg fun h => hname (Prod.mk.inj h.2).2]
      simp [hsame]
  refine ⟨⟨?_, ?_, ?_, ?_⟩, hknows⟩
  · intro other height' hother h
    rw [hlookup] at h
    split at h
    · rename_i hname
      obtain rfl := hother.eq_of_name hnode hname
      rw [← Option.some.inj h]
      exact hvalid
    · exact hs.heights _ _ hother h
  · intro other height' hother h
    rw [hcached] at h
    split at h
    · rename_i hkey
      obtain rfl := hother.eq_of_name hnode (Prod.mk.inj hkey.2).2
      rw [← Option.some.inj h]
      exact hvalid
    · exact hs.cached _ _ hother h
  · intro other child hother hknown hstep
    rw [hknows child hstep.registered]
    rcases (hknows other hother).mp hknown with hbefore | rfl
    · exact .inl (hs.closed _ _ hother hbefore hstep)
    · exact .inl (hchildren child hstep)
  · intro other hother hcaches h
    have hindex : walk.caches.isSome = true := by
      rw [← hcaches]
      exact (Option.isSome_map ..).symm
    rw [hlookup] at h
    rw [hcached]
    split at h
    · rename_i hname
      obtain rfl := hother.eq_of_name hnode hname
      rw [if_pos ⟨hindex, rfl⟩]
      rfl
    · split
      · rfl
      · exact hs.shared _ hother hindex h

end Knowledge

section Steps
variable {graph : RecursiveMetadataGraph} {walk walk' walk'' : Walk} {cost cost' : Nat × Nat × Nat}
  {first second : RecursiveMetadataTypeNode → Prop}

/-- A node whose height the caches hold. -/
def CachedIn (caches : Option IndexCaches) (node : RecursiveMetadataTypeNode) : Prop :=
  (caches.bind fun caches => caches.subtrees.lookup (node.kind, node.name)).isSome = true

/-- What a walk does to the caches. -/
structure Grows (caches caches' : Option IndexCaches) : Prop where
  validated : caches'.map (·.validated) = caches.map (·.validated)
  cached : ∀ node, CachedIn caches node → CachedIn caches' node

theorem Grows.refl (caches : Option IndexCaches) : Grows caches caches := ⟨rfl, fun _ => id⟩

theorem Grows.trans {caches caches' caches'' : Option IndexCaches} (h : Grows caches caches')
    (h' : Grows caches' caches'') : Grows caches caches'' :=
  ⟨h'.validated.trans h.validated, fun node hnode => h'.cached node (h.cached node hnode)⟩

theorem Grows.setCached (walk : Walk) (node : RecursiveMetadataTypeNode) (height : Nat) :
    Grows walk.caches ((walk.setHeight node height).setCached node height).caches where
  validated := Option.map_map ..
  cached other hother := by
    show (((walk.setHeight node height).setCached node height).cached? other).isSome = true
    rw [Walk.cached_setCached]
    split
    · rfl
    · exact hother

/-- What a step leaves as it was, whether it fails or not. -/
structure Kept (graph : RecursiveMetadataGraph) (walk walk' : Walk) : Prop where
  sound : walk'.Sound graph
  grows : Grows walk.caches walk'.caches

/-- A step which has made some nodes known, at a cost. -/
structure Extends (graph : RecursiveMetadataGraph) (learnt : RecursiveMetadataTypeNode → Prop)
    (cost : Nat × Nat × Nat) (walk walk' : Walk) : Prop extends Kept graph walk walk' where
  knows : ∀ node, Registered graph node → (walk'.Knows node ↔ walk.Knows node ∨ learnt node)
  budget : walk'.budget = walk.budget.spend cost
  within : walk'.budget.Within

theorem Kept.trans (h : Kept graph walk walk') (h' : Kept graph walk' walk'') :
    Kept graph walk walk'' :=
  ⟨h'.sound, h.grows.trans h'.grows⟩

theorem Extends.trans (h : Extends graph first cost walk walk')
    (h' : Extends graph second cost' walk' walk'') :
    Extends graph (fun node => first node ∨ second node) (cost + cost') walk walk'' where
  toKept := h.toKept.trans h'.toKept
  knows node hnode := by rw [h'.knows node hnode, h.knows node hnode, or_assoc]
  budget := by rw [h'.budget, h.budget, GraphTraversalBudget.spend_spend]
  within := h'.within

/-- Paying for what is not a node. -/
theorem Walk.Sound.spend (hs : walk.Sound graph) {budget : GraphTraversalBudget}
    (hbudget : walk.budget.spend cost = budget) (hwithin : budget.Within) :
    Extends graph (fun _ => False) cost walk { walk with budget } where
  sound := hs.withBudget budget
  grows := .refl _
  knows _ _ := (or_iff_left id).symm
  budget := hbudget.symm
  within := hwithin

end Steps
section Fields
variable {graph : RecursiveMetadataGraph} {walk walk' : Walk} {levels height height' : Nat}
  {visit : RecursiveMetadataTypeNode → String → Walk → Outcome Nat} {path : String}
  {node target : RecursiveMetadataTypeNode} {field : RecursiveMetadataField}
  {fields : List RecursiveMetadataField} {names : List JsString}

theorem Outcome.andThen_eq_ok {α β : Type} {outcome : Outcome α} {next : α → Walk → Outcome β}
    {b : β} : outcome.andThen next = (.ok b, walk') ↔
      ∃ a walk, outcome = (.ok a, walk) ∧ next a walk = (.ok b, walk') := by
  rcases outcome with ⟨e | a, walk⟩ <;> simp [Outcome.andThen]

theorem Outcome.andThen_eq_error {α β : Type} {outcome : Outcome α}
    {next : α → Walk → Outcome β} {e : String} : outcome.andThen next = (.error e, walk') ↔
      outcome = (.error e, walk') ∨
        ∃ a walk, outcome = (.ok a, walk) ∧ next a walk = (.error e, walk') := by
  rcases outcome with ⟨e | a, walk⟩ <;> simp [Outcome.andThen]

/-- The nodes behind some fields. -/
def Below (graph : RecursiveMetadataGraph) (fields : List RecursiveMetadataField)
    (node : RecursiveMetadataTypeNode) : Prop :=
  ∃ field ∈ fields, ∃ target, graph.follow field = some target ∧ Reach graph target node

theorem below_cons : Below graph (field :: fields) node ↔
    (∃ target, graph.follow field = some target ∧ Reach graph target node) ∨
      Below graph fields node := by
  simp only [Below, List.mem_cons, exists_eq_or_imp]

theorem below_cons_of_follow (hfollow : graph.follow field = some target) :
    Below graph (field :: fields) node ↔ Reach graph target node ∨ Below graph fields node := by
  rw [below_cons, hfollow]
  simp

theorem reach_iff : Reach graph node target ↔ target = node ∨ Below graph node.fields target := by
  constructor
  · intro hreach
    rcases ReflTransGen.cases_head hreach with rfl | ⟨child, ⟨field, hfield, hfollow⟩, hrest⟩
    · exact .inl rfl
    · exact .inr ⟨field, hfield, child, hfollow, hrest⟩
  · rintro (rfl | ⟨field, hfield, child, hfollow, hrest⟩)
    · exact .refl
    · exact .head ⟨field, hfield, hfollow⟩ hrest

/-- What the walk into a node does with as many levels left. -/
structure Visits (graph : RecursiveMetadataGraph) (levels : Nat)
    (visit : RecursiveMetadataTypeNode → String → Walk → Outcome Nat) : Prop where
  ok : ∀ {node path walk height walk'}, walk.Sound graph → Registered graph node →
    walk.budget.Within → visit node path walk = (.ok height, walk') →
      Valid graph node height ∧ height ≤ levels ∧
        Extends graph (Reach graph node) (freshCost graph walk.Knows (Reach graph node)) walk walk'
  error : ∀ {node path walk e walk'}, walk.Sound graph → Registered graph node →
    walk.budget.Within → visit node path walk = (.error e, walk') → Kept graph walk walk'

/-- What is known of fields which the loop has accepted. -/
structure FieldsVisited (graph : RecursiveMetadataGraph) (levels : Nat)
    (node : RecursiveMetadataTypeNode) (fields : List RecursiveMetadataField)
    (names : List JsString) (height height' : Nat) : Prop where
  names : ∀ field ∈ fields, field.name ∉ names
  distinct : (fields.map (·.name)).Nodup
  shaped : ∀ field ∈ fields, field.Shaped node
  resolved : ∀ field ∈ fields, field.isContainer = true →
    ∃ target k, graph.follow field = some target ∧ Valid graph target k ∧ k ≤ levels ∧ k < height'
  le : height ≤ height'
  lower : height' = height ∨ ∃ field ∈ fields, ∃ target k, graph.follow field = some target ∧
    Valid graph target k ∧ height' = k + 1

theorem Extends.congr {first second : RecursiveMetadataTypeNode → Prop}
    {cost cost' : Nat × Nat × Nat} (h : Extends graph first cost walk walk')
    (hlearnt : ∀ node, first node ↔ second node) (hcost : cost = cost') :
    Extends graph second cost' walk walk' where
  toKept := h.toKept
  knows node hnode := by rw [h.knows node hnode, hlearnt]
  budget := hcost ▸ h.budget
  within := h.within

theorem isContainer_eq (field : RecursiveMetadataField) : field.isContainer =
    match field.reference with
    | .scalar _ => false
    | .container _ _ _ => true := rfl

theorem FieldsVisited.cons_scalar (hfield : field.name ∉ names ∧ field.Shaped node)
    (hscalar : field.isContainer = false)
    (h : FieldsVisited graph levels node fields (field.name :: names) height height') :
    FieldsVisited graph levels node (field :: fields) names height height' where
  names := List.forall_mem_cons.mpr
    ⟨hfield.1, fun other hother hname => h.names other hother (List.mem_cons_of_mem _ hname)⟩
  distinct := by
    rw [List.map_cons, List.nodup_cons]
    refine ⟨fun hmem => ?_, h.distinct⟩
    obtain ⟨other, hother, hname⟩ := List.mem_map.mp hmem
    exact h.names other hother (hname ▸ List.mem_cons_self)
  shaped := List.forall_mem_cons.mpr ⟨hfield.2, h.shaped⟩
  resolved := List.forall_mem_cons.mpr
    ⟨fun hcontainer => absurd (hscalar.symm.trans hcontainer) Bool.false_ne_true, h.resolved⟩
  le := h.le
  lower := h.lower.imp id fun ⟨other, hother, hrest⟩ =>
    ⟨other, List.mem_cons_of_mem _ hother, hrest⟩

theorem FieldsVisited.cons_container {k : Nat} (hfield : field.name ∉ names ∧ field.Shaped node)
    (hfollow : graph.follow field = some target) (hvalid : Valid graph target k) (hk : k ≤ levels)
    (h : FieldsVisited graph levels node fields (field.name :: names) (max height (1 + k))
      height') : FieldsVisited graph levels node (field :: fields) names height height' where
  names := List.forall_mem_cons.mpr
    ⟨hfield.1, fun other hother hname => h.names other hother (List.mem_cons_of_mem _ hname)⟩
  distinct := by
    rw [List.map_cons, List.nodup_cons]
    refine ⟨fun hmem => ?_, h.distinct⟩
    obtain ⟨other, hother, hname⟩ := List.mem_map.mp hmem
    exact h.names other hother (hname ▸ List.mem_cons_self)
  shaped := List.forall_mem_cons.mpr ⟨hfield.2, h.shaped⟩
  resolved := by
    have hle := h.le
    exact List.forall_mem_cons.mpr
      ⟨fun _ => ⟨target, k, hfollow, hvalid, hk, by omega⟩, h.resolved⟩
  le := (Nat.le_max_left _ _).trans h.le
  lower := by
    rcases h.lower with heq | ⟨other, hother, hrest⟩
    · rcases Nat.le_total (1 + k) height with hsmall | hlarge
      · exact .inl (heq.trans (Nat.max_eq_left hsmall))
      · refine .inr ⟨field, List.mem_cons_self, target, k, hfollow, hvalid, ?_⟩
        rw [heq, Nat.max_eq_right hlarge, Nat.add_comm]
    · exact .inr ⟨other, List.mem_cons_of_mem _ hother, hrest⟩

/-- The loop over the fields, when it comes to its end. -/
theorem Visits.fields_ok (hvisit : Visits graph levels visit) (hs : walk.Sound graph)
    (hwithin : walk.budget.Within)
    (h : validateFields graph visit node path fields names height walk = (.ok height', walk')) :
    FieldsVisited graph levels node fields names height height' ∧
      Extends graph (Below graph fields)
        ((0, 0, edgeCount fields) + freshCost graph walk.Knows (Below graph fields))
        walk walk' := by
  induction fields generalizing names height walk with
  | nil =>
      rw [validateFields] at h
      cases h
      have hnone (node : RecursiveMetadataTypeNode) : ¬Below graph [] node := by
        rintro ⟨field, hfield, -⟩
        cases hfield
      have hcost : freshCost graph walk'.Knows (Below graph []) = 0 :=
        freshCost_of_known fun node hnode => absurd hnode (hnone node)
      refine ⟨⟨nofun, .nil, nofun, nofun, le_rfl, .inl rfl⟩, ⟨⟨hs, .refl _⟩, ?_, ?_, hwithin⟩⟩
      · exact fun node _ => (or_iff_left (hnone node)).symm
      · rw [hcost]
        rfl
  | cons field fields ih =>
      rw [validateFields] at h
      split at h
      · cases h
      · rename_i internalType hcheck hreference
        have hscalar : field.isContainer = false := by rw [isContainer_eq, hreference]
        have hfollow : graph.follow field = none := by
          rw [RecursiveMetadataGraph.follow, hreference]
        have hbelow (other : RecursiveMetadataTypeNode) :
            Below graph (field :: fields) other ↔ Below graph fields other := by
          rw [below_cons, hfollow]
          simp
        obtain ⟨hfields, hext⟩ := ih hs hwithin h
        refine ⟨hfields.cons_scalar (checkField_eq_ok.mp hcheck) hscalar,
          hext.congr (fun other => (hbelow other).symm) ?_⟩
        rw [edgeCount, edgeCount, List.countP_cons_of_neg (by rw [hscalar]; decide),
          freshCost_congr fun other _ _ => hbelow other]
      · rename_i kind targetType cyclic hcheck hreference
        have hcontainer : field.isContainer = true := by rw [isContainer_eq, hreference]
        split at h
        · cases h
        · rename_i budget hedge
          split at h
          · cases h
          · rename_i target htarget
            obtain ⟨hfits, hspend⟩ := consumeGraphEdge_eq_ok.mp hedge
            have hfollow := (targetNode_eq_ok_iff_follow hreference).mp htarget
            have hbudget : budget.Within := by
              rw [← hspend]
              exact ⟨hwithin.nodes, hwithin.rows, hfits⟩
            obtain ⟨k, walk₁, hwalk, h⟩ := Outcome.andThen_eq_ok.mp h
            have hpaid := hs.spend hspend hbudget
            obtain ⟨hvalid, hk, hchild⟩ :=
              hvisit.ok hpaid.sound (registered_of_follow hfollow) hbudget hwalk
            obtain ⟨hfields, hrest⟩ := ih hchild.sound hchild.within h
            refine ⟨hfields.cons_container (checkField_eq_ok.mp hcheck) hfollow hvalid hk,
              ((hpaid.trans hchild).trans hrest).congr ?_ ?_⟩
            · intro other
              rw [below_cons_of_follow hfollow, false_or]
            · have hsum : freshCost graph walk.Knows (Below graph (field :: fields)) =
                  freshCost graph walk.Knows (Reach graph target) +
                    freshCost graph walk₁.Knows (Below graph fields) := by
                rw [freshCost_congr fun other _ _ => below_cons_of_follow hfollow]
                exact freshCost_or hchild.knows
              have hedges : edgeCount (field :: fields) = 1 + edgeCount fields := by
                rw [edgeCount, List.countP_cons_of_pos hcontainer, Nat.add_comm, edgeCount]
              rw [hsum, hedges]
              exact add_add_add_comm (0, 0, 1) _ _ _

/-- The loop over the fields, when it fails. -/
theorem Visits.fields_error (hvisit : Visits graph levels visit) (hs : walk.Sound graph)
    (hwithin : walk.budget.Within) {e : String}
    (h : validateFields graph visit node path fields names height walk = (.error e, walk')) :
    Kept graph walk walk' := by
  induction fields generalizing names height walk with
  | nil => cases h
  | cons field fields ih =>
      rw [validateFields] at h
      split at h
      · cases h
        exact ⟨hs, .refl _⟩
      · exact ih hs hwithin h
      · rename_i kind targetType cyclic hcheck hreference
        split at h
        · cases h
          exact ⟨hs, .refl _⟩
        · rename_i budget hedge
          split at h
          · cases h
            exact ⟨hs.withBudget _, .refl _⟩
          · rename_i target htarget
            obtain ⟨hfits, hspend⟩ := consumeGraphEdge_eq_ok.mp hedge
            have hfollow := (targetNode_eq_ok_iff_follow hreference).mp htarget
            have hbudget : budget.Within := by
              rw [← hspend]
              exact ⟨hwithin.nodes, hwithin.rows, hfits⟩
            have hpaid := hs.spend hspend hbudget
            rcases Outcome.andThen_eq_error.mp h with hfail | ⟨k, walk₁, hwalk, hrest⟩
            · exact hpaid.toKept.trans
                (hvisit.error hpaid.sound (registered_of_follow hfollow) hbudget hfail)
            · obtain ⟨-, -, hchild⟩ :=
                hvisit.ok hpaid.sound (registered_of_follow hfollow) hbudget hwalk
              exact (hpaid.toKept.trans hchild.toKept).trans
                (ih hchild.sound hchild.within hrest)

end Fields
section Nodes
variable {graph : RecursiveMetadataGraph} {walk walk' : Walk} {levels height maximumDepth : Nat}
  {visiting : List JsString} {path : String} {node : RecursiveMetadataTypeNode}

theorem FieldsVisited.valid (h : FieldsVisited graph levels node node.fields [] 1 height)
    (hdescriptor : checkDescriptor node path = .ok ()) :
    Valid graph node height ∧ height ≤ levels + 1 := by
  obtain ⟨hscalar, htable, hstructured⟩ := checkDescriptor_eq_ok.mp hdescriptor
  have hchild {target : RecursiveMetadataTypeNode} (hstep : Child graph node target) :
      ∃ k, Valid graph target k ∧ k ≤ levels ∧ k < height := by
    obtain ⟨field, hfield, hfollow⟩ := hstep
    obtain ⟨other, k, hother, hvalid⟩ :=
      h.resolved field hfield (isContainer_of_follow hfollow)
    obtain rfl := Option.some.inj (hfollow.symm.trans hother)
    exact ⟨k, hvalid⟩
  refine ⟨⟨allWellFormed_iff.mpr ⟨⟨hscalar, htable, hstructured, h.distinct, h.shaped, ?_⟩, ?_⟩,
    Depth.isHeight_of_successors ?_ h.le ?_⟩, ?_⟩
  · intro field hfield hcontainer
    obtain ⟨target, k, hfollow, -⟩ := h.resolved field hfield hcontainer
    exact ⟨target, hfollow⟩
  · intro target hstep
    obtain ⟨k, hvalid, -⟩ := hchild hstep
    exact hvalid.wellFormed
  · intro target hstep
    obtain ⟨k, hvalid, -, hlt⟩ := hchild hstep
    exact ⟨k, hvalid.height, hlt⟩
  · refine h.lower.imp id ?_
    rintro ⟨field, hfield, target, k, hfollow, hvalid, rfl⟩
    exact ⟨target, ⟨field, hfield, hfollow⟩, hvalid.height⟩
  · rcases h.lower with rfl | ⟨field, hfield, target, k, hfollow, hvalid, rfl⟩
    · exact Nat.le_add_left 1 levels
    · obtain ⟨i, hother, hle, -⟩ := hchild ⟨field, hfield, hfollow⟩
      exact Nat.succ_le_succ ((hvalid.height.least _ hother.height.within).trans hle)

theorem Valid.not_below (hvalid : Valid graph node height) : ¬Below graph node.fields node := by
  rintro ⟨field, hfield, target, hfollow, hreach⟩
  have hstep : Child graph node target := ⟨field, hfield, hfollow⟩
  exact hvalid.height.within.not_cyclic (.head' hstep hreach)

/-- A node is paid for with its rows first, and with its references as they are followed. -/
theorem freshCost_reach {known : RecursiveMetadataTypeNode → Prop} (hnode : Registered graph node)
    (hfresh : ¬known node) (hbelow : ¬Below graph node.fields node) :
    freshCost graph known (Reach graph node) = (1, node.fields.length, 0) +
      ((0, 0, edgeCount node.fields) + freshCost graph known (Below graph node.fields)) := by
  have hcost : nodeCost node = (1, node.fields.length, 0) + (0, 0, edgeCount node.fields) := by
    simp [nodeCost]
  have hself : freshCost graph (fun other => known other ∨ Below graph node.fields other)
      (· = node) = nodeCost node :=
    freshCost_self hnode (not_or.mpr ⟨hfresh, hbelow⟩)
  rw [freshCost_congr fun other _ _ => reach_iff.trans or_comm, ← add_assoc, ← hcost, add_comm,
    ← hself]
  exact freshCost_or fun other _ => Iff.rfl

/-- A node which is known already costs nothing. -/
theorem Walk.Sound.known (hs : walk.Sound graph) (hnode : Registered graph node)
    (hknows : walk.Knows node) (hwithin : walk.budget.Within) :
    Extends graph (Reach graph node) (freshCost graph walk.Knows (Reach graph node)) walk walk where
  sound := hs
  grows := .refl _
  knows _ _ := (or_iff_left_of_imp fun hreach => hs.knows_of_reach hnode hknows hreach).symm
  budget := by rw [freshCost_of_known fun _ hreach => hs.knows_of_reach hnode hknows hreach]; rfl
  within := hwithin

theorem Walk.Sound.recorded (hs : walk.Sound graph) (hnode : Registered graph node)
    (hvalid : Valid graph node height) (hwithin : walk.budget.Within)
    (hchildren : ∀ target, Child graph node target → walk.Knows target) :
    Extends graph (· = node) 0 walk ((walk.setHeight node height).setCached node height) where
  sound := (hs.record hnode hvalid hchildren).1
  grows := .setCached walk node height
  knows := (hs.record hnode hvalid hchildren).2
  budget := rfl
  within := hwithin

/-- A walk through a node is sound, whatever has been known in front of it. -/
theorem validateNode_visits (graph : RecursiveMetadataGraph) (maximumDepth levels : Nat)
    (visiting : List JsString) :
    Visits graph levels (validateNode graph maximumDepth levels visiting) := by
  induction levels generalizing visiting with
  | zero =>
      constructor
      · intro node path walk height walk' hs hnode hwithin h
        cases h
      · intro node path walk e walk' hs hnode hwithin h
        cases h
        exact ⟨hs, .refl _⟩
  | succ levels ih =>
      constructor
      · intro node path walk height walk' hs hnode hwithin h
        rw [validateNode] at h
        split at h
        · rename_i knownHeight hlookup
          split at h
          · cases h
          · rename_i hle
            cases h
            have hknows : walk.Knows node := .inl (by rw [hlookup]; rfl)
            exact ⟨hs.heights _ _ hnode hlookup, Nat.le_of_not_lt hle,
              hs.known hnode hknows hwithin⟩
        · rename_i hlookup
          split at h
          · cases h
          · split at h
            · rename_i knownHeight hcached
              split at h
              · cases h
              · rename_i hle
                cases h
                have hknows : walk.Knows node := .inr (by rw [hcached]; rfl)
                have hext := hs.known hnode hknows hwithin
                obtain ⟨hsound, hsame⟩ := hs.hit hnode hcached
                refine ⟨hs.cached _ _ hnode hcached, Nat.le_of_not_lt hle,
                  ⟨⟨hsound, .refl _⟩, fun other hother => ?_, hext.budget, hext.within⟩⟩
                rw [hsame other hother]
                exact hext.knows other hother
            · rename_i hcached
              split at h
              · cases h
              · cases h
              · rename_i budget hnodeBudget hdescriptor
                obtain ⟨hfits, hspend⟩ := consumeGraphNode_eq_ok.mp hnodeBudget
                have hbudget : budget.Within := by
                  rw [← hspend]
                  exact ⟨hfits.1, hfits.2, hwithin.edges⟩
                obtain ⟨height', walk₁, hfields, h⟩ := Outcome.andThen_eq_ok.mp h
                have hpaid := hs.spend hspend hbudget
                obtain ⟨hvisited, hext⟩ :=
                  (ih (node.name :: visiting)).fields_ok hpaid.sound hbudget hfields
                obtain ⟨hvalid, hle⟩ := hvisited.valid hdescriptor
                cases h
                have hbelow := hpaid.trans hext
                have hchildren : ∀ target, Child graph node target → walk₁.Knows target := by
                  rintro target ⟨field, hfield, hfollow⟩
                  rw [hbelow.knows target (registered_of_follow hfollow)]
                  exact .inr (.inr ⟨field, hfield, target, hfollow, .refl⟩)
                have hfresh : ¬walk.Knows node := by
                  rw [Walk.Knows, hlookup, hcached]
                  exact not_or.mpr ⟨Bool.false_ne_true, Bool.false_ne_true⟩
                refine ⟨hvalid, hle,
                  (hbelow.trans (hbelow.sound.recorded hnode hvalid hbelow.within
                    hchildren)).congr ?_ ?_⟩
                · intro other
                  rw [false_or, or_comm]
                  exact reach_iff.symm
                · rw [freshCost_reach hnode hfresh hvalid.not_below, add_zero]
                  rfl
      · intro node path walk e walk' hs hnode hwithin h
        rw [validateNode] at h
        split at h
        · split at h
          · cases h
            exact ⟨hs, .refl _⟩
          · cases h
        · split at h
          · cases h
            exact ⟨hs, .refl _⟩
          · split at h
            · split at h
              · cases h
                exact ⟨hs, .refl _⟩
              · cases h
            · split at h
              · cases h
                exact ⟨hs, .refl _⟩
              · cases h
                exact ⟨hs, .refl _⟩
              · rename_i budget hnodeBudget hdescriptor
                obtain ⟨hfits, hspend⟩ := consumeGraphNode_eq_ok.mp hnodeBudget
                have hbudget : budget.Within := by
                  rw [← hspend]
                  exact ⟨hfits.1, hfits.2, hwithin.edges⟩
                have hpaid := hs.spend hspend hbudget
                rcases Outcome.andThen_eq_error.mp h with hfail | ⟨_, _, _, hdone⟩
                · exact hpaid.toKept.trans
                    ((ih (node.name :: visiting)).fields_error hpaid.sound hbudget hfail)
                · cases hdone

end Nodes
section Completeness
variable {graph : RecursiveMetadataGraph} {walk : Walk} {levels height maximumDepth : Nat}
  {visit : RecursiveMetadataTypeNode → String → Walk → Outcome Nat} {visiting : List JsString}
  {path : String} {node : RecursiveMetadataTypeNode} {fields : List RecursiveMetadataField}
  {names : List JsString}

/-- What a walk into a node with some levels left may not fail on. -/
structure Walkable (graph : RecursiveMetadataGraph) (levels : Nat) (visiting : List JsString)
    (node : RecursiveMetadataTypeNode) : Prop where
  wellFormed : AllWellFormed graph node
  within : Depth.Within (Child graph) levels node
  apart : ∀ target, Reach graph node target → target.name ∉ visiting

def Completes (graph : RecursiveMetadataGraph) (levels : Nat) (visiting : List JsString)
    (visit : RecursiveMetadataTypeNode → String → Walk → Outcome Nat) : Prop :=
  ∀ node path walk, walk.Sound graph → Registered graph node →
    Walkable graph levels visiting node →
    (walk.budget.spend (freshCost graph walk.Knows (Reach graph node))).Within →
      ∃ height walk', visit node path walk = (.ok height, walk')

theorem Visits.fields_complete (hcomplete : Completes graph levels visiting visit)
    (hvisit : Visits graph levels visit) (hs : walk.Sound graph)
    (hnames : ∀ field ∈ fields, field.name ∉ names) (hdistinct : (fields.map (·.name)).Nodup)
    (hshaped : ∀ field ∈ fields, field.Shaped node)
    (htargets : ∀ field ∈ fields, field.isContainer = true →
      ∃ target, graph.follow field = some target ∧ Walkable graph levels visiting target)
    (hbudget : (walk.budget.spend ((0, 0, edgeCount fields) +
      freshCost graph walk.Knows (Below graph fields))).Within) :
    ∃ height' walk',
      validateFields graph visit node path fields names height walk = (.ok height', walk') := by
  induction fields generalizing names height walk with
  | nil => exact ⟨height, walk, rfl⟩
  | cons field fields ih =>
      rw [List.forall_mem_cons] at hnames hshaped htargets
      rw [List.map_cons, List.nodup_cons] at hdistinct
      have hcheck : checkField node path names field = .ok () :=
        checkField_eq_ok.mpr ⟨hnames.1, hshaped.1⟩
      have hlater : ∀ other ∈ fields, other.name ∉ field.name :: names := by
        intro other hother hmem
        rcases List.mem_cons.mp hmem with hname | hmem
        · exact hdistinct.1 (List.mem_map.mpr ⟨other, hother, hname⟩)
        · exact hnames.2 other hother hmem
      rw [validateFields, hcheck]
      cases hreference : field.reference with
      | scalar internalType =>
          have hscalar : field.isContainer = false := by rw [isContainer_eq, hreference]
          have hfollow : graph.follow field = none := by
            rw [RecursiveMetadataGraph.follow, hreference]
          have hbelow (other : RecursiveMetadataTypeNode) :
              Below graph (field :: fields) other ↔ Below graph fields other := by
            rw [below_cons, hfollow]
            simp
          rw [edgeCount, List.countP_cons_of_neg (by rw [hscalar]; decide),
            freshCost_congr fun other _ _ => hbelow other] at hbudget
          exact ih hs hlater hdistinct.2 hshaped.2 htargets.2 hbudget
      | container kind targetType cyclic =>
          have hcontainer : field.isContainer = true := by rw [isContainer_eq, hreference]
          obtain ⟨target, hfollow, hwalkable⟩ := htargets.1 hcontainer
          have hknown (walk₁ : Walk)
              (hknows : ∀ other, Registered graph other →
                (walk₁.Knows other ↔ walk.Knows other ∨ Reach graph target other)) :
              freshCost graph walk.Knows (Below graph (field :: fields)) =
                freshCost graph walk.Knows (Reach graph target) +
                  freshCost graph walk₁.Knows (Below graph fields) := by
            rw [freshCost_congr fun other _ _ => below_cons_of_follow hfollow]
            exact freshCost_or hknows
          have hsum : freshCost graph walk.Knows (Below graph (field :: fields)) =
              freshCost graph walk.Knows (Reach graph target) +
                freshCost graph (fun other => walk.Knows other ∨ Reach graph target other)
                  (Below graph fields) := by
            rw [freshCost_congr fun other _ _ => below_cons_of_follow hfollow]
            exact freshCost_or fun other _ => Iff.rfl
          have hedges : (0, 0, edgeCount (field :: fields)) =
              (((0, 0, 1) : Nat × Nat × Nat) + (0, 0, edgeCount fields)) := by
            rw [edgeCount, List.countP_cons_of_pos hcontainer, Nat.add_comm, edgeCount]
            rfl
          rw [hedges, hsum, add_add_add_comm] at hbudget
          have hfirst := hbudget.of_spend_add
          have hedge : (walk.budget.spend (0, 0, 1)).Within := hfirst.of_spend_add
          have hconsume : consumeGraphEdge walk.budget (fieldPath path field) =
              .ok (walk.budget.spend (0, 0, 1)) :=
            consumeGraphEdge_eq_ok.mpr ⟨hedge.edges, rfl⟩
          have htarget : targetNode graph kind targetType cyclic (fieldPath path field) =
              .ok target := (targetNode_eq_ok_iff_follow hreference).mpr hfollow
          have hpaid := hs.spend rfl hedge
          rw [← GraphTraversalBudget.spend_spend] at hfirst
          obtain ⟨k, walk₁, hwalk⟩ := hcomplete target (fieldPath path field) _ hpaid.sound
            (registered_of_follow hfollow) hwalkable hfirst
          obtain ⟨-, -, hchild⟩ :=
            hvisit.ok hpaid.sound (registered_of_follow hfollow) hedge hwalk
          simp only [hconsume, htarget, hwalk, Outcome.andThen]
          refine ih hchild.sound hlater hdistinct.2 hshaped.2 htargets.2 ?_
          rw [hchild.budget, GraphTraversalBudget.spend_spend, GraphTraversalBudget.spend_spend]
          have hrest : freshCost graph walk₁.Knows (Below graph fields) =
              freshCost graph (fun other => walk.Knows other ∨ Reach graph target other)
                (Below graph fields) :=
            add_left_cancel ((hknown walk₁ hchild.knows).symm.trans hsum)
          rw [hrest, ← add_assoc]
          exact hbudget

/-- A walk through a node which is well formed and not too deep comes to its end, if the budget
covers what has not been known. -/
theorem validateNode_completes (graph : RecursiveMetadataGraph) (maximumDepth levels : Nat)
    (visiting : List JsString) :
    Completes graph levels visiting (validateNode graph maximumDepth levels visiting) := by
  induction levels generalizing visiting with
  | zero => exact fun node path walk _ _ hwalkable _ => hwalkable.within.elim
  | succ levels ih =>
      intro node path walk hs hnode hwalkable hbudget
      rw [validateNode]
      cases hlookup : walk.subtreeHeights.lookup node.name with
      | some knownHeight =>
          have hle := (hs.heights _ _ hnode hlookup).height.least _ hwalkable.within
          dsimp only
          rw [if_neg (Nat.not_lt.mpr hle)]
          exact ⟨_, _, rfl⟩
      | none =>
          dsimp only
          rw [if_neg (hwalkable.apart node .refl)]
          cases hcached : walk.cached? node with
          | some knownHeight =>
              have hle := (hs.cached _ _ hnode hcached).height.least _ hwalkable.within
              dsimp only
              rw [if_neg (Nat.not_lt.mpr hle)]
              exact ⟨_, _, rfl⟩
          | none =>
              have hfresh : ¬walk.Knows node := by
                rw [Walk.Knows, hlookup, hcached]
                exact not_or.mpr ⟨Bool.false_ne_true, Bool.false_ne_true⟩
              have hacyclic := hwalkable.within.not_cyclic
              have hbelow : ¬Below graph node.fields node := by
                rintro ⟨field, hfield, target, hfollow, hreach⟩
                exact hacyclic (.head' ⟨field, hfield, hfollow⟩ hreach)
              obtain ⟨hwell, hchildren⟩ := allWellFormed_iff.mp hwalkable.wellFormed
              rw [freshCost_reach hnode hfresh hbelow] at hbudget
              have hfirst := hbudget.of_spend_add
              have hconsume : consumeGraphNode node walk.budget path =
                  .ok (walk.budget.spend (1, node.fields.length, 0)) :=
                consumeGraphNode_eq_ok.mpr ⟨⟨hfirst.nodes, hfirst.rows⟩, rfl⟩
              have hdescriptor : checkDescriptor node path = .ok () :=
                checkDescriptor_eq_ok.mpr ⟨hwell.scalar, hwell.table, hwell.structured⟩
              have hpaid := hs.spend rfl hfirst
              rw [← GraphTraversalBudget.spend_spend] at hbudget
              have htargets : ∀ field ∈ node.fields, field.isContainer = true →
                  ∃ target, graph.follow field = some target ∧
                    Walkable graph levels (node.name :: visiting) target := by
                intro field hfield hcontainer
                obtain ⟨target, hfollow⟩ := hwell.resolved field hfield hcontainer
                have hstep : Child graph node target := ⟨field, hfield, hfollow⟩
                refine ⟨target, hfollow, hchildren target hstep, hwalkable.within target hstep, ?_⟩
                intro other hreach hmem
                rcases List.mem_cons.mp hmem with hname | hmem
                · have hregistered := (registered_of_follow hfollow).of_reachable hreach
                  obtain rfl := hregistered.eq_of_name hnode hname
                  exact hacyclic (.head' hstep hreach)
                · exact hwalkable.apart other (.head hstep hreach) hmem
              obtain ⟨height', walk', hfields⟩ := Visits.fields_complete (ih (node.name :: visiting))
                (validateNode_visits graph maximumDepth levels (node.name :: visiting))
                hpaid.sound (fun _ _ => List.not_mem_nil) hwell.distinct hwell.shaped htargets
                hbudget
              simp only [hconsume, hdescriptor]
              rw [hfields]
              exact ⟨_, _, rfl⟩

end Completeness
end OpenRfc.Xrfc
