import OpenRfc.RecursiveClassic.Unfolding

/-!
A walk builds the tree of a type if and only if there is one and the budget has room for it,
whatever is active above it.
-/

namespace OpenRfc.RecursiveClassic
open Fallible Xrfc
open RecursiveClassicXrfcDescriptor (nodeCount nodeCounts height heights)

section Run
variable {α β : Type} (budget : DescriptorBudget)

theorem run_bind (x : Build α) (f : α → Build β) :
    (x >>= f).run budget = match x.run budget with
      | (.ok a, budget') => (f a).run budget'
      | (.error e, budget') => (.error e, budget') := by
  change (StateT.bind x.run (ExceptT.bindCont f)) budget = _
  rw [StateT.bind]
  change (match x.run budget with | (a, s) => ExceptT.bindCont f a s) = _
  cases x.run budget with
  | mk result budget' => cases result <;> rfl

theorem run_checked (x : Except String α) : (checked x).run budget = (x, budget) := rfl

theorem run_get : (get : Build DescriptorBudget).run budget = (.ok budget, budget) := rfl

theorem run_set (budget' : DescriptorBudget) :
    (set budget' : Build PUnit).run budget = (.ok (), budget') := rfl

theorem run_visitDescriptor (limits : NormalizedRecursiveClassicXrfcLimits) (depth : Nat)
    (path : String) :
    ∃ e, (visitDescriptor limits depth path).run budget =
      if depth ≤ limits.maxDepth then
        (require (budget.nodes + 1 ≤ limits.maxNodes) e,
          { budget with
            nodes := budget.nodes + 1, maximumDepth := max budget.maximumDepth depth })
      else (.error e, budget) := by
  by_cases hdepth : depth ≤ limits.maxDepth
  · refine ⟨s!"{path} descriptor node count exceeds {limits.maxNodes}", ?_⟩
    rw [visitDescriptor, run_bind, run_checked, require_of hdepth, if_pos hdepth]
    rfl
  · refine ⟨s!"{path} descriptor depth exceeds {limits.maxDepth}", ?_⟩
    rw [visitDescriptor, run_bind, run_checked, require, if_neg hdepth, if_neg hdepth]

end Run

section Exactness
variable {graph : RecursiveMetadataGraph} {limits : NormalizedRecursiveClassicXrfcLimits}

/-- The template of a type: its tree and the measures of it, or that there is no tree within the
limits. -/
def TemplateOf (graph : RecursiveMetadataGraph) (limits : NormalizedRecursiveClassicXrfcLimits)
    (typeName : JsString) (kind : ClassicXrfcKind) : Except String DescriptorTemplate → Prop
  | .ok template => Unfolds graph typeName kind [] template.root ∧
      template.descriptorNodeCount = template.root.nodeCount ∧
      template.descriptorMaximumDepth = template.root.height ∧
      template.root.nodeCount ≤ limits.maxNodes ∧ template.root.height ≤ limits.maxDepth
  | .error _ => ∀ descriptor, Unfolds graph typeName kind [] descriptor →
      ¬(descriptor.nodeCount ≤ limits.maxNodes ∧ descriptor.height ≤ limits.maxDepth)

def ValidCache (graph : RecursiveMetadataGraph) (cache : TemplateCache) : Prop :=
  ∀ kind typeName limits template, ((kind, typeName, limits), template) ∈ cache →
    TemplateOf graph limits typeName kind template

structure ValidCaches (graph : RecursiveMetadataGraph) (caches : DescriptorCaches) : Prop where
  templates : ValidCache graph caches.templates
  subtrees : ValidCache graph caches.subtrees

/-- A budget at a depth, below what has been visited. -/
structure Ready (graph : RecursiveMetadataGraph) (limits : NormalizedRecursiveClassicXrfcLimits)
    (depth : Nat) (budget : DescriptorBudget) : Prop where
  nodes : budget.nodes ≤ limits.maxNodes
  reached : depth ≤ budget.maximumDepth + 1
  maximumDepth : budget.maximumDepth ≤ limits.maxDepth
  caches : ∀ caches ∈ budget.caches, ValidCaches graph caches

/-- There is room for so many nodes and levels. -/
def Room (limits : NormalizedRecursiveClassicXrfcLimits) (budget : DescriptorBudget)
    (depth count height : Nat) : Prop :=
  budget.nodes + count ≤ limits.maxNodes ∧ depth + height ≤ limits.maxDepth + 1

/-- A walk finds what is meant if there is room for it, charges for it, and keeps the caches. -/
def Builds {α : Type} (graph : RecursiveMetadataGraph)
    (limits : NormalizedRecursiveClassicXrfcLimits) (depth : Nat) (x : Build α) (Means : α → Prop)
    (count height : α → Nat) : Prop :=
  ∀ budget, Ready graph limits depth budget → ∀ result budget', x.run budget = (result, budget') →
    (∀ caches ∈ budget'.caches, ValidCaches graph caches) ∧
    match result with
    | .ok a => Means a ∧ Room limits budget depth (count a) (height a) ∧
        budget'.nodes = budget.nodes + count a ∧
        budget'.maximumDepth = max budget.maximumDepth (depth + height a - 1)
    | .error _ => ∀ a, Means a → ¬Room limits budget depth (count a) (height a)

variable {α β : Type} {depth : Nat} {Means : α → Prop} {count levels : α → Nat}

theorem builds_checked (x : Except String α) :
    Builds graph limits depth (checked x) (fun a => x = .ok a) (fun _ => 0) fun _ => 0 := by
  intro budget hready result budget' hrun
  obtain ⟨rfl, rfl⟩ := Prod.mk.inj hrun
  refine ⟨hready.caches, ?_⟩
  have hdepth := hready.reached
  cases x with
  | error e => exact nofun
  | ok a =>
      have hmaximum := hready.maximumDepth
      refine ⟨rfl, ⟨hready.nodes, ?_⟩, rfl, ?_⟩ <;> dsimp only <;> omega

/-- A check in front. -/
theorem Builds.checked_bind {γ : Type} {x : Except String γ} {f : γ → Build α}
    (hok : ∀ c, x = .ok c → Builds graph limits depth (f c) Means count levels)
    (herror : ∀ e, x = .error e → ∀ a, ¬Means a) :
    Builds graph limits depth (checked x >>= f) Means count levels := by
  intro budget hready result budget' hrun
  rw [run_bind, run_checked] at hrun
  cases x with
  | error e =>
      obtain ⟨rfl, rfl⟩ := Prod.mk.inj hrun
      exact ⟨hready.caches, fun a ha => absurd ha (herror e rfl a)⟩
  | ok c => exact hok c rfl budget hready result budget' hrun

theorem Builds.congr {Means' : α → Prop} {count' levels' : α → Nat} {x : Build α}
    (h : Builds graph limits depth x Means count levels) (hmeans : ∀ a, Means a ↔ Means' a)
    (hcount : ∀ a, Means a → count a = count' a) (hlevels : ∀ a, Means a → levels a = levels' a) :
    Builds graph limits depth x Means' count' levels' := by
  obtain rfl : Means = Means' := funext fun a => propext (hmeans a)
  intro budget hready result budget' hrun
  obtain ⟨hcaches, hresult⟩ := h budget hready result budget' hrun
  refine ⟨hcaches, ?_⟩
  cases result with
  | error e =>
      intro a ha
      rw [← hcount a ha, ← hlevels a ha]
      exact hresult a ha
  | ok a =>
      dsimp only at hresult ⊢
      rwa [← hcount a hresult.1, ← hlevels a hresult.1]

/-- What is made of a result. -/
theorem Builds.map {x : Build α} {count' levels' : β → Nat}
    (h : Builds graph limits depth x Means count levels) (f : α → β)
    (hcount : ∀ a, count' (f a) = count a) (hlevels : ∀ a, levels' (f a) = levels a) :
    Builds graph limits depth (x >>= fun a => pure (f a)) (fun b => ∃ a, Means a ∧ f a = b) count'
      levels' := by
  intro budget hready result budget' hrun
  rw [run_bind] at hrun
  cases hx : x.run budget with
  | mk result₁ budget₁ =>
      obtain ⟨hcaches, hresult⟩ := h budget hready result₁ budget₁ hx
      rw [hx] at hrun
      cases result₁ with
      | error e =>
          obtain ⟨rfl, rfl⟩ := Prod.mk.inj hrun
          refine ⟨hcaches, ?_⟩
          rintro _ ⟨a, ha, rfl⟩
          rw [hcount, hlevels]
          exact hresult a ha
      | ok a =>
          obtain ⟨rfl, rfl⟩ := Prod.mk.inj hrun
          obtain ⟨ha, hroom, hnodes, hdepth⟩ := hresult
          refine ⟨hcaches, ⟨a, ha, rfl⟩, ?_⟩
          rw [hcount, hlevels]
          exact ⟨hroom, hnodes, hdepth⟩

/-- A visit charges for one node on one level. -/
theorem Builds.visit {y : Build α} {path : String}
    (h : Builds graph limits (depth + 1) y Means count levels) :
    Builds graph limits depth (visitDescriptor limits depth path >>= fun _ => y) Means
      (fun a => count a + 1) fun a => levels a + 1 := by
  intro budget hready result budget' hrun
  obtain ⟨e, hvisit⟩ := run_visitDescriptor budget limits depth path
  rw [run_bind, hvisit] at hrun
  have hmaximum := hready.maximumDepth
  by_cases hdepth : depth ≤ limits.maxDepth
  · rw [if_pos hdepth] at hrun
    by_cases hnodes : budget.nodes + 1 ≤ limits.maxNodes
    · rw [require_of hnodes] at hrun
      have hbelow : Ready graph limits (depth + 1)
          { budget with
            nodes := budget.nodes + 1, maximumDepth := max budget.maximumDepth depth } := by
        refine ⟨hnodes, ?_, ?_, hready.caches⟩ <;> dsimp only <;> omega
      obtain ⟨hcaches, hresult⟩ := h _ hbelow result budget' hrun
      refine ⟨hcaches, ?_⟩
      cases result with
      | error e =>
          rintro a ha ⟨hcount, hlevels⟩
          refine hresult a ha ⟨?_, ?_⟩ <;> dsimp only at hcount hlevels ⊢ <;> omega
      | ok a =>
          obtain ⟨ha, ⟨hcount, hlevels⟩, hnodes', hdepth'⟩ := hresult
          dsimp only at hcount hlevels hnodes' hdepth' ⊢
          exact ⟨ha, ⟨by omega, by omega⟩, by omega, by omega⟩
    · rw [require, if_neg hnodes] at hrun
      obtain ⟨rfl, rfl⟩ := Prod.mk.inj hrun
      refine ⟨hready.caches, fun a _ hfits => ?_⟩
      have hcount := hfits.1
      dsimp only at hcount
      omega
  · rw [if_neg hdepth] at hrun
    obtain ⟨rfl, rfl⟩ := Prod.mk.inj hrun
    refine ⟨hready.caches, fun a _ hfits => ?_⟩
    have hlevels := hfits.2
    dsimp only at hlevels
    omega

/-- One tree behind another. -/
theorem Builds.cons {x : Build RecursiveClassicXrfcDescriptor}
    {xs : Build (List RecursiveClassicXrfcDescriptor)} {First : RecursiveClassicXrfcDescriptor → Prop}
    {Rest : List RecursiveClassicXrfcDescriptor → Prop}
    (hx : Builds graph limits depth x First nodeCount height)
    (hxs : Builds graph limits depth xs Rest nodeCounts heights)
    (hunique : ∀ d d', First d → First d' → d = d') :
    Builds graph limits depth (x >>= fun first => xs >>= fun rest => pure (first :: rest))
      (fun descriptors => ∃ first, First first ∧ ∃ rest, Rest rest ∧ first :: rest = descriptors)
      nodeCounts heights := by
  intro budget hready result budget' hrun
  rw [run_bind] at hrun
  cases hfirst : x.run budget with
  | mk result₁ budget₁ =>
      rw [hfirst] at hrun
      obtain ⟨hcaches₁, hresult₁⟩ := hx budget hready result₁ budget₁ hfirst
      cases result₁ with
      | error e =>
          obtain ⟨rfl, rfl⟩ := Prod.mk.inj hrun
          refine ⟨hcaches₁, ?_⟩
          rintro _ ⟨first, hmeans, rest, -, rfl⟩ ⟨hcount, hlevels⟩
          rw [nodeCounts] at hcount
          rw [heights] at hlevels
          exact hresult₁ first hmeans ⟨by omega, by omega⟩
      | ok first =>
          obtain ⟨hmeans₁, ⟨hcount₁, hlevels₁⟩, hnodes₁, hdepth₁⟩ := hresult₁
          have hmaximum := hready.maximumDepth
          have hreached := hready.reached
          have hready₁ : Ready graph limits depth budget₁ :=
            ⟨by omega, by omega, by omega, hcaches₁⟩
          dsimp only at hrun
          rw [run_bind] at hrun
          cases hrest : xs.run budget₁ with
          | mk result₂ budget₂ =>
              rw [hrest] at hrun
              obtain ⟨hcaches₂, hresult₂⟩ := hxs budget₁ hready₁ result₂ budget₂ hrest
              cases result₂ with
              | error e =>
                  obtain ⟨rfl, rfl⟩ := Prod.mk.inj hrun
                  refine ⟨hcaches₂, ?_⟩
                  rintro _ ⟨first', hmeans, rest, hrest, rfl⟩ ⟨hcount, hlevels⟩
                  obtain rfl := hunique first first' hmeans₁ hmeans
                  rw [nodeCounts] at hcount
                  rw [heights] at hlevels
                  exact hresult₂ rest hrest ⟨by omega, by omega⟩
              | ok rest =>
                  obtain ⟨rfl, rfl⟩ := Prod.mk.inj hrun
                  obtain ⟨hmeans₂, ⟨hcount₂, hlevels₂⟩, hnodes₂, hdepth₂⟩ := hresult₂
                  refine ⟨hcaches₂, ⟨first, hmeans₁, rest, hmeans₂, rfl⟩, ⟨?_, ?_⟩, ?_, ?_⟩
                  all_goals
                    simp only [nodeCounts, heights]
                    omega

section Walk
variable {visitNode : NodeVisit} {field : RecursiveMetadataField} {path : String}

/-- A visit of the types of a field. -/
def VisitsField (graph : RecursiveMetadataGraph) (limits : NormalizedRecursiveClassicXrfcLimits)
    (visitNode : NodeVisit) (field : RecursiveMetadataField) (depth : Nat) : Prop :=
  ∀ kind targetType, field.reference = .container kind targetType false → ∀ name path,
    Builds graph limits depth (visitNode targetType kind name path depth)
      (Unfolds graph targetType kind name) nodeCount height

theorem builds_reference (hvisit : VisitsField graph limits visitNode field depth) :
    Builds graph limits depth (descriptorForReference limits visitNode field path depth)
      (FieldUnfolds graph field) nodeCount height := by
  rw [descriptorForReference]
  cases hreference : field.reference with
  | scalar referenceType =>
      refine .checked_bind (fun _ hname => ?_) fun e hname d hmeans => ?_
      · have hvisited : Builds graph limits depth
            (scalarDescriptor limits field referenceType path depth) _ _ _ :=
          (builds_checked (checkScalar field referenceType path)).visit
        refine hvisited.congr (fun d => ?_) (fun d hd => ?_) fun d hd => ?_
        · rw [fieldUnfolds_scalar path hreference, hname]
          exact (and_iff_right rfl).symm
        all_goals
          obtain ⟨internalType, rfl⟩ := eq_scalar_of_checkScalar field path hd
          rfl
      · rw [fieldUnfolds_scalar path hreference, hname] at hmeans
        exact nomatch hmeans.1
  | container kind targetType cyclic =>
      refine .checked_bind (fun _ hname => ?_) fun e hname d hmeans => ?_
      · refine .checked_bind (fun _ hchecked => ?_) fun e hchecked d hmeans => ?_
        · have hcyclic : cyclic = false := by
            simp only [checkReference, bind_eq_ok, require_eq_ok, exists_const] at hchecked
            exact hchecked.1
          subst hcyclic
          refine (hvisit kind targetType hreference field.name path).congr (fun d => ?_)
            (fun d _ => rfl) fun d _ => rfl
          rw [fieldUnfolds_container path hreference, hname, hchecked]
          exact ⟨fun h => ⟨rfl, rfl, h⟩, fun h => h.2.2⟩
        · rw [fieldUnfolds_container path hreference, hchecked] at hmeans
          exact nomatch hmeans.2.1
      · rw [fieldUnfolds_container path hreference, hname] at hmeans
        exact nomatch hmeans.1

theorem builds_fields {fields : List RecursiveMetadataField} {index : Nat} {names : List JsString}
    (hvisit : ∀ field ∈ fields, VisitsField graph limits visitNode field (depth + 1)) :
    Builds graph limits (depth + 1) (buildFields limits visitNode path depth fields index names)
      (FieldsUnfold graph fields index names) nodeCounts heights := by
  induction fields generalizing index names with
  | nil =>
      have hnone : Builds graph limits (depth + 1)
          (buildFields limits visitNode path depth [] index names) _ _ _ := builds_checked (.ok [])
      refine hnone.congr (fun descriptors => ?_) (fun descriptors hnil => ?_)
        fun descriptors hnil => ?_
      · rw [fieldsUnfold_nil, Except.ok.injEq]
      all_goals
        obtain rfl := Except.ok.inj hnil
        rfl
  | cons field fields ih =>
      rw [List.forall_mem_cons] at hvisit
      rw [buildFields]
      refine .checked_bind (fun _ hchecked => ?_) fun e hchecked descriptors hmeans => ?_
      · have hfield : Builds graph limits (depth + 1) (descriptorForReference limits visitNode field
            (structureFieldPath path field index) (depth + 1)) (FieldUnfolds graph field)
            nodeCount height := builds_reference hvisit.1
        have hrest : Builds graph limits (depth + 1)
            (buildFields limits visitNode path depth fields (index + 1) (field.name :: names))
            (FieldsUnfold graph fields (index + 1) (field.name :: names)) nodeCounts heights :=
          ih hvisit.2
        have hcons := hfield.cons hrest fun d d' hd hd' => hd.unique hd'
        refine hcons.congr (fun descriptors => ?_) (fun _ _ => rfl) fun _ _ => rfl
        rw [fieldsUnfold_cons path (structureFieldPath path field index), hchecked]
        exact (and_iff_right rfl).symm
      · rw [fieldsUnfold_cons path (structureFieldPath path field index), hchecked] at hmeans
        exact nomatch hmeans.1

/-- The nodes and the levels below the root of a tree. -/
def nodesBelow (descriptor : RecursiveClassicXrfcDescriptor) : Nat := descriptor.nodeCount - 1
def levelsBelow (descriptor : RecursiveClassicXrfcDescriptor) : Nat := descriptor.height - 1

/-- The walk through a type, which visits the types that its node refers to. -/
theorem builds_uncached {visitNode : List JsString → NodeVisit} {activeTypes : List JsString}
    {typeName : JsString} {kind : ClassicXrfcKind} {name : JsString}
    (hactive : ∀ ancestor ∈ activeTypes, Below graph typeName ancestor)
    (hvisit : typeName ∉ activeTypes → ∀ targetType, Refers graph typeName targetType →
      ∀ kind name path, Builds graph limits (depth + 1)
        (visitNode (typeName :: activeTypes) targetType kind name path (depth + 1))
        (Unfolds graph targetType kind name) nodeCount height) :
    Builds graph limits depth
      (buildNodeDescriptorUncached graph limits visitNode activeTypes typeName kind name path depth)
      (Unfolds graph typeName kind name) nodeCount height := by
  have hbelow : Builds graph limits depth
      (buildNodeDescriptorUncached graph limits visitNode activeTypes typeName kind name path depth)
      (Unfolds graph typeName kind name) (fun d => nodesBelow d + 1) fun d => levelsBelow d + 1 := by
    refine Builds.visit ?_
    refine .checked_bind (fun _ hnew => ?_) fun e hold d hmeans => ?_
    · have hnew := require_eq_ok.mp hnew
      refine .checked_bind (fun node hnode => ?_) fun e hnone d hmeans => ?_
      · obtain ⟨hfound, -, -⟩ := requiredNode_eq_ok.mp hnode
        cases kind with
        | structured =>
            have hfields : ∀ field ∈ node.fields,
                VisitsField graph limits (visitNode (typeName :: activeTypes)) field (depth + 1) :=
              fun field hfield targetKind targetType hreference =>
                fun name path => hvisit hnew targetType
                  ⟨node, hfound, field, hfield, targetKind, false, hreference⟩ _ _ _
            have hstructure : Builds graph limits (depth + 1)
                (buildFields limits (visitNode (typeName :: activeTypes)) path depth node.fields 0 [] >>=
                  fun fields => pure (RecursiveClassicXrfcDescriptor.structured name node.name fields))
                _ nodesBelow levelsBelow :=
              (builds_fields hfields).map _ (fun _ => rfl) fun _ => rfl
            refine hstructure.congr (fun d => ?_) (fun _ _ => rfl) fun _ _ => rfl
            rw [unfolds_structured path, hnode]
            simp only [Except.ok.injEq, exists_eq_left']
        | table =>
            refine .checked_bind (fun targetType hline => ?_) fun e hline d hmeans => ?_
            · have hrefers : Refers graph typeName targetType := refers_of_lineType hfound hline
              have hline' := hvisit hnew targetType hrefers .structured [] s!"{path}[]"
              have htable : Builds graph limits (depth + 1) _ _ nodesBelow levelsBelow :=
                hline'.map (.table name node.name) (fun _ => rfl) fun _ => rfl
              refine htable.congr (fun d => ?_) (fun _ _ => rfl) fun _ _ => rfl
              rw [unfolds_table path, hnode]
              simp only [Except.ok.injEq, exists_eq_left', hline]
            · rw [unfolds_table path, hnode] at hmeans
              simp only [Except.ok.injEq, exists_eq_left', hline] at hmeans
              obtain ⟨_, hline', -⟩ := hmeans
              cases hline'
      · obtain ⟨node, hnode⟩ := hmeans.exists_node
        rw [← eq_ok_of_toOption (toOption_requiredNode path _ _ _), hnone] at hnode
        cases hnode
    · have hmem : typeName ∈ activeTypes := by
        by_contra hnew
        rw [require_of hnew] at hold
        cases hold
      exact hmeans.not_below (hactive typeName hmem)
  refine hbelow.congr (fun _ => .rfl) (fun d _ => ?_) fun d _ => ?_
  · have hpos : 0 < d.nodeCount := by cases d <;> simp [nodeCount]
    exact Nat.sub_add_cancel hpos
  · exact Nat.sub_add_cancel d.height_pos

end Walk

end Exactness
end OpenRfc.RecursiveClassic
