import OpenRfc.RecursiveClassic.Exactness

/-!
The plans of parameters with and without caches. What the caches keep of a type, be it a tree or a
failure, is good at every depth and with every budget, since it does not depend on the types above
the one for which it was first built.
-/

namespace OpenRfc.RecursiveClassic
open Fallible Xrfc
open RecursiveClassicXrfcDescriptor (nodeCount height)

section Walk
variable {graph : RecursiveMetadataGraph} {limits : NormalizedRecursiveClassicXrfcLimits}
  {typeName name : JsString} {kind : ClassicXrfcKind} {caches : DescriptorCaches}

theorem ValidCache.lookup {cache : TemplateCache} {template : Except String DescriptorTemplate}
    (h : ValidCache graph cache) (hlookup : cache.lookup (kind, typeName, limits) = some template) :
    TemplateOf graph limits typeName kind template := by
  obtain ⟨front, behind, rfl, -⟩ := List.lookup_eq_some_iff.mp hlookup
  exact h _ _ _ _ (by simp)

theorem ValidCache.cons {cache : TemplateCache} {template : Except String DescriptorTemplate}
    (h : ValidCache graph cache) (htemplate : TemplateOf graph limits typeName kind template) :
    ValidCache graph (((kind, typeName, limits), template) :: cache) := by
  intro kind' typeName' limits' template' hmem
  rcases List.mem_cons.mp hmem with heq | hmem
  · simp only [Prod.mk.injEq] at heq
    obtain ⟨⟨rfl, rfl, rfl⟩, rfl⟩ := heq
    exact htemplate
  · exact h _ _ _ _ hmem

/-- A template is built with a budget of its own. -/
theorem buildTemplate_spec {visit : NodeVisit} (hcaches : ValidCaches graph caches)
    (hvisit : Builds graph limits 1 (visit typeName kind [] descriptorTemplatePath 1)
      (Unfolds graph typeName kind []) nodeCount height) :
    TemplateOf graph limits typeName kind (buildTemplate visit typeName kind caches).1 ∧
      ∀ caches' ∈ (buildTemplate visit typeName kind caches).2, ValidCaches graph caches' := by
  have hready : Ready graph limits 1 ⟨0, 0, some caches⟩ := by
    refine ⟨Nat.zero_le _, Nat.le_refl _, Nat.zero_le _, fun caches' h => ?_⟩
    obtain rfl := Option.some.inj h
    exact hcaches
  rw [buildTemplate]
  cases hrun : (visit typeName kind [] descriptorTemplatePath 1).run ⟨0, 0, some caches⟩ with
  | mk result budget =>
      obtain ⟨hvalid, hresult⟩ := hvisit _ hready result budget hrun
      refine ⟨?_, hvalid⟩
      cases result with
      | error e =>
          intro descriptor hunfolds ⟨hcount, hlevels⟩
          refine hresult descriptor hunfolds ⟨?_, ?_⟩
          · dsimp only
            omega
          · omega
      | ok root =>
          obtain ⟨hunfolds, ⟨hcount, hlevels⟩, hnodes, hdepth⟩ := hresult
          dsimp only at hcount hnodes hdepth
          have hpos := root.height_pos
          refine ⟨hunfolds, ?_, ?_, ?_, ?_⟩ <;> dsimp only <;> omega

theorem subtreeTemplate_spec {uncached : NodeVisit} (hcaches : ValidCaches graph caches)
    (huncached : Builds graph limits 1 (uncached typeName kind [] descriptorTemplatePath 1)
      (Unfolds graph typeName kind []) nodeCount height) :
    TemplateOf graph limits typeName kind (subtreeTemplate limits uncached typeName kind caches).1 ∧
      ∀ caches' ∈ (subtreeTemplate limits uncached typeName kind caches).2,
        ValidCaches graph caches' := by
  rw [subtreeTemplate]
  cases hlookup : caches.subtrees.lookup (kind, typeName, limits) with
  | some template =>
      refine ⟨hcaches.subtrees.lookup hlookup, fun caches' h => ?_⟩
      obtain rfl := Option.some.inj h
      exact hcaches
  | none =>
      obtain ⟨htemplate, hvalid⟩ := buildTemplate_spec hcaches huncached
      refine ⟨htemplate, fun caches' h => ?_⟩
      obtain ⟨built, hbuilt, rfl⟩ := Option.map_eq_some_iff.mp h
      exact ⟨(hvalid built hbuilt).templates, (hvalid built hbuilt).subtrees.cons htemplate⟩

theorem run_applyCachedDescriptorMetrics (template : DescriptorTemplate) (depth : Nat)
    (path : String) (budget : DescriptorBudget) :
    ∃ e, (applyCachedDescriptorMetrics limits template depth path).run budget =
      if depth + template.descriptorMaximumDepth - 1 ≤ limits.maxDepth ∧
          budget.nodes + template.descriptorNodeCount ≤ Double.maxSafeInteger ∧
          budget.nodes + template.descriptorNodeCount ≤ limits.maxNodes then
        (.ok (), { budget with
          nodes := budget.nodes + template.descriptorNodeCount
          maximumDepth :=
            max budget.maximumDepth (depth + template.descriptorMaximumDepth - 1) })
      else (.error e, budget) := by
  by_cases hdepth : depth + template.descriptorMaximumDepth - 1 ≤ limits.maxDepth
  · by_cases hnodes : budget.nodes + template.descriptorNodeCount ≤ Double.maxSafeInteger ∧
        budget.nodes + template.descriptorNodeCount ≤ limits.maxNodes
    · refine ⟨"", ?_⟩
      rw [if_pos ⟨hdepth, hnodes⟩, applyCachedDescriptorMetrics, run_bind, run_checked,
        require_of hdepth]
      exact congrArg (fun x : Except String Unit => ExceptT.run (checked x >>= fun _ => set _) budget)
        (require_of hnodes)
    · refine ⟨s!"{path} descriptor node count exceeds {limits.maxNodes}", ?_⟩
      rw [if_neg (fun h => hnodes h.2), applyCachedDescriptorMetrics, run_bind, run_checked,
        require_of hdepth]
      exact congrArg (fun x : Except String Unit => ExceptT.run (checked x >>= fun _ => set _) budget)
        (if_neg hnodes)
  · refine ⟨s!"{path} descriptor depth exceeds {limits.maxDepth}", ?_⟩
    rw [if_neg (fun h => hdepth h.1), applyCachedDescriptorMetrics, run_bind, run_checked, require,
      if_neg hdepth]

/-- A template charges as the walk does for which it stands. -/
theorem builds_useTemplate {template : Except String DescriptorTemplate} {path : String}
    {depth : Nat} (htemplate : TemplateOf graph limits typeName kind template)
    (hlimits : limits.maxNodes ≤ Double.maxSafeInteger) (hdepth : 0 < depth) :
    Builds graph limits depth (useTemplate limits template name path depth)
      (Unfolds graph typeName kind name) nodeCount height := by
  intro budget hready result budget' hrun
  rw [useTemplate, run_bind, run_checked] at hrun
  cases template with
  | error message =>
      obtain ⟨rfl, rfl⟩ := Prod.mk.inj hrun
      refine ⟨hready.caches, fun d hunfolds ⟨hcount, hlevels⟩ => ?_⟩
      refine htemplate (d.withName []) (hunfolds.withName []) ⟨?_, ?_⟩
      · rw [d.nodeCount_withName]
        omega
      · rw [d.height_withName]
        omega
  | ok template =>
      obtain ⟨hunfolds, hnodes, hheight, -, -⟩ := htemplate
      obtain ⟨e, happly⟩ : ∃ e, (applyCachedDescriptorMetrics limits template depth path).run budget =
          _ := run_applyCachedDescriptorMetrics template depth path budget
      dsimp only [Except.mapError] at hrun
      rw [run_bind, happly, hnodes, hheight] at hrun
      have hpos := template.root.height_pos
      by_cases hroom : Room limits budget depth template.root.nodeCount template.root.height
      · obtain ⟨hcount, hlevels⟩ := hroom
        rw [if_pos ⟨by omega, by omega, by omega⟩] at hrun
        obtain ⟨rfl, rfl⟩ := Prod.mk.inj hrun
        refine ⟨hready.caches, hunfolds.withName name, ?_⟩
        rw [template.root.nodeCount_withName, template.root.height_withName]
        exact ⟨⟨hcount, hlevels⟩, rfl, rfl⟩
      · rw [if_neg (fun h => hroom ⟨h.2.2, by omega⟩)] at hrun
        obtain ⟨rfl, rfl⟩ := Prod.mk.inj hrun
        refine ⟨hready.caches, fun d hd => ?_⟩
        rw [← (hunfolds.withName name).unique hd, template.root.nodeCount_withName,
          template.root.height_withName]
        exact hroom

/-- The types which are active are different ones of the graph, each above the next. -/
structure Active (graph : RecursiveMetadataGraph) (activeTypes : List JsString)
    (typeName : JsString) : Prop where
  nodup : activeTypes.Nodup
  found : activeTypes ⊆ graph.nodes.map (·.1)
  below : ∀ ancestor ∈ activeTypes, Below graph typeName ancestor

theorem Active.refers {activeTypes : List JsString} {targetType : JsString}
    (h : Active graph activeTypes typeName) (hnew : typeName ∉ activeTypes)
    (hrefers : Refers graph typeName targetType) :
    Active graph (typeName :: activeTypes) targetType := by
  have hbelow := below_of_refers hrefers
  obtain ⟨node, hfound, -⟩ := hrefers
  obtain ⟨front, behind, hnodes, -⟩ := List.lookup_eq_some_iff.mp hfound
  refine ⟨List.nodup_cons.mpr ⟨hnew, h.nodup⟩, ?_, ?_⟩
  · refine List.cons_subset.mpr ⟨?_, h.found⟩
    rw [hnodes]
    simp
  · refine List.forall_mem_cons.mpr ⟨hbelow, fun ancestor hancestor => ?_⟩
    exact hbelow.trans (h.below ancestor hancestor)

/-- The walk into a type is exact. It never runs out of fuel, since there are no more types which
could be active than nodes in the graph. -/
theorem builds_node (hlimits : limits.maxNodes ≤ Double.maxSafeInteger) {fuel : Nat}
    {activeTypes : List JsString} (hactive : Active graph activeTypes typeName)
    (hfuel : graph.nodes.length < fuel + activeTypes.length) (path : String) {depth : Nat}
    (hdepth : 0 < depth) :
    Builds graph limits depth
      (buildNodeDescriptor graph limits fuel activeTypes typeName kind name path depth)
      (Unfolds graph typeName kind name) nodeCount height := by
  induction fuel generalizing activeTypes typeName kind name path depth with
  | zero =>
      have hlength := hactive.nodup.length_le_of_subset hactive.found
      rw [List.length_map] at hlength
      omega
  | succ fuel ih =>
      have huncached : ∀ name path depth, 0 < depth → Builds graph limits depth
          (buildNodeDescriptorUncached graph limits (buildNodeDescriptor graph limits fuel)
            activeTypes typeName kind name path depth)
          (Unfolds graph typeName kind name) nodeCount height := by
        intro name path depth hdepth
        refine builds_uncached hactive.below fun hnew targetType hrefers kind name path => ?_
        refine ih (hactive.refers hnew hrefers) ?_ path (Nat.succ_pos depth)
        rw [List.length_cons]
        omega
      intro budget hready result budget' hrun
      rw [buildNodeDescriptor, run_bind, run_get] at hrun
      dsimp only at hrun
      cases hcaches : budget.caches with
      | none =>
          rw [hcaches] at hrun
          exact huncached name path depth hdepth budget hready result budget' hrun
      | some caches =>
          simp only [hcaches, run_bind, run_checked, run_set] at hrun
          by_cases hnew : typeName ∈ activeTypes
          · rw [require, if_neg (not_not_intro hnew)] at hrun
            obtain ⟨rfl, rfl⟩ := Prod.mk.inj hrun
            refine ⟨hready.caches, fun d hunfolds _ => ?_⟩
            exact hunfolds.not_below (hactive.below typeName hnew)
          · rw [require_of hnew] at hrun
            obtain ⟨htemplate, hvalid⟩ := subtreeTemplate_spec (hready.caches caches hcaches)
              (huncached [] descriptorTemplatePath 1 Nat.one_pos)
            have hready' : Ready graph limits depth { budget with
                caches := (subtreeTemplate limits (buildNodeDescriptorUncached graph limits
                  (buildNodeDescriptor graph limits fuel) activeTypes) typeName kind caches).2 } :=
              ⟨hready.nodes, hready.reached, hready.maximumDepth, hvalid⟩
            exact builds_useTemplate htemplate hlimits hdepth _ hready' result budget' hrun

end Walk
end OpenRfc.RecursiveClassic
