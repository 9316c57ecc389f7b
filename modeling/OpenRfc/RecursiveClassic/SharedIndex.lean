import OpenRfc.RecursiveClassic.CachedPlans

/-!
Calls which share an index of the parameters find what calls without one do, whatever the index
has kept from the calls in front of them.
-/

namespace OpenRfc.RecursiveClassic
open Fallible Xrfc
open RecursiveClassicXrfcDescriptor (nodeCount height)

section Roots
variable {graph : RecursiveMetadataGraph} {limits : NormalizedRecursiveClassicXrfcLimits}
  {typeName name : JsString} {kind : ClassicXrfcKind} {caches : DescriptorCaches}

theorem builds_root (hlimits : limits.maxNodes ≤ Double.maxSafeInteger) (name : JsString)
    (path : String) :
    Builds graph limits 1 (buildRoot graph limits typeName kind name path 1)
      (Unfolds graph typeName kind name) nodeCount height := by
  refine builds_node hlimits ⟨List.nodup_nil, List.nil_subset _, nofun⟩ ?_ path Nat.one_pos
  rw [List.length_nil]
  omega

theorem rootTemplate_spec (hcaches : ValidCaches graph caches)
    (hlimits : limits.maxNodes ≤ Double.maxSafeInteger) :
    TemplateOf graph limits typeName kind (rootTemplate graph limits typeName kind caches).1 ∧
      ValidCaches graph (rootTemplate graph limits typeName kind caches).2 := by
  rw [rootTemplate]
  cases hlookup : caches.templates.lookup (kind, typeName, limits) with
  | some template => exact ⟨hcaches.templates.lookup hlookup, hcaches⟩
  | none =>
      obtain ⟨htemplate, hvalid⟩ :=
        buildTemplate_spec hcaches (builds_root hlimits [] descriptorTemplatePath)
      have hbuilt : ValidCaches graph
          ((buildTemplate (buildRoot graph limits) typeName kind caches).2.getD caches) := by
        cases hsome : (buildTemplate (buildRoot graph limits) typeName kind caches).2 with
        | none => exact hcaches
        | some built => exact hvalid built hsome
      exact ⟨htemplate, hbuilt.templates.cons htemplate, hbuilt.subtrees⟩

/-- What a walk without caches finds is what the template of the type stands for. -/
theorem toOption_buildRoot {template : Except String DescriptorTemplate} {path : String}
    {result : Except String RecursiveClassicXrfcDescriptor} {budget : DescriptorBudget}
    (htemplate : TemplateOf graph limits typeName kind template)
    (hlimits : limits.maxNodes ≤ Double.maxSafeInteger)
    (hrun : (buildRoot graph limits typeName kind name path 1).run ⟨0, 0, none⟩ =
      (result, budget)) :
    (result.map fun root => (⟨root, budget.nodes, budget.maximumDepth⟩ :
      DescriptorTemplate)).toOption =
    (template.map fun template =>
      { template with root := template.root.withName name }).toOption := by
  have hready : Ready graph limits 1 ⟨0, 0, none⟩ :=
    ⟨Nat.zero_le _, Nat.le_refl _, Nat.zero_le _, nofun⟩
  obtain ⟨-, hresult⟩ := builds_root hlimits name path _ hready result budget hrun
  cases result with
  | error e =>
      cases template with
      | error message => rfl
      | ok template =>
          obtain ⟨hunfolds, -, -, hcount, hlevels⟩ := htemplate
          refine absurd ?_ (hresult _ (hunfolds.withName name))
          rw [template.root.nodeCount_withName, template.root.height_withName]
          refine ⟨?_, by omega⟩
          dsimp only
          omega
  | ok root =>
      obtain ⟨hunfolds, ⟨hcount, hlevels⟩, hnodes, hdepth⟩ := hresult
      dsimp only at hcount hnodes hdepth
      have hpos := root.height_pos
      cases template with
      | error message =>
          refine absurd ?_ (htemplate _ (hunfolds.withName []))
          rw [root.nodeCount_withName, root.height_withName]
          omega
      | ok template =>
          obtain ⟨htemplate, hnodes', hheight', -, -⟩ := htemplate
          obtain rfl := hunfolds.unique (htemplate.withName name)
          rw [template.root.nodeCount_withName] at hnodes
          rw [template.root.height_withName] at hdepth hpos
          have hcounted : budget.nodes = template.descriptorNodeCount := by omega
          have hreached : budget.maximumDepth = template.descriptorMaximumDepth := by omega
          simp only [Except.map, Except.toOption, hcounted, hreached]

end Roots

section Index
variable {graph : RecursiveMetadataGraph} {index : RecursiveMetadataParameterIndex}

/-- An index of the parameters of a graph. -/
structure Indexes (graph : RecursiveMetadataGraph) (index : RecursiveMetadataParameterIndex) :
    Prop where
  parameters : index.parameters = graph.parameters.map fun parameter => (parameter.name, parameter)
  distinct : (graph.parameters.map (·.name)).Nodup
  caches : ValidCaches graph index.caches

theorem indexParameters_spec {functionName : JsString}
    {indexed result : List (JsString × RecursiveMetadataParameter)}
    {parameters : List RecursiveMetadataParameter}
    (h : indexParameters functionName indexed parameters = .ok result)
    (hindexed : (indexed.map (·.1)).Nodup) :
    result = indexed ++ parameters.map (fun parameter => (parameter.name, parameter)) ∧
      (result.map (·.1)).Nodup := by
  induction parameters generalizing indexed with
  | nil =>
      obtain rfl := Except.ok.inj h
      exact ⟨(List.append_nil _).symm, hindexed⟩
  | cons parameter parameters ih =>
      simp only [indexParameters, bind_eq_ok, require_eq_ok, exists_const] at h
      obtain ⟨-, hnew, h⟩ := h
      obtain ⟨hresult, hdistinct⟩ := ih h (by
        rw [List.map_append]
        exact hindexed.append (List.nodup_singleton _) (List.disjoint_singleton.mpr hnew))
      refine ⟨?_, hdistinct⟩
      rw [hresult, List.append_assoc]
      rfl

theorem indexes_of_create (h : createRecursiveMetadataParameterIndex graph = .ok index) :
    Indexes graph index := by
  simp only [createRecursiveMetadataParameterIndex, bind_eq_ok, require_eq_ok, exists_const,
    Except.ok.injEq] at h
  obtain ⟨-, -, -, parameters, hparameters, rfl⟩ := h
  obtain ⟨rfl, hdistinct⟩ := indexParameters_spec hparameters List.nodup_nil
  refine ⟨rfl, ?_, ⟨nofun, nofun⟩⟩
  rwa [List.nil_append, List.map_map] at hdistinct

/-- With names apart, the parameter which is found by its name is the only one of that name. -/
theorem filter_name {parameters : List RecursiveMetadataParameter}
    (h : (parameters.map (·.name)).Nodup) (name : JsString) :
    parameters.filter (fun parameter => parameter.name = name) =
      ((parameters.map fun parameter => (parameter.name, parameter)).lookup name).toList := by
  induction parameters with
  | nil => rfl
  | cons parameter parameters ih =>
      rw [List.map_cons, List.nodup_cons] at h
      rw [List.map_cons, List.lookup_cons]
      by_cases hname : parameter.name = name
      · have hnone : parameters.filter (fun parameter => parameter.name = name) = [] := by
          refine List.filter_eq_nil_iff.mpr fun other hother hsame => h.1 ?_
          rw [hname, ← of_decide_eq_true hsame]
          exact List.mem_map_of_mem hother
        rw [List.filter_cons_of_pos (by simpa using hname), hnone, hname, beq_self_eq_true]
        rfl
      · rw [List.filter_cons_of_neg (by simpa using hname), ih h.2,
          beq_eq_false_iff_ne.mpr (Ne.symm hname)]

theorem toOption_matchingParameter (h : Indexes graph index)
    (identity : RecursiveClassicXrfcParameterIdentity) :
    (matchingParameter graph identity (some index)).toOption =
      (matchingParameter graph identity none).toOption := by
  have hfound := filter_name h.distinct identity.parameterName
  rw [← h.parameters] at hfound
  simp only [matchingParameter, toOption_bind, toOption_require, matchingParameters, hfound]
  cases index.parameters.lookup identity.parameterName with
  | none => rfl
  | some parameter =>
      simp only [ok_bind, toOption_bind, toOption_require]
      rfl

theorem toOption_resolvedReference (h : Indexes graph index)
    (identity : RecursiveClassicXrfcParameterIdentity) (limits : RecursiveClassicXrfcLimits) :
    (resolvedReference graph identity limits (some index)).toOption =
      (resolvedReference graph identity limits none).toOption := by
  simp only [resolvedReference, toOption_bind, toOption_matchingParameter h]

theorem maxNodes_le {limits : RecursiveClassicXrfcLimits}
    {normalized : NormalizedRecursiveClassicXrfcLimits}
    (h : normalizeLimits limits = .ok normalized) : normalized.maxNodes ≤ Double.maxSafeInteger := by
  simp only [normalizeLimits, boundedLimit, bind_eq_ok, require_eq_ok, exists_const,
    Except.ok.injEq] at h
  obtain ⟨classic, -, maxNodes, ⟨hbound, rfl⟩, maxDepth, -, rfl⟩ := h
  exact Nat.le_trans hbound (by decide)

/-- One call. -/
theorem resolve_spec (h : Indexes graph index) (identity : RecursiveClassicXrfcParameterIdentity)
    (limits : RecursiveClassicXrfcLimits) :
    (resolveRecursiveClassicXrfcParameterFromIndex graph index identity limits).1.toOption =
        (resolveRecursiveClassicXrfcParameter graph identity limits).toOption ∧
      Indexes graph (resolveRecursiveClassicXrfcParameterFromIndex graph index identity limits).2 := by
  have hreference := toOption_resolvedReference h identity limits
  rw [resolveRecursiveClassicXrfcParameterFromIndex, resolveRecursiveClassicXrfcParameter,
    toOption_bind, ← hreference]
  cases hresolved : resolvedReference graph identity limits (some index) with
  | error e => exact ⟨rfl, h⟩
  | ok reference =>
      obtain ⟨normalized, kind, targetType⟩ := reference
      have hlimits : normalized.maxNodes ≤ Double.maxSafeInteger := by
        simp only [resolvedReference, bind_eq_ok, Except.ok.injEq, Prod.mk.injEq] at hresolved
        obtain ⟨-, -, limits', hlimits, -, -, -, -, rfl, -⟩ := hresolved
        exact maxNodes_le hlimits
      obtain ⟨htemplate, hcaches⟩ :
          TemplateOf graph normalized targetType kind
              (rootTemplate graph normalized targetType kind index.caches).1 ∧
            ValidCaches graph (rootTemplate graph normalized targetType kind index.caches).2 :=
        rootTemplate_spec h.caches hlimits
      refine ⟨?_, h.parameters, h.distinct, hcaches⟩
      cases hrun : (buildRoot graph normalized targetType kind identity.parameterName
          identity.path 1).run ⟨0, 0, none⟩ with
      | mk result budget =>
          have hroot := toOption_buildRoot htemplate hlimits hrun
          have hplans := congrArg (Option.map (resolvedParameter identity kind)) hroot
          have huncached : (do
              let root ← result
              Except.ok (resolvedParameter identity kind
                ⟨root, budget.nodes, budget.maximumDepth⟩)).toOption =
              (result.map fun root => (⟨root, budget.nodes, budget.maximumDepth⟩ :
                DescriptorTemplate)).toOption.map (resolvedParameter identity kind) := by
            cases result <;> rfl
          rw [Except.toOption, Option.bind_eq_bind, Option.bind_some]
          dsimp only
          rw [hrun]
          refine Eq.trans ?_ (huncached.trans hplans).symm
          cases (rootTemplate graph normalized targetType kind index.caches).1 <;> rfl

/-- Calls which share an index, one behind the other. -/
def resolveAll (graph : RecursiveMetadataGraph) :
    RecursiveMetadataParameterIndex →
    List (RecursiveClassicXrfcParameterIdentity × RecursiveClassicXrfcLimits) →
    List (Except String ResolvedRecursiveClassicXrfcParameter)
  | _, [] => []
  | index, (identity, limits) :: calls =>
    let (plan, index) := resolveRecursiveClassicXrfcParameterFromIndex graph index identity limits
    plan :: resolveAll graph index calls

theorem resolveAll_alike (h : Indexes graph index)
    (calls : List (RecursiveClassicXrfcParameterIdentity × RecursiveClassicXrfcLimits)) :
    (resolveAll graph index calls).map Except.toOption =
      calls.map fun call => (resolveRecursiveClassicXrfcParameter graph call.1 call.2).toOption := by
  induction calls generalizing index with
  | nil => rfl
  | cons call calls ih =>
      obtain ⟨hplan, hindex⟩ := resolve_spec h call.1 call.2
      rw [resolveAll, List.map_cons, List.map_cons, ih hindex, hplan]

/-- Whatever calls share an index, in whatever order, each succeeds if and only if it does without
the index, and with the same plan. -/
theorem resolvesAlike_of_sharedIndex (hindex : createRecursiveMetadataParameterIndex graph = .ok index)
    (calls : List (RecursiveClassicXrfcParameterIdentity × RecursiveClassicXrfcLimits)) :
    (resolveAll graph index calls).map Except.toOption =
      calls.map fun call => (resolveRecursiveClassicXrfcParameter graph call.1 call.2).toOption :=
  resolveAll_alike (indexes_of_create hindex) calls

/-- `P` is a table `T` of lines `S` of a number `N`. -/
def sampleGraph : RecursiveMetadataGraph where
  functionIdentity := some [0x46]
  nodes :=
    [([0x54], ⟨[0x54], .container .table,
      [⟨[], 1, .flatStructure, 0, 4, .container .structured [0x53] false⟩]⟩),
    ([0x53], ⟨[0x53], .container .structured, [⟨[0x4e], 1, .int4, 0, 4, .scalar .int4⟩]⟩)]
  parameters :=
    [⟨[0x46], [0x50], .tables, [0x54], .table, .type (.container .table [0x54] false)⟩]
  limits := ⟨10, 10, 10⟩
  distinct := by decide

def sampleIdentity : RecursiveClassicXrfcParameterIdentity :=
  ⟨[0x46], [0x50], .tables, [0x54], .table⟩

/-- A failure which is kept, a plan, the failure again, and the plan from the cache. -/
def sampleCalls : List (RecursiveClassicXrfcParameterIdentity × RecursiveClassicXrfcLimits) :=
  [(sampleIdentity, { maxNodes := some 2 }), (sampleIdentity, {}),
    (sampleIdentity, { maxNodes := some 2 }), (sampleIdentity, {})]

theorem resolvesAlike_sample :
    ∃ index, createRecursiveMetadataParameterIndex sampleGraph = .ok index ∧
      (resolveAll sampleGraph index sampleCalls).map Except.toOption =
        sampleCalls.map (fun call =>
          (resolveRecursiveClassicXrfcParameter sampleGraph call.1 call.2).toOption) ∧
      (resolveAll sampleGraph index sampleCalls).map (·.isOk) = [false, true, false, true] := by
  have hindex : createRecursiveMetadataParameterIndex sampleGraph = .ok
      ⟨sampleGraph.parameters.map fun parameter => (parameter.name, parameter), ⟨[], []⟩⟩ := rfl
  exact ⟨_, hindex, resolvesAlike_of_sharedIndex hindex sampleCalls, by decide +kernel⟩

end Index
end OpenRfc.RecursiveClassic
