import OpenRfc.Xrfc.RecursiveWalk
import Mathlib.Algebra.BigOperators.Pi
import Mathlib.Algebra.Order.BigOperators.Group.Finset
import Mathlib.Algebra.Order.Monoid.Prod

/-!
The decision of the validation. Whatever the caches have kept from other parameters, and at
whatever depth a shared type has been met first, it is that of a walk down every path, as long as
the graph stays within the limits which it declares.
-/

namespace OpenRfc.Xrfc
open Fallible Relation

section Decision
variable {graph : RecursiveMetadataGraph} {node : RecursiveMetadataTypeNode}
  {maximumDepth : Nat}

/-- The types behind a node are well formed, do not contain themselves, and are not nested deeper
than allowed. -/
structure Acceptable (graph : RecursiveMetadataGraph) (node : RecursiveMetadataTypeNode)
    (maximumDepth : Nat) : Prop where
  wellFormed : ∀ target, Reach graph node target → WellFormed graph target
  acyclic : ¬∃ target, Reach graph node target ∧ TransGen (Child graph) target target
  shallow : ∀ path : List RecursiveMetadataTypeNode, List.IsChain (Child graph) (node :: path) →
    (node :: path).length ≤ maximumDepth

theorem acceptable_iff : Acceptable graph node maximumDepth ↔
    AllWellFormed graph node ∧ Depth.Within (Child graph) maximumDepth node := by
  constructor
  · exact fun h => ⟨h.wellFormed, Depth.within_iff.mpr h.shallow⟩
  · rintro ⟨hwell, hwithin⟩
    refine ⟨hwell, ?_, Depth.within_iff.mp hwithin⟩
    rintro ⟨target, hreach, hcycle⟩
    exact (hwithin.reachable hreach).not_cyclic hcycle

theorem rewalk_iff_acceptable :
    rewalk graph maximumDepth node = true ↔ Acceptable graph node maximumDepth :=
  rewalk_iff.trans acceptable_iff.symm

end Decision

section Caches
variable {graph : RecursiveMetadataGraph} {caches : Option IndexCaches} {walk : Walk}
  {node : RecursiveMetadataTypeNode} {maximumDepth : Nat}

structure CachesSound (graph : RecursiveMetadataGraph) (caches : Option IndexCaches) : Prop where
  walk : ∀ budget, Walk.Sound graph ⟨[], budget, caches⟩
  validated : ∀ key ∈ (caches.map (·.validated)).getD [],
    (∃ budget, graphTraversalBudget graph = .ok budget) ∧
      ∀ node, Registered graph node → node.name = key.2.1 →
        Acceptable graph node key.2.2 ∧ CachedIn caches node

theorem cachesSound_initial (graph : RecursiveMetadataGraph) :
    CachesSound graph none ∧ CachesSound graph (some ⟨[], []⟩) := by
  refine ⟨⟨fun _ => ⟨nofun, nofun, ?_, nofun⟩, nofun⟩, ⟨fun _ => ⟨nofun, nofun, ?_, ?_⟩, nofun⟩⟩
  · rintro _ _ _ (h | h) <;> cases h
  · rintro _ _ _ (h | h) <;> cases h
  · intro _ _ _ h
    cases h

theorem knows_iff_cachedIn {budget : GraphTraversalBudget} :
    Walk.Knows ⟨[], budget, caches⟩ node ↔ CachedIn caches node :=
  or_iff_right Bool.false_ne_true

/-- What a walk leaves behind when its own heights are forgotten. -/
theorem Walk.Sound.forget (hs : walk.Sound graph) (budget : GraphTraversalBudget) :
    Walk.Sound graph ⟨[], budget, walk.caches⟩ where
  heights := nofun
  cached := hs.cached
  closed := by
    intro node target hnode hknows hstep
    have hcached : (walk.cached? node).isSome = true := knows_iff_cachedIn.mp hknows
    have hcaches : walk.caches.isSome = true := by
      cases hnone : walk.caches with
      | none =>
          rw [Walk.cached?, hnone] at hcached
          cases hcached
      | some caches => rfl
    refine .inr ?_
    rcases hs.closed node target hnode (.inr hcached) hstep with hheight | htarget
    · exact hs.shared target hstep.registered hcaches hheight
    · exact htarget
  shared := nofun

theorem graphTraversalBudget_eq_ok {budget : GraphTraversalBudget}
    (h : graphTraversalBudget graph = .ok budget) :
    budget = ⟨graph.limits.maxNodes, graph.limits.maxRows, graph.limits.maxEdges, 0, 0, 0⟩ ∧
      graph.nodes.length ≤ graph.limits.maxNodes := by
  simp only [graphTraversalBudget, declaredGraphLimit, bind_eq_ok, require_eq_ok, exists_const,
    Except.ok.injEq] at h
  obtain ⟨-, -, -, hnodes, -, rfl⟩ := h
  exact ⟨rfl, hnodes⟩

theorem fst_freshCost_le (graph : RecursiveMetadataGraph)
    (known wanted : RecursiveMetadataTypeNode → Prop) :
    (freshCost graph known wanted).1 ≤ graph.nodes.length := by
  classical
  unfold freshCost
  rw [Prod.fst_sum]
  show ∑ _ ∈ _, 1 ≤ _
  rw [Finset.sum_const, smul_eq_mul, Nat.mul_one]
  refine (Finset.card_filter_le _ _).trans ((List.toFinset_card_le _).trans ?_)
  refine (List.length_filter_le _ _).trans ?_
  rw [List.length_map]

/-- What the walk has to pay for, against the limits of the graph. -/
def Affordable (graph : RecursiveMetadataGraph) (caches : Option IndexCaches)
    (node : RecursiveMetadataTypeNode) : Prop :=
  (freshCost graph (CachedIn caches) (Reach graph node)).2.1 ≤ graph.limits.maxRows ∧
    (freshCost graph (CachedIn caches) (Reach graph node)).2.2 ≤ graph.limits.maxEdges

theorem freshCost_initial (budget : GraphTraversalBudget) :
    freshCost graph (Walk.Knows ⟨[], budget, caches⟩) (Reach graph node) =
      freshCost graph (CachedIn caches) (Reach graph node) := by
  have hsame : Walk.Knows ⟨[], budget, caches⟩ = CachedIn caches :=
    funext fun _ => propext knows_iff_cachedIn
  rw [hsame]

/-- A walk with caches which earlier walks have left. -/
theorem validateNode_iff (hs : CachesSound graph caches) (hnode : Registered graph node)
    {budget : GraphTraversalBudget} (hbudget : graphTraversalBudget graph = .ok budget)
    (maximumDepth : Nat) (path : String) :
    (∃ height walk', validateNode graph maximumDepth maximumDepth [] node path
        ⟨[], budget, caches⟩ = (.ok height, walk')) ↔
      Acceptable graph node maximumDepth ∧ Affordable graph caches node := by
  obtain ⟨rfl, hnodes⟩ := graphTraversalBudget_eq_ok hbudget
  have hfst := fst_freshCost_le graph (CachedIn caches) (Reach graph node)
  constructor
  · rintro ⟨height, walk', h⟩
    obtain ⟨hvalid, hle, hext⟩ := (validateNode_visits graph maximumDepth maximumDepth []).ok
      (hs.walk _) hnode ⟨Nat.zero_le _, Nat.zero_le _, Nat.zero_le _⟩ h
    refine ⟨acceptable_iff.mpr ⟨hvalid.wellFormed, hvalid.height.within.mono hle⟩, ?_⟩
    have hwithin := hext.within
    rw [hext.budget, freshCost_initial] at hwithin
    obtain ⟨-, hrows, hedges⟩ := hwithin
    simp only [GraphTraversalBudget.spend, Nat.zero_add] at hrows hedges
    exact ⟨hrows, hedges⟩
  · rintro ⟨hacceptable, hrows, hedges⟩
    obtain ⟨hwell, hwithin⟩ := acceptable_iff.mp hacceptable
    refine validateNode_completes graph maximumDepth maximumDepth [] node path _ (hs.walk _) hnode
      ⟨hwell, hwithin, fun _ _ => List.not_mem_nil⟩ ?_
    rw [freshCost_initial]
    constructor
    · show 0 + _ ≤ graph.limits.maxNodes
      omega
    · show 0 + _ ≤ graph.limits.maxRows
      omega
    · show 0 + _ ≤ graph.limits.maxEdges
      omega

/-- Caches which have grown by a walk, and by a plan which has been accepted. -/
theorem CachesSound.grown (hs : CachesSound graph caches) (hwalk : walk.Sound graph)
    (hgrows : Grows caches walk.caches) : CachesSound graph walk.caches where
  walk := hwalk.forget
  validated key hkey := by
    rw [hgrows.validated] at hkey
    obtain ⟨hbudget, haccepted⟩ := hs.validated key hkey
    refine ⟨hbudget, fun node hnode hname => ?_⟩
    obtain ⟨hacceptable, hcached⟩ := haccepted node hnode hname
    exact ⟨hacceptable, hgrows.cached node hcached⟩

theorem cachedIn_setValidated {key : ClassicXrfcKind × JsString × Nat} :
    CachedIn (caches.map fun caches => { caches with validated := key :: caches.validated })
        node ↔ CachedIn caches node := by
  cases caches <;> rfl

theorem CachesSound.accepted (hs : CachesSound graph caches)
    {budget : GraphTraversalBudget} (hbudget : graphTraversalBudget graph = .ok budget)
    (hnode : Registered graph node) (hacceptable : Acceptable graph node maximumDepth)
    (hcached : caches.isSome = true → CachedIn caches node) (kind : ClassicXrfcKind) :
    CachesSound graph (caches.map fun caches =>
      { caches with validated := (kind, node.name, maximumDepth) :: caches.validated }) where
  walk budget := by
    cases caches with
    | none => exact hs.walk budget
    | some caches =>
        obtain ⟨hheights, hcaches, hclosed, hshared⟩ := hs.walk budget
        exact ⟨hheights, hcaches, hclosed, hshared⟩
  validated key hkey := by
    cases caches with
    | none => cases hkey
    | some caches =>
        rcases List.mem_cons.mp hkey with rfl | hbefore
        · refine ⟨⟨budget, hbudget⟩, fun other hother hname => ?_⟩
          obtain rfl := hother.eq_of_name hnode hname
          exact ⟨hacceptable, cachedIn_setValidated.mpr (hcached rfl)⟩
        · obtain ⟨hlimits, haccepted⟩ := hs.validated key hbefore
          refine ⟨hlimits, fun other hother hname => ?_⟩
          obtain ⟨hother', hcached'⟩ := haccepted other hother hname
          exact ⟨hother', cachedIn_setValidated.mpr hcached'⟩

theorem CachesSound.affordable (hs : CachesSound graph caches) (hnode : Registered graph node)
    (hcached : CachedIn caches node) : Affordable graph caches node := by
  have hzero : freshCost graph (CachedIn caches) (Reach graph node) = 0 := by
    apply freshCost_of_known
    intro target hreach
    have hwalk := hs.walk ⟨0, 0, 0, 0, 0, 0⟩
    exact knows_iff_cachedIn.mp
      (hwalk.knows_of_reach hnode (knows_iff_cachedIn.mpr hcached) hreach)
  rw [Affordable, hzero]
  exact ⟨Nat.zero_le _, Nat.zero_le _⟩

end Caches
section Parameters
variable {graph : RecursiveMetadataGraph} {caches : Option IndexCaches} {maximumDepth : Nat}

theorem escapeRecursiveXrfcTag_isOk {name : JsString} :
    (∃ tag, escapeRecursiveXrfcTag name = .ok tag) ↔ name ≠ [] ∧ name.isWellFormed = true := by
  simp only [escapeRecursiveXrfcTag, bind_eq_ok, require_eq_ok, exists_const,
    Values.assertUnicodeScalarText_eq_ok]
  constructor
  · rintro ⟨_, hne, hname, _⟩
    exact ⟨hne, hname⟩
  · rintro ⟨hne, hname⟩
    exact ⟨_, hne, hname, rfl⟩

/-- When a parameter is accepted. -/
structure AcceptedAtDepth (graph : RecursiveMetadataGraph) (parameterName : JsString)
    (maximumDepth : Nat) (resolved : ResolvedRecursiveXrfcParameter graph)
    (caches : Option IndexCaches) : Prop where
  tag : parameterName ≠ [] ∧ parameterName.isWellFormed = true
  limits : ∃ budget, graphTraversalBudget graph = .ok budget
  acceptable : Acceptable graph resolved.node maximumDepth
  affordable : Affordable graph caches resolved.node

theorem validateAtDepth_spec (hs : CachesSound graph caches) (parameterName : JsString)
    (maximumDepth : Nat) (resolved : ResolvedRecursiveXrfcParameter graph) :
    CachesSound graph (validateRecursiveXrfcParameterAtDepth graph parameterName maximumDepth
        resolved caches).2 ∧
      ((validateRecursiveXrfcParameterAtDepth graph parameterName maximumDepth resolved
          caches).1 = .ok () ↔
        AcceptedAtDepth graph parameterName maximumDepth resolved caches) := by
  have hnode : Registered graph resolved.node := resolved.registered
  unfold validateRecursiveXrfcParameterAtDepth
  cases htag : escapeRecursiveXrfcTag parameterName with
  | error e =>
      refine ⟨hs, iff_of_false nofun fun h => ?_⟩
      obtain ⟨tag, hok⟩ := escapeRecursiveXrfcTag_isOk.mpr h.tag
      rw [htag] at hok
      cases hok
  | ok tag =>
      have hname := escapeRecursiveXrfcTag_isOk.mp ⟨tag, htag⟩
      dsimp only
      split
      · rename_i hhit
        have hkey : (resolved.kind, resolved.node.name, maximumDepth) ∈
            (caches.map (·.validated)).getD [] := by
          cases caches with
          | none => cases hhit
          | some caches => exact List.contains_iff_mem.mp hhit
        obtain ⟨hlimits, haccepted⟩ := hs.validated _ hkey
        obtain ⟨hacceptable, hcached⟩ := haccepted resolved.node hnode rfl
        exact ⟨hs, iff_of_true rfl
          ⟨hname, hlimits, hacceptable, hs.affordable hnode hcached⟩⟩
      · cases hbudget : graphTraversalBudget graph with
        | error e =>
            refine ⟨hs, iff_of_false nofun fun h => ?_⟩
            obtain ⟨budget, hok⟩ := h.limits
            rw [hbudget] at hok
            cases hok
        | ok budget =>
            have hvisits := validateNode_visits graph maximumDepth maximumDepth []
            have hdecides := validateNode_iff hs hnode hbudget maximumDepth
              parameterName.text
            have hwithin : budget.Within := by
              rw [(graphTraversalBudget_eq_ok hbudget).1]
              exact ⟨Nat.zero_le _, Nat.zero_le _, Nat.zero_le _⟩
            dsimp only
            rcases hwalk : validateNode graph maximumDepth maximumDepth [] resolved.node
              parameterName.text ⟨[], budget, caches⟩ with ⟨e | height, walk'⟩
            · have hkept := hvisits.error (hs.walk budget) hnode hwithin hwalk
              refine ⟨hs.grown hkept.sound hkept.grows, iff_of_false nofun fun h => ?_⟩
              obtain ⟨height, other, hok⟩ := hdecides.mpr ⟨h.acceptable, h.affordable⟩
              rw [hwalk] at hok
              cases hok
            · obtain ⟨-, -, hext⟩ := hvisits.ok (hs.walk budget) hnode hwithin hwalk
              obtain ⟨hacceptable, haffordable⟩ := hdecides.mp ⟨height, walk', hwalk⟩
              have hcached (hcaches : walk'.caches.isSome = true) :
                  CachedIn walk'.caches resolved.node := by
                rcases (hext.knows _ hnode).mpr (.inr .refl) with hheight | hcached
                · exact hext.sound.shared _ hnode hcaches hheight
                · exact hcached
              exact ⟨(hs.grown hext.sound hext.grows).accepted hbudget hnode hacceptable hcached _,
                iff_of_true rfl ⟨hname, ⟨budget, hbudget⟩, hacceptable, haffordable⟩⟩

/-- The validation of one parameter. -/
structure ValidationCall (graph : RecursiveMetadataGraph) where
  parameterName : JsString
  maximumDepth : Nat
  resolved : ResolvedRecursiveXrfcParameter graph

/-- The caches behind some calls, of which some may have failed. Without a cacheable index there
are none. -/
def cachesAfter (graph : RecursiveMetadataGraph) (cacheable : Bool)
    (calls : List (ValidationCall graph)) : Option IndexCaches :=
  calls.foldl
    (fun caches call => (validateRecursiveXrfcParameterAtDepth graph call.parameterName
      call.maximumDepth call.resolved caches).2)
    (if cacheable then some ⟨[], []⟩ else none)

theorem cachesSound_after (graph : RecursiveMetadataGraph) (cacheable : Bool)
    (calls : List (ValidationCall graph)) :
    CachesSound graph (cachesAfter graph cacheable calls) := by
  have hstart : CachesSound graph (if cacheable then some ⟨[], []⟩ else none) := by
    split
    · exact (cachesSound_initial graph).2
    · exact (cachesSound_initial graph).1
  unfold cachesAfter
  generalize (if cacheable then some ⟨[], []⟩ else none : Option IndexCaches) = caches at hstart
  induction calls generalizing caches with
  | nil => exact hstart
  | cons call calls ih =>
      exact ih _ (validateAtDepth_spec hstart call.parameterName call.maximumDepth
        call.resolved).1

/-- What a walk may have to pay for at most. -/
def WithinLimits (graph : RecursiveMetadataGraph) (node : RecursiveMetadataTypeNode) : Prop :=
  Affordable graph none node

theorem affordable_of_withinLimits {node : RecursiveMetadataTypeNode}
    (h : WithinLimits graph node) (caches : Option IndexCaches) :
    Affordable graph caches node := by
  have hle : freshCost graph (CachedIn caches) (Reach graph node) ≤
      freshCost graph (CachedIn none) (Reach graph node) := by
    classical
    unfold freshCost
    apply Finset.sum_le_sum_of_subset
    intro target
    simp only [Finset.mem_filter]
    exact fun htarget => ⟨htarget.1, htarget.2.1, Bool.false_ne_true⟩
  exact ⟨hle.2.1.trans h.1, hle.2.2.trans h.2⟩

end Parameters

/-- A structure of two fields in a graph which has declared one row. -/
def structureOfTwo : RecursiveMetadataTypeNode :=
  ⟨[0x53], .container .structured,
    [⟨[0x41], 1, .char, 0, 2, .scalar .char⟩, ⟨[0x42], 2, .char, 0, 2, .scalar .char⟩]⟩

def graphOfOneRow : RecursiveMetadataGraph where
  functionIdentity := some [0x46]
  nodes := [([0x53], structureOfTwo)]
  parameters := [⟨[0x46], [0x50], .importing, [0x53], .deepStructure,
    .type (.container .structured [0x53] false)⟩]
  limits := ⟨1, 1, 0⟩
  distinct := List.nodup_singleton _

end OpenRfc.Xrfc
