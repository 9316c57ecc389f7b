import OpenRfc.Foundation.Depth
import OpenRfc.Foundation.WaitGraph
import OpenRfc.TypeGraph.Components

/-!
The queue of the components whose predecessors have all been passed gives each one the length of
the longest path to it.
-/

namespace OpenRfc.TypeGraph
open Depth

/-- Edges without repetition between a number of components, and without a cycle. -/
structure Layered (edges : Nat → List Nat) (size : Nat) (roots : List Nat) : Prop where
  distinct : ∀ source, (edges source).Nodup
  source_lt : ∀ source, ∀ target ∈ edges source, source < size
  target_lt : ∀ source, ∀ target ∈ edges source, target < size
  acyclic : WaitGraph.Acyclic fun source target => target ∈ edges source
  root_lt : ∀ root ∈ roots, root < size

/-- Paths from the roots. -/
abbrev RootWalk (edges : Nat → List Nat) (roots : List Nat) : Nat → Nat → Prop :=
  Walk (fun source target => target ∈ edges source) (· ∈ roots)

variable {edges : Nat → List Nat} {size : Nat} {roots reachable : List Nat}

theorem Layered.walk_lt (h : Layered edges size roots) {component length : Nat}
    (hwalk : RootWalk edges roots component length) : component < size := by
  cases hwalk with
  | start hroot => exact h.root_lt component hroot
  | step _ hedge => exact h.target_lt _ component hedge

namespace Reach
variable {s next : Reach}

structure Valid (edges : Nat → List Nat) (roots : List Nat) (s : Reach) : Prop where
  distinct : s.reachable.Nodup
  walk : ∀ component ∈ s.reachable ++ s.stack, ∃ length, RootWalk edges roots component length
  roots : ∀ root ∈ roots, root ∈ s.reachable ++ s.stack
  closed : ∀ component ∈ s.reachable, ∀ target ∈ edges component,
    target ∈ s.reachable ++ s.stack

def rest (edges : Nat → List Nat) (size : Nat) (s : Reach) : Nat :=
  s.stack.length +
    Loop.outstanding (fun component => (edges component).length) size (· ∉ s.reachable)

theorem step_valid (h : Layered edges size roots) (hs : s.Valid edges roots)
    (hstep : s.step edges = some next) :
    next.Valid edges roots ∧ next.rest edges size < s.rest edges size := by
  obtain ⟨hdistinct, hwalk, hroots, hclosed⟩ := hs
  cases hstack : s.stack with
  | nil => simp [step, hstack] at hstep
  | cons component stack =>
      rw [hstack] at hwalk hroots hclosed
      by_cases hknown : component ∈ s.reachable
      · obtain rfl : _ = next := by simpa [step, hstack, hknown] using hstep
        have hsame : ∀ other, other ∈ s.reachable ++ component :: stack ↔
            other ∈ s.reachable ++ stack := by
          intro other
          simp only [List.mem_append, List.mem_cons]
          constructor
          · rintro (hother | rfl | hother)
            · exact .inl hother
            · exact .inl hknown
            · exact .inr hother
          · tauto
        simp only [hsame] at hwalk hroots hclosed
        refine ⟨⟨hdistinct, hwalk, hroots, hclosed⟩, ?_⟩
        simp only [rest, hstack, List.length_cons]
        omega
      · obtain rfl : _ = next := by simpa [step, hstack, hknown] using hstep
        obtain ⟨length, hcomponent⟩ := hwalk component (by simp)
        have hmore : ∀ other, other ∈ (s.reachable ++ [component]) ++
            ((edges component).reverse ++ stack) ↔
            other ∈ s.reachable ++ component :: stack ∨ other ∈ edges component := by
          intro other
          simp only [List.mem_append, List.mem_cons, List.mem_reverse, List.not_mem_nil, or_false]
          tauto
        constructor
        · constructor
          · exact List.nodup_append_comm.mp (List.nodup_cons.mpr ⟨hknown, hdistinct⟩)
          · intro other hother
            rcases (hmore other).mp hother with hother | hedge
            · exact hwalk other hother
            · exact ⟨length + 1, .step hcomponent hedge⟩
          · exact fun root hroot => (hmore root).mpr (.inl (hroots root hroot))
          · intro other hother target htarget
            rcases List.mem_append.mp hother with hother | hother
            · exact (hmore target).mpr (.inl (hclosed other hother target htarget))
            · obtain rfl := List.mem_singleton.mp hother
              exact (hmore target).mpr (.inr htarget)
        · have hless : Loop.outstanding (fun component => (edges component).length) size
              (· ∉ s.reachable) = _ :=
            Loop.outstanding_eq_add (q := (· ∉ s.reachable ++ [component])) (h.walk_lt hcomponent)
              hknown fun other => by simp
          simp only [rest, hstack, hless, List.length_append, List.length_reverse,
            List.length_cons]
          omega

end Reach

theorem reachableFrom_spec (h : Layered edges size roots) :
    (reachableFrom edges size roots).Nodup ∧
      ∀ component, component ∈ reachableFrom edges size roots ↔
        ∃ length, RootWalk edges roots component length := by
  have hfirst : Reach.Valid edges roots ⟨roots.reverse, []⟩ := by
    constructor
    · exact List.nodup_nil
    · exact fun root hroot => ⟨1, .start (by simpa using hroot)⟩
    · simp
    · simp
  have hfuel : Reach.rest edges size ⟨roots.reverse, []⟩ ≤ Reach.work edges size roots := by
    rw [Reach.rest, Reach.work, List.length_reverse]
    exact Nat.add_le_add_left Loop.outstanding_le_sum _
  obtain ⟨⟨hdistinct, hwalk, hroots, hclosed⟩, hend⟩ := Loop.run_spec
    (fun s next hs hstep => Reach.step_valid h hs hstep) hfirst hfuel
  rw [reachableFrom]
  generalize Loop.run (Reach.step edges) (Reach.work edges size roots) ⟨roots.reverse, []⟩ = s
    at hdistinct hwalk hroots hclosed hend
  have hstack : s.stack = [] := by
    cases hstack : s.stack with
    | nil => rfl
    | cons component stack =>
        simp only [Reach.step, hstack] at hend
        split at hend <;> cases hend
  rw [hstack, List.append_nil] at hwalk hroots hclosed
  refine ⟨hdistinct, fun component => ⟨hwalk component, ?_⟩⟩
  rintro ⟨length, hcomponent⟩
  induction hcomponent with
  | start hroot => exact hroots _ hroot
  | step _ hedge ih => exact hclosed _ ih _ hedge

end OpenRfc.TypeGraph

namespace OpenRfc.TypeGraph
open Depth

variable {edges : Nat → List Nat} {size : Nat} {roots reachable : List Nat}

/-- The reachable predecessors of a component which have not been passed. -/
def waiting (edges : Nat → List Nat) (reachable passed : List Nat) (component : Nat) : List Nat :=
  reachable.filter fun source => component ∈ edges source ∧ source ∉ passed

section Waiting
variable {passed : List Nat} {source component : Nat}

theorem mem_waiting : source ∈ waiting edges reachable passed component ↔
    source ∈ reachable ∧ component ∈ edges source ∧ source ∉ passed := by
  rw [waiting, List.mem_filter, decide_eq_true_eq]

theorem waiting_length (hdistinct : reachable.Nodup) (hsource : source ∈ reachable)
    (hnew : source ∉ passed) :
    ((waiting edges reachable (passed ++ [source]) component).length : Int) =
      if component ∈ edges source then
        ((waiting edges reachable passed component).length : Int) - 1
      else (waiting edges reachable passed component).length := by
  have herase : waiting edges reachable (passed ++ [source]) component =
      (waiting edges reachable passed component).erase source := by
    rw [waiting, waiting, (hdistinct.filter _).erase_eq_filter, List.filter_filter]
    apply List.filter_congr
    intro other _
    by_cases heq : other = source <;> simp [heq]
  rw [herase]
  split
  · rename_i hedge
    have hmem : source ∈ waiting edges reachable passed component :=
      mem_waiting.mpr ⟨hsource, hedge, hnew⟩
    have hpos := List.length_pos_of_mem hmem
    rw [List.length_erase_of_mem hmem]
    omega
  · rename_i hedge
    rw [List.erase_of_not_mem fun hmem => hedge (mem_waiting.mp hmem).2.1]

theorem initialIndegree_eq (hdistinct : ∀ source, (edges source).Nodup)
    (hcomponent : component ∈ reachable) :
    initialIndegree edges reachable component = (waiting edges reachable [] component).length := by
  have hcount : ∀ sources : List Nat,
      (sources.flatMap fun source => (edges source).filter (· ∈ reachable)).count component =
        (sources.filter fun source => component ∈ edges source ∧ source ∉ ([] : List Nat)).length := by
    intro sources
    induction sources with
    | nil => rfl
    | cons source sources ih =>
        rw [List.flatMap_cons, List.count_append, ih, List.count_filter (by simpa using hcomponent)]
        by_cases hedge : component ∈ edges source
        · rw [List.count_eq_one_of_mem (hdistinct source) hedge,
            List.filter_cons_of_pos (by simpa using hedge), List.length_cons, Nat.add_comm]
        · rw [List.count_eq_zero_of_not_mem hedge,
            List.filter_cons_of_neg (by simpa using hedge), Nat.zero_add]
  rw [initialIndegree, hcount, waiting]

end Waiting

theorem rootDepth_eq (component : Nat) :
    rootDepth roots component = if component ∈ roots then 1 else 0 := by
  have hfold : ∀ (pending : List Nat) (depth : Nat → Nat),
      pending.foldl (fun depth root => Function.update depth root (max (depth root) 1)) depth
          component =
        if component ∈ pending then max (depth component) 1 else depth component := by
    intro pending
    induction pending with
    | nil => exact fun depth => rfl
    | cons root pending ih =>
        intro depth
        rw [List.foldl_cons, ih]
        by_cases heq : component = root
        · simp [heq]
        · simp [heq]
  rw [rootDepth, hfold]
  simp

namespace Levels
variable {passed : List Nat} {s next : Levels} {source : Nat}

structure Valid (edges : Nat → List Nat) (roots reachable passed : List Nat) (s : Levels) :
    Prop where
  distinct : (passed ++ s.queue).Nodup
  known : ∀ component ∈ passed ++ s.queue, component ∈ reachable
  indegree : ∀ component ∈ reachable,
    s.indegree component = (waiting edges reachable passed component).length
  ready : ∀ component ∈ reachable, (s.indegree component = 0 ↔ component ∈ passed ++ s.queue)
  root : ∀ root ∈ roots, 1 ≤ s.depth root
  level : ∀ component ∈ passed, ∀ target ∈ edges component,
    s.depth component + 1 ≤ s.depth target
  attained : ∀ component, s.depth component ≠ 0 →
    RootWalk edges roots component (s.depth component)
  maximum : ∀ component ∈ passed, s.depth component ≤ s.maximumDepth
  longest : s.maximumDepth = 0 ∨ ∃ component, RootWalk edges roots component s.maximumDepth

/-- No predecessor of a component in the queue or in front of it waits. -/
theorem Valid.passed_of_edge (hs : s.Valid edges roots reachable passed) {component : Nat}
    (hcomponent : component ∈ passed ++ s.queue) (hsource : source ∈ reachable)
    (hedge : component ∈ edges source) : source ∈ passed := by
  have hreach := hs.known component hcomponent
  have hzero := (hs.ready component hreach).mpr hcomponent
  rw [hs.indegree component hreach] at hzero
  have hnone := List.eq_nil_of_length_eq_zero (Int.ofNat_eq_zero.mp hzero)
  by_contra hnew
  exact List.ne_nil_of_mem (mem_waiting.mpr ⟨hsource, hedge, hnew⟩) hnone

theorem Valid.depth_ne_zero (hs : s.Valid edges roots reachable passed)
    (hreach : ∀ component, component ∈ reachable ↔ ∃ n, RootWalk edges roots component n)
    {component : Nat} (hcomponent : component ∈ passed ++ s.queue) : s.depth component ≠ 0 := by
  obtain ⟨n, hwalk⟩ := (hreach component).mp (hs.known component hcomponent)
  cases hwalk with
  | start hroot => exact Nat.one_le_iff_ne_zero.mp (hs.root component hroot)
  | @step source _ n hwalk hedge =>
      have hpassed := hs.passed_of_edge hcomponent ((hreach source).mpr ⟨n, hwalk⟩) hedge
      have hlevel := hs.level source hpassed component hedge
      omega

theorem relaxAll_spec {targets : List Nat} (hdistinct : targets.Nodup) (hsource : source ∉ targets)
    (hreach : ∀ target ∈ targets, target ∈ reachable) :
    ∃ t, targets.foldl (relax reachable source) s = t ∧
      t.queue = s.queue ++ targets.filter (s.indegree · - 1 = 0) ∧
      (∀ component, t.indegree component =
        if component ∈ targets then s.indegree component - 1 else s.indegree component) ∧
      (∀ component, t.depth component =
        if component ∈ targets then max (s.depth component) (s.depth source + 1)
        else s.depth component) ∧
      t.maximumDepth = s.maximumDepth := by
  induction targets generalizing s with
  | nil => exact ⟨s, rfl, by simp⟩
  | cons target targets ih =>
      obtain ⟨hnew, hdistinct⟩ := List.nodup_cons.mp hdistinct
      obtain ⟨hne, hsource⟩ := not_or.mp (mt List.mem_cons.mpr hsource)
      obtain ⟨hmem, hreach⟩ := List.forall_mem_cons.mp hreach
      obtain ⟨t, ht, hqueue, hindegree, hdepth, hmaximum⟩ :=
        ih (s := s.relax reachable source target) hdistinct hsource hreach
      have hother : ∀ component ∈ targets, component ≠ target :=
        fun component hcomponent => ne_of_mem_of_not_mem hcomponent hnew
      simp only [relax, if_pos hmem] at hqueue hindegree hdepth hmaximum
      refine ⟨t, ht, ?_, fun component => ?_, fun component => ?_, hmaximum⟩
      · have hfilter : targets.filter
            (Function.update s.indegree target (s.indegree target - 1) · - 1 = 0) =
            targets.filter (s.indegree · - 1 = 0) := by
          apply List.filter_congr
          intro component hcomponent
          rw [Function.update_of_ne (hother component hcomponent)]
        rw [hqueue, hfilter]
        by_cases hzero : s.indegree target - 1 = 0
        · simp [hzero]
        · simp [hzero]
      · rw [hindegree]
        by_cases heq : component = target
        · simp [heq, hnew]
        · simp [heq]
      · rw [hdepth, Function.update_of_ne hne]
        by_cases heq : component = target
        · simp [heq, hnew]
        · simp [heq]

/-- The component in front of the queue is passed. -/
theorem step_valid (h : Layered edges size roots) (hnodup : reachable.Nodup)
    (hreach : ∀ component, component ∈ reachable ↔ ∃ n, RootWalk edges roots component n)
    (hs : s.Valid edges roots reachable passed) (hstep : s.step edges reachable = some next) :
    ∃ source, next.Valid edges roots reachable (passed ++ [source]) := by
  cases hqueue : s.queue with
  | nil => simp [step, hqueue] at hstep
  | cons source queue =>
      have hfront : source ∈ passed ++ s.queue := by simp [hqueue]
      have hsource := hs.known source hfront
      have hdepth := hs.depth_ne_zero hreach hfront
      obtain ⟨n, hwalk⟩ := (hreach source).mp hsource
      have hnew : source ∉ passed := by
        have hdistinct := hs.distinct
        rw [hqueue] at hdistinct
        exact (List.nodup_cons.mp (List.nodup_middle.mp hdistinct)).1 ∘ List.mem_append_left _
      have hself : source ∉ edges source := fun hedge => h.acyclic source (.single hedge)
      have hlater : ∀ component ∈ passed ++ s.queue, component ∉ edges source :=
        fun component hcomponent hedge => hnew (hs.passed_of_edge hcomponent hsource hedge)
      have hsame : (passed ++ [source]) ++ queue = passed ++ s.queue := by
        rw [hqueue, List.append_assoc, List.singleton_append]
      have htargets : ∀ target ∈ edges source, target ∈ reachable :=
        fun target hedge => (hreach target).mpr ⟨n + 1, .step hwalk hedge⟩
      obtain ⟨t, ht, hwaiting, hindegree, hdepths, hmaximum⟩ := relaxAll_spec
        (s := { s with queue, maximumDepth := max s.maximumDepth (s.depth source) })
        (h.distinct source) hself htargets
      obtain rfl : t = next := by
        simp only [step, hqueue, if_neg hdepth] at hstep
        exact ht.symm.trans (Option.some.inj hstep)
      simp only at hwaiting hindegree hdepths hmaximum
      have hkept : ∀ component ∈ passed ++ s.queue, t.depth component = s.depth component :=
        fun component hcomponent => by rw [hdepths, if_neg (hlater component hcomponent)]
      have hpassed : ∀ component ∈ passed ++ [source], component ∈ passed ++ s.queue := by
        intro component hcomponent
        rw [← hsame]
        exact List.mem_append_left _ hcomponent
      refine ⟨source, ?_⟩
      constructor
      · rw [hwaiting, ← List.append_assoc, hsame]
        refine List.nodup_append'.mpr ⟨hs.distinct, (h.distinct source).filter _, ?_⟩
        exact fun component hold hfound => hlater component hold (List.mem_filter.mp hfound).1
      · intro component hcomponent
        rw [hwaiting, ← List.append_assoc, hsame, List.mem_append] at hcomponent
        rcases hcomponent with hold | hfound
        · exact hs.known component hold
        · exact htargets component (List.mem_filter.mp hfound).1
      · intro component hcomponent
        rw [hindegree, waiting_length hnodup hsource hnew, hs.indegree component hcomponent]
      · intro component hcomponent
        have hold := hs.ready component hcomponent
        rw [hwaiting, ← List.append_assoc, hsame, List.mem_append, hindegree, List.mem_filter,
          decide_eq_true_eq]
        by_cases hedge : component ∈ edges source
        · simp only [hedge, if_true, true_and]
          exact (or_iff_right fun hmem => hlater component hmem hedge).symm
        · simp only [hedge, if_false, false_and, or_false]
          exact hold
      · intro root hroot
        rw [hdepths]
        split
        · exact (hs.root root hroot).trans (Nat.le_max_left _ _)
        · exact hs.root root hroot
      · intro component hcomponent target hedge
        rw [hkept component (hpassed component hcomponent), hdepths]
        rcases List.mem_append.mp hcomponent with hold | hlast
        · have hlevel := hs.level component hold target hedge
          split
          · exact hlevel.trans (Nat.le_max_left _ _)
          · exact hlevel
        · obtain rfl := List.mem_singleton.mp hlast
          rw [if_pos hedge]
          exact Nat.le_max_right _ _
      · intro component hne
        rw [hdepths] at hne ⊢
        split
        · rename_i hedge
          rcases Nat.le_total (s.depth component) (s.depth source + 1) with hle | hge
          · rw [Nat.max_eq_right hle]
            exact .step (hs.attained source hdepth) hedge
          · rw [Nat.max_eq_left hge]
            exact hs.attained component (by omega)
        · rename_i hedge
          rw [if_neg hedge] at hne
          exact hs.attained component hne
      · intro component hcomponent
        rw [hkept component (hpassed component hcomponent), hmaximum]
        rcases List.mem_append.mp hcomponent with hold | hlast
        · exact (hs.maximum component hold).trans (Nat.le_max_left _ _)
        · obtain rfl := List.mem_singleton.mp hlast
          exact Nat.le_max_right _ _
      · rw [hmaximum]
        rcases Nat.le_total s.maximumDepth (s.depth source) with hle | hge
        · rw [Nat.max_eq_right hle]
          exact .inr ⟨source, hs.attained source hdepth⟩
        · rw [Nat.max_eq_left hge]
          exact hs.longest

theorem start_valid (h : Layered edges size roots) (hnodup : reachable.Nodup) :
    (start edges reachable roots).Valid edges roots reachable [] where
  distinct := hnodup.filter _
  known := fun _ hcomponent => (List.mem_filter.mp hcomponent).1
  indegree := fun _ hcomponent => initialIndegree_eq h.distinct hcomponent
  ready := by
    intro component hcomponent
    rw [List.nil_append, start, List.mem_filter, decide_eq_true_eq]
    exact (and_iff_right hcomponent).symm
  root := by
    intro root hroot
    simp [start, rootDepth_eq, hroot]
  level := fun _ hcomponent => absurd hcomponent List.not_mem_nil
  attained := by
    intro component hne
    simp only [start, rootDepth_eq] at hne ⊢
    split
    · exact .start ‹_›
    · rename_i hroot
      rw [if_neg hroot] at hne
      exact absurd rfl hne
  maximum := fun _ hcomponent => absurd hcomponent List.not_mem_nil
  longest := .inl rfl

/-- When the queue is empty, no reachable component waits. -/
theorem Valid.all_passed (h : Layered edges size roots)
    (hreach : ∀ component, component ∈ reachable ↔ ∃ n, RootWalk edges roots component n)
    (hs : s.Valid edges roots reachable passed) (hqueue : s.queue = []) :
    ∀ component ∈ reachable, component ∈ passed := by
  intro component hcomponent
  by_contra hnew
  have hlt : ∀ component ∈ reachable, component < size := fun component hmem =>
    have ⟨_, hwalk⟩ := (hreach component).mp hmem
    h.walk_lt hwalk
  have hacyclic : WaitGraph.Acyclic fun target source : Fin size => target.val ∈ edges source := by
    intro component hcycle
    refine h.acyclic component ?_
    have hback := Relation.TransGen.lift (p := fun target source => target ∈ edges source)
      Fin.val (fun _ _ => id) _ _ hcycle
    exact Relation.transGen_swap.mp hback
  obtain ⟨first, ⟨hfirst, hnot⟩, hidle⟩ := hacyclic.exists_idle
    (p := fun component => component.val ∈ reachable ∧ component.val ∉ passed)
    (x := ⟨component, hlt component hcomponent⟩) ⟨hcomponent, hnew⟩
  have hnone : waiting edges reachable passed first = [] := by
    refine List.eq_nil_iff_forall_not_mem.mpr fun source hsource => ?_
    obtain ⟨hmem, hedge, hwaits⟩ := mem_waiting.mp hsource
    exact hidle ⟨source, hlt source hmem⟩ hedge ⟨hmem, hwaits⟩
  have hready := (hs.ready first hfirst).mp (by rw [hs.indegree first hfirst, hnone]; rfl)
  rw [hqueue, List.append_nil] at hready
  exact hnot hready

theorem passed_length (hlt : ∀ component ∈ reachable, component < size)
    (hs : s.Valid edges roots reachable passed) : (passed ++ s.queue).length ≤ size := by
  have hsubset : passed ++ s.queue ⊆ List.range size :=
    fun component hcomponent => List.mem_range.mpr (hlt component (hs.known component hcomponent))
  have hle := (hs.distinct.subperm hsubset).length_le
  rwa [List.length_range] at hle

end Levels

/-- The depth which is reported is the number of components on the longest path from a root. -/
theorem maximumDepth_isGreatest (h : Layered edges size roots) :
    IsGreatest {length | ∃ path : List Nat, (∀ first ∈ path.head?, first ∈ roots) ∧
        path.IsChain (fun source target => target ∈ edges source) ∧ path.length = length}
      (maximumDepth edges size roots) := by
  obtain ⟨hnodup, hreach⟩ := reachableFrom_spec h
  have hlt : ∀ component ∈ reachableFrom edges size roots, component < size :=
    fun component hmem =>
      have ⟨_, hwalk⟩ := (hreach component).mp hmem
      h.walk_lt hwalk
  obtain ⟨-, ⟨passed, hs, -⟩, hend⟩ := Loop.run_ends
    (P := fun n (s : Levels) => ∃ passed, s.Valid edges roots (reachableFrom edges size roots) passed ∧
      passed.length + n = size)
    (fun n s next ⟨passed, hs, hlength⟩ hstep => by
      obtain ⟨source, hnext⟩ := Levels.step_valid h hnodup hreach hs hstep
      have hle := Levels.passed_length hlt hnext
      rw [List.length_append, List.length_append, List.length_singleton] at hle
      exact ⟨n - 1, by omega, passed ++ [source], hnext, by simp; omega⟩)
    ⟨[], Levels.start_valid h hnodup, Nat.zero_add size⟩ (le_refl size)
  rw [maximumDepth]
  generalize Loop.run _ size (Levels.start edges _ roots) = s at hs hend
  have hqueue : s.queue = [] := by
    cases hqueue : s.queue with
    | nil => rfl
    | cons source queue => simp [Levels.step, hqueue] at hend
  have hall := hs.all_passed h hreach hqueue
  refine isGreatest_walk (fun component length hwalk => ?_) hs.longest
  have hlevel : length ≤ s.depth component := by
    induction hwalk with
    | start hroot => exact hs.root _ hroot
    | step hwalk hedge ih =>
        have hpassed := hall _ ((hreach _).mpr ⟨_, hwalk⟩)
        exact (Nat.succ_le_succ ih).trans (hs.level _ hpassed _ hedge)
  exact hlevel.trans (hs.maximum component (hall component ((hreach component).mpr ⟨_, hwalk⟩)))

end OpenRfc.TypeGraph
