import OpenRfc.Foundation.History
import OpenRfc.Metadata.Bounds

/-!
How a move carries the history of the repository on: epochs only grow, and grow for every
object which is invalidated; the calls of `get` and of the adapter are numbered in the
order in which they begin, and keep what they began with.
-/

namespace OpenRfc.Metadata

/-- The order of epochs. A compaction of the object epochs advances the global one. -/
def OperationEpoch.Le (a b : OperationEpoch) : Prop :=
  a.global < b.global ∨ a.global = b.global ∧ a.object ≤ b.object

namespace OperationEpoch

theorem Le.refl (a : OperationEpoch) : a.Le a := .inr ⟨rfl, le_rfl⟩

theorem Le.trans {a b c : OperationEpoch} (hab : a.Le b) (hbc : b.Le c) : a.Le c := by
  unfold Le at *
  omega

theorem Le.antisymm {a b : OperationEpoch} (hab : a.Le b) (hba : b.Le a) : a = b := by
  obtain ⟨g, o⟩ := a
  obtain ⟨g', o'⟩ := b
  unfold Le at hab hba
  dsimp only at hab hba
  obtain ⟨rfl, rfl⟩ : g = g' ∧ o = o' := by omega
  rfl

end OperationEpoch

/-- The observation invalidates the object. -/
def Observation.Invalidates {α : Type} (o : MetadataStructuralKey) : Observation α → Prop
  | .invalidated o' => o' = o
  | .invalidatedAll => True
  | _ => False

/-- No `get` or adapter call begins, and no object is invalidated. -/
def Observation.Quiet {α : Type} : Observation α → Prop
  | .started .. | .admitted .. | .invalidated _ | .invalidatedAll => False
  | _ => True

theorem Observation.Quiet.not_invalidates {α : Type} {a : Observation α} (h : a.Quiet)
    (o : MetadataStructuralKey) : ¬ a.Invalidates o := by
  cases a <;> simp_all [Observation.Quiet, Observation.Invalidates]

/-- A call of `get` keeps what it began with. -/
def Get.Continues (x x' : Get) : Prop := x'.lookup = x.lookup ∧ x'.epoch = x.epoch

/-- An adapter call keeps what it was admitted with. -/
def Job.Continues {α : Type} (job job' : Job α) : Prop :=
  job'.call = job.call ∧ job'.behind = job.behind

namespace MetadataRepositoryRuntime
variable {α : Type} {cfg : Settings} {lax : Prop} {s s' : MetadataRepositoryRuntime α}
  {new : List (Observation α)}

/-- What is observed on the way from `s` to `s'`, and what stays of the past. -/
structure Progress (s s' : MetadataRepositoryRuntime α) (new : List (Observation α)) :
    Prop where
  trace : s'.trace = new ++ s.trace
  epochs : ∀ o, (s.epochFor o).Le (s'.epochFor o)
  aged : ∀ o, s'.epochFor o = s.epochFor o → ∀ a ∈ new, ¬ a.Invalidates o
  gets : ∀ g x', s'.gets[g]? = some x' → (∃ x, s.gets[g]? = some x ∧ x.Continues x') ∨
    g = s.gets.length ∧ .started g x'.lookup ∈ new ∧
      x'.epoch = s'.epochFor x'.lookup.structural
  started : ∀ g l, .started g l ∈ new →
    g = s.gets.length ∧ ∃ x' : Get, s'.gets[g]? = some x' ∧ x'.lookup = l
  went : ∀ (g : Nat) (x : Get), s.gets[g]? = some x →
    ∃ x' : Get, s'.gets[g]? = some x' ∧ x'.lookup = x.lookup
  jobs : ∀ j job', s'.jobs[j]? = some job' →
    (∃ job, s.jobs[j]? = some job ∧ job.Continues job') ∨
      j = s.jobs.length ∧ job' = Job.mk job'.call s.settledJobs .queued ∧
        .admitted j job'.call ∈ new
  kept : ∀ (j : Nat) (job : Job α), s.jobs[j]? = some job →
    ∃ job', s'.jobs[j]? = some job' ∧ job.Continues job'
  admitted : ∀ j call, .admitted j call ∈ new →
    j = s.jobs.length ∧ ∃ job', s'.jobs[j]? = some job' ∧ job'.call = call
  retired : s'.retired = s.retired ∨ s'.cache = .empty ∧ s'.authorizations = .empty

theorem epochFor_frame (hg : s'.globalEpoch = s.globalEpoch)
    (ho : s'.objectEpochs = s.objectEpochs) (o : MetadataStructuralKey) :
    s'.epochFor o = s.epochFor o := by
  unfold epochFor
  rw [hg, ho]

theorem getElem?_of_set {β : Type} {l : List β} {i j : Nat} {a b : β}
    (h : (l.set i a)[j]? = some b) : l[j]? = some b ∨ i = j ∧ b = a := by
  by_cases hij : i = j
  · subst hij
    rw [List.getElem?_set] at h
    simp only [if_true] at h
    split at h
    · exact .inr ⟨rfl, (Option.some.inj h).symm⟩
    · cases h
  · rw [List.getElem?_set_ne hij] at h
    exact .inl h

/-- What the calls of `get` are when at most one of them has moved on. -/
def GetsStep (gets gets' : List Get) : Prop :=
  gets' = gets ∨ ∃ g x x', gets[g]? = some x ∧ x.Continues x' ∧ gets' = gets.set g x'

/-- What the adapter calls are when at most one of them has moved on. -/
def JobsStep (jobs jobs' : List (Job α)) : Prop :=
  jobs' = jobs ∨ ∃ j job job', jobs[j]? = some job ∧ job.Continues job' ∧
    jobs' = jobs.set j job'

theorem GetsStep.back {gets gets' : List Get} (h : GetsStep gets gets') {g : Nat} {x' : Get}
    (hx : gets'[g]? = some x') : ∃ x, gets[g]? = some x ∧ x.Continues x' := by
  obtain rfl | ⟨i, y, y', hy, hc, rfl⟩ := h
  · exact ⟨x', hx, rfl, rfl⟩
  · obtain hx | ⟨rfl, rfl⟩ := getElem?_of_set hx
    · exact ⟨x', hx, rfl, rfl⟩
    · exact ⟨y, hy, hc⟩

theorem GetsStep.forward {gets gets' : List Get} (h : GetsStep gets gets') {g : Nat} {x : Get}
    (hx : gets[g]? = some x) : ∃ x', gets'[g]? = some x' ∧ x'.lookup = x.lookup := by
  obtain rfl | ⟨i, y, y', hy, hc, rfl⟩ := h
  · exact ⟨x, hx, rfl⟩
  · by_cases hig : i = g
    · subst hig
      rw [hy] at hx
      cases hx
      exact ⟨y', List.getElem?_set_self (List.getElem?_eq_some_iff.mp hy).1, hc.1⟩
    · exact ⟨x, by rwa [List.getElem?_set_ne hig], rfl⟩

theorem JobsStep.back {jobs jobs' : List (Job α)} (h : JobsStep jobs jobs') {j : Nat}
    {job' : Job α} (hj : jobs'[j]? = some job') : ∃ job, jobs[j]? = some job ∧
      job.Continues job' := by
  obtain rfl | ⟨i, k, k', hk, hc, rfl⟩ := h
  · exact ⟨job', hj, rfl, rfl⟩
  · obtain hj | ⟨rfl, rfl⟩ := getElem?_of_set hj
    · exact ⟨job', hj, rfl, rfl⟩
    · exact ⟨k, hk, hc⟩

theorem JobsStep.forward {jobs jobs' : List (Job α)} (h : JobsStep jobs jobs') {j : Nat}
    {job : Job α} (hj : jobs[j]? = some job) : ∃ job', jobs'[j]? = some job' ∧
      job.Continues job' := by
  obtain rfl | ⟨i, k, k', hk, hc, rfl⟩ := h
  · exact ⟨job, hj, rfl, rfl⟩
  · by_cases hij : i = j
    · subst hij
      rw [hk] at hj
      cases hj
      exact ⟨k', List.getElem?_set_self (List.getElem?_eq_some_iff.mp hk).1, hc⟩
    · exact ⟨job, by rwa [List.getElem?_set_ne hij], rfl, rfl⟩

/-- Nothing begins, and nothing is invalidated. -/
theorem Progress.quiet (ht : s'.trace = new ++ s.trace) (hq : ∀ a ∈ new, a.Quiet)
    (hr : s'.retired = s.retired) (hg : s'.globalEpoch = s.globalEpoch) (ho : s'.objectEpochs = s.objectEpochs)
    (hgets : GetsStep s.gets s'.gets) (hjobs : JobsStep s.jobs s'.jobs) :
    Progress s s' new := by
  have hsame := epochFor_frame hg ho
  constructor
  · exact ht
  · intro o
    rw [hsame]
    exact .refl _
  · exact fun o _ a ha => (hq a ha).not_invalidates o
  · exact fun g x' hx => .inl (hgets.back hx)
  · exact fun g l hmem => (hq _ hmem).elim
  · exact fun g x hx => hgets.forward hx
  · exact fun j job' hj => .inl (hjobs.back hj)
  · exact fun j job hj => hjobs.forward hj
  · exact fun j call hmem => (hq _ hmem).elim
  · exact .inl hr

/-- An adapter call is admitted. -/
theorem Progress.admits {call : AdapterCall}
    (ht : s'.trace = .admitted s.jobs.length call :: s.trace) (hr : s'.retired = s.retired)
    (hg : s'.globalEpoch = s.globalEpoch) (ho : s'.objectEpochs = s.objectEpochs)
    (hgets : GetsStep s.gets s'.gets)
    (hjobs : s'.jobs = s.jobs ++ [Job.mk call s.settledJobs .queued]) :
    Progress s s' [.admitted s.jobs.length call] := by
  have hsame := epochFor_frame hg ho
  have hlast : s'.jobs[s.jobs.length]? = some (Job.mk call s.settledJobs .queued) := by
    rw [hjobs, List.getElem?_concat_length]
  constructor
  · exact ht
  · intro o
    rw [hsame]
    exact .refl _
  · rintro o - a ha
    rw [List.mem_singleton] at ha
    subst ha
    exact id
  · exact fun g x' hx => .inl (hgets.back hx)
  · exact fun g l hmem => by simp at hmem
  · exact fun g x hx => hgets.forward hx
  · intro j job' hj
    by_cases hlt : j < s.jobs.length
    · rw [hjobs, List.getElem?_append_left hlt] at hj
      exact .inl ⟨job', hj, rfl, rfl⟩
    · obtain rfl : j = s.jobs.length := by
        have := (List.getElem?_eq_some_iff.mp hj).1
        rw [hjobs, List.length_append, List.length_singleton] at this
        omega
      rw [hlast] at hj
      cases hj
      exact .inr ⟨rfl, rfl, List.mem_singleton_self _⟩
  · intro j job hj
    refine ⟨job, ?_, rfl, rfl⟩
    rw [hjobs, List.getElem?_append_left (List.getElem?_eq_some_iff.mp hj).1]
    exact hj
  · intro j c hmem
    rw [List.mem_singleton] at hmem
    cases hmem
    exact ⟨rfl, _, hlast, rfl⟩
  · exact .inl hr

/-- Objects are invalidated; no `get` and no adapter call is touched. -/
theorem Progress.invalidation (ht : s'.trace = new ++ s.trace)
    (hq : ∀ a ∈ new, a.Quiet ∨ ∃ o, a.Invalidates o) (hgets : s'.gets = s.gets)
    (hjobs : s'.jobs = s.jobs) (hle : ∀ o, (s.epochFor o).Le (s'.epochFor o))
    (haged : ∀ o, s'.epochFor o = s.epochFor o → ∀ a ∈ new, ¬ a.Invalidates o)
    (hr : s'.retired = s.retired ∨ s'.cache = .empty ∧ s'.authorizations = .empty) :
    Progress s s' new := by
  constructor
  · exact ht
  · exact hle
  · exact haged
  · intro g x' hx
    rw [hgets] at hx
    exact .inl ⟨x', hx, rfl, rfl⟩
  · exact fun g l hmem => ((hq _ hmem).elim id fun ⟨_, h⟩ => h).elim
  · intro g x hx
    rw [hgets]
    exact ⟨x, hx, rfl⟩
  · intro j job' hj
    rw [hjobs] at hj
    exact .inl ⟨job', hj, rfl, rfl⟩
  · intro j job hj
    rw [hjobs]
    exact ⟨job, hj, rfl, rfl⟩
  · exact fun j call hmem => ((hq _ hmem).elim id fun ⟨_, h⟩ => h).elim
  · exact hr

/-- An object whose epoch is advanced gets a later one, and no object an earlier one. -/
theorem advanceObjectEpoch_epochFor (cfg : Settings) (s : MetadataRepositoryRuntime α)
    (o o' : MetadataStructuralKey) :
    (s.epochFor o').Le ((s.advanceObjectEpoch cfg o).epochFor o') ∧
      ((s.advanceObjectEpoch cfg o).epochFor o' = s.epochFor o' → o' ≠ o) := by
  unfold advanceObjectEpoch
  split
  · rename_i n hn
    unfold epochFor
    dsimp only
    rw [OrderedMap.get_touch]
    by_cases ho : o' = o
    · subst ho
      simp [hn, OperationEpoch.Le]
    · simp [ho, OperationEpoch.Le]
  · rename_i hn
    split
    · unfold epochFor
      dsimp only
      rw [OrderedMap.get_set]
      by_cases ho : o' = o
      · subst ho
        simp [hn, OperationEpoch.Le]
      · simp [ho, OperationEpoch.Le]
    · simp [epochFor, OperationEpoch.Le]

/-- A `get` at the authorization gate whose authorization has been granted, in the epoch
of its object. -/
def Admissible (s : MetadataRepositoryRuntime α) (g : Nat) (x : Get)
    (strategy : MetadataLoadStrategy) : Prop :=
  ∃ fallback job, s.gets[g]? = some x ∧
    x.stage = .authorizing fallback strategy (s.epochFor x.lookup.structural) job ∧
    ∀ j, job = some j → s.Succeeded j

/-- What the state shows when an observation is made. -/
def Justified (s : MetadataRepositoryRuntime α) : Observation α → Prop
  | .resolved g v => (∃ x strategy c, s.Admissible g x strategy ∧
        s.trace.head? = some (.passed g strategy) ∧
        s.cache.get x.lookup.structural = some c ∧ v = c.value) ∨
      ∃ x fallback strategy epoch j, s.gets[g]? = some x ∧
        x.stage = .loading fallback strategy epoch j ∧ s.result j = some (.ok (.loaded v))
  | .passed g strategy => ∃ x, s.Admissible g x strategy
  | .joined g j => ∃ x strategy, s.Admissible g x strategy ∧
      s.trace.head? = some (.passed g strategy) ∧
      s.inFlight.get (x.lookup.accessKey strategy (s.epochFor x.lookup.structural)) = some j
  | .called j call => ∃ job, s.jobs[j]? = some job ∧ job.call = call
  | .admitted _ (.authorize key) => ∃ (g : Nat) (x : Get), s.gets[g]? = some x ∧
      key.capability = x.lookup.capability ∧ key.mode = x.lookup.mode ∧
      key.structural = x.lookup.structural ∧
      (key.epoch = x.epoch ∨ key.epoch = s.epochFor x.lookup.structural)
  | .admitted _ (.load key) => key.epoch = s.epochFor key.structural
  | _ => True

/-- The observations of one move. -/
inductive Observes (s : MetadataRepositoryRuntime α) : List (Observation α) → Prop
  | none : Observes s []
  | one {a : Observation α} (h : s.Justified a) : Observes s [a]
  | retired : Observes s [.retired, .invalidatedAll]

theorem Observes.setStage {g : Nat} {e : Failure} (h : new = [] ∨ new = [.refused g e]) :
    Observes s new ∧ ∀ a ∈ new, a.Quiet := by
  obtain rfl | rfl := h
  · exact ⟨.none, nofun⟩
  · refine ⟨.one trivial, fun a ha => ?_⟩
    rw [List.mem_singleton] at ha
    subst ha
    trivial

theorem Observes.resolve {g : Nat} {v : α} (h : new = [] ∨ new = [.resolved g v])
    (hj : s.Justified (.resolved g v)) : Observes s new ∧ ∀ a ∈ new, a.Quiet := by
  obtain rfl | rfl := h
  · exact ⟨.none, nofun⟩
  · refine ⟨.one hj, fun a ha => ?_⟩
    rw [List.mem_singleton] at ha
    subst ha
    trivial

theorem GetsStep.set {gets : List Get} {g : Nat} {x : Get} (hx : gets[g]? = some x)
    (stage : Stage) : GetsStep gets (gets.set g { x with stage := stage }) :=
  .inr ⟨g, x, { x with stage := stage }, hx, ⟨rfl, rfl⟩, rfl⟩

theorem JobsStep.set {jobs : List (Job α)} {j : Nat} {job : Job α} (hj : jobs[j]? = some job)
    (status : Status α) : JobsStep jobs (jobs.set j { job with status := status }) :=
  .inr ⟨j, job, { job with status := status }, hj, ⟨rfl, rfl⟩, rfl⟩

/-- Nothing is observed. -/
theorem Progress.silent (ht : s'.trace = s.trace) (hr : s'.retired = s.retired)
    (hg : s'.globalEpoch = s.globalEpoch) (ho : s'.objectEpochs = s.objectEpochs) (hgets : GetsStep s.gets s'.gets)
    (hjobs : JobsStep s.jobs s'.jobs) : ∃ new, Progress s s' new ∧ Observes s new :=
  ⟨[], .quiet ht nofun hr hg ho hgets hjobs, .none⟩

theorem Progress.observed {a : Observation α} (ht : s'.trace = a :: s.trace) (hq : a.Quiet)
    (hj : s.Justified a) (hr : s'.retired = s.retired) (hg : s'.globalEpoch = s.globalEpoch)
    (ho : s'.objectEpochs = s.objectEpochs) (hgets : GetsStep s.gets s'.gets)
    (hjobs : JobsStep s.jobs s'.jobs) : ∃ new, Progress s s' new ∧ Observes s new := by
  refine ⟨[a], .quiet ht (fun b hb => ?_) hr hg ho hgets hjobs, .one hj⟩
  rw [List.mem_singleton] at hb
  subst hb
  exact hq

theorem finish_frame (s : MetadataRepositoryRuntime α) (j : Nat) (job : Job α)
    (r : Except Failure (Answer α)) : ∃ probes authorizations loads inFlight,
      s.finish j job r = { s.setStatus j job (.finished r) with
        activeProbes := probes
        activeAuthorizations := authorizations
        activeLoads := loads
        inFlight := inFlight } := by
  unfold finish
  dsimp only
  split <;> exact ⟨_, _, _, _, rfl⟩

theorem Move.progress (hm : Move cfg lax s s') (ha : Accounted cfg s) :
    ∃ new, Progress s s' new ∧ Observes s new := by
  cases hm with
  | fault hfault => exact absurd hfault ha.sound
  | dropped | decided | evicted => exact Progress.silent rfl rfl rfl rfl (.inl rfl) (.inl rfl)
  | probeAdmitted key p ha hn =>
      exact ⟨_, Progress.admits rfl rfl rfl rfl (.inl rfl) rfl, .one trivial⟩
  | started l selection hr =>
      refine ⟨[.started s.gets.length l], ?_, .one trivial⟩
      constructor
      · rfl
      · exact fun o => .refl _
      · rintro o - a ha
        rw [List.mem_singleton] at ha
        subst ha
        exact id
      · intro g x' hx
        by_cases hlt : g < s.gets.length
        · rw [List.getElem?_append_left hlt] at hx
          exact .inl ⟨x', hx, rfl, rfl⟩
        · obtain rfl : g = s.gets.length := by
            have := (List.getElem?_eq_some_iff.mp hx).1
            rw [List.length_append, List.length_singleton] at this
            omega
          rw [List.getElem?_concat_length] at hx
          cases hx
          exact .inr ⟨rfl, List.mem_singleton_self _, rfl⟩
      · intro g l' hmem
        rw [List.mem_singleton] at hmem
        cases hmem
        exact ⟨rfl, _, List.getElem?_concat_length, rfl⟩
      · intro g x hx
        refine ⟨x, ?_, rfl⟩
        rw [List.getElem?_append_left (List.getElem?_eq_some_iff.mp hx).1]
        exact hx
      · exact fun j job' hj => .inl ⟨job', hj, rfl, rfl⟩
      · exact fun j job hj => ⟨job, hj, rfl, rfl⟩
      · exact fun j call hmem => by simp at hmem
      · exact .inl rfl
  | @canceled g x hx =>
      exact Progress.observed rfl trivial trivial rfl rfl rfl (.inr ⟨g, x, { x with canceled := true }, hx, ⟨rfl, rfl⟩, rfl⟩) (.inl rfl)
  | attemptFailed fallback strategy e hx =>
      obtain ⟨stage, new, -, hnew, heq⟩ := failAttempt_eq_set s _ _ fallback strategy e
      obtain ⟨hobs, hquiet⟩ := Observes.setStage (s := s) hnew
      rw [heq]
      exact ⟨new, .quiet rfl hquiet rfl rfl rfl (.set hx stage) (.inl rfl), hobs⟩
  | waiting fallback hx | hit fallback hx =>
      exact Progress.silent rfl rfl rfl rfl (.set hx _) (.inl rfl)
  | @authorizationAdmitted g x strategy epoch fallback a hx hr hk he =>
      exact ⟨_, Progress.admits rfl rfl rfl rfl (.set hx _) rfl,
        .one ⟨g, x, hx, rfl, rfl, rfl, he⟩⟩
  | @passed g x fallback strategy epoch job hx hs hj hr he =>
      subst he
      exact Progress.observed rfl trivial ⟨x, fallback, job, hx, hs, hj⟩ rfl rfl rfl (.inl rfl) (.inl rfl)
  | @cacheHit g x fallback strategy epoch job c hx hs hj he hp hc =>
      subst he
      obtain ⟨new, hnew, heq⟩ := resolve_eq_set
        { s with cache := s.cache.touch x.lookup.structural c } g x c.value
      obtain ⟨hobs, hquiet⟩ := Observes.resolve hnew
        (show s.Justified _ from
          .inl ⟨x, strategy, c, ⟨fallback, job, hx, hs, hj⟩, hp, hc, rfl⟩)
      rw [heq]
      exact ⟨new, .quiet rfl hquiet rfl rfl rfl (.set hx _) (.inl rfl), hobs⟩
  | @joined g x fallback strategy epoch job j hx hs hj he hr hp hc hf =>
      subst he
      exact Progress.observed rfl trivial ⟨x, strategy, ⟨fallback, job, hx, hs, hj⟩, hp, hf⟩ rfl rfl rfl
        (.set hx _) (.inl rfl)
  | loadAdmitted hx hs hj he hr =>
      exact ⟨_, Progress.admits rfl rfl rfl rfl (.set hx _) rfl, .one he.symm⟩
  | @loadResolved g x fallback strategy epoch j value hx hs hj =>
      obtain ⟨new, hnew, heq⟩ := resolve_eq_set s g x value
      obtain ⟨hobs, hquiet⟩ := Observes.resolve hnew
        (show s.Justified _ from .inr ⟨x, fallback, strategy, epoch, j, hx, hs, hj⟩)
      rw [heq]
      exact ⟨new, .quiet rfl hquiet rfl rfl rfl (.set hx _) (.inl rfl), hobs⟩
  | advanced o =>
      have hep (o' : MetadataStructuralKey) := advanceObjectEpoch_epochFor cfg s o o'
      obtain ⟨epochs, n, authorizations, inFlight, heq⟩ := advanceObjectEpoch_frame cfg s o
      rw [heq] at hep ⊢
      refine ⟨[.invalidated o], .invalidation rfl ?_ rfl rfl (fun o' => (hep o').1) ?_
        (.inl rfl), .one trivial⟩
      · intro a ha
        rw [List.mem_singleton] at ha
        subst ha
        exact .inr ⟨o, rfl⟩
      · rintro o' hsame a ha hinv
        rw [List.mem_singleton] at ha
        subst ha
        exact (hep o').2 hsame hinv.symm
  | invalidatedAll =>
      refine ⟨[.invalidatedAll], .invalidation rfl ?_ rfl rfl ?_ ?_ (.inl rfl), .one trivial⟩
      · intro a ha
        rw [List.mem_singleton] at ha
        subst ha
        exact .inr ⟨⟨"", "", "", "", ""⟩, trivial⟩
      · exact fun o => .inl (Nat.lt_succ_self _)
      · intro o hsame
        have := congrArg OperationEpoch.global hsame
        exact absurd this (Nat.succ_ne_self _)
  | retired =>
      refine ⟨[.retired, .invalidatedAll], .invalidation rfl ?_ rfl rfl ?_ ?_
        (.inr ⟨rfl, rfl⟩), .retired⟩
      · intro a ha
        simp only [List.mem_cons, List.not_mem_nil, or_false] at ha
        obtain rfl | rfl := ha
        · exact .inl trivial
        · exact .inr ⟨⟨"", "", "", "", ""⟩, trivial⟩
      · exact fun o => .inl (Nat.lt_succ_self _)
      · intro o hsame
        have := congrArg OperationEpoch.global hsame
        exact absurd this (Nat.succ_ne_self _)
  | @called j job hj hs =>
      exact Progress.observed rfl trivial ⟨job, hj, rfl⟩ rfl rfl rfl (.inl rfl) (.set hj _)
  | @observed j job outcome hj hs =>
      cases outcome <;> exact Progress.observed rfl trivial trivial rfl rfl rfl (.inl rfl) (.inl rfl)
  | probeSettled r hj | authorizationSettled r hj | loadFailed e hj | granted hj
  | loadOutdated hj | loadSuperseded hj | loadOversize hj | stored hj =>
      exact Progress.silent rfl rfl rfl rfl (.inl rfl) (.set hj _)
  | @finished j job r hj hs =>
      obtain ⟨probes, authorizations, loads, inFlight, heq⟩ := finish_frame s j job r
      rw [heq]
      exact Progress.silent rfl rfl rfl rfl (.inl rfl) (.set hj _)

end MetadataRepositoryRuntime

end OpenRfc.Metadata
