import OpenRfc.Metadata.Moves

/-!
The bounds of the metadata repository: the accounting of its cache, the sizes of its
tables, and the counters of the adapter calls in progress.
-/

namespace OpenRfc.Metadata

def AdapterCall.isProbe : AdapterCall → Bool
  | .probeOptimized _ => true
  | _ => false

def AdapterCall.isAuthorization : AdapterCall → Bool
  | .authorize _ => true
  | _ => false

def AdapterCall.isLoad : AdapterCall → Bool
  | .load _ => true
  | _ => false

/-- The promise chain of the call has not run to its end. -/
def Status.inProgress {α : Type} : Status α → Bool
  | .finished _ => false
  | _ => true

/-- The promise of the adapter is pending. -/
def Status.isUnsettled {α : Type} : Status α → Bool
  | .queued | .called => true
  | _ => false

/-- The promise chain of the call waits for its last handler only. -/
def Status.isSettled {α : Type} : Status α → Bool
  | .settled _ => true
  | _ => false

namespace MetadataRepositoryRuntime
variable {α : Type} {cfg : Settings} {lax : Prop} {s s' : MetadataRepositoryRuntime α}
  {g : Nat} {x : Get}

/-! What a `get` changes when it ends. -/

theorem reject_eq_set (s : MetadataRepositoryRuntime α) (g : Nat) (x : Get) (e : Failure) :
    ∃ new, (new = [] ∨ new = [.refused g e]) ∧ s.reject g x e = { s with
      gets := s.gets.set g { x with stage := .done }
      trace := new ++ s.trace } := by
  unfold reject
  dsimp only
  split
  · exact ⟨[], .inl rfl, rfl⟩
  · exact ⟨[_], .inr rfl, rfl⟩

theorem failAttempt_eq_set (s : MetadataRepositoryRuntime α) (g : Nat) (x : Get)
    (fallback : Bool) (strategy : MetadataLoadStrategy) (e : Failure) :
    ∃ stage new, (fallback = true ∧ stage = .done ∨
        fallback = false ∧ stage = .failing strategy e) ∧
      (new = [] ∨ new = [.refused g e]) ∧
      s.failAttempt g x fallback strategy e = { s with
        gets := s.gets.set g { x with stage := stage }
        trace := new ++ s.trace } := by
  unfold failAttempt
  split
  · rename_i hsecond
    obtain ⟨new, hnew, heq⟩ := reject_eq_set s g x e
    exact ⟨.done, new, .inl ⟨hsecond, rfl⟩, hnew, heq⟩
  · rename_i hfirst
    exact ⟨.failing strategy e, [], .inr ⟨by simpa using hfirst, rfl⟩, .inl rfl, rfl⟩

theorem resolve_eq_set (s : MetadataRepositoryRuntime α) (g : Nat) (x : Get) (value : α) :
    ∃ new, (new = [] ∨ new = [.resolved g value]) ∧ s.resolve g x value = { s with
      gets := s.gets.set g { x with stage := .done }
      trace := new ++ s.trace } := by
  unfold resolve
  dsimp only
  split
  · exact ⟨[], .inl rfl, rfl⟩
  · exact ⟨[_], .inr rfl, rfl⟩

theorem observeSettlement_frame (s : MetadataRepositoryRuntime α) (j : Nat)
    (outcome : Except Failure (Option α)) :
    ∃ trace, s.observeSettlement j outcome = { s with trace := trace } := by
  cases outcome <;> exact ⟨_, rfl⟩

/-! The cache. -/

/-- The accounting of the cache. -/
structure Accounted (cfg : Settings) (s : MetadataRepositoryRuntime α) : Prop where
  entries : s.cache.size ≤ cfg.maxEntries
  retained : s.retainedBytes = s.cache.weight CacheEntry.retainedBytes
  bytes : s.retainedBytes ≤ cfg.maxRetainedBytes

/-- Only its cache and its counter of retained bytes are accounted for. -/
theorem Accounted.frame (h : Accounted cfg s) (hc : s'.cache = s.cache)
    (hb : s'.retainedBytes = s.retainedBytes) : Accounted cfg s' := by
  constructor
  · rw [hc]
    exact h.entries
  · rw [hc, hb]
    exact h.retained
  · rw [hb]
    exact h.bytes

theorem Accounted.touch (h : Accounted cfg s) {o : MetadataStructuralKey} {c : CacheEntry α}
    (hget : s.cache.get o = some c) (hc : s'.cache = s.cache.touch o c)
    (hb : s'.retainedBytes = s.retainedBytes) : Accounted cfg s' := by
  constructor
  · rw [hc, OrderedMap.size_touch_of_some c hget]
    exact h.entries
  · rw [hc, hb, OrderedMap.weight_touch _ hget]
    exact h.retained
  · rw [hb]
    exact h.bytes

theorem Accounted.empty (hc : s'.cache = .empty) (hb : s'.retainedBytes = 0) :
    Accounted cfg s' := by
  constructor
  · rw [hc]
    exact Nat.zero_le _
  · rw [hc, hb]
    rfl
  · rw [hb]
    exact Nat.zero_le _

/-- Where the cache is accounted for, no entry is larger than the counter. -/
theorem Accounted.sound (h : Accounted cfg s) : ¬ ((∃ o c, s.cache.get o = some c ∧
    s.retainedBytes < c.retainedBytes) ∨ s.cache.size = 0 ∧ s.retainedBytes ≠ 0) := by
  rintro (⟨o, c, hc, hlt⟩ | ⟨hsize, hbytes⟩)
  · have := OrderedMap.weight_delete CacheEntry.retainedBytes hc
    have := h.retained
    omega
  · have := OrderedMap.weight_of_size_zero CacheEntry.retainedBytes hsize
    have := h.retained
    omega

theorem advanceObjectEpoch_frame (cfg : Settings) (s : MetadataRepositoryRuntime α)
    (o : MetadataStructuralKey) : ∃ epochs n authorizations inFlight,
      s.advanceObjectEpoch cfg o = { s with
        objectEpochs := epochs
        globalEpoch := n
        authorizations := authorizations
        inFlight := inFlight } := by
  unfold advanceObjectEpoch
  split
  · exact ⟨_, _, _, _, rfl⟩
  · split <;> exact ⟨_, _, _, _, rfl⟩

theorem Accounted.move (h : Accounted cfg s) (hm : Move cfg lax s s') : Accounted cfg s' := by
  cases hm with
  | fault hfault => exact absurd hfault h.sound
  | dropped | decided | probeAdmitted | started | canceled | waiting | hit
  | authorizationAdmitted | passed | joined | loadAdmitted | called | probeSettled | granted
  | authorizationSettled | loadFailed | loadOutdated | loadOversize => exact h.frame rfl rfl
  | attemptFailed fallback strategy e =>
      obtain ⟨stage, new, -, -, heq⟩ := failAttempt_eq_set s _ _ fallback strategy e
      rw [heq]
      exact h.frame rfl rfl
  | cacheHit hx hs hj he hp hc =>
      obtain ⟨new, -, heq⟩ := resolve_eq_set _ _ _ _
      rw [heq]
      exact h.touch hc rfl rfl
  | loadResolved =>
      obtain ⟨new, -, heq⟩ := resolve_eq_set s _ _ _
      rw [heq]
      exact h.frame rfl rfl
  | advanced o =>
      obtain ⟨epochs, n, authorizations, inFlight, heq⟩ := advanceObjectEpoch_frame cfg s o
      rw [heq]
      exact h.frame rfl rfl
  | invalidatedAll | retired => exact .empty rfl rfl
  | @evicted o c hc hb =>
      have := OrderedMap.size_delete hc
      have := OrderedMap.weight_delete CacheEntry.retainedBytes hc
      have := h.entries
      have := h.retained
      have := h.bytes
      constructor
      · show (s.cache.delete o).size ≤ cfg.maxEntries
        omega
      · show s.retainedBytes - c.retainedBytes =
          (s.cache.delete o).weight CacheEntry.retainedBytes
        omega
      · show s.retainedBytes - c.retainedBytes ≤ cfg.maxRetainedBytes
        omega
  | @observed j job outcome =>
      obtain ⟨trace, heq⟩ := observeSettlement_frame s j outcome
      rw [heq]
      exact h.frame rfl rfl
  | loadSuperseded hj hs hc hr he hcache => exact h.touch hcache rfl rfl
  | @stored j job key snapshot hj hs hc hr he hf hcache hn hb =>
      constructor
      · show (s.cache.set key.structural _).size ≤ cfg.maxEntries
        rw [OrderedMap.size_set_of_none _ hcache]
        exact hn
      · show s.retainedBytes + snapshot.retainedBytes =
          (s.cache.set key.structural _).weight CacheEntry.retainedBytes
        rw [OrderedMap.weight_set_of_none _ _ hcache, h.retained]
      · exact hb
  | @finished j job r =>
      unfold finish
      dsimp only
      split <;> exact h.frame rfl rfl

theorem accounted_initial : Accounted cfg (initial : MetadataRepositoryRuntime α) :=
  .empty rfl rfl

theorem reachable_accounted (hs : (machine α cfg).Reachable s) : Accounted cfg s :=
  Machine.Reachable.invariant (P := Accounted cfg) accounted_initial
    (fun _ _ _ _ h he => Machine.moves_preserve (fun _ _ h hm => h.move hm)
      (step_moves he (.inl trivial)) h) hs

/-- The invariant rule of sequences of moves: what is accounted for stays so. -/
theorem Moves.invariant {P : MetadataRepositoryRuntime α → Prop}
    (hmove : ∀ s s', Accounted cfg s → P s → Move cfg lax s s' → P s')
    (h : Moves cfg lax s s') (ha : Accounted cfg s) (hp : P s) : P s' :=
  (Machine.moves_preserve (P := fun s => Accounted cfg s ∧ P s)
    (fun s s' h hm => ⟨h.1.move hm, hmove s s' h.1 h.2 hm⟩) h ⟨ha, hp⟩).2

/-- The invariant rule of runs. -/
theorem invariant_of_moves {P : MetadataRepositoryRuntime α → Prop}
    (hinit : P initial)
    (hmove : ∀ s s', Accounted cfg s → P s → Move cfg True s s' → P s')
    (hs : (machine α cfg).Reachable s) : P s :=
  Machine.Reachable.invariant hinit
    (fun _ _ _ hr hp he => Moves.invariant hmove (step_moves he (.inl trivial))
      (reachable_accounted hr) hp) hs

/-! The tables. -/

/-- The sizes of the bounded tables. -/
structure Limited (cfg : Settings) (s : MetadataRepositoryRuntime α) : Prop where
  probes : s.probes.size ≤ cfg.maxProbeEntries
  authorizations : s.authorizations.size ≤ cfg.maxAuthorizationEntries
  objectEpochs : s.objectEpochs.size ≤ cfg.maxObjectEpochEntries

theorem Limited.frame (h : Limited cfg s) (hp : s'.probes = s.probes)
    (ha : s'.authorizations.size ≤ s.authorizations.size)
    (he : s'.objectEpochs = s.objectEpochs) : Limited cfg s' := by
  constructor
  · rw [hp]
    exact h.probes
  · exact ha.trans h.authorizations
  · rw [he]
    exact h.objectEpochs

theorem Limited.probe (h : Limited cfg s)
    (hp : s'.probes.size ≤ s.probes.size ∨ s'.probes.size ≤ cfg.maxProbeEntries)
    (ha : s'.authorizations = s.authorizations) (he : s'.objectEpochs = s.objectEpochs) :
    Limited cfg s' := by
  constructor
  · exact hp.elim (fun hp => hp.trans h.probes) id
  · rw [ha]
    exact h.authorizations
  · rw [he]
    exact h.objectEpochs

theorem Limited.advance (h : Limited cfg s) (o : MetadataStructuralKey) :
    Limited cfg (s.advanceObjectEpoch cfg o) := by
  unfold advanceObjectEpoch
  split
  · rename_i n hn
    refine ⟨h.probes, h.authorizations, ?_⟩
    show (s.objectEpochs.touch o (n + 1)).size ≤ cfg.maxObjectEpochEntries
    rw [OrderedMap.size_touch_of_some _ hn]
    exact h.objectEpochs
  · rename_i hn
    split
    · rename_i hroom
      refine ⟨h.probes, h.authorizations, ?_⟩
      show (s.objectEpochs.set o 1).size ≤ cfg.maxObjectEpochEntries
      rw [OrderedMap.size_set_of_none _ hn]
      exact hroom
    · exact ⟨h.probes, Nat.zero_le _, Nat.zero_le _⟩

theorem Limited.move (h : Limited cfg s) (ha : Accounted cfg s) (hm : Move cfg lax s s') :
    Limited cfg s' := by
  cases hm with
  | fault hfault => exact absurd hfault ha.sound
  | dropped a ha hn => exact h.frame rfl hn rfl
  | decided p hn => exact h.probe hn rfl rfl
  | probeAdmitted key p ha hn => exact h.probe hn rfl rfl
  | started | canceled | waiting | passed | joined | loadAdmitted | called | probeSettled
  | authorizationSettled | loadFailed | loadOutdated | loadSuperseded | stored =>
      exact h.frame rfl le_rfl rfl
  | hit fallback hx hr hk he ha =>
      exact h.frame rfl (OrderedMap.size_touch_of_some _ ha).le rfl
  | @authorizationAdmitted g x strategy epoch fallback a hx hr hk he ha hnone hactive hn =>
      refine ⟨h.probes, ?_, h.objectEpochs⟩
      show (a.set (x.lookup.accessKey strategy epoch) _).size ≤ cfg.maxAuthorizationEntries
      rw [OrderedMap.size_set_of_none _ hnone]
      have := h.authorizations
      omega
  | attemptFailed fallback strategy e =>
      obtain ⟨stage, new, -, -, heq⟩ := failAttempt_eq_set s _ _ fallback strategy e
      rw [heq]
      exact h.frame rfl le_rfl rfl
  | cacheHit | loadResolved =>
      obtain ⟨new, -, heq⟩ := resolve_eq_set _ _ _ _
      rw [heq]
      exact h.frame rfl le_rfl rfl
  | advanced o =>
      exact (h.advance o).frame rfl (OrderedMap.size_retain_le _ _) rfl
  | invalidatedAll | retired => exact ⟨Nat.zero_le _, Nat.zero_le _, Nat.zero_le _⟩
  | evicted => exact h.frame rfl (OrderedMap.size_retain_le _ _) rfl
  | @observed j job outcome =>
      obtain ⟨trace, heq⟩ := observeSettlement_frame s j outcome
      rw [heq]
      exact h.frame rfl le_rfl rfl
  | granted hj hs hc hf hb ho =>
      exact h.frame rfl (OrderedMap.size_set_of_some _ ho).le rfl
  | loadOversize => exact h.frame rfl (OrderedMap.size_retain_le _ _) rfl
  | @finished j job r =>
      unfold finish
      dsimp only
      split <;> exact h.frame rfl le_rfl rfl

/-! The adapter calls in progress. -/

/-- How many adapter calls of a kind are in progress. -/
def inProgress (s : MetadataRepositoryRuntime α) (p : AdapterCall → Bool) : Nat :=
  s.jobs.countP fun job => p job.call && job.status.inProgress

theorem inProgress_admitJob (call : AdapterCall) (p : AdapterCall → Bool) :
    (s.admitJob call).inProgress p = s.inProgress p + if p call then 1 else 0 := by
  unfold inProgress
  show (s.jobs ++ [Job.mk call s.settledJobs .queued]).countP _ = _
  rw [List.countP_append, List.countP_singleton]
  simp [Status.inProgress]

/-- A call whose chain has run to its end was in progress before. -/
theorem inProgress_setStatus {j : Nat} {job : Job α} (hj : s.jobs[j]? = some job)
    (status : Status α) (p : AdapterCall → Bool) :
    (s.setStatus j job status).inProgress p +
        (if p job.call && job.status.inProgress then 1 else 0) =
      s.inProgress p + if p job.call && status.inProgress then 1 else 0 := by
  obtain ⟨hlt, hget⟩ := List.getElem?_eq_some_iff.mp hj
  unfold inProgress
  change (s.jobs.set j { job with status := status }).countP
    (fun job => p job.call && job.status.inProgress) + _ = _
  rw [List.countP_set hlt, hget]
  dsimp only
  have hle : (if p job.call && job.status.inProgress then 1 else 0) ≤
      s.jobs.countP fun job => p job.call && job.status.inProgress := by
    have := List.boole_getElem_le_countP hlt (p := fun job : Job α =>
      p job.call && job.status.inProgress)
    rwa [hget] at this
  omega

theorem inProgress_setStatus_same {j : Nat} {job : Job α} (hj : s.jobs[j]? = some job)
    {status : Status α} (hs : status.inProgress = job.status.inProgress)
    (p : AdapterCall → Bool) : (s.setStatus j job status).inProgress p = s.inProgress p := by
  have := inProgress_setStatus hj status p
  rw [hs] at this
  omega

/-- A load in flight under a key. -/
def Tracks (jobs : List (Job α)) (key : AccessKey) (j : Nat) : Prop :=
  ∃ job, jobs[j]? = some job ∧ job.call = .load key ∧ job.status.inProgress = true

/-- The counters count the calls in progress, within their limits, and an entry of the
table of loads in flight belongs to one of them. -/
structure Counted (cfg : Settings) (s : MetadataRepositoryRuntime α) : Prop where
  probes : s.activeProbes = s.inProgress AdapterCall.isProbe
  authorizations : s.activeAuthorizations = s.inProgress AdapterCall.isAuthorization
  loads : s.activeLoads = s.inProgress AdapterCall.isLoad
  probesLimit : s.activeProbes ≤ cfg.maxProbeEntries
  authorizationsLimit : s.activeAuthorizations ≤ cfg.maxAuthorizationEntries
  loadsLimit : s.activeLoads ≤ cfg.maxInFlightLoads
  tracked : ∀ key j, s.inFlight.get key = some j → Tracks s.jobs key j

/-- The calls and the counters stay as they are. -/
theorem Counted.frame (h : Counted cfg s) (hj : s'.jobs = s.jobs)
    (hp : s'.activeProbes = s.activeProbes)
    (ha : s'.activeAuthorizations = s.activeAuthorizations)
    (hl : s'.activeLoads = s.activeLoads)
    (hf : ∀ key j, s'.inFlight.get key = some j → s.inFlight.get key = some j) :
    Counted cfg s' := by
  have same (p : AdapterCall → Bool) : s'.inProgress p = s.inProgress p := by
    unfold inProgress
    rw [hj]
  constructor
  · rw [hp, same, h.probes]
  · rw [ha, same, h.authorizations]
  · rw [hl, same, h.loads]
  · rw [hp]
    exact h.probesLimit
  · rw [ha]
    exact h.authorizationsLimit
  · rw [hl]
    exact h.loadsLimit
  · intro key j hget
    rw [hj]
    exact h.tracked key j (hf key j hget)

theorem Tracks.append {jobs : List (Job α)} {key : AccessKey} {j : Nat}
    (h : Tracks jobs key j) (more : List (Job α)) : Tracks (jobs ++ more) key j := by
  obtain ⟨job, hj, hc, hp⟩ := h
  refine ⟨job, ?_, hc, hp⟩
  rw [List.getElem?_append_left (List.getElem?_eq_some_iff.mp hj).1]
  exact hj

/-- A call which has moved on but stays in progress is still tracked. -/
theorem Tracks.set {jobs : List (Job α)} {key : AccessKey} {i j : Nat} {job : Job α}
    (h : Tracks jobs key i) (hj : jobs[j]? = some job) (status : Status α)
    (hs : i = j → status.inProgress = true) :
    Tracks (jobs.set j { job with status := status }) key i := by
  obtain ⟨job', hi, hc, hp⟩ := h
  by_cases hij : j = i
  · subst hij
    rw [hj] at hi
    cases hi
    refine ⟨{ job with status := status }, ?_, hc, hs rfl⟩
    rw [List.getElem?_set_self (List.getElem?_eq_some_iff.mp hj).1]
  · refine ⟨job', ?_, hc, hp⟩
    rw [List.getElem?_set_ne hij]
    exact hi

/-- A call moves on, and stays in progress. -/
theorem Counted.setStatus (h : Counted cfg s) {j : Nat} {job : Job α} {status : Status α}
    (hj : s.jobs[j]? = some job) (hold : job.status.inProgress = true)
    (hnew : status.inProgress = true) : Counted cfg (s.setStatus j job status) := by
  have same := inProgress_setStatus_same hj (hnew.trans hold.symm)
  constructor
  · rw [same]
    exact h.probes
  · rw [same]
    exact h.authorizations
  · rw [same]
    exact h.loads
  · exact h.probesLimit
  · exact h.authorizationsLimit
  · exact h.loadsLimit
  · exact fun key i hget => (h.tracked key i hget).set hj status fun _ => hnew

/-- A call which is admitted. Its counter, and for a load its entry, come with it. -/
theorem Counted.admits (h : Counted cfg s) (call : AdapterCall)
    (hj : s'.jobs = (s.admitJob call).jobs)
    (hp : s'.activeProbes = s.activeProbes + if call.isProbe then 1 else 0)
    (ha : s'.activeAuthorizations =
      s.activeAuthorizations + if call.isAuthorization then 1 else 0)
    (hl : s'.activeLoads = s.activeLoads + if call.isLoad then 1 else 0)
    (hpl : s'.activeProbes ≤ cfg.maxProbeEntries)
    (hal : s'.activeAuthorizations ≤ cfg.maxAuthorizationEntries)
    (hll : s'.activeLoads ≤ cfg.maxInFlightLoads)
    (hf : ∀ key j, s'.inFlight.get key = some j →
      s.inFlight.get key = some j ∨ j = s.jobs.length ∧ call = .load key) :
    Counted cfg s' := by
  have same (p : AdapterCall → Bool) :
      s'.inProgress p = s.inProgress p + if p call then 1 else 0 := by
    rw [← inProgress_admitJob]
    unfold inProgress
    rw [hj]
  constructor
  · rw [hp, same, h.probes]
  · rw [ha, same, h.authorizations]
  · rw [hl, same, h.loads]
  · exact hpl
  · exact hal
  · exact hll
  · intro key j hget
    rw [hj]
    obtain hold | ⟨rfl, rfl⟩ := hf key j hget
    · exact (h.tracked key j hold).append _
    · exact ⟨Job.mk (.load key) s.settledJobs .queued, List.getElem?_concat_length, rfl, rfl⟩

theorem advanceObjectEpoch_inFlight {o : MetadataStructuralKey} {key : AccessKey} {j : Nat}
    (h : (s.advanceObjectEpoch cfg o).inFlight.get key = some j) :
    s.inFlight.get key = some j := by
  unfold advanceObjectEpoch at h
  split at h
  · exact h
  · split at h
    · exact h
    · cases h

/-- The last handler of a call takes it out of the counter of its kind. -/
theorem Counted.finish (h : Counted cfg s) {j : Nat} {job : Job α}
    {r : Except Failure (Answer α)} (hj : s.jobs[j]? = some job)
    (hs : job.status = .settled r) : Counted cfg (s.finish j job r) := by
  have ended (p : AdapterCall → Bool) :
      (s.setStatus j job (.finished r)).inProgress p + (if p job.call then 1 else 0) =
        s.inProgress p := by
    have := inProgress_setStatus hj (.finished r) p
    simpa [hs, Status.inProgress] using this
  have hp := ended AdapterCall.isProbe
  have ha := ended AdapterCall.isAuthorization
  have hl := ended AdapterCall.isLoad
  have hprobes := h.probes
  have hauthorizations := h.authorizations
  have hloads := h.loads
  have hprobesLimit := h.probesLimit
  have hauthorizationsLimit := h.authorizationsLimit
  have hloadsLimit := h.loadsLimit
  have others (key : AccessKey) (i : Nat) (hget : s.inFlight.get key = some i) (hi : i ≠ j) :
      Tracks (s.setStatus j job (.finished r)).jobs key i :=
    (h.tracked key i hget).set hj (.finished r) fun hij => absurd hij hi
  -- A call which is not a load is not in the table of loads in flight.
  have tracked (key : AccessKey) (i : Nat) (hget : s.inFlight.get key = some i)
      (hc : ∀ key, job.call ≠ .load key) :
      Tracks (s.setStatus j job (.finished r)).jobs key i := by
    refine others key i hget ?_
    rintro rfl
    obtain ⟨job', hj', hload, -⟩ := h.tracked key i hget
    rw [hj] at hj'
    cases hj'
    exact hc key hload
  unfold MetadataRepositoryRuntime.finish
  cases hc : job.call with
  | probeOptimized key =>
      rw [hc] at hp ha hl
      refine ⟨?_, hauthorizations.trans ha.symm, hloads.trans hl.symm, ?_, hauthorizationsLimit,
        hloadsLimit, fun key i hget => tracked key i hget (by simp [hc])⟩
      · show s.activeProbes - 1 = (s.setStatus j job (.finished r)).inProgress _
        rw [hprobes, ← hp]
        rfl
      · exact (Nat.sub_le _ _).trans hprobesLimit
  | authorize key =>
      rw [hc] at hp ha hl
      refine ⟨hprobes.trans hp.symm, ?_, hloads.trans hl.symm, hprobesLimit, ?_,
        hloadsLimit, fun key i hget => tracked key i hget (by simp [hc])⟩
      · show s.activeAuthorizations - 1 = (s.setStatus j job (.finished r)).inProgress _
        rw [hauthorizations, ← ha]
        rfl
      · exact (Nat.sub_le _ _).trans hauthorizationsLimit
  | load key =>
      rw [hc] at hp ha hl
      refine ⟨hprobes.trans hp.symm, hauthorizations.trans ha.symm, ?_, hprobesLimit,
        hauthorizationsLimit, ?_, fun key' i hget => ?_⟩
      · show s.activeLoads - 1 = (s.setStatus j job (.finished r)).inProgress _
        rw [hloads, ← hl]
        rfl
      · exact (Nat.sub_le _ _).trans hloadsLimit
      · have hold : s.inFlight.get key' = some i ∧
            (s.inFlight.get key = some j → key' ≠ key) := by
          change (if s.inFlight.get key = some j then s.inFlight.delete key
            else s.inFlight).get key' = some i at hget
          split at hget
          · rw [OrderedMap.get_delete] at hget
            split at hget
            · cases hget
            · rename_i hne
              exact ⟨hget, fun _ => hne⟩
          · rename_i hown
            exact ⟨hget, fun h => absurd h hown⟩
        refine others key' i hold.1 ?_
        rintro rfl
        obtain ⟨job', hj', hload, -⟩ := h.tracked key' i hold.1
        rw [hj] at hj'
        cases hj'
        rw [hc] at hload
        cases hload
        exact hold.2 hold.1 rfl

theorem Counted.move (h : Counted cfg s) (ha : Accounted cfg s) (hm : Move cfg lax s s') :
    Counted cfg s' := by
  have subset {m : OrderedMap AccessKey Nat} {p : AccessKey → Nat → Bool} {key : AccessKey}
      {j : Nat} (hget : (m.retain p).get key = some j) : m.get key = some j := by
    rw [OrderedMap.get_retain] at hget
    exact (Option.filter_eq_some_iff.mp hget).1
  cases hm with
  | fault hfault => exact absurd hfault ha.sound
  | dropped | decided | started | canceled | waiting | hit | passed | joined | evicted =>
      exact h.frame rfl rfl rfl rfl fun _ _ hget => hget
  | probeAdmitted key p ha hn =>
      exact h.admits (.probeOptimized key) rfl rfl rfl rfl ha h.authorizationsLimit h.loadsLimit
        fun _ _ hget => .inl hget
  | @authorizationAdmitted g x strategy epoch fallback a hx hr hk he ha hnone hactive hn =>
      exact h.admits (.authorize (x.lookup.accessKey strategy epoch)) rfl rfl rfl rfl
        h.probesLimit hactive h.loadsLimit fun _ _ hget => .inl hget
  | @loadAdmitted g x fallback strategy epoch job hx hs hj he hr hp hc hf hactive =>
      refine h.admits (.load (x.lookup.accessKey strategy epoch)) rfl rfl rfl rfl
        h.probesLimit h.authorizationsLimit hactive fun key j hget => ?_
      change (s.inFlight.set (x.lookup.accessKey strategy epoch) s.jobs.length).get key =
        some j at hget
      rw [OrderedMap.get_set] at hget
      split at hget
      · rename_i hkey
        cases hget
        exact .inr ⟨rfl, by rw [hkey]⟩
      · exact .inl hget
  | attemptFailed fallback strategy e =>
      obtain ⟨stage, new, -, -, heq⟩ := failAttempt_eq_set s _ _ fallback strategy e
      rw [heq]
      exact h.frame rfl rfl rfl rfl fun _ _ hget => hget
  | cacheHit | loadResolved =>
      obtain ⟨new, -, heq⟩ := resolve_eq_set _ _ _ _
      rw [heq]
      exact h.frame rfl rfl rfl rfl fun _ _ hget => hget
  | advanced o =>
      have hadvance : Counted cfg (s.advanceObjectEpoch cfg o) := by
        have hfront (key : AccessKey) (j : Nat) :=
          @advanceObjectEpoch_inFlight _ cfg s o key j
        obtain ⟨epochs, n, authorizations, inFlight, heq⟩ := advanceObjectEpoch_frame cfg s o
        rw [heq] at hfront ⊢
        exact h.frame rfl rfl rfl rfl hfront
      exact hadvance.frame rfl rfl rfl rfl fun _ _ => subset
  | invalidatedAll | retired =>
      refine h.frame rfl rfl rfl rfl fun key j hget => ?_
      cases hget
  | called hj hs =>
      exact (h.setStatus hj (by rw [hs]; rfl) rfl).frame rfl rfl rfl rfl fun _ _ hget => hget
  | @observed j job outcome =>
      obtain ⟨trace, heq⟩ := observeSettlement_frame s j outcome
      rw [heq]
      exact h.frame rfl rfl rfl rfl fun _ _ hget => hget
  | probeSettled r hj hs | authorizationSettled r hj hs | loadFailed e hj hs =>
      exact h.setStatus hj (by rw [hs]; rfl) rfl
  | granted hj hs | loadOutdated hj hs | loadSuperseded hj hs | loadOversize hj hs
  | stored hj hs =>
      exact (h.setStatus hj (by rw [hs]; rfl) rfl).frame rfl rfl rfl rfl fun _ _ hget => hget
  | finished hj hs => exact h.finish hj hs

/-! The cache never throws. -/

/-- Where the cache is accounted for, taking an entry out does not throw. -/
theorem deleteCacheEntry_ok (h : Accounted cfg s) (o : MetadataStructuralKey) :
    ∃ b, (s.deleteCacheEntry o).2 = .ok b := by
  unfold deleteCacheEntry
  cases hc : s.cache.get o with
  | none => exact ⟨_, rfl⟩
  | some c =>
      dsimp only
      split
      · rename_i hlt
        exact absurd (.inl ⟨o, c, hc, hlt⟩) h.sound
      · exact ⟨_, rfl⟩

theorem deleteCacheEntry_size {o : MetadataStructuralKey} {c : CacheEntry α}
    (hc : s.cache.get o = some c) : (s.deleteCacheEntry o).1.cache.size + 1 = s.cache.size := by
  rw [← OrderedMap.size_delete hc]
  unfold deleteCacheEntry
  rw [hc]
  dsimp only
  split <;> rfl

theorem Accounted.deleteCacheEntry (h : Accounted cfg s) (o : MetadataStructuralKey) :
    Accounted cfg (s.deleteCacheEntry o).1 := by
  obtain ⟨b, hb⟩ := deleteCacheEntry_ok h o
  cases hd : s.deleteCacheEntry o with
  | mk t r =>
      rw [hd] at hb
      obtain ⟨⟨e, rfl⟩, -⟩ | ⟨-, hmoves, -⟩ := Moves.deleteCacheEntry hd
      · cases hb
      · exact Moves.invariant (fun _ _ ha _ (hm : Move cfg True _ _) => ha.move hm) hmoves h h

/-- The eviction loop ends within one round more than the cache has entries, and does not
find the accounting wrong. -/
theorem evictionLoop_ok {bytes fuel : Nat} (h : Accounted cfg s) (hn : cfg.maxEntries ≠ 0)
    (hb : bytes ≤ cfg.maxRetainedBytes) (hfuel : s.cache.size < fuel) :
    ∃ s', s.evictionLoop cfg bytes fuel = some (s', .ok ()) := by
  induction fuel generalizing s with
  | zero => cases hfuel
  | succ fuel ih =>
      unfold evictionLoop
      split
      · rename_i hfull
        cases ho : s.cache.oldest fun _ _ => true with
        | none =>
            have hzero : s.cache.size = 0 := by
              by_contra hne
              obtain ⟨o, ho'⟩ := OrderedMap.exists_oldest hne
              rw [ho] at ho'
              cases ho'
            have hbytes : s.retainedBytes = 0 := by
              by_contra hne
              exact h.sound (.inr ⟨hzero, hne⟩)
            omega
        | some oldest =>
            obtain ⟨c, hc, -⟩ := OrderedMap.oldest_spec ho
            obtain ⟨b, hok⟩ := deleteCacheEntry_ok h oldest
            have hsize := deleteCacheEntry_size hc
            have ha := h.deleteCacheEntry oldest
            cases hd : s.deleteCacheEntry oldest with
            | mk t r =>
                rw [hd] at hok hsize ha
                cases hok
                change t.cache.size + 1 = s.cache.size at hsize
                change Accounted cfg t at ha
                obtain ⟨s', hs'⟩ := ih ha (by omega)
                refine ⟨s', ?_⟩
                dsimp only
                rw [hd]
                exact hs'
      · exact ⟨s, rfl⟩

/-- A load which settles with a snapshot keeps it or finds another, and does not fail. -/
theorem cacheSnapshot_ok (h : Accounted cfg s) (o : MetadataStructuralKey)
    (snapshot : MetadataSnapshot α) :
    ∃ s' v, s.cacheSnapshot cfg o snapshot = some (s', .ok v) ∧ s'.jobs = s.jobs := by
  unfold cacheSnapshot
  cases hc : s.cache.get o with
  | some c => exact ⟨_, c.value, rfl, rfl⟩
  | none =>
      dsimp only
      split
      · exact ⟨_, snapshot.value, rfl, rfl⟩
      · rename_i hfits
        have hn : cfg.maxEntries ≠ 0 := fun h => hfits (.inl h)
        have hb : snapshot.retainedBytes ≤ cfg.maxRetainedBytes := by omega
        obtain ⟨t, ht⟩ := evictionLoop_ok h hn hb (Nat.lt_succ_self s.cache.size)
        obtain ⟨c, n, a, -, rfl⟩ := evictionLoop_eq ht
        obtain ⟨⟨e, he⟩, -⟩ | ⟨-, -, -, hroom⟩ :=
          @Moves.evictionLoop _ _ True _ _ _ _ _ hn hb ht
        · cases he
        · have := cfg.retained_safe
          dsimp only at hroom
          refine ⟨{ s with
            cache := c.set o ⟨snapshot.value, snapshot.retainedBytes⟩
            retainedBytes := n + snapshot.retainedBytes
            authorizations := a }, snapshot.value, ?_, rfl⟩
          change (s.evictionLoop cfg snapshot.retainedBytes s.cache.size.succ).map _ = _
          rw [ht]
          simp only [Option.map_some]
          rw [if_neg (by omega)]

theorem result_setStatus {j : Nat} {job : Job α} {r : Except Failure (Answer α)}
    (hj : s.jobs[j]? = some job) : (s.setStatus j job (.settled r)).result j = some r := by
  unfold result setStatus
  dsimp only
  rw [List.getElem?_set_self (List.getElem?_eq_some_iff.mp hj).1]

/-- A load in progress can settle with any snapshot, and its promise chain then succeeds:
the eviction loop comes to an end, and does not find the accounting wrong. -/
theorem settleLoad_ok (h : Accounted cfg s) {j : Nat} {job : Job α} {key : AccessKey}
    (hj : s.running j = some job) (hc : job.call = .load key) (snapshot : MetadataSnapshot α) :
    ∃ s' v, step cfg s (.settleLoad j (.ok snapshot)) = some s' ∧
      s'.result j = some (.ok (.loaded v)) := by
  obtain ⟨call, behind, status⟩ := job
  cases hc
  have hjob := (running_spec hj).1
  unfold step
  simp only [hj]
  unfold loadSettled
  dsimp only
  split
  · obtain ⟨t, v, ht, hjobs⟩ := cacheSnapshot_ok
      (s := s.observeSettlement j (.ok (some snapshot.value)))
      (h.frame rfl rfl) key.structural snapshot
    refine ⟨t.setStatus j ⟨.load key, behind, status⟩ (.settled (.ok (.loaded v))), v, ?_,
      result_setStatus ?_⟩
    · simp only [Except.map]
      rw [ht]
      rfl
    · rw [hjobs]
      exact hjob
  · exact ⟨_, snapshot.value, rfl, result_setStatus hjob⟩

/-- The calls in progress are those which have not settled and those whose last handler is
queued. -/
theorem inProgress_eq (s : MetadataRepositoryRuntime α) (p : AdapterCall → Bool) :
    s.inProgress p =
      (s.jobs.countP fun job => p job.call && job.status.isUnsettled) +
        s.jobs.countP fun job => p job.call && job.status.isSettled := by
  unfold inProgress
  induction s.jobs with
  | nil => rfl
  | cons job jobs ih =>
      rw [List.countP_cons, List.countP_cons, List.countP_cons, ih]
      cases p job.call <;> cases job.status <;>
        simp [Status.inProgress, Status.isUnsettled, Status.isSettled] <;> omega

theorem limited_initial : Limited cfg (initial : MetadataRepositoryRuntime α) :=
  ⟨Nat.zero_le _, Nat.zero_le _, Nat.zero_le _⟩

theorem counted_initial : Counted cfg (initial : MetadataRepositoryRuntime α) :=
  ⟨rfl, rfl, rfl, Nat.zero_le _, Nat.zero_le _, Nat.zero_le _, nofun⟩

/-- The bounds hold in every reachable state, and no eviction fails there. -/
theorem bounds_reachable (hs : (machine α cfg).Reachable s) :
    Accounted cfg s ∧ Limited cfg s ∧ Counted cfg s ∧
      (∀ p, s.inProgress p =
        (s.jobs.countP fun job => p job.call && job.status.isUnsettled) +
          s.jobs.countP fun job => p job.call && job.status.isSettled) ∧
      (∀ o, ∃ b, (s.deleteCacheEntry o).2 = .ok b) ∧
      (cfg.maxEntries ≠ 0 → ∀ bytes, bytes ≤ cfg.maxRetainedBytes →
        ∃ s', s.evictionLoop cfg bytes (s.cache.size + 1) = some (s', .ok ())) ∧
      ∀ j job key snapshot, s.running j = some job → job.call = .load key →
        ∃ s' v, step cfg s (.settleLoad j (.ok snapshot)) = some s' ∧
          s'.result j = some (.ok (.loaded v)) := by
  have ha := reachable_accounted hs
  have hl : Limited cfg s := invariant_of_moves limited_initial (fun _ _ ha h => h.move ha) hs
  have hc : Counted cfg s := invariant_of_moves counted_initial (fun _ _ ha h => h.move ha) hs
  exact ⟨ha, hl, hc, inProgress_eq s, deleteCacheEntry_ok ha,
    fun hn bytes hb => evictionLoop_ok ha hn hb (Nat.lt_succ_self _),
    fun j job key snapshot hj hload => settleLoad_ok ha hj hload snapshot⟩

/-- In a run which has loaded a descriptor the cache holds it. -/
theorem bounds_loadedOnce :
    ∃ s : MetadataRepositoryRuntime Nat, s.cache.size = 1 ∧ s.retainedBytes = 8 ∧
      Accounted oneDescriptor s := by
  obtain ⟨s, -, hs, hp⟩ := Machine.reachable_of_any (machine Nat oneDescriptor)
    (loadedOnce (functionLookup "RFC_PING" "alice" .classic))
    (fun s => s.cache.size = 1 ∧ s.retainedBytes = 8) (by decide +kernel)
  exact ⟨s, (of_decide_eq_true hp).1, (of_decide_eq_true hp).2, (bounds_reachable hs).1⟩

end MetadataRepositoryRuntime

end OpenRfc.Metadata
