import OpenRfc.Metadata.Gate

/-!
Orphaned authorizations. In the guarded runs a settled authorization is of an object whose
descriptor is cached, or some `get` answers for it: it has passed it, and will withdraw it
or see the descriptor cached. When no `get` is in progress nobody does.
-/

namespace OpenRfc.Metadata

def Stage.isDone : Stage → Bool
  | .done => true
  | _ => false

namespace MetadataRepositoryRuntime
variable {α : Type} {cfg : Settings} {lax : Prop} {s s' : MetadataRepositoryRuntime α}
  {new : List (Observation α)}

theorem forgotten {k : AccessKey} {o : MetadataStructuralKey} (hk : k.structural = o) :
    (s.forgetAuthorizationsForStructural o).authorizations.get k = none := by
  change (s.authorizations.retain fun k _ => k.structural ≠ o).get k = none
  rw [OrderedMap.get_retain]
  cases s.authorizations.get k with
  | none => rfl
  | some e => simp [Option.filter, hk]

/-- A cached descriptor stays cached, or goes with the authorizations of its object. -/
theorem Move.cache_kept (hm : Move cfg lax s s') (ha : Accounted cfg s)
    {o : MetadataStructuralKey} (hc : s.cache.get o ≠ none) :
    s'.cache.get o ≠ none ∨ ∀ k, k.structural = o → s'.authorizations.get k = none := by
  cases hm with
  | fault hfault => exact absurd hfault ha.sound
  | dropped | decided | probeAdmitted | started | canceled | waiting | hit
  | authorizationAdmitted | passed | joined | loadAdmitted | called | probeSettled | granted
  | authorizationSettled | loadFailed | loadOutdated | loadOversize => exact .inl hc
  | attemptFailed fallback strategy e =>
      obtain ⟨stage, new, -, -, heq⟩ := failAttempt_eq_set s _ _ fallback strategy e
      rw [heq]
      exact .inl hc
  | cacheHit hx hs hj he hp hcache =>
      obtain ⟨new, -, heq⟩ := resolve_eq_set _ _ _ _
      rw [heq]
      refine .inl ?_
      change (s.cache.touch _ _).get o ≠ none
      rwa [OrderedMap.get_touch_of_get hcache]
  | loadResolved =>
      obtain ⟨new, -, heq⟩ := resolve_eq_set s _ _ _
      rw [heq]
      exact .inl hc
  | advanced o' =>
      refine .inl ?_
      change (s.advanceObjectEpoch cfg o').cache.get o ≠ none
      rwa [advanceObjectEpoch_cache]
  | invalidatedAll | retired => exact .inr fun _ _ => rfl
  | @evicted o' c hc' hb =>
      by_cases ho : o = o'
      · subst ho
        exact .inr fun k hk => forgotten hk
      · refine .inl ?_
        change (s.cache.delete o').get o ≠ none
        rwa [OrderedMap.get_delete, if_neg ho]
  | @observed i job outcome =>
      obtain ⟨trace, heq⟩ := observeSettlement_frame s i outcome
      rw [heq]
      exact .inl hc
  | loadSuperseded hj hs hload hr he hcache =>
      refine .inl ?_
      change (s.cache.touch _ _).get o ≠ none
      rwa [OrderedMap.get_touch_of_get hcache]
  | @stored j job key snapshot =>
      refine .inl ?_
      change (s.cache.set key.structural _).get o ≠ none
      rw [OrderedMap.get_set]
      split
      · rintro ⟨⟩
      · exact hc
  | @finished j job r =>
      obtain ⟨probes, authorizations, loads, inFlight, heq⟩ := finish_frame s j job r
      rw [heq]
      exact .inl hc

theorem result_set_ne {i j : Nat} {job : Job α} {status : Status α} (hij : i ≠ j)
    (hjobs : s'.jobs = s.jobs.set i { job with status := status }) :
    s'.result j = s.result j :=
  result_of_jobs (by rw [hjobs, List.getElem?_set_ne hij])

/-- A load which succeeds leaves its descriptor in the cache or takes the authorizations of
its object with it, unless its object has been invalidated. -/
theorem Move.load_succeeds (hm : Move cfg lax s s') (ha : Accounted cfg s) {j : Nat}
    {job : Job α} {key : AccessKey} (hj : s.jobs[j]? = some job) (hc : job.call = .load key)
    (hold : ¬ s.Succeeded j) (hnew : s'.Succeeded j) :
    s'.cache.get key.structural ≠ none ∨
      (∀ k, k.structural = key.structural → s'.authorizations.get k = none) ∨
      s.retired = true ∨ s.epochFor key.structural ≠ key.epoch := by
  obtain ⟨v, hv⟩ := hnew
  have same (hr : s'.result j = s.result j) : False := hold ⟨v, hr ▸ hv⟩
  -- Only a move which settles this very call matters.
  have other {i : Nat} {job' : Job α} {status : Status α} (hi : s.jobs[i]? = some job')
      (hjobs : s'.jobs = s.jobs.set i { job' with status := status }) : i = j ∧ job' = job := by
    by_cases hij : i = j
    · subst hij
      rw [hi] at hj
      cases hj
      exact ⟨rfl, rfl⟩
    · exact (same (result_set_ne hij hjobs)).elim
  cases hm with
  | fault hfault => exact absurd hfault ha.sound
  | dropped | decided | started | canceled | waiting | hit | passed | joined
  | invalidatedAll | retired | evicted => exact (same rfl).elim
  | probeAdmitted | authorizationAdmitted | loadAdmitted =>
      exact (hold ⟨v, result_admitted rfl hv⟩).elim
  | attemptFailed first strategy e =>
      obtain ⟨stage, new, -, -, heq⟩ := failAttempt_eq_set s _ _ first strategy e
      rw [heq] at same
      exact (same rfl).elim
  | cacheHit | loadResolved =>
      obtain ⟨new, -, heq⟩ := resolve_eq_set _ _ _ _
      rw [heq] at same
      exact (same rfl).elim
  | advanced o =>
      obtain ⟨epochs, n, authorizations, inFlight, heq⟩ := advanceObjectEpoch_frame cfg s o
      rw [heq] at same
      exact (same rfl).elim
  | called hi =>
      obtain hr | ⟨-, hst | hst⟩ := result_set hi rfl hv
      · exact (hold ⟨v, hr⟩).elim
      · cases hst
      · cases hst
  | @observed i job' outcome =>
      obtain ⟨trace, heq⟩ := observeSettlement_frame s i outcome
      rw [heq] at same
      exact (same rfl).elim
  | probeSettled r hi hs hcall | granted hi hs hcall | authorizationSettled r hi hs hcall =>
      obtain ⟨rfl, rfl⟩ := other hi rfl
      rw [hc] at hcall
      cases hcall
  | loadFailed e hi =>
      obtain hr | ⟨-, hst | hst⟩ := result_set hi rfl hv
      · exact (hold ⟨v, hr⟩).elim
      · cases hst
      · cases hst
  | loadOutdated hi hs hcall hf he =>
      obtain ⟨rfl, rfl⟩ := other hi rfl
      rw [hc] at hcall
      cases hcall
      exact .inr (.inr he)
  | loadSuperseded hi hs hcall hr he hcache =>
      obtain ⟨rfl, rfl⟩ := other hi rfl
      rw [hc] at hcall
      cases hcall
      refine .inl ?_
      change (s.cache.touch _ _).get key.structural ≠ none
      rw [OrderedMap.get_touch_of_get hcache, hcache]
      exact nofun
  | loadOversize hi hs hcall =>
      obtain ⟨rfl, rfl⟩ := other hi rfl
      rw [hc] at hcall
      cases hcall
      exact .inr (.inl fun k hk => forgotten hk)
  | stored hi hs hcall =>
      obtain ⟨rfl, rfl⟩ := other hi rfl
      rw [hc] at hcall
      cases hcall
      refine .inl ?_
      change (s.cache.set key.structural _).get key.structural ≠ none
      rw [OrderedMap.get_set_self]
      exact nofun
  | @finished i job' r hi hs =>
      obtain ⟨probes, authorizations, loads, inFlight, heq⟩ := finish_frame s i job' r
      rw [heq] at hv
      obtain hr | ⟨rfl, hst | hst⟩ := result_set hi rfl hv
      · exact (hold ⟨v, hr⟩).elim
      · cases hst
      · cases hst
        refine (hold ⟨v, ?_⟩).elim
        obtain ⟨call, behind, status⟩ := job'
        cases hs
        unfold MetadataRepositoryRuntime.result
        rw [hi]

/-- An authorization which is still pending has not settled. -/
theorem Move.unsettled (hm : Move cfg lax s s') (ha : Accounted cfg s) {k : AccessKey} {j : Nat}
    {job : Job α} (hk : s'.authorizations.get k = some (.pending j))
    (hold : s.authorizations.get k = some (.pending j)) (hj : s.jobs[j]? = some job)
    (hc : job.call = .authorize k) (hr : s.result j = none) : s'.result j = none := by
  by_contra hne
  obtain ⟨r, hr'⟩ := Option.ne_none_iff_exists'.mp hne
  have same (h : s'.result j = s.result j) : False := by
    rw [hr', hr] at h
    cases h
  have other {i : Nat} {job' : Job α} {status : Status α} (hi : s.jobs[i]? = some job')
      (hjobs : s'.jobs = s.jobs.set i { job' with status := status }) : i = j ∧ job' = job := by
    by_cases hij : i = j
    · subst hij
      rw [hi] at hj
      cases hj
      exact ⟨rfl, rfl⟩
    · exact (same (result_set_ne hij hjobs)).elim
  cases hm with
  | fault hfault => exact absurd hfault ha.sound
  | dropped | decided | started | canceled | waiting | hit | passed | joined
  | invalidatedAll | retired | evicted => exact same rfl
  | probeAdmitted | authorizationAdmitted | loadAdmitted =>
      have h : s.result j = some r := result_admitted rfl hr'
      rw [hr] at h
      cases h
  | attemptFailed first strategy e =>
      obtain ⟨stage, new, -, -, heq⟩ := failAttempt_eq_set s _ _ first strategy e
      rw [heq] at same
      exact same rfl
  | cacheHit | loadResolved =>
      obtain ⟨new, -, heq⟩ := resolve_eq_set _ _ _ _
      rw [heq] at same
      exact same rfl
  | advanced o =>
      obtain ⟨epochs, n, authorizations, inFlight, heq⟩ := advanceObjectEpoch_frame cfg s o
      rw [heq] at same
      exact same rfl
  | called hi =>
      obtain h | ⟨-, hst | hst⟩ := result_set hi rfl hr'
      · rw [hr] at h
        cases h
      · cases hst
      · cases hst
  | @observed i job' outcome =>
      obtain ⟨trace, heq⟩ := observeSettlement_frame s i outcome
      rw [heq] at same
      exact same rfl
  | probeSettled r hi hs hcall | loadFailed r hi hs hcall | loadOutdated hi hs hcall
  | loadSuperseded hi hs hcall | loadOversize hi hs hcall | stored hi hs hcall =>
      obtain ⟨rfl, rfl⟩ := other hi rfl
      rw [hc] at hcall
      cases hcall
  | @granted i job' key hi hs hcall =>
      obtain ⟨rfl, rfl⟩ := other hi rfl
      rw [hc] at hcall
      cases hcall
      change (s.authorizations.set k .settled).get k = some (.pending i) at hk
      rw [OrderedMap.get_set_self] at hk
      cases hk
  | authorizationSettled r hi hs hcall hf hown =>
      obtain ⟨rfl, rfl⟩ := other hi rfl
      rw [hc] at hcall
      cases hcall
      exact hown hold
  | @finished i job' r hi hs =>
      obtain ⟨probes, authorizations, loads, inFlight, heq⟩ := finish_frame s i job' r
      rw [heq] at hr'
      obtain h | ⟨rfl, hst | hst⟩ := result_set hi rfl hr'
      · rw [hr] at h
        cases h
      · cases hst
      · obtain ⟨call, behind, status⟩ := job'
        cases hs
        unfold MetadataRepositoryRuntime.result at hr
        rw [hi] at hr
        cases hr

/-- How a `get` leaves its stage. -/
inductive GetMove (lax : Prop) (s s' : MetadataRepositoryRuntime α) (x x' : Get) : Prop
  | failed (fallback : Bool) (strategy : MetadataLoadStrategy)
      (hk : lax ∨ s.MayLeave x fun k =>
        fallback = false ∧ k = x.lookup.accessKey strategy x.epoch)
      (hs : fallback = false → ∃ e, x'.stage = .failing strategy e)
  | gate (hk : s.MayLeave x fun _ => False)
  | cached (hw : s.Released x) (hc : s.cache.get x.lookup.structural ≠ none)
  | loading {fallback fallback' : Bool} {strategy : MetadataLoadStrategy}
      {epoch : OperationEpoch} {job : Option Nat} (j : Nat) (hw : s.Released x)
      (hs : x.stage = .authorizing fallback strategy epoch job)
      (hs' : x'.stage = .loading fallback' strategy epoch j)
      (he : epoch = s.epochFor x.lookup.structural)
      (hc : s.cache.get x.lookup.structural = none)
      (hj : ¬ s'.Succeeded j ∨
        s.Succeeded j ∧ s.inFlight.get (x.lookup.accessKey strategy epoch) = some j)
  | resolved {fallback : Bool} {strategy : MetadataLoadStrategy} {epoch : OperationEpoch}
      {j : Nat} (hs : x.stage = .loading fallback strategy epoch j) (hj : s.Succeeded j)

theorem not_succeeded_admitted {call : AdapterCall}
    (hjobs : s'.jobs = s.jobs ++ [Job.mk call s.settledJobs .queued]) :
    ¬ s'.Succeeded s.jobs.length := by
  rintro ⟨v, hv⟩
  unfold result at hv
  rw [hjobs, List.getElem?_concat_length] at hv
  cases hv

/-- A `get` stays in its stage, or leaves it in one of these ways. -/
theorem Move.get (hm : Move cfg lax s s') (ha : Accounted cfg s) {g : Nat} {x : Get}
    (hx : s.gets[g]? = some x) : ∃ x', s'.gets[g]? = some x' ∧ x.Continues x' ∧
      (x'.stage = x.stage ∨ GetMove lax s s' x x') := by
  have moved {g' : Nat} {y : Get} {stage : Stage} (hy : s.gets[g']? = some y)
      (hgets : s'.gets = s.gets.set g' { y with stage := stage })
      (hmove : GetMove lax s s' y { y with stage := stage }) : ∃ x', s'.gets[g]? = some x' ∧
        x.Continues x' ∧ (x'.stage = x.stage ∨ GetMove lax s s' x x') := by
    rw [hgets]
    by_cases hg : g' = g
    · subst hg
      rw [hx] at hy
      cases hy
      exact ⟨_, List.getElem?_set_self (lt_of_getElem? hx), ⟨rfl, rfl⟩, .inr hmove⟩
    · refine ⟨x, ?_, ⟨rfl, rfl⟩, .inl rfl⟩
      rwa [List.getElem?_set_ne hg]
  have stayed (hgets : s'.gets = s.gets) : ∃ x', s'.gets[g]? = some x' ∧ x.Continues x' ∧
      (x'.stage = x.stage ∨ GetMove lax s s' x x') :=
    ⟨x, hgets ▸ hx, ⟨rfl, rfl⟩, .inl rfl⟩
  cases hm with
  | fault hfault => exact absurd hfault ha.sound
  | dropped | decided | probeAdmitted | passed | invalidatedAll | retired | evicted | called
  | probeSettled | granted | authorizationSettled | loadFailed | loadOutdated | loadSuperseded
  | loadOversize | stored => exact stayed rfl
  | started l selection hr =>
      refine ⟨x, ?_, ⟨rfl, rfl⟩, .inl rfl⟩
      change (s.gets ++ [_])[g]? = some x
      rwa [List.getElem?_append_left (lt_of_getElem? hx)]
  | @canceled g' y hy =>
      by_cases hg : g' = g
      · subst hg
        rw [hx] at hy
        cases hy
        exact ⟨{ x with canceled := true }, List.getElem?_set_self (lt_of_getElem? hx), ⟨rfl, rfl⟩,
          .inl rfl⟩
      · refine ⟨x, ?_, ⟨rfl, rfl⟩, .inl rfl⟩
        change (s.gets.set g' { y with canceled := true })[g]? = some x
        rwa [List.getElem?_set_ne hg]
  | attemptFailed fallback strategy e hy hk =>
      obtain ⟨stage, new, hstage, -, heq⟩ := failAttempt_eq_set s _ _ fallback strategy e
      rw [heq] at moved ⊢
      refine moved hy rfl (.failed fallback strategy hk fun hfirst => ?_)
      obtain ⟨hsecond, -⟩ | ⟨-, rfl⟩ := hstage
      · rw [hsecond] at hfirst
        cases hfirst
      · exact ⟨e, rfl⟩
  | waiting fallback hy hr hk | hit fallback hy hr hk => exact moved hy rfl (.gate hk)
  | authorizationAdmitted fallback a hy hr hk => exact moved hy rfl (.gate hk)
  | cacheHit hy hs hj he hp hc =>
      obtain ⟨new, -, heq⟩ := resolve_eq_set _ _ _ _
      rw [heq] at moved ⊢
      refine moved hy rfl (.cached (.of_succeeded hs hj) ?_)
      rw [hc]
      exact nofun
  | @joined g' y fallback strategy epoch job j hy hs hj he hr hp hc hf =>
      refine moved hy rfl (.loading j (.of_succeeded hs hj) hs rfl he.symm hc ?_)
      by_cases hsucc : s.Succeeded j
      · exact .inr ⟨hsucc, hf⟩
      · exact .inl hsucc
  | loadAdmitted hy hs hj he hr hp hc =>
      exact moved hy rfl (.loading _ (.of_succeeded hs hj) hs rfl he.symm hc
        (.inl (not_succeeded_admitted rfl)))
  | loadResolved hy hs hj =>
      obtain ⟨new, -, heq⟩ := resolve_eq_set s _ _ _
      rw [heq] at moved ⊢
      exact moved hy rfl (.resolved hs ⟨_, hj⟩)
  | advanced o =>
      obtain ⟨epochs, n, authorizations, inFlight, heq⟩ := advanceObjectEpoch_frame cfg s o
      rw [heq] at stayed ⊢
      exact stayed rfl
  | @observed i job outcome =>
      obtain ⟨trace, heq⟩ := observeSettlement_frame s i outcome
      rw [heq] at stayed ⊢
      exact stayed rfl
  | @finished i job r =>
      obtain ⟨probes, authorizations, loads, inFlight, heq⟩ := finish_frame s i job r
      rw [heq] at stayed ⊢
      exact stayed rfl

/-- In the guarded runs a `get` does not leave an authorization which is in progress. -/
theorem GetMove.released {x x' : Get} (h : GetMove False s s' x x') : s.Released x := by
  cases h with
  | failed _ _ hk => exact (hk.resolve_left id).released
  | gate hk => exact hk.released
  | cached hw | loading _ hw => exact hw
  | resolved hs =>
      intro fallback strategy epoch j hstage
      rw [hs] at hstage
      cases hstage

/-- A load which has succeeded, with its last handler still queued. -/
def Succeeding (s : MetadataRepositoryRuntime α) (j : Nat) (key : AccessKey) : Prop :=
  ∃ (job : Job α) (v : Answer α), s.jobs[j]? = some job ∧ job.call = .load key ∧
    job.status = .settled (.ok v)

/-- What the authorizations of the guarded runs are tended by. -/
structure Tended (s : MetadataRepositoryRuntime α) : Prop where
  empty : s.retired = true → ∀ k, s.authorizations.get k = none
  current : ∀ k, s.authorizations.get k = some .settled →
    s.epochFor k.structural = k.epoch
  answered : ∀ k, s.Orphaned k → ∃ (g : Nat) (x : Get), s.gets[g]? = some x ∧ s.Answers x k
  pending : ∀ k j, s.authorizations.get k = some (.pending j) →
    s.result j = none ∧ Requests s.jobs k j ∧
      ∃ (g : Nat) (x : Get) (fallback : Bool) (strategy : MetadataLoadStrategy)
        (epoch : OperationEpoch), s.gets[g]? = some x ∧
          x.stage = .authorizing fallback strategy epoch (some j) ∧
          k = x.lookup.accessKey strategy epoch
  succeeding : ∀ j key, Succeeding s j key → key.epoch = s.epochFor key.structural →
    s.cache.get key.structural = none → ∀ k, k.structural = key.structural →
      s.authorizations.get k ≠ some .settled ∧
        ∀ i, s.authorizations.get k = some (.pending i) →
          ∃ job, s.jobs[i]? = some job ∧ j ∈ job.behind

theorem tended_initial : Tended (initial : MetadataRepositoryRuntime α) := by
  constructor <;> simp [initial, Orphaned, Succeeding]

theorem Answers.structural {x : Get} {k : AccessKey} (h : s.Answers x k) :
    k.structural = x.lookup.structural := by
  unfold Answers at h
  split at h
  · rw [h.1]
    rfl
  · rw [h.1]
    rfl
  · rw [h]
    rfl
  · cases h
  · cases h

/-- A load which is tracked and has succeeded waits for its last handler. -/
theorem Tracks.succeeding {key : AccessKey} {j : Nat} (h : Tracks s.jobs key j)
    (hs : s.Succeeded j) : Succeeding s j key := by
  obtain ⟨⟨call, behind, status⟩, hj, hc, hp⟩ := h
  obtain ⟨v, hv⟩ := hs
  unfold result at hv
  rw [hj] at hv
  cases status with
  | queued | called => cases hv
  | settled r =>
      cases hv
      exact ⟨_, v, hj, hc, rfl⟩
  | finished r => cases hp

theorem Succeeding.succeeded {j : Nat} {key : AccessKey} (h : Succeeding s j key) :
    s.Succeeded j ∧ s.finished j = none := by
  obtain ⟨⟨call, behind, status⟩, v, hj, -, hs⟩ := h
  cases hs
  unfold Succeeded result finished
  rw [hj]
  exact ⟨⟨v, rfl⟩, rfl⟩

theorem Succeeding.settled {j : Nat} {key : AccessKey} (h : Succeeding s j key) :
    j ∈ s.settledJobs := by
  obtain ⟨⟨call, behind, status⟩, v, hj, -, hs⟩ := h
  cases hs
  unfold settledJobs
  rw [List.mem_filter, List.mem_range]
  refine ⟨lt_of_getElem? hj, ?_⟩
  rw [hj]

/-- A `get` which answers for an authorization that stays orphaned goes on to do so. -/
theorem Tended.answers (h : Tended s) (hf : FreshBook s) (hb : Counted cfg s)
    (ha : Accounted cfg s) (hm : Move cfg False s s') {g : Nat} {x : Get} {k : AccessKey}
    (hx : s.gets[g]? = some x) (hk : s.Answers x k) (hold : s.Orphaned k)
    (hnew : s'.Orphaned k) : ∃ x', s'.gets[g]? = some x' ∧ s'.Answers x' k := by
  have open' : s.retired ≠ true := by
    intro hr
    have := h.empty hr k
    rw [hold.1] at this
    cases this
  obtain ⟨x', hx', ⟨hlookup, hepoch⟩, hstage | hmove⟩ := hm.get ha hx
  · refine ⟨x', hx', ?_⟩
    unfold Answers at hk ⊢
    rw [hstage, hlookup, hepoch]
    cases hs : x.stage with
    | selecting selection =>
        rw [hs] at hk
        exact hk
    | authorizing fallback strategy epoch job =>
        rw [hs] at hk
        exact ⟨hk.1, fun j hj => hm.succeeded ha (hk.2 j hj)⟩
    | loading fallback strategy epoch j =>
        rw [hs] at hk
        obtain ⟨rfl, hnot⟩ := hk
        refine ⟨rfl, fun hsucc => ?_⟩
        -- The load has just succeeded, which does not leave an orphan of its object.
        obtain ⟨job, key, hj, hc, rfl, -⟩ := hf.loading g x fallback strategy epoch j hx hs
        obtain hcached | hforgotten | hretired | hpast := hm.load_succeeds ha hj hc hnot hsucc
        · exact hcached hnew.2
        · have := hforgotten _ rfl
          rw [hnew.1] at this
          cases this
        · exact open' hretired
        · exact hpast (h.current _ hold.1)
    | failing strategy e =>
        rw [hs] at hk
        exact hk
    | done =>
        rw [hs] at hk
        exact hk
  · cases hmove with
    | failed fallback strategy hleave hs =>
        obtain ⟨hfirst, rfl⟩ :=
          ((hleave.resolve_left id).answered.resolve_left open') k hk hold
        obtain ⟨e, he⟩ := hs hfirst
        refine ⟨x', hx', ?_⟩
        unfold Answers
        rw [he, hlookup, hepoch]
    | gate hleave => exact ((hleave.answered.resolve_left open') k hk hold).elim
    | cached hw hc => exact absurd (hk.structural ▸ hold.2) hc
    | @loading fallback fallback' strategy epoch job j hw hs hs' he hc hj =>
        refine ⟨x', hx', ?_⟩
        unfold Answers at hk ⊢
        rw [hs] at hk
        rw [hs', hlookup]
        refine ⟨hk.1, ?_⟩
        obtain hnot | ⟨hsucc, hfl⟩ := hj
        · exact hnot
        · have htracks := hb.tracked _ j hfl
          have := h.succeeding j _ (htracks.succeeding hsucc) he hc k (by rw [hk.1])
          exact absurd hold.1 this.1
    | resolved hs hj =>
        unfold Answers at hk
        rw [hs] at hk
        exact absurd hj hk.2

/-- A repository which is retired, or about to be, has no authorizations left. -/
theorem Tended.empty_move (h : Tended s) (ha : Accounted cfg s) (hm : Move cfg lax s s')
    (hr : s.retired = true) (k : AccessKey) : s'.authorizations.get k = none := by
  cases hk : s'.authorizations.get k with
  | none => rfl
  | some e =>
      obtain ⟨hold, -⟩ | ⟨-, hasks⟩ | ⟨j, -, hgrants⟩ := hm.authorization ha hk
      · rw [h.empty hr] at hold
        cases hold
      · cases hr.symm.trans hasks.active
      · cases hr.symm.trans hgrants.active

/-- A `get` which waits for an authorization in progress goes on to wait for it. -/
theorem Move.waits (hm : Move cfg False s s') (ha : Accounted cfg s) {g : Nat} {x : Get}
    {fallback : Bool} {strategy : MetadataLoadStrategy} {epoch : OperationEpoch} {j : Nat}
    (hx : s.gets[g]? = some x) (hs : x.stage = .authorizing fallback strategy epoch (some j))
    (hr : s.result j = none) : ∃ x', s'.gets[g]? = some x' ∧ x.Continues x' ∧
      x'.stage = .authorizing fallback strategy epoch (some j) := by
  obtain ⟨x', hx', hcont, hstage | hmove⟩ := hm.get ha hx
  · exact ⟨x', hx', hcont, hstage.trans hs⟩
  · exact absurd hr (hmove.released fallback strategy epoch j hs)

/-- A load which succeeds with its last handler queued did so before, or has just settled. -/
theorem Move.succeeding (hm : Move cfg lax s s') (ha : Accounted cfg s) {j : Nat}
    {key : AccessKey} (h : Succeeding s' j key) : Succeeding s j key ∨
      ∃ job, s.jobs[j]? = some job ∧ job.call = .load key ∧ ¬ s.Succeeded j := by
  obtain ⟨job', v, hj', hc, hs⟩ := h
  obtain hj | ⟨-, hqueued⟩ | ⟨job, hj, ⟨hcall, -⟩, hmove⟩ := hm.job ha hj'
  · exact .inl ⟨job', v, hj, hc, hs⟩
  · rw [hqueued] at hs
    cases hs
  · refine .inr ⟨job, hj, hcall.symm.trans hc, ?_⟩
    rintro ⟨w, hw⟩
    obtain ⟨call, behind, status⟩ := job
    unfold MetadataRepositoryRuntime.result at hw
    rw [hj] at hw
    cases hmove with
    | called h =>
        cases h
        cases hw
    | settled r h =>
        cases h
        cases hw
    | finished r h h' =>
        rw [h'] at hs
        cases hs

theorem Tended.move (h : Tended s) (hf : FreshBook s) (hd : Dated s) (hb : Counted cfg s)
    (ha : Accounted cfg s) (hm : Move cfg False s s') : Tended s' := by
  obtain ⟨new, hp, ho⟩ := hm.progress ha
  constructor
  · intro hr k
    obtain hsame | ⟨-, hempty⟩ := hp.retired
    · exact h.empty_move ha hm (hsame ▸ hr) k
    · rw [hempty]
      rfl
  · intro k hk
    obtain ⟨hk, hsame⟩ | ⟨he, -⟩ | ⟨j, -, hgrants⟩ := hm.authorization ha hk
    · rw [hsame]
      exact h.current k hk
    · cases he
    · exact hgrants.current
  · intro k hk
    obtain ⟨hold, -⟩ | ⟨he, -⟩ | ⟨j, -, hgrants⟩ := hm.authorization ha hk.1
    · by_cases hc : s.cache.get k.structural = none
      · obtain ⟨g, x, hx, hans⟩ := h.answered k ⟨hold, hc⟩
        obtain ⟨x', hx', hans'⟩ := h.answers hf hb ha hm hx hans ⟨hold, hc⟩ hk
        exact ⟨g, x', hx', hans'⟩
      · obtain hcached | hforgotten := hm.cache_kept ha hc
        · exact absurd hk.2 hcached
        · have := hforgotten k rfl
          rw [hk.1] at this
          cases this
    · cases he
    · -- The `get` which waits for the call answers for it once it has been granted.
      obtain ⟨hr, -, g, x, fallback, strategy, epoch, hx, hs, rfl⟩ := h.pending k j hgrants.entry
      obtain ⟨x', hx', ⟨hlookup, -⟩, hs'⟩ := hm.waits ha hx hs hr
      refine ⟨g, x', hx', ?_⟩
      unfold Answers
      rw [hs', hlookup]
      refine ⟨rfl, ?_⟩
      rintro i ⟨⟩
      exact hgrants.succeeded
  · intro k j hk
    obtain ⟨hold, -⟩ | ⟨he, hasks⟩ | ⟨i, he, -⟩ := hm.authorization ha hk
    · obtain ⟨hr, hreq, g, x, fallback, strategy, epoch, hx, hs, hkey⟩ := h.pending k j hold
      obtain ⟨job, hj, hc⟩ := hreq
      obtain ⟨x', hx', ⟨hlookup, -⟩, hs'⟩ := hm.waits ha hx hs hr
      refine ⟨hm.unsettled ha hk hold hj hc hr, hp.requests ⟨job, hj, hc⟩, g, x', fallback,
        strategy, epoch, hx', hs', ?_⟩
      rw [hlookup]
      exact hkey
    · cases he
      refine ⟨?_, hasks.requests, hasks.awaits⟩
      obtain ⟨job', hj', -⟩ := hasks.requests
      cases hr : s'.result s.jobs.length with
      | none => rfl
      | some r =>
          obtain ⟨job, hj, -⟩ := hp.settled hj' hr
          exact absurd (lt_of_getElem? hj) (Nat.lt_irrefl _)
    · cases he
  · intro j key hsucc he hcache k hk
    have nothing (hnone : ∀ k, k.structural = key.structural → s'.authorizations.get k = none) :
        s'.authorizations.get k ≠ some .settled ∧
          ∀ i, s'.authorizations.get k = some (.pending i) →
            ∃ job, s'.jobs[i]? = some job ∧ j ∈ job.behind := by
      rw [hnone k hk]
      exact ⟨nofun, nofun⟩
    have past {job : Job α} (hj : s.jobs[j]? = some job) (hc : job.call = .load key) :
        key.epoch = s.epochFor key.structural :=
      ((hd.keys j job key hj (by rw [hc]; rfl)).1).antisymm (he ▸ hp.epochs _)
    obtain hold | ⟨job, hj, hc, hnot⟩ := hm.succeeding ha hsucc
    · by_cases hc : s.cache.get key.structural = none
      · obtain ⟨job, v, hj, hcall, -⟩ := id hold
        obtain ⟨hsettled, hpending⟩ := h.succeeding j key hold (past hj hcall) hc k hk
        refine ⟨fun hk' => ?_, fun i hk' => ?_⟩
        · obtain ⟨hk', -⟩ | ⟨he', -⟩ | ⟨i, -, hgrants⟩ := hm.authorization ha hk'
          · exact hsettled hk'
          · cases he'
          · -- The authorization settles behind the load, which has not come to its end.
            obtain ⟨job', hj', hmem⟩ := hpending i hgrants.entry
            obtain ⟨r, hr⟩ := hgrants.behind job' hj' j hmem
            rw [hold.succeeded.2] at hr
            cases hr
        · obtain ⟨hk', -⟩ | ⟨he', hasks⟩ | ⟨i', he', -⟩ := hm.authorization ha hk'
          · obtain ⟨job', hj', hmem⟩ := hpending i hk'
            obtain ⟨job'', hj'', -, hbehind⟩ := hp.kept i job' hj'
            exact ⟨job'', hj'', hbehind ▸ hmem⟩
          · cases he'
            obtain ⟨job', hj', -⟩ := hasks.requests
            obtain ⟨job'', hj'', -⟩ | ⟨-, hnew, -⟩ := hp.jobs _ job' hj'
            · exact absurd (lt_of_getElem? hj'') (Nat.lt_irrefl _)
            · refine ⟨job', hj', ?_⟩
              rw [hnew]
              exact hold.settled
          · cases he'
      · obtain hcached | hforgotten := hm.cache_kept ha hc
        · exact absurd hcache hcached
        · exact nothing hforgotten
    · obtain hcached | hforgotten | hretired | hpast :=
        hm.load_succeeds ha hj hc hnot hsucc.succeeded.1
      · exact absurd hcache hcached
      · exact nothing hforgotten
      · exact nothing fun k _ => h.empty_move ha hm hretired k
      · exact absurd (past hj hc).symm hpast

/-- The runs all of whose steps are regular. -/
def Guarded (cfg : Settings) : MetadataRepositoryRuntime α → Prop :=
  (machine α cfg).ReachableUnder (Regular cfg)

theorem guarded_tended (hs : Guarded cfg s) : Tended s := by
  refine (Machine.ReachableUnder.invariant (M := machine α cfg) (P := Tended) tended_initial
    (fun s e s' hr h hg he => ?_) hs)
  have ha := reachable_accounted hr.reachable
  have books := Moves.invariant
    (P := fun s => (Counted cfg s ∧ Dated s ∧ FreshBook s) ∧ Tended s)
    (fun s s' ha ⟨⟨hb, hd, hf⟩, h⟩ (hm : Move cfg False s s') =>
      ⟨⟨hb.move ha hm, hd.move ha hm, hf.move hd hb ha hm⟩, h.move hf hd hb ha hm⟩)
    (step_moves he (.inr hg)) ha
    ⟨⟨(bounds_reachable hr.reachable).2.2.1, reachable_dated hr.reachable,
      reachable_freshBook hr.reachable⟩, h⟩
  exact books.2

/-- No `get` is in progress. -/
def Quiescent (s : MetadataRepositoryRuntime α) : Prop := ∀ x ∈ s.gets, x.stage.isDone = true

/-- When no `get` is in progress, a settled authorization is of an object whose descriptor
is cached, and an object which is not cached is authorized by the adapter again, or
refused for capacity. -/
def NoOrphans (cfg : Settings) (s : MetadataRepositoryRuntime α) : Prop :=
  s.Quiescent → (∀ k, ¬ s.Orphaned k) ∧
    ∀ k, s.cache.get k.structural = none →
      (s.authorize cfg k).2 = .ok (some s.jobs.length) ∨ ∃ e, (s.authorize cfg k).2 = .error e

theorem eq_done_of_isDone {stage : Stage} (h : stage.isDone = true) : stage = .done := by
  cases stage with
  | done => rfl
  | selecting | authorizing | loading | failing => cases h

/-- An authorization which is not in the table is asked for, or refused for capacity. -/
theorem authorize_of_none {k : AccessKey} (h : s.authorizations.get k = none) :
    (s.authorize cfg k).2 = .ok (some s.jobs.length) ∨ ∃ e, (s.authorize cfg k).2 = .error e := by
  unfold MetadataRepositoryRuntime.authorize
  rw [h]
  dsimp only
  split
  · exact .inr ⟨_, rfl⟩
  · split
    · split
      · exact .inr ⟨_, rfl⟩
      · exact .inl rfl
    · exact .inl rfl

/-- In every run whose steps are regular no authorization is orphaned. -/
theorem noOrphans_of_regular (cfg : Settings)
    (hs : (machine α cfg).ReachableUnder (Regular cfg) s) : NoOrphans cfg s := by
  have h := guarded_tended hs
  intro hquiet
  have done {g : Nat} {x : Get} (hx : s.gets[g]? = some x) : x.stage = .done :=
    eq_done_of_isDone (hquiet x (List.mem_of_getElem? hx))
  have none_orphaned (k : AccessKey) : ¬ s.Orphaned k := by
    intro hk
    obtain ⟨g, x, hx, hans⟩ := h.answered k hk
    unfold Answers at hans
    rw [done hx] at hans
    exact hans
  refine ⟨none_orphaned, fun k hc => authorize_of_none ?_⟩
  cases hk : s.authorizations.get k with
  | none => rfl
  | some e =>
      cases e with
      | settled => exact absurd ⟨hk, hc⟩ (none_orphaned k)
      | pending j =>
          obtain ⟨-, -, g, x, fallback, strategy, epoch, hx, hs, -⟩ := h.pending k j hk
          rw [done hx] at hs
          cases hs

instance (cfg : Settings) (s : MetadataRepositoryRuntime α) (x : Get)
    (strategy : MetadataLoadStrategy) (epoch : OperationEpoch) :
    Decidable (s.RefusesLoad cfg x strategy epoch) :=
  inferInstanceAs (Decidable (_ ∧ _ ∧ _ ∧ _ ∧ _))

/-- A `get` whose continuation is a regular step. -/
def RegularGet (cfg : Settings) (s : MetadataRepositoryRuntime α) (x : Get) : Prop :=
  match x.stage with
  | .authorizing fallback strategy epoch _ => s.RefusesLoad cfg x strategy epoch →
      fallback = false ∧ epoch = x.epoch ∨
        s.authorizations.get (x.lookup.accessKey strategy epoch) ≠ some .settled
  | _ => True

instance (cfg : Settings) (s : MetadataRepositoryRuntime α) (x : Get) :
    Decidable (s.RegularGet cfg x) := by
  unfold RegularGet
  cases x.stage <;> infer_instance

theorem regular_resume {g : Nat} : s.Regular cfg (.resume g : Event α) ↔
    ∀ x ∈ s.gets[g]?, s.RegularGet cfg x := by
  constructor
  · intro h x hx
    unfold RegularGet
    split
    · rename_i fallback strategy epoch job hs
      exact h x fallback strategy epoch job hx hs
    · trivial
  · intro h x fallback strategy epoch job hx hs
    have := h x hx
    unfold RegularGet at this
    rwa [hs] at this

instance (s : MetadataRepositoryRuntime α) (k : AccessKey) : Decidable (s.Orphaned k) :=
  inferInstanceAs (Decidable (_ ∧ _))

instance (cfg : Settings) (s : MetadataRepositoryRuntime α) (e : Event α) :
    Decidable (s.Regular cfg e) :=
  match e with
  | .resume _ => decidable_of_iff' _ regular_resume
  | .get _ | .cancel _ | .invalidate _ | .invalidateAll | .retire | .call _ | .settle _ _
  | .settleLoad _ _ | .finish _ => .isTrue trivial

theorem noOrphans_loadedOnce :
    ∃ s, (machine Nat oneDescriptor).runUnder (Regular oneDescriptor) .initial
        (loadedOnce (functionLookup "RFC_A" "alice" .classic)) = some s ∧
      (machine Nat oneDescriptor).ReachableUnder (Regular oneDescriptor) s ∧
      NoOrphans oneDescriptor s ∧ (s.authorizations.size, s.cache.size) = (1, 1) := by
  obtain ⟨s, hs, hsize⟩ := (Option.any_eq_true
    (fun s : MetadataRepositoryRuntime Nat => decide ((s.authorizations.size, s.cache.size) = (1, 1)))
    _).mp (show ((machine Nat oneDescriptor).runUnder (Regular oneDescriptor) .initial
      (loadedOnce (functionLookup "RFC_A" "alice" .classic))).any _ = true by decide +kernel)
  have hr : (machine Nat oneDescriptor).ReachableUnder (Regular oneDescriptor) s :=
    Machine.reachableUnder_of_runUnder hs
  exact ⟨s, hs, hr, noOrphans_of_regular oneDescriptor hr, of_decide_eq_true hsize⟩

/-- The fallback of an automatic `get` is authorized while another load is in flight. Its
load is refused for capacity, and its authorization stays. -/
def refusedFallback : List (Event Nat) :=
  [.get (functionLookup "RFC_A" "alice" .classic), .resume 0, .call 0, .settle 0 (.ok ()),
    .finish 0, .resume 0,
    .get (functionLookup "RFC_B" "alice" .auto), .call 2, .settle 2 (.ok ()), .finish 2,
    .resume 1, .call 3, .settle 3 (.error (.access .unavailable "optimized metadata")),
    .finish 3, .resume 1, .resume 1, .call 4, .settle 4 (.ok ()), .finish 4, .resume 1,
    .call 1, .settleLoad 1 (.ok (smallSnapshot 7)), .finish 1, .resume 0]

theorem orphaned_refusedFallback :
    ∃ s, (machine Nat oneDescriptor).run .initial refusedFallback = some s ∧
      (machine Nat oneDescriptor).Reachable s ∧ s.Quiescent ∧
      s.Orphaned ((functionLookup "RFC_B" "alice" .auto).accessKey .classic ⟨0, 0⟩) ∧
      ¬ NoOrphans oneDescriptor s := by
  obtain ⟨s, hs, hr, hp⟩ := Machine.reachable_of_any (machine Nat oneDescriptor) refusedFallback
    (fun s => s.gets.all (fun x => x.stage.isDone) &&
      decide (s.Orphaned ((functionLookup "RFC_B" "alice" .auto).accessKey .classic ⟨0, 0⟩)))
    (by decide +kernel)
  rw [Bool.and_eq_true, List.all_eq_true] at hp
  have horphaned := of_decide_eq_true hp.2
  exact ⟨s, hs, hr, hp.1, horphaned, fun h => (h hp.1).1 _ horphaned⟩

end MetadataRepositoryRuntime

end OpenRfc.Metadata
