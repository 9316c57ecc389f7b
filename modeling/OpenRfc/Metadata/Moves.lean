import OpenRfc.Metadata.Runtime

/-!
What a step of the metadata repository can do, as a sequence of moves. A move changes one
table or the stage of one `get`, under the conditions which the source has checked by
then; the invariants of the next modules are proved by cases on it.
-/

namespace OpenRfc.Metadata

namespace MetadataRepositoryRuntime
variable {α : Type}

/-- How the promise chain of an adapter call has settled, finished or not. -/
def result (s : MetadataRepositoryRuntime α) (j : Nat) : Option (Except Failure (Answer α)) :=
  match s.jobs[j]? with
  | some ⟨_, _, .settled r⟩ | some ⟨_, _, .finished r⟩ => some r
  | _ => none

def Succeeded (s : MetadataRepositoryRuntime α) (j : Nat) : Prop :=
  ∃ v, s.result j = some (.ok v)

/-- The authorization which a `get` answers for: it is past it, and will withdraw it or
see the descriptor cached. -/
def Answers (s : MetadataRepositoryRuntime α) (x : Get) (k : AccessKey) : Prop :=
  match x.stage with
  | .authorizing _ strategy admissionEpoch job =>
      k = x.lookup.accessKey strategy admissionEpoch ∧ ∀ j, job = some j → s.Succeeded j
  | .loading _ strategy admissionEpoch job =>
      k = x.lookup.accessKey strategy admissionEpoch ∧ ¬ s.Succeeded job
  | .failing strategy _ => k = x.lookup.accessKey strategy x.epoch
  | .selecting _ | .done => False

/-- A settled authorization for an object whose descriptor is not cached. -/
def Orphaned (s : MetadataRepositoryRuntime α) (k : AccessKey) : Prop :=
  s.authorizations.get k = some .settled ∧ s.cache.get k.structural = none

/-- A `get` which waits for an authorization waits for one which has settled. -/
def Released (s : MetadataRepositoryRuntime α) (x : Get) : Prop :=
  ∀ fallback strategy epoch j, x.stage = .authorizing fallback strategy epoch (some j) →
    s.result j ≠ none

/-- A `get` may leave its stage: nothing which it answers for is left behind, other than
what the catch of its first attempt will withdraw. -/
structure MayLeave (s : MetadataRepositoryRuntime α) (x : Get) (withdrawn : AccessKey → Prop) :
    Prop where
  released : s.Released x
  answered : s.retired = true ∨ ∀ k, s.Answers x k → s.Orphaned k → withdrawn k

/-- The load of a `get` which has passed the authorization gate is refused for capacity. -/
def RefusesLoad (cfg : Settings) (s : MetadataRepositoryRuntime α) (x : Get)
    (strategy : MetadataLoadStrategy) (admissionEpoch : OperationEpoch) : Prop :=
  s.retired = false ∧ s.epochFor x.lookup.structural = admissionEpoch ∧
    s.cache.get x.lookup.structural = none ∧
    s.inFlight.get (x.lookup.accessKey strategy admissionEpoch) = none ∧
    cfg.maxInFlightLoads ≤ s.activeLoads

/-- The steps of the guarded runs: a load is refused for capacity only in the first attempt
of a `get`, in the epoch in which it started, or without an authorization to withdraw. -/
def Regular (cfg : Settings) (s : MetadataRepositoryRuntime α) : Event α → Prop
  | .resume g =>
      ∀ x fallback strategy admissionEpoch job, s.gets[g]? = some x →
        x.stage = .authorizing fallback strategy admissionEpoch job →
        s.RefusesLoad cfg x strategy admissionEpoch →
        fallback = false ∧ admissionEpoch = x.epoch ∨
          s.authorizations.get (x.lookup.accessKey strategy admissionEpoch) ≠ some .settled
  | _ => True

/-- `lax` admits the steps which the guarded runs leave out. -/
inductive Move (cfg : Settings) (lax : Prop) (s : MetadataRepositoryRuntime α) :
    MetadataRepositoryRuntime α → Prop
  /-- The accounting of the cache is wrong. -/
  | fault {s' : MetadataRepositoryRuntime α}
      (h : (∃ o c, s.cache.get o = some c ∧ s.retainedBytes < c.retainedBytes) ∨
        s.cache.size = 0 ∧ s.retainedBytes ≠ 0) : Move cfg lax s s'
  -- The decision tables.
  | dropped (a : OrderedMap AccessKey AuthorizationEntry)
      (ha : ∀ k e, a.get k = some e → s.authorizations.get k = some e)
      (hn : a.size ≤ s.authorizations.size) :
      Move cfg lax s { s with authorizations := a }
  | decided (p : OrderedMap ProbeKey ProbeEntry)
      (hn : p.size ≤ s.probes.size ∨ p.size ≤ cfg.maxProbeEntries) :
      Move cfg lax s { s with probes := p }
  | probeAdmitted (key : ProbeKey) (p : OrderedMap ProbeKey ProbeEntry)
      (ha : s.activeProbes < cfg.maxProbeEntries)
      (hn : p.size ≤ s.probes.size ∨ p.size ≤ cfg.maxProbeEntries) :
      Move cfg lax s ({ s with
        activeProbes := s.activeProbes + 1
        probes := p }.admitJob (.probeOptimized key))
  -- The stages of a `get`.
  | started (l : MetadataLookup) (selection : Selection) (hr : s.retired = false) :
      Move cfg lax s { s with
        gets := s.gets ++ [Get.mk l (s.epochFor l.structural) false (.selecting selection)]
        trace := .started s.gets.length l :: s.trace }
  | canceled {g : Nat} {x : Get} (hx : s.gets[g]? = some x) :
      Move cfg lax s ({ s with gets := s.gets.set g { x with canceled := true } }.observe
        (.canceled g))
  | attemptFailed {g : Nat} {x : Get} (fallback : Bool) (strategy : MetadataLoadStrategy)
      (e : Failure) (hx : s.gets[g]? = some x)
      (hk : lax ∨ s.MayLeave x fun k =>
        fallback = false ∧ k = x.lookup.accessKey strategy x.epoch) :
      Move cfg lax s (s.failAttempt g x fallback strategy e)
  | waiting {g : Nat} {x : Get} {strategy : MetadataLoadStrategy} {epoch : OperationEpoch}
      {j : Nat} (fallback : Bool) (hx : s.gets[g]? = some x) (hr : s.retired = false)
      (hk : s.MayLeave x fun _ => False)
      (he : epoch = x.epoch ∨ epoch = s.epochFor x.lookup.structural)
      (ha : s.authorizations.get (x.lookup.accessKey strategy epoch) = some (.pending j)) :
      Move cfg lax s (s.setStage g x (.authorizing fallback strategy epoch (some j)))
  | hit {g : Nat} {x : Get} {strategy : MetadataLoadStrategy} {epoch : OperationEpoch}
      (fallback : Bool) (hx : s.gets[g]? = some x) (hr : s.retired = false)
      (hk : s.MayLeave x fun _ => False)
      (he : epoch = x.epoch ∨ epoch = s.epochFor x.lookup.structural)
      (ha : s.authorizations.get (x.lookup.accessKey strategy epoch) = some .settled) :
      Move cfg lax s ({ s with
        authorizations := s.authorizations.touch (x.lookup.accessKey strategy epoch) .settled
          }.setStage g x (.authorizing fallback strategy epoch none))
  | authorizationAdmitted {g : Nat} {x : Get} {strategy : MetadataLoadStrategy}
      {epoch : OperationEpoch} (fallback : Bool)
      (a : OrderedMap AccessKey AuthorizationEntry) (hx : s.gets[g]? = some x)
      (hr : s.retired = false) (hk : s.MayLeave x fun _ => False)
      (he : epoch = x.epoch ∨ epoch = s.epochFor x.lookup.structural)
      (ha : ∀ k e, a.get k = some e → s.authorizations.get k = some e)
      (hnone : a.get (x.lookup.accessKey strategy epoch) = none)
      (hactive : s.activeAuthorizations < cfg.maxAuthorizationEntries)
      (hn : a.size < s.authorizations.size ∨ a.size < cfg.maxAuthorizationEntries) :
      Move cfg lax s (({ s with
        activeAuthorizations := s.activeAuthorizations + 1
        authorizations := a.set (x.lookup.accessKey strategy epoch)
          (.pending s.jobs.length) }.admitJob
            (.authorize (x.lookup.accessKey strategy epoch))).setStage g x
              (.authorizing fallback strategy epoch (some s.jobs.length)))
  | passed {g : Nat} {x : Get} {fallback : Bool} {strategy : MetadataLoadStrategy}
      {epoch : OperationEpoch} {job : Option Nat} (hx : s.gets[g]? = some x)
      (hs : x.stage = .authorizing fallback strategy epoch job)
      (hj : ∀ j, job = some j → s.Succeeded j) (hr : s.retired = false)
      (he : s.epochFor x.lookup.structural = epoch) :
      Move cfg lax s (s.observe (.passed g strategy))
  | cacheHit {g : Nat} {x : Get} {fallback : Bool} {strategy : MetadataLoadStrategy}
      {epoch : OperationEpoch} {job : Option Nat} {c : CacheEntry α}
      (hx : s.gets[g]? = some x) (hs : x.stage = .authorizing fallback strategy epoch job)
      (hj : ∀ j, job = some j → s.Succeeded j)
      (he : s.epochFor x.lookup.structural = epoch)
      (hp : s.trace.head? = some (.passed g strategy))
      (hc : s.cache.get x.lookup.structural = some c) :
      Move cfg lax s ({ s with
        cache := s.cache.touch x.lookup.structural c }.resolve g x c.value)
  | joined {g : Nat} {x : Get} {fallback : Bool} {strategy : MetadataLoadStrategy}
      {epoch : OperationEpoch} {job : Option Nat} {j : Nat} (hx : s.gets[g]? = some x)
      (hs : x.stage = .authorizing fallback strategy epoch job)
      (hj : ∀ j, job = some j → s.Succeeded j)
      (he : s.epochFor x.lookup.structural = epoch) (hr : s.retired = false)
      (hp : s.trace.head? = some (.passed g strategy))
      (hc : s.cache.get x.lookup.structural = none)
      (hf : s.inFlight.get (x.lookup.accessKey strategy epoch) = some j) :
      Move cfg lax s ((s.observe (.joined g j)).setStage g x
        (.loading fallback strategy epoch j))
  | loadAdmitted {g : Nat} {x : Get} {fallback : Bool} {strategy : MetadataLoadStrategy}
      {epoch : OperationEpoch} {job : Option Nat} (hx : s.gets[g]? = some x)
      (hs : x.stage = .authorizing fallback strategy epoch job)
      (hj : ∀ j, job = some j → s.Succeeded j)
      (he : s.epochFor x.lookup.structural = epoch) (hr : s.retired = false)
      (hp : s.trace.head? = some (.passed g strategy))
      (hc : s.cache.get x.lookup.structural = none)
      (hf : s.inFlight.get (x.lookup.accessKey strategy epoch) = none)
      (hactive : s.activeLoads < cfg.maxInFlightLoads) :
      Move cfg lax s (({ s with
        activeLoads := s.activeLoads + 1
        inFlight := s.inFlight.set (x.lookup.accessKey strategy epoch) s.jobs.length }.admitJob
          (.load (x.lookup.accessKey strategy epoch))).setStage g x
            (.loading fallback strategy epoch s.jobs.length))
  | loadResolved {g : Nat} {x : Get} {fallback : Bool} {strategy : MetadataLoadStrategy}
      {epoch : OperationEpoch} {j : Nat} {value : α} (hx : s.gets[g]? = some x)
      (hs : x.stage = .loading fallback strategy epoch j)
      (hj : s.result j = some (.ok (.loaded value))) :
      Move cfg lax s (s.resolve g x value)
  -- Invalidation.
  | advanced (o : MetadataStructuralKey)
      (hc : s.cache.get o = none) :
      Move cfg lax s ((fun t : MetadataRepositoryRuntime α =>
        { t with inFlight := t.inFlight.retain fun k _ => k.structural ≠ o }.observe
          (.invalidated o)) ((s.advanceObjectEpoch cfg o).forgetAuthorizationsForStructural o))
  | invalidatedAll : Move cfg lax s s.invalidateAll
  | retired (hr : s.retired = false) :
      Move cfg lax s ({ s with retired := true }.invalidateAll.observe .retired)
  | evicted {o : MetadataStructuralKey} {c : CacheEntry α} (hc : s.cache.get o = some c)
      (hb : c.retainedBytes ≤ s.retainedBytes) :
      Move cfg lax s ({ s with
        cache := s.cache.delete o
        retainedBytes := s.retainedBytes - c.retainedBytes
          }.forgetAuthorizationsForStructural o)
  -- Adapter calls.
  | called {j : Nat} {job : Job α} (hj : s.jobs[j]? = some job) (hs : job.status = .queued) :
      Move cfg lax s ((s.setStatus j job .called).observe (.called j job.call))
  | observed {j : Nat} {job : Job α} (outcome : Except Failure (Option α))
      (hj : s.jobs[j]? = some job) (hs : job.status = .called) :
      Move cfg lax s (s.observeSettlement j outcome)
  | probeSettled {j : Nat} {job : Job α} {key : ProbeKey}
      (r : Except Failure (Answer α)) (hj : s.jobs[j]? = some job)
      (hs : job.status = .called) (hc : job.call = .probeOptimized key) :
      Move cfg lax s (s.setStatus j job (.settled r))
  | granted {j : Nat} {job : Job α} {key : AccessKey} (hj : s.jobs[j]? = some job)
      (hs : job.status = .called) (hc : job.call = .authorize key)
      (hf : .fulfilled j none ∈ s.trace)
      (hb : ∀ i ∈ job.behind, ∃ r, s.finished i = some r)
      (ho : s.authorizations.get key = some (.pending j)) (hr : s.retired = false)
      (he : s.epochFor key.structural = key.epoch) :
      Move cfg lax s { s.setStatus j job (.settled (.ok .authorized)) with
        authorizations := s.authorizations.set key .settled }
  | authorizationSettled {j : Nat} {job : Job α} {key : AccessKey}
      (r : Except Failure (Answer α)) (hj : s.jobs[j]? = some job)
      (hs : job.status = .called) (hc : job.call = .authorize key)
      (hf : ∀ v, r = .ok v → .fulfilled j none ∈ s.trace)
      (ho : s.authorizations.get key ≠ some (.pending j)) :
      Move cfg lax s (s.setStatus j job (.settled r))
  | loadFailed {j : Nat} {job : Job α} {key : AccessKey} (e : Failure)
      (hj : s.jobs[j]? = some job) (hs : job.status = .called) (hc : job.call = .load key) :
      Move cfg lax s (s.setStatus j job (.settled (.error e)))
  | loadOutdated {j : Nat} {job : Job α} {key : AccessKey} {value : α}
      (hj : s.jobs[j]? = some job) (hs : job.status = .called) (hc : job.call = .load key)
      (hf : .fulfilled j (some value) ∈ s.trace)
      (he : s.retired = true ∨ s.epochFor key.structural ≠ key.epoch) :
      Move cfg lax s (s.setStatus j job (.settled (.ok (.loaded value))))
  | loadSuperseded {j : Nat} {job : Job α} {key : AccessKey} {c : CacheEntry α}
      (hj : s.jobs[j]? = some job) (hs : job.status = .called) (hc : job.call = .load key)
      (hr : s.retired = false) (he : s.epochFor key.structural = key.epoch)
      (hcache : s.cache.get key.structural = some c) :
      Move cfg lax s ({ s with cache := s.cache.touch key.structural c }.setStatus j job
        (.settled (.ok (.loaded c.value))))
  | loadOversize {j : Nat} {job : Job α} {key : AccessKey} {value : α}
      (hj : s.jobs[j]? = some job) (hs : job.status = .called) (hc : job.call = .load key)
      (hr : s.retired = false) (he : s.epochFor key.structural = key.epoch)
      (hf : .fulfilled j (some value) ∈ s.trace) :
      Move cfg lax s ((s.forgetAuthorizationsForStructural key.structural).setStatus j job
        (.settled (.ok (.loaded value))))
  | stored {j : Nat} {job : Job α} {key : AccessKey} {snapshot : MetadataSnapshot α}
      (hj : s.jobs[j]? = some job) (hs : job.status = .called) (hc : job.call = .load key)
      (hr : s.retired = false) (he : s.epochFor key.structural = key.epoch)
      (hf : .fulfilled j (some snapshot.value) ∈ s.trace)
      (hcache : s.cache.get key.structural = none) (hn : s.cache.size < cfg.maxEntries)
      (hb : s.retainedBytes + snapshot.retainedBytes ≤ cfg.maxRetainedBytes) :
      Move cfg lax s ({ s with
        cache := s.cache.set key.structural ⟨snapshot.value, snapshot.retainedBytes⟩
        retainedBytes := s.retainedBytes + snapshot.retainedBytes }.setStatus j job
          (.settled (.ok (.loaded snapshot.value))))
  | finished {j : Nat} {job : Job α} {r : Except Failure (Answer α)}
      (hj : s.jobs[j]? = some job) (hs : job.status = .settled r) :
      Move cfg lax s (s.finish j job r)

def Moves (cfg : Settings) (lax : Prop) :
    MetadataRepositoryRuntime α → MetadataRepositoryRuntime α → Prop :=
  Relation.ReflTransGen (Move cfg lax)

variable {cfg : Settings} {lax : Prop} {s s' : MetadataRepositoryRuntime α} {g : Nat} {x : Get}

theorem Moves.one (h : Move cfg lax s s') : Moves cfg lax s s' := .single h

theorem MayLeave.of_retired {withdrawn : AccessKey → Prop} (hw : s.Released x)
    (h : s.retired = true) : s.MayLeave x withdrawn :=
  ⟨hw, .inl h⟩

/-- What a `get` may leave behind, it may also leave behind for its own catch. -/
theorem MayLeave.weaken {withdrawn : AccessKey → Prop} (h : s.MayLeave x fun _ => False) :
    s.MayLeave x withdrawn :=
  ⟨h.released, h.answered.imp_right fun h k hk ho => (h k hk ho).elim⟩

theorem not_answers_selecting {selection : Selection} {k : AccessKey}
    (hs : x.stage = .selecting selection) : ¬ s.Answers x k := by
  simp [Answers, hs]

theorem MayLeave.selecting {selection : Selection} {withdrawn : AccessKey → Prop}
    (hs : x.stage = .selecting selection) : s.MayLeave x withdrawn := by
  refine ⟨?_, .inr fun _ hk _ => (not_answers_selecting hs hk).elim⟩
  intro fallback strategy epoch j hstage
  rw [hs] at hstage
  cases hstage

theorem Released.of_succeeded {fallback : Bool} {strategy : MetadataLoadStrategy}
    {epoch : OperationEpoch} {job : Option Nat}
    (hs : x.stage = .authorizing fallback strategy epoch job)
    (hj : ∀ j, job = some j → s.Succeeded j) : s.Released x := by
  intro fallback' strategy' epoch' j hstage
  rw [hs] at hstage
  cases hstage
  obtain ⟨v, hv⟩ := hj j rfl
  rw [hv]
  exact nofun

theorem get_of_delete {κ ν : Type} [DecidableEq κ] {m : OrderedMap κ ν} {k k' : κ} {v : ν}
    (h : (m.delete k).get k' = some v) : m.get k' = some v := by
  rw [OrderedMap.get_delete] at h
  split at h
  · cases h
  · exact h

theorem Moves.authorizeFor {strategy : MetadataLoadStrategy} {epoch : OperationEpoch}
    (fallback : Bool) (hx : s.gets[g]? = some x) (hr : s.retired = false)
    (hk : s.MayLeave x fun _ => False)
    (he : epoch = x.epoch ∨ epoch = s.epochFor x.lookup.structural) :
    Moves cfg lax s (s.authorizeFor cfg g x fallback strategy epoch) := by
  have fails (e : Failure) : Moves cfg lax s (s.failAttempt g x fallback strategy e) :=
    .one (.attemptFailed fallback strategy e hx (.inr hk.weaken))
  unfold MetadataRepositoryRuntime.authorizeFor authorize
  cases ha : s.authorizations.get (x.lookup.accessKey strategy epoch) with
  | some entry =>
      cases entry with
      | pending j => exact .one (.waiting fallback hx hr hk he ha)
      | settled => exact .one (.hit fallback hx hr hk he ha)
  | none =>
      by_cases hactive : cfg.maxAuthorizationEntries ≤ s.activeAuthorizations
      · simp only [if_pos hactive]
        exact fails _
      · by_cases hsize : cfg.maxAuthorizationEntries ≤ s.authorizations.size
        · cases hv : s.authorizations.oldest fun _ e => e.isSettled with
          | none =>
              simp only [if_neg hactive, if_pos hsize]
              exact fails _
          | some victim =>
              obtain ⟨v, hget, -⟩ := OrderedMap.oldest_spec hv
              simp only [if_neg hactive, if_pos hsize]
              refine .one (.authorizationAdmitted fallback (s.authorizations.delete victim) hx hr
                hk he (fun k e => get_of_delete) ?_ (Nat.lt_of_not_le hactive) (.inl ?_))
              · rw [OrderedMap.get_delete, ha, ite_self]
              · have := OrderedMap.size_delete hget
                omega
        · simp only [if_neg hactive, if_neg hsize]
          exact .one (.authorizationAdmitted fallback s.authorizations hx hr hk he
            (fun _ _ h => h) ha (Nat.lt_of_not_le hactive) (.inr (Nat.lt_of_not_le hsize)))

theorem Moves.getWithStrategy {strategy : MetadataLoadStrategy} (fallback : Bool)
    (hx : s.gets[g]? = some x) (hk : s.MayLeave x fun _ => False) :
    Moves cfg lax s (s.getWithStrategy cfg g x fallback strategy) := by
  unfold MetadataRepositoryRuntime.getWithStrategy
  split
  · rename_i hr
    exact .one (.attemptFailed fallback strategy _ hx (.inr (.of_retired hk.released hr)))
  · rename_i hr
    exact .authorizeFor fallback hx (Bool.eq_false_iff.mpr hr) hk (.inl rfl)

theorem reject_eq (s : MetadataRepositoryRuntime α) (g : Nat) (x : Get)
    (strategy : MetadataLoadStrategy) (e : Failure) :
    s.reject g x e = s.failAttempt g x true strategy e := rfl

theorem Moves.reject (e : Failure) (hx : s.gets[g]? = some x)
    (hk : s.MayLeave x fun _ => False) : Moves cfg lax s (s.reject g x e) := by
  rw [reject_eq s g x .classic e]
  exact .one (.attemptFailed true .classic e hx (.inr hk.weaken))

theorem Moves.probed {r : ProbeResult} (hx : s.gets[g]? = some x)
    (hk : s.MayLeave x fun _ => False) : Moves cfg lax s (s.probed cfg g x r) := by
  cases r with
  | available => exact .getWithStrategy false hx hk
  | unavailable classification =>
      unfold MetadataRepositoryRuntime.probed
      dsimp only
      split
      · exact .getWithStrategy false hx hk
      · exact .reject _ hx hk

theorem Moves.probeOptimized (key : ProbeKey) :
    Moves cfg lax s (s.probeOptimized cfg key).1 := by
  unfold MetadataRepositoryRuntime.probeOptimized
  cases hp : s.probes.get key with
  | some entry =>
      cases entry with
      | pending j => exact .refl
      | result r =>
          exact .one (.decided _ (.inl (le_of_eq (OrderedMap.size_touch_of_some _ hp))))
  | none =>
      dsimp only
      split
      · exact .refl
      · rename_i hactive
        split
        · cases hv : s.probes.oldest fun _ e => e.isSettled with
          | none => exact .refl
          | some victim =>
              obtain ⟨v, hget, -⟩ := OrderedMap.oldest_spec hv
              have hnone : (s.probes.delete victim).get key = none := by
                rw [OrderedMap.get_delete, hp, ite_self]
              refine .one (.probeAdmitted key _ (Nat.lt_of_not_le hactive) (.inl ?_))
              rw [OrderedMap.size_set_of_none _ hnone, OrderedMap.size_delete hget]
        · rename_i hsize
          refine .one (.probeAdmitted key _ (Nat.lt_of_not_le hactive) (.inr ?_))
          rw [OrderedMap.size_set_of_none _ hp]
          exact Nat.lt_of_not_le hsize

theorem Moves.forgetAuthorization (k : AccessKey) :
    Moves cfg lax s (s.forgetAuthorization k) :=
  .one (.dropped _ (fun _ _ => get_of_delete) (OrderedMap.size_delete_le _ _))

theorem rememberOptimizedFallback_eq (cfg : Settings) (s : MetadataRepositoryRuntime α)
    (x : Get) (e : Failure) :
    ∃ p, (p.size ≤ s.probes.size ∨ p.size ≤ cfg.maxProbeEntries) ∧
      s.rememberOptimizedFallback cfg x e = { s with probes := p } := by
  have same : ∃ p : OrderedMap ProbeKey ProbeEntry,
      (p.size ≤ s.probes.size ∨ p.size ≤ cfg.maxProbeEntries) ∧ s = { s with probes := p } :=
    ⟨s.probes, .inl le_rfl, rfl⟩
  unfold rememberOptimizedFallback
  cases fallbackClassification e with
  | none => exact same
  | some classification =>
      dsimp only
      split
      · exact same
      · cases hp : s.probes.get x.lookup.probeKey with
        | some entry =>
            cases entry with
            | pending j => exact same
            | result r =>
                exact ⟨_, .inl (le_of_eq (OrderedMap.size_touch_of_some _ hp)), rfl⟩
        | none =>
            dsimp only
            split
            · cases hv : s.probes.oldest fun _ e => e.isSettled with
              | none => exact same
              | some victim =>
                  obtain ⟨v, hget, -⟩ := OrderedMap.oldest_spec hv
                  refine ⟨_, .inl ?_, rfl⟩
                  unfold OrderedMap.touch
                  rw [OrderedMap.size_set_of_none _ (OrderedMap.get_delete_self _ _)]
                  have := OrderedMap.size_delete hget
                  have := (s.probes.delete victim).size_delete_le x.lookup.probeKey
                  omega
            · rename_i hsize
              refine ⟨_, .inr ?_, rfl⟩
              unfold OrderedMap.touch
              rw [OrderedMap.size_set_of_none _ (OrderedMap.get_delete_self _ _)]
              have := s.probes.size_delete_le x.lookup.probeKey
              omega

/-- With fewer authorizations fewer are left behind. -/
theorem MayLeave.drop {withdrawn : AccessKey → Prop} {k : AccessKey}
    (h : s.MayLeave x withdrawn) : (s.forgetAuthorization k).MayLeave x withdrawn :=
  ⟨h.released, h.answered.imp_right fun h k' hk ho => h k' hk ⟨get_of_delete ho.1, ho.2⟩⟩

/-- A `get` which withdraws the only authorization it may answer for may leave. -/
theorem MayLeave.forget {withdrawn : AccessKey → Prop} {k : AccessKey}
    (hw : s.Released x) (h : ∀ k', s.Answers x k' → k' = k) :
    (s.forgetAuthorization k).MayLeave x withdrawn := by
  refine ⟨hw, .inr fun k' hk ho => ?_⟩
  obtain rfl := h k' hk
  have := ho.1
  rw [MetadataRepositoryRuntime.forgetAuthorization, OrderedMap.get_delete_self] at this
  cases this

theorem Moves.attemptFailed {strategy : MetadataLoadStrategy} {e : Failure}
    (hx : s.gets[g]? = some x) (hs : x.stage = .failing strategy e) :
    Moves cfg lax s (s.attemptFailed cfg g x strategy e) := by
  have hk : (s.forgetAuthorization (x.lookup.accessKey strategy x.epoch)).MayLeave x
      fun _ => False := by
    apply MayLeave.forget
    · intro fallback strategy epoch j hstage
      rw [hs] at hstage
      cases hstage
    · intro k' hk
      simpa [Answers, hs] using hk
  unfold MetadataRepositoryRuntime.attemptFailed
  dsimp only
  split
  · obtain ⟨p, hn, heq⟩ := rememberOptimizedFallback_eq cfg
      (s.forgetAuthorization (x.lookup.accessKey strategy x.epoch)) x e
    rw [heq]
    refine (Moves.forgetAuthorization _).trans ((Moves.one (.decided p hn)).trans ?_)
    refine (Moves.forgetAuthorization _).trans (Moves.getWithStrategy true hx ?_)
    exact MayLeave.drop ⟨hk.released, hk.answered⟩
  · exact (Moves.forgetAuthorization _).trans (Moves.reject e hx hk)

theorem Moves.access {fallback : Bool} {strategy : MetadataLoadStrategy}
    {epoch : OperationEpoch} {job : Option Nat} (hx : s.gets[g]? = some x)
    (hs : x.stage = .authorizing fallback strategy epoch job)
    (hj : ∀ j, job = some j → s.Succeeded j)
    (he : s.epochFor x.lookup.structural = epoch) (hr : s.retired = false)
    (hp : s.trace.head? = some (.passed g strategy))
    (hg : lax ∨ (s.RefusesLoad cfg x strategy epoch → fallback = false ∧ epoch = x.epoch ∨
      s.authorizations.get (x.lookup.accessKey strategy epoch) ≠ some .settled)) :
    Moves cfg lax s (s.access cfg g x fallback strategy epoch) := by
  unfold MetadataRepositoryRuntime.access
  cases hc : s.cache.get x.lookup.structural with
  | some c => exact .one (.cacheHit hx hs hj he hp hc)
  | none =>
      dsimp only
      cases hf : s.inFlight.get (x.lookup.accessKey strategy epoch) with
      | some j => exact .one (.joined hx hs hj he hr hp hc hf)
      | none =>
          by_cases hactive : cfg.maxInFlightLoads ≤ s.activeLoads
          · simp only [if_pos hactive]
            refine .one (.attemptFailed fallback strategy _ hx (hg.imp_right fun hg => ?_))
            refine ⟨.of_succeeded hs hj, .inr fun k hk ho => ?_⟩
            simp only [Answers, hs] at hk
            obtain ⟨rfl, -⟩ := hk
            obtain ⟨hfirst, rfl⟩ | hnone := hg ⟨hr, he, hc, hf, hactive⟩
            · exact ⟨hfirst, rfl⟩
            · exact absurd ho.1 hnone
          · simp only [if_neg hactive]
            exact .one (.loadAdmitted hx hs hj he hr hp hc hf (Nat.lt_of_not_le hactive))

theorem Moves.authorized {fallback : Bool} {strategy : MetadataLoadStrategy}
    {epoch : OperationEpoch} {job : Option Nat} (hx : s.gets[g]? = some x)
    (hs : x.stage = .authorizing fallback strategy epoch job)
    (hj : ∀ j, job = some j → s.Succeeded j)
    (hg : lax ∨ (s.RefusesLoad cfg x strategy epoch → fallback = false ∧ epoch = x.epoch ∨
      s.authorizations.get (x.lookup.accessKey strategy epoch) ≠ some .settled)) :
    Moves cfg lax s (s.authorized cfg g x fallback strategy epoch) := by
  unfold MetadataRepositoryRuntime.authorized
  by_cases hr : s.retired = true
  · rw [if_pos hr]
    exact .one (.attemptFailed fallback strategy _ hx
      (.inr (.of_retired (.of_succeeded hs hj) hr)))
  · rw [if_neg hr]
    have hr := Bool.eq_false_iff.mpr hr
    split
    · rename_i he
      exact (Moves.one (.passed hx hs hj hr he)).trans (Moves.access hx hs hj he hr rfl hg)
    · refine (Moves.forgetAuthorization _).trans
        (Moves.authorizeFor fallback hx hr ?_ (.inr rfl))
      apply MayLeave.forget (.of_succeeded hs hj)
      intro k' hk
      simp only [Answers, hs] at hk
      exact hk.1

/-- A `get` which fails for an adapter call that did not succeed answers for nothing. -/
theorem Moves.authorizationDenied {fallback : Bool} {strategy : MetadataLoadStrategy}
    {epoch : OperationEpoch} {j : Nat} {e : Failure} (hx : s.gets[g]? = some x)
    (hs : x.stage = .authorizing fallback strategy epoch (some j))
    (hj : s.result j = some (.error e)) :
    Moves cfg lax s (s.failAttempt g x fallback strategy e) := by
  refine .one (.attemptFailed fallback strategy e hx (.inr ⟨?_, .inr fun k hk _ => ?_⟩))
  · intro fallback' strategy' epoch' i hstage
    rw [hs] at hstage
    cases hstage
    rw [hj]
    exact nofun
  · simp only [Answers, hs] at hk
    obtain ⟨v, hv⟩ := hk.2 j rfl
    rw [hj] at hv
    cases hv

theorem result_of_finished {j : Nat} {r : Except Failure (Answer α)}
    (h : s.finished j = some r) : s.result j = some r := by
  unfold MetadataRepositoryRuntime.finished at h
  unfold MetadataRepositoryRuntime.result
  split at h
  · rename_i hj
    rw [hj]
    exact h
  · cases h

theorem Moves.loadEnded {fallback : Bool} {strategy : MetadataLoadStrategy}
    {epoch : OperationEpoch} {j : Nat} {r : Except Failure (Answer α)}
    (hx : s.gets[g]? = some x) (hs : x.stage = .loading fallback strategy epoch j)
    (hj : s.result j = some r) :
    Moves cfg lax s (s.loadEnded g x fallback strategy epoch r) := by
  cases r with
  | ok v =>
      cases v with
      | loaded value => exact .one (.loadResolved hx hs hj)
      | probed _ | authorized => exact .refl
  | error e =>
      refine (Moves.forgetAuthorization _).trans
        (Moves.one (.attemptFailed fallback strategy e hx (.inr ?_)))
      apply MayLeave.forget
      · intro fallback' strategy' epoch' i hstage
        rw [hs] at hstage
        cases hstage
      · intro k' hk
        simp only [Answers, hs] at hk
        exact hk.1

theorem Moves.resume (hx : s.gets[g]? = some x) (h : s.resume cfg g x = some s')
    (hg : lax ∨ s.Regular cfg (.resume g : Event α)) : Moves cfg lax s s' := by
  have regular {fallback : Bool} {strategy : MetadataLoadStrategy} {epoch : OperationEpoch}
      {job : Option Nat} (hs : x.stage = .authorizing fallback strategy epoch job) :
      lax ∨ (s.RefusesLoad cfg x strategy epoch → fallback = false ∧ epoch = x.epoch ∨
        s.authorizations.get (x.lookup.accessKey strategy epoch) ≠ some .settled) :=
    hg.imp_right fun hg => hg x fallback strategy epoch job hx hs
  unfold MetadataRepositoryRuntime.resume at h
  split at h
  · rename_i strategy hs
    cases h
    exact .getWithStrategy false hx (.selecting hs)
  · rename_i r hs
    cases h
    exact .probed hx (.selecting hs)
  · rename_i e hs
    cases h
    exact .reject e hx (.selecting hs)
  · rename_i job hs
    split at h
    · cases h
      exact .probed hx (.selecting hs)
    · cases h
      exact .reject _ hx (.selecting hs)
    · cases h
  · rename_i hs
    cases h
    exact .authorized hx hs (by simp) (regular hs)
  · rename_i job hs
    split at h
    · rename_i hj
      cases h
      refine .authorized hx hs ?_ (regular hs)
      rintro j ⟨⟩
      exact ⟨_, result_of_finished hj⟩
    · rename_i hj
      cases h
      exact .authorizationDenied hx hs (result_of_finished hj)
    · cases h
  · rename_i job hs
    rw [Option.map_eq_some_iff] at h
    obtain ⟨r, hj, rfl⟩ := h
    exact .loadEnded hx hs (result_of_finished hj)
  · rename_i strategy e hs
    cases h
    exact .attemptFailed hx hs
  · cases h

/-- The probe of a `get` does not look at the calls of `get`. -/
theorem probeOptimized_gets (cfg : Settings) (s : MetadataRepositoryRuntime α)
    (key : ProbeKey) (gets : List Get) :
    { s with gets := gets }.probeOptimized cfg key =
      ({ (s.probeOptimized cfg key).1 with gets := gets }, (s.probeOptimized cfg key).2) := by
  unfold MetadataRepositoryRuntime.probeOptimized
  cases s.probes.get key with
  | some entry => cases entry <;> rfl
  | none =>
      by_cases hactive : cfg.maxProbeEntries ≤ s.activeProbes
      · simp only [if_pos hactive]
      · by_cases hsize : cfg.maxProbeEntries ≤ s.probes.size
        · cases hv : s.probes.oldest fun _ e => e.isSettled with
          | none => simp only [if_neg hactive, if_pos hsize]
          | some victim =>
              simp only [if_neg hactive, if_pos hsize]
              rfl
        · simp only [if_neg hactive, if_neg hsize]
          rfl

theorem probeOptimized_gets_eq (cfg : Settings) (s : MetadataRepositoryRuntime α)
    (key : ProbeKey) : (s.probeOptimized cfg key).1.gets = s.gets := by
  have h := congrArg (fun r => r.1.gets) (probeOptimized_gets cfg s key s.gets)
  exact h

theorem Moves.selectStrategy {l : MetadataLookup} (gets : List Get) :
    Moves cfg lax { s with gets := gets } { (s.selectStrategy cfg l).1 with gets := gets } := by
  have probing : Moves cfg lax { s with gets := gets }
      { (s.probeOptimized cfg l.probeKey).1 with gets := gets } := by
    have h : Moves cfg lax { s with gets := gets } _ := Moves.probeOptimized l.probeKey
    rwa [probeOptimized_gets] at h
  unfold MetadataRepositoryRuntime.selectStrategy
  cases l.mode with
  | auto | optimizedOnly => exact probing
  | classic | legacyV3 => exact .refl

theorem selectStrategy_gets (cfg : Settings) (s : MetadataRepositoryRuntime α)
    (l : MetadataLookup) : (s.selectStrategy cfg l).1.gets = s.gets := by
  unfold MetadataRepositoryRuntime.selectStrategy
  cases l.mode with
  | auto | optimizedOnly => exact probeOptimized_gets_eq cfg s l.probeKey
  | classic | legacyV3 => rfl

theorem Moves.get {l : MetadataLookup} (h : s.get cfg l = .ok s') : Moves cfg lax s s' := by
  unfold MetadataRepositoryRuntime.get at h
  by_cases hr : s.retired = true
  · rw [if_pos hr] at h
    cases h
  · rw [if_neg hr] at h
    have hmoves (gets : List Get) :
        Moves cfg lax { s.observe (.started s.gets.length l) with gets := gets }
          { ((s.observe (.started s.gets.length l)).selectStrategy cfg l).1 with
            gets := gets } := Moves.selectStrategy gets
    have hgets := selectStrategy_gets cfg (s.observe (.started s.gets.length l)) l
    dsimp only at h
    cases hsel : (s.observe (.started s.gets.length l)).selectStrategy cfg l with
    | mk t selection =>
        rw [hsel] at h hmoves hgets
        cases h
        dsimp only at hgets
        rw [hgets]
        exact (Moves.one (.started l selection (Bool.eq_false_iff.mpr hr))).trans (hmoves _)

/-- What an eviction removes from the cache, and what it leaves alone. -/
theorem deleteCacheEntry_eq (s : MetadataRepositoryRuntime α) (o : MetadataStructuralKey) :
    ∃ c n a, (∀ o', s.cache.get o' = none → c.get o' = none) ∧
      (s.deleteCacheEntry o).1 =
        { s with cache := c, retainedBytes := n, authorizations := a } := by
  have shrunk (o' : MetadataStructuralKey) (h : s.cache.get o' = none) :
      (s.cache.delete o).get o' = none := by
    rw [OrderedMap.get_delete, h, ite_self]
  unfold deleteCacheEntry
  cases s.cache.get o with
  | none => exact ⟨s.cache, s.retainedBytes, s.authorizations, fun _ h => h, rfl⟩
  | some c =>
      dsimp only
      split
      · exact ⟨_, s.retainedBytes, s.authorizations, shrunk, rfl⟩
      · exact ⟨_, _, _, shrunk, rfl⟩

/-- An eviction which throws has found the accounting wrong. -/
theorem Moves.deleteCacheEntry {o : MetadataStructuralKey} {r : Except Failure Bool}
    (h : s.deleteCacheEntry o = (s', r)) :
    (∃ e, r = .error e) ∧ (∀ t, Moves cfg lax s t) ∨
      (∃ b, r = .ok b) ∧ Moves cfg lax s s' ∧ s'.cache.get o = none := by
  unfold MetadataRepositoryRuntime.deleteCacheEntry at h
  cases hc : s.cache.get o with
  | none =>
      rw [hc] at h
      cases h
      exact .inr ⟨⟨_, rfl⟩, .refl, hc⟩
  | some c =>
      rw [hc] at h
      dsimp only at h
      split at h
      · rename_i hb
        cases h
        exact .inl ⟨⟨_, rfl⟩, fun t => .one (.fault (.inl ⟨o, c, hc, hb⟩))⟩
      · rename_i hb
        cases h
        exact .inr ⟨⟨_, rfl⟩, .one (.evicted hc (Nat.le_of_not_lt hb)),
          OrderedMap.get_delete_self _ _⟩

theorem Moves.invalidate (o : MetadataStructuralKey) :
    Moves cfg lax s (s.invalidate cfg o) := by
  unfold MetadataRepositoryRuntime.invalidate
  cases h : s.deleteCacheEntry o with
  | mk t r =>
      obtain ⟨⟨e, rfl⟩, ht⟩ | ⟨⟨b, rfl⟩, ht, hc⟩ := Moves.deleteCacheEntry h
      · exact ht t
      · exact ht.trans (Moves.one (.advanced o hc))

/-- A round of the eviction loop: the cache is empty, an entry is taken out, or there is
room. -/
theorem evictionLoop_cases {bytes fuel : Nat} {r : Except Failure Unit}
    (h : s.evictionLoop cfg bytes (fuel + 1) = some (s', r)) :
    (cfg.maxEntries ≤ s.cache.size ∨ cfg.maxRetainedBytes < s.retainedBytes + bytes) ∧
        s.cache.size = 0 ∧ s' = s ∧ (∃ e, r = .error e) ∨
      (∃ o e, s.deleteCacheEntry o = (s', .error e) ∧ r = .error e) ∨
      (∃ o t b, s.deleteCacheEntry o = (t, .ok b) ∧
        t.evictionLoop cfg bytes fuel = some (s', r)) ∨
      s.cache.size < cfg.maxEntries ∧ s.retainedBytes + bytes ≤ cfg.maxRetainedBytes ∧
        s' = s ∧ r = .ok () := by
  unfold evictionLoop at h
  by_cases hfull : cfg.maxEntries ≤ s.cache.size ∨ cfg.maxRetainedBytes < s.retainedBytes + bytes
  · rw [if_pos hfull] at h
    cases ho : s.cache.oldest fun _ _ => true with
    | none =>
        rw [ho] at h
        cases h
        have hzero : s.cache.size = 0 := by
          by_contra hne
          obtain ⟨o, ho'⟩ := OrderedMap.exists_oldest hne
          rw [ho] at ho'
          cases ho'
        exact .inl ⟨hfull, hzero, rfl, _, rfl⟩
    | some oldest =>
        rw [ho] at h
        dsimp only at h
        cases hd : s.deleteCacheEntry oldest with
        | mk t b =>
            rw [hd] at h
            cases b with
            | error e =>
                cases h
                exact .inr (.inl ⟨oldest, e, hd, rfl⟩)
            | ok b => exact .inr (.inr (.inl ⟨oldest, t, b, hd, h⟩))
  · rw [if_neg hfull] at h
    cases h
    exact .inr (.inr (.inr ⟨by omega, by omega, rfl, rfl⟩))

/-- What the eviction loop may change. -/
theorem evictionLoop_eq {bytes fuel : Nat} {r : Except Failure Unit}
    (h : s.evictionLoop cfg bytes fuel = some (s', r)) :
    ∃ c n a, (∀ o, s.cache.get o = none → c.get o = none) ∧
      s' = { s with cache := c, retainedBytes := n, authorizations := a } := by
  induction fuel generalizing s with
  | zero => cases h
  | succ fuel ih =>
      obtain ⟨-, -, rfl, -⟩ | ⟨o, e, hd, -⟩ | ⟨o, t, b, hd, ht⟩ | ⟨-, -, rfl, -⟩ :=
        evictionLoop_cases h
      · exact ⟨_, _, _, fun _ h => h, rfl⟩
      · have := deleteCacheEntry_eq s o
        rwa [hd] at this
      · obtain ⟨c, n, a, hc, heq⟩ := deleteCacheEntry_eq s o
        rw [hd] at heq
        dsimp only at heq
        subst heq
        obtain ⟨c', n', a', hc', rfl⟩ := ih ht
        exact ⟨c', n', a', fun o ho => hc' o (hc o ho), rfl⟩
      · exact ⟨_, _, _, fun _ h => h, rfl⟩

/-- The eviction loop makes room, or has found the accounting wrong. -/
theorem Moves.evictionLoop {bytes fuel : Nat} {r : Except Failure Unit}
    (hn : cfg.maxEntries ≠ 0) (hb : bytes ≤ cfg.maxRetainedBytes)
    (h : s.evictionLoop cfg bytes fuel = some (s', r)) :
    (∃ e, r = .error e) ∧ (∀ t, Moves cfg lax s t) ∨
      r = .ok () ∧ Moves cfg lax s s' ∧ s'.cache.size < cfg.maxEntries ∧
        s'.retainedBytes + bytes ≤ cfg.maxRetainedBytes := by
  induction fuel generalizing s with
  | zero => cases h
  | succ fuel ih =>
      obtain ⟨hfull, hzero, rfl, he⟩ | ⟨o, e, hd, rfl⟩ | ⟨o, t, b, hd, ht⟩ |
        ⟨hsize, hbytes, rfl, rfl⟩ := evictionLoop_cases h
      · exact .inl ⟨he, fun t => .one (.fault (.inr ⟨hzero, by omega⟩))⟩
      · obtain ⟨-, hu⟩ | ⟨⟨b, hb⟩, -⟩ := Moves.deleteCacheEntry hd
        · exact .inl ⟨⟨e, rfl⟩, hu⟩
        · cases hb
      · obtain ⟨⟨e, he⟩, -⟩ | ⟨-, hs, -⟩ := Moves.deleteCacheEntry hd
        · cases he
        · obtain ⟨he, hu⟩ | ⟨he, hu, hroom⟩ := ih ht
          · exact .inl ⟨he, fun u => hs.trans (hu u)⟩
          · exact .inr ⟨he, hs.trans hu, hroom⟩
      · exact .inr ⟨rfl, .refl, hsize, hbytes⟩

theorem Moves.loadSettled {j : Nat} {job : Job α} {key : AccessKey}
    {outcome : Except Failure (MetadataSnapshot α)} (hj : s.jobs[j]? = some job)
    (hs : job.status = .called) (hc : job.call = .load key)
    (hf : ∀ x, outcome = .ok x → .fulfilled j (some x.value) ∈ s.trace)
    (h : s.loadSettled cfg j job key outcome = some s') : Moves cfg lax s s' := by
  unfold MetadataRepositoryRuntime.loadSettled at h
  cases outcome with
  | error e =>
      cases h
      exact .one (.loadFailed e hj hs hc)
  | ok snapshot =>
      have hf := hf snapshot rfl
      dsimp only at h
      split at h
      · rename_i hcurrent
        have hr : s.retired = false := by simpa using hcurrent.1
        have he := hcurrent.2
        rw [Option.map_eq_some_iff] at h
        obtain ⟨⟨t, r⟩, h, rfl⟩ := h
        unfold cacheSnapshot at h
        cases hcache : s.cache.get key.structural with
        | some c =>
            rw [hcache] at h
            cases h
            exact .one (.loadSuperseded hj hs hc hr he hcache)
        | none =>
            rw [hcache] at h
            dsimp only at h
            split at h
            · cases h
              exact .one (.loadOversize hj hs hc hr he hf)
            · rename_i hfits
              rw [Option.map_eq_some_iff] at h
              obtain ⟨⟨u, b⟩, hloop, heq⟩ := h
              have hframe := evictionLoop_eq hloop
              obtain ⟨⟨e, rfl⟩, ht⟩ | ⟨rfl, ht, hroom⟩ := Moves.evictionLoop (by omega)
                (by omega) hloop
              · exact ht _
              · obtain ⟨c, n, a, hnone, rfl⟩ := hframe
                dsimp only at heq
                split at heq
                · rename_i hunsafe
                  have := cfg.retained_safe
                  have := hroom.2
                  dsimp only at this hunsafe
                  omega
                · cases heq
                  exact ht.trans (Moves.one (.stored hj hs hc hr he hf (hnone _ hcache)
                    hroom.1 hroom.2))
      · rename_i hcurrent
        cases h
        refine .one (.loadOutdated hj hs hc hf ?_)
        by_cases hr : s.retired = true
        · exact .inl hr
        · exact .inr fun he => hcurrent ⟨by simpa using hr, he⟩

theorem running_spec {j : Nat} {job : Job α} (h : s.running j = some job) :
    s.jobs[j]? = some job ∧ job.status = .called ∧
      ∀ i ∈ job.behind, ∃ r, s.finished i = some r := by
  unfold running at h
  split at h
  · rename_i hj
    split at h
    · rename_i hb
      cases h
      refine ⟨hj, rfl, fun i hi => ?_⟩
      have := List.all_eq_true.mp hb i hi
      exact Option.isSome_iff_exists.mp this
    · cases h
  · cases h

theorem Moves.probeSettled {j : Nat} {job : Job α} {key : ProbeKey}
    (outcome : Except Failure Unit) (hj : s.jobs[j]? = some job) (hs : job.status = .called)
    (hc : job.call = .probeOptimized key) :
    Moves cfg lax s (s.probeSettled j job key outcome) := by
  have settled (r : Except Failure (Answer α)) :
      Moves cfg lax s (s.setStatus j job (.settled r)) := .one (.probeSettled r hj hs hc)
  unfold MetadataRepositoryRuntime.probeSettled
  dsimp only
  split
  · split
    · rename_i hown
      exact (settled _).trans (Moves.one (.decided _ (.inl (le_of_eq
        (OrderedMap.size_set_of_some _ hown)))))
    · exact settled _
  · split
    · exact (settled _).trans (Moves.one (.decided _ (.inl (OrderedMap.size_delete_le _ _))))
    · exact settled _

theorem Moves.authorizationSettled {j : Nat} {job : Job α} {key : AccessKey}
    {outcome : Except Failure Unit} (hj : s.jobs[j]? = some job) (hs : job.status = .called)
    (hc : job.call = .authorize key) (hb : ∀ i ∈ job.behind, ∃ r, s.finished i = some r)
    (hf : outcome = .ok () → .fulfilled j none ∈ s.trace) :
    Moves cfg lax s (s.authorizationSettled j job key outcome) := by
  have hf' (v : Answer α) (hv : (outcome.map fun _ => Answer.authorized) = .ok v) :
      .fulfilled j none ∈ s.trace := by
    cases outcome with
    | ok u => exact hf rfl
    | error e => cases hv
  have settled (ho : s.authorizations.get key ≠ some (.pending j)) :
      Moves cfg lax s (s.setStatus j job (.settled (outcome.map fun _ => .authorized))) :=
    .one (.authorizationSettled _ hj hs hc hf' ho)
  have withdrawn : Moves cfg lax s ((s.setStatus j job
      (.settled (outcome.map fun _ => .authorized))).forgetAuthorization key) := by
    refine (Moves.forgetAuthorization key).trans
      (Moves.one (.authorizationSettled _ hj hs hc hf' ?_))
    show (s.authorizations.delete key).get key ≠ some (.pending j)
    rw [OrderedMap.get_delete_self]
    exact nofun
  unfold MetadataRepositoryRuntime.authorizationSettled
  cases outcome with
  | ok u =>
      dsimp only
      split
      · rename_i ho
        split
        · rename_i hcurrent
          have hr : s.retired = false := by simpa [setStatus] using hcurrent.1
          exact .one (.granted hj hs hc (hf rfl) hb ho hr hcurrent.2)
        · exact withdrawn
      · rename_i ho
        exact settled ho
  | error e =>
      dsimp only
      split
      · exact withdrawn
      · rename_i ho
        exact settled ho

theorem observeSettlement_jobs (j : Nat) (outcome : Except Failure (Option α)) :
    (s.observeSettlement j outcome).jobs = s.jobs := by
  cases outcome <;> rfl

/-- Every step is a sequence of moves. -/
theorem step_moves {e : Event α} (h : step cfg s e = some s')
    (hg : lax ∨ s.Regular cfg e) : Moves cfg lax s s' := by
  cases e with
  | get l =>
      unfold step at h
      dsimp only at h
      split at h
      · rename_i hget
        cases h
        exact .get hget
      · cases h
        exact .refl
  | cancel g =>
      unfold step at h
      dsimp only at h
      split at h
      · rename_i hx
        split at h
        · cases h
        · cases h
          exact .one (.canceled hx)
      · cases h
  | invalidate o =>
      cases h
      exact .invalidate o
  | invalidateAll =>
      cases h
      exact .one .invalidatedAll
  | retire =>
      cases h
      unfold MetadataRepositoryRuntime.retire
      split
      · exact .refl
      · rename_i hr
        exact .one (.retired (Bool.eq_false_iff.mpr hr))
  | call j =>
      unfold step at h
      dsimp only at h
      split at h
      · rename_i hj
        cases h
        exact .one (.called hj rfl)
      · cases h
  | settle j outcome =>
      unfold step at h
      dsimp only at h
      split at h
      · rename_i hrun
        obtain ⟨hj, hs, -⟩ := running_spec hrun
        cases h
        refine (Moves.one (.observed _ hj hs)).trans (Moves.probeSettled outcome ?_ hs rfl)
        rwa [observeSettlement_jobs]
      · rename_i hrun
        obtain ⟨hj, hs, hb⟩ := running_spec hrun
        cases h
        refine (Moves.one (.observed _ hj hs)).trans
          (Moves.authorizationSettled ?_ hs rfl ?_ ?_)
        · rwa [observeSettlement_jobs]
        · intro i hi
          obtain ⟨r, hr⟩ := hb i hi
          refine ⟨r, ?_⟩
          unfold finished at hr ⊢
          rwa [observeSettlement_jobs]
        · rintro rfl
          exact List.mem_cons_self
      · cases h
  | settleLoad j outcome =>
      unfold step at h
      dsimp only at h
      split at h
      · rename_i hrun
        obtain ⟨hj, hs, -⟩ := running_spec hrun
        refine (Moves.one (.observed _ hj hs)).trans (Moves.loadSettled ?_ hs rfl ?_ h)
        · rwa [observeSettlement_jobs]
        · rintro x rfl
          exact List.mem_cons_self
      · cases h
  | finish j =>
      unfold step at h
      dsimp only at h
      split at h
      · rename_i hj
        cases h
        exact .one (.finished hj rfl)
      · cases h
  | resume g =>
      unfold step at h
      dsimp only at h
      split at h
      · rename_i hx
        exact .resume hx h hg
      · cases h

end MetadataRepositoryRuntime

end OpenRfc.Metadata
