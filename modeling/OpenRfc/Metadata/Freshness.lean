import OpenRfc.Metadata.Progress

/-!
Freshness. A descriptor is in the cache only if the load which produced it was admitted
after the last invalidation of its object, and a `get` resolves only with a descriptor
whose load was not admitted before an invalidation which the `get` followed.
-/

namespace OpenRfc.Metadata

/-- The access key of a call which has one. -/
def AdapterCall.accessKey : AdapterCall → Option AccessKey
  | .probeOptimized _ => none
  | .authorize key | .load key => some key

section
variable {α : Type} {o : MetadataStructuralKey} {g j : Nat} {a : Observation α}
  {new h : List (Observation α)}

/-- The adapter call was not admitted before an invalidation of the object. -/
def Fresh (o : MetadataStructuralKey) (j : Nat) (h : List (Observation α)) : Prop :=
  History.Each (fun a past => a.Invalidates o → ∀ call, .admitted j call ∉ past) h

/-- When the `get` started, the adapter call had not been admitted before an invalidation
of the object. -/
def FreshFor (g : Nat) (o : MetadataStructuralKey) (j : Nat) (h : List (Observation α)) : Prop :=
  History.Each (fun a past => (∃ l, a = .started g l) → Fresh o j past) h

theorem Fresh.append (hf : Fresh o j h) (hn : ∀ a ∈ new, ¬ a.Invalidates o) :
    Fresh o j (new ++ h) :=
  History.Each.append hf fun a _ ha hinv => absurd hinv (hn a ha)

theorem fresh_of_not_admitted (hn : ∀ call, .admitted j call ∉ h) : Fresh o j h := by
  induction h with
  | nil => trivial
  | cons a past ih =>
      have hpast (call : AdapterCall) : Observation.admitted j call ∉ past :=
        fun hmem => hn call (List.mem_cons_of_mem a hmem)
      exact ⟨fun _ => hpast, ih hpast⟩

theorem Fresh.freshFor (hf : Fresh o j h) : FreshFor g o j h := by
  apply History.Each.mono _ (History.Each.past hf)
  intro a past hpast _
  exact hpast

theorem FreshFor.append (hf : FreshFor g o j h) (hn : ∀ l, .started g l ∉ new) :
    FreshFor g o j (new ++ h) :=
  History.Each.append hf fun _ _ ha ⟨l, hl⟩ => absurd (hl ▸ ha) (hn l)

/-- The load `j` was admitted for the object and produced the value. -/
def Provides (h : List (Observation α)) (o : MetadataStructuralKey) (v : α) (j : Nat) : Prop :=
  ∃ key, key.structural = o ∧ .admitted j (.load key) ∈ h ∧ .fulfilled j (some v) ∈ h

theorem Provides.append {v : α} (hp : Provides h o v j) : Provides (new ++ h) o v j := by
  obtain ⟨key, hk, ha, hf⟩ := hp
  exact ⟨key, hk, List.mem_append_right new ha, List.mem_append_right new hf⟩

/-- A `get` resolves with the value of a load of its object which was not outdated when
the `get` started. -/
def FreshLaw : Observation α → List (Observation α) → Prop
  | .resolved g v, past => ∃ l j, .started g l ∈ past ∧ Provides past l.structural v j ∧
      FreshFor g l.structural j past
  | _, _ => True

end

namespace MetadataRepositoryRuntime
variable {α : Type} {cfg : Settings} {lax : Prop} {s s' : MetadataRepositoryRuntime α}
  {new : List (Observation α)}

/-- The epochs and the numbers which the calls of `get` and of the adapter carry. -/
structure Dated (s : MetadataRepositoryRuntime α) : Prop where
  gets : ∀ g x, s.gets[g]? = some x → .started g x.lookup ∈ s.trace ∧
    x.epoch.Le (s.epochFor x.lookup.structural)
  started : ∀ g l, .started g l ∈ s.trace → ∃ x : Get, s.gets[g]? = some x ∧ x.lookup = l
  admitted : ∀ j call, .admitted j call ∈ s.trace → j < s.jobs.length
  jobs : ∀ j job, s.jobs[j]? = some job → .admitted j job.call ∈ s.trace
  keys : ∀ j job key, s.jobs[j]? = some job → job.call.accessKey = some key →
    key.epoch.Le (s.epochFor key.structural) ∧
      (key.epoch = s.epochFor key.structural → Fresh key.structural j s.trace)

theorem dated_initial : Dated (initial : MetadataRepositoryRuntime α) := by
  constructor <;> simp [initial]

/-- An epoch which was current and still is has seen no invalidation. -/
theorem Progress.fresh (hp : Progress s s' new) {o : MetadataStructuralKey} {j : Nat}
    {epoch : OperationEpoch} (hle : epoch.Le (s.epochFor o)) (he : epoch = s'.epochFor o)
    (hf : epoch = s.epochFor o → Fresh o j s.trace) : Fresh o j s'.trace := by
  have hsame : epoch = s.epochFor o := hle.antisymm (he ▸ hp.epochs o)
  rw [hp.trace]
  exact (hf hsame).append (hp.aged o (he.symm.trans hsame))

/-- A call which is admitted is fresh: it has not been admitted before. -/
theorem Dated.fresh_next (h : Dated s) (o : MetadataStructuralKey) :
    Fresh o s.jobs.length s.trace :=
  fresh_of_not_admitted fun call hmem => Nat.lt_irrefl _ (h.admitted _ call hmem)

theorem Dated.progress (h : Dated s) (hp : Progress s s' new) (ho : Observes s new) :
    Dated s' := by
  constructor
  · intro g x' hx
    rw [hp.trace]
    obtain ⟨x, hx, hlookup, hepoch⟩ | ⟨-, hstarted, hepoch⟩ := hp.gets g x' hx
    · obtain ⟨hstarted, hle⟩ := h.gets g x hx
      rw [hlookup, hepoch]
      exact ⟨List.mem_append_right new hstarted, hle.trans (hp.epochs _)⟩
    · rw [hepoch]
      exact ⟨List.mem_append_left _ hstarted, .refl _⟩
  · intro g l hmem
    rw [hp.trace, List.mem_append] at hmem
    obtain hmem | hmem := hmem
    · exact (hp.started g l hmem).2
    · obtain ⟨x, hx, rfl⟩ := h.started g l hmem
      exact hp.went g x hx
  · intro j call hmem
    rw [hp.trace, List.mem_append] at hmem
    obtain hmem | hmem := hmem
    · obtain ⟨-, job', hj, -⟩ := hp.admitted j call hmem
      exact (List.getElem?_eq_some_iff.mp hj).1
    · obtain ⟨job', hj, -⟩ := hp.kept j _ (List.getElem?_eq_getElem (h.admitted j call hmem))
      exact (List.getElem?_eq_some_iff.mp hj).1
  · intro j job' hj
    rw [hp.trace]
    obtain ⟨job, hj, hcall, -⟩ | ⟨-, -, hadmitted⟩ := hp.jobs j job' hj
    · rw [hcall]
      exact List.mem_append_right new (h.jobs j job hj)
    · exact List.mem_append_left _ hadmitted
  · intro j job' key hj hkey
    obtain ⟨job, hj, hcall, -⟩ | ⟨rfl, -, hadmitted⟩ := hp.jobs j job' hj
    · rw [hcall] at hkey
      obtain ⟨hle, hfresh⟩ := h.keys j job key hj hkey
      exact ⟨hle.trans (hp.epochs _), fun he => hp.fresh hle he hfresh⟩
    · -- The call has just been admitted, in an epoch which was not later than the current.
      have hle : key.epoch.Le (s.epochFor key.structural) := by
        cases ho with
        | none => cases hadmitted
        | retired => simp at hadmitted
        | one hjust =>
            rw [List.mem_singleton] at hadmitted
            subst hadmitted
            cases hc : job'.call with
            | probeOptimized k =>
                rw [hc] at hkey
                cases hkey
            | authorize k =>
                rw [hc] at hkey hjust
                cases hkey
                obtain ⟨g, x, hx, -, -, hstructural, hepoch⟩ := hjust
                rw [hstructural]
                obtain hepoch | hepoch := hepoch
                · rw [hepoch]
                  exact (h.gets g x hx).2
                · rw [hepoch]
                  exact .refl _
            | load k =>
                rw [hc] at hkey hjust
                cases hkey
                have hepoch : key.epoch = s.epochFor key.structural := hjust
                rw [hepoch]
                exact .refl _
      exact ⟨hle.trans (hp.epochs _),
        fun he => hp.fresh hle he fun _ => h.fresh_next key.structural⟩

theorem Dated.move (h : Dated s) (ha : Accounted cfg s) (hm : Move cfg lax s s') : Dated s' := by
  obtain ⟨new, hp, ho⟩ := hm.progress ha
  exact h.progress hp ho

theorem reachable_dated (hs : (machine α cfg).Reachable s) : Dated s :=
  invariant_of_moves dated_initial (fun _ _ ha h => h.move ha) hs

/-! What a move does to the cache, to a `get` which waits for a load, and to a load. -/

theorem advanceObjectEpoch_cache (cfg : Settings) (s : MetadataRepositoryRuntime α)
    (o : MetadataStructuralKey) : (s.advanceObjectEpoch cfg o).cache = s.cache := by
  obtain ⟨epochs, n, authorizations, inFlight, heq⟩ := advanceObjectEpoch_frame cfg s o
  rw [heq]

/-- An entry of the cache was there before and has seen no invalidation, or a load which
is current has just stored it. -/
theorem Move.cached (hm : Move cfg lax s s') (ha : Accounted cfg s) {o : MetadataStructuralKey}
    {c : CacheEntry α} (hc : s'.cache.get o = some c) :
    (s.cache.get o = some c ∧ ∀ j, Fresh o j s.trace → Fresh o j s'.trace) ∨
      ∃ j job key, s.jobs[j]? = some job ∧ job.call = .load key ∧ key.structural = o ∧
        key.epoch = s.epochFor o ∧ .fulfilled j (some c.value) ∈ s.trace ∧
        s.retired = false ∧ s'.trace = s.trace := by
  obtain ⟨new, hp, -⟩ := hm.progress ha
  have same (hc : s.cache.get o = some c) (he : s'.epochFor o = s.epochFor o) :
      s.cache.get o = some c ∧ ∀ j, Fresh o j s.trace → Fresh o j s'.trace := by
    refine ⟨hc, fun j hf => ?_⟩
    rw [hp.trace]
    exact hf.append (hp.aged o he)
  cases hm with
  | fault hfault => exact absurd hfault ha.sound
  | dropped | decided | probeAdmitted | started | canceled | waiting | hit
  | authorizationAdmitted | passed | joined | loadAdmitted | called | probeSettled | granted
  | authorizationSettled | loadFailed | loadOutdated | loadOversize => exact .inl (same hc rfl)
  | attemptFailed fallback strategy e =>
      obtain ⟨stage, new, -, -, heq⟩ := failAttempt_eq_set s _ _ fallback strategy e
      rw [heq] at hc same ⊢
      exact .inl (same hc rfl)
  | cacheHit hx hs hj he hp hcache =>
      obtain ⟨new, -, heq⟩ := resolve_eq_set _ _ _ _
      rw [heq] at hc same ⊢
      change (s.cache.touch _ _).get o = some c at hc
      rw [OrderedMap.get_touch_of_get hcache] at hc
      exact .inl (same hc rfl)
  | loadResolved =>
      obtain ⟨new, -, heq⟩ := resolve_eq_set s _ _ _
      rw [heq] at hc same ⊢
      exact .inl (same hc rfl)
  | advanced o' hnone =>
      -- The object itself is not cached; the others are not invalidated.
      change (s.advanceObjectEpoch cfg o').cache.get o = some c at hc
      rw [advanceObjectEpoch_cache] at hc
      refine .inl ⟨hc, fun j hf => ?_⟩
      have htrace : (s.advanceObjectEpoch cfg o').trace = s.trace := by
        obtain ⟨epochs, n, authorizations, inFlight, heq⟩ := advanceObjectEpoch_frame cfg s o'
        rw [heq]
      change Fresh o j (.invalidated o' :: (s.advanceObjectEpoch cfg o').trace)
      rw [htrace]
      refine ⟨fun hinv => ?_, hf⟩
      cases hinv
      rw [hnone] at hc
      cases hc
  | invalidatedAll | retired => cases hc
  | evicted => exact .inl (same (get_of_delete hc) rfl)
  | @observed j job outcome =>
      obtain ⟨trace, heq⟩ := observeSettlement_frame s j outcome
      rw [heq] at hc same ⊢
      exact .inl (same hc rfl)
  | loadSuperseded hj hs hload hr he hcache =>
      change (s.cache.touch _ _).get o = some c at hc
      rw [OrderedMap.get_touch_of_get hcache] at hc
      exact .inl (same hc rfl)
  | @stored j job key snapshot hj hs hload hr he hf hcache =>
      change (s.cache.set key.structural _).get o = some c at hc
      rw [OrderedMap.get_set] at hc
      split at hc
      · rename_i ho
        cases hc
        exact .inr ⟨j, job, key, hj, hload, ho.symm, ho ▸ he.symm, hf, hr, rfl⟩
      · exact .inl (same hc rfl)
  | @finished j job r =>
      obtain ⟨probes, authorizations, loads, inFlight, heq⟩ := finish_frame s j job r
      rw [heq] at hc same ⊢
      exact .inl (same hc rfl)

/-- A `get` which waits for a load did so before, or has just been handed a load of its
object which is current. -/
theorem Move.loading (hm : Move cfg lax s s') (ha : Accounted cfg s) {g j : Nat} {x' : Get}
    {fallback : Bool} {strategy : MetadataLoadStrategy} {epoch : OperationEpoch}
    (hx : s'.gets[g]? = some x') (hs : x'.stage = .loading fallback strategy epoch j) :
    (∃ x, s.gets[g]? = some x ∧ x.lookup = x'.lookup ∧ x.stage = x'.stage) ∨
      ∃ key : AccessKey, key = x'.lookup.accessKey strategy epoch ∧
        epoch = s.epochFor key.structural ∧
        (∃ x, x.lookup = x'.lookup ∧ s.Admissible g x strategy) ∧
        s.trace.head? = some (.passed g strategy) ∧
        (s.inFlight.get key = some j ∧ s'.trace = .joined g j :: s.trace ∨
          j = s.jobs.length ∧ s'.trace = .admitted j (.load key) :: s.trace ∧
            s'.jobs[j]? = some (Job.mk (.load key) s.settledJobs .queued)) := by
  have moved {g' : Nat} {y : Get} {stage : Stage} (hy : s.gets[g']? = some y)
      (hset : (s.gets.set g' { y with stage := stage })[g]? = some x')
      (hstage : stage ≠ .loading fallback strategy epoch j) :
      ∃ x, s.gets[g]? = some x ∧ x.lookup = x'.lookup ∧ x.stage = x'.stage := by
    obtain hx | ⟨rfl, rfl⟩ := getElem?_of_set hset
    · exact ⟨x', hx, rfl, rfl⟩
    · exact absurd hs hstage
  cases hm with
  | fault hfault => exact absurd hfault ha.sound
  | dropped | decided | probeAdmitted | passed | invalidatedAll | retired | evicted | called
  | probeSettled | granted | authorizationSettled | loadFailed | loadOutdated | loadSuperseded
  | loadOversize | stored => exact .inl ⟨x', hx, rfl, rfl⟩
  | started l selection hr =>
      change (s.gets ++ [_])[g]? = some x' at hx
      rw [List.getElem?_append] at hx
      split at hx
      · exact .inl ⟨x', hx, rfl, rfl⟩
      · rw [List.getElem?_singleton] at hx
        split at hx
        · cases hx
          cases hs
        · cases hx
  | @canceled g' y hy =>
      obtain hx | ⟨rfl, rfl⟩ := getElem?_of_set hx
      · exact .inl ⟨x', hx, rfl, rfl⟩
      · exact .inl ⟨y, hy, rfl, rfl⟩
  | attemptFailed first strategy' e hy =>
      obtain ⟨stage, new, hstage, -, heq⟩ := failAttempt_eq_set s _ _ first strategy' e
      rw [heq] at hx
      refine .inl (moved hy hx ?_)
      obtain ⟨-, rfl⟩ | ⟨-, rfl⟩ := hstage <;> exact nofun
  | waiting first hy | hit first hy | authorizationAdmitted first a hy =>
      exact .inl (moved hy hx nofun)
  | cacheHit hy | loadResolved hy =>
      obtain ⟨new, -, heq⟩ := resolve_eq_set _ _ _ _
      rw [heq] at hx
      exact .inl (moved hy hx nofun)
  | @joined g' y first strategy' epoch' job i hy hstage hj he hr hp hc hf =>
      obtain hx | ⟨rfl, rfl⟩ := getElem?_of_set hx
      · exact .inl ⟨x', hx, rfl, rfl⟩
      · cases hs
        subst he
        exact .inr ⟨_, rfl, rfl, ⟨y, rfl, _, job, hy, hstage, hj⟩, hp, .inl ⟨hf, rfl⟩⟩
  | @loadAdmitted g' y first strategy' epoch' job hy hstage hj he hr hp hc hf =>
      obtain hx | ⟨rfl, rfl⟩ := getElem?_of_set hx
      · exact .inl ⟨x', hx, rfl, rfl⟩
      · cases hs
        subst he
        exact .inr ⟨_, rfl, rfl, ⟨y, rfl, _, job, hy, hstage, hj⟩, hp,
          .inr ⟨rfl, rfl, List.getElem?_concat_length⟩⟩
  | advanced o =>
      obtain ⟨epochs, n, authorizations, inFlight, heq⟩ := advanceObjectEpoch_frame cfg s o
      rw [heq] at hx
      exact .inl ⟨x', hx, rfl, rfl⟩
  | @observed i job outcome =>
      obtain ⟨trace, heq⟩ := observeSettlement_frame s i outcome
      rw [heq] at hx
      exact .inl ⟨x', hx, rfl, rfl⟩
  | @finished i job r =>
      obtain ⟨probes, authorizations, loads, inFlight, heq⟩ := finish_frame s i job r
      rw [heq] at hx
      exact .inl ⟨x', hx, rfl, rfl⟩

theorem result_of_jobs {j : Nat} (h : s'.jobs[j]? = s.jobs[j]?) : s'.result j = s.result j := by
  unfold result
  rw [h]

/-- A call which is only now admitted has not settled. -/
theorem result_admitted {j : Nat} {call : AdapterCall} {r : Except Failure (Answer α)}
    (hjobs : s'.jobs = s.jobs ++ [Job.mk call s.settledJobs .queued])
    (hr : s'.result j = some r) : s.result j = some r := by
  by_cases hlt : j < s.jobs.length
  · rw [← hr]
    exact (result_of_jobs (by rw [hjobs, List.getElem?_append_left hlt])).symm
  · unfold result at hr
    rw [hjobs, List.getElem?_append_right (Nat.le_of_not_lt hlt), List.getElem?_singleton] at hr
    by_cases hzero : j - s.jobs.length = 0
    · rw [if_pos hzero] at hr
      cases hr
    · rw [if_neg hzero] at hr
      cases hr

/-- Another call keeps its result, and so does a call which settles with the one it has. -/
theorem result_set {i j : Nat} {job : Job α} {status : Status α}
    {r : Except Failure (Answer α)} (hj : s.jobs[i]? = some job)
    (hjobs : s'.jobs = s.jobs.set i { job with status := status })
    (hr : s'.result j = some r) : s.result j = some r ∨ i = j ∧
      (status = .settled r ∨ status = .finished r) := by
  by_cases hij : i = j
  · subst hij
    refine .inr ⟨rfl, ?_⟩
    unfold result at hr
    rw [hjobs, List.getElem?_set_self (List.getElem?_eq_some_iff.mp hj).1] at hr
    cases status with
    | queued | called => cases hr
    | settled r' =>
        cases hr
        exact .inl rfl
    | finished r' =>
        cases hr
        exact .inr rfl
  · refine .inl ?_
    rw [← hr]
    exact (result_of_jobs (by rw [hjobs, List.getElem?_set_ne hij])).symm

/-- A load which has settled had settled before, or settles with the value its adapter has
delivered or with the one which is cached. -/
theorem Move.loaded (hm : Move cfg lax s s') (ha : Accounted cfg s) {j : Nat} {v : α}
    (hr : s'.result j = some (.ok (.loaded v)))
    (hload : ∃ job key, s.jobs[j]? = some job ∧ job.call = .load key) :
    s.result j = some (.ok (.loaded v)) ∨
      s'.trace = s.trace ∧ s'.gets = s.gets ∧ (∀ o, s'.epochFor o = s.epochFor o) ∧
        ∃ job key, s.jobs[j]? = some job ∧ job.call = .load key ∧
          (.fulfilled j (some v) ∈ s.trace ∨ key.epoch = s.epochFor key.structural ∧
            ∃ c, s.cache.get key.structural = some c ∧ c.value = v) := by
  obtain ⟨job, key, hjob, hcall⟩ := hload
  have moved {i : Nat} {job' : Job α} {status : Status α} (hj : s.jobs[i]? = some job')
      (hjobs : s'.jobs = s.jobs.set i { job' with status := status })
      (hstatus : i = j → status ≠ .settled (.ok (.loaded v)) ∧
        status ≠ .finished (.ok (.loaded v))) : s.result j = some (.ok (.loaded v)) := by
    obtain hr | ⟨hij, hst⟩ := result_set hj hjobs hr
    · exact hr
    · exact (hst.elim (hstatus hij).1 (hstatus hij).2).elim
  have settled {i : Nat} {job' : Job α} {key' : AccessKey} {w : α}
      (hj : s.jobs[i]? = some job') (hc : job'.call = .load key')
      (hjobs : s'.jobs = s.jobs.set i { job' with status := .settled (.ok (.loaded w)) })
      (hframe : s'.trace = s.trace ∧ s'.gets = s.gets ∧ ∀ o, s'.epochFor o = s.epochFor o)
      (hw : .fulfilled i (some w) ∈ s.trace ∨ key'.epoch = s.epochFor key'.structural ∧
        ∃ c, s.cache.get key'.structural = some c ∧ c.value = w) :
      s.result j = some (.ok (.loaded v)) ∨
        s'.trace = s.trace ∧ s'.gets = s.gets ∧ (∀ o, s'.epochFor o = s.epochFor o) ∧
          ∃ job key, s.jobs[j]? = some job ∧ job.call = .load key ∧
            (.fulfilled j (some v) ∈ s.trace ∨ key.epoch = s.epochFor key.structural ∧
              ∃ c, s.cache.get key.structural = some c ∧ c.value = v) := by
    obtain hr | ⟨rfl, hst | hst⟩ := result_set hj hjobs hr
    · exact .inl hr
    · cases hst
      exact .inr ⟨hframe.1, hframe.2.1, hframe.2.2, job', key', hj, hc, hw⟩
    · cases hst
  cases hm with
  | fault hfault => exact absurd hfault ha.sound
  | dropped | decided | started | canceled | waiting | hit | passed | joined
  | invalidatedAll | retired | evicted => exact .inl hr
  | probeAdmitted | authorizationAdmitted | loadAdmitted => exact .inl (result_admitted rfl hr)
  | attemptFailed first strategy e =>
      obtain ⟨stage, new, -, -, heq⟩ := failAttempt_eq_set s _ _ first strategy e
      rw [heq] at hr
      exact .inl hr
  | cacheHit | loadResolved =>
      obtain ⟨new, -, heq⟩ := resolve_eq_set _ _ _ _
      rw [heq] at hr
      exact .inl hr
  | advanced o =>
      obtain ⟨epochs, n, authorizations, inFlight, heq⟩ := advanceObjectEpoch_frame cfg s o
      rw [heq] at hr
      exact .inl hr
  | called hj => exact .inl (moved hj rfl fun _ => ⟨nofun, nofun⟩)
  | @observed i job' outcome =>
      obtain ⟨trace, heq⟩ := observeSettlement_frame s i outcome
      rw [heq] at hr
      exact .inl hr
  | probeSettled r hj hs hc | authorizationSettled r hj hs hc =>
      -- The call is not a load.
      refine .inl (moved hj rfl fun hij => ?_)
      subst hij
      rw [hjob] at hj
      cases hj
      rw [hc] at hcall
      cases hcall
  | granted hj => exact .inl (moved hj rfl fun _ => ⟨nofun, nofun⟩)
  | loadFailed e hj => exact .inl (moved hj rfl fun _ => ⟨nofun, nofun⟩)
  | loadOutdated hj hs hc hf => exact settled hj hc rfl ⟨rfl, rfl, fun _ => rfl⟩ (.inl hf)
  | @loadSuperseded i job' key' c hj hs hc hr he hcache =>
      exact settled hj hc rfl ⟨rfl, rfl, fun _ => rfl⟩ (.inr ⟨he.symm, c, hcache, rfl⟩)
  | loadOversize hj hs hc hr he hf => exact settled hj hc rfl ⟨rfl, rfl, fun _ => rfl⟩ (.inl hf)
  | stored hj hs hc hr he hf => exact settled hj hc rfl ⟨rfl, rfl, fun _ => rfl⟩ (.inl hf)
  | @finished i job' r hj hs =>
      obtain ⟨probes, authorizations, loads, inFlight, heq⟩ := finish_frame s i job' r
      rw [heq] at hr
      obtain hr | ⟨rfl, hst | hst⟩ := result_set hj rfl hr
      · exact .inl hr
      · cases hst
      · cases hst
        refine .inl ?_
        unfold result
        rw [hj]
        obtain ⟨call, behind, status⟩ := job'
        cases hs
        rfl

/-- Where the descriptors come from which the cache holds, which loads have produced, and
which a `get` waits for. -/
structure FreshBook (s : MetadataRepositoryRuntime α) : Prop where
  cached : ∀ o c, s.cache.get o = some c →
    ∃ j, Provides s.trace o c.value j ∧ Fresh o j s.trace
  loading : ∀ (g : Nat) (x : Get) fallback strategy epoch j, s.gets[g]? = some x →
    x.stage = .loading fallback strategy epoch j →
    ∃ job key, s.jobs[j]? = some job ∧ job.call = .load key ∧
      key = x.lookup.accessKey strategy epoch ∧ FreshFor g x.lookup.structural j s.trace
  loaded : ∀ j job key v, s.jobs[j]? = some job → job.call = .load key →
    s.result j = some (.ok (.loaded v)) → ∃ i, Provides s.trace key.structural v i ∧
      (key.epoch = s.epochFor key.structural → Fresh key.structural i s.trace) ∧
      ∀ (g : Nat) (x : Get) fallback strategy epoch, s.gets[g]? = some x →
        x.stage = .loading fallback strategy epoch j → FreshFor g key.structural i s.trace
  law : History.Each FreshLaw s.trace
  retired : s.retired = true → ∀ o, s.cache.get o = none

theorem freshBook_initial : FreshBook (initial : MetadataRepositoryRuntime α) := by
  constructor <;> simp [initial, History.Each]

/-- A `get` which runs started in the past, so what is new does not start it. -/
theorem Progress.freshFor (hp : Progress s s' new) {g j : Nat} {o : MetadataStructuralKey}
    (hg : g < s.gets.length) (hf : FreshFor g o j s.trace) : FreshFor g o j s'.trace := by
  rw [hp.trace]
  exact hf.append fun l hmem => absurd (hp.started g l hmem).1 (Nat.ne_of_lt hg)

theorem lt_of_getElem? {β : Type} {l : List β} {i : Nat} {a : β} (h : l[i]? = some a) :
    i < l.length :=
  (List.getElem?_eq_some_iff.mp h).1

/-- A call which has settled was there before. -/
theorem Progress.settled (hp : Progress s s' new) {j : Nat} {job' : Job α}
    {r : Except Failure (Answer α)} (hj : s'.jobs[j]? = some job') (hr : s'.result j = some r) :
    ∃ job, s.jobs[j]? = some job ∧ job'.call = job.call := by
  obtain ⟨job, hjob, hcall, -⟩ | ⟨-, hqueued, -⟩ := hp.jobs j job' hj
  · exact ⟨job, hjob, hcall⟩
  · unfold result at hr
    rw [hj, hqueued] at hr
    cases hr

theorem FreshBook.move (h : FreshBook s) (hd : Dated s) (hb : Counted cfg s)
    (ha : Accounted cfg s) (hm : Move cfg lax s s') : FreshBook s' := by
  obtain ⟨new, hp, ho⟩ := hm.progress ha
  have provides {o : MetadataStructuralKey} {v : α} {j : Nat} (hv : Provides s.trace o v j) :
      Provides s'.trace o v j := by
    rw [hp.trace]
    exact hv.append
  have own {j : Nat} {job : Job α} {key : AccessKey} {v : α} (hj : s.jobs[j]? = some job)
      (hc : job.call = .load key) (hf : .fulfilled j (some v) ∈ s.trace) :
      Provides s.trace key.structural v j :=
    ⟨key, rfl, hc ▸ hd.jobs j job hj, hf⟩
  have current {j : Nat} {job : Job α} {key : AccessKey} (hj : s.jobs[j]? = some job)
      (hc : job.call = .load key) : key.epoch = s.epochFor key.structural →
        Fresh key.structural j s.trace :=
    (hd.keys j job key hj (by rw [hc]; rfl)).2
  constructor
  · intro o c hc
    obtain ⟨hc, hkeep⟩ | ⟨j, job, key, hj, hload, rfl, he, hf, -, htrace⟩ := hm.cached ha hc
    · obtain ⟨j, hprov, hfresh⟩ := h.cached o c hc
      exact ⟨j, provides hprov, hkeep j hfresh⟩
    · rw [htrace]
      exact ⟨j, own hj hload hf, current hj hload he⟩
  · intro g x' fallback strategy epoch j hx hs
    obtain ⟨x, hx, hlookup, hstage⟩ | ⟨key, hkey, he, ⟨x, -, -, -, hx, -⟩, -, hf⟩ :=
      hm.loading ha hx hs
    · obtain ⟨job, key, hj, hc, hkey, hfresh⟩ :=
        h.loading g x fallback strategy epoch j hx (hstage.trans hs)
      obtain ⟨job', hj', hcall, -⟩ := hp.kept j job hj
      rw [hlookup] at hkey hfresh
      exact ⟨job', key, hj', hcall.trans hc, hkey, hp.freshFor (lt_of_getElem? hx) hfresh⟩
    · have hstructural : x'.lookup.structural = key.structural := by rw [hkey]; rfl
      have hcurrent : key.epoch = s.epochFor key.structural := by rw [← he, hkey]; rfl
      rw [hstructural]
      obtain ⟨hf, -⟩ | ⟨rfl, -, hjob⟩ := hf
      · obtain ⟨job, hj, hc, -⟩ := hb.tracked key j hf
        obtain ⟨job', hj', hcall, -⟩ := hp.kept j job hj
        exact ⟨job', key, hj', hcall.trans hc, hkey,
          hp.freshFor (lt_of_getElem? hx) (current hj hc hcurrent).freshFor⟩
      · exact ⟨_, key, hjob, rfl, hkey,
          hp.freshFor (lt_of_getElem? hx) (hd.fresh_next key.structural).freshFor⟩
  · intro j job' key v hj' hc' hr
    obtain ⟨job, hj, hcall⟩ := hp.settled hj' hr
    have hc : job.call = .load key := hcall ▸ hc'
    obtain hr | ⟨htrace, hgets, hepoch, job₁, key₁, hj₁, hc₁, hv⟩ :=
      hm.loaded ha hr ⟨job, key, hj, hc⟩
    · obtain ⟨i, hprov, hfresh, hwait⟩ := h.loaded j job key v hj hc hr
      have hle := (hd.keys j job key hj (by rw [hc]; rfl)).1
      refine ⟨i, provides hprov, fun he => hp.fresh hle he hfresh, ?_⟩
      intro g x' fallback strategy epoch hx hs
      obtain ⟨x, hx, hlookup, hstage⟩ | ⟨key', hkey', he', ⟨x, -, -, -, hx, -⟩, -, hf⟩ :=
        hm.loading ha hx hs
      · exact hp.freshFor (lt_of_getElem? hx)
          (hwait g x fallback strategy epoch hx (hstage.trans hs))
      · -- The `get` joins the load in the epoch of both.
        obtain ⟨hf, -⟩ | ⟨rfl, -⟩ := hf
        · obtain ⟨job₂, hj₂, hc₂, -⟩ := hb.tracked key' j hf
          rw [hj] at hj₂
          cases hj₂
          obtain rfl : key = key' := by
            rw [hc] at hc₂
            cases hc₂
            rfl
          have hcurrent : key.epoch = s.epochFor key.structural := by rw [← he', hkey']; rfl
          exact hp.freshFor (lt_of_getElem? hx) (hfresh hcurrent).freshFor
        · exact absurd (lt_of_getElem? hj) (Nat.lt_irrefl _)
    · rw [hj] at hj₁
      cases hj₁
      obtain rfl : key = key₁ := by
        rw [hc] at hc₁
        cases hc₁
        rfl
      rw [htrace, hgets, hepoch]
      obtain hf | ⟨-, c, hcache, rfl⟩ := hv
      · refine ⟨j, own hj hc hf, current hj hc, ?_⟩
        intro g x fallback strategy epoch hx hs
        obtain ⟨job₂, key₂, hj₂, hc₂, hkey₂, hfresh⟩ := h.loading g x fallback strategy epoch j hx hs
        rw [hj] at hj₂
        cases hj₂
        rw [hc] at hc₂
        cases hc₂
        rw [hkey₂]
        exact hfresh
      · obtain ⟨i, hprov, hfresh⟩ := h.cached key.structural c hcache
        exact ⟨i, hprov, fun _ => hfresh, fun g _ _ _ _ _ _ => hfresh.freshFor⟩
  · rw [hp.trace]
    cases ho with
    | none => exact h.law
    | retired => exact ⟨trivial, trivial, h.law⟩
    | @one a hjust =>
        refine ⟨?_, h.law⟩
        cases a with
        | resolved g v =>
            obtain ⟨x, strategy, c, ⟨-, -, hx, -⟩, -, hc, rfl⟩ |
              ⟨x, fallback, strategy, epoch, j, hx, hs, hr⟩ := hjust
            · obtain ⟨i, hprov, hfresh⟩ := h.cached x.lookup.structural c hc
              exact ⟨x.lookup, i, (hd.gets g x hx).1, hprov, hfresh.freshFor⟩
            · obtain ⟨job, key, hj, hc, hkey, -⟩ := h.loading g x fallback strategy epoch j hx hs
              obtain ⟨i, hprov, -, hwait⟩ := h.loaded j job key v hj hc hr
              have hfresh := hwait g x fallback strategy epoch hx hs
              rw [hkey] at hprov hfresh
              exact ⟨x.lookup, i, (hd.gets g x hx).1, hprov, hfresh⟩
        | started | canceled | invalidated | invalidatedAll | retired | admitted | called
        | fulfilled | rejected | passed | joined | refused => trivial
  · intro hr o
    obtain hsame | ⟨hempty, -⟩ := hp.retired
    · rw [hsame] at hr
      cases hc : s'.cache.get o with
      | none => rfl
      | some c =>
          obtain ⟨hc, -⟩ | ⟨j, job, key, -, -, -, -, -, hopen, -⟩ := hm.cached ha hc
          · rw [h.retired hr] at hc
            cases hc
          · rw [hr] at hopen
            cases hopen
    · rw [hempty]
      rfl

/-- A `get` starts once. -/
theorem Dated.started_once (h : Dated s) {g : Nat} {l l' : MetadataLookup}
    (hl : .started g l ∈ s.trace) (hl' : .started g l' ∈ s.trace) : l = l' := by
  obtain ⟨x, hx, rfl⟩ := h.started g l hl
  obtain ⟨x', hx', rfl⟩ := h.started g l' hl'
  rw [hx] at hx'
  cases hx'
  rfl

theorem reachable_freshBook (hs : (machine α cfg).Reachable s) : FreshBook s :=
  (invariant_of_moves (P := fun s => Counted cfg s ∧ Dated s ∧ FreshBook s)
    ⟨counted_initial, dated_initial, freshBook_initial⟩
    (fun _ _ ha h hm => ⟨h.1.move ha hm, h.2.1.move ha hm, h.2.2.move h.2.1 h.1 ha hm⟩) hs).2.2

/-- Freshness of the cache and of what a `get` resolves with, in every run. -/
theorem freshness_reachable (hs : (machine α cfg).Reachable s) :
    (∀ o c, s.cache.get o = some c →
      ∃ j, Provides s.trace o c.value j ∧ Fresh o j s.trace) ∧
    History.Each FreshLaw s.trace ∧
    (∀ g l l', .started g l ∈ s.trace → .started g l' ∈ s.trace → l = l') ∧
    (s.retired = true → ∀ o, s.cache.get o = none) :=
  have h := reachable_freshBook hs
  ⟨h.cached, h.law, fun _ _ _ => (reachable_dated hs).started_once, h.retired⟩

/-- In a run which has loaded a descriptor the cache holds it, and its load is fresh. -/
theorem freshness_loadedOnce :
    ∃ (s : MetadataRepositoryRuntime Nat) (j : Nat),
      Provides s.trace (functionLookup "RFC_PING" "alice" .classic).structural 7 j ∧
        Fresh (functionLookup "RFC_PING" "alice" .classic).structural j s.trace := by
  obtain ⟨s, -, hs, hp⟩ := Machine.reachable_of_any (machine Nat oneDescriptor)
    (loadedOnce (functionLookup "RFC_PING" "alice" .classic))
    (fun s => (s.cache.get (functionLookup "RFC_PING" "alice" .classic).structural).any
      fun c => c.value == 7) (by decide +kernel)
  obtain ⟨c, hc, hv⟩ := (Option.any_eq_true _ _).mp hp
  obtain ⟨j, hprov, hfresh⟩ := (freshness_reachable hs).1 _ c hc
  rw [eq_of_beq hv] at hprov
  exact ⟨s, j, hprov, hfresh⟩

end MetadataRepositoryRuntime

end OpenRfc.Metadata
