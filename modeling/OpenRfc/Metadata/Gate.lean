import OpenRfc.Metadata.Freshness

/-!
The authorization gate. A `get` passes it, and resolves, only under an authorization of
its own capability, mode, object and strategy which no invalidation has outdated, and it
joins no load of another principal.
-/

namespace OpenRfc.Metadata

section
variable {α : Type} {o : MetadataStructuralKey} {l : MetadataLookup}
  {strategy : MetadataLoadStrategy} {g i j : Nat} {new h : List (Observation α)}

/-- An adapter call is made after its admission. -/
def CallLaw : Observation α → List (Observation α) → Prop
  | .called j call, past => .admitted j call ∈ past
  | _, _ => True

/-- The adapter call was made after the last invalidation of the object, if at all. -/
def CalledAfter (o : MetadataStructuralKey) (i : Nat) (h : List (Observation α)) : Prop :=
  History.Each (fun a past => a.Invalidates o → ∀ call, .called i call ∉ past) h

/-- The call `i` was made after the last invalidation of the object which preceded the
admission of the call `j`. -/
def Covers (o : MetadataStructuralKey) (i j : Nat) (h : List (Observation α)) : Prop :=
  History.Each (fun a past => (∃ call, a = .admitted j call) → CalledAfter o i past) h

/-- The newest passage of the `get` through the gate was with the strategy. -/
def LastPassed (g : Nat) (strategy : MetadataLoadStrategy) : List (Observation α) → Prop
  | [] => False
  | a :: past => a = .passed g strategy ∨
      (∀ strategy, a ≠ .passed g strategy) ∧ LastPassed g strategy past

/-- The adapter was called to authorize the lookup with the strategy, and did. -/
def Authorized (h : List (Observation α)) (l : MetadataLookup)
    (strategy : MetadataLoadStrategy) (i : Nat) : Prop :=
  ∃ epoch, .called i (.authorize (l.accessKey strategy epoch)) ∈ h ∧ .fulfilled i none ∈ h

/-- What a `get` may pass the gate with, join, and resolve with. -/
def GateLaw : Observation α → List (Observation α) → Prop
  | .passed g strategy, past => ∃ l i, .started g l ∈ past ∧ Authorized past l strategy i ∧
      CalledAfter l.structural i past
  | .joined g j, past => ∃ l strategy epoch, .started g l ∈ past ∧
      LastPassed g strategy past ∧ .admitted j (.load (l.accessKey strategy epoch)) ∈ past
  | .resolved g v, past => ∃ l strategy i j, .started g l ∈ past ∧
      LastPassed g strategy past ∧ Authorized past l strategy i ∧
      Provides past l.structural v j ∧ Covers l.structural i j past
  | _, _ => True

theorem called_admitted {call : AdapterCall} (hlaw : History.Each CallLaw h)
    (hc : .called i call ∈ h) : .admitted i call ∈ h := by
  induction h with
  | nil => cases hc
  | cons a past ih =>
      rw [List.mem_cons] at hc
      obtain rfl | hc := hc
      · exact List.mem_cons_of_mem _ hlaw.1
      · exact List.mem_cons_of_mem _ (ih hlaw.2 hc)

theorem Fresh.calledAfter (hf : Fresh o i h) (hlaw : History.Each CallLaw h) :
    CalledAfter o i h := by
  apply History.Each.mono _ (hf.and hlaw.past)
  rintro a past ⟨hfresh, hpast⟩ hinv call hc
  exact hfresh hinv call (called_admitted hpast hc)

theorem CalledAfter.covers (hc : CalledAfter o i h) : Covers o i j h := by
  apply History.Each.mono _ hc.past
  intro a past hpast _
  exact hpast

theorem Covers.append (hc : Covers o i j h) (hn : ∀ call, .admitted j call ∉ new) :
    Covers o i j (new ++ h) :=
  History.Each.append hc fun _ _ ha ⟨call, hcall⟩ => absurd (hcall ▸ ha) (hn call)

theorem LastPassed.append (hl : LastPassed g strategy h)
    (hn : ∀ strategy, .passed g strategy ∉ new) : LastPassed g strategy (new ++ h) := by
  induction new with
  | nil => exact hl
  | cons a new ih =>
      refine .inr ⟨?_, ih fun strategy hmem => hn strategy (List.mem_cons_of_mem a hmem)⟩
      rintro strategy rfl
      exact hn strategy List.mem_cons_self

theorem lastPassed_of_head (hh : h.head? = some (.passed g strategy)) :
    LastPassed g strategy h := by
  cases h with
  | nil => cases hh
  | cons a past =>
      cases hh
      exact .inl rfl

theorem Authorized.append (ha : Authorized h l strategy i) :
    Authorized (new ++ h) l strategy i := by
  obtain ⟨epoch, hc, hf⟩ := ha
  exact ⟨epoch, List.mem_append_right new hc, List.mem_append_right new hf⟩

end

namespace MetadataRepositoryRuntime
variable {α : Type} {cfg : Settings} {lax : Prop} {s s' : MetadataRepositoryRuntime α}
  {new : List (Observation α)}

/-- How an adapter call moves on. -/
inductive JobMove (s s' : MetadataRepositoryRuntime α) (j : Nat) (job job' : Job α) : Prop
  | called (h : job.status = .queued) (h' : job'.status = .called)
      (ht : s'.trace = .called j job.call :: s.trace)
  | settled (r : Except Failure (Answer α)) (h : job.status = .called)
      (h' : job'.status = .settled r)
      (hf : ∀ key, job.call = .authorize key → ∀ v, r = .ok v → .fulfilled j none ∈ s.trace)
  | finished (r : Except Failure (Answer α)) (h : job.status = .settled r)
      (h' : job'.status = .finished r)

/-- An adapter call is where it was, has just been admitted, or has moved on. -/
theorem Move.job (hm : Move cfg lax s s') (ha : Accounted cfg s) {j : Nat} {job' : Job α}
    (hj : s'.jobs[j]? = some job') : s.jobs[j]? = some job' ∨
      j = s.jobs.length ∧ job' = Job.mk job'.call s.settledJobs .queued ∨
      ∃ job, s.jobs[j]? = some job ∧ job.Continues job' ∧ JobMove s s' j job job' := by
  have admitted {call : AdapterCall}
      (hjobs : s'.jobs = s.jobs ++ [Job.mk call s.settledJobs .queued]) :
      s.jobs[j]? = some job' ∨ j = s.jobs.length ∧ job' = Job.mk job'.call s.settledJobs .queued ∨
      ∃ job, s.jobs[j]? = some job ∧ job.Continues job' ∧ JobMove s s' j job job' := by
    rw [hjobs, List.getElem?_append] at hj
    split at hj
    · exact .inl hj
    · rename_i hlt
      rw [List.getElem?_singleton] at hj
      split at hj
      · rename_i hzero
        cases hj
        exact .inr (.inl ⟨by omega, rfl⟩)
      · cases hj
  have moved {i : Nat} {job : Job α} {status : Status α} (hi : s.jobs[i]? = some job)
      (hjobs : s'.jobs = s.jobs.set i { job with status := status })
      (hmove : JobMove s s' i job { job with status := status }) :
      s.jobs[j]? = some job' ∨ j = s.jobs.length ∧ job' = Job.mk job'.call s.settledJobs .queued ∨
      ∃ job, s.jobs[j]? = some job ∧ job.Continues job' ∧ JobMove s s' j job job' := by
    rw [hjobs] at hj
    obtain hj | ⟨rfl, rfl⟩ := getElem?_of_set hj
    · exact .inl hj
    · exact .inr (.inr ⟨job, hi, ⟨rfl, rfl⟩, hmove⟩)
  cases hm with
  | fault hfault => exact absurd hfault ha.sound
  | dropped | decided | started | canceled | waiting | hit | passed | joined
  | invalidatedAll | retired | evicted => exact .inl hj
  | probeAdmitted | authorizationAdmitted | loadAdmitted => exact admitted rfl
  | attemptFailed first strategy e =>
      obtain ⟨stage, new, -, -, heq⟩ := failAttempt_eq_set s _ _ first strategy e
      rw [heq] at hj
      exact .inl hj
  | cacheHit | loadResolved =>
      obtain ⟨new, -, heq⟩ := resolve_eq_set _ _ _ _
      rw [heq] at hj
      exact .inl hj
  | advanced o =>
      obtain ⟨epochs, n, authorizations, inFlight, heq⟩ := advanceObjectEpoch_frame cfg s o
      rw [heq] at hj
      exact .inl hj
  | called hi hs => exact moved hi rfl (.called hs rfl rfl)
  | @observed i job outcome =>
      obtain ⟨trace, heq⟩ := observeSettlement_frame s i outcome
      rw [heq] at hj
      exact .inl hj
  | probeSettled r hi hs hc =>
      refine moved hi rfl (.settled r hs rfl fun key hkey => ?_)
      rw [hc] at hkey
      cases hkey
  | granted hi hs hc hf => exact moved hi rfl (.settled _ hs rfl fun _ _ _ _ => hf)
  | authorizationSettled r hi hs hc hf =>
      exact moved hi rfl (.settled r hs rfl fun _ _ v hv => hf v hv)
  | loadFailed e hi hs hc =>
      refine moved hi rfl (.settled _ hs rfl fun key hkey => ?_)
      rw [hc] at hkey
      cases hkey
  | loadOutdated hi hs hc | loadSuperseded hi hs hc | loadOversize hi hs hc | stored hi hs hc =>
      refine moved hi rfl (.settled _ hs rfl fun key hkey => ?_)
      rw [hc] at hkey
      cases hkey
  | @finished i job r hi hs =>
      obtain ⟨probes, authorizations, loads, inFlight, heq⟩ := finish_frame s i job r
      rw [heq] at hj moved ⊢
      exact moved hi rfl (.finished r hs rfl)

/-- A call which has settled keeps its result. -/
theorem Move.result (hm : Move cfg lax s s') (ha : Accounted cfg s) {j : Nat}
    {r : Except Failure (Answer α)} (hr : s.result j = some r) : s'.result j = some r := by
  obtain ⟨new, hp, -⟩ := hm.progress ha
  cases hj : s.jobs[j]? with
  | none =>
      unfold MetadataRepositoryRuntime.result at hr
      rw [hj] at hr
      cases hr
  | some job =>
      obtain ⟨job', hj', -⟩ := hp.kept j job hj
      obtain hsame | ⟨rfl, -⟩ | ⟨job₁, hj₁, -, hmove⟩ := hm.job ha hj'
      · rw [← hr]
        exact result_of_jobs (hj'.trans hsame.symm)
      · exact absurd (lt_of_getElem? hj) (Nat.lt_irrefl _)
      · rw [hj] at hj₁
        cases hj₁
        obtain ⟨call, behind, status⟩ := job
        obtain ⟨call', behind', status'⟩ := job'
        unfold MetadataRepositoryRuntime.result at hr ⊢
        rw [hj] at hr
        rw [hj']
        cases hmove with
        | called h => cases h; cases hr
        | settled _ h => cases h; cases hr
        | finished _ h h' => cases h; cases h'; exact hr

theorem Move.succeeded (hm : Move cfg lax s s') (ha : Accounted cfg s) {j : Nat}
    (h : s.Succeeded j) : s'.Succeeded j := by
  obtain ⟨v, hv⟩ := h
  exact ⟨v, hm.result ha hv⟩

/-- The call of an authorization. -/
def Requests (jobs : List (Job α)) (key : AccessKey) (j : Nat) : Prop :=
  ∃ job, jobs[j]? = some job ∧ job.call = .authorize key

/-- An authorization which the adapter has granted. -/
def Granted (s : MetadataRepositoryRuntime α) (key : AccessKey) (j : Nat) : Prop :=
  Requests s.jobs key j ∧ s.Succeeded j

theorem Progress.requests (hp : Progress s s' new) {key : AccessKey} {j : Nat}
    (h : Requests s.jobs key j) : Requests s'.jobs key j := by
  obtain ⟨job, hj, hc⟩ := h
  obtain ⟨job', hj', hcall, -⟩ := hp.kept j job hj
  exact ⟨job', hj', hcall.trans hc⟩

/-- An advance of an object's epoch keeps no authorization whose epoch it changes, other
than those of the object itself. -/
theorem advanceObjectEpoch_authorization {o : MetadataStructuralKey} {k : AccessKey}
    {e : AuthorizationEntry} (hne : k.structural ≠ o)
    (hk : (s.advanceObjectEpoch cfg o).authorizations.get k = some e) :
    s.authorizations.get k = some e ∧
      (s.advanceObjectEpoch cfg o).epochFor k.structural = s.epochFor k.structural := by
  unfold advanceObjectEpoch at hk ⊢
  cases hn : s.objectEpochs.get o with
  | some n =>
      rw [hn] at hk
      refine ⟨hk, ?_⟩
      unfold epochFor
      dsimp only
      rw [OrderedMap.get_touch, if_neg hne]
  | none =>
      rw [hn] at hk
      dsimp only at hk ⊢
      by_cases hroom : s.objectEpochs.size < cfg.maxObjectEpochEntries
      · rw [if_pos hroom] at hk ⊢
        refine ⟨hk, ?_⟩
        unfold epochFor
        dsimp only
        rw [OrderedMap.get_set, if_neg hne]
      · rw [if_neg hroom] at hk
        cases hk

/-- The adapter grants the authorization for which the call `j` was admitted. -/
structure Grants (s s' : MetadataRepositoryRuntime α) (k : AccessKey) (j : Nat) : Prop where
  entry : s.authorizations.get k = some (.pending j)
  succeeded : s'.Succeeded j
  behind : ∀ (job : Job α), s.jobs[j]? = some job → ∀ i ∈ job.behind, ∃ r, s.finished i = some r
  active : s.retired = false
  current : s'.epochFor k.structural = k.epoch

/-- A `get` asks for the authorization, and awaits the call which has been admitted. -/
structure Asks (s s' : MetadataRepositoryRuntime α) (k : AccessKey) : Prop where
  requests : Requests s'.jobs k s.jobs.length
  active : s.retired = false
  awaits : ∃ (g : Nat) (x' : Get) (fallback : Bool) (strategy : MetadataLoadStrategy)
    (epoch : OperationEpoch), s'.gets[g]? = some x' ∧
      x'.stage = .authorizing fallback strategy epoch (some s.jobs.length) ∧
      k = x'.lookup.accessKey strategy epoch

/-- An entry of the table of authorizations was there before, or is the one of a call
which has just been admitted or granted. -/
theorem Move.authorization (hm : Move cfg lax s s') (ha : Accounted cfg s) {k : AccessKey}
    {e : AuthorizationEntry} (hk : s'.authorizations.get k = some e) :
    (s.authorizations.get k = some e ∧ s'.epochFor k.structural = s.epochFor k.structural) ∨
      (e = .pending s.jobs.length ∧ Asks s s' k) ∨
      ∃ j, e = .settled ∧ Grants s s' k j := by
  have retained {m : OrderedMap AccessKey AuthorizationEntry}
      {p : AccessKey → AuthorizationEntry → Bool} (h : (m.retain p).get k = some e) :
      m.get k = some e := by
    rw [OrderedMap.get_retain] at h
    exact (Option.filter_eq_some_iff.mp h).1
  cases hm with
  | fault hfault => exact absurd hfault ha.sound
  | dropped a hsub => exact .inl ⟨hsub k e hk, rfl⟩
  | decided | probeAdmitted | started | canceled | waiting | passed | joined | loadAdmitted
  | called | probeSettled | authorizationSettled | loadFailed | loadOutdated | loadSuperseded
  | stored => exact .inl ⟨hk, rfl⟩
  | hit fallback hx hr hm' he hget =>
      change (s.authorizations.touch _ _).get k = some e at hk
      rw [OrderedMap.get_touch_of_get hget] at hk
      exact .inl ⟨hk, rfl⟩
  | @authorizationAdmitted g x strategy epoch fallback a hx hr hm' he hsub =>
      change (a.set (x.lookup.accessKey strategy epoch) _).get k = some e at hk
      rw [OrderedMap.get_set] at hk
      split at hk
      · rename_i hkey
        cases hk
        subst hkey
        refine .inr (.inl ⟨rfl, ⟨_, List.getElem?_concat_length, rfl⟩, hr, g, _, fallback,
          strategy, epoch, List.getElem?_set_self (lt_of_getElem? hx), rfl, rfl⟩)
      · exact .inl ⟨hsub k e hk, rfl⟩
  | attemptFailed first strategy e' =>
      obtain ⟨stage, new, -, -, heq⟩ := failAttempt_eq_set s _ _ first strategy e'
      rw [heq] at hk ⊢
      exact .inl ⟨hk, rfl⟩
  | cacheHit | loadResolved =>
      obtain ⟨new, -, heq⟩ := resolve_eq_set _ _ _ _
      rw [heq] at hk ⊢
      exact .inl ⟨hk, rfl⟩
  | advanced o =>
      -- The entries which are kept are of objects whose epoch stays.
      have hne : k.structural ≠ o := by
        change ((s.advanceObjectEpoch cfg o).authorizations.retain
          fun k _ => k.structural ≠ o).get k = some e at hk
        rw [OrderedMap.get_retain] at hk
        simpa using (Option.filter_eq_some_iff.mp hk).2
      exact .inl (advanceObjectEpoch_authorization hne (retained hk))
  | invalidatedAll | retired => cases hk
  | evicted | loadOversize => exact .inl ⟨retained hk, rfl⟩
  | @observed i job outcome =>
      obtain ⟨trace, heq⟩ := observeSettlement_frame s i outcome
      rw [heq] at hk ⊢
      exact .inl ⟨hk, rfl⟩
  | @granted j job key hj hs hc hf hb ho hr he =>
      change (s.authorizations.set key _).get k = some e at hk
      rw [OrderedMap.get_set] at hk
      split at hk
      · rename_i hkey
        cases hk
        subst hkey
        refine .inr (.inr ⟨j, rfl, ho, ⟨.authorized, result_setStatus hj⟩, ?_, hr, he⟩)
        intro job' hj'
        rw [hj] at hj'
        cases hj'
        exact hb
      · exact .inl ⟨hk, rfl⟩
  | @finished i job r =>
      obtain ⟨probes, authorizations, loads, inFlight, heq⟩ := finish_frame s i job r
      rw [heq] at hk ⊢
      exact .inl ⟨hk, rfl⟩

/-- What the table of authorizations says of the one which a `get` is about to await. -/
def Awaited (s s' : MetadataRepositoryRuntime α) (key : AccessKey) : Option Nat → Prop
  | none => s.authorizations.get key = some .settled
  | some j => s.authorizations.get key = some (.pending j) ∨ Requests s'.jobs key j

/-- A `get` which awaits an authorization did so before, or has just found it in the table
or asked for it. -/
theorem Move.authorizing (hm : Move cfg lax s s') (ha : Accounted cfg s) {g : Nat} {x' : Get}
    {fallback : Bool} {strategy : MetadataLoadStrategy} {epoch : OperationEpoch}
    {job : Option Nat} (hx : s'.gets[g]? = some x')
    (hs : x'.stage = .authorizing fallback strategy epoch job) :
    (∃ x, s.gets[g]? = some x ∧ x.lookup = x'.lookup ∧ x.stage = x'.stage) ∨
      Awaited s s' (x'.lookup.accessKey strategy epoch) job := by
  have moved {g' : Nat} {y : Get} {stage : Stage} (hy : s.gets[g']? = some y)
      (hset : (s.gets.set g' { y with stage := stage })[g]? = some x')
      (hstage : stage ≠ .authorizing fallback strategy epoch job) :
      ∃ x, s.gets[g]? = some x ∧ x.lookup = x'.lookup ∧ x.stage = x'.stage := by
    obtain hx | ⟨rfl, rfl⟩ := getElem?_of_set hset
    · exact ⟨x', hx, rfl, rfl⟩
    · exact absurd hs hstage
  cases hm with
  | fault hfault => exact absurd hfault ha.sound
  | dropped | decided | probeAdmitted | passed | invalidatedAll | retired | evicted | called
  | probeSettled | granted | authorizationSettled | loadFailed | loadOutdated | loadSuperseded
  | loadOversize | stored => exact .inl ⟨x', hx, rfl, rfl⟩
  | started l selection hr =>
      change (s.gets ++ [_])[g]? = some x' at hx
      rw [List.getElem?_append] at hx
      split at hx
      · exact .inl ⟨x', hx, rfl, rfl⟩
      · rw [List.getElem?_singleton] at hx
        split at hx
        · cases hx
          cases hs
        · cases hx
  | @canceled g' y hy =>
      obtain hx | ⟨rfl, rfl⟩ := getElem?_of_set hx
      · exact .inl ⟨x', hx, rfl, rfl⟩
      · exact .inl ⟨y, hy, rfl, rfl⟩
  | attemptFailed first strategy' e hy =>
      obtain ⟨stage, new, hstage, -, heq⟩ := failAttempt_eq_set s _ _ first strategy' e
      rw [heq] at hx
      refine .inl (moved hy hx ?_)
      obtain ⟨-, rfl⟩ | ⟨-, rfl⟩ := hstage <;> exact nofun
  | waiting first hy hr hm' he hget | hit first hy hr hm' he hget =>
      obtain hx | ⟨rfl, rfl⟩ := getElem?_of_set hx
      · exact .inl ⟨x', hx, rfl, rfl⟩
      · cases hs
        first
          | exact .inr (.inl hget)
          | exact .inr hget
  | authorizationAdmitted first a hy =>
      obtain hx | ⟨rfl, rfl⟩ := getElem?_of_set hx
      · exact .inl ⟨x', hx, rfl, rfl⟩
      · cases hs
        exact .inr (.inr ⟨_, List.getElem?_concat_length, rfl⟩)
  | cacheHit hy | loadResolved hy =>
      obtain ⟨new, -, heq⟩ := resolve_eq_set _ _ _ _
      rw [heq] at hx
      exact .inl (moved hy hx nofun)
  | joined hy | loadAdmitted hy => exact .inl (moved hy hx nofun)
  | advanced o =>
      obtain ⟨epochs, n, authorizations, inFlight, heq⟩ := advanceObjectEpoch_frame cfg s o
      rw [heq] at hx
      exact .inl ⟨x', hx, rfl, rfl⟩
  | @observed i job' outcome =>
      obtain ⟨trace, heq⟩ := observeSettlement_frame s i outcome
      rw [heq] at hx
      exact .inl ⟨x', hx, rfl, rfl⟩
  | @finished i job' r =>
      obtain ⟨probes, authorizations, loads, inFlight, heq⟩ := finish_frame s i job' r
      rw [heq] at hx
      exact .inl ⟨x', hx, rfl, rfl⟩

/-- The authorizations on which the gate relies. -/
structure Gate (s : MetadataRepositoryRuntime α) : Prop where
  settled : ∀ key, s.authorizations.get key = some .settled → ∃ j, Granted s key j
  pending : ∀ key j, s.authorizations.get key = some (.pending j) → Requests s.jobs key j
  awaited : ∀ (g : Nat) (x : Get) fallback strategy epoch job, s.gets[g]? = some x →
    x.stage = .authorizing fallback strategy epoch job →
      match job with
      | none => ∃ j, Granted s (x.lookup.accessKey strategy epoch) j
      | some j => Requests s.jobs (x.lookup.accessKey strategy epoch) j
  called : ∀ (j : Nat) (job : Job α), s.jobs[j]? = some job → job.status ≠ .queued →
    .called j job.call ∈ s.trace
  granted : ∀ (j : Nat) (job : Job α) key, s.jobs[j]? = some job → job.call = .authorize key →
    s.Succeeded j → .fulfilled j none ∈ s.trace

theorem gate_initial : Gate (initial : MetadataRepositoryRuntime α) := by
  constructor <;> simp [initial]

theorem Move.granted_keep (hm : Move cfg lax s s') (ha : Accounted cfg s) {key : AccessKey}
    {j : Nat} (h : Granted s key j) : Granted s' key j := by
  obtain ⟨new, hp, -⟩ := hm.progress ha
  exact ⟨hp.requests h.1, hm.succeeded ha h.2⟩

theorem Gate.move (h : Gate s) (ha : Accounted cfg s) (hm : Move cfg lax s s') : Gate s' := by
  obtain ⟨new, hp, -⟩ := hm.progress ha
  constructor
  · intro key hk
    obtain ⟨hk, -⟩ | ⟨he, -⟩ | ⟨j, -, hj⟩ := hm.authorization ha hk
    · obtain ⟨j, hj⟩ := h.settled key hk
      exact ⟨j, hm.granted_keep ha hj⟩
    · cases he
    · exact ⟨j, hp.requests (h.pending key j hj.entry), hj.succeeded⟩
  · intro key j hk
    obtain ⟨hk, -⟩ | ⟨he, hasks⟩ | ⟨i, he, -⟩ := hm.authorization ha hk
    · exact hp.requests (h.pending key j hk)
    · cases he
      exact hasks.requests
    · cases he
  · intro g x' fallback strategy epoch job hx hs
    obtain ⟨x, hx, hlookup, hstage⟩ | hwait := hm.authorizing ha hx hs
    · have := h.awaited g x fallback strategy epoch job hx (hstage.trans hs)
      rw [hlookup] at this
      cases job with
      | none =>
          obtain ⟨j, hj⟩ := this
          exact ⟨j, hm.granted_keep ha hj⟩
      | some j => exact hp.requests this
    · cases job with
      | none =>
          obtain ⟨j, hj⟩ := h.settled _ hwait
          exact ⟨j, hm.granted_keep ha hj⟩
      | some j =>
          obtain hwait | hreq := hwait
          · exact hp.requests (h.pending _ j hwait)
          · exact hreq
  · intro j job' hj hq
    rw [hp.trace]
    obtain hj | ⟨-, hnew⟩ | ⟨job, hj, ⟨hcall, -⟩, hmove⟩ := hm.job ha hj
    · exact List.mem_append_right new (h.called j job' hj hq)
    · rw [hnew] at hq
      exact absurd rfl hq
    · cases hmove with
      | called hs hs' ht =>
          rw [← hp.trace, ht, hcall]
          exact List.mem_cons_self
      | settled r hs =>
          rw [hcall]
          exact List.mem_append_right new (h.called j job hj (by rw [hs]; exact nofun))
      | finished r hs =>
          rw [hcall]
          exact List.mem_append_right new (h.called j job hj (by rw [hs]; exact nofun))
  · intro j job' key hj hc hsucc
    rw [hp.trace]
    have same {job : Job α} (hj₀ : s.jobs[j]? = some job) (hc₀ : job.call = .authorize key)
        (h₀ : s.Succeeded j) : .fulfilled j none ∈ new ++ s.trace :=
      List.mem_append_right new (h.granted j job key hj₀ hc₀ h₀)
    obtain ⟨v, hv⟩ := hsucc
    obtain hj₀ | ⟨-, hnew⟩ | ⟨job, hj₀, ⟨hcall, -⟩, hmove⟩ := hm.job ha hj
    · exact same hj₀ hc ⟨v, (result_of_jobs (hj.trans hj₀.symm)).symm.trans hv⟩
    · unfold MetadataRepositoryRuntime.result at hv
      rw [hj, hnew] at hv
      cases hv
    · obtain ⟨call', behind', status'⟩ := job'
      obtain ⟨call, behind, status⟩ := job
      unfold MetadataRepositoryRuntime.result at hv
      rw [hj] at hv
      cases hmove with
      | called hs hs' =>
          cases hs'
          cases hv
      | settled r hs hs' hf =>
          cases hs'
          cases hv
          exact List.mem_append_right new (hf key (hcall.symm.trans hc) v rfl)
      | finished r hs hs' =>
          cases hs
          cases hs'
          refine same hj₀ (hcall.symm.trans hc) ⟨v, ?_⟩
          unfold MetadataRepositoryRuntime.result
          rw [hj₀]
          exact hv

/-- What is admitted, passed or joined by an observation which a move has just made. -/
theorem Observes.passed {g : Nat} {strategy : MetadataLoadStrategy} (ho : Observes s new)
    (h : .passed g strategy ∈ new) : ∃ x, s.Admissible g x strategy := by
  cases ho with
  | none => cases h
  | retired => simp at h
  | one hj =>
      rw [List.mem_singleton] at h
      subst h
      exact hj

theorem Dated.callLaw (h : Dated s) (ho : Observes s new)
    (hlaw : History.Each CallLaw s.trace) : History.Each CallLaw (new ++ s.trace) := by
  cases ho with
  | none => exact hlaw
  | retired => exact ⟨trivial, trivial, hlaw⟩
  | @one a hj =>
      refine ⟨?_, hlaw⟩
      cases a with
      | called j call =>
          obtain ⟨job, hjob, rfl⟩ := hj
          exact h.jobs j job hjob
      | started | canceled | invalidated | invalidatedAll | retired | admitted | fulfilled
      | rejected | passed | joined | resolved | refused => trivial

theorem not_queued_of_result {j : Nat} {job : Job α} {r : Except Failure (Answer α)}
    (hj : s.jobs[j]? = some job) (hr : s.result j = some r) : job.status ≠ .queued := by
  intro hq
  obtain ⟨call, behind, status⟩ := job
  cases hq
  unfold result at hr
  rw [hj] at hr
  cases hr

/-- An authorization which has been granted was called, and has been fulfilled. -/
theorem Gate.authorized (h : Gate s) {l : MetadataLookup} {strategy : MetadataLoadStrategy}
    {epoch : OperationEpoch} {i : Nat} (hi : Granted s (l.accessKey strategy epoch) i) :
    Authorized s.trace l strategy i := by
  obtain ⟨⟨job, hj, hc⟩, v, hv⟩ := hi
  refine ⟨epoch, ?_, h.granted i job _ hj hc ⟨v, hv⟩⟩
  rw [← hc]
  exact h.called i job hj (not_queued_of_result hj hv)

/-- A `get` passes the gate under an authorization which no invalidation has outdated. -/
theorem Gate.admissible (h : Gate s) (hd : Dated s) (hlaw : History.Each CallLaw s.trace)
    {g : Nat} {x : Get} {strategy : MetadataLoadStrategy} (hx : s.Admissible g x strategy) :
    ∃ i, Authorized s.trace x.lookup strategy i ∧ CalledAfter x.lookup.structural i s.trace := by
  obtain ⟨fallback, job, hget, hs, hj⟩ := hx
  have granted : ∃ i, Granted s
      (x.lookup.accessKey strategy (s.epochFor x.lookup.structural)) i := by
    have := h.awaited g x fallback strategy _ job hget hs
    cases job with
    | none => exact this
    | some j => exact ⟨j, this, hj j rfl⟩
  obtain ⟨i, hi⟩ := granted
  obtain ⟨job, hjob, hc⟩ := hi.1
  have hfresh := (hd.keys i job _ hjob (by rw [hc]; rfl)).2 rfl
  exact ⟨i, h.authorized hi, hfresh.calledAfter hlaw⟩

/-- The authorizations of the gets which wait for a load, and the loads which have
produced a value for them. -/
structure GateBook (s : MetadataRepositoryRuntime α) : Prop where
  calls : History.Each CallLaw s.trace
  loading : ∀ (g : Nat) (x : Get) fallback strategy epoch j, s.gets[g]? = some x →
    x.stage = .loading fallback strategy epoch j → LastPassed g strategy s.trace ∧
      epoch.Le (s.epochFor x.lookup.structural) ∧
      ∃ i, Authorized s.trace x.lookup strategy i ∧ Covers x.lookup.structural i j s.trace ∧
        (epoch = s.epochFor x.lookup.structural → CalledAfter x.lookup.structural i s.trace)
  loaded : ∀ j job key v, s.jobs[j]? = some job → job.call = .load key →
    s.result j = some (.ok (.loaded v)) → ∃ p, Provides s.trace key.structural v p ∧
      ∀ (g : Nat) (x : Get) fallback strategy epoch, s.gets[g]? = some x →
        x.stage = .loading fallback strategy epoch j →
          ∃ i, Authorized s.trace x.lookup strategy i ∧ Covers key.structural i p s.trace
  law : History.Each GateLaw s.trace

theorem gateBook_initial : GateBook (initial : MetadataRepositoryRuntime α) := by
  constructor <;> simp [initial, History.Each]

theorem Progress.calledAfter (hp : Progress s s' new) {o : MetadataStructuralKey} {i : Nat}
    {epoch : OperationEpoch} (hle : epoch.Le (s.epochFor o)) (he : epoch = s'.epochFor o)
    (hc : epoch = s.epochFor o → CalledAfter o i s.trace) : CalledAfter o i s'.trace := by
  have hsame : epoch = s.epochFor o := hle.antisymm (he ▸ hp.epochs o)
  rw [hp.trace]
  exact History.Each.append (hc hsame)
    fun a _ ha hinv => absurd hinv (hp.aged o (he.symm.trans hsame) a ha)

/-- A call which is there has been admitted before anything new. -/
theorem Progress.covers (hp : Progress s s' new) {o : MetadataStructuralKey} {i j : Nat}
    (hj : j < s.jobs.length) (hc : Covers o i j s.trace) : Covers o i j s'.trace := by
  rw [hp.trace]
  exact hc.append fun call hmem => absurd (hp.admitted j call hmem).1 (Nat.ne_of_lt hj)

theorem Dated.lt_of_provides {o : MetadataStructuralKey} {v : α} {p : Nat} (hd : Dated s)
    (h : Provides s.trace o v p) : p < s.jobs.length := by
  obtain ⟨key, -, hadmitted, -⟩ := h
  exact hd.admitted p _ hadmitted

theorem Progress.authorized (hp : Progress s s' new) {l : MetadataLookup}
    {strategy : MetadataLoadStrategy} {i : Nat} (h : Authorized s.trace l strategy i) :
    Authorized s'.trace l strategy i := by
  rw [hp.trace]
  exact h.append

/-- A `get` which waits for a load does not pass the gate. -/
theorem Progress.lastPassed (hp : Progress s s' new) (ho : Observes s new) {g j : Nat} {x : Get}
    {fallback : Bool} {strategy : MetadataLoadStrategy} {epoch : OperationEpoch}
    (hx : s.gets[g]? = some x) (hs : x.stage = .loading fallback strategy epoch j)
    (hl : LastPassed g strategy s.trace) : LastPassed g strategy s'.trace := by
  rw [hp.trace]
  refine hl.append fun strategy' hmem => ?_
  obtain ⟨y, first, job, hy, hstage, -⟩ := ho.passed hmem
  rw [hx] at hy
  cases hy
  rw [hs] at hstage
  cases hstage

theorem GateBook.move (h : GateBook s) (hg : Gate s) (hf : FreshBook s) (hd : Dated s)
    (hb : Counted cfg s) (ha : Accounted cfg s) (hm : Move cfg lax s s') : GateBook s' := by
  obtain ⟨new, hp, ho⟩ := hm.progress ha
  constructor
  · rw [hp.trace]
    exact hd.callLaw ho h.calls
  · intro g x' fallback strategy epoch j hx hs
    obtain ⟨x, hx, hlookup, hstage⟩ | ⟨key, hkey, he, ⟨x, hlookup, hadm⟩, hhead, hf'⟩ :=
      hm.loading ha hx hs
    · rw [← hstage] at hs
      rw [← hlookup]
      obtain ⟨hlast, hle, i, hauth, hcov, hcur⟩ :=
        h.loading g x fallback strategy epoch j hx hs
      obtain ⟨job, key, hj, -⟩ := hf.loading g x fallback strategy epoch j hx hs
      exact ⟨hp.lastPassed ho hx hs hlast, hle.trans (hp.epochs _), i, hp.authorized hauth,
        hp.covers (lt_of_getElem? hj) hcov, fun he => hp.calledAfter hle he hcur⟩
    · obtain ⟨i, hauth, hcalled⟩ := hg.admissible hd h.calls hadm
      obtain rfl : epoch = s.epochFor x.lookup.structural := by
        rw [he, hkey, hlookup]
        rfl
      have hlast := lastPassed_of_head hhead
      have hobs : LastPassed g strategy s'.trace ∧ CalledAfter x.lookup.structural i s'.trace := by
        obtain ⟨-, ht⟩ | ⟨-, ht, -⟩ := hf' <;> rw [ht]
        · exact ⟨.inr ⟨nofun, hlast⟩, fun hinv => hinv.elim, hcalled⟩
        · exact ⟨.inr ⟨nofun, hlast⟩, fun hinv => hinv.elim, hcalled⟩
      rw [← hlookup]
      exact ⟨hobs.1, hp.epochs _, i, hp.authorized hauth, hobs.2.covers, fun _ => hobs.2⟩
  · intro j job' key v hj' hc' hr
    obtain ⟨job, hj, hcall⟩ := hp.settled hj' hr
    have hc : job.call = .load key := hcall ▸ hc'
    obtain hr | ⟨htrace, hgets, -, job₁, key₁, hj₁, hc₁, hv⟩ :=
      hm.loaded ha hr ⟨job, key, hj, hc⟩
    · obtain ⟨p, hprov, hwait⟩ := h.loaded j job key v hj hc hr
      refine ⟨p, ?_, ?_⟩
      · rw [hp.trace]
        exact hprov.append
      intro g x' fallback strategy epoch hx hs
      obtain ⟨x, hx, hlookup, hstage⟩ | ⟨key', hkey, he, ⟨x, hlookup, hadm⟩, hhead, hf'⟩ :=
        hm.loading ha hx hs
      · obtain ⟨i, hauth, hcov⟩ := hwait g x fallback strategy epoch hx (hstage.trans hs)
        rw [hlookup] at hauth
        exact ⟨i, hp.authorized hauth, hp.covers (hd.lt_of_provides hprov) hcov⟩
      · -- The `get` joins the load, so they are of one object.
        obtain ⟨i, hauth, hcalled⟩ := hg.admissible hd h.calls hadm
        have hstructural : key.structural = x.lookup.structural := by
          obtain ⟨hfl, -⟩ | ⟨rfl, -⟩ := hf'
          · obtain ⟨job₂, hj₂, hc₂, -⟩ := hb.tracked key' j hfl
            rw [hj] at hj₂
            cases hj₂
            rw [hc] at hc₂
            cases hc₂
            rw [hkey, hlookup]
            rfl
          · exact absurd (lt_of_getElem? hj) (Nat.lt_irrefl _)
        rw [← hlookup, hstructural]
        exact ⟨i, hp.authorized hauth, hp.covers (hd.lt_of_provides hprov) hcalled.covers⟩
    · rw [hj] at hj₁
      cases hj₁
      obtain rfl : key = key₁ := by
        rw [hc] at hc₁
        cases hc₁
        rfl
      rw [htrace, hgets]
      -- A `get` which waits for this load waits under its key.
      have waiting {g : Nat} {x : Get} {fallback : Bool} {strategy : MetadataLoadStrategy}
          {epoch : OperationEpoch} (hx : s.gets[g]? = some x)
          (hs : x.stage = .loading fallback strategy epoch j) :
          key = x.lookup.accessKey strategy epoch := by
        obtain ⟨job₂, key₂, hj₂, hc₂, hkey₂, -⟩ :=
          hf.loading g x fallback strategy epoch j hx hs
        rw [hj] at hj₂
        cases hj₂
        rw [hc] at hc₂
        cases hc₂
        exact hkey₂
      obtain hful | ⟨he, c, hcache, rfl⟩ := hv
      · refine ⟨j, ⟨key, rfl, hc ▸ hd.jobs j job hj, hful⟩, ?_⟩
        intro g x fallback strategy epoch hx hs
        obtain ⟨-, -, i, hauth, hcov, -⟩ := h.loading g x fallback strategy epoch j hx hs
        rw [waiting hx hs]
        exact ⟨i, hauth, hcov⟩
      · obtain ⟨p, hprov, -⟩ := hf.cached key.structural c hcache
        refine ⟨p, hprov, ?_⟩
        intro g x fallback strategy epoch hx hs
        obtain ⟨-, -, i, hauth, -, hcur⟩ := h.loading g x fallback strategy epoch j hx hs
        rw [waiting hx hs] at he ⊢
        exact ⟨i, hauth, (hcur he).covers⟩
  · rw [hp.trace]
    cases ho with
    | none => exact h.law
    | retired => exact ⟨trivial, trivial, h.law⟩
    | @one a hjust =>
        refine ⟨?_, h.law⟩
        cases a with
        | passed g strategy =>
            obtain ⟨x, hadm⟩ := hjust
            obtain ⟨i, hauth, hcalled⟩ := hg.admissible hd h.calls hadm
            obtain ⟨fallback, job, hx, -⟩ := hadm
            exact ⟨x.lookup, i, (hd.gets g x hx).1, hauth, hcalled⟩
        | joined g j =>
            obtain ⟨x, strategy, ⟨fallback, job, hx, -⟩, hhead, hfl⟩ := hjust
            obtain ⟨job', hj, hc, -⟩ := hb.tracked _ j hfl
            exact ⟨x.lookup, strategy, _, (hd.gets g x hx).1, lastPassed_of_head hhead,
              hc ▸ hd.jobs j job' hj⟩
        | resolved g v =>
            obtain ⟨x, strategy, c, hadm, hhead, hc, rfl⟩ |
              ⟨x, fallback, strategy, epoch, j, hx, hs, hr⟩ := hjust
            · obtain ⟨i, hauth, hcalled⟩ := hg.admissible hd h.calls hadm
              obtain ⟨p, hprov, -⟩ := hf.cached x.lookup.structural c hc
              obtain ⟨fallback, job, hx, -⟩ := hadm
              exact ⟨x.lookup, strategy, i, p, (hd.gets g x hx).1, lastPassed_of_head hhead,
                hauth, hprov, hcalled.covers⟩
            · obtain ⟨hlast, -⟩ := h.loading g x fallback strategy epoch j hx hs
              obtain ⟨job, key, hj, hc, hkey, -⟩ :=
                hf.loading g x fallback strategy epoch j hx hs
              obtain ⟨p, hprov, hwait⟩ := h.loaded j job key v hj hc hr
              obtain ⟨i, hauth, hcov⟩ := hwait g x fallback strategy epoch hx hs
              rw [hkey] at hprov hcov
              exact ⟨x.lookup, strategy, i, p, (hd.gets g x hx).1, hlast, hauth, hprov, hcov⟩
        | started | canceled | invalidated | invalidatedAll | retired | admitted | called
        | fulfilled | rejected | refused => trivial

theorem reachable_gateBook (hs : (machine α cfg).Reachable s) : GateBook s :=
  (invariant_of_moves
    (P := fun s => (Counted cfg s ∧ Dated s ∧ FreshBook s) ∧ Gate s ∧ GateBook s)
    ⟨⟨counted_initial, dated_initial, freshBook_initial⟩, gate_initial, gateBook_initial⟩
    (fun _ _ ha ⟨⟨hb, hd, hf⟩, hg, h⟩ hm =>
      ⟨⟨hb.move ha hm, hd.move ha hm, hf.move hd hb ha hm⟩, hg.move ha hm,
        h.move hg hf hd hb ha hm⟩) hs).2.2

/-- The authorization gate, in every run. -/
theorem gate_reachable (hs : (machine α cfg).Reachable s) :
    History.Each GateLaw s.trace ∧
      ∀ g l l', .started g l ∈ s.trace → .started g l' ∈ s.trace → l = l' :=
  ⟨(reachable_gateBook hs).law, fun _ _ _ => (reachable_dated hs).started_once⟩

/-- The first `get` resolves with the descriptor 7. -/
def isFirstResolution : Observation Nat → Bool
  | .resolved 0 7 => true
  | _ => false

/-- In a run which has loaded a descriptor its `get` has resolved with it. -/
theorem gate_loadedOnce :
    ∃ s : MetadataRepositoryRuntime Nat, .resolved 0 7 ∈ s.trace ∧
      History.Each GateLaw s.trace := by
  obtain ⟨s, -, hs, hp⟩ := Machine.reachable_of_any (machine Nat oneDescriptor)
    (loadedOnce (functionLookup "RFC_PING" "alice" .classic))
    (fun s => s.trace.head?.any isFirstResolution) (by decide +kernel)
  refine ⟨s, ?_, (gate_reachable hs).1⟩
  obtain ⟨a, ha, hp⟩ := (Option.any_eq_true _ _).mp hp
  unfold isFirstResolution at hp
  split at hp
  · exact List.mem_of_head? ha
  · cases hp

end MetadataRepositoryRuntime

end OpenRfc.Metadata
