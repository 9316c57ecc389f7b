import OpenRfc.DirectCpic.Awareness

/-!
An operation succeeds on a live session: the reply it decoded did not end the conversation, and
nothing succeeds once the generation has ended.
-/

namespace OpenRfc.DirectCpic

variable {Fields Value : Type}

/-- An operation other than `exchange` resolves on an authenticated session, from a reply which
did not end the conversation. Once the generation has ended, the only thing which resolves is an
`exchange` which hands out the reply it ended with. -/
def Succeeded : Observation → List Observation → Prop
  | .resolved _ undecoded reply state, past =>
      (undecoded = false → state = .authenticated ∧ reply ≠ some true) ∧
        (past.any Observation.isEnd = true → undecoded = true ∧ reply = some true)
  | _, _ => True

/-- Success implies a live session. -/
structure SuccessIsLive (s : DirectCpicSession Fields Value) : Prop where
  law : History.Each Succeeded s.trace
  ended : s.trace.any Observation.isEnd = true → s.state = .closed ∧ s.cpicSessionId = none

namespace DirectCpicSession
variable {s : DirectCpicSession Fields Value} {P : Observation → List Observation → Prop}

theorem each_settleReceive (h : History.Each P s.trace) (outcome : Except Cause Bytes) :
    History.Each P (s.settleReceive outcome).trace := by
  rw [(s.settleReceive_fields outcome).2.2.2.1]
  exact h

theorem each_arrive (h : History.Each P s.trace) {frame : Bytes}
    (ha : P (.arrived frame) s.trace) : History.Each P (s.arrive frame).trace := by
  cases hp : s.transport.pendingReceive with
  | none =>
      rw [arrive_of_none hp]
      exact ⟨ha, h⟩
  | some i =>
      rw [arrive_of_some hp]
      exact each_settleReceive (s := s.observe _) ⟨ha, h⟩ _

theorem each_terminateGeneration (h : History.Each P s.trace) (ht : P .terminated s.trace) :
    History.Each P s.terminateGeneration.trace := by
  cases hc : s.closed with
  | true =>
      rw [terminateGeneration_of_closed hc]
      exact h
  | false =>
      rw [terminateGeneration_of_open hc]
      change History.Each P (.terminated :: _)
      rw [closeTransport_trace]
      exact ⟨ht, h⟩

theorem each_close (h : History.Each P s.trace) (hc : P .closing s.trace)
    (hd : P .deallocateSent (.closing :: s.trace)) : History.Each P s.close.trace := by
  unfold close
  split
  · exact h
  · dsimp only
    split
    · split
      · exact ⟨hd, hc, h⟩
      · rw [closeTransport_trace]
        exact ⟨hc, h⟩
    · rw [closeTransport_trace]
      exact ⟨hc, h⟩

theorem state_authenticated (ha : s.authenticated = true) (hc : s.closed = false)
    (hs : s.setup ≠ .closed) : s.state = .authenticated := by
  unfold state
  rw [if_neg (by simp [hc, hs]), if_pos ha]

/-- What the operation knows is enough to succeed. -/
theorem Knows.resolved {lax : Lax} {i : Nat} {k : Known} {value : Value}
    (h : s.Knows lax i k) (hw : s.Waiting) (hlax : ¬ lax.deadSuccess)
    (hl : Turn.Linked (⟨s, .running i (.resolve value)⟩ : Turn Fields Value))
    (ha : Turn.Aware codec lax (⟨s, .running i (.resolve value)⟩ : Turn Fields Value))
    (ht : Program.Tame codec (s.undecoded i) (.resolve value : Program Fields Value) k) :
    Succeeded (.resolved i (s.undecoded i) (s.reply i) s.state) s.trace := by
  have open_of_live (hlive : k.phase = .live) : s.closed = false := by
    cases hc : s.closed with
    | false => rfl
    | true =>
        obtain hnone | ⟨j, hj⟩ := ha.shut hc
        · exact absurd hnone (h.live hlive)
        · exact absurd hj (ha.logons.resolve_left hlax j)
  have authenticated_of (hk : k.authenticated = true) (hc : s.closed = false) :
      s.state = .authenticated := by
    refine state_authenticated ((h.authenticated hk).resolve_left hlax) hc fun hs => ?_
    cases hc.symm.trans (hw.closed_of_setup hs)
  have alive (hc : s.closed = false) (hs : s.state = .authenticated) :
      Succeeded (.resolved i (s.undecoded i) (s.reply i) s.state) s.trace := by
    refine ⟨fun _ => ⟨hs, fun hreply => ?_⟩, fun hend => ?_⟩
    · cases hc.symm.trans (hl.replies i hreply)
    · cases hc.symm.trans (hl.ended hend)
  obtain ⟨hu, hreplied⟩ | ⟨hk, hlive | hchecked⟩ := ht
  · obtain ⟨ended, hreply, -, hopen⟩ := h.replied hreplied
    refine ⟨fun hdecoded => ?_, fun hend => ⟨hu, ?_⟩⟩
    · cases hdecoded.symm.trans hu
    · cases ended with
      | true => exact hreply
      | false =>
          have hc := (hopen rfl).resolve_left hlax
          cases hc.symm.trans (hl.ended hend)
  · have hc := open_of_live hlive
    exact alive hc (authenticated_of hk hc)
  · have hc := ((h.checked hchecked).resolve_left hlax).2
    exact alive hc (authenticated_of hk hc)

end DirectCpicSession

/-- The runs in which no operation succeeds on a session which is not live. -/
def Lax.live : Lax := ⟨False, True⟩

open DirectCpicSession in
theorem succeeded_move {codec : Codec Fields Value} {d d' : Turn Fields Value}
    (h : History.Each Succeeded d.session.trace) (hc : d.Coherent) (hl : d.Linked)
    (ha : d.Aware codec .live) (hm : Move codec .live d d') :
    History.Each Succeeded d'.session.trace := by
  cases hm with
  | resolved value =>
      obtain ⟨k, hk, ht⟩ := ha.running
      exact ⟨hk.resolved hc.1 id hl ha ht, h⟩
  | arrived frame ho => exact each_arrive h trivial
  | closed hclosed hb ho hg => exact each_close h trivial trivial
  | transportFailed cause | frameQueued cause hpoint => exact each_settleReceive h _
  | writerFailed index cause hpoint => exact each_settleReceive h _
  | @closeFinished s hd =>
      exact each_settleReceive (s := { s with deallocating := false }) h _
  | valueMalformed message next hg => exact each_terminateGeneration h trivial
  | logonFailed failure next hf hg | responseFailed failure next hf hg =>
      exact each_terminateGeneration h trivial
  | ended message hd hs hg => exact each_terminateGeneration h trivial
  | caught y cause transmission hy hpoint hg => exact ⟨trivial, each_terminateGeneration h trivial⟩
  | sendSettled outcome ho hs hx | called c hg | resumed ho hs => exact h
  | readAuthenticated next | readSessionId next | readDescriptor key next => exact h
  | stored key value next | claimed next hok | released next hr | ticked next => exact h
  | bcdFailed message next | exchangeClosed next hclosed | taken ho hs hx => exact h
  | sendAccepted hx hf | awaitsAcknowledgement hx hf | written | readMore hs => exact h
  | completed message hd hq hs | completeRefused | completedEnded hx => exact h
  | threwTerminated ho hs | rejected e | claimRefused next hok => exact ⟨trivial, h⟩
  | loggedOn value next hg | declaredException failure next hf hp ht hs hr => exact ⟨trivial, h⟩
  | deallocated next hs | answered decoded next hs | exchangeBusy next hclosed hok =>
      exact ⟨trivial, h⟩
  | requestRefused next hclosed hok hr | began outgoingPlan next hclosed hok => exact ⟨trivial, h⟩
  | failed hx | planned steps y hy hpoint hs hp | sent hs => exact ⟨trivial, h⟩
  | acknowledged setup hx hs | read hx | returned => exact ⟨trivial, h⟩

theorem aware_initial (lax : Lax) : Turn.Aware codec lax (⟨.initial, .idle⟩ : Turn Fields Value) where
  others j o _ ho := by cases ho
  running := trivial
  shut := nofun
  logons := .inr fun _ => nofun

theorem linked_initial : Turn.Linked (⟨.initial, .idle⟩ : Turn Fields Value) where
  shut := nofun
  closing := nofun
  complete := trivial
  replies := fun _ => nofun
  ended := nofun

/-- In every run in which invocations with metadata are made on authenticated sessions, no logon
is accepted from a reply which ended the conversation, and the session is not closed while the
reply of another operation is being processed, success implies a live session. -/
theorem successIsLive_of_liveSuccess {codec : Codec Fields Value}
    {s : DirectCpicSession Fields Value}
    (hs : (machine codec).ReachableUnder (DirectCpicSession.LiveSuccess codec) s) :
    SuccessIsLive s := by
  have ⟨hc, hl, ha, h⟩ := invariant_reachableUnder
    (P := fun d => d.Coherent ∧ d.Linked ∧ d.Aware codec .live ∧ History.Each Succeeded d.session.trace)
    (fun s e hg => ⟨.inr hg, .inl trivial⟩)
    ⟨coherent_initial, linked_initial, aware_initial _, trivial⟩
    (fun d d' h hm => ⟨h.1.move hm, h.2.1.move h.1 hm, h.2.2.1.move h.1 h.2.1 hm,
      succeeded_move h.2.2.2 h.1 h.2.1 h.2.2.1 hm⟩) hs
  refine ⟨h, fun hend => ?_⟩
  have hclosed : s.closed = true := hl.ended hend
  refine ⟨?_, ?_⟩
  · unfold DirectCpicSession.state
    rw [if_pos (.inl hclosed)]
  · obtain hnone | ⟨i, hi⟩ := ha.shut hclosed
    · exact hnone
    · exact absurd hi (ha.logons.resolve_left id i)

namespace DirectCpicSession
variable {codec : Codec Fields Value} {s : DirectCpicSession Fields Value}

/-- Only a reply which ended the conversation makes a logon disorderly. -/
theorem orderly_of_reply {i : Nat} (program : Program Fields Value) :
    ∀ s : DirectCpicSession Fields Value, s.reply i ≠ some true → Orderly codec i program s := by
  induction program with
  | authenticated next ih | sessionId next ih | cached key next ih => exact fun s h => ih _ s h
  | store key value next ih | release next ih => exact fun s h => ih _ h
  | claim next ih =>
      intro s h
      unfold Orderly
      split
      · exact ih _ _ h
      · exact ih _ _ h
  | decodeLogon response cpicSessionId next ih =>
      intro s h
      unfold Orderly
      split
      · exact ⟨h, ih _ _ h⟩
      · trivial
  | _ => exact fun s h => trivial

def isInvocationCall : Event Fields Value → Bool
  | .call c => c.isInvocation
  | _ => false

/-- No invocation with metadata is made, no reply has ended the conversation, and the step does
not close the session. -/
def Plain (codec : Codec Fields Value) (s : DirectCpicSession Fields Value)
    (e : Event Fields Value) : Prop :=
  isInvocationCall e = false ∧ (∀ o ∈ s.operations, o.reply ≠ some true) ∧
    ∀ s' ∈ s.step codec e, s'.closed = false

instance (codec : Codec Fields Value) (s : DirectCpicSession Fields Value)
    (e : Event Fields Value) : Decidable (s.Plain codec e) :=
  inferInstanceAs (Decidable (_ ∧ _ ∧ _))

theorem Plain.liveSuccess {e : Event Fields Value} (h : s.Plain codec e) :
    s.LiveSuccess codec e := by
  have hreply : ∀ i, s.reply i ≠ some true := by
    intro i hi
    cases ho : s.operations[i]? with
    | none => simp [reply, ho] at hi
    | some o => exact h.2.1 o (List.mem_of_getElem? ho) ((reply_eq ho).symm.trans hi)
  refine ⟨fun c he hc => ?_, fun i program t hran => ?_, fun s' hs' _ hclosed => ?_⟩
  · have := h.1
    rw [he] at this
    cases hc.symm.trans this
  · apply orderly_of_reply
    unfold ran at hran
    split at hran
    · cases hran
      exact fun hi => hreply _ (reply_addOperation hi)
    · split at hran
      · cases hran
        exact hreply _
      · cases hran
    · cases hran
  · cases hclosed.symm.trans (h.2.2 s' hs')

end DirectCpicSession

/-- A logon on a live session. -/
theorem successIsLive_loggedOn :
    ∃ s, (machine sampleCodec).ReachableUnder (DirectCpicSession.LiveSuccess sampleCodec) s ∧
      SuccessIsLive s ∧ .resolved 0 false (some false) .authenticated ∈ s.trace := by
  obtain ⟨s, hs, hp⟩ := (Option.any_eq_true
    (fun s : DirectCpicSession Unit Nat =>
      decide (.resolved 0 false (some false) .authenticated ∈ s.trace)) _).mp
    (show ((machine sampleCodec).runUnder (DirectCpicSession.Plain sampleCodec) .initial
      loggedOn).any _ = true by decide +kernel)
  have hr := (Machine.reachableUnder_of_runUnder hs).mono fun _ _ h => h.liveSuccess
  exact ⟨s, hr, successIsLive_of_liveSuccess hr, of_decide_eq_true hp⟩

/-- The logon reply comes with the deallocation of the conversation. -/
def deadLogon : List (Event Unit Nat) :=
  .call logon :: answered 0 (sampleRecord 0xcb 18 [0]) ++
    [.resume 0 noCallback, .resume 0 noCallback]

/-- The logon resolves on a closed session, which retains its session id. -/
theorem not_successIsLive_deadLogon :
    ∃ s, (machine sampleCodec).run .initial deadLogon = some s ∧
      (machine sampleCodec).Reachable s ∧
      .resolved 0 false (some true) .closed ∈ s.trace ∧
      .terminated ∈ s.trace ∧ s.cpicSessionId = some (List.replicate 16 7) ∧
      ¬ SuccessIsLive s := by
  obtain ⟨s, hs, hr, hp⟩ := Machine.reachable_of_any (machine sampleCodec) deadLogon
    (fun s => decide (.resolved 0 false (some true) .closed ∈ s.trace ∧
      .terminated ∈ s.trace ∧ s.cpicSessionId = some (List.replicate 16 7))) (by decide +kernel)
  obtain ⟨hresolved, hterminated, hid⟩ := of_decide_eq_true hp
  refine ⟨s, hs, hr, hresolved, hterminated, hid, fun h => ?_⟩
  have hend : s.trace.any Observation.isEnd = true :=
    List.any_eq_true.mpr ⟨.terminated, hterminated, rfl⟩
  cases hid.symm.trans (h.ended hend).2

end OpenRfc.DirectCpic
