import OpenRfc.DirectCpic.Knowledge

/-!
Every operation goes on from what it knows: the invariant behind the outcomes of the
operations, and the state of the connection which it rests on.
-/

namespace OpenRfc.DirectCpic

variable {Fields Value : Type}

/-- The generation ends here. -/
def Observation.isEnd : Observation → Bool
  | .terminated | .closing => true
  | _ => false

/-- The connection is open under a message which has come without ending the conversation, and
under a closed session only while `close()` is sending its deallocation. -/
structure Turn.Linked (d : Turn Fields Value) : Prop where
  shut : d.session.closed = true → d.session.transport.isOpen = true →
    d.session.deallocating = true
  closing : d.session.deallocating = true → d.session.closed = true ∧ d.session.busy = false
  complete : match d.control with
    | .exchange _ _ _ (.complete _ false) => d.session.transport.isOpen = true
    | _ => True
  replies : ∀ i, d.session.reply i = some true → d.session.closed = true
  ended : d.session.trace.any Observation.isEnd = true → d.session.closed = true

namespace DirectCpicSession
variable {s s' : DirectCpicSession Fields Value} {i j : Nat}

/-- The exchange has returned a reply. -/
def replied (s : DirectCpicSession Fields Value) (i : Nat) (ended : Bool) (o : Observation) :
    DirectCpicSession Fields Value :=
  { s with
    busy := false
    operations := s.operations.modify i fun o => { o with reply := some ended } }.observe o

theorem returnMessage_eq (s : DirectCpicSession Fields Value) (i : Nat)
    (next : Except Thrown Bytes → Program Fields Value) (x : Exchange) (message : AppcMessage)
    (ended : Bool) :
    s.returnMessage i next x message ended =
      (s.replied i ended (.returned x.id x.payloads message.data ended)).setStage i
        (.awaiting (next (.ok message.data))) := by
  unfold returnMessage replied setStage observe
  simp only [List.modify_modify_eq]
  rfl

theorem reply_replied {ended : Bool} {o : Observation} (hi : i < s.operations.length) :
    (s.replied i ended o).reply i = some ended := by
  simp [reply, replied, observe, List.getElem?_eq_getElem hi]

theorem reply_replied_ne {ended : Bool} {o : Observation} (hj : j ≠ i) :
    (s.replied i ended o).reply j = s.reply j := by
  simp [reply, replied, observe, hj.symm]

theorem undecoded_replied {ended : Bool} {o : Observation} :
    (s.replied i ended o).undecoded i = s.undecoded i := by
  unfold undecoded replied observe
  simp only [List.getElem?_modify, Option.map_eq_map]
  cases s.operations[i]? with
  | none => rfl
  | some o => simp

theorem failTransport_isOpen (cause : Cause) :
    (s.failTransport cause).transport.isOpen = false := by
  unfold failTransport NiSocketTransport.fail
  dsimp only
  split
  · rfl
  · rename_i h
    simpa using h

theorem settleReceive_deallocating (outcome : Except Cause Bytes) :
    (s.settleReceive outcome).deallocating = s.deallocating := by
  unfold settleReceive
  split
  · rfl
  · rfl

theorem closeTransport_deallocating : s.closeTransport.deallocating = s.deallocating :=
  settleReceive_deallocating _

theorem closeTransport_trace : s.closeTransport.trace = s.trace :=
  (settleReceive_fields _ _).2.2.2.1

theorem close_busy : s.close.busy = s.busy := by
  unfold close
  split
  · rfl
  · dsimp only
    split
    · split
      · rfl
      · exact (settleReceive_fields _ _).2.1
    · exact (settleReceive_fields _ _).2.1

/-- `close()` leaves the connection open while it sends its deallocation. -/
theorem close_deallocating
    (h : ¬ (s.closed = true ∨ s.busy = true ∨ s.compoundOperationOwner ≠ none))
    (ho : s.close.transport.isOpen = true) : s.close.deallocating = true := by
  unfold close at ho ⊢
  rw [if_neg h] at ho ⊢
  dsimp only at ho ⊢
  split at ho
  · rename_i hready
    rw [if_pos hready]
    split at ho
    · rfl
    · cases ho
  · cases ho

theorem receive_isOpen {t : NiSocketTransport} {i : Nat} : (t.receive i).1.isOpen = t.isOpen := by
  unfold NiSocketTransport.receive
  split
  · split
    · rfl
    · split
      · rfl
      · rfl
  · rfl

theorem terminateGeneration_deallocating : s.terminateGeneration.deallocating = s.deallocating := by
  cases hc : s.closed with
  | true => rw [terminateGeneration_of_closed hc]
  | false =>
      rw [terminateGeneration_of_open hc]
      exact settleReceive_deallocating _

theorem terminateGeneration_isOpen (h : s.terminateGeneration.transport.isOpen = true) :
    s.closed = true ∧ s.transport.isOpen = true := by
  cases hc : s.closed with
  | true =>
      rw [terminateGeneration_of_closed hc] at h
      exact ⟨rfl, h⟩
  | false =>
      rw [terminateGeneration_of_open hc] at h
      cases h

theorem reply_settleReceive (outcome : Except Cause Bytes) (i : Nat) :
    (s.settleReceive outcome).reply i = s.reply i := by
  unfold reply
  rw [settleReceive_operations]
  cases s.transport.pendingReceive with
  | none => rfl
  | some k =>
      simp only [List.getElem?_modify, Option.map_eq_map]
      cases s.operations[i]? with
      | none => rfl
      | some o => by_cases hk : k = i <;> simp [hk]

theorem reply_addOperation {codec : Codec Fields Value} {c : Call Fields Value} {i : Nat}
    (h : (s.addOperation codec c).reply i = some true) : s.reply i = some true := by
  unfold reply addOperation at h
  obtain hlt | rfl | hgt := Nat.lt_trichotomy i s.operations.length
  · simpa [reply, List.getElem?_append_left hlt] using h
  · simp at h
  · have : (s.operations ++ [Operation.mk c none (.awaiting (c.program codec))])[i]? = none := by
      rw [List.getElem?_eq_none_iff]
      simpa using Nat.succ_le_of_lt hgt
    rw [this] at h
    cases h

theorem terminateGeneration_busy : s.terminateGeneration.busy = s.busy := by
  cases hc : s.closed with
  | true => rw [terminateGeneration_of_closed hc]
  | false =>
      rw [terminateGeneration_of_open hc]
      exact (settleReceive_fields _ _).2.1

end DirectCpicSession

open DirectCpicSession in
/-- The connection and the flags which go with it are as they were. -/
theorem Turn.Linked.same {d d' : Turn Fields Value} (h : d.Linked)
    (hc : d'.session.closed = d.session.closed)
    (hd : d'.session.deallocating = d.session.deallocating)
    (ht : d'.session.transport.isOpen = d.session.transport.isOpen)
    (hb : d'.session.busy = true → d.session.busy = true)
    (hr : ∀ i, d'.session.reply i = some true → d.session.reply i = some true)
    (he : d'.session.trace.any Observation.isEnd = d.session.trace.any Observation.isEnd)
    (hcontrol : match d'.control with
      | .exchange _ _ _ (.complete _ false) => d'.session.transport.isOpen = true
      | _ => True) : d'.Linked where
  shut hclosed ho := hd.trans (h.shut (hc.symm.trans hclosed) (ht.symm.trans ho))
  closing hclosing := by
    obtain ⟨hclosed, hbusy⟩ := h.closing (hd.symm.trans hclosing)
    refine ⟨hc.trans hclosed, ?_⟩
    cases hbusy' : d'.session.busy with
    | false => rfl
    | true =>
        rw [hb hbusy'] at hbusy
        cases hbusy
  complete := hcontrol
  replies i hi := hc.trans (h.replies i (hr i hi))
  ended hend := hc.trans (h.ended (he.symm.trans hend))

open DirectCpicSession in
/-- The connection is closed. -/
theorem Turn.Linked.cut {d d' : Turn Fields Value} (h : d.Linked)
    (hc : d'.session.closed = d.session.closed)
    (hd : d'.session.deallocating = d.session.deallocating)
    (ht : d'.session.transport.isOpen = false) (hb : d'.session.busy = d.session.busy)
    (hr : ∀ i, d'.session.reply i = some true → d.session.reply i = some true)
    (he : d'.session.trace.any Observation.isEnd = d.session.trace.any Observation.isEnd)
    (hcontrol : match d'.control with
      | .exchange _ _ _ (.complete _ false) => d'.session.transport.isOpen = true
      | _ => True) : d'.Linked where
  shut _ ho := absurd ho (by rw [ht]; exact nofun)
  closing hclosing := by
    obtain ⟨hclosed, hbusy⟩ := h.closing (hd.symm.trans hclosing)
    exact ⟨hc.trans hclosed, hb.trans hbusy⟩
  complete := hcontrol
  replies i hi := hc.trans (h.replies i (hr i hi))
  ended hend := hc.trans (h.ended (he.symm.trans hend))

open DirectCpicSession in
theorem Turn.Linked.terminated {d d' : Turn Fields Value} (h : d.Linked)
    (hc : d'.session.closed = true)
    (hd : d'.session.deallocating = d.session.deallocating)
    (ht : d'.session.transport.isOpen = true →
      d.session.closed = true ∧ d.session.transport.isOpen = true)
    (hb : d'.session.busy = d.session.busy) (hcontrol : d'.control = .idle) : d'.Linked where
  shut _ ho := hd.trans (h.shut (ht ho).1 (ht ho).2)
  closing hclosing := by
    obtain ⟨hclosed, hbusy⟩ := h.closing (hd.symm.trans hclosing)
    exact ⟨hc, hb.trans hbusy⟩
  complete := by
    rw [hcontrol]
    trivial
  replies _ _ := hc
  ended _ := hc

open DirectCpicSession in
theorem Turn.Linked.move {codec : Codec Fields Value} {lax : Lax} {d d' : Turn Fields Value}
    (h : d.Linked) (hc : d.Coherent) (hm : Move codec lax d d') : d'.Linked := by
  cases hm with
  | @arrived s frame ho =>
      cases hp : s.transport.pendingReceive with
      | none =>
          rw [arrive_of_none hp]
          exact h.same rfl rfl rfl id (fun _ hi => hi) rfl trivial
      | some i =>
          rw [arrive_of_some hp]
          obtain ⟨-, hbusy, -, htrace, -, hopen, -⟩ :=
            (s.observe (.arrived frame)).settleReceive_fields (.ok frame)
          exact h.same (settleReceive_closed _) (settleReceive_deallocating _) hopen
            (fun hb => hbusy.symm.trans hb)
            (fun i hi => (reply_settleReceive (s := s.observe _) _ i).symm.trans hi)
            (congrArg (·.any Observation.isEnd) htrace) trivial
  | transportFailed cause =>
      exact h.cut (failTransport_closed cause) (settleReceive_deallocating _)
        (failTransport_isOpen cause) (settleReceive_fields _ _).2.1
        (fun i hi => (reply_settleReceive _ i).symm.trans hi)
        (congrArg (·.any Observation.isEnd) (settleReceive_fields _ _).2.2.2.1) trivial
  | @closed s hclosed hb ho hg =>
      have hopen : ¬ (s.closed = true ∨ s.busy = true ∨ s.compoundOperationOwner ≠ none) := by
        simp [hclosed, hb, ho]
      have hend := close_closed hopen
      exact ⟨fun _ => close_deallocating hopen, fun _ => ⟨hend, close_busy.trans hb⟩, trivial,
        fun _ _ => hend, fun _ => hend⟩
  | @closeFinished s hd =>
      refine ⟨nofun, fun hd' => ?_, trivial, fun i hi => ?_, fun hend => ?_⟩
      · cases closeTransport_deallocating.symm.trans hd'
      · exact closeTransport_closed.trans
          (h.replies i ((reply_settleReceive (s := { s with deallocating := false }) _ i).symm.trans hi))
      · dsimp only at hend
        rw [closeTransport_trace] at hend
        exact closeTransport_closed.trans (h.ended hend)
  | began outgoingPlan next hopen ha =>
      refine ⟨fun hclosed => ?_, fun hd => ?_, trivial, h.replies, h.ended⟩
      · cases hopen.symm.trans hclosed
      · cases hopen.symm.trans (h.closing hd).1
  | valueMalformed message next hg =>
      exact h.terminated terminateGeneration_closed terminateGeneration_deallocating
        terminateGeneration_isOpen terminateGeneration_busy rfl
  | logonFailed failure next hf hg | responseFailed failure next hf hg =>
      exact h.terminated terminateGeneration_closed terminateGeneration_deallocating
        terminateGeneration_isOpen terminateGeneration_busy rfl
  | caught y cause transmission hy hpoint hg =>
      exact h.terminated terminateGeneration_closed terminateGeneration_deallocating
        terminateGeneration_isOpen terminateGeneration_busy rfl
  | ended message hd hs hg =>
      exact h.terminated terminateGeneration_closed terminateGeneration_deallocating
        terminateGeneration_isOpen terminateGeneration_busy rfl
  | frameQueued cause hpoint =>
      refine h.cut (failTransport_closed cause) (settleReceive_deallocating _)
        (failTransport_isOpen cause) (settleReceive_fields _ _).2.1
        (fun i hi => (reply_settleReceive _ i).symm.trans hi)
        (congrArg (·.any Observation.isEnd) (settleReceive_fields _ _).2.2.2.1) ?_
      obtain rfl | rfl := hpoint
      · trivial
      · trivial
  | writerFailed index cause hpoint =>
      exact h.cut closeTransport_closed (settleReceive_deallocating _) rfl
        (settleReceive_fields _ _).2.1
        (fun i hi => (reply_settleReceive _ i).symm.trans (reply_setStage.symm.trans hi))
        (congrArg (·.any Observation.isEnd) (settleReceive_fields _ _).2.2.2.1) trivial
  | awaitsAcknowledgement hx hf | written | readMore hs =>
      exact h.same rfl rfl receive_isOpen id (fun _ hi => reply_setStage.symm.trans hi) rfl trivial
  | completed message hd hq hs =>
      exact h.same rfl rfl rfl id (fun _ hi => hi) rfl (assertNoQueuedFrames_ok hq).1
  | called c hg => exact h.same rfl rfl rfl id (fun _ hi => reply_addOperation hi) rfl trivial
  | @returned s i x next message ended =>
      rw [returnMessage_eq]
      refine ⟨h.shut, fun hd => ⟨(h.closing hd).1, rfl⟩, trivial, fun j hj => ?_, h.ended⟩
      rw [reply_setStage] at hj
      by_cases he : j = i
      · rw [he, reply_replied hc.2.1] at hj
        cases hj
        exact hc.1.fits.2
      · exact h.replies j ((reply_replied_ne he).symm.trans hj)
  | taken ho hs hx | readAuthenticated next | readSessionId next | readDescriptor key next =>
      exact h.same rfl rfl rfl id (fun _ hi => hi) rfl trivial
  | stored key value next | claimed next ha | claimRefused next ha | released next hr =>
      exact h.same rfl rfl rfl id (fun _ hi => hi) rfl trivial
  | loggedOn value next hg | planned steps y hy hpoint hs hp | sendAccepted hx hf =>
      exact h.same rfl rfl rfl id (fun _ hi => hi) rfl trivial
  | resumed ho hs | acknowledged setup hx hs | read hx | completeRefused | completedEnded hx =>
      exact h.same rfl rfl rfl id (fun _ hi => hi) rfl trivial
  | failed hx =>
      exact h.same rfl rfl rfl nofun (fun _ hi => reply_setStage.symm.trans hi) rfl trivial
  | sendSettled outcome ho hs hx | threwTerminated ho hs | resolved value | rejected e =>
      exact h.same rfl rfl rfl id (fun _ hi => reply_setStage.symm.trans hi) rfl trivial
  | ticked next | bcdFailed message next | declaredException failure next hf hp ht hs hr =>
      exact h.same rfl rfl rfl id (fun _ hi => reply_setStage.symm.trans hi) rfl trivial
  | deallocated next hs | answered decoded next hs | exchangeClosed next hc | sent hs =>
      exact h.same rfl rfl rfl id (fun _ hi => reply_setStage.symm.trans hi) rfl trivial
  | exchangeBusy next hc ha | requestRefused next hc ha hr =>
      exact h.same rfl rfl rfl id (fun _ hi => reply_setStage.symm.trans hi) rfl trivial

/-- What the exchange of an operation goes on from depends on nothing of the exchange. -/
theorem DirectCpicSession.StageKnown.exchanging {lax : Lax}
    {s s' : DirectCpicSession Fields Value} {i : Nat} {x y : Exchange}
    {next : Except Thrown Bytes → Program Fields Value}
    (h : s.StageKnown codec lax i (.exchanging x next)) (ha : s'.authenticated = s.authenticated)
    (ho : s'.compoundOperationOwner = s.compoundOperationOwner)
    (hu : s'.undecoded i = s.undecoded i) : s'.StageKnown codec lax i (.exchanging y next) := by
  obtain ⟨k, hfresh, hk, ht⟩ := h
  unfold StageKnown
  rw [hu]
  exact ⟨k, hfresh, hk.fresh hfresh ha ho, ht⟩

namespace DirectCpicSession
variable {lax : Lax} {s s' : DirectCpicSession Fields Value} {i : Nat} {k : Known}

theorem quiet_others (h : lax.deadSuccess ∨ s.closed = true ∨ s.Quiet i) :
    lax.deadSuccess ∨ s.closed = true ∨ ∀ j, some i ≠ some j → ¬ s.Processing j := by
  refine h.imp_right fun h => h.imp_right fun hq j hj => hq j fun he => hj ?_
  rw [he]

theorem keeps_replied (ended : Bool) (o : Observation) :
    s.Keeps lax (some i) (s.replied i ended o) where
  authenticated := id
  owner _ _ h := h
  closed := id
  ended h _ := h
  closing := .inr .inl
  stages j o' hj ho' := by
    have hj : i ≠ j := fun he => hj (congrArg some he)
    refine ⟨o', ?_, rfl, rfl, .inl rfl⟩
    simpa [replied, observe, hj] using ho'

/-- Nothing is known of the reply before it has been decoded. -/
theorem Knows.awaited (h : s.Knows lax i k) : s.Knows lax i (k.after k.phase.awaited) where
  authenticated := h.authenticated
  owner := h.owner
  live hl := by
    unfold Known.after at hl
    cases hp : k.phase <;> rw [hp] at hl <;> cases hl
  replied hr := by
    apply h.replied
    unfold Known.after at hr
    cases hp : k.phase <;> rw [hp] at hr <;> first | rfl | cases hr
  checked hc := by
    apply h.checked
    unfold Known.after at hc
    cases hp : k.phase <;> rw [hp] at hc <;> first | rfl | cases hc

theorem awaited_ne_live (phase : Phase) : phase.awaited ≠ .live := by
  cases phase <;> exact nofun

/-- The reply of an operation did not end the conversation, which is still open. -/
theorem Knows.reply_of_setup (h : s.Knows lax i k) (hp : k.phase = .replied)
    (hs : s.setup ≠ .closed) :
    lax.deadSuccess ∨ s.reply i = some false ∧ s.closed = false := by
  obtain ⟨ended, hreply, hended, hopen⟩ := h.replied hp
  cases ended with
  | true => exact absurd (hended rfl).1 hs
  | false => exact (hopen rfl).imp_right fun ho => ⟨hreply, ho⟩

theorem Knows.error (h : s.Knows lax i k) (o : Observation) :
    (s.observe o).Knows lax i (k.after .fresh) where
  authenticated := h.authenticated
  owner := h.owner
  live := nofun
  replied := nofun
  checked := nofun

/-- The generation is terminated, and the operation goes on with the error. -/
theorem Knows.terminating {failure : RfcFailure} {program : Program Fields Value}
    (h : s.Knows lax i k) (hf : failure.disposition ≠ .reusable)
    (ht : program.Tame codec (s.undecoded i) (k.after .fresh)) :
    s.terminateGeneration.StageKnown codec lax i (.terminating failure program) := by
  unfold StageKnown
  rw [undecoded_terminateGeneration]
  exact ⟨hf, terminateGeneration_closed, _, rfl,
    h.after_fresh.fresh rfl s.terminateGeneration_known.1 s.terminateGeneration_known.2, ht⟩

theorem valueMalformedFailure_disposition (establishedSession : Bool) :
    (valueMalformedFailure establishedSession).disposition ≠ .reusable := by
  rw [RfcFailure.disposition_eq]
  exact nofun

theorem fresh_ne_live : (k.after .fresh).phase ≠ .live := nofun

end DirectCpicSession

open DirectCpicSession in
theorem Turn.Aware.move {codec : Codec Fields Value} {lax : Lax} {d d' : Turn Fields Value}
    (h : d.Aware codec lax) (hc : d.Coherent) (hl : d.Linked) (hm : Move codec lax d d') :
    d'.Aware codec lax := by
  cases hm with
  | @arrived s frame ho =>
      cases hp : s.transport.pendingReceive with
      | none =>
          rw [arrive_of_none hp]
          apply h.idles
          · exact keeps_of_operations rfl id (fun _ _ h => h) rfl fun h _ => h
          · exact ⟨.inr ⟨rfl, rfl⟩, fun i => by simp [observe]⟩
      | some i =>
          rw [arrive_of_some hp]
          apply h.idles
          · exact (keeps_observe _).after (keeps_settled _ _) fun hc =>
              (settleReceive_closed _).symm.trans hc
          · exact (silent_observe (by simp)).after (silent_settled _ _)
  | transportFailed cause => exact h.idles (keeps_settled _ _) (silent_settled _ _)
  | sendSettled outcome ho hs hx =>
      have hi := h.others _ _ (by rintro ⟨⟩) ho
      rw [hs] at hi
      apply h.stops (.inl rfl)
      · exact .refl
      · exact .refl
      · exact hi.exchanging rfl rfl rfl
  | closed hclosed hb ho hg => exact h.idles (keeps_close hclosed hg) silent_close
  | @closeFinished s hd =>
      have hk : s.Keeps lax none { s with deallocating := false } :=
        keeps_of_operations rfl id (fun _ _ h => h) rfl fun h _ => h
      have hs : s.Silent { s with deallocating := false } := ⟨.inr ⟨rfl, rfl⟩, fun _ => Iff.rfl⟩
      apply h.idles
      · exact hk.after (keeps_settled _ _) fun hc => closeTransport_closed.symm.trans hc
      · exact hs.after (silent_settled _ _)
  | @called s c hg =>
      have hk : s.Keeps lax (some s.operations.length) (s.addOperation codec c) :=
        { authenticated := id
          owner := fun _ _ h => h
          closed := id
          ended := fun h _ => h
          closing := .inr .inl
          stages := by
            intro j o' hj ho'
            have hlt : j < s.operations.length := by
              have hlt := (List.getElem?_eq_some_iff.mp ho').1
              simp only [addOperation, List.length_append, List.length_cons,
                List.length_nil] at hlt
              have hj : s.operations.length ≠ j := fun he => hj (by rw [he])
              omega
            refine ⟨o', ?_, rfl, rfl, .inl rfl⟩
            simpa [addOperation, List.getElem?_append_left hlt] using ho' }
      have hknows : (s.addOperation codec c).Knows lax s.operations.length
          ⟨c.isInvocation, false, .fresh⟩ :=
        { authenticated := fun hi => hg.imp_right fun hg => hg hi
          owner := (by rintro ⟨⟩)
          live := (by rintro ⟨⟩)
          replied := (by rintro ⟨⟩)
          checked := (by rintro ⟨⟩) }
      refine ⟨fun j o hj ho => ?_, ⟨_, hknows, ?_⟩, h.shut, h.logons⟩
      · obtain ⟨o', ho', hcall, hreply, hs⟩ := hk.stages j o hj ho
        exact (h.others j o' (by rintro ⟨⟩) ho').keeps hk hj ho' ho hcall hreply hs
      · have : (s.addOperation codec c).undecoded s.operations.length = c.isExchange := by
          simp [undecoded, addOperation]
        change Program.Tame codec ((s.addOperation codec c).undecoded s.operations.length) _ _
        rw [this]
        exact Program.tame_call codec c
  | resumed ho hs =>
      have hi := h.others _ _ (by rintro ⟨⟩) ho
      rw [hs] at hi
      obtain ⟨k, -, hk, ht⟩ := hi
      exact ⟨fun j o _ ho => h.others j o (by rintro ⟨⟩) ho, ⟨k, hk, ht⟩, h.shut, h.logons⟩
  | threwTerminated ho hs =>
      have hi := h.others _ _ (by rintro ⟨⟩) ho
      rw [hs] at hi
      obtain ⟨-, -, k, hfresh, hk, ht⟩ := hi
      apply h.stops (.inl rfl)
      · exact keeps_observe _
      · exact silent_observe (by simp)
      · exact ⟨k, by rw [hfresh]; rintro ⟨⟩, hk.fresh hfresh rfl rfl, ht⟩
  | resolved value | rejected e =>
      apply h.stops (.inr rfl)
      · exact keeps_observe _
      · exact silent_observe (by simp)
      · trivial
  | @readAuthenticated s i next =>
      obtain ⟨k, hk, ht⟩ := h.running
      cases ha : s.authenticated with
      | true =>
          have hknows : s.Knows lax i { k with authenticated := true } :=
            ⟨fun _ => .inr ha, hk.owner, hk.live, hk.replied, hk.checked⟩
          exact ⟨h.others, ⟨_, hknows, ht.1⟩, h.shut, h.logons⟩
      | false => exact ⟨h.others, ⟨k, hk, ht.2⟩, h.shut, h.logons⟩
  | @readSessionId s i next =>
      obtain ⟨k, hk, ht⟩ := h.running
      cases hid : s.cpicSessionId with
      | some id =>
          have hlive : s.cpicSessionId ≠ none := by
            rw [hid]
            rintro ⟨⟩
          have hknows : s.Knows lax i (k.after .live) :=
            ⟨hk.authenticated, hk.owner, fun _ => hlive, (by rintro ⟨⟩), (by rintro ⟨⟩)⟩
          exact ⟨h.others, ⟨_, hknows, ht.1 id⟩, h.shut, h.logons⟩
      | none => exact ⟨h.others, ⟨_, hk.after_fresh, ht.2⟩, h.shut, h.logons⟩
  | readDescriptor key next =>
      obtain ⟨k, hk, ht⟩ := h.running
      exact ⟨h.others, ⟨k, hk, ht _⟩, h.shut, h.logons⟩
  | stored key value next =>
      obtain ⟨k, hk, ht⟩ := h.running
      apply h.runs (k := k) rfl
      · exact ⟨hk.authenticated, hk.owner, hk.live, hk.replied, hk.checked⟩
      · exact ht
      · exact keeps_of_operations rfl id (fun _ _ h => h) rfl fun h _ => h
      · exact ⟨.inr ⟨rfl, rfl⟩, fun _ => Iff.rfl⟩
  | @claimed s i next ha =>
      obtain ⟨k, hk, ht⟩ := h.running
      apply h.runs (k := { k with owner := true }) rfl
      · exact ⟨hk.authenticated, fun _ => rfl, hk.live, hk.replied, hk.checked⟩
      · exact ht.2.2.1
      · apply keeps_of_operations
        · rfl
        · exact id
        · intro j hj ho
          unfold assertExchangeAvailable at ha
          split at ha
          · cases ha
          · rename_i hn
            exact absurd (.inr ⟨by rw [ho]; rintro ⟨⟩, by rw [ho]; rintro ⟨⟩⟩) hn
        · rfl
        · exact fun h _ => h
      · exact ⟨.inr ⟨rfl, rfl⟩, fun _ => Iff.rfl⟩
  | claimRefused next ha =>
      obtain ⟨k, hk, ht⟩ := h.running
      apply h.runs rfl
      · exact keeps_observe _
      · exact silent_observe (by simp)
      · exact hk.error _
      · exact ht.2.2.2 _
  | @released s i next hr =>
      obtain ⟨k, hk, ht⟩ := h.running
      apply h.runs (k := { k with owner := false }) rfl
      · exact ⟨hk.authenticated, (by rintro ⟨⟩), hk.live, hk.replied, hk.checked⟩
      · exact ht
      · apply keeps_of_operations
        · rfl
        · exact id
        · intro j hj ho
          have hj : j ≠ i := fun he => hj (congrArg some he.symm)
          dsimp only
          rw [ho, if_neg (by simpa using hj)]
        · rfl
        · exact fun h _ => h
      · exact ⟨.inr ⟨rfl, rfl⟩, fun _ => Iff.rfl⟩
  | ticked next =>
      obtain ⟨k, hk, ht⟩ := h.running
      apply h.stops (.inr rfl)
      · exact .refl
      · exact .refl
      · exact ⟨_, awaited_ne_live _, hk.awaited, ht⟩
  | bcdFailed message next =>
      obtain ⟨k, hk, ht⟩ := h.running
      apply h.stops (.inr rfl)
      · exact .refl
      · exact .refl
      · exact ⟨_, fresh_ne_live, hk.after_fresh, ht _⟩
  | valueMalformed message next hg =>
      obtain ⟨k, hk, ht⟩ := h.running
      apply h.stops (.inr rfl)
      · exact keeps_terminateGeneration (quiet_others hg)
      · exact silent_terminateGeneration
      · exact hk.terminating (valueMalformedFailure_disposition _) (ht _)
  | logonFailed failure next hf hg =>
      obtain ⟨k, hk, ht⟩ := h.running
      apply h.stops (.inr rfl)
      · exact keeps_terminateGeneration (quiet_others hg)
      · exact silent_terminateGeneration
      · exact hk.terminating hf (ht.2.2 _)
  | @loggedOn s i response cpicSessionId value next hg =>
      obtain ⟨k, hk, hphase, hok, herr⟩ := h.running
      have hopen : lax.deadSuccess ∨ s.reply i = some false ∧ s.closed = false := by
        obtain ⟨ended, hreply, hended, hopen⟩ := hk.replied hphase
        cases ended with
        | true => exact hg.imp_right fun hg => absurd hreply hg
        | false => exact (hopen rfl).imp_right fun ho => ⟨hreply, ho⟩
      have hkeeps : s.Keeps lax (some i)
          ({ s with cpicSessionId := some cpicSessionId, authenticated := true }.observe
            (.loggedOn i s.closed)) :=
        keeps_of_operations rfl (fun _ => rfl) (fun _ _ h => h) rfl fun h _ => h
      refine
        { others := fun j o hj ho => h.keeps hkeeps j o hj ho
          running := ⟨{ k with authenticated := true, phase := .checked },
            ⟨fun _ => .inr rfl, hk.owner, (by rintro ⟨⟩), (by rintro ⟨⟩), fun _ => hopen⟩, hok value⟩
          shut := fun hclosed => .inr ⟨i, ?_⟩
          logons := ?_ }
      · have hclosed : s.closed = true := hclosed
        simp [observe, hclosed]
      · obtain hlax | hlogons := h.logons
        · exact .inl hlax
        · refine hopen.imp_right fun ho j hj => ?_
          simp only [observe, List.mem_cons, Observation.loggedOn.injEq, ho.2] at hj
          obtain ⟨-, hfalse⟩ | hj := hj
          · cases hfalse
          · exact hlogons j hj
  | responseFailed failure next hf hg =>
      obtain ⟨k, hk, ht⟩ := h.running
      apply h.stops (.inr rfl)
      · exact keeps_terminateGeneration (quiet_others hg)
      · exact silent_terminateGeneration
      · exact hk.terminating hf (ht.2.2.2.2 _)
  | declaredException failure next hf hp ht hs hr =>
      obtain ⟨k, hk, ht⟩ := h.running
      apply h.stops (.inr rfl)
      · exact keeps_observe _
      · exact silent_observe (by simp)
      · exact ⟨_, fresh_ne_live, hk.error _, ht.2.2.2.2 _⟩
  | deallocated next hs =>
      obtain ⟨k, hk, ht⟩ := h.running
      apply h.stops (.inr rfl)
      · exact keeps_observe _
      · exact silent_observe (by simp)
      · exact ⟨_, fresh_ne_live, hk.error _, ht.2.2.2.2 _⟩
  | answered decoded next hs =>
      obtain ⟨k, hk, hphase, -, -, hok, -⟩ := h.running
      have hopen := hk.reply_of_setup hphase hs
      apply h.stops (.inr rfl)
      · exact keeps_observe _
      · exact silent_observe (by simp)
      · exact ⟨k.after .checked, (by rintro ⟨⟩),
          ⟨hk.authenticated, hk.owner, (by rintro ⟨⟩), (by rintro ⟨⟩), fun _ => hopen⟩, hok decoded⟩
  | exchangeClosed next hclosed =>
      obtain ⟨k, hk, ht⟩ := h.running
      apply h.stops (.inr rfl)
      · exact .refl
      · exact .refl
      · exact ⟨_, fresh_ne_live, hk.after_fresh, ht.2.2 _⟩
  | exchangeBusy next hclosed ha =>
      obtain ⟨k, hk, ht⟩ := h.running
      apply h.stops (.inr rfl)
      · exact keeps_observe _
      · exact silent_observe (by simp)
      · exact ⟨_, fresh_ne_live, hk.error _, ht.2.2 _⟩
  | requestRefused next hclosed ha hr =>
      obtain ⟨k, hk, ht⟩ := h.running
      apply h.stops (.inr rfl)
      · exact keeps_observe _
      · exact silent_observe (by simp)
      · exact ⟨_, fresh_ne_live, hk.error _, ht.2.2 _⟩
  | began outgoingPlan next hclosed ha =>
      obtain ⟨k, hk, ht⟩ := h.running
      apply h.exchanges rfl
      · exact keeps_of_operations rfl id (fun _ _ h => h) rfl fun h _ => h
      · exact ⟨.inr ⟨rfl, rfl⟩, fun i => by simp [takeSession, observe]⟩
      · exact ⟨k.after .fresh, rfl,
          ⟨hk.authenticated, hk.owner, (by rintro ⟨⟩), (by rintro ⟨⟩), (by rintro ⟨⟩)⟩, ht.2⟩
  | taken ho hs hx =>
      have hi := h.others _ _ (by rintro ⟨⟩) ho
      rw [hs] at hi
      exact ⟨fun j o _ ho => h.others j o (by rintro ⟨⟩) ho, hi, h.shut, h.logons⟩
  | caught y cause transmission hy hpoint hg =>
      apply h.stops (.inr rfl)
      · exact (keeps_terminateGeneration (quiet_others hg)).after (keeps_observe _) id
      · exact silent_terminateGeneration.after (silent_observe (by simp))
      · exact StageKnown.exchanging h.running (terminateGeneration_known _).1
          (terminateGeneration_known _).2 undecoded_terminateGeneration
  | frameQueued cause hpoint =>
      apply h.exchanges rfl
      · exact keeps_settled _ _
      · exact silent_settled _ _
      · exact StageKnown.exchanging h.running (settleReceive_known _ _).1
          (settleReceive_known _ _).2.1 (undecoded_settleReceive _)
  | failed hx =>
      obtain ⟨k, hfresh, hk, -, ht⟩ := h.running
      apply h.stops (.inr rfl)
      · exact keeps_of_operations rfl id (fun _ _ h => h) rfl fun h _ => h
      · exact ⟨.inr ⟨rfl, rfl⟩, fun i => by simp [observe]⟩
      · exact ⟨k, by rw [hfresh]; rintro ⟨⟩, hk.fresh hfresh rfl rfl, ht _⟩
  | planned steps y hy hpoint hs hp =>
      apply h.exchanges rfl
      · exact keeps_observe _
      · exact silent_observe (by simp)
      · exact StageKnown.exchanging h.running rfl rfl rfl
  | sent hs =>
      apply h.stops (.inr rfl)
      · exact keeps_of_operations rfl id (fun _ _ h => h) rfl fun he _ => absurd he hc.1.fits.1
      · exact ⟨.inr ⟨rfl, rfl⟩, fun i => by simp [observe]⟩
      · exact StageKnown.exchanging h.running rfl rfl rfl
  | sendAccepted hx hf | completedEnded hx =>
      apply h.exchanges rfl
      · exact .refl
      · exact .refl
      · exact StageKnown.exchanging h.running rfl rfl rfl
  | awaitsAcknowledgement hx hf | written | readMore hs =>
      apply h.stops (.inr rfl)
      · exact keeps_of_operations rfl id (fun _ _ h => h) rfl fun h _ => h
      · exact ⟨.inr ⟨rfl, rfl⟩, fun _ => Iff.rfl⟩
      · exact StageKnown.exchanging h.running rfl rfl rfl
  | @acknowledged s i x index step rest payload next setup hx hs =>
      have hfit := hc.1.fits
      unfold Fits StageFits at hfit
      rw [hx] at hfit
      apply h.exchanges rfl
      · refine keeps_of_operations rfl id (fun _ _ h => h) rfl fun he _ => ?_
        cases he.symm.trans hfit.1
      · exact ⟨.inr ⟨rfl, rfl⟩, fun i => by simp [receivedFrame, observe]⟩
      · exact StageKnown.exchanging h.running rfl rfl rfl
  | @writerFailed s i x point next index cause hpoint =>
      apply h.stops (.inr rfl)
      · exact keeps_settled _ _
      · exact silent_settled _ _
      · exact StageKnown.exchanging h.running (settleReceive_known _ _).1
          (settleReceive_known _ _).2.1 (undecoded_settleReceive _)
  | read hx =>
      have hfit := hc.1.fits
      unfold Fits StageFits at hfit
      rw [hx] at hfit
      apply h.exchanges rfl
      · exact keeps_of_operations rfl id (fun _ _ h => h) rfl fun he _ => absurd he hfit
      · exact ⟨.inr ⟨rfl, rfl⟩, fun i => by simp [receivedFrame, observe]⟩
      · exact StageKnown.exchanging h.running rfl rfl rfl
  | ended message hd hs hg =>
      apply h.stops (.inr rfl)
      · exact keeps_terminateGeneration (quiet_others hg)
      · exact silent_terminateGeneration
      · exact StageKnown.exchanging h.running (terminateGeneration_known _).1
          (terminateGeneration_known _).2 undecoded_terminateGeneration
  | completed message hd hq hs =>
      apply h.exchanges rfl
      · refine keeps_of_operations rfl id (fun _ _ h => h) rfl fun he _ => ?_
        cases he.symm.trans hs
      · exact ⟨.inr ⟨rfl, rfl⟩, fun _ => Iff.rfl⟩
      · exact StageKnown.exchanging h.running rfl rfl rfl
  | completeRefused =>
      apply h.exchanges rfl
      · exact keeps_of_operations rfl id (fun _ _ h => h) rfl fun _ _ => rfl
      · exact ⟨.inr ⟨rfl, rfl⟩, fun _ => Iff.rfl⟩
      · exact StageKnown.exchanging h.running rfl rfl rfl
  | @returned s i x next message ended =>
      obtain ⟨k, hfresh, hk, hok, -⟩ := h.running
      obtain ⟨hh, hi, -⟩ := hc
      have hended : ended = true → s.setup = .closed ∧ s.closed = true := by
        rintro rfl
        exact hh.fits
      have hopen : ended = false → s.closed = false := by
        rintro rfl
        have hopen := hl.complete
        cases hclosed : s.closed with
        | false => rfl
        | true =>
            have hbusy := (hl.closing (hl.shut hclosed hopen)).2
            cases hbusy.symm.trans hh.busy
      have hs' := s.returnMessage_eq i next x message ended
      rw [hs']
      apply h.stops (.inr rfl)
      · exact keeps_replied _ _
      · exact ⟨.inr ⟨rfl, rfl⟩, fun i => by simp [replied, observe]⟩
      · refine ⟨k.after .replied, (by rintro ⟨⟩),
          ⟨hk.authenticated, hk.owner, (by rintro ⟨⟩), fun _ => ?_, (by rintro ⟨⟩)⟩, ?_⟩
        · refine ⟨ended, ?_, hended, fun he => .inr (hopen he)⟩
          exact reply_replied hi
        · rw [undecoded_replied]
          exact hok _

end OpenRfc.DirectCpic
