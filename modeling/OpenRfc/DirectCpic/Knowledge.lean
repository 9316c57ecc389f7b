import OpenRfc.DirectCpic.Exchanges

/-!
What an operation has found out of the session by the time it goes on. A program is tame when
it does nothing which takes more knowledge than it has gathered on every way there.
-/

namespace OpenRfc.DirectCpic

variable {Fields Value : Type}

inductive Phase
  | fresh
  /-- The session id has been read since the last await. -/
  | live
  /-- An exchange of the operation has returned. -/
  | replied
  /-- Its reply was decoded as a success. -/
  | checked
deriving DecidableEq, Repr

structure Known where
  /-- The session is authenticated. -/
  authenticated : Bool
  /-- The operation is the compound operation owner. -/
  owner : Bool
  phase : Phase

/-- What is still known after an await. -/
def Phase.awaited : Phase → Phase
  | .live => .fresh
  | phase => phase

/-- The same, after something which settles the phase. -/
def Known.after (k : Known) (phase : Phase) : Known := { k with phase }

namespace Program

/-- What the program does on its own, its knowledge warrants. `undecoded`: the operation hands
out the bytes of its reply. -/
def Tame (codec : Codec Fields Value) (undecoded : Bool) : Program Fields Value → Known → Prop
  | .resolve _, k =>
      (undecoded = true ∧ k.phase = .replied) ∨
        (k.authenticated = true ∧ (k.phase = .live ∨ k.phase = .checked))
  | .reject _, _ => True
  | .authenticated next, k =>
      Tame codec undecoded (next true) { k with authenticated := true } ∧
        Tame codec undecoded (next false) k
  | .sessionId next, k =>
      (∀ id, Tame codec undecoded (next (some id)) (k.after .live)) ∧
        Tame codec undecoded (next none) (k.after .fresh)
  | .cached _ next, k => ∀ value, Tame codec undecoded (next value) k
  | .store _ _ next, k => Tame codec undecoded next k
  | .claim next, k =>
      k.phase = .live ∧ k.owner = false ∧
        Tame codec undecoded (next (.ok ())) { k with owner := true } ∧
        ∀ e, Tame codec undecoded (next (.error e)) (k.after .fresh)
  | .release next, k => Tame codec undecoded next { k with owner := false }
  | .tick next, k => Tame codec undecoded next (k.after k.phase.awaited)
  | .exchange _ _ owned next, k =>
      (owned = true → k.owner = true) ∧ (∀ data, Tame codec undecoded (next (.ok data)) (k.after .replied)) ∧
        ∀ e, Tame codec undecoded (next (.error e)) (k.after .fresh)
  | .decodeRegularResponse _ kind next, k =>
      k.phase = .replied ∧ (kind ≠ .regular → k.owner = true) ∧
        (kind = .reset → ∀ decoded, next (.ok decoded) = refreshSession codec) ∧
        (∀ decoded, Tame codec undecoded (next (.ok decoded)) (k.after .checked)) ∧
        ∀ e, Tame codec undecoded (next (.error e)) (k.after .fresh)
  | .decodeFailed _ next, k => ∀ e, Tame codec undecoded (next e) (k.after .fresh)
  | .decodeLogon _ _ next, k =>
      k.phase = .replied ∧
        (∀ value, Tame codec undecoded (next (.ok value))
          { k with authenticated := true, phase := .checked }) ∧
        ∀ e, Tame codec undecoded (next (.error e)) (k.after .fresh)

variable {codec : Codec Fields Value} {undecoded : Bool} {k : Known}

theorem tame_encoded {next : Bytes → Program Fields Value} {result : Except String Bytes}
    (h : ∀ request, Tame codec undecoded (next request) k) :
    Tame codec undecoded (encoded next result) k := by
  cases result with
  | ok request => exact h request
  | error message => trivial

theorem tame_requireAuthenticated {message : String} {next : Bytes → Program Fields Value}
    (h : ∀ id, Tame codec undecoded (next id) ⟨true, k.owner, .live⟩) :
    Tame codec undecoded (requireAuthenticated message next) k := by
  refine ⟨⟨fun id => ?_, trivial⟩, fun id => ?_, trivial⟩
  · exact h id
  · trivial

theorem tame_decodeApplicationResult {α : Type} {result : Except DecodeError α}
    {next : Except Thrown α → Program Fields Value} (hk : k.phase = .checked)
    (hok : ∀ a, Tame codec undecoded (next (.ok a)) k)
    (herr : ∀ e, Tame codec undecoded (next (.error e)) (k.after .fresh)) :
    Tame codec undecoded (decodeApplicationResult result next) k := by
  cases result with
  | ok a =>
      have : k.after k.phase.awaited = k := by
        rw [hk]
        cases k
        cases hk
        rfl
      unfold decodeApplicationResult Tame
      rw [this]
      exact hok a
  | error e => exact herr

/-- What goes on from an invocation: with a decoded result, or with an error. -/
structure GoesOn (codec : Codec Fields Value) (undecoded : Bool) (k : Known)
    (next : Except Thrown Value → Program Fields Value) : Prop where
  ok : ∀ value k', k'.authenticated = true → k'.phase = .checked →
    Tame codec undecoded (next (.ok value)) k'
  error : ∀ e k', (k.authenticated = true → k'.authenticated = true) →
    Tame codec undecoded (next (.error e)) k'

/-- What goes on from a lookup, which may find its result in the cache. -/
structure GoesOnCached (codec : Codec Fields Value) (undecoded : Bool) (k : Known)
    (next : Except Thrown Value → Program Fields Value) : Prop extends
    GoesOn codec undecoded k next where
  found : ∀ value k', k'.authenticated = true → k'.phase = .live →
    Tame codec undecoded (next (.ok value)) k'

theorem goesOn_settle :
    GoesOnCached codec undecoded k (settle : Except Thrown Value → Program Fields Value) where
  ok _ _ ha hp := .inr ⟨ha, .inr hp⟩
  error _ _ _ := trivial
  found _ _ ha hp := .inr ⟨ha, .inl hp⟩

/-- A decoded result is handed on by an await. -/
theorem tame_tick {next : Program Fields Value} (hp : k.phase = .checked)
    (h : Tame codec undecoded next k) : Tame codec undecoded (.tick next) k := by
  obtain ⟨authenticated, owner, phase⟩ := k
  cases hp
  exact h

theorem tame_invokeWithMetadata {request : Except String Bytes}
    {decode : Fields → Except DecodeError Value}
    {next : Except Thrown Value → Program Fields Value} (ha : k.authenticated = true)
    (h : GoesOn codec undecoded k next) :
    Tame codec undecoded (invokeWithMetadata request decode next) k := by
  cases request with
  | error message => exact h.error _ k id
  | ok request =>
      refine ⟨nofun, fun response => ?_, fun e => h.error e _ id⟩
      refine ⟨rfl, fun hk => absurd rfl hk, nofun, fun decoded => ?_, fun e => h.error e _ id⟩
      exact tame_decodeApplicationResult rfl (fun value => h.ok value _ ha rfl)
        fun e => h.error e _ id

theorem tame_lookup {message : String} {key : CacheKey} {request : Except String Bytes}
    {decode : Fields → Except DecodeError Value}
    {next : Except Thrown Value → Program Fields Value} (h : GoesOnCached codec undecoded k next) :
    Tame codec undecoded (lookup message key request decode next) k := by
  refine ⟨⟨fun sessionId value => ?_, h.error _ _ fun _ => rfl⟩,
    fun sessionId => ?_, ?_⟩
  · cases value with
    | some value => exact h.found value _ rfl rfl
    | none =>
        cases request with
        | error message => exact h.error _ _ fun _ => rfl
        | ok request =>
            refine ⟨nofun, fun response => ?_, fun e => h.error e _ fun _ => rfl⟩
            refine ⟨rfl, fun hk => absurd rfl hk, nofun, fun decoded => ?_,
              fun e => h.error e _ fun _ => rfl⟩
            apply tame_decodeApplicationResult
            · rfl
            · exact fun value => h.ok value _ rfl rfl
            · exact fun e => h.error e _ fun _ => rfl
  · exact h.error _ _ id
  · exact h.error _ _ id

theorem tame_optimizedLookup {message : String} {request : Except String Bytes}
    {decode : Fields → Except DecodeError Value} {normalize : Value → Except NormalizeError Value}
    {next : Except Thrown Value → Program Fields Value} (h : GoesOn codec undecoded k next) :
    Tame codec undecoded (optimizedLookup message request decode normalize next) k := by
  refine ⟨⟨fun sessionId => ?_, h.error _ _ fun _ => rfl⟩, fun sessionId => ?_, ?_⟩
  · dsimp only
    rw [if_pos rfl]
    refine tame_invokeWithMetadata rfl ⟨fun output k'' ha hp => tame_tick hp ?_, fun e k'' ha => ?_⟩
    · cases normalize output with
      | ok value => exact h.ok value _ ha hp
      | error e => exact h.error _ _ fun _ => ha
    · exact h.error e _ fun _ => ha rfl
  · exact h.error _ _ id
  · exact h.error _ _ id

variable (codec)

theorem tame_lookupStructures
    {next : Except Thrown (List (String × Value)) → Program Fields Value}
    (herr : ∀ e k', Tame codec undecoded (next (.error e)) k')
    (hok : ∀ structures k', k'.authenticated = true → Tame codec undecoded (next (.ok structures)) k')
    (names : List String) :
    ∀ (structures : List (String × Value)) (k : Known), k.authenticated = true →
      Tame codec undecoded (lookupStructures codec next names structures) k := by
  induction names with
  | nil => exact fun structures k ha => hok structures k ha
  | cons name names ih =>
      intro structures k ha
      unfold lookupStructures lookupStructureDefinition
      apply tame_lookup
      exact
        { ok := fun value k' ha' _ => ih _ _ ha'
          error := fun e k' _ => herr e _
          found := fun value k' ha' _ => ih _ _ ha' }

theorem tame_invokeAdmitted (invocation : ClassicInvocation Fields Value)
    (recursive : Option Value) (ha : k.authenticated = true) :
    Tame codec undecoded (invokeAdmitted codec invocation recursive) k := by
  unfold invokeAdmitted
  cases invocation.admits recursive with
  | error message => trivial
  | ok names =>
      apply tame_lookupStructures
      · exact fun e k' => trivial
      · exact fun structures k' ha' => tame_invokeWithMetadata ha' goesOn_settle.toGoesOn
      · exact ha

theorem tame_invokeCaptured (capture : Value → Except String (ClassicInvocation Fields Value))
    (metadata : Value) (ha : k.authenticated = true) :
    Tame codec undecoded (invokeCaptured codec capture metadata) k := by
  unfold invokeCaptured
  cases capture metadata with
  | error message => trivial
  | ok invocation =>
      dsimp only
      split
      · apply tame_optimizedLookup
        refine ⟨fun value k' ha' _ => tame_invokeAdmitted codec invocation _ ha', ?_⟩
        intro e k' ha'
        change Tame codec undecoded (if _ then _ else _) _
        split
        · trivial
        · exact tame_invokeAdmitted codec invocation none (ha' ha)
      · exact tame_invokeAdmitted codec invocation none ha

theorem tame_invokeClassic (functionName : String)
    (capture : Value → Except String (ClassicInvocation Fields Value)) :
    Tame codec undecoded (invokeClassic codec functionName capture) k := by
  unfold invokeClassic lookupFunctionInterface
  apply tame_lookup
  exact
    { ok := fun metadata k' ha _ => tame_invokeCaptured codec capture metadata ha
      error := fun e k' _ => trivial
      found := fun metadata k' ha _ => tame_invokeCaptured codec capture metadata ha }

theorem tame_refreshSession (ha : k.authenticated = true) (ho : k.owner = true) :
    Tame codec undecoded (refreshSession codec) k := by
  refine ⟨fun sessionId => ?_, trivial⟩
  dsimp only
  cases codec.encodeCpicFunctionRequest "RFC_PING" sessionId with
  | error message => trivial
  | ok request =>
      refine ⟨fun _ => ho, fun refresh => ?_, fun e => trivial⟩
      refine ⟨rfl, fun _ => ho, nofun, fun decoded => ?_, fun e => trivial⟩
      exact .inr ⟨ha, .inr rfl⟩

theorem tame_resetServerContext (ho : k.owner = false) :
    Tame codec undecoded (resetServerContext codec) k := by
  refine tame_requireAuthenticated fun sessionId => ?_
  refine ⟨rfl, ho, ?_, fun e => trivial⟩
  unfold onOk
  dsimp only
  cases codec.encodeCpicCutFunctionRequest "SYSTEM_RESET_RFC_SERVER" with
  | error message => trivial
  | ok request =>
      refine ⟨fun _ => rfl, fun response => ?_, fun e => trivial⟩
      refine ⟨rfl, fun _ => rfl, fun _ _ => rfl, fun decoded => ?_, fun e => trivial⟩
      exact tame_refreshSession codec rfl rfl

theorem tame_legacyRow (structureName rowName : String) (ha : k.authenticated = true) :
    Tame codec undecoded (legacyRow codec structureName rowName) k := by
  refine tame_encoded fun request => ⟨nofun, fun response => ?_, fun e => trivial⟩
  refine ⟨rfl, fun hk => absurd rfl hk, nofun, fun decoded => ?_, fun e => trivial⟩
  apply tame_decodeApplicationResult
  · rfl
  · exact fun definition => .inr ⟨ha, .inr rfl⟩
  · exact fun e => trivial

theorem tame_getLegacyStructureDefinition (structureName : String) :
    Tame codec undecoded (getLegacyStructureDefinition codec structureName) k := by
  refine tame_requireAuthenticated fun sessionId value => ?_
  cases value with
  | some value => exact .inr ⟨rfl, .inl rfl⟩
  | none =>
      refine tame_encoded fun request => ⟨nofun, fun response => ?_, fun e => trivial⟩
      refine ⟨rfl, fun hk => absurd rfl hk, nofun, fun decoded => ?_, fun e => trivial⟩
      apply tame_decodeApplicationResult
      · rfl
      · intro row
        cases row with
        | some rowName =>
            intro cachedRow
            cases cachedRow with
            | some definition => exact .inr ⟨rfl, .inr rfl⟩
            | none => exact tame_legacyRow codec structureName rowName rfl
        | none =>
            apply tame_decodeApplicationResult
            · rfl
            · exact fun definition => .inr ⟨rfl, .inr rfl⟩
            · exact fun e => trivial
      · exact fun e => trivial

/-- Every public operation is tame, whatever the session is like when it is called. Only an
invocation with metadata takes for granted that the session is authenticated. -/
theorem tame_call (c : Call Fields Value) :
    Tame codec c.isExchange (c.program codec) ⟨c.isInvocation, false, .fresh⟩ := by
  cases c with
  | exchange request allowCallbacks =>
      exact ⟨nofun, fun data => .inl ⟨rfl, rfl⟩, fun e => trivial⟩
  | logonAndPing sessionId request =>
      refine ⟨trivial, tame_encoded fun request => ?_⟩
      refine ⟨nofun, fun response => ⟨rfl, fun value => .inr ⟨rfl, .inr rfl⟩, fun e => trivial⟩,
        fun e => trivial⟩
  | ping =>
      refine tame_requireAuthenticated fun sessionId => tame_encoded fun request => ?_
      refine ⟨nofun, fun response => ?_, fun e => trivial⟩
      exact ⟨rfl, fun hk => absurd rfl hk, nofun, fun decoded => .inr ⟨rfl, .inr rfl⟩, fun e => trivial⟩
  | resetServerContext => exact tame_resetServerContext codec rfl
  | getFunctionInterface functionName => exact tame_lookup goesOn_settle
  | getStructureDefinition structureName => exact tame_lookup goesOn_settle
  | getLegacyStructureDefinition structureName =>
      exact tame_getLegacyStructureDefinition codec structureName
  | optimizedLookup message request decode normalize =>
      exact tame_optimizedLookup goesOn_settle.toGoesOn
  | invokeClassicWithMetadata request decode =>
      exact tame_invokeWithMetadata rfl goesOn_settle.toGoesOn
  | invokeClassic functionName capture => exact tame_invokeClassic codec functionName capture

end Program

namespace DirectCpicSession
variable {codec : Codec Fields Value} {lax : Lax} {s s' : DirectCpicSession Fields Value}
  {i j : Nat} {k : Known}

/-- What the operation knows is the case. -/
structure Knows (lax : Lax) (s : DirectCpicSession Fields Value) (i : Nat) (k : Known) :
    Prop where
  authenticated : k.authenticated = true → lax.deadSuccess ∨ s.authenticated = true
  owner : k.owner = true → s.compoundOperationOwner = some i
  live : k.phase = .live → s.cpicSessionId ≠ none
  replied : k.phase = .replied → ∃ ended, s.reply i = some ended ∧
    (ended = true → s.setup = .closed ∧ s.closed = true) ∧
    (ended = false → lax.deadSuccess ∨ s.closed = false)
  checked : k.phase = .checked → lax.deadSuccess ∨ s.reply i = some false ∧ s.closed = false

/-- What is left of the operation goes on from what it knows. -/
def StageKnown (codec : Codec Fields Value) (lax : Lax) (s : DirectCpicSession Fields Value) (i : Nat) :
    Stage Fields Value → Prop
  | .awaiting program =>
      ∃ k : Known, k.phase ≠ .live ∧ s.Knows lax i k ∧ program.Tame codec (s.undecoded i) k
  | .terminating failure program =>
      failure.disposition ≠ .reusable ∧ s.closed = true ∧
        ∃ k : Known, k.phase = .fresh ∧ s.Knows lax i k ∧ program.Tame codec (s.undecoded i) k
  | .exchanging _ next =>
      ∃ k : Known, k.phase = .fresh ∧ s.Knows lax i k ∧
        (∀ data, (next (.ok data)).Tame codec (s.undecoded i) (k.after .replied)) ∧
        ∀ e, (next (.error e)).Tame codec (s.undecoded i) k
  | _ => True

end DirectCpicSession

/-- The operation whose code is running. -/
def Turn.actor (d : Turn Fields Value) : Option Nat :=
  match d.control with
  | .idle => none
  | .running i _ | .exchange i _ _ _ => some i

/-- Every operation goes on from what it knows. -/
structure Turn.Aware (codec : Codec Fields Value) (lax : Lax) (d : Turn Fields Value) : Prop where
  others : ∀ j o, d.actor ≠ some j → d.session.operations[j]? = some o →
    d.session.StageKnown codec lax j o.stage
  running : match d.control with
    | .idle => True
    | .running i program => ∃ k : Known, d.session.Knows lax i k ∧
        program.Tame codec (d.session.undecoded i) k
    | .exchange i x next _ => d.session.StageKnown codec lax i (.exchanging x next)
  shut : d.session.closed = true →
    d.session.cpicSessionId = none ∨ ∃ i, .loggedOn i true ∈ d.session.trace
  logons : lax.deadSuccess ∨ ∀ i, .loggedOn i true ∉ d.session.trace

namespace DirectCpicSession
variable {codec : Codec Fields Value} {lax : Lax} {s s' t : DirectCpicSession Fields Value}
  {i j : Nat} {k : Known} {a : Option Nat}

/-- A stage with the same continuation. -/
def SameStage (stage stage' : Stage Fields Value) : Prop :=
  stage' = stage ∨ ∃ x y next, stage = .exchanging x next ∧ stage' = .exchanging y next

/-- What code leaves untouched of the operations other than the one it belongs to. -/
structure Keeps (lax : Lax) (a : Option Nat) (s s' : DirectCpicSession Fields Value) : Prop where
  authenticated : s.authenticated = true → s'.authenticated = true
  owner : ∀ j, a ≠ some j → s.compoundOperationOwner = some j →
    s'.compoundOperationOwner = some j
  closed : s.closed = true → s'.closed = true
  ended : s.setup = .closed → s.closed = true → s'.setup = .closed
  closing : lax.deadSuccess ∨ (s'.closed = true → s.closed = true ∨
    ∀ j, a ≠ some j → ¬ s.Processing j)
  stages : ∀ j o', a ≠ some j → s'.operations[j]? = some o' → ∃ o, s.operations[j]? = some o ∧
    o'.call = o.call ∧ o'.reply = o.reply ∧ SameStage o.stage o'.stage

theorem Keeps.refl : s.Keeps lax a s where
  authenticated := id
  owner _ _ h := h
  closed := id
  ended h _ := h
  closing := .inr .inl
  stages _ o' _ ho' := ⟨o', ho', rfl, rfl, .inl rfl⟩

theorem SameStage.trans {p q r : Stage Fields Value} (h : SameStage p q) (h' : SameStage q r) :
    SameStage p r := by
  obtain rfl | ⟨x, y, next, rfl, rfl⟩ := h
  · exact h'
  · obtain rfl | ⟨x', y', next', he, rfl⟩ := h'
    · exact .inr ⟨x, y, next, rfl, rfl⟩
    · cases he
      exact .inr ⟨x, y', next, rfl, rfl⟩

/-- Code which goes on without closing the session. -/
theorem Keeps.after (h : s.Keeps lax a s') (h' : s'.Keeps lax a t)
    (hc : t.closed = true → s'.closed = true) : s.Keeps lax a t where
  authenticated ha := h'.authenticated (h.authenticated ha)
  owner j hj ho := h'.owner j hj (h.owner j hj ho)
  closed hs := h'.closed (h.closed hs)
  ended hs hclosed := h'.ended (h.ended hs hclosed) (h.closed hclosed)
  closing := h.closing.imp_right fun hclosing ht => hclosing (hc ht)
  stages j o' hj ho' := by
    obtain ⟨o, ho, hcall, hreply, hstage⟩ := h'.stages j o' hj ho'
    obtain ⟨p, hp, hcall', hreply', hstage'⟩ := h.stages j o hj ho
    exact ⟨p, hp, hcall.trans hcall', hreply.trans hreply', hstage'.trans hstage⟩

theorem reply_eq {o : Operation Fields Value} (ho : s.operations[i]? = some o) :
    s.reply i = o.reply := by
  unfold reply
  rw [ho]
  rfl

theorem undecoded_eq {o : Operation Fields Value} (ho : s.operations[i]? = some o) :
    s.undecoded i = o.call.isExchange := by
  unfold undecoded
  rw [ho]
  rfl

/-- The session is not closed under an operation which is processing its reply. -/
theorem Keeps.stillOpen (h : s.Keeps lax a s') (hj : a ≠ some j)
    (hp : lax.deadSuccess ∨ s.Processing j) (ho : s.closed = false) :
    lax.deadSuccess ∨ s'.closed = false := by
  obtain hlax | hp := hp
  · exact .inl hlax
  · refine h.closing.imp_right fun hclosing => ?_
    by_contra hc
    obtain hc | hq := hclosing (by simpa using hc)
    · rw [ho] at hc
      cases hc
    · exact hq j hj hp

/-- What an operation knows stays the case while another one, or the transport, goes on. -/
theorem Knows.keeps (h : s.Knows lax j k) (hl : k.phase ≠ .live) (hk : s.Keeps lax a s')
    (hj : a ≠ some j) (hr : s'.reply j = s.reply j)
    (hp : lax.deadSuccess ∨ (k.phase ≠ .fresh → s.Processing j)) : s'.Knows lax j k where
  authenticated ha := (h.authenticated ha).imp_right hk.authenticated
  owner ho := hk.owner j hj (h.owner ho)
  live hlive := absurd hlive hl
  replied hreplied := by
    obtain ⟨ended, hreply, hended, hopen⟩ := h.replied hreplied
    refine ⟨ended, hr.trans hreply, fun he => ?_, fun he => ?_⟩
    · obtain ⟨hs, hc⟩ := hended he
      exact ⟨hk.ended hs hc, hk.closed hc⟩
    · obtain hlax | hopen := hopen he
      · exact .inl hlax
      · exact hk.stillOpen hj (hp.imp_right fun hp => hp (by rw [hreplied]; exact nofun)) hopen
  checked hchecked := by
    obtain hlax | ⟨hreply, hopen⟩ := h.checked hchecked
    · exact .inl hlax
    · refine (hk.stillOpen hj (hp.imp_right fun hp => hp ?_) hopen).imp_right fun hopen =>
        ⟨hr.trans hreply, hopen⟩
      rw [hchecked]
      exact nofun

theorem StageKnown.keeps {o o' : Operation Fields Value} (h : s.StageKnown codec lax j o.stage)
    (hk : s.Keeps lax a s') (hj : a ≠ some j) (ho : s.operations[j]? = some o)
    (ho' : s'.operations[j]? = some o') (hcall : o'.call = o.call) (hreply : o'.reply = o.reply)
    (hs : SameStage o.stage o'.stage) : s'.StageKnown codec lax j o'.stage := by
  have hr : s'.reply j = s.reply j := by rw [reply_eq ho, reply_eq ho', hreply]
  have hu : s'.undecoded j = s.undecoded j := by rw [undecoded_eq ho, undecoded_eq ho', hcall]
  obtain hs | ⟨x, y, next, hx, hy⟩ := hs
  · rw [hs]
    unfold StageKnown at h ⊢
    rw [hu]
    cases hstage : o.stage with
    | awaiting program =>
        rw [hstage] at h
        obtain ⟨k, hl, hknows, ht⟩ := h
        refine ⟨k, hl, hknows.keeps hl hk hj hr ?_, ht⟩
        have hprocessing : s.reply j ≠ none → s.Processing j := fun hreplied =>
          ⟨o, ho, by rw [← reply_eq ho]; exact hreplied, by rw [hstage]; trivial⟩
        cases hphase : k.phase with
        | fresh => exact .inr fun hp => absurd rfl hp
        | live => exact absurd hphase hl
        | replied =>
            obtain ⟨ended, he, -⟩ := hknows.replied hphase
            refine .inr fun _ => hprocessing ?_
            rw [he]
            exact nofun
        | checked =>
            refine (hknows.checked hphase).imp_right fun hopen _ => hprocessing ?_
            rw [hopen.1]
            exact nofun
    | terminating failure program =>
        rw [hstage] at h
        obtain ⟨hf, hc, k, hfresh, hknows, ht⟩ := h
        exact ⟨hf, hk.closed hc, k, hfresh, hknows.keeps (by rw [hfresh]; exact nofun) hk hj hr
          (.inr fun hp => absurd hfresh hp), ht⟩
    | exchanging x next =>
        rw [hstage] at h
        obtain ⟨k, hfresh, hknows, ht⟩ := h
        exact ⟨k, hfresh, hknows.keeps (by rw [hfresh]; exact nofun) hk hj hr
          (.inr fun hp => absurd hfresh hp), ht⟩
    | _ => trivial
  · rw [hx] at h
    rw [hy]
    obtain ⟨k, hfresh, hknows, ht⟩ := h
    unfold StageKnown
    rw [hu]
    exact ⟨k, hfresh, hknows.keeps (by rw [hfresh]; exact nofun) hk hj hr
      (.inr fun hp => absurd hfresh hp), ht⟩

/-- What nothing of what an operation knows depends on. -/
theorem Knows.fresh (h : s.Knows lax i k) (hf : k.phase = .fresh)
    (ha : s'.authenticated = s.authenticated)
    (ho : s'.compoundOperationOwner = s.compoundOperationOwner) : s'.Knows lax i k where
  authenticated hk := by
    rw [ha]
    exact h.authenticated hk
  owner hk := ho.trans (h.owner hk)
  live hl := absurd (hf.symm.trans hl) nofun
  replied hr := absurd (hf.symm.trans hr) nofun
  checked hc := absurd (hf.symm.trans hc) nofun

/-- Less is known after an await, and after an error nothing. -/
theorem Knows.after_fresh (h : s.Knows lax i k) : s.Knows lax i (k.after .fresh) where
  authenticated := h.authenticated
  owner := h.owner
  live := nofun
  replied := nofun
  checked := nofun

theorem reply_setStage {stage : Stage Fields Value} : (s.setStage i stage).reply j = s.reply j := by
  unfold reply setStage
  simp only [List.getElem?_modify, Option.map_eq_map]
  cases s.operations[j]? with
  | none => rfl
  | some o => by_cases hj : i = j <;> simp [hj]

theorem undecoded_setStage {stage : Stage Fields Value} :
    (s.setStage i stage).undecoded j = s.undecoded j := by
  unfold undecoded setStage
  simp only [List.getElem?_modify, Option.map_eq_map]
  cases s.operations[j]? with
  | none => rfl
  | some o => by_cases hj : i = j <;> simp [hj]

theorem Knows.setStage {stage : Stage Fields Value} (h : s.Knows lax j k) :
    (s.setStage i stage).Knows lax j k where
  authenticated := h.authenticated
  owner := h.owner
  live := h.live
  replied hr := by
    rw [reply_setStage]
    exact h.replied hr
  checked hc := by
    rw [reply_setStage]
    exact h.checked hc

theorem StageKnown.setStage {stage stage' : Stage Fields Value} (h : s.StageKnown codec lax j stage) :
    (s.setStage i stage').StageKnown codec lax j stage := by
  unfold StageKnown at *
  rw [undecoded_setStage]
  cases stage with
  | awaiting program =>
      obtain ⟨k, hl, hk, ht⟩ := h
      exact ⟨k, hl, hk.setStage, ht⟩
  | terminating failure program =>
      obtain ⟨hf, hc, k, hfresh, hk, ht⟩ := h
      exact ⟨hf, hc, k, hfresh, hk.setStage, ht⟩
  | exchanging x next =>
      obtain ⟨k, hfresh, hk, ht⟩ := h
      exact ⟨k, hfresh, hk.setStage, ht⟩
  | _ => trivial

/-- Nothing is observed of a logon, and a session id is only ever cleared. -/
structure Silent (s s' : DirectCpicSession Fields Value) : Prop where
  sessionId : s'.cpicSessionId = none ∨
    (s'.cpicSessionId = s.cpicSessionId ∧ s'.closed = s.closed)
  logons : ∀ i, .loggedOn i true ∈ s'.trace ↔ .loggedOn i true ∈ s.trace

theorem Silent.refl : s.Silent s := ⟨.inr ⟨rfl, rfl⟩, fun _ => Iff.rfl⟩

theorem Silent.after (h : s.Silent s') (h' : s'.Silent t) : s.Silent t where
  sessionId := by
    obtain hn | ⟨he, hc⟩ := h'.sessionId
    · exact .inl hn
    · obtain hn | ⟨he', hc'⟩ := h.sessionId
      · exact .inl (he.trans hn)
      · exact .inr ⟨he.trans he', hc.trans hc'⟩
  logons i := (h'.logons i).trans (h.logons i)

theorem Silent.setStage {stage : Stage Fields Value} (h : s.Silent s') :
    s.Silent (s'.setStage i stage) := ⟨h.sessionId, h.logons⟩

theorem silent_observe {o : Observation} (ho : ∀ i, o ≠ .loggedOn i true) :
    s.Silent (s.observe o) where
  sessionId := .inr ⟨rfl, rfl⟩
  logons i := by
    simp [observe, (ho i).symm]

/-- The operations are as they were. -/
theorem keeps_of_operations (hops : s'.operations = s.operations)
    (ha : s.authenticated = true → s'.authenticated = true)
    (ho : ∀ j, a ≠ some j → s.compoundOperationOwner = some j →
      s'.compoundOperationOwner = some j) (hc : s'.closed = s.closed)
    (hs : s.setup = .closed → s.closed = true → s'.setup = .closed) : s.Keeps lax a s' where
  authenticated := ha
  owner := ho
  closed h := hc.trans h
  ended := hs
  closing := .inr fun h => .inl (hc.symm.trans h)
  stages j o' _ ho' := ⟨o', by rw [← hops]; exact ho', rfl, rfl, .inl rfl⟩

theorem keeps_observe (o : Observation) : s.Keeps lax a (s.observe o) :=
  keeps_of_operations rfl id (fun _ _ h => h) rfl fun h _ => h

/-- A pending `receive` settles. -/
theorem stages_settleReceive (s : DirectCpicSession Fields Value)
    (outcome : Except Cause Bytes) (j : Nat) (o' : Operation Fields Value)
    (ho' : (s.settleReceive outcome).operations[j]? = some o') :
    ∃ o, s.operations[j]? = some o ∧ o'.call = o.call ∧ o'.reply = o.reply ∧
      SameStage o.stage o'.stage := by
  rw [settleReceive_operations] at ho'
  cases hp : s.transport.pendingReceive with
  | none =>
      rw [hp] at ho'
      exact ⟨o', ho', rfl, rfl, .inl rfl⟩
  | some k =>
      rw [hp] at ho'
      simp only [List.getElem?_modify, Option.map_eq_map] at ho'
      cases ho : s.operations[j]? with
      | none => simp [ho] at ho'
      | some o =>
          rw [ho, Option.map_some, Option.some.injEq] at ho'
          refine ⟨o, rfl, ?_⟩
          by_cases hj : k = j
          · rw [if_pos hj] at ho'
            subst ho'
            refine ⟨rfl, rfl, ?_⟩
            cases hstage : o.stage with
            | exchanging x next => exact .inr ⟨x, _, next, rfl, rfl⟩
            | _ => exact .inl rfl
          · rw [if_neg hj] at ho'
            subst ho'
            exact ⟨rfl, rfl, .inl rfl⟩

theorem settleReceive_known (s : DirectCpicSession Fields Value) (outcome : Except Cause Bytes) :
    (s.settleReceive outcome).authenticated = s.authenticated ∧
      (s.settleReceive outcome).compoundOperationOwner = s.compoundOperationOwner ∧
      (s.settleReceive outcome).cpicSessionId = s.cpicSessionId := by
  unfold settleReceive
  split
  · exact ⟨rfl, rfl, rfl⟩
  · exact ⟨rfl, rfl, rfl⟩

theorem keeps_settled (outcome : Except Cause Bytes) (t : NiSocketTransport) :
    s.Keeps lax a { s.settleReceive outcome with transport := t } where
  authenticated h := (s.settleReceive_known outcome).1.trans h
  owner _ _ h := (s.settleReceive_known outcome).2.1.trans h
  closed h := (settleReceive_closed outcome).trans h
  ended h _ := (s.settleReceive_fields outcome).1.trans h
  closing := .inr fun h => .inl ((settleReceive_closed outcome).symm.trans h)
  stages j o' _ ho' := s.stages_settleReceive outcome j o' ho'

theorem silent_settled (outcome : Except Cause Bytes) (t : NiSocketTransport) :
    s.Silent { s.settleReceive outcome with transport := t } where
  sessionId := .inr ⟨(s.settleReceive_known outcome).2.2, settleReceive_closed outcome⟩
  logons i := by
    change _ ∈ (s.settleReceive outcome).trace ↔ _
    rw [(s.settleReceive_fields outcome).2.2.2.1]

/-- The generation is terminated while no other reply is being processed. -/
theorem keeps_terminateGeneration
    (hg : lax.deadSuccess ∨ s.closed = true ∨ ∀ j, a ≠ some j → ¬ s.Processing j) :
    s.Keeps lax a s.terminateGeneration := by
  cases hc : s.closed with
  | true =>
      rw [terminateGeneration_of_closed hc]
      exact keeps_of_operations rfl id (fun _ _ h => h) rfl fun h _ => h
  | false =>
      rw [terminateGeneration_of_open hc]
      have hk : Keeps lax a { s with
          closed := true
          cpicSessionId := none
          descriptors := fun _ => none } _ :=
        keeps_settled (.error (.ni .connectionClosed "NI socket was closed locally")) .initial
      exact
        { authenticated := hk.authenticated
          owner := hk.owner
          closed := fun h => closeTransport_closed.trans rfl
          ended := fun h _ => hk.ended h rfl
          closing := hg.imp_right fun hg _ => hg
          stages := hk.stages }

/-- A `close()` while no reply is being processed. -/
theorem keeps_close (hc : s.closed = false) (hg : lax.deadSuccess ∨ ∀ j, ¬ s.Processing j) :
    s.Keeps lax none s.close := by
  have hclosing : s.Keeps lax none ({ s with
      closed := true
      cpicSessionId := none
      descriptors := fun _ => none }.observe .closing) :=
    { authenticated := id
      owner := fun _ _ h => h
      closed := fun _ => rfl
      ended := fun _ h => absurd h (by rw [hc]; exact nofun)
      closing := hg.imp_right fun hg _ => .inr fun j _ => hg j
      stages := fun j o' _ ho' => ⟨o', ho', rfl, rfl, .inl rfl⟩ }
  unfold close
  split
  · exact keeps_of_operations rfl id (fun _ _ h => h) rfl fun h _ => h
  · dsimp only
    split
    · rename_i hready
      split
      · refine hclosing.after (keeps_of_operations rfl id (fun _ _ h => h) rfl fun h _ => ?_) id
        change s.setup = .closed at h
        change s.setup = .ready at hready
        rw [h] at hready
        cases hready
      · exact hclosing.after (keeps_settled _ _) fun _ => rfl
    · exact hclosing.after (keeps_settled _ _) fun _ => rfl

theorem silent_close : s.Silent s.close := by
  unfold close
  split
  · exact ⟨.inr ⟨rfl, rfl⟩, fun _ => Iff.rfl⟩
  · have hclosing : s.Silent ({ s with
        closed := true
        cpicSessionId := none
        descriptors := fun _ => none }.observe .closing) := ⟨.inl rfl, fun i => by simp [observe]⟩
    dsimp only
    split
    · split
      · exact hclosing.after ⟨.inl rfl, fun i => by simp [observe]⟩
      · exact hclosing.after (silent_settled _ _)
    · exact hclosing.after (silent_settled _ _)

theorem silent_terminateGeneration : s.Silent s.terminateGeneration := by
  cases hc : s.closed with
  | true =>
      rw [terminateGeneration_of_closed hc]
      exact ⟨.inr ⟨rfl, rfl⟩, fun _ => Iff.rfl⟩
  | false =>
      rw [terminateGeneration_of_open hc]
      refine ⟨.inl (settleReceive_known _ _).2.2, fun i => ?_⟩
      change _ ∈ .terminated :: (settleReceive _ _).trace ↔ _
      rw [(settleReceive_fields _ _).2.2.2.1]
      simp

theorem terminateGeneration_known (s : DirectCpicSession Fields Value) :
    s.terminateGeneration.authenticated = s.authenticated ∧
      s.terminateGeneration.compoundOperationOwner = s.compoundOperationOwner := by
  cases hc : s.closed with
  | true =>
      rw [terminateGeneration_of_closed hc]
      exact ⟨rfl, rfl⟩
  | false =>
      rw [terminateGeneration_of_open hc]
      exact ⟨(settleReceive_known _ _).1, (settleReceive_known _ _).2.1⟩

theorem undecoded_settleReceive (outcome : Except Cause Bytes) :
    (s.settleReceive outcome).undecoded i = s.undecoded i := by
  unfold undecoded
  rw [settleReceive_operations]
  cases s.transport.pendingReceive with
  | none => rfl
  | some k =>
      simp only [List.getElem?_modify, Option.map_eq_map]
      cases s.operations[i]? with
      | none => rfl
      | some o => by_cases hk : k = i <;> simp [hk]

theorem undecoded_terminateGeneration : s.terminateGeneration.undecoded i = s.undecoded i := by
  cases hc : s.closed with
  | true => rw [terminateGeneration_of_closed hc]
  | false =>
      rw [terminateGeneration_of_open hc]
      exact undecoded_settleReceive (s := { s with
        closed := true
        cpicSessionId := none
        descriptors := fun _ => none }) _

end DirectCpicSession

namespace Turn
variable {codec : Codec Fields Value} {lax : Lax} {d : Turn Fields Value}
  {s s' : DirectCpicSession Fields Value} {i : Nat}
open DirectCpicSession

theorem Aware.keeps (h : d.Aware codec lax) (hk : d.session.Keeps lax d.actor s') (j : Nat)
    (o' : Operation Fields Value) (hj : d.actor ≠ some j)
    (ho' : s'.operations[j]? = some o') : s'.StageKnown codec lax j o'.stage := by
  obtain ⟨o, ho, hcall, hreply, hs⟩ := hk.stages j o' hj ho'
  exact (h.others j o hj ho).keeps hk hj ho ho' hcall hreply hs

theorem Aware.shut_of (h : d.Aware codec lax) (hs : d.session.Silent s') (hc : s'.closed = true) :
    s'.cpicSessionId = none ∨ ∃ i, .loggedOn i true ∈ s'.trace := by
  obtain hn | ⟨he, hc'⟩ := hs.sessionId
  · exact .inl hn
  · obtain hn | ⟨i, hi⟩ := h.shut (hc'.symm.trans hc)
    · exact .inl (he.trans hn)
    · exact .inr ⟨i, (hs.logons i).mpr hi⟩

theorem Aware.logons_of (h : d.Aware codec lax) (hs : d.session.Silent s') :
    lax.deadSuccess ∨ ∀ i, .loggedOn i true ∉ s'.trace :=
  h.logons.imp_right fun hl i hi => hl i ((hs.logons i).mp hi)

/-- Something happens while no code is running. -/
theorem Aware.idles (h : Aware codec lax ⟨s, .idle⟩) (hk : s.Keeps lax none s') (hs : s.Silent s') :
    Aware codec lax ⟨s', .idle⟩ where
  others j o _ ho := h.keeps hk j o nofun ho
  running := trivial
  shut := h.shut_of hs
  logons := h.logons_of hs

/-- The code of the operation stops, or none was running. -/
theorem Aware.stops (h : d.Aware codec lax) (ha : d.actor = none ∨ d.actor = some i)
    (hk : d.session.Keeps lax d.actor s') (hs : d.session.Silent s')
    {stage : Stage Fields Value} (hi : s'.StageKnown codec lax i stage) :
    Aware codec lax ⟨s'.setStage i stage, .idle⟩ where
  others j o _ ho := by
    by_cases hj : i = j
    · subst hj
      simp only [setStage, List.getElem?_modify, Option.map_eq_map, if_true,
        Option.map_eq_some_iff] at ho
      obtain ⟨o', -, rfl⟩ := ho
      exact hi.setStage
    · have ho : s'.operations[j]? = some o := by
        simpa [setStage, hj] using ho
      refine (h.keeps hk j o ?_ ho).setStage
      obtain ha | ha := ha
      · rw [ha]
        rintro ⟨⟩
      · rw [ha]
        simpa using hj
  running := trivial
  shut := h.shut_of hs.setStage
  logons := h.logons_of hs.setStage

/-- The code which is running goes on. -/
theorem Aware.runs (h : d.Aware codec lax) (ha : d.actor = some i)
    (hk : d.session.Keeps lax d.actor s') (hs : d.session.Silent s')
    {program : Program Fields Value} {k : Known} (hknows : s'.Knows lax i k)
    (ht : program.Tame codec (s'.undecoded i) k) : Aware codec lax ⟨s', .running i program⟩ where
  others j o hj ho := h.keeps hk j o (by rw [ha]; exact hj) ho
  running := ⟨k, hknows, ht⟩
  shut := h.shut_of hs
  logons := h.logons_of hs

theorem Aware.exchanges (h : d.Aware codec lax) (ha : d.actor = some i)
    (hk : d.session.Keeps lax d.actor s') (hs : d.session.Silent s') {x : Exchange}
    {next : Except Thrown Bytes → Program Fields Value} {point : Point}
    (hi : s'.StageKnown codec lax i (.exchanging x next)) :
    Aware codec lax ⟨s', .exchange i x next point⟩ where
  others j o hj ho := h.keeps hk j o (by rw [ha]; exact hj) ho
  running := hi
  shut := h.shut_of hs
  logons := h.logons_of hs

end Turn

end OpenRfc.DirectCpic
