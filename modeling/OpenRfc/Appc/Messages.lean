import OpenRfc.Appc.Reassembly

/-!
The messages of a conversation. The data records which the decoder has accepted are cut behind
those which end a message: the segments are the messages it has returned, and the rest is what
it has buffered.
-/

namespace OpenRfc.Appc
open DirectCpic (AppcFunction AppcHeader Cause appcCommonHeaderLength appcRecordHeaderLength
  decodeAppcHeader)
open Segments

/-- A record, and the entry point through which it is pushed. -/
structure Record where
  payload : Bytes
  terminalDeallocation : Bool
deriving DecidableEq, Repr

/-- What a data record contributes to a message. -/
structure Piece where
  functionCode : AppcFunction
  conversationId : Bytes
  sequenceNumber : Nat
  communicationIndex : Nat
  connectionIndex : Nat
  data : Bytes
  closes : Bool
deriving DecidableEq, Repr

def Piece.of (fragment : AppcDataFragment) (operationInfo : AppcIncomingDataOperationInfo)
    (terminalDeallocation : Bool) : Piece where
  functionCode := fragment.header.functionCode
  conversationId := fragment.header.conversationId
  sequenceNumber := fragment.header.sequenceNumber
  communicationIndex := operationInfo.communicationIndex
  connectionIndex := operationInfo.connectionIndex
  data := fragment.data
  closes := terminalDeallocation || fragment.isFinal

def Record.piece (record : Record) : Option Piece :=
  match decodeAppcDataFragment record.payload,
    decodeAppcIncomingDataOperationInfo
      ((record.payload.take appcRecordHeaderLength).drop appcCommonHeaderLength) with
  | .ok fragment, .ok operationInfo =>
      some (.of fragment operationInfo record.terminalDeallocation)
  | _, _ => none

/-- The first record of a message. -/
def Piece.Starts (options : AppcConversationDecoderOptions) (piece : Piece) : Prop :=
  piece.functionCode = .sapSend ∨
    piece.functionCode = .receive ∧ options.allowInitialReceive = true

/-- A later record of the message which another one has started. -/
structure Piece.Continues (first piece : Piece) : Prop where
  functionCode : piece.functionCode = .receive
  conversationId : piece.conversationId = first.conversationId
  sequenceNumber : piece.sequenceNumber = first.sequenceNumber
  communicationIndex : piece.communicationIndex = first.communicationIndex
  connectionIndex : piece.connectionIndex = first.connectionIndex

/-- A message of a run of records. -/
def MessageOf (options : AppcConversationDecoderOptions) (run : List Piece)
    (message : AppcMessage) : Prop :=
  ∃ first rest, run = first :: rest ∧ first.Starts options ∧
    (∀ piece ∈ rest, first.Continues piece) ∧
    message =
      { data := (run.map (·.data)).flatten
        conversationId := first.conversationId
        sequenceNumber := first.sequenceNumber
        fragmentCount := run.length
        communicationIndex := first.communicationIndex
        connectionIndex := first.connectionIndex }

/-- The decoder behind the records pushed so far, the data records it has accepted, and the
messages it has returned. -/
structure Conversation where
  decoder : AppcConversationDecoder
  pieces : List Piece
  messages : List AppcMessage

def Conversation.push (c : Conversation) (record : Record) : Conversation :=
  match c.decoder.pushRecord record.payload record.terminalDeallocation with
  | (.ok messages, decoder) =>
      ⟨decoder, c.pieces ++ record.piece.toList, c.messages ++ messages⟩
  | (.error _, decoder) => { c with decoder }

def conversation (options : AppcConversationDecoderOptions) (records : List Record) :
    Conversation :=
  records.foldl Conversation.push ⟨.create options, [], []⟩

section Pushing
variable {d d' : AppcConversationDecoder} {payload : Bytes} {terminalDeallocation : Bool}
  {outcome : Except Cause (List AppcMessage)}

/-- What a push can do. -/
inductive Pushed (d : AppcConversationDecoder) (record : Record) :
    Except Cause (List AppcMessage) × AppcConversationDecoder → Prop
  | refused (cause : Cause) : Pushed d record (.error cause, d)
  | control (header : AppcHeader) (hd : decodeAppcHeader record.payload = .ok header)
      (hf : isRfcData header.functionCode = false) (hp : record.piece = none)
      (hn : d.pending = none) : Pushed d record (.ok [], d)
  | whole (fragment : AppcDataFragment) (operationInfo : AppcIncomingDataOperationInfo)
      (hp : record.piece = some (.of fragment operationInfo record.terminalDeallocation))
      (hs : (Piece.of fragment operationInfo record.terminalDeallocation).Starts d.options)
      (hc : (Piece.of fragment operationInfo record.terminalDeallocation).closes = true)
      (hn : d.pending = none) :
      Pushed d record (.ok [(PendingMessage.start fragment operationInfo).message], d)
  | started (fragment : AppcDataFragment) (operationInfo : AppcIncomingDataOperationInfo)
      (hp : record.piece = some (.of fragment operationInfo record.terminalDeallocation))
      (hs : (Piece.of fragment operationInfo record.terminalDeallocation).Starts d.options)
      (hc : (Piece.of fragment operationInfo record.terminalDeallocation).closes = false)
      (hn : d.pending = none)
      (hl : checkLimits d.options fragment.data.length 1 = .ok ()) :
      Pushed d record (.ok [], { d with pending := some (.start fragment operationInfo) })
  | continued (pending : PendingMessage) (piece : Piece) (hp : record.piece = some piece)
      (hr : piece.functionCode = .receive)
      (hi : pending.conversationId = piece.conversationId ∧
        pending.sequenceNumber = piece.sequenceNumber ∧
        pending.communicationIndex = piece.communicationIndex ∧
        pending.connectionIndex = piece.connectionIndex)
      (hc : piece.closes = false) (hn : d.pending = some pending)
      (hl : checkLimits d.options (pending.byteLength + piece.data.length)
        (pending.fragmentCount + 1) = .ok ()) :
      Pushed d record (.ok [], { d with pending := some (pending.append piece.data) })
  | completed (pending : PendingMessage) (piece : Piece) (hp : record.piece = some piece)
      (hr : piece.functionCode = .receive)
      (hi : pending.conversationId = piece.conversationId ∧
        pending.sequenceNumber = piece.sequenceNumber ∧
        pending.communicationIndex = piece.communicationIndex ∧
        pending.connectionIndex = piece.connectionIndex)
      (hc : piece.closes = true) (hn : d.pending = some pending) :
      Pushed d record (.ok [(pending.append piece.data).message], { d with pending := none })

theorem pushed_start {record : Record} {fragment : AppcDataFragment}
    {operationInfo : AppcIncomingDataOperationInfo} {isFinal : Bool}
    (hp : record.piece = some (.of fragment operationInfo record.terminalDeallocation))
    (hs : (Piece.of fragment operationInfo record.terminalDeallocation).Starts d.options)
    (hc : isFinal = (Piece.of fragment operationInfo record.terminalDeallocation).closes)
    (hn : d.pending = none) :
    Pushed d record (d.startMessage fragment operationInfo isFinal) := by
  unfold AppcConversationDecoder.startMessage
  split
  · exact .refused _
  · rename_i hl
    split
    · rename_i hf
      exact .whole fragment operationInfo hp hs (hc.symm.trans hf) hn
    · rename_i hf
      exact .started fragment operationInfo hp hs
        (hc.symm.trans (Bool.eq_false_iff.mpr hf)) hn hl

theorem checkContinuation_ok {pending : PendingMessage} {header : AppcHeader}
    {operationInfo : AppcIncomingDataOperationInfo} {moment : String}
    (h : checkContinuation pending header operationInfo moment = .ok ()) :
    pending.conversationId = header.conversationId ∧
      pending.sequenceNumber = header.sequenceNumber ∧
      pending.communicationIndex = operationInfo.communicationIndex ∧
      pending.connectionIndex = operationInfo.connectionIndex := by
  unfold checkContinuation at h
  split at h
  · cases h
  · rename_i hid
    split at h
    · cases h
    · rename_i hsequence
      split at h
      · cases h
      · rename_i hindices
        rw [not_or] at hindices
        exact ⟨not_not.mp hid, not_not.mp hsequence, not_not.mp hindices.1,
          not_not.mp hindices.2⟩

theorem pushed_continue {record : Record} {pending : PendingMessage}
    {fragment : AppcDataFragment} {operationInfo : AppcIncomingDataOperationInfo}
    {moment : String} {isFinal : Bool}
    (hp : record.piece = some (.of fragment operationInfo record.terminalDeallocation))
    (hr : fragment.header.functionCode = .receive)
    (hc : isFinal = (Piece.of fragment operationInfo record.terminalDeallocation).closes)
    (hn : d.pending = some pending) :
    Pushed d record (d.continueMessage pending fragment operationInfo moment isFinal) := by
  unfold AppcConversationDecoder.continueMessage
  split
  · exact .refused _
  · rename_i hcontinues
    have hi := checkContinuation_ok hcontinues
    split
    · exact .refused _
    · rename_i hl
      split
      · rename_i hf
        exact .completed pending _ hp hr hi (hc.symm.trans hf) hn
      · rename_i hf
        exact .continued pending _ hp hr hi (hc.symm.trans (Bool.eq_false_iff.mpr hf)) hn hl

theorem readFragment_ok {options : AppcConversationDecoderOptions}
    {pending : Option PendingMessage} {fragment : AppcDataFragment}
    {operationInfo : AppcIncomingDataOperationInfo}
    (h : readFragment options pending payload = .ok (fragment, operationInfo)) :
    decodeAppcDataFragment payload = .ok fragment ∧
      decodeAppcIncomingDataOperationInfo
        ((payload.take appcRecordHeaderLength).drop appcCommonHeaderLength) =
        .ok operationInfo := by
  obtain ⟨-, -, h⟩ := Fallible.bind_eq_ok.mp h
  obtain ⟨fragment', hf, h⟩ := Fallible.bind_eq_ok.mp h
  obtain ⟨operationInfo', ho, h⟩ := Fallible.bind_eq_ok.mp h
  obtain ⟨-, -, h⟩ := Fallible.bind_eq_ok.mp h
  cases h
  exact ⟨hf, ho⟩

theorem decodeAppcDataFragment_ok {fragment : AppcDataFragment}
    (h : decodeAppcDataFragment payload = .ok fragment) :
    decodeAppcHeader payload = .ok fragment.header ∧
      isRfcData fragment.header.functionCode = true := by
  unfold decodeAppcDataFragment at h
  split at h
  · cases h
  · split at h
    · cases h
    · rename_i header hd
      split at h
      · cases h
      · rename_i hdata
        cases h
        exact ⟨hd, Bool.not_eq_false _ ▸ hdata⟩

/-- Everything a push can do. -/
theorem pushed (d : AppcConversationDecoder) (record : Record) :
    Pushed d record (d.pushRecord record.payload record.terminalDeallocation) := by
  unfold AppcConversationDecoder.pushRecord
  split
  · exact .refused _
  · rename_i header hd
    split
    · exact .refused _
    · split
      · rename_i hcontrol
        unfold AppcConversationDecoder.pushControl
        split
        · exact .refused _
        · rename_i hn
          split
          · exact .refused _
          · apply Pushed.control header hd hcontrol
            · unfold Record.piece
              split
              · rename_i hf _
                obtain ⟨hd', hdata⟩ := decodeAppcDataFragment_ok hf
                cases hd.symm.trans hd'
                rw [hcontrol] at hdata
                cases hdata
              · rfl
            · exact Option.not_isSome_iff_eq_none.mp hn
      · split
        · exact .refused _
        · rename_i fragment operationInfo hread
          obtain ⟨hf, ho⟩ := readFragment_ok hread
          have hp : record.piece =
              some (.of fragment operationInfo record.terminalDeallocation) := by
            unfold Record.piece
            rw [hf, ho]
          have hdata := (decodeAppcDataFragment_ok hf).2
          simp only [isRfcData, Bool.or_eq_true, decide_eq_true_eq] at hdata
          split
          · rename_i ht
            have hc : true =
                (Piece.of fragment operationInfo record.terminalDeallocation).closes := by
              simp [Piece.of, ht]
            unfold AppcConversationDecoder.pushTerminal
            split
            · exact .refused _
            · split
              · rename_i hn
                split
                · exact .refused _
                · rename_i hallowed
                  apply pushed_start hp ?_ hc hn
                  apply hdata.imp_right
                  intro hr
                  exact ⟨hr, Bool.eq_true_of_not_eq_false fun h => hallowed ⟨hr, h⟩⟩
              · rename_i pending hn
                split
                · exact .refused _
                · rename_i hr
                  exact pushed_continue hp (not_not.mp hr) hc hn
          · rename_i ht
            have hc : fragment.isFinal =
                (Piece.of fragment operationInfo record.terminalDeallocation).closes := by
              simp [Piece.of, ht]
            unfold AppcConversationDecoder.pushOrdinary
            split
            · rename_i hs
              split
              · exact .refused _
              · rename_i hn
                exact pushed_start hp (.inl hs) hc (Option.not_isSome_iff_eq_none.mp hn)
            · rename_i hs
              have hr := hdata.resolve_left hs
              split
              · rename_i hn
                split
                · exact .refused _
                · rename_i hallowed
                  exact pushed_start hp (.inr ⟨hr, Bool.eq_true_of_not_eq_false hallowed⟩) hc hn
              · rename_i pending hn
                exact pushed_continue hp hr hc hn

end Pushing
section Runs
variable {options : AppcConversationDecoderOptions}

/-- What is buffered of a message which has not ended. -/
structure Buffers (options : AppcConversationDecoderOptions) (run : List Piece)
    (pending : PendingMessage) : Prop where
  message : MessageOf options run pending.message
  chunks : pending.chunks = run.map (·.data)
  byteLength : pending.byteLength = pending.chunks.flatten.length
  fragmentCount : pending.fragmentCount = run.length

/-- A decoder keeps the limits, and its buffer is a run of records. -/
structure Holds (options : AppcConversationDecoderOptions) (run : List Piece)
    (d : AppcConversationDecoder) : Prop where
  settings : d.options = options
  buffers : d.pending.elim (run = []) (Buffers options run)
  length : d.bufferedByteLength ≤ options.maxMessageLength
  count : d.fragmentCount ≤ options.maxFragments

theorem checkLimits_ok {byteLength fragmentCount : Nat}
    (h : checkLimits options byteLength fragmentCount = .ok ()) :
    byteLength ≤ options.maxMessageLength ∧ fragmentCount ≤ options.maxFragments := by
  unfold checkLimits at h
  split at h
  · cases h
  · split at h
    · cases h
    · omega

theorem Buffers.start {fragment : AppcDataFragment}
    {operationInfo : AppcIncomingDataOperationInfo} {terminalDeallocation : Bool}
    (hs : (Piece.of fragment operationInfo terminalDeallocation).Starts options) :
    Buffers options [.of fragment operationInfo terminalDeallocation]
      (.start fragment operationInfo) where
  message := ⟨_, [], rfl, hs, nofun, rfl⟩
  chunks := rfl
  byteLength := by simp [PendingMessage.start]
  fragmentCount := rfl

theorem Buffers.append {run : List Piece} {pending : PendingMessage} {piece : Piece}
    (h : Buffers options run pending) (hr : piece.functionCode = .receive)
    (hi : pending.conversationId = piece.conversationId ∧
      pending.sequenceNumber = piece.sequenceNumber ∧
      pending.communicationIndex = piece.communicationIndex ∧
      pending.connectionIndex = piece.connectionIndex) :
    Buffers options (run ++ [piece]) (pending.append piece.data) := by
  obtain ⟨first, rest, rfl, hs, hrest, hm⟩ := h.message
  obtain ⟨hid, hsequence, hcommunication, hconnection⟩ := hi
  have hchunks : pending.chunks ++ [piece.data] = ((first :: rest) ++ [piece]).map (·.data) := by
    rw [h.chunks, List.map_append, List.map_singleton]
  have hcount : pending.fragmentCount + 1 = ((first :: rest) ++ [piece]).length := by
    rw [h.fragmentCount, List.length_append, List.length_singleton]
  injection hm with hdata hfirst hsequence' hcount' hcommunication' hconnection'
  refine ⟨⟨first, rest ++ [piece], rfl, hs, ?_, ?_⟩, hchunks, ?_, hcount⟩
  · intro p hp
    rcases List.mem_append.mp hp with hp | hp
    · exact hrest p hp
    · rw [List.mem_singleton.mp hp]
      exact ⟨hr, hid.symm.trans hfirst, hsequence.symm.trans hsequence',
        hcommunication.symm.trans hcommunication', hconnection.symm.trans hconnection'⟩
  · simp only [PendingMessage.message, PendingMessage.append, hchunks, hcount, hfirst,
      hsequence', hcommunication', hconnection', List.cons_append]
  · simp only [PendingMessage.append, List.flatten_append, List.length_append,
      List.flatten_singleton, h.byteLength]

end Runs

/-- What is known of a conversation. -/
structure Invariant (options : AppcConversationDecoderOptions) (c : Conversation) : Prop where
  messages : List.Forall₂ (MessageOf options) (segments Piece.closes c.pieces).1 c.messages
  holds : Holds options (segments Piece.closes c.pieces).2 c.decoder

theorem Invariant.initial (options : AppcConversationDecoderOptions) :
    Invariant options ⟨.create options, [], []⟩ where
  messages := .nil
  holds := ⟨rfl, rfl, Nat.zero_le _, Nat.zero_le _⟩

theorem Invariant.push {options : AppcConversationDecoderOptions} {c : Conversation}
    (h : Invariant options c) (record : Record) : Invariant options (c.push record) := by
  have hpushed := pushed c.decoder record
  obtain ⟨hm, hoptions, hbuffers, hlength, hcount⟩ := h
  unfold Conversation.push
  generalize c.decoder.pushRecord record.payload record.terminalDeallocation = outcome at hpushed
  cases hpushed with
  | refused cause => exact ⟨hm, hoptions, hbuffers, hlength, hcount⟩
  | control header hd hf hp hn =>
      dsimp only
      rw [hp, Option.toList_none, List.append_nil, List.append_nil]
      exact ⟨hm, hoptions, hbuffers, hlength, hcount⟩
  | whole fragment operationInfo hp hs hc hn =>
      rw [hn] at hbuffers
      have hrun : (segments Piece.closes c.pieces).2 = [] := hbuffers
      rw [hoptions] at hs
      dsimp only
      rw [hp, Option.toList_some]
      constructor
      · rw [segments_concat, step_closes hc, hrun, List.nil_append]
        exact List.rel_append hm (.cons (Buffers.start hs).message .nil)
      · rw [segments_concat, step_closes hc]
        refine ⟨hoptions, ?_, hlength, hcount⟩
        rw [hn]
        rfl
  | started fragment operationInfo hp hs hc hn hl =>
      rw [hn] at hbuffers
      have hrun : (segments Piece.closes c.pieces).2 = [] := hbuffers
      rw [hoptions] at hs hl
      dsimp only
      rw [hp, Option.toList_some, List.append_nil]
      constructor
      · rw [segments_concat, step_open hc]
        exact hm
      · rw [segments_concat, step_open hc, hrun, List.nil_append]
        obtain ⟨hlength', hcount'⟩ := checkLimits_ok hl
        exact ⟨hoptions, Buffers.start hs, hlength', hcount'⟩
  | continued pending piece hp hr hi hc hn hl =>
      rw [hn] at hbuffers
      rw [hoptions] at hl
      dsimp only
      rw [hp, Option.toList_some, List.append_nil]
      constructor
      · rw [segments_concat, step_open hc]
        exact hm
      · rw [segments_concat, step_open hc]
        obtain ⟨hlength', hcount'⟩ := checkLimits_ok hl
        exact ⟨hoptions, Buffers.append hbuffers hr hi, hlength', hcount'⟩
  | completed pending piece hp hr hi hc hn =>
      rw [hn] at hbuffers
      dsimp only
      rw [hp, Option.toList_some]
      constructor
      · rw [segments_concat, step_closes hc]
        exact List.rel_append hm (.cons (Buffers.append hbuffers hr hi).message .nil)
      · rw [segments_concat, step_closes hc]
        exact ⟨hoptions, rfl, Nat.zero_le _, Nat.zero_le _⟩

theorem invariant_conversation (options : AppcConversationDecoderOptions)
    (records : List Record) : Invariant options (conversation options records) := by
  induction records using List.reverseRecOn with
  | nil => exact .initial options
  | append_singleton records record ih =>
      rw [conversation, List.foldl_append]
      exact ih.push record

/-- The messages which have been returned behind a list of records are the runs of the
accepted data records, and the decoder has buffered the rest. -/
structure Reassembled (options : AppcConversationDecoderOptions) (c : Conversation) : Prop where
  messages : List.Forall₂ (MessageOf options) (segments Piece.closes c.pieces).1 c.messages
  closed : ∀ run ∈ (segments Piece.closes c.pieces).1, ∃ before last,
    run = before ++ [last] ∧ last.closes = true ∧ ∀ piece ∈ before, piece.closes = false
  bytes : (c.messages.map (·.data)).flatten ++
      (c.decoder.pending.elim [] (·.chunks)).flatten = (c.pieces.map (·.data)).flatten
  buffered : c.decoder.bufferedByteLength ≤ options.maxMessageLength ∧
    c.decoder.fragmentCount ≤ options.maxFragments
  pending : c.decoder.pending.elim ((segments Piece.closes c.pieces).2 = [])
    (Buffers options (segments Piece.closes c.pieces).2)
  accepted : ∀ (record : Record) (messages : List AppcMessage) (d : AppcConversationDecoder),
    c.decoder.pushRecord record.payload record.terminalDeallocation = (.ok messages, d) →
      record.piece.isSome ∨
        ∃ header, decodeAppcHeader record.payload = .ok header ∧
          isRfcData header.functionCode = false
  refused : ∀ (record : Record) (cause : Cause) (d : AppcConversationDecoder),
    c.decoder.pushRecord record.payload record.terminalDeallocation = (.error cause, d) →
      d = c.decoder

theorem data_messages {options : AppcConversationDecoderOptions} {runs : List (List Piece)}
    {messages : List AppcMessage} (h : List.Forall₂ (MessageOf options) runs messages) :
    (messages.map (·.data)).flatten = (runs.flatten.map (·.data)).flatten := by
  induction h with
  | nil => rfl
  | cons hm _ ih =>
      obtain ⟨first, rest, rfl, -, -, rfl⟩ := hm
      rw [List.map_cons, List.flatten_cons, List.flatten_cons, List.map_append,
        List.flatten_append, ih]

theorem reassembled (options : AppcConversationDecoderOptions) (records : List Record) :
    Reassembled options (conversation options records) := by
  obtain ⟨hm, hoptions, hbuffers, hlength, hcount⟩ := invariant_conversation options records
  generalize conversation options records = c at *
  have hchunks : c.decoder.pending.elim [] (·.chunks) =
      (segments Piece.closes c.pieces).2.map (·.data) := by
    cases hn : c.decoder.pending with
    | none =>
        rw [hn] at hbuffers
        have hrun : (segments Piece.closes c.pieces).2 = [] := hbuffers
        rw [hrun]
        rfl
    | some pending =>
        rw [hn] at hbuffers
        exact Buffers.chunks hbuffers
  refine ⟨hm, fun run hr => closed_of_mem hr, ?_, ⟨hlength, hcount⟩, hbuffers, ?_, ?_⟩
  · rw [data_messages hm, hchunks, ← List.flatten_append, ← List.map_append, flatten_segments]
  · intro record messages d hp
    have hpushed := pushed c.decoder record
    rw [hp] at hpushed
    cases hpushed with
    | control header hd hf hp hn => exact .inr ⟨header, hd, hf⟩
    | whole _ _ hpiece | started _ _ hpiece | continued _ _ hpiece | completed _ _ hpiece =>
        exact .inl (Option.isSome_iff_exists.mpr ⟨_, hpiece⟩)
  · intro record cause d hp
    have hpushed := pushed c.decoder record
    rw [hp] at hpushed
    cases hpushed
    rfl

end OpenRfc.Appc
