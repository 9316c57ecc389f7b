import OpenRfc.Cpic.FieldChain

/-!
Chains are read as they have been written, and what is read is written again in a chain which is
no longer: the reader admits the long form of a length where the writer uses the short one.
-/

namespace OpenRfc.Cpic
open Fallible

section Accepted
variable {limits : ResolvedCpicFieldChainLimits}

theorem headerLength_le (length : Nat) : headerLength length ≤ 8 := by
  unfold headerLength
  split
  · omega
  · exact Nat.le_refl 8

theorem headerLength_le_of_decode {data : Bytes} {maxValueLength : Int}
    {header : RfcProFieldHeader} (h : decodeRfcProFieldHeader data maxValueLength = .ok header) :
    header.tag ≤ 0xffff ∧ (header.length : Int) ≤ maxValueLength ∧
      headerLength header.length ≤ header.bytesConsumed ∧ header.bytesConsumed ≤ data.length := by
  simp only [decodeRfcProFieldHeader, bind_eq_ok, require_eq_ok, exists_const] at h
  obtain ⟨-, -, -, hroom, h⟩ := h
  have htag := Bytes.number_slice_lt (data.take 8) 0 2
  have hcompact := Bytes.number_slice_lt (data.take 8) 2 2
  rw [List.length_take] at hroom
  split at h
  · rename_i hsentinel
    simp only [bind_eq_ok, require_eq_ok, exists_const, Except.ok.injEq] at h
    obtain ⟨hlength, rfl⟩ := h
    unfold rfcProExtendedLengthSentinel at hsentinel
    have hheader : headerLength (Bytes.number (Bytes.slice (data.take 8) 2 2)) = 4 := by
      apply if_pos
      unfold rfcProCompactLengthMax rfcProExtendedLengthSentinel
      omega
    dsimp only
    omega
  · simp only [bind_eq_ok, require_eq_ok, exists_const, Except.ok.injEq] at h
    obtain ⟨hextended, hnonneg, hlength, rfl⟩ := h
    rw [List.length_take] at hextended
    have hheader := headerLength_le (readInt32BE (Bytes.slice (data.take 8) 4 4)).toNat
    dsimp only
    omega

theorem length_le_of_readHeaderSnapshot {offset : Nat} {remaining snapshot : Bytes}
    (h : readHeaderSnapshot limits offset remaining = .ok snapshot) :
    snapshot.length ≤ remaining.length - 2 := by
  have hslice (length : Nat) : (Bytes.slice remaining 2 length).length ≤ remaining.length - 2 := by
    rw [Bytes.slice, List.length_take, List.length_drop]
    exact Nat.min_le_right _ _
  unfold readHeaderSnapshot at h
  split at h
  · obtain ⟨-, -, h⟩ := bind_eq_ok.mp h
    obtain ⟨-, -, h⟩ := bind_eq_ok.mp h
    rw [← Except.ok.inj h]
    exact hslice 8
  · rw [← Except.ok.inj h]
    exact hslice 4

/-- What an accepted record consists of. -/
theorem of_readField {expectedPreviousTag : Int} {offset byteLength : Nat} {remaining : Bytes}
    {field : CpicField}
    (h : readField limits expectedPreviousTag offset remaining = .ok (field, byteLength)) :
    FieldFits limits field ∧ recordLength field ≤ byteLength ∧ byteLength ≤ remaining.length ∧
      offset + byteLength ≤ limits.maxChainLength := by
  simp only [readField, bind_eq_ok, enforceCpicChainLength, requireCpicInput, require_eq_ok,
    exists_const, Except.ok.injEq, Prod.mk.injEq] at h
  obtain ⟨-, hminimum, -, snapshot, hsnapshot, header, hheader, hchain, hvalue, rfl, rfl⟩ := h
  obtain ⟨htag, hlength, hconsumed, hread⟩ := headerLength_le_of_decode hheader
  have hroom := length_le_of_readHeaderSnapshot hsnapshot
  rw [List.length_drop] at hvalue
  have hslice : (Bytes.slice remaining (2 + header.bytesConsumed) header.length).length =
      header.length := Bytes.length_slice (by omega)
  refine ⟨⟨⟨Int.natCast_nonneg _, Int.ofNat_le.mpr htag⟩, ?_⟩, ?_, by omega, hchain⟩
  · rw [hslice]
    omega
  · rw [recordLength, hslice]
    omega

/-- A complete chain which is accepted: its fields fit, and their records are no longer than
what has been read. -/
theorem of_readFields {count offset : Nat} {previousTag : Int} {remaining : Bytes}
    {decoded : DecodedCpicFieldChainPrefix}
    (h : readFields limits none count previousTag offset remaining = .ok decoded) :
    decoded.fields.length ≤ count ∧ (∀ field ∈ decoded.fields, FieldFits limits field) ∧
      chainLength decoded.fields ≤ remaining.length := by
  induction count generalizing previousTag offset remaining decoded with
  | zero =>
      rw [readFields] at h
      split at h
      · cases h
        exact ⟨Nat.zero_le _, (by simp), Nat.zero_le _⟩
      · cases h
  | succ count ih =>
      rw [readFields] at h
      split at h
      · cases h
        exact ⟨Nat.zero_le _, (by simp), Nat.zero_le _⟩
      · obtain ⟨⟨field, byteLength⟩, hfield, h⟩ := bind_eq_ok.mp h
        obtain ⟨hfits, hrecord, hroom, -⟩ := of_readField hfield
        dsimp only at h
        rw [if_neg (by simp)] at h
        obtain ⟨rest, hrest, h⟩ := bind_eq_ok.mp h
        cases h
        obtain ⟨hcount, hfields, hlength⟩ := ih hrest
        rw [List.length_drop] at hlength
        refine ⟨Nat.succ_le_succ hcount, List.forall_mem_cons.mpr ⟨hfits, hfields⟩, ?_⟩
        rw [chainLength_cons]
        omega

end Accepted

section RoundTrip
variable {previousTag : Int} {limits : CpicFieldChainLimits} {fields : List CpicField}

/-- A chain is read as it has been written. -/
theorem decodeCpicFieldChain_encoded {encoded : Bytes}
    (h : encodeCpicFieldChain previousTag fields limits = .ok encoded) :
    decodeCpicFieldChain encoded previousTag limits = .ok fields := by
  obtain ⟨hprevious, resolved, hresolved, hcount, hfits, hchain, rfl⟩ :=
    encodeCpicFieldChain_eq_ok.mp h
  have hmax := (le_of_resolve hresolved).1
  have hlength := length_chainBytes previousTag fields
  have hbound : (none : Option Int).isSome = true ∨
      (chainBytes previousTag fields).length ≤ resolved.maxChainLength := by
    rw [hlength]
    exact Or.inr hchain
  obtain ⟨count, hsplit⟩ : ∃ count, resolved.maxFieldCount = fields.length + count :=
    ⟨resolved.maxFieldCount - fields.length, by omega⟩
  have hterminal : ∀ field ∈ fields, (none : Option Int) ≠ some field.tag := fun _ _ => nofun
  have hend (offset : Nat) (tag : Int) :
      readFields resolved none count tag offset [] = .ok ⟨[], offset⟩ := by
    cases count with
    | zero => exact if_pos rfl
    | succ count => exact if_pos rfl
  have hread : readFields resolved none resolved.maxFieldCount previousTag 0
      (chainBytes previousTag fields) = .ok ⟨fields, chainLength fields⟩ := by
    rw [hsplit, ← List.append_nil (chainBytes previousTag fields),
      readFields_chainBytes hmax hprevious hfits hterminal (by omega), hend, ok_bind,
      List.append_nil, Nat.zero_add]
  rw [decodeCpicFieldChain, decodeCpicFieldChainRegion, uint16_of hprevious, ok_bind, hresolved,
    ok_bind, require_of hbound, ok_bind, hread, ok_bind, require_of hlength.symm, ok_bind]

/-- What has been read is written in a chain which is no longer. -/
theorem encodeCpicFieldChain_decoded {data : Bytes}
    (h : decodeCpicFieldChain data previousTag limits = .ok fields) :
    ∃ encoded, encodeCpicFieldChain previousTag fields limits = .ok encoded ∧
      encoded.length ≤ data.length := by
  obtain ⟨decoded, hdecoded, h⟩ := bind_eq_ok.mp h
  obtain ⟨-, -, h⟩ := bind_eq_ok.mp h
  cases h
  simp only [decodeCpicFieldChainRegion, bind_eq_ok, uint16_eq_ok, require_eq_ok, exists_const]
    at hdecoded
  obtain ⟨hprevious, resolved, hresolved, hbound, hread⟩ := hdecoded
  have hmaximum := hbound.resolve_left (by simp)
  obtain ⟨hcount, hfits, hlength⟩ := of_readFields hread
  refine ⟨_, encodeCpicFieldChain_eq_ok.mpr ⟨hprevious, resolved, hresolved, hcount, hfits, ?_,
    rfl⟩, ?_⟩
  · exact hlength.trans hmaximum
  · rw [length_chainBytes]
    exact hlength

/-- Chains are read as they have been written, whatever stands behind the terminal field where
there is one; and a chain which is read is written again, no longer than it was. -/
theorem chain_round_trip :
    (∀ previousTag fields limits encoded,
      encodeCpicFieldChain previousTag fields limits = .ok encoded →
        decodeCpicFieldChain encoded previousTag limits = .ok fields) ∧
    (∀ previousTag fields last limits encoded rest,
      encodeCpicFieldChain previousTag (fields ++ [last]) limits = .ok encoded →
      (∀ field ∈ fields, field.tag ≠ last.tag) →
        decodeCpicFieldChainPrefix (encoded ++ rest) previousTag last.tag limits =
          .ok ⟨fields ++ [last], encoded.length⟩) ∧
    (∀ previousTag limits data fields, decodeCpicFieldChain data previousTag limits = .ok fields →
      ∃ encoded, encodeCpicFieldChain previousTag fields limits = .ok encoded ∧
        decodeCpicFieldChain encoded previousTag limits = .ok fields ∧
        encoded.length ≤ data.length) := by
  refine ⟨fun _ _ _ _ h => decodeCpicFieldChain_encoded h,
    fun _ _ _ _ _ rest h hterminal => decodeCpicFieldChainPrefix_encoded h hterminal rest, ?_⟩
  intro previousTag limits data fields h
  obtain ⟨encoded, hencoded, hlength⟩ := encodeCpicFieldChain_decoded h
  exact ⟨encoded, hencoded, decodeCpicFieldChain_encoded hencoded, hlength⟩

/-- A chain of two fields, alone and with a byte behind it, and the long form of a length. -/
theorem chain_round_trip_samples :
    decodeCpicFieldChain [0, 1, 0, 2, 0, 1, 7, 0, 2, 0, 3, 0, 0] 1 = .ok [⟨2, [7]⟩, ⟨3, []⟩] ∧
    decodeCpicFieldChainPrefix [0, 1, 0, 2, 0, 1, 7, 0, 2, 0, 3, 0, 0, 9] 1 3 =
      .ok ⟨[⟨2, [7]⟩, ⟨3, []⟩], 13⟩ ∧
    ∃ encoded, encodeCpicFieldChain 1 [⟨2, [7]⟩] = .ok encoded ∧
      decodeCpicFieldChain encoded 1 = .ok [⟨2, [7]⟩] ∧ encoded.length ≤ 11 := by
  have hencode : encodeCpicFieldChain 1 [⟨2, [7]⟩, ⟨3, []⟩] =
      .ok [0, 1, 0, 2, 0, 1, 7, 0, 2, 0, 3, 0, 0] := by decide +kernel
  have hdecode : decodeCpicFieldChain [0, 1, 0, 2, 0xff, 0xff, 0, 0, 0, 1, 7] 1 =
      .ok [⟨2, [7]⟩] := by decide +kernel
  have hterminal := chain_round_trip.2.1 1 [⟨2, [7]⟩] ⟨3, []⟩ {} _ [9] hencode (by decide)
  refine ⟨chain_round_trip.1 _ _ _ _ hencode, ?_, chain_round_trip.2.2 _ _ _ _ hdecode⟩
  simpa only [List.cons_append, List.nil_append, List.length_cons, List.length_nil] using hterminal

end RoundTrip
end OpenRfc.Cpic
