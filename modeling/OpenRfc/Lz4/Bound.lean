import OpenRfc.Lz4.Grammar
import OpenRfc.Lz4.RoundTrip

/-!
What the encoder emits: a block of the grammar which stands for the source, no longer than its
buffer, whose matches keep away from the end of the source.
-/

namespace OpenRfc.Lz4
open Backreference Fallible

section Places

/-- The conditions on a match of a block of `length` bytes whose literals begin at `start`. -/
structure MatchSequence.Placed (s : MatchSequence) (length start : Nat) : Prop where
  offset : 1 ≤ s.distance ∧ s.distance ≤ 65535
  four_le : 4 ≤ s.matchLength
  start_le : start + s.literals.length + 12 ≤ length
  stop_le : start + s.literals.length + s.matchLength + 5 ≤ length

def MatchSequence.stop (start : Nat) (s : MatchSequence) : Nat :=
  start + s.literals.length + s.matchLength

def PlacedFrom (length : Nat) : Nat → List MatchSequence → Prop
  | _, [] => True
  | start, s :: sequences => s.Placed length start ∧ PlacedFrom length (s.stop start) sequences

theorem PlacedFrom.stop_le {length start : Nat} {sequences : List MatchSequence}
    (h : PlacedFrom length start sequences) (hne : sequences ≠ []) :
    sequences.foldl MatchSequence.stop start + 5 ≤ length := by
  induction sequences generalizing start with
  | nil => exact absurd rfl hne
  | cons s sequences ih =>
      rcases eq_or_ne sequences [] with rfl | hmore
      · exact h.1.stop_le
      · exact ih h.2 hmore

end Places

section Search
variable {source : Bytes} {buffer : OutputBuffer}

theorem Search.Sound.found_stop {s : Search} (hstart : s.position + 12 ≤ source.length)
    (candidate : Nat) :
    s.position + extendMatch source candidate s.position 4 + 5 ≤ source.length := by
  have hle : s.position + extendMatch source candidate s.position 4 ≤ matchEndLimit source :=
    extendMatch_le (by unfold matchEndLimit; omega)
  unfold matchEndLimit at hle
  omega

/-- The sequence of a match, as its bytes are written. -/
def Search.sequence (source : Bytes) (s : Search) (candidate matchLength : Nat) :
    MatchSequence :=
  ⟨Bytes.slice source s.anchor (s.position - s.anchor), s.position - candidate, matchLength⟩

theorem Search.Sound.length_literals {s : Search} (hs : s.Sound source)
    (candidate matchLength : Nat) :
    (s.sequence source candidate matchLength).literals.length = s.position - s.anchor := by
  have hanchor := hs.anchor_le
  have hposition := hs.position_le
  exact Bytes.length_slice (by omega)

theorem Found.placed {s : Search} {candidate matchLength : Nat} (hs : s.Sound source)
    (hf : Found source s candidate matchLength) (hstart : s.position + 12 ≤ source.length)
    (hstop : s.position + matchLength + 5 ≤ source.length) :
    (s.sequence source candidate matchLength).Placed source.length s.anchor where
  offset := by
    have hlt := hf.lt_position
    have hnear := hf.near
    show 1 ≤ s.position - candidate ∧ s.position - candidate ≤ 65535
    omega
  four_le := hf.four_le
  start_le := by
    have hanchor := hs.anchor_le
    rw [hs.length_literals]
    omega
  stop_le := by
    have hanchor := hs.anchor_le
    rw [hs.length_literals]
    show s.anchor + (s.position - s.anchor) + matchLength + 5 ≤ source.length
    omega

/-- The match repeats what the source has before it. -/
theorem Found.apply_take {s : Search} {candidate matchLength : Nat} (hs : s.Sound source)
    (hf : Found source s candidate matchLength) :
    (s.sequence source candidate matchLength).Valid (source.take s.anchor) ∧
      (s.sequence source candidate matchLength).apply (source.take s.anchor) =
        source.take (s.position + matchLength) := by
  have hanchor := hs.anchor_le
  have hposition := hs.position_le
  have hlt := hf.lt_position
  have hlength : (source.take s.anchor).length = s.anchor :=
    List.length_take_of_le (by omega)
  refine ⟨⟨by show 1 ≤ s.position - candidate; omega, hf.near, ?_, hf.four_le⟩, ?_⟩
  · rw [hs.length_literals, hlength]
    show s.position - candidate ≤ s.anchor + (s.position - s.anchor)
    omega
  · show copy (source.take s.anchor ++ Bytes.slice source s.anchor (s.position - s.anchor))
      (s.position - candidate) matchLength = _
    rw [Bytes.take_append_slice, Nat.add_sub_of_le hanchor]
    refine copy_take (by omega) hf.stop_le (by omega) ?_
    intro k hk
    have he : s.position + k - (s.position - candidate) = candidate + k := by omega
    rw [he]
    exact hf.agree k hk

theorem Search.Sound.stop_eq {s : Search} (hs : s.Sound source) (candidate matchLength : Nat) :
    (s.sequence source candidate matchLength).stop s.anchor = s.position + matchLength := by
  have hanchor := hs.anchor_le
  rw [MatchSequence.stop, hs.length_literals]
  show s.anchor + (s.position - s.anchor) + matchLength = s.position + matchLength
  omega

/-- What the search writes are sequences which stand for the source between its anchors. -/
theorem search_sequences {s s' : Search} (hs : s.Sound source)
    (h : searchMatches source buffer s = .ok s') :
    ∃ sequences, s'.output = s.output ++ frontBytes sequences ∧
      PlacedFrom source.length s.anchor sequences ∧
      sequences.foldl MatchSequence.stop s.anchor = s'.anchor ∧
      ValidFrom (source.take s.anchor) sequences ∧
      expand (source.take s.anchor) sequences = source.take s'.anchor := by
  induction s using searchMatches.induct source with
  | case1 s hstart hash candidate hashTable distance hskip ih =>
      rw [searchMatches, if_pos hstart, if_pos hskip] at h
      exact ih (hs.skip hstart) h
  | case2 s hstart hash candidate hashTable distance hskip matchLength ih =>
      rw [searchMatches, if_pos hstart, if_neg hskip] at h
      obtain ⟨output, hwrite, hrest⟩ := bind_eq_ok.mp h
      have hf := hs.found hstart rfl hskip
      have hdistance : distance.toNat = s.position - candidate.toNat := by
        have hlt := hf.lt_position
        omega
      obtain ⟨sequences, houtput, hplaced, hstop, hvalid, hexpand⟩ :=
        ih output (hs.sequence hf output) hrest
      have hwrites : Writes buffer _ _ :=
        writes_sequence distance.toNat matchLength hs.anchor_le hs.position_le
      have hwritten := hwrites.eq_of_ok s.output output hwrite
      obtain ⟨hfirst, happly⟩ := hf.apply_take hs
      have hfar := Search.Sound.found_stop hstart candidate.toNat
      have hnext := hs.stop_eq candidate.toNat matchLength
      refine ⟨s.sequence source candidate.toNat matchLength :: sequences, ?_, ?_, ?_, ?_, ?_⟩
      · rw [houtput]
        show output ++ frontBytes sequences = _
        rw [hwritten, hdistance, List.append_assoc]
        rfl
      · refine ⟨hf.placed hs hstart hfar, ?_⟩
        rw [hnext]
        exact hplaced
      · rw [List.foldl_cons, hnext]
        exact hstop
      · refine ⟨hfirst, ?_⟩
        rw [happly]
        exact hvalid
      · rw [expand, List.foldl_cons, happly]
        exact hexpand
  | case3 s hstop =>
      rw [searchMatches, if_neg hstop] at h
      cases h
      exact ⟨[], (List.append_nil _).symm, trivial, rfl, trivial, rfl⟩

end Search

/-- Whatever the matches which are found, the block fits into its buffer, and every match has
an offset of sixteen bits, four bytes at least, and keeps its distance from the end. -/
theorem encode_bound (source : Bytes) (hmax : source.length ≤ maxLz4BlockLength) :
    ∃ block sequences literals, encodeLz4Block source {} = .ok block ∧
      block.length ≤
        (if source.length = 0 then 1 else source.length + source.length / 255 + 16) ∧
      block = frontBytes sequences ++ lastBytes literals ∧
      ValidFrom [] sequences ∧ expand [] sequences ++ literals = source ∧
      PlacedFrom source.length 0 sequences ∧ (sequences ≠ [] → 5 ≤ literals.length) := by
  obtain ⟨block, hblock⟩ := encode_succeeds hmax
  have h := hblock
  simp only [encodeLz4Block, configuredEncodeLimit, bind_eq_ok, require_eq_ok, exists_const] at h
  obtain ⟨-, -, -, h⟩ := h
  generalize hb : (⟨min (encodedLengthBound source.length) _, _⟩ : OutputBuffer) = buffer at h
  have hcapacity : buffer.capacity ≤ encodedLengthBound source.length := by
    rw [← hb]
    exact Nat.min_le_left _ _
  split at h
  · rename_i hempty
    have hnil : source = [] := List.length_eq_zero_iff.mp hempty
    have hbytes := (Writes.append [UInt8.ofNat 0]).eq_of_ok [] block h
    refine ⟨block, [], [], hblock, ?_, hbytes, trivial, hnil.symm, trivial, fun hne =>
      absurd rfl hne⟩
    rw [hbytes, if_pos hempty]
    rfl
  · rename_i hpos
    obtain ⟨s, hsearch, hlast⟩ := bind_eq_ok.mp h
    have hfits : s.output.length ≤ buffer.capacity :=
      (search_decodes (le_refl (source.length : Int)) Search.sound_initial hsearch).2.1
        (Nat.zero_le _)
    obtain ⟨sequences, houtput, hplaced, hstop, hvalid, hexpand⟩ :=
      search_sequences Search.sound_initial hsearch
    have hwrites : Writes buffer _ (lastBytes (source.drop s.anchor)) :=
      writes_last source s.anchor
    have hbytes := hwrites.eq_of_ok _ block hlast
    have hle := hwrites.le_of_ok _ block hlast hfits
    rw [houtput] at hbytes
    refine ⟨block, sequences, source.drop s.anchor, hblock, ?_, hbytes, hvalid, ?_, hplaced, ?_⟩
    · rw [if_neg hpos]
      rw [encodedLengthBound, if_neg hpos] at hcapacity
      exact hle.trans hcapacity
    · have hstart : expand [] sequences = source.take s.anchor := hexpand
      rw [hstart, List.take_append_drop]
    · intro hne
      have hfar := hplaced.stop_le hne
      rw [hstop] at hfar
      rw [List.length_drop]
      omega

/-- A run of forty bytes: one literal, a match of 34, and five literals. -/
theorem encode_bound_run :
    ∃ block sequences literals, encodeLz4Block (List.replicate 40 7) {} = .ok block ∧
      block.length ≤ (if (List.replicate 40 (7 : UInt8)).length = 0 then 1
        else (List.replicate 40 (7 : UInt8)).length +
          (List.replicate 40 (7 : UInt8)).length / 255 + 16) ∧
      block = frontBytes sequences ++ lastBytes literals ∧
      ValidFrom [] sequences ∧ expand [] sequences ++ literals = List.replicate 40 7 ∧
      PlacedFrom (List.replicate 40 (7 : UInt8)).length 0 sequences ∧
      (sequences ≠ [] → 5 ≤ literals.length) :=
  encode_bound (List.replicate 40 7) (by decide)

end OpenRfc.Lz4
