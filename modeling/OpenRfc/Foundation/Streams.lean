import OpenRfc.Foundation.Fallible
import Mathlib.Data.List.Induction
import Mathlib.Algebra.GroupWithZero.Nat

/-!
Streams which are cut into items: frames which stand one behind the other, parsers which wait for
more of what arrives, segments which some elements close, and fields between delimiters. What has
been cut does not depend on the chunks in which the stream arrives.
-/

universe u v

/-!
Streams of frames which stand one behind the other, with nothing between them. A codec writes
and reads one frame; its two laws carry over to streams, whatever the number of frames.
-/

namespace Frames
open Fallible
variable {α β γ ε ε' : Type}

/-- The frames of a list of contents, concatenated. -/
def encodeAll (encode : α → Except ε (List β)) : List α → Except ε (List β)
  | [] => .ok []
  | x :: xs => do
    let frame ← encode x
    let frames ← encodeAll encode xs
    .ok (frame ++ frames)

/-- Read frames to the end of the source, a given number at most. A frame is read at its
offset and says how much of the source it has consumed. -/
def decodeAll (decode : Nat → List β → Except ε' γ) (consumed : γ → Nat) (exceeded : Nat → ε') :
    Nat → Nat → List β → Except ε' (List γ)
  | 0, offset, source => if source = [] then .ok [] else .error (exceeded offset)
  | count + 1, offset, source =>
    if source = [] then .ok []
    else do
      let frame ← decode offset source
      let frames ← decodeAll decode consumed exceeded count (offset + consumed frame)
        (source.drop (consumed frame))
      .ok (frame :: frames)

/-- The laws of a codec. What is written is read in front of anything else, where the reader
admits it; and what is read is what would be written for it. -/
structure Lawful (encode : α → Except ε (List β)) (decode : Nat → List β → Except ε' γ)
    (content : γ → α) (consumed : γ → Nat) (Admits : α → Prop) : Prop where
  ne_nil : ∀ {x frame}, encode x = .ok frame → frame ≠ []
  decode_encode : ∀ {x frame}, encode x = .ok frame → Admits x → ∀ offset rest,
    ∃ c, decode offset (frame ++ rest) = .ok c ∧ content c = x ∧ consumed c = frame.length
  encode_decode : ∀ {offset source c}, decode offset source = .ok c →
    ∃ frame, encode (content c) = .ok frame ∧ consumed c = frame.length ∧ frame <+: source

section Codec
variable {encode : α → Except ε (List β)} {decode : Nat → List β → Except ε' γ}
  {content : γ → α} {consumed : γ → Nat} {Admits : α → Prop} {exceeded : Nat → ε'}

theorem encodeAll_cons_eq_ok {x : α} {xs : List α} {stream : List β} :
    encodeAll encode (x :: xs) = .ok stream ↔
      ∃ frame frames, encode x = .ok frame ∧ encodeAll encode xs = .ok frames ∧
        frame ++ frames = stream := by
  simp only [encodeAll, bind_eq_ok, Except.ok.injEq]
  constructor
  · rintro ⟨frame, hframe, frames, hframes, he⟩
    exact ⟨frame, frames, hframe, hframes, he⟩
  · rintro ⟨frame, frames, hframe, hframes, he⟩
    exact ⟨frame, hframe, frames, hframes, he⟩

theorem encode_of_mem {x : α} {xs : List α} {stream : List β}
    (h : encodeAll encode xs = .ok stream) (hx : x ∈ xs) : ∃ frame, encode x = .ok frame := by
  induction xs generalizing stream with
  | nil => cases hx
  | cons y ys ih =>
      obtain ⟨frame, frames, hframe, hframes, -⟩ := encodeAll_cons_eq_ok.mp h
      rcases List.mem_cons.mp hx with rfl | hy
      · exact ⟨frame, hframe⟩
      · exact ih hframes hy

theorem encodeAll_map {f : α → α} {xs : List α} (h : ∀ x ∈ xs, encode (f x) = encode x) :
    encodeAll encode (xs.map f) = encodeAll encode xs := by
  induction xs with
  | nil => rfl
  | cons x xs ih =>
      rw [List.forall_mem_cons] at h
      rw [List.map_cons, encodeAll, encodeAll, h.1, ih h.2]

theorem decodeAll_nil (count offset : Nat) :
    decodeAll decode consumed exceeded count offset [] = .ok [] := by
  cases count with
  | zero => exact if_pos rfl
  | succ count => exact if_pos rfl

/-- A stream is read back frame by frame. -/
theorem decodeAll_encodeAll (law : Lawful encode decode content consumed Admits) {xs : List α}
    {stream : List β} {count : Nat} (offset : Nat) (h : encodeAll encode xs = .ok stream)
    (hcount : xs.length ≤ count) (hadmits : ∀ x ∈ xs, Admits x) :
    ∃ frames, decodeAll decode consumed exceeded count offset stream = .ok frames ∧
      frames.map content = xs := by
  induction xs generalizing stream count offset with
  | nil =>
      cases h
      exact ⟨[], decodeAll_nil count offset, rfl⟩
  | cons x xs ih =>
      obtain ⟨frame, rest, hframe, hrest, rfl⟩ := encodeAll_cons_eq_ok.mp h
      rw [List.length_cons] at hcount
      rw [List.forall_mem_cons] at hadmits
      obtain ⟨c, hc, hcontent, hconsumed⟩ :=
        law.decode_encode hframe hadmits.1 offset rest
      have hsucc : count = count - 1 + 1 := by omega
      have hcount' : xs.length ≤ count - 1 := by omega
      obtain ⟨frames, hframes, hcontents⟩ := ih (offset + frame.length) hrest hcount' hadmits.2
      have hne : frame ++ rest ≠ [] := List.append_ne_nil_of_left_ne_nil (law.ne_nil hframe) rest
      refine ⟨c :: frames, ?_, ?_⟩
      · rw [hsucc, decodeAll, if_neg hne, hc, ok_bind, hconsumed, List.drop_left, hframes,
          ok_bind]
      · rw [List.map_cons, hcontent, hcontents]

/-- A stream which is read is the one which would be written. -/
theorem encodeAll_decodeAll (law : Lawful encode decode content consumed Admits)
    {source : List β} {count offset : Nat} {frames : List γ}
    (h : decodeAll decode consumed exceeded count offset source = .ok frames) :
    encodeAll encode (frames.map content) = .ok source ∧ frames.length ≤ count := by
  induction count generalizing source offset frames with
  | zero =>
      rw [decodeAll] at h
      split at h
      · rename_i hnil
        cases h
        rw [hnil]
        exact ⟨rfl, Nat.le_refl _⟩
      · cases h
  | succ count ih =>
      rw [decodeAll] at h
      split at h
      · rename_i hnil
        cases h
        rw [hnil]
        exact ⟨rfl, Nat.zero_le _⟩
      · obtain ⟨c, hc, hrest⟩ := bind_eq_ok.mp h
        obtain ⟨frames', hframes', he⟩ := bind_eq_ok.mp hrest
        cases he
        obtain ⟨frame, hencode, hconsumed, rest, rfl⟩ := law.encode_decode hc
        rw [hconsumed, List.drop_left] at hframes'
        obtain ⟨hstream, hlength⟩ := ih hframes'
        refine ⟨?_, Nat.succ_le_succ hlength⟩
        exact encodeAll_cons_eq_ok.mpr ⟨frame, rest, hencode, hstream, rfl⟩

end Codec
end Frames

/-!
Incremental parsers: a state, and a step which reads something off the front of what has
arrived, or waits for more. A step is stable, so that what arrives behind it does not change
it. The result of a stream is therefore the same however it is cut into chunks.
-/

/-- A step reads a prefix, or nothing where it lowers the rank of the state. -/
structure Incremental (σ : Type u) (α : Type v) where
  step : σ → List α → Option (σ × List α)
  rank : σ → Nat
  stable : ∀ {s s' xs rest} (ys : List α), step s xs = some (s', rest) →
    step s (xs ++ ys) = some (s', rest ++ ys)
  shrinks : ∀ {s s' xs rest}, step s xs = some (s', rest) →
    rest.length + rank s' < xs.length + rank s

namespace Incremental
variable {σ : Type u} {α : Type v} (P : Incremental σ α)

/-- Step as long as nothing is missing. -/
def drive (s : σ) (xs : List α) : σ × List α :=
  match _h : P.step s xs with
  | none => (s, xs)
  | some (s', rest) => drive s' rest
termination_by xs.length + P.rank s
decreasing_by exact P.shrinks _h

theorem drive_of_none {s : σ} {xs : List α} (h : P.step s xs = none) :
    P.drive s xs = (s, xs) := by
  rw [drive]
  split
  · rfl
  · rename_i h'
    rw [h] at h'
    cases h'

theorem drive_of_some {s s' : σ} {xs rest : List α} (h : P.step s xs = some (s', rest)) :
    P.drive s xs = P.drive s' rest := by
  rw [drive]
  split
  · rename_i h'
    rw [h] at h'
    cases h'
  · rename_i h'
    rw [h] at h'
    cases h'
    rfl

/-- The induction over the steps of a drive. -/
theorem drive_induct {motive : σ → List α → Prop}
    (wait : ∀ s xs, P.step s xs = none → motive s xs)
    (read : ∀ s xs s' rest, P.step s xs = some (s', rest) → motive s' rest → motive s xs)
    (s : σ) (xs : List α) : motive s xs := by
  induction h : xs.length + P.rank s using Nat.strongRecOn generalizing s xs with
  | _ n ih =>
      cases hs : P.step s xs with
      | none => exact wait s xs hs
      | some next =>
          obtain ⟨s', rest⟩ := next
          exact read s xs s' rest hs (ih _ (h ▸ P.shrinks hs) s' rest rfl)

/-- More input continues where the input before it has stopped. -/
theorem drive_append (s : σ) (xs ys : List α) :
    P.drive s (xs ++ ys) = P.drive (P.drive s xs).1 ((P.drive s xs).2 ++ ys) := by
  induction s, xs using P.drive_induct with
  | wait s xs h => rw [P.drive_of_none h]
  | read s xs s' rest h ih =>
      rw [P.drive_of_some h, P.drive_of_some (P.stable ys h)]
      exact ih

/-- A map of the states which steps respect is respected by drives. -/
theorem drive_map {f : σ → σ}
    (hstep : ∀ s xs, P.step (f s) xs = (P.step s xs).map fun x => (f x.1, x.2)) (s : σ)
    (xs : List α) : P.drive (f s) xs = (f (P.drive s xs).1, (P.drive s xs).2) := by
  induction s, xs using P.drive_induct with
  | wait s xs h =>
      have hf : P.step (f s) xs = none := by rw [hstep, h, Option.map_none]
      rw [P.drive_of_none h, P.drive_of_none hf]
  | read s xs s' rest h ih =>
      have hf : P.step (f s) xs = some (f s', rest) := by rw [hstep, h, Option.map_some]
      rw [P.drive_of_some h, P.drive_of_some hf]
      exact ih

end Incremental

/-!
Lists which are cut behind the elements that close a segment: the segments which are closed,
and the elements behind the last of them.
-/

namespace Segments
variable {α : Type u} (closes : α → Bool)

def step (segments : List (List α) × List α) (a : α) : List (List α) × List α :=
  if closes a then (segments.1 ++ [segments.2 ++ [a]], [])
  else (segments.1, segments.2 ++ [a])

def segments (xs : List α) : List (List α) × List α := xs.foldl (step closes) ([], [])

theorem segments_concat (xs : List α) (a : α) :
    segments closes (xs ++ [a]) = step closes (segments closes xs) a := by
  rw [segments, List.foldl_append]
  rfl

variable {closes}

theorem step_closes {s : List (List α) × List α} {a : α} (h : closes a = true) :
    step closes s a = (s.1 ++ [s.2 ++ [a]], []) :=
  if_pos h

theorem step_open {s : List (List α) × List α} {a : α} (h : closes a = false) :
    step closes s a = (s.1, s.2 ++ [a]) := by
  rw [step, h]
  rfl

/-- Nothing is lost, and the order is kept. -/
theorem flatten_segments (xs : List α) :
    (segments closes xs).1.flatten ++ (segments closes xs).2 = xs := by
  induction xs using List.reverseRecOn with
  | nil => rfl
  | append_singleton xs a ih =>
      rw [segments_concat]
      cases h : closes a with
      | true =>
          rw [step_closes h, List.flatten_append, List.flatten_singleton, List.append_nil,
            ← List.append_assoc, ih]
      | false => rw [step_open h, ← List.append_assoc, ih]

theorem open_of_mem {xs : List α} {a : α} (h : a ∈ (segments closes xs).2) :
    closes a = false := by
  induction xs using List.reverseRecOn with
  | nil => cases h
  | append_singleton xs b ih =>
      rw [segments_concat] at h
      cases hb : closes b with
      | true =>
          rw [step_closes hb] at h
          cases h
      | false =>
          rw [step_open hb] at h
          rcases List.mem_append.mp h with h | h
          · exact ih h
          · rw [List.mem_singleton.mp h]
            exact hb

/-- A closed segment ends at the first element which closes it. -/
theorem closed_of_mem {xs segment : List α} (h : segment ∈ (segments closes xs).1) :
    ∃ before last, segment = before ++ [last] ∧ closes last = true ∧
      ∀ a ∈ before, closes a = false := by
  induction xs using List.reverseRecOn with
  | nil => cases h
  | append_singleton xs b ih =>
      rw [segments_concat] at h
      cases hb : closes b with
      | true =>
          rw [step_closes hb] at h
          rcases List.mem_append.mp h with h | h
          · exact ih h
          · exact ⟨_, b, List.mem_singleton.mp h, hb, fun a ha => open_of_mem ha⟩
      | false =>
          rw [step_open hb] at h
          exact ih h

end Segments

/-!
Lists of fields written with a delimiter which occurs in none of them: the fields are found
again by splitting at the delimiter.
-/

namespace Delimited
variable {α : Type u}

/-- Every field behind a delimiter. -/
def led (sep : α) (fields : List (List α)) : List α := fields.flatMap fun f => sep :: f

/-- Every field before a delimiter. -/
def ended (sep : α) (fields : List (List α)) : List α := fields.flatMap fun f => f ++ [sep]

@[simp] theorem led_nil (sep : α) : led sep [] = [] := rfl

@[simp] theorem led_cons (sep : α) (f : List α) (fs : List (List α)) :
    led sep (f :: fs) = sep :: f ++ led sep fs := rfl

@[simp] theorem led_append (sep : α) (fs gs : List (List α)) :
    led sep (fs ++ gs) = led sep fs ++ led sep gs :=
  List.flatMap_append

@[simp] theorem ended_nil (sep : α) : ended sep [] = [] := rfl

@[simp] theorem ended_cons (sep : α) (f : List α) (fs : List (List α)) :
    ended sep (f :: fs) = f ++ sep :: ended sep fs := by
  simp [ended]

@[simp] theorem ended_append (sep : α) (fs gs : List (List α)) :
    ended sep (fs ++ gs) = ended sep fs ++ ended sep gs :=
  List.flatMap_append

variable [BEq α] [LawfulBEq α]

theorem splitOn_led {sep : α} {fields : List (List α)} (h : ∀ f ∈ fields, sep ∉ f) :
    (led sep fields).splitOn sep = [] :: fields := by
  cases fields with
  | nil => simp
  | cons f fs =>
      have hi : led sep (f :: fs) = [] ++ sep :: [sep].intercalate (f :: fs) := by
        clear h
        induction fs generalizing f with
        | nil => simp
        | cons g gs ih => simpa using ih g
      rw [hi, List.splitOn_append_cons_self_of_not_mem List.not_mem_nil]
      rw [List.splitOn_intercalate sep h (List.cons_ne_nil f fs)]

theorem splitOn_ended {sep : α} {fields : List (List α)} (h : ∀ f ∈ fields, sep ∉ f) :
    (ended sep fields).splitOn sep = fields ++ [[]] := by
  induction fields with
  | nil => simp
  | cons f fs ih =>
      rw [List.forall_mem_cons] at h
      rw [ended_cons, List.splitOn_append_cons_self_of_not_mem h.1, ih h.2, List.cons_append]

/-- Text whose first field is empty has a delimiter before each of the others. -/
theorem eq_led_of_splitOn {sep : α} {text : List α} {fields : List (List α)}
    (h : text.splitOn sep = [] :: fields) : text = led sep fields := by
  have ht : [sep].intercalate (text.splitOn sep) = text := List.intercalate_splitOn sep
  rw [h] at ht
  rw [← ht]
  cases fields with
  | nil => simp
  | cons f fs =>
      clear h ht
      induction fs generalizing f with
      | nil => simp
      | cons g gs ih => simpa using ih g

theorem led_injective {sep : α} {fs gs : List (List α)} (hf : ∀ f ∈ fs, sep ∉ f)
    (hg : ∀ g ∈ gs, sep ∉ g) (h : led sep fs = led sep gs) : fs = gs := by
  have hs := congrArg (List.splitOn sep) h
  rw [splitOn_led hf, splitOn_led hg] at hs
  exact List.tail_eq_of_cons_eq hs

/-- The fields of a list of records of three, regrouped. -/
def regroup : List α → List (α × α × α)
  | a :: b :: c :: rest => (a, b, c) :: regroup rest
  | _ => []

omit [BEq α] [LawfulBEq α] in
theorem regroup_flatMap {β : Type u} (f g h : β → α) (xs : List β) :
    regroup (xs.flatMap fun x => [f x, g x, h x]) = xs.map fun x => (f x, g x, h x) := by
  induction xs with
  | nil => rfl
  | cons x xs ih => simp [regroup, ih]

end Delimited
