import OpenRfc.Wire.CheckedBytes

/-!
Readers of records, and what reads the bytes which a writer has written. A decoder is a sequence of
reads; it reads bytes if it does so whatever stands behind them.
-/

namespace OpenRfc.Wire
open Fallible

structure CheckedByteReader where
  context : String
  offset : Nat
  rest : Bytes
deriving DecidableEq, Repr

/-- A computation with a reader. -/
abbrev Read := StateT CheckedByteReader (Except String)

namespace CheckedByteReader

def readBytes (length : Nat) (field : String) : Read Bytes := fun r => do
  require (length ≤ r.rest.length)
    (s!"{r.context}.{field}: need {length} bytes at offset {r.offset}; " ++
      s!"{r.rest.length} remain")
  .ok (r.rest.take length,
    { r with offset := r.offset + length, rest := r.rest.drop length })

/-- `readUInt8`, `readUInt16BE` and `readUInt32BE` -/
def readUInt (width : Nat) (field : String) : Read Nat := do
  let bytes ← readBytes width field
  pure (Bytes.number bytes)

def readInt32BE (field : String) : Read Int := do
  let value ← readUInt 4 field
  pure (if value < 2 ^ 31 then value else value - 2 ^ 32)

def finish : Read Unit := fun r => do
  require (r.rest.length = 0) s!"{r.context}: {r.rest.length} unread bytes remain"
  .ok ((), r)

/-- `new CheckedByteReader(data, context)` -/
def run {α : Type} (context : String) (data : Bytes) (read : Read α) : Except String α := do
  let (a, _) ← read ⟨context, 0, data⟩
  .ok a

end CheckedByteReader

/-- A check of what has been read. -/
def check (p : Prop) [Decidable p] (message : String) : Read Unit :=
  StateT.lift (require p message)

section Reads
open CheckedByteReader
variable {α β : Type} {xs ys : Bytes}

/-- The bytes are read, whatever stands behind them. -/
def Reads (read : Read α) (bytes : Bytes) (a : α) : Prop :=
  ∀ r rest, r.rest = bytes ++ rest →
    read r = .ok (a, { r with offset := r.offset + bytes.length, rest })

theorem reads_pure (a : α) : Reads (pure a) [] a := by
  rintro r rest hrest
  rw [List.nil_append] at hrest
  rw [← hrest]
  rfl

theorem Reads.bind {read : Read α} {next : α → Read β} {a : α} {b : β} (h : Reads read xs a)
    (hnext : Reads (next a) ys b) : Reads (read >>= next) (xs ++ ys) b := by
  intro r rest hrest
  rw [List.append_assoc] at hrest
  change (read r >>= fun s => next s.1 s.2) = _
  rw [h r (ys ++ rest) hrest, ok_bind, hnext _ rest rfl, List.length_append, Nat.add_assoc]

theorem Reads.map {read : Read α} {a : α} (h : Reads read xs a) (f : α → β) :
    Reads (read >>= fun x => pure (f x)) xs (f a) := by
  have hread : Reads (read >>= fun x => pure (f x)) (xs ++ []) (f a) := h.bind (reads_pure (f a))
  rwa [List.append_nil] at hread

theorem reads_lift {x : Except String α} {a : α} (hx : x = .ok a) : Reads (StateT.lift x) [] a := by
  subst hx
  exact reads_pure a

theorem reads_check {p : Prop} [Decidable p] {message : String} (hp : p) :
    Reads (check p message) [] () :=
  reads_lift (require_of hp)

/-- A step which reads nothing. -/
theorem Reads.after {read : Read α} {next : α → Read β} {a : α} {b : β} (hread : Reads read [] a)
    (h : Reads (next a) ys b) : Reads (read >>= next) ys b :=
  hread.bind h

theorem reads_bytes {length : Nat} {field : String} (h : xs.length = length) :
    Reads (readBytes length field) xs xs := by
  intro r rest hrest
  rw [readBytes, require_of (by rw [hrest, List.length_append]; omega), ok_bind, hrest,
    List.take_left' h, List.drop_left' h, h]

theorem reads_uint {width value : Nat} {field : String} (h : value < 256 ^ width) :
    Reads (readUInt width field) (Bytes.bigEndian width value) value := by
  have hread : Reads (readUInt width field) _ _ :=
    (reads_bytes (Bytes.length_bigEndian width value)).map Bytes.number
  rwa [Bytes.number_bigEndian width h] at hread

theorem reads_int32 {value : Int} {field : String} (hlower : -2 ^ 31 ≤ value)
    (hupper : value ≤ 2 ^ 31 - 1) :
    Reads (readInt32BE field) (Bytes.bigEndian 4 (value % 2 ^ 32).toNat) value := by
  have hlt : (value % 2 ^ 32).toNat < 256 ^ 4 := by omega
  have hvalue : (if (value % 2 ^ 32).toNat < 2 ^ 31 then ((value % 2 ^ 32).toNat : Int)
      else (value % 2 ^ 32).toNat - 2 ^ 32) = value := by
    split <;> omega
  have hread : Reads (readInt32BE field) _ _ := (reads_uint hlt).map fun value : Nat =>
    if value < 2 ^ 31 then (value : Int) else value - 2 ^ 32
  rwa [hvalue] at hread

section Written
variable {steps : List (Except String Field)} {record : Bytes} {next : α → Read β} {b : β}
  {name field : String}

/-- The end of a record. -/
theorem Written.reads_end (h : Written [] record) (b : β) : Reads (pure b) record b := by
  cases h
  exact reads_pure b

theorem Written.reads_uint {width : Nat} {value : Int} {next : Nat → Read β}
    (h : Written (.ok (.uint width value name) :: steps) record)
    (hnext : ∀ (n : Nat) rest, value = n → Written steps rest → Reads (next n) rest b) :
    Reads (readUInt width field >>= next) record b := by
  cases h with
  | @cons _ _ rest hrange hrest =>
      obtain ⟨hlower, hupper⟩ : 0 ≤ value ∧ value ≤ 256 ^ width - 1 := hrange
      obtain ⟨n, rfl⟩ := Int.eq_ofNat_of_zero_le hlower
      have hlt : n < 256 ^ width := by
        have hlt : (n : Int) < (256 ^ width : Nat) := by
          push_cast
          omega
        exact_mod_cast hlt
      exact (Wire.reads_uint hlt).bind (hnext n rest rfl hrest)

theorem Written.reads_int32 {value : Int} {next : Int → Read β}
    (h : Written (.ok (.int32 value name) :: steps) record)
    (hnext : ∀ rest, Written steps rest → Reads (next value) rest b) :
    Reads (readInt32BE field >>= next) record b := by
  cases h with
  | @cons _ _ rest hrange hrest =>
      exact (Wire.reads_int32 hrange.1 hrange.2).bind (hnext rest hrest)

theorem Written.reads_field {bytes : Bytes} {read : Read α} {a : α}
    (h : Written (.ok (.bytes bytes name) :: steps) record) (hread : Reads read bytes a)
    (hnext : ∀ rest, Written steps rest → Reads (next a) rest b) :
    Reads (read >>= next) record b := by
  cases h with
  | @cons _ _ rest _ hrest => exact hread.bind (hnext rest hrest)

theorem Written.reads_bytes {made : Except String Bytes} {read : Read α} {a : α}
    (h : Written (bytesField made name :: steps) record)
    (hread : ∀ bytes, made = .ok bytes → Reads read bytes a)
    (hnext : ∀ rest, Written steps rest → Reads (next a) rest b) :
    Reads (read >>= next) record b := by
  cases made with
  | error message => cases h
  | ok bytes => exact h.reads_field (hread bytes rfl) hnext

end Written

/-- All of a record is read. -/
theorem Reads.run {read : Read α} {context : String} {a : α} (h : Reads read xs a) :
    CheckedByteReader.run context xs (do
      let a ← read
      CheckedByteReader.finish
      pure a) = .ok a := by
  have hread := h ⟨context, 0, xs⟩ [] (List.append_nil xs).symm
  change ((read ⟨context, 0, xs⟩ >>= _) >>= _) = _
  rw [hread, ok_bind]
  rfl

end Reads
end OpenRfc.Wire
