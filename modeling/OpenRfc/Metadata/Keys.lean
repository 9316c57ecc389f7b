import OpenRfc.Foundation.Fallible
import Mathlib.Data.Nat.Digits.Lemmas

/-!
The identities of the metadata repository. The source keys its tables with strings which
it builds from tuples; the model keys them with the tuples. The theorems at the end of
this module say that the strings identify the tuples, and that the prefix test with which
an invalidation selects loads in flight selects those of the invalidated object.
-/

namespace OpenRfc.Metadata
open Fallible

inductive MetadataRepositoryMode
  | auto
  | classic
  | optimizedOnly
  | legacyV3
deriving DecidableEq, Repr

inductive MetadataLoadStrategy
  | classic
  | optimized
  | legacyV3
deriving DecidableEq, Repr

def MetadataRepositoryMode.text : MetadataRepositoryMode → String
  | .auto => "auto"
  | .classic => "classic"
  | .optimizedOnly => "optimizedOnly"
  | .legacyV3 => "legacyV3"

def MetadataLoadStrategy.text : MetadataLoadStrategy → String
  | .classic => "classic"
  | .optimized => "optimized"
  | .legacyV3 => "legacyV3"

structure MetadataStructuralKey where
  backendKey : String
  metadataGeneration : String
  language : String
  objectKind : String
  objectName : String
deriving DecidableEq, Repr

structure MetadataCapabilityKey where
  backendKey : String
  principalKey : String
deriving DecidableEq, Repr

/-- A lookup whose keys identify the same backend. -/
structure MetadataLookup where
  structural : MetadataStructuralKey
  capability : MetadataCapabilityKey
  mode : MetadataRepositoryMode
  same_backend : structural.backendKey = capability.backendKey
deriving DecidableEq, Repr

structure OperationEpoch where
  global : Nat
  object : Nat
deriving DecidableEq, Repr

inductive MetadataAccessFailureClassification
  | unavailable
  | authorization
  | communication
  | timeout
  | canceled
  | malformed
  | other
deriving DecidableEq, Repr

def MetadataAccessFailureClassification.text : MetadataAccessFailureClassification → String
  | .unavailable => "unavailable"
  | .authorization => "authorization"
  | .communication => "communication"
  | .timeout => "timeout"
  | .canceled => "canceled"
  | .malformed => "malformed"
  | .other => "other"

/-- What a promise is rejected with. `foreign` is a value thrown by the adapter. -/
inductive Failure
  | access (classification : MetadataAccessFailureClassification) (message : String)
  | typeError (message : String)
  | rangeError (message : String)
  | error (message : String)
  | foreign (value : Nat)
deriving DecidableEq, Repr

def isControl (c : Char) : Bool := c ≤ '\x1f' || c == '\x7f'

def opaqueIdentity (value field : String) : Except Failure String :=
  if 1 ≤ value.length ∧ value.length ≤ 512 ∧ value.toList.all (fun c => !isControl c) then
    .ok value
  else .error (.rangeError s!"{field} must contain 1..512 characters without controls")

def createMetadataStructuralKey (input : MetadataStructuralKey) :
    Except Failure MetadataStructuralKey := do
  return {
    backendKey := ← opaqueIdentity input.backendKey "backendKey"
    metadataGeneration := ← opaqueIdentity input.metadataGeneration "metadataGeneration"
    language := ← opaqueIdentity input.language "language"
    objectKind := ← opaqueIdentity input.objectKind "objectKind"
    objectName := ← opaqueIdentity input.objectName "objectName" }

def createMetadataCapabilityKey (input : MetadataCapabilityKey) :
    Except Failure MetadataCapabilityKey := do
  return {
    backendKey := ← opaqueIdentity input.backendKey "backendKey"
    principalKey := ← opaqueIdentity input.principalKey "principalKey" }

/-- How `JSON.stringify` writes a character of a string without controls. -/
def escape (c : Char) : List Char := if c = '"' ∨ c = '\\' then ['\\', c] else [c]

/-- A JSON string after its opening quote. -/
def quoteTail : List Char → List Char
  | [] => ['"']
  | c :: cs => escape c ++ quoteTail cs

/-- A JSON array of strings after its opening bracket. -/
def tupleTail : List (List Char) → List Char
  | [] => [']']
  | [x] => '"' :: (quoteTail x ++ [']'])
  | x :: y :: rest => '"' :: (quoteTail x ++ ',' :: tupleTail (y :: rest))

def tupleId (values : List (List Char)) : List Char := '[' :: tupleTail values

def MetadataStructuralKey.id (k : MetadataStructuralKey) : List Char :=
  tupleId [k.backendKey.toList, k.metadataGeneration.toList, k.language.toList,
    k.objectKind.toList, k.objectName.toList]

def MetadataCapabilityKey.id (k : MetadataCapabilityKey) : List Char :=
  tupleId [k.backendKey.toList, k.principalKey.toList]

/-- `key.id` as the caller supplies it must be the identity of the key's fields. -/
def canonicalizeStructuralKey (suppliedId : List Char) (key : MetadataStructuralKey) :
    Except Failure MetadataStructuralKey := do
  let expected ← createMetadataStructuralKey key
  if suppliedId ≠ expected.id then
    throw (.error "metadata structural key does not match its canonical fields")
  return expected

def canonicalizeCapabilityKey (suppliedId : List Char) (key : MetadataCapabilityKey) :
    Except Failure MetadataCapabilityKey := do
  let expected ← createMetadataCapabilityKey key
  if suppliedId ≠ expected.id then
    throw (.error "metadata capability key does not match its canonical fields")
  return expected

def canonicalizeLookup (structuralId capabilityId : List Char)
    (structural : MetadataStructuralKey) (capability : MetadataCapabilityKey)
    (mode : MetadataRepositoryMode) : Except Failure MetadataLookup := do
  let structural ← canonicalizeStructuralKey structuralId structural
  let capability ← canonicalizeCapabilityKey capabilityId capability
  if h : structural.backendKey = capability.backendKey then
    return ⟨structural, capability, mode, h⟩
  else
    throw (.error
      "metadata structural and capability keys must identify the same backend")

/-- What authorizations and loads in flight are filed under. -/
structure AccessKey where
  capability : MetadataCapabilityKey
  mode : MetadataRepositoryMode
  strategy : MetadataLoadStrategy
  structural : MetadataStructuralKey
  epoch : OperationEpoch
deriving DecidableEq, Repr

/-- `lookup.capabilityIdentity` -/
def capabilityIdentity (capability : MetadataCapabilityKey) (mode : MetadataRepositoryMode) :
    List Char :=
  tupleId [capability.id, mode.text.toList]

def digit36 (d : Nat) : Char := Char.ofNat (if d < 10 then d + 48 else d + 87)

/-- `toString(36)` of a natural number. -/
def toString36 (n : Nat) : List Char :=
  if n = 0 then ['0'] else (Nat.digits 36 n).reverse.map digit36

def epochIdentity (epoch : OperationEpoch) : List Char :=
  toString36 epoch.global ++ ':' :: toString36 epoch.object

/-- `#authorizationKey` -/
def AccessKey.authorizationKey (k : AccessKey) : List Char :=
  tupleId [capabilityIdentity k.capability k.mode, k.strategy.text.toList, k.structural.id,
    epochIdentity k.epoch]

def AccessKey.inFlightKey (k : AccessKey) : List Char :=
  k.structural.id ++ '\n' :: (capabilityIdentity k.capability k.mode ++
    '\n' :: (k.strategy.text.toList ++ '\n' :: epochIdentity k.epoch))

theorem quoteTail_append_inj {s s' t t' : List Char}
    (h : quoteTail s ++ t = quoteTail s' ++ t') : s = s' ∧ t = t' := by
  induction s generalizing s' with
  | nil =>
      cases s' with
      | nil => exact ⟨rfl, by simpa [quoteTail] using h⟩
      | cons c cs =>
          exfalso
          by_cases hc : c = '"' ∨ c = '\\'
          · simp [quoteTail, escape, hc] at h
          · simp only [quoteTail, escape, hc, if_false, List.cons_append,
              List.nil_append] at h
            exact hc (.inl (List.cons.inj h).1.symm)
  | cons c cs ih =>
      cases s' with
      | nil =>
          exfalso
          by_cases hc : c = '"' ∨ c = '\\'
          · simp [quoteTail, escape, hc] at h
          · simp only [quoteTail, escape, hc, if_false, List.cons_append,
              List.nil_append] at h
            exact hc (.inl (List.cons.inj h).1)
      | cons d ds =>
          by_cases hc : c = '"' ∨ c = '\\' <;> by_cases hd : d = '"' ∨ d = '\\' <;>
            simp only [quoteTail, escape, hc, hd, if_true, if_false, List.cons_append,
              List.nil_append, List.cons.injEq, true_and] at h
          · obtain ⟨rfl, h⟩ := h
            obtain ⟨rfl, ht⟩ := ih h
            exact ⟨rfl, ht⟩
          · exact absurd (.inr h.1.symm) hd
          · exact absurd (.inr h.1) hc
          · obtain ⟨rfl, h⟩ := h
            obtain ⟨rfl, ht⟩ := ih h
            exact ⟨rfl, ht⟩

theorem tupleTail_append_inj {xs ys : List (List Char)} {t t' : List Char}
    (h : tupleTail xs ++ t = tupleTail ys ++ t') : xs = ys ∧ t = t' := by
  induction xs generalizing ys with
  | nil =>
      match ys with
      | [] => exact ⟨rfl, by simpa [tupleTail] using h⟩
      | [_] | _ :: _ :: _ => simp [tupleTail] at h
  | cons x xs ih =>
      match xs, ys with
      | [], [] | _ :: _, [] => simp [tupleTail] at h
      | [], [y] =>
          simp only [tupleTail, List.cons_append, List.append_assoc, List.cons.injEq,
            true_and] at h
          obtain ⟨rfl, h⟩ := quoteTail_append_inj h
          exact ⟨rfl, by simpa using h⟩
      | [], y :: z :: rest =>
          simp only [tupleTail, List.cons_append, List.append_assoc, List.cons.injEq,
            true_and] at h
          simpa using (quoteTail_append_inj h).2
      | w :: more, [y] =>
          simp only [tupleTail, List.cons_append, List.append_assoc, List.cons.injEq,
            true_and] at h
          simpa using (quoteTail_append_inj h).2
      | w :: more, y :: z :: rest =>
          simp only [tupleTail, List.cons_append, List.append_assoc, List.cons.injEq,
            true_and] at h
          obtain ⟨hx, htail⟩ := quoteTail_append_inj h
          obtain ⟨heq, ht⟩ := ih (List.cons.inj htail).2
          exact ⟨by rw [hx, heq], ht⟩

theorem tupleId_append_inj {xs ys : List (List Char)} {t t' : List Char}
    (h : tupleId xs ++ t = tupleId ys ++ t') : xs = ys ∧ t = t' :=
  tupleTail_append_inj (List.cons.inj h).2

theorem tupleId_injective : Function.Injective tupleId := by
  intro xs ys h
  have : tupleId xs ++ [] = tupleId ys ++ [] := by rw [h]
  exact (tupleId_append_inj this).1

theorem MetadataStructuralKey.id_append_inj {k k' : MetadataStructuralKey} {t t' : List Char}
    (h : k.id ++ t = k'.id ++ t') : k = k' ∧ t = t' := by
  obtain ⟨hk, ht⟩ := tupleId_append_inj h
  refine ⟨?_, ht⟩
  simp only [List.cons.injEq, String.toList_inj, and_true] at hk
  cases k
  cases k'
  simpa using hk

theorem MetadataCapabilityKey.id_injective : Function.Injective MetadataCapabilityKey.id := by
  intro k k' h
  have hk := tupleId_injective h
  simp only [List.cons.injEq, String.toList_inj, and_true] at hk
  cases k
  cases k'
  simpa using hk

theorem MetadataRepositoryMode.text_injective :
    Function.Injective MetadataRepositoryMode.text := by
  intro m m' h
  cases m <;> cases m' <;> first | rfl | exact absurd h (by decide)

theorem capabilityIdentity_append_inj {c c' : MetadataCapabilityKey}
    {m m' : MetadataRepositoryMode} {t t' : List Char}
    (h : capabilityIdentity c m ++ t = capabilityIdentity c' m' ++ t') :
    c = c' ∧ m = m' ∧ t = t' := by
  obtain ⟨hk, ht⟩ := tupleId_append_inj h
  simp only [List.cons.injEq, String.toList_inj, and_true] at hk
  exact ⟨MetadataCapabilityKey.id_injective hk.1, MetadataRepositoryMode.text_injective hk.2,
    ht⟩

theorem digit36_injOn {a b : Nat} (ha : a < 36) (hb : b < 36) (h : digit36 a = digit36 b) :
    a = b := by
  have hval : ∀ d < 36, (digit36 d).toNat = if d < 10 then d + 48 else d + 87 := by decide
  have := congrArg Char.toNat h
  rw [hval a ha, hval b hb] at this
  split at this <;> split at this <;> omega

theorem map_digit36_inj {xs ys : List Nat} (hx : ∀ d ∈ xs, d < 36) (hy : ∀ d ∈ ys, d < 36)
    (h : xs.map digit36 = ys.map digit36) : xs = ys := by
  induction xs generalizing ys with
  | nil =>
      cases ys with
      | nil => rfl
      | cons y ys => cases h
  | cons x xs ih =>
      cases ys with
      | nil => cases h
      | cons y ys =>
          obtain ⟨hd, ht⟩ := List.cons.inj h
          have := digit36_injOn (hx x List.mem_cons_self) (hy y List.mem_cons_self) hd
          rw [this, ih (fun d hd => hx d (List.mem_cons_of_mem _ hd))
            (fun d hd => hy d (List.mem_cons_of_mem _ hd)) ht]

theorem digits_lt {n d : Nat} (h : d ∈ (Nat.digits 36 n).reverse) : d < 36 :=
  Nat.digits_lt_base (by omega) (List.mem_reverse.mp h)

theorem toString36_injective : Function.Injective toString36 := by
  intro a b h
  have key : ∀ n, n ≠ 0 → (Nat.digits 36 n).reverse.map digit36 ≠ ['0'] := by
    intro n hn h
    have hz : (Nat.digits 36 n).reverse = [0] := by
      apply map_digit36_inj (fun d => digits_lt) (by simp)
      rw [h]
      decide
    have : Nat.digits 36 n = [0] := by simpa using congrArg List.reverse hz
    have hval := Nat.ofDigits_digits 36 n
    rw [this] at hval
    simp at hval
    exact hn hval.symm
  unfold toString36 at h
  split at h <;> split at h
  · omega
  · exact absurd h.symm (key b ‹_›)
  · exact absurd h (key a ‹_›)
  · have := map_digit36_inj (fun d => digits_lt) (fun d => digits_lt) h
    exact Nat.digits_inj_iff.mp (List.reverse_injective this)

theorem colon_notMem_toString36 (n : Nat) : ':' ∉ toString36 n := by
  have hd : ∀ d < 36, digit36 d ≠ ':' := by decide
  unfold toString36
  split
  · decide
  · intro h
    obtain ⟨d, hmem, heq⟩ := List.mem_map.mp h
    exact hd d (digits_lt hmem) heq

/-- Two strings split at their first occurrence of a character. -/
theorem append_cons_inj {c : Char} {s s' t t' : List Char} (hs : c ∉ s) (hs' : c ∉ s')
    (h : s ++ c :: t = s' ++ c :: t') : s = s' ∧ t = t' := by
  induction s generalizing s' with
  | nil =>
      cases s' with
      | nil => exact ⟨rfl, (List.cons.inj h).2⟩
      | cons d ds =>
          exact absurd ((List.cons.inj h).1 ▸ List.mem_cons_self) hs'
  | cons a as ih =>
      cases s' with
      | nil => exact absurd ((List.cons.inj h).1 ▸ List.mem_cons_self) hs
      | cons d ds =>
          obtain ⟨hd, h⟩ := List.cons.inj h
          obtain ⟨hs, ht⟩ := ih (fun hm => hs (List.mem_cons_of_mem _ hm))
            (fun hm => hs' (List.mem_cons_of_mem _ hm)) h
          exact ⟨by rw [hd, hs], ht⟩

theorem epochIdentity_injective : Function.Injective epochIdentity := by
  intro e e' h
  obtain ⟨hg, ho⟩ := append_cons_inj (colon_notMem_toString36 _) (colon_notMem_toString36 _) h
  cases e
  cases e'
  simpa using And.intro (toString36_injective hg) (toString36_injective ho)

theorem MetadataLoadStrategy.text_append_inj {x y : MetadataLoadStrategy} {t t' : List Char}
    (h : x.text.toList ++ '\n' :: t = y.text.toList ++ '\n' :: t') : x = y ∧ t = t' := by
  have hne : ∀ z : MetadataLoadStrategy, '\n' ∉ z.text.toList := by
    intro z
    cases z <;> decide
  obtain ⟨hx, ht⟩ := append_cons_inj (hne x) (hne y) h
  refine ⟨?_, ht⟩
  cases x <;> cases y <;> first | rfl | exact absurd hx (by decide)

/-- The strings which key the authorization table identify what they were built from. -/
theorem AccessKey.authorizationKey_injective : Function.Injective AccessKey.authorizationKey := by
  intro k k' h
  have hk := tupleId_injective h
  simp only [List.cons.injEq, and_true] at hk
  obtain ⟨hcap, hstrategy, hstructural, hepoch⟩ := hk
  have hcap' : capabilityIdentity k.capability k.mode ++ [] =
      capabilityIdentity k'.capability k'.mode ++ [] := by rw [hcap]
  have hstrategy' : k.strategy.text.toList ++ '\n' :: [] = k'.strategy.text.toList ++ '\n' :: [] := by
    rw [hstrategy]
  have hstructural' : k.structural.id ++ [] = k'.structural.id ++ [] := by rw [hstructural]
  obtain ⟨hc, hm, -⟩ := capabilityIdentity_append_inj hcap'
  have hs := (MetadataLoadStrategy.text_append_inj hstrategy').1
  have ho := (MetadataStructuralKey.id_append_inj hstructural').1
  have he := epochIdentity_injective hepoch
  cases k
  cases k'
  simp_all

theorem AccessKey.inFlightKey_injective : Function.Injective AccessKey.inFlightKey := by
  intro k k' h
  obtain ⟨ho, h⟩ := MetadataStructuralKey.id_append_inj h
  obtain ⟨hc, hm, h⟩ := capabilityIdentity_append_inj (List.cons.inj h).2
  obtain ⟨hs, h⟩ := MetadataLoadStrategy.text_append_inj (List.cons.inj h).2
  have he := epochIdentity_injective h
  cases k
  cases k'
  simp_all

/-- The prefix test of `invalidate` holds of the loads of the invalidated object. -/
theorem AccessKey.prefix_inFlightKey_iff {object : MetadataStructuralKey} {k : AccessKey} :
    (object.id ++ ['\n']).IsPrefix k.inFlightKey ↔ k.structural = object := by
  constructor
  · rintro ⟨t, h⟩
    rw [List.append_assoc] at h
    exact (MetadataStructuralKey.id_append_inj h).1.symm
  · rintro rfl
    exact ⟨_, by rw [List.append_assoc]; rfl⟩

theorem opaqueIdentity_eq_ok {value field identity : String}
    (h : opaqueIdentity value field = .ok identity) : identity = value := by
  unfold opaqueIdentity at h
  split at h
  · exact (Except.ok.inj h).symm
  · cases h

theorem createMetadataStructuralKey_eq_ok {input key : MetadataStructuralKey}
    (h : createMetadataStructuralKey input = .ok key) : key = input := by
  simp only [createMetadataStructuralKey, bind_eq_ok] at h
  obtain ⟨_, hb, _, hg, _, hl, _, hk, _, hn, h⟩ := h
  cases h
  rw [opaqueIdentity_eq_ok hb, opaqueIdentity_eq_ok hg, opaqueIdentity_eq_ok hl,
    opaqueIdentity_eq_ok hk, opaqueIdentity_eq_ok hn]

theorem createMetadataCapabilityKey_eq_ok {input key : MetadataCapabilityKey}
    (h : createMetadataCapabilityKey input = .ok key) : key = input := by
  simp only [createMetadataCapabilityKey, bind_eq_ok] at h
  obtain ⟨_, hb, _, hp, h⟩ := h
  cases h
  rw [opaqueIdentity_eq_ok hb, opaqueIdentity_eq_ok hp]

theorem canonicalizeStructuralKey_eq_ok {suppliedId : List Char} {key key' : MetadataStructuralKey}
    (h : canonicalizeStructuralKey suppliedId key = .ok key') :
    key' = key ∧ suppliedId = key.id := by
  obtain ⟨expected, he, hchecked⟩ := bind_eq_ok.mp h
  obtain rfl := createMetadataStructuralKey_eq_ok he
  split at hchecked
  · cases hchecked
  · rename_i hid
    cases hchecked
    exact ⟨rfl, not_not.mp hid⟩

theorem canonicalizeCapabilityKey_eq_ok {suppliedId : List Char} {key key' : MetadataCapabilityKey}
    (h : canonicalizeCapabilityKey suppliedId key = .ok key') :
    key' = key ∧ suppliedId = key.id := by
  obtain ⟨expected, he, hchecked⟩ := bind_eq_ok.mp h
  obtain rfl := createMetadataCapabilityKey_eq_ok he
  split at hchecked
  · cases hchecked
  · rename_i hid
    cases hchecked
    exact ⟨rfl, not_not.mp hid⟩

/-- A lookup is admitted only under the identities of its own keys. -/
theorem canonicalizeLookup_eq_ok {structuralId capabilityId : List Char}
    {structural : MetadataStructuralKey} {capability : MetadataCapabilityKey}
    {mode : MetadataRepositoryMode} {lookup : MetadataLookup}
    (h : canonicalizeLookup structuralId capabilityId structural capability mode = .ok lookup) :
    lookup.structural = structural ∧ lookup.capability = capability ∧ lookup.mode = mode ∧
      structuralId = structural.id ∧ capabilityId = capability.id := by
  obtain ⟨structural', hs, hrest⟩ := bind_eq_ok.mp h
  obtain ⟨capability', hc, hbackends⟩ := bind_eq_ok.mp hrest
  obtain ⟨rfl, hid⟩ := canonicalizeStructuralKey_eq_ok hs
  obtain ⟨rfl, hid'⟩ := canonicalizeCapabilityKey_eq_ok hc
  split at hbackends
  · cases hbackends
    exact ⟨rfl, rfl, rfl, hid, hid'⟩
  · cases hbackends

end OpenRfc.Metadata
