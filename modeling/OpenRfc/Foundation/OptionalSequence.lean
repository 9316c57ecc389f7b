import Mathlib.Data.List.Forall2

/-!
Sequences of coordinates, some of which may be absent. A walk takes the coordinates in order and
leaves one out where the item in front does not match it. It never has to go back if no item
matches both a coordinate which may be absent and one which may come next without it.
-/

namespace OptionalSequence
variable {C F : Type}

/-- What remains of a sequence without some of its optional coordinates. -/
inductive Omits (isOptional : C → Bool) : List C → List C → Prop
  | nil : Omits isOptional [] []
  | take {c : C} {cs taken : List C} : Omits isOptional cs taken →
      Omits isOptional (c :: cs) (c :: taken)
  | leave {c : C} {cs taken : List C} : isOptional c = true → Omits isOptional cs taken →
      Omits isOptional (c :: cs) taken

/-- The items match the coordinates which are not omitted, one to one and in order. -/
structure Matches (isOptional : C → Bool) (accepts : F → C → Bool) (cs : List C) (items : List F)
    (taken : List C) : Prop where
  omits : Omits isOptional cs taken
  accepted : List.Forall₂ (fun item c => accepts item c = true) items taken

/-- The coordinates which are taken, and the items which remain. -/
def walk (isOptional : C → Bool) (accepts : F → C → Bool) :
    List C → List F → Option (List C × List F)
  | [], items => some ([], items)
  | c :: cs, item :: items =>
    if accepts item c then
      (walk isOptional accepts cs items).map fun (taken, rest) => (c :: taken, rest)
    else if isOptional c then walk isOptional accepts cs (item :: items)
    else none
  | c :: cs, [] => if isOptional c then walk isOptional accepts cs [] else none

/-- The coordinates which the first item may be for. -/
def first (isOptional : C → Bool) : List C → List C
  | [] => []
  | c :: cs => if isOptional c then c :: first isOptional cs else [c]

/-- A coordinate which may be absent is apart from those which may come next without it. -/
def Determined (isOptional : C → Bool) (apart : C → C → Prop) : List C → Prop
  | [] => True
  | c :: cs => (isOptional c = true → ∀ next ∈ first isOptional cs, apart c next) ∧
      Determined isOptional apart cs

instance decidableDetermined (isOptional : C → Bool) (apart : C → C → Prop)
    [DecidableRel apart] : (cs : List C) → Decidable (Determined isOptional apart cs)
  | [] => inferInstanceAs (Decidable True)
  | _ :: cs =>
    have := decidableDetermined isOptional apart cs
    inferInstanceAs (Decidable (_ ∧ _))

section Walk
variable {isOptional : C → Bool} {accepts : F → C → Bool} {apart : C → C → Prop} {cs taken : List C}
  {items front rest : List F}

theorem Omits.mem_first {c : C} (h : Omits isOptional cs (c :: taken)) : c ∈ first isOptional cs := by
  generalize heq : c :: taken = chosen at h
  induction h with
  | nil => cases heq
  | @take next cs _ _ _ =>
      obtain ⟨rfl, -⟩ := List.cons.inj heq
      rw [first]
      split <;> simp
  | leave hoptional _ ih =>
      rw [first, if_pos hoptional]
      exact List.mem_cons_of_mem _ (ih heq)

/-- What may not be absent is taken. -/
theorem Omits.mem_of_required {c : C} (h : Omits isOptional cs taken) (hc : c ∈ cs)
    (hrequired : isOptional c = false) : c ∈ taken := by
  induction h with
  | nil => exact hc
  | take _ ih =>
      rcases List.mem_cons.mp hc with rfl | hc
      · exact List.mem_cons_self
      · exact List.mem_cons_of_mem _ (ih hc)
  | leave hoptional _ ih =>
      rcases List.mem_cons.mp hc with rfl | hc
      · rw [hrequired] at hoptional
        cases hoptional
      · exact ih hc

/-- What is taken matches, and is one choice. -/
theorem walk_sound (h : walk isOptional accepts cs items = some (taken, rest)) :
    ∃ front, items = front ++ rest ∧ Matches isOptional accepts cs front taken := by
  induction cs generalizing items taken with
  | nil =>
      obtain ⟨rfl, rfl⟩ := Prod.mk.inj (Option.some.inj h)
      exact ⟨[], rfl, .nil, .nil⟩
  | cons c cs ih =>
      cases items with
      | nil =>
          rw [walk] at h
          split at h
          · rename_i hoptional
            obtain ⟨front, hitems, homits, haccepted⟩ := ih h
            exact ⟨front, hitems, .leave hoptional homits, haccepted⟩
          · cases h
      | cons item items =>
          rw [walk] at h
          split at h
          · rename_i hitem
            obtain ⟨⟨taken', rest'⟩, hwalk, heq⟩ := Option.map_eq_some_iff.mp h
            obtain ⟨rfl, rfl⟩ := Prod.mk.inj heq
            obtain ⟨front, rfl, homits, haccepted⟩ := ih hwalk
            exact ⟨item :: front, rfl, .take homits, .cons hitem haccepted⟩
          · split at h
            · rename_i hoptional
              obtain ⟨front, hitems, homits, haccepted⟩ := ih h
              exact ⟨front, hitems, .leave hoptional homits, haccepted⟩
            · cases h

/-- All of a sequence may be absent. -/
theorem exists_walk_of_omits_nil (h : Omits isOptional cs []) (items : List F) :
    ∃ more rest, walk isOptional accepts cs items = some (more, rest) := by
  induction cs generalizing items with
  | nil => exact ⟨[], items, rfl⟩
  | cons c cs ih =>
      cases h with
      | leave hoptional homits =>
          cases items with
          | nil =>
              rw [walk, if_pos hoptional]
              exact ih homits []
          | cons item items =>
              rw [walk, if_pos hoptional]
              split
              · obtain ⟨more, rest, hwalk⟩ := ih homits items
                exact ⟨c :: more, rest, by rw [hwalk]; rfl⟩
              · exact ih homits (item :: items)

/-- A match is found, and perhaps a longer one. -/
theorem walk_complete (hdetermined : Determined isOptional apart cs)
    (hapart : ∀ item c next, apart c next → accepts item c = true → accepts item next = false)
    (h : Matches isOptional accepts cs front taken) (behind : List F) :
    ∃ more rest, walk isOptional accepts cs (front ++ behind) = some (taken ++ more, rest) := by
  induction cs generalizing front taken with
  | nil =>
      obtain ⟨⟨⟩, ⟨⟩⟩ := h
      exact ⟨[], behind, rfl⟩
  | cons c cs ih =>
      obtain ⟨homits, haccepted⟩ := h
      cases homits with
      | take homits =>
          cases haccepted with
          | @cons item _ front _ hitem haccepted =>
              obtain ⟨more, rest, hwalk⟩ := ih hdetermined.2 ⟨homits, haccepted⟩
              refine ⟨more, rest, ?_⟩
              rw [List.cons_append, walk, if_pos hitem, hwalk]
              rfl
      | leave hoptional homits =>
          cases haccepted with
          | nil => exact exists_walk_of_omits_nil (.leave hoptional homits) behind
          | @cons item next front chosen hitem haccepted =>
              -- The item is for a later coordinate, and so not for this one.
              have hother : ¬accepts item c = true := fun hc => by
                rw [hapart item c next (hdetermined.1 hoptional next homits.mem_first) hc] at hitem
                cases hitem
              rw [List.cons_append, walk, if_neg hother, if_pos hoptional]
              exact ih hdetermined.2 ⟨homits, .cons hitem haccepted⟩

variable (hdetermined : Determined isOptional apart cs)
  (hapart : ∀ item c next, apart c next → accepts item c = true → accepts item next = false)
include hdetermined hapart

/-- A choice for all items is found. -/
theorem walk_eq_some_nil :
    walk isOptional accepts cs items = some (taken, []) ↔
      Matches isOptional accepts cs items taken := by
  constructor
  · intro h
    obtain ⟨front, hitems, hmatches⟩ := walk_sound h
    rw [List.append_nil] at hitems
    rwa [hitems]
  · intro h
    obtain ⟨more, rest, hwalk⟩ := walk_complete hdetermined hapart h []
    rw [List.append_nil] at hwalk
    obtain ⟨front, hitems, hmatches⟩ := walk_sound hwalk
    have hlength := congrArg List.length hitems
    rw [List.length_append, h.accepted.length_eq, hmatches.accepted.length_eq,
      List.length_append] at hlength
    obtain rfl : rest = [] := List.eq_nil_of_length_eq_zero (by omega)
    obtain rfl : more = [] := List.eq_nil_of_length_eq_zero (by omega)
    rwa [List.append_nil] at hwalk

/-- A walk ends if and only if a choice matches items in front. -/
theorem walk_isSome :
    (walk isOptional accepts cs items).isSome ↔
      ∃ count taken, Matches isOptional accepts cs (items.take count) taken := by
  constructor
  · intro h
    obtain ⟨⟨taken, rest⟩, hwalk⟩ := Option.isSome_iff_exists.mp h
    obtain ⟨front, rfl, hmatches⟩ := walk_sound hwalk
    exact ⟨front.length, taken, by rwa [List.take_left]⟩
  · rintro ⟨count, taken, h⟩
    obtain ⟨more, rest, hwalk⟩ := walk_complete hdetermined hapart h (items.drop count)
    rw [List.take_append_drop] at hwalk
    rw [hwalk]
    rfl

/-- The match of a walk is the longest one. -/
theorem walk_longest (h : walk isOptional accepts cs items = some (taken, rest)) :
    Matches isOptional accepts cs (items.take taken.length) taken ∧
      ∀ count chosen, Matches isOptional accepts cs (items.take count) chosen →
        chosen <+: taken := by
  constructor
  · obtain ⟨front, rfl, hmatches⟩ := walk_sound h
    rwa [← hmatches.accepted.length_eq, List.take_left]
  · intro count chosen hchosen
    obtain ⟨more, rest', hwalk⟩ := walk_complete hdetermined hapart hchosen (items.drop count)
    rw [List.take_append_drop, h] at hwalk
    exact ⟨more, (Prod.mk.inj (Option.some.inj hwalk)).1.symm⟩

end Walk
end OptionalSequence
