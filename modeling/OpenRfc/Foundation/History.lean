import Mathlib.Data.List.Basic
import Mathlib.Data.List.Count

/-!
Histories of observations, newest first. A law says of an observation, given what has
been observed before it, whether it may occur; a history obeys the law when each of
its observations does. The order of two observations in time, and that one occurs at
most once, are laws.
-/

universe u

namespace History
variable {α : Type u} {P Q : α → List α → Prop}

/-- Every observation obeys the law, given the part of the history before it. -/
def Each (P : α → List α → Prop) : List α → Prop
  | [] => True
  | a :: past => P a past ∧ Each P past

theorem each_cons {a : α} {past : List α} :
    Each P (a :: past) ↔ P a past ∧ Each P past := Iff.rfl

/-- The same law, read off any split of the history. -/
theorem each_iff {h : List α} :
    Each P h ↔ ∀ post a past, h = post ++ a :: past → P a past := by
  induction h with
  | nil => simp [Each]
  | cons x past ih =>
      rw [each_cons, ih]
      constructor
      · rintro ⟨hx, hp⟩ post a pre heq
        cases post with
        | nil =>
            obtain ⟨rfl, rfl⟩ := List.cons.inj heq
            exact hx
        | cons y post => exact hp post a pre (List.cons.inj heq).2
      · intro hall
        refine ⟨hall [] x past rfl, fun post a pre heq => ?_⟩
        exact hall (x :: post) a pre (by rw [heq]; rfl)

theorem Each.mono (hPQ : ∀ a past, P a past → Q a past) {h : List α} (hP : Each P h) :
    Each Q h := by
  induction h with
  | nil => trivial
  | cons a past ih => exact ⟨hPQ a past hP.1, ih hP.2⟩

/-- A law which a history obeys was obeyed by all of its past. -/
theorem Each.past {h : List α} (hP : Each P h) : Each (fun _ past => Each P past) h := by
  induction h with
  | nil => trivial
  | cons a past ih => exact ⟨hP.2, ih hP.2⟩

theorem Each.and {h : List α} (hP : Each P h) (hQ : Each Q h) :
    Each (fun a past => P a past ∧ Q a past) h := by
  induction h with
  | nil => trivial
  | cons a past ih => exact ⟨⟨hP.1, hQ.1⟩, ih hP.2 hQ.2⟩

theorem Each.append {new h : List α} (hP : Each P h)
    (hnew : ∀ a past, a ∈ new → P a past) : Each P (new ++ h) := by
  induction new with
  | nil => exact hP
  | cons a new ih =>
      exact ⟨hnew a _ List.mem_cons_self,
        ih fun b past hb => hnew b past (List.mem_cons_of_mem a hb)⟩

/-- Observations of a kind which may not follow one another occur at most once. -/
theorem Each.countP_le_one {h : List α} {q : α → Bool} (hP : Each P h)
    (once : ∀ a past, P a past → q a = true → ∀ b ∈ past, q b = false) : h.countP q ≤ 1 := by
  induction h with
  | nil => simp
  | cons a past ih =>
      rw [List.countP_cons]
      cases hq : q a with
      | false => simpa using ih hP.2
      | true =>
          have : past.countP q = 0 := by
            rw [List.countP_eq_zero]
            intro b hb
            simp [once a past hP.1 hq b hb]
          simp [this]

end History
