import Mathlib.Data.List.TakeWhile

namespace NebulaCloud.Data

/-! # Marks that are kept apart

A history, newest entry first, in which something must lie between any two marked
entries. -/

variable {α : Type*} {marked separates : α → Bool} {entry : α} {history added : List α}

/-- The entries since the last that separates. -/
def sinceLast (separates : α → Bool) (history : List α) : List α := history.takeWhile fun entry => !separates entry

/-- Between any two marked entries is one that separates them. -/
def Separated (marked separates : α → Bool) (history : List α) : Prop :=
  ∀ newer later between earlier older, history = newer ++ later :: (between ++ earlier :: older) →
    marked later = true → marked earlier = true → ∃ entry ∈ between, separates entry = true

theorem separated_nil : Separated marked separates [] := by
  intro newer later between earlier older split
  simp at split

@[simp] theorem sinceLast_cons_of_pos (separating : separates entry = true) :
    sinceLast separates (entry :: history) = [] := by
  simp [sinceLast, separating]

@[simp] theorem sinceLast_cons_of_neg (other : separates entry = false) :
    sinceLast separates (entry :: history) = entry :: sinceLast separates history := by
  simp [sinceLast, other]

theorem sinceLast_append_of_neg (others : ∀ entry ∈ added, separates entry = false) :
    sinceLast separates (added ++ history) = added ++ sinceLast separates history := by
  induction added with
  | nil => rfl
  | cons entry rest ih =>
      rw [List.cons_append, sinceLast_cons_of_neg (others entry (by simp)), List.cons_append,
        ih fun other member => others other (by simp [member])]

/-- A mark may be added when none has come since the last separation. -/
theorem Separated.cons (separated : Separated marked separates history)
    (apart : ∀ entry, marked entry = true → separates entry = false)
    (free : marked entry = true → ∀ other ∈ sinceLast separates history, marked other = false) :
    Separated marked separates (entry :: history) := by
  intro newer later between earlier older split isLater isEarlier
  cases newer with
  | cons newest rest =>
      rw [List.cons_append, List.cons.injEq] at split
      exact separated rest later between earlier older split.2 isLater isEarlier
  | nil =>
      obtain ⟨rfl, rfl⟩ := List.cons.inj split
      by_contra none
      have others : ∀ other ∈ between, separates other = false := by
        intro other member
        cases separating : separates other with
        | false => rfl
        | true => exact absurd ⟨other, member, separating⟩ none
      have unseparated : earlier ∈ sinceLast separates (between ++ earlier :: older) := by
        rw [sinceLast_append_of_neg others, sinceLast_cons_of_neg (apart earlier isEarlier)]
        simp
      rw [free isLater earlier unseparated] at isEarlier
      cases isEarlier

theorem Separated.append_of_unmarked (separated : Separated marked separates history)
    (apart : ∀ entry, marked entry = true → separates entry = false)
    (unmarked : ∀ entry ∈ added, marked entry = false) : Separated marked separates (added ++ history) := by
  induction added with
  | nil => exact separated
  | cons entry rest ih =>
      refine (ih fun other member => unmarked other (by simp [member])).cons apart fun isMarked => ?_
      rw [unmarked entry (by simp)] at isMarked
      cases isMarked

end NebulaCloud.Data
