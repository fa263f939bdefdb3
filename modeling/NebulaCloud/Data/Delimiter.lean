import Mathlib.Data.List.Basic

namespace NebulaCloud.Data

/-! Where a delimiter first stands in a list.  The answer for a list is that for each of
its extensions, and that for a prefix as soon as the whole delimiter has come. -/

variable {α : Type*} [DecidableEq α]

def indexOf (delimiter : List α) : List α → Option Nat
  | [] => if delimiter = [] then some 0 else none
  | first :: rest =>
      if delimiter <+: first :: rest then some 0 else (indexOf delimiter rest).map (· + 1)

variable {delimiter text more : List α} {index : Nat}

theorem indexOf_bound (found : indexOf delimiter text = some index) :
    index + delimiter.length ≤ text.length := by
  induction text generalizing index with
  | nil =>
      simp only [indexOf] at found
      split at found
      · rename_i empty
        cases found
        simp [empty]
      · cases found
  | cons first rest ih =>
      simp only [indexOf] at found
      split at found
      · rename_i starts
        cases found
        simpa using starts.length_le
      · obtain ⟨before, later, rfl⟩ := Option.map_eq_some_iff.mp found
        have bound := ih later
        simp only [List.length_cons]
        omega

/-- A delimiter that has come stays where it is. -/
theorem indexOf_append (found : indexOf delimiter text = some index) :
    indexOf delimiter (text ++ more) = some index := by
  induction text generalizing index with
  | nil =>
      simp only [indexOf] at found
      split at found
      · rename_i empty
        cases found
        cases more <;> simp [indexOf, empty]
      · cases found
  | cons first rest ih =>
      simp only [indexOf] at found
      split at found
      · rename_i starts
        cases found
        have longer : delimiter <+: first :: (rest ++ more) := starts.trans (List.prefix_append _ more)
        simp only [List.cons_append, indexOf, if_pos longer]
      · rename_i later
        obtain ⟨before, foundLater, rfl⟩ := Option.map_eq_some_iff.mp found
        have bound := indexOf_bound foundLater
        have shorter : ¬ delimiter <+: first :: (rest ++ more) := by
          intro starts
          refine later ?_
          have fits : delimiter.length ≤ (first :: rest).length := by
            simp only [List.length_cons]
            omega
          exact List.prefix_of_prefix_length_le starts (List.prefix_append (first :: rest) more) fits
        simp only [List.cons_append, indexOf, if_neg shorter, ih foundLater, Option.map_some]

/-- A delimiter that ends within a prefix stands there. -/
theorem indexOf_of_append (found : indexOf delimiter (text ++ more) = some index)
    (within : index + delimiter.length ≤ text.length) : indexOf delimiter text = some index := by
  induction text generalizing index with
  | nil =>
      obtain ⟨start, empty⟩ : index = 0 ∧ delimiter = [] := by simpa using within
      simp [indexOf, empty, start]
  | cons first rest ih =>
      simp only [List.cons_append, indexOf] at found ⊢
      split at found
      · rename_i starts
        cases found
        have here : delimiter <+: first :: rest :=
          List.prefix_of_prefix_length_le starts (List.prefix_append (first :: rest) more) (by simpa using within)
        rw [if_pos here]
      · rename_i later
        obtain ⟨before, foundLater, rfl⟩ := Option.map_eq_some_iff.mp found
        have notHere : ¬ delimiter <+: first :: rest :=
          fun starts => later (starts.trans (List.prefix_append (first :: rest) more))
        rw [if_neg notHere, ih foundLater (by simp only [List.length_cons] at within; omega), Option.map_some]

end NebulaCloud.Data
