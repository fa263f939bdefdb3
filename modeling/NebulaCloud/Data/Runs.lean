import Mathlib.Data.List.Basic

namespace NebulaCloud.Data

/-! # Runs at the head of a list -/

variable {α : Type*} {holds : α → Bool} {run rest : List α}

theorem dropWhile_of_head (head : ∀ x ∈ rest.head?, holds x = false) : rest.dropWhile holds = rest := by
  cases rest with
  | nil => rfl
  | cons x rest => rw [List.dropWhile_cons_of_neg (by rw [head x rfl]; decide)]

theorem takeWhile_run (each : ∀ x ∈ run, holds x = true) (ends : ∀ x ∈ rest.head?, holds x = false) :
    (run ++ rest).takeWhile holds = run := by
  rw [List.takeWhile_append_of_pos each]
  cases rest with
  | nil => simp
  | cons x rest => simp [ends x rfl]

theorem dropWhile_run (each : ∀ x ∈ run, holds x = true) (ends : ∀ x ∈ rest.head?, holds x = false) :
    (run ++ rest).dropWhile holds = rest := by
  rw [List.dropWhile_append_of_pos each, dropWhile_of_head ends]

/-- Where a run ends is determined. -/
theorem run_unique {other later : List α} (same : run ++ rest = other ++ later)
    (each : ∀ x ∈ run, holds x = true) (ends : ∀ x ∈ rest.head?, holds x = false)
    (eachOther : ∀ x ∈ other, holds x = true) (endsLater : ∀ x ∈ later.head?, holds x = false) :
    run = other ∧ rest = later := by
  have runs := congrArg (List.takeWhile holds) same
  have rests := congrArg (List.dropWhile holds) same
  rw [takeWhile_run each ends, takeWhile_run eachOther endsLater] at runs
  rw [dropWhile_run each ends, dropWhile_run eachOther endsLater] at rests
  exact ⟨runs, rests⟩

theorem head?_dropWhile (holds : α → Bool) (text : List α) : ∀ x ∈ (text.dropWhile holds).head?, holds x = false := by
  intro x head
  have first := List.head?_dropWhile_not holds text
  rwa [Option.mem_def.mp head] at first

/-- An element of a kind stands behind a stretch without that kind, or further on. -/
theorem append_cons_inv (holds : α → Bool) {front back stretch later : List α} {x separator : α}
    (same : front ++ x :: back = stretch ++ separator :: later) (found : holds x = true)
    (free : ∀ y ∈ stretch, holds y = false) :
    (front = stretch ∧ x = separator ∧ back = later) ∨
      ∃ middle, front = stretch ++ separator :: middle ∧ middle ++ x :: back = later := by
  rcases List.append_eq_append_iff.mp same with ⟨more, rfl, behind⟩ | ⟨more, rfl, behind⟩
  · cases more with
    | nil =>
        cases behind
        exact .inl ⟨(List.append_nil front).symm, rfl, rfl⟩
    | cons y more =>
        cases behind
        have none := free x (List.mem_append_right front List.mem_cons_self)
        rw [found] at none
        cases none
  · cases more with
    | nil =>
        cases behind
        exact .inl ⟨List.append_nil stretch, rfl, rfl⟩
    | cons y more =>
        cases behind
        exact .inr ⟨more, rfl, rfl⟩

/-- What is taken without an element ends in front of it. -/
theorem append_cons_behind {front back taken left : List α} {x : α} (same : front ++ x :: back = taken ++ left)
    (free : x ∉ taken) : ∃ more, front = taken ++ more ∧ left = more ++ x :: back := by
  rcases List.append_eq_append_iff.mp same with ⟨more, rfl, behind⟩ | ⟨more, rfl, rfl⟩
  · cases more with
    | nil => exact ⟨[], by simp, behind.symm⟩
    | cons y more =>
        obtain rfl := (List.cons.inj behind).1
        exact absurd (List.mem_append_right front List.mem_cons_self) free
  · exact ⟨more, rfl, rfl⟩

end NebulaCloud.Data
