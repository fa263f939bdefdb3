import NebulaCloud.Data.Runs

namespace NebulaCloud.Data

/-! Texts put together from fields.  Where only the last field may have the separator, or
only the first, the fields can be read back. -/

variable {α : Type*} {separator : α} {front back other later : List α}

theorem field_unique (same : front ++ separator :: back = other ++ separator :: later) (free : separator ∉ front)
    (free' : separator ∉ other) : front = other ∧ back = later := by
  classical
  have each {field : List α} (free : separator ∉ field) : ∀ x ∈ field, decide (x ≠ separator) = true := by
    intro x member
    rw [decide_eq_true_eq]
    rintro rfl
    exact free member
  have ends (rest : List α) : ∀ x ∈ (separator :: rest).head?, decide (x ≠ separator) = false := by simp
  obtain ⟨fronts, backs⟩ := run_unique same (each free) (ends back) (each free') (ends later)
  exact ⟨fronts, (List.cons.inj backs).2⟩

theorem field_unique_last (same : front ++ separator :: back = other ++ separator :: later) (free : separator ∉ back)
    (free' : separator ∉ later) : front = other ∧ back = later := by
  have reversed := congrArg List.reverse same
  simp only [List.reverse_append, List.reverse_cons, List.append_assoc, List.singleton_append] at reversed
  obtain ⟨backs, fronts⟩ := field_unique reversed (by simpa using free) (by simpa using free')
  exact ⟨List.reverse_injective fronts, List.reverse_injective backs⟩

def joinFields (separator : α) (fields : List (List α)) (last : List α) : List α :=
  fields.foldr (fun field rest => field ++ separator :: rest) last

@[simp] theorem joinFields_nil {last : List α} : joinFields separator [] last = last := rfl

@[simp] theorem joinFields_cons {field : List α} {fields : List (List α)} {last : List α} :
    joinFields separator (field :: fields) last = field ++ separator :: joinFields separator fields last := rfl

theorem joinFields_injective {fields others : List (List α)} (length : fields.length = others.length)
    (free : ∀ field ∈ fields, separator ∉ field) (free' : ∀ field ∈ others, separator ∉ field)
    (same : joinFields separator fields back = joinFields separator others later) : fields = others ∧ back = later := by
  induction fields generalizing others with
  | nil =>
      obtain rfl := List.eq_nil_of_length_eq_zero length.symm
      exact ⟨rfl, by simpa only [joinFields_nil] using same⟩
  | cons field fields ih =>
      cases others with
      | nil => simp at length
      | cons other others =>
          rw [joinFields_cons, joinFields_cons] at same
          obtain ⟨rfl, rest⟩ := field_unique same (free _ List.mem_cons_self) (free' _ List.mem_cons_self)
          obtain ⟨rfl, last⟩ := ih (by simpa using length) (fun part member => free part (List.mem_cons_of_mem _ member))
            (fun part member => free' part (List.mem_cons_of_mem _ member)) rest
          exact ⟨rfl, last⟩

end NebulaCloud.Data
