import NebulaCloud.Data.System

namespace NebulaCloud.Data.System

/-! Runs looked back on: what a run has brought about, one of its steps has. -/

universe u v

variable {State : Type u} {Event : Type v} {system : System State Event} {state : State} {events : List Event}

theorem exists_turn (Holds : State → Prop) (before : ¬ Holds state) (after : Holds (system.run state events)) :
    ∃ earlier event later, events = earlier ++ event :: later ∧
      ¬ Holds (system.run state earlier) ∧ Holds (system.step (system.run state earlier) event) := by
  induction events generalizing state with
  | nil => exact absurd after before
  | cons event rest ih =>
      by_cases turned : Holds (system.step state event)
      · exact ⟨[], event, rest, rfl, before, turned⟩
      · obtain ⟨earlier, turn, later, split, kept, now⟩ := ih turned after
        exact ⟨event :: earlier, turn, later, by rw [split, List.cons_append], kept, now⟩

/-- What holds along a run holds at each of its steps. -/
theorem Along.at_step {Holds : State → Event → Prop} {earlier later : List Event} {event : Event}
    (along : system.Along Holds state (earlier ++ event :: later)) :
    Holds (system.run state earlier) event :=
  (along_append.mp along).2.1

/-- A list that each step only extends is extended by the run, and each new entry by one step. -/
theorem run_extends {Entry : Type v} (entries : State → List Entry) (Adds : State → Event → Entry → Prop)
    {Met : State → Event → Prop} (met : system.Along Met state events)
    (each : ∀ state event, Met state event → ∃ added, entries (system.step state event) = entries state ++ added ∧
      ∀ entry ∈ added, Adds state event entry) :
    ∃ added, entries (system.run state events) = entries state ++ added ∧
      ∀ entry ∈ added, ∃ earlier event later, events = earlier ++ event :: later ∧
        Adds (system.run state earlier) event entry := by
  induction events generalizing state with
  | nil => exact ⟨[], by simp, by simp⟩
  | cons event rest ih =>
      obtain ⟨first, extended, adds⟩ := each state event met.1
      obtain ⟨others, restExtended, restAdds⟩ := ih met.2
      refine ⟨first ++ others, by rw [run_cons, restExtended, extended, List.append_assoc], ?_⟩
      intro entry member
      rcases List.mem_append.mp member with now | afterwards
      · exact ⟨[], event, rest, rfl, adds entry now⟩
      · obtain ⟨earlier, later, last, split, added⟩ := restAdds entry afterwards
        exact ⟨event :: earlier, later, last, by rw [split, List.cons_append], added⟩

end NebulaCloud.Data.System
