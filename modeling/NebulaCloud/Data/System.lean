import Mathlib.Logic.Basic

namespace NebulaCloud.Data

/-! Event-driven systems: a state, the events that may happen in it and the state
each event leads to. -/

universe u v

structure System (State : Type u) (Event : Type v) where
  Initial : State → Prop
  Enabled : State → Event → Prop
  step : State → Event → State

namespace System

variable {State : Type u} {Event : Type v} (system : System State Event)

/-- The states of all runs of the system. -/
inductive Reachable : State → Prop
  | initial {state : State} : system.Initial state → Reachable state
  | step {state : State} {event : Event} :
      Reachable state → system.Enabled state event → Reachable (system.step state event)

/-- The invariant rule. -/
theorem Reachable.invariant {system : System State Event} (Holds : State → Prop) {state : State}
    (reachable : system.Reachable state)
    (start : ∀ state, system.Initial state → Holds state)
    (preserved : ∀ state event, system.Enabled state event → Holds state →
      Holds (system.step state event)) : Holds state := by
  induction reachable with
  | initial first => exact start _ first
  | step _ enabled ih => exact preserved _ _ enabled ih

/-- A condition holds of every step of a run. -/
def Along (Holds : State → Event → Prop) : State → List Event → Prop
  | _, [] => True
  | state, event :: rest => Holds state event ∧ Along Holds (system.step state event) rest

/-- Every event of the list may happen when its turn comes. -/
abbrev Runs : State → List Event → Prop := system.Along system.Enabled

/-- The state at the end of a run. -/
def run : State → List Event → State := List.foldl system.step

variable {system} {state : State} {event : Event} {events later : List Event}

@[simp] theorem run_nil : system.run state [] = state := rfl

@[simp] theorem run_cons : system.run state (event :: events) = system.run (system.step state event) events :=
  rfl

theorem run_append : system.run state (events ++ later) = system.run (system.run state events) later :=
  List.foldl_append

instance decidableAlong {Holds : State → Event → Prop}
    [each : ∀ state event, Decidable (Holds state event)] :
    (events : List Event) → (state : State) → Decidable (system.Along Holds state events)
  | [], _ => .isTrue trivial
  | event :: rest, state =>
      @instDecidableAnd _ _ (each state event) (decidableAlong rest (system.step state event))

/-- A step lemma under a condition gives a run lemma for the runs that meet it. -/
theorem Along.invariant {Met Kept : State → Event → Prop} {Holds : State → Prop}
    (met : system.Along Met state events) (start : Holds state)
    (preserved : ∀ state event, Met state event → Holds state →
      Kept state event ∧ Holds (system.step state event)) :
    system.Along Kept state events ∧ Holds (system.run state events) := by
  induction events generalizing state with
  | nil => exact ⟨trivial, start⟩
  | cons event rest ih =>
      obtain ⟨now, later⟩ := met
      obtain ⟨kept, next⟩ := preserved state event now start
      obtain ⟨restKept, final⟩ := ih later next
      exact ⟨⟨kept, restKept⟩, final⟩

theorem Along.mono {Met Kept : State → Event → Prop} (met : system.Along Met state events)
    (each : ∀ state event, Met state event → Kept state event) :
    system.Along Kept state events := by
  induction events generalizing state with
  | nil => trivial
  | cons event rest ih => exact ⟨each state event met.1, ih met.2⟩

theorem Along.and {First Second : State → Event → Prop} (first : system.Along First state events)
    (second : system.Along Second state events) :
    system.Along (fun state event => First state event ∧ Second state event) state events := by
  induction events generalizing state with
  | nil => trivial
  | cons event rest ih => exact ⟨⟨first.1, second.1⟩, ih first.2 second.2⟩

theorem along_append {Holds : State → Event → Prop} :
    system.Along Holds state (events ++ later) ↔
      system.Along Holds state events ∧ system.Along Holds (system.run state events) later := by
  induction events generalizing state with
  | nil => simp [Along]
  | cons event rest ih => simp only [List.cons_append, Along, ih, run_cons, and_assoc]

theorem Reachable.run (reachable : system.Reachable state) (runs : system.Runs state events) :
    system.Reachable (system.run state events) := by
  induction events generalizing state with
  | nil => exact reachable
  | cons event rest ih => exact ih (.step reachable runs.1) runs.2

end System

end NebulaCloud.Data
