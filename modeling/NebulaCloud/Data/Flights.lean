import NebulaCloud.Data.History
import NebulaCloud.Data.Program

namespace NebulaCloud.Data

/-! Programs that run side by side over what they share.  One question with its answer is
one step, and in between everybody else may go on. -/

universe u v

/-- A program under way for the task that has started it. -/
structure Flight (Task : Type u) {Question : Type u} (Answer : Question → Type u) (Result : Type u) where
  task : Task
  past : List (Sigma Answer)
  rest : Program Question Answer Result

structure Flights (State Task : Type u) {Question : Type u} (Answer : Question → Type u) (Result : Type u) where
  shared : State
  flights : List (Flight Task Answer Result)

/-- Something else may happen to what is shared as well. -/
inductive FlightEvent (Event Task Draw : Type u)
  | start (task : Task)
  | advance (index : Nat) (draw : Draw)
  | elsewhere (event : Event)

/-- What answers the questions; to answer one may be an event of what is shared.  Some events
come from outside. -/
structure Service (State Event Task Draw : Type u) {Question : Type u} (Answer : Question → Type u)
    (Result : Type u) where
  main : Task → Program Question Answer Result
  answer : Task → State → Draw → (question : Question) → Answer question
  event : Task → Draw → Question → Option Event
  outside : Event → Prop

namespace Service

variable {State Event Task Draw Question : Type u} {Answer : Question → Type u} {Result : Type u}
  (service : Service State Event Task Draw Answer Result) (system : System State Event)

/-- What a step does to what is shared. -/
def effect (state : Flights State Task Answer Result) : FlightEvent Event Task Draw → Option Event
  | .start _ => none
  | .advance index draw =>
      match state.flights[index]? with
      | some ⟨task, _, .ask question _⟩ => service.event task draw question
      | _ => none
  | .elsewhere event => some event

def advanced (shared : State) (draw : Draw) (flight : Flight Task Answer Result) : Flight Task Answer Result :=
  match flight with
  | ⟨task, past, .ask question next⟩ =>
      let told := service.answer task shared draw question
      ⟨task, past ++ [⟨question, told⟩], next told⟩
  | ⟨task, past, .done result⟩ => ⟨task, past, .done result⟩

def flightsAfter (state : Flights State Task Answer Result) :
    FlightEvent Event Task Draw → List (Flight Task Answer Result)
  | .start task => state.flights ++ [⟨task, [], service.main task⟩]
  | .advance index draw => state.flights.modify index (service.advanced state.shared draw)
  | .elsewhere _ => state.flights

def IsOutside (service : Service State Event Task Draw Answer Result) : FlightEvent Event Task Draw → Prop
  | .elsewhere event => service.outside event
  | _ => True

/-- All interleavings. -/
def flying : System (Flights State Task Answer Result) (FlightEvent Event Task Draw) where
  Initial state := system.Initial state.shared ∧ state.flights = []
  Enabled state event :=
    (∀ effect ∈ service.effect state event, system.Enabled state.shared effect) ∧ service.IsOutside event
  step state event :=
    { shared := (service.effect state event).elim state.shared (system.step state.shared)
      flights := service.flightsAfter state event }

/-- The event is the answer to a question of a flight. -/
def Turn (state : Flights State Task Answer Result) (event : FlightEvent Event Task Draw) (task : Task)
    (past : List (Sigma Answer)) (question : Question) (draw : Draw) : Prop :=
  ∃ index next, event = .advance index draw ∧ state.flights[index]? = some ⟨task, past, .ask question next⟩

/-- What has been asked may be asked, and what has been told may be told. -/
structure Sound (Allowed : Task → List (Sigma Answer) → Question → Prop) (Told : Task → Sigma Answer → Prop)
    (flight : Flight Task Answer Result) : Prop where
  guarded : Program.Guarded (Allowed flight.task) flight.past flight.rest
  told : ∀ answered ∈ flight.past, Told flight.task answered

variable {service system} {state : Flights State Task Answer Result} {event : FlightEvent Event Task Draw}
  {events : List (FlightEvent Event Task Draw)} {effect : Event} {flight : Flight Task Answer Result} {task : Task}
  {past : List (Sigma Answer)} {question : Question} {draw : Draw}
  {Allowed : Task → List (Sigma Answer) → Question → Prop} {Told : Task → Sigma Answer → Prop}

theorem flying_shared : ((service.flying system).step state event).shared =
    (service.effect state event).elim state.shared (system.step state.shared) := rfl

theorem effect_cases (happens : effect ∈ service.effect state event) :
    event = .elsewhere effect ∨ ∃ task past question draw, Turn state event task past question draw ∧
      service.event task draw question = some effect := by
  cases event with
  | start task => cases happens
  | elsewhere other =>
      cases happens
      exact .inl rfl
  | advance index draw =>
      simp only [Service.effect] at happens
      split at happens
      · rename_i task past question next found
        exact .inr ⟨task, past, question, draw, ⟨index, next, rfl, found⟩, happens⟩
      · cases happens

theorem advanced_task (shared : State) : (service.advanced shared draw flight).task = flight.task := by
  rcases flight with ⟨task, past, _ | _⟩
  · rfl
  · rfl

theorem advanced_sound
    (truthful : ∀ task shared draw question, Told task ⟨question, service.answer task shared draw question⟩)
    (shared : State) (sound : Sound Allowed Told flight) :
    Sound Allowed Told (service.advanced shared draw flight) := by
  rcases flight with ⟨task, past, result | ⟨question, next⟩⟩
  · exact sound
  · obtain ⟨guarded, told⟩ := sound
    cases guarded with
    | ask allowed each =>
        refine ⟨each _, ?_⟩
        intro answered member
        rcases List.mem_append.mp member with earlier | last
        · exact told answered earlier
        · rw [List.mem_singleton.mp last]
          exact truthful task shared draw question

/-- The step lemma: flights stay sound, and no task comes from nowhere. -/
theorem flightsAfter_sound (guarded : ∀ task, Program.Guarded (Allowed task) [] (service.main task))
    (truthful : ∀ task shared draw question, Told task ⟨question, service.answer task shared draw question⟩)
    (sound : ∀ flight ∈ state.flights, Sound Allowed Told flight)
    (after : flight ∈ service.flightsAfter state event) :
    Sound Allowed Told flight ∧
      (event = .start flight.task ∨ ∃ earlier ∈ state.flights, earlier.task = flight.task) := by
  cases event with
  | start task =>
      rcases List.mem_append.mp after with earlier | started
      · exact ⟨sound flight earlier, .inr ⟨flight, earlier, rfl⟩⟩
      · rw [List.mem_singleton] at started
        subst started
        exact ⟨⟨guarded task, by simp⟩, .inl rfl⟩
  | elsewhere other => exact ⟨sound flight after, .inr ⟨flight, after, rfl⟩⟩
  | advance index draw =>
      obtain ⟨position, found⟩ := List.mem_iff_getElem?.mp after
      simp only [flightsAfter, List.getElem?_modify] at found
      cases before : state.flights[position]? with
      | none =>
          rw [before] at found
          simp at found
      | some earlier =>
          have present : earlier ∈ state.flights := List.mem_iff_getElem?.mpr ⟨position, before⟩
          rw [before] at found
          simp only [Option.map_eq_map, Option.map_some, Option.some_inj] at found
          split at found
          · subst found
            exact ⟨advanced_sound truthful _ (sound earlier present), .inr ⟨earlier, present, (advanced_task _).symm⟩⟩
          · subst found
            exact ⟨sound _ present, .inr ⟨_, present, rfl⟩⟩

/-- The run lemma. -/
theorem flying_sound (guarded : ∀ task, Program.Guarded (Allowed task) [] (service.main task))
    (truthful : ∀ task shared draw question, Told task ⟨question, service.answer task shared draw question⟩)
    (sound : ∀ flight ∈ state.flights, Sound Allowed Told flight)
    (after : flight ∈ ((service.flying system).run state events).flights) :
    Sound Allowed Told flight ∧
      (.start flight.task ∈ events ∨ ∃ earlier ∈ state.flights, earlier.task = flight.task) := by
  induction events generalizing state with
  | nil => exact ⟨sound flight after, .inr ⟨flight, after, rfl⟩⟩
  | cons event rest ih =>
      have step := fun (flight : Flight Task Answer Result) (member : flight ∈ service.flightsAfter state event) =>
        flightsAfter_sound guarded truthful sound member
      obtain ⟨final, began⟩ := ih (fun flight member => (step flight member).1) after
      refine ⟨final, ?_⟩
      rcases began with started | ⟨earlier, present, same⟩
      · exact .inl (List.mem_cons_of_mem _ started)
      · rcases (step earlier present).2 with began | ⟨first, stored, task⟩
        · rw [← same, ← began]
          exact .inl List.mem_cons_self
        · exact .inr ⟨first, stored, task.trans same⟩

/-- Whoever comes up with a question in a run from nobody's on has been started, may ask it
and has been told the truth. -/
theorem turn_allowed (guarded : ∀ task, Program.Guarded (Allowed task) [] (service.main task))
    (truthful : ∀ task shared draw question, Told task ⟨question, service.answer task shared draw question⟩)
    (empty : state.flights = [])
    (turn : Turn ((service.flying system).run state events) event task past question draw) :
    .start task ∈ events ∧ Allowed task past question ∧ ∀ answered ∈ past, Told task answered := by
  obtain ⟨index, next, -, found⟩ := turn
  have present := List.mem_iff_getElem?.mpr ⟨index, found⟩
  have none : ∀ flight ∈ state.flights, Sound Allowed Told flight := by simp [empty]
  obtain ⟨⟨asks, told⟩, began⟩ := flying_sound guarded truthful none present
  refine ⟨by simpa [empty] using began, ?_, told⟩
  cases asks with
  | ask allowed _ => exact allowed

end Service

end NebulaCloud.Data
