import NebulaCloud.Data.Runs

namespace NebulaCloud.Data

/-! Machines that read letters one by one and write output on the way.  Some letters are
plain: they come out as themselves, whatever stands around them. -/

variable {σ α β : Type*}

structure Transducer (σ α β : Type*) where
  step : σ → α → σ × List β

namespace Transducer

def run (machine : Transducer σ α β) (state : σ) : List α → σ × List β
  | [] => (state, [])
  | letter :: rest =>
      let (next, output) := machine.step state letter
      let (last, later) := machine.run next rest
      (last, output ++ later)

theorem run_cons (machine : Transducer σ α β) (state : σ) (letter : α) (rest : List α) :
    machine.run state (letter :: rest) = ((machine.run (machine.step state letter).1 rest).1,
      (machine.step state letter).2 ++ (machine.run (machine.step state letter).1 rest).2) := rfl

theorem run_append (machine : Transducer σ α β) (state : σ) (left right : List α) :
    machine.run state (left ++ right) =
      ((machine.run (machine.run state left).1 right).1,
        (machine.run state left).2 ++ (machine.run (machine.run state left).1 right).2) := by
  induction left generalizing state with
  | nil => rfl
  | cons letter rest ih => simp only [List.cons_append, run_cons, ih, List.append_assoc]

/-- Plain output is written for plain letters only, by each of them last and at once: the
machine is then at rest.  What a letter at rest leaves owing is written before the next
plain letter. -/
structure Passes (machine : Transducer σ α β) (Sound Owing : σ → Prop) (rest : σ)
    (Plain : β → Prop) (code : β → α) : Prop where
  rest_sound : Sound rest
  step_sound : ∀ {state letter}, Sound state → Sound (machine.step state letter).1
  plain : ∀ {state unit}, Sound state → Plain unit →
    ∃ lead, machine.step state (code unit) = (rest, lead ++ [unit]) ∧
      (∀ other ∈ lead, ¬ Plain other) ∧ (state = rest → lead = []) ∧ (Owing state → lead ≠ [])
  strange : ∀ {state letter}, Sound state → (¬ ∃ unit, Plain unit ∧ letter = code unit) →
    ∀ other ∈ (machine.step state letter).2, ¬ Plain other
  owes : ∀ {state letter}, Sound state → (state = rest ∨ Owing state) →
    (¬ ∃ unit, Plain unit ∧ letter = code unit) →
    (machine.step state letter).2 ≠ [] ∨ Owing (machine.step state letter).1

namespace Passes

variable {machine : Transducer σ α β} {Sound Owing : σ → Prop} {rest : σ} {Plain : β → Prop} {code : β → α}
  {state : σ} {input : List α} {word before after : List β}

/-- Plain output comes last, and from its own letter. -/
theorem plain_written (passes : machine.Passes Sound Owing rest Plain code) (sound : Sound state)
    {letter : α} {unit : β} (plain : Plain unit) (written : (machine.step state letter).2 = before ++ unit :: after) :
    letter = code unit ∧ after = [] ∧ (machine.step state letter).1 = rest := by
  have known : ∃ unit, Plain unit ∧ letter = code unit := by
    by_contra unknown
    refine passes.strange sound unknown unit ?_ plain
    rw [written]
    exact List.mem_append_right before List.mem_cons_self
  obtain ⟨other, otherPlain, rfl⟩ := known
  obtain ⟨lead, stepped, strange, -⟩ := passes.plain sound otherPlain
  classical
  rw [stepped] at written ⊢
  rcases append_cons_inv (fun unit => decide (Plain unit)) written.symm (decide_eq_true plain)
      (fun unit member => decide_eq_false (strange unit member)) with ⟨-, rfl, rfl⟩ | ⟨middle, -, none⟩
  · exact ⟨rfl, rfl, rfl⟩
  · cases middle <;> cases none

/-- A plain word is written as it is read. -/
theorem run_word (passes : machine.Passes Sound Owing rest Plain code) (plain : ∀ unit ∈ word, Plain unit) :
    machine.run rest (word.map code) = (rest, word) := by
  induction word with
  | nil => rfl
  | cons unit others ih =>
      obtain ⟨lead, stepped, -, none, -⟩ :=
        passes.plain passes.rest_sound (plain unit List.mem_cons_self)
      rw [none rfl, List.nil_append] at stepped
      have later := ih fun other member => plain other (List.mem_cons_of_mem unit member)
      simp only [List.map_cons, run, stepped, later, List.singleton_append]

theorem run_sound (passes : machine.Passes Sound Owing rest Plain code) (sound : Sound state) (input : List α) :
    Sound (machine.run state input).1 := by
  induction input generalizing state with
  | nil => exact sound
  | cons letter others ih => exact ih (passes.step_sound sound)

/-- What is owing comes before anything plain. -/
theorem owing_head (passes : machine.Passes Sound Owing rest Plain code) (sound : Sound state)
    (owing : Owing state) : ∀ unit ∈ (machine.run state input).2.head?, ¬ Plain unit := by
  induction input generalizing state with
  | nil => simp [run]
  | cons letter others ih =>
      have next : Sound (machine.step state letter).1 := passes.step_sound sound
      intro unit member
      by_cases known : ∃ unit, Plain unit ∧ letter = code unit
      · obtain ⟨own, plain, rfl⟩ := known
        obtain ⟨lead, stepped, strange, -, owed⟩ := passes.plain sound plain
        obtain ⟨first, more, rfl⟩ := List.exists_cons_of_ne_nil (owed owing)
        simp only [run, stepped, List.cons_append, List.head?_cons, Option.mem_some_iff] at member
        subst unit
        exact strange first List.mem_cons_self
      · have strange := passes.strange sound known
        rcases written : (machine.step state letter).2 with _ | ⟨first, more⟩
        · have still := (passes.owes sound (.inr owing) known).resolve_left (not_not_intro written)
          simp only [run, written, List.nil_append] at member
          exact ih next still unit member
        · simp only [run, written, List.cons_append, List.head?_cons, Option.mem_some_iff] at member
          subst unit
          exact strange first (by rw [written]; exact List.mem_cons_self)

/-- A plain word at the front of the output was read at the front. -/
theorem prefix_read (passes : machine.Passes Sound Owing rest Plain code) (plain : ∀ unit ∈ word, Plain unit)
    (written : (machine.run rest input).2 = word ++ after) :
    ∃ later, input = word.map code ++ later ∧ (machine.run rest later).2 = after := by
  induction word generalizing input with
  | nil => exact ⟨input, rfl, written⟩
  | cons unit others ih =>
      have first := plain unit List.mem_cons_self
      cases input with
      | nil => simp [run] at written
      | cons letter more =>
          by_cases known : ∃ unit, Plain unit ∧ letter = code unit
          · obtain ⟨own, ownPlain, rfl⟩ := known
            obtain ⟨lead, stepped, -, none, -⟩ := passes.plain passes.rest_sound ownPlain
            simp only [run, stepped, none rfl, List.nil_append, List.cons_append,
              List.cons.injEq] at written
            obtain ⟨rfl, written⟩ := written
            obtain ⟨later, rfl, read⟩ := ih (fun other member => plain other (List.mem_cons_of_mem own member)) written
            exact ⟨later, rfl, read⟩
          · exfalso
            rcases output : (machine.step rest letter).2 with _ | ⟨head, tail⟩
            · have owing := (passes.owes passes.rest_sound (.inl rfl) known).resolve_left (not_not_intro output)
              simp only [run, output, List.nil_append] at written
              exact passes.owing_head (passes.step_sound passes.rest_sound) owing unit
                (by rw [written]; rfl) first
            · simp only [run, output, List.cons_append, List.cons.injEq] at written
              obtain ⟨rfl, -⟩ := written
              exact passes.strange passes.rest_sound known head (by rw [output]; exact List.mem_cons_self) first

/-- Where a plain word is read it is written, and what follows is read from rest. -/
theorem occurs_of_read (passes : machine.Passes Sound Owing rest Plain code) (sound : Sound state)
    (plain : ∀ unit ∈ word, Plain unit) (nonempty : word ≠ []) (early later : List α) :
    ∃ before, (machine.run state (early ++ word.map code ++ later)).2 =
      before ++ word ++ (machine.run rest later).2 := by
  obtain ⟨unit, others, rfl⟩ := List.exists_cons_of_ne_nil nonempty
  obtain ⟨lead, stepped, -⟩ := passes.plain (passes.run_sound sound early) (plain unit List.mem_cons_self)
  have tail := passes.run_word fun other member => plain other (List.mem_cons_of_mem unit member)
  refine ⟨(machine.run state early).2 ++ lead, ?_⟩
  rw [List.append_assoc, run_append, List.map_cons, List.cons_append, run_cons, stepped, run_append, tail]
  simp only [List.append_assoc, List.cons_append, List.nil_append]

/-- A plain word stands in the output exactly where it was read. -/
theorem occurs_iff (passes : machine.Passes Sound Owing rest Plain code) (sound : Sound state)
    (plain : ∀ unit ∈ word, Plain unit) (nonempty : word ≠ []) (input : List α) (after : List β) :
    (∃ before, (machine.run state input).2 = before ++ word ++ after) ↔
      ∃ early later, input = early ++ word.map code ++ later ∧ (machine.run rest later).2 = after := by
  constructor
  · rintro ⟨before, written⟩
    induction input generalizing state before with
    | nil =>
        have empty := congrArg List.length written
        have long := List.length_pos_of_ne_nil nonempty
        simp only [run, List.length_append, List.length_nil] at empty
        omega
    | cons letter more ih =>
        have next : Sound (machine.step state letter).1 := passes.step_sound sound
        rw [run, List.append_assoc] at written
        rcases List.append_eq_append_iff.mp written with ⟨longer, rfl, tail⟩ | ⟨inside, output, tail⟩
        · obtain ⟨early, later, rfl, read⟩ := ih next longer (by rw [tail, List.append_assoc])
          exact ⟨letter :: early, later, rfl, read⟩
        · rcases inside with _ | ⟨head, inside⟩
          · obtain ⟨early, later, rfl, read⟩ := ih next [] (by simpa using tail.symm)
            exact ⟨letter :: early, later, rfl, read⟩
          · obtain ⟨unit, others, rfl⟩ := List.exists_cons_of_ne_nil nonempty
            simp only [List.cons_append, List.cons.injEq] at tail
            obtain ⟨rfl, tail⟩ := tail
            obtain ⟨rfl, rfl, stepped⟩ := passes.plain_written sound (plain unit List.mem_cons_self) output
            rw [stepped] at tail
            obtain ⟨later, rfl, read⟩ := passes.prefix_read
              (fun other member => plain other (List.mem_cons_of_mem unit member)) (by simpa using tail.symm)
            exact ⟨[], later, rfl, read⟩
  · rintro ⟨early, later, rfl, rfl⟩
    exact passes.occurs_of_read sound plain nonempty early later

end Passes

end Transducer

end NebulaCloud.Data
