import Mathlib.Data.List.Basic

namespace NebulaCloud.Data

/-! Programs that ask their surroundings.  The answers may be any, and what comes next
depends on them. -/

universe u v w

inductive Program (Question : Type u) (Answer : Question → Type v) (Result : Type w)
  | done (result : Result)
  | ask (question : Question) (next : Answer question → Program Question Answer Result)

namespace Program

variable {Question : Type u} {Answer : Question → Type v} {Result : Type w}
  {Allowed : List (Sigma Answer) → Question → Prop} {program : Program Question Answer Result}
  {past history : List (Sigma Answer)} {asked : Question}

/-- The question comes up when those of the history have come up and have been answered. -/
def Asks : Program Question Answer Result → List (Sigma Answer) → Question → Prop
  | done _, _, _ => False
  | ask question _, [], asked => asked = question
  | ask question next, answered :: later, asked =>
      ∃ answer, answered = ⟨question, answer⟩ ∧ Asks (next answer) later asked

/-- What is asked, and what comes out, if every question has its answer. -/
def run (answers : ∀ question, Answer question) : Program Question Answer Result → List Question × Result
  | done result => ([], result)
  | ask question next =>
      let (later, result) := run answers (next (answers question))
      (question :: later, result)

/-- Whatever has been answered before it allows each question. -/
inductive Guarded (Allowed : List (Sigma Answer) → Question → Prop) :
    List (Sigma Answer) → Program Question Answer Result → Prop
  | done {past : List (Sigma Answer)} {result : Result} : Guarded Allowed past (done result)
  | ask {past : List (Sigma Answer)} {question : Question}
      {next : Answer question → Program Question Answer Result} (allowed : Allowed past question)
      (each : ∀ answer, Guarded Allowed (past ++ [⟨question, answer⟩]) (next answer)) :
      Guarded Allowed past (ask question next)

/-- The rule for programs: what guards every question holds whenever one comes up. -/
theorem Guarded.asks (guarded : Guarded Allowed past program) (asks : program.Asks history asked) :
    Allowed (past ++ history) asked := by
  induction guarded generalizing history with
  | done => exact asks.elim
  | @ask past question next allowed each ih =>
      cases history with
      | nil =>
          have same : asked = question := asks
          rwa [same, List.append_nil]
      | cons answered later =>
          obtain ⟨answer, rfl, laterAsks⟩ := asks
          have allowedLater := ih answer laterAsks
          rwa [List.append_assoc] at allowedLater

end Program

end NebulaCloud.Data
