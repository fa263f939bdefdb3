import Mathlib.Logic.Basic

namespace NebulaCloud.Data

/-! Transactions.  The body of a transaction either returns the state it wants to
commit or throws; `commit` is the boundary at which a throw rolls the state
back. -/

universe u v w

variable {State : Type u} {Failure : Type v} {Value : Type w}

/-- End a transaction that started in `before`. -/
def commit (before : State) : Except Failure (State × Value) → State × Except Failure Value
  | .ok (after, value) => (after, .ok value)
  | .error failure => (before, .error failure)

/-- A lone statement is a transaction of its own. -/
def autocommit (before : State) : Except Failure State → State
  | .ok after => after
  | .error _ => before

variable {before after : State} {value : Value} {failure : Failure}
  {body : Except Failure (State × Value)}

@[simp] theorem commit_ok :
    commit before (.ok (after, value) : Except Failure (State × Value)) = (after, .ok value) := rfl

@[simp] theorem commit_error :
    commit before (.error failure : Except Failure (State × Value)) = (before, .error failure) := rfl

theorem commit_failed : (commit before body).2 = .error failure ↔ body = .error failure := by
  cases body with
  | ok result => simp [commit]
  | error reason => simp

/-- A rejected transaction leaves the state as it found it. -/
theorem commit_rollback (rejected : (commit before body).2 = .error failure) :
    (commit before body).1 = before := by
  cases body with
  | ok result => simp [commit] at rejected
  | error reason => rfl

/-- A property that the state had and that every successful body keeps is kept
by the transaction. -/
theorem commit_preserves (Holds : State → Prop) (initial : Holds before)
    (kept : ∀ after value, body = .ok (after, value) → Holds after) :
    Holds (commit before body).1 := by
  cases body with
  | ok result => exact kept result.1 result.2 rfl
  | error reason => exact initial

/-- A sequence of steps succeeds exactly when each of them does. -/
theorem bind_ok {First : Type w} {Second : Type w} {first : Except Failure First}
    {next : First → Except Failure Second} {result : Second} :
    (first >>= next) = .ok result ↔ ∃ value, first = .ok value ∧ next value = .ok result := by
  cases first with
  | ok value => simp [bind, Except.bind]
  | error reason => simp [bind, Except.bind]

/-- A sequence of steps fails at the first or after it. -/
theorem bind_error {First : Type w} {Second : Type w} {first : Except Failure First}
    {next : First → Except Failure Second} :
    (first >>= next) = .error failure ↔
      first = .error failure ∨ ∃ value, first = .ok value ∧ next value = .error failure := by
  cases first with
  | ok value => simp [bind, Except.bind]
  | error reason => simp [bind, Except.bind]

/-- Whether a computation succeeds with a certain value can be computed. -/
instance decidableSucceeds {Succeeds : Value → Prop} [DecidablePred Succeeds] :
    (result : Except Failure Value) → Decidable (∃ value, result = .ok value ∧ Succeeds value)
  | .ok value => decidable_of_iff (Succeeds value) (by simp)
  | .error reason => .isFalse (by simp)

instance decidableReturns : (result : Except Failure Value) → Decidable (∃ value, result = .ok value)
  | .ok value => .isTrue ⟨value, rfl⟩
  | .error _ => .isFalse nofun

end NebulaCloud.Data
