import Mathlib.Logic.Basic

namespace NebulaCloud.Data

/-! A store is a family of tables together with the proof that every declared
constraint holds.  The only way to write it is a statement, which either leaves
the constraints standing or is refused. -/

universe u v w

/-- The declared constraints of a family of tables. -/
structure Schema (Tables : Type u) (Constraint : Type v) where
  Holds : Constraint → Tables → Prop
  decidable : ∀ constraint tables, Decidable (Holds constraint tables)
  constraints : List Constraint
  complete : ∀ constraint, constraint ∈ constraints

namespace Schema

variable {Tables : Type u} {Constraint : Type v} (schema : Schema Tables Constraint)

def Consistent (tables : Tables) : Prop := ∀ constraint, schema.Holds constraint tables

/-- The first declared constraint that the tables break. -/
def violated? (tables : Tables) : Option Constraint :=
  schema.constraints.find? fun constraint =>
    @decide (¬ schema.Holds constraint tables)
      (@instDecidableNot _ (schema.decidable constraint tables))

theorem violated?_eq_none {tables : Tables} :
    schema.violated? tables = none ↔ schema.Consistent tables := by
  simp only [violated?, List.find?_eq_none, decide_eq_true_eq, not_not]
  exact ⟨fun holds constraint => holds constraint (schema.complete constraint),
    fun consistent constraint _ => consistent constraint⟩

end Schema

/-- Tables that cannot be in a state the schema forbids. -/
@[ext] structure Store {Tables : Type u} {Constraint : Type v} (schema : Schema Tables Constraint) where
  tables : Tables
  consistent : schema.Consistent tables

namespace Store

/-- A store from tables that the checker accepts. -/
def load {Tables : Type u} {Constraint : Type v} {schema : Schema Tables Constraint} (tables : Tables)
    (accepted : schema.violated? tables = none) : Store schema :=
  ⟨tables, schema.violated?_eq_none.mp accepted⟩

variable {Tables : Type u} {Constraint : Type v} {schema : Schema Tables Constraint}
  {Failure : Type w} {refuse : Constraint → Failure} {store after : Store schema} {write : Tables → Tables}

/-- One statement: its effect is kept when every constraint still holds and
dropped as a whole otherwise. -/
def execute (refuse : Constraint → Failure) (store : Store schema) (write : Tables → Tables) :
    Except Failure (Store schema) :=
  match kept : schema.violated? (write store.tables) with
  | none => .ok ⟨write store.tables, schema.violated?_eq_none.mp kept⟩
  | some constraint => .error (refuse constraint)

theorem execute_ok :
    store.execute refuse write = .ok after ↔ after.tables = write store.tables := by
  unfold execute
  split
  · rename_i kept
    rw [Except.ok.injEq]
    constructor
    · rintro rfl
      rfl
    · intro same
      exact Store.ext same.symm
  · rename_i constraint broken
    constructor
    · simp
    · intro same
      have consistent := schema.violated?_eq_none.mpr after.consistent
      rw [same, broken] at consistent
      contradiction

/-- A refusal names a broken constraint. -/
theorem execute_error {failure : Failure} (refused : store.execute refuse write = .error failure) :
    ∃ constraint, failure = refuse constraint := by
  unfold execute at refused
  split at refused <;> cases refused
  exact ⟨_, rfl⟩

theorem execute_of_consistent (consistent : schema.Consistent (write store.tables)) :
    store.execute refuse write = .ok ⟨write store.tables, consistent⟩ :=
  execute_ok.mpr rfl

end Store

end NebulaCloud.Data
