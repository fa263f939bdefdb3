import Mathlib.Algebra.BigOperators.Group.List.Basic
import Mathlib.Data.List.Dedup

namespace NebulaCloud.Data

/-! Queries that group the rows they find or join them with another table.  A sum
that is taken group by group is the sum over all rows. -/

universe u v w

variable {Row : Type u} {Key : Type v}

/-- `GROUP BY key`. -/
def groups [DecidableEq Key] (key : Row → Key) (rows : List Row) : List (Key × List Row) :=
  (rows.map key).dedup.map fun wanted => (wanted, rows.filter fun row => key row = wanted)

/-- `LEFT JOIN`: a left row that matches nothing appears once. -/
def leftJoin {Right : Type w} (matching : Row → Right → Bool) (rows : List Row) (rights : List Right) :
    List (Row × Option Right) :=
  rows.flatMap fun row =>
    match rights.filter (matching row) with
    | [] => [(row, none)]
    | found => found.map fun right => (row, some right)

section Sums

variable {Measure : Type w} [AddCommMonoid Measure] {measure : Row → Measure} {key : Row → Key}
  {rows : List Row} {keys : List Key}

theorem sum_map_single [DecidableEq Key] (distinct : keys.Nodup) {chosen : Key} (member : chosen ∈ keys)
    (value : Measure) : (keys.map fun wanted => if chosen = wanted then value else 0).sum = value := by
  induction keys with
  | nil => cases member
  | cons first rest ih =>
      obtain ⟨fresh, distinct⟩ := List.nodup_cons.mp distinct
      rw [List.map_cons, List.sum_cons]
      by_cases same : chosen = first
      · have others : (rest.map fun wanted => if chosen = wanted then value else 0).sum = 0 := by
          apply List.sum_eq_zero
          intro other held
          obtain ⟨wanted, listed, rfl⟩ := List.mem_map.mp held
          rw [if_neg]
          rintro rfl
          exact fresh (same ▸ listed)
        rw [if_pos same, others, add_zero]
      · rw [if_neg same, zero_add]
        exact ih distinct ((List.mem_cons.mp member).resolve_left same)

/-- Rows counted under each of their possible keys are counted once. -/
theorem sum_fibers [DecidableEq Key] (distinct : keys.Nodup) (covered : ∀ row ∈ rows, key row ∈ keys) :
    (keys.map fun wanted => ((rows.filter fun row => key row = wanted).map measure).sum).sum =
      (rows.map measure).sum := by
  induction rows with
  | nil =>
      apply List.sum_eq_zero
      intro value member
      obtain ⟨wanted, _, rfl⟩ := List.mem_map.mp member
      rfl
  | cons row rest ih =>
      have split : ∀ wanted, (((row :: rest).filter fun row => key row = wanted).map measure).sum =
          (if key row = wanted then measure row else 0) +
            ((rest.filter fun row => key row = wanted).map measure).sum := by
        intro wanted
        by_cases same : key row = wanted <;> simp [same]
      simp only [split]
      rw [List.sum_map_add, sum_map_single distinct (covered row List.mem_cons_self),
        ih fun other member => covered other (List.mem_cons_of_mem _ member), List.map_cons, List.sum_cons]

theorem sum_groups [DecidableEq Key] :
    ((groups key rows).map fun group => (group.2.map measure).sum).sum = (rows.map measure).sum := by
  rw [groups, List.map_map]
  refine sum_fibers (List.nodup_dedup _) fun row member => ?_
  exact List.mem_dedup.mpr (List.mem_map_of_mem member)

theorem sum_leftJoin {Right : Type v} {matching : Row → Right → Bool} {rights : List Right}
    {measure : Right → Measure} :
    ((leftJoin matching rows rights).map fun pair => (pair.2.map measure).getD 0).sum =
      (rows.map fun row => ((rights.filter (matching row)).map measure).sum).sum := by
  induction rows with
  | nil => rfl
  | cons row rest ih =>
      rw [leftJoin, List.flatMap_cons, List.map_append, List.sum_append, ← leftJoin, ih, List.map_cons,
        List.sum_cons]
      congr 1
      cases found : rights.filter (matching row) with
      | nil => simp
      | cons first others => simp [Function.comp_def]

end Sums

section Counting

variable {Other : Type u} {rows : List Row} {others : List Other} {rowKey : Row → Key} {otherKey : Other → Key}
  {wanted : Row → Bool} {sought : Other → Bool}

/-- Two tables with a common key have as many chosen rows, if they choose the same keys. -/
theorem countP_eq_of_keys (rowsDistinct : (rows.map rowKey).Nodup) (othersDistinct : (others.map otherKey).Nodup)
    (same : ∀ key, (∃ row ∈ rows, wanted row = true ∧ rowKey row = key) ↔
      ∃ other ∈ others, sought other = true ∧ otherKey other = key) :
    rows.countP wanted = others.countP sought := by
  have rowKeys : ((rows.filter wanted).map rowKey).Nodup := (List.filter_sublist.map rowKey).nodup rowsDistinct
  have otherKeys : ((others.filter sought).map otherKey).Nodup :=
    (List.filter_sublist.map otherKey).nodup othersDistinct
  have keys : ((rows.filter wanted).map rowKey).Perm ((others.filter sought).map otherKey) := by
    rw [List.perm_ext_iff_of_nodup rowKeys otherKeys]
    intro key
    simpa [and_assoc] using same key
  simpa [List.countP_eq_length_filter] using keys.length_eq

end Counting

end NebulaCloud.Data
