import Mathlib.Data.List.AList
import Mathlib.Data.List.Count

namespace NebulaCloud.Data

/-! Counting a bag in a map: a key has an entry while the bag holds it. -/

universe u

variable {Key : Type u} [DecidableEq Key]

abbrev Counts (Key : Type u) := AList fun _ : Key => Int

/-- `counts.get(key) ?? 0`. -/
def Counts.count (counts : Counts Key) (key : Key) : Int := (counts.lookup key).getD 0

/-- The map counts the bag. -/
def Tallies (counts : Counts Key) (bag : List Key) : Prop :=
  ∀ key, counts.lookup key = if bag.count key = 0 then none else some (bag.count key : Int)

variable {counts : Counts Key} {bag next : List Key} {key : Key}

theorem tallies_nil : Tallies (∅ : Counts Key) [] := by
  intro key
  simp

theorem Tallies.count_eq (tallies : Tallies counts bag) (key : Key) :
    counts.count key = bag.count key := by
  rw [Counts.count, tallies key]
  split
  · rename_i absent
    simp [absent]
  · rfl

theorem Tallies.lookup_of_mem (tallies : Tallies counts bag) (member : key ∈ bag) :
    counts.lookup key = some (bag.count key : Int) := by
  rw [tallies key, if_neg (Nat.ne_of_gt (List.count_pos_iff.mpr member))]

/-- Writing the new number of a key that the bag still holds. -/
theorem Tallies.insert (tallies : Tallies counts bag)
    (others : ∀ other, other ≠ key → next.count other = bag.count other)
    (present : next.count key ≠ 0) :
    Tallies (counts.insert key (next.count key : Int)) next := by
  intro other
  by_cases same : other = key
  · subst same
    rw [AList.lookup_insert, if_neg present]
  · rw [AList.lookup_insert_ne same, tallies other, others other same]

/-- Dropping the entry of a key that the bag no longer holds. -/
theorem Tallies.erase (tallies : Tallies counts bag)
    (others : ∀ other, other ≠ key → next.count other = bag.count other)
    (absent : next.count key = 0) : Tallies (counts.erase key) next := by
  intro other
  by_cases same : other = key
  · subst same
    rw [AList.lookup_erase, if_pos absent]
  · rw [AList.lookup_erase_ne same, tallies other, others other same]

end NebulaCloud.Data
