import Mathlib.Data.List.Basic

namespace NebulaCloud.Data

/-! Leases on items, told by the history of what happened to them, newest entry
first.  An item is held by the owner of its last entry while that entry is a
claim. -/

universe u v

inductive LeaseEvent (Owner : Type u) (Item : Type v)
  | claimed (owner : Owner) (item : Item)
  | requeued (item : Item)
  | finished (item : Item)

def LeaseEvent.item {Owner : Type u} {Item : Type v} : LeaseEvent Owner Item → Item
  | .claimed _ item => item
  | .requeued item => item
  | .finished item => item

variable {Owner : Type u} {Item : Type v} {owner : Owner} {item wanted : Item}
  {history : List (LeaseEvent Owner Item)} {entry : LeaseEvent Owner Item}

/-- The latest claim of the item is by this owner, and nothing happened to the
item since. -/
def HeldBy (history : List (LeaseEvent Owner Item)) (owner : Owner) (item : Item) : Prop :=
  ∃ since before, history = since ++ .claimed owner item :: before ∧
    ∀ entry ∈ since, entry.item ≠ item

/-- An entry about another item changes nothing. -/
theorem heldBy_cons_of_ne (different : entry.item ≠ item) :
    HeldBy (entry :: history) owner item ↔ HeldBy history owner item := by
  constructor
  · intro ⟨since, before, split, untouched⟩
    cases since with
    | nil =>
        simp only [List.nil_append, List.cons.injEq] at split
        rw [split.1] at different
        exact absurd rfl different
    | cons head rest =>
        simp only [List.cons_append, List.cons.injEq] at split
        exact ⟨rest, before, split.2, fun later member => untouched later (by simp [member])⟩
  · intro ⟨since, before, split, untouched⟩
    refine ⟨entry :: since, before, by rw [split, List.cons_append], ?_⟩
    intro later member
    rcases List.mem_cons.mp member with rfl | member
    · exact different
    · exact untouched later member

theorem heldBy_cons_self (same : entry.item = item) :
    HeldBy (entry :: history) owner item ↔ entry = .claimed owner item := by
  constructor
  · intro ⟨since, before, split, untouched⟩
    cases since with
    | nil =>
        simp only [List.nil_append, List.cons.injEq] at split
        exact split.1
    | cons head rest =>
        simp only [List.cons_append, List.cons.injEq] at split
        exact absurd (split.1 ▸ same) (untouched head (by simp))
  · intro claimed
    exact ⟨[], history, by rw [claimed, List.nil_append], by simp⟩

theorem not_heldBy_of_fresh (fresh : ∀ entry ∈ history, entry.item ≠ item) :
    ¬ HeldBy history owner item := by
  intro ⟨since, before, split, _⟩
  exact fresh (.claimed owner item) (by rw [split]; simp) rfl

variable [DecidableEq Item]

/-- How often the item was claimed. -/
def claims (history : List (LeaseEvent Owner Item)) (item : Item) : Nat :=
  history.countP fun entry => match entry with
    | .claimed _ claimedItem => claimedItem = item
    | .requeued _ | .finished _ => false

theorem claims_cons_claimed :
    claims (.claimed owner item :: history) wanted =
      claims history wanted + if item = wanted then 1 else 0 := by
  simp only [claims, List.countP_cons, decide_eq_true_eq]

@[simp] theorem claims_cons_requeued :
    claims (.requeued item :: history) wanted = claims history wanted := by
  simp [claims]

@[simp] theorem claims_cons_finished :
    claims (.finished item :: history) wanted = claims history wanted := by
  simp [claims]

theorem claims_of_fresh (fresh : ∀ entry ∈ history, entry.item ≠ item) : claims history item = 0 := by
  unfold claims
  rw [List.countP_eq_zero]
  intro entry member counted
  have different := fresh entry member
  cases entry with
  | claimed owner claimedItem => simp_all [LeaseEvent.item]
  | requeued item => simp at counted
  | finished item => simp at counted

end NebulaCloud.Data
