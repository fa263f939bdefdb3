import Mathlib.Data.List.DropRight

namespace NebulaCloud.Data

/-! # A stream in chunks

How many chunks come before the one with which something has been found, and the tail of
what has come so far. -/

variable {α : Type*} {found seldom : List α → Prop} [DecidablePred found] [DecidablePred seldom]

/-- The chunks in front of the one that completes a find. -/
def chunksBefore (found : List α → Prop) [DecidablePred found] (seen : List α) : List (List α) → Nat
  | [] => 0
  | chunk :: rest => if found (seen ++ chunk) then 0 else chunksBefore found (seen ++ chunk) rest + 1

variable {seen : List α} {chunks : List (List α)}

theorem chunksBefore_le : chunksBefore found seen chunks ≤ chunks.length := by
  induction chunks generalizing seen with
  | nil => exact Nat.le_refl 0
  | cons chunk rest ih =>
      rw [chunksBefore, List.length_cons]
      split
      · exact Nat.zero_le _
      · exact Nat.succ_le_succ ih

/-- What is found only where something else is found comes no earlier. -/
theorem chunksBefore_mono (weaker : ∀ text, seldom text → found text) :
    chunksBefore found seen chunks ≤ chunksBefore seldom seen chunks := by
  induction chunks generalizing seen with
  | nil => exact Nat.le_refl 0
  | cons chunk rest ih =>
      simp only [chunksBefore]
      by_cases here : found (seen ++ chunk)
      · rw [if_pos here]
        exact Nat.zero_le _
      · rw [if_neg here, if_neg fun also => here (weaker _ also)]
        exact Nat.succ_le_succ ih

/-- It comes at the same time if it has been found with that very chunk. -/
theorem chunksBefore_eq_iff (weaker : ∀ text, seldom text → found text) :
    chunksBefore seldom seen chunks = chunksBefore found seen chunks ↔
      ∀ chunk ∈ chunks[chunksBefore found seen chunks]?,
        seldom (seen ++ (chunks.take (chunksBefore found seen chunks)).flatten ++ chunk) := by
  induction chunks generalizing seen with
  | nil => simp [chunksBefore]
  | cons chunk rest ih =>
      by_cases here : found (seen ++ chunk)
      · simp only [chunksBefore, if_pos here]
        by_cases also : seldom (seen ++ chunk)
        · simp [also]
        · simp [also]
      · have neither : ¬ seldom (seen ++ chunk) := fun also => here (weaker _ also)
        simp only [chunksBefore, if_neg here, if_neg neither, Nat.add_right_cancel_iff, ih,
          List.getElem?_cons_succ, List.take_succ_cons, List.flatten_cons, List.append_assoc]

theorem rtake_rtake_append (size : Nat) (before more : List α) :
    (before.rtake size ++ more).rtake size = (before ++ more).rtake size := by
  simp only [List.rtake_eq_reverse_take_reverse, List.reverse_append, List.reverse_reverse, List.take_append,
    List.take_take]
  congr 3
  omega

/-- A word stands in the tail if no more follows it than the tail has room for. -/
theorem infix_rtake_iff (word text : List α) (room : Nat) :
    word <:+: text.rtake (room + word.length) ↔
      ∃ before after, text = before ++ word ++ after ∧ after.length ≤ room := by
  have split := List.take_append_drop (text.length - (room + word.length)) text
  constructor
  · rintro ⟨before, after, tail⟩
    have short := congrArg List.length tail
    rw [List.rtake, List.length_drop, List.length_append, List.length_append] at short
    refine ⟨text.take (text.length - (room + word.length)) ++ before, after, ?_, by omega⟩
    rw [List.append_assoc, List.append_assoc, ← List.append_assoc before, tail]
    exact split.symm
  · rintro ⟨before, after, rfl, short⟩
    refine ⟨before.drop ((before ++ word ++ after).length - (room + word.length)), after, ?_⟩
    have kept : (before ++ word ++ after).length - (room + word.length) ≤ before.length := by
      simp only [List.length_append]
      omega
    simp only [List.append_assoc] at kept ⊢
    rw [List.rtake, List.drop_append_of_le_length kept]

end NebulaCloud.Data
