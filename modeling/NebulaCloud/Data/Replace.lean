import Mathlib.Data.List.Basic
import Mathlib.Data.List.TakeDrop

namespace NebulaCloud.Data

/-! # Replacing what a pattern matches

A text is searched from its left end.  What the pattern matches is replaced, and the
search goes on behind the match. -/

variable {α : Type*}

/-- For the element before a text: what a match at its head is replaced by, and the text
behind the match. -/
abbrev Pattern (α : Type*) := Option α → List α → Option (List α × List α)

/-- A match takes some of the text. -/
def Pattern.Advances (pattern : Pattern α) : Prop :=
  ∀ previous text replacement rest, pattern previous text = some (replacement, rest) → rest.length < text.length

/-- The last element that has been matched. -/
def lastTaken (text rest : List α) : Option α := (text.take (text.length - rest.length)).getLast?

def replaceFrom (pattern : Pattern α) : Nat → Option α → List α → List α
  | 0, _, text => text
  | _ + 1, _, [] => []
  | fuel + 1, previous, c :: text =>
      match pattern previous (c :: text) with
      | some (replacement, rest) => replacement ++ replaceFrom pattern fuel (lastTaken (c :: text) rest) rest
      | none => c :: replaceFrom pattern fuel (some c) text

/-- Every step of the search takes some of the text, so that its length is fuel enough. -/
def replaceAll (pattern : Pattern α) (previous : Option α) (text : List α) : List α :=
  replaceFrom pattern text.length previous text

section Search

variable {pattern : Pattern α} {previous : Option α} {text rest replacement : List α} {c : α} {fuel : Nat}

theorem replaceFrom_enough (advances : pattern.Advances) (enough : text.length ≤ fuel) :
    replaceFrom pattern fuel previous text = replaceAll pattern previous text := by
  unfold replaceAll
  suffices same : ∀ more, text.length ≤ more →
      replaceFrom pattern fuel previous text = replaceFrom pattern more previous text from same _ (Nat.le_refl _)
  induction fuel generalizing previous text with
  | zero =>
      intro more _
      obtain rfl : text = [] := List.eq_nil_of_length_eq_zero (Nat.le_zero.mp enough)
      cases more <;> rfl
  | succ fuel ih =>
      intro more plenty
      cases text with
      | nil => cases more <;> rfl
      | cons c text =>
          obtain ⟨more, rfl⟩ : ∃ count, more = count + 1 := ⟨more - 1, by simp at plenty; omega⟩
          rw [replaceFrom, replaceFrom]
          cases matched : pattern previous (c :: text) with
          | none => exact congrArg (c :: ·) (ih (Nat.succ_le_succ_iff.mp enough) more (Nat.succ_le_succ_iff.mp plenty))
          | some result =>
              have shorter := advances _ _ _ _ matched
              rw [List.length_cons] at shorter enough plenty
              exact congrArg (result.1 ++ ·) (ih (by omega) more (by omega))

@[simp] theorem replaceAll_nil : replaceAll pattern previous [] = [] := rfl

theorem replaceAll_none (none : pattern previous (c :: text) = none) :
    replaceAll pattern previous (c :: text) = c :: replaceAll pattern (some c) text := by
  rw [replaceAll, List.length_cons, replaceFrom, none]
  rfl

theorem replaceAll_some (advances : pattern.Advances) (matched : pattern previous text = some (replacement, rest)) :
    replaceAll pattern previous text = replacement ++ replaceAll pattern (lastTaken text rest) rest := by
  have shorter := advances _ _ _ _ matched
  cases text with
  | nil => cases shorter
  | cons c text =>
      rw [replaceAll, List.length_cons, replaceFrom, matched]
      exact congrArg (replacement ++ ·) (replaceFrom_enough advances (Nat.lt_succ_iff.mp shorter))

theorem getLast?_cons_or {front : List α} : (c :: front).getLast?.or previous = front.getLast?.or (some c) := by
  rw [List.getLast?_cons]
  cases front.getLast? <;> rfl

/-- Where nothing matches, the text stays. -/
theorem replaceAll_skip {skipped : List α}
    (unmatched : ∀ front c back, skipped = front ++ c :: back →
      pattern (front.getLast?.or previous) (c :: (back ++ rest)) = none) :
    replaceAll pattern previous (skipped ++ rest) =
      skipped ++ replaceAll pattern (skipped.getLast?.or previous) rest := by
  induction skipped generalizing previous with
  | nil => rfl
  | cons c skipped ih =>
      have first : pattern previous (c :: (skipped ++ rest)) = none := unmatched [] c skipped rfl
      have later : replaceAll pattern (some c) (skipped ++ rest) =
          skipped ++ replaceAll pattern (skipped.getLast?.or (some c)) rest :=
        ih fun front d back split => getLast?_cons_or ▸ unmatched (c :: front) d back (split ▸ rfl)
      rw [List.cons_append, replaceAll_none first, later, getLast?_cons_or, List.cons_append]

theorem replaceAll_unmatched
    (unmatched : ∀ front c back, text = front ++ c :: back → pattern (front.getLast?.or previous) (c :: back) = none) :
    replaceAll pattern previous text = text := by
  have skipped := @replaceAll_skip _ pattern previous [] text fun front c back split => by
    rw [List.append_nil]
    exact unmatched front c back split
  rwa [List.append_nil, replaceAll_nil, List.append_nil] at skipped

/-- No match reaches an element: what happens in front of it does not depend on what
stands behind it. -/
structure Pattern.StopsAt (pattern : Pattern α) (barrier : α) : Prop where
  at_barrier : ∀ previous rest, pattern previous (barrier :: rest) = none
  before : ∀ previous text, text ≠ [] →
    (∀ rest, pattern previous (text ++ barrier :: rest) = none) ∨
      ∃ replacement left, left.length < text.length ∧
        ∀ rest, pattern previous (text ++ barrier :: rest) = some (replacement, left ++ barrier :: rest)

theorem replaceAll_barrier (advances : pattern.Advances) {barrier : α} (stops : pattern.StopsAt barrier)
    (previous : Option α) (text : List α) :
    ∃ out, ∀ rest, replaceAll pattern previous (text ++ barrier :: rest) =
      out ++ barrier :: replaceAll pattern (some barrier) rest := by
  induction size : text.length using Nat.strongRecOn generalizing previous text with
  | ind size ih =>
      subst size
      cases text with
      | nil => exact ⟨[], fun rest => replaceAll_none (stops.at_barrier previous rest)⟩
      | cons c text =>
          rcases stops.before previous (c :: text) (List.cons_ne_nil c text) with
            unmatched | ⟨replacement, left, shorter, matched⟩
          · obtain ⟨out, later⟩ := ih text.length (Nat.lt_succ_self _) (some c) text rfl
            refine ⟨c :: out, fun rest => ?_⟩
            exact (replaceAll_none (unmatched rest)).trans (congrArg (c :: ·) (later rest))
          · -- the element before what is left is the same for every continuation
            have taken (rest : List α) : lastTaken (c :: text ++ barrier :: rest) (left ++ barrier :: rest) =
                ((c :: text).take ((c :: text).length - left.length)).getLast? := by
              rw [lastTaken, List.length_append, List.length_append, Nat.add_sub_add_right,
                List.take_append_of_le_length (Nat.sub_le _ _)]
            obtain ⟨out, later⟩ := ih left.length shorter
              (((c :: text).take ((c :: text).length - left.length)).getLast?) left rfl
            refine ⟨replacement ++ out, fun rest => ?_⟩
            rw [replaceAll_some advances (matched rest), taken, later, List.append_assoc]

end Search

end NebulaCloud.Data
