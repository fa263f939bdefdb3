import Mathlib.Data.List.Basic

namespace NebulaCloud.Data

/-! # Prefix codes

Letters that are written as words, of which none starts another.  A text can be read back
from what is written for it, one letter after the other. -/

variable {α β γ : Type*}

/-- What is written starts with the word of one letter at most. -/
structure PrefixCode (Letter : α → Prop) (word : α → List β) : Prop where
  nonempty : ∀ letter, Letter letter → word letter ≠ []
  decodes : ∀ letter other, Letter letter → Letter other →
    ∀ rest more, word letter ++ rest = word other ++ more → letter = other

variable {Letter : α → Prop} {word : α → List β} {text other : List α} {rest more : List β}

/-- Of two texts that start alike when written, one starts the other. -/
theorem PrefixCode.comparable (code : PrefixCode Letter word) (letters : ∀ letter ∈ text, Letter letter)
    (others : ∀ letter ∈ other, Letter letter)
    (same : text.flatMap word ++ rest = other.flatMap word ++ more) : text <+: other ∨ other <+: text := by
  induction text generalizing other with
  | nil => exact .inl List.nil_prefix
  | cons first tail ih =>
      cases other with
      | nil => exact .inr List.nil_prefix
      | cons head back =>
          simp only [List.flatMap_cons, List.append_assoc] at same
          obtain rfl : first = head := code.decodes _ _ (letters _ (by simp)) (others _ (by simp)) _ _ same
          have tails := ih (fun letter member => letters letter (by simp [member]))
            (fun letter member => others letter (by simp [member])) (List.append_cancel_left same)
          simpa only [List.prefix_cons_inj] using tails

theorem PrefixCode.injective (code : PrefixCode Letter word) (letters : ∀ letter ∈ text, Letter letter)
    (others : ∀ letter ∈ other, Letter letter) (same : text.flatMap word = other.flatMap word) : text = other := by
  have nothing : ∀ tail : List α, (∀ letter ∈ tail, Letter letter) → tail.flatMap word = [] → tail = [] := by
    intro tail members empty
    cases tail with
    | nil => rfl
    | cons first rest =>
        simp only [List.flatMap_cons, List.append_eq_nil_iff] at empty
        exact absurd empty.1 (code.nonempty first (members first (by simp)))
  have alike : text.flatMap word ++ [] = other.flatMap word ++ [] := by rw [same]
  rcases code.comparable letters others alike with ⟨tail, rfl⟩ | ⟨tail, rfl⟩
  · rw [List.flatMap_append, List.self_eq_append_right] at same
    rw [nothing tail (fun letter member => others letter (by simp [member])) same, List.append_nil]
  · rw [List.flatMap_append, List.append_right_eq_self] at same
    rw [nothing tail (fun letter member => letters letter (by simp [member])) same, List.append_nil]

/-- Words that are written letter by letter in a second code. -/
theorem PrefixCode.comp {Symbol : β → Prop} {outer : β → List γ} (code : PrefixCode Letter word)
    (written : PrefixCode Symbol outer) (symbols : ∀ letter, Letter letter → ∀ symbol ∈ word letter, Symbol symbol) :
    PrefixCode Letter fun letter => (word letter).flatMap outer where
  nonempty := by
    intro letter isLetter empty
    cases spelled : word letter with
    | nil => exact code.nonempty letter isLetter spelled
    | cons first tail =>
        simp only [spelled, List.flatMap_cons, List.append_eq_nil_iff] at empty
        exact written.nonempty first (symbols letter isLetter first (by simp [spelled])) empty.1
  decodes := by
    intro letter other isLetter isOther rest more same
    have alike := written.comparable (symbols letter isLetter) (symbols other isOther) same
    rcases alike with ⟨tail, longer⟩ | ⟨tail, longer⟩
    · exact code.decodes _ _ isLetter isOther tail [] (by rw [longer, List.append_nil])
    · exact (code.decodes _ _ isOther isLetter tail [] (by rw [longer, List.append_nil])).symm

end NebulaCloud.Data
