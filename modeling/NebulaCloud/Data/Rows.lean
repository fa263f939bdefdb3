import Mathlib.Data.List.Nodup
import Mathlib.Algebra.BigOperators.Group.List.Basic
import Mathlib.Tactic.Abel

namespace NebulaCloud.Data

/-! Rows of one table, kept in insertion order.  A statement reads the rows
through a key or a filter and writes them by changing the selected rows in
place; the lemmas say what a write does to a lookup, a sum and a count. -/

universe u v

variable {Row : Type u} {Key : Type v}

/-- `SELECT … WHERE key = wanted LIMIT 1`. -/
def lookup [DecidableEq Key] (key : Row → Key) (rows : List Row) (wanted : Key) : Option Row :=
  rows.find? fun row => key row = wanted

/-- `UPDATE … SET change WHERE selected`. -/
def updateWhere (selected : Row → Bool) (change : Row → Row) (rows : List Row) : List Row :=
  rows.map fun row => if selected row then change row else row

/-- A search whose hits are one row finds exactly that row. -/
theorem find?_eq_some_of_unique {rows : List Row} {row : Row} {wanted : Row → Bool}
    (unique : ∀ left ∈ rows, ∀ right ∈ rows, wanted left = true → wanted right = true → left = right) :
    rows.find? wanted = some row ↔ row ∈ rows ∧ wanted row = true := by
  constructor
  · intro found
    exact ⟨List.mem_of_find?_eq_some found, List.find?_some found⟩
  · rintro ⟨member, hit⟩
    cases found : rows.find? wanted with
    | none => exact absurd hit (List.find?_eq_none.mp found row member)
    | some other =>
        rw [unique other (List.mem_of_find?_eq_some found) row member (List.find?_some found) hit]

section Lookup

variable [DecidableEq Key] {key : Row → Key} {rows : List Row} {row : Row} {wanted : Key}

theorem lookup_mem (found : lookup key rows wanted = some row) : row ∈ rows :=
  List.mem_of_find?_eq_some found

theorem lookup_key (found : lookup key rows wanted = some row) : key row = wanted := by
  simpa using List.find?_some found

theorem lookup_eq_none : lookup key rows wanted = none ↔ ∀ row ∈ rows, key row ≠ wanted := by
  simp [lookup, List.find?_eq_none]

omit [DecidableEq Key] in
/-- Under a primary key the first match is the only match. -/
theorem eq_of_key (distinct : (rows.map key).Nodup) {left right : Row}
    (leftMember : left ∈ rows) (rightMember : right ∈ rows) (same : key left = key right) :
    left = right :=
  List.inj_on_of_nodup_map distinct leftMember rightMember same

omit [DecidableEq Key] in
/-- Under a unique nullable column a value belongs to one row. -/
theorem eq_of_column {column : Row → Option Key} {value : Key} (distinct : (rows.filterMap column).Nodup)
    {left right : Row} (leftMember : left ∈ rows) (rightMember : right ∈ rows)
    (leftValue : column left = some value) (rightValue : column right = some value) : left = right := by
  induction rows with
  | nil => cases leftMember
  | cons head rest ih =>
      have fresh : ∀ row ∈ rest, column row = some value → column head ≠ some value := by
        intro row member known same
        rw [List.filterMap_cons_some same, List.nodup_cons] at distinct
        exact distinct.1 (List.mem_filterMap.mpr ⟨row, member, known⟩)
      have restDistinct : (rest.filterMap column).Nodup :=
        ((List.sublist_cons_self head rest).filterMap column).nodup distinct
      rcases List.mem_cons.mp leftMember with rfl | leftRest
      · rcases List.mem_cons.mp rightMember with rfl | rightRest
        · rfl
        · exact absurd leftValue (fresh right rightRest rightValue)
      · rcases List.mem_cons.mp rightMember with rfl | rightRest
        · exact absurd rightValue (fresh left leftRest leftValue)
        · exact ih restDistinct leftRest rightRest

theorem lookup_of_mem (distinct : (rows.map key).Nodup) (member : row ∈ rows) :
    lookup key rows (key row) = some row := by
  cases found : lookup key rows (key row) with
  | none => exact absurd rfl (lookup_eq_none.mp found row member)
  | some other =>
      rw [eq_of_key distinct (lookup_mem found) member (lookup_key found)]

theorem lookup_eq_some (distinct : (rows.map key).Nodup) :
    lookup key rows wanted = some row ↔ row ∈ rows ∧ key row = wanted := by
  constructor
  · intro found
    exact ⟨lookup_mem found, lookup_key found⟩
  · rintro ⟨member, rfl⟩
    exact lookup_of_mem distinct member

/-- Rows with distinct keys are told by their keys and what each key holds. -/
theorem eq_of_lookups {others : List Row} (distinct : (rows.map key).Nodup)
    (sameKeys : others.map key = rows.map key)
    (sameRows : ∀ wanted, lookup key others wanted = lookup key rows wanted) : others = rows := by
  have told : ∀ table : List Row, (table.map key).Nodup →
      (table.map key).filterMap (lookup key table) = table := by
    intro table tableDistinct
    rw [List.filterMap_map]
    refine (List.filterMap_congr fun row member => ?_).trans List.filterMap_some
    exact lookup_of_mem tableDistinct member
  rw [← told others (sameKeys ▸ distinct), ← told rows distinct, sameKeys]
  exact List.filterMap_congr fun wanted _ => sameRows wanted

theorem lookup_updateWhere {selected : Row → Bool} {change : Row → Row}
    (keeps : ∀ row, selected row = true → key (change row) = key row) :
    lookup key (updateWhere selected change rows) wanted =
      (lookup key rows wanted).map fun row => if selected row then change row else row := by
  induction rows with
  | nil => rfl
  | cons head rest ih =>
      have headKey : key (if selected head then change head else head) = key head := by
        split
        · rename_i chosen
          exact keeps head chosen
        · rfl
      simp only [lookup, updateWhere, List.map_cons, List.find?_cons] at ih ⊢
      rw [headKey]
      split
      · rfl
      · exact ih

/-- An update by key is what a lookup by that key finds. -/
theorem lookup_updateWhere_self {change : Row → Row} (keeps : ∀ row, key (change row) = key row)
    (found : lookup key rows wanted = some row) :
    lookup key (updateWhere (fun other => key other = wanted) change rows) wanted = some (change row) := by
  rw [lookup_updateWhere fun row _ => keeps row, found, Option.map_some, if_pos (decide_eq_true (lookup_key found))]

theorem lookup_append_fresh (fresh : lookup key rows (key row) = none) :
    lookup key (rows ++ [row]) wanted =
      if key row = wanted then some row else lookup key rows wanted := by
  simp only [lookup, List.find?_append, List.find?_cons, List.find?_nil]
  by_cases same : key row = wanted
  · subst same
    rw [lookup] at fresh
    simp [fresh]
  · simp [same]

/-- A column stays unique when the new row brings a new value. -/
theorem nodup_append_fresh {Column : Type v} {column : Row → Column} (distinct : (rows.map column).Nodup)
    (fresh : ∀ stored ∈ rows, column stored ≠ column row) : ((rows ++ [row]).map column).Nodup := by
  rw [List.map_append, List.nodup_append]
  refine ⟨distinct, by simp, ?_⟩
  intro left leftMember right rightMember same
  obtain ⟨stored, member, rfl⟩ := List.mem_map.mp leftMember
  rw [List.map_singleton, List.mem_singleton] at rightMember
  exact fresh stored member (same.trans rightMember)

/-- An update of one keyed row changes that row and no other. -/
theorem mem_updateWhere_key {change : Row → Row} {current : Row} (distinct : (rows.map key).Nodup)
    (member : current ∈ rows) (found : key current = wanted) :
    row ∈ updateWhere (fun other => key other = wanted) change rows ↔
      row = change current ∨ (row ∈ rows ∧ key row ≠ wanted) := by
  subst found
  simp only [updateWhere, List.mem_map, decide_eq_true_eq]
  constructor
  · rintro ⟨before, beforeMember, rfl⟩
    by_cases same : key before = key current
    · exact .inl (by rw [if_pos same, eq_of_key distinct beforeMember member same])
    · exact .inr (by rw [if_neg same]; exact ⟨beforeMember, same⟩)
  · rintro (rfl | ⟨kept, different⟩)
    · exact ⟨current, member, if_pos rfl⟩
    · exact ⟨row, kept, if_neg different⟩

theorem filter_key (distinct : (rows.map key).Nodup) (member : row ∈ rows) :
    (rows.filter fun other => key other = key row) = [row] := by
  induction rows with
  | nil => simp at member
  | cons head rest ih =>
      obtain ⟨headFresh, restDistinct⟩ := List.nodup_cons.mp distinct
      rcases List.mem_cons.mp member with rfl | later
      · have others : (rest.filter fun other => key other = key row) = [] := by
          rw [List.filter_eq_nil_iff]
          intro other otherMember same
          exact headFresh (List.mem_map.mpr ⟨other, otherMember, by simpa using same⟩)
        simp [others]
      · have different : key head ≠ key row := by
          intro same
          exact headFresh (List.mem_map.mpr ⟨row, later, same.symm⟩)
        simp [different, ih restDistinct later]

/-- Under a primary key a filter on the key finds what the lookup finds. -/
theorem filter_eq_lookup (distinct : (rows.map key).Nodup) :
    (rows.filter fun row => key row = wanted) = (lookup key rows wanted).toList := by
  cases found : lookup key rows wanted with
  | none =>
      rw [Option.toList_none, List.filter_eq_nil_iff]
      intro row member
      simpa using lookup_eq_none.mp found row member
  | some row =>
      obtain ⟨member, rfl⟩ := (lookup_eq_some distinct).mp found
      exact filter_key distinct member

end Lookup

section Update

variable {selected : Row → Bool} {change : Row → Row} {rows : List Row} {row : Row}

theorem mem_updateWhere :
    row ∈ updateWhere selected change rows ↔
      ∃ before ∈ rows, (if selected before then change before else before) = row := by
  simp [updateWhere]

theorem mem_updateWhere_of_not (member : row ∈ rows) (kept : selected row = false) :
    row ∈ updateWhere selected change rows :=
  mem_updateWhere.mpr ⟨row, member, by simp [kept]⟩

theorem mem_updateWhere_of (member : row ∈ rows) (chosen : selected row = true) :
    change row ∈ updateWhere selected change rows :=
  mem_updateWhere.mpr ⟨row, member, by simp [chosen]⟩

/-- A column the change leaves alone has the same values after the update. -/
theorem map_updateWhere {column : Row → Key} (keeps : ∀ row, column (change row) = column row) :
    (updateWhere selected change rows).map column = rows.map column := by
  simp only [updateWhere, List.map_map]
  apply List.map_congr_left
  intro row _
  simp only [Function.comp_apply]
  split <;> simp [keeps]

theorem filterMap_updateWhere {column : Row → Option Key}
    (keeps : ∀ row ∈ rows, selected row = true → column (change row) = column row) :
    (updateWhere selected change rows).filterMap column = rows.filterMap column := by
  simp only [updateWhere, List.filterMap_map]
  apply List.filterMap_congr
  intro row member
  simp only [Function.comp_apply]
  split
  · rename_i chosen
    exact keeps row member chosen
  · rfl

/-- A partial unique index survives an update that keeps its column and selects
no new row for it. -/
theorem filter_updateWhere_sublist {covered : Row → Bool} {column : Row → Key}
    (keeps : ∀ row, column (change row) = column row)
    (shrinks : ∀ row ∈ rows, selected row = true → covered (change row) = true → covered row = true) :
    (((updateWhere selected change rows).filter covered).map column).Sublist
      ((rows.filter covered).map column) := by
  induction rows with
  | nil => exact .slnil
  | cons head rest ih =>
      have restShrinks := ih fun row member => shrinks row (List.mem_cons_of_mem head member)
      have headShrinks := shrinks head List.mem_cons_self
      simp only [updateWhere, List.map_cons, List.filter_cons] at restShrinks ⊢
      cases chosen : selected head with
      | false =>
          simp only [Bool.false_eq_true, if_false]
          split
          · exact restShrinks.cons_cons _
          · exact restShrinks
      | true =>
          simp only [if_true]
          split
          · rename_i after
            rw [if_pos (headShrinks chosen after), List.map_cons, List.map_cons, keeps]
            exact restShrinks.cons_cons _
          · split
            · exact restShrinks.cons _
            · exact restShrinks

/-- A nullable column that holds the key or nothing has no more values than the key. -/
theorem filterMap_sublist_map {column : Row → Option Key} {key : Row → Key}
    (own : ∀ row ∈ rows, ∀ value ∈ column row, value = key row) :
    (rows.filterMap column).Sublist (rows.map key) := by
  induction rows with
  | nil => exact .slnil
  | cons head rest ih =>
      have restOwn := ih fun row member => own row (List.mem_cons_of_mem head member)
      cases stored : column head with
      | none =>
          rw [List.filterMap_cons_none stored, List.map_cons]
          exact restOwn.cons _
      | some value =>
          rw [List.filterMap_cons_some stored, List.map_cons,
            own head List.mem_cons_self value stored]
          exact restOwn.cons_cons _

theorem updateWhere_of_none (none : ∀ row ∈ rows, selected row = false) :
    updateWhere selected change rows = rows := by
  unfold updateWhere
  conv_rhs => rw [← List.map_id rows]
  apply List.map_congr_left
  intro row member
  simp [none row member]

/-- Rows that a condition leaves out before and after may change behind it. -/
theorem filter_updateWhere_of_not {covered : Row → Bool}
    (outside : ∀ row ∈ rows, selected row = true →
      covered row = false ∧ covered (change row) = false) :
    (updateWhere selected change rows).filter covered = rows.filter covered := by
  induction rows with
  | nil => rfl
  | cons head rest ih =>
      have restOutside := ih fun row member => outside row (List.mem_cons_of_mem head member)
      have headOutside := outside head List.mem_cons_self
      simp only [updateWhere, List.map_cons, List.filter_cons] at restOutside ⊢
      rw [restOutside]
      cases chosen : selected head with
      | false => simp
      | true => simp [headOutside chosen]

/-- The total of a measure moves by what the change does to each selected row. -/
theorem sum_updateWhere [AddCommGroup Key] (measure : Row → Key) :
    ((updateWhere selected change rows).map measure).sum =
      (rows.map measure).sum +
        ((rows.filter selected).map fun row => measure (change row) - measure row).sum := by
  induction rows with
  | nil => simp [updateWhere]
  | cons head rest ih =>
      simp only [updateWhere, List.map_cons, List.sum_cons, List.filter_cons] at ih ⊢
      rw [ih]
      cases selected head with
      | false => simp [add_assoc]
      | true => simp only [↓reduceIte, List.map_cons, List.sum_cons]; abel

theorem countP_updateWhere_of_iff {counted : Row → Bool}
    (keeps : ∀ row ∈ rows, selected row = true → counted (change row) = counted row) :
    (updateWhere selected change rows).countP counted = rows.countP counted := by
  unfold updateWhere
  rw [List.countP_map]
  apply List.countP_congr
  intro row member
  simp only [Function.comp_apply]
  by_cases chosen : selected row = true
  · simp [chosen, keeps row member chosen]
  · simp [chosen]

theorem countP_updateWhere_le {counted : Row → Bool}
    (shrinks : ∀ row ∈ rows, selected row = true → counted (change row) = true → counted row = true) :
    (updateWhere selected change rows).countP counted ≤ rows.countP counted := by
  unfold updateWhere
  rw [List.countP_map]
  apply List.countP_mono_left
  intro row member
  simp only [Function.comp_apply]
  by_cases chosen : selected row = true
  · simpa [chosen] using shrinks row member chosen
  · simp [chosen]

end Update

end NebulaCloud.Data
