import NebulaCloud.Data.Rows

namespace NebulaCloud.Data

/-! `INSERT … ON CONFLICT(key) DO UPDATE SET … WHERE …`: a row with a fresh key is
appended, a known key changes its row when the new one is accepted. -/

universe u v

variable {Row : Type u} {Key : Type v} [DecidableEq Key]

/-- The rows after the statement, and whether it changed one. -/
def upsert (key : Row → Key) (accepts : Row → Row → Bool) (replace : Row → Row → Row)
    (excluded : Row) (rows : List Row) : List Row × Bool :=
  match lookup key rows (key excluded) with
  | none => (rows ++ [excluded], true)
  | some stored =>
      if accepts excluded stored then
        (updateWhere (fun row => key row = key excluded) (replace excluded) rows, true)
      else (rows, false)

/-- What one key holds after the statement. -/
def upserted (accepts : Row → Row → Bool) (replace : Row → Row → Row) (excluded : Row) :
    Option Row → Row
  | none => excluded
  | some stored => if accepts excluded stored then replace excluded stored else stored

variable {key : Row → Key} {accepts : Row → Row → Bool} {replace : Row → Row → Row}
  {excluded row : Row} {rows : List Row} {wanted : Key}

theorem lookup_upsert
    (keeps : ∀ stored, key stored = key excluded → key (replace excluded stored) = key excluded) :
    lookup key (upsert key accepts replace excluded rows).1 wanted =
      if key excluded = wanted then some (upserted accepts replace excluded (lookup key rows wanted))
      else lookup key rows wanted := by
  unfold upsert
  cases found : lookup key rows (key excluded) with
  | none =>
      rw [lookup_append_fresh found]
      by_cases same : key excluded = wanted
      · subst same
        simp [found, upserted]
      · simp [same]
  | some stored =>
      simp only
      by_cases accepted : accepts excluded stored = true
      · have sameKey : ∀ row, decide (key row = key excluded) = true →
            key (replace excluded row) = key row := by
          intro row chosen
          rw [keeps row (of_decide_eq_true chosen), of_decide_eq_true chosen]
        rw [if_pos accepted, lookup_updateWhere sameKey]
        by_cases same : key excluded = wanted
        · subst same
          simp [found, upserted, accepted, lookup_key found]
        · cases other : lookup key rows wanted with
          | none => simp [same]
          | some row =>
              have different : key row ≠ key excluded :=
                fun clash => same (clash.symm.trans (lookup_key other))
              simp [same, different]
      · rw [if_neg accepted]
        by_cases same : key excluded = wanted
        · subst same
          simp [found, upserted, accepted]
        · simp [same]

/-- The statement tells a change when an accepted update always makes one. -/
theorem upsert_changed (changes : ∀ stored, accepts excluded stored = true → replace excluded stored ≠ stored) :
    (upsert key accepts replace excluded rows).2 = true ↔
      (upsert key accepts replace excluded rows).1 ≠ rows := by
  unfold upsert
  cases found : lookup key rows (key excluded) with
  | none => simp
  | some stored =>
      simp only
      by_cases accepted : accepts excluded stored = true
      · rw [if_pos accepted]
        refine ⟨fun _ same => changes stored accepted ?_, fun _ => rfl⟩
        have fixed := List.map_inj_left.mp (same.trans (List.map_id rows).symm) stored (lookup_mem found)
        rwa [if_pos (by simpa using lookup_key found)] at fixed
      · simp [accepted]

/-- The rows of other keys stay, and the key of the statement has one row. -/
theorem upsert_perm (distinct : (rows.map key).Nodup) :
    (upsert key accepts replace excluded rows).1.Perm
      (upserted accepts replace excluded (lookup key rows (key excluded)) ::
        rows.filter fun row => !decide (key row = key excluded)) := by
  unfold upsert
  cases found : lookup key rows (key excluded) with
  | none =>
      have others : (rows.filter fun row => !decide (key row = key excluded)) = rows := by
        rw [List.filter_eq_self]
        intro row member
        simpa using lookup_eq_none.mp found row member
      rw [others]
      exact List.perm_append_singleton excluded rows
  | some stored =>
      have split : rows.Perm
          (stored :: rows.filter fun row => !decide (key row = key excluded)) := by
        have both := (List.filter_append_perm (fun row => decide (key row = key excluded)) rows).symm
        rw [← lookup_key found] at both ⊢
        rwa [filter_key distinct (lookup_mem found)] at both
      simp only [upserted]
      by_cases accepted : accepts excluded stored = true
      · rw [if_pos accepted, if_pos accepted]
        have changed := split.map fun row =>
          if decide (key row = key excluded) = true then replace excluded row else row
        have others : (rows.filter fun row => !decide (key row = key excluded)).map (fun row =>
            if decide (key row = key excluded) = true then replace excluded row else row) =
            rows.filter fun row => !decide (key row = key excluded) := by
          conv_rhs => rw [← List.map_id (rows.filter _)]
          apply List.map_congr_left
          intro row member
          have different := (List.mem_filter.mp member).2
          simp only [Bool.not_eq_true', decide_eq_false_iff_not] at different
          simp [different]
        rw [List.map_cons, others, if_pos (decide_eq_true (lookup_key found))] at changed
        exact changed
      · rw [if_neg accepted, if_neg accepted]
        exact split

theorem mem_upsert (distinct : (rows.map key).Nodup) :
    row ∈ (upsert key accepts replace excluded rows).1 ↔
      row = upserted accepts replace excluded (lookup key rows (key excluded)) ∨
        (row ∈ rows ∧ key row ≠ key excluded) := by
  rw [(upsert_perm distinct).mem_iff, List.mem_cons, List.mem_filter]
  simp

theorem forall_upsert {Holds : Row → Prop} (rowsHold : ∀ row ∈ rows, Holds row)
    (excludedHolds : Holds excluded) (replaced : ∀ stored ∈ rows, Holds (replace excluded stored)) :
    ∀ row ∈ (upsert key accepts replace excluded rows).1, Holds row := by
  intro row member
  unfold upsert at member
  split at member
  · rcases List.mem_append.mp member with stored | fresh
    · exact rowsHold row stored
    · rw [List.mem_singleton.mp fresh]
      exact excludedHolds
  · split at member
    · obtain ⟨before, stored, changed⟩ := mem_updateWhere.mp member
      rw [← changed]
      split
      · exact replaced before stored
      · exact rowsHold before stored
    · exact rowsHold row member

/-- A unique column stays unique when no row of another key has the new value. -/
theorem nodup_upsert_of_free {Column : Type v} {column : Row → Column} (distinct : (rows.map key).Nodup)
    (unique : (rows.map column).Nodup)
    (free : ∀ row ∈ rows, key row ≠ key excluded →
      column row ≠ column (upserted accepts replace excluded (lookup key rows (key excluded)))) :
    ((upsert key accepts replace excluded rows).1.map column).Nodup := by
  rw [((upsert_perm distinct).map column).nodup_iff, List.map_cons, List.nodup_cons]
  refine ⟨?_, unique.sublist (List.filter_sublist.map column)⟩
  intro clash
  obtain ⟨other, otherMember, sameColumn⟩ := List.mem_map.mp clash
  obtain ⟨otherStored, otherKey⟩ := List.mem_filter.mp otherMember
  exact free other otherStored (by simpa using otherKey) sameColumn

/-- The rows of other keys differ in a unique column from the one stored. -/
theorem column_ne_stored {Column : Type v} {column : Row → Column} (unique : (rows.map column).Nodup)
    {stored : Row} (found : lookup key rows wanted = some stored) (member : row ∈ rows)
    (different : key row ≠ wanted) : column row ≠ column stored := by
  intro same
  have rowIsStored := List.inj_on_of_nodup_map unique member (lookup_mem found) same
  exact different (rowIsStored ▸ lookup_key found)

/-- A column that the update overwrites. -/
theorem nodup_upsert {Column : Type v} {column : Row → Column} (distinct : (rows.map key).Nodup)
    (unique : (rows.map column).Nodup)
    (keeps : ∀ stored, column (replace excluded stored) = column excluded)
    (free : ∀ row ∈ rows, key row ≠ key excluded → column row ≠ column excluded) :
    ((upsert key accepts replace excluded rows).1.map column).Nodup := by
  refine nodup_upsert_of_free distinct unique fun row member different => ?_
  cases found : lookup key rows (key excluded) with
  | none => exact free row member different
  | some stored =>
      rw [upserted]
      split
      · rw [keeps stored]
        exact free row member different
      · exact column_ne_stored unique found member different

/-- A column that the update leaves as it is. -/
theorem nodup_upsert_kept {Column : Type v} {column : Row → Column} (distinct : (rows.map key).Nodup)
    (unique : (rows.map column).Nodup)
    (keeps : ∀ stored, column (replace excluded stored) = column stored)
    (free : lookup key rows (key excluded) = none → ∀ row ∈ rows, column row ≠ column excluded) :
    ((upsert key accepts replace excluded rows).1.map column).Nodup := by
  refine nodup_upsert_of_free distinct unique fun row member different => ?_
  cases found : lookup key rows (key excluded) with
  | none => exact free found row member
  | some stored =>
      rw [upserted]
      split
      · rw [keeps stored]
        exact column_ne_stored unique found member different
      · exact column_ne_stored unique found member different

/-- Rows that a condition leaves out may be upserted behind it. -/
theorem filter_upsert {covered : Row → Bool} (fresh : covered excluded = false)
    (known : ∀ row ∈ rows, key row = key excluded →
      covered row = false ∧ covered (replace excluded row) = false) :
    (upsert key accepts replace excluded rows).1.filter covered = rows.filter covered := by
  unfold upsert
  split
  · simp [fresh]
  · split
    · refine filter_updateWhere_of_not fun row member chosen => ?_
      exact known row member (of_decide_eq_true chosen)
    · rfl

theorem countP_upsert (distinct : (rows.map key).Nodup) (counted : Row → Bool) :
    (upsert key accepts replace excluded rows).1.countP counted =
      (rows.countP fun row => counted row && !decide (key row = key excluded)) +
        if counted (upserted accepts replace excluded (lookup key rows (key excluded))) then 1
        else 0 := by
  rw [(upsert_perm distinct).countP_eq, List.countP_cons, List.countP_filter]

/-- How the statement moves a count: what the key held leaves it, what the key holds
now enters it. -/
theorem countP_upsert_balance (distinct : (rows.map key).Nodup) (counted : Row → Bool) :
    (upsert key accepts replace excluded rows).1.countP counted +
        (if (lookup key rows (key excluded)).any counted then 1 else 0) =
      rows.countP counted +
        if counted (upserted accepts replace excluded (lookup key rows (key excluded))) then 1
        else 0 := by
  have before : rows.countP counted =
      (rows.countP fun row => counted row && !decide (key row = key excluded)) +
        if (lookup key rows (key excluded)).any counted then 1 else 0 := by
    have split := (List.filter_append_perm (fun row => decide (key row = key excluded)) rows).countP_eq
      counted
    rw [List.countP_append] at split
    rw [← split, ← List.countP_filter, Nat.add_comm]
    congr 1
    cases found : lookup key rows (key excluded) with
    | none =>
        have empty : (rows.filter fun row => decide (key row = key excluded)) = [] := by
          rw [List.filter_eq_nil_iff]
          intro row member
          simpa using lookup_eq_none.mp found row member
        simp [empty]
    | some stored =>
        rw [← lookup_key found, filter_key distinct (lookup_mem found)]
        simp [List.countP_cons]
  rw [countP_upsert distinct, before]
  omega

end NebulaCloud.Data
