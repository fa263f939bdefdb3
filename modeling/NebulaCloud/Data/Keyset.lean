import Mathlib.Data.List.Sort
import Mathlib.Data.List.TakeDrop

namespace NebulaCloud.Data

/-! # Keyset pages

Rows are listed with the greatest key first, and a page continues below the key of the
row that ended the page before it.  Rows that share that key are passed over. -/

variable {α κ τ : Type*} [LinearOrder κ] [LinearOrder τ]

def Descending (key : α → κ) (rows : List α) : Prop :=
  rows.Pairwise fun earlier later => key later ≤ key earlier

/-- `ORDER BY key DESC`. -/
def newestFirst (key : α → κ) (rows : List α) : List α :=
  rows.insertionSort fun left right => key right ≤ key left

def below (key : α → τ) (cursor : τ) (rows : List α) : List α := rows.filter fun row => key row < cursor

variable {key : α → κ} {time : α → τ} {cursor earlier : τ} {rows shown rest : List α} {limit fuel : Nat}

theorem newestFirst_perm : (newestFirst key rows).Perm rows := List.perm_insertionSort _ rows

theorem newestFirst_descending : Descending key (newestFirst key rows) := by
  have total : Std.Total fun left right : α => key right ≤ key left :=
    ⟨fun left right => le_total (key right) (key left)⟩
  have trans : IsTrans α fun left right => key right ≤ key left :=
    ⟨fun _ _ _ first second => second.trans first⟩
  exact List.pairwise_insertionSort _ rows

/-- Rows with different keys have one descending order. -/
theorem Descending.unique {left right : List α} (leftOrder : Descending key left)
    (rightOrder : Descending key right) (distinct : (left.map key).Nodup) (same : left.Perm right) :
    left = right := by
  refine List.Perm.eq_of_pairwise ?_ leftOrder rightOrder same
  intro one other member _ above below
  have equal : key one = key other := le_antisymm below above
  exact List.inj_on_of_nodup_map distinct member (same.mem_iff.mpr ‹_›) equal

/-- Selecting rows and ordering them may change places. -/
theorem newestFirst_filter (distinct : (rows.map key).Nodup) (selected : α → Bool) :
    newestFirst key (rows.filter selected) = (newestFirst key rows).filter selected := by
  have sorted : Descending key ((newestFirst key rows).filter selected) :=
    newestFirst_descending.sublist List.filter_sublist
  have same : ((newestFirst key (rows.filter selected))).Perm ((newestFirst key rows).filter selected) :=
    newestFirst_perm.trans (newestFirst_perm.filter selected).symm
  refine newestFirst_descending.unique sorted ?_ same
  exact (newestFirst_perm.map key).nodup_iff.mpr (distinct.sublist (List.filter_sublist.map key))

theorem below_below (order : cursor ≤ earlier) : below time cursor (below time earlier rows) = below time cursor rows := by
  simp only [below, List.filter_filter]
  refine List.filter_congr fun row _ => ?_
  have implied : time row < cursor → time row < earlier := fun less => less.trans_le order
  by_cases less : time row < cursor <;> simp [less, implied]

theorem Descending.last_le {last : α} (sorted : Descending time rows) (ends : rows.getLast? = some last) :
    ∀ row ∈ rows, time last ≤ time row := by
  obtain ⟨front, rfl⟩ := List.getLast?_eq_some_iff.mp ends
  intro row member
  rcases List.mem_append.mp member with inFront | isLast
  · exact (List.pairwise_append.mp sorted).2.2 row inFront last (List.mem_singleton_self last)
  · exact (List.mem_singleton.mp isLast) ▸ le_rfl

/-- Below the key of the last row shown stand the rows that are left, if none of them
shares it. -/
theorem below_last {last : α} (sorted : Descending time (shown ++ rest)) (ends : shown.getLast? = some last)
    (apart : ∀ row ∈ rest, time row ≠ time last) : below time (time last) (shown ++ rest) = rest := by
  obtain ⟨ordered, _, across⟩ := List.pairwise_append.mp sorted
  have dropped : below time (time last) shown = [] := by
    rw [below, List.filter_eq_nil_iff]
    intro row member
    simpa using Descending.last_le ordered ends row member
  have kept : below time (time last) rest = rest := by
    rw [below, List.filter_eq_self]
    intro row member
    have order := across last (List.mem_of_getLast? ends) row member
    simpa using lt_of_le_of_ne order (apart row member)
  rw [below, List.filter_append, ← below, ← below, dropped, kept, List.nil_append]

/-- The rows of all pages, each page below the row that ended the one before. -/
def pagedBelow (time : α → τ) (limit : Nat) : Nat → List α → List α
  | 0, _ => []
  | fuel + 1, rows =>
      match (rows.take limit).getLast? with
      | none => []
      | some last => rows.take limit ++ pagedBelow time limit fuel (below time (time last) rows)

/-- No page ends between two rows with one key. -/
def TiesWithinPages (time : α → τ) (limit : Nat) (rows : List α) : Prop :=
  ∀ index < rows.length, 0 < index → limit ∣ index → rows[index - 1]?.map time ≠ rows[index]?.map time

instance (time : α → τ) (limit : Nat) (rows : List α) : Decidable (TiesWithinPages time limit rows) :=
  inferInstanceAs (Decidable (∀ index < rows.length, _))

theorem getLast?_take_cons {first : α} (positive : 0 < limit) :
    ∃ last, ((first :: rest).take limit).getLast? = some last := by
  obtain ⟨count, rfl⟩ := Nat.exists_eq_add_of_lt positive
  refine ⟨_, List.getLast?_eq_some_getLast ?_⟩
  simp

theorem pagedBelow_nil : pagedBelow time limit fuel [] = [] := by
  cases fuel <;> simp [pagedBelow]

/-- Where the last row of a page is passed over, nothing of the page comes back. -/
theorem below_drop {last : α} (sorted : Descending time rows) (ends : (rows.take limit).getLast? = some last) :
    below time (time last) rows = below time (time last) (rows.drop limit) := by
  have passed : below time (time last) (rows.take limit) = [] := by
    have page : Descending time (rows.take limit ++ []) := by
      rw [List.append_nil]
      exact sorted.sublist (List.take_sublist limit rows)
    have alone := below_last page ends (by simp)
    rwa [List.append_nil] at alone
  conv_lhs => rw [← List.take_append_drop limit rows]
  rw [below, List.filter_append, ← below, ← below, passed, List.nil_append]

theorem below_length_lt {last : α} (sorted : Descending time rows) (ends : (rows.take limit).getLast? = some last) :
    (below time (time last) rows).length < rows.length := by
  have kept : (below time (time last) rows).length ≤ (rows.drop limit).length := by
    rw [below_drop sorted ends]
    exact List.length_filter_le _ _
  have page : 0 < (rows.take limit).length := List.length_pos_of_mem (List.mem_of_getLast? ends)
  rw [List.length_drop] at kept
  rw [List.length_take] at page
  omega

theorem pagedBelow_sublist (sorted : Descending time rows) : (pagedBelow time limit fuel rows).Sublist rows := by
  induction fuel generalizing rows with
  | zero => exact List.nil_sublist rows
  | succ fuel ih =>
      rw [pagedBelow]
      split
      · exact List.nil_sublist rows
      · rename_i last ends
        have later : (below time (time last) rows).Sublist (rows.drop limit) := by
          rw [below_drop sorted ends]
          exact List.filter_sublist
        have rest := (ih (sorted.sublist List.filter_sublist)).trans later
        have whole := (List.Sublist.refl (rows.take limit)).append rest
        rwa [List.take_append_drop] at whole

/-- A page that does not end within a tie leaves the rows behind it. -/
theorem below_page {last next : α} (sorted : Descending time rows) (ends : (rows.take limit).getLast? = some last)
    (follows : rows.drop limit = next :: rest) (apart : time last ≠ time next) :
    below time (time last) rows = next :: rest := by
  have split : rows.take limit ++ next :: rest = rows := by
    rw [← follows, List.take_append_drop]
  rw [← split] at sorted ⊢
  refine below_last sorted ends fun row member equal => ?_
  obtain ⟨_, behind, across⟩ := List.pairwise_append.mp sorted
  have above : time next ≤ time last := across last (List.mem_of_getLast? ends) next List.mem_cons_self
  rcases List.mem_cons.mp member with rfl | later
  · exact apart equal.symm
  · have under : time row ≤ time next := (List.pairwise_cons.mp behind).1 row later
    exact apart (le_antisymm (equal ▸ under) above)

omit [LinearOrder τ] in
theorem tiesWithinPages_cons {last next : α} (positive : 0 < limit) (ends : (rows.take limit).getLast? = some last)
    (follows : rows.drop limit = next :: rest) :
    TiesWithinPages time limit rows ↔ time last ≠ time next ∧ TiesWithinPages time limit (next :: rest) := by
  have longer : limit < rows.length := by
    by_contra short
    rw [List.drop_eq_nil_of_le (by omega)] at follows
    cases follows
  have atLast : rows[limit - 1]? = some last := by
    rw [List.getLast?_eq_getElem?, List.length_take_of_le longer.le, List.getElem?_take_of_lt (by omega)] at ends
    exact ends
  have shifted (index : Nat) : (next :: rest)[index]? = rows[limit + index]? := by
    rw [← follows, List.getElem?_drop]
  have size : (next :: rest).length = rows.length - limit := by
    rw [← follows, List.length_drop]
  have atNext : rows[limit]? = some next := by
    rw [← Nat.add_zero limit, ← shifted]
    rfl
  constructor
  · intro ties
    refine ⟨fun equal => ?_, fun index within later divides => ?_⟩
    · refine ties limit longer positive (Nat.dvd_refl limit) ?_
      rw [atLast, atNext, Option.map_some, Option.map_some, equal]
    · rw [shifted, shifted, ← Nat.add_sub_assoc later]
      exact ties (limit + index) (by omega) (by omega) ((Nat.dvd_add_right (Nat.dvd_refl limit)).mpr divides)
  · rintro ⟨apart, ties⟩ index within later divides
    obtain ⟨pages, rfl⟩ := divides
    rcases Nat.lt_or_ge pages 2 with few | more
    · obtain rfl : pages = 1 := by
        have some : pages ≠ 0 := by
          rintro rfl
          simp at later
        omega
      rw [Nat.mul_one, atLast, atNext]
      simpa using apart
    · obtain ⟨count, rfl⟩ : ∃ count, pages = count + 1 := ⟨pages - 1, by omega⟩
      have counted : limit * (count + 1) = limit + limit * count := by rw [Nat.mul_succ, Nat.add_comm]
      have some : 0 < limit * count := Nat.mul_pos positive (by omega)
      have rest := ties (limit * count) (by omega) some (Nat.dvd_mul_right limit count)
      rw [shifted, shifted, ← Nat.add_sub_assoc some, ← counted] at rest
      exact rest

/-- The pages show every row exactly when no page ends between two rows with one key. -/
theorem pagedBelow_eq_iff (sorted : Descending time rows) (positive : 0 < limit) (enough : rows.length ≤ fuel) :
    pagedBelow time limit fuel rows = rows ↔ TiesWithinPages time limit rows := by
  induction fuel generalizing rows with
  | zero =>
      obtain rfl : rows = [] := List.eq_nil_of_length_eq_zero (by omega)
      simp [pagedBelow, TiesWithinPages]
  | succ fuel ih =>
      cases rows with
      | nil => simp [pagedBelow, TiesWithinPages]
      | cons first others =>
          obtain ⟨last, ends⟩ := @getLast?_take_cons _ others limit first positive
          generalize whole : first :: others = rows at sorted enough ends ⊢
          have split : rows.take limit ++ rows.drop limit = rows := List.take_append_drop limit rows
          rw [pagedBelow, ends]
          simp only
          cases follows : rows.drop limit with
          | nil =>
              have short : rows.length ≤ limit := by simpa using follows
              rw [below_drop sorted ends, follows, below, List.filter_nil, pagedBelow_nil, List.append_nil]
              refine ⟨fun _ index within later divides => ?_, fun _ => List.take_of_length_le short⟩
              have reached := Nat.le_of_dvd later divides
              omega
          | cons next rest =>
              have shorter : (next :: rest).length + limit = rows.length := by
                have size := congrArg List.length follows
                rw [List.length_drop] at size
                have some : 0 < (next :: rest).length := Nat.succ_pos _
                omega
              rw [tiesWithinPages_cons positive ends follows]
              rw [follows] at split
              by_cases tie : time last = time next
              · have fewer : (below time (time last) rows).length < (next :: rest).length := by
                  rw [below_drop sorted ends, follows, below, List.filter_cons_of_neg (by simp [tie])]
                  exact Nat.lt_succ_of_le (List.length_filter_le _ rest)
                have descending : Descending time (below time (time last) rows) := sorted.sublist List.filter_sublist
                have shown := (@pagedBelow_sublist _ _ _ time _ limit fuel descending).length_le
                refine ⟨fun all => ?_, fun ties => absurd tie ties.1⟩
                have lengths := congrArg List.length all
                rw [List.length_append] at lengths
                have page := congrArg List.length split
                rw [List.length_append] at page
                omega
              · have descending : Descending time (next :: rest) := by
                  rw [← follows]
                  exact sorted.sublist (List.drop_sublist limit rows)
                rw [below_page sorted ends follows tie]
                conv_lhs => rhs; rw [← split]
                rw [List.append_cancel_left_eq, ih descending (by omega)]
                exact ⟨fun ties => ⟨tie, ties⟩, fun ties => ties.2⟩

end NebulaCloud.Data
