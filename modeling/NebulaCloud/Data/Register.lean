import NebulaCloud.Data.Upsert
import Mathlib.Data.List.MinMax

namespace NebulaCloud.Data

/-! Last-writer-wins registers.  A register keeps the entry with the greatest key
among those written to it, so what it holds in the end depends neither on the order
of the writes nor on repetitions. -/

universe u v w x

variable {Entry : Type u} {Key : Type v} [LinearOrder Key] {key : Entry → Key}

/-- Write an entry: a stored one stays unless the key of the new one is greater. -/
def keepLatest (key : Entry → Key) (entry : Entry) : Option Entry → Entry
  | none => entry
  | some stored => if key stored < key entry then entry else stored

/-- The register holds the entry with the greatest key, or nothing if none was written. -/
def IsLatest (key : Entry → Key) (written : List Entry) : Option Entry → Prop
  | none => written = []
  | some stored => stored ∈ written ∧ ∀ entry ∈ written, key entry ≤ key stored

section Writes

variable {written all : List Entry} {entry : Entry} {stored : Option Entry}

theorem IsLatest.write (latest : IsLatest key written stored) :
    IsLatest key (written ++ [entry]) (some (keepLatest key entry stored)) := by
  cases stored with
  | none =>
      have nothing : written = [] := latest
      subst nothing
      simp [IsLatest, keepLatest]
  | some held =>
      obtain ⟨member, greatest⟩ := latest
      simp only [keepLatest]
      split
      · rename_i newer
        refine ⟨by simp, ?_⟩
        intro other otherMember
        rcases List.mem_append.mp otherMember with earlier | last
        · exact (greatest other earlier).trans newer.le
        · rw [List.mem_singleton.mp last]
      · rename_i older
        refine ⟨List.mem_append_left _ member, ?_⟩
        intro other otherMember
        rcases List.mem_append.mp otherMember with earlier | last
        · exact greatest other earlier
        · rw [List.mem_singleton.mp last]
          exact not_lt.mp older

/-- What the register holds is the greatest entry of any list with the entries that
were written. -/
theorem IsLatest.eq_argmax (latest : IsLatest key written stored)
    (same : ∀ entry, entry ∈ written ↔ entry ∈ all)
    (distinct : ∀ left ∈ all, ∀ right ∈ all, key left = key right → left = right) :
    stored = all.argmax key := by
  cases greatest : all.argmax key with
  | none =>
      have empty : all = [] := List.argmax_eq_none.mp greatest
      cases stored with
      | none => rfl
      | some held =>
          have member := (same held).mp latest.1
          simp [empty] at member
  | some maximum =>
      have member : maximum ∈ all := List.argmax_mem (Option.mem_def.mpr greatest)
      cases stored with
      | none =>
          have nothing : written = [] := latest
          have impossible := (same maximum).mpr member
          simp [nothing] at impossible
      | some held =>
          have heldMember := (same held).mp latest.1
          have above := List.le_of_mem_argmax heldMember (Option.mem_def.mpr greatest)
          have below := latest.2 maximum ((same maximum).mpr member)
          rw [distinct held heldMember maximum member (le_antisymm above below)]

end Writes

/-- An upsert that compares keys is a write to the register that its row stands for. -/
theorem view_upserted {Row : Type w} {View : Type x} {view : Row → View} {viewOf : Entry → View}
    {accepts : Row → Row → Bool} {replace : Row → Row → Row} {excluded : Row} {entry : Entry}
    {row : Option Row} {stored : Option Entry} (agrees : row.map view = stored.map viewOf)
    (current : view excluded = viewOf entry)
    (decides : ∀ row held, view row = viewOf held →
      (accepts excluded row = true ↔ key held < key entry))
    (replaces : ∀ row held, view row = viewOf held → view (replace excluded row) = viewOf entry) :
    view (upserted accepts replace excluded row) = viewOf (keepLatest key entry stored) := by
  cases row with
  | none =>
      cases stored with
      | none => exact current
      | some held => cases agrees
  | some row =>
      cases stored with
      | none => cases agrees
      | some held =>
          have same : view row = viewOf held := Option.some.inj agrees
          simp only [upserted, keepLatest]
          by_cases newer : key held < key entry
          · rw [if_pos newer, if_pos ((decides row held same).mpr newer)]
            exact replaces row held same
          · rw [if_neg newer, if_neg fun accepted => newer ((decides row held same).mp accepted)]
            exact same

end NebulaCloud.Data
