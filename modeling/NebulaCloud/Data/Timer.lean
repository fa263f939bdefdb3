import Mathlib.Order.Lattice
import Mathlib.Data.List.Perm.Basic
import Mathlib.Data.List.Nodup

namespace NebulaCloud.Data

/-! Deadlines under reordering.  An event either starts a deadline or clears the
running one, a running deadline is never moved, and an event counts only when it is
newer than the last one that counted.  Dropping an old event is harmless for the
cursor but may lose the deadline it should have started. -/

universe u v w

variable {Event : Type u} {Key : Type v} {Deadline : Type w} [LinearOrder Key]

@[ext] structure Timer (Key : Type v) (Deadline : Type w) where
  cursor : Option Key
  deadline : Option Deadline

/-- The deadline after an event that would start `fresh`, or clears when it starts none. -/
def armed (fresh held : Option Deadline) : Option Deadline := fresh.map fun deadline => held.getD deadline

/-- The deadline that the events leave when they arrive in order. -/
def settled (starts : Event → Option Deadline) (held : Option Deadline) (inOrder : List Event) :
    Option Deadline :=
  inOrder.foldl (fun held event => armed (starts event) held) held

namespace Timer

/-- One arrival.  A deadline that is not accepted is refused together with its event. -/
def arrive (key : Event → Key) (starts : Event → Option Deadline) (accepts : Option Deadline → Bool)
    (timer : Timer Key Deadline) (event : Event) : Timer Key Deadline :=
  if (∀ last ∈ timer.cursor, last < key event) ∧
      accepts (armed (starts event) timer.deadline) = true then
    ⟨some (key event), armed (starts event) timer.deadline⟩
  else timer

/-- What the timer should hold after the events. -/
def expected (key : Event → Key) (starts : Event → Option Deadline) (timer : Timer Key Deadline)
    (inOrder : List Event) : Timer Key Deadline :=
  match inOrder.getLast? with
  | none => timer
  | some newest => ⟨some (key newest), settled starts timer.deadline inOrder⟩

/-- In some order the event starts its deadline: nothing was running, or an earlier
event cleared what was. -/
def Opens (key : Event → Key) (starts : Event → Option Deadline) (accepts : Option Deadline → Bool)
    (held : Option Deadline) (inOrder : List Event) (newest event : Event) (deadline : Deadline) : Prop :=
  event ∈ inOrder ∧ starts event = some deadline ∧
    (accepts (some deadline) = true ∨ event = newest) ∧
    (held = none ∨
      (accepts none = true ∧ ∃ clear ∈ inOrder, starts clear = none ∧ key clear < key event))

/-- Whatever the order, only one outcome is possible. -/
def Unambiguous (key : Event → Key) (starts : Event → Option Deadline)
    (accepts : Option Deadline → Bool) (held : Option Deadline) (inOrder : List Event) : Prop :=
  ∀ newest ∈ inOrder.getLast?,
    accepts (settled starts held inOrder) = true ∧
      (starts newest ≠ none → ∀ deadline,
        (held = some deadline ∨ ∃ event, Opens key starts accepts held inOrder newest event deadline) →
        some deadline = settled starts held inOrder)

section Arrivals

variable {key : Event → Key} {starts : Event → Option Deadline} {accepts : Option Deadline → Bool}
  {timer : Timer Key Deadline} {event newest : Event} {events before rest : List Event}

theorem arrive_of_newer (newer : ∀ last ∈ timer.cursor, last < key event)
    (accepted : accepts (armed (starts event) timer.deadline) = true) :
    timer.arrive key starts accepts event =
      ⟨some (key event), armed (starts event) timer.deadline⟩ :=
  if_pos ⟨newer, accepted⟩

theorem foldl_cursor (events : List Event) (timer : Timer Key Deadline) :
    (events.foldl (arrive key starts accepts) timer).cursor = timer.cursor ∨
      ∃ event ∈ events, (events.foldl (arrive key starts accepts) timer).cursor = some (key event) := by
  induction events generalizing timer with
  | nil => exact .inl rfl
  | cons event rest ih =>
      rw [List.foldl_cons]
      rcases ih (timer.arrive key starts accepts event) with kept | ⟨later, member, moved⟩
      · rw [kept]
        unfold arrive
        split
        · exact .inr ⟨event, List.mem_cons_self, rfl⟩
        · exact .inl rfl
      · exact .inr ⟨later, List.mem_cons_of_mem event member, moved⟩

/-- After the newest event nothing counts any more. -/
theorem foldl_of_stale {last : Key} (cursor : timer.cursor = some last)
    (stale : ∀ event ∈ events, ¬ last < key event) :
    events.foldl (arrive key starts accepts) timer = timer := by
  induction events with
  | nil => rfl
  | cons event rest ih =>
      have dropped : timer.arrive key starts accepts event = timer := by
        apply if_neg
        rintro ⟨newer, _⟩
        exact stale event List.mem_cons_self (newer last cursor)
      rw [List.foldl_cons, dropped]
      exact ih fun other later => stale other (List.mem_cons_of_mem event later)

/-- The outcome is decided when the newest event arrives. -/
theorem foldl_newest {outcome : Option Deadline} (ahead : ∀ last ∈ timer.cursor, last < key newest)
    (below : ∀ event ∈ before, key event < key newest)
    (behind : ∀ event ∈ rest, key event < key newest) :
    (before ++ newest :: rest).foldl (arrive key starts accepts) timer =
        ⟨some (key newest), outcome⟩ ↔
      accepts (armed (starts newest) (before.foldl (arrive key starts accepts) timer).deadline) = true ∧
        armed (starts newest) (before.foldl (arrive key starts accepts) timer).deadline = outcome := by
  rw [List.foldl_append, List.foldl_cons]
  generalize arrived : before.foldl (arrive key starts accepts) timer = current
  have newer : ∀ last ∈ current.cursor, last < key newest := by
    intro last held
    rw [← arrived] at held
    have moves : (before.foldl (arrive key starts accepts) timer).cursor = timer.cursor ∨
        ∃ event ∈ before, (before.foldl (arrive key starts accepts) timer).cursor = some (key event) :=
      foldl_cursor before timer
    rcases moves with kept | ⟨event, member, moved⟩
    · exact ahead last (kept ▸ held)
    · have same : key event = last := Option.some.inj (moved.symm.trans held)
      exact same ▸ below event member
  by_cases accepted : accepts (armed (starts newest) current.deadline) = true
  · rw [arrive_of_newer newer accepted, foldl_of_stale rfl fun event member => (behind event member).not_gt]
    simp [accepted]
  · have refused : current.arrive key starts accepts newest = current :=
      if_neg fun both => accepted both.2
    rw [refused]
    constructor
    · intro same
      have cursor := congrArg Timer.cursor same
      have moves : (rest.foldl (arrive key starts accepts) current).cursor = current.cursor ∨
          ∃ event ∈ rest, (rest.foldl (arrive key starts accepts) current).cursor = some (key event) :=
        foldl_cursor rest current
      rcases moves with kept | ⟨event, member, moved⟩
      · exact absurd (newer (key newest) (kept.symm.trans cursor)) (lt_irrefl _)
      · have same : key event = key newest := Option.some.inj (moved.symm.trans cursor)
        exact absurd (behind event member) same.not_lt
    · exact fun both => absurd both.1 accepted

end Arrivals

section Orders

variable {key : Event → Key} {starts : Event → Option Deadline} {accepts : Option Deadline → Bool}
  {timer current : Timer Key Deadline} {event newest : Event} {inOrder earlier before : List Event}

/-- The deadlines that some order can leave before the newest event arrives. -/
def Leaves (key : Event → Key) (starts : Event → Option Deadline) (accepts : Option Deadline → Bool)
    (held : Option Deadline) (inOrder : List Event) (newest : Event) (current : Timer Key Deadline) :
    Prop :=
  current.deadline = held ∨
    (current.deadline = none ∧ accepts none = true ∧
      ∃ clear ∈ inOrder, starts clear = none ∧ ∃ last ∈ current.cursor, key clear ≤ last) ∨
    ∃ event deadline, current.deadline = some deadline ∧
      Opens key starts accepts held inOrder newest event deadline

theorem Leaves.arrive {held : Option Deadline} (member : event ∈ inOrder)
    (leaves : Leaves key starts accepts held inOrder newest current) :
    Leaves key starts accepts held inOrder newest (current.arrive key starts accepts event) := by
  unfold Timer.arrive
  split
  · rename_i counts
    obtain ⟨newer, accepted⟩ := counts
    cases fresh : starts event with
    | none =>
        rw [fresh] at accepted
        exact .inr (.inl ⟨rfl, accepted, event, member, fresh, key event, rfl, le_rfl⟩)
    | some deadline =>
        rw [fresh] at accepted
        cases running : current.deadline with
        | some kept =>
            have same : armed (some deadline) (some kept) = some kept := rfl
            rw [same]
            rcases leaves with unchanged | ⟨cleared, _⟩ | ⟨opener, opened, started, opens⟩
            · exact .inl (running.symm.trans unchanged)
            · exact absurd (cleared.symm.trans running) nofun
            · obtain rfl := Option.some.inj (running.symm.trans started)
              exact .inr (.inr ⟨opener, kept, rfl, opens⟩)
        | none =>
            rw [running] at accepted
            refine .inr (.inr ⟨event, deadline, rfl, member, fresh, .inl accepted, ?_⟩)
            rcases leaves with unchanged | ⟨_, clears, clear, clearMember, stops, last, cursor, reached⟩ |
              ⟨_, _, started, _⟩
            · exact .inl (unchanged.symm.trans running)
            · exact .inr ⟨clears, clear, clearMember, stops, reached.trans_lt (newer last cursor)⟩
            · exact absurd (running.symm.trans started) nofun
  · exact leaves

theorem leaves_foldl (within : ∀ event ∈ before, event ∈ inOrder) :
    Leaves key starts accepts timer.deadline inOrder newest
      (before.foldl (arrive key starts accepts) timer) :=
  List.foldlRecOn before _ (.inl rfl) fun _ leaves event member => leaves.arrive (within event member)

/-- Any distinct earlier events can arrive first, followed by the newest. -/
theorem exists_order (distinct : (earlier ++ [newest]).Nodup) (once : before.Nodup)
    (within : ∀ event ∈ before, event ∈ earlier) :
    ∃ rest, (before ++ newest :: rest).Perm (earlier ++ [newest]) ∧ ∀ event ∈ rest, event ∈ earlier := by
  classical
  have earlierDistinct := (List.nodup_append.mp distinct).1
  have chosen : (earlier.filter (· ∈ before)).Perm before := by
    rw [List.perm_ext_iff_of_nodup (earlierDistinct.filter _) once]
    intro event
    rw [List.mem_filter, decide_eq_true_eq]
    exact ⟨fun both => both.2, fun member => ⟨within event member, member⟩⟩
  refine ⟨earlier.filter fun event => !decide (event ∈ before), ?_, ?_⟩
  · have split := List.filter_append_perm (· ∈ before) earlier
    have first : (before ++ newest :: earlier.filter fun event => !decide (event ∈ before)).Perm
        (newest :: (before ++ earlier.filter fun event => !decide (event ∈ before))) :=
      List.perm_middle
    have rest : (before ++ earlier.filter fun event => !decide (event ∈ before)).Perm earlier :=
      (chosen.symm.append_right _).trans split
    exact first.trans ((rest.cons newest).trans (List.perm_append_singleton newest earlier).symm)
  · intro event member
    exact (List.mem_filter.mp member).1

theorem arrive_clear (clears : starts event = none) (accepted : accepts none = true)
    (newer : ∀ last ∈ current.cursor, last < key event) :
    current.arrive key starts accepts event = ⟨some (key event), none⟩ := by
  have cleared : armed (starts event) current.deadline = none := by rw [clears]; rfl
  rw [← cleared] at accepted
  rw [arrive_of_newer newer accepted, cleared]

theorem arrive_start {deadline : Deadline} (started : starts event = some deadline)
    (idle : current.deadline = none) (accepted : accepts (some deadline) = true)
    (newer : ∀ last ∈ current.cursor, last < key event) :
    current.arrive key starts accepts event = ⟨some (key event), some deadline⟩ := by
  have armedAt : armed (starts event) current.deadline = some deadline := by rw [started, idle]; rfl
  rw [← armedAt] at accepted
  rw [arrive_of_newer newer accepted, armedAt]

/-- If every order leaves the same deadline, then each deadline that some order
leaves is that one. -/
theorem unambiguous_of_orders {outcome : Option Deadline}
    (sorted : (earlier ++ [newest]).Pairwise fun left right => key left < key right)
    (ahead : ∀ event ∈ earlier ++ [newest], ∀ last ∈ timer.cursor, last < key event)
    (every : ∀ order : List Event, order.Perm (earlier ++ [newest]) →
      order.foldl (arrive key starts accepts) timer = ⟨some (key newest), outcome⟩) :
    accepts outcome = true ∧
      (starts newest ≠ none → ∀ deadline,
        (timer.deadline = some deadline ∨ ∃ event,
          Opens key starts accepts timer.deadline (earlier ++ [newest]) newest event deadline) →
        some deadline = outcome) := by
  have distinct : (earlier ++ [newest]).Nodup := sorted.imp fun less same => less.ne (congrArg key same)
  have below : ∀ event ∈ earlier, key event < key newest := fun event member =>
    (List.pairwise_append.mp sorted).2.2 event member newest (List.mem_singleton_self newest)
  -- what the newest event does after any choice of earlier events
  have after (before : List Event) (once : before.Nodup) (within : ∀ event ∈ before, event ∈ earlier) :
      accepts (armed (starts newest) (before.foldl (arrive key starts accepts) timer).deadline) = true ∧
        armed (starts newest) (before.foldl (arrive key starts accepts) timer).deadline = outcome := by
    obtain ⟨rest, order, behind⟩ := exists_order distinct once within
    exact (foldl_newest (ahead newest (by simp)) (fun event member => below event (within event member))
      fun event member => below event (behind event member)).mp (every _ order)
  have earlierOf (event : Event) (member : event ∈ earlier ++ [newest]) (other : event ≠ newest) :
      event ∈ earlier := by
    rcases List.mem_append.mp member with inside | last
    · exact inside
    · exact absurd (List.mem_singleton.mp last) other
  have first := after [] List.nodup_nil (by simp)
  refine ⟨first.2 ▸ first.1, ?_⟩
  intro starting deadline possible
  obtain ⟨fresh, starts'⟩ := Option.ne_none_iff_exists'.mp starting
  rw [starts'] at first after
  rcases possible with running | ⟨event, member, started, admitted, opening⟩
  · rw [List.foldl_nil, running] at first
    exact first.2
  · have clearedFirst (clear : Event) (clearMember : clear ∈ earlier ++ [newest])
        (stops : starts clear = none) (accepted : accepts none = true) :
        clear ∈ earlier ∧
          timer.arrive key starts accepts clear = ⟨some (key clear), none⟩ := by
      refine ⟨earlierOf clear clearMember ?_, arrive_clear stops accepted (ahead clear clearMember)⟩
      rintro rfl
      exact starting stops
    by_cases isNewest : event = newest
    · subst isNewest
      obtain rfl := Option.some.inj (starts'.symm.trans started)
      rcases opening with idle | ⟨clears, clear, clearMember, stops, _⟩
      · rw [List.foldl_nil, idle] at first
        exact first.2
      · obtain ⟨inside, cleared⟩ := clearedFirst clear clearMember stops clears
        have outcomes := after [clear] (List.nodup_singleton clear) (by simpa using inside)
        rw [List.foldl_cons, List.foldl_nil, cleared] at outcomes
        exact outcomes.2
    · have inside := earlierOf event member isNewest
      have accepted := admitted.resolve_right isNewest
      rcases opening with idle | ⟨clears, clear, clearMember, stops, order⟩
      · have outcomes := after [event] (List.nodup_singleton event) (by simpa using inside)
        rw [List.foldl_cons, List.foldl_nil,
          arrive_start started idle accepted (ahead event member)] at outcomes
        exact outcomes.2
      · obtain ⟨clearInside, cleared⟩ := clearedFirst clear clearMember stops clears
        have different : clear ≠ event := fun same => order.ne (congrArg key same)
        have outcomes := after [clear, event] (by simpa using different)
          (by simpa using ⟨clearInside, inside⟩)
        have newer : ∀ last ∈ some (key clear), last < key event := by simpa using order
        rw [List.foldl_cons, cleared, List.foldl_cons, List.foldl_nil,
          arrive_start started rfl accepted newer] at outcomes
        exact outcomes.2

/-- If only one deadline is possible, every order leaves it. -/
theorem foldl_of_unambiguous {outcome : Option Deadline} {order : List Event}
    (sorted : (earlier ++ [newest]).Pairwise fun left right => key left < key right)
    (ahead : ∀ last ∈ timer.cursor, last < key newest)
    (clears : starts newest = none → outcome = none) (accepted : accepts outcome = true)
    (only : starts newest ≠ none → ∀ deadline,
      (timer.deadline = some deadline ∨ ∃ event,
        Opens key starts accepts timer.deadline (earlier ++ [newest]) newest event deadline) →
      some deadline = outcome)
    (same : order.Perm (earlier ++ [newest])) :
    order.foldl (arrive key starts accepts) timer = ⟨some (key newest), outcome⟩ := by
  have below : ∀ event ∈ earlier, key event < key newest := fun event member =>
    (List.pairwise_append.mp sorted).2.2 event member newest (List.mem_singleton_self newest)
  obtain ⟨before, rest, rfl⟩ := List.append_of_mem (same.mem_iff.mpr (by simp) : newest ∈ order)
  have parts : (before ++ rest).Perm earlier :=
    (List.perm_middle.symm.trans (same.trans (List.perm_append_singleton newest earlier))).cons_inv
  have beforeEarlier : ∀ event ∈ before, event ∈ earlier := fun event member =>
    parts.mem_iff.mp (List.mem_append_left rest member)
  have restEarlier : ∀ event ∈ rest, event ∈ earlier := fun event member =>
    parts.mem_iff.mp (List.mem_append_right before member)
  have leaves : Leaves key starts accepts timer.deadline (earlier ++ [newest]) newest
      (before.foldl (arrive key starts accepts) timer) :=
    leaves_foldl fun event member => List.mem_append_left _ (beforeEarlier event member)
  rw [foldl_newest ahead (fun event member => below event (beforeEarlier event member))
    fun event member => below event (restEarlier event member)]
  suffices armedAt : armed (starts newest)
      (before.foldl (arrive key starts accepts) timer).deadline = outcome by
    rw [armedAt]
    exact ⟨accepted, rfl⟩
  cases fresh : starts newest with
  | none => exact (clears fresh).symm
  | some deadline =>
      have starting : starts newest ≠ none := by simp [fresh]
      have opensNewest (opening : timer.deadline = none ∨ (accepts none = true ∧
          ∃ clear ∈ earlier ++ [newest], starts clear = none ∧ key clear < key newest)) :
          some deadline = outcome :=
        only starting deadline (.inr ⟨newest, by simp, fresh, .inr rfl, opening⟩)
      rcases leaves with unchanged | ⟨cleared, acceptsNone, clear, member, stops, _⟩ |
        ⟨event, running, started, opens⟩
      · rw [unchanged]
        cases held : timer.deadline with
        | none => exact opensNewest (.inl held)
        | some running => exact only starting running (.inl held)
      · rw [cleared]
        have earlierClear : key clear < key newest := by
          rcases List.mem_append.mp member with inside | last
          · exact below clear inside
          · rw [List.mem_singleton.mp last, fresh] at stops
            cases stops
        exact opensNewest (.inr ⟨acceptsNone, clear, member, stops, earlierClear⟩)
      · rw [started]
        exact only starting running (.inr ⟨event, opens⟩)

/-- Every order of the events leaves the timer that their order by key leaves,
exactly when only one outcome is possible. -/
theorem foldl_perm_iff (sorted : inOrder.Pairwise fun left right => key left < key right)
    (ahead : ∀ event ∈ inOrder, ∀ last ∈ timer.cursor, last < key event) :
    (∀ order : List Event, order.Perm inOrder →
        order.foldl (arrive key starts accepts) timer = timer.expected key starts inOrder) ↔
      Unambiguous key starts accepts timer.deadline inOrder := by
  rcases List.eq_nil_or_concat inOrder with rfl | ⟨earlier, newest, rfl⟩
  · constructor
    · intro _ newest member
      cases member
    · intro _ order same
      rw [List.Perm.eq_nil same]
      rfl
  · rw [List.concat_eq_append] at sorted ahead ⊢
    have expected : timer.expected key starts (earlier ++ [newest]) =
        ⟨some (key newest), settled starts timer.deadline (earlier ++ [newest])⟩ := by
      simp [Timer.expected]
    have clears : starts newest = none → settled starts timer.deadline (earlier ++ [newest]) = none := by
      intro stops
      simp [settled, stops, armed]
    rw [expected, Unambiguous]
    simp only [List.getLast?_concat, Option.mem_some_iff, forall_eq']
    constructor
    · exact unambiguous_of_orders sorted ahead
    · rintro ⟨accepted, only⟩ order same
      exact foldl_of_unambiguous sorted (ahead newest (by simp)) clears accepted only same

end Orders

end Timer

end NebulaCloud.Data
