import Mathlib.Algebra.BigOperators.Group.List.Basic
import Mathlib.Algebra.Order.BigOperators.Group.List
import Mathlib.Algebra.Ring.Int.Defs
import Mathlib.Data.Int.Order.Basic

namespace NebulaCloud.Data

/-! Fixed windows over a history of timed entries, newest first.  An entry opens a
window when the last one is over, and otherwise falls into it. -/

universe u

variable {Entry : Type u} (time : Entry → Int) (window : Int)

/-- The windows of the history, newest first, each by the time of its first entry. -/
def windowStarts : List Entry → List Int
  | [] => []
  | entry :: earlier =>
      match windowStarts earlier with
      | [] => [time entry]
      | start :: older =>
          if time entry - start ≥ window then time entry :: start :: older else start :: older

/-- The start of the window that is open at an instant. -/
def openWindow (history : List Entry) (now : Int) : Option Int :=
  (windowStarts time window history).head?.filter fun start => now - start < window

/-- The amounts of the entries of an interval. -/
def amountWithin (amount : Entry → Int) (history : List Entry) (first last : Int) : Int :=
  ((history.filter fun entry => first ≤ time entry ∧ time entry < last).map amount).sum

/-- What the open window has taken so far. -/
def amountUsed (amount : Entry → Int) (history : List Entry) (now : Int) : Int :=
  match openWindow time window history now with
  | none => 0
  | some start => amountWithin time amount history start (start + window)

/-- No window takes more than the limit. -/
def WindowsWithin (amount : Entry → Int) (limit : Int) (history : List Entry) : Prop :=
  ∀ start ∈ windowStarts time window history,
    amountWithin time amount history start (start + window) ≤ limit

def NewestFirst (history : List Entry) : Prop :=
  history.Pairwise fun later earlier => time earlier ≤ time later

variable {time window} {amount : Entry → Int} {history recent earlier : List Entry} {entry : Entry}
  {first last limit now start : Int}

theorem amountWithin_append : amountWithin time amount (recent ++ earlier) first last =
    amountWithin time amount recent first last + amountWithin time amount earlier first last := by
  simp [amountWithin]

theorem amountWithin_cons : amountWithin time amount (entry :: history) first last =
    (if first ≤ time entry ∧ time entry < last then amount entry else 0) +
      amountWithin time amount history first last := by
  by_cases inside : first ≤ time entry ∧ time entry < last <;> simp [amountWithin, inside]

theorem amountWithin_nonneg (nonneg : ∀ entry ∈ history, 0 ≤ amount entry) :
    0 ≤ amountWithin time amount history first last := by
  apply List.sum_nonneg
  intro value member
  obtain ⟨entry, held, rfl⟩ := List.mem_map.mp member
  exact nonneg entry (List.mem_of_mem_filter held)

theorem amountWithin_eq_zero
    (outside : ∀ entry ∈ history, ¬ (first ≤ time entry ∧ time entry < last)) :
    amountWithin time amount history first last = 0 := by
  have none : history.filter (fun entry => first ≤ time entry ∧ time entry < last) = [] := by
    rw [List.filter_eq_nil_iff]
    intro entry member
    simpa using outside entry member
  rw [amountWithin, none]
  rfl

/-- A wider interval counts more. -/
theorem amountWithin_mono {lower upper : Int} (nonneg : ∀ entry ∈ history, 0 ≤ amount entry)
    (wider : ∀ entry ∈ history, first ≤ time entry → time entry < last →
      lower ≤ time entry ∧ time entry < upper) :
    amountWithin time amount history first last ≤ amountWithin time amount history lower upper := by
  induction history with
  | nil => exact le_rfl
  | cons entry rest ih =>
      rw [amountWithin_cons, amountWithin_cons]
      have later := ih (fun entry member => nonneg entry (List.mem_cons_of_mem _ member))
        (fun entry member => wider entry (List.mem_cons_of_mem _ member))
      have own := nonneg entry List.mem_cons_self
      have inside := wider entry List.mem_cons_self
      by_cases counted : first ≤ time entry ∧ time entry < last
      · rw [if_pos counted, if_pos (inside counted.1 counted.2)]
        omega
      · rw [if_neg counted]
        split <;> omega

theorem exists_of_mem_windowStarts (member : start ∈ windowStarts time window history) :
    ∃ entry ∈ history, time entry = start := by
  induction history with
  | nil => cases member
  | cons entry rest ih =>
      have old : start ∈ windowStarts time window rest → ∃ other ∈ entry :: rest, time other = start := by
        intro held
        obtain ⟨other, known, begins⟩ := ih held
        exact ⟨other, List.mem_cons_of_mem _ known, begins⟩
      simp only [windowStarts] at member
      cases known : windowStarts time window rest with
      | nil =>
          rw [known] at member
          exact ⟨entry, List.mem_cons_self, (List.mem_singleton.mp member).symm⟩
      | cons last past =>
          rw [known] at member old
          simp only at member
          split at member
          · rcases List.mem_cons.mp member with rfl | held
            · exact ⟨entry, List.mem_cons_self, rfl⟩
            · exact old held
          · exact old member

theorem windowStarts_eq_nil : windowStarts time window history = [] ↔ history = [] := by
  cases history with
  | nil => simp [windowStarts]
  | cons entry rest =>
      simp only [windowStarts]
      split
      · simp
      · split <;> simp

/-- A window opens once the ones before it are over. -/
theorem windowStarts_apart (positive : 0 < window) (history : List Entry) :
    (windowStarts time window history).Pairwise fun later earlier => earlier + window ≤ later := by
  induction history with
  | nil => exact .nil
  | cons entry rest ih =>
      simp only [windowStarts]
      cases known : windowStarts time window rest with
      | nil => exact List.pairwise_singleton _ _
      | cons last older =>
          rw [known] at ih
          simp only
          split
          · refine List.pairwise_cons.mpr ⟨?_, ih⟩
            intro start member
            rcases List.mem_cons.mp member with rfl | held
            · omega
            · have before := (List.pairwise_cons.mp ih).1 start held
              omega
          · exact ih

/-- The newest window and the history before it. -/
theorem windowStarts_split (ordered : NewestFirst time history) {older : List Int}
    (starts : windowStarts time window history = start :: older) (positive : 0 < window) :
    ∃ recent earlier, history = recent ++ earlier ∧
      windowStarts time window earlier = older ∧
      (∀ entry ∈ recent, start ≤ time entry ∧ time entry < start + window) ∧
      ∀ entry ∈ earlier, time entry < start := by
  induction history generalizing start older with
  | nil => cases starts
  | cons entry rest ih =>
      obtain ⟨newest, ordered⟩ := List.pairwise_cons.mp ordered
      simp only [windowStarts] at starts
      cases known : windowStarts time window rest with
      | nil =>
          rw [known] at starts
          obtain ⟨rfl, rfl⟩ := List.cons.inj starts
          have empty : rest = [] := windowStarts_eq_nil.mp known
          subst empty
          exact ⟨[entry], [], rfl, rfl, by simp; omega, by simp⟩
      | cons last past =>
          rw [known] at starts
          obtain ⟨recent, earlier, rfl, pastStarts, recently, before⟩ := ih ordered known
          simp only at starts
          split at starts
          · rename_i elapsed
            obtain ⟨rfl, rfl⟩ := List.cons.inj starts
            refine ⟨[entry], recent ++ earlier, rfl, known, by simp; omega, ?_⟩
            intro other member
            rcases List.mem_append.mp member with held | held
            · have bounds := recently other held
              omega
            · have bound := before other held
              omega
          · rename_i running
            obtain ⟨rfl, rfl⟩ := List.cons.inj starts
            refine ⟨entry :: recent, earlier, rfl, pastStarts, ?_, before⟩
            intro other member
            rcases List.mem_cons.mp member with rfl | held
            · have lastKnown : last ∈ windowStarts time window (recent ++ earlier) := by simp [known]
              obtain ⟨other, held, opened⟩ := exists_of_mem_windowStarts lastKnown
              have notBefore := newest other held
              omega
            · exact recently other held

/-- Two adjacent windows cover an interval of their length. -/
theorem WindowsWithin.interval (within : WindowsWithin time window amount limit history)
    (ordered : NewestFirst time history) (nonneg : ∀ entry ∈ history, 0 ≤ amount entry)
    (positive : 0 < window) (room : 0 ≤ limit) (first : Int) :
    amountWithin time amount history first (first + window) ≤ 2 * limit := by
  generalize starts : windowStarts time window history = opened
  induction opened generalizing history with
  | nil =>
      rw [windowStarts_eq_nil.mp starts]
      simp [amountWithin]
      omega
  | cons start older ih =>
      obtain ⟨recent, earlier, rfl, olderStarts, recently, before⟩ :=
        windowStarts_split ordered starts positive
      have recentNonneg : ∀ entry ∈ recent, 0 ≤ amount entry :=
        fun entry member => nonneg entry (List.mem_append_left _ member)
      have earlierNonneg : ∀ entry ∈ earlier, 0 ≤ amount entry :=
        fun entry member => nonneg entry (List.mem_append_right _ member)
      -- the recent entries are those of the newest window
      have newest : amountWithin time amount recent first (first + window) ≤ limit := by
        have own := within start (by simp [starts])
        rw [amountWithin_append] at own
        have rest : 0 ≤ amountWithin time amount earlier start (start + window) :=
          amountWithin_nonneg earlierNonneg
        have wider : amountWithin time amount recent first (first + window) ≤
            amountWithin time amount recent start (start + window) :=
          amountWithin_mono recentNonneg fun entry member _ _ => recently entry member
        omega
      have olderWithin : WindowsWithin time window amount limit earlier := by
        intro last member
        have held := within last (by simp [starts, ← olderStarts, member])
        rw [amountWithin_append] at held
        have rest : 0 ≤ amountWithin time amount recent last (last + window) :=
          amountWithin_nonneg recentNonneg
        omega
      rw [amountWithin_append]
      by_cases apart : first + window ≤ start
      · have none : amountWithin time amount recent first (first + window) = 0 :=
          amountWithin_eq_zero fun entry member => by
            have bounds := recently entry member
            omega
        have past := ih olderWithin (List.pairwise_append.mp ordered).2.1 earlierNonneg olderStarts
        omega
      · -- what lies before the newest window lies in the one before it
        have previous : amountWithin time amount earlier first (first + window) ≤ limit := by
          cases older with
          | nil =>
              rw [windowStarts_eq_nil.mp olderStarts]
              exact room
          | cons last past =>
              have gap : last + window ≤ start := by
                have apart : (windowStarts time window (recent ++ earlier)).Pairwise _ :=
                  windowStarts_apart positive _
                rw [starts] at apart
                exact (List.pairwise_cons.mp apart).1 last List.mem_cons_self
              obtain ⟨lastRecent, beforeLast, split, _, inLast, preceding⟩ :=
                windowStarts_split (List.pairwise_append.mp ordered).2.1 olderStarts positive
              refine (amountWithin_mono earlierNonneg ?_).trans
                (olderWithin last (by simp [olderStarts]))
              intro entry member lower _
              rw [split, List.mem_append] at member
              rcases member with held | held
              · exact inLast entry held
              · have bound := preceding entry held
                omega
        omega

/-! ## Counting one more entry -/

theorem openWindow_eq_some : openWindow time window history now = some start ↔
    ∃ older, windowStarts time window history = start :: older ∧ now - start < window := by
  unfold openWindow
  cases windowStarts time window history with
  | nil => simp
  | cons last older =>
      simp only [List.head?_cons, Option.filter_eq_some_iff, Option.some.injEq, decide_eq_true_eq,
        List.cons.injEq]
      constructor
      · rintro ⟨rfl, young⟩
        exact ⟨older, ⟨rfl, rfl⟩, young⟩
      · rintro ⟨_, ⟨rfl, _⟩, young⟩
        exact ⟨rfl, young⟩

theorem openWindow_eq_none : openWindow time window history now = none ↔
    ∀ start older, windowStarts time window history = start :: older → start + window ≤ now := by
  rw [← not_iff_not, ← ne_eq, Option.ne_none_iff_exists']
  simp only [openWindow_eq_some, not_forall, not_le]
  constructor
  · rintro ⟨start, older, starts, young⟩
    exact ⟨start, older, starts, by omega⟩
  · rintro ⟨start, older, starts, young⟩
    exact ⟨start, older, starts, by omega⟩

theorem windowStarts_cons : windowStarts time window (entry :: history) =
    match openWindow time window history (time entry) with
    | none => time entry :: windowStarts time window history
    | some _ => windowStarts time window history := by
  simp only [windowStarts, openWindow]
  cases windowStarts time window history with
  | nil => rfl
  | cons start older =>
      simp only [List.head?_cons]
      by_cases elapsed : time entry - start ≥ window
      · have closed : Option.filter (fun start => decide (time entry - start < window)) (some start) =
            none := by
          simp only [Option.filter_some, decide_eq_true_eq]
          rw [if_neg (by omega)]
        rw [if_pos elapsed, closed]
      · have running : Option.filter (fun start => decide (time entry - start < window)) (some start) =
            some start := by
          simp only [Option.filter_some, decide_eq_true_eq]
          rw [if_pos (by omega)]
        rw [if_neg elapsed, running]

/-- With no window open, every entry is past. -/
theorem before_of_closed (ordered : NewestFirst time history) (positive : 0 < window)
    (closed : openWindow time window history now = none) : ∀ entry ∈ history, time entry < now := by
  intro entry member
  cases starts : windowStarts time window history with
  | nil =>
      rw [windowStarts_eq_nil.mp starts] at member
      cases member
  | cons start older =>
      have elapsed := openWindow_eq_none.mp closed start older starts
      obtain ⟨recent, earlier, rfl, _, recently, before⟩ := windowStarts_split ordered starts positive
      rcases List.mem_append.mp member with held | held
      · have bounds := recently entry held
        omega
      · have bound := before entry held
        omega

/-- The start of the window that an entry falls into. -/
def windowOf (time : Entry → Int) (window : Int) (history : List Entry) (now : Int) : Int :=
  (openWindow time window history now).getD now

theorem amountWithin_windowOf (ordered : NewestFirst time history) (positive : 0 < window) :
    amountWithin time amount history (windowOf time window history now)
      (windowOf time window history now + window) = amountUsed time window amount history now := by
  unfold amountUsed windowOf
  cases opened : openWindow time window history now with
  | some start => rfl
  | none =>
      apply amountWithin_eq_zero
      intro entry member
      have past := before_of_closed ordered positive opened entry member
      simp only [Option.getD_none]
      omega

theorem windowOf_bounds (newest : ∀ entry ∈ history, time entry ≤ now) (positive : 0 < window) :
    windowOf time window history now ≤ now ∧ now < windowOf time window history now + window := by
  unfold windowOf
  cases opened : openWindow time window history now with
  | none => simp only [Option.getD_none]; omega
  | some start =>
      obtain ⟨older, starts, young⟩ := openWindow_eq_some.mp opened
      obtain ⟨entry, member, begins⟩ := exists_of_mem_windowStarts (starts ▸ List.mem_cons_self :
        start ∈ windowStarts time window history)
      have past := newest entry member
      simp only [Option.getD_some]
      omega

theorem amountWithin_windowOf_cons (ordered : NewestFirst time (entry :: history))
    (positive : 0 < window) :
    amountWithin time amount (entry :: history) (windowOf time window history (time entry))
      (windowOf time window history (time entry) + window) =
      amount entry + amountUsed time window amount history (time entry) := by
  obtain ⟨newest, ordered⟩ := List.pairwise_cons.mp ordered
  rw [amountWithin_cons, if_pos (windowOf_bounds newest positive), amountWithin_windowOf ordered positive]

/-- The windows of a longer history: the one of the new entry and those over before it. -/
theorem mem_windowStarts_cons (ordered : NewestFirst time (entry :: history)) (positive : 0 < window)
    (member : start ∈ windowStarts time window (entry :: history)) :
    start = windowOf time window history (time entry) ∨
      start ∈ windowStarts time window history ∧ start + window ≤ time entry := by
  rw [windowStarts_cons] at member
  have apart : (windowStarts time window history).Pairwise _ := windowStarts_apart positive _
  unfold windowOf
  cases opened : openWindow time window history (time entry) with
  | none =>
      rw [opened] at member
      rcases List.mem_cons.mp member with rfl | held
      · exact .inl rfl
      · right
        refine ⟨held, ?_⟩
        cases starts : windowStarts time window history with
        | nil => simp [starts] at held
        | cons last older =>
            have elapsed := openWindow_eq_none.mp opened last older starts
            rw [starts] at apart held
            rcases List.mem_cons.mp held with rfl | held
            · exact elapsed
            · have before := (List.pairwise_cons.mp apart).1 start held
              omega
  | some last =>
      rw [opened] at member
      obtain ⟨older, starts, young⟩ := openWindow_eq_some.mp opened
      simp only [starts] at member
      rcases List.mem_cons.mp member with rfl | held
      · exact .inl rfl
      · right
        refine ⟨by simp [starts, held], ?_⟩
        rw [starts] at apart
        have before := (List.pairwise_cons.mp apart).1 start held
        obtain ⟨other, known, begins⟩ := exists_of_mem_windowStarts (starts ▸ List.mem_cons_self :
          last ∈ windowStarts time window history)
        have past := (List.pairwise_cons.mp ordered).1 other known
        omega

/-- An entry within the room of its window keeps every window within the limit. -/
theorem WindowsWithin.cons (within : WindowsWithin time window amount limit history)
    (ordered : NewestFirst time (entry :: history)) (positive : 0 < window)
    (room : amountUsed time window amount history (time entry) + amount entry ≤ limit) :
    WindowsWithin time window amount limit (entry :: history) := by
  intro start member
  rcases mem_windowStarts_cons ordered positive member with rfl | ⟨old, elapsed⟩
  · rw [amountWithin_windowOf_cons ordered positive]
    omega
  · rw [amountWithin_cons, if_neg (by omega)]
    have held := within start old
    omega

theorem NewestFirst.cons (ordered : NewestFirst time history)
    (newest : ∀ earlier ∈ history, time earlier ≤ time entry) : NewestFirst time (entry :: history) :=
  List.pairwise_cons.mpr ⟨newest, ordered⟩

theorem WindowsWithin.used_le (within : WindowsWithin time window amount limit history)
    (room : 0 ≤ limit) (now : Int) : amountUsed time window amount history now ≤ limit := by
  unfold amountUsed
  cases opened : openWindow time window history now with
  | none => exact room
  | some start =>
      obtain ⟨older, starts, _⟩ := openWindow_eq_some.mp opened
      exact within start (by simp [starts])

theorem amountUsed_le {other : Entry → Int} (less : ∀ entry ∈ history, amount entry ≤ other entry)
    (now : Int) : amountUsed time window amount history now ≤ amountUsed time window other history now := by
  unfold amountUsed
  cases openWindow time window history now with
  | none => exact le_rfl
  | some start =>
      apply List.sum_le_sum
      exact fun entry member => less entry (List.mem_of_mem_filter member)

/-! ## Counters

A counter keeps the start of one window and what that window has taken.  It may be
dropped once the window is over. -/

/-- What the counter tells at an instant. -/
def counterUsed (window : Int) (counter : Option (Int × Int)) (now : Int) : Int :=
  match counter with
  | none => 0
  | some (startedAt, used) => if now - startedAt < window then used else 0

/-- The start of the window that the next entry falls into. -/
def counterStart (window : Int) (counter : Option (Int × Int)) (now : Int) : Int :=
  match counter with
  | none => now
  | some (startedAt, _) => if now - startedAt < window then startedAt else now

variable (time window) in
def Meters (amount : Entry → Int) (counter : Option (Int × Int)) (history : List Entry)
    (clock : Int) : Prop :=
  match counter with
  | none => openWindow time window history clock = none
  | some (startedAt, used) =>
      (∃ older, windowStarts time window history = startedAt :: older) ∧
        used = amountWithin time amount history startedAt (startedAt + window)

variable {counter : Option (Int × Int)} {clock startedAt used : Int}

theorem openWindow_later {later : Int} (closed : openWindow time window history now = none)
    (order : now ≤ later) : openWindow time window history later = none := by
  rw [openWindow_eq_none] at closed ⊢
  intro start older starts
  exact (closed start older starts).trans order

theorem Meters.later {later : Int} (meters : Meters time window amount counter history clock)
    (order : clock ≤ later) : Meters time window amount counter history later := by
  cases counter with
  | none => exact openWindow_later meters order
  | some counter => exact meters

theorem Meters.opened_eq (meters : Meters time window amount (some (startedAt, used)) history clock)
    (now : Int) : openWindow time window history now =
      if now - startedAt < window then some startedAt else none := by
  obtain ⟨⟨older, starts⟩, _⟩ := meters
  split
  · exact openWindow_eq_some.mpr ⟨older, starts, ‹_›⟩
  · rw [openWindow_eq_none, starts]
    rintro start older same
    cases same
    omega

/-- A counter whose window is over is worth nothing. -/
theorem Meters.used_eq (meters : Meters time window amount counter history clock)
    (order : clock ≤ now) :
    amountUsed time window amount history now = counterUsed window counter now := by
  unfold amountUsed counterUsed
  cases counter with
  | none => rw [openWindow_later meters order]
  | some counter =>
      obtain ⟨startedAt, used⟩ := counter
      rw [meters.opened_eq now]
      obtain ⟨_, same⟩ := meters
      by_cases young : now - startedAt < window
      · simp only [if_pos young, same]
      · simp only [if_neg young]

theorem Meters.windowOf_eq (meters : Meters time window amount counter history clock)
    (order : clock ≤ now) :
    windowOf time window history now = counterStart window counter now := by
  unfold windowOf counterStart
  cases counter with
  | none => rw [openWindow_later meters order, Option.getD_none]
  | some counter =>
      rw [meters.opened_eq now]
      by_cases young : now - counter.1 < window
      · simp only [if_pos young, Option.getD_some]
      · simp only [if_neg young, Option.getD_none]

theorem Meters.expire (meters : Meters time window amount (some (startedAt, used)) history clock)
    (elapsed : startedAt + window ≤ now) : Meters time window amount none history now := by
  show openWindow time window history now = none
  rw [meters.opened_eq now, if_neg (by omega)]

/-- The counter after one more entry. -/
theorem meters_cons (ordered : NewestFirst time (entry :: history)) (positive : 0 < window) :
    Meters time window amount (some (windowOf time window history (time entry),
      amountUsed time window amount history (time entry) + amount entry)) (entry :: history)
      (time entry) := by
  refine ⟨?_, ?_⟩
  · rw [windowStarts_cons]
    unfold windowOf
    cases opened : openWindow time window history (time entry) with
    | none => exact ⟨_, rfl⟩
    | some start =>
        obtain ⟨older, starts, _⟩ := openWindow_eq_some.mp opened
        exact ⟨older, starts⟩
  · rw [amountWithin_windowOf_cons ordered positive]
    omega

end NebulaCloud.Data
