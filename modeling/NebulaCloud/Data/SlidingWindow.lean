import Mathlib.Data.Int.Order.Basic
import Mathlib.Data.List.Basic

namespace NebulaCloud.Data

/-! A throttle over a sliding window: what is admitted finds fewer entries than the limit
from the start of its window on.  The clock need not be in order. -/

variable {Entry : Type*} (time : Entry → Int) (window : Int) (limit : Nat)

/-- A history, newest first, of which every entry was admitted. -/
def Throttled : List Entry → Prop
  | [] => True
  | entry :: earlier =>
      (earlier.countP fun other => time entry - window ≤ time other) < limit ∧ Throttled earlier

variable {time window limit} {entry : Entry} {history : List Entry}

/-- No closed interval of the window's length has more entries than the limit. -/
theorem Throttled.interval (throttled : Throttled time window limit history) (first : Int) :
    (history.countP fun entry => first ≤ time entry ∧ time entry ≤ first + window) ≤ limit := by
  induction history with
  | nil => simp
  | cons entry earlier ih =>
      obtain ⟨room, earlierThrottled⟩ := throttled
      have rest := ih earlierThrottled
      rw [List.countP_cons]
      split
      · rename_i inside
        simp only [decide_eq_true_eq] at inside
        -- the interval starts no earlier than the window of its newest entry
        have fewer : (earlier.countP fun other => first ≤ time other ∧ time other ≤ first + window) ≤
            earlier.countP fun other => time entry - window ≤ time other := by
          apply List.countP_mono_left
          intro other _ within
          simp only [decide_eq_true_eq] at within ⊢
          omega
        omega
      · omega

end NebulaCloud.Data
