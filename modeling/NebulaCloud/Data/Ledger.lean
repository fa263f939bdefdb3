import NebulaCloud.Data.Rows

namespace NebulaCloud.Data

/-! Amounts that entries charge to accounts.  An account keeps a running balance
of its charges; the lemmas say how a change of the entries moves the total. -/

universe u v

variable {Entry : Type u} {Account : Type v} [DecidableEq Account]

/-- The amount an entry charges to an account. -/
def charge (account : Entry → Option Account) (amount : Entry → Int) (wanted : Account)
    (entry : Entry) : Int :=
  if account entry = some wanted then amount entry else 0

/-- The total that the entries charge to an account. -/
def charged (account : Entry → Option Account) (amount : Entry → Int) (entries : List Entry)
    (wanted : Account) : Int :=
  (entries.map (charge account amount wanted)).sum

section Charged

variable {account : Entry → Option Account} {amount : Entry → Int} {entries later : List Entry}
  {entry : Entry} {wanted : Account}

theorem charge_nonneg (account : Entry → Option Account) (wanted : Account)
    (nonnegative : 0 ≤ amount entry) : 0 ≤ charge account amount wanted entry := by
  unfold charge
  split
  · exact nonnegative
  · omega

@[simp] theorem charged_nil : charged account amount [] wanted = 0 := rfl

@[simp] theorem charged_cons : charged account amount (entry :: entries) wanted =
    charge account amount wanted entry + charged account amount entries wanted :=
  List.sum_cons

@[simp] theorem charged_append : charged account amount (entries ++ later) wanted =
    charged account amount entries wanted + charged account amount later wanted := by
  simp only [charged, List.map_append, List.sum_append]

theorem charged_nonneg (nonnegative : ∀ entry ∈ entries, 0 ≤ amount entry) :
    0 ≤ charged account amount entries wanted := by
  induction entries with
  | nil => exact Int.le_refl 0
  | cons head rest ih =>
      have headCharge := charge_nonneg account wanted (nonnegative head List.mem_cons_self)
      have restCharge := ih fun entry member => nonnegative entry (List.mem_cons_of_mem head member)
      rw [charged_cons]
      omega

/-- Entries that charge nothing to an account leave its total at zero. -/
theorem charged_eq_zero (uncharged : ∀ entry ∈ entries, account entry ≠ some wanted) :
    charged account amount entries wanted = 0 := by
  induction entries with
  | nil => rfl
  | cons head rest ih =>
      have restZero := ih fun entry member => uncharged entry (List.mem_cons_of_mem head member)
      rw [charged_cons, restZero, charge, if_neg (uncharged head List.mem_cons_self)]
      rfl

/-- The removed and the kept entries share the total between them. -/
theorem charged_filter_add (removed : Entry → Bool) :
    charged account amount (entries.filter removed) wanted +
      charged account amount (entries.filter fun entry => !removed entry) wanted =
      charged account amount entries wanted := by
  induction entries with
  | nil => rfl
  | cons head rest ih =>
      cases chosen : removed head with
      | true =>
          rw [List.filter_cons_of_pos chosen, List.filter_cons_of_neg (by simp [chosen]),
            charged_cons, charged_cons]
          omega
      | false =>
          rw [List.filter_cons_of_neg (by simp [chosen]), List.filter_cons_of_pos (by simp [chosen]),
            charged_cons, charged_cons]
          omega

theorem charged_eq_sum_filter : charged account amount entries wanted =
    ((entries.filter fun entry => account entry = some wanted).map amount).sum := by
  induction entries with
  | nil => rfl
  | cons head rest ih =>
      rw [charged_cons, ih, charge, List.filter_cons]
      by_cases chosen : account head = some wanted
      · simp [chosen]
      · simp [chosen]

/-- Some of the entries, in any order, charge no more than all of them. -/
theorem charged_le_of_subperm {part : List Entry} (some : part.Subperm entries)
    (nonnegative : ∀ entry ∈ entries, 0 ≤ amount entry) :
    charged account amount part wanted ≤ charged account amount entries wanted := by
  obtain ⟨ordered, permuted, sublist⟩ := some
  obtain ⟨others, whole⟩ := sublist.exists_perm_append
  have partTotal : charged account amount part wanted = charged account amount ordered wanted :=
    ((permuted.map _).sum_eq).symm
  have wholeTotal : charged account amount entries wanted =
      charged account amount (ordered ++ others) wanted := (whole.map _).sum_eq
  have othersTotal : 0 ≤ charged account amount others wanted := by
    apply charged_nonneg
    intro entry member
    exact nonnegative entry (whole.mem_iff.mpr (List.mem_append_right _ member))
  rw [partTotal, wholeTotal, charged_append]
  omega

theorem charged_updateWhere {selected : Entry → Bool} {change : Entry → Entry}
    (sameAccount : ∀ entry ∈ entries, selected entry = true → account (change entry) = account entry)
    (sameAmount : ∀ entry ∈ entries, selected entry = true → amount (change entry) = amount entry) :
    charged account amount (updateWhere selected change entries) wanted =
      charged account amount entries wanted := by
  unfold charged updateWhere
  rw [List.map_map]
  congr 1
  apply List.map_congr_left
  intro entry member
  simp only [Function.comp_apply]
  split
  · rename_i chosen
    simp only [charge, sameAccount entry member chosen, sameAmount entry member chosen]
  · rfl

/-- Charging one uncharged entry to an account moves the total of that account. -/
theorem charged_assign {Key : Type*} [DecidableEq Key] {key : Entry → Key}
    {change : Entry → Entry} {target : Account} (distinct : (entries.map key).Nodup)
    (member : entry ∈ entries) (uncharged : account entry = none)
    (assigned : account (change entry) = some target) :
    charged account amount (updateWhere (fun other => key other = key entry) change entries) wanted =
      charged account amount entries wanted +
        if target = wanted then amount (change entry) else 0 := by
  unfold charged
  rw [sum_updateWhere, filter_key distinct member]
  simp [charge, uncharged, assigned]

end Charged

/-- Release the charge of one entry, with a floor at zero. -/
def release (account : Entry → Option Account) (amount : Entry → Int) (wanted : Account)
    (balance : Int) (entry : Entry) : Int :=
  if account entry = some wanted then max 0 (balance - amount entry) else balance

/-- A balance that covers the charges it loses never reaches the floor. -/
theorem foldl_release {account : Entry → Option Account} {amount : Entry → Int} {wanted : Account}
    {entries : List Entry} {balance : Int} (nonnegative : ∀ entry ∈ entries, 0 ≤ amount entry)
    (covered : charged account amount entries wanted ≤ balance) :
    entries.foldl (release account amount wanted) balance =
      balance - charged account amount entries wanted := by
  induction entries generalizing balance with
  | nil => simp
  | cons head rest ih =>
      have restNonneg : ∀ entry ∈ rest, 0 ≤ amount entry :=
        fun entry member => nonnegative entry (List.mem_cons_of_mem head member)
      have restTotal : 0 ≤ charged account amount rest wanted := charged_nonneg restNonneg
      rw [charged_cons] at covered
      rw [List.foldl_cons, charged_cons]
      have unclipped : release account amount wanted balance head =
          balance - charge account amount wanted head := by
        unfold release charge at *
        split
        · rename_i charged
          rw [if_pos charged] at covered
          omega
        · omega
      rw [unclipped, ih restNonneg (by omega)]
      omega

end NebulaCloud.Data
