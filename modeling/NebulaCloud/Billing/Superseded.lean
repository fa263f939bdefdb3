import NebulaCloud.Billing.Line
import NebulaCloud.Data.System

namespace NebulaCloud.Billing

open NebulaCloud.Data NebulaCloud.Database NebulaCloud.Platform

/-! # Superseded subscriptions

The newest update names the subscription that is stored, whatever else was delivered.
The payment columns have no owner: an invoice writes them to the row that is stored, and
they stay there when another subscription takes the row. -/

/-- The key of the event that the row comes from. -/
def rowKey (row : BillingSubscriptionRow) : Int ×ₗ String :=
  toLex (row.lastEventCreatedAt, row.lastStripeEventId)

def BillingDelivery.isUpdate : BillingDelivery → Bool
  | .update _ _ _ => true
  | .invoice _ _ _ => false

/-- An invoice of the current subscription finds it stored, or finds nothing that its own
history alone would have stored; an invoice of another one is not applied. -/
def Undisturbed (current : String) (before : List BillingDelivery) (stored : Option BillingSubscriptionRow)
    (delivery : BillingDelivery) : Prop :=
  if delivery.isUpdate = true then True
  else if delivery.subscriptionId = current then
    (∃ row ∈ stored, row.stripeSubscriptionId = current) ∨
      ∀ earlier ∈ before, ¬ (earlier.isUpdate = true ∧ earlier.subscriptionId = current)
  else
    ∀ row ∈ stored, row.stripeSubscriptionId = delivery.subscriptionId →
      invoiceEventIsNewer row delivery.row = false

instance (current : String) (before : List BillingDelivery) (stored : Option BillingSubscriptionRow)
    (delivery : BillingDelivery) : Decidable (Undisturbed current before stored delivery) := by
  unfold Undisturbed
  infer_instance

/-- What the history of the current subscription alone would have stored, beside what is
stored: the payment columns agree, and the row is no older. -/
structure Shadows (current : String) (own row : BillingSubscriptionRow) : Prop where
  columns : paymentColumns row = paymentColumns own
  key : rowKey own ≤ rowKey row
  named : own.stripeSubscriptionId = current
  same : row.stripeSubscriptionId = current →
    rowKey row = rowKey own ∧ row.status = own.status ∧ row.currentPeriodEnd = own.currentPeriodEnd

/-- No invoice has written to the row. -/
def Unpaid (row : BillingSubscriptionRow) : Prop :=
  paymentColumns row = (.current, none, none, none)

/-- A run beside the run of the events of the current subscription. -/
structure Alike (current : String) (history before : List BillingDelivery) (line alone : Line) : Prop where
  settled : ∀ delivery ∈ history, delivery.subscriptionId = current →
    (delivery.id ∈ line.settled ↔ delivery.id ∈ alone.settled)
  empty : alone.row = none → ∀ row ∈ line.row, row.stripeSubscriptionId ≠ current ∧ Unpaid row
  stored : ∀ own ∈ alone.row, (∃ row ∈ line.row, Shadows current own row) ∧
    ∃ earlier ∈ before, earlier.isUpdate = true ∧ earlier.subscriptionId = current

section Steps

variable {current organizationId : String} {start : Tables} {history before : List BillingDelivery}
  {line alone : Line} {candidate own row : BillingSubscriptionRow}

theorem supersedes_iff : candidate.supersedes row = true ↔ rowKey row < rowKey candidate := by
  simp only [BillingSubscriptionRow.supersedes, eventSupersedes, rowKey, Prod.Lex.toLex_lt_toLex,
    Bool.or_eq_true, Bool.and_eq_true, decide_eq_true_eq]
  rw [eq_comm (a := candidate.lastEventCreatedAt)]

/-- An update of the current subscription. -/
theorem Shadows.of_update (shadows : Shadows current own row)
    (named : candidate.stripeSubscriptionId = current) :
    Shadows current
      (upserted BillingSubscriptionRow.supersedes BillingSubscriptionRow.replaced candidate (some own))
      (upserted BillingSubscriptionRow.supersedes BillingSubscriptionRow.replaced candidate (some row)) := by
  simp only [upserted]
  by_cases newer : candidate.supersedes row = true
  · have later := supersedes_iff.mp newer
    have ownNewer : candidate.supersedes own = true :=
      supersedes_iff.mpr (lt_of_le_of_lt shadows.key later)
    rw [if_pos newer, if_pos ownNewer]
    exact ⟨shadows.columns, le_refl _, named, fun _ => ⟨rfl, rfl, rfl⟩⟩
  · have reached : rowKey candidate ≤ rowKey row := not_lt.mp fun later => newer (supersedes_iff.mpr later)
    rw [if_neg newer]
    by_cases ownNewer : candidate.supersedes own = true
    · have later := supersedes_iff.mp ownNewer
      rw [if_pos ownNewer]
      refine ⟨shadows.columns, reached, named, fun same => ?_⟩
      have equal := (shadows.same same).1
      rw [equal] at reached
      exact absurd later (not_lt.mpr reached)
    · rw [if_neg ownNewer]
      exact shadows

/-- An update of another subscription. -/
theorem Shadows.of_other (shadows : Shadows current own row)
    (other : candidate.stripeSubscriptionId ≠ current) :
    Shadows current own
      (upserted BillingSubscriptionRow.supersedes BillingSubscriptionRow.replaced candidate (some row)) := by
  simp only [upserted]
  by_cases newer : candidate.supersedes row = true
  · have later := supersedes_iff.mp newer
    rw [if_pos newer]
    exact ⟨shadows.columns, shadows.key.trans later.le, shadows.named, fun same => absurd same other⟩
  · rw [if_neg newer]
    exact shadows

/-- An invoice of the current subscription. -/
theorem Shadows.of_invoice (shadows : Shadows current own row) (type : InvoiceEventType)
    (event : StripeEventRow) (now : Int) :
    Shadows current (withInvoice own type event now) (withInvoice row type event now) := by
  obtain ⟨state, rest⟩ := Prod.ext_iff.mp shadows.columns
  obtain ⟨grace, rest⟩ := Prod.ext_iff.mp rest
  obtain ⟨cursorTime, cursorId⟩ := Prod.ext_iff.mp rest
  have time : row.lastInvoiceEventCreatedAt = own.lastInvoiceEventCreatedAt := cursorTime
  have id : row.lastInvoiceEventId = own.lastInvoiceEventId := cursorId
  have deadline : row.graceEndsAt = own.graceEndsAt := grace
  have newer : invoiceEventIsNewer row event = invoiceEventIsNewer own event := by
    simp only [invoiceEventIsNewer, time, id]
  unfold withInvoice
  rw [newer]
  split
  · refine ⟨?_, shadows.key, shadows.named, shadows.same⟩
    simp only [paymentColumns, BillingSubscriptionRow.invoiced, invoiceGraceEndsAt, deadline]
  · exact shadows

variable {delivery : BillingDelivery}

/-- The line of the current subscription alone. -/
def stepAlone (current organizationId : String) (alone : Line) (delivery : BillingDelivery) : Line :=
  if delivery.subscriptionId = current then alone.step organizationId delivery else alone

theorem Alike.initial : Alike current history [] ⟨none, []⟩ ⟨none, []⟩ where
  settled := fun _ _ _ => Iff.rfl
  empty := fun _ row present => absurd present (Option.not_mem_none row)
  stored := fun own present => absurd present (Option.not_mem_none own)

theorem Alike.later (alike : Alike current history before line alone) :
    Alike current history (before ++ [delivery]) line alone := by
  refine ⟨alike.settled, alike.empty, fun own stored => ?_⟩
  obtain ⟨shadowed, earlier, member, updated⟩ := alike.stored own stored
  exact ⟨shadowed, earlier, List.mem_append_left _ member, updated⟩

/-- Both runs settle an event of the current subscription. -/
theorem Alike.settle {row ownRow : Option BillingSubscriptionRow}
    (alike : Alike current history before line alone) :
    ∀ other ∈ history, other.subscriptionId = current →
      (other.id ∈ (⟨row, delivery.id :: line.settled⟩ : Line).settled ↔
        other.id ∈ (⟨ownRow, delivery.id :: alone.settled⟩ : Line).settled) := by
  intro other member about
  rw [List.mem_cons, List.mem_cons, alike.settled other member about]

/-- An event of another subscription settles without a trace in the other run. -/
theorem Alike.settleOther {row : Option BillingSubscriptionRow} (whole : History organizationId start history)
    (alike : Alike current history before line alone) (member : delivery ∈ history)
    (foreign : delivery.subscriptionId ≠ current) :
    ∀ other ∈ history, other.subscriptionId = current →
      (other.id ∈ (⟨row, delivery.id :: line.settled⟩ : Line).settled ↔ other.id ∈ alone.settled) := by
  intro other otherMember about
  have different : other.id ≠ delivery.id := by
    intro same
    have content := content_fields (whole.identity other otherMember delivery member same)
    exact foreign (content.2.2.symm.trans about)
  rw [List.mem_cons, or_iff_right different]
  exact alike.settled other otherMember about

theorem Alike.update {event : StripeEventInput} {part : BillingSubscriptionInput} {now : Int}
    (whole : History organizationId start history) (member : .update event part now ∈ history)
    (alike : Alike current history before line alone)
    (fresh : (BillingDelivery.update event part now).id ∉ line.settled) :
    Alike current history (before ++ [.update event part now])
      (line.step organizationId (.update event part now))
      (stepAlone current organizationId alone (.update event part now)) := by
  obtain ⟨_, _, candidate, accepted⟩ := (whole.wellFormed _ member).content
  obtain ⟨named, _, state, grace, cursor, cursorId⟩ := billingSubscriptionCandidate_row accepted
  have unpaid : Unpaid candidate := by
    simp only [Unpaid, paymentColumns, state, grace, cursor, cursorId]
  rw [Line.step_update fresh accepted, stepAlone]
  by_cases about : (BillingDelivery.update event part now).subscriptionId = current
  · have own : candidate.stripeSubscriptionId = current := named.trans about
    have freshAlone : (BillingDelivery.update event part now).id ∉ alone.settled :=
      fun settled => fresh ((alike.settled _ member about).mpr settled)
    rw [if_pos about, Line.step_update freshAlone accepted]
    refine ⟨alike.settle, fun none => absurd none (Option.some_ne_none _), fun row stored => ?_⟩
    obtain rfl := Option.some.inj stored
    refine ⟨⟨_, rfl, ?_⟩, .update event part now, by simp, rfl, about⟩
    cases stored : alone.row with
    | some previous =>
        obtain ⟨⟨row, present, shadows⟩, _⟩ := alike.stored previous stored
        obtain present : line.row = some row := present
        rw [present]
        exact shadows.of_update own
    | none =>
        have empty := alike.empty stored
        cases present : line.row with
        | none => exact ⟨rfl, le_refl _, own, fun _ => ⟨rfl, rfl, rfl⟩⟩
        | some row =>
            obtain ⟨other, rowUnpaid⟩ := empty row present
            have columns : paymentColumns row = paymentColumns candidate := rowUnpaid.trans unpaid.symm
            simp only [upserted]
            by_cases newer : candidate.supersedes row = true
            · rw [if_pos newer]
              exact ⟨columns, le_refl _, own, fun _ => ⟨rfl, rfl, rfl⟩⟩
            · rw [if_neg newer]
              have reached := not_lt.mp fun later => newer (supersedes_iff.mpr later)
              exact ⟨columns, reached, own, fun same => absurd same other⟩
  · have other : candidate.stripeSubscriptionId ≠ current := fun same => about (named.symm.trans same)
    rw [if_neg about]
    refine ⟨alike.settleOther whole member about, fun empty => ?_, fun own stored => ?_⟩
    · have kept := alike.empty empty
      intro row present
      obtain rfl := Option.some.inj present
      cases present : line.row with
      | none => exact ⟨other, unpaid⟩
      | some stored =>
          obtain ⟨otherStored, storedUnpaid⟩ := kept stored present
          simp only [upserted]
          split
          · exact ⟨other, storedUnpaid⟩
          · exact ⟨otherStored, storedUnpaid⟩
    · obtain ⟨⟨row, present, shadows⟩, earlier, earlierMember, updated⟩ := alike.stored own stored
      obtain present : line.row = some row := present
      refine ⟨⟨_, rfl, ?_⟩, earlier, List.mem_append_left _ earlierMember, updated⟩
      rw [present]
      exact shadows.of_other other

theorem Alike.invoice {event : InvoiceEvent} {stripeSubscriptionId : String} {now : Int}
    (whole : History organizationId start history)
    (member : .invoice event stripeSubscriptionId now ∈ history)
    (alike : Alike current history before line alone)
    (fresh : (BillingDelivery.invoice event stripeSubscriptionId now).id ∉ line.settled)
    (undisturbed : Undisturbed current before line.row (.invoice event stripeSubscriptionId now)) :
    Alike current history (before ++ [.invoice event stripeSubscriptionId now])
      (line.step organizationId (.invoice event stripeSubscriptionId now))
      (stepAlone current organizationId alone (.invoice event stripeSubscriptionId now)) := by
  rw [Undisturbed, if_neg nofun] at undisturbed
  rw [stepAlone]
  by_cases about : (BillingDelivery.invoice event stripeSubscriptionId now).subscriptionId = current
  · have own : trim stripeSubscriptionId = current := about
    have freshAlone : (BillingDelivery.invoice event stripeSubscriptionId now).id ∉ alone.settled :=
      fun settled => fresh ((alike.settled _ member about).mpr settled)
    rw [if_pos about] at undisturbed ⊢
    rcases undisturbed with ⟨row, present, named⟩ | untouched
    · cases stored : alone.row with
      | none => exact absurd named (alike.empty stored row present).1
      | some ownRow =>
          obtain ⟨⟨_, again, shadows⟩, earlier, earlierMember, updated⟩ := alike.stored ownRow stored
          obtain rfl := Option.some.inj (present.symm.trans again)
          rw [Line.step_invoice fresh present (named.trans own.symm),
            Line.step_invoice freshAlone stored (shadows.named.trans own.symm)]
          refine ⟨alike.settle, nofun, fun row stored => ?_⟩
          obtain rfl := Option.some.inj stored
          exact ⟨⟨_, rfl, shadows.of_invoice event.type _ now⟩, earlier,
            List.mem_append_left _ earlierMember, updated⟩
    · have stored : alone.row = none := by
        rw [Option.eq_none_iff_forall_not_mem]
        intro ownRow stored
        obtain ⟨_, earlier, earlierMember, updated⟩ := alike.stored ownRow stored
        exact untouched earlier earlierMember updated
      have missing : ∀ row ∈ line.row, row.stripeSubscriptionId ≠ trim stripeSubscriptionId := by
        intro row present same
        exact (alike.empty stored row present).1 (same.trans own)
      have missingAlone : ∀ row ∈ alone.row, row.stripeSubscriptionId ≠ trim stripeSubscriptionId := by
        intro row present
        rw [stored] at present
        exact absurd present (Option.not_mem_none row)
      rw [Line.step_missing missing, Line.step_missing missingAlone]
      exact alike.later
  · rw [if_neg about] at undisturbed ⊢
    by_cases named : ∃ row ∈ line.row, row.stripeSubscriptionId = trim stripeSubscriptionId
    · obtain ⟨row, present, named⟩ := named
      have stale := undisturbed row present named
      rw [Line.step_invoice fresh present named, withInvoice, if_neg (by simp [stale]), ← present]
      have grown : Alike current history (before ++ [.invoice event stripeSubscriptionId now]) line alone :=
        alike.later
      exact ⟨alike.settleOther whole member about, grown.empty, grown.stored⟩
    · have missing : ∀ row ∈ line.row, row.stripeSubscriptionId ≠ trim stripeSubscriptionId :=
        fun row present same => named ⟨row, present, same⟩
      rw [Line.step_missing missing]
      exact alike.later

/-- One delivery keeps the two runs alike. -/
theorem Alike.step (whole : History organizationId start history) (member : delivery ∈ history)
    (alike : Alike current history before line alone)
    (undisturbed : delivery.id ∉ line.settled → Undisturbed current before line.row delivery) :
    Alike current history (before ++ [delivery]) (line.step organizationId delivery)
      (stepAlone current organizationId alone delivery) := by
  by_cases settled : delivery.id ∈ line.settled
  · rw [Line.step_settled settled, stepAlone]
    split
    · rename_i about
      rw [Line.step_settled ((alike.settled delivery member about).mp settled)]
      exact alike.later
    · exact alike.later
  · cases delivery with
    | update event part now => exact alike.update whole member settled
    | invoice event stripeSubscriptionId now =>
        exact alike.invoice whole member settled (undisturbed settled)

end Steps

section Runs

variable {current organizationId : String} {start : CloudDatabase} {history : List BillingDelivery}

def deliverAll (organizationId : String) (database : CloudDatabase) (deliveries : List BillingDelivery) :
    CloudDatabase :=
  deliveries.foldl (BillingDelivery.perform organizationId) database

/-- The deliveries of one organization, with those that came before. -/
def billingHistory (organizationId : String) :
    System (List BillingDelivery × CloudDatabase) BillingDelivery where
  Initial _ := True
  Enabled _ _ := True
  step state delivery := (state.1 ++ [delivery], delivery.perform organizationId state.2)

/-- Every event that is not settled yet comes undisturbed. -/
def UndisturbedRun (current organizationId : String) : List BillingDelivery × CloudDatabase →
    List BillingDelivery → Prop :=
  (billingHistory organizationId).Along fun state delivery =>
    (∀ event ∈ lookup (·.stripeEventId) state.2.tables.stripeEvents delivery.id,
      event.isSettled = false) →
    Undisturbed current state.1 (getBillingSubscription state.2 organizationId) delivery

instance (current organizationId : String) (state : List BillingDelivery × CloudDatabase)
    (deliveries : List BillingDelivery) :
    Decidable (UndisturbedRun current organizationId state deliveries) :=
  @System.decidableAlong _ _ _ _ (fun _ _ => inferInstanceAs (Decidable (_ → _))) deliveries state

/-- The organization is billed for the first time in the history. -/
structure Unsubscribed (organizationId : String) (start : CloudDatabase) (history : List BillingDelivery) :
    Prop extends History organizationId start.tables history where
  reachable : seats.Reachable start
  known : organizationId ∈ start.tables.organizationIds
  noSubscription : getBillingSubscription start organizationId = none
  unrecorded : ∀ delivery ∈ history,
    lookup (·.stripeEventId) start.tables.stripeEvents delivery.id = none

theorem Unsubscribed.follows (whole : Unsubscribed organizationId start history) :
    Follows organizationId start.tables history start ⟨none, []⟩ := by
  have noRow : lookup (·.organizationId) start.tables.subscriptions organizationId = none := by
    rw [← whole.trimmed]
    exact whole.noSubscription
  have covered := (SeatInvariant.of_reachable whole.reachable).covered organizationId
  rw [entitledSeats, noRow] at covered
  refine ⟨whole.known, Int.natCast_nonpos_iff.mp covered, noRow, fun row stored => .inr stored, ?_, ?_⟩
  · intro delivery member
    rw [whole.unrecorded delivery member]
    simp
  · intro delivery member
    rw [whole.unrecorded delivery member]
    exact fun row present => absurd present (Option.not_mem_none row)

/-- An undisturbed run stays beside the run of the current subscription alone. -/
theorem Alike.run {database : CloudDatabase} {line alone : Line} {before : List BillingDelivery}
    (whole : History organizationId start.tables history) (rest : List BillingDelivery)
    (within : ∀ delivery ∈ rest, delivery ∈ history)
    (follows : Follows organizationId start.tables history database line)
    (alike : Alike current history before line alone)
    (undisturbed : UndisturbedRun current organizationId (before, database) rest) :
    Alike current history (before ++ rest) (rest.foldl (Line.step organizationId) line)
      (rest.foldl (stepAlone current organizationId) alone) := by
  induction rest generalizing database line alone before with
  | nil =>
      rw [List.append_nil]
      exact alike
  | cons delivery rest ih =>
      obtain ⟨now, later⟩ := undisturbed
      have member := within delivery List.mem_cons_self
      have withinRest : ∀ other ∈ rest, other ∈ history := fun other inRest =>
        within other (List.mem_cons_of_mem delivery inRest)
      have next := alike.step whole member fun fresh => by
        have condition := now fun event stored => by
          rw [Bool.eq_false_iff]
          exact fun settled => fresh ((follows.settled delivery member).mpr ⟨event, stored, settled⟩)
        rw [getBillingSubscription, whole.trimmed] at condition
        rw [← follows.row]
        exact condition
      rw [← List.singleton_append, ← List.append_assoc]
      exact ih withinRest (follows.step whole member) next later

theorem foldl_stepAlone (alone : Line) :
    history.foldl (stepAlone current organizationId) alone =
      (history.filter fun delivery => delivery.subscriptionId = current).foldl
        (Line.step organizationId) alone := by
  rw [List.foldl_filter]
  simp only [decide_eq_true_eq]
  rfl

/-- The columns that decide about access, and the access at every time. -/
def SameAccess (left right : BillingSubscriptionRow) : Prop :=
  left.status = right.status ∧ left.paymentState = right.paymentState ∧
    left.graceEndsAt = right.graceEndsAt ∧
    ∀ now, stripeEntitlementAccess left now = stripeEntitlementAccess right now

theorem SameAccess.of_columns {left right : BillingSubscriptionRow} (status : left.status = right.status)
    (periodEnd : left.currentPeriodEnd = right.currentPeriodEnd)
    (columns : paymentColumns left = paymentColumns right) : SameAccess left right := by
  have state : left.paymentState = right.paymentState := congrArg Prod.fst columns
  have grace : left.graceEndsAt = right.graceEndsAt := congrArg (fun row => row.2.1) columns
  refine ⟨status, state, grace, fun now => ?_⟩
  simp only [stripeEntitlementAccess, status, state, grace, periodEnd]

/-- The row of an undisturbed run that ends with the current subscription. -/
theorem Shadows.of_run (whole : Unsubscribed organizationId start history)
    (undisturbed : UndisturbedRun current organizationId ([], start) history)
    {row : BillingSubscriptionRow}
    (ends : getBillingSubscription (deliverAll organizationId start history) organizationId = some row)
    (named : row.stripeSubscriptionId = current) :
    ∃ own, ((history.filter fun delivery => delivery.subscriptionId = current).foldl
        (Line.step organizationId) ⟨none, []⟩).row = some own ∧
      Shadows current own row := by
  have alike := Alike.run whole.toHistory history (fun _ member => member) whole.follows .initial
    undisturbed
  have follows := whole.follows.run whole.toHistory history fun _ member => member
  rw [foldl_stepAlone, List.nil_append] at alike
  rw [getBillingSubscription, whole.trimmed] at ends
  have present := follows.row.symm.trans ends
  cases stored : ((history.filter fun delivery => delivery.subscriptionId = current).foldl
      (Line.step organizationId) ⟨none, []⟩).row with
  | none => exact absurd named (alike.empty stored row present).1
  | some own =>
      obtain ⟨⟨_, again, shadows⟩, _⟩ := alike.stored own stored
      obtain rfl := Option.some.inj (present.symm.trans again)
      exact ⟨own, rfl, shadows⟩

/-- Two undisturbed histories with the same events of the subscription that they end with
leave the same status, payment state, grace deadline and access. -/
theorem superseded_without_influence {left right : List BillingDelivery} {leftRow rightRow : BillingSubscriptionRow}
    (leftWhole : Unsubscribed organizationId start left)
    (rightWhole : Unsubscribed organizationId start right)
    (leftEnds : getBillingSubscription (deliverAll organizationId start left) organizationId = some leftRow)
    (rightEnds : getBillingSubscription (deliverAll organizationId start right) organizationId =
      some rightRow)
    (sameId : rightRow.stripeSubscriptionId = leftRow.stripeSubscriptionId)
    (sameEvents : left.filter (·.subscriptionId = leftRow.stripeSubscriptionId) =
      right.filter (·.subscriptionId = leftRow.stripeSubscriptionId))
    (leftUndisturbed : UndisturbedRun leftRow.stripeSubscriptionId organizationId ([], start) left)
    (rightUndisturbed : UndisturbedRun leftRow.stripeSubscriptionId organizationId ([], start) right) :
    SameAccess leftRow rightRow := by
  obtain ⟨own, stored, shadows⟩ := Shadows.of_run leftWhole leftUndisturbed leftEnds rfl
  obtain ⟨ownAgain, again, shadowsRight⟩ := Shadows.of_run rightWhole rightUndisturbed rightEnds sameId
  rw [← sameEvents, stored] at again
  obtain rfl := Option.some.inj again
  obtain ⟨_, status, periodEnd⟩ := shadows.same rfl
  obtain ⟨_, statusRight, periodEndRight⟩ := shadowsRight.same sameId
  exact .of_columns (status.trans statusRight.symm) (periodEnd.trans periodEndRight.symm)
    (shadows.columns.trans shadowsRight.columns.symm)

end Runs

section Sample

def subscribed (stripeEventId stripeSubscriptionId : String) (createdAt now : Int) : BillingDelivery :=
  .update ⟨stripeEventId, "customer.subscription.updated", createdAt, now⟩
    ⟨stripeSubscriptionId, "price_1", "active", 2, false, none⟩ now

def unpaidInvoice (stripeEventId stripeSubscriptionId : String) (createdAt : Int) : BillingDelivery :=
  .invoice ⟨stripeEventId, .paymentFailed, createdAt, 50⟩ stripeSubscriptionId 50

theorem unsubscribed_acme (history : List BillingDelivery)
    (wellFormed : ∀ delivery ∈ history, delivery.WellFormed "acme")
    (distinct : ∀ left ∈ history, ∀ right ∈ history, left.id = right.id → left.content = right.content) :
    Unsubscribed "acme" customerTeam history where
  trimmed := by decide +kernel
  named := by decide
  wellFormed := wellFormed
  identity := distinct
  foreign := fun row stored => absurd stored (List.not_mem_nil)
  reachable := .initial ⟨by decide, by decide⟩
  known := by decide
  noSubscription := by decide +kernel
  unrecorded := fun _ _ => rfl

def acmeRow (history : List BillingDelivery) : Option BillingSubscriptionRow :=
  getBillingSubscription (deliverAll "acme" customerTeam history) "acme"

/-- The old subscription was replaced before its successor failed to be paid. -/
def replacedEarly : List BillingDelivery :=
  [subscribed "evt_1" "sub_old" 10 45, subscribed "evt_2" "sub_new" 30 50, unpaidInvoice "evt_3" "sub_new" 40]

def newOnly : List BillingDelivery :=
  [subscribed "evt_2" "sub_new" 30 50, unpaidInvoice "evt_3" "sub_new" 40]

def overdueRow (createdAt : Int) : BillingSubscriptionRow where
  organizationId := "acme"
  stripeSubscriptionId := "sub_new"
  stripePriceId := "price_1"
  status := "active"
  entitledSeats := 2
  cancelAtPeriodEnd := false
  currentPeriodEnd := none
  paymentState := .grace
  graceEndsAt := some (40 + stripePaymentGraceDurationMs)
  lastInvoiceEventCreatedAt := some 40
  lastInvoiceEventId := some "evt_3"
  lastEventCreatedAt := 30
  lastStripeEventId := "evt_2"
  createdAt := createdAt
  updatedAt := 50

theorem superseded_without_influence_replacedEarly :
    acmeRow replacedEarly = some (overdueRow 45) ∧ acmeRow newOnly = some (overdueRow 50) ∧
      SameAccess (overdueRow 45) (overdueRow 50) := by
  obtain ⟨leftEnds, rightEnds, leftUndisturbed, rightUndisturbed⟩ :
      acmeRow replacedEarly = some (overdueRow 45) ∧ acmeRow newOnly = some (overdueRow 50) ∧
        UndisturbedRun "sub_new" "acme" ([], customerTeam) replacedEarly ∧
        UndisturbedRun "sub_new" "acme" ([], customerTeam) newOnly := by
    decide +kernel
  exact ⟨leftEnds, rightEnds, superseded_without_influence
    (unsubscribed_acme replacedEarly (by decide +kernel) (by decide +kernel))
    (unsubscribed_acme newOnly (by decide +kernel) (by decide +kernel)) leftEnds rightEnds rfl
    (by decide +kernel) leftUndisturbed rightUndisturbed⟩

/-- A failed payment of the old subscription puts its successor into grace. -/
theorem supersededFailure_reaches_successor :
    let left := [subscribed "evt_1" "sub_old" 10 45, unpaidInvoice "evt_2" "sub_old" 20,
      subscribed "evt_3" "sub_new" 30 50]
    let right := [subscribed "evt_3" "sub_new" 30 50]
    Unsubscribed "acme" customerTeam left ∧ Unsubscribed "acme" customerTeam right ∧
      left.filter (·.subscriptionId = "sub_new") = right.filter (·.subscriptionId = "sub_new") ∧
      (acmeRow left).map (fun row => (row.stripeSubscriptionId, row.paymentState)) =
        some ("sub_new", .grace) ∧
      (acmeRow right).map (fun row => (row.stripeSubscriptionId, row.paymentState)) =
        some ("sub_new", .current) :=
  ⟨unsubscribed_acme _ (by decide +kernel) (by decide +kernel),
    unsubscribed_acme _ (by decide +kernel) (by decide +kernel), by decide +kernel, by decide +kernel,
    by decide +kernel⟩

end Sample

end NebulaCloud.Billing
