import NebulaCloud.Billing.Delivery
import NebulaCloud.Billing.SeatCapacity

namespace NebulaCloud.Billing

open NebulaCloud.Data NebulaCloud.Database NebulaCloud.Platform

/-! # What an invoice delivery does

An unsettled invoice event of a known subscription is ignored, applied or failed, and
the seats alone decide between the last two. -/

/-- When the assigned seats of an organization start. -/
def seatStarts (tables : Tables) (organizationId : String) : List Int :=
  tables.entitlements.filterMap fun seat =>
    if isAssignedSeat organizationId seat then some seat.startsAt else none

/-- Every assigned seat can take the access that the subscription gives. -/
def AccessFits (starts : List Int) (subscription : BillingSubscriptionRow) (now : Int) : Prop :=
  ∀ start ∈ starts, ∀ endsAt ∈ (stripeEntitlementAccess subscription now).endsAt, start < endsAt

instance (starts : List Int) (subscription : BillingSubscriptionRow) (now : Int) :
    Decidable (AccessFits starts subscription now) :=
  inferInstanceAs (Decidable (∀ start ∈ starts, _))

/-- The tables after the event was completed. -/
def completedTables (stripeEventId : String) (processingResult : StripeEventProcessingResult)
    (processingMessage : String) (now : Int) (tables : Tables) : Tables :=
  { tables with
    stripeEvents := updateWhere (fun event => event.stripeEventId = stripeEventId)
      (StripeEventRow.completed processingResult processingMessage now) tables.stripeEvents }

section Seats

variable {database : CloudDatabase} {tables : Tables} {organizationId : String}
  {subscription : BillingSubscriptionRow} {now : Int}

/-- Refreshing the seats does not move their starts. -/
theorem seatStarts_reconciled (organizationId : String) :
    seatStarts (reconciled subscription now tables) organizationId =
      seatStarts tables organizationId := by
  apply filterMap_updateWhere
  intro seat _ assigned
  have granted := stripeEntitlementAccess_state subscription now
  have occupied := (isAssignedSeat_iff.mp assigned).2.2
  have same : isAssignedSeat organizationId (seat.granted (stripeEntitlementAccess subscription now) now) =
      isAssignedSeat organizationId seat := by
    rw [Bool.eq_iff_iff, isAssignedSeat_iff, isAssignedSeat_iff]
    simp only [OperatorEntitlementRow.granted, ne_eq, granted, occupied]
  rw [same]
  rfl

theorem seatStarts_completedTables (stripeEventId message : String)
    (result : StripeEventProcessingResult) :
    seatStarts (completedTables stripeEventId result message now tables) organizationId =
      seatStarts tables organizationId := rfl

theorem seatStarts_invoiceSubscription :
    seatStarts (invoiceSubscription subscription tables) organizationId =
      seatStarts tables organizationId := rfl

/-- Completion leaves the other events. -/
theorem lookup_completedTables {stripeEventId message wanted : String}
    {result : StripeEventProcessingResult} (other : ¬ stripeEventId = wanted) :
    lookup (·.stripeEventId) (completedTables stripeEventId result message now tables).stripeEvents wanted =
      lookup (·.stripeEventId) tables.stripeEvents wanted := by
  have keeps : ∀ row : StripeEventRow, decide (row.stripeEventId = stripeEventId) = true →
      (row.completed result message now).stripeEventId = row.stripeEventId := fun _ _ => rfl
  refine (lookup_updateWhere keeps).trans ?_
  cases found : lookup (·.stripeEventId) tables.stripeEvents wanted with
  | none => rfl
  | some stored =>
      have different : ¬ stored.stripeEventId = stripeEventId :=
        fun same => other (same.symm.trans (lookup_key found))
      simp [different]

/-- Completion rewrites the row of its event. -/
theorem lookup_completedTables_self {stripeEventId message : String} {event : StripeEventRow}
    {result : StripeEventProcessingResult}
    (found : lookup (·.stripeEventId) tables.stripeEvents stripeEventId = some event) :
    lookup (·.stripeEventId) (completedTables stripeEventId result message now tables).stripeEvents
      stripeEventId = some (event.completed result message now) := by
  have keeps : ∀ row : StripeEventRow, decide (row.stripeEventId = stripeEventId) = true →
      (row.completed result message now).stripeEventId = row.stripeEventId := fun _ _ => rfl
  refine (lookup_updateWhere keeps).trans ?_
  rw [found]
  exact congrArg some (if_pos (decide_eq_true (lookup_key found)))

theorem mem_seatStarts {start : Int} :
    start ∈ seatStarts tables organizationId ↔
      ∃ seat ∈ tables.entitlements, isAssignedSeat organizationId seat = true ∧ seat.startsAt = start := by
  simp only [seatStarts, List.mem_filterMap]
  constructor
  · rintro ⟨seat, stored, chosen⟩
    split at chosen
    · rename_i assigned
      exact ⟨seat, stored, assigned, Option.some.inj chosen⟩
    · cases chosen
  · rintro ⟨seat, stored, assigned, same⟩
    exact ⟨seat, stored, by rw [if_pos assigned, same]⟩

theorem accessFits_seatStarts :
    AccessFits (seatStarts tables organizationId) subscription now ↔
      ∀ seat ∈ tables.entitlements, isAssignedSeat organizationId seat = true →
        ∀ endsAt ∈ (stripeEntitlementAccess subscription now).endsAt, seat.startsAt < endsAt := by
  constructor
  · intro fits seat stored assigned
    exact fits seat.startsAt (mem_seatStarts.mpr ⟨seat, stored, assigned, rfl⟩)
  · intro ends start member
    obtain ⟨seat, stored, assigned, rfl⟩ := mem_seatStarts.mp member
    exact ends seat stored assigned

theorem reconciled_consistent_iff_fits :
    schema.Consistent (reconciled subscription now database.tables) ↔
      AccessFits (seatStarts database.tables subscription.organizationId) subscription now := by
  rw [reconciled_consistent, accessFits_seatStarts]

end Seats

section Invoice

variable {database registered : CloudDatabase} {event : StripeEventRow} {inserted : Bool}
  {input : StripeInvoiceProjectionInput} {subscription : BillingSubscriptionRow} {type : InvoiceEventType}
  {now : Int}

/-- The row of the subscription after the update of an invoice. -/
theorem lookup_invoiced (stored : subscription ∈ database.tables.subscriptions) :
    lookup (·.organizationId)
        (invoiceSubscription (subscription.invoiced type event now) database.tables).subscriptions
        subscription.organizationId =
      some (subscription.invoiced type event now) := by
  have found := lookup_of_mem (database.consistent .subscriptionOrganization) stored
  rw [lookup_invoiceSubscription]
  refine (congrArg _ found).trans ?_
  exact congrArg some (if_pos (decide_eq_true rfl))

theorem lookup_invoiced_stripeId {stripeSubscriptionId : String}
    (found : lookup (·.stripeSubscriptionId) database.tables.subscriptions stripeSubscriptionId =
      some subscription) :
    lookup (·.stripeSubscriptionId)
        (invoiceSubscription (subscription.invoiced type event now) database.tables).subscriptions
        stripeSubscriptionId =
      some (subscription.invoiced type event now) := by
  have keeps : ∀ row : BillingSubscriptionRow,
      decide (row.organizationId = subscription.organizationId) = true →
      ((subscription.invoiced type event now).withPayment row).stripeSubscriptionId =
        row.stripeSubscriptionId := fun _ _ => rfl
  refine (lookup_updateWhere keeps).trans ?_
  rw [found]
  exact congrArg some (if_pos (decide_eq_true rfl))

theorem invoiceSubscription_consistent (stored : subscription ∈ database.tables.subscriptions)
    (nonneg : 0 ≤ event.eventCreatedAt) :
    schema.Consistent
      (invoiceSubscription (subscription.invoiced type event now) database.tables) := by
  intro constraint
  have held := database.consistent constraint
  have keeps {Column : Type} (column : BillingSubscriptionRow → Column)
      (payment : ∀ row, column ((subscription.invoiced type event now).withPayment row) = column row) :
      (invoiceSubscription (subscription.invoiced type event now) database.tables).subscriptions.map
        column = database.tables.subscriptions.map column := map_updateWhere payment
  cases constraint with
  | subscriptionOrganization =>
      change (List.map _ _).Nodup
      rw [keeps _ fun _ => rfl]
      exact held
  | subscriptionStripeId =>
      change (List.map _ _).Nodup
      rw [keeps _ fun _ => rfl]
      exact held
  | subscriptionOwner =>
      intro row member
      obtain ⟨before, storedBefore, changed⟩ := mem_updateWhere.mp member
      rw [← changed]
      split
      · exact held before storedBefore
      · exact held before storedBefore
  | subscriptionChecks =>
      intro row member
      obtain ⟨before, storedBefore, changed⟩ := mem_updateWhere.mp member
      rw [← changed]
      split
      · obtain ⟨seats, subscriptionId, priceId, status, periodEnd, _⟩ := held before storedBefore
        refine ⟨seats, subscriptionId, priceId, status, periodEnd, ?_⟩
        intro graceEnd ends
        obtain ⟨_, _, _, _, _, stored⟩ := held subscription stored
        change graceEnd ∈ invoiceGraceEndsAt type subscription event.eventCreatedAt at ends
        cases type with
        | paid => cases ends
        | paymentFailed =>
            cases running : subscription.graceEndsAt with
            | none =>
                rw [invoiceGraceEndsAt, running] at ends
                obtain rfl := Option.some.inj ends
                exact add_nonneg nonneg (by decide)
            | some graceEndsAt =>
                rw [invoiceGraceEndsAt, running] at ends
                obtain rfl := Option.some.inj ends
                exact stored _ running
      · exact held before storedBefore
  | _ => exact held

/-- A newer invoice is written exactly when the seats fit the access it leaves. -/
theorem projectInvoice_iff (stored : subscription ∈ database.tables.subscriptions)
    (trimmed : trim subscription.organizationId = subscription.organizationId)
    (nonneg : 0 ≤ event.eventCreatedAt) {after : CloudDatabase} {updated : BillingSubscriptionRow} :
    projectInvoice database (subscription.invoiced type event now) now = .ok (after, updated) ↔
      updated = subscription.invoiced type event now ∧
        after.tables = reconciled (subscription.invoiced type event now) now
          (invoiceSubscription (subscription.invoiced type event now) database.tables) := by
  have found : lookup (·.organizationId)
      (invoiceSubscription (subscription.invoiced type event now) database.tables).subscriptions
      subscription.organizationId = some (subscription.invoiced type event now) :=
    lookup_invoiced stored
  constructor
  · intro projected
    obtain ⟨resolved, written⟩ := projectInvoice_ok projected
    have same : updated = subscription.invoiced type event now := by
      have again : lookup (·.organizationId)
          (invoiceSubscription (subscription.invoiced type event now) database.tables).subscriptions
          (trim subscription.organizationId) = some updated := resolved
      rw [trimmed] at again
      exact Option.some.inj (again.symm.trans found)
    subst same
    exact ⟨rfl, written⟩
  · rintro ⟨rfl, written⟩
    have consistent : schema.Consistent
        (invoiceSubscription (subscription.invoiced type event now) database.tables) :=
      invoiceSubscription_consistent stored nonneg
    let middle : CloudDatabase := ⟨_, consistent⟩
    have update : statement database
        (invoiceSubscription (subscription.invoiced type event now)) = .ok middle :=
      Store.execute_of_consistent middle.consistent
    have resolved : getBillingSubscription middle subscription.organizationId =
        some (subscription.invoiced type event now) := by
      rw [getBillingSubscription, trimmed]
      exact found
    refine bind_ok.mpr ⟨middle, update, ?_⟩
    have organization : (subscription.invoiced type event now).organizationId =
        subscription.organizationId := rfl
    rw [organization, resolved]
    exact bind_ok.mpr ⟨after, Store.execute_ok.mpr written, rfl⟩

/-- A newer invoice that the seats do not fit is refused as a whole. -/
theorem projectInvoice_error (stored : subscription ∈ database.tables.subscriptions)
    (trimmed : trim subscription.organizationId = subscription.organizationId)
    (nonneg : 0 ≤ event.eventCreatedAt)
    (misfit : ¬ AccessFits (seatStarts database.tables subscription.organizationId)
      (subscription.invoiced type event now) now) :
    ∃ failure, projectInvoice database (subscription.invoiced type event now) now =
      .error failure := by
  cases projected : projectInvoice database (subscription.invoiced type event now) now with
  | error failure => exact ⟨failure, rfl⟩
  | ok result =>
      obtain ⟨after, updated⟩ := result
      have written := ((projectInvoice_iff stored trimmed nonneg).mp projected).2
      have consistent := after.consistent
      have middle : schema.Consistent
          (invoiceSubscription (subscription.invoiced type event now) database.tables) :=
        invoiceSubscription_consistent stored nonneg
      let between : CloudDatabase := ⟨_, middle⟩
      rw [written] at consistent
      have refreshed : schema.Consistent
          (reconciled (subscription.invoiced type event now) now between.tables) := consistent
      exact absurd (reconciled_consistent_iff_fits.mp refreshed) misfit

/-- A rejected invoice is recorded on its event. -/
theorem recordInvoiceFailure_known {failure : Failure} (register :
      registerStripeEvent registered input.event = .ok (registered, event, false))
    (recorded : lookup (·.stripeEventId) registered.tables.stripeEvents event.stripeEventId = some event)
    (unsettled : event.isSettled = false) (valid : IsNonNegativeSafeInteger now) :
    (recordInvoiceFailure registered event input failure now).1.tables =
      completedTables event.stripeEventId .failed failure.message now registered.tables := by
  have outcome : StripeEventProcessingResult.failed ≠ .pending := nofun
  obtain ⟨after, complete⟩ := completeStripeEvent_known failure.message now recorded outcome
  have failed := (failStripeEvent_unsettled register unsettled valid).trans complete
  unfold recordInvoiceFailure
  simp only [recorded, Option.map_some, if_pos, failed]
  exact completeStripeEvent_ok complete

/-- A redelivery of a settled invoice event changes nothing. -/
theorem applyStripeInvoiceProjection_settled
    (register : registerStripeEvent database input.event = .ok (database, event, false))
    (settled : event.isSettled = true) : (applyStripeInvoiceProjection database input).1 = database := by
  unfold applyStripeInvoiceProjection
  rw [register]
  cases resolved : getBillingSubscriptionByStripeId database input.stripeSubscriptionId with
  | error failure => simp only [resolved]
  | ok existing => simp only [resolved, settled, and_self, if_true]

/-- An invoice without its subscription fails. -/
theorem applyStripeInvoiceProjection_missing {stripeSubscriptionId : String}
    (register : registerStripeEvent database input.event = .ok (registered, event, inserted))
    (unsettled : event.isSettled = false) (valid : IsNonNegativeSafeInteger input.now)
    (text : requiredStripeText input.stripeSubscriptionId "stripeSubscriptionId" 255 =
      .ok stripeSubscriptionId)
    (missing : lookup (·.stripeSubscriptionId) registered.tables.subscriptions stripeSubscriptionId =
      none) :
    ∃ message, (applyStripeInvoiceProjection database input).1.tables =
      completedTables event.stripeEventId .failed message input.now registered.tables := by
  have resolved : getBillingSubscriptionByStripeId registered input.stripeSubscriptionId = .ok none :=
    bind_ok.mpr ⟨stripeSubscriptionId, text, congrArg _ missing⟩
  have timestamp : stripeTimestamp input.now "processedAt" = .ok input.now :=
    stripeTimestamp_ok.mpr ⟨valid, rfl⟩
  have rejected : invoiceProjection registered event inserted input input.now =
      .error (.error "Stripe invoice subscription was not found") := by
    unfold invoiceProjection
    rw [resolved]
    rfl
  refine ⟨(Failure.error "Stripe invoice subscription was not found").message, ?_⟩
  unfold applyStripeInvoiceProjection
  rw [register]
  simp only [resolved, unsettled, Bool.false_eq_true, and_false, if_false, timestamp, rejected]
  exact recordInvoiceFailure_known (registerStripeEvent_again register)
    (registerStripeEvent_found register) unsettled valid

/-- The three outcomes of an unsettled invoice event. -/
theorem applyStripeInvoiceProjection_unsettled {stripeSubscriptionId : String}
    (register : registerStripeEvent database input.event = .ok (registered, event, inserted))
    (unsettled : event.isSettled = false) (valid : IsNonNegativeSafeInteger input.now)
    (text : requiredStripeText input.stripeSubscriptionId "stripeSubscriptionId" 255 =
      .ok stripeSubscriptionId)
    (found : lookup (·.stripeSubscriptionId) registered.tables.subscriptions stripeSubscriptionId =
      some subscription)
    (trimmed : trim subscription.organizationId = subscription.organizationId) :
    ∃ message, (applyStripeInvoiceProjection database input).1.tables =
      if invoiceEventIsNewer subscription event = false then
        completedTables event.stripeEventId .ignored message input.now registered.tables
      else if AccessFits (seatStarts registered.tables subscription.organizationId)
          (subscription.invoiced input.type event input.now) input.now then
        completedTables event.stripeEventId .applied message input.now
          (reconciled (subscription.invoiced input.type event input.now) input.now
            (invoiceSubscription (subscription.invoiced input.type event input.now) registered.tables))
      else completedTables event.stripeEventId .failed message input.now registered.tables := by
  have resolved : getBillingSubscriptionByStripeId registered input.stripeSubscriptionId =
      .ok (some subscription) := bind_ok.mpr ⟨stripeSubscriptionId, text, congrArg _ found⟩
  have timestamp : stripeTimestamp input.now "processedAt" = .ok input.now :=
    stripeTimestamp_ok.mpr ⟨valid, rfl⟩
  have recorded := registerStripeEvent_found register
  have stored := lookup_mem found
  have nonneg := registerStripeEvent_nonneg register
  have returned {after : CloudDatabase} {result : StripeBillingProjectionResult}
      (projected : invoiceProjection registered event inserted input input.now = .ok (after, result)) :
      applyStripeInvoiceProjection database input = (after, .ok result) := by
    unfold applyStripeInvoiceProjection
    rw [register]
    simp only [resolved, unsettled, Bool.false_eq_true, and_false, if_false, timestamp, projected]
  have failed {failure : Failure}
      (rejected : invoiceProjection registered event inserted input input.now = .error failure) :
      applyStripeInvoiceProjection database input =
        recordInvoiceFailure registered event input failure input.now := by
    unfold applyStripeInvoiceProjection
    rw [register]
    simp only [resolved, unsettled, Bool.false_eq_true, and_false, if_false, timestamp, rejected]
  let invoiced := subscription.invoiced input.type event input.now
  have outcomeOf (result : StripeEventProcessingResult) (settled : result ≠ .pending)
      {middle : CloudDatabase} (message : String)
      (events : lookup (·.stripeEventId) middle.tables.stripeEvents event.stripeEventId = some event) :
      ∃ after row, completeStripeEvent middle event.stripeEventId result message input.now =
          .ok (after, row) ∧
        after.tables = completedTables event.stripeEventId result message input.now middle.tables := by
    obtain ⟨after, complete⟩ := completeStripeEvent_known message input.now events settled
    exact ⟨after, _, complete, completeStripeEvent_ok complete⟩
  by_cases stale : invoiceEventIsNewer subscription event = false
  · obtain ⟨after, row, complete, tables⟩ :=
      outcomeOf .ignored nofun "stale invoice projection" recorded
    have projected : ∃ result, invoiceProjection registered event inserted input input.now =
        .ok (after, result) := by
      unfold invoiceProjection
      rw [resolved]
      simp only [bind, Except.bind, if_pos stale, complete]
      exact ⟨_, rfl⟩
    obtain ⟨result, projected⟩ := projected
    refine ⟨"stale invoice projection", ?_⟩
    rw [returned projected, if_pos stale]
    exact tables
  · by_cases fits : AccessFits (seatStarts registered.tables subscription.organizationId) invoiced
        input.now
    · have middle : schema.Consistent (invoiceSubscription invoiced registered.tables) :=
        invoiceSubscription_consistent stored nonneg
      let between : CloudDatabase := ⟨_, middle⟩
      have refreshed : schema.Consistent (reconciled invoiced input.now between.tables) :=
        reconciled_consistent_iff_fits.mpr fits
      let written : CloudDatabase := ⟨_, refreshed⟩
      have project : projectInvoice registered invoiced input.now = .ok (written, invoiced) :=
        (projectInvoice_iff stored trimmed nonneg).mpr ⟨rfl, rfl⟩
      have events : lookup (·.stripeEventId) written.tables.stripeEvents event.stripeEventId =
          some event := recorded
      let message := invoiceMessage input.type invoiced.paymentState
      obtain ⟨after, row, complete, tables⟩ := outcomeOf .applied nofun message events
      have projected : ∃ result, invoiceProjection registered event inserted input input.now =
          .ok (after, result) := by
        unfold invoiceProjection
        rw [resolved]
        simp only [bind, Except.bind, if_neg stale]
        rw [project]
        simp only
        rw [complete]
        exact ⟨_, rfl⟩
      obtain ⟨result, projected⟩ := projected
      refine ⟨message, ?_⟩
      rw [returned projected, if_neg stale, if_pos fits]
      exact tables
    · obtain ⟨failure, refused⟩ := projectInvoice_error stored trimmed nonneg fits
      have rejected : invoiceProjection registered event inserted input input.now = .error failure := by
        unfold invoiceProjection
        rw [resolved]
        simp only [bind, Except.bind, if_neg stale]
        rw [refused]
      refine ⟨failure.message, ?_⟩
      rw [failed rejected, if_neg stale, if_neg fits]
      exact recordInvoiceFailure_known (registerStripeEvent_again register) recorded unsettled valid

end Invoice

end NebulaCloud.Billing
