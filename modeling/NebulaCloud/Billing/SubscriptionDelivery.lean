import NebulaCloud.Billing.InvoiceDelivery

namespace NebulaCloud.Billing

open NebulaCloud.Data NebulaCloud.Database NebulaCloud.Platform

/-! # What a subscription delivery does

An unsettled event with a well-formed subscription part goes through exactly when its
quantity pays for the assigned seats and the seats fit the access it leaves. -/

/-- The row of the organization after the upsert of a candidate. -/
def subscriptionAfter (candidate : BillingSubscriptionRow) (tables : Tables) : BillingSubscriptionRow :=
  upserted BillingSubscriptionRow.supersedes BillingSubscriptionRow.replaced candidate
    (lookup (·.organizationId) tables.subscriptions candidate.organizationId)

/-- A subscription part that the validators and the table accept. -/
structure SubscriptionPart (registered : CloudDatabase) (event : StripeEventRow)
    (input : StripeBillingProjectionInput) (part : BillingSubscriptionInput)
    (candidate : BillingSubscriptionRow) : Prop where
  noCustomer : input.customer = none
  carried : input.subscription = some part
  named : trim input.organizationId ≠ ""
  known : trim input.organizationId ∈ registered.tables.organizationIds
  clock : IsNonNegativeSafeInteger input.now
  quantity : IsNonNegativeSafeInteger part.entitledSeats
  periodEnd : ∀ currentPeriodEnd ∈ part.currentPeriodEnd, IsNonNegativeSafeInteger currentPeriodEnd
  accepted : billingSubscriptionCandidate
    (projectionSource event (trim input.organizationId) input.now) part = .ok candidate
  free : ∀ subscription ∈ registered.tables.subscriptions,
    subscription.organizationId ≠ candidate.organizationId →
    subscription.stripeSubscriptionId ≠ candidate.stripeSubscriptionId

/-- A subscription part that the validators accept and whose upsert the table takes. -/
structure StorablePart (registered : CloudDatabase) (event : StripeEventRow)
    (input : StripeBillingProjectionInput) (part : BillingSubscriptionInput)
    (candidate : BillingSubscriptionRow) : Prop where
  noCustomer : input.customer = none
  carried : input.subscription = some part
  named : trim input.organizationId ≠ ""
  known : trim input.organizationId ∈ registered.tables.organizationIds
  quantity : IsNonNegativeSafeInteger part.entitledSeats
  periodEnd : ∀ currentPeriodEnd ∈ part.currentPeriodEnd, IsNonNegativeSafeInteger currentPeriodEnd
  accepted : billingSubscriptionCandidate
    (projectionSource event (trim input.organizationId) input.now) part = .ok candidate
  consistent : schema.Consistent (upsertSubscription candidate registered.tables).1

section Delivery

variable {database registered after : CloudDatabase} {event : StripeEventRow} {inserted : Bool}
  {input : StripeBillingProjectionInput} {part : BillingSubscriptionInput}
  {candidate : BillingSubscriptionRow}

theorem SubscriptionPart.owner (wellFormed : SubscriptionPart registered event input part candidate) :
    candidate.organizationId = trim input.organizationId :=
  (billingSubscriptionCandidate_ok wellFormed.accepted).1

theorem SubscriptionPart.consistent (wellFormed : SubscriptionPart registered event input part candidate) :
    schema.Consistent (upsertSubscription candidate registered.tables).1 := by
  have known : candidate.organizationId ∈ registered.tables.organizationIds := by
    rw [wellFormed.owner]
    exact wellFormed.known
  exact upsertSubscription_consistent (billingSubscriptionCandidate_row wellFormed.accepted).2.1 known
    wellFormed.free

theorem SubscriptionPart.storable (wellFormed : SubscriptionPart registered event input part candidate) :
    StorablePart registered event input part candidate where
  noCustomer := wellFormed.noCustomer
  carried := wellFormed.carried
  named := wellFormed.named
  known := wellFormed.known
  quantity := wellFormed.quantity
  periodEnd := wellFormed.periodEnd
  accepted := wellFormed.accepted
  consistent := wellFormed.consistent

theorem StorablePart.found (storable : StorablePart registered event input part candidate) :
    lookup (·.organizationId) (upsertSubscription candidate registered.tables).1.subscriptions
        (trim input.organizationId) = some (subscriptionAfter candidate registered.tables) := by
  have owner : candidate.organizationId = trim input.organizationId :=
    (billingSubscriptionCandidate_ok storable.accepted).1
  rw [← owner]
  exact (lookup_upsertSubscription candidate registered.tables candidate.organizationId).trans
    (if_pos rfl)

/-- A subscription event leaves no grace deadline that was not there. -/
theorem SubscriptionPart.carried_grace (wellFormed : SubscriptionPart registered event input part candidate) :
    ∀ graceEndsAt ∈ (subscriptionAfter candidate registered.tables).graceEndsAt,
      ∃ stored ∈ lookup (·.organizationId) registered.tables.subscriptions candidate.organizationId,
        graceEndsAt ∈ stored.graceEndsAt := by
  obtain ⟨_, _, _, noGrace, _⟩ := billingSubscriptionCandidate_row wellFormed.accepted
  intro graceEndsAt ends
  unfold subscriptionAfter at ends
  cases found : lookup (·.organizationId) registered.tables.subscriptions candidate.organizationId with
  | none =>
      rw [found, upserted, noGrace] at ends
      cases ends
  | some stored =>
      refine ⟨stored, rfl, ?_⟩
      rw [found, upserted] at ends
      split at ends <;> exact ends

/-- The transaction goes through exactly when the quantity and the seats fit. -/
theorem StorablePart.projection_ok (storable : StorablePart registered event input part candidate) :
    (∃ result, billingProjection registered event inserted input input.now = .ok (after, result)) ↔
      (assignedSeats registered.tables (trim input.organizationId) ≤ part.entitledSeats ∧
        AccessFits (seatStarts registered.tables (trim input.organizationId))
          (subscriptionAfter candidate registered.tables) input.now) ∧
      ∃ withSubscription row,
        withSubscription.tables = reconciled (subscriptionAfter candidate registered.tables) input.now
          (upsertSubscription candidate registered.tables).1 ∧
        completeStripeEvent withSubscription event.stripeEventId
          (projectionOutcome (upsertSubscription candidate registered.tables).2)
          (projectionMessage (upsertSubscription candidate registered.tables).2) input.now =
          .ok (after, row) := by
  let subscription := subscriptionAfter candidate registered.tables
  let middle : CloudDatabase := ⟨_, storable.consistent⟩
  have found := storable.found
  have fits : schema.Consistent (reconciled subscription input.now middle.tables) ↔
      AccessFits (seatStarts registered.tables (trim input.organizationId)) subscription input.now := by
    have owner : subscription.organizationId = trim input.organizationId := lookup_key found
    rw [reconciled_consistent_iff_fits, owner]
    rfl
  rw [billingProjection_ok]
  constructor
  · rintro ⟨_, withCustomer, customer, customerApplied, withSubscription, projected,
      subscriptionApplied, row, customerPart, subscriptionPart, complete⟩
    rw [storable.noCustomer] at customerPart
    cases customerPart
    rw [storable.carried] at subscriptionPart
    obtain ⟨⟨stored, row', changed⟩, project, returned⟩ := bind_ok.mp subscriptionPart
    cases returned
    obtain ⟨_, again, quantity, resolved, refreshed, applied⟩ := projectBillingSubscription_ok project
    obtain rfl := Except.ok.inj (storable.accepted.symm.trans again)
    have same : row' = subscription := by
      have twice : lookup (·.organizationId)
          (upsertSubscription candidate registered.tables).1.subscriptions
          (trim (trim input.organizationId)) = some row' := resolved
      rw [trim_trim] at twice
      exact Option.some.inj (twice.symm.trans found)
    subst same
    have consistent : schema.Consistent (reconciled subscription input.now middle.tables) := by
      have kept := withSubscription.consistent
      rw [refreshed] at kept
      exact kept
    rw [Bool.false_or, applied] at complete
    exact ⟨⟨quantity, fits.mp consistent⟩, withSubscription, row, refreshed, complete⟩
  · rintro ⟨⟨quantity, fit⟩, withSubscription, row, refreshed, complete⟩
    have checked : checkSubscriptionInput registered (projectionSource event
        (trim input.organizationId) input.now).organizationId part = .ok () :=
      checkSubscriptionInput_ok.mpr ⟨storable.quantity, quantity, storable.periodEnd⟩
    have resolved : lookup (·.organizationId)
        (upsertSubscription candidate registered.tables).1.subscriptions
        (trim (projectionSource event (trim input.organizationId) input.now).organizationId) =
          some subscription := by
      change lookup _ _ (trim (trim input.organizationId)) = _
      rw [trim_trim]
      exact found
    have refreshable : schema.Consistent (reconciled subscription
        (projectionSource event (trim input.organizationId) input.now).updatedAt
        (upsertSubscription candidate registered.tables).1) := fits.mpr fit
    obtain ⟨projected, project⟩ := projectBillingSubscription_succeeds checked storable.accepted
      storable.consistent resolved refreshable
    obtain ⟨_, again, _, _, projectedTables, _⟩ := projectBillingSubscription_ok project
    obtain rfl := Except.ok.inj (storable.accepted.symm.trans again)
    have same : projected = withSubscription := Store.ext (projectedTables.trans refreshed.symm)
    subst same
    have customerPart : projectCustomerPart registered
        (projectionSource event (trim input.organizationId) input.now) input.customer =
        .ok (registered, getBillingCustomer registered (trim input.organizationId), false) := by
      rw [storable.noCustomer]
      rfl
    have subscriptionPart : projectSubscriptionPart registered
        (projectionSource event (trim input.organizationId) input.now) input.subscription =
        .ok (projected, some subscription, (upsertSubscription candidate registered.tables).2) := by
      rw [storable.carried]
      exact projectSubscriptionPart_some project
    refine ⟨requireBillingOrganization_ok.mpr ⟨storable.named, storable.known⟩, registered, _, false,
      projected, some subscription, _, row, customerPart, subscriptionPart, ?_⟩
    rw [Bool.false_or]
    exact complete

/-- A rejected projection is recorded on its event. -/
theorem recordBillingFailure_known {failure : Failure} {now : Int}
    (recorded : lookup (·.stripeEventId) registered.tables.stripeEvents event.stripeEventId =
      some event) :
    (recordBillingFailure registered event failure now).1.tables =
      completedTables event.stripeEventId .failed failure.message now registered.tables := by
  have outcome : StripeEventProcessingResult.failed ≠ .pending := nofun
  obtain ⟨after, complete⟩ := completeStripeEvent_known failure.message now recorded outcome
  unfold recordBillingFailure
  rw [complete]
  exact completeStripeEvent_ok complete

/-- The two outcomes of an unsettled subscription event. -/
theorem applyStripeBillingProjection_subscription
    (register : registerStripeEvent database input.event = .ok (registered, event, inserted))
    (unsettled : event.isSettled = false)
    (wellFormed : SubscriptionPart registered event input part candidate) :
    ∃ message, (applyStripeBillingProjection database input).1.tables =
      if assignedSeats registered.tables (trim input.organizationId) ≤ part.entitledSeats ∧
          AccessFits (seatStarts registered.tables (trim input.organizationId))
            (subscriptionAfter candidate registered.tables) input.now then
        completedTables event.stripeEventId
          (projectionOutcome (upsertSubscription candidate registered.tables).2) message input.now
          (reconciled (subscriptionAfter candidate registered.tables) input.now
            (upsertSubscription candidate registered.tables).1)
      else completedTables event.stripeEventId .failed message input.now registered.tables := by
  have unsettled' : ¬ (inserted = false ∧ event.isSettled = true) := by simp [unsettled]
  have recorded := registerStripeEvent_found register
  by_cases fit : assignedSeats registered.tables (trim input.organizationId) ≤ part.entitledSeats ∧
      AccessFits (seatStarts registered.tables (trim input.organizationId))
        (subscriptionAfter candidate registered.tables) input.now
  · let applied := (upsertSubscription candidate registered.tables).2
    have settled : projectionOutcome applied ≠ .pending := by
      cases applied <;> nofun
    have owner : (subscriptionAfter candidate registered.tables).organizationId =
        trim input.organizationId := lookup_key wellFormed.storable.found
    let middle : CloudDatabase := ⟨_, wellFormed.consistent⟩
    have refreshed : schema.Consistent
        (reconciled (subscriptionAfter candidate registered.tables) input.now middle.tables) := by
      rw [reconciled_consistent_iff_fits, owner]
      exact fit.2
    let withSubscription : CloudDatabase := ⟨_, refreshed⟩
    have events : lookup (·.stripeEventId) withSubscription.tables.stripeEvents event.stripeEventId =
        some event := recorded
    obtain ⟨after, complete⟩ :=
      completeStripeEvent_known (projectionMessage applied) input.now events settled
    obtain ⟨result, projected⟩ : ∃ result,
        billingProjection registered event inserted input input.now = .ok (after, result) :=
      wellFormed.storable.projection_ok.mpr ⟨fit, withSubscription, _, rfl, complete⟩
    refine ⟨projectionMessage applied, ?_⟩
    rw [applyStripeBillingProjection_unsettled register unsettled' wellFormed.clock, projected, if_pos fit]
    exact completeStripeEvent_ok complete
  · cases projected : billingProjection registered event inserted input input.now with
    | ok outcome => exact absurd (wellFormed.storable.projection_ok.mp ⟨outcome.2, projected⟩).1 fit
    | error failure =>
        refine ⟨failure.message, ?_⟩
        rw [applyStripeBillingProjection_unsettled register unsettled' wellFormed.clock, projected,
          if_neg fit]
        exact recordBillingFailure_known recorded

end Delivery

end NebulaCloud.Billing
