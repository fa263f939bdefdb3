import NebulaCloud.Database.Billing

namespace NebulaCloud.Billing

open NebulaCloud.Data NebulaCloud.Database NebulaCloud.Platform

/-! # When a delivery goes through

The projections of `Database.Billing` seen from the other side: which rows let each
statement commit. -/

section Parts

variable {database : CloudDatabase} {source : ProjectionSource}

theorem upsertBillingCustomer_consistent {candidate : BillingCustomerRow}
    (checks : candidate.Checks) (known : candidate.organizationId ∈ database.tables.organizationIds)
    (free : ∀ customer ∈ database.tables.billingCustomers,
      customer.organizationId ≠ candidate.organizationId →
      customer.stripeCustomerId ≠ candidate.stripeCustomerId) :
    schema.Consistent (upsertBillingCustomer candidate database.tables).1 := by
  have distinct := database.consistent .customerOrganization
  intro constraint
  have held := database.consistent constraint
  cases constraint with
  | customerOrganization =>
      exact nodup_upsert distinct distinct (fun _ => rfl) fun _ _ different => different
  | customerStripeId => exact nodup_upsert distinct held (fun _ => rfl) free
  | customerOwner => exact forall_upsert held known fun _ _ => known
  | customerChecks => exact forall_upsert held checks fun _ _ => checks
  | _ => exact held

theorem upsertSubscription_consistent {candidate : BillingSubscriptionRow}
    (checks : candidate.Checks) (known : candidate.organizationId ∈ database.tables.organizationIds)
    (free : ∀ subscription ∈ database.tables.subscriptions,
      subscription.organizationId ≠ candidate.organizationId →
      subscription.stripeSubscriptionId ≠ candidate.stripeSubscriptionId) :
    schema.Consistent (upsertSubscription candidate database.tables).1 := by
  have distinct := database.consistent .subscriptionOrganization
  intro constraint
  have held := database.consistent constraint
  cases constraint with
  | subscriptionOrganization =>
      exact nodup_upsert distinct distinct (fun _ => rfl) fun _ _ different => different
  | subscriptionStripeId => exact nodup_upsert distinct held (fun _ => rfl) free
  | subscriptionOwner => exact forall_upsert held known fun _ _ => known
  | subscriptionChecks =>
      refine forall_upsert held checks ?_
      intro stored storedMember
      obtain ⟨seats, subscriptionId, priceId, status, periodEnd, _⟩ := checks
      obtain ⟨_, _, _, _, _, graceEnd⟩ := held stored storedMember
      exact ⟨seats, subscriptionId, priceId, status, periodEnd, graceEnd⟩
  | _ => exact held

theorem billingCustomerCandidate_ok {input : BillingCustomerInput} {candidate : BillingCustomerRow}
    (accepted : billingCustomerCandidate source input = .ok candidate) :
    candidate.organizationId = source.organizationId ∧
      candidate.stripeCustomerId = trim input.stripeCustomerId ∧
      candidate.lastEventCreatedAt = source.eventCreatedAt ∧
      candidate.lastStripeEventId = source.stripeEventId ∧ candidate.Checks := by
  obtain ⟨_, _, accepted⟩ := bind_ok.mp accepted
  obtain ⟨_, _, accepted⟩ := bind_ok.mp accepted
  obtain ⟨_, text, accepted⟩ := bind_ok.mp accepted
  simp only at accepted
  split at accepted
  · rename_i checks
    cases accepted
    exact ⟨rfl, (requiredStripeText_ok text).1, rfl, rfl, checks⟩
  · cases accepted

/-- The clock of the projection is only recorded. -/
theorem billingCustomerCandidate_updatedAt {input : BillingCustomerInput}
    {candidate : BillingCustomerRow} (updatedAt : Int)
    (accepted : billingCustomerCandidate source input = .ok candidate) :
    billingCustomerCandidate { source with updatedAt } input =
      .ok { candidate with createdAt := updatedAt, updatedAt } := by
  obtain ⟨billingEmail, email, accepted⟩ := bind_ok.mp accepted
  obtain ⟨country, code, accepted⟩ := bind_ok.mp accepted
  obtain ⟨stripeCustomerId, text, accepted⟩ := bind_ok.mp accepted
  simp only at accepted
  split at accepted
  · rename_i checks
    cases accepted
    refine bind_ok.mpr ⟨billingEmail, email, bind_ok.mpr ⟨country, code, ?_⟩⟩
    exact bind_ok.mpr ⟨stripeCustomerId, text, if_pos checks⟩
  · cases accepted

theorem billingSubscriptionCandidate_row {input : BillingSubscriptionInput}
    {candidate : BillingSubscriptionRow}
    (accepted : billingSubscriptionCandidate source input = .ok candidate) :
    candidate.stripeSubscriptionId = trim input.stripeSubscriptionId ∧ candidate.Checks ∧
      candidate.paymentState = .current ∧ candidate.graceEndsAt = none ∧
      candidate.lastInvoiceEventCreatedAt = none ∧ candidate.lastInvoiceEventId = none := by
  obtain ⟨_, text, accepted⟩ := bind_ok.mp accepted
  obtain ⟨_, _, accepted⟩ := bind_ok.mp accepted
  obtain ⟨_, _, accepted⟩ := bind_ok.mp accepted
  simp only at accepted
  split at accepted
  · rename_i checks
    cases accepted
    exact ⟨(requiredStripeText_ok text).1, checks, rfl, rfl, rfl, rfl⟩
  · cases accepted

theorem billingSubscriptionCandidate_updatedAt {input : BillingSubscriptionInput}
    {candidate : BillingSubscriptionRow} (updatedAt : Int)
    (accepted : billingSubscriptionCandidate source input = .ok candidate) :
    billingSubscriptionCandidate { source with updatedAt } input =
      .ok { candidate with createdAt := updatedAt, updatedAt } := by
  obtain ⟨stripeSubscriptionId, text, accepted⟩ := bind_ok.mp accepted
  obtain ⟨stripePriceId, price, accepted⟩ := bind_ok.mp accepted
  obtain ⟨status, statusText, accepted⟩ := bind_ok.mp accepted
  simp only at accepted
  split at accepted
  · rename_i checks
    cases accepted
    refine bind_ok.mpr ⟨stripeSubscriptionId, text, bind_ok.mpr ⟨stripePriceId, price, ?_⟩⟩
    exact bind_ok.mpr ⟨status, statusText, if_pos checks⟩
  · cases accepted

/-- A well-formed customer part of a known organization is projected when no other
organization has its customer. -/
theorem projectBillingCustomer_succeeds {input : BillingCustomerInput}
    {candidate : BillingCustomerRow} (trimmed : trim source.organizationId = source.organizationId)
    (accepted : billingCustomerCandidate source input = .ok candidate)
    (consistent : schema.Consistent (upsertBillingCustomer candidate database.tables).1) :
    ∃ after customer, projectBillingCustomer database source input =
      .ok (after, customer, (upsertBillingCustomer candidate database.tables).2) := by
  have organization := (billingCustomerCandidate_ok accepted).1
  let after : CloudDatabase := ⟨_, consistent⟩
  let customer := upserted BillingCustomerRow.supersedes BillingCustomerRow.replaced candidate
    (lookup (·.organizationId) database.tables.billingCustomers source.organizationId)
  have found : getBillingCustomer after source.organizationId = some customer := by
    rw [getBillingCustomer, trimmed]
    exact (lookup_upsertBillingCustomer candidate database.tables source.organizationId).trans
      (if_pos organization)
  refine ⟨after, customer, bind_ok.mpr ⟨candidate, accepted, ?_⟩⟩
  refine bind_ok.mpr ⟨after, Store.execute_of_consistent consistent, ?_⟩
  simp only [found]

/-- A subscription part is projected when it passes its checks and both statements
leave a consistent database. -/
theorem projectBillingSubscription_succeeds {input : BillingSubscriptionInput}
    {candidate subscription : BillingSubscriptionRow}
    (checked : checkSubscriptionInput database source.organizationId input = .ok ())
    (accepted : billingSubscriptionCandidate source input = .ok candidate)
    (consistent : schema.Consistent (upsertSubscription candidate database.tables).1)
    (found : lookup (·.organizationId) (upsertSubscription candidate database.tables).1.subscriptions
      (trim source.organizationId) = some subscription)
    (refreshed : schema.Consistent (reconciled subscription source.updatedAt
      (upsertSubscription candidate database.tables).1)) :
    ∃ after, projectBillingSubscription database source input =
      .ok (after, subscription, (upsertSubscription candidate database.tables).2) := by
  let stored : CloudDatabase := ⟨_, consistent⟩
  let after : CloudDatabase := ⟨_, refreshed⟩
  have resolved : getBillingSubscription stored source.organizationId = some subscription := found
  have reconcile : reconcileStripeAssignedEntitlements stored subscription source.updatedAt =
      .ok after := Store.execute_of_consistent refreshed
  refine ⟨after, bind_ok.mpr ⟨(), checked, bind_ok.mpr ⟨candidate, accepted, ?_⟩⟩⟩
  refine bind_ok.mpr ⟨stored, Store.execute_of_consistent consistent, ?_⟩
  simp only [resolved]
  exact bind_ok.mpr ⟨after, reconcile, rfl⟩

theorem projectCustomerPart_some {after : CloudDatabase} {input : BillingCustomerInput}
    {customer : BillingCustomerRow} {applied : Bool}
    (projected : projectBillingCustomer database source input = .ok (after, customer, applied)) :
    projectCustomerPart database source (some input) = .ok (after, some customer, applied) :=
  bind_ok.mpr ⟨(after, customer, applied), projected, rfl⟩

theorem projectSubscriptionPart_some {after : CloudDatabase} {input : BillingSubscriptionInput}
    {subscription : BillingSubscriptionRow} {applied : Bool}
    (projected : projectBillingSubscription database source input =
      .ok (after, subscription, applied)) :
    projectSubscriptionPart database source (some input) = .ok (after, some subscription, applied) :=
  bind_ok.mpr ⟨(after, subscription, applied), projected, rfl⟩

/-- The refresh is stored exactly when each seat ends after it starts. -/
theorem reconciled_consistent {subscription : BillingSubscriptionRow} {now : Int} :
    schema.Consistent (reconciled subscription now database.tables) ↔
      ∀ seat ∈ database.tables.entitlements,
        isAssignedSeat subscription.organizationId seat = true →
        ∀ endsAt ∈ (stripeEntitlementAccess subscription now).endsAt, seat.startsAt < endsAt := by
  let access := stripeEntitlementAccess subscription now
  constructor
  · intro consistent seat stored assigned endsAt ends
    have granted : seat.granted access now ∈ (reconciled subscription now database.tables).entitlements :=
      mem_updateWhere_of stored assigned
    exact (consistent .entitlementChecks _ granted).1 endsAt ends
  · intro fits constraint
    have held := database.consistent constraint
    cases constraint with
    | entitlementMember =>
        have keeps : ∀ seat : OperatorEntitlementRow,
            (seat.granted access now).membershipId = seat.membershipId := fun _ => rfl
        change ((updateWhere _ _ _).map _).Nodup
        rw [map_updateWhere keeps]
        exact held
    | entitlementOwner =>
        intro entitlement member
        obtain ⟨before, stored, changed⟩ := mem_updateWhere.mp member
        rw [← changed]
        split
        · exact held before stored
        · exact held before stored
    | entitlementChecks =>
        intro entitlement member
        obtain ⟨before, stored, changed⟩ := mem_updateWhere.mp member
        rw [← changed]
        split
        · rename_i assigned
          obtain ⟨_, paid, _⟩ := isAssignedSeat_iff.mp assigned
          refine ⟨fits before stored assigned, fun beta => ?_⟩
          exact absurd (paid.symm.trans beta) nofun
        · exact held before stored
    | _ => exact held

/-- Without a paid seat there is nothing to refresh. -/
theorem reconciled_of_noSeats {tables : Tables} {subscription : BillingSubscriptionRow}
    (free : assignedSeats tables subscription.organizationId = 0) (now : Int) :
    reconciled subscription now tables = tables := by
  have none : ∀ entitlement ∈ tables.entitlements,
      isAssignedSeat subscription.organizationId entitlement = false := by
    intro entitlement stored
    exact Bool.eq_false_iff.mpr (List.countP_eq_zero.mp free entitlement stored)
  unfold reconciled
  rw [updateWhere_of_none none]

end Parts

section Whole

variable {database registered : CloudDatabase} {input : StripeBillingProjectionInput}
  {event : StripeEventRow} {inserted : Bool}

/-- A redelivery of a settled event changes nothing. -/
theorem applyStripeBillingProjection_settled
    (register : registerStripeEvent database input.event = .ok (database, event, false))
    (settled : event.isSettled = true) :
    applyStripeBillingProjection database input =
      (database, .ok
        { duplicate := true
          processingResult := event.processingResult
          customer := getBillingCustomer database input.organizationId
          subscription := getBillingSubscription database input.organizationId }) := by
  unfold applyStripeBillingProjection
  rw [register]
  simp [settled]

/-- Any other delivery runs the transaction. -/
theorem applyStripeBillingProjection_unsettled
    (register : registerStripeEvent database input.event = .ok (registered, event, inserted))
    (unsettled : ¬ (inserted = false ∧ event.isSettled = true))
    (valid : IsNonNegativeSafeInteger input.now) :
    applyStripeBillingProjection database input =
      match billingProjection registered event inserted input input.now with
      | .ok (after, result) => (after, .ok result)
      | .error failure => recordBillingFailure registered event failure input.now := by
  have timestamp : stripeTimestamp input.now "processedAt" = .ok input.now :=
    stripeTimestamp_ok.mpr ⟨valid, rfl⟩
  unfold applyStripeBillingProjection
  rw [register]
  cases projected : billingProjection registered event inserted input input.now with
  | ok result => simp only [if_neg unsettled, timestamp, projected]
  | error failure => simp only [if_neg unsettled, timestamp, projected]

/-- A delivery that returns found the event settled or ran the transaction. -/
theorem applyStripeBillingProjection_ok {after : CloudDatabase}
    {result : StripeBillingProjectionResult}
    (applied : applyStripeBillingProjection database input = (after, .ok result)) :
    ∃ registered event inserted, registerStripeEvent database input.event =
        .ok (registered, event, inserted) ∧
      ((inserted = false ∧ event.isSettled = true ∧ after = registered) ∨
        (¬ (inserted = false ∧ event.isSettled = true) ∧
          billingProjection registered event inserted input input.now = .ok (after, result))) := by
  unfold applyStripeBillingProjection at applied
  split at applied
  · cases applied
  · rename_i registered event inserted register
    refine ⟨registered, event, inserted, register, ?_⟩
    split at applied
    · rename_i settled
      cases applied
      exact .inl ⟨settled.1, settled.2, rfl⟩
    · rename_i unsettled
      refine .inr ⟨unsettled, ?_⟩
      split at applied
      · cases applied
      · rename_i processedAt timestamp
        obtain rfl := (stripeTimestamp_ok.mp timestamp).2
        split at applied
        · rename_i projected
          cases applied
          exact projected
        · rename_i failure _
          unfold recordBillingFailure at applied
          split at applied <;> cases applied

end Whole

end NebulaCloud.Billing
