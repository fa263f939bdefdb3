import NebulaCloud.Billing.SeatCapacity

namespace NebulaCloud.Billing

open NebulaCloud.Data NebulaCloud.Database NebulaCloud.Platform

/-! # The entitlement row as a cache of the subscription

A seat stores what the subscription granted when it was last computed.  Time may
pass before the next computation; the stored end covers exactly that time. -/

/-- Access computed once decides for every later time: it lasts to its end, and
no longer than a fresh computation grants it. -/
theorem access_lasts (subscription : BillingSubscriptionRow) {computedAt now : Int}
    (later : computedAt ≤ now) :
    (((stripeEntitlementAccess subscription computedAt).state = .active ∨
        (stripeEntitlementAccess subscription computedAt).state = .grace) ∧
      ∀ endsAt ∈ (stripeEntitlementAccess subscription computedAt).endsAt, now < endsAt) ↔
      (stripeEntitlementAccess subscription now).state ≠ .suspended := by
  unfold stripeEntitlementAccess
  cases payment : subscription.paymentState with
  | grace =>
      cases graceEndsAt : subscription.graceEndsAt with
      | none => simp
      | some deadline =>
          by_cases lasting : now < deadline
          · have before : computedAt < deadline := by omega
            simp [lasting, before]
          · by_cases before : computedAt < deadline
            · simp [lasting, before]
            · simp [lasting, before]
  | current =>
      by_cases paid : subscription.status = "active" ∨ subscription.status = "trialing"
      · cases periodEnd : subscription.currentPeriodEnd with
        | none => simp [paid]
        | some currentPeriodEnd =>
            by_cases lasting : now < currentPeriodEnd
            · have before : computedAt < currentPeriodEnd := by omega
              simp [paid, lasting, before]
            · by_cases before : computedAt < currentPeriodEnd
              · simp [paid, lasting, before]
              · simp [paid, lasting, before]
      · simp [paid]
  | delinquent => simp

/-! ## Runs under a clock -/

structure BillingState where
  database : CloudDatabase
  clock : Int

/-- The processing time of the Stripe and seat operations. -/
def SeatOperation.processedAt : SeatOperation → Option Int
  | .projectBilling input => some input.now
  | .projectInvoice input => some input.now
  | .assignSeat options => some options.now
  | .revokeSeat options => some options.now
  | .upsertEntitlement _ | .revokeEntitlement _ | .deleteMember _ _ => none

/-- Subscription events, invoice events, assignments and revocations in any order,
none earlier than the one before. -/
def billing : System BillingState SeatOperation where
  Initial state := TrimmedOrganizations state.database.tables ∧ NoSeats state.database.tables
  Enabled state operation := ∃ now ∈ operation.processedAt, state.clock ≤ now
  step state operation :=
    { database := perform state.database operation
      clock := operation.processedAt.getD state.clock }

/-- The seat stores the access that its organization's subscription grants, as
computed at a time no later than the clock. -/
structure CachedSeat (clock : Int) (tables : Tables) (entitlement : OperatorEntitlementRow) : Prop where
  membership : trim entitlement.membershipId = entitlement.membershipId
  started : entitlement.startsAt ≤ clock
  computed : ∃ subscription,
    lookup (·.organizationId) tables.subscriptions entitlement.organizationId = some subscription ∧
      ∃ computedAt ≤ clock, stripeEntitlementAccess subscription computedAt =
        ⟨entitlement.state, entitlement.endsAt⟩

structure CacheInvariant (clock : Int) (tables : Tables) : Prop where
  trimmed : TrimmedOrganizations tables
  cached : ∀ entitlement ∈ tables.entitlements, entitlement.source = .stripe →
    entitlement.state ≠ .revoked → CachedSeat clock tables entitlement

section Steps

variable {clock now : Int} {before after tables : Tables}

theorem CachedSeat.later {entitlement : OperatorEntitlementRow}
    (cached : CachedSeat clock tables entitlement) (later : clock ≤ now) :
    CachedSeat now tables entitlement := by
  obtain ⟨subscription, found, computedAt, past, access⟩ := cached.computed
  exact
    { membership := cached.membership
      started := Int.le_trans cached.started later
      computed := ⟨subscription, found, computedAt, Int.le_trans past later, access⟩ }

theorem CacheInvariant.later (invariant : CacheInvariant clock tables) (later : clock ≤ now) :
    CacheInvariant now tables where
  trimmed := invariant.trimmed
  cached entitlement stored source state :=
    (invariant.cached entitlement stored source state).later later

theorem CacheInvariant.of_sameSeats (same : SameSeats before after)
    (invariant : CacheInvariant clock before) : CacheInvariant clock after := by
  obtain ⟨_, _, _, rfl⟩ := same
  refine ⟨invariant.trimmed, ?_⟩
  intro entitlement stored source state
  have cached := invariant.cached entitlement stored source state
  exact ⟨cached.membership, cached.started, cached.computed⟩

/-- A write to one subscription keeps the cache once the seats of that
subscription are refreshed. -/
theorem CacheInvariant.reconciled {subscription : BillingSubscriptionRow}
    (invariant : CacheInvariant now before)
    (sameOrganizations : tables.organizationIds = before.organizationIds)
    (sameEntitlements : tables.entitlements = before.entitlements)
    (found : lookup (·.organizationId) tables.subscriptions subscription.organizationId =
      some subscription)
    (others : ∀ organizationId, organizationId ≠ subscription.organizationId →
      lookup (·.organizationId) tables.subscriptions organizationId =
        lookup (·.organizationId) before.subscriptions organizationId) :
    CacheInvariant now (reconciled subscription now tables) where
  trimmed := by
    intro organizationId known
    exact invariant.trimmed organizationId (sameOrganizations ▸ known)
  cached := by
    intro entitlement stored source state
    obtain ⟨current, currentStored, changed⟩ := mem_updateWhere.mp stored
    rw [sameEntitlements] at currentStored
    by_cases seat : isAssignedSeat subscription.organizationId current = true
    · rw [if_pos seat] at changed
      subst changed
      obtain ⟨organization, currentSource, currentState⟩ := isAssignedSeat_iff.mp seat
      have cached := invariant.cached current currentStored currentSource currentState
      exact
        { membership := cached.membership
          started := cached.started
          computed := ⟨subscription, organization ▸ found, now, Int.le_refl now, rfl⟩ }
    · rw [if_neg seat] at changed
      subst changed
      have cached := invariant.cached current currentStored source state
      obtain ⟨own, ownFound, computedAt, past, access⟩ := cached.computed
      have different : current.organizationId ≠ subscription.organizationId :=
        fun same => seat (isAssignedSeat_iff.mpr ⟨same, source, state⟩)
      exact
        { membership := cached.membership
          started := cached.started
          computed := ⟨own, (others _ different).trans ownFound, computedAt, past, access⟩ }

theorem CacheInvariant.projectSubscription {database after : CloudDatabase}
    {source : ProjectionSource} {input : BillingSubscriptionInput}
    {subscription : BillingSubscriptionRow} {applied : Bool} (clocked : source.updatedAt = now)
    (trimmed : trim source.organizationId = source.organizationId)
    (projected : projectBillingSubscription database source input =
      .ok (after, subscription, applied)) (invariant : CacheInvariant now database.tables) :
    CacheInvariant now after.tables := by
  obtain ⟨candidate, accepted, _, found, written, _⟩ := projectBillingSubscription_ok projected
  obtain ⟨organization, _⟩ := billingSubscriptionCandidate_ok accepted
  rw [trimmed] at found
  have own : subscription.organizationId = source.organizationId := lookup_key found
  rw [written, clocked]
  refine invariant.reconciled rfl rfl (own ▸ found) ?_
  intro organizationId different
  rw [lookup_upsertSubscription, organization, if_neg (own ▸ different.symm)]

theorem CacheInvariant.projectInvoice {database after : CloudDatabase}
    {subscription updated : BillingSubscriptionRow} {type : InvoiceEventType}
    {event : StripeEventRow} (stored : subscription ∈ database.tables.subscriptions)
    (projected : projectInvoice database (subscription.invoiced type event now) now =
      .ok (after, updated)) (invariant : CacheInvariant now database.tables) :
    CacheInvariant now after.tables := by
  obtain ⟨found, written⟩ := projectInvoice_ok projected
  have known := database.consistent .subscriptionOwner subscription stored
  have trimmed : trim (subscription.invoiced type event now).organizationId =
      subscription.organizationId := invariant.trimmed subscription.organizationId known
  rw [trimmed] at found
  have own : updated.organizationId = subscription.organizationId := lookup_key found
  rw [written]
  refine invariant.reconciled rfl rfl (own ▸ found) ?_
  intro organizationId different
  rw [lookup_invoiceSubscription]
  cases other : lookup (·.organizationId) database.tables.subscriptions organizationId with
  | none => rfl
  | some row =>
      have rowOrganization : row.organizationId = organizationId := lookup_key other
      have unselected : ¬ row.organizationId =
          (subscription.invoiced type event now).organizationId := by
        intro same
        exact different (rowOrganization.symm.trans (same.trans own.symm))
      simp [unselected]

theorem CacheInvariant.assignSeat {database after : CloudDatabase}
    {options : StripeOperatorSeatOptions} {entitlement : OperatorEntitlementRow}
    (assigned : assignStripeOperatorSeat database options = .ok (after, entitlement))
    (invariant : CacheInvariant options.now database.tables) :
    CacheInvariant options.now after.tables := by
  obtain ⟨_, target, subscription, found, _, written⟩ := assignStripeOperatorSeat_ok assigned
  apply CacheInvariant.of_sameSeats written
  refine ⟨invariant.trimmed, ?_⟩
  intro seat stored source state
  rcases (mem_upsertEntitlement (database.consistent .entitlementMember)).mp stored with
    rfl | ⟨kept, _⟩
  · have trimmed := invariant.trimmed options.organizationId (organization_of_isSeatTarget target)
    rw [getBillingSubscription, trimmed] at found
    exact
      { membership := trim_trim options.membershipId
        started := Int.le_refl options.now
        computed := ⟨subscription, found, options.now, Int.le_refl options.now, rfl⟩ }
  · have cached := invariant.cached seat kept source state
    exact ⟨cached.membership, cached.started, cached.computed⟩

theorem CacheInvariant.revokeWhere (invariant : CacheInvariant clock tables)
    (selected : OperatorEntitlementRow → Bool) (timestamp : Int) :
    CacheInvariant clock (revokeWhere selected timestamp tables) where
  trimmed := invariant.trimmed
  cached := by
    intro entitlement stored source state
    obtain ⟨current, currentStored, changed⟩ := mem_updateWhere.mp stored
    split at changed
    · subst changed
      exact absurd rfl state
    · subst changed
      have cached := invariant.cached current currentStored source state
      exact ⟨cached.membership, cached.started, cached.computed⟩

/-- Every operation leaves a cache that is right at its processing time. -/
theorem CacheInvariant.step {state : BillingState} {operation : SeatOperation}
    (enabled : billing.Enabled state operation)
    (invariant : CacheInvariant state.clock state.database.tables) :
    CacheInvariant (billing.step state operation).clock
      (billing.step state operation).database.tables := by
  obtain ⟨now, processed, later⟩ := enabled
  have current := invariant.later later
  have clock : operation.processedAt.getD state.clock = now := by
    rw [Option.mem_def.mp processed]
    rfl
  change CacheInvariant (operation.processedAt.getD state.clock)
    (perform state.database operation).tables
  rw [clock]
  cases operation with
  | projectBilling input =>
      cases processed
      rw [perform]
      exact applyStripeBillingProjection_preserves (CacheInvariant input.now)
        (fun _ _ => .of_sameSeats)
        (fun _ _ _ _ _ _ clocked trimmed projected => .projectSubscription clocked trimmed projected)
        current
  | projectInvoice input =>
      cases processed
      rw [perform]
      exact applyStripeInvoiceProjection_preserves (CacheInvariant input.now)
        (fun _ _ => .of_sameSeats)
        (fun _ _ _ _ _ stored projected => .projectInvoice stored projected) current
  | assignSeat options =>
      cases processed
      exact commit_keeps (CacheInvariant options.now) current
        fun _ _ assigned => current.assignSeat assigned
  | revokeSeat options =>
      cases processed
      apply commit_keeps (CacheInvariant options.now) current
      intro after _ revoked
      exact .of_sameSeats (revokeStripeOperatorSeat_ok revoked) (current.revokeWhere _ _)
  | upsertEntitlement input => cases processed
  | revokeEntitlement input => cases processed
  | deleteMember memberId now => cases processed

end Steps

/-- In every reachable state and at every time from the clock on, a seat of an
enabled member is active exactly when its organization's subscription, computed
afresh, is not suspended. -/
theorem cachedAccess_of_reachable {state : BillingState} (reachable : billing.Reachable state)
    {entitlement : OperatorEntitlementRow}
    (stored : entitlement ∈ state.database.tables.entitlements) (source : entitlement.source = .stripe)
    (unrevoked : entitlement.state ≠ .revoked)
    (enabled : memberDisabled state.database.tables entitlement.membershipId = false)
    {now : Int} (later : state.clock ≤ now) (timestamp : IsNonNegativeSafeInteger now) :
    ∃ subscription,
      getBillingSubscription state.database entitlement.organizationId = some subscription ∧
      (hasActiveOperatorEntitlement state.database entitlement.membershipId
          entitlement.organizationId now = true ↔
        (stripeEntitlementAccess subscription now).state ≠ .suspended) := by
  have invariant : CacheInvariant state.clock state.database.tables := by
    apply reachable.invariant fun state : BillingState =>
      CacheInvariant state.clock state.database.tables
    · intro state initial
      refine ⟨initial.1, ?_⟩
      intro entitlement stored source state
      exact absurd ⟨source, state⟩ (initial.2 entitlement stored)
    · intro state operation enabled invariant
      exact invariant.step enabled
  have cached := invariant.cached entitlement stored source unrevoked
  obtain ⟨subscription, found, computedAt, past, access⟩ := cached.computed
  obtain ⟨member, memberStored, _, memberOrganization⟩ :=
    state.database.consistent .entitlementOwner entitlement stored
  have known := state.database.consistent .memberOrganization member memberStored
  rw [memberOrganization] at known
  have trimmed := invariant.trimmed entitlement.organizationId known
  have lasts := access_lasts subscription (Int.le_trans past later)
  rw [access] at lasts
  refine ⟨subscription, by rw [getBillingSubscription, trimmed, found], ?_⟩
  rw [hasActiveOperatorEntitlement_iff stored cached.membership trimmed enabled timestamp, ← lasts]
  have started : entitlement.startsAt ≤ now := Int.le_trans cached.started later
  simp only [OperatorEntitlementRow.ActiveAt, started, true_and]

section Sample

def failedPayment : StripeInvoiceProjectionInput where
  stripeEventId := "evt_2"
  type := .paymentFailed
  eventCreatedAt := 40
  receivedAt := 45
  stripeSubscriptionId := "sub_1"
  now := 50

/-- A seat is assigned, and then a payment fails. -/
def graceRun : List SeatOperation :=
  [.projectBilling (subscriptionEvent "evt_1" 10 2 20), .assignSeat (seatFor "m1" "audit-1" 30),
    .projectInvoice failedPayment]

def graceSeat : OperatorEntitlementRow where
  membershipId := "m1"
  organizationId := "acme"
  state := .grace
  source := .stripe
  startsAt := 30
  endsAt := some (40 + stripePaymentGraceDurationMs)
  createdAt := 30
  updatedAt := 50

theorem cachedAccess_inGrace :
    hasActiveOperatorEntitlement (billing.run ⟨customerTeam, 0⟩ graceRun).database "m1" "acme" 60 =
        true ∧
      ∃ subscription,
        getBillingSubscription (billing.run ⟨customerTeam, 0⟩ graceRun).database "acme" =
          some subscription ∧
        (hasActiveOperatorEntitlement (billing.run ⟨customerTeam, 0⟩ graceRun).database "m1" "acme"
            60 = true ↔
          (stripeEntitlementAccess subscription 60).state ≠ .suspended) := by
  have start : billing.Reachable ⟨customerTeam, 0⟩ := .initial ⟨by decide, by decide⟩
  have reachable : billing.Reachable (billing.run ⟨customerTeam, 0⟩ graceRun) :=
    start.run ⟨⟨20, rfl, by decide⟩, ⟨30, rfl, by decide⟩, ⟨50, rfl, by decide⟩, trivial⟩
  obtain ⟨active, stored, enabled⟩ :
      hasActiveOperatorEntitlement (billing.run ⟨customerTeam, 0⟩ graceRun).database "m1" "acme" 60 =
          true ∧
        graceSeat ∈ (billing.run ⟨customerTeam, 0⟩ graceRun).database.tables.entitlements ∧
        memberDisabled (billing.run ⟨customerTeam, 0⟩ graceRun).database.tables "m1" = false := by
    decide +kernel
  exact ⟨active, cachedAccess_of_reachable reachable stored rfl (by decide) enabled (by decide)
    (by decide)⟩

end Sample

end NebulaCloud.Billing
