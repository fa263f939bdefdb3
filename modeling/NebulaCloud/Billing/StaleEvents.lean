import NebulaCloud.Billing.SubscriptionDelivery

namespace NebulaCloud.Billing

open NebulaCloud.Data NebulaCloud.Database NebulaCloud.Platform

/-! # Late subscription events

A subscription snapshot that arrives after a newer one should be ignored.  It is
compared with the stored row only after its quantity was checked against the seats
that were assigned meanwhile. -/

/-- A well-formed event with a subscription part only, not newer than the stored
subscription. -/
structure LateEvent (database : CloudDatabase) (input : StripeBillingProjectionInput)
    (part : BillingSubscriptionInput) (registered : StripeEventRow) (stored : BillingSubscriptionRow) :
    Prop where
  noCustomer : input.customer = none
  carried : input.subscription = some part
  named : trim input.organizationId ≠ ""
  clock : IsNonNegativeSafeInteger input.now
  event : stripeEventCandidate input.event = .ok registered ∧ registered.Checks
  quantity : IsNonNegativeSafeInteger part.entitledSeats
  periodEnd : ∀ currentPeriodEnd ∈ part.currentPeriodEnd, IsNonNegativeSafeInteger currentPeriodEnd
  row : ∃ candidate, billingSubscriptionCandidate
    (projectionSource registered (trim input.organizationId) input.now) part = .ok candidate ∧
      candidate.Checks
  subscription : getBillingSubscription database input.organizationId = some stored
  late : eventSupersedes registered.eventCreatedAt registered.stripeEventId stored.lastEventCreatedAt
    stored.lastStripeEventId = false

/-- The delivery returns, the event is recorded as ignored and the subscription row
is as before. -/
def Ignored (database : CloudDatabase) (input : StripeBillingProjectionInput)
    (registered : StripeEventRow) (stored : BillingSubscriptionRow) : Prop :=
  (∃ result, (applyStripeBillingProjection database input).2 = .ok result) ∧
    (∃ event, lookup (·.stripeEventId)
        (applyStripeBillingProjection database input).1.tables.stripeEvents registered.stripeEventId =
          some event ∧ event.processingResult = .ignored) ∧
    getBillingSubscription (applyStripeBillingProjection database input).1 input.organizationId =
      some stored

/-- The quantity pays for the seats assigned by now, and each of them can take the
access that the stored subscription gives. -/
def SeatsFit (tables : Tables) (organizationId : String) (part : BillingSubscriptionInput)
    (stored : BillingSubscriptionRow) (now : Int) : Prop :=
  assignedSeats tables organizationId ≤ part.entitledSeats ∧
    ∀ seat ∈ tables.entitlements, isAssignedSeat organizationId seat = true →
      ∀ endsAt ∈ (stripeEntitlementAccess stored now).endsAt, seat.startsAt < endsAt

instance (tables : Tables) (organizationId : String) (part : BillingSubscriptionInput)
    (stored : BillingSubscriptionRow) (now : Int) :
    Decidable (SeatsFit tables organizationId part stored now) :=
  inferInstanceAs (Decidable (_ ∧ _))

/-- An event that is already recorded is the same one; it was ignored before, or it
was not settled and the seats fit. -/
def IgnoredWhen (tables : Tables) (input : StripeBillingProjectionInput)
    (part : BillingSubscriptionInput) (registered : StripeEventRow) (stored : BillingSubscriptionRow) :
    Prop :=
  match lookup (·.stripeEventId) tables.stripeEvents registered.stripeEventId with
  | none => SeatsFit tables (trim input.organizationId) part stored input.now
  | some event =>
      event.type = registered.type ∧ event.eventCreatedAt = registered.eventCreatedAt ∧
        (event.processingResult = .ignored ∨
          (event.isSettled = false ∧
            SeatsFit tables (trim input.organizationId) part stored input.now))

instance (tables : Tables) (input : StripeBillingProjectionInput) (part : BillingSubscriptionInput)
    (registered : StripeEventRow) (stored : BillingSubscriptionRow) :
    Decidable (IgnoredWhen tables input part registered stored) :=
  match known : lookup (·.stripeEventId) tables.stripeEvents registered.stripeEventId with
  | none => decidable_of_iff (SeatsFit tables (trim input.organizationId) part stored input.now)
      (by simp only [IgnoredWhen, known])
  | some event =>
      decidable_of_iff (event.type = registered.type ∧
          event.eventCreatedAt = registered.eventCreatedAt ∧
          (event.processingResult = .ignored ∨ (event.isSettled = false ∧
            SeatsFit tables (trim input.organizationId) part stored input.now)))
        (by simp only [IgnoredWhen, known])

section Steps

variable {database : CloudDatabase} {input : StripeBillingProjectionInput}
  {part : BillingSubscriptionInput} {registered : StripeEventRow} {stored : BillingSubscriptionRow}

/-- The upsert of a late event changes nothing. -/
theorem upsertSubscription_late {candidate : BillingSubscriptionRow} {tables : Tables}
    (found : lookup (·.organizationId) tables.subscriptions candidate.organizationId = some stored)
    (late : candidate.supersedes stored = false) :
    upsertSubscription candidate tables = (tables, false) := by
  simp [upsertSubscription, upsert, found, late]

/-- The candidate of a late event loses against the stored row. -/
theorem LateEvent.upsert (lateEvent : LateEvent database input part registered stored)
    {candidate : BillingSubscriptionRow} {tables : Tables}
    (sameSubscriptions : tables.subscriptions = database.tables.subscriptions)
    (accepted : billingSubscriptionCandidate
      (projectionSource registered (trim input.organizationId) input.now) part = .ok candidate) :
    upsertSubscription candidate tables = (tables, false) := by
  obtain ⟨organization, _, createdAt, identifier⟩ := billingSubscriptionCandidate_ok accepted
  have owner : candidate.organizationId = trim input.organizationId := organization
  have time : candidate.lastEventCreatedAt = registered.eventCreatedAt := createdAt
  have id : candidate.lastStripeEventId = registered.stripeEventId := identifier
  apply upsertSubscription_late
  · rw [sameSubscriptions, owner]
    exact lateEvent.subscription
  · rw [BillingSubscriptionRow.supersedes, time, id]
    exact lateEvent.late

/-- A late event is storable, since the table keeps the row that it has. -/
theorem LateEvent.storable (lateEvent : LateEvent database input part registered stored)
    {before : CloudDatabase} {event : StripeEventRow}
    (sameRows : ∃ stripeEvents, before.tables = { database.tables with stripeEvents })
    (sameId : event.stripeEventId = registered.stripeEventId)
    (sameTime : event.eventCreatedAt = registered.eventCreatedAt) :
    ∃ candidate, StorablePart before event input part candidate ∧
      upsertSubscription candidate before.tables = (before.tables, false) ∧
      subscriptionAfter candidate before.tables = stored := by
  obtain ⟨stripeEvents, written⟩ := sameRows
  obtain ⟨candidate, accepted, _⟩ := lateEvent.row
  have subscriptions : before.tables.subscriptions = database.tables.subscriptions := by rw [written]
  have source : projectionSource event (trim input.organizationId) input.now =
      projectionSource registered (trim input.organizationId) input.now := by
    rw [projectionSource, sameId, sameTime]
    rfl
  have nothing := lateEvent.upsert subscriptions accepted
  have known : trim input.organizationId ∈ before.tables.organizationIds := by
    have owned := database.consistent .subscriptionOwner stored (lookup_mem lateEvent.subscription)
    rw [lookup_key lateEvent.subscription] at owned
    rw [written]
    exact owned
  have consistent : schema.Consistent (upsertSubscription candidate before.tables).1 := by
    rw [nothing]
    exact before.consistent
  have storable : StorablePart before event input part candidate :=
    ⟨lateEvent.noCustomer, lateEvent.carried, lateEvent.named, known, lateEvent.quantity,
      lateEvent.periodEnd, source ▸ accepted, consistent⟩
  refine ⟨candidate, storable, nothing, ?_⟩
  have found := storable.found
  rw [nothing, subscriptions] at found
  exact Option.some.inj (found.symm.trans lateEvent.subscription)

/-- Between registration and completion a late event only refreshes the seats. -/
theorem LateEvent.projection_ok (lateEvent : LateEvent database input part registered stored)
    {before after : CloudDatabase} {event : StripeEventRow} {inserted : Bool}
    (sameRows : ∃ stripeEvents, before.tables = { database.tables with stripeEvents })
    (sameId : event.stripeEventId = registered.stripeEventId)
    (sameTime : event.eventCreatedAt = registered.eventCreatedAt) :
    (∃ result, billingProjection before event inserted input input.now = .ok (after, result)) ↔
      SeatsFit database.tables (trim input.organizationId) part stored input.now ∧
      ∃ withSubscription row, withSubscription.tables = reconciled stored input.now before.tables ∧
        completeStripeEvent withSubscription event.stripeEventId .ignored (projectionMessage false)
          input.now = .ok (after, row) := by
  obtain ⟨candidate, storable, nothing, kept⟩ := lateEvent.storable sameRows sameId sameTime
  obtain ⟨stripeEvents, written⟩ := sameRows
  have fits : AccessFits (seatStarts before.tables (trim input.organizationId)) stored input.now ↔
      ∀ seat ∈ database.tables.entitlements,
        isAssignedSeat (trim input.organizationId) seat = true →
        ∀ endsAt ∈ (stripeEntitlementAccess stored input.now).endsAt, seat.startsAt < endsAt := by
    rw [written]
    exact accessFits_seatStarts
  have seats : assignedSeats before.tables (trim input.organizationId) =
      assignedSeats database.tables (trim input.organizationId) := by
    rw [written]
    rfl
  rw [storable.projection_ok, nothing, kept, seats, fits]
  exact Iff.rfl

/-- Once the seats fit, an unsettled late event runs through to its completion. -/
theorem LateEvent.ignored_of_fit (lateEvent : LateEvent database input part registered stored)
    {before : CloudDatabase} {event : StripeEventRow} {inserted : Bool}
    (register : registerStripeEvent database input.event = .ok (before, event, inserted))
    (unsettled : ¬ (inserted = false ∧ event.isSettled = true))
    (found : lookup (·.stripeEventId) before.tables.stripeEvents registered.stripeEventId = some event)
    (sameTime : event.eventCreatedAt = registered.eventCreatedAt)
    (fit : SeatsFit database.tables (trim input.organizationId) part stored input.now) :
    Ignored database input registered stored := by
  have sameId : event.stripeEventId = registered.stripeEventId := lookup_key found
  obtain ⟨stripeEvents, written⟩ := registerStripeEvent_frame register
  have refreshed : schema.Consistent (reconciled stored input.now before.tables) := by
    have owner : stored.organizationId = trim input.organizationId :=
      lookup_key lateEvent.subscription
    rw [reconciled_consistent, owner, written]
    exact fit.2
  let withSubscription : CloudDatabase := ⟨_, refreshed⟩
  have recorded : lookup (·.stripeEventId) withSubscription.tables.stripeEvents event.stripeEventId =
      some event := by
    rw [sameId]
    exact found
  have outcome : StripeEventProcessingResult.ignored ≠ .pending := nofun
  obtain ⟨after, complete⟩ :=
    completeStripeEvent_known (projectionMessage false) input.now recorded outcome
  obtain ⟨result, projected⟩ : ∃ result,
      billingProjection before event inserted input input.now = .ok (after, result) :=
    (lateEvent.projection_ok ⟨stripeEvents, written⟩ sameId sameTime).mpr
      ⟨fit, withSubscription, _, rfl, complete⟩
  have returned : applyStripeBillingProjection database input = (after, .ok result) := by
    rw [applyStripeBillingProjection_unsettled register unsettled lateEvent.clock, projected]
  have tables := completeStripeEvent_ok complete
  have rows : after.tables.stripeEvents = updateWhere
      (fun row => row.stripeEventId = event.stripeEventId)
      (StripeEventRow.completed .ignored (projectionMessage false) input.now)
      before.tables.stripeEvents := congrArg Tables.stripeEvents tables
  have subscriptions : after.tables.subscriptions = database.tables.subscriptions := by
    rw [tables]
    change before.tables.subscriptions = database.tables.subscriptions
    rw [written]
  have keeps : ∀ row : StripeEventRow, decide (row.stripeEventId = event.stripeEventId) = true →
      (row.completed .ignored (projectionMessage false) input.now).stripeEventId =
        row.stripeEventId := fun _ _ => rfl
  unfold Ignored
  rw [returned]
  refine ⟨⟨result, rfl⟩, ⟨event.completed .ignored (projectionMessage false) input.now, ?_, rfl⟩, ?_⟩
  · rw [rows, lookup_updateWhere keeps, found]
    simp
  · rw [getBillingSubscription, subscriptions]
    exact lateEvent.subscription

/-- A late event is ignored exactly when the seats fit the quantity that it carries. -/
theorem lateEvent_ignored_iff (lateEvent : LateEvent database input part registered stored) :
    Ignored database input registered stored ↔
      IgnoredWhen database.tables input part registered stored := by
  obtain ⟨accepted, checks⟩ := lateEvent.event
  unfold IgnoredWhen
  constructor
  · rintro ⟨⟨result, succeeds⟩, ⟨recorded, found, ignored⟩, _⟩
    have applied : applyStripeBillingProjection database input =
        ((applyStripeBillingProjection database input).1, .ok result) := Prod.ext rfl succeeds
    obtain ⟨before, event, inserted, register, outcome⟩ := applyStripeBillingProjection_ok applied
    obtain ⟨candidate, again, sameId, sameType, sameTime, origin⟩ := registerStripeEvent_ok register
    obtain rfl := Except.ok.inj (accepted.symm.trans again)
    have fit (unsettled : ¬ (inserted = false ∧ event.isSettled = true))
        (projected : billingProjection before event inserted input input.now =
          .ok ((applyStripeBillingProjection database input).1, result)) :
        SeatsFit database.tables (trim input.organizationId) part stored input.now :=
      ((lateEvent.projection_ok (registerStripeEvent_frame register) sameId sameTime).mp
        ⟨result, projected⟩).1
    rcases origin with ⟨old, sameDatabase, known⟩ | ⟨new, _, absent, _⟩
    · rw [known]
      refine ⟨sameType, sameTime, ?_⟩
      rcases outcome with ⟨_, _, unchanged⟩ | ⟨unsettled, projected⟩
      · rw [unchanged, sameDatabase, known] at found
        obtain rfl := Option.some.inj found
        exact .inl ignored
      · have pending : event.isSettled = false :=
          Bool.eq_false_iff.mpr fun settled => unsettled ⟨old, settled⟩
        exact .inr ⟨pending, fit unsettled projected⟩
    · rw [absent]
      rcases outcome with ⟨old, _⟩ | ⟨unsettled, projected⟩
      · exact absurd (new.symm.trans old) nofun
      · exact fit unsettled projected
  · intro condition
    split at condition
    · rename_i absent
      obtain ⟨before, register, written⟩ := registerStripeEvent_fresh accepted checks absent
      have found : lookup (·.stripeEventId) before.tables.stripeEvents registered.stripeEventId =
          some registered := by
        rw [written]
        exact (lookup_append_fresh absent).trans (if_pos rfl)
      exact lateEvent.ignored_of_fit register nofun found rfl condition
    · rename_i event known
      obtain ⟨sameType, sameTime, ignored | ⟨pending, fit⟩⟩ := condition
      · have register := registerStripeEvent_known accepted checks known sameType sameTime
        have settled : event.isSettled = true := by simp [StripeEventRow.isSettled, ignored]
        unfold Ignored
        rw [applyStripeBillingProjection_settled register settled]
        exact ⟨⟨_, rfl⟩, ⟨event, known, ignored⟩, lateEvent.subscription⟩
      · have register := registerStripeEvent_known accepted checks known sameType sameTime
        exact lateEvent.ignored_of_fit register (by simp [pending]) known sameTime fit

end Steps

section Sample

def twoSeatsSubscription : BillingSubscriptionRow where
  organizationId := "acme"
  stripeSubscriptionId := "sub_1"
  stripePriceId := "price_1"
  status := "active"
  entitledSeats := 2
  cancelAtPeriodEnd := false
  currentPeriodEnd := none
  paymentState := .current
  graceEndsAt := none
  lastInvoiceEventCreatedAt := none
  lastInvoiceEventId := none
  lastEventCreatedAt := 20
  lastStripeEventId := "evt_2"
  createdAt := 30
  updatedAt := 30

/-- Two seats are paid for and assigned. -/
def twoSeats : CloudDatabase :=
  Store.load
    { customerTeam.tables with
      auditEvents :=
        [⟨"audit-1", "acme", "ada", "billing.operator_seat.assigned", "membership", "m1", "success",
            none, "\x7b\"source\":\"stripe\"\x7d", 40⟩,
          ⟨"audit-2", "acme", "ada", "billing.operator_seat.assigned", "membership", "m2", "success",
            none, "\x7b\"source\":\"stripe\"\x7d", 41⟩]
      entitlements :=
        [⟨"m1", "acme", .active, .stripe, 40, none, 40, 40⟩,
          ⟨"m2", "acme", .active, .stripe, 41, none, 41, 41⟩]
      subscriptions := [twoSeatsSubscription]
      stripeEvents :=
        [⟨"evt_2", "customer.subscription.updated", 20, 30, .applied,
            some "local billing projection updated", some 30, 1⟩] }
    (by decide +kernel)

/-- The row of an event that was created before the stored subscription. -/
def earlierEvent : StripeEventRow where
  stripeEventId := "evt_1"
  type := "customer.subscription.updated"
  eventCreatedAt := 10
  receivedAt := 50
  processingResult := .pending
  processingMessage := none
  processedAt := none
  attemptCount := 0

def sellTwoSeats : List SeatOperation :=
  [.projectBilling (subscriptionEvent "evt_2" 20 2 30), .assignSeat (seatFor "m1" "audit-1" 40),
    .assignSeat (seatFor "m2" "audit-2" 41)]

theorem sellTwoSeats_run : seats.run customerTeam sellTwoSeats = twoSeats := by
  have tables : (seats.run customerTeam sellTwoSeats).tables = twoSeats.tables := by decide +kernel
  exact Store.ext tables

theorem twoSeats_reachable : seats.Reachable twoSeats := by
  have start : seats.Reachable customerTeam := .initial ⟨by decide, by decide⟩
  have sold : seats.Reachable (seats.run customerTeam sellTwoSeats) :=
    start.run ⟨trivial, trivial, trivial, trivial⟩
  rwa [sellTwoSeats_run] at sold

theorem lateEvent_twoSeats (quantity : Int) (inside : quantity = 1 ∨ quantity = 2) :
    LateEvent twoSeats (subscriptionEvent "evt_1" 10 quantity 50)
      ⟨"sub_1", "price_1", "active", quantity, false, none⟩ earlierEvent twoSeatsSubscription := by
  rcases inside with rfl | rfl
  · exact ⟨rfl, rfl, by decide +kernel, by decide +kernel, by decide +kernel, by decide +kernel,
      by decide +kernel, by decide +kernel, by decide +kernel, by decide +kernel⟩
  · exact ⟨rfl, rfl, by decide +kernel, by decide +kernel, by decide +kernel, by decide +kernel,
      by decide +kernel, by decide +kernel, by decide +kernel, by decide +kernel⟩

theorem lateEvent_ignored_sameQuantity :
    Ignored twoSeats (subscriptionEvent "evt_1" 10 2 50) earlierEvent twoSeatsSubscription :=
  (lateEvent_ignored_iff (lateEvent_twoSeats 2 (.inr rfl))).mpr (by decide +kernel)

/-- The quantity of the late event is rejected although the event is dead. -/
theorem lateEvent_rejected :
    seats.Reachable twoSeats ∧
      LateEvent twoSeats (subscriptionEvent "evt_1" 10 1 50)
        ⟨"sub_1", "price_1", "active", 1, false, none⟩ earlierEvent twoSeatsSubscription ∧
      (applyStripeBillingProjection twoSeats (subscriptionEvent "evt_1" 10 1 50)).2 =
        .error .operatorSeatQuantityConflict ∧
      (lookup (·.stripeEventId) (applyStripeBillingProjection twoSeats
        (subscriptionEvent "evt_1" 10 1 50)).1.tables.stripeEvents "evt_1").map
          (·.processingResult) = some .failed ∧
      ¬ Ignored twoSeats (subscriptionEvent "evt_1" 10 1 50) earlierEvent twoSeatsSubscription := by
  obtain ⟨rejected, failed⟩ :
      (applyStripeBillingProjection twoSeats (subscriptionEvent "evt_1" 10 1 50)).2 =
          .error .operatorSeatQuantityConflict ∧
        (lookup (·.stripeEventId) (applyStripeBillingProjection twoSeats
          (subscriptionEvent "evt_1" 10 1 50)).1.tables.stripeEvents "evt_1").map
            (·.processingResult) = some .failed := by
    decide +kernel
  refine ⟨twoSeats_reachable, lateEvent_twoSeats 1 (.inl rfl), rejected, failed, ?_⟩
  rintro ⟨⟨result, returned⟩, _⟩
  rw [rejected] at returned
  cases returned

end Sample

end NebulaCloud.Billing
