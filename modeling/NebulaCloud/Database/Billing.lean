import NebulaCloud.Database.Entitlement
import NebulaCloud.Database.StripeEvent

namespace NebulaCloud.Database

open NebulaCloud.Data NebulaCloud.Platform

/-! # Billing projections

A Stripe event carries a customer snapshot, a subscription snapshot or both.  The
projection keeps the newest of each and refreshes the seats that the subscription
pays for. -/

def getBillingCustomer (database : CloudDatabase) (organizationId : String) :
    Option BillingCustomerRow :=
  lookup (·.organizationId) database.tables.billingCustomers (trim organizationId)

def getBillingSubscription (database : CloudDatabase) (organizationId : String) :
    Option BillingSubscriptionRow :=
  lookup (·.organizationId) database.tables.subscriptions (trim organizationId)

/-! ## Access -/

structure StripeEntitlementAccess where
  state : OperatorEntitlementState
  endsAt : Option Int
deriving DecidableEq, Repr

def stripeEntitlementAccess (subscription : BillingSubscriptionRow) (now : Int) :
    StripeEntitlementAccess :=
  if subscription.paymentState = .grace ∧ ∃ graceEndsAt ∈ subscription.graceEndsAt, now < graceEndsAt then
    ⟨.grace, subscription.graceEndsAt⟩
  else if subscription.paymentState = .current ∧
      (subscription.status = "active" ∨ subscription.status = "trialing") ∧
      ∀ currentPeriodEnd ∈ subscription.currentPeriodEnd, now < currentPeriodEnd then
    ⟨.active, subscription.currentPeriodEnd⟩
  else ⟨.suspended, subscription.graceEndsAt⟩

/-- An entitlement that occupies a paid seat. -/
def isAssignedSeat (organizationId : String) (entitlement : OperatorEntitlementRow) : Bool :=
  entitlement.organizationId = organizationId && entitlement.source = .stripe &&
    entitlement.state ≠ .revoked

theorem isAssignedSeat_iff {organizationId : String} {entitlement : OperatorEntitlementRow} :
    isAssignedSeat organizationId entitlement = true ↔
      entitlement.organizationId = organizationId ∧ entitlement.source = .stripe ∧
        entitlement.state ≠ .revoked := by
  simp [isAssignedSeat, and_assoc]

def assignedSeats (tables : Tables) (organizationId : String) : Nat :=
  tables.entitlements.countP (isAssignedSeat organizationId)

def OperatorEntitlementRow.granted (access : StripeEntitlementAccess) (now : Int)
    (entitlement : OperatorEntitlementRow) : OperatorEntitlementRow :=
  { entitlement with state := access.state, endsAt := access.endsAt, updatedAt := now }

/-- The statement of `reconcileStripeAssignedEntitlements`. -/
def reconciled (subscription : BillingSubscriptionRow) (now : Int) (tables : Tables) : Tables :=
  { tables with
    entitlements := updateWhere (isAssignedSeat subscription.organizationId)
      (OperatorEntitlementRow.granted (stripeEntitlementAccess subscription now) now)
      tables.entitlements }

def reconcileStripeAssignedEntitlements (database : CloudDatabase)
    (subscription : BillingSubscriptionRow) (now : Int) : Except Failure CloudDatabase :=
  statement database (reconciled subscription now)

/-! ## The two parts -/

/-- The condition of both upserts; SQLite compares the identifiers. -/
def eventSupersedes (eventCreatedAt : Int) (stripeEventId : String) (lastEventCreatedAt : Int)
    (lastStripeEventId : String) : Bool :=
  lastEventCreatedAt < eventCreatedAt ||
    (eventCreatedAt = lastEventCreatedAt && lastStripeEventId < stripeEventId)

structure BillingCustomerInput where
  stripeCustomerId : String
  billingEmail : Option String
  country : Option String
deriving DecidableEq, Repr

structure BillingSubscriptionInput where
  stripeSubscriptionId : String
  stripePriceId : String
  status : String
  entitledSeats : Int
  cancelAtPeriodEnd : Bool
  currentPeriodEnd : Option Int
deriving DecidableEq, Repr

/-- The event on whose behalf a part is projected, and the clock of the projection. -/
structure ProjectionSource where
  organizationId : String
  stripeEventId : String
  eventCreatedAt : Int
  updatedAt : Int
deriving DecidableEq, Repr

/-- `toUpperCase`, as far as its result lies between `A` and `Z`: every other
character has an uppercase with a character outside that range. -/
def upperCase (c : Char) : List Char :=
  if 'a' ≤ c ∧ c ≤ 'z' then [Char.ofNat (c.toNat - 32)]
  else
    match c.toNat with
    | 0xDF => ['S', 'S']
    | 0x131 => ['I']
    | 0x17F => ['S']
    | 0xFB00 => ['F', 'F']
    | 0xFB01 => ['F', 'I']
    | 0xFB02 => ['F', 'L']
    | 0xFB03 => ['F', 'F', 'I']
    | 0xFB04 => ['F', 'F', 'L']
    | 0xFB05 => ['S', 'T']
    | 0xFB06 => ['S', 'T']
    | _ => [c]

def countryCode (country : String) : Except Failure String :=
  let upper := (trim country).toList.flatMap upperCase
  if upper.length = 2 ∧ upper.all (fun c => 'A' ≤ c && c ≤ 'Z') then .ok (String.ofList upper)
  else .error (.typeError "country must be a two-letter code")

/-- Apply a check to a value that may be missing. -/
def checkPresent (check : String → Except Failure String) : Option String → Except Failure (Option String)
  | none => .ok none
  | some text => (check text).map some

/-- The row that `projectBillingCustomer` wants to insert. -/
def billingCustomerCandidate (source : ProjectionSource) (input : BillingCustomerInput) :
    Except Failure BillingCustomerRow := do
  let billingEmail ← checkPresent (requiredStripeText · "billingEmail" 320) input.billingEmail
  let country ← checkPresent countryCode input.country
  let stripeCustomerId ← requiredStripeText input.stripeCustomerId "stripeCustomerId" 255
  let candidate : BillingCustomerRow :=
    { organizationId := source.organizationId
      stripeCustomerId
      billingEmail
      country
      lastEventCreatedAt := source.eventCreatedAt
      lastStripeEventId := source.stripeEventId
      createdAt := source.updatedAt
      updatedAt := source.updatedAt }
  if candidate.Checks then .ok candidate else .error (.constraint .customerChecks)

/-- What a newer snapshot leaves of the stored row: its creation time. -/
def BillingCustomerRow.replaced (excluded stored : BillingCustomerRow) : BillingCustomerRow :=
  { excluded with createdAt := stored.createdAt }

def BillingCustomerRow.supersedes (excluded stored : BillingCustomerRow) : Bool :=
  eventSupersedes excluded.lastEventCreatedAt excluded.lastStripeEventId stored.lastEventCreatedAt
    stored.lastStripeEventId

/-- `INSERT INTO billing_customer … ON CONFLICT(organization_id) DO UPDATE … WHERE …`. -/
def upsertBillingCustomer (excluded : BillingCustomerRow) (tables : Tables) : Tables × Bool :=
  let rows := upsert (·.organizationId) BillingCustomerRow.supersedes BillingCustomerRow.replaced
    excluded tables.billingCustomers
  ({ tables with billingCustomers := rows.1 }, rows.2)

def projectBillingCustomer (database : CloudDatabase) (source : ProjectionSource)
    (input : BillingCustomerInput) :
    Except Failure (CloudDatabase × BillingCustomerRow × Bool) := do
  let candidate ← billingCustomerCandidate source input
  let applied := (upsertBillingCustomer candidate database.tables).2
  let database ← statement database fun tables => (upsertBillingCustomer candidate tables).1
  match getBillingCustomer database source.organizationId with
  | none => .error (.error "Billing customer could not be resolved")
  | some customer => .ok (database, customer, applied)

/-- The row that `projectBillingSubscription` wants to insert, column defaults
included. -/
def billingSubscriptionCandidate (source : ProjectionSource) (input : BillingSubscriptionInput) :
    Except Failure BillingSubscriptionRow := do
  let stripeSubscriptionId ←
    requiredStripeText input.stripeSubscriptionId "stripeSubscriptionId" 255
  let stripePriceId ← requiredStripeText input.stripePriceId "stripePriceId" 255
  let status ← requiredStripeText input.status "status" 64
  let candidate : BillingSubscriptionRow :=
    { organizationId := source.organizationId
      stripeSubscriptionId
      stripePriceId
      status
      entitledSeats := input.entitledSeats
      cancelAtPeriodEnd := input.cancelAtPeriodEnd
      currentPeriodEnd := input.currentPeriodEnd
      paymentState := .current
      graceEndsAt := none
      lastInvoiceEventCreatedAt := none
      lastInvoiceEventId := none
      lastEventCreatedAt := source.eventCreatedAt
      lastStripeEventId := source.stripeEventId
      createdAt := source.updatedAt
      updatedAt := source.updatedAt }
  if candidate.Checks then .ok candidate else .error (.constraint .subscriptionChecks)

/-- What a newer snapshot leaves of the stored row: its creation time and what the
invoices wrote. -/
def BillingSubscriptionRow.replaced (excluded stored : BillingSubscriptionRow) :
    BillingSubscriptionRow :=
  { excluded with
    paymentState := stored.paymentState
    graceEndsAt := stored.graceEndsAt
    lastInvoiceEventCreatedAt := stored.lastInvoiceEventCreatedAt
    lastInvoiceEventId := stored.lastInvoiceEventId
    createdAt := stored.createdAt }

def BillingSubscriptionRow.supersedes (excluded stored : BillingSubscriptionRow) : Bool :=
  eventSupersedes excluded.lastEventCreatedAt excluded.lastStripeEventId stored.lastEventCreatedAt
    stored.lastStripeEventId

/-- `INSERT INTO subscription … ON CONFLICT(organization_id) DO UPDATE … WHERE …`. -/
def upsertSubscription (excluded : BillingSubscriptionRow) (tables : Tables) : Tables × Bool :=
  let rows := upsert (·.organizationId) BillingSubscriptionRow.supersedes
    BillingSubscriptionRow.replaced excluded tables.subscriptions
  ({ tables with subscriptions := rows.1 }, rows.2)

/-- The checks that `projectBillingSubscription` makes before it prepares the
upsert.  The seat quantity is checked here, before anything compares event keys. -/
def checkSubscriptionInput (database : CloudDatabase) (organizationId : String)
    (input : BillingSubscriptionInput) : Except Failure Unit := do
  if ¬ IsNonNegativeSafeInteger input.entitledSeats then
    .error (.typeError "entitledSeats must be a non-negative safe integer")
  else if input.entitledSeats < assignedSeats database.tables organizationId then
    .error .operatorSeatQuantityConflict
  else
    match input.currentPeriodEnd with
    | none => .ok ()
    | some currentPeriodEnd => do
        let _ ← stripeTimestamp currentPeriodEnd "currentPeriodEnd"
        .ok ()

def projectBillingSubscription (database : CloudDatabase) (source : ProjectionSource)
    (input : BillingSubscriptionInput) :
    Except Failure (CloudDatabase × BillingSubscriptionRow × Bool) := do
  checkSubscriptionInput database source.organizationId input
  let candidate ← billingSubscriptionCandidate source input
  let applied := (upsertSubscription candidate database.tables).2
  let database ← statement database fun tables => (upsertSubscription candidate tables).1
  match getBillingSubscription database source.organizationId with
  | none => .error (.error "Billing subscription could not be resolved")
  | some subscription => do
      let database ← reconcileStripeAssignedEntitlements database subscription source.updatedAt
      .ok (database, subscription, applied)

/-! ## The projection of an event -/

structure StripeBillingProjectionInput where
  event : StripeEventInput
  organizationId : String
  customer : Option BillingCustomerInput
  subscription : Option BillingSubscriptionInput
  now : Int
deriving DecidableEq, Repr

structure StripeBillingProjectionResult where
  duplicate : Bool
  processingResult : StripeEventProcessingResult
  customer : Option BillingCustomerRow
  subscription : Option BillingSubscriptionRow
deriving DecidableEq, Repr

/-- The customer part of the transaction, when the event has one. -/
def projectCustomerPart (database : CloudDatabase) (source : ProjectionSource) :
    Option BillingCustomerInput →
    Except Failure (CloudDatabase × Option BillingCustomerRow × Bool)
  | none => .ok (database, getBillingCustomer database source.organizationId, false)
  | some input => do
      let (database, customer, applied) ← projectBillingCustomer database source input
      .ok (database, some customer, applied)

/-- The subscription part of the transaction, when the event has one. -/
def projectSubscriptionPart (database : CloudDatabase) (source : ProjectionSource) :
    Option BillingSubscriptionInput →
    Except Failure (CloudDatabase × Option BillingSubscriptionRow × Bool)
  | none => .ok (database, getBillingSubscription database source.organizationId, false)
  | some input => do
      let (database, subscription, applied) ← projectBillingSubscription database source input
      .ok (database, some subscription, applied)

def projectionSource (event : StripeEventRow) (organizationId : String) (processedAt : Int) :
    ProjectionSource where
  organizationId := organizationId
  stripeEventId := event.stripeEventId
  eventCreatedAt := event.eventCreatedAt
  updatedAt := processedAt

def projectionOutcome (applied : Bool) : StripeEventProcessingResult :=
  if applied then .applied else .ignored

def projectionMessage (applied : Bool) : String :=
  if applied then "local billing projection updated" else "stale or empty projection"

def requireBillingOrganization (database : CloudDatabase) (organizationId : String) :
    Except Failure Unit :=
  if organizationId = "" then .error (.typeError "organizationId is required")
  else if organizationId ∉ database.tables.organizationIds then
    .error (.error "Billing organization was not found")
  else .ok ()

/-- The transaction of `applyStripeBillingProjection`. -/
def billingProjection (database : CloudDatabase) (event : StripeEventRow) (inserted : Bool)
    (input : StripeBillingProjectionInput) (processedAt : Int) :
    Except Failure (CloudDatabase × StripeBillingProjectionResult) := do
  requireBillingOrganization database (trim input.organizationId)
  let source := projectionSource event (trim input.organizationId) processedAt
  let (database, customer, customerApplied) ← projectCustomerPart database source input.customer
  let (database, subscription, subscriptionApplied) ←
    projectSubscriptionPart database source input.subscription
  let applied := customerApplied || subscriptionApplied
  let (database, _) ← completeStripeEvent database event.stripeEventId (projectionOutcome applied)
    (projectionMessage applied) processedAt
  .ok (database,
    { duplicate := !inserted, processingResult := projectionOutcome applied, customer, subscription })

/-- A rejected projection is recorded on the event before the error is thrown on. -/
def recordBillingFailure (database : CloudDatabase) (event : StripeEventRow) (failure : Failure)
    (processedAt : Int) : CloudDatabase × Except Failure StripeBillingProjectionResult :=
  match completeStripeEvent database event.stripeEventId .failed failure.message processedAt with
  | .ok (database, _) => (database, .error failure)
  | .error other => (database, .error other)

/-- Registration is committed on its own; the projection is a transaction. -/
def applyStripeBillingProjection (database : CloudDatabase) (input : StripeBillingProjectionInput) :
    CloudDatabase × Except Failure StripeBillingProjectionResult :=
  match registerStripeEvent database input.event with
  | .error failure => (database, .error failure)
  | .ok (database, event, inserted) =>
      if inserted = false ∧ event.isSettled = true then
        (database, .ok
          { duplicate := true
            processingResult := event.processingResult
            customer := getBillingCustomer database input.organizationId
            subscription := getBillingSubscription database input.organizationId })
      else
        match stripeTimestamp input.now "processedAt" with
        | .error failure => (database, .error failure)
        | .ok processedAt =>
            match billingProjection database event inserted input processedAt with
            | .ok (database, result) => (database, .ok result)
            | .error failure => recordBillingFailure database event failure processedAt

/-! ## What the projection writes -/

/-- The two differ at most in the audit log, the billing customers and the Stripe
events. -/
def SameSeats (before after : Tables) : Prop :=
  ∃ auditEvents billingCustomers stripeEvents,
    after = { before with auditEvents, billingCustomers, stripeEvents }

section Specs

variable {database after : CloudDatabase} {before later : Tables} {source : ProjectionSource}
  {applied : Bool}

theorem SameSeats.refl (tables : Tables) : SameSeats tables tables :=
  ⟨tables.auditEvents, tables.billingCustomers, tables.stripeEvents, rfl⟩

theorem SameSeats.of_stripeEvents
    (written : ∃ stripeEvents, later = { before with stripeEvents }) : SameSeats before later := by
  obtain ⟨stripeEvents, rfl⟩ := written
  exact ⟨before.auditEvents, before.billingCustomers, stripeEvents, rfl⟩

theorem SameSeats.of_auditEvents
    (written : ∃ auditEvents, later = { before with auditEvents }) : SameSeats before later := by
  obtain ⟨auditEvents, rfl⟩ := written
  exact ⟨auditEvents, before.billingCustomers, before.stripeEvents, rfl⟩

theorem lookup_upsertBillingCustomer (excluded : BillingCustomerRow) (tables : Tables)
    (organizationId : String) :
    lookup (·.organizationId) (upsertBillingCustomer excluded tables).1.billingCustomers
        organizationId =
      if excluded.organizationId = organizationId then
        some (upserted BillingCustomerRow.supersedes BillingCustomerRow.replaced excluded
          (lookup (·.organizationId) tables.billingCustomers organizationId))
      else lookup (·.organizationId) tables.billingCustomers organizationId :=
  lookup_upsert fun _ _ => rfl

theorem lookup_upsertSubscription (excluded : BillingSubscriptionRow) (tables : Tables)
    (organizationId : String) :
    lookup (·.organizationId) (upsertSubscription excluded tables).1.subscriptions organizationId =
      if excluded.organizationId = organizationId then
        some (upserted BillingSubscriptionRow.supersedes BillingSubscriptionRow.replaced excluded
          (lookup (·.organizationId) tables.subscriptions organizationId))
      else lookup (·.organizationId) tables.subscriptions organizationId :=
  lookup_upsert fun _ _ => rfl

/-- An accepted customer part is stored as an upsert of its row. -/
theorem projectBillingCustomer_ok {input : BillingCustomerInput} {customer : BillingCustomerRow}
    (projected : projectBillingCustomer database source input = .ok (after, customer, applied)) :
    ∃ candidate, billingCustomerCandidate source input = .ok candidate ∧
      after.tables = (upsertBillingCustomer candidate database.tables).1 ∧
      applied = (upsertBillingCustomer candidate database.tables).2 := by
  obtain ⟨candidate, accepted, projected⟩ := bind_ok.mp projected
  obtain ⟨stored, upsert, projected⟩ := bind_ok.mp projected
  split at projected
  · cases projected
  · cases projected
    exact ⟨candidate, accepted, Store.execute_ok.mp upsert, rfl⟩

theorem projectCustomerPart_sameSeats {part : Option BillingCustomerInput}
    {customer : Option BillingCustomerRow}
    (projected : projectCustomerPart database source part = .ok (after, customer, applied)) :
    SameSeats database.tables after.tables := by
  cases part with
  | none =>
      cases projected
      exact .refl _
  | some input =>
      obtain ⟨⟨stored, row, changed⟩, project, returned⟩ := bind_ok.mp projected
      cases returned
      obtain ⟨candidate, _, written, _⟩ := projectBillingCustomer_ok project
      exact ⟨_, _, _, written⟩

theorem checkSubscriptionInput_ok {organizationId : String} {input : BillingSubscriptionInput} :
    checkSubscriptionInput database organizationId input = .ok () ↔
      IsNonNegativeSafeInteger input.entitledSeats ∧
        assignedSeats database.tables organizationId ≤ input.entitledSeats ∧
        ∀ currentPeriodEnd ∈ input.currentPeriodEnd, IsNonNegativeSafeInteger currentPeriodEnd := by
  unfold checkSubscriptionInput
  by_cases safe : IsNonNegativeSafeInteger input.entitledSeats
  · by_cases enough : assignedSeats database.tables organizationId ≤ input.entitledSeats
    · have notBelow : ¬ input.entitledSeats < assignedSeats database.tables organizationId :=
        Int.not_lt.mpr enough
      rw [if_neg (not_not.mpr safe), if_neg notBelow]
      cases periodEnd : input.currentPeriodEnd with
      | none => simp [safe, enough]
      | some currentPeriodEnd =>
          simp only [safe, enough, true_and, Option.mem_some_iff, forall_eq']
          constructor
          · intro accepted
            obtain ⟨_, timestamp, _⟩ := bind_ok.mp accepted
            exact (stripeTimestamp_ok.mp timestamp).1
          · intro valid
            exact bind_ok.mpr ⟨currentPeriodEnd, stripeTimestamp_ok.mpr ⟨valid, rfl⟩, rfl⟩
    · have below : input.entitledSeats < assignedSeats database.tables organizationId :=
        Int.not_le.mp enough
      rw [if_neg (not_not.mpr safe), if_pos below]
      simp [enough]
  · rw [if_pos safe]
    simp [safe]

theorem billingSubscriptionCandidate_ok {input : BillingSubscriptionInput}
    {candidate : BillingSubscriptionRow}
    (accepted : billingSubscriptionCandidate source input = .ok candidate) :
    candidate.organizationId = source.organizationId ∧
      candidate.entitledSeats = input.entitledSeats ∧
      candidate.lastEventCreatedAt = source.eventCreatedAt ∧
      candidate.lastStripeEventId = source.stripeEventId := by
  obtain ⟨_, _, accepted⟩ := bind_ok.mp accepted
  obtain ⟨_, _, accepted⟩ := bind_ok.mp accepted
  obtain ⟨_, _, accepted⟩ := bind_ok.mp accepted
  simp only at accepted
  split at accepted
  · cases accepted
    exact ⟨rfl, rfl, rfl, rfl⟩
  · cases accepted

/-- An accepted subscription part pays for the assigned seats; it is stored as an
upsert of its row, and the seats are refreshed from the row that is stored then. -/
theorem projectBillingSubscription_ok {input : BillingSubscriptionInput}
    {subscription : BillingSubscriptionRow}
    (projected : projectBillingSubscription database source input =
      .ok (after, subscription, applied)) :
    ∃ candidate, billingSubscriptionCandidate source input = .ok candidate ∧
      assignedSeats database.tables source.organizationId ≤ input.entitledSeats ∧
      lookup (·.organizationId) (upsertSubscription candidate database.tables).1.subscriptions
        (trim source.organizationId) = some subscription ∧
      after.tables = reconciled subscription source.updatedAt
        (upsertSubscription candidate database.tables).1 ∧
      applied = (upsertSubscription candidate database.tables).2 := by
  obtain ⟨⟨⟩, checked, projected⟩ := bind_ok.mp projected
  obtain ⟨candidate, accepted, projected⟩ := bind_ok.mp projected
  obtain ⟨stored, upsert, projected⟩ := bind_ok.mp projected
  have written := Store.execute_ok.mp upsert
  split at projected
  · cases projected
  · rename_i found resolved
    obtain ⟨refreshed, reconcile, returned⟩ := bind_ok.mp projected
    have refreshedTables := Store.execute_ok.mp reconcile
    cases returned
    refine ⟨candidate, accepted, (checkSubscriptionInput_ok.mp checked).2.1, ?_, ?_, rfl⟩
    · rw [← written]
      exact resolved
    · rw [refreshedTables, written]

end Specs

section Preserved

variable {Holds : Tables → Prop} {database after : CloudDatabase} {event : StripeEventRow}
  {inserted : Bool} {input : StripeBillingProjectionInput} {processedAt : Int}

theorem requireBillingOrganization_ok {organizationId : String} :
    requireBillingOrganization database organizationId = .ok () ↔
      organizationId ≠ "" ∧ organizationId ∈ database.tables.organizationIds := by
  unfold requireBillingOrganization
  split
  · rename_i empty
    simp [empty]
  · rename_i named
    split
    · rename_i missing
      simp [missing]
    · rename_i known
      exact ⟨fun _ => ⟨named, not_not.mp known⟩, fun _ => rfl⟩

/-- The transaction is its two parts in order and the completion of the event. -/
theorem billingProjection_ok :
    (∃ result, billingProjection database event inserted input processedAt = .ok (after, result)) ↔
      requireBillingOrganization database (trim input.organizationId) = .ok () ∧
      ∃ withCustomer customer customerApplied withSubscription subscription subscriptionApplied row,
        projectCustomerPart database
          (projectionSource event (trim input.organizationId) processedAt) input.customer =
          .ok (withCustomer, customer, customerApplied) ∧
        projectSubscriptionPart withCustomer
          (projectionSource event (trim input.organizationId) processedAt) input.subscription =
          .ok (withSubscription, subscription, subscriptionApplied) ∧
        completeStripeEvent withSubscription event.stripeEventId
          (projectionOutcome (customerApplied || subscriptionApplied))
          (projectionMessage (customerApplied || subscriptionApplied)) processedAt =
          .ok (after, row) := by
  constructor
  · intro projected
    obtain ⟨result, projected⟩ := projected
    obtain ⟨⟨⟩, known, projected⟩ := bind_ok.mp projected
    obtain ⟨⟨withCustomer, customer, customerApplied⟩, customerPart, projected⟩ :=
      bind_ok.mp projected
    obtain ⟨⟨withSubscription, subscription, subscriptionApplied⟩, subscriptionPart, projected⟩ :=
      bind_ok.mp projected
    obtain ⟨⟨completed, row⟩, complete, returned⟩ := bind_ok.mp projected
    cases returned
    exact ⟨known, withCustomer, customer, customerApplied, withSubscription, subscription,
      subscriptionApplied, row, customerPart, subscriptionPart, complete⟩
  · intro parts
    obtain ⟨known, withCustomer, customer, customerApplied, withSubscription, subscription,
      subscriptionApplied, row, customerPart, subscriptionPart, complete⟩ := parts
    let applied := customerApplied || subscriptionApplied
    refine ⟨⟨!inserted, projectionOutcome applied, customer, subscription⟩, ?_⟩
    refine bind_ok.mpr ⟨(), known, ?_⟩
    refine bind_ok.mpr ⟨_, customerPart, ?_⟩
    refine bind_ok.mpr ⟨_, subscriptionPart, ?_⟩
    exact bind_ok.mpr ⟨_, complete, rfl⟩

theorem recordBillingFailure_sameSeats {failure : Failure} :
    SameSeats database.tables (recordBillingFailure database event failure processedAt).1.tables := by
  unfold recordBillingFailure
  split
  · rename_i completed row complete
    exact .of_stripeEvents ⟨_, completeStripeEvent_ok complete⟩
  · exact .refl _

/-- The invariant rule of the transaction: what the bookkeeping leaves alone and
a subscription part keeps. -/
theorem billingProjection_preserves
    (stable : ∀ before after, SameSeats before after → Holds before → Holds after)
    (projects : ∀ database after source part subscription applied, source.updatedAt = processedAt →
      trim source.organizationId = source.organizationId →
      projectBillingSubscription database source part = .ok (after, subscription, applied) →
      Holds database.tables → Holds after.tables)
    (projected : ∃ result,
      billingProjection database event inserted input processedAt = .ok (after, result))
    (start : Holds database.tables) : Holds after.tables := by
  obtain ⟨_, withCustomer, customer, customerApplied, withSubscription, subscription,
    subscriptionApplied, row, customerPart, subscriptionPart, complete⟩ :=
    billingProjection_ok.mp projected
  have kept := stable _ _ (projectCustomerPart_sameSeats customerPart) start
  have renewed : Holds withSubscription.tables := by
    cases part : input.subscription with
    | none =>
        rw [part] at subscriptionPart
        cases subscriptionPart
        exact kept
    | some subscriptionInput =>
        rw [part] at subscriptionPart
        obtain ⟨⟨stored, found, changed⟩, project, returned⟩ := bind_ok.mp subscriptionPart
        cases returned
        exact projects withCustomer withSubscription
          (projectionSource event (trim input.organizationId) processedAt) subscriptionInput found
          subscriptionApplied rfl (trim_trim input.organizationId) project kept
  exact stable _ _ (.of_stripeEvents ⟨_, completeStripeEvent_ok complete⟩) renewed

/-- The invariant rule of the projection of an event. -/
theorem applyStripeBillingProjection_preserves (Holds : Tables → Prop)
    (stable : ∀ before after, SameSeats before after → Holds before → Holds after)
    (projects : ∀ database after source part subscription applied, source.updatedAt = input.now →
      trim source.organizationId = source.organizationId →
      projectBillingSubscription database source part = .ok (after, subscription, applied) →
      Holds database.tables → Holds after.tables)
    (start : Holds database.tables) :
    Holds (applyStripeBillingProjection database input).1.tables := by
  unfold applyStripeBillingProjection
  split
  · exact start
  · rename_i registered event inserted register
    have kept := stable _ _ (.of_stripeEvents (registerStripeEvent_frame register)) start
    split
    · exact kept
    · split
      · exact kept
      · rename_i processedAt timestamp
        obtain rfl := (stripeTimestamp_ok.mp timestamp).2
        split
        · rename_i after result projected
          exact billingProjection_preserves stable projects ⟨result, projected⟩ kept
        · exact stable _ _ recordBillingFailure_sameSeats kept

end Preserved

end NebulaCloud.Database
