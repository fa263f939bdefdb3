import NebulaCloud.Database.Billing

namespace NebulaCloud.Database

open NebulaCloud.Data NebulaCloud.Platform

/-! # Invoice projections

A paid invoice restores access; a failed payment starts the one grace period of
the subscription. -/

inductive InvoiceEventType
  | paid | paymentFailed
deriving DecidableEq, Repr

def InvoiceEventType.name : InvoiceEventType → String
  | .paid => "invoice.paid"
  | .paymentFailed => "invoice.payment_failed"

structure StripeInvoiceProjectionInput where
  stripeEventId : String
  type : InvoiceEventType
  eventCreatedAt : Int
  receivedAt : Int
  stripeSubscriptionId : String
  now : Int
deriving DecidableEq, Repr

def StripeInvoiceProjectionInput.event (input : StripeInvoiceProjectionInput) : StripeEventInput where
  stripeEventId := input.stripeEventId
  type := input.type.name
  eventCreatedAt := input.eventCreatedAt
  receivedAt := input.receivedAt

/-- Fourteen days in milliseconds. -/
def stripePaymentGraceDurationMs : Int := 14 * 24 * 60 * 60 * 1000

def getBillingSubscriptionByStripeId (database : CloudDatabase) (stripeSubscriptionId : String) :
    Except Failure (Option BillingSubscriptionRow) := do
  let stripeSubscriptionId ← requiredStripeText stripeSubscriptionId "stripeSubscriptionId" 255
  .ok (lookup (·.stripeSubscriptionId) database.tables.subscriptions stripeSubscriptionId)

/-- Whether the event follows the last invoice event.  The identifiers are compared
by the language runtime here, not by SQLite. -/
def invoiceEventIsNewer (subscription : BillingSubscriptionRow) (event : StripeEventRow) : Bool :=
  match subscription.lastInvoiceEventCreatedAt with
  | none => true
  | some lastInvoiceEventCreatedAt =>
      lastInvoiceEventCreatedAt < event.eventCreatedAt ||
        (event.eventCreatedAt = lastInvoiceEventCreatedAt &&
          codeUnits (subscription.lastInvoiceEventId.getD "") < codeUnits event.stripeEventId)

/-- The grace deadline that an invoice event leaves behind. -/
def invoiceGraceEndsAt (type : InvoiceEventType) (subscription : BillingSubscriptionRow)
    (eventCreatedAt : Int) : Option Int :=
  match type with
  | .paid => none
  | .paymentFailed =>
      some (subscription.graceEndsAt.getD (eventCreatedAt + stripePaymentGraceDurationMs))

def invoicePaymentState (graceEndsAt : Option Int) (processedAt : Int) : PaymentState :=
  match graceEndsAt with
  | none => .current
  | some graceEndsAt => if processedAt < graceEndsAt then .grace else .delinquent

/-- What a newer invoice event writes to the subscription. -/
def BillingSubscriptionRow.invoiced (type : InvoiceEventType) (event : StripeEventRow)
    (processedAt : Int) (subscription : BillingSubscriptionRow) : BillingSubscriptionRow :=
  let graceEndsAt := invoiceGraceEndsAt type subscription event.eventCreatedAt
  { subscription with
    paymentState := invoicePaymentState graceEndsAt processedAt
    graceEndsAt
    lastInvoiceEventCreatedAt := some event.eventCreatedAt
    lastInvoiceEventId := some event.stripeEventId
    updatedAt := processedAt }

/-- The columns that an invoice writes. -/
def BillingSubscriptionRow.withPayment (updated subscription : BillingSubscriptionRow) :
    BillingSubscriptionRow :=
  { subscription with
    paymentState := updated.paymentState
    graceEndsAt := updated.graceEndsAt
    lastInvoiceEventCreatedAt := updated.lastInvoiceEventCreatedAt
    lastInvoiceEventId := updated.lastInvoiceEventId
    updatedAt := updated.updatedAt }

/-- `UPDATE subscription SET payment_state = … WHERE organization_id = ?`; the
values were computed from the row read before. -/
def invoiceSubscription (updated : BillingSubscriptionRow) (tables : Tables) : Tables :=
  { tables with
    subscriptions :=
      updateWhere (fun subscription => subscription.organizationId = updated.organizationId)
        updated.withPayment tables.subscriptions }

def invoiceMessage (type : InvoiceEventType) (paymentState : PaymentState) : String :=
  match type with
  | .paid => "subscription payment restored"
  | .paymentFailed =>
      if paymentState = .grace then "subscription entered fixed payment grace"
      else "subscription payment grace already expired"

/-- Write a newer invoice event to its subscription and refresh the paid seats. -/
def projectInvoice (database : CloudDatabase) (invoiced : BillingSubscriptionRow)
    (processedAt : Int) : Except Failure (CloudDatabase × BillingSubscriptionRow) := do
  let database ← statement database (invoiceSubscription invoiced)
  match getBillingSubscription database invoiced.organizationId with
  | none => .error (.error "Billing subscription could not be resolved")
  | some updated => do
      let database ← reconcileStripeAssignedEntitlements database updated processedAt
      .ok (database, updated)

/-- The transaction of `applyStripeInvoiceProjection`. -/
def invoiceProjection (database : CloudDatabase) (event : StripeEventRow) (inserted : Bool)
    (input : StripeInvoiceProjectionInput) (processedAt : Int) :
    Except Failure (CloudDatabase × StripeBillingProjectionResult) := do
  match ← getBillingSubscriptionByStripeId database input.stripeSubscriptionId with
  | none => .error (.error "Stripe invoice subscription was not found")
  | some subscription =>
      if invoiceEventIsNewer subscription event = false then do
        let (database, _) ← completeStripeEvent database event.stripeEventId .ignored
          "stale invoice projection" processedAt
        .ok (database,
          { duplicate := !inserted
            processingResult := .ignored
            customer := getBillingCustomer database subscription.organizationId
            subscription := some subscription })
      else do
        let invoiced := subscription.invoiced input.type event processedAt
        let (database, updated) ← projectInvoice database invoiced processedAt
        let (database, _) ← completeStripeEvent database event.stripeEventId .applied
          (invoiceMessage input.type invoiced.paymentState) processedAt
        .ok (database,
          { duplicate := !inserted
            processingResult := .applied
            customer := getBillingCustomer database subscription.organizationId
            subscription := some updated })

/-- A rejected invoice is recorded on the event unless another delivery got there
first. -/
def recordInvoiceFailure (database : CloudDatabase) (event : StripeEventRow)
    (input : StripeInvoiceProjectionInput) (failure : Failure) (processedAt : Int) :
    CloudDatabase × Except Failure StripeBillingProjectionResult :=
  let current := lookup (·.stripeEventId) database.tables.stripeEvents event.stripeEventId
  if current.map (·.attemptCount) = some event.attemptCount then
    match failStripeEvent database input.event failure.message processedAt with
    | .ok (database, _) => (database, .error failure)
    | .error other => (database, .error other)
  else (database, .error failure)

def applyStripeInvoiceProjection (database : CloudDatabase) (input : StripeInvoiceProjectionInput) :
    CloudDatabase × Except Failure StripeBillingProjectionResult :=
  match registerStripeEvent database input.event with
  | .error failure => (database, .error failure)
  | .ok (database, event, inserted) =>
      match getBillingSubscriptionByStripeId database input.stripeSubscriptionId with
      | .error failure => (database, .error failure)
      | .ok existing =>
          if inserted = false ∧ event.isSettled = true then
            (database, .ok
              { duplicate := true
                processingResult := event.processingResult
                customer := existing.bind fun subscription =>
                  getBillingCustomer database subscription.organizationId
                subscription := existing })
          else
            match stripeTimestamp input.now "processedAt" with
            | .error failure => (database, .error failure)
            | .ok processedAt =>
                match invoiceProjection database event inserted input processedAt with
                | .ok (database, result) => (database, .ok result)
                | .error failure => recordInvoiceFailure database event input failure processedAt

/-! ## What the projection writes -/

section Specs

variable {Holds : Tables → Prop} {database after : CloudDatabase} {event : StripeEventRow}
  {inserted : Bool} {input : StripeInvoiceProjectionInput} {processedAt : Int}

theorem getBillingSubscriptionByStripeId_mem {stripeSubscriptionId : String}
    {subscription : BillingSubscriptionRow}
    (found : getBillingSubscriptionByStripeId database stripeSubscriptionId =
      .ok (some subscription)) : subscription ∈ database.tables.subscriptions := by
  obtain ⟨_, _, found⟩ := bind_ok.mp found
  exact lookup_mem (Except.ok.inj found)

theorem lookup_invoiceSubscription (updated : BillingSubscriptionRow) (tables : Tables)
    (organizationId : String) :
    lookup (·.organizationId) (invoiceSubscription updated tables).subscriptions organizationId =
      (lookup (·.organizationId) tables.subscriptions organizationId).map fun subscription =>
        if decide (subscription.organizationId = updated.organizationId) = true then
          updated.withPayment subscription
        else subscription :=
  lookup_updateWhere fun _ _ => rfl

/-- A newer invoice rewrites the payment columns of its subscription, and the seats
are refreshed from the row that is stored then. -/
theorem projectInvoice_ok {invoiced updated : BillingSubscriptionRow}
    (projected : projectInvoice database invoiced processedAt = .ok (after, updated)) :
    lookup (·.organizationId) (invoiceSubscription invoiced database.tables).subscriptions
        (trim invoiced.organizationId) = some updated ∧
      after.tables = reconciled updated processedAt
        (invoiceSubscription invoiced database.tables) := by
  obtain ⟨stored, update, projected⟩ := bind_ok.mp projected
  have written := Store.execute_ok.mp update
  split at projected
  · cases projected
  · rename_i found resolved
    obtain ⟨refreshed, reconcile, returned⟩ := bind_ok.mp projected
    have refreshedTables := Store.execute_ok.mp reconcile
    cases returned
    constructor
    · rw [← written]
      exact resolved
    · rw [refreshedTables, written]

theorem invoiceProjection_preserves
    (stable : ∀ before after, SameSeats before after → Holds before → Holds after)
    (projects : ∀ database after subscription event updated,
      subscription ∈ database.tables.subscriptions →
      projectInvoice database (subscription.invoiced input.type event processedAt) processedAt =
        .ok (after, updated) →
      Holds database.tables → Holds after.tables)
    {result : StripeBillingProjectionResult}
    (projected : invoiceProjection database event inserted input processedAt = .ok (after, result))
    (start : Holds database.tables) : Holds after.tables := by
  obtain ⟨existing, found, projected⟩ := bind_ok.mp projected
  cases existing with
  | none => cases projected
  | some subscription =>
      simp only at projected
      split at projected
      · obtain ⟨⟨completed, row⟩, complete, returned⟩ := bind_ok.mp projected
        cases returned
        exact stable _ _ (.of_stripeEvents ⟨_, completeStripeEvent_ok complete⟩) start
      · obtain ⟨⟨projectedDatabase, updated⟩, project, projected⟩ := bind_ok.mp projected
        obtain ⟨⟨completed, row⟩, complete, returned⟩ := bind_ok.mp projected
        cases returned
        have kept := projects database projectedDatabase subscription event updated
          (getBillingSubscriptionByStripeId_mem found) project start
        exact stable _ _ (.of_stripeEvents ⟨_, completeStripeEvent_ok complete⟩) kept

theorem recordInvoiceFailure_sameSeats {failure : Failure} :
    SameSeats database.tables
      (recordInvoiceFailure database event input failure processedAt).1.tables := by
  unfold recordInvoiceFailure
  simp only
  split
  · split
    · rename_i failed row fail
      exact .of_stripeEvents (failStripeEvent_frame fail)
    · exact .refl _
  · exact .refl _

/-- The invariant rule of the projection of an invoice event. -/
theorem applyStripeInvoiceProjection_preserves (Holds : Tables → Prop)
    (stable : ∀ before after, SameSeats before after → Holds before → Holds after)
    (projects : ∀ database after subscription event updated,
      subscription ∈ database.tables.subscriptions →
      projectInvoice database (subscription.invoiced input.type event input.now) input.now =
        .ok (after, updated) →
      Holds database.tables → Holds after.tables)
    (start : Holds database.tables) :
    Holds (applyStripeInvoiceProjection database input).1.tables := by
  unfold applyStripeInvoiceProjection
  split
  · exact start
  · rename_i registered event inserted register
    have kept := stable _ _ (.of_stripeEvents (registerStripeEvent_frame register)) start
    split
    · exact kept
    · split
      · exact kept
      · split
        · exact kept
        · rename_i processedAt timestamp
          obtain rfl := (stripeTimestamp_ok.mp timestamp).2
          split
          · rename_i after result projected
            exact invoiceProjection_preserves stable projects projected kept
          · exact stable _ _ recordInvoiceFailure_sameSeats kept

end Specs

end NebulaCloud.Database
