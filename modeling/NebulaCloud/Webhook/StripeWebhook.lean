import NebulaCloud.Database.Invoice
import NebulaCloud.Platform.Json

namespace NebulaCloud.Webhook

open NebulaCloud.Data NebulaCloud.Database NebulaCloud.Platform

/-! # The Stripe webhook

A verified payload is registered, turned into a projection by its event type and
applied.  Every failure after the registration is recorded on the event. -/

def requiredString (value : Option Json) (field : String) : Except Failure String :=
  match value with
  | some (.string text) =>
      if trim text = "" then .error (.typeError ("Stripe " ++ field ++ " is required"))
      else .ok (trim text)
  | _ => .error (.typeError ("Stripe " ++ field ++ " is required"))

def optionalString : Option Json → Option String
  | some (.string text) => if trim text = "" then none else some (trim text)
  | _ => none

def expandableId (value : Option Json) : Option String :=
  match asRecord value with
  | some record => optionalString (record.get "id")
  | none => optionalString value

def secondsToMilliseconds (value : Option Json) (field : String) : Except Failure (Option Int) :=
  match value with
  | none | some .null => .ok none
  | some value =>
      match asSafeInteger (some value) with
      | none => .error (.typeError ("Stripe " ++ field ++ " is invalid"))
      | some seconds =>
          if seconds < 0 ∨ maxSafeInteger < seconds * 1000 then
            .error (.typeError ("Stripe " ++ field ++ " is invalid"))
          else .ok (some (seconds * 1000))

def organizationMetadataKey : String := "nubols_organization_id"

def eventOrganizationId (object : JsonRecord) : Option String :=
  (asRecord (object.get "metadata")).bind fun metadata =>
    optionalString (metadata.get organizationMetadataKey)

def getBillingCustomerByStripeId (database : CloudDatabase) (stripeCustomerId : String) :
    Except Failure (Option BillingCustomerRow) := do
  let stripeCustomerId ← requiredStripeText stripeCustomerId "stripeCustomerId" 255
  .ok (lookup (·.stripeCustomerId) database.tables.billingCustomers stripeCustomerId)

def customerOrganizationId (database : CloudDatabase) (object : JsonRecord)
    (stripeCustomerId : String) : Except Failure String :=
  match eventOrganizationId object with
  | some organizationId => .ok organizationId
  | none => do
      match ← getBillingCustomerByStripeId database stripeCustomerId with
      | none => .error (.typeError ("Stripe " ++ organizationMetadataKey ++ " is required"))
      | some customer =>
          if customer.organizationId = "" then
            .error (.typeError ("Stripe " ++ organizationMetadataKey ++ " is required"))
          else .ok customer.organizationId

/-- The parts of `StripeBillingProjectionInput` that the payload gives. -/
structure Projection where
  organizationId : String
  customer : Option BillingCustomerInput
  subscription : Option BillingSubscriptionInput
deriving DecidableEq, Repr

/-- The country of an address, when there is one. -/
def addressCountry (address : Option Json) : Option String :=
  (asRecord address).bind fun address => optionalString (address.get "country")

def customerProjection (database : CloudDatabase) (object : JsonRecord) :
    Except Failure Projection := do
  let stripeCustomerId ← requiredString (object.get "id") "customer id"
  let organizationId ← customerOrganizationId database object stripeCustomerId
  .ok
    { organizationId
      customer := some
        { stripeCustomerId
          billingEmail := optionalString (object.get "email")
          country := addressCountry (object.get "address") }
      subscription := none }

def checkoutProjection (database : CloudDatabase) (object : JsonRecord) :
    Except Failure Projection :=
  match expandableId (object.get "customer") with
  | none => .error (.typeError "Stripe Checkout customer id is required")
  | some stripeCustomerId => do
      let details := asRecord (object.get "customer_details")
      let organizationId ← customerOrganizationId database object stripeCustomerId
      .ok
        { organizationId
          customer := some
            { stripeCustomerId
              billingEmail := details.bind fun details => optionalString (details.get "email")
              country := details.bind fun details => addressCountry (details.get "address") }
          subscription := none }

/-- The items that are records; anything but a list of items counts as none. -/
def subscriptionItems (object : JsonRecord) : List JsonRecord :=
  match (asRecord (object.get "items")).bind fun items => items.get "data" with
  | some (.array elements) => elements.filterMap fun element => asRecord (some element)
  | _ => []

def subscriptionProjection (database : CloudDatabase) (object : JsonRecord) :
    Except Failure Projection :=
  match expandableId (object.get "customer") with
  | none => .error (.typeError "Stripe subscription customer id is required")
  | some stripeCustomerId =>
      match subscriptionItems object with
      | [item] =>
          match asRecord (item.get "price") with
          | none => .error (.typeError "Stripe subscription price is required")
          | some price =>
              match asSafeInteger (item.get "quantity") with
              | none => .error (.typeError "Stripe subscription quantity is invalid")
              | some quantity =>
                  if quantity < 0 then .error (.typeError "Stripe subscription quantity is invalid")
                  else do
                    let currentPeriodEnd ← secondsToMilliseconds
                      (coalesce (item.get "current_period_end") (object.get "current_period_end"))
                      "subscription period end"
                    let organizationId ← customerOrganizationId database object stripeCustomerId
                    let stripeSubscriptionId ← requiredString (object.get "id") "subscription id"
                    let stripePriceId ← requiredString (price.get "id") "price id"
                    let status ← requiredString (object.get "status") "subscription status"
                    .ok
                      { organizationId
                        customer := none
                        subscription := some
                          { stripeSubscriptionId
                            stripePriceId
                            status
                            entitledSeats := quantity
                            cancelAtPeriodEnd :=
                              match object.get "cancel_at_period_end" with
                              | some (.boolean true) => true
                              | _ => false
                            currentPeriodEnd } }
      | _ => .error (.typeError "Nubols subscriptions require exactly one Stripe price")

def invoiceSubscriptionId (object : JsonRecord) : Except Failure String :=
  match expandableId (object.get "subscription") with
  | some legacy => .ok legacy
  | none =>
      let details := (asRecord (object.get "parent")).bind fun parent =>
        asRecord (parent.get "subscription_details")
      match details.bind fun details => expandableId (details.get "subscription") with
      | some current => .ok current
      | none => .error (.typeError "Stripe invoice subscription id is required")

def ignoreStripeEvent (database : CloudDatabase) (input : StripeEventInput)
    (processingMessage : String) (now : Int) : Except Failure (CloudDatabase × StripeEventRow) := do
  let (database, event, _) ← registerStripeEvent database input
  if event.isSettled then .ok (database, event)
  else
    let processedAt ← stripeTimestamp now "processedAt"
    completeStripeEvent database event.stripeEventId .ignored processingMessage processedAt

/-- What the clock says when the event is received, when it is processed and when a
failure is recorded. -/
structure WebhookClock where
  receivedAt : Int
  processedAt : Int
  failedAt : Int
deriving DecidableEq, Repr

/-- `value[key]`, where only `null` has no properties.  The engine words its own type
errors; the texts here stand for them. -/
def propertyOf (value : Json) (key : String) : Except Failure (Option Json) :=
  match value with
  | .null => .error (.typeError "null is not an object")
  | .object fields => .ok (fields.lookup key)
  | _ => .ok none

/-- The receiver of `trim`. -/
def trimmable : Option Json → Except Failure String
  | some (.string text) => .ok text
  | _ => .error (.typeError "value.trim is not a function")

def eventInput (event : Json) (receivedAt : Int) : Except Failure StripeEventInput := do
  match ← secondsToMilliseconds (← propertyOf event "created") "event creation time" with
  | none => .error (.typeError "Stripe event creation time is required")
  | some eventCreatedAt => do
      let stripeEventId ← trimmable (← propertyOf event "id")
      let type ← trimmable (← propertyOf event "type")
      .ok { stripeEventId, type, eventCreatedAt, receivedAt }

structure StripeWebhookResult where
  eventId : String
  type : String
  duplicate : Bool
  processingResult : StripeEventProcessingResult
deriving DecidableEq, Repr

/-- `event.data.object`, as a record. -/
def eventObject (event : Json) : Except Failure JsonRecord := do
  match ← propertyOf event "data" with
  | none => .error (.typeError "undefined is not an object")
  | some data => do
      match asRecord (← propertyOf data "object") with
      | none => .error (.typeError "Stripe event object is invalid")
      | some object => .ok object

inductive ProjectedType
  | customer | checkout | subscription
  | invoice (type : InvoiceEventType)
  | other
deriving DecidableEq, Repr

/-- The cases of the `switch`. -/
def projectedType (type : String) : ProjectedType :=
  if type = "customer.created" ∨ type = "customer.updated" then .customer
  else if type = "checkout.session.completed" then .checkout
  else if type = "customer.subscription.created" ∨ type = "customer.subscription.updated" ∨
      type = "customer.subscription.deleted" then .subscription
  else if type = "invoice.paid" then .invoice .paid
  else if type = "invoice.payment_failed" then .invoice .paymentFailed
  else .other

/-- Apply a projection that could be read from the payload. -/
def applyProjection (database : CloudDatabase) (input : StripeEventInput) (now : Int) :
    Except Failure Projection → CloudDatabase × Except Failure StripeEventProcessingResult
  | .error failure => (database, .error failure)
  | .ok projection =>
      let outcome := applyStripeBillingProjection database
        { event := input
          organizationId := projection.organizationId
          customer := projection.customer
          subscription := projection.subscription
          now }
      (outcome.1, outcome.2.map (·.processingResult))

/-- Apply an invoice whose subscription could be read from the payload. -/
def applyInvoice (database : CloudDatabase) (input : StripeEventInput) (type : InvoiceEventType)
    (now : Int) :
    Except Failure String → CloudDatabase × Except Failure StripeEventProcessingResult
  | .error failure => (database, .error failure)
  | .ok stripeSubscriptionId =>
      let outcome := applyStripeInvoiceProjection database
        { stripeEventId := input.stripeEventId
          type
          eventCreatedAt := input.eventCreatedAt
          receivedAt := input.receivedAt
          stripeSubscriptionId
          now }
      (outcome.1, outcome.2.map (·.processingResult))

/-- The body of the `try` statement. -/
def dispatch (database : CloudDatabase) (event : Json) (input : StripeEventInput) (now : Int) :
    CloudDatabase × Except Failure StripeEventProcessingResult :=
  match eventObject event with
  | .error failure => (database, .error failure)
  | .ok object =>
      match projectedType input.type with
      | .customer => applyProjection database input now (customerProjection database object)
      | .checkout => applyProjection database input now (checkoutProjection database object)
      | .subscription => applyProjection database input now (subscriptionProjection database object)
      | .invoice type => applyInvoice database input type now (invoiceSubscriptionId object)
      | .other =>
          match ignoreStripeEvent database input "event type is not projected" now with
          | .error failure => (database, .error failure)
          | .ok (database, _) => (database, .ok .ignored)

def getStripeEvent (database : CloudDatabase) (stripeEventId : String) :
    Except Failure (Option StripeEventRow) := do
  let stripeEventId ← requiredStripeText stripeEventId "stripeEventId" 255
  .ok (lookup (·.stripeEventId) database.tables.stripeEvents stripeEventId)

/-- The `catch` clause: a failure that nobody has recorded yet is recorded, and the
error is thrown on. -/
def recordWebhookFailure (database : CloudDatabase) (input : StripeEventInput)
    (registered : StripeEventRow) (failure : Failure) (now : Int) : CloudDatabase × Failure :=
  match getStripeEvent database input.stripeEventId with
  | .error other => (database, other)
  | .ok current =>
      if current.map (·.attemptCount) = some registered.attemptCount then
        match failStripeEvent database input failure.message now with
        | .ok (database, _) => (database, failure)
        | .error other => (database, other)
      else (database, failure)

/-- `StripeWebhookProcessor.process` after the signature check. -/
def processEvent (database : CloudDatabase) (event : Json) (clock : WebhookClock) :
    CloudDatabase × Except Failure StripeWebhookResult :=
  match eventInput event clock.receivedAt with
  | .error failure => (database, .error failure)
  | .ok input =>
      match registerStripeEvent database input with
      | .error failure => (database, .error failure)
      | .ok (database, registered, inserted) =>
          if registered.isSettled then
            (database, .ok ⟨input.stripeEventId, input.type, true, registered.processingResult⟩)
          else
            match dispatch database event input clock.processedAt with
            | (database, .ok result) =>
                (database, .ok ⟨input.stripeEventId, input.type, !inserted, result⟩)
            | (database, .error failure) =>
                let (database, thrown) :=
                  recordWebhookFailure database input registered failure clock.failedAt
                (database, .error thrown)

/-- `StripeWebhookProcessor.process`; `constructEvent` is the SDK's check of the
signature, which parses the payload. -/
def process {Payload : Type} (constructEvent : Payload → String → Option Json)
    (database : CloudDatabase) (rawBody : Payload) (signature : String) (clock : WebhookClock) :
    CloudDatabase × Except Failure StripeWebhookResult :=
  match constructEvent rawBody signature with
  | none => (database, .error (.error "Stripe webhook signature verification failed"))
  | some event => processEvent database event clock

end NebulaCloud.Webhook
