import NebulaCloud.Billing.Delivery
import NebulaCloud.Billing.SeatCapacity
import NebulaCloud.Data.Register
import Mathlib

namespace NebulaCloud.Billing

open NebulaCloud.Data NebulaCloud.Database NebulaCloud.Platform

/-! # Deliveries in any order

The billing row of an organization is a register: whatever the order of the
deliveries and however often they are repeated, it ends with the snapshot of the
greatest event key. -/

/-- A Stripe event of one organization. -/
structure BillingEvent where
  stripeEventId : String
  type : String
  eventCreatedAt : Int
  customer : Option BillingCustomerInput
  subscription : Option BillingSubscriptionInput
deriving DecidableEq, Repr

structure Delivery where
  event : BillingEvent
  receivedAt : Int
  now : Int
deriving DecidableEq, Repr

/-- The stored form of the identifier. -/
def BillingEvent.id (event : BillingEvent) : String := trim event.stripeEventId

/-- Creation time first, identifier second. -/
def BillingEvent.key (event : BillingEvent) : Int ×ₗ String := toLex (event.eventCreatedAt, event.id)

def BillingEvent.source (organizationId : String) (event : BillingEvent) (updatedAt : Int) :
    ProjectionSource where
  organizationId := organizationId
  stripeEventId := event.id
  eventCreatedAt := event.eventCreatedAt
  updatedAt := updatedAt

def BillingEvent.input (event : BillingEvent) (receivedAt : Int) : StripeEventInput where
  stripeEventId := event.stripeEventId
  type := event.type
  eventCreatedAt := event.eventCreatedAt
  receivedAt := receivedAt

def Delivery.input (organizationId : String) (delivery : Delivery) : StripeBillingProjectionInput where
  event := delivery.event.input delivery.receivedAt
  organizationId := organizationId
  customer := delivery.event.customer
  subscription := delivery.event.subscription
  now := delivery.now

def deliver (organizationId : String) (database : CloudDatabase) (delivery : Delivery) :
    CloudDatabase :=
  (applyStripeBillingProjection database (delivery.input organizationId)).1

/-! ## Snapshots -/

/-- A customer row without its creation and update time. -/
def customerSnapshot (row : BillingCustomerRow) : BillingCustomerRow :=
  { row with createdAt := 0, updatedAt := 0 }

/-- A subscription row without its creation and update time. -/
def subscriptionSnapshot (row : BillingSubscriptionRow) : BillingSubscriptionRow :=
  { row with createdAt := 0, updatedAt := 0 }

/-- The customer snapshot that the event carries. -/
def BillingEvent.customerSnapshot (organizationId : String) (event : BillingEvent) :
    Option BillingCustomerRow :=
  event.customer.bind fun part =>
    (billingCustomerCandidate (event.source organizationId 0) part).toOption

/-- The subscription snapshot that the event carries. -/
def BillingEvent.subscriptionSnapshot (organizationId : String) (event : BillingEvent) :
    Option BillingSubscriptionRow :=
  event.subscription.bind fun part =>
    (billingSubscriptionCandidate (event.source organizationId 0) part).toOption

/-- The validators and the checks of the tables accept the event. -/
structure BillingEvent.WellFormed (organizationId : String) (event : BillingEvent) : Prop where
  registered : ∃ row, stripeEventCandidate (event.input 0) = .ok row ∧ row.Checks
  customer : ∀ part ∈ event.customer, ∃ row,
    billingCustomerCandidate (event.source organizationId 0) part = .ok row ∧ row.Checks
  subscription : ∀ part ∈ event.subscription,
    IsNonNegativeSafeInteger part.entitledSeats ∧
      (∀ currentPeriodEnd ∈ part.currentPeriodEnd, IsNonNegativeSafeInteger currentPeriodEnd) ∧
      ∃ row, billingSubscriptionCandidate (event.source organizationId 0) part = .ok row ∧ row.Checks

instance (organizationId : String) (event : BillingEvent) :
    Decidable (event.WellFormed organizationId) :=
  decidable_of_iff (_ ∧ _ ∧ _)
    ⟨fun parts => ⟨parts.1, parts.2.1, parts.2.2⟩,
      fun formed => ⟨formed.registered, formed.customer, formed.subscription⟩⟩

/-- The clock values of a delivery are timestamps. -/
def Delivery.Timely (delivery : Delivery) : Prop :=
  IsNonNegativeSafeInteger delivery.receivedAt ∧ IsNonNegativeSafeInteger delivery.now

instance (delivery : Delivery) : Decidable delivery.Timely := inferInstanceAs (Decidable (_ ∧ _))

/-- The organization exists and has neither billing rows nor paid seats, none of the
events is known, and no other organization uses their identifiers. -/
structure Unbilled (organizationId : String) (events : List BillingEvent) (tables : Tables) : Prop where
  trimmed : trim organizationId = organizationId
  named : organizationId ≠ ""
  known : organizationId ∈ tables.organizationIds
  seats : assignedSeats tables organizationId = 0
  noCustomer : lookup (·.organizationId) tables.billingCustomers organizationId = none
  noSubscription : lookup (·.organizationId) tables.subscriptions organizationId = none
  unrecorded : ∀ event ∈ events, lookup (·.stripeEventId) tables.stripeEvents event.id = none
  foreignCustomers : ∀ row ∈ tables.billingCustomers, ∀ event ∈ events, ∀ part ∈ event.customer,
    row.stripeCustomerId ≠ trim part.stripeCustomerId
  foreignSubscriptions : ∀ row ∈ tables.subscriptions, ∀ event ∈ events,
    ∀ part ∈ event.subscription, row.stripeSubscriptionId ≠ trim part.stripeSubscriptionId

section Registers

variable {organizationId : String} {delivered : List BillingEvent} {event held : BillingEvent}
  {start tables : Tables}

theorem eventSupersedes_iff :
    eventSupersedes event.eventCreatedAt event.id held.eventCreatedAt held.id = true ↔
      held.key < event.key := by
  simp only [eventSupersedes, BillingEvent.key, Prod.Lex.toLex_lt_toLex, Bool.or_eq_true,
    Bool.and_eq_true, decide_eq_true_eq]
  rw [eq_comm (a := event.eventCreatedAt)]

theorem customerSnapshot_eq_some {row : BillingCustomerRow}
    (snapshot : some row = event.customerSnapshot organizationId) :
    ∃ part ∈ event.customer,
      billingCustomerCandidate (event.source organizationId 0) part = .ok row := by
  obtain ⟨part, carried, accepted⟩ := Option.bind_eq_some_iff.mp snapshot.symm
  refine ⟨part, carried, ?_⟩
  cases candidate : billingCustomerCandidate (event.source organizationId 0) part with
  | error failure => simp [candidate, Except.toOption] at accepted
  | ok found => simpa [candidate, Except.toOption] using accepted

theorem subscriptionSnapshot_eq_some {row : BillingSubscriptionRow}
    (snapshot : some row = event.subscriptionSnapshot organizationId) :
    ∃ part ∈ event.subscription,
      billingSubscriptionCandidate (event.source organizationId 0) part = .ok row := by
  obtain ⟨part, carried, accepted⟩ := Option.bind_eq_some_iff.mp snapshot.symm
  refine ⟨part, carried, ?_⟩
  cases candidate : billingSubscriptionCandidate (event.source organizationId 0) part with
  | error failure => simp [candidate, Except.toOption] at accepted
  | ok found => simpa [candidate, Except.toOption] using accepted

/-- The customer row of the organization is the register of the delivered customers,
and the other rows were there at the start. -/
structure CustomerRegister (organizationId : String) (start : Tables)
    (delivered : List BillingEvent) (tables : Tables) : Prop where
  others : ∀ row ∈ tables.billingCustomers,
    row.organizationId = organizationId ∨ row ∈ start.billingCustomers
  latest : ∃ latest, IsLatest BillingEvent.key (delivered.filter (·.customer.isSome)) latest ∧
    (lookup (·.organizationId) tables.billingCustomers organizationId).map (some ∘ customerSnapshot) =
      latest.map (BillingEvent.customerSnapshot organizationId)

/-- The subscription row of the organization is the register of the delivered
subscriptions, and the other rows were there at the start. -/
structure SubscriptionRegister (organizationId : String) (start : Tables)
    (delivered : List BillingEvent) (tables : Tables) : Prop where
  others : ∀ row ∈ tables.subscriptions,
    row.organizationId = organizationId ∨ row ∈ start.subscriptions
  latest : ∃ latest, IsLatest BillingEvent.key (delivered.filter (·.subscription.isSome)) latest ∧
    (lookup (·.organizationId) tables.subscriptions organizationId).map
        (some ∘ subscriptionSnapshot) =
      latest.map (BillingEvent.subscriptionSnapshot organizationId)

theorem source_updatedAt (now updatedAt : Int) :
    { event.source organizationId now with updatedAt } = event.source organizationId updatedAt := rfl

theorem customerSnapshot_candidate {candidate : BillingCustomerRow} {part : BillingCustomerInput}
    {now : Int} (carried : event.customer = some part)
    (accepted : billingCustomerCandidate (event.source organizationId now) part = .ok candidate) :
    some (customerSnapshot candidate) = event.customerSnapshot organizationId := by
  have atZero := billingCustomerCandidate_updatedAt 0 accepted
  rw [source_updatedAt] at atZero
  rw [BillingEvent.customerSnapshot, carried, Option.bind_some, atZero]
  rfl

theorem subscriptionSnapshot_candidate {candidate : BillingSubscriptionRow}
    {part : BillingSubscriptionInput} {now : Int} (carried : event.subscription = some part)
    (accepted : billingSubscriptionCandidate (event.source organizationId now) part = .ok candidate) :
    some (subscriptionSnapshot candidate) = event.subscriptionSnapshot organizationId := by
  have atZero := billingSubscriptionCandidate_updatedAt 0 accepted
  rw [source_updatedAt] at atZero
  rw [BillingEvent.subscriptionSnapshot, carried, Option.bind_some, atZero]
  rfl

theorem BillingEvent.WellFormed.customer_at {part : BillingCustomerInput}
    (wellFormed : event.WellFormed organizationId) (now : Int) (carried : event.customer = some part) :
    ∃ candidate, billingCustomerCandidate (event.source organizationId now) part = .ok candidate := by
  obtain ⟨row, atZero, _⟩ := wellFormed.customer part carried
  have accepted := billingCustomerCandidate_updatedAt now atZero
  rw [source_updatedAt] at accepted
  exact ⟨_, accepted⟩

theorem BillingEvent.WellFormed.subscription_at {part : BillingSubscriptionInput}
    (wellFormed : event.WellFormed organizationId) (now : Int)
    (carried : event.subscription = some part) :
    ∃ candidate, billingSubscriptionCandidate (event.source organizationId now) part = .ok candidate := by
  obtain ⟨_, _, row, atZero, _⟩ := wellFormed.subscription part carried
  have accepted := billingSubscriptionCandidate_updatedAt now atZero
  rw [source_updatedAt] at accepted
  exact ⟨_, accepted⟩

/-- A customer upsert writes the register. -/
theorem CustomerRegister.upsert {candidate : BillingCustomerRow} {part : BillingCustomerInput}
    {now : Int} (carried : event.customer = some part)
    (accepted : billingCustomerCandidate (event.source organizationId now) part = .ok candidate)
    (register : CustomerRegister organizationId start delivered tables) :
    CustomerRegister organizationId start (delivered ++ [event])
      (upsertBillingCustomer candidate tables).1 := by
  obtain ⟨latest, written, agrees⟩ := register.latest
  obtain ⟨organization, _, createdAt, identifier, _⟩ := billingCustomerCandidate_ok accepted
  have snapshot := customerSnapshot_candidate carried accepted
  have own : candidate.organizationId = organizationId := organization
  have time : candidate.lastEventCreatedAt = event.eventCreatedAt := createdAt
  have id : candidate.lastStripeEventId = event.id := identifier
  constructor
  · exact forall_upsert register.others (.inl organization) fun _ _ => .inl organization
  · refine ⟨some (keepLatest BillingEvent.key event latest), ?_, ?_⟩
    · rw [List.filter_append, List.filter_singleton, carried]
      exact written.write
    · rw [lookup_upsertBillingCustomer, if_pos own]
      apply congrArg some
      apply view_upserted agrees snapshot
      · intro row held same
        obtain ⟨heldPart, _, heldAccepted⟩ := customerSnapshot_eq_some same
        obtain ⟨_, _, heldCreatedAt, heldIdentifier, _⟩ := billingCustomerCandidate_ok heldAccepted
        have heldTime : row.lastEventCreatedAt = held.eventCreatedAt := heldCreatedAt
        have heldId : row.lastStripeEventId = held.id := heldIdentifier
        rw [← eventSupersedes_iff, BillingCustomerRow.supersedes, time, id, heldTime, heldId]
      · intro row held _
        exact snapshot

/-- So does a subscription upsert: without invoices the stored payment columns are
those of a fresh row. -/
theorem SubscriptionRegister.upsert {candidate : BillingSubscriptionRow}
    {part : BillingSubscriptionInput} {now : Int} (carried : event.subscription = some part)
    (accepted : billingSubscriptionCandidate (event.source organizationId now) part = .ok candidate)
    (register : SubscriptionRegister organizationId start delivered tables) :
    SubscriptionRegister organizationId start (delivered ++ [event])
      (upsertSubscription candidate tables).1 := by
  obtain ⟨latest, written, agrees⟩ := register.latest
  obtain ⟨organization, _, createdAt, identifier⟩ := billingSubscriptionCandidate_ok accepted
  have snapshot := subscriptionSnapshot_candidate carried accepted
  have own : candidate.organizationId = organizationId := organization
  have time : candidate.lastEventCreatedAt = event.eventCreatedAt := createdAt
  have id : candidate.lastStripeEventId = event.id := identifier
  constructor
  · exact forall_upsert register.others (.inl organization) fun _ _ => .inl organization
  · refine ⟨some (keepLatest BillingEvent.key event latest), ?_, ?_⟩
    · rw [List.filter_append, List.filter_singleton, carried]
      exact written.write
    · rw [lookup_upsertSubscription, if_pos own]
      apply congrArg some
      apply view_upserted agrees snapshot
      · intro row held same
        obtain ⟨heldPart, _, heldAccepted⟩ := subscriptionSnapshot_eq_some same
        obtain ⟨_, _, heldCreatedAt, heldIdentifier⟩ := billingSubscriptionCandidate_ok heldAccepted
        have heldTime : row.lastEventCreatedAt = held.eventCreatedAt := heldCreatedAt
        have heldId : row.lastStripeEventId = held.id := heldIdentifier
        rw [← eventSupersedes_iff, BillingSubscriptionRow.supersedes, time, id, heldTime, heldId]
      · intro row held same
        obtain ⟨heldPart, _, heldAccepted⟩ := subscriptionSnapshot_eq_some same
        obtain ⟨_, _, heldState, heldGrace, heldInvoice, heldInvoiceId⟩ :=
          billingSubscriptionCandidate_row heldAccepted
        obtain ⟨_, _, state, grace, invoice, invoiceId⟩ := billingSubscriptionCandidate_row accepted
        have unpaid : subscriptionSnapshot (candidate.replaced row) = subscriptionSnapshot candidate := by
          have rowState : row.paymentState = .current := heldState
          have rowGrace : row.graceEndsAt = none := heldGrace
          have rowInvoice : row.lastInvoiceEventCreatedAt = none := heldInvoice
          have rowInvoiceId : row.lastInvoiceEventId = none := heldInvoiceId
          simp only [subscriptionSnapshot, BillingSubscriptionRow.replaced, rowState, rowGrace,
            rowInvoice, rowInvoiceId, state, grace, invoice, invoiceId]
        rw [Function.comp_apply, unpaid]
        exact snapshot

theorem CustomerRegister.skip (absent : event.customer = none)
    (register : CustomerRegister organizationId start delivered tables) :
    CustomerRegister organizationId start (delivered ++ [event]) tables := by
  refine ⟨register.others, ?_⟩
  rw [List.filter_append, List.filter_singleton, absent]
  simpa using register.latest

theorem SubscriptionRegister.skip (absent : event.subscription = none)
    (register : SubscriptionRegister organizationId start delivered tables) :
    SubscriptionRegister organizationId start (delivered ++ [event]) tables := by
  refine ⟨register.others, ?_⟩
  rw [List.filter_append, List.filter_singleton, absent]
  simpa using register.latest

end Registers

section Deliveries

variable {organizationId : String} {events delivered : List BillingEvent} {event : BillingEvent}
  {start : Tables} {database : CloudDatabase}

/-- A customer part of the organization goes through and is written to the register. -/
theorem projectCustomerPart_converges (now : Int) (trimmed : trim organizationId = organizationId)
    (known : organizationId ∈ database.tables.organizationIds)
    (wellFormed : event.WellFormed organizationId)
    (foreign : ∀ row ∈ start.billingCustomers, ∀ part ∈ event.customer,
      row.stripeCustomerId ≠ trim part.stripeCustomerId)
    (register : CustomerRegister organizationId start delivered database.tables) :
    ∃ after customer applied,
      projectCustomerPart database (event.source organizationId now) event.customer =
        .ok (after, customer, applied) ∧
      (∃ billingCustomers, after.tables = { database.tables with billingCustomers }) ∧
      CustomerRegister organizationId start (delivered ++ [event]) after.tables := by
  cases carried : event.customer with
  | none =>
      exact ⟨database, _, false, rfl, ⟨database.tables.billingCustomers, rfl⟩, register.skip carried⟩
  | some part =>
      obtain ⟨candidate, accepted⟩ := wellFormed.customer_at now carried
      obtain ⟨organization, stripeCustomerId, _, _, checks⟩ := billingCustomerCandidate_ok accepted
      have own : candidate.organizationId = organizationId := organization
      have free : ∀ customer ∈ database.tables.billingCustomers,
          customer.organizationId ≠ candidate.organizationId →
          customer.stripeCustomerId ≠ candidate.stripeCustomerId := by
        intro customer stored different same
        rcases register.others customer stored with same' | before
        · exact different (same'.trans own.symm)
        · exact foreign customer before part carried (same.trans stripeCustomerId)
      have owned : candidate.organizationId ∈ database.tables.organizationIds := by
        rw [own]
        exact known
      have consistent := upsertBillingCustomer_consistent checks owned free
      have resolved : trim (event.source organizationId now).organizationId =
          (event.source organizationId now).organizationId := trimmed
      obtain ⟨after, customer, projected⟩ :=
        projectBillingCustomer_succeeds resolved accepted consistent
      obtain ⟨_, again, written, _⟩ := projectBillingCustomer_ok projected
      obtain rfl := Except.ok.inj (accepted.symm.trans again)
      have registered := register.upsert carried accepted
      rw [← written] at registered
      exact ⟨after, some customer, _, projectCustomerPart_some projected, ⟨_, written⟩, registered⟩

/-- So does a subscription part: without seats no quantity is too small. -/
theorem projectSubscriptionPart_converges (now : Int) (trimmed : trim organizationId = organizationId)
    (known : organizationId ∈ database.tables.organizationIds)
    (seats : assignedSeats database.tables organizationId = 0)
    (wellFormed : event.WellFormed organizationId)
    (foreign : ∀ row ∈ start.subscriptions, ∀ part ∈ event.subscription,
      row.stripeSubscriptionId ≠ trim part.stripeSubscriptionId)
    (register : SubscriptionRegister organizationId start delivered database.tables) :
    ∃ after subscription applied,
      projectSubscriptionPart database (event.source organizationId now) event.subscription =
        .ok (after, subscription, applied) ∧
      (∃ subscriptions, after.tables = { database.tables with subscriptions }) ∧
      SubscriptionRegister organizationId start (delivered ++ [event]) after.tables := by
  cases carried : event.subscription with
  | none =>
      exact ⟨database, _, false, rfl, ⟨database.tables.subscriptions, rfl⟩, register.skip carried⟩
  | some part =>
      obtain ⟨quantity, periodEnd, _⟩ := wellFormed.subscription part carried
      obtain ⟨candidate, accepted⟩ := wellFormed.subscription_at now carried
      obtain ⟨stripeSubscriptionId, checks, _⟩ := billingSubscriptionCandidate_row accepted
      have own : candidate.organizationId = organizationId :=
        (billingSubscriptionCandidate_ok accepted).1
      have free : ∀ subscription ∈ database.tables.subscriptions,
          subscription.organizationId ≠ candidate.organizationId →
          subscription.stripeSubscriptionId ≠ candidate.stripeSubscriptionId := by
        intro subscription stored different same
        rcases register.others subscription stored with same' | before
        · exact different (same'.trans own.symm)
        · exact foreign subscription before part carried (same.trans stripeSubscriptionId)
      have checked : checkSubscriptionInput database
          (event.source organizationId now).organizationId part = .ok () := by
        refine checkSubscriptionInput_ok.mpr ⟨quantity, ?_, periodEnd⟩
        change (assignedSeats database.tables organizationId : Int) ≤ part.entitledSeats
        rw [seats]
        exact quantity.1
      let subscription := upserted BillingSubscriptionRow.supersedes BillingSubscriptionRow.replaced
        candidate (lookup (·.organizationId) database.tables.subscriptions organizationId)
      have owned : candidate.organizationId ∈ database.tables.organizationIds := by
        rw [own]
        exact known
      have consistent : schema.Consistent (upsertSubscription candidate database.tables).1 :=
        upsertSubscription_consistent checks owned free
      have found : lookup (·.organizationId)
          (upsertSubscription candidate database.tables).1.subscriptions
          (trim (event.source organizationId now).organizationId) = some subscription := by
        change lookup _ _ (trim organizationId) = some subscription
        rw [trimmed]
        exact (lookup_upsertSubscription candidate database.tables organizationId).trans (if_pos own)
      have idle : reconciled subscription (event.source organizationId now).updatedAt
          (upsertSubscription candidate database.tables).1 =
          (upsertSubscription candidate database.tables).1 := by
        have owner : subscription.organizationId = organizationId := (lookup_key found).trans trimmed
        apply reconciled_of_noSeats
        rw [owner]
        exact seats
      have refreshed : schema.Consistent (reconciled subscription
          (event.source organizationId now).updatedAt
          (upsertSubscription candidate database.tables).1) := by
        rw [idle]
        exact consistent
      obtain ⟨after, projected⟩ :=
        projectBillingSubscription_succeeds checked accepted consistent found refreshed
      obtain ⟨_, again, _, _, written, _⟩ := projectBillingSubscription_ok projected
      obtain rfl := Except.ok.inj (accepted.symm.trans again)
      rw [idle] at written
      have registered := register.upsert carried accepted
      rw [← written] at registered
      exact ⟨after, some subscription, _, projectSubscriptionPart_some projected, ⟨_, written⟩,
        registered⟩

/-- What holds between the deliveries: the delivered events are settled, the others
are unknown, and both rows are registers. -/
structure Converging (organizationId : String) (events : List BillingEvent) (start : Tables)
    (delivered : List BillingEvent) (tables : Tables) : Prop where
  known : organizationId ∈ tables.organizationIds
  seats : assignedSeats tables organizationId = 0
  settled : ∀ event ∈ delivered, ∃ row,
    lookup (·.stripeEventId) tables.stripeEvents event.id = some row ∧ row.type = trim event.type ∧
      row.eventCreatedAt = event.eventCreatedAt ∧ row.isSettled = true
  unrecorded : ∀ event ∈ events, event ∉ delivered →
    lookup (·.stripeEventId) tables.stripeEvents event.id = none
  customers : CustomerRegister organizationId start delivered tables
  subscriptions : SubscriptionRegister organizationId start delivered tables

theorem converging_start (unbilled : Unbilled organizationId events start) :
    Converging organizationId events start [] start where
  known := unbilled.known
  seats := unbilled.seats
  settled := by simp
  unrecorded event member _ := unbilled.unrecorded event member
  customers := ⟨fun _ member => .inr member, none, rfl, by rw [unbilled.noCustomer]; rfl⟩
  subscriptions := ⟨fun _ member => .inr member, none, rfl, by rw [unbilled.noSubscription]; rfl⟩

/-- The candidate row of a delivery. -/
theorem BillingEvent.WellFormed.registered_at {receivedAt : Int}
    (wellFormed : event.WellFormed organizationId) (valid : IsNonNegativeSafeInteger receivedAt) :
    ∃ row, stripeEventCandidate (event.input receivedAt) = .ok row ∧ row.Checks ∧
      row.stripeEventId = event.id ∧ row.type = trim event.type ∧
      row.eventCreatedAt = event.eventCreatedAt ∧ row.isSettled = false := by
  obtain ⟨row, accepted, checks⟩ := wellFormed.registered
  have received := stripeEventCandidate_receivedAt accepted valid
  obtain ⟨identifier, type, createdAt, unsettled⟩ := stripeEventCandidate_ok received
  exact ⟨_, received, checks, identifier, type, createdAt, unsettled⟩

/-- A redelivery changes nothing. -/
theorem Converging.redeliver {delivery : Delivery} (timely : delivery.Timely)
    (wellFormed : delivery.event.WellFormed organizationId) (again : delivery.event ∈ delivered)
    (converging : Converging organizationId events start delivered database.tables) :
    deliver organizationId database delivery = database := by
  obtain ⟨row, found, type, createdAt, settled⟩ := converging.settled delivery.event again
  obtain ⟨candidate, accepted, checks, identifier, candidateType, candidateTime, _⟩ :=
    wellFormed.registered_at timely.1
  have register : registerStripeEvent database (delivery.input organizationId).event =
      .ok (database, row, false) := by
    apply registerStripeEvent_known accepted checks
    · rw [identifier]
      exact found
    · rw [type, candidateType]
    · rw [createdAt, candidateTime]
  rw [deliver, applyStripeBillingProjection_settled register settled]

theorem projectionOutcome_settled (applied : Bool) (message : String) (now : Int) (row : StripeEventRow) :
    (row.completed (projectionOutcome applied) message now).isSettled = true := by
  cases applied <;> rfl

/-- What the events hold after a first delivery. -/
theorem lookup_firstDelivery {candidate row : StripeEventRow} {before after : CloudDatabase}
    {result : StripeEventProcessingResult} {message wanted : String} {now : Int}
    {stripeEvents : List StripeEventRow}
    (absent : lookup (·.stripeEventId) stripeEvents candidate.stripeEventId = none)
    (registered : before.tables.stripeEvents = stripeEvents ++ [candidate])
    (completed : completeStripeEvent before candidate.stripeEventId result message now =
      .ok (after, row)) :
    lookup (·.stripeEventId) after.tables.stripeEvents wanted =
      if candidate.stripeEventId = wanted then some (candidate.completed result message now)
      else lookup (·.stripeEventId) stripeEvents wanted := by
  have rows := congrArg Tables.stripeEvents (completeStripeEvent_ok completed)
  have keeps : ∀ event : StripeEventRow,
      decide (event.stripeEventId = candidate.stripeEventId) = true →
      (event.completed result message now).stripeEventId = event.stripeEventId := fun _ _ => rfl
  rw [rows, registered, lookup_updateWhere keeps, lookup_append_fresh absent]
  split
  · simp
  · rename_i different
    cases found : lookup (·.stripeEventId) stripeEvents wanted with
    | none => rfl
    | some stored =>
        have other : ¬ stored.stripeEventId = candidate.stripeEventId :=
          fun same => different (same.symm.trans (lookup_key found))
        simp [other]

/-- The first delivery of an event records it as settled and writes both registers. -/
theorem Converging.firstDelivery_tables {delivery : Delivery} (unbilled : Unbilled organizationId events start)
    (timely : delivery.Timely) (wellFormed : delivery.event.WellFormed organizationId)
    (member : delivery.event ∈ events) (fresh : delivery.event ∉ delivered)
    (converging : Converging organizationId events start delivered database.tables) :
    let after := (deliver organizationId database delivery).tables
    (∃ row : StripeEventRow, row.type = trim delivery.event.type ∧
      row.eventCreatedAt = delivery.event.eventCreatedAt ∧ row.isSettled = true ∧
      ∀ wanted, lookup (·.stripeEventId) after.stripeEvents wanted =
        if delivery.event.id = wanted then some row
        else lookup (·.stripeEventId) database.tables.stripeEvents wanted) ∧
    organizationId ∈ after.organizationIds ∧ assignedSeats after organizationId = 0 ∧
    CustomerRegister organizationId start (delivered ++ [delivery.event]) after ∧
    SubscriptionRegister organizationId start (delivered ++ [delivery.event]) after := by
  obtain ⟨candidate, accepted, checks, identifier, type, createdAt, unsettled⟩ :=
    wellFormed.registered_at timely.1
  have absent : lookup (·.stripeEventId) database.tables.stripeEvents candidate.stripeEventId = none := by
    rw [identifier]
    exact converging.unrecorded delivery.event member fresh
  obtain ⟨registered, register, written⟩ := registerStripeEvent_fresh accepted checks absent
  have source : projectionSource candidate (trim organizationId) delivery.now =
      delivery.event.source organizationId delivery.now := by
    rw [projectionSource, identifier, createdAt, unbilled.trimmed]
    rfl
  have customerRegister : CustomerRegister organizationId start delivered registered.tables := by
    rw [written]
    exact ⟨converging.customers.others, converging.customers.latest⟩
  have registeredKnown : organizationId ∈ registered.tables.organizationIds := by
    rw [written]
    exact converging.known
  obtain ⟨withCustomer, customer, customerApplied, customerPart, ⟨_, customerWritten⟩, customers⟩ :=
    projectCustomerPart_converges delivery.now unbilled.trimmed registeredKnown wellFormed
      (fun row stored => unbilled.foreignCustomers row stored delivery.event member) customerRegister
  rw [written] at customerWritten
  have subscriptionRegister :
      SubscriptionRegister organizationId start delivered withCustomer.tables := by
    rw [customerWritten]
    exact ⟨converging.subscriptions.others, converging.subscriptions.latest⟩
  have customerKnown : organizationId ∈ withCustomer.tables.organizationIds := by
    rw [customerWritten]
    exact converging.known
  have customerSeats : assignedSeats withCustomer.tables organizationId = 0 := by
    rw [customerWritten]
    exact converging.seats
  obtain ⟨withSubscription, subscription, subscriptionApplied, subscriptionPart,
      ⟨_, subscriptionWritten⟩, subscriptions⟩ :=
    projectSubscriptionPart_converges delivery.now unbilled.trimmed customerKnown customerSeats
      wellFormed (fun row stored => unbilled.foreignSubscriptions row stored delivery.event member)
      subscriptionRegister
  have eventRows : withSubscription.tables.stripeEvents =
      database.tables.stripeEvents ++ [candidate] := by
    rw [subscriptionWritten, customerWritten]
  let applied := customerApplied || subscriptionApplied
  have found : lookup (·.stripeEventId) withSubscription.tables.stripeEvents
      candidate.stripeEventId = some candidate := by
    rw [eventRows, lookup_append_fresh absent, if_pos rfl]
  have outcome : projectionOutcome applied ≠ .pending := by
    cases applied <;> nofun
  obtain ⟨after, complete⟩ :=
    completeStripeEvent_known (projectionMessage applied) delivery.now found outcome
  have tables := completeStripeEvent_ok complete
  rw [← source] at customerPart subscriptionPart
  have required : requireBillingOrganization registered (trim organizationId) = .ok () := by
    rw [unbilled.trimmed]
    exact requireBillingOrganization_ok.mpr ⟨unbilled.named, registeredKnown⟩
  obtain ⟨result, projected⟩ : ∃ result, billingProjection registered candidate true
      (delivery.input organizationId) delivery.now = .ok (after, result) :=
    billingProjection_ok.mpr ⟨required, withCustomer, customer, customerApplied, withSubscription,
      subscription, subscriptionApplied, _, customerPart, subscriptionPart, complete⟩
  have unsettledFirst : ¬ (true = false ∧ candidate.isSettled = true) := nofun
  have inputRegister : registerStripeEvent database (delivery.input organizationId).event =
      .ok (registered, candidate, true) := register
  have run := applyStripeBillingProjection_unsettled inputRegister unsettledFirst timely.2
  have delivered' : deliver organizationId database delivery = after := by
    rw [deliver, run]
    have timed : (delivery.input organizationId).now = delivery.now := rfl
    rw [timed, projected]
  rw [delivered']
  refine ⟨⟨candidate.completed (projectionOutcome applied) (projectionMessage applied) delivery.now, type,
    createdAt, projectionOutcome_settled applied _ _ _, fun wanted => ?_⟩, ?_, ?_, ?_, ?_⟩
  · rw [← identifier]
    exact lookup_firstDelivery absent eventRows complete
  · rw [tables, subscriptionWritten, customerWritten]
    exact converging.known
  · rw [tables, subscriptionWritten, customerWritten]
    exact converging.seats
  · rw [tables, subscriptionWritten]
    exact ⟨customers.others, customers.latest⟩
  · rw [tables]
    exact ⟨subscriptions.others, subscriptions.latest⟩

/-- So it keeps both rows registers of what was delivered. -/
theorem Converging.firstDelivery {delivery : Delivery} (unbilled : Unbilled organizationId events start)
    (distinct : (events.map BillingEvent.id).Nodup) (timely : delivery.Timely)
    (wellFormed : delivery.event.WellFormed organizationId) (member : delivery.event ∈ events)
    (delivers : ∀ event ∈ delivered, event ∈ events) (fresh : delivery.event ∉ delivered)
    (converging : Converging organizationId events start delivered database.tables) :
    Converging organizationId events start (delivered ++ [delivery.event])
      (deliver organizationId database delivery).tables := by
  obtain ⟨⟨row, type, createdAt, settled, lookups⟩, known, seats, customers, subscriptions⟩ :=
    converging.firstDelivery_tables unbilled timely wellFormed member fresh
  have otherId : ∀ event ∈ events, event ≠ delivery.event → ¬ delivery.event.id = event.id :=
    fun event stored different same => different (List.inj_on_of_nodup_map distinct stored member same.symm)
  refine ⟨known, seats, ?_, ?_, customers, subscriptions⟩
  · intro event eventDelivered
    rcases List.mem_append.mp eventDelivered with before | last
    · have different : event ≠ delivery.event := fun same => fresh (same ▸ before)
      rw [lookups, if_neg (otherId event (delivers event before) different)]
      exact converging.settled event before
    · rw [List.mem_singleton.mp last, lookups, if_pos rfl]
      exact ⟨row, rfl, type, createdAt, settled⟩
  · intro event stored undelivered
    have before : event ∉ delivered := fun held => undelivered (List.mem_append_left _ held)
    have different : event ≠ delivery.event := by
      rintro rfl
      exact undelivered (by simp)
    rw [lookups, if_neg (otherId event stored different)]
    exact converging.unrecorded event stored before

/-- Every run of deliveries keeps both rows registers of what was delivered. -/
theorem Converging.run (unbilled : Unbilled organizationId events start)
    (distinct : (events.map BillingEvent.id).Nodup)
    (wellFormed : ∀ event ∈ events, event.WellFormed organizationId) (deliveries : List Delivery)
    (known : ∀ delivery ∈ deliveries, delivery.event ∈ events ∧ delivery.Timely)
    (delivers : ∀ event ∈ delivered, event ∈ events)
    (converging : Converging organizationId events start delivered database.tables) :
    ∃ all, Converging organizationId events start all
        (deliveries.foldl (deliver organizationId) database).tables ∧
      ∀ event, event ∈ all ↔
        event ∈ delivered ∨ ∃ delivery ∈ deliveries, delivery.event = event := by
  induction deliveries generalizing database delivered with
  | nil => exact ⟨delivered, converging, by simp⟩
  | cons delivery rest ih =>
      have restKnown := fun other later => known other (List.mem_cons_of_mem delivery later)
      obtain ⟨member, timely⟩ := known delivery List.mem_cons_self
      have formed := wellFormed delivery.event member
      rw [List.foldl_cons]
      by_cases again : delivery.event ∈ delivered
      · rw [converging.redeliver timely formed again]
        obtain ⟨all, converged, same⟩ := ih restKnown delivers converging
        refine ⟨all, converged, fun event => (same event).trans ?_⟩
        rw [List.exists_mem_cons_iff]
        constructor
        · rintro (before | later)
          · exact .inl before
          · exact .inr (.inr later)
        · rintro (before | rfl | later)
          · exact .inl before
          · exact .inl again
          · exact .inr later
      · have next := converging.firstDelivery unbilled distinct timely formed member delivers again
        have nextDelivers : ∀ event ∈ delivered ++ [delivery.event], event ∈ events := by
          intro event held
          rcases List.mem_append.mp held with before | last
          · exact delivers event before
          · rw [List.mem_singleton.mp last]
            exact member
        obtain ⟨all, converged, same⟩ := ih restKnown nextDelivers next
        refine ⟨all, converged, fun event => (same event).trans ?_⟩
        rw [List.mem_append, List.mem_singleton, List.exists_mem_cons_iff, or_assoc,
          eq_comm (a := event)]

end Deliveries

section Main

variable {organizationId : String} {events : List BillingEvent}

/-- A list of distinct identifiers has distinct keys. -/
theorem key_injective (distinct : (events.map BillingEvent.id).Nodup) :
    ∀ left ∈ events, ∀ right ∈ events, left.key = right.key → left = right := by
  intro left leftMember right rightMember same
  have sameId : left.id = right.id := congrArg Prod.snd (congrArg ofLex same)
  exact List.inj_on_of_nodup_map distinct leftMember rightMember sameId

/-- The register of the parts that were delivered holds the greatest of the events
that carry the part. -/
theorem register_eq_argmax {delivered : List BillingEvent} {latest : Option BillingEvent}
    (carries : BillingEvent → Bool) (distinct : (events.map BillingEvent.id).Nodup)
    (same : ∀ event, event ∈ delivered ↔ event ∈ events)
    (written : IsLatest BillingEvent.key (delivered.filter carries) latest) :
    latest = (events.filter carries).argmax BillingEvent.key := by
  apply written.eq_argmax
  · intro event
    rw [List.mem_filter, List.mem_filter, same]
  · intro left leftMember right rightMember
    exact key_injective distinct left (List.mem_filter.mp leftMember).1 right
      (List.mem_filter.mp rightMember).1

theorem map_eq_bind {Row View Event : Type} {view : Row → View} {viewOf : Event → Option View}
    {row : Option Row} {latest : Option Event} (agrees : row.map (some ∘ view) = latest.map viewOf) :
    row.map view = latest.bind viewOf := by
  cases row with
  | none =>
      cases latest with
      | none => rfl
      | some event => cases agrees
  | some stored =>
      cases latest with
      | none => cases agrees
      | some event => exact Option.some.inj agrees

end Main

section Sample

def signUp : BillingEvent where
  stripeEventId := "evt_a"
  type := "checkout.session.completed"
  eventCreatedAt := 10
  customer := some ⟨"cus_1", some "ada@example.org", some "de"⟩
  subscription := some ⟨"sub_1", "price_1", "active", 2, false, none⟩

/-- Created together with `signUp`, so that the identifiers decide. -/
def moreSeats : BillingEvent where
  stripeEventId := "evt_b"
  type := "customer.subscription.updated"
  eventCreatedAt := 10
  customer := none
  subscription := some ⟨"sub_1", "price_1", "active", 5, false, none⟩

def renamed : BillingEvent where
  stripeEventId := "evt_c"
  type := "customer.updated"
  eventCreatedAt := 15
  customer := some ⟨"cus_1", some "ops@example.org", none⟩
  subscription := none

def shuffled : List Delivery :=
  [⟨renamed, 20, 20⟩, ⟨moreSeats, 21, 21⟩, ⟨renamed, 22, 22⟩, ⟨signUp, 23, 23⟩, ⟨moreSeats, 24, 24⟩]

end Sample

end NebulaCloud.Billing
