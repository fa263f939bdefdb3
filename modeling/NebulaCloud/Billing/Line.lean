import NebulaCloud.Billing.InvoiceOrder
import NebulaCloud.Billing.SubscriptionDelivery

namespace NebulaCloud.Billing

open NebulaCloud.Data NebulaCloud.Database NebulaCloud.Platform

/-! # The subscription row of one organization

While no seat is assigned, subscription and invoice events move one row through pure
steps, and the database follows them. -/

inductive BillingDelivery
  | update (event : StripeEventInput) (part : BillingSubscriptionInput) (now : Int)
  | invoice (event : InvoiceEvent) (stripeSubscriptionId : String) (now : Int)
deriving DecidableEq, Repr

namespace BillingDelivery

def eventInput : BillingDelivery → StripeEventInput
  | update event _ _ => event
  | invoice event stripeSubscriptionId now => (event.input stripeSubscriptionId now).event

def now : BillingDelivery → Int
  | update _ _ now => now
  | invoice _ _ now => now

def id (delivery : BillingDelivery) : String := trim delivery.eventInput.stripeEventId

def createdAt (delivery : BillingDelivery) : Int := delivery.eventInput.eventCreatedAt

/-- The subscription that the event is about. -/
def subscriptionId : BillingDelivery → String
  | update _ part _ => trim part.stripeSubscriptionId
  | invoice _ stripeSubscriptionId _ => trim stripeSubscriptionId

/-- What an event says, however often it is delivered. -/
def content : BillingDelivery → String × Int × (BillingSubscriptionInput ⊕ (InvoiceEventType × String))
  | update event part _ => (trim event.type, event.eventCreatedAt, .inl part)
  | invoice event stripeSubscriptionId _ =>
      (trim event.type.name, event.eventCreatedAt, .inr (event.type, stripeSubscriptionId))

/-- The row under which the event is registered. -/
def row (delivery : BillingDelivery) : StripeEventRow where
  stripeEventId := delivery.id
  type := trim delivery.eventInput.type
  eventCreatedAt := delivery.createdAt
  receivedAt := delivery.eventInput.receivedAt
  processingResult := .pending
  processingMessage := none
  processedAt := none
  attemptCount := 0

def billingInput (organizationId : String) (event : StripeEventInput) (part : BillingSubscriptionInput)
    (now : Int) : StripeBillingProjectionInput where
  event := event
  organizationId := organizationId
  customer := none
  subscription := some part
  now := now

def perform (organizationId : String) (database : CloudDatabase) : BillingDelivery → CloudDatabase
  | update event part now =>
      (applyStripeBillingProjection database (billingInput organizationId event part now)).1
  | invoice event stripeSubscriptionId now =>
      (applyStripeInvoiceProjection database (event.input stripeSubscriptionId now)).1

/-- The validators and the checks of the tables accept what the event says. -/
def Accepted (organizationId : String) (delivery : BillingDelivery) : Prop :=
  match delivery with
  | update _ part now =>
      IsNonNegativeSafeInteger part.entitledSeats ∧
        (∀ currentPeriodEnd ∈ part.currentPeriodEnd, IsNonNegativeSafeInteger currentPeriodEnd) ∧
        ∃ candidate, billingSubscriptionCandidate
          (projectionSource delivery.row organizationId now) part = .ok candidate
  | invoice _ stripeSubscriptionId _ =>
      ∃ text, requiredStripeText stripeSubscriptionId "stripeSubscriptionId" 255 = .ok text

instance (organizationId : String) : (delivery : BillingDelivery) →
    Decidable (delivery.Accepted organizationId)
  | .update _ _ _ => inferInstanceAs (Decidable (_ ∧ _))
  | .invoice _ stripeSubscriptionId _ =>
      decidableReturns (requiredStripeText stripeSubscriptionId "stripeSubscriptionId" 255)

structure WellFormed (organizationId : String) (delivery : BillingDelivery) : Prop where
  event : ∃ row, stripeEventCandidate delivery.eventInput = .ok row ∧ row.Checks
  clock : IsNonNegativeSafeInteger delivery.now
  content : delivery.Accepted organizationId

instance (organizationId : String) (delivery : BillingDelivery) :
    Decidable (delivery.WellFormed organizationId) :=
  decidable_of_iff
    ((∃ row, stripeEventCandidate delivery.eventInput = .ok row ∧ row.Checks) ∧
      IsNonNegativeSafeInteger delivery.now ∧ delivery.Accepted organizationId)
    ⟨fun all => ⟨all.1, all.2.1, all.2.2⟩, fun all => ⟨all.event, all.clock, all.content⟩⟩

end BillingDelivery

/-- The row of the organization and the events that are settled. -/
structure Line where
  row : Option BillingSubscriptionRow
  settled : List String
deriving DecidableEq, Repr

/-- The row after an invoice event of its subscription. -/
def withInvoice (row : BillingSubscriptionRow) (type : InvoiceEventType) (event : StripeEventRow)
    (now : Int) : BillingSubscriptionRow :=
  if invoiceEventIsNewer row event = true then row.invoiced type event now else row

/-- One delivery.  An event without its subscription in place stays open. -/
def Line.step (organizationId : String) (line : Line) (delivery : BillingDelivery) : Line :=
  if delivery.id ∈ line.settled then line
  else
    match delivery with
    | .update _ part now =>
        match billingSubscriptionCandidate (projectionSource delivery.row organizationId now) part with
        | .error _ => line
        | .ok candidate =>
            { row := some (upserted BillingSubscriptionRow.supersedes BillingSubscriptionRow.replaced
                candidate line.row)
              settled := delivery.id :: line.settled }
    | .invoice event _ now =>
        match line.row with
        | none => line
        | some row =>
            if row.stripeSubscriptionId = delivery.subscriptionId then
              { row := some (withInvoice row event.type delivery.row now)
                settled := delivery.id :: line.settled }
            else line

theorem Line.step_settled {organizationId : String} {line : Line} {delivery : BillingDelivery}
    (settled : delivery.id ∈ line.settled) : line.step organizationId delivery = line :=
  if_pos settled

theorem Line.step_update {organizationId : String} {line : Line} {event : StripeEventInput}
    {part : BillingSubscriptionInput} {now : Int} {candidate : BillingSubscriptionRow}
    (fresh : (BillingDelivery.update event part now).id ∉ line.settled)
    (accepted : billingSubscriptionCandidate
      (projectionSource (BillingDelivery.update event part now).row organizationId now) part =
        .ok candidate) :
    line.step organizationId (.update event part now) =
      ⟨some (upserted BillingSubscriptionRow.supersedes BillingSubscriptionRow.replaced candidate
        line.row), (BillingDelivery.update event part now).id :: line.settled⟩ := by
  rw [Line.step, if_neg fresh]
  simp only [accepted]

theorem Line.step_invoice {organizationId : String} {line : Line} {event : InvoiceEvent}
    {stripeSubscriptionId : String} {now : Int} {stored : BillingSubscriptionRow}
    (fresh : (BillingDelivery.invoice event stripeSubscriptionId now).id ∉ line.settled)
    (present : line.row = some stored) (named : stored.stripeSubscriptionId = trim stripeSubscriptionId) :
    line.step organizationId (.invoice event stripeSubscriptionId now) =
      ⟨some (withInvoice stored event.type (BillingDelivery.invoice event stripeSubscriptionId now).row now),
        (BillingDelivery.invoice event stripeSubscriptionId now).id :: line.settled⟩ := by
  rw [Line.step, if_neg fresh]
  simp only [present]
  exact if_pos named

theorem Line.step_missing {organizationId : String} {line : Line} {event : InvoiceEvent}
    {stripeSubscriptionId : String} {now : Int}
    (missing : ∀ row ∈ line.row, row.stripeSubscriptionId ≠ trim stripeSubscriptionId) :
    line.step organizationId (.invoice event stripeSubscriptionId now) = line := by
  rw [Line.step]
  split
  · rfl
  · cases present : line.row with
    | none => rfl
    | some stored => exact if_neg (missing stored present)

/-- The organization exists without seats, its identifier is trimmed, equal
identifiers mean equal events, and no other organization has the subscriptions. -/
structure History (organizationId : String) (start : Tables) (history : List BillingDelivery) : Prop where
  trimmed : trim organizationId = organizationId
  named : organizationId ≠ ""
  wellFormed : ∀ delivery ∈ history, delivery.WellFormed organizationId
  identity : ∀ left ∈ history, ∀ right ∈ history, left.id = right.id → left.content = right.content
  foreign : ∀ row ∈ start.subscriptions, ∀ delivery ∈ history,
    row.stripeSubscriptionId ≠ delivery.subscriptionId

/-- The database shows the line. -/
structure Follows (organizationId : String) (start : Tables) (history : List BillingDelivery)
    (database : CloudDatabase) (line : Line) : Prop where
  known : organizationId ∈ database.tables.organizationIds
  seats : assignedSeats database.tables organizationId = 0
  row : lookup (·.organizationId) database.tables.subscriptions organizationId = line.row
  others : ∀ row ∈ database.tables.subscriptions,
    row.organizationId = organizationId ∨ row ∈ start.subscriptions
  settled : ∀ delivery ∈ history, delivery.id ∈ line.settled ↔
    ∃ row ∈ lookup (·.stripeEventId) database.tables.stripeEvents delivery.id, row.isSettled = true
  recorded : ∀ delivery ∈ history,
    ∀ row ∈ lookup (·.stripeEventId) database.tables.stripeEvents delivery.id,
      row.type = trim delivery.eventInput.type ∧ row.eventCreatedAt = delivery.createdAt

section Steps

variable {organizationId : String} {start : Tables} {history : List BillingDelivery}
  {database : CloudDatabase} {line : Line} {delivery : BillingDelivery}

theorem seatStarts_of_noSeats {tables : Tables} (seats : assignedSeats tables organizationId = 0) :
    seatStarts tables organizationId = [] := by
  rw [seatStarts, List.filterMap_eq_nil_iff]
  intro seat stored
  exact if_neg (List.countP_eq_zero.mp seats seat stored)

theorem content_fields {left right : BillingDelivery} (same : left.content = right.content) :
    left.createdAt = right.createdAt ∧ trim left.eventInput.type = trim right.eventInput.type ∧
      left.subscriptionId = right.subscriptionId := by
  have type := congrArg Prod.fst same
  have time := congrArg (fun content => content.2.1) same
  have body := congrArg (fun content => content.2.2) same
  cases left with
  | update event part now =>
      cases right with
      | update other otherPart otherNow =>
          obtain rfl := Sum.inl.inj body
          exact ⟨time, type, rfl⟩
      | invoice other otherId otherNow => exact absurd body nofun
  | invoice event id now =>
      cases right with
      | update other otherPart otherNow => exact absurd body nofun
      | invoice other otherId otherNow =>
          obtain ⟨-, rfl⟩ := Prod.ext_iff.mp (Sum.inr.inj body)
          exact ⟨time, type, rfl⟩

/-- An invoice event counts by its identifier and its creation time. -/
theorem invoiceEventIsNewer_congr (stored : BillingSubscriptionRow) {left right : StripeEventRow}
    (time : left.eventCreatedAt = right.eventCreatedAt) (id : left.stripeEventId = right.stripeEventId) :
    invoiceEventIsNewer stored left = invoiceEventIsNewer stored right := by
  simp only [invoiceEventIsNewer, time, id]

theorem invoiced_congr (stored : BillingSubscriptionRow) (type : InvoiceEventType) (now : Int)
    {left right : StripeEventRow} (time : left.eventCreatedAt = right.eventCreatedAt)
    (id : left.stripeEventId = right.stripeEventId) :
    stored.invoiced type left now = stored.invoiced type right now := by
  simp only [BillingSubscriptionRow.invoiced, time, id]

/-- The record of a delivery is in place, and no other record changed. -/
structure Recorded (database : CloudDatabase) (line : Line) (delivery : BillingDelivery)
    (registered : CloudDatabase) (event : StripeEventRow) : Prop where
  found : lookup (·.stripeEventId) registered.tables.stripeEvents event.stripeEventId = some event
  id : event.stripeEventId = delivery.id
  type : event.type = trim delivery.eventInput.type
  createdAt : event.eventCreatedAt = delivery.createdAt
  settled : event.isSettled = true ↔ delivery.id ∈ line.settled
  written : ∃ stripeEvents, registered.tables = { database.tables with stripeEvents }
  others : ∀ wanted, wanted ≠ delivery.id →
    lookup (·.stripeEventId) registered.tables.stripeEvents wanted =
      lookup (·.stripeEventId) database.tables.stripeEvents wanted

theorem Recorded.organizationIds {registered : CloudDatabase} {event : StripeEventRow}
    (record : Recorded database line delivery registered event) :
    registered.tables.organizationIds = database.tables.organizationIds := by
  obtain ⟨stripeEvents, written⟩ := record.written
  rw [written]
  rfl

theorem Recorded.subscriptions {registered : CloudDatabase} {event : StripeEventRow}
    (record : Recorded database line delivery registered event) :
    registered.tables.subscriptions = database.tables.subscriptions := by
  obtain ⟨stripeEvents, written⟩ := record.written
  rw [written]

theorem Recorded.noSeats {registered : CloudDatabase} {event : StripeEventRow}
    (record : Recorded database line delivery registered event)
    (seats : assignedSeats database.tables organizationId = 0) :
    assignedSeats registered.tables organizationId = 0 := by
  obtain ⟨stripeEvents, written⟩ := record.written
  rw [written]
  exact seats

/-- Registering a delivery finds or adds its record. -/
theorem Follows.register (whole : History organizationId start history) (member : delivery ∈ history)
    (follows : Follows organizationId start history database line) :
    ∃ registered event inserted,
      registerStripeEvent database delivery.eventInput = .ok (registered, event, inserted) ∧
      Recorded database line delivery registered event ∧
      (event.isSettled = true → inserted = false ∧ registered = database) := by
  obtain ⟨candidate, accepted, checks⟩ := (whole.wellFormed delivery member).event
  obtain ⟨sameId, sameType, sameTime, unsettled⟩ := stripeEventCandidate_ok accepted
  have id : candidate.stripeEventId = delivery.id := sameId
  have settled := follows.settled delivery member
  cases known : lookup (·.stripeEventId) database.tables.stripeEvents delivery.id with
  | none =>
      have absent : lookup (·.stripeEventId) database.tables.stripeEvents candidate.stripeEventId =
          none := by rw [id, known]
      obtain ⟨registered, register, written⟩ := registerStripeEvent_fresh accepted checks absent
      have open' : ¬ candidate.isSettled = true := by simp [unsettled]
      have unlisted : delivery.id ∉ line.settled := by simp [settled, known]
      refine ⟨registered, candidate, true, register, ?_, fun settled => absurd settled open'⟩
      refine ⟨registerStripeEvent_found register, id, sameType, sameTime,
        iff_of_false open' unlisted, ⟨_, written⟩, ?_⟩
      intro wanted other
      rw [written]
      exact (lookup_append_fresh absent).trans (if_neg fun same => other (same.symm.trans id))
  | some event =>
      obtain ⟨type, time⟩ := follows.recorded delivery member event known
      have found : lookup (·.stripeEventId) database.tables.stripeEvents candidate.stripeEventId =
          some event := by rw [id, known]
      have register := registerStripeEvent_known accepted checks found (type.trans sameType.symm)
        (time.trans sameTime.symm)
      refine ⟨database, event, false, register, ?_, fun _ => ⟨rfl, rfl⟩⟩
      refine ⟨registerStripeEvent_found register, lookup_key known, type, time, ?_, ⟨_, rfl⟩,
        fun _ _ => rfl⟩
      rw [settled, known]
      simp

/-- The subscription of a delivery is the row of the organization or is not stored. -/
theorem Follows.resolved (whole : History organizationId start history) (member : delivery ∈ history)
    (follows : Follows organizationId start history database line) :
    lookup (·.stripeSubscriptionId) database.tables.subscriptions delivery.subscriptionId =
      line.row.filter (·.stripeSubscriptionId = delivery.subscriptionId) := by
  cases found : lookup (·.stripeSubscriptionId) database.tables.subscriptions
      delivery.subscriptionId with
  | some row =>
      have named := lookup_key found
      have own : row.organizationId = organizationId :=
        (follows.others row (lookup_mem found)).resolve_right fun stored =>
          whole.foreign row stored delivery member named
      have stored := lookup_of_mem (database.consistent .subscriptionOrganization) (lookup_mem found)
      rw [← follows.row, ← own, stored, Option.filter_some, if_pos (decide_eq_true named)]
  | none =>
      have missing := lookup_eq_none.mp found
      cases stored : line.row with
      | none => rfl
      | some row =>
          have different := missing row (lookup_mem (follows.row.trans stored))
          rw [Option.filter_some, if_neg fun same => different (of_decide_eq_true same)]

/-- The record of a delivery is completed, and the tables follow the next line. -/
theorem Follows.completed {registered after : CloudDatabase} {event : StripeEventRow}
    {result : StripeEventProcessingResult} {message : String} {now : Int} {middle : Tables}
    {next : Option BillingSubscriptionRow} (whole : History organizationId start history)
    (member : delivery ∈ history) (follows : Follows organizationId start history database line)
    (record : Recorded database line delivery registered event) (fresh : delivery.id ∉ line.settled)
    (tables : after.tables = completedTables event.stripeEventId result message now middle)
    (events : middle.stripeEvents = registered.tables.stripeEvents)
    (organizations : middle.organizationIds = database.tables.organizationIds)
    (seats : assignedSeats middle organizationId = 0)
    (row : lookup (·.organizationId) middle.subscriptions organizationId = next)
    (rows : ∀ row ∈ middle.subscriptions, row.organizationId = organizationId ∨ row ∈ start.subscriptions) :
    Follows organizationId start history after
      ⟨next, if result = .applied ∨ result = .ignored then delivery.id :: line.settled
        else line.settled⟩ := by
  have recorded : ∀ wanted, lookup (·.stripeEventId) after.tables.stripeEvents wanted =
      if wanted = delivery.id then some (event.completed result message now)
      else lookup (·.stripeEventId) database.tables.stripeEvents wanted := by
    intro wanted
    rw [tables]
    by_cases same : wanted = delivery.id
    · have foundMiddle : lookup (·.stripeEventId) middle.stripeEvents event.stripeEventId = some event := by
        rw [events]
        exact record.found
      rw [if_pos same, same, ← record.id]
      exact lookup_completedTables_self foundMiddle
    · rw [if_neg same, lookup_completedTables fun clash => same (clash.symm.trans record.id), events]
      exact record.others wanted same
  refine ⟨?_, ?_, ?_, ?_, ?_, ?_⟩
  · rw [tables]
    exact organizations ▸ follows.known
  · rw [tables]
    exact seats
  · rw [tables]
    exact row
  · rw [tables]
    exact rows
  · intro other otherMember
    rw [recorded]
    by_cases same : other.id = delivery.id
    · have outcome : (event.completed result message now).isSettled = true ↔
          result = .applied ∨ result = .ignored := by
        rw [StripeEventRow.isSettled, Bool.or_eq_true, decide_eq_true_iff, decide_eq_true_iff]
        rfl
      rw [if_pos same, same]
      by_cases settled : result = .applied ∨ result = .ignored
      · simp [settled, outcome.mpr settled]
      · simp [settled, fresh, outcome]
    · have untouched := follows.settled other otherMember
      rw [if_neg same, ← untouched]
      split <;> simp [same]
  · intro other otherMember stored lookedUp
    rw [recorded] at lookedUp
    by_cases same : other.id = delivery.id
    · rw [if_pos same] at lookedUp
      obtain rfl := Option.some.inj lookedUp
      obtain ⟨time, type, _⟩ := content_fields (whole.identity other otherMember delivery member same)
      exact ⟨record.type.trans type.symm, record.createdAt.trans time.symm⟩
    · rw [if_neg same] at lookedUp
      exact follows.recorded other otherMember stored lookedUp

theorem Follows.update {event : StripeEventInput} {part : BillingSubscriptionInput} {now : Int}
    (whole : History organizationId start history)
    (member : .update event part now ∈ history)
    (follows : Follows organizationId start history database line)
    (fresh : (BillingDelivery.update event part now).id ∉ line.settled) :
    Follows organizationId start history
      ((BillingDelivery.update event part now).perform organizationId database)
      (line.step organizationId (.update event part now)) := by
  let delivery := BillingDelivery.update event part now
  have wellFormed := whole.wellFormed delivery member
  obtain ⟨quantity, periodEnd, candidate, accepted⟩ := wellFormed.content
  obtain ⟨registered, row, inserted, register, record, _⟩ := follows.register whole member
  have unsettled : row.isSettled = false :=
    Bool.eq_false_iff.mpr fun settled => fresh (record.settled.mp settled)
  have source : projectionSource row (trim organizationId) now =
      projectionSource delivery.row organizationId now := by
    rw [projectionSource, whole.trimmed, record.id, record.createdAt]
    rfl
  let input := BillingDelivery.billingInput organizationId event part now
  have trimmed : trim input.organizationId = organizationId := whole.trimmed
  have subscriptionPart : SubscriptionPart registered row input part candidate := by
    have known : organizationId ∈ registered.tables.organizationIds := by
      rw [record.organizationIds]
      exact follows.known
    obtain ⟨owner, _⟩ := billingSubscriptionCandidate_ok accepted
    obtain ⟨named, _⟩ := billingSubscriptionCandidate_row accepted
    refine ⟨rfl, rfl, ?_, ?_, wellFormed.clock, quantity, periodEnd, ?_, ?_⟩
    · rw [trimmed]
      exact whole.named
    · rw [trimmed]
      exact known
    · rw [← accepted]
      exact congrArg (billingSubscriptionCandidate · part) source
    · intro other stored different clash
      rw [record.subscriptions] at stored
      rcases follows.others other stored with same | before
      · exact different (same.trans owner.symm)
      · exact whole.foreign other before delivery member (clash.trans named)
  have registration : registerStripeEvent database input.event = .ok (registered, row, inserted) :=
    register
  obtain ⟨message, tables⟩ :=
    applyStripeBillingProjection_subscription registration unsettled subscriptionPart
  have noSeats := record.noSeats follows.seats
  have fits : assignedSeats registered.tables (trim input.organizationId) ≤ part.entitledSeats ∧
      AccessFits (seatStarts registered.tables (trim input.organizationId))
        (subscriptionAfter candidate registered.tables) input.now := by
    rw [trimmed, noSeats, seatStarts_of_noSeats noSeats]
    exact ⟨quantity.1, fun start member => absurd member List.not_mem_nil⟩
  rw [if_pos fits] at tables
  have owner : (subscriptionAfter candidate registered.tables).organizationId = organizationId :=
    (lookup_key subscriptionPart.storable.found).trans trimmed
  have unassigned : assignedSeats (upsertSubscription candidate registered.tables).1
      (subscriptionAfter candidate registered.tables).organizationId = 0 := by
    rw [owner]
    exact noSeats
  rw [reconciled_of_noSeats unassigned] at tables
  have stored : subscriptionAfter candidate registered.tables =
      upserted BillingSubscriptionRow.supersedes BillingSubscriptionRow.replaced candidate line.row := by
    rw [subscriptionAfter, subscriptionPart.owner, trimmed, record.subscriptions, ← follows.row]
  have found := subscriptionPart.storable.found
  rw [trimmed, stored] at found
  have outcome : projectionOutcome (upsertSubscription candidate registered.tables).2 = .applied ∨
      projectionOutcome (upsertSubscription candidate registered.tables).2 = .ignored := by
    cases (upsertSubscription candidate registered.tables).2
    · exact .inr rfl
    · exact .inl rfl
  rw [Line.step_update fresh accepted]
  have next := follows.completed whole member record fresh tables rfl
    record.organizationIds noSeats found ?_
  · rwa [if_pos outcome] at next
  · intro other member
    have distinct : (registered.tables.subscriptions.map (·.organizationId)).Nodup :=
      registered.consistent .subscriptionOrganization
    rcases (mem_upsert distinct).mp member with same | ⟨before, _⟩
    · left
      rw [same, ← owner, subscriptionAfter]
    · rw [record.subscriptions] at before
      exact follows.others other before

/-- An invoice without its subscription leaves the row and stays open. -/
theorem Follows.missingInvoice {event : InvoiceEvent} {stripeSubscriptionId : String} {now : Int}
    (whole : History organizationId start history)
    (member : .invoice event stripeSubscriptionId now ∈ history)
    (follows : Follows organizationId start history database line)
    (fresh : (BillingDelivery.invoice event stripeSubscriptionId now).id ∉ line.settled)
    (missing : line.row.filter (·.stripeSubscriptionId = trim stripeSubscriptionId) = none) :
    Follows organizationId start history
      ((BillingDelivery.invoice event stripeSubscriptionId now).perform organizationId database) line := by
  let delivery := BillingDelivery.invoice event stripeSubscriptionId now
  have wellFormed := whole.wellFormed delivery member
  obtain ⟨text, accepted⟩ := wellFormed.content
  obtain ⟨rfl, _⟩ := requiredStripeText_ok accepted
  obtain ⟨registered, row, inserted, register, record, _⟩ := follows.register whole member
  have unsettled : row.isSettled = false :=
    Bool.eq_false_iff.mpr fun settled => fresh (record.settled.mp settled)
  have registration : registerStripeEvent database (event.input stripeSubscriptionId now).event =
      .ok (registered, row, inserted) := register
  have clock : IsNonNegativeSafeInteger (event.input stripeSubscriptionId now).now := wellFormed.clock
  have absent : lookup (·.stripeSubscriptionId) registered.tables.subscriptions
      (trim stripeSubscriptionId) = none := by
    rw [record.subscriptions]
    exact (follows.resolved whole member).trans missing
  obtain ⟨message, tables⟩ :=
    applyStripeInvoiceProjection_missing registration unsettled clock accepted absent
  have kept : lookup (·.organizationId) registered.tables.subscriptions organizationId = line.row := by
    rw [record.subscriptions, follows.row]
  have others : ∀ other ∈ registered.tables.subscriptions,
      other.organizationId = organizationId ∨ other ∈ start.subscriptions := by
    rw [record.subscriptions]
    exact follows.others
  have next := follows.completed whole member record fresh tables rfl record.organizationIds
    (record.noSeats follows.seats) kept others
  have failed : ¬ (StripeEventProcessingResult.failed = .applied ∨
      StripeEventProcessingResult.failed = .ignored) := by decide
  rw [if_neg failed] at next
  exact next

/-- An invoice of the stored subscription settles. -/
theorem Follows.invoice {event : InvoiceEvent} {stripeSubscriptionId : String} {now : Int}
    {stored : BillingSubscriptionRow} (whole : History organizationId start history)
    (member : .invoice event stripeSubscriptionId now ∈ history)
    (follows : Follows organizationId start history database line)
    (fresh : (BillingDelivery.invoice event stripeSubscriptionId now).id ∉ line.settled)
    (present : line.row = some stored) (named : stored.stripeSubscriptionId = trim stripeSubscriptionId) :
    Follows organizationId start history
      ((BillingDelivery.invoice event stripeSubscriptionId now).perform organizationId database)
      ⟨some (withInvoice stored event.type (BillingDelivery.invoice event stripeSubscriptionId now).row now),
        (BillingDelivery.invoice event stripeSubscriptionId now).id :: line.settled⟩ := by
  let delivery := BillingDelivery.invoice event stripeSubscriptionId now
  have wellFormed := whole.wellFormed delivery member
  obtain ⟨text, accepted⟩ := wellFormed.content
  obtain ⟨rfl, _⟩ := requiredStripeText_ok accepted
  obtain ⟨registered, row, inserted, register, record, _⟩ := follows.register whole member
  have unsettled : row.isSettled = false :=
    Bool.eq_false_iff.mpr fun settled => fresh (record.settled.mp settled)
  have registration : registerStripeEvent database (event.input stripeSubscriptionId now).event =
      .ok (registered, row, inserted) := register
  have clock : IsNonNegativeSafeInteger (event.input stripeSubscriptionId now).now := wellFormed.clock
  have found : lookup (·.stripeSubscriptionId) registered.tables.subscriptions
      (trim stripeSubscriptionId) = some stored := by
    rw [record.subscriptions]
    refine (follows.resolved whole member).trans ?_
    rw [present, Option.filter_some]
    exact if_pos (decide_eq_true named)
  have current : lookup (·.organizationId) registered.tables.subscriptions organizationId =
      some stored := by
    rw [record.subscriptions, follows.row, present]
  have owner : stored.organizationId = organizationId := lookup_key current
  have trimmed : trim stored.organizationId = stored.organizationId := by
    rw [owner]
    exact whole.trimmed
  have others : ∀ other ∈ registered.tables.subscriptions,
      other.organizationId = organizationId ∨ other ∈ start.subscriptions := by
    rw [record.subscriptions]
    exact follows.others
  have noSeats := record.noSeats follows.seats
  obtain ⟨message, tables⟩ :=
    applyStripeInvoiceProjection_unsettled registration unsettled clock accepted found trimmed
  rw [InvoiceEvent.input_type, InvoiceEvent.input_now] at tables
  have sameId : row.stripeEventId = delivery.row.stripeEventId := record.id
  have sameTime : row.eventCreatedAt = delivery.row.eventCreatedAt := record.createdAt
  have cursor := invoiceEventIsNewer_congr stored sameTime sameId
  have written := invoiced_congr stored event.type now sameTime sameId
  by_cases newer : invoiceEventIsNewer stored row = true
  · have notStale : ¬ invoiceEventIsNewer stored row = false := by simp [newer]
    have fits : AccessFits (seatStarts registered.tables stored.organizationId)
        (stored.invoiced event.type row now) now := by
      rw [owner, seatStarts_of_noSeats noSeats]
      exact nofun
    have unassigned : assignedSeats
        (invoiceSubscription (stored.invoiced event.type row now) registered.tables)
        (stored.invoiced event.type row now).organizationId = 0 := by
      change assignedSeats registered.tables stored.organizationId = 0
      rw [owner]
      exact noSeats
    have invoiced : lookup (·.organizationId)
        (invoiceSubscription (stored.invoiced event.type row now) registered.tables).subscriptions
        organizationId = some (stored.invoiced event.type row now) := by
      rw [← owner]
      exact lookup_invoiced (lookup_mem current)
    have kept : ∀ other ∈
        (invoiceSubscription (stored.invoiced event.type row now) registered.tables).subscriptions,
        other.organizationId = organizationId ∨ other ∈ start.subscriptions := by
      intro other member
      obtain ⟨before, storedBefore, changed⟩ := mem_updateWhere.mp member
      split at changed
      · rename_i chosen
        left
        rw [← changed, ← owner]
        exact of_decide_eq_true chosen
      · rw [← changed]
        exact others before storedBefore
    rw [if_neg notStale, if_pos fits, reconciled_of_noSeats unassigned] at tables
    have next := follows.completed whole member record fresh tables rfl record.organizationIds
      noSeats invoiced kept
    rw [withInvoice, if_pos (cursor.symm.trans newer), ← written]
    exact next
  · rw [if_pos (Bool.eq_false_iff.mpr newer)] at tables
    have next := follows.completed whole member record fresh tables rfl record.organizationIds
      noSeats current others
    rw [withInvoice, if_neg fun later => newer (cursor.trans later)]
    exact next

/-- A redelivery of a settled event changes nothing. -/
theorem Follows.redelivered (whole : History organizationId start history) (member : delivery ∈ history)
    (follows : Follows organizationId start history database line)
    (settled : delivery.id ∈ line.settled) : delivery.perform organizationId database = database := by
  obtain ⟨registered, row, inserted, register, record, unchanged⟩ := follows.register whole member
  have isSettled := record.settled.mpr settled
  obtain ⟨rfl, rfl⟩ := unchanged isSettled
  cases delivery with
  | update event part now =>
      have registration : registerStripeEvent registered
          (BillingDelivery.billingInput organizationId event part now).event =
            .ok (registered, row, false) := register
      exact congrArg Prod.fst (applyStripeBillingProjection_settled registration isSettled)
  | invoice event stripeSubscriptionId now =>
      have registration : registerStripeEvent registered (event.input stripeSubscriptionId now).event =
          .ok (registered, row, false) := register
      exact applyStripeInvoiceProjection_settled registration isSettled

/-- One delivery at the database is one delivery at the line. -/
theorem Follows.step (whole : History organizationId start history) (member : delivery ∈ history)
    (follows : Follows organizationId start history database line) :
    Follows organizationId start history (delivery.perform organizationId database)
      (line.step organizationId delivery) := by
  by_cases settled : delivery.id ∈ line.settled
  · rw [follows.redelivered whole member settled, Line.step_settled settled]
    exact follows
  · cases delivery with
    | update event part now => exact follows.update whole member settled
    | invoice event stripeSubscriptionId now =>
        by_cases named : ∃ stored ∈ line.row, stored.stripeSubscriptionId = trim stripeSubscriptionId
        · obtain ⟨stored, present, named⟩ := named
          rw [Line.step_invoice settled present named]
          exact follows.invoice whole member settled present named
        · have missing : ∀ row ∈ line.row, row.stripeSubscriptionId ≠ trim stripeSubscriptionId :=
            fun row present same => named ⟨row, present, same⟩
          rw [Line.step_missing missing]
          refine follows.missingInvoice whole member settled ?_
          rw [Option.filter_eq_none_iff]
          intro row present same
          exact missing row present (of_decide_eq_true same)

/-- So a run of the database is a run of the line. -/
theorem Follows.run (whole : History organizationId start history) (order : List BillingDelivery)
    (within : ∀ delivery ∈ order, delivery ∈ history)
    (follows : Follows organizationId start history database line) :
    Follows organizationId start history
      (order.foldl (BillingDelivery.perform organizationId) database)
      (order.foldl (Line.step organizationId) line) := by
  induction order generalizing database line with
  | nil => exact follows
  | cons delivery rest ih =>
      have member := within delivery List.mem_cons_self
      have later : ∀ other ∈ rest, other ∈ history := fun other inRest =>
        within other (List.mem_cons_of_mem delivery inRest)
      exact ih later (follows.step whole member)

end Steps

end NebulaCloud.Billing
