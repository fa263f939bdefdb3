import NebulaCloud.Billing.SubscriptionDelivery
import NebulaCloud.Data.System
import NebulaCloud.Webhook.StripeWebhook

namespace NebulaCloud.Webhook

open NebulaCloud.Data NebulaCloud.Database NebulaCloud.Platform NebulaCloud.Billing

/-! # The ledger of the webhook

Whatever branch a delivery takes, its event is counted once and ends in the state that
the caller was told about. -/

/-- The three ways in which the body of the `try` statement can end. -/
inductive Attempt (registered : CloudDatabase) (row : StripeEventRow) :
    CloudDatabase → Except Failure StripeEventProcessingResult → Prop
  | settled {after : CloudDatabase} {result : StripeEventProcessingResult} {message : String} {now : Int}
      {middle : Tables} (outcome : result = .applied ∨ result = .ignored)
      (events : middle.stripeEvents = registered.tables.stripeEvents)
      (tables : after.tables = completedTables row.stripeEventId result message now middle) :
      Attempt registered row after (.ok result)
  | failed {after : CloudDatabase} {message : String} {now : Int} {failure : Failure}
      (tables : after.tables = completedTables row.stripeEventId .failed message now registered.tables) :
      Attempt registered row after (.error failure)
  | untouched {failure : Failure} : Attempt registered row registered (.error failure)

section Attempts

variable {database registered after : CloudDatabase} {row : StripeEventRow} {inserted : Bool}
  {processedAt : Int}

theorem projectCustomerPart_events {source : ProjectionSource} {part : Option BillingCustomerInput}
    {customer : Option BillingCustomerRow} {applied : Bool}
    (projected : projectCustomerPart database source part = .ok (after, customer, applied)) :
    after.tables.stripeEvents = database.tables.stripeEvents := by
  cases part with
  | none =>
      cases projected
      rfl
  | some input =>
      obtain ⟨⟨stored, changedRow, changed⟩, project, returned⟩ := bind_ok.mp projected
      cases returned
      obtain ⟨candidate, _, written, _⟩ := projectBillingCustomer_ok project
      rw [written]
      rfl

theorem projectSubscriptionPart_events {source : ProjectionSource}
    {part : Option BillingSubscriptionInput} {subscription : Option BillingSubscriptionRow} {applied : Bool}
    (projected : projectSubscriptionPart database source part = .ok (after, subscription, applied)) :
    after.tables.stripeEvents = database.tables.stripeEvents := by
  cases part with
  | none =>
      cases projected
      rfl
  | some input =>
      obtain ⟨⟨stored, changedRow, changed⟩, project, returned⟩ := bind_ok.mp projected
      cases returned
      obtain ⟨candidate, _, _, _, written, _⟩ := projectBillingSubscription_ok project
      rw [written]
      rfl

theorem projectionOutcome_settled (applied : Bool) :
    projectionOutcome applied = .applied ∨ projectionOutcome applied = .ignored := by
  cases applied with
  | false => exact .inr rfl
  | true => exact .inl rfl

theorem Attempt.of_billingProjection {input : StripeBillingProjectionInput}
    {result : StripeBillingProjectionResult}
    (projected : billingProjection registered row inserted input processedAt = .ok (after, result)) :
    Attempt registered row after (.ok result.processingResult) := by
  obtain ⟨⟨⟩, _, projected⟩ := bind_ok.mp projected
  obtain ⟨⟨withCustomer, customer, customerApplied⟩, customerPart, projected⟩ := bind_ok.mp projected
  obtain ⟨⟨withSubscription, subscription, subscriptionApplied⟩, subscriptionPart, projected⟩ :=
    bind_ok.mp projected
  obtain ⟨⟨completed, completedRow⟩, complete, returned⟩ := bind_ok.mp projected
  cases returned
  exact .settled (projectionOutcome_settled _)
    ((projectSubscriptionPart_events subscriptionPart).trans (projectCustomerPart_events customerPart))
    (completeStripeEvent_ok complete)

theorem recordBillingFailure_throws {failure : Failure} :
    ∃ thrown, (recordBillingFailure registered row failure processedAt).2 = .error thrown := by
  unfold recordBillingFailure
  split
  · exact ⟨_, rfl⟩
  · exact ⟨_, rfl⟩

/-- A billing projection of a registered event. -/
theorem Attempt.billing {input : StripeBillingProjectionInput}
    (again : registerStripeEvent registered input.event = .ok (registered, row, false))
    (unsettled : row.isSettled = false) (clock : IsNonNegativeSafeInteger input.now) :
    Attempt registered row (applyStripeBillingProjection registered input).1
      ((applyStripeBillingProjection registered input).2.map (·.processingResult)) := by
  have notSettled : ¬ (false = false ∧ row.isSettled = true) := by simp [unsettled]
  rw [applyStripeBillingProjection_unsettled again notSettled clock]
  cases projected : billingProjection registered row false input input.now with
  | ok outcome => exact .of_billingProjection projected
  | error failure =>
      obtain ⟨thrown, throws⟩ := @recordBillingFailure_throws registered row input.now failure
      simp only
      rw [throws]
      exact .failed (recordBillingFailure_known (registerStripeEvent_found again))

theorem Attempt.of_invoiceProjection {input : StripeInvoiceProjectionInput}
    {result : StripeBillingProjectionResult}
    (projected : invoiceProjection registered row inserted input processedAt = .ok (after, result)) :
    Attempt registered row after (.ok result.processingResult) := by
  obtain ⟨existing, _, projected⟩ := bind_ok.mp projected
  cases existing with
  | none => cases projected
  | some subscription =>
      simp only at projected
      split at projected
      · obtain ⟨⟨completed, completedRow⟩, complete, returned⟩ := bind_ok.mp projected
        cases returned
        exact .settled (.inr rfl) rfl (completeStripeEvent_ok complete)
      · obtain ⟨⟨written, updated⟩, project, projected⟩ := bind_ok.mp projected
        obtain ⟨⟨completed, completedRow⟩, complete, returned⟩ := bind_ok.mp projected
        cases returned
        have events : written.tables.stripeEvents = registered.tables.stripeEvents := by
          rw [(projectInvoice_ok project).2]
          rfl
        exact .settled (.inl rfl) events (completeStripeEvent_ok complete)

theorem recordInvoiceFailure_throws {input : StripeInvoiceProjectionInput} {failure : Failure} :
    ∃ thrown, (recordInvoiceFailure registered row input failure processedAt).2 = .error thrown := by
  unfold recordInvoiceFailure
  simp only
  split
  · split
    · exact ⟨_, rfl⟩
    · exact ⟨_, rfl⟩
  · exact ⟨_, rfl⟩

/-- An invoice projection of a registered event. -/
theorem Attempt.invoice {input : StripeInvoiceProjectionInput}
    (again : registerStripeEvent registered input.event = .ok (registered, row, false))
    (unsettled : row.isSettled = false) (clock : IsNonNegativeSafeInteger input.now) :
    Attempt registered row (applyStripeInvoiceProjection registered input).1
      ((applyStripeInvoiceProjection registered input).2.map (·.processingResult)) := by
  have timestamp : stripeTimestamp input.now "processedAt" = .ok input.now :=
    stripeTimestamp_ok.mpr ⟨clock, rfl⟩
  unfold applyStripeInvoiceProjection
  rw [again]
  cases resolved : getBillingSubscriptionByStripeId registered input.stripeSubscriptionId with
  | error failure =>
      simp only [resolved]
      exact .untouched
  | ok existing =>
      simp only [resolved, unsettled, Bool.false_eq_true, and_false, if_false, timestamp]
      cases projected : invoiceProjection registered row false input input.now with
      | ok outcome => exact .of_invoiceProjection projected
      | error failure =>
          obtain ⟨thrown, throws⟩ := @recordInvoiceFailure_throws registered row input.now input failure
          simp only
          rw [throws]
          exact .failed (recordInvoiceFailure_known again (registerStripeEvent_found again) unsettled clock)

/-- An event that is not projected is ignored. -/
theorem Attempt.ignore {input : StripeEventInput} {message : String}
    (again : registerStripeEvent registered input = .ok (registered, row, false))
    (unsettled : row.isSettled = false) {completed : StripeEventRow}
    (ignored : ignoreStripeEvent registered input message processedAt = .ok (after, completed)) :
    Attempt registered row after (.ok .ignored) := by
  obtain ⟨_, register, ignored⟩ := bind_ok.mp ignored
  obtain rfl := Except.ok.inj (again.symm.trans register)
  simp only [unsettled, Bool.false_eq_true, if_false] at ignored
  obtain ⟨timestamp, valid, complete⟩ := bind_ok.mp ignored
  exact .settled (.inr rfl) rfl (completeStripeEvent_ok complete)

theorem projectedType_invoice {text : String} {type : InvoiceEventType}
    (projected : projectedType text = .invoice type) : text = type.name := by
  unfold projectedType at projected
  split at projected
  · cases projected
  · split at projected
    · cases projected
    · split at projected
      · cases projected
      · split at projected
        · cases projected
          assumption
        · split at projected
          · cases projected
            assumption
          · cases projected

theorem Attempt.applyProjection {input : StripeEventInput}
    (again : registerStripeEvent registered input = .ok (registered, row, false))
    (unsettled : row.isSettled = false) (clock : IsNonNegativeSafeInteger processedAt)
    (projection : Except Failure Projection) :
    Attempt registered row (applyProjection registered input processedAt projection).1
      (applyProjection registered input processedAt projection).2 := by
  cases projection with
  | error failure => exact .untouched
  | ok projection =>
      let billingInput : StripeBillingProjectionInput :=
        ⟨input, projection.organizationId, projection.customer, projection.subscription, processedAt⟩
      have registration : registerStripeEvent registered billingInput.event =
          .ok (registered, row, false) := again
      have attempt := Attempt.billing registration unsettled clock
      simp only [Webhook.applyProjection]
      exact attempt

theorem Attempt.applyInvoice {input : StripeEventInput} {type : InvoiceEventType}
    (again : registerStripeEvent registered input = .ok (registered, row, false))
    (unsettled : row.isSettled = false) (clock : IsNonNegativeSafeInteger processedAt)
    (sameType : input.type = type.name) (stripeSubscriptionId : Except Failure String) :
    Attempt registered row (applyInvoice registered input type processedAt stripeSubscriptionId).1
      (applyInvoice registered input type processedAt stripeSubscriptionId).2 := by
  cases stripeSubscriptionId with
  | error failure => exact .untouched
  | ok stripeSubscriptionId =>
      let invoiceInput : StripeInvoiceProjectionInput :=
        ⟨input.stripeEventId, type, input.eventCreatedAt, input.receivedAt, stripeSubscriptionId,
          processedAt⟩
      have sameEvent : invoiceInput.event = input := by
        rw [StripeInvoiceProjectionInput.event, ← sameType]
      have registration : registerStripeEvent registered invoiceInput.event =
          .ok (registered, row, false) := sameEvent ▸ again
      have attempt := Attempt.invoice registration unsettled clock
      simp only [Webhook.applyInvoice]
      exact attempt

/-- Every branch of the `switch` is one attempt. -/
theorem Attempt.dispatch {event : Json} {input : StripeEventInput}
    (again : registerStripeEvent registered input = .ok (registered, row, false))
    (unsettled : row.isSettled = false) (clock : IsNonNegativeSafeInteger processedAt) :
    Attempt registered row (dispatch registered event input processedAt).1
      (dispatch registered event input processedAt).2 := by
  unfold Webhook.dispatch
  cases eventObject event with
  | error failure => exact .untouched
  | ok object =>
      simp only
      cases projected : projectedType input.type with
      | customer => exact .applyProjection again unsettled clock _
      | checkout => exact .applyProjection again unsettled clock _
      | subscription => exact .applyProjection again unsettled clock _
      | invoice type => exact .applyInvoice again unsettled clock (projectedType_invoice projected) _
      | other =>
          simp only
          cases ignored : ignoreStripeEvent registered input "event type is not projected" processedAt with
          | error failure => exact .untouched
          | ok outcome => exact .ignore again unsettled ignored

/-- After the `catch` clause the failure is recorded exactly once. -/
theorem Attempt.recorded {input : StripeEventInput} {failure : Failure} {failedAt : Int}
    (again : registerStripeEvent registered input = .ok (registered, row, false))
    (unsettled : row.isSettled = false) (clock : IsNonNegativeSafeInteger failedAt)
    (attempt : Attempt registered row after (.error failure)) :
    ∃ message now, (recordWebhookFailure after input row failure failedAt).1.tables =
      completedTables row.stripeEventId .failed message now registered.tables := by
  obtain ⟨candidate, accepted, sameId, _⟩ := registerStripeEvent_ok again
  obtain ⟨text, idText, _⟩ := bind_ok.mp accepted
  obtain ⟨known, _⟩ := stripeEventCandidate_ok accepted
  have named : text = row.stripeEventId := by
    rw [sameId, known]
    exact (requiredStripeText_ok idText).1
  rw [named] at idText
  have current (database : CloudDatabase) : getStripeEvent database input.stripeEventId =
      .ok (lookup (·.stripeEventId) database.tables.stripeEvents row.stripeEventId) :=
    bind_ok.mpr ⟨row.stripeEventId, idText, rfl⟩
  have found := registerStripeEvent_found again
  unfold recordWebhookFailure
  cases attempt with
  | @failed after message now failure tables =>
      have counted : lookup (·.stripeEventId) after.tables.stripeEvents row.stripeEventId =
          some (row.completed .failed message now) := by
        rw [tables]
        exact lookup_completedTables_self found
      have twice : ¬ (some (row.completed .failed message now)).map (·.attemptCount) =
          some row.attemptCount := by
        simp [StripeEventRow.completed]
      rw [current, counted]
      simp only [if_neg twice]
      exact ⟨message, now, tables⟩
  | untouched =>
      have outcome : StripeEventProcessingResult.failed ≠ .pending := nofun
      obtain ⟨completed, complete⟩ := completeStripeEvent_known failure.message failedAt found outcome
      have failed := (failStripeEvent_unsettled again unsettled clock).trans complete
      rw [current, found]
      simp only [Option.map_some, if_true, failed]
      exact ⟨_, _, completeStripeEvent_ok complete⟩

end Attempts

/-! ## One call -/

def eventRow (database : CloudDatabase) (stripeEventId : String) : Option StripeEventRow :=
  lookup (·.stripeEventId) database.tables.stripeEvents stripeEventId

/-- The recorded attempts at an event; an unknown one has none. -/
def attempts (database : CloudDatabase) (stripeEventId : String) : Int :=
  ((eventRow database stripeEventId).map (·.attemptCount)).getD 0

/-- The event has an identifier, a type and times that the table can hold. -/
def WellFormed (input : StripeEventInput) : Prop :=
  ∃ candidate, stripeEventCandidate input = .ok candidate ∧ candidate.Checks

/-- Another type or creation time is recorded under the identifier of the event. -/
def Conflicts (database : CloudDatabase) (input : StripeEventInput) : Prop :=
  ∃ stored ∈ eventRow database (trim input.stripeEventId),
    stored.type ≠ trim input.type ∨ stored.eventCreatedAt ≠ input.eventCreatedAt

/-- The event is already applied or ignored. -/
def Settled (database : CloudDatabase) (stripeEventId : String) : Prop :=
  ∃ stored ∈ eventRow database stripeEventId, stored.isSettled = true

/-- What the delivery of an event leaves in the ledger and in the other tables. -/
structure Faithful (before : CloudDatabase) (input : StripeEventInput) (after : CloudDatabase)
    (result : Except Failure StripeWebhookResult) : Prop where
  malformed : ¬ WellFormed input → after = before ∧ ∃ failure, result = .error failure
  conflicting : Conflicts before input → after = before ∧ ∃ failure, result = .error failure
  settled : WellFormed input → ¬ Conflicts before input → Settled before (trim input.stripeEventId) →
    after = before ∧ ∃ answer, result = .ok answer
  counted : WellFormed input → ¬ Conflicts before input →
    ¬ Settled before (trim input.stripeEventId) →
    attempts after (trim input.stripeEventId) = attempts before (trim input.stripeEventId) + 1
  returned : ∀ answer, result = .ok answer →
    ∃ row ∈ eventRow after (trim input.stripeEventId),
      row.processingResult = answer.processingResult ∧ row.isSettled = true
  thrown : WellFormed input → ¬ Conflicts before input → ∀ failure, result = .error failure →
    (∃ row ∈ eventRow after (trim input.stripeEventId), row.processingResult = .failed) ∧
      ∃ stripeEvents, after.tables = { before.tables with stripeEvents }
  others : ∀ other, other ≠ trim input.stripeEventId → eventRow after other = eventRow before other

section Calls

variable {before registered after : CloudDatabase} {input : StripeEventInput} {row : StripeEventRow}
  {inserted : Bool} {event : Json} {clock : WebhookClock}

/-- What registration finds and leaves. -/
structure Registration (before : CloudDatabase) (input : StripeEventInput) (registered : CloudDatabase)
    (row : StripeEventRow) : Prop where
  wellFormed : WellFormed input
  accordant : ¬ Conflicts before input
  sameId : row.stripeEventId = trim input.stripeEventId
  settled : Settled before (trim input.stripeEventId) ↔ row.isSettled = true
  unchanged : row.isSettled = true → registered = before
  counted : row.attemptCount = attempts before (trim input.stripeEventId)
  written : ∃ stripeEvents, registered.tables = { before.tables with stripeEvents }
  others : ∀ other, other ≠ trim input.stripeEventId → eventRow registered other = eventRow before other

theorem Registration.of_register
    (register : registerStripeEvent before input = .ok (registered, row, inserted)) :
    Registration before input registered row := by
  have wellFormed : WellFormed input := registerStripeEvent_checks register
  have written := registerStripeEvent_frame register
  obtain ⟨candidate, accepted, sameId, sameType, sameTime, known | fresh⟩ := registerStripeEvent_ok register
  · obtain ⟨_, rfl, found⟩ := known
    obtain ⟨trimmedId, trimmedType, created, _⟩ := stripeEventCandidate_ok accepted
    rw [trimmedId] at found
    have stored : eventRow registered (trim input.stripeEventId) = some row := found
    refine ⟨wellFormed, ?_, sameId.trans trimmedId, ?_, fun _ => rfl, ?_, written, fun _ _ => rfl⟩
    · rintro ⟨other, present, differs⟩
      obtain rfl : row = other := Option.some.inj (stored.symm.trans present)
      exact differs.elim (absurd (sameType.trans trimmedType)) (absurd (sameTime.trans created))
    · refine ⟨?_, fun settled => ⟨row, stored, settled⟩⟩
      rintro ⟨other, present, settled⟩
      obtain rfl : row = other := Option.some.inj (stored.symm.trans present)
      exact settled
    · simp [attempts, stored]
  · obtain ⟨_, rfl, absent, appended⟩ := fresh
    obtain ⟨trimmedId, _, _, unsettled⟩ := stripeEventCandidate_ok accepted
    have missing : eventRow before (trim input.stripeEventId) = none := by
      rw [← trimmedId]
      exact absent
    refine ⟨wellFormed, ?_, trimmedId, ?_, fun settled => ?_, ?_, written, fun other different => ?_⟩
    · rintro ⟨other, present, _⟩
      cases missing.symm.trans present
    · refine ⟨?_, fun settled => absurd settled (by simp [unsettled])⟩
      rintro ⟨other, present, _⟩
      cases missing.symm.trans present
    · exact absurd settled (by simp [unsettled])
    · simp [attempts, missing, stripeEventCandidate_attempts accepted]
    · have fresh : ¬ row.stripeEventId = other := fun same => different (same.symm.trans trimmedId)
      unfold eventRow
      rw [appended]
      exact (lookup_append_fresh absent).trans (if_neg fresh)

/-- Only malformed and conflicting events are refused. -/
theorem registers (wellFormed : WellFormed input) (accordant : ¬ Conflicts before input) :
    ∃ outcome, registerStripeEvent before input = .ok outcome := by
  obtain ⟨candidate, accepted, checks⟩ := wellFormed
  obtain ⟨trimmedId, trimmedType, created, _⟩ := stripeEventCandidate_ok accepted
  cases found : lookup (·.stripeEventId) before.tables.stripeEvents candidate.stripeEventId with
  | none =>
      obtain ⟨after, register, _⟩ := registerStripeEvent_fresh accepted checks found
      exact ⟨_, register⟩
  | some stored =>
      have present : stored ∈ eventRow before (trim input.stripeEventId) := by
        rw [← trimmedId]
        exact found
      have sameType : stored.type = trim input.type :=
        Classical.byContradiction fun differs => accordant ⟨stored, present, .inl differs⟩
      have sameTime : stored.eventCreatedAt = input.eventCreatedAt :=
        Classical.byContradiction fun differs => accordant ⟨stored, present, .inr differs⟩
      exact ⟨_, registerStripeEvent_known accepted checks found (sameType.trans trimmedType.symm)
        (sameTime.trans created.symm)⟩

/-- An event that cannot be registered changes nothing. -/
theorem Faithful.refused {failure : Failure}
    (refused : registerStripeEvent before input = .error failure) :
    Faithful before input before (.error failure) := by
  have never : WellFormed input → ¬ Conflicts before input → False := by
    intro wellFormed accordant
    obtain ⟨outcome, register⟩ := registers wellFormed accordant
    cases refused.symm.trans register
  constructor
  case malformed => exact fun _ => ⟨rfl, failure, rfl⟩
  case conflicting => exact fun _ => ⟨rfl, failure, rfl⟩
  case settled => exact fun wellFormed accordant _ => (never wellFormed accordant).elim
  case counted => exact fun wellFormed accordant _ => (never wellFormed accordant).elim
  case returned => exact fun answer returned => by cases returned
  case thrown => exact fun wellFormed accordant _ _ => (never wellFormed accordant).elim
  case others => exact fun _ _ => rfl

/-- A redelivery of a settled event changes nothing. -/
theorem Faithful.redelivered (registration : Registration before input registered row)
    (found : eventRow registered (trim input.stripeEventId) = some row) (settled : row.isSettled = true) :
    Faithful before input registered
      (.ok ⟨input.stripeEventId, input.type, true, row.processingResult⟩) := by
  have unchanged := registration.unchanged settled
  constructor
  case malformed => exact fun malformed => absurd registration.wellFormed malformed
  case conflicting => exact fun conflicts => absurd conflicts registration.accordant
  case settled => exact fun _ _ _ => ⟨unchanged, _, rfl⟩
  case counted => exact fun _ _ unsettled => absurd (registration.settled.mpr settled) unsettled
  case returned =>
      intro answer returned
      cases returned
      exact ⟨row, found, rfl, settled⟩
  case thrown => exact fun _ _ failure thrown => by cases thrown
  case others => exact fun other different => registration.others other different

/-- A completed event is counted once, and the other events are as they were. -/
theorem Registration.completed (registration : Registration before input registered row)
    (found : eventRow registered (trim input.stripeEventId) = some row)
    {result : StripeEventProcessingResult} {message : String} {now : Int} {middle : Tables}
    (events : middle.stripeEvents = registered.tables.stripeEvents)
    (tables : after.tables = completedTables row.stripeEventId result message now middle) :
    eventRow after (trim input.stripeEventId) = some (row.completed result message now) ∧
      attempts after (trim input.stripeEventId) = attempts before (trim input.stripeEventId) + 1 ∧
      ∀ other, other ≠ trim input.stripeEventId → eventRow after other = eventRow before other := by
  have completed : eventRow after (trim input.stripeEventId) =
      some (row.completed result message now) := by
    unfold eventRow at found ⊢
    rw [← registration.sameId] at found ⊢
    rw [tables]
    exact lookup_completedTables_self (events ▸ found)
  refine ⟨completed, ?_, fun other different => ?_⟩
  · simp [attempts, completed, StripeEventRow.completed, registration.counted]
  · rw [← registration.others other different]
    unfold eventRow
    rw [tables, ← events]
    exact lookup_completedTables fun same => different (same.symm.trans registration.sameId)

/-- A processed event is settled by the call. -/
theorem Faithful.processed (registration : Registration before input registered row)
    (found : eventRow registered (trim input.stripeEventId) = some row)
    (unsettled : row.isSettled = false) {result : StripeEventProcessingResult} {duplicate : Bool}
    (attempt : Attempt registered row after (.ok result)) :
    Faithful before input after (.ok ⟨input.stripeEventId, input.type, duplicate, result⟩) := by
  cases attempt with
  | settled outcome events tables =>
      obtain ⟨completed, counted, others⟩ := registration.completed found events tables
      constructor
      case malformed => exact fun malformed => absurd registration.wellFormed malformed
      case conflicting => exact fun conflicts => absurd conflicts registration.accordant
      case settled =>
          exact fun _ _ settled => absurd (registration.settled.mp settled) (by simp [unsettled])
      case counted => exact fun _ _ _ => counted
      case returned =>
          intro answer returned
          cases returned
          refine ⟨_, completed, rfl, ?_⟩
          obtain rfl | rfl := outcome
          · rfl
          · rfl
      case thrown => exact fun _ _ failure thrown => by cases thrown
      case others => exact others

/-- A failure after the registration is recorded, and nothing else is. -/
theorem Faithful.failed (registration : Registration before input registered row)
    (found : eventRow registered (trim input.stripeEventId) = some row)
    (unsettled : row.isSettled = false) {failure : Failure} {message : String} {now : Int}
    (tables : after.tables = completedTables row.stripeEventId .failed message now registered.tables) :
    Faithful before input after (.error failure) := by
  obtain ⟨completed, counted, others⟩ := registration.completed found rfl tables
  constructor
  case malformed => exact fun malformed => absurd registration.wellFormed malformed
  case conflicting => exact fun conflicts => absurd conflicts registration.accordant
  case settled =>
      exact fun _ _ settled => absurd (registration.settled.mp settled) (by simp [unsettled])
  case counted => exact fun _ _ _ => counted
  case returned => exact fun answer returned => by cases returned
  case thrown =>
      intro _ _ _ _
      obtain ⟨stripeEvents, written⟩ := registration.written
      refine ⟨⟨_, completed, rfl⟩, ?_⟩
      rw [tables, written]
      exact ⟨_, rfl⟩
  case others => exact others

/-- `processEvent` on a payload that could be read, with any clock that tells valid times. -/
theorem Faithful.of_processEvent (read : eventInput event clock.receivedAt = .ok input)
    (processedAt : IsNonNegativeSafeInteger clock.processedAt)
    (failedAt : IsNonNegativeSafeInteger clock.failedAt) :
    Faithful before input (processEvent before event clock).1 (processEvent before event clock).2 := by
  unfold processEvent
  simp only [read]
  cases register : registerStripeEvent before input with
  | error failure => exact .refused register
  | ok outcome =>
      obtain ⟨registered, row, inserted⟩ := outcome
      have registration := Registration.of_register register
      have found : eventRow registered (trim input.stripeEventId) = some row := by
        rw [← registration.sameId]
        exact registerStripeEvent_found register
      have again := registerStripeEvent_again register
      simp only
      cases settled : row.isSettled with
      | true =>
          simp only [if_true]
          exact .redelivered registration found settled
      | false =>
          have attempt : Attempt registered row (dispatch registered event input clock.processedAt).1
              (dispatch registered event input clock.processedAt).2 := .dispatch again settled processedAt
          generalize dispatch registered event input clock.processedAt = dispatched at attempt ⊢
          simp only [Bool.false_eq_true, if_false]
          obtain ⟨after, result⟩ := dispatched
          cases result with
          | ok result => exact .processed registration found settled attempt
          | error failure =>
              obtain ⟨message, now, tables⟩ := Attempt.recorded again settled failedAt attempt
              exact .failed registration found settled tables

end Calls

end NebulaCloud.Webhook
