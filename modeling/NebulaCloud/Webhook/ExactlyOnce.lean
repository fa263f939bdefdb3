import NebulaCloud.Webhook.Ledger

namespace NebulaCloud.Webhook

open NebulaCloud.Data NebulaCloud.Database NebulaCloud.Platform NebulaCloud.Billing

/-! # Deliveries in any order

The events of one installation arrive in any order and any number of times.  Each
delivery is accounted for, and no event stays pending between two of them. -/

structure WebhookDelivery (Payload : Type) where
  rawBody : Payload
  signature : String
  clock : WebhookClock

def WebhookClock.Valid (clock : WebhookClock) : Prop :=
  IsNonNegativeSafeInteger clock.receivedAt ∧ IsNonNegativeSafeInteger clock.processedAt ∧
    IsNonNegativeSafeInteger clock.failedAt

instance (clock : WebhookClock) : Decidable clock.Valid := inferInstanceAs (Decidable (_ ∧ _))

def NothingPending (database : CloudDatabase) : Prop :=
  ∀ row ∈ database.tables.stripeEvents, row.processingResult ≠ .pending

instance (database : CloudDatabase) : Decidable (NothingPending database) :=
  inferInstanceAs (Decidable (∀ row ∈ _, _))

section Webhook

variable {Payload : Type} (constructEvent : Payload → String → Option Json)

def webhook : System CloudDatabase (WebhookDelivery Payload) where
  Initial := NothingPending
  Enabled := fun _ delivery => delivery.clock.Valid
  step := fun database delivery =>
    (process constructEvent database delivery.rawBody delivery.signature delivery.clock).1

instance (state : CloudDatabase) (delivery : WebhookDelivery Payload) :
    Decidable ((webhook constructEvent).Enabled state delivery) :=
  inferInstanceAs (Decidable delivery.clock.Valid)

/-- A delivery with a verified payload leaves a faithful ledger, and any other delivery
changes nothing. -/
def Accounted (before : CloudDatabase) (delivery : WebhookDelivery Payload) : Prop :=
  let call := process constructEvent before delivery.rawBody delivery.signature delivery.clock
  match constructEvent delivery.rawBody delivery.signature with
  | none => call.1 = before
  | some event =>
      match eventInput event delivery.clock.receivedAt with
      | .error failure => call = (before, .error failure)
      | .ok input => Faithful before input call.1 call.2

end Webhook

section Deliveries

variable {Payload : Type} {constructEvent : Payload → String → Option Json}
  {before after : CloudDatabase} {delivery : WebhookDelivery Payload} {input : StripeEventInput}
  {result : Except Failure StripeWebhookResult} {deliveries : List (WebhookDelivery Payload)}

theorem accounted_of_valid (valid : delivery.clock.Valid) : Accounted constructEvent before delivery := by
  unfold Accounted process
  cases constructEvent delivery.rawBody delivery.signature with
  | none => rfl
  | some event =>
      simp only
      cases read : eventInput event delivery.clock.receivedAt with
      | error failure => simp only [processEvent, read]
      | ok input => exact .of_processEvent read valid.2.1 valid.2.2

/-- An accounted delivery leaves the ledger as it was or has read an event from it. -/
theorem Accounted.cases (accounted : Accounted constructEvent before delivery) :
    (webhook constructEvent).step before delivery = before ∨
      ∃ input result, Faithful before input ((webhook constructEvent).step before delivery) result := by
  unfold Accounted at accounted
  split at accounted
  · exact .inl accounted
  · split at accounted
    · exact .inl (congrArg Prod.fst accounted)
    · exact .inr ⟨_, _, accounted⟩

/-- What a faithful call leaves pending was pending before. -/
theorem Faithful.nothingPending (faithful : Faithful before input after result)
    (nothing : NothingPending before) : NothingPending after := by
  intro row stored pending
  have present : eventRow after row.stripeEventId = some row :=
    lookup_of_mem (after.consistent .eventId) stored
  by_cases same : row.stripeEventId = trim input.stripeEventId
  · rw [same] at present
    cases result with
    | ok answer =>
        obtain ⟨other, found, _, settled⟩ := faithful.returned answer rfl
        obtain rfl : row = other := Option.some.inj (present.symm.trans found)
        simp [StripeEventRow.isSettled, pending] at settled
    | error failure =>
        by_cases wellFormed : WellFormed input
        · by_cases conflicts : Conflicts before input
          · rw [(faithful.conflicting conflicts).1] at stored
            exact nothing row stored pending
          · obtain ⟨⟨other, found, failed⟩, _⟩ := faithful.thrown wellFormed conflicts failure rfl
            obtain rfl : row = other := Option.some.inj (present.symm.trans found)
            cases failed.symm.trans pending
        · rw [(faithful.malformed wellFormed).1] at stored
          exact nothing row stored pending
  · rw [faithful.others _ same] at present
    exact nothing row (lookup_mem present) pending

/-- The record of a settled event is final. -/
theorem Faithful.final (faithful : Faithful before input after result) {row : StripeEventRow}
    (settled : row.isSettled = true) (present : eventRow before row.stripeEventId = some row) :
    eventRow after row.stripeEventId = some row := by
  by_cases same : row.stripeEventId = trim input.stripeEventId
  · have unchanged : after = before := by
      by_cases wellFormed : WellFormed input
      · by_cases conflicts : Conflicts before input
        · exact (faithful.conflicting conflicts).1
        · exact (faithful.settled wellFormed conflicts ⟨row, same ▸ present, settled⟩).1
      · exact (faithful.malformed wellFormed).1
    rw [unchanged]
    exact present
  · rw [faithful.others _ same]
    exact present

/-- Over any run of deliveries each call is accounted for: an event that is not settled
is counted exactly once and ends applied, ignored or failed, a failure leaves every
other table as it was, and a settled event, a conflicting or an unreadable one changes
nothing.  A settled event stays as it is to the end, and no event is left pending. -/
theorem webhook_exactlyOnce (constructEvent : Payload → String → Option Json)
    (runs : (webhook constructEvent).Runs before deliveries) :
    (webhook constructEvent).Along (Accounted constructEvent) before deliveries ∧
      (∀ row, row.isSettled = true → eventRow before row.stripeEventId = some row →
        eventRow ((webhook constructEvent).run before deliveries) row.stripeEventId = some row) ∧
      (NothingPending before → NothingPending ((webhook constructEvent).run before deliveries)) := by
  let Kept : CloudDatabase → Prop := fun current =>
    (∀ row, row.isSettled = true → eventRow before row.stripeEventId = some row →
      eventRow current row.stripeEventId = some row) ∧
    (NothingPending before → NothingPending current)
  have start : Kept before := ⟨fun _ _ present => present, fun nothing => nothing⟩
  refine @System.Along.invariant _ _ (webhook constructEvent) before deliveries _
    (Accounted constructEvent) Kept runs start ?_
  intro current delivery valid kept
  have accounted : Accounted constructEvent current delivery := accounted_of_valid valid
  refine ⟨accounted, ?_⟩
  obtain unchanged | ⟨input, result, faithful⟩ := accounted.cases
  · rw [unchanged]
    exact kept
  · refine ⟨fun row settled present => ?_, fun nothing => ?_⟩
    · exact faithful.final settled (kept.1 row settled present)
    · exact faithful.nothingPending (kept.2 nothing)

end Deliveries

section Sample

/-- A check that accepts one signature and hands out the payload. -/
def acceptSigned (event : Json) (signature : String) : Option Json :=
  if signature = "signed" then some event else none

def customerCreated : Json :=
  .object
    [("id", .string "evt_1"), ("type", .string "customer.created"), ("created", .number 10),
      ("data", .object [("object", .object
        [("id", .string "cus_1"), ("metadata", .object [("nubols_organization_id", .string "acme")])])])]

/-- A subscription without a price cannot be projected. -/
def pricelessSubscription : Json :=
  .object
    [("id", .string "evt_2"), ("type", .string "customer.subscription.updated"), ("created", .number 11),
      ("data", .object [("object", .object
        [("id", .string "sub_1"), ("customer", .string "cus_1"),
          ("items", .object [("data", .array [.object []])])])])]

def signed (event : Json) (now : Int) : WebhookDelivery Json := ⟨event, "signed", now, now, now⟩

def interleaved : List (WebhookDelivery Json) :=
  [signed customerCreated 20, signed pricelessSubscription 21, signed customerCreated 22,
    signed pricelessSubscription 23]

theorem exactlyOnce_interleaved :
    attempts ((webhook acceptSigned).run customerTeam interleaved) "evt_1" = 1 ∧
      attempts ((webhook acceptSigned).run customerTeam interleaved) "evt_2" = 2 ∧
      (webhook acceptSigned).Along (Accounted acceptSigned) customerTeam interleaved ∧
      NothingPending ((webhook acceptSigned).run customerTeam interleaved) := by
  have runs : (webhook acceptSigned).Runs customerTeam interleaved := by decide
  obtain ⟨accounted, _, nothing⟩ := webhook_exactlyOnce acceptSigned runs
  have counted : attempts ((webhook acceptSigned).run customerTeam interleaved) "evt_1" = 1 ∧
      attempts ((webhook acceptSigned).run customerTeam interleaved) "evt_2" = 2 := by decide +kernel
  exact ⟨counted.1, counted.2, accounted, nothing (by decide)⟩

end Sample

end NebulaCloud.Webhook
