import NebulaCloud.Billing.InvoiceDelivery
import NebulaCloud.Billing.StaleEvents
import NebulaCloud.Data.Timer
import Mathlib.Data.Prod.Lex
import Mathlib.Data.List.Lex

namespace NebulaCloud.Billing

open NebulaCloud.Data NebulaCloud.Database NebulaCloud.Platform

/-! # Invoices in any order

The grace deadline of a subscription is a timer: a failed payment starts it unless it
runs, a payment clears it, and an event that is not newer than the cursor is dropped.
What the dropped event should have started is lost. -/

structure InvoiceEvent where
  stripeEventId : String
  type : InvoiceEventType
  eventCreatedAt : Int
  receivedAt : Int
deriving DecidableEq, Repr

namespace InvoiceEvent

/-- The stored form of the identifier. -/
def id (event : InvoiceEvent) : String := trim event.stripeEventId

/-- Creation time first, identifier second, compared by code units. -/
def key (event : InvoiceEvent) : Int ×ₗ List Nat := toLex (event.eventCreatedAt, codeUnits event.id)

/-- The deadline that the event would start; a payment starts none. -/
def starts (event : InvoiceEvent) : Option Int :=
  match event.type with
  | .paid => none
  | .paymentFailed => some (event.eventCreatedAt + stripePaymentGraceDurationMs)

def input (stripeSubscriptionId : String) (now : Int) (event : InvoiceEvent) :
    StripeInvoiceProjectionInput where
  stripeEventId := event.stripeEventId
  type := event.type
  eventCreatedAt := event.eventCreatedAt
  receivedAt := event.receivedAt
  stripeSubscriptionId := stripeSubscriptionId
  now := now

@[simp] theorem input_type (stripeSubscriptionId : String) (now : Int) (event : InvoiceEvent) :
    (event.input stripeSubscriptionId now).type = event.type := rfl

@[simp] theorem input_now (stripeSubscriptionId : String) (now : Int) (event : InvoiceEvent) :
    (event.input stripeSubscriptionId now).now = now := rfl

end InvoiceEvent

def deliverInvoice (stored : BillingSubscriptionRow) (now : Int) (database : CloudDatabase)
    (event : InvoiceEvent) : CloudDatabase :=
  (applyStripeInvoiceProjection database (event.input stored.stripeSubscriptionId now)).1

/-- The invoice event that the subscription has seen last. -/
def invoiceCursor (subscription : BillingSubscriptionRow) : Option (Int ×ₗ List Nat) :=
  subscription.lastInvoiceEventCreatedAt.map fun lastInvoiceEventCreatedAt =>
    toLex (lastInvoiceEventCreatedAt, codeUnits (subscription.lastInvoiceEventId.getD ""))

/-- The seats can take the access under this deadline. -/
def graceFits (starts : List Int) (stored : BillingSubscriptionRow) (now : Int)
    (graceEndsAt : Option Int) : Bool :=
  decide (AccessFits starts
    { stored with paymentState := invoicePaymentState graceEndsAt now, graceEndsAt } now)

/-- Payment state, grace deadline and cursor. -/
def paymentColumns (subscription : BillingSubscriptionRow) :
    PaymentState × Option Int × Option Int × Option String :=
  (subscription.paymentState, subscription.graceEndsAt, subscription.lastInvoiceEventCreatedAt,
    subscription.lastInvoiceEventId)

/-- The columns after delivery in order: the deadline is fourteen days after the first
failure since the latest payment. -/
def expectedColumns (stored : BillingSubscriptionRow) (now : Int) (inOrder : List InvoiceEvent) :
    PaymentState × Option Int × Option Int × Option String :=
  match inOrder.getLast? with
  | none => paymentColumns stored
  | some newest =>
      let graceEndsAt := settled InvoiceEvent.starts stored.graceEndsAt inOrder
      (invoicePaymentState graceEndsAt now, graceEndsAt, some newest.eventCreatedAt, some newest.id)

/-- The subscription is stored, and the events are well-formed, distinct and new. -/
structure InvoicesPending (database : CloudDatabase) (stored : BillingSubscriptionRow) (now : Int)
    (events : List InvoiceEvent) : Prop where
  member : stored ∈ database.tables.subscriptions
  organization : trim stored.organizationId = stored.organizationId
  subscriptionId : requiredStripeText stored.stripeSubscriptionId "stripeSubscriptionId" 255 =
    .ok stored.stripeSubscriptionId
  clock : IsNonNegativeSafeInteger now
  wellFormed : ∀ event ∈ events, ∃ row,
    stripeEventCandidate (event.input stored.stripeSubscriptionId now).event = .ok row ∧ row.Checks
  distinct : (events.map InvoiceEvent.id).Nodup
  unrecorded : ∀ event ∈ events, lookup (·.stripeEventId) database.tables.stripeEvents event.id = none

section Steps

variable {start database : CloudDatabase} {stored current : BillingSubscriptionRow} {now : Int}
  {events rest : List InvoiceEvent} {event : InvoiceEvent} {timer : Timer (Int ×ₗ List Nat) Int}

theorem invoiceEventIsNewer_iff (current : BillingSubscriptionRow) {row : StripeEventRow}
    (sameTime : row.eventCreatedAt = event.eventCreatedAt) (sameId : row.stripeEventId = event.id) :
    invoiceEventIsNewer current row = true ↔ ∀ last ∈ invoiceCursor current, last < event.key := by
  unfold invoiceEventIsNewer invoiceCursor
  cases current.lastInvoiceEventCreatedAt with
  | none => simp
  | some lastInvoiceEventCreatedAt =>
      simp only [Option.map_some, Option.mem_some_iff, forall_eq', InvoiceEvent.key,
        Prod.Lex.toLex_lt_toLex, Bool.or_eq_true, Bool.and_eq_true, decide_eq_true_eq, sameTime, sameId]
      rw [eq_comm (a := event.eventCreatedAt)]

theorem invoiceGraceEndsAt_eq_armed :
    invoiceGraceEndsAt event.type current event.eventCreatedAt =
      armed event.starts current.graceEndsAt := by
  unfold invoiceGraceEndsAt InvoiceEvent.starts
  cases event.type with
  | paid => rfl
  | paymentFailed => rfl

/-- The row that shows the timer: the stored one, or the last event that counted. -/
def Shows (stored : BillingSubscriptionRow) (now : Int) (events : List InvoiceEvent)
    (current : BillingSubscriptionRow) (timer : Timer (Int ×ₗ List Nat) Int) : Prop :=
  (current = stored ∧ timer = ⟨invoiceCursor stored, stored.graceEndsAt⟩) ∨
    ∃ event ∈ events, timer.cursor = some event.key ∧
      current = { stored with
        paymentState := invoicePaymentState timer.deadline now
        graceEndsAt := timer.deadline
        lastInvoiceEventCreatedAt := some event.eventCreatedAt
        lastInvoiceEventId := some event.id
        updatedAt := now }

theorem Shows.timer_eq (shows : Shows stored now events current timer) :
    timer = ⟨invoiceCursor current, current.graceEndsAt⟩ := by
  obtain ⟨rfl, same⟩ | ⟨event, _, cursor, rfl⟩ := shows
  · exact same
  · exact Timer.ext cursor rfl

theorem Shows.keys (shows : Shows stored now events current timer) :
    current.organizationId = stored.organizationId ∧
      current.stripeSubscriptionId = stored.stripeSubscriptionId := by
  obtain ⟨rfl, _⟩ | ⟨_, _, _, rfl⟩ := shows
  · exact ⟨rfl, rfl⟩
  · exact ⟨rfl, rfl⟩

/-- A counting event leaves a row that shows the next timer. -/
theorem Shows.invoiced {row : StripeEventRow} (member : event ∈ events)
    (sameTime : row.eventCreatedAt = event.eventCreatedAt) (sameId : row.stripeEventId = event.id)
    (shows : Shows stored now events current timer) :
    Shows stored now events (current.invoiced event.type row now)
      ⟨some event.key, armed event.starts timer.deadline⟩ := by
  have grace : invoiceGraceEndsAt event.type current row.eventCreatedAt =
      armed event.starts timer.deadline := by
    rw [sameTime, invoiceGraceEndsAt_eq_armed, shows.timer_eq]
  refine .inr ⟨event, member, rfl, ?_⟩
  rw [BillingSubscriptionRow.invoiced, grace, sameTime, sameId]
  obtain ⟨rfl, _⟩ | ⟨_, _, _, rfl⟩ := shows
  · rfl
  · rfl

theorem Shows.fits (starts : List Int) {row : StripeEventRow}
    (sameTime : row.eventCreatedAt = event.eventCreatedAt)
    (shows : Shows stored now events current timer) :
    AccessFits starts (current.invoiced event.type row now) now ↔
      graceFits starts stored now (armed event.starts timer.deadline) = true := by
  have grace : invoiceGraceEndsAt event.type current row.eventCreatedAt =
      armed event.starts timer.deadline := by
    rw [sameTime, invoiceGraceEndsAt_eq_armed, shows.timer_eq]
  rw [graceFits, decide_eq_true_eq, BillingSubscriptionRow.invoiced, grace]
  obtain ⟨rfl, _⟩ | ⟨_, _, _, rfl⟩ := shows
  · rfl
  · rfl

/-- The database, at the events that have not arrived yet, follows the timer. -/
structure Tracks (start : CloudDatabase) (stored : BillingSubscriptionRow) (now : Int)
    (events remaining : List InvoiceEvent) (database : CloudDatabase)
    (timer : Timer (Int ×ₗ List Nat) Int) : Prop where
  row : ∃ current, lookup (·.stripeSubscriptionId) database.tables.subscriptions
    stored.stripeSubscriptionId = some current ∧ Shows stored now events current timer
  seats : seatStarts database.tables stored.organizationId =
    seatStarts start.tables stored.organizationId
  unrecorded : ∀ event ∈ remaining,
    lookup (·.stripeEventId) database.tables.stripeEvents event.id = none

/-- One arrival of an event at the database is one arrival at the timer. -/
theorem Tracks.deliver (pending : InvoicesPending start stored now events) (member : event ∈ events)
    (fresh : ∀ other ∈ rest, ¬ event.id = other.id)
    (tracks : Tracks start stored now events (event :: rest) database timer) :
    Tracks start stored now events rest (deliverInvoice stored now database event)
      (timer.arrive InvoiceEvent.key InvoiceEvent.starts
        (graceFits (seatStarts start.tables stored.organizationId) stored now) event) := by
  obtain ⟨current, found, shows⟩ := tracks.row
  obtain ⟨row, accepted, checks⟩ := pending.wellFormed event member
  obtain ⟨sameId, _, sameTime, unsettled⟩ := stripeEventCandidate_ok accepted
  have rowId : row.stripeEventId = event.id := sameId
  have rowTime : row.eventCreatedAt = event.eventCreatedAt := sameTime
  have absent : lookup (·.stripeEventId) database.tables.stripeEvents row.stripeEventId = none := by
    rw [rowId]
    exact tracks.unrecorded event List.mem_cons_self
  obtain ⟨registered, register, written⟩ := registerStripeEvent_fresh accepted checks absent
  have registeredFound : lookup (·.stripeSubscriptionId) registered.tables.subscriptions
      stored.stripeSubscriptionId = some current := by
    rw [written]
    exact found
  obtain ⟨sameOrganization, _⟩ := shows.keys
  have trimmed : trim current.organizationId = current.organizationId := by
    rw [sameOrganization]
    exact pending.organization
  have text : requiredStripeText (event.input stored.stripeSubscriptionId now).stripeSubscriptionId
      "stripeSubscriptionId" 255 = .ok stored.stripeSubscriptionId := pending.subscriptionId
  have clock : IsNonNegativeSafeInteger (event.input stored.stripeSubscriptionId now).now := pending.clock
  obtain ⟨message, tables⟩ := applyStripeInvoiceProjection_unsettled register unsettled clock text
    registeredFound trimmed
  rw [← deliverInvoice, InvoiceEvent.input_type, InvoiceEvent.input_now] at tables
  have seats : seatStarts registered.tables current.organizationId =
      seatStarts start.tables stored.organizationId := by
    rw [written, sameOrganization]
    exact tracks.seats
  -- the events that have not arrived are not touched
  have others (middle : Tables) (result : StripeEventProcessingResult)
      (events : middle.stripeEvents = database.tables.stripeEvents ++ [row]) (other : InvoiceEvent)
      (later : other ∈ rest) :
      lookup (·.stripeEventId)
        (completedTables row.stripeEventId result message now middle).stripeEvents other.id = none := by
    have different : ¬ row.stripeEventId = other.id := by
      rw [rowId]
      exact fresh other later
    rw [lookup_completedTables different, events, lookup_append_fresh absent, if_neg different]
    exact tracks.unrecorded other (List.mem_cons_of_mem event later)
  have registeredEvents : registered.tables.stripeEvents = database.tables.stripeEvents ++ [row] := by
    rw [written]
  have fits := shows.fits (seatStarts start.tables stored.organizationId) rowTime
  rw [← seats] at fits ⊢
  have newer := invoiceEventIsNewer_iff current rowTime rowId
  have cursor : invoiceCursor current = timer.cursor := by rw [shows.timer_eq]
  rw [cursor] at newer
  -- an event that does not count only leaves its record
  have idle (result : StripeEventProcessingResult)
      (recorded : (deliverInvoice stored now database event).tables =
        completedTables row.stripeEventId result message now registered.tables) :
      Tracks start stored now events rest (deliverInvoice stored now database event) timer := by
    refine ⟨⟨current, ?_, shows⟩, ?_, ?_⟩
    · rw [recorded]
      exact registeredFound
    · rw [recorded, seatStarts_completedTables, ← seats, sameOrganization]
    · rw [recorded]
      exact others registered.tables result registeredEvents
  by_cases isNewer : invoiceEventIsNewer current row = true
  · have notStale : ¬ invoiceEventIsNewer current row = false := by simp [isNewer]
    by_cases fit : AccessFits (seatStarts registered.tables current.organizationId)
        (current.invoiced event.type row now) now
    · rw [if_neg notStale, if_pos fit] at tables
      rw [Timer.arrive_of_newer (newer.mp isNewer) (fits.mp fit)]
      refine ⟨⟨current.invoiced event.type row now, ?_, shows.invoiced member rowTime rowId⟩, ?_, ?_⟩
      · rw [tables]
        exact lookup_invoiced_stripeId registeredFound
      · rw [tables, seatStarts_completedTables, seatStarts_reconciled,
          seatStarts_invoiceSubscription, ← seats, sameOrganization]
      · rw [tables]
        exact others _ .applied registeredEvents
    · have refused : timer.arrive InvoiceEvent.key InvoiceEvent.starts
          (graceFits (seatStarts registered.tables current.organizationId) stored now) event = timer :=
        if_neg fun both => fit (fits.mpr both.2)
      rw [if_neg notStale, if_neg fit] at tables
      rw [refused]
      exact idle .failed tables
  · have stale : invoiceEventIsNewer current row = false := Bool.eq_false_iff.mpr isNewer
    have dropped : timer.arrive InvoiceEvent.key InvoiceEvent.starts
        (graceFits (seatStarts registered.tables current.organizationId) stored now) event = timer :=
      if_neg fun both => isNewer (newer.mpr both.1)
    rw [if_pos stale] at tables
    rw [dropped]
    exact idle .ignored tables

/-- So a run of the database is a run of the timer. -/
theorem Tracks.run (pending : InvoicesPending start stored now events) (order : List InvoiceEvent)
    (within : ∀ event ∈ order, event ∈ events) (distinct : (order.map InvoiceEvent.id).Nodup)
    (tracks : Tracks start stored now events order database timer) :
    Tracks start stored now events [] (order.foldl (deliverInvoice stored now) database)
      (order.foldl (Timer.arrive InvoiceEvent.key InvoiceEvent.starts
        (graceFits (seatStarts start.tables stored.organizationId) stored now)) timer) := by
  induction order generalizing database timer with
  | nil => exact tracks
  | cons event rest ih =>
      rw [List.map_cons, List.nodup_cons] at distinct
      have fresh : ∀ other ∈ rest, ¬ event.id = other.id :=
        fun other later same => distinct.1 (same ▸ List.mem_map_of_mem later)
      exact ih (fun other later => within other (List.mem_cons_of_mem event later)) distinct.2
        (tracks.deliver pending (within event List.mem_cons_self) fresh)

/-- The payment columns are as expected exactly when the timer is. -/
theorem Shows.columns_iff (sorted : events.Pairwise fun left right => left.key < right.key)
    (newer : ∀ event ∈ events, ∀ last ∈ invoiceCursor stored, last < event.key)
    (shows : Shows stored now events current timer) :
    paymentColumns current = expectedColumns stored now events ↔
      timer = Timer.expected InvoiceEvent.key InvoiceEvent.starts
        ⟨invoiceCursor stored, stored.graceEndsAt⟩ events := by
  unfold expectedColumns Timer.expected
  cases last : events.getLast? with
  | none =>
      obtain rfl := List.getLast?_eq_none_iff.mp last
      obtain ⟨rfl, rfl⟩ | ⟨_, member, _⟩ := shows
      · exact iff_of_true rfl rfl
      · cases member
  | some newest =>
      have member : newest ∈ events := List.mem_of_getLast? last
      constructor
      · intro columns
        simp only [paymentColumns, Prod.mk.injEq] at columns
        obtain ⟨_, grace, createdAt, id⟩ := columns
        rw [shows.timer_eq, invoiceCursor, createdAt, id, grace]
        rfl
      · rintro rfl
        obtain ⟨_, start⟩ | ⟨event, eventMember, cursor, rfl⟩ := shows
        · have held : some newest.key = invoiceCursor stored := congrArg Timer.cursor start
          exact absurd (newer newest member newest.key held.symm) (lt_irrefl _)
        · have sameKey : newest.key = event.key := Option.some.inj cursor
          have keys : (events.map InvoiceEvent.key).Nodup :=
            (List.pairwise_map.mpr sorted).imp fun less => less.ne
          have same : newest = event := List.inj_on_of_nodup_map keys member eventMember sameKey
          subst same
          rfl

end Steps

section Main

variable {database : CloudDatabase} {stored : BillingSubscriptionRow} {now : Int}
  {inOrder : List InvoiceEvent}

/-- Every order of delivery leaves the payment columns that delivery in order should
leave, exactly when the events and the stored row leave room for one deadline only. -/
theorem invoiceProjection_anyOrder_iff (pending : InvoicesPending database stored now inOrder)
    (sorted : inOrder.Pairwise fun left right => left.key < right.key)
    (newer : ∀ event ∈ inOrder, ∀ last ∈ invoiceCursor stored, last < event.key) :
    (∀ order : List InvoiceEvent, order.Perm inOrder →
        (getBillingSubscription (order.foldl (deliverInvoice stored now) database)
          stored.organizationId).map paymentColumns = some (expectedColumns stored now inOrder)) ↔
      Timer.Unambiguous InvoiceEvent.key InvoiceEvent.starts
        (graceFits (seatStarts database.tables stored.organizationId) stored now)
        stored.graceEndsAt inOrder := by
  let timer : Timer (Int ×ₗ List Nat) Int := ⟨invoiceCursor stored, stored.graceEndsAt⟩
  let accepts := graceFits (seatStarts database.tables stored.organizationId) stored now
  have abstractly : (∀ order : List InvoiceEvent, order.Perm inOrder →
        order.foldl (Timer.arrive InvoiceEvent.key InvoiceEvent.starts accepts) timer =
          timer.expected InvoiceEvent.key InvoiceEvent.starts inOrder) ↔
      Timer.Unambiguous InvoiceEvent.key InvoiceEvent.starts accepts stored.graceEndsAt inOrder :=
    Timer.foldl_perm_iff sorted newer
  refine Iff.trans (forall_congr' fun order => forall_congr' fun same => ?_) abstractly
  have start : Tracks database stored now inOrder order database timer := by
    refine ⟨⟨stored, ?_, .inl ⟨rfl, rfl⟩⟩, rfl, fun event member =>
      pending.unrecorded event (same.mem_iff.mp member)⟩
    exact lookup_of_mem (database.consistent .subscriptionStripeId) pending.member
  have finish := start.run pending order (fun event member => same.mem_iff.mp member)
    ((same.map InvoiceEvent.id).nodup_iff.mpr pending.distinct)
  generalize order.foldl (deliverInvoice stored now) database = after at finish ⊢
  change _ ↔ order.foldl (Timer.arrive InvoiceEvent.key InvoiceEvent.starts accepts) timer = _
  generalize order.foldl (Timer.arrive InvoiceEvent.key InvoiceEvent.starts accepts) timer = final
    at finish ⊢
  obtain ⟨current, found, shows⟩ := finish.row
  have resolved : getBillingSubscription after stored.organizationId = some current := by
    rw [getBillingSubscription, pending.organization, ← shows.keys.1]
    exact lookup_of_mem (after.consistent .subscriptionOrganization) (lookup_mem found)
  rw [resolved, Option.map_some, Option.some.injEq]
  exact shows.columns_iff sorted newer

end Main

section Sample

def firstFailure : InvoiceEvent := ⟨"evt_10", .paymentFailed, 100, 300⟩

def secondFailure : InvoiceEvent := ⟨"evt_11", .paymentFailed, 200, 300⟩

def laterPayment : InvoiceEvent := ⟨"evt_12", .paid, 200, 300⟩

theorem invoiceProjection_anyOrder_paid :
    (getBillingSubscription ([laterPayment, firstFailure].foldl
      (deliverInvoice twoSeatsSubscription 300) twoSeats) "acme").map paymentColumns =
        some (.current, none, some 200, some "evt_12") := by
  have pending : InvoicesPending twoSeats twoSeatsSubscription 300 [firstFailure, laterPayment] :=
    ⟨by decide +kernel, by decide +kernel, by decide +kernel, by decide +kernel, by decide +kernel,
      by decide +kernel, by decide +kernel⟩
  have unambiguous : Timer.Unambiguous InvoiceEvent.key InvoiceEvent.starts
      (graceFits (seatStarts twoSeats.tables "acme") twoSeatsSubscription 300) none
      [firstFailure, laterPayment] := by
    intro newest last
    obtain rfl := Option.some.inj last
    exact ⟨by decide +kernel, fun starting => absurd rfl starting⟩
  exact (invoiceProjection_anyOrder_iff pending (by decide +kernel) (by decide +kernel)).mpr unambiguous
    [laterPayment, firstFailure] (List.Perm.swap _ _ [])

/-- A retry that overtakes the first failure moves the deadline by the time between
the two. -/
theorem graceDeadline_moved_by_overtaking :
    InvoicesPending twoSeats twoSeatsSubscription 300 [firstFailure, secondFailure] ∧
      firstFailure.key < secondFailure.key ∧ invoiceCursor twoSeatsSubscription = none ∧
      [secondFailure, firstFailure].Perm [firstFailure, secondFailure] ∧
      (getBillingSubscription ([secondFailure, firstFailure].foldl
        (deliverInvoice twoSeatsSubscription 300) twoSeats) "acme").map paymentColumns =
          some (.grace, some (200 + stripePaymentGraceDurationMs), some 200, some "evt_11") ∧
      expectedColumns twoSeatsSubscription 300 [firstFailure, secondFailure] =
        (.grace, some (100 + stripePaymentGraceDurationMs), some 200, some "evt_11") :=
  ⟨⟨by decide +kernel, by decide +kernel, by decide +kernel, by decide +kernel, by decide +kernel,
      by decide +kernel, by decide +kernel⟩,
    by decide +kernel, rfl, List.Perm.swap _ _ [], by decide +kernel, by decide +kernel⟩

end Sample

end NebulaCloud.Billing
