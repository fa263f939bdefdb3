import NebulaCloud.Billing.Cancellation

namespace NebulaCloud.Billing

open NebulaCloud.Data NebulaCloud.Database NebulaCloud.Platform

/-! # Whether a derived window can be stored

A seat starts when it is assigned and ends when the access of the subscription does.
The table refuses a window that ends before it starts; here is which operations it
can refuse. -/

/-- Authorization, subscription and capacity, as an assignment checks them. -/
structure SeatRequest (state : BillingState) (options : StripeOperatorSeatOptions)
    (subscription : BillingSubscriptionRow) : Prop where
  admin : ∃ role, requireOrganizationAdmin state.database options.userId options.organizationId = .ok role
  clock : IsNonNegativeSafeInteger options.now
  target : isSeatTarget state.database.tables (trim options.membershipId) options.organizationId = true
  found : getBillingSubscription state.database options.organizationId = some subscription
  free : (otherAssignedSeats state.database.tables options.organizationId (trim options.membershipId) : Int) <
    subscription.entitledSeats

/-- The audit log takes the record of the assignment. -/
def Auditable (tables : Tables) (options : StripeOperatorSeatOptions) : Prop :=
  isAuditIdentifier (trim options.membershipId) = true ∧
    ∀ event ∈ tables.auditEvents, event.eventId ≠ options.eventId

instance (tables : Tables) (options : StripeOperatorSeatOptions) : Decidable (Auditable tables options) :=
  inferInstanceAs (Decidable (_ ∧ _))

/-- An unsettled invoice event that is newer than the last one. -/
structure NewerInvoice (state : BillingState) (input : StripeInvoiceProjectionInput)
    (event : StripeEventRow) (subscription : BillingSubscriptionRow) : Prop where
  register : ∃ registered inserted,
    registerStripeEvent state.database input.event = .ok (registered, event, inserted)
  unsettled : event.isSettled = false
  clock : IsNonNegativeSafeInteger input.now
  later : state.clock ≤ input.now
  found : getBillingSubscriptionByStripeId state.database input.stripeSubscriptionId = .ok (some subscription)
  newer : invoiceEventIsNewer subscription event = true

/-- An unsettled subscription event that is newer than the stored one and passes the
checks of the projection. -/
structure NewerSubscription (state : BillingState) (input : StripeBillingProjectionInput)
    (event : StripeEventRow) : Prop where
  register : ∃ registered inserted part candidate,
    registerStripeEvent state.database input.event = .ok (registered, event, inserted) ∧
    SubscriptionPart registered event input part candidate ∧
    (assignedSeats state.database.tables (trim input.organizationId) : Int) ≤ part.entitledSeats ∧
    ∀ stored ∈ getBillingSubscription state.database input.organizationId,
      candidate.supersedes stored = true
  unsettled : event.isSettled = false
  later : state.clock ≤ input.now

/-- The event is recorded as applied. -/
def EventApplied (tables : Tables) (stripeEventId : String) : Prop :=
  ∃ event, lookup (·.stripeEventId) tables.stripeEvents stripeEventId = some event ∧
    event.processingResult = .applied

section Access

variable {subscription : BillingSubscriptionRow} {now : Int}

/-- A window from now on can be stored unless a grace deadline has passed. -/
theorem access_fits_now (current : subscription.paymentState = .current → subscription.graceEndsAt = none) :
    (∀ endsAt ∈ (stripeEntitlementAccess subscription now).endsAt, now < endsAt) ↔
      ∀ graceEndsAt ∈ subscription.graceEndsAt, now < graceEndsAt := by
  unfold stripeEntitlementAccess
  split
  · exact Iff.rfl
  · split
    · rename_i paid
      rw [current paid.1]
      exact ⟨fun _ _ none => absurd none (Option.not_mem_none _), fun _ => paid.2.2⟩
    · exact Iff.rfl

/-- Seats that have started fit the access of a subscription whose grace deadline, if
any, lies after their starts. -/
theorem accessFits_of_room {starts : List Int} (started : ∀ start ∈ starts, start ≤ now)
    (room : ∀ graceEndsAt ∈ subscription.graceEndsAt, ∀ start ∈ starts, start < graceEndsAt) :
    AccessFits starts subscription now := by
  intro start member endsAt ends
  unfold stripeEntitlementAccess at ends
  split at ends
  · exact room endsAt ends start member
  · split at ends
    · rename_i paid
      exact Int.lt_of_le_of_lt (started start member) (paid.2.2 endsAt ends)
    · exact room endsAt ends start member

theorem Kept.started {state : BillingState} (kept : Kept state) (later : state.clock ≤ now)
    {organizationId : String} : ∀ start ∈ seatStarts state.database.tables organizationId, start ≤ now := by
  intro start member
  obtain ⟨seat, stored, assigned, rfl⟩ := mem_seatStarts.mp member
  obtain ⟨_, source, unrevoked⟩ := isAssignedSeat_iff.mp assigned
  exact Int.le_trans (kept.cache.cached seat stored source unrevoked).started later

end Access

/-! ## Assignments -/

section Assignment

variable {database : CloudDatabase} {excluded : OperatorEntitlementRow}

/-- A seat is stored exactly when its window is one. -/
theorem upsertEntitlement_consistent (paid : excluded.source ≠ .beta)
    (member : database.tables.MemberOf excluded.membershipId excluded.organizationId) :
    schema.Consistent (upsertEntitlement excluded database.tables) ↔
      ∀ endsAt ∈ excluded.endsAt, excluded.startsAt < endsAt := by
  have distinct := database.consistent .entitlementMember
  constructor
  · intro consistent
    have stored : writtenEntitlement excluded database.tables ∈
        (upsertEntitlement excluded database.tables).entitlements :=
      (mem_upsertEntitlement distinct).mpr (.inl rfl)
    exact (consistent .entitlementChecks _ stored).1
  · intro ends constraint
    have held := database.consistent constraint
    have checks : ∀ createdAt, { excluded with createdAt }.Checks :=
      fun createdAt => ⟨ends, fun beta => absurd beta paid⟩
    cases constraint with
    | entitlementMember => exact nodup_upsert distinct distinct (fun _ => rfl) fun _ _ different => different
    | entitlementOwner => exact forall_upsert held member fun _ _ => member
    | entitlementChecks => exact forall_upsert held (checks excluded.createdAt) fun stored _ => checks stored.createdAt
    | _ => exact held

/-- The audit log takes an event with a good target and a fresh identifier. -/
theorem recordAuditEvent_succeeds_iff {options : RecordAuditEventOptions}
    (enabled : isOrganizationMemberEnabled database options.userId options.organizationId = true)
    (action : isAuditIdentifier (trim options.action) = true)
    (targetType : isAuditIdentifier (trim options.targetType) = true)
    (organization : options.organizationId ∈ database.tables.organizationIds) :
    (∃ after, recordAuditEvent database options = .ok after) ↔
      isAuditIdentifier (trim options.targetId) = true ∧
        ∀ event ∈ database.tables.auditEvents, event.eventId ≠ options.eventId := by
  have member : requireEnabledOrganizationMember database options.userId options.organizationId = .ok () :=
    if_pos enabled
  constructor
  · rintro ⟨after, recorded⟩
    obtain ⟨_, _, recorded⟩ := bind_ok.mp recorded
    obtain ⟨_, _, recorded⟩ := bind_ok.mp recorded
    obtain ⟨_, _, recorded⟩ := bind_ok.mp recorded
    obtain ⟨target, checked, recorded⟩ := bind_ok.mp recorded
    have written := Store.execute_ok.mp recorded
    have distinct : (after.tables.auditEvents.map (·.eventId)).Nodup := after.consistent .auditEventId
    rw [written, List.map_append, List.nodup_append] at distinct
    refine ⟨(requireAuditIdentifier_ok.mp checked).1, ?_⟩
    intro event stored
    exact distinct.2.2 _ (List.mem_map_of_mem stored) _ (List.mem_singleton.mpr rfl)
  · rintro ⟨target, fresh⟩
    let row : AuditEventRow :=
      ⟨options.eventId, options.organizationId, options.userId, trim options.action,
        trim options.targetType, trim options.targetId, "success", none, options.metadataJson, options.now⟩
    have consistent : schema.Consistent
        { database.tables with auditEvents := database.tables.auditEvents ++ [row] } := by
      intro constraint
      have held := database.consistent constraint
      cases constraint with
      | auditEventId => exact nodup_append_fresh held fresh
      | auditOrganization =>
          intro event stored
          rcases List.mem_append.mp stored with old | new
          · exact held event old
          · rw [List.mem_singleton.mp new]
            exact organization
      | _ => exact held
    refine ⟨⟨_, consistent⟩, bind_ok.mpr ⟨(), member, ?_⟩⟩
    refine bind_ok.mpr ⟨_, requireAuditIdentifier_ok.mpr ⟨action, rfl⟩, ?_⟩
    refine bind_ok.mpr ⟨_, requireAuditIdentifier_ok.mpr ⟨targetType, rfl⟩, ?_⟩
    refine bind_ok.mpr ⟨_, requireAuditIdentifier_ok.mpr ⟨target, rfl⟩, ?_⟩
    exact Store.execute_of_consistent consistent

variable {state : BillingState} {options : StripeOperatorSeatOptions} {subscription : BillingSubscriptionRow}

theorem SeatRequest.enabled (request : SeatRequest state options subscription) :
    isOrganizationMemberEnabled state.database options.userId options.organizationId = true := by
  obtain ⟨role, authorized⟩ := request.admin
  unfold requireOrganizationAdmin at authorized
  unfold isOrganizationMemberEnabled
  cases found : findMembership state.database.tables options.userId options.organizationId with
  | none =>
      rw [found] at authorized
      cases authorized
  | some actor =>
      rw [found] at authorized
      simp only at authorized
      split at authorized
      · cases authorized
      · rename_i allowed
        simp only [Bool.or_eq_true, not_or] at allowed
        simp [allowed.1]

/-- What an assignment comes to once its checks have passed. -/
theorem SeatRequest.assignment (request : SeatRequest state options subscription)
    {result : CloudDatabase × OperatorEntitlementRow} :
    assignStripeOperatorSeat state.database options = .ok result ↔
      ∃ stored, statement state.database
          (upsertEntitlement (assignedSeat state.database subscription options options.now)) = .ok stored ∧
        recordAuditEvent stored (seatAuditEvent options "billing.operator_seat.assigned" options.now) =
          .ok result.1 ∧
        getOperatorEntitlement result.1 (trim options.membershipId) options.organizationId =
          some result.2 := by
  obtain ⟨role, authorized⟩ := request.admin
  have timestamp : stripeTimestamp options.now "seat assignment timestamp" = .ok options.now :=
    stripeTimestamp_ok.mpr ⟨request.clock, rfl⟩
  have accepted : ¬ isSeatTarget state.database.tables (trim options.membershipId) options.organizationId =
      false := by simp [request.target]
  have free := Int.not_le.mpr request.free
  constructor
  · intro assigned
    obtain ⟨_, _, assigned⟩ := bind_ok.mp assigned
    obtain ⟨time, again, assigned⟩ := bind_ok.mp assigned
    obtain rfl := Except.ok.inj (timestamp.symm.trans again)
    simp only [seatAssignment, if_neg accepted, request.found, if_neg free] at assigned
    obtain ⟨stored, upsert, assigned⟩ := bind_ok.mp assigned
    obtain ⟨audited, audit, assigned⟩ := bind_ok.mp assigned
    split at assigned
    · cases assigned
    · rename_i entitlement found
      cases assigned
      exact ⟨stored, upsert, audit, found⟩
  · rintro ⟨stored, upsert, audit, found⟩
    refine bind_ok.mpr ⟨role, authorized, bind_ok.mpr ⟨options.now, timestamp, ?_⟩⟩
    simp only [seatAssignment, if_neg accepted, request.found, if_neg free]
    refine bind_ok.mpr ⟨stored, upsert, bind_ok.mpr ⟨result.1, audit, ?_⟩⟩
    simp only [found]

theorem SeatRequest.member (request : SeatRequest state options subscription) :
    state.database.tables.MemberOf (trim options.membershipId) options.organizationId := by
  have target := request.target
  simp only [isSeatTarget, List.any_eq_true, Bool.and_eq_true, decide_eq_true_eq] at target
  obtain ⟨row, stored, ⟨sameId, organization⟩, _⟩ := target
  exact ⟨row, stored, sameId, organization⟩

/-- Next to the stored seat the audit log takes the record under its usual terms. -/
theorem SeatRequest.audit (request : SeatRequest state options subscription) {stored : CloudDatabase}
    (written : stored.tables =
      upsertEntitlement (assignedSeat state.database subscription options options.now) state.database.tables) :
    (∃ after, recordAuditEvent stored
        (seatAuditEvent options "billing.operator_seat.assigned" options.now) = .ok after) ↔
      Auditable state.database.tables options := by
  have enabled : isOrganizationMemberEnabled stored options.userId options.organizationId = true := by
    rw [isOrganizationMemberEnabled, written]
    exact request.enabled
  have action : isAuditIdentifier (trim "billing.operator_seat.assigned") = true := by decide +kernel
  have targetType : isAuditIdentifier (trim "membership") = true := by decide +kernel
  have known : options.organizationId ∈ stored.tables.organizationIds := by
    rw [written]
    exact organization_of_isSeatTarget request.target
  have target : trim (seatAuditEvent options "billing.operator_seat.assigned" options.now).targetId =
      trim options.membershipId := trim_trim options.membershipId
  have recordable := @recordAuditEvent_succeeds_iff stored
    (seatAuditEvent options "billing.operator_seat.assigned" options.now) enabled action targetType known
  rw [target, written] at recordable
  exact recordable

/-- With its checks passed an assignment succeeds exactly when no grace deadline has
passed, its audit record aside. -/
theorem SeatRequest.succeeds_iff (kept : Kept state) (request : SeatRequest state options subscription) :
    (∃ result, assignStripeOperatorSeat state.database options = .ok result) ↔
      (∀ graceEndsAt ∈ subscription.graceEndsAt, options.now < graceEndsAt) ∧
        Auditable state.database.tables options := by
  have storable := @upsertEntitlement_consistent state.database
    (assignedSeat state.database subscription options options.now) (by simp [assignedSeat]) request.member
  have fits := @access_fits_now subscription options.now
    (kept.grace.current subscription (lookup_mem request.found))
  rw [← fits]
  constructor
  · rintro ⟨result, assigned⟩
    obtain ⟨stored, upsert, audit, _⟩ := request.assignment.mp assigned
    have written := Store.execute_ok.mp upsert
    have consistent := stored.consistent
    rw [written] at consistent
    exact ⟨storable.mp consistent, (request.audit written).mp ⟨result.1, audit⟩⟩
  · rintro ⟨ends, auditable⟩
    let stored : CloudDatabase := ⟨_, storable.mpr ends⟩
    obtain ⟨after, audit⟩ := (@SeatRequest.audit _ _ _ request stored rfl).mpr auditable
    obtain ⟨auditEvents, tables⟩ := recordAuditEvent_ok audit
    have trimmed : trim options.organizationId = options.organizationId :=
      kept.seats.trimmed _ (organization_of_isSeatTarget request.target)
    have resolved : (getOperatorEntitlement after (trim options.membershipId)
        options.organizationId).isSome = true := by
      rw [getOperatorEntitlement, tables, List.find?_isSome]
      refine ⟨_, (mem_upsertEntitlement (state.database.consistent .entitlementMember)).mpr (.inl rfl), ?_⟩
      simp [writtenEntitlement, assignedSeat, trimmed]
    obtain ⟨entitlement, found⟩ := Option.isSome_iff_exists.mp resolved
    refine ⟨(after, entitlement), request.assignment.mpr ⟨stored, ?_, audit, found⟩⟩
    exact Store.execute_of_consistent (storable.mpr ends)

end Assignment

/-! ## Deliveries -/

section Deliveries

variable {state : BillingState}

/-- The first failed payment sets the deadline; nothing else brings it forward. -/
theorem invoiced_fits {subscription : BillingSubscriptionRow} {type : InvoiceEventType}
    {event : StripeEventRow} {starts : List Int} {now : Int} (started : ∀ start ∈ starts, start ≤ now)
    (room : ∀ graceEndsAt ∈ subscription.graceEndsAt, ∀ start ∈ starts, start < graceEndsAt) :
    AccessFits starts (subscription.invoiced type event now) now ↔
      (type = .paymentFailed → subscription.graceEndsAt = none →
        ∀ start ∈ starts, start < event.eventCreatedAt + stripePaymentGraceDurationMs) := by
  cases type with
  | paid =>
      have noGrace : (subscription.invoiced .paid event now).graceEndsAt = none := rfl
      have fits : AccessFits starts (subscription.invoiced .paid event now) now := by
        apply accessFits_of_room started
        intro graceEndsAt ends
        rw [noGrace] at ends
        cases ends
      simp [fits]
  | paymentFailed =>
      let invoiced := subscription.invoiced .paymentFailed event now
      have deadline : invoiced.graceEndsAt =
          some (subscription.graceEndsAt.getD (event.eventCreatedAt + stripePaymentGraceDurationMs)) := rfl
      have unpaid : invoiced.paymentState ≠ .current := by
        intro paid
        have none := deadline.symm.trans (invoiced_current paid)
        cases none
      have endsAt := (@access_of_unpaid now invoiced unpaid).trans deadline
      constructor
      · intro fits _ noGrace start member
        rw [noGrace] at endsAt
        exact fits start member _ endsAt
      · intro first start member bound ends
        obtain rfl := Option.some.inj (endsAt.symm.trans ends)
        cases grace : subscription.graceEndsAt with
        | none => exact first rfl grace start member
        | some graceEndsAt => exact room graceEndsAt grace start member

/-- A newer invoice is applied exactly when no seat starts after the first deadline. -/
theorem NewerInvoice.applied_iff {input : StripeInvoiceProjectionInput} {event : StripeEventRow}
    {subscription : BillingSubscriptionRow} (kept : Kept state)
    (invoice : NewerInvoice state input event subscription) :
    EventApplied (applyStripeInvoiceProjection state.database input).1.tables event.stripeEventId ↔
      (input.type = .paymentFailed → subscription.graceEndsAt = none →
        ∀ start ∈ seatStarts state.database.tables subscription.organizationId,
          start < event.eventCreatedAt + stripePaymentGraceDurationMs) := by
  obtain ⟨registered, inserted, register⟩ := invoice.register
  obtain ⟨stripeEvents, frame⟩ := registerStripeEvent_frame register
  obtain ⟨stripeSubscriptionId, text, found⟩ := bind_ok.mp invoice.found
  have stored : subscription ∈ state.database.tables.subscriptions := lookup_mem (Except.ok.inj found)
  have trimmed : trim subscription.organizationId = subscription.organizationId :=
    kept.seats.trimmed _ (state.database.consistent .subscriptionOwner subscription stored)
  have resolved : lookup (·.stripeSubscriptionId) registered.tables.subscriptions stripeSubscriptionId =
      some subscription := by
    rw [frame]
    exact Except.ok.inj found
  have recorded := registerStripeEvent_found register
  have sameStarts : seatStarts registered.tables subscription.organizationId =
      seatStarts state.database.tables subscription.organizationId := by
    rw [frame]
    rfl
  have newer : ¬ invoiceEventIsNewer subscription event = false := by simp [invoice.newer]
  obtain ⟨message, tables⟩ := applyStripeInvoiceProjection_unsettled register invoice.unsettled
    invoice.clock text resolved trimmed
  rw [if_neg newer, sameStarts] at tables
  rw [← @invoiced_fits subscription input.type event _ input.now (kept.started invoice.later)
    (kept.grace.room subscription stored), tables]
  split
  · rename_i fits
    refine ⟨fun _ => fits, fun _ => ⟨_, lookup_completedTables_self recorded, rfl⟩⟩
  · rename_i misfit
    refine ⟨fun applied => ?_, fun fits => absurd fits misfit⟩
    obtain ⟨row, again, applied⟩ := applied
    obtain rfl := Option.some.inj ((lookup_completedTables_self recorded).symm.trans again)
    cases applied

/-- A newer subscription event is applied however late it comes. -/
theorem NewerSubscription.applied {input : StripeBillingProjectionInput} {event : StripeEventRow}
    (kept : Kept state) (delivery : NewerSubscription state input event) :
    EventApplied (applyStripeBillingProjection state.database input).1.tables event.stripeEventId := by
  obtain ⟨registered, inserted, part, candidate, register, wellFormed, quantity, newer⟩ :=
    delivery.register
  obtain ⟨stripeEvents, frame⟩ := registerStripeEvent_frame register
  have recorded := registerStripeEvent_found register
  have row : lookup (·.organizationId) registered.tables.subscriptions candidate.organizationId =
      getBillingSubscription state.database input.organizationId := by
    rw [wellFormed.owner, frame]
    rfl
  obtain ⟨message, tables⟩ := applyStripeBillingProjection_subscription register delivery.unsettled wellFormed
  have enough : (assignedSeats registered.tables (trim input.organizationId) : Int) ≤ part.entitledSeats := by
    rw [frame]
    exact quantity
  have sameStarts : seatStarts registered.tables (trim input.organizationId) =
      seatStarts state.database.tables (trim input.organizationId) := by
    rw [frame]
    rfl
  have fits : AccessFits (seatStarts registered.tables (trim input.organizationId))
      (subscriptionAfter candidate registered.tables) input.now := by
    rw [sameStarts]
    refine accessFits_of_room (kept.started delivery.later) fun graceEndsAt ends start started => ?_
    obtain ⟨stored, found, grace⟩ := wellFormed.carried_grace graceEndsAt ends
    rw [row] at found
    refine kept.grace.room stored (lookup_mem found) graceEndsAt grace start ?_
    rw [lookup_key found]
    exact started
  have applied : (upsertSubscription candidate registered.tables).2 = true := by
    simp only [upsertSubscription, upsert, row]
    split
    · rfl
    · rename_i stored found
      rw [if_pos (newer stored found)]
  rw [if_pos ⟨enough, fits⟩, applied] at tables
  rw [tables]
  exact ⟨_, lookup_completedTables_self recorded, rfl⟩

/-- Which derived windows the table takes: those of assignments before the grace
deadline, those of a first failed payment whose deadline no seat has reached, and all
others. -/
theorem entitlementWindows_storable_iff (reachable : clockedSeats.Reachable state) :
    (∀ options subscription, SeatRequest state options subscription →
      ((∃ result, assignStripeOperatorSeat state.database options = .ok result) ↔
        (∀ graceEndsAt ∈ subscription.graceEndsAt, options.now < graceEndsAt) ∧
          Auditable state.database.tables options)) ∧
      (∀ input event subscription, NewerInvoice state input event subscription →
        (EventApplied (applyStripeInvoiceProjection state.database input).1.tables event.stripeEventId ↔
          (input.type = .paymentFailed → subscription.graceEndsAt = none →
            ∀ start ∈ seatStarts state.database.tables subscription.organizationId,
              start < event.eventCreatedAt + stripePaymentGraceDurationMs))) ∧
      ∀ input event, NewerSubscription state input event →
        EventApplied (applyStripeBillingProjection state.database input).1.tables event.stripeEventId := by
  have kept := kept_of_reachable reachable
  refine ⟨?_, ?_, ?_⟩
  · intro options subscription request
    exact request.succeeds_iff kept
  · intro input event subscription invoice
    exact invoice.applied_iff kept
  · intro input event delivery
    exact delivery.applied kept

end Deliveries

section Sample

/-- The grace deadline that `failedPayment` sets. -/
def graceOver : Int := 40 + stripePaymentGraceDurationMs

def paidSubscription : BillingSubscriptionRow where
  organizationId := "acme"
  stripeSubscriptionId := "sub_1"
  stripePriceId := "price_1"
  status := "active"
  entitledSeats := 2
  cancelAtPeriodEnd := false
  currentPeriodEnd := none
  paymentState := .current
  graceEndsAt := none
  lastInvoiceEventCreatedAt := none
  lastInvoiceEventId := none
  lastEventCreatedAt := 10
  lastStripeEventId := "evt_1"
  createdAt := 20
  updatedAt := 20

def failedPaymentEvent : StripeEventRow :=
  ⟨"evt_2", "invoice.payment_failed", 40, 45, .pending, none, none, 0⟩

/-- The payment has failed, and the second seat is still free. -/
def seatInGrace : CloudDatabase :=
  Store.load
    { customerTeam.tables with
      auditEvents :=
        [⟨"audit-1", "acme", "ada", "billing.operator_seat.assigned", "membership", "m1", "success",
            none, "\x7b\"source\":\"stripe\"\x7d", 30⟩]
      entitlements := [graceSeat]
      subscriptions := [paidSubscription.invoiced .paymentFailed failedPaymentEvent 50]
      stripeEvents :=
        [⟨"evt_1", "customer.subscription.updated", 10, 20, .applied,
            some "local billing projection updated", some 20, 1⟩,
          ⟨"evt_2", "invoice.payment_failed", 40, 45, .applied,
            some "subscription entered fixed payment grace", some 50, 1⟩] }
    (by decide +kernel)

/-- The first seat was assigned fourteen days after the payment failed, before Stripe
told so. -/
def lateSeat : CloudDatabase :=
  Store.load
    { customerTeam.tables with
      auditEvents :=
        [⟨"audit-1", "acme", "ada", "billing.operator_seat.assigned", "membership", "m1", "success",
            none, "\x7b\"source\":\"stripe\"\x7d", graceOver⟩]
      entitlements := [⟨"m1", "acme", .active, .stripe, graceOver, none, graceOver, graceOver⟩]
      subscriptions := [paidSubscription]
      stripeEvents :=
        [⟨"evt_1", "customer.subscription.updated", 10, 20, .applied,
            some "local billing projection updated", some 20, 1⟩] }
    (by decide +kernel)

def lateRun : List SeatOperation :=
  [.projectBilling (subscriptionEvent "evt_1" 10 2 20), .assignSeat (seatFor "m1" "audit-1" graceOver)]

def lateFailedPayment : StripeInvoiceProjectionInput :=
  { failedPayment with receivedAt := graceOver, now := graceOver }

theorem seatInGrace_clocked : clockedSeats.Reachable ⟨seatInGrace, 50⟩ := by
  have start : clockedSeats.Reachable ⟨customerTeam, 0⟩ := .initial ⟨by decide, by decide, rfl⟩
  have clocked : clockedSeats.Runs ⟨customerTeam, 0⟩ graceRun := by
    refine ⟨⟨trivial, ?_⟩, ⟨trivial, ?_⟩, ⟨trivial, ?_⟩, trivial⟩ <;>
      exact fun now processed => Option.some.inj processed ▸ by decide
  have tables : (seats.run customerTeam graceRun).tables = seatInGrace.tables := by decide +kernel
  have database := (run_database ⟨customerTeam, 0⟩ graceRun).trans (Store.ext tables)
  have state : clockedSeats.run ⟨customerTeam, 0⟩ graceRun = ⟨seatInGrace, 50⟩ := by
    rw [← database]
    rfl
  rw [← state]
  exact start.run clocked

theorem lateSeat_clocked : clockedSeats.Reachable ⟨lateSeat, graceOver⟩ := by
  have start : clockedSeats.Reachable ⟨customerTeam, 0⟩ := .initial ⟨by decide, by decide, rfl⟩
  have clocked : clockedSeats.Runs ⟨customerTeam, 0⟩ lateRun := by
    refine ⟨⟨trivial, ?_⟩, ⟨trivial, ?_⟩, trivial⟩ <;>
      exact fun now processed => Option.some.inj processed ▸ by decide
  have tables : (seats.run customerTeam lateRun).tables = lateSeat.tables := by decide +kernel
  have database := (run_database ⟨customerTeam, 0⟩ lateRun).trans (Store.ext tables)
  have state : clockedSeats.run ⟨customerTeam, 0⟩ lateRun = ⟨lateSeat, graceOver⟩ := by
    rw [← database]
    rfl
  rw [← state]
  exact start.run clocked

theorem seatRequest_inGrace (now : Int) (inside : now = 60 ∨ now = graceOver) :
    SeatRequest ⟨seatInGrace, 50⟩ (seatFor "m2" "audit-2" now)
      (paidSubscription.invoiced .paymentFailed failedPaymentEvent 50) := by
  rcases inside with rfl | rfl
  · exact ⟨⟨"owner", by decide⟩, by decide, by decide +kernel, by decide +kernel, by decide +kernel⟩
  · exact ⟨⟨"owner", by decide⟩, by decide, by decide +kernel, by decide +kernel, by decide +kernel⟩

theorem entitlementWindows_inGrace :
    (∃ result, assignStripeOperatorSeat seatInGrace (seatFor "m2" "audit-2" 60) = .ok result) ∧
      ¬ ∃ result, assignStripeOperatorSeat seatInGrace (seatFor "m2" "audit-2" graceOver) =
        .ok result := by
  obtain ⟨assignments, _, _⟩ := entitlementWindows_storable_iff seatInGrace_clocked
  constructor
  · exact (assignments _ _ (seatRequest_inGrace 60 (.inl rfl))).mpr (by decide +kernel)
  · intro assigned
    have before := ((assignments _ _ (seatRequest_inGrace graceOver (.inr rfl))).mp assigned).1
    exact absurd (before graceOver rfl) (Int.lt_irrefl graceOver)

/-- After the deadline a free seat cannot be assigned, and a failed payment delivered
after its own deadline cannot be applied to a seat assigned in between. -/
theorem derived_window_refused :
    (clockedSeats.Reachable ⟨seatInGrace, 50⟩ ∧
        SeatRequest ⟨seatInGrace, 50⟩ (seatFor "m2" "audit-2" graceOver)
          (paidSubscription.invoiced .paymentFailed failedPaymentEvent 50) ∧
        Auditable seatInGrace.tables (seatFor "m2" "audit-2" graceOver) ∧
        (commit seatInGrace (assignStripeOperatorSeat seatInGrace (seatFor "m2" "audit-2" graceOver))).2 =
          .error (.constraint .entitlementChecks)) ∧
      clockedSeats.Reachable ⟨lateSeat, graceOver⟩ ∧
      NewerInvoice ⟨lateSeat, graceOver⟩ lateFailedPayment
        { failedPaymentEvent with receivedAt := graceOver } paidSubscription ∧
      (applyStripeInvoiceProjection lateSeat lateFailedPayment).2 =
        .error (.constraint .entitlementChecks) ∧
      ¬ EventApplied (applyStripeInvoiceProjection lateSeat lateFailedPayment).1.tables "evt_2" := by
  have register : ∃ registered inserted, registerStripeEvent lateSeat lateFailedPayment.event =
      .ok (registered, { failedPaymentEvent with receivedAt := graceOver }, inserted) := by
    have accepted : stripeEventCandidate lateFailedPayment.event =
        .ok { failedPaymentEvent with receivedAt := graceOver } := by decide +kernel
    obtain ⟨registered, register, _⟩ :=
      @registerStripeEvent_fresh lateSeat _ _ accepted (by decide) (by decide)
    exact ⟨registered, true, register⟩
  obtain ⟨rejected, failed⟩ :
      (applyStripeInvoiceProjection lateSeat lateFailedPayment).2 =
          .error (.constraint .entitlementChecks) ∧
        (lookup (·.stripeEventId) (applyStripeInvoiceProjection lateSeat
          lateFailedPayment).1.tables.stripeEvents "evt_2").map (·.processingResult) = some .failed := by
    decide +kernel
  refine ⟨⟨seatInGrace_clocked, seatRequest_inGrace graceOver (.inr rfl), by decide +kernel,
    by decide +kernel⟩, lateSeat_clocked, ⟨register, rfl, by decide, by decide, by decide +kernel, rfl⟩,
    rejected, ?_⟩
  rintro ⟨event, found, applied⟩
  rw [found] at failed
  exact absurd (applied.symm.trans (Option.some.inj failed)) (by decide)

end Sample

end NebulaCloud.Billing
