import NebulaCloud.Billing.CachedAccess
import NebulaCloud.Billing.StaleEvents
import NebulaCloud.Billing.SubscriptionDelivery

namespace NebulaCloud.Billing

open NebulaCloud.Data NebulaCloud.Database NebulaCloud.Platform

/-! # Cancellation

A cancelled subscription suspends its seats when the delivery goes through.  The seats
always have room for the suspension; only the quantity of the event can stand in the
way. -/

/-- Every operation, in any order, none earlier than the one before. -/
def clockedSeats : System BillingState SeatOperation where
  Initial state := TrimmedOrganizations state.database.tables ∧ NoSeats state.database.tables ∧
    state.database.tables.subscriptions = []
  Enabled state operation := operation.Admitted ∧ ∀ now ∈ operation.processedAt, state.clock ≤ now
  step := billing.step

theorem step_projectBilling (state : BillingState) (input : StripeBillingProjectionInput) :
    clockedSeats.step state (.projectBilling input) =
      ⟨(applyStripeBillingProjection state.database input).1, input.now⟩ := rfl

/-! ## Room for the suspension -/

/-- A grace deadline is set while a payment is missing, and every assigned seat starts
before it. -/
structure GraceInvariant (tables : Tables) : Prop where
  current : ∀ subscription ∈ tables.subscriptions, subscription.paymentState = .current →
    subscription.graceEndsAt = none
  room : ∀ subscription ∈ tables.subscriptions, ∀ graceEndsAt ∈ subscription.graceEndsAt,
    ∀ start ∈ seatStarts tables subscription.organizationId, start < graceEndsAt

section Room

variable {before after tables : Tables} {database written : CloudDatabase} {now : Int}

theorem access_of_unpaid {subscription : BillingSubscriptionRow}
    (unpaid : subscription.paymentState ≠ .current) :
    (stripeEntitlementAccess subscription now).endsAt = subscription.graceEndsAt := by
  unfold stripeEntitlementAccess
  split
  · rfl
  · rw [if_neg fun paid => unpaid paid.1]

theorem invoiced_current {subscription : BillingSubscriptionRow} {type : InvoiceEventType}
    {event : StripeEventRow} (paid : (subscription.invoiced type event now).paymentState = .current) :
    (subscription.invoiced type event now).graceEndsAt = none := by
  cases type with
  | paid => rfl
  | paymentFailed =>
      simp only [BillingSubscriptionRow.invoiced, invoiceGraceEndsAt, invoicePaymentState] at paid
      split at paid
      · cases paid
      · cases paid

/-- The same subscriptions and no new starts. -/
theorem GraceInvariant.of_starts (invariant : GraceInvariant before)
    (sameSubscriptions : tables.subscriptions = before.subscriptions)
    (starts : ∀ organizationId, ∀ start ∈ seatStarts tables organizationId,
      start ∈ seatStarts before organizationId) : GraceInvariant tables where
  current subscription stored := invariant.current subscription (sameSubscriptions ▸ stored)
  room subscription stored graceEndsAt grace start member :=
    invariant.room subscription (sameSubscriptions ▸ stored) graceEndsAt grace start
      (starts _ start member)

theorem GraceInvariant.of_sameSeats (same : SameSeats before after) (invariant : GraceInvariant before) :
    GraceInvariant after := by
  obtain ⟨_, _, _, rfl⟩ := same
  exact ⟨invariant.current, invariant.room⟩

theorem GraceInvariant.reconciled (invariant : GraceInvariant tables)
    (subscription : BillingSubscriptionRow) (now : Int) :
    GraceInvariant (reconciled subscription now tables) := by
  refine invariant.of_starts rfl fun organizationId start member => ?_
  rwa [seatStarts_reconciled] at member

theorem GraceInvariant.projectSubscription {source : ProjectionSource} {input : BillingSubscriptionInput}
    {subscription : BillingSubscriptionRow} {applied : Bool}
    (projected : projectBillingSubscription database source input =
      .ok (written, subscription, applied)) (invariant : GraceInvariant database.tables) :
    GraceInvariant written.tables := by
  obtain ⟨candidate, accepted, _, _, tables, _⟩ := projectBillingSubscription_ok projected
  obtain ⟨_, _, current, noGrace, _⟩ := billingSubscriptionCandidate_row accepted
  have distinct := database.consistent .subscriptionOrganization
  have upserted : GraceInvariant (upsertSubscription candidate database.tables).1 := by
    have each : ∀ row ∈ (upsertSubscription candidate database.tables).1.subscriptions,
        row.graceEndsAt = none ∧ row.paymentState = .current ∨
          ∃ stored ∈ database.tables.subscriptions, row.organizationId = stored.organizationId ∧
            row.paymentState = stored.paymentState ∧ row.graceEndsAt = stored.graceEndsAt := by
      intro row member
      rcases (mem_upsert distinct).mp member with rfl | ⟨stored, _⟩
      · cases found : lookup (·.organizationId) database.tables.subscriptions candidate.organizationId with
        | none => exact .inl ⟨noGrace, current⟩
        | some stored =>
            refine .inr ⟨stored, lookup_mem found, ?_⟩
            simp only [Data.upserted]
            split
            · exact ⟨(lookup_key found).symm, rfl, rfl⟩
            · exact ⟨rfl, rfl, rfl⟩
      · exact .inr ⟨row, stored, rfl, rfl, rfl⟩
    constructor
    · intro row member paid
      rcases each row member with ⟨none, _⟩ | ⟨stored, storedMember, _, state, grace⟩
      · exact none
      · rw [grace]
        exact invariant.current stored storedMember (state.symm.trans paid)
    · intro row member graceEndsAt ends start started
      rcases each row member with ⟨none, _⟩ | ⟨stored, storedMember, organization, _, grace⟩
      · rw [none] at ends
        cases ends
      · rw [organization] at started
        rw [grace] at ends
        exact invariant.room stored storedMember graceEndsAt ends start started
  rw [tables]
  exact upserted.reconciled subscription source.updatedAt

/-- An invoice is written only when the seats fit the access that it leaves. -/
theorem projectInvoice_fits {invoiced updated : BillingSubscriptionRow}
    (projected : projectInvoice database invoiced now = .ok (written, updated)) :
    AccessFits (seatStarts database.tables updated.organizationId) updated now := by
  obtain ⟨stored, update, projected⟩ := bind_ok.mp projected
  have invoicedTables := Store.execute_ok.mp update
  split at projected
  · cases projected
  · obtain ⟨refreshed, reconcile, returned⟩ := bind_ok.mp projected
    cases returned
    have consistent := written.consistent
    rw [Store.execute_ok.mp reconcile, reconciled_consistent_iff_fits, invoicedTables,
      seatStarts_invoiceSubscription] at consistent
    exact consistent

theorem GraceInvariant.projectInvoice {subscription updated : BillingSubscriptionRow}
    {type : InvoiceEventType} {event : StripeEventRow}
    (trimmed : TrimmedOrganizations database.tables)
    (stored : subscription ∈ database.tables.subscriptions)
    (projected : projectInvoice database (subscription.invoiced type event now) now =
      .ok (written, updated)) (invariant : GraceInvariant database.tables) :
    GraceInvariant written.tables := by
  obtain ⟨resolved, tables⟩ := projectInvoice_ok projected
  have organization : trim subscription.organizationId = subscription.organizationId :=
    trimmed _ (database.consistent .subscriptionOwner subscription stored)
  have same : updated = subscription.invoiced type event now := by
    have again : lookup (·.organizationId)
        (invoiceSubscription (subscription.invoiced type event now) database.tables).subscriptions
        (trim subscription.organizationId) = some updated := resolved
    rw [organization, lookup_invoiced stored] at again
    exact (Option.some.inj again).symm
  subst same
  have fits := projectInvoice_fits projected
  have each : ∀ row ∈
      (invoiceSubscription (subscription.invoiced type event now) database.tables).subscriptions,
      (row ∈ database.tables.subscriptions ∨ row.organizationId = subscription.organizationId ∧
        row.paymentState = (subscription.invoiced type event now).paymentState ∧
        row.graceEndsAt = (subscription.invoiced type event now).graceEndsAt) := by
    intro row member
    obtain ⟨before, beforeStored, changed⟩ := mem_updateWhere.mp member
    split at changed
    · rename_i chosen
      subst changed
      exact .inr ⟨of_decide_eq_true chosen, rfl, rfl⟩
    · exact .inl (changed ▸ beforeStored)
  have invoiced : GraceInvariant
      (invoiceSubscription (subscription.invoiced type event now) database.tables) := by
    constructor
    · intro row member paid
      rcases each row member with before | ⟨_, state, grace⟩
      · exact invariant.current row before paid
      · rw [grace]
        exact invoiced_current (state.symm.trans paid)
    · intro row member graceEndsAt ends start started
      rcases each row member with before | ⟨owner, _, grace⟩
      · exact invariant.room row before graceEndsAt ends start started
      · rw [owner] at started
        rw [grace] at ends
        refine fits start started graceEndsAt ?_
        have unpaid : (subscription.invoiced type event now).paymentState ≠ .current := by
          intro paid
          rw [invoiced_current paid] at ends
          cases ends
        rw [access_of_unpaid unpaid]
        exact ends
  rw [tables]
  exact invoiced.reconciled _ now

theorem GraceInvariant.upsertEntitlement {excluded : OperatorEntitlementRow}
    (invariant : GraceInvariant database.tables)
    (fits : ∀ subscription ∈ database.tables.subscriptions,
      isAssignedSeat subscription.organizationId excluded = true →
      ∀ graceEndsAt ∈ subscription.graceEndsAt, excluded.startsAt < graceEndsAt) :
    GraceInvariant (upsertEntitlement excluded database.tables) where
  current := invariant.current
  room subscription stored graceEndsAt ends start started := by
    obtain ⟨seat, member, assigned, rfl⟩ := mem_seatStarts.mp started
    rcases (mem_upsertEntitlement (database.consistent .entitlementMember)).mp member with rfl | ⟨kept, _⟩
    · exact fits subscription stored assigned graceEndsAt ends
    · exact invariant.room subscription stored graceEndsAt ends _
        (mem_seatStarts.mpr ⟨seat, kept, assigned, rfl⟩)

theorem GraceInvariant.assignSeat {options : StripeOperatorSeatOptions}
    {entitlement : OperatorEntitlementRow} (trimmed : TrimmedOrganizations database.tables)
    (assigned : assignStripeOperatorSeat database options = .ok (written, entitlement))
    (invariant : GraceInvariant database.tables) : GraceInvariant written.tables := by
  obtain ⟨_, target, subscription, found, _, same⟩ := assignStripeOperatorSeat_ok assigned
  have organization := trimmed options.organizationId (organization_of_isSeatTarget target)
  rw [getBillingSubscription, organization] at found
  refine .of_sameSeats same (invariant.upsertEntitlement fun row stored seat graceEndsAt ends => ?_)
  have owner : options.organizationId = row.organizationId := (isAssignedSeat_iff.mp seat).1
  have own : row = subscription := by
    have again := lookup_of_mem (database.consistent .subscriptionOrganization) stored
    rw [← owner, found] at again
    exact (Option.some.inj again).symm
  subst own
  -- the row that was written meets its check, and its end is the deadline
  have unpaid : row.paymentState ≠ .current := by
    intro paid
    rw [invariant.current row stored paid] at ends
    cases ends
  have seatStored : writtenEntitlement (assignedSeat database row options options.now) database.tables ∈
      written.tables.entitlements := by
    obtain ⟨_, _, _, rows⟩ := same
    rw [rows]
    exact (mem_upsertEntitlement (database.consistent .entitlementMember)).mpr (.inl rfl)
  have checks := written.consistent .entitlementChecks _ seatStored
  refine checks.1 graceEndsAt ?_
  change graceEndsAt ∈ (stripeEntitlementAccess row options.now).endsAt
  rw [access_of_unpaid unpaid]
  exact ends

theorem GraceInvariant.revokeWhere (invariant : GraceInvariant before)
    (selected : OperatorEntitlementRow → Bool) (timestamp : Int) :
    GraceInvariant (revokeWhere selected timestamp before) := by
  refine invariant.of_starts rfl fun organizationId start started => ?_
  obtain ⟨seat, member, assigned, rfl⟩ := mem_seatStarts.mp started
  obtain ⟨row, stored, changed⟩ := mem_updateWhere.mp member
  split at changed
  · subst changed
    exact absurd rfl (isAssignedSeat_iff.mp assigned).2.2
  · subst changed
    exact mem_seatStarts.mpr ⟨row, stored, assigned, rfl⟩

theorem GraceInvariant.deleteMembers (invariant : GraceInvariant before)
    (doomed : MemberRow → Bool) (timestamp : Int) :
    GraceInvariant (deleteMembers doomed timestamp before) := by
  refine invariant.of_starts rfl fun organizationId start started => ?_
  obtain ⟨seat, member, assigned, rfl⟩ := mem_seatStarts.mp started
  exact mem_seatStarts.mpr ⟨seat, (List.mem_filter.mp member).1, assigned, rfl⟩

theorem GraceInvariant.perform {operation : SeatOperation} (admitted : operation.Admitted)
    (trimmed : TrimmedOrganizations database.tables) (invariant : GraceInvariant database.tables) :
    GraceInvariant (perform database operation).tables := by
  cases operation with
  | projectBilling input =>
      rw [Billing.perform]
      exact applyStripeBillingProjection_preserves GraceInvariant (fun _ _ => .of_sameSeats)
        (fun _ _ _ _ _ _ _ _ projected => .projectSubscription projected) invariant
  | projectInvoice input =>
      rw [Billing.perform]
      refine (applyStripeInvoiceProjection_preserves
        (fun tables => TrimmedOrganizations tables ∧ GraceInvariant tables) ?_ ?_ ⟨trimmed, invariant⟩).2
      · rintro _ _ ⟨_, _, _, rfl⟩ ⟨organizations, room⟩
        exact ⟨organizations, room.current, room.room⟩
      · intro before after subscription event updated stored projected kept
        obtain ⟨organizations, room⟩ := kept
        refine ⟨?_, room.projectInvoice organizations stored projected⟩
        rw [(projectInvoice_ok projected).2]
        exact organizations
  | assignSeat options =>
      exact commit_keeps GraceInvariant invariant fun _ _ assigned => invariant.assignSeat trimmed assigned
  | revokeSeat options =>
      apply commit_keeps GraceInvariant invariant
      intro after _ revoked
      exact .of_sameSeats (revokeStripeOperatorSeat_ok revoked) (invariant.revokeWhere _ _)
  | upsertEntitlement input =>
      apply commit_keeps GraceInvariant invariant
      intro after _ upserted
      obtain ⟨excluded, _, source, tables⟩ := upsertOperatorEntitlement_ok upserted
      rw [tables]
      refine invariant.upsertEntitlement fun subscription _ seat => ?_
      have paid : input.source = .stripe := source.symm.trans (isAssignedSeat_iff.mp seat).2.1
      rcases admitted with beta | admin
      · exact absurd (paid.symm.trans beta) (by simp)
      · exact absurd (paid.symm.trans admin) (by simp)
  | revokeEntitlement input =>
      apply commit_keeps GraceInvariant invariant
      intro after _ revoked
      obtain ⟨selected, tables⟩ := revokeOperatorEntitlement_ok revoked
      rw [tables]
      exact invariant.revokeWhere selected input.now
  | deleteMember memberId timestamp =>
      simp only [Billing.perform, autocommit]
      split
      · rename_i after deleted
        rw [Store.execute_ok.mp deleted]
        exact invariant.deleteMembers _ timestamp
      · exact invariant

end Room

/-! ## The cache under every operation -/

section Cache

variable {tables : Tables} {database : CloudDatabase} {clock : Int} {state : BillingState}
  {operation : SeatOperation}

theorem CacheInvariant.upsertEntitlement {excluded : OperatorEntitlementRow}
    (free : excluded.source ≠ .stripe) (invariant : CacheInvariant clock database.tables) :
    CacheInvariant clock (upsertEntitlement excluded database.tables) where
  trimmed := invariant.trimmed
  cached seat stored source unrevoked := by
    rcases (mem_upsertEntitlement (database.consistent .entitlementMember)).mp stored with
      rfl | ⟨kept, _⟩
    · exact absurd source free
    · have cached := invariant.cached seat kept source unrevoked
      exact ⟨cached.membership, cached.started, cached.computed⟩

theorem CacheInvariant.deleteMembers (invariant : CacheInvariant clock tables)
    (doomed : MemberRow → Bool) (timestamp : Int) :
    CacheInvariant clock (deleteMembers doomed timestamp tables) where
  trimmed := invariant.trimmed
  cached seat stored source unrevoked := by
    have cached := invariant.cached seat (List.mem_filter.mp stored).1 source unrevoked
    exact ⟨cached.membership, cached.started, cached.computed⟩

/-- Administrative operations leave the cache right as well. -/
theorem CacheInvariant.anyStep (enabled : clockedSeats.Enabled state operation)
    (invariant : CacheInvariant state.clock state.database.tables) :
    CacheInvariant (clockedSeats.step state operation).clock
      (clockedSeats.step state operation).database.tables := by
  obtain ⟨admitted, later⟩ := enabled
  cases operation with
  | projectBilling input => exact invariant.step ⟨input.now, rfl, later input.now rfl⟩
  | projectInvoice input => exact invariant.step ⟨input.now, rfl, later input.now rfl⟩
  | assignSeat options => exact invariant.step ⟨options.now, rfl, later options.now rfl⟩
  | revokeSeat options => exact invariant.step ⟨options.now, rfl, later options.now rfl⟩
  | upsertEntitlement input =>
      apply commit_keeps (CacheInvariant state.clock) invariant
      intro after _ upserted
      obtain ⟨excluded, _, source, written⟩ := upsertOperatorEntitlement_ok upserted
      have free : excluded.source ≠ .stripe := by
        rw [source]
        rcases admitted with beta | admin
        · simp [beta]
        · simp [admin]
      rw [written]
      exact invariant.upsertEntitlement free
  | revokeEntitlement input =>
      apply commit_keeps (CacheInvariant state.clock) invariant
      intro after _ revoked
      obtain ⟨selected, written⟩ := revokeOperatorEntitlement_ok revoked
      rw [written]
      exact invariant.revokeWhere selected input.now
  | deleteMember memberId timestamp =>
      change CacheInvariant state.clock (perform state.database (.deleteMember memberId timestamp)).tables
      simp only [perform, autocommit]
      split
      · rename_i after deleted
        rw [Store.execute_ok.mp deleted]
        exact invariant.deleteMembers _ timestamp
      · exact invariant

/-- Everything that holds along the runs of all operations. -/
structure Kept (state : BillingState) : Prop where
  seats : SeatInvariant state.database.tables
  grace : GraceInvariant state.database.tables
  cache : CacheInvariant state.clock state.database.tables

theorem Kept.step (kept : Kept state) (enabled : clockedSeats.Enabled state operation) :
    Kept (clockedSeats.step state operation) where
  seats := kept.seats.perform enabled.1
  grace := kept.grace.perform enabled.1 kept.seats.trimmed
  cache := kept.cache.anyStep enabled

theorem kept_of_reachable (reachable : clockedSeats.Reachable state) : Kept state := by
  induction reachable with
  | @initial state first =>
      obtain ⟨trimmed, noSeats, unsubscribed⟩ := first
      refine ⟨.of_reachable (.initial ⟨trimmed, noSeats⟩), ⟨?_, ?_⟩, ⟨trimmed, ?_⟩⟩
      · intro subscription stored
        rw [unsubscribed] at stored
        exact absurd stored List.not_mem_nil
      · intro subscription stored
        rw [unsubscribed] at stored
        exact absurd stored List.not_mem_nil
      · intro seat stored source unrevoked
        exact absurd ⟨source, unrevoked⟩ (noSeats seat stored)
  | step _ enabled ih => exact ih.step enabled

end Cache

/-! ## No access until the next billing event -/

def SeatOperation.isBilling : SeatOperation → Bool
  | .projectBilling _ | .projectInvoice _ => true
  | _ => false

/-- The subscription of the organization grants nothing any more, and no seat is active. -/
structure Dormant (organizationId : String) (time : Int) (tables : Tables) : Prop where
  refused : ∀ subscription ∈ lookup (·.organizationId) tables.subscriptions organizationId,
    ∀ later, time ≤ later → (stripeEntitlementAccess subscription later).state = .suspended
  inactive : ∀ seat ∈ tables.entitlements, seat.organizationId = organizationId →
    seat.source = .stripe → ∀ later, time ≤ later → ¬ seat.ActiveAt later

section Dormancy

variable {organizationId : String} {time next : Int} {before after tables : Tables}
  {database written : CloudDatabase} {state : BillingState} {operation : SeatOperation}

theorem Dormant.later (dormant : Dormant organizationId time tables) (after : time ≤ next) :
    Dormant organizationId next tables where
  refused subscription stored moment reached :=
    dormant.refused subscription stored moment (Int.le_trans after reached)
  inactive seat stored owner source moment reached :=
    dormant.inactive seat stored owner source moment (Int.le_trans after reached)

theorem Dormant.of_sameSeats (same : SameSeats before after) (dormant : Dormant organizationId time before) :
    Dormant organizationId time after := by
  obtain ⟨_, _, _, rfl⟩ := same
  exact ⟨dormant.refused, dormant.inactive⟩

theorem inactive_of_state {seat : OperatorEntitlementRow} (moment : Int)
    (idle : seat.state ≠ .active ∧ seat.state ≠ .grace) : ¬ seat.ActiveAt moment := by
  rintro ⟨active | grace, _⟩
  · exact idle.1 active
  · exact idle.2 grace

theorem Dormant.upsertEntitlement {excluded : OperatorEntitlementRow}
    (dormant : Dormant organizationId time database.tables)
    (idle : excluded.organizationId = organizationId → excluded.source = .stripe →
      excluded.state ≠ .active ∧ excluded.state ≠ .grace) :
    Dormant organizationId time (upsertEntitlement excluded database.tables) where
  refused := dormant.refused
  inactive seat stored owner source moment reached := by
    rcases (mem_upsertEntitlement (database.consistent .entitlementMember)).mp stored with
      rfl | ⟨kept, _⟩
    · exact inactive_of_state moment (idle owner source)
    · exact dormant.inactive seat kept owner source moment reached

/-- A seat that is assigned now gets what the subscription grants now: nothing. -/
theorem Dormant.assignSeat {options : StripeOperatorSeatOptions} {entitlement : OperatorEntitlementRow}
    (trimmed : TrimmedOrganizations database.tables)
    (assigned : assignStripeOperatorSeat database options = .ok (written, entitlement))
    (dormant : Dormant organizationId options.now database.tables) :
    Dormant organizationId options.now written.tables := by
  obtain ⟨_, target, subscription, found, _, same⟩ := assignStripeOperatorSeat_ok assigned
  have organization := trimmed options.organizationId (organization_of_isSeatTarget target)
  rw [getBillingSubscription, organization] at found
  refine .of_sameSeats same (dormant.upsertEntitlement fun owner _ => ?_)
  have own : options.organizationId = organizationId := owner
  rw [own] at found
  have suspended : (stripeEntitlementAccess subscription options.now).state = .suspended :=
    dormant.refused subscription found options.now (Int.le_refl _)
  change (stripeEntitlementAccess subscription options.now).state ≠ .active ∧
    (stripeEntitlementAccess subscription options.now).state ≠ .grace
  simp [suspended]

theorem Dormant.revokeWhere (dormant : Dormant organizationId time before)
    (selected : OperatorEntitlementRow → Bool) (timestamp : Int) :
    Dormant organizationId time (revokeWhere selected timestamp before) where
  refused := dormant.refused
  inactive seat stored owner source moment reached := by
    obtain ⟨row, rowStored, changed⟩ := mem_updateWhere.mp stored
    split at changed
    · subst changed
      exact inactive_of_state moment (by simp)
    · subst changed
      exact dormant.inactive row rowStored owner source moment reached

theorem Dormant.deleteMembers (dormant : Dormant organizationId time before)
    (doomed : MemberRow → Bool) (timestamp : Int) :
    Dormant organizationId time (deleteMembers doomed timestamp before) where
  refused := dormant.refused
  inactive seat stored := dormant.inactive seat (List.mem_filter.mp stored).1

/-- Only a billing event ends the dormancy. -/
theorem Dormant.step (enabled : clockedSeats.Enabled state operation)
    (quiet : operation.isBilling = false) (trimmed : TrimmedOrganizations state.database.tables)
    (dormant : Dormant organizationId state.clock state.database.tables) :
    Dormant organizationId (clockedSeats.step state operation).clock
      (clockedSeats.step state operation).database.tables := by
  obtain ⟨admitted, later⟩ := enabled
  cases operation with
  | projectBilling input => cases quiet
  | projectInvoice input => cases quiet
  | assignSeat options =>
      have current := dormant.later (later options.now rfl)
      exact commit_keeps (Dormant organizationId options.now) current
        fun _ _ assigned => current.assignSeat trimmed assigned
  | revokeSeat options =>
      have current := dormant.later (later options.now rfl)
      apply commit_keeps (Dormant organizationId options.now) current
      intro after _ revoked
      exact .of_sameSeats (revokeStripeOperatorSeat_ok revoked) (current.revokeWhere _ _)
  | upsertEntitlement input =>
      apply commit_keeps (Dormant organizationId state.clock) dormant
      intro after _ upserted
      obtain ⟨excluded, _, source, tables⟩ := upsertOperatorEntitlement_ok upserted
      rw [tables]
      refine dormant.upsertEntitlement fun _ paid => ?_
      rcases admitted with beta | admin
      · exact absurd (paid.symm.trans (source.trans beta)) nofun
      · exact absurd (paid.symm.trans (source.trans admin)) nofun
  | revokeEntitlement input =>
      apply commit_keeps (Dormant organizationId state.clock) dormant
      intro after _ revoked
      obtain ⟨selected, tables⟩ := revokeOperatorEntitlement_ok revoked
      rw [tables]
      exact dormant.revokeWhere selected input.now
  | deleteMember memberId timestamp =>
      change Dormant organizationId state.clock
        (perform state.database (.deleteMember memberId timestamp)).tables
      simp only [perform, autocommit]
      split
      · rename_i after deleted
        rw [Store.execute_ok.mp deleted]
        exact dormant.deleteMembers _ timestamp
      · exact dormant

theorem Dormant.run (kept : Kept state) (operations : List SeatOperation)
    (runs : clockedSeats.Runs state operations)
    (quiet : ∀ operation ∈ operations, operation.isBilling = false)
    (dormant : Dormant organizationId state.clock state.database.tables) :
    Dormant organizationId (clockedSeats.run state operations).clock
      (clockedSeats.run state operations).database.tables := by
  induction operations generalizing state with
  | nil => exact dormant
  | cons operation rest ih =>
      have next := kept.step runs.1
      have silent := quiet operation List.mem_cons_self
      have quietRest : ∀ other ∈ rest, other.isBilling = false := fun other member =>
        quiet other (List.mem_cons_of_mem operation member)
      exact ih next runs.2 quietRest (dormant.step runs.1 silent kept.seats.trimmed)

end Dormancy

/-! ## The cancelling event -/

/-- A newer event with a status that grants nothing, while no grace period runs. -/
structure Cancellation (state : BillingState) (input : StripeBillingProjectionInput)
    (part : BillingSubscriptionInput) (registered : CloudDatabase) (event : StripeEventRow)
    (inserted : Bool) (candidate : BillingSubscriptionRow) : Prop where
  register : registerStripeEvent state.database input.event = .ok (registered, event, inserted)
  unsettled : event.isSettled = false
  wellFormed : SubscriptionPart registered event input part candidate
  later : state.clock ≤ input.now
  newer : ∀ stored ∈ getBillingSubscription state.database input.organizationId,
    candidate.supersedes stored = true
  ended : candidate.status ≠ "active" ∧ candidate.status ≠ "trialing"
  noGrace : ∀ stored ∈ getBillingSubscription state.database input.organizationId,
    ¬ (stored.paymentState = .grace ∧ ∃ graceEndsAt ∈ stored.graceEndsAt, input.now < graceEndsAt)

section Cancel

variable {state : BillingState} {input : StripeBillingProjectionInput} {part : BillingSubscriptionInput}
  {registered : CloudDatabase} {event : StripeEventRow} {inserted : Bool}
  {candidate subscription : BillingSubscriptionRow} {computedAt now : Int}

theorem access_suspended_later (suspended : (stripeEntitlementAccess subscription computedAt).state =
      .suspended) (later : computedAt ≤ now) :
    (stripeEntitlementAccess subscription now).state = .suspended := by
  by_contra open'
  obtain ⟨active | grace, _⟩ := (access_lasts subscription later).mpr open'
  · exact absurd (suspended.symm.trans active) nofun
  · exact absurd (suspended.symm.trans grace) nofun

theorem access_of_suspended (suspended : (stripeEntitlementAccess subscription now).state = .suspended) :
    (stripeEntitlementAccess subscription now).endsAt = subscription.graceEndsAt := by
  unfold stripeEntitlementAccess at suspended ⊢
  split
  · rfl
  · rename_i noGrace
    rw [if_neg noGrace] at suspended
    split
    · rename_i paid
      rw [if_pos paid] at suspended
      cases suspended
    · rfl

theorem Cancellation.sameTables (cancellation : Cancellation state input part registered event inserted
      candidate) :
    ∃ stripeEvents, registered.tables = { state.database.tables with stripeEvents } :=
  registerStripeEvent_frame cancellation.register

/-- The row that the cancellation leaves grants nothing. -/
theorem Cancellation.suspended (cancellation : Cancellation state input part registered event inserted
      candidate) :
    (stripeEntitlementAccess (subscriptionAfter candidate registered.tables) input.now).state =
        .suspended ∧
      ∀ graceEndsAt ∈ (subscriptionAfter candidate registered.tables).graceEndsAt,
        ∃ stored ∈ getBillingSubscription state.database input.organizationId,
          graceEndsAt ∈ stored.graceEndsAt := by
  obtain ⟨stripeEvents, tables⟩ := cancellation.sameTables
  obtain ⟨_, _, current, _⟩ := billingSubscriptionCandidate_row cancellation.wellFormed.accepted
  obtain ⟨notActive, notTrialing⟩ := cancellation.ended
  have row : lookup (·.organizationId) registered.tables.subscriptions candidate.organizationId =
      getBillingSubscription state.database input.organizationId := by
    rw [cancellation.wellFormed.owner, tables]
    rfl
  refine ⟨?_, row ▸ cancellation.wellFormed.carried_grace⟩
  rw [subscriptionAfter, row]
  cases stored : getBillingSubscription state.database input.organizationId with
  | none => simp [upserted, stripeEntitlementAccess, current, notActive, notTrialing]
  | some stored' =>
      have newer := cancellation.newer stored' stored
      have expired := cancellation.noGrace stored' stored
      rw [upserted, if_pos newer]
      have noGraceNow : ¬ ((candidate.replaced stored').paymentState = .grace ∧
          ∃ graceEndsAt ∈ (candidate.replaced stored').graceEndsAt, input.now < graceEndsAt) := expired
      have unpaid : ¬ ((candidate.replaced stored').status = "active" ∨
          (candidate.replaced stored').status = "trialing") := by
        rintro (active | trialing)
        · exact notActive active
        · exact notTrialing trialing
      rw [stripeEntitlementAccess, if_neg noGraceNow, if_neg fun paid => unpaid paid.2.1]

theorem Cancellation.enabled (cancellation : Cancellation state input part registered event inserted
      candidate) : clockedSeats.Enabled state (.projectBilling input) := by
  refine ⟨trivial, ?_⟩
  intro now processed
  obtain rfl := Option.some.inj processed
  exact cancellation.later

/-- The assigned seats always have room for the suspension. -/
theorem Cancellation.fits (kept : Kept state)
    (cancellation : Cancellation state input part registered event inserted candidate) :
    AccessFits (seatStarts registered.tables (trim input.organizationId))
      (subscriptionAfter candidate registered.tables) input.now := by
  obtain ⟨stripeEvents, tables⟩ := cancellation.sameTables
  obtain ⟨suspended, carried⟩ := cancellation.suspended
  intro start started graceEndsAt ends
  rw [access_of_suspended suspended] at ends
  obtain ⟨stored, found, grace⟩ := carried graceEndsAt ends
  rw [tables] at started
  have owner : stored.organizationId = trim input.organizationId := lookup_key found
  refine kept.grace.room stored (lookup_mem found) graceEndsAt grace start ?_
  rw [owner]
  exact started

theorem Cancellation.dormant_of_accepted (kept : Kept state)
    (cancellation : Cancellation state input part registered event inserted candidate)
    (enough : assignedSeats state.database.tables (trim input.organizationId) ≤ part.entitledSeats) :
    Dormant (trim input.organizationId) input.now
      (applyStripeBillingProjection state.database input).1.tables := by
  obtain ⟨stripeEvents, registeredTables⟩ := cancellation.sameTables
  obtain ⟨message, tables⟩ := applyStripeBillingProjection_subscription cancellation.register
    cancellation.unsettled cancellation.wellFormed
  have quantity : (assignedSeats registered.tables (trim input.organizationId) : Int) ≤
      part.entitledSeats := by
    rw [registeredTables]
    exact enough
  rw [if_pos ⟨quantity, cancellation.fits kept⟩] at tables
  obtain ⟨suspended, _⟩ := cancellation.suspended
  have owner : (subscriptionAfter candidate registered.tables).organizationId =
      trim input.organizationId := lookup_key cancellation.wellFormed.storable.found
  rw [tables]
  constructor
  · intro subscription stored moment reached
    have found : lookup (·.organizationId)
        (upsertSubscription candidate registered.tables).1.subscriptions (trim input.organizationId) =
        some subscription := stored
    obtain rfl := Option.some.inj (cancellation.wellFormed.storable.found.symm.trans found)
    exact access_suspended_later suspended reached
  · intro seat stored organization source moment reached
    obtain ⟨row, rowStored, changed⟩ := mem_updateWhere.mp stored
    split at changed
    · subst changed
      apply inactive_of_state
      simp [OperatorEntitlementRow.granted, suspended]
    · rename_i unassigned
      subst changed
      have revoked : row.state = .revoked := by
        by_contra unrevoked
        exact unassigned (isAssignedSeat_iff.mpr ⟨organization.trans owner.symm, source, unrevoked⟩)
      exact inactive_of_state moment (by simp [revoked])

/-- A suspended subscription has no active seat, whatever its seats store. -/
theorem Kept.dormant (kept : Kept state) {organizationId : String} (later : state.clock ≤ now)
    (suspended : ∀ stored ∈ lookup (·.organizationId) state.database.tables.subscriptions organizationId,
      (stripeEntitlementAccess stored now).state = .suspended) :
    Dormant organizationId now state.database.tables where
  refused subscription stored moment reached := access_suspended_later (suspended subscription stored) reached
  inactive seat stored owner source moment reached := by
    by_cases unrevoked : seat.state = .revoked
    · exact inactive_of_state moment (by simp [unrevoked])
    · obtain ⟨subscription, found, computedAt, past, access⟩ :=
        (kept.cache.cached seat stored source unrevoked).computed
      rw [owner] at found
      have ended := access_suspended_later (suspended subscription found) reached
      have lasts := access_lasts subscription (Int.le_trans past (Int.le_trans later reached))
      rw [access] at lasts
      rintro ⟨granted, _, unended⟩
      exact lasts.mp ⟨granted, unended⟩ ended

/-- A rejected cancellation leaves the tables as they were, its record apart. -/
theorem Cancellation.sameSeats_of_rejected
    (cancellation : Cancellation state input part registered event inserted candidate)
    (few : ¬ (assignedSeats state.database.tables (trim input.organizationId) : Int) ≤
      part.entitledSeats) :
    SameSeats state.database.tables (applyStripeBillingProjection state.database input).1.tables := by
  obtain ⟨stripeEvents, registeredTables⟩ := cancellation.sameTables
  obtain ⟨message, tables⟩ := applyStripeBillingProjection_subscription cancellation.register
    cancellation.unsettled cancellation.wellFormed
  have short : ¬ (assignedSeats registered.tables (trim input.organizationId) : Int) ≤
      part.entitledSeats := by
    rw [registeredTables]
    exact few
  rw [if_neg fun both => short both.1] at tables
  rw [tables, registeredTables]
  exact ⟨_, _, _, rfl⟩

/-- Where the subscription still grants access, an assigned seat is active. -/
theorem Kept.active (kept : Kept state) {organizationId : String} {stored : BillingSubscriptionRow}
    (later : state.clock ≤ now)
    (found : lookup (·.organizationId) state.database.tables.subscriptions organizationId = some stored)
    (granted : (stripeEntitlementAccess stored now).state ≠ .suspended)
    (occupied : 0 < assignedSeats state.database.tables organizationId) :
    ∃ seat ∈ state.database.tables.entitlements, seat.organizationId = organizationId ∧
      seat.source = .stripe ∧ seat.ActiveAt now := by
  obtain ⟨seat, member, assigned⟩ := List.countP_pos_iff.mp occupied
  obtain ⟨owner, source, unrevoked⟩ := isAssignedSeat_iff.mp assigned
  have cached := kept.cache.cached seat member source unrevoked
  obtain ⟨subscription, again, computedAt, past, access⟩ := cached.computed
  rw [owner, found] at again
  obtain rfl := Option.some.inj again
  have lasts := access_lasts stored (Int.le_trans past later)
  rw [access] at lasts
  obtain ⟨active, unended⟩ := lasts.mpr granted
  exact ⟨seat, member, owner, source, active, Int.le_trans cached.started later, unended⟩

theorem Cancellation.dormant (kept : Kept state)
    (cancellation : Cancellation state input part registered event inserted candidate)
    (condition : (assignedSeats state.database.tables (trim input.organizationId) : Int) ≤
        part.entitledSeats ∨
      ∀ stored ∈ getBillingSubscription state.database input.organizationId,
        (stripeEntitlementAccess stored input.now).state = .suspended) :
    Dormant (trim input.organizationId) input.now
      (applyStripeBillingProjection state.database input).1.tables := by
  by_cases enough : (assignedSeats state.database.tables (trim input.organizationId) : Int) ≤
      part.entitledSeats
  · exact cancellation.dormant_of_accepted kept enough
  · exact .of_sameSeats (cancellation.sameSeats_of_rejected enough)
      (kept.dormant cancellation.later (condition.resolve_left enough))

/-- No seat of the organization is active, now and in every run without billing events. -/
def AccessEnded (organizationId : String) (state : BillingState) : Prop :=
  ∀ operations, clockedSeats.Runs state operations →
    (∀ operation ∈ operations, operation.isBilling = false) →
    ∀ seat ∈ (clockedSeats.run state operations).database.tables.entitlements,
      seat.organizationId = organizationId → seat.source = .stripe →
      ∀ time, (clockedSeats.run state operations).clock ≤ time → ¬ seat.ActiveAt time

theorem AccessEnded.atOnce {organizationId : String} {seat : OperatorEntitlementRow} {time : Int}
    (ended : AccessEnded organizationId state)
    (stored : seat ∈ state.database.tables.entitlements) (owner : seat.organizationId = organizationId)
    (source : seat.source = .stripe) (reached : state.clock ≤ time) : ¬ seat.ActiveAt time :=
  ended [] trivial (fun _ absent => absurd absent List.not_mem_nil) seat stored owner source time reached

theorem Dormant.accessEnded {organizationId : String} (kept : Kept state)
    (dormant : Dormant organizationId state.clock state.database.tables) :
    AccessEnded organizationId state := by
  intro operations runs quiet seat stored owner source time reached
  have final := dormant.run kept operations runs quiet
  exact final.inactive seat stored owner source time reached

/-- A cancellation ends the access exactly when its quantity covers the assigned seats,
or when nothing was granted any more. -/
theorem cancellation_ends_access_iff (reachable : clockedSeats.Reachable state)
    (cancellation : Cancellation state input part registered event inserted candidate) :
    AccessEnded (trim input.organizationId) (clockedSeats.step state (.projectBilling input)) ↔
      (assignedSeats state.database.tables (trim input.organizationId) : Int) ≤ part.entitledSeats ∨
        ∀ stored ∈ getBillingSubscription state.database input.organizationId,
          (stripeEntitlementAccess stored input.now).state = .suspended := by
  have kept := kept_of_reachable reachable
  constructor
  · intro ended
    rw [step_projectBilling] at ended
    rw [or_iff_not_imp_left]
    intro few stored found
    apply Classical.byContradiction
    intro granted
    have occupied : 0 < assignedSeats state.database.tables (trim input.organizationId) := by
      have quantity := cancellation.wellFormed.quantity.1
      omega
    obtain ⟨seat, member, owner, source, active⟩ :=
      kept.active cancellation.later found granted occupied
    obtain ⟨_, _, _, rows⟩ := cancellation.sameSeats_of_rejected few
    have present : seat ∈ (applyStripeBillingProjection state.database input).1.tables.entitlements := by
      rw [rows]
      exact member
    generalize (applyStripeBillingProjection state.database input).1 = after at ended present
    exact ended.atOnce present owner source (Int.le_refl input.now) active
  · intro condition
    have next := kept.step cancellation.enabled
    have dormant := cancellation.dormant kept condition
    rw [step_projectBilling] at next ⊢
    generalize (applyStripeBillingProjection state.database input).1 = after at dormant next ⊢
    exact Dormant.accessEnded next dormant

end Cancel

section Sample

theorem run_database (state : BillingState) (operations : List SeatOperation) :
    (clockedSeats.run state operations).database = seats.run state.database operations := by
  induction operations generalizing state with
  | nil => rfl
  | cons operation rest ih => exact ih _

theorem twoSeats_clocked : clockedSeats.Reachable ⟨twoSeats, 41⟩ := by
  have start : clockedSeats.Reachable ⟨customerTeam, 0⟩ := .initial ⟨by decide, by decide, rfl⟩
  have clocked : clockedSeats.Runs ⟨customerTeam, 0⟩ sellTwoSeats := by
    refine ⟨⟨trivial, ?_⟩, ⟨trivial, ?_⟩, ⟨trivial, ?_⟩, trivial⟩ <;>
      exact fun now processed => Option.some.inj processed ▸ by decide
  have sold := start.run clocked
  have database := (run_database ⟨customerTeam, 0⟩ sellTwoSeats).trans sellTwoSeats_run
  have state : clockedSeats.run ⟨customerTeam, 0⟩ sellTwoSeats = ⟨twoSeats, 41⟩ := by
    rw [← database]
    rfl
  rwa [state] at sold

def canceledEvent (quantity : Int) : StripeBillingProjectionInput where
  event := ⟨"evt_3", "customer.subscription.deleted", 60, 70⟩
  organizationId := "acme"
  customer := none
  subscription := some ⟨"sub_1", "price_1", "canceled", quantity, false, none⟩
  now := 70

def canceledEventRow : StripeEventRow :=
  ⟨"evt_3", "customer.subscription.deleted", 60, 70, .pending, none, none, 0⟩

def canceledSubscription (quantity : Int) : BillingSubscriptionRow where
  organizationId := "acme"
  stripeSubscriptionId := "sub_1"
  stripePriceId := "price_1"
  status := "canceled"
  entitledSeats := quantity
  cancelAtPeriodEnd := false
  currentPeriodEnd := none
  paymentState := .current
  graceEndsAt := none
  lastInvoiceEventCreatedAt := none
  lastInvoiceEventId := none
  lastEventCreatedAt := 60
  lastStripeEventId := "evt_3"
  createdAt := 70
  updatedAt := 70

/-- The cancellation of the subscription that pays for two seats. -/
theorem cancellation_twoSeats (quantity : Int) (inside : quantity = 1 ∨ quantity = 2) :
    ∃ registered, Cancellation ⟨twoSeats, 41⟩ (canceledEvent quantity)
      ⟨"sub_1", "price_1", "canceled", quantity, false, none⟩ registered canceledEventRow true
      (canceledSubscription quantity) := by
  have accepted : stripeEventCandidate (canceledEvent quantity).event = .ok canceledEventRow := by
    change stripeEventCandidate ⟨"evt_3", "customer.subscription.deleted", 60, 70⟩ = _
    decide +kernel
  have absent : lookup (·.stripeEventId) twoSeats.tables.stripeEvents canceledEventRow.stripeEventId =
      none := by decide
  obtain ⟨registered, register, written⟩ := registerStripeEvent_fresh accepted (by decide) absent
  have subscriptions : registered.tables.subscriptions = [twoSeatsSubscription] := by
    rw [written]
    rfl
  have acme : trim "acme" = "acme" := by decide +kernel
  have known : "acme" ∈ registered.tables.organizationIds := by
    rw [written]
    decide
  have only : ∀ stored ∈ getBillingSubscription twoSeats "acme", stored = twoSeatsSubscription := by
    decide +kernel
  refine ⟨registered, register, rfl, ⟨rfl, rfl, ?_, ?_, ?_, ?_, ?_, ?_, ?_⟩, ?_, ?_, ?_, ?_⟩
  · exact acme ▸ by decide
  · exact acme ▸ known
  · change IsNonNegativeSafeInteger 70
    decide
  · rcases inside with rfl | rfl <;> decide
  · exact fun periodEnd none => absurd none (Option.not_mem_none periodEnd)
  · rcases inside with rfl | rfl <;> decide +kernel
  · rw [subscriptions]
    intro stored member different
    rw [List.mem_singleton.mp member] at different
    exact absurd rfl different
  · change (41 : Int) ≤ 70
    decide
  · intro stored found
    rw [only stored found]
    rfl
  · change "canceled" ≠ "active" ∧ "canceled" ≠ "trialing"
    decide
  · intro stored found
    rw [only stored found]
    exact fun running => absurd running.1 nofun

theorem cancellation_ends_access_twoSeats :
    AccessEnded "acme" (clockedSeats.step ⟨twoSeats, 41⟩ (.projectBilling (canceledEvent 2))) := by
  obtain ⟨registered, cancellation⟩ := cancellation_twoSeats 2 (.inr rfl)
  have covered : (assignedSeats twoSeats.tables (trim "acme") : Int) ≤ 2 := by decide +kernel
  have ended := (cancellation_ends_access_iff twoSeats_clocked cancellation).mpr (.inl covered)
  have acme : trim (canceledEvent 2).organizationId = "acme" := by decide +kernel
  rwa [acme] at ended

/-- With a quantity below the assigned seats the cancellation is rejected, and the seats
stay active. -/
theorem cancellation_rejected :
    clockedSeats.Reachable ⟨twoSeats, 41⟩ ∧
      (∃ registered, Cancellation ⟨twoSeats, 41⟩ (canceledEvent 1)
        ⟨"sub_1", "price_1", "canceled", 1, false, none⟩ registered canceledEventRow true
        (canceledSubscription 1)) ∧
      (applyStripeBillingProjection twoSeats (canceledEvent 1)).2 =
        .error .operatorSeatQuantityConflict ∧
      hasActiveOperatorEntitlement (applyStripeBillingProjection twoSeats (canceledEvent 1)).1 "m1"
        "acme" 70 = true ∧
      ¬ AccessEnded "acme" (clockedSeats.step ⟨twoSeats, 41⟩ (.projectBilling (canceledEvent 1))) := by
  obtain ⟨conflict, active, stored⟩ :
      (applyStripeBillingProjection twoSeats (canceledEvent 1)).2 = .error .operatorSeatQuantityConflict ∧
        hasActiveOperatorEntitlement (applyStripeBillingProjection twoSeats (canceledEvent 1)).1 "m1"
          "acme" 70 = true ∧
        ⟨"m1", "acme", .active, .stripe, 40, none, 40, 40⟩ ∈
          (clockedSeats.step ⟨twoSeats, 41⟩
            (.projectBilling (canceledEvent 1))).database.tables.entitlements := by
    decide +kernel
  refine ⟨twoSeats_clocked, cancellation_twoSeats 1 (.inl rfl), conflict, active, fun ended => ?_⟩
  exact ended.atOnce stored rfl rfl (Int.le_refl 70) (by decide)

end Sample

end NebulaCloud.Billing
