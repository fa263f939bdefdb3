import NebulaCloud.Database.Billing

namespace NebulaCloud.Database

open NebulaCloud.Data NebulaCloud.Platform

/-! # Paid seats

An administrator assigns the seats of the subscription to members and takes them
back. -/

/-- `eventId` is the identifier that the platform generates for the audit event. -/
structure StripeOperatorSeatOptions where
  userId : String
  organizationId : String
  membershipId : String
  eventId : String
  now : Int
deriving DecidableEq, Repr

/-- The audit event of a seat operation. -/
def seatAuditEvent (options : StripeOperatorSeatOptions) (action : String) (timestamp : Int) :
    RecordAuditEventOptions where
  userId := options.userId
  organizationId := options.organizationId
  eventId := options.eventId
  action := action
  targetType := "membership"
  targetId := trim options.membershipId
  metadataJson := "\x7b\"source\":\"stripe\"\x7d"
  now := timestamp

/-- The membership may hold a seat: it is an enabled one of the organization. -/
def isSeatTarget (tables : Tables) (membershipId organizationId : String) : Bool :=
  tables.members.any fun member =>
    member.id = membershipId && member.organizationId = organizationId &&
      !memberDisabled tables member.id

/-- A seat target is a member, so its organization exists. -/
theorem organization_of_isSeatTarget {database : CloudDatabase} {membershipId organizationId : String}
    (target : isSeatTarget database.tables membershipId organizationId = true) :
    organizationId ∈ database.tables.organizationIds := by
  simp only [isSeatTarget, List.any_eq_true, Bool.and_eq_true, decide_eq_true_eq] at target
  obtain ⟨member, stored, ⟨_, memberOrganization⟩, _⟩ := target
  exact memberOrganization ▸ database.consistent .memberOrganization member stored

/-- The seats of the other members. -/
def otherAssignedSeats (tables : Tables) (organizationId membershipId : String) : Nat :=
  tables.entitlements.countP fun entitlement =>
    isAssignedSeat organizationId entitlement && entitlement.membershipId ≠ membershipId

/-- The row that an assignment writes. -/
def assignedSeat (database : CloudDatabase) (subscription : BillingSubscriptionRow)
    (options : StripeOperatorSeatOptions) (timestamp : Int) : OperatorEntitlementRow :=
  let membershipId := trim options.membershipId
  let access := stripeEntitlementAccess subscription timestamp
  let existing := getOperatorEntitlement database membershipId options.organizationId
  { membershipId
    organizationId := options.organizationId
    state := access.state
    source := .stripe
    startsAt := timestamp
    endsAt := access.endsAt
    createdAt := (existing.map (·.createdAt)).getD timestamp
    updatedAt := timestamp }

/-- The transaction of `assignStripeOperatorSeat`. -/
def seatAssignment (database : CloudDatabase) (options : StripeOperatorSeatOptions)
    (timestamp : Int) : Except Failure (CloudDatabase × OperatorEntitlementRow) := do
  let membershipId := trim options.membershipId
  if isSeatTarget database.tables membershipId options.organizationId = false then
    .error .organizationAccessDenied
  else
    match getBillingSubscription database options.organizationId with
    | none => .error .billingSubscriptionRequired
    | some subscription =>
        if subscription.entitledSeats ≤
            otherAssignedSeats database.tables options.organizationId membershipId then
          .error .operatorSeatCapacity
        else do
          let database ← statement database
            (upsertEntitlement (assignedSeat database subscription options timestamp))
          let database ← recordAuditEvent database
            (seatAuditEvent options "billing.operator_seat.assigned" timestamp)
          match getOperatorEntitlement database membershipId options.organizationId with
          | none => .error (.error "Operator seat assignment could not be resolved")
          | some entitlement => .ok (database, entitlement)

def assignStripeOperatorSeat (database : CloudDatabase) (options : StripeOperatorSeatOptions) :
    Except Failure (CloudDatabase × OperatorEntitlementRow) := do
  let _ ← requireOrganizationAdmin database options.userId options.organizationId
  let timestamp ← stripeTimestamp options.now "seat assignment timestamp"
  seatAssignment database options timestamp

/-- The seat that a revocation takes back. -/
def isRevocable (options : StripeOperatorSeatOptions) (entitlement : OperatorEntitlementRow) : Bool :=
  entitlement.membershipId = trim options.membershipId &&
    isAssignedSeat options.organizationId entitlement

/-- The transaction of `revokeStripeOperatorSeat`; the membership is the primary
key, so at most one row changes. -/
def seatRevocation (database : CloudDatabase) (options : StripeOperatorSeatOptions)
    (timestamp : Int) : Except Failure (CloudDatabase × Option OperatorEntitlementRow) := do
  let changed := database.tables.entitlements.countP (isRevocable options)
  let database ← statement database (revokeWhere (isRevocable options) timestamp)
  if changed ≠ 1 then .ok (database, none)
  else
    let database ← recordAuditEvent database
      (seatAuditEvent options "billing.operator_seat.revoked" timestamp)
    .ok (database, getOperatorEntitlement database options.membershipId options.organizationId)

def revokeStripeOperatorSeat (database : CloudDatabase) (options : StripeOperatorSeatOptions) :
    Except Failure (CloudDatabase × Option OperatorEntitlementRow) := do
  let _ ← requireOrganizationAdmin database options.userId options.organizationId
  let timestamp ← stripeTimestamp options.now "seat revocation timestamp"
  seatRevocation database options timestamp

/-! ## What the seat operations write -/

section Specs

variable {database after : CloudDatabase} {options : StripeOperatorSeatOptions}

/-- An assignment finds a free seat and writes the row of the member. -/
theorem assignStripeOperatorSeat_ok {entitlement : OperatorEntitlementRow}
    (assigned : assignStripeOperatorSeat database options = .ok (after, entitlement)) :
    IsNonNegativeSafeInteger options.now ∧
      isSeatTarget database.tables (trim options.membershipId) options.organizationId = true ∧
      ∃ subscription, getBillingSubscription database options.organizationId = some subscription ∧
        otherAssignedSeats database.tables options.organizationId (trim options.membershipId) <
          subscription.entitledSeats ∧
        SameSeats (upsertEntitlement (assignedSeat database subscription options options.now)
          database.tables) after.tables := by
  obtain ⟨_, _, assigned⟩ := bind_ok.mp assigned
  obtain ⟨timestamp, valid, assigned⟩ := bind_ok.mp assigned
  obtain ⟨safe, rfl⟩ := stripeTimestamp_ok.mp valid
  simp only [seatAssignment] at assigned
  split at assigned
  · cases assigned
  · rename_i target
    split at assigned
    · cases assigned
    · rename_i subscription found
      split at assigned
      · cases assigned
      · rename_i free
        obtain ⟨stored, upsert, assigned⟩ := bind_ok.mp assigned
        obtain ⟨audited, audit, assigned⟩ := bind_ok.mp assigned
        have written := Store.execute_ok.mp upsert
        have recorded := recordAuditEvent_ok audit
        split at assigned
        · cases assigned
        · cases assigned
          refine ⟨safe, Bool.of_not_eq_false target, subscription, found, Int.not_le.mp free, ?_⟩
          rw [← written]
          exact .of_auditEvents recorded

/-- A revocation withdraws the seats it selects. -/
theorem revokeStripeOperatorSeat_ok {entitlement : Option OperatorEntitlementRow}
    (revoked : revokeStripeOperatorSeat database options = .ok (after, entitlement)) :
    SameSeats (revokeWhere (isRevocable options) options.now database.tables) after.tables := by
  obtain ⟨_, _, revoked⟩ := bind_ok.mp revoked
  obtain ⟨timestamp, valid, revoked⟩ := bind_ok.mp revoked
  obtain rfl := (stripeTimestamp_ok.mp valid).2
  obtain ⟨stored, update, revoked⟩ := bind_ok.mp revoked
  have written := Store.execute_ok.mp update
  split at revoked
  · cases revoked
    rw [written]
    exact .refl _
  · obtain ⟨audited, audit, returned⟩ := bind_ok.mp revoked
    have recorded := recordAuditEvent_ok audit
    cases returned
    rw [← written]
    exact .of_auditEvents recorded

end Specs

end NebulaCloud.Database
