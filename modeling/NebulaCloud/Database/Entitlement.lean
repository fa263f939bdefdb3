import NebulaCloud.Data.Upsert
import NebulaCloud.Database.Membership

namespace NebulaCloud.Database

open NebulaCloud.Data NebulaCloud.Platform

/-! # Operator entitlements -/

def getOperatorEntitlement (database : CloudDatabase) (membershipId organizationId : String) :
    Option OperatorEntitlementRow :=
  database.tables.entitlements.find? fun entitlement =>
    entitlement.membershipId = trim membershipId &&
      entitlement.organizationId = trim organizationId

/-- The `WHERE` clause of `hasActiveOperatorEntitlement` on one entitlement. -/
def OperatorEntitlementRow.ActiveAt (entitlement : OperatorEntitlementRow) (timestamp : Int) : Prop :=
  (entitlement.state = .active ∨ entitlement.state = .grace) ∧ entitlement.startsAt ≤ timestamp ∧
    ∀ endsAt ∈ entitlement.endsAt, timestamp < endsAt

instance (entitlement : OperatorEntitlementRow) (timestamp : Int) :
    Decidable (entitlement.ActiveAt timestamp) :=
  inferInstanceAs (Decidable (_ ∧ _))

def hasActiveOperatorEntitlement (database : CloudDatabase) (membershipId organizationId : String)
    (timestamp : Int) : Bool :=
  decide (IsNonNegativeSafeInteger timestamp) &&
    database.tables.entitlements.any fun entitlement =>
      entitlement.membershipId = trim membershipId &&
        entitlement.organizationId = trim organizationId && entitlement.ActiveAt timestamp &&
        database.tables.members.any fun member =>
          member.id = entitlement.membershipId &&
            member.organizationId = entitlement.organizationId &&
            !memberDisabled database.tables member.id

/-- An enabled member is active exactly when the one entitlement row says so. -/
theorem hasActiveOperatorEntitlement_iff {database : CloudDatabase}
    {entitlement : OperatorEntitlementRow} {timestamp : Int}
    (stored : entitlement ∈ database.tables.entitlements)
    (membership : trim entitlement.membershipId = entitlement.membershipId)
    (organization : trim entitlement.organizationId = entitlement.organizationId)
    (enabled : memberDisabled database.tables entitlement.membershipId = false)
    (valid : IsNonNegativeSafeInteger timestamp) :
    hasActiveOperatorEntitlement database entitlement.membershipId entitlement.organizationId
        timestamp = true ↔ entitlement.ActiveAt timestamp := by
  simp only [hasActiveOperatorEntitlement, membership, organization, Bool.and_eq_true,
    decide_eq_true_eq, List.any_eq_true, valid, true_and]
  constructor
  · intro active
    obtain ⟨other, otherStored, ⟨⟨sameMember, _⟩, active⟩, _⟩ := active
    rwa [eq_of_key (database.consistent .entitlementMember) otherStored stored sameMember] at active
  · intro active
    obtain ⟨member, memberStored, memberId, memberOrganization⟩ :=
      database.consistent .entitlementOwner entitlement stored
    refine ⟨entitlement, stored, ⟨⟨rfl, rfl⟩, active⟩, member, memberStored,
      ⟨memberId, memberOrganization⟩, ?_⟩
    rw [memberId, enabled]
    rfl

structure UpsertOperatorEntitlementInput where
  membershipId : String
  organizationId : String
  state : OperatorEntitlementState
  source : OperatorEntitlementSource
  startsAt : Int
  endsAt : Option Int
  now : Int
deriving DecidableEq, Repr

/-- `INSERT INTO entitlement … ON CONFLICT(membership_id) DO UPDATE SET …`; the
creation time of a known row stays. -/
def upsertEntitlement (excluded : OperatorEntitlementRow) (tables : Tables) : Tables :=
  { tables with
    entitlements := (upsert (·.membershipId) (fun _ _ => true)
      (fun excluded stored => { excluded with createdAt := stored.createdAt }) excluded
      tables.entitlements).1 }

/-- The row that the upsert leaves for the membership. -/
def writtenEntitlement (excluded : OperatorEntitlementRow) (tables : Tables) :
    OperatorEntitlementRow :=
  { excluded with
    createdAt := ((lookup (·.membershipId) tables.entitlements excluded.membershipId).map
      (·.createdAt)).getD excluded.createdAt }

theorem upserted_eq_writtenEntitlement (excluded : OperatorEntitlementRow) (tables : Tables) :
    upserted (fun _ _ => true) (fun excluded stored => { excluded with createdAt := stored.createdAt })
      excluded (lookup (·.membershipId) tables.entitlements excluded.membershipId) =
      writtenEntitlement excluded tables := by
  unfold writtenEntitlement
  cases lookup (·.membershipId) tables.entitlements excluded.membershipId with
  | none => rfl
  | some stored => rfl

theorem mem_upsertEntitlement {tables : Tables} {excluded entitlement : OperatorEntitlementRow}
    (distinct : (tables.entitlements.map (·.membershipId)).Nodup) :
    entitlement ∈ (upsertEntitlement excluded tables).entitlements ↔
      entitlement = writtenEntitlement excluded tables ∨
        (entitlement ∈ tables.entitlements ∧ entitlement.membershipId ≠ excluded.membershipId) := by
  rw [← upserted_eq_writtenEntitlement]
  exact mem_upsert distinct

/-- The checks of `upsertOperatorEntitlement`. -/
def checkedEntitlement (database : CloudDatabase) (input : UpsertOperatorEntitlementInput) :
    Except Failure OperatorEntitlementRow :=
  let membershipId := trim input.membershipId
  let organizationId := trim input.organizationId
  if membershipId = "" ∨ organizationId = "" then .error (.error "Entitlement scope is required")
  else if ¬ IsNonNegativeSafeInteger input.startsAt then
    .error (.error "Entitlement start is invalid")
  else if ∃ endsAt ∈ input.endsAt, endsAt ≤ input.startsAt ∨ maxSafeInteger < endsAt then
    .error (.error "Entitlement end is invalid")
  else if input.source = .beta ∧ input.endsAt = none then
    .error (.error "Beta entitlements must expire")
  else if ¬ database.tables.MemberOf membershipId organizationId then
    .error (.error "Entitlement membership was not found")
  else if ¬ IsNonNegativeSafeInteger input.now then
    .error (.error "Entitlement update timestamp is invalid")
  else
    .ok
      { membershipId
        organizationId
        state := input.state
        source := input.source
        startsAt := input.startsAt
        endsAt := input.endsAt
        createdAt := input.now
        updatedAt := input.now }

def upsertOperatorEntitlement (database : CloudDatabase) (input : UpsertOperatorEntitlementInput) :
    Except Failure (CloudDatabase × OperatorEntitlementRow) := do
  let excluded ← checkedEntitlement database input
  let database ← statement database (upsertEntitlement excluded)
  match getOperatorEntitlement database excluded.membershipId excluded.organizationId with
  | none => .error (.error "Operator entitlement could not be resolved")
  | some entitlement => .ok (database, entitlement)

structure RevokeOperatorEntitlementInput where
  membershipId : String
  organizationId : String
  now : Int
deriving DecidableEq, Repr

/-- `UPDATE entitlement SET state = 'revoked', updated_at = ? WHERE …`. -/
def revokeWhere (selected : OperatorEntitlementRow → Bool) (timestamp : Int) (tables : Tables) :
    Tables :=
  { tables with
    entitlements := updateWhere selected
      (fun entitlement => { entitlement with state := .revoked, updatedAt := timestamp })
      tables.entitlements }

def revokeOperatorEntitlement (database : CloudDatabase) (input : RevokeOperatorEntitlementInput) :
    Except Failure (CloudDatabase × Option OperatorEntitlementRow) := do
  let database ← statement database (revokeWhere
    (fun entitlement => entitlement.membershipId = trim input.membershipId &&
      entitlement.organizationId = trim input.organizationId) input.now)
  .ok (database, getOperatorEntitlement database input.membershipId input.organizationId)

theorem checkedEntitlement_ok {database : CloudDatabase} {input : UpsertOperatorEntitlementInput}
    {excluded : OperatorEntitlementRow} (checked : checkedEntitlement database input = .ok excluded) :
    excluded.membershipId = trim input.membershipId ∧ excluded.source = input.source := by
  simp only [checkedEntitlement] at checked
  split at checked
  · cases checked
  · split at checked
    · cases checked
    · split at checked
      · cases checked
      · split at checked
        · cases checked
        · split at checked
          · cases checked
          · split at checked
            · cases checked
            · cases checked
              exact ⟨rfl, rfl⟩

/-- A successful upsert writes the row that passed the checks. -/
theorem upsertOperatorEntitlement_ok {database after : CloudDatabase}
    {input : UpsertOperatorEntitlementInput} {entitlement : OperatorEntitlementRow}
    (upserted : upsertOperatorEntitlement database input = .ok (after, entitlement)) :
    ∃ excluded, excluded.membershipId = trim input.membershipId ∧ excluded.source = input.source ∧
      after.tables = upsertEntitlement excluded database.tables := by
  obtain ⟨excluded, checked, upserted⟩ := bind_ok.mp upserted
  obtain ⟨stored, write, upserted⟩ := bind_ok.mp upserted
  have written := Store.execute_ok.mp write
  obtain ⟨membership, source⟩ := checkedEntitlement_ok checked
  split at upserted
  · cases upserted
  · cases upserted
    exact ⟨excluded, membership, source, written⟩

theorem revokeOperatorEntitlement_ok {database after : CloudDatabase}
    {input : RevokeOperatorEntitlementInput} {entitlement : Option OperatorEntitlementRow}
    (revoked : revokeOperatorEntitlement database input = .ok (after, entitlement)) :
    ∃ selected, after.tables = revokeWhere selected input.now database.tables := by
  obtain ⟨stored, write, returned⟩ := bind_ok.mp revoked
  have written := Store.execute_ok.mp write
  cases returned
  exact ⟨_, written⟩

end NebulaCloud.Database
