import Mathlib.Data.List.Sort
import NebulaCloud.Database.Billing

namespace NebulaCloud.Organization

open NebulaCloud.Data NebulaCloud.Database NebulaCloud.Platform

/-! # The members of an organization

Their entitlements are listed under a state of their own, next to the one that is enforced. -/

/-! ## The listing -/

structure OrganizationAccessOptions where
  userId : String
  organizationId : String
deriving DecidableEq, Repr

structure DisplayedEntitlement where
  source : OperatorEntitlementSource
  state : OperatorEntitlementState
  endsAt : Option Int
deriving DecidableEq, Repr

structure OrganizationMemberSummary where
  membershipId : String
  userId : String
  name : String
  email : String
  role : String
  disabled : Bool
  joinedAt : Int
  operatorEntitlement : Option DisplayedEntitlement
deriving DecidableEq, Repr

structure OrganizationOperatorSeatSummary where
  purchased : Int
  assigned : Nat
  paymentState : PaymentState
  graceEndsAt : Option Int
deriving DecidableEq, Repr

structure OrganizationMembers where
  actorRole : String
  operatorSeats : Option OrganizationOperatorSeatSummary
  members : List OrganizationMemberSummary
deriving DecidableEq, Repr

/-- What only the listing reads of the tables of the authentication library. -/
structure Roster where
  users : List UserRow
  joinedAt : String → Int

/-- `CASE member.role WHEN 'owner' THEN 0 WHEN 'admin' THEN 1 ELSE 2 END`. -/
def roleRank (role : String) : Nat :=
  if role = "owner" then 0 else if role = "admin" then 1 else 2

/-- What `COLLATE NOCASE` compares: only letters of ASCII are folded. -/
def nocase (text : String) : String := String.ofList (text.toList.map Char.toLower)

/-- The `ORDER BY` of the listing. -/
def memberOrder (left right : OrganizationMemberSummary) : Prop :=
  roleRank left.role < roleRank right.role ∨ (roleRank left.role = roleRank right.role ∧
    (nocase left.name < nocase right.name ∨
      (nocase left.name = nocase right.name ∧ left.membershipId ≤ right.membershipId)))

instance : DecidableRel memberOrder := fun _ _ => inferInstanceAs (Decidable (_ ∨ _))

/-- The state that is listed; only a grace that is over is seen as such. -/
def displayedState (entitlement : OperatorEntitlementRow) (now : Int) : OperatorEntitlementState :=
  if entitlement.state = .grace ∧ ∃ endsAt ∈ entitlement.endsAt, endsAt ≤ now then .suspended else entitlement.state

def displayedEntitlement (tables : Tables) (membershipId : String) (now : Int) : Option DisplayedEntitlement :=
  (lookup (·.membershipId) tables.entitlements membershipId).map fun entitlement =>
    { source := entitlement.source, state := displayedState entitlement now, endsAt := entitlement.endsAt }

def memberSummary (roster : Roster) (tables : Tables) (now : Int) (member : MemberRow) (user : UserRow) :
    OrganizationMemberSummary where
  membershipId := member.id
  userId := member.userId
  name := user.name
  email := user.email
  role := member.role
  disabled := memberDisabled tables member.id
  joinedAt := roster.joinedAt member.id
  operatorEntitlement := displayedEntitlement tables member.id now

def seatSummary (tables : Tables) (organizationId : String) (now : Int) (subscription : BillingSubscriptionRow) :
    OrganizationOperatorSeatSummary where
  purchased := subscription.entitledSeats
  assigned := assignedSeats tables organizationId
  paymentState :=
    if subscription.paymentState = .grace ∧ ∃ graceEndsAt ∈ subscription.graceEndsAt, graceEndsAt ≤ now then
      .delinquent
    else subscription.paymentState
  graceEndsAt := subscription.graceEndsAt

def getOrganizationMembers (roster : Roster) (database : CloudDatabase) (options : OrganizationAccessOptions)
    (now : Int) : Except Failure OrganizationMembers := do
  let actorRole ← requireOrganizationAdmin database options.userId options.organizationId
  let members := database.tables.members.filter (·.organizationId = options.organizationId)
  let summaries := members.flatMap fun member =>
    (roster.users.filter (·.id = member.userId)).map (memberSummary roster database.tables now member)
  .ok
    { actorRole
      operatorSeats := (getBillingSubscription database options.organizationId).map
        (seatSummary database.tables options.organizationId now)
      members := summaries.insertionSort memberOrder }

/-! ## Who is let in -/

/-- The identifiers of members and organizations are generated, without spaces around them. -/
structure GeneratedIds (tables : Tables) : Prop where
  member : ∀ member ∈ tables.members, trim member.id = member.id
  organization : ∀ member ∈ tables.members, trim member.organizationId = member.organizationId

section Listing

variable {roster : Roster} {database : CloudDatabase} {options : OrganizationAccessOptions} {member : MemberRow}
  {summary : OrganizationMemberSummary} {listing : OrganizationMembers} {now : Int}

/-- A member is let in by its own entitlement, unless it is disabled. -/
theorem hasActiveOperatorEntitlement_member (generated : GeneratedIds database.tables)
    (clock : IsNonNegativeSafeInteger now) (stored : member ∈ database.tables.members) :
    hasActiveOperatorEntitlement database member.id member.organizationId now = true ↔
      memberDisabled database.tables member.id = false ∧
        ∃ entitlement ∈ database.tables.entitlements,
          entitlement.membershipId = member.id ∧ entitlement.ActiveAt now := by
  have distinct : (database.tables.members.map (·.id)).Nodup := database.consistent .memberId
  simp only [hasActiveOperatorEntitlement, generated.member member stored, generated.organization member stored,
    Bool.and_eq_true, decide_eq_true_eq, List.any_eq_true, Bool.not_eq_true']
  constructor
  · rintro ⟨-, entitlement, entitled, ⟨⟨same, -⟩, active⟩, owner, ownerStored, ⟨ownerId, -⟩, enabled⟩
    rw [← ownerId.trans same]
    exact ⟨enabled, entitlement, entitled, ownerId.symm, active⟩
  · rintro ⟨enabled, entitlement, entitled, same, active⟩
    obtain ⟨owner, ownerStored, ownerId, ownerOrganization⟩ :=
      database.consistent .entitlementOwner entitlement entitled
    obtain rfl := eq_of_key distinct ownerStored stored (ownerId.trans same)
    exact ⟨clock, entitlement, entitled, ⟨⟨same, ownerOrganization.symm⟩, active⟩, owner, ownerStored,
      ⟨ownerId, ownerOrganization⟩, enabled⟩

/-! ## Display and enforcement -/

/-- The listing says that the member has access. -/
def OrganizationMemberSummary.GivesAccess (summary : OrganizationMemberSummary) : Prop :=
  ∃ entitlement ∈ summary.operatorEntitlement, entitlement.state = .active ∨ entitlement.state = .grace

instance (summary : OrganizationMemberSummary) : Decidable summary.GivesAccess :=
  inferInstanceAs (Decidable (∃ entitlement ∈ summary.operatorEntitlement, _))

/-- Every enabled member is listed with access exactly if it is let in. -/
def DisplaysEnforced (database : CloudDatabase) (organizationId : String) (now : Int)
    (members : List OrganizationMemberSummary) : Prop :=
  ∀ summary ∈ members, summary.disabled = false →
    (summary.GivesAccess ↔
      hasActiveOperatorEntitlement database summary.membershipId organizationId now = true)

instance (database : CloudDatabase) (organizationId : String) (now : Int) (members : List OrganizationMemberSummary) :
    Decidable (DisplaysEnforced database organizationId now members) :=
  inferInstanceAs (Decidable (∀ summary ∈ members, _ → _))

/-- An entitlement that gives access has started, and has not ended unless in grace. -/
def Current (now : Int) (entitlement : OperatorEntitlementRow) : Prop :=
  (entitlement.state = .active ∨ entitlement.state = .grace → entitlement.startsAt ≤ now) ∧
    (entitlement.state = .active → ∀ endsAt ∈ entitlement.endsAt, now < endsAt)

instance (now : Int) (entitlement : OperatorEntitlementRow) : Decidable (Current now entitlement) :=
  inferInstanceAs (Decidable (_ ∧ _))

theorem displayedState_access {entitlement : OperatorEntitlementRow} :
    (displayedState entitlement now = .active ∨ displayedState entitlement now = .grace) ↔
      entitlement.state = .active ∨
        (entitlement.state = .grace ∧ ∀ endsAt ∈ entitlement.endsAt, now < endsAt) := by
  unfold displayedState
  split
  · rename_i lapsed
    obtain ⟨grace, endsAt, ends, past⟩ := lapsed
    have unended : ¬ ∀ endsAt ∈ entitlement.endsAt, now < endsAt :=
      fun later => absurd (later endsAt ends) (Int.not_lt.mpr past)
    simp only [grace, unended, and_false, or_false, reduceCtorEq]
  · rename_i kept
    by_cases grace : entitlement.state = .grace
    · have unended : ∀ endsAt ∈ entitlement.endsAt, now < endsAt := by
        intro endsAt ends
        by_contra past
        exact kept ⟨grace, endsAt, ends, Int.not_lt.mp past⟩
      simp only [grace, or_true, true_and, true_iff]
      exact .inr unended
    · simp [grace]

/-- The displayed state is the enforced one for the current entitlements alone. -/
theorem displayedState_iff {entitlement : OperatorEntitlementRow} (checks : entitlement.Checks) :
    ((displayedState entitlement now = .active ∨ displayedState entitlement now = .grace) ↔
      entitlement.ActiveAt now) ↔ Current now entitlement := by
  rw [displayedState_access]
  unfold Current OperatorEntitlementRow.ActiveAt
  cases state : entitlement.state with
  | active => simp
  | grace =>
      simp only [reduceCtorEq, false_or, true_and, forall_const, false_implies, and_true]
      constructor
      · intro agree
        by_contra early
        have unended : ∀ endsAt ∈ entitlement.endsAt, now < endsAt := by
          intro endsAt ends
          have later := checks.1 endsAt ends
          omega
        exact early (agree.mp unended).1
      · intro started
        simp only [started, true_and]
  | pending => simp
  | suspended => simp
  | revoked => simp

theorem mem_getOrganizationMembers (listed : getOrganizationMembers roster database options now = .ok listing) :
    summary ∈ listing.members ↔
      ∃ member ∈ database.tables.members, member.organizationId = options.organizationId ∧
        ∃ user ∈ roster.users, user.id = member.userId ∧
          memberSummary roster database.tables now member user = summary := by
  obtain ⟨actorRole, -, returned⟩ := bind_ok.mp listed
  cases returned
  simp only [List.mem_insertionSort, List.mem_flatMap, List.mem_filter, List.mem_map, decide_eq_true_eq, and_assoc]

/-- An enabled member is shown as it is treated exactly if its entitlement is current. -/
theorem displayed_member (generated : GeneratedIds database.tables) (clock : IsNonNegativeSafeInteger now)
    (stored : member ∈ database.tables.members) (enabled : memberDisabled database.tables member.id = false)
    (user : UserRow) :
    ((memberSummary roster database.tables now member user).GivesAccess ↔
      hasActiveOperatorEntitlement database member.id member.organizationId now = true) ↔
    ∀ entitlement ∈ database.tables.entitlements, entitlement.membershipId = member.id → Current now entitlement := by
  have distinct : (database.tables.entitlements.map (·.membershipId)).Nodup := database.consistent .entitlementMember
  rw [hasActiveOperatorEntitlement_member generated clock stored, enabled]
  cases found : lookup (·.membershipId) database.tables.entitlements member.id with
  | none =>
      have unentitled := lookup_eq_none.mp found
      have hidden : ¬ (memberSummary roster database.tables now member user).GivesAccess := by
        simp [OrganizationMemberSummary.GivesAccess, memberSummary, displayedEntitlement, found]
      have denied : ¬ ∃ entitlement ∈ database.tables.entitlements,
          entitlement.membershipId = member.id ∧ entitlement.ActiveAt now :=
        fun ⟨entitlement, entitled, same, _⟩ => unentitled entitlement entitled same
      simp only [hidden, denied, and_false, true_iff]
      exact fun entitlement entitled same => absurd same (unentitled entitlement entitled)
  | some entitlement =>
      obtain ⟨entitled, same⟩ := (lookup_eq_some distinct).mp found
      have only {other : OperatorEntitlementRow} (otherEntitled : other ∈ database.tables.entitlements)
          (otherSame : other.membershipId = member.id) : other = entitlement :=
        eq_of_key distinct otherEntitled entitled (otherSame.trans same.symm)
      have checks : entitlement.Checks := database.consistent .entitlementChecks entitlement entitled
      have shown : (memberSummary roster database.tables now member user).GivesAccess ↔
          displayedState entitlement now = .active ∨ displayedState entitlement now = .grace := by
        simp [OrganizationMemberSummary.GivesAccess, memberSummary, displayedEntitlement, found]
      have allowed : (∃ other ∈ database.tables.entitlements, other.membershipId = member.id ∧ other.ActiveAt now) ↔
          entitlement.ActiveAt now := by
        constructor
        · rintro ⟨other, otherEntitled, otherSame, active⟩
          rwa [only otherEntitled otherSame] at active
        · exact fun active => ⟨entitlement, entitled, same, active⟩
      rw [shown, allowed, eq_self, true_and, displayedState_iff checks]
      constructor
      · intro current other otherEntitled otherSame
        rwa [only otherEntitled otherSame]
      · exact fun current => current entitlement entitled same

/-- The listing shows what is enforced exactly if the entitlements of the enabled members
are current. -/
theorem displaysEnforced_iff (generated : GeneratedIds database.tables)
    (known : ∀ member ∈ database.tables.members, member.userId ∈ roster.users.map (·.id))
    (clock : IsNonNegativeSafeInteger now)
    (listed : getOrganizationMembers roster database options now = .ok listing) :
    DisplaysEnforced database options.organizationId now listing.members ↔
      ∀ member ∈ database.tables.members, member.organizationId = options.organizationId →
        memberDisabled database.tables member.id = false →
          ∀ entitlement ∈ database.tables.entitlements, entitlement.membershipId = member.id →
            Current now entitlement := by
  have each {member : MemberRow} (stored : member ∈ database.tables.members)
      (enabled : memberDisabled database.tables member.id = false) (user : UserRow) :=
    @displayed_member roster database member now generated clock stored enabled user
  constructor
  · intro displays member stored inOrganization enabled
    obtain ⟨user, isUser, sameUser⟩ := List.mem_map.mp (known member stored)
    have isListed := (mem_getOrganizationMembers listed).mpr
      ⟨member, stored, inOrganization, user, isUser, sameUser, rfl⟩
    have shown := displays _ isListed enabled
    rw [← inOrganization] at shown
    exact (each stored enabled user).mp shown
  · intro current summary isListed enabled
    obtain ⟨member, stored, inOrganization, user, -, -, rfl⟩ := (mem_getOrganizationMembers listed).mp isListed
    rw [← inOrganization]
    exact (each stored enabled user).mpr (current member stored inOrganization enabled)

end Listing

section Sample

def teamTables : Tables :=
  { Tables.empty with
    organizations := [⟨"acme"⟩]
    members := [⟨"m1", "ada", "acme", "owner"⟩, ⟨"m2", "bob", "acme", "member"⟩] }

theorem teamTables_accepted : schema.violated? teamTables = none := by decide

def team : CloudDatabase := Store.load teamTables teamTables_accepted

def teamRoster : Roster where
  users := [⟨"ada", "Ada", "ada@acme.example"⟩, ⟨"bob", "Bob", "bob@acme.example"⟩]
  joinedAt := fun _ => 1

/-- Beta access always has an end. -/
def betaAccess : UpsertOperatorEntitlementInput where
  membershipId := "m2"
  organizationId := "acme"
  state := .active
  source := .beta
  startsAt := 10
  endsAt := some 20
  now := 10

def betaTeam : CloudDatabase := (commit team (upsertOperatorEntitlement team betaAccess)).1

/-- An administrator gets a listing. -/
theorem getOrganizationMembers_betaTeam (now : Int) :
    ∃ listing, getOrganizationMembers teamRoster betaTeam ⟨"ada", "acme"⟩ now = .ok listing := by
  have admin : requireOrganizationAdmin betaTeam "ada" "acme" = .ok "owner" := by decide +kernel
  exact ⟨_, bind_ok.mpr ⟨"owner", admin, rfl⟩⟩

/-- Access that has ended is still listed. -/
theorem lapsedBeta_displayed :
    ∃ listing, getOrganizationMembers teamRoster betaTeam ⟨"ada", "acme"⟩ 25 = .ok listing ∧
      ¬ DisplaysEnforced betaTeam "acme" 25 listing.members := by
  obtain ⟨listing, listed⟩ := getOrganizationMembers_betaTeam 25
  have shown : (getOrganizationMembers teamRoster betaTeam ⟨"ada", "acme"⟩ 25).map (fun listing =>
      decide (DisplaysEnforced betaTeam "acme" 25 listing.members)) = .ok false := by decide +kernel
  rw [listed] at shown
  exact ⟨listing, listed, of_decide_eq_false (Except.ok.inj shown)⟩

theorem displaysEnforced_betaTeam :
    ∃ listing, getOrganizationMembers teamRoster betaTeam ⟨"ada", "acme"⟩ 15 = .ok listing ∧
      DisplaysEnforced betaTeam "acme" 15 listing.members := by
  obtain ⟨listing, listed⟩ := getOrganizationMembers_betaTeam 15
  have generated : GeneratedIds betaTeam.tables := ⟨by decide +kernel, by decide +kernel⟩
  exact ⟨listing, listed,
    (displaysEnforced_iff generated (by decide +kernel) (by decide) listed).mpr (by decide +kernel)⟩

end Sample

end NebulaCloud.Organization
