import NebulaCloud.Data.System
import NebulaCloud.Database.Deletion
import NebulaCloud.Database.Invoice
import NebulaCloud.Database.Seats

namespace NebulaCloud.Billing

open NebulaCloud.Data NebulaCloud.Database NebulaCloud.Platform

/-! # Paid seats are never oversold -/

inductive SeatOperation
  | projectBilling (input : StripeBillingProjectionInput)
  | projectInvoice (input : StripeInvoiceProjectionInput)
  | assignSeat (options : StripeOperatorSeatOptions)
  | revokeSeat (options : StripeOperatorSeatOptions)
  | upsertEntitlement (input : UpsertOperatorEntitlementInput)
  | revokeEntitlement (input : RevokeOperatorEntitlementInput)
  | deleteMember (memberId : String) (now : Int)
deriving DecidableEq, Repr

def perform (database : CloudDatabase) : SeatOperation → CloudDatabase
  | .projectBilling input => (applyStripeBillingProjection database input).1
  | .projectInvoice input => (applyStripeInvoiceProjection database input).1
  | .assignSeat options => (commit database (assignStripeOperatorSeat database options)).1
  | .revokeSeat options => (commit database (revokeStripeOperatorSeat database options)).1
  | .upsertEntitlement input => (commit database (upsertOperatorEntitlement database input)).1
  | .revokeEntitlement input => (commit database (revokeOperatorEntitlement database input)).1
  | .deleteMember memberId now => autocommit database (deleteMember database memberId now)

/-- The HTTP validator admits no other source for an administrative entitlement. -/
def SeatOperation.Admitted : SeatOperation → Prop
  | .upsertEntitlement input => input.source = .beta ∨ input.source = .admin
  | _ => True

instance (operation : SeatOperation) : Decidable operation.Admitted :=
  match operation with
  | .upsertEntitlement _ => inferInstanceAs (Decidable (_ ∨ _))
  | .projectBilling _ | .projectInvoice _ | .assignSeat _ | .revokeSeat _ | .revokeEntitlement _
  | .deleteMember _ _ => inferInstanceAs (Decidable True)

/-- Better Auth generates the identifiers of organizations, so that trimming keeps
them. -/
def TrimmedOrganizations (tables : Tables) : Prop :=
  ∀ organizationId ∈ tables.organizationIds, trim organizationId = organizationId

instance (tables : Tables) : Decidable (TrimmedOrganizations tables) :=
  inferInstanceAs (Decidable (∀ organizationId ∈ tables.organizationIds, _))

/-- No entitlement occupies a paid seat. -/
def NoSeats (tables : Tables) : Prop :=
  ∀ entitlement ∈ tables.entitlements, ¬ (entitlement.source = .stripe ∧ entitlement.state ≠ .revoked)

instance (tables : Tables) : Decidable (NoSeats tables) :=
  inferInstanceAs (Decidable (∀ entitlement ∈ tables.entitlements, _))

def seats : System CloudDatabase SeatOperation where
  Initial database := TrimmedOrganizations database.tables ∧ NoSeats database.tables
  Enabled _ operation := operation.Admitted
  step := perform

/-- The seats that the subscription of the organization pays for. -/
def entitledSeats (tables : Tables) (organizationId : String) : Int :=
  ((lookup (·.organizationId) tables.subscriptions organizationId).map (·.entitledSeats)).getD 0

structure SeatInvariant (tables : Tables) : Prop where
  trimmed : TrimmedOrganizations tables
  covered : ∀ organizationId,
    (assignedSeats tables organizationId : Int) ≤ entitledSeats tables organizationId

/-- The entitlements that were revoked in `before` still are. -/
def StillRevoked (before tables : Tables) : Prop :=
  ∀ revoked ∈ before.entitlements, revoked.state = .revoked →
    ∀ entitlement ∈ tables.entitlements, entitlement.membershipId = revoked.membershipId →
      entitlement.state = .revoked

section Steps

variable {before tables after : Tables}

theorem entitledSeats_nonneg (database : CloudDatabase) (organizationId : String) :
    0 ≤ entitledSeats database.tables organizationId := by
  unfold entitledSeats
  cases found : lookup (·.organizationId) database.tables.subscriptions organizationId with
  | none => simp
  | some subscription => exact (database.consistent .subscriptionChecks _ (lookup_mem found)).1

theorem stripeEntitlementAccess_state (subscription : BillingSubscriptionRow) (now : Int) :
    (stripeEntitlementAccess subscription now).state ≠ .revoked := by
  unfold stripeEntitlementAccess
  split
  · nofun
  · split
    · nofun
    · nofun

/-- Refreshing the seats neither adds nor frees one. -/
theorem assignedSeats_reconciled (subscription : BillingSubscriptionRow) (now : Int)
    (organizationId : String) :
    assignedSeats (reconciled subscription now tables) organizationId =
      assignedSeats tables organizationId := by
  apply countP_updateWhere_of_iff
  intro entitlement _ seat
  have granted := stripeEntitlementAccess_state subscription now
  have occupied := (isAssignedSeat_iff.mp seat).2.2
  rw [Bool.eq_iff_iff, isAssignedSeat_iff, isAssignedSeat_iff]
  simp only [OperatorEntitlementRow.granted, ne_eq, granted, occupied]

/-- A subscription snapshot sets the seats of its own organization, and only when
it is newer than the stored one. -/
theorem entitledSeats_upsertSubscription (candidate : BillingSubscriptionRow) (organizationId : String) :
    entitledSeats (upsertSubscription candidate tables).1 organizationId =
        entitledSeats tables organizationId ∨
      (organizationId = candidate.organizationId ∧
        entitledSeats (upsertSubscription candidate tables).1 organizationId =
          candidate.entitledSeats) := by
  unfold entitledSeats
  rw [lookup_upsertSubscription]
  split
  · rename_i same
    cases stored : lookup (·.organizationId) tables.subscriptions organizationId with
    | none => exact .inr ⟨same.symm, rfl⟩
    | some subscription =>
        simp only [upserted]
        split
        · exact .inr ⟨same.symm, rfl⟩
        · exact .inl rfl
  · exact .inl rfl

/-- Invoices leave the seats of every organization as they are. -/
theorem entitledSeats_invoiceSubscription (invoiced : BillingSubscriptionRow)
    (organizationId : String) :
    entitledSeats (invoiceSubscription invoiced tables) organizationId =
      entitledSeats tables organizationId := by
  unfold entitledSeats
  rw [lookup_invoiceSubscription]
  cases lookup (·.organizationId) tables.subscriptions organizationId with
  | none => rfl
  | some subscription =>
      simp only [Option.map_some]
      split
      · rfl
      · rfl

/-- An assignment fills one seat of its organization and none of another. -/
theorem assignedSeats_upsertEntitlement (database : CloudDatabase)
    (excluded : OperatorEntitlementRow) (organizationId : String) :
    assignedSeats (upsertEntitlement excluded database.tables) organizationId =
      otherAssignedSeats database.tables organizationId excluded.membershipId +
        if isAssignedSeat organizationId excluded = true then 1 else 0 := by
  have written : isAssignedSeat organizationId (writtenEntitlement excluded database.tables) =
      isAssignedSeat organizationId excluded := rfl
  have others : (database.tables.entitlements.countP fun entitlement =>
      isAssignedSeat organizationId entitlement &&
        !decide (entitlement.membershipId = excluded.membershipId)) =
      otherAssignedSeats database.tables organizationId excluded.membershipId := by
    apply List.countP_congr
    intro entitlement _
    simp
  rw [assignedSeats, upsertEntitlement, countP_upsert (database.consistent .entitlementMember),
    upserted_eq_writtenEntitlement, written, others]

theorem SeatInvariant.of_sameSeats (same : SameSeats before after) (invariant : SeatInvariant before) :
    SeatInvariant after := by
  obtain ⟨_, _, _, rfl⟩ := same
  exact ⟨invariant.trimmed, invariant.covered⟩

theorem SeatInvariant.reconciled (invariant : SeatInvariant tables)
    (subscription : BillingSubscriptionRow) (now : Int) :
    SeatInvariant (reconciled subscription now tables) where
  trimmed := invariant.trimmed
  covered organizationId := by
    rw [assignedSeats_reconciled]
    exact invariant.covered organizationId

theorem SeatInvariant.projectSubscription {database after : CloudDatabase}
    {source : ProjectionSource} {input : BillingSubscriptionInput}
    {subscription : BillingSubscriptionRow} {applied : Bool}
    (projected : projectBillingSubscription database source input =
      .ok (after, subscription, applied)) (invariant : SeatInvariant database.tables) :
    SeatInvariant after.tables := by
  obtain ⟨candidate, accepted, enough, _, written, _⟩ := projectBillingSubscription_ok projected
  obtain ⟨organization, quantity, _⟩ := billingSubscriptionCandidate_ok accepted
  have upserted : SeatInvariant (upsertSubscription candidate database.tables).1 := by
    refine ⟨invariant.trimmed, ?_⟩
    intro organizationId
    have covered := invariant.covered organizationId
    rcases entitledSeats_upsertSubscription candidate organizationId with kept | ⟨own, renewed⟩
    · rw [kept]
      exact covered
    · rw [renewed, quantity, own, organization]
      exact enough
  rw [written]
  exact upserted.reconciled subscription source.updatedAt

theorem SeatInvariant.projectInvoice {database after : CloudDatabase}
    {invoiced updated : BillingSubscriptionRow} {processedAt : Int}
    (projected : projectInvoice database invoiced processedAt = .ok (after, updated))
    (invariant : SeatInvariant database.tables) : SeatInvariant after.tables := by
  have rewritten : SeatInvariant (invoiceSubscription invoiced database.tables) := by
    refine ⟨invariant.trimmed, ?_⟩
    intro organizationId
    rw [entitledSeats_invoiceSubscription]
    exact invariant.covered organizationId
  rw [(projectInvoice_ok projected).2]
  exact rewritten.reconciled updated processedAt

theorem otherAssignedSeats_le (tables : Tables) (organizationId membershipId : String) :
    otherAssignedSeats tables organizationId membershipId ≤ assignedSeats tables organizationId := by
  apply List.countP_mono_left
  intro entitlement _ other
  exact (Bool.and_eq_true_iff.mp other).1

theorem SeatInvariant.assignSeat {database after : CloudDatabase}
    {options : StripeOperatorSeatOptions} {entitlement : OperatorEntitlementRow}
    (assigned : assignStripeOperatorSeat database options = .ok (after, entitlement))
    (invariant : SeatInvariant database.tables) : SeatInvariant after.tables := by
  obtain ⟨_, target, subscription, found, free, written⟩ := assignStripeOperatorSeat_ok assigned
  apply SeatInvariant.of_sameSeats written
  refine ⟨invariant.trimmed, ?_⟩
  intro organizationId
  rw [assignedSeats_upsertEntitlement]
  have others := otherAssignedSeats_le database.tables organizationId (trim options.membershipId)
  have covered := invariant.covered organizationId
  have sameSeats : entitledSeats (upsertEntitlement
      (assignedSeat database subscription options options.now) database.tables) organizationId =
      entitledSeats database.tables organizationId := rfl
  rw [sameSeats]
  split
  · rename_i own
    have organization : options.organizationId = organizationId := (isAssignedSeat_iff.mp own).1
    have trimmed := invariant.trimmed organizationId (organization ▸ organization_of_isSeatTarget target)
    have seatsOfSubscription : entitledSeats database.tables organizationId =
        subscription.entitledSeats := by
      rw [getBillingSubscription, organization, trimmed] at found
      rw [entitledSeats, found]
      rfl
    rw [organization] at free
    rw [seatsOfSubscription]
    change ((otherAssignedSeats database.tables organizationId (trim options.membershipId) + 1 : Nat) :
      Int) ≤ subscription.entitledSeats
    omega
  · change ((otherAssignedSeats database.tables organizationId (trim options.membershipId) + 0 : Nat) :
      Int) ≤ entitledSeats database.tables organizationId
    omega

theorem SeatInvariant.revokeWhere (invariant : SeatInvariant tables)
    (selected : OperatorEntitlementRow → Bool) (now : Int) :
    SeatInvariant (revokeWhere selected now tables) where
  trimmed := invariant.trimmed
  covered organizationId := by
    have fewer : assignedSeats (Database.revokeWhere selected now tables) organizationId ≤
        assignedSeats tables organizationId := by
      apply countP_updateWhere_le
      intro entitlement _ _ seat
      exact absurd rfl (isAssignedSeat_iff.mp seat).2.2
    have covered := invariant.covered organizationId
    change (assignedSeats (Database.revokeWhere selected now tables) organizationId : Int) ≤
      entitledSeats tables organizationId
    omega

/-- An administrative entitlement occupies no paid seat. -/
theorem SeatInvariant.upsertEntitlement {database : CloudDatabase}
    {excluded : OperatorEntitlementRow} (free : excluded.source ≠ .stripe)
    (invariant : SeatInvariant database.tables) :
    SeatInvariant (upsertEntitlement excluded database.tables) where
  trimmed := invariant.trimmed
  covered organizationId := by
    have noSeat : isAssignedSeat organizationId excluded = false := by
      by_contra seat
      exact free (isAssignedSeat_iff.mp (Bool.of_not_eq_false seat)).2.1
    have others := otherAssignedSeats_le database.tables organizationId excluded.membershipId
    have covered := invariant.covered organizationId
    rw [assignedSeats_upsertEntitlement, noSeat]
    change ((otherAssignedSeats database.tables organizationId excluded.membershipId + 0 : Nat) :
      Int) ≤ entitledSeats database.tables organizationId
    omega

theorem SeatInvariant.deleteMembers (invariant : SeatInvariant tables)
    (doomed : MemberRow → Bool) (now : Int) : SeatInvariant (deleteMembers doomed now tables) where
  trimmed := invariant.trimmed
  covered organizationId := by
    have fewer : assignedSeats (Database.deleteMembers doomed now tables) organizationId ≤
        assignedSeats tables organizationId := List.filter_sublist.countP_le
    have covered := invariant.covered organizationId
    change (assignedSeats (Database.deleteMembers doomed now tables) organizationId : Int) ≤
      entitledSeats tables organizationId
    omega

/-- Every operation keeps the seats covered. -/
theorem SeatInvariant.perform {database : CloudDatabase} {operation : SeatOperation}
    (admitted : operation.Admitted) (invariant : SeatInvariant database.tables) :
    SeatInvariant (perform database operation).tables := by
  cases operation with
  | projectBilling input =>
      rw [Billing.perform]
      exact applyStripeBillingProjection_preserves SeatInvariant (fun _ _ => .of_sameSeats)
        (fun _ _ _ _ _ _ _ _ projected => .projectSubscription projected) invariant
  | projectInvoice input =>
      rw [Billing.perform]
      exact applyStripeInvoiceProjection_preserves SeatInvariant (fun _ _ => .of_sameSeats)
        (fun _ _ _ _ _ _ projected => .projectInvoice projected) invariant
  | assignSeat options =>
      exact commit_keeps SeatInvariant invariant fun _ _ assigned => invariant.assignSeat assigned
  | revokeSeat options =>
      apply commit_keeps SeatInvariant invariant
      intro after _ revoked
      exact .of_sameSeats (revokeStripeOperatorSeat_ok revoked) (invariant.revokeWhere _ _)
  | upsertEntitlement input =>
      apply commit_keeps SeatInvariant invariant
      intro after _ upserted
      obtain ⟨excluded, _, source, written⟩ := upsertOperatorEntitlement_ok upserted
      have free : excluded.source ≠ .stripe := by
        rw [source]
        rcases admitted with beta | admin
        · simp [beta]
        · simp [admin]
      rw [written]
      exact invariant.upsertEntitlement free
  | revokeEntitlement input =>
      apply commit_keeps SeatInvariant invariant
      intro after _ revoked
      obtain ⟨selected, written⟩ := revokeOperatorEntitlement_ok revoked
      rw [written]
      exact invariant.revokeWhere selected input.now
  | deleteMember memberId now =>
      simp only [Billing.perform, autocommit]
      split
      · rename_i after deleted
        rw [Store.execute_ok.mp deleted]
        exact invariant.deleteMembers _ now
      · exact invariant

/-! ## Revocation -/

theorem StillRevoked.of_sameSeats {middle : Tables} (same : SameSeats middle after)
    (still : StillRevoked before middle) : StillRevoked before after := by
  obtain ⟨_, _, _, rfl⟩ := same
  exact still

/-- A statement that changes no membership and gives a revoked entitlement no other
state keeps every revocation. -/
theorem StillRevoked.updateWhere {middle : Tables} {selected : OperatorEntitlementRow → Bool}
    {change : OperatorEntitlementRow → OperatorEntitlementRow}
    (sameMember : ∀ entitlement, (change entitlement).membershipId = entitlement.membershipId)
    (keeps : ∀ entitlement, selected entitlement = true → entitlement.state = .revoked →
      (change entitlement).state = .revoked)
    (still : StillRevoked before middle) :
    StillRevoked before { middle with
      entitlements := updateWhere selected change middle.entitlements } := by
  intro revoked stored state entitlement member same
  obtain ⟨current, currentMember, rfl⟩ := mem_updateWhere.mp member
  split
  · rename_i chosen
    rw [if_pos chosen, sameMember] at same
    exact keeps current chosen (still revoked stored state current currentMember same)
  · rename_i kept
    rw [if_neg kept] at same
    exact still revoked stored state current currentMember same

theorem StillRevoked.reconciled {middle : Tables} (still : StillRevoked before middle)
    (subscription : BillingSubscriptionRow) (now : Int) :
    StillRevoked before (reconciled subscription now middle) := by
  unfold Database.reconciled
  refine StillRevoked.updateWhere ?_ ?_ still
  · intro entitlement
    rfl
  · intro entitlement seat revoked
    exact absurd revoked (isAssignedSeat_iff.mp seat).2.2

theorem StillRevoked.revokeWhere {middle : Tables} (still : StillRevoked before middle)
    (selected : OperatorEntitlementRow → Bool) (now : Int) :
    StillRevoked before (revokeWhere selected now middle) :=
  StillRevoked.updateWhere (fun _ => rfl) (fun _ _ _ => rfl) still

theorem StillRevoked.refl (database : CloudDatabase) :
    StillRevoked database.tables database.tables := by
  intro revoked stored state entitlement member same
  rwa [eq_of_key (database.consistent .entitlementMember) member stored same]

/-- A written entitlement is the only one of its membership that may come back. -/
theorem revoked_of_upsertEntitlement {database : CloudDatabase}
    {excluded revoked entitlement : OperatorEntitlementRow}
    (stored : revoked ∈ database.tables.entitlements) (state : revoked.state = .revoked)
    (member : entitlement ∈ (upsertEntitlement excluded database.tables).entitlements)
    (same : entitlement.membershipId = revoked.membershipId) (active : entitlement.state ≠ .revoked) :
    excluded.membershipId = revoked.membershipId := by
  rcases (mem_upsertEntitlement (database.consistent .entitlementMember)).mp member with
    written | ⟨kept, _⟩
  · rw [← same, written]
    rfl
  · exact absurd (StillRevoked.refl database revoked stored state entitlement kept same) active

/-- The operations that may bring an entitlement back. -/
def Reinstates (membershipId : String) : SeatOperation → Prop
  | .assignSeat options => trim options.membershipId = membershipId
  | .upsertEntitlement input => trim input.membershipId = membershipId
  | _ => False

theorem reinstates_of_perform {database : CloudDatabase} {operation : SeatOperation}
    {revoked entitlement : OperatorEntitlementRow}
    (stored : revoked ∈ database.tables.entitlements) (state : revoked.state = .revoked)
    (member : entitlement ∈ (perform database operation).tables.entitlements)
    (same : entitlement.membershipId = revoked.membershipId) (active : entitlement.state ≠ .revoked) :
    Reinstates revoked.membershipId operation := by
  have start := StillRevoked.refl database
  have settled : ∀ after : Tables, StillRevoked database.tables after →
      entitlement ∉ after.entitlements :=
    fun after still member => active (still revoked stored state entitlement member same)
  cases operation with
  | projectBilling input =>
      refine absurd member (settled _ ?_)
      rw [perform]
      refine applyStripeBillingProjection_preserves (StillRevoked database.tables) (fun _ _ => .of_sameSeats) ?_ start
      intro _ _ _ _ subscription _ _ _ projected still
      obtain ⟨candidate, _, _, _, written, _⟩ := projectBillingSubscription_ok projected
      rw [written]
      exact StillRevoked.reconciled still subscription _
  | projectInvoice input =>
      refine absurd member (settled _ ?_)
      rw [perform]
      refine applyStripeInvoiceProjection_preserves (StillRevoked database.tables) (fun _ _ => .of_sameSeats) ?_ start
      intro _ _ _ _ updated _ projected still
      rw [(projectInvoice_ok projected).2]
      exact StillRevoked.reconciled still updated _
  | assignSeat options =>
      cases assigned : assignStripeOperatorSeat database options with
      | error failure =>
          simp only [perform, assigned, commit_error] at member
          exact absurd member (settled _ start)
      | ok result =>
          obtain ⟨after, row⟩ := result
          simp only [perform, assigned, commit_ok] at member
          obtain ⟨_, _, subscription, _, _, _, _, _, written⟩ := assignStripeOperatorSeat_ok assigned
          rw [written] at member
          exact revoked_of_upsertEntitlement stored state member same active
  | revokeSeat options =>
      refine absurd member (settled _ ?_)
      apply commit_keeps (StillRevoked database.tables) start
      intro after _ withdrawn
      exact .of_sameSeats (revokeStripeOperatorSeat_ok withdrawn) (start.revokeWhere _ _)
  | upsertEntitlement input =>
      cases upserted : upsertOperatorEntitlement database input with
      | error failure =>
          simp only [perform, upserted, commit_error] at member
          exact absurd member (settled _ start)
      | ok result =>
          obtain ⟨after, row⟩ := result
          simp only [perform, upserted, commit_ok] at member
          obtain ⟨excluded, membership, _, written⟩ := upsertOperatorEntitlement_ok upserted
          rw [written] at member
          exact membership.symm.trans
            (revoked_of_upsertEntitlement stored state member same active)
  | revokeEntitlement input =>
      refine absurd member (settled _ ?_)
      apply commit_keeps (StillRevoked database.tables) start
      intro after _ withdrawn
      obtain ⟨selected, written⟩ := revokeOperatorEntitlement_ok withdrawn
      rw [written]
      exact start.revokeWhere selected input.now
  | deleteMember memberId now =>
      refine absurd member (settled _ ?_)
      simp only [perform, autocommit]
      split
      · rename_i after deleted
        rw [Store.execute_ok.mp deleted]
        intro other otherStored otherState kept keptMember
        exact start other otherStored otherState kept (List.mem_of_mem_filter keptMember)
      · exact start

end Steps

theorem SeatInvariant.of_reachable {database : CloudDatabase} (reachable : seats.Reachable database) :
    SeatInvariant database.tables := by
  apply reachable.invariant fun database : CloudDatabase => SeatInvariant database.tables
  · intro database initial
    refine ⟨initial.1, ?_⟩
    intro organizationId
    have none : assignedSeats database.tables organizationId = 0 := by
      rw [assignedSeats, List.countP_eq_zero]
      intro entitlement stored seat
      exact initial.2 entitlement stored (isAssignedSeat_iff.mp seat).2
    rw [none]
    exact entitledSeats_nonneg database organizationId
  · intro database operation admitted invariant
    exact invariant.perform admitted

/-- In every reachable state each organization has at most as many paid seats taken
as its subscription pays for, and a revoked entitlement comes back only through an
assignment or an administrative upsert of its membership. -/
theorem seatsCovered_of_reachable {database : CloudDatabase} (reachable : seats.Reachable database) :
    (∀ organizationId, (assignedSeats database.tables organizationId : Int) ≤
      entitledSeats database.tables organizationId) ∧
    ∀ operation, operation.Admitted → ∀ revoked ∈ database.tables.entitlements,
      revoked.state = .revoked → ∀ entitlement ∈ (perform database operation).tables.entitlements,
      entitlement.membershipId = revoked.membershipId → entitlement.state ≠ .revoked →
      Reinstates revoked.membershipId operation := by
  have invariant := SeatInvariant.of_reachable reachable
  exact ⟨invariant.covered, fun _ _ _ stored state _ member same active =>
    reinstates_of_perform stored state member same active⟩

section Sample

def customerTeamTables : Tables :=
  { Tables.empty with
    organizations := [⟨"acme"⟩]
    members := [⟨"m1", "ada", "acme", "owner"⟩, ⟨"m2", "bob", "acme", "member"⟩] }

theorem customerTeam_accepted : schema.violated? customerTeamTables = none := by decide

/-- An organization with an owner and a member, before its first subscription. -/
def customerTeam : CloudDatabase := Store.load customerTeamTables customerTeam_accepted

def subscriptionEvent (stripeEventId : String) (eventCreatedAt entitledSeats now : Int) :
    StripeBillingProjectionInput where
  event := ⟨stripeEventId, "customer.subscription.updated", eventCreatedAt, now⟩
  organizationId := "acme"
  customer := none
  subscription := some ⟨"sub_1", "price_1", "active", entitledSeats, false, none⟩
  now := now

def seatFor (membershipId auditEventId : String) (now : Int) : StripeOperatorSeatOptions where
  userId := "ada"
  organizationId := "acme"
  membershipId := membershipId
  eventId := auditEventId
  now := now

def firstSeats : List SeatOperation :=
  [.projectBilling (subscriptionEvent "evt_1" 10 2 20), .assignSeat (seatFor "m1" "audit-1" 30),
    .assignSeat (seatFor "m2" "audit-2" 31), .revokeSeat (seatFor "m1" "audit-3" 40)]

theorem seatsCovered_firstSeats :
    assignedSeats (seats.run customerTeam firstSeats).tables "acme" = 1 ∧
      entitledSeats (seats.run customerTeam firstSeats).tables "acme" = 2 ∧
      (assignedSeats (seats.run customerTeam firstSeats).tables "acme" : Int) ≤
        entitledSeats (seats.run customerTeam firstSeats).tables "acme" := by
  have start : seats.Reachable customerTeam := .initial ⟨by decide, by decide⟩
  have reachable : seats.Reachable (seats.run customerTeam firstSeats) :=
    start.run ⟨trivial, trivial, trivial, trivial, trivial⟩
  have counted : assignedSeats (seats.run customerTeam firstSeats).tables "acme" = 1 ∧
      entitledSeats (seats.run customerTeam firstSeats).tables "acme" = 2 := by decide +kernel
  exact ⟨counted.1, counted.2, (seatsCovered_of_reachable reachable).1 "acme"⟩

end Sample

end NebulaCloud.Billing
