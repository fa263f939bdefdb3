import NebulaCloud.Access.Gateway
import NebulaCloud.Data.History
import NebulaCloud.Organization.AdministrationRequests

namespace NebulaCloud.Organization

open NebulaCloud.Data NebulaCloud.Database NebulaCloud.Platform NebulaCloud.Access
open NebulaCloud.Provisioning (OneMembership)

/-! # Who belongs to an organization

Nobody gets in, up or out by the administration's own requests, but through a current
join code and through the administrators. -/

/-- An enabled administrator of a member's organization, who is somebody else. -/
def Administers (tables : Tables) (userId : String) (member : MemberRow) : Prop :=
  userId ≠ member.userId ∧ ∃ admin ∈ tables.members, admin.userId = userId ∧
    admin.organizationId = member.organizationId ∧ isAdminRole admin.role = true ∧
    memberDisabled tables admin.id = false

instance (tables : Tables) (userId : String) (member : MemberRow) : Decidable (Administers tables userId member) :=
  inferInstanceAs (Decidable (_ ∧ ∃ admin ∈ tables.members, _))

/-- An administrator asks that a member who is no owner be disabled or enabled. -/
def Sets (database : AdministrationDatabase) (member : MemberRow) (disabled : Bool) : AdministrationRequest → Prop
  | .setMemberDisabled options _ =>
      options.membershipId = member.id ∧ options.disabled = disabled ∧ member.role ≠ "owner" ∧
        Administers database.tables.cloud.tables options.userId member
  | _ => False

instance (database : AdministrationDatabase) (member : MemberRow) (disabled : Bool) (request : AdministrationRequest) :
    Decidable (Sets database member disabled request) :=
  match request with
  | .setMemberDisabled _ _ => inferInstanceAs (Decidable (_ ∧ _))
  | .rotateJoinCode _ _ | .join _ _ _ _ | .updateOrganization _ _ | .createPlanAccount _ | .elsewhere _ =>
      inferInstanceAs (Decidable False)

section Steps

variable {hmac toUpperCase : String → String} {database : AdministrationDatabase}
  {request : AdministrationRequest} {requests : List AdministrationRequest} {member : MemberRow}

/-- A user presents a current join code of an organization that it is not in. -/
def Admits (hmac toUpperCase : String → String) (database : AdministrationDatabase)
    (request : AdministrationRequest) (member : MemberRow) : Prop :=
  ∃ userId code createId stamp resolved, request = .join userId code createId stamp ∧
    resolveCode hmac toUpperCase database code = some resolved ∧
    findMembership database.tables.cloud.tables userId resolved.organizationId = none ∧
    member = joinedMember ⟨userId, resolved.organizationId, createId, stamp.now⟩

theorem requireOrganizationAdmin_ok {cloud : CloudDatabase} {userId organizationId role : String}
    (admin : requireOrganizationAdmin cloud userId organizationId = .ok role) :
    ∃ actor ∈ cloud.tables.members, actor.userId = userId ∧ actor.organizationId = organizationId ∧
      isAdminRole actor.role = true ∧ memberDisabled cloud.tables actor.id = false := by
  unfold requireOrganizationAdmin at admin
  split at admin
  · cases admin
  · rename_i actor found
    have chosen := List.find?_some found
    simp only [Bool.and_eq_true, decide_eq_true_eq] at chosen
    split at admin
    · cases admin
    · rename_i allowed
      simp only [Bool.or_eq_true, Bool.not_eq_true', not_or, Bool.not_eq_false] at allowed
      exact ⟨actor, List.mem_of_find?_eq_some found, chosen.1, chosen.2, allowed.2, by simpa using allowed.1⟩

/-- What the checks of a change of state establish. -/
theorem requireMutableMember_ok {cloud : CloudDatabase} {options : SetMemberDisabledOptions} {target : MemberRow}
    (checked : requireMutableMember cloud options = .ok target) :
    target ∈ cloud.tables.members ∧ target.id = options.membershipId ∧ target.role ≠ "owner" ∧
      Administers cloud.tables options.userId target := by
  unfold requireMutableMember at checked
  split at checked
  · cases checked
  · rename_i role admin
    obtain ⟨actor, stored, user, organization, isAdmin, enabled⟩ := requireOrganizationAdmin_ok admin
    split at checked
    · cases checked
    · rename_i found
      have chosen := List.find?_some found
      simp only [Bool.and_eq_true, decide_eq_true_eq] at chosen
      split at checked
      · cases checked
      · rename_i noOwner
        split at checked
        · cases checked
        · rename_i other
          cases checked
          exact ⟨List.mem_of_find?_eq_some found, chosen.1, noOwner, fun same => other same.symm,
            actor, stored, user, organization.trans chosen.2.symm, isAdmin, enabled⟩

theorem memberDisabled_congr {left right : Tables} (same : left.memberStates = right.memberStates)
    (memberId : String) : memberDisabled left memberId = memberDisabled right memberId := by
  simp only [memberDisabled, same]

theorem memberDisabled_written (options : SetMemberDisabledOptions) (tables : Tables) (memberId : String) :
    memberDisabled (writeMemberState options tables) memberId =
      if options.membershipId = memberId then options.disabled else memberDisabled tables memberId := by
  simp only [memberDisabled, writeMemberState]
  rw [lookup_upsert fun _ _ => rfl]
  by_cases same : options.membershipId = memberId
  · rw [if_pos same, if_pos same]
    cases lookup (·.memberId) tables.memberStates options.membershipId with
    | none => cases found : lookup (·.memberId) tables.memberStates memberId <;> simp [upserted]
    | some stored => cases found : lookup (·.memberId) tables.memberStates memberId <;> simp [upserted]
  · rw [if_neg same, if_neg same]

/-- The memberships of a step are those from before and the admitted one. -/
theorem step_members (enabled : (administration hmac toUpperCase).Enabled database request) :
    ∃ added, ((administration hmac toUpperCase).step database request).tables.members =
        database.tables.members ++ added ∧
      ∀ member ∈ added, Admits hmac toUpperCase database request member := by
  have effect := serve_effect enabled
  generalize rowsEq : ((administration hmac toUpperCase).step database request).tables.rows = rows at effect
  have members : ((administration hmac toUpperCase).step database request).tables.members = rows.members :=
    congrArg AdministrationRows.members rowsEq
  rw [members]
  cases effect with
  | kept => exact ⟨[], by simp [AdministrationTables.rows, AdministrationTables.members], by simp⟩
  | memberState => exact ⟨[], by simp [AdministrationTables.rows, AdministrationTables.members], by simp⟩
  | rotated => exact ⟨[], by simp [AdministrationTables.rows, AdministrationTables.members], by simp⟩
  | planned => exact ⟨[], by simp [AdministrationTables.rows, AdministrationTables.members], by simp⟩
  | joined resolves absent =>
      refine ⟨_, rfl, ?_⟩
      intro member added
      rw [List.mem_singleton] at added
      exact ⟨_, _, _, _, _, rfl, resolves, absent, added⟩

/-- The state of a member is what an administrator sets it to. -/
theorem step_memberDisabled (enabled : (administration hmac toUpperCase).Enabled database request)
    (stored : member ∈ database.tables.members)
    (changed : memberDisabled ((administration hmac toUpperCase).step database request).tables.cloud.tables member.id ≠
      memberDisabled database.tables.cloud.tables member.id) :
    Sets database member
      (memberDisabled ((administration hmac toUpperCase).step database request).tables.cloud.tables member.id)
      request := by
  have effect := serve_effect enabled
  generalize rowsEq : ((administration hmac toUpperCase).step database request).tables.rows = rows at effect
  have states : ((administration hmac toUpperCase).step database request).tables.cloud.tables.memberStates =
      rows.memberStates := congrArg AdministrationRows.memberStates rowsEq
  cases effect with
  | kept => exact absurd (memberDisabled_congr states member.id) changed
  | rotated => exact absurd (memberDisabled_congr states member.id) changed
  | planned => exact absurd (memberDisabled_congr states member.id) changed
  | joined => exact absurd (memberDisabled_congr states member.id) changed
  | memberState checked =>
      rename_i options stamp target
      rw [memberDisabled_congr states, memberDisabled_written] at changed ⊢
      obtain ⟨targetStored, targetId, noOwner, administers⟩ := requireMutableMember_ok checked
      by_cases same : options.membershipId = member.id
      · rw [if_pos same]
        have distinct : (database.tables.cloud.tables.members.map (·.id)).Nodup :=
          database.tables.cloud.consistent .memberId
        obtain rfl := eq_of_key distinct targetStored stored (targetId.trans same)
        exact ⟨same, rfl, noOwner, administers⟩
      · rw [if_neg same] at changed
        exact absurd rfl changed

theorem mem_run (runs : (administration hmac toUpperCase).Runs database requests)
    (stored : member ∈ database.tables.members) :
    member ∈ ((administration hmac toUpperCase).run database requests).tables.members := by
  induction requests generalizing database with
  | nil => exact stored
  | cons request rest ih =>
      obtain ⟨added, extended, -⟩ := step_members runs.1
      exact ih runs.2 (extended ▸ List.mem_append_left added stored)

/-- Over any run of requests no membership is lost or rewritten, each new one is a plain
member's who presented a current code, and a member that is not as it was before has been
disabled or enabled by an administrator. -/
theorem memberships_safe (runs : (administration hmac toUpperCase).Runs database requests) :
    (∃ added, ((administration hmac toUpperCase).run database requests).tables.members =
        database.tables.members ++ added ∧
      ∀ member ∈ added, member.role = "member" ∧
        ∃ earlier request later, requests = earlier ++ request :: later ∧
          Admits hmac toUpperCase ((administration hmac toUpperCase).run database earlier) request member) ∧
    ∀ member ∈ database.tables.members, ∀ disabled,
      memberDisabled database.tables.cloud.tables member.id ≠ disabled →
      memberDisabled ((administration hmac toUpperCase).run database requests).tables.cloud.tables member.id =
        disabled →
      ∃ earlier request later, requests = earlier ++ request :: later ∧
        Sets ((administration hmac toUpperCase).run database earlier) member disabled request := by
  constructor
  · obtain ⟨added, extended, admitted⟩ := System.run_extends
      (fun state => state.tables.members) (Admits hmac toUpperCase) runs fun _ _ enabled => step_members enabled
    refine ⟨added, extended, ?_⟩
    intro member isNew
    obtain ⟨earlier, request, later, split, admits⟩ := admitted member isNew
    refine ⟨?_, earlier, request, later, split, admits⟩
    obtain ⟨_, _, _, _, _, _, _, _, rfl⟩ := admits
    rfl
  · intro member stored disabled before after
    obtain ⟨earlier, request, later, rfl, unset, set⟩ := System.exists_turn
      (fun state : AdministrationDatabase => memberDisabled state.tables.cloud.tables member.id = disabled) before after
    have enabled := System.Along.at_step runs
    have present := mem_run (System.along_append.mp runs).1 stored
    subst set
    exact ⟨earlier, request, later, rfl, step_memberDisabled enabled present fun same => unset same.symm⟩

end Steps

section Sample

def acmeTables : Tables :=
  { Tables.empty with
    organizations := [⟨"acme"⟩]
    members :=
      [⟨"m1", "ada", "acme", "owner"⟩, ⟨"m2", "bob", "acme", "member"⟩, ⟨"m3", "cai", "acme", "admin"⟩] }

theorem acmeTables_accepted : schema.violated? acmeTables = none := by decide

def acmeAdministration : AdministrationTables where
  cloud := Store.load acmeTables acmeTables_accepted
  roster :=
    { users := [⟨"ada", "Ada", "ada@acme.example"⟩, ⟨"bob", "Bob", "bob@acme.example"⟩,
        ⟨"cai", "Cai", "cai@acme.example"⟩]
      joinedAt := fun _ => 1 }
  profiles := [⟨"acme", "Acme", "acme"⟩]
  joinCodes := []
  planAccounts := []

theorem acmeAdministration_accepted : administrationSchema.violated? acmeAdministration = none := by decide

def acme : AdministrationDatabase := Store.load acmeAdministration acmeAdministration_accepted

def bobsMembership : MemberRow := ⟨"m2", "bob", "acme", "member"⟩

/-- An administrator disables a member. -/
def disableBob : AdministrationRequest :=
  .setMemberDisabled ⟨"cai", "acme", "m2", true⟩ ⟨"audit-1", 10⟩

theorem memberships_safe_bob :
    ∃ earlier request later, [disableBob] = earlier ++ request :: later ∧
      Sets ((administration id id).run acme earlier) bobsMembership true request :=
  (memberships_safe (by decide)).2 bobsMembership (by decide) true (by decide) (by decide +kernel)

end Sample

/-! ## Disabled members -/

section Disabled

variable {hmac toUpperCase : String → String} {database : AdministrationDatabase}
  {request : AdministrationRequest} {requests : List AdministrationRequest} {member : MemberRow}
  {cloud : CloudDatabase}

/-- The request is the user's own, about the organization. -/
def Concerns (hmac toUpperCase : String → String) (database : AdministrationDatabase)
    (userId organizationId : String) : AdministrationRequest → Prop
  | .setMemberDisabled options _ => options.userId = userId ∧ options.organizationId = organizationId
  | .rotateJoinCode options _ => options.userId = userId ∧ options.organizationId = organizationId
  | .updateOrganization options _ => options.userId = userId ∧ options.organizationId = organizationId
  | .join user code _ _ =>
      user = userId ∧ ∃ resolved ∈ resolveCode hmac toUpperCase database code,
        resolved.organizationId = organizationId
  | .createPlanAccount options => trim options.userId = userId ∧ trim options.organizationId = organizationId
  | .elsewhere _ => False

/-- The request fails and nothing changes. -/
def Refused (hmac toUpperCase : String → String) (database : AdministrationDatabase)
    (request : AdministrationRequest) : Prop :=
  ∃ failure, serve hmac toUpperCase database request = (database, .error failure)

theorem findMembership_of_one {tables : Tables} (one : OneMembership tables) (stored : member ∈ tables.members) :
    findMembership tables member.userId member.organizationId = some member := by
  refine (find?_eq_some_of_unique ?_).mpr ⟨stored, by simp⟩
  intro left leftStored right rightStored leftFound rightFound
  simp only [Bool.and_eq_true, decide_eq_true_eq] at leftFound rightFound
  refine List.inj_on_of_nodup_map one leftStored rightStored ?_
  rw [leftFound.1, leftFound.2, rightFound.1, rightFound.2]

theorem requireOrganizationAdmin_disabled (one : OneMembership cloud.tables) (stored : member ∈ cloud.tables.members)
    (disabled : memberDisabled cloud.tables member.id = true) :
    requireOrganizationAdmin cloud member.userId member.organizationId = .error .organizationAccessDenied := by
  simp only [requireOrganizationAdmin, findMembership_of_one one stored, disabled, Bool.true_or, if_true]

theorem isOrganizationMemberEnabled_disabled (one : OneMembership cloud.tables)
    (stored : member ∈ cloud.tables.members) (disabled : memberDisabled cloud.tables member.id = true) :
    isOrganizationMemberEnabled cloud member.userId member.organizationId = false := by
  simp [isOrganizationMemberEnabled, findMembership_of_one one stored, disabled]

theorem audited_disabled {event : RecordAuditEventOptions} {reply : AdministrationReply}
    (one : OneMembership database.tables.cloud.tables) (stored : member ∈ database.tables.members)
    (disabled : memberDisabled database.tables.cloud.tables member.id = true)
    (user : event.userId = member.userId) (organization : event.organizationId = member.organizationId) :
    ∃ failure, audited database event reply = (database, .error failure) := by
  have unable := isOrganizationMemberEnabled_disabled one stored disabled
  have refused : recordAuditEvent database.tables.cloud event = .error .organizationAccessDenied := by
    rw [recordAuditEvent, requireEnabledOrganizationMember, user, organization, unable]
    rfl
  exact ⟨accessDenied, by simp only [audited, onCloud, refused]⟩

/-- A disabled member is refused whatever it asks for in its organization. -/
theorem disabled_refused (one : OneMembership database.tables.cloud.tables)
    (stored : member ∈ database.tables.members)
    (disabled : memberDisabled database.tables.cloud.tables member.id = true)
    (concerns : Concerns hmac toUpperCase database member.userId member.organizationId request) :
    Refused hmac toUpperCase database request := by
  have denied := requireOrganizationAdmin_disabled one stored disabled
  cases request with
  | setMemberDisabled options stamp =>
      rw [← concerns.1, ← concerns.2] at denied
      exact ⟨accessDenied, by simp only [serve, setOrganizationMemberDisabledHandler, setOrganizationMemberDisabled,
        requireMutableMember, denied]⟩
  | rotateJoinCode options stamp =>
      rw [← concerns.1, ← concerns.2] at denied
      exact ⟨accessDenied, by simp only [serve, rotateOrganizationJoinCodeHandler, rotateOrganizationJoinCode, denied]⟩
  | updateOrganization options stamp =>
      rw [← concerns.1, ← concerns.2] at denied
      exact ⟨accessDenied, by simp only [serve, updateOrganizationHandler, updateOrganizationName, denied]⟩
  | join userId code createId stamp =>
      obtain ⟨rfl, resolved, resolves, organization⟩ := concerns
      have known := findMembership_of_one one stored
      rw [← organization] at known
      simp only [Refused, serve, joinOrganizationHandler, Option.mem_def.mp resolves, joinOrganizationById, known]
      by_cases user : member.userId ∈ database.tables.userIds
      · rw [if_neg (not_not.mpr user)]
        by_cases exists' : resolved.organizationId ∈ database.tables.organizationIds
        · rw [if_neg (not_not.mpr exists')]
          exact audited_disabled one stored disabled rfl organization
        · exact ⟨_, by rw [if_pos exists']⟩
      · exact ⟨_, by rw [if_pos user]⟩
  | createPlanAccount options =>
      have known := findMembership_of_one one stored
      rw [← concerns.1, ← concerns.2] at known
      have body : createPlanAccountBody database options = .error accessDenied := by
        simp only [createPlanAccountBody, known, disabled, true_or, if_true]
      simp only [Refused, serve, createPlanAccount, body, commit_error]
      split
      · rename_i failed
        split at failed
        · cases failed
          exact ⟨_, rfl⟩
        · split at failed
          · cases failed
            exact ⟨_, rfl⟩
          · split at failed
            · cases failed
              exact ⟨_, rfl⟩
            · cases failed
              exact ⟨_, rfl⟩
      · rename_i succeeded
        split at succeeded
        · cases succeeded
        · split at succeeded
          · cases succeeded
          · split at succeeded
            · cases succeeded
            · cases succeeded
  | elsewhere cloud => exact concerns.elim

/-- A user is admitted to an organization once. -/
theorem step_oneMembership (enabled : (administration hmac toUpperCase).Enabled database request)
    (one : OneMembership database.tables.cloud.tables) :
    OneMembership ((administration hmac toUpperCase).step database request).tables.cloud.tables := by
  have effect := serve_effect enabled
  generalize rowsEq : ((administration hmac toUpperCase).step database request).tables.rows = rows at effect
  have members : ((administration hmac toUpperCase).step database request).tables.cloud.tables.members =
      rows.members := congrArg AdministrationRows.members rowsEq
  unfold OneMembership at one ⊢
  rw [members]
  cases effect with
  | kept => exact one
  | memberState => exact one
  | rotated => exact one
  | planned => exact one
  | joined resolves absent =>
      refine nodup_append_fresh one ?_
      intro stored isStored same
      obtain ⟨user, organization⟩ := Prod.mk.inj same
      have found := List.find?_eq_none.mp absent stored isStored
      simp [user, organization, joinedMember] at found

theorem run_oneMembership (one : OneMembership database.tables.cloud.tables)
    (runs : (administration hmac toUpperCase).Runs database requests) :
    OneMembership ((administration hmac toUpperCase).run database requests).tables.cloud.tables := by
  induction requests generalizing database with
  | nil => exact one
  | cons request rest ih => exact ih (step_oneMembership runs.1 one) runs.2

/-- What is closed to a disabled member. -/
structure LockedOut (hmac toUpperCase : String → String) (member : MemberRow) (database : AdministrationDatabase)
    (request : AdministrationRequest) : Prop where
  disabled : memberDisabled database.tables.cloud.tables member.id = true
  session : ∀ session : AuthSession, session.userId = member.userId →
    (resolveSession database.tables.cloud session).activeOrganizationId ≠ some member.organizationId
  refused : Concerns hmac toUpperCase database member.userId member.organizationId request →
    Refused hmac toUpperCase database request

/-- As long as no administrator enables it again, a disabled member is locked out. -/
theorem disabledMember_lockedOut (one : OneMembership database.tables.cloud.tables)
    (stored : member ∈ database.tables.members)
    (disabled : memberDisabled database.tables.cloud.tables member.id = true)
    (runs : (administration hmac toUpperCase).Runs database requests)
    (unrestored : (administration hmac toUpperCase).Along
      (fun state request => ¬ Sets state member false request) database requests) :
    (administration hmac toUpperCase).Along (LockedOut hmac toUpperCase member) database requests ∧
      memberDisabled ((administration hmac toUpperCase).run database requests).tables.cloud.tables member.id =
        true := by
  let Out (state : AdministrationDatabase) : Prop := OneMembership state.tables.cloud.tables ∧
    member ∈ state.tables.members ∧ memberDisabled state.tables.cloud.tables member.id = true
  have each (state : AdministrationDatabase) (request : AdministrationRequest)
      (met : (administration hmac toUpperCase).Enabled state request ∧ ¬ Sets state member false request)
      (out : Out state) : LockedOut hmac toUpperCase member state request ∧
        Out ((administration hmac toUpperCase).step state request) := by
    obtain ⟨stateOne, present, isDisabled⟩ := out
    have stillDisabled : memberDisabled
        ((administration hmac toUpperCase).step state request).tables.cloud.tables member.id = true := by
      by_contra changed
      have set := step_memberDisabled met.1 present (fun same => changed (same.trans isDisabled))
      rw [Bool.not_eq_true] at changed
      exact met.2 (changed ▸ set)
    have inactive (session : AuthSession) (user : session.userId = member.userId) :
        (resolveSession state.tables.cloud session).activeOrganizationId ≠ some member.organizationId := by
      intro active
      have unable := isOrganizationMemberEnabled_disabled stateOne present isDisabled
      have chosen := Option.mem_filter_iff.mp (Option.mem_def.mpr active)
      rw [user, unable] at chosen
      simp at chosen
    obtain ⟨added, extended, -⟩ := step_members met.1
    exact ⟨⟨isDisabled, inactive, disabled_refused stateOne present isDisabled⟩,
      step_oneMembership met.1 stateOne, extended ▸ List.mem_append_left added present, stillDisabled⟩
  obtain ⟨lockedOut, -, -, final⟩ :=
    System.Along.invariant (System.Along.and runs unrestored) ⟨one, stored, disabled⟩ each
  exact ⟨lockedOut, final⟩

section Sample

def disabledBob : AdministrationDatabase := (administration id id).run acme [disableBob]

/-- The disabled member asks for a new join code, and another one is disabled. -/
def laterRequests : List AdministrationRequest :=
  [.rotateJoinCode ⟨"bob", "acme", "0123456789AB", 20⟩ ⟨"audit-2", 20⟩,
    .setMemberDisabled ⟨"ada", "acme", "m3", true⟩ ⟨"audit-3", 30⟩]

theorem disabledMember_lockedOut_bob :
    (administration id id).Along (LockedOut id id bobsMembership) disabledBob laterRequests ∧
      memberDisabled ((administration id id).run disabledBob laterRequests).tables.cloud.tables "m2" = true :=
  disabledMember_lockedOut (by decide +kernel) (by decide +kernel) (by decide +kernel) (by decide +kernel)
    (by decide +kernel)

end Sample

end Disabled

/-! ## Owners -/

section Owners

variable {hmac toUpperCase : String → String} {database : AdministrationDatabase}
  {requests : List AdministrationRequest} {owner member : MemberRow} {tables : Tables}

/-- A cloud with the same members and organizations fits the administration's tables. -/
theorem administration_consistent (database : AdministrationDatabase) (cloud : CloudDatabase)
    (members : cloud.tables.members = database.tables.cloud.tables.members)
    (organizations : cloud.tables.organizations = database.tables.cloud.tables.organizations) :
    administrationSchema.Consistent { database.tables with cloud } := by
  have ids : cloud.tables.organizationIds = database.tables.cloud.tables.organizationIds := by
    simp only [Tables.organizationIds, organizations]
  intro constraint
  have held := database.consistent constraint
  cases constraint with
  | profileOrganization => exact held.trans ids.symm
  | memberUser =>
      intro row stored
      have kept : row ∈ cloud.tables.members := stored
      rw [members] at kept
      exact held row kept
  | joinCodeOwner =>
      intro code stored
      have known : code.organizationId ∈ database.tables.cloud.tables.organizationIds := held code stored
      rw [← ids] at known
      exact known
  | planAccountOrganizationOwner =>
      intro account stored
      have known : account.organizationId ∈ database.tables.cloud.tables.organizationIds := held account stored
      rw [← ids] at known
      exact known
  | _ => exact held

theorem memberState_consistent (cloud : CloudDatabase) {options : SetMemberDisabledOptions}
    (stored : options.membershipId ∈ cloud.tables.members.map (·.id)) :
    schema.Consistent (writeMemberState options cloud.tables) := by
  intro constraint
  have held := cloud.consistent constraint
  cases constraint with
  | memberStateId => exact nodup_upsert held held (fun _ => rfl) fun _ _ different => different
  | memberStateMember => exact forall_upsert held stored fun _ _ => stored
  | _ => exact held

/-- An enabled owner may set the state of anybody else in its organization who is no owner. -/
theorem requireMutableMember_owner (one : OneMembership database.tables.cloud.tables)
    (ownerStored : owner ∈ database.tables.members) (ownerRole : owner.role = "owner")
    (ownerEnabled : memberDisabled database.tables.cloud.tables owner.id = false)
    (stored : member ∈ database.tables.members) (together : member.organizationId = owner.organizationId)
    (noOwner : member.role ≠ "owner") (other : member.userId ≠ owner.userId) (disabled : Bool) :
    requireMutableMember database.tables.cloud ⟨owner.userId, owner.organizationId, member.id, disabled⟩ =
      .ok member := by
  have admin : requireOrganizationAdmin database.tables.cloud owner.userId owner.organizationId = .ok owner.role := by
    simp [requireOrganizationAdmin, findMembership_of_one one ownerStored, ownerEnabled, isAdminRole, ownerRole]
  have distinct : (database.tables.cloud.tables.members.map (·.id)).Nodup :=
    database.tables.cloud.consistent .memberId
  have found : (database.tables.cloud.tables.members.find? fun row =>
      row.id = member.id && row.organizationId = owner.organizationId) = some member := by
    refine (find?_eq_some_of_unique ?_).mpr ⟨stored, by simp [together]⟩
    intro left leftStored right rightStored leftFound rightFound
    simp only [Bool.and_eq_true, decide_eq_true_eq] at leftFound rightFound
    exact eq_of_key distinct leftStored rightStored (leftFound.1.trans rightFound.1.symm)
  simp only [requireMutableMember, admin, found, if_neg noOwner, if_neg other]

/-- What the owner asks for is done. -/
theorem setMemberDisabled_owner (one : OneMembership database.tables.cloud.tables)
    (ownerStored : owner ∈ database.tables.members) (ownerRole : owner.role = "owner")
    (ownerEnabled : memberDisabled database.tables.cloud.tables owner.id = false)
    (stored : member ∈ database.tables.members) (together : member.organizationId = owner.organizationId)
    (noOwner : member.role ≠ "owner") (other : member.userId ≠ owner.userId) (disabled : Bool) (stamp : AuditStamp) :
    memberDisabled (serve hmac toUpperCase database (.setMemberDisabled
      ⟨owner.userId, owner.organizationId, member.id, disabled⟩ stamp)).1.tables.cloud.tables member.id = disabled := by
  let options : SetMemberDisabledOptions := ⟨owner.userId, owner.organizationId, member.id, disabled⟩
  have checked : requireMutableMember database.tables.cloud options = .ok member :=
    requireMutableMember_owner one ownerStored ownerRole ownerEnabled stored together noOwner other disabled
  have consistent : schema.Consistent (writeMemberState options database.tables.cloud.tables) :=
    memberState_consistent _ (List.mem_map_of_mem stored)
  have written : onCloud database (statement database.tables.cloud (writeMemberState options)) =
      .ok ⟨_, administration_consistent database ⟨_, consistent⟩ rfl rfl⟩ := by
    rw [onCloud_ok]
    exact ⟨_, Store.execute_of_consistent consistent, rfl⟩
  have handled : (serve hmac toUpperCase database (.setMemberDisabled options stamp)).1.tables.rows.memberStates =
      (writeMemberState options database.tables.cloud.tables).memberStates := by
    have done : (setOrganizationMemberDisabled database options stamp.now).1.tables.rows.memberStates =
        (writeMemberState options database.tables.cloud.tables).memberStates := by
      simp only [setOrganizationMemberDisabled, checked, written]
      split
      · rfl
      · split
        · rfl
        · rfl
    simp only [serve, setOrganizationMemberDisabledHandler]
    split
    · rename_i failed
      rwa [failed] at done
    · rename_i succeeded
      rw [succeeded] at done
      rwa [audited_rows]
  rw [memberDisabled_congr handled, memberDisabled_written, if_pos rfl]

/-- An organization is never locked out: in every run an enabled owner stays enabled, and
may at any time disable or enable every other member who is no owner. -/
theorem owner_never_lockedOut (one : OneMembership database.tables.cloud.tables)
    (ownerStored : owner ∈ database.tables.members) (ownerRole : owner.role = "owner")
    (ownerEnabled : memberDisabled database.tables.cloud.tables owner.id = false)
    (runs : (administration hmac toUpperCase).Runs database requests) :
    let after := (administration hmac toUpperCase).run database requests
    memberDisabled after.tables.cloud.tables owner.id = false ∧
      ∀ member ∈ after.tables.members, member.organizationId = owner.organizationId → member.role ≠ "owner" →
        member.userId ≠ owner.userId → ∀ disabled stamp,
          memberDisabled (serve hmac toUpperCase after (.setMemberDisabled
            ⟨owner.userId, owner.organizationId, member.id, disabled⟩ stamp)).1.tables.cloud.tables member.id =
            disabled := by
  have afterOne : OneMembership
      ((administration hmac toUpperCase).run database requests).tables.cloud.tables :=
    run_oneMembership one runs
  have stillEnabled : memberDisabled
      ((administration hmac toUpperCase).run database requests).tables.cloud.tables owner.id = false := by
    by_contra changed
    rw [Bool.not_eq_false] at changed
    have disabled : memberDisabled database.tables.cloud.tables owner.id ≠ true := by simp [ownerEnabled]
    obtain ⟨earlier, request, later, -, set⟩ := (memberships_safe runs).2 owner ownerStored true disabled changed
    cases request with
    | setMemberDisabled options stamp => exact set.2.2.1 ownerRole
    | _ => exact set.elim
  refine ⟨stillEnabled, ?_⟩
  intro member stored together noOwner other disabled stamp
  exact setMemberDisabled_owner afterOne (mem_run runs ownerStored) ownerRole stillEnabled stored together noOwner
    other disabled stamp

theorem owner_never_lockedOut_ada :
    memberDisabled ((administration id id).run acme [disableBob]).tables.cloud.tables "m1" = false :=
  (@owner_never_lockedOut id id acme [disableBob] ⟨"m1", "ada", "acme", "owner"⟩ (by decide) (by decide) (by decide)
    (by decide) (by decide)).1

end Owners

end NebulaCloud.Organization
