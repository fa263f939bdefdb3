import NebulaCloud.Organization.Administration
import NebulaCloud.Provisioning.KillSwitch

namespace NebulaCloud.Organization

open NebulaCloud.Data NebulaCloud.Database NebulaCloud.Platform
open NebulaCloud.Provisioning (OneMembership)

/-! # Requests to the administration of an organization

One transition function for all of them.  A session names the user and the active
organization before the handler runs, so that a request comes with any pair of them. -/

/-! ## Handlers -/

/-- What an audit event draws. -/
structure AuditStamp where
  eventId : String
  now : Int
deriving DecidableEq, Repr

inductive AdministrationReply
  | member (summary : OrganizationMemberSummary)
  | joinCode (code : String)
  | joined (organizationId membershipId : String)
  | updated (organizationId name : String)
  | planAccount (summary : PlanAccountSummary)
  | done
deriving DecidableEq, Repr

/-- What was done stays done when it cannot be audited. -/
def audited (database : AdministrationDatabase) (event : RecordAuditEventOptions) (reply : AdministrationReply) :
    AdministrationDatabase × Except AdministrationFailure AdministrationReply :=
  match onCloud database (recordAuditEvent database.tables.cloud event) with
  | .error failure => (database, .error failure)
  | .ok database => (database, .ok reply)

def memberDisabledAudit (options : SetMemberDisabledOptions) (stamp : AuditStamp)
    (member : OrganizationMemberSummary) : RecordAuditEventOptions where
  userId := options.userId
  organizationId := options.organizationId
  eventId := stamp.eventId
  action := if options.disabled then "organization.member_disabled" else "organization.member_enabled"
  targetType := "membership"
  targetId := options.membershipId
  metadataJson := String.ofList (metadataJson [("role", .string member.role), ("targetUserId", .string member.userId)])
  now := stamp.now

def setOrganizationMemberDisabledHandler (database : AdministrationDatabase) (options : SetMemberDisabledOptions)
    (stamp : AuditStamp) : AdministrationDatabase × Except AdministrationFailure AdministrationReply :=
  match setOrganizationMemberDisabled database options stamp.now with
  | (database, .error failure) => (database, .error failure)
  | (database, .ok member) => audited database (memberDisabledAudit options stamp member) (.member member)

/-- An event about the organization itself. -/
def organizationAudit (userId organizationId action : String) (stamp : AuditStamp) : RecordAuditEventOptions where
  userId := userId
  organizationId := organizationId
  eventId := stamp.eventId
  action := action
  targetType := "organization"
  targetId := organizationId
  metadataJson := "\x7b\x7d"
  now := stamp.now

def updateOrganizationHandler (database : AdministrationDatabase) (options : UpdateOrganizationOptions)
    (stamp : AuditStamp) : AdministrationDatabase × Except AdministrationFailure AdministrationReply :=
  match updateOrganizationName database options with
  | .error failure => (database, .error failure)
  | .ok database =>
      audited database
        (organizationAudit options.userId options.organizationId "organization.name_updated" stamp)
        (.updated options.organizationId (trim options.name))

section Codes

variable (hmac toUpperCase : String → String)

def rotateOrganizationJoinCodeHandler (database : AdministrationDatabase) (options : RotateJoinCodeOptions)
    (stamp : AuditStamp) : AdministrationDatabase × Except AdministrationFailure AdministrationReply :=
  match rotateOrganizationJoinCode database options with
  | .error failure => (database, .error failure)
  | .ok database =>
      audited database
        (organizationAudit options.userId options.organizationId "organization.access_code_rotated" stamp)
        (.joinCode (organizationCode hmac toUpperCase options.organizationId options.lookupKey))

def invalidOrganizationCode : AdministrationFailure :=
  .memberMutation "invalid_organization_code" "Invalid organization code"

/-- The organization that a code admits to. -/
def resolveCode (database : AdministrationDatabase) (code : String) : Option OrganizationJoinCodeRow :=
  match matchOrganizationCode (toUpperCase (trim code)) with
  | none => none
  | some (lookupKey, signature) =>
      (resolveOrganizationJoinCode database lookupKey).filter fun resolved =>
        organizationCodeSignature hmac toUpperCase resolved.organizationId resolved.lookupKey = signature

def joinAudit (userId organizationId membershipId : String) (stamp : AuditStamp) : RecordAuditEventOptions where
  userId := userId
  organizationId := organizationId
  eventId := stamp.eventId
  action := "organization.access_code_used"
  targetType := "membership"
  targetId := membershipId
  metadataJson := "\x7b\x7d"
  now := stamp.now

def joinOrganizationHandler (database : AdministrationDatabase) (userId code createId : String)
    (stamp : AuditStamp) : AdministrationDatabase × Except AdministrationFailure AdministrationReply :=
  match resolveCode hmac toUpperCase database code with
  | none => (database, .error invalidOrganizationCode)
  | some resolved =>
      match joinOrganizationById database ⟨userId, resolved.organizationId, createId, stamp.now⟩ with
      | .error failure => (database, .error failure)
      | .ok (database, membershipId) =>
          audited database (joinAudit userId resolved.organizationId membershipId stamp)
            (.joined resolved.organizationId membershipId)

/-! ## The system -/

inductive AdministrationRequest
  | setMemberDisabled (options : SetMemberDisabledOptions) (stamp : AuditStamp)
  | rotateJoinCode (options : RotateJoinCodeOptions) (stamp : AuditStamp)
  | join (userId code createId : String) (stamp : AuditStamp)
  | updateOrganization (options : UpdateOrganizationOptions) (stamp : AuditStamp)
  | createPlanAccount (options : CreatePlanAccountOptions)
  /-- Any other request, with the cloud that it leaves. -/
  | elsewhere (cloud : CloudDatabase)

def serve (database : AdministrationDatabase) :
    AdministrationRequest → AdministrationDatabase × Except AdministrationFailure AdministrationReply
  | .setMemberDisabled options stamp => setOrganizationMemberDisabledHandler database options stamp
  | .rotateJoinCode options stamp => rotateOrganizationJoinCodeHandler hmac toUpperCase database options stamp
  | .join userId code createId stamp => joinOrganizationHandler hmac toUpperCase database userId code createId stamp
  | .updateOrganization options stamp => updateOrganizationHandler database options stamp
  | .createPlanAccount options =>
      match createPlanAccount database options with
      | (database, .error failure) => (database, .error failure)
      | (database, .ok summary) => (database, .ok (.planAccount summary))
  | .elsewhere cloud =>
      match onCloud database (.ok cloud) with
      | .error failure => (database, .error failure)
      | .ok database => (database, .ok .done)

/-- The rows that the other requests read and never write. -/
def SameMemberships (before after : Tables) : Prop :=
  after.members = before.members ∧ after.memberStates = before.memberStates ∧
    after.organizations = before.organizations

instance (before after : Tables) : Decidable (SameMemberships before after) :=
  inferInstanceAs (Decidable (_ ∧ _))

/-- Lookup keys are drawn as six bytes in upper-case digits.  Members come and go through
the identity provider as well; the runs are those in between. -/
def administration : System AdministrationDatabase AdministrationRequest where
  Initial database :=
    OneMembership database.tables.cloud.tables ∧
      ∀ code ∈ database.tables.joinCodes, IsCodePart code.lookupKey.toList
  Enabled database
    | .rotateJoinCode options _ => IsCodePart options.lookupKey.toList
    | .elsewhere cloud => SameMemberships database.tables.cloud.tables cloud.tables
    | _ => True
  step database request := (serve hmac toUpperCase database request).1

instance (database : AdministrationDatabase) (request : AdministrationRequest) :
    Decidable ((administration hmac toUpperCase).Enabled database request) :=
  match request with
  | .rotateJoinCode options _ => inferInstanceAs (Decidable (IsCodePart options.lookupKey.toList))
  | .elsewhere cloud => inferInstanceAs (Decidable (SameMemberships database.tables.cloud.tables cloud.tables))
  | .setMemberDisabled _ _ | .join _ _ _ _ | .updateOrganization _ _ | .createPlanAccount _ =>
      inferInstanceAs (Decidable True)

end Codes

/-! ## What a request changes -/

/-- The rows that the administration is about. -/
structure AdministrationRows where
  members : List MemberRow
  memberStates : List OrganizationMemberStateRow
  organizations : List OrganizationRow
  users : List UserRow
  joinCodes : List OrganizationJoinCodeRow
  planAccounts : List PlanAccount
deriving DecidableEq

def AdministrationTables.rows (tables : AdministrationTables) : AdministrationRows where
  members := tables.cloud.tables.members
  memberStates := tables.cloud.tables.memberStates
  organizations := tables.cloud.tables.organizations
  users := tables.roster.users
  joinCodes := tables.joinCodes
  planAccounts := tables.planAccounts

section Effects

variable {hmac toUpperCase : String → String} {database after : AdministrationDatabase}
  {request : AdministrationRequest} {cloud : CloudDatabase}

/-- Everything that a request may do to these rows, with what it has checked. -/
inductive Effect (hmac toUpperCase : String → String) (database : AdministrationDatabase) :
    AdministrationRequest → AdministrationRows → Prop
  | kept {request : AdministrationRequest} : Effect hmac toUpperCase database request database.tables.rows
  | memberState {options : SetMemberDisabledOptions} {stamp : AuditStamp} {target : MemberRow}
      (checked : requireMutableMember database.tables.cloud options = .ok target) :
      Effect hmac toUpperCase database (.setMemberDisabled options stamp)
        { database.tables.rows with
          memberStates := (writeMemberState options database.tables.cloud.tables).memberStates }
  | rotated {options : RotateJoinCodeOptions} {stamp : AuditStamp} {role : String}
      (admin : requireOrganizationAdmin database.tables.cloud options.userId options.organizationId = .ok role) :
      Effect hmac toUpperCase database (.rotateJoinCode options stamp)
        { database.tables.rows with joinCodes := (writeJoinCode options database.tables).joinCodes }
  | joined {userId code createId : String} {stamp : AuditStamp} {resolved : OrganizationJoinCodeRow}
      (resolves : resolveCode hmac toUpperCase database code = some resolved)
      (absent : findMembership database.tables.cloud.tables userId resolved.organizationId = none) :
      Effect hmac toUpperCase database (.join userId code createId stamp)
        { database.tables.rows with
          members := database.tables.members ++
            [joinedMember ⟨userId, resolved.organizationId, createId, stamp.now⟩] }
  | planned {options : CreatePlanAccountOptions} {membership : MemberRow}
      (owner : findMembership database.tables.cloud.tables (trim options.userId) (trim options.organizationId) =
        some membership)
      (enabled : memberDisabled database.tables.cloud.tables membership.id = false)
      (role : membership.role = "owner")
      (absent : getPlanAccountByOrganizationId database (trim options.organizationId) = none) :
      Effect hmac toUpperCase database (.createPlanAccount options)
        { database.tables.rows with planAccounts := database.tables.planAccounts ++ [planAccountRow options] }

theorem onCloud_ok {called : Except Failure CloudDatabase} :
    onCloud database called = .ok after ↔
      ∃ cloud, called = .ok cloud ∧ after.tables = { database.tables with cloud } := by
  cases called with
  | error failure => simp [onCloud]
  | ok cloud => simp [onCloud, Store.execute_ok]

/-- Auditing changes none of these rows. -/
theorem audited_rows {event : RecordAuditEventOptions} {reply : AdministrationReply} :
    (audited database event reply).1.tables.rows = database.tables.rows := by
  unfold audited
  cases recorded : onCloud database (recordAuditEvent database.tables.cloud event) with
  | error failure => rfl
  | ok after =>
      obtain ⟨cloud, called, written⟩ := onCloud_ok.mp recorded
      obtain ⟨auditEvents, cloudWritten⟩ := recordAuditEvent_ok called
      simp only [AdministrationTables.rows, written, cloudWritten]

/-- A member's state is written after the checks or not at all. -/
theorem setOrganizationMemberDisabled_rows (options : SetMemberDisabledOptions) (readAt : Int) :
    (setOrganizationMemberDisabled database options readAt).1.tables.rows = database.tables.rows ∨
      ∃ target, requireMutableMember database.tables.cloud options = .ok target ∧
        (setOrganizationMemberDisabled database options readAt).1.tables.rows =
          { database.tables.rows with
            memberStates := (writeMemberState options database.tables.cloud.tables).memberStates } := by
  unfold setOrganizationMemberDisabled
  cases checked : requireMutableMember database.tables.cloud options with
  | error failure => exact .inl rfl
  | ok target =>
      cases written : onCloud database (statement database.tables.cloud (writeMemberState options)) with
      | error failure => exact .inl rfl
      | ok after =>
          obtain ⟨cloud, stated, tables⟩ := onCloud_ok.mp written
          have rows : after.tables.rows = { database.tables.rows with
              memberStates := (writeMemberState options database.tables.cloud.tables).memberStates } := by
            simp only [AdministrationTables.rows, tables, Store.execute_ok.mp stated, writeMemberState]
          refine .inr ⟨target, rfl, ?_⟩
          simp only
          split
          · exact rows
          · split
            · exact rows
            · exact rows

theorem setMemberDisabled_effect (options : SetMemberDisabledOptions) (stamp : AuditStamp) :
    Effect hmac toUpperCase database (.setMemberDisabled options stamp)
      (setOrganizationMemberDisabledHandler database options stamp).1.tables.rows := by
  have handled : (setOrganizationMemberDisabledHandler database options stamp).1.tables.rows =
      (setOrganizationMemberDisabled database options stamp.now).1.tables.rows := by
    unfold setOrganizationMemberDisabledHandler
    split
    · rename_i failed
      rw [failed]
    · rename_i succeeded
      rw [audited_rows, succeeded]
  rw [handled]
  obtain kept | ⟨target, checked, written⟩ :=
    @setOrganizationMemberDisabled_rows database options stamp.now
  · rw [kept]
    exact .kept
  · rw [written]
    exact .memberState checked

theorem rotateJoinCode_effect (options : RotateJoinCodeOptions) (stamp : AuditStamp) :
    Effect hmac toUpperCase database (.rotateJoinCode options stamp)
      (rotateOrganizationJoinCodeHandler hmac toUpperCase database options stamp).1.tables.rows := by
  unfold rotateOrganizationJoinCodeHandler rotateOrganizationJoinCode
  cases admin : requireOrganizationAdmin database.tables.cloud options.userId options.organizationId with
  | error failure => exact .kept
  | ok role =>
      simp only
      cases written : database.execute AdministrationFailure.broken (writeJoinCode options) with
      | error failure => exact .kept
      | ok after =>
          have rows : after.tables.rows = { database.tables.rows with
              joinCodes := (writeJoinCode options database.tables).joinCodes } := by
            simp only [AdministrationTables.rows, Store.execute_ok.mp written, writeJoinCode]
          simp only
          rw [audited_rows, rows]
          exact .rotated admin

theorem updateOrganization_effect (options : UpdateOrganizationOptions) (stamp : AuditStamp) :
    Effect hmac toUpperCase database (.updateOrganization options stamp)
      (updateOrganizationHandler database options stamp).1.tables.rows := by
  unfold updateOrganizationHandler
  cases updated : updateOrganizationName database options with
  | error failure => exact .kept
  | ok after =>
      unfold updateOrganizationName at updated
      split at updated
      · cases updated
      · split at updated
        · cases updated
        · have rows : after.tables.rows = database.tables.rows := by
            simp only [AdministrationTables.rows, Store.execute_ok.mp updated]
          simp only
          rw [audited_rows, rows]
          exact .kept

theorem join_effect (userId code createId : String) (stamp : AuditStamp) :
    Effect hmac toUpperCase database (.join userId code createId stamp)
      (joinOrganizationHandler hmac toUpperCase database userId code createId stamp).1.tables.rows := by
  unfold joinOrganizationHandler
  cases resolves : resolveCode hmac toUpperCase database code with
  | none => exact .kept
  | some resolved =>
      simp only
      cases joined : joinOrganizationById database ⟨userId, resolved.organizationId, createId, stamp.now⟩ with
      | error failure => exact .kept
      | ok result =>
          obtain ⟨after, membershipId⟩ := result
          simp only
          rw [audited_rows]
          unfold joinOrganizationById at joined
          split at joined
          · cases joined
          · split at joined
            · cases joined
            · split at joined
              · cases joined
                exact .kept
              · rename_i absent
                split at joined
                · cases joined
                · rename_i cloud stated
                  obtain ⟨inserted, insert, returned⟩ := bind_ok.mp joined
                  cases returned
                  have rows : after.tables.rows = { database.tables.rows with
                      members := database.tables.members ++
                        [joinedMember ⟨userId, resolved.organizationId, createId, stamp.now⟩] } := by
                    simp only [AdministrationTables.rows, Store.execute_ok.mp insert, Store.execute_ok.mp stated,
                      writeMember, Roster.joined, AdministrationTables.members]
                  rw [rows]
                  exact .joined resolves absent

theorem createPlanAccount_effect (options : CreatePlanAccountOptions) :
    Effect hmac toUpperCase database (.createPlanAccount options)
      (createPlanAccount database options).1.tables.rows := by
  unfold createPlanAccount
  split
  · exact .kept
  · split
    · exact .kept
    · split
      · exact .kept
      · cases created : createPlanAccountBody database options with
        | error failure => exact .kept
        | ok result =>
            obtain ⟨after, summary⟩ := result
            rw [commit_ok]
            unfold createPlanAccountBody at created
            split at created
            · cases created
            · rename_i membership owner
              split at created
              · cases created
              · rename_i refused
                push Not at refused
                split at created
                · split at created
                  · cases created
                    exact .kept
                  · cases created
                · rename_i absent
                  obtain ⟨inserted, insert, returned⟩ := bind_ok.mp created
                  have written := Store.execute_ok.mp insert
                  split at returned
                  · cases returned
                  · cases returned
                    have rows : after.tables.rows = { database.tables.rows with
                        planAccounts := database.tables.planAccounts ++ [planAccountRow options] } := by
                      simp only [AdministrationTables.rows, written]
                    rw [rows]
                    exact .planned owner (by simpa using refused.1) refused.2 absent

/-- Each request does one of these things. -/
theorem serve_effect (enabled : (administration hmac toUpperCase).Enabled database request) :
    Effect hmac toUpperCase database request
      ((administration hmac toUpperCase).step database request).tables.rows := by
  cases request with
  | setMemberDisabled options stamp => exact setMemberDisabled_effect options stamp
  | rotateJoinCode options stamp => exact rotateJoinCode_effect options stamp
  | join userId code createId stamp => exact join_effect userId code createId stamp
  | updateOrganization options stamp => exact updateOrganization_effect options stamp
  | createPlanAccount options =>
      have effect := @createPlanAccount_effect hmac toUpperCase database options
      simp only [administration, serve]
      cases created : createPlanAccount database options with
      | mk after outcome =>
          rw [created] at effect
          cases outcome with
          | error failure => exact effect
          | ok summary => exact effect
  | elsewhere cloud =>
      obtain ⟨members, states, organizations⟩ := enabled
      simp only [administration, serve]
      cases written : onCloud database (.ok cloud) with
      | error failure => exact .kept
      | ok after =>
          obtain ⟨_, called, tables⟩ := onCloud_ok.mp written
          cases called
          have rows : after.tables.rows = database.tables.rows := by
            simp only [AdministrationTables.rows, tables, members, states, organizations]
          exact rows ▸ .kept

end Effects

end NebulaCloud.Organization
