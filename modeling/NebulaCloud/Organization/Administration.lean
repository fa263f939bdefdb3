import NebulaCloud.Data.System
import NebulaCloud.Data.Upsert
import NebulaCloud.Organization.Members
import NebulaCloud.Publication.WorkspaceServices

namespace NebulaCloud.Organization

open NebulaCloud.Data NebulaCloud.Database NebulaCloud.Platform
open NebulaCloud.Publication (PlanAccountType)

/-! # The administration of an organization

Join codes, disabled members, names and plans.  Each statement commits on its own: a
handler that fails to audit what it has done leaves it done. -/

/-! ## Tables -/

/-- The columns of an organization that only its administration reads. -/
structure OrganizationProfile where
  organizationId : String
  name : String
  slug : String
deriving DecidableEq, Repr

structure OrganizationJoinCodeRow where
  organizationId : String
  lookupKey : String
  createdBy : String
  createdAt : Int
  updatedAt : Int
deriving DecidableEq, Repr

inductive NubolsPlan
  | individual | team | business | enterprise
deriving DecidableEq, Repr

/-- A row of `plan_account`. -/
structure PlanAccount where
  id : String
  accountType : PlanAccountType
  plan : NubolsPlan
  ownerUserId : Option String
  organizationId : String
  createdByUserId : String
  createdAt : Int
  updatedAt : Int
deriving DecidableEq, Repr

/-- The plans that an account type may have. -/
def validPlan : PlanAccountType → NubolsPlan → Bool
  | .individual, plan => plan = .individual
  | .organization, plan => plan = .team || plan = .business || plan = .enterprise

def PlanAccount.Checks (account : PlanAccount) : Prop :=
  0 ≤ account.createdAt ∧ account.createdAt ≤ account.updatedAt ∧
    validPlan account.accountType account.plan = true ∧
    (account.accountType = .individual ↔ account.ownerUserId.isSome)

instance (account : PlanAccount) : Decidable account.Checks := inferInstanceAs (Decidable (_ ∧ _))

structure AdministrationTables where
  cloud : CloudDatabase
  roster : Roster
  profiles : List OrganizationProfile
  joinCodes : List OrganizationJoinCodeRow
  planAccounts : List PlanAccount

namespace AdministrationTables

variable (tables : AdministrationTables)

def members : List MemberRow := tables.cloud.tables.members

def userIds : List String := tables.roster.users.map (·.id)

def organizationIds : List String := tables.cloud.tables.organizationIds

/-- The owners that `plan_account_individual_owner_idx` covers. -/
def individualOwners : List String :=
  (tables.planAccounts.filter (·.accountType = .individual)).filterMap (·.ownerUserId)

end AdministrationTables

inductive AdministrationConstraint
  | planAccountChecks
  | joinCodeOrganization | joinCodeLookupKey
  | planAccountId | planAccountOrganization | planAccountIndividualOwner
  | profileOrganization | memberUser
  | joinCodeOwner | joinCodeCreator | planAccountOwner | planAccountCreator | planAccountOrganizationOwner
deriving DecidableEq, Repr

/-- The message says `UNIQUE constraint failed`. -/
def AdministrationConstraint.unique : AdministrationConstraint → Bool
  | .joinCodeOrganization | .joinCodeLookupKey | .planAccountId | .planAccountOrganization
  | .planAccountIndividualOwner => true
  | _ => false

abbrev AdministrationConstraint.Holds : AdministrationConstraint → AdministrationTables → Prop
  | .planAccountChecks, tables => ∀ account ∈ tables.planAccounts, account.Checks
  | .joinCodeOrganization, tables => (tables.joinCodes.map (·.organizationId)).Nodup
  | .joinCodeLookupKey, tables => (tables.joinCodes.map (·.lookupKey)).Nodup
  | .planAccountId, tables => (tables.planAccounts.map (·.id)).Nodup
  | .planAccountOrganization, tables => (tables.planAccounts.map (·.organizationId)).Nodup
  | .planAccountIndividualOwner, tables => tables.individualOwners.Nodup
  | .profileOrganization, tables => tables.profiles.map (·.organizationId) = tables.organizationIds
  | .memberUser, tables => ∀ member ∈ tables.members, member.userId ∈ tables.userIds
  | .joinCodeOwner, tables => ∀ code ∈ tables.joinCodes, code.organizationId ∈ tables.organizationIds
  | .joinCodeCreator, tables => ∀ code ∈ tables.joinCodes, code.createdBy ∈ tables.userIds
  | .planAccountOwner, tables =>
      ∀ account ∈ tables.planAccounts, ∀ owner ∈ account.ownerUserId, owner ∈ tables.userIds
  | .planAccountCreator, tables =>
      ∀ account ∈ tables.planAccounts, account.createdByUserId ∈ tables.userIds
  | .planAccountOrganizationOwner, tables =>
      ∀ account ∈ tables.planAccounts, account.organizationId ∈ tables.organizationIds

instance (constraint : AdministrationConstraint) (tables : AdministrationTables) :
    Decidable (constraint.Holds tables) := by
  cases constraint <;> infer_instance

def AdministrationConstraint.all : List AdministrationConstraint :=
  [.planAccountChecks, .joinCodeOrganization, .joinCodeLookupKey, .planAccountId, .planAccountOrganization,
   .planAccountIndividualOwner, .profileOrganization, .memberUser, .joinCodeOwner, .joinCodeCreator,
   .planAccountOwner, .planAccountCreator, .planAccountOrganizationOwner]

def administrationSchema : Schema AdministrationTables AdministrationConstraint where
  Holds := AdministrationConstraint.Holds
  decidable := inferInstance
  constraints := AdministrationConstraint.all
  complete constraint := by cases constraint <;> decide

abbrev AdministrationDatabase := Store administrationSchema

/-! ## Failures -/

inductive AdministrationFailure
  | database (failure : Failure)
  | broken (constraint : AdministrationConstraint)
  | memberMutation (code message : String)
  | planAccountConflict (message : String)
  | error (message : String)
deriving DecidableEq, Repr

/-- `OrganizationAccessDeniedError`. -/
abbrev accessDenied : AdministrationFailure := .database .organizationAccessDenied

/-- What a call on the cloud's own tables leaves. -/
def onCloud (database : AdministrationDatabase) (called : Except Failure CloudDatabase) :
    Except AdministrationFailure AdministrationDatabase :=
  match called with
  | .error failure => .error (.database failure)
  | .ok cloud => database.execute .broken fun tables => { tables with cloud }

/-! ## Disabled members -/

structure SetMemberDisabledOptions where
  userId : String
  organizationId : String
  membershipId : String
  disabled : Bool
deriving DecidableEq, Repr

/-- The checks of `setOrganizationMemberDisabled` and the member they let through. -/
def requireMutableMember (cloud : CloudDatabase) (options : SetMemberDisabledOptions) :
    Except AdministrationFailure MemberRow :=
  match requireOrganizationAdmin cloud options.userId options.organizationId with
  | .error failure => .error (.database failure)
  | .ok _ =>
      match cloud.tables.members.find? fun member =>
          member.id = options.membershipId && member.organizationId = options.organizationId with
      | none => .error (.memberMutation "member_not_found" "Organization member not found")
      | some target =>
          if target.role = "owner" then
            .error (.memberMutation "owner_protected" "The organization owner cannot be disabled")
          else if target.userId = options.userId then
            .error (.memberMutation "self_protected" "You cannot disable your own membership")
          else .ok target

def writeMemberState (options : SetMemberDisabledOptions) (tables : Tables) : Tables :=
  { tables with
    memberStates :=
      (upsert (·.memberId) (fun _ _ => true) (fun excluded _ => excluded)
        { memberId := options.membershipId, disabled := options.disabled } tables.memberStates).1 }

/-- The answer is read back from the listing at `readAt`. -/
def setOrganizationMemberDisabled (database : AdministrationDatabase) (options : SetMemberDisabledOptions)
    (readAt : Int) : AdministrationDatabase × Except AdministrationFailure OrganizationMemberSummary :=
  match requireMutableMember database.tables.cloud options with
  | .error failure => (database, .error failure)
  | .ok _ =>
      match onCloud database (statement database.tables.cloud (writeMemberState options)) with
      | .error failure => (database, .error failure)
      | .ok database =>
          match getOrganizationMembers database.tables.roster database.tables.cloud
              ⟨options.userId, options.organizationId⟩ readAt with
          | .error failure => (database, .error (.database failure))
          | .ok listing =>
              match listing.members.find? (·.membershipId = options.membershipId) with
              | none => (database, .error (.error "Organization member could not be reloaded"))
              | some member => (database, .ok member)

/-! ## Join codes -/

section Codes

variable (hmac toUpperCase : String → String)

/-- The first twelve digits of the digest. -/
def organizationCodeSignature (organizationId lookupKey : String) : String :=
  toUpperCase (slice (hmac (organizationId ++ ":" ++ lookupKey)) 12)

def organizationCode (organizationId lookupKey : String) : String :=
  "NBL-" ++ lookupKey ++ "-" ++ organizationCodeSignature hmac toUpperCase organizationId lookupKey

def isCodeDigit (c : Char) : Bool := ('A' ≤ c && c ≤ 'F') || ('0' ≤ c && c ≤ '9')

/-- `[A-F0-9]{12}`. -/
def IsCodePart (part : List Char) : Prop := part.length = 12 ∧ part.all isCodeDigit = true

instance (part : List Char) : Decidable (IsCodePart part) := inferInstanceAs (Decidable (_ ∧ _))

/-- What `/^NBL-([A-F0-9]{12})-([A-F0-9]{12})$/` captures. -/
def matchOrganizationCode (normalized : String) : Option (String × String) :=
  match normalized.toList with
  | 'N' :: 'B' :: 'L' :: '-' :: rest =>
      match rest.drop 12 with
      | '-' :: signature =>
          if IsCodePart (rest.take 12) ∧ IsCodePart signature then
            some (String.ofList (rest.take 12), String.ofList signature)
          else none
      | _ => none
  | _ => none

end Codes

structure RotateJoinCodeOptions where
  userId : String
  organizationId : String
  lookupKey : String
  now : Int
deriving DecidableEq, Repr

/-- The row of a first code. -/
def joinCodeRow (options : RotateJoinCodeOptions) : OrganizationJoinCodeRow where
  organizationId := options.organizationId
  lookupKey := options.lookupKey
  createdBy := options.userId
  createdAt := options.now
  updatedAt := options.now

/-- `DO UPDATE` keeps the time of the first code. -/
def replaceJoinCode (excluded stored : OrganizationJoinCodeRow) : OrganizationJoinCodeRow :=
  { excluded with createdAt := stored.createdAt }

def writeJoinCode (options : RotateJoinCodeOptions) (tables : AdministrationTables) : AdministrationTables :=
  { tables with
    joinCodes := (upsert (·.organizationId) (fun _ _ => true) replaceJoinCode (joinCodeRow options)
      tables.joinCodes).1 }

def rotateOrganizationJoinCode (database : AdministrationDatabase) (options : RotateJoinCodeOptions) :
    Except AdministrationFailure AdministrationDatabase :=
  match requireOrganizationAdmin database.tables.cloud options.userId options.organizationId with
  | .error failure => .error (.database failure)
  | .ok _ => database.execute .broken (writeJoinCode options)

def resolveOrganizationJoinCode (database : AdministrationDatabase) (lookupKey : String) :
    Option OrganizationJoinCodeRow :=
  lookup (·.lookupKey) database.tables.joinCodes lookupKey

structure JoinOptions where
  userId : String
  organizationId : String
  createId : String
  now : Int
deriving DecidableEq, Repr

/-- The membership of one who joins. -/
def joinedMember (options : JoinOptions) : MemberRow where
  id := options.createId
  userId := options.userId
  organizationId := options.organizationId
  role := "member"

def writeMember (options : JoinOptions) (tables : Tables) : Tables :=
  { tables with members := tables.members ++ [joinedMember options] }

def Roster.joined (roster : Roster) (options : JoinOptions) : Roster :=
  { roster with
    joinedAt := fun memberId => if memberId = options.createId then options.now else roster.joinedAt memberId }

def joinOrganizationById (database : AdministrationDatabase) (options : JoinOptions) :
    Except AdministrationFailure (AdministrationDatabase × String) :=
  if options.userId ∉ database.tables.userIds then
    .error (.memberMutation "user_not_found" "User not found")
  else if options.organizationId ∉ database.tables.organizationIds then
    .error (.memberMutation "organization_not_found" "Organization not found")
  else
    match findMembership database.tables.cloud.tables options.userId options.organizationId with
    | some existing => .ok (database, existing.id)
    | none =>
        match statement database.tables.cloud (writeMember options) with
        | .error failure => .error (.database failure)
        | .ok cloud => do
            let database ← database.execute .broken fun tables =>
              { tables with cloud, roster := tables.roster.joined options }
            .ok (database, options.createId)

/-! ## Names -/

structure UpdateOrganizationOptions where
  userId : String
  organizationId : String
  name : String
deriving DecidableEq, Repr

def updateOrganizationName (database : AdministrationDatabase) (options : UpdateOrganizationOptions) :
    Except AdministrationFailure AdministrationDatabase :=
  match requireOrganizationAdmin database.tables.cloud options.userId options.organizationId with
  | .error failure => .error (.database failure)
  | .ok _ =>
      if trim options.name = "" ∨ 120 < utf16Length (trim options.name) then
        .error (.memberMutation "invalid_organization_name"
          "Organization name must contain between 1 and 120 characters")
      else
        database.execute .broken fun tables =>
          { tables with
            profiles := updateWhere (fun profile => profile.organizationId = options.organizationId)
              (fun profile => { profile with name := trim options.name }) tables.profiles }

/-! ## Plans -/

structure PlanAccountSummary where
  account : PlanAccount
  organizationName : String
  organizationSlug : String
deriving DecidableEq, Repr

/-- `INNER JOIN organization`. -/
def toPlanAccount (tables : AdministrationTables) (account : PlanAccount) : Option PlanAccountSummary :=
  (lookup (·.organizationId) tables.profiles account.organizationId).map fun profile =>
    { account, organizationName := profile.name, organizationSlug := profile.slug }

def getPlanAccountByOrganizationId (database : AdministrationDatabase) (organizationId : String) :
    Option PlanAccountSummary :=
  (lookup (·.organizationId) database.tables.planAccounts (trim organizationId)).bind
    (toPlanAccount database.tables)

/-- `LEFT JOIN member`: the memberships of the user in an organization, or nothing once. -/
def joinedMemberships (tables : Tables) (userId organizationId : String) : List (Option MemberRow) :=
  match tables.members.filter fun member =>
      member.organizationId = organizationId && member.userId = userId with
  | [] => [none]
  | memberships => memberships.map some

/-- The `WHERE` clause of the listing on one joined row. -/
def listsAccount (tables : Tables) (userId : String) (account : PlanAccount) (member : Option MemberRow) : Bool :=
  match account.accountType with
  | .individual => account.ownerUserId = some userId
  | .organization => member.any fun member => !memberDisabled tables member.id

/-- The `ORDER BY` of the listing. -/
def planAccountOrder (left right : PlanAccountSummary) : Prop :=
  let rank (summary : PlanAccountSummary) : Nat := if summary.account.accountType = .individual then 0 else 1
  rank left < rank right ∨ (rank left = rank right ∧
    (nocase left.organizationName < nocase right.organizationName ∨
      (nocase left.organizationName = nocase right.organizationName ∧ left.account.id ≤ right.account.id)))

instance : DecidableRel planAccountOrder := fun _ _ => inferInstanceAs (Decidable (_ ∨ _))

def listPlanAccountsForUser (database : AdministrationDatabase) (userId : String) :
    Except AdministrationFailure (List PlanAccountSummary) :=
  if trim userId = "" then .error (.error "userId is required")
  else
    let cloud := database.tables.cloud.tables
    let listed := database.tables.planAccounts.flatMap fun account =>
      ((joinedMemberships cloud (trim userId) account.organizationId).filter
        (listsAccount cloud (trim userId) account)).filterMap fun _ => toPlanAccount database.tables account
    .ok (listed.insertionSort planAccountOrder)

structure CreatePlanAccountOptions where
  userId : String
  accountType : PlanAccountType
  plan : NubolsPlan
  organizationId : String
  createId : String
  now : Int
deriving DecidableEq, Repr

/-- The row that is inserted, for the trimmed identifiers. -/
def planAccountRow (options : CreatePlanAccountOptions) : PlanAccount where
  id := options.createId
  accountType := options.accountType
  plan := options.plan
  ownerUserId := if options.accountType = .individual then some (trim options.userId) else none
  organizationId := trim options.organizationId
  createdByUserId := trim options.userId
  createdAt := options.now
  updatedAt := options.now

/-- The account that a repeated call asks for. -/
def asksFor (options : CreatePlanAccountOptions) (existing : PlanAccount) : Bool :=
  existing.accountType = options.accountType && existing.plan = options.plan &&
    (options.accountType ≠ .individual || existing.ownerUserId = some (trim options.userId))

/-- A broken unique index is a conflict. -/
def insertFailure : AdministrationConstraint → AdministrationFailure
  | constraint =>
      if constraint.unique then
        .planAccountConflict "This user or organization already has a plan account"
      else .broken constraint

/-- The transaction of `createPlanAccount`. -/
def createPlanAccountBody (database : AdministrationDatabase) (options : CreatePlanAccountOptions) :
    Except AdministrationFailure (AdministrationDatabase × PlanAccountSummary) :=
  match findMembership database.tables.cloud.tables (trim options.userId) (trim options.organizationId) with
  | none => .error accessDenied
  | some membership =>
      if memberDisabled database.tables.cloud.tables membership.id ∨ membership.role ≠ "owner" then
        .error accessDenied
      else
        match getPlanAccountByOrganizationId database (trim options.organizationId) with
        | some existing =>
            if asksFor options existing.account then .ok (database, existing)
            else .error (.planAccountConflict "This organization already has a different plan account")
        | none => do
            let database ← database.execute insertFailure fun tables =>
              { tables with planAccounts := tables.planAccounts ++ [planAccountRow options] }
            match getPlanAccountByOrganizationId database (trim options.organizationId) with
            | none => .error (.error "Plan account could not be created")
            | some created => .ok (database, created)

def createPlanAccount (database : AdministrationDatabase) (options : CreatePlanAccountOptions) :
    AdministrationDatabase × Except AdministrationFailure PlanAccountSummary :=
  if trim options.userId = "" then (database, .error (.error "userId is required"))
  else if trim options.organizationId = "" then (database, .error (.error "organizationId is required"))
  else if validPlan options.accountType options.plan = false then
    (database, .error (.error "The selected plan does not match the account type"))
  else commit database (createPlanAccountBody database options)

end NebulaCloud.Organization
