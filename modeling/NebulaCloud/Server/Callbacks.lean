import NebulaCloud.Data.Program
import NebulaCloud.Server.Request
import NebulaCloud.Usage.Reports

namespace NebulaCloud.Server

open NebulaCloud.Data NebulaCloud.Database NebulaCloud.Platform NebulaCloud.Usage
open NebulaCloud.Contact (ContactRequestCursor)

/-! # Callbacks

The handler of the control plane has its callbacks from outside.  Each of them may be
missing, may take its time, and may throw. -/

structure Session where
  userId : String
  email : Option String
  activeOrganizationId : Option String
deriving DecidableEq, Repr

/-- The classes of errors that the handler tells apart. -/
inductive ErrorClass
  | organizationAccessDenied
  | billingSubscriptionRequired
  | contactRateLimit
  | organizationMemberMutation
  | operatorEntitlementRequired
  | operatorSeatCapacity
  | platformControlPaused (control : PlatformControlName)
  | planAccountConflict
  | usageAccessDenied
  | workspaceMembershipNotFound
  | stripeWebhookVerification
  | resendWebhookVerification
  | error
  /-- What has been thrown is no `Error`. -/
  | other
deriving DecidableEq, Repr

structure ServerError where
  kind : ErrorClass
  message : String
  code : String
deriving DecidableEq, Repr

/-! ## Replies -/

inductive ReplyBody
  | empty
  | json (value : Json)
  /-- `CloudErrorResponse`. -/
  | failure (error code : String) (retryable : Option Bool)
  | contactRequests (requests : List ContactRequestRow) (nextCursor : Option String)
  | usage (usage : OrganizationUsageSummary)
  | csv (filename : String) (text : List Char) (truncated : Bool)
  /-- What a service, a runtime or the authentication library has answered. -/
  | stream (bytes : List UInt8)

structure Reply where
  status : Nat
  body : ReplyBody

/-! ## Questions -/

inductive Administration
  | contact | entitlement | platform | worker
deriving DecidableEq, Repr

inductive PublicationOperation
  | listWorkspacePublications
  | upsertWorkspacePublication (name : List Char) (port : Int) (protocol : PublishedServiceProtocol)
      (visibility : PublishedServiceVisibility) (ttlSeconds : Option Int)
  | revokeWorkspacePublication (name : List Char)

inductive ContactOperation
  | listContactRequests (status : Option ContactRequestStatus) (limit : Int) (before : Option ContactRequestCursor)
  | updateContactRequestStatus (requestId : String) (status : ContactRequestStatus)

inductive EntitlementOperation
  | upsertOperatorEntitlement (membershipId : String) (body : Json)
  | revokeOperatorEntitlement (membershipId organizationId : String)

inductive PlatformOperation
  | listPlatformControls
  | updatePlatformControl (name : PlatformControlName) (update : Json) (actor : String)
  | revokeOrganizationPublications (organizationId actor reason : String)

inductive WorkerOperation
  | listWorkerHosts
  | registerWorkerHost (body : Json)
  | updateWorkerHost (workerHostId : String) (update : Json) (actor : Option String)

/-- What users do for themselves, in organizations that they name. -/
inductive AccountOperation
  | listPlanAccounts
  | createPlanAccount (accountType plan organizationId : String)
  | joinOrganization (code : String)
  | ensurePersonalWorkspace (organizationId : String)
  | ensureWorkspaceRunning (organizationId : String)

inductive OrganizationOperation
  | getOrganizationMembers
  | setOrganizationMemberDisabled (membershipId : String) (disabled : Bool)
  | assignStripeOperatorSeat (membershipId : String)
  | revokeStripeOperatorSeat (membershipId : String)
  | getOrganizationOperators
  | getOrganizationPublications
  | setOrganizationPublicationConnected (workspaceId : String) (name : List Char) (connected : Bool)
  | getOrganizationDashboard (since : Int)
  | getOrganizationAdmin
  | getOrganizationAudit (limit : Int) (before : Option Int)
  | rotateOrganizationJoinCode
  | updateOrganization (name : String)
  | reconcileUsage
  | getPersonalUsage (since rangeDays : Int)
  | getOrganizationUsage (since rangeDays : Int)

inductive WorkspaceOperation
  | restartWorkspace
  | getOperatorRuntime
  | proxyRuntime (runtimePath : String)

inductive Question
  | resolveSession
  | authorize (administration : Administration)
  | authenticateWorkspacePublication (workspaceId : String)
  | platformControlPaused (name : PlatformControlName)
  | isReady
  | authHandler
  | handleStripeWebhook (rawBody : List UInt8) (signature : String)
  | handleResendWebhook (rawBody : List UInt8)
  | proxyPublishedService (slug servicePath : List Char)
  | submitContact (input : ContactRequestInput) (sourceAddress : Option String)
  | getInvitationStatus (invitationId userEmail : String)
  | publication (operation : PublicationOperation) (workspaceId : String)
  | contactAdministration (operation : ContactOperation)
  | entitlementAdministration (operation : EntitlementOperation)
  | platformAdministration (operation : PlatformOperation)
  | workerAdministration (operation : WorkerOperation)
  | account (operation : AccountOperation) (userId : String)
  | organization (operation : OrganizationOperation) (userId organizationId : String)
  | workspace (operation : WorkspaceOperation) (workspaceId userId organizationId : String)

/-- A page that is not the last one is not empty. -/
structure ContactRequestsPage where
  requests : List ContactRequestRow
  nextCursor : Option ContactRequestCursor
  continues : nextCursor ≠ none → requests ≠ []

abbrev PublicationOperation.Told : PublicationOperation → Type
  | .revokeWorkspacePublication _ => Bool
  | _ => Json

abbrev ContactOperation.Told : ContactOperation → Type
  | .listContactRequests _ _ _ => ContactRequestsPage
  | .updateContactRequestStatus _ _ => Option Json

abbrev EntitlementOperation.Told : EntitlementOperation → Type
  | .upsertOperatorEntitlement _ _ => Json
  | .revokeOperatorEntitlement _ _ => Option Json

abbrev WorkerOperation.Told : WorkerOperation → Type
  | .updateWorkerHost _ _ _ => Option Json
  | _ => Json

abbrev OrganizationOperation.Told : OrganizationOperation → Type
  | .revokeStripeOperatorSeat _ | .setOrganizationPublicationConnected _ _ _ => Option Json
  | .updateOrganization _ | .reconcileUsage => Unit
  | .getPersonalUsage _ _ => JsonRecord
  | .getOrganizationUsage _ _ => OrganizationUsageSummary
  | _ => Json

abbrev WorkspaceOperation.Told : WorkspaceOperation → Type
  | .restartWorkspace | .getOperatorRuntime => Option Json
  | .proxyRuntime _ => Reply

abbrev Question.Told : Question → Type
  | .resolveSession => Option Session
  | .authorize _ | .authenticateWorkspacePublication _ | .platformControlPaused _ | .isReady => Bool
  | .authHandler | .proxyPublishedService _ _ => Reply
  | .handleStripeWebhook _ _ => JsonRecord
  | .handleResendWebhook _ | .submitContact _ _ | .getInvitationStatus _ _ | .platformAdministration _
  | .account _ _ => Json
  | .publication operation _ => operation.Told
  | .contactAdministration operation => operation.Told
  | .entitlementAdministration operation => operation.Told
  | .workerAdministration operation => operation.Told
  | .organization operation _ _ => operation.Told
  | .workspace operation _ _ _ => operation.Told

abbrev Question.Answer (question : Question) : Type := Except ServerError question.Told

/-- What has been asked and answered. -/
abbrev History := List (Sigma Question.Answer)

/-! ## Options -/

inductive Callback
  | authHandler | handleStripeWebhook | handleResendWebhook | resolveSession | getInvitationStatus
  | listPlanAccounts | createPlanAccount | ensurePersonalWorkspace | ensureWorkspaceRunning | restartWorkspace
  | getOperatorRuntime | proxyRuntime | authenticateWorkspacePublication | listWorkspacePublications
  | upsertWorkspacePublication | revokeWorkspacePublication | proxyPublishedService | getPersonalUsage
  | getOrganizationUsage | getOrganizationMembers | setOrganizationMemberDisabled | assignStripeOperatorSeat
  | revokeStripeOperatorSeat | getOrganizationOperators | getOrganizationPublications
  | setOrganizationPublicationConnected | getOrganizationDashboard | getOrganizationAdmin | getOrganizationAudit
  | rotateOrganizationJoinCode | joinOrganization | updateOrganization | reconcileUsage
  | authorizeWorkerAdministration | listWorkerHosts | registerWorkerHost | updateWorkerHost
  | authorizePlatformAdministration | listPlatformControls | updatePlatformControl | platformControlPaused
  | revokeOrganizationPublications | authorizeEntitlementAdministration | upsertOperatorEntitlement
  | revokeOperatorEntitlement | authorizeContactAdministration | listContactRequests
  | updateContactRequestStatus | submitContact | isReady
deriving DecidableEq, Repr

structure ControlPlaneHandlerOptions where
  version : String
  trustedContactOrigins : List String
  publishedServiceHostnameSuffix : Option (List Char)
  given : Callback → Bool

/-- What the engine itself throws. -/
inductive EngineError
  | body (failure : BodyFailure)
  | invalidTime
  | propertyOfNull

/-- `ControlPlaneRequestContext`, with what `Date.now()` reads and the texts of the engine. -/
structure RequestContext where
  clientAddress : Option String
  now : Int
  engineMessage : EngineError → String

/-! ## Programs of the handler -/

/-- The promise of a reply; an error rejects it. -/
abbrev Handling := Program Question Question.Answer (Except ServerError Reply)

def reply (answer : Reply) : Handling := .done (.ok answer)

/-- A callback outside of every `try`. -/
def await (question : Question) (next : question.Told → Handling) : Handling :=
  .ask question fun
    | .error error => .done (.error error)
    | .ok told => next told

/-- A callback in a `try`. -/
def attempt (question : Question) (failed : ServerError → Reply) (next : question.Told → Reply) : Handling :=
  .ask question fun
    | .error error => reply (failed error)
    | .ok told => reply (next told)

/-- An error of the engine outside of every `try`. -/
def throwEngine (context : RequestContext) (error : EngineError) : Handling :=
  .done (.error ⟨.error, context.engineMessage error, ""⟩)

def json (value : Json) (status : Nat) : Reply := ⟨status, .json value⟩

def refusal (status : Nat) (error code : String) : Reply := ⟨status, .failure error code none⟩

def retryable (status : Nat) (error code : String) : Reply := ⟨status, .failure error code (some true)⟩

def notFound : Reply := refusal 404 "route not found" "not_found"

def authenticationRequired : Reply := refusal 401 "authentication required" "authentication_required"

def methodNotAllowed : Reply := refusal 405 "method not allowed" "method_not_allowed"

def invalidRequest (error : String) : Reply := refusal 400 error "invalid_request"

/-- `value ? json(value) : json(missing)`. -/
def jsonOr (missing : Reply) : Option Json → Reply
  | none => missing
  | some value => json value 200

section Sessions

variable (options : ControlPlaneHandlerOptions)

def withSession (next : Session → Handling) : Handling :=
  if options.given .resolveSession then
    await .resolveSession fun
      | none => reply authenticationRequired
      | some session => next session
  else reply authenticationRequired

/-- With an active organization, which the text of the error names. -/
def withOrganization (missing : Reply) (next : Session → String → Handling) : Handling :=
  withSession options fun session =>
    match session.activeOrganizationId.filter (· ≠ "") with
    | none => reply missing
    | some organizationId => next session organizationId

def activeOrganizationRequired : Reply :=
  refusal 403 "an active organization is required" "active_organization_required"

/-- `platformControlPaused?.('publication')`. -/
def unlessPublicationPaused (error : String) (next : Handling) : Handling :=
  if options.given .platformControlPaused then
    await (.platformControlPaused .publication) fun isPaused =>
      if isPaused then reply (retryable 503 error "platform_publication_paused") else next
  else next

end Sessions

end NebulaCloud.Server
