import NebulaCloud.Ingress.HostRouting
import NebulaCloud.Server.Routes

namespace NebulaCloud.Server

open NebulaCloud.Access NebulaCloud.Data NebulaCloud.Database NebulaCloud.Platform
open NebulaCloud.Ingress (matchPublishedServiceHostname)

/-! # The handler of the control plane -/

section Organizations

variable (options : ControlPlaneHandlerOptions) (context : RequestContext) (request : ServerRequest)
  (lower : List Char → List Char)

/-! ## Routes of an organization -/

structure OrganizationMatches where
  members : Option (List String)
  member : Option (List String)
  operatorSeat : Option (List String)
  operators : Option (List String)
  publications : Option (List String)
  publication : Option (List String)
  dashboard : Option (List String)
  admin : Option (List String)
  audit : Option (List String)
  joinCode : Option (List String)
  organization : Option (List String)

def organizationMatches (pathname : String) : OrganizationMatches where
  members := matchRoute organizationMembersPath pathname
  member := matchRoute organizationMemberPath pathname
  operatorSeat := matchRoute organizationOperatorSeatPath pathname
  operators := matchRoute organizationOperatorsPath pathname
  publications := matchRoute organizationPublicationsPath pathname
  publication := matchRoute organizationPublicationPath pathname
  dashboard := matchRoute organizationDashboardPath pathname
  admin := matchRoute organizationAdminPath pathname
  audit := matchRoute organizationAuditPath pathname
  joinCode := matchRoute organizationJoinCodePath pathname
  organization := matchRoute organizationPath pathname

/-- Whether the path is one of them. -/
def OrganizationMatches.any (matched : OrganizationMatches) (method : String) : Bool :=
  [matched.members, matched.member, matched.operatorSeat, matched.operators, matched.publications,
      matched.publication, matched.dashboard, matched.admin, matched.audit, matched.joinCode].any (·.isSome) ||
    matched.organization.isSome && method = "PATCH"

def OrganizationMatches.encodedOrganizationId (matched : OrganizationMatches) : Option String :=
  [matched.members, matched.member, matched.operatorSeat, matched.operators, matched.publications,
    matched.publication, matched.dashboard, matched.admin, matched.audit, matched.joinCode,
    matched.organization].findSome? (captured · 1)

/-- The `catch` around all of them. -/
def organizationFailure (error : ServerError) : Reply :=
  match error.kind with
  | .platformControlPaused .publication =>
      retryable 503 "publication changes are temporarily paused" "platform_publication_paused"
  | kind =>
      if isPublicationLimit error then refusal 409 error.message error.code
      else
        match kind with
        | .organizationAccessDenied => refusal 403 error.message error.code
        | .organizationMemberMutation => refusal 400 error.message error.code
        | .operatorSeatCapacity | .billingSubscriptionRequired => refusal 409 error.message error.code
        | _ => refusal 500 "organization operation failed" "organization_operation_failed"

/-- What the engine throws is caught there as well. -/
def caughtEngine : Reply := organizationFailure ⟨.error, "", ""⟩

section Session

variable (session : Session) (organizationId : String)

/-- An operation for the user and the organization of the session. -/
def operate (operation : OrganizationOperation) (answered : operation.Told → Reply) : Handling :=
  attempt (.organization operation session.userId organizationId) organizationFailure answered

def setMemberDisabled (encodedMembershipId : String) : Handling :=
  match decodeURIComponent encodedMembershipId with
  | none => reply (invalidRequest "membership id is invalid")
  | some membershipId =>
      match (requestJson request).toOption.bind propertiesOf with
      | none => reply caughtEngine
      | some fields =>
          match fields.get "disabled" with
          | some (.boolean disabled) =>
              operate session organizationId (.setOrganizationMemberDisabled membershipId disabled) (json · 200)
          | _ => reply (invalidRequest "disabled must be a boolean")

def seatUnavailable : Reply :=
  retryable 503 "paid seat assignment is unavailable" "seat_assignment_unavailable"

def changeSeat (encodedMembershipId : String) : Handling :=
  match decodeURIComponent encodedMembershipId with
  | none => reply (invalidRequest "membership id is invalid")
  | some membershipId =>
      if trim membershipId = "" then reply (invalidRequest "membership id is required")
      else if request.method = "PUT" then
        if options.given .assignStripeOperatorSeat then
          operate session organizationId (.assignStripeOperatorSeat membershipId) (json · 200)
        else reply seatUnavailable
      else if options.given .revokeStripeOperatorSeat then
        operate session organizationId (.revokeStripeOperatorSeat membershipId)
          (jsonOr (refusal 404 "paid Operator seat not found" "not_found"))
      else reply seatUnavailable

def setPublicationConnected (encodedWorkspaceId encodedName : String) : Handling :=
  match decodeURIComponent encodedWorkspaceId, decodeURIComponent encodedName with
  | some workspaceId, some decodedName =>
      let name := lower decodedName.toList
      if trim workspaceId = "" ∨ ¬ isPublishedServiceName name then reply publicationRouteInvalid
      else
        match readBoundedJSON request publicationRequestMaximumBytes with
        | .error _ => reply invalidJson
        | .ok body =>
            match (recordOf body ["connected"]).bind (·.get "connected") with
            | some (.boolean connected) =>
                operate session organizationId (.setOrganizationPublicationConnected workspaceId name connected)
                  (jsonOr (refusal 404 "published service not found" "not_found"))
            | _ => reply (invalidRequest "connected must be a boolean")
  | _, _ => reply publicationRouteInvalid

def organizationAudit : Handling :=
  let before := (request.searchParam "before").map fun text => asInteger (numberOf text)
  match asInteger (numberOf ((request.searchParam "limit").getD "50")) with
  | none => reply (invalidRequest "invalid audit pagination")
  | some limit =>
      if limit < 1 ∨ 200 < limit ∨ before.any (fun before => !before.any fun time => 1 ≤ time && time ≤ maxSafeInteger)
      then reply (invalidRequest "invalid audit pagination")
      else operate session organizationId (.getOrganizationAudit limit (before.bind id)) (json · 200)

def updateOrganization : Handling :=
  match (requestJson request).toOption.bind propertiesOf with
  | none => reply caughtEngine
  | some fields =>
      match asText (fields.get "name") with
      | none => reply (invalidRequest "organization name is required")
      | some name =>
          operate session organizationId (.updateOrganization name) fun _ =>
            json (.object [("organizationId", .string organizationId), ("name", .string (trim name))]) 200

def dashboardRange : Int := 30 * 24 * 60 * 60 * 1000

def organizationRequest (matched : OrganizationMatches) : Handling :=
  if request.method = "GET" ∧ matched.members.isSome ∧ options.given .getOrganizationMembers then
    operate session organizationId .getOrganizationMembers (json · 200)
  else if request.method = "PATCH" ∧ matched.member.isSome ∧ options.given .setOrganizationMemberDisabled then
    setMemberDisabled request session organizationId ((captured matched.member 2).getD "")
  else if (request.method = "PUT" ∨ request.method = "DELETE") ∧ matched.operatorSeat.isSome then
    changeSeat options request session organizationId ((captured matched.operatorSeat 2).getD "")
  else if request.method = "GET" ∧ matched.operators.isSome ∧ options.given .getOrganizationOperators then
    operate session organizationId .getOrganizationOperators (json · 200)
  else if request.method = "GET" ∧ matched.publications.isSome ∧ options.given .getOrganizationPublications then
    operate session organizationId .getOrganizationPublications (json · 200)
  else if request.method = "PATCH" ∧ matched.publication.isSome ∧ options.given .setOrganizationPublicationConnected then
    setPublicationConnected request lower session organizationId ((captured matched.publication 2).getD "")
      ((captured matched.publication 3).getD "")
  else if request.method = "GET" ∧ matched.dashboard.isSome ∧ options.given .getOrganizationDashboard then
    operate session organizationId (.getOrganizationDashboard (context.now - dashboardRange)) (json · 200)
  else if request.method = "GET" ∧ matched.admin.isSome ∧ options.given .getOrganizationAdmin then
    operate session organizationId .getOrganizationAdmin (json · 200)
  else if request.method = "GET" ∧ matched.audit.isSome ∧ options.given .getOrganizationAudit then
    organizationAudit request session organizationId
  else if request.method = "POST" ∧ matched.joinCode.isSome ∧ options.given .rotateOrganizationJoinCode then
    operate session organizationId .rotateOrganizationJoinCode (json · 200)
  else if request.method = "PATCH" ∧ matched.organization.isSome ∧ options.given .updateOrganization then
    updateOrganization request session organizationId
  else reply notFound

end Session

def organizationRoutes (matched : OrganizationMatches) : Handling :=
  withSession options fun session =>
    match matched.encodedOrganizationId.bind decodeURIComponent with
    | none => reply (invalidRequest "organization id is invalid")
    | some organizationId =>
        if session.activeOrganizationId ≠ some organizationId then
          reply (refusal 403 "organization access denied" "organization_access_denied")
        else organizationRequest options context request lower session organizationId matched

end Organizations

/-! ## Dispatch -/

section Dispatch

variable (options : ControlPlaneHandlerOptions) (context : RequestContext) (request : ServerRequest)
  (lower : List Char → List Char)

def serviceName : String := "nebula-cloud-control-plane"

def healthReply (status : String) (code : Nat) : Reply :=
  json (.object [("service", .string serviceName), ("status", .string status),
    ("version", .string options.version)]) code

def withReadiness (next : Bool → Reply) : Handling :=
  if options.given .isReady then await .isReady fun ready => reply (next ready) else reply (next true)

/-- What nobody has to be known for. -/
def healthRoutes : Handling :=
  if request.method = "GET" ∧ request.pathname = "/health/live" then reply (healthReply options "live" 200)
  else if request.method = "GET" ∧ request.pathname = "/health/ready" then
    withReadiness options fun ready =>
      if ready then healthReply options "ready" 200 else healthReply options "not_ready" 503
  else if request.method = "GET" ∧ request.pathname = "/internal/v1/status" then
    withReadiness options fun ready =>
      json (.object [("service", .string serviceName), ("apiVersion", .string "v1"),
        ("version", .string options.version), ("ready", .boolean ready), ("capabilities", .array [])]) 200
  else reply notFound

/-- The routes behind those of the organizations. -/
def workspaceRoutes : Handling :=
  let pathname := request.pathname
  let operator := captured (matchRoute operatorRuntimePath pathname) 1
  let usage := captured (matchRoute organizationUsagePath pathname) 1
  let usageExport := captured (matchRoute organizationUsageExportPath pathname) 1
  let restart := captured (matchRoute restartPath pathname) 1
  if request.method = "GET" ∧ operator.isSome then operatorRuntime options (operator.getD "")
  else if request.method = "GET" ∧ pathname = personalUsagePath then personalUsage options context request
  else if request.method = "GET" ∧ (usage.isSome ∨ usageExport.isSome) then
    organizationUsage options context request ((usage <|> usageExport).getD "") usageExport.isSome
  else if request.method = "POST" ∧ pathname = "/api/workspaces/personal" then
    personalWorkspace options context request
  else if request.method = "POST" ∧ pathname = "/api/workspaces/personal/ensure-running" then
    ensureRunning options context request
  else if request.method = "POST" ∧ restart.isSome then restartWorkspace options (restart.getD "")
  else
    match runtimeRoute pathname with
    | some route => runtime options route
    | none => healthRoutes options request

/-- The routes behind those of the administrators. -/
def userRoutes : Handling :=
  let pathname := request.pathname
  let matched := organizationMatches pathname
  if "/api/auth/".toList <+: pathname.toList then
    if options.given .authHandler then await .authHandler reply
    else reply (retryable 503 "authentication is unavailable" "auth_unavailable")
  else
    match captured (matchRoute invitationStatusPath pathname) 1 with
    | some encodedInvitationId => invitationStatus options request encodedInvitationId
    | none =>
        if pathname = planAccountsPath then planAccounts options context request
        else if request.method = "POST" ∧ pathname = "/api/organizations/join" then
          joinOrganization options context request
        else if matched.any request.method then organizationRoutes options context request lower matched
        else workspaceRoutes options context request

def administrationRoutes : Handling :=
  let pathname := request.pathname
  let contactMemberMatch := matchRoute contactAdministrationMemberPath pathname
  let workerMemberMatch := matchRoute workerAdministrationMemberPath pathname
  let platformControlMemberMatch := matchRoute platformControlAdministrationMemberPath pathname
  if pathname = contactAdministrationPath ∨ pathname = contactAdministrationExportPath ∨
      contactMemberMatch.isSome then
    contactAdministration options context request contactMemberMatch
  else
    match captured (matchRoute operatorEntitlementAdministrationPath pathname) 1,
        captured (matchRoute organizationPublicationRevocationPath pathname) 1 with
    | some encodedMembershipId, _ => entitlementAdministration options request encodedMembershipId
    | none, some encodedOrganizationId => revokeOrganizationPublications options request encodedOrganizationId
    | none, none =>
        if pathname = platformControlAdministrationPath ∨ platformControlMemberMatch.isSome then
          platformControlAdministration options request platformControlMemberMatch
        else if pathname = workerAdministrationPath ∨ workerMemberMatch.isSome then
          workerAdministration options context request workerMemberMatch
        else userRoutes options context request lower

/-- The routes behind those of the published services. -/
def ownRoutes : Handling :=
  let pathname := request.pathname
  if pathname = stripeWebhookPath then stripeWebhook options request lower
  else if pathname = resendWebhookPath then resendWebhook options request
  else
    match captured (matchRoute workspacePublicationsPath pathname) 1,
        matchRoute workspacePublicationPath pathname with
    | some encodedWorkspaceId, _ => workspacePublications options request lower encodedWorkspaceId none
    | none, some [encodedWorkspaceId, encodedName] =>
        workspacePublications options request lower encodedWorkspaceId (some encodedName)
    | none, _ =>
        if request.method = "POST" ∧ pathname = contactPath then contact options context request lower
        else administrationRoutes options context request lower

def createControlPlaneHandler : Handling :=
  let search := request.search.toList
  match matchPublishedServiceHostname lower request.hostname.toList options.publishedServiceHostnameSuffix,
      publishedServicePath request.pathname with
  | .invalid, _ => reply (refusal 404 "published service not found" "not_found")
  | .service slug, _ => publishedServices options request slug (request.pathname.toList ++ search)
  | .none, some (slug, after) => publishedServices options request slug ((if after = [] then ['/'] else after) ++ search)
  | .none, none => ownRoutes options context request lower

end Dispatch

end NebulaCloud.Server
