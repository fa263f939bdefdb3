import NebulaCloud.Database.PublishedService
import NebulaCloud.Server.Administration

namespace NebulaCloud.Server

open NebulaCloud.Access NebulaCloud.Data NebulaCloud.Database NebulaCloud.Platform
open NebulaCloud.Export (organizationUsageCSV)

/-! # The routes of everybody else

Services and workspaces prove themselves to the callbacks; users have sessions. -/

section Routes

variable (options : ControlPlaneHandlerOptions) (context : RequestContext) (request : ServerRequest)
  (lower : List Char → List Char)

/-! ## Published services -/

def publishedServices (slug servicePath : List Char) : Handling :=
  if request.method = "CONNECT" ∨ request.method = "TRACE" then reply methodNotAllowed
  else if (request.header "upgrade").isSome then
    reply (refusal 426 "protocol upgrades are not supported" "upgrade_not_supported")
  else
    unlessPublicationPaused options "published services are temporarily paused" <|
    if options.given .proxyPublishedService then
      attempt (.proxyPublishedService slug servicePath)
        (fun _ => retryable 503 "published service is unavailable" "published_service_unavailable") id
    else reply (refusal 404 "published service not found" "not_found")

/-! ## Webhooks -/

def handleStripeWebhook (rawBody : List UInt8) (signature : String) : Handling :=
  attempt (.handleStripeWebhook rawBody signature)
    (fun error =>
      if error.kind = .stripeWebhookVerification then refusal 400 error.message error.code
      else retryable 503 "Stripe webhook processing failed" "stripe_webhook_processing_failed")
    (fun result => json (.object (("received", .boolean true) :: result)) 200)

def stripeWebhook : Handling :=
  if request.method ≠ "POST" then reply methodNotAllowed
  else if ¬ options.given .handleStripeWebhook then
    reply (retryable 503 "Stripe webhooks are unavailable" "stripe_webhook_unavailable")
  else
    let signature := trim ((request.header "stripe-signature").getD "")
    if signature = "" then
      reply (refusal 400 "Stripe webhook signature required" "stripe_webhook_verification_failed")
    else if ¬ "application/json".toList <+: lower ((request.header "content-type").getD "").toList then
      reply (invalidRequest "invalid Stripe webhook")
    else
      match readBoundedBytes request stripeWebhookMaximumBytes with
      | .error .requestTooLarge => reply (refusal 413 "Stripe webhook is too large" "request_too_large")
      | .error _ => reply (invalidRequest "invalid Stripe webhook")
      | .ok rawBody =>
          if rawBody = [] then reply (invalidRequest "invalid Stripe webhook")
          else handleStripeWebhook rawBody signature

/-- Its refusals say that they cannot be retried. -/
def resendWebhook : Handling :=
  if request.method ≠ "POST" then reply methodNotAllowed
  else if ¬ options.given .handleResendWebhook then
    reply (retryable 503 "Resend webhooks are unavailable" "resend_webhook_unavailable")
  else
    let failed := retryable 503 "Resend webhook processing failed" "resend_webhook_processing_failed"
    match readBoundedBytes request (256 * 1024) with
    | .error .requestTooLarge =>
        reply ⟨413, .failure "Resend webhook is too large" "request_too_large" (some false)⟩
    | .error _ => reply failed
    | .ok rawBody =>
        attempt (.handleResendWebhook rawBody)
          (fun error =>
            if error.kind = .resendWebhookVerification then refusal 400 error.message error.code
            else if error.message = "request_too_large" ∧ error.kind ≠ .other then
              ⟨413, .failure "Resend webhook is too large" "request_too_large" (some false)⟩
            else failed)
          (json · 200)

/-! ## Publications of a workspace -/

def publicationUnavailable : Reply :=
  retryable 503 "workspace publication is unavailable" "workspace_publication_unavailable"

def isPublicationLimit (error : ServerError) : Bool :=
  error.kind ≠ .other && error.code ∈ ["published_service_limit_reached",
    "organization_published_service_limit_reached", "published_service_ingress_capacity_reached"]

/-- The protocol, the visibility and the lifetime that a body asks for. -/
def publicationSettings (fields : JsonRecord) :
    Option (PublishedServiceProtocol × PublishedServiceVisibility × Option Int) := do
  let protocol ← match coalesce (fields.get "protocol") (some (.string "http")) with
    | some (.string "http") => some PublishedServiceProtocol.http
    | some (.string "tcp") => some .tcp
    | _ => none
  let visibility ← match coalesce (fields.get "visibility") (some (.string "public")) with
    | some (.string "public") => some PublishedServiceVisibility.publicAccess
    | some (.string "private") => some .privateAccess
    | _ => none
  if protocol = .tcp ∧ visibility ≠ .publicAccess then none
  else
    match coalesce (fields.get "ttlSeconds") (some .null) with
    | some .null => some (protocol, visibility, none)
    | ttlSeconds =>
        (asSafeInteger ttlSeconds).bind fun seconds =>
          if publishedServiceMinimumTTLSeconds ≤ seconds ∧ seconds ≤ publishedServiceMaximumTTLSeconds then
            some (protocol, visibility, some seconds)
          else none

def publicationFailure (error : ServerError) : Reply :=
  if isPublicationLimit error then
    refusal 409
      (if error.code = "published_service_ingress_capacity_reached" then "TCP ingress capacity reached"
      else if error.code = "organization_published_service_limit_reached" then
        "organization published service limit reached"
      else "published service limit reached")
      error.code
  else retryable 503 "workspace publication failed" "workspace_publication_failed"

def upsertWorkspacePublication (workspaceId : String) (name : List Char) : Handling :=
  unlessPublicationPaused options "publication changes are temporarily paused" <|
  if ¬ options.given .upsertWorkspacePublication then reply publicationUnavailable
  else
    match readBoundedJSON request publicationRequestMaximumBytes with
    | .error _ => reply invalidJson
    | .ok body =>
        match (recordOf body ["port", "protocol", "visibility", "ttlSeconds"]).bind fun fields =>
            (publishedServicePort (fields.get "port")).map fun port => (fields, port) with
        | none => reply (invalidRequest "publication request is invalid")
        | some (fields, port) =>
            match publicationSettings fields with
            | none =>
                reply (invalidRequest ("protocol must be http or tcp; TCP publications are public passthrough only; " ++
                  "visibility must be public or private and ttlSeconds must be null or 300-604800"))
            | some (protocol, visibility, ttlSeconds) =>
                attempt (.publication (.upsertWorkspacePublication name port protocol visibility ttlSeconds) workspaceId)
                  publicationFailure (json · 200)

def changeWorkspacePublication (workspaceId : String) (name : List Char) : Handling :=
  if request.method = "PUT" then upsertWorkspacePublication options request workspaceId name
  else if request.method = "DELETE" then
    if options.given .revokeWorkspacePublication then
      await (.publication (.revokeWorkspacePublication name) workspaceId) fun revoked =>
        reply (if revoked then ⟨204, .empty⟩ else refusal 404 "published service not found" "not_found")
    else reply publicationUnavailable
  else reply notFound

def publicationRouteInvalid : Reply := invalidRequest "publication route is invalid"

def workspacePublications (encodedWorkspaceId : String) (encodedName : Option String) : Handling :=
  if ¬ options.given .authenticateWorkspacePublication then reply publicationUnavailable
  else
    match decodeURIComponent encodedWorkspaceId, encodedName.map decodeURIComponent with
    | none, _ | _, some none => reply publicationRouteInvalid
    | some workspaceId, decodedName =>
        let name := (decodedName.bind id).map fun name => lower name.toList
        if trim workspaceId = "" ∨ name.any (!isPublishedServiceName ·) then reply publicationRouteInvalid
        else
          await (.authenticateWorkspacePublication workspaceId) fun authenticated =>
            if ¬ authenticated then
              reply (refusal 401 "workspace authentication required" "workspace_authentication_required")
            else
              match name with
              | none =>
                  if request.method ≠ "GET" then reply notFound
                  else if options.given .listWorkspacePublications then
                    await (.publication .listWorkspacePublications workspaceId) fun publications =>
                      reply (json publications 200)
                  else reply publicationUnavailable
              | some name => changeWorkspacePublication options request workspaceId name

/-! ## Contact -/

def contact : Handling :=
  if ¬ (request.header "origin").any fun origin => origin ≠ "" && origin ∈ options.trustedContactOrigins then
    reply (refusal 403 "contact request origin is not allowed" "contact_origin_denied")
  else if ¬ options.given .submitContact then
    reply (retryable 503 "contact requests are temporarily unavailable" "contact_unavailable")
  else
    match readBoundedJSON request contactRequestMaximumBytes with
    | .error .requestTooLarge => reply (refusal 413 "contact request is too large" "request_too_large")
    | .error _ => reply invalidJson
    | .ok parsed =>
        match contactRequest lower parsed with
        | none => reply (invalidRequest "contact request is invalid")
        | some input =>
            if input.website.isSome then
              reply (json (.object [("requestId", .string input.submissionId), ("status", .string "received")]) 202)
            else
              attempt (.submitContact input context.clientAddress)
                (fun error =>
                  if error.kind = .contactRateLimit then
                    retryable 429 "contact request limit reached; please try again later" error.code
                  else retryable 503 "contact request could not be delivered" "contact_delivery_failed")
                (json · 202)

/-! ## Accounts -/

def invitationStatus (encodedInvitationId : String) : Handling :=
  if request.method ≠ "GET" then reply methodNotAllowed
  else
    withSession options fun session =>
      match session.email.filter (· ≠ "") with
      | none => reply (retryable 503 "invitation status is unavailable" "invitation_status_unavailable")
      | some email =>
          if ¬ options.given .getInvitationStatus then
            reply (retryable 503 "invitation status is unavailable" "invitation_status_unavailable")
          else
            match decodeURIComponent encodedInvitationId with
            | none => reply (invalidRequest "invitation is invalid")
            | some invitationId =>
                if trim invitationId = "" ∨ 256 < utf16Length invitationId then
                  reply (invalidRequest "invitation is invalid")
                else await (.getInvitationStatus invitationId email) fun status => reply (json status 200)

def planAccountsUnavailable : Reply := retryable 503 "plan selection is unavailable" "plan_accounts_unavailable"

def planAccountFailure (error : ServerError) : Reply :=
  match error.kind with
  | .planAccountConflict => refusal 409 error.message error.code
  | .organizationAccessDenied => refusal 403 error.message "organization_access_denied"
  | .other => refusal 500 "plan selection failed" "plan_account_failed"
  | _ => invalidRequest error.message

/-- What the body asks for; `none` where it is invalid. -/
def planAccountRequest (fields : JsonRecord) : Option (String × String × String) := do
  let accountType ← (asText (fields.get "accountType")).filter (· ∈ ["individual", "organization"])
  let plan ← (asText (fields.get "plan")).filter (· ∈ ["individual", "team", "business", "enterprise"])
  let organizationId ← (asText (fields.get "organizationId")).filter (trim · ≠ "")
  some (accountType, plan, organizationId)

/-- The properties of a parsed body; `none` where reading one throws. -/
def propertiesOf : Json → Option JsonRecord
  | .null => none
  | .object fields => some fields
  | _ => some []

def createPlanAccount (session : Session) : Handling :=
  match requestJson request with
  | .error _ => reply invalidJson
  | .ok body =>
      match propertiesOf body with
      | none => throwEngine context .propertyOfNull
      | some fields =>
          match planAccountRequest fields with
          | none => reply (invalidRequest "account type, plan, and organization are required")
          | some (accountType, plan, organizationId) =>
              attempt (.account (.createPlanAccount accountType plan (trim organizationId)) session.userId)
                planAccountFailure (json · 201)

def planAccounts : Handling :=
  withSession options fun session =>
    if request.method = "GET" then
      if options.given .listPlanAccounts then
        await (.account .listPlanAccounts session.userId) fun accounts => reply (json accounts 200)
      else reply planAccountsUnavailable
    else if request.method = "POST" then
      if options.given .createPlanAccount then createPlanAccount context request session
      else reply planAccountsUnavailable
    else reply methodNotAllowed

/-- A route of the session's user whose body names one text. -/
def accountRoute (callback : Callback) (unavailable : Reply) (key required : String)
    (operation : String → AccountOperation) (failed : ServerError → Reply) (answered : Json → Reply) : Handling :=
  withSession options fun session =>
    if ¬ options.given callback then reply unavailable
    else
      match requestJson request with
      | .error _ => reply invalidJson
      | .ok body =>
          match propertiesOf body with
          | none => throwEngine context .propertyOfNull
          | some fields =>
              match (asText (fields.get key)).filter (trim · ≠ "") with
              | none => reply (invalidRequest required)
              | some text => attempt (.account (operation text) session.userId) failed answered

def joinOrganization : Handling :=
  accountRoute options context request .joinOrganization
    (retryable 503 "organization joining is unavailable" "organization_join_unavailable")
    "code" "organization code is required" .joinOrganization
    (fun error =>
      if error.kind = .organizationMemberMutation then refusal 400 error.message error.code
      else refusal 500 "organization could not be joined" "organization_join_failed")
    (json · 200)

/-- What goes wrong on the way to a personal workspace. -/
def workspaceFailure (failed : Reply) (error : ServerError) : Reply :=
  match error.kind with
  | .platformControlPaused _ => retryable 503 error.message error.code
  | .workspaceMembershipNotFound => refusal 403 "organization membership required" error.code
  | _ => failed

def personalWorkspace : Handling :=
  accountRoute options context request .ensurePersonalWorkspace
    (retryable 503 "workspace resolution is unavailable" "workspace_resolution_unavailable")
    "organizationId" "organizationId is required" .ensurePersonalWorkspace
    (workspaceFailure (retryable 500 "personal workspace could not be resolved" "workspace_resolution_failed"))
    (fun workspace => json (.object [("workspace", workspace)]) 200)

def ensureRunning : Handling :=
  accountRoute options context request .ensureWorkspaceRunning
    (retryable 503 "workspace provisioning is unavailable" "workspace_provisioning_unavailable")
    "organizationId" "organizationId is required" .ensureWorkspaceRunning
    (fun error =>
      if error.kind = .operatorEntitlementRequired then refusal 403 error.message error.code
      else
        workspaceFailure
          (retryable 500 "workspace provisioning could not be scheduled" "workspace_provisioning_failed") error)
    (json · 200)

/-! ## Workspaces -/

def operatorRuntime (encodedWorkspaceId : String) : Handling :=
  withOrganization options (retryable 503 "operator metadata is unavailable" "operator_metadata_unavailable")
    fun session organizationId =>
      if ¬ options.given .getOperatorRuntime then
        reply (retryable 503 "operator metadata is unavailable" "operator_metadata_unavailable")
      else
        match decodeURIComponent encodedWorkspaceId with
        | none => reply (invalidRequest "invalid workspace id")
        | some workspaceId =>
            attempt (.workspace .getOperatorRuntime workspaceId session.userId organizationId)
              (fun _ => retryable 503 "operator metadata could not be loaded" "operator_metadata_failed")
              (jsonOr (refusal 404 "operator not found" "operator_not_found"))

def restartWorkspace (encodedWorkspaceId : String) : Handling :=
  withOrganization options activeOrganizationRequired fun session organizationId =>
    if ¬ options.given .restartWorkspace then
      reply (retryable 503 "workspace restart is unavailable" "workspace_restart_unavailable")
    else
      match decodeURIComponent encodedWorkspaceId with
      | none => reply (invalidRequest "workspaceId is invalid")
      | some workspaceId =>
          if trim workspaceId = "" then reply (invalidRequest "workspaceId is required")
          else
            attempt (.workspace .restartWorkspace workspaceId session.userId organizationId)
              (fun error =>
                match error.kind with
                | .platformControlPaused _ => retryable 503 error.message error.code
                | _ => retryable 502 "workspace could not be restarted" "workspace_restart_failed")
              (jsonOr (refusal 404 "workspace not found" "workspace_not_found"))

def runtime (route : RuntimeRoute) : Handling :=
  withOrganization options activeOrganizationRequired fun session organizationId =>
    if ¬ options.given .proxyRuntime then
      reply (retryable 503 "runtime gateway is unavailable" "runtime_gateway_unavailable")
    else
      match decodeURIComponent route.encodedWorkspaceId with
      | none => reply (invalidRequest "workspaceId is invalid")
      | some workspaceId =>
          if trim workspaceId = "" then reply (invalidRequest "workspaceId is required")
          else
            attempt (.workspace (.proxyRuntime route.runtimePath) workspaceId session.userId organizationId)
              (fun _ => retryable 502 "runtime gateway failed" "runtime_gateway_failed") id

/-! ## Usage -/

/-- The days of a report; `none` where they are invalid. -/
def usageRange : Option Int :=
  (asInteger (numberOf ((request.searchParam "days").getD "30"))).filter (· ∈ [7, 30, 90])

def usageRangeInvalid : Reply := invalidRequest "days must be one of 7, 30, or 90"

def usageSince (days : Int) : Int := context.now - days * 24 * 60 * 60 * 1000

/-- Reconciliation may fail without a consequence. -/
def afterReconciliation (session : Session) (organizationId : String) (next : Handling) : Handling :=
  if options.given .reconcileUsage then
    .ask (.organization .reconcileUsage session.userId organizationId) fun _ => next
  else next

def usageFailed : Reply := retryable 500 "usage summary could not be loaded" "usage_summary_failed"

def usageUnavailable : Reply := retryable 503 "usage reporting is unavailable" "usage_reporting_unavailable"

def personalUsage : Handling :=
  match usageRange request with
  | none => reply usageRangeInvalid
  | some days =>
      withOrganization options activeOrganizationRequired fun session organizationId =>
        if ¬ options.given .getPersonalUsage then reply usageUnavailable
        else
          afterReconciliation options session organizationId <|
          attempt (.organization (.getPersonalUsage (usageSince context days) days) session.userId organizationId)
            (fun error =>
              if error.kind = .workspaceMembershipNotFound then
                refusal 403 "organization membership required" error.code
              else usageFailed)
            (fun usage =>
              let modelTimeline := (coalesce (usage.get "modelTimeline") (some (.array []))).getD (.array [])
              json (.object (setProperty "modelTimeline" modelTimeline usage)) 200)

def usageAccessDenied (code : String) : Reply := refusal 403 "organization usage is unavailable" code

def organizationUsage (encodedOrganizationId : String) (isExport : Bool) : Handling :=
  match usageRange request with
  | none => reply usageRangeInvalid
  | some days =>
      withSession options fun session =>
        match decodeURIComponent encodedOrganizationId with
        | none => reply (invalidRequest "organizationId is invalid")
        | some organizationId =>
            if session.activeOrganizationId ≠ some organizationId ∨ organizationId = "" then
              reply (usageAccessDenied "usage_access_denied")
            else if ¬ options.given .getOrganizationUsage then reply usageUnavailable
            else
              afterReconciliation options session organizationId <|
              attempt (.organization (.getOrganizationUsage (usageSince context days) days) session.userId
                  organizationId)
                (fun error =>
                  if error.kind = .usageAccessDenied then usageAccessDenied error.code else usageFailed)
                (fun usage =>
                  if isExport then
                    ⟨200, .csv ("nubols-usage-" ++ toString days ++ "d.csv") (organizationUsageCSV usage) false⟩
                  else ⟨200, .usage usage⟩)

end Routes

end NebulaCloud.Server
