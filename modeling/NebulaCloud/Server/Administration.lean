import NebulaCloud.Export.CsvExport
import NebulaCloud.Server.Callbacks

namespace NebulaCloud.Server

open NebulaCloud.Data NebulaCloud.Database NebulaCloud.Platform
open NebulaCloud.Contact (ContactRequestCursor encodeContactCursor decodeContactCursor)
open NebulaCloud.Export (contactRequestsCSV)

/-! # The routes of the administrators

Each part of the administration has its own authorization. -/

def contactRequestMaximumBytes : Nat := 16 * 1024
def contactAdministrationMaximumBytes : Nat := 1024
def contactExportMaximumRows : Nat := 5000
def publicationRequestMaximumBytes : Nat := 1024
def stripeWebhookMaximumBytes : Nat := 256 * 1024

def invalidJson : Reply := invalidRequest "request body must be valid JSON"

section Routes

variable (options : ControlPlaneHandlerOptions) (context : RequestContext) (request : ServerRequest)

/-- The authorization of an administrator, if there is any. -/
def authorized (callback : Callback) (administration : Administration) (unavailable unauthorized : Reply)
    (next : Handling) : Handling :=
  if options.given callback then
    await (.authorize administration) fun isAuthorized => if isAuthorized then next else reply unauthorized
  else reply unavailable

/-! ## Contact requests -/

/-- The loop of the export; `none` where a time has no text. -/
def exportContactRequests (status : Option ContactRequestStatus) (requests : List ContactRequestRow)
    (before : Option ContactRequestCursor) : Handling :=
  await (.contactAdministration (.listContactRequests status 200 before)) fun page =>
    let read := requests ++ page.requests
    if _ : page.nextCursor.isSome ∧ read.length < contactExportMaximumRows then
      exportContactRequests status read page.nextCursor
    else
      match contactRequestsCSV read with
      | none => throwEngine context .invalidTime
      | some text => reply ⟨200, .csv "nubols-contact-requests.csv" text page.nextCursor.isSome⟩
termination_by contactExportMaximumRows - requests.length
decreasing_by
  rename_i more
  have nonempty := List.length_pos_of_ne_nil (page.continues (Option.isSome_iff_ne_none.mp more.1))
  have short := more.2
  rw [List.length_append] at short ⊢
  omega

def updateContactRequest (encodedRequestId : String) : Handling :=
  match decodeURIComponent encodedRequestId with
  | none => reply (invalidRequest "contact request id is invalid")
  | some requestId =>
      match readBoundedJSON request contactAdministrationMaximumBytes with
      | .error _ => reply invalidJson
      | .ok body =>
          match (recordOf body ["status"]).bind fun fields => (asText (fields.get "status")).bind fun status =>
              (contactStatus (some status)).bind id with
          | none => reply (invalidRequest "contact request update is invalid")
          | some status =>
              await (.contactAdministration (.updateContactRequestStatus requestId status)) fun contact =>
                reply (jsonOr (refusal 404 "contact request not found" "not_found") contact)

def contactUnavailable : Reply :=
  retryable 503 "contact administration is unavailable" "contact_administration_unavailable"

def contactAdministration (contactMemberMatch : Option (List String)) : Handling :=
  authorized options .authorizeContactAdministration .contact contactUnavailable
    (refusal 401 "contact administrator authentication required" "contact_administrator_authentication_required") <|
  if ¬ (options.given .listContactRequests ∧ options.given .updateContactRequestStatus) then reply contactUnavailable
  else
    match contactStatus (request.searchParam "status") with
    | none => reply (invalidRequest "contact request status is invalid")
    | some status =>
        if request.method = "GET" ∧ request.pathname = contactAdministrationPath then
          match asInteger (numberOf ((request.searchParam "limit").getD "50")),
              decodeContactCursor (request.searchParam "cursor") with
          | some limit, some before =>
              if limit < 1 ∨ 200 < limit then reply (invalidRequest "contact request pagination is invalid")
              else
                await (.contactAdministration (.listContactRequests status limit before)) fun page =>
                  reply ⟨200, .contactRequests page.requests (page.nextCursor.map encodeContactCursor)⟩
          | _, _ => reply (invalidRequest "contact request pagination is invalid")
        else if request.method = "GET" ∧ request.pathname = contactAdministrationExportPath then
          exportContactRequests context status [] none
        else if request.method = "PATCH" then
          match captured contactMemberMatch 1 with
          | some encodedRequestId => updateContactRequest request encodedRequestId
          | none => reply notFound
        else reply notFound

/-! ## Entitlements -/

def entitlementUnavailable : Reply :=
  retryable 503 "entitlement updates are unavailable" "entitlement_update_unavailable"

def upsertEntitlement (membershipId : String) : Handling :=
  if ¬ options.given .upsertOperatorEntitlement then reply entitlementUnavailable
  else
    match readBoundedJSON request contactAdministrationMaximumBytes with
    | .error _ => reply invalidJson
    | .ok body =>
        if ¬ isUpsertOperatorEntitlementRequest body then reply (invalidRequest "operator entitlement is invalid")
        else
          attempt (.entitlementAdministration (.upsertOperatorEntitlement membershipId body))
            (fun error => invalidRequest (if error.kind = .other then "entitlement update failed" else error.message))
            (json · 200)

def revokeEntitlement (membershipId : String) : Handling :=
  if ¬ options.given .revokeOperatorEntitlement then reply entitlementUnavailable
  else
    let organizationId := trim ((request.searchParam "organizationId").getD "")
    if organizationId = "" then reply (invalidRequest "organizationId is required")
    else
      await (.entitlementAdministration (.revokeOperatorEntitlement membershipId organizationId)) fun entitlement =>
        reply (jsonOr (refusal 404 "operator entitlement not found" "not_found") entitlement)

def entitlementAdministration (encodedMembershipId : String) : Handling :=
  authorized options .authorizeEntitlementAdministration .entitlement
    (retryable 503 "entitlement administration is unavailable" "entitlement_administration_unavailable")
    (refusal 401 "entitlement administrator authentication required"
      "entitlement_administrator_authentication_required") <|
  match decodeURIComponent encodedMembershipId with
  | none => reply (invalidRequest "membership id is invalid")
  | some membershipId =>
      if trim membershipId = "" then reply (invalidRequest "membership id is required")
      else if request.method = "PUT" then upsertEntitlement options request membershipId
      else if request.method = "DELETE" then revokeEntitlement options request membershipId
      else reply notFound

/-! ## The platform -/

def platformAuthorized (next : Handling) : Handling :=
  authorized options .authorizePlatformAdministration .platform
    (retryable 503 "platform administration is unavailable" "platform_administration_unavailable")
    (refusal 401 "platform administrator authentication required" "platform_administrator_authentication_required")
    next

def actorRequired (mutations : String) : Reply :=
  refusal 400 ("x-nebula-admin-actor is required for " ++ mutations ++ " mutations")
    "platform_administrator_actor_required"

def revokeOrganizationPublications (encodedOrganizationId : String) : Handling :=
  platformAuthorized options <|
  if request.method ≠ "POST" then reply notFound
  else if ¬ options.given .revokeOrganizationPublications then
    reply (retryable 503 "organization publication revocation is unavailable"
      "organization_publication_revocation_unavailable")
  else
    match decodeURIComponent encodedOrganizationId with
    | none => reply (invalidRequest "organization id is invalid")
    | some organizationId =>
        if trim organizationId = "" then reply (invalidRequest "organization id is required")
        else
          match platformAdministratorActor request with
          | none => reply (actorRequired "platform")
          | some actor =>
              match readBoundedJSON request 1024 with
              | .error _ => reply invalidJson
              | .ok body =>
                  match (recordOf body ["reason"]).bind fun fields =>
                      (asText (fields.get "reason")).filter fun reason => isTextBetween 1 256 (some (.string reason)) with
                  | none => reply (invalidRequest "organization publication revocation is invalid")
                  | some reason =>
                      attempt (.platformAdministration (.revokeOrganizationPublications organizationId actor reason))
                        (fun _ => retryable 500 "organization publications could not be revoked"
                          "organization_publication_revocation_failed")
                        (json · 200)

def updatePlatformControl (encodedName : String) : Handling :=
  if ¬ options.given .updatePlatformControl then
    reply (retryable 503 "platform control updates are unavailable" "platform_control_update_unavailable")
  else
    match (decodeURIComponent encodedName).bind platformControlName with
    | none => reply (invalidRequest "platform control name is invalid")
    | some name =>
        match platformAdministratorActor request with
        | none => reply (actorRequired "platform")
        | some actor =>
            match readBoundedJSON request 1024 with
            | .error _ => reply invalidJson
            | .ok body =>
                if ¬ isUpdatePlatformControlRequest body then
                  reply (invalidRequest "platform control update is invalid")
                else
                  attempt (.platformAdministration (.updatePlatformControl name body actor))
                    (fun error =>
                      invalidRequest (if error.kind = .other then "platform control update failed" else error.message))
                    (json · 200)

def platformControlAdministration (platformControlMemberMatch : Option (List String)) : Handling :=
  platformAuthorized options <|
  if request.method = "GET" ∧ request.pathname = platformControlAdministrationPath then
    if options.given .listPlatformControls then
      await (.platformAdministration .listPlatformControls) fun controls => reply (json controls 200)
    else reply (retryable 503 "platform controls are unavailable" "platform_controls_unavailable")
  else if request.method = "PATCH" then
    match captured platformControlMemberMatch 1 with
    | some encodedName => updatePlatformControl options request encodedName
    | none => reply notFound
  else reply notFound

/-! ## Workers -/

def registerWorkerHost : Handling :=
  if ¬ options.given .registerWorkerHost then
    reply (retryable 503 "worker registration is unavailable" "worker_registration_unavailable")
  else
    match requestJson request with
    | .error failure => reply (invalidRequest (context.engineMessage (.body failure)))
    | .ok body =>
        if ¬ isRegisterWorkerHostRequest body then reply (invalidRequest "worker registration is invalid")
        else
          attempt (.workerAdministration (.registerWorkerHost body))
            (fun error => invalidRequest (if error.kind = .other then "worker registration failed" else error.message))
            (json · 201)

/-- `update.action`, tested for truth. -/
def asksForAction (update : Json) : Bool :=
  match propertyOf update "action" with
  | some (some (.string action)) => action ≠ ""
  | some (some (.array _)) => true
  | _ => false

def updateWorkerHost (encodedWorkerHostId : String) : Handling :=
  if ¬ options.given .updateWorkerHost then
    reply (retryable 503 "worker updates are unavailable" "worker_update_unavailable")
  else
    match decodeURIComponent encodedWorkerHostId with
    | none => reply (invalidRequest "worker id is invalid")
    | some workerHostId =>
        match requestJson request with
        | .error failure => reply (invalidRequest (context.engineMessage (.body failure)))
        | .ok update =>
            if ¬ isUpdateWorkerHostRequest update then reply (invalidRequest "worker update is invalid")
            else
              let actor := if asksForAction update then platformAdministratorActor request else none
              if asksForAction update ∧ actor = none then reply (actorRequired "worker lifecycle")
              else
                attempt (.workerAdministration (.updateWorkerHost workerHostId update actor))
                  (fun error => invalidRequest (if error.kind = .other then "worker update failed" else error.message))
                  (jsonOr (refusal 404 "worker host not found" "not_found"))

def workerUnavailable : Reply :=
  retryable 503 "worker administration is unavailable" "worker_administration_unavailable"

def workerAdministration (workerMemberMatch : Option (List String)) : Handling :=
  authorized options .authorizeWorkerAdministration .worker workerUnavailable
    (refusal 401 "worker administrator authentication required" "worker_administrator_authentication_required") <|
  if request.method = "GET" ∧ request.pathname = workerAdministrationPath then
    if options.given .listWorkerHosts then
      await (.workerAdministration .listWorkerHosts) fun workers => reply (json workers 200)
    else reply workerUnavailable
  else if request.method = "POST" ∧ request.pathname = workerAdministrationPath then
    registerWorkerHost options context request
  else if request.method = "PATCH" then
    match captured workerMemberMatch 1 with
    | some encodedWorkerHostId => updateWorkerHost options context request encodedWorkerHostId
    | none => reply notFound
  else reply notFound

end Routes

end NebulaCloud.Server
