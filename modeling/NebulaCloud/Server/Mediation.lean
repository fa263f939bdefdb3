import NebulaCloud.Server.Handler

namespace NebulaCloud.Server

open NebulaCloud.Access NebulaCloud.Data NebulaCloud.Data.Program NebulaCloud.Database NebulaCloud.Platform

/-! # What the handler does for whom

Whatever the callbacks answer: an operation comes up only when it has been authorized, for
the user, the organization or the workspace that has been authenticated. -/

/-! ## What must have been answered -/

def Question.callback : Question → Callback
  | .resolveSession => .resolveSession
  | .authorize .contact => .authorizeContactAdministration
  | .authorize .entitlement => .authorizeEntitlementAdministration
  | .authorize .platform => .authorizePlatformAdministration
  | .authorize .worker => .authorizeWorkerAdministration
  | .authenticateWorkspacePublication _ => .authenticateWorkspacePublication
  | .platformControlPaused _ => .platformControlPaused
  | .isReady => .isReady
  | .authHandler => .authHandler
  | .handleStripeWebhook _ _ => .handleStripeWebhook
  | .handleResendWebhook _ => .handleResendWebhook
  | .proxyPublishedService _ _ => .proxyPublishedService
  | .submitContact _ _ => .submitContact
  | .getInvitationStatus _ _ => .getInvitationStatus
  | .publication .listWorkspacePublications _ => .listWorkspacePublications
  | .publication (.upsertWorkspacePublication _ _ _ _ _) _ => .upsertWorkspacePublication
  | .publication (.revokeWorkspacePublication _) _ => .revokeWorkspacePublication
  | .contactAdministration (.listContactRequests _ _ _) => .listContactRequests
  | .contactAdministration (.updateContactRequestStatus _ _) => .updateContactRequestStatus
  | .entitlementAdministration (.upsertOperatorEntitlement _ _) => .upsertOperatorEntitlement
  | .entitlementAdministration (.revokeOperatorEntitlement _ _) => .revokeOperatorEntitlement
  | .platformAdministration .listPlatformControls => .listPlatformControls
  | .platformAdministration (.updatePlatformControl _ _ _) => .updatePlatformControl
  | .platformAdministration (.revokeOrganizationPublications _ _ _) => .revokeOrganizationPublications
  | .workerAdministration .listWorkerHosts => .listWorkerHosts
  | .workerAdministration (.registerWorkerHost _) => .registerWorkerHost
  | .workerAdministration (.updateWorkerHost _ _ _) => .updateWorkerHost
  | .account .listPlanAccounts _ => .listPlanAccounts
  | .account (.createPlanAccount _ _ _) _ => .createPlanAccount
  | .account (.joinOrganization _) _ => .joinOrganization
  | .account (.ensurePersonalWorkspace _) _ => .ensurePersonalWorkspace
  | .account (.ensureWorkspaceRunning _) _ => .ensureWorkspaceRunning
  | .organization .getOrganizationMembers _ _ => .getOrganizationMembers
  | .organization (.setOrganizationMemberDisabled _ _) _ _ => .setOrganizationMemberDisabled
  | .organization (.assignStripeOperatorSeat _) _ _ => .assignStripeOperatorSeat
  | .organization (.revokeStripeOperatorSeat _) _ _ => .revokeStripeOperatorSeat
  | .organization .getOrganizationOperators _ _ => .getOrganizationOperators
  | .organization .getOrganizationPublications _ _ => .getOrganizationPublications
  | .organization (.setOrganizationPublicationConnected _ _ _) _ _ => .setOrganizationPublicationConnected
  | .organization (.getOrganizationDashboard _) _ _ => .getOrganizationDashboard
  | .organization .getOrganizationAdmin _ _ => .getOrganizationAdmin
  | .organization (.getOrganizationAudit _ _) _ _ => .getOrganizationAudit
  | .organization .rotateOrganizationJoinCode _ _ => .rotateOrganizationJoinCode
  | .organization (.updateOrganization _) _ _ => .updateOrganization
  | .organization .reconcileUsage _ _ => .reconcileUsage
  | .organization (.getPersonalUsage _ _) _ _ => .getPersonalUsage
  | .organization (.getOrganizationUsage _ _) _ _ => .getOrganizationUsage
  | .workspace .restartWorkspace _ _ _ => .restartWorkspace
  | .workspace .getOperatorRuntime _ _ _ => .getOperatorRuntime
  | .workspace (.proxyRuntime _) _ _ _ => .proxyRuntime

/-- The method of the route that an operation belongs to; `none` where any will do. -/
def Question.method : Question → Option String
  | .handleStripeWebhook _ _ | .handleResendWebhook _ | .submitContact _ _
  | .platformAdministration (.revokeOrganizationPublications _ _ _)
  | .workerAdministration (.registerWorkerHost _) | .account (.createPlanAccount _ _ _) _
  | .account (.joinOrganization _) _ | .account (.ensurePersonalWorkspace _) _
  | .account (.ensureWorkspaceRunning _) _ | .organization .rotateOrganizationJoinCode _ _
  | .workspace .restartWorkspace _ _ _ => some "POST"
  | .publication (.upsertWorkspacePublication _ _ _ _ _) _
  | .entitlementAdministration (.upsertOperatorEntitlement _ _)
  | .organization (.assignStripeOperatorSeat _) _ _ => some "PUT"
  | .publication (.revokeWorkspacePublication _) _ | .entitlementAdministration (.revokeOperatorEntitlement _ _)
  | .organization (.revokeStripeOperatorSeat _) _ _ => some "DELETE"
  | .contactAdministration (.updateContactRequestStatus _ _)
  | .platformAdministration (.updatePlatformControl _ _ _) | .workerAdministration (.updateWorkerHost _ _ _)
  | .organization (.setOrganizationMemberDisabled _ _) _ _
  | .organization (.setOrganizationPublicationConnected _ _ _) _ _
  | .organization (.updateOrganization _) _ _ => some "PATCH"
  | .resolveSession | .authorize _ | .authenticateWorkspacePublication _ | .platformControlPaused _ | .authHandler
  | .proxyPublishedService _ _ | .workspace (.proxyRuntime _) _ _ _ => none
  | _ => some "GET"

/-- The operation changes what is stored.  The reconciliation of usage, which records what
runtimes report, is not counted. -/
def Question.changes (question : Question) : Bool := question.method.any (· ≠ "GET")

def Resolved (history : History) (session : Session) : Prop := ⟨.resolveSession, .ok (some session)⟩ ∈ history

/-- Publications have not been paused, where anybody can pause them. -/
def Unpaused (options : ControlPlaneHandlerOptions) (history : History) : Prop :=
  options.given .platformControlPaused = true → ⟨.platformControlPaused .publication, .ok false⟩ ∈ history

def Question.Authorized (options : ControlPlaneHandlerOptions) (request : ServerRequest) (history : History) :
    Question → Prop
  | .handleStripeWebhook rawBody signature =>
      signature ≠ "" ∧ trim ((request.header "stripe-signature").getD "") = signature ∧
        readBoundedBytes request stripeWebhookMaximumBytes = .ok rawBody
  | .handleResendWebhook rawBody => readBoundedBytes request (256 * 1024) = .ok rawBody
  | .proxyPublishedService _ _ => Unpaused options history
  | .submitContact input _ =>
      (∃ origin ∈ request.header "origin", origin ∈ options.trustedContactOrigins) ∧ input.website = none
  | .publication operation workspaceId =>
      ⟨.authenticateWorkspacePublication workspaceId, .ok true⟩ ∈ history ∧
        match operation with
        | .upsertWorkspacePublication _ _ _ _ _ => Unpaused options history
        | _ => True
  | .contactAdministration _ => ⟨.authorize .contact, .ok true⟩ ∈ history
  | .entitlementAdministration _ => ⟨.authorize .entitlement, .ok true⟩ ∈ history
  | .platformAdministration _ => ⟨.authorize .platform, .ok true⟩ ∈ history
  | .workerAdministration _ => ⟨.authorize .worker, .ok true⟩ ∈ history
  | .getInvitationStatus _ userEmail => ∃ session, Resolved history session ∧ session.email = some userEmail
  | .account _ userId => ∃ session, Resolved history session ∧ session.userId = userId
  | .organization _ userId organizationId | .workspace _ _ userId organizationId =>
      ∃ session, Resolved history session ∧ session.userId = userId ∧
        session.activeOrganizationId = some organizationId
  | _ => True

/-- Nothing has been changed yet. -/
def Unchanged (history : History) : Prop := ∀ answered ∈ history, answered.1.changes = false

structure Mediated (options : ControlPlaneHandlerOptions) (request : ServerRequest) (history : History)
    (question : Question) : Prop where
  given : options.given question.callback = true
  authorized : question.Authorized options request history
  method : ∀ method ∈ question.method, request.method = method
  unchanged : Unchanged history

/-! ## Rules for programs of the handler -/

section Rules

variable {options : ControlPlaneHandlerOptions} {context : RequestContext} {request : ServerRequest}
  {Allowed : History → Question → Prop} {history : History} {question : Question} {answer : Reply}
  {condition : Prop} {decided : Decidable condition} {program other : Handling}

theorem any_method : ∀ method ∈ (none : Option String), request.method = method := by simp

theorem own_method {method : String} (same : request.method = method) :
    ∀ other ∈ some method, request.method = other := by
  simp [same]

theorem guarded_reply : Guarded Allowed history (reply answer) := .done

theorem guarded_throwEngine {error : EngineError} : Guarded Allowed history (throwEngine context error) := .done

theorem guarded_await {next : question.Told → Handling} (allowed : Allowed history question)
    (each : ∀ told, Guarded Allowed (history ++ [⟨question, .ok told⟩]) (next told)) :
    Guarded Allowed history (await question next) := by
  refine .ask allowed fun answer => ?_
  cases answer with
  | error error => exact .done
  | ok told => exact each told

theorem guarded_attempt {failed : ServerError → Reply} {next : question.Told → Reply}
    (allowed : Allowed history question) : Guarded Allowed history (attempt question failed next) := by
  refine .ask allowed fun answer => ?_
  cases answer with
  | error error => exact .done
  | ok told => exact .done

theorem guarded_if (guarded : condition → Guarded Allowed history program) :
    Guarded Allowed history (if condition then program else reply answer) := by
  split
  · exact guarded ‹_›
  · exact .done

theorem guarded_ite (first : condition → Guarded Allowed history program)
    (second : ¬ condition → Guarded Allowed history other) :
    Guarded Allowed history (if condition then program else other) := by
  split
  · exact first ‹_›
  · exact second ‹_›

theorem guarded_unless (guarded : ¬ condition → Guarded Allowed history program) :
    Guarded Allowed history (if condition then reply answer else program) := by
  split
  · exact .done
  · exact guarded ‹_›

theorem Unchanged.append (unchanged : Unchanged history) {answer : question.Answer}
    (reads : question.changes = false) : Unchanged (history ++ [⟨question, answer⟩]) := by
  intro answered member
  rcases List.mem_append.mp member with earlier | last
  · exact unchanged answered earlier
  · rw [List.mem_singleton.mp last]
    exact reads

theorem mem_last {answer : question.Answer} : (⟨question, answer⟩ : Sigma Question.Answer) ∈ history ++ [⟨question, answer⟩] :=
  List.mem_append_right history (List.mem_singleton.mpr rfl)

theorem guarded_session (unchanged : Unchanged history) {next : Session → Handling}
    (each : ∀ history session, Unchanged history → Resolved history session →
      Guarded (Mediated options request) history (next session)) :
    Guarded (Mediated options request) history (withSession options next) := by
  refine guarded_if fun given => guarded_await ⟨given, trivial, any_method, unchanged⟩ fun told => ?_
  cases told with
  | none => exact .done
  | some session => exact each _ session (unchanged.append rfl) mem_last

theorem guarded_organization (unchanged : Unchanged history) {missing : Reply} {next : Session → String → Handling}
    (each : ∀ history session organizationId, Unchanged history → Resolved history session →
      session.activeOrganizationId = some organizationId →
      Guarded (Mediated options request) history (next session organizationId)) :
    Guarded (Mediated options request) history (withOrganization options missing next) := by
  refine guarded_session unchanged fun later session stillUnchanged resolved => ?_
  split
  · exact .done
  · rename_i organizationId active
    exact each later session organizationId stillUnchanged resolved (Option.filter_eq_some_iff.mp active).1

theorem guarded_unpaused (unchanged : Unchanged history) {error : String} {next : Handling}
    (each : ∀ later, Unchanged (history ++ later) → Unpaused options (history ++ later) →
      Guarded (Mediated options request) (history ++ later) next) :
    Guarded (Mediated options request) history (unlessPublicationPaused options error next) := by
  unfold unlessPublicationPaused
  split
  · rename_i given
    refine guarded_await ⟨given, trivial, any_method, unchanged⟩ fun isPaused => ?_
    cases isPaused with
    | true => exact .done
    | false => exact each _ (unchanged.append rfl) fun _ => mem_last
  · rename_i missing
    have same : history ++ [] = history := List.append_nil history
    exact same ▸ each [] (same.symm ▸ unchanged) fun given => absurd given missing

theorem guarded_authorized (unchanged : Unchanged history) {callback : Callback} {administration : Administration}
    {unavailable unauthorized : Reply} {next : Handling} (same : (Question.authorize administration).callback = callback)
    (each : ∀ history, Unchanged history → ⟨.authorize administration, .ok true⟩ ∈ history →
      Guarded (Mediated options request) history next) :
    Guarded (Mediated options request) history
      (authorized options callback administration unavailable unauthorized next) := by
  refine guarded_if fun given =>
    guarded_await ⟨same ▸ given, trivial, any_method, unchanged⟩ fun told => ?_
  cases told with
  | false => exact .done
  | true => exact each _ (unchanged.append rfl) mem_last

end Rules

/-! ## The routes of the administrators -/

section Administrators

variable {options : ControlPlaneHandlerOptions} {context : RequestContext} {request : ServerRequest}
  {history : History}

theorem exportContactRequests_mediated {status : Option ContactRequestStatus} {requests : List ContactRequestRow}
    {before : Option Contact.ContactRequestCursor} (isGet : request.method = "GET")
    (given : options.given .listContactRequests = true) (unchanged : Unchanged history)
    (authorized : ⟨.authorize .contact, .ok true⟩ ∈ history) :
    Guarded (Mediated options request) history (exportContactRequests context status requests before) := by
  induction requests, before using exportContactRequests.induct status generalizing history with
  | case1 requests before ih =>
      rw [exportContactRequests]
      refine guarded_await ⟨given, authorized, own_method isGet, unchanged⟩ fun page => ?_
      dsimp only
      split
      · rename_i more
        exact ih page more (unchanged.append rfl) (List.mem_append_left _ authorized)
      · split
        · exact .done
        · exact .done

theorem updateContactRequest_mediated {encodedRequestId : String} (isPatch : request.method = "PATCH")
    (given : options.given .updateContactRequestStatus = true) (unchanged : Unchanged history)
    (authorized : ⟨.authorize .contact, .ok true⟩ ∈ history) :
    Guarded (Mediated options request) history (updateContactRequest request encodedRequestId) := by
  unfold updateContactRequest
  split
  · exact .done
  split
  · exact .done
  split
  · exact .done
  · exact guarded_await ⟨given, authorized, own_method isPatch, unchanged⟩ fun _ => .done

theorem contactAdministration_mediated {matched : Option (List String)} (unchanged : Unchanged history) :
    Guarded (Mediated options request) history (contactAdministration options context request matched) := by
  unfold contactAdministration
  refine guarded_authorized unchanged rfl fun later unchanged authorized => guarded_unless fun given => ?_
  obtain ⟨listGiven, updateGiven⟩ := not_not.mp given
  split
  · exact .done
  split
  · rename_i isGet
    split
    · exact guarded_unless fun _ =>
        guarded_await ⟨listGiven, authorized, own_method isGet.1, unchanged⟩ fun _ => .done
    · exact .done
  split
  · rename_i isGet
    exact exportContactRequests_mediated isGet.1 listGiven unchanged authorized
  refine guarded_if fun isPatch => ?_
  split
  · exact updateContactRequest_mediated isPatch updateGiven unchanged authorized
  · exact .done

theorem upsertEntitlement_mediated {membershipId : String} (isPut : request.method = "PUT")
    (unchanged : Unchanged history) (authorized : ⟨.authorize .entitlement, .ok true⟩ ∈ history) :
    Guarded (Mediated options request) history (upsertEntitlement options request membershipId) := by
  unfold upsertEntitlement
  refine guarded_unless fun given => ?_
  split
  · exact .done
  · exact guarded_unless fun _ =>
      guarded_attempt ⟨not_not.mp given, authorized, own_method isPut, unchanged⟩

theorem revokeEntitlement_mediated {membershipId : String} (isDelete : request.method = "DELETE")
    (unchanged : Unchanged history) (authorized : ⟨.authorize .entitlement, .ok true⟩ ∈ history) :
    Guarded (Mediated options request) history (revokeEntitlement options request membershipId) := by
  unfold revokeEntitlement
  refine guarded_unless fun given => guarded_unless fun _ => ?_
  exact guarded_await ⟨not_not.mp given, authorized, own_method isDelete, unchanged⟩ fun _ => .done

theorem entitlementAdministration_mediated {encodedMembershipId : String} (unchanged : Unchanged history) :
    Guarded (Mediated options request) history (entitlementAdministration options request encodedMembershipId) := by
  unfold entitlementAdministration
  refine guarded_authorized unchanged rfl fun later unchanged authorized => ?_
  split
  · exact .done
  refine guarded_unless fun _ => guarded_ite (fun isPut => ?_) fun _ => guarded_if fun isDelete => ?_
  · exact upsertEntitlement_mediated isPut unchanged authorized
  · exact revokeEntitlement_mediated isDelete unchanged authorized

theorem revokeOrganizationPublications_mediated {encodedOrganizationId : String} (unchanged : Unchanged history) :
    Guarded (Mediated options request) history
      (revokeOrganizationPublications options request encodedOrganizationId) := by
  unfold revokeOrganizationPublications platformAuthorized
  refine guarded_authorized unchanged rfl fun later unchanged authorized => ?_
  refine guarded_unless fun isPost => guarded_unless fun given => ?_
  split
  · exact .done
  refine guarded_unless fun _ => ?_
  split
  · exact .done
  split
  · exact .done
  split
  · exact .done
  · exact guarded_attempt ⟨not_not.mp given, authorized, own_method (not_not.mp isPost), unchanged⟩

theorem updatePlatformControl_mediated {encodedName : String} (isPatch : request.method = "PATCH")
    (unchanged : Unchanged history) (authorized : ⟨.authorize .platform, .ok true⟩ ∈ history) :
    Guarded (Mediated options request) history (updatePlatformControl options request encodedName) := by
  unfold updatePlatformControl
  refine guarded_unless fun given => ?_
  split
  · exact .done
  split
  · exact .done
  split
  · exact .done
  · exact guarded_unless fun _ =>
      guarded_attempt ⟨not_not.mp given, authorized, own_method isPatch, unchanged⟩

theorem platformControlAdministration_mediated {matched : Option (List String)} (unchanged : Unchanged history) :
    Guarded (Mediated options request) history (platformControlAdministration options request matched) := by
  unfold platformControlAdministration platformAuthorized
  refine guarded_authorized unchanged rfl fun later unchanged authorized => ?_
  refine guarded_ite (fun isGet => guarded_if fun given => ?_) fun _ => guarded_if fun isPatch => ?_
  · exact guarded_await ⟨given, authorized, own_method isGet.1, unchanged⟩ fun _ => .done
  · split
    · exact updatePlatformControl_mediated isPatch unchanged authorized
    · exact .done

theorem registerWorkerHost_mediated (isPost : request.method = "POST") (unchanged : Unchanged history)
    (authorized : ⟨.authorize .worker, .ok true⟩ ∈ history) :
    Guarded (Mediated options request) history (registerWorkerHost options context request) := by
  unfold registerWorkerHost
  refine guarded_unless fun given => ?_
  split
  · exact .done
  · exact guarded_unless fun _ =>
      guarded_attempt ⟨not_not.mp given, authorized, own_method isPost, unchanged⟩

theorem updateWorkerHost_mediated {encodedWorkerHostId : String} (isPatch : request.method = "PATCH")
    (unchanged : Unchanged history) (authorized : ⟨.authorize .worker, .ok true⟩ ∈ history) :
    Guarded (Mediated options request) history (updateWorkerHost options context request encodedWorkerHostId) := by
  unfold updateWorkerHost
  refine guarded_unless fun given => ?_
  split
  · exact .done
  split
  · exact .done
  · exact guarded_unless fun _ => guarded_unless fun _ =>
      guarded_attempt ⟨not_not.mp given, authorized, own_method isPatch, unchanged⟩

theorem workerAdministration_mediated {matched : Option (List String)} (unchanged : Unchanged history) :
    Guarded (Mediated options request) history (workerAdministration options context request matched) := by
  unfold workerAdministration
  refine guarded_authorized unchanged rfl fun later unchanged authorized => ?_
  refine guarded_ite (fun isGet => guarded_if fun given => ?_) fun _ =>
    guarded_ite (fun isPost => ?_) fun _ => guarded_if fun isPatch => ?_
  · exact guarded_await ⟨given, authorized, own_method isGet.1, unchanged⟩ fun _ => .done
  · exact registerWorkerHost_mediated isPost.1 unchanged authorized
  · split
    · exact updateWorkerHost_mediated isPatch unchanged authorized
    · exact .done

end Administrators

/-! ## The routes of everybody else -/

section Everybody

variable {options : ControlPlaneHandlerOptions} {context : RequestContext} {request : ServerRequest}
  {lower : List Char → List Char} {history : History}

theorem publishedServices_mediated {slug servicePath : List Char} (unchanged : Unchanged history) :
    Guarded (Mediated options request) history (publishedServices options request slug servicePath) := by
  unfold publishedServices
  refine guarded_unless fun _ => guarded_unless fun _ => guarded_unpaused unchanged fun later unchanged unpaused => ?_
  exact guarded_if fun given => guarded_attempt ⟨given, unpaused, any_method, unchanged⟩

theorem stripeWebhook_mediated (unchanged : Unchanged history) :
    Guarded (Mediated options request) history (stripeWebhook options request lower) := by
  unfold stripeWebhook
  refine guarded_unless fun isPost => guarded_unless fun given => guarded_unless fun signed => guarded_unless fun _ => ?_
  split
  · exact .done
  · exact .done
  · rename_i rawBody read
    refine guarded_unless fun _ => guarded_attempt ⟨not_not.mp given, ⟨signed, rfl, read⟩, ?_, unchanged⟩
    exact own_method (not_not.mp isPost)

theorem resendWebhook_mediated (unchanged : Unchanged history) :
    Guarded (Mediated options request) history (resendWebhook options request) := by
  unfold resendWebhook
  refine guarded_unless fun isPost => guarded_unless fun given => ?_
  dsimp only
  split
  · exact .done
  · exact .done
  · rename_i rawBody read
    exact guarded_attempt ⟨not_not.mp given, read, own_method (not_not.mp isPost), unchanged⟩

theorem upsertWorkspacePublication_mediated {workspaceId : String} {name : List Char} (isPut : request.method = "PUT")
    (unchanged : Unchanged history)
    (authenticated : ⟨.authenticateWorkspacePublication workspaceId, .ok true⟩ ∈ history) :
    Guarded (Mediated options request) history (upsertWorkspacePublication options request workspaceId name) := by
  unfold upsertWorkspacePublication
  refine guarded_unpaused unchanged fun later unchanged unpaused => guarded_unless fun given => ?_
  split
  · exact .done
  split
  · exact .done
  split
  · exact .done
  · exact guarded_attempt ⟨not_not.mp given, ⟨List.mem_append_left later authenticated, unpaused⟩,
      own_method isPut, unchanged⟩

theorem workspacePublications_mediated {encodedWorkspaceId : String} {encodedName : Option String}
    (unchanged : Unchanged history) :
    Guarded (Mediated options request) history
      (workspacePublications options request lower encodedWorkspaceId encodedName) := by
  unfold workspacePublications
  refine guarded_unless fun given => ?_
  split
  · exact .done
  · exact .done
  refine guarded_unless fun _ =>
    guarded_await ⟨not_not.mp given, trivial, any_method, unchanged⟩ fun authenticated => ?_
  cases authenticated with
  | false => exact .done
  | true =>
      have proven := @mem_last history (.authenticateWorkspacePublication ‹String›) (.ok true)
      have unchanged := @Unchanged.append history (.authenticateWorkspacePublication ‹String›) unchanged (.ok true) rfl
      split
      · exact .done
      split
      · refine guarded_unless fun isGet => guarded_if fun given => ?_
        exact guarded_await ⟨given, ⟨proven, trivial⟩, own_method (not_not.mp isGet), unchanged⟩
          fun _ => .done
      · unfold changeWorkspacePublication
        split
        · rename_i isPut
          exact upsertWorkspacePublication_mediated isPut unchanged proven
        · refine guarded_if fun isDelete => guarded_if fun given => ?_
          exact guarded_await ⟨given, ⟨proven, trivial⟩, own_method isDelete, unchanged⟩
            fun _ => .done

theorem contact_mediated (isPost : request.method = "POST") (unchanged : Unchanged history) :
    Guarded (Mediated options request) history (contact options context request lower) := by
  unfold contact
  refine guarded_unless fun origin => guarded_unless fun given => ?_
  split
  · exact .done
  · exact .done
  split
  · exact .done
  refine guarded_unless fun noWebsite => guarded_attempt ⟨not_not.mp given, ⟨?_, ?_⟩, ?_, unchanged⟩
  · obtain ⟨sent, present, trusted⟩ := (Option.any_eq_true _ _).mp (not_not.mp origin)
    exact ⟨sent, present, by simpa using (Bool.and_eq_true_iff.mp trusted).2⟩
  · simpa using noWebsite
  · exact own_method isPost

theorem invitationStatus_mediated {encodedInvitationId : String} (unchanged : Unchanged history) :
    Guarded (Mediated options request) history (invitationStatus options request encodedInvitationId) := by
  unfold invitationStatus
  refine guarded_unless fun isGet => guarded_session unchanged fun later session unchanged resolved => ?_
  split
  · exact .done
  · rename_i email found
    refine guarded_unless fun given => ?_
    split
    · exact .done
    refine guarded_unless fun _ => guarded_await ⟨not_not.mp given, ?_, ?_, unchanged⟩ fun _ => .done
    · exact ⟨session, resolved, (Option.filter_eq_some_iff.mp found).1⟩
    · exact own_method (not_not.mp isGet)

theorem planAccounts_mediated (unchanged : Unchanged history) :
    Guarded (Mediated options request) history (planAccounts options context request) := by
  unfold planAccounts
  refine guarded_session unchanged fun later session unchanged resolved => ?_
  split
  · rename_i isGet
    exact guarded_if fun given =>
      guarded_await ⟨given, ⟨session, resolved, rfl⟩, own_method isGet, unchanged⟩ fun _ => .done
  · refine guarded_if fun isPost => guarded_if fun given => ?_
    unfold createPlanAccount
    split
    · exact .done
    split
    · exact .done
    split
    · exact .done
    · exact guarded_attempt ⟨given, ⟨session, resolved, rfl⟩, own_method isPost, unchanged⟩

theorem accountRoute_mediated {callback : Callback} {unavailable : Reply} {key required : String}
    {operation : String → AccountOperation} {failed : ServerError → Reply} {answered : Json → Reply}
    (called : ∀ text userId, (Question.account (operation text) userId).callback = callback)
    (method : ∀ text userId, ∀ method ∈ (Question.account (operation text) userId).method, request.method = method)
    (unchanged : Unchanged history) :
    Guarded (Mediated options request) history
      (accountRoute options context request callback unavailable key required operation failed answered) := by
  unfold accountRoute
  refine guarded_session unchanged fun later session unchanged resolved => guarded_unless fun given => ?_
  split
  · exact .done
  split
  · exact .done
  split
  · exact .done
  · rename_i text _
    exact guarded_attempt ⟨called text session.userId ▸ not_not.mp given, ⟨session, resolved, rfl⟩,
      method text session.userId, unchanged⟩

theorem operatorRuntime_mediated {encodedWorkspaceId : String} (isGet : request.method = "GET")
    (unchanged : Unchanged history) :
    Guarded (Mediated options request) history (operatorRuntime options encodedWorkspaceId) := by
  unfold operatorRuntime
  refine guarded_organization unchanged fun later session organizationId unchanged resolved active =>
    guarded_unless fun given => ?_
  split
  · exact .done
  · exact guarded_attempt ⟨not_not.mp given, ⟨session, resolved, rfl, active⟩, own_method isGet,
      unchanged⟩

theorem restartWorkspace_mediated {encodedWorkspaceId : String} (isPost : request.method = "POST")
    (unchanged : Unchanged history) :
    Guarded (Mediated options request) history (restartWorkspace options encodedWorkspaceId) := by
  unfold restartWorkspace
  refine guarded_organization unchanged fun later session organizationId unchanged resolved active =>
    guarded_unless fun given => ?_
  split
  · exact .done
  · exact guarded_unless fun _ =>
      guarded_attempt ⟨not_not.mp given, ⟨session, resolved, rfl, active⟩, own_method isPost, unchanged⟩

theorem runtime_mediated {route : RuntimeRoute} (unchanged : Unchanged history) :
    Guarded (Mediated options request) history (runtime options route) := by
  unfold runtime
  refine guarded_organization unchanged fun later session organizationId unchanged resolved active =>
    guarded_unless fun given => ?_
  split
  · exact .done
  · exact guarded_unless fun _ =>
      guarded_attempt ⟨not_not.mp given, ⟨session, resolved, rfl, active⟩, any_method, unchanged⟩

theorem afterReconciliation_mediated {session : Session} {organizationId : String} {next : Handling}
    (isGet : request.method = "GET") (unchanged : Unchanged history) (resolved : Resolved history session)
    (active : session.activeOrganizationId = some organizationId)
    (each : ∀ history, Unchanged history → Resolved history session →
      Guarded (Mediated options request) history next) :
    Guarded (Mediated options request) history (afterReconciliation options session organizationId next) := by
  unfold afterReconciliation
  split
  · rename_i given
    have reads : (Question.organization .reconcileUsage session.userId organizationId).changes = false := rfl
    exact .ask ⟨given, ⟨session, resolved, rfl, active⟩, own_method isGet, unchanged⟩
      fun answer => each _ (unchanged.append reads) (List.mem_append_left _ resolved)
  · exact each history unchanged resolved

theorem personalUsage_mediated (isGet : request.method = "GET") (unchanged : Unchanged history) :
    Guarded (Mediated options request) history (personalUsage options context request) := by
  unfold personalUsage
  split
  · exact .done
  refine guarded_organization unchanged fun later session organizationId unchanged resolved active =>
    guarded_unless fun given => ?_
  refine afterReconciliation_mediated isGet unchanged resolved active fun last unchanged resolved => ?_
  exact guarded_attempt ⟨not_not.mp given, ⟨session, resolved, rfl, active⟩, own_method isGet,
    unchanged⟩

theorem organizationUsage_mediated {encodedOrganizationId : String} {isExport : Bool} (isGet : request.method = "GET")
    (unchanged : Unchanged history) :
    Guarded (Mediated options request) history
      (organizationUsage options context request encodedOrganizationId isExport) := by
  unfold organizationUsage
  split
  · exact .done
  refine guarded_session unchanged fun later session unchanged resolved => ?_
  split
  · exact .done
  rename_i organizationId _
  refine guarded_unless fun denied => guarded_unless fun given => ?_
  have active : session.activeOrganizationId = some organizationId := by
    by_contra other
    exact denied (.inl other)
  refine afterReconciliation_mediated isGet unchanged resolved active fun last unchanged resolved => ?_
  exact guarded_attempt ⟨not_not.mp given, ⟨session, resolved, rfl, active⟩, own_method isGet,
    unchanged⟩

end Everybody

/-! ## The routes of an organization -/

section Organizations

variable {options : ControlPlaneHandlerOptions} {context : RequestContext} {request : ServerRequest}
  {lower : List Char → List Char} {history : History} {session : Session} {organizationId : String}

/-- An operation of an organization, once the session has its organization. -/
theorem operate_mediated {operation : OrganizationOperation} {answered : operation.Told → Reply}
    (unchanged : Unchanged history) (resolved : Resolved history session)
    (active : session.activeOrganizationId = some organizationId)
    (given : options.given (Question.organization operation session.userId organizationId).callback = true)
    (method : ∀ method ∈ (Question.organization operation session.userId organizationId).method,
      request.method = method) :
    Guarded (Mediated options request) history (operate session organizationId operation answered) :=
  guarded_attempt ⟨given, ⟨session, resolved, rfl, active⟩, method, unchanged⟩

theorem setMemberDisabled_mediated {encodedMembershipId : String} (isPatch : request.method = "PATCH")
    (given : options.given .setOrganizationMemberDisabled = true) (unchanged : Unchanged history)
    (resolved : Resolved history session) (active : session.activeOrganizationId = some organizationId) :
    Guarded (Mediated options request) history
      (setMemberDisabled request session organizationId encodedMembershipId) := by
  unfold setMemberDisabled
  split
  · exact .done
  split
  · exact .done
  split
  · exact operate_mediated unchanged resolved active given (own_method isPatch)
  · exact .done

theorem changeSeat_mediated {encodedMembershipId : String} (method : request.method = "PUT" ∨ request.method = "DELETE")
    (unchanged : Unchanged history) (resolved : Resolved history session)
    (active : session.activeOrganizationId = some organizationId) :
    Guarded (Mediated options request) history
      (changeSeat options request session organizationId encodedMembershipId) := by
  unfold changeSeat
  split
  · exact .done
  refine guarded_unless fun _ => guarded_ite (fun isPut => ?_) fun notPut => ?_
  · exact guarded_if fun given => operate_mediated unchanged resolved active given (own_method isPut)
  · exact guarded_if fun given =>
      operate_mediated unchanged resolved active given (own_method (method.resolve_left notPut))

theorem setPublicationConnected_mediated {encodedWorkspaceId encodedName : String} (isPatch : request.method = "PATCH")
    (given : options.given .setOrganizationPublicationConnected = true) (unchanged : Unchanged history)
    (resolved : Resolved history session) (active : session.activeOrganizationId = some organizationId) :
    Guarded (Mediated options request) history
      (setPublicationConnected request lower session organizationId encodedWorkspaceId encodedName) := by
  unfold setPublicationConnected
  split
  · refine guarded_unless fun _ => ?_
    split
    · exact .done
    split
    · exact operate_mediated unchanged resolved active given (own_method isPatch)
    · exact .done
  · exact .done

theorem organizationAudit_mediated (isGet : request.method = "GET") (given : options.given .getOrganizationAudit = true)
    (unchanged : Unchanged history) (resolved : Resolved history session)
    (active : session.activeOrganizationId = some organizationId) :
    Guarded (Mediated options request) history (organizationAudit request session organizationId) := by
  unfold organizationAudit
  dsimp only
  split
  · exact .done
  · exact guarded_unless fun _ => operate_mediated unchanged resolved active given (own_method isGet)

theorem updateOrganization_mediated (isPatch : request.method = "PATCH")
    (given : options.given .updateOrganization = true) (unchanged : Unchanged history)
    (resolved : Resolved history session) (active : session.activeOrganizationId = some organizationId) :
    Guarded (Mediated options request) history (updateOrganization request session organizationId) := by
  unfold updateOrganization
  split
  · exact .done
  split
  · exact .done
  · exact operate_mediated unchanged resolved active given (own_method isPatch)

theorem organizationRequest_mediated {matched : OrganizationMatches} (unchanged : Unchanged history)
    (resolved : Resolved history session) (active : session.activeOrganizationId = some organizationId) :
    Guarded (Mediated options request) history
      (organizationRequest options context request lower session organizationId matched) := by
  have operates {method : String} {operation : OrganizationOperation} {answered : operation.Told → Reply}
      (isMethod : request.method = method)
      (given : options.given (Question.organization operation session.userId organizationId).callback = true)
      (own : (Question.organization operation session.userId organizationId).method = some method) :
      Guarded (Mediated options request) history (operate session organizationId operation answered) :=
    operate_mediated unchanged resolved active given (own ▸ own_method isMethod)
  unfold organizationRequest
  refine guarded_ite (fun route => operates route.1 route.2.2 rfl) fun _ => ?_
  refine guarded_ite (fun route => setMemberDisabled_mediated route.1 route.2.2 unchanged resolved active) fun _ => ?_
  refine guarded_ite (fun route => changeSeat_mediated route.1 unchanged resolved active) fun _ => ?_
  refine guarded_ite (fun route => operates route.1 route.2.2 rfl) fun _ => ?_
  refine guarded_ite (fun route => operates route.1 route.2.2 rfl) fun _ => ?_
  refine guarded_ite (fun route => setPublicationConnected_mediated route.1 route.2.2 unchanged resolved active)
    fun _ => ?_
  refine guarded_ite (fun route => operates route.1 route.2.2 rfl) fun _ => ?_
  refine guarded_ite (fun route => operates route.1 route.2.2 rfl) fun _ => ?_
  refine guarded_ite (fun route => organizationAudit_mediated route.1 route.2.2 unchanged resolved active) fun _ => ?_
  refine guarded_ite (fun route => operates route.1 route.2.2 rfl) fun _ => ?_
  exact guarded_if fun route => updateOrganization_mediated route.1 route.2.2 unchanged resolved active

theorem organizationRoutes_mediated {matched : OrganizationMatches} (unchanged : Unchanged history) :
    Guarded (Mediated options request) history (organizationRoutes options context request lower matched) := by
  unfold organizationRoutes
  refine guarded_session unchanged fun later session unchanged resolved => ?_
  split
  · exact .done
  · refine guarded_unless fun same => ?_
    exact organizationRequest_mediated unchanged resolved (not_not.mp same)

end Organizations

/-! ## The whole handler -/

section Dispatch

variable {options : ControlPlaneHandlerOptions} {context : RequestContext} {request : ServerRequest}
  {lower : List Char → List Char} {history : History} {question : Question}

theorem withReadiness_mediated {next : Bool → Reply} (isGet : request.method = "GET") (unchanged : Unchanged history) :
    Guarded (Mediated options request) history (withReadiness options next) :=
  guarded_if fun given => guarded_await ⟨given, trivial, own_method isGet, unchanged⟩ fun _ => .done

theorem healthRoutes_mediated (unchanged : Unchanged history) :
    Guarded (Mediated options request) history (healthRoutes options request) := by
  unfold healthRoutes
  refine guarded_unless fun _ => guarded_ite (fun route => ?_) fun _ => guarded_if fun route => ?_
  · exact withReadiness_mediated route.1 unchanged
  · exact withReadiness_mediated route.1 unchanged

theorem workspaceRoutes_mediated (unchanged : Unchanged history) :
    Guarded (Mediated options request) history (workspaceRoutes options context request) := by
  unfold workspaceRoutes
  refine guarded_ite (fun route => operatorRuntime_mediated route.1 unchanged) fun _ => ?_
  refine guarded_ite (fun route => personalUsage_mediated route.1 unchanged) fun _ => ?_
  refine guarded_ite (fun route => organizationUsage_mediated route.1 unchanged) fun _ => ?_
  refine guarded_ite (fun route => ?_) fun _ => guarded_ite (fun route => ?_) fun _ => ?_
  · exact accountRoute_mediated (fun _ _ => rfl) (fun _ _ => own_method route.1) unchanged
  · exact accountRoute_mediated (fun _ _ => rfl) (fun _ _ => own_method route.1) unchanged
  refine guarded_ite (fun route => restartWorkspace_mediated route.1 unchanged) fun _ => ?_
  split
  · exact runtime_mediated unchanged
  · exact healthRoutes_mediated unchanged

theorem userRoutes_mediated (unchanged : Unchanged history) :
    Guarded (Mediated options request) history (userRoutes options context request lower) := by
  unfold userRoutes
  refine guarded_ite (fun _ => guarded_if fun given => ?_) fun _ => ?_
  · exact guarded_await ⟨given, trivial, any_method, unchanged⟩ fun _ => .done
  split
  · exact invitationStatus_mediated unchanged
  refine guarded_ite (fun _ => planAccounts_mediated unchanged) fun _ => guarded_ite (fun route => ?_) fun _ => ?_
  · exact accountRoute_mediated (fun _ _ => rfl) (fun _ _ => own_method route.1) unchanged
  · exact guarded_ite (fun _ => organizationRoutes_mediated unchanged) fun _ => workspaceRoutes_mediated unchanged

theorem administrationRoutes_mediated (unchanged : Unchanged history) :
    Guarded (Mediated options request) history (administrationRoutes options context request lower) := by
  unfold administrationRoutes
  refine guarded_ite (fun _ => contactAdministration_mediated unchanged) fun _ => ?_
  split
  · exact entitlementAdministration_mediated unchanged
  · exact revokeOrganizationPublications_mediated unchanged
  · refine guarded_ite (fun _ => platformControlAdministration_mediated unchanged) fun _ => ?_
    exact guarded_ite (fun _ => workerAdministration_mediated unchanged) fun _ => userRoutes_mediated unchanged

theorem ownRoutes_mediated (unchanged : Unchanged history) :
    Guarded (Mediated options request) history (ownRoutes options context request lower) := by
  unfold ownRoutes
  refine guarded_ite (fun _ => stripeWebhook_mediated unchanged) fun _ => ?_
  refine guarded_ite (fun _ => resendWebhook_mediated unchanged) fun _ => ?_
  split
  · exact workspacePublications_mediated unchanged
  · exact workspacePublications_mediated unchanged
  · exact guarded_ite (fun route => contact_mediated route.1 unchanged) fun _ =>
      administrationRoutes_mediated unchanged

theorem createControlPlaneHandler_mediated :
    Guarded (Mediated options request) [] (createControlPlaneHandler options context request lower) := by
  have unchanged : Unchanged [] := by simp [Unchanged]
  unfold createControlPlaneHandler
  dsimp only
  split
  · exact .done
  · exact publishedServices_mediated unchanged
  · exact publishedServices_mediated unchanged
  · exact ownRoutes_mediated unchanged

/-- Whatever the request is and whatever has been answered: the handler calls what it has
been given, and no operation before it has been authorized, for the one who has been
authenticated. -/
theorem handler_mediates (asks : (createControlPlaneHandler options context request lower).Asks history question) :
    options.given question.callback = true ∧ question.Authorized options request history := by
  have mediated : Mediated options request ([] ++ history) question := createControlPlaneHandler_mediated.asks asks
  exact ⟨mediated.given, mediated.authorized⟩

def everyCallback : ControlPlaneHandlerOptions := ⟨"0", [], none, fun _ => true⟩

def quietContext : RequestContext := ⟨none, 0, fun _ => ""⟩

/-- The body comes in two chunks. -/
def publishing : ServerRequest where
  method := "PUT"
  hostname := "nubols.test"
  pathname := "/api/workspaces/w1/publications/api"
  search := ""
  searchParams := []
  headers := []
  body := some ⟨[utf8Encode "\x7b\"port\"".toList, utf8Encode ":8080\x7d".toList], false⟩

def answeredToPublishing : History :=
  [⟨.authenticateWorkspacePublication "w1", .ok true⟩, ⟨.platformControlPaused .publication, .ok false⟩]

def upsertApi : Question :=
  .publication (.upsertWorkspacePublication "api".toList 8080 .http .publicAccess none) "w1"

theorem publishing_asks :
    (createControlPlaneHandler everyCallback quietContext publishing id).Asks answeredToPublishing upsertApi :=
  ⟨.ok true, rfl, .ok false, rfl, rfl⟩

theorem handler_mediates_publishing :
    everyCallback.given .upsertWorkspacePublication = true ∧
      upsertApi.Authorized everyCallback publishing answeredToPublishing :=
  handler_mediates publishing_asks

end Dispatch

end NebulaCloud.Server
