import NebulaCloud.Platform.RoundTrips
import NebulaCloud.Server.Mediation
import NebulaCloud.Web.PersonalWorkspace

namespace NebulaCloud.Web

open NebulaCloud.Data NebulaCloud.Data.Program NebulaCloud.Platform NebulaCloud.Server
open NebulaCloud.Access (runtimeRoute)
open NebulaCloud.Ingress (matchPublishedServiceHostname encodeURIComponent_segment unreserved_plain)
open NebulaCloud.Worker (member truthy isText)

/-! # What a call of the client does in the server

A call names a workspace or an organization.  It goes through the URL parser, the routes,
the decoding of paths and bodies and the authentication, and an operation for the same
name comes out of it. -/

/-! ## Paths and routes -/

section Paths

variable {pathname literal : String} {path : List (List Char)} {route : List Segment}

theorem intercalate_slash (first : List Char) (path : List (List Char)) :
    ['/'].intercalate (first :: path) = first ++ serializePath path := by
  induction path generalizing first with
  | nil => simp [serializePath]
  | cons segment path ih =>
      rw [List.intercalate_cons_cons, ih, serializePath_cons]
      simp

theorem splitOn_path (spelled : pathname.toList = serializePath path) (free : ∀ segment ∈ path, '/' ∉ segment) :
    pathname.toList.splitOn '/' = [] :: path := by
  have whole : serializePath path = ['/'].intercalate ([] :: path) := (intercalate_slash [] path).symm
  rw [spelled, whole]
  refine List.splitOn_intercalate '/' ?_ (List.cons_ne_nil _ _)
  simpa using free

theorem matchRoute_path (spelled : pathname.toList = serializePath path) (free : ∀ segment ∈ path, '/' ∉ segment) :
    matchRoute route pathname = matchSegments route path := by
  rw [matchRoute, splitOn_path spelled free]

theorem path_ne (spelled : pathname.toList = serializePath path) (free : ∀ segment ∈ path, '/' ∉ segment)
    (other : literal.toList.splitOn '/' ≠ [] :: path) : pathname ≠ literal := by
  rintro rfl
  exact other (splitOn_path spelled free)

end Paths

section Dispatch

variable {options : ControlPlaneHandlerOptions} {context : Server.RequestContext} {request : ServerRequest}
  {lower : List Char → List Char} {second : List Char} {rest : List (List Char)}

/-- A route whose first or second word differs. -/
theorem matchSegments_other {route : List Segment} {path : List (List Char)} {first : String}
    (differs : path.head? ≠ some first.toList) : matchSegments (.word first :: route) path = none := by
  cases path with
  | nil => rfl
  | cons segment path =>
      rw [matchSegments, if_neg]
      rintro rfl
      exact differs rfl

theorem matchSegments_word {route : List Segment} {path : List (List Char)} (first : String) :
    matchSegments (.word first :: route) (first.toList :: path) = matchSegments route path := by
  rw [matchSegments, if_pos rfl]

theorem matchSegments_publications {route : List Segment} {path : List (List Char)}
    (other : path[1]? ≠ some "publications".toList) :
    matchSegments (.capture :: .word "publications" :: route) path = none := by
  cases path with
  | nil => rfl
  | cons segment path =>
      rw [matchSegments, matchSegments_other (by rwa [List.head?_eq_getElem?])]
      split <;> rfl

/-- Paths of workspaces other than those of publications come to their routes. -/
theorem handler_workspaceRoutes
    (app : matchPublishedServiceHostname lower request.hostname.toList options.publishedServiceHostnameSuffix = .none)
    (spelled : request.pathname.toList = serializePath ("api".toList :: second :: rest))
    (free : ∀ segment ∈ rest, '/' ∉ segment)
    (within : second ∈ ["workspaces".toList, "restart".toList, "operator".toList])
    (other : rest[1]? ≠ some "publications".toList) :
    createControlPlaneHandler options context request lower = workspaceRoutes options context request := by
  have allFree : ∀ segment ∈ "api".toList :: second :: rest, '/' ∉ segment := by
    have words : ∀ word ∈ ["workspaces".toList, "restart".toList, "operator".toList], '/' ∉ word := by decide
    simpa using ⟨words second within, free⟩
  have ne {literal : String} (differs : ∀ word ∈ ["workspaces".toList, "restart".toList, "operator".toList],
      (literal.toList.splitOn '/')[2]? ≠ some word) : request.pathname ≠ literal :=
    path_ne spelled allFree fun same => differs second within (by rw [same]; rfl)
  have api {route : List Segment} :
      matchRoute (.word "api" :: route) request.pathname = matchSegments route (second :: rest) := by
    rw [matchRoute_path spelled allFree, matchSegments_word]
  have internal {route : List Segment} : matchRoute (.word "internal" :: route) request.pathname = none := by
    refine (matchRoute_path spelled allFree).trans (matchSegments_other ?_)
    rw [List.head?_cons]
    decide
  have noWord {word : String} {route : List Segment}
      (differs : word.toList ∉ ["workspaces".toList, "restart".toList, "operator".toList]) :
      matchRoute (.word "api" :: .word word :: route) request.pathname = none := by
    rw [api, matchSegments_other]
    rw [List.head?_cons]
    rintro ⟨⟩
    exact differs within
  have noService : publishedServicePath request.pathname = none := by
    rw [publishedServicePath, spelled]
    rfl
  have noAuth : ¬ "/api/auth/".toList <+: request.pathname.toList := by
    rw [spelled]
    simp only [List.mem_cons, List.not_mem_nil, or_false] at within
    rcases within with rfl | rfl | rfl <;> simp [serializePath]
  have noPublications {route : List Segment} :
      matchRoute (.word "api" :: .word "workspaces" :: .capture :: .word "publications" :: route) request.pathname =
        none := by
    rw [api]
    by_cases workspaces : second = "workspaces".toList
    · rw [workspaces, matchSegments_word, matchSegments_publications other]
    · rw [matchSegments_other]
      rw [List.head?_cons]
      rintro ⟨⟩
      exact workspaces rfl
  have noContactMember : matchRoute contactAdministrationMemberPath request.pathname = none := internal
  have noWorker : matchRoute workerAdministrationMemberPath request.pathname = none := internal
  have noControl : matchRoute platformControlAdministrationMemberPath request.pathname = none := internal
  have noRevocation : matchRoute organizationPublicationRevocationPath request.pathname = none := internal
  have noEntitlement : matchRoute operatorEntitlementAdministrationPath request.pathname = none := internal
  have noInvitation : matchRoute invitationStatusPath request.pathname = none := noWord (by decide)
  have noOrganization {rest : List Segment} : matchRoute (organizationRoute rest) request.pathname = none :=
    noWord (by decide)
  have noMatches : (organizationMatches request.pathname).any request.method = false := by
    simp [organizationMatches, OrganizationMatches.any, organizationMembersPath, organizationMemberPath,
      organizationOperatorSeatPath, organizationOperatorsPath, organizationPublicationsPath,
      organizationPublicationPath, organizationDashboardPath, organizationAdminPath, organizationAuditPath,
      organizationJoinCodePath, organizationPath, noOrganization]
  have noContact : request.pathname ≠ contactAdministrationPath := ne (by decide)
  have noExport : request.pathname ≠ contactAdministrationExportPath := ne (by decide)
  rw [createControlPlaneHandler]
  simp only [app, noService]
  rw [ownRoutes, if_neg (ne (by decide)), if_neg (ne (by decide))]
  rw [show matchRoute workspacePublicationsPath request.pathname = none from noPublications,
    show matchRoute workspacePublicationPath request.pathname = none from noPublications]
  simp only [captured, Option.bind_none]
  rw [if_neg fun route => ne (by decide) route.2, administrationRoutes]
  simp only [noContactMember, noWorker, noControl, noRevocation, noEntitlement, captured, Option.bind_none,
    Option.isSome_none, Bool.false_eq_true, or_false]
  rw [if_neg (not_or.mpr ⟨noContact, noExport⟩), if_neg (ne (by decide)), if_neg (ne (by decide)), userRoutes,
    if_neg noAuth]
  simp only [noInvitation, captured, Option.bind_none]
  rw [if_neg (ne (by decide)), if_neg fun route => ne (by decide) route.2, noMatches]
  rfl

end Dispatch

/-! ## Runs of the handler -/

section Runs

variable {answers : ∀ question : Question, question.Answer} {question : Question} {reply' : Reply}

@[simp] theorem run_reply : run answers (reply reply') = ([], .ok reply') := rfl

theorem run_await {next : question.Told → Handling} : run answers (await question next) =
    match answers question with
    | .error error => ([question], .error error)
    | .ok told => (question :: (run answers (next told)).1, (run answers (next told)).2) := by
  rw [await, run]
  cases answers question <;> rfl

/-- The reply to what a callback has answered. -/
def replyTo {told : Type} (failed : ServerError → Reply) (next : told → Reply) : Except ServerError told → Reply
  | .error error => failed error
  | .ok told => next told

theorem run_attempt {failed : ServerError → Reply} {next : question.Told → Reply} :
    run answers (attempt question failed next) = ([question], .ok (replyTo failed next (answers question))) := by
  rw [attempt, run]
  cases answers question <;> rfl

end Runs

/-! ## Calls -/

/-- A call of the client. -/
inductive WorkspaceCall
  | ensurePersonalWorkspace (organizationId : String)
  | ensureWorkspaceRunning (organizationId : String)
  | restartWorkspace (workspaceId : String)
  | getOperatorRuntime (workspaceId : String)

namespace WorkspaceCall

def call : WorkspaceCall → CloudCall
  | .ensurePersonalWorkspace organizationId => Web.ensurePersonalWorkspace organizationId
  | .ensureWorkspaceRunning organizationId => Web.ensureWorkspaceRunning organizationId
  | .restartWorkspace workspaceId => Web.restartWorkspace workspaceId
  | .getOperatorRuntime workspaceId => Web.getOperatorRuntime workspaceId

def callback : WorkspaceCall → Callback
  | .ensurePersonalWorkspace _ => .ensurePersonalWorkspace
  | .ensureWorkspaceRunning _ => .ensureWorkspaceRunning
  | .restartWorkspace _ => .restartWorkspace
  | .getOperatorRuntime _ => .getOperatorRuntime

/-- What the call is about can be named in a request. -/
def Usable : WorkspaceCall → Prop
  | .ensurePersonalWorkspace organizationId | .ensureWorkspaceRunning organizationId => trim organizationId ≠ ""
  | .restartWorkspace workspaceId => trim workspaceId ≠ "" ∧ workspaceId ≠ "." ∧ workspaceId ≠ ".."
  | .getOperatorRuntime workspaceId => workspaceId ≠ "" ∧ workspaceId ≠ "." ∧ workspaceId ≠ ".."

/-- Calls for workspaces are made within an organization. -/
def IsMadeIn (organizationId : String) (session : Session) : WorkspaceCall → Prop
  | .ensurePersonalWorkspace _ | .ensureWorkspaceRunning _ => True
  | .restartWorkspace _ | .getOperatorRuntime _ =>
      session.activeOrganizationId = some organizationId ∧ organizationId ≠ ""

/-- The operation that the call stands for. -/
def question (session : Session) (organizationId : String) : WorkspaceCall → Question
  | .ensurePersonalWorkspace id => .account (.ensurePersonalWorkspace id) session.userId
  | .ensureWorkspaceRunning id => .account (.ensureWorkspaceRunning id) session.userId
  | .restartWorkspace id => .workspace .restartWorkspace id session.userId organizationId
  | .getOperatorRuntime id => .workspace .getOperatorRuntime id session.userId organizationId

/-- What the client looks for in the answer. -/
def accepts (told : Json) : WorkspaceCall → Bool
  | .ensurePersonalWorkspace _ => truthy (member "id" (some told))
  | .ensureWorkspaceRunning _ =>
      let workspace := member "workspace" (some told)
      truthy (member "id" workspace) && truthy (member "state" workspace)
  | .restartWorkspace workspaceId =>
      isText workspaceId (member "workspaceId" (some told)) && isText "ready" (member "state" (some told))
  | .getOperatorRuntime _ => truthy (member "workspaceId" (some told)) && truthy (member "resources" (some told))

/-- What the operation answers; `none` is nothing of that name. -/
def answer (answers : ∀ question : Question, question.Answer) (session : Session) (organizationId : String) :
    WorkspaceCall → Except ServerError (Option Json)
  | .ensurePersonalWorkspace id => (answers (.account (.ensurePersonalWorkspace id) session.userId)).map some
  | .ensureWorkspaceRunning id => (answers (.account (.ensureWorkspaceRunning id) session.userId)).map some
  | .restartWorkspace id => answers (.workspace .restartWorkspace id session.userId organizationId)
  | .getOperatorRuntime id => answers (.workspace .getOperatorRuntime id session.userId organizationId)

/-- The client gets what the operation answers, and otherwise an error. -/
def Meets (call : WorkspaceCall) (answer : Except ServerError (Option Json)) (outcome : Except CloudFailure Json) :
    Prop :=
  (∀ told, answer = .ok (some told) → call.accepts told = true → outcome = .ok told) ∧
    ∀ told, outcome = .ok told → answer = .ok (some told) ∧ call.accepts told = true

end WorkspaceCall

/-! ## Responses -/

section Responses

variable (failed : String) (accept : JsonRecord → Json → Except CloudFailure Json) {value : Json} {fields : JsonRecord}
  {reply' : Reply}

def IsRefusal (status : Nat) : Prop := ¬ (200 ≤ status ∧ status < 300) ∧ status ≠ 401

instance (status : Nat) : Decidable (IsRefusal status) := inferInstanceAs (Decidable (_ ∧ _))

theorem settle_refusal (refusal : IsRefusal reply'.status) :
    (settle failed accept (received (.ok reply'))).sessionExpired = false ∧
      ∃ failure, (settle failed accept (received (.ok reply'))).outcome = .error failure := by
  have outcome : (settle failed accept (received (.ok reply'))).outcome = _ := if_neg refusal.1
  refine ⟨decide_eq_false refusal.2, ?_⟩
  rw [outcome]
  split
  · exact ⟨_, rfl⟩
  · exact ⟨_, rfl⟩

theorem settle_thrown {error : ServerError} :
    settle failed accept (received (.error error)) = ⟨false, failWith (failed ++ " (" ++ toString 500 ++ ")")⟩ := rfl

theorem settle_unauthenticated :
    settle failed accept (received (.ok authenticationRequired)) = ⟨true, failWith "authentication required"⟩ := rfl

theorem settle_json : settle failed accept (received (.ok (json value 200))) =
    { sessionExpired := false
      outcome := match propertiesOf value with
        | none => .error .typeError
        | some fields => accept fields value } := rfl

theorem get_eq_member (fields' : propertiesOf value = some fields) (key : String) :
    fields.get key = member key (some value) := by
  cases value with
  | null => cases fields'
  | object own =>
      cases fields'
      rfl
  | boolean _ | number _ | string _ | array _ =>
      cases fields'
      rfl

end Responses

/-! ## Delivery -/

section Delivery

variable {parseHost : List Char → Option String} {sent : CloudRequest} {request : ServerRequest}

theorem organizationBody_shape (organizationId : String) : organizationBody organizationId =
    '\x7b' :: '"' :: ("organizationId".toList ++ '"' :: ':' :: (jsonText organizationId ++ ['\x7d'])) := by
  have start : "\x7b\"organizationId\":".toList = '\x7b' :: '"' :: ("organizationId".toList ++ ['"', ':']) := by
    decide +kernel
  unfold organizationBody
  simp only [start, List.cons_append, List.append_assoc, List.nil_append]

theorem organizationBody_read (organizationId : String) :
    parseJson (organizationBody organizationId) = some (.object [("organizationId", .string organizationId)]) := by
  have plain : ∀ c ∈ "organizationId".toList, IsJsonPlain c := by
    have each : ("organizationId".toList.all fun c => decide (IsJsonPlain c)) = true := by decide
    simpa using each
  obtain ⟨fuel, enough⟩ : ∃ fuel, 2 * (organizationBody organizationId).length + 2 = fuel + 3 := by
    refine ⟨2 * (organizationBody organizationId).length - 1, ?_⟩
    rw [organizationBody_shape, List.length_cons]
    omega
  have value : jsonValue (fuel + 1) (jsonText organizationId ++ ['\x7d']) = some (.string organizationId, ['\x7d']) :=
    jsonValue_jsonText organizationId ['\x7d']
  have members :
      jsonMembers (fuel + 2)
          ('"' :: ("organizationId".toList ++ '"' :: ':' :: (jsonText organizationId ++ ['\x7d']))) [] =
        some ([("organizationId", .string organizationId)], []) := by
    rw [jsonMembers_plain plain value]
    rfl
  rw [parseJson, enough, organizationBody_shape, jsonValue_object, members]
  rfl

/-- However a body has been cut, it is read as it was written. -/
theorem delivered_json {organizationId : String} (delivered : Delivered parseHost sent request)
    (body : sent.body = some (organizationBody organizationId)) :
    requestJson request = .ok (.object [("organizationId", .string organizationId)]) := by
  obtain ⟨body, arrived, whole, bytes⟩ := delivered.body _ body
  have text : (TextDecoder.serialize false (utf8Text body.chunks.flatten)).2 = organizationBody organizationId := by
    rw [bytes, utf8Text_utf8Encode, organizationBody_shape, serialize_unmarked (by decide)]
  rw [requestJson, arrived]
  dsimp only
  rw [whole, text, organizationBody_read]
  rfl

theorem resolveTail_single {text : List Char} (single : ((cleanInput text)[1]?.all fun c => !isSlash c) = true) :
    resolveTail parseHost text = some (readTail (cleanInput text)) := by
  rw [resolveTail]
  generalize cleanInput text = cleaned at single ⊢
  rcases cleaned with _ | ⟨first, _ | ⟨second, rest⟩⟩
  · rfl
  · rfl
  · have noSlash : isSlash second = false := by simpa using single
    dsimp only
    rw [noSlash]
    rfl

theorem delivered_path {path : List (List Char)} (delivered : Delivered parseHost sent request)
    (target : sent.target = serializePath path) (nonempty : path ≠ []) (each : ∀ segment ∈ path, IsSegment segment)
    (single : ¬ ['/', '/'] <+: sent.target) : request.pathname.toList = serializePath path := by
  have resolved := (resolveTail_serialize parseHost nonempty each (.inl rfl)).mpr (by rwa [List.append_nil, ← target])
  rw [List.append_nil, ← target, delivered.path] at resolved
  rw [← target]
  simpa using congrArg (fun url => url.map UrlTail.pathname) resolved

end Delivery

/-! ## The routes of the calls -/

section Routes

variable {options : ControlPlaneHandlerOptions} {context : Server.RequestContext} {request : ServerRequest}
  {answers : ∀ question : Question, question.Answer} {encoded : List Char} {word : String}

theorem run_withSession {next : Session → Handling} (sessions : options.given .resolveSession = true) :
    run answers (withSession options next) =
      match answers .resolveSession with
      | .error error => ([.resolveSession], .error error)
      | .ok none => ([.resolveSession], .ok authenticationRequired)
      | .ok (some session) => (.resolveSession :: (run answers (next session)).1, (run answers (next session)).2) := by
  rw [withSession, if_pos sessions, run_await]
  match answers .resolveSession with
  | .error error => rfl
  | .ok none => rfl
  | .ok (some session) => rfl

theorem personalWorkspace_route (post : request.method = "POST")
    (path : request.pathname = "/api/workspaces/personal") :
    workspaceRoutes options context request = personalWorkspace options context request := by
  have notGet : request.method ≠ "GET" := by
    rw [post]
    decide
  rw [workspaceRoutes, if_neg fun route => notGet route.1, if_neg fun route => notGet route.1,
    if_neg fun route => notGet route.1, if_pos ⟨post, path⟩]

theorem ensureRunning_route (post : request.method = "POST")
    (path : request.pathname = "/api/workspaces/personal/ensure-running") :
    workspaceRoutes options context request = ensureRunning options context request := by
  have notGet : request.method ≠ "GET" := by
    rw [post]
    decide
  have longer : request.pathname ≠ "/api/workspaces/personal" := by
    rw [path]
    decide
  rw [workspaceRoutes, if_neg fun route => notGet route.1, if_neg fun route => notGet route.1,
    if_neg fun route => notGet route.1, if_neg fun route => longer route.2, if_pos ⟨post, path⟩]

def workspacePath (encoded : List Char) (word : String) : List (List Char) :=
  ["api".toList, "workspaces".toList, encoded, word.toList]

theorem workspacePath_free (free : '/' ∉ encoded) (last : '/' ∉ word.toList) :
    ∀ segment ∈ workspacePath encoded word, '/' ∉ segment := by
  have words : '/' ∉ "api".toList ∧ '/' ∉ "workspaces".toList := by decide
  simp only [workspacePath, List.mem_cons, List.not_mem_nil, or_false]
  rintro segment (rfl | rfl | rfl | rfl)
  · exact words.1
  · exact words.2
  · exact free
  · exact last

/-- A route of a workspace, with what it captures. -/
theorem matchRoute_workspace (spelled : request.pathname.toList = serializePath (workspacePath encoded word))
    (free : '/' ∉ encoded) (last : '/' ∉ word.toList) (other : String) :
    captured (matchRoute (workspaceRoute [.word other]) request.pathname) 1 =
      if encoded = [] ∨ word ≠ other then none else some (String.ofList encoded) := by
  rw [matchRoute_path spelled (workspacePath_free free last), workspaceRoute, workspacePath, List.cons_append,
    matchSegments_word, List.cons_append, matchSegments_word, List.cons_append, matchSegments]
  by_cases empty : encoded = []
  · rw [if_pos empty, if_pos (.inl empty)]
    rfl
  by_cases same : word = other
  · rw [if_neg empty, same, List.nil_append, matchSegments_word, if_neg (by simp [empty])]
    rfl
  · have differs : word.toList ≠ other.toList := fun equal => same (String.toList_injective equal)
    rw [if_neg empty, List.nil_append, matchSegments, if_neg differs, if_pos (.inr same)]
    rfl

theorem restart_route (post : request.method = "POST") (nonempty : encoded ≠ []) (free : '/' ∉ encoded)
    (spelled : request.pathname.toList = serializePath (workspacePath encoded "restart")) :
    workspaceRoutes options context request = Server.restartWorkspace options (String.ofList encoded) := by
  have notGet : request.method ≠ "GET" := by
    rw [post]
    decide
  have noSlash := workspacePath_free free (show '/' ∉ "restart".toList by decide)
  have notPersonal : request.pathname ≠ "/api/workspaces/personal" :=
    path_ne spelled noSlash fun same => absurd (congrArg List.length same)
      (show _ ≠ 5 by decide)
  have notEnsure : request.pathname ≠ "/api/workspaces/personal/ensure-running" :=
    path_ne spelled noSlash fun same => absurd (congrArg (·[4]?) same)
      (show _ ≠ some "restart".toList by decide)
  have matched : captured (matchRoute restartPath request.pathname) 1 = some (String.ofList encoded) :=
    (matchRoute_workspace spelled free (by decide) "restart").trans (if_neg (by simp [nonempty]))
  rw [workspaceRoutes, if_neg fun route => notGet route.1, if_neg fun route => notGet route.1,
    if_neg fun route => notGet route.1, if_neg fun route => notPersonal route.2, if_neg fun route => notEnsure route.2,
    matched, if_pos ⟨post, rfl⟩]
  rfl

theorem operator_route (get : request.method = "GET") (nonempty : encoded ≠ []) (free : '/' ∉ encoded)
    (spelled : request.pathname.toList = serializePath (workspacePath encoded "operator")) :
    workspaceRoutes options context request = operatorRuntime options (String.ofList encoded) := by
  have matched : captured (matchRoute operatorRuntimePath request.pathname) 1 = some (String.ofList encoded) :=
    (matchRoute_workspace spelled free (by decide) "operator").trans (if_neg (by simp [nonempty]))
  rw [workspaceRoutes, matched, if_pos ⟨get, rfl⟩]
  rfl

/-- Where a path ends up that has lost the name. -/
def namelessPaths : List String :=
  ["/api/workspaces//restart", "/api/workspaces/restart", "/api/restart", "/api/workspaces//operator",
    "/api/workspaces/operator", "/api/operator"]

theorem nameless_route (nameless : request.pathname ∈ namelessPaths) :
    workspaceRoutes options context request = reply notFound := by
  have words : ∀ path ∈ namelessPaths,
      captured (matchRoute operatorRuntimePath path) 1 = none ∧
        captured (matchRoute organizationUsagePath path) 1 = none ∧
        captured (matchRoute organizationUsageExportPath path) 1 = none ∧
        captured (matchRoute restartPath path) 1 = none ∧ runtimeRoute path = none ∧
        path ∉ [personalUsagePath, "/api/workspaces/personal", "/api/workspaces/personal/ensure-running",
          "/health/live", "/health/ready", "/internal/v1/status"] := by
    decide +kernel
  obtain ⟨noOperator, noUsage, noExport, noRestart, noRuntime, others⟩ := words _ nameless
  simp only [List.mem_cons, List.not_mem_nil, or_false, not_or] at others
  obtain ⟨notUsage, notPersonal, notEnsure, notLive, notReady, notStatus⟩ := others
  rw [workspaceRoutes]
  simp only [noOperator, noUsage, noExport, noRestart, noRuntime, notUsage, notPersonal, notEnsure, and_false,
    Option.isSome_none, Bool.false_eq_true, or_self, if_false]
  rw [healthRoutes]
  simp only [notLive, notReady, notStatus, and_false, if_false]

/-! ## What is asked, and what the client makes of the reply -/

theorem run_accountRoute {callback : Callback} {unavailable : Reply} {required id : String}
    {operation : String → AccountOperation} {failed : ServerError → Reply} {answered : Json → Reply}
    (sessions : options.given .resolveSession = true) (given : options.given callback = true)
    (body : requestJson request = .ok (.object [("organizationId", .string id)])) :
    run answers (accountRoute options context request callback unavailable "organizationId" required operation failed
      answered) =
      match answers .resolveSession with
      | .error error => ([.resolveSession], .error error)
      | .ok none => ([.resolveSession], .ok authenticationRequired)
      | .ok (some session) =>
          if trim id = "" then ([.resolveSession], .ok (invalidRequest required))
          else
            ([.resolveSession, .account (operation id) session.userId],
              .ok (replyTo failed answered (answers (.account (operation id) session.userId)))) := by
  have named : JsonRecord.get [("organizationId", .string id)] "organizationId" = some (.string id) := rfl
  rw [accountRoute, run_withSession sessions]
  match answers .resolveSession with
  | .error error => rfl
  | .ok none => rfl
  | .ok (some session) =>
      simp only [given, not_true_eq_false, if_false, body, propertiesOf, named, asText]
      by_cases blank : trim id = ""
      · rw [if_pos blank, Option.filter_some_neg (by simp [blank])]
        rfl
      · rw [if_neg blank, Option.filter_some_pos (by simp [blank])]
        simp only [run_attempt]

theorem run_withOrganization {missing : Reply} {next : Session → String → Handling}
    (sessions : options.given .resolveSession = true) :
    run answers (withOrganization options missing next) =
      match answers .resolveSession with
      | .error error => ([.resolveSession], .error error)
      | .ok none => ([.resolveSession], .ok authenticationRequired)
      | .ok (some session) =>
          match session.activeOrganizationId.filter (· ≠ "") with
          | none => ([.resolveSession], .ok missing)
          | some organizationId =>
              (.resolveSession :: (run answers (next session organizationId)).1,
                (run answers (next session organizationId)).2) := by
  rw [withOrganization, run_withSession sessions]
  match answers .resolveSession with
  | .error error => rfl
  | .ok none => rfl
  | .ok (some session) =>
      dsimp only
      cases session.activeOrganizationId.filter (· ≠ "") with
      | none => rfl
      | some organizationId => rfl

end Routes

/-! ## The calls -/

/-- The call is good and the user may make it. -/
def WorkspaceCall.IsServed (call : WorkspaceCall) (answers : ∀ question : Question, question.Answer) (session : Session)
    (organizationId : String) : Prop :=
  call.Usable ∧ answers .resolveSession = .ok (some session) ∧ call.IsMadeIn organizationId session

/-- What becomes of a call: what the server asks for, and what the client has in the end. -/
structure Carried (answers : ∀ question : Question, question.Answer) (call : WorkspaceCall) (asked : List Question)
    (settled : Settled) : Prop where
  served : ∀ session organizationId, call.IsServed answers session organizationId →
    asked = [.resolveSession, call.question session organizationId] ∧ settled.sessionExpired = false ∧
      call.Meets (call.answer answers session organizationId) settled.outcome
  refused : (∀ session organizationId, ¬ call.IsServed answers session organizationId) →
    asked ⊆ [.resolveSession] ∧ ∃ failure, settled.outcome = .error failure
  expired : call.Usable → answers .resolveSession = .ok none →
    settled = ⟨true, failWith "authentication required"⟩
  expires : settled.sessionExpired = true → answers .resolveSession = .ok none

section Calls

variable {options : ControlPlaneHandlerOptions} {context : Server.RequestContext} {request : ServerRequest}
  {lower : List Char → List Char} {parseHost : List Char → Option String}
  {answers : ∀ question : Question, question.Answer}

/-- The client gets what has been told, if it accepts it. -/
def Passes (accepted : Bool) (told : Json) (settled : Settled) : Prop :=
  settled.sessionExpired = false ∧ ∃ failure, settled.outcome = if accepted then .ok told else .error failure

/-- A payload that passes through is looked at by its properties. -/
theorem passes_payload {failed : String} {accept : JsonRecord → Json → Except CloudFailure Json} {told : Json}
    {accepted : Bool} (message : String)
    (shape : ∀ fields, propertiesOf told = some fields →
      accept fields told = if accepted then .ok told else failWith message)
    (null : propertiesOf told = none → accepted = false) :
    Passes accepted told (settle failed accept (received (.ok (json told 200)))) := by
  rw [settle_json]
  cases properties : propertiesOf told with
  | none =>
      refine ⟨rfl, .typeError, ?_⟩
      rw [null properties]
      rfl
  | some fields => exact ⟨rfl, _, shape fields properties⟩

theorem null_of_properties {told : Json} (none : propertiesOf told = none) : told = .null := by
  cases told with
  | null => rfl
  | _ => cases none

theorem Passes.meets {call : WorkspaceCall} {told : Json} {settled : Settled}
    (passes : Passes (call.accepts told) told settled) :
    call.Meets (.ok (some told)) settled.outcome := by
  obtain ⟨-, failure, outcome⟩ := passes
  rw [outcome]
  refine ⟨?_, ?_⟩
  · rintro _ ⟨⟩ accepted
    rw [accepted]
    rfl
  · intro other same
    cases accepted : call.accepts told with
    | true =>
        rw [accepted] at same
        cases same
        exact ⟨rfl, accepted⟩
    | false =>
        rw [accepted] at same
        cases same

theorem meets_refusal {call : WorkspaceCall} {outcome : Except CloudFailure Json} {failure : CloudFailure}
    {answer : Except ServerError (Option Json)} (failed : outcome = .error failure)
    (nothing : ∀ told, answer ≠ .ok (some told)) : call.Meets answer outcome := by
  subst failed
  exact ⟨fun told same => absurd same (nothing told), fun told same => by cases same⟩

section Ends

variable {call : WorkspaceCall} {settled : Settled} {asked : List Question}

/-- The session is there, and the operation has its answer. -/
theorem carried_served {session : Session} {organizationId : String}
    (served : call.IsServed answers session organizationId) (still : settled.sessionExpired = false)
    (each : ∀ organizationId, call.IsMadeIn organizationId session →
      asked = [.resolveSession, call.question session organizationId] ∧
        call.Meets (call.answer answers session organizationId) settled.outcome) :
    Carried answers call asked settled := by
  refine ⟨?_, fun never => absurd served (never _ _), fun _ signedOut => ?_, fun expires => ?_⟩
  · rintro session' other ⟨-, signedIn, made⟩
    have same : session = session' := by
      rw [served.2.1] at signedIn
      simpa using signedIn
    subst same
    exact ⟨(each other made).1, still, (each other made).2⟩
  · rw [served.2.1] at signedOut
    simp at signedOut
  · rw [still] at expires
    cases expires

theorem carried_refused (never : ∀ session organizationId, ¬ call.IsServed answers session organizationId)
    (asks : asked ⊆ [.resolveSession]) (failure : ∃ failure, settled.outcome = .error failure)
    (expired : call.Usable → answers .resolveSession = .ok none → settled = ⟨true, failWith "authentication required"⟩)
    (expires : settled.sessionExpired = true → answers .resolveSession = .ok none) :
    Carried answers call asked settled :=
  ⟨fun _ _ served => absurd served (never _ _), fun _ => ⟨asks, failure⟩, expired, expires⟩

theorem carried_signedOut {failed : String} {accept : JsonRecord → Json → Except CloudFailure Json}
    (signedOut : answers .resolveSession = .ok none)
    (settles : settled = settle failed accept (received (.ok authenticationRequired)))
    (asks : asked ⊆ [.resolveSession]) : Carried answers call asked settled := by
  rw [settle_unauthenticated] at settles
  subst settles
  refine carried_refused ?_ asks ⟨_, rfl⟩ (fun _ _ => rfl) fun _ => signedOut
  rintro session organizationId ⟨-, signedIn, -⟩
  rw [signedOut] at signedIn
  simp at signedIn

theorem carried_thrown {failed : String} {accept : JsonRecord → Json → Except CloudFailure Json} {error : ServerError}
    (thrown : answers .resolveSession = .error error)
    (settles : settled = settle failed accept (received (.error error)))
    (asks : asked ⊆ [.resolveSession]) : Carried answers call asked settled := by
  rw [settle_thrown] at settles
  subst settles
  refine carried_refused ?_ asks ⟨_, rfl⟩ ?_ (fun expires => by cases expires)
  · rintro session organizationId ⟨-, signedIn, -⟩
    rw [thrown] at signedIn
    cases signedIn
  · intro _ signedOut
    rw [thrown] at signedOut
    cases signedOut

theorem carried_refusal {failed : String} {accept : JsonRecord → Json → Except CloudFailure Json} {reply' : Reply}
    (refusal : IsRefusal reply'.status) (settles : settled = settle failed accept (received (.ok reply')))
    (never : ∀ session organizationId, ¬ call.IsServed answers session organizationId)
    (known : call.Usable → answers .resolveSession ≠ .ok none) (asks : asked ⊆ [.resolveSession]) :
    Carried answers call asked settled := by
  subst settles
  obtain ⟨still, failure⟩ := settle_refusal failed accept refusal
  refine carried_refused never asks failure (fun usable signedOut => absurd signedOut (known usable)) fun expires => ?_
  rw [still] at expires
  cases expires

end Ends

/-- What an account route makes of a call. -/
theorem carried_account {call : WorkspaceCall} {handling : Handling} {required id failed : String}
    {accept : JsonRecord → Json → Except CloudFailure Json}
    {operation : String → AccountOperation} {failure : ServerError → Reply} {answered : Json → Reply}
    (runs : run answers handling = match answers .resolveSession with
      | .error error => ([.resolveSession], .error error)
      | .ok none => ([.resolveSession], .ok authenticationRequired)
      | .ok (some session) =>
          if trim id = "" then ([.resolveSession], .ok (invalidRequest required))
          else
            ([.resolveSession, .account (operation id) session.userId],
              .ok (replyTo failure answered (answers (.account (operation id) session.userId)))))
    (usable : call.Usable ↔ trim id ≠ "")
    (madeIn : ∀ session organizationId, call.IsMadeIn organizationId session)
    (question : ∀ session organizationId, call.question session organizationId = .account (operation id) session.userId)
    (answer : ∀ session organizationId, call.answer answers session organizationId =
      (answers (.account (operation id) session.userId)).map some)
    (refuses : ∀ error, IsRefusal (failure error).status)
    (passes : ∀ told, Passes (call.accepts told) told (settle failed accept (received (.ok (answered told))))) :
    Carried answers call (run answers handling).1 (settle failed accept (received (run answers handling).2)) := by
  match signedIn : answers .resolveSession with
  | .error error =>
      rw [signedIn] at runs
      rw [runs]
      exact carried_thrown signedIn rfl (List.Subset.refl _)
  | .ok none =>
      rw [signedIn] at runs
      rw [runs]
      exact carried_signedOut signedIn rfl (List.Subset.refl _)
  | .ok (some session) =>
      rw [signedIn] at runs
      by_cases blank : trim id = ""
      · simp only [if_pos blank] at runs
        rw [runs]
        apply carried_refusal (show IsRefusal 400 by decide) rfl
        · exact fun _ _ served => usable.mp served.1 blank
        · exact fun named => absurd blank (usable.mp named)
        · exact List.Subset.refl _
      · simp only [if_neg blank] at runs
        rw [runs]
        have served : call.IsServed answers session "" := ⟨usable.mpr blank, signedIn, madeIn _ _⟩
        cases told : answers (.account (operation id) session.userId) with
        | error error =>
            obtain ⟨still, failure', outcome⟩ := settle_refusal failed accept (refuses error)
            refine carried_served served still fun organizationId _ => ⟨by rw [question], ?_⟩
            rw [answer, told]
            exact meets_refusal outcome (by rintro _ ⟨⟩)
        | ok value =>
            refine carried_served served (passes value).1 fun organizationId _ => ⟨by rw [question], ?_⟩
            rw [answer, told]
            exact (passes value).meets

/-- What a route of a workspace makes of a call. -/
theorem carried_workspace {call : WorkspaceCall} {missing : Reply} {next : Session → String → Handling}
    {failed : String} {accept : JsonRecord → Json → Except CloudFailure Json} {failure : ServerError → Reply}
    {nothing : Reply}
    (sessions : options.given .resolveSession = true)
    (madeIn : ∀ session organizationId, call.IsMadeIn organizationId session ↔
      session.activeOrganizationId = some organizationId ∧ organizationId ≠ "")
    (asks : call.Usable → ∀ session organizationId, run answers (next session organizationId) =
      ([call.question session organizationId],
        .ok (replyTo failure (jsonOr nothing) (call.answer answers session organizationId))))
    (declines : ¬ call.Usable → ∀ session organizationId, ∃ reply,
      run answers (next session organizationId) = ([], .ok reply) ∧ IsRefusal reply.status)
    (unavailable : IsRefusal missing.status) (refuses : ∀ error, IsRefusal (failure error).status)
    (unknown : IsRefusal nothing.status)
    (passes : ∀ told, Passes (call.accepts told) told (settle failed accept (received (.ok (json told 200))))) :
    Carried answers call (run answers (withOrganization options missing next)).1
      (settle failed accept (received (run answers (withOrganization options missing next)).2)) := by
  have runs := @run_withOrganization options answers missing next sessions
  match signedIn : answers .resolveSession with
  | .error error =>
      rw [signedIn] at runs
      rw [runs]
      exact carried_thrown signedIn rfl (List.Subset.refl _)
  | .ok none =>
      rw [signedIn] at runs
      rw [runs]
      exact carried_signedOut signedIn rfl (List.Subset.refl _)
  | .ok (some session) =>
      rw [signedIn] at runs
      have one (other : Session) (same : answers .resolveSession = .ok (some other)) : other = session := by
        rw [signedIn] at same
        simpa using same.symm
      have known : answers .resolveSession ≠ .ok none := by simp [signedIn]
      cases active : session.activeOrganizationId.filter (· ≠ "") with
      | none =>
          simp only [active] at runs
          rw [runs]
          apply carried_refusal unavailable rfl
          · rintro other organizationId ⟨-, same, made⟩
            obtain ⟨chosen, named⟩ := (madeIn _ _).mp made
            rw [one other same] at chosen
            rw [chosen, Option.filter_some_pos (by simp [named])] at active
            cases active
          · exact fun _ => known
          · exact List.Subset.refl _
      | some organizationId =>
          have chosen : session.activeOrganizationId = some organizationId ∧ organizationId ≠ "" := by
            simpa using Option.filter_eq_some_iff.mp active
          simp only [active] at runs
          by_cases usable : call.Usable
          · have served : call.IsServed answers session organizationId := ⟨usable, signedIn, (madeIn _ _).mpr chosen⟩
            have only (other : String) (made : call.IsMadeIn other session) : other = organizationId := by
              have both := ((madeIn _ _).mp made).1.symm.trans chosen.1
              simpa using both
            rw [runs, asks usable]
            match told : call.answer answers session organizationId with
            | .error error =>
                obtain ⟨still, failure', outcome⟩ := settle_refusal failed accept (refuses error)
                refine carried_served served still fun other made => ?_
                rw [only other made, told]
                exact ⟨rfl, meets_refusal outcome (by rintro _ ⟨⟩)⟩
            | .ok none =>
                obtain ⟨still, failure', outcome⟩ := settle_refusal failed accept unknown
                refine carried_served served still fun other made => ?_
                rw [only other made, told]
                exact ⟨rfl, meets_refusal outcome (by rintro _ ⟨⟩)⟩
            | .ok (some value) =>
                refine carried_served served (passes value).1 fun other made => ?_
                rw [only other made, told]
                exact ⟨rfl, (passes value).meets⟩
          · obtain ⟨refused, declined, refusal⟩ := declines usable session organizationId
            rw [runs, declined]
            apply carried_refusal refusal rfl
            · exact fun _ _ served => usable served.1
            · exact fun _ => known
            · exact List.Subset.refl _

theorem plain_segment {segment : List Char} (unreserved : segment.all isUriUnreserved = true)
    (single : isSingleDot segment = false) (double : isDoubleDot segment = false) : IsSegment segment :=
  ⟨fun c member => unreserved_plain (List.all_eq_true.mp unreserved c member), single, double⟩

theorem literal_path {literal : String} (path : List (List Char)) {sent : CloudRequest}
    (delivered : Delivered parseHost sent request) (target : sent.target = literal.toList)
    (spelled : literal.toList = serializePath path ∧ path ≠ [] ∧ ¬ ['/', '/'] <+: literal.toList)
    (each : path.all (fun segment => segment.all isUriUnreserved && !isSingleDot segment && !isDoubleDot segment) =
      true) :
    request.pathname = literal := by
  have segments : ∀ segment ∈ path, IsSegment segment := by
    intro segment member
    have facts := List.all_eq_true.mp each segment member
    simp only [Bool.and_eq_true, Bool.not_eq_true'] at facts
    exact plain_segment facts.1.1 facts.1.2 facts.2
  refine String.toList_injective (Eq.trans ?_ spelled.1.symm)
  exact delivered_path delivered (target.trans spelled.1) spelled.2.1 segments (by rw [target]; exact spelled.2.2)

theorem workspaceTarget_path {workspaceId rest word : String} (behind : rest.toList = '/' :: word.toList) :
    workspaceTarget workspaceId rest = serializePath (workspacePath (encodeURIComponent workspaceId).toList word) := by
  simp [workspaceTarget, workspacePath, serializePath, behind]

theorem encodeURIComponent_ne_nil {text : String} (nonempty : text ≠ "") : (encodeURIComponent text).toList ≠ [] := by
  intro empty
  exact nonempty (encodeURIComponent_injective (String.toList_injective empty))

/-- Where a call for a workspace arrives. -/
theorem workspace_path {workspaceId rest word : String} {sent : CloudRequest}
    (delivered : Delivered parseHost sent request)
    (target : sent.target = workspaceTarget workspaceId rest) (behind : rest.toList = '/' :: word.toList)
    (normal : IsSegment word.toList) (plain : workspaceId ≠ "." ∧ workspaceId ≠ "..") :
    request.pathname.toList = serializePath (workspacePath (encodeURIComponent workspaceId).toList word) := by
  have spelled := target.trans (workspaceTarget_path behind)
  refine delivered_path delivered spelled (by simp [workspacePath]) ?_ ?_
  · simp only [workspacePath, List.mem_cons, List.not_mem_nil, or_false]
    rintro segment (rfl | rfl | rfl | rfl)
    · exact plain_segment (by decide) (by decide) (by decide)
    · exact plain_segment (by decide) (by decide) (by decide)
    · exact (encodeURIComponent_segment workspaceId).mpr plain
    · exact normal
  · rw [spelled]
    simp [workspacePath, serializePath]

theorem workspaceFailure_refuses {failed : Reply} (refuses : IsRefusal failed.status) (error : ServerError) :
    IsRefusal (workspaceFailure failed error).status := by
  unfold workspaceFailure
  split
  · exact show IsRefusal 503 by decide
  · exact show IsRefusal 403 by decide
  · exact refuses

section Account

variable
  (app : matchPublishedServiceHostname lower request.hostname.toList options.publishedServiceHostnameSuffix = .none)
  (sessions : options.given .resolveSession = true) {organizationId : String}

include app sessions

theorem ensurePersonalWorkspace_carried (given : options.given .ensurePersonalWorkspace = true)
    (delivered : Delivered parseHost (ensurePersonalWorkspace organizationId).request request) :
    Carried answers (.ensurePersonalWorkspace organizationId)
      (run answers (createControlPlaneHandler options context request lower)).1
      ((ensurePersonalWorkspace organizationId).settle
        (received (run answers (createControlPlaneHandler options context request lower)).2)) := by
  have path : request.pathname = "/api/workspaces/personal" :=
    literal_path ["api".toList, "workspaces".toList, "personal".toList] delivered rfl (by decide) (by decide)
  have spelled : request.pathname.toList =
      serializePath ("api".toList :: "workspaces".toList :: ["personal".toList]) := by
    rw [path]
    decide
  rw [handler_workspaceRoutes app spelled (by decide) (by decide) (by decide),
    personalWorkspace_route delivered.method path]
  refine carried_account (run_accountRoute sessions given (delivered_json delivered rfl)) Iff.rfl (fun _ _ => trivial)
    (fun _ _ => rfl) (fun _ _ => rfl) (workspaceFailure_refuses (by decide)) fun told => ⟨rfl, _, rfl⟩

theorem ensureWorkspaceRunning_carried (given : options.given .ensureWorkspaceRunning = true)
    (delivered : Delivered parseHost (ensureWorkspaceRunning organizationId).request request) :
    Carried answers (.ensureWorkspaceRunning organizationId)
      (run answers (createControlPlaneHandler options context request lower)).1
      ((ensureWorkspaceRunning organizationId).settle
        (received (run answers (createControlPlaneHandler options context request lower)).2)) := by
  have path : request.pathname = "/api/workspaces/personal/ensure-running" :=
    literal_path ["api".toList, "workspaces".toList, "personal".toList, "ensure-running".toList] delivered rfl
      (by decide) (by decide)
  have spelled : request.pathname.toList =
      serializePath ("api".toList :: "workspaces".toList :: ["personal".toList, "ensure-running".toList]) := by
    rw [path]
    decide
  rw [handler_workspaceRoutes app spelled (by decide) (by decide) (by decide),
    ensureRunning_route delivered.method path]
  refine carried_account (run_accountRoute sessions given (delivered_json delivered rfl)) Iff.rfl (fun _ _ => trivial)
    (fun _ _ => rfl) (fun _ _ => rfl) (fun error => ?_) fun told => ?_
  · split
    · exact show IsRefusal 403 by decide
    · exact workspaceFailure_refuses (by decide) error
  · refine passes_payload "Control plane returned an invalid workspace startup response" (fun fields properties => ?_)
      fun none => ?_
    · rw [get_eq_member properties]
      simp only [WorkspaceCall.accepts, Bool.and_eq_true]
    · rw [null_of_properties none]
      rfl

end Account

section Workspaces

variable
  (app : matchPublishedServiceHostname lower request.hostname.toList options.publishedServiceHostnameSuffix = .none)
  (sessions : options.given .resolveSession = true) {workspaceId : String}

/-- A request whose path has lost the name is answered without a question. -/
theorem carried_nameless {call : WorkspaceCall} {made : CloudCall} {failed : String}
    {accept : JsonRecord → Json → Except CloudFailure Json} (settles : made.settle = settle failed accept)
    (unusable : ¬ call.Usable) :
    Carried answers call (run answers (reply notFound)).1
      (made.settle (received (run answers (reply notFound)).2)) := by
  rw [settles, run_reply]
  apply carried_refusal (show IsRefusal 404 by decide) rfl
  · exact fun _ _ served => unusable served.1
  · exact fun usable => absurd usable unusable
  · exact List.nil_subset _

include app

/-- Where a path loses the name of the workspace. -/
theorem nameless_reply {sent : CloudRequest} {rest : String} (delivered : Delivered parseHost sent request)
    (target : sent.target = workspaceTarget workspaceId rest) (words : rest = "/restart" ∨ rest = "/operator")
    (nameless : workspaceId = "" ∨ workspaceId = "." ∨ workspaceId = "..") :
    createControlPlaneHandler options context request lower = reply notFound := by
  have read : ∀ rest ∈ ["/restart", "/operator"], ∀ id ∈ ["", ".", ".."],
      ((cleanInput (workspaceTarget id rest))[1]?.all fun c => !isSlash c) = true ∧
        String.ofList (readTail (cleanInput (workspaceTarget id rest))).pathname ∈ namelessPaths := by
    decide +kernel
  obtain ⟨single, lost⟩ := read rest (by simpa using words) workspaceId (by simpa using nameless)
  have resolved := delivered.path
  rw [target, resolveTail_single single, Option.some_inj] at resolved
  have path : request.pathname ∈ namelessPaths := by
    rw [resolved, String.ofList_toList] at lost
    exact lost
  have spelled : ∀ path ∈ namelessPaths, ∃ second ∈ ["workspaces".toList, "restart".toList, "operator".toList],
      ∃ rest ∈ [[], ["restart".toList], ["operator".toList], [[], "restart".toList], [[], "operator".toList]],
        path.toList = serializePath ("api".toList :: second :: rest) ∧ (∀ segment ∈ rest, '/' ∉ segment) ∧
          rest[1]? ≠ some "publications".toList := by
    decide +kernel
  obtain ⟨second, within, rest, -, spelled, free, other⟩ := spelled _ path
  rw [handler_workspaceRoutes app spelled free within other, nameless_route path]

include sessions

theorem restartWorkspace_carried (given : options.given .restartWorkspace = true)
    (delivered : Delivered parseHost (restartWorkspace workspaceId).request request) :
    Carried answers (.restartWorkspace workspaceId)
      (run answers (createControlPlaneHandler options context request lower)).1
      ((restartWorkspace workspaceId).settle
        (received (run answers (createControlPlaneHandler options context request lower)).2)) := by
  have target : (restartWorkspace workspaceId).request.target = workspaceTarget workspaceId "/restart" := by
    simp only [restartWorkspace]
  by_cases nameless : workspaceId = "" ∨ workspaceId = "." ∨ workspaceId = ".."
  · rw [nameless_reply app delivered target (.inl rfl) nameless]
    refine carried_nameless rfl ?_
    rintro ⟨visible, noDot, noDots⟩
    rcases nameless with rfl | rfl | rfl
    · exact visible (by decide)
    · exact noDot rfl
    · exact noDots rfl
  obtain ⟨nonempty, plain⟩ := not_or.mp nameless
  have plain := not_or.mp plain
  have spelled := workspace_path delivered target (show _ = '/' :: "restart".toList by decide)
    (plain_segment (by decide) (by decide) (by decide)) plain
  have free : '/' ∉ (encodeURIComponent workspaceId).toList :=
    segment_free ((encodeURIComponent_segment workspaceId).mpr plain)
  rw [handler_workspaceRoutes app spelled (by simpa using free) (by decide) (by simp),
    restart_route delivered.method (encodeURIComponent_ne_nil nonempty) free spelled, String.ofList_toList,
    Server.restartWorkspace]
  simp only [given, not_true_eq_false, if_false, decodeURIComponent_encode]
  apply carried_workspace sessions
  · exact fun _ _ => Iff.rfl
  · intro usable session organizationId
    rw [if_neg usable.1, run_attempt]
    rfl
  · intro unusable session organizationId
    have blank : trim workspaceId = "" := by
      by_contra visible
      exact unusable ⟨visible, plain⟩
    rw [if_pos blank]
    exact ⟨_, rfl, by decide⟩
  · exact show IsRefusal 403 by decide
  · intro error
    split
    · exact show IsRefusal 503 by decide
    · exact show IsRefusal 502 by decide
  · exact show IsRefusal 404 by decide
  · intro told
    apply passes_payload "Control plane returned an invalid restart response"
    · intro fields properties
      rw [get_eq_member properties, get_eq_member properties]
      simp only [WorkspaceCall.accepts, Bool.and_eq_true]
    · intro none
      rw [null_of_properties none]
      rfl

theorem getOperatorRuntime_carried (given : options.given .getOperatorRuntime = true)
    (delivered : Delivered parseHost (getOperatorRuntime workspaceId).request request) :
    Carried answers (.getOperatorRuntime workspaceId)
      (run answers (createControlPlaneHandler options context request lower)).1
      ((getOperatorRuntime workspaceId).settle
        (received (run answers (createControlPlaneHandler options context request lower)).2)) := by
  have target : (getOperatorRuntime workspaceId).request.target = workspaceTarget workspaceId "/operator" := by
    simp only [getOperatorRuntime]
  by_cases nameless : workspaceId = "" ∨ workspaceId = "." ∨ workspaceId = ".."
  · rw [nameless_reply app delivered target (.inr rfl) nameless]
    refine carried_nameless rfl ?_
    rintro ⟨nonempty, noDot, noDots⟩
    exact nameless.elim nonempty fun dots => dots.elim noDot noDots
  obtain ⟨nonempty, plain⟩ := not_or.mp nameless
  have plain := not_or.mp plain
  have spelled := workspace_path delivered target (show _ = '/' :: "operator".toList by decide)
    (plain_segment (by decide) (by decide) (by decide)) plain
  have free : '/' ∉ (encodeURIComponent workspaceId).toList :=
    segment_free ((encodeURIComponent_segment workspaceId).mpr plain)
  rw [handler_workspaceRoutes app spelled (by simpa using free) (by decide) (by simp),
    operator_route delivered.method (encodeURIComponent_ne_nil nonempty) free spelled, String.ofList_toList,
    operatorRuntime]
  simp only [given, not_true_eq_false, if_false, decodeURIComponent_encode]
  apply carried_workspace sessions
  · exact fun _ _ => Iff.rfl
  · intro usable session organizationId
    exact run_attempt
  · intro unusable
    exact absurd ⟨nonempty, plain⟩ unusable
  · exact show IsRefusal 503 by decide
  · exact fun error => show IsRefusal 503 by decide
  · exact show IsRefusal 404 by decide
  · intro told
    apply passes_payload "Control plane returned invalid operator metadata"
    · intro fields properties
      rw [get_eq_member properties, get_eq_member properties]
      simp only [WorkspaceCall.accepts, Bool.and_eq_true]
    · intro none
      rw [null_of_properties none]
      rfl

end Workspaces

/-- The name has a slash of its own. -/
def restarting : ServerRequest where
  method := "POST"
  hostname := "nubols.test"
  pathname := "/api/workspaces/a%2Fb/restart"
  search := ""
  searchParams := []
  headers := []
  body := none

def restarted : Json := .object [("workspaceId", .string "a/b"), ("state", .string "ready")]

def restartAnswers : ∀ question : Question, question.Answer
  | .resolveSession => .ok (some ⟨"u1", none, some "o1"⟩)
  | .workspace .restartWorkspace _ _ _ => .ok (some restarted)
  | _ => .error ⟨.error, "", ""⟩

theorem restarting_delivered : Delivered (fun _ => none) (restartWorkspace "a/b").request restarting where
  method := rfl
  path := by decide +kernel
  body := by rintro _ ⟨⟩

def restartRun : List Question × Except ServerError Reply :=
  run restartAnswers (createControlPlaneHandler everyCallback quietContext restarting id)

end Calls

end NebulaCloud.Web
