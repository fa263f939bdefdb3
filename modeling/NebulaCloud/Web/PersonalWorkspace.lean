import NebulaCloud.Server.Handler
import NebulaCloud.Worker.Client

namespace NebulaCloud.Web

open NebulaCloud.Platform NebulaCloud.Server
open NebulaCloud.Worker (member truthy isText)

/-! # Calls of the web client

Each of them is one request, and what the client makes of the response. -/

/-- What `fetch` is called with. -/
structure CloudRequest where
  method : String
  target : List Char
  body : Option (List Char)
deriving DecidableEq, Repr

/-- `none` is a body that is no JSON. -/
structure CloudResponse where
  status : Nat
  body : Option Json

inductive CloudFailure
  | error (message : Json)
  | invalidBody
  | typeError

structure Settled where
  sessionExpired : Bool
  outcome : Except CloudFailure Json

structure CloudCall where
  request : CloudRequest
  settle : CloudResponse → Settled

def failWith (message : String) : Except CloudFailure Json := .error (.error (.string message))

/-- `observeAuthenticationResponse`, and the way from a response to a payload. -/
def settle (failed : String) (accept : JsonRecord → Json → Except CloudFailure Json) (response : CloudResponse) : Settled where
  sessionExpired := response.status = 401
  outcome :=
    if 200 ≤ response.status ∧ response.status < 300 then
      match response.body with
      | none => .error .invalidBody
      | some payload =>
          match propertiesOf payload with
          | none => .error .typeError
          | some fields => accept fields payload
    else
      match (member "error" response.body).filter fun reported => truthy (some reported) with
      | some reported => .error (.error reported)
      | none => failWith (failed ++ " (" ++ toString response.status ++ ")")

/-- `JSON.stringify({ organizationId })`. -/
def organizationBody (organizationId : String) : List Char :=
  "\x7b\"organizationId\":".toList ++ jsonText organizationId ++ ['}']

def ensurePersonalWorkspace (organizationId : String) : CloudCall where
  request := ⟨"POST", "/api/workspaces/personal".toList, some (organizationBody organizationId)⟩
  settle := settle "Personal workspace request failed" fun fields _ =>
    let workspace := fields.get "workspace"
    if truthy (member "id" workspace) then .ok (workspace.getD .null)
    else failWith "Control plane returned an invalid personal workspace"

def ensureWorkspaceRunning (organizationId : String) : CloudCall where
  request := ⟨"POST", "/api/workspaces/personal/ensure-running".toList, some (organizationBody organizationId)⟩
  settle := settle "Workspace startup request failed" fun fields payload =>
    let workspace := fields.get "workspace"
    if truthy (member "id" workspace) ∧ truthy (member "state" workspace) then .ok payload
    else failWith "Control plane returned an invalid workspace startup response"

def workspaceTarget (workspaceId rest : String) : List Char :=
  ("/api/workspaces/" ++ encodeURIComponent workspaceId ++ rest).toList

def restartWorkspace (workspaceId : String) : CloudCall where
  request := ⟨"POST", workspaceTarget workspaceId "/restart", none⟩
  settle := settle "Operator restart failed" fun fields payload =>
    if isText workspaceId (fields.get "workspaceId") ∧ isText "ready" (fields.get "state") then .ok payload
    else failWith "Control plane returned an invalid restart response"

def getOperatorRuntime (workspaceId : String) : CloudCall where
  request := ⟨"GET", workspaceTarget workspaceId "/operator", none⟩
  settle := settle "Operator metadata request failed" fun fields payload =>
    if truthy (fields.get "workspaceId") ∧ truthy (fields.get "resources") then .ok payload
    else failWith "Control plane returned invalid operator metadata"

/-! ## Between the client and the server -/

/-- The URL has been parsed, and the body may have been cut anywhere. -/
structure Delivered (parseHost : List Char → Option String) (sent : CloudRequest) (request : ServerRequest) : Prop where
  method : request.method = sent.method
  path : resolveTail parseHost sent.target =
    some { pathname := request.pathname.toList, search := request.search.toList }
  body : ∀ text ∈ sent.body, ∃ body, request.body = some body ∧ body.broken = false ∧
    body.chunks.flatten = utf8Encode text

/-- The JSON of a body, as far as these calls get one. -/
def ReplyBody.parsed : ReplyBody → Option Json
  | .json value => some value
  | .failure error code retryable =>
      some (.object ([("error", .string error), ("code", .string code)] ++
        retryable.toList.map fun value => ("retryable", .boolean value)))
  | _ => none

/-- A handler that throws has no JSON to answer with. -/
def received : Except ServerError Reply → CloudResponse
  | .error _ => ⟨500, none⟩
  | .ok reply => ⟨reply.status, ReplyBody.parsed reply.body⟩

end NebulaCloud.Web
