import NebulaCloud.Database.WorkerHost
import NebulaCloud.Ingress.ServiceProxy
import NebulaCloud.Worker.Authorization

namespace NebulaCloud.Worker

open NebulaCloud.Data NebulaCloud.Database NebulaCloud.Platform

/-! # The client of a worker

A worker may answer anything.  What the client passes on has been checked to be about the
workspace that was asked for. -/

/-! ## Properties of a parsed body -/

/-- `value?.name`. -/
def member (name : String) : Option Json → Option Json
  | some (.object fields) => JsonRecord.get fields name
  | _ => none

/-- `Boolean(value)`. -/
def truthy : Option Json → Bool
  | none | some .null => false
  | some (.boolean value) => value
  | some (.number value) => value ≠ 0
  | some (.string value) => value ≠ ""
  | some (.array _) | some (.object _) => true

/-- `value === text`. -/
def isText (text : String) : Option Json → Bool
  | some (.string value) => value = text
  | _ => false

/-! ## Requests -/

/-- What `fetch` is called with. -/
structure WorkerRequest where
  url : String
  method : String
  authorization : String
  idempotencyKey : Option String
  body : Option Json

/-- A body that cannot be parsed is read as `null`. -/
inductive FetchOutcome
  | response (status : Nat) (payload : Json)
  | aborted
  | unreachable

/-- The texts of a worker's own error are taken as they are. -/
structure WorkerClientError where
  message : Json
  code : Json
  retryable : Json
  status : Nat

inductive ClientFailure
  | worker (error : WorkerClientError)
  | aborted
  | typeError
  | error (message : String)
  /-- What the database throws at the caller of the client. -/
  | database (failure : Failure)

def clientError (message code : String) (status : Nat) : ClientFailure :=
  .worker { message := .string message, code := .string code, retryable := .boolean true, status }

def workerUnreachable : ClientFailure := clientError "Worker is unreachable" "worker_unreachable" 503

def invalidResponse : ClientFailure := clientError "Worker returned an invalid response" "worker_invalid_response" 502

/-- `value || other`. -/
def orElse (value : Option Json) (other : Json) : Json :=
  if truthy value then value.getD other else other

def refusedRequest (status : Nat) (payload : Json) : ClientFailure :=
  .worker
    { message := orElse (member "error" payload) (.string s!"Worker request failed ({status})")
      code := orElse (member "code" payload) (.string "worker_request_failed")
      retryable := (coalesce (member "retryable" payload) (some (.boolean (500 ≤ status)))).getD .null
      status }

def readOutcome : FetchOutcome → Except ClientFailure Json
  | .aborted => .error .aborted
  | .unreachable => .error workerUnreachable
  | .response status payload =>
      if status < 200 ∨ 299 < status then .error (refusedRequest status payload)
      else if truthy payload = false then .error invalidResponse
      else .ok payload

structure NebulaWorkerClient where
  baseURL : String
  token : String
  workspaceImage : String
deriving DecidableEq, Repr

/-- The constructor. -/
def newWorkerClient (baseURL token workspaceImage : String) : Except ClientFailure NebulaWorkerClient :=
  if withoutTrailingSlash baseURL = "" then .error (.error "Worker base URL is required")
  else if utf16Length (trim token) < 32 then
    .error (.error "Worker service signing secret must contain at least 32 characters")
  else if trim workspaceImage = "" then .error (.error "Workspace image is required")
  else .ok ⟨withoutTrailingSlash baseURL, trim token, trim workspaceImage⟩

/-- The clock and the nonce of one request. -/
structure RequestContext where
  now : Int
  nonce : String
deriving DecidableEq, Repr

/-- What was sent, and how the call ends. -/
abbrev Called (α : Type) := List WorkerRequest × Except ClientFailure α

/-- The next request of a call, if the last one was answered. -/
def Called.andThen {α β : Type} (called : Called α) (next : α → Called β) : Called β :=
  match called with
  | (sent, .error failure) => (sent, .error failure)
  | (sent, .ok value) => (sent ++ (next value).1, (next value).2)

structure WorkerProvisioningResult where
  workspaceId : String
  observedState : String
deriving DecidableEq, Repr

structure WorkerRuntimeAccess where
  workspaceId : String
  network : Option Json
  address : String
  accessToken : String

structure WorkerWorkspaceInfo where
  workspaceId : String
  observedState : String
  image : String
  resources : Json

def workspacePath (workspaceId : String) : String := "/internal/v1/workspaces/" ++ encodeURIComponent workspaceId

section Calls

variable (hmac : String → String → String) (client : NebulaWorkerClient)

/-- `#request`. -/
def request (context : RequestContext) (path method : String) (idempotencyKey : Option String) (body : Option Json)
    (outcome : FetchOutcome) : Called Json :=
  match workerAuthorizationHeader hmac ⟨client.token, method, path, context.now, context.nonce⟩ with
  | .error (.error message) => ([], .error (.error message))
  | .ok authorization =>
      ([{ url := client.baseURL ++ path
          method
          authorization
          idempotencyKey := idempotencyKey.filter (· ≠ "")
          body }], readOutcome outcome)

/-- The state that a mutation reports for the workspace. -/
def checkedMutation (workspaceId message : String) (payload : Json) : Except ClientFailure WorkerProvisioningResult :=
  let workspace := member "workspace" payload
  if isText workspaceId (member "id" workspace) && isText "ready" (member "observed_state" workspace) then
    .ok ⟨workspaceId, "ready"⟩
  else .error (clientError message "worker_workspace_not_ready" 503)

def createBody (workspaceId : String) : Json :=
  .object [("spec", .object [("id", .string workspaceId), ("image", .string client.workspaceImage),
    ("resources", .object [])])]

def ensureWorkspaceRunning (first second : RequestContext) (workspaceId jobId : String)
    (created running : FetchOutcome) : Called WorkerProvisioningResult :=
  (request hmac client first (workspacePath workspaceId) "PUT" (some (jobId ++ ":create"))
      (some (createBody client workspaceId)) created).andThen fun _ =>
    (request hmac client second (workspacePath workspaceId ++ "/ensure-running") "POST"
        (some (jobId ++ ":ensure-running")) none running).andThen fun payload =>
      ([], checkedMutation workspaceId "Worker did not report the workspace ready" payload)

/-- `!value?.trim()`, negated; what is no text has no such method. -/
def presentText : Option Json → Except ClientFailure (Option String)
  | none | some .null => .ok none
  | some (.string text) => .ok (if trim text = "" then none else some text)
  | some _ => .error .typeError

def invalidRuntimeAccess : ClientFailure :=
  clientError "Worker returned invalid runtime access material" "worker_invalid_runtime_access" 502

def checkedAccess (workspaceId : String) (payload : Json) : Except ClientFailure WorkerRuntimeAccess :=
  if isText workspaceId (member "workspace_id" payload) = false then .error invalidRuntimeAccess
  else
    match presentText (member "address" payload) with
    | .error failure => .error failure
    | .ok none => .error invalidRuntimeAccess
    | .ok (some address) =>
        match presentText (member "access_token" payload) with
        | .error failure => .error failure
        | .ok none => .error invalidRuntimeAccess
        | .ok (some accessToken) => .ok ⟨workspaceId, member "network" payload, address, accessToken⟩

def getRuntimeAccess (context : RequestContext) (workspaceId : String) (outcome : FetchOutcome) :
    Called WorkerRuntimeAccess :=
  (request hmac client context (workspacePath workspaceId ++ "/runtime-access") "GET" none none outcome).andThen
    fun payload => ([], checkedAccess workspaceId payload)

def checkedWorkspace (workspaceId : String) (payload : Json) : Except ClientFailure WorkerWorkspaceInfo :=
  match isText workspaceId (member "id" payload), member "observed_state" payload, member "image" payload with
  | true, some (.string observedState), some (.string image) =>
      if trim image ≠ "" ∧ truthy (member "resources" payload) = true then
        .ok ⟨workspaceId, observedState, image, (member "resources" payload).getD .null⟩
      else .error (clientError "Worker returned invalid workspace metadata" "worker_invalid_workspace_metadata" 502)
  | _, _, _ => .error (clientError "Worker returned invalid workspace metadata" "worker_invalid_workspace_metadata" 502)

def getWorkspace (context : RequestContext) (workspaceId : String) (outcome : FetchOutcome) :
    Called WorkerWorkspaceInfo :=
  (request hmac client context (workspacePath workspaceId) "GET" none none outcome).andThen
    fun payload => ([], checkedWorkspace workspaceId payload)

def restartBody : Json :=
  .object [("timeout_seconds", .number 30), ("image", .string client.workspaceImage)]

def restartWorkspace (context : RequestContext) (workspaceId operationId : String) (outcome : FetchOutcome) :
    Called WorkerProvisioningResult :=
  (request hmac client context (workspacePath workspaceId ++ "/restart") "POST" (some operationId)
      (some (restartBody client)) outcome).andThen fun payload =>
    ([], checkedMutation workspaceId "Worker did not report the restarted workspace ready" payload)

/-- A URL that cannot be built is a `TypeError`; the query is not signed. -/
def serviceRequest (parseHost : List Char → Option String) (context : RequestContext)
    (workspaceId : String) (targetPort : Nat) (method : String) (servicePath : List Char) (outcome : FetchOutcome) :
    Called FetchOutcome :=
  match Ingress.proxyWorkspaceService parseHost workspaceId targetPort servicePath with
  | none => ([], .error .typeError)
  | some service =>
      match workerAuthorizationHeader hmac
          ⟨client.token, method, String.ofList service.signedPath, context.now, context.nonce⟩ with
      | .error (.error message) => ([], .error (.error message))
      | .ok authorization =>
          ([{ url := client.baseURL ++ String.ofList service.target
              method
              authorization
              idempotencyKey := none
              body := none }],
            match outcome with
            | .aborted => .error .aborted
            | .unreachable => .error (clientError "Worker service gateway is unreachable" "worker_unreachable" 503)
            | .response status payload => .ok (.response status payload))

/-! ## The status of a host -/

structure WorkerStatus where
  version : Option Json
  commit : Option Json
  ready : Bool
  capabilities : List Json
  capacity : ReportedCapacity

def isBoolean : Option Json → Option Bool
  | some (.boolean value) => some value
  | _ => none

def isArray : Option Json → Option (List Json)
  | some (.array elements) => some elements
  | _ => none

def capacityValue (capacity : Option Json) (name : String) : Option Int :=
  (asSafeInteger (member name capacity)).filter (0 ≤ ·)

def capacityValues (capacity : Option Json) (kind : String) : Option Resources := do
  let memoryBytes ← capacityValue capacity (kind ++ "_memory_bytes")
  let cpuMillis ← capacityValue capacity (kind ++ "_cpu_millis")
  let diskBytes ← capacityValue capacity (kind ++ "_disk_bytes")
  let workspaceSlots ← capacityValue capacity (kind ++ "_workspace_slots")
  some { memoryBytes, cpuMillis, diskBytes, workspaceSlots }

def statusCapacity (capacity : Option Json) : Option ReportedCapacity := do
  let total ← capacityValues capacity "total"
  let reserved ← capacityValues capacity "reserved"
  if Resources.zero.Both (· < ·) total ∧ reserved.Both (· ≤ ·) total then some { total, reserved } else none

def checkedStatus (payload : Json) : Except ClientFailure WorkerStatus :=
  match isText "nebula-worker" (member "service" payload) && isText "v1" (member "api_version" payload),
    isBoolean (member "ready" payload), isArray (member "capabilities" payload),
    statusCapacity (member "capacity" payload) with
  | true, some ready, some capabilities, some capacity =>
      .ok
        { version := member "version" payload
          commit := member "commit" payload
          ready
          capabilities
          capacity }
  | _, _, _, _ => .error (clientError "Worker returned invalid status or capacity metadata" "worker_invalid_status" 502)

def getStatus (context : RequestContext) (outcome : FetchOutcome) : Called WorkerStatus :=
  (request hmac client context "/internal/v1/status" "GET" none none outcome).andThen
    fun payload => ([], checkedStatus payload)

end Calls

end NebulaCloud.Worker
