import NebulaCloud.Worker.Client

namespace NebulaCloud.Worker

open NebulaCloud.Data NebulaCloud.Database NebulaCloud.Platform

/-! # The directory of the workers

A call is about a workspace.  It goes to the host that the workspace is assigned to, through
a client that is kept from call to call for as long as the row of the host is the same. -/

/-! ## Credentials -/

/-- `/^[a-zA-Z0-9][a-zA-Z0-9._-]{0,127}$/`. -/
def isCredentialKeyId (keyId : String) : Bool :=
  keyId.toList.head?.any Char.isAlphanum &&
    keyId.toList.all (fun c => c.isAlphanum || c = '.' || c = '_' || c = '-') && keyId.toList.length ≤ 128

/-- A credential as it may be kept. -/
structure WorkerCredential where
  keyId : String
  secret : String
  isKeyId : isCredentialKeyId keyId = true
  trimmed : trim secret = secret
  isLong : 32 ≤ utf16Length secret
deriving DecidableEq

inductive CredentialFailure
  | notAnObject
  | invalidKeyId (keyId : String)
  | shortSecret (keyId : String)
deriving DecidableEq, Repr

def CredentialFailure.message : CredentialFailure → String
  | .notAnObject => "NEBULA_WORKER_CREDENTIALS_FILE must contain a JSON object"
  | .invalidKeyId keyId => "Invalid worker credential key ID: " ++ if keyId = "" then "(empty)" else keyId
  | .shortSecret keyId => "Worker credential " ++ keyId ++ " must contain at least 32 characters"

def secretText : Json → String
  | .string text => trim text
  | _ => ""

theorem trim_secretText (rawSecret : Json) : trim (secretText rawSecret) = secretText rawSecret := by
  cases rawSecret with
  | string text => exact trim_trim text
  | null | boolean | number | array | object => rfl

/-- `credentials.set(keyId, secret)`, where the last entry of a key is the one that is found. -/
def addCredential (credentials : List WorkerCredential) (rawKeyId : String) (rawSecret : Json) :
    Except CredentialFailure (List WorkerCredential) :=
  if isKeyId : isCredentialKeyId (trim rawKeyId) = true then
    if isLong : 32 ≤ utf16Length (secretText rawSecret) then
      .ok (⟨trim rawKeyId, secretText rawSecret, isKeyId, trim_secretText rawSecret, isLong⟩ :: credentials)
    else .error (.shortSecret (trim rawKeyId))
  else .error (.invalidKeyId (trim rawKeyId))

def addCredentials (credentials : List WorkerCredential) :
    List (String × Json) → Except CredentialFailure (List WorkerCredential)
  | [] => .ok credentials
  | (keyId, secret) :: rest => do
      let added ← addCredential credentials keyId secret
      addCredentials added rest

/-- `parsed` is the content of the file, if one is named, its fields in the order of
`Object.entries`. -/
def loadWorkerCredentials (parsed : Option Json) (legacyCredential : Option (String × String)) :
    Except CredentialFailure (List WorkerCredential) := do
  let credentials ←
    match parsed with
    | none => .ok []
    | some (.object fields) => addCredentials [] fields
    | some _ => .error .notAnObject
  match legacyCredential with
  | none => .ok credentials
  | some (keyId, secret) =>
      if trim keyId = "" ∧ trim secret = "" then .ok credentials
      else addCredential credentials keyId (.string secret)

def getSecret (credentials : List WorkerCredential) (keyId : String) : Option String :=
  (credentials.find? fun credential => credential.keyId = keyId).map (·.secret)

/-! ## Clients that are kept -/

structure CachedClient where
  revision : List Char
  client : NebulaWorkerClient
deriving DecidableEq

/-- What the factory is made with. -/
structure FactorySettings where
  credentials : List WorkerCredential
  workspaceImage : String

structure WorkerConnection where
  baseURL : String
  token : String
deriving DecidableEq, Repr

section Factory

variable (settings : FactorySettings) (clients : List (String × CachedClient)) (workerHost : WorkerHostRow)

def connection : Except ClientFailure WorkerConnection :=
  match getSecret settings.credentials workerHost.credentialKeyId with
  | none => .error (.error ("Worker credential " ++ workerHost.credentialKeyId ++ " is unavailable"))
  | some token => .ok { baseURL := workerHost.baseURL, token }

def revision (token : String) : List Char :=
  joinFields ':' [(toString workerHost.updatedAt).toList, workerHost.baseURL.toList,
    workerHost.credentialKeyId.toList, token.toList] settings.workspaceImage.toList

/-- A client made from nothing but the row. -/
def newClient : Except ClientFailure NebulaWorkerClient := do
  let connection ← connection settings workerHost
  newWorkerClient connection.baseURL connection.token settings.workspaceImage

def client : Except ClientFailure NebulaWorkerClient × List (String × CachedClient) :=
  match connection settings workerHost with
  | .error failure => (.error failure, clients)
  | .ok connection =>
      let wanted := revision settings workerHost connection.token
      match clients.lookup workerHost.id with
      | some cached =>
          if cached.revision = wanted then (.ok cached.client, clients)
          else
            match newWorkerClient connection.baseURL connection.token settings.workspaceImage with
            | .error failure => (.error failure, clients)
            | .ok client => (.ok client, (workerHost.id, ⟨wanted, client⟩) :: clients)
      | none =>
          match newWorkerClient connection.baseURL connection.token settings.workspaceImage with
          | .error failure => (.error failure, clients)
          | .ok client => (.ok client, (workerHost.id, ⟨wanted, client⟩) :: clients)

end Factory

/-! ## Calls -/

structure WorkerDirectory where
  database : CloudDatabase
  clients : List (String × CachedClient)

inductive WorkerCall
  | ensureWorkspaceRunning (workspaceId jobId : String)
  | getRuntimeAccess (workspaceId : String)
  | getWorkspace (workspaceId : String)
  | restartWorkspace (workspaceId operationId : String)
  | proxyWorkspaceService (workspaceId : String) (targetPort : Nat) (method : String) (servicePath : List Char)

def WorkerCall.workspaceId : WorkerCall → String
  | .ensureWorkspaceRunning workspaceId _ | .getRuntimeAccess workspaceId | .getWorkspace workspaceId
  | .restartWorkspace workspaceId _ | .proxyWorkspaceService workspaceId _ _ _ => workspaceId

inductive WorkerAnswer
  | provisioned (result : WorkerProvisioningResult)
  | access (runtime : WorkerRuntimeAccess)
  | workspace (info : WorkerWorkspaceInfo)
  | response (outcome : FetchOutcome)

/-- The workspace that an answer is about. -/
def WorkerAnswer.workspaceId : WorkerAnswer → Option String
  | .provisioned result => some result.workspaceId
  | .access runtime => some runtime.workspaceId
  | .workspace info => some info.workspaceId
  | .response _ => none

/-- What else a call meets: the clock and the nonces of its requests, and how these end. -/
structure Surroundings where
  first : RequestContext
  second : RequestContext
  reply : FetchOutcome
  secondReply : FetchOutcome
  assignedAt : Int

structure DirectorySettings extends FactorySettings where
  placementRequirements : WorkerPlacementRequirements
  heartbeatMaxAgeMs : Int

section Calls

variable {Load : Type} [LinearOrder Load] (quotient : Int → Int → Load) (hmac : String → String → String)
  (parseHost : List Char → Option String) (settings : DirectorySettings)

/-- `#assigned`; an empty identifier counts for none. -/
def assigned (database : CloudDatabase) (workspaceId : String) : Except ClientFailure (WorkerHostRow × String) :=
  match getWorkspaceById database workspaceId with
  | none => .error (.error "Workspace has not been assigned to a worker")
  | some workspace =>
      match workspace.workerHostId.filter (· ≠ ""), workspace.workerWorkspaceId.filter (· ≠ "") with
      | some workerHostId, some workerWorkspaceId =>
          match getWorkerHost database workerHostId with
          | none => .error (.error "Assigned worker host was not found")
          | some workerHost => .ok (workerHost, workerWorkspaceId)
      | _, _ => .error (.error "Workspace has not been assigned to a worker")

/-- The host of a call and the workspace as that host knows it; a workspace that is to run
is placed first. -/
def resolveCall (database : CloudDatabase) (call : WorkerCall) (now : Int) :
    CloudDatabase × Except ClientFailure (WorkerHostRow × String) :=
  match call with
  | .ensureWorkspaceRunning workspaceId _ =>
      match assignWorkspaceWorker quotient database
          ⟨workspaceId, settings.placementRequirements, settings.heartbeatMaxAgeMs, now⟩ with
      | .error failure => (database, .error (.database failure))
      | .ok (placed, assignment) => (placed, .ok (assignment.workerHost, workspaceId))
  | .getRuntimeAccess workspaceId | .getWorkspace workspaceId | .restartWorkspace workspaceId _
  | .proxyWorkspaceService workspaceId _ _ _ => (database, assigned database workspaceId)

/-- `some`, once the call has ended well. -/
def Called.answer {α : Type} (called : Called α) (wrap : α → WorkerAnswer) : Called WorkerAnswer :=
  called.andThen fun value => ([], .ok (wrap value))

def callWorker (client : NebulaWorkerClient) (workerWorkspaceId : String) (call : WorkerCall)
    (surroundings : Surroundings) : Called WorkerAnswer :=
  match call with
  | .ensureWorkspaceRunning _ jobId =>
      (ensureWorkspaceRunning hmac client surroundings.first surroundings.second workerWorkspaceId jobId
        surroundings.reply surroundings.secondReply).answer .provisioned
  | .getRuntimeAccess _ =>
      (getRuntimeAccess hmac client surroundings.first workerWorkspaceId surroundings.reply).answer .access
  | .getWorkspace _ =>
      (getWorkspace hmac client surroundings.first workerWorkspaceId surroundings.reply).answer .workspace
  | .restartWorkspace _ operationId =>
      (restartWorkspace hmac client surroundings.first workerWorkspaceId operationId surroundings.reply).answer
        .provisioned
  | .proxyWorkspaceService _ targetPort method servicePath =>
      (serviceRequest hmac client parseHost surroundings.first workerWorkspaceId targetPort method servicePath
        surroundings.reply).answer .response

def WorkerDirectory.call (directory : WorkerDirectory) (call : WorkerCall) (surroundings : Surroundings) :
    WorkerDirectory × Called WorkerAnswer :=
  match resolveCall quotient settings directory.database call surroundings.assignedAt with
  | (database, .error failure) => ({ directory with database }, [], .error failure)
  | (database, .ok (workerHost, workerWorkspaceId)) =>
      match client settings.toFactorySettings directory.clients workerHost with
      | (.error failure, clients) => (⟨database, clients⟩, [], .error failure)
      | (.ok client, clients) =>
          (⟨database, clients⟩, callWorker hmac parseHost client workerWorkspaceId call surroundings)

end Calls

end NebulaCloud.Worker
