import NebulaCloud.Database.Entitlement
import NebulaCloud.Platform.Uri

namespace NebulaCloud.Access

open NebulaCloud.Data NebulaCloud.Database NebulaCloud.Platform

/-! # The two doors to a workspace

The HTTP runtime route and the console upgrade each resolve a session, find the
workspace and check that it is ready. -/

structure GatewayError where
  status : Nat
  code : String
  error : String
  retryable : Bool
deriving DecidableEq, Repr

/-- What the identity provider knows of a signed-in browser. -/
structure AuthSession where
  userId : String
  activeOrganizationId : Option String
deriving DecidableEq, Repr

/-- The session of the HTTP routes: a disabled member has no active organization. -/
def resolveSession (database : CloudDatabase) (session : AuthSession) : AuthSession :=
  { session with
    activeOrganizationId := session.activeOrganizationId.filter fun organizationId =>
      organizationId ≠ "" && isOrganizationMemberEnabled database session.userId organizationId }

/-- The session of the console upgrade. -/
def resolveConsoleSession (session : AuthSession) : AuthSession := session

def requireSession (session : Option AuthSession) : Except GatewayError AuthSession :=
  match session with
  | none => .error ⟨401, "authentication_required", "authentication required", false⟩
  | some session => .ok session

def requireActiveOrganization (session : AuthSession) : Except GatewayError String :=
  match session.activeOrganizationId.filter (· ≠ "") with
  | none => .error ⟨403, "active_organization_required", "an active organization is required", false⟩
  | some organizationId => .ok organizationId

def requireWorkspaceId (encodedWorkspaceId : String) : Except GatewayError String :=
  match decodeURIComponent encodedWorkspaceId with
  | none => .error ⟨400, "invalid_request", "workspaceId is invalid", false⟩
  | some workspaceId =>
      if trim workspaceId = "" then .error ⟨400, "invalid_request", "workspaceId is required", false⟩
      else .ok workspaceId

def workspaceHasOperatorEntitlement (entitlementsRequired : Bool) (database : CloudDatabase)
    (workspaceId : String) (now : Int) : Bool :=
  !entitlementsRequired ||
    (getWorkspaceById database workspaceId).any fun workspace =>
      hasActiveOperatorEntitlement database workspace.memberId workspace.organizationId now

def resolveEntitledWorkspaceAccess (entitlementsRequired : Bool) (database : CloudDatabase)
    (options : ResolveWorkspaceAccessOptions) (now : Int) : Option WorkspaceRow :=
  (resolveWorkspaceAccess database options).filter fun workspace =>
    workspaceHasOperatorEntitlement entitlementsRequired database workspace.id now

/-- An optional text that is set and not empty. -/
def present (text : Option String) : Bool := text.any (· ≠ "")

/-- Both gateways resolve the workspace and refuse one that is not ready. -/
def requireReadyWorkspace (entitlementsRequired : Bool) (database : CloudDatabase)
    (options : ResolveWorkspaceAccessOptions) (now : Int) : Except GatewayError WorkspaceRow :=
  match resolveEntitledWorkspaceAccess entitlementsRequired database options now with
  | none => .error ⟨404, "workspace_not_found", "workspace not found", false⟩
  | some workspace =>
      if workspace.state ≠ .ready ∨ !present workspace.workerWorkspaceId then
        .error ⟨409, "workspace_not_ready", "workspace runtime is not ready", true⟩
      else .ok workspace

/-! ## The HTTP runtime route -/

/-- The workspace that `RuntimeGateway.proxy` asks the worker for, after the
checks of the route and of the gateway. -/
def admitRuntime (entitlementsRequired : Bool) (database : CloudDatabase)
    (session : Option AuthSession) (encodedWorkspaceId : String) (now : Int) :
    Except GatewayError WorkspaceRow := do
  let session ← requireSession (session.map (resolveSession database))
  let organizationId ← requireActiveOrganization session
  let workspaceId ← requireWorkspaceId encodedWorkspaceId
  requireReadyWorkspace entitlementsRequired database
    { workspaceId, userId := session.userId, organizationId } now

/-! ## The console upgrade -/

structure ConsoleRequest where
  upgrade : Option String
  origin : Option String
  trustedOrigins : List String
  encodedTerminalId : Option String
  rows : Option String
  columns : Option String
  terminalId : Option String
deriving DecidableEq, Repr

def dimension (value : Option String) (fallback maximum : Nat) : Option Nat :=
  match value.filter (· ≠ "") with
  | none => some fallback
  | some text =>
      if text.toList.all (·.isDigit) then
        let parsed := text.toList.foldl (fun parsed digit => 10 * parsed + (digit.toNat - 48)) 0
        if 1 ≤ parsed ∧ parsed ≤ maximum then some parsed else none
      else none

/-- `/^[a-z0-9-]{1,48}$/`. -/
def isTerminalId (text : String) : Bool :=
  let characters := text.toList
  1 ≤ characters.length && characters.length ≤ 48 &&
    characters.all fun c => ('a' ≤ c && c ≤ 'z') || ('0' ≤ c && c ≤ '9') || c = '-'

def requireUpgrade (request : ConsoleRequest) : Except GatewayError Unit :=
  if request.upgrade.map (·.toLower) ≠ some "websocket" then
    .error ⟨426, "websocket_upgrade_required", "WebSocket upgrade required", false⟩
  else if request.origin.any fun origin => origin ≠ "" && origin ∈ request.trustedOrigins then .ok ()
  else .error ⟨403, "origin_not_allowed", "Console origin is not allowed", false⟩

/-- The terminal of the path, or of the query when the path names none. -/
def requestedTerminal (request : ConsoleRequest) : Except GatewayError (Option String) :=
  match request.encodedTerminalId.filter (· ≠ "") with
  | none => .ok request.terminalId
  | some encoded =>
      match decodeURIComponent encoded with
      | none => .error ⟨400, "invalid_request", "terminalId is invalid", false⟩
      | some terminalId => .ok (some terminalId)

def requireConsoleSize (request : ConsoleRequest) : Except GatewayError (Nat × Nat) :=
  match dimension request.rows 24 500, dimension request.columns 80 1000 with
  | some rows, some columns => .ok (rows, columns)
  | _, _ => .error ⟨400, "invalid_console_size", "Console dimensions are invalid", false⟩

def requireTerminalId (terminalId : Option String) : Except GatewayError String :=
  let terminalId := ((terminalId.map trim).filter (· ≠ "")).getD "terminal-1"
  if isTerminalId terminalId then .ok terminalId
  else .error ⟨400, "invalid_terminal_id", "Terminal id is invalid", false⟩

/-- `connectionForWorkspace`, up to the credentials of the host. -/
def assignedHost (database : CloudDatabase) (workspaceId : String) : Option WorkerHostRow := do
  let workspace ← getWorkspaceById database workspaceId
  if present workspace.workerHostId && present workspace.workerWorkspaceId then
    let hostId ← workspace.workerHostId
    lookup (·.id) database.tables.workerHosts hostId
  else none

/-- A worker console connection. -/
structure ConsoleConnection where
  workspace : WorkspaceRow
  workerHost : WorkerHostRow
  rows : Nat
  columns : Nat
  terminalId : String
deriving DecidableEq, Repr

/-- Open the worker connection.  `connects` tells whether the host has credentials
and its worker accepts. -/
def connectConsole (connects : WorkerHostRow → Bool) (database : CloudDatabase)
    (workspace : WorkspaceRow) (size : Nat × Nat) (terminalId : String) :
    Except GatewayError ConsoleConnection :=
  match (assignedHost database workspace.id).filter connects with
  | none =>
      .error ⟨502, "console_unavailable", "workspace Console could not be opened", true⟩
  | some workerHost => .ok ⟨workspace, workerHost, size.1, size.2, terminalId⟩

/-- `prepareConsoleUpgrade` with `ConsoleGateway.prepare`. -/
def prepareConsoleUpgrade (entitlementsRequired : Bool) (connects : WorkerHostRow → Bool)
    (database : CloudDatabase) (session : Option AuthSession) (encodedWorkspaceId : String)
    (request : ConsoleRequest) (now : Int) : Except GatewayError ConsoleConnection := do
  requireUpgrade request
  let session ← requireSession (session.map resolveConsoleSession)
  let organizationId ← requireActiveOrganization session
  let workspaceId ← requireWorkspaceId encodedWorkspaceId
  let terminal ← requestedTerminal request
  let size ← requireConsoleSize request
  let terminalId ← requireTerminalId terminal
  let workspace ← requireReadyWorkspace entitlementsRequired database
    { workspaceId, userId := session.userId, organizationId } now
  connectConsole connects database workspace size terminalId

end NebulaCloud.Access
