import NebulaCloud.Access.Gateway

namespace NebulaCloud.Access

open NebulaCloud.Data NebulaCloud.Database NebulaCloud.Platform

/-! # Who reaches a workspace

Both doors end in the same search over the rows.  They differ in what they ask
of the member who knocks. -/

section Rows

variable {entitlementsRequired : Bool} {database : CloudDatabase}
  {options : ResolveWorkspaceAccessOptions} {workspace : WorkspaceRow} {now : Int}

/-- The rows show a ready workspace to the user: the user is a member of its
organization and owns or administers it, and its owner is entitled where
entitlements are required.  Whether the user's own membership is disabled does
not enter. -/
structure ReadyFor (entitlementsRequired : Bool) (database : CloudDatabase)
    (options : ResolveWorkspaceAccessOptions) (now : Int) (workspace : WorkspaceRow) : Prop where
  named : trim options.workspaceId ≠ "" ∧ trim options.userId ≠ "" ∧ trim options.organizationId ≠ ""
  stored : workspace ∈ database.tables.workspaces
  requested : workspace.id = options.workspaceId
  actor : ∃ actor ∈ database.tables.members, actor.userId = options.userId ∧
    actor.organizationId = options.organizationId ∧ workspace.organizationId = options.organizationId ∧
    (actor.id = workspace.memberId ∨ isAdminRole actor.role = true)
  entitled : entitlementsRequired = true →
    hasActiveOperatorEntitlement database workspace.memberId workspace.organizationId now = true
  ready : workspace.state = .ready
  hosted : present workspace.workerWorkspaceId = true

/-- The workspace identifier and the owner trigger reduce the join of
`resolveWorkspaceAccess` to a condition on the actor. -/
theorem resolveWorkspaceAccess_eq_some :
    resolveWorkspaceAccess database options = some workspace ↔
      (trim options.workspaceId ≠ "" ∧ trim options.userId ≠ "" ∧ trim options.organizationId ≠ "") ∧
        workspace ∈ database.tables.workspaces ∧ workspace.id = options.workspaceId ∧
        ∃ actor ∈ database.tables.members, actor.userId = options.userId ∧
          actor.organizationId = options.organizationId ∧
          workspace.organizationId = options.organizationId ∧
          (actor.id = workspace.memberId ∨ isAdminRole actor.role = true) := by
  unfold resolveWorkspaceAccess
  split
  · rename_i blank
    constructor
    · intro found
      cases found
    · intro granted
      obtain ⟨⟨workspaceNamed, userNamed, organizationNamed⟩, _⟩ := granted
      rcases blank with blank | blank | blank
      · exact absurd blank workspaceNamed
      · exact absurd blank userNamed
      · exact absurd blank organizationNamed
  · rename_i named
    rw [not_or, not_or] at named
    rw [find?_eq_some_of_unique]
    · have owner := database.consistent .workspaceOwner
      simp only [List.any_eq_true, Bool.and_eq_true, decide_eq_true_eq, grantsAccess,
        Bool.or_eq_true, isAdminRole, named, true_and, ne_eq, not_false_eq_true]
      constructor
      · intro found
        obtain ⟨stored, workspaceMember, _, _, actor, actorStored, sameOrganization,
          ⟨⟨⟨requested, user⟩, organization⟩, _⟩, role⟩ := found
        exact ⟨stored, requested, actor, actorStored, user, organization,
          sameOrganization.symm.trans organization, by simpa only [or_assoc] using role⟩
      · intro granted
        obtain ⟨stored, requested, actor, actorStored, user, organization, same, role⟩ := granted
        obtain ⟨workspaceMember, memberStored, memberId, memberOrganization⟩ :=
          owner workspace stored
        exact ⟨stored, workspaceMember, memberStored, memberId, actor, actorStored,
          organization.trans same.symm,
          ⟨⟨⟨requested, user⟩, organization⟩, memberOrganization.symm⟩,
          by simpa only [or_assoc] using role⟩
    · intro left leftStored right rightStored leftFound rightFound
      have requested : ∀ found : WorkspaceRow,
          (database.tables.members.any fun workspaceMember =>
            workspaceMember.id = found.memberId &&
              database.tables.members.any fun actorMember =>
                actorMember.organizationId = found.organizationId &&
                  grantsAccess options found workspaceMember actorMember) = true →
          found.id = options.workspaceId := by
        intro found granted
        simp only [List.any_eq_true, Bool.and_eq_true, decide_eq_true_eq, grantsAccess] at granted
        obtain ⟨_, _, _, _, _, _, ⟨⟨⟨requested, _⟩, _⟩, _⟩, _⟩ := granted
        exact requested
      exact eq_of_key (database.consistent .workspaceId) leftStored rightStored
        ((requested left leftFound).trans (requested right rightFound).symm)

/-- Once the workspace is found, its entitlement is the entitlement of its owner. -/
theorem workspaceHasOperatorEntitlement_of_mem (stored : workspace ∈ database.tables.workspaces) :
    workspaceHasOperatorEntitlement entitlementsRequired database workspace.id now = true ↔
      (entitlementsRequired = true →
        hasActiveOperatorEntitlement database workspace.memberId workspace.organizationId now = true) := by
  have found : getWorkspaceById database workspace.id = some workspace :=
    lookup_of_mem (database.consistent .workspaceId) stored
  simp only [workspaceHasOperatorEntitlement, found, Option.any_some, Bool.or_eq_true,
    Bool.not_eq_true']
  cases entitlementsRequired with
  | false => simp
  | true => simp

theorem requireReadyWorkspace_ok :
    requireReadyWorkspace entitlementsRequired database options now = .ok workspace ↔
      ReadyFor entitlementsRequired database options now workspace := by
  unfold requireReadyWorkspace resolveEntitledWorkspaceAccess
  constructor
  · intro admitted
    split at admitted
    · cases admitted
    · rename_i found resolved
      split at admitted
      · cases admitted
      · rename_i ready
        cases admitted
        obtain ⟨resolved, entitled⟩ := Option.filter_eq_some_iff.mp resolved
        obtain ⟨named, stored, requested, actor⟩ := resolveWorkspaceAccess_eq_some.mp resolved
        rw [not_or, not_ne_iff, Bool.not_eq_true', Bool.not_eq_false] at ready
        exact
          { named, stored, requested, actor
            entitled := (workspaceHasOperatorEntitlement_of_mem stored).mp entitled
            ready := ready.1
            hosted := ready.2 }
  · intro ready
    have resolved : resolveWorkspaceAccess database options = some workspace :=
      resolveWorkspaceAccess_eq_some.mpr ⟨ready.named, ready.stored, ready.requested, ready.actor⟩
    have entitled := (workspaceHasOperatorEntitlement_of_mem ready.stored).mpr ready.entitled
    have kept : ((some workspace).filter fun workspace =>
        workspaceHasOperatorEntitlement entitlementsRequired database workspace.id now) =
        some workspace := Option.filter_eq_some_iff.mpr ⟨rfl, entitled⟩
    simp [resolved, kept, ready.ready, ready.hosted]

/-- A ready workspace with an assigned host has a host to connect to. -/
theorem assignedHost_of_present (stored : workspace ∈ database.tables.workspaces)
    (hosted : present workspace.workerWorkspaceId = true)
    (assigned : present workspace.workerHostId = true) :
    ∃ workerHost, assignedHost database workspace.id = some workerHost := by
  have found : getWorkspaceById database workspace.id = some workspace :=
    lookup_of_mem (database.consistent .workspaceId) stored
  cases host : workspace.workerHostId with
  | none => simp [host, present] at assigned
  | some hostId =>
      have known : hostId ∈ database.tables.workerHosts.map (·.id) :=
        database.consistent .workspaceHost workspace stored hostId host
      obtain ⟨workerHost, hostStored, rfl⟩ := List.mem_map.mp known
      have hostFound : lookup (·.id) database.tables.workerHosts workerHost.id = some workerHost :=
        lookup_of_mem (database.consistent .hostId) hostStored
      rw [host] at assigned
      exact ⟨workerHost, by simp [assignedHost, found, hosted, host, assigned, hostFound]⟩

end Rows

/-! ## The checks before the rows -/

section Doors

variable {entitlementsRequired : Bool} {connects : WorkerHostRow → Bool} {database : CloudDatabase}
  {session : AuthSession} {encodedWorkspaceId organizationId workspaceId : String}
  {request : ConsoleRequest} {connection : ConsoleConnection} {workspace : WorkspaceRow} {now : Int}

theorem requireActiveOrganization_ok :
    requireActiveOrganization session = .ok organizationId ↔
      session.activeOrganizationId = some organizationId ∧ organizationId ≠ "" := by
  unfold requireActiveOrganization
  cases active : session.activeOrganizationId.filter (· ≠ "") with
  | none =>
      have missing := Option.filter_eq_none_iff.mp active
      simp only [reduceCtorEq, false_iff, not_and, not_not]
      intro named
      simpa using missing organizationId named
  | some organization =>
      obtain ⟨named, nonempty⟩ := Option.filter_eq_some_iff.mp active
      simp only [Except.ok.injEq, named, Option.some.injEq]
      constructor
      · intro same
        exact ⟨same, by simpa [same] using nonempty⟩
      · intro same
        exact same.1

theorem requireWorkspaceId_ok :
    requireWorkspaceId encodedWorkspaceId = .ok workspaceId ↔
      decodeURIComponent encodedWorkspaceId = some workspaceId ∧ trim workspaceId ≠ "" := by
  unfold requireWorkspaceId
  cases decodeURIComponent encodedWorkspaceId with
  | none => simp
  | some decoded =>
      simp only [Option.some.injEq]
      split
      · rename_i blank
        simp only [reduceCtorEq, false_iff, not_and, not_not]
        intro same
        rw [← same, blank]
      · rename_i named
        rw [Except.ok.injEq]
        constructor
        · intro same
          exact ⟨same, same ▸ named⟩
        · intro same
          exact same.1

/-- The session of the HTTP routes keeps the organization of an enabled member. -/
theorem resolveSession_active :
    (resolveSession database session).activeOrganizationId = some organizationId ↔
      session.activeOrganizationId = some organizationId ∧ organizationId ≠ "" ∧
        isOrganizationMemberEnabled database session.userId organizationId = true := by
  simp [resolveSession, Option.filter_eq_some_iff]

/-- The HTTP route admits exactly the enabled members to whom the rows show the
workspace. -/
theorem admitRuntime_ok :
    admitRuntime entitlementsRequired database (some session) encodedWorkspaceId now = .ok workspace ↔
      ∃ organizationId workspaceId, session.activeOrganizationId = some organizationId ∧
        decodeURIComponent encodedWorkspaceId = some workspaceId ∧
        isOrganizationMemberEnabled database session.userId organizationId = true ∧
        ReadyFor entitlementsRequired database
          { workspaceId, userId := session.userId, organizationId } now workspace := by
  constructor
  · intro admitted
    obtain ⟨resolved, signedIn, admitted⟩ := bind_ok.mp admitted
    cases signedIn
    obtain ⟨organizationId, active, admitted⟩ := bind_ok.mp admitted
    obtain ⟨workspaceId, named, admitted⟩ := bind_ok.mp admitted
    obtain ⟨active, -, enabled⟩ := resolveSession_active.mp (requireActiveOrganization_ok.mp active).1
    exact ⟨organizationId, workspaceId, active, (requireWorkspaceId_ok.mp named).1, enabled,
      requireReadyWorkspace_ok.mp admitted⟩
  · intro granted
    obtain ⟨organizationId, workspaceId, active, decoded, enabled, ready⟩ := granted
    have organizationNamed : organizationId ≠ "" := by
      intro empty
      exact ready.named.2.2 (by rw [empty]; rfl)
    refine bind_ok.mpr ⟨resolveSession database session, rfl, ?_⟩
    refine bind_ok.mpr ⟨organizationId, requireActiveOrganization_ok.mpr
      ⟨resolveSession_active.mpr ⟨active, organizationNamed, enabled⟩, organizationNamed⟩, ?_⟩
    refine bind_ok.mpr ⟨workspaceId, requireWorkspaceId_ok.mpr ⟨decoded, ready.named.1⟩, ?_⟩
    exact requireReadyWorkspace_ok.mpr ready

/-- An open console is a connection to the host of a workspace that the rows
show to the user. -/
theorem prepareConsoleUpgrade_ok
    (opened : prepareConsoleUpgrade entitlementsRequired connects database (some session)
      encodedWorkspaceId request now = .ok connection) :
    ∃ organizationId workspaceId, session.activeOrganizationId = some organizationId ∧
      decodeURIComponent encodedWorkspaceId = some workspaceId ∧
      ReadyFor entitlementsRequired database
        { workspaceId, userId := session.userId, organizationId } now connection.workspace ∧
      present connection.workspace.workerHostId = true := by
  obtain ⟨_, _, opened⟩ := bind_ok.mp opened
  obtain ⟨resolved, signedIn, opened⟩ := bind_ok.mp opened
  cases signedIn
  obtain ⟨organizationId, active, opened⟩ := bind_ok.mp opened
  obtain ⟨workspaceId, named, opened⟩ := bind_ok.mp opened
  obtain ⟨_, _, opened⟩ := bind_ok.mp opened
  obtain ⟨_, _, opened⟩ := bind_ok.mp opened
  obtain ⟨_, _, opened⟩ := bind_ok.mp opened
  obtain ⟨workspace, admitted, opened⟩ := bind_ok.mp opened
  have ready := requireReadyWorkspace_ok.mp admitted
  have found : getWorkspaceById database workspace.id = some workspace :=
    lookup_of_mem (database.consistent .workspaceId) ready.stored
  unfold connectConsole at opened
  split at opened
  · cases opened
  · rename_i workerHost host
    cases opened
    have assigned := (Option.filter_eq_some_iff.mp host).1
    refine ⟨organizationId, workspaceId, (requireActiveOrganization_ok.mp active).1,
      (requireWorkspaceId_ok.mp named).1, ready, ?_⟩
    by_contra unassigned
    simp [assignedHost, found, unassigned] at assigned

/-- A request that passes every check of the upgrade itself. -/
def plainUpgrade : ConsoleRequest where
  upgrade := some "websocket"
  origin := some "https://cloud.example"
  trustedOrigins := ["https://cloud.example"]
  encodedTerminalId := none
  rows := none
  columns := none
  terminalId := none

/-- The console opens for every user to whom the rows show the workspace. -/
theorem prepareConsoleUpgrade_plain (active : session.activeOrganizationId = some organizationId)
    (decoded : decodeURIComponent encodedWorkspaceId = some workspaceId)
    (ready : ReadyFor entitlementsRequired database
      { workspaceId, userId := session.userId, organizationId } now workspace)
    (assigned : present workspace.workerHostId = true) :
    ∃ connection, prepareConsoleUpgrade entitlementsRequired (fun _ => true) database (some session)
      encodedWorkspaceId plainUpgrade now = .ok connection ∧
        connection.workspace = workspace := by
  have organizationNamed : organizationId ≠ "" := by
    intro empty
    exact ready.named.2.2 (by rw [empty]; rfl)
  obtain ⟨workerHost, host⟩ := assignedHost_of_present ready.stored ready.hosted assigned
  have connected : connectConsole (fun _ => true) database workspace (24, 80) "terminal-1" =
      .ok ⟨workspace, workerHost, 24, 80, "terminal-1"⟩ := by
    have accepted : (some workerHost).filter (fun _ => true) = some workerHost := rfl
    simp [connectConsole, host, accepted]
  refine ⟨⟨workspace, workerHost, 24, 80, "terminal-1"⟩, ?_, rfl⟩
  refine bind_ok.mpr ⟨(), by decide +kernel, ?_⟩
  refine bind_ok.mpr ⟨session, rfl, ?_⟩
  refine bind_ok.mpr ⟨organizationId, requireActiveOrganization_ok.mpr ⟨active, organizationNamed⟩, ?_⟩
  refine bind_ok.mpr ⟨workspaceId, requireWorkspaceId_ok.mpr ⟨decoded, ready.named.1⟩, ?_⟩
  refine bind_ok.mpr ⟨none, rfl, ?_⟩
  refine bind_ok.mpr ⟨(24, 80), by decide, ?_⟩
  refine bind_ok.mpr ⟨"terminal-1", by decide, ?_⟩
  exact bind_ok.mpr ⟨workspace, requireReadyWorkspace_ok.mpr ready, connected⟩

end Doors

/-! ## One rule for both doors -/

/-- The console opens only where the HTTP route admits, and neither admits a user
whose membership in the active organization is disabled. -/
def OneAccessRule (entitlementsRequired : Bool) (database : CloudDatabase) (session : AuthSession)
    (encodedWorkspaceId : String) (now : Int) : Prop :=
  (∀ connects request connection,
    prepareConsoleUpgrade entitlementsRequired connects database (some session) encodedWorkspaceId
      request now = .ok connection →
    admitRuntime entitlementsRequired database (some session) encodedWorkspaceId now =
      .ok connection.workspace) ∧
  ∀ organizationId member, session.activeOrganizationId = some organizationId →
    findMembership database.tables session.userId organizationId = some member →
    memberDisabled database.tables member.id = true →
    (∀ connects request connection,
      prepareConsoleUpgrade entitlementsRequired connects database (some session)
        encodedWorkspaceId request now ≠ .ok connection) ∧
    ∀ workspace,
      admitRuntime entitlementsRequired database (some session) encodedWorkspaceId now ≠ .ok workspace

/-- The rows show the user a ready workspace on an assigned host. -/
def RowsGrant (entitlementsRequired : Bool) (database : CloudDatabase)
    (options : ResolveWorkspaceAccessOptions) (now : Int) : Prop :=
  ∃ workspace, ReadyFor entitlementsRequired database options now workspace ∧
    present workspace.workerHostId = true

/-- The two doors agree exactly when the user is an enabled member of the active
organization or the rows show no workspace to open. -/
theorem oneAccessRule_iff (entitlementsRequired : Bool) (database : CloudDatabase)
    (session : AuthSession) (encodedWorkspaceId : String) (now : Int) :
    OneAccessRule entitlementsRequired database session encodedWorkspaceId now ↔
      ∀ organizationId workspaceId, session.activeOrganizationId = some organizationId →
        decodeURIComponent encodedWorkspaceId = some workspaceId →
        isOrganizationMemberEnabled database session.userId organizationId = true ∨
          ¬ RowsGrant entitlementsRequired database
            { workspaceId, userId := session.userId, organizationId } now := by
  constructor
  · intro rule organizationId workspaceId active decoded
    by_contra broken
    rw [not_or, not_not] at broken
    obtain ⟨disabled, workspace, ready, assigned⟩ := broken
    obtain ⟨connection, opened, rfl⟩ := prepareConsoleUpgrade_plain active decoded ready assigned
    obtain ⟨organization, _, named, _, enabled, _⟩ :=
      admitRuntime_ok.mp (rule.1 _ _ connection opened)
    rw [active] at named
    cases named
    exact disabled enabled
  · intro agrees
    have enabledOf : ∀ connects request connection,
        prepareConsoleUpgrade entitlementsRequired connects database (some session)
          encodedWorkspaceId request now = .ok connection →
        admitRuntime entitlementsRequired database (some session) encodedWorkspaceId now =
          .ok connection.workspace := by
      intro connects request connection opened
      obtain ⟨organizationId, workspaceId, active, decoded, ready, assigned⟩ :=
        prepareConsoleUpgrade_ok opened
      rcases agrees organizationId workspaceId active decoded with enabled | hidden
      · exact admitRuntime_ok.mpr ⟨organizationId, workspaceId, active, decoded, enabled, ready⟩
      · exact absurd ⟨connection.workspace, ready, assigned⟩ hidden
    refine ⟨enabledOf, ?_⟩
    intro organizationId member active found disabled
    have refused : ∀ workspace,
        admitRuntime entitlementsRequired database (some session) encodedWorkspaceId now ≠
          .ok workspace := by
      intro workspace admitted
      obtain ⟨organization, _, named, _, enabled, _⟩ := admitRuntime_ok.mp admitted
      rw [active] at named
      cases named
      simp [isOrganizationMemberEnabled, found, disabled] at enabled
    refine ⟨?_, refused⟩
    intro connects request connection opened
    exact refused connection.workspace (enabledOf connects request connection opened)

section Example

/-- One organization with a member who has a ready workspace and an
administrator whose membership is disabled. -/
def suspendedAdministrator : Tables :=
  { Tables.empty with
    organizations := [{ id := "o1" }]
    members :=
      [{ id := "m1", userId := "u1", organizationId := "o1", role := "member" },
       { id := "m2", userId := "u2", organizationId := "o1", role := "admin" }]
    memberStates := [{ memberId := "m2", disabled := true }]
    workspaces :=
      [{ id := "w1", memberId := "m1", organizationId := "o1", workerWorkspaceId := some "ws1"
         workerHostId := some "h1", reserved := Resources.zero, state := .ready
         createdAt := 0, updatedAt := 0 }]
    workerHosts :=
      [{ id := "h1", name := "host", provider := "static", region := "eu"
         baseURL := "https://worker.example", credentialKeyId := "k1", enabled := true
         schedulable := true, state := .healthy, total := Resources.zero
         reserved := Resources.zero, lastHeartbeatAt := none, lastErrorCode := none
         createdAt := 0, updatedAt := 0 }]
    entitlements :=
      [{ membershipId := "m1", organizationId := "o1", state := .active, source := .admin
         startsAt := 0, endsAt := none, createdAt := 0, updatedAt := 0 }] }

set_option maxRecDepth 4000 in
def suspendedAdministratorDatabase : CloudDatabase :=
  Store.load suspendedAdministrator (by decide)

/-- The disabled administrator opens a console into the member's workspace, which
the HTTP route refuses. -/
theorem console_opens_for_disabled_administrator :
    ¬ OneAccessRule true suspendedAdministratorDatabase
      { userId := "u2", activeOrganizationId := some "o1" } "w1" 5 := by
  intro rule
  have opened : (prepareConsoleUpgrade true (fun _ => true) suspendedAdministratorDatabase
      (some { userId := "u2", activeOrganizationId := some "o1" }) "w1"
      plainUpgrade 5).toOption.isSome = true := by decide +kernel
  have refused : admitRuntime true suspendedAdministratorDatabase
      (some { userId := "u2", activeOrganizationId := some "o1" }) "w1" 5 =
      .error ⟨403, "active_organization_required", "an active organization is required", false⟩ := by
    decide +kernel
  cases connected : prepareConsoleUpgrade true (fun _ => true) suspendedAdministratorDatabase
      (some { userId := "u2", activeOrganizationId := some "o1" }) "w1"
      plainUpgrade 5 with
  | error reason => simp [connected, Except.toOption] at opened
  | ok connection =>
      have admitted := rule.1 _ _ connection connected
      rw [refused] at admitted
      cases admitted

end Example

end NebulaCloud.Access
