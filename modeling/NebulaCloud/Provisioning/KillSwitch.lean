import NebulaCloud.Access.Gateway
import NebulaCloud.Data.System
import NebulaCloud.Database.PlatformControl
import NebulaCloud.Database.Provisioning

namespace NebulaCloud.Provisioning

open NebulaCloud.Data NebulaCloud.Database NebulaCloud.Platform NebulaCloud.Access

/-! # The provisioning switch

While platform control `provisioning` is paused, no request may file a workspace. -/

/-! ## Handlers -/

/-- `ensurePersonalWorkspace` of the control plane. -/
def ensurePersonalWorkspaceHandler (database : CloudDatabase) (options : EnsurePersonalWorkspaceOptions) :
    CloudDatabase × Except Failure WorkspaceRow :=
  match getPersonalWorkspace database options.userId options.organizationId with
  | some existing => (database, .ok existing)
  | none =>
      match isPlatformControlPaused database .provisioning with
      | .error failure => (database, .error failure)
      | .ok true => (database, .error (.platformControlPaused .provisioning))
      | .ok false => commit database (ensurePersonalWorkspace database options)

/-- Only a workspace that is not ready asks the second switch. -/
def startPaused (database : CloudDatabase) (workspace : WorkspaceRow) : Except Failure Bool :=
  if workspace.state = .ready then .ok false else isPlatformControlPaused database .workspaceStart

/-- What the database stores for a state. -/
def workspaceStateText : WorkspaceState → String
  | .pending => "pending"
  | .provisioning => "provisioning"
  | .ready => "ready"
  | .stopped => "stopped"
  | .failed => "failed"

def ensureRunningAudit (options : EnsureWorkspaceRunningOptions) (auditEventId : String)
    (result : EnsureWorkspaceRunningResult) : RecordAuditEventOptions where
  userId := options.userId
  organizationId := options.organizationId
  eventId := auditEventId
  action := "operator.ensure_running_requested"
  targetType := "workspace"
  targetId := result.workspace.id
  metadataJson := String.ofList (metadataJson
    [("scheduled", .boolean result.job.isSome),
      ("state", .string (workspaceStateText result.workspace.state))])
  now := options.jobNow

/-- `ensureWorkspaceRunning` of the control plane. -/
def ensureWorkspaceRunningHandler (entitlementsRequired : Bool) (database : CloudDatabase)
    (options : EnsureWorkspaceRunningOptions) (auditEventId : String) :
    CloudDatabase × Except Failure EnsureWorkspaceRunningResult :=
  match ensurePersonalWorkspaceHandler database options.toEnsurePersonalWorkspaceOptions with
  | (database, .error failure) => (database, .error failure)
  | (database, .ok workspace) =>
      if workspaceHasOperatorEntitlement entitlementsRequired database workspace.id options.now = false then
        (database, .error .operatorEntitlementRequired)
      else
        match startPaused database workspace with
        | .error failure => (database, .error failure)
        | .ok true => (database, .error (.platformControlPaused .workspaceStart))
        | .ok false =>
            match ensureWorkspaceRunning database options with
            | (database, .error failure) => (database, .error failure)
            | (database, .ok result) =>
                match recordAuditEvent database (ensureRunningAudit options auditEventId result) with
                | .error failure => (database, .error failure)
                | .ok database => (database, .ok result)

/-- `reconcileUsage` up to its first `await`, with the workspace whose runtime it asks. -/
def reconcileUsage (entitlementsRequired : Bool) (database : CloudDatabase)
    (options : EnsurePersonalWorkspaceOptions) :
    CloudDatabase × Except Failure (Option WorkspaceRow) :=
  match commit database (ensurePersonalWorkspace database options) with
  | (database, .error failure) => (database, .error failure)
  | (database, .ok workspace) =>
      if workspaceHasOperatorEntitlement entitlementsRequired database workspace.id options.now then
        (database, .ok (some workspace))
      else (database, .ok none)

/-! ## Requests -/

/-- What reaches the control plane.  Identifiers and clock readings are those that the
handler would take; `validRange` tells whether the query asks for 7, 30 or 90 days.  Any
other handler, or a step that a handler takes after an `await`, is `other`. -/
inductive HttpRequest
  | ensurePersonalWorkspace (session : Option AuthSession) (organizationId : Option String)
      (createId : String) (now : Int)
  | ensureRunning (session : Option AuthSession) (organizationId : Option String)
      (createId createJobId auditEventId : String) (now : Int)
  | personalUsage (session : Option AuthSession) (validRange : Bool) (createId : String) (now : Int)
  | organizationUsage (session : Option AuthSession) (validRange : Bool)
      (encodedOrganizationId createId : String) (now : Int)
  | updatePlatformControl (input : SetPlatformControlInput)
  | other (effect : CloudDatabase → CloudDatabase)

/-- The user and the active organization of a signed-in browser. -/
def activeReader (database : CloudDatabase) (session : Option AuthSession) : Option (String × String) :=
  session.bind fun session =>
    ((resolveSession database session).activeOrganizationId.filter (· ≠ "")).map fun organizationId =>
      (session.userId, organizationId)

/-- For whom the usage routes reconcile. -/
def usageReader (database : CloudDatabase) : HttpRequest → Option (String × String)
  | .personalUsage session true _ _ => activeReader database session
  | .organizationUsage session true encodedOrganizationId _ _ =>
      (activeReader database session).filter fun reader =>
        decodeURIComponent encodedOrganizationId = some reader.2
  | _ => none

/-- The signed-in user and the organization of a request body. -/
def bodyReader (session : Option AuthSession) (organizationId : Option String) :
    Option (String × String) :=
  session.bind fun session =>
    (organizationId.filter (trim · ≠ "")).map fun organizationId => (session.userId, organizationId)

/-- The usage routes go on when reconciliation fails. -/
def serveUsage (entitlementsRequired : Bool) (database : CloudDatabase) (reader : Option (String × String))
    (createId : String) (now : Int) : CloudDatabase :=
  match reader with
  | none => database
  | some reader => (reconcileUsage entitlementsRequired database ⟨reader.1, reader.2, createId, now⟩).1

def serve (entitlementsRequired : Bool) (database : CloudDatabase) : HttpRequest → CloudDatabase
  | .ensurePersonalWorkspace session organizationId createId now =>
      match bodyReader session organizationId with
      | none => database
      | some reader => (ensurePersonalWorkspaceHandler database ⟨reader.1, reader.2, createId, now⟩).1
  | .ensureRunning session organizationId createId createJobId auditEventId now =>
      match bodyReader session organizationId with
      | none => database
      | some reader =>
          (ensureWorkspaceRunningHandler entitlementsRequired database
            ⟨⟨reader.1, reader.2, createId, now⟩, createJobId, now⟩ auditEventId).1
  | .personalUsage session validRange createId now =>
      serveUsage entitlementsRequired database
        (usageReader database (.personalUsage session validRange createId now)) createId now
  | .organizationUsage session validRange encodedOrganizationId createId now =>
      serveUsage entitlementsRequired database
        (usageReader database (.organizationUsage session validRange encodedOrganizationId createId now))
        createId now
  | .updatePlatformControl input => (commit database (setPlatformControl database input)).1
  | .other effect => effect database

/-! ## The system -/

/-- The identity provider and `joinOrganizationById` admit a user to an organization once. -/
def OneMembership (tables : Tables) : Prop :=
  (tables.members.map fun member => (member.userId, member.organizationId)).Nodup

instance (tables : Tables) : Decidable (OneMembership tables) := List.nodupDecidable _

/-- No workspace is there that was not there before. -/
def WorkspacesKept (before after : Tables) : Prop :=
  ∀ workspace ∈ after.workspaces, workspace.id ∈ before.workspaces.map (·.id)

instance (before after : Tables) : Decidable (WorkspacesKept before after) :=
  inferInstanceAs (Decidable (∀ workspace ∈ _, _))

/-- The identifier that a request would give to a new workspace. -/
def HttpRequest.createId : HttpRequest → Option String
  | .ensurePersonalWorkspace _ _ createId _ => some createId
  | .ensureRunning _ _ createId _ _ _ => some createId
  | .personalUsage _ _ createId _ => some createId
  | .organizationUsage _ _ _ createId _ => some createId
  | .updatePlatformControl _ | .other _ => none

/-- The only `INSERT INTO workspace` is the one of `ensurePersonalWorkspace`, which no
other handler calls. -/
def OtherFrame (database : CloudDatabase) : HttpRequest → Prop
  | .other effect =>
      WorkspacesKept database.tables (effect database).tables ∧
        (OneMembership database.tables → OneMembership (effect database).tables)
  | _ => True

/-- Requests that arrive while the switch is paused. -/
def pausedPlatform (entitlementsRequired : Bool) : System CloudDatabase HttpRequest where
  Initial database := OneMembership database.tables
  Enabled database request :=
    isPlatformControlPaused database .provisioning = .ok true ∧
      (∀ createId ∈ request.createId, createId ∉ database.tables.workspaces.map (·.id)) ∧
      OtherFrame database request
  step := serve entitlementsRequired

/-- The user is no member of the organization or has a workspace there. -/
def HasWorkspace (tables : Tables) (userId organizationId : String) : Prop :=
  ∀ membership ∈ findMembership tables userId organizationId,
    ∃ workspace ∈ tables.workspaces, workspace.memberId = membership.id

instance (tables : Tables) (userId organizationId : String) :
    Decidable (HasWorkspace tables userId organizationId) :=
  inferInstanceAs (Decidable (∀ membership ∈ _, ∃ workspace ∈ _, _))

/-- Usage is read by a user who has a workspace. -/
def ReadsWithWorkspace (database : CloudDatabase) (request : HttpRequest) : Prop :=
  ∀ reader ∈ usageReader database request, HasWorkspace database.tables reader.1 reader.2

instance (database : CloudDatabase) (request : HttpRequest) :
    Decidable (ReadsWithWorkspace database request) :=
  inferInstanceAs (Decidable (∀ reader ∈ _, _))

/-! ## What each handler does -/

section Handlers

variable {entitlementsRequired : Bool} {database after : CloudDatabase}
  {options : EnsurePersonalWorkspaceOptions} {workspace : WorkspaceRow} {request : HttpRequest}

/-- A statement that appends a fresh unassigned workspace of a member is accepted. -/
theorem consistent_of_newWorkspace {memberId : String}
    (membership : database.tables.MemberOf memberId options.organizationId)
    (fresh : options.createId ∉ database.tables.workspaces.map (·.id))
    (absent : ∀ workspace ∈ database.tables.workspaces, workspace.memberId ≠ memberId) :
    schema.Consistent { database.tables with
      workspaces := database.tables.workspaces ++ [personalWorkspace options memberId] } := by
  intro constraint
  have held := database.consistent constraint
  cases constraint with
  | workspaceId =>
      refine nodup_append_fresh held fun row stored same => fresh ?_
      exact List.mem_map.mpr ⟨row, stored, same⟩
  | workspaceMember => exact nodup_append_fresh held absent
  | workspaceWorkerWorkspace =>
      refine (?_ : ((database.tables.workspaces ++ [personalWorkspace options memberId]).filterMap
        (·.workerWorkspaceId)).Nodup)
      rw [List.filterMap_append]
      exact (List.append_nil _).symm ▸ held
  | workspaceOwner =>
      intro row member
      rcases List.mem_append.mp member with stored | appended
      · exact held row stored
      · rw [List.mem_singleton.mp appended]
        exact membership
  | workspaceHost =>
      intro row member
      rcases List.mem_append.mp member with stored | appended
      · exact held row stored
      · rw [List.mem_singleton.mp appended]
        exact fun hostId absent => absurd absent (Option.not_mem_none hostId)
  | workspaceReserved =>
      intro row member
      rcases List.mem_append.mp member with stored | appended
      · exact held row stored
      · rw [List.mem_singleton.mp appended]
        exact Resources.both_iff.mpr fun resource => le_rfl
  | jobWorkspace =>
      intro job stored
      exact List.map_append ▸ List.mem_append_left _ (held job stored)
  | usageWorkspace =>
      intro event stored
      exact List.map_append ▸ List.mem_append_left _ (held event stored)
  | serviceWorkspace =>
      intro service stored
      exact List.map_append ▸ List.mem_append_left _ (held service stored)
  | _ => exact held

/-- A member without a workspace gets a fresh one. -/
theorem ensurePersonalWorkspace_created {membership : MemberRow}
    (found : findMembership database.tables options.userId options.organizationId = some membership)
    (absent : ∀ workspace ∈ database.tables.workspaces, workspace.memberId ≠ membership.id)
    (fresh : options.createId ∉ database.tables.workspaces.map (·.id)) :
    ∃ after, ensurePersonalWorkspace database options =
        .ok (after, personalWorkspace options membership.id) ∧
      after.tables = { database.tables with
        workspaces := database.tables.workspaces ++ [personalWorkspace options membership.id] } := by
  have chosen := List.find?_some found
  simp only [Bool.and_eq_true, decide_eq_true_eq] at chosen
  have memberOf : database.tables.MemberOf membership.id options.organizationId :=
    ⟨membership, List.mem_of_find?_eq_some found, rfl, chosen.2⟩
  let after : CloudDatabase := ⟨_, consistent_of_newWorkspace memberOf fresh absent⟩
  have none : lookup (·.memberId) database.tables.workspaces membership.id = none :=
    lookup_eq_none.mpr absent
  have created : lookup (·.memberId) after.tables.workspaces membership.id =
      some (personalWorkspace options membership.id) :=
    (lookup_append_fresh none).trans (if_pos rfl)
  refine ⟨after, ?_, rfl⟩
  unfold ensurePersonalWorkspace
  simp only [found, none]
  refine bind_ok.mpr ⟨after, Store.execute_of_consistent after.consistent, ?_⟩
  simp only [created]

/-- A user who has a workspace, or may have none, changes nothing. -/
theorem ensurePersonalWorkspace_known
    (known : HasWorkspace database.tables options.userId options.organizationId)
    (ensured : ensurePersonalWorkspace database options = .ok (after, workspace)) : after = database := by
  unfold ensurePersonalWorkspace at ensured
  split at ensured
  · cases ensured
  · rename_i membership found
    obtain ⟨owned, stored, owner⟩ := known membership found
    split at ensured
    · cases ensured
      rfl
    · rename_i absent
      exact absurd owner (lookup_eq_none.mp absent owned stored)

/-- The workspace that a paused handler finds belongs to the one membership. -/
theorem hasWorkspace_of_getPersonalWorkspace (one : OneMembership database.tables) {userId organizationId : String}
    (found : getPersonalWorkspace database userId organizationId = some workspace) :
    HasWorkspace database.tables userId organizationId := by
  intro membership member
  unfold getPersonalWorkspace at found
  split at found
  · cases found
  · have joined := List.find?_some found
    simp only [Bool.and_eq_true, decide_eq_true_eq, List.any_eq_true] at joined
    obtain ⟨_, other, otherStored, ⟨otherId, otherUser⟩, otherOrganization⟩ := joined
    have chosen := List.find?_some member
    simp only [Bool.and_eq_true, decide_eq_true_eq] at chosen
    have same : other = membership := by
      refine List.inj_on_of_nodup_map one otherStored (List.mem_of_find?_eq_some member) ?_
      rw [otherUser, otherOrganization, chosen.1, chosen.2]
    exact ⟨workspace, List.mem_of_find?_eq_some found, by rw [← otherId, same]⟩

theorem ensurePersonalWorkspaceHandler_paused
    (paused : isPlatformControlPaused database .provisioning = .ok true) :
    (ensurePersonalWorkspaceHandler database options).1 = database := by
  unfold ensurePersonalWorkspaceHandler
  split
  · rfl
  · rw [paused]

/-- A paused handler that returns has found the workspace. -/
theorem ensurePersonalWorkspaceHandler_found
    (paused : isPlatformControlPaused database .provisioning = .ok true)
    (returned : ensurePersonalWorkspaceHandler database options = (after, .ok workspace)) :
    after = database ∧
      getPersonalWorkspace database options.userId options.organizationId = some workspace := by
  unfold ensurePersonalWorkspaceHandler at returned
  split at returned
  · rename_i existing found
    cases returned
    exact ⟨rfl, found⟩
  · rw [paused] at returned
    cases returned

/-- The rows that the switch is about are as before. -/
def Untouched (before after : Tables) : Prop :=
  after.members = before.members ∧ after.workspaces.map (·.id) = before.workspaces.map (·.id)

theorem Untouched.refl (tables : Tables) : Untouched tables tables := ⟨rfl, rfl⟩

theorem Untouched.kept {before after : Tables} (untouched : Untouched before after) :
    WorkspacesKept before after := by
  intro workspace stored
  rw [← untouched.2]
  exact List.mem_map_of_mem stored

theorem Untouched.oneMembership {before after : Tables} (untouched : Untouched before after)
    (one : OneMembership before) : OneMembership after := by
  unfold OneMembership
  rw [untouched.1]
  exact one

theorem ensureWorkspaceRunning_untouched {options : EnsureWorkspaceRunningOptions}
    (known : HasWorkspace database.tables options.userId options.organizationId) :
    Untouched database.tables (ensureWorkspaceRunning database options).1.tables := by
  obtain unchanged | ⟨ensured, found, ensure, stopped | scheduled⟩ :=
    ensureWorkspaceRunning_cases database options
  · rw [unchanged]
    exact .refl _
  · rw [stopped, ensurePersonalWorkspace_known known ensure]
    exact .refl _
  · obtain ⟨after, marked, job, _, schedule, result⟩ := scheduled
    obtain rfl := ensurePersonalWorkspace_known known ensure
    obtain ⟨jobs, written, _⟩ := scheduleWorkspace_ok schedule
    rw [result, written]
    exact ⟨rfl, map_updateWhere fun _ => rfl⟩

theorem ensureWorkspaceRunningHandler_untouched {options : EnsureWorkspaceRunningOptions}
    (auditEventId : String) (one : OneMembership database.tables)
    (paused : isPlatformControlPaused database .provisioning = .ok true) :
    Untouched database.tables
      (ensureWorkspaceRunningHandler entitlementsRequired database options auditEventId).1.tables := by
  unfold ensureWorkspaceRunningHandler
  split
  · rename_i stopped failure handled
    have unchanged : (ensurePersonalWorkspaceHandler database
        options.toEnsurePersonalWorkspaceOptions).1 = database :=
      ensurePersonalWorkspaceHandler_paused paused
    rw [handled] at unchanged
    rw [unchanged]
    exact .refl _
  · rename_i found workspace handled
    obtain ⟨rfl, existing⟩ := ensurePersonalWorkspaceHandler_found paused handled
    have known := hasWorkspace_of_getPersonalWorkspace one existing
    have started : Untouched found.tables (ensureWorkspaceRunning found options).1.tables :=
      ensureWorkspaceRunning_untouched known
    split
    · exact .refl _
    · split
      · exact .refl _
      · exact .refl _
      · split
        · rename_i failed
          rw [failed] at started
          exact started
        · rename_i running result succeeded
          rw [succeeded] at started
          split
          · exact started
          · rename_i audit
            obtain ⟨auditEvents, written⟩ := recordAuditEvent_ok audit
            rw [written]
            exact started

end Handlers

/-! ## What each request does -/

section Requests

variable {entitlementsRequired : Bool} {database : CloudDatabase} {request : HttpRequest}
  {reader : Option (String × String)} {createId : String} {now : Int} {requests : List HttpRequest}

theorem reconcileUsage_database (options : EnsurePersonalWorkspaceOptions) :
    (reconcileUsage entitlementsRequired database options).1 =
      (commit database (ensurePersonalWorkspace database options)).1 := by
  unfold reconcileUsage
  cases ensurePersonalWorkspace database options with
  | error failure => rfl
  | ok result =>
      simp only [commit]
      split
      · rfl
      · rfl

theorem serveUsage_untouched
    (known : ∀ found ∈ reader, HasWorkspace database.tables found.1 found.2) :
    (serveUsage entitlementsRequired database reader createId now) = database := by
  cases reader with
  | none => rfl
  | some found =>
      rw [serveUsage, reconcileUsage_database]
      cases ensure : ensurePersonalWorkspace database ⟨found.1, found.2, createId, now⟩ with
      | error failure => rfl
      | ok result => exact ensurePersonalWorkspace_known (known found rfl) ensure

/-- A read by a member without a workspace files one, whatever the switch says. -/
theorem serveUsage_created (fresh : createId ∉ database.tables.workspaces.map (·.id))
    (kept : WorkspacesKept database.tables
      (serveUsage entitlementsRequired database reader createId now).tables) :
    ∀ found ∈ reader, HasWorkspace database.tables found.1 found.2 := by
  rintro found rfl membership member
  apply Classical.byContradiction
  intro none
  have absent : ∀ workspace ∈ database.tables.workspaces, workspace.memberId ≠ membership.id :=
    fun workspace stored owner => none ⟨workspace, stored, owner⟩
  let options : EnsurePersonalWorkspaceOptions := ⟨found.1, found.2, createId, now⟩
  have resolved : findMembership database.tables options.userId options.organizationId =
      some membership := member
  obtain ⟨after, created, written⟩ := ensurePersonalWorkspace_created resolved absent fresh
  have served : serveUsage entitlementsRequired database (some found) createId now = after := by
    rw [serveUsage, reconcileUsage_database, created]
    rfl
  rw [served, written] at kept
  exact fresh (kept (personalWorkspace options membership.id) (List.mem_append_right _ List.mem_cons_self))

/-- While the switch is paused, a request keeps the workspaces if its usage read does. -/
theorem serve_kept (one : OneMembership database.tables)
    (enabled : (pausedPlatform entitlementsRequired).Enabled database request)
    (owned : ReadsWithWorkspace database request) :
    WorkspacesKept database.tables (serve entitlementsRequired database request).tables ∧
      OneMembership (serve entitlementsRequired database request).tables := by
  obtain ⟨paused, _, frame⟩ := enabled
  have unchanged {after : CloudDatabase} (untouched : Untouched database.tables after.tables) :
      WorkspacesKept database.tables after.tables ∧ OneMembership after.tables :=
    ⟨untouched.kept, untouched.oneMembership one⟩
  cases request with
  | ensurePersonalWorkspace session organizationId createId now =>
      refine unchanged ?_
      rw [serve]
      split
      · exact .refl _
      · rw [ensurePersonalWorkspaceHandler_paused paused]
        exact .refl _
  | ensureRunning session organizationId createId createJobId auditEventId now =>
      refine unchanged ?_
      rw [serve]
      split
      · exact .refl _
      · exact ensureWorkspaceRunningHandler_untouched auditEventId one paused
  | personalUsage session validRange createId now =>
      refine unchanged ?_
      rw [serve, serveUsage_untouched owned]
      exact .refl _
  | organizationUsage session validRange encodedOrganizationId createId now =>
      refine unchanged ?_
      rw [serve, serveUsage_untouched owned]
      exact .refl _
  | updatePlatformControl input =>
      refine unchanged ?_
      rw [serve]
      cases update : setPlatformControl database input with
      | error failure => exact .refl _
      | ok result =>
          obtain ⟨previous, _, written⟩ := setPlatformControl_ok update
          rw [commit_ok, written]
          exact .refl _
  | other effect => exact ⟨frame.1, frame.2 one⟩

/-- A request that keeps the workspaces has made no usage read that files one. -/
theorem readsWithWorkspace_of_kept
    (enabled : (pausedPlatform entitlementsRequired).Enabled database request)
    (kept : WorkspacesKept database.tables (serve entitlementsRequired database request).tables) :
    ReadsWithWorkspace database request := by
  obtain ⟨_, fresh, _⟩ := enabled
  have notReading (none : usageReader database request = none) : ReadsWithWorkspace database request := by
    unfold ReadsWithWorkspace
    rw [none]
    exact fun reader absent => absurd absent (Option.not_mem_none reader)
  cases request with
  | ensurePersonalWorkspace session organizationId createId now => exact notReading rfl
  | ensureRunning session organizationId createId createJobId auditEventId now => exact notReading rfl
  | personalUsage session validRange createId now => exact serveUsage_created (fresh createId rfl) kept
  | organizationUsage session validRange encodedOrganizationId createId now =>
      exact serveUsage_created (fresh createId rfl) kept
  | updatePlatformControl input => exact notReading rfl
  | other effect => exact notReading rfl

/-- Over any sequence of requests that arrive while provisioning is paused, the set of
workspaces never grows exactly when every usage read is made by a user who has a
workspace in the active organization. -/
theorem killSwitch_complete_iff (one : OneMembership database.tables)
    (runs : (pausedPlatform entitlementsRequired).Runs database requests) :
    (pausedPlatform entitlementsRequired).Along
        (fun before request => WorkspacesKept before.tables
          (serve entitlementsRequired before request).tables) database requests ↔
      (pausedPlatform entitlementsRequired).Along ReadsWithWorkspace database requests := by
  have start : (pausedPlatform entitlementsRequired).Initial database := one
  constructor
  · intro kept
    refine ((runs.and kept).invariant start ?_).1
    intro before request met oneBefore
    have owned := readsWithWorkspace_of_kept met.1 met.2
    exact ⟨owned, (serve_kept oneBefore met.1 owned).2⟩
  · intro owned
    refine ((runs.and owned).invariant start ?_).1
    intro before request met oneBefore
    exact serve_kept oneBefore met.1 met.2

end Requests

section Sample

def pausedTables : Tables :=
  { Tables.migrated with
    organizations := [⟨"acme"⟩]
    members := [⟨"m1", "ada", "acme", "owner"⟩, ⟨"m2", "bob", "acme", "member"⟩]
    workspaces := [⟨"w1", "m1", "acme", none, none, Resources.zero, .pending, 1, 1⟩]
    platformControls :=
      [⟨.provisioning, true, "incident", "admin", 5⟩, migratedControl .workspaceStart,
        migratedControl .publication] }

theorem pausedTables_accepted : schema.violated? pausedTables = none := by decide

/-- Ada has a workspace, Bob has none, and provisioning is paused. -/
def pausedDatabase : CloudDatabase := Store.load pausedTables pausedTables_accepted

def signedIn (userId : String) : Option AuthSession := some ⟨userId, some "acme"⟩

/-- A read of the own usage and a refused resolution of the workspace. -/
def readsUsage (userId : String) : List HttpRequest :=
  [.personalUsage (signedIn userId) true "w2" 10,
    .ensurePersonalWorkspace (signedIn "bob") (some "acme") "w3" 11]

theorem runs_readsUsage_bob : (pausedPlatform false).Runs pausedDatabase (readsUsage "bob") :=
  ⟨⟨by decide, by decide, trivial⟩, ⟨by decide, by decide, trivial⟩, trivial⟩

/-- The usage read of Bob files a workspace for him. -/
theorem usageRead_files_workspace :
    OneMembership pausedDatabase.tables ∧ (pausedPlatform false).Runs pausedDatabase (readsUsage "bob") ∧
      ¬ (pausedPlatform false).Along
        (fun before request => WorkspacesKept before.tables (serve false before request).tables)
        pausedDatabase (readsUsage "bob") :=
  ⟨by decide, runs_readsUsage_bob, by decide +kernel⟩

theorem killSwitch_complete_ada :
    (pausedPlatform false).Along
      (fun before request => WorkspacesKept before.tables (serve false before request).tables)
      pausedDatabase (readsUsage "ada") := by
  have runs : (pausedPlatform false).Runs pausedDatabase (readsUsage "ada") :=
    ⟨⟨by decide, by decide, trivial⟩, ⟨by decide, by decide, trivial⟩,
      trivial⟩
  exact (killSwitch_complete_iff (by decide) runs).mpr (by decide)

end Sample

end NebulaCloud.Provisioning
