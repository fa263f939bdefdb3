import NebulaCloud.Organization.Members
import NebulaCloud.Publication.WorkspaceServices
import NebulaCloud.Usage.Reports

namespace NebulaCloud.Organization

open NebulaCloud.Data NebulaCloud.Database NebulaCloud.Platform NebulaCloud.Publication NebulaCloud.Usage

/-! # The dashboard

It counts with statements of its own what other statements answer one by one. -/

structure OrganizationDashboardOptions where
  userId : String
  organizationId : String
  since : Int
  heartbeatMaxAgeMs : Option Int
  now : Int
deriving DecidableEq, Repr

inductive DashboardScope
  | personal | organization
deriving DecidableEq, Repr

structure ReadyCount where
  ready : Nat
  total : Nat
deriving DecidableEq, Repr

structure HealthyCount where
  healthy : Nat
  total : Nat
deriving DecidableEq, Repr

structure DashboardUsage where
  sessions : Nat
  modelTurns : Int
  totalTokens : Int
  estimatedCostMicrousd : Int
deriving DecidableEq, Repr

structure OrganizationDashboardSummary where
  organizationId : String
  scope : DashboardScope
  rangeDays : Int
  enabledMembers : Option Nat
  entitledMembers : Nat
  operators : ReadyCount
  usage : DashboardUsage
  provisioningFailures : Nat
  workers : HealthyCount
deriving DecidableEq, Repr

/-- What the statements of one dashboard select by: the organization, and in it
everything or what belongs to the actor. -/
structure DashboardSelection where
  organizationId : String
  includeOrganization : Bool
  membershipId : String

section Statements

variable (selection : DashboardSelection) (tables : Tables)

def DashboardSelection.selects (organizationId membershipId : String) : Bool :=
  organizationId = selection.organizationId &&
    (selection.includeOrganization || membershipId = selection.membershipId)

def enabledMembers : Nat :=
  tables.members.countP fun member =>
    member.organizationId = selection.organizationId && !memberDisabled tables member.id

def isEntitled (timestamp : Int) (entitlement : OperatorEntitlementRow) : Bool :=
  selection.selects entitlement.organizationId entitlement.membershipId && entitlement.ActiveAt timestamp &&
    (lookup (·.id) tables.members entitlement.membershipId).any fun member =>
      member.organizationId = entitlement.organizationId && !memberDisabled tables member.id

def entitledMembers (timestamp : Int) : Nat :=
  tables.entitlements.countP (isEntitled selection tables timestamp)

def selectedWorkspaces : List WorkspaceRow :=
  tables.workspaces.filter fun workspace => selection.selects workspace.organizationId workspace.memberId

def selectedUsage (since : Int) : List UsageEventRow :=
  tables.usageEvents.filter fun event =>
    selection.selects event.organizationId event.membershipId && since ≤ event.occurredAt

def provisioningFailures (since : Int) : Nat :=
  tables.provisioningJobs.countP fun job =>
    ((lookup (·.id) tables.workspaces job.workspaceId).any fun workspace =>
      selection.selects workspace.organizationId workspace.memberId) &&
    job.status = .failed && since ≤ job.completedAt.getD job.updatedAt

/-- `COUNT(DISTINCT worker_host.id)` counts the hosts of the workspaces. -/
def selectedHosts : List WorkerHostRow :=
  ((selectedWorkspaces selection tables).filterMap fun workspace =>
    workspace.workerHostId.bind (lookup (·.id) tables.workerHosts)).dedup

def isHealthyHost (oldest : Int) (host : WorkerHostRow) : Bool :=
  host.enabled && host.state = .healthy && host.lastHeartbeatAt.any fun heartbeat => oldest ≤ heartbeat

end Statements

def getOrganizationDashboardSummary (planAccounts : List PlanAccountRow) (database : CloudDatabase)
    (options : OrganizationDashboardOptions) : Except Failure OrganizationDashboardSummary :=
  match findMembership database.tables options.userId options.organizationId with
  | none => .error .organizationAccessDenied
  | some actor =>
      let heartbeatMaxAgeMs := options.heartbeatMaxAgeMs.getD 30000
      if memberDisabled database.tables actor.id then .error .organizationAccessDenied
      else if ¬ IsNonNegativeSafeInteger options.since ∨ options.now < options.since then
        .error (.error "Dashboard range is invalid")
      else if ¬ IsNonNegativeSafeInteger heartbeatMaxAgeMs ∨ heartbeatMaxAgeMs < 1000 then
        .error (.error "Dashboard worker heartbeat age is invalid")
      else
        let planAccount := lookup (·.organizationId) planAccounts options.organizationId
        let organizationScope := planAccount.map (·.accountType) ≠ some .individual && isAdminRole actor.role
        let selection : DashboardSelection := ⟨options.organizationId, organizationScope, actor.id⟩
        let operators := selectedWorkspaces selection database.tables
        let events := selectedUsage selection database.tables options.since
        let usage := usageTotals events
        let hosts := selectedHosts selection database.tables
        .ok
          { organizationId := options.organizationId
            scope := if organizationScope then .organization else .personal
            rangeDays := 30
            enabledMembers := if organizationScope then some (enabledMembers selection database.tables) else none
            entitledMembers := entitledMembers selection database.tables options.now
            operators := ⟨operators.countP (·.state = .ready), operators.length⟩
            usage :=
              { sessions := (groups (fun event => (event.workspaceId, event.sessionId)) events).length
                modelTurns := usage.modelTurns
                totalTokens := usage.totalTokens
                estimatedCostMicrousd := usage.estimatedCostMicrousd }
            provisioningFailures := provisioningFailures selection database.tables options.since
            workers := ⟨hosts.countP (isHealthyHost (options.now - heartbeatMaxAgeMs)), hosts.length⟩ }

/-! ## Entitled members -/

/-- The members that a dashboard is about. -/
def membersInScope (selection : DashboardSelection) (tables : Tables) : List MemberRow :=
  tables.members.filter fun member => selection.selects member.organizationId member.id

section Agreement

variable {database : CloudDatabase} {selection : DashboardSelection} {timestamp since : Int}

theorem organization_of_selects {organizationId membershipId : String}
    (selected : selection.selects organizationId membershipId = true) : organizationId = selection.organizationId := by
  simp only [DashboardSelection.selects, Bool.and_eq_true, decide_eq_true_eq] at selected
  exact selected.1

/-- A member that is counted as entitled is let in. -/
theorem entitled_hasActive (generated : GeneratedIds database.tables) (clock : IsNonNegativeSafeInteger timestamp)
    {entitlement : OperatorEntitlementRow} (stored : entitlement ∈ database.tables.entitlements)
    (entitled : isEntitled selection database.tables timestamp entitlement = true) :
    ∃ member ∈ membersInScope selection database.tables,
      hasActiveOperatorEntitlement database member.id selection.organizationId timestamp = true ∧
        member.id = entitlement.membershipId := by
  simp only [isEntitled, Bool.and_eq_true, decide_eq_true_eq, Option.any_eq_true, Bool.not_eq_true'] at entitled
  obtain ⟨⟨selected, active⟩, member, found, same, enabled⟩ := entitled
  have memberId : member.id = entitlement.membershipId := lookup_key found
  have listed := lookup_mem found
  have inScope : selection.selects member.organizationId member.id = true := by rwa [same, memberId]
  refine ⟨member, List.mem_filter.mpr ⟨listed, inScope⟩, ?_, memberId⟩
  rw [← organization_of_selects inScope]
  exact (hasActiveOperatorEntitlement_member generated clock listed).mpr
    ⟨enabled, entitlement, stored, memberId.symm, active⟩

/-- A member of the scope that is let in is counted. -/
theorem hasActive_entitled (generated : GeneratedIds database.tables) (clock : IsNonNegativeSafeInteger timestamp)
    {member : MemberRow} (inScope : member ∈ membersInScope selection database.tables)
    (allowed : hasActiveOperatorEntitlement database member.id selection.organizationId timestamp = true) :
    ∃ entitlement ∈ database.tables.entitlements,
      isEntitled selection database.tables timestamp entitlement = true ∧ entitlement.membershipId = member.id := by
  obtain ⟨listed, selected⟩ := List.mem_filter.mp inScope
  rw [← organization_of_selects selected, hasActiveOperatorEntitlement_member generated clock listed] at allowed
  obtain ⟨enabled, entitlement, stored, same, active⟩ := allowed
  have distinct : (database.tables.members.map (·.id)).Nodup := database.consistent .memberId
  obtain ⟨owner, ownerStored, ownerId, ownerOrganization⟩ := database.consistent .entitlementOwner entitlement stored
  obtain rfl := eq_of_key distinct ownerStored listed (ownerId.trans same)
  have found : lookup (·.id) database.tables.members entitlement.membershipId = some owner :=
    (lookup_eq_some distinct).mpr ⟨ownerStored, ownerId⟩
  refine ⟨entitlement, stored, ?_, same⟩
  simp only [isEntitled, Bool.and_eq_true, decide_eq_true_eq, found, Option.any_some, Bool.not_eq_true']
  refine ⟨⟨?_, active⟩, ownerOrganization, enabled⟩
  rwa [same, ← ownerOrganization]

theorem entitledMembers_eq (generated : GeneratedIds database.tables) (clock : IsNonNegativeSafeInteger timestamp) :
    entitledMembers selection database.tables timestamp =
      (membersInScope selection database.tables).countP fun member =>
        hasActiveOperatorEntitlement database member.id selection.organizationId timestamp := by
  have distinct : (database.tables.members.map (·.id)).Nodup := database.consistent .memberId
  have entitlements : (database.tables.entitlements.map (·.membershipId)).Nodup :=
    database.consistent .entitlementMember
  have memberIds : ((membersInScope selection database.tables).map (·.id)).Nodup :=
    (List.filter_sublist.map _).nodup distinct
  apply countP_eq_of_keys entitlements memberIds
  intro membershipId
  constructor
  · rintro ⟨entitlement, stored, entitled, rfl⟩
    exact entitled_hasActive generated clock stored entitled
  · rintro ⟨member, inScope, allowed, rfl⟩
    exact hasActive_entitled generated clock inScope allowed

/-! ## Usage -/

/-- In the organization a dashboard sums up what the summary of the organization does. -/
theorem selectedUsage_organization (whole : selection.includeOrganization = true) :
    selectedUsage selection database.tables since =
      organizationUsageRows database.tables selection.organizationId since := by
  simp [selectedUsage, organizationUsageRows, DashboardSelection.selects, whole]

/-- The events of a member are those of its organization. -/
theorem selectedUsage_personal (owned : MemberOwned database.tables) {actor : MemberRow}
    (listed : actor ∈ database.tables.members) (organization : actor.organizationId = selection.organizationId)
    (own : selection.membershipId = actor.id) (personal : selection.includeOrganization = false) :
    selectedUsage selection database.tables since = personalUsageRows database.tables actor.id since := by
  have distinct : (database.tables.members.map (·.id)).Nodup := database.consistent .memberId
  apply List.filter_congr
  intro event recorded
  by_cases same : event.membershipId = actor.id
  · obtain ⟨owner, stored, ownerId, ownerOrganization⟩ := owned event recorded
    obtain rfl := eq_of_key distinct stored listed (ownerId.trans same)
    simp [DashboardSelection.selects, own, same, ← ownerOrganization, organization]
  · simp [DashboardSelection.selects, own, personal, same]

/-! ## Agreement -/

/-- The dashboard shows three of the totals. -/
def DashboardUsage.Shows (usage : DashboardUsage) (totals : UsageTotals) : Prop :=
  usage.modelTurns = totals.modelTurns ∧ usage.totalTokens = totals.totalTokens ∧
    usage.estimatedCostMicrousd = totals.estimatedCostMicrousd

def OrganizationDashboardOptions.Valid (options : OrganizationDashboardOptions) : Prop :=
  (IsNonNegativeSafeInteger options.since ∧ options.since ≤ options.now) ∧
    IsNonNegativeSafeInteger (options.heartbeatMaxAgeMs.getD 30000) ∧ 1000 ≤ options.heartbeatMaxAgeMs.getD 30000

instance (options : OrganizationDashboardOptions) : Decidable options.Valid :=
  inferInstanceAs (Decidable (_ ∧ _))

variable {planAccounts : List PlanAccountRow} {options : OrganizationDashboardOptions} {actor : MemberRow}

/-- The dashboard of an enabled member is answered, in one of the two scopes. -/
theorem getOrganizationDashboardSummary_ok (valid : options.Valid)
    (found : findMembership database.tables options.userId options.organizationId = some actor)
    (enabled : memberDisabled database.tables actor.id = false) :
    ∃ summary whole, getOrganizationDashboardSummary planAccounts database options = .ok summary ∧
      (whole = true → isAdminRole actor.role = true) ∧
      let selection : DashboardSelection := ⟨options.organizationId, whole, actor.id⟩
      summary.scope = (if whole then .organization else .personal) ∧
        summary.entitledMembers = entitledMembers selection database.tables options.now ∧
        summary.usage.Shows (usageTotals (selectedUsage selection database.tables options.since)) := by
  obtain ⟨⟨since, past⟩, age, old⟩ := valid
  unfold getOrganizationDashboardSummary
  simp only [found, enabled, since, age, Int.not_lt.mpr past, Int.not_lt.mpr old, not_true_eq_false, or_self, if_false,
    Bool.false_eq_true]
  refine ⟨_, _, rfl, ?_, rfl, rfl, rfl, rfl, rfl⟩
  intro whole
  exact (Bool.and_eq_true_iff.mp whole).2

/-- In every reachable database the dashboard of an enabled member counts the members who
are let in at that time, and shows the totals of the summary for its scope. -/
theorem dashboard_agrees (reachable : usageReports.Reachable database) (generated : GeneratedIds database.tables)
    (clock : IsNonNegativeSafeInteger options.now) (valid : options.Valid)
    (found : findMembership database.tables options.userId options.organizationId = some actor)
    (enabled : memberDisabled database.tables actor.id = false) :
    ∃ summary, getOrganizationDashboardSummary planAccounts database options = .ok summary ∧
      summary.entitledMembers =
        ((membersInScope ⟨options.organizationId, summary.scope = .organization, actor.id⟩ database.tables).countP
          fun member => hasActiveOperatorEntitlement database member.id options.organizationId options.now) ∧
      match summary.scope with
      | .organization => ∀ users rangeDays, ∃ report,
          getOrganizationUsageSummary users database
              ⟨options.userId, options.organizationId, options.since, rangeDays⟩ = .ok report ∧
            summary.usage.Shows report.totals
      | .personal => ∀ rangeDays, ∃ report,
          getPersonalUsageSummary database
              ⟨options.userId, options.organizationId, options.since, rangeDays⟩ = .ok report ∧
            summary.usage.Shows report.totals := by
  obtain ⟨summary, whole, answered, admin, scope, entitled, shown⟩ :=
    @getOrganizationDashboardSummary_ok database planAccounts options actor valid found enabled
  refine ⟨summary, answered, ?_, ?_⟩
  · have selected : decide (summary.scope = .organization) = whole := by
      rw [scope]
      cases whole <;> rfl
    rw [entitled, selected]
    exact entitledMembers_eq generated clock
  · have listed : actor ∈ database.tables.members := List.mem_of_find?_eq_some found
    have organization : actor.organizationId = options.organizationId := by
      have matching := List.find?_some found
      simp only [Bool.and_eq_true, decide_eq_true_eq] at matching
      exact matching.2
    cases whole with
    | true =>
        rw [scope]
        intro users rangeDays
        rw [selectedUsage_organization rfl] at shown
        simp only [getOrganizationUsageSummary, found, admin rfl, Bool.not_true, Bool.false_eq_true, if_false]
        exact ⟨_, rfl, shown⟩
    | false =>
        rw [scope]
        intro rangeDays
        rw [selectedUsage_personal (memberOwned_reachable reachable) listed organization rfl rfl] at shown
        simp only [getPersonalUsageSummary, found]
        exact ⟨_, rfl, shown⟩

def entitledTenants : CloudDatabase :=
  Store.load
    { twoTenantTables with
      usageEvents := []
      entitlements := [⟨"m1", "acme", .active, .admin, 1, none, 1, 1⟩] }
    (by decide +kernel)

def entitledTurn : CloudDatabase := usageReports.step entitledTenants (.record (reportedTurn "turn-1"))

theorem dashboard_agrees_entitledTurn :
    ∃ summary, getOrganizationDashboardSummary [] entitledTurn ⟨"ada", "acme", 8, none, 20⟩ = .ok summary ∧
      summary.entitledMembers =
        ((membersInScope ⟨"acme", summary.scope = .organization, "m1"⟩ entitledTurn.tables).countP fun member =>
          hasActiveOperatorEntitlement entitledTurn member.id "acme" 20) := by
  have reachable : usageReports.Reachable entitledTurn := .step (.initial rfl) trivial
  have generated : GeneratedIds entitledTurn.tables := ⟨by decide +kernel, by decide +kernel⟩
  have found : findMembership entitledTurn.tables "ada" "acme" = some ⟨"m1", "ada", "acme", "owner"⟩ := by
    decide +kernel
  obtain ⟨summary, answered, entitled, -⟩ := @dashboard_agrees entitledTurn [] ⟨"ada", "acme", 8, none, 20⟩ _ reachable
    generated (by decide) (by decide) found (by decide +kernel)
  exact ⟨summary, answered, entitled⟩

end Agreement

end NebulaCloud.Organization
