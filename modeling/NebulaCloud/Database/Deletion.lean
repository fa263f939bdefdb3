import NebulaCloud.Database.Workspace

namespace NebulaCloud.Database

open NebulaCloud.Data

/-! # Deletion

The effect of `DELETE` on an organization, a member or a workspace, with the
foreign keys and the trigger that it fires.  `now` is the clock of the trigger. -/

/-- What `workspace_worker_reservation_release` does to one host for one deleted
workspace. -/
def WorkerHostRow.released (now : Int) (host : WorkerHostRow) (workspace : WorkspaceRow) :
    WorkerHostRow :=
  if workspace.workerHostId = some host.id then
    { host with
      reserved := host.reserved.zipWith (fun reserved released => max 0 (reserved - released))
        workspace.reserved
      updatedAt := now }
  else host

/-- The trigger runs for each deleted row in turn. -/
def releaseReservations (now : Int) (deleted : List WorkspaceRow) (hosts : List WorkerHostRow) :
    List WorkerHostRow :=
  deleted.foldl (fun hosts workspace => hosts.map fun host => host.released now workspace) hosts

/-- `DELETE FROM workspace`; provisioning jobs, usage events and published services
follow. -/
def deleteWorkspaces (doomed : WorkspaceRow → Bool) (now : Int) (tables : Tables) : Tables :=
  let deleted := tables.workspaces.filter doomed
  { tables with
    workspaces := tables.workspaces.filter fun workspace => !doomed workspace
    provisioningJobs := tables.provisioningJobs.filter fun job =>
      job.workspaceId ∉ deleted.map (·.id)
    usageEvents := tables.usageEvents.filter fun event =>
      event.workspaceId ∉ deleted.map (·.id)
    publishedServices := tables.publishedServices.filter fun service =>
      service.workspaceId ∉ deleted.map (·.id)
    workerHosts := releaseReservations now deleted tables.workerHosts }

/-- `DELETE FROM member`; states, entitlements, usage events and workspaces follow. -/
def deleteMembers (doomed : MemberRow → Bool) (now : Int) (tables : Tables) : Tables :=
  let deleted := (tables.members.filter doomed).map (·.id)
  deleteWorkspaces (fun workspace => workspace.memberId ∈ deleted) now
    { tables with
      members := tables.members.filter fun member => !doomed member
      memberStates := tables.memberStates.filter fun state => state.memberId ∉ deleted
      entitlements := tables.entitlements.filter fun entitlement =>
        entitlement.membershipId ∉ deleted
      usageEvents := tables.usageEvents.filter fun event => event.membershipId ∉ deleted }

/-- `DELETE FROM organization`; members and everything that the organization owns
follow.  Audit events restrict it, and a statement that leaves one behind fails. -/
def deleteOrganizationRow (organizationId : String) (now : Int) (tables : Tables) : Tables :=
  deleteWorkspaces (fun workspace => workspace.organizationId = organizationId) now
    (deleteMembers (fun member => member.organizationId = organizationId) now
      { tables with
        organizations := tables.organizations.filter fun organization =>
          organization.id ≠ organizationId
        entitlements := tables.entitlements.filter fun entitlement =>
          entitlement.organizationId ≠ organizationId
        billingCustomers := tables.billingCustomers.filter fun customer =>
          customer.organizationId ≠ organizationId
        subscriptions := tables.subscriptions.filter fun subscription =>
          subscription.organizationId ≠ organizationId
        usageEvents := tables.usageEvents.filter fun event =>
          event.organizationId ≠ organizationId })

def deleteWorkspace (database : CloudDatabase) (workspaceId : String) (now : Int) :
    Except Failure CloudDatabase :=
  statement database (deleteWorkspaces (fun workspace => workspace.id = workspaceId) now)

def deleteMember (database : CloudDatabase) (memberId : String) (now : Int) :
    Except Failure CloudDatabase :=
  statement database (deleteMembers (fun member => member.id = memberId) now)

def deleteOrganization (database : CloudDatabase) (organizationId : String) (now : Int) :
    Except Failure CloudDatabase :=
  statement database (deleteOrganizationRow organizationId now)

section Released

variable (now : Int) (workspace : WorkspaceRow) (deleted : List WorkspaceRow) (host : WorkerHostRow)

@[simp] theorem WorkerHostRow.released_id : (host.released now workspace).id = host.id := by
  unfold WorkerHostRow.released
  split
  · rfl
  · rfl

/-- The trigger treats the hosts one by one. -/
theorem releaseReservations_eq_map (hosts : List WorkerHostRow) :
    releaseReservations now deleted hosts =
      hosts.map fun host => deleted.foldl (WorkerHostRow.released now) host := by
  unfold releaseReservations
  induction deleted generalizing hosts with
  | nil => simp
  | cons first rest ih =>
      rw [List.foldl_cons, ih, List.map_map]
      rfl

end Released

end NebulaCloud.Database
