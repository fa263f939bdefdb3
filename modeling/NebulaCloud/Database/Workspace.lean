import NebulaCloud.Database.Schema

namespace NebulaCloud.Database

open NebulaCloud.Data NebulaCloud.Platform

/-! # Personal workspaces -/

structure EnsurePersonalWorkspaceOptions where
  userId : String
  organizationId : String
  createId : String
  now : Int
deriving DecidableEq, Repr

def findMembership (tables : Tables) (userId organizationId : String) : Option MemberRow :=
  tables.members.find? fun member =>
    member.userId = userId && member.organizationId = organizationId

/-- The row that `insertWorkspace` writes, column defaults included. -/
def personalWorkspace (options : EnsurePersonalWorkspaceOptions) (memberId : String) : WorkspaceRow where
  id := options.createId
  memberId := memberId
  organizationId := options.organizationId
  workerWorkspaceId := none
  workerHostId := none
  reserved := Resources.zero
  state := .pending
  createdAt := options.now
  updatedAt := options.now

def ensurePersonalWorkspace (database : CloudDatabase) (options : EnsurePersonalWorkspaceOptions) :
    Except Failure (CloudDatabase × WorkspaceRow) :=
  match findMembership database.tables options.userId options.organizationId with
  | none => .error .workspaceMembershipNotFound
  | some membership =>
      match lookup (·.memberId) database.tables.workspaces membership.id with
      | some existing => .ok (database, existing)
      | none => do
          let database ← statement database fun tables =>
            { tables with
              workspaces := tables.workspaces ++ [personalWorkspace options membership.id] }
          match lookup (·.memberId) database.tables.workspaces membership.id with
          | none => .error (.error "Personal workspace could not be resolved")
          | some workspace => .ok (database, workspace)

def getPersonalWorkspace (database : CloudDatabase) (userId organizationId : String) :
    Option WorkspaceRow :=
  if trim userId = "" ∨ trim organizationId = "" then none
  else
    database.tables.workspaces.find? fun workspace =>
      workspace.organizationId = organizationId &&
        database.tables.members.any fun member =>
          member.id = workspace.memberId && member.userId = userId &&
            member.organizationId = organizationId

def getWorkspaceById (database : CloudDatabase) (workspaceId : String) : Option WorkspaceRow :=
  lookup (·.id) database.tables.workspaces workspaceId

structure ResolveWorkspaceAccessOptions where
  workspaceId : String
  userId : String
  organizationId : String
deriving DecidableEq, Repr

/-- The `WHERE` clause of `resolveWorkspaceAccess` on one joined row. -/
def grantsAccess (options : ResolveWorkspaceAccessOptions) (workspace : WorkspaceRow)
    (workspaceMember actorMember : MemberRow) : Bool :=
  workspace.id = options.workspaceId && actorMember.userId = options.userId &&
    actorMember.organizationId = options.organizationId &&
    workspace.organizationId = workspaceMember.organizationId &&
    (actorMember.id = workspace.memberId || actorMember.role = "owner" || actorMember.role = "admin")

def resolveWorkspaceAccess (database : CloudDatabase) (options : ResolveWorkspaceAccessOptions) :
    Option WorkspaceRow :=
  if trim options.workspaceId = "" ∨ trim options.userId = "" ∨ trim options.organizationId = "" then
    none
  else
    database.tables.workspaces.find? fun workspace =>
      database.tables.members.any fun workspaceMember =>
        workspaceMember.id = workspace.memberId &&
          database.tables.members.any fun actorMember =>
            actorMember.organizationId = workspace.organizationId &&
              grantsAccess options workspace workspaceMember actorMember

/-- What a successful call does: it finds the member's workspace or files a
fresh one. -/
theorem ensurePersonalWorkspace_ok {database after : CloudDatabase}
    {options : EnsurePersonalWorkspaceOptions} {workspace : WorkspaceRow}
    (ensured : ensurePersonalWorkspace database options = .ok (after, workspace)) :
    (after = database ∧ workspace ∈ database.tables.workspaces) ∨
      ∃ memberId, workspace = personalWorkspace options memberId ∧
        after.tables = { database.tables with
          workspaces := database.tables.workspaces ++ [workspace] } := by
  unfold ensurePersonalWorkspace at ensured
  split at ensured
  · contradiction
  · rename_i membership _
    split at ensured
    · rename_i existing found
      cases ensured
      exact .inl ⟨rfl, lookup_mem found⟩
    · rename_i absent
      obtain ⟨inserted, insert, resolved⟩ := bind_ok.mp ensured
      have written := Store.execute_ok.mp insert
      have created : lookup (·.memberId) inserted.tables.workspaces membership.id =
          some (personalWorkspace options membership.id) := by
        rw [written]
        exact (lookup_append_fresh absent).trans (if_pos rfl)
      simp only [created] at resolved
      cases resolved
      exact .inr ⟨membership.id, rfl, written⟩

/-- A change of workspaces in place breaks no constraint that is not about the columns it
writes. -/
theorem consistent_of_workspaceChange (database : CloudDatabase) {selected : WorkspaceRow → Bool}
    {change : WorkspaceRow → WorkspaceRow} (sameId : ∀ row, (change row).id = row.id)
    (sameMember : ∀ row, (change row).memberId = row.memberId)
    (sameOrganization : ∀ row, (change row).organizationId = row.organizationId)
    (workers : ((updateWhere selected change database.tables.workspaces).filterMap (·.workerWorkspaceId)).Nodup)
    (hosted : ∀ row, (∀ hostId ∈ row.workerHostId, hostId ∈ database.tables.workerHosts.map (·.id)) →
      ∀ hostId ∈ (change row).workerHostId, hostId ∈ database.tables.workerHosts.map (·.id))
    (reserved : ∀ row, Resources.zero.Both (· ≤ ·) row.reserved →
      Resources.zero.Both (· ≤ ·) (change row).reserved) :
    schema.Consistent { database.tables with
      workspaces := updateWhere selected change database.tables.workspaces } := by
  have ids : (updateWhere selected change database.tables.workspaces).map (·.id) =
      database.tables.workspaces.map (·.id) := map_updateWhere sameId
  have members : (updateWhere selected change database.tables.workspaces).map (·.memberId) =
      database.tables.workspaces.map (·.memberId) := map_updateWhere sameMember
  intro constraint
  have held := database.consistent constraint
  cases constraint with
  | workspaceId => exact (congrArg List.Nodup ids).mpr held
  | workspaceMember => exact (congrArg List.Nodup members).mpr held
  | workspaceWorkerWorkspace => exact workers
  | workspaceOwner =>
      intro row member
      obtain ⟨before, beforeMember, rfl⟩ := mem_updateWhere.mp member
      have owned := held before beforeMember
      split
      · rw [sameMember, sameOrganization]
        exact owned
      · exact owned
  | workspaceHost =>
      intro row member
      obtain ⟨before, beforeMember, rfl⟩ := mem_updateWhere.mp member
      split
      · exact hosted before (held before beforeMember)
      · exact held before beforeMember
  | workspaceReserved =>
      intro row member
      obtain ⟨before, beforeMember, rfl⟩ := mem_updateWhere.mp member
      split
      · exact reserved before (held before beforeMember)
      · exact held before beforeMember
  | jobWorkspace =>
      intro job member
      have stored := held job member
      exact ids ▸ stored
  | usageWorkspace =>
      intro event member
      have stored := held event member
      exact ids ▸ stored
  | serviceWorkspace =>
      intro service member
      have stored := held service member
      exact ids ▸ stored
  | _ => exact held

end NebulaCloud.Database
