import NebulaCloud.Data.Ledger
import NebulaCloud.Database.Deletion
import NebulaCloud.Database.WorkerHost
import NebulaCloud.Provisioning.Lifecycle
import Mathlib.Algebra.Order.Ring.Unbundled.Rat

namespace NebulaCloud.Capacity

open NebulaCloud.Data NebulaCloud.Database NebulaCloud.Provisioning

/-! # Capacity conservation

Every host's counters are a running balance of the reservations that the
workspaces assigned to it record. -/

/-- What the workspaces assigned to a host reserve of one resource. -/
def reservedOn (resource : Resource) (workspaces : List WorkspaceRow) (hostId : String) : Int :=
  charged (·.workerHostId) (·.reserved.amount resource) workspaces hostId

def Balanced (tables : Tables) : Prop :=
  ∀ host ∈ tables.workerHosts, ∀ resource,
    host.reserved.amount resource = reservedOn resource tables.workspaces host.id

/-- Reservations are not negative. -/
def NonNegative (workspaces : List WorkspaceRow) : Prop :=
  ∀ workspace ∈ workspaces, ∀ resource, 0 ≤ workspace.reserved.amount resource

theorem nonNegative (database : CloudDatabase) : NonNegative database.tables.workspaces := by
  intro workspace member resource
  have stored : Resources.zero.Both (· ≤ ·) workspace.reserved :=
    database.consistent .workspaceReserved workspace member
  simpa using Resources.both_iff.mp stored resource

section ReservedOn

variable {resource : Resource} {workspaces : List WorkspaceRow} {hostId : String}

theorem reservedOn_cons (workspace : WorkspaceRow) :
    reservedOn resource (workspace :: workspaces) hostId =
      (if workspace.workerHostId = some hostId then workspace.reserved.amount resource else 0) +
        reservedOn resource workspaces hostId :=
  charged_cons

theorem reservedOn_nonneg (nonNegative : NonNegative workspaces) :
    0 ≤ reservedOn resource workspaces hostId :=
  charged_nonneg fun workspace member => nonNegative workspace member resource

theorem reservedOn_split (doomed : WorkspaceRow → Bool) :
    reservedOn resource (workspaces.filter doomed) hostId +
      reservedOn resource (workspaces.filter fun workspace => !doomed workspace) hostId =
      reservedOn resource workspaces hostId :=
  charged_filter_add doomed

theorem reservedOn_updateWhere {selected : WorkspaceRow → Bool} {change : WorkspaceRow → WorkspaceRow}
    (sameHost : ∀ workspace, (change workspace).workerHostId = workspace.workerHostId)
    (sameReserved : ∀ workspace, (change workspace).reserved = workspace.reserved) :
    reservedOn resource (updateWhere selected change workspaces) hostId =
      reservedOn resource workspaces hostId :=
  charged_updateWhere (fun workspace _ _ => sameHost workspace)
    (fun workspace _ _ => congrArg (·.amount resource) (sameReserved workspace))

theorem foldl_release_reservedOn {balance : Int} (nonNegative : NonNegative workspaces)
    (covered : reservedOn resource workspaces hostId ≤ balance) :
    workspaces.foldl (release (·.workerHostId) (·.reserved.amount resource) hostId) balance =
      balance - reservedOn resource workspaces hostId :=
  foldl_release (fun workspace member => nonNegative workspace member resource) covered

end ReservedOn

/-! ## Releasing reservations -/

/-- The release trigger without its floor. -/
def releasedExactly (now : Int) (host : WorkerHostRow) (workspace : WorkspaceRow) : WorkerHostRow :=
  if workspace.workerHostId = some host.id then
    { host with
      reserved := host.reserved.zipWith (· - ·) workspace.reserved
      updatedAt := now }
  else host

section Release

variable {host : WorkerHostRow} {workspace : WorkspaceRow} {deleted : List WorkspaceRow} (now : Int)

theorem foldl_released_id : (deleted.foldl (WorkerHostRow.released now) host).id = host.id := by
  induction deleted generalizing host with
  | nil => rfl
  | cons first rest ih => rw [List.foldl_cons, ih, host.released_id]

theorem released_amount (resource : Resource) :
    (host.released now workspace).reserved.amount resource =
      release (·.workerHostId) (·.reserved.amount resource) host.id
        (host.reserved.amount resource) workspace := by
  unfold WorkerHostRow.released release
  split
  · simp only [Resources.amount_zipWith]
  · rfl

theorem foldl_released_amount (resource : Resource) :
    (deleted.foldl (WorkerHostRow.released now) host).reserved.amount resource =
      deleted.foldl (release (·.workerHostId) (·.reserved.amount resource) host.id)
        (host.reserved.amount resource) := by
  induction deleted generalizing host with
  | nil => rfl
  | cons first rest ih => rw [List.foldl_cons, List.foldl_cons, ih, host.released_id, released_amount]

/-- A host that covers one reservation releases it without reaching the floor. -/
theorem released_exact
    (covered : workspace.workerHostId = some host.id →
      workspace.reserved.Both (· ≤ ·) host.reserved) :
    host.released now workspace = releasedExactly now host workspace := by
  unfold WorkerHostRow.released releasedExactly
  split
  · rename_i assigned
    obtain ⟨memory, cpu, disk, slots⟩ := covered assigned
    have unclipped (reserved released : Int) (enough : released ≤ reserved) :
        max 0 (reserved - released) = reserved - released := by omega
    simp only [Resources.zipWith, unclipped _ _ memory, unclipped _ _ cpu, unclipped _ _ disk,
      unclipped _ _ slots]
  · rfl

theorem foldl_released_exact (nonNegative : NonNegative deleted)
    (covered : ∀ resource, reservedOn resource deleted host.id ≤ host.reserved.amount resource) :
    deleted.foldl (WorkerHostRow.released now) host = deleted.foldl (releasedExactly now) host := by
  induction deleted generalizing host with
  | nil => rfl
  | cons first rest ih =>
      have restNonNegative : NonNegative rest :=
        fun workspace member => nonNegative workspace (List.mem_cons_of_mem first member)
      have step : host.released now first = releasedExactly now host first := by
        refine released_exact now fun onHost => Resources.both_iff.mpr fun resource => ?_
        have enough := covered resource
        have later : 0 ≤ reservedOn resource rest host.id := reservedOn_nonneg restNonNegative
        rw [reservedOn_cons, if_pos onHost] at enough
        omega
      rw [List.foldl_cons, List.foldl_cons, ← step]
      refine ih restNonNegative fun resource => ?_
      have enough := covered resource
      rw [reservedOn_cons] at enough
      rw [host.released_id, released_amount, release]
      split
      · rename_i onHost
        rw [if_pos onHost] at enough
        omega
      · rename_i elsewhere
        rw [if_neg elsewhere] at enough
        omega

end Release

/-! ## What each operation keeps -/

section Preservation

variable {tables after : Tables}

theorem balanced_deleteWorkspaces (doomed : WorkspaceRow → Bool) (now : Int)
    (nonNegative : NonNegative tables.workspaces) (balanced : Balanced tables) :
    Balanced (deleteWorkspaces doomed now tables) := by
  intro host member resource
  simp only [deleteWorkspaces, releaseReservations_eq_map] at member ⊢
  obtain ⟨before, beforeMember, rfl⟩ := List.mem_map.mp member
  have filtered (selected : WorkspaceRow → Bool) : NonNegative (tables.workspaces.filter selected) :=
    fun workspace member => nonNegative workspace (List.mem_filter.mp member).1
  have total := balanced before beforeMember resource
  have parts : reservedOn resource (tables.workspaces.filter doomed) before.id +
      reservedOn resource (tables.workspaces.filter fun workspace => !doomed workspace) before.id =
      reservedOn resource tables.workspaces before.id := reservedOn_split doomed
  have kept : 0 ≤ reservedOn resource
      (tables.workspaces.filter fun workspace => !doomed workspace) before.id :=
    reservedOn_nonneg (filtered _)
  rw [foldl_released_id, foldl_released_amount,
    foldl_release_reservedOn (filtered doomed) (by omega)]
  omega

theorem balanced_deleteMembers (doomed : MemberRow → Bool) (now : Int)
    (nonNegative : NonNegative tables.workspaces) (balanced : Balanced tables) :
    Balanced (deleteMembers doomed now tables) := by
  unfold deleteMembers
  exact balanced_deleteWorkspaces _ now nonNegative balanced

theorem balanced_deleteOrganization (organizationId : String) (now : Int)
    (nonNegative : NonNegative tables.workspaces) (balanced : Balanced tables) :
    Balanced (deleteOrganizationRow organizationId now tables) := by
  unfold deleteOrganizationRow
  refine balanced_deleteWorkspaces _ now ?_ (balanced_deleteMembers _ now nonNegative balanced)
  exact fun workspace member => nonNegative workspace (List.mem_filter.mp member).1

/-- Writes to other columns of the hosts keep the balance. -/
theorem balanced_updateHosts {selected : WorkerHostRow → Bool} {change : WorkerHostRow → WorkerHostRow}
    (balanced : Balanced tables)
    (hosts : after.workerHosts = updateWhere selected change tables.workerHosts)
    (workspaces : after.workspaces = tables.workspaces)
    (sameId : ∀ host, (change host).id = host.id)
    (sameReserved : ∀ host, (change host).reserved = host.reserved) : Balanced after := by
  intro host member resource
  rw [hosts] at member
  rw [workspaces]
  obtain ⟨before, beforeMember, rfl⟩ := mem_updateWhere.mp member
  split
  · rw [sameId, sameReserved]
    exact balanced before beforeMember resource
  · exact balanced before beforeMember resource

/-- So do writes to the workspaces that leave assignments and reservations alone. -/
theorem balanced_workspaces (balanced : Balanced tables)
    (hosts : after.workerHosts = tables.workerHosts)
    (same : ∀ resource hostId,
      reservedOn resource after.workspaces hostId = reservedOn resource tables.workspaces hostId) :
    Balanced after := by
  intro host member resource
  rw [hosts] at member
  rw [same]
  exact balanced host member resource

variable {database : CloudDatabase}

/-- A new host starts at zero, and no workspace is assigned to it yet. -/
theorem balanced_upsertHost {excluded : WorkerHostRow} (unreserved : excluded.reserved = Resources.zero)
    (balanced : Balanced database.tables) : Balanced (upsertHost excluded database.tables) := by
  unfold upsertHost
  by_cases known : excluded.id ∈ database.tables.workerHosts.map (·.id)
  · rw [if_pos known]
    exact balanced_updateHosts balanced rfl rfl (fun _ => rfl) (fun _ => rfl)
  · rw [if_neg known]
    intro host member resource
    rcases List.mem_append.mp member with old | new
    · exact balanced host old resource
    · rw [List.mem_singleton.mp new, unreserved, Resources.amount_zero]
      refine (charged_eq_zero fun workspace workspaceMember onHost => known ?_).symm
      exact database.consistent .workspaceHost workspace workspaceMember excluded.id onHost

theorem balanced_assign {workspace : WorkspaceRow} {candidate : WorkerHostRow} {required : Resources}
    {now : Int} (member : workspace ∈ database.tables.workspaces)
    (candidateMember : candidate ∈ database.tables.workerHosts)
    (unassigned : workspace.workerHostId = none) (fits : candidate.Fits required)
    (balanced : Balanced database.tables) :
    Balanced (assignHost workspace.id candidate.id required now
      (reserveHost candidate.id required now database.tables)) := by
  have distinctHosts : (database.tables.workerHosts.map (·.id)).Nodup := database.consistent .hostId
  have distinctWorkspaces : (database.tables.workspaces.map (·.id)).Nodup :=
    database.consistent .workspaceId
  -- The guards of both statements hold of the rows they name.
  have selected : updateWhere
      (fun row => row.id = workspace.id && row.workerHostId = none)
      (fun row => { row with
        workerHostId := some candidate.id, reserved := required, updatedAt := now })
      database.tables.workspaces =
      updateWhere (fun row => row.id = workspace.id)
        (fun row => { row with
          workerHostId := some candidate.id, reserved := required, updatedAt := now })
        database.tables.workspaces := by
    apply List.map_congr_left
    intro row rowMember
    by_cases same : row.id = workspace.id
    · simp [eq_of_key distinctWorkspaces rowMember member same, unassigned]
    · simp [same]
  have moved (resource : Resource) (hostId : String) :
      reservedOn resource (assignHost workspace.id candidate.id required now
        (reserveHost candidate.id required now database.tables)).workspaces hostId =
        reservedOn resource database.tables.workspaces hostId +
          if candidate.id = hostId then required.amount resource else 0 := by
    unfold assignHost reserveHost reservedOn
    simp only []
    rw [selected]
    exact charged_assign distinctWorkspaces member unassigned rfl
  intro host hostMember resource
  obtain ⟨before, beforeMember, rfl⟩ := mem_updateWhere.mp hostMember
  have total := balanced before beforeMember resource
  rw [moved]
  by_cases chosen : before.id = candidate.id
  · have same := eq_of_key distinctHosts beforeMember candidateMember chosen
    subst same
    simp [fits, total]
  · have other : ¬ candidate.id = before.id := fun same => chosen same.symm
    simp [chosen, other, total]

end Preservation

/-! ## The system -/

inductive CapacityEvent
  | upsert (input : RegisterWorkerHostInput)
  | setScheduling (input : SetWorkerHostSchedulingInput)
  | recordHealth (input : RecordWorkerHealthInput)
  | ensure (options : EnsurePersonalWorkspaceOptions)
  | assign (options : AssignWorkspaceWorkerOptions)
  | schedule (workspaceId createJobId : String) (now : Int)
  | claim (options : ClaimProvisioningJobOptions)
  | finish (options : FinishProvisioningJobOptions)
  | deleteWorkspace (workspaceId : String) (now : Int)
  | deleteMember (memberId : String) (now : Int)
  | deleteOrganization (organizationId : String) (now : Int)
deriving DecidableEq, Repr

section System

variable {Load : Type} [LinearOrder Load] (urlProtocol : String → Option String)
  (quotient : Int → Int → Load)

/-- A run starts without hosts and workspaces, with any identity tables. -/
def capacity : System CloudDatabase CapacityEvent where
  Initial database := database.tables.workerHosts = [] ∧ database.tables.workspaces = []
  Enabled _ _ := True
  step database
    | .upsert input => (commit database (upsertWorkerHost urlProtocol database input)).1
    | .setScheduling input => (commit database (setWorkerHostScheduling database input)).1
    | .recordHealth input => (commit database (recordWorkerHealth database input)).1
    | .ensure options => (commit database (ensurePersonalWorkspace database options)).1
    | .assign options => (commit database (assignWorkspaceWorker quotient database options)).1
    | .schedule workspaceId createJobId now =>
        (commit database (scheduleWorkspace database workspaceId createJobId now)).1
    | .claim options => (commit database (claimProvisioningJob database options)).1
    | .finish options => (commit database (finishProvisioningJob database options)).1
    | .deleteWorkspace workspaceId now =>
        autocommit database (deleteWorkspace database workspaceId now)
    | .deleteMember memberId now => autocommit database (deleteMember database memberId now)
    | .deleteOrganization organizationId now =>
        autocommit database (deleteOrganization database organizationId now)

variable {urlProtocol quotient} {database after : CloudDatabase}

theorem balanced_ensured {options : EnsurePersonalWorkspaceOptions} {workspace : WorkspaceRow}
    (balanced : Balanced database.tables)
    (ensured : ensurePersonalWorkspace database options = .ok (after, workspace)) :
    Balanced after.tables := by
  obtain ⟨rfl, _⟩ | ⟨memberId, rfl, written⟩ := ensurePersonalWorkspace_ok ensured
  · exact balanced
  · rw [written]
    refine balanced_workspaces balanced rfl fun resource hostId => ?_
    have unassigned : charged (·.workerHostId) (·.reserved.amount resource)
        [personalWorkspace options memberId] hostId = 0 :=
      charged_eq_zero fun workspace member => by simp [List.mem_singleton.mp member, personalWorkspace]
    unfold reservedOn
    rw [charged_append, unassigned, Int.add_zero]

theorem balanced_scheduled {workspaceId createJobId : String} {now : Int} {workspace : WorkspaceRow}
    {job : ProvisioningJobRow} (balanced : Balanced database.tables)
    (scheduled : scheduleWorkspace database workspaceId createJobId now =
      .ok (after, workspace, job)) : Balanced after.tables := by
  obtain ⟨jobs, written, _⟩ := scheduleWorkspace_ok scheduled
  rw [written]
  refine balanced_workspaces balanced rfl fun resource hostId => ?_
  exact reservedOn_updateWhere (fun _ => rfl) (fun _ => rfl)

theorem balanced_finished {options : FinishProvisioningJobOptions} {job : ProvisioningJobRow}
    (balanced : Balanced database.tables)
    (finished : finishProvisioningJob database options = .ok (after, job)) :
    Balanced after.tables := by
  obtain ⟨current, _, _, _, _, _, written⟩ := finishProvisioningJob_ok finished
  rw [written]
  refine balanced_workspaces balanced rfl fun resource hostId => ?_
  unfold finishedWorkspaces
  split
  · rfl
  · exact reservedOn_updateWhere (fun _ => rfl) (fun _ => rfl)

theorem balanced_claimed {options : ClaimProvisioningJobOptions} {job : Option ProvisioningJobRow}
    (balanced : Balanced database.tables)
    (claimed : claimProvisioningJob database options = .ok (after, job)) :
    Balanced after.tables := by
  obtain ⟨_, rfl⟩ | ⟨_, _, _, _, written⟩ := claimProvisioningJob_ok claimed
  · exact balanced
  · rw [written]
    exact balanced

/-- A transaction that throws leaves the balance as it was. -/
theorem balanced_commit {Value : Type} {body : Except Failure (CloudDatabase × Value)}
    (balanced : Balanced database.tables)
    (kept : ∀ after value, body = .ok (after, value) → Balanced after.tables) :
    Balanced (commit database body).1.tables := by
  cases body with
  | error failure => exact balanced
  | ok result => exact kept result.1 result.2 rfl

theorem balanced_autocommit {write : Tables → Tables} (balanced : Balanced database.tables)
    (kept : Balanced (write database.tables)) :
    Balanced (autocommit database (statement database write)).tables := by
  cases executed : statement database write with
  | error failure => exact balanced
  | ok after =>
      rw [autocommit, Store.execute_ok.mp executed]
      exact kept

theorem balanced_step (event : CapacityEvent) (balanced : Balanced database.tables) :
    Balanced ((capacity urlProtocol quotient).step database event).tables := by
  have reservations := nonNegative database
  cases event with
  | upsert input =>
      simp only [capacity]
      refine balanced_commit balanced fun after host upserted => ?_
      obtain ⟨excluded, unreserved, written⟩ := upsertWorkerHost_ok upserted
      rw [written]
      exact balanced_upsertHost unreserved balanced
  | setScheduling input =>
      refine balanced_commit balanced fun after host scheduled => ?_
      rw [setWorkerHostScheduling_ok scheduled]
      exact balanced_updateHosts balanced rfl rfl (fun _ => rfl) (fun _ => rfl)
  | recordHealth input =>
      refine balanced_commit balanced fun after host recorded => ?_
      obtain ⟨samples, sequence, written⟩ := recordWorkerHealth_ok recorded
      rw [written]
      exact balanced_updateHosts balanced rfl rfl (fun _ => rfl) (fun _ => rfl)
  | ensure options => exact balanced_commit balanced fun _ _ => balanced_ensured balanced
  | assign options =>
      simp only [capacity]
      refine balanced_commit balanced fun after assignment placed => ?_
      obtain rfl | ⟨workspace, member, candidate, candidateMember, required, unassigned, fits, written⟩ :=
        assignWorkspaceWorker_ok placed
      · exact balanced
      · rw [written]
        exact balanced_assign member candidateMember unassigned fits balanced
  | schedule workspaceId createJobId now =>
      exact balanced_commit balanced fun _ _ => balanced_scheduled balanced
  | claim options =>
      simp only [capacity]
      exact balanced_commit balanced fun _ _ => balanced_claimed balanced
  | finish options => exact balanced_commit balanced fun _ _ => balanced_finished balanced
  | deleteWorkspace workspaceId now =>
      exact balanced_autocommit balanced (balanced_deleteWorkspaces _ now reservations balanced)
  | deleteMember memberId now =>
      exact balanced_autocommit balanced (balanced_deleteMembers _ now reservations balanced)
  | deleteOrganization organizationId now =>
      exact balanced_autocommit balanced
        (balanced_deleteOrganization organizationId now reservations balanced)

theorem balanced_reachable (reachable : (capacity urlProtocol quotient).Reachable database) :
    Balanced database.tables := by
  have initial (first : CloudDatabase) (start : (capacity urlProtocol quotient).Initial first) :
      Balanced first.tables := by
    intro host member
    rw [start.1] at member
    contradiction
  exact reachable.invariant (fun database => Balanced database.tables) initial
    (fun _ event _ balanced => balanced_step event balanced)

/-- Capacity is conserved: each counter is the sum of the reservations on its
host, stays within the capacity, and covers whatever a deletion releases. -/
structure CapacityConserved (database : CloudDatabase) : Prop where
  reserved : ∀ host ∈ database.tables.workerHosts, ∀ resource,
    host.reserved.amount resource =
      ((database.tables.workspaces.filter fun workspace =>
        workspace.workerHostId = some host.id).map fun workspace =>
          workspace.reserved.amount resource).sum
  bounded : ∀ host ∈ database.tables.workerHosts, ∀ resource,
    0 ≤ host.reserved.amount resource ∧ host.reserved.amount resource ≤ host.total.amount resource
  unclipped : ∀ now deleted, deleted.Subperm database.tables.workspaces →
    releaseReservations now deleted database.tables.workerHosts =
      database.tables.workerHosts.map fun host => deleted.foldl (releasedExactly now) host

theorem capacityConserved_of_reachable
    (reachable : (capacity urlProtocol quotient).Reachable database) : CapacityConserved database := by
  have balanced := balanced_reachable reachable
  have reservations := nonNegative database
  refine ⟨?_, ?_, ?_⟩
  · intro host member resource
    exact (balanced host member resource).trans charged_eq_sum_filter
  · intro host member resource
    have checks : host.Checks := database.consistent .hostChecks host member
    have floor := Resources.both_iff.mp checks.1 resource
    exact ⟨by simpa using floor, Resources.both_iff.mp checks.2 resource⟩
  · intro now deleted some
    have deletedReservations : NonNegative deleted :=
      fun workspace member => reservations workspace (some.subset member)
    rw [releaseReservations_eq_map]
    apply List.map_congr_left
    intro host member
    refine foldl_released_exact now deletedReservations fun resource => ?_
    rw [balanced host member resource]
    exact charged_le_of_subperm some fun workspace member => reservations workspace member resource

end System

section Sample

set_option maxRecDepth 4000 in
/-- Two members of one organization. -/
def team : CloudDatabase :=
  Store.load
    { Tables.empty with
      organizations := [⟨"acme"⟩]
      members := [⟨"m1", "ada", "acme", "owner"⟩, ⟨"m2", "bob", "acme", "member"⟩] }
    (by decide)

def registerHost : RegisterWorkerHostInput where
  id := "host-1"
  name := "host-1"
  provider := "static"
  region := "eu"
  baseURL := "https://host-1.test/"
  credentialKeyId := "key"
  total := ⟨4096, 4000, 8192, 2⟩
  enabled := none
  schedulable := none
  now := 10

def reportHealthy : RecordWorkerHealthInput where
  workerHostId := "host-1"
  state := .healthy
  errorCode := none
  heartbeatObserved := none
  capacity := none
  now := 20

def openFor (userId workspaceId : String) : EnsurePersonalWorkspaceOptions where
  userId := userId
  organizationId := "acme"
  createId := workspaceId
  now := 30

def placeOn (workspaceId : String) : AssignWorkspaceWorkerOptions where
  workspaceId := workspaceId
  requirements := ⟨1024, 500, 2048, none⟩
  heartbeatMaxAgeMs := 30000
  now := 40

def twoPlacements : List CapacityEvent :=
  [.upsert registerHost, .recordHealth reportHealthy, .ensure (openFor "ada" "w1"),
    .ensure (openFor "bob" "w2"), .assign (placeOn "w1"), .assign (placeOn "w2"), .deleteMember "m2" 50]

/-- The scheme before the first colon, enough for the addresses of this run. -/
def schemeOf (text : String) : Option String :=
  some (String.ofList (text.toList.takeWhile (· ≠ ':') ++ [':']))

def exactQuotient (reserved total : Int) : Rat := reserved / total

theorem capacityConserved_twoPlacements :
    (((capacity schemeOf exactQuotient).run team twoPlacements).tables.workerHosts.map (·.reserved) =
        [⟨1024, 500, 2048, 1⟩]) ∧
      CapacityConserved ((capacity schemeOf exactQuotient).run team twoPlacements) := by
  have start : (capacity schemeOf exactQuotient).Reachable team := .initial ⟨rfl, rfl⟩
  refine ⟨by decide +kernel, capacityConserved_of_reachable (start.run ?_)⟩
  exact ⟨trivial, trivial, trivial, trivial, trivial, trivial, trivial, trivial⟩

end Sample

end NebulaCloud.Capacity
