import NebulaCloud.Capacity.StickyDrain
import Mathlib.Algebra.Field.Rat

namespace NebulaCloud.Capacity

open NebulaCloud.Data NebulaCloud.Database NebulaCloud.Platform

/-! # Where a workspace is placed

A workspace goes to the host that is used least of those that have room for it, and stays
there.  Utilisation is compared exactly. -/

/-- Used of what there is, nothing of nothing being nothing. -/
def ratio (host : WorkerHostRow) (resource : Resource) : ℚ :=
  host.reserved.amount resource / host.total.amount resource

/-- Hosts are compared by their slots, then memory, cpu and disk, and last by identifier. -/
def utilisation (host : WorkerHostRow) : ℚ ×ₗ ℚ ×ₗ ℚ ×ₗ ℚ ×ₗ String :=
  toLex (ratio host .workspaceSlots, toLex (ratio host .memoryBytes, toLex (ratio host .cpuMillis,
    toLex (ratio host .diskBytes, host.id))))

def requiredResources (options : AssignWorkspaceWorkerOptions) : Resources where
  memoryBytes := options.requirements.memoryBytes
  cpuMillis := options.requirements.cpuMillis
  diskBytes := options.requirements.diskBytes
  workspaceSlots := options.requirements.workspaceSlots.getD 1

/-- What may be asked for. -/
structure ValidRequirements (options : AssignWorkspaceWorkerOptions) : Prop where
  resources : ∀ resource, IsNonNegativeSafeInteger ((requiredResources options).amount resource)
  slots : (requiredResources options).workspaceSlots ≠ 0
  age : 0 ≤ options.heartbeatMaxAgeMs

/-- The host may be given the workspace. -/
def Eligible (options : AssignWorkspaceWorkerOptions) (host : WorkerHostRow) : Prop :=
  host.IsCandidate (options.now - options.heartbeatMaxAgeMs) (requiredResources options)

/-- The host with the workspace's share added to what is reserved. -/
def reservedHost (options : AssignWorkspaceWorkerOptions) (host : WorkerHostRow) : WorkerHostRow :=
  { host with
    reserved := host.reserved.zipWith (· + ·) (requiredResources options)
    updatedAt := options.now }

def assignedWorkspace (options : AssignWorkspaceWorkerOptions) (hostId : String) (workspace : WorkspaceRow) :
    WorkspaceRow :=
  { workspace with
    workerHostId := some hostId
    reserved := requiredResources options
    updatedAt := options.now }

/-- The tables with one row of each kind changed and all else as before. -/
def placedTables (options : AssignWorkspaceWorkerOptions) (hostId : String) (tables : Tables) : Tables :=
  { tables with
    workerHosts := updateWhere (fun host => host.id = hostId) (reservedHost options) tables.workerHosts
    workspaces := updateWhere (fun workspace => workspace.id = options.workspaceId)
      (assignedWorkspace options hostId) tables.workspaces }

section Placement

variable {database : CloudDatabase} {options : AssignWorkspaceWorkerOptions} {workspace : WorkspaceRow}
  {host candidate : WorkerHostRow}

theorem loadOrder_exactQuotient (host : WorkerHostRow) : loadOrder exactQuotient host = utilisation host := by
  have load (resource : Resource) : (if host.total.amount resource = 0 then exactQuotient 0 1
      else exactQuotient (host.reserved.amount resource) (host.total.amount resource)) = ratio host resource := by
    split
    · rename_i nothing
      simp [exactQuotient, ratio, nothing]
    · rfl
  simp only [loadOrder, load]
  rfl

theorem nonNegativeResources_accepts {resources : Resources} (memory cpu disk slots : String)
    (valid : ∀ resource, IsNonNegativeSafeInteger (resources.amount resource)) :
    nonNegativeResources resources memory cpu disk slots = .ok resources := by
  have checked (field : String) (resource : Resource) :
      nonNegativeInteger (resources.amount resource) field = .ok (resources.amount resource) :=
    nonNegativeInteger_eq_ok.mpr ⟨valid resource, rfl⟩
  exact bind_ok.mpr ⟨_, checked memory .memoryBytes, bind_ok.mpr ⟨_, checked cpu .cpuMillis,
    bind_ok.mpr ⟨_, checked disk .diskBytes, bind_ok.mpr ⟨_, checked slots .workspaceSlots, rfl⟩⟩⟩⟩

theorem lookup_workspace (existing : workspace ∈ database.tables.workspaces)
    (asked : workspace.id = options.workspaceId) :
    lookup (·.id) database.tables.workspaces options.workspaceId = some workspace := by
  rw [← asked]
  exact lookup_of_mem (database.consistent .workspaceId) existing

/-- A valid request comes as far as the workspace. -/
theorem assign_valid (valid : ValidRequirements options) (existing : workspace ∈ database.tables.workspaces)
    (asked : workspace.id = options.workspaceId) :
    assignWorkspaceWorker exactQuotient database options =
      match workspace.workerHostId.filter (· ≠ "") with
      | some hostId =>
          match getWorkerHost database hostId with
          | none => .error (.error "Assigned worker host was not found")
          | some workerHost => .ok (database, { workspace, workerHost })
      | none => placeWorkspace exactQuotient database workspace (requiredResources options)
          options.heartbeatMaxAgeMs options.now := by
  have accepted := nonNegativeResources_accepts "memoryBytes" "cpuMillis" "diskBytes" "workspaceSlots" valid.resources
  have age : ¬ options.heartbeatMaxAgeMs < 0 := Int.not_lt.mpr valid.age
  have found := @lookup_workspace database options workspace existing asked
  unfold requiredResources at accepted
  have slots := valid.slots
  unfold requiredResources at slots
  simp only [assignWorkspaceWorker, accepted, bind, Except.bind, if_neg slots, if_neg age, found]
  rfl

/-- An assigned workspace stays where it is, whatever is asked and however its host does. -/
theorem assign_sticky (named : HostIds database.tables) (valid : ValidRequirements options)
    (existing : workspace ∈ database.tables.workspaces) (asked : workspace.id = options.workspaceId) {hostId : String}
    (assigned : workspace.workerHostId = some hostId) :
    ∃ host ∈ database.tables.workerHosts, host.id = hostId ∧
      assignWorkspaceWorker exactQuotient database options = .ok (database, ⟨workspace, host⟩) := by
  have stored : hostId ∈ database.tables.workerHosts.map (·.id) :=
    database.consistent .workspaceHost workspace existing hostId assigned
  obtain ⟨host, member, same⟩ := List.mem_map.mp stored
  have named : hostId ≠ "" := same ▸ (named host member).2
  have kept : workspace.workerHostId.filter (· ≠ "") = some hostId := by simp [assigned, named]
  have found : getWorkerHost database hostId = some host := by
    rw [← same]
    exact lookup_of_mem (database.consistent .hostId) member
  refine ⟨host, member, same, ?_⟩
  rw [assign_valid valid existing asked, kept]
  simp only [found]

/-! ## The two statements of a placement -/

theorem reserveHost_eq (member : candidate ∈ database.tables.workerHosts)
    (fits : candidate.Fits (requiredResources options)) :
    reserveHost candidate.id (requiredResources options) options.now database.tables =
      { database.tables with
        workerHosts := updateWhere (fun host => host.id = candidate.id) (reservedHost options)
          database.tables.workerHosts } := by
  have distinct : (database.tables.workerHosts.map (·.id)).Nodup := database.consistent .hostId
  have hosts : updateWhere (fun host => host.id = candidate.id && host.Fits (requiredResources options))
      (reservedHost options) database.tables.workerHosts =
        updateWhere (fun host => host.id = candidate.id) (reservedHost options) database.tables.workerHosts := by
    refine List.map_congr_left fun host isHost => ?_
    by_cases same : host.id = candidate.id
    · obtain rfl := eq_of_key distinct isHost member same
      simp [fits]
    · simp [same]
  exact congrArg (fun workerHosts => { database.tables with workerHosts }) hosts

theorem assignHost_eq (tables : Tables) (existing : workspace ∈ tables.workspaces)
    (distinct : (tables.workspaces.map (·.id)).Nodup) (asked : workspace.id = options.workspaceId)
    (unassigned : workspace.workerHostId = none) (hostId : String) :
    assignHost workspace.id hostId (requiredResources options) options.now tables =
      { tables with
        workspaces := updateWhere (fun workspace => workspace.id = options.workspaceId)
          (assignedWorkspace options hostId) tables.workspaces } := by
  have workspaces : updateWhere (fun row => row.id = workspace.id && row.workerHostId = none)
      (assignedWorkspace options hostId) tables.workspaces =
        updateWhere (fun row => row.id = options.workspaceId) (assignedWorkspace options hostId) tables.workspaces := by
    rw [← asked]
    refine List.map_congr_left fun row isRow => ?_
    by_cases same : row.id = workspace.id
    · obtain rfl := eq_of_key distinct isRow existing same
      simp [unassigned]
    · simp [same]
  exact congrArg (fun workspaces => { tables with workspaces }) workspaces

/-- A host that has room can be charged with the workspace. -/
theorem reserveHost_consistent (valid : ValidRequirements options) (hostId : String) :
    schema.Consistent (reserveHost hostId (requiredResources options) options.now database.tables) := by
  refine consistent_of_hostChange database (fun _ => rfl) (fun _ => rfl) (fun _ => rfl) fun host chosen checked => ?_
  simp only [Bool.and_eq_true, decide_eq_true_eq] at chosen
  have room := Resources.both_iff.mp chosen.2
  have lower := Resources.both_iff.mp checked.1
  refine ⟨Resources.both_iff.mpr fun resource => ?_, Resources.both_iff.mpr fun resource => ?_⟩
  · have asked := (valid.resources resource).1
    have reserved := lower resource
    simp only [Resources.amount_zero, Resources.amount_zipWith] at reserved ⊢
    omega
  · have fits := room resource
    simp only [Resources.amount_zipWith] at fits ⊢
    omega

theorem assignHost_consistent (valid : ValidRequirements options) (workspaceId : String) {hostId : String}
    (stored : hostId ∈ database.tables.workerHosts.map (·.id)) :
    schema.Consistent (assignHost workspaceId hostId (requiredResources options) options.now database.tables) := by
  have workers : (updateWhere (fun workspace => workspace.id = workspaceId && workspace.workerHostId = none)
      (assignedWorkspace options hostId) database.tables.workspaces).filterMap (·.workerWorkspaceId) =
        database.tables.workspaces.filterMap (·.workerWorkspaceId) := by
    rw [updateWhere, List.filterMap_map]
    refine List.filterMap_congr fun row _ => ?_
    simp only [Function.comp_apply]
    split <;> rfl
  refine consistent_of_workspaceChange database (fun _ => rfl) (fun _ => rfl) (fun _ => rfl) ?_ ?_ ?_
  · exact (congrArg List.Nodup workers).mpr (database.consistent .workspaceWorkerWorkspace)
  · intro row _ other isHost
    rw [← Option.some.inj isHost]
    exact stored
  · intro row _
    refine Resources.both_iff.mpr fun resource => ?_
    simpa using (valid.resources resource).1

theorem candidate_eligible {required : Resources} {heartbeatAfter : Int}
    (found : findCandidate exactQuotient database.tables heartbeatAfter required = some candidate) :
    candidate ∈ database.tables.workerHosts ∧ candidate.IsCandidate heartbeatAfter required ∧
      ∀ host ∈ database.tables.workerHosts, host.IsCandidate heartbeatAfter required →
        utilisation candidate ≤ utilisation host := by
  obtain ⟨member, eligible⟩ := List.mem_filter.mp (List.argmin_mem found)
  refine ⟨member, of_decide_eq_true eligible, fun host isHost isEligible => ?_⟩
  have least := List.le_of_mem_argmin (List.mem_filter.mpr ⟨isHost, decide_eq_true isEligible⟩) found
  rwa [loadOrder_exactQuotient, loadOrder_exactQuotient] at least

theorem candidate_none {required : Resources} {heartbeatAfter : Int} :
    findCandidate exactQuotient database.tables heartbeatAfter required = none ↔
      ∀ host ∈ database.tables.workerHosts, ¬ host.IsCandidate heartbeatAfter required := by
  simp [findCandidate, List.argmin_eq_none, List.filter_eq_nil_iff]

/-- A candidate that has been found gets the workspace. -/
theorem placeWorkspace_accepts (valid : ValidRequirements options)
    (existing : workspace ∈ database.tables.workspaces) (asked : workspace.id = options.workspaceId)
    (unassigned : workspace.workerHostId = none)
    (found : findCandidate exactQuotient database.tables (options.now - options.heartbeatMaxAgeMs)
      (requiredResources options) = some candidate) :
    ∃ after, after.tables = placedTables options candidate.id database.tables ∧
      placeWorkspace exactQuotient database workspace (requiredResources options) options.heartbeatMaxAgeMs
        options.now =
          .ok (after, ⟨assignedWorkspace options candidate.id workspace, reservedHost options candidate⟩) := by
  obtain ⟨member, eligible, -⟩ := candidate_eligible found
  have fits : candidate.Fits (requiredResources options) := eligible.2.2.2.2
  let reserved : CloudDatabase := ⟨_, @reserveHost_consistent database options valid candidate.id⟩
  have hosts : reserved.tables = _ := reserveHost_eq member fits
  have stored : candidate.id ∈ reserved.tables.workerHosts.map (·.id) := by
    have ids : reserved.tables.workerHosts.map (·.id) = database.tables.workerHosts.map (·.id) :=
      map_updateWhere fun _ => rfl
    rw [ids]
    exact List.mem_map_of_mem member
  let assigned : CloudDatabase := ⟨_, @assignHost_consistent reserved options valid workspace.id candidate.id stored⟩
  have tables : assigned.tables = placedTables options candidate.id database.tables := by
    have kept : workspace ∈ reserved.tables.workspaces := existing
    have written := assignHost_eq reserved.tables kept (reserved.consistent .workspaceId) asked unassigned candidate.id
    refine written.trans ?_
    rw [hosts]
    rfl
  have reread : lookup (·.id) assigned.tables.workspaces workspace.id =
      some (assignedWorkspace options candidate.id workspace) := by
    rw [tables, asked]
    exact lookup_updateWhere_self (fun _ => rfl) (lookup_workspace existing asked)
  have rereadHost : getWorkerHost assigned candidate.id = some (reservedHost options candidate) := by
    rw [getWorkerHost, tables]
    exact lookup_updateWhere_self (fun _ => rfl) (lookup_of_mem (database.consistent .hostId) member)
  refine ⟨assigned, tables, ?_⟩
  unfold placeWorkspace
  simp only [found, fits, not_true_eq_false, if_false, unassigned, ne_eq]
  refine bind_ok.mpr ⟨reserved, Store.execute_of_consistent reserved.consistent, ?_⟩
  refine bind_ok.mpr ⟨assigned, Store.execute_of_consistent assigned.consistent, ?_⟩
  simp only [reread, rereadHost]

/-- Placement is optimal and changes two rows.  The hosts are registered under identifiers,
as they are in every reachable state. -/
theorem placement_optimal (named : HostIds database.tables) (valid : ValidRequirements options)
    (existing : workspace ∈ database.tables.workspaces) (asked : workspace.id = options.workspaceId) :
    let outcome := assignWorkspaceWorker exactQuotient database options
    (∀ hostId, workspace.workerHostId = some hostId →
      ∃ host ∈ database.tables.workerHosts, host.id = hostId ∧ outcome = .ok (database, ⟨workspace, host⟩)) ∧
    (workspace.workerHostId = none →
      ((∃ failure, outcome = .error failure) ↔ ∀ host ∈ database.tables.workerHosts, ¬ Eligible options host) ∧
      (∀ failure, outcome = .error failure → (commit database outcome).1 = database) ∧
      ∀ after assignment, outcome = .ok (after, assignment) →
        ∃ chosen ∈ database.tables.workerHosts, Eligible options chosen ∧
          (∀ host ∈ database.tables.workerHosts, Eligible options host → utilisation chosen ≤ utilisation host) ∧
          after.tables = placedTables options chosen.id database.tables ∧
          assignment = ⟨assignedWorkspace options chosen.id workspace, reservedHost options chosen⟩) := by
  intro outcome
  refine ⟨fun hostId assigned => assign_sticky named valid existing asked assigned, fun unassigned => ?_⟩
  have placed : outcome = placeWorkspace exactQuotient database workspace (requiredResources options)
      options.heartbeatMaxAgeMs options.now := by
    have nowhere : workspace.workerHostId.filter (· ≠ "") = none := by simp [unassigned]
    have direct := assign_valid valid existing asked
    rwa [nowhere] at direct
  cases found : findCandidate exactQuotient database.tables (options.now - options.heartbeatMaxAgeMs)
      (requiredResources options) with
  | none =>
      have full := candidate_none.mp found
      have failed : outcome = .error .workerPlacementUnavailable := by
        rw [placed, placeWorkspace, found]
      rw [failed]
      refine ⟨⟨fun _ => full, fun _ => ⟨_, rfl⟩⟩, fun _ _ => rfl, ?_⟩
      intro after assignment accepted
      cases accepted
  | some candidate =>
      obtain ⟨after, tables, accepted⟩ := placeWorkspace_accepts valid existing asked unassigned found
      obtain ⟨member, eligible, least⟩ := candidate_eligible found
      rw [placed, accepted]
      refine ⟨⟨fun failed => ?_, fun full => absurd eligible (full candidate member)⟩, ?_, ?_⟩
      · obtain ⟨failure, failed⟩ := failed
        cases failed
      · intro failure failed
        cases failed
      · intro written assignment result
        cases result
        exact ⟨candidate, member, eligible, least, tables, rfl⟩

end Placement

section Sample

/-- The healthy host of the run has room for the workspace, which is therefore placed. -/
theorem placement_optimal_inService :
    ¬ ∃ failure, assignWorkspaceWorker exactQuotient inService (placeOn "w1") = .error failure := by
  have valid : ValidRequirements (placeOn "w1") := by
    refine ⟨fun resource => ?_, by decide, by decide⟩
    cases resource <;> decide
  have existing : personalWorkspace (openFor "ada" "w1") "m1" ∈ inService.tables.workspaces := by decide +kernel
  have placed := (placement_optimal (hostIds_reachable inService_reachable) valid existing rfl).2 rfl
  have room : ∃ host ∈ inService.tables.workerHosts, host.IsCandidate (40 - 30000) ⟨1024, 500, 2048, 1⟩ := by
    decide +kernel
  obtain ⟨host, member, eligible⟩ := room
  exact fun failed => placed.1.mp failed host member eligible

end Sample

end NebulaCloud.Capacity
