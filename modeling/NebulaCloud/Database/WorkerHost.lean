import NebulaCloud.Database.Workspace
import Mathlib.Data.List.MinMax
import Mathlib.Data.List.Sort
import Mathlib.Data.Prod.Lex

namespace NebulaCloud.Database

open NebulaCloud.Data NebulaCloud.Platform

/-! # Worker hosts

The registry of worker hosts and the placement of workspaces on them. -/

def nonNegativeInteger (value : Int) (field : String) : Except Failure Int :=
  if IsNonNegativeSafeInteger value then .ok value
  else .error (.error (field ++ " must be a non-negative safe integer"))

def requiredWorkerText (value field : String) (maximum : Nat) : Except Failure String :=
  if trim value = "" then .error (.error (field ++ " is required"))
  else if maximum < utf16Length (trim value) then .error (.error (field ++ " is too long"))
  else .ok (trim value)

/-- Validate the four capacities in the order of their fields. -/
def nonNegativeResources (resources : Resources) (memoryBytes cpuMillis diskBytes workspaceSlots : String) :
    Except Failure Resources := do
  let memoryBytes ← nonNegativeInteger resources.memoryBytes memoryBytes
  let cpuMillis ← nonNegativeInteger resources.cpuMillis cpuMillis
  let diskBytes ← nonNegativeInteger resources.diskBytes diskBytes
  let workspaceSlots ← nonNegativeInteger resources.workspaceSlots workspaceSlots
  .ok { memoryBytes, cpuMillis, diskBytes, workspaceSlots }

/-! ## Registration -/

structure RegisterWorkerHostInput where
  id : String
  name : String
  provider : String
  region : String
  baseURL : String
  credentialKeyId : String
  total : Resources
  enabled : Option Bool
  schedulable : Option Bool
  now : Int
deriving DecidableEq, Repr

/-- `text.replace(/\/$/, '')`. -/
def withoutTrailingSlash (text : String) : String :=
  if text.toList.getLast? = some '/' then String.ofList text.toList.dropLast else text

def getWorkerHost (database : CloudDatabase) (workerHostId : String) : Option WorkerHostRow :=
  lookup (·.id) database.tables.workerHosts workerHostId

/-- The row that `upsertWorkerHost` inserts when its identifier is new. -/
def registeredHost (input : RegisterWorkerHostInput)
    (id name provider region baseURL credentialKeyId : String) (total : Resources) :
    WorkerHostRow where
  id := id
  name := name
  provider := provider
  region := region
  baseURL := baseURL
  credentialKeyId := credentialKeyId
  enabled := input.enabled ≠ some false
  schedulable := input.schedulable ≠ some false
  state := .unknown
  total := total
  reserved := Resources.zero
  lastHeartbeatAt := none
  lastErrorCode := none
  createdAt := input.now
  updatedAt := input.now

/-- The checks of `upsertWorkerHost`.  `urlProtocol` is `new URL(text).protocol`
of the platform, `none` when the constructor throws. -/
def checkedHost (urlProtocol : String → Option String) (database : CloudDatabase)
    (input : RegisterWorkerHostInput) : Except Failure WorkerHostRow := do
  let id ← requiredWorkerText input.id "id" 128
  let name ← requiredWorkerText input.name "name" 128
  let provider ← requiredWorkerText input.provider "provider" 64
  let region ← requiredWorkerText input.region "region" 64
  let baseURL ← requiredWorkerText input.baseURL "baseURL" 512
  let baseURL := withoutTrailingSlash baseURL
  let credentialKeyId ← requiredWorkerText input.credentialKeyId "credentialKeyId" 128
  let total ← nonNegativeResources input.total
    "totalMemoryBytes" "totalCpuMillis" "totalDiskBytes" "totalWorkspaceSlots"
  if total.workspaceSlots = 0 then .error (.error "totalWorkspaceSlots must be positive")
  else if ∃ existing ∈ getWorkerHost database id, ¬ existing.reserved.Both (· ≤ ·) total then
    .error (.error "Worker capacity cannot be lower than its current reservations")
  else
    match urlProtocol baseURL with
    | none => .error (.error "baseURL must be an absolute URL")
    | some protocol =>
        if protocol = "http:" ∨ protocol = "https:" then
          .ok (registeredHost input id name provider region baseURL credentialKeyId total)
        else .error (.error "baseURL must use HTTP or HTTPS")

/-- `ON CONFLICT(id) DO UPDATE SET …`. -/
def WorkerHostRow.registered (host excluded : WorkerHostRow) : WorkerHostRow :=
  { host with
    name := excluded.name
    provider := excluded.provider
    region := excluded.region
    baseURL := excluded.baseURL
    credentialKeyId := excluded.credentialKeyId
    enabled := excluded.enabled
    schedulable := excluded.schedulable
    total := excluded.total
    updatedAt := excluded.updatedAt }

def upsertHost (excluded : WorkerHostRow) (tables : Tables) : Tables :=
  { tables with
    workerHosts :=
      if excluded.id ∈ tables.workerHosts.map (·.id) then
        updateWhere (fun host => host.id = excluded.id) (fun host => host.registered excluded)
          tables.workerHosts
      else tables.workerHosts ++ [excluded] }

def upsertWorkerHost (urlProtocol : String → Option String) (database : CloudDatabase)
    (input : RegisterWorkerHostInput) : Except Failure (CloudDatabase × WorkerHostRow) := do
  let excluded ← checkedHost urlProtocol database input
  let database ← statement database (upsertHost excluded)
  match getWorkerHost database excluded.id with
  | none => .error (.error "Worker host could not be resolved")
  | some host => .ok (database, host)

/-! ## Scheduling and health -/

structure SetWorkerHostSchedulingInput where
  workerHostId : String
  enabled : Option Bool
  schedulable : Option Bool
  state : Option WorkerHostState
  now : Int
deriving DecidableEq, Repr

def WorkerHostRow.rescheduled (host : WorkerHostRow) (input : SetWorkerHostSchedulingInput) :
    WorkerHostRow :=
  { host with
    enabled := input.enabled.getD host.enabled
    schedulable := input.schedulable.getD host.schedulable
    state := input.state.getD host.state
    updatedAt := input.now }

def setWorkerHostScheduling (database : CloudDatabase) (input : SetWorkerHostSchedulingInput) :
    Except Failure (CloudDatabase × WorkerHostRow) :=
  match getWorkerHost database input.workerHostId with
  | none => .error (.error "Worker host was not found")
  | some _ => do
      let database ← statement database fun tables =>
        { tables with
          workerHosts := updateWhere (fun host => host.id = input.workerHostId)
            (fun host => host.rescheduled input) tables.workerHosts }
      match getWorkerHost database input.workerHostId with
      | none => .error (.error "Worker host disappeared")
      | some host => .ok (database, host)

structure ReportedCapacity where
  total : Resources
  reserved : Resources
deriving DecidableEq, Repr

structure RecordWorkerHealthInput where
  workerHostId : String
  state : WorkerHealthState
  errorCode : Option String
  heartbeatObserved : Option Bool
  capacity : Option ReportedCapacity
  now : Int
deriving DecidableEq, Repr

/-- `input.errorCode?.trim().slice(0, 64) || null`. -/
def RecordWorkerHealthInput.storedErrorCode (input : RecordWorkerHealthInput) : Option String :=
  (input.errorCode.map fun code => slice (trim code) 64).filter (· ≠ "")

def WorkerHostRow.observed (host : WorkerHostRow) (input : RecordWorkerHealthInput) :
    WorkerHostRow :=
  { host with
    state := if host.state = .draining then host.state else input.state.toHostState
    lastHeartbeatAt :=
      if input.heartbeatObserved.getD true then some input.now else host.lastHeartbeatAt
    lastErrorCode := input.storedErrorCode
    updatedAt := input.now }

/-- Validate a reported capacity field by field, each total before its
reservation. -/
def checkedCapacity (capacity : ReportedCapacity) : Except Failure ReportedCapacity := do
  let totalMemoryBytes ← nonNegativeInteger capacity.total.memoryBytes "totalMemoryBytes"
  let reservedMemoryBytes ← nonNegativeInteger capacity.reserved.memoryBytes "reservedMemoryBytes"
  let totalCpuMillis ← nonNegativeInteger capacity.total.cpuMillis "totalCpuMillis"
  let reservedCpuMillis ← nonNegativeInteger capacity.reserved.cpuMillis "reservedCpuMillis"
  let totalDiskBytes ← nonNegativeInteger capacity.total.diskBytes "totalDiskBytes"
  let reservedDiskBytes ← nonNegativeInteger capacity.reserved.diskBytes "reservedDiskBytes"
  let totalWorkspaceSlots ← nonNegativeInteger capacity.total.workspaceSlots "totalWorkspaceSlots"
  let reservedWorkspaceSlots ←
    nonNegativeInteger capacity.reserved.workspaceSlots "reservedWorkspaceSlots"
  .ok
    { total := ⟨totalMemoryBytes, totalCpuMillis, totalDiskBytes, totalWorkspaceSlots⟩
      reserved := ⟨reservedMemoryBytes, reservedCpuMillis, reservedDiskBytes, reservedWorkspaceSlots⟩ }

def insertSample (input : RecordWorkerHealthInput) (host : WorkerHostRow)
    (reported : Option ReportedCapacity) (tables : Tables) : Tables :=
  { tables with
    workerHealthSampleSequence := tables.workerHealthSampleSequence + 1
    workerHealthSamples := tables.workerHealthSamples ++
      [{ id := tables.workerHealthSampleSequence + 1
         workerHostId := host.id
         observedAt := input.now
         state := input.state
         reserved := (reported.map (·.reserved)).getD host.reserved
         errorCode := input.storedErrorCode
         total := (reported.map (·.total)).getD host.total }] }

/-- `ORDER BY observed_at DESC, id DESC`. -/
def sampleOrder (left right : WorkerHealthSampleRow) : Prop :=
  toLex (right.observedAt, right.id) ≤ toLex (left.observedAt, left.id)

instance : DecidableRel sampleOrder :=
  fun _ _ => inferInstanceAs (Decidable (_ ≤ _))

/-- Keep the latest 1000 samples of a host. -/
def pruneSamples (workerHostId : String) (tables : Tables) : Tables :=
  let ofHost := tables.workerHealthSamples.filter fun sample => sample.workerHostId = workerHostId
  let kept := ((ofHost.insertionSort sampleOrder).take 1000).map (·.id)
  { tables with
    workerHealthSamples := tables.workerHealthSamples.filter fun sample =>
      sample.workerHostId ≠ workerHostId || sample.id ∈ kept }

def storeHealth (database : CloudDatabase) (input : RecordWorkerHealthInput)
    (reported : Option ReportedCapacity) : Except Failure (CloudDatabase × WorkerHostRow) :=
  match getWorkerHost database input.workerHostId with
  | none => .error (.error "Worker host was not found")
  | some _ => do
      let database ← statement database fun tables =>
        { tables with
          workerHosts := updateWhere (fun host => host.id = input.workerHostId)
            (fun host => host.observed input) tables.workerHosts }
      match getWorkerHost database input.workerHostId with
      | none => .error (.error "Worker host disappeared")
      | some host => do
          let database ← statement database (insertSample input host reported)
          let database ← statement database (pruneSamples host.id)
          .ok (database, host)

def recordWorkerHealth (database : CloudDatabase) (input : RecordWorkerHealthInput) :
    Except Failure (CloudDatabase × WorkerHostRow) :=
  match input.capacity with
  | none => storeHealth database input none
  | some capacity => do
      let reported ← checkedCapacity capacity
      storeHealth database input (some reported)

/-! ## Placement -/

structure WorkerPlacementRequirements where
  memoryBytes : Int
  cpuMillis : Int
  diskBytes : Int
  workspaceSlots : Option Int
deriving DecidableEq, Repr

structure AssignWorkspaceWorkerOptions where
  workspaceId : String
  requirements : WorkerPlacementRequirements
  heartbeatMaxAgeMs : Int
  now : Int
deriving DecidableEq, Repr

structure WorkerPlacementAssignment where
  workspace : WorkspaceRow
  workerHost : WorkerHostRow
deriving DecidableEq, Repr

/-- The host has room for the requirements. -/
def WorkerHostRow.Fits (host : WorkerHostRow) (required : Resources) : Prop :=
  required.Both (· ≤ ·) (host.total.zipWith (· - ·) host.reserved)

instance (host : WorkerHostRow) (required : Resources) : Decidable (host.Fits required) :=
  inferInstanceAs (Decidable (Resources.Both _ _ _))

/-- The `WHERE` clause of `findCandidate`. -/
def WorkerHostRow.IsCandidate (host : WorkerHostRow) (heartbeatAfter : Int) (required : Resources) :
    Prop :=
  host.enabled = true ∧ host.schedulable = true ∧ host.state = .healthy ∧
    (∃ heartbeat ∈ host.lastHeartbeatAt, heartbeatAfter ≤ heartbeat) ∧ host.Fits required

instance (host : WorkerHostRow) (heartbeatAfter : Int) (required : Resources) :
    Decidable (host.IsCandidate heartbeatAfter required) :=
  inferInstanceAs (Decidable (_ ∧ _))

section Placement

variable {Load : Type} [LinearOrder Load]

/-- The `ORDER BY` of `findCandidate`.  `quotient` is the floating-point division
of the query. -/
def loadOrder (quotient : Int → Int → Load) (host : WorkerHostRow) :
    Load ×ₗ Load ×ₗ Load ×ₗ Load ×ₗ String :=
  let load (resource : Resource) : Load :=
    if host.total.amount resource = 0 then quotient 0 1
    else quotient (host.reserved.amount resource) (host.total.amount resource)
  toLex (quotient host.reserved.workspaceSlots host.total.workspaceSlots,
    toLex (load .memoryBytes, toLex (load .cpuMillis, toLex (load .diskBytes, host.id))))

def findCandidate (quotient : Int → Int → Load) (tables : Tables) (heartbeatAfter : Int)
    (required : Resources) : Option WorkerHostRow :=
  (tables.workerHosts.filter fun host => host.IsCandidate heartbeatAfter required).argmin
    (loadOrder quotient)

/-- `UPDATE worker_host SET reserved = reserved + ? … AND total - reserved >= ?`. -/
def reserveHost (workerHostId : String) (required : Resources) (timestamp : Int) (tables : Tables) :
    Tables :=
  { tables with
    workerHosts := updateWhere (fun host => host.id = workerHostId && host.Fits required)
      (fun host =>
        { host with
          reserved := host.reserved.zipWith (· + ·) required
          updatedAt := timestamp })
      tables.workerHosts }

/-- `UPDATE workspace SET worker_host_id = ? … AND worker_host_id IS NULL`. -/
def assignHost (workspaceId workerHostId : String) (required : Resources) (timestamp : Int)
    (tables : Tables) : Tables :=
  { tables with
    workspaces := updateWhere
      (fun workspace => workspace.id = workspaceId && workspace.workerHostId = none)
      (fun workspace =>
        { workspace with
          workerHostId := some workerHostId
          reserved := required
          updatedAt := timestamp })
      tables.workspaces }

/-- Place an unassigned workspace. -/
def placeWorkspace (quotient : Int → Int → Load) (database : CloudDatabase)
    (workspace : WorkspaceRow) (required : Resources) (heartbeatMaxAgeMs now : Int) :
    Except Failure (CloudDatabase × WorkerPlacementAssignment) :=
  match findCandidate quotient database.tables (now - heartbeatMaxAgeMs) required with
  | none => .error .workerPlacementUnavailable
  | some candidate =>
      if ¬ candidate.Fits required then .error .workerPlacementUnavailable
      else do
        let database ← statement database (reserveHost candidate.id required now)
        if workspace.workerHostId ≠ none then
          .error (.error "Workspace assignment changed concurrently")
        else do
          let database ← statement database (assignHost workspace.id candidate.id required now)
          match lookup (·.id) database.tables.workspaces workspace.id,
              getWorkerHost database candidate.id with
          | some workspace, some workerHost => .ok (database, { workspace, workerHost })
          | _, _ => .error (.error "Worker assignment disappeared")

def assignWorkspaceWorker (quotient : Int → Int → Load) (database : CloudDatabase)
    (options : AssignWorkspaceWorkerOptions) :
    Except Failure (CloudDatabase × WorkerPlacementAssignment) := do
  let required ← nonNegativeResources
    { memoryBytes := options.requirements.memoryBytes
      cpuMillis := options.requirements.cpuMillis
      diskBytes := options.requirements.diskBytes
      workspaceSlots := options.requirements.workspaceSlots.getD 1 }
    "memoryBytes" "cpuMillis" "diskBytes" "workspaceSlots"
  if required.workspaceSlots = 0 then .error (.error "workspaceSlots must be positive")
  else if options.heartbeatMaxAgeMs < 0 then
    .error (.error "heartbeatMaxAgeMs must be non-negative")
  else
    match lookup (·.id) database.tables.workspaces options.workspaceId with
    | none => .error (.error "Workspace was not found")
    | some workspace =>
        -- An empty host identifier is as falsy as a missing one.
        match workspace.workerHostId.filter (· ≠ "") with
        | some hostId =>
            match getWorkerHost database hostId with
            | none => .error (.error "Assigned worker host was not found")
            | some workerHost => .ok (database, { workspace, workerHost })
        | none =>
            placeWorkspace quotient database workspace required options.heartbeatMaxAgeMs options.now

end Placement

/-! ## What each operation does -/

section Specifications

variable {database after : CloudDatabase} {host : WorkerHostRow}

theorem nonNegativeInteger_eq_ok {value number : Int} {field : String} :
    nonNegativeInteger value field = .ok number ↔ IsNonNegativeSafeInteger value ∧ value = number := by
  unfold nonNegativeInteger
  split <;> simp_all

theorem requiredWorkerText_ok {value field text : String} {maximum : Nat}
    (checked : requiredWorkerText value field maximum = .ok text) : text = trim value := by
  unfold requiredWorkerText at checked
  split at checked
  · cases checked
  · split at checked <;> cases checked
    rfl

/-- The row that passes the checks is the requested one under a trimmed
identifier. -/
theorem checkedHost_ok {urlProtocol : String → Option String} {input : RegisterWorkerHostInput}
    {excluded : WorkerHostRow} (checked : checkedHost urlProtocol database input = .ok excluded) :
    ∃ name provider region baseURL credentialKeyId total,
      excluded = registeredHost input (trim input.id) name provider region baseURL credentialKeyId
        total := by
  obtain ⟨id, trimmed, checked⟩ := bind_ok.mp checked
  obtain ⟨name, _, checked⟩ := bind_ok.mp checked
  obtain ⟨provider, _, checked⟩ := bind_ok.mp checked
  obtain ⟨region, _, checked⟩ := bind_ok.mp checked
  obtain ⟨baseURL, _, checked⟩ := bind_ok.mp checked
  obtain ⟨credentialKeyId, _, checked⟩ := bind_ok.mp checked
  obtain ⟨total, _, checked⟩ := bind_ok.mp checked
  split at checked
  · cases checked
  · split at checked
    · cases checked
    · split at checked
      · cases checked
      · split at checked
        · cases checked
          rw [requiredWorkerText_ok trimmed]
          exact ⟨_, _, _, _, _, _, rfl⟩
        · cases checked

theorem checkedHost_reserved {urlProtocol : String → Option String} {input : RegisterWorkerHostInput}
    {excluded : WorkerHostRow} (checked : checkedHost urlProtocol database input = .ok excluded) :
    excluded.reserved = Resources.zero := by
  obtain ⟨_, _, _, _, _, _, rfl⟩ := checkedHost_ok checked
  rfl

theorem upsertWorkerHost_written {urlProtocol : String → Option String}
    {input : RegisterWorkerHostInput}
    (upserted : upsertWorkerHost urlProtocol database input = .ok (after, host)) :
    ∃ excluded, checkedHost urlProtocol database input = .ok excluded ∧
      after.tables = upsertHost excluded database.tables ∧
      getWorkerHost after excluded.id = some host := by
  obtain ⟨excluded, checked, upserted⟩ := bind_ok.mp upserted
  obtain ⟨written, upsert, reread⟩ := bind_ok.mp upserted
  split at reread
  · contradiction
  · rename_i found
    cases reread
    exact ⟨excluded, checked, Store.execute_ok.mp upsert, found⟩

theorem upsertWorkerHost_ok {urlProtocol : String → Option String} {input : RegisterWorkerHostInput}
    (upserted : upsertWorkerHost urlProtocol database input = .ok (after, host)) :
    ∃ excluded, excluded.reserved = Resources.zero ∧
      after.tables = upsertHost excluded database.tables := by
  obtain ⟨excluded, checked, written, _⟩ := upsertWorkerHost_written upserted
  exact ⟨excluded, checkedHost_reserved checked, written⟩

theorem setWorkerHostScheduling_written {input : SetWorkerHostSchedulingInput}
    (scheduled : setWorkerHostScheduling database input = .ok (after, host)) :
    after.tables = { database.tables with
      workerHosts := updateWhere (fun host => host.id = input.workerHostId)
        (fun host => host.rescheduled input) database.tables.workerHosts } ∧
      getWorkerHost after input.workerHostId = some host := by
  unfold setWorkerHostScheduling at scheduled
  split at scheduled
  · contradiction
  · obtain ⟨written, update, reread⟩ := bind_ok.mp scheduled
    split at reread
    · contradiction
    · rename_i found
      cases reread
      exact ⟨Store.execute_ok.mp update, found⟩

theorem setWorkerHostScheduling_ok {input : SetWorkerHostSchedulingInput}
    (scheduled : setWorkerHostScheduling database input = .ok (after, host)) :
    after.tables = { database.tables with
      workerHosts := updateWhere (fun host => host.id = input.workerHostId)
        (fun host => host.rescheduled input) database.tables.workerHosts } :=
  (setWorkerHostScheduling_written scheduled).1

/-- Apart from its checks, a host is constrained by the columns that are unique or referred
to. -/
theorem consistent_of_hostChange (database : CloudDatabase) {selected : WorkerHostRow → Bool}
    {change : WorkerHostRow → WorkerHostRow} (sameId : ∀ host, (change host).id = host.id)
    (sameName : ∀ host, (change host).name = host.name) (sameURL : ∀ host, (change host).baseURL = host.baseURL)
    (checks : ∀ host, selected host = true → host.Checks → (change host).Checks) :
    schema.Consistent { database.tables with
      workerHosts := updateWhere selected change database.tables.workerHosts } := by
  have same (column : WorkerHostRow → String) (keeps : ∀ host, column (change host) = column host) :
      (updateWhere selected change database.tables.workerHosts).map column =
        database.tables.workerHosts.map column := map_updateWhere keeps
  have ids := same (·.id) sameId
  intro constraint
  have held := database.consistent constraint
  cases constraint with
  | hostId => exact (congrArg List.Nodup ids).mpr held
  | hostName => exact (congrArg List.Nodup (same (·.name) sameName)).mpr held
  | hostBaseURL => exact (congrArg List.Nodup (same (·.baseURL) sameURL)).mpr held
  | hostChecks =>
      intro host member
      obtain ⟨before, beforeMember, rfl⟩ := mem_updateWhere.mp member
      have checked : before.Checks := held before beforeMember
      split
      · rename_i chosen
        exact checks before chosen checked
      · exact checked
  | workspaceHost =>
      intro workspace member hostId assigned
      exact ids.symm ▸ held workspace member hostId assigned
  | sampleHost =>
      intro sample member
      exact ids.symm ▸ held sample member
  | _ => exact held

/-- The flags and the state of a host are free of constraints. -/
theorem consistent_of_rescheduled (database : CloudDatabase) (input : SetWorkerHostSchedulingInput) :
    schema.Consistent { database.tables with
      workerHosts := updateWhere (fun host => host.id = input.workerHostId)
        (fun host => host.rescheduled input) database.tables.workerHosts } :=
  consistent_of_hostChange database (fun _ => rfl) (fun _ => rfl) (fun _ => rfl) fun _ _ checked => checked

theorem getWorkerHost_changed {workerHostId : String} {change : WorkerHostRow → WorkerHostRow}
    (found : getWorkerHost database workerHostId = some host) (sameId : ∀ host, (change host).id = host.id)
    (written : after.tables.workerHosts =
      updateWhere (fun host => host.id = workerHostId) change database.tables.workerHosts) :
    getWorkerHost after workerHostId = some (change host) := by
  rw [getWorkerHost, written]
  exact lookup_updateWhere_self sameId found

theorem setWorkerHostScheduling_accepts {input : SetWorkerHostSchedulingInput}
    (found : getWorkerHost database input.workerHostId = some host) :
    ∃ after updated, setWorkerHostScheduling database input = .ok (after, updated) ∧
      after.tables = { database.tables with
        workerHosts := updateWhere (fun host => host.id = input.workerHostId)
          (fun host => host.rescheduled input) database.tables.workerHosts } := by
  let after : CloudDatabase := ⟨_, consistent_of_rescheduled database input⟩
  have reread : getWorkerHost after input.workerHostId = some (host.rescheduled input) :=
    @getWorkerHost_changed database after host _ (fun row => row.rescheduled input) found (fun _ => rfl) rfl
  refine ⟨after, host.rescheduled input, ?_, rfl⟩
  unfold setWorkerHostScheduling
  rw [found]
  refine bind_ok.mpr ⟨after, Store.execute_of_consistent after.consistent, ?_⟩
  rw [reread]

theorem consistent_of_sample (database : CloudDatabase) (input : RecordWorkerHealthInput)
    {reported : Option ReportedCapacity} (member : host ∈ database.tables.workerHosts)
    (nonNegative : ∀ capacity ∈ reported, Resources.zero.Both (· ≤ ·) capacity.total ∧
      Resources.zero.Both (· ≤ ·) capacity.reserved) :
    schema.Consistent (insertSample input host reported database.tables) := by
  have checked : host.Checks := database.consistent .hostChecks host member
  intro constraint
  have held := database.consistent constraint
  cases constraint with
  | sampleHost =>
      intro sample stored
      rcases List.mem_append.mp stored with old | new
      · exact held sample old
      · rw [List.mem_singleton.mp new]
        exact List.mem_map_of_mem member
  | sampleChecks =>
      intro sample stored
      rcases List.mem_append.mp stored with old | new
      · exact held sample old
      · rw [List.mem_singleton.mp new]
        cases reported with
        | none =>
            refine ⟨checked.1, Resources.both_iff.mpr fun resource => ?_⟩
            exact Int.le_trans (Resources.both_iff.mp checked.1 resource) (Resources.both_iff.mp checked.2 resource)
        | some capacity =>
            obtain ⟨total, reserved⟩ := nonNegative capacity rfl
            exact ⟨reserved, total⟩
  | _ => exact held

theorem consistent_of_pruned (database : CloudDatabase) (workerHostId : String) :
    schema.Consistent (pruneSamples workerHostId database.tables) := by
  intro constraint
  have held := database.consistent constraint
  cases constraint with
  | sampleHost =>
      intro sample member
      exact held sample (List.mem_filter.mp member).1
  | sampleChecks =>
      intro sample member
      exact held sample (List.mem_filter.mp member).1
  | _ => exact held

/-- What is told of a known host is recorded. -/
theorem storeHealth_accepts {input : RecordWorkerHealthInput} {reported : Option ReportedCapacity}
    (found : getWorkerHost database input.workerHostId = some host)
    (nonNegative : ∀ capacity ∈ reported, Resources.zero.Both (· ≤ ·) capacity.total ∧
      Resources.zero.Both (· ≤ ·) capacity.reserved) :
    ∃ after, storeHealth database input reported = .ok (after, host.observed input) := by
  let updated : CloudDatabase := ⟨_, @consistent_of_hostChange database (fun row => row.id = input.workerHostId)
    (fun row => row.observed input) (fun _ => rfl) (fun _ => rfl) (fun _ => rfl) fun _ _ checked => checked⟩
  have reread : getWorkerHost updated input.workerHostId = some (host.observed input) :=
    @getWorkerHost_changed database updated host _ (fun row => row.observed input) found (fun _ => rfl) rfl
  let inserted : CloudDatabase := ⟨_, consistent_of_sample updated input (lookup_mem reread) nonNegative⟩
  let pruned : CloudDatabase := ⟨_, consistent_of_pruned inserted (host.observed input).id⟩
  refine ⟨pruned, ?_⟩
  unfold storeHealth
  rw [found]
  refine bind_ok.mpr ⟨updated, Store.execute_of_consistent updated.consistent, ?_⟩
  rw [reread]
  refine bind_ok.mpr ⟨inserted, Store.execute_of_consistent inserted.consistent, ?_⟩
  exact bind_ok.mpr ⟨pruned, Store.execute_of_consistent pruned.consistent, rfl⟩

/-- A capacity that passes is taken as it is, and none of it is negative. -/
theorem checkedCapacity_ok {capacity reported : ReportedCapacity} (checked : checkedCapacity capacity = .ok reported) :
    reported = capacity ∧ Resources.zero.Both (· ≤ ·) capacity.total ∧
      Resources.zero.Both (· ≤ ·) capacity.reserved := by
  simp only [checkedCapacity, bind_ok, nonNegativeInteger_eq_ok, Except.ok.injEq] at checked
  obtain ⟨_, ⟨totalMemory, rfl⟩, _, ⟨reservedMemory, rfl⟩, _, ⟨totalCpu, rfl⟩, _, ⟨reservedCpu, rfl⟩,
    _, ⟨totalDisk, rfl⟩, _, ⟨reservedDisk, rfl⟩, _, ⟨totalSlots, rfl⟩, _, ⟨reservedSlots, rfl⟩, rfl⟩ := checked
  exact ⟨rfl, ⟨totalMemory.1, totalCpu.1, totalDisk.1, totalSlots.1⟩,
    ⟨reservedMemory.1, reservedCpu.1, reservedDisk.1, reservedSlots.1⟩⟩

theorem recordWorkerHealth_accepts {input : RecordWorkerHealthInput}
    (found : getWorkerHost database input.workerHostId = some host)
    (checked : ∀ capacity ∈ input.capacity, ∃ reported, checkedCapacity capacity = .ok reported) :
    ∃ after, recordWorkerHealth database input = .ok (after, host.observed input) := by
  unfold recordWorkerHealth
  cases told : input.capacity with
  | none => exact storeHealth_accepts found (by simp)
  | some capacity =>
      obtain ⟨reported, valid⟩ := checked capacity told
      obtain ⟨rfl, nonNegative⟩ := checkedCapacity_ok valid
      obtain ⟨after, stored⟩ := @storeHealth_accepts database host input (some reported) found
        (by simpa using nonNegative)
      exact ⟨after, bind_ok.mpr ⟨reported, valid, stored⟩⟩

theorem storeHealth_ok {input : RecordWorkerHealthInput} {reported : Option ReportedCapacity}
    (stored : storeHealth database input reported = .ok (after, host)) :
    ∃ samples sequence, after.tables = { database.tables with
      workerHosts := updateWhere (fun host => host.id = input.workerHostId)
        (fun host => host.observed input) database.tables.workerHosts
      workerHealthSamples := samples
      workerHealthSampleSequence := sequence } := by
  unfold storeHealth at stored
  split at stored
  · contradiction
  · obtain ⟨updated, update, stored⟩ := bind_ok.mp stored
    split at stored
    · contradiction
    · obtain ⟨inserted, insert, stored⟩ := bind_ok.mp stored
      obtain ⟨pruned, prune, stored⟩ := bind_ok.mp stored
      cases stored
      rw [Store.execute_ok.mp prune, Store.execute_ok.mp insert, Store.execute_ok.mp update]
      exact ⟨_, _, rfl⟩

theorem recordWorkerHealth_ok {input : RecordWorkerHealthInput}
    (recorded : recordWorkerHealth database input = .ok (after, host)) :
    ∃ samples sequence, after.tables = { database.tables with
      workerHosts := updateWhere (fun host => host.id = input.workerHostId)
        (fun host => host.observed input) database.tables.workerHosts
      workerHealthSamples := samples
      workerHealthSampleSequence := sequence } := by
  unfold recordWorkerHealth at recorded
  split at recorded
  · exact storeHealth_ok recorded
  · obtain ⟨reported, _, stored⟩ := bind_ok.mp recorded
    exact storeHealth_ok stored

theorem placeWorkspace_ok {Load : Type} [LinearOrder Load] {quotient : Int → Int → Load}
    {workspace : WorkspaceRow} {required : Resources} {heartbeatMaxAgeMs now : Int}
    {assignment : WorkerPlacementAssignment}
    (placed : placeWorkspace quotient database workspace required heartbeatMaxAgeMs now =
      .ok (after, assignment)) :
    workspace.workerHostId = none ∧ ∃ candidate ∈ database.tables.workerHosts,
      candidate.IsCandidate (now - heartbeatMaxAgeMs) required ∧
        after.tables = assignHost workspace.id candidate.id required now
          (reserveHost candidate.id required now database.tables) := by
  unfold placeWorkspace at placed
  split at placed
  · cases placed
  · rename_i candidate selected
    obtain ⟨member, eligible⟩ := List.mem_filter.mp (List.argmin_mem selected)
    split at placed
    · cases placed
    · obtain ⟨reserved, reserve, placed⟩ := bind_ok.mp placed
      split at placed
      · cases placed
      · rename_i unassigned
        obtain ⟨assigned, assign, placed⟩ := bind_ok.mp placed
        split at placed
        · cases placed
          refine ⟨not_not.mp unassigned, candidate, member, of_decide_eq_true eligible, ?_⟩
          rw [Store.execute_ok.mp assign, Store.execute_ok.mp reserve]
        · cases placed

/-- Placement reserves the requirements on one eligible host for one unassigned
workspace, or changes nothing. -/
theorem assignWorkspaceWorker_candidate {Load : Type} [LinearOrder Load]
    {quotient : Int → Int → Load} {options : AssignWorkspaceWorkerOptions}
    {assignment : WorkerPlacementAssignment}
    (placed : assignWorkspaceWorker quotient database options = .ok (after, assignment)) :
    after = database ∨
      ∃ workspace ∈ database.tables.workspaces, ∃ candidate ∈ database.tables.workerHosts,
        ∃ required, workspace.workerHostId = none ∧
          candidate.IsCandidate (options.now - options.heartbeatMaxAgeMs) required ∧
          after.tables = assignHost workspace.id candidate.id required options.now
            (reserveHost candidate.id required options.now database.tables) := by
  obtain ⟨required, _, placed⟩ := bind_ok.mp placed
  split at placed
  · cases placed
  · split at placed
    · cases placed
    · split at placed
      · cases placed
      · rename_i workspace found
        split at placed
        · split at placed
          · cases placed
          · cases placed
            exact .inl rfl
        · obtain ⟨unassigned, candidate, member, eligible, written⟩ := placeWorkspace_ok placed
          exact .inr ⟨workspace, lookup_mem found, candidate, member, required, unassigned,
            eligible, written⟩

/-- In particular the host has room. -/
theorem assignWorkspaceWorker_ok {Load : Type} [LinearOrder Load] {quotient : Int → Int → Load}
    {options : AssignWorkspaceWorkerOptions} {assignment : WorkerPlacementAssignment}
    (placed : assignWorkspaceWorker quotient database options = .ok (after, assignment)) :
    after = database ∨
      ∃ workspace ∈ database.tables.workspaces, ∃ candidate ∈ database.tables.workerHosts,
        ∃ required, workspace.workerHostId = none ∧ candidate.Fits required ∧
          after.tables = assignHost workspace.id candidate.id required options.now
            (reserveHost candidate.id required options.now database.tables) := by
  obtain rfl | ⟨workspace, member, candidate, candidateMember, required, unassigned, eligible,
    written⟩ := assignWorkspaceWorker_candidate placed
  · exact .inl rfl
  · exact .inr ⟨workspace, member, candidate, candidateMember, required, unassigned,
      eligible.2.2.2.2, written⟩

end Specifications

end NebulaCloud.Database
