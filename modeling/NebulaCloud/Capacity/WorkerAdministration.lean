import NebulaCloud.Database.WorkerHost

namespace NebulaCloud.Capacity

open NebulaCloud.Data NebulaCloud.Database NebulaCloud.Platform

/-! # Administration of the worker hosts

What the platform administrators ask of a host, and the host that the
environment configures at every start of the control plane. -/

/-! ## Requests -/

structure RegisterWorkerHostRequest where
  id : String
  name : String
  provider : String
  region : String
  baseURL : String
  credentialKeyId : String
  capacity : Resources
  enabled : Option Bool
  schedulable : Option Bool
deriving DecidableEq, Repr

inductive WorkerHostLifecycleAction
  | enable
  | disable
  | drain
  | resume
deriving DecidableEq, Repr

def WorkerHostLifecycleAction.text : WorkerHostLifecycleAction → String
  | .enable => "enable"
  | .disable => "disable"
  | .drain => "drain"
  | .resume => "resume"

/-- An `action` that the route admits.  It compares `String(action)`, which looks
through arrays of one element. -/
inductive RequestedAction
  | plain (action : WorkerHostLifecycleAction)
  | listed (element : RequestedAction)
deriving DecidableEq, Repr

/-- `String(action)`. -/
def RequestedAction.named : RequestedAction → WorkerHostLifecycleAction
  | .plain action => action
  | .listed element => element.named

/-- `Partial<WorkerHostSummary['capacity']>`. -/
structure CapacityPatch where
  memoryBytes : Option Int
  cpuMillis : Option Int
  diskBytes : Option Int
  workspaceSlots : Option Int
deriving DecidableEq, Repr

structure UpdateWorkerHostRequest where
  name : Option String
  provider : Option String
  region : Option String
  baseURL : Option String
  credentialKeyId : Option String
  capacity : Option CapacityPatch
  action : Option RequestedAction
  reason : Option String
deriving DecidableEq, Repr

/-! ## The administration -/

namespace WorkerAdministration

/-- A registration is unschedulable unless it says otherwise. -/
def registration (input : RegisterWorkerHostRequest) (now : Int) : RegisterWorkerHostInput where
  id := input.id
  name := input.name
  provider := input.provider
  region := input.region
  baseURL := input.baseURL
  credentialKeyId := input.credentialKeyId
  total := input.capacity
  enabled := some (input.enabled.getD true)
  schedulable := some (input.schedulable.getD false)
  now := now

def register (urlProtocol : String → Option String) (database : CloudDatabase)
    (input : RegisterWorkerHostRequest) (now : Int) :
    Except Failure (CloudDatabase × WorkerHostRow) :=
  upsertWorkerHost urlProtocol database (registration input now)

/-- The update changes the configuration of the host. -/
def IsPatch (input : UpdateWorkerHostRequest) : Prop :=
  input.name ≠ none ∨ input.provider ≠ none ∨ input.region ≠ none ∨ input.baseURL ≠ none ∨
    input.credentialKeyId ≠ none ∨ input.capacity ≠ none

instance (input : UpdateWorkerHostRequest) : Decidable (IsPatch input) :=
  inferInstanceAs (Decidable (_ ∨ _))

/-- Fields that the update leaves out keep their value, and so do the flags. -/
def patched (current : WorkerHostRow) (input : UpdateWorkerHostRequest) (now : Int) :
    RegisterWorkerHostInput where
  id := current.id
  name := input.name.getD current.name
  provider := input.provider.getD current.provider
  region := input.region.getD current.region
  baseURL := input.baseURL.getD current.baseURL
  credentialKeyId := input.credentialKeyId.getD current.credentialKeyId
  total :=
    { memoryBytes := (input.capacity.bind (·.memoryBytes)).getD current.total.memoryBytes
      cpuMillis := (input.capacity.bind (·.cpuMillis)).getD current.total.cpuMillis
      diskBytes := (input.capacity.bind (·.diskBytes)).getD current.total.diskBytes
      workspaceSlots := (input.capacity.bind (·.workspaceSlots)).getD current.total.workspaceSlots }
  enabled := some current.enabled
  schedulable := some current.schedulable
  now := now

def patch (urlProtocol : String → Option String) (database : CloudDatabase)
    (current : WorkerHostRow) (input : UpdateWorkerHostRequest) (now : Int) :
    Except Failure (CloudDatabase × WorkerHostRow) :=
  if IsPatch input then upsertWorkerHost urlProtocol database (patched current input now)
  else .ok (database, current)

/-- The columns that an action sets. -/
def scheduling (workerHostId : String) (now : Int) :
    WorkerHostLifecycleAction → SetWorkerHostSchedulingInput
  | .enable => ⟨workerHostId, some true, some false, some .unknown, now⟩
  | .disable => ⟨workerHostId, some false, some false, some .unavailable, now⟩
  | .drain => ⟨workerHostId, none, some false, some .draining, now⟩
  | .resume => ⟨workerHostId, some true, some true, some .unknown, now⟩

/-- `action === …` holds of strings only. -/
def act (database : CloudDatabase) (worker : WorkerHostRow) (workerHostId : String)
    (action : Option RequestedAction) (now : Int) :
    Except Failure (CloudDatabase × WorkerHostRow) :=
  match action with
  | some (.plain action) => setWorkerHostScheduling database (scheduling workerHostId now action)
  | some (.listed _) | none => .ok (database, worker)

/-- One transaction. -/
def update (urlProtocol : String → Option String) (database : CloudDatabase)
    (workerHostId : String) (input : UpdateWorkerHostRequest) (now : Int) :
    Except Failure (CloudDatabase × Option WorkerHostRow) :=
  match getWorkerHost database workerHostId with
  | none => .ok (database, none)
  | some current => do
      let (database, worker) ← patch urlProtocol database current input now
      let (database, worker) ← act database worker workerHostId input.action now
      .ok (database, some worker)

end WorkerAdministration

/-! ## The configured host -/

/-- The environment variables of the worker host, its capacity as parsed. -/
structure WorkerEnvironment where
  workerURL : Option String
  workerToken : Option String
  workerId : Option String
  credentialKeyId : Option String
  provider : Option String
  region : Option String
  capacity : Resources
deriving DecidableEq, Repr

/-- `value?.trim() || fallback`. -/
def setting (value : Option String) (fallback : String) : String :=
  ((value.map trim).filter (· ≠ "")).getD fallback

/-- The registration that a start of the control plane repeats, if a worker URL and
its token are configured.  It leaves both flags out. -/
def WorkerEnvironment.registration (environment : WorkerEnvironment) (now : Int) :
    Option RegisterWorkerHostInput :=
  if setting environment.workerURL "" = "" ∨ setting environment.workerToken "" = "" then none
  else
    some
      { id := setting environment.workerId "local-worker"
        name := setting environment.workerId "local-worker"
        provider := setting environment.provider "local"
        region := setting environment.region "local"
        baseURL := setting environment.workerURL ""
        credentialKeyId := setting environment.credentialKeyId "local-worker-token"
        total := environment.capacity
        enabled := none
        schedulable := none
        now := now }

/-- A failed registration ends the process before it serves anything. -/
def restart (urlProtocol : String → Option String) (database : CloudDatabase)
    (environment : WorkerEnvironment) (now : Int) : CloudDatabase :=
  match environment.registration now with
  | none => database
  | some input => (commit database (upsertWorkerHost urlProtocol database input)).1

/-! ## What the operations write -/

section Specifications

variable {urlProtocol : String → Option String} {database after : CloudDatabase}
  {workerHostId : String} {current worker : WorkerHostRow} {input : UpdateWorkerHostRequest}
  {now : Int}

@[simp] theorem scheduling_workerHostId (action : WorkerHostLifecycleAction) :
    (WorkerAdministration.scheduling workerHostId now action).workerHostId = workerHostId := by
  cases action <;> rfl

/-- A patch writes the row it validated under the trimmed identifier of the host. -/
theorem patch_ok
    (patched : WorkerAdministration.patch urlProtocol database current input now =
      .ok (after, worker)) :
    (after = database ∧ worker = current) ∨
      ∃ excluded, excluded.id = trim current.id ∧ excluded.enabled = current.enabled ∧
        excluded.schedulable = current.schedulable ∧
        after.tables = upsertHost excluded database.tables := by
  unfold WorkerAdministration.patch at patched
  split at patched
  · obtain ⟨excluded, checked, written, _⟩ := upsertWorkerHost_written patched
    obtain ⟨_, _, _, _, _, _, rfl⟩ := checkedHost_ok checked
    refine .inr ⟨_, rfl, ?_, ?_, written⟩
    · cases same : current.enabled <;>
        simp [registeredHost, WorkerAdministration.patched, same]
    · cases same : current.schedulable <;>
        simp [registeredHost, WorkerAdministration.patched, same]
  · cases patched
    exact .inl ⟨rfl, rfl⟩

/-- A plain action sets its columns on the named host. -/
theorem act_ok {action : Option RequestedAction}
    (acted : WorkerAdministration.act database current workerHostId action now =
      .ok (after, worker)) :
    (∃ named, action = some (.plain named) ∧
      after.tables = { database.tables with
        workerHosts := updateWhere (fun host => host.id = workerHostId)
          (fun host => host.rescheduled (WorkerAdministration.scheduling workerHostId now named))
          database.tables.workerHosts }) ∨
      (∀ named, action ≠ some (.plain named)) ∧ after = database ∧ worker = current := by
  unfold WorkerAdministration.act at acted
  split at acted
  · rename_i named
    have written := setWorkerHostScheduling_ok acted
    rw [scheduling_workerHostId] at written
    exact .inl ⟨named, rfl, written⟩
  · cases acted
    exact .inr ⟨fun _ => by simp, rfl, rfl⟩
  · cases acted
    exact .inr ⟨fun _ => by simp, rfl, rfl⟩

theorem update_ok {updated : Option WorkerHostRow}
    (accepted : WorkerAdministration.update urlProtocol database workerHostId input now =
      .ok (after, updated)) :
    (getWorkerHost database workerHostId = none ∧ after = database ∧ updated = none) ∨
      ∃ current patched between worker, getWorkerHost database workerHostId = some current ∧
        WorkerAdministration.patch urlProtocol database current input now =
          .ok (between, patched) ∧
        WorkerAdministration.act between patched workerHostId input.action now =
          .ok (after, worker) ∧
        updated = some worker := by
  unfold WorkerAdministration.update at accepted
  split at accepted
  · rename_i missing
    cases accepted
    exact .inl ⟨missing, rfl, rfl⟩
  · rename_i current found
    obtain ⟨⟨between, patched⟩, first, accepted⟩ := bind_ok.mp accepted
    obtain ⟨⟨last, worker⟩, second, accepted⟩ := bind_ok.mp accepted
    cases accepted
    exact .inr ⟨current, patched, between, worker, found, first, second, rfl⟩

end Specifications

end NebulaCloud.Capacity
