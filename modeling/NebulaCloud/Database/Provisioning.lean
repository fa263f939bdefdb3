import NebulaCloud.Database.Workspace
import Mathlib.Data.List.MinMax
import Mathlib.Data.Prod.Lex

namespace NebulaCloud.Database

open NebulaCloud.Data NebulaCloud.Platform

/-! # Provisioning jobs

The durable work queue: `ensureWorkspaceRunning` files jobs, a processor claims
one under a lease and finishes it. -/

structure EnsureWorkspaceRunningOptions extends EnsurePersonalWorkspaceOptions where
  createJobId : String
  jobNow : Int
deriving DecidableEq, Repr

structure EnsureWorkspaceRunningResult where
  workspace : WorkspaceRow
  job : Option ProvisioningJobRow
deriving DecidableEq, Repr

def findActiveJob (tables : Tables) (workspaceId : String) : Option ProvisioningJobRow :=
  tables.provisioningJobs.find? fun job => job.workspaceId = workspaceId && job.active

def queuedJob (id workspaceId : String) (timestamp : Int) : ProvisioningJobRow where
  id := id
  workspaceId := workspaceId
  status := .queued
  attempt := 0
  availableAt := timestamp
  leaseOwner := none
  leaseExpiresAt := none
  errorCode := none
  errorMessage := none
  createdAt := timestamp
  updatedAt := timestamp
  completedAt := none

/-- `INSERT INTO provisioning_job … ON CONFLICT DO NOTHING`. -/
def insertJob (database : CloudDatabase) (job : ProvisioningJobRow) : Except Failure CloudDatabase :=
  if job.id ∈ database.tables.provisioningJobs.map (·.id) ∨
      (findActiveJob database.tables job.workspaceId).isSome then
    .ok database
  else
    statement database fun tables =>
      { tables with provisioningJobs := tables.provisioningJobs ++ [job] }

/-- `UPDATE workspace SET state = 'provisioning' … AND state != 'ready'`. -/
def markProvisioning (workspaceId : String) (timestamp : Int) (tables : Tables) : Tables :=
  { tables with
    workspaces := updateWhere
      (fun workspace => workspace.id = workspaceId && workspace.state ≠ .ready)
      (fun workspace => { workspace with state := .provisioning, updatedAt := timestamp })
      tables.workspaces }

def ensureActiveJob (database : CloudDatabase) (workspaceId createJobId : String) (timestamp : Int) :
    Except Failure CloudDatabase :=
  match findActiveJob database.tables workspaceId with
  | some _ => .ok database
  | none => insertJob database (queuedJob createJobId workspaceId timestamp)

/-- The second transaction of `ensureWorkspaceRunning`, which schedules work for
a workspace that an earlier transaction read. -/
def scheduleWorkspace (database : CloudDatabase) (workspaceId createJobId : String) (timestamp : Int) :
    Except Failure (CloudDatabase × WorkspaceRow × ProvisioningJobRow) := do
  let database ← ensureActiveJob database workspaceId createJobId timestamp
  match findActiveJob database.tables workspaceId with
  | none => .error (.error "Provisioning job could not be resolved")
  | some job => do
      let database ← statement database (markProvisioning workspaceId timestamp)
      match lookup (·.id) database.tables.workspaces workspaceId with
      | none => .error (.error "Personal workspace disappeared")
      | some workspace => .ok (database, workspace, job)

/-- `ensureWorkspaceRunning` run without interruption between its transactions.
The first commits even when the second throws. -/
def ensureWorkspaceRunning (database : CloudDatabase) (options : EnsureWorkspaceRunningOptions) :
    CloudDatabase × Except Failure EnsureWorkspaceRunningResult :=
  match commit database (ensurePersonalWorkspace database options.toEnsurePersonalWorkspaceOptions) with
  | (database, .error failure) => (database, .error failure)
  | (database, .ok workspace) =>
      if workspace.state = .ready then (database, .ok ⟨workspace, none⟩)
      else
        commit database do
          let (database, workspace, job) ←
            scheduleWorkspace database workspace.id options.createJobId options.jobNow
          .ok (database, ⟨workspace, some job⟩)

structure ClaimProvisioningJobOptions where
  leaseOwner : String
  leaseDurationMs : Int
  now : Int
deriving DecidableEq, Repr

/-- The jobs a claim may take at a time. -/
def ProvisioningJobRow.Claimable (job : ProvisioningJobRow) (timestamp : Int) : Prop :=
  (job.status = .queued ∧ job.availableAt ≤ timestamp) ∨
    (job.status = .running ∧ ∃ expiry ∈ job.leaseExpiresAt, expiry ≤ timestamp)

instance (job : ProvisioningJobRow) (timestamp : Int) : Decidable (job.Claimable timestamp) :=
  inferInstanceAs (Decidable (_ ∨ _))

/-- The `ORDER BY` of `findClaimable`; ties go to the older row. -/
def claimOrder (job : ProvisioningJobRow) : Nat ×ₗ Int ×ₗ Int :=
  toLex (if job.status = .queued then 0 else 1, toLex (job.availableAt, job.createdAt))

instance claimKeyOrder : LinearOrder (Nat ×ₗ Int ×ₗ Int) :=
  @Prod.Lex.instLinearOrder Nat (Int ×ₗ Int) _
    (@Prod.Lex.instLinearOrder Int Int Int.instLinearOrder Int.instLinearOrder)

instance claimKeyPreorder : Preorder (Nat ×ₗ Int ×ₗ Int) := claimKeyOrder.toPreorder

def findClaimable (tables : Tables) (timestamp : Int) : Option ProvisioningJobRow :=
  (tables.provisioningJobs.filter fun job => job.Claimable timestamp).argmin claimOrder

/-- The row a claim leaves behind. -/
def ProvisioningJobRow.claimed (job : ProvisioningJobRow) (options : ClaimProvisioningJobOptions) :
    ProvisioningJobRow :=
  { job with
    status := .running
    attempt := job.attempt + 1
    leaseOwner := some options.leaseOwner
    leaseExpiresAt := some (options.now + options.leaseDurationMs)
    updatedAt := options.now
    completedAt := none }

section

variable (job : ProvisioningJobRow) (options : ClaimProvisioningJobOptions)

@[simp] theorem ProvisioningJobRow.claimed_id : (job.claimed options).id = job.id := rfl

@[simp] theorem ProvisioningJobRow.claimed_attempt :
    (job.claimed options).attempt = job.attempt + 1 := rfl

end

def claimProvisioningJob (database : CloudDatabase) (options : ClaimProvisioningJobOptions) :
    Except Failure (CloudDatabase × Option ProvisioningJobRow) :=
  if trim options.leaseOwner = "" then .error (.error "leaseOwner is required")
  else if options.leaseDurationMs ≤ 0 then .error (.error "leaseDurationMs must be positive")
  else
    match findClaimable database.tables options.now with
    | none => .ok (database, none)
    | some candidate => do
        let database ← statement database fun tables =>
          { tables with
            provisioningJobs := updateWhere (fun job => job.id = candidate.id)
              (fun job => job.claimed options) tables.provisioningJobs }
        .ok (database, lookup (·.id) database.tables.provisioningJobs candidate.id)

inductive ProvisioningOutcome
  | succeeded | failed
deriving DecidableEq, Repr

structure FinishProvisioningJobOptions where
  jobId : String
  leaseOwner : String
  outcome : ProvisioningOutcome
  retryable : Bool
  retryDelayMs : Int
  errorCode : Option String
  errorMessage : Option String
  workerWorkspaceId : Option String
  now : Int
deriving DecidableEq, Repr

/-- The same job goes back to the queue. -/
def FinishProvisioningJobOptions.requeue (options : FinishProvisioningJobOptions) : Bool :=
  options.outcome = .failed && options.retryable

def FinishProvisioningJobOptions.nextStatus (options : FinishProvisioningJobOptions) :
    ProvisioningJobStatus :=
  if options.requeue then .queued
  else match options.outcome with
    | .succeeded => .succeeded
    | .failed => .failed

/-- The row an accepted finish leaves behind. -/
def ProvisioningJobRow.finished (job : ProvisioningJobRow) (options : FinishProvisioningJobOptions) :
    ProvisioningJobRow :=
  { job with
    status := options.nextStatus
    availableAt := if options.requeue then options.now + max 0 options.retryDelayMs else options.now
    leaseOwner := none
    leaseExpiresAt := none
    errorCode :=
      if options.outcome = .failed then
        some (slice (trim (options.errorCode.getD "provisioning_failed")) 64)
      else none
    errorMessage :=
      if options.outcome = .failed then
        some (slice (trim (options.errorMessage.getD "Workspace provisioning failed")) 512)
      else none
    updatedAt := options.now
    completedAt := if options.requeue then none else some options.now }

section

variable (job : ProvisioningJobRow) (options : FinishProvisioningJobOptions)

@[simp] theorem ProvisioningJobRow.finished_id : (job.finished options).id = job.id := rfl

@[simp] theorem ProvisioningJobRow.finished_attempt : (job.finished options).attempt = job.attempt :=
  rfl

end

/-- The workspace state a finish sets, if it sets one. -/
def FinishProvisioningJobOptions.workspaceState (options : FinishProvisioningJobOptions) :
    Option WorkspaceState :=
  match options.outcome with
  | .succeeded => some .ready
  | .failed => if options.retryable then none else some .failed

/-- `UPDATE workspace SET state = ?, worker_workspace_id = COALESCE(?, …)`. -/
def updateWorkspace (state : WorkspaceState) (workerWorkspaceId : Option String) (timestamp : Int)
    (workspaceId : String) (tables : Tables) : Tables :=
  { tables with
    workspaces := updateWhere (fun workspace => workspace.id = workspaceId)
      (fun workspace =>
        { workspace with
          state := state
          workerWorkspaceId := workerWorkspaceId.or workspace.workerWorkspaceId
          updatedAt := timestamp })
      tables.workspaces }

/-- The worker identifier a finish stores, if it stores one. -/
def FinishProvisioningJobOptions.assignedWorker (options : FinishProvisioningJobOptions)
    (workspaceId : String) : Option String :=
  match options.outcome with
  | .succeeded => some (options.workerWorkspaceId.getD workspaceId)
  | .failed => none

/-- The workspace update of a finish; a requeued job makes none. -/
def settleWorkspace (database : CloudDatabase) (options : FinishProvisioningJobOptions)
    (workspaceId : String) : Except Failure CloudDatabase :=
  match options.workspaceState with
  | none => .ok database
  | some state =>
      statement database
        (updateWorkspace state (options.assignedWorker workspaceId) options.now workspaceId)

/-- `UPDATE provisioning_job … AND status = 'running' AND lease_owner = ?`. -/
def updateJob (options : FinishProvisioningJobOptions) (tables : Tables) : Tables :=
  { tables with
    provisioningJobs := updateWhere
      (fun job => job.id = options.jobId && job.status = .running &&
        job.leaseOwner = some options.leaseOwner)
      (fun job => job.finished options) tables.provisioningJobs }

def finishProvisioningJob (database : CloudDatabase) (options : FinishProvisioningJobOptions) :
    Except Failure (CloudDatabase × ProvisioningJobRow) :=
  match lookup (·.id) database.tables.provisioningJobs options.jobId with
  | none => .error .provisioningJobLeaseLost
  | some current =>
      if current.status ≠ .running ∨ current.leaseOwner ≠ some options.leaseOwner then
        .error .provisioningJobLeaseLost
      else do
        let database ← statement database (updateJob options)
        let database ← settleWorkspace database options current.workspaceId
        match lookup (·.id) database.tables.provisioningJobs options.jobId with
        | none => .error (.error "Provisioning job disappeared")
        | some job => .ok (database, job)

/-! ## What each operation does -/

theorem ensureActiveJob_ok {database after : CloudDatabase} {workspaceId createJobId : String}
    {timestamp : Int} {job : ProvisioningJobRow}
    (ensured : ensureActiveJob database workspaceId createJobId timestamp = .ok after)
    (found : findActiveJob after.tables workspaceId = some job) :
    ∃ jobs, after.tables = { database.tables with provisioningJobs := jobs } ∧
      ((findActiveJob database.tables workspaceId = some job ∧
          jobs = database.tables.provisioningJobs) ∨
        (findActiveJob database.tables workspaceId = none ∧
          job = queuedJob createJobId workspaceId timestamp ∧
          job.id ∉ database.tables.provisioningJobs.map (·.id) ∧
          jobs = database.tables.provisioningJobs ++ [job])) := by
  unfold ensureActiveJob at ensured
  split at ensured
  · rename_i active current
    cases ensured
    exact ⟨_, rfl, .inl ⟨found, rfl⟩⟩
  · rename_i idle
    unfold insertJob at ensured
    split at ensured
    · cases ensured
      rw [idle] at found
      contradiction
    · rename_i fresh
      have written := Store.execute_ok.mp ensured
      have created : job = queuedJob createJobId workspaceId timestamp := by
        unfold findActiveJob at idle found
        rw [written, List.find?_append, idle] at found
        simpa [queuedJob, ProvisioningJobRow.active, eq_comm] using found
      subst created
      exact ⟨_, written, .inr ⟨idle, rfl, fun taken => fresh (.inl taken), rfl⟩⟩

/-- Scheduling keeps the active job or files a fresh one, then marks the
workspace. -/
theorem scheduleWorkspace_ok {database after : CloudDatabase} {workspaceId createJobId : String}
    {timestamp : Int} {workspace : WorkspaceRow} {job : ProvisioningJobRow}
    (scheduled : scheduleWorkspace database workspaceId createJobId timestamp =
      .ok (after, workspace, job)) :
    ∃ jobs, after.tables = markProvisioning workspaceId timestamp
        { database.tables with provisioningJobs := jobs } ∧
      ((findActiveJob database.tables workspaceId = some job ∧
          jobs = database.tables.provisioningJobs) ∨
        (findActiveJob database.tables workspaceId = none ∧
          job = queuedJob createJobId workspaceId timestamp ∧
          job.id ∉ database.tables.provisioningJobs.map (·.id) ∧
          jobs = database.tables.provisioningJobs ++ [job])) := by
  obtain ⟨ensured, ensure, marked⟩ := bind_ok.mp scheduled
  split at marked
  · contradiction
  · rename_i found current
    obtain ⟨updated, mark, reloaded⟩ := bind_ok.mp marked
    split at reloaded
    · contradiction
    · cases reloaded
      obtain ⟨jobs, filed, choice⟩ := ensureActiveJob_ok ensure current
      exact ⟨jobs, by rw [Store.execute_ok.mp mark, filed], choice⟩

/-- The call either stops after its first transaction or schedules work for the
unready workspace that transaction returned. -/
theorem ensureWorkspaceRunning_cases (database : CloudDatabase)
    (options : EnsureWorkspaceRunningOptions) :
    (ensureWorkspaceRunning database options).1 = database ∨
      ∃ ensured workspace,
        ensurePersonalWorkspace database options.toEnsurePersonalWorkspaceOptions =
          .ok (ensured, workspace) ∧
        ((ensureWorkspaceRunning database options).1 = ensured ∨
          ∃ after marked job, workspace.state ≠ .ready ∧
            scheduleWorkspace ensured workspace.id options.createJobId options.jobNow =
              .ok (after, marked, job) ∧
            (ensureWorkspaceRunning database options).1 = after) := by
  unfold ensureWorkspaceRunning
  cases ensure : ensurePersonalWorkspace database options.toEnsurePersonalWorkspaceOptions with
  | error failure => exact .inl rfl
  | ok result =>
      obtain ⟨ensured, workspace⟩ := result
      refine .inr ⟨ensured, workspace, rfl, ?_⟩
      simp only [commit_ok]
      split
      · exact .inl rfl
      · rename_i unready
        cases schedule : scheduleWorkspace ensured workspace.id options.createJobId options.jobNow with
        | error failure => exact .inl rfl
        | ok result => exact .inr ⟨_, _, _, unready, rfl, rfl⟩

/-- A claim takes one claimable job and leaves the rest alone. -/
theorem claimProvisioningJob_ok {database after : CloudDatabase}
    {options : ClaimProvisioningJobOptions} {result : Option ProvisioningJobRow}
    (claimed : claimProvisioningJob database options = .ok (after, result)) :
    (result = none ∧ after = database) ∨
      ∃ candidate ∈ database.tables.provisioningJobs, candidate.Claimable options.now ∧
        result = some (candidate.claimed options) ∧
        after.tables = { database.tables with
          provisioningJobs := updateWhere (fun job => job.id = candidate.id)
            (fun job => job.claimed options) database.tables.provisioningJobs } := by
  unfold claimProvisioningJob at claimed
  split at claimed
  · contradiction
  · split at claimed
    · contradiction
    · split at claimed
      · cases claimed
        exact .inl ⟨rfl, rfl⟩
      · rename_i candidate found
        have selected := List.argmin_mem found
        obtain ⟨member, claimable⟩ := List.mem_filter.mp selected
        obtain ⟨updated, update, reloaded⟩ := bind_ok.mp claimed
        have written := Store.execute_ok.mp update
        have distinct : (database.tables.provisioningJobs.map (·.id)).Nodup :=
          database.consistent .jobId
        have reread : lookup (·.id) updated.tables.provisioningJobs candidate.id =
            some (candidate.claimed options) := by
          rw [written]
          exact (lookup_updateWhere fun job _ => job.claimed_id options).trans
            (by simp [lookup_of_mem distinct member])
        simp only [Except.ok.injEq, Prod.mk.injEq] at reloaded
        obtain ⟨rfl, rfl⟩ := reloaded
        exact .inr ⟨candidate, member, by simpa using claimable, reread, written⟩

/-- The workspaces after an accepted finish of a job of `workspaceId`. -/
def finishedWorkspaces (options : FinishProvisioningJobOptions) (workspaceId : String)
    (tables : Tables) : List WorkspaceRow :=
  match options.workspaceState with
  | none => tables.workspaces
  | some state =>
      (updateWorkspace state (options.assignedWorker workspaceId) options.now workspaceId
        tables).workspaces

theorem settleWorkspace_ok {database after : CloudDatabase} {options : FinishProvisioningJobOptions}
    {workspaceId : String} (settled : settleWorkspace database options workspaceId = .ok after) :
    after.tables = { database.tables with
      workspaces := finishedWorkspaces options workspaceId database.tables } := by
  unfold settleWorkspace at settled
  unfold finishedWorkspaces
  cases set : options.workspaceState with
  | none =>
      simp only [set] at settled
      cases settled
      rfl
  | some state =>
      simp only [set] at settled
      rw [Store.execute_ok.mp settled]
      rfl

/-- Only the owner of the running lease finishes a job. -/
theorem finishProvisioningJob_ok {database after : CloudDatabase}
    {options : FinishProvisioningJobOptions} {result : ProvisioningJobRow}
    (accepted : finishProvisioningJob database options = .ok (after, result)) :
    ∃ current ∈ database.tables.provisioningJobs, current.id = options.jobId ∧
      current.status = .running ∧ current.leaseOwner = some options.leaseOwner ∧
      result = current.finished options ∧
      after.tables = { database.tables with
        provisioningJobs := updateWhere (fun job => job.id = options.jobId)
          (fun job => job.finished options) database.tables.provisioningJobs
        workspaces := finishedWorkspaces options current.workspaceId database.tables } := by
  unfold finishProvisioningJob at accepted
  split at accepted
  · contradiction
  · rename_i current found
    split at accepted
    · contradiction
    · rename_i held
      obtain ⟨running, owner⟩ : current.status = .running ∧
          current.leaseOwner = some options.leaseOwner := by
        simpa only [not_or, not_not] using held
      have distinct : (database.tables.provisioningJobs.map (·.id)).Nodup :=
        database.consistent .jobId
      -- The guards on status and owner select the same row as the identifier.
      have selection : updateWhere
          (fun job => job.id = options.jobId && job.status = .running &&
            job.leaseOwner = some options.leaseOwner)
          (fun job => job.finished options) database.tables.provisioningJobs =
          updateWhere (fun job => job.id = options.jobId)
            (fun job => job.finished options) database.tables.provisioningJobs := by
        apply List.map_congr_left
        intro job member
        by_cases same : job.id = options.jobId
        · have equal : job = current :=
            eq_of_key distinct member (lookup_mem found) (same.trans (lookup_key found).symm)
          simp [equal, lookup_key found, running, owner]
        · simp [same]
      obtain ⟨updated, update, settled⟩ := bind_ok.mp accepted
      obtain ⟨final, settle, reloaded⟩ := bind_ok.mp settled
      have written := Store.execute_ok.mp update
      unfold updateJob at written
      rw [selection] at written
      have finalTables : final.tables = { database.tables with
          provisioningJobs := updateWhere (fun job => job.id = options.jobId)
            (fun job => job.finished options) database.tables.provisioningJobs
          workspaces := finishedWorkspaces options current.workspaceId database.tables } := by
        rw [settleWorkspace_ok settle, written]
        rfl
      have reread : lookup (·.id) final.tables.provisioningJobs options.jobId =
          some (current.finished options) := by
        rw [finalTables]
        exact (lookup_updateWhere fun job _ => job.finished_id options).trans
          (by simp [found, lookup_key found])
      rw [reread] at reloaded
      simp only [Except.ok.injEq, Prod.mk.injEq] at reloaded
      obtain ⟨rfl, rfl⟩ := reloaded
      exact ⟨current, lookup_mem found, lookup_key found, running, owner, rfl, finalTables⟩

end NebulaCloud.Database
