import NebulaCloud.Provisioning.Lifecycle

namespace NebulaCloud.Provisioning

open NebulaCloud.Data NebulaCloud.Database

/-! # The provisioning state machine

Callers and processors take turns; each operation runs without interruption. -/

inductive LifecycleEvent
  | ensure (options : EnsureWorkspaceRunningOptions)
  | claim (options : ClaimProvisioningJobOptions)
  | finish (options : FinishProvisioningJobOptions)
deriving DecidableEq, Repr

/-- Any database without workspaces is a start; the identity tables are
arbitrary. -/
def lifecycle : System CloudDatabase LifecycleEvent where
  Initial database := database.tables.workspaces = []
  Enabled _ _ := True
  step database
    | .ensure options => (ensureWorkspaceRunning database options).1
    | .claim options => (commit database (claimProvisioningJob database options)).1
    | .finish options => (commit database (finishProvisioningJob database options)).1

def activeJobs (tables : Tables) (workspaceId : String) : Nat :=
  tables.provisioningJobs.countP fun job => job.workspaceId = workspaceId && job.active

/-- What every step keeps. -/
structure Coherent (tables : Tables) : Prop where
  provisioning : ProvisioningActive tables
  jobs : EveryJob JobColumns tables
  assigned : ReadyAssigned tables

theorem coherent_initial {database : CloudDatabase} (start : lifecycle.Initial database) :
    Coherent database.tables := by
  have empty : database.tables.workspaces = [] := start
  have noJobs : ∀ job, job ∉ database.tables.provisioningJobs := by
    intro job member
    have stored : job.workspaceId ∈ database.tables.workspaces.map (·.id) :=
      database.consistent .jobWorkspace job member
    simp [empty] at stored
  refine ⟨?_, fun job member => absurd member (noJobs job), ?_⟩
  · intro workspace member
    simp [empty] at member
  · intro workspace member
    simp [empty] at member

/-- An unready workspace is the only one with its identifier. -/
theorem unready_of_mem {database : CloudDatabase} {workspace : WorkspaceRow}
    (member : workspace ∈ database.tables.workspaces) (unready : workspace.state ≠ .ready) :
    Unready database.tables workspace.id := by
  intro other otherMember same
  have distinct : (database.tables.workspaces.map (·.id)).Nodup := database.consistent .workspaceId
  rwa [eq_of_key distinct otherMember member same]

theorem coherent_ensure {database : CloudDatabase} (options : EnsureWorkspaceRunningOptions)
    (coherent : Coherent database.tables) :
    Coherent (ensureWorkspaceRunning database options).1.tables ∧
      ReadyKept database.tables (ensureWorkspaceRunning database options).1.tables := by
  rcases ensureWorkspaceRunning_cases database options with
    same | ⟨ensured, workspace, ensure, same | ⟨after, marked, job, notReady, schedule, same⟩⟩
  · rw [same]
    exact ⟨coherent, .refl _⟩
  · rw [same]
    exact ⟨⟨provisioningActive_ensured ensure coherent.provisioning,
      everyJob_ensured coherent.jobs ensure, readyAssigned_ensured ensure coherent.assigned⟩,
      readyKept_ensured ensure⟩
  · rw [same]
    have unready := unready_of_mem (ensured_mem ensure) notReady
    have active := provisioningActive_ensured ensure coherent.provisioning
    have assigned := readyAssigned_ensured ensure coherent.assigned
    refine ⟨⟨provisioningActive_scheduled schedule unready active, ?_,
      readyAssigned_scheduled schedule assigned⟩,
      (readyKept_ensured ensure).trans (readyKept_scheduled schedule)⟩
    exact everyJob_scheduled (queuedJob_columns _ _ _) (everyJob_ensured coherent.jobs ensure) schedule

theorem coherent_claim {database : CloudDatabase} (options : ClaimProvisioningJobOptions)
    (coherent : Coherent database.tables) :
    Coherent (commit database (claimProvisioningJob database options)).1.tables ∧
      ReadyKept database.tables
        (commit database (claimProvisioningJob database options)).1.tables := by
  cases claim : claimProvisioningJob database options with
  | error failure => exact ⟨coherent, .refl _⟩
  | ok result =>
      obtain ⟨after, job⟩ := result
      refine ⟨⟨provisioningActive_claimed claim coherent.provisioning, ?_,
        readyAssigned_claimed claim coherent.assigned⟩, readyKept_claimed claim⟩
      exact everyJob_claimed (fun job _ => claimed_columns job options) coherent.jobs claim

theorem coherent_finish {database : CloudDatabase} (options : FinishProvisioningJobOptions)
    (coherent : Coherent database.tables) :
    Coherent (commit database (finishProvisioningJob database options)).1.tables ∧
      ReadyKept database.tables
        (commit database (finishProvisioningJob database options)).1.tables := by
  cases finish : finishProvisioningJob database options with
  | error failure => exact ⟨coherent, .refl _⟩
  | ok result =>
      obtain ⟨after, job⟩ := result
      have idle := coherent.provisioning.readyIdle
      refine ⟨⟨provisioningActive_finished finish coherent.provisioning, ?_,
        readyAssigned_finished finish coherent.assigned⟩, readyKept_finished finish idle⟩
      exact everyJob_finished (fun job _ => finished_columns job options) coherent.jobs finish

theorem coherent_step {database : CloudDatabase} (event : LifecycleEvent)
    (coherent : Coherent database.tables) :
    Coherent (lifecycle.step database event).tables ∧
      ReadyKept database.tables (lifecycle.step database event).tables := by
  cases event with
  | ensure options => exact coherent_ensure options coherent
  | claim options => exact coherent_claim options coherent
  | finish options => exact coherent_finish options coherent

theorem coherent_run {database : CloudDatabase} (events : List LifecycleEvent)
    (coherent : Coherent database.tables) :
    Coherent (lifecycle.run database events).tables ∧
      ReadyKept database.tables (lifecycle.run database events).tables := by
  induction events generalizing database with
  | nil => exact ⟨coherent, .refl _⟩
  | cons event rest ih =>
      obtain ⟨stepCoherent, stepKept⟩ := coherent_step event coherent
      obtain ⟨runCoherent, runKept⟩ := ih stepCoherent
      exact ⟨runCoherent, stepKept.trans runKept⟩

theorem coherent_reachable {database : CloudDatabase} (reachable : lifecycle.Reachable database) :
    Coherent database.tables :=
  reachable.invariant (fun database => Coherent database.tables)
    (fun _ start => coherent_initial start)
    (fun _ event _ coherent => (coherent_step event coherent).1)

/-- The invariant of the state machine: jobs and workspaces agree, the columns of
a job agree with its status, and readiness is final. -/
structure LifecycleInvariant (database : CloudDatabase) : Prop where
  provisioning : ∀ workspace ∈ database.tables.workspaces,
    workspace.state = .provisioning ↔ activeJobs database.tables workspace.id = 1
  oneActive : ∀ workspaceId, activeJobs database.tables workspaceId ≤ 1
  leased : ∀ job ∈ database.tables.provisioningJobs,
    job.status = .running ↔ job.leaseOwner.isSome ∧ job.leaseExpiresAt.isSome
  completed : ∀ job ∈ database.tables.provisioningJobs,
    job.completedAt.isSome ↔ job.status = .succeeded ∨ job.status = .failed
  ready : ∀ workspace ∈ database.tables.workspaces, workspace.state = .ready →
    workspace.workerWorkspaceId.isSome ∧ activeJobs database.tables workspace.id = 0 ∧
      ∀ events, ∃ later ∈ (lifecycle.run database events).tables.workspaces,
        later.id = workspace.id ∧ later.state = .ready

theorem lifecycleInvariant_of_reachable {database : CloudDatabase}
    (reachable : lifecycle.Reachable database) : LifecycleInvariant database := by
  have coherent := coherent_reachable reachable
  have bound := activeJobs_le_one database
  refine ⟨?_, bound, fun job member => (coherent.jobs job member).leased,
    fun job member => (coherent.jobs job member).completed, ?_⟩
  · intro workspace member
    rw [coherent.provisioning workspace member]
    exact (activeJobs_eq_one database).symm
  · intro workspace member ready
    refine ⟨coherent.assigned workspace member ready, ?_, ?_⟩
    · have idle := coherent.provisioning.readyIdle workspace member ready
      rw [← activeJobs_eq_one] at idle
      have atMost := bound workspace.id
      unfold activeJobs
      omega
    · intro events
      exact (coherent_run events coherent).2 workspace member ready

section Sample

set_option maxRecDepth 4000 in
/-- One organization with one member. -/
def newcomer : CloudDatabase :=
  Store.load
    { Tables.empty with
      organizations := [⟨"acme"⟩]
      members := [⟨"m1", "ada", "acme", "member"⟩] }
    (by decide)

def openWorkspace (jobId : String) (jobNow : Int) : EnsureWorkspaceRunningOptions where
  userId := "ada"
  organizationId := "acme"
  createId := "w1"
  now := 10
  createJobId := jobId
  jobNow := jobNow

def claimAt (leaseOwner : String) (now : Int) : ClaimProvisioningJobOptions where
  leaseOwner := leaseOwner
  leaseDurationMs := 300
  now := now

def finishAs (jobId leaseOwner : String) (outcome : ProvisioningOutcome) (now : Int) :
    FinishProvisioningJobOptions where
  jobId := jobId
  leaseOwner := leaseOwner
  outcome := outcome
  retryable := false
  retryDelayMs := 0
  errorCode := none
  errorMessage := none
  workerWorkspaceId := none
  now := now

def firstProvisioning : List LifecycleEvent :=
  [.ensure (openWorkspace "j1" 10), .claim (claimAt "p1" 20), .finish (finishAs "j1" "p1" .succeeded 30)]

theorem lifecycleInvariant_of_firstProvisioning :
    ((lifecycle.run newcomer firstProvisioning).tables.workspaces.map (·.state) = [.ready]) ∧
      LifecycleInvariant (lifecycle.run newcomer firstProvisioning) := by
  refine ⟨by decide +kernel, lifecycleInvariant_of_reachable ?_⟩
  exact (System.Reachable.initial (by rfl)).run ⟨trivial, trivial, trivial, trivial⟩

end Sample

end NebulaCloud.Provisioning
