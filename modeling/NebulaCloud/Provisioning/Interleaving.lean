import NebulaCloud.Provisioning.StateMachine

namespace NebulaCloud.Provisioning

open NebulaCloud.Data NebulaCloud.Database

/-! # Interleaved callers

`ensureWorkspaceRunning` is two transactions.  Between them other callers and
processors may run, so the second works from a workspace that may have changed. -/

/-- A caller between its two transactions, after it read an unready workspace. -/
structure ScheduleRequest where
  workspaceId : String
  createJobId : String
  now : Int
deriving DecidableEq, Repr

structure ConcurrentState where
  database : CloudDatabase
  pending : List ScheduleRequest

inductive ConcurrentEvent
  | resolve (options : EnsureWorkspaceRunningOptions)
  | schedule (request : ScheduleRequest)
  | claim (options : ClaimProvisioningJobOptions)
  | finish (options : FinishProvisioningJobOptions)
deriving DecidableEq, Repr

/-- The first transaction; a ready workspace is returned at once. -/
def resolve (state : ConcurrentState) (options : EnsureWorkspaceRunningOptions) : ConcurrentState :=
  match commit state.database
      (ensurePersonalWorkspace state.database options.toEnsurePersonalWorkspaceOptions) with
  | (database, .error _) => { state with database }
  | (database, .ok workspace) =>
      if workspace.state = .ready then { state with database }
      else
        { database
          pending := ⟨workspace.id, options.createJobId, options.jobNow⟩ :: state.pending }

def schedule (state : ConcurrentState) (request : ScheduleRequest) : ConcurrentState where
  database := (commit state.database (scheduleWorkspace state.database request.workspaceId
    request.createJobId request.now)).1
  pending := state.pending.erase request

def concurrent : System ConcurrentState ConcurrentEvent where
  Initial state := state.database.tables.workspaces = [] ∧ state.pending = []
  Enabled
    | state, .schedule request => request ∈ state.pending
    | _, _ => True
  step
    | state, .resolve options => resolve state options
    | state, .schedule request => schedule state request
    | state, .claim options =>
        { state with database := (commit state.database
            (claimProvisioningJob state.database options)).1 }
    | state, .finish options =>
        { state with database := (commit state.database
            (finishProvisioningJob state.database options)).1 }

instance (state : ConcurrentState) (event : ConcurrentEvent) :
    Decidable (concurrent.Enabled state event) :=
  match event with
  | .schedule request => inferInstanceAs (Decidable (request ∈ state.pending))
  | .resolve _ | .claim _ | .finish _ => .isTrue trivial

instance (tables : Tables) (workspaceId : String) : Decidable (ActiveJob tables workspaceId) :=
  inferInstanceAs (Decidable (∃ job ∈ tables.provisioningJobs, _))

/-- Readiness is not lost along a run: no state has a job for a ready workspace,
and no step takes a workspace out of `ready`. -/
def ReadinessKept (state : ConcurrentState) (events : List ConcurrentEvent) : Prop :=
  concurrent.Along (fun before event => ReadyIdle before.database.tables ∧
      ReadyKept before.database.tables (concurrent.step before event).database.tables) state events ∧
    ReadyIdle (concurrent.run state events).database.tables

/-- The workspace is not ready when its scheduling transaction runs, or the
transaction cannot file a job because its identifier is taken. -/
def SchedulesUnready (state : ConcurrentState) : ConcurrentEvent → Prop
  | .schedule request => Unready state.database.tables request.workspaceId ∨
      request.createJobId ∈ state.database.tables.provisioningJobs.map (·.id)
  | _ => True

instance (state : ConcurrentState) (event : ConcurrentEvent) :
    Decidable (SchedulesUnready state event) :=
  match event with
  | .schedule _ => inferInstanceAs (Decidable (_ ∨ _))
  | .resolve _ | .claim _ | .finish _ => .isTrue trivial

section Steps

variable {state : ConcurrentState}

theorem resolve_database (options : EnsureWorkspaceRunningOptions) :
    (resolve state options).database = (commit state.database
      (ensurePersonalWorkspace state.database options.toEnsurePersonalWorkspaceOptions)).1 := by
  unfold resolve
  split
  · rename_i database failure ended
    rw [ended]
  · rename_i database workspace ended
    rw [ended]
    split
    · rfl
    · rfl

theorem resolve_kept (options : EnsureWorkspaceRunningOptions)
    (idle : ReadyIdle state.database.tables) :
    ReadyKept state.database.tables (resolve state options).database.tables ∧
      ReadyIdle (resolve state options).database.tables := by
  rw [resolve_database]
  cases ensure : ensurePersonalWorkspace state.database options.toEnsurePersonalWorkspaceOptions with
  | error failure => exact ⟨.refl _, idle⟩
  | ok result => exact ⟨readyKept_ensured ensure, readyIdle_ensured ensure idle⟩

/-- A taken job identifier lets the transaction succeed only when a job is active
already, and then the workspace is not ready. -/
theorem unready_of_taken {database after : CloudDatabase} {workspaceId createJobId : String}
    {timestamp : Int} {workspace : WorkspaceRow} {job : ProvisioningJobRow}
    (idle : ReadyIdle database.tables)
    (taken : createJobId ∈ database.tables.provisioningJobs.map (·.id))
    (scheduled : scheduleWorkspace database workspaceId createJobId timestamp =
      .ok (after, workspace, job)) : Unready database.tables workspaceId := by
  obtain ⟨jobs, _, ⟨found, _⟩ | ⟨_, rfl, fresh, _⟩⟩ := scheduleWorkspace_ok scheduled
  · intro other member same ready
    have working := activeJob_of_findActiveJob found
    exact idle other member ready (same ▸ working)
  · exact absurd taken fresh

theorem schedule_kept {request : ScheduleRequest} (idle : ReadyIdle state.database.tables)
    (met : SchedulesUnready state (.schedule request)) :
    ReadyKept state.database.tables (schedule state request).database.tables ∧
      ReadyIdle (schedule state request).database.tables := by
  unfold schedule
  cases schedule : scheduleWorkspace state.database request.workspaceId request.createJobId
      request.now with
  | error failure => exact ⟨.refl _, idle⟩
  | ok result =>
      obtain ⟨after, workspace, job⟩ := result
      have unready : Unready state.database.tables request.workspaceId := by
        cases met with
        | inl unready => exact unready
        | inr taken => exact unready_of_taken idle taken schedule
      exact ⟨readyKept_scheduled schedule, readyIdle_scheduled schedule unready idle⟩

theorem concurrent_kept {event : ConcurrentEvent} (met : SchedulesUnready state event)
    (idle : ReadyIdle state.database.tables) :
    (ReadyIdle state.database.tables ∧
      ReadyKept state.database.tables (concurrent.step state event).database.tables) ∧
      ReadyIdle (concurrent.step state event).database.tables := by
  cases event with
  | resolve options =>
      obtain ⟨kept, stays⟩ := resolve_kept options idle
      exact ⟨⟨idle, kept⟩, stays⟩
  | schedule request =>
      obtain ⟨kept, stays⟩ := schedule_kept idle met
      exact ⟨⟨idle, kept⟩, stays⟩
  | claim options =>
      simp only [concurrent]
      cases claim : claimProvisioningJob state.database options with
      | error failure => exact ⟨⟨idle, .refl _⟩, idle⟩
      | ok result => exact ⟨⟨idle, readyKept_claimed claim⟩, readyIdle_claimed claim idle⟩
  | finish options =>
      simp only [concurrent]
      cases finish : finishProvisioningJob state.database options with
      | error failure => exact ⟨⟨idle, .refl _⟩, idle⟩
      | ok result => exact ⟨⟨idle, readyKept_finished finish idle⟩, readyIdle_finished finish idle⟩

end Steps

section Stale

variable {database : CloudDatabase} {createJobId : String}

/-- Filing a fresh job for an idle stored workspace breaks no constraint. -/
theorem insertJob_fresh (job : ProvisioningJobRow)
    (fresh : job.id ∉ database.tables.provisioningJobs.map (·.id))
    (idle : ¬ ActiveJob database.tables job.workspaceId) (checks : job.Checks)
    (stored : job.workspaceId ∈ database.tables.workspaces.map (·.id)) :
    ∃ after, insertJob database job = .ok after ∧
      after.tables = { database.tables with
        provisioningJobs := database.tables.provisioningJobs ++ [job] } := by
  have distinct : (database.tables.provisioningJobs.map (·.id)).Nodup := database.consistent .jobId
  have oneActive : ((database.tables.provisioningJobs.filter (·.active)).map (·.workspaceId)).Nodup :=
    database.consistent .jobActiveWorkspace
  have consistent : schema.Consistent { database.tables with
      provisioningJobs := database.tables.provisioningJobs ++ [job] } := by
    intro constraint
    have held := database.consistent constraint
    cases constraint with
    | jobId =>
        show ((database.tables.provisioningJobs ++ [job]).map (·.id)).Nodup
        rw [List.map_append]
        exact List.nodup_append'.mpr ⟨distinct, List.nodup_singleton _, by simpa using fresh⟩
    | jobActiveWorkspace =>
        show (((database.tables.provisioningJobs ++ [job]).filter (·.active)).map
          (·.workspaceId)).Nodup
        rw [List.filter_append, List.map_append]
        have separate : ∀ other ∈ database.tables.provisioningJobs, other.active = true →
            other.workspaceId ≠ job.workspaceId :=
          fun other member active same => idle ⟨other, member, same, active⟩
        cases active : job.active with
        | false => simpa [active] using oneActive
        | true =>
            refine List.nodup_append'.mpr ⟨oneActive, by simp [active], ?_⟩
            intro value left right
            obtain ⟨other, otherMember, rfl⟩ := List.mem_map.mp left
            obtain ⟨otherStored, otherActive⟩ := List.mem_filter.mp otherMember
            simp only [List.filter_cons, active, if_true, List.filter_nil, List.map_cons,
              List.map_nil, List.mem_singleton] at right
            exact separate other otherStored otherActive right
    | jobWorkspace =>
        intro other member
        rcases List.mem_append.mp member with kept | new
        · exact database.consistent .jobWorkspace other kept
        · rwa [List.mem_singleton.mp new]
    | jobChecks =>
        intro other member
        rcases List.mem_append.mp member with kept | new
        · exact database.consistent .jobChecks other kept
        · rwa [List.mem_singleton.mp new]
    | _ => exact held
  have noneFound : findActiveJob database.tables job.workspaceId = none :=
    findActiveJob_eq_none.mpr idle
  refine ⟨⟨_, consistent⟩, ?_, rfl⟩
  unfold insertJob
  rw [if_neg (by simp [noneFound, fresh])]
  exact Store.execute_of_consistent consistent

/-- A stale request files a job for a workspace that is already ready. -/
theorem scheduleWorkspace_ready (timestamp : Int) {workspace : WorkspaceRow}
    (member : workspace ∈ database.tables.workspaces) (ready : workspace.state = .ready)
    (idle : ¬ ActiveJob database.tables workspace.id)
    (fresh : createJobId ∉ database.tables.provisioningJobs.map (·.id)) :
    ∃ after, scheduleWorkspace database workspace.id createJobId timestamp =
        .ok (after, workspace, queuedJob createJobId workspace.id timestamp) ∧
      workspace ∈ after.tables.workspaces ∧ ActiveJob after.tables workspace.id := by
  have distinct : (database.tables.workspaces.map (·.id)).Nodup := database.consistent .workspaceId
  obtain ⟨after, insert, written⟩ := insertJob_fresh
    (queuedJob createJobId workspace.id timestamp) fresh idle ⟨le_refl 0, fun running => by cases running⟩
    (List.mem_map.mpr ⟨workspace, member, rfl⟩)
  have noneFound : findActiveJob database.tables workspace.id = none :=
    findActiveJob_eq_none.mpr idle
  have created : findActiveJob after.tables workspace.id =
      some (queuedJob createJobId workspace.id timestamp) := by
    unfold findActiveJob at noneFound ⊢
    rw [written, List.find?_append, noneFound]
    simp [queuedJob, ProvisioningJobRow.active]
  -- The only row with this identifier is ready, so the update selects nothing.
  have unmarked : markProvisioning workspace.id timestamp after.tables = after.tables := by
    have untouched : updateWhere (fun row => row.id = workspace.id && row.state ≠ .ready)
        (fun row => { row with state := .provisioning, updatedAt := timestamp })
        after.tables.workspaces = after.tables.workspaces := by
      apply updateWhere_of_none
      intro row rowMember
      rw [written] at rowMember
      by_cases same : row.id = workspace.id
      · rw [eq_of_key distinct rowMember member same]
        simp [ready]
      · simp [same]
    unfold markProvisioning
    rw [untouched]
  have mark : statement after (markProvisioning workspace.id timestamp) = .ok after :=
    Store.execute_ok.mpr unmarked.symm
  have found : lookup (·.id) after.tables.workspaces workspace.id = some workspace := by
    rw [written]
    exact lookup_of_mem distinct member
  refine ⟨after, ?_, lookup_mem found, activeJob_of_findActiveJob created⟩
  have ensure : ensureActiveJob database workspace.id createJobId timestamp = .ok after := by
    unfold ensureActiveJob
    rw [noneFound]
    exact insert
  unfold scheduleWorkspace
  simp only [ensure, bind, Except.bind, created, mark, found]

theorem schedulesUnready_of_idle {state : ConcurrentState} {request : ScheduleRequest}
    (idle : ReadyIdle state.database.tables)
    (after : ReadyIdle (schedule state request).database.tables) :
    SchedulesUnready state (.schedule request) := by
  by_cases taken : request.createJobId ∈ state.database.tables.provisioningJobs.map (·.id)
  · exact .inr taken
  · refine .inl fun workspace member same ready => ?_
    obtain ⟨written, scheduled, kept, working⟩ := scheduleWorkspace_ready request.now
      member ready (idle workspace member ready) taken
    have committed : (schedule state request).database = written := by
      unfold schedule
      rw [← same, scheduled]
      rfl
    rw [committed] at after
    exact after workspace kept ready working

end Stale

/-! ## When readiness is kept -/

theorem schedulesUnready_of_kept {state : ConcurrentState} {events : List ConcurrentEvent}
    (kept : ReadinessKept state events) : concurrent.Along SchedulesUnready state events := by
  induction events generalizing state with
  | nil => trivial
  | cons event rest ih =>
      obtain ⟨⟨⟨idle, _⟩, later⟩, final⟩ := kept
      have next : ReadyIdle (concurrent.step state event).database.tables := by
        cases rest with
        | nil => exact final
        | cons following others => exact later.1.1
      refine ⟨?_, ih ⟨later, final⟩⟩
      cases event with
      | schedule request => exact schedulesUnready_of_idle idle next
      | resolve options => trivial
      | claim options => trivial
      | finish options => trivial

theorem readinessKept_iff {state : ConcurrentState} {events : List ConcurrentEvent}
    (start : concurrent.Initial state) :
    ReadinessKept state events ↔ concurrent.Along SchedulesUnready state events := by
  refine ⟨schedulesUnready_of_kept, fun met => ?_⟩
  have idle : ReadyIdle state.database.tables := by
    intro workspace member
    simp [start.1] at member
  exact met.invariant idle fun _ _ => concurrent_kept

def overlappingCallers : List ConcurrentEvent :=
  [.resolve (openWorkspace "j1" 10), .resolve (openWorkspace "j2" 25), .schedule ⟨"w1", "j1", 10⟩,
    .claim (claimAt "p1" 20), .schedule ⟨"w1", "j2", 25⟩, .finish (finishAs "j1" "p1" .succeeded 30)]

theorem readinessKept_overlappingCallers : ReadinessKept ⟨newcomer, []⟩ overlappingCallers :=
  (readinessKept_iff ⟨rfl, rfl⟩).mpr (by decide +kernel)

/-- The second caller read the workspace before it became ready. -/
def staleCaller : List ConcurrentEvent :=
  [.resolve (openWorkspace "j1" 10), .resolve (openWorkspace "j2" 35), .schedule ⟨"w1", "j1", 10⟩,
    .claim (claimAt "p1" 20), .finish (finishAs "j1" "p1" .succeeded 30), .schedule ⟨"w1", "j2", 35⟩]

def staleCallerFails : List ConcurrentEvent :=
  staleCaller ++ [.claim (claimAt "p1" 40), .finish (finishAs "j2" "p1" .failed 50)]

theorem readiness_lost_to_staleCaller :
    concurrent.Initial ⟨newcomer, []⟩ ∧ concurrent.Runs ⟨newcomer, []⟩ staleCallerFails ∧
      (∃ workspace ∈ (concurrent.run ⟨newcomer, []⟩ staleCaller).database.tables.workspaces,
        workspace.state = .ready ∧
          ActiveJob (concurrent.run ⟨newcomer, []⟩ staleCaller).database.tables workspace.id) ∧
      (∃ workspace ∈ (concurrent.run ⟨newcomer, []⟩ staleCallerFails).database.tables.workspaces,
        workspace.state = .failed) ∧
      ¬ ReadinessKept ⟨newcomer, []⟩ staleCallerFails := by
  refine ⟨⟨rfl, rfl⟩, by decide +kernel, by decide +kernel, by decide +kernel, fun kept => ?_⟩
  have met := schedulesUnready_of_kept kept
  revert met
  decide +kernel

end NebulaCloud.Provisioning
