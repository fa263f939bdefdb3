import NebulaCloud.Data.Lease
import NebulaCloud.Provisioning.StateMachine

namespace NebulaCloud.Provisioning

open NebulaCloud.Data NebulaCloud.Database

/-! # Lease fencing

Processors claim jobs, call a worker, and finish what they claimed, however late.
A crashed processor is one that takes no further step. -/

structure ProvisioningProcessor where
  processorId : String
  leaseDurationMs : Int
  maximumAttempts : Int
deriving DecidableEq, Repr

structure WorkerFailure where
  code : String
  message : String
  retryable : Bool
deriving DecidableEq, Repr

/-- How the worker call of `processNext` ended.  The worker client refuses an
answer for another workspace, so a running workspace needs no identifier here. -/
inductive WorkerResult
  | running
  | failed (failure : WorkerFailure)
deriving DecidableEq, Repr

/-- `Math.min(60000, 1000 * Math.pow(2, Math.max(0, attempt - 1)))`. -/
def retryDelayMs (attempt : Int) : Int := min 60000 (1000 * 2 ^ (attempt - 1).toNat)

/-- What `processNext` passes to `finishProvisioningJob` after a worker call. -/
def finishOptions (processor : ProvisioningProcessor) (job : ProvisioningJobRow) (now : Int) :
    WorkerResult → FinishProvisioningJobOptions
  | .running =>
      { jobId := job.id
        leaseOwner := processor.processorId
        outcome := .succeeded
        retryable := false
        retryDelayMs := 0
        errorCode := none
        errorMessage := none
        workerWorkspaceId := some job.workspaceId
        now }
  | .failed failure =>
      { jobId := job.id
        leaseOwner := processor.processorId
        outcome := .failed
        retryable := failure.retryable && job.attempt < processor.maximumAttempts
        retryDelayMs := retryDelayMs job.attempt
        errorCode := some failure.code
        errorMessage := some failure.message
        workerWorkspaceId := none
        now }

def claimOptions (processor : ProvisioningProcessor) (now : Int) : ClaimProvisioningJobOptions where
  leaseOwner := processor.processorId
  leaseDurationMs := processor.leaseDurationMs
  now := now

/-- `flights` are the jobs that processors claimed, as they were when claimed. -/
structure FencingState where
  database : CloudDatabase
  flights : List (String × ProvisioningJobRow)
  history : List (LeaseEvent String String)

inductive FencingEvent
  | resolve (options : EnsurePersonalWorkspaceOptions)
  | schedule (workspaceId createJobId : String) (now : Int)
  | claim (processor : ProvisioningProcessor) (now : Int)
  | finish (processor : ProvisioningProcessor) (job : ProvisioningJobRow) (result : WorkerResult)
      (now : Int)
deriving DecidableEq, Repr

def claimStep (state : FencingState) (processor : ProvisioningProcessor) (now : Int) : FencingState :=
  match commit state.database (claimProvisioningJob state.database (claimOptions processor now)) with
  | (database, .ok (some job)) =>
      { database
        flights := (processor.processorId, job) :: state.flights
        history := .claimed processor.processorId job.id :: state.history }
  | (database, .ok none) | (database, .error _) => { state with database }

def finishStep (state : FencingState) (options : FinishProvisioningJobOptions) : FencingState :=
  match commit state.database (finishProvisioningJob state.database options) with
  | (database, .ok job) =>
      { state with
        database
        history := (if options.requeue then .requeued job.id else .finished job.id) :: state.history }
  | (database, .error _) => { state with database }

def fencing : System FencingState FencingEvent where
  Initial state :=
    state.database.tables.workspaces = [] ∧ state.flights = [] ∧ state.history = []
  Enabled
    | state, .finish processor job _ _ => (processor.processorId, job) ∈ state.flights
    | _, _ => True
  step
    | state, .resolve options =>
        { state with database := (commit state.database
            (ensurePersonalWorkspace state.database options)).1 }
    | state, .schedule workspaceId createJobId now =>
        { state with database := (commit state.database
            (scheduleWorkspace state.database workspaceId createJobId now)).1 }
    | state, .claim processor now => claimStep state processor now
    | state, .finish processor job result now =>
        finishStep state (finishOptions processor job now result)

instance (state : FencingState) (event : FencingEvent) : Decidable (fencing.Enabled state event) :=
  match event with
  | .finish processor job _ _ =>
      inferInstanceAs (Decidable ((processor.processorId, job) ∈ state.flights))
  | .resolve _ | .schedule _ _ _ | .claim _ _ => .isTrue trivial

theorem fencing_claim (state : FencingState) (processor : ProvisioningProcessor) (now : Int) :
    fencing.step state (.claim processor now) = claimStep state processor now := by
  simp only [fencing]

theorem fencing_finish (state : FencingState) (processor : ProvisioningProcessor)
    (job : ProvisioningJobRow) (result : WorkerResult) (now : Int) :
    fencing.step state (.finish processor job result now) =
      finishStep state (finishOptions processor job now result) := by
  simp only [fencing]

/-! ## A held lease can be finished -/

/-- A workspace runs on the worker under its own identifier. -/
def OwnWorker (workspaces : List WorkspaceRow) : Prop :=
  ∀ workspace ∈ workspaces, ∀ workerWorkspaceId ∈ workspace.workerWorkspaceId,
    workerWorkspaceId = workspace.id

section Finish

variable {database : CloudDatabase} {options : FinishProvisioningJobOptions}

theorem finished_checks {job : ProvisioningJobRow} (checks : job.Checks) :
    (job.finished options).Checks := by
  refine ⟨checks.1, fun running => ?_⟩
  have status : options.nextStatus = .running := running
  unfold FinishProvisioningJobOptions.nextStatus at status
  split at status
  · contradiction
  · split at status <;> contradiction

/-- Ending running jobs breaks no constraint. -/
theorem finished_consistent {selected : ProvisioningJobRow → Bool}
    (running : ∀ job, selected job = true → job.status = .running) :
    schema.Consistent { database.tables with
      provisioningJobs := updateWhere selected (fun job => job.finished options)
        database.tables.provisioningJobs } := by
  have ids : (updateWhere selected (fun job => job.finished options)
      database.tables.provisioningJobs).map (·.id) = database.tables.provisioningJobs.map (·.id) :=
    map_updateWhere fun _ => rfl
  intro constraint
  have held := database.consistent constraint
  cases constraint with
  | jobId => exact (congrArg List.Nodup ids).mpr held
  | jobActiveWorkspace =>
      have fewer : (((updateWhere selected (fun job => job.finished options)
          database.tables.provisioningJobs).filter (·.active)).map (·.workspaceId)).Sublist
          ((database.tables.provisioningJobs.filter (·.active)).map (·.workspaceId)) :=
        filter_updateWhere_sublist (fun _ => rfl)
          fun job _ chosen _ => by simp [ProvisioningJobRow.active, running job chosen]
      exact fewer.nodup held
  | jobWorkspace =>
      intro job member
      obtain ⟨before, beforeMember, rfl⟩ := mem_updateWhere.mp member
      have stored := held before beforeMember
      split
      · exact stored
      · exact stored
  | jobChecks =>
      intro job member
      obtain ⟨before, beforeMember, rfl⟩ := mem_updateWhere.mp member
      have checks := held before beforeMember
      split
      · exact finished_checks checks
      · exact checks
  | _ => exact held

/-- Writing the state and the own worker identifier of workspaces breaks no
constraint. -/
theorem settled_consistent {selected : WorkspaceRow → Bool} {change : WorkspaceRow → WorkspaceRow}
    (own : OwnWorker (updateWhere selected change database.tables.workspaces))
    (sameId : ∀ row, (change row).id = row.id)
    (sameMember : ∀ row, (change row).memberId = row.memberId)
    (sameOrganization : ∀ row, (change row).organizationId = row.organizationId)
    (sameHost : ∀ row, (change row).workerHostId = row.workerHostId)
    (sameReserved : ∀ row, (change row).reserved = row.reserved) :
    schema.Consistent { database.tables with
      workspaces := updateWhere selected change database.tables.workspaces } := by
  have ids : (updateWhere selected change database.tables.workspaces).map (·.id) =
      database.tables.workspaces.map (·.id) := map_updateWhere sameId
  have distinct : (database.tables.workspaces.map (·.id)).Nodup := database.consistent .workspaceId
  have fewer := filterMap_sublist_map own
  rw [ids] at fewer
  refine consistent_of_workspaceChange database sameId sameMember sameOrganization (fewer.nodup distinct) ?_ ?_
  · intro row stored
    rw [sameHost]
    exact stored
  · intro row stored
    rw [sameReserved]
    exact stored

theorem own_updateWorkspace {state : WorkspaceState} {workerWorkspaceId : Option String} {now : Int}
    {workspaceId : String} {tables : Tables}
    (assigned : ∀ worker ∈ workerWorkspaceId, worker = workspaceId) (own : OwnWorker tables.workspaces) :
    OwnWorker (updateWorkspace state workerWorkspaceId now workspaceId tables).workspaces := by
  intro row member worker stored
  obtain ⟨before, beforeMember, rfl⟩ := mem_updateWhere.mp member
  have ownBefore := own before beforeMember worker
  split at stored
  · rename_i same
    rw [if_pos same]
    cases new : workerWorkspaceId with
    | none => exact ownBefore (by simpa [new] using stored)
    | some value =>
        have written : value = worker := by simpa [new] using stored
        rw [← written, assigned value new]
        exact (of_decide_eq_true same).symm
  · rename_i different
    rw [if_neg different]
    exact ownBefore stored

theorem assignedWorker_own {workspaceId : String}
    (worker : ∀ workerWorkspaceId ∈ options.workerWorkspaceId, workerWorkspaceId = workspaceId) :
    ∀ assigned ∈ options.assignedWorker workspaceId, assigned = workspaceId := by
  intro assigned stored
  unfold FinishProvisioningJobOptions.assignedWorker at stored
  split at stored
  · cases passed : options.workerWorkspaceId with
    | none => simpa [passed, eq_comm] using stored
    | some value =>
        have same := worker value passed
        simpa [passed, same, eq_comm] using stored
  · contradiction

theorem own_finishedWorkspaces {workspaceId : String} {tables : Tables}
    (worker : ∀ workerWorkspaceId ∈ options.workerWorkspaceId, workerWorkspaceId = workspaceId)
    (own : OwnWorker tables.workspaces) :
    OwnWorker (finishedWorkspaces options workspaceId tables) := by
  unfold finishedWorkspaces
  split
  · exact own
  · exact own_updateWorkspace (assignedWorker_own worker) own

theorem settleWorkspace_accepts {workspaceId : String} (own : OwnWorker database.tables.workspaces)
    (worker : ∀ workerWorkspaceId ∈ options.workerWorkspaceId, workerWorkspaceId = workspaceId) :
    ∃ after, settleWorkspace database options workspaceId = .ok after := by
  unfold settleWorkspace
  split
  · exact ⟨database, rfl⟩
  · rename_i state _
    have consistent : schema.Consistent (updateWorkspace state (options.assignedWorker workspaceId)
        options.now workspaceId database.tables) :=
      settled_consistent (own_updateWorkspace (assignedWorker_own worker) own)
        (fun _ => rfl) (fun _ => rfl) (fun _ => rfl) (fun _ => rfl) (fun _ => rfl)
    exact ⟨_, Store.execute_of_consistent consistent⟩

/-- A failure keeps the identifiers that the workers gave. -/
theorem settleWorkspace_failed {workspaceId : String} (failed : options.outcome = .failed) :
    ∃ after, settleWorkspace database options workspaceId = .ok after := by
  unfold settleWorkspace
  split
  · exact ⟨database, rfl⟩
  · rename_i state _
    have nothing : options.assignedWorker workspaceId = none := by
      simp [FinishProvisioningJobOptions.assignedWorker, failed]
    have workers : (updateWorkspace state none options.now workspaceId database.tables).workspaces.filterMap
        (·.workerWorkspaceId) = database.tables.workspaces.filterMap (·.workerWorkspaceId) := by
      rw [updateWorkspace, updateWhere, List.filterMap_map]
      refine List.filterMap_congr fun row _ => ?_
      simp only [Function.comp_apply]
      split <;> rfl
    have distinct : (database.tables.workspaces.filterMap (·.workerWorkspaceId)).Nodup :=
      database.consistent .workspaceWorkerWorkspace
    have consistent : schema.Consistent (updateWorkspace state none options.now workspaceId database.tables) := by
      refine consistent_of_workspaceChange database (fun _ => rfl) (fun _ => rfl) (fun _ => rfl) ?_ ?_ ?_
      · exact (congrArg List.Nodup workers).mpr distinct
      · exact fun _ stored => stored
      · exact fun _ stored => stored
    rw [nothing]
    exact ⟨_, Store.execute_of_consistent consistent⟩

/-- The holder of a running lease can finish the job, if the workspace can be settled. -/
theorem finishProvisioningJob_settles {current : ProvisioningJobRow}
    (member : current ∈ database.tables.provisioningJobs) (found : current.id = options.jobId)
    (running : current.status = .running) (owner : current.leaseOwner = some options.leaseOwner)
    (settles : ∀ updated : CloudDatabase, updated.tables = updateJob options database.tables →
      ∃ after, settleWorkspace updated options current.workspaceId = .ok after) :
    ∃ result, finishProvisioningJob database options = .ok result := by
  have distinct : (database.tables.provisioningJobs.map (·.id)).Nodup := database.consistent .jobId
  have stored : lookup (·.id) database.tables.provisioningJobs options.jobId = some current :=
    (lookup_eq_some distinct).mpr ⟨member, found⟩
  have consistent : schema.Consistent (updateJob options database.tables) :=
    finished_consistent fun job chosen => by
      simp only [Bool.and_eq_true, decide_eq_true_eq] at chosen
      exact chosen.1.2
  obtain ⟨updated, update, written⟩ : ∃ updated, statement database (updateJob options) = .ok updated ∧
      updated.tables = updateJob options database.tables :=
    ⟨_, Store.execute_of_consistent consistent, rfl⟩
  obtain ⟨final, settle⟩ := settles updated written
  have reread : ∃ job, lookup (·.id) final.tables.provisioningJobs options.jobId = some job := by
    rw [settleWorkspace_ok settle, written]
    unfold updateJob
    rw [lookup_updateWhere fun job _ => job.finished_id options, stored]
    exact ⟨_, rfl⟩
  obtain ⟨job, reread⟩ := reread
  refine ⟨(final, job), ?_⟩
  unfold finishProvisioningJob
  rw [stored]
  simp only [running, owner, ne_eq, not_true_eq_false, or_self, if_false, update, settle, bind,
    Except.bind, reread]

theorem finishProvisioningJob_accepts {current : ProvisioningJobRow}
    (member : current ∈ database.tables.provisioningJobs) (found : current.id = options.jobId)
    (running : current.status = .running) (owner : current.leaseOwner = some options.leaseOwner)
    (own : OwnWorker database.tables.workspaces)
    (worker : ∀ workerWorkspaceId ∈ options.workerWorkspaceId,
      workerWorkspaceId = current.workspaceId) :
    ∃ result, finishProvisioningJob database options = .ok result := by
  refine finishProvisioningJob_settles member found running owner fun updated written => ?_
  have ownUpdated : OwnWorker updated.tables.workspaces := by
    rw [written]
    exact own
  exact settleWorkspace_accepts ownUpdated worker

end Finish

/-! ## The job rows tell the history -/

/-- The lease columns and the attempt count of every job follow from the history. -/
structure Fenced (state : FencingState) : Prop where
  held : ∀ job ∈ state.database.tables.provisioningJobs, ∀ owner,
    HeldBy state.history owner job.id ↔ job.status = .running ∧ job.leaseOwner = some owner
  attempts : ∀ job ∈ state.database.tables.provisioningJobs, job.attempt = claims state.history job.id
  recorded : ∀ entry ∈ state.history,
    entry.item ∈ state.database.tables.provisioningJobs.map (·.id)
  own : OwnWorker state.database.tables.workspaces
  flights : ∀ flight ∈ state.flights, ∃ current ∈ state.database.tables.provisioningJobs,
    current.id = flight.2.id ∧ current.workspaceId = flight.2.workspaceId

/-- A job that ended stays as it is. -/
def EndedKept (before after : Tables) : Prop :=
  ∀ job ∈ before.provisioningJobs, job.active = false → job ∈ after.provisioningJobs

section Steps

variable {state : FencingState} {after : CloudDatabase}

theorem fenced_initial (start : fencing.Initial state) : Fenced state := by
  obtain ⟨noWorkspaces, noFlights, noHistory⟩ := start
  have noJobs : ∀ job, job ∉ state.database.tables.provisioningJobs := by
    intro job member
    have stored : job.workspaceId ∈ state.database.tables.workspaces.map (·.id) :=
      state.database.consistent .jobWorkspace job member
    simp [noWorkspaces] at stored
  refine ⟨fun job member => absurd member (noJobs job), fun job member => absurd member (noJobs job),
    ?_, ?_, ?_⟩
  · simp [noHistory]
  · intro workspace member
    simp [noWorkspaces] at member
  · simp [noFlights]

/-- Fresh queued jobs have no history. -/
theorem fenced_filed {filed : List ProvisioningJobRow} (fenced : Fenced state)
    (jobs : after.tables.provisioningJobs = state.database.tables.provisioningJobs ++ filed)
    (queued : ∀ job ∈ filed, job.status = .queued ∧ job.attempt = 0)
    (own : OwnWorker after.tables.workspaces) : Fenced { state with database := after } := by
  have distinct : (after.tables.provisioningJobs.map (·.id)).Nodup := after.consistent .jobId
  have fresh : ∀ job ∈ filed, ∀ entry ∈ state.history, entry.item ≠ job.id := by
    intro job member entry recorded same
    rw [jobs, List.map_append] at distinct
    have stored := fenced.recorded entry recorded
    rw [same] at stored
    exact (List.nodup_append.mp distinct).2.2 _ stored _ (List.mem_map.mpr ⟨job, member, rfl⟩) rfl
  refine ⟨?_, ?_, ?_, own, ?_⟩
  · intro job member owner
    rw [jobs] at member
    rcases List.mem_append.mp member with old | new
    · exact fenced.held job old owner
    · have unheld : ¬ HeldBy state.history owner job.id := not_heldBy_of_fresh (fresh job new)
      simp [unheld, (queued job new).1]
  · intro job member
    rw [jobs] at member
    rcases List.mem_append.mp member with old | new
    · exact fenced.attempts job old
    · rw [(queued job new).2, claims_of_fresh (fresh job new)]
      rfl
  · intro entry member
    rw [jobs, List.map_append]
    exact List.mem_append_left _ (fenced.recorded entry member)
  · intro flight member
    obtain ⟨current, currentMember, same⟩ := fenced.flights flight member
    exact ⟨current, by rw [jobs]; exact List.mem_append_left _ currentMember, same⟩

theorem fenced_resolve (options : EnsurePersonalWorkspaceOptions) (fenced : Fenced state) :
    Fenced (fencing.step state (.resolve options)) ∧
      EndedKept state.database.tables (fencing.step state (.resolve options)).database.tables := by
  simp only [fencing]
  cases ensure : ensurePersonalWorkspace state.database options with
  | error failure => exact ⟨fenced, fun _ member _ => member⟩
  | ok result =>
      obtain ⟨after, workspace⟩ := result
      obtain ⟨rfl, _⟩ | ⟨memberId, rfl, written⟩ := ensurePersonalWorkspace_ok ensure
      · exact ⟨fenced, fun _ member _ => member⟩
      · have jobs : after.tables.provisioningJobs =
            state.database.tables.provisioningJobs ++ [] := by
          rw [written, List.append_nil]
        refine ⟨fenced_filed fenced jobs (by simp) ?_, ?_⟩
        · intro row member worker stored
          rw [commit_ok, written] at member
          rcases List.mem_append.mp member with old | new
          · exact fenced.own row old worker stored
          · rw [List.mem_singleton.mp new] at stored
            contradiction
        · intro job member _
          rwa [commit_ok, jobs, List.append_nil]

theorem fenced_schedule (workspaceId createJobId : String) (now : Int) (fenced : Fenced state) :
    Fenced (fencing.step state (.schedule workspaceId createJobId now)) ∧
      EndedKept state.database.tables
        (fencing.step state (.schedule workspaceId createJobId now)).database.tables := by
  simp only [fencing]
  cases schedule : scheduleWorkspace state.database workspaceId createJobId now with
  | error failure => exact ⟨fenced, fun _ member _ => member⟩
  | ok result =>
      obtain ⟨after, workspace, job⟩ := result
      have own : OwnWorker after.tables.workspaces := by
        intro row member worker stored
        obtain ⟨before, beforeMember, sameId, sameWorker, _⟩ :=
          scheduled_workspaces schedule row member
        rw [sameWorker] at stored
        rw [sameId]
        exact fenced.own before beforeMember worker stored
      obtain ⟨jobs, written, ⟨_, rfl⟩ | ⟨_, rfl, _, rfl⟩⟩ := scheduleWorkspace_ok schedule
      · have kept : after.tables.provisioningJobs =
            state.database.tables.provisioningJobs ++ [] := by
          rw [written, List.append_nil]
          rfl
        refine ⟨fenced_filed fenced kept (by simp) own, ?_⟩
        intro job member _
        rwa [commit_ok, kept, List.append_nil]
      · have filed : after.tables.provisioningJobs = state.database.tables.provisioningJobs ++
            [queuedJob createJobId workspaceId now] := by
          rw [written]
          rfl
        refine ⟨fenced_filed fenced filed (by simp [queuedJob]) own, ?_⟩
        intro job member _
        rw [commit_ok, filed]
        exact List.mem_append_left _ member

/-- A claim or a finish rewrites one job row and records what it did. -/
theorem fenced_rewritten {database : CloudDatabase} {flights : List (String × ProvisioningJobRow)}
    {entry : LeaseEvent String String} {current : ProvisioningJobRow}
    {change : ProvisioningJobRow → ProvisioningJobRow} (fenced : Fenced state)
    (member : current ∈ state.database.tables.provisioningJobs) (recorded : entry.item = current.id)
    (jobs : database.tables.provisioningJobs =
      updateWhere (fun job => job.id = current.id) change state.database.tables.provisioningJobs)
    (sameId : ∀ job, (change job).id = job.id)
    (sameWorkspace : ∀ job, (change job).workspaceId = job.workspaceId)
    (held : ∀ owner, entry = .claimed owner current.id ↔
      (change current).status = .running ∧ (change current).leaseOwner = some owner)
    (attempts : (change current).attempt = claims (entry :: state.history) current.id)
    (others : ∀ wanted, wanted ≠ current.id →
      claims (entry :: state.history) wanted = claims state.history wanted)
    (own : OwnWorker database.tables.workspaces)
    (flown : ∀ flight ∈ flights, flight ∈ state.flights ∨ flight.2 = change current) :
    Fenced ⟨database, flights, entry :: state.history⟩ := by
  have distinct : (state.database.tables.provisioningJobs.map (·.id)).Nodup :=
    state.database.consistent .jobId
  have rows (job : ProvisioningJobRow) : job ∈ database.tables.provisioningJobs ↔
      job = change current ∨
        (job ∈ state.database.tables.provisioningJobs ∧ job.id ≠ current.id) := by
    rw [jobs]
    exact mem_updateWhere_key distinct member rfl
  have ids : database.tables.provisioningJobs.map (·.id) =
      state.database.tables.provisioningJobs.map (·.id) := by
    rw [jobs]
    exact map_updateWhere sameId
  refine ⟨?_, ?_, ?_, own, ?_⟩
  · intro job jobMember owner
    rcases (rows job).mp jobMember with rfl | ⟨kept, other⟩
    · rw [heldBy_cons_self (recorded.trans (sameId current).symm), sameId]
      exact held owner
    · rw [heldBy_cons_of_ne (by rw [recorded]; exact fun same => other same.symm)]
      exact fenced.held job kept owner
  · intro job jobMember
    rcases (rows job).mp jobMember with rfl | ⟨kept, other⟩
    · rw [sameId]
      exact attempts
    · rw [others job.id other]
      exact fenced.attempts job kept
  · intro later laterMember
    rw [ids]
    rcases List.mem_cons.mp laterMember with rfl | old
    · rw [recorded]
      exact List.mem_map.mpr ⟨current, member, rfl⟩
    · exact fenced.recorded later old
  · intro flight flightMember
    rcases flown flight flightMember with old | new
    · obtain ⟨job, jobMember, jobId, jobWorkspace⟩ := fenced.flights flight old
      by_cases same : job.id = current.id
      · have equal := eq_of_key distinct jobMember member same
        subst equal
        exact ⟨change job, (rows _).mpr (.inl rfl), (sameId job).trans jobId,
          (sameWorkspace job).trans jobWorkspace⟩
      · exact ⟨job, (rows job).mpr (.inr ⟨jobMember, same⟩), jobId, jobWorkspace⟩
    · rw [new]
      exact ⟨change current, (rows _).mpr (.inl rfl), rfl, rfl⟩

theorem endedKept_rewritten {current : ProvisioningJobRow}
    {change : ProvisioningJobRow → ProvisioningJobRow}
    (member : current ∈ state.database.tables.provisioningJobs) (active : current.active = true)
    (jobs : after.tables.provisioningJobs =
      updateWhere (fun job => job.id = current.id) change state.database.tables.provisioningJobs) :
    EndedKept state.database.tables after.tables := by
  have distinct : (state.database.tables.provisioningJobs.map (·.id)).Nodup :=
    state.database.consistent .jobId
  intro job jobMember ended
  rw [jobs]
  refine mem_updateWhere_of_not jobMember (decide_eq_false fun same => ?_)
  rw [eq_of_key distinct jobMember member same, active] at ended
  contradiction

theorem fenced_claim (processor : ProvisioningProcessor) (now : Int) (fenced : Fenced state) :
    Fenced (claimStep state processor now) ∧
      EndedKept state.database.tables (claimStep state processor now).database.tables := by
  unfold claimStep
  cases claim : claimProvisioningJob state.database (claimOptions processor now) with
  | error failure => exact ⟨fenced, fun _ member _ => member⟩
  | ok result =>
      obtain ⟨after, job⟩ := result
      obtain ⟨rfl, rfl⟩ | ⟨candidate, member, claimable, rfl, written⟩ := claimProvisioningJob_ok claim
      · exact ⟨fenced, fun _ member _ => member⟩
      · have jobs : after.tables.provisioningJobs =
            updateWhere (fun job => job.id = candidate.id)
              (fun job => job.claimed (claimOptions processor now))
              state.database.tables.provisioningJobs := by
          rw [written]
        have own : OwnWorker after.tables.workspaces := by
          rw [written]
          exact fenced.own
        refine ⟨fenced_rewritten fenced member rfl jobs (fun _ => rfl) (fun _ => rfl) ?_ ?_ ?_ own ?_,
          endedKept_rewritten member (claimable_active claimable) jobs⟩
        · intro owner
          simp [ProvisioningJobRow.claimed, claimOptions]
        · have counted := fenced.attempts candidate member
          rw [claims_cons_claimed, if_pos (candidate.claimed_id _), candidate.claimed_attempt]
          omega
        · intro wanted other
          rw [claims_cons_claimed, candidate.claimed_id, if_neg (Ne.symm other)]
          rfl
        · intro flight flightMember
          rcases List.mem_cons.mp flightMember with rfl | old
          · exact .inr rfl
          · exact .inl old

theorem finished_not_running (job : ProvisioningJobRow) (options : FinishProvisioningJobOptions) :
    (job.finished options).status ≠ .running := by
  simp only [ProvisioningJobRow.finished, FinishProvisioningJobOptions.nextStatus]
  split
  · simp
  · split <;> simp

theorem fenced_finish {options : FinishProvisioningJobOptions} (fenced : Fenced state)
    (worker : ∀ current ∈ state.database.tables.provisioningJobs, current.id = options.jobId →
      ∀ workerWorkspaceId ∈ options.workerWorkspaceId, workerWorkspaceId = current.workspaceId) :
    Fenced (finishStep state options) ∧
      EndedKept state.database.tables (finishStep state options).database.tables := by
  unfold finishStep
  cases finish : finishProvisioningJob state.database options with
  | error failure => exact ⟨fenced, fun _ member _ => member⟩
  | ok result =>
      obtain ⟨after, job⟩ := result
      obtain ⟨current, member, found, running, _, rfl, written⟩ := finishProvisioningJob_ok finish
      have active : current.active = true := by simp [ProvisioningJobRow.active, running]
      have jobs : after.tables.provisioningJobs = updateWhere (fun job => job.id = current.id)
          (fun job => job.finished options) state.database.tables.provisioningJobs := by
        rw [written, found]
      have own : OwnWorker after.tables.workspaces := by
        rw [written]
        exact own_finishedWorkspaces (worker current member found) fenced.own
      have notRunning := finished_not_running current options
      have counted := fenced.attempts current member
      refine ⟨?_, endedKept_rewritten member active jobs⟩
      cases requeued : options.requeue with
      | true =>
          exact fenced_rewritten fenced member rfl jobs (fun _ => rfl) (fun _ => rfl)
            (fun owner => by simp [notRunning]) (by simpa using counted) (by simp) own
            (fun _ old => .inl old)
      | false =>
          exact fenced_rewritten fenced member rfl jobs (fun _ => rfl) (fun _ => rfl)
            (fun owner => by simp [notRunning]) (by simpa using counted) (by simp) own
            (fun _ old => .inl old)

/-- A processor passes the workspace of the job it claimed. -/
theorem finishOptions_worker {processor : ProvisioningProcessor} {job : ProvisioningJobRow}
    (result : WorkerResult) (now : Int) (fenced : Fenced state)
    (inFlight : (processor.processorId, job) ∈ state.flights) :
    ∀ current ∈ state.database.tables.provisioningJobs, current.id = job.id →
      ∀ workerWorkspaceId ∈ (finishOptions processor job now result).workerWorkspaceId,
        workerWorkspaceId = current.workspaceId := by
  have distinct : (state.database.tables.provisioningJobs.map (·.id)).Nodup :=
    state.database.consistent .jobId
  obtain ⟨claimed, claimedMember, sameId, sameWorkspace⟩ := fenced.flights _ inFlight
  intro current member found workerWorkspaceId passed
  have equal := eq_of_key distinct member claimedMember (found.trans sameId.symm)
  rw [equal, sameWorkspace]
  cases result with
  | running =>
      simp only [finishOptions, Option.mem_def, Option.some.injEq] at passed
      exact passed.symm
  | failed failure => simp [finishOptions] at passed

theorem finishOptions_jobId (processor : ProvisioningProcessor) (job : ProvisioningJobRow) (now : Int)
    (result : WorkerResult) : (finishOptions processor job now result).jobId = job.id := by
  cases result <;> rfl

theorem finishOptions_leaseOwner (processor : ProvisioningProcessor) (job : ProvisioningJobRow)
    (now : Int) (result : WorkerResult) :
    (finishOptions processor job now result).leaseOwner = processor.processorId := by
  cases result <;> rfl

theorem fenced_step {event : FencingEvent} (enabled : fencing.Enabled state event)
    (fenced : Fenced state) :
    Fenced (fencing.step state event) ∧
      EndedKept state.database.tables (fencing.step state event).database.tables := by
  cases event with
  | resolve options => exact fenced_resolve options fenced
  | schedule workspaceId createJobId now => exact fenced_schedule workspaceId createJobId now fenced
  | claim processor now =>
      rw [fencing_claim]
      exact fenced_claim processor now fenced
  | finish processor job result now =>
      rw [fencing_finish]
      refine fenced_finish fenced ?_
      rw [finishOptions_jobId]
      exact finishOptions_worker result now fenced enabled

theorem fenced_reachable (reachable : fencing.Reachable state) : Fenced state :=
  reachable.invariant Fenced (fun _ start => fenced_initial start)
    (fun _ _ enabled fenced => (fenced_step enabled fenced).1)

theorem endedKept_run {events : List FencingEvent} (fenced : Fenced state)
    (runs : fencing.Runs state events) :
    EndedKept state.database.tables (fencing.run state events).database.tables := by
  induction events generalizing state with
  | nil => exact fun _ member _ => member
  | cons event rest ih =>
      obtain ⟨enabled, later⟩ := runs
      obtain ⟨stepFenced, stepKept⟩ := fenced_step enabled fenced
      intro job member ended
      exact ih stepFenced later job (stepKept job member ended) ended

end Steps

/-! ## The fence -/

/-- What a processor sees of `finishProvisioningJob`. -/
def finishOutcome (database : CloudDatabase) (options : FinishProvisioningJobOptions) :
    CloudDatabase × Except Failure ProvisioningJobRow :=
  commit database (finishProvisioningJob database options)

/-- A finish is accepted from the holder of the lease only; a rejected finish
changes nothing; attempts count claims; ended jobs are final; a claim never
takes a running job before its lease expires. -/
structure LeaseFence (state : FencingState) : Prop where
  accepted : ∀ (processor : ProvisioningProcessor) job result now,
    (processor.processorId, job) ∈ state.flights →
      ((∃ finished, (finishOutcome state.database (finishOptions processor job now result)).2 =
          .ok finished) ↔ HeldBy state.history processor.processorId job.id)
  refused : ∀ options : FinishProvisioningJobOptions,
    ¬ HeldBy state.history options.leaseOwner options.jobId →
      finishOutcome state.database options = (state.database, .error .provisioningJobLeaseLost)
  rejected : ∀ options failure, (finishOutcome state.database options).2 = .error failure →
    (finishOutcome state.database options).1 = state.database
  attempts : ∀ job ∈ state.database.tables.provisioningJobs,
    job.attempt = claims state.history job.id
  ended : ∀ job ∈ state.database.tables.provisioningJobs,
    job.status = .succeeded ∨ job.status = .failed →
      ∀ events, fencing.Runs state events →
        job ∈ (fencing.run state events).database.tables.provisioningJobs
  expired : ∀ processor now after job,
    claimProvisioningJob state.database (claimOptions processor now) = .ok (after, some job) →
      ∃ before ∈ state.database.tables.provisioningJobs, before.id = job.id ∧
        (before.status = .running → ∃ expiry ∈ before.leaseExpiresAt, expiry ≤ now)

section Fence

variable {state : FencingState}

theorem finish_refused (options : FinishProvisioningJobOptions) (fenced : Fenced state)
    (unheld : ¬ HeldBy state.history options.leaseOwner options.jobId) :
    finishProvisioningJob state.database options = .error .provisioningJobLeaseLost := by
  unfold finishProvisioningJob
  split
  · rfl
  · rename_i current found
    have held := fenced.held current (lookup_mem found) options.leaseOwner
    rw [lookup_key found] at held
    have lost : current.status ≠ .running ∨ current.leaseOwner ≠ some options.leaseOwner := by
      by_contra kept
      rw [not_or, not_not, not_not] at kept
      exact unheld (held.mpr kept)
    rw [if_pos lost]

theorem finish_accepted {processor : ProvisioningProcessor} {job : ProvisioningJobRow}
    (result : WorkerResult) (now : Int) (fenced : Fenced state)
    (inFlight : (processor.processorId, job) ∈ state.flights)
    (held : HeldBy state.history processor.processorId job.id) :
    ∃ finished, finishProvisioningJob state.database (finishOptions processor job now result) =
      .ok finished := by
  obtain ⟨current, member, sameId, _⟩ := fenced.flights _ inFlight
  have lease := fenced.held current member processor.processorId
  rw [sameId] at lease
  obtain ⟨running, owner⟩ := lease.mp held
  have worker := finishOptions_worker result now fenced inFlight current member sameId
  exact finishProvisioningJob_accepts member (by rw [finishOptions_jobId]; exact sameId) running
    (by rw [finishOptions_leaseOwner]; exact owner) fenced.own worker

theorem leaseFence_of_reachable (reachable : fencing.Reachable state) : LeaseFence state := by
  have fenced := fenced_reachable reachable
  refine ⟨?_, ?_, ?_, fenced.attempts, ?_, ?_⟩
  · intro processor job result now inFlight
    constructor
    · intro ⟨finished, accepted⟩
      by_contra unheld
      have refused := finish_refused (finishOptions processor job now result) fenced
        (by rwa [finishOptions_jobId, finishOptions_leaseOwner])
      unfold finishOutcome at accepted
      rw [refused] at accepted
      contradiction
    · intro held
      obtain ⟨finished, accepted⟩ := finish_accepted result now fenced inFlight held
      exact ⟨finished.2, by unfold finishOutcome; rw [accepted]; rfl⟩
  · intro options unheld
    unfold finishOutcome
    rw [finish_refused options fenced unheld, commit_error]
  · intro options failure rejected
    exact commit_rollback rejected
  · intro job member ended events runs
    refine endedKept_run fenced runs job member ?_
    rcases ended with succeeded | failed
    · simp [ProvisioningJobRow.active, succeeded]
    · simp [ProvisioningJobRow.active, failed]
  · intro processor now after job claim
    obtain ⟨nothing, _⟩ | ⟨candidate, member, claimable, taken, _⟩ := claimProvisioningJob_ok claim
    · contradiction
    · cases taken
      refine ⟨candidate, member, rfl, fun running => ?_⟩
      rcases claimable with ⟨queued, _⟩ | ⟨_, expiry⟩
      · rw [running] at queued
        contradiction
      · exact expiry

def processorA : ProvisioningProcessor := ⟨"control-plane-a", 180, 8⟩

def processorB : ProvisioningProcessor := ⟨"control-plane-b", 180, 8⟩

/-- The job as the first processor claimed it. -/
def staleJob : ProvisioningJobRow :=
  (queuedJob "j1" "w1" 10).claimed (claimOptions processorA 20)

/-- The lease of the first processor expires, and it resumes after the second
processor has taken the job. -/
def stolenLease : List FencingEvent :=
  [.resolve (openWorkspace "j1" 10).toEnsurePersonalWorkspaceOptions, .schedule "w1" "j1" 10,
    .claim processorA 20, .claim processorB 300, .finish processorA staleJob .running 310]

theorem leaseFence_stolenLease :
    (fencing.run ⟨newcomer, [], []⟩ stolenLease).history.length = 2 ∧
      LeaseFence (fencing.run ⟨newcomer, [], []⟩ stolenLease) := by
  refine ⟨by decide +kernel, leaseFence_of_reachable ?_⟩
  have start : fencing.Reachable ⟨newcomer, [], []⟩ := .initial ⟨rfl, rfl, rfl⟩
  exact start.run ⟨trivial, trivial, trivial, trivial, by decide +kernel, trivial⟩

end Fence

end NebulaCloud.Provisioning
