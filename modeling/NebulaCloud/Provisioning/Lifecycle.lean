import NebulaCloud.Data.System
import NebulaCloud.Database.Provisioning

namespace NebulaCloud.Provisioning

open NebulaCloud.Data NebulaCloud.Database

/-! # Workspace and job lifecycle -/

/-- Some queued or running job works on the workspace. -/
def ActiveJob (tables : Tables) (workspaceId : String) : Prop :=
  ∃ job ∈ tables.provisioningJobs, job.workspaceId = workspaceId ∧ job.active = true

theorem findActiveJob_eq_none {tables : Tables} {workspaceId : String} :
    findActiveJob tables workspaceId = none ↔ ¬ ActiveJob tables workspaceId := by
  simp [findActiveJob, ActiveJob, List.find?_eq_none]

theorem activeJob_of_findActiveJob {tables : Tables} {workspaceId : String} {job : ProvisioningJobRow}
    (found : findActiveJob tables workspaceId = some job) : ActiveJob tables workspaceId := by
  have selected := List.find?_some found
  simp only [Bool.and_eq_true, decide_eq_true_eq] at selected
  exact ⟨job, List.mem_of_find?_eq_some found, selected⟩

section Database

variable (database : CloudDatabase)

/-- The partial unique index admits one active job for a workspace. -/
theorem activeJob_unique {left right : ProvisioningJobRow}
    (leftMember : left ∈ database.tables.provisioningJobs)
    (rightMember : right ∈ database.tables.provisioningJobs)
    (leftActive : left.active = true) (rightActive : right.active = true)
    (same : left.workspaceId = right.workspaceId) : left = right := by
  have distinct : ((database.tables.provisioningJobs.filter (·.active)).map (·.workspaceId)).Nodup :=
    database.consistent .jobActiveWorkspace
  exact eq_of_key distinct (List.mem_filter.mpr ⟨leftMember, leftActive⟩)
    (List.mem_filter.mpr ⟨rightMember, rightActive⟩) same

theorem activeJobs_le_one (workspaceId : String) :
    database.tables.provisioningJobs.countP
      (fun job => job.workspaceId = workspaceId && job.active) ≤ 1 := by
  have distinct : ((database.tables.provisioningJobs.filter (·.active)).map (·.workspaceId)).Nodup :=
    database.consistent .jobActiveWorkspace
  have bound := List.nodup_iff_count_le_one.mp distinct workspaceId
  rw [List.count_eq_countP, List.countP_map, List.countP_filter] at bound
  simpa [Function.comp_def, beq_eq_decide] using bound

theorem activeJobs_eq_one {workspaceId : String} :
    database.tables.provisioningJobs.countP
      (fun job => job.workspaceId = workspaceId && job.active) = 1 ↔
      ActiveJob database.tables workspaceId := by
  have bound := activeJobs_le_one database workspaceId
  have positive : 0 < database.tables.provisioningJobs.countP
      (fun job => job.workspaceId = workspaceId && job.active) ↔
      ActiveJob database.tables workspaceId := by
    simp [List.countP_pos_iff, ActiveJob]
  rw [← positive]
  omega

variable {database} {after : CloudDatabase} {workspaceId : String}

theorem claimable_active {job : ProvisioningJobRow} {timestamp : Int}
    (claimable : job.Claimable timestamp) : job.active = true := by
  rcases claimable with ⟨queued, _⟩ | ⟨running, _⟩
  · simp [ProvisioningJobRow.active, queued]
  · simp [ProvisioningJobRow.active, running]

theorem activeJob_claimed {options : ClaimProvisioningJobOptions} {candidate : ProvisioningJobRow}
    (member : candidate ∈ database.tables.provisioningJobs) (active : candidate.active = true)
    (written : after.tables.provisioningJobs = updateWhere (fun job => job.id = candidate.id)
      (fun job => job.claimed options) database.tables.provisioningJobs) :
    ActiveJob after.tables workspaceId ↔ ActiveJob database.tables workspaceId := by
  have distinct : (database.tables.provisioningJobs.map (·.id)).Nodup := database.consistent .jobId
  have rows (job : ProvisioningJobRow) : job ∈ after.tables.provisioningJobs ↔
      job = candidate.claimed options ∨
        (job ∈ database.tables.provisioningJobs ∧ job.id ≠ candidate.id) := by
    rw [written]
    exact mem_updateWhere_key distinct member rfl
  simp only [ActiveJob, rows]
  constructor
  · rintro ⟨job, rfl | ⟨kept, _⟩, same, jobActive⟩
    · exact ⟨candidate, member, same, active⟩
    · exact ⟨job, kept, same, jobActive⟩
  · rintro ⟨job, kept, same, jobActive⟩
    by_cases claimed : job.id = candidate.id
    · have equal := eq_of_key distinct kept member claimed
      subst equal
      exact ⟨job.claimed options, .inl rfl, same, rfl⟩
    · exact ⟨job, .inr ⟨kept, claimed⟩, same, jobActive⟩

theorem finished_active {job : ProvisioningJobRow} {options : FinishProvisioningJobOptions} :
    (job.finished options).active = options.requeue := by
  simp only [ProvisioningJobRow.finished, ProvisioningJobRow.active,
    FinishProvisioningJobOptions.nextStatus]
  cases requeued : options.requeue with
  | true => rfl
  | false => cases options.outcome <;> rfl

/-- A finish ends the one active job of its workspace unless it requeues it. -/
theorem activeJob_finished {options : FinishProvisioningJobOptions} {current : ProvisioningJobRow}
    (member : current ∈ database.tables.provisioningJobs) (found : current.id = options.jobId)
    (running : current.status = .running)
    (written : after.tables.provisioningJobs = updateWhere (fun job => job.id = options.jobId)
      (fun job => job.finished options) database.tables.provisioningJobs) :
    ActiveJob after.tables workspaceId ↔
      ActiveJob database.tables workspaceId ∧
        (options.requeue = true ∨ workspaceId ≠ current.workspaceId) := by
  have distinct : (database.tables.provisioningJobs.map (·.id)).Nodup := database.consistent .jobId
  have rows (job : ProvisioningJobRow) : job ∈ after.tables.provisioningJobs ↔
      job = current.finished options ∨
        (job ∈ database.tables.provisioningJobs ∧ job.id ≠ options.jobId) := by
    rw [written]
    exact mem_updateWhere_key distinct member found
  have currentActive : current.active = true := by simp [ProvisioningJobRow.active, running]
  simp only [ActiveJob, rows]
  constructor
  · rintro ⟨job, rfl | ⟨kept, other⟩, rfl, active⟩
    · rw [finished_active] at active
      exact ⟨⟨current, member, rfl, currentActive⟩, .inl active⟩
    · refine ⟨⟨job, kept, rfl, active⟩, .inr fun same => other ?_⟩
      rw [activeJob_unique database kept member active currentActive same, found]
  · rintro ⟨⟨job, kept, rfl, active⟩, remains⟩
    by_cases ended : job.id = options.jobId
    · have equal := eq_of_key distinct kept member (ended.trans found.symm)
      subst equal
      refine ⟨job.finished options, .inl rfl, rfl, ?_⟩
      rw [finished_active]
      exact remains.resolve_right (fun different => different rfl)
    · exact ⟨job, .inr ⟨kept, ended⟩, rfl, active⟩

theorem activeJob_scheduled {scheduledId createJobId : String} {timestamp : Int}
    {workspace : WorkspaceRow} {job : ProvisioningJobRow}
    (scheduled : scheduleWorkspace database scheduledId createJobId timestamp =
      .ok (after, workspace, job)) :
    ActiveJob after.tables workspaceId ↔
      ActiveJob database.tables workspaceId ∨ workspaceId = scheduledId := by
  obtain ⟨jobs, written, ⟨found, rfl⟩ | ⟨_, rfl, _, rfl⟩⟩ := scheduleWorkspace_ok scheduled
  · have same : ActiveJob after.tables workspaceId ↔ ActiveJob database.tables workspaceId := by
      rw [written]; rfl
    rw [same]
    constructor
    · exact .inl
    · rintro (active | rfl)
      · exact active
      · exact activeJob_of_findActiveJob found
  · rw [written]
    simp only [ActiveJob, markProvisioning, List.mem_append, List.mem_singleton]
    constructor
    · rintro ⟨job, kept | rfl, rfl, active⟩
      · exact .inl ⟨job, kept, rfl, active⟩
      · exact .inr rfl
    · rintro (⟨job, kept, rfl, active⟩ | rfl)
      · exact ⟨job, .inl kept, rfl, active⟩
      · exact ⟨_, .inr rfl, rfl, rfl⟩

end Database

/-! ## Jobs -/

/-- The lease and completion columns agree with the status. -/
structure JobColumns (job : ProvisioningJobRow) : Prop where
  leased : job.status = .running ↔ job.leaseOwner.isSome ∧ job.leaseExpiresAt.isSome
  completed : job.completedAt.isSome ↔ job.status = .succeeded ∨ job.status = .failed

theorem queuedJob_columns (id workspaceId : String) (timestamp : Int) :
    JobColumns (queuedJob id workspaceId timestamp) := by
  constructor <;> simp [queuedJob]

theorem claimed_columns (job : ProvisioningJobRow) (options : ClaimProvisioningJobOptions) :
    JobColumns (job.claimed options) := by
  constructor <;> simp [ProvisioningJobRow.claimed]

theorem finished_columns (job : ProvisioningJobRow) (options : FinishProvisioningJobOptions) :
    JobColumns (job.finished options) := by
  cases requeued : options.requeue <;> cases outcome : options.outcome <;>
    constructor <;>
    simp [ProvisioningJobRow.finished, FinishProvisioningJobOptions.nextStatus, requeued, outcome]

/-- A property of job rows that every write to a job establishes. -/
def EveryJob (Holds : ProvisioningJobRow → Prop) (tables : Tables) : Prop :=
  ∀ job ∈ tables.provisioningJobs, Holds job

section Operations

variable {database after : CloudDatabase} {Holds : ProvisioningJobRow → Prop}

theorem everyJob_ensured {options : EnsurePersonalWorkspaceOptions} {workspace : WorkspaceRow}
    (initial : EveryJob Holds database.tables)
    (ensured : ensurePersonalWorkspace database options = .ok (after, workspace)) :
    EveryJob Holds after.tables := by
  obtain ⟨rfl, _⟩ | ⟨_, _, written⟩ := ensurePersonalWorkspace_ok ensured
  · exact initial
  · rw [written]
    exact initial

theorem everyJob_scheduled {workspaceId createJobId : String} {timestamp : Int}
    {workspace : WorkspaceRow} {job : ProvisioningJobRow}
    (fresh : Holds (queuedJob createJobId workspaceId timestamp))
    (initial : EveryJob Holds database.tables)
    (scheduled : scheduleWorkspace database workspaceId createJobId timestamp =
      .ok (after, workspace, job)) : EveryJob Holds after.tables := by
  obtain ⟨jobs, written, ⟨_, rfl⟩ | ⟨_, rfl, _, rfl⟩⟩ := scheduleWorkspace_ok scheduled
  · rw [written]
    exact initial
  · rw [written]
    intro job member
    rcases List.mem_append.mp member with kept | new
    · exact initial job kept
    · cases List.mem_singleton.mp new
      exact fresh

theorem everyJob_claimed {options : ClaimProvisioningJobOptions} {result : Option ProvisioningJobRow}
    (renewed : ∀ job, Holds job → Holds (job.claimed options))
    (initial : EveryJob Holds database.tables)
    (claimed : claimProvisioningJob database options = .ok (after, result)) :
    EveryJob Holds after.tables := by
  obtain ⟨_, rfl⟩ | ⟨_, _, _, _, written⟩ := claimProvisioningJob_ok claimed
  · exact initial
  · rw [written]
    intro job member
    obtain ⟨before, beforeMember, rfl⟩ := mem_updateWhere.mp member
    split
    · exact renewed before (initial before beforeMember)
    · exact initial before beforeMember

theorem everyJob_finished {options : FinishProvisioningJobOptions} {result : ProvisioningJobRow}
    (ended : ∀ job, Holds job → Holds (job.finished options))
    (initial : EveryJob Holds database.tables)
    (accepted : finishProvisioningJob database options = .ok (after, result)) :
    EveryJob Holds after.tables := by
  obtain ⟨_, _, _, _, _, _, written⟩ := finishProvisioningJob_ok accepted
  rw [written]
  intro job member
  obtain ⟨before, beforeMember, rfl⟩ := mem_updateWhere.mp member
  split
  · exact ended before (initial before beforeMember)
  · exact initial before beforeMember

end Operations

/-! ## Workspaces -/

/-- A ready workspace has its worker identifier. -/
def ReadyAssigned (tables : Tables) : Prop :=
  ∀ workspace ∈ tables.workspaces, workspace.state = .ready → workspace.workerWorkspaceId.isSome

/-- No job works on a ready workspace. -/
def ReadyIdle (tables : Tables) : Prop :=
  ∀ workspace ∈ tables.workspaces, workspace.state = .ready → ¬ ActiveJob tables workspace.id

/-- A ready workspace is still there and still ready. -/
def ReadyKept (before after : Tables) : Prop :=
  ∀ workspace ∈ before.workspaces, workspace.state = .ready →
    ∃ later ∈ after.workspaces, later.id = workspace.id ∧ later.state = .ready

theorem ReadyKept.refl (tables : Tables) : ReadyKept tables tables :=
  fun workspace member ready => ⟨workspace, member, rfl, ready⟩

theorem ReadyKept.trans {first second third : Tables} (earlier : ReadyKept first second)
    (later : ReadyKept second third) : ReadyKept first third := by
  intro workspace member ready
  obtain ⟨middle, middleMember, middleId, middleReady⟩ := earlier workspace member ready
  obtain ⟨last, lastMember, lastId, lastReady⟩ := later middle middleMember middleReady
  exact ⟨last, lastMember, lastId.trans middleId, lastReady⟩

/-- A workspace is being provisioned exactly while a job works on it. -/
def ProvisioningActive (tables : Tables) : Prop :=
  ∀ workspace ∈ tables.workspaces, workspace.state = .provisioning ↔ ActiveJob tables workspace.id

theorem ProvisioningActive.readyIdle {tables : Tables} (active : ProvisioningActive tables) :
    ReadyIdle tables := by
  intro workspace member ready working
  have provisioning := (active workspace member).mpr working
  rw [ready] at provisioning
  contradiction

/-- The workspace is stored and not ready: what `ensureWorkspaceRunning` reads
before it schedules work. -/
def Unready (tables : Tables) (workspaceId : String) : Prop :=
  ∀ workspace ∈ tables.workspaces, workspace.id = workspaceId → workspace.state ≠ .ready

instance (tables : Tables) (workspaceId : String) : Decidable (Unready tables workspaceId) :=
  inferInstanceAs (Decidable (∀ workspace ∈ tables.workspaces, _))

section Ensured

variable {database after : CloudDatabase} {options : EnsurePersonalWorkspaceOptions}
  {workspace : WorkspaceRow}
  (ensured : ensurePersonalWorkspace database options = .ok (after, workspace))

include ensured

theorem ensured_mem : workspace ∈ after.tables.workspaces := by
  obtain ⟨rfl, member⟩ | ⟨_, _, written⟩ := ensurePersonalWorkspace_ok ensured
  · exact member
  · rw [written]
    exact List.mem_append_right _ (List.mem_singleton.mpr rfl)

theorem readyKept_ensured : ReadyKept database.tables after.tables := by
  obtain ⟨rfl, _⟩ | ⟨_, _, written⟩ := ensurePersonalWorkspace_ok ensured
  · exact .refl _
  · rw [written]
    exact fun workspace member ready =>
      ⟨workspace, List.mem_append_left _ member, rfl, ready⟩

theorem readyAssigned_ensured (initial : ReadyAssigned database.tables) :
    ReadyAssigned after.tables := by
  obtain ⟨rfl, _⟩ | ⟨_, rfl, written⟩ := ensurePersonalWorkspace_ok ensured
  · exact initial
  · rw [written]
    intro other member ready
    rcases List.mem_append.mp member with kept | new
    · exact initial other kept ready
    · cases List.mem_singleton.mp new
      cases ready

theorem readyIdle_ensured (initial : ReadyIdle database.tables) : ReadyIdle after.tables := by
  obtain ⟨rfl, _⟩ | ⟨_, rfl, written⟩ := ensurePersonalWorkspace_ok ensured
  · exact initial
  · rw [written]
    intro other member ready
    rcases List.mem_append.mp member with kept | new
    · exact initial other kept ready
    · cases List.mem_singleton.mp new
      cases ready

theorem provisioningActive_ensured (initial : ProvisioningActive database.tables) :
    ProvisioningActive after.tables := by
  obtain ⟨rfl, _⟩ | ⟨memberId, rfl, written⟩ := ensurePersonalWorkspace_ok ensured
  · exact initial
  · have sameJobs : ∀ workspaceId,
        ActiveJob after.tables workspaceId ↔ ActiveJob database.tables workspaceId := by
      intro workspaceId
      rw [written]
      rfl
    intro other member
    rw [sameJobs]
    rw [written] at member
    rcases List.mem_append.mp member with kept | new
    · exact initial other kept
    · cases List.mem_singleton.mp new
      -- Jobs belong to stored workspaces, so a workspace filed just now has none.
      have idle : ¬ ActiveJob database.tables (personalWorkspace options memberId).id := by
        intro ⟨job, jobMember, same, _⟩
        have distinct : (after.tables.workspaces.map (·.id)).Nodup := after.consistent .workspaceId
        have stored : job.workspaceId ∈ database.tables.workspaces.map (·.id) :=
          database.consistent .jobWorkspace job jobMember
        rw [written, List.map_append, List.nodup_append] at distinct
        exact distinct.2.2 _ stored _ (by simp) same
      refine ⟨fun provisioning => ?_, fun working => absurd working idle⟩
      cases provisioning

end Ensured

section Scheduled

variable {database after : CloudDatabase} {workspaceId createJobId : String} {timestamp : Int}
  {workspace : WorkspaceRow} {job : ProvisioningJobRow}
  (scheduled : scheduleWorkspace database workspaceId createJobId timestamp =
    .ok (after, workspace, job))

include scheduled

/-- Scheduling turns its own workspace to `provisioning` unless it is ready. -/
theorem scheduled_workspaces (row : WorkspaceRow) (member : row ∈ after.tables.workspaces) :
    ∃ before ∈ database.tables.workspaces, row.id = before.id ∧
      row.workerWorkspaceId = before.workerWorkspaceId ∧
      row.state = if before.id = workspaceId ∧ before.state ≠ .ready then .provisioning
        else before.state := by
  obtain ⟨jobs, written, _⟩ := scheduleWorkspace_ok scheduled
  rw [written] at member
  obtain ⟨before, beforeMember, changed⟩ := mem_updateWhere.mp member
  refine ⟨before, beforeMember, ?_⟩
  simp only [Bool.and_eq_true, decide_eq_true_eq] at changed
  subst row
  split
  · exact ⟨rfl, rfl, rfl⟩
  · exact ⟨rfl, rfl, rfl⟩

theorem readyKept_scheduled : ReadyKept database.tables after.tables := by
  obtain ⟨jobs, written, _⟩ := scheduleWorkspace_ok scheduled
  rw [written]
  intro row member ready
  exact ⟨row, mem_updateWhere_of_not member (by simp [ready]), rfl, ready⟩

theorem readyAssigned_scheduled (initial : ReadyAssigned database.tables) :
    ReadyAssigned after.tables := by
  intro row member ready
  obtain ⟨before, beforeMember, _, sameWorker, state⟩ := scheduled_workspaces scheduled row member
  rw [ready] at state
  rw [sameWorker]
  split at state
  · contradiction
  · exact initial before beforeMember state.symm

theorem readyIdle_scheduled (unready : Unready database.tables workspaceId)
    (initial : ReadyIdle database.tables) : ReadyIdle after.tables := by
  intro row member ready
  obtain ⟨before, beforeMember, sameId, _, state⟩ := scheduled_workspaces scheduled row member
  rw [ready] at state
  rw [sameId, activeJob_scheduled scheduled]
  split at state
  · contradiction
  · rintro (working | same)
    · exact initial before beforeMember state.symm working
    · exact unready before beforeMember same state.symm

theorem provisioningActive_scheduled (unready : Unready database.tables workspaceId)
    (initial : ProvisioningActive database.tables) : ProvisioningActive after.tables := by
  intro row member
  obtain ⟨before, beforeMember, sameId, _, state⟩ := scheduled_workspaces scheduled row member
  rw [sameId, state, activeJob_scheduled scheduled, ← initial before beforeMember]
  by_cases same : before.id = workspaceId
  · have notReady := unready before beforeMember same
    simp [same, notReady]
  · simp [same]

end Scheduled

section Claimed

variable {database after : CloudDatabase} {options : ClaimProvisioningJobOptions}
  {result : Option ProvisioningJobRow}
  (claimed : claimProvisioningJob database options = .ok (after, result))

include claimed

/-- A claim takes an active job, which stays active, and touches no workspace. -/
theorem claimed_unchanged : after.tables.workspaces = database.tables.workspaces ∧
    ∀ workspaceId, ActiveJob after.tables workspaceId ↔ ActiveJob database.tables workspaceId := by
  obtain ⟨_, rfl⟩ | ⟨candidate, member, claimable, _, written⟩ := claimProvisioningJob_ok claimed
  · exact ⟨rfl, fun _ => Iff.rfl⟩
  · refine ⟨by rw [written], fun workspaceId => ?_⟩
    exact activeJob_claimed member (claimable_active claimable) (by rw [written])

theorem readyKept_claimed : ReadyKept database.tables after.tables := by
  obtain ⟨sameWorkspaces, _⟩ := claimed_unchanged claimed
  intro workspace member ready
  exact ⟨workspace, by rwa [sameWorkspaces], rfl, ready⟩

theorem readyAssigned_claimed (initial : ReadyAssigned database.tables) :
    ReadyAssigned after.tables := by
  obtain ⟨sameWorkspaces, _⟩ := claimed_unchanged claimed
  intro workspace member ready
  rw [sameWorkspaces] at member
  exact initial workspace member ready

theorem readyIdle_claimed (initial : ReadyIdle database.tables) : ReadyIdle after.tables := by
  obtain ⟨sameWorkspaces, sameJobs⟩ := claimed_unchanged claimed
  intro workspace member ready
  rw [sameWorkspaces] at member
  rw [sameJobs]
  exact initial workspace member ready

theorem provisioningActive_claimed (initial : ProvisioningActive database.tables) :
    ProvisioningActive after.tables := by
  obtain ⟨sameWorkspaces, sameJobs⟩ := claimed_unchanged claimed
  intro workspace member
  rw [sameWorkspaces] at member
  rw [sameJobs]
  exact initial workspace member

end Claimed

section Finished

variable {database after : CloudDatabase} {options : FinishProvisioningJobOptions}
  {result : ProvisioningJobRow}

theorem workspaceState_eq_none : options.workspaceState = none ↔ options.requeue = true := by
  cases outcome : options.outcome with
  | succeeded =>
      simp [FinishProvisioningJobOptions.workspaceState, FinishProvisioningJobOptions.requeue, outcome]
  | failed =>
      simp [FinishProvisioningJobOptions.workspaceState, FinishProvisioningJobOptions.requeue, outcome]

theorem workspaceState_ne_provisioning : options.workspaceState ≠ some .provisioning := by
  unfold FinishProvisioningJobOptions.workspaceState
  split
  · simp
  · split <;> simp

theorem assignedWorker_of_ready (workspaceId : String) (ready : options.workspaceState = some .ready) :
    (options.assignedWorker workspaceId).isSome := by
  cases outcome : options.outcome with
  | succeeded => simp [FinishProvisioningJobOptions.assignedWorker, outcome]
  | failed => simp [FinishProvisioningJobOptions.workspaceState, outcome] at ready

/-- A finish writes the workspace of its job and no other. -/
theorem finishedWorkspaces_mem {workspaceId : String} {tables : Tables} {row : WorkspaceRow}
    (member : row ∈ finishedWorkspaces options workspaceId tables) :
    ∃ before ∈ tables.workspaces, row.id = before.id ∧
      ((row = before ∧ (options.requeue = true ∨ before.id ≠ workspaceId)) ∨
        (before.id = workspaceId ∧ options.requeue = false ∧ row.state ≠ .provisioning ∧
          (row.state = .ready → row.workerWorkspaceId.isSome))) := by
  unfold finishedWorkspaces at member
  cases set : options.workspaceState with
  | none =>
      rw [set] at member
      exact ⟨row, member, rfl, .inl ⟨rfl, .inl (workspaceState_eq_none.mp set)⟩⟩
  | some state =>
      rw [set] at member
      have ended : options.requeue = false := by
        cases requeued : options.requeue with
        | false => rfl
        | true => simp [workspaceState_eq_none.mpr requeued] at set
      have settled : state ≠ .provisioning := by
        intro same
        exact workspaceState_ne_provisioning (set.trans (congrArg some same))
      obtain ⟨before, beforeMember, changed⟩ := mem_updateWhere.mp member
      refine ⟨before, beforeMember, ?_⟩
      by_cases same : before.id = workspaceId
      · rw [if_pos (by simpa using same)] at changed
        subst row
        refine ⟨rfl, .inr ⟨same, ended, settled, ?_⟩⟩
        intro ready
        have isReady : state = .ready := ready
        have assigned := assignedWorker_of_ready workspaceId (set.trans (by rw [isReady]))
        simp [Option.isSome_or, assigned]
      · rw [if_neg (by simpa using same)] at changed
        exact ⟨by rw [changed], .inl ⟨changed.symm, .inr same⟩⟩

variable (accepted : finishProvisioningJob database options = .ok (after, result))

include accepted

/-- An accepted finish ends the one active job of one workspace. -/
theorem finished_unchanged : ∃ workspaceId, ActiveJob database.tables workspaceId ∧
    after.tables.workspaces =
      finishedWorkspaces options workspaceId database.tables ∧
    ∀ other, ActiveJob after.tables other ↔
      ActiveJob database.tables other ∧ (options.requeue = true ∨ other ≠ workspaceId) := by
  obtain ⟨current, member, found, running, _, _, written⟩ := finishProvisioningJob_ok accepted
  have active : current.active = true := by simp [ProvisioningJobRow.active, running]
  refine ⟨current.workspaceId, ⟨current, member, rfl, active⟩, by rw [written], fun other => ?_⟩
  exact activeJob_finished member found running (by rw [written])

theorem readyKept_finished (idle : ReadyIdle database.tables) :
    ReadyKept database.tables after.tables := by
  obtain ⟨workspaceId, working, written, _⟩ := finished_unchanged accepted
  intro workspace member ready
  have other : workspace.id ≠ workspaceId := by
    intro same
    exact idle workspace member ready (same ▸ working)
  refine ⟨workspace, ?_, rfl, ready⟩
  rw [written]
  unfold finishedWorkspaces
  split
  · exact member
  · exact mem_updateWhere_of_not member (by simpa using other)

theorem readyAssigned_finished (initial : ReadyAssigned database.tables) :
    ReadyAssigned after.tables := by
  obtain ⟨workspaceId, _, written, _⟩ := finished_unchanged accepted
  intro row member ready
  rw [written] at member
  obtain ⟨before, beforeMember, _, ⟨rfl, _⟩ | ⟨_, _, _, assigned⟩⟩ := finishedWorkspaces_mem member
  · exact initial row beforeMember ready
  · exact assigned ready

theorem readyIdle_finished (initial : ReadyIdle database.tables) : ReadyIdle after.tables := by
  obtain ⟨workspaceId, _, written, jobs⟩ := finished_unchanged accepted
  intro row member ready
  rw [written] at member
  rw [jobs]
  obtain ⟨before, beforeMember, sameId, ⟨rfl, _⟩ | ⟨same, ended, _, _⟩⟩ :=
    finishedWorkspaces_mem member
  · exact fun working => initial row beforeMember ready working.1
  · rw [sameId, same, ended]
    simp

theorem provisioningActive_finished (initial : ProvisioningActive database.tables) :
    ProvisioningActive after.tables := by
  obtain ⟨workspaceId, _, written, jobs⟩ := finished_unchanged accepted
  intro row member
  rw [written] at member
  rw [jobs]
  obtain ⟨before, beforeMember, sameId, ⟨rfl, kept⟩ | ⟨same, ended, settled, _⟩⟩ :=
    finishedWorkspaces_mem member
  · rw [initial row beforeMember]
    exact ⟨fun working => ⟨working, kept⟩, fun working => working.1⟩
  · rw [sameId, same, ended]
    simp [settled]

end Finished

end NebulaCloud.Provisioning
