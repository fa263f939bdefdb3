import NebulaCloud.Provisioning.Fencing

namespace NebulaCloud.Provisioning

open NebulaCloud.Platform NebulaCloud.Data NebulaCloud.Database

/-! # Bounded retries

A processor counts the attempts of a job by its claims, and puts a job back into the queue
while the worker's failures can be retried and attempts are left. -/

/-! ## `processNext` -/

/-- How the call of the worker ends. -/
inductive WorkerOutcome
  | unauthorized
  | running (workspaceId : String)
  | refused (failure : WorkerFailure)
  | unexpected
deriving DecidableEq, Repr

def entitlementRequired : WorkerFailure where
  code := "operator_entitlement_required"
  message := "An active Operator entitlement is required"
  retryable := false

def unexpectedFailure : WorkerFailure where
  code := "worker_unexpected_failure"
  message := "Unexpected provisioning failure"
  retryable := true

/-- The error that is caught, if the worker does not run the workspace. -/
def WorkerOutcome.error : WorkerOutcome → Option WorkerFailure
  | .unauthorized => some entitlementRequired
  | .refused failure => some failure
  | .unexpected => some unexpectedFailure
  | .running _ => none

section Processor

variable (processor : ProvisioningProcessor) (database : CloudDatabase) (job : ProvisioningJobRow)

def succeededOptions (workspaceId : String) (now : Int) : FinishProvisioningJobOptions :=
  { finishOptions processor job now .running with workerWorkspaceId := some workspaceId }

/-- What is left behind once a job has been settled, and what was caught if anything. -/
structure SettledJob where
  database : CloudDatabase
  failure : Option WorkerFailure
  finishedAt : Int

/-- The `catch`; that the finish is rejected is caught as well, or ends the processing. -/
def catchFailure (failure : WorkerFailure) (now : Int) : SettledJob where
  database :=
    (commit database (finishProvisioningJob database (finishOptions processor job now (.failed failure)))).1
  failure := some failure
  finishedAt := now

/-- What `processNext` does with a job that it has claimed.  A success that cannot be stored
is caught like any other error, at a `later` reading of the clock. -/
def settleJob (outcome : WorkerOutcome) (now later : Int) : SettledJob :=
  match outcome with
  | .unauthorized => catchFailure processor database job entitlementRequired now
  | .refused failure => catchFailure processor database job failure now
  | .unexpected => catchFailure processor database job unexpectedFailure now
  | .running workspaceId =>
      match finishProvisioningJob database (succeededOptions processor job workspaceId now) with
      | .ok (database, _) => { database, failure := none, finishedAt := now }
      | .error _ => catchFailure processor database job unexpectedFailure later

end Processor

/-! ## Processors at work -/

inductive RetryNote
  | claimed (jobId : String)
  | ended (jobId : String) (failure : Option WorkerFailure) (finishedAt : Int)
deriving DecidableEq, Repr

def RetryNote.jobId : RetryNote → String
  | .claimed jobId => jobId
  | .ended jobId _ _ => jobId

def RetryNote.finishedAt : RetryNote → Option Int
  | .claimed _ => none
  | .ended _ _ finishedAt => some finishedAt

def RetryNote.isClaim (wanted : String) : RetryNote → Bool
  | .claimed jobId => jobId = wanted
  | .ended _ _ _ => false

def RetryNote.isRetryable (wanted : String) : RetryNote → Bool
  | .claimed _ => false
  | .ended jobId failure _ => jobId = wanted && failure.any (·.retryable)

/-- How often the job has been claimed. -/
def claimCount (history : List RetryNote) (jobId : String) : Nat := history.countP (RetryNote.isClaim jobId)

/-- How often it has failed with an error that can be retried. -/
def retryableFailures (history : List RetryNote) (jobId : String) : Nat :=
  history.countP (RetryNote.isRetryable jobId)

/-- When the last attempt of the job has ended, if it is over. -/
def endedAt (history : List RetryNote) (jobId : String) : Option Int :=
  (history.find? fun note => note.jobId = jobId).bind RetryNote.finishedAt

/-- `flights` are the jobs that are being processed, as they were when claimed. -/
structure RetryState where
  database : CloudDatabase
  flights : List (ProvisioningProcessor × ProvisioningJobRow)
  history : List RetryNote

inductive RetryEvent
  | claim (processor : ProvisioningProcessor) (now : Int)
  | settle (processor : ProvisioningProcessor) (job : ProvisioningJobRow) (outcome : WorkerOutcome) (now later : Int)
  | elsewhere (database : CloudDatabase)

def claimJob (state : RetryState) (processor : ProvisioningProcessor) (now : Int) : RetryState :=
  match claimProvisioningJob state.database (claimOptions processor now) with
  | .ok (database, some job) =>
      { database
        flights := (processor, job) :: state.flights
        history := .claimed job.id :: state.history }
  | .ok (database, none) => { state with database }
  | .error _ => state

def settleFlight (state : RetryState) (processor : ProvisioningProcessor) (job : ProvisioningJobRow)
    (outcome : WorkerOutcome) (now later : Int) : RetryState :=
  let settled := settleJob processor state.database job outcome now later
  { database := settled.database
    flights := state.flights.erase (processor, job)
    history := .ended job.id settled.failure settled.finishedAt :: state.history }

/-- The processors share their number of attempts.  Elsewhere anything may be written that
keeps the jobs; new ones are queued. -/
def retrying (maximumAttempts : Int) : System RetryState RetryEvent where
  Initial state :=
    (∀ job ∈ state.database.tables.provisioningJobs, job.active = true → job.status = .queued ∧ job.attempt = 0) ∧
      state.flights = [] ∧ state.history = []
  Enabled state
    | .claim processor _ => processor.maximumAttempts = maximumAttempts
    | .settle processor job _ _ _ => (processor, job) ∈ state.flights
    | .elsewhere database => ∃ filed, database.tables.provisioningJobs =
        state.database.tables.provisioningJobs ++ filed ∧ ∀ job ∈ filed, job.status = .queued ∧ job.attempt = 0
  step state
    | .claim processor now => claimJob state processor now
    | .settle processor job outcome now later => settleFlight state processor job outcome now later
    | .elsewhere database => { state with database }

/-- No lease of a job that is still being processed has expired when another claim comes. -/
def Prompt (state : RetryState) : RetryEvent → Prop
  | .claim _ now => ∀ job ∈ state.database.tables.provisioningJobs, job.status = .running →
      ∀ expiry ∈ job.leaseExpiresAt, now < expiry
  | .settle _ _ _ _ _ | .elsewhere _ => True

instance (state : RetryState) (event : RetryEvent) : Decidable (Prompt state event) :=
  match event with
  | .claim _ now => inferInstanceAs (Decidable (∀ job ∈ state.database.tables.provisioningJobs,
      job.status = .running → ∀ expiry ∈ job.leaseExpiresAt, now < expiry))
  | .settle _ _ _ _ _ | .elsewhere _ => .isTrue trivial

/-! ## What settling a job writes -/

section Settling

variable {processor : ProvisioningProcessor} {database : CloudDatabase} {job : ProvisioningJobRow}
  {outcome : WorkerOutcome} {now later : Int}

/-- The options with which the job was finished. -/
def SettledJob.options (settled : SettledJob) (processor : ProvisioningProcessor) (job : ProvisioningJobRow)
    (outcome : WorkerOutcome) : FinishProvisioningJobOptions :=
  match settled.failure, outcome with
  | some failure, _ => finishOptions processor job settled.finishedAt (.failed failure)
  | none, .running workspaceId => succeededOptions processor job workspaceId settled.finishedAt
  | none, _ => finishOptions processor job settled.finishedAt .running

/-- The tables after an accepted finish of the job. -/
def finishedTables (options : FinishProvisioningJobOptions) (job : ProvisioningJobRow) (tables : Tables) : Tables :=
  { tables with
    provisioningJobs := updateWhere (fun row => row.id = job.id) (fun row => row.finished options)
      tables.provisioningJobs
    workspaces := finishedWorkspaces options job.workspaceId tables }

/-- An accepted finish is one of the job that is processed. -/
theorem finished_tables {options : FinishProvisioningJobOptions} {after : CloudDatabase} {result : ProvisioningJobRow}
    (member : job ∈ database.tables.provisioningJobs) (same : options.jobId = job.id)
    (accepted : finishProvisioningJob database options = .ok (after, result)) :
    after.tables = finishedTables options job database.tables := by
  obtain ⟨current, stored, found, -, -, -, written⟩ := finishProvisioningJob_ok accepted
  have distinct : (database.tables.provisioningJobs.map (·.id)).Nodup := database.consistent .jobId
  obtain rfl := eq_of_key distinct stored member (found.trans same)
  rw [written, same]
  rfl

theorem catchFailure_tables (member : job ∈ database.tables.provisioningJobs) (running : job.status = .running)
    (owner : job.leaseOwner = some processor.processorId) (failure : WorkerFailure) (now : Int) :
    (catchFailure processor database job failure now).database.tables =
      finishedTables (finishOptions processor job now (.failed failure)) job database.tables := by
  obtain ⟨⟨after, result⟩, accepted⟩ := @finishProvisioningJob_settles database
    (finishOptions processor job now (.failed failure)) job member rfl running owner
    fun updated _ => settleWorkspace_failed rfl
  have written := finished_tables member rfl accepted
  simpa only [catchFailure, accepted, commit_ok] using written

/-- A running job is always finished: with what was caught, or else as a success. -/
theorem settleJob_tables (member : job ∈ database.tables.provisioningJobs) (running : job.status = .running)
    (owner : job.leaseOwner = some processor.processorId) :
    let settled := settleJob processor database job outcome now later
    settled.database.tables = finishedTables (settled.options processor job outcome) job database.tables ∧
      ((settled.failure = none ∧ ∃ workspaceId, outcome = .running workspaceId) ∨
        ∃ failure, settled.failure = some failure ∧
          (outcome.error = some failure ∨ outcome.error = none ∧ failure = unexpectedFailure)) := by
  have caught (failure : WorkerFailure) (now : Int) := @catchFailure_tables processor database job member running owner
    failure now
  cases outcome with
  | unauthorized => exact ⟨caught entitlementRequired now, .inr ⟨_, rfl, .inl rfl⟩⟩
  | refused failure => exact ⟨caught failure now, .inr ⟨_, rfl, .inl rfl⟩⟩
  | unexpected => exact ⟨caught unexpectedFailure now, .inr ⟨_, rfl, .inl rfl⟩⟩
  | running workspaceId =>
      intro settled
      cases finish : finishProvisioningJob database (succeededOptions processor job workspaceId now) with
      | error failure =>
          have settles : settled = catchFailure processor database job unexpectedFailure later := by
            simp only [settled, settleJob, finish]
          rw [settles]
          exact ⟨caught unexpectedFailure later, .inr ⟨_, rfl, .inr ⟨rfl, rfl⟩⟩⟩
      | ok result =>
          obtain ⟨after, finished⟩ := result
          have settles : settled = { database := after, failure := none, finishedAt := now } := by
            simp only [settled, settleJob, finish]
          rw [settles]
          exact ⟨finished_tables member rfl finish, .inl ⟨rfl, workspaceId, rfl⟩⟩

end Settling

/-! ## Counting -/

/-- What the row of a job tells of its history. -/
def RowCounted (maximumAttempts : Int) (history : List RetryNote) (job : ProvisioningJobRow) : Prop :=
  match job.status with
  | .queued => job.attempt = claimCount history job.id ∧
      claimCount history job.id = retryableFailures history job.id ∧ job.attempt < max 1 maximumAttempts ∧
      ∀ finishedAt ∈ endedAt history job.id, job.availableAt = finishedAt + retryDelayMs job.attempt
  | .running => job.attempt = claimCount history job.id ∧
      claimCount history job.id = retryableFailures history job.id + 1 ∧ job.attempt ≤ max 1 maximumAttempts
  | .succeeded | .failed => True

structure Counted (maximumAttempts : Int) (state : RetryState) : Prop where
  rows : ∀ job ∈ state.database.tables.provisioningJobs, RowCounted maximumAttempts state.history job
  bounded : ∀ jobId, claimCount state.history jobId ≤ max 1 maximumAttempts
  recorded : ∀ note ∈ state.history, note.jobId ∈ state.database.tables.provisioningJobs.map (·.id)
  distinct : (state.flights.map fun flight => flight.2.id).Nodup
  flown : ∀ flight ∈ state.flights, flight.2 ∈ state.database.tables.provisioningJobs ∧
    flight.2.status = .running ∧ flight.2.leaseOwner = some flight.1.processorId ∧
    flight.1.maximumAttempts = maximumAttempts
  awaited : ∀ job ∈ state.database.tables.provisioningJobs, job.status = .running →
    ∃ flight ∈ state.flights, flight.2 = job

section Counting

variable {maximumAttempts : Int} {state after : RetryState} {history : List RetryNote} {note : RetryNote}
  {job current : ProvisioningJobRow} {change : ProvisioningJobRow → ProvisioningJobRow} {jobId : String}

theorem claimCount_other (other : note.jobId ≠ jobId) :
    claimCount (note :: history) jobId = claimCount history jobId := by
  cases note with
  | claimed named => simp [claimCount, RetryNote.isClaim, show named ≠ jobId from other]
  | ended named failure finishedAt => simp [claimCount, RetryNote.isClaim]

theorem retryableFailures_other (other : note.jobId ≠ jobId) :
    retryableFailures (note :: history) jobId = retryableFailures history jobId := by
  cases note with
  | claimed named => simp [retryableFailures, RetryNote.isRetryable]
  | ended named failure finishedAt =>
      simp [retryableFailures, RetryNote.isRetryable, show named ≠ jobId from other]

theorem claimCount_fresh (fresh : ∀ note ∈ history, note.jobId ≠ jobId) : claimCount history jobId = 0 := by
  induction history with
  | nil => rfl
  | cons note rest ih =>
      rw [claimCount_other (fresh note (by simp)), ih fun other member => fresh other (by simp [member])]

theorem retryableFailures_fresh (fresh : ∀ note ∈ history, note.jobId ≠ jobId) :
    retryableFailures history jobId = 0 := by
  induction history with
  | nil => rfl
  | cons note rest ih =>
      rw [retryableFailures_other (fresh note (by simp)), ih fun other member => fresh other (by simp [member])]

theorem endedAt_other (other : note.jobId ≠ jobId) : endedAt (note :: history) jobId = endedAt history jobId := by
  simp [endedAt, other]

theorem endedAt_fresh (fresh : ∀ note ∈ history, note.jobId ≠ jobId) : endedAt history jobId = none := by
  induction history with
  | nil => rfl
  | cons note rest ih =>
      rw [endedAt_other (fresh note (by simp)), ih fun other member => fresh other (by simp [member])]

/-- The row of a job tells nothing of others. -/
theorem RowCounted.other (counted : RowCounted maximumAttempts history job) (other : note.jobId ≠ job.id) :
    RowCounted maximumAttempts (note :: history) job := by
  unfold RowCounted at counted ⊢
  rwa [claimCount_other other, retryableFailures_other other, endedAt_other other]

theorem counted_initial (start : (retrying maximumAttempts).Initial state) :
    Counted maximumAttempts state := by
  obtain ⟨fresh, noFlights, noHistory⟩ := start
  constructor
  · intro job member
    have unclaimed := fresh job member
    unfold RowCounted
    split
    · rename_i queued
      obtain ⟨-, untried⟩ := unclaimed (by simp [ProvisioningJobRow.active, queued])
      refine ⟨?_, ?_, by omega, ?_⟩
      · simp [noHistory, claimCount, untried]
      · simp [noHistory, claimCount, retryableFailures]
      · simp [noHistory, endedAt]
    · rename_i running
      obtain ⟨queued, -⟩ := unclaimed (by simp [ProvisioningJobRow.active, running])
      rw [running] at queued
      cases queued
    · trivial
    · trivial
  · intro jobId
    simp only [noHistory, claimCount, List.countP_nil]
    omega
  · simp [noHistory]
  · simp [noFlights]
  · simp [noFlights]
  · intro job member running
    obtain ⟨queued, -⟩ := fresh job member (by simp [ProvisioningJobRow.active, running])
    rw [running] at queued
    cases queued

/-- A claim or a finish rewrites the row of one job, and notes what it did. -/
theorem counted_rewritten (counted : Counted maximumAttempts state)
    (member : current ∈ state.database.tables.provisioningJobs)
    (jobs : after.database.tables.provisioningJobs =
      updateWhere (fun job => job.id = current.id) change state.database.tables.provisioningJobs)
    (sameId : ∀ job, (change job).id = job.id) (extended : after.history = note :: state.history)
    (about : note.jobId = current.id) (row : RowCounted maximumAttempts after.history (change current))
    (bounded : claimCount after.history current.id ≤ max 1 maximumAttempts)
    (distinct : (after.flights.map fun flight => flight.2.id).Nodup)
    (flights : ∀ flight, flight.2.id ≠ current.id → (flight ∈ after.flights ↔ flight ∈ state.flights))
    (flown : ∀ flight ∈ after.flights, flight.2.id = current.id → flight.2 = change current ∧
      flight.2.status = .running ∧ flight.2.leaseOwner = some flight.1.processorId ∧
      flight.1.maximumAttempts = maximumAttempts)
    (awaited : (change current).status = .running → ∃ flight ∈ after.flights, flight.2 = change current) :
    Counted maximumAttempts after := by
  have key : (state.database.tables.provisioningJobs.map (·.id)).Nodup := state.database.consistent .jobId
  have rows (job : ProvisioningJobRow) : job ∈ after.database.tables.provisioningJobs ↔
      job = change current ∨ (job ∈ state.database.tables.provisioningJobs ∧ job.id ≠ current.id) := by
    rw [jobs]
    exact mem_updateWhere_key key member rfl
  have others {jobId : String} (other : jobId ≠ current.id) : note.jobId ≠ jobId :=
    fun same => other (same.symm.trans about)
  constructor
  · intro job isStored
    rcases (rows job).mp isStored with rfl | ⟨old, other⟩
    · exact row
    · rw [extended]
      exact (counted.rows job old).other (others other)
  · intro jobId
    by_cases same : jobId = current.id
    · rw [same]
      exact bounded
    · rw [extended, claimCount_other (others same)]
      exact counted.bounded jobId
  · intro other isNoted
    have ids : after.database.tables.provisioningJobs.map (·.id) =
        state.database.tables.provisioningJobs.map (·.id) := by
      rw [jobs]
      exact map_updateWhere sameId
    rw [extended] at isNoted
    rw [ids]
    rcases List.mem_cons.mp isNoted with rfl | old
    · rw [about]
      exact List.mem_map_of_mem member
    · exact counted.recorded other old
  · exact distinct
  · intro flight isFlown
    by_cases same : flight.2.id = current.id
    · obtain ⟨eq, rest⟩ := flown flight isFlown same
      exact ⟨(rows flight.2).mpr (.inl eq), rest⟩
    · obtain ⟨stored, rest⟩ := counted.flown flight ((flights flight same).mp isFlown)
      exact ⟨(rows flight.2).mpr (.inr ⟨stored, same⟩), rest⟩
  · intro job isStored running
    rcases (rows job).mp isStored with rfl | ⟨old, other⟩
    · exact awaited running
    · obtain ⟨flight, isFlown, rfl⟩ := counted.awaited job old running
      exact ⟨flight, (flights flight other).mpr isFlown, rfl⟩

/-! ## Steps -/

variable {processor : ProvisioningProcessor} {outcome : WorkerOutcome} {now later : Int}

theorem counted_elsewhere {database : CloudDatabase}
    (counted : Counted maximumAttempts state)
    (enabled : (retrying maximumAttempts).Enabled state (.elsewhere database)) :
    Counted maximumAttempts { state with database } := by
  obtain ⟨filed, jobs, queued⟩ := enabled
  have key : (database.tables.provisioningJobs.map (·.id)).Nodup := database.consistent .jobId
  have kept : ∀ job ∈ state.database.tables.provisioningJobs, job ∈ database.tables.provisioningJobs := by
    intro job member
    rw [jobs]
    exact List.mem_append_left _ member
  have fresh : ∀ job ∈ filed, ∀ note ∈ state.history, note.jobId ≠ job.id := by
    intro job member note isNoted same
    have known := counted.recorded note isNoted
    rw [jobs, List.map_append, List.nodup_append] at key
    exact key.2.2 note.jobId known job.id (List.mem_map_of_mem member) same
  constructor
  · intro job member
    have member : job ∈ database.tables.provisioningJobs := member
    rw [jobs] at member
    rcases List.mem_append.mp member with old | new
    · exact counted.rows job old
    · obtain ⟨isQueued, untried⟩ := queued job new
      have unclaimed : claimCount state.history job.id = 0 := claimCount_fresh (fresh job new)
      have unfailed : retryableFailures state.history job.id = 0 := retryableFailures_fresh (fresh job new)
      have unended : endedAt state.history job.id = none := endedAt_fresh (fresh job new)
      simp only [RowCounted, isQueued, unclaimed, unfailed, untried, unended]
      exact ⟨rfl, trivial, by omega, by simp⟩
  · exact counted.bounded
  · intro note isNoted
    obtain ⟨job, member, same⟩ := List.mem_map.mp (counted.recorded note isNoted)
    exact List.mem_map.mpr ⟨job, kept job member, same⟩
  · exact counted.distinct
  · intro flight isFlown
    obtain ⟨stored, rest⟩ := counted.flown flight isFlown
    exact ⟨kept flight.2 stored, rest⟩
  · intro job member running
    have member : job ∈ database.tables.provisioningJobs := member
    rw [jobs] at member
    rcases List.mem_append.mp member with old | new
    · exact counted.awaited job old running
    · rw [(queued job new).1] at running
      cases running

theorem rowCounted_claimed {options : ClaimProvisioningJobOptions} (queued : job.status = .queued)
    (row : RowCounted maximumAttempts history job) :
    RowCounted maximumAttempts (.claimed job.id :: history) (job.claimed options) := by
  simp only [RowCounted, queued] at row
  obtain ⟨attempts, failures, left, -⟩ := row
  have claimed : claimCount (.claimed job.id :: history) job.id = claimCount history job.id + 1 := by
    simp [claimCount, RetryNote.isClaim]
  have unfailed : retryableFailures (.claimed job.id :: history) job.id = retryableFailures history job.id := by
    simp [retryableFailures, RetryNote.isRetryable]
  change job.attempt + 1 = (claimCount (.claimed job.id :: history) job.id : Int) ∧
    claimCount (.claimed job.id :: history) job.id = retryableFailures (.claimed job.id :: history) job.id + 1 ∧
    job.attempt + 1 ≤ max 1 maximumAttempts
  omega

/-- A prompt claim takes a queued job, which has an attempt left. -/
theorem counted_claim (counted : Counted maximumAttempts state)
    (enabled : (retrying maximumAttempts).Enabled state (.claim processor now))
    (prompt : Prompt state (.claim processor now)) : Counted maximumAttempts (claimJob state processor now) := by
  unfold claimJob
  cases claim : claimProvisioningJob state.database (claimOptions processor now) with
  | error failure => exact counted
  | ok result =>
      obtain ⟨database, taken⟩ := result
      obtain ⟨rfl, rfl⟩ | ⟨candidate, member, claimable, rfl, written⟩ := claimProvisioningJob_ok claim
      · exact counted
      · have queued : candidate.status = .queued := by
          rcases claimable with ⟨queued, -⟩ | ⟨running, expiry, expires, expired⟩
          · exact queued
          · exact absurd expired (Int.not_le.mpr (prompt candidate member running expiry expires))
        have row := @rowCounted_claimed maximumAttempts state.history candidate (claimOptions processor now) queued
          (counted.rows candidate member)
        have within : (claimCount (.claimed candidate.id :: state.history) candidate.id : Int) ≤
            max 1 maximumAttempts := by
          obtain ⟨attempts, -, left⟩ := row
          exact attempts ▸ left
        have grounded : ∀ flight ∈ state.flights, flight.2.id ≠ candidate.id := by
          intro flight isFlown same
          obtain ⟨stored, running, -⟩ := counted.flown flight isFlown
          rw [eq_of_key (state.database.consistent .jobId) stored member same, queued] at running
          cases running
        let claim (job : ProvisioningJobRow) := job.claimed (claimOptions processor now)
        refine @counted_rewritten maximumAttempts state _ (.claimed candidate.id) candidate claim counted member ?_
          (fun _ => rfl) rfl rfl row within ?_ ?_ ?_ ?_
        · exact congrArg Tables.provisioningJobs written
        · refine List.nodup_cons.mpr ⟨fun inFlight => ?_, counted.distinct⟩
          obtain ⟨flight, isFlown, same⟩ := List.mem_map.mp inFlight
          exact grounded flight isFlown same
        · intro flight other
          rw [List.mem_cons]
          constructor
          · rintro (rfl | old)
            · exact absurd rfl other
            · exact old
          · exact .inr
        · intro flight isFlown same
          rcases List.mem_cons.mp isFlown with rfl | old
          · exact ⟨rfl, rfl, rfl, enabled⟩
          · exact absurd same (grounded flight old)
        · intro _
          exact ⟨(processor, _), List.mem_cons_self, rfl⟩

theorem flight_stored (counted : Counted maximumAttempts state) (isFlown : (processor, job) ∈ state.flights) :
    job ∈ state.database.tables.provisioningJobs ∧ job.status = .running ∧
      job.leaseOwner = some processor.processorId ∧ processor.maximumAttempts = maximumAttempts :=
  counted.flown (processor, job) isFlown

/-- A job goes back into the queue after a failure that can be retried, if an attempt is
left. -/
def requeues (maximumAttempts : Int) (job : ProvisioningJobRow) (failure : Option WorkerFailure) : Bool :=
  failure.any fun failure => failure.retryable && job.attempt < maximumAttempts

theorem settled_requeue (shared : processor.maximumAttempts = maximumAttempts) (settled : SettledJob) :
    (settled.options processor job outcome).requeue = requeues maximumAttempts job settled.failure := by
  obtain ⟨database, failure, finishedAt⟩ := settled
  cases failure with
  | none => cases outcome <;> rfl
  | some failure => simp [SettledJob.options, FinishProvisioningJobOptions.requeue, finishOptions, requeues, shared]

theorem settled_status (settled : SettledJob) :
    ((job.finished (settled.options processor job outcome)).status =
      if requeues processor.maximumAttempts job settled.failure then .queued
      else if settled.failure.isSome then .failed else .succeeded) := by
  change (settled.options processor job outcome).nextStatus = _
  rw [FinishProvisioningJobOptions.nextStatus, settled_requeue rfl]
  split
  · rfl
  · obtain ⟨database, failure, finishedAt⟩ := settled
    cases failure with
    | none => cases outcome <;> rfl
    | some failure => rfl

theorem retryDelayMs_nonnegative (attempt : Int) : 0 ≤ retryDelayMs attempt := by
  have power : (0 : Int) ≤ 2 ^ (attempt - 1).toNat := Int.pow_nonneg (by decide)
  unfold retryDelayMs
  omega

/-- A job that goes back into the queue waits for its delay. -/
theorem settled_available (settled : SettledJob) {failure : WorkerFailure} (caught : settled.failure = some failure)
    (again : requeues processor.maximumAttempts job settled.failure = true) :
    (job.finished (settled.options processor job outcome)).availableAt =
      settled.finishedAt + retryDelayMs job.attempt := by
  have requeued : (settled.options processor job outcome).requeue = true := by rw [settled_requeue rfl, again]
  have positive := retryDelayMs_nonnegative job.attempt
  rw [ProvisioningJobRow.finished, requeued, if_pos rfl]
  simp only [SettledJob.options, caught, finishOptions]
  omega

theorem rowCounted_finished (running : job.status = .running) (shared : processor.maximumAttempts = maximumAttempts)
    (row : RowCounted maximumAttempts history job) (settled : SettledJob) :
    RowCounted maximumAttempts (.ended job.id settled.failure settled.finishedAt :: history)
      (job.finished (settled.options processor job outcome)) := by
  simp only [RowCounted, running] at row
  obtain ⟨attempts, failures, left⟩ := row
  let note : RetryNote := .ended job.id settled.failure settled.finishedAt
  have status := @settled_status job processor outcome settled
  unfold RowCounted
  rw [status]
  cases again : requeues processor.maximumAttempts job settled.failure with
  | true =>
      obtain ⟨failure, caught, retryable⟩ := (Option.any_eq_true _ _).mp again
      simp only [Bool.and_eq_true, decide_eq_true_eq, shared] at retryable
      have claims : claimCount (note :: history) job.id = claimCount history job.id := by
        simp [claimCount, note, RetryNote.isClaim]
      have failed : retryableFailures (note :: history) job.id = retryableFailures history job.id + 1 := by
        simp [retryableFailures, note, RetryNote.isRetryable, caught, retryable.1]
      refine ⟨?_, ?_, lt_max_of_lt_right retryable.2, ?_⟩
      · change job.attempt = (claimCount (note :: history) job.id : Int)
        omega
      · change claimCount (note :: history) job.id = retryableFailures (note :: history) job.id
        omega
      · intro finishedAt ended
        obtain rfl : settled.finishedAt = finishedAt := by
          simpa [endedAt, RetryNote.jobId, RetryNote.finishedAt] using ended
        exact settled_available settled caught again
  | false => cases settled.failure <;> trivial

theorem counted_settle (counted : Counted maximumAttempts state)
    (isFlown : (processor, job) ∈ state.flights) :
    Counted maximumAttempts (settleFlight state processor job outcome now later) := by
  obtain ⟨member, running, owner, shared⟩ := flight_stored counted isFlown
  obtain ⟨written, -⟩ := @settleJob_tables processor state.database job outcome now later member running owner
  let settled := settleJob processor state.database job outcome now later
  let options := settled.options processor job outcome
  let note : RetryNote := .ended job.id settled.failure settled.finishedAt
  have within : (claimCount (note :: state.history) job.id : Int) ≤ max 1 maximumAttempts := by
    have claims : claimCount (note :: state.history) job.id = claimCount state.history job.id := by
      simp [claimCount, note, RetryNote.isClaim]
    rw [claims]
    exact counted.bounded job.id
  have landed : ∀ flight ∈ state.flights.erase (processor, job), flight.2.id ≠ job.id := by
    intro flight remains same
    have rows : state.flights.Nodup := counted.distinct.of_map
    obtain ⟨different, old⟩ := (List.Nodup.mem_erase_iff rows).mp remains
    exact different (eq_of_key counted.distinct old isFlown same)
  refine @counted_rewritten maximumAttempts state _ note job (fun row => row.finished options) counted member ?_
    (fun _ => rfl) rfl rfl ?_ within ?_ ?_ ?_ ?_
  · exact congrArg Tables.provisioningJobs written
  · exact rowCounted_finished running shared (counted.rows job member) settled
  · exact counted.distinct.sublist ((List.erase_sublist).map _)
  · intro flight other
    refine ⟨List.mem_of_mem_erase, fun old => ?_⟩
    refine (List.mem_erase_of_ne fun same => other ?_).mpr old
    rw [same]
  · intro flight remains same
    exact absurd same (landed flight remains)
  · intro isRunning
    exact absurd isRunning (finished_not_running job options)

theorem retrying_claim : (retrying maximumAttempts).step state (.claim processor now) =
    claimJob state processor now := by
  simp only [retrying]

theorem retrying_settle : (retrying maximumAttempts).step state (.settle processor job outcome now later) =
    settleFlight state processor job outcome now later := by
  simp only [retrying]

theorem counted_step {event : RetryEvent} (counted : Counted maximumAttempts state)
    (enabled : (retrying maximumAttempts).Enabled state event) (prompt : Prompt state event) :
    Counted maximumAttempts ((retrying maximumAttempts).step state event) := by
  cases event with
  | claim processor now =>
      rw [retrying_claim]
      exact counted_claim counted enabled prompt
  | settle processor job outcome now later =>
      rw [retrying_settle]
      exact counted_settle counted enabled
  | elsewhere database => exact counted_elsewhere counted enabled

theorem counted_run {start : RetryState} {events : List RetryEvent}
    (initial : (retrying maximumAttempts).Initial start)
    (runs : (retrying maximumAttempts).Along (retrying maximumAttempts).Enabled start events)
    (prompt : (retrying maximumAttempts).Along Prompt start events) :
    Counted maximumAttempts ((retrying maximumAttempts).run start events) := by
  have kept : (retrying maximumAttempts).Along (fun _ _ => True) start events ∧
      Counted maximumAttempts ((retrying maximumAttempts).run start events) :=
    (runs.and prompt).invariant (counted_initial initial) fun state event met counted =>
      ⟨trivial, counted_step counted met.1 met.2⟩
  exact kept.2

/-! ## Bounded retries -/

/-- A job that nobody processes is over, or waits until its delay has passed. -/
def AtRest (maximumAttempts : Int) (history : List RetryNote) (job : ProvisioningJobRow) : Prop :=
  job.status = .succeeded ∨ job.status = .failed ∨
    (job.status = .queued ∧ claimCount history job.id < max 1 maximumAttempts ∧
      (∀ time, job.Claimable time ↔ job.availableAt ≤ time) ∧
      ∀ finishedAt ∈ endedAt history job.id,
        job.availableAt = finishedAt + min 60000 (1000 * 2 ^ (retryableFailures history job.id - 1)))

/-- How the attempt on a job has ended, as the history has it, and what the job and its
workspace are then. -/
def AttemptEnded (after : RetryState) (job : ProvisioningJobRow) (outcome : WorkerOutcome) : Prop :=
  ∃ failure finishedAt, after.history.head? = some (.ended job.id failure finishedAt) ∧
    ∃ ended ∈ after.database.tables.provisioningJobs, ended.id = job.id ∧
    ∃ workspace ∈ after.database.tables.workspaces, workspace.id = job.workspaceId ∧
      match failure with
      | none => ended.status = .succeeded ∧ workspace.state = .ready ∧
          ∃ workspaceId, outcome = .running workspaceId ∧ workspace.workerWorkspaceId = some workspaceId
      | some failure =>
          (outcome.error = some failure ∨ outcome.error = none ∧ failure = unexpectedFailure) ∧
          (failure.retryable = false → ended.status = .failed) ∧
          (failure.retryable = true → ∀ time < finishedAt +
            min 60000 (1000 * 2 ^ (retryableFailures after.history job.id - 1)), ¬ ended.Claimable time) ∧
          (ended.status = .failed ∧ workspace.state = .failed ∨
            ended.status = .queued ∧ failure.retryable = true)

theorem claimable_queued {time : Int} (queued : job.status = .queued) :
    job.Claimable time ↔ job.availableAt ≤ time := by
  simp [ProvisioningJobRow.Claimable, queued]

/-- After the k-th failure a job waits for the k-th delay. -/
theorem rowCounted_available (queued : job.status = .queued) (row : RowCounted maximumAttempts history job) :
    ∀ finishedAt ∈ endedAt history job.id,
      job.availableAt = finishedAt + min 60000 (1000 * 2 ^ (retryableFailures history job.id - 1)) := by
  simp only [RowCounted, queued] at row
  obtain ⟨attempts, failures, -, delayed⟩ := row
  intro finishedAt ended
  have exponent : (job.attempt - 1).toNat = retryableFailures history job.id - 1 := by omega
  rw [delayed finishedAt ended, retryDelayMs, exponent]

theorem counted_rest (counted : Counted maximumAttempts state)
    (member : job ∈ state.database.tables.provisioningJobs) (idle : ∀ flight ∈ state.flights, flight.2 ≠ job) :
    AtRest maximumAttempts state.history job := by
  have row := counted.rows job member
  cases status : job.status with
  | succeeded => exact .inl status
  | failed => exact .inr (.inl status)
  | running =>
      obtain ⟨flight, isFlown, same⟩ := counted.awaited job member status
      exact absurd same (idle flight isFlown)
  | queued =>
      have available := rowCounted_available status row
      simp only [RowCounted, status] at row
      obtain ⟨attempts, failures, left, -⟩ := row
      exact .inr (.inr ⟨status, by omega, fun time => claimable_queued status, available⟩)

/-- The workspace of a job after the job has been finished. -/
theorem finished_workspace {tables : Tables} {options : FinishProvisioningJobOptions} {workspace : WorkspaceRow}
    (member : workspace ∈ tables.workspaces) :
    ∃ after ∈ finishedWorkspaces options workspace.id tables, after.id = workspace.id ∧
      match options.workspaceState with
      | none => True
      | some state => after.state = state ∧
          after.workerWorkspaceId = (options.assignedWorker workspace.id).or workspace.workerWorkspaceId := by
  unfold finishedWorkspaces
  cases options.workspaceState with
  | none => exact ⟨workspace, member, rfl, trivial⟩
  | some state =>
      have selected : decide (workspace.id = workspace.id) = true := decide_eq_true rfl
      exact ⟨_, mem_updateWhere_of member selected, rfl, rfl, rfl⟩

theorem counted_ended (counted : Counted maximumAttempts state)
    (isFlown : (processor, job) ∈ state.flights) :
    AttemptEnded (settleFlight state processor job outcome now later) job outcome := by
  obtain ⟨member, running, owner, shared⟩ := flight_stored counted isFlown
  obtain ⟨written, ending⟩ := @settleJob_tables processor state.database job outcome now later member running owner
  let settled := settleJob processor state.database job outcome now later
  let options := settled.options processor job outcome
  obtain ⟨before, stored, owned⟩ := List.mem_map.mp (state.database.consistent .jobWorkspace job member)
  obtain ⟨workspace, kept, sameWorkspace, settles⟩ :=
    @finished_workspace state.database.tables options before stored
  refine ⟨settled.failure, settled.finishedAt, rfl, job.finished options, ?_, rfl, workspace, ?_,
    sameWorkspace.trans owned, ?_⟩
  · change job.finished options ∈
      (settleJob processor state.database job outcome now later).database.tables.provisioningJobs
    rw [written]
    exact mem_updateWhere_of member (decide_eq_true rfl)
  · change workspace ∈ (settleJob processor state.database job outcome now later).database.tables.workspaces
    rw [written]
    simpa only [finishedTables, owned] using kept
  · have status : (job.finished options).status = _ := settled_status settled
    rcases ending with ⟨success, workspaceId, rfl⟩ | ⟨failure, caught, cause⟩
    · have success : settled.failure = none := success
      have chosen : options = succeededOptions processor job workspaceId settled.finishedAt := by
        simp only [options, SettledJob.options, success]
      rw [chosen] at settles
      rw [success] at status ⊢
      exact ⟨status, settles.1, workspaceId, rfl, settles.2⟩
    · have caught : settled.failure = some failure := caught
      have target : options.workspaceState =
          if requeues processor.maximumAttempts job settled.failure then none else some .failed := by
        simp only [options, SettledJob.options, caught]
        rfl
      rw [target] at settles
      cases again : requeues processor.maximumAttempts job settled.failure with
      | true =>
          rw [again] at status
          have queued : (job.finished options).status = .queued := status
          have row := @rowCounted_finished maximumAttempts state.history job processor outcome running shared
            (counted.rows job member) settled
          have available := rowCounted_available queued row settled.finishedAt
            (by simp [endedAt, RetryNote.jobId, RetryNote.finishedAt])
          rw [caught] at again ⊢
          have retryable : failure.retryable = true := (Bool.and_eq_true_iff.mp again).1
          refine ⟨cause, fun fatal => ?_, fun _ time early claimable => ?_, .inr ⟨queued, retryable⟩⟩
          · rw [retryable] at fatal
            cases fatal
          · have waits : (job.finished options).availableAt ≤ time := (claimable_queued queued).mp claimable
            exact absurd (available ▸ waits) (Int.not_le.mpr early)
      | false =>
          rw [again] at status settles
          rw [caught] at status ⊢
          have failed : (job.finished options).status = .failed := status
          refine ⟨cause, fun _ => failed, fun _ time _ claimable => ?_, .inl ⟨failed, settles.1⟩⟩
          have active := claimable_active claimable
          simp [ProvisioningJobRow.active, failed] at active

/-! ## Progress -/

/-- What a claim of the candidate writes. -/
def claimedTables (options : ClaimProvisioningJobOptions) (candidate : ProvisioningJobRow) (tables : Tables) : Tables :=
  { tables with
    provisioningJobs := updateWhere (fun job => job.id = candidate.id) (fun job => job.claimed options)
      tables.provisioningJobs }

theorem claimed_consistent {database : CloudDatabase} {options : ClaimProvisioningJobOptions}
    {candidate : ProvisioningJobRow} (member : candidate ∈ database.tables.provisioningJobs)
    (claimable : candidate.Claimable options.now) :
    schema.Consistent (claimedTables options candidate database.tables) := by
  have distinct : (database.tables.provisioningJobs.map (·.id)).Nodup := database.consistent .jobId
  intro constraint
  have held := database.consistent constraint
  cases constraint with
  | jobId =>
      have ids : (claimedTables options candidate database.tables).provisioningJobs.map (·.id) =
          database.tables.provisioningJobs.map (·.id) := map_updateWhere fun _ => rfl
      exact (congrArg List.Nodup ids).mpr held
  | jobActiveWorkspace =>
      have fewer : (((claimedTables options candidate database.tables).provisioningJobs.filter (·.active)).map
          (·.workspaceId)).Sublist ((database.tables.provisioningJobs.filter (·.active)).map (·.workspaceId)) :=
        filter_updateWhere_sublist (fun _ => rfl) fun job stored chosen _ => by
          have same : job = candidate := eq_of_key distinct stored member (of_decide_eq_true chosen)
          rw [same]
          exact claimable_active claimable
      exact fewer.nodup held
  | jobWorkspace =>
      intro job stored
      obtain ⟨before, beforeStored, rfl⟩ := mem_updateWhere.mp stored
      have referenced := held before beforeStored
      split
      · exact referenced
      · exact referenced
  | jobChecks =>
      intro job stored
      obtain ⟨before, beforeStored, rfl⟩ := mem_updateWhere.mp stored
      have checks := held before beforeStored
      split
      · exact ⟨Int.add_nonneg checks.1 (by decide), fun _ => ⟨rfl, rfl⟩⟩
      · exact checks
  | _ => exact held

/-- A claim takes a job whenever one can be claimed. -/
theorem claimProvisioningJob_takes {database : CloudDatabase} {options : ClaimProvisioningJobOptions}
    (owner : trim options.leaseOwner ≠ "") (lease : 0 < options.leaseDurationMs)
    (claimable : ∃ job ∈ database.tables.provisioningJobs, job.Claimable options.now) :
    ∃ after job, claimProvisioningJob database options = .ok (after, some job) := by
  have some' : (findClaimable database.tables options.now).isSome = true := by
    obtain ⟨job, member, ready⟩ := claimable
    rw [Option.isSome_iff_ne_none]
    intro none
    have empty := List.argmin_eq_none.mp none
    exact List.ne_nil_of_mem (List.mem_filter.mpr ⟨member, decide_eq_true ready⟩) empty
  obtain ⟨candidate, found⟩ := Option.isSome_iff_exists.mp some'
  obtain ⟨member, ready⟩ := List.mem_filter.mp (List.argmin_mem found)
  have distinct : (database.tables.provisioningJobs.map (·.id)).Nodup := database.consistent .jobId
  obtain ⟨after, update, written⟩ : ∃ after, statement database (claimedTables options candidate) = .ok after ∧
      after.tables = claimedTables options candidate database.tables :=
    ⟨_, Store.execute_of_consistent (claimed_consistent member (of_decide_eq_true ready)), rfl⟩
  have reread : lookup (·.id) after.tables.provisioningJobs candidate.id = some (candidate.claimed options) := by
    rw [written]
    exact lookup_updateWhere_self (fun job => job.claimed_id options) (lookup_of_mem distinct member)
  refine ⟨after, candidate.claimed options, ?_⟩
  unfold claimProvisioningJob
  rw [if_neg owner, if_neg (Int.not_le.mpr lease), found, ← reread]
  exact bind_ok.mpr ⟨after, update, rfl⟩

/-- A claim is progress: a claimable job is processed. -/
def ClaimTakes (state : RetryState) : Prop :=
  ∀ processor now, trim processor.processorId ≠ "" → 0 < processor.leaseDurationMs →
    (∃ job ∈ state.database.tables.provisioningJobs, job.Claimable now) →
    ∃ job ∈ state.database.tables.provisioningJobs, job.Claimable now ∧
      (claimJob state processor now).history = .claimed job.id :: state.history

theorem claimTakes (state : RetryState) : ClaimTakes state := by
  intro processor now named lease claimable
  obtain ⟨after, taken, claim⟩ := @claimProvisioningJob_takes state.database (claimOptions processor now) named lease
    claimable
  obtain ⟨nothing, -⟩ | ⟨candidate, member, ready, same, -⟩ := claimProvisioningJob_ok claim
  · cases nothing
  · cases same
    refine ⟨candidate, member, ready, ?_⟩
    simp only [claimJob, claim, ProvisioningJobRow.claimed_id]

/-- However the workers answer, a job is claimed at most as often as it has attempts, and
whenever nobody processes it, it is over or waits for its delay. -/
theorem retries_bounded {start : RetryState} {events : List RetryEvent}
    (initial : (retrying maximumAttempts).Initial start)
    (runs : (retrying maximumAttempts).Along (retrying maximumAttempts).Enabled start events)
    (prompt : (retrying maximumAttempts).Along Prompt start events) :
    let state := (retrying maximumAttempts).run start events
    (∀ jobId, claimCount state.history jobId ≤ max 1 maximumAttempts) ∧
      (∀ job ∈ state.database.tables.provisioningJobs, (∀ flight ∈ state.flights, flight.2 ≠ job) →
        AtRest maximumAttempts state.history job) ∧
      ClaimTakes state ∧
      ∀ processor job, (processor, job) ∈ state.flights → ∀ outcome now later,
        AttemptEnded (settleFlight state processor job outcome now later) job outcome := by
  intro state
  have counted : Counted maximumAttempts state := counted_run initial runs prompt
  exact ⟨counted.bounded, fun job member idle => counted_rest counted member idle, claimTakes state,
    fun processor job isFlown outcome now later => counted_ended counted isFlown⟩

def retryProcessor : ProvisioningProcessor := ⟨"control-plane-a", 180, 2⟩

def workerUnavailable : WorkerFailure := ⟨"worker_unavailable", "The worker is unavailable", true⟩

def scheduledDatabase : CloudDatabase :=
  let options := (openWorkspace "j1" 10).toEnsurePersonalWorkspaceOptions
  let ensured := (commit newcomer (ensurePersonalWorkspace newcomer options)).1
  (commit ensured (scheduleWorkspace ensured "w1" "j1" 10)).1

def claimedAt (job : ProvisioningJobRow) (now : Int) : ProvisioningJobRow :=
  job.claimed (claimOptions retryProcessor now)

def firstAttempt : ProvisioningJobRow := claimedAt (queuedJob "j1" "w1" 10) 20

def secondAttempt : ProvisioningJobRow :=
  claimedAt (firstAttempt.finished (finishOptions retryProcessor firstAttempt 30 (.failed workerUnavailable))) 1030

/-- The worker is unavailable at first. -/
def retriedOnce : List RetryEvent :=
  [.elsewhere scheduledDatabase, .claim retryProcessor 20,
    .settle retryProcessor firstAttempt (.refused workerUnavailable) 30 30, .claim retryProcessor 1030]

theorem retries_retriedOnce :
    claimCount ((retrying 2).run ⟨newcomer, [], []⟩ retriedOnce).history "j1" = 2 ∧
      AttemptEnded (settleFlight ((retrying 2).run ⟨newcomer, [], []⟩ retriedOnce) retryProcessor secondAttempt
        (.running "w1") 1040 1040) secondAttempt (.running "w1") := by
  have start : (retrying 2).Initial ⟨newcomer, [], []⟩ := ⟨by decide, rfl, rfl⟩
  have flown : (retryProcessor, firstAttempt) ∈
      ((retrying 2).run ⟨newcomer, [], []⟩ (retriedOnce.take 2)).flights := by decide +kernel
  have runs : (retrying 2).Along (retrying 2).Enabled ⟨newcomer, [], []⟩ retriedOnce :=
    ⟨⟨[queuedJob "j1" "w1" 10], by decide +kernel, by decide⟩, rfl, flown, rfl, trivial⟩
  have prompt : (retrying 2).Along Prompt ⟨newcomer, [], []⟩ retriedOnce :=
    ⟨trivial, by decide +kernel, trivial, by decide +kernel, trivial⟩
  obtain ⟨-, -, -, ended⟩ := retries_bounded start runs prompt
  exact ⟨by decide +kernel, ended retryProcessor secondAttempt (by decide +kernel) (.running "w1") 1040 1040⟩

end Counting

end NebulaCloud.Provisioning
