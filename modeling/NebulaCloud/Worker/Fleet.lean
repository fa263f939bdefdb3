import NebulaCloud.Capacity.StickyDrain
import NebulaCloud.Provisioning.Retries
import NebulaCloud.Worker.Routing

namespace NebulaCloud.Worker

open NebulaCloud.Data NebulaCloud.Database NebulaCloud.Platform NebulaCloud.Provisioning

/-! # Workspaces on a fleet

A worker that runs a workspace reports the identifier under which it knows it, and that is
what later calls are made with. -/

/-- A job that was handed to a worker, and how the call has ended. -/
structure Dispatched where
  processor : ProvisioningProcessor
  job : ProvisioningJobRow
  ended : Except ClientFailure WorkerAnswer

structure Fleet where
  directory : WorkerDirectory
  dispatched : List Dispatched

inductive FleetEvent
  /-- `processNext` up to the answer of the worker. -/
  | process (processor : ProvisioningProcessor) (now : Int) (authorized : Bool) (surroundings : Surroundings)
  /-- And what it does then, in the order in which the answers come. -/
  | settle (index : Nat) (now later : Int)
  | call (call : WorkerCall) (surroundings : Surroundings)
  | elsewhere (database : CloudDatabase)

/-- What the processor makes of the end of a call; `toText` is `String(value)`.  It does not
get to finish the job if the call was aborted, which it does itself to stop, or if the
code of the error is no text and so cannot be trimmed. -/
def workerOutcome (toText : Json → String) : Except ClientFailure WorkerAnswer → Option WorkerOutcome
  | .ok (.provisioned result) => some (.running result.workspaceId)
  | .ok (.access _) | .ok (.workspace _) | .ok (.response _) => none
  | .error .aborted => none
  | .error (.worker error) =>
      match error.code with
      | .string code => some (.refused ⟨code, toText error.message, truthy error.retryable⟩)
      | _ => none
  | .error .typeError | .error (.error _) | .error (.database _) => some .unexpected

section Steps

variable {Load : Type} [LinearOrder Load] (quotient : Int → Int → Load) (hmac : String → String → String)
  (parseHost : List Char → Option String) (toText : Json → String) (settings : DirectorySettings)

def Fleet.process (fleet : Fleet) (processor : ProvisioningProcessor) (now : Int) (authorized : Bool)
    (surroundings : Surroundings) : Fleet :=
  match claimProvisioningJob fleet.directory.database (claimOptions processor now) with
  | .error _ => fleet
  | .ok (database, none) => { fleet with directory := { fleet.directory with database } }
  | .ok (database, some job) =>
      if authorized then
        let called := ({ fleet.directory with database } : WorkerDirectory).call quotient hmac parseHost settings
          (.ensureWorkspaceRunning job.workspaceId job.id) surroundings
        { directory := called.1, dispatched := fleet.dispatched ++ [⟨processor, job, called.2.2⟩] }
      else
        let settled := settleJob processor database job .unauthorized now now
        { fleet with directory := { fleet.directory with database := settled.database } }

def Fleet.settle (fleet : Fleet) (index : Nat) (now later : Int) : Fleet :=
  match fleet.dispatched[index]? with
  | none => fleet
  | some flight =>
      match workerOutcome toText flight.ended with
      | none => { fleet with dispatched := fleet.dispatched.eraseIdx index }
      | some outcome =>
          let settled := settleJob flight.processor fleet.directory.database flight.job outcome now later
          { directory := { fleet.directory with database := settled.database }
            dispatched := fleet.dispatched.eraseIdx index }

/-- Nothing else writes the identifiers that the workers gave. -/
def KeepsWorkerIds (before after : Tables) : Prop :=
  ∀ workspace ∈ after.workspaces, ∀ workerWorkspaceId ∈ workspace.workerWorkspaceId,
    ∃ earlier ∈ before.workspaces, earlier.id = workspace.id ∧ earlier.workerWorkspaceId = some workerWorkspaceId

/-- A job stays with its workspace; the identifiers of new ones are new. -/
def KeepsJobs (dispatched : List Dispatched) (before after : Tables) : Prop :=
  ∀ job ∈ after.provisioningJobs,
    (∃ earlier ∈ before.provisioningJobs, earlier.id = job.id ∧ earlier.workspaceId = job.workspaceId) ∨
      ∀ flight ∈ dispatched, flight.job.id ≠ job.id

def fleet : System Fleet FleetEvent where
  Initial fleet :=
    (∀ workspace ∈ fleet.directory.database.tables.workspaces, workspace.workerWorkspaceId = none) ∧
      fleet.directory.clients = [] ∧ fleet.dispatched = []
  Enabled fleet
    | .elsewhere database =>
        KeepsWorkerIds fleet.directory.database.tables database.tables ∧
          KeepsJobs fleet.dispatched fleet.directory.database.tables database.tables
    | .process _ _ _ _ | .settle _ _ _ | .call _ _ => True
  step fleet
    | .process processor now authorized surroundings =>
        fleet.process quotient hmac parseHost settings processor now authorized surroundings
    | .settle index now later => fleet.settle toText index now later
    | .call call surroundings =>
        { fleet with directory := (fleet.directory.call quotient hmac parseHost settings call surroundings).1 }
    | .elsewhere database => { fleet with directory := { fleet.directory with database } }

end Steps

/-! ## What holds of a fleet -/

/-- No answer that is still to be stored is about another workspace. -/
structure Sound (settings : FactorySettings) (fleet : Fleet) : Prop where
  own : OwnWorker fleet.directory.database.tables.workspaces
  coherent : Coherent settings fleet.directory.clients
  answers : ∀ flight ∈ fleet.dispatched, ∀ answer, flight.ended = .ok answer →
    ∀ told ∈ answer.workspaceId, told = flight.job.workspaceId
  jobs : ∀ flight ∈ fleet.dispatched, ∀ current ∈ fleet.directory.database.tables.provisioningJobs,
    current.id = flight.job.id → current.workspaceId = flight.job.workspaceId

section Steps

variable {Load : Type} [LinearOrder Load] {quotient : Int → Int → Load} {hmac : String → String → String}
  {parseHost : List Char → Option String} {toText : Json → String} {settings : DirectorySettings}
  {database after : CloudDatabase} {state : Fleet} {job : ProvisioningJobRow} {processor : ProvisioningProcessor}
  {call : WorkerCall} {now later : Int}

theorem KeepsWorkerIds.own (kept : KeepsWorkerIds database.tables after.tables)
    (own : OwnWorker database.tables.workspaces) : OwnWorker after.tables.workspaces := by
  intro workspace member workerWorkspaceId known
  obtain ⟨earlier, stored, sameId, sameWorker⟩ := kept workspace member workerWorkspaceId known
  exact (own earlier stored workerWorkspaceId sameWorker).trans sameId

/-- Every job row was there, with the same workspace. -/
def SameJobs (before after : Tables) : Prop :=
  ∀ job ∈ after.provisioningJobs, ∃ earlier ∈ before.provisioningJobs, earlier.id = job.id ∧
    earlier.workspaceId = job.workspaceId

theorem sameJobs_updateWhere {selected : ProvisioningJobRow → Bool} {change : ProvisioningJobRow → ProvisioningJobRow}
    (written : after.tables.provisioningJobs = updateWhere selected change database.tables.provisioningJobs)
    (sameId : ∀ job, (change job).id = job.id) (sameWorkspace : ∀ job, (change job).workspaceId = job.workspaceId) :
    SameJobs database.tables after.tables := by
  intro job member
  rw [written] at member
  obtain ⟨earlier, stored, rfl⟩ := mem_updateWhere.mp member
  refine ⟨earlier, stored, ?_⟩
  split
  · exact ⟨(sameId earlier).symm, (sameWorkspace earlier).symm⟩
  · exact ⟨rfl, rfl⟩

/-- A finish stores what it is given for the workspace of the job. -/
theorem finish_own {options : FinishProvisioningJobOptions} {result : ProvisioningJobRow}
    (own : OwnWorker database.tables.workspaces)
    (given : ∀ current ∈ database.tables.provisioningJobs, current.id = options.jobId →
      ∀ workerWorkspaceId ∈ options.workerWorkspaceId, workerWorkspaceId = current.workspaceId)
    (accepted : finishProvisioningJob database options = .ok (after, result)) :
    OwnWorker after.tables.workspaces ∧ SameJobs database.tables after.tables := by
  obtain ⟨current, member, found, _, _, _, written⟩ := finishProvisioningJob_ok accepted
  have jobs : after.tables.provisioningJobs = updateWhere (fun row => row.id = options.jobId)
      (fun row => row.finished options) database.tables.provisioningJobs := by
    rw [written]
  refine ⟨?_, sameJobs_updateWhere jobs (fun _ => rfl) fun _ => rfl⟩
  rw [written]
  exact own_finishedWorkspaces (given current member found) own

theorem catchFailure_own (own : OwnWorker database.tables.workspaces) (failure : WorkerFailure) :
    OwnWorker (catchFailure processor database job failure now).database.tables.workspaces ∧
      SameJobs database.tables (catchFailure processor database job failure now).database.tables := by
  unfold catchFailure
  cases finished : finishProvisioningJob database (finishOptions processor job now (.failed failure)) with
  | error failure => exact ⟨own, fun job member => ⟨job, member, rfl, rfl⟩⟩
  | ok result => exact finish_own own (by simp [finishOptions]) finished

/-- Settling a job with an answer about its workspace. -/
theorem settleJob_own {outcome : WorkerOutcome} (own : OwnWorker database.tables.workspaces)
    (answered : ∀ workspaceId, outcome = .running workspaceId → workspaceId = job.workspaceId)
    (known : ∀ current ∈ database.tables.provisioningJobs, current.id = job.id →
      current.workspaceId = job.workspaceId) :
    OwnWorker (settleJob processor database job outcome now later).database.tables.workspaces ∧
      SameJobs database.tables (settleJob processor database job outcome now later).database.tables := by
  cases outcome with
  | unauthorized => exact catchFailure_own own _
  | refused failure => exact catchFailure_own own _
  | unexpected => exact catchFailure_own own _
  | running workspaceId =>
      cases finished : finishProvisioningJob database (succeededOptions processor job workspaceId now) with
      | error failure =>
          simp only [settleJob, finished]
          exact catchFailure_own own _
      | ok result =>
          simp only [settleJob, finished]
          refine finish_own own ?_ finished
          intro current member same workerWorkspaceId isGiven
          rw [known current member same]
          have told : workspaceId = workerWorkspaceId := Option.some.inj isGiven
          exact told ▸ answered workspaceId rfl

theorem resolveCall_own {outcome : Except ClientFailure (WorkerHostRow × String)}
    (resolved : resolveCall quotient settings database call now = (after, outcome))
    (own : OwnWorker database.tables.workspaces) :
    OwnWorker after.tables.workspaces ∧ after.tables.provisioningJobs = database.tables.provisioningJobs := by
  cases call with
  | ensureWorkspaceRunning workspaceId jobId =>
      simp only [resolveCall] at resolved
      split at resolved
      · cases resolved
        exact ⟨own, rfl⟩
      · rename_i placed assignment assigns
        cases resolved
        obtain rfl | ⟨workspace, _, candidate, _, required, _, _, written⟩ := assignWorkspaceWorker_ok assigns
        · exact ⟨own, rfl⟩
        · refine ⟨?_, by rw [written]; rfl⟩
          rw [written]
          intro row member workerWorkspaceId known
          obtain ⟨earlier, stored, rfl⟩ := mem_updateWhere.mp member
          have ownBefore := own earlier stored workerWorkspaceId
          split at known
          · rename_i selected
            rw [if_pos selected]
            exact ownBefore known
          · rename_i other
            rw [if_neg other]
            exact ownBefore known
  | getRuntimeAccess | getWorkspace | restartWorkspace | proxyWorkspaceService =>
      cases resolved
      exact ⟨own, rfl⟩

theorem call_own {directory : WorkerDirectory} {surroundings : Surroundings}
    (own : OwnWorker directory.database.tables.workspaces) :
    OwnWorker (directory.call quotient hmac parseHost settings call surroundings).1.database.tables.workspaces ∧
      (directory.call quotient hmac parseHost settings call surroundings).1.database.tables.provisioningJobs =
        directory.database.tables.provisioningJobs := by
  unfold WorkerDirectory.call
  cases resolved : resolveCall quotient settings directory.database call surroundings.assignedAt with
  | mk after outcome =>
      have kept := resolveCall_own resolved own
      cases outcome with
      | error failure => exact kept
      | ok target =>
          obtain ⟨host, workerWorkspaceId⟩ := target
          cases used : client settings.toFactorySettings directory.clients host with
          | mk made clients =>
              cases made with
              | error failure => simpa only [used] using kept
              | ok made => simpa only [used] using kept

/-- What the workspace of a call is known as is its own identifier. -/
theorem AssignedTo.own {host : WorkerHostRow} {workerWorkspaceId : String}
    (assigned : AssignedTo database call host workerWorkspaceId) (own : OwnWorker database.tables.workspaces) :
    workerWorkspaceId = call.workspaceId := by
  obtain ⟨workspace, found, _, _, known⟩ := assigned
  have sameId : workspace.id = call.workspaceId := lookup_key found
  have worker (stored : workspace.workerWorkspaceId = some workerWorkspaceId) :
      workerWorkspaceId = call.workspaceId :=
    (own workspace (lookup_mem found) workerWorkspaceId stored).trans sameId
  cases call with
  | ensureWorkspaceRunning workspaceId jobId => exact (Option.some.inj known).symm
  | getRuntimeAccess => exact worker known
  | getWorkspace => exact worker known
  | restartWorkspace => exact worker known
  | proxyWorkspaceService => exact worker known

theorem running_of_workerOutcome {ended : Except ClientFailure WorkerAnswer} {workspaceId : String}
    (outcome : workerOutcome toText ended = some (.running workspaceId)) :
    ∃ answer, ended = .ok answer ∧ answer.workspaceId = some workspaceId := by
  unfold workerOutcome at outcome
  split at outcome
  · cases outcome
    exact ⟨_, rfl, rfl⟩
  · cases outcome
  · cases outcome
  · cases outcome
  · cases outcome
  · split at outcome
    · cases outcome
    · cases outcome
  · cases outcome
  · cases outcome
  · cases outcome

/-- The rows of the jobs may be rewritten as long as they stay with their workspaces. -/
theorem Sound.jobs_kept (sound : Sound settings.toFactorySettings state)
    (same : SameJobs state.directory.database.tables after.tables) :
    ∀ flight ∈ state.dispatched, ∀ current ∈ after.tables.provisioningJobs,
      current.id = flight.job.id → current.workspaceId = flight.job.workspaceId := by
  intro flight member current stored found
  obtain ⟨earlier, wasStored, sameId, sameWorkspace⟩ := same current stored
  exact sameWorkspace.symm.trans (sound.jobs flight member earlier wasStored (sameId.trans found))

theorem sound_process (colonFree : ColonFree settings.credentials) {authorized : Bool} {surroundings : Surroundings}
    (sound : Sound settings.toFactorySettings state) :
    Sound settings.toFactorySettings
      (state.process quotient hmac parseHost settings processor now authorized surroundings) := by
  unfold Fleet.process
  cases claim : claimProvisioningJob state.directory.database (claimOptions processor now) with
  | error failure => exact sound
  | ok result =>
      obtain ⟨after, claimed⟩ := result
      obtain ⟨rfl, rfl⟩ | ⟨candidate, member, _, rfl, written⟩ := claimProvisioningJob_ok claim
      · exact sound
      · have own : OwnWorker after.tables.workspaces := by
          rw [written]
          exact sound.own
        have jobs : after.tables.provisioningJobs = updateWhere (fun job => job.id = candidate.id)
            (fun job => job.claimed (claimOptions processor now)) state.directory.database.tables.provisioningJobs := by
          rw [written]
        have same : SameJobs state.directory.database.tables after.tables :=
          sameJobs_updateWhere jobs (fun _ => rfl) fun _ => rfl
        have distinct : (after.tables.provisioningJobs.map (·.id)).Nodup := after.consistent .jobId
        have stored : candidate.claimed (claimOptions processor now) ∈ after.tables.provisioningJobs := by
          rw [jobs]
          exact mem_updateWhere.mpr ⟨candidate, member, if_pos (by simp)⟩
        have known : ∀ current ∈ after.tables.provisioningJobs,
            current.id = (candidate.claimed (claimOptions processor now)).id →
            current.workspaceId = (candidate.claimed (claimOptions processor now)).workspaceId := by
          intro current isStored found
          rw [eq_of_key distinct isStored stored found]
        cases authorized with
        | false =>
            obtain ⟨settled, sameSettled⟩ := @settleJob_own after (candidate.claimed (claimOptions processor now))
              processor now now .unauthorized own (by simp) known
            refine ⟨settled, sound.coherent, sound.answers, ?_⟩
            intro flight isFlight current isStored found
            obtain ⟨earlier, wasStored, sameId, sameWorkspace⟩ := sameSettled current isStored
            exact sameWorkspace.symm.trans (sound.jobs_kept same flight isFlight earlier wasStored (sameId.trans found))
        | true =>
            obtain ⟨ownCalled, jobsCalled⟩ := @call_own Load _ quotient hmac parseHost settings
              (.ensureWorkspaceRunning candidate.workspaceId candidate.id)
              { state.directory with database := after } surroundings own
            obtain ⟨coherent, routes⟩ := @call_routes Load _ quotient hmac parseHost settings
              (.ensureWorkspaceRunning candidate.workspaceId candidate.id) colonFree
              { state.directory with database := after } sound.coherent surroundings
            refine ⟨ownCalled, coherent, ?_, ?_⟩
            · intro flight isFlight
              rcases List.mem_append.mp isFlight with before | new
              · exact sound.answers flight before
              · rw [List.mem_singleton] at new
                subst new
                intro answer answered told isTold
                rcases routes with ⟨_, unanswered⟩ | ⟨host, workerWorkspaceId, _, assigned, _, _, answers⟩
                · exact absurd answered (unanswered answer)
                · exact (answers answer answered told isTold).trans (assigned.own ownCalled)
            · intro flight isFlight current isStored found
              have isStored := (congrArg (current ∈ ·) jobsCalled).mp isStored
              rcases List.mem_append.mp isFlight with before | new
              · exact sound.jobs_kept same flight before current isStored found
              · rw [List.mem_singleton] at new
                subst new
                exact known current isStored found

theorem sound_settle {index : Nat} (sound : Sound settings.toFactorySettings state) :
    Sound settings.toFactorySettings (state.settle toText index now later) := by
  unfold Fleet.settle
  cases held : state.dispatched[index]? with
  | none => exact sound
  | some flight =>
      have isFlight := List.mem_of_getElem? held
      have kept : ∀ flight ∈ state.dispatched.eraseIdx index, flight ∈ state.dispatched :=
        fun flight member => List.mem_of_mem_eraseIdx member
      cases outcome : workerOutcome toText flight.ended with
      | none =>
          simp only [outcome]
          exact ⟨sound.own, sound.coherent, fun other member => sound.answers other (kept other member),
            fun other member => sound.jobs other (kept other member)⟩
      | some outcome' =>
          simp only [outcome]
          have answered : ∀ workspaceId, outcome' = .running workspaceId → workspaceId = flight.job.workspaceId := by
            rintro workspaceId rfl
            obtain ⟨answer, ended, told⟩ := running_of_workerOutcome outcome
            exact sound.answers flight isFlight answer ended workspaceId told
          obtain ⟨own, same⟩ := @settleJob_own state.directory.database flight.job flight.processor now later outcome'
            sound.own answered (sound.jobs flight isFlight)
          exact ⟨own, sound.coherent, fun other member => sound.answers other (kept other member),
            fun other member => sound.jobs_kept same other (kept other member)⟩

theorem sound_step (colonFree : ColonFree settings.credentials) (event : FleetEvent)
    (enabled : (fleet quotient hmac parseHost toText settings).Enabled state event)
    (sound : Sound settings.toFactorySettings state) :
    Sound settings.toFactorySettings ((fleet quotient hmac parseHost toText settings).step state event) := by
  cases event with
  | process processor now authorized surroundings => exact sound_process colonFree sound
  | settle index now later => exact sound_settle sound
  | call call surroundings =>
      obtain ⟨own, jobs⟩ := @call_own Load _ quotient hmac parseHost settings call state.directory surroundings sound.own
      refine ⟨own, (call_routes colonFree sound.coherent surroundings).1, sound.answers, ?_⟩
      intro flight member current stored
      exact sound.jobs flight member current (jobs ▸ stored)
  | elsewhere database =>
      obtain ⟨workers, jobs⟩ := enabled
      refine ⟨workers.own sound.own, sound.coherent, sound.answers, ?_⟩
      intro flight member current stored found
      rcases jobs current stored with ⟨earlier, wasStored, sameId, sameWorkspace⟩ | fresh
      · exact sameWorkspace.symm.trans (sound.jobs flight member earlier wasStored (sameId.trans found))
      · exact absurd found.symm (fresh flight member)

theorem sound_reachable (colonFree : ColonFree settings.credentials)
    (reachable : (fleet quotient hmac parseHost toText settings).Reachable state) :
    Sound settings.toFactorySettings state := by
  refine reachable.invariant (Sound settings.toFactorySettings) ?_ ?_
  · rintro first ⟨unknown, noClients, idle⟩
    refine ⟨?_, ?_, by simp [idle], by simp [idle]⟩
    · intro workspace member workerWorkspaceId known
      rw [unknown workspace member] at known
      cases known
    · intro entry member
      rw [noClients] at member
      cases member
  · intro state event enabled sound
    exact sound_step colonFree event enabled sound

end Steps

section Sample

open NebulaCloud.Capacity (exactQuotient inService)

def fleetCredential : WorkerCredential where
  keyId := "key"
  secret := "0123456789abcdef0123456789abcdef"
  isKeyId := by decide
  trimmed := by decide +kernel
  isLong := by decide +kernel

def fleetSettings : DirectorySettings where
  credentials := [fleetCredential]
  workspaceImage := "nubols/workspace"
  placementRequirements := ⟨1024, 500, 2048, none⟩
  heartbeatMaxAgeMs := 30000

def sampleFleet : System Fleet FleetEvent :=
  fleet exactQuotient (fun _ _ => "c2lnbmF0dXJl") (fun _ => none) (fun _ => "") fleetSettings

/-- The workspace has been created, and a job has been queued for it. -/
def queuedFleet : Fleet where
  directory := ⟨(commit inService (scheduleWorkspace inService "w1" "job-1" 35)).1, []⟩
  dispatched := []

def readyReply (workspaceId : String) : FetchOutcome :=
  .response 200 (.object [("workspace", .object [("id", .string workspaceId), ("observed_state", .string "ready")])])

def accessReply (workspaceId : String) : FetchOutcome :=
  .response 200 (.object [("workspace_id", .string workspaceId), ("network", .string "tcp"),
    ("address", .string "10.0.0.2:7777"), ("access_token", .string "runtime-token")])

def surroundingsAt (now : Int) (reply secondReply : FetchOutcome) : Surroundings where
  first := ⟨now, "0123456789abcdef0123456789abcdef"⟩
  second := ⟨now, "fedcba9876543210fedcba9876543210"⟩
  reply := reply
  secondReply := secondReply
  assignedAt := now

/-- The job is done, and the workspace runs. -/
def provisionedFleet : Fleet :=
  sampleFleet.run queuedFleet
    [.process ⟨"processor", 60000, 5⟩ 40 true (surroundingsAt 40 (readyReply "w1") (readyReply "w1")),
      .settle 0 50 60]

/-- The runtime access of one workspace is asked for, and that of another is answered. -/
def misled : WorkerDirectory × Called WorkerAnswer :=
  provisionedFleet.directory.call exactQuotient (fun _ _ => "c2lnbmF0dXJl") (fun _ => none) fleetSettings
    (.getRuntimeAccess "w1") (surroundingsAt 70 (accessReply "w2") .unreachable)

end Sample

end NebulaCloud.Worker
