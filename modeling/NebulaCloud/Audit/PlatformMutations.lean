import NebulaCloud.Capacity.WorkerAdministration
import NebulaCloud.Database.PlatformControl
import NebulaCloud.Database.PublishedService

namespace NebulaCloud.Audit

open NebulaCloud.Data NebulaCloud.Database NebulaCloud.Platform NebulaCloud.Capacity

/-! # Audited platform mutations

A control update logs itself in its own transaction.  Worker actions and
organization-wide revocations commit first and write to the log afterwards. -/

inductive PlatformMutation
  | control (name : PlatformControlName) (paused : Bool) (reason : String)
  | worker (workerHostId : String) (update : UpdateWorkerHostRequest)
  | revocation (organizationId reason : String)
deriving DecidableEq, Repr

/-- A request past authentication.  The platform generates `eventId`; the clock is
read for the change and for the log. -/
structure PlatformRequest where
  mutation : PlatformMutation
  actor : String
  eventId : String
  now : Int
  auditedAt : Int
deriving DecidableEq, Repr

/-! ## What the routes admit -/

def IsReason (reason : String) : Prop := trim reason ≠ "" ∧ utf16Length (trim reason) ≤ 256

instance (reason : String) : Decidable (IsReason reason) := inferInstanceAs (Decidable (_ ∧ _))

/-- `isWorkerCapacity(value, true)`. -/
def IsCapacityPatch (capacity : CapacityPatch) : Prop :=
  (∃ field ∈ [capacity.memoryBytes, capacity.cpuMillis, capacity.diskBytes, capacity.workspaceSlots],
      field ≠ none) ∧
    ∀ field ∈ [capacity.memoryBytes, capacity.cpuMillis, capacity.diskBytes, capacity.workspaceSlots],
      ∀ value ∈ field, 0 < value ∧ value ≤ maxSafeInteger

instance (capacity : CapacityPatch) : Decidable (IsCapacityPatch capacity) :=
  inferInstanceAs (Decidable (_ ∧ _))

/-- `isUpdateWorkerHostRequest`, for a body with an action. -/
def IsLifecycleRequest (update : UpdateWorkerHostRequest) : Prop :=
  (∀ field ∈ [update.name, update.provider, update.region, update.baseURL, update.credentialKeyId],
      ∀ value ∈ field, trim value ≠ "") ∧
    (∀ capacity ∈ update.capacity, IsCapacityPatch capacity) ∧
    update.action ≠ none ∧ ∃ reason ∈ update.reason, IsReason reason

instance (update : UpdateWorkerHostRequest) : Decidable (IsLifecycleRequest update) :=
  inferInstanceAs (Decidable (_ ∧ _))

def PlatformMutation.Admitted : PlatformMutation → Prop
  | .control _ _ reason => IsReason reason
  | .worker _ update => IsLifecycleRequest update
  | .revocation organizationId reason => trim organizationId ≠ "" ∧ IsReason reason

instance : (mutation : PlatformMutation) → Decidable mutation.Admitted
  | .control _ _ reason => inferInstanceAs (Decidable (IsReason reason))
  | .worker _ update => inferInstanceAs (Decidable (IsLifecycleRequest update))
  | .revocation _ _ => inferInstanceAs (Decidable (_ ∧ _))

/-- The actor is the trimmed header; the platform supplies clock readings and an
identifier that no event has. -/
structure PlatformRequest.Admitted (request : PlatformRequest) (tables : Tables) : Prop where
  mutation : request.mutation.Admitted
  actor : trim request.actor = request.actor ∧ IsActor request.actor
  now : IsNonNegativeSafeInteger request.now
  auditedAt : IsNonNegativeSafeInteger request.auditedAt
  fresh : ∀ event ∈ tables.platformOperationAuditEvents, event.eventId ≠ request.eventId

/-! ## Handlers -/

def stateText : WorkerHostState → String
  | .unknown => "unknown"
  | .healthy => "healthy"
  | .draining => "draining"
  | .unavailable => "unavailable"

def workerEvent (request : PlatformRequest) (workerHostId : String) (action : RequestedAction)
    (reason : Option String) (worker : WorkerHostRow) : RecordPlatformOperationInput where
  actor := request.actor
  action := "worker." ++ action.named.text
  targetType := "worker_host"
  targetId := workerHostId
  metadata :=
    [("enabled", .boolean worker.enabled), ("reason", reason.elim .null .string),
      ("schedulable", .boolean worker.schedulable), ("state", .string (stateText worker.state))]
  eventId := request.eventId
  now := request.auditedAt

def revocationMetadata (reason : String) (publications : List PublishedServiceRow) :
    List (String × AuditMetadataValue) :=
  [("reason", .string reason), ("revokedServices", .count publications.length),
    ("tcpServices", .count (publications.countP fun publication => publication.protocol = .tcp))]

def revocationEvent (request : PlatformRequest) (organizationId reason : String)
    (publications : List PublishedServiceRow) : RecordPlatformOperationInput where
  actor := request.actor
  action := "organization.publications_revoked"
  targetType := "organization"
  targetId := organizationId
  metadata := revocationMetadata reason publications
  eventId := request.eventId
  now := request.auditedAt

def controlInput (request : PlatformRequest) (name : PlatformControlName) (paused : Bool)
    (reason : String) : SetPlatformControlInput where
  name := name
  paused := paused
  reason := reason
  actor := request.actor
  eventId := request.eventId
  now := request.now

/-- The log is written after the change has been committed. -/
def audit (database : CloudDatabase) (input : RecordPlatformOperationInput) :
    CloudDatabase × Except Failure Unit :=
  match recordPlatformOperationAuditEvent database input with
  | .ok after => (after, .ok ())
  | .error failure => (database, .error failure)

/-- Closing the TCP listeners of revoked services writes nothing and cannot fail. -/
def handle (urlProtocol : String → Option String) (database : CloudDatabase)
    (request : PlatformRequest) : CloudDatabase × Except Failure Unit :=
  match request.mutation with
  | .control name paused reason =>
      match commit database (setPlatformControl database (controlInput request name paused reason)) with
      | (after, .ok _) => (after, .ok ())
      | (after, .error failure) => (after, .error failure)
  | .worker workerHostId update =>
      match commit database
        (WorkerAdministration.update urlProtocol database workerHostId update request.now) with
      | (after, .error failure) => (after, .error failure)
      | (after, .ok none) => (after, .ok ())
      | (after, .ok (some worker)) =>
          match update.action with
          | none => (after, .ok ())
          | some action => audit after (workerEvent request workerHostId action update.reason worker)
  | .revocation organizationId reason =>
      match commit database
        (revokeOrganizationPublishedServices database ⟨organizationId, request.now⟩) with
      | (after, .error failure) => (after, .error failure)
      | (after, .ok publications) =>
          audit after (revocationEvent request organizationId reason publications)

/-! ## Atomicity -/

/-- The rows that platform mutations change. -/
def managed (tables : Tables) :
    List WorkerHostRow × List PlatformControlRow × List PublishedServiceRow :=
  (tables.workerHosts, tables.platformControls, tables.publishedServices)

def auditLog (tables : Tables) :
    List PlatformControlAuditEventRow × List PlatformOperationAuditEventRow :=
  (tables.platformControlAuditEvents, tables.platformOperationAuditEvents)

/-- One event of this identifier joined one of the logs. -/
def Logged (eventId : String) (before after : Tables) : Prop :=
  (∃ event : PlatformControlAuditEventRow, event.eventId = eventId ∧
      auditLog after =
        (before.platformControlAuditEvents ++ [event], before.platformOperationAuditEvents)) ∨
    ∃ event : PlatformOperationAuditEventRow, event.eventId = eventId ∧
      auditLog after =
        (before.platformControlAuditEvents, before.platformOperationAuditEvents ++ [event])

def lifecycle (workerHostId : String) (now : Int) (action : WorkerHostLifecycleAction)
    (tables : Tables) : Tables :=
  { tables with
    workerHosts := updateWhere (fun host => host.id = workerHostId)
      (fun host => host.rescheduled (WorkerAdministration.scheduling workerHostId now action))
      tables.workerHosts }

/-- The change that a request asks for, if there is something to change and the
patch that comes with it is accepted. -/
def Asks (urlProtocol : String → Option String) (database : CloudDatabase)
    (request : PlatformRequest) (wanted : Tables) : Prop :=
  match request.mutation with
  | .control name paused reason =>
      wanted = updateControl (controlInput request name paused reason) database.tables
  | .worker workerHostId update =>
      ∃ current ∈ getWorkerHost database workerHostId, ∃ action ∈ update.action, ∃ patched,
        WorkerAdministration.patch urlProtocol database current update request.now = .ok patched ∧
          wanted = lifecycle workerHostId request.now action.named patched.1.tables
  | .revocation organizationId _ =>
      wanted = revokeServicesIn (trim organizationId) request.now database.tables

/-- Either nothing is committed, or the request succeeds and the change is committed
together with its event. -/
def Atomic (urlProtocol : String → Option String) (database : CloudDatabase)
    (request : PlatformRequest) : Prop :=
  let outcome := handle urlProtocol database request
  (managed outcome.1.tables = managed database.tables ∧
      auditLog outcome.1.tables = auditLog database.tables) ∨
    (outcome.2 = .ok () ∧ Logged request.eventId database.tables outcome.1.tables ∧
      ∃ wanted, Asks urlProtocol database request wanted ∧
        managed outcome.1.tables = managed wanted)

/-! ## When it holds -/

/-- The audit writer takes the target and the reason, which it does not trim. -/
def TakesWorker (workerHostId : String) (update : UpdateWorkerHostRequest) : Prop :=
  isAuditIdentifier (trim workerHostId) = true ∧ ∀ reason ∈ update.reason, utf16Length reason ≤ 256

instance (workerHostId : String) (update : UpdateWorkerHostRequest) :
    Decidable (TakesWorker workerHostId update) :=
  inferInstanceAs (Decidable (_ ∧ _))

def TakesRevocation (organizationId reason : String) (publications : List PublishedServiceRow) : Prop :=
  isAuditIdentifier (trim organizationId) = true ∧ utf16Length reason ≤ 256 ∧
    utf8Length (metadataJson (revocationMetadata reason publications)) ≤ 4096

instance (organizationId reason : String) (publications : List PublishedServiceRow) :
    Decidable (TakesRevocation organizationId reason publications) :=
  inferInstanceAs (Decidable (_ ∧ _))

/-- The hosts that an action leaves: only a plain action changes them. -/
def actedHosts (workerHostId : String) (now : Int) (tables : Tables) : RequestedAction → List WorkerHostRow
  | .plain action => (lifecycle workerHostId now action tables).workerHosts
  | .listed _ => tables.workerHosts

def HoldsWhen (urlProtocol : String → Option String) (database : CloudDatabase)
    (request : PlatformRequest) : Prop :=
  match request.mutation with
  | .control _ _ _ => True
  | .worker workerHostId update =>
      ∀ current ∈ getWorkerHost database workerHostId, ∀ action ∈ update.action, ∀ patched,
        WorkerAdministration.patch urlProtocol database current update request.now = .ok patched →
          actedHosts workerHostId request.now patched.1.tables action =
            if TakesWorker workerHostId update then
              (lifecycle workerHostId request.now action.named patched.1.tables).workerHosts
            else database.tables.workerHosts
  | .revocation organizationId reason =>
      128 < utf16Length (trim organizationId) ∨
        activePublications database.tables (trim organizationId) = [] ∨
        TakesRevocation organizationId reason
          (activePublications database.tables (trim organizationId))

section Proofs

variable {urlProtocol : String → Option String} {database changed : CloudDatabase}
  {request : PlatformRequest} {input : RecordPlatformOperationInput}

/-! ## The audit writer on the events of the handlers -/

theorem utf16Length_stateText (state : WorkerHostState) : utf16Length (stateText state) ≤ 11 := by
  cases state <;> decide

/-- Four fields with one short text stay far below the limit. -/
theorem workerMetadata_small {workerHostId : String} {action : RequestedAction}
    {reason : Option String} {worker : WorkerHostRow}
    (short : (reason.elim AuditMetadataValue.null .string).Short) :
    utf8Length (metadataJson (workerEvent request workerHostId action reason worker).metadata) ≤
      4096 := by
  have flagSize (flag : Bool) : utf8Length (AuditMetadataValue.boolean flag).json ≤ 5 := by
    cases flag <;> decide
  have textSize {text : String} {maximum : Nat} (bounded : utf16Length text ≤ maximum) :
      utf8Length (AuditMetadataValue.string text).json ≤ 6 * maximum + 2 := by
    have size := utf8Length_jsonText_le text
    simp only [AuditMetadataValue.json]
    omega
  have reasonSize : utf8Length (reason.elim AuditMetadataValue.null .string).json ≤ 6 * 256 + 2 := by
    cases reason with
    | none => decide
    | some reason => exact textSize short
  have enabledSize := flagSize worker.enabled
  have schedulableSize := flagSize worker.schedulable
  have stateSize := textSize (utf16Length_stateText worker.state)
  have keys : utf8Length (jsonText "enabled") = 9 ∧ utf8Length (jsonText "reason") = 8 ∧
      utf8Length (jsonText "schedulable") = 13 ∧ utf8Length (jsonText "state") = 7 := by
    decide
  have total := utf8Length_metadataJson_le
    (workerEvent request workerHostId action reason worker).metadata
  simp only [workerEvent, List.map_cons, List.map_nil, List.sum_cons, List.sum_nil, keys] at total ⊢
  omega

theorem auditable_worker_iff {workerHostId : String} {action : RequestedAction}
    {update : UpdateWorkerHostRequest} {worker : WorkerHostRow}
    (admitted : request.Admitted database.tables) :
    Auditable (workerEvent request workerHostId action update.reason worker) ↔
      TakesWorker workerHostId update := by
  constructor
  · intro auditable
    obtain ⟨text, serialized⟩ := auditable.metadata
    obtain ⟨_, _, short, _⟩ := serializeAuditMetadata_ok.mp serialized
    refine ⟨auditable.targetId, fun reason given => ?_⟩
    have entry := short ("reason", update.reason.elim .null .string) (by simp [workerEvent])
    rw [Option.mem_def.mp given] at entry
    exact entry
  · rintro ⟨target, short⟩
    have named : isAuditIdentifier (trim ("worker." ++ action.named.text)) = true := by
      cases action.named <;> decide
    have host : isAuditIdentifier (trim "worker_host") = true := by decide
    have keys : isAuditIdentifier "enabled" = true ∧ isAuditIdentifier "reason" = true ∧
        isAuditIdentifier "schedulable" = true ∧ isAuditIdentifier "state" = true := by decide
    have shortReason : (update.reason.elim AuditMetadataValue.null .string).Short := by
      cases given : update.reason with
      | none => trivial
      | some reason => exact short reason given
    refine ⟨?_, named, host, target, ?_, admitted.auditedAt⟩
    · rw [workerEvent, admitted.actor.1]
      exact admitted.actor.2
    · refine ⟨_, serializeAuditMetadata_ok.mpr ⟨?_, ?_, ?_, workerMetadata_small shortReason, rfl⟩⟩
      · simp [workerEvent]
      · simp [workerEvent, keys]
      · have shortState : (AuditMetadataValue.string (stateText worker.state)).Short :=
          (utf16Length_stateText worker.state).trans (by decide)
        simpa [workerEvent, shortReason, shortState] using ⟨trivial, trivial⟩

theorem auditable_revocation_iff {organizationId reason : String}
    {publications : List PublishedServiceRow} (admitted : request.Admitted database.tables) :
    Auditable (revocationEvent request organizationId reason publications) ↔
      TakesRevocation organizationId reason publications := by
  constructor
  · intro auditable
    obtain ⟨text, serialized⟩ := auditable.metadata
    obtain ⟨_, _, short, small, _⟩ := serializeAuditMetadata_ok.mp serialized
    exact ⟨auditable.targetId, short ("reason", .string reason) (List.mem_cons_self ..), small⟩
  · rintro ⟨target, short, small⟩
    have named : isAuditIdentifier (trim "organization.publications_revoked") = true ∧
        isAuditIdentifier (trim "organization") = true := by decide
    have keys : isAuditIdentifier "reason" = true ∧ isAuditIdentifier "revokedServices" = true ∧
        isAuditIdentifier "tcpServices" = true := by decide
    refine ⟨?_, named.1, named.2, target, ?_, admitted.auditedAt⟩
    · rw [revocationEvent, admitted.actor.1]
      exact admitted.actor.2
    · refine ⟨_, serializeAuditMetadata_ok.mpr ⟨?_, ?_, ?_, small, rfl⟩⟩
      · simp [revocationEvent, revocationMetadata]
      · simp [revocationEvent, revocationMetadata, keys]
      · have shortReason : (AuditMetadataValue.string reason).Short := short
        simpa [revocationEvent, revocationMetadata, shortReason] using ⟨trivial, trivial⟩

/-! ## Two transactions -/

theorem audit_of_auditable (auditable : Auditable input)
    (fresh : ∀ event ∈ changed.tables.platformOperationAuditEvents, event.eventId ≠ input.eventId) :
    ∃ after event, audit changed input = (after, .ok ()) ∧ event.eventId = input.eventId ∧
      after.tables = { changed.tables with
        platformOperationAuditEvents := changed.tables.platformOperationAuditEvents ++ [event] } := by
  obtain ⟨after, event, sameId, recorded, written⟩ :=
    recordPlatformOperationAuditEvent_of_auditable auditable fresh
  exact ⟨after, event, by rw [audit, recorded], sameId, written⟩

theorem audit_of_not_auditable (refused : ¬ Auditable input) :
    ∃ failure, audit changed input = (changed, .error failure) := by
  cases recorded : recordPlatformOperationAuditEvent changed input with
  | ok after => exact absurd (auditable_of_recorded recorded) refused
  | error failure => exact ⟨failure, by rw [audit, recorded]⟩

/-- A change that is committed before its event is atomic with it when the event is
taken and the change is the one asked for, or when neither is there. -/
theorem atomic_audited_iff (handled : handle urlProtocol database request = audit changed input)
    (sameLog : auditLog changed.tables = auditLog database.tables)
    (sameId : input.eventId = request.eventId) (admitted : request.Admitted database.tables) :
    Atomic urlProtocol database request ↔
      (Auditable input → ∃ wanted, Asks urlProtocol database request wanted ∧
        managed changed.tables = managed wanted) ∧
      (¬ Auditable input → managed changed.tables = managed database.tables) := by
  obtain ⟨sameControls, sameOperations⟩ := Prod.mk.inj sameLog
  by_cases auditable : Auditable input
  · have fresh : ∀ event ∈ changed.tables.platformOperationAuditEvents,
        event.eventId ≠ input.eventId := by
      rw [sameOperations, sameId]
      exact admitted.fresh
    obtain ⟨after, event, audited, eventId, written⟩ := audit_of_auditable auditable fresh
    have grown : auditLog after.tables =
        (database.tables.platformControlAuditEvents,
          database.tables.platformOperationAuditEvents ++ [event]) := by
      rw [written, ← sameControls, ← sameOperations]
      rfl
    have rows : managed after.tables = managed changed.tables := by
      rw [written]
      rfl
    have logged : Logged request.eventId database.tables after.tables :=
      .inr ⟨event, eventId.trans sameId, grown⟩
    simp only [Atomic, handled, audited, rows, logged, grown, auditable, true_and, not_true,
      false_imp_iff, and_true, true_imp_iff]
    refine or_iff_right fun unlogged => ?_
    simp [auditLog] at unlogged
  · obtain ⟨failure, refused⟩ := @audit_of_not_auditable changed input auditable
    simp [Atomic, handled, refused, sameLog, auditable]

/-! ## The three mutations -/

theorem atomic_control {name : PlatformControlName} {paused : Bool} {reason : String}
    (control : request.mutation = .control name paused reason) :
    Atomic urlProtocol database request := by
  cases updated : setPlatformControl database (controlInput request name paused reason) with
  | error failure =>
      have handled : handle urlProtocol database request = (database, .error failure) := by
        simp only [handle, control, updated, commit_error]
      refine .inl ?_
      rw [handled]
      exact ⟨rfl, rfl⟩
  | ok result =>
      obtain ⟨after, stored⟩ := result
      obtain ⟨previous, _, written⟩ := setPlatformControl_ok updated
      have handled : handle urlProtocol database request = (after, .ok ()) := by
        simp only [handle, control, updated, commit_ok]
      have log : auditLog after.tables =
          (database.tables.platformControlAuditEvents ++
              [controlAuditEvent (controlInput request name paused reason) previous],
            database.tables.platformOperationAuditEvents) := by
        rw [written]
        rfl
      have rows : managed after.tables =
          managed (updateControl (controlInput request name paused reason) database.tables) := by
        rw [written]
        rfl
      refine .inr ?_
      rw [handled]
      refine ⟨rfl, .inl ⟨_, rfl, log⟩, _, ?_, rows⟩
      simp only [Asks, control]

/-- The action itself never fails once the patch is through. -/
theorem act_accepts {workerHostId : String} {action : RequestedAction} {host current : WorkerHostRow}
    {now : Int} (found : getWorkerHost database workerHostId = some host) :
    ∃ after worker, WorkerAdministration.act database current workerHostId (some action) now =
        .ok (after, worker) ∧
      after.tables = { database.tables with
        workerHosts := actedHosts workerHostId now database.tables action } := by
  cases action with
  | listed element => exact ⟨database, current, rfl, rfl⟩
  | plain action =>
      have named : getWorkerHost database
          (WorkerAdministration.scheduling workerHostId now action).workerHostId = some host := by
        rw [scheduling_workerHostId]
        exact found
      obtain ⟨after, worker, scheduled, written⟩ := setWorkerHostScheduling_accepts named
      rw [scheduling_workerHostId] at written
      exact ⟨after, worker, scheduled, written⟩

/-- A patch keeps every host. -/
theorem patched_found {workerHostId : String} {update : UpdateWorkerHostRequest} {now : Int}
    {current worker : WorkerHostRow} (found : getWorkerHost database workerHostId = some current)
    (patched : WorkerAdministration.patch urlProtocol database current update now =
      .ok (changed, worker)) :
    ∃ host, getWorkerHost changed workerHostId = some host := by
  obtain ⟨rfl, _⟩ | ⟨excluded, _, _, _, written⟩ := patch_ok patched
  · exact ⟨current, found⟩
  · have kept : workerHostId ∈ changed.tables.workerHosts.map (·.id) := by
      have old : workerHostId ∈ database.tables.workerHosts.map (·.id) :=
        List.mem_map.mpr ⟨current, lookup_mem found, lookup_key found⟩
      rw [written, upsertHost]
      dsimp only
      split
      · have same : (updateWhere (fun host => host.id = excluded.id)
            (fun host => host.registered excluded) database.tables.workerHosts).map (·.id) =
            database.tables.workerHosts.map (·.id) := map_updateWhere fun _ => rfl
        rwa [same]
      · rw [List.map_append]
        exact List.mem_append_left _ old
    obtain ⟨host, member, named⟩ := List.mem_map.mp kept
    have distinct : (changed.tables.workerHosts.map (·.id)).Nodup := changed.consistent .hostId
    exact ⟨host, (lookup_eq_some distinct).mpr ⟨member, named⟩⟩

theorem patched_rest {update : UpdateWorkerHostRequest} {now : Int} {current worker : WorkerHostRow}
    (patched : WorkerAdministration.patch urlProtocol database current update now =
      .ok (changed, worker)) :
    auditLog changed.tables = auditLog database.tables ∧
      changed.tables.platformControls = database.tables.platformControls ∧
      changed.tables.publishedServices = database.tables.publishedServices := by
  obtain ⟨rfl, _⟩ | ⟨excluded, _, _, _, written⟩ := patch_ok patched
  · exact ⟨rfl, rfl, rfl⟩
  · rw [written]
    exact ⟨rfl, rfl, rfl⟩

theorem atomic_worker_iff {workerHostId : String} {update : UpdateWorkerHostRequest}
    (worker : request.mutation = .worker workerHostId update)
    (admitted : request.Admitted database.tables) :
    Atomic urlProtocol database request ↔ HoldsWhen urlProtocol database request := by
  have request_ := admitted.mutation
  rw [worker] at request_
  obtain ⟨action, given⟩ := Option.ne_none_iff_exists'.mp request_.2.2.1
  have untouched (quiet : (handle urlProtocol database request).1 = database) :
      Atomic urlProtocol database request := by
    refine .inl ?_
    rw [quiet]
    exact ⟨rfl, rfl⟩
  cases found : getWorkerHost database workerHostId with
  | none =>
      refine iff_of_true (untouched ?_) ?_
      · simp only [handle, worker, WorkerAdministration.update, found, commit_ok]
      · simp only [HoldsWhen, worker, found]
        exact fun _ absent => absurd absent (by simp)
  | some current =>
      cases patched : WorkerAdministration.patch urlProtocol database current update request.now with
      | error failure =>
          refine iff_of_true (untouched ?_) ?_
          · simp only [handle, worker, WorkerAdministration.update, found, patched, bind, Except.bind,
              commit_error]
          · simp only [HoldsWhen, worker, found]
            intro other same _ _ result accepted
            cases same
            rw [patched] at accepted
            contradiction
      | ok result =>
          obtain ⟨between, row⟩ := result
          obtain ⟨host, stillFound⟩ := patched_found found patched
          obtain ⟨changed, acted, accepted, written⟩ :=
            @act_accepts between workerHostId action host row request.now stillFound
          obtain ⟨sameLog, sameControls, sameServices⟩ := patched_rest patched
          have handled : handle urlProtocol database request =
              audit changed (workerEvent request workerHostId action update.reason acted) := by
            simp only [handle, worker, WorkerAdministration.update, found, patched, given, bind,
              Except.bind, accepted, commit_ok]
          have log : auditLog changed.tables = auditLog database.tables := by
            rw [written]
            exact sameLog
          have rows : managed changed.tables =
              (actedHosts workerHostId request.now between.tables action,
                database.tables.platformControls, database.tables.publishedServices) := by
            rw [written, ← sameControls, ← sameServices]
            rfl
          have asks (wanted : Tables) : Asks urlProtocol database request wanted ↔
              wanted = lifecycle workerHostId request.now action.named between.tables := by
            simp [Asks, worker, found, given, patched]
          have holds : HoldsWhen urlProtocol database request ↔
              actedHosts workerHostId request.now between.tables action =
                if TakesWorker workerHostId update then
                  (lifecycle workerHostId request.now action.named between.tables).workerHosts
                else database.tables.workerHosts := by
            simp [HoldsWhen, worker, found, given, patched]
          rw [atomic_audited_iff handled log rfl admitted, auditable_worker_iff admitted, holds, rows]
          have wantedRows : managed (lifecycle workerHostId request.now action.named between.tables) =
              ((lifecycle workerHostId request.now action.named between.tables).workerHosts,
                database.tables.platformControls, database.tables.publishedServices) := by
            rw [← sameControls, ← sameServices]
            rfl
          simp only [asks, exists_eq_left, wantedRows]
          by_cases taken : TakesWorker workerHostId update
          · simp [taken]
          · simp [taken, managed]

theorem revocationMetadata_revoked {reason : String} {publications : List PublishedServiceRow}
    {timestamp : Int} :
    revocationMetadata reason (publications.map (·.revoked timestamp)) =
      revocationMetadata reason publications := by
  have tcp : ((publications.map (·.revoked timestamp)).countP fun publication =>
      publication.protocol = .tcp) =
      publications.countP fun publication => publication.protocol = .tcp := by
    rw [List.countP_map]
    rfl
  simp only [revocationMetadata, List.length_map, tcp]

/-- A revocation changes the rows exactly when there is an active one. -/
theorem revoked_same_iff {organizationId : String} {timestamp : Int} {tables : Tables} :
    managed (revokeServicesIn organizationId timestamp tables) = managed tables ↔
      activePublications tables organizationId = [] := by
  have rows : managed (revokeServicesIn organizationId timestamp tables) = managed tables ↔
      updateWhere (fun service => ActiveIn tables organizationId service) (·.revoked timestamp)
        tables.publishedServices = tables.publishedServices := by
    simp [managed, revokeServicesIn]
  have listed : activePublications tables organizationId = [] ↔
      ∀ service ∈ tables.publishedServices, ¬ ActiveIn tables organizationId service := by
    rw [activePublications, ← List.length_eq_zero_iff,
      (List.perm_insertionSort publicationOrder _).length_eq, List.length_eq_zero_iff,
      List.filter_eq_nil_iff]
    simp only [decide_eq_true_eq]
  rw [rows, listed]
  constructor
  · intro same service member active
    rw [← same] at member
    obtain ⟨before, _, changed⟩ := mem_updateWhere.mp member
    split at changed
    · have state := active.1
      rw [← changed] at state
      contradiction
    · rename_i inactive
      exact inactive (decide_eq_true (changed ▸ active))
  · intro inactive
    exact updateWhere_of_none fun service member => decide_eq_false (inactive service member)

theorem atomic_revocation_iff {organizationId reason : String}
    (revocation : request.mutation = .revocation organizationId reason)
    (admitted : request.Admitted database.tables) :
    Atomic urlProtocol database request ↔ HoldsWhen urlProtocol database request := by
  have named := admitted.mutation
  rw [revocation] at named
  have asks (wanted : Tables) : Asks urlProtocol database request wanted ↔
      wanted = revokeServicesIn (trim organizationId) request.now database.tables := by
    simp only [Asks, revocation]
  by_cases long : 128 < utf16Length (trim organizationId)
  · refine iff_of_true ?_ ?_
    · have refused : revokeOrganizationPublishedServices database ⟨organizationId, request.now⟩ =
          .error (.error "Organization id is invalid") := by
        simp [revokeOrganizationPublishedServices, publishedServiceText, long, bind, Except.bind]
      have handled : handle urlProtocol database request =
          (database, .error (.error "Organization id is invalid")) := by
        simp only [handle, revocation, refused, commit_error]
      refine .inl ?_
      rw [handled]
      exact ⟨rfl, rfl⟩
    · simp only [HoldsWhen, revocation]
      exact .inl long
  · obtain ⟨changed, accepted, written⟩ := @revokeOrganizationPublishedServices_accepts database
      ⟨organizationId, request.now⟩ ⟨named.1, Nat.not_lt.mp long⟩ admitted.now
    have handled : handle urlProtocol database request = audit changed
        (revocationEvent request organizationId reason
          ((activePublications database.tables (trim organizationId)).map
            (·.revoked request.now))) := by
      simp only [handle, revocation, accepted, commit_ok]
    have log : auditLog changed.tables = auditLog database.tables := by
      rw [written]
      rfl
    have holds : HoldsWhen urlProtocol database request ↔
        activePublications database.tables (trim organizationId) = [] ∨
          TakesRevocation organizationId reason
            (activePublications database.tables (trim organizationId)) := by
      simp [HoldsWhen, revocation, long]
    have takes : TakesRevocation organizationId reason
        ((activePublications database.tables (trim organizationId)).map (·.revoked request.now)) ↔
        TakesRevocation organizationId reason
          (activePublications database.tables (trim organizationId)) := by
      rw [TakesRevocation, TakesRevocation, revocationMetadata_revoked]
    rw [atomic_audited_iff handled log rfl admitted, auditable_revocation_iff admitted, takes, holds,
      written]
    have one : ∃ wanted, Asks urlProtocol database request wanted ∧
        managed (revokeServicesIn (trim organizationId) request.now database.tables) =
          managed wanted := ⟨_, (asks _).mpr rfl, rfl⟩
    rw [revoked_same_iff]
    constructor
    · rintro ⟨_, quiet⟩
      by_cases taken : TakesRevocation organizationId reason
          (activePublications database.tables (trim organizationId))
      · exact .inr taken
      · exact .inl (quiet taken)
    · rintro (quiet | taken)
      · exact ⟨fun _ => one, fun _ => quiet⟩
      · exact ⟨fun _ => one, fun refused => absurd taken refused⟩

end Proofs

section Sample

def hostNamed (id : String) : WorkerHostRow where
  id := id
  name := id
  provider := "static"
  region := "eu"
  baseURL := "https://" ++ id ++ ".test"
  credentialKeyId := "key"
  enabled := true
  schedulable := true
  state := .healthy
  total := ⟨4096, 4000, 8192, 2⟩
  reserved := Resources.zero
  lastHeartbeatAt := some 10
  lastErrorCode := none
  createdAt := 10
  updatedAt := 10

set_option maxRecDepth 4000 in
def twoHosts : CloudDatabase :=
  Store.load { Tables.empty with workerHosts := [hostNamed "host-1", hostNamed "host 1"] }
    (by decide)

def drainOf (workerHostId : String) : PlatformRequest where
  mutation := .worker workerHostId
    ⟨none, none, none, none, none, none, some (.plain .drain), some "maintenance"⟩
  actor := "operator"
  eventId := "event-1"
  now := 20
  auditedAt := 20

theorem drainOf_admitted (workerHostId : String) :
    (drainOf workerHostId).Admitted twoHosts.tables where
  mutation := by
    change IsLifecycleRequest _
    decide
  actor := by
    change trim "operator" = "operator" ∧ IsActor "operator"
    decide
  now := by
    change IsNonNegativeSafeInteger 20
    decide
  auditedAt := by
    change IsNonNegativeSafeInteger 20
    decide
  fresh := by
    intro event member
    contradiction

end Sample

end NebulaCloud.Audit
