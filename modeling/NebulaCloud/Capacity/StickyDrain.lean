import NebulaCloud.Capacity.Conservation
import NebulaCloud.Capacity.WorkerAdministration

namespace NebulaCloud.Capacity

open NebulaCloud.Data NebulaCloud.Database NebulaCloud.Platform

/-! # Draining and disabling

A host that an operator takes out of service is held: it is unschedulable or
still drains.  Held hosts get no workspaces. -/

inductive WorkerEvent
  | register (input : RegisterWorkerHostRequest) (now : Int)
  | update (workerHostId : String) (input : UpdateWorkerHostRequest) (now : Int)
  | restart (environment : WorkerEnvironment) (now : Int)
  | recordHealth (input : RecordWorkerHealthInput)
  | assign (options : AssignWorkspaceWorkerOptions)
  | ensure (options : EnsurePersonalWorkspaceOptions)
  | deleteWorkspace (workspaceId : String) (now : Int)
deriving DecidableEq, Repr

section System

variable {Load : Type} [LinearOrder Load] (urlProtocol : String → Option String)
  (quotient : Int → Int → Load)

/-- A run starts without hosts, with any other tables. -/
def administration : System CloudDatabase WorkerEvent where
  Initial database := database.tables.workerHosts = []
  Enabled _ _ := True
  step database
    | .register input now =>
        (commit database (WorkerAdministration.register urlProtocol database input now)).1
    | .update workerHostId input now =>
        (commit database (WorkerAdministration.update urlProtocol database workerHostId input now)).1
    | .restart environment now => restart urlProtocol database environment now
    | .recordHealth input => (commit database (recordWorkerHealth database input)).1
    | .assign options => (commit database (assignWorkspaceWorker quotient database options)).1
    | .ensure options => (commit database (ensurePersonalWorkspace database options)).1
    | .deleteWorkspace workspaceId now =>
        autocommit database (deleteWorkspace database workspaceId now)

end System

/-! ## Held hosts -/

/-- Every host is stored under a trimmed identifier. -/
def Trimmed (tables : Tables) : Prop := ∀ host ∈ tables.workerHosts, trim host.id = host.id

/-- An identifier that a host is registered under. -/
def IsHostId (id : String) : Prop := trim id = id ∧ id ≠ ""

def HostIds (tables : Tables) : Prop := ∀ host ∈ tables.workerHosts, IsHostId host.id

theorem HostIds.trimmed {tables : Tables} (named : HostIds tables) : Trimmed tables :=
  fun host member => (named host member).1

def IsHeld (host : WorkerHostRow) : Prop := host.schedulable = false ∨ host.state = .draining

instance (host : WorkerHostRow) : Decidable (IsHeld host) := inferInstanceAs (Decidable (_ ∨ _))

def Held (hostId : String) (tables : Tables) : Prop :=
  (∃ host ∈ tables.workerHosts, host.id = hostId) ∧
    ∀ host ∈ tables.workerHosts, host.id = hostId → IsHeld host

/-- The step assigns a workspace to the host that was not assigned to it. -/
def NewlyAssigned (hostId : String) (before after : Tables) : Prop :=
  ∃ workspace ∈ after.workspaces, workspace.workerHostId = some hostId ∧
    ∀ old ∈ before.workspaces, old.id = workspace.id → old.workerHostId ≠ some hostId

instance (hostId : String) (before after : Tables) : Decidable (NewlyAssigned hostId before after) :=
  inferInstanceAs (Decidable (∃ _ ∈ _, _))

section Service

variable (urlProtocol : String → Option String) (hostId : String) (database : CloudDatabase)

/-- The event puts the host back into service: an accepted resume, or an accepted
registration that asks for it. -/
def PutsBack : WorkerEvent → Prop
  | .register input now =>
      (trim input.id = hostId ∧ input.schedulable = some true) ∧
        ∃ result, WorkerAdministration.register urlProtocol database input now = .ok result
  | .update workerHostId input now =>
      (workerHostId = hostId ∧ input.action = some (.plain .resume)) ∧
        ∃ result,
          WorkerAdministration.update urlProtocol database workerHostId input now = .ok result
  | _ => False

instance : (event : WorkerEvent) → Decidable (PutsBack urlProtocol hostId database event)
  | .register _ _ | .update _ _ _ => inferInstanceAs (Decidable (_ ∧ _))
  | .restart _ _ | .recordHealth _ | .assign _ | .ensure _ | .deleteWorkspace _ _ =>
      .isFalse not_false

/-- If the event is a restart that registers the host again, it finds it draining. -/
def FindsDraining : WorkerEvent → Prop
  | .restart environment now =>
      ∀ input ∈ environment.registration now, trim input.id = hostId →
        (∃ result, upsertWorkerHost urlProtocol database input = .ok result) →
          ∀ host ∈ database.tables.workerHosts, host.id = hostId → host.state = .draining
  | _ => True

instance : (event : WorkerEvent) → Decidable (FindsDraining urlProtocol hostId database event)
  | .restart _ _ => inferInstanceAs (Decidable (∀ _ ∈ _, _))
  | .register _ _ | .update _ _ _ | .recordHealth _ | .assign _ | .ensure _ | .deleteWorkspace _ _ =>
      .isTrue trivial

end Service

section Preservation

variable {hostId : String} {tables after : Tables}

theorem held_map {change : WorkerHostRow → WorkerHostRow} (held : Held hostId tables)
    (hosts : after.workerHosts = tables.workerHosts.map change)
    (sameId : ∀ host, (change host).id = host.id)
    (kept : ∀ host ∈ tables.workerHosts, host.id = hostId → IsHeld host → IsHeld (change host)) :
    Held hostId after := by
  obtain ⟨⟨known, member, named⟩, each⟩ := held
  rw [Held, hosts]
  refine ⟨⟨change known, List.mem_map_of_mem member, (sameId known).trans named⟩, ?_⟩
  intro host changed sameHost
  obtain ⟨before, beforeMember, rfl⟩ := List.mem_map.mp changed
  rw [sameId] at sameHost
  exact kept before beforeMember sameHost (each before beforeMember sameHost)

theorem held_updateHosts {selected : WorkerHostRow → Bool} {change : WorkerHostRow → WorkerHostRow}
    (held : Held hostId tables)
    (hosts : after.workerHosts = updateWhere selected change tables.workerHosts)
    (sameId : ∀ host, (change host).id = host.id)
    (kept : ∀ host ∈ tables.workerHosts, host.id = hostId → selected host = true → IsHeld host →
      IsHeld (change host)) : Held hostId after := by
  refine held_map held hosts ?_ ?_
  · intro host
    split
    · exact sameId host
    · rfl
  · intro host member sameHost wasHeld
    split
    · rename_i chosen
      exact kept host member sameHost chosen wasHeld
    · exact wasHeld

/-- A registration that meets a held host leaves it held if it is unschedulable or
the host drains. -/
theorem held_upsertHost {excluded : WorkerHostRow} (held : Held hostId tables)
    (kept : excluded.id = hostId → ∀ host ∈ tables.workerHosts, host.id = hostId →
      excluded.schedulable = false ∨ host.state = .draining) :
    Held hostId (upsertHost excluded tables) := by
  by_cases known : excluded.id ∈ tables.workerHosts.map (·.id)
  · refine held_updateHosts held (if_pos known) (fun _ => rfl) ?_
    intro host member sameHost chosen _
    exact kept ((of_decide_eq_true chosen).symm.trans sameHost) host member sameHost
  · have hosts : (upsertHost excluded tables).workerHosts = tables.workerHosts ++ [excluded] :=
      if_neg known
    obtain ⟨⟨old, member, named⟩, each⟩ := held
    rw [Held, hosts]
    refine ⟨⟨old, List.mem_append_left _ member, named⟩, ?_⟩
    intro host hostMember sameHost
    rcases List.mem_append.mp hostMember with stored | new
    · exact each host stored sameHost
    · refine absurd (List.mem_map.mpr ⟨old, member, ?_⟩) known
      rw [named, ← sameHost, List.mem_singleton.mp new]

theorem hostIds_map {change : WorkerHostRow → WorkerHostRow} (named : HostIds tables)
    (hosts : after.workerHosts = tables.workerHosts.map change)
    (sameId : ∀ host, (change host).id = host.id) : HostIds after := by
  intro host changed
  rw [hosts] at changed
  obtain ⟨before, member, rfl⟩ := List.mem_map.mp changed
  rw [sameId]
  exact named before member

theorem hostIds_updateHosts {selected : WorkerHostRow → Bool}
    {change : WorkerHostRow → WorkerHostRow} (named : HostIds tables)
    (hosts : after.workerHosts = updateWhere selected change tables.workerHosts)
    (sameId : ∀ host, (change host).id = host.id) : HostIds after := by
  refine hostIds_map named hosts fun host => ?_
  split
  · exact sameId host
  · rfl

theorem hostIds_upsertHost {excluded : WorkerHostRow} (named : HostIds tables)
    (new : IsHostId excluded.id) : HostIds (upsertHost excluded tables) := by
  by_cases known : excluded.id ∈ tables.workerHosts.map (·.id)
  · exact hostIds_updateHosts named (if_pos known) (fun _ => rfl)
  · have hosts : (upsertHost excluded tables).workerHosts = tables.workerHosts ++ [excluded] :=
      if_neg known
    intro host member
    rw [hosts] at member
    rcases List.mem_append.mp member with stored | added
    · exact named host stored
    · rw [List.mem_singleton.mp added]
      exact new

theorem not_newlyAssigned
    (each : ∀ workspace ∈ after.workspaces,
      workspace ∈ tables.workspaces ∨ workspace.workerHostId ≠ some hostId) :
    ¬ NewlyAssigned hostId tables after := by
  rintro ⟨workspace, member, assigned, fresh⟩
  rcases each workspace member with old | other
  · exact fresh workspace old rfl assigned
  · exact other assigned

theorem not_newlyAssigned_of_same (same : after.workspaces = tables.workspaces) :
    ¬ NewlyAssigned hostId tables after :=
  not_newlyAssigned fun _ member => .inl (same ▸ member)

end Preservation

section Steps

variable {urlProtocol : String → Option String} {hostId workerHostId : String}
  {database after : CloudDatabase} {now : Int}

theorem getWorkerHost_mem {host : WorkerHostRow}
    (found : getWorkerHost database workerHostId = some host) :
    host ∈ database.tables.workerHosts ∧ host.id = workerHostId :=
  ⟨lookup_mem found, lookup_key found⟩

theorem eq_of_hostId {left right : WorkerHostRow} (leftMember : left ∈ database.tables.workerHosts)
    (rightMember : right ∈ database.tables.workerHosts) (same : left.id = right.id) : left = right := by
  have distinct : (database.tables.workerHosts.map (·.id)).Nodup := database.consistent .hostId
  exact eq_of_key distinct leftMember rightMember same

theorem foldl_released_flags {deleted : List WorkspaceRow} {host : WorkerHostRow} :
    (deleted.foldl (WorkerHostRow.released now) host).schedulable = host.schedulable ∧
      (deleted.foldl (WorkerHostRow.released now) host).state = host.state := by
  induction deleted generalizing host with
  | nil => exact ⟨rfl, rfl⟩
  | cons first rest ih =>
      have flags : (host.released now first).schedulable = host.schedulable ∧
          (host.released now first).state = host.state := by
        unfold WorkerHostRow.released
        split <;> exact ⟨rfl, rfl⟩
      rw [List.foldl_cons, ih.1, ih.2]
      exact flags

/-! A patch writes the flags back as it found them. -/

theorem held_patched {current worker : WorkerHostRow} {input : UpdateWorkerHostRequest}
    (trimmed : Trimmed database.tables) (held : Held hostId database.tables)
    (member : current ∈ database.tables.workerHosts)
    (patched : WorkerAdministration.patch urlProtocol database current input now =
      .ok (after, worker)) : Held hostId after.tables := by
  obtain ⟨rfl, _⟩ | ⟨excluded, sameId, _, sameFlag, written⟩ := patch_ok patched
  · exact held
  · rw [written]
    refine held_upsertHost held fun named host hostMember hostNamed => ?_
    rw [trimmed current member] at sameId
    have same : host = current :=
      eq_of_hostId hostMember member (hostNamed.trans (named.symm.trans sameId))
    rw [sameFlag, ← same]
    exact held.2 host hostMember hostNamed

theorem hostIds_patched {current worker : WorkerHostRow} {input : UpdateWorkerHostRequest}
    (named : HostIds database.tables) (member : current ∈ database.tables.workerHosts)
    (patched : WorkerAdministration.patch urlProtocol database current input now =
      .ok (after, worker)) : HostIds after.tables := by
  obtain ⟨rfl, _⟩ | ⟨excluded, sameId, _, _, written⟩ := patch_ok patched
  · exact named
  · rw [written]
    refine hostIds_upsertHost named ?_
    rw [sameId, (named current member).1]
    exact named current member

theorem patched_workspaces {current worker : WorkerHostRow} {input : UpdateWorkerHostRequest}
    (patched : WorkerAdministration.patch urlProtocol database current input now =
      .ok (after, worker)) : after.tables.workspaces = database.tables.workspaces := by
  obtain ⟨rfl, _⟩ | ⟨excluded, _, _, _, written⟩ := patch_ok patched
  · rfl
  · rw [written]
    rfl

/-! Every action but `resume` leaves its host unschedulable. -/

theorem scheduling_unschedulable {action : WorkerHostLifecycleAction} (host : WorkerHostRow)
    (other : action ≠ .resume) :
    (host.rescheduled (WorkerAdministration.scheduling workerHostId now action)).schedulable =
      false := by
  cases action with
  | resume => contradiction
  | enable | disable | drain => rfl

theorem held_acted {current worker : WorkerHostRow} {action : Option RequestedAction}
    (held : Held hostId database.tables)
    (notResumed : ¬ (workerHostId = hostId ∧ action = some (.plain .resume)))
    (acted : WorkerAdministration.act database current workerHostId action now =
      .ok (after, worker)) : Held hostId after.tables := by
  obtain ⟨named, rfl, written⟩ | ⟨_, rfl, _⟩ := act_ok acted
  · rw [written]
    refine held_updateHosts held rfl (fun _ => rfl) ?_
    intro host _ sameHost chosen _
    refine .inl (scheduling_unschedulable host fun resumed => notResumed ⟨?_, by rw [resumed]⟩)
    exact (of_decide_eq_true chosen).symm.trans sameHost
  · exact held

theorem hostIds_acted {current worker : WorkerHostRow} {action : Option RequestedAction}
    (named : HostIds database.tables)
    (acted : WorkerAdministration.act database current workerHostId action now =
      .ok (after, worker)) : HostIds after.tables := by
  obtain ⟨action, rfl, written⟩ | ⟨_, rfl, _⟩ := act_ok acted
  · rw [written]
    exact hostIds_updateHosts named rfl fun _ => rfl
  · exact named

theorem acted_workspaces {current worker : WorkerHostRow} {action : Option RequestedAction}
    (acted : WorkerAdministration.act database current workerHostId action now =
      .ok (after, worker)) : after.tables.workspaces = database.tables.workspaces := by
  obtain ⟨named, rfl, written⟩ | ⟨_, rfl, _⟩ := act_ok acted
  · rw [written]
  · rfl

/-! ## Taking a host out -/

/-- An accepted drain or disable of a known host holds it. -/
theorem held_of_takesOut {input : UpdateWorkerHostRequest} {worker : WorkerHostRow}
    (takesOut : input.action = some (.plain .drain) ∨ input.action = some (.plain .disable))
    (updated : WorkerAdministration.update urlProtocol database hostId input now =
      .ok (after, some worker)) : Held hostId after.tables := by
  obtain ⟨_, _, missing⟩ | ⟨current, patched, between, last, _, _, acted, _⟩ := update_ok updated
  · contradiction
  · obtain ⟨action, plain, other⟩ : ∃ action, input.action = some (.plain action) ∧
        action ≠ .resume := by
      rcases takesOut with drain | disable
      · exact ⟨.drain, drain, by simp⟩
      · exact ⟨.disable, disable, by simp⟩
    rw [plain] at acted
    obtain ⟨written, found⟩ := setWorkerHostScheduling_written acted
    rw [scheduling_workerHostId] at written found
    refine ⟨⟨last, getWorkerHost_mem found⟩, ?_⟩
    intro host member sameHost
    rw [written] at member
    obtain ⟨before, _, rfl⟩ := mem_updateWhere.mp member
    split
    · exact .inl (scheduling_unschedulable before other)
    · rename_i unselected
      rw [if_neg unselected] at sameHost
      exact absurd (decide_eq_true sameHost) unselected

end Steps

section Runs

variable {Load : Type} [LinearOrder Load] {urlProtocol : String → Option String}
  {quotient : Int → Int → Load} {hostId : String} {database : CloudDatabase}

theorem checkedHost_id {input : RegisterWorkerHostInput} {excluded : WorkerHostRow}
    (checked : checkedHost urlProtocol database input = .ok excluded) : IsHostId excluded.id := by
  obtain ⟨id, required, _⟩ := bind_ok.mp checked
  obtain ⟨_, _, _, _, _, _, rfl⟩ := checkedHost_ok checked
  refine ⟨trim_trim input.id, fun blank => ?_⟩
  have blank : trim input.id = "" := blank
  simp [requiredWorkerText, blank] at required

theorem hostIds_upserted {input : RegisterWorkerHostInput} {after : CloudDatabase}
    {host : WorkerHostRow} (named : HostIds database.tables)
    (upserted : upsertWorkerHost urlProtocol database input = .ok (after, host)) :
    HostIds after.tables := by
  obtain ⟨excluded, checked, written, _⟩ := upsertWorkerHost_written upserted
  rw [written]
  exact hostIds_upsertHost named (checkedHost_id checked)

theorem hostIds_step (event : WorkerEvent) (named : HostIds database.tables) :
    HostIds ((administration urlProtocol quotient).step database event).tables := by
  have committed {Value : Type} {body : Except Failure (CloudDatabase × Value)}
      (kept : ∀ after value, body = .ok (after, value) → HostIds after.tables) :
      HostIds (commit database body).1.tables :=
    commit_preserves (fun state : CloudDatabase => HostIds state.tables) named kept
  cases event with
  | register input now => exact committed fun _ _ => hostIds_upserted named
  | update workerHostId input now =>
      refine committed fun after updated accepted => ?_
      obtain ⟨_, rfl, _⟩ | ⟨_, _, _, _, found, patched, acted, _⟩ := update_ok accepted
      · exact named
      · exact hostIds_acted (hostIds_patched named (getWorkerHost_mem found).1 patched) acted
  | restart environment now =>
      simp only [administration, restart]
      split
      · exact named
      · exact committed fun _ _ => hostIds_upserted named
  | recordHealth input =>
      refine committed fun after host recorded => ?_
      obtain ⟨_, _, written⟩ := recordWorkerHealth_ok recorded
      rw [written]
      exact hostIds_updateHosts named rfl fun _ => rfl
  | assign options =>
      refine committed fun after assignment placed => ?_
      obtain rfl | ⟨_, _, _, _, _, _, _, written⟩ := assignWorkspaceWorker_candidate placed
      · exact named
      · rw [written]
        exact hostIds_updateHosts named rfl fun _ => rfl
  | ensure options =>
      refine committed fun after workspace ensured => ?_
      obtain ⟨rfl, _⟩ | ⟨_, _, written⟩ := ensurePersonalWorkspace_ok ensured
      · exact named
      · rw [written]
        exact named
  | deleteWorkspace workspaceId now =>
      simp only [administration]
      cases deleted : deleteWorkspace database workspaceId now with
      | error failure => exact named
      | ok after =>
          rw [autocommit, Store.execute_ok.mp deleted]
          exact hostIds_map named (releaseReservations_eq_map ..) fun _ => foldl_released_id now

theorem hostIds_reachable
    (reachable : (administration urlProtocol quotient).Reachable database) :
    HostIds database.tables := by
  refine reachable.invariant (fun state : CloudDatabase => HostIds state.tables) ?_ fun _ event _ =>
    hostIds_step event
  intro first start host member
  rw [start] at member
  contradiction

/-! ## Held hosts stay held and get no workspace -/

/-- What a step owes to a held host. -/
def LeavesAlone (hostId : String) (before after : CloudDatabase) : Prop :=
  ¬ NewlyAssigned hostId before.tables after.tables ∧ Held hostId after.tables

theorem leavesAlone_refl (held : Held hostId database.tables) :
    LeavesAlone hostId database database :=
  ⟨not_newlyAssigned_of_same rfl, held⟩

theorem leavesAlone_commit {Value : Type} {body : Except Failure (CloudDatabase × Value)}
    (held : Held hostId database.tables)
    (kept : ∀ after value, body = .ok (after, value) → LeavesAlone hostId database after) :
    LeavesAlone hostId database (commit database body).1 :=
  commit_preserves (LeavesAlone hostId database) (leavesAlone_refl held) kept

theorem leavesAlone_register {input : RegisterWorkerHostRequest} {now : Int} {after : CloudDatabase}
    {host : WorkerHostRow} (held : Held hostId database.tables)
    (notAsked : ¬ (trim input.id = hostId ∧ input.schedulable = some true))
    (registered : WorkerAdministration.register urlProtocol database input now =
      .ok (after, host)) : LeavesAlone hostId database after := by
  obtain ⟨excluded, checked, written, _⟩ := upsertWorkerHost_written registered
  obtain ⟨_, _, _, _, _, _, rfl⟩ := checkedHost_ok checked
  refine ⟨not_newlyAssigned_of_same (by rw [written]; rfl), ?_⟩
  rw [written]
  refine held_upsertHost held fun named _ _ _ => .inl ?_
  -- A registration without the flag is unschedulable.
  have unasked : input.schedulable.getD false = false := by
    cases asked : input.schedulable with
    | none => rfl
    | some flag =>
        cases flag with
        | false => rfl
        | true => exact absurd ⟨named, asked⟩ notAsked
  simp [registeredHost, WorkerAdministration.registration, unasked]

theorem leavesAlone_restart {environment : WorkerEnvironment} {now : Int}
    (held : Held hostId database.tables)
    (finds : FindsDraining urlProtocol hostId database (.restart environment now)) :
    LeavesAlone hostId database (restart urlProtocol database environment now) := by
  unfold restart
  split
  · exact leavesAlone_refl held
  · rename_i input configured
    refine leavesAlone_commit held fun after host upserted => ?_
    obtain ⟨excluded, checked, written, _⟩ := upsertWorkerHost_written upserted
    obtain ⟨_, _, _, _, _, _, rfl⟩ := checkedHost_ok checked
    refine ⟨not_newlyAssigned_of_same (by rw [written]; rfl), ?_⟩
    rw [written]
    exact held_upsertHost held fun named host member sameHost =>
      .inr (finds input configured named ⟨_, upserted⟩ host member sameHost)

theorem leavesAlone_update {workerHostId : String} {input : UpdateWorkerHostRequest} {now : Int}
    {after : CloudDatabase} {updated : Option WorkerHostRow} (trimmed : Trimmed database.tables)
    (held : Held hostId database.tables)
    (notResumed : ¬ (workerHostId = hostId ∧ input.action = some (.plain .resume)))
    (accepted : WorkerAdministration.update urlProtocol database workerHostId input now =
      .ok (after, updated)) : LeavesAlone hostId database after := by
  obtain ⟨_, rfl, _⟩ | ⟨current, _, between, _, found, patched, acted, _⟩ := update_ok accepted
  · exact leavesAlone_refl held
  · have member := (getWorkerHost_mem found).1
    refine ⟨not_newlyAssigned_of_same ?_, ?_⟩
    · rw [acted_workspaces acted, patched_workspaces patched]
    · exact held_acted (held_patched trimmed held member patched) notResumed acted

/-- Health is recorded over everything but `draining`. -/
theorem leavesAlone_health {input : RecordWorkerHealthInput} {after : CloudDatabase}
    {host : WorkerHostRow} (held : Held hostId database.tables)
    (recorded : recordWorkerHealth database input = .ok (after, host)) :
    LeavesAlone hostId database after := by
  obtain ⟨_, _, written⟩ := recordWorkerHealth_ok recorded
  refine ⟨not_newlyAssigned_of_same (by rw [written]), ?_⟩
  rw [written]
  refine held_updateHosts held rfl (fun _ => rfl) ?_
  intro host _ _ _ wasHeld
  rcases wasHeld with unschedulable | draining
  · exact .inl unschedulable
  · exact .inr (by simp [WorkerHostRow.observed, draining])

/-- A held host is no candidate. -/
theorem IsHeld.not_candidate {host : WorkerHostRow} {heartbeatAfter : Int} {required : Resources}
    (held : IsHeld host) : ¬ host.IsCandidate heartbeatAfter required := by
  rintro ⟨_, schedulable, healthy, _⟩
  rcases held with unschedulable | draining
  · simp [unschedulable] at schedulable
  · simp [draining] at healthy

theorem leavesAlone_assign {options : AssignWorkspaceWorkerOptions} {after : CloudDatabase}
    {assignment : WorkerPlacementAssignment} (held : Held hostId database.tables)
    (placed : assignWorkspaceWorker quotient database options = .ok (after, assignment)) :
    LeavesAlone hostId database after := by
  obtain rfl | ⟨workspace, _, candidate, candidateMember, required, _, eligible, written⟩ :=
    assignWorkspaceWorker_candidate placed
  · exact leavesAlone_refl held
  · have elsewhere : candidate.id ≠ hostId := fun chosen =>
      (held.2 candidate candidateMember chosen).not_candidate eligible
    refine ⟨not_newlyAssigned fun row member => ?_, ?_⟩
    · rw [written] at member
      obtain ⟨before, beforeMember, rfl⟩ := mem_updateWhere.mp member
      split
      · exact .inr (by simpa using elsewhere)
      · exact .inl beforeMember
    · rw [written]
      exact held_updateHosts held rfl (fun _ => rfl) fun _ _ _ _ wasHeld => wasHeld

theorem leavesAlone_ensure {options : EnsurePersonalWorkspaceOptions} {after : CloudDatabase}
    {workspace : WorkspaceRow} (held : Held hostId database.tables)
    (ensured : ensurePersonalWorkspace database options = .ok (after, workspace)) :
    LeavesAlone hostId database after := by
  obtain ⟨rfl, _⟩ | ⟨memberId, rfl, written⟩ := ensurePersonalWorkspace_ok ensured
  · exact leavesAlone_refl held
  · refine ⟨not_newlyAssigned fun row member => ?_, by rw [written]; exact held⟩
    rw [written] at member
    rcases List.mem_append.mp member with old | new
    · exact .inl old
    · rw [List.mem_singleton.mp new]
      exact .inr (by simp [personalWorkspace])

theorem leavesAlone_delete {doomed : WorkspaceRow → Bool} {now : Int} {after : CloudDatabase}
    (held : Held hostId database.tables)
    (deleted : after.tables = deleteWorkspaces doomed now database.tables) :
    LeavesAlone hostId database after := by
  refine ⟨not_newlyAssigned fun row member => ?_, ?_⟩
  · rw [deleted] at member
    exact .inl (List.mem_filter.mp member).1
  · rw [deleted]
    refine held_map held (releaseReservations_eq_map ..) (fun _ => foldl_released_id now) ?_
    intro host _ _ wasHeld
    rw [IsHeld, foldl_released_flags.1, foldl_released_flags.2]
    exact wasHeld

theorem leavesAlone_step (event : WorkerEvent) (trimmed : Trimmed database.tables)
    (held : Held hostId database.tables) (notPutBack : ¬ PutsBack urlProtocol hostId database event)
    (finds : FindsDraining urlProtocol hostId database event) :
    LeavesAlone hostId database ((administration urlProtocol quotient).step database event) := by
  cases event with
  | register input now =>
      exact leavesAlone_commit held fun after host registered =>
        leavesAlone_register held (fun asked => notPutBack ⟨asked, _, registered⟩) registered
  | update workerHostId input now =>
      exact leavesAlone_commit held fun after host accepted =>
        leavesAlone_update trimmed held (fun resumed => notPutBack ⟨resumed, _, accepted⟩) accepted
  | restart environment now => exact leavesAlone_restart held finds
  | recordHealth input => exact leavesAlone_commit held fun _ _ => leavesAlone_health held
  | assign options => exact leavesAlone_commit held fun _ _ => leavesAlone_assign held
  | ensure options => exact leavesAlone_commit held fun _ _ => leavesAlone_ensure held
  | deleteWorkspace workspaceId now =>
      simp only [administration]
      cases deleted : deleteWorkspace database workspaceId now with
      | error failure => exact leavesAlone_refl held
      | ok after => exact leavesAlone_delete held (Store.execute_ok.mp deleted)

/-- Between an accepted drain or disable of a host and the request that puts it
back, no step assigns a workspace to it, provided that restarts which register
the host again find it draining. -/
theorem heldHost_gets_no_workspace {before after : CloudDatabase} {input : UpdateWorkerHostRequest}
    {now : Int} {worker : WorkerHostRow} {between : List WorkerEvent}
    (reachable : (administration urlProtocol quotient).Reachable before)
    (takesOut : input.action = some (.plain .drain) ∨ input.action = some (.plain .disable))
    (updated : WorkerAdministration.update urlProtocol before hostId input now =
      .ok (after, some worker))
    (untilPutBack : (administration urlProtocol quotient).Along
      (fun database event => ¬ PutsBack urlProtocol hostId database event) after between)
    (findsDraining : (administration urlProtocol quotient).Along
      (fun database event => FindsDraining urlProtocol hostId database event) after between) :
    (administration urlProtocol quotient).Along
      (fun database event => ¬ NewlyAssigned hostId database.tables
        ((administration urlProtocol quotient).step database event).tables) after between := by
  have named : HostIds after.tables := by
    have stepped : HostIds ((administration urlProtocol quotient).step before
        (.update hostId input now)).tables := hostIds_step _ (hostIds_reachable reachable)
    simpa only [administration, updated, commit_ok] using stepped
  refine (@System.Along.invariant _ _ (administration urlProtocol quotient) after between _ _
    (fun state => HostIds state.tables ∧ Held hostId state.tables)
    (untilPutBack.and findsDraining) ⟨named, held_of_takesOut takesOut updated⟩ ?_).1
  rintro database event ⟨notPutBack, finds⟩ ⟨wasNamed, held⟩
  obtain ⟨nothingNew, stillHeld⟩ : LeavesAlone hostId database
      ((administration urlProtocol quotient).step database event) :=
    leavesAlone_step event wasNamed.trimmed held notPutBack finds
  exact ⟨nothingNew, hostIds_step event wasNamed, stillHeld⟩

end Runs

section Sample

def registerOpen : RegisterWorkerHostRequest where
  id := "host-1"
  name := "host-1"
  provider := "static"
  region := "eu"
  baseURL := "https://host-1.test/"
  credentialKeyId := "key"
  capacity := ⟨4096, 4000, 8192, 2⟩
  enabled := none
  schedulable := some true

def configured : WorkerEnvironment where
  workerURL := some "https://host-1.test"
  workerToken := some "secret"
  workerId := some "host-1"
  credentialKeyId := none
  provider := none
  region := none
  capacity := ⟨4096, 4000, 8192, 2⟩

def request (action : WorkerHostLifecycleAction) : UpdateWorkerHostRequest where
  name := none
  provider := none
  region := none
  baseURL := none
  credentialKeyId := none
  capacity := none
  action := some (.plain action)
  reason := some "maintenance"

/-- A registered, healthy host and a workspace to place. -/
def inService : CloudDatabase :=
  (administration schemeOf exactQuotient).run team
    [.register registerOpen 10, .recordHealth reportHealthy, .ensure (openFor "ada" "w1")]

theorem inService_reachable : (administration schemeOf exactQuotient).Reachable inService := by
  have start : (administration schemeOf exactQuotient).Reachable team := .initial rfl
  exact start.run ⟨trivial, trivial, trivial, trivial⟩

/-- A drained host survives a restart, and being enabled after it. -/
def restartWhileDraining : List WorkerEvent :=
  [.restart configured 50, .update "host-1" (request .enable) 60,
    .recordHealth { reportHealthy with now := 70 }, .assign { placeOn "w1" with now := 80 }]

theorem heldHost_gets_no_workspace_drained :
    ∃ after worker, WorkerAdministration.update schemeOf inService "host-1" (request .drain) 40 =
        .ok (after, some worker) ∧
      (administration schemeOf exactQuotient).Along
        (fun database event => ¬ NewlyAssigned "host-1" database.tables
          ((administration schemeOf exactQuotient).step database event).tables)
        after restartWhileDraining := by
  obtain ⟨⟨after, updated⟩, accepted, found, untilPutBack, findsDraining⟩ :
      ∃ result, WorkerAdministration.update schemeOf inService "host-1" (request .drain) 40 =
          .ok result ∧ result.2.isSome ∧
        (administration schemeOf exactQuotient).Along
          (fun database event => ¬ PutsBack schemeOf "host-1" database event) result.1
          restartWhileDraining ∧
        (administration schemeOf exactQuotient).Along
          (fun database event => FindsDraining schemeOf "host-1" database event) result.1
          restartWhileDraining := by
    decide +kernel
  obtain ⟨worker, rfl⟩ := Option.isSome_iff_exists.mp found
  exact ⟨after, worker, accepted, heldHost_gets_no_workspace inService_reachable (.inl rfl) accepted
    untilPutBack findsDraining⟩

/-- A disabled host does not: the restart makes it schedulable, the next poll
healthy. -/
def restartWhileDisabled : List WorkerEvent :=
  [.restart configured 50, .recordHealth { reportHealthy with now := 70 },
    .assign { placeOn "w1" with now := 80 }]

theorem disabledHost_gets_workspace :
    (administration schemeOf exactQuotient).Reachable inService ∧
      ∃ after worker, WorkerAdministration.update schemeOf inService "host-1" (request .disable) 40 =
          .ok (after, some worker) ∧
        (administration schemeOf exactQuotient).Along
          (fun database event => ¬ PutsBack schemeOf "host-1" database event) after
          restartWhileDisabled ∧
        ¬ (administration schemeOf exactQuotient).Along
          (fun database event => ¬ NewlyAssigned "host-1" database.tables
            ((administration schemeOf exactQuotient).step database event).tables)
          after restartWhileDisabled := by
  refine ⟨inService_reachable, ?_⟩
  obtain ⟨⟨after, updated⟩, accepted, found, untilPutBack, assigned⟩ :
      ∃ result, WorkerAdministration.update schemeOf inService "host-1" (request .disable) 40 =
          .ok result ∧ result.2.isSome ∧
        (administration schemeOf exactQuotient).Along
          (fun database event => ¬ PutsBack schemeOf "host-1" database event) result.1
          restartWhileDisabled ∧
        ¬ (administration schemeOf exactQuotient).Along
          (fun database event => ¬ NewlyAssigned "host-1" database.tables
            ((administration schemeOf exactQuotient).step database event).tables)
          result.1 restartWhileDisabled := by
    decide +kernel
  obtain ⟨worker, rfl⟩ := Option.isSome_iff_exists.mp found
  exact ⟨after, worker, accepted, untilPutBack, assigned⟩

end Sample

end NebulaCloud.Capacity
