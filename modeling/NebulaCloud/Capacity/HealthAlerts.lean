import NebulaCloud.Capacity.StickyDrain
import NebulaCloud.Data.Separation

namespace NebulaCloud.Capacity

open NebulaCloud.Data NebulaCloud.Database NebulaCloud.Platform

/-! # Alerts of the health monitor

The monitor polls every host that is registered and announces a host that has become
unavailable.  Whether it has is read off the state with which the host was listed, a
column that the administrators' actions write as well. -/

/-! ## The monitor -/

inductive WorkerHealthEvent
  | workerUnavailable
  | workerRecovered
  | workerHeartbeatStale
deriving DecidableEq, Repr

structure WorkerHealthAlert where
  event : WorkerHealthEvent
  workerHostId : String
  previousState : WorkerHostState
  errorCode : Option String
  lastHeartbeatAt : Option Int
deriving DecidableEq, Repr

/-- What may be thrown while a host is asked for its status. -/
inductive HealthError
  | workerClientError (code : String)
  | timeout
  | other
deriving DecidableEq, Repr

def healthErrorCode : HealthError → String
  | .workerClientError code => code
  | .timeout => "worker_health_timeout"
  | .other => "worker_health_failed"

inductive HealthAnswer
  | status (ready : Bool) (capacity : ReportedCapacity)
  | failed (error : HealthError)
deriving DecidableEq, Repr

/-- `ORDER BY name, id`. -/
def hostOrder (left right : WorkerHostRow) : Prop := toLex (left.name, left.id) ≤ toLex (right.name, right.id)

instance : DecidableRel hostOrder := fun _ _ => inferInstanceAs (Decidable (_ ≤ _))

def listWorkerHosts (database : CloudDatabase) : List WorkerHostRow :=
  database.tables.workerHosts.insertionSort hostOrder

/-- What a poll leaves behind: the alerts in the order in which they are raised, and whether
the host was found healthy. -/
structure PollResult where
  database : CloudDatabase
  staleWorkers : List String
  alerts : List WorkerHealthAlert
  healthy : Bool

section Monitor

variable (staleAfterMs : Int) (database : CloudDatabase) (staleWorkers : List String) (host : WorkerHostRow)

/-- `#recordUnavailable`; `now` are the readings of the clock, one after the other. -/
def recordUnavailable (errorCode : String) (heartbeatObserved : Bool) (now : Nat → Int) :
    Except Failure PollResult := do
  let (database, _) ← recordWorkerHealth database
    { workerHostId := host.id
      state := .unavailable
      errorCode := some errorCode
      heartbeatObserved := some heartbeatObserved
      capacity := none
      now := now 0 }
  let unavailable :=
    if host.state ≠ .unavailable then [⟨.workerUnavailable, host.id, host.state, some errorCode, none⟩] else []
  let stale := heartbeatObserved = false ∧ ∃ heartbeat ∈ host.lastHeartbeatAt, staleAfterMs ≤ now 1 - heartbeat
  if stale ∧ host.id ∉ staleWorkers then
    .ok
      { database
        staleWorkers := host.id :: staleWorkers
        alerts := unavailable ++
          [⟨.workerHeartbeatStale, host.id, host.state, some errorCode, host.lastHeartbeatAt⟩]
        healthy := false }
  else .ok { database, staleWorkers, alerts := unavailable, healthy := false }

/-- `#pollHost`, once the host has answered. -/
def pollHost (answer : HealthAnswer) (now : Nat → Int) : Except Failure PollResult :=
  -- what the `catch` does with an error of the body
  let caught := recordUnavailable staleAfterMs database staleWorkers host
  match answer with
  | .failed error => caught (healthErrorCode error) false now
  | .status ready capacity =>
      if capacity.total ≠ host.total then caught "worker_capacity_mismatch" false now
      else if ready then
        match recordWorkerHealth database
            { workerHostId := host.id
              state := .healthy
              errorCode := none
              heartbeatObserved := none
              capacity := some capacity
              now := now 0 } with
        | .ok (database, _) =>
            .ok
              { database
                staleWorkers := staleWorkers.filter (· ≠ host.id)
                alerts :=
                  if host.state = .unavailable then [⟨.workerRecovered, host.id, host.state, none, none⟩] else []
                healthy := true }
        | .error _ => caught (healthErrorCode .other) false fun reading => now (reading + 1)
      else
        match recordUnavailable staleAfterMs database staleWorkers host "worker_not_ready" true now with
        | .ok result => .ok result
        | .error _ => caught (healthErrorCode .other) false fun reading => now (reading + 1)

end Monitor

/-! ## Polls and actions, in any order -/

/-- What is noted of a run. -/
inductive HealthNote
  | alert (raised : WorkerHealthAlert)
  | polled (workerHostId : String) (healthy : Bool)
  | acted (workerHostId : String) (action : WorkerHostLifecycleAction)
deriving DecidableEq, Repr

/-- `inFlight` are the hosts that were listed and have not answered yet, `history` what has
happened, newest first. -/
structure MonitorState where
  database : CloudDatabase
  inFlight : List WorkerHostRow
  staleWorkers : List String
  history : List HealthNote

inductive MonitorEvent
  | begin
  | settle (host : WorkerHostRow) (answer : HealthAnswer) (now : Nat → Int)
  | act (workerHostId : String) (action : WorkerHostLifecycleAction) (now : Int)
  | elsewhere (database : CloudDatabase)

/-- A run of `pollOnce` begins when no poll of the one before is in flight.  Whatever else
is written keeps the hosts and their states. -/
def monitoring (staleAfterMs : Int) : System MonitorState MonitorEvent where
  Initial state := state.inFlight = [] ∧ state.history = []
  Enabled state
    | .begin => state.inFlight = []
    | .settle host _ _ => host ∈ state.inFlight
    | .act _ _ _ => True
    | .elsewhere database => ∀ host ∈ state.database.tables.workerHosts,
        ∃ kept ∈ database.tables.workerHosts, kept.id = host.id ∧ kept.state = host.state
  step state
    | .begin => { state with inFlight := listWorkerHosts state.database }
    | .settle host answer now =>
        match pollHost staleAfterMs state.database state.staleWorkers host answer now with
        | .ok result =>
            { database := result.database
              inFlight := state.inFlight.erase host
              staleWorkers := result.staleWorkers
              history := result.alerts.reverse.map .alert ++ .polled host.id result.healthy :: state.history }
        | .error _ => { state with inFlight := state.inFlight.erase host }
    | .act workerHostId action now =>
        match setWorkerHostScheduling state.database (WorkerAdministration.scheduling workerHostId now action) with
        | .ok (database, _) =>
            { state with database, history := .acted workerHostId action :: state.history }
        | .error _ => state
    | .elsewhere database => { state with database }

/-! ## Outages -/

/-- The note is an alert that the host has become unavailable. -/
def HealthNote.announces (hostId : String) : HealthNote → Bool
  | .alert raised => raised.event = .workerUnavailable && raised.workerHostId = hostId
  | .polled _ _ | .acted _ _ => false

/-- The host was found healthy, or an action reset its state. -/
def HealthNote.restores (resets : WorkerHostLifecycleAction → Bool) (hostId : String) : HealthNote → Bool
  | .polled workerHostId healthy => workerHostId = hostId && healthy
  | .acted workerHostId action => workerHostId = hostId && resets action
  | .alert _ => false

/-- Between any two alerts for the host something has restored it. -/
def AlertedOnce (resets : WorkerHostLifecycleAction → Bool) (hostId : String) (history : List HealthNote) : Prop :=
  Separated (HealthNote.announces hostId) (HealthNote.restores resets hostId) history

/-- The answer of a host that is well. -/
def HealthAnswer.IsHealthy (host : WorkerHostRow) : HealthAnswer → Prop
  | .status ready capacity =>
      ready = true ∧ capacity.total = host.total ∧ ∃ checked, checkedCapacity capacity = .ok checked
  | .failed _ => False

instance (host : WorkerHostRow) : (answer : HealthAnswer) → Decidable (answer.IsHealthy host)
  | .status _ _ => inferInstanceAs (Decidable (_ ∧ _))
  | .failed _ => .isFalse not_false

/-- A host that was listed as draining fails no poll after one that it failed since it was
last restored. -/
def FailsOnce (resets : WorkerHostLifecycleAction → Bool) (state : MonitorState) : MonitorEvent → Prop
  | .settle host answer _ => host.state = .draining → ¬ answer.IsHealthy host →
      .polled host.id false ∉ sinceLast (HealthNote.restores resets host.id) state.history
  | .begin | .act _ _ _ | .elsewhere _ => True

instance (staleAfterMs : Int) (state : MonitorState) :
    (event : MonitorEvent) → Decidable ((monitoring staleAfterMs).Enabled state event)
  | .begin => inferInstanceAs (Decidable (state.inFlight = []))
  | .settle host _ _ => inferInstanceAs (Decidable (host ∈ state.inFlight))
  | .act _ _ _ => .isTrue trivial
  | .elsewhere database => inferInstanceAs (Decidable (∀ host ∈ state.database.tables.workerHosts,
      ∃ kept ∈ database.tables.workerHosts, kept.id = host.id ∧ kept.state = host.state))

instance (resets : WorkerHostLifecycleAction → Bool) (state : MonitorState) :
    (event : MonitorEvent) → Decidable (FailsOnce resets state event)
  | .settle _ _ _ => inferInstanceAs (Decidable (_ → _))
  | .begin | .act _ _ _ | .elsewhere _ => .isTrue trivial

/-! ## What a poll does -/

/-- The host is known to be unavailable, unless draining hides it. -/
def IsTaken (host : WorkerHostRow) : Prop := host.state = .unavailable ∨ host.state = .draining

/-- What is raised for a host that was not listed as unavailable. -/
def outageAlerts (host : WorkerHostRow) (healthy : Bool) (errorCode : Option String) : List WorkerHealthAlert :=
  if healthy = false ∧ host.state ≠ .unavailable then
    [⟨.workerUnavailable, host.id, host.state, errorCode, none⟩]
  else []

/-- What the poll of a host that is registered leaves behind. -/
structure PollResult.Settles (result : PollResult) (database : CloudDatabase) (host : WorkerHostRow) : Prop where
  written : ∃ input : RecordWorkerHealthInput, (result.healthy = false → input.state = .unavailable) ∧
    result.database.tables.workerHosts =
      updateWhere (fun row => row.id = host.id) (fun row => row.observed input) database.tables.workerHosts
  raised : ∃ errorCode others, result.alerts = outageAlerts host result.healthy errorCode ++ others ∧
    ∀ other ∈ others, other.event ≠ .workerUnavailable

section Polls

variable {staleAfterMs : Int} {database : CloudDatabase} {staleWorkers : List String} {host row : WorkerHostRow}
  {answer : HealthAnswer} {now : Nat → Int} {errorCode : String} {heartbeatObserved : Bool} {result : PollResult}

theorem recordUnavailable_settles (found : getWorkerHost database host.id = some row) :
    ∃ result, recordUnavailable staleAfterMs database staleWorkers host errorCode heartbeatObserved now =
      .ok result ∧ result.healthy = false ∧ result.Settles database host := by
  obtain ⟨after, recorded⟩ := @recordWorkerHealth_accepts database row
    ⟨host.id, .unavailable, some errorCode, some heartbeatObserved, none, now 0⟩ found (by simp)
  obtain ⟨samples, sequence, written⟩ := recordWorkerHealth_ok recorded
  have hosts := congrArg Tables.workerHosts written
  simp only [recordUnavailable, recorded, Bind.bind, Except.bind]
  split
  · refine ⟨_, rfl, rfl, ⟨_, fun _ => rfl, hosts⟩, some errorCode,
      [⟨.workerHeartbeatStale, host.id, host.state, some errorCode, host.lastHeartbeatAt⟩], ?_, by simp⟩
    simp [outageAlerts]
  · refine ⟨_, rfl, rfl, ⟨_, fun _ => rfl, hosts⟩, some errorCode, [], ?_, by simp⟩
    simp [outageAlerts]

theorem pollHost_settles (found : getWorkerHost database host.id = some row) :
    ∃ result, pollHost staleAfterMs database staleWorkers host answer now = .ok result ∧
      (result.healthy = true ↔ answer.IsHealthy host) ∧ result.Settles database host := by
  have unwell (errorCode : String) (observed : Bool) (now : Nat → Int) (fails : ¬ answer.IsHealthy host) :
      ∃ result, recordUnavailable staleAfterMs database staleWorkers host errorCode observed now = .ok result ∧
        (result.healthy = true ↔ answer.IsHealthy host) ∧ result.Settles database host := by
    obtain ⟨result, recorded, unhealthy, settles⟩ := @recordUnavailable_settles staleAfterMs database staleWorkers host
      row now errorCode observed found
    refine ⟨result, recorded, ?_, settles⟩
    simp [unhealthy, fails]
  cases answer with
  | failed error => exact unwell _ _ _ not_false
  | status ready capacity =>
      simp only [pollHost]
      split
      · rename_i mismatch
        exact unwell _ _ _ fun healthy => mismatch healthy.2.1
      · rename_i same
        rw [not_not] at same
        cases ready with
        | false =>
            obtain ⟨result, recorded, unhealthy, settles⟩ := @recordUnavailable_settles staleAfterMs database
              staleWorkers host row now "worker_not_ready" true found
            simp only [Bool.false_eq_true, if_false, recorded]
            exact ⟨result, rfl, by simp [unhealthy, HealthAnswer.IsHealthy], settles⟩
        | true =>
            simp only [if_true]
            split
            · rename_i after updated recorded
              obtain ⟨samples, sequence, written⟩ := recordWorkerHealth_ok recorded
              obtain ⟨reported, checked, _⟩ := bind_ok.mp recorded
              refine ⟨_, rfl, ?_, ⟨_, fun unhealthy => ?_, congrArg Tables.workerHosts written⟩, none,
                if host.state = .unavailable then [⟨.workerRecovered, host.id, host.state, none, none⟩] else [], ?_, ?_⟩
              · simp [HealthAnswer.IsHealthy, same, checked]
              · cases unhealthy
              · simp [outageAlerts]
              · split <;> simp
            · rename_i failure recorded
              refine unwell _ _ _ fun healthy => ?_
              obtain ⟨after, accepted⟩ := @recordWorkerHealth_accepts database row
                ⟨host.id, .healthy, none, none, some capacity, now 0⟩ found (by simpa using healthy.2.2)
              rw [accepted] at recorded
              cases recorded

/-! ## What a poll changes -/

theorem PollResult.Settles.ids (settles : result.Settles database host) :
    result.database.tables.workerHosts.map (·.id) = database.tables.workerHosts.map (·.id) := by
  obtain ⟨⟨input, -, written⟩, -⟩ := settles
  rw [written]
  exact map_updateWhere fun _ => rfl

theorem PollResult.Settles.kept (settles : result.Settles database host)
    (member : row ∈ database.tables.workerHosts) (other : row.id ≠ host.id) :
    row ∈ result.database.tables.workerHosts := by
  obtain ⟨⟨input, -, written⟩, -⟩ := settles
  rw [written]
  exact mem_updateWhere.mpr ⟨row, member, by simp [other]⟩

theorem PollResult.Settles.taken (settles : result.Settles database host) (unhealthy : result.healthy = false)
    (member : row ∈ result.database.tables.workerHosts) (same : row.id = host.id) : IsTaken row := by
  obtain ⟨⟨input, unavailable, written⟩, -⟩ := settles
  rw [written] at member
  obtain ⟨before, _, rfl⟩ := mem_updateWhere.mp member
  split
  · rename_i chosen
    simp only [IsTaken, WorkerHostRow.observed, unavailable unhealthy]
    split
    · rename_i draining
      exact .inr draining
    · exact .inl rfl
  · rename_i unchosen
    rw [if_neg unchosen] at same
    exact absurd (decide_eq_true same) unchosen

end Polls

/-! ## Alerts and states -/

section Invariant

variable (resets : WorkerHostLifecycleAction → Bool) (hostId : String)

/-- The host has been announced and not been restored since. -/
def Announced (history : List HealthNote) : Prop :=
  ∃ note ∈ sinceLast (HealthNote.restores resets hostId) history, note.announces hostId = true

/-- While an announced host is not restored it is known to be unavailable, wherever its
state stands, and it has failed a poll. -/
structure Known (state : MonitorState) : Prop where
  alertedOnce : AlertedOnce resets hostId state.history
  failed : Announced resets hostId state.history →
    .polled hostId false ∈ sinceLast (HealthNote.restores resets hostId) state.history
  stored : Announced resets hostId state.history →
    ∃ host ∈ state.database.tables.workerHosts, host.id = hostId ∧ IsTaken host
  listed : Announced resets hostId state.history → ∀ host ∈ state.inFlight, host.id = hostId → IsTaken host

/-- The hosts in flight are different hosts that are stored. -/
structure InFlight (state : MonitorState) : Prop where
  distinct : (state.inFlight.map (·.id)).Nodup
  registered : ∀ host ∈ state.inFlight, host.id ∈ state.database.tables.workerHosts.map (·.id)

variable {resets hostId} {state after : MonitorState} {added : List HealthNote} {note : HealthNote}
  {history : List HealthNote}

theorem announces_apart (note : HealthNote) (announces : note.announces hostId = true) :
    note.restores resets hostId = false := by
  cases note with
  | alert raised => rfl
  | polled workerHostId healthy => cases announces
  | acted workerHostId action => cases announces

/-- Notes that are no business of a host change nothing for it. -/
theorem announced_append (quiet : ∀ note ∈ added, note.restores resets hostId = false)
    (silent : ∀ note ∈ added, note.announces hostId = false) :
    Announced resets hostId (added ++ history) ↔ Announced resets hostId history := by
  unfold Announced
  rw [sinceLast_append_of_neg quiet]
  constructor
  · rintro ⟨note, member, announces⟩
    rcases List.mem_append.mp member with new | old
    · rw [silent note new] at announces
      cases announces
    · exact ⟨note, old, announces⟩
  · rintro ⟨note, member, announces⟩
    exact ⟨note, List.mem_append_right _ member, announces⟩

theorem Known.append (known : Known resets hostId state) (quiet : ∀ note ∈ added, note.restores resets hostId = false)
    (silent : ∀ note ∈ added, note.announces hostId = false) (extended : after.history = added ++ state.history)
    (stored : Announced resets hostId state.history →
      ∃ host ∈ after.database.tables.workerHosts, host.id = hostId ∧ IsTaken host)
    (listed : Announced resets hostId state.history → ∀ host ∈ after.inFlight, host.id = hostId → IsTaken host) :
    Known resets hostId after := by
  have same : Announced resets hostId after.history ↔ Announced resets hostId state.history := by
    rw [extended]
    exact announced_append quiet silent
  constructor
  · rw [extended]
    exact known.alertedOnce.append_of_unmarked announces_apart silent
  · intro announced
    rw [extended, sinceLast_append_of_neg quiet]
    exact List.mem_append_right _ (known.failed (same.mp announced))
  · exact fun announced => stored (same.mp announced)
  · exact fun announced => listed (same.mp announced)

/-- A host that has just been restored is announced no more. -/
theorem Known.restored (known : Known resets hostId state) (restores : note.restores resets hostId = true)
    (quiet : ∀ note ∈ added, note.restores resets hostId = false)
    (silent : ∀ note ∈ added, note.announces hostId = false)
    (extended : after.history = added ++ note :: state.history) : Known resets hostId after := by
  have unannounced : note.announces hostId = false := by
    cases announces : note.announces hostId with
    | false => rfl
    | true =>
        rw [announces_apart note announces] at restores
        cases restores
  have nothing : ¬ Announced resets hostId after.history := by
    rw [extended, announced_append quiet silent]
    rintro ⟨other, member, -⟩
    rw [sinceLast_cons_of_pos restores] at member
    cases member
  constructor
  · rw [extended]
    refine (known.alertedOnce.cons announces_apart fun announces => ?_).append_of_unmarked announces_apart silent
    rw [unannounced] at announces
    cases announces
  · exact fun announced => absurd announced nothing
  · exact fun announced => absurd announced nothing
  · exact fun announced => absurd announced nothing

/-- A host that has failed a poll is announced for the first time. -/
theorem Known.announcing {raised : WorkerHealthAlert} (known : Known resets hostId state)
    (first : ¬ Announced resets hostId state.history)
    (quiet : ∀ note ∈ added, note.restores resets hostId = false)
    (silent : ∀ note ∈ added, note.announces hostId = false)
    (extended : after.history = added ++ .alert raised :: .polled hostId false :: state.history)
    (stored : ∃ host ∈ after.database.tables.workerHosts, host.id = hostId ∧ IsTaken host)
    (listed : ∀ host ∈ after.inFlight, host.id = hostId → IsTaken host) : Known resets hostId after := by
  have polled : HealthNote.restores resets hostId (.polled hostId false) = false := by simp [HealthNote.restores]
  constructor
  · rw [extended]
    refine Separated.append_of_unmarked ?_ announces_apart silent
    refine (known.alertedOnce.cons announces_apart fun announces => by cases announces).cons announces_apart ?_
    intro _ note isNote
    rw [sinceLast_cons_of_neg polled] at isNote
    rcases List.mem_cons.mp isNote with rfl | earlier
    · rfl
    · cases announces : note.announces hostId with
      | false => rfl
      | true => exact absurd ⟨note, earlier, announces⟩ first
  · intro _
    rw [extended, sinceLast_append_of_neg quiet, sinceLast_cons_of_neg rfl, sinceLast_cons_of_neg polled]
    simp
  · exact fun _ => stored
  · exact fun _ => listed

/-! ## Steps -/

variable {staleAfterMs : Int} {host : WorkerHostRow} {answer : HealthAnswer} {now : Nat → Int}

theorem erased_other (inFlight : InFlight state) (member : host ∈ state.inFlight) :
    ∀ other ∈ state.inFlight.erase host, other.id ≠ host.id := by
  intro other remains same
  have rows : state.inFlight.Nodup := inFlight.distinct.of_map
  obtain ⟨different, stored⟩ := (List.Nodup.mem_erase_iff rows).mp remains
  exact different (eq_of_key inFlight.distinct stored member same)

theorem alerts_quiet (alerts : List WorkerHealthAlert) :
    ∀ note ∈ alerts.reverse.map HealthNote.alert, note.restores resets hostId = false := by
  intro note member
  obtain ⟨raised, -, rfl⟩ := List.mem_map.mp member
  rfl

theorem alerts_silent {alerts : List WorkerHealthAlert}
    (harmless : ∀ raised ∈ alerts, raised.event = .workerUnavailable → raised.workerHostId ≠ hostId) :
    ∀ note ∈ alerts.reverse.map HealthNote.alert, note.announces hostId = false := by
  intro note member
  obtain ⟨raised, isRaised, rfl⟩ := List.mem_map.mp member
  have apart := harmless raised (List.mem_reverse.mp isRaised)
  simpa [HealthNote.announces] using apart

theorem poll_quiet {polledId : String} {healthy : Bool} (alerts : List WorkerHealthAlert)
    (polled : HealthNote.restores resets hostId (.polled polledId healthy) = false) :
    ∀ note ∈ alerts.reverse.map HealthNote.alert ++ [.polled polledId healthy],
      note.restores resets hostId = false := by
  intro note member
  rcases List.mem_append.mp member with raised | last
  · exact alerts_quiet alerts note raised
  · rw [List.mem_singleton.mp last]
    exact polled

theorem poll_silent {polledId : String} {healthy : Bool} {alerts : List WorkerHealthAlert}
    (harmless : ∀ raised ∈ alerts, raised.event = .workerUnavailable → raised.workerHostId ≠ hostId) :
    ∀ note ∈ alerts.reverse.map HealthNote.alert ++ [.polled polledId healthy], note.announces hostId = false := by
  intro note member
  rcases List.mem_append.mp member with raised | last
  · exact alerts_silent harmless note raised
  · rw [List.mem_singleton.mp last]
    rfl

theorem outageAlerts_host {healthy : Bool} {errorCode : Option String} :
    ∀ raised ∈ outageAlerts host healthy errorCode, raised.workerHostId = host.id := by
  intro raised member
  unfold outageAlerts at member
  split at member
  · rw [List.mem_singleton.mp member]
  · cases member

/-- What a poll leaves behind as a state of the monitor. -/
def PollResult.into (result : PollResult) (state : MonitorState) (host : WorkerHostRow) : MonitorState where
  database := result.database
  inFlight := state.inFlight.erase host
  staleWorkers := result.staleWorkers
  history := result.alerts.reverse.map .alert ++ .polled host.id result.healthy :: state.history

variable {result : PollResult}

/-- A poll of another host is no business of this one. -/
theorem known_into_other (known : Known resets hostId state) (settles : result.Settles state.database host)
    (other : host.id ≠ hostId) : Known resets hostId (result.into state host) := by
  obtain ⟨errorCode, others, alerts, harmless⟩ := settles.raised
  have extended : (result.into state host).history =
      (result.alerts.reverse.map .alert ++ [.polled host.id result.healthy]) ++ state.history := by
    rw [List.append_assoc, List.singleton_append]
    rfl
  have unannounced : ∀ raised ∈ result.alerts, raised.event = .workerUnavailable → raised.workerHostId ≠ hostId := by
    intro raised isRaised unavailable
    rw [alerts] at isRaised
    rcases List.mem_append.mp isRaised with outage | harmlessOne
    · rw [outageAlerts_host raised outage]
      exact other
    · exact absurd unavailable (harmless raised harmlessOne)
  refine known.append (poll_quiet result.alerts (by simp [HealthNote.restores, other])) (poll_silent unannounced)
    extended ?_ ?_
  · intro announced
    obtain ⟨row, member, same, taken⟩ := known.stored announced
    exact ⟨row, settles.kept member (fun eq => other (eq.symm.trans same)), same, taken⟩
  · intro announced row member same
    exact known.listed announced row (List.mem_of_mem_erase member) same

theorem known_into_self (inFlight : InFlight state) (member : host ∈ state.inFlight)
    (known : Known resets host.id state) (settles : result.Settles state.database host)
    (once : host.state = .draining → result.healthy = false →
      .polled host.id false ∉ sinceLast (HealthNote.restores resets host.id) state.history) :
    Known resets host.id (result.into state host) := by
  obtain ⟨errorCode, others, alerts, harmless⟩ := settles.raised
  have harmless : ∀ raised ∈ others, raised.event = .workerUnavailable → raised.workerHostId ≠ host.id :=
    fun raised isRaised unavailable => absurd unavailable (harmless raised isRaised)
  have listed : ∀ row ∈ (result.into state host).inFlight, row.id = host.id → IsTaken row :=
    fun row remains same => absurd same (erased_other inFlight member row remains)
  cases healthy : result.healthy with
  | true =>
      have extended : (result.into state host).history =
          others.reverse.map .alert ++ .polled host.id true :: state.history := by
        simp [PollResult.into, alerts, outageAlerts, healthy]
      exact known.restored (by simp [HealthNote.restores]) (alerts_quiet _) (alerts_silent harmless) extended
  | false =>
      have stored : ∃ row ∈ (result.into state host).database.tables.workerHosts, row.id = host.id ∧ IsTaken row := by
        have registered := inFlight.registered host member
        rw [← settles.ids] at registered
        obtain ⟨row, isStored, same⟩ := List.mem_map.mp registered
        exact ⟨row, isStored, same, settles.taken healthy isStored same⟩
      by_cases unavailable : host.state = .unavailable
      · have extended : (result.into state host).history =
            (others.reverse.map .alert ++ [.polled host.id false]) ++ state.history := by
          simp [PollResult.into, alerts, outageAlerts, healthy, unavailable]
        exact known.append (poll_quiet others (by simp [HealthNote.restores])) (poll_silent harmless) extended
          (fun _ => stored) fun _ => listed
      · have first : ¬ Announced resets host.id state.history := by
          intro announced
          rcases known.listed announced host member rfl with gone | draining
          · exact unavailable gone
          · exact once draining healthy (known.failed announced)
        let outage : WorkerHealthAlert := ⟨.workerUnavailable, host.id, host.state, errorCode, none⟩
        have extended : (result.into state host).history =
            others.reverse.map .alert ++ .alert outage :: .polled host.id false :: state.history := by
          simp [PollResult.into, alerts, outageAlerts, healthy, unavailable, outage]
        exact known.announcing first (alerts_quiet others) (alerts_silent harmless) extended stored listed

theorem settle_eq (inFlight : InFlight state) (member : host ∈ state.inFlight) :
    ∃ result : PollResult, (monitoring staleAfterMs).step state (.settle host answer now) = result.into state host ∧
      (result.healthy = true ↔ answer.IsHealthy host) ∧ result.Settles state.database host := by
  obtain ⟨row, isStored, same⟩ := List.mem_map.mp (inFlight.registered host member)
  have found : getWorkerHost state.database host.id = some row := by
    rw [← same]
    exact lookup_of_mem (state.database.consistent .hostId) isStored
  obtain ⟨result, polled, healthy, settles⟩ := @pollHost_settles staleAfterMs state.database state.staleWorkers host row
    answer now found
  refine ⟨result, ?_, healthy, settles⟩
  simp only [monitoring, polled]
  rfl

/-- The actions that do not make the state unknown take the host out. -/
theorem rescheduled_taken {workerHostId : String} {action : WorkerHostLifecycleAction} {now : Int} {row : WorkerHostRow}
    (enables : resets .enable = true) (resumes : resets .resume = true) (other : resets action ≠ true) :
    IsTaken (row.rescheduled (WorkerAdministration.scheduling workerHostId now action)) := by
  cases action with
  | enable => exact absurd enables other
  | resume => exact absurd resumes other
  | disable => exact .inl rfl
  | drain => exact .inr rfl

theorem known_act {workerHostId : String} {action : WorkerHostLifecycleAction} {now : Int}
    (enables : resets .enable = true) (resumes : resets .resume = true) (known : Known resets hostId state) :
    Known resets hostId ((monitoring staleAfterMs).step state (.act workerHostId action now)) := by
  simp only [monitoring]
  split
  · rename_i database updated scheduled
    have hosts : database.tables.workerHosts = updateWhere (fun host => host.id = workerHostId)
        (fun host => host.rescheduled (WorkerAdministration.scheduling workerHostId now action))
        state.database.tables.workerHosts := by
      rw [setWorkerHostScheduling_ok scheduled, scheduling_workerHostId]
    let noted : HealthNote := .acted workerHostId action
    by_cases restores : noted.restores resets hostId = true
    · exact @Known.restored resets hostId state _ [] noted known restores (by simp) (by simp) rfl
    · have quiet : noted.restores resets hostId = false := Bool.eq_false_iff.mpr restores
      refine @Known.append resets hostId state _ [noted] known (by simpa using quiet)
        (by simp [noted, HealthNote.announces]) rfl ?_ known.listed
      intro announced
      obtain ⟨row, isStored, same, taken⟩ := known.stored announced
      change ∃ host ∈ database.tables.workerHosts, _
      rw [hosts]
      refine ⟨_, mem_updateWhere.mpr ⟨row, isStored, rfl⟩, ?_⟩
      split
      · rename_i chosen
        refine ⟨same, rescheduled_taken enables resumes fun isReset => restores ?_⟩
        have named : workerHostId = hostId := (of_decide_eq_true chosen).symm.trans same
        simp [noted, HealthNote.restores, named, isReset]
      · exact ⟨same, taken⟩
  · exact known

/-- What is written elsewhere keeps the states. -/
theorem known_elsewhere {database : CloudDatabase} (known : Known resets hostId state)
    (enabled : (monitoring staleAfterMs).Enabled state (.elsewhere database)) :
    Known resets hostId ((monitoring staleAfterMs).step state (.elsewhere database)) := by
  refine @Known.append resets hostId state _ [] known (by simp) (by simp) rfl ?_ known.listed
  intro announced
  obtain ⟨host, isStored, same, taken⟩ := known.stored announced
  obtain ⟨kept, isKept, sameId, sameState⟩ := enabled host isStored
  rw [IsTaken, ← sameState] at taken
  exact ⟨kept, isKept, sameId.trans same, taken⟩

/-- A run of polls takes the states as they are stored. -/
theorem known_begin (known : Known resets hostId state) :
    Known resets hostId ((monitoring staleAfterMs).step state .begin) := by
  refine @Known.append resets hostId state _ [] known (by simp) (by simp) rfl known.stored ?_
  intro announced host member same
  obtain ⟨row, isStored, named, taken⟩ := known.stored announced
  have isListed := (List.mem_insertionSort hostOrder).mp member
  obtain rfl : host = row := eq_of_hostId isListed isStored (same.trans named.symm)
  exact taken

theorem inFlight_step {event : MonitorEvent} (inFlight : InFlight state)
    (enabled : (monitoring staleAfterMs).Enabled state event) :
    InFlight ((monitoring staleAfterMs).step state event) := by
  cases event with
  | begin =>
      have same := List.perm_insertionSort hostOrder state.database.tables.workerHosts
      have distinct : (state.database.tables.workerHosts.map (·.id)).Nodup := state.database.consistent .hostId
      constructor
      · exact (same.map (·.id)).nodup_iff.mpr distinct
      · exact fun host member => List.mem_map_of_mem (same.mem_iff.mp member)
  | settle host answer now =>
      obtain ⟨result, stepped, -, settles⟩ := @settle_eq state staleAfterMs host answer now inFlight enabled
      rw [stepped]
      constructor
      · exact inFlight.distinct.sublist ((List.erase_sublist).map _)
      · intro other member
        have registered := inFlight.registered other (List.mem_of_mem_erase member)
        rwa [← settles.ids] at registered
  | act workerHostId action now =>
      simp only [monitoring]
      split
      · rename_i database updated scheduled
        have hosts := congrArg Tables.workerHosts (setWorkerHostScheduling_ok scheduled)
        refine ⟨inFlight.distinct, fun host member => ?_⟩
        have registered := inFlight.registered host member
        have ids : database.tables.workerHosts.map (·.id) = state.database.tables.workerHosts.map (·.id) := by
          rw [hosts]
          exact map_updateWhere fun _ => rfl
        rwa [← ids] at registered
      · exact inFlight
  | elsewhere database =>
      refine ⟨inFlight.distinct, fun host member => ?_⟩
      obtain ⟨row, isStored, same⟩ := List.mem_map.mp (inFlight.registered host member)
      obtain ⟨kept, isKept, sameId, -⟩ := enabled row isStored
      exact List.mem_map.mpr ⟨kept, isKept, sameId.trans same⟩

theorem known_step {event : MonitorEvent} (enables : resets .enable = true) (resumes : resets .resume = true)
    (inFlight : InFlight state) (known : ∀ hostId, Known resets hostId state)
    (enabled : (monitoring staleAfterMs).Enabled state event) (once : FailsOnce resets state event) :
    Known resets hostId ((monitoring staleAfterMs).step state event) := by
  cases event with
  | begin => exact known_begin (known hostId)
  | settle host answer now =>
      obtain ⟨result, stepped, healthy, settles⟩ := @settle_eq state staleAfterMs host answer now inFlight enabled
      rw [stepped]
      by_cases same : host.id = hostId
      · subst same
        refine known_into_self inFlight enabled (known host.id) settles fun draining unhealthy => ?_
        refine once draining fun isHealthy => ?_
        rw [healthy.mpr isHealthy] at unhealthy
        cases unhealthy
      · exact known_into_other (known hostId) settles same
  | act workerHostId action now => exact known_act enables resumes (known hostId)
  | elsewhere database => exact known_elsewhere (known hostId) enabled

/-- In every run of polls and actions, one settling at a time and in any order, in which no
draining host fails twice without having been restored, two alerts that a host has become
unavailable have something between them that restored it.  Which actions count as resetting
the state is left open, but those that make it unknown do. -/
theorem eachOutage_alertedOnce {events : List MonitorEvent} (enables : resets .enable = true)
    (resumes : resets .resume = true) (start : (monitoring staleAfterMs).Initial state)
    (runs : (monitoring staleAfterMs).Runs state events)
    (once : (monitoring staleAfterMs).Along (FailsOnce resets) state events) (hostId : String) :
    AlertedOnce resets hostId ((monitoring staleAfterMs).run state events).history := by
  have first : ∀ hostId, Known resets hostId state := by
    intro hostId
    have nothing : ¬ Announced resets hostId state.history := by
      rintro ⟨note, member, -⟩
      rw [start.2] at member
      cases member
    constructor
    · rw [AlertedOnce, start.2]
      exact separated_nil
    · exact fun announced => absurd announced nothing
    · exact fun announced => absurd announced nothing
    · exact fun announced => absurd announced nothing
  have empty : InFlight state := by
    constructor
    · simp [start.1]
    · simp [start.1]
  have invariant := @System.Along.invariant _ _ (monitoring staleAfterMs) state events _ (fun _ _ => True)
    (fun state => InFlight state ∧ ∀ hostId, Known resets hostId state) (runs.and once) ⟨empty, first⟩ ?_
  · exact (invariant.2.2 hostId).alertedOnce
  · rintro state event ⟨enabled, fails⟩ ⟨inFlight, known⟩
    exact ⟨trivial, inFlight_step inFlight enabled, fun _ => known_step enables resumes inFlight known enabled fails⟩

end Invariant

section Sample

/-- The registered host, as it is listed once it drains. -/
def drainedHost : WorkerHostRow where
  id := "host-1"
  name := "host-1"
  provider := "static"
  region := "eu"
  baseURL := "https://host-1.test"
  credentialKeyId := "key"
  enabled := true
  schedulable := false
  state := .draining
  total := ⟨4096, 4000, 8192, 2⟩
  reserved := Resources.zero
  lastHeartbeatAt := some 20
  lastErrorCode := none
  createdAt := 10
  updatedAt := 40

def monitored : MonitorState where
  database := inService
  inFlight := []
  staleWorkers := []
  history := []

/-- A host that drains does not answer two polls. -/
def silentWhileDraining : List MonitorEvent :=
  [.act "host-1" .drain 40, .begin, .settle drainedHost (.failed .timeout) fun _ => 50, .begin,
    .settle { drainedHost with lastErrorCode := some "worker_health_timeout", updatedAt := 50 } (.failed .timeout)
      fun _ => 60]

/-- It is announced at each of them, whatever may count as a reset. -/
theorem drainingHost_announced_twice :
    (monitoring 30000).Initial monitored ∧ (monitoring 30000).Runs monitored silentWhileDraining ∧
      ∀ resets, ¬ AlertedOnce resets "host-1" ((monitoring 30000).run monitored silentWhileDraining).history := by
  let outage : HealthNote :=
    .alert ⟨.workerUnavailable, "host-1", .draining, some "worker_health_timeout", none⟩
  have history : ((monitoring 30000).run monitored silentWhileDraining).history =
      [] ++ outage :: ([.polled "host-1" false] ++ outage :: [.polled "host-1" false, .acted "host-1" .drain]) := by
    decide +kernel
  refine ⟨⟨rfl, rfl⟩, by decide +kernel, fun resets once => ?_⟩
  obtain ⟨note, member, restores⟩ := once _ _ _ _ _ history rfl rfl
  rw [List.mem_singleton.mp member] at restores
  cases restores

/-- A host that drains answers between two polls that it does not answer. -/
def answersWhileDraining : List MonitorEvent :=
  [.act "host-1" .drain 40, .begin, .settle drainedHost (.failed .timeout) fun _ => 50, .begin,
    .settle { drainedHost with lastErrorCode := some "worker_health_timeout", updatedAt := 50 }
      (.status true ⟨drainedHost.total, Resources.zero⟩) fun _ => 60, .begin,
    .settle { drainedHost with lastHeartbeatAt := some 60, updatedAt := 60 } (.failed .timeout) fun _ => 70]

theorem eachOutage_alertedOnce_answers :
    AlertedOnce (fun _ => true) "host-1" ((monitoring 30000).run monitored answersWhileDraining).history :=
  eachOutage_alertedOnce rfl rfl ⟨rfl, rfl⟩ (by decide +kernel) (by decide +kernel) "host-1"

end Sample

end NebulaCloud.Capacity
