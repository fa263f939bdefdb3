import NebulaCloud.Ingress.ConnectionLimiter

namespace NebulaCloud.Ingress

/-! Accepted connections of the TCP ingress, from the lease that admits one to the
clean-up that ends it. -/

open NebulaCloud.Data

inductive Socket
  | opened
  | destroyed
deriving DecidableEq

inductive Tunnel
  | opening
  | opened
  | failed
deriving DecidableEq

structure TCPIngressRoute where
  routeId : String
  ingressPort : Int
  workspaceId : String
  organizationId : String
  workerId : String
  targetPort : Int
deriving DecidableEq

/-- The variables that one `#handle` call closes over.  Its number stands for its
`finish` function. -/
structure Connection where
  ingressPort : Int
  lease : Nat
  routeClosers : Nat
  client : Socket := .opened
  worker : Option Socket := none
  tunnel : Tunnel := .opening
  finished : Bool := false
  /-- The handlers of both sockets are in place. -/
  attached : Bool := false
deriving DecidableEq

def Connection.ended (connection : Connection) : Connection :=
  { connection with
    finished := true
    client := .destroyed
    worker := connection.worker.map fun _ => .destroyed }

structure TCPConnections where
  admissions : Admissions
  /-- The `Set` objects; the map holds their numbers. -/
  closerSets : List (List Nat) := []
  connectionClosersByPort : AList (fun _ : Int => Nat) := ∅
  connections : List Connection := []
  /-- The calls of `lease.release`. -/
  releases : List Nat := []
deriving DecidableEq

inductive ConnectionEvent
  | connect (ingressPort : Int) (route : Option TCPIngressRoute)
  | tunnelOpened (connection : Nat)
  | tunnelFailed (connection : Nat)
  | clientError (connection : Nat)
  | clientClose (connection : Nat)
  | workerError (connection : Nat)
  | workerClose (connection : Nat)
  | clientTimeout (connection : Nat)
  | workerTimeout (connection : Nat)
  | clientData (connection : Nat) (consumed : Bool)
  | workerData (connection : Nat) (consumed : Bool)
  | deactivate (ingressPort : Int)
deriving DecidableEq

namespace TCPConnections

variable (state : TCPConnections)

def members (closers : Nat) : List Nat := state.closerSets.getD closers []

/-- `this.#connectionClosersByPort.get(ingressPort) ?? []`. -/
def closersOf (ingressPort : Int) : List Nat :=
  match state.connectionClosersByPort.lookup ingressPort with
  | none => []
  | some closers => state.members closers

def assign (id : Nat) (change : Connection → Connection) : TCPConnections :=
  { state with connections := state.connections.modify id change }

def finish (id : Nat) : TCPConnections :=
  match state.connections[id]? with
  | none => state
  | some connection =>
      if connection.finished then state
      else
        let routeClosers := (state.members connection.routeClosers).filter (· ≠ id)
        { admissions := state.admissions.call (.release connection.lease)
          closerSets := state.closerSets.set connection.routeClosers routeClosers
          connectionClosersByPort :=
            if routeClosers.length = 0 then
              state.connectionClosersByPort.erase connection.ingressPort
            else state.connectionClosersByPort
          connections := state.connections.set id connection.ended
          releases := state.releases ++ [connection.lease] }

/-- `#handle` up to the `await` of the tunnel.  A client without a route or a lease is
destroyed and leaves nothing behind. -/
def handle (ingressPort : Int) (route : Option TCPIngressRoute) : TCPConnections :=
  match route with
  | none => state
  | some route =>
      match state.admissions.limiter.tryAcquire
        { workerId := route.workerId
          organizationId := route.organizationId
          routeId := route.routeId } with
      | (none, limiter) => { state with admissions := { state.admissions with limiter } }
      | (some lease, limiter) =>
          let finish := state.connections.length
          let (routeClosers, closerSets) :=
            match state.connectionClosersByPort.lookup ingressPort with
            | some closers => (closers, state.closerSets)
            | none => (state.closerSets.length, state.closerSets ++ [[]])
          { admissions := { limiter, leases := state.admissions.leases ++ [lease] }
            closerSets := closerSets.modify routeClosers (· ++ [finish])
            connectionClosersByPort :=
              state.connectionClosersByPort.insert ingressPort routeClosers
            connections := state.connections ++
              [{ ingressPort, lease := state.admissions.leases.length, routeClosers }]
            releases := state.releases }

def isAttached (id : Nat) : Bool :=
  (state.connections[id]?).any (·.attached)

/-- A handler that is installed once the tunnel is open. -/
def handled (id : Nat) : TCPConnections :=
  if state.isAttached id then state.finish id else state

/-- The part of `deactivate` that closes the connections of the port. -/
def closeConnections (ingressPort : Int) : TCPConnections :=
  (state.closersOf ingressPort).foldl finish state

def receive : ConnectionEvent → TCPConnections
  | .connect ingressPort route => state.handle ingressPort route
  | .tunnelOpened id =>
      state.assign id fun connection =>
        { connection with
          worker := some .opened
          tunnel := .opened
          -- `if (finished) return` skips the handlers
          attached := !connection.finished }
  | .tunnelFailed id =>
      (state.assign id fun connection => { connection with tunnel := .failed }).finish id
  | .clientError id | .clientClose id =>
      (state.assign id fun connection => { connection with client := .destroyed }).handled id
  | .workerError id | .workerClose id =>
      (state.assign id fun connection =>
        { connection with worker := connection.worker.map fun _ => .destroyed }).handled id
  | .clientTimeout id => state.finish id
  | .workerTimeout id => state.handled id
  | .clientData id consumed | .workerData id consumed =>
      if consumed then state else state.handled id
  | .deactivate ingressPort => state.closeConnections ingressPort

/-- The promise of a tunnel settles once. -/
def CanReceive : ConnectionEvent → Prop
  | .tunnelOpened id | .tunnelFailed id =>
      ∃ connection ∈ state.connections[id]?, connection.tunnel = .opening
  | _ => True

instance : DecidablePred state.CanReceive
  | .tunnelOpened id | .tunnelFailed id =>
      inferInstanceAs (Decidable (∃ connection ∈ state.connections[id]?, connection.tunnel = .opening))
  | .connect .. | .clientError _ | .clientClose _ | .workerError _ | .workerClose _
  | .clientTimeout _ | .workerTimeout _ | .clientData .. | .workerData .. | .deactivate _ =>
      .isTrue trivial

end TCPConnections

def connectionSystem : System TCPConnections ConnectionEvent where
  Initial state := ∃ limits limiter, PublicationConnectionLimiter.create limits = .ok limiter ∧
    state = { admissions := .start limiter }
  Enabled := TCPConnections.CanReceive
  step := TCPConnections.receive

instance (state : TCPConnections) (event : ConnectionEvent) :
    Decidable (connectionSystem.Enabled state event) :=
  inferInstanceAs (Decidable (state.CanReceive event))

namespace TCPConnections

variable {state : TCPConnections} {id : Nat} {connection : Connection}

/-- The lease ends once, with the connection; once finished and with its tunnel
settled, the connection holds no socket and no place among the closers. -/
structure CleansUp (state : TCPConnections) (id : Nat) (connection : Connection) : Prop where
  releasedOnce : state.releases.count connection.lease = if connection.finished then 1 else 0
  leaseEnds : (state.admissions.leases[connection.lease]?).map (·.released) =
    some connection.finished
  destroyed : connection.finished → connection.tunnel ≠ .opening →
    connection.client = .destroyed ∧ connection.worker ≠ some .opened ∧
      id ∉ state.closersOf connection.ingressPort

def LeaksNothing (state : TCPConnections) : Prop :=
  ∀ (id : Nat) (connection : Connection), state.connections[id]? = some connection →
    state.CleansUp id connection

/-- No tunnel opens for a connection that is finished already. -/
def Timely (state : TCPConnections) : ConnectionEvent → Prop
  | .tunnelOpened id => ∀ connection ∈ state.connections[id]?, connection.finished = false
  | _ => True

instance (state : TCPConnections) : DecidablePred state.Timely
  | .tunnelOpened id =>
      inferInstanceAs (Decidable (∀ connection ∈ state.connections[id]?, connection.finished = false))
  | .connect .. | .tunnelFailed _ | .clientError _ | .clientClose _ | .workerError _
  | .workerClose _ | .clientTimeout _ | .workerTimeout _ | .clientData .. | .workerData ..
  | .deactivate _ => .isTrue trivial

/-! ## What every event keeps -/

structure Tracked (state : TCPConnections) (id : Nat) (connection : Connection) : Prop where
  set : connection.routeClosers < state.closerSets.length
  waiting : connection.finished = false →
    state.connectionClosersByPort.lookup connection.ingressPort = some connection.routeClosers ∧
      id ∈ state.members connection.routeClosers
  lease : (state.admissions.leases[connection.lease]?).map (·.released) =
    some connection.finished
  released : state.releases.count connection.lease = if connection.finished then 1 else 0
  client : connection.finished → connection.client = .destroyed

/-- The closers of a port are its unfinished connections, and the lease of a
connection ends when the connection does. -/
structure Sound (state : TCPConnections) : Prop where
  tracked : ∀ {id : Nat} {connection : Connection}, state.connections[id]? = some connection →
    state.Tracked id connection
  mapped : ∀ {port : Int} {closers : Nat}, state.connectionClosersByPort.lookup port = some closers →
    closers < state.closerSets.length
  unfinished : ∀ {closers id : Nat}, id ∈ state.members closers → ∃ connection : Connection,
    state.connections[id]? = some connection ∧ connection.routeClosers = closers ∧
      connection.finished = false
  own : ∀ {id other : Nat} {connection another : Connection},
    state.connections[id]? = some connection → state.connections[other]? = some another →
      connection.lease = another.lease → id = other
  issued : ∀ lease ∈ state.releases, lease < state.admissions.leases.length

/-- No finished connection holds a worker socket. -/
def Unleaked (state : TCPConnections) : Prop :=
  ∀ (id : Nat) (connection : Connection), state.connections[id]? = some connection →
    connection.finished → connection.worker ≠ some .opened

theorem Sound.leaksNothing (sound : state.Sound) (unleaked : state.Unleaked) :
    state.LeaksNothing := by
  intro id connection stored
  have tracked := sound.tracked stored
  refine ⟨tracked.released, tracked.lease, ?_⟩
  intro finished _
  refine ⟨tracked.client finished, unleaked id connection stored finished, ?_⟩
  intro waiting
  unfold closersOf at waiting
  split at waiting
  · exact List.not_mem_nil waiting
  · obtain ⟨same, found, _, unfinished⟩ := sound.unfinished waiting
    rw [stored] at found
    cases found
    rw [finished] at unfinished
    cases unfinished

theorem released_leases (admissions : Admissions) (index other : Nat) :
    ((admissions.call (.release index)).leases[other]?).map (·.released) =
      (admissions.leases[other]?).map fun lease => lease.released || decide (index = other) := by
  cases found : admissions.leases[index]? with
  | none =>
      simp only [Admissions.call, found]
      cases foundOther : admissions.leases[other]? with
      | none => rfl
      | some lease =>
          have different : index ≠ other := by
            rintro rfl
            rw [found] at foundOther
            cases foundOther
          simp [different]
  | some lease =>
      obtain ⟨within, found'⟩ := List.getElem?_eq_some_iff.mp found
      simp only [Admissions.call, found, PublicationConnectionLimiter.release]
      by_cases same : index = other
      · subst same
        cases released : lease.released <;> simp [released, within]
      · cases released : lease.released <;> simp [same]

theorem released_length (admissions : Admissions) (index : Nat) :
    (admissions.call (.release index)).leases.length = admissions.leases.length := by
  simp only [Admissions.call]
  split <;> simp

theorem assign_connection {change : Connection → Connection} {other : Nat} {after : Connection}
    (stored : (state.assign id change).connections[other]? = some after) :
    ∃ before, state.connections[other]? = some before ∧
      after = if id = other then change before else before := by
  simp only [assign, List.getElem?_modify] at stored
  cases found : state.connections[other]? with
  | none => simp [found] at stored
  | some before =>
      simp only [found, Option.map_eq_map, Option.map_some, Option.some.injEq] at stored
      exact ⟨before, rfl, stored.symm⟩

/-- What a change of sockets and handlers leaves alone. -/
structure SocketsOnly (before after : Connection) : Prop where
  ingressPort : after.ingressPort = before.ingressPort
  lease : after.lease = before.lease
  routeClosers : after.routeClosers = before.routeClosers
  finished : after.finished = before.finished
  client : before.client = .destroyed → after.client = .destroyed

theorem Sound.assign (sound : state.Sound) {change : Connection → Connection}
    (sockets : ∀ connection, SocketsOnly connection (change connection)) :
    (state.assign id change).Sound := by
  have kept : ∀ {other : Nat} {after : Connection},
      (state.assign id change).connections[other]? = some after →
      ∃ before, state.connections[other]? = some before ∧ SocketsOnly before after := by
    intro other after stored
    obtain ⟨before, found, rfl⟩ := assign_connection stored
    refine ⟨before, found, ?_⟩
    split
    · exact sockets before
    · exact ⟨rfl, rfl, rfl, rfl, fun closed => closed⟩
  constructor
  · intro other after stored
    obtain ⟨before, found, same⟩ := kept stored
    have tracked := sound.tracked found
    constructor
    · rw [same.routeClosers]
      exact tracked.set
    · rw [same.finished, same.routeClosers, same.ingressPort]
      exact tracked.waiting
    · rw [same.lease, same.finished]
      exact tracked.lease
    · rw [same.lease, same.finished]
      exact tracked.released
    · rw [same.finished]
      exact fun finished => same.client (tracked.client finished)
  · exact sound.mapped
  · intro closers other waiting
    obtain ⟨before, found, set, unfinished⟩ := sound.unfinished waiting
    refine ⟨if id = other then change before else before, ?_, ?_⟩
    · simp only [TCPConnections.assign, List.getElem?_modify, found]
      rfl
    · split
      · rw [(sockets before).routeClosers, (sockets before).finished]
        exact ⟨set, unfinished⟩
      · exact ⟨set, unfinished⟩
  · intro first second connection another stored storedToo same
    obtain ⟨_, found, kept₁⟩ := kept stored
    obtain ⟨_, foundToo, kept₂⟩ := kept storedToo
    exact sound.own found foundToo (kept₁.lease.symm.trans (same.trans kept₂.lease))
  · exact sound.issued

theorem finish_of_finished (stored : state.connections[id]? = some connection)
    (finished : connection.finished = true) : state.finish id = state := by
  simp only [finish, stored, finished, if_true]

/-- The state after the first `finish` of a connection, table by table. -/
structure Finishes (before : TCPConnections) (id : Nat) (connection : Connection)
    (after : TCPConnections) : Prop where
  table : ∀ other, after.connections[other]? =
    if other = id then some connection.ended else before.connections[other]?
  sets : after.closerSets.length = before.closerSets.length
  members : ∀ closers, after.members closers =
    if closers = connection.routeClosers then (before.members closers).filter (· ≠ id)
    else before.members closers
  mapped : after.connectionClosersByPort =
    if (before.members connection.routeClosers).filter (· ≠ id) = [] then
      before.connectionClosersByPort.erase connection.ingressPort
    else before.connectionClosersByPort
  admissions : after.admissions = before.admissions.call (.release connection.lease)
  releases : after.releases = before.releases ++ [connection.lease]

theorem finishes (stored : state.connections[id]? = some connection)
    (unfinished : connection.finished = false)
    (known : connection.routeClosers < state.closerSets.length) :
    Finishes state id connection (state.finish id) := by
  obtain ⟨within, _⟩ := List.getElem?_eq_some_iff.mp stored
  constructor
  · intro other
    simp only [finish, stored, unfinished, Bool.false_eq_true, if_false, List.getElem?_set, within,
      if_true, eq_comm (a := id)]
  · simp only [finish, stored, unfinished, Bool.false_eq_true, if_false, List.length_set]
  · intro closers
    simp only [finish, stored, unfinished, Bool.false_eq_true, if_false, members,
      List.getD_eq_getElem?_getD, List.getElem?_set, known, if_true,
      eq_comm (a := connection.routeClosers)]
    by_cases same : closers = connection.routeClosers
    · rw [if_pos same, if_pos same, same, Option.getD_some]
    · rw [if_neg same, if_neg same]
  · simp only [finish, stored, unfinished, Bool.false_eq_true, if_false, List.length_eq_zero_iff]
  · simp only [finish, stored, unfinished, Bool.false_eq_true, if_false]
  · simp only [finish, stored, unfinished, Bool.false_eq_true, if_false]

theorem Tracked.issued (tracked : state.Tracked id connection) :
    connection.lease < state.admissions.leases.length := by
  by_contra outside
  have lease := tracked.lease
  rw [List.getElem?_eq_none (by omega)] at lease
  cases lease

theorem Tracked.ended {after : TCPConnections} (tracked : state.Tracked id connection)
    (unfinished : connection.finished = false) (step : Finishes state id connection after) :
    after.Tracked id connection.ended where
  set := by
    rw [step.sets]
    exact tracked.set
  waiting finished := by cases finished
  lease := by
    have lease := tracked.lease
    rw [step.admissions, released_leases]
    show (state.admissions.leases[connection.lease]?).map _ = some true
    cases held : state.admissions.leases[connection.lease]? with
    | none =>
        rw [held] at lease
        cases lease
    | some found => simp [Connection.ended]
  released := by
    have count := tracked.released
    rw [unfinished] at count
    rw [step.releases]
    show (state.releases ++ [connection.lease]).count connection.lease = 1
    rw [List.count_append, List.count_singleton_self, count]
    rfl
  client _ := rfl

/-- Another connection of the port keeps the map entry alive. -/
theorem Tracked.beside {after : TCPConnections} {other : Nat} {found : Connection}
    (tracked : state.Tracked other found)
    (waiting : connection.finished = false →
      state.connectionClosersByPort.lookup connection.ingressPort = some connection.routeClosers ∧
        id ∈ state.members connection.routeClosers)
    (unfinished : connection.finished = false) (step : Finishes state id connection after)
    (different : other ≠ id) (leases : found.lease ≠ connection.lease) :
    after.Tracked other found where
  set := by
    rw [step.sets]
    exact tracked.set
  waiting stillOpen := by
    obtain ⟨port, place⟩ := tracked.waiting stillOpen
    have stays : other ∈ after.members found.routeClosers := by
      rw [step.members]
      split
      · exact List.mem_filter.mpr ⟨place, decide_eq_true different⟩
      · exact place
    refine ⟨?_, stays⟩
    rw [step.mapped]
    split
    · rename_i empty
      rw [AList.lookup_erase_ne, port]
      intro samePort
      rw [samePort, (waiting unfinished).1, Option.some.injEq] at port
      rw [step.members, if_pos port.symm, ← port, empty] at stays
      exact List.not_mem_nil stays
    · exact port
  lease := by
    rw [step.admissions, released_leases, ← tracked.lease]
    simp [leases.symm]
  released := by
    have apart : [connection.lease].count found.lease = 0 := by
      rw [List.count_singleton, if_neg (by simpa using leases.symm)]
    rw [step.releases, List.count_append, apart, tracked.released, Nat.add_zero]
  client := tracked.client

theorem Sound.finish (sound : state.Sound) (id : Nat) : Sound (state.finish id) := by
  cases stored : state.connections[id]? with
  | none => simpa only [TCPConnections.finish, stored] using sound
  | some connection =>
      cases ended : connection.finished with
      | true =>
          rw [finish_of_finished stored ended]
          exact sound
      | false =>
          have own := sound.tracked stored
          obtain ⟨port, place⟩ := own.waiting ended
          have step := finishes stored ended own.set
          generalize state.finish id = after at step
          have before : ∀ {other : Nat} {found : Connection},
              after.connections[other]? = some found →
              (other = id ∧ found = connection.ended) ∨
                (other ≠ id ∧ state.connections[other]? = some found) := by
            intro other found held
            rw [step.table] at held
            split at held
            · exact .inl ⟨‹_›, (Option.some.inj held).symm⟩
            · exact .inr ⟨‹_›, held⟩
          constructor
          · intro other found held
            rcases before held with ⟨rfl, rfl⟩ | ⟨different, kept⟩
            · exact own.ended ended step
            · exact (sound.tracked kept).beside own.waiting ended step different
                fun same => different (sound.own kept stored same)
          · intro port closers found
            rw [step.sets]
            rw [step.mapped] at found
            split at found
            · by_cases same : port = connection.ingressPort
              · rw [same, AList.lookup_erase] at found
                cases found
              · rw [AList.lookup_erase_ne same] at found
                exact sound.mapped found
            · exact sound.mapped found
          · intro closers other waiting
            have old : other ∈ state.members closers ∧
                (closers = connection.routeClosers → other ≠ id) := by
              rw [step.members] at waiting
              split at waiting
              · rw [List.mem_filter] at waiting
                exact ⟨waiting.1, fun _ => of_decide_eq_true waiting.2⟩
              · exact ⟨waiting, fun same => absurd same ‹_›⟩
            obtain ⟨found, held, set, unfinished⟩ := sound.unfinished old.1
            have different : other ≠ id := by
              rintro rfl
              rw [stored] at held
              cases held
              exact old.2 set.symm rfl
            exact ⟨found, by rw [step.table, if_neg different, held], set, unfinished⟩
          · intro first second one another held heldToo same
            rcases before held with ⟨rfl, rfl⟩ | ⟨_, kept⟩ <;>
              rcases before heldToo with ⟨rfl, rfl⟩ | ⟨_, keptToo⟩
            · rfl
            · exact sound.own stored keptToo same
            · exact sound.own kept stored same
            · exact sound.own kept keptToo same
          · intro lease logged
            rw [step.admissions, released_length]
            rw [step.releases, List.mem_append, List.mem_singleton] at logged
            rcases logged with old | rfl
            · exact sound.issued lease old
            · exact own.issued

theorem Unleaked.assign (unleaked : state.Unleaked) {change : Connection → Connection}
    (closes : ∀ connection ∈ state.connections[id]?, (change connection).finished →
      connection.finished ∧ ((change connection).worker = some .opened →
        connection.worker = some .opened)) : (state.assign id change).Unleaked := by
  intro other after stored finished opened
  obtain ⟨before, found, rfl⟩ := assign_connection stored
  split at finished
  · rename_i same
    subst same
    rw [if_pos rfl] at opened
    obtain ⟨wasFinished, wasOpened⟩ := closes before found finished
    exact unleaked id before found wasFinished (wasOpened opened)
  · rename_i different
    rw [if_neg different] at opened
    exact unleaked other before found finished opened

theorem Unleaked.finish (unleaked : state.Unleaked) (sound : state.Sound) (id : Nat) :
    Unleaked (state.finish id) := by
  cases stored : state.connections[id]? with
  | none => simpa only [TCPConnections.finish, stored] using unleaked
  | some connection =>
      cases ended : connection.finished with
      | true =>
          rw [finish_of_finished stored ended]
          exact unleaked
      | false =>
          have step := finishes stored ended (sound.tracked stored).set
          intro other found held finished
          rw [step.table] at held
          split at held
          · cases held
            simp [Connection.ended]
          · exact unleaked other found held finished

/-- The state after an admitted client, table by table. -/
structure Joins (before : TCPConnections) (ingressPort : Int) (closers : Nat)
    (after : TCPConnections) : Prop where
  connections : after.connections = before.connections ++
    [{ ingressPort, lease := before.admissions.leases.length, routeClosers := closers }]
  known : closers < after.closerSets.length
  sets : before.closerSets.length ≤ after.closerSets.length
  members : ∀ set, after.members set =
    if set = closers then before.members set ++ [before.connections.length] else before.members set
  mapped : after.connectionClosersByPort =
    before.connectionClosersByPort.insert ingressPort closers
  chosen : ∀ other, before.connectionClosersByPort.lookup ingressPort = some other → other = closers
  leases : ∃ lease : PublicationConnectionLease, lease.released = false ∧
    after.admissions.leases = before.admissions.leases ++ [lease]
  releases : after.releases = before.releases

theorem members_modify (sets : List (List Nat)) (closers id set : Nat)
    (known : closers < sets.length) :
    (sets.modify closers (· ++ [id])).getD set [] =
      if set = closers then sets.getD set [] ++ [id] else sets.getD set [] := by
  rw [List.getD_eq_getElem?_getD, List.getElem?_modify, List.getD_eq_getElem?_getD]
  by_cases same : closers = set
  · subst same
    simp [known]
  · simp only [if_neg same, if_neg (Ne.symm same)]
    cases sets[set]? <;> rfl

theorem handle_cases (sound : state.Sound) (ingressPort : Int) (route : Option TCPIngressRoute) :
    (∃ limiter, state.handle ingressPort route =
      { state with admissions := { state.admissions with limiter } }) ∨
    ∃ closers, Joins state ingressPort closers (state.handle ingressPort route) := by
  cases route with
  | none => exact .inl ⟨state.admissions.limiter, rfl⟩
  | some route =>
      simp only [handle]
      split
      · rename_i limiter _
        exact .inl ⟨limiter, rfl⟩
      · rename_i lease limiter granted
        have held : lease.released = false := by
          unfold PublicationConnectionLimiter.tryAcquire at granted
          simp only at granted
          split at granted
          · cases granted
          · cases granted
            rfl
        right
        cases port : state.connectionClosersByPort.lookup ingressPort with
        | some closers =>
            have known := sound.mapped port
            exact ⟨closers, {
              connections := rfl
              known := by simpa using known
              sets := by simp
              members := fun set => members_modify _ _ _ _ known
              mapped := rfl
              chosen := fun other same => (Option.some.inj (port.symm.trans same)).symm
              leases := ⟨lease, held, rfl⟩
              releases := rfl }⟩
        | none =>
            refine ⟨state.closerSets.length, {
              connections := rfl
              known := by simp
              sets := by simp
              members := ?_
              mapped := rfl
              chosen := fun other same => by
                rw [port] at same
                cases same
              leases := ⟨lease, held, rfl⟩
              releases := rfl }⟩
            intro set
            have fresh : (state.closerSets ++ [[]]).getD set [] = state.members set := by
              simp only [members, List.getD_eq_getElem?_getD, List.getElem?_append]
              split
              · rfl
              · rename_i outside
                have beyond : state.closerSets[set]? = none := List.getElem?_eq_none (by omega)
                rw [beyond]
                cases set - state.closerSets.length <;> rfl
            simp only [members] at fresh ⊢
            rw [members_modify _ _ _ _ (by simp), fresh]

theorem Joins.cases {ingressPort : Int} {closers other : Nat} {after : TCPConnections}
    {found : Connection} (joins : Joins state ingressPort closers after)
    (held : after.connections[other]? = some found) :
    state.connections[other]? = some found ∨ other = state.connections.length ∧
      found = { ingressPort, lease := state.admissions.leases.length, routeClosers := closers } := by
  rw [joins.connections, List.getElem?_append] at held
  split at held
  · exact .inl held
  · rename_i outside
    cases place : other - state.connections.length with
    | zero =>
        rw [place] at held
        exact .inr ⟨by omega, (Option.some.inj held).symm⟩
    | succ _ =>
        rw [place] at held
        cases held

/-- A connection that was there before keeps its place. -/
theorem Tracked.joined {ingressPort : Int} {closers other : Nat} {after : TCPConnections}
    {found : Connection} (tracked : state.Tracked other found)
    (joins : Joins state ingressPort closers after) : after.Tracked other found where
  set := tracked.set.trans_le joins.sets
  waiting := by
    intro unfinished
    obtain ⟨port, place⟩ := tracked.waiting unfinished
    constructor
    · rw [joins.mapped]
      by_cases same : found.ingressPort = ingressPort
      · rw [same] at port ⊢
        rw [AList.lookup_insert, joins.chosen _ port]
      · rw [AList.lookup_insert_ne same, port]
    · rw [joins.members]
      split
      · exact List.mem_append_left _ place
      · exact place
  lease := by
    obtain ⟨lease, _, leases⟩ := joins.leases
    rw [leases, List.getElem?_append_left tracked.issued, tracked.lease]
  released := by rw [joins.releases, tracked.released]
  client := tracked.client

/-- The admitted client waits for its worker. -/
theorem Joins.tracked {ingressPort : Int} {closers : Nat} {after : TCPConnections}
    (joins : Joins state ingressPort closers after) (sound : state.Sound) :
    after.Tracked state.connections.length
      { ingressPort, lease := state.admissions.leases.length, routeClosers := closers } where
  set := joins.known
  waiting := by
    intro _
    rw [joins.mapped, joins.members, if_pos rfl, AList.lookup_insert]
    exact ⟨rfl, List.mem_append_right _ List.mem_cons_self⟩
  lease := by
    obtain ⟨lease, held, leases⟩ := joins.leases
    rw [leases, List.getElem?_concat_length]
    exact congrArg some held
  released := by
    rw [joins.releases]
    exact List.count_eq_zero.mpr fun logged => (sound.issued _ logged).false
  client finished := by cases finished

theorem Sound.joins {ingressPort : Int} {closers : Nat} {after : TCPConnections}
    (sound : state.Sound) (joins : Joins state ingressPort closers after) : after.Sound := by
  have kept : ∀ {other : Nat} {found : Connection}, state.connections[other]? = some found →
      after.connections[other]? = some found := by
    intro other found stored
    obtain ⟨within, _⟩ := List.getElem?_eq_some_iff.mp stored
    rw [joins.connections, List.getElem?_append_left within, stored]
  constructor
  · intro other found stored
    rcases joins.cases stored with old | ⟨rfl, rfl⟩
    · exact (sound.tracked old).joined joins
    · exact joins.tracked sound
  · intro port set mapped
    rw [joins.mapped] at mapped
    by_cases same : port = ingressPort
    · rw [same, AList.lookup_insert] at mapped
      cases mapped
      exact joins.known
    · rw [AList.lookup_insert_ne same] at mapped
      exact (sound.mapped mapped).trans_le joins.sets
  · intro set other waiting
    rw [joins.members] at waiting
    have split : other ∈ state.members set ∨ set = closers ∧ other = state.connections.length := by
      split at waiting
      · rcases List.mem_append.mp waiting with old | new
        · exact .inl old
        · exact .inr ⟨‹_›, List.mem_singleton.mp new⟩
      · exact .inl waiting
    rcases split with old | ⟨rfl, rfl⟩
    · obtain ⟨found, stored, place, unfinished⟩ := sound.unfinished old
      exact ⟨found, kept stored, place, unfinished⟩
    · exact ⟨_, by rw [joins.connections, List.getElem?_concat_length], rfl, rfl⟩
  · intro first second one another stored storedToo same
    rcases joins.cases stored with old | ⟨rfl, rfl⟩ <;>
      rcases joins.cases storedToo with oldToo | ⟨rfl, rfl⟩
    · exact sound.own old oldToo same
    · exact absurd same (sound.tracked old).issued.ne
    · exact absurd same.symm (sound.tracked oldToo).issued.ne
    · rfl
  · intro lease logged
    obtain ⟨_, _, leases⟩ := joins.leases
    rw [joins.releases] at logged
    rw [leases, List.length_append]
    exact (sound.issued lease logged).trans_le (Nat.le_add_right _ _)

theorem Unleaked.joins {ingressPort : Int} {closers : Nat} {after : TCPConnections}
    (unleaked : state.Unleaked) (joins : Joins state ingressPort closers after) :
    after.Unleaked := by
  intro other found stored finished
  rcases joins.cases stored with old | ⟨_, rfl⟩
  · exact unleaked other found old finished
  · cases finished

theorem Sound.refuse (sound : state.Sound) (limiter : PublicationConnectionLimiter) :
    Sound { state with admissions := { state.admissions with limiter } } where
  tracked stored :=
    have tracked := sound.tracked stored
    ⟨tracked.set, tracked.waiting, tracked.lease, tracked.released, tracked.client⟩
  mapped := sound.mapped
  unfinished := sound.unfinished
  own := sound.own
  issued := sound.issued

structure Clean (state : TCPConnections) : Prop where
  sound : state.Sound
  unleaked : state.Unleaked

theorem Clean.finish (clean : state.Clean) (id : Nat) : Clean (state.finish id) :=
  ⟨clean.sound.finish id, clean.unleaked.finish clean.sound id⟩

theorem Clean.handled (clean : state.Clean) (id : Nat) : Clean (state.handled id) := by
  unfold TCPConnections.handled
  split
  · exact clean.finish id
  · exact clean

theorem Clean.assign (clean : state.Clean) {change : Connection → Connection}
    (sockets : ∀ connection, SocketsOnly connection (change connection))
    (closes : ∀ connection : Connection, (change connection).worker = some .opened →
      connection.worker = some .opened) : Clean (state.assign id change) := by
  refine ⟨clean.sound.assign sockets, clean.unleaked.assign ?_⟩
  intro connection _ finished
  rw [(sockets connection).finished] at finished
  exact ⟨finished, closes connection⟩

theorem Clean.closeConnections (clean : state.Clean) (ingressPort : Int) :
    Clean (state.closeConnections ingressPort) := by
  unfold TCPConnections.closeConnections
  generalize state.closersOf ingressPort = closers
  induction closers generalizing state with
  | nil => exact clean
  | cons id rest ih => exact ih (clean.finish id)

theorem Clean.receive (clean : state.Clean) {event : ConnectionEvent}
    (timely : state.Timely event) : Clean (state.receive event) := by
  cases event with
  | connect ingressPort route =>
      rcases handle_cases clean.sound ingressPort route with ⟨limiter, same⟩ | ⟨closers, joins⟩
      · exact Eq.mpr (congrArg Clean same) ⟨clean.sound.refuse limiter, clean.unleaked⟩
      · exact ⟨clean.sound.joins joins, clean.unleaked.joins joins⟩
  | tunnelOpened id =>
      refine ⟨clean.sound.assign fun _ => ⟨rfl, rfl, rfl, rfl, fun closed => closed⟩,
        clean.unleaked.assign ?_⟩
      intro connection stored finished
      rw [timely connection stored] at finished
      cases finished
  | tunnelFailed id =>
      apply Clean.finish
      apply clean.assign
      · exact fun _ => ⟨rfl, rfl, rfl, rfl, fun closed => closed⟩
      · exact fun _ opened => opened
  | clientError id | clientClose id =>
      apply Clean.handled
      apply clean.assign
      · exact fun _ => ⟨rfl, rfl, rfl, rfl, fun _ => rfl⟩
      · exact fun _ opened => opened
  | workerError id | workerClose id =>
      apply Clean.handled
      apply clean.assign
      · exact fun _ => ⟨rfl, rfl, rfl, rfl, fun closed => closed⟩
      · intro connection opened
        cases held : connection.worker <;> simp [held] at opened
  | clientTimeout id => exact clean.finish id
  | workerTimeout id => exact clean.handled id
  | clientData id consumed | workerData id consumed =>
      cases consumed with
      | true => exact clean
      | false => exact clean.handled id
  | deactivate ingressPort => exact clean.closeConnections ingressPort

theorem clean_initial (initial : connectionSystem.Initial state) : state.Clean := by
  obtain ⟨limits, limiter, _, rfl⟩ := initial
  refine ⟨⟨?_, ?_, ?_, ?_, ?_⟩, ?_⟩
  · intro id connection stored
    cases stored
  · intro port closers mapped
    cases mapped
  · intro closers id member
    cases member
  · intro id other connection another stored
    cases stored
  · intro lease logged
    cases logged
  · intro id connection stored
    cases stored

/-- A tunnel that opens for a finished connection leaves its worker socket open. -/
theorem timely_of_leaksNothing {event : ConnectionEvent} (enabled : state.CanReceive event)
    (clean : (state.receive event).LeaksNothing) : state.Timely event := by
  cases event with
  | tunnelOpened id =>
      intro connection stored
      obtain ⟨same, found, opening⟩ := enabled
      cases finished : connection.finished with
      | false => rfl
      | true =>
          have after : (state.receive (.tunnelOpened id)).connections[id]? =
              some { connection with
                worker := some .opened, tunnel := .opened, attached := !connection.finished } := by
            simp only [receive, assign, List.getElem?_modify, Option.mem_def.mp stored]
            rfl
          have settled := (clean id _ after).destroyed finished (by simp)
          exact absurd rfl settled.2.1
  | _ => trivial

end TCPConnections

def tenConnections : TCPConnections :=
  { admissions := .start { limits := ⟨10, 10, 10, 10⟩ } }

def postgresRoute : TCPIngressRoute :=
  { routeId := "postgres"
    ingressPort := 20000
    workspaceId := "workspace"
    organizationId := "acme"
    workerId := "worker"
    targetPort := 5432 }

end NebulaCloud.Ingress
