import NebulaCloud.Data.System
import NebulaCloud.Data.Tally
import NebulaCloud.Data.Transaction
import NebulaCloud.Platform.Text

namespace NebulaCloud.Ingress

/-! The counts that bound the open connections of published services. -/

open NebulaCloud.Data NebulaCloud.Platform

structure PublicationConnectionLimits where
  global : Int
  perWorker : Int
  perOrganization : Int
  perRoute : Int
deriving DecidableEq

structure PublicationConnectionScope where
  workerId : String
  organizationId : String
  routeId : String
deriving DecidableEq

structure PublicationConnectionLease where
  scope : PublicationConnectionScope
  released : Bool := false
deriving DecidableEq

structure PublicationConnectionLimiter where
  limits : PublicationConnectionLimits
  workers : Counts String := ∅
  organizations : Counts String := ∅
  routes : Counts String := ∅
  global : Int := 0
deriving DecidableEq

def positiveLimit (value : Int) (field : String) : Except String Int :=
  if ¬ (IsNonNegativeSafeInteger value ∧ 1 ≤ value) then
    .error (field ++ " must be a positive safe integer")
  else .ok value

def PublicationConnectionLimiter.create (limits : PublicationConnectionLimits) :
    Except String PublicationConnectionLimiter := do
  let global ← positiveLimit limits.global "global connection limit"
  let perWorker ← positiveLimit limits.perWorker "per-worker connection limit"
  let perOrganization ← positiveLimit limits.perOrganization "per-organization connection limit"
  let perRoute ← positiveLimit limits.perRoute "per-route connection limit"
  if perWorker > global ∨ perOrganization > global ∨ perRoute > global then
    .error "Scoped publication connection limits cannot exceed the global limit"
  else .ok { limits := { global, perWorker, perOrganization, perRoute } }

def decrement (counts : Counts String) (key : String) : Counts String :=
  let remaining := (counts.lookup key).getD 1 - 1
  if remaining > 0 then counts.insert key remaining else counts.erase key

namespace PublicationConnectionLimiter

variable (limiter : PublicationConnectionLimiter) (scope : PublicationConnectionScope)

/-- The lease, or none, and the limiter after the call. -/
def tryAcquire : Option PublicationConnectionLease × PublicationConnectionLimiter :=
  let worker := limiter.workers.count scope.workerId
  let organization := limiter.organizations.count scope.organizationId
  let route := limiter.routes.count scope.routeId
  if limiter.global ≥ limiter.limits.global ∨ worker ≥ limiter.limits.perWorker ∨
      organization ≥ limiter.limits.perOrganization ∨ route ≥ limiter.limits.perRoute then
    (none, limiter)
  else
    (some { scope }, { limiter with
      global := limiter.global + 1
      workers := limiter.workers.insert scope.workerId (worker + 1)
      organizations := limiter.organizations.insert scope.organizationId (organization + 1)
      routes := limiter.routes.insert scope.routeId (route + 1) })

/-- `release` of a lease that this limiter handed out. -/
def release (lease : PublicationConnectionLease) :
    PublicationConnectionLease × PublicationConnectionLimiter :=
  if lease.released then (lease, limiter)
  else
    ({ lease with released := true }, { limiter with
      global := limiter.global - 1
      workers := decrement limiter.workers lease.scope.workerId
      organizations := decrement limiter.organizations lease.scope.organizationId
      routes := decrement limiter.routes lease.scope.routeId })

/-- One of the four counts that the scope falls under is at its limit. -/
def AtLimit : Prop :=
  limiter.global = limiter.limits.global ∨
    limiter.workers.count scope.workerId = limiter.limits.perWorker ∨
    limiter.organizations.count scope.organizationId = limiter.limits.perOrganization ∨
    limiter.routes.count scope.routeId = limiter.limits.perRoute

end PublicationConnectionLimiter

/-! ## A limiter and the leases that it handed out -/

structure Admissions where
  limiter : PublicationConnectionLimiter
  leases : List PublicationConnectionLease := []
deriving DecidableEq

inductive LimiterCall
  | tryAcquire (scope : PublicationConnectionScope)
  | release (lease : Nat)

def Admissions.call (state : Admissions) : LimiterCall → Admissions
  | .tryAcquire scope =>
      match state.limiter.tryAcquire scope with
      | (none, limiter) => { state with limiter }
      | (some lease, limiter) => { limiter, leases := state.leases ++ [lease] }
  | .release index =>
      match state.leases[index]? with
      | none => state
      | some lease =>
          let (lease, limiter) := state.limiter.release lease
          { limiter, leases := state.leases.set index lease }

def Admissions.start (limiter : PublicationConnectionLimiter) : Admissions := { limiter }

def limiterSystem : System Admissions LimiterCall where
  Initial state := ∃ limits, (PublicationConnectionLimiter.create limits).map .start = .ok state
  Enabled state event := ∀ index, event = .release index → index < state.leases.length
  step := Admissions.call

/-- The scopes of the leases that are held. -/
def Admissions.live (state : Admissions) : List PublicationConnectionScope :=
  (state.leases.filter fun lease => !lease.released).map (·.scope)

/-- The counts tell the live leases, and none is out of its range. -/
structure Admissions.Accounted (state : Admissions) : Prop where
  global : state.limiter.global = state.live.length
  worker : ∀ workerId, state.limiter.workers.count workerId =
    state.live.countP fun scope => scope.workerId = workerId
  organization : ∀ organizationId, state.limiter.organizations.count organizationId =
    state.live.countP fun scope => scope.organizationId = organizationId
  route : ∀ routeId, state.limiter.routes.count routeId =
    state.live.countP fun scope => scope.routeId = routeId
  globalBounds : 0 ≤ state.limiter.global ∧ state.limiter.global ≤ state.limiter.limits.global
  workerBounds : ∀ workerId, 0 ≤ state.limiter.workers.count workerId ∧
    state.limiter.workers.count workerId ≤ state.limiter.limits.perWorker
  organizationBounds : ∀ organizationId,
    0 ≤ state.limiter.organizations.count organizationId ∧
    state.limiter.organizations.count organizationId ≤ state.limiter.limits.perOrganization
  routeBounds : ∀ routeId, 0 ≤ state.limiter.routes.count routeId ∧
    state.limiter.routes.count routeId ≤ state.limiter.limits.perRoute

theorem positiveLimit_ok {value result : Int} {field : String}
    (checked : positiveLimit value field = .ok result) : result = value ∧ 1 ≤ value := by
  unfold positiveLimit at checked
  split at checked
  · cases checked
  · rename_i valid
    cases checked
    exact ⟨rfl, (not_not.mp valid).2⟩

theorem PublicationConnectionLimiter.create_ok {limits : PublicationConnectionLimits}
    {limiter : PublicationConnectionLimiter}
    (created : PublicationConnectionLimiter.create limits = .ok limiter) :
    limiter = { limits } ∧ 1 ≤ limits.global ∧ 1 ≤ limits.perWorker ∧ 1 ≤ limits.perOrganization ∧
      1 ≤ limits.perRoute := by
  simp only [PublicationConnectionLimiter.create] at created
  obtain ⟨global, globalOk, created⟩ := bind_ok.mp created
  obtain ⟨perWorker, workerOk, created⟩ := bind_ok.mp created
  obtain ⟨perOrganization, organizationOk, created⟩ := bind_ok.mp created
  obtain ⟨perRoute, routeOk, created⟩ := bind_ok.mp created
  obtain ⟨rfl, globalPositive⟩ := positiveLimit_ok globalOk
  obtain ⟨rfl, workerPositive⟩ := positiveLimit_ok workerOk
  obtain ⟨rfl, organizationPositive⟩ := positiveLimit_ok organizationOk
  obtain ⟨rfl, routePositive⟩ := positiveLimit_ok routeOk
  split at created
  · cases created
  · cases created
    exact ⟨rfl, globalPositive, workerPositive, organizationPositive, routePositive⟩

/-! ## One counter -/

theorem tallies_acquired {counts : Counts String} {bag : List String} (tallies : Tallies counts bag)
    (key : String) : Tallies (counts.insert key (counts.count key + 1)) (bag ++ [key]) := by
  have counted : ((bag ++ [key]).count key : Int) = counts.count key + 1 := by
    rw [tallies.count_eq, List.count_append, List.count_singleton_self]
    push_cast
    rfl
  rw [← counted]
  refine tallies.insert (fun other different => ?_) ?_
  · rw [List.count_append, List.count_singleton, if_neg (by simpa using different.symm)]
    rfl
  · simp

/-- Each held key has an entry, so the default of the lookup never shows. -/
theorem tallies_decrement {counts : Counts String} {before after : List String} {key : String}
    (tallies : Tallies counts (before ++ key :: after)) :
    Tallies (decrement counts key) (before ++ after) := by
  have stored := tallies.lookup_of_mem (show key ∈ before ++ key :: after by simp)
  have counted : ((before ++ key :: after).count key : Int) = (before ++ after).count key + 1 := by
    simp only [List.count_append, List.count_cons_self]
    push_cast
    omega
  have others : ∀ other, other ≠ key →
      (before ++ after).count other = (before ++ key :: after).count other := by
    intro other different
    simp only [List.count_append, List.count_cons_of_ne different.symm]
  simp only [decrement, stored, Option.getD_some, counted]
  split
  · rename_i positive
    rw [show ((before ++ after).count key : Int) + 1 - 1 = (before ++ after).count key by omega]
    exact tallies.insert others (by omega)
  · exact tallies.erase others (by omega)

/-! ## The four counters together -/

namespace Admissions

/-- What every call keeps. -/
structure Balanced (limits : PublicationConnectionLimits) (state : Admissions) : Prop where
  configured : state.limiter.limits = limits
  global : state.limiter.global = state.live.length
  worker : Tallies state.limiter.workers (state.live.map (·.workerId))
  organization : Tallies state.limiter.organizations (state.live.map (·.organizationId))
  route : Tallies state.limiter.routes (state.live.map (·.routeId))
  globalWithin : state.limiter.global ≤ limits.global
  workerWithin : ∀ workerId, state.limiter.workers.count workerId ≤ limits.perWorker
  organizationWithin : ∀ organizationId,
    state.limiter.organizations.count organizationId ≤ limits.perOrganization
  routeWithin : ∀ routeId, state.limiter.routes.count routeId ≤ limits.perRoute

variable {limits : PublicationConnectionLimits} {state : Admissions} {scope : PublicationConnectionScope}

theorem balanced_start {limiter : PublicationConnectionLimiter}
    (created : PublicationConnectionLimiter.create limits = .ok limiter) :
    Balanced limits (start limiter) := by
  obtain ⟨rfl, global, worker, organization, route⟩ := PublicationConnectionLimiter.create_ok created
  have empty : ∀ key, Counts.count (∅ : Counts String) key = 0 := fun key => rfl
  exact {
    configured := rfl
    global := rfl
    worker := tallies_nil
    organization := tallies_nil
    route := tallies_nil
    globalWithin := by
      show (0 : Int) ≤ _
      omega
    workerWithin := fun key => (empty key).trans_le (by omega)
    organizationWithin := fun key => (empty key).trans_le (by omega)
    routeWithin := fun key => (empty key).trans_le (by omega) }

theorem live_acquired (state : Admissions) (lease : PublicationConnectionLease) (held : lease.released = false)
    (limiter : PublicationConnectionLimiter) :
    live ⟨limiter, state.leases ++ [lease]⟩ = state.live ++ [lease.scope] := by
  simp [live, held]

/-- The held leases around the one that the call names. -/
theorem live_split {index : Nat} {lease : PublicationConnectionLease}
    (found : state.leases[index]? = some lease) (held : lease.released = false) :
    ∃ before after, state.live = before ++ lease.scope :: after ∧
      ∀ limiter, live ⟨limiter, state.leases.set index { lease with released := true }⟩ =
        before ++ after := by
  obtain ⟨within, found⟩ := List.getElem?_eq_some_iff.mp found
  refine ⟨((state.leases.take index).filter fun lease => !lease.released).map (·.scope),
    ((state.leases.drop (index + 1)).filter fun lease => !lease.released).map (·.scope), ?_, ?_⟩
  · have split : state.leases.take index ++ lease :: state.leases.drop (index + 1) = state.leases := by
      rw [← found, List.getElem_cons_drop, List.take_append_drop]
    calc state.live
        = live ⟨state.limiter, state.leases.take index ++ lease :: state.leases.drop (index + 1)⟩ := by
          rw [split]
      _ = _ := by simp [live, held]
  · intro limiter
    rw [live, List.set_eq_take_append_cons_drop, if_pos within]
    simp

theorem acquire_refused (full : (state.limiter.tryAcquire scope).1 = none) :
    (state.limiter.tryAcquire scope).2 = state.limiter ∧ state.call (.tryAcquire scope) = state := by
  have kept : (state.limiter.tryAcquire scope).2 = state.limiter := by
    unfold PublicationConnectionLimiter.tryAcquire at full ⊢
    simp only at full ⊢
    split
    · rfl
    · rename_i room
      rw [if_neg room] at full
      cases full
  refine ⟨kept, ?_⟩
  rw [call, ← Prod.eta (state.limiter.tryAcquire scope), full, kept]

/-- The lease is granted when no count has reached its limit. -/
theorem acquire_accepted
    (room : (state.limiter.tryAcquire scope).1 ≠ none) :
    (state.limiter.global < state.limiter.limits.global ∧
      state.limiter.workers.count scope.workerId < state.limiter.limits.perWorker ∧
      state.limiter.organizations.count scope.organizationId < state.limiter.limits.perOrganization ∧
      state.limiter.routes.count scope.routeId < state.limiter.limits.perRoute) ∧
    state.call (.tryAcquire scope) =
      { limiter := { state.limiter with
          global := state.limiter.global + 1
          workers := state.limiter.workers.insert scope.workerId
            (state.limiter.workers.count scope.workerId + 1)
          organizations := state.limiter.organizations.insert scope.organizationId
            (state.limiter.organizations.count scope.organizationId + 1)
          routes := state.limiter.routes.insert scope.routeId
            (state.limiter.routes.count scope.routeId + 1) }
        leases := state.leases ++ [{ scope }] } := by
  simp only [call, PublicationConnectionLimiter.tryAcquire] at room ⊢
  split at room
  · exact absurd rfl room
  · rename_i below
    simp only [not_or, not_le, ge_iff_le] at below
    refine ⟨below, ?_⟩
    rw [if_neg (by simpa only [not_or, not_le, ge_iff_le] using below)]

theorem count_insert_le {counts : Counts String} {key : String} {limit : Int}
    (kept : ∀ other, counts.count other ≤ limit) (room : counts.count key < limit) (other : String) :
    Counts.count (counts.insert key (counts.count key + 1)) other ≤ limit := by
  by_cases same : other = key
  · subst same
    rw [Counts.count, AList.lookup_insert, Option.getD_some]
    omega
  · rw [Counts.count, AList.lookup_insert_ne same]
    exact kept other

theorem Balanced.acquire (balanced : Balanced limits state) (scope : PublicationConnectionScope) :
    Balanced limits (state.call (.tryAcquire scope)) := by
  by_cases full : (state.limiter.tryAcquire scope).1 = none
  · rw [(acquire_refused full).2]
    exact balanced
  · obtain ⟨⟨globalRoom, workerRoom, organizationRoom, routeRoom⟩, granted⟩ := acquire_accepted full
    rw [balanced.configured] at globalRoom workerRoom organizationRoom routeRoom
    rw [granted]
    have live := live_acquired state { scope } rfl
    exact {
      configured := balanced.configured
      global := by
        rw [live, List.length_append]
        simp [balanced.global]
      worker := by
        rw [live, List.map_append]
        exact tallies_acquired balanced.worker _
      organization := by
        rw [live, List.map_append]
        exact tallies_acquired balanced.organization _
      route := by
        rw [live, List.map_append]
        exact tallies_acquired balanced.route _
      globalWithin := by
        show state.limiter.global + 1 ≤ limits.global
        omega
      workerWithin := count_insert_le balanced.workerWithin workerRoom
      organizationWithin := count_insert_le balanced.organizationWithin organizationRoom
      routeWithin := count_insert_le balanced.routeWithin routeRoom }

theorem count_decrement_le {counts : Counts String} {before after : List String} {key : String}
    {limit : Int} (tallies : Tallies counts (before ++ key :: after))
    (kept : ∀ other, counts.count other ≤ limit) (other : String) :
    (decrement counts key).count other ≤ limit := by
  have fewer : (before ++ after).count other ≤ (before ++ key :: after).count other :=
    List.Sublist.count_le other ((List.sublist_cons_self key after).append_left before)
  have within := kept other
  rw [tallies.count_eq] at within
  rw [(tallies_decrement tallies).count_eq]
  omega

theorem Balanced.release (balanced : Balanced limits state) (index : Nat) :
    Balanced limits (state.call (.release index)) := by
  cases found : state.leases[index]? with
  | none => simpa only [call, found] using balanced
  | some lease =>
      cases held : lease.released with
      | true =>
          have same : state.leases.set index lease = state.leases := by
            obtain ⟨within, found⟩ := List.getElem?_eq_some_iff.mp found
            rw [← found, List.set_getElem_self]
          simpa only [call, found, PublicationConnectionLimiter.release, held, if_pos, same]
            using balanced
      | false =>
          obtain ⟨before, after, live, released⟩ := live_split found held
          have worker := balanced.worker
          have organization := balanced.organization
          have route := balanced.route
          rw [live, List.map_append, List.map_cons] at worker organization route
          have ended : state.call (.release index) =
              { limiter := { state.limiter with
                  global := state.limiter.global - 1
                  workers := decrement state.limiter.workers lease.scope.workerId
                  organizations := decrement state.limiter.organizations lease.scope.organizationId
                  routes := decrement state.limiter.routes lease.scope.routeId }
                leases := state.leases.set index { lease with released := true } } := by
            simp only [call, found, PublicationConnectionLimiter.release, held, Bool.false_eq_true,
              if_false]
          rw [ended]
          exact {
            configured := balanced.configured
            global := by
              have counted := balanced.global
              rw [live, List.length_append, List.length_cons] at counted
              rw [released, List.length_append]
              push_cast at counted ⊢
              omega
            worker := by
              rw [released, List.map_append]
              exact tallies_decrement worker
            organization := by
              rw [released, List.map_append]
              exact tallies_decrement organization
            route := by
              rw [released, List.map_append]
              exact tallies_decrement route
            globalWithin := by
              have within := balanced.globalWithin
              show state.limiter.global - 1 ≤ limits.global
              omega
            workerWithin := count_decrement_le worker balanced.workerWithin
            organizationWithin := count_decrement_le organization balanced.organizationWithin
            routeWithin := count_decrement_le route balanced.routeWithin }

theorem Balanced.run (balanced : Balanced limits state) (calls : List LimiterCall) :
    Balanced limits (limiterSystem.run state calls) := by
  induction calls generalizing state with
  | nil => exact balanced
  | cons call rest ih =>
      cases call with
      | tryAcquire scope => exact ih (balanced.acquire scope)
      | release index => exact ih (balanced.release index)

theorem Balanced.accounted (balanced : Balanced limits state) : Accounted state := by
  have counted : ∀ (counts : Counts String) (column : PublicationConnectionScope → String),
      Tallies counts (state.live.map column) → ∀ key,
        counts.count key = state.live.countP fun scope => column scope = key := by
    intro counts column tallies key
    rw [tallies.count_eq, List.count_eq_countP, List.countP_map]
    rfl
  have bounds : ∀ (counts : Counts String) (column : PublicationConnectionScope → String)
      (limit : Int), Tallies counts (state.live.map column) → (∀ key, counts.count key ≤ limit) →
        ∀ key, 0 ≤ counts.count key ∧ counts.count key ≤ limit := by
    intro counts column limit tallies within key
    refine ⟨?_, within key⟩
    rw [tallies.count_eq]
    omega
  exact {
    global := balanced.global
    worker := counted _ _ balanced.worker
    organization := counted _ _ balanced.organization
    route := counted _ _ balanced.route
    globalBounds := by
      have counted := balanced.global
      have within := balanced.globalWithin
      rw [balanced.configured]
      omega
    workerBounds := by
      rw [balanced.configured]
      exact bounds _ _ _ balanced.worker balanced.workerWithin
    organizationBounds := by
      rw [balanced.configured]
      exact bounds _ _ _ balanced.organization balanced.organizationWithin
    routeBounds := by
      rw [balanced.configured]
      exact bounds _ _ _ balanced.route balanced.routeWithin }

/-- A call is refused exactly at a limit. -/
theorem Balanced.refused_iff (balanced : Balanced limits state) (scope : PublicationConnectionScope) :
    (state.limiter.tryAcquire scope).1 = none ↔ state.limiter.AtLimit scope := by
  have global := balanced.globalWithin
  have worker := balanced.workerWithin scope.workerId
  have organization := balanced.organizationWithin scope.organizationId
  have route := balanced.routeWithin scope.routeId
  rw [← balanced.configured] at global worker organization route
  unfold PublicationConnectionLimiter.AtLimit PublicationConnectionLimiter.tryAcquire
  simp only
  split
  · rename_i full
    simp only [true_iff]
    omega
  · rename_i room
    simp only [reduceCtorEq, false_iff]
    omega

end Admissions

/-- The limiter's accounting, after any calls. -/
theorem connectionAccounting {limits : PublicationConnectionLimits}
    {limiter : PublicationConnectionLimiter}
    (created : PublicationConnectionLimiter.create limits = .ok limiter)
    (calls : List LimiterCall) :
    let state := limiterSystem.run (.start limiter) calls
    state.limiter.limits = limits ∧ state.Accounted ∧
      ∀ scope, ((state.limiter.tryAcquire scope).1 = none ↔ state.limiter.AtLimit scope) ∧
        (state.limiter.AtLimit scope → (state.limiter.tryAcquire scope).2 = state.limiter ∧
          state.call (.tryAcquire scope) = state) := by
  intro state
  have balanced : state.Balanced limits := (Admissions.balanced_start created).run calls
  refine ⟨balanced.configured, balanced.accounted, fun scope => ⟨balanced.refused_iff scope, ?_⟩⟩
  intro full
  exact Admissions.acquire_refused ((balanced.refused_iff scope).mpr full)

/-- Two routes of one worker: the second connection of the first route is refused
until the first has ended, however often it ends. -/
theorem connectionAccounting_twoRoutes :
    let docs : PublicationConnectionScope := ⟨"worker", "acme", "docs"⟩
    let site : PublicationConnectionScope := ⟨"worker", "acme", "site"⟩
    let state := limiterSystem.run (.start { limits := ⟨3, 2, 2, 1⟩ })
      [.tryAcquire docs, .tryAcquire docs, .tryAcquire site, .release 0, .release 0]
    state.live = [site] ∧ state.Accounted ∧
      ((state.limiter.tryAcquire site).1 = none ↔ state.limiter.AtLimit site) :=
  have accounting := @connectionAccounting ⟨3, 2, 2, 1⟩ { limits := ⟨3, 2, 2, 1⟩ } rfl
    [.tryAcquire ⟨"worker", "acme", "docs"⟩, .tryAcquire ⟨"worker", "acme", "docs"⟩,
      .tryAcquire ⟨"worker", "acme", "site"⟩, .release 0, .release 0]
  ⟨by decide +kernel, accounting.2.1, (accounting.2.2 _).1⟩

end NebulaCloud.Ingress
