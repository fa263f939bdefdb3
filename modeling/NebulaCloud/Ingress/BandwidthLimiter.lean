import NebulaCloud.Data.FixedWindow
import NebulaCloud.Ingress.ConnectionLimiter

namespace NebulaCloud.Ingress

/-! The byte budgets of published services, in fixed windows of four scopes. -/

open NebulaCloud.Data NebulaCloud.Platform

structure PublicationBandwidthLimits where
  windowMs : Int
  globalBytes : Int
  perWorkerBytes : Int
  perOrganizationBytes : Int
  perRouteBytes : Int
deriving DecidableEq

structure Counter where
  windowStartedAt : Int
  bytes : Int
deriving DecidableEq

inductive ScopeKind
  | global
  | worker
  | organization
  | route
deriving DecidableEq

def PublicationBandwidthLimits.bytes (limits : PublicationBandwidthLimits) : ScopeKind → Int
  | .global => limits.globalBytes
  | .worker => limits.perWorkerBytes
  | .organization => limits.perOrganizationBytes
  | .route => limits.perRouteBytes

def PublicationConnectionScope.key (scope : PublicationConnectionScope) : ScopeKind → String
  | .global => "global"
  | .worker => scope.workerId
  | .organization => scope.organizationId
  | .route => scope.routeId

/-- The order in which the scopes are checked and counted. -/
def scopeKinds : List ScopeKind := [.global, .worker, .organization, .route]

structure PublicationBandwidthLimiter where
  limits : PublicationBandwidthLimits
  /-- `#global`, `#workers`, `#organizations` and `#routes`. -/
  counters : ScopeKind → AList fun _ : String => Counter := fun _ => ∅

def positiveInteger (value : Int) (field : String) : Except String Int := positiveLimit value field

def PublicationBandwidthLimiter.create (limits : PublicationBandwidthLimits) :
    Except String PublicationBandwidthLimiter := do
  let windowMs ← positiveInteger limits.windowMs "bandwidth window"
  let globalBytes ← positiveInteger limits.globalBytes "global bandwidth limit"
  let perWorkerBytes ← positiveInteger limits.perWorkerBytes "per-worker bandwidth limit"
  let perOrganizationBytes ←
    positiveInteger limits.perOrganizationBytes "per-organization bandwidth limit"
  let perRouteBytes ← positiveInteger limits.perRouteBytes "per-route bandwidth limit"
  return { limits := { windowMs, globalBytes, perWorkerBytes, perOrganizationBytes, perRouteBytes } }

namespace PublicationBandwidthLimiter

variable (limiter : PublicationBandwidthLimiter) (kind : ScopeKind) (key : String)
  (scope : PublicationConnectionScope) (bytes now : Int)

def write (counters : AList fun _ : String => Counter) : PublicationBandwidthLimiter :=
  { limiter with counters := Function.update limiter.counters kind counters }

/-- A counter whose window is over is deleted. -/
def value : Int × PublicationBandwidthLimiter :=
  match (limiter.counters kind).lookup key with
  | none => (0, limiter)
  | some counter =>
      if now - counter.windowStartedAt ≥ limiter.limits.windowMs then
        (0, limiter.write kind ((limiter.counters kind).erase key))
      else (counter.bytes, limiter)

/-- The conjunction over the scopes: the first that does not fit ends it. -/
def fits : List ScopeKind → PublicationBandwidthLimiter → Bool × PublicationBandwidthLimiter
  | [], limiter => (true, limiter)
  | kind :: rest, limiter =>
      let (value, limiter) := limiter.value kind (scope.key kind) now
      if value + bytes ≤ limiter.limits.bytes kind then fits rest limiter else (false, limiter)

def canConsume : Bool × PublicationBandwidthLimiter :=
  if ¬ IsNonNegativeSafeInteger bytes then (false, limiter)
  else fits scope bytes now scopeKinds limiter

def add : PublicationBandwidthLimiter :=
  let (current, limiter) := limiter.value kind key now
  let known := (limiter.counters kind).lookup key
  limiter.write kind ((limiter.counters kind).insert key
    { windowStartedAt := if current = 0 then now else known.elim now (·.windowStartedAt)
      bytes := current + bytes })

/-- The clock is read again before the chunk is counted. -/
def tryConsume (counted : Int) : Bool × PublicationBandwidthLimiter :=
  match limiter.canConsume scope bytes now with
  | (false, limiter) => (false, limiter)
  | (true, limiter) =>
      if bytes = 0 then (true, limiter)
      else
        (true, scopeKinds.foldl
          (fun limiter kind => limiter.add kind (scope.key kind) bytes counted) limiter)

end PublicationBandwidthLimiter

/-! ## A limiter and the chunks that it accepted -/

structure Chunk where
  time : Int
  scope : PublicationConnectionScope
  bytes : Int
deriving DecidableEq

structure Metered where
  limiter : PublicationBandwidthLimiter
  clock : Int
  /-- Newest first. -/
  accepted : List Chunk := []

inductive BandwidthCall
  | canConsume (scope : PublicationConnectionScope) (bytes now : Int)
  | tryConsume (scope : PublicationConnectionScope) (bytes now counted : Int)
deriving DecidableEq

def Metered.call (state : Metered) : BandwidthCall → Metered
  | .canConsume scope bytes now =>
      { state with limiter := (state.limiter.canConsume scope bytes now).2, clock := now }
  | .tryConsume scope bytes now counted =>
      match state.limiter.tryConsume scope bytes now counted with
      | (false, limiter) => { state with limiter, clock := counted }
      | (true, limiter) =>
          { limiter, clock := counted, accepted := { time := counted, scope, bytes } :: state.accepted }

/-- The clock never goes back. -/
def Metered.InOrder (state : Metered) : BandwidthCall → Prop
  | .canConsume _ _ now => state.clock ≤ now
  | .tryConsume _ _ now counted => state.clock ≤ now ∧ now ≤ counted

instance (state : Metered) : DecidablePred state.InOrder
  | .canConsume _ _ now => inferInstanceAs (Decidable (state.clock ≤ now))
  | .tryConsume _ _ now counted => inferInstanceAs (Decidable (state.clock ≤ now ∧ now ≤ counted))

def bandwidthSystem : System Metered BandwidthCall where
  Initial state := ∃ limits limiter clock, PublicationBandwidthLimiter.create limits = .ok limiter ∧
    state = { limiter, clock }
  Enabled := Metered.InOrder
  step := Metered.call

instance (state : Metered) (call : BandwidthCall) : Decidable (bandwidthSystem.Enabled state call) :=
  inferInstanceAs (Decidable (state.InOrder call))

/-- The accepted bytes of one scope key. -/
def Metered.chunks (state : Metered) (kind : ScopeKind) (key : String) : List Chunk :=
  state.accepted.filter fun chunk => chunk.scope.key kind = key ∧ 0 < chunk.bytes

namespace PublicationBandwidthLimiter

/-- A counter as the window it keeps. -/
def meter (limiter : PublicationBandwidthLimiter) (kind : ScopeKind) (key : String) :
    Option (Int × Int) :=
  ((limiter.counters kind).lookup key).map fun counter => (counter.windowStartedAt, counter.bytes)

/-- The bytes of a scope key in its open window. -/
def used (limiter : PublicationBandwidthLimiter) (kind : ScopeKind) (key : String) (now : Int) : Int :=
  counterUsed limiter.limits.windowMs (limiter.meter kind key) now

/-! ## Reading the counters -/

/-- Nothing changed but that counters over at `now` may be gone. -/
structure Ages (now : Int) (before after : PublicationBandwidthLimiter) : Prop where
  limits : after.limits = before.limits
  kept : ∀ kind key, after.meter kind key = before.meter kind key ∨
    after.meter kind key = none ∧ ∃ startedAt bytes,
      before.meter kind key = some (startedAt, bytes) ∧ startedAt + before.limits.windowMs ≤ now

variable {limiter next last : PublicationBandwidthLimiter} {kind : ScopeKind} {key : String}
  {scope : PublicationConnectionScope} {bytes now : Int}

theorem Ages.refl (now : Int) (limiter : PublicationBandwidthLimiter) : Ages now limiter limiter :=
  ⟨rfl, fun _ _ => .inl rfl⟩

theorem Ages.trans (first : Ages now limiter next) (second : Ages now next last) :
    Ages now limiter last := by
  refine ⟨second.limits.trans first.limits, fun kind key => ?_⟩
  rcases second.kept kind key with same | ⟨gone, startedAt, bytes, known, elapsed⟩
  · rw [same]
    exact first.kept kind key
  · rcases first.kept kind key with same | ⟨none, _⟩
    · rw [same] at known
      rw [first.limits] at elapsed
      exact .inr ⟨gone, startedAt, bytes, known, elapsed⟩
    · rw [none] at known
      cases known

theorem Ages.used (ages : Ages now limiter next) {later : Int} (order : now ≤ later)
    (kind : ScopeKind) (key : String) : next.used kind key later = limiter.used kind key later := by
  unfold PublicationBandwidthLimiter.used
  rw [ages.limits]
  rcases ages.kept kind key with same | ⟨gone, startedAt, bytes, known, elapsed⟩
  · rw [same]
  · rw [gone, known]
    simp only [counterUsed]
    rw [if_neg (by omega)]

theorem meter_write (counters : AList fun _ : String => Counter) (other : ScopeKind) (key : String) :
    (limiter.write kind counters).meter other key =
      if other = kind then (counters.lookup key).map fun counter =>
        (counter.windowStartedAt, counter.bytes)
      else limiter.meter other key := by
  unfold meter write
  by_cases same : other = kind
  · subst same
    simp
  · simp [same]

theorem value_eq (limiter : PublicationBandwidthLimiter) (kind : ScopeKind) (key : String)
    (now : Int) : (limiter.value kind key now).1 = limiter.used kind key now := by
  unfold value used meter counterUsed
  cases (limiter.counters kind).lookup key with
  | none => rfl
  | some counter =>
      simp only [Option.map_some]
      by_cases elapsed : now - counter.windowStartedAt ≥ limiter.limits.windowMs
      · rw [if_pos elapsed, if_neg (by omega)]
      · rw [if_neg elapsed, if_pos (by omega)]

theorem value_ages (limiter : PublicationBandwidthLimiter) (kind : ScopeKind) (key : String)
    (now : Int) : Ages now limiter (limiter.value kind key now).2 := by
  unfold value
  cases known : (limiter.counters kind).lookup key with
  | none => exact .refl now limiter
  | some counter =>
      simp only
      split
      · refine ⟨rfl, fun other name => ?_⟩
        rw [meter_write]
        by_cases same : other = kind
        · subst same
          rw [if_pos rfl]
          by_cases named : name = key
          · subst named
            right
            refine ⟨by rw [AList.lookup_erase]; rfl, counter.windowStartedAt, counter.bytes, ?_, ?_⟩
            · rw [meter, known]
              rfl
            · omega
          · rw [AList.lookup_erase_ne named]
            exact .inl rfl
        · rw [if_neg same]
          exact .inl rfl
      · exact .refl now limiter

theorem fits_spec (scope : PublicationConnectionScope) (bytes now : Int) (kinds : List ScopeKind)
    (limiter : PublicationBandwidthLimiter) :
    ((fits scope bytes now kinds limiter).1 = true ↔
        ∀ kind ∈ kinds, limiter.used kind (scope.key kind) now + bytes ≤ limiter.limits.bytes kind) ∧
      Ages now limiter (fits scope bytes now kinds limiter).2 := by
  induction kinds generalizing limiter with
  | nil => exact ⟨by simp [fits], .refl now limiter⟩
  | cons kind rest ih =>
      have ages := value_ages limiter kind (scope.key kind) now
      have value := value_eq limiter kind (scope.key kind) now
      obtain ⟨accepts, later⟩ := ih (limiter.value kind (scope.key kind) now).2
      simp only [fits, value, ages.limits, List.mem_cons, forall_eq_or_imp]
      split
      · rename_i room
        refine ⟨?_, ages.trans later⟩
        simp only [accepts, ages.used le_rfl, ages.limits, room, true_and]
      · rename_i full
        exact ⟨by simp [full], ages⟩

theorem canConsume_spec (limiter : PublicationBandwidthLimiter) (scope : PublicationConnectionScope)
    (bytes now : Int) : ((limiter.canConsume scope bytes now).1 = true ↔
      IsNonNegativeSafeInteger bytes ∧
        ∀ kind, limiter.used kind (scope.key kind) now + bytes ≤ limiter.limits.bytes kind) ∧
    Ages now limiter (limiter.canConsume scope bytes now).2 := by
  have every : ∀ kind, kind ∈ scopeKinds := by
    intro kind
    cases kind <;> decide
  obtain ⟨accepts, ages⟩ := fits_spec scope bytes now scopeKinds limiter
  unfold canConsume
  split
  · rename_i invalid
    exact ⟨by simp [invalid], .refl now limiter⟩
  · rename_i valid
    refine ⟨?_, ages⟩
    rw [accepts]
    simp [not_not.mp valid, every]

/-! ## Counting a chunk -/

/-- Every counter has counted something. -/
def Counted (limiter : PublicationBandwidthLimiter) : Prop :=
  ∀ kind key startedAt bytes, limiter.meter kind key = some (startedAt, bytes) → 0 < bytes

theorem meter_add (positive : Counted limiter) (kind : ScopeKind) (key : String) (bytes now : Int)
    (other : ScopeKind) (name : String) :
    (limiter.add kind key bytes now).meter other name =
      if other = kind ∧ name = key then
        some (counterStart limiter.limits.windowMs (limiter.meter kind key) now,
          limiter.used kind key now + bytes)
      else limiter.meter other name := by
  have others : ∀ (counters : AList fun _ : String => Counter) (counter : Counter),
      (name ≠ key → counters.lookup name = (limiter.counters kind).lookup name) →
      (limiter.write kind (counters.insert key counter)).meter other name =
        if other = kind ∧ name = key then some (counter.windowStartedAt, counter.bytes)
        else limiter.meter other name := by
    intro counters counter kept
    rw [meter_write]
    by_cases same : other = kind
    · subst same
      by_cases named : name = key
      · subst named
        simp
      · rw [if_pos rfl, AList.lookup_insert_ne named, kept named, if_neg (by simp [named])]
        rfl
    · rw [if_neg same, if_neg (by simp [same])]
  cases known : (limiter.counters kind).lookup key with
  | none =>
      have fresh : limiter.meter kind key = none := by rw [meter, known, Option.map_none]
      have added : limiter.add kind key bytes now = limiter.write kind
          ((limiter.counters kind).insert key { windowStartedAt := now, bytes := 0 + bytes }) := by
        simp only [add, value, known, if_true]
      rw [added, others _ _ fun _ => rfl]
      simp only [used, fresh, counterUsed, counterStart]
  | some counter =>
      have stored : limiter.meter kind key = some (counter.windowStartedAt, counter.bytes) := by
        rw [meter, known, Option.map_some]
      by_cases elapsed : now - counter.windowStartedAt ≥ limiter.limits.windowMs
      · have added : limiter.add kind key bytes now = limiter.write kind
            (((limiter.counters kind).erase key).insert key
              { windowStartedAt := now, bytes := 0 + bytes }) := by
          simp only [add, value, known, if_pos elapsed, if_true, write, Function.update_self,
            Function.update_idem]
        rw [added, others _ _ fun named => AList.lookup_erase_ne named]
        simp only [used, stored, counterUsed, counterStart]
        rw [if_neg (not_lt.mpr elapsed), if_neg (not_lt.mpr elapsed)]
      · have nonzero : counter.bytes ≠ 0 := (positive kind key _ _ stored).ne'
        have added : limiter.add kind key bytes now = limiter.write kind
            ((limiter.counters kind).insert key
              { windowStartedAt := counter.windowStartedAt, bytes := counter.bytes + bytes }) := by
          simp only [add, value, known, if_neg elapsed, if_neg nonzero, Option.elim_some]
        rw [added, others _ _ fun _ => rfl]
        simp only [used, stored, counterUsed, counterStart]
        rw [if_pos (not_le.mp elapsed), if_pos (not_le.mp elapsed)]

theorem limits_add (limiter : PublicationBandwidthLimiter) (kind : ScopeKind) (key : String)
    (bytes now : Int) : (limiter.add kind key bytes now).limits = limiter.limits :=
  (value_ages limiter kind key now).limits

theorem Counted.ages (positive : Counted limiter) (ages : Ages now limiter next) : Counted next := by
  intro kind key startedAt bytes known
  rcases ages.kept kind key with same | ⟨gone, _⟩
  · exact positive kind key startedAt bytes (same.symm.trans known)
  · rw [gone] at known
    cases known

theorem Counted.used_nonneg (positive : Counted limiter) (kind : ScopeKind) (key : String)
    (now : Int) : 0 ≤ limiter.used kind key now := by
  unfold used counterUsed
  cases known : limiter.meter kind key with
  | none => exact le_rfl
  | some counter =>
      have counted := positive kind key _ _ known
      simp only
      split
      · exact counted.le
      · exact le_rfl

theorem Counted.add (positive : Counted limiter) (size : 0 < bytes) (kind : ScopeKind) (key : String)
    (now : Int) : Counted (limiter.add kind key bytes now) := by
  intro other name startedAt total known
  rw [meter_add positive] at known
  split at known
  · have nonneg := positive.used_nonneg kind key now
    cases known
    omega
  · exact positive other name startedAt total known

/-- A chunk counts once in each of its scopes. -/
theorem foldl_add (positive : Counted limiter) (size : 0 < bytes) {kinds : List ScopeKind}
    (distinct : kinds.Nodup) :
    let after := kinds.foldl (fun limiter kind => limiter.add kind (scope.key kind) bytes now) limiter
    Counted after ∧ after.limits = limiter.limits ∧ ∀ kind key, after.meter kind key =
      if kind ∈ kinds ∧ key = scope.key kind then
        some (counterStart limiter.limits.windowMs (limiter.meter kind key) now,
          limiter.used kind key now + bytes)
      else limiter.meter kind key := by
  induction kinds generalizing limiter with
  | nil => exact ⟨positive, rfl, by simp⟩
  | cons first rest ih =>
      obtain ⟨apart, distinct⟩ := List.nodup_cons.mp distinct
      have added := meter_add positive first (scope.key first) bytes now
      have limits := limits_add limiter first (scope.key first) bytes now
      obtain ⟨counted, kept, meters⟩ := ih (positive.add size first (scope.key first) now) distinct
      refine ⟨counted, kept.trans limits, fun kind key => ?_⟩
      rw [List.foldl_cons, meters kind key, limits]
      by_cases own : kind = first
      · subst own
        rw [if_neg (by simp [apart]), added]
        by_cases named : key = scope.key kind
        · subst named
          simp
        · simp [named]
      · have same : (limiter.add first (scope.key first) bytes now).meter kind key =
            limiter.meter kind key := by rw [added, if_neg (by simp [own])]
        simp only [used, limits, same, List.mem_cons, own, false_or]

/-- The chunk is counted in its four scopes. -/
structure Counts (scope : PublicationConnectionScope) (bytes now counted : Int)
    (before after : PublicationBandwidthLimiter) : Prop where
  positive : Counted after
  limits : after.limits = before.limits
  meters : ∃ aged, Ages now before aged ∧ ∀ kind key, after.meter kind key =
    if key = scope.key kind then
      some (counterStart before.limits.windowMs (aged.meter kind key) counted,
        before.used kind key counted + bytes)
    else aged.meter kind key

/-- An accepted chunk counts in its four scopes, a refused one in none. -/
theorem tryConsume_spec (positive : Counted limiter) {counted : Int} (order : now ≤ counted) :
    (limiter.tryConsume scope bytes now counted).1 = (limiter.canConsume scope bytes now).1 ∧
      (((limiter.tryConsume scope bytes now counted).1 = true ∧ 0 < bytes) ∧
          Counts scope bytes now counted limiter (limiter.tryConsume scope bytes now counted).2 ∨
        ¬ ((limiter.tryConsume scope bytes now counted).1 = true ∧ 0 < bytes) ∧
          Ages now limiter (limiter.tryConsume scope bytes now counted).2) := by
  obtain ⟨accepts, ages⟩ := canConsume_spec limiter scope bytes now
  unfold tryConsume
  generalize limiter.canConsume scope bytes now = outcome at accepts ages
  obtain ⟨fits, aged⟩ := outcome
  cases fits with
  | false => exact ⟨rfl, .inr ⟨by simp, ages⟩⟩
  | true =>
      have valid := (accepts.mp rfl).1
      by_cases zero : bytes = 0
      · simp only [zero, if_true]
        exact ⟨trivial, .inr ⟨by simp, ages⟩⟩
      · have size : 0 < bytes := lt_of_le_of_ne valid.1 (Ne.symm zero)
        have distinct : scopeKinds.Nodup := by decide
        have every : ∀ kind, kind ∈ scopeKinds := by
          intro kind
          cases kind <;> decide
        obtain ⟨counts, limits, meters⟩ :=
          @foldl_add aged scope bytes counted (positive.ages ages) size scopeKinds distinct
        simp only [if_neg zero]
        refine ⟨trivial, .inl ⟨⟨trivial, size⟩, counts, limits.trans ages.limits, aged, ages, ?_⟩⟩
        intro kind key
        rw [meters kind key, ages.limits, ages.used order]
        simp [every]

theorem used_later (positive : Counted limiter) {later : Int} (order : now ≤ later) :
    limiter.used kind key later ≤ limiter.used kind key now := by
  unfold used counterUsed
  cases known : limiter.meter kind key with
  | none => exact le_rfl
  | some counter =>
      have counted := positive kind key _ _ known
      simp only
      split <;> split <;> omega

theorem counterStart_young {window : Int} (width : 0 < window) (counter : Option (Int × Int))
    (now : Int) : now - counterStart window counter now < window := by
  unfold counterStart
  split
  · omega
  · split <;> omega

/-- What the four counters show right after the chunk. -/
theorem Counts.used {counted : Int} (counts : Counts scope bytes now counted limiter next)
    (order : now ≤ counted) (width : 0 < limiter.limits.windowMs) (kind : ScopeKind) (key : String) :
    next.used kind key counted =
      limiter.used kind key counted + if key = scope.key kind then bytes else 0 := by
  obtain ⟨aged, ages, meters⟩ := counts.meters
  by_cases own : key = scope.key kind
  · rw [if_pos own]
    unfold PublicationBandwidthLimiter.used
    rw [meters, if_pos own, counts.limits]
    show (if counted - counterStart _ _ counted < _ then _ else (0 : Int)) = _
    rw [if_pos (counterStart_young width _ counted)]
    rfl
  · rw [if_neg own, add_zero, ← ages.used order kind key]
    unfold PublicationBandwidthLimiter.used
    rw [meters, if_neg own, counts.limits, ages.limits]

theorem create_ok {limits : PublicationBandwidthLimits} (created : create limits = .ok limiter) :
    limiter = { limits } ∧ 0 < limits.windowMs ∧ ∀ kind, 0 < limits.bytes kind := by
  simp only [create, positiveInteger] at created
  obtain ⟨windowMs, windowOk, created⟩ := bind_ok.mp created
  obtain ⟨globalBytes, globalOk, created⟩ := bind_ok.mp created
  obtain ⟨perWorkerBytes, workerOk, created⟩ := bind_ok.mp created
  obtain ⟨perOrganizationBytes, organizationOk, created⟩ := bind_ok.mp created
  obtain ⟨perRouteBytes, routeOk, created⟩ := bind_ok.mp created
  obtain ⟨rfl, window⟩ := positiveLimit_ok windowOk
  obtain ⟨rfl, global⟩ := positiveLimit_ok globalOk
  obtain ⟨rfl, worker⟩ := positiveLimit_ok workerOk
  obtain ⟨rfl, organization⟩ := positiveLimit_ok organizationOk
  obtain ⟨rfl, route⟩ := positiveLimit_ok routeOk
  cases created
  refine ⟨rfl, window, fun kind => ?_⟩
  cases kind <;> simp only [PublicationBandwidthLimits.bytes] <;> omega

end PublicationBandwidthLimiter

namespace Metered

/-- The counters tell the accepted chunks, and no window took more than its limit. -/
structure Accurate (limits : PublicationBandwidthLimits) (state : Metered) : Prop where
  configured : state.limiter.limits = limits
  counted : state.limiter.Counted
  recent : ∀ chunk ∈ state.accepted, chunk.time ≤ state.clock
  ordered : NewestFirst Chunk.time state.accepted
  meters : ∀ kind key, Meters Chunk.time limits.windowMs Chunk.bytes (state.limiter.meter kind key)
    (state.chunks kind key) state.clock
  within : ∀ kind key, WindowsWithin Chunk.time limits.windowMs Chunk.bytes (limits.bytes kind)
    (state.chunks kind key)

variable {limits : PublicationBandwidthLimits} {state : Metered} {limiter : PublicationBandwidthLimiter}
  {now : Int}

/-- Time passes and counters that are over go. -/
theorem Accurate.age {later : Int} (accurate : Accurate limits state) (order : state.clock ≤ now)
    (onwards : now ≤ later) (ages : PublicationBandwidthLimiter.Ages now state.limiter limiter) :
    Accurate limits { state with limiter, clock := later } where
  configured := ages.limits.trans accurate.configured
  counted := accurate.counted.ages ages
  recent chunk member := (accurate.recent chunk member).trans (order.trans onwards)
  ordered := accurate.ordered
  meters kind key := by
    have meters := accurate.meters kind key
    show Meters _ _ _ (limiter.meter kind key) (state.chunks kind key) later
    rcases ages.kept kind key with same | ⟨gone, startedAt, bytes, known, elapsed⟩
    · rw [same]
      exact meters.later (order.trans onwards)
    · rw [known] at meters
      rw [accurate.configured] at elapsed
      rw [gone]
      exact (meters.expire elapsed).later onwards
  within := accurate.within

theorem Accurate.count {scope : PublicationConnectionScope} {bytes counted : Int}
    (accurate : Accurate limits state) (order : state.clock ≤ now) (onwards : now ≤ counted)
    (width : 0 < limits.windowMs) (size : 0 < bytes)
    (room : ∀ kind, state.limiter.used kind (scope.key kind) now + bytes ≤ limits.bytes kind)
    (counts : PublicationBandwidthLimiter.Counts scope bytes now counted state.limiter limiter) :
    Accurate limits { limiter, clock := counted, accepted := ⟨counted, scope, bytes⟩ :: state.accepted } := by
  obtain ⟨aged, ages, meters⟩ := counts.meters
  have older := accurate.age order onwards ages
  have chunks : ∀ kind key, Metered.chunks
      { limiter, clock := counted, accepted := ⟨counted, scope, bytes⟩ :: state.accepted } kind key =
      if key = scope.key kind then ⟨counted, scope, bytes⟩ :: state.chunks kind key
      else state.chunks kind key := by
    intro kind key
    by_cases own : key = scope.key kind
    · rw [if_pos own, Metered.chunks, List.filter_cons_of_pos (by simp [own, size])]
      rfl
    · rw [if_neg own, Metered.chunks, List.filter_cons_of_neg (by simp [Ne.symm own])]
      rfl
  have past : ∀ kind key, ∀ chunk ∈ state.chunks kind key, chunk.time ≤ counted := by
    intro kind key chunk member
    exact (accurate.recent chunk (List.mem_of_mem_filter member)).trans (order.trans onwards)
  have ordered : ∀ kind key, NewestFirst Chunk.time (⟨counted, scope, bytes⟩ :: state.chunks kind key) :=
    fun kind key => NewestFirst.cons (accurate.ordered.filter _) (past kind key)
  have used : ∀ kind key, amountUsed Chunk.time limits.windowMs Chunk.bytes (state.chunks kind key)
      counted = state.limiter.used kind key counted := by
    intro kind key
    rw [(accurate.meters kind key).used_eq (order.trans onwards),
      PublicationBandwidthLimiter.used, accurate.configured]
  exact {
    configured := counts.limits.trans accurate.configured
    counted := counts.positive
    recent := by
      intro chunk member
      rcases List.mem_cons.mp member with rfl | held
      · exact le_rfl
      · exact (accurate.recent chunk held).trans (order.trans onwards)
    ordered := NewestFirst.cons accurate.ordered fun chunk member =>
      (accurate.recent chunk member).trans (order.trans onwards)
    meters := by
      intro kind key
      show Meters _ _ _ (limiter.meter kind key) _ counted
      rw [chunks, meters]
      by_cases own : key = scope.key kind
      · have after := @meters_cons _ Chunk.time limits.windowMs Chunk.bytes _ _ (ordered kind key) width
        rw [if_pos own, if_pos own, accurate.configured,
          ← (older.meters kind key).windowOf_eq le_rfl, ← used kind key]
        exact after
      · rw [if_neg own, if_neg own]
        exact older.meters kind key
    within := by
      intro kind key
      rw [chunks]
      by_cases own : key = scope.key kind
      · rw [if_pos own]
        apply (accurate.within kind key).cons (ordered kind key) width
        have now := room kind
        have later : state.limiter.used kind (scope.key kind) counted ≤ _ :=
          PublicationBandwidthLimiter.used_later accurate.counted onwards
        rw [own]
        show amountUsed _ _ _ _ counted + bytes ≤ _
        rw [used]
        omega
      · rw [if_neg own]
        exact accurate.within kind key }

/-- A chunk without bytes is accepted and counted nowhere. -/
theorem Accurate.empty (accurate : Accurate limits state) (scope : PublicationConnectionScope) :
    Accurate limits { state with accepted := ⟨state.clock, scope, 0⟩ :: state.accepted } where
  configured := accurate.configured
  counted := accurate.counted
  recent chunk member := by
    rcases List.mem_cons.mp member with rfl | held
    · exact le_rfl
    · exact accurate.recent chunk held
  ordered := NewestFirst.cons accurate.ordered accurate.recent
  meters kind key := by
    rw [Metered.chunks, List.filter_cons_of_neg (by simp)]
    exact accurate.meters kind key
  within kind key := by
    rw [Metered.chunks, List.filter_cons_of_neg (by simp)]
    exact accurate.within kind key

theorem Accurate.step (accurate : Accurate limits state) (width : 0 < limits.windowMs)
    {call : BandwidthCall} (order : state.InOrder call) : Accurate limits (state.call call) := by
  cases call with
  | canConsume scope bytes now =>
      exact accurate.age order le_rfl
        (PublicationBandwidthLimiter.canConsume_spec state.limiter scope bytes now).2
  | tryConsume scope bytes now counted =>
      obtain ⟨order, onwards⟩ := order
      have checked := PublicationBandwidthLimiter.canConsume_spec state.limiter scope bytes now
      obtain ⟨same, outcome⟩ := @PublicationBandwidthLimiter.tryConsume_spec state.limiter scope bytes
        now accurate.counted counted onwards
      rw [← same, accurate.configured] at checked
      simp only [call]
      generalize state.limiter.tryConsume scope bytes now counted = result at checked outcome
      obtain ⟨accepted, limiter⟩ := result
      cases accepted with
      | false =>
          rcases outcome with ⟨⟨impossible, _⟩, _⟩ | ⟨_, ages⟩
          · cases impossible
          · exact accurate.age order onwards ages
      | true =>
          obtain ⟨valid, room⟩ := checked.1.mp rfl
          rcases outcome with ⟨⟨_, size⟩, counts⟩ | ⟨empty, ages⟩
          · exact accurate.count order onwards width size room counts
          · have zero : bytes = 0 := by
              have nonneg := valid.1
              have notPositive : ¬ 0 < bytes := fun size => empty ⟨rfl, size⟩
              omega
            subst zero
            exact (accurate.age order onwards ages).empty scope

theorem accurate_initial {clock : Int} (created : PublicationBandwidthLimiter.create limits = .ok limiter) :
    Accurate limits { limiter, clock } := by
  obtain ⟨rfl, _, positive⟩ := PublicationBandwidthLimiter.create_ok created
  exact {
    configured := rfl
    counted := by
      intro kind key startedAt bytes known
      cases known
    recent := by simp
    ordered := .nil
    meters := fun _ _ => rfl
    within := by
      intro kind key start member
      cases member }

end Metered

/-- The budgets of every scope key hold in its windows and, twice over, in every
interval of a window's length. -/
theorem bandwidthBounded {limits : PublicationBandwidthLimits} {limiter : PublicationBandwidthLimiter}
    {clock : Int} {calls : List BandwidthCall}
    (created : PublicationBandwidthLimiter.create limits = .ok limiter)
    (runs : bandwidthSystem.Runs { limiter, clock } calls) :
    let state := bandwidthSystem.run { limiter, clock } calls
    (∀ kind key,
      WindowsWithin Chunk.time limits.windowMs Chunk.bytes (limits.bytes kind) (state.chunks kind key) ∧
      ∀ first, amountWithin Chunk.time Chunk.bytes (state.chunks kind key) first
        (first + limits.windowMs) ≤ 2 * limits.bytes kind) ∧
    ∀ scope bytes now counted, state.clock ≤ now → now ≤ counted →
      let (accepted, after) := state.limiter.tryConsume scope bytes now counted
      accepted = (state.limiter.canConsume scope bytes now).1 ∧
      (accepted = true → ∀ kind key, after.used kind key counted =
        state.limiter.used kind key counted + if key = scope.key kind then bytes else 0) ∧
      (accepted = false → ∀ kind key later, now ≤ later →
        after.used kind key later = state.limiter.used kind key later) := by
  obtain ⟨_, width, positive⟩ := PublicationBandwidthLimiter.create_ok created
  intro state
  have accurate : state.Accurate limits :=
    (runs.invariant (Metered.accurate_initial created) fun state call order accurate =>
      ⟨trivial, accurate.step width order⟩ : bandwidthSystem.Along (fun _ _ => True) _ calls ∧ _).2
  constructor
  · intro kind key
    refine ⟨accurate.within kind key, fun first => ?_⟩
    apply (accurate.within kind key).interval (accurate.ordered.filter _) _ width (positive kind).le
    intro chunk member
    exact (of_decide_eq_true (List.mem_filter.mp member).2).2.le
  · intro scope bytes now counted order onwards
    obtain ⟨same, outcome⟩ := @PublicationBandwidthLimiter.tryConsume_spec state.limiter scope bytes
      now accurate.counted counted onwards
    have checked := (PublicationBandwidthLimiter.canConsume_spec state.limiter scope bytes now).1
    rw [← same] at checked
    simp only
    generalize state.limiter.tryConsume scope bytes now counted = result at same checked outcome
    refine ⟨same, fun accepted kind key => ?_, fun refused kind key later onwards => ?_⟩
    · rcases outcome with ⟨_, counts⟩ | ⟨empty, ages⟩
      · exact counts.used onwards (by rwa [accurate.configured]) kind key
      · have zero : bytes = 0 := by
          have nonneg := (checked.mp accepted).1.1
          have notPositive : ¬ 0 < bytes := fun size => empty ⟨accepted, size⟩
          omega
        rw [ages.used onwards, zero, ite_self, add_zero]
    · rcases outcome with ⟨⟨accepted, _⟩, _⟩ | ⟨_, ages⟩
      · rw [refused] at accepted
        cases accepted
      · exact ages.used onwards kind key


/-- A route with ten bytes a second: the second chunk waits for the next window. -/
theorem bandwidthBounded_twoWindows :
    let docs : PublicationConnectionScope := ⟨"worker", "acme", "docs"⟩
    let state := bandwidthSystem.run { limiter := { limits := ⟨1000, 100, 100, 100, 10⟩ }, clock := 0 }
      [.tryConsume docs 8 0 0, .tryConsume docs 8 400 400, .canConsume docs 8 900,
        .tryConsume docs 8 1000 1001]
    (state.chunks .route "docs").map (·.time) = [1001, 0] ∧
      ∀ first, amountWithin Chunk.time Chunk.bytes (state.chunks .route "docs") first (first + 1000) ≤
        2 * 10 :=
  ⟨by decide +kernel, fun first => (((@bandwidthBounded ⟨1000, 100, 100, 100, 10⟩
    { limits := ⟨1000, 100, 100, 100, 10⟩ } 0
    [.tryConsume ⟨"worker", "acme", "docs"⟩ 8 0 0, .tryConsume ⟨"worker", "acme", "docs"⟩ 8 400 400,
      .canConsume ⟨"worker", "acme", "docs"⟩ 8 900, .tryConsume ⟨"worker", "acme", "docs"⟩ 8 1000 1001]
    rfl (by decide +kernel)).1 .route "docs").2 first)⟩

end NebulaCloud.Ingress
