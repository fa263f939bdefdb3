import NebulaCloud.Database.PublishedService
import NebulaCloud.Ingress.BandwidthLimiter

namespace NebulaCloud.Ingress

open NebulaCloud.Data NebulaCloud.Platform NebulaCloud.Database

/-! # Published service gateway

A request to a publication takes a connection slot before the worker is called.  The
slot outlives the call in the body of the response, whose stream gives it back when it
ends. -/

structure GatewayError where
  error : String
  code : String
  retryable : Bool := false
  status : Nat
  retryAfter : Option Nat := none
deriving DecidableEq

def publicationNotFound : GatewayError where
  error := "published service not found"
  code := "not_found"
  status := 404

def protocolMismatch : GatewayError where
  error := "TCP publication requires a TCP connection"
  code := "protocol_mismatch"
  status := 404

def unavailable : GatewayError where
  error := "published service is unavailable"
  code := "published_service_unavailable"
  retryable := true
  status := 503

def authenticationRequired : GatewayError where
  error := "published service authentication required"
  code := "published_service_authentication_required"
  status := 401

def connectionLimitReached : GatewayError where
  error := "published service connection limit reached"
  code := "published_service_connection_limit_reached"
  retryable := true
  status := 429
  retryAfter := some 1

def bandwidthLimitReached : GatewayError where
  error := "published service bandwidth limit reached"
  code := "published_service_bandwidth_limit_reached"
  retryable := true
  status := 429
  retryAfter := some 60

structure ProxiedRequest where
  /-- The header `x-nubols-publication-token`. -/
  token : Option String
  /-- `Number(content-length)`, where it is finite. -/
  contentLength : Option Rat

section Access

variable (hashPublishedServiceToken : String → String) (request : ProxiedRequest)

def publishedServiceTokenAuthenticated (expectedHash : String) : Bool :=
  let token := trim (request.token.getD "")
  token ≠ "" && utf16Length token ≤ 256 && isTokenHash expectedHash &&
    hashPublishedServiceToken token = expectedHash

def mayRead (publication : PublishedServiceRow) : Bool :=
  match publication.visibility with
  | .publicAccess => true
  | .privateAccess =>
      publication.authPolicy = .token &&
        publication.accessTokenHash.any fun hash =>
          hash ≠ "" && publishedServiceTokenAuthenticated hashPublishedServiceToken request hash

/-- Only a whole number of bytes can be consumed. -/
def fitsDeclaredLength (bandwidth : PublicationBandwidthLimiter) (scope : PublicationConnectionScope)
    (now : Int) : Bool × PublicationBandwidthLimiter :=
  match request.contentLength with
  | none => (true, bandwidth)
  | some length =>
      if length ≤ 0 then (true, bandwidth)
      else if length.den ≠ 1 then (false, bandwidth)
      else bandwidth.canConsume scope length.num now

end Access

/-! ## The body of a response -/

/-- A stream that its source has closed is still read from as long as chunks are queued. -/
inductive BodyStream
  | readable | closing | closed | errored
deriving DecidableEq

/-- The promise of `pull` waits for the reader, or for its cancellation. -/
inductive BodyPull
  | idle | reading | cancelling
deriving DecidableEq

/-- What `responseWithLease` closes over. -/
structure ResponseBody where
  released : Bool := false
  stream : BodyStream := .readable
  pull : BodyPull := .idle
deriving DecidableEq

inductive ReadResult
  | done (queued : Bool)
  | chunk (bytes now counted : Int)
  | failed

/-- `controller.close()`, which throws on a stream that is not readable. -/
def BodyStream.close (queued : Bool) : BodyStream → BodyStream
  | .readable => if queued then .closing else .closed
  | stream => stream

/-- `controller.error(error)`, which does nothing to a stream that is not readable. -/
def BodyStream.error : BodyStream → BodyStream
  | .readable => .errored
  | stream => stream

/-! ## One call -/

inductive ProxyPhase
  | idle
  | refused (response : GatewayError)
  /-- The worker has been called. -/
  | calling (scope : PublicationConnectionScope) (lease : Nat)
  /-- Answered from the `catch` clause, or an abort that is thrown on. -/
  | failed (lease : Nat) (response : Option GatewayError)
  | withoutBody (lease : Nat)
  | withBody (scope : PublicationConnectionScope) (lease : Nat) (body : ResponseBody)
deriving DecidableEq

def ProxyPhase.lease : ProxyPhase → Option Nat
  | .idle | .refused _ => none
  | .calling _ lease | .failed lease _ | .withoutBody lease | .withBody _ lease _ => some lease

/-- The call has failed, or the body is finished, errored or cancelled. -/
def ProxyPhase.Ended : ProxyPhase → Prop
  | .failed _ _ | .withoutBody _ => True
  | .withBody _ _ body => body.stream = .closed ∨ body.stream = .errored
  | .idle | .refused _ | .calling _ _ => False

/-- A call beside all others that use the two limiters. -/
structure ProxyCall where
  connections : Admissions
  bandwidth : PublicationBandwidthLimiter
  /-- The leases of all others. -/
  others : List Nat
  phase : ProxyPhase := .idle
  /-- The leases that the call has given back, one entry each time. -/
  returned : List Nat := []

inductive UpstreamOutcome
  /-- The worker or the request body throws, or the response cannot be built. -/
  | threw (aborted : Bool)
  | withoutBody
  | withBody
deriving DecidableEq

inductive ProxyEvent
  | proxy (publication : Option PublishedServiceRow) (scope : Option PublicationConnectionScope)
      (request : ProxiedRequest) (now : Int)
  | upstream (outcome : UpstreamOutcome)
  | pull
  | read (result : ReadResult)
  | readerCancelled
  | drained
  | cancel
  | connectionsUsed (call : LimiterCall)
  | bandwidthUsed (scope : PublicationConnectionScope) (bytes now counted : Int)

namespace ProxyCall

variable (hashPublishedServiceToken : String → String) (call : ProxyCall)

/-- `lease.release()`. -/
def release (lease : Nat) : ProxyCall :=
  { call with
    connections := call.connections.call (.release lease)
    returned := call.returned ++
      if (call.connections.leases[lease]?).any (! ·.released) then [lease] else [] }

def refuse (response : GatewayError) : ProxyCall := { call with phase := .refused response }

/-- `proxy` up to the call of the worker. -/
def proxy (publication : Option PublishedServiceRow) (scope : Option PublicationConnectionScope)
    (request : ProxiedRequest) (now : Int) : ProxyCall :=
  match publication with
  | none => call.refuse publicationNotFound
  | some publication =>
      if publication.protocol ≠ .http then call.refuse protocolMismatch
      else if mayRead hashPublishedServiceToken request publication = false then
        call.refuse authenticationRequired
      else
        match scope with
        | none => call.refuse unavailable
        | some scope =>
            match fitsDeclaredLength request call.bandwidth scope now with
            | (false, bandwidth) => { call with bandwidth }.refuse bandwidthLimitReached
            | (true, bandwidth) =>
                match call.connections.limiter.tryAcquire scope with
                | (none, limiter) =>
                    { call with bandwidth, connections := { call.connections with limiter } }.refuse
                      connectionLimitReached
                | (some lease, limiter) =>
                    { call with
                      bandwidth
                      connections := { limiter, leases := call.connections.leases ++ [lease] }
                      phase := .calling scope call.connections.leases.length }

/-- The worker's response is given to `responseWithLease`. -/
def upstream (scope : PublicationConnectionScope) (lease : Nat) : UpstreamOutcome → ProxyCall
  | .threw aborted =>
      { call.release lease with phase := .failed lease (if aborted then none else some unavailable) }
  | .withoutBody => { call.release lease with phase := .withoutBody lease }
  | .withBody => { call with phase := .withBody scope lease {} }

/-- The `release` of `responseWithLease`, and what the stream is then. -/
def settle (scope : PublicationConnectionScope) (lease : Nat) (body : ResponseBody) (stream : BodyStream)
    (pull : BodyPull) : ProxyCall :=
  { if body.released then call else call.release lease with
    phase := .withBody scope lease { released := true, stream, pull } }

def read (scope : PublicationConnectionScope) (lease : Nat) (body : ResponseBody) : ReadResult → ProxyCall
  | .done queued => call.settle scope lease body (body.stream.close queued) .idle
  | .failed => call.settle scope lease body body.stream.error .idle
  | .chunk bytes now counted =>
      match call.bandwidth.tryConsume scope bytes now counted with
      | (false, bandwidth) =>
          { call with bandwidth, phase := .withBody scope lease { body with pull := .cancelling } }
      | (true, bandwidth) =>
          -- a chunk cannot be queued once the client has cancelled
          if body.stream = .readable then
            { call with bandwidth, phase := .withBody scope lease { body with pull := .idle } }
          else { call with bandwidth }.settle scope lease body body.stream.error .idle

/-- What happens to the body; what cannot happen to it now is left out. -/
def stream (scope : PublicationConnectionScope) (lease : Nat) (body : ResponseBody) : ProxyEvent → ProxyCall
  | .pull =>
      if body.stream = .readable ∧ body.pull = .idle then
        { call with phase := .withBody scope lease { body with pull := .reading } }
      else call
  | .read result => if body.pull = .reading then call.read scope lease body result else call
  | .readerCancelled =>
      if body.pull = .cancelling then call.settle scope lease body body.stream.error .idle else call
  | .drained =>
      if body.stream = .closing then
        { call with phase := .withBody scope lease { body with stream := .closed } }
      else call
  | .cancel =>
      if body.stream = .readable ∨ body.stream = .closing then
        call.settle scope lease body .closed body.pull
      else call
  | _ => call

def receive (event : ProxyEvent) : ProxyCall :=
  match event, call.phase with
  | .connectionsUsed used, _ =>
      let connections := call.connections.call used
      { call with
        connections
        others := call.others ++
          (List.range connections.leases.length).drop call.connections.leases.length }
  | .bandwidthUsed scope bytes now counted, _ =>
      { call with bandwidth := (call.bandwidth.tryConsume scope bytes now counted).2 }
  | .proxy publication scope request now, .idle =>
      call.proxy hashPublishedServiceToken publication scope request now
  | .upstream outcome, .calling scope lease => call.upstream scope lease outcome
  | event, .withBody scope lease body => call.stream scope lease body event
  | _, _ => call

/-- Nobody else has the call's lease to release. -/
def CanReceive : ProxyEvent → Prop
  | .connectionsUsed (.release lease) => lease ∈ call.others
  | _ => True

instance : DecidablePred call.CanReceive
  | .connectionsUsed (.release lease) => inferInstanceAs (Decidable (lease ∈ call.others))
  | .connectionsUsed (.tryAcquire _) | .proxy .. | .upstream _ | .pull | .read _ | .readerCancelled | .drained
  | .cancel | .bandwidthUsed .. => .isTrue trivial

end ProxyCall

/-- A call that starts when the limiters have been in use for any time. -/
def proxySystem (hashPublishedServiceToken : String → String) : System ProxyCall ProxyEvent where
  Initial call := limiterSystem.Reachable call.connections ∧
    call.others = List.range call.connections.leases.length ∧ call.phase = .idle ∧ call.returned = []
  Enabled := ProxyCall.CanReceive
  step := ProxyCall.receive hashPublishedServiceToken

/-! ## The slot of a call -/

/-- The others' leases were all handed out. -/
structure Shared (connections : Admissions) (others : List Nat) : Prop where
  reachable : limiterSystem.Reachable connections
  bounded : ∀ lease ∈ others, lease < connections.leases.length

/-- Beside the others there is one lease; it is held, or it was given back once. -/
structure OwnSlot (connections : Admissions) (others returned : List Nat) (own : Nat) (held : Bool) : Prop where
  fresh : own ∉ others
  rest : ∀ lease < connections.leases.length, lease ∈ others ∨ lease = own
  stored : ∃ lease ∈ connections.leases[own]?, lease.released = !held
  once : returned = if held then [] else [own]

/-- What holds in a phase. -/
def KeptIn (connections : Admissions) (others returned : List Nat) : ProxyPhase → Prop
  | .idle | .refused _ => (∀ lease < connections.leases.length, lease ∈ others) ∧ returned = []
  | .calling _ own => OwnSlot connections others returned own true
  | .failed own _ | .withoutBody own => OwnSlot connections others returned own false
  | .withBody _ own body =>
      OwnSlot connections others returned own (!body.released) ∧
        (body.released = true ↔ body.stream ≠ .readable)

structure Kept (call : ProxyCall) : Prop where
  shared : Shared call.connections call.others
  phase : KeptIn call.connections call.others call.returned call.phase

section Slots

variable {connections : Admissions} {others returned : List Nat} {own : Nat} {held : Bool}
  {scope : PublicationConnectionScope}

theorem release_leases (connections : Admissions) (index lease : Nat) :
    (connections.call (.release index)).leases[lease]? =
      (connections.leases[lease]?).map fun stored =>
        if lease = index then { stored with released := true } else stored := by
  cases found : connections.leases[index]? with
  | none =>
      simp only [Admissions.call, found]
      by_cases same : lease = index
      · simp [same, found]
      · simp [same]
  | some stored =>
      have marked : (connections.limiter.release stored).1 = { stored with released := true } := by
        unfold PublicationConnectionLimiter.release
        split
        · rename_i released
          cases stored
          cases released
          rfl
        · rfl
      simp only [Admissions.call, found, marked]
      by_cases same : lease = index
      · subst same
        obtain ⟨within, _⟩ := List.getElem?_eq_some_iff.mp found
        rw [List.getElem?_set_self within, found, Option.map_some, if_pos rfl]
      · rw [List.getElem?_set_ne (Ne.symm same)]
        simp [same]

theorem release_length (connections : Admissions) (index : Nat) :
    (connections.call (.release index)).leases.length = connections.leases.length := by
  simp only [Admissions.call]
  split <;> simp

/-- A granted slot is the next lease, and held. -/
theorem acquire_leases {lease : PublicationConnectionLease} {limiter : PublicationConnectionLimiter}
    (acquired : connections.limiter.tryAcquire scope = (some lease, limiter)) :
    connections.call (.tryAcquire scope) = ⟨limiter, connections.leases ++ [lease]⟩ ∧
      lease.released = false := by
  refine ⟨by simp only [Admissions.call, acquired], ?_⟩
  unfold PublicationConnectionLimiter.tryAcquire at acquired
  simp only at acquired
  split at acquired
  · cases acquired
  · cases acquired
    rfl

theorem acquire_none {limiter : PublicationConnectionLimiter}
    (refused : connections.limiter.tryAcquire scope = (none, limiter)) :
    limiter = connections.limiter ∧ connections.call (.tryAcquire scope) = connections := by
  obtain ⟨kept, same⟩ := @Admissions.acquire_refused connections scope (by rw [refused])
  rw [refused] at kept
  exact ⟨kept, same⟩

theorem Shared.acquire (shared : Shared connections others) (scope : PublicationConnectionScope) :
    limiterSystem.Reachable (connections.call (.tryAcquire scope)) :=
  @System.Reachable.step _ _ limiterSystem connections (.tryAcquire scope) shared.reachable (by
    intro index same
    cases same)

theorem Shared.release (shared : Shared connections others) {index : Nat}
    (within : index < connections.leases.length) : Shared (connections.call (.release index)) others where
  reachable := @System.Reachable.step _ _ limiterSystem connections (.release index) shared.reachable (by
    intro lease same
    cases same
    exact within)
  bounded lease member := by
    rw [release_length]
    exact shared.bounded lease member

theorem OwnSlot.within (slot : OwnSlot connections others returned own held) :
    own < connections.leases.length := by
  obtain ⟨lease, stored, _⟩ := slot.stored
  exact (List.getElem?_eq_some_iff.mp stored).1

/-- A slot is given back, at first in fact and later in name only. -/
theorem OwnSlot.release (slot : OwnSlot connections others returned own held) :
    OwnSlot (connections.call (.release own)) others
      (returned ++ if (connections.leases[own]?).any (! ·.released) then [own] else []) own false := by
  obtain ⟨lease, stored, released⟩ := slot.stored
  rw [Option.mem_def] at stored
  refine ⟨slot.fresh, ?_, ⟨{ lease with released := true }, ?_, rfl⟩, ?_⟩
  · intro other within
    rw [release_length] at within
    exact slot.rest other within
  · rw [release_leases, stored]
    simp
  · rw [slot.once, stored]
    cases held <;> simp [released]

/-- Nobody else's use of the limiter touches the slot. -/
theorem OwnSlot.released (slot : OwnSlot connections others returned own held) {other : Nat}
    (member : other ∈ others) : OwnSlot (connections.call (.release other)) others returned own held := by
  obtain ⟨lease, stored, released⟩ := slot.stored
  rw [Option.mem_def] at stored
  refine ⟨slot.fresh, ?_, ⟨lease, ?_, released⟩, slot.once⟩
  · intro index within
    rw [release_length] at within
    exact slot.rest index within
  · have different : own ≠ other := fun same => slot.fresh (same ▸ member)
    rw [release_leases, stored]
    simp [different]

theorem OwnSlot.acquired (slot : OwnSlot connections others returned own held)
    {limiter : PublicationConnectionLimiter} {lease : PublicationConnectionLease} :
    OwnSlot ⟨limiter, connections.leases ++ [lease]⟩ (others ++ [connections.leases.length]) returned own held := by
  have within := slot.within
  obtain ⟨stored, found, released⟩ := slot.stored
  refine ⟨?_, ?_, ⟨stored, ?_, released⟩, slot.once⟩
  · have different : own ≠ connections.leases.length := by omega
    simp [slot.fresh, different]
  · intro index bound
    simp only [List.length_append, List.length_singleton] at bound
    by_cases last : index = connections.leases.length
    · simp [last]
    · rcases slot.rest index (by omega) with member | same
      · exact .inl (by simp [member])
      · exact .inr same
  · rw [List.getElem?_append_left within]
    exact found

end Slots

/-! ## Every event keeps the slot -/

section Events

variable {hashPublishedServiceToken : String → String} {call : ProxyCall} {scope : PublicationConnectionScope}
  {own : Nat} {body : ResponseBody}

theorem Kept.refuse (kept : Kept call) (idle : call.phase = .idle) (bandwidth : PublicationBandwidthLimiter)
    (response : GatewayError) : Kept ({ call with bandwidth }.refuse response) where
  shared := kept.shared
  phase := by
    have phase := kept.phase
    rw [idle] at phase
    exact phase

theorem Kept.proxy (kept : Kept call) (idle : call.phase = .idle) (publication : Option PublishedServiceRow)
    (scope : Option PublicationConnectionScope) (request : ProxiedRequest) (now : Int) :
    Kept (call.proxy hashPublishedServiceToken publication scope request now) := by
  unfold ProxyCall.proxy
  split
  · exact kept.refuse idle call.bandwidth _
  · split
    · exact kept.refuse idle call.bandwidth _
    · split
      · exact kept.refuse idle call.bandwidth _
      · split
        · exact kept.refuse idle call.bandwidth _
        · split
          · exact kept.refuse idle _ _
          · split
            · rename_i bandwidth _ _ limiter refused
              rw [(acquire_none refused).1]
              exact kept.refuse idle bandwidth _
            · rename_i lease limiter acquired
              obtain ⟨granted, held⟩ := acquire_leases acquired
              have reachable : limiterSystem.Reachable ⟨limiter, call.connections.leases ++ [lease]⟩ :=
                granted ▸ kept.shared.acquire _
              have phase := kept.phase
              rw [idle] at phase
              obtain ⟨all, nothing⟩ := phase
              refine ⟨⟨reachable, fun other member => ?_⟩, ?_, ?_, ⟨lease, ?_, held⟩, nothing⟩
              · have bound := kept.shared.bounded other member
                simp only [List.length_append]
                omega
              · intro member
                exact absurd (kept.shared.bounded _ member) (Nat.lt_irrefl _)
              · intro other within
                simp only [List.length_append, List.length_singleton] at within
                by_cases last : other = call.connections.leases.length
                · exact .inr last
                · exact .inl (all other (by omega))
              · simp

theorem Kept.upstream (kept : Kept call) (calling : call.phase = .calling scope own) (outcome : UpstreamOutcome) :
    Kept (call.upstream scope own outcome) := by
  have slot := kept.phase
  rw [calling] at slot
  have slot : OwnSlot call.connections call.others call.returned own true := slot
  cases outcome with
  | threw aborted => exact ⟨kept.shared.release slot.within, slot.release⟩
  | withoutBody => exact ⟨kept.shared.release slot.within, slot.release⟩
  | withBody => exact ⟨kept.shared, slot, by simp⟩

/-- A stream that is settled is no longer readable, and its slot is given back. -/
theorem Kept.settle (shared : Shared call.connections call.others)
    (slot : OwnSlot call.connections call.others call.returned own (!body.released)) {stream : BodyStream}
    (unreadable : stream ≠ .readable) (pull : BodyPull) : Kept (call.settle scope own body stream pull) := by
  unfold ProxyCall.settle
  cases released : body.released with
  | true =>
      rw [released] at slot
      exact ⟨shared, slot, by simpa using unreadable⟩
  | false => exact ⟨shared.release slot.within, slot.release, by simpa using unreadable⟩

theorem close_unreadable (stream : BodyStream) (queued : Bool) : stream.close queued ≠ .readable := by
  cases stream <;> cases queued <;> simp [BodyStream.close]

theorem error_unreadable (stream : BodyStream) : stream.error ≠ .readable := by
  cases stream <;> simp [BodyStream.error]

theorem Kept.read (shared : Shared call.connections call.others)
    (slot : OwnSlot call.connections call.others call.returned own (!body.released))
    (readable : body.released = true ↔ body.stream ≠ .readable) (result : ReadResult) :
    Kept (call.read scope own body result) := by
  cases result with
  | done queued => exact Kept.settle shared slot (close_unreadable _ _) _
  | failed => exact Kept.settle shared slot (error_unreadable _) _
  | chunk bytes now counted =>
      simp only [ProxyCall.read]
      split
      · exact ⟨shared, slot, readable⟩
      · rename_i bandwidth _
        split
        · exact ⟨shared, slot, readable⟩
        · exact @Kept.settle { call with bandwidth } scope own body shared slot _ (error_unreadable _) _

theorem Kept.stream (kept : Kept call) (streaming : call.phase = .withBody scope own body) (event : ProxyEvent) :
    Kept (call.stream scope own body event) := by
  have phase := kept.phase
  rw [streaming] at phase
  obtain ⟨slot, readable⟩ := phase
  cases event with
  | pull =>
      simp only [ProxyCall.stream]
      split
      · exact ⟨kept.shared, slot, readable⟩
      · exact kept
  | read result =>
      simp only [ProxyCall.stream]
      split
      · exact Kept.read kept.shared slot readable result
      · exact kept
  | readerCancelled =>
      simp only [ProxyCall.stream]
      split
      · exact Kept.settle kept.shared slot (error_unreadable _) _
      · exact kept
  | drained =>
      simp only [ProxyCall.stream]
      split
      · rename_i closing
        have given : body.released = true := readable.mpr (by simp [closing])
        exact ⟨kept.shared, slot, by simp [given]⟩
      · exact kept
  | cancel =>
      simp only [ProxyCall.stream]
      split
      · exact Kept.settle kept.shared slot (by simp) _
      · exact kept
  | proxy _ _ _ _ => exact kept
  | upstream _ => exact kept
  | connectionsUsed _ => exact kept
  | bandwidthUsed _ _ _ _ => exact kept

/-- The others give a slot of their own back. -/
theorem Kept.connectionsReleased (kept : Kept call) {lease : Nat} (member : lease ∈ call.others) :
    Kept (call.receive hashPublishedServiceToken (.connectionsUsed (.release lease))) := by
  have none : (List.range (call.connections.call (.release lease)).leases.length).drop
      call.connections.leases.length = [] := by
    rw [release_length, List.drop_eq_nil_iff, List.length_range]
  have within := kept.shared.bounded lease member
  have phase := kept.phase
  obtain ⟨connections, bandwidth, others, current, returned⟩ := call
  simp only [ProxyCall.receive, none, List.append_nil] at *
  refine ⟨kept.shared.release within, ?_⟩
  cases current with
  | idle => exact ⟨fun other bound => phase.1 other (by rwa [release_length] at bound), phase.2⟩
  | refused _ => exact ⟨fun other bound => phase.1 other (by rwa [release_length] at bound), phase.2⟩
  | calling _ _ => exact OwnSlot.released phase member
  | failed _ _ => exact OwnSlot.released phase member
  | withoutBody _ => exact OwnSlot.released phase member
  | withBody _ _ _ => exact ⟨phase.1.released member, phase.2⟩

/-- The others are granted a slot. -/
theorem Kept.connectionsGranted (kept : Kept call) {limiter : PublicationConnectionLimiter}
    {lease : PublicationConnectionLease}
    (granted : call.connections.limiter.tryAcquire scope = (some lease, limiter)) :
    Kept (call.receive hashPublishedServiceToken (.connectionsUsed (.tryAcquire scope))) := by
  have reachable := kept.shared.acquire scope
  obtain ⟨same, _⟩ := acquire_leases granted
  have added : (List.range (call.connections.leases ++ [lease]).length).drop call.connections.leases.length =
      [call.connections.leases.length] := by
    rw [List.length_append, List.length_singleton, List.range_succ, List.drop_append_of_le_length (by simp)]
    simp
  rw [same] at reachable
  have phase := kept.phase
  have bounded := kept.shared.bounded
  obtain ⟨connections, bandwidth, others, current, returned⟩ := call
  simp only [ProxyCall.receive, same, added] at *
  refine ⟨⟨reachable, fun other member => ?_⟩, ?_⟩
  · simp only [List.mem_append, List.mem_singleton] at member
    simp only [List.length_append, List.length_singleton]
    rcases member with member | rfl
    · exact Nat.lt_succ_of_lt (bounded other member)
    · exact Nat.lt_succ_self _
  · have all (held : ∀ other < connections.leases.length, other ∈ others) :
        ∀ other < (connections.leases ++ [lease]).length, other ∈ others ++ [connections.leases.length] := by
      intro other bound
      simp only [List.length_append, List.length_singleton] at bound
      by_cases last : other = connections.leases.length
      · simp [last]
      · simp [held other (by omega)]
    cases current with
    | idle => exact ⟨all phase.1, phase.2⟩
    | refused _ => exact ⟨all phase.1, phase.2⟩
    | calling _ _ => exact OwnSlot.acquired phase
    | failed _ _ => exact OwnSlot.acquired phase
    | withoutBody _ => exact OwnSlot.acquired phase
    | withBody _ _ _ => exact ⟨phase.1.acquired, phase.2⟩

/-- The others take and give back slots of their own. -/
theorem Kept.connectionsUsed (kept : Kept call) (used : LimiterCall)
    (allowed : call.CanReceive (.connectionsUsed used)) :
    Kept (call.receive hashPublishedServiceToken (.connectionsUsed used)) := by
  cases used with
  | release lease => exact kept.connectionsReleased allowed
  | tryAcquire scope =>
      cases outcome : call.connections.limiter.tryAcquire scope with
      | mk granted limiter =>
          cases granted with
          | some lease => exact kept.connectionsGranted outcome
          | none =>
              have same := (acquire_none outcome).2
              have none : (List.range call.connections.leases.length).drop call.connections.leases.length = [] := by
                rw [List.drop_eq_nil_iff, List.length_range]
              have unchanged : call.receive hashPublishedServiceToken (.connectionsUsed (.tryAcquire scope)) = call := by
                simp only [ProxyCall.receive, same, none, List.append_nil]
              rw [unchanged]
              exact kept

theorem Kept.receive (kept : Kept call) (event : ProxyEvent) (allowed : call.CanReceive event) :
    Kept (call.receive hashPublishedServiceToken event) := by
  cases event with
  | connectionsUsed used => exact kept.connectionsUsed used allowed
  | bandwidthUsed scope bytes now counted => exact ⟨kept.shared, kept.phase⟩
  | proxy publication scope request now =>
      cases phase : call.phase with
      | idle => simpa only [ProxyCall.receive, phase] using kept.proxy phase publication scope request now
      | withBody scope own body => simpa only [ProxyCall.receive, phase] using kept.stream phase _
      | refused _ => simpa only [ProxyCall.receive, phase] using kept
      | calling _ _ => simpa only [ProxyCall.receive, phase] using kept
      | failed _ _ => simpa only [ProxyCall.receive, phase] using kept
      | withoutBody _ => simpa only [ProxyCall.receive, phase] using kept
  | upstream outcome =>
      cases phase : call.phase with
      | calling scope own => simpa only [ProxyCall.receive, phase] using kept.upstream phase outcome
      | withBody scope own body => simpa only [ProxyCall.receive, phase] using kept.stream phase _
      | idle => simpa only [ProxyCall.receive, phase] using kept
      | refused _ => simpa only [ProxyCall.receive, phase] using kept
      | failed _ _ => simpa only [ProxyCall.receive, phase] using kept
      | withoutBody _ => simpa only [ProxyCall.receive, phase] using kept
  | pull | read | readerCancelled | drained | cancel =>
      cases phase : call.phase with
      | withBody scope own body => simpa only [ProxyCall.receive, phase] using kept.stream phase _
      | idle => simpa only [ProxyCall.receive, phase] using kept
      | refused _ => simpa only [ProxyCall.receive, phase] using kept
      | calling _ _ => simpa only [ProxyCall.receive, phase] using kept
      | failed _ _ => simpa only [ProxyCall.receive, phase] using kept
      | withoutBody _ => simpa only [ProxyCall.receive, phase] using kept

end Events

/-! ## Whole calls -/

/-- The slot of a call is given back at most once, and once when the call has ended; a
refused call never had one. -/
structure SlotGivenBack (call : ProxyCall) : Prop where
  accounted : call.connections.Accounted
  refused : ∀ response, call.phase = .refused response →
    (∀ lease < call.connections.leases.length, lease ∈ call.others) ∧ call.returned = []
  once : ∀ own ∈ call.phase.lease, own ∉ call.others ∧
    ∃ lease ∈ call.connections.leases[own]?, call.returned = if lease.released then [own] else []
  ended : call.phase.Ended → ∀ own ∈ call.phase.lease,
    ∃ lease ∈ call.connections.leases[own]?, lease.released = true ∧ call.returned = [own]

/-- The publication is found, read over HTTP by one who may, and below its limits. -/
def MayConnect (hashPublishedServiceToken : String → String) (call : ProxyCall)
    (publication : Option PublishedServiceRow) (scope : Option PublicationConnectionScope)
    (request : ProxiedRequest) (now : Int) : Prop :=
  ∃ service ∈ publication, service.protocol = .http ∧
    mayRead hashPublishedServiceToken request service = true ∧
    ∃ wanted ∈ scope, (fitsDeclaredLength request call.bandwidth wanted now).1 = true ∧
      ¬ call.connections.limiter.AtLimit wanted

section Calls

variable {hashPublishedServiceToken : String → String} {call : ProxyCall}

theorem reachable_balanced {connections : Admissions} (reachable : limiterSystem.Reachable connections) :
    ∃ limits, connections.Balanced limits := by
  refine reachable.invariant (fun connections => ∃ limits, connections.Balanced limits) ?_ ?_
  · rintro connections ⟨limits, created⟩
    cases outcome : PublicationConnectionLimiter.create limits with
    | error message =>
        rw [outcome] at created
        cases created
    | ok limiter =>
        rw [outcome] at created
        cases created
        exact ⟨limits, Admissions.balanced_start outcome⟩
  · rintro connections used _ ⟨limits, balanced⟩
    exact ⟨limits, balanced.run [used]⟩

theorem kept_reachable (reachable : (proxySystem hashPublishedServiceToken).Reachable call) : Kept call := by
  refine reachable.invariant Kept ?_ ?_
  · rintro start ⟨connections, others, idle, nothing⟩
    refine ⟨⟨connections, ?_⟩, ?_⟩
    · intro lease member
      rwa [others, List.mem_range] at member
    · rw [idle]
      refine ⟨fun lease within => ?_, nothing⟩
      rwa [others, List.mem_range]
  · intro state event enabled kept
    exact kept.receive event enabled

theorem OwnSlot.given {connections : Admissions} {others returned : List Nat} {own : Nat} {held : Bool}
    (slot : OwnSlot connections others returned own held) :
    own ∉ others ∧ ∃ lease ∈ connections.leases[own]?,
      lease.released = !held ∧ returned = if lease.released then [own] else [] := by
  obtain ⟨lease, stored, released⟩ := slot.stored
  refine ⟨slot.fresh, lease, stored, released, ?_⟩
  rw [slot.once, released]
  cases held <;> rfl

theorem Kept.slotGivenBack (kept : Kept call) : SlotGivenBack call := by
  obtain ⟨limits, balanced⟩ := reachable_balanced kept.shared.reachable
  have phase := kept.phase
  obtain ⟨connections, bandwidth, others, current, returned⟩ := call
  have finished {own : Nat} (slot : OwnSlot connections others returned own false) :
      ∃ lease ∈ connections.leases[own]?, lease.released = true ∧ returned = [own] := by
    obtain ⟨_, lease, stored, released, once⟩ := slot.given
    rw [released] at once
    exact ⟨lease, stored, released, once⟩
  have once {own : Nat} {held : Bool} (slot : OwnSlot connections others returned own held) :
      own ∉ others ∧ ∃ lease ∈ connections.leases[own]?, returned = if lease.released then [own] else [] := by
    obtain ⟨fresh, lease, stored, _, once⟩ := slot.given
    exact ⟨fresh, lease, stored, once⟩
  refine ⟨balanced.accounted, ?_, ?_, ?_⟩
  · rintro response rfl
    exact phase
  · intro own owned
    cases current with
    | idle => cases owned
    | refused _ => cases owned
    | calling _ _ =>
        cases owned
        exact once phase
    | failed _ _ =>
        cases owned
        exact once phase
    | withoutBody _ =>
        cases owned
        exact once phase
    | withBody _ _ _ =>
        cases owned
        exact once phase.1
  · intro ended own owned
    cases current with
    | idle => cases owned
    | refused _ => cases owned
    | calling _ _ => cases ended
    | failed _ _ =>
        cases owned
        exact finished phase
    | withoutBody _ =>
        cases owned
        exact finished phase
    | withBody _ _ body =>
        cases owned
        obtain ⟨slot, readable⟩ := phase
        have unreadable : body.stream ≠ .readable := by
          rcases ended with closed | errored
          · simp [closed]
          · simp [errored]
        rw [readable.mpr unreadable] at slot
        exact finished slot

/-- A call that may not connect takes no slot. -/
theorem proxy_refuses (kept : Kept call) (publication : Option PublishedServiceRow)
    (scope : Option PublicationConnectionScope) (request : ProxiedRequest) (now : Int)
    (forbidden : ¬ MayConnect hashPublishedServiceToken call publication scope request now) :
    (call.proxy hashPublishedServiceToken publication scope request now).connections = call.connections ∧
      ∃ response, (call.proxy hashPublishedServiceToken publication scope request now).phase =
        .refused response := by
  obtain ⟨limits, balanced⟩ := reachable_balanced kept.shared.reachable
  unfold ProxyCall.proxy
  cases publication with
  | none => exact ⟨rfl, _, rfl⟩
  | some service =>
      simp only
      split
      · exact ⟨rfl, _, rfl⟩
      · rename_i http
        split
        · exact ⟨rfl, _, rfl⟩
        · rename_i allowed
          cases scope with
          | none => exact ⟨rfl, _, rfl⟩
          | some wanted =>
              simp only
              split
              · exact ⟨rfl, _, rfl⟩
              · rename_i bandwidth fits
                split
                · rename_i limiter refused
                  rw [(acquire_none refused).1]
                  exact ⟨rfl, _, rfl⟩
                · rename_i lease limiter acquired
                  exfalso
                  refine forbidden ⟨service, rfl, not_not.mp http, by simpa using allowed, wanted, rfl,
                    by rw [fits], fun full => ?_⟩
                  rw [← balanced.refused_iff wanted, acquired] at full
                  cases full

/-- For every history of the limiters and every order of the events of a call: its slot
is given back once, by the time that the call has failed or its body has ended, and a
call that may not connect takes none. -/
theorem proxy_givesBack (reachable : (proxySystem hashPublishedServiceToken).Reachable call) :
    SlotGivenBack call ∧
      ∀ publication scope request now,
        ¬ MayConnect hashPublishedServiceToken call publication scope request now →
          (call.proxy hashPublishedServiceToken publication scope request now).connections = call.connections ∧
            ∃ response, (call.proxy hashPublishedServiceToken publication scope request now).phase =
              .refused response :=
  ⟨(kept_reachable reachable).slotGivenBack, proxy_refuses (kept_reachable reachable)⟩

end Calls

section Sample

def publicSite : PublishedServiceRow :=
  ⟨"p1", "w1", "site", "s1", .http, 3000, none, .active, .publicAccess, .none, none, none, 1000, 1000, none⟩

def siteScope : PublicationConnectionScope := ⟨"worker", "acme", "site"⟩

def freshCall : ProxyCall where
  connections := .start { limits := ⟨2, 2, 2, 1⟩ }
  bandwidth := { limits := ⟨1000, 100, 100, 100, 100⟩ }
  others := []

/-- The client reads once, the budget is used up, and it leaves while the upstream is
being cancelled. -/
def abandonedRead : List ProxyEvent :=
  [.proxy (some publicSite) (some siteScope) ⟨none, none⟩ 0, .upstream .withBody, .pull,
    .read (.chunk 200 1 1), .cancel, .readerCancelled]

theorem proxy_givesBack_abandonedRead :
    let call := (proxySystem id).run freshCall abandonedRead
    call.returned = [0] ∧ call.connections.live = [] ∧ SlotGivenBack call :=
  have initial : (proxySystem id).Reachable freshCall :=
    .initial ⟨.initial ⟨⟨2, 2, 2, 1⟩, rfl⟩, rfl, rfl, rfl⟩
  have runs : (proxySystem id).Runs freshCall abandonedRead := by simp [abandonedRead, proxySystem, System.Runs,
    System.Along, ProxyCall.CanReceive]
  ⟨by decide, by decide, (proxy_givesBack (initial.run runs)).1⟩

end Sample

end NebulaCloud.Ingress
