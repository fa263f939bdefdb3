import NebulaCloud.Database.Schema

namespace NebulaCloud.Database

open NebulaCloud.Data NebulaCloud.Platform

/-! # Stripe events

Every delivery registers its event before it touches billing state and completes
it afterwards. -/

def requiredStripeText (value field : String) (maximum : Nat) : Except Failure String :=
  let normalized := trim value
  if normalized = "" ∨ maximum < utf16Length normalized then
    .error (.typeError
      (field ++ " must contain between 1 and " ++ toString maximum ++ " characters"))
  else .ok normalized

def stripeTimestamp (value : Int) (field : String) : Except Failure Int :=
  if IsNonNegativeSafeInteger value then .ok value
  else .error (.typeError (field ++ " must be a non-negative safe integer"))

theorem requiredStripeText_ok {value field text : String} {maximum : Nat}
    (accepted : requiredStripeText value field maximum = .ok text) :
    text = trim value ∧ text ≠ "" := by
  simp only [requiredStripeText] at accepted
  split at accepted
  · cases accepted
  · rename_i inside
    cases accepted
    exact ⟨rfl, fun empty => inside (.inl empty)⟩

theorem stripeTimestamp_ok {value timestamp : Int} {field : String} :
    stripeTimestamp value field = .ok timestamp ↔
      IsNonNegativeSafeInteger value ∧ timestamp = value := by
  unfold stripeTimestamp
  split
  · rename_i safe
    rw [Except.ok.injEq]
    exact ⟨fun same => ⟨safe, same.symm⟩, fun both => both.2.symm⟩
  · rename_i unsafeValue
    exact ⟨nofun, fun both => absurd both.1 unsafeValue⟩

structure StripeEventInput where
  stripeEventId : String
  type : String
  eventCreatedAt : Int
  receivedAt : Int
deriving DecidableEq, Repr

/-- The row that registration inserts for an unknown event. -/
def stripeEventCandidate (input : StripeEventInput) : Except Failure StripeEventRow := do
  let stripeEventId ← requiredStripeText input.stripeEventId "stripeEventId" 255
  let type ← requiredStripeText input.type "type" 255
  let eventCreatedAt ← stripeTimestamp input.eventCreatedAt "eventCreatedAt"
  let receivedAt ← stripeTimestamp input.receivedAt "receivedAt"
  .ok
    { stripeEventId
      type
      eventCreatedAt
      receivedAt
      processingResult := .pending
      processingMessage := none
      processedAt := none
      attemptCount := 0 }

/-- `INSERT INTO stripe_event … ON CONFLICT(stripe_event_id) DO NOTHING`.  Row
checks come before the conflict. -/
def insertStripeEvent (database : CloudDatabase) (candidate : StripeEventRow) :
    Except Failure (CloudDatabase × Bool) :=
  if ¬ candidate.Checks then .error (.constraint .eventChecks)
  else
    match lookup (·.stripeEventId) database.tables.stripeEvents candidate.stripeEventId with
    | some _ => .ok (database, false)
    | none => do
        let database ← statement database fun tables =>
          { tables with stripeEvents := tables.stripeEvents ++ [candidate] }
        .ok (database, true)

def registerStripeEvent (database : CloudDatabase) (input : StripeEventInput) :
    Except Failure (CloudDatabase × StripeEventRow × Bool) := do
  let candidate ← stripeEventCandidate input
  let (database, inserted) ← insertStripeEvent database candidate
  match lookup (·.stripeEventId) database.tables.stripeEvents candidate.stripeEventId with
  | none => .error (.error "Stripe event could not be resolved")
  | some event =>
      if event.type ≠ candidate.type ∨ event.eventCreatedAt ≠ candidate.eventCreatedAt then
        .error (.error "Stripe event identity conflicts with an existing event")
      else .ok (database, event, inserted)

/-- `processingMessage.trim().slice(0, 1024) || null`. -/
def storedMessage (message : String) : Option String :=
  let shortened := slice (trim message) 1024
  if shortened = "" then none else some shortened

/-- What completion writes to the row of an event. -/
def StripeEventRow.completed (processingResult : StripeEventProcessingResult)
    (processingMessage : String) (processedAt : Int) (event : StripeEventRow) : StripeEventRow :=
  { event with
    processingResult
    processingMessage := storedMessage processingMessage
    processedAt := some processedAt
    attemptCount := event.attemptCount + 1 }

def completeStripeEvent (database : CloudDatabase) (stripeEventId : String)
    (processingResult : StripeEventProcessingResult) (processingMessage : String)
    (processedAt : Int) : Except Failure (CloudDatabase × StripeEventRow) := do
  if lookup (·.stripeEventId) database.tables.stripeEvents stripeEventId = none then
    .error (.error "Stripe event was not found")
  else
    let database ← statement database fun tables =>
      { tables with
        stripeEvents := updateWhere (fun event => event.stripeEventId = stripeEventId)
          (StripeEventRow.completed processingResult processingMessage processedAt)
          tables.stripeEvents }
    match lookup (·.stripeEventId) database.tables.stripeEvents stripeEventId with
    | none => .error (.error "Stripe event could not be resolved")
    | some event => .ok (database, event)

/-- A completed delivery: a redelivery of it changes nothing. -/
def StripeEventRow.isSettled (event : StripeEventRow) : Bool :=
  event.processingResult = .applied || event.processingResult = .ignored

def failStripeEvent (database : CloudDatabase) (input : StripeEventInput)
    (processingMessage : String) (now : Int) : Except Failure (CloudDatabase × StripeEventRow) := do
  let (database, event, _) ← registerStripeEvent database input
  if event.isSettled then .ok (database, event)
  else
    let processedAt ← stripeTimestamp now "processedAt"
    completeStripeEvent database event.stripeEventId .failed processingMessage processedAt

section Specs

variable {database after : CloudDatabase} {input : StripeEventInput} {event : StripeEventRow}
  {inserted : Bool} {stripeEventId processingMessage : String}
  {processingResult : StripeEventProcessingResult} {processedAt now : Int}

theorem stripeEventCandidate_ok {candidate : StripeEventRow}
    (accepted : stripeEventCandidate input = .ok candidate) :
    candidate.stripeEventId = trim input.stripeEventId ∧ candidate.type = trim input.type ∧
      candidate.eventCreatedAt = input.eventCreatedAt ∧ candidate.isSettled = false := by
  obtain ⟨_, idText, accepted⟩ := bind_ok.mp accepted
  obtain ⟨_, typeText, accepted⟩ := bind_ok.mp accepted
  obtain ⟨_, created, accepted⟩ := bind_ok.mp accepted
  obtain ⟨_, _, accepted⟩ := bind_ok.mp accepted
  cases accepted
  exact ⟨(requiredStripeText_ok idText).1, (requiredStripeText_ok typeText).1,
    (stripeTimestamp_ok.mp created).2, rfl⟩

theorem stripeEventCandidate_attempts {candidate : StripeEventRow}
    (accepted : stripeEventCandidate input = .ok candidate) : candidate.attemptCount = 0 := by
  obtain ⟨_, _, accepted⟩ := bind_ok.mp accepted
  obtain ⟨_, _, accepted⟩ := bind_ok.mp accepted
  obtain ⟨_, _, accepted⟩ := bind_ok.mp accepted
  obtain ⟨_, _, accepted⟩ := bind_ok.mp accepted
  cases accepted
  rfl

/-- The time of receipt is only recorded. -/
theorem stripeEventCandidate_receivedAt {candidate : StripeEventRow} {receivedAt : Int}
    (accepted : stripeEventCandidate input = .ok candidate)
    (valid : IsNonNegativeSafeInteger receivedAt) :
    stripeEventCandidate { input with receivedAt } = .ok { candidate with receivedAt } := by
  obtain ⟨stripeEventId, idText, accepted⟩ := bind_ok.mp accepted
  obtain ⟨type, typeText, accepted⟩ := bind_ok.mp accepted
  obtain ⟨eventCreatedAt, created, accepted⟩ := bind_ok.mp accepted
  obtain ⟨_, _, accepted⟩ := bind_ok.mp accepted
  cases accepted
  refine bind_ok.mpr ⟨stripeEventId, idText, bind_ok.mpr ⟨type, typeText, ?_⟩⟩
  refine bind_ok.mpr ⟨eventCreatedAt, created, ?_⟩
  exact bind_ok.mpr ⟨receivedAt, stripeTimestamp_ok.mpr ⟨valid, rfl⟩, rfl⟩

/-- Registration finds the event or appends a pending one, and writes nothing else. -/
theorem registerStripeEvent_ok
    (registered : registerStripeEvent database input = .ok (after, event, inserted)) :
    ∃ candidate, stripeEventCandidate input = .ok candidate ∧
      event.stripeEventId = candidate.stripeEventId ∧ event.type = candidate.type ∧
      event.eventCreatedAt = candidate.eventCreatedAt ∧
      ((inserted = false ∧ after = database ∧
          lookup (·.stripeEventId) database.tables.stripeEvents candidate.stripeEventId =
            some event) ∨
        (inserted = true ∧ event = candidate ∧
          lookup (·.stripeEventId) database.tables.stripeEvents candidate.stripeEventId = none ∧
          after.tables = { database.tables with
            stripeEvents := database.tables.stripeEvents ++ [candidate] })) := by
  obtain ⟨candidate, accepted, registered⟩ := bind_ok.mp registered
  obtain ⟨⟨stored, fresh⟩, insert, registered⟩ := bind_ok.mp registered
  simp only at registered
  split at registered
  · cases registered
  · rename_i found resolved
    split at registered
    · cases registered
    · rename_i identity
      cases registered
      rw [not_or, not_ne_iff, not_ne_iff] at identity
      refine ⟨candidate, accepted, lookup_key resolved, identity.1, identity.2, ?_⟩
      unfold insertStripeEvent at insert
      split at insert
      · cases insert
      · split at insert
        · cases insert
          exact .inl ⟨rfl, rfl, resolved⟩
        · rename_i absent
          obtain ⟨grown, write, returned⟩ := bind_ok.mp insert
          have written := Store.execute_ok.mp write
          cases returned
          have appended : lookup (·.stripeEventId) after.tables.stripeEvents
              candidate.stripeEventId = some candidate := by
            rw [written]
            exact (lookup_append_fresh absent).trans (if_pos rfl)
          rw [appended] at resolved
          cases resolved
          exact .inr ⟨rfl, rfl, absent, written⟩

/-- Registration leaves the event in its table. -/
theorem registerStripeEvent_found
    (registered : registerStripeEvent database input = .ok (after, event, inserted)) :
    lookup (·.stripeEventId) after.tables.stripeEvents event.stripeEventId = some event := by
  obtain ⟨candidate, _, sameId, _, _, known | fresh⟩ := registerStripeEvent_ok registered
  · rw [sameId, known.2.1]
    exact known.2.2
  · obtain ⟨_, rfl, absent, written⟩ := fresh
    rw [written]
    exact (lookup_append_fresh absent).trans (if_pos rfl)

theorem registerStripeEvent_nonneg
    (registered : registerStripeEvent database input = .ok (after, event, inserted)) :
    0 ≤ event.eventCreatedAt := by
  obtain ⟨candidate, accepted, _, _, sameTime, _⟩ := registerStripeEvent_ok registered
  obtain ⟨_, _, accepted⟩ := bind_ok.mp accepted
  obtain ⟨_, _, accepted⟩ := bind_ok.mp accepted
  obtain ⟨eventCreatedAt, timestamp, accepted⟩ := bind_ok.mp accepted
  obtain ⟨_, _, accepted⟩ := bind_ok.mp accepted
  cases accepted
  rw [sameTime]
  have valid := (stripeTimestamp_ok.mp timestamp)
  rw [valid.2]
  exact valid.1.1

theorem registerStripeEvent_checks
    (registered : registerStripeEvent database input = .ok (after, event, inserted)) :
    ∃ candidate, stripeEventCandidate input = .ok candidate ∧ candidate.Checks := by
  obtain ⟨candidate, accepted, registered⟩ := bind_ok.mp registered
  obtain ⟨_, insert, _⟩ := bind_ok.mp registered
  refine ⟨candidate, accepted, ?_⟩
  unfold insertStripeEvent at insert
  split at insert
  · cases insert
  · rename_i checks
    exact not_not.mp checks

theorem registerStripeEvent_frame
    (registered : registerStripeEvent database input = .ok (after, event, inserted)) :
    ∃ stripeEvents, after.tables = { database.tables with stripeEvents } := by
  obtain ⟨_, _, _, _, _, known | fresh⟩ := registerStripeEvent_ok registered
  · exact ⟨database.tables.stripeEvents, by rw [known.2.1]⟩
  · exact ⟨_, fresh.2.2.2⟩

/-- Completion rewrites the row of the event and writes nothing else. -/
theorem completeStripeEvent_ok
    (completed : completeStripeEvent database stripeEventId processingResult processingMessage
      processedAt = .ok (after, event)) :
    after.tables = { database.tables with
      stripeEvents := updateWhere (fun event => event.stripeEventId = stripeEventId)
        (StripeEventRow.completed processingResult processingMessage processedAt)
        database.tables.stripeEvents } := by
  unfold completeStripeEvent at completed
  split at completed
  · cases completed
  · obtain ⟨stored, update, completed⟩ := bind_ok.mp completed
    split at completed
    · cases completed
    · cases completed
      exact Store.execute_ok.mp update

theorem failStripeEvent_frame
    (failed : failStripeEvent database input processingMessage now = .ok (after, event)) :
    ∃ stripeEvents, after.tables = { database.tables with stripeEvents } := by
  obtain ⟨⟨registered, found, inserted⟩, register, failed⟩ := bind_ok.mp failed
  obtain ⟨stripeEvents, written⟩ := registerStripeEvent_frame register
  simp only at failed
  split at failed
  · cases failed
    exact ⟨stripeEvents, written⟩
  · obtain ⟨timestamp, _, failed⟩ := bind_ok.mp failed
    have completed := completeStripeEvent_ok failed
    exact ⟨_, by rw [completed, written]⟩

/-- Failing an unsettled event completes it. -/
theorem failStripeEvent_unsettled
    (register : registerStripeEvent database input = .ok (after, event, inserted))
    (unsettled : event.isSettled = false) (valid : IsNonNegativeSafeInteger now) :
    failStripeEvent database input processingMessage now =
      completeStripeEvent after event.stripeEventId .failed processingMessage now := by
  have timestamp : stripeTimestamp now "processedAt" = .ok now := stripeTimestamp_ok.mpr ⟨valid, rfl⟩
  simp only [failStripeEvent, register, timestamp, bind, Except.bind, unsettled, Bool.false_eq_true,
    if_false]

/-- Every message that completion stores fits its column. -/
theorem storedMessage_fits (message : String) :
    ∀ stored ∈ storedMessage message, sqlLength stored ≤ 1024 := by
  intro stored member
  simp only [storedMessage] at member
  split at member
  · cases member
  · rw [← Option.some.inj member]
    exact sqlLength_slice (trim message) 1024

/-- Only two constraints look at the events. -/
theorem consistent_of_stripeEvents (database : CloudDatabase) {stripeEvents : List StripeEventRow}
    (distinct : (stripeEvents.map (·.stripeEventId)).Nodup)
    (checks : ∀ event ∈ stripeEvents, event.Checks) :
    schema.Consistent { database.tables with stripeEvents } := by
  intro constraint
  have held := database.consistent constraint
  cases constraint with
  | eventId => exact distinct
  | eventChecks => exact checks
  | _ => exact held

/-- A well-formed event that is not stored yet is registered as pending. -/
theorem registerStripeEvent_fresh {candidate : StripeEventRow}
    (accepted : stripeEventCandidate input = .ok candidate) (checks : candidate.Checks)
    (absent : lookup (·.stripeEventId) database.tables.stripeEvents candidate.stripeEventId = none) :
    ∃ after, registerStripeEvent database input = .ok (after, candidate, true) ∧
      after.tables = { database.tables with
        stripeEvents := database.tables.stripeEvents ++ [candidate] } := by
  have distinct : ((database.tables.stripeEvents ++ [candidate]).map (·.stripeEventId)).Nodup :=
    nodup_append_fresh (database.consistent .eventId) (lookup_eq_none.mp absent)
  have rowChecks : ∀ event ∈ database.tables.stripeEvents ++ [candidate], event.Checks := by
    intro row member
    rcases List.mem_append.mp member with stored | fresh
    · exact database.consistent .eventChecks row stored
    · rw [List.mem_singleton.mp fresh]
      exact checks
  let after : CloudDatabase := ⟨_, consistent_of_stripeEvents database distinct rowChecks⟩
  have inserted : insertStripeEvent database candidate = .ok (after, true) := by
    unfold insertStripeEvent
    rw [if_neg (not_not.mpr checks), absent]
    exact bind_ok.mpr ⟨after, Store.execute_of_consistent after.consistent, rfl⟩
  have found : lookup (·.stripeEventId) after.tables.stripeEvents candidate.stripeEventId =
      some candidate := (lookup_append_fresh absent).trans (if_pos rfl)
  refine ⟨after, bind_ok.mpr ⟨candidate, accepted, bind_ok.mpr ⟨(after, true), inserted, ?_⟩⟩, rfl⟩
  simp [found]

/-- A redelivery finds the event. -/
theorem registerStripeEvent_known {candidate : StripeEventRow}
    (accepted : stripeEventCandidate input = .ok candidate) (checks : candidate.Checks)
    (known : lookup (·.stripeEventId) database.tables.stripeEvents candidate.stripeEventId =
      some event)
    (sameType : event.type = candidate.type)
    (sameTime : event.eventCreatedAt = candidate.eventCreatedAt) :
    registerStripeEvent database input = .ok (database, event, false) := by
  have inserted : insertStripeEvent database candidate = .ok (database, false) := by
    unfold insertStripeEvent
    rw [if_neg (not_not.mpr checks), known]
  refine bind_ok.mpr ⟨candidate, accepted, bind_ok.mpr ⟨(database, false), inserted, ?_⟩⟩
  simp [known, sameType, sameTime]

/-- A second registration finds what the first one left. -/
theorem registerStripeEvent_again
    (registered : registerStripeEvent database input = .ok (after, event, inserted)) :
    registerStripeEvent after input = .ok (after, event, false) := by
  obtain ⟨candidate, accepted, checks⟩ := registerStripeEvent_checks registered
  obtain ⟨_, again, sameId, sameType, sameTime, _⟩ := registerStripeEvent_ok registered
  obtain rfl := Except.ok.inj (accepted.symm.trans again)
  have found := registerStripeEvent_found registered
  rw [sameId] at found
  exact registerStripeEvent_known accepted checks found sameType sameTime

/-- Completion leaves a row that meets its checks. -/
theorem StripeEventRow.completed_checks (settled : processingResult ≠ .pending)
    (checks : event.Checks) :
    (event.completed processingResult processingMessage processedAt).Checks := by
  have outcome : processingResult = .pending ↔ some processedAt = none :=
    ⟨fun pending => absurd pending settled, nofun⟩
  exact ⟨Int.le_add_one checks.1, checks.2.1, checks.2.2.1, storedMessage_fits processingMessage,
    outcome⟩

/-- A registered event can always be completed. -/
theorem completeStripeEvent_known (processingMessage : String) (processedAt : Int)
    (known : lookup (·.stripeEventId) database.tables.stripeEvents stripeEventId = some event)
    (settled : processingResult ≠ .pending) :
    ∃ after, completeStripeEvent database stripeEventId processingResult processingMessage
      processedAt =
        .ok (after, event.completed processingResult processingMessage processedAt) := by
  let complete := StripeEventRow.completed processingResult processingMessage processedAt
  let rows := updateWhere (fun event : StripeEventRow => event.stripeEventId = stripeEventId) complete
    database.tables.stripeEvents
  have sameId : ∀ event : StripeEventRow, (complete event).stripeEventId = event.stripeEventId :=
    fun _ => rfl
  have distinct : (rows.map (·.stripeEventId)).Nodup := by
    rw [map_updateWhere sameId]
    exact database.consistent .eventId
  have rowChecks : ∀ event ∈ rows, event.Checks := by
    intro row member
    obtain ⟨before, stored, changed⟩ := mem_updateWhere.mp member
    have checks : before.Checks := database.consistent .eventChecks before stored
    rw [← changed]
    split
    · exact StripeEventRow.completed_checks settled checks
    · exact checks
  let after : CloudDatabase := ⟨_, consistent_of_stripeEvents database distinct rowChecks⟩
  have found : lookup (·.stripeEventId) rows stripeEventId = some (complete event) := by
    rw [lookup_updateWhere fun event _ => sameId event, known]
    simp [lookup_key known]
  refine ⟨after, ?_⟩
  unfold completeStripeEvent
  rw [if_neg (by simp [known])]
  refine bind_ok.mpr ⟨after, Store.execute_of_consistent after.consistent, ?_⟩
  have resolved : lookup (·.stripeEventId) after.tables.stripeEvents stripeEventId =
      some (complete event) := found
  simp only [resolved]
  rfl

end Specs

end NebulaCloud.Database
