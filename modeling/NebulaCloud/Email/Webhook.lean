import NebulaCloud.Email.Status
import NebulaCloud.Platform.Json

namespace NebulaCloud.Email

open NebulaCloud.Data NebulaCloud.Platform
open NebulaCloud.Database (IsTokenHash)

/-! # Sends and the provider's webhooks

A send begins its delivery, waits for the provider and stores the message id that
the provider answers with.  The provider may call back at any time in between. -/

/-- What the runtime computes for the sender and for the webhook processor. -/
structure EmailRuntime where
  provider : String
  toLowerCase : String → String
  /-- `createHmac('sha256', secret)` in hexadecimal. -/
  recipientDigest : String → String
  webhookDigest : String → List UInt8
  decodeBase64 : String → List UInt8

/-! ## The webhook processor -/

structure ResendWebhookRequest where
  svixId : Option String
  svixTimestamp : Option String
  svixSignature : Option String
  /-- `Number(timestampText)`, where it is a safe integer. -/
  timestamp : Option Int
  rawBody : String
  /-- What `JSON.parse` makes of the body, where it does not throw. -/
  payload : Option Json

inductive ResendFailure
  | verification (message : String)
  | processing (failure : EmailFailure)

def maximumWebhookAgeSeconds : Int := 5 * 60

def resendStatus (value : Option Json) : Option ProviderStatus :=
  match value with
  | some (.string type) =>
      if type = "email.delivered" then some .delivered
      else if type = "email.delivery_delayed" then some .delayed
      else if type = "email.bounced" then some .bounced
      else if type = "email.complained" then some .complained
      else if type = "email.suppressed" then some .suppressed
      else none
  | _ => none

/-- The message id and the status that a payload reports. -/
def payloadReport (payload : Json) : Option (String × ProviderStatus) := do
  let event ← asRecord (some payload)
  let status ← resendStatus (event.get "type")
  match (asRecord (event.get "data")).bind (·.get "email_id") with
  | some (.string providerMessageId) =>
      if trim providerMessageId = "" then none else some (providerMessageId, status)
  | _ => none

section

variable (runtime : EmailRuntime)

def signatureVerified (signed signatures : String) : Bool :=
  (signatures.toList.splitOn ' ').any fun signature =>
    match signature.splitOn ',' with
    | version :: encoded :: _ =>
        version = "v1".toList && encoded ≠ [] &&
          runtime.decodeBase64 (String.ofList encoded) = runtime.webhookDigest signed
    | _ => false

/-- `process`: the store and `projected`. -/
def process (store : EmailStore) (request : ResendWebhookRequest) (now timestamp : Int) :
    Except ResendFailure (EmailStore × Bool) :=
  let refused : ResendFailure := .verification "Resend webhook verification failed"
  let webhookId := trim (request.svixId.getD "")
  let timestampText := trim (request.svixTimestamp.getD "")
  let signatures := trim (request.svixSignature.getD "")
  match request.timestamp with
  | none => .error refused
  | some signedAt =>
      if webhookId = "" ∨ maximumWebhookAgeSeconds < (now / 1000 - signedAt).natAbs then .error refused
      else if ¬ signatureVerified runtime (webhookId ++ "." ++ timestampText ++ "." ++ request.rawBody)
          signatures then .error refused
      else
        match request.payload with
        | none => .error (.verification "Resend webhook body is invalid")
        | some payload =>
            match payloadReport payload with
            | none => .ok (store, false)
            | some (providerMessageId, status) =>
                match projectEmailDeliveryStatus store providerMessageId status timestamp with
                | .ok (store, delivery) => .ok (store, delivery.isSome)
                | .error failure => .error (.processing failure)

end

/-! ## Sends and webhooks together -/

/-- A send that has stored its message id. -/
structure Sent where
  id : String
  message : String
  recipientHash : String
deriving DecidableEq

structure EmailService where
  store : EmailStore
  /-- The sends that wait for the provider: the delivery's id and its recipient. -/
  waiting : List (String × String) := []
  sent : List Sent := []
  /-- The reports answered with `received: true`, newest first. -/
  acknowledged : List (String × ProviderStatus) := []

/-- How the provider's `send` settles. -/
inductive ProviderOutcome
  | receipt (providerMessageId : String)
  | thrown (recipientSuppressed : Bool)
deriving DecidableEq

inductive EmailEvent
  | send (recipient : String) (kind : EmailDeliveryKind) (id : String) (timestamp : Int)
  | answer (id : String) (outcome : ProviderOutcome) (timestamp failedAt : Int)
  | webhook (request : ResendWebhookRequest) (now timestamp : Int)

section

variable (runtime : EmailRuntime)

/-- The part of `send` before its await. -/
def EmailService.send (service : EmailService) (recipient : String) (kind : EmailDeliveryKind)
    (id : String) (timestamp : Int) : EmailService :=
  let recipientHash := runtime.recipientDigest (runtime.toLowerCase (trim recipient))
  if isEmailRecipientSuppressed service.store recipientHash then service
  else
    match beginEmailDelivery service.store { id, provider := runtime.provider, kind, recipientHash }
      timestamp with
    | .ok (store, _) => { service with store, waiting := (id, recipientHash) :: service.waiting }
    | .error _ => service

/-- The `catch` block. -/
def EmailService.fail (service : EmailService) (id : String) (recipientSuppressed : Bool) (failedAt : Int) :
    EmailService :=
  let errorCode := if recipientSuppressed then "email_recipient_suppressed" else "provider_send_failed"
  { service with
    store := emailSystem.step service.store (.markFailed id errorCode failedAt)
    waiting := service.waiting.filter (·.1 ≠ id) }

/-- The part of `send` after its await. -/
def EmailService.answer (service : EmailService) (id : String) (outcome : ProviderOutcome)
    (timestamp failedAt : Int) : EmailService :=
  match service.waiting.lookup id with
  | none => service
  | some recipientHash =>
      match outcome with
      | .thrown recipientSuppressed => service.fail id recipientSuppressed failedAt
      | .receipt providerMessageId =>
          match markEmailDeliverySent service.store id providerMessageId timestamp with
          | .error _ => service.fail id false failedAt
          | .ok (store, _) =>
              { service with
                store, waiting := service.waiting.filter (·.1 ≠ id)
                sent := ⟨id, trim providerMessageId, recipientHash⟩ :: service.sent }

/-- The route answers 200 when `process` returns. -/
def EmailService.webhook (service : EmailService) (request : ResendWebhookRequest)
    (now timestamp : Int) : EmailService :=
  match process runtime service.store request now timestamp with
  | .error _ => service
  | .ok (store, _) =>
      let report := (request.payload.bind payloadReport).map fun report => (trim report.1, report.2)
      { service with store, acknowledged := report.toList ++ service.acknowledged }

/-- The ids come from `randomUUID`. -/
def emailServiceSystem : System EmailService EmailEvent where
  Initial service := service.store.tables = [] ∧ service.waiting = [] ∧ service.sent = [] ∧
    service.acknowledged = []
  Enabled service
    | .send _ _ id _ => trim id = id
    | .answer id _ _ _ => service.waiting.lookup id ≠ none
    | .webhook _ _ _ => True
  step service
    | .send recipient kind id timestamp => service.send runtime recipient kind id timestamp
    | .answer id outcome timestamp failedAt => service.answer id outcome timestamp failedAt
    | .webhook request now timestamp => service.webhook runtime request now timestamp

instance (service : EmailService) : Decidable ((emailServiceSystem runtime).Initial service) :=
  inferInstanceAs (Decidable (_ ∧ _))

instance (service : EmailService) : (event : EmailEvent) →
    Decidable ((emailServiceSystem runtime).Enabled service event)
  | .send _ _ id _ => inferInstanceAs (Decidable (trim id = id))
  | .answer id _ _ _ => inferInstanceAs (Decidable (service.waiting.lookup id ≠ none))
  | .webhook _ _ _ => inferInstanceAs (Decidable True)

end

/-- A report that suppresses the recipient of the message has been acknowledged. -/
def EmailService.Complained (service : EmailService) (message : String) : Prop :=
  ∃ report ∈ service.acknowledged, report.1 = message ∧ report.2.status.terminal = true

/-- The recipients of all sent messages with such a report are suppressed. -/
def EmailService.NothingLost (service : EmailService) : Prop :=
  ∀ sent ∈ service.sent, service.Complained sent.message →
    isEmailRecipientSuppressed service.store sent.recipientHash = true

/-- The message id is stored before a suppressing report on the message is
acknowledged, or another delivery has suppressed the recipient by then. -/
def EmailService.StoredInTime (service : EmailService) : EmailEvent → Prop
  | .answer id (.receipt providerMessageId) timestamp _ =>
      (∃ result, markEmailDeliverySent service.store id providerMessageId timestamp = .ok result) →
        service.Complained (trim providerMessageId) →
          ∀ recipientHash, service.waiting.lookup id = some recipientHash →
            isEmailRecipientSuppressed service.store recipientHash = true
  | _ => True

/-! ## What the service keeps -/

/-- The sends as the store has them. -/
structure EmailService.Tracked (service : EmailService) : Prop where
  reachable : emailSystem.Reachable service.store
  sent : ∀ sent ∈ service.sent, ∃ delivery ∈ service.store.tables, delivery.id = sent.id ∧
    delivery.providerMessageId = some sent.message ∧ delivery.recipientHash = sent.recipientHash
  waiting : ∀ pending ∈ service.waiting, ∃ delivery ∈ service.store.tables,
    delivery.id = pending.1 ∧ delivery.recipientHash = pending.2 ∧ delivery.status = .sending

/-- The delivery whose sending the call ends. -/
def EmailCall.marks : EmailCall → Option String
  | .markSent id _ _ | .markFailed id _ _ => some id
  | _ => none

variable {runtime : EmailRuntime} {service : EmailService} {store after : EmailStore}
  {delivery : EmailDeliveryRow} {call : EmailCall} {message recipientHash : String}

theorem next_waiting (sending : delivery.status = .sending) (marked : delivery.Marked)
    (other : call.marks ≠ some delivery.id) : delivery.next call = delivery := by
  have unknown : delivery.providerMessageId = none := by
    cases known : delivery.providerMessageId with
    | none => rfl
    | some message =>
        have classed := (marked.checked message known).1
        rw [sending] at classed
        exact absurd rfl classed
  cases call with
  | begin input timestamp => rfl
  | markSent id providerMessageId timestamp =>
      have different : delivery.id ≠ id := fun same => other (congrArg some same.symm)
      simp [EmailDeliveryRow.next, different]
  | markFailed id errorCode timestamp =>
      have different : delivery.id ≠ id := fun same => other (congrArg some same.symm)
      simp [EmailDeliveryRow.next, different]
  | project providerMessageId status timestamp => simp [EmailDeliveryRow.next, unknown]

/-- A call keeps what the store knows of the sends, but for the one that it marks. -/
theorem EmailService.Tracked.afterCall (tracked : service.Tracked) (call : EmailCall)
    {waiting : List (String × String)} (fewer : ∀ pending ∈ waiting, pending ∈ service.waiting)
    (others : ∀ pending ∈ waiting, call.marks ≠ some pending.1) :
    { service with store := emailSystem.step service.store call, waiting }.Tracked where
  reachable := .step tracked.reachable trivial
  sent sent member := by
    obtain ⟨delivery, held, id, known, hash⟩ := tracked.sent sent member
    have marked := marked_of_reachable tracked.reachable delivery held
    obtain ⟨statusClass, classed⟩ := Option.ne_none_iff_exists'.mp (marked.checked _ known).1
    refine ⟨_, @step_mem service.store delivery call held, ?_⟩
    split
    · exact ⟨next_identity.1.trans id, next_message known classed, next_identity.2.1.trans hash⟩
    · exact ⟨id, known, hash⟩
  waiting pending member := by
    obtain ⟨delivery, held, id, hash, sending⟩ := tracked.waiting pending (fewer pending member)
    have marked := marked_of_reachable tracked.reachable delivery held
    have same : delivery.next call = delivery := next_waiting sending marked (id ▸ others pending member)
    have stepped := @step_mem service.store delivery call held
    rw [same, ite_self] at stepped
    exact ⟨delivery, stepped, id, hash, sending⟩

theorem EmailService.NothingLost.afterCall (nothingLost : service.NothingLost) (call : EmailCall)
    (waiting : List (String × String)) :
    { service with store := emailSystem.step service.store call, waiting }.NothingLost :=
  fun sent member complained => suppressed_step (nothingLost sent member complained)

theorem ne_of_mem_filter {waiting : List (String × String)} {id : String} :
    ∀ pending ∈ waiting.filter (·.1 ≠ id), pending ∈ waiting ∧ some id ≠ some pending.1 := by
  intro pending member
  obtain ⟨held, different⟩ := List.mem_filter.mp member
  exact ⟨held, fun same => by simp [Option.some.inj same] at different⟩

theorem EmailService.Tracked.fail (tracked : service.Tracked) (id : String) (recipientSuppressed : Bool)
    (failedAt : Int) : (service.fail id recipientSuppressed failedAt).Tracked :=
  tracked.afterCall _ (fun pending member => (ne_of_mem_filter pending member).1)
    fun pending member => (ne_of_mem_filter pending member).2

/-! ## One event -/

theorem send_cases (service : EmailService) (recipient : String) (kind : EmailDeliveryKind)
    (id : String) (timestamp : Int) :
    service.send runtime recipient kind id timestamp = service ∨
      ∃ input : BeginEmailDelivery, input.id = id ∧
        (EmailCall.begin input timestamp).succeeds service.store = true ∧
        service.send runtime recipient kind id timestamp =
          { service with
            store := emailSystem.step service.store (.begin input timestamp)
            waiting := (id, input.recipientHash) :: service.waiting } := by
  unfold EmailService.send
  simp only
  split
  · exact .inl rfl
  · split
    · rename_i begun
      obtain ⟨succeeded, stepped⟩ := @step_ok service.store (.begin _ timestamp) _ _ begun
      exact .inr ⟨_, rfl, succeeded, by rw [stepped]⟩
    · exact .inl rfl

/-- What `process` writes and acknowledges. -/
theorem process_ok {request : ResendWebhookRequest} {now timestamp : Int} {projected : Bool}
    (processed : process runtime store request now timestamp = .ok (after, projected)) :
    request.payload.bind payloadReport = none ∧ after = store ∨
      ∃ providerMessageId status,
        request.payload.bind payloadReport = some (providerMessageId, status) ∧
        (EmailCall.project providerMessageId status timestamp).succeeds store = true ∧
        after = emailSystem.step store (.project providerMessageId status timestamp) := by
  simp only [process] at processed
  split at processed
  · cases processed
  · split at processed
    · cases processed
    · split at processed
      · cases processed
      · split at processed
        · cases processed
        · rename_i payload parsed
          rw [parsed, Option.bind_some]
          split at processed
          · rename_i nothing
            cases processed
            exact .inl ⟨nothing, rfl⟩
          · rename_i providerMessageId status report
            split at processed
            · rename_i performed
              obtain ⟨succeeded, stepped⟩ :=
                @step_ok store (.project providerMessageId status timestamp) _ _ performed
              cases processed
              exact .inr ⟨providerMessageId, status, report, succeeded, stepped.symm⟩
            · cases processed

/-- A suppressing report on a stored message suppresses its recipient. -/
theorem suppressed_of_report (member : delivery ∈ store.tables) {providerMessageId : String}
    {status : ProviderStatus} {timestamp : Int}
    (known : delivery.providerMessageId = some (trim providerMessageId))
    (terminal : status.status.terminal = true)
    (succeeded : (EmailCall.project providerMessageId status timestamp).succeeds store = true) :
    isEmailRecipientSuppressed (emailSystem.step store (.project providerMessageId status timestamp))
      delivery.recipientHash = true := by
  have reported : (delivery.next (.project providerMessageId status timestamp)).status.terminal = true := by
    have notDelayed : status ≠ .delayed := by
      rintro rfl
      cases terminal
    simp only [EmailDeliveryRow.next, known, true_and, notDelayed, and_false, not_false_eq_true, and_true]
    by_cases already : delivery.status.terminal = true
    · simp [already]
    · simp [already, terminal]
  have stepped := @step_mem store delivery (.project providerMessageId status timestamp) member
  rw [if_pos succeeded] at stepped
  unfold isEmailRecipientSuppressed
  split
  · rfl
  · exact List.any_eq_true.mpr ⟨_, stepped, by simp [next_identity.2.1, reported]⟩

/-- Storing the message id suppresses nobody. -/
theorem suppressed_before_mark {id providerMessageId : String} {timestamp : Int}
    {result : Option EmailDeliveryRow}
    (stored : markEmailDeliverySent store id providerMessageId timestamp = .ok (after, result))
    (suppressed : isEmailRecipientSuppressed after recipientHash = true) :
    isEmailRecipientSuppressed store recipientHash = true := by
  unfold isEmailRecipientSuppressed at suppressed ⊢
  split
  · rfl
  · rename_i wellFormed
    rw [if_neg wellFormed, List.any_eq_true] at suppressed
    obtain ⟨changed, member, held⟩ := suppressed
    rw [@perform_ok store after (.markSent id providerMessageId timestamp) result stored] at member
    simp only [EmailCall.created, List.append_nil] at member
    obtain ⟨delivery, before, rfl⟩ := List.mem_map.mp member
    refine List.any_eq_true.mpr ⟨delivery, before, ?_⟩
    simp only [EmailDeliveryRow.next] at held
    split at held
    · simp [EmailDeliveryStatus.terminal] at held
    · exact held

theorem succeeds_ok (succeeded : call.succeeds store = true) :
    ∃ after result, call.perform store = .ok (after, result) := by
  unfold EmailCall.succeeds at succeeded
  cases performed : call.perform store with
  | ok result => exact ⟨result.1, result.2, rfl⟩
  | error failure =>
      rw [performed] at succeeded
      cases succeeded

/-- One event keeps the store in step with the sends, and loses nothing exactly
when a message id is stored in time. -/
def EmailService.Steps (runtime : EmailRuntime) (service : EmailService) (event : EmailEvent) : Prop :=
  ((emailServiceSystem runtime).step service event).Tracked ∧
    (service.NothingLost →
      (((emailServiceSystem runtime).step service event).NothingLost ↔ service.StoredInTime event))

theorem send_steps (tracked : service.Tracked) {recipient id : String} {kind : EmailDeliveryKind}
    {timestamp : Int} (trimmed : trim id = id) :
    service.Steps runtime (.send recipient kind id timestamp) := by
  rcases @send_cases runtime service recipient kind id timestamp with
    same | ⟨input, rfl, succeeded, begun⟩
  · refine ⟨?_, fun nothingLost => ⟨fun _ => trivial, fun _ => ?_⟩⟩
    · rw [show (emailServiceSystem runtime).step service (.send recipient kind id timestamp) = service from same]
      exact tracked
    · rw [show (emailServiceSystem runtime).step service (.send recipient kind id timestamp) = service from same]
      exact nothingLost
  · have started : (emailServiceSystem runtime).step service (.send recipient kind input.id timestamp) = _ := begun
    have kept := tracked.afterCall (.begin input timestamp) (fun pending member => member)
      fun pending _ none => by cases none
    obtain ⟨after, result, performed⟩ := succeeds_ok succeeded
    refine ⟨?_, fun nothingLost => ⟨fun _ => trivial, fun _ => ?_⟩⟩
    · rw [started]
      refine ⟨kept.reachable, kept.sent, ?_⟩
      intro pending member
      rcases List.mem_cons.mp member with rfl | old
      · rw [(step_ok performed).2, perform_ok performed]
        exact ⟨_, List.mem_append_right _ List.mem_cons_self, trimmed, rfl, rfl⟩
      · exact kept.waiting pending old
    · rw [started]
      exact nothingLost.afterCall (.begin input timestamp) _

theorem fail_steps (tracked : service.Tracked) (id : String) (recipientSuppressed : Bool) (failedAt : Int) :
    (service.fail id recipientSuppressed failedAt).Tracked ∧
      (service.NothingLost → (service.fail id recipientSuppressed failedAt).NothingLost) :=
  ⟨tracked.fail id recipientSuppressed failedAt, fun nothingLost => nothingLost.afterCall _ _⟩

theorem thrown_steps (tracked : service.Tracked) {id : String} {recipientSuppressed : Bool}
    {timestamp failedAt : Int} :
    service.Steps runtime (.answer id (.thrown recipientSuppressed) timestamp failedAt) := by
  obtain ⟨keeps, loses⟩ := fail_steps tracked id recipientSuppressed failedAt
  simp only [EmailService.Steps, emailServiceSystem, EmailService.answer, EmailService.StoredInTime, iff_true]
  cases service.waiting.lookup id with
  | none => exact ⟨tracked, fun nothingLost => nothingLost⟩
  | some recipientHash => exact ⟨keeps, loses⟩

theorem receipt_steps (tracked : service.Tracked) {id providerMessageId : String} {timestamp failedAt : Int} :
    service.Steps runtime (.answer id (.receipt providerMessageId) timestamp failedAt) := by
  cases found : service.waiting.lookup id with
  | none =>
      have same : (emailServiceSystem runtime).step service
          (.answer id (.receipt providerMessageId) timestamp failedAt) = service := by
        simp [emailServiceSystem, EmailService.answer, found]
      rw [EmailService.Steps, same]
      refine ⟨tracked, fun nothingLost => ⟨fun _ _ _ recipientHash waits => ?_, fun _ => nothingLost⟩⟩
      rw [found] at waits
      cases waits
  | some recipientHash =>
      cases stored : markEmailDeliverySent service.store id providerMessageId timestamp with
      | error failure =>
          obtain ⟨keeps, loses⟩ := fail_steps tracked id false failedAt
          have failed : (emailServiceSystem runtime).step service
              (.answer id (.receipt providerMessageId) timestamp failedAt) =
                service.fail id false failedAt := by
            simp [emailServiceSystem, EmailService.answer, found, stored]
          rw [EmailService.Steps, failed]
          refine ⟨keeps, fun nothingLost => ⟨fun _ impossible => ?_, fun _ => loses nothingLost⟩⟩
          obtain ⟨result, success⟩ := impossible
          rw [stored] at success
          cases success
      | ok result =>
          obtain ⟨after, value⟩ := result
          obtain ⟨succeeded, stepped⟩ :=
            @step_ok service.store (.markSent id providerMessageId timestamp) after value stored
          have answered : (emailServiceSystem runtime).step service
              (.answer id (.receipt providerMessageId) timestamp failedAt) =
                { service with
                  store := after, waiting := service.waiting.filter (·.1 ≠ id)
                  sent := ⟨id, trim providerMessageId, recipientHash⟩ :: service.sent } := by
            simp [emailServiceSystem, EmailService.answer, found, stored]
          have kept := tracked.afterCall (.markSent id providerMessageId timestamp)
            (fun pending member => (ne_of_mem_filter pending member).1)
            fun pending member => (ne_of_mem_filter pending member).2
          rw [stepped] at kept
          rw [EmailService.Steps, answered]
          refine ⟨⟨kept.reachable, ?_, kept.waiting⟩, fun nothingLost => ⟨?_, ?_⟩⟩
          · intro sent member
            rcases List.mem_cons.mp member with rfl | old
            · obtain ⟨before, rest, split, _⟩ := List.lookup_eq_some_iff.mp found
              obtain ⟨delivery, held, sameId, hash, sending⟩ :=
                tracked.waiting (id, recipientHash) (by rw [split]; simp)
              have changed := @step_mem service.store delivery (.markSent id providerMessageId timestamp) held
              rw [if_pos succeeded, stepped] at changed
              refine ⟨_, changed, next_identity.1.trans sameId, ?_, next_identity.2.1.trans hash⟩
              simp [EmailDeliveryRow.next, sameId, sending]
            · exact kept.sent sent old
          · intro lost _ complained waitsFor waits
            rw [found] at waits
            cases waits
            exact suppressed_before_mark stored (lost _ List.mem_cons_self complained)
          · intro inTime sent member complained
            show isEmailRecipientSuppressed after sent.recipientHash = true
            rw [← stepped]
            apply suppressed_step
            rcases List.mem_cons.mp member with rfl | old
            · exact inTime ⟨_, stored⟩ complained recipientHash found
            · exact nothingLost sent old complained

theorem webhook_steps (tracked : service.Tracked) {request : ResendWebhookRequest} {now timestamp : Int} :
    service.Steps runtime (.webhook request now timestamp) := by
  rw [EmailService.Steps]
  simp only [emailServiceSystem, EmailService.webhook, EmailService.StoredInTime, iff_true]
  cases processed : process runtime service.store request now timestamp with
  | error failure => exact ⟨tracked, fun nothingLost => nothingLost⟩
  | ok result =>
      obtain ⟨after, projected⟩ := result
      rcases process_ok processed with ⟨nothing, rfl⟩ | ⟨providerMessageId, status, report, succeeded, rfl⟩
      · rw [nothing]
        exact ⟨tracked, fun nothingLost => nothingLost⟩
      · have kept := tracked.afterCall (.project providerMessageId status timestamp)
          (fun pending member => member) fun pending _ none => by cases none
        rw [report]
        refine ⟨⟨kept.reachable, kept.sent, kept.waiting⟩, ?_⟩
        rintro nothingLost sent member ⟨reported, known, about, terminal⟩
        rcases List.mem_cons.mp known with rfl | old
        · obtain ⟨delivery, held, _, message, hash⟩ := tracked.sent sent member
          rw [← about] at message
          exact hash ▸ suppressed_of_report held message terminal succeeded
        · exact suppressed_step (nothingLost sent member ⟨reported, old, about, terminal⟩)

theorem steps {event : EmailEvent} (tracked : service.Tracked)
    (enabled : (emailServiceSystem runtime).Enabled service event) : service.Steps runtime event := by
  cases event with
  | send recipient kind id timestamp => exact send_steps tracked enabled
  | answer id outcome timestamp failedAt =>
      cases outcome with
      | receipt providerMessageId => exact receipt_steps tracked
      | thrown recipientSuppressed => exact thrown_steps tracked
  | webhook request now timestamp => exact webhook_steps tracked

/-! ## Runs -/

theorem run_steps {events : List EmailEvent} (tracked : service.Tracked) (nothingLost : service.NothingLost)
    (runs : (emailServiceSystem runtime).Runs service events) :
    (emailServiceSystem runtime).Along
        (fun service event => ((emailServiceSystem runtime).step service event).NothingLost) service events ↔
      (emailServiceSystem runtime).Along EmailService.StoredInTime service events := by
  induction events generalizing service with
  | nil => exact Iff.rfl
  | cons event rest ih =>
      obtain ⟨enabled, runs⟩ := runs
      obtain ⟨next, exactly⟩ := steps tracked enabled
      have now := exactly nothingLost
      constructor
      · rintro ⟨kept, later⟩
        exact ⟨now.mp kept, (ih next kept runs).mp later⟩
      · rintro ⟨inTime, later⟩
        have kept := now.mpr inTime
        exact ⟨kept, (ih next kept runs).mpr later⟩

/-- An acknowledged report is lost exactly when it overtakes the message id. -/
theorem webhook_lost_iff {initial : EmailService} {events : List EmailEvent}
    (start : (emailServiceSystem runtime).Initial initial)
    (runs : (emailServiceSystem runtime).Runs initial events) :
    (emailServiceSystem runtime).Along
        (fun service event => ((emailServiceSystem runtime).step service event).NothingLost) initial events ↔
      (emailServiceSystem runtime).Along EmailService.StoredInTime initial events := by
  obtain ⟨empty, waiting, sent, acknowledged⟩ := start
  have tracked : initial.Tracked := by
    refine ⟨.initial empty, ?_, ?_⟩
    · simp [sent]
    · simp [waiting]
  have nothingLost : initial.NothingLost := by simp [EmailService.NothingLost, sent]
  exact run_steps tracked nothingLost runs

/-! ## A report on either side of the message id -/

namespace Bounce

/-- Thirty-two equal bytes stand for the digest. -/
def exampleRuntime : EmailRuntime where
  provider := "resend"
  toLowerCase := id
  recipientDigest _ := keyedHash
  webhookDigest _ := List.replicate 32 0x2a
  decodeBase64 text := if text = "KioqKioqKioqKioqKioqKioqKioqKioqKioqKioqKio=" then List.replicate 32 0x2a else []

def bounced : ResendWebhookRequest where
  svixId := some "msg_1"
  svixTimestamp := some "1700000000"
  svixSignature := some "v1,KioqKioqKioqKioqKioqKioqKioqKioqKioqKioqKio="
  timestamp := some 1700000000
  rawBody := "\x7b\"type\":\"email.bounced\",\"data\":\x7b\"email_id\":\"email-1\"\x7d\x7d"
  payload := some (.object [("type", .string "email.bounced"),
    ("data", .object [("email_id", .string "email-1")])])

def started : EmailEvent := .send "ada@example.com" .passwordReset "delivery-1" 1700000000000

def answered : EmailEvent := .answer "delivery-1" (.receipt "email-1") 1700000000900 1700000000900

def calledBack (now : Int) : EmailEvent := .webhook bounced now now

end Bounce

open Bounce in
/-- The bounce comes before the answer of the provider's own call. -/
theorem bounce_before_message_id_lost :
    let system := emailServiceSystem exampleRuntime
    let events := [started, calledBack 1700000000500, answered]
    let final := system.run { store := empty } events
    system.Initial { store := empty } ∧ system.Runs { store := empty } events ∧
      final.sent = [⟨"delivery-1", "email-1", keyedHash⟩] ∧
      final.acknowledged = [("email-1", .bounced)] ∧
      isEmailRecipientSuppressed final.store keyedHash = false := by
  decide +kernel

open Bounce in
/-- The same report after the message id is stored. -/
theorem webhook_lost_iff_stored :
    (emailServiceSystem exampleRuntime).Along
      (fun service event => ((emailServiceSystem exampleRuntime).step service event).NothingLost)
      { store := empty } [started, answered, calledBack 1700000001500] := by
  have runs : (emailServiceSystem exampleRuntime).Runs { store := empty }
      [started, answered, calledBack 1700000001500] := by decide +kernel
  apply (@webhook_lost_iff exampleRuntime _ _ ⟨rfl, rfl, rfl, rfl⟩ runs).mpr
  refine ⟨trivial, ?_, trivial, trivial⟩
  rintro _ ⟨report, known, _⟩
  have nothing : ((emailServiceSystem exampleRuntime).step { store := empty } started).acknowledged = [] := by
    decide +kernel
  rw [nothing] at known
  cases known

end NebulaCloud.Email
