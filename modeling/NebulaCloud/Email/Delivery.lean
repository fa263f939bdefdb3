import Mathlib.Order.Lattice
import NebulaCloud.Data.Rows
import NebulaCloud.Data.System
import NebulaCloud.Data.Transaction
import NebulaCloud.Database.Schema

namespace NebulaCloud.Email

/-! # Transactional email diagnostics

One row for each send, written by the sender and by the provider's webhooks. -/

open NebulaCloud.Data NebulaCloud.Platform
open NebulaCloud.Database (IsTokenHash LengthBetween)

inductive EmailDeliveryKind
  | emailVerification | passwordReset | organizationInvitation | contactNotification
deriving DecidableEq

inductive EmailDeliveryStatus
  | sending | sent | delivered | delayed | bounced | complained | suppressed | failed
deriving DecidableEq

/-- The statuses that the provider reports. -/
inductive ProviderStatus
  | delivered | delayed | bounced | complained | suppressed
deriving DecidableEq

def ProviderStatus.status : ProviderStatus → EmailDeliveryStatus
  | .delivered => .delivered
  | .delayed => .delayed
  | .bounced => .bounced
  | .complained => .complained
  | .suppressed => .suppressed

/-- `terminal`, and the statuses that suppress a recipient. -/
def EmailDeliveryStatus.terminal : EmailDeliveryStatus → Bool
  | .bounced | .complained | .suppressed => true
  | _ => false

/-! ## The table `email_delivery` -/

structure EmailDeliveryRow where
  id : String
  provider : String
  providerMessageId : Option String
  kind : EmailDeliveryKind
  recipientHash : String
  status : EmailDeliveryStatus
  errorCode : Option String
  createdAt : Int
  updatedAt : Int
deriving DecidableEq

def EmailDeliveryRow.Checks (delivery : EmailDeliveryRow) : Prop :=
  LengthBetween delivery.provider 32 ∧ IsTokenHash delivery.recipientHash ∧
    (∀ code ∈ delivery.errorCode, sqlLength code ≤ 128) ∧
    0 ≤ delivery.createdAt ∧ delivery.createdAt ≤ delivery.updatedAt

instance (delivery : EmailDeliveryRow) : Decidable delivery.Checks :=
  inferInstanceAs (Decidable (_ ∧ _))

inductive EmailConstraint
  | primaryKey | providerMessageId | checks
deriving DecidableEq

def emailSchema : Schema (List EmailDeliveryRow) EmailConstraint where
  Holds
    | .primaryKey, deliveries => (deliveries.map (·.id)).Nodup
    | .providerMessageId, deliveries => (deliveries.filterMap (·.providerMessageId)).Nodup
    | .checks, deliveries => ∀ delivery ∈ deliveries, delivery.Checks
  decidable
    | .primaryKey, deliveries => inferInstanceAs (Decidable (deliveries.map (·.id)).Nodup)
    | .providerMessageId, deliveries =>
        inferInstanceAs (Decidable (deliveries.filterMap (·.providerMessageId)).Nodup)
    | .checks, deliveries => inferInstanceAs (Decidable (∀ delivery ∈ deliveries, delivery.Checks))
  constraints := [.primaryKey, .providerMessageId, .checks]
  complete constraint := by cases constraint <;> simp

abbrev EmailStore := Store emailSchema

inductive EmailFailure
  | invalid (message : String)
  | constraint (violated : EmailConstraint)
deriving DecidableEq

/-! ## The functions of the database package -/

def emailDiagnosticText (value field : String) (maximum : Nat) : Except EmailFailure String :=
  if trim value = "" ∨ maximum < utf16Length (trim value) then
    .error (.invalid (field ++ " is invalid"))
  else .ok (trim value)

def getEmailDelivery (store : EmailStore) (id : String) : Option EmailDeliveryRow :=
  lookup (·.id) store.tables id

structure BeginEmailDelivery where
  id : String
  provider : String
  kind : EmailDeliveryKind
  recipientHash : String

def beginEmailDelivery (store : EmailStore) (input : BeginEmailDelivery) (timestamp : Int) :
    Except EmailFailure (EmailStore × Option EmailDeliveryRow) := do
  let id ← emailDiagnosticText input.id "Email delivery id" 128
  let provider ← emailDiagnosticText input.provider "Email provider" 32
  if ¬ IsTokenHash input.recipientHash then .error (.invalid "Email recipient hash is invalid")
  else do
    let store ← store.execute .constraint fun deliveries => deliveries ++
      [{ id, provider, providerMessageId := none, kind := input.kind
         recipientHash := input.recipientHash, status := .sending, errorCode := none
         createdAt := timestamp, updatedAt := timestamp }]
    return (store, getEmailDelivery store id)

def markEmailDeliverySent (store : EmailStore) (id providerMessageId : String) (timestamp : Int) :
    Except EmailFailure (EmailStore × Option EmailDeliveryRow) := do
  let providerMessageId ← emailDiagnosticText providerMessageId "Email provider message id" 256
  let store ← store.execute .constraint <|
    updateWhere (fun delivery => delivery.id = id && delivery.status = .sending)
      fun delivery => { delivery with
        providerMessageId := some providerMessageId, status := .sent, errorCode := none
        updatedAt := timestamp }
  return (store, getEmailDelivery store id)

def markEmailDeliveryFailed (store : EmailStore) (id errorCode : String) (timestamp : Int) :
    Except EmailFailure (EmailStore × Option EmailDeliveryRow) := do
  let errorCode ← emailDiagnosticText errorCode "Email error code" 128
  let store ← store.execute .constraint <|
    updateWhere (fun delivery => delivery.id = id && delivery.status = .sending)
      fun delivery => { delivery with
        status := .failed, errorCode := some errorCode, updatedAt := timestamp }
  return (store, getEmailDelivery store id)

def projectEmailDeliveryStatus (store : EmailStore) (providerMessageId : String)
    (status : ProviderStatus) (timestamp : Int) :
    Except EmailFailure (EmailStore × Option EmailDeliveryRow) := do
  let providerMessageId ← emailDiagnosticText providerMessageId "Email provider message id" 256
  match store.tables.find? fun delivery => delivery.providerMessageId = some providerMessageId with
  | none => return (store, none)
  | some current =>
      if current.status.terminal then return (store, some current)
      else if current.status = .delivered ∧ status = .delayed then return (store, some current)
      else do
        let store ← store.execute .constraint <|
          updateWhere (fun delivery => delivery.id = current.id)
            fun delivery => { delivery with
              status := status.status, errorCode := none, updatedAt := timestamp }
        return (store, getEmailDelivery store current.id)

def isEmailRecipientSuppressed (store : EmailStore) (recipientHash : String) : Bool :=
  if ¬ IsTokenHash recipientHash then true
  else store.tables.any fun delivery =>
    delivery.recipientHash = recipientHash && delivery.status.terminal

/-! ## Calls and what they do to a row -/

inductive EmailCall
  | begin (input : BeginEmailDelivery) (timestamp : Int)
  | markSent (id providerMessageId : String) (timestamp : Int)
  | markFailed (id errorCode : String) (timestamp : Int)
  | project (providerMessageId : String) (status : ProviderStatus) (timestamp : Int)

def EmailCall.perform (store : EmailStore) :
    EmailCall → Except EmailFailure (EmailStore × Option EmailDeliveryRow)
  | .begin input timestamp => beginEmailDelivery store input timestamp
  | .markSent id providerMessageId timestamp => markEmailDeliverySent store id providerMessageId timestamp
  | .markFailed id errorCode timestamp => markEmailDeliveryFailed store id errorCode timestamp
  | .project providerMessageId status timestamp =>
      projectEmailDeliveryStatus store providerMessageId status timestamp

/-- A call that throws writes nothing. -/
def emailSystem : System EmailStore EmailCall where
  Initial store := store.tables = []
  Enabled _ _ := True
  step store call := (commit store (call.perform store)).1

/-- The row after a call that succeeds. -/
def EmailDeliveryRow.next (delivery : EmailDeliveryRow) : EmailCall → EmailDeliveryRow
  | .begin _ _ => delivery
  | .markSent id providerMessageId timestamp =>
      if delivery.id = id ∧ delivery.status = .sending then
        { delivery with
          providerMessageId := some (trim providerMessageId), status := .sent, errorCode := none
          updatedAt := timestamp }
      else delivery
  | .markFailed id errorCode timestamp =>
      if delivery.id = id ∧ delivery.status = .sending then
        { delivery with status := .failed, errorCode := some (trim errorCode), updatedAt := timestamp }
      else delivery
  | .project providerMessageId status timestamp =>
      if delivery.providerMessageId = some (trim providerMessageId) ∧ ¬ delivery.status.terminal ∧
          ¬ (delivery.status = .delivered ∧ status = .delayed) then
        { delivery with status := status.status, errorCode := none, updatedAt := timestamp }
      else delivery

/-- The row that a call inserts. -/
def EmailCall.created : EmailCall → List EmailDeliveryRow
  | .begin input timestamp =>
      [{ id := trim input.id, provider := trim input.provider, providerMessageId := none
         kind := input.kind, recipientHash := input.recipientHash, status := .sending
         errorCode := none, createdAt := timestamp, updatedAt := timestamp }]
  | _ => []

variable {store after : EmailStore} {delivery other : EmailDeliveryRow} {call : EmailCall}
  {value field message text : String} {maximum : Nat} {timestamp : Int} {status : ProviderStatus}
  {result : Option EmailDeliveryRow}

theorem emailDiagnosticText_ok : emailDiagnosticText value field maximum = .ok text ↔
    trim value = text ∧ trim value ≠ "" ∧ utf16Length (trim value) ≤ maximum := by
  unfold emailDiagnosticText
  split
  · rename_i refused
    constructor
    · simp
    · rintro ⟨_, filled, short⟩
      rcases refused with empty | long
      · exact absurd empty filled
      · omega
  · rename_i accepted
    rw [Except.ok.injEq]
    rw [not_or, Nat.not_lt] at accepted
    exact ⟨fun same => ⟨same, accepted⟩, fun both => both.1⟩

/-- A message id belongs to one delivery. -/
theorem eq_of_message (left : delivery ∈ store.tables) (right : other ∈ store.tables)
    (leftId : delivery.providerMessageId = some message)
    (rightId : other.providerMessageId = some message) : delivery = other :=
  eq_of_column (store.consistent .providerMessageId) left right leftId rightId

theorem map_next_same (same : ∀ delivery ∈ store.tables, delivery.next call = delivery) :
    store.tables = store.tables.map (·.next call) :=
  ((List.map_congr_left same).trans (List.map_id' _)).symm

theorem project_ok {providerMessageId : String}
    (performed : projectEmailDeliveryStatus store providerMessageId status timestamp = .ok (after, result)) :
    after.tables = store.tables.map (·.next (.project providerMessageId status timestamp)) := by
  obtain ⟨text, checked, performed⟩ := bind_ok.mp performed
  obtain ⟨rfl, _⟩ := emailDiagnosticText_ok.mp checked
  split at performed
  · rename_i absent
    cases performed
    apply map_next_same
    intro delivery member
    have different := List.find?_eq_none.mp absent delivery member
    simp only [decide_eq_true_eq] at different
    simp [EmailDeliveryRow.next, different]
  · rename_i current found
    have member := List.mem_of_find?_eq_some found
    have known : current.providerMessageId = some (trim providerMessageId) := by
      simpa using List.find?_some found
    have onlyOne : ∀ delivery ∈ store.tables,
        delivery.providerMessageId = some (trim providerMessageId) → delivery = current :=
      fun delivery held same => eq_of_message held member same known
    split at performed
    · rename_i terminal
      cases performed
      apply map_next_same
      intro delivery held
      simp only [EmailDeliveryRow.next]
      rw [if_neg]
      rintro ⟨same, ongoing, _⟩
      rw [onlyOne delivery held same] at ongoing
      exact ongoing terminal
    · rename_i ongoing
      split at performed
      · rename_i regressing
        cases performed
        apply map_next_same
        intro delivery held
        simp only [EmailDeliveryRow.next]
        rw [if_neg]
        rintro ⟨same, _, forward⟩
        rw [onlyOne delivery held same] at forward
        exact forward regressing
      · rename_i forward
        obtain ⟨stored, executed, performed⟩ := bind_ok.mp performed
        cases performed
        rw [Store.execute_ok.mp executed, updateWhere]
        apply List.map_congr_left
        intro delivery held
        simp only [decide_eq_true_eq, EmailDeliveryRow.next]
        by_cases same : delivery.id = current.id
        · have equal : delivery = current := eq_of_key (store.consistent .primaryKey) held member same
          rw [if_pos same, if_pos (equal ▸ ⟨known, ongoing, forward⟩)]
        · rw [if_neg same, if_neg]
          rintro ⟨message, _⟩
          exact same (congrArg (·.id) (onlyOne delivery held message))

/-- A successful call changes the rows one by one and adds the one that it begins. -/
theorem perform_ok (performed : call.perform store = .ok (after, result)) :
    after.tables = store.tables.map (·.next call) ++ call.created := by
  have written : ∀ {id : String} {change : EmailDeliveryRow → EmailDeliveryRow},
      updateWhere (fun delivery => delivery.id = id && delivery.status = .sending) change store.tables =
        store.tables.map fun delivery =>
          if delivery.id = id ∧ delivery.status = .sending then change delivery else delivery := by
    intro id change
    simp [updateWhere]
  cases call with
  | begin input timestamp =>
      obtain ⟨id, idText, performed⟩ := bind_ok.mp performed
      obtain ⟨provider, providerText, performed⟩ := bind_ok.mp performed
      split at performed
      · cases performed
      · obtain ⟨stored, executed, performed⟩ := bind_ok.mp performed
        cases performed
        rw [Store.execute_ok.mp executed, ← (emailDiagnosticText_ok.mp idText).1,
          ← (emailDiagnosticText_ok.mp providerText).1]
        simp [EmailDeliveryRow.next, EmailCall.created]
  | markSent id providerMessageId timestamp =>
      obtain ⟨text, checked, performed⟩ := bind_ok.mp performed
      obtain ⟨stored, executed, performed⟩ := bind_ok.mp performed
      cases performed
      rw [Store.execute_ok.mp executed, written, ← (emailDiagnosticText_ok.mp checked).1]
      simp [EmailDeliveryRow.next, EmailCall.created]
  | markFailed id errorCode timestamp =>
      obtain ⟨text, checked, performed⟩ := bind_ok.mp performed
      obtain ⟨stored, executed, performed⟩ := bind_ok.mp performed
      cases performed
      rw [Store.execute_ok.mp executed, written, ← (emailDiagnosticText_ok.mp checked).1]
      simp [EmailDeliveryRow.next, EmailCall.created]
  | project providerMessageId status timestamp =>
      rw [project_ok performed]
      exact (List.append_nil _).symm

end NebulaCloud.Email
