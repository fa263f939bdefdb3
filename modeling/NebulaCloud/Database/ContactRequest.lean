import NebulaCloud.Data.Rows
import NebulaCloud.Data.Store
import NebulaCloud.Data.Transaction
import NebulaCloud.Platform.Text

namespace NebulaCloud.Database

open NebulaCloud.Data NebulaCloud.Platform

/-! # Contact requests

The table of the contact form and the operations on it. -/

inductive ContactTopic
  | sales | support | security | partnerships | other
deriving DecidableEq, Repr

inductive ContactRequestStatus
  | new | contacted | qualified | closed
deriving DecidableEq, Repr

inductive ContactNotificationStatus
  | pending | sent | failed
deriving DecidableEq, Repr

structure ContactRequestRow where
  id : String
  name : String
  email : String
  organization : Option String
  topic : ContactTopic
  message : String
  status : ContactRequestStatus
  notificationStatus : ContactNotificationStatus
  providerMessageId : Option String
  sourceHash : String
  privacyVersion : String
  createdAt : Int
  updatedAt : Int
deriving DecidableEq, Repr

inductive ContactConstraint
  | primaryKey
deriving DecidableEq, Repr

def contactSchema : Schema (List ContactRequestRow) ContactConstraint where
  Holds
    | .primaryKey, requests => (requests.map (·.id)).Nodup
  decidable
    | .primaryKey, requests => inferInstanceAs (Decidable (requests.map (·.id)).Nodup)
  constraints := [.primaryKey]
  complete constraint := by
    cases constraint
    simp

abbrev ContactDatabase := Store contactSchema

theorem contactSchema_nil : contactSchema.violated? [] = none := by decide

inductive ContactFailure
  | error (message : String)
  | contactRateLimit
  | constraint (broken : ContactConstraint)
deriving DecidableEq, Repr

structure CreateContactRequestInput where
  id : String
  name : String
  email : String
  organization : Option String
  topic : ContactTopic
  message : String
  sourceHash : String
  privacyVersion : String
  now : Int
  windowMs : Option Int
  maximumPerSource : Option Int
  maximumPerEmail : Option Int

/-- The limits of a submission, with their defaults. -/
structure ContactLimits where
  windowMs : Int
  maximumPerSource : Int
  maximumPerEmail : Int
deriving DecidableEq, Repr

def CreateContactRequestInput.limits (input : CreateContactRequestInput) : ContactLimits where
  windowMs := input.windowMs.getD (60 * 60 * 1000)
  maximumPerSource := input.maximumPerSource.getD 5
  maximumPerEmail := input.maximumPerEmail.getD 3

def boundedContactText (value field : String) (minimum maximum : Nat) : Except ContactFailure String :=
  let normalized := trim value
  if utf16Length normalized < minimum ∨ maximum < utf16Length normalized then
    .error (.error (field ++ " must contain between " ++ toString minimum ++ " and " ++ toString maximum ++
      " characters"))
  else .ok normalized

def positiveContactLimit (value : Int) (field : String) : Except ContactFailure Unit :=
  if ¬ (IsNonNegativeSafeInteger value ∧ 0 < value) then
    .error (.error ("Contact " ++ field ++ " must be a positive integer"))
  else .ok ()

def getContactRequestById (database : ContactDatabase) (requestId : String) : Option ContactRequestRow :=
  lookup (·.id) database.tables requestId

/-- The row that a submission asks for. -/
def contactRequestRow (toLowerCase : String → String) (input : CreateContactRequestInput) :
    Except ContactFailure ContactRequestRow := do
  let id ← boundedContactText input.id "id" 1 128
  let name ← boundedContactText input.name "name" 1 120
  let email ← boundedContactText input.email "email" 3 254
  let message ← boundedContactText input.message "message" 10 4000
  let sourceHash ← boundedContactText input.sourceHash "sourceHash" 16 128
  let privacyVersion ← boundedContactText input.privacyVersion "privacyVersion" 1 64
  positiveContactLimit input.limits.windowMs "rate-limit window"
  positiveContactLimit input.limits.maximumPerSource "source limit"
  positiveContactLimit input.limits.maximumPerEmail "email limit"
  .ok
    { id
      name
      email := toLowerCase email
      organization := (input.organization.map fun text => slice (trim text) 160).filter (· ≠ "")
      topic := input.topic
      message
      status := .new
      notificationStatus := .pending
      providerMessageId := none
      sourceHash
      privacyVersion
      createdAt := input.now
      updatedAt := input.now }

/-- `COUNT(*)` of the requests with a value in a column since an instant. -/
def contactCount (column : ContactRequestRow → String) (requests : List ContactRequestRow) (value : String)
    (since : Int) : Nat :=
  requests.countP fun request => column request = value ∧ since ≤ request.createdAt

/-- The transaction of `createContactRequest`, with the request and whether it was
created. -/
def submitContactRequest (database : ContactDatabase) (limits : ContactLimits) (row : ContactRequestRow) :
    Except ContactFailure (ContactDatabase × ContactRequestRow × Bool) :=
  match getContactRequestById database row.id with
  | some existing => .ok (database, existing, false)
  | none => do
      let since := row.createdAt - limits.windowMs
      if limits.maximumPerSource ≤ contactCount (·.sourceHash) database.tables row.sourceHash since ∨
          limits.maximumPerEmail ≤ contactCount (·.email) database.tables row.email since then
        .error .contactRateLimit
      else do
        let database ← database.execute .constraint (· ++ [row])
        match getContactRequestById database row.id with
        | none => .error (.error "Contact request could not be resolved")
        | some request => .ok (database, request, true)

def createContactRequest (toLowerCase : String → String) (database : ContactDatabase)
    (input : CreateContactRequestInput) :
    Except ContactFailure (ContactDatabase × ContactRequestRow × Bool) := do
  let row ← contactRequestRow toLowerCase input
  submitContactRequest database input.limits row

def setContactNotificationResult (database : ContactDatabase) (requestId : String) (sent : Bool)
    (providerMessageId : Option String) (now : Int) : Except ContactFailure (ContactDatabase × ContactRequestRow) := do
  let database ← database.execute .constraint
    (updateWhere (fun request => request.id = requestId) fun request =>
      { request with
        notificationStatus := if sent then .sent else .failed
        providerMessageId := (providerMessageId.map trim).filter (· ≠ "")
        updatedAt := now })
  match getContactRequestById database requestId with
  | none => .error (.error "Contact request was not found")
  | some request => .ok (database, request)

def updateContactRequestStatus (database : ContactDatabase) (requestId : String) (status : ContactRequestStatus)
    (now : Int) : Except ContactFailure (ContactDatabase × Option ContactRequestRow) := do
  let database ← database.execute .constraint
    (updateWhere (fun request => request.id = requestId) fun request =>
      { request with status, updatedAt := now })
  .ok (database, getContactRequestById database requestId)

/-- The requests that stay, and how many went. -/
def deleteContactRequestsCreatedBefore (database : ContactDatabase) (before : Int) :
    Except ContactFailure (ContactDatabase × Nat) :=
  if ¬ IsNonNegativeSafeInteger before then
    .error (.error "Contact retention cutoff must be a non-negative safe integer")
  else do
    let after ← database.execute .constraint (List.filter fun request => before ≤ request.createdAt)
    .ok (after, database.tables.length - after.tables.length)

end NebulaCloud.Database
