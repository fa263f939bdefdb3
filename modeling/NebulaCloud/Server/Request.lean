import NebulaCloud.Access.RuntimeRoute
import NebulaCloud.Contact.Pagination
import NebulaCloud.Platform.Hostname
import NebulaCloud.Platform.Number
import NebulaCloud.Platform.TextDecoder

namespace NebulaCloud.Server

open NebulaCloud.Database NebulaCloud.Platform

/-! # Requests

What the handler reads of a request: the parts of its URL, its headers and its body, which
arrives in chunks. -/

structure RequestBody where
  chunks : List (List UInt8)
  /-- The connection breaks before the body has ended. -/
  broken : Bool
deriving DecidableEq, Repr

/-- The names of headers are in lower case, and none comes twice. -/
structure ServerRequest where
  method : String
  hostname : String
  pathname : String
  search : String
  searchParams : List (String × String)
  headers : List (String × String)
  body : Option RequestBody
deriving DecidableEq, Repr

namespace ServerRequest

def header (request : ServerRequest) (name : String) : Option String := request.headers.lookup name

def searchParam (request : ServerRequest) (name : String) : Option String := request.searchParams.lookup name

end ServerRequest

/-! ## Bodies -/

inductive BodyFailure
  | requestTooLarge
  | invalidJson
  | broken
deriving DecidableEq, Repr

/-- The loop over the reader. -/
def readChunks (maximumBytes : Nat) (broken : Bool) :
    List (List UInt8) → Nat → List (List UInt8) → Except BodyFailure (List (List UInt8))
  | chunks, _, [] => if broken then .error .broken else .ok chunks
  | chunks, length, value :: later =>
      if maximumBytes < length + value.length then .error .requestTooLarge
      else readChunks maximumBytes broken (chunks ++ [value]) (length + value.length) later

/-- `Number(request.headers.get('content-length'))`, where it is finite. -/
def declaredLength (request : ServerRequest) : Option Rat :=
  match request.header "content-length" with
  | none => some 0
  | some text => numberOf text

def readBoundedBytes (request : ServerRequest) (maximumBytes : Nat) : Except BodyFailure (List UInt8) :=
  if (declaredLength request).any (fun declared => (maximumBytes : Rat) < declared) then .error .requestTooLarge
  else
    match request.body with
    | none => .ok []
    | some body => (readChunks maximumBytes body.broken [] 0 body.chunks).map List.flatten

/-- `new TextDecoder('utf-8', { fatal: true }).decode(bytes)`; `none` where it throws. -/
def decodeFatal (bytes : List UInt8) : Option (List Char) :=
  if utf8Encode (utf8Text bytes) = bytes then some (TextDecoder.serialize false (utf8Text bytes)).2 else none

def readBoundedJSON (request : ServerRequest) (maximumBytes : Nat) : Except BodyFailure Json :=
  match readBoundedBytes request maximumBytes with
  | .error failure => .error failure
  | .ok bytes =>
      if bytes = [] then .error .invalidJson
      else
        match (decodeFatal bytes).bind parseJson with
        | none => .error .invalidJson
        | some value => .ok value

/-- `request.json()`. -/
def requestJson (request : ServerRequest) : Except BodyFailure Json :=
  match request.body with
  | none => .error .invalidJson
  | some body =>
      if body.broken then .error .broken
      else
        match parseJson (TextDecoder.serialize false (utf8Text body.chunks.flatten)).2 with
        | none => .error .invalidJson
        | some value => .ok value

/-- `value.key`; `none` where it throws. -/
def propertyOf (value : Json) (key : String) : Option (Option Json) :=
  match value with
  | .null => none
  | .object fields => some (fields.lookup key)
  | _ => some none

/-! ## Routes -/

/-- A part of a path: a word, or `([^/]+)`. -/
inductive Segment
  | word (text : String)
  | capture
deriving DecidableEq, Repr

def matchSegments : List Segment → List (List Char) → Option (List String)
  | [], [] => some []
  | .word text :: route, segment :: rest => if segment = text.toList then matchSegments route rest else none
  | .capture :: route, segment :: rest =>
      if segment = [] then none else (matchSegments route rest).map (String.ofList segment :: ·)
  | _, _ => none

/-- `pathname.match(route)`, with what is captured. -/
def matchRoute (route : List Segment) (pathname : String) : Option (List String) :=
  match pathname.toList.splitOn '/' with
  | [] :: segments => matchSegments route segments
  | _ => none

/-- What the group of this number has captured. -/
def captured (matched : Option (List String)) (group : Nat) : Option String := matched.bind (·[group - 1]?)

def personalUsagePath : String := "/api/usage/me"
def contactPath : String := "/api/contact"
def contactAdministrationPath : String := "/internal/v1/contact-requests"
def contactAdministrationExportPath : String := "/internal/v1/contact-requests/export.csv"
def workerAdministrationPath : String := "/internal/v1/workers"
def platformControlAdministrationPath : String := "/internal/v1/platform-controls"
def stripeWebhookPath : String := "/api/webhooks/stripe"
def resendWebhookPath : String := "/api/webhooks/resend"
def planAccountsPath : String := "/api/plan-accounts"

def contactAdministrationMemberPath : List Segment :=
  [.word "internal", .word "v1", .word "contact-requests", .capture]

def workerAdministrationMemberPath : List Segment := [.word "internal", .word "v1", .word "workers", .capture]

def platformControlAdministrationMemberPath : List Segment :=
  [.word "internal", .word "v1", .word "platform-controls", .capture]

def organizationPublicationRevocationPath : List Segment :=
  [.word "internal", .word "v1", .word "organizations", .capture, .word "publications", .word "revoke"]

def operatorEntitlementAdministrationPath : List Segment :=
  [.word "internal", .word "v1", .word "entitlements", .word "operator", .capture]

/-- A route of an organization. -/
def organizationRoute (rest : List Segment) : List Segment :=
  [.word "api", .word "organizations", .capture] ++ rest

def organizationUsagePath : List Segment := organizationRoute [.word "usage"]
def organizationUsageExportPath : List Segment := organizationRoute [.word "usage", .word "export.csv"]
def organizationMembersPath : List Segment := organizationRoute [.word "members"]
def organizationMemberPath : List Segment := organizationRoute [.word "members", .capture]
def organizationOperatorSeatPath : List Segment :=
  organizationRoute [.word "entitlements", .word "operator", .capture]
def organizationOperatorsPath : List Segment := organizationRoute [.word "operators"]
def organizationPublicationsPath : List Segment := organizationRoute [.word "publications"]
def organizationPublicationPath : List Segment := organizationRoute [.word "publications", .capture, .capture]
def organizationDashboardPath : List Segment := organizationRoute [.word "dashboard"]
def organizationAdminPath : List Segment := organizationRoute [.word "admin"]
def organizationAuditPath : List Segment := organizationRoute [.word "audit"]
def organizationJoinCodePath : List Segment := organizationRoute [.word "admin", .word "join-code"]
def organizationPath : List Segment := organizationRoute []

/-- A route of a workspace. -/
def workspaceRoute (rest : List Segment) : List Segment := [.word "api", .word "workspaces", .capture] ++ rest

def operatorRuntimePath : List Segment := workspaceRoute [.word "operator"]
def workspacePublicationsPath : List Segment := workspaceRoute [.word "publications"]
def workspacePublicationPath : List Segment := workspaceRoute [.word "publications", .capture]
def restartPath : List Segment := workspaceRoute [.word "restart"]

def invitationStatusPath : List Segment := [.word "api", .word "invitations", .capture, .word "status"]

/-- `/^\/p\/([^/]+)(\/.*)?$/`, with the slug and what follows it. -/
def publishedServicePath (pathname : String) : Option (List Char × List Char) := do
  let rest ← pathname.toList.dropPrefix? "/p/".toList
  let slug := rest.takeWhile (· ≠ '/')
  let after := rest.dropWhile (· ≠ '/')
  if slug = [] ∨ after.any Access.isLineTerminator then none else some (slug, after)

/-! ## What bodies must look like -/

/-- `isRecord(value)` and `hasOnlyKeys(value, allowed)`, with the record. -/
def recordOf (value : Json) (allowed : List String) : Option JsonRecord :=
  (asRecord (some value)).filter fun fields => fields.all fun field => field.1 ∈ allowed

/-- The text of a string, and nothing else. -/
def asText : Option Json → Option String
  | some (.string text) => some text
  | _ => none

def isNonEmptyString (value : Option Json) : Bool := (asText value).any fun text => trim text ≠ ""

def isBoolean : Option Json → Bool
  | some (.boolean _) => true
  | _ => false

/-- A text whose trimmed length is within bounds. -/
def isTextBetween (least most : Nat) (value : Option Json) : Bool :=
  (asText value).any fun text => least ≤ utf16Length (trim text) && utf16Length (trim text) ≤ most

def isPositiveSafeInteger (value : Option Json) : Bool := (asSafeInteger value).any (0 < ·)

def isWorkerCapacity (value : Json) (isPartial : Bool) : Bool :=
  let keys := ["memoryBytes", "cpuMillis", "diskBytes", "workspaceSlots"]
  (recordOf value keys).any fun fields =>
    !(isPartial && fields.isEmpty) &&
      keys.all fun key => isPartial && (fields.get key).isNone || isPositiveSafeInteger (fields.get key)

def isRegisterWorkerHostRequest (value : Json) : Bool :=
  (recordOf value ["id", "name", "provider", "region", "baseURL", "credentialKeyId", "capacity", "enabled",
    "schedulable"]).any fun fields =>
      (["id", "name", "provider", "region", "baseURL", "credentialKeyId"].all fun key =>
          isNonEmptyString (fields.get key)) &&
        (fields.get "capacity").any (isWorkerCapacity · false) &&
        ["enabled", "schedulable"].all fun key => (fields.get key).isNone || isBoolean (fields.get key)

/-- `words.includes(String(value))`, which looks through arrays of one element. -/
def saysOneOf (words : List String) : Json → Bool
  | .string text => text ∈ words
  | .array [element] => saysOneOf words element
  | _ => false

def lifecycleActions : List String := ["enable", "disable", "drain", "resume"]

def isUpdateWorkerHostRequest (value : Json) : Bool :=
  (recordOf value ["name", "provider", "region", "baseURL", "credentialKeyId", "capacity", "action",
    "reason"]).any fun fields =>
      !fields.isEmpty &&
        (["name", "provider", "region", "baseURL", "credentialKeyId"].all fun key =>
          (fields.get key).isNone || isNonEmptyString (fields.get key)) &&
        (fields.get "capacity").all (isWorkerCapacity · true) &&
        match fields.get "action" with
        | none => (fields.get "reason").isNone
        | some action => saysOneOf lifecycleActions action && isTextBetween 1 256 (fields.get "reason")

/-- `isPlatformControlName(value)`, with the control. -/
def platformControlName (value : String) : Option PlatformControlName :=
  [PlatformControlName.provisioning, .workspaceStart, .publication].find? fun name => name.text = value

def isUpdatePlatformControlRequest (value : Json) : Bool :=
  (recordOf value ["paused", "reason"]).any fun fields =>
    isBoolean (fields.get "paused") && isTextBetween 1 256 (fields.get "reason")

/-- `[\u0000-\u001f\u007f]`. -/
def isControlCharacter (c : Char) : Bool := c.toNat < 0x20 || c.toNat = 0x7F

def platformAdministratorActor (request : ServerRequest) : Option String :=
  let actor := trim ((request.header "x-nebula-admin-actor").getD "")
  if 1 ≤ utf16Length actor ∧ utf16Length actor ≤ 128 ∧ actor.toList.any isControlCharacter = false then some actor
  else none

def isUpsertOperatorEntitlementRequest (value : Json) : Bool :=
  (recordOf value ["organizationId", "state", "source", "startsAt", "endsAt"]).any fun fields =>
    isNonEmptyString (fields.get "organizationId") &&
      (fields.get "state").any (saysOneOf ["pending", "active", "grace", "suspended", "revoked"]) &&
      (fields.get "source").any (saysOneOf ["beta", "admin"]) &&
      (asSafeInteger (fields.get "startsAt")).any fun startsAt =>
        0 ≤ startsAt &&
          match fields.get "endsAt" with
          | some .null => (asText (fields.get "source")) ≠ some "beta"
          | endsAt => (asSafeInteger endsAt).any (startsAt < ·)

def isPublishedServiceName (value : List Char) : Bool :=
  value.length ≤ 32 && value.head?.any isLabelEnd && value.getLast?.any isLabelEnd &&
    value.all fun c => isLabelEnd c || c = '-'

def publishedServicePort (value : Option Json) : Option Int :=
  (asSafeInteger value).filter fun port => 1024 ≤ port && port ≤ 65535 && port ≠ 7777

def contactStatuses : List (String × ContactRequestStatus) :=
  [("new", .new), ("contacted", .contacted), ("qualified", .qualified), ("closed", .closed)]

/-- `none` is `null`, for a status that there is not. -/
def contactStatus : Option String → Option (Option ContactRequestStatus)
  | none | some "" => some none
  | some value => (contactStatuses.lookup value).map some

/-- `/^[^\s@]+@[^\s@]+\.[^\s@]+$/`. -/
def isEmailAddress (text : List Char) : Bool :=
  match text.splitOn '@' with
  | [name, domain] =>
      !name.isEmpty && text.all (!isWhiteSpace ·) && '.' ∈ (domain.drop 1).dropLast
  | _ => false

structure ContactRequestInput where
  submissionId : String
  name : String
  email : String
  organization : Option String
  topic : String
  message : String
  privacyVersion : String
  website : Option String
deriving DecidableEq, Repr

def contactTopics : List String := ["sales", "support", "security", "partnerships", "other"]

/-- A text that is not empty. -/
def nonEmpty (text : Option String) : Option String := text.filter (· ≠ "")

def contactRequest (lower : List Char → List Char) (value : Json) : Option ContactRequestInput := do
  let fields ← recordOf value
    ["submissionId", "name", "email", "organization", "topic", "message", "privacyVersion", "website"]
  let submissionId ← (asText (fields.get "submissionId")).filter Contact.isSubmissionId
  let name ← (asText (fields.get "name")).filter fun text => isTextBetween 1 120 (some (.string text))
  let email ← (asText (fields.get "email")).filter fun text =>
    isTextBetween 3 254 (some (.string text)) && isEmailAddress (trim text).toList
  if !((fields.get "organization").isNone || isTextBetween 0 160 (fields.get "organization")) then none
  else do
    let topic ← (asText (fields.get "topic")).filter (· ∈ contactTopics)
    let message ← (asText (fields.get "message")).filter fun text => isTextBetween 10 4000 (some (.string text))
    let privacyVersion ← (asText (fields.get "privacyVersion")).filter fun text =>
      isTextBetween 1 64 (some (.string text))
    if !((fields.get "website").isNone || (asText (fields.get "website")).any (utf16Length · ≤ 256)) then none
    else
      some {
        submissionId
        name := trim name
        email := String.ofList (lower (trim email).toList)
        organization := nonEmpty ((asText (fields.get "organization")).map trim)
        topic
        message := trim message
        privacyVersion := trim privacyVersion
        website := nonEmpty (asText (fields.get "website")) }

end NebulaCloud.Server
