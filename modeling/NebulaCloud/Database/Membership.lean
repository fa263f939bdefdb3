import NebulaCloud.Database.Workspace

namespace NebulaCloud.Database

open NebulaCloud.Data NebulaCloud.Platform

/-! # Members, roles and the audit log -/

/-- The table of users belongs to the authentication library. -/
structure UserRow where
  id : String
  name : String
  email : String
deriving DecidableEq, Repr

/-- `COALESCE(organization_member_state.disabled, 0)`. -/
def memberDisabled (tables : Tables) (memberId : String) : Bool :=
  (lookup (·.memberId) tables.memberStates memberId).any (·.disabled)

def isOrganizationMemberEnabled (database : CloudDatabase) (userId organizationId : String) : Bool :=
  (findMembership database.tables userId organizationId).any fun member =>
    !memberDisabled database.tables member.id

def isAdminRole (role : String) : Bool := role = "owner" || role = "admin"

def requireOrganizationAdmin (database : CloudDatabase) (userId organizationId : String) :
    Except Failure String :=
  match findMembership database.tables userId organizationId with
  | none => .error .organizationAccessDenied
  | some actor =>
      if memberDisabled database.tables actor.id || !isAdminRole actor.role then
        .error .organizationAccessDenied
      else .ok actor.role

def requireEnabledOrganizationMember (database : CloudDatabase) (userId organizationId : String) :
    Except Failure Unit :=
  if isOrganizationMemberEnabled database userId organizationId then .ok ()
  else .error .organizationAccessDenied

/-- A character of `auditIdentifierPattern`; the first one is alphanumeric. -/
def isAuditStart (c : Char) : Bool :=
  ('a' ≤ c && c ≤ 'z') || ('A' ≤ c && c ≤ 'Z') || ('0' ≤ c && c ≤ '9')

def isAuditCharacter (c : Char) : Bool :=
  isAuditStart c || c = '.' || c = '_' || c = ':' || c = '-'

def isAuditIdentifier (text : String) : Bool :=
  match text.toList with
  | [] => false
  | first :: rest => isAuditStart first && rest.all isAuditCharacter && rest.length ≤ 127

def requireAuditIdentifier (value field : String) : Except Failure String :=
  if isAuditIdentifier (trim value) then .ok (trim value)
  else .error (.typeError (field ++ " must be a non-empty audit identifier"))

theorem requireAuditIdentifier_ok {value field text : String} :
    requireAuditIdentifier value field = .ok text ↔ isAuditIdentifier (trim value) = true ∧ text = trim value := by
  unfold requireAuditIdentifier
  split
  · rename_i valid
    simp [valid, eq_comm]
  · rename_i invalid
    simp [invalid]

/-- What the seat operations record.  They pass no address hash and metadata that
always serializes; `eventId` is the identifier the platform generates. -/
structure RecordAuditEventOptions where
  userId : String
  organizationId : String
  eventId : String
  action : String
  targetType : String
  targetId : String
  metadataJson : String
  now : Int
deriving DecidableEq, Repr

def recordAuditEvent (database : CloudDatabase) (options : RecordAuditEventOptions) :
    Except Failure CloudDatabase := do
  requireEnabledOrganizationMember database options.userId options.organizationId
  let action ← requireAuditIdentifier options.action "action"
  let targetType ← requireAuditIdentifier options.targetType "targetType"
  let targetId ← requireAuditIdentifier options.targetId "targetId"
  statement database fun tables =>
    { tables with
      auditEvents := tables.auditEvents ++
        [{ eventId := options.eventId
           organizationId := options.organizationId
           actorUserId := options.userId
           action := action
           targetType := targetType
           targetId := targetId
           result := "success"
           sourceIpHash := none
           metadataJson := options.metadataJson
           occurredAt := options.now }] }

/-- Auditing writes the audit log and nothing else. -/
theorem recordAuditEvent_ok {database after : CloudDatabase} {options : RecordAuditEventOptions}
    (recorded : recordAuditEvent database options = .ok after) :
    ∃ auditEvents, after.tables = { database.tables with auditEvents } := by
  obtain ⟨_, _, recorded⟩ := bind_ok.mp recorded
  obtain ⟨_, _, recorded⟩ := bind_ok.mp recorded
  obtain ⟨_, _, recorded⟩ := bind_ok.mp recorded
  obtain ⟨_, _, recorded⟩ := bind_ok.mp recorded
  exact ⟨_, Store.execute_ok.mp recorded⟩

end NebulaCloud.Database
