import NebulaCloud.Database.PlatformControl
import NebulaCloud.Publication.Addresses

namespace NebulaCloud.Publication

open NebulaCloud.Data NebulaCloud.Database NebulaCloud.Platform

/-! # Publications of the control plane

A publication is stored first and its listener started afterwards.  Each statement
commits on its own, so that a call that throws may have written the database. -/

/-! ## Owners and listings -/

structure WorkspaceOwnerIdentity where
  workspaceId : String
  userId : String
  organizationId : String
deriving DecidableEq, Repr

/-- Nobody, when the owner is disabled. -/
def getWorkspaceOwnerIdentity (database : CloudDatabase) (workspaceId : String) :
    Option WorkspaceOwnerIdentity :=
  match getWorkspaceById database (trim workspaceId) with
  | none => none
  | some workspace =>
      match lookup (·.id) database.tables.members workspace.memberId with
      | none => none
      | some member =>
          if member.organizationId = workspace.organizationId ∧
              memberDisabled database.tables member.id = false then
            some ⟨workspace.id, member.userId, workspace.organizationId⟩
          else none

/-- `getPublishedServiceByName`, which checks the name. -/
def findPublishedService (database : CloudDatabase) (workspaceId name : String) :
    Except Failure (Option PublishedServiceRow) := do
  let name ← publishedServiceName name
  .ok (getPublishedServiceByName database (trim workspaceId, name))

inductive PlanAccountType
  | individual | organization
deriving DecidableEq, Repr

structure PlanAccountRow where
  organizationId : String
  accountType : PlanAccountType
deriving DecidableEq, Repr

/-- The tables that only the listing reads. -/
structure Directory where
  users : List UserRow
  planAccounts : List PlanAccountRow

structure PublicationOperator where
  membershipId : String
  name : String
  email : String
deriving DecidableEq, Repr

structure OrganizationPublishedService where
  publication : PublishedServiceRow
  operator : PublicationOperator
deriving DecidableEq, Repr

/-- `ORDER BY updated_at DESC, name`. -/
def listingOrder (left right : OrganizationPublishedService) : Prop :=
  right.publication.updatedAt < left.publication.updatedAt ∨
    (left.publication.updatedAt = right.publication.updatedAt ∧
      left.publication.name ≤ right.publication.name)

instance : DecidableRel listingOrder := fun _ _ => inferInstanceAs (Decidable (_ ∨ _))

/-- The row of the join for one publication, if its workspace is in the organization
and the actor may see it. -/
def listedService (directory : Directory) (tables : Tables) (organizationId : String) (organizationScope : Bool)
    (actorId : String) (service : PublishedServiceRow) : Option OrganizationPublishedService :=
  match lookup (·.id) tables.workspaces service.workspaceId with
  | none => none
  | some workspace =>
      match lookup (·.id) tables.members workspace.memberId with
      | none => none
      | some member =>
          match lookup (·.id) directory.users member.userId with
          | none => none
          | some user =>
              if workspace.organizationId = organizationId ∧
                  (organizationScope = true ∨ workspace.memberId = actorId) then
                some ⟨service, member.id, user.name, user.email⟩
              else none

def listOrganizationPublishedServices (directory : Directory) (database : CloudDatabase)
    (userId organizationId : String) : Except Failure (List OrganizationPublishedService) :=
  match findMembership database.tables userId organizationId with
  | none => .error .organizationAccessDenied
  | some actor =>
      if memberDisabled database.tables actor.id then .error .organizationAccessDenied
      else
        let planAccount := lookup (·.organizationId) directory.planAccounts organizationId
        let organizationScope := planAccount.map (·.accountType) ≠ some .individual && isAdminRole actor.role
        let listed := database.tables.publishedServices.filterMap
          (listedService directory database.tables organizationId organizationScope actor.id)
        .ok (listed.insertionSort listingOrder)

/-! ## Settings -/

/-- Whether a port can be listened on is up to the host.  Closing a listener always
succeeds and touches no row. -/
structure TCPIngress where
  activate : Int → Except Failure Unit

structure PublicationSettings where
  tcpIngress : Option TCPIngress
  tcpIngressHost : String
  tcpIngressPortMinimum : Int
  tcpIngressPortMaximum : Int
  workspacePublicationLimit : Int
  organizationPublicationLimit : Int
  publishedServiceURL : String → String
  hashPublishedServiceToken : String → String

/-- What a call generates and the clock readings that it takes. -/
structure CallContext where
  id : String
  slug : String
  accessToken : String
  auditEventId : String
  now : Int
  auditedAt : Int
  answeredAt : Int

structure PublishWorkspaceServiceInput where
  workspaceId : String
  name : String
  protocol : PublishedServiceProtocol
  port : Int
  visibility : PublishedServiceVisibility
  ttlSeconds : Option Int
  preserveAccessPolicy : Bool
deriving DecidableEq, Repr

/-- The state that a summary tells. -/
inductive PublicationStatus
  | active | expired | revoked
deriving DecidableEq, Repr

structure PublishedServiceSummary where
  id : String
  name : String
  protocol : PublishedServiceProtocol
  targetPort : Int
  ingressPort : Option Int
  state : PublicationStatus
  visibility : PublishedServiceVisibility
  authPolicy : PublishedServiceAuthPolicy
  publicUrl : String
  expiresAt : Option Int
  createdAt : Int
  updatedAt : Int
deriving DecidableEq, Repr

structure OrganizationPublishedServiceSummary where
  publication : PublishedServiceSummary
  workspaceId : String
  operatorName : String
  operatorEmail : String
deriving DecidableEq, Repr

def publishedServiceSummary (settings : PublicationSettings) (service : PublishedServiceRow) :
    PublishedServiceSummary where
  id := service.id
  name := service.name
  protocol := service.protocol
  targetPort := service.targetPort
  ingressPort := service.ingressPort
  state := .active
  visibility := service.visibility
  authPolicy := service.authPolicy
  publicUrl :=
    match service.protocol with
    | .tcp => "tcp://" ++ settings.tcpIngressHost ++ ":" ++ (service.ingressPort.map toString).getD "null"
    | .http => settings.publishedServiceURL service.slug
  expiresAt := service.expiresAt
  createdAt := service.createdAt
  updatedAt := service.updatedAt

def publicationStatus (service : PublishedServiceRow) (now : Int) : PublicationStatus :=
  if service.state = .revoked then .revoked
  else if ∃ expiresAt ∈ service.expiresAt, expiresAt ≤ now then .expired
  else .active

def organizationPublishedServiceSummary (settings : PublicationSettings)
    (entry : OrganizationPublishedService) (now : Int) : OrganizationPublishedServiceSummary where
  publication :=
    { publishedServiceSummary settings entry.publication with state := publicationStatus entry.publication now }
  workspaceId := entry.publication.workspaceId
  operatorName := entry.operator.name
  operatorEmail := entry.operator.email

/-- The metadata of both audit actions, in the order of their keys. -/
def publicationMetadata (service : PublishedServiceRow) : List (String × AuditMetadataValue) :=
  [("authPolicy", .string (match service.authPolicy with | .none => "none" | .token => "token")),
    ("expiresAt", (service.expiresAt.map fun expiresAt => .count expiresAt.toNat).getD .null),
    ("name", .string service.name),
    ("protocol", .string (match service.protocol with | .http => "http" | .tcp => "tcp")),
    ("targetPort", .count service.targetPort.toNat),
    ("visibility", .string (match service.visibility with | .publicAccess => "public" | .privateAccess => "private"))]

def auditPublication (database : CloudDatabase) (owner : WorkspaceOwnerIdentity) (context : CallContext)
    (action : String) (service : PublishedServiceRow) : Except Failure CloudDatabase :=
  recordAuditEvent database
    { userId := owner.userId
      organizationId := owner.organizationId
      eventId := context.auditEventId
      action := action
      targetType := "published_service"
      targetId := service.id
      metadataJson := String.ofList (metadataJson (publicationMetadata service))
      now := context.auditedAt }

/-! ## Publishing -/

section Calls

variable (settings : PublicationSettings) (context : CallContext) (database : CloudDatabase)

/-- The text that a caller presents to a private publication, made for each publication
that does not keep its policy. -/
def newAccessToken (input : PublishWorkspaceServiceInput) : Option String :=
  if input.visibility = .privateAccess ∧ input.preserveAccessPolicy = false then some context.accessToken
  else none

def publicationInput (input : PublishWorkspaceServiceInput) (previous : Option PublishedServiceRow) :
    UpsertPublishedServiceInput where
  id := context.id
  workspaceId := input.workspaceId
  name := input.name
  slug := context.slug
  protocol := some input.protocol
  targetPort := input.port
  visibility := input.visibility
  authPolicy := match input.visibility with | .privateAccess => .token | .publicAccess => .none
  accessTokenHash :=
    match input.visibility with
    | .publicAccess => none
    | .privateAccess =>
        if input.preserveAccessPolicy then previous.bind (·.accessTokenHash)
        else (newAccessToken context input).map settings.hashPublishedServiceToken
  expiresAt := input.ttlSeconds.map fun ttlSeconds => context.now + ttlSeconds * 1000
  tcpIngressPortMinimum := some settings.tcpIngressPortMinimum
  tcpIngressPortMaximum := some settings.tcpIngressPortMaximum
  maximumActive := some settings.workspacePublicationLimit
  maximumOrganizationActive := some settings.organizationPublicationLimit
  now := context.now

/-- What comes before the upsert, which only reads. -/
def preparePublication (input : PublishWorkspaceServiceInput) :
    Except Failure (WorkspaceOwnerIdentity × UpsertPublishedServiceInput) := do
  let paused ← isPlatformControlPaused database .publication
  if paused then .error (.platformControlPaused .publication)
  else if input.protocol = .tcp ∧ settings.tcpIngress.isNone then .error (.error "TCP ingress is not enabled")
  else
    match getWorkspaceOwnerIdentity database input.workspaceId with
    | none => .error (.error "Workspace owner was not found")
    | some owner => do
        let previous ← findPublishedService database input.workspaceId input.name
        .ok (owner, publicationInput settings context input previous)

/-- The revocation of a publication whose listener did not start. -/
def abandonPublication (input : PublishWorkspaceServiceInput) (failure : Failure) :
    CloudDatabase × Except Failure Unit :=
  match revokePublishedService database ⟨input.workspaceId, input.name, context.now⟩ with
  | .ok (revoked, _) => (revoked, .error failure)
  | .error thrown => (database, .error thrown)

def startListener (input : PublishWorkspaceServiceInput) (publication : PublishedServiceRow) :
    CloudDatabase × Except Failure Unit :=
  match publication.protocol with
  | .http => (database, .ok ())
  | .tcp =>
      match publication.ingressPort, settings.tcpIngress with
      | some ingressPort, some tcpIngress =>
          match tcpIngress.activate ingressPort with
          | .ok () => (database, .ok ())
          | .error failure => abandonPublication context database input failure
      | _, _ =>
          abandonPublication context database input (.error "TCP publication ingress could not be allocated")

/-- What comes after the upsert.  The listener of another port that the name had before
is closed first, which changes no row. -/
def finishPublication (input : PublishWorkspaceServiceInput) (owner : WorkspaceOwnerIdentity)
    (publication : PublishedServiceRow) :
    CloudDatabase × Except Failure (PublishedServiceSummary × Option String) :=
  match startListener settings context database input publication with
  | (database, .error failure) => (database, .error failure)
  | (database, .ok ()) =>
      match auditPublication database owner context "workspace.service_published" publication with
      | .error failure => (database, .error failure)
      | .ok audited => (audited, .ok (publishedServiceSummary settings publication, newAccessToken context input))

def publishWorkspaceService (input : PublishWorkspaceServiceInput) :
    CloudDatabase × Except Failure (PublishedServiceSummary × Option String) :=
  match preparePublication settings context database input with
  | .error failure => (database, .error failure)
  | .ok (owner, request) =>
      match upsertPublishedService database request with
      | .error failure => (database, .error failure)
      | .ok (stored, publication) => finishPublication settings context stored input owner publication

/-! ## Disconnecting and reconnecting -/

/-- The listener of a revoked TCP publication is closed before the audit. -/
def disconnectWorkspaceService (workspaceId name : String) : CloudDatabase × Except Failure Bool :=
  match getWorkspaceOwnerIdentity database workspaceId with
  | none => (database, .ok false)
  | some owner =>
      match revokePublishedService database ⟨workspaceId, name, context.now⟩ with
      | .error failure => (database, .error failure)
      | .ok (revoked, none) => (revoked, .ok false)
      | .ok (revoked, some publication) =>
          match auditPublication revoked owner context "workspace.service_revoked" publication with
          | .error failure => (revoked, .error failure)
          | .ok audited => (audited, .ok true)

structure SetPublicationConnectedInput where
  userId : String
  organizationId : String
  workspaceId : String
  name : String
  connected : Bool
deriving DecidableEq, Repr

/-- The whole seconds from the last write to the expiry, `Math.round` of thousandths,
within the limits of a lifetime. -/
def originalTTLSeconds (existing : PublishedServiceRow) : Option Int :=
  existing.expiresAt.map fun expiresAt =>
    max 300 (min (7 * 24 * 60 * 60) ((expiresAt - existing.updatedAt + 500) / 1000))

/-- The publish request that a stored row is turned back into. -/
def reconnectInput (input : SetPublicationConnectedInput) (existing : PublishedServiceRow) :
    PublishWorkspaceServiceInput where
  workspaceId := input.workspaceId
  name := input.name
  protocol := existing.protocol
  port := existing.targetPort
  visibility := existing.visibility
  ttlSeconds := originalTTLSeconds existing
  preserveAccessPolicy := true

/-- The publication or its revocation; whether there was anything to revoke is not
looked at. -/
def applyConnected (input : SetPublicationConnectedInput) (existing : PublishedServiceRow) :
    CloudDatabase × Except Failure Unit :=
  if input.connected then
    let published := publishWorkspaceService settings context database (reconnectInput input existing)
    (published.1, published.2.map fun _ => ())
  else
    let disconnected := disconnectWorkspaceService context database input.workspaceId input.name
    (disconnected.1, disconnected.2.map fun _ => ())

def answerPublication (directory : Directory) (input : SetPublicationConnectedInput) :
    Except Failure (Option OrganizationPublishedServiceSummary) := do
  let listed ← listOrganizationPublishedServices directory database input.userId input.organizationId
  let updated := listed.find? fun candidate =>
    candidate.publication.workspaceId = input.workspaceId && candidate.publication.name = input.name
  .ok (updated.map fun entry => organizationPublishedServiceSummary settings entry context.answeredAt)

def setOrganizationPublicationConnected (directory : Directory) (input : SetPublicationConnectedInput) :
    CloudDatabase × Except Failure (Option OrganizationPublishedServiceSummary) :=
  match resolveWorkspaceAccess database ⟨input.workspaceId, input.userId, input.organizationId⟩ with
  | none => (database, .ok none)
  | some _ =>
      match findPublishedService database input.workspaceId input.name with
      | .error failure => (database, .error failure)
      | .ok none => (database, .ok none)
      | .ok (some existing) =>
          match applyConnected settings context database input existing with
          | (after, .error failure) => (after, .error failure)
          | (after, .ok ()) => (after, answerPublication settings context after directory input)

end Calls

/-! ## What the steps do to the row -/

/-- What a name of a workspace denotes. -/
def PublishWorkspaceServiceInput.key (input : PublishWorkspaceServiceInput) : String × String :=
  (trim input.workspaceId, lowerCase (trim input.name))

def SetPublicationConnectedInput.key (input : SetPublicationConnectedInput) : String × String :=
  (trim input.workspaceId, lowerCase (trim input.name))

/-- The row of an accepted publication. -/
structure StoredFrom (database : CloudDatabase) (input : UpsertPublishedServiceInput)
    (service : PublishedServiceRow) : Prop where
  state : service.state = .active
  protocol : service.protocol = input.requestedProtocol
  targetPort : service.targetPort = input.targetPort
  visibility : service.visibility = input.visibility
  accessTokenHash : service.accessTokenHash = input.tokenHash
  expiresAt : service.expiresAt = input.expiresAt
  updatedAt : service.updatedAt = input.now
  slug : ∀ stored ∈ getPublishedServiceByName database input.key, service.slug = stored.slug
  ingressPort : chooseIngressPort database.tables (getPublishedServiceByName database input.key) input =
    .ok service.ingressPort

section Steps

variable {settings : PublicationSettings} {context : CallContext} {database after : CloudDatabase}
  {key : String × String} {service : PublishedServiceRow} {failure : Failure}

theorem upsertPublishedService_stored {input : UpsertPublishedServiceInput}
    (published : upsertPublishedService database input = .ok (after, service)) :
    StoredFrom database input service ∧ getPublishedServiceByName after input.key = some service ∧
      ∀ key, key ≠ input.key → getPublishedServiceByName after key = getPublishedServiceByName database key := by
  obtain ⟨excluded, id, slug, port, workspace, shape, _, _, chosen, written, returned⟩ :=
    upsertPublishedService_writes published
  have named : excluded.key = input.key := by
    rw [shape]
    rfl
  have looked : ∀ key, getPublishedServiceByName after key = _ :=
    fun key => getPublishedServiceByName_stored written
  refine ⟨?_, returned, fun key other => (looked key).trans (if_neg (named ▸ other.symm))⟩
  have row := (looked input.key).symm.trans returned
  rw [if_pos named, Option.some.injEq] at row
  rw [← row, shape]
  cases found : getPublishedServiceByName database input.key with
  | none =>
      rw [found] at chosen
      refine ⟨rfl, rfl, rfl, rfl, rfl, rfl, rfl, by simp [found], ?_⟩
      rw [found]
      exact chosen
  | some stored =>
      rw [found] at chosen
      refine ⟨rfl, rfl, rfl, rfl, rfl, rfl, rfl, ?_, ?_⟩
      · intro other held
        rw [found] at held
        cases held
        rfl
      · rw [found]
        exact chosen

/-- A revocation of a valid name is carried out; it changes an active row alone. -/
theorem revokePublishedService_accepts {input : RevokePublishedServiceInput}
    (workspaceText : publishedServiceText input.workspaceId "Workspace id" = .ok (trim input.workspaceId))
    (nameText : publishedServiceName input.name = .ok (lowerCase (trim input.name))) :
    ∃ after, revokePublishedService database input = .ok (after, getPublishedServiceByName after input.key) ∧
      after.tables = { database.tables with publishedServices := after.tables.publishedServices } ∧
      ∀ key, getPublishedServiceByName after key =
        (getPublishedServiceByName database key).map fun service =>
          if key = input.key ∧ service.state = .active then service.revoked input.now else service := by
  cases found : getPublishedServiceByName database input.key with
  | none =>
      refine ⟨database, ?_, rfl, fun key => ?_⟩
      · refine bind_ok.mpr ⟨_, workspaceText, bind_ok.mpr ⟨_, nameText, ?_⟩⟩
        simp only [RevokePublishedServiceInput.key] at found ⊢
        simp [found]
      · by_cases same : key = input.key
        · rw [same, found]
          rfl
        · simp [same]
  | some existing =>
      by_cases active : existing.state = .active
      · let after : CloudDatabase := ⟨_, consistent_of_revoked database
          (fun service => service.key = (trim input.workspaceId, lowerCase (trim input.name))) input.now⟩
        refine ⟨after, ?_, rfl, fun key => ?_⟩
        · refine bind_ok.mpr ⟨_, workspaceText, bind_ok.mpr ⟨_, nameText, ?_⟩⟩
          simp only [RevokePublishedServiceInput.key] at found ⊢
          simp only [found, if_pos active]
          exact bind_ok.mpr ⟨after, Store.execute_of_consistent after.consistent, rfl⟩
        · have looked : getPublishedServiceByName after key =
              (getPublishedServiceByName database key).map fun row =>
                if row.key = input.key then row.revoked input.now else row := by
            have updated := @lookup_updateWhere PublishedServiceRow _ _ (·.key)
              database.tables.publishedServices key (fun service => service.key = input.key)
              (·.revoked input.now) fun _ _ => rfl
            simp only [decide_eq_true_eq] at updated
            exact updated
          rw [looked]
          cases stored : getPublishedServiceByName database key with
          | none => rfl
          | some service =>
              have sameKey : service.key = key := lookup_key stored
              simp only [Option.map_some, Option.some.injEq, sameKey]
              by_cases same : key = input.key
              · have sameRow : service = existing := by
                  rw [same, found] at stored
                  exact (Option.some.inj stored).symm
                simp [same, sameRow, active]
              · simp [same]
      · refine ⟨database, ?_, rfl, fun key => ?_⟩
        · refine bind_ok.mpr ⟨_, workspaceText, bind_ok.mpr ⟨_, nameText, ?_⟩⟩
          simp only [RevokePublishedServiceInput.key] at found ⊢
          simp only [found, if_neg active]
        · cases stored : getPublishedServiceByName database key with
          | none => rfl
          | some service =>
              have inactive : ¬ (key = input.key ∧ service.state = .active) := by
                rintro ⟨same, state⟩
                rw [same, found] at stored
                cases stored
                exact active state
              simp [inactive]

theorem revokePublishedService_row {input : RevokePublishedServiceInput} {returned : Option PublishedServiceRow}
    (revoked : revokePublishedService database input = .ok (after, returned)) :
    returned = getPublishedServiceByName after input.key ∧
      after.tables = { database.tables with publishedServices := after.tables.publishedServices } ∧
      ∀ key, getPublishedServiceByName after key =
        (getPublishedServiceByName database key).map fun service =>
          if key = input.key ∧ service.state = .active then service.revoked input.now else service := by
  obtain ⟨_, workspaceText, rest⟩ := bind_ok.mp revoked
  obtain ⟨_, nameText, _⟩ := bind_ok.mp rest
  rw [publishedServiceText_ok workspaceText] at workspaceText
  rw [publishedServiceName_ok nameText] at nameText
  obtain ⟨other, accepted, tables, looked⟩ :=
    @revokePublishedService_accepts database input workspaceText nameText
  cases revoked.symm.trans accepted
  exact ⟨rfl, tables, looked⟩

/-- Giving a publication up revokes it. -/
theorem abandonPublication_row {input : PublishWorkspaceServiceInput}
    (workspaceText : publishedServiceText input.workspaceId "Workspace id" = .ok (trim input.workspaceId))
    (nameText : publishedServiceName input.name = .ok (lowerCase (trim input.name))) :
    (abandonPublication context database input failure).2 = .error failure ∧
      ∀ key, getPublishedServiceByName (abandonPublication context database input failure).1 key =
        (getPublishedServiceByName database key).map fun service =>
          if key = input.key ∧ service.state = .active then service.revoked context.now else service := by
  obtain ⟨after, revoked, _, looked⟩ := @revokePublishedService_accepts database
    ⟨input.workspaceId, input.name, context.now⟩ workspaceText nameText
  unfold abandonPublication
  rw [revoked]
  exact ⟨rfl, looked⟩

theorem startListener_outcome {input : PublishWorkspaceServiceInput} :
    startListener settings context database input service = (database, .ok ()) ∨
      ∃ failure, startListener settings context database input service =
        abandonPublication context database input failure := by
  unfold startListener
  split
  · exact .inl rfl
  · split
    · split
      · exact .inl rfl
      · exact .inr ⟨_, rfl⟩
    · exact .inr ⟨_, rfl⟩

theorem auditPublication_ok {owner : WorkspaceOwnerIdentity} {action : String}
    (audited : auditPublication database owner context action service = .ok after) (key : String × String) :
    getPublishedServiceByName after key = getPublishedServiceByName database key := by
  obtain ⟨auditEvents, written⟩ := recordAuditEvent_ok audited
  unfold getPublishedServiceByName
  rw [written]

theorem findPublishedService_ok {workspaceId name : String} {found : Option PublishedServiceRow}
    (looked : findPublishedService database workspaceId name = .ok found) :
    publishedServiceName name = .ok (lowerCase (trim name)) ∧
      found = getPublishedServiceByName database (trim workspaceId, lowerCase (trim name)) := by
  obtain ⟨text, nameText, looked⟩ := bind_ok.mp looked
  cases looked
  have same := publishedServiceName_ok nameText
  subst same
  exact ⟨nameText, rfl⟩

theorem preparePublication_ok {input : PublishWorkspaceServiceInput} {owner : WorkspaceOwnerIdentity}
    {request : UpsertPublishedServiceInput}
    (prepared : preparePublication settings context database input = .ok (owner, request)) :
    request = publicationInput settings context input (getPublishedServiceByName database input.key) := by
  obtain ⟨paused, _, prepared⟩ := bind_ok.mp prepared
  split at prepared
  · cases prepared
  · split at prepared
    · cases prepared
    · split at prepared
      · cases prepared
      · obtain ⟨previous, looked, prepared⟩ := bind_ok.mp prepared
        cases prepared
        rw [(findPublishedService_ok looked).2]
        rfl

/-- A disconnect throws without a write, or it has revoked an active publication of a
known owner. -/
theorem disconnectWorkspaceService_row {workspaceId name : String} :
    (∃ failure, disconnectWorkspaceService context database workspaceId name = (database, .error failure)) ∨
      ∀ key, getPublishedServiceByName (disconnectWorkspaceService context database workspaceId name).1 key =
        (getPublishedServiceByName database key).map fun service =>
          if (getWorkspaceOwnerIdentity database workspaceId).isSome ∧
              key = (trim workspaceId, lowerCase (trim name)) ∧ service.state = .active then
            service.revoked context.now
          else service := by
  unfold disconnectWorkspaceService
  cases known : getWorkspaceOwnerIdentity database workspaceId with
  | none => exact .inr fun key => by simp
  | some owner =>
      cases revoked : revokePublishedService database ⟨workspaceId, name, context.now⟩ with
      | error failure => exact .inl ⟨failure, rfl⟩
      | ok result =>
          obtain ⟨after, publication⟩ := result
          have looked := (revokePublishedService_row revoked).2.2
          simp only [Option.isSome_some, true_and]
          cases publication with
          | none => exact .inr looked
          | some publication =>
              cases audited : auditPublication after owner context "workspace.service_revoked" publication with
              | error failure =>
                  simp only [audited]
                  exact .inr looked
              | ok final =>
                  simp only [audited]
                  exact .inr fun key => (auditPublication_ok audited key).trans (looked key)

/-- A call that is refused or finds nothing leaves the database alone; any other does
what it is asked and then reads the answer. -/
theorem setOrganizationPublicationConnected_cases {directory : Directory} {input : SetPublicationConnectedInput} :
    (∃ failure, setOrganizationPublicationConnected settings context database directory input =
        (database, .error failure)) ∨
      setOrganizationPublicationConnected settings context database directory input = (database, .ok none) ∨
      ∃ existing ∈ getPublishedServiceByName database input.key,
        (setOrganizationPublicationConnected settings context database directory input).1 =
            (applyConnected settings context database input existing).1 ∧
          ((∃ failure, (applyConnected settings context database input existing).2 = .error failure ∧
              (setOrganizationPublicationConnected settings context database directory input).2 =
                .error failure) ∨
            (applyConnected settings context database input existing).2 = .ok () ∧
              (setOrganizationPublicationConnected settings context database directory input).2 =
                answerPublication settings context
                  (applyConnected settings context database input existing).1 directory input) := by
  unfold setOrganizationPublicationConnected
  split
  · exact .inr (.inl rfl)
  · cases looked : findPublishedService database input.workspaceId input.name with
    | error failure => exact .inl ⟨failure, rfl⟩
    | ok found =>
        cases found with
        | none => exact .inr (.inl rfl)
        | some existing =>
            refine .inr (.inr ⟨existing, (findPublishedService_ok looked).2.symm, ?_⟩)
            cases applied : applyConnected settings context database input existing with
            | mk after outcome =>
                cases outcome with
                | ok done =>
                    simp only [applied]
                    exact ⟨trivial, .inr ⟨trivial, trivial⟩⟩
                | error failure =>
                    simp only [applied]
                    exact ⟨trivial, .inl ⟨failure, rfl, rfl⟩⟩

end Steps

end NebulaCloud.Publication
