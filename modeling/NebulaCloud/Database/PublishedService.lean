import NebulaCloud.Data.Upsert
import NebulaCloud.Database.Workspace
import Mathlib.Data.List.Sort
import Mathlib.Data.Prod.Lex

namespace NebulaCloud.Database

open NebulaCloud.Data NebulaCloud.Platform

/-! # Published services

A workspace publishes services under names; each publication has an address, a
slug for HTTP and a port for TCP, that it keeps. -/

/-! ## Input -/

/-- `toLowerCase`, where the result can be a service name: beside the letters of
ASCII only the Kelvin sign turns into one. -/
def lowerCase (text : String) : String :=
  String.ofList (text.toList.map fun c => if c.toNat = 0x212A then 'k' else c.toLower)

def isNameCharacter (c : Char) : Bool := ('a' ≤ c && c ≤ 'z') || ('0' ≤ c && c ≤ '9')

/-- `/^[a-z0-9](?:[a-z0-9-]{0,30}[a-z0-9])?$/`. -/
def isServiceName (name : String) : Bool :=
  name.toList.head?.any isNameCharacter && name.toList.getLast?.any isNameCharacter &&
    name.toList.all (fun c => isNameCharacter c || c = '-') && name.toList.length ≤ 32

def publishedServiceName (value : String) : Except Failure String :=
  if isServiceName (lowerCase (trim value)) then .ok (lowerCase (trim value))
  else .error (.error "Published service name is invalid")

def publishedServiceText (value field : String) : Except Failure String :=
  if trim value = "" ∨ 128 < utf16Length (trim value) then .error (.error (field ++ " is invalid"))
  else .ok (trim value)

def publishedServicePort (value : Int) : Except Failure Int :=
  if IsServicePort value then .ok value
  else .error (.error "Published service port is invalid")

structure UpsertPublishedServiceInput where
  id : String
  workspaceId : String
  name : String
  slug : String
  protocol : Option PublishedServiceProtocol
  targetPort : Int
  visibility : PublishedServiceVisibility
  authPolicy : PublishedServiceAuthPolicy
  accessTokenHash : Option String
  expiresAt : Option Int
  tcpIngressPortMinimum : Option Int
  tcpIngressPortMaximum : Option Int
  maximumActive : Option Int
  maximumOrganizationActive : Option Int
  now : Int
deriving DecidableEq, Repr

namespace UpsertPublishedServiceInput

variable (input : UpsertPublishedServiceInput)

def requestedProtocol : PublishedServiceProtocol := input.protocol.getD .http

/-- `accessTokenHash?.trim() || null`. -/
def tokenHash : Option String := (input.accessTokenHash.map trim).filter (· ≠ "")

def activeLimit : Int := input.maximumActive.getD 5

def organizationActiveLimit : Int := input.maximumOrganizationActive.getD 20

/-- What the input names, as stored. -/
def key : String × String := (trim input.workspaceId, lowerCase (trim input.name))

end UpsertPublishedServiceInput

/-- The row that a first publication inserts, before a port is chosen. -/
def newService (input : UpsertPublishedServiceInput) (id workspaceId name slug : String)
    (targetPort : Int) : PublishedServiceRow where
  id := id
  workspaceId := workspaceId
  name := name
  slug := slug
  protocol := input.requestedProtocol
  targetPort := targetPort
  ingressPort := none
  state := .active
  visibility := input.visibility
  authPolicy := input.authPolicy
  accessTokenHash := input.tokenHash
  expiresAt := input.expiresAt
  createdAt := input.now
  updatedAt := input.now
  revokedAt := none

def requestedService (input : UpsertPublishedServiceInput) : Except Failure PublishedServiceRow := do
  let id ← publishedServiceText input.id "Published service id"
  let workspaceId ← publishedServiceText input.workspaceId "Workspace id"
  let name ← publishedServiceName input.name
  let slug ← publishedServiceText input.slug "Published service slug"
  let targetPort ← publishedServicePort input.targetPort
  if input.activeLimit < 1 ∨ 100 < input.activeLimit then
    .error (.error "Published service limit is invalid")
  else if input.organizationActiveLimit < 1 ∨ 10000 < input.organizationActiveLimit then
    .error (.error "Organization published service limit is invalid")
  else .ok (newService input id workspaceId name slug targetPort)

/-! ## Checks of the transaction -/

def IsSafeInteger (value : Int) : Prop := -maxSafeInteger ≤ value ∧ value ≤ maxSafeInteger

instance (value : Int) : Decidable (IsSafeInteger value) := inferInstanceAs (Decidable (_ ∧ _))

def publishedServiceMinimumTTLSeconds : Int := 5 * 60

def publishedServiceMaximumTTLSeconds : Int := 7 * 24 * 60 * 60

def checkExpiry (expiresAt : Option Int) (now : Int) : Except Failure Unit :=
  match expiresAt with
  | none => .ok ()
  | some expiresAt =>
      if ¬ IsSafeInteger expiresAt then .error (.error "Published service expiry is invalid")
      else if expiresAt - now < publishedServiceMinimumTTLSeconds * 1000 ∨
          publishedServiceMaximumTTLSeconds * 1000 < expiresAt - now then
        .error (.error "Published service TTL is invalid")
      else .ok ()

/-- `/^[a-f0-9]{64}$/`. -/
def isTokenHash (hash : String) : Bool :=
  hash.toList.length = 64 &&
    hash.toList.all fun c => ('a' ≤ c && c ≤ 'f') || ('0' ≤ c && c ≤ '9')

/-- The policy fits the visibility. -/
def FitsVisibility (service : PublishedServiceRow) : Prop :=
  (service.visibility = .publicAccess →
      service.authPolicy = .none ∧ service.accessTokenHash = none) ∧
    (service.visibility = .privateAccess →
      service.authPolicy = .token ∧ isTokenHash (service.accessTokenHash.getD "") = true)

instance (service : PublishedServiceRow) : Decidable (FitsVisibility service) :=
  inferInstanceAs (Decidable (_ ∧ _))

def checkAccess (service : PublishedServiceRow) : Except Failure Unit :=
  if ¬ FitsVisibility service then
    .error (.error "Published service access policy is invalid")
  else if service.protocol = .tcp ∧
      (service.visibility ≠ .publicAccess ∨ service.authPolicy ≠ .none) then
    .error (.error "TCP publications must use public passthrough access")
  else .ok ()

/-- Active and not expired. -/
def PublishedServiceRow.IsLive (service : PublishedServiceRow) (now : Int) : Prop :=
  service.state = .active ∧ ∀ expiresAt ∈ service.expiresAt, now < expiresAt

instance (service : PublishedServiceRow) (now : Int) : Decidable (service.IsLive now) :=
  inferInstanceAs (Decidable (_ ∧ _))

def liveServices (tables : Tables) (workspaceId : String) (now : Int) : Nat :=
  tables.publishedServices.countP fun service =>
    service.workspaceId = workspaceId && service.IsLive now

/-- `INNER JOIN workspace`, whose identifiers are unique. -/
def InOrganization (tables : Tables) (organizationId : String) (service : PublishedServiceRow) :
    Prop :=
  ∃ workspace ∈ tables.workspaces,
    workspace.id = service.workspaceId ∧ workspace.organizationId = organizationId

instance (tables : Tables) (organizationId : String) (service : PublishedServiceRow) :
    Decidable (InOrganization tables organizationId service) :=
  inferInstanceAs (Decidable (∃ _ ∈ _, _))

def organizationLiveServices (tables : Tables) (organizationId : String) (now : Int) : Nat :=
  tables.publishedServices.countP fun service =>
    InOrganization tables organizationId service && service.IsLive now

/-- A publication that is live already does not count again. -/
def checkQuotas (tables : Tables) (workspace : WorkspaceRow)
    (existing : Option PublishedServiceRow) (input : UpsertPublishedServiceInput) :
    Except Failure Unit :=
  if ∃ service ∈ existing, service.IsLive input.now then .ok ()
  else if input.activeLimit ≤ liveServices tables workspace.id input.now then
    .error .publishedServiceLimit
  else if input.organizationActiveLimit ≤
      organizationLiveServices tables workspace.organizationId input.now then
    .error .organizationPublishedServiceLimit
  else .ok ()

/-! ## Ingress ports -/

/-- A configured range of ports. -/
def IsIngressRange (minimum maximum : Int) : Prop :=
  1024 ≤ minimum ∧ maximum ≤ 65535 ∧ minimum ≤ maximum ∧ ¬ (minimum ≤ 7777 ∧ 7777 ≤ maximum)

instance (minimum maximum : Int) : Decidable (IsIngressRange minimum maximum) :=
  inferInstanceAs (Decidable (_ ∧ _))

/-- The port of an existing TCP publication, if it lies in the range. -/
def keptIngressPort (minimum maximum : Int) (existing : Option PublishedServiceRow) : Option Int :=
  match existing with
  | none => none
  | some service =>
      if service.protocol = .tcp then
        service.ingressPort.filter fun port => minimum ≤ port && port ≤ maximum
      else none

def portsBetween (minimum maximum : Int) : List Int :=
  (List.range (maximum + 1 - minimum).toNat).map fun (offset : Nat) => minimum + offset

/-- The first port of the range that no row uses, whatever its state. -/
def freeIngressPort (tables : Tables) (minimum maximum : Int) : Option Int :=
  (portsBetween minimum maximum).find? fun port =>
    port ∉ tables.publishedServices.filterMap (·.ingressPort)

def chooseIngressPort (tables : Tables) (existing : Option PublishedServiceRow)
    (input : UpsertPublishedServiceInput) : Except Failure (Option Int) :=
  match input.requestedProtocol with
  | .http => .ok none
  | .tcp =>
      match input.tcpIngressPortMinimum, input.tcpIngressPortMaximum with
      | some minimum, some maximum =>
          if ¬ IsIngressRange minimum maximum then
            .error (.error "Published service TCP ingress range is invalid")
          else
            match keptIngressPort minimum maximum existing with
            | some port => .ok (some port)
            | none =>
                match freeIngressPort tables minimum maximum with
                | some port => .ok (some port)
                | none => .error .publishedServiceIngressCapacity
      | _, _ => .error (.error "Published service TCP ingress range is invalid")

/-! ## Publishing -/

def PublishedServiceRow.key (service : PublishedServiceRow) : String × String :=
  (service.workspaceId, service.name)

def getPublishedServiceByName (database : CloudDatabase) (key : String × String) :
    Option PublishedServiceRow :=
  lookup (·.key) database.tables.publishedServices key

/-- `ON CONFLICT(workspace_id, name) DO UPDATE SET …`. -/
def PublishedServiceRow.republished (excluded stored : PublishedServiceRow) : PublishedServiceRow :=
  { stored with
    protocol := excluded.protocol
    targetPort := excluded.targetPort
    ingressPort := excluded.ingressPort
    state := .active
    visibility := excluded.visibility
    authPolicy := excluded.authPolicy
    accessTokenHash := excluded.accessTokenHash
    expiresAt := excluded.expiresAt
    updatedAt := excluded.updatedAt
    revokedAt := none }

def storeService (excluded : PublishedServiceRow) (tables : Tables) : Tables :=
  { tables with
    publishedServices :=
      (upsert (·.key) (fun _ _ => true) PublishedServiceRow.republished excluded
        tables.publishedServices).1 }

/-- The transaction of `upsertPublishedService`. -/
def publish (database : CloudDatabase) (input : UpsertPublishedServiceInput)
    (requested : PublishedServiceRow) : Except Failure (CloudDatabase × PublishedServiceRow) :=
  match getWorkspaceById database requested.workspaceId with
  | none => .error (.error "Workspace was not found")
  | some workspace => do
      let existing := getPublishedServiceByName database requested.key
      checkExpiry input.expiresAt input.now
      checkAccess requested
      checkQuotas database.tables workspace existing input
      let ingressPort ← chooseIngressPort database.tables existing input
      let database ← statement database (storeService { requested with ingressPort })
      match getPublishedServiceByName database requested.key with
      | none => .error (.error "Published service could not be resolved")
      | some service => .ok (database, service)

def upsertPublishedService (database : CloudDatabase) (input : UpsertPublishedServiceInput) :
    Except Failure (CloudDatabase × PublishedServiceRow) := do
  let requested ← requestedService input
  publish database input requested

/-! ## Revocation -/

def PublishedServiceRow.revoked (timestamp : Int) (service : PublishedServiceRow) :
    PublishedServiceRow :=
  { service with
    state := .revoked
    updatedAt := timestamp
    revokedAt := some timestamp }

structure RevokePublishedServiceInput where
  workspaceId : String
  name : String
  now : Int
deriving DecidableEq, Repr

def RevokePublishedServiceInput.key (input : RevokePublishedServiceInput) : String × String :=
  (trim input.workspaceId, lowerCase (trim input.name))

def revokePublishedService (database : CloudDatabase) (input : RevokePublishedServiceInput) :
    Except Failure (CloudDatabase × Option PublishedServiceRow) := do
  let workspaceId ← publishedServiceText input.workspaceId "Workspace id"
  let name ← publishedServiceName input.name
  match getPublishedServiceByName database (workspaceId, name) with
  | none => .ok (database, none)
  | some existing =>
      if existing.state = .active then do
        let database ← statement database fun tables =>
          { tables with
            publishedServices := updateWhere (fun service => service.key = (workspaceId, name))
              (·.revoked input.now) tables.publishedServices }
        .ok (database, getPublishedServiceByName database (workspaceId, name))
      else .ok (database, some existing)

structure RevokeOrganizationPublishedServicesInput where
  organizationId : String
  now : Int
deriving DecidableEq, Repr

/-- `ORDER BY created_at, id`. -/
def publicationOrder (left right : PublishedServiceRow) : Prop :=
  toLex (left.createdAt, left.id) ≤ toLex (right.createdAt, right.id)

instance : DecidableRel publicationOrder :=
  fun _ _ => inferInstanceAs (Decidable (_ ≤ _))

/-- The rows that an organization-wide revocation is about. -/
def ActiveIn (tables : Tables) (organizationId : String) (service : PublishedServiceRow) : Prop :=
  service.state = .active ∧ InOrganization tables organizationId service

instance (tables : Tables) (organizationId : String) (service : PublishedServiceRow) :
    Decidable (ActiveIn tables organizationId service) :=
  inferInstanceAs (Decidable (_ ∧ _))

def activePublications (tables : Tables) (organizationId : String) : List PublishedServiceRow :=
  (tables.publishedServices.filter fun service =>
    ActiveIn tables organizationId service).insertionSort publicationOrder

def revokeServicesIn (organizationId : String) (timestamp : Int) (tables : Tables) : Tables :=
  { tables with
    publishedServices := updateWhere (fun service => ActiveIn tables organizationId service)
      (·.revoked timestamp) tables.publishedServices }

def revokeOrganizationPublishedServices (database : CloudDatabase)
    (input : RevokeOrganizationPublishedServicesInput) :
    Except Failure (CloudDatabase × List PublishedServiceRow) := do
  let organizationId ← publishedServiceText input.organizationId "Organization id"
  if ¬ IsNonNegativeSafeInteger input.now then
    .error (.typeError "Published service revocation timestamp is invalid")
  else
    let rows := activePublications database.tables organizationId
    if rows = [] then .ok (database, [])
    else do
      let database ← statement database (revokeServicesIn organizationId input.now)
      .ok (database, rows.map (·.revoked input.now))

/-! ## What the operations do -/

section Specifications

variable {database after : CloudDatabase} {tables : Tables} {input : UpsertPublishedServiceInput}
  {service requested : PublishedServiceRow} {existing : Option PublishedServiceRow}

theorem PublishedServiceRow.IsLive.earlier {now later : Int} (live : service.IsLive later)
    (before : now ≤ later) : service.IsLive now :=
  ⟨live.1, fun expiresAt stored => lt_of_le_of_lt before (live.2 expiresAt stored)⟩

theorem publishedServiceText_ok {value field text : String}
    (checked : publishedServiceText value field = .ok text) : text = trim value := by
  unfold publishedServiceText at checked
  split at checked <;> cases checked
  rfl

theorem publishedServiceName_ok {value name : String}
    (checked : publishedServiceName value = .ok name) : name = lowerCase (trim value) := by
  unfold publishedServiceName at checked
  by_cases valid : isServiceName (lowerCase (trim value)) = true
  · rw [if_pos valid] at checked
    exact (Except.ok.inj checked).symm
  · rw [if_neg valid] at checked
    contradiction

/-- The row that a valid request asks for.  What it is named by has been checked. -/
theorem requestedService_ok (accepted : requestedService input = .ok requested) :
    (∃ id slug, requested =
      newService input id (trim input.workspaceId) (lowerCase (trim input.name)) slug input.targetPort) ∧
      publishedServiceText input.workspaceId "Workspace id" = .ok (trim input.workspaceId) ∧
      publishedServiceName input.name = .ok (lowerCase (trim input.name)) := by
  obtain ⟨id, _, accepted⟩ := bind_ok.mp accepted
  obtain ⟨workspaceId, workspaceText, accepted⟩ := bind_ok.mp accepted
  obtain ⟨name, nameText, accepted⟩ := bind_ok.mp accepted
  obtain ⟨slug, _, accepted⟩ := bind_ok.mp accepted
  obtain ⟨targetPort, port, accepted⟩ := bind_ok.mp accepted
  have samePort : targetPort = input.targetPort := by
    unfold publishedServicePort at port
    split at port <;> cases port
    rfl
  split at accepted
  · cases accepted
  · split at accepted
    · cases accepted
    · cases accepted
      have sameWorkspace := publishedServiceText_ok workspaceText
      have sameName := publishedServiceName_ok nameText
      subst sameWorkspace sameName samePort
      exact ⟨⟨_, _, rfl⟩, workspaceText, nameText⟩

/-- A publication that is not live yet finds room in both quotas. -/
theorem checkQuotas_ok {workspace : WorkspaceRow}
    (checked : checkQuotas tables workspace existing input = .ok ()) :
    (∃ stored ∈ existing, stored.IsLive input.now) ∨
      (liveServices tables workspace.id input.now < input.activeLimit ∧
        organizationLiveServices tables workspace.organizationId input.now <
          input.organizationActiveLimit) := by
  unfold checkQuotas at checked
  split at checked
  · rename_i live
    exact .inl live
  · split at checked
    · cases checked
    · split at checked
      · cases checked
      · rename_i room organizationRoom
        exact .inr ⟨not_le.mp room, not_le.mp organizationRoom⟩

theorem mem_portsBetween {minimum maximum port : Int} :
    port ∈ portsBetween minimum maximum ↔ minimum ≤ port ∧ port ≤ maximum := by
  unfold portsBetween
  rw [List.mem_map]
  constructor
  · rintro ⟨offset, bounded, rfl⟩
    rw [List.mem_range] at bounded
    omega
  · rintro ⟨lower, upper⟩
    exact ⟨(port - minimum).toNat, List.mem_range.mpr (by omega), by omega⟩

/-- The port that a TCP publication gets lies in the range, and is the old one if
that lies in the range. -/
structure ChosenPort (existing : Option PublishedServiceRow) (input : UpsertPublishedServiceInput)
    (port : Int) : Prop where
  within : ∃ minimum ∈ input.tcpIngressPortMinimum, ∃ maximum ∈ input.tcpIngressPortMaximum,
    minimum ≤ port ∧ port ≤ maximum
  kept : ∀ minimum ∈ input.tcpIngressPortMinimum, ∀ maximum ∈ input.tcpIngressPortMaximum,
    ∀ old ∈ keptIngressPort minimum maximum existing, port = old

theorem keptIngressPort_within {minimum maximum port : Int}
    (kept : keptIngressPort minimum maximum existing = some port) :
    minimum ≤ port ∧ port ≤ maximum := by
  unfold keptIngressPort at kept
  split at kept
  · cases kept
  · split at kept
    · simpa using (Option.filter_eq_some_iff.mp kept).2
    · cases kept

theorem chooseIngressPort_ok {port : Option Int}
    (chosen : chooseIngressPort tables existing input = .ok port) :
    (input.requestedProtocol = .http ∧ port = none) ∨
      (input.requestedProtocol = .tcp ∧ ∃ number, port = some number ∧
        ChosenPort existing input number) := by
  unfold chooseIngressPort at chosen
  cases protocol : input.requestedProtocol with
  | http =>
      simp only [protocol] at chosen
      cases chosen
      exact .inl ⟨rfl, rfl⟩
  | tcp =>
      simp only [protocol] at chosen
      refine .inr ⟨rfl, ?_⟩
      split at chosen
      · rename_i minimum maximum hasMinimum hasMaximum
        split at chosen
        · cases chosen
        · have range {number : Int} (within : minimum ≤ number ∧ number ≤ maximum)
              (same : ∀ old ∈ keptIngressPort minimum maximum existing, number = old) :
              ChosenPort existing input number := by
            refine ⟨⟨minimum, hasMinimum, maximum, hasMaximum, within⟩, ?_⟩
            intro otherMinimum isMinimum otherMaximum isMaximum
            cases hasMinimum.symm.trans isMinimum
            cases hasMaximum.symm.trans isMaximum
            exact same
          split at chosen
          · rename_i old kept
            cases chosen
            refine ⟨old, rfl, range (keptIngressPort_within kept) fun other otherKept => ?_⟩
            exact Option.some.inj (kept.symm.trans otherKept)
          · rename_i notKept
            split at chosen
            · rename_i free found
              cases chosen
              refine ⟨free, rfl, range (mem_portsBetween.mp (List.mem_of_find?_eq_some found)) ?_⟩
              intro other otherKept
              exact absurd (notKept.symm.trans otherKept) (by simp)
            · cases chosen
      · cases chosen

/-- What the checks of an accepted publication establish about the row it stores. -/
structure Admitted (database : CloudDatabase) (input : UpsertPublishedServiceInput)
    (excluded : PublishedServiceRow) : Prop where
  key : excluded.key = input.key
  active : excluded.state = .active
  protocol : excluded.protocol = input.requestedProtocol
  quotas : (∃ stored ∈ getPublishedServiceByName database input.key, stored.IsLive input.now) ∨
    ∃ workspace, getWorkspaceById database excluded.workspaceId = some workspace ∧
      liveServices database.tables workspace.id input.now < input.activeLimit ∧
      organizationLiveServices database.tables workspace.organizationId input.now <
        input.organizationActiveLimit
  port : (input.requestedProtocol = .http ∧ excluded.ingressPort = none) ∨
    (input.requestedProtocol = .tcp ∧ ∃ number, excluded.ingressPort = some number ∧
      ChosenPort (getPublishedServiceByName database input.key) input number)

/-- What an accepted publication writes. -/
theorem upsertPublishedService_writes
    (published : upsertPublishedService database input = .ok (after, service)) :
    ∃ excluded id slug ingressPort workspace,
      excluded =
        { newService input id (trim input.workspaceId) (lowerCase (trim input.name)) slug input.targetPort with
          ingressPort } ∧
        getWorkspaceById database excluded.workspaceId = some workspace ∧
        checkQuotas database.tables workspace (getPublishedServiceByName database input.key) input = .ok () ∧
        chooseIngressPort database.tables (getPublishedServiceByName database input.key) input =
          .ok ingressPort ∧
        after.tables = storeService excluded database.tables ∧
        getPublishedServiceByName after input.key = some service := by
  obtain ⟨requested, accepted, published⟩ := bind_ok.mp published
  obtain ⟨⟨id, slug, rfl⟩, _⟩ := requestedService_ok accepted
  unfold publish at published
  split at published
  · cases published
  · rename_i workspace found
    obtain ⟨_, _, published⟩ := bind_ok.mp published
    obtain ⟨_, _, published⟩ := bind_ok.mp published
    obtain ⟨_, quotas, published⟩ := bind_ok.mp published
    obtain ⟨port, chosen, published⟩ := bind_ok.mp published
    obtain ⟨written, store, reread⟩ := bind_ok.mp published
    split at reread
    · cases reread
    · rename_i stored
      cases reread
      exact ⟨_, id, slug, port, workspace, rfl, found, quotas, chosen, Store.execute_ok.mp store, stored⟩

theorem upsertPublishedService_ok
    (published : upsertPublishedService database input = .ok (after, service)) :
    ∃ excluded, Admitted database input excluded ∧
      after.tables = storeService excluded database.tables ∧
      getPublishedServiceByName after input.key = some service := by
  obtain ⟨excluded, id, slug, port, workspace, rfl, found, quotas, chosen, written, returned⟩ :=
    upsertPublishedService_writes published
  refine ⟨_, ⟨rfl, rfl, rfl, ?_, chooseIngressPort_ok chosen⟩, written, returned⟩
  exact (checkQuotas_ok quotas).imp_right fun room => ⟨workspace, found, room⟩

theorem revokePublishedService_ok {input : RevokePublishedServiceInput}
    {revoked : Option PublishedServiceRow}
    (accepted : revokePublishedService database input = .ok (after, revoked)) :
    after = database ∨
      after.tables = { database.tables with
        publishedServices := updateWhere (fun service => service.key = input.key)
          (·.revoked input.now) database.tables.publishedServices } := by
  obtain ⟨workspaceId, workspaceText, accepted⟩ := bind_ok.mp accepted
  obtain ⟨name, nameText, accepted⟩ := bind_ok.mp accepted
  rw [publishedServiceText_ok workspaceText, publishedServiceName_ok nameText] at accepted
  split at accepted
  · cases accepted
    exact .inl rfl
  · split at accepted
    · obtain ⟨written, update, returned⟩ := bind_ok.mp accepted
      cases returned
      exact .inr (Store.execute_ok.mp update)
    · cases accepted
      exact .inl rfl

theorem revokeOrganizationPublishedServices_ok {input : RevokeOrganizationPublishedServicesInput}
    {rows : List PublishedServiceRow}
    (accepted : revokeOrganizationPublishedServices database input = .ok (after, rows)) :
    after = database ∨
      after.tables = revokeServicesIn (trim input.organizationId) input.now database.tables := by
  obtain ⟨organizationId, text, accepted⟩ := bind_ok.mp accepted
  rw [publishedServiceText_ok text] at accepted
  split at accepted
  · cases accepted
  · dsimp only at accepted
    split at accepted
    · cases accepted
      exact .inl rfl
    · obtain ⟨written, update, returned⟩ := bind_ok.mp accepted
      cases returned
      exact .inr (Store.execute_ok.mp update)

/-- A revocation keeps every address and every check of the row. -/
theorem consistent_of_revoked (database : CloudDatabase) (selected : PublishedServiceRow → Bool)
    (timestamp : Int) :
    schema.Consistent { database.tables with
      publishedServices := updateWhere selected (·.revoked timestamp) database.tables.publishedServices } := by
  have same {Column : Type} (column : PublishedServiceRow → Column)
      (keeps : ∀ service : PublishedServiceRow, column (service.revoked timestamp) = column service) :
      (updateWhere selected (·.revoked timestamp) database.tables.publishedServices).map column =
        database.tables.publishedServices.map column := map_updateWhere keeps
  have member {service : PublishedServiceRow} (stored : service ∈
      updateWhere selected (·.revoked timestamp) database.tables.publishedServices) :
      ∃ before ∈ database.tables.publishedServices,
        service = before ∨ service = before.revoked timestamp := by
    obtain ⟨before, beforeMember, changed⟩ := mem_updateWhere.mp stored
    split at changed
    · exact ⟨before, beforeMember, .inr changed.symm⟩
    · exact ⟨before, beforeMember, .inl changed.symm⟩
  intro constraint
  have held := database.consistent constraint
  cases constraint with
  | serviceId => exact (congrArg List.Nodup (same (·.id) fun _ => rfl)).mpr held
  | serviceSlug => exact (congrArg List.Nodup (same (·.slug) fun _ => rfl)).mpr held
  | serviceName =>
      exact (congrArg List.Nodup
        (same (fun service => (service.workspaceId, service.name)) fun _ => rfl)).mpr held
  | serviceIngressPort =>
      have ports : (updateWhere selected (·.revoked timestamp)
          database.tables.publishedServices).filterMap (·.ingressPort) =
          database.tables.publishedServices.filterMap (·.ingressPort) :=
        filterMap_updateWhere fun _ _ _ => rfl
      exact (congrArg List.Nodup ports).mpr held
  | serviceWorkspace =>
      intro service stored
      obtain ⟨before, beforeMember, same | revoked⟩ := member stored
      · rw [same]
        exact held before beforeMember
      · rw [revoked]
        exact held before beforeMember
  | serviceChecks =>
      intro service stored
      obtain ⟨before, beforeMember, same | revoked⟩ := member stored
      · rw [same]
        exact held before beforeMember
      · have checks : before.Checks := held before beforeMember
        rw [revoked]
        exact ⟨checks.1, checks.2.1, checks.2.2.1, checks.2.2.2.1, .inr ⟨rfl, rfl⟩⟩
  | _ => exact held

theorem revokeOrganizationPublishedServices_accepts {input : RevokeOrganizationPublishedServicesInput}
    (text : trim input.organizationId ≠ "" ∧ utf16Length (trim input.organizationId) ≤ 128)
    (timestamp : IsNonNegativeSafeInteger input.now) :
    ∃ after, revokeOrganizationPublishedServices database input =
        .ok (after, (activePublications database.tables (trim input.organizationId)).map
          (·.revoked input.now)) ∧
      after.tables = revokeServicesIn (trim input.organizationId) input.now database.tables := by
  have named : publishedServiceText input.organizationId "Organization id" =
      .ok (trim input.organizationId) := by
    unfold publishedServiceText
    rw [if_neg]
    rintro (blank | long)
    · exact text.1 blank
    · omega
  let after : CloudDatabase :=
    ⟨_, consistent_of_revoked database (fun service => ActiveIn database.tables (trim input.organizationId) service)
      input.now⟩
  by_cases none : activePublications database.tables (trim input.organizationId) = []
  · -- Without active rows the update is skipped, and would change nothing.
    refine ⟨database, bind_ok.mpr ⟨_, named, ?_⟩, ?_⟩
    · rw [if_neg (not_not.mpr timestamp)]
      simp [none]
    · have inactive : ∀ service ∈ database.tables.publishedServices,
          decide (ActiveIn database.tables (trim input.organizationId) service) = false := by
        intro service member
        rw [decide_eq_false_iff_not]
        intro active
        have listed : service ∈ activePublications database.tables (trim input.organizationId) :=
          (List.mem_insertionSort publicationOrder).mpr
            (List.mem_filter.mpr ⟨member, decide_eq_true active⟩)
        rw [none] at listed
        contradiction
      rw [revokeServicesIn, updateWhere_of_none inactive]
  · refine ⟨after, bind_ok.mpr ⟨_, named, ?_⟩, rfl⟩
    rw [if_neg (not_not.mpr timestamp)]
    dsimp only
    rw [if_neg none]
    exact bind_ok.mpr ⟨after, Store.execute_of_consistent after.consistent, rfl⟩

end Specifications

end NebulaCloud.Database
