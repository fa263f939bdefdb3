import NebulaCloud.Data.Rows
import NebulaCloud.Data.Store
import NebulaCloud.Data.Transaction
import NebulaCloud.Platform.Text

namespace NebulaCloud.Database

open NebulaCloud.Data NebulaCloud.Platform

/-! # Schema

The tables that the modelled functions read and write, at the last migration.
Better Auth owns `organization` and `member`; it generates UUID identifiers. -/

inductive WorkspaceState
  | pending | provisioning | ready | stopped | failed
deriving DecidableEq, Repr

inductive ProvisioningJobStatus
  | queued | running | succeeded | failed
deriving DecidableEq, Repr

inductive WorkerHostState
  | unknown | healthy | draining | unavailable
deriving DecidableEq, Repr

/-- The states a health report may carry. -/
inductive WorkerHealthState
  | healthy | unavailable
deriving DecidableEq, Repr

def WorkerHealthState.toHostState : WorkerHealthState → WorkerHostState
  | .healthy => .healthy
  | .unavailable => .unavailable

inductive OperatorEntitlementState
  | pending | active | grace | suspended | revoked
deriving DecidableEq, Repr

inductive OperatorEntitlementSource
  | beta | stripe | admin
deriving DecidableEq, Repr

inductive StripeEventProcessingResult
  | pending | applied | ignored | failed
deriving DecidableEq, Repr

inductive PaymentState
  | current | grace | delinquent
deriving DecidableEq, Repr

inductive UsageOutcome
  | success | error | cancelled
deriving DecidableEq, Repr

inductive PlatformControlName
  | provisioning | workspaceStart | publication
deriving DecidableEq, Repr

/-- The name that is stored and that the routes use. -/
def PlatformControlName.text : PlatformControlName → String
  | .provisioning => "provisioning"
  | .workspaceStart => "workspace_start"
  | .publication => "publication"

inductive PublishedServiceProtocol
  | http | tcp
deriving DecidableEq, Repr

inductive PublishedServiceState
  | active | revoked
deriving DecidableEq, Repr

inductive PublishedServiceVisibility
  | publicAccess | privateAccess
deriving DecidableEq, Repr

inductive PublishedServiceAuthPolicy
  | none | token
deriving DecidableEq, Repr

/-- The four resources that a host offers and a workspace reserves. -/
inductive Resource
  | memoryBytes | cpuMillis | diskBytes | workspaceSlots
deriving DecidableEq, Repr

structure Resources where
  memoryBytes : Int
  cpuMillis : Int
  diskBytes : Int
  workspaceSlots : Int
deriving DecidableEq, Repr

def Resources.amount (resources : Resources) : Resource → Int
  | .memoryBytes => resources.memoryBytes
  | .cpuMillis => resources.cpuMillis
  | .diskBytes => resources.diskBytes
  | .workspaceSlots => resources.workspaceSlots

def Resources.zero : Resources := ⟨0, 0, 0, 0⟩

/-- Apply one operation to each resource. -/
def Resources.zipWith (combine : Int → Int → Int) (left right : Resources) : Resources where
  memoryBytes := combine left.memoryBytes right.memoryBytes
  cpuMillis := combine left.cpuMillis right.cpuMillis
  diskBytes := combine left.diskBytes right.diskBytes
  workspaceSlots := combine left.workspaceSlots right.workspaceSlots

/-- One comparison holds of each resource. -/
def Resources.Both (relation : Int → Int → Prop) (left right : Resources) : Prop :=
  relation left.memoryBytes right.memoryBytes ∧ relation left.cpuMillis right.cpuMillis ∧
    relation left.diskBytes right.diskBytes ∧ relation left.workspaceSlots right.workspaceSlots

instance {relation : Int → Int → Prop} [∀ left right, Decidable (relation left right)]
    (left right : Resources) : Decidable (left.Both relation right) :=
  inferInstanceAs (Decidable (_ ∧ _))

@[simp] theorem Resources.amount_zero (resource : Resource) : Resources.zero.amount resource = 0 := by
  cases resource <;> rfl

@[simp] theorem Resources.amount_zipWith (combine : Int → Int → Int) (left right : Resources)
    (resource : Resource) :
    (left.zipWith combine right).amount resource =
      combine (left.amount resource) (right.amount resource) := by
  cases resource <;> rfl

theorem Resources.both_iff {relation : Int → Int → Prop} {left right : Resources} :
    left.Both relation right ↔
      ∀ resource, relation (left.amount resource) (right.amount resource) := by
  constructor
  · rintro ⟨memory, cpu, disk, slots⟩ resource
    cases resource
    · exact memory
    · exact cpu
    · exact disk
    · exact slots
  · intro each
    exact ⟨each .memoryBytes, each .cpuMillis, each .diskBytes, each .workspaceSlots⟩

structure OrganizationRow where
  id : String
deriving DecidableEq, Repr

structure MemberRow where
  id : String
  userId : String
  organizationId : String
  role : String
deriving DecidableEq, Repr

structure OrganizationMemberStateRow where
  memberId : String
  disabled : Bool
deriving DecidableEq, Repr

structure WorkspaceRow where
  id : String
  memberId : String
  organizationId : String
  workerWorkspaceId : Option String
  workerHostId : Option String
  reserved : Resources
  state : WorkspaceState
  createdAt : Int
  updatedAt : Int
deriving DecidableEq, Repr

/-- The only operation is `ensure_running`, so its column is left out. -/
structure ProvisioningJobRow where
  id : String
  workspaceId : String
  status : ProvisioningJobStatus
  attempt : Int
  availableAt : Int
  leaseOwner : Option String
  leaseExpiresAt : Option Int
  errorCode : Option String
  errorMessage : Option String
  createdAt : Int
  updatedAt : Int
  completedAt : Option Int
deriving DecidableEq, Repr

structure WorkerHostRow where
  id : String
  name : String
  provider : String
  region : String
  baseURL : String
  credentialKeyId : String
  enabled : Bool
  schedulable : Bool
  state : WorkerHostState
  total : Resources
  reserved : Resources
  lastHeartbeatAt : Option Int
  lastErrorCode : Option String
  createdAt : Int
  updatedAt : Int
deriving DecidableEq, Repr

structure WorkerHealthSampleRow where
  id : Nat
  workerHostId : String
  observedAt : Int
  state : WorkerHealthState
  reserved : Resources
  errorCode : Option String
  total : Resources
deriving DecidableEq, Repr

structure AuditEventRow where
  eventId : String
  organizationId : String
  actorUserId : String
  action : String
  targetType : String
  targetId : String
  result : String
  sourceIpHash : Option String
  metadataJson : String
  occurredAt : Int
deriving DecidableEq, Repr

structure OperatorEntitlementRow where
  membershipId : String
  organizationId : String
  state : OperatorEntitlementState
  source : OperatorEntitlementSource
  startsAt : Int
  endsAt : Option Int
  createdAt : Int
  updatedAt : Int
deriving DecidableEq, Repr

structure BillingCustomerRow where
  organizationId : String
  stripeCustomerId : String
  billingEmail : Option String
  country : Option String
  lastEventCreatedAt : Int
  lastStripeEventId : String
  createdAt : Int
  updatedAt : Int
deriving DecidableEq, Repr

structure BillingSubscriptionRow where
  organizationId : String
  stripeSubscriptionId : String
  stripePriceId : String
  status : String
  entitledSeats : Int
  cancelAtPeriodEnd : Bool
  currentPeriodEnd : Option Int
  paymentState : PaymentState
  graceEndsAt : Option Int
  lastInvoiceEventCreatedAt : Option Int
  lastInvoiceEventId : Option String
  lastEventCreatedAt : Int
  lastStripeEventId : String
  createdAt : Int
  updatedAt : Int
deriving DecidableEq, Repr

structure StripeEventRow where
  stripeEventId : String
  type : String
  eventCreatedAt : Int
  receivedAt : Int
  processingResult : StripeEventProcessingResult
  processingMessage : Option String
  processedAt : Option Int
  attemptCount : Int
deriving DecidableEq, Repr

structure UsageEventRow where
  eventId : String
  organizationId : String
  membershipId : String
  workspaceId : String
  sessionId : String
  sessionDisplayName : Option String
  agentId : Option String
  provider : String
  model : String
  inputTokens : Int
  outputTokens : Int
  cachedTokens : Int
  reasoningTokens : Int
  estimatedCostMicrousd : Int
  cacheSavingsMicrousd : Int
  durationMs : Option Int
  outcome : UsageOutcome
  occurredAt : Int
  receivedAt : Int
deriving DecidableEq, Repr

structure PlatformControlRow where
  name : PlatformControlName
  paused : Bool
  reason : String
  updatedBy : String
  updatedAt : Int
deriving DecidableEq, Repr

/-- Only successes are recorded, so the column of the result is left out. -/
structure PlatformControlAuditEventRow where
  eventId : String
  actor : String
  controlName : PlatformControlName
  previousPaused : Bool
  paused : Bool
  reason : String
  occurredAt : Int
deriving DecidableEq, Repr

/-- Only successes are recorded, so the column of the result is left out. -/
structure PlatformOperationAuditEventRow where
  eventId : String
  actor : String
  action : String
  targetType : String
  targetId : String
  metadataJson : String
  occurredAt : Int
deriving DecidableEq, Repr

structure PublishedServiceRow where
  id : String
  workspaceId : String
  name : String
  slug : String
  protocol : PublishedServiceProtocol
  targetPort : Int
  ingressPort : Option Int
  state : PublishedServiceState
  visibility : PublishedServiceVisibility
  authPolicy : PublishedServiceAuthPolicy
  accessTokenHash : Option String
  expiresAt : Option Int
  createdAt : Int
  updatedAt : Int
  revokedAt : Option Int
deriving DecidableEq, Repr

structure Tables where
  organizations : List OrganizationRow
  members : List MemberRow
  memberStates : List OrganizationMemberStateRow
  workspaces : List WorkspaceRow
  provisioningJobs : List ProvisioningJobRow
  workerHosts : List WorkerHostRow
  workerHealthSamples : List WorkerHealthSampleRow
  /-- The last identifier that `AUTOINCREMENT` gave to a sample. -/
  workerHealthSampleSequence : Nat
  auditEvents : List AuditEventRow
  entitlements : List OperatorEntitlementRow
  billingCustomers : List BillingCustomerRow
  subscriptions : List BillingSubscriptionRow
  stripeEvents : List StripeEventRow
  usageEvents : List UsageEventRow
  platformControls : List PlatformControlRow
  platformControlAuditEvents : List PlatformControlAuditEventRow
  platformOperationAuditEvents : List PlatformOperationAuditEventRow
  publishedServices : List PublishedServiceRow
deriving DecidableEq

/-- Tables without a row. -/
def Tables.empty : Tables where
  organizations := []
  members := []
  memberStates := []
  workspaces := []
  provisioningJobs := []
  workerHosts := []
  workerHealthSamples := []
  workerHealthSampleSequence := 0
  auditEvents := []
  entitlements := []
  billingCustomers := []
  subscriptions := []
  stripeEvents := []
  usageEvents := []
  platformControls := []
  platformControlAuditEvents := []
  platformOperationAuditEvents := []
  publishedServices := []

/-- A control as the migration writes it. -/
def migratedControl (name : PlatformControlName) : PlatformControlRow where
  name := name
  paused := false
  reason := ""
  updatedBy := "schema-migration"
  updatedAt := 0

/-- The tables right after the migrations. -/
def Tables.migrated : Tables :=
  { Tables.empty with
    platformControls :=
      [migratedControl .provisioning, migratedControl .workspaceStart, migratedControl .publication] }

/-! ## Row constraints -/

/-- The jobs that `provisioning_job_active_workspace_operation_idx` covers. -/
def ProvisioningJobRow.active (job : ProvisioningJobRow) : Bool :=
  match job.status with
  | .queued | .running => true
  | .succeeded | .failed => false

def ProvisioningJobRow.Checks (job : ProvisioningJobRow) : Prop :=
  0 ≤ job.attempt ∧
    (job.status = .running → job.leaseOwner.isSome ∧ job.leaseExpiresAt.isSome)

instance (job : ProvisioningJobRow) : Decidable job.Checks :=
  inferInstanceAs (Decidable (_ ∧ _))

def WorkerHostRow.Checks (host : WorkerHostRow) : Prop :=
  Resources.zero.Both (· ≤ ·) host.reserved ∧ host.reserved.Both (· ≤ ·) host.total

instance (host : WorkerHostRow) : Decidable host.Checks :=
  inferInstanceAs (Decidable (_ ∧ _))

def WorkerHealthSampleRow.Checks (sample : WorkerHealthSampleRow) : Prop :=
  Resources.zero.Both (· ≤ ·) sample.reserved ∧ Resources.zero.Both (· ≤ ·) sample.total

instance (sample : WorkerHealthSampleRow) : Decidable sample.Checks :=
  inferInstanceAs (Decidable (_ ∧ _))

def OperatorEntitlementRow.Checks (entitlement : OperatorEntitlementRow) : Prop :=
  (∀ endsAt ∈ entitlement.endsAt, entitlement.startsAt < endsAt) ∧
    (entitlement.source = .beta → entitlement.endsAt.isSome)

instance (entitlement : OperatorEntitlementRow) : Decidable entitlement.Checks :=
  inferInstanceAs (Decidable (_ ∧ _))

/-- `length(text) BETWEEN 1 AND maximum`. -/
def LengthBetween (text : String) (maximum : Nat) : Prop :=
  1 ≤ sqlLength text ∧ sqlLength text ≤ maximum

instance (text : String) (maximum : Nat) : Decidable (LengthBetween text maximum) :=
  inferInstanceAs (Decidable (_ ∧ _))

def BillingCustomerRow.Checks (customer : BillingCustomerRow) : Prop :=
  LengthBetween customer.stripeCustomerId 255 ∧
    (∀ email ∈ customer.billingEmail, LengthBetween email 320) ∧
    (∀ country ∈ customer.country, sqlLength country = 2)

instance (customer : BillingCustomerRow) : Decidable customer.Checks :=
  inferInstanceAs (Decidable (_ ∧ _))

def BillingSubscriptionRow.Checks (subscription : BillingSubscriptionRow) : Prop :=
  0 ≤ subscription.entitledSeats ∧ LengthBetween subscription.stripeSubscriptionId 255 ∧
    LengthBetween subscription.stripePriceId 255 ∧ LengthBetween subscription.status 64 ∧
    (∀ periodEnd ∈ subscription.currentPeriodEnd, 0 ≤ periodEnd) ∧
    (∀ graceEnd ∈ subscription.graceEndsAt, 0 ≤ graceEnd)

instance (subscription : BillingSubscriptionRow) : Decidable subscription.Checks :=
  inferInstanceAs (Decidable (_ ∧ _))

def StripeEventRow.Checks (event : StripeEventRow) : Prop :=
  0 ≤ event.attemptCount ∧ LengthBetween event.stripeEventId 255 ∧ LengthBetween event.type 255 ∧
    (∀ message ∈ event.processingMessage, sqlLength message ≤ 1024) ∧
    (event.processingResult = .pending ↔ event.processedAt = none)

instance (event : StripeEventRow) : Decidable event.Checks :=
  inferInstanceAs (Decidable (_ ∧ _))

def UsageEventRow.Checks (event : UsageEventRow) : Prop :=
  0 ≤ event.inputTokens ∧ 0 ≤ event.outputTokens ∧ 0 ≤ event.cachedTokens ∧
    (∀ durationMs ∈ event.durationMs, 0 ≤ durationMs) ∧ 0 ≤ event.estimatedCostMicrousd ∧
    0 ≤ event.reasoningTokens ∧ 0 ≤ event.cacheSavingsMicrousd

instance (event : UsageEventRow) : Decidable event.Checks :=
  inferInstanceAs (Decidable (_ ∧ _))

def PlatformControlRow.Checks (control : PlatformControlRow) : Prop :=
  sqlLength control.reason ≤ 256 ∧ LengthBetween control.updatedBy 128 ∧ 0 ≤ control.updatedAt

instance (control : PlatformControlRow) : Decidable control.Checks :=
  inferInstanceAs (Decidable (_ ∧ _))

def PlatformControlAuditEventRow.Checks (event : PlatformControlAuditEventRow) : Prop :=
  LengthBetween event.actor 128 ∧ LengthBetween event.reason 256 ∧ 0 ≤ event.occurredAt

instance (event : PlatformControlAuditEventRow) : Decidable event.Checks :=
  inferInstanceAs (Decidable (_ ∧ _))

def PlatformOperationAuditEventRow.Checks (event : PlatformOperationAuditEventRow) : Prop :=
  LengthBetween event.actor 128 ∧ LengthBetween event.action 128 ∧
    LengthBetween event.targetType 128 ∧ LengthBetween event.targetId 128 ∧
    sqlLength event.metadataJson ≤ 4096 ∧ 0 ≤ event.occurredAt

instance (event : PlatformOperationAuditEventRow) : Decidable event.Checks :=
  inferInstanceAs (Decidable (_ ∧ _))

/-- A port that a service may listen on. -/
def IsServicePort (port : Int) : Prop := 1024 ≤ port ∧ port ≤ 65535 ∧ port ≠ 7777

instance (port : Int) : Decidable (IsServicePort port) := inferInstanceAs (Decidable (_ ∧ _))

/-- `length(hash) = 64 AND hash NOT GLOB '*[^0-9a-f]*'`. -/
def IsTokenHash (hash : String) : Prop :=
  sqlLength hash = 64 ∧ hash.toList.all (fun c => ('0' ≤ c && c ≤ '9') || ('a' ≤ c && c ≤ 'f')) = true

instance (hash : String) : Decidable (IsTokenHash hash) := inferInstanceAs (Decidable (_ ∧ _))

/-- Who may read a service: anyone, or over HTTP the bearer of a token. -/
def PublishedServiceRow.AccessChecks (service : PublishedServiceRow) : Prop :=
  (service.visibility = .publicAccess ∧ service.authPolicy = .none ∧ service.accessTokenHash = none) ∨
    (service.protocol = .http ∧ service.visibility = .privateAccess ∧ service.authPolicy = .token ∧
      ∃ hash ∈ service.accessTokenHash, IsTokenHash hash)

instance (service : PublishedServiceRow) : Decidable service.AccessChecks :=
  inferInstanceAs (Decidable (_ ∨ _))

def PublishedServiceRow.Checks (service : PublishedServiceRow) : Prop :=
  IsServicePort service.targetPort ∧
    ((service.protocol = .http ∧ service.ingressPort = none) ∨
      (service.protocol = .tcp ∧ ∃ port ∈ service.ingressPort, IsServicePort port)) ∧
    (∀ expiresAt ∈ service.expiresAt, service.createdAt < expiresAt) ∧ service.AccessChecks ∧
    ((service.state = .active ∧ service.revokedAt = none) ∨
      (service.state = .revoked ∧ service.revokedAt.isSome))

instance (service : PublishedServiceRow) : Decidable service.Checks :=
  inferInstanceAs (Decidable (_ ∧ _))

/-! ## Table constraints -/

inductive Constraint
  | organizationId | memberId | memberOrganization | memberStateId | memberStateMember
  | workspaceId | workspaceMember | workspaceWorkerWorkspace | workspaceOwner | workspaceHost
  | workspaceReserved
  | jobId | jobActiveWorkspace | jobWorkspace | jobChecks
  | hostId | hostName | hostBaseURL | hostChecks | sampleHost | sampleChecks
  | auditEventId | auditOrganization
  | entitlementMember | entitlementOwner | entitlementChecks
  | customerOrganization | customerStripeId | customerOwner | customerChecks
  | subscriptionOrganization | subscriptionStripeId | subscriptionOwner | subscriptionChecks
  | eventId | eventChecks
  | usageEventId | usageOrganization | usageMembership | usageWorkspace | usageChecks
  | controlName | controlChecks | controlAuditId | controlAuditChecks
  | operationAuditId | operationAuditChecks
  | serviceId | serviceSlug | serviceIngressPort | serviceName | serviceWorkspace | serviceChecks
deriving DecidableEq, Repr

/-- What SQLite reports for a broken constraint. -/
def Constraint.message : Constraint → String
  | .organizationId => "UNIQUE constraint failed: organization.id"
  | .memberId => "UNIQUE constraint failed: member.id"
  | .memberStateId => "UNIQUE constraint failed: organization_member_state.member_id"
  | .workspaceId => "UNIQUE constraint failed: workspace.id"
  | .workspaceMember => "UNIQUE constraint failed: workspace.member_id"
  | .workspaceWorkerWorkspace => "UNIQUE constraint failed: workspace.worker_workspace_id"
  | .workspaceOwner => "workspace membership does not belong to organization"
  | .workspaceReserved => "CHECK constraint failed: workspace"
  | .jobId => "UNIQUE constraint failed: provisioning_job.id"
  | .jobActiveWorkspace =>
      "UNIQUE constraint failed: provisioning_job.workspace_id, provisioning_job.operation"
  | .jobChecks => "CHECK constraint failed: provisioning_job"
  | .hostId => "UNIQUE constraint failed: worker_host.id"
  | .hostName => "UNIQUE constraint failed: worker_host.name"
  | .hostBaseURL => "UNIQUE constraint failed: worker_host.base_url"
  | .hostChecks => "CHECK constraint failed: worker_host"
  | .sampleChecks => "CHECK constraint failed: worker_health_sample"
  | .auditEventId => "UNIQUE constraint failed: audit_event.event_id"
  | .entitlementMember => "UNIQUE constraint failed: entitlement.membership_id"
  | .entitlementOwner => "entitlement membership does not belong to organization"
  | .entitlementChecks => "CHECK constraint failed: entitlement"
  | .customerOrganization => "UNIQUE constraint failed: billing_customer.organization_id"
  | .customerStripeId => "UNIQUE constraint failed: billing_customer.stripe_customer_id"
  | .customerChecks => "CHECK constraint failed: billing_customer"
  | .subscriptionOrganization => "UNIQUE constraint failed: subscription.organization_id"
  | .subscriptionStripeId => "UNIQUE constraint failed: subscription.stripe_subscription_id"
  | .subscriptionChecks => "CHECK constraint failed: subscription"
  | .eventId => "UNIQUE constraint failed: stripe_event.stripe_event_id"
  | .eventChecks => "CHECK constraint failed: stripe_event"
  | .usageEventId => "UNIQUE constraint failed: usage_event.event_id"
  | .usageChecks => "CHECK constraint failed: usage_event"
  | .controlName => "UNIQUE constraint failed: platform_control.name"
  | .controlChecks => "CHECK constraint failed: platform_control"
  | .controlAuditId => "UNIQUE constraint failed: platform_control_audit_event.event_id"
  | .controlAuditChecks => "CHECK constraint failed: platform_control_audit_event"
  | .operationAuditId => "UNIQUE constraint failed: platform_operation_audit_event.event_id"
  | .operationAuditChecks => "CHECK constraint failed: platform_operation_audit_event"
  | .serviceId => "UNIQUE constraint failed: published_service.id"
  | .serviceSlug => "UNIQUE constraint failed: published_service.slug"
  | .serviceIngressPort => "UNIQUE constraint failed: published_service.ingress_port"
  | .serviceName =>
      "UNIQUE constraint failed: published_service.workspace_id, published_service.name"
  | .serviceChecks => "CHECK constraint failed: published_service"
  | .memberOrganization | .memberStateMember | .workspaceHost | .jobWorkspace | .sampleHost
  | .auditOrganization | .customerOwner | .subscriptionOwner | .usageOrganization | .usageMembership
  | .usageWorkspace | .serviceWorkspace => "FOREIGN KEY constraint failed"

namespace Tables

variable (tables : Tables)

def organizationIds : List String := tables.organizations.map (·.id)

/-- The membership exists in the organization: the guard of the `workspace` and
`entitlement` triggers. -/
def MemberOf (memberId organizationId : String) : Prop :=
  ∃ member ∈ tables.members, member.id = memberId ∧ member.organizationId = organizationId

instance (memberId organizationId : String) : Decidable (tables.MemberOf memberId organizationId) :=
  inferInstanceAs (Decidable (∃ member ∈ tables.members, _))

end Tables

abbrev Constraint.Holds : Constraint → Tables → Prop
  | .organizationId, tables => tables.organizationIds.Nodup
  | .memberId, tables => (tables.members.map (·.id)).Nodup
  | .memberOrganization, tables =>
      ∀ member ∈ tables.members, member.organizationId ∈ tables.organizationIds
  | .memberStateId, tables => (tables.memberStates.map (·.memberId)).Nodup
  | .memberStateMember, tables =>
      ∀ state ∈ tables.memberStates, state.memberId ∈ tables.members.map (·.id)
  | .workspaceId, tables => (tables.workspaces.map (·.id)).Nodup
  | .workspaceMember, tables => (tables.workspaces.map (·.memberId)).Nodup
  | .workspaceWorkerWorkspace, tables => (tables.workspaces.filterMap (·.workerWorkspaceId)).Nodup
  | .workspaceOwner, tables =>
      ∀ workspace ∈ tables.workspaces, tables.MemberOf workspace.memberId workspace.organizationId
  | .workspaceHost, tables =>
      ∀ workspace ∈ tables.workspaces, ∀ hostId ∈ workspace.workerHostId,
        hostId ∈ tables.workerHosts.map (·.id)
  | .workspaceReserved, tables =>
      ∀ workspace ∈ tables.workspaces, Resources.zero.Both (· ≤ ·) workspace.reserved
  | .jobId, tables => (tables.provisioningJobs.map (·.id)).Nodup
  | .jobActiveWorkspace, tables =>
      ((tables.provisioningJobs.filter (·.active)).map (·.workspaceId)).Nodup
  | .jobWorkspace, tables =>
      ∀ job ∈ tables.provisioningJobs, job.workspaceId ∈ tables.workspaces.map (·.id)
  | .jobChecks, tables => ∀ job ∈ tables.provisioningJobs, job.Checks
  | .hostId, tables => (tables.workerHosts.map (·.id)).Nodup
  | .hostName, tables => (tables.workerHosts.map (·.name)).Nodup
  | .hostBaseURL, tables => (tables.workerHosts.map (·.baseURL)).Nodup
  | .hostChecks, tables => ∀ host ∈ tables.workerHosts, host.Checks
  | .sampleHost, tables =>
      ∀ sample ∈ tables.workerHealthSamples, sample.workerHostId ∈ tables.workerHosts.map (·.id)
  | .sampleChecks, tables => ∀ sample ∈ tables.workerHealthSamples, sample.Checks
  | .auditEventId, tables => (tables.auditEvents.map (·.eventId)).Nodup
  | .auditOrganization, tables =>
      ∀ event ∈ tables.auditEvents, event.organizationId ∈ tables.organizationIds
  | .entitlementMember, tables => (tables.entitlements.map (·.membershipId)).Nodup
  | .entitlementOwner, tables =>
      ∀ entitlement ∈ tables.entitlements,
        tables.MemberOf entitlement.membershipId entitlement.organizationId
  | .entitlementChecks, tables => ∀ entitlement ∈ tables.entitlements, entitlement.Checks
  | .customerOrganization, tables => (tables.billingCustomers.map (·.organizationId)).Nodup
  | .customerStripeId, tables => (tables.billingCustomers.map (·.stripeCustomerId)).Nodup
  | .customerOwner, tables =>
      ∀ customer ∈ tables.billingCustomers, customer.organizationId ∈ tables.organizationIds
  | .customerChecks, tables => ∀ customer ∈ tables.billingCustomers, customer.Checks
  | .subscriptionOrganization, tables => (tables.subscriptions.map (·.organizationId)).Nodup
  | .subscriptionStripeId, tables => (tables.subscriptions.map (·.stripeSubscriptionId)).Nodup
  | .subscriptionOwner, tables =>
      ∀ subscription ∈ tables.subscriptions, subscription.organizationId ∈ tables.organizationIds
  | .subscriptionChecks, tables => ∀ subscription ∈ tables.subscriptions, subscription.Checks
  | .eventId, tables => (tables.stripeEvents.map (·.stripeEventId)).Nodup
  | .eventChecks, tables => ∀ event ∈ tables.stripeEvents, event.Checks
  | .usageEventId, tables => (tables.usageEvents.map (·.eventId)).Nodup
  | .usageOrganization, tables =>
      ∀ event ∈ tables.usageEvents, event.organizationId ∈ tables.organizationIds
  | .usageMembership, tables =>
      ∀ event ∈ tables.usageEvents, event.membershipId ∈ tables.members.map (·.id)
  | .usageWorkspace, tables =>
      ∀ event ∈ tables.usageEvents, event.workspaceId ∈ tables.workspaces.map (·.id)
  | .usageChecks, tables => ∀ event ∈ tables.usageEvents, event.Checks
  | .controlName, tables => (tables.platformControls.map (·.name)).Nodup
  | .controlChecks, tables => ∀ control ∈ tables.platformControls, control.Checks
  | .controlAuditId, tables => (tables.platformControlAuditEvents.map (·.eventId)).Nodup
  | .controlAuditChecks, tables => ∀ event ∈ tables.platformControlAuditEvents, event.Checks
  | .operationAuditId, tables => (tables.platformOperationAuditEvents.map (·.eventId)).Nodup
  | .operationAuditChecks, tables => ∀ event ∈ tables.platformOperationAuditEvents, event.Checks
  | .serviceId, tables => (tables.publishedServices.map (·.id)).Nodup
  | .serviceSlug, tables => (tables.publishedServices.map (·.slug)).Nodup
  | .serviceIngressPort, tables => (tables.publishedServices.filterMap (·.ingressPort)).Nodup
  | .serviceName, tables =>
      (tables.publishedServices.map fun service => (service.workspaceId, service.name)).Nodup
  | .serviceWorkspace, tables =>
      ∀ service ∈ tables.publishedServices, service.workspaceId ∈ tables.workspaces.map (·.id)
  | .serviceChecks, tables => ∀ service ∈ tables.publishedServices, service.Checks

instance (constraint : Constraint) (tables : Tables) : Decidable (constraint.Holds tables) := by
  cases constraint <;> infer_instance

def Constraint.all : List Constraint :=
  [.organizationId, .memberId, .memberOrganization, .memberStateId, .memberStateMember,
   .workspaceId, .workspaceMember, .workspaceWorkerWorkspace, .workspaceOwner, .workspaceHost,
   .workspaceReserved, .jobId, .jobActiveWorkspace, .jobWorkspace, .jobChecks,
   .hostId, .hostName, .hostBaseURL, .hostChecks, .sampleHost, .sampleChecks, .auditEventId,
   .auditOrganization,
   .entitlementMember, .entitlementOwner, .entitlementChecks,
   .customerOrganization, .customerStripeId, .customerOwner, .customerChecks,
   .subscriptionOrganization, .subscriptionStripeId, .subscriptionOwner, .subscriptionChecks,
   .eventId, .eventChecks,
   .usageEventId, .usageOrganization, .usageMembership, .usageWorkspace, .usageChecks,
   .controlName, .controlChecks, .controlAuditId, .controlAuditChecks, .operationAuditId,
   .operationAuditChecks,
   .serviceId, .serviceSlug, .serviceIngressPort, .serviceName, .serviceWorkspace, .serviceChecks]

theorem Constraint.mem_all (constraint : Constraint) : constraint ∈ Constraint.all := by
  cases constraint <;> decide

def schema : Schema Tables Constraint where
  Holds := Constraint.Holds
  decidable := inferInstance
  constraints := Constraint.all
  complete := Constraint.mem_all

/-- A database: tables that meet every constraint. -/
abbrev CloudDatabase := Store schema

/-! ## Failures -/

/-- What the modelled functions throw. -/
inductive Failure
  | constraint (broken : Constraint)
  | error (message : String)
  | typeError (message : String)
  | workspaceMembershipNotFound
  | workerPlacementUnavailable
  | provisioningJobLeaseLost
  | organizationAccessDenied
  | operatorSeatCapacity
  | billingSubscriptionRequired
  | operatorSeatQuantityConflict
  | platformControlPaused (control : PlatformControlName)
  | operatorEntitlementRequired
  | publishedServiceLimit
  | organizationPublishedServiceLimit
  | publishedServiceIngressCapacity
deriving DecidableEq, Repr

/-- `error.message`. -/
def Failure.message : Failure → String
  | .constraint broken => broken.message
  | .error message => message
  | .typeError message => message
  | .workspaceMembershipNotFound => "The user is not a member of this organization"
  | .workerPlacementUnavailable => "No healthy worker host has enough available capacity"
  | .provisioningJobLeaseLost =>
      "The provisioning job lease is no longer owned by this processor"
  | .organizationAccessDenied => "The user cannot administer this organization"
  | .operatorSeatCapacity => "All purchased Operator seats are already assigned"
  | .billingSubscriptionRequired =>
      "A Stripe subscription is required before assigning paid Operator seats"
  | .operatorSeatQuantityConflict =>
      "Stripe seat quantity cannot be lower than assigned Operator seats"
  | .platformControlPaused control =>
      "Platform " ++ (control.text.map fun c => if c = '_' then ' ' else c) ++ " is paused"
  | .operatorEntitlementRequired => "An active Operator entitlement is required"
  | .publishedServiceLimit => "Published service limit reached"
  | .organizationPublishedServiceLimit => "Organization published service limit reached"
  | .publishedServiceIngressCapacity => "Published service TCP ingress capacity reached"

/-- One SQL statement. -/
abbrev statement (database : CloudDatabase) (write : Tables → Tables) : Except Failure CloudDatabase :=
  database.execute .constraint write

/-- What the body of a transaction keeps of the tables, the transaction keeps. -/
theorem commit_keeps (Holds : Tables → Prop) {Value : Type} {database : CloudDatabase}
    {body : Except Failure (CloudDatabase × Value)} (start : Holds database.tables)
    (kept : ∀ after value, body = .ok (after, value) → Holds after.tables) :
    Holds (commit database body).1.tables :=
  commit_preserves (fun database : CloudDatabase => Holds database.tables) start kept

end NebulaCloud.Database
