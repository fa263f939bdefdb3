import NebulaCloud.Database.Usage
import NebulaCloud.Platform.Json
import NebulaCloud.Platform.Uri

namespace NebulaCloud.Usage

open NebulaCloud.Data NebulaCloud.Database NebulaCloud.Platform

/-! # Tenant isolation of usage accounting

The identifier of a usage event comes from the runtime of a tenant, and it is the key of
a table that all tenants share. -/

/-! ## Where the identifiers come from -/

/-- A number that counts something; anything else counts as zero. -/
def usageInteger (value : Option Json) : Int :=
  match asSafeInteger value with
  | some number => if 0 ≤ number then number else 0
  | none => 0

/-- `purpose`, when the runtime tells one. -/
def usagePurpose : Option Json → String
  | some (.string purpose) => purpose
  | _ => "unknown"

/-- The identifier made up for an entry of an older runtime. -/
def legacyUsageEventId (workspaceId chatName : String) (entry : JsonRecord) (index : Nat) : String :=
  ":".intercalate
    ["legacy-runtime-usage", workspaceId, encodeURIComponent chatName,
      toString (usageInteger (entry.get "created_at")),
      encodeURIComponent (usagePurpose (entry.get "purpose")),
      toString (usageInteger (entry.get "message_count")), toString index]

def usageEventId (workspaceId chatName : String) (entry : JsonRecord) (index : Nat) : String :=
  match entry.get "event_id" with
  | some (.string eventId) =>
      if trim eventId ≠ "" then eventId else legacyUsageEventId workspaceId chatName entry index
  | _ => legacyUsageEventId workspaceId chatName entry index

/-! ## Scopes -/

/-- Whose consumption a row records. -/
structure UsageScope where
  organizationId : String
  membershipId : String
  workspaceId : String
deriving DecidableEq, Repr

def usageScope (event : UsageEventRow) : UsageScope :=
  ⟨event.organizationId, event.membershipId, event.workspaceId⟩

def isForeign (scope : UsageScope) (event : UsageEventRow) : Bool := usageScope event ≠ scope

/-- The rows from which every figure of a personal summary is computed. -/
def personalUsageRows (tables : Tables) (membershipId : String) (since : Int) : List UsageEventRow :=
  tables.usageEvents.filter fun event => event.membershipId = membershipId && since ≤ event.occurredAt

/-- The rows from which the totals of an organization summary are computed. -/
def organizationUsageRows (tables : Tables) (organizationId : String) (since : Int) :
    List UsageEventRow :=
  tables.usageEvents.filter fun event =>
    event.organizationId = organizationId && since ≤ event.occurredAt

/-- Recording an event leaves the rows and the summaries of all other scopes alone and
files the event under its own. -/
structure Isolated (before : Tables) (event : UsageEventRow) (after : Tables) : Prop where
  rows : after.usageEvents.filter (isForeign (usageScope event)) =
    before.usageEvents.filter (isForeign (usageScope event))
  personal : ∀ membershipId, membershipId ≠ event.membershipId → ∀ since,
    personalUsageRows after membershipId since = personalUsageRows before membershipId since
  organization : ∀ organizationId, organizationId ≠ event.organizationId → ∀ since,
    organizationUsageRows after organizationId since =
      organizationUsageRows before organizationId since
  recorded : ∃ row ∈ after.usageEvents, row.eventId = event.eventId ∧ usageScope row = usageScope event

section Isolation

variable {database : CloudDatabase} {input : RecordUsageEventInput} {event row : UsageEventRow}
  {tables : Tables} {rows : List UsageEventRow}

/-- A condition that no row under the identifier of the event meets does not see the
statement. -/
theorem filter_upsertUsageEvent {covered : UsageEventRow → Bool} (fresh : covered event = false)
    (known : ∀ row ∈ rows, row.eventId = event.eventId → covered row = false)
    (sameColumns : ∀ stored, covered (event.enriched stored) = covered stored) :
    (upsertUsageEvent event rows).1.filter covered = rows.filter covered := by
  refine filter_upsert fresh fun row member same => ?_
  have left := known row member same
  exact ⟨left, (sameColumns row).trans left⟩

/-- The statement is isolated when the identifier is free or used in the same scope. -/
theorem isolated_of_own
    (own : ∀ row ∈ tables.usageEvents, row.eventId = event.eventId → usageScope row = usageScope event) :
    Isolated tables event
      { tables with usageEvents := (upsertUsageEvent event tables.usageEvents).1 } := by
  constructor
  case rows =>
      refine filter_upsertUsageEvent (by simp [isForeign]) (fun row member same => ?_) fun _ => rfl
      simp [isForeign, own row member same]
  case personal =>
      intro membershipId other since
      refine filter_upsertUsageEvent ?_ (fun row member same => ?_) fun _ => rfl
      · simp [other.symm]
      · have sameMember : row.membershipId = event.membershipId :=
          congrArg UsageScope.membershipId (own row member same)
        simp [sameMember, other.symm]
  case organization =>
      intro organizationId other since
      refine filter_upsertUsageEvent ?_ (fun row member same => ?_) fun _ => rfl
      · simp [other.symm]
      · have sameOrganization : row.organizationId = event.organizationId :=
          congrArg UsageScope.organizationId (own row member same)
        simp [sameOrganization, other.symm]
  case recorded =>
      have found : lookup (·.eventId) (upsertUsageEvent event tables.usageEvents).1 event.eventId = _ :=
        (lookup_upsert fun _ same => same).trans (if_pos rfl)
      refine ⟨_, lookup_mem found, lookup_key found, ?_⟩
      cases stored : lookup (·.eventId) tables.usageEvents event.eventId with
      | none => rfl
      | some row =>
          have sameScope := own row (lookup_mem stored) (lookup_key stored)
          rw [upserted]
          split
          · exact sameScope
          · exact sameScope

/-- A row of another scope under the identifier of the event takes its place. -/
theorem own_of_isolated (distinct : (tables.usageEvents.map (·.eventId)).Nodup)
    (isolated : Isolated tables event
      { tables with usageEvents := (upsertUsageEvent event tables.usageEvents).1 })
    (member : row ∈ tables.usageEvents) (same : row.eventId = event.eventId) :
    usageScope row = usageScope event := by
  obtain ⟨recorded, stored, sameId, sameScope⟩ := isolated.recorded
  have found : lookup (·.eventId) tables.usageEvents event.eventId = some row :=
    (lookup_eq_some distinct).mpr ⟨member, same⟩
  rcases (mem_upsert distinct).mp stored with rfl | ⟨_, different⟩
  · rw [found, upserted] at sameScope
    split at sameScope
    · exact sameScope
    · exact sameScope
  · exact absurd sameId different

/-- For every database and every valid event of an existing workspace, recording the
event is isolated exactly when no other scope has used its identifier. -/
theorem recordUsageEvent_isolated_iff (accepted : usageEventCandidate input = .ok event)
    (inScope : event.InScope database.tables) :
    Isolated database.tables event (commit database (recordUsageEvent database input)).1.tables ↔
      ∀ row ∈ database.tables.usageEvents, row.eventId = event.eventId →
        usageScope row = usageScope event := by
  obtain ⟨after, recorded, written⟩ := recordUsageEvent_of_inScope accepted inScope
  rw [recorded, commit_ok, written]
  constructor
  · exact fun isolated row member same =>
      own_of_isolated (database.consistent .usageEventId) isolated member same
  · exact fun own => isolated_of_own own

end Isolation

section Sample

def twoTenantTables : Tables :=
  { Tables.empty with
    organizations := [⟨"acme"⟩, ⟨"globex"⟩]
    members := [⟨"m1", "ada", "acme", "owner"⟩, ⟨"m2", "bob", "globex", "owner"⟩]
    workspaces :=
      [⟨"w1", "m1", "acme", none, none, Resources.zero, .pending, 1, 1⟩,
        ⟨"w2", "m2", "globex", none, none, Resources.zero, .pending, 1, 1⟩]
    usageEvents :=
      [⟨"turn-1", "globex", "m2", "w2", "chat", none, none, "openai", "gpt", 10, 20, 0, 0, 0, 0, none,
        .success, 5, 6⟩] }

theorem twoTenantTables_accepted : schema.violated? twoTenantTables = none := by decide

def twoTenants : CloudDatabase := Store.load twoTenantTables twoTenantTables_accepted

/-- A turn of acme as its runtime reports it. -/
def reportedTurn (eventId : String) : RecordUsageEventInput where
  eventId := usageEventId "w1" "plans" [("event_id", .string eventId)] 0
  organizationId := "acme"
  membershipId := "m1"
  workspaceId := "w1"
  sessionId := "plans"
  sessionDisplayName := some "Plans of acme"
  agentId := none
  provider := "openai"
  model := "gpt"
  inputTokens := 1
  outputTokens := 2
  cachedTokens := none
  reasoningTokens := none
  estimatedCostMicrousd := some 7
  cacheSavingsMicrousd := none
  durationMs := none
  outcome := none
  occurredAt := 8
  receivedAt := none
  now := 9

/-- The row of `reportedTurn`. -/
def acmeTurn (eventId : String) : UsageEventRow :=
  ⟨eventId, "acme", "m1", "w1", "plans", some "Plans of acme", none, "openai", "gpt", 1, 2, 0, 0, 7, 0,
    none, .success, 8, 9⟩

/-- The runtime of acme reports the identifier of a turn of globex: the row of globex
takes the name and the cost of the turn of acme, which is not recorded. -/
theorem usage_collides_across_tenants :
    usageEventCandidate (reportedTurn "turn-1") = .ok (acmeTurn "turn-1") ∧
      (acmeTurn "turn-1").InScope twoTenants.tables ∧
      ¬ Isolated twoTenants.tables (acmeTurn "turn-1")
        (commit twoTenants (recordUsageEvent twoTenants (reportedTurn "turn-1"))).1.tables ∧
      ((commit twoTenants (recordUsageEvent twoTenants (reportedTurn "turn-1"))).1.tables.usageEvents.map
        fun row => (row.organizationId, row.sessionDisplayName, row.estimatedCostMicrousd)) =
        [("globex", some "Plans of acme", 7)] := by
  refine ⟨by decide, by decide, fun isolated => ?_, by decide⟩
  exact absurd isolated.recorded (by decide)

theorem recordUsageEvent_isolated_freshId :
    Isolated twoTenants.tables (acmeTurn "turn-2")
      (commit twoTenants (recordUsageEvent twoTenants (reportedTurn "turn-2"))).1.tables :=
  (recordUsageEvent_isolated_iff (by decide) (by decide)).mpr (by decide)

end Sample

end NebulaCloud.Usage
