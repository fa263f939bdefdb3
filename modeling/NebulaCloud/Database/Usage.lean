import NebulaCloud.Data.Upsert
import NebulaCloud.Database.WorkerHost

namespace NebulaCloud.Database

open NebulaCloud.Data NebulaCloud.Platform

/-! # Usage events

What the model turns of a workspace consumed.  A repeated event enriches the row that
its identifier already has. -/

structure RecordUsageEventInput where
  eventId : String
  organizationId : String
  membershipId : String
  workspaceId : String
  sessionId : String
  sessionDisplayName : Option String
  agentId : Option String
  provider : String
  model : String
  inputTokens : Int
  outputTokens : Int
  cachedTokens : Option Int
  reasoningTokens : Option Int
  estimatedCostMicrousd : Option Int
  cacheSavingsMicrousd : Option Int
  durationMs : Option Int
  outcome : Option UsageOutcome
  occurredAt : Int
  receivedAt : Option Int
  now : Int
deriving DecidableEq, Repr

def requiredUsageText (value field : String) : Except Failure String :=
  if trim value = "" then .error (.error (field ++ " is required")) else .ok (trim value)

/-- `value?.trim() || null`. -/
def nonBlank (value : Option String) : Option String := (value.map trim).filter (· ≠ "")

def nonNegativeDuration : Option Int → Except Failure (Option Int)
  | none => .ok none
  | some durationMs => do
      let durationMs ← nonNegativeInteger durationMs "durationMs"
      .ok (some durationMs)

/-- The row that `recordUsageEvent` inserts when its identifier is new. -/
def usageEventCandidate (input : RecordUsageEventInput) : Except Failure UsageEventRow := do
  let eventId ← requiredUsageText input.eventId "eventId"
  let organizationId ← requiredUsageText input.organizationId "organizationId"
  let membershipId ← requiredUsageText input.membershipId "membershipId"
  let workspaceId ← requiredUsageText input.workspaceId "workspaceId"
  let sessionId ← requiredUsageText input.sessionId "sessionId"
  let provider ← requiredUsageText input.provider "provider"
  let model ← requiredUsageText input.model "model"
  let inputTokens ← nonNegativeInteger input.inputTokens "inputTokens"
  let outputTokens ← nonNegativeInteger input.outputTokens "outputTokens"
  let cachedTokens ← nonNegativeInteger (input.cachedTokens.getD 0) "cachedTokens"
  let reasoningTokens ← nonNegativeInteger (input.reasoningTokens.getD 0) "reasoningTokens"
  let estimatedCostMicrousd ←
    nonNegativeInteger (input.estimatedCostMicrousd.getD 0) "estimatedCostMicrousd"
  let cacheSavingsMicrousd ←
    nonNegativeInteger (input.cacheSavingsMicrousd.getD 0) "cacheSavingsMicrousd"
  let occurredAt ← nonNegativeInteger input.occurredAt "occurredAt"
  let receivedAt ← nonNegativeInteger (input.receivedAt.getD input.now) "receivedAt"
  let durationMs ← nonNegativeDuration input.durationMs
  .ok
    { eventId, organizationId, membershipId, workspaceId, sessionId
      sessionDisplayName := nonBlank input.sessionDisplayName
      agentId := nonBlank input.agentId
      provider, model, inputTokens, outputTokens, cachedTokens, reasoningTokens
      estimatedCostMicrousd, cacheSavingsMicrousd, durationMs
      outcome := input.outcome.getD .success
      occurredAt, receivedAt }

/-- The input passes validation. -/
def RecordUsageEventInput.Valid (input : RecordUsageEventInput) : Prop :=
  trim input.eventId ≠ "" ∧ trim input.organizationId ≠ "" ∧ trim input.membershipId ≠ "" ∧
    trim input.workspaceId ≠ "" ∧ trim input.sessionId ≠ "" ∧ trim input.provider ≠ "" ∧
    trim input.model ≠ "" ∧ IsNonNegativeSafeInteger input.inputTokens ∧
    IsNonNegativeSafeInteger input.outputTokens ∧ IsNonNegativeSafeInteger (input.cachedTokens.getD 0) ∧
    IsNonNegativeSafeInteger (input.reasoningTokens.getD 0) ∧
    IsNonNegativeSafeInteger (input.estimatedCostMicrousd.getD 0) ∧
    IsNonNegativeSafeInteger (input.cacheSavingsMicrousd.getD 0) ∧
    IsNonNegativeSafeInteger input.occurredAt ∧
    IsNonNegativeSafeInteger (input.receivedAt.getD input.now) ∧
    ∀ durationMs ∈ input.durationMs, IsNonNegativeSafeInteger durationMs

def RecordUsageEventInput.row (input : RecordUsageEventInput) : UsageEventRow where
  eventId := trim input.eventId
  organizationId := trim input.organizationId
  membershipId := trim input.membershipId
  workspaceId := trim input.workspaceId
  sessionId := trim input.sessionId
  sessionDisplayName := nonBlank input.sessionDisplayName
  agentId := nonBlank input.agentId
  provider := trim input.provider
  model := trim input.model
  inputTokens := input.inputTokens
  outputTokens := input.outputTokens
  cachedTokens := input.cachedTokens.getD 0
  reasoningTokens := input.reasoningTokens.getD 0
  estimatedCostMicrousd := input.estimatedCostMicrousd.getD 0
  cacheSavingsMicrousd := input.cacheSavingsMicrousd.getD 0
  durationMs := input.durationMs
  outcome := input.outcome.getD .success
  occurredAt := input.occurredAt
  receivedAt := input.receivedAt.getD input.now

/-- `usage_event_scope_insert_guard`: the member owns the workspace in the organization. -/
def UsageEventRow.InScope (event : UsageEventRow) (tables : Tables) : Prop :=
  ∃ workspace ∈ tables.workspaces, workspace.id = event.workspaceId ∧
    workspace.organizationId = event.organizationId ∧ workspace.memberId = event.membershipId ∧
    tables.MemberOf workspace.memberId event.organizationId

instance (event : UsageEventRow) (tables : Tables) : Decidable (event.InScope tables) :=
  inferInstanceAs (Decidable (∃ workspace ∈ tables.workspaces, _))

/-- The `WHERE` clause of the conflict. -/
def UsageEventRow.enriches (excluded stored : UsageEventRow) : Bool :=
  (excluded.sessionDisplayName.isSome && excluded.sessionDisplayName ≠ stored.sessionDisplayName) ||
    (stored.estimatedCostMicrousd = 0 && 0 < excluded.estimatedCostMicrousd) ||
    (stored.cacheSavingsMicrousd = 0 && 0 < excluded.cacheSavingsMicrousd)

/-- `DO UPDATE SET …`. -/
def UsageEventRow.enriched (excluded stored : UsageEventRow) : UsageEventRow :=
  { stored with
    sessionDisplayName := excluded.sessionDisplayName.or stored.sessionDisplayName
    estimatedCostMicrousd :=
      if stored.estimatedCostMicrousd = 0 then excluded.estimatedCostMicrousd
      else stored.estimatedCostMicrousd
    cacheSavingsMicrousd :=
      if stored.cacheSavingsMicrousd = 0 then excluded.cacheSavingsMicrousd
      else stored.cacheSavingsMicrousd }

/-- `INSERT INTO usage_event … ON CONFLICT(event_id)`, with the number of changed rows. -/
def upsertUsageEvent (excluded : UsageEventRow) (rows : List UsageEventRow) :
    List UsageEventRow × Bool :=
  upsert (·.eventId) UsageEventRow.enriches UsageEventRow.enriched excluded rows

/-- The trigger comes before the row checks, and both come before the conflict. -/
def recordUsageEvent (database : CloudDatabase) (input : RecordUsageEventInput) :
    Except Failure (CloudDatabase × Bool) := do
  let excluded ← usageEventCandidate input
  if ¬ excluded.InScope database.tables then
    .error (.error "usage event scope does not match workspace ownership")
  else if ¬ excluded.Checks then .error (.constraint .usageChecks)
  else do
    let outcome := upsertUsageEvent excluded database.tables.usageEvents
    let database ← statement database fun tables => { tables with usageEvents := outcome.1 }
    .ok (database, outcome.2)

section Specs

variable {database : CloudDatabase} {input : RecordUsageEventInput} {candidate : UsageEventRow}
  {value number : Int} {field text normalized : String}

theorem requiredUsageText_eq_ok : requiredUsageText text field = .ok normalized ↔
    trim text ≠ "" ∧ trim text = normalized := by
  unfold requiredUsageText
  split <;> simp_all

theorem nonNegativeDuration_eq_ok {given durationMs : Option Int} :
    nonNegativeDuration given = .ok durationMs ↔
      (∀ value ∈ given, IsNonNegativeSafeInteger value) ∧ given = durationMs := by
  cases given <;> simp [nonNegativeDuration, bind_ok, nonNegativeInteger_eq_ok]

/-- What validation admits, and the row that it makes of it. -/
theorem usageEventCandidate_eq_ok : usageEventCandidate input = .ok candidate ↔
    input.Valid ∧ input.row = candidate := by
  simp only [usageEventCandidate, bind_ok, nonNegativeInteger_eq_ok, requiredUsageText_eq_ok,
    nonNegativeDuration_eq_ok, Except.ok.injEq, RecordUsageEventInput.Valid, RecordUsageEventInput.row,
    and_assoc, exists_and_left, exists_eq_left']

/-- What validation admits passes the row checks. -/
theorem usageEventCandidate_checks (accepted : usageEventCandidate input = .ok candidate) :
    candidate.Checks := by
  obtain ⟨valid, rfl⟩ := usageEventCandidate_eq_ok.mp accepted
  obtain ⟨_, _, _, _, _, _, _, inputTokens, outputTokens, cachedTokens, reasoningTokens, cost, savings, _, _,
    durationMs⟩ := valid
  exact ⟨inputTokens.1, outputTokens.1, cachedTokens.1, fun value given => (durationMs value given).1, cost.1,
    reasoningTokens.1, savings.1⟩

/-- Enriching keeps the checks: only two figures change, to ones that are checked. -/
theorem UsageEventRow.enriched_checks {excluded stored : UsageEventRow} (fresh : excluded.Checks)
    (checks : stored.Checks) : (excluded.enriched stored).Checks := by
  obtain ⟨_, _, _, _, freshCost, _, freshSavings⟩ := fresh
  obtain ⟨inputTokens, outputTokens, cachedTokens, durationMs, cost, reasoningTokens, savings⟩ := checks
  refine ⟨inputTokens, outputTokens, cachedTokens, durationMs, ?_, reasoningTokens, ?_⟩
  · unfold UsageEventRow.enriched
    dsimp only
    split
    · exact freshCost
    · exact cost
  · unfold UsageEventRow.enriched
    dsimp only
    split
    · exact freshSavings
    · exact savings

/-- A statement that writes the usage table alone keeps the constraints of the others. -/
theorem consistent_of_usageEvents (database : CloudDatabase) {usageEvents : List UsageEventRow}
    (distinct : (usageEvents.map (·.eventId)).Nodup)
    (organizations : ∀ event ∈ usageEvents, event.organizationId ∈ database.tables.organizationIds)
    (members : ∀ event ∈ usageEvents, event.membershipId ∈ database.tables.members.map (·.id))
    (workspaces : ∀ event ∈ usageEvents, event.workspaceId ∈ database.tables.workspaces.map (·.id))
    (checks : ∀ event ∈ usageEvents, event.Checks) :
    schema.Consistent { database.tables with usageEvents } := by
  intro constraint
  have held := database.consistent constraint
  cases constraint with
  | usageEventId => exact distinct
  | usageOrganization => exact organizations
  | usageMembership => exact members
  | usageWorkspace => exact workspaces
  | usageChecks => exact checks
  | _ => exact held

/-- Every valid event of an existing workspace is accepted, and the statement is its
upsert. -/
theorem recordUsageEvent_of_inScope (accepted : usageEventCandidate input = .ok candidate)
    (inScope : candidate.InScope database.tables) :
    ∃ after, recordUsageEvent database input =
        .ok (after, (upsertUsageEvent candidate database.tables.usageEvents).2) ∧
      after.tables = { database.tables with
        usageEvents := (upsertUsageEvent candidate database.tables.usageEvents).1 } := by
  have checks := usageEventCandidate_checks accepted
  have guarded : ¬ ¬ candidate.InScope database.tables := not_not.mpr inScope
  obtain ⟨workspace, stored, sameId, _, sameMember, member⟩ := inScope
  have consistent : schema.Consistent { database.tables with
      usageEvents := (upsertUsageEvent candidate database.tables.usageEvents).1 } := by
    apply consistent_of_usageEvents
    · exact nodup_upsert_kept (database.consistent .usageEventId) (database.consistent .usageEventId)
        (fun _ => rfl) lookup_eq_none.mp
    · refine forall_upsert (database.consistent .usageOrganization) ?_
        (database.consistent .usageOrganization)
      obtain ⟨row, rowStored, _, rowOrganization⟩ := member
      exact rowOrganization ▸ database.consistent .memberOrganization row rowStored
    · refine forall_upsert (database.consistent .usageMembership) ?_
        (database.consistent .usageMembership)
      obtain ⟨row, rowStored, rowId, _⟩ := member
      rw [← sameMember, ← rowId]
      exact List.mem_map_of_mem rowStored
    · refine forall_upsert (database.consistent .usageWorkspace) ?_
        (database.consistent .usageWorkspace)
      rw [← sameId]
      exact List.mem_map_of_mem stored
    · exact forall_upsert (database.consistent .usageChecks) checks fun row rowStored =>
        UsageEventRow.enriched_checks checks (database.consistent .usageChecks row rowStored)
  let after : CloudDatabase := ⟨_, consistent⟩
  refine ⟨after, ?_, rfl⟩
  refine bind_ok.mpr ⟨candidate, accepted, ?_⟩
  rw [if_neg guarded, if_neg (not_not.mpr checks)]
  exact bind_ok.mpr ⟨after, Store.execute_of_consistent after.consistent, rfl⟩

end Specs

end NebulaCloud.Database
