import NebulaCloud.Data.Grouping
import NebulaCloud.Database.Deletion
import NebulaCloud.Database.Membership
import NebulaCloud.Usage.Replay

namespace NebulaCloud.Usage

open NebulaCloud.Data NebulaCloud.Database NebulaCloud.Platform

/-! # Usage reports

A summary breaks the same events down along several keys.  SQLite adds integers
exactly as long as the sums fit, and so does the language within the safe integers. -/

/-! ## Totals -/

namespace UsageTotals

instance : Zero UsageTotals := ⟨⟨0, 0, 0, 0, 0, 0, 0, 0⟩⟩

instance : Add UsageTotals where
  add left right :=
    { modelTurns := left.modelTurns + right.modelTurns
      inputTokens := left.inputTokens + right.inputTokens
      outputTokens := left.outputTokens + right.outputTokens
      cachedTokens := left.cachedTokens + right.cachedTokens
      reasoningTokens := left.reasoningTokens + right.reasoningTokens
      totalTokens := left.totalTokens + right.totalTokens
      estimatedCostMicrousd := left.estimatedCostMicrousd + right.estimatedCostMicrousd
      cacheSavingsMicrousd := left.cacheSavingsMicrousd + right.cacheSavingsMicrousd }

theorem zero_def : (0 : UsageTotals) = ⟨0, 0, 0, 0, 0, 0, 0, 0⟩ := rfl

/-- The metrics are added one by one. -/
theorem add_def (left right : UsageTotals) : left + right =
    ⟨left.modelTurns + right.modelTurns, left.inputTokens + right.inputTokens,
      left.outputTokens + right.outputTokens, left.cachedTokens + right.cachedTokens,
      left.reasoningTokens + right.reasoningTokens, left.totalTokens + right.totalTokens,
      left.estimatedCostMicrousd + right.estimatedCostMicrousd,
      left.cacheSavingsMicrousd + right.cacheSavingsMicrousd⟩ := rfl

instance : AddCommMonoid UsageTotals where
  add_assoc first second third := by simp only [add_def, add_assoc]
  zero_add totals := by simp only [add_def, zero_def, zero_add]
  add_zero totals := by simp only [add_def, zero_def, add_zero]
  add_comm left right := by simp only [add_def, add_comm]
  nsmul := nsmulRec

end UsageTotals

/-- What one event adds to every total. -/
def eventTotals (event : UsageEventRow) : UsageTotals := usageTotals [event]

theorem usageTotals_cons (event : UsageEventRow) (rows : List UsageEventRow) :
    usageTotals (event :: rows) = eventTotals event + usageTotals rows := by
  simp only [UsageTotals.add_def, eventTotals, usageTotals, List.map_cons, List.map_nil, List.sum_cons,
    List.sum_nil, List.length_cons, List.length_nil, UsageTotals.mk.injEq]
  refine ⟨?_, ?_, ?_, ?_, ?_, ?_, ?_, ?_⟩ <;> omega

theorem usageTotals_eq_sum (rows : List UsageEventRow) : usageTotals rows = (rows.map eventTotals).sum := by
  induction rows with
  | nil => rfl
  | cons event rest ih => rw [usageTotals_cons, ih, List.map_cons, List.sum_cons]

/-! ## Dates -/

/-- The civil date of a day, counted from 1970-01-01. -/
def civilDate (days : Int) : Int × Int × Int :=
  let shifted := days + 719468
  let era := shifted / 146097
  let dayOfEra := shifted - era * 146097
  let yearOfEra := (dayOfEra - dayOfEra / 1460 + dayOfEra / 36524 - dayOfEra / 146096) / 365
  let dayOfYear := dayOfEra - (365 * yearOfEra + yearOfEra / 4 - yearOfEra / 100)
  -- years and months that start in March
  let month := (5 * dayOfYear + 2) / 153
  let day := dayOfYear - (153 * month + 2) / 5 + 1
  let civilMonth := if month < 10 then month + 3 else month - 9
  (yearOfEra + era * 400 + (if civilMonth ≤ 2 then 1 else 0), civilMonth, day)

/-- `%0<width>d`. -/
def padNumber (width : Nat) (number : Int) : String :=
  let digits := (toString number.natAbs).toList
  let sign := if number < 0 then ['-'] else []
  String.ofList (sign ++ List.replicate (width - digits.length - sign.length) '0' ++ digits)

/-- `strftime('%Y-%m-%d', seconds, 'unixepoch')`, null outside of the years it knows. -/
def strftimeDate (seconds : Int) : Option String :=
  if -210866760000 ≤ seconds ∧ seconds < 253402300800 then
    let date := civilDate (seconds / 86400)
    some ("-".intercalate [padNumber 4 date.1, padNumber 2 date.2.1, padNumber 2 date.2.2])
  else none

def usageDate (event : UsageEventRow) : Option String := strftimeDate (event.occurredAt.tdiv 1000)

example : [0, 951782400, 253402300799, 253402300800].map strftimeDate =
    [some "1970-01-01", some "2000-02-29", some "9999-12-31", none] := by
  decide +kernel

/-! ## The summary of a member -/

structure UsageSummaryAccessOptions where
  userId : String
  organizationId : String
  since : Int
  rangeDays : Int
deriving DecidableEq, Repr

structure UsageSessionSummary where
  sessionId : String
  displayName : String
  lastOccurredAt : Int
  totals : UsageTotals
deriving DecidableEq, Repr

structure UsageModelSummary where
  provider : String
  model : String
  totals : UsageTotals
deriving DecidableEq, Repr

structure UsageDaySummary where
  date : Option String
  totals : UsageTotals
deriving DecidableEq, Repr

structure UsageModelDaySummary where
  date : Option String
  provider : String
  model : String
  totals : UsageTotals
deriving DecidableEq, Repr

structure PersonalUsageSummary where
  organizationId : String
  membershipId : String
  rangeDays : Int
  totals : UsageTotals
  sessions : List UsageSessionSummary
  models : List UsageModelSummary
  timeline : List UsageDaySummary
  modelTimeline : List UsageModelDaySummary
deriving DecidableEq, Repr

/-- `MAX` of the texts that are not null. -/
def maxText : List String → Option String
  | [] => none
  | first :: rest => some (rest.foldl (fun best text => if best < text then text else best) first)

/-- `ORDER BY last_occurred_at DESC, session_id`. -/
def sessionOrder (left right : UsageSessionSummary) : Prop :=
  right.lastOccurredAt < left.lastOccurredAt ∨
    (left.lastOccurredAt = right.lastOccurredAt ∧ left.sessionId ≤ right.sessionId)

/-- `ORDER BY (SUM(input_tokens) + SUM(output_tokens)) DESC, model`. -/
def modelOrder (left right : UsageModelSummary) : Prop :=
  right.totals.totalTokens < left.totals.totalTokens ∨
    (left.totals.totalTokens = right.totals.totalTokens ∧ left.model ≤ right.model)

/-- Dates in ascending order, after the missing one. -/
def dateAtMost : Option String → Option String → Prop
  | none, _ => True
  | some _, none => False
  | some left, some right => left ≤ right

/-- `ORDER BY date, provider, model`. -/
def modelDayOrder (left right : UsageModelDaySummary) : Prop :=
  dateAtMost left.date right.date ∧
    (left.date = right.date → left.provider ≤ right.provider ∧
      (left.provider = right.provider → left.model ≤ right.model))

instance : DecidableRel sessionOrder := fun _ _ => inferInstanceAs (Decidable (_ ∨ _))

instance : DecidableRel modelOrder := fun _ _ => inferInstanceAs (Decidable (_ ∨ _))

instance : DecidableRel dateAtMost
  | none, _ => inferInstanceAs (Decidable True)
  | some _, none => inferInstanceAs (Decidable False)
  | some left, some right => inferInstanceAs (Decidable (left ≤ right))

instance : DecidableRel modelDayOrder := fun _ _ => inferInstanceAs (Decidable (_ ∧ _))

def sessionSummary (group : String × List UsageEventRow) : UsageSessionSummary where
  sessionId := group.1
  displayName := (maxText (group.2.filterMap (·.sessionDisplayName))).getD group.1
  lastOccurredAt := ((group.2.map (·.occurredAt)).max?).getD 0
  totals := usageTotals group.2

def getPersonalUsageSummary (database : CloudDatabase) (options : UsageSummaryAccessOptions) :
    Except Failure PersonalUsageSummary :=
  match findMembership database.tables options.userId options.organizationId with
  | none => .error .workspaceMembershipNotFound
  | some membership =>
      let rows := personalUsageRows database.tables membership.id options.since
      let sessions := (groups (·.sessionId) rows).map sessionSummary
      let models := (groups (fun event => (event.provider, event.model)) rows).map fun group =>
        { provider := group.1.1, model := group.1.2, totals := usageTotals group.2 : UsageModelSummary }
      let timeline := (groups usageDate rows).map fun group =>
        { date := group.1, totals := usageTotals group.2 : UsageDaySummary }
      let modelTimeline := (groups (fun event => (usageDate event, event.provider, event.model)) rows).map
        fun group =>
          { date := group.1.1, provider := group.1.2.1, model := group.1.2.2
            totals := usageTotals group.2 : UsageModelDaySummary }
      .ok
        { organizationId := options.organizationId
          membershipId := membership.id
          rangeDays := options.rangeDays
          totals := usageTotals rows
          sessions := (sessions.insertionSort sessionOrder).take 20
          models := models.insertionSort modelOrder
          timeline := timeline.insertionSort fun left right => dateAtMost left.date right.date
          modelTimeline := modelTimeline.insertionSort modelDayOrder }

/-! ## The summary of an organization -/

structure OrganizationMemberUsageSummary where
  membershipId : String
  userId : String
  name : String
  totals : UsageTotals
deriving DecidableEq, Repr

structure OrganizationUsageSummary where
  organizationId : String
  rangeDays : Int
  totals : UsageTotals
  members : List OrganizationMemberUsageSummary
deriving DecidableEq, Repr

/-- `member INNER JOIN user LEFT JOIN usage_event`, for one organization. -/
def memberEvents (users : List UserRow) (tables : Tables) (organizationId : String) (since : Int) :
    List ((MemberRow × UserRow) × Option UsageEventRow) :=
  let members := tables.members.filter (·.organizationId = organizationId)
  leftJoin (fun named event => event.membershipId = named.1.id && since ≤ event.occurredAt)
    (members.flatMap fun member => (users.filter (·.id = member.userId)).map fun user => (member, user))
    tables.usageEvents

def getOrganizationUsageSummary (users : List UserRow) (database : CloudDatabase)
    (options : UsageSummaryAccessOptions) : Except Failure OrganizationUsageSummary :=
  match findMembership database.tables options.userId options.organizationId with
  | none => .error (.error "The user cannot inspect organization usage")
  | some actor =>
      if !isAdminRole actor.role then .error (.error "The user cannot inspect organization usage")
      else
        let members := (groups (fun row => (row.1.1.id, row.1.1.userId, row.1.2.name))
          (memberEvents users database.tables options.organizationId options.since)).map fun group =>
            { membershipId := group.1.1, userId := group.1.2.1, name := group.1.2.2
              totals := usageTotals (group.2.filterMap (·.2)) : OrganizationMemberUsageSummary }
        .ok
          { organizationId := options.organizationId
            rangeDays := options.rangeDays
            totals := usageTotals (organizationUsageRows database.tables options.organizationId options.since)
            members := members.insertionSort fun left right => left.membershipId ≤ right.membershipId }

/-! ## Runs -/

/-- What happens to the usage table.  No statement but those of the first four events
writes it, and none moves a membership to another organization. -/
inductive UsageEvent
  | record (input : RecordUsageEventInput)
  | deleteWorkspace (workspaceId : String) (now : Int)
  | deleteMember (memberId : String) (now : Int)
  | deleteOrganization (organizationId : String) (now : Int)
  | other (after : CloudDatabase)

/-- Every other statement leaves the events alone and keeps the memberships. -/
def LeavesUsage (before after : Tables) : Prop :=
  after.usageEvents = before.usageEvents ∧
    ∀ member ∈ before.members, after.MemberOf member.id member.organizationId

def usageReports : System CloudDatabase UsageEvent where
  Initial database := database.tables.usageEvents = []
  Enabled database
    | .other after => LeavesUsage database.tables after.tables
    | .record _ | .deleteWorkspace _ _ | .deleteMember _ _ | .deleteOrganization _ _ => True
  step database
    | .record input => usageSystem.step database input
    | .deleteWorkspace workspaceId now => autocommit database (deleteWorkspace database workspaceId now)
    | .deleteMember memberId now => autocommit database (deleteMember database memberId now)
    | .deleteOrganization organizationId now =>
        autocommit database (deleteOrganization database organizationId now)
    | .other after => after

/-- Every event belongs to the organization of its member. -/
def MemberOwned (tables : Tables) : Prop :=
  ∀ event ∈ tables.usageEvents, tables.MemberOf event.membershipId event.organizationId

section Runs

variable {tables : Tables} {database : CloudDatabase} {now : Int}

theorem memberOwned_deleteWorkspaces (doomed : WorkspaceRow → Bool) (owned : MemberOwned tables) :
    MemberOwned (deleteWorkspaces doomed now tables) :=
  fun event member => owned event (List.mem_of_mem_filter member)

/-- The events of a deleted member go with it. -/
theorem memberOwned_deleteMembers (doomed : MemberRow → Bool) (owned : MemberOwned tables) :
    MemberOwned (deleteMembers doomed now tables) := by
  apply memberOwned_deleteWorkspaces
  intro event held
  obtain ⟨listed, kept⟩ := List.mem_filter.mp held
  obtain ⟨member, stored, sameId, sameOrganization⟩ := owned event listed
  refine ⟨member, List.mem_filter.mpr ⟨stored, ?_⟩, sameId, sameOrganization⟩
  have spared : doomed member ≠ true := by
    intro deleted
    have gone : event.membershipId ∈ (tables.members.filter doomed).map (·.id) :=
      List.mem_map.mpr ⟨member, List.mem_filter.mpr ⟨stored, deleted⟩, sameId⟩
    simp [gone] at kept
  simpa using spared

theorem memberOwned_deleteOrganization (organizationId : String) (owned : MemberOwned tables) :
    MemberOwned (deleteOrganizationRow organizationId now tables) := by
  apply memberOwned_deleteWorkspaces
  apply memberOwned_deleteMembers
  exact fun event member => owned event (List.mem_of_mem_filter member)

theorem memberOwned_autocommit {write : Tables → Tables} (owned : MemberOwned database.tables)
    (kept : MemberOwned (write database.tables)) :
    MemberOwned (autocommit database (statement database write)).tables := by
  cases executed : statement database write with
  | error failure => exact owned
  | ok after =>
      rw [autocommit, Store.execute_ok.mp executed]
      exact kept

theorem memberOwned_reachable (reachable : usageReports.Reachable database) : MemberOwned database.tables := by
  apply reachable.invariant (fun database => MemberOwned database.tables)
  · intro state empty event member
    rw [empty] at member
    cases member
  · intro state event enabled owned
    cases event with
    | record input =>
        show MemberOwned (usageSystem.step state input).tables
        cases accepted : acceptedEvent state.tables input with
        | none =>
            rw [step_refused accepted]
            exact owned
        | some event =>
            rw [step_accepted accepted]
            refine forall_upsert owned ?_ owned
            obtain ⟨workspace, _, _, _, sameMember, member⟩ := (acceptedEvent_eq_some.mp accepted).2
            rwa [sameMember] at member
    | deleteWorkspace workspaceId now =>
        exact memberOwned_autocommit owned (memberOwned_deleteWorkspaces _ owned)
    | deleteMember memberId now => exact memberOwned_autocommit owned (memberOwned_deleteMembers _ owned)
    | deleteOrganization organizationId now =>
        exact memberOwned_autocommit owned (memberOwned_deleteOrganization _ owned)
    | other after =>
        obtain ⟨same, kept⟩ := enabled
        show MemberOwned after.tables
        intro event listed
        rw [same] at listed
        obtain ⟨member, stored, sameId, sameOrganization⟩ := owned event listed
        rw [← sameId, ← sameOrganization]
        exact kept member stored

end Runs

/-! ## Reconciliation -/

/-- What the authentication library promises of its tables: users are distinct, a
member is a user, and a user is a member of an organization once. -/
structure Identities (users : List UserRow) (tables : Tables) : Prop where
  distinct : (users.map (·.id)).Nodup
  known : ∀ member ∈ tables.members, member.userId ∈ users.map (·.id)
  single : (tables.members.map fun member => (member.userId, member.organizationId)).Nodup

section Reconciliation

variable {users : List UserRow} {tables : Tables} {database : CloudDatabase} {organizationId : String}
  {since : Int}

theorem usageTotals_groups {Key : Type} [DecidableEq Key] {key : UsageEventRow → Key}
    {rows : List UsageEventRow} :
    ((groups key rows).map fun group => usageTotals group.2).sum = usageTotals rows := by
  simp only [usageTotals_eq_sum, sum_groups]

/-- Ordering a breakdown does not change its sum. -/
theorem sum_ordered {Summary : Type} {order : Summary → Summary → Prop} [DecidableRel order]
    {totals : Summary → UsageTotals} {summaries : List Summary} :
    ((summaries.insertionSort order).map totals).sum = (summaries.map totals).sum :=
  ((List.perm_insertionSort order summaries).map totals).sum_eq

theorem personalSummary_reconciles {options : UsageSummaryAccessOptions} {summary : PersonalUsageSummary}
    (reported : getPersonalUsageSummary database options = .ok summary) :
    summary.totals = (summary.models.map (·.totals)).sum ∧
      summary.totals = (summary.timeline.map (·.totals)).sum ∧
      summary.totals = (summary.modelTimeline.map (·.totals)).sum := by
  unfold getPersonalUsageSummary at reported
  split at reported
  · cases reported
  · cases reported
    simp only [sum_ordered, List.map_map, Function.comp_def, usageTotals_groups, and_self]

/-- Every member of the organization appears once in the join, under its user. -/
theorem named_members (identities : Identities users tables) :
    ((tables.members.filter (·.organizationId = organizationId)).flatMap fun member =>
      (users.filter (·.id = member.userId)).map fun user => (member, user)).map (·.1) =
        tables.members.filter (·.organizationId = organizationId) := by
  have each : ∀ member ∈ tables.members,
      ((users.filter (·.id = member.userId)).map fun user => (member, user)).map (·.1) = [member] := by
    intro member stored
    rw [filter_eq_lookup identities.distinct]
    cases found : lookup (·.id) users member.userId with
    | none =>
        obtain ⟨user, listed, same⟩ := List.mem_map.mp (identities.known member stored)
        exact absurd same (lookup_eq_none.mp found user listed)
    | some user => rfl
  rw [List.map_flatMap]
  have single : (tables.members.filter (·.organizationId = organizationId)).flatMap (fun member =>
      ((users.filter (·.id = member.userId)).map fun user => (member, user)).map (·.1)) =
      (tables.members.filter (·.organizationId = organizationId)).flatMap fun member => [member] := by
    apply List.flatMap_congr
    intro member held
    exact each member (List.mem_of_mem_filter held)
  rw [single, List.flatMap_singleton']

/-- The events of an organization, counted member by member. -/
theorem sum_members (distinct : (tables.members.map (·.id)).Nodup) (owned : MemberOwned tables) :
    ((tables.members.filter (·.organizationId = organizationId)).map fun member =>
      usageTotals (personalUsageRows tables member.id since)).sum =
        usageTotals (organizationUsageRows tables organizationId since) := by
  have own : ∀ member ∈ tables.members.filter (·.organizationId = organizationId),
      personalUsageRows tables member.id since =
        (organizationUsageRows tables organizationId since).filter fun event =>
          event.membershipId = member.id := by
    intro member held
    obtain ⟨stored, sameOrganization⟩ := List.mem_filter.mp held
    unfold personalUsageRows organizationUsageRows
    rw [List.filter_filter]
    apply List.filter_congr
    intro event listed
    obtain ⟨owner, ownerStored, ownerId, ownerOrganization⟩ := owned event listed
    by_cases same : event.membershipId = member.id
    · have sameRow : owner = member := eq_of_key distinct ownerStored stored (ownerId.trans same)
      have inOrganization : event.organizationId = organizationId := by
        rw [← ownerOrganization, sameRow]
        simpa using sameOrganization
      simp [same, inOrganization]
    · simp [same]
  have covered : ∀ event ∈ organizationUsageRows tables organizationId since,
      event.membershipId ∈ (tables.members.filter (·.organizationId = organizationId)).map (·.id) := by
    intro event listed
    obtain ⟨stored, inScope⟩ := List.mem_filter.mp listed
    obtain ⟨owner, ownerStored, ownerId, ownerOrganization⟩ := owned event stored
    simp only [Bool.and_eq_true, decide_eq_true_eq] at inScope
    exact List.mem_map.mpr
      ⟨owner, List.mem_filter.mpr ⟨ownerStored, by simp [ownerOrganization, inScope.1]⟩, ownerId⟩
  have distinctIds : ((tables.members.filter (·.organizationId = organizationId)).map (·.id)).Nodup :=
    (List.filter_sublist.map _).nodup distinct
  rw [usageTotals_eq_sum, ← sum_fibers distinctIds covered, List.map_map]
  congr 1
  apply List.map_congr_left
  intro member held
  rw [Function.comp_apply, own member held, usageTotals_eq_sum]

/-- A member row sums the events that the join found for it. -/
theorem usageTotals_joined (rows : List ((MemberRow × UserRow) × Option UsageEventRow)) :
    usageTotals (rows.filterMap (·.2)) = (rows.map fun row => (row.2.map eventTotals).getD 0).sum := by
  induction rows with
  | nil => rfl
  | cons row rest ih =>
      rw [List.map_cons, List.sum_cons, ← ih, List.filterMap_cons]
      cases row.2 with
      | none => simp
      | some event => exact usageTotals_cons event _

theorem sum_memberEvents (identities : Identities users tables) :
    ((memberEvents users tables organizationId since).map fun row => (row.2.map eventTotals).getD 0).sum =
      ((tables.members.filter (·.organizationId = organizationId)).map fun member =>
        usageTotals (personalUsageRows tables member.id since)).sum := by
  have named := @named_members users tables organizationId identities
  rw [memberEvents, sum_leftJoin]
  simp only [usageTotals_eq_sum, personalUsageRows]
  conv_rhs => rw [← named, List.map_map]
  rfl

/-- The summary that a member reads of its own usage. -/
theorem getPersonalUsageSummary_of_member (identities : Identities users database.tables) {member : MemberRow}
    (stored : member ∈ database.tables.members) (since rangeDays : Int) :
    ∃ summary, getPersonalUsageSummary database ⟨member.userId, member.organizationId, since, rangeDays⟩ =
        .ok summary ∧
      summary.totals = usageTotals (personalUsageRows database.tables member.id since) := by
  have found : findMembership database.tables member.userId member.organizationId = some member := by
    refine (find?_eq_some_of_unique ?_).mpr ⟨stored, by simp⟩
    intro left leftStored right rightStored leftSame rightSame
    simp only [Bool.and_eq_true, decide_eq_true_eq] at leftSame rightSame
    apply eq_of_key identities.single leftStored rightStored
    rw [leftSame.1, leftSame.2, rightSame.1, rightSame.2]
  simp [getPersonalUsageSummary, found]

theorem organizationSummary_reconciles (owned : MemberOwned database.tables)
    (identities : Identities users database.tables) {options : UsageSummaryAccessOptions}
    {summary : OrganizationUsageSummary}
    (reported : getOrganizationUsageSummary users database options = .ok summary) :
    summary.totals = (summary.members.map (·.totals)).sum ∧
      summary.totals = ((database.tables.members.filter (·.organizationId = options.organizationId)).map
        fun member => usageTotals (personalUsageRows database.tables member.id options.since)).sum := by
  have members := @sum_members database.tables options.organizationId options.since
    (database.consistent .memberId) owned
  unfold getOrganizationUsageSummary at reported
  split at reported
  · cases reported
  · split at reported
    · cases reported
    · cases reported
      refine ⟨?_, members.symm⟩
      simp only [sum_ordered, List.map_map, Function.comp_def, usageTotals_joined]
      rw [sum_groups, sum_memberEvents identities, members]

/-- In every reachable database the breakdowns of a summary add up to its totals, and
the summaries of the members to the one of their organization. -/
theorem usageReports_reconcile (reachable : usageReports.Reachable database)
    (identities : Identities users database.tables) (options : UsageSummaryAccessOptions) :
    (∀ summary, getPersonalUsageSummary database options = .ok summary →
      summary.totals = (summary.models.map (·.totals)).sum ∧
        summary.totals = (summary.timeline.map (·.totals)).sum ∧
        summary.totals = (summary.modelTimeline.map (·.totals)).sum) ∧
    ∀ summary, getOrganizationUsageSummary users database options = .ok summary →
      summary.totals = (summary.members.map (·.totals)).sum ∧
        ∃ personal : MemberRow → PersonalUsageSummary,
          (∀ member ∈ database.tables.members.filter (·.organizationId = options.organizationId),
            getPersonalUsageSummary database { options with userId := member.userId } =
              .ok (personal member)) ∧
          summary.totals =
            ((database.tables.members.filter (·.organizationId = options.organizationId)).map
              fun member => (personal member).totals).sum := by
  refine ⟨fun summary => personalSummary_reconciles, fun summary reported => ?_⟩
  obtain ⟨rows, members⟩ := organizationSummary_reconciles (memberOwned_reachable reachable) identities reported
  have own : ∀ member : MemberRow, ∃ personal,
      member ∈ database.tables.members.filter (·.organizationId = options.organizationId) →
        getPersonalUsageSummary database { options with userId := member.userId } = .ok personal ∧
          personal.totals = usageTotals (personalUsageRows database.tables member.id options.since) := by
    intro member
    by_cases held : member ∈ database.tables.members.filter (·.organizationId = options.organizationId)
    · obtain ⟨stored, same⟩ := List.mem_filter.mp held
      obtain ⟨personal, answered, totals⟩ :=
        getPersonalUsageSummary_of_member identities stored options.since options.rangeDays
      have sameOrganization : member.organizationId = options.organizationId := by simpa using same
      rw [sameOrganization] at answered
      exact ⟨personal, fun _ => ⟨answered, totals⟩⟩
    · exact ⟨⟨"", "", 0, 0, [], [], [], []⟩, fun member => absurd member held⟩
  choose personal answers using own
  refine ⟨rows, personal, fun member held => (answers member held).1, ?_⟩
  rw [members]
  congr 1
  apply List.map_congr_left
  intro member held
  exact (answers member held).2.symm

end Reconciliation

section Sample

/-- Two tenants that have used nothing yet. -/
def quietTenants : CloudDatabase :=
  Store.load { twoTenantTables with usageEvents := [] } (by decide +kernel)

def firstTurn : CloudDatabase := usageReports.step quietTenants (.record (reportedTurn "turn-1"))

def tenantUsers : List UserRow := [⟨"ada", "Ada", "ada@acme.example"⟩, ⟨"bob", "Bob", "bob@globex.example"⟩]

theorem usageReports_reconcile_firstTurn :
    (∃ summary, getOrganizationUsageSummary tenantUsers firstTurn ⟨"ada", "acme", 8, 30⟩ = .ok summary ∧
      summary.members.map (fun member => (member.name, member.totals.totalTokens)) = [("Ada", 3)]) ∧
    ∀ summary, getOrganizationUsageSummary tenantUsers firstTurn ⟨"ada", "acme", 8, 30⟩ = .ok summary →
      summary.totals = (summary.members.map (·.totals)).sum := by
  refine ⟨by decide +kernel, fun summary reported => ?_⟩
  have reachable : usageReports.Reachable firstTurn := .step (.initial rfl) trivial
  have identities : Identities tenantUsers firstTurn.tables :=
    ⟨by decide +kernel, by decide +kernel, by decide +kernel⟩
  exact ((usageReports_reconcile reachable identities ⟨"ada", "acme", 8, 30⟩).2 summary reported).1

end Sample

end NebulaCloud.Usage
