import NebulaCloud.Usage.Pricing
import NebulaCloud.Usage.Replay

namespace NebulaCloud.Usage

open NebulaCloud.Data NebulaCloud.Database NebulaCloud.Platform

/-! # Synchronisation of a chat

A runtime keeps the log of the requests to its models.  Whenever a turn ends or a
summary is read the whole log is replayed into the usage table. -/

/-! ## What a runtime reports -/

/-- An object, of which an array has none of the fields that are read. -/
def fieldsOf : Option Json → Option JsonRecord
  | some (.object fields) => some fields
  | some (.array _) => some []
  | _ => none

/-- `value === 0`. -/
def isZero : Option Json → Bool
  | some (.number value) => value = 0
  | _ => false

def usageValue (usage : JsonRecord) : List String → Int
  | [] => 0
  | key :: keys =>
      let value := usageInteger (usage.get key)
      if 0 < value ∨ isZero (usage.get key) then value else usageValue usage keys

/-- A figure that is found in the first details there are. -/
def detailedUsageValue (usage : JsonRecord) (field : String) : List String → Int
  | [] => usageInteger (usage.get field)
  | key :: keys =>
      match fieldsOf (usage.get key) with
      | some details => usageInteger (details.get field)
      | none => detailedUsageValue usage field keys

def cachedUsageValue (usage : JsonRecord) : Int :=
  detailedUsageValue usage "cached_tokens" ["prompt_tokens_details", "input_tokens_details"]

def reasoningUsageValue (usage : JsonRecord) : Int :=
  detailedUsageValue usage "reasoning_tokens" ["completion_tokens_details", "output_tokens_details"]

/-- Dollars in millionths. -/
def dollarsMicrousd : Option Json → Option Int
  | some (.number value) => if 0 ≤ value then some (mathRound (Double.mul value 1000000)) else none
  | _ => none

/-- A price as it is reported, in millionths or in dollars. -/
def reportedMicrousd (usage : JsonRecord) (directKey : String) (dollarKeys : List String)
    (fallback : Int) : Int :=
  let direct := usageInteger (usage.get directKey)
  if 0 < direct then direct
  else (dollarKeys.findSome? fun key => dollarsMicrousd (usage.get key)).getD fallback

def cacheSavingsMicrousd (usage : JsonRecord) (fallback : Int) : Int :=
  reportedMicrousd usage "cache_savings_microusd" ["cache_savings_usd"] fallback

def estimatedCostMicrousd (usage : JsonRecord) (fallback : Int) : Int :=
  reportedMicrousd usage "estimated_cost_microusd" ["cost_usd", "total_cost_usd"] fallback

/-- `typeof value === 'string' && value.trim()`. -/
def presentText : Option Json → Option String
  | some (.string text) => if trim text ≠ "" then some text else none
  | _ => none

/-- What a session tells about all of its requests. -/
structure SessionHeader where
  provider : String
  model : String
  agentId : Option String

def sessionHeader (state : JsonRecord) : SessionHeader where
  provider := (presentText (state.get "provider")).getD "unknown"
  model := (presentText (state.get "model")).getD "unknown"
  agentId := presentText (state.get "agent")

/-- The header and the log of a session that has one. -/
def requestLog (state : Json) : Option (SessionHeader × List Json) :=
  match asRecord (some state) with
  | none => none
  | some session =>
      match session.get "llm_request_log" with
      | some (.array log) => some (sessionHeader session, log)
      | _ => none

def reportedOutcome : Option Json → UsageOutcome
  | some (.string status) =>
      if status = "success" then .success else if status = "cancelled" then .cancelled else .error
  | _ => .error

structure SyncChatUsageInput where
  workspace : WorkspaceRow
  chatName : String
  displayName : Option String

section Entries

variable (toLowerCase : String → String) (input : SyncChatUsageInput) (header : SessionHeader)

/-- The price list's estimate for a request. -/
def estimated (usage : JsonRecord) : ModelUsageCostEstimate :=
  estimateModelUsageCost toLowerCase
    { provider := header.provider
      model := header.model
      inputTokens := usageValue usage ["prompt_tokens", "input_tokens"]
      outputTokens := usageValue usage ["completion_tokens", "output_tokens"]
      cachedTokens := cachedUsageValue usage }

/-- The figures of an entry that are computed from what it reports. -/
structure ScaledFigures where
  occurredAt : Int
  estimatedCostMicrousd : Int
  cacheSavingsMicrousd : Int

def scaledFigures (entry usage : JsonRecord) (now : Int) : ScaledFigures where
  occurredAt :=
    let createdAtSeconds := usageInteger (entry.get "created_at")
    -- the product of an integer by a thousand is an integer after rounding, too
    if 0 < createdAtSeconds then (Double.mul createdAtSeconds 1000).floor else now
  estimatedCostMicrousd :=
    estimatedCostMicrousd usage (estimated toLowerCase header usage).estimatedCostMicrousd
  cacheSavingsMicrousd :=
    cacheSavingsMicrousd usage (estimated toLowerCase header usage).cacheSavingsMicrousd

def entryEvent (index : Nat) (entry usage : JsonRecord) (now : Int) : RecordUsageEventInput :=
  let scaled := scaledFigures toLowerCase header entry usage now
  { eventId := usageEventId input.workspace.id input.chatName entry index
    organizationId := input.workspace.organizationId
    membershipId := input.workspace.memberId
    workspaceId := input.workspace.id
    sessionId := input.chatName
    sessionDisplayName := input.displayName.filter (· ≠ "")
    agentId := header.agentId
    provider := header.provider
    model := header.model
    inputTokens := usageValue usage ["prompt_tokens", "input_tokens"]
    outputTokens := usageValue usage ["completion_tokens", "output_tokens"]
    cachedTokens := some (cachedUsageValue usage)
    reasoningTokens := some (reasoningUsageValue usage)
    estimatedCostMicrousd := some scaled.estimatedCostMicrousd
    cacheSavingsMicrousd := some scaled.cacheSavingsMicrousd
    durationMs := none
    outcome := some (reportedOutcome (entry.get "status"))
    occurredAt := scaled.occurredAt
    receivedAt := none
    now }

/-- An entry that is no object or tells no usage is skipped. -/
def entryFields (rawEntry : Json) : Option (JsonRecord × JsonRecord) :=
  match fieldsOf (some rawEntry) with
  | none => none
  | some entry => (fieldsOf (entry.get "usage")).map fun usage => (entry, usage)

/-- The event of an entry that is not skipped. -/
def reportedEvent (index : Nat) (rawEntry : Json) (now : Int) : Option RecordUsageEventInput :=
  (entryFields rawEntry).map fun fields =>
    entryEvent toLowerCase input header index fields.1 fields.2 now

/-- The clock while a log is replayed, read once for each entry. -/
structure Clock where
  now : Nat → Int
  valid : ∀ index, IsNonNegativeSafeInteger (now index)

/-- The loop over the log.  What an entry throws ends it; what was recorded before
stays. -/
def syncEntries (clock : Clock) : Nat → List Json → CloudDatabase → CloudDatabase × Option Failure
  | _, [], database => (database, none)
  | index, rawEntry :: rest, database =>
      match reportedEvent toLowerCase input header index rawEntry (clock.now index) with
      | none => syncEntries clock (index + 1) rest database
      | some event =>
          match recordUsageEvent database event with
          | .ok (recorded, _) => syncEntries clock (index + 1) rest recorded
          | .error failure => (database, some failure)

/-- `#syncChatUsage`, once the session has been fetched and parsed. -/
def syncChatUsage (clock : Clock) (state : Json) (database : CloudDatabase) :
    CloudDatabase × Option Failure :=
  match state with
  | .null => (database, some (.typeError "null is not an object"))
  | state =>
      match requestLog state with
      | none => (database, none)
      | some (header, log) => syncEntries toLowerCase input header clock 0 log database

end Entries

/-! ## What is accepted -/

section Specs

variable {toLowerCase : String → String} {input : SyncChatUsageInput} {header : SessionHeader}
  {tables : Tables} {database : CloudDatabase} {entry usage : JsonRecord} {rawEntry : Json} {now later : Int}
  {index : Nat} {reported : RecordUsageEventInput} {clock : Clock} {log : List Json} {eventId : String}

theorem usageInteger_safe (value : Option Json) : IsNonNegativeSafeInteger (usageInteger value) := by
  have zero : IsNonNegativeSafeInteger 0 := by decide
  unfold usageInteger
  split
  · rename_i number safe
    split
    · rename_i nonNegative
      refine ⟨nonNegative, ?_⟩
      unfold asSafeInteger at safe
      split at safe
      · split at safe
        · rename_i bounds
          cases safe
          exact bounds.2.2
        · cases safe
      · cases safe
    · exact zero
  · exact zero

theorem usageValue_safe (usage : JsonRecord) (keys : List String) :
    IsNonNegativeSafeInteger (usageValue usage keys) := by
  induction keys with
  | nil => exact usageInteger_safe none
  | cons key keys ih =>
      simp only [usageValue]
      split
      · exact usageInteger_safe _
      · exact ih

theorem detailedUsageValue_safe (usage : JsonRecord) (field : String) (keys : List String) :
    IsNonNegativeSafeInteger (detailedUsageValue usage field keys) := by
  induction keys with
  | nil => exact usageInteger_safe _
  | cons key keys ih =>
      simp only [detailedUsageValue]
      split
      · exact usageInteger_safe _
      · exact ih

/-- Every entry has an identifier that validation admits. -/
theorem usageEventId_visible (workspaceId chatName : String) (entry : JsonRecord) (index : Nat) :
    trim (usageEventId workspaceId chatName entry index) ≠ "" := by
  have legacy : trim (legacyUsageEventId workspaceId chatName entry index) ≠ "" := by
    have starts : ∃ rest, (legacyUsageEventId workspaceId chatName entry index).toList = 'l' :: rest := by
      simp [legacyUsageEventId]
    obtain ⟨rest, characters⟩ := starts
    exact trim_ne_empty characters (by decide)
  unfold usageEventId
  split
  · split
    · assumption
    · exact legacy
  · exact legacy

/-- The scaled figures are numbers that the usage table takes. -/
def ScaledFigures.InRange (figures : ScaledFigures) : Prop :=
  IsNonNegativeSafeInteger figures.occurredAt ∧
    IsNonNegativeSafeInteger figures.estimatedCostMicrousd ∧
    IsNonNegativeSafeInteger figures.cacheSavingsMicrousd

/-- No figure of the entry leaves the range once it is scaled.  The clock, which stands
in for a missing time, never does. -/
def EntryInRange (toLowerCase : String → String) (header : SessionHeader) (rawEntry : Json) : Prop :=
  ∀ fields ∈ entryFields rawEntry, (scaledFigures toLowerCase header fields.1 fields.2 0).InRange

/-- What the entries of a session share is accepted. -/
def SessionAccepted (tables : Tables) (input : SyncChatUsageInput) (header : SessionHeader) : Prop :=
  trim input.workspace.organizationId ≠ "" ∧ trim input.workspace.memberId ≠ "" ∧
    trim input.workspace.id ≠ "" ∧ trim input.chatName ≠ "" ∧ trim header.provider ≠ "" ∧
    trim header.model ≠ "" ∧
    ∃ workspace ∈ tables.workspaces, workspace.id = trim input.workspace.id ∧
      workspace.organizationId = trim input.workspace.organizationId ∧
      workspace.memberId = trim input.workspace.memberId ∧
      tables.MemberOf workspace.memberId (trim input.workspace.organizationId)

theorem scaledFigures_inRange (valid : IsNonNegativeSafeInteger now) :
    (scaledFigures toLowerCase header entry usage now).InRange ↔
      (scaledFigures toLowerCase header entry usage 0).InRange := by
  have zero : IsNonNegativeSafeInteger 0 := by decide
  unfold ScaledFigures.InRange scaledFigures
  dsimp only
  split
  · rfl
  · simp only [valid, zero]

theorem entryEvent_accepted (valid : IsNonNegativeSafeInteger now) :
    (∃ event, acceptedEvent database.tables
        (entryEvent toLowerCase input header index entry usage now) = some event) ↔
      SessionAccepted database.tables input header ∧
        (scaledFigures toLowerCase header entry usage 0).InRange := by
  have visible := usageEventId_visible input.workspace.id input.chatName entry index
  have inputTokens := usageValue_safe usage ["prompt_tokens", "input_tokens"]
  have outputTokens := usageValue_safe usage ["completion_tokens", "output_tokens"]
  have cachedTokens : IsNonNegativeSafeInteger (cachedUsageValue usage) := detailedUsageValue_safe ..
  have reasoningTokens : IsNonNegativeSafeInteger (reasoningUsageValue usage) := detailedUsageValue_safe ..
  rw [← @scaledFigures_inRange _ _ _ _ now valid]
  simp only [acceptedEvent_eq_some, usageEventCandidate_eq_ok]
  constructor
  · rintro ⟨event, ⟨inputValid, rfl⟩, inScope⟩
    obtain ⟨_, organization, member, workspace, chat, provider, model, _, _, _, _, cost, savings, occurred, _⟩ :=
      inputValid
    exact ⟨⟨organization, member, workspace, chat, provider, model, inScope⟩, occurred, cost, savings⟩
  · rintro ⟨⟨organization, member, workspace, chat, provider, model, inScope⟩, occurred, cost, savings⟩
    refine ⟨_, ⟨⟨visible, organization, member, workspace, chat, provider, model, inputTokens, outputTokens,
      cachedTokens, reasoningTokens, cost, savings, occurred, valid, ?_⟩, rfl⟩, inScope⟩
    simp [entryEvent]

/-- Every entry of an accepted session is accepted unless it leaves the range. -/
theorem reportedEvent_accepted (accepted : SessionAccepted database.tables input header)
    (valid : IsNonNegativeSafeInteger now) :
    (∀ reported ∈ reportedEvent toLowerCase input header index rawEntry now,
        ∃ event, acceptedEvent database.tables reported = some event) ↔
      EntryInRange toLowerCase header rawEntry := by
  cases found : entryFields rawEntry with
  | none => simp [reportedEvent, EntryInRange, found]
  | some fields => simp [reportedEvent, EntryInRange, found, entryEvent_accepted valid, accepted]

/-! ## Where the loop stops -/

/-- The events of a log, with the positions of their entries. -/
def reportedEvents (toLowerCase : String → String) (input : SyncChatUsageInput) (header : SessionHeader)
    (clock : Clock) (index : Nat) (log : List Json) : List RecordUsageEventInput :=
  (log.zipIdx index).filterMap fun entry =>
    reportedEvent toLowerCase input header entry.2 entry.1 (clock.now entry.2)

instance (figures : ScaledFigures) : Decidable figures.InRange := inferInstanceAs (Decidable (_ ∧ _ ∧ _))

instance (toLowerCase : String → String) (header : SessionHeader) (rawEntry : Json) :
    Decidable (EntryInRange toLowerCase header rawEntry) :=
  inferInstanceAs (Decidable (∀ fields ∈ entryFields rawEntry, _))

/-- The loop records the entries before the first that leaves the range. -/
theorem syncEntries_run (accepted : SessionAccepted database.tables input header) :
    (syncEntries toLowerCase input header clock index log database).1 =
      usageSystem.run database (reportedEvents toLowerCase input header clock index
        (log.takeWhile fun rawEntry => EntryInRange toLowerCase header rawEntry)) := by
  induction log generalizing index database with
  | nil => rfl
  | cons rawEntry rest ih =>
      have admits := @reportedEvent_accepted toLowerCase input header database rawEntry (clock.now index)
        index accepted (clock.valid index)
      simp only [syncEntries]
      cases found : reportedEvent toLowerCase input header index rawEntry (clock.now index) with
      | none =>
          have inRange : EntryInRange toLowerCase header rawEntry := admits.mp (by simp [found])
          rw [List.takeWhile_cons_of_pos (by simpa using inRange)]
          simp only [reportedEvents, List.zipIdx_cons, List.filterMap_cons, found]
          exact ih accepted
      | some reported =>
          by_cases inRange : EntryInRange toLowerCase header rawEntry
          · obtain ⟨event, admitted⟩ := admits.mpr inRange reported found
            obtain ⟨candidate, inScope⟩ := acceptedEvent_eq_some.mp admitted
            obtain ⟨after, recorded, written⟩ := recordUsageEvent_of_inScope candidate inScope
            have stepped : usageSystem.step database reported = after := by
              simp only [usageSystem, recorded, commit_ok]
            have acceptedAfter : SessionAccepted after.tables input header := by
              rw [written]
              exact accepted
            rw [List.takeWhile_cons_of_pos (by simpa using inRange)]
            simp only [reportedEvents, List.zipIdx_cons, List.filterMap_cons, found, recorded, System.run_cons,
              stepped]
            exact ih acceptedAfter
          · have refused : acceptedEvent database.tables reported = none := by
              by_contra admitted
              apply inRange
              apply admits.mp
              intro other member
              rw [found] at member
              cases member
              exact Option.ne_none_iff_exists'.mp admitted
            obtain ⟨failure, thrown⟩ := recordUsageEvent_refused refused
            rw [List.takeWhile_cons_of_neg (by simpa using inRange)]
            simp only [thrown, reportedEvents, List.zipIdx_nil, List.filterMap_nil, System.run_nil]

/-! ## Synchronisations -/

/-- What an entry holds at its position in the part of a list that passes. -/
theorem getElem?_takeWhile {Element : Type} {passes : Element → Bool} {elements : List Element}
    {element : Element} {position : Nat} :
    (elements.takeWhile passes)[position]? = some element ↔
      elements[position]? = some element ∧ ∀ earlier ∈ elements.take (position + 1), passes earlier = true := by
  induction elements generalizing position with
  | nil => simp
  | cons first rest ih =>
      by_cases passed : passes first = true
      · rw [List.takeWhile_cons_of_pos passed]
        cases position with
        | zero => simp [passed]
        | succ position => simp [ih, passed]
      · rw [List.takeWhile_cons_of_neg passed]
        simp [passed]

/-- One synchronisation of a chat: the clock that it reads and the session that it
fetches. -/
structure Synchronisation where
  clock : Clock
  state : Json

def synchronised (toLowerCase : String → String) (input : SyncChatUsageInput)
    (synchronisations : List Synchronisation) (database : CloudDatabase) : CloudDatabase :=
  synchronisations.foldl
    (fun database each => (syncChatUsage toLowerCase input each.clock each.state database).1) database

/-- The session has the header, and its log has only grown. -/
def Synchronisation.Extends (each : Synchronisation) (header : SessionHeader) (log : List Json) : Prop :=
  ∃ appended, requestLog each.state = some (header, log ++ appended)

def sessionScope (input : SyncChatUsageInput) : UsageScope where
  organizationId := trim input.workspace.organizationId
  membershipId := trim input.workspace.memberId
  workspaceId := trim input.workspace.id

/-- The event is in the table as one of its own scope. -/
def Recorded (tables : Tables) (scope : UsageScope) (eventId : String) : Prop :=
  ∃ row ∈ tables.usageEvents, row.eventId = eventId ∧ usageScope row = scope

instance (tables : Tables) (scope : UsageScope) (eventId : String) : Decidable (Recorded tables scope eventId) :=
  inferInstanceAs (Decidable (∃ row ∈ tables.usageEvents, _))

/-- The entry at the position carries the identifier. -/
def Carries (input : SyncChatUsageInput) (log : List Json) (position : Nat) (eventId : String) : Prop :=
  ∃ fields ∈ (log[position]?).bind entryFields,
    trim (usageEventId input.workspace.id input.chatName fields.1 position) = eventId

variable {synchronisations : List Synchronisation} {scope : UsageScope} {inputs : List RecordUsageEventInput}

theorem recorded_run (sameScope : ∀ reported ∈ inputs, ∀ event,
      acceptedEvent database.tables reported = some event → usageScope event = scope) :
    Recorded (usageSystem.run database inputs).tables scope eventId ↔
      (∀ row ∈ database.tables.usageEvents, row.eventId = eventId → usageScope row = scope) ∧
        (eventId ∈ database.tables.usageEvents.map (·.eventId) ∨
          ∃ reported ∈ inputs, ∃ event, acceptedEvent database.tables reported = some event ∧
            event.eventId = eventId) := by
  have distinct := database.consistent .usageEventId
  have found : Recorded (usageSystem.run database inputs).tables scope eventId ↔
      ∃ row ∈ merged (delivered database inputs eventId), usageScope row = scope := by
    rw [← lookup_run]
    constructor
    · rintro ⟨row, member, same, inScope⟩
      exact ⟨row, (lookup_eq_some ((usageSystem.run database inputs).consistent .usageEventId)).mpr ⟨member, same⟩,
        inScope⟩
    · rintro ⟨row, found, inScope⟩
      exact ⟨row, lookup_mem found, lookup_key found, inScope⟩
  rw [found]
  cases stored : lookup (·.eventId) database.tables.usageEvents eventId with
  | some row =>
      have known : eventId ∈ database.tables.usageEvents.map (·.eventId) :=
        List.mem_map.mpr ⟨row, lookup_mem stored, lookup_key stored⟩
      simp only [delivered, stored, Option.toList_some, List.singleton_append, merged, Option.mem_some_iff,
        known, true_or, and_true]
      constructor
      · rintro ⟨_, rfl, inScope⟩ other member same
        rw [eq_of_key distinct member (lookup_mem stored) (same.trans (lookup_key stored).symm)]
        exact inScope
      · intro own
        exact ⟨_, rfl, own row (lookup_mem stored) (lookup_key stored)⟩
  | none =>
      have free := lookup_eq_none.mp stored
      have unknown : eventId ∉ database.tables.usageEvents.map (·.eventId) := by
        intro known
        obtain ⟨row, member, same⟩ := List.mem_map.mp known
        exact free row member same
      simp only [delivered, stored, Option.toList_none, List.nil_append, unknown, false_or]
      constructor
      · rintro ⟨row, first, _⟩
        cases events : (inputs.filterMap (acceptedEvent database.tables)).filter (·.eventId = eventId) with
        | nil => simp [events, merged] at first
        | cons event later =>
            have member : event ∈ (inputs.filterMap (acceptedEvent database.tables)).filter
                (·.eventId = eventId) := by simp [events]
            obtain ⟨accepted, same⟩ := List.mem_filter.mp member
            obtain ⟨reported, listed, admitted⟩ := List.mem_filterMap.mp accepted
            exact ⟨fun row member same => absurd same (free row member),
              reported, listed, event, admitted, by simpa using same⟩
      · rintro ⟨_, reported, listed, event, admitted, same⟩
        have member : event ∈ (inputs.filterMap (acceptedEvent database.tables)).filter
            (·.eventId = eventId) :=
          List.mem_filter.mpr ⟨List.mem_filterMap.mpr ⟨reported, listed, admitted⟩, by simpa using same⟩
        cases events : (inputs.filterMap (acceptedEvent database.tables)).filter (·.eventId = eventId) with
        | nil => simp [events] at member
        | cons first later =>
            have held : first ∈ (inputs.filterMap (acceptedEvent database.tables)).filter
                (·.eventId = eventId) := by simp [events]
            obtain ⟨accepted, _⟩ := List.mem_filter.mp held
            obtain ⟨other, listedToo, admittedToo⟩ := List.mem_filterMap.mp accepted
            exact ⟨_, rfl, sameScope other listedToo first admittedToo⟩

/-- What the usage table is sent during a synchronisation. -/
def sentEvents (toLowerCase : String → String) (input : SyncChatUsageInput) (each : Synchronisation) :
    List RecordUsageEventInput :=
  match requestLog each.state with
  | none => []
  | some (header, log) => reportedEvents toLowerCase input header each.clock 0
      (log.takeWhile fun rawEntry => EntryInRange toLowerCase header rawEntry)

theorem sessionAccepted_run (accepted : SessionAccepted database.tables input header) :
    SessionAccepted (usageSystem.run database inputs).tables input header := by
  rw [run_tables]
  exact accepted

theorem synchronised_run (accepted : SessionAccepted database.tables input header)
    (extending : ∀ each ∈ synchronisations, each.Extends header log) :
    synchronised toLowerCase input synchronisations database =
      usageSystem.run database (synchronisations.flatMap (sentEvents toLowerCase input)) := by
  induction synchronisations generalizing database with
  | nil => rfl
  | cons each rest ih =>
      obtain ⟨appended, fetched⟩ := extending each List.mem_cons_self
      have now : (syncChatUsage toLowerCase input each.clock each.state database).1 =
          usageSystem.run database (sentEvents toLowerCase input each) := by
        unfold syncChatUsage
        split
        · rename_i absent
          rw [absent] at fetched
          cases fetched
        · simp only [fetched, sentEvents]
          exact syncEntries_run accepted
      have acceptedAfter := @sessionAccepted_run input header database (sentEvents toLowerCase input each) accepted
      rw [← now] at acceptedAfter
      rw [List.flatMap_cons, System.run_append, ← now]
      exact ih acceptedAfter fun other member => extending other (List.mem_cons_of_mem _ member)

theorem mem_sentEvents {each : Synchronisation} (fetched : requestLog each.state = some (header, log)) :
    reported ∈ sentEvents toLowerCase input each ↔
      ∃ position, ∃ fields ∈ (log[position]?).bind entryFields,
        (∀ rawEntry ∈ log.take (position + 1), EntryInRange toLowerCase header rawEntry) ∧
          entryEvent toLowerCase input header position fields.1 fields.2 (each.clock.now position) = reported := by
  simp only [sentEvents, fetched, reportedEvents, List.mem_filterMap, Prod.exists,
    List.mk_mem_zipIdx_iff_getElem?, getElem?_takeWhile, decide_eq_true_eq, reportedEvent, Option.map_eq_some_iff,
    Option.mem_def, Option.bind_eq_some_iff]
  constructor
  · rintro ⟨rawEntry, position, ⟨present, inRange⟩, entry, usage, told, same⟩
    exact ⟨position, entry, usage, ⟨rawEntry, present, told⟩, inRange, same⟩
  · rintro ⟨position, entry, usage, ⟨rawEntry, present, told⟩, inRange, same⟩
    exact ⟨rawEntry, position, ⟨present, inRange⟩, entry, usage, told, same⟩

/-- An accepted entry has its own identifier, in the scope of the session. -/
theorem acceptedEvent_entry {event : UsageEventRow}
    (admitted : acceptedEvent database.tables
      (entryEvent toLowerCase input header index entry usage now) = some event) :
    event.eventId = trim (usageEventId input.workspace.id input.chatName entry index) ∧
      usageScope event = sessionScope input := by
  obtain ⟨candidate, _⟩ := acceptedEvent_eq_some.mp admitted
  obtain ⟨_, rfl⟩ := usageEventCandidate_eq_ok.mp candidate
  exact ⟨rfl, rfl⟩

/-- What is sent under the identifier of an entry comes from the entry itself or from one
before it, and the loop has reached that one. -/
theorem carries_of_sent {each : Synchronisation} {event other : UsageEventRow}
    (own : Carries input log index event.eventId) (extending : each.Extends header log)
    (sent : reported ∈ sentEvents toLowerCase input each)
    (admitted : acceptedEvent database.tables reported = some other) (same : other.eventId = event.eventId) :
    ∃ first ≤ index, Carries input log first event.eventId ∧
      ∀ rawEntry ∈ log.take (first + 1), EntryInRange toLowerCase header rawEntry := by
  obtain ⟨appended, fetched⟩ := extending
  obtain ⟨position, found, told, inRange, rfl⟩ := (mem_sentEvents fetched).mp sent
  have within : index < log.length := by
    obtain ⟨fields, present, _⟩ := own
    by_contra beyond
    rw [List.getElem?_eq_none (by omega)] at present
    cases present
  by_cases late : index < position
  · -- the loop went past the entry itself
    refine ⟨index, le_rfl, own, fun rawEntry member => inRange rawEntry ?_⟩
    rw [← List.take_append_of_le_length (show index + 1 ≤ log.length by omega)] at member
    exact List.take_subset_take_left _ (by omega) member
  · refine ⟨position, by omega, ⟨found, ?_, ?_⟩, fun rawEntry member => inRange rawEntry ?_⟩
    · rwa [List.getElem?_append_left (by omega)] at told
    · rw [← (acceptedEvent_entry admitted).1, same]
    · rwa [List.take_append_of_le_length (by omega)]

/-- The first entry of an identifier is sent and accepted when the loop reaches it. -/
theorem sent_of_carries {each : Synchronisation} {first : Nat} (session : SessionAccepted database.tables input header)
    (extending : each.Extends header log) (carries : Carries input log first eventId)
    (inRange : ∀ rawEntry ∈ log.take (first + 1), EntryInRange toLowerCase header rawEntry) :
    ∃ reported ∈ sentEvents toLowerCase input each, ∃ event,
      acceptedEvent database.tables reported = some event ∧ event.eventId = eventId := by
  obtain ⟨appended, fetched⟩ := extending
  obtain ⟨fields, told, same⟩ := carries
  obtain ⟨rawEntry, atFirst, fieldsFound⟩ := Option.bind_eq_some_iff.mp told
  have within : first < log.length := (List.getElem?_eq_some_iff.mp atFirst).1
  have own : EntryInRange toLowerCase header rawEntry := by
    apply inRange
    apply @List.mem_of_getElem? _ _ first
    rw [List.getElem?_take_of_lt (by omega)]
    exact atFirst
  obtain ⟨event, admitted⟩ := (@entryEvent_accepted toLowerCase input header database fields.1 fields.2
    (each.clock.now first) first (each.clock.valid first)).mpr ⟨session, own fields fieldsFound⟩
  refine ⟨_, (mem_sentEvents fetched).mpr ⟨first, fields, ?_, ?_, rfl⟩, event, admitted,
    (acceptedEvent_entry admitted).1.trans same⟩
  · rwa [List.getElem?_append_left within]
  · rwa [List.take_append_of_le_length (by omega)]

end Specs

section Sample

/-- The chat "plans" of the workspace of acme. -/
def plansChat : SyncChatUsageInput where
  workspace := ⟨"w1", "m1", "acme", none, none, Resources.zero, .ready, 1, 1⟩
  chatName := "plans"
  displayName := none

/-- An entry of the log, by its identifier and its time. -/
def logEntry (eventId : String) (createdAt : Rat) : Json :=
  .object [("event_id", .string eventId), ("created_at", .number createdAt),
    ("usage", .object [("prompt_tokens", .number 10), ("cost_usd", .number 1)])]

def fetchedLog (log : List Json) : Synchronisation where
  clock := ⟨fun _ => 1000, fun _ => by decide⟩
  state := .object [("provider", .string "acme"), ("llm_request_log", .array log)]

end Sample

end NebulaCloud.Usage
