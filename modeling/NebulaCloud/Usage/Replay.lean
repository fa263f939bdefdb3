import NebulaCloud.Data.System
import NebulaCloud.Usage.Isolation

namespace NebulaCloud.Usage

open NebulaCloud.Data NebulaCloud.Database NebulaCloud.Platform

/-! # Replays of usage events

The runtimes deliver an event again and again, sometimes with a price or a name that
it did not have before.  Each column of its row is merged by a rule of its own. -/

/-! ## The columns -/

/-- The first value that is not zero. -/
def firstNonZero (values : List Int) : Int := (values.find? (· ≠ 0)).getD 0

/-- The last value that is present. -/
def lastPresent (values : List (Option String)) : Option String := (values.filterMap id).getLast?

/-- The row that the deliveries of an event amount to. -/
def merged : List UsageEventRow → Option UsageEventRow
  | [] => none
  | first :: later => some { first with
      sessionDisplayName := lastPresent ((first :: later).map (·.sessionDisplayName))
      estimatedCostMicrousd := firstNonZero ((first :: later).map (·.estimatedCostMicrousd))
      cacheSavingsMicrousd := firstNonZero ((first :: later).map (·.cacheSavingsMicrousd)) }

section Columns

variable {values earlier : List Int} {names earlierNames : List (Option String)}

theorem firstNonZero_append : firstNonZero (earlier ++ values) =
    if firstNonZero earlier = 0 then firstNonZero values else firstNonZero earlier := by
  unfold firstNonZero
  rw [List.find?_append]
  cases found : earlier.find? (· ≠ 0) with
  | none => simp
  | some value =>
      have nonZero : value ≠ 0 := by simpa using List.find?_some found
      simp [nonZero]

theorem lastPresent_append :
    lastPresent (earlierNames ++ names) = (lastPresent names).or (lastPresent earlierNames) := by
  unfold lastPresent
  rw [List.filterMap_append, List.getLast?_append]

theorem firstNonZero_singleton (value : Int) : firstNonZero [value] = value := by
  unfold firstNonZero
  by_cases zero : value = 0 <;> simp [zero]

theorem lastPresent_singleton (name : Option String) : lastPresent [name] = name := by
  cases name <;> rfl

theorem firstNonZero_absorbs (suffix : values <:+ earlier) :
    firstNonZero (earlier ++ values) = firstNonZero earlier := by
  obtain ⟨before, rfl⟩ := suffix
  rw [firstNonZero_append]
  by_cases zero : firstNonZero (before ++ values) = 0
  · rw [if_pos zero, zero]
    rw [firstNonZero_append] at zero
    by_cases first : firstNonZero before = 0
    · rwa [if_pos first] at zero
    · rw [if_neg first] at zero
      exact absurd zero first
  · rw [if_neg zero]

theorem lastPresent_absorbs (suffix : names <:+ earlierNames) :
    lastPresent (earlierNames ++ names) = lastPresent earlierNames := by
  obtain ⟨before, rfl⟩ := suffix
  rw [lastPresent_append, lastPresent_append]
  cases lastPresent names <;> simp

end Columns

/-! ## Deliveries -/

/-- The delivery passes validation and the scope guard. -/
def acceptedEvent (tables : Tables) (input : RecordUsageEventInput) : Option UsageEventRow :=
  match usageEventCandidate input with
  | .ok event => if event.InScope tables then some event else none
  | .error _ => none

def usageSystem : System CloudDatabase RecordUsageEventInput where
  Initial database := database.tables.usageEvents = []
  Enabled _ _ := True
  step database input := (commit database (recordUsageEvent database input)).1

/-- The accepted deliveries of an event, oldest first; a row that is already there
counts as the first one. -/
def delivered (database : CloudDatabase) (inputs : List RecordUsageEventInput) (eventId : String) :
    List UsageEventRow :=
  (lookup (·.eventId) database.tables.usageEvents eventId).toList ++
    (inputs.filterMap (acceptedEvent database.tables)).filter (·.eventId = eventId)

structure UsageTotals where
  modelTurns : Int
  inputTokens : Int
  outputTokens : Int
  cachedTokens : Int
  reasoningTokens : Int
  totalTokens : Int
  estimatedCostMicrousd : Int
  cacheSavingsMicrousd : Int
deriving DecidableEq, Repr

def usageTotals (rows : List UsageEventRow) : UsageTotals :=
  let inputTokens := (rows.map (·.inputTokens)).sum
  let outputTokens := (rows.map (·.outputTokens)).sum
  { modelTurns := rows.length
    inputTokens, outputTokens
    cachedTokens := (rows.map (·.cachedTokens)).sum
    reasoningTokens := (rows.map (·.reasoningTokens)).sum
    totalTokens := inputTokens + outputTokens
    estimatedCostMicrousd := (rows.map (·.estimatedCostMicrousd)).sum
    cacheSavingsMicrousd := (rows.map (·.cacheSavingsMicrousd)).sum }

section Replay

variable {database after : CloudDatabase} {input : RecordUsageEventInput}
  {inputs : List RecordUsageEventInput} {event excluded stored : UsageEventRow} {eventId : String}
  {events later : List UsageEventRow}

/-- The conflict is updated exactly when that changes the row. -/
theorem enriches_iff (checks : excluded.Checks) :
    excluded.enriches stored = true ↔ excluded.enriched stored ≠ stored := by
  obtain ⟨_, _, _, _, cost, _, savings⟩ := checks
  have same : excluded.enriched stored = stored ↔
      excluded.sessionDisplayName.or stored.sessionDisplayName = stored.sessionDisplayName ∧
        (if stored.estimatedCostMicrousd = 0 then excluded.estimatedCostMicrousd
          else stored.estimatedCostMicrousd) = stored.estimatedCostMicrousd ∧
        (if stored.cacheSavingsMicrousd = 0 then excluded.cacheSavingsMicrousd
          else stored.cacheSavingsMicrousd) = stored.cacheSavingsMicrousd := by
    unfold UsageEventRow.enriched
    constructor
    · intro equal
      exact ⟨congrArg (·.sessionDisplayName) equal, congrArg (·.estimatedCostMicrousd) equal,
        congrArg (·.cacheSavingsMicrousd) equal⟩
    · rintro ⟨name, price, saved⟩
      rw [name, price, saved]
  have name : excluded.sessionDisplayName.or stored.sessionDisplayName = stored.sessionDisplayName ↔
      ¬ (excluded.sessionDisplayName.isSome = true ∧
        excluded.sessionDisplayName ≠ stored.sessionDisplayName) := by
    cases excluded.sessionDisplayName <;> simp
  have figure : ∀ fresh kept : Int, 0 ≤ fresh →
      ((if kept = 0 then fresh else kept) = kept ↔ ¬ (kept = 0 ∧ 0 < fresh)) := by
    intro fresh kept nonNegative
    split <;> omega
  have negated : ∀ first second third : Prop,
      ¬ (¬ first ∧ ¬ second ∧ ¬ third) ↔ first ∨ second ∨ third := by
    intro first second third
    rw [← not_or, ← not_or, not_not]
  rw [ne_eq, same, name, figure _ _ cost, figure _ _ savings, negated]
  simp only [UsageEventRow.enriches, Bool.or_eq_true, Bool.and_eq_true, decide_eq_true_eq, or_assoc]

/-- One more delivery, whether the conflict is updated or not. -/
theorem upserted_eq (checks : excluded.Checks) (row : Option UsageEventRow) :
    upserted UsageEventRow.enriches UsageEventRow.enriched excluded row =
      match row with
      | none => excluded
      | some stored => excluded.enriched stored := by
  cases row with
  | none => rfl
  | some stored =>
      simp only [upserted]
      by_cases changes : excluded.enriches stored = true
      · rw [if_pos changes]
      · rw [if_neg changes]
        exact (not_not.mp ((enriches_iff checks).not.mp changes)).symm

theorem merged_singleton : merged [event] = some event := by
  simp [merged, firstNonZero_singleton, lastPresent_singleton]

theorem merged_append_one (checks : excluded.Checks) : merged (events ++ [excluded]) =
    some (upserted UsageEventRow.enriches UsageEventRow.enriched excluded (merged events)) := by
  rw [upserted_eq checks]
  cases events with
  | nil => exact merged_singleton
  | cons first rest =>
      simp only [merged, List.cons_append, UsageEventRow.enriched]
      rw [← List.cons_append, List.map_append, List.map_append, List.map_append, lastPresent_append,
        firstNonZero_append, firstNonZero_append]
      simp only [List.map_cons, List.map_nil, firstNonZero_singleton, lastPresent_singleton]

theorem merged_absorbs (suffix : later <:+ events) : merged (events ++ later) = merged events := by
  cases events with
  | nil =>
      rw [List.suffix_nil.mp suffix]
      rfl
  | cons first rest =>
      simp only [merged, List.cons_append]
      rw [← List.cons_append, List.map_append, List.map_append, List.map_append,
        lastPresent_absorbs (suffix.map _), firstNonZero_absorbs (suffix.map _),
        firstNonZero_absorbs (suffix.map _)]

/-! ## One delivery -/

theorem lookup_upsertUsageEvent (rows : List UsageEventRow) :
    lookup (·.eventId) (upsertUsageEvent event rows).1 eventId =
      if event.eventId = eventId then
        some (upserted UsageEventRow.enriches UsageEventRow.enriched event
          (lookup (·.eventId) rows event.eventId))
      else lookup (·.eventId) rows eventId := by
  refine (lookup_upsert fun _ same => same).trans ?_
  split
  · rename_i same
    rw [same]
  · rfl

theorem acceptedEvent_eq_some : acceptedEvent database.tables input = some event ↔
    usageEventCandidate input = .ok event ∧ event.InScope database.tables := by
  unfold acceptedEvent
  cases usageEventCandidate input with
  | error failure => simp
  | ok candidate =>
      simp only [Option.ite_none_right_eq_some, Option.some.injEq, Except.ok.injEq]
      constructor
      · rintro ⟨inScope, rfl⟩
        exact ⟨rfl, inScope⟩
      · rintro ⟨rfl, inScope⟩
        exact ⟨inScope, rfl⟩

theorem step_accepted (accepted : acceptedEvent database.tables input = some event) :
    (usageSystem.step database input).tables = { database.tables with
      usageEvents := (upsertUsageEvent event database.tables.usageEvents).1 } := by
  obtain ⟨candidate, inScope⟩ := acceptedEvent_eq_some.mp accepted
  obtain ⟨after, recorded, written⟩ := recordUsageEvent_of_inScope candidate inScope
  simp only [usageSystem, recorded, commit_ok, written]

theorem recordUsageEvent_refused (refused : acceptedEvent database.tables input = none) :
    ∃ failure, recordUsageEvent database input = .error failure := by
  cases candidate : usageEventCandidate input with
  | error failure => exact ⟨failure, by simp [recordUsageEvent, candidate, bind, Except.bind]⟩
  | ok event =>
      have outside : ¬ event.InScope database.tables := by
        intro inScope
        rw [acceptedEvent_eq_some.mpr ⟨candidate, inScope⟩] at refused
        cases refused
      exact ⟨_, by simp only [recordUsageEvent, candidate, bind, Except.bind, if_pos outside]; rfl⟩

theorem step_refused (refused : acceptedEvent database.tables input = none) :
    usageSystem.step database input = database := by
  obtain ⟨failure, thrown⟩ := recordUsageEvent_refused refused
  simp only [usageSystem, thrown, commit_error]

/-! ## Sequences of deliveries -/

/-- Deliveries write the usage table alone. -/
theorem run_tables : (usageSystem.run database inputs).tables = { database.tables with
    usageEvents := (usageSystem.run database inputs).tables.usageEvents } := by
  induction inputs generalizing database with
  | nil => rfl
  | cons input rest ih =>
      rw [System.run_cons, ih]
      cases accepted : acceptedEvent database.tables input with
      | none => rw [step_refused accepted]
      | some event => rw [step_accepted accepted]

/-- What the guard admits does not depend on the events recorded before. -/
theorem acceptedEvent_run (input : RecordUsageEventInput) :
    acceptedEvent (usageSystem.run database inputs).tables input = acceptedEvent database.tables input := by
  rw [run_tables]
  rfl

theorem delivered_append (again : List RecordUsageEventInput) :
    delivered database (inputs ++ again) eventId = delivered database inputs eventId ++
      (again.filterMap (acceptedEvent database.tables)).filter (·.eventId = eventId) := by
  simp only [delivered, List.filterMap_append, List.filter_append, List.append_assoc]

/-- What an identifier holds after the deliveries. -/
theorem lookup_run : lookup (·.eventId) (usageSystem.run database inputs).tables.usageEvents eventId =
    merged (delivered database inputs eventId) := by
  induction inputs using List.reverseRecOn with
  | nil =>
      simp only [delivered, System.run_nil, List.filterMap_nil, List.filter_nil, List.append_nil]
      cases lookup (·.eventId) database.tables.usageEvents eventId with
      | none => rfl
      | some row => exact merged_singleton.symm
  | append_singleton earlier input ih =>
      rw [System.run_append, System.run_cons, System.run_nil, delivered_append]
      have admitted := @acceptedEvent_run database earlier input
      cases accepted : acceptedEvent database.tables input with
      | none =>
          rw [step_refused (admitted.trans accepted), ih]
          simp [accepted]
      | some event =>
          have checks := usageEventCandidate_checks (acceptedEvent_eq_some.mp accepted).1
          rw [step_accepted (admitted.trans accepted)]
          simp only [lookup_upsertUsageEvent, List.filterMap_cons_some accepted, List.filterMap_nil,
            List.filter_cons, List.filter_nil]
          by_cases same : event.eventId = eventId
          · subst same
            rw [if_pos rfl, if_pos (by simp), merged_append_one checks, ih]
          · rw [if_neg same, if_neg (by simpa using same), List.append_nil, ih]

/-- The part of a row that its first delivery fixes. -/
def fixedPart (event : UsageEventRow) : UsageEventRow :=
  { event with sessionDisplayName := none, estimatedCostMicrousd := 0, cacheSavingsMicrousd := 0 }

/-- Events that are known already add no row and change no fixed part. -/
theorem fixedParts_run (known : ∀ event ∈ inputs.filterMap (acceptedEvent database.tables),
      event.eventId ∈ database.tables.usageEvents.map (·.eventId)) :
    (usageSystem.run database inputs).tables.usageEvents.map fixedPart =
      database.tables.usageEvents.map fixedPart := by
  induction inputs using List.reverseRecOn with
  | nil => rfl
  | append_singleton earlier input ih =>
      rw [List.filterMap_append] at known
      have same := ih fun event member => known event (List.mem_append_left _ member)
      rw [System.run_append, System.run_cons, System.run_nil]
      have admitted := @acceptedEvent_run database earlier input
      cases accepted : acceptedEvent database.tables input with
      | none => rw [step_refused (admitted.trans accepted), same]
      | some event =>
          have listed := known event (List.mem_append_right _ (by simp [accepted]))
          have sameIds := congrArg (List.map (·.eventId)) same
          simp only [List.map_map] at sameIds
          have stored : event.eventId ∈ (usageSystem.run database earlier).tables.usageEvents.map (·.eventId) := by
            have ids : (fun event : UsageEventRow => event.eventId) ∘ fixedPart = (·.eventId) := rfl
            rw [ids] at sameIds
            rwa [sameIds]
          rw [step_accepted (admitted.trans accepted), ← same]
          simp only [upsertUsageEvent, upsert]
          cases found : lookup (·.eventId) (usageSystem.run database earlier).tables.usageEvents
              event.eventId with
          | none =>
              obtain ⟨row, member, id⟩ := List.mem_map.mp stored
              exact absurd id (lookup_eq_none.mp found row member)
          | some row =>
              simp only
              split
              · exact map_updateWhere fun _ => rfl
              · rfl

/-- What has been delivered last, delivered once more. -/
theorem run_again {again : List RecordUsageEventInput} (suffix : again <:+ inputs) :
    (usageSystem.run database (inputs ++ again)).tables = (usageSystem.run database inputs).tables := by
  have accepted := suffix.filterMap (acceptedEvent database.tables)
  have rows : (usageSystem.run database (inputs ++ again)).tables.usageEvents =
      (usageSystem.run database inputs).tables.usageEvents := by
    apply eq_of_lookups ((usageSystem.run database inputs).consistent .usageEventId)
    · have same : (usageSystem.run (usageSystem.run database inputs) again).tables.usageEvents.map fixedPart =
          (usageSystem.run database inputs).tables.usageEvents.map fixedPart := by
        apply fixedParts_run
        intro event member
        rw [funext (@acceptedEvent_run database inputs)] at member
        have present : event ∈ delivered database inputs event.eventId :=
          List.mem_append_right _ (List.mem_filter.mpr ⟨accepted.subset member, by simp⟩)
        cases found : lookup (·.eventId) (usageSystem.run database inputs).tables.usageEvents
            event.eventId with
        | some row => exact List.mem_map.mpr ⟨row, lookup_mem found, lookup_key found⟩
        | none =>
            rw [lookup_run] at found
            cases all : delivered database inputs event.eventId with
            | nil => simp [all] at present
            | cons first rest =>
                rw [all] at found
                cases found
      have sameIds := congrArg (List.map (·.eventId)) same
      simp only [List.map_map] at sameIds
      rw [System.run_append]
      exact sameIds
    · intro eventId
      rw [lookup_run, lookup_run, delivered_append]
      exact merged_absorbs ((accepted.filter _).trans (List.suffix_append _ _))
  rw [run_tables, rows, ← run_tables]

theorem run_replays (times : Nat) :
    (usageSystem.run database (inputs ++ (List.replicate times inputs).flatten)).tables =
      (usageSystem.run database inputs).tables := by
  induction times with
  | zero => simp
  | succ times ih =>
      have last : inputs <:+ inputs ++ (List.replicate times inputs).flatten := by
        cases times with
        | zero => simp
        | succ earlier =>
            rw [List.replicate_succ', List.flatten_concat, ← List.append_assoc]
            exact List.suffix_append _ _
      rw [List.replicate_succ', List.flatten_concat, ← List.append_assoc, run_again last, ih]

/-- A delivery tells whether it inserted or changed a row. -/
theorem recordUsageEvent_changed {changed : Bool}
    (recorded : recordUsageEvent database input = .ok (after, changed)) :
    changed = true ↔ after.tables.usageEvents ≠ database.tables.usageEvents := by
  obtain ⟨event, candidate, recorded⟩ := bind_ok.mp recorded
  have checks := usageEventCandidate_checks candidate
  by_cases inScope : event.InScope database.tables
  · rw [if_neg (not_not.mpr inScope), if_neg (not_not.mpr checks)] at recorded
    obtain ⟨written, executed, recorded⟩ := bind_ok.mp recorded
    cases recorded
    rw [Store.execute_ok.mp executed]
    exact upsert_changed fun stored accepts => (enriches_iff checks).mp accepts
  · rw [if_pos inScope] at recorded
    cases recorded

end Replay

end NebulaCloud.Usage
