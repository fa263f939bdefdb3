import NebulaCloud.Database.Membership
import NebulaCloud.Platform.Json

namespace NebulaCloud.Database

open NebulaCloud.Data NebulaCloud.Platform

/-! # Platform controls and the operations log

Three durable switches, and the log of what platform administrators do. -/

/-! ## Audit metadata -/

inductive AuditMetadataValue
  | null
  | boolean (value : Bool)
  | count (value : Nat)
  | string (text : String)
deriving DecidableEq, Repr

def AuditMetadataValue.json : AuditMetadataValue → List Char
  | .null => "null".toList
  | .boolean true => "true".toList
  | .boolean false => "false".toList
  | .count value => (toString value).toList
  | .string text => jsonText text

/-- A string that is not too long, or another scalar. -/
def AuditMetadataValue.Short : AuditMetadataValue → Prop
  | .string text => utf16Length text ≤ 256
  | _ => True

instance : (value : AuditMetadataValue) → Decidable value.Short
  | .string text => inferInstanceAs (Decidable (utf16Length text ≤ 256))
  | .null | .boolean _ | .count _ => .isTrue trivial

/-- `JSON.stringify` of an object. -/
def metadataJson (metadata : List (String × AuditMetadataValue)) : List Char :=
  let fields := metadata.map fun entry => jsonText entry.1 ++ ':' :: entry.2.json
  '\x7b' :: [','].intercalate fields ++ ['\x7d']

/-- The entries come in the order of their keys, into which the source sorts them. -/
def serializeAuditMetadata (metadata : List (String × AuditMetadataValue)) : Except Failure String :=
  if 16 < metadata.length then
    .error (.typeError "audit metadata may contain at most 16 fields")
  else if ∃ entry ∈ metadata, isAuditIdentifier entry.1 = false then
    .error (.typeError "audit metadata keys must be identifiers")
  else if ∃ entry ∈ metadata, ¬ entry.2.Short then
    .error (.typeError "audit metadata strings may contain at most 256 characters")
  else if 4096 < utf8Length (metadataJson metadata) then
    .error (.typeError "audit metadata may contain at most 4096 bytes")
  else .ok (String.ofList (metadataJson metadata))

/-! ## Controls -/

def getPlatformControl (database : CloudDatabase) (name : PlatformControlName) :
    Except Failure PlatformControlRow :=
  match lookup (·.name) database.tables.platformControls name with
  | none => .error (.error ("Platform control " ++ name.text ++ " is missing"))
  | some control => .ok control

def isPlatformControlPaused (database : CloudDatabase) (name : PlatformControlName) :
    Except Failure Bool := do
  let control ← getPlatformControl database name
  .ok control.paused

/-- `/[\u0000-\u001f\u007f]/`. -/
def hasControlCharacter (text : String) : Bool :=
  text.toList.any fun c => c.toNat ≤ 0x1F || c.toNat = 0x7F

/-- A trimmed name of a platform administrator. -/
def IsActor (actor : String) : Prop :=
  actor ≠ "" ∧ utf16Length actor ≤ 128 ∧ hasControlCharacter actor = false

instance (actor : String) : Decidable (IsActor actor) := inferInstanceAs (Decidable (_ ∧ _))

/-- `eventId` is the identifier that the platform generates for the audit event. -/
structure SetPlatformControlInput where
  name : PlatformControlName
  paused : Bool
  reason : String
  actor : String
  eventId : String
  now : Int
deriving DecidableEq, Repr

/-- `UPDATE platform_control SET … WHERE name = ?`. -/
def updateControl (input : SetPlatformControlInput) (tables : Tables) : Tables :=
  { tables with
    platformControls := updateWhere (fun control => control.name = input.name)
      (fun control =>
        { control with
          paused := input.paused
          reason := trim input.reason
          updatedBy := trim input.actor
          updatedAt := input.now })
      tables.platformControls }

/-- The audit event of an update. -/
def controlAuditEvent (input : SetPlatformControlInput) (previous : PlatformControlRow) :
    PlatformControlAuditEventRow where
  eventId := input.eventId
  actor := trim input.actor
  controlName := input.name
  previousPaused := previous.paused
  paused := input.paused
  reason := trim input.reason
  occurredAt := input.now

/-- The transaction of `setPlatformControl`. -/
def controlUpdate (database : CloudDatabase) (input : SetPlatformControlInput) :
    Except Failure (CloudDatabase × PlatformControlRow) := do
  let previous ← getPlatformControl database input.name
  let database ← statement database (updateControl input)
  let database ← statement database fun tables =>
    { tables with
      platformControlAuditEvents :=
        tables.platformControlAuditEvents ++ [controlAuditEvent input previous] }
  let control ← getPlatformControl database input.name
  .ok (database, control)

def setPlatformControl (database : CloudDatabase) (input : SetPlatformControlInput) :
    Except Failure (CloudDatabase × PlatformControlRow) :=
  if trim input.reason = "" ∨ 256 < utf16Length (trim input.reason) then
    .error (.typeError "Platform control reason must contain 1 to 256 characters")
  else if ¬ IsActor (trim input.actor) then
    .error (.typeError "Platform control actor must contain 1 to 128 printable characters")
  else if ¬ IsNonNegativeSafeInteger input.now then
    .error (.typeError "Platform control timestamp is invalid")
  else controlUpdate database input

/-! ## The operations log -/

/-- The callers record successes; `eventId` is the identifier that the platform
generates. -/
structure RecordPlatformOperationInput where
  actor : String
  action : String
  targetType : String
  targetId : String
  metadata : List (String × AuditMetadataValue)
  eventId : String
  now : Int
deriving DecidableEq, Repr

/-- The row that the log gets. -/
def platformOperationEvent (input : RecordPlatformOperationInput) :
    Except Failure PlatformOperationAuditEventRow :=
  if ¬ IsActor (trim input.actor) then
    .error (.typeError "Platform audit actor must contain 1 to 128 printable characters")
  else do
    let action ← requireAuditIdentifier input.action "action"
    let targetType ← requireAuditIdentifier input.targetType "targetType"
    let targetId ← requireAuditIdentifier input.targetId "targetId"
    let metadataJson ← serializeAuditMetadata input.metadata
    if ¬ IsNonNegativeSafeInteger input.now then
      .error (.typeError "Platform audit timestamp is invalid")
    else
      .ok
        { eventId := input.eventId
          actor := trim input.actor
          action
          targetType
          targetId
          metadataJson
          occurredAt := input.now }

def recordPlatformOperationAuditEvent (database : CloudDatabase) (input : RecordPlatformOperationInput) :
    Except Failure CloudDatabase := do
  let event ← platformOperationEvent input
  statement database fun tables =>
    { tables with
      platformOperationAuditEvents := tables.platformOperationAuditEvents ++ [event] }

section Specs

variable {database after : CloudDatabase} {name : PlatformControlName}

theorem setPlatformControl_ok {input : SetPlatformControlInput} {control : PlatformControlRow}
    (updated : setPlatformControl database input = .ok (after, control)) :
    ∃ previous, getPlatformControl database input.name = .ok previous ∧
      after.tables = { updateControl input database.tables with
        platformControlAuditEvents :=
          database.tables.platformControlAuditEvents ++ [controlAuditEvent input previous] } := by
  unfold setPlatformControl at updated
  split at updated
  · cases updated
  · split at updated
    · cases updated
    · split at updated
      · cases updated
      · obtain ⟨previous, found, updated⟩ := bind_ok.mp updated
        obtain ⟨written, update, updated⟩ := bind_ok.mp updated
        obtain ⟨audited, audit, updated⟩ := bind_ok.mp updated
        obtain ⟨_, _, returned⟩ := bind_ok.mp updated
        cases returned
        refine ⟨previous, found, ?_⟩
        rw [Store.execute_ok.mp audit, Store.execute_ok.mp update]
        rfl

/-! The audit writer's own checks decide whether an event is stored. -/

theorem isAuditCharacter_visible {c : Char} (allowed : isAuditStart c = true) : c ≠ '\x00' := by
  rintro rfl
  contradiction

theorem LengthBetween.of_auditIdentifier {text : String} (valid : isAuditIdentifier text = true) :
    LengthBetween text 128 := by
  unfold isAuditIdentifier at valid
  split at valid
  · contradiction
  · rename_i first rest characters
    simp only [Bool.and_eq_true, decide_eq_true_eq] at valid
    have bounded := sqlLength_le_length text
    rw [characters, List.length_cons] at bounded
    exact ⟨one_le_sqlLength characters (isAuditCharacter_visible valid.1.1), by omega⟩

theorem LengthBetween.of_actor {actor : String} (valid : IsActor actor) : LengthBetween actor 128 := by
  obtain ⟨nonempty, short, visible⟩ := valid
  have bounded := (sqlLength_le_length actor).trans (length_le_utf16Length actor)
  cases characters : actor.toList with
  | nil => exact absurd (String.toList_eq_nil_iff.mp characters) nonempty
  | cons first rest =>
      refine ⟨one_le_sqlLength characters ?_, by omega⟩
      rintro rfl
      simp [hasControlCharacter, characters] at visible

theorem serializeAuditMetadata_ok {metadata : List (String × AuditMetadataValue)} {text : String} :
    serializeAuditMetadata metadata = .ok text ↔
      metadata.length ≤ 16 ∧ (∀ entry ∈ metadata, isAuditIdentifier entry.1 = true) ∧
        (∀ entry ∈ metadata, entry.2.Short) ∧ utf8Length (metadataJson metadata) ≤ 4096 ∧
        text = String.ofList (metadataJson metadata) := by
  unfold serializeAuditMetadata
  split
  · rename_i tooMany
    simp [Nat.not_le.mpr tooMany]
  · rename_i few
    split
    · rename_i unnamed
      obtain ⟨entry, member, invalid⟩ := unnamed
      simp only [reduceCtorEq, false_iff]
      rintro ⟨_, named, _⟩
      rw [named entry member] at invalid
      contradiction
    · rename_i named
      split
      · rename_i long
        obtain ⟨entry, member, tooLong⟩ := long
        simp only [reduceCtorEq, false_iff]
        rintro ⟨_, _, short, _⟩
        exact tooLong (short entry member)
      · rename_i short
        split
        · rename_i large
          simp [Nat.not_le.mpr large]
        · rename_i small
          simp only [Except.ok.injEq]
          constructor
          · rintro rfl
            refine ⟨Nat.not_lt.mp few, fun entry member => ?_, fun entry member => ?_,
              Nat.not_lt.mp small, rfl⟩
            · exact Bool.ne_false_iff.mp fun invalid => named ⟨entry, member, invalid⟩
            · exact not_not.mp fun long => short ⟨entry, member, long⟩
          · rintro ⟨_, _, _, _, rfl⟩
            rfl

theorem utf8Length_intercalate_le (fields : List (List Char)) :
    utf8Length ([','].intercalate fields) ≤ (fields.map fun field => utf8Length field + 1).sum := by
  have comma : utf8Length [','] = 1 := rfl
  induction fields with
  | nil => simp [utf8Length]
  | cons field rest ih =>
      cases rest with
      | nil => simp
      | cons next others =>
          rw [List.intercalate_cons_cons, utf8Length_append, utf8Length_append, List.map_cons,
            List.sum_cons]
          omega

/-- Each field takes its key, its value, a colon and at most one comma. -/
theorem utf8Length_metadataJson_le (metadata : List (String × AuditMetadataValue)) :
    utf8Length (metadataJson metadata) ≤
      (metadata.map fun entry => utf8Length (jsonText entry.1) + utf8Length entry.2.json + 2).sum + 2 := by
  have fields := utf8Length_intercalate_le
    (metadata.map fun entry => jsonText entry.1 ++ ':' :: entry.2.json)
  have sizes : (metadata.map fun entry => jsonText entry.1 ++ ':' :: entry.2.json).map
      (fun field => utf8Length field + 1) =
      metadata.map fun entry => utf8Length (jsonText entry.1) + utf8Length entry.2.json + 2 := by
    rw [List.map_map]
    refine List.map_congr_left fun entry _ => ?_
    have colon : (':' : Char).utf8Size = 1 := rfl
    simp only [Function.comp_apply, utf8Length_append, utf8Length_cons, colon]
    omega
  have braces : ('\x7b' : Char).utf8Size = 1 ∧ utf8Length ['\x7d'] = 1 := by decide
  rw [sizes] at fields
  simp only [metadataJson, utf8Length_cons, utf8Length_append, braces.1, braces.2]
  omega

/-- What the audit writer asks of an event. -/
structure Auditable (input : RecordPlatformOperationInput) : Prop where
  actor : IsActor (trim input.actor)
  action : isAuditIdentifier (trim input.action) = true
  targetType : isAuditIdentifier (trim input.targetType) = true
  targetId : isAuditIdentifier (trim input.targetId) = true
  metadata : ∃ text, serializeAuditMetadata input.metadata = .ok text
  timestamp : IsNonNegativeSafeInteger input.now

theorem platformOperationEvent_ok {input : RecordPlatformOperationInput}
    {event : PlatformOperationAuditEventRow} :
    platformOperationEvent input = .ok event ↔
      Auditable input ∧ ∃ text, serializeAuditMetadata input.metadata = .ok text ∧
        event =
          { eventId := input.eventId
            actor := trim input.actor
            action := trim input.action
            targetType := trim input.targetType
            targetId := trim input.targetId
            metadataJson := text
            occurredAt := input.now } := by
  unfold platformOperationEvent
  split
  · rename_i anonymous
    simp only [reduceCtorEq, false_iff]
    exact fun accepted => anonymous accepted.1.actor
  · rename_i actor
    simp only [bind_ok, requireAuditIdentifier_ok]
    constructor
    · rintro ⟨_, ⟨action, rfl⟩, _, ⟨targetType, rfl⟩, _, ⟨targetId, rfl⟩, text, serialized, stored⟩
      split at stored
      · cases stored
      · rename_i timestamp
        cases stored
        exact ⟨⟨not_not.mp actor, action, targetType, targetId, ⟨text, serialized⟩,
          not_not.mp timestamp⟩, text, serialized, rfl⟩
    · rintro ⟨auditable, text, serialized, rfl⟩
      refine ⟨_, ⟨auditable.action, rfl⟩, _, ⟨auditable.targetType, rfl⟩, _,
        ⟨auditable.targetId, rfl⟩, text, serialized, ?_⟩
      rw [if_neg (not_not.mpr auditable.timestamp)]

theorem platformOperationEvent_checks {input : RecordPlatformOperationInput}
    {event : PlatformOperationAuditEventRow} (accepted : platformOperationEvent input = .ok event) :
    event.Checks := by
  obtain ⟨auditable, text, serialized, rfl⟩ := platformOperationEvent_ok.mp accepted
  obtain ⟨_, _, _, small, rfl⟩ := serializeAuditMetadata_ok.mp serialized
  refine ⟨.of_actor auditable.actor, .of_auditIdentifier auditable.action,
    .of_auditIdentifier auditable.targetType, .of_auditIdentifier auditable.targetId, ?_,
    auditable.timestamp.1⟩
  have characters := sqlLength_le_length (String.ofList (metadataJson input.metadata))
  rw [String.toList_ofList] at characters
  exact characters.trans ((length_le_utf8Length _).trans small)

theorem consistent_of_operationEvents (database : CloudDatabase)
    {platformOperationAuditEvents : List PlatformOperationAuditEventRow}
    (distinct : (platformOperationAuditEvents.map (·.eventId)).Nodup)
    (checks : ∀ event ∈ platformOperationAuditEvents, event.Checks) :
    schema.Consistent { database.tables with platformOperationAuditEvents } := by
  intro constraint
  have held := database.consistent constraint
  cases constraint with
  | operationAuditId => exact distinct
  | operationAuditChecks => exact checks
  | _ => exact held

/-- Under a fresh identifier the event is stored exactly when the writer's checks
pass. -/
theorem recordPlatformOperationAuditEvent_of_auditable {input : RecordPlatformOperationInput}
    (auditable : Auditable input)
    (fresh : ∀ event ∈ database.tables.platformOperationAuditEvents, event.eventId ≠ input.eventId) :
    ∃ after event, event.eventId = input.eventId ∧
      recordPlatformOperationAuditEvent database input = .ok after ∧
      after.tables = { database.tables with
        platformOperationAuditEvents := database.tables.platformOperationAuditEvents ++ [event] } := by
  obtain ⟨text, serialized⟩ := auditable.metadata
  obtain ⟨event, accepted⟩ : ∃ event, platformOperationEvent input = .ok event :=
    ⟨_, platformOperationEvent_ok.mpr ⟨auditable, text, serialized, rfl⟩⟩
  have checks := platformOperationEvent_checks accepted
  obtain ⟨_, _, _, stored⟩ := platformOperationEvent_ok.mp accepted
  have distinct : ((database.tables.platformOperationAuditEvents ++ [event]).map (·.eventId)).Nodup :=
    nodup_append_fresh (database.consistent .operationAuditId) fun row member => by
      rw [stored]
      exact fresh row member
  have rowChecks : ∀ row ∈ database.tables.platformOperationAuditEvents ++ [event], row.Checks := by
    intro row member
    rcases List.mem_append.mp member with old | new
    · exact database.consistent .operationAuditChecks row old
    · rw [List.mem_singleton.mp new]
      exact checks
  let after : CloudDatabase := ⟨_, consistent_of_operationEvents database distinct rowChecks⟩
  refine ⟨after, event, by rw [stored], ?_, rfl⟩
  exact bind_ok.mpr ⟨event, accepted, Store.execute_of_consistent after.consistent⟩

theorem auditable_of_recorded {input : RecordPlatformOperationInput}
    (recorded : recordPlatformOperationAuditEvent database input = .ok after) : Auditable input := by
  obtain ⟨event, accepted, _⟩ := bind_ok.mp recorded
  exact (platformOperationEvent_ok.mp accepted).1

end Specs

end NebulaCloud.Database
