import NebulaCloud.Data.Csv
import NebulaCloud.Database.ContactRequest
import NebulaCloud.Usage.Reports

namespace NebulaCloud.Export

open NebulaCloud.Data NebulaCloud.Database NebulaCloud.Usage

/-! # Exports as comma-separated values

Contact requests and the usage of an organization leave the platform as files for a
spreadsheet.  A text that a spreadsheet would take for a formula gets an apostrophe. -/

inductive CsvValue
  | text (value : String)
  | number (value : Int)
  | null

/-- `value === null ? '' : String(value)`. -/
def CsvValue.toText : CsvValue → List Char
  | .text value => value.toList
  | .number value => (toString value).toList
  | .null => []

/-- `/^[=+\-@]/`. -/
def beginsFormula (text : List Char) : Bool := text.head?.any (· ∈ ['=', '+', '-', '@'])

/-- The text that a cell holds. -/
def cellText (value : CsvValue) : List Char :=
  if beginsFormula value.toText then '\'' :: value.toText else value.toText

def csvCell (value : CsvValue) : List Char := quotedCell (cellText value)

def csvLine (values : List CsvValue) : List Char := [','].intercalate (values.map csvCell)

/-- The file of a header and its rows. -/
def csvFile (header : List String) (rows : List (List CsvValue)) : List Char :=
  csvLine (header.map .text) ++ crlf ++ crlf.intercalate (rows.map csvLine) ++ crlf

/-! ## Contact requests -/

/-- The instants of a `Date`, in milliseconds. -/
def IsDateTime (time : Int) : Prop := -8640000000000000 ≤ time ∧ time ≤ 8640000000000000

instance (time : Int) : Decidable (IsDateTime time) := inferInstanceAs (Decidable (_ ∧ _))

/-- `new Date(time).toISOString()`; `none` where it throws. -/
def toISOString (time : Int) : Option String :=
  if IsDateTime time then
    let (year, month, day) := civilDate (time / 86400000)
    let millisecond := time % 86400000
    let yearText :=
      if 0 ≤ year ∧ year ≤ 9999 then padNumber 4 year
      else (if year < 0 then "-" else "+") ++ padNumber 6 year.natAbs
    some (yearText ++ "-" ++ padNumber 2 month ++ "-" ++ padNumber 2 day ++ "T" ++
      padNumber 2 (millisecond / 3600000) ++ ":" ++ padNumber 2 (millisecond / 60000 % 60) ++ ":" ++
      padNumber 2 (millisecond / 1000 % 60) ++ "." ++ padNumber 3 (millisecond % 1000) ++ "Z")
  else none

example : [0, 951782399999, -62198755200000, 253402300800000, 8640000000000001].map toISOString =
    [some "1970-01-01T00:00:00.000Z", some "2000-02-28T23:59:59.999Z", some "-000001-01-01T00:00:00.000Z",
      some "+010000-01-01T00:00:00.000Z", none] := by
  decide

def topicText : ContactTopic → String
  | .sales => "sales"
  | .support => "support"
  | .security => "security"
  | .partnerships => "partnerships"
  | .other => "other"

def statusText : ContactRequestStatus → String
  | .new => "new"
  | .contacted => "contacted"
  | .qualified => "qualified"
  | .closed => "closed"

def notificationStatusText : ContactNotificationStatus → String
  | .pending => "pending"
  | .sent => "sent"
  | .failed => "failed"

def nullable : Option String → CsvValue
  | none => .null
  | some value => .text value

def contactRequestsHeader : List String :=
  ["id", "created_at", "updated_at", "status", "notification_status", "provider_message_id", "topic", "name",
    "email", "organization", "message", "privacy_version"]

def contactRequestFields (request : ContactRequestRow) : Option (List CsvValue) := do
  let createdAt ← toISOString request.createdAt
  let updatedAt ← toISOString request.updatedAt
  some
    [.text request.id, .text createdAt, .text updatedAt, .text (statusText request.status),
      .text (notificationStatusText request.notificationStatus), nullable request.providerMessageId,
      .text (topicText request.topic), .text request.name, .text request.email, nullable request.organization,
      .text request.message, .text request.privacyVersion]

def contactRequestsCSV (requests : List ContactRequestRow) : Option (List Char) :=
  (requests.mapM contactRequestFields).map (csvFile contactRequestsHeader)

/-! ## Usage -/

def organizationUsageHeader : List String :=
  ["organization_id", "range_days", "membership_id", "user_id", "name", "model_turns", "input_tokens",
    "output_tokens", "cached_tokens", "reasoning_tokens", "total_tokens", "estimated_cost_microusd",
    "cache_savings_microusd"]

def memberUsageFields (usage : OrganizationUsageSummary) (member : OrganizationMemberUsageSummary) : List CsvValue :=
  [.text usage.organizationId, .number usage.rangeDays, .text member.membershipId, .text member.userId,
    .text member.name, .number member.totals.modelTurns, .number member.totals.inputTokens,
    .number member.totals.outputTokens, .number member.totals.cachedTokens, .number member.totals.reasoningTokens,
    .number member.totals.totalTokens, .number member.totals.estimatedCostMicrousd,
    .number member.totals.cacheSavingsMicrousd]

def organizationUsageCSV (usage : OrganizationUsageSummary) : List Char :=
  csvFile organizationUsageHeader (usage.members.map (memberUsageFields usage))

section Files

variable {header : List String} {rows : List (List CsvValue)} {values : List CsvValue} {value : CsvValue}
  {request : ContactRequestRow}

theorem csvLine_eq : csvLine values = quotedRecord (values.map cellText) := by
  rw [csvLine, quotedRecord, List.map_map]
  rfl

/-- Lines between separators, and one more separator, are lines with one each. -/
theorem intercalate_append (separator : List Char) (lines : List (List Char)) (nonempty : lines ≠ []) :
    separator.intercalate lines ++ separator = lines.flatMap (· ++ separator) := by
  induction lines with
  | nil => exact absurd rfl nonempty
  | cons line others ih =>
      cases others with
      | nil => simp
      | cons next others =>
          have later := ih (List.cons_ne_nil next others)
          rw [List.flatMap_cons, ← later]
          simp [List.intercalate]

/-- A file is read back as its header and its rows, cell by cell. -/
theorem parseCsv_csvFile (wide : 2 ≤ header.length) (wideRows : ∀ values ∈ rows, 2 ≤ values.length) :
    parseCsv (csvFile header rows) =
      some (header.map (fun name => cellText (.text name)) :: rows.map (·.map cellText)) := by
  have records : ∀ cells ∈ header.map (fun name => cellText (.text name)) :: rows.map (·.map cellText),
      2 ≤ cells.length := by
    intro cells member
    rcases List.mem_cons.mp member with rfl | inRows
    · rwa [List.length_map]
    · obtain ⟨values, known, rfl⟩ := List.mem_map.mp inRows
      rw [List.length_map]
      exact wideRows values known
  have lines : rows.map csvLine = (rows.map (·.map cellText)).map quotedRecord := by
    rw [List.map_map]
    exact List.map_congr_left fun values _ => csvLine_eq
  have head : csvLine (header.map .text) = quotedRecord (header.map fun name => cellText (.text name)) := by
    rw [csvLine_eq, List.map_map]
    rfl
  have file : csvFile header rows =
      (header.map (fun name => cellText (.text name)) :: rows.map (·.map cellText)).flatMap
        (fun cells => quotedRecord cells ++ crlf) ++ if rows.isEmpty then crlf else [] := by
    rw [csvFile, head, lines, List.flatMap_cons]
    cases rows with
    | nil => simp
    | cons values others =>
        have each := intercalate_append crlf (((values :: others).map (·.map cellText)).map quotedRecord) (by simp)
        rw [List.append_assoc, each, List.flatMap_map]
        simp
  rw [file, parseCsv_records records]

/-- No cell begins like a formula. -/
theorem cellText_inert : beginsFormula (cellText value) = false := by
  unfold cellText
  split
  · rfl
  · rename_i harmless
    simpa using harmless

theorem toISOString_some {time : Int} (valid : IsDateTime time) : ∃ text, toISOString time = some text := by
  rw [toISOString, if_pos valid]
  exact ⟨_, rfl⟩

theorem contactRequestFields_some (created : IsDateTime request.createdAt) (updated : IsDateTime request.updatedAt) :
    ∃ values, contactRequestFields request = some values ∧ values.length = contactRequestsHeader.length := by
  obtain ⟨createdAt, createdText⟩ := toISOString_some created
  obtain ⟨updatedAt, updatedText⟩ := toISOString_some updated
  rw [contactRequestFields, createdText, updatedText]
  exact ⟨_, rfl, rfl⟩

theorem mapM_fields {requests : List ContactRequestRow}
    (valid : ∀ request ∈ requests, IsDateTime request.createdAt ∧ IsDateTime request.updatedAt) :
    ∃ records, requests.mapM contactRequestFields = some records ∧
      ∀ values ∈ records, values.length = contactRequestsHeader.length := by
  induction requests with
  | nil => exact ⟨[], rfl, by simp⟩
  | cons request others ih =>
      obtain ⟨records, rest, lengths⟩ := ih fun other member => valid other (List.mem_cons_of_mem request member)
      obtain ⟨created, updated⟩ := valid request List.mem_cons_self
      obtain ⟨values, fields, length⟩ := contactRequestFields_some created updated
      refine ⟨values :: records, ?_, fun other member => ?_⟩
      · rw [List.mapM_cons, fields, rest]
        rfl
      · rcases List.mem_cons.mp member with rfl | later
        · exact length
        · exact lengths other later

theorem header_plain (harmless : ∀ name ∈ header, beginsFormula name.toList = false) :
    header.map (fun name => cellText (.text name)) = header.map String.toList := by
  refine List.map_congr_left fun name member => ?_
  have plain : ¬ beginsFormula (CsvValue.text name).toText = true := by
    rw [CsvValue.toText, harmless name member]
    decide
  exact if_neg plain

end Files

section Sample

/-- A name that is a formula and a message with quotes, separators and lines. -/
def hostileRequest : ContactRequestRow where
  id := "11111111-1111-4111-8111-111111111111"
  name := "=1+1"
  email := "ada@acme.test"
  organization := none
  topic := .sales
  message := "\"a\",\r\n\"\"b"
  status := .new
  notificationStatus := .sent
  providerMessageId := some "m1"
  sourceHash := "0123456789abcdef"
  privacyVersion := "1"
  createdAt := 0
  updatedAt := 951782399999

end Sample

end NebulaCloud.Export
