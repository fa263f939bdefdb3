import NebulaCloud.Platform.UriCode
import NebulaCloud.Usage.Synchronization

namespace NebulaCloud.Usage

open NebulaCloud.Data NebulaCloud.Database NebulaCloud.Platform

/-! # Identifiers for the entries of older runtimes

They are put together from what the control plane knows of an entry, so that a log that is
read again yields the same identifiers.  No two entries may share one, since the second
would be taken for the first and not be counted. -/

/-- The runtime issued no identifier for the entry. -/
def Unissued (entry : JsonRecord) : Prop := presentText (entry.get "event_id") = none

variable {workspaceId chatName otherWorkspaceId otherChatName : String} {entry other : JsonRecord}
  {index position : Nat}

theorem usageEventId_unissued (unissued : Unissued entry) :
    usageEventId workspaceId chatName entry index = legacyUsageEventId workspaceId chatName entry index := by
  unfold Unissued at unissued
  unfold usageEventId
  split
  · rename_i eventId found
    simp only [found, presentText, ite_eq_right_iff, reduceCtorEq, imp_false, ne_eq, not_not] at unissued
    simp [unissued]
  · rfl

/-! ## Reading an identifier back -/

theorem intercalate_injective {α : Type*} [DecidableEq α] {separator : α} {parts others : List (List α)}
    (free : ∀ part ∈ parts, separator ∉ part) (free' : ∀ part ∈ others, separator ∉ part)
    (nonempty : parts ≠ []) (nonempty' : others ≠ [])
    (same : [separator].intercalate parts = [separator].intercalate others) : parts = others := by
  have split := congrArg (List.splitOn separator) same
  rwa [List.splitOn_intercalate separator free nonempty, List.splitOn_intercalate separator free' nonempty'] at split

theorem decimal_digits (number : Nat) : ∀ c ∈ (toString number).toList, c.isDigit = true := by
  intro c member
  rw [Nat.toString_eq_repr, Nat.toList_repr] at member
  exact Nat.isDigit_of_mem_toDigits (by decide) (by decide) member

theorem decimal_injective {number other : Nat} (same : toString number = toString other) : number = other := by
  have digits := congrArg String.toList same
  rw [Nat.toString_eq_repr, Nat.toString_eq_repr, Nat.toList_repr, Nat.toList_repr] at digits
  have numbers := congrArg (Nat.ofDigitChars 10 · 0) digits
  simpa only [Nat.ofDigitChars_toDigits (show 1 < 10 by decide) (show 10 ≤ 10 by decide)] using numbers

theorem digit_ne_colon {c : Char} (digit : c.isDigit = true) : c ≠ ':' := by
  rintro rfl
  exact absurd digit (by decide)

theorem digit_visible {c : Char} (digit : c.isDigit = true) : isWhiteSpace c = false := by
  have ascii : c.toNat < 128 := by
    have bounds := Char.isDigit_iff_toNat.mp digit
    exact Nat.lt_of_le_of_lt bounds.2 (by decide)
  exact ascii_forall (fun c => c.isDigit = true → isWhiteSpace c = false) (by decide) ascii digit

theorem decimal_free (number : Nat) : ':' ∉ (toString number).toList :=
  fun member => digit_ne_colon (decimal_digits number _ member) rfl

theorem usageInteger_free (value : Option Json) : ':' ∉ (toString (usageInteger value)).toList := by
  obtain ⟨number, eq⟩ := Int.eq_ofNat_of_zero_le (usageInteger_safe value).1
  rw [eq]
  exact decimal_free number

theorem encodeURIComponent_free (text : String) : ':' ∉ (encodeURIComponent text).toList := by
  intro member
  rcases encodeURIComponent_mem member with unreserved | escape
  · exact absurd unreserved (by decide)
  · simp at escape

/-- The parts that an identifier is put together from. -/
def legacyParts (workspaceId chatName : String) (entry : JsonRecord) (index : Nat) : List (List Char) :=
  ["legacy-runtime-usage", workspaceId, encodeURIComponent chatName,
    toString (usageInteger (entry.get "created_at")), encodeURIComponent (usagePurpose (entry.get "purpose")),
    toString (usageInteger (entry.get "message_count")), toString index].map String.toList

theorem legacyUsageEventId_parts (workspaceId chatName : String) (entry : JsonRecord) (index : Nat) :
    (legacyUsageEventId workspaceId chatName entry index).toList =
      [':'].intercalate (legacyParts workspaceId chatName entry index) := by
  rw [legacyUsageEventId, String.toList_intercalate]
  rfl

theorem legacyParts_free (free : ':' ∉ workspaceId.toList) :
    ∀ part ∈ legacyParts workspaceId chatName entry index, ':' ∉ part := by
  intro part member
  simp only [legacyParts, List.map_cons, List.map_nil, List.mem_cons, List.not_mem_nil, or_false] at member
  rcases member with rfl | rfl | rfl | rfl | rfl | rfl | rfl
  · decide
  · exact free
  · exact encodeURIComponent_free _
  · exact usageInteger_free _
  · exact encodeURIComponent_free _
  · exact usageInteger_free _
  · exact decimal_free _

/-- Workspace, chat and position can be read back from an identifier. -/
theorem legacyUsageEventId_injective (free : ':' ∉ workspaceId.toList) (free' : ':' ∉ otherWorkspaceId.toList)
    (same : legacyUsageEventId workspaceId chatName entry index =
      legacyUsageEventId otherWorkspaceId otherChatName other position) :
    workspaceId = otherWorkspaceId ∧ chatName = otherChatName ∧ index = position := by
  have written := congrArg String.toList same
  rw [legacyUsageEventId_parts, legacyUsageEventId_parts] at written
  have parts := intercalate_injective (legacyParts_free free) (legacyParts_free free') (by simp [legacyParts])
    (by simp [legacyParts]) written
  simp only [legacyParts, List.map_cons, List.map_nil, List.cons.injEq, String.toList_inj] at parts
  obtain ⟨-, workspaces, chats, -, -, -, positions, -⟩ := parts
  exact ⟨workspaces, encodeURIComponent_injective chats, decimal_injective positions⟩

/-- An identifier starts with a letter and ends with a digit, so that it is stored as it
is. -/
theorem trim_legacyUsageEventId (workspaceId chatName : String) (entry : JsonRecord) (index : Nat) :
    trim (legacyUsageEventId workspaceId chatName entry index) =
      legacyUsageEventId workspaceId chatName entry index := by
  have starts : ∃ rest, (legacyUsageEventId workspaceId chatName entry index).toList = 'l' :: rest := by
    simp [legacyUsageEventId]
  have ends : ∃ front, (legacyUsageEventId workspaceId chatName entry index).toList =
      front ++ (toString index).toList := by
    refine ⟨([':'].intercalate (legacyParts workspaceId chatName entry index).dropLast) ++ [':'], ?_⟩
    rw [legacyUsageEventId_parts]
    simp [legacyParts, List.intercalate]
  obtain ⟨rest, starts⟩ := starts
  obtain ⟨front, ends⟩ := ends
  have spelled : (toString index).toList ≠ [] := by
    intro empty
    rw [Nat.toString_eq_repr, Nat.toList_repr] at empty
    exact Nat.toDigits_ne_nil empty
  have last := decimal_digits index _ (List.getLast_mem spelled)
  rw [← List.dropLast_concat_getLast spelled, ← List.append_assoc] at ends
  exact trim_visible starts ends (by decide) (digit_visible last)

/-! ## Reading a log again -/

/-- The identifiers depend on the workspace, the chat and the entries, with their positions,
and on nothing else. -/
theorem reportedEvents_ids (toLowerCase : String → String) (input : SyncChatUsageInput) (header : SessionHeader)
    (clock : Clock) (start : Nat) (log : List Json) :
    (reportedEvents toLowerCase input header clock start log).map (·.eventId) =
      (log.zipIdx start).filterMap fun entry =>
        (entryFields entry.1).map fun fields =>
          usageEventId input.workspace.id input.chatName fields.1 entry.2 := by
  rw [reportedEvents, List.map_filterMap]
  refine List.filterMap_congr fun entry _ => ?_
  rw [reportedEvent, Option.map_map]
  rfl

/-- Entries of older runtimes are told apart by their identifiers, also as they are stored,
and a log that has grown yields first the identifiers that it yielded before, whatever else
the session and the clock tell by then. -/
theorem legacyUsageIds :
    (∀ (workspaceId otherWorkspaceId chatName otherChatName : String) (entry other : JsonRecord)
        (index position : Nat), ':' ∉ workspaceId.toList → ':' ∉ otherWorkspaceId.toList →
      Unissued entry → Unissued other →
      (workspaceId, chatName, index) ≠ (otherWorkspaceId, otherChatName, position) →
      usageEventId workspaceId chatName entry index ≠ usageEventId otherWorkspaceId otherChatName other position ∧
        trim (usageEventId workspaceId chatName entry index) ≠
          trim (usageEventId otherWorkspaceId otherChatName other position)) ∧
    ∀ (toLowerCase : String → String) (input again : SyncChatUsageInput) (header later : SessionHeader)
        (clock laterClock : Clock) (log more : List Json), again.workspace.id = input.workspace.id →
      again.chatName = input.chatName →
      (reportedEvents toLowerCase input header clock 0 log).map (·.eventId) <+:
        (reportedEvents toLowerCase again later laterClock 0 (log ++ more)).map (·.eventId) := by
  constructor
  · intro workspaceId otherWorkspaceId chatName otherChatName entry other index position free free' unissued
      unissued' distinct
    have different : usageEventId workspaceId chatName entry index ≠
        usageEventId otherWorkspaceId otherChatName other position := by
      intro same
      rw [usageEventId_unissued unissued, usageEventId_unissued unissued'] at same
      obtain ⟨rfl, rfl, rfl⟩ := legacyUsageEventId_injective free free' same
      exact distinct rfl
    refine ⟨different, ?_⟩
    simpa only [usageEventId_unissued unissued, usageEventId_unissued unissued',
      trim_legacyUsageEventId] using different
  · intro toLowerCase input again header later clock laterClock log more workspaces chats
    rw [reportedEvents_ids, reportedEvents_ids, workspaces, chats, List.zipIdx_append, List.filterMap_append]
    exact List.prefix_append _ _

/-- A chat whose name holds the separators, and a log that has grown by an entry. -/
theorem legacyUsageIds_separators :
    let entry : Json := .object [("usage", .object [])]
    usageEventId "w1" "plans:0:unknown" [] 0 ≠ usageEventId "w1" "plans" [] 0 ∧
      (reportedEvents id plansChat ⟨"p", "m", none⟩ ⟨fun _ => 5, fun _ => by decide⟩ 0 [entry]).map (·.eventId) <+:
        (reportedEvents id plansChat ⟨"q", "m", none⟩ ⟨fun _ => 6, fun _ => by decide⟩ 0 [entry, entry]).map
          (·.eventId) := by
  have free : ':' ∉ "w1".toList := by decide
  have separated := legacyUsageIds.1 "w1" "w1" "plans:0:unknown" "plans" [] [] 0 0 free free rfl rfl (by decide)
  exact ⟨separated.1, legacyUsageIds.2 id _ _ _ _ _ _ _ [_] rfl rfl⟩

end NebulaCloud.Usage
