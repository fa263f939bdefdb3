import NebulaCloud.Data.Keyset
import NebulaCloud.Database.Membership
import Mathlib.Data.Prod.Lex

namespace NebulaCloud.Audit

open NebulaCloud.Data NebulaCloud.Database NebulaCloud.Platform

/-! # Pages of the audit log

An administrator reads the events of the organization from the newest on, and asks for
older ones by a time.  Events of one millisecond are ordered by their id, but the time
alone says where a page begins. -/

structure ListOrganizationAuditEventsOptions where
  userId : String
  organizationId : String
  limit : Option Int
  before : Option Int

/-- `ORDER BY occurred_at DESC, event_id DESC`. -/
def auditKey (event : AuditEventRow) : Int ×ₗ String := toLex (event.occurredAt, event.eventId)

/-- The metadata stays the text that is stored. -/
def listOrganizationAuditEvents (database : CloudDatabase) (options : ListOrganizationAuditEventsOptions) :
    Except Failure (List AuditEventRow) := do
  let _ ← requireOrganizationAdmin database options.userId options.organizationId
  let limit := (min (max (options.limit.getD 50) 1) 200).toNat
  let before := options.before.getD maxSafeInteger
  .ok ((newestFirst auditKey (database.tables.auditEvents.filter fun event =>
    event.organizationId = options.organizationId && event.occurredAt < before)).take limit)

/-- The route of an organization's audit log, for a session of the user. -/
def getOrganizationAudit (database : CloudDatabase) (userId organizationId : String) (limit : Int)
    (before : Option Int) : Except Failure (List AuditEventRow) :=
  if limit < 1 ∨ 200 < limit ∨ ∃ time ∈ before, maxSafeInteger < time ∨ time < 1 then
    .error (.error "invalid audit pagination")
  else listOrganizationAuditEvents database ⟨userId, organizationId, some limit, before⟩

/-- A client that asks for what is older than the last event it got; `none` while it has
not got an empty page. -/
def walkOrganizationAudit (database : CloudDatabase) (userId organizationId : String) (limit : Int) :
    Nat → Option Int → Option (List AuditEventRow)
  | 0, _ => none
  | calls + 1, before =>
      match getOrganizationAudit database userId organizationId limit before with
      | .error _ => none
      | .ok page =>
          match page.getLast? with
          | none => some []
          | some last =>
              (walkOrganizationAudit database userId organizationId limit calls (some last.occurredAt)).map (page ++ ·)

def organizationAuditEvents (database : CloudDatabase) (organizationId : String) : List AuditEventRow :=
  database.tables.auditEvents.filter fun event => event.organizationId = organizationId

/-- All events of an organization in the order of its pages. -/
def auditStream (database : CloudDatabase) (organizationId : String) : List AuditEventRow :=
  newestFirst auditKey (organizationAuditEvents database organizationId)

/-- A time that a request may name, and that the first page does not leave out. -/
def HasPageTime (event : AuditEventRow) : Prop := 1 ≤ event.occurredAt ∧ event.occurredAt < maxSafeInteger

instance (event : AuditEventRow) : Decidable (HasPageTime event) := inferInstanceAs (Decidable (_ ∧ _))

section Walk

variable {database : CloudDatabase} {userId organizationId role : String} {limit : Int} {before : Option Int}
  {calls : Nat}

/-- The events of the organization that are older than a request asks for. -/
def olderEvents (database : CloudDatabase) (organizationId : String) (before : Option Int) : List AuditEventRow :=
  below (·.occurredAt) (before.getD maxSafeInteger) (auditStream database organizationId)

theorem auditStream_perm : (auditStream database organizationId).Perm (organizationAuditEvents database organizationId) :=
  newestFirst_perm

theorem auditStream_descending : Descending (·.occurredAt) (auditStream database organizationId) := by
  have sorted : Descending auditKey (auditStream database organizationId) := newestFirst_descending
  refine sorted.imp fun {earlier later} order => ?_
  rw [auditKey, auditKey, Prod.Lex.toLex_le_toLex] at order
  rcases order with less | ⟨same, _⟩
  · exact less.le
  · exact same.le

theorem auditStream_length : (auditStream database organizationId).length ≤ database.tables.auditEvents.length := by
  rw [auditStream_perm.length_eq]
  exact List.length_filter_le _ _

/-- An admitted request gets the head of the events that are older. -/
theorem getOrganizationAudit_ok (admin : requireOrganizationAdmin database userId organizationId = .ok role)
    (range : 1 ≤ limit ∧ limit ≤ 200) (valid : ∀ time ∈ before, 1 ≤ time ∧ time ≤ maxSafeInteger) :
    getOrganizationAudit database userId organizationId limit before =
      .ok ((olderEvents database organizationId before).take limit.toNat) := by
  have admitted : ¬ (limit < 1 ∨ 200 < limit ∨ ∃ time ∈ before, maxSafeInteger < time ∨ time < 1) := by
    rintro (small | large | ⟨time, asked, outside⟩)
    · omega
    · omega
    · have bounds := valid time asked
      omega
  have keys : ((organizationAuditEvents database organizationId).map auditKey).Nodup := by
    refine List.Nodup.of_map (fun key : Int ×ₗ String => (ofLex key).2) ?_
    rw [List.map_map]
    exact (database.consistent .auditEventId).sublist (List.filter_sublist.map _)
  have clamped : (min (max limit 1) 200).toNat = limit.toNat := by omega
  have older : (database.tables.auditEvents.filter fun event =>
      event.organizationId = organizationId && event.occurredAt < before.getD maxSafeInteger) =
      (organizationAuditEvents database organizationId).filter (·.occurredAt < before.getD maxSafeInteger) := by
    rw [organizationAuditEvents, List.filter_filter]
    exact List.filter_congr fun event _ => Bool.and_comm _ _
  rw [getOrganizationAudit, if_neg admitted, listOrganizationAuditEvents, admin]
  simp only [Option.getD_some, clamped, older, newestFirst_filter keys]
  rfl

theorem getOrganizationAudit_refused {time : Int} (early : time < 1) :
    getOrganizationAudit database userId organizationId limit (some time) =
      .error (.error "invalid audit pagination") := by
  rw [getOrganizationAudit, if_pos (.inr (.inr ⟨time, rfl, .inr early⟩))]

theorem walkOrganizationAudit_refused {time : Int} (early : time < 1) :
    walkOrganizationAudit database userId organizationId limit calls (some time) = none := by
  cases calls with
  | zero => rfl
  | succ calls => rw [walkOrganizationAudit, getOrganizationAudit_refused early]

theorem olderEvents_descending : Descending (·.occurredAt) (olderEvents database organizationId before) :=
  auditStream_descending.sublist List.filter_sublist

/-- What is older than an event that is listed is older than was asked for. -/
theorem olderEvents_last {last : AuditEventRow} (member : last ∈ olderEvents database organizationId before) :
    olderEvents database organizationId (some last.occurredAt) =
      below (·.occurredAt) last.occurredAt (olderEvents database organizationId before) := by
  rw [olderEvents, below, List.mem_filter, decide_eq_true_eq] at member
  rw [olderEvents, olderEvents, below_below member.2.le]
  rfl

theorem olderEvents_recent {last : AuditEventRow} (valid : ∀ time ∈ before, 1 ≤ time ∧ time ≤ maxSafeInteger)
    (member : last ∈ olderEvents database organizationId before) : last.occurredAt ≤ maxSafeInteger := by
  rw [olderEvents, below, List.mem_filter, decide_eq_true_eq] at member
  cases before with
  | none => exact member.2.le
  | some time => exact member.2.le.trans (valid time rfl).2

/-- The pages behind a time, up to the first request that is refused. -/
theorem walkOrganizationAudit_eq (admin : requireOrganizationAdmin database userId organizationId = .ok role)
    (range : 1 ≤ limit ∧ limit ≤ 200) (valid : ∀ time ∈ before, 1 ≤ time ∧ time ≤ maxSafeInteger)
    (enough : (olderEvents database organizationId before).length < calls) :
    walkOrganizationAudit database userId organizationId limit calls before =
      let listed := pagedBelow (·.occurredAt) limit.toNat calls (olderEvents database organizationId before)
      if ∀ event ∈ listed, 1 ≤ event.occurredAt then some listed else none := by
  induction calls generalizing before with
  | zero => cases enough
  | succ calls ih =>
      have sorted := @olderEvents_descending database organizationId before
      rw [walkOrganizationAudit, getOrganizationAudit_ok admin range valid, pagedBelow]
      cases ends : ((olderEvents database organizationId before).take limit.toNat).getLast? with
      | none => simp [ends]
      | some last =>
          have shown := List.mem_of_getLast? ends
          have next := olderEvents_last (List.mem_of_mem_take shown)
          simp only [ends]
          rw [← next]
          by_cases late : 1 ≤ last.occurredAt
          · have recent : last.occurredAt ≤ maxSafeInteger := olderEvents_recent valid (List.mem_of_mem_take shown)
            have fewer : (olderEvents database organizationId (some last.occurredAt)).length < calls := by
              have shorter := below_length_lt sorted ends
              rw [← next] at shorter
              omega
            have page : ∀ event ∈ (olderEvents database organizationId before).take limit.toNat, 1 ≤ event.occurredAt :=
              fun event member => late.trans (Descending.last_le (sorted.sublist (List.take_sublist _ _)) ends event member)
            rw [ih (fun time same => Option.some.inj same ▸ ⟨late, recent⟩) fewer]
            by_cases later : ∀ event ∈ pagedBelow (·.occurredAt) limit.toNat calls
                (olderEvents database organizationId (some last.occurredAt)), 1 ≤ event.occurredAt
            · rw [if_pos later, if_pos (List.forall_mem_append.mpr ⟨page, later⟩)]
              rfl
            · rw [if_neg later, if_neg fun all => later (List.forall_mem_append.mp all).2]
              rfl
          · rw [walkOrganizationAudit_refused (Int.not_le.mp late),
              if_neg fun all => late (all last (List.mem_append_left _ shown))]
            rfl

/-- For every administrator and every limit, the pages list every event of the
organization once exactly when every event has a time that a request may name and no
page ends between two events of one millisecond. -/
theorem auditPagination_complete_iff (admin : requireOrganizationAdmin database userId organizationId = .ok role)
    (range : 1 ≤ limit ∧ limit ≤ 200) :
    (∃ listed : List AuditEventRow,
      (∀ calls, database.tables.auditEvents.length < calls →
        walkOrganizationAudit database userId organizationId limit calls none = some listed) ∧
      listed.Perm (organizationAuditEvents database organizationId)) ↔
      (∀ event ∈ organizationAuditEvents database organizationId, HasPageTime event) ∧
        TiesWithinPages (·.occurredAt) limit.toNat (auditStream database organizationId) := by
  have first : olderEvents database organizationId none =
      below (·.occurredAt) maxSafeInteger (auditStream database organizationId) := rfl
  have fewer {calls : Nat} (enough : database.tables.auditEvents.length < calls) :
      (olderEvents database organizationId none).length < calls := by
    have total := @auditStream_length database organizationId
    have part : (olderEvents database organizationId none).length ≤ (auditStream database organizationId).length :=
      List.length_filter_le _ _
    omega
  have complete {calls : Nat} (enough : database.tables.auditEvents.length < calls) :=
    @pagedBelow_eq_iff _ _ _ (·.occurredAt) (auditStream database organizationId) limit.toNat calls
      auditStream_descending (by omega) (by have total := @auditStream_length database organizationId; omega)
  have whole (timed : ∀ event ∈ organizationAuditEvents database organizationId, HasPageTime event) :
      olderEvents database organizationId none = auditStream database organizationId := by
    rw [first, below, List.filter_eq_self]
    exact fun event member => decide_eq_true (timed event (auditStream_perm.mem_iff.mp member)).2
  constructor
  · rintro ⟨listed, walked, all⟩
    have enough := Nat.lt_succ_self database.tables.auditEvents.length
    have walk := walked _ enough
    rw [walkOrganizationAudit_eq admin range (by simp) (fewer enough)] at walk
    simp only [Option.ite_none_right_eq_some, Option.some.injEq] at walk
    obtain ⟨late, rfl⟩ := walk
    have part := @pagedBelow_sublist _ _ _ (·.occurredAt) (olderEvents database organizationId none) limit.toNat
      (database.tables.auditEvents.length + 1) olderEvents_descending
    have timed : ∀ event ∈ organizationAuditEvents database organizationId, HasPageTime event := by
      intro event member
      have shown := all.mem_iff.mpr member
      have old := part.mem shown
      rw [first, below, List.mem_filter, decide_eq_true_eq] at old
      exact ⟨late event shown, old.2⟩
    refine ⟨timed, (complete enough).mp ?_⟩
    rw [whole timed] at all part
    exact part.eq_of_length (all.trans auditStream_perm.symm).length_eq
  · rintro ⟨timed, ties⟩
    refine ⟨auditStream database organizationId, fun calls enough => ?_, auditStream_perm⟩
    rw [walkOrganizationAudit_eq admin range (by simp) (fewer enough), whole timed]
    simp only [(complete enough).mpr ties]
    exact if_pos fun event member => (timed event (auditStream_perm.mem_iff.mp member)).1

end Walk

section Sample

def auditEvent (eventId : String) (occurredAt : Int) : AuditEventRow where
  eventId := eventId
  organizationId := "acme"
  actorUserId := "ada"
  action := "organization.access_code_rotated"
  targetType := "organization"
  targetId := "acme"
  result := "success"
  sourceIpHash := none
  metadataJson := "{}"
  occurredAt := occurredAt

/-- Two of three events happened in the same millisecond. -/
def auditedTables : Tables :=
  { Tables.empty with
    organizations := [⟨"acme"⟩]
    members := [⟨"m1", "ada", "acme", "owner"⟩]
    auditEvents := [auditEvent "e1" 1000, auditEvent "e2" 2000, auditEvent "e3" 2000] }

theorem auditedTables_accepted : schema.violated? auditedTables = none := by decide +kernel

def audited : CloudDatabase := Store.load auditedTables auditedTables_accepted

/-- With pages of two events the tie stays within the first page. -/
theorem auditPagination_pairs :
    ∃ listed : List AuditEventRow,
      (∀ calls, audited.tables.auditEvents.length < calls →
        walkOrganizationAudit audited "ada" "acme" 2 calls none = some listed) ∧
      listed.Perm (organizationAuditEvents audited "acme") :=
  have admin : requireOrganizationAdmin audited "ada" "acme" = .ok "owner" := by decide +kernel
  (auditPagination_complete_iff admin (by decide)).mpr (by decide +kernel)

/-- With pages of one event the second event of the millisecond is never listed. -/
theorem audit_skipped :
    requireOrganizationAdmin audited "ada" "acme" = .ok "owner" ∧
      walkOrganizationAudit audited "ada" "acme" 1 4 none = some [auditEvent "e3" 2000, auditEvent "e1" 1000] ∧
      ¬ [auditEvent "e3" 2000, auditEvent "e1" 1000].Perm (organizationAuditEvents audited "acme") := by
  decide +kernel

end Sample

end NebulaCloud.Audit
