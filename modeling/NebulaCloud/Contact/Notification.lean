import NebulaCloud.Contact.Throttle

namespace NebulaCloud.Contact

open NebulaCloud.Data NebulaCloud.Database NebulaCloud.Platform

/-! # Notifications of contact requests

A submission stores its request and sends a notification unless one has been sent.  The
send is awaited, and meanwhile anything else may happen, also a submission of the same
id. -/

structure ContactDesk where
  database : ContactDatabase
  /-- The requests whose notification is awaited, once for each send. -/
  sending : List String := []
  /-- The requests whose notification was sent, once for each success. -/
  notified : List String := []

inductive NotificationEvent
  | submit (input : CreateContactRequestInput) (purgedAt : Int)
  /-- A send ends with a receipt, or it fails. -/
  | settle (requestId : String) (receipt : Option String) (sentAt failedAt : Int)
  | setStatus (requestId : String) (status : ContactRequestStatus) (now : Int)
  | purge (now : Int)

section Desk

variable (toLowerCase : String → String) (retentionMs : Int)

def purgeExpiredContactRequests (database : ContactDatabase) (now : Int) : ContactDatabase × Except ContactFailure Nat :=
  commit database (deleteContactRequestsCreatedBefore database (max 0 (now - retentionMs)))

/-- `submitContact` up to its `await`. -/
def ContactDesk.submitContact (desk : ContactDesk) (input : CreateContactRequestInput) (purgedAt : Int) : ContactDesk :=
  match purgeExpiredContactRequests retentionMs desk.database purgedAt with
  | (database, .error _) => { desk with database }
  | (purged, .ok _) =>
      match commit purged (createContactRequest toLowerCase purged input) with
      | (database, .error _) => { desk with database }
      | (database, .ok (request, _)) =>
          { desk with
            database
            sending := if request.notificationStatus = .sent then desk.sending else request.id :: desk.sending }

/-- The `catch` of `submitContact`. -/
def notificationFailed (database : ContactDatabase) (requestId : String) (now : Int) : ContactDatabase :=
  (commit database (setContactNotificationResult database requestId false none now)).1

/-- `submitContact` from its `await` on. -/
def ContactDesk.settle (desk : ContactDesk) (requestId : String) (sentAt failedAt : Int) : Option String → ContactDesk
  | none =>
      { desk with
        database := notificationFailed desk.database requestId failedAt
        sending := desk.sending.erase requestId }
  | some providerMessageId =>
      { database :=
          match commit desk.database
            (setContactNotificationResult desk.database requestId true (some providerMessageId) sentAt) with
          | (database, .ok _) => database
          | (database, .error _) => notificationFailed database requestId failedAt
        sending := desk.sending.erase requestId
        notified := requestId :: desk.notified }

def ContactDesk.receive (desk : ContactDesk) : NotificationEvent → ContactDesk
  | .submit input purgedAt => desk.submitContact toLowerCase retentionMs input purgedAt
  | .settle requestId receipt sentAt failedAt => desk.settle requestId sentAt failedAt receipt
  | .setStatus requestId status now =>
      { desk with database := (commit desk.database (updateContactRequestStatus desk.database requestId status now)).1 }
  | .purge now => { desk with database := (purgeExpiredContactRequests retentionMs desk.database now).1 }

/-- From any stored requests, with no send under way. -/
def contactDesk : System ContactDesk NotificationEvent where
  Initial desk :=
    desk.sending = [] ∧
      desk.notified = (desk.database.tables.filter fun row => row.notificationStatus = .sent).map (·.id)
  Enabled desk
    | .settle requestId .. => requestId ∈ desk.sending
    | .submit .. | .setStatus .. | .purge .. => True
  step := ContactDesk.receive toLowerCase retentionMs

/-- A submission finds no send under way for its id, and it does not come back to a
request that was notified and has been deleted since. -/
def Apart (desk : ContactDesk) : NotificationEvent → Prop
  | .submit input purgedAt =>
      trim input.id ∉ desk.sending ∧
        (trim input.id ∈ desk.notified →
          ∃ row ∈ desk.database.tables, row.id = trim input.id ∧ max 0 (purgedAt - retentionMs) ≤ row.createdAt)
  | .settle .. | .setStatus .. | .purge .. => True

instance (desk : ContactDesk) (event : NotificationEvent) :
    Decidable ((contactDesk toLowerCase retentionMs).Enabled desk event) :=
  match event with
  | .settle requestId .. => inferInstanceAs (Decidable (requestId ∈ desk.sending))
  | .submit .. | .setStatus .. | .purge .. => .isTrue trivial

instance (desk : ContactDesk) (event : NotificationEvent) : Decidable (Apart retentionMs desk event) :=
  match event with
  | .submit .. => inferInstanceAs (Decidable (_ ∧ _))
  | .settle .. | .setStatus .. | .purge .. => .isTrue trivial

end Desk

/-- From one moment to a later one: a notification that is stored as sent stays sent with
its provider's id, nothing is sent again, and no send succeeds twice. -/
structure SentOnce (before after : ContactDesk) : Prop where
  kept : ∀ row ∈ before.database.tables, row.notificationStatus = .sent →
    ∀ later ∈ after.database.tables, later.id = row.id →
      later.notificationStatus = .sent ∧ later.providerMessageId = row.providerMessageId
  idle : ∀ requestId ∈ before.notified, requestId ∉ after.sending
  once : after.notified.Nodup

/-! ## What an event does -/

section Events

variable {toLowerCase : String → String} {retentionMs : Int} {database after : ContactDatabase} {desk : ContactDesk}
  {request row : ContactRequestRow} {input : CreateContactRequestInput} {requestId : String} {now : Int}

/-- Purging drops requests, and only those that are too old. -/
theorem purgeExpiredContactRequests_tables :
    (purgeExpiredContactRequests retentionMs database now).1.tables =
        database.tables.filter (fun request => max 0 (now - retentionMs) ≤ request.createdAt) ∨
      (purgeExpiredContactRequests retentionMs database now).1 = database ∧
        ∃ failure, (purgeExpiredContactRequests retentionMs database now).2 = .error failure := by
  unfold purgeExpiredContactRequests
  cases outcome : deleteContactRequestsCreatedBefore database (max 0 (now - retentionMs)) with
  | error failure => exact .inr ⟨rfl, failure, rfl⟩
  | ok result =>
      obtain ⟨after, count⟩ := result
      unfold deleteContactRequestsCreatedBefore at outcome
      split at outcome
      · cases outcome
      · obtain ⟨purged, executed, same⟩ := bind_ok.mp outcome
        cases same
        exact .inl (Store.execute_ok.mp executed)

theorem purgeExpiredContactRequests_subset :
    ∀ row ∈ (purgeExpiredContactRequests retentionMs database now).1.tables, row ∈ database.tables := by
  intro row member
  rcases @purgeExpiredContactRequests_tables retentionMs database now with purged | ⟨same, _⟩
  · rw [purged] at member
    exact List.mem_of_mem_filter member
  · rwa [same] at member

/-- A submission meets the request of its id, or it stores a new one to be notified. -/
theorem createContactRequest_ok {created : Bool}
    (done : createContactRequest toLowerCase database input = .ok (after, request, created)) :
    request.id = trim input.id ∧
      ((after = database ∧ request ∈ database.tables) ∨
        after.tables = database.tables ++ [request] ∧ request.notificationStatus = .pending ∧
          ∀ row ∈ database.tables, row.id ≠ request.id) := by
  obtain ⟨row, accepted, submitted⟩ := bind_ok.mp done
  have id : row.id = trim input.id := congrArg Submission.id (contactRequestRow_ok accepted)
  rcases submitContactRequest_ok submitted with ⟨_, rfl, found⟩ | ⟨_, rfl, written, fresh, _⟩
  · exact ⟨(lookup_key found).trans id, .inl ⟨rfl, lookup_mem found⟩⟩
  · refine ⟨id, .inr ⟨written, ?_, lookup_eq_none.mp fresh⟩⟩
    unfold contactRequestRow at accepted
    obtain ⟨_, _, accepted⟩ := bind_ok.mp accepted
    obtain ⟨_, _, accepted⟩ := bind_ok.mp accepted
    obtain ⟨_, _, accepted⟩ := bind_ok.mp accepted
    obtain ⟨_, _, accepted⟩ := bind_ok.mp accepted
    obtain ⟨_, _, accepted⟩ := bind_ok.mp accepted
    obtain ⟨_, _, accepted⟩ := bind_ok.mp accepted
    obtain ⟨_, _, accepted⟩ := bind_ok.mp accepted
    obtain ⟨_, _, accepted⟩ := bind_ok.mp accepted
    obtain ⟨_, _, accepted⟩ := bind_ok.mp accepted
    cases accepted
    rfl

/-- What `setContactNotificationResult` writes. -/
def withNotificationResult (sent : Bool) (providerMessageId : Option String) (now : Int) (request : ContactRequestRow) :
    ContactRequestRow :=
  { request with
    notificationStatus := if sent then .sent else .failed
    providerMessageId := (providerMessageId.map trim).filter (· ≠ "")
    updatedAt := now }

/-- A result is written to the request, or the request is not stored. -/
theorem setContactNotificationResult_cases (database : ContactDatabase) (requestId : String) (sent : Bool)
    (providerMessageId : Option String) (now : Int) :
    (∃ after request,
      setContactNotificationResult database requestId sent providerMessageId now = .ok (after, request) ∧
        after.tables = updateWhere (fun request => request.id = requestId)
          (withNotificationResult sent providerMessageId now) database.tables) ∨
      ∃ failure, setContactNotificationResult database requestId sent providerMessageId now = .error failure ∧
        ∀ row ∈ database.tables, row.id ≠ requestId := by
  have consistent : contactSchema.Consistent (updateWhere (fun request => request.id = requestId)
      (withNotificationResult sent providerMessageId now) database.tables) := by
    rintro ⟨⟩
    have ids : (database.tables.map (·.id)).Nodup := database.consistent .primaryKey
    have same : ((updateWhere (fun request => request.id = requestId)
        (withNotificationResult sent providerMessageId now) database.tables).map (·.id)) = database.tables.map (·.id) :=
      map_updateWhere fun _ => rfl
    change ((updateWhere _ _ _).map _).Nodup
    rw [same]
    exact ids
  have written : database.execute ContactFailure.constraint (updateWhere (fun request => request.id = requestId)
      (withNotificationResult sent providerMessageId now)) = .ok ⟨_, consistent⟩ := Store.execute_of_consistent consistent
  have found : getContactRequestById ⟨_, consistent⟩ requestId =
      (getContactRequestById database requestId).map _ := lookup_updateWhere fun _ _ => rfl
  unfold setContactNotificationResult
  cases stored : getContactRequestById database requestId with
  | none =>
      rw [stored] at found
      refine .inr ⟨.error "Contact request was not found", ?_, lookup_eq_none.mp stored⟩
      exact bind_error.mpr (.inr ⟨_, written, by rw [found]; rfl⟩)
  | some request =>
      rw [stored] at found
      exact .inl ⟨_, _, bind_ok.mpr ⟨_, written, by rw [found]; rfl⟩, rfl⟩

theorem submitContact_cases (purgedAt : Int) :
    (desk.submitContact toLowerCase retentionMs input purgedAt).notified = desk.notified ∧
      (((desk.submitContact toLowerCase retentionMs input purgedAt).sending = desk.sending ∧
          ∀ row ∈ (desk.submitContact toLowerCase retentionMs input purgedAt).database.tables,
            row ∈ desk.database.tables) ∨
        ∃ request : ContactRequestRow, request.id = trim input.id ∧ request.notificationStatus ≠ .sent ∧
          (desk.submitContact toLowerCase retentionMs input purgedAt).sending = request.id :: desk.sending ∧
          (∀ row ∈ (desk.submitContact toLowerCase retentionMs input purgedAt).database.tables,
            row ∈ desk.database.tables ∨ row = request) ∧
          (request ∈ desk.database.tables ∨
            ∀ row ∈ desk.database.tables, row.id = request.id → row.createdAt < max 0 (purgedAt - retentionMs))) := by
  have subset := @purgeExpiredContactRequests_subset retentionMs desk.database purgedAt
  have tables := @purgeExpiredContactRequests_tables retentionMs desk.database purgedAt
  unfold ContactDesk.submitContact
  generalize purgeExpiredContactRequests retentionMs desk.database purgedAt = result at subset tables ⊢
  obtain ⟨purged, outcome⟩ := result
  cases outcome with
  | error failure => exact ⟨rfl, .inl ⟨rfl, subset⟩⟩
  | ok count =>
      replace tables := tables.resolve_right (by rintro ⟨_, _, impossible⟩; cases impossible)
      cases done : createContactRequest toLowerCase purged input with
      | error failure =>
          simp only [done, commit_error]
          exact ⟨trivial, .inl ⟨trivial, subset⟩⟩
      | ok result =>
          obtain ⟨after, request, created⟩ := result
          obtain ⟨id, stored⟩ := createContactRequest_ok done
          simp only [done, commit_ok]
          refine ⟨trivial, ?_⟩
          rcases stored with ⟨rfl, member⟩ | ⟨written, pending, fresh⟩
          · by_cases sent : request.notificationStatus = .sent
            · exact .inl ⟨if_pos sent, subset⟩
            · exact .inr ⟨request, id, sent, if_neg sent, fun row member => .inl (subset row member),
                .inl (subset request member)⟩
          · have unsent : request.notificationStatus ≠ .sent := by rw [pending]; decide
            refine .inr ⟨request, id, unsent, if_neg unsent, fun row member => ?_, .inr fun row member same => ?_⟩
            · rw [written, List.mem_append, List.mem_singleton] at member
              exact member.imp_left (subset row)
            · by_contra young
              refine fresh row ?_ same
              have kept : row ∈ purged.tables := by
                rw [tables, List.mem_filter]
                exact ⟨member, decide_eq_true (Int.not_lt.mp young)⟩
              exact kept

theorem settle_tables (receipt : Option String) (sentAt failedAt : Int) :
    ∃ now, (desk.settle requestId sentAt failedAt receipt).database.tables =
      updateWhere (fun request => request.id = requestId) (withNotificationResult receipt.isSome receipt now)
        desk.database.tables := by
  have failed (database : ContactDatabase) : (notificationFailed database requestId failedAt).tables =
      updateWhere (fun request => request.id = requestId) (withNotificationResult false none failedAt)
        database.tables := by
    rcases setContactNotificationResult_cases database requestId false none failedAt with
      ⟨after, request, done, written⟩ | ⟨failure, refused, absent⟩
    · rw [notificationFailed, done, commit_ok, written]
    · rw [notificationFailed, refused, commit_error, updateWhere_of_none fun row member => decide_eq_false (absent row member)]
  cases receipt with
  | none => exact ⟨failedAt, failed desk.database⟩
  | some providerMessageId =>
      refine ⟨sentAt, ?_⟩
      rcases setContactNotificationResult_cases desk.database requestId true (some providerMessageId) sentAt with
        ⟨after, request, done, written⟩ | ⟨failure, refused, absent⟩
      · simp only [ContactDesk.settle, done, commit_ok, written, Option.isSome_some]
      · have unselected : ∀ row ∈ desk.database.tables, decide (row.id = requestId) = false :=
          fun row member => decide_eq_false (absent row member)
        simp only [ContactDesk.settle, refused, commit_error, failed]
        rw [updateWhere_of_none unselected, updateWhere_of_none unselected]

/-- Every request stood there before, with its notification as it is. -/
def Unmoved (before after : ContactDatabase) : Prop :=
  ∀ later ∈ after.tables, ∃ earlier ∈ before.tables, earlier.id = later.id ∧
    earlier.notificationStatus = later.notificationStatus ∧ earlier.providerMessageId = later.providerMessageId

theorem Unmoved.of_subset (subset : ∀ row ∈ after.tables, row ∈ database.tables) : Unmoved database after :=
  fun later member => ⟨later, subset later member, rfl, rfl, rfl⟩

theorem updateContactRequestStatus_unmoved (status : ContactRequestStatus) :
    Unmoved database (commit database (updateContactRequestStatus database requestId status now)).1 := by
  refine commit_preserves (Unmoved database) (.of_subset fun _ => id) ?_
  intro after request done later member
  obtain ⟨stored, executed, reread⟩ := bind_ok.mp done
  cases reread
  rw [Store.execute_ok.mp executed] at member
  obtain ⟨earlier, known, rfl⟩ := mem_updateWhere.mp member
  refine ⟨earlier, known, ?_⟩
  split <;> exact ⟨rfl, rfl, rfl⟩

/-! ## The order of the desk -/

/-- At most one send is under way for an id, and the requests stored as sent are those
whose send has succeeded. -/
structure Orderly (desk : ContactDesk) : Prop where
  alone : desk.sending.Nodup
  once : desk.notified.Nodup
  settled : ∀ requestId ∈ desk.notified, requestId ∉ desk.sending
  recorded : ∀ row ∈ desk.database.tables, row.notificationStatus = .sent ↔ row.id ∈ desk.notified

theorem Orderly.unmoved (orderly : Orderly desk) (same : Unmoved desk.database after) :
    Orderly { desk with database := after } where
  alone := orderly.alone
  once := orderly.once
  settled := orderly.settled
  recorded later member := by
    obtain ⟨earlier, known, id, status, _⟩ := same later member
    rw [← id, ← status]
    exact orderly.recorded earlier known

/-- A request that was notified keeps its notification. -/
def NotifiedKept (before after : ContactDesk) : Prop :=
  ∀ later ∈ after.database.tables, later.id ∈ before.notified →
    ∃ earlier ∈ before.database.tables, earlier.id = later.id ∧
      earlier.notificationStatus = later.notificationStatus ∧ earlier.providerMessageId = later.providerMessageId

theorem Orderly.submit (orderly : Orderly desk) {purgedAt : Int} (apart : Apart retentionMs desk (.submit input purgedAt)) :
    Orderly (desk.submitContact toLowerCase retentionMs input purgedAt) ∧
      NotifiedKept desk (desk.submitContact toLowerCase retentionMs input purgedAt) := by
  obtain ⟨notified, effect⟩ := @submitContact_cases toLowerCase retentionMs desk input purgedAt
  generalize desk.submitContact toLowerCase retentionMs input purgedAt = next at notified effect ⊢
  obtain ⟨database, sending, successes⟩ := next
  obtain rfl : successes = desk.notified := notified
  rcases effect with ⟨same, subset⟩ | ⟨request, id, unsent, started, rows, origin⟩
  · obtain rfl : sending = desk.sending := same
    have unmoved : Unmoved desk.database database := .of_subset subset
    exact ⟨orderly.unmoved unmoved, fun later member _ => unmoved later member⟩
  · obtain rfl : sending = request.id :: desk.sending := started
    obtain ⟨idle, known⟩ := apart
    have fresh : request.id ∉ desk.notified := by
      intro succeeded
      rcases origin with stored | old
      · exact unsent ((orderly.recorded request stored).mpr succeeded)
      · obtain ⟨row, member, same, young⟩ := known (id ▸ succeeded)
        have aged := old row member (same.trans id.symm)
        omega
    refine ⟨⟨List.nodup_cons.mpr ⟨id ▸ idle, orderly.alone⟩, orderly.once, fun other succeeded => ?_, fun row member => ?_⟩,
      fun later member succeeded => ?_⟩
    · rw [List.mem_cons, not_or]
      exact ⟨fun same => fresh (same ▸ succeeded), orderly.settled other succeeded⟩
    · rcases rows row member with stored | rfl
      · exact orderly.recorded row stored
      · exact ⟨fun sent => absurd sent unsent, fun succeeded => absurd succeeded fresh⟩
    · rcases rows later member with stored | rfl
      · exact ⟨later, stored, rfl, rfl, rfl⟩
      · exact absurd succeeded fresh

theorem Orderly.settle (orderly : Orderly desk) (sending : requestId ∈ desk.sending) (receipt : Option String)
    (sentAt failedAt : Int) :
    Orderly (desk.settle requestId sentAt failedAt receipt) ∧
      NotifiedKept desk (desk.settle requestId sentAt failedAt receipt) := by
  obtain ⟨now, written⟩ := @settle_tables desk requestId receipt sentAt failedAt
  have fresh : requestId ∉ desk.notified := fun succeeded => orderly.settled requestId succeeded sending
  have ended : (desk.settle requestId sentAt failedAt receipt).sending = desk.sending.erase requestId := by
    cases receipt <;> rfl
  have rows : ∀ row ∈ (desk.settle requestId sentAt failedAt receipt).database.tables,
      (row ∈ desk.database.tables ∧ row.id ≠ requestId) ∨
        row.id = requestId ∧ (row.notificationStatus = .sent ↔ receipt.isSome = true) := by
    intro row member
    rw [written] at member
    obtain ⟨earlier, known, rfl⟩ := mem_updateWhere.mp member
    by_cases same : earlier.id = requestId
    · simp only [same, decide_true, if_true]
      refine .inr ⟨same, ?_⟩
      cases receipt <;> simp [withNotificationResult]
    · simp only [same, decide_false, Bool.false_eq_true, if_false]
      exact .inl ⟨known, same⟩
  refine ⟨⟨ended ▸ orderly.alone.erase requestId, ?_, ?_, ?_⟩, ?_⟩
  · cases receipt with
    | none => exact orderly.once
    | some providerMessageId => exact List.nodup_cons.mpr ⟨fresh, orderly.once⟩
  · intro other succeeded under
    rw [ended, orderly.alone.mem_erase_iff] at under
    cases receipt with
    | none => exact orderly.settled other succeeded under.2
    | some providerMessageId =>
        rcases List.mem_cons.mp succeeded with same | before
        · exact under.1 same
        · exact orderly.settled other before under.2
  · intro row member
    rcases rows row member with ⟨known, other⟩ | ⟨same, status⟩
    · rw [orderly.recorded row known]
      cases receipt with
      | none => exact Iff.rfl
      | some providerMessageId => exact ⟨List.mem_cons_of_mem _, fun listed => (List.mem_cons.mp listed).resolve_left other⟩
    · rw [status, same]
      cases receipt with
      | none => exact iff_of_false (by simp) fresh
      | some providerMessageId => exact iff_of_true rfl List.mem_cons_self
  · intro later member succeeded
    rcases rows later member with ⟨known, _⟩ | ⟨same, _⟩
    · exact ⟨later, known, rfl, rfl, rfl⟩
    · exact absurd (same ▸ succeeded) fresh

theorem Orderly.receive (orderly : Orderly desk) (event : NotificationEvent)
    (enabled : (contactDesk toLowerCase retentionMs).Enabled desk event) (apart : Apart retentionMs desk event) :
    Orderly (desk.receive toLowerCase retentionMs event) ∧
      NotifiedKept desk (desk.receive toLowerCase retentionMs event) ∧
        ∀ requestId ∈ desk.notified, requestId ∈ (desk.receive toLowerCase retentionMs event).notified := by
  cases event with
  | submit input purgedAt =>
      obtain ⟨next, kept⟩ := @Orderly.submit toLowerCase retentionMs desk input orderly purgedAt apart
      have same := (@submitContact_cases toLowerCase retentionMs desk input purgedAt).1
      rw [ContactDesk.receive, same]
      exact ⟨next, kept, fun _ => id⟩
  | settle requestId receipt sentAt failedAt =>
      obtain ⟨next, kept⟩ := orderly.settle enabled receipt sentAt failedAt
      refine ⟨next, kept, fun other succeeded => ?_⟩
      cases receipt with
      | none => exact succeeded
      | some providerMessageId => exact List.mem_cons_of_mem requestId succeeded
  | setStatus requestId status now =>
      have unmoved := @updateContactRequestStatus_unmoved desk.database requestId now status
      exact ⟨orderly.unmoved unmoved, fun later member _ => unmoved later member, fun _ => id⟩
  | purge now =>
      have unmoved := Unmoved.of_subset (@purgeExpiredContactRequests_subset retentionMs desk.database now)
      exact ⟨orderly.unmoved unmoved, fun later member _ => unmoved later member, fun _ => id⟩

end Events

/-! ## Whole runs -/

section Runs

variable {toLowerCase : String → String} {retentionMs : Int} {initial origin desk next : ContactDesk}
  {events first later : List NotificationEvent}

theorem NotifiedKept.trans (before : NotifiedKept origin desk) (after : NotifiedKept desk next)
    (successes : ∀ requestId ∈ origin.notified, requestId ∈ desk.notified) : NotifiedKept origin next := by
  intro row member succeeded
  obtain ⟨middle, stored, id, status, message⟩ := after row member (successes _ succeeded)
  obtain ⟨earlier, known, id', status', message'⟩ := before middle stored (id ▸ succeeded)
  exact ⟨earlier, known, id'.trans id, status'.trans status, message'.trans message⟩

theorem orderly_start (start : (contactDesk toLowerCase retentionMs).Initial initial) : Orderly initial := by
  obtain ⟨idle, successes⟩ := start
  have distinct : (initial.database.tables.map (·.id)).Nodup := initial.database.consistent .primaryKey
  refine ⟨idle ▸ List.nodup_nil, ?_, fun requestId _ => idle ▸ List.not_mem_nil, fun row member => ?_⟩
  · rw [successes]
    exact distinct.sublist (List.Sublist.map _ List.filter_sublist)
  · rw [successes, List.mem_map]
    constructor
    · exact fun sent => ⟨row, List.mem_filter.mpr ⟨member, decide_eq_true sent⟩, rfl⟩
    · rintro ⟨other, listed, same⟩
      obtain ⟨stored, sent⟩ := List.mem_filter.mp listed
      obtain rfl : other = row := eq_of_key distinct stored member same
      exact of_decide_eq_true sent

/-- The run lemma: from any orderly desk, what was notified keeps its notification. -/
theorem Orderly.run (orderly : Orderly origin) (runs : (contactDesk toLowerCase retentionMs).Runs origin events)
    (met : (contactDesk toLowerCase retentionMs).Along (Apart retentionMs) origin events) :
    Orderly ((contactDesk toLowerCase retentionMs).run origin events) ∧
      NotifiedKept origin ((contactDesk toLowerCase retentionMs).run origin events) ∧
        ∀ requestId ∈ origin.notified,
          requestId ∈ ((contactDesk toLowerCase retentionMs).run origin events).notified := by
  have start : Orderly origin ∧ NotifiedKept origin origin ∧ ∀ requestId ∈ origin.notified, requestId ∈ origin.notified :=
    ⟨orderly, fun row member _ => ⟨row, member, rfl, rfl, rfl⟩, fun _ => id⟩
  have step (desk : ContactDesk) (event : NotificationEvent)
      (allowed : (contactDesk toLowerCase retentionMs).Enabled desk event ∧ Apart retentionMs desk event)
      (holds : Orderly desk ∧ NotifiedKept origin desk ∧ ∀ requestId ∈ origin.notified, requestId ∈ desk.notified) :
      True ∧ Orderly ((contactDesk toLowerCase retentionMs).step desk event) ∧
        NotifiedKept origin ((contactDesk toLowerCase retentionMs).step desk event) ∧
          ∀ requestId ∈ origin.notified,
            requestId ∈ ((contactDesk toLowerCase retentionMs).step desk event).notified := by
    obtain ⟨before, kept, successes⟩ := holds
    obtain ⟨after, moved, more⟩ := before.receive event allowed.1 allowed.2
    exact ⟨trivial, after, kept.trans moved successes, fun requestId => more requestId ∘ successes requestId⟩
  exact ((runs.and met).invariant start step).2

theorem Orderly.sentOnce (before : Orderly desk) (after : Orderly next) (kept : NotifiedKept desk next)
    (successes : ∀ requestId ∈ desk.notified, requestId ∈ next.notified) : SentOnce desk next := by
  refine ⟨fun row member sent row' member' same => ?_, fun requestId succeeded => ?_, after.once⟩
  · have succeeded : row.id ∈ desk.notified := (before.recorded row member).mp sent
    obtain ⟨earlier, stored, id, status, message⟩ := kept row' member' (same ▸ succeeded)
    have distinct : (desk.database.tables.map (·.id)).Nodup := desk.database.consistent .primaryKey
    obtain rfl : earlier = row := eq_of_key distinct stored member (id.trans same)
    exact ⟨status ▸ sent, message.symm⟩
  · exact after.settled requestId (successes requestId succeeded)

/-- In every run in which no submission comes while a send for its id is under way, or
back to a request that was notified and has been deleted: what is stored as sent stays so
with its provider's id, nothing is sent again after a success, and no send succeeds
twice. -/
theorem contactNotification_once (start : (contactDesk toLowerCase retentionMs).Initial initial)
    (runs : (contactDesk toLowerCase retentionMs).Runs initial (first ++ later))
    (met : (contactDesk toLowerCase retentionMs).Along (Apart retentionMs) initial (first ++ later)) :
    SentOnce ((contactDesk toLowerCase retentionMs).run initial first)
      ((contactDesk toLowerCase retentionMs).run initial (first ++ later)) := by
  obtain ⟨runsFirst, runsLater⟩ := System.along_append.mp runs
  obtain ⟨metFirst, metLater⟩ := System.along_append.mp met
  obtain ⟨before, _, _⟩ := (orderly_start start).run runsFirst metFirst
  obtain ⟨after, kept, successes⟩ := before.run runsLater metLater
  rw [System.run_append]
  exact before.sentOnce after kept successes

end Runs

section Sample

def emptyDesk : ContactDesk where
  database := Store.load [] contactSchema_nil

def submissionId : String := "11111111-1111-4111-8111-111111111111"

/-- The first send fails, the second one succeeds, and the request comes a third time. -/
def retried : List NotificationEvent :=
  [.submit (question submissionId 0) 0, .settle submissionId none 10 10, .submit (question submissionId 20) 20,
    .settle submissionId (some "m1") 30 30, .submit (question submissionId 40) 40]

/-- Two submissions of one request: one send succeeds and then the other one fails. -/
def doubled : List NotificationEvent :=
  [.submit (question submissionId 0) 0, .submit (question submissionId 1) 1,
    .settle submissionId (some "m1") 10 10, .settle submissionId none 20 20]

theorem contactNotification_retried :
    SentOnce ((contactDesk id 1000).run emptyDesk (retried.take 4)) ((contactDesk id 1000).run emptyDesk retried) :=
  @contactNotification_once id 1000 emptyDesk (retried.take 4) (retried.drop 4) ⟨rfl, rfl⟩ (by decide +kernel)
    (by decide +kernel)

/-- The request is stored as sent, and then as failed and without its provider's id. -/
theorem notification_lost :
    (contactDesk id 1000).Initial emptyDesk ∧ (contactDesk id 1000).Runs emptyDesk doubled ∧
      (((contactDesk id 1000).run emptyDesk (doubled.take 3)).database.tables.map fun row =>
        (row.notificationStatus, row.providerMessageId)) = [(.sent, some "m1")] ∧
      (((contactDesk id 1000).run emptyDesk doubled).database.tables.map fun row =>
        (row.notificationStatus, row.providerMessageId)) = [(.failed, none)] :=
  ⟨⟨rfl, rfl⟩, by decide +kernel⟩

end Sample

end NebulaCloud.Contact
