import NebulaCloud.Data.SlidingWindow
import NebulaCloud.Data.System
import NebulaCloud.Database.ContactRequest

namespace NebulaCloud.Contact

open NebulaCloud.Data NebulaCloud.Database NebulaCloud.Platform

/-! # The throttle of the contact form

Submissions are counted in the table that they are stored in, by their source and by
their address. -/

/-- What no later operation changes of a request. -/
structure Submission where
  id : String
  email : String
  sourceHash : String
  createdAt : Int
deriving DecidableEq

def submission (request : ContactRequestRow) : Submission where
  id := request.id
  email := request.email
  sourceHash := request.sourceHash
  createdAt := request.createdAt

structure ContactForm where
  database : ContactDatabase
  clock : Int
  /-- The requests created, newest first. -/
  accepted : List Submission := []

inductive ContactEvent
  | create (input : CreateContactRequestInput)
  | notified (requestId : String) (sent : Bool) (providerMessageId : Option String) (now : Int)
  | setStatus (requestId : String) (status : ContactRequestStatus) (now : Int)

section Form

variable (toLowerCase : String → String) (limits : ContactLimits)

/-- The form after a submission with an outcome. -/
def ContactForm.submitted (form : ContactForm) (now : Int) :
    ContactDatabase × Except ContactFailure (ContactRequestRow × Bool) → ContactForm
  | (database, .error _) => { form with database, clock := now }
  | (database, .ok (request, created)) =>
      { database
        clock := now
        accepted := if created then submission request :: form.accepted else form.accepted }

def ContactForm.create (form : ContactForm) (input : CreateContactRequestInput) : ContactForm :=
  form.submitted input.now (commit form.database (createContactRequest toLowerCase form.database input))

def ContactForm.receive (form : ContactForm) : ContactEvent → ContactForm
  | .create input => form.create toLowerCase input
  | .notified requestId sent providerMessageId now =>
      { form with
        database := (commit form.database
          (setContactNotificationResult form.database requestId sent providerMessageId now)).1 }
  | .setStatus requestId status now =>
      { form with database := (commit form.database (updateContactRequestStatus form.database requestId status now)).1 }

/-- Submissions under fixed limits, in the order of their clocks. -/
def contactForm : System ContactForm ContactEvent where
  Initial form := form.accepted = []
  Enabled form
    | .create input => input.limits = limits ∧ form.clock ≤ input.now
    | .notified .. | .setStatus .. => True
  step := ContactForm.receive toLowerCase

instance (form : ContactForm) (event : ContactEvent) :
    Decidable ((contactForm toLowerCase limits).Enabled form event) :=
  match event with
  | .create _ => inferInstanceAs (Decidable (_ ∧ _))
  | .notified .. | .setStatus .. => .isTrue trivial

end Form

/-! ## One submission -/

section Submissions

variable {toLowerCase : String → String} {limits : ContactLimits} {database after : ContactDatabase}
  {request row : ContactRequestRow} {input : CreateContactRequestInput} {created : Bool} {form : ContactForm}

/-- A submission meets its own request again, or it is stored with room below both
limits. -/
theorem submitContactRequest_ok (done : submitContactRequest database limits row = .ok (after, request, created)) :
    (created = false ∧ after = database ∧ getContactRequestById database row.id = some request) ∨
      created = true ∧ request = row ∧ after.tables = database.tables ++ [row] ∧
        getContactRequestById database row.id = none ∧
        contactCount (·.sourceHash) database.tables row.sourceHash (row.createdAt - limits.windowMs) <
          limits.maximumPerSource ∧
        contactCount (·.email) database.tables row.email (row.createdAt - limits.windowMs) <
          limits.maximumPerEmail := by
  unfold submitContactRequest at done
  cases found : getContactRequestById database row.id with
  | some existing =>
      rw [found] at done
      cases done
      exact .inl ⟨rfl, rfl, rfl⟩
  | none =>
      rw [found] at done
      simp only at done
      split at done
      · cases done
      · rename_i room
        obtain ⟨stored, inserted, reread⟩ := bind_ok.mp done
        have written := Store.execute_ok.mp inserted
        have resolved : getContactRequestById stored row.id = some row := by
          rw [getContactRequestById, written]
          exact (lookup_append_fresh found).trans (if_pos rfl)
        rw [resolved] at reread
        cases reread
        exact .inr ⟨rfl, rfl, written, rfl, by omega, by omega⟩

theorem boundedContactText_ok {value field result : String} {minimum maximum : Nat}
    (bounded : boundedContactText value field minimum maximum = .ok result) : result = trim value := by
  unfold boundedContactText at bounded
  simp only at bounded
  split at bounded
  · cases bounded
  · cases bounded
    rfl

/-- A submission is stored under its trimmed id, its trimmed source and its normalised
address, at the time of its clock. -/
theorem contactRequestRow_ok (accepted : contactRequestRow toLowerCase input = .ok row) :
    submission row =
      ⟨trim input.id, toLowerCase (trim input.email), trim input.sourceHash, input.now⟩ := by
  obtain ⟨id, idText, accepted⟩ := bind_ok.mp accepted
  obtain ⟨name, _, accepted⟩ := bind_ok.mp accepted
  obtain ⟨email, emailText, accepted⟩ := bind_ok.mp accepted
  obtain ⟨message, _, accepted⟩ := bind_ok.mp accepted
  obtain ⟨sourceHash, sourceText, accepted⟩ := bind_ok.mp accepted
  obtain ⟨privacyVersion, _, accepted⟩ := bind_ok.mp accepted
  obtain ⟨_, _, accepted⟩ := bind_ok.mp accepted
  obtain ⟨_, _, accepted⟩ := bind_ok.mp accepted
  obtain ⟨_, _, accepted⟩ := bind_ok.mp accepted
  cases accepted
  rw [boundedContactText_ok idText, boundedContactText_ok emailText, boundedContactText_ok sourceText]
  rfl

theorem contactCount_eq (field : Submission → String) (requests : List ContactRequestRow) (value : String)
    (since : Int) :
    contactCount (fun request => field (submission request)) requests value since =
      (requests.map submission).countP fun entry => field entry = value ∧ since ≤ entry.createdAt := by
  rw [contactCount, List.countP_map]
  rfl

/-! ## Every event keeps the throttle -/

/-- What a submission does to the form, by its outcome. -/
theorem create_refused {failure : ContactFailure}
    (refused : createContactRequest toLowerCase form.database input = .error failure) :
    form.create toLowerCase input = { form with clock := input.now } := by
  rw [ContactForm.create, refused]
  rfl

theorem create_ok (done : createContactRequest toLowerCase form.database input = .ok (after, request, created)) :
    form.create toLowerCase input =
      { database := after
        clock := input.now
        accepted := if created then submission request :: form.accepted else form.accepted } := by
  rw [ContactForm.create, done]
  rfl

/-- The accepted requests of a column's value stay below its limit. -/
def ThrottledBy (field : Submission → String) (window limit : Int) (accepted : List Submission) : Prop :=
  ∀ value, Throttled Submission.createdAt window limit.toNat (accepted.filter fun entry => field entry = value)

structure Recorded (limits : ContactLimits) (form : ContactForm) : Prop where
  stored : ∃ earlier, form.database.tables.map submission = earlier ++ form.accepted.reverse
  sources : ThrottledBy Submission.sourceHash limits.windowMs limits.maximumPerSource form.accepted
  emails : ThrottledBy Submission.email limits.windowMs limits.maximumPerEmail form.accepted

/-- The stored requests are at least the accepted ones, so that room in the table is
room in the history. -/
theorem ThrottledBy.accept {field : Submission → String} {window limit : Int} {accepted earlier : List Submission}
    (throttled : ThrottledBy field window limit accepted) (entry : Submission)
    (room : (((earlier ++ accepted.reverse).countP fun other =>
      field other = field entry ∧ entry.createdAt - window ≤ other.createdAt : Nat) : Int) < limit) :
    ThrottledBy field window limit (entry :: accepted) := by
  intro value
  by_cases same : field entry = value
  · subst same
    rw [List.filter_cons_of_pos (by simp)]
    refine ⟨?_, throttled _⟩
    rw [List.countP_filter]
    rw [List.countP_append, List.countP_reverse] at room
    have counted : (accepted.countP fun other =>
          decide (entry.createdAt - window ≤ other.createdAt) && decide (field other = field entry)) =
        accepted.countP fun other =>
          decide (field other = field entry ∧ entry.createdAt - window ≤ other.createdAt) := by
      apply List.countP_congr
      intro other _
      simp [and_comm]
    rw [counted]
    omega
  · rw [List.filter_cons_of_neg (by simpa using same)]
    exact throttled value

/-- Neither result of a notification nor a status touches a submission. -/
theorem Recorded.updated (recorded : Recorded limits form)
    (same : after.tables.map submission = form.database.tables.map submission) :
    Recorded limits { form with database := after } where
  stored := by
    obtain ⟨earlier, stored⟩ := recorded.stored
    exact ⟨earlier, same.trans stored⟩
  sources := recorded.sources
  emails := recorded.emails

theorem Recorded.create (recorded : Recorded limits form) (fixed : input.limits = limits) :
    Recorded limits (form.create toLowerCase input) := by
  have unchanged : Recorded limits { form with clock := input.now } :=
    ⟨recorded.stored, recorded.sources, recorded.emails⟩
  cases outcome : createContactRequest toLowerCase form.database input with
  | error failure =>
      rw [create_refused outcome]
      exact unchanged
  | ok result =>
      obtain ⟨after, request, created⟩ := result
      rw [create_ok outcome]
      obtain ⟨row, _, submitted⟩ := bind_ok.mp outcome
      rw [fixed] at submitted
      rcases submitContactRequest_ok submitted with ⟨rfl, rfl, _⟩ | ⟨rfl, rfl, written, _, sourceRoom, emailRoom⟩
      · exact unchanged
      · obtain ⟨earlier, stored⟩ := recorded.stored
        have sourceCount := contactCount_eq Submission.sourceHash form.database.tables request.sourceHash
          (request.createdAt - limits.windowMs)
        have emailCount := contactCount_eq Submission.email form.database.tables request.email
          (request.createdAt - limits.windowMs)
        rw [stored] at sourceCount emailCount
        simp only [submission] at sourceCount emailCount
        rw [sourceCount] at sourceRoom
        rw [emailCount] at emailRoom
        refine ⟨⟨earlier, ?_⟩, recorded.sources.accept _ sourceRoom, recorded.emails.accept _ emailRoom⟩
        simp [written, stored]

theorem Recorded.receive (recorded : Recorded limits form) (event : ContactEvent)
    (enabled : (contactForm toLowerCase limits).Enabled form event) :
    Recorded limits (form.receive toLowerCase event) := by
  cases event with
  | create input =>
      have created : Recorded limits (form.create toLowerCase input) := recorded.create enabled.1
      exact created
  | notified requestId sent providerMessageId now =>
      refine recorded.updated ?_
      refine commit_preserves (fun after : ContactDatabase => after.tables.map submission = _) rfl ?_
      intro after request done
      obtain ⟨stored, executed, reread⟩ := bind_ok.mp done
      split at reread
      · cases reread
      · cases reread
        rw [Store.execute_ok.mp executed]
        exact map_updateWhere fun _ => rfl
  | setStatus requestId status now =>
      refine recorded.updated ?_
      refine commit_preserves (fun after : ContactDatabase => after.tables.map submission = _) rfl ?_
      intro after request done
      obtain ⟨stored, executed, reread⟩ := bind_ok.mp done
      cases reread
      rw [Store.execute_ok.mp executed]
      exact map_updateWhere fun _ => rfl

/-- A submission under an id that is stored is not created. -/
theorem create_repeated {existing : ContactRequestRow}
    (known : getContactRequestById form.database (trim input.id) = some existing) :
    form.create toLowerCase input = { form with clock := input.now } := by
  cases outcome : createContactRequest toLowerCase form.database input with
  | error failure => exact create_refused outcome
  | ok result =>
      obtain ⟨row, accepted, submitted⟩ := bind_ok.mp outcome
      have id : row.id = trim input.id := congrArg Submission.id (contactRequestRow_ok accepted)
      unfold submitContactRequest at submitted
      rw [id, known] at submitted
      cases submitted
      exact create_ok outcome

theorem create_created (done : createContactRequest toLowerCase form.database input = .ok (after, request, true)) :
    (form.create toLowerCase input).accepted =
      ⟨trim input.id, toLowerCase (trim input.email), trim input.sourceHash, input.now⟩ :: form.accepted := by
  obtain ⟨row, accepted, submitted⟩ := bind_ok.mp done
  rcases submitContactRequest_ok submitted with ⟨impossible, _⟩ | ⟨_, rfl, _⟩
  · cases impossible
  · rw [create_ok done, if_pos rfl, contactRequestRow_ok accepted]

/-- No id is accepted twice. -/
theorem Recorded.ids (recorded : Recorded limits form) : (form.accepted.map (·.id)).Nodup := by
  obtain ⟨earlier, stored⟩ := recorded.stored
  have distinct : (form.database.tables.map (·.id)).Nodup := form.database.consistent .primaryKey
  have ids : form.database.tables.map (·.id) = (form.database.tables.map submission).map (·.id) := by
    rw [List.map_map]
    rfl
  rw [ids, stored, List.map_append, List.map_reverse] at distinct
  exact List.nodup_reverse.mp (List.nodup_append.mp distinct).2.1

theorem ThrottledBy.interval {field : Submission → String} {window limit : Int} {accepted : List Submission}
    (throttled : ThrottledBy field window limit accepted) (value : String) (first : Int) :
    (accepted.countP fun entry =>
      field entry = value ∧ first ≤ entry.createdAt ∧ entry.createdAt ≤ first + window) ≤ limit.toNat := by
  have within := (throttled value).interval first
  rw [List.countP_filter] at within
  have counted : (accepted.countP fun entry =>
        decide (field entry = value ∧ first ≤ entry.createdAt ∧ entry.createdAt ≤ first + window)) =
      accepted.countP fun entry =>
        decide (first ≤ entry.createdAt ∧ entry.createdAt ≤ first + window) && decide (field entry = value) := by
    apply List.countP_congr
    intro entry _
    simp only [Bool.and_eq_true, decide_eq_true_eq]
    exact and_comm
  rw [counted]
  exact within

end Submissions

/-! ## Whole runs -/

section Runs

variable {toLowerCase : String → String} {limits : ContactLimits} {initial : ContactForm} {events : List ContactEvent}

theorem recorded_run (start : (contactForm toLowerCase limits).Initial initial)
    (runs : (contactForm toLowerCase limits).Runs initial events) :
    Recorded limits ((contactForm toLowerCase limits).run initial events) := by
  have first : Recorded limits initial := by
    have none : initial.accepted = [] := start
    refine ⟨⟨initial.database.tables.map submission, ?_⟩, ?_, ?_⟩
    · rw [none, List.reverse_nil, List.append_nil]
    · intro value
      simp [none, Throttled]
    · intro value
      simp [none, Throttled]
  have step (form : ContactForm) (event : ContactEvent)
      (enabled : (contactForm toLowerCase limits).Enabled form event) (recorded : Recorded limits form) :
      True ∧ Recorded limits ((contactForm toLowerCase limits).step form event) := by
    have next : Recorded limits (form.receive toLowerCase event) := recorded.receive event enabled
    exact ⟨trivial, next⟩
  exact (System.Along.invariant runs first step).2

/-- For every run under fixed limits: no closed interval of the window's length has more
accepted requests of a source, or of an address, than its limit; a repeated id and a
refused submission leave the table and the counts as they are. -/
theorem contactThrottle (start : (contactForm toLowerCase limits).Initial initial)
    (runs : (contactForm toLowerCase limits).Runs initial events) :
    let form := (contactForm toLowerCase limits).run initial events
    (∀ source first, (form.accepted.countP fun entry =>
        entry.sourceHash = source ∧ first ≤ entry.createdAt ∧ entry.createdAt ≤ first + limits.windowMs) ≤
          limits.maximumPerSource.toNat) ∧
      (∀ email first, (form.accepted.countP fun entry =>
        entry.email = email ∧ first ≤ entry.createdAt ∧ entry.createdAt ≤ first + limits.windowMs) ≤
          limits.maximumPerEmail.toNat) ∧
      (form.database.tables.map (·.id)).Nodup ∧ (form.accepted.map (·.id)).Nodup ∧
      ∀ input,
        (∀ existing ∈ getContactRequestById form.database (trim input.id),
          form.create toLowerCase input = { form with clock := input.now }) ∧
        (∀ failure, createContactRequest toLowerCase form.database input = .error failure →
          form.create toLowerCase input = { form with clock := input.now }) ∧
        ∀ database request, createContactRequest toLowerCase form.database input = .ok (database, request, true) →
          (form.create toLowerCase input).accepted =
            ⟨trim input.id, toLowerCase (trim input.email), trim input.sourceHash, input.now⟩ ::
              form.accepted := by
  intro form
  have recorded := recorded_run start runs
  exact ⟨recorded.sources.interval, recorded.emails.interval, form.database.consistent .primaryKey, recorded.ids,
    fun input => ⟨fun existing known => create_repeated known, fun failure refused => create_refused refused,
      fun database request done => create_created done⟩⟩

end Runs

section Sample

def question (id : String) (now : Int) : CreateContactRequestInput where
  id := id
  name := "Ada"
  email := " ada@acme.test "
  organization := none
  topic := .sales
  message := "How much is it?"
  sourceHash := "0123456789abcdef"
  privacyVersion := "1"
  now := now
  windowMs := some 1000
  maximumPerSource := some 2
  maximumPerEmail := some 2

/-- Three questions at the ends and in the middle of a window, and the second again. -/
def questions : List ContactEvent :=
  [.create (question "a" 0), .create (question "b" 500), .create (question "b" 600), .create (question "c" 1000),
    .create (question "d" 1001)]

def emptyForm : ContactForm where
  database := Store.load [] contactSchema_nil
  clock := 0

/-- The one at the end of the window is refused, the one after it is not. -/
theorem contactThrottle_questions :
    let form := (contactForm id ⟨1000, 2, 2⟩).run emptyForm questions
    form.accepted.map (·.id) = ["d", "b", "a"] ∧
      ∀ first, (form.accepted.countP fun entry =>
        entry.sourceHash = "0123456789abcdef" ∧ first ≤ entry.createdAt ∧ entry.createdAt ≤ first + 1000) ≤ 2 :=
  ⟨by decide +kernel, (@contactThrottle id ⟨1000, 2, 2⟩ emptyForm questions rfl (by decide +kernel)).1 _⟩

end Sample

end NebulaCloud.Contact
