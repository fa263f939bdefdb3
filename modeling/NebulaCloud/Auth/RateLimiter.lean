import NebulaCloud.Data.FixedWindow
import NebulaCloud.Data.System
import NebulaCloud.Data.Upsert
import NebulaCloud.Database.Schema
import NebulaCloud.Platform.Json

namespace NebulaCloud.Auth

/-! The rate limits of the authentication routes, kept in buckets of the database. -/

open NebulaCloud.Data NebulaCloud.Platform
open NebulaCloud.Database (IsTokenHash LengthBetween)

inductive AuthAction
  | signup | login | recovery | resend | invitation
deriving DecidableEq

def AuthAction.text : AuthAction → String
  | .signup => "signup"
  | .login => "login"
  | .recovery => "recovery"
  | .resend => "resend"
  | .invitation => "invitation"

structure AuthRatePolicy where
  action : AuthAction
  ipLimit : Int
  addressLimit : Int
  windowMs : Int
  nonEnumerating : Bool
deriving DecidableEq

def policies : List (String × AuthRatePolicy) :=
  [("/api/auth/sign-up/email", {
      action := .signup, ipLimit := 10, addressLimit := 3, windowMs := 60 * 60 * 1000
      nonEnumerating := false }),
    ("/api/auth/sign-in/email", {
      action := .login, ipLimit := 60, addressLimit := 30, windowMs := 15 * 60 * 1000
      nonEnumerating := false }),
    ("/api/auth/request-password-reset", {
      action := .recovery, ipLimit := 10, addressLimit := 3, windowMs := 60 * 60 * 1000
      nonEnumerating := true }),
    ("/api/auth/send-verification-email", {
      action := .resend, ipLimit := 10, addressLimit := 3, windowMs := 60 * 60 * 1000
      nonEnumerating := true }),
    ("/api/auth/organization/invite-member", {
      action := .invitation, ipLimit := 30, addressLimit := 10, windowMs := 24 * 60 * 60 * 1000
      nonEnumerating := false })]

inductive BucketScope
  | ip | address
deriving DecidableEq

def BucketScope.text : BucketScope → String
  | .ip => "ip"
  | .address => "address"

def AuthRatePolicy.limit (policy : AuthRatePolicy) : BucketScope → Int
  | .ip => policy.ipLimit
  | .address => policy.addressLimit

/-! ## The table `auth_rate_limit_bucket` -/

structure AuthRateLimitBucketRow where
  scope : BucketScope
  subjectHash : String
  action : AuthAction
  windowStartedAt : Int
  requestCount : Int
  updatedAt : Int
deriving DecidableEq

abbrev BucketKey := BucketScope × String × AuthAction

def AuthRateLimitBucketRow.key (bucket : AuthRateLimitBucketRow) : BucketKey :=
  (bucket.scope, bucket.subjectHash, bucket.action)

def AuthRateLimitBucketRow.Checks (bucket : AuthRateLimitBucketRow) : Prop :=
  IsTokenHash bucket.subjectHash ∧ LengthBetween bucket.action.text 64 ∧
    0 ≤ bucket.windowStartedAt ∧ 0 ≤ bucket.requestCount ∧ bucket.windowStartedAt ≤ bucket.updatedAt

instance (bucket : AuthRateLimitBucketRow) : Decidable bucket.Checks :=
  inferInstanceAs (Decidable (_ ∧ _))

inductive BucketConstraint
  | primaryKey | checks
deriving DecidableEq

def bucketSchema : Schema (List AuthRateLimitBucketRow) BucketConstraint where
  Holds
    | .primaryKey, buckets => (buckets.map (·.key)).Nodup
    | .checks, buckets => ∀ bucket ∈ buckets, bucket.Checks
  decidable
    | .primaryKey, buckets => inferInstanceAs (Decidable (buckets.map (·.key)).Nodup)
    | .checks, buckets => inferInstanceAs (Decidable (∀ bucket ∈ buckets, bucket.Checks))
  constraints := [.primaryKey, .checks]
  complete constraint := by cases constraint <;> simp

abbrev BucketDatabase := Store bucketSchema

/-! ## Requests -/

structure AuthRequest where
  method : String
  pathname : String
  clientAddress : Option String
  /-- `Number(content-length)`, where it is finite. -/
  contentLength : Option Rat
  /-- The text of the body and what `JSON.parse` makes of it, where neither throws. -/
  body : Option (String × Option Json)

structure Subject where
  scope : BucketScope
  value : String
  limit : Int
deriving DecidableEq

inductive AuthAnswer
  | passedOn
  | denied (status : Nat) (body : JsonRecord) (retryAfter : Option Int)
  | failed (constraint : BucketConstraint)

section

variable (toLowerCase : String → String) (hmac : String → String)

def readAddress (request : AuthRequest) : Option String :=
  if request.contentLength.any (· > 16 * 1024) then none
  else do
    let (text, value) ← request.body
    if utf16Length text > 16 * 1024 then none
    else
      match (← asRecord value).get "email" with
      | some (.string email) =>
          if trim email = "" then none else some (toLowerCase (trim email))
      | _ => none

def policyOf (request : AuthRequest) : Option AuthRatePolicy :=
  if request.method = "POST" then policies.lookup request.pathname else none

def subjectsOf (request : AuthRequest) (policy : AuthRatePolicy) : List Subject :=
  { scope := .ip, value := request.clientAddress.getD "unavailable", limit := policy.ipLimit } ::
    match readAddress toLowerCase request with
    | none => []
    | some address => [{ scope := .address, value := address, limit := policy.addressLimit }]

/-- The text that is hashed. -/
def Subject.keyText (subject : Subject) : String :=
  subject.scope.text ++ ":" ++ toLowerCase (trim subject.value)

/-- `windowStartedAt` and `requestCount` of the row that replaces `row`. -/
def countRequest (policy : AuthRatePolicy) (timestamp : Int) (row : Option AuthRateLimitBucketRow) :
    Int × Int :=
  match row with
  | none => (timestamp, 1)
  | some row =>
      let windowStartedAt :=
        if timestamp - row.windowStartedAt < policy.windowMs then row.windowStartedAt else timestamp
      (windowStartedAt, if windowStartedAt = row.windowStartedAt then row.requestCount + 1 else 1)

def consume (database : BucketDatabase) (subject : Subject) (policy : AuthRatePolicy)
    (timestamp : Int) : Except BucketConstraint (BucketDatabase × Bool) := do
  let subjectHash := hmac (subject.keyText toLowerCase)
  let row := lookup (·.key) database.tables (subject.scope, subjectHash, policy.action)
  let (windowStartedAt, requestCount) := countRequest policy timestamp row
  let database ← database.execute id fun buckets =>
    (upsert (·.key) (fun _ _ => true) (fun excluded _ => excluded)
      { scope := subject.scope, subjectHash, action := policy.action
        windowStartedAt, requestCount, updatedAt := timestamp } buckets).1
  return (database, requestCount ≤ subject.limit)

/-- `subjects.every(consume)`, with the subjects that it came to. -/
def consumeEvery (policy : AuthRatePolicy) (timestamp : Int) :
    List Subject → BucketDatabase →
      Except BucketConstraint (BucketDatabase × List Subject × Bool)
  | [], database => .ok (database, [], true)
  | subject :: rest, database => do
      let (database, allowed) ← consume toLowerCase hmac database subject policy timestamp
      if allowed then
        let (database, consumed, all) ← consumeEvery policy timestamp rest database
        return (database, subject :: consumed, all)
      else return (database, [subject], false)

def denial (policy : AuthRatePolicy) : AuthAnswer :=
  if policy.nonEnumerating then .denied 200 [("status", .boolean true)] none
  else
    .denied 429
      [("error", .string "Too many authentication attempts. Try again later."),
        ("code", .string "auth_rate_limited"), ("retryable", .boolean true)]
      (some (max 1 (-(-policy.windowMs / 1000))))

/-- The buckets after the request, the subjects whose buckets it consumed, and the
answer; `passedOn` stands for the answer of `next`. -/
def handle (database : BucketDatabase) (request : AuthRequest) (timestamp : Int) :
    BucketDatabase × List Subject × AuthAnswer :=
  match policyOf request with
  | none => (database, [], .passedOn)
  | some policy =>
      match commit database (consumeEvery toLowerCase hmac policy timestamp
        (subjectsOf toLowerCase request policy) database) with
      | (database, .ok (consumed, true)) => (database, consumed, .passedOn)
      | (database, .ok (consumed, false)) => (database, consumed, denial policy)
      | (database, .error constraint) => (database, [], .failed constraint)

end

/-! ## A limiter and the requests that it has seen -/

/-- A bucket that a request consumed. -/
structure Attempt where
  time : Int
  scope : BucketScope
  keyText : String
  action : AuthAction
  passed : Bool
deriving DecidableEq

/-- The later bucket comes first. -/
def attemptsOf (toLowerCase : String → String) (policy : AuthRatePolicy) (timestamp : Int)
    (passed : Bool) (consumed : List Subject) : List Attempt :=
  (consumed.map fun subject : Subject => Attempt.mk timestamp subject.scope
    (subject.keyText toLowerCase) policy.action passed).reverse

structure RateLimited where
  database : BucketDatabase
  clock : Int
  /-- Newest first. -/
  attempts : List Attempt := []

section

variable (toLowerCase : String → String) (hmac : String → String)

def RateLimited.receive (state : RateLimited) (arrival : AuthRequest × Int) : RateLimited :=
  let (database, consumed, answer) := handle toLowerCase hmac state.database arrival.1 arrival.2
  let passed := match answer with
    | .passedOn => true
    | _ => false
  let attempts := match policyOf arrival.1 with
    | none => []
    | some policy => attemptsOf toLowerCase policy arrival.2 passed consumed
  { database, clock := arrival.2, attempts := attempts ++ state.attempts }

def rateLimitSystem : System RateLimited (AuthRequest × Int) where
  Initial state := state.database.tables = [] ∧ state.attempts = []
  Enabled state arrival := state.clock ≤ arrival.2
  step := RateLimited.receive toLowerCase hmac

def Attempt.isOn (scope : BucketScope) (keyText : String) (action : AuthAction)
    (attempt : Attempt) : Bool :=
  attempt.scope = scope && attempt.keyText = keyText && attempt.action = action

/-- The attempts on one bucket. -/
def RateLimited.history (state : RateLimited) (scope : BucketScope) (keyText : String)
    (action : AuthAction) : List Attempt :=
  state.attempts.filter (Attempt.isOn scope keyText action)

/-- The requests passed on, counted. -/
def Attempt.passes (attempt : Attempt) : Int := if attempt.passed then 1 else 0

/-! ## What one bucket counts -/

def bucketKey (subject : Subject) (action : AuthAction) : BucketKey :=
  (subject.scope, hmac (subject.keyText toLowerCase), action)

/-- A bucket as the window it keeps. -/
def counterOf (database : BucketDatabase) (key : BucketKey) : Option (Int × Int) :=
  (lookup (·.key) database.tables key).map fun bucket => (bucket.windowStartedAt, bucket.requestCount)

/-- The row that a request leaves in its bucket. -/
def countedRow (subject : Subject) (policy : AuthRatePolicy) (timestamp : Int)
    (counter : Option (Int × Int)) : AuthRateLimitBucketRow :=
  { scope := subject.scope
    subjectHash := hmac (subject.keyText toLowerCase)
    action := policy.action
    windowStartedAt := counterStart policy.windowMs counter timestamp
    requestCount := counterUsed policy.windowMs counter timestamp + 1
    updatedAt := timestamp }

variable {toLowerCase hmac} {database after : BucketDatabase} {subject : Subject} {policy : AuthRatePolicy}
  {timestamp : Int} {allowed : Bool}

theorem countRequest_eq (positive : 0 < policy.windowMs) (row : Option AuthRateLimitBucketRow) :
    let counter := row.map fun bucket => (bucket.windowStartedAt, bucket.requestCount)
    countRequest policy timestamp row = (counterStart policy.windowMs counter timestamp,
      counterUsed policy.windowMs counter timestamp + 1) := by
  cases row with
  | none => rfl
  | some row =>
      simp only [countRequest, Option.map_some, counterStart, counterUsed]
      by_cases young : timestamp - row.windowStartedAt < policy.windowMs
      · simp only [if_pos young, if_true]
      · have moved : timestamp ≠ row.windowStartedAt := by omega
        simp only [if_neg young, if_neg moved, zero_add]

theorem lookup_written (excluded : AuthRateLimitBucketRow) (buckets : List AuthRateLimitBucketRow)
    (other : BucketKey) :
    lookup (·.key) (upsert (·.key) (fun _ _ => true) (fun excluded _ => excluded) excluded buckets).1
      other = if excluded.key = other then some excluded else lookup (·.key) buckets other := by
  rw [lookup_upsert fun _ _ => rfl]
  cases lookup (·.key) buckets other <;> rfl

theorem consume_ok (positive : 0 < policy.windowMs)
    (consumed : consume toLowerCase hmac database subject policy timestamp = .ok (after, allowed)) :
    let key := bucketKey toLowerCase hmac subject policy.action
    let counter := counterOf database key
    counterOf after key = some (counterStart policy.windowMs counter timestamp,
      counterUsed policy.windowMs counter timestamp + 1) ∧
    (∀ other, other ≠ key → lookup (·.key) after.tables other = lookup (·.key) database.tables other) ∧
    (allowed = true ↔ counterUsed policy.windowMs counter timestamp + 1 ≤ subject.limit) := by
  intro key counter
  simp only [consume, countRequest_eq positive] at consumed
  obtain ⟨stored, executed, returned⟩ := bind_ok.mp consumed
  rw [Store.execute_ok] at executed
  cases returned
  have found : ∀ other, lookup (·.key) after.tables other =
      if key = other then some (countedRow toLowerCase hmac subject policy timestamp counter)
      else lookup (·.key) database.tables other := by
    intro other
    rw [executed]
    exact lookup_written _ _ other
  refine ⟨?_, ?_, decide_eq_true_iff⟩
  · rw [counterOf, found, if_pos rfl]
    rfl
  · intro other different
    rw [found, if_neg (Ne.symm different)]

variable {subjects consumed : List Subject} {all : Bool}

/-- What the consumed buckets hold afterwards; every other bucket is untouched. -/
structure Consumed (toLowerCase hmac : String → String) (policy : AuthRatePolicy) (timestamp : Int)
    (before after : BucketDatabase) (consumed : List Subject) (all : Bool) : Prop where
  counted : ∀ subject ∈ consumed,
    let counter := counterOf before (bucketKey toLowerCase hmac subject policy.action)
    counterOf after (bucketKey toLowerCase hmac subject policy.action) =
      some (counterStart policy.windowMs counter timestamp,
        counterUsed policy.windowMs counter timestamp + 1) ∧
    (all = true → counterUsed policy.windowMs counter timestamp + 1 ≤ subject.limit)
  untouched : ∀ key, (∀ subject ∈ consumed, bucketKey toLowerCase hmac subject policy.action ≠ key) →
    lookup (·.key) after.tables key = lookup (·.key) before.tables key

theorem consumeEvery_ok (positive : 0 < policy.windowMs) (distinct : (subjects.map (·.scope)).Nodup)
    (done : consumeEvery toLowerCase hmac policy timestamp subjects database =
      .ok (after, consumed, all)) :
    consumed.Sublist subjects ∧
      Consumed toLowerCase hmac policy timestamp database after consumed all := by
  induction subjects generalizing database consumed with
  | nil =>
      cases done
      exact ⟨.slnil, by simp, fun _ _ => rfl⟩
  | cons subject rest ih =>
      obtain ⟨apart, distinct⟩ := List.nodup_cons.mp distinct
      obtain ⟨⟨next, allowed⟩, first, done⟩ := bind_ok.mp done
      obtain ⟨counted, others, within⟩ := consume_ok positive first
      cases allowed with
      | false =>
          cases done
          refine ⟨by simp, ?_, ?_⟩
          · intro other member
            rw [List.mem_singleton.mp member]
            exact ⟨counted, fun impossible => by cases impossible⟩
          · intro key different
            exact others key (Ne.symm (different subject List.mem_cons_self))
      | true =>
          obtain ⟨⟨last, later, rest⟩, tail, done⟩ := bind_ok.mp done
          cases done
          obtain ⟨sublist, laterCounted, untouched⟩ := ih distinct tail
          have different : ∀ other ∈ later, bucketKey toLowerCase hmac other policy.action ≠
              bucketKey toLowerCase hmac subject policy.action := by
            intro other member same
            exact apart (List.mem_map.mpr ⟨other, sublist.subset member, congrArg (·.1) same⟩)
          refine ⟨sublist.cons_cons subject, ?_, ?_⟩
          · intro other member
            rcases List.mem_cons.mp member with rfl | held
            · refine ⟨?_, fun _ => within.mp rfl⟩
              rw [counterOf, untouched _ different]
              exact counted
            · have same : counterOf next (bucketKey toLowerCase hmac other policy.action) =
                  counterOf database (bucketKey toLowerCase hmac other policy.action) := by
                rw [counterOf, others _ (different other held), counterOf]
              have after := laterCounted other held
              rw [same] at after
              exact after
          · intro key apart
            rw [untouched key fun other held => apart other (List.mem_cons_of_mem _ held)]
            exact others key (Ne.symm (apart subject List.mem_cons_self))

theorem subjectsOf_scopes (request : AuthRequest) (policy : AuthRatePolicy) :
    ((subjectsOf toLowerCase request policy).map (·.scope)).Nodup ∧
      ∀ subject ∈ subjectsOf toLowerCase request policy, subject.limit = policy.limit subject.scope := by
  unfold subjectsOf
  cases readAddress toLowerCase request <;> simp [AuthRatePolicy.limit]

/-- An action has one policy. -/
theorem policies_action : ∀ left ∈ policies.map (·.2), ∀ right ∈ policies.map (·.2),
    left.action = right.action → left = right := by
  decide +kernel

theorem policies_known : ∀ policy ∈ policies.map (·.2),
    0 < policy.windowMs ∧ 0 ≤ policy.ipLimit ∧ 0 ≤ policy.addressLimit := by
  decide +kernel

theorem policyOf_mem {request : AuthRequest} (found : policyOf request = some policy) :
    policy ∈ policies.map (·.2) := by
  unfold policyOf at found
  split at found
  · have member := List.lookup_eq_some_iff.mp found
    obtain ⟨before, after, split, _⟩ := member
    rw [split]
    simp
  · cases found

theorem policy_positive (known : policy ∈ policies.map (·.2)) :
    0 < policy.windowMs ∧ ∀ scope, 0 ≤ policy.limit scope := by
  obtain ⟨positive, ip, address⟩ := policies_known policy known
  refine ⟨positive, fun scope => ?_⟩
  cases scope with
  | ip => exact ip
  | address => exact address

/-! ## What every request keeps -/

theorem filter_attemptsOf_nil {passed : Bool} {scope : BucketScope} {keyText : String}
    {action : AuthAction}
    (absent : ∀ subject ∈ consumed, ¬ (subject.scope = scope ∧ subject.keyText toLowerCase = keyText ∧
      policy.action = action)) :
    (attemptsOf toLowerCase policy timestamp passed consumed).filter
      (Attempt.isOn scope keyText action) = [] := by
  rw [List.filter_eq_nil_iff]
  intro attempt held on
  obtain ⟨other, known, rfl⟩ := List.mem_map.mp (List.mem_reverse.mp held)
  exact absent other known (by simpa [Attempt.isOn, and_assoc] using on)

/-- A request reaches a bucket once at most. -/
theorem filter_attemptsOf {passed : Bool} (distinct : (consumed.map (·.scope)).Nodup)
    (member : subject ∈ consumed) :
    (attemptsOf toLowerCase policy timestamp passed consumed).filter
      (Attempt.isOn subject.scope (subject.keyText toLowerCase) policy.action) =
      [⟨timestamp, subject.scope, subject.keyText toLowerCase, policy.action, passed⟩] := by
  obtain ⟨before, after, rfl⟩ := List.append_of_mem member
  rw [List.map_append, List.map_cons, List.nodup_middle, List.nodup_cons, ← List.map_append] at distinct
  have others : ∀ part : List Subject, (∀ other ∈ part, other ∈ before ++ after) →
      (attemptsOf toLowerCase policy timestamp passed part).filter
        (Attempt.isOn subject.scope (subject.keyText toLowerCase) policy.action) = [] := by
    intro part inside
    apply filter_attemptsOf_nil
    rintro other held ⟨same, _⟩
    exact distinct.1 (List.mem_map.mpr ⟨other, inside other held, same⟩)
  have split : attemptsOf toLowerCase policy timestamp passed (before ++ subject :: after) =
      attemptsOf toLowerCase policy timestamp passed after ++
        ⟨timestamp, subject.scope, subject.keyText toLowerCase, policy.action, passed⟩ ::
          attemptsOf toLowerCase policy timestamp passed before := by
    simp [attemptsOf]
  rw [split, List.filter_append, others after fun other held => List.mem_append_right _ held,
    List.filter_cons_of_pos (by simp [Attempt.isOn]),
    others before fun other held => List.mem_append_left _ held, List.nil_append]

structure Accurate (hmac : String → String) (used : Set String) (state : RateLimited) : Prop where
  recent : ∀ attempt ∈ state.attempts, attempt.time ≤ state.clock
  ordered : NewestFirst Attempt.time state.attempts
  meters : ∀ policy ∈ policies.map (·.2), ∀ scope, ∀ keyText ∈ used,
    Meters Attempt.time policy.windowMs (fun _ => 1)
      (counterOf state.database (scope, hmac keyText, policy.action))
      (state.history scope keyText policy.action) state.clock
  within : ∀ policy ∈ policies.map (·.2), ∀ scope, ∀ keyText ∈ used,
    WindowsWithin Attempt.time policy.windowMs Attempt.passes (policy.limit scope)
      (state.history scope keyText policy.action)

variable {used : Set String} {state : RateLimited}

theorem Accurate.later (accurate : Accurate hmac used state) {clock : Int} (order : state.clock ≤ clock) :
    Accurate hmac used { state with clock } where
  recent attempt member := (accurate.recent attempt member).trans order
  ordered := accurate.ordered
  meters policy known scope keyText member := (accurate.meters policy known scope keyText member).later order
  within := accurate.within

/-- A bucket is one that the request came to, or it is as before. -/
theorem Consumed.bucket_cases (step : Consumed toLowerCase hmac policy timestamp state.database after consumed all)
    (injective : Set.InjOn hmac used) (known : policy ∈ policies.map (·.2))
    (texts : ∀ subject ∈ consumed, subject.keyText toLowerCase ∈ used) {other : AuthRatePolicy}
    (listed : other ∈ policies.map (·.2)) (scope : BucketScope) {keyText : String} (member : keyText ∈ used) :
    (∃ subject ∈ consumed, other = policy ∧ scope = subject.scope ∧
        keyText = subject.keyText toLowerCase) ∨
      ((attemptsOf toLowerCase policy timestamp all consumed ++ state.attempts).filter
          (Attempt.isOn scope keyText other.action) = state.history scope keyText other.action ∧
        counterOf after (scope, hmac keyText, other.action) =
          counterOf state.database (scope, hmac keyText, other.action)) := by
  by_cases reached : ∃ subject ∈ consumed, subject.scope = scope ∧
      subject.keyText toLowerCase = keyText ∧ policy.action = other.action
  · obtain ⟨subject, held, rfl, rfl, same⟩ := reached
    exact .inl ⟨subject, held, policies_action other listed policy known same.symm, rfl, rfl⟩
  · right
    constructor
    · rw [List.filter_append, filter_attemptsOf_nil, List.nil_append]
      · rfl
      · exact fun subject held same => reached ⟨subject, held, same⟩
    · rw [counterOf, counterOf, step.untouched]
      intro subject held same
      simp only [bucketKey, Prod.mk.injEq] at same
      exact reached ⟨subject, held, same.1, injective (texts subject held) member same.2.1, same.2.2⟩

/-- A consumed bucket takes the attempt of the request on top of its history. -/
theorem history_grown (distinct : (consumed.map (·.scope)).Nodup) (member : subject ∈ consumed) :
    (attemptsOf toLowerCase policy timestamp all consumed ++ state.attempts).filter
        (Attempt.isOn subject.scope (subject.keyText toLowerCase) policy.action) =
      ⟨timestamp, subject.scope, subject.keyText toLowerCase, policy.action, all⟩ ::
        state.history subject.scope (subject.keyText toLowerCase) policy.action := by
  rw [List.filter_append, filter_attemptsOf distinct member]
  rfl

theorem attemptsOf_time {attempt : Attempt}
    (member : attempt ∈ attemptsOf toLowerCase policy timestamp all consumed) : attempt.time = timestamp := by
  obtain ⟨subject, _, rfl⟩ := List.mem_map.mp (List.mem_reverse.mp member)
  rfl

/-- The history of a bucket stays ordered under a new attempt. -/
theorem Accurate.grown_ordered (accurate : Accurate hmac used state) (order : state.clock ≤ timestamp)
    {attempt : Attempt} (now : attempt.time = timestamp) (scope : BucketScope) (keyText : String)
    (action : AuthAction) :
    NewestFirst Attempt.time (attempt :: state.history scope keyText action) := by
  apply NewestFirst.cons (accurate.ordered.filter _)
  intro earlier member
  rw [now]
  exact (accurate.recent earlier (List.mem_of_mem_filter member)).trans order

theorem Accurate.count (accurate : Accurate hmac used state) (order : state.clock ≤ timestamp)
    (injective : Set.InjOn hmac used) (known : policy ∈ policies.map (·.2))
    (distinct : (consumed.map (·.scope)).Nodup)
    (limits : ∀ subject ∈ consumed, subject.limit = policy.limit subject.scope)
    (texts : ∀ subject ∈ consumed, subject.keyText toLowerCase ∈ used)
    (step : Consumed toLowerCase hmac policy timestamp state.database after consumed all) :
    Accurate hmac used { database := after, clock := timestamp
                         attempts := attemptsOf toLowerCase policy timestamp all consumed ++ state.attempts } := by
  have past : ∀ attempt ∈ state.attempts, attempt.time ≤ timestamp :=
    fun attempt member => (accurate.recent attempt member).trans order
  have positive := policy_positive known
  constructor
  · intro attempt member
    rcases List.mem_append.mp member with new | old
    · exact (attemptsOf_time new).le
    · exact past attempt old
  · apply List.pairwise_append.mpr
    refine ⟨?_, accurate.ordered, ?_⟩
    · apply List.pairwise_of_forall_mem_list
      intro later held earlier heldToo
      rw [attemptsOf_time held, attemptsOf_time heldToo]
    · intro later held earlier heldToo
      rw [attemptsOf_time held]
      exact past earlier heldToo
  · intro other listed scope keyText member
    rcases step.bucket_cases injective known texts listed scope member with
      ⟨subject, held, rfl, rfl, rfl⟩ | ⟨history, counter⟩
    · have meters := accurate.meters other listed subject.scope _ member
      have counted := (step.counted subject held).1
      show Meters _ _ _ (counterOf after (bucketKey toLowerCase hmac subject other.action)) _ timestamp
      rw [RateLimited.history, history_grown distinct held, counted]
      simp only [bucketKey]
      rw [← meters.windowOf_eq order, ← meters.used_eq order]
      exact meters_cons (accurate.grown_ordered order rfl _ _ _) positive.1
    · rw [RateLimited.history, history, counter]
      exact (accurate.meters other listed scope keyText member).later order
  · intro other listed scope keyText member
    rcases step.bucket_cases injective known texts listed scope member with
      ⟨subject, held, rfl, rfl, rfl⟩ | ⟨history, counter⟩
    · have meters := accurate.meters other listed subject.scope _ member
      have within := accurate.within other listed subject.scope _ member
      rw [RateLimited.history, history_grown distinct held]
      apply within.cons (accurate.grown_ordered order rfl _ _ _) positive.1
      cases all with
      | false =>
          simp only [Attempt.passes, Bool.false_eq_true, if_false, add_zero]
          exact within.used_le (positive.2 subject.scope) timestamp
      | true =>
          have room := (step.counted subject held).2 rfl
          simp only [bucketKey] at room
          rw [← meters.used_eq order, limits subject held] at room
          have fewer := @amountUsed_le _ Attempt.time other.windowMs Attempt.passes
            (state.history subject.scope (subject.keyText toLowerCase) other.action) (fun _ => 1)
            (fun attempt _ => by unfold Attempt.passes; split <;> decide) timestamp
          show amountUsed _ _ _ _ timestamp + (1 : Int) ≤ _
          omega
    · rw [RateLimited.history, history]
      exact accurate.within other listed scope keyText member

/-- The subjects of a request have their texts among the used ones. -/
def Uses (toLowerCase : String → String) (used : Set String) (request : AuthRequest) : Prop :=
  ∀ policy ∈ policyOf request, ∀ subject ∈ subjectsOf toLowerCase request policy,
    subject.keyText toLowerCase ∈ used

/-- A request either leaves the buckets as they are or consumes some of its own. -/
theorem handle_cases (database : BucketDatabase) (request : AuthRequest) (timestamp : Int) :
    (handle toLowerCase hmac database request timestamp).1 = database ∧
        (policyOf request ≠ none → (handle toLowerCase hmac database request timestamp).2.1 = []) ∨
      ∃ policy consumed all, policyOf request = some policy ∧
        consumeEvery toLowerCase hmac policy timestamp (subjectsOf toLowerCase request policy) database =
          .ok ((handle toLowerCase hmac database request timestamp).1, consumed, all) ∧
        (handle toLowerCase hmac database request timestamp).2 =
          (consumed, if all then .passedOn else denial policy) := by
  cases found : policyOf request with
  | none =>
      left
      simp [handle, found]
  | some policy =>
      cases done : consumeEvery toLowerCase hmac policy timestamp
          (subjectsOf toLowerCase request policy) database with
      | error constraint =>
          left
          simp [handle, found, done, commit]
      | ok result =>
          obtain ⟨after, consumed, all⟩ := result
          right
          refine ⟨policy, consumed, all, rfl, ?_⟩
          cases all <;> simp [handle, found, done, commit]

theorem Accurate.receive (accurate : Accurate hmac used state) {request : AuthRequest}
    (order : state.clock ≤ timestamp) (injective : Set.InjOn hmac used)
    (uses : Uses toLowerCase used request) :
    Accurate hmac used (state.receive toLowerCase hmac (request, timestamp)) := by
  rcases @handle_cases toLowerCase hmac state.database request timestamp with
    ⟨same, none⟩ | ⟨policy, consumed, all, found, done, answer⟩
  · have received : state.receive toLowerCase hmac (request, timestamp) = { state with clock := timestamp } := by
      unfold RateLimited.receive
      cases found : policyOf request with
      | none => simp [same]
      | some policy => simp [same, none (by simp [found]), attemptsOf]
    rw [received]
    exact accurate.later order
  · have passed : (match (if all then AuthAnswer.passedOn else denial policy) with
        | .passedOn => true
        | _ => false) = all := by
      cases all with
      | true => rfl
      | false =>
          unfold denial
          cases policy.nonEnumerating <;> rfl
    have received : state.receive toLowerCase hmac (request, timestamp) =
        { database := (handle toLowerCase hmac state.database request timestamp).1
          clock := timestamp
          attempts := attemptsOf toLowerCase policy timestamp all consumed ++ state.attempts } := by
      unfold RateLimited.receive
      simp only [found, answer, passed]
    have known := policyOf_mem found
    obtain ⟨scopes, limits⟩ := @subjectsOf_scopes toLowerCase request policy
    obtain ⟨sublist, step⟩ := consumeEvery_ok (policy_positive known).1 scopes done
    rw [received]
    exact accurate.count order injective known ((sublist.map _).nodup scopes)
      (fun subject member => limits subject (sublist.subset member))
      (fun subject member => uses policy found subject (sublist.subset member)) step

theorem receive_clock (state : RateLimited) (arrival : AuthRequest × Int) :
    (state.receive toLowerCase hmac arrival).clock = arrival.2 :=
  rfl

theorem accurate_run {initial : RateLimited} {arrivals : List (AuthRequest × Int)}
    (start : (rateLimitSystem toLowerCase hmac).Initial initial)
    (runs : (rateLimitSystem toLowerCase hmac).Runs initial arrivals)
    (injective : Set.InjOn hmac used) (uses : ∀ arrival ∈ arrivals, Uses toLowerCase used arrival.1) :
    Accurate hmac used ((rateLimitSystem toLowerCase hmac).run initial arrivals) := by
  have first : Accurate hmac used initial := by
    obtain ⟨empty, none⟩ := start
    constructor
    · simp [none]
    · rw [none]
      exact .nil
    · intro policy known scope keyText member
      simp [Meters, counterOf, lookup, empty, RateLimited.history, none, openWindow, windowStarts]
    · intro policy known scope keyText member
      simp [WindowsWithin, RateLimited.history, none, windowStarts]
  clear start
  induction arrivals generalizing initial with
  | nil => exact first
  | cons arrival rest ih =>
      obtain ⟨order, runs⟩ := runs
      exact ih runs (fun later member => uses later (List.mem_cons_of_mem _ member))
        (first.receive order injective (uses arrival List.mem_cons_self))

/-- The bucket is one that the request may consume. -/
def AuthRequest.Reaches (toLowerCase : String → String) (request : AuthRequest) (scope : BucketScope)
    (keyText : String) (action : AuthAction) : Prop :=
  ∃ policy ∈ policyOf request, policy.action = action ∧
    ∃ subject ∈ subjectsOf toLowerCase request policy,
      subject.scope = scope ∧ subject.keyText toLowerCase = keyText

/-- The subject of the caller's address, which comes first. -/
def ipSubject (request : AuthRequest) (policy : AuthRatePolicy) : Subject :=
  { scope := .ip, value := request.clientAddress.getD "unavailable", limit := policy.ipLimit }

theorem handle_untouched (injective : Set.InjOn hmac used) {request : AuthRequest}
    (uses : Uses toLowerCase used request) {scope : BucketScope} {keyText : String}
    {action : AuthAction} (member : keyText ∈ used)
    (apart : ¬ request.Reaches toLowerCase scope keyText action) :
    lookup (·.key) (handle toLowerCase hmac database request timestamp).1.tables
      (scope, hmac keyText, action) = lookup (·.key) database.tables (scope, hmac keyText, action) := by
  rcases @handle_cases toLowerCase hmac database request timestamp with
    ⟨same, _⟩ | ⟨policy, consumed, all, found, done, _⟩
  · rw [same]
  · obtain ⟨scopes, _⟩ := @subjectsOf_scopes toLowerCase request policy
    obtain ⟨sublist, step⟩ := consumeEvery_ok (policy_positive (policyOf_mem found)).1 scopes done
    apply step.untouched
    intro subject held same
    simp only [bucketKey, Prod.mk.injEq] at same
    have own := sublist.subset held
    exact apart ⟨policy, found, same.2.2, subject, own, same.1,
      injective (uses policy found subject own) member same.2.1⟩

/-- A request that its own address denies consumes no other bucket. -/
theorem handle_ipDenied {request : AuthRequest} {next : BucketDatabase}
    (found : policyOf request = some policy)
    (ipDenied : consume toLowerCase hmac database (ipSubject request policy) policy timestamp =
      .ok (next, false)) (subjectHash : String) (action : AuthAction) :
    lookup (·.key) (handle toLowerCase hmac database request timestamp).1.tables
      (.address, subjectHash, action) =
        lookup (·.key) database.tables (.address, subjectHash, action) := by
  have stopped : consumeEvery toLowerCase hmac policy timestamp (subjectsOf toLowerCase request policy)
      database = .ok (next, [ipSubject request policy], false) :=
    bind_ok.mpr ⟨_, ipDenied, rfl⟩
  have handled : (handle toLowerCase hmac database request timestamp).1 = next := by
    simp [handle, found, stopped, commit]
  obtain ⟨_, others, _⟩ := consume_ok (policy_positive (policyOf_mem found)).1 ipDenied
  rw [handled]
  apply others
  simp [bucketKey, ipSubject]

/-- Requests passed on stay within the limit in every window, hence within twice the
limit in every interval of a window's length; no request reaches a bucket that is not
its own, and none that its IP bucket denies reaches the bucket of its address. -/
theorem authRateLimited {initial : RateLimited} {arrivals : List (AuthRequest × Int)}
    (start : (rateLimitSystem toLowerCase hmac).Initial initial)
    (runs : (rateLimitSystem toLowerCase hmac).Runs initial arrivals)
    (injective : Set.InjOn hmac used) (uses : ∀ arrival ∈ arrivals, Uses toLowerCase used arrival.1) :
    let after := (rateLimitSystem toLowerCase hmac).run initial arrivals
    (∀ policy ∈ policies.map (·.2), ∀ scope, ∀ keyText ∈ used,
      WindowsWithin Attempt.time policy.windowMs Attempt.passes (policy.limit scope)
        (after.history scope keyText policy.action) ∧
      ∀ first, amountWithin Attempt.time Attempt.passes (after.history scope keyText policy.action)
        first (first + policy.windowMs) ≤ 2 * policy.limit scope) ∧
    ∀ request timestamp, after.clock ≤ timestamp → Uses toLowerCase used request →
      let next := after.receive toLowerCase hmac (request, timestamp)
      (∀ scope, ∀ keyText ∈ used, ∀ action, ¬ request.Reaches toLowerCase scope keyText action →
        lookup (·.key) next.database.tables (scope, hmac keyText, action) =
          lookup (·.key) after.database.tables (scope, hmac keyText, action)) ∧
      ∀ policy ∈ policyOf request, ∀ ipBucket,
        consume toLowerCase hmac after.database (ipSubject request policy) policy timestamp =
          .ok (ipBucket, false) →
        ∀ subjectHash action, lookup (·.key) next.database.tables (.address, subjectHash, action) =
          lookup (·.key) after.database.tables (.address, subjectHash, action) := by
  have accurate := accurate_run start runs injective uses
  refine ⟨?_, ?_⟩
  · intro policy known scope keyText member
    have within := accurate.within policy known scope keyText member
    refine ⟨within, fun first => ?_⟩
    obtain ⟨positive, room⟩ := policy_positive known
    apply within.interval (accurate.ordered.filter _) _ positive (room scope)
    intro attempt _
    unfold Attempt.passes
    split <;> decide
  · intro request timestamp _ uses
    exact ⟨fun scope keyText member action apart => handle_untouched injective uses member apart,
      fun policy found ipBucket ipDenied => handle_ipDenied found ipDenied⟩

end

/-! ## A run -/

namespace SignUps

def digest (text : String) : String :=
  if text = "ip:10.0.0.1" then "0123456789abcdef0123456789abcdef0123456789abcdef0123456789abcdef"
  else "fedcba9876543210fedcba9876543210fedcba9876543210fedcba9876543210"

def keyTexts : List String := ["ip:10.0.0.1", "address:ada@example.com"]

def signUp : AuthRequest where
  method := "POST"
  pathname := "/api/auth/sign-up/email"
  clientAddress := some "10.0.0.1"
  contentLength := some 27
  body := some ("\x7b\"email\":\"ada@example.com\"\x7d", some (.object [("email", .string "ada@example.com")]))

def arrivals : List (AuthRequest × Int) := [(signUp, 1000), (signUp, 2000)]

def initial : RateLimited where
  database := ⟨[], fun constraint => by cases constraint <;> simp [bucketSchema]⟩
  clock := 0

end SignUps

open SignUps in
/-- Two sign-ups within the hour count on one bucket. -/
theorem authRateLimited_signUps :
    let after := (rateLimitSystem id digest).run initial arrivals
    (after.history .address "address:ada@example.com" .signup).map (·.passed) = [true, true] ∧
    ∀ first, amountWithin Attempt.time Attempt.passes
      (after.history .address "address:ada@example.com" .signup) first (first + 3600000) ≤ 2 * 3 :=
  ⟨by decide +kernel, ((@authRateLimited id digest (fun text => text ∈ keyTexts) initial arrivals
    ⟨rfl, rfl⟩
    ⟨show (0 : Int) ≤ 1000 by decide,
      show (initial.receive id digest (signUp, 1000)).clock ≤ 2000 by rw [receive_clock]; decide, trivial⟩
    (by
      intro left known right knownToo same
      have apart : ∀ left ∈ keyTexts, ∀ right ∈ keyTexts, digest left = digest right → left = right := by
        decide +kernel
      exact apart left known right knownToo same)
    (by
      have texts : ∀ arrival ∈ arrivals, ∀ policy ∈ policyOf arrival.1,
          ∀ subject ∈ subjectsOf id arrival.1 policy, subject.keyText id ∈ keyTexts := by
        decide +kernel
      exact texts)).1
    { action := .signup, ipLimit := 10, addressLimit := 3, windowMs := 60 * 60 * 1000
      nonEnumerating := false } (by decide +kernel) .address "address:ada@example.com"
      (show "address:ada@example.com" ∈ keyTexts by decide +kernel)).2⟩

end NebulaCloud.Auth
