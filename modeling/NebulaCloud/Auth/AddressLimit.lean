import NebulaCloud.Auth.RateLimiter

namespace NebulaCloud.Auth

open NebulaCloud.Data NebulaCloud.Platform

/-! # The address behind a request

The limiter reads a body of at most 16 KiB.  A larger one counts as a body without an
address, and the request is passed on under the limit of its IP address alone. -/

section

variable {toLowerCase hmac : String → String} {database admitted : BucketDatabase} {request : AuthRequest}
  {policy : AuthRatePolicy} {timestamp : Int} {text email : String} {fields : JsonRecord}

/-- The subject of an email address. -/
def addressSubject (toLowerCase : String → String) (policy : AuthRatePolicy) (email : String) : Subject :=
  { scope := .address, value := toLowerCase (trim email), limit := policy.addressLimit }

/-- The body is no larger than what the limiter reads, and is not declared to be. -/
def Readable (request : AuthRequest) (text : String) : Prop :=
  (∀ length ∈ request.contentLength, length ≤ 16 * 1024) ∧ utf16Length text ≤ 16 * 1024

/-- The call throws, or it charges the bucket of the address and passes the request on
exactly when the bucket is not at its limit. -/
def ChargesAddress (toLowerCase hmac : String → String) (database : BucketDatabase) (request : AuthRequest)
    (policy : AuthRatePolicy) (timestamp : Int) (email : String) : Prop :=
  let key := bucketKey toLowerCase hmac (addressSubject toLowerCase policy email) policy.action
  let counter := counterOf database key
  let handled := handle toLowerCase hmac database request timestamp
  (∃ constraint, handled.2.2 = .failed constraint) ∨
    counterOf handled.1 key = some (counterStart policy.windowMs counter timestamp,
        counterUsed policy.windowMs counter timestamp + 1) ∧
      (handled.2.2 = .passedOn ↔ counterUsed policy.windowMs counter timestamp < policy.addressLimit)

theorem denial_ne_passedOn (policy : AuthRatePolicy) :
    denial policy ≠ .passedOn ∧ ∀ constraint, denial policy ≠ .failed constraint := by
  unfold denial
  cases policy.nonEnumerating <;> simp

/-- What is read of a body that names an address. -/
theorem readAddress_email (body : request.body = some (text, some (.object fields)))
    (named : fields.get "email" = some (.string email)) (nonblank : trim email ≠ "") :
    (Readable request text → readAddress toLowerCase request = some (toLowerCase (trim email))) ∧
      (¬ Readable request text → readAddress toLowerCase request = none) := by
  unfold Readable readAddress
  constructor
  · rintro ⟨declared, size⟩
    have within : request.contentLength.any (· > 16 * 1024) = false := by
      cases known : request.contentLength with
      | none => rfl
      | some length =>
          have bound := declared length known
          simpa [Rat.not_lt] using bound
    simp [within, body, size, asRecord, named, nonblank]
  · intro large
    by_cases declared : request.contentLength.any (· > 16 * 1024) = true
    · simp [declared]
    · have long : 16 * 1024 < utf16Length text := by
        by_contra short
        refine large ⟨?_, by omega⟩
        intro length known
        rw [Option.mem_def] at known
        simpa [known, Rat.not_lt] using declared
      simp [declared, body, long]

/-- A bucket that was not consumed does not look like one that was. -/
theorem counter_charged_ne (positive : 0 < policy.windowMs) (counter : Option (Int × Int)) :
    counter ≠ some (counterStart policy.windowMs counter timestamp,
      counterUsed policy.windowMs counter timestamp + 1) := by
  cases counter with
  | none => simp
  | some counter =>
      obtain ⟨startedAt, used⟩ := counter
      simp only [counterStart, counterUsed, ne_eq, Option.some.injEq, Prod.mk.injEq]
      split
      · omega
      · omega

theorem handle_of_readable (found : policyOf request = some policy)
    (read : readAddress toLowerCase request = some (toLowerCase (trim email)))
    (allowed : consume toLowerCase hmac database (ipSubject request policy) policy timestamp =
      .ok (admitted, true)) :
    ChargesAddress toLowerCase hmac database request policy timestamp email := by
  obtain ⟨positive, _⟩ := policy_positive (policyOf_mem found)
  obtain ⟨_, others, _⟩ := consume_ok positive allowed
  have subjects : subjectsOf toLowerCase request policy =
      [ipSubject request policy, addressSubject toLowerCase policy email] := by
    simp only [subjectsOf, read]
    rfl
  have apart : bucketKey toLowerCase hmac (addressSubject toLowerCase policy email) policy.action ≠
      bucketKey toLowerCase hmac (ipSubject request policy) policy.action := by
    simp [bucketKey, addressSubject, ipSubject]
  have same : counterOf admitted
        (bucketKey toLowerCase hmac (addressSubject toLowerCase policy email) policy.action) =
      counterOf database (bucketKey toLowerCase hmac (addressSubject toLowerCase policy email) policy.action) := by
    rw [counterOf, others _ apart, counterOf]
  cases second : consume toLowerCase hmac admitted (addressSubject toLowerCase policy email) policy timestamp with
  | error constraint =>
      have failed : consumeEvery toLowerCase hmac policy timestamp (subjectsOf toLowerCase request policy)
          database = .error constraint := by
        rw [subjects]
        simp only [consumeEvery, allowed, second, bind, Except.bind, if_true]
      exact .inl ⟨constraint, by simp [handle, found, failed, commit]⟩
  | ok result =>
      obtain ⟨after, within⟩ := result
      obtain ⟨counted, _, room⟩ := consume_ok positive second
      rw [same] at counted room
      have done : consumeEvery toLowerCase hmac policy timestamp (subjectsOf toLowerCase request policy)
          database = .ok (after, [ipSubject request policy, addressSubject toLowerCase policy email], within) := by
        rw [subjects]
        cases within <;> simp [consumeEvery, allowed, second, bind, Except.bind, pure, Except.pure]
      refine .inr ⟨?_, ?_⟩
      · cases within <;> simpa [handle, found, done, commit] using counted
      · have limit : (addressSubject toLowerCase policy email).limit = policy.addressLimit := rfl
        rw [limit] at room
        cases within with
        | true =>
            have fits := room.mp rfl
            simp only [handle, found, done, commit, true_iff]
            omega
        | false =>
            have full : ¬ (counterUsed policy.windowMs
                (counterOf database
                  (bucketKey toLowerCase hmac (addressSubject toLowerCase policy email) policy.action))
                timestamp + 1 ≤ policy.addressLimit) := fun fits => by
              have passed := room.mpr fits
              cases passed
            simp only [handle, found, done, commit, (denial_ne_passedOn policy).1, false_iff]
            omega

theorem handle_of_unreadable (found : policyOf request = some policy)
    (unread : readAddress toLowerCase request = none)
    (allowed : consume toLowerCase hmac database (ipSubject request policy) policy timestamp =
      .ok (admitted, true)) :
    handle toLowerCase hmac database request timestamp = (admitted, [ipSubject request policy], .passedOn) := by
  have done : consumeEvery toLowerCase hmac policy timestamp (subjectsOf toLowerCase request policy) database =
      .ok (admitted, [ipSubject request policy], true) := by
    have subjects : subjectsOf toLowerCase request policy = [ipSubject request policy] := by
      simp only [subjectsOf, unread]
      rfl
    rw [subjects]
    simp [consumeEvery, allowed, bind, Except.bind, pure, Except.pure]
  simp [handle, found, done, commit]

/-- For every request with an email address that its IP bucket admits: the bucket of the
address is charged, and holds the request back at its limit, exactly when the body is
read. -/
theorem chargesAddress_iff (found : policyOf request = some policy)
    (body : request.body = some (text, some (.object fields)))
    (named : fields.get "email" = some (.string email)) (nonblank : trim email ≠ "")
    (allowed : consume toLowerCase hmac database (ipSubject request policy) policy timestamp =
      .ok (admitted, true)) :
    ChargesAddress toLowerCase hmac database request policy timestamp email ↔ Readable request text := by
  obtain ⟨read, unread⟩ := @readAddress_email toLowerCase request text email fields body named nonblank
  constructor
  · intro charges
    by_contra large
    obtain ⟨positive, _⟩ := policy_positive (policyOf_mem found)
    obtain ⟨_, others, _⟩ := consume_ok positive allowed
    have passed := handle_of_unreadable found (unread large) allowed
    rcases charges with ⟨constraint, failed⟩ | ⟨counted, _⟩
    · rw [passed] at failed
      cases failed
    · rw [passed, counterOf, others _ (by simp [bucketKey, addressSubject, ipSubject])] at counted
      exact counter_charged_ne positive _ counted
  · intro fits
    exact handle_of_readable found (read fits) allowed

end

namespace SignUps

def signUpText : String := "\x7b\"email\":\"ada@example.com\"\x7d"

/-- White space after the object makes the body one byte longer than what is read. -/
def paddedSignUp : AuthRequest :=
  { signUp with
    contentLength := some 16385
    body := some (signUpText ++ String.ofList (List.replicate 16358 ' '),
      some (.object [("email", .string "ada@example.com")])) }

def signUpPolicy : AuthRatePolicy where
  action := .signup
  ipLimit := 10
  addressLimit := 3
  windowMs := 60 * 60 * 1000
  nonEnumerating := false

/-- Three sign-ups within the hour have filled the bucket of the address. -/
def filled : BucketDatabase :=
  Store.load [⟨.address, digest "address:ada@example.com", .signup, 1000, 3, 3000⟩] (by decide +kernel)

theorem signUp_admitted (request : AuthRequest) (caller : request.clientAddress = some "10.0.0.1") :
    ∃ admitted, consume id digest filled (ipSubject request signUpPolicy) signUpPolicy 4000 =
      .ok (admitted, true) := by
  have allowed : (consume id digest filled ⟨.ip, "10.0.0.1", 10⟩ signUpPolicy 4000).map (·.2) = .ok true := by
    decide +kernel
  have subject : ipSubject request signUpPolicy = ⟨.ip, "10.0.0.1", 10⟩ := by
    simp [ipSubject, caller, signUpPolicy]
  rw [subject]
  cases outcome : consume id digest filled ⟨.ip, "10.0.0.1", 10⟩ signUpPolicy 4000 with
  | error constraint =>
      rw [outcome] at allowed
      cases allowed
  | ok result =>
      obtain ⟨admitted, passed⟩ := result
      rw [outcome] at allowed
      cases allowed
      exact ⟨admitted, rfl⟩

end SignUps

open SignUps in
/-- The fourth sign-up is passed on, and its bucket left at three, because it is padded. -/
theorem padded_passedOn :
    (handle id digest filled paddedSignUp 4000).2 = ([⟨.ip, "10.0.0.1", 10⟩], .passedOn) ∧
      counterOf (handle id digest filled paddedSignUp 4000).1
        (.address, digest "address:ada@example.com", .signup) = some (1000, 3) ∧
      ¬ ChargesAddress id digest filled paddedSignUp signUpPolicy 4000 "ada@example.com" := by
  obtain ⟨admitted, allowed⟩ := signUp_admitted paddedSignUp rfl
  have found : policyOf paddedSignUp = some signUpPolicy := by decide +kernel
  have handled := handle_of_unreadable found (by decide +kernel) allowed
  obtain ⟨_, others, _⟩ := consume_ok (by decide) allowed
  have left : counterOf admitted (.address, digest "address:ada@example.com", .signup) = some (1000, 3) := by
    rw [counterOf, others _ (by simp [bucketKey, ipSubject])]
    decide +kernel
  have key : bucketKey id digest (addressSubject id signUpPolicy "ada@example.com") signUpPolicy.action =
      (.address, digest "address:ada@example.com", .signup) := by
    decide +kernel
  refine ⟨by rw [handled]; rfl, by rw [handled]; exact left, ?_⟩
  rintro (⟨constraint, failed⟩ | ⟨counted, _⟩)
  · rw [handled] at failed
    cases failed
  · rw [handled, key, left] at counted
    revert counted
    decide +kernel

open SignUps in
/-- Without the padding it is charged. -/
theorem chargesAddress_signUp : ChargesAddress id digest filled signUp signUpPolicy 4000 "ada@example.com" := by
  obtain ⟨admitted, allowed⟩ := signUp_admitted signUp rfl
  have found : policyOf signUp = some signUpPolicy := by decide +kernel
  have nonblank : trim "ada@example.com" ≠ "" := by decide +kernel
  refine (chargesAddress_iff found rfl rfl nonblank allowed).mpr ⟨?_, by decide +kernel⟩
  intro length declared
  cases declared
  decide +kernel

end NebulaCloud.Auth
