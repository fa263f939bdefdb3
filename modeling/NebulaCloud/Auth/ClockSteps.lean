import NebulaCloud.Auth.AddressLimit

namespace NebulaCloud.Auth

open NebulaCloud.Data NebulaCloud.Platform
open NebulaCloud.Database (IsTokenHash LengthBetween)

/-! # Clock steps

A window is kept while the time since its start is below its length, and so it is kept by a
clock that was set back before its start.  The row then breaks a check of the table. -/

section

variable (toLowerCase : String → String) (hmac : String → String)

/-- The clock does not read a time before the window of a bucket that the request comes to.
The second bucket is come to when the first has room. -/
def ReadsForward (database : BucketDatabase) (policy : AuthRatePolicy) (timestamp : Int) : List Subject → Prop
  | [] => True
  | subject :: rest =>
      let counter := counterOf database (bucketKey toLowerCase hmac subject policy.action)
      (counter.map (·.1)).getD 0 ≤ timestamp ∧
        (counterUsed policy.windowMs counter timestamp < subject.limit →
          ReadsForward database policy timestamp rest)

instance decidableReadsForward (database : BucketDatabase) (policy : AuthRatePolicy) (timestamp : Int) :
    (subjects : List Subject) → Decidable (ReadsForward toLowerCase hmac database policy timestamp subjects)
  | [] => .isTrue trivial
  | _ :: rest =>
      have := decidableReadsForward database policy timestamp rest
      inferInstanceAs (Decidable (_ ∧ (_ → _)))

/-- The request is made at a time that the stored windows admit. -/
def StepsForward (state : RateLimited) (arrival : AuthRequest × Int) : Prop :=
  ∀ policy ∈ policyOf arrival.1,
    ReadsForward toLowerCase hmac state.database policy arrival.2 (subjectsOf toLowerCase arrival.1 policy)

instance (state : RateLimited) (arrival : AuthRequest × Int) :
    Decidable (StepsForward toLowerCase hmac state arrival) :=
  inferInstanceAs (Decidable (∀ _ ∈ _, _))

/-- The request is passed on, or answered with the limiter's own refusal. -/
def Answered (state : RateLimited) (arrival : AuthRequest × Int) : Prop :=
  let answer := (handle toLowerCase hmac state.database arrival.1 arrival.2).2.2
  answer = .passedOn ∨ ∃ policy ∈ policyOf arrival.1, answer = denial policy

variable {toLowerCase hmac} {database next : BucketDatabase} {subject : Subject} {subjects : List Subject}
  {policy : AuthRatePolicy} {timestamp : Int} {request : AuthRequest}

/-! ## One bucket -/

/-- The row that a request writes breaks no check unless the clock reads a time before its
window. -/
theorem countedRow_checks (hex : ∀ text, IsTokenHash (hmac text)) (positive : 0 < policy.windowMs) :
    let counter := counterOf database (bucketKey toLowerCase hmac subject policy.action)
    (countedRow toLowerCase hmac subject policy timestamp counter).Checks ↔
      (counter.map (·.1)).getD 0 ≤ timestamp := by
  intro counter
  have actionLength : LengthBetween policy.action.text 64 := by cases policy.action <;> decide
  have checked : (countedRow toLowerCase hmac subject policy timestamp counter).Checks ↔
      0 ≤ counterStart policy.windowMs counter timestamp ∧
        0 ≤ counterUsed policy.windowMs counter timestamp + 1 ∧
        counterStart policy.windowMs counter timestamp ≤ timestamp := by
    simp [AuthRateLimitBucketRow.Checks, countedRow, hex, actionLength]
  rw [checked]
  cases found : lookup (·.key) database.tables (bucketKey toLowerCase hmac subject policy.action) with
  | none =>
      have fresh : counter = none := by simp [counter, counterOf, found]
      simp [fresh, counterStart, counterUsed]
  | some stored =>
      have known : counter = some (stored.windowStartedAt, stored.requestCount) := by
        simp [counter, counterOf, found]
      obtain ⟨_, _, started, counted, _⟩ := database.consistent .checks stored (lookup_mem found)
      simp only [known, counterStart, counterUsed, Option.map_some, Option.getD_some]
      split <;> omega

theorem consume_succeeds_iff (hex : ∀ text, IsTokenHash (hmac text)) (positive : 0 < policy.windowMs) :
    (∃ result, consume toLowerCase hmac database subject policy timestamp = .ok result) ↔
      ((counterOf database (bucketKey toLowerCase hmac subject policy.action)).map (·.1)).getD 0 ≤ timestamp := by
  let counter := counterOf database (bucketKey toLowerCase hmac subject policy.action)
  let excluded := countedRow toLowerCase hmac subject policy timestamp counter
  let write (buckets : List AuthRateLimitBucketRow) : List AuthRateLimitBucketRow :=
    (upsert (·.key) (fun _ _ => true) (fun excluded _ => excluded) excluded buckets).1
  have checks : excluded.Checks ↔ (counter.map (·.1)).getD 0 ≤ timestamp := countedRow_checks hex positive
  have distinct : (database.tables.map (·.key)).Nodup := database.consistent .primaryKey
  have consumes : consume toLowerCase hmac database subject policy timestamp =
      (database.execute id write).bind fun stored =>
        .ok (stored, decide (excluded.requestCount ≤ subject.limit)) := by
    simp only [consume, countRequest_eq positive]
    rfl
  rw [← checks, consumes]
  constructor
  · intro succeeds
    obtain ⟨result, consumed⟩ := succeeds
    obtain ⟨stored, executed, _⟩ := bind_ok.mp consumed
    have written := Store.execute_ok.mp executed
    have kept := lookup_written excluded database.tables excluded.key
    rw [if_pos rfl] at kept
    have member : excluded ∈ stored.tables := by
      rw [written]
      exact lookup_mem kept
    exact stored.consistent .checks excluded member
  · intro valid
    have consistent : bucketSchema.Consistent (write database.tables) := by
      intro constraint
      cases constraint with
      | primaryKey =>
          apply nodup_upsert distinct distinct (fun _ => rfl)
          intro row _ different
          exact different
      | checks => exact forall_upsert (database.consistent .checks) valid fun _ _ => valid
    exact ⟨_, bind_ok.mpr ⟨_, Store.execute_of_consistent consistent, rfl⟩⟩

/-! ## One request -/

theorem readsForward_congr (same : ∀ subject ∈ subjects,
      counterOf next (bucketKey toLowerCase hmac subject policy.action) =
        counterOf database (bucketKey toLowerCase hmac subject policy.action)) :
    ReadsForward toLowerCase hmac next policy timestamp subjects ↔
      ReadsForward toLowerCase hmac database policy timestamp subjects := by
  induction subjects with
  | nil => rfl
  | cons subject rest ih =>
      have later := ih fun other member => same other (List.mem_cons_of_mem subject member)
      simp only [ReadsForward, same subject List.mem_cons_self, later]

theorem consumeEvery_succeeds_iff (hex : ∀ text, IsTokenHash (hmac text)) (positive : 0 < policy.windowMs)
    (distinct : (subjects.map (·.scope)).Nodup) :
    (∃ result, consumeEvery toLowerCase hmac policy timestamp subjects database = .ok result) ↔
      ReadsForward toLowerCase hmac database policy timestamp subjects := by
  induction subjects generalizing database with
  | nil => simp [consumeEvery, ReadsForward]
  | cons subject rest ih =>
      obtain ⟨apart, distinctRest⟩ := List.nodup_cons.mp distinct
      have first := @consume_succeeds_iff toLowerCase hmac database subject policy timestamp hex positive
      simp only [ReadsForward, ← first]
      cases consumed : consume toLowerCase hmac database subject policy timestamp with
      | error constraint => simp [consumeEvery, consumed, bind, Except.bind]
      | ok result =>
          obtain ⟨after, allowed⟩ := result
          obtain ⟨_, others, within⟩ := consume_ok positive consumed
          have same : ∀ other ∈ rest, counterOf after (bucketKey toLowerCase hmac other policy.action) =
              counterOf database (bucketKey toLowerCase hmac other policy.action) := by
            intro other member
            have different : bucketKey toLowerCase hmac other policy.action ≠
                bucketKey toLowerCase hmac subject policy.action := by
              intro equal
              exact apart (List.mem_map.mpr ⟨other, member, congrArg (·.1) equal⟩)
            rw [counterOf, others _ different, counterOf]
          have later : (∃ result, consumeEvery toLowerCase hmac policy timestamp rest after = .ok result) ↔
              ReadsForward toLowerCase hmac database policy timestamp rest :=
            (ih distinctRest).trans (readsForward_congr same)
          have succeeded : ∃ result, (Except.ok (after, allowed) : Except BucketConstraint _) = .ok result :=
            ⟨_, rfl⟩
          cases allowed with
          | false =>
              have full : ¬ counterUsed policy.windowMs
                  (counterOf database (bucketKey toLowerCase hmac subject policy.action)) timestamp <
                    subject.limit := by
                intro room
                cases within.mpr (by omega)
              simp [consumeEvery, consumed, full, bind, Except.bind, pure, Except.pure]
          | true =>
              have room : counterUsed policy.windowMs
                  (counterOf database (bucketKey toLowerCase hmac subject policy.action)) timestamp <
                    subject.limit := by
                have bound := within.mp rfl
                omega
              simp only [succeeded, room, true_and, true_imp_iff, ← later]
              simp only [consumeEvery, consumed, bind, Except.bind, if_true]
              cases consumeEvery toLowerCase hmac policy timestamp rest after <;> simp [pure, Except.pure]

theorem answered_iff (hex : ∀ text, IsTokenHash (hmac text)) (state : RateLimited) (arrival : AuthRequest × Int) :
    Answered toLowerCase hmac state arrival ↔ StepsForward toLowerCase hmac state arrival := by
  unfold Answered StepsForward handle
  cases found : policyOf arrival.1 with
  | none => simp
  | some policy =>
      obtain ⟨scopes, _⟩ := @subjectsOf_scopes toLowerCase arrival.1 policy
      have positive := (policy_positive (policyOf_mem found)).1
      simp only [Option.mem_some_iff, forall_eq', exists_eq_left']
      rw [← consumeEvery_succeeds_iff hex positive scopes]
      cases done : consumeEvery toLowerCase hmac policy arrival.2 (subjectsOf toLowerCase arrival.1 policy)
          state.database with
      | error constraint =>
          have refused := (denial_ne_passedOn policy).2 constraint
          simp [Ne.symm refused]
      | ok result =>
          obtain ⟨after, consumed, all⟩ := result
          cases all <;> simp

/-- Every request is answered exactly when no clock reads a time before a window that its
requests come to, however else the readings go. -/
theorem authClockSteps (hex : ∀ text, IsTokenHash (hmac text)) (state : RateLimited)
    (arrivals : List (AuthRequest × Int)) :
    (rateLimitSystem toLowerCase hmac).Along (Answered toLowerCase hmac) state arrivals ↔
      (rateLimitSystem toLowerCase hmac).Along (StepsForward toLowerCase hmac) state arrivals :=
  ⟨fun answered => answered.mono fun _ _ => (answered_iff hex _ _).mp,
    fun forward => forward.mono fun _ _ => (answered_iff hex _ _).mpr⟩

end

/-! ## A run -/

namespace SignUps

theorem digest_hex (text : String) : IsTokenHash (digest text) := by
  unfold digest
  split <;> decide

end SignUps

open SignUps in
theorem authClockSteps_signUps :
    (rateLimitSystem id digest).Along (Answered id digest) initial arrivals ↔
      (rateLimitSystem id digest).Along (StepsForward id digest) initial arrivals :=
  @authClockSteps id digest digest_hex initial arrivals

open SignUps in
/-- The clock is set back by a second between two sign-ups. -/
theorem signUp_locked_out :
    ¬ (rateLimitSystem id digest).Along (Answered id digest) initial [(signUp, 2000), (signUp, 1000)] := by
  intro answered
  have backwards : ¬ StepsForward id digest (initial.receive id digest (signUp, 2000)) (signUp, 1000) := by
    decide +kernel
  exact backwards ((answered_iff digest_hex _ _).mp answered.2.1)

end NebulaCloud.Auth
