import NebulaCloud.Email.Delivery

namespace NebulaCloud.Email

open NebulaCloud.Data NebulaCloud.Platform
open NebulaCloud.Database (IsTokenHash)

/-! # What the reports of a message amount to

A status falls into one of four classes.  A report moves a delivery to the greater
class of the two, so that the order of the reports does not matter. -/

inductive StatusClass
  | sent | delayed | delivered | suppressing
deriving DecidableEq

def StatusClass.rank : StatusClass → Nat
  | .sent => 0
  | .delayed => 1
  | .delivered => 2
  | .suppressing => 3

theorem StatusClass.rank_injective : Function.Injective StatusClass.rank := by
  intro left right same
  cases left <;> cases right <;> first | rfl | cases same

instance : LinearOrder StatusClass := LinearOrder.lift' StatusClass.rank StatusClass.rank_injective

theorem StatusClass.sent_le (statusClass : StatusClass) : StatusClass.sent ≤ statusClass :=
  Nat.zero_le statusClass.rank

theorem StatusClass.le_suppressing (statusClass : StatusClass) : statusClass ≤ .suppressing := by
  cases statusClass <;> decide

/-- A message that has not been sent has no class. -/
def EmailDeliveryStatus.statusClass : EmailDeliveryStatus → Option StatusClass
  | .sending | .failed => none
  | .sent => some .sent
  | .delayed => some .delayed
  | .delivered => some .delivered
  | .bounced | .complained | .suppressed => some .suppressing

def ProviderStatus.statusClass : ProviderStatus → StatusClass
  | .delayed => .delayed
  | .delivered => .delivered
  | .bounced | .complained | .suppressed => .suppressing

/-- The class that the reports amount to, in whatever order they come. -/
def joined (reports : List ProviderStatus) : StatusClass :=
  if ∃ status ∈ reports, status.status.terminal then .suppressing
  else if .delivered ∈ reports then .delivered
  else if .delayed ∈ reports then .delayed
  else .sent

def EmailCall.reportsOn (message : String) : EmailCall → List ProviderStatus
  | .project providerMessageId status _ => if trim providerMessageId = message then [status] else []
  | _ => []

def EmailCall.timestamp : EmailCall → Int
  | .begin _ timestamp | .markSent _ _ timestamp | .markFailed _ _ timestamp | .project _ _ timestamp =>
      timestamp

def EmailCall.succeeds (store : EmailStore) (call : EmailCall) : Bool := (call.perform store).isOk

/-- The reports on a message that the calls bring. -/
def reported (message : String) (calls : List EmailCall) : List ProviderStatus :=
  calls.flatMap (·.reportsOn message)

/-- The reports on a message whose projection does not throw. -/
def applied (message : String) : EmailStore → List EmailCall → List ProviderStatus
  | _, [] => []
  | store, call :: rest =>
      (if call.succeeds store then call.reportsOn message else []) ++
        applied message (emailSystem.step store call) rest

/-- The class of a delivery, once it has been sent. -/
def classOf (store : EmailStore) (id : String) : Option StatusClass :=
  (getEmailDelivery store id).bind (·.status.statusClass)

/-! ## The join -/

variable {reports later : List ProviderStatus}

theorem joined_cons (status : ProviderStatus) :
    joined (status :: reports) = max status.statusClass (joined reports) := by
  simp only [joined, List.mem_cons, exists_eq_or_imp]
  by_cases suppressing : ∃ status ∈ reports, status.status.terminal = true
  · simp only [suppressing, or_true, if_true]
    exact (max_eq_right (StatusClass.le_suppressing _)).symm
  · by_cases delivered : ProviderStatus.delivered ∈ reports <;>
      by_cases delayed : ProviderStatus.delayed ∈ reports <;>
      simp only [suppressing, delivered, delayed, or_false, or_true] <;>
      cases status <;> decide

theorem joined_append : joined (reports ++ later) = max (joined reports) (joined later) := by
  induction reports with
  | nil => exact (max_eq_right (StatusClass.sent_le _)).symm
  | cons status rest ih => rw [List.cons_append, joined_cons, joined_cons, ih, max_assoc]

theorem joined_congr (same : ∀ status, status ∈ reports ↔ status ∈ later) :
    joined reports = joined later := by
  simp only [joined, same]

/-! ## One call -/

variable {store : EmailStore} {delivery : EmailDeliveryRow} {call : EmailCall} {calls : List EmailCall}
  {message : String} {statusClass : StatusClass}

/-- The statuses that a report overwrites. -/
theorem overwritten {current : EmailDeliveryStatus} (status : ProviderStatus)
    (classed : current.statusClass = some statusClass) :
    (if ¬ current.terminal ∧ ¬ (current = .delivered ∧ status = .delayed) then status.status
      else current).statusClass = some (max statusClass (joined [status])) := by
  cases current <;> cases classed <;> cases status <;> decide

/-- A sent message keeps its identity and moves to the join of its class and the report. -/
theorem next_statusClass (known : delivery.providerMessageId = some message)
    (classed : delivery.status.statusClass = some statusClass) :
    (delivery.next call).status.statusClass =
      some (max statusClass (joined (call.reportsOn message))) := by
  have same : max statusClass (joined []) = statusClass := max_eq_left (StatusClass.sent_le _)
  have notSending : delivery.status ≠ .sending := by
    intro sending
    rw [sending] at classed
    cases classed
  cases call with
  | begin input timestamp => exact classed.trans (congrArg some same.symm)
  | markSent id providerMessageId timestamp =>
      simp only [EmailDeliveryRow.next, notSending, and_false, if_false, EmailCall.reportsOn]
      exact classed.trans (congrArg some same.symm)
  | markFailed id errorCode timestamp =>
      simp only [EmailDeliveryRow.next, notSending, and_false, if_false, EmailCall.reportsOn]
      exact classed.trans (congrArg some same.symm)
  | project providerMessageId status timestamp =>
      simp only [EmailDeliveryRow.next, EmailCall.reportsOn, known, Option.some.injEq]
      by_cases other : trim providerMessageId = message
      · subst other
        rw [if_pos rfl, ← overwritten status classed, apply_ite EmailDeliveryRow.status]
        simp only [true_and]
      · simp only [Ne.symm other, other, false_and, if_false]
        exact classed.trans (congrArg some same.symm)

theorem next_identity : (delivery.next call).id = delivery.id ∧
    (delivery.next call).recipientHash = delivery.recipientHash ∧
    (delivery.next call).createdAt = delivery.createdAt := by
  refine ⟨?_, ?_, ?_⟩ <;> cases call <;> simp only [EmailDeliveryRow.next] <;> split <;> rfl

/-- Once there is a message id, it stays. -/
theorem next_message (known : delivery.providerMessageId = some message)
    (classed : delivery.status.statusClass = some statusClass) :
    (delivery.next call).providerMessageId = some message := by
  have notSending : delivery.status ≠ .sending := by
    intro sending
    rw [sending] at classed
    cases classed
  cases call <;> simp only [EmailDeliveryRow.next, notSending, and_false, if_false] <;>
    (try split) <;> exact known

/-- A suppressing status absorbs. -/
theorem next_terminal (terminal : delivery.status.terminal = true) : delivery.next call = delivery := by
  have notSending : delivery.status ≠ .sending := by
    intro sending
    rw [sending] at terminal
    cases terminal
  cases call <;> simp [EmailDeliveryRow.next, notSending, terminal]

theorem step_ok {after : EmailStore} {result : Option EmailDeliveryRow}
    (performed : call.perform store = .ok (after, result)) :
    call.succeeds store = true ∧ emailSystem.step store call = after := by
  simp [EmailCall.succeeds, emailSystem, performed, Except.isOk, Except.toBool]

theorem step_error {failure : EmailFailure} (performed : call.perform store = .error failure) :
    call.succeeds store = false ∧ emailSystem.step store call = store := by
  simp [EmailCall.succeeds, emailSystem, performed, Except.isOk, Except.toBool]

theorem step_mem (member : delivery ∈ store.tables) :
    (if call.succeeds store then delivery.next call else delivery) ∈ (emailSystem.step store call).tables := by
  cases performed : call.perform store with
  | error failure =>
      obtain ⟨failed, same⟩ := step_error performed
      rwa [failed, same]
  | ok result =>
      obtain ⟨succeeded, stepped⟩ := step_ok performed
      rw [succeeded, stepped, perform_ok performed]
      exact List.mem_append_left _ (List.mem_map_of_mem member)

/-! ## Runs -/

/-- A sent message ends at the join of its class and the reports applied to it. -/
theorem run_statusClass (member : delivery ∈ store.tables)
    (known : delivery.providerMessageId = some message)
    (classed : delivery.status.statusClass = some statusClass) :
    ∃ final ∈ (emailSystem.run store calls).tables, final.id = delivery.id ∧
      final.status.statusClass = some (max statusClass (joined (applied message store calls))) := by
  induction calls generalizing store delivery statusClass with
  | nil => exact ⟨delivery, member, rfl, classed.trans (congrArg some (max_eq_left (StatusClass.sent_le _)).symm)⟩
  | cons call rest ih =>
      have stepped := @step_mem store delivery call member
      simp only [applied, joined_append, System.run_cons]
      by_cases succeeded : call.succeeds store = true
      · rw [if_pos succeeded] at stepped ⊢
        obtain ⟨final, held, same, ends⟩ := ih stepped (next_message known classed)
          (next_statusClass known classed)
        exact ⟨final, held, same.trans next_identity.1, ends.trans (by rw [max_assoc])⟩
      · rw [if_neg succeeded] at stepped ⊢
        obtain ⟨final, held, same, ends⟩ := ih stepped known classed
        refine ⟨final, held, same, ends.trans ?_⟩
        rw [show joined [] = .sent from rfl, max_eq_right (StatusClass.sent_le (joined _))]

theorem suppressed_step {recipientHash : String}
    (suppressed : isEmailRecipientSuppressed store recipientHash = true) :
    isEmailRecipientSuppressed (emailSystem.step store call) recipientHash = true := by
  unfold isEmailRecipientSuppressed at suppressed ⊢
  split
  · rfl
  · rename_i wellFormed
    rw [if_neg wellFormed, List.any_eq_true] at suppressed
    obtain ⟨delivery, member, held⟩ := suppressed
    have terminal : delivery.status.terminal = true := by
      simp only [Bool.and_eq_true] at held
      exact held.2
    have stepped := @step_mem store delivery call member
    rw [next_terminal terminal, ite_self] at stepped
    exact List.any_eq_true.mpr ⟨delivery, stepped, held⟩

theorem suppressed_run {recipientHash : String}
    (suppressed : isEmailRecipientSuppressed store recipientHash = true) :
    isEmailRecipientSuppressed (emailSystem.run store calls) recipientHash = true := by
  induction calls generalizing store with
  | nil => exact suppressed
  | cons call rest ih => exact ih (suppressed_step suppressed)

/-! ## What a delivery that was sent holds -/

/-- A message id is stored with the mark `sent`, after its check. -/
structure EmailDeliveryRow.Marked (delivery : EmailDeliveryRow) : Prop where
  sent : delivery.status.statusClass ≠ none → delivery.providerMessageId ≠ none
  checked : ∀ message, delivery.providerMessageId = some message →
    delivery.status.statusClass ≠ none ∧ message ≠ "" ∧ utf16Length message ≤ 256

theorem ProviderStatus.classed (status : ProviderStatus) : status.status.statusClass ≠ none := by
  cases status <;> simp [ProviderStatus.status, EmailDeliveryStatus.statusClass]

theorem EmailDeliveryRow.Marked.next (marked : delivery.Marked) {after : EmailStore}
    {result : Option EmailDeliveryRow} (performed : call.perform store = .ok (after, result)) :
    (delivery.next call).Marked := by
  cases call with
  | begin input timestamp => exact marked
  | markSent id providerMessageId timestamp =>
      obtain ⟨text, checked, _⟩ := bind_ok.mp performed
      obtain ⟨_, filled, short⟩ := emailDiagnosticText_ok.mp checked
      simp only [EmailDeliveryRow.next]
      split
      · refine ⟨by simp, ?_⟩
        rintro message ⟨⟩
        exact ⟨by simp [EmailDeliveryStatus.statusClass], filled, short⟩
      · exact marked
  | markFailed id errorCode timestamp =>
      simp only [EmailDeliveryRow.next]
      split
      · rename_i sending
        refine ⟨fun classed => absurd rfl classed, ?_⟩
        intro message known
        have classed := (marked.checked message known).1
        rw [sending.2] at classed
        exact absurd rfl classed
      · exact marked
  | project providerMessageId status timestamp =>
      simp only [EmailDeliveryRow.next]
      split
      · rename_i reached
        refine ⟨fun _ => by simp [reached.1], ?_⟩
        intro message known
        exact ⟨status.classed, (marked.checked message known).2⟩
      · exact marked

theorem marked_of_reachable (reachable : emailSystem.Reachable store) :
    ∀ delivery ∈ store.tables, delivery.Marked := by
  apply @System.Reachable.invariant _ _ _ (fun store : EmailStore => ∀ delivery ∈ store.tables,
    delivery.Marked) _ reachable
  · intro store empty delivery member
    rw [show store.tables = [] from empty] at member
    cases member
  · intro store call _ marked delivery member
    cases performed : call.perform store with
    | error failure =>
        rw [(step_error performed).2] at member
        exact marked delivery member
    | ok result =>
        rw [(step_ok performed).2, perform_ok performed, List.mem_append] at member
        rcases member with changed | created
        · obtain ⟨before, held, rfl⟩ := List.mem_map.mp changed
          exact (marked before held).next performed
        · cases call with
          | begin input timestamp =>
              rw [List.mem_singleton.mp created]
              exact ⟨fun classed => absurd rfl classed, fun message known => by cases known⟩
          | markSent => cases created
          | markFailed => cases created
          | project => cases created

/-- A report on a message is refused only for a clock behind the message's creation. -/
theorem project_succeeds (member : delivery ∈ store.tables) {providerMessageId : String}
    (known : delivery.providerMessageId = some (trim providerMessageId)) (marked : delivery.Marked)
    (status : ProviderStatus) {timestamp : Int} (order : delivery.createdAt ≤ timestamp) :
    (EmailCall.project providerMessageId status timestamp).succeeds store = true := by
  obtain ⟨_, filled, short⟩ := marked.checked _ known
  have checked : emailDiagnosticText providerMessageId "Email provider message id" 256 =
      .ok (trim providerMessageId) := emailDiagnosticText_ok.mpr ⟨rfl, filled, short⟩
  have found : store.tables.find? (fun delivery => delivery.providerMessageId = some (trim providerMessageId)) =
      some delivery := by
    apply (find?_eq_some_of_unique _).mpr ⟨member, by simpa using known⟩
    intro left leftHeld right rightHeld leftKnown rightKnown
    exact eq_of_message leftHeld rightHeld (by simpa using leftKnown) (by simpa using rightKnown)
  have consistent : emailSchema.Consistent (updateWhere (fun other => other.id = delivery.id)
      (fun other => { other with status := status.status, errorCode := none, updatedAt := timestamp })
      store.tables) := by
    intro constraint
    cases constraint with
    | primaryKey =>
        refine Eq.mpr (congrArg List.Nodup (map_updateWhere ?_)) (store.consistent .primaryKey)
        exact fun _ => rfl
    | providerMessageId =>
        refine Eq.mpr (congrArg List.Nodup (filterMap_updateWhere ?_)) (store.consistent .providerMessageId)
        exact fun _ _ _ => rfl
    | checks =>
        intro changed changedMember
        rcases (mem_updateWhere_key (store.consistent .primaryKey) member rfl).mp changedMember with
          rfl | ⟨held, _⟩
        · obtain ⟨provider, hash, _, created, _⟩ := store.consistent .checks delivery member
          exact ⟨provider, hash, by simp, created, order⟩
        · exact store.consistent .checks changed held
  simp only [EmailCall.succeeds, EmailCall.perform, projectEmailDeliveryStatus, checked, found,
    Store.execute_of_consistent consistent, bind, Except.bind]
  split
  · rfl
  · split <;> rfl

/-- With a clock past the creation of the message, every report on it is applied. -/
theorem applied_eq_reported (reachable : emailSystem.Reachable store) (member : delivery ∈ store.tables)
    (known : delivery.providerMessageId = some message)
    (order : ∀ call ∈ calls, delivery.createdAt ≤ call.timestamp) :
    applied message store calls = reported message calls := by
  induction calls generalizing store delivery with
  | nil => rfl
  | cons call rest ih =>
      have marked := marked_of_reachable reachable delivery member
      obtain ⟨statusClass, classed⟩ := Option.ne_none_iff_exists'.mp (marked.checked message known).1
      have stepped := @step_mem store delivery call member
      have later : applied message (emailSystem.step store call) rest = reported message rest := by
        have restOrder : ∀ call ∈ rest, delivery.createdAt ≤ call.timestamp :=
          fun call held => order call (List.mem_cons_of_mem _ held)
        by_cases succeeded : call.succeeds store = true
        · rw [if_pos succeeded] at stepped
          exact ih (.step reachable trivial) stepped (next_message known classed)
            fun call held => next_identity.2.2.trans_le (restOrder call held)
        · rw [if_neg succeeded] at stepped
          exact ih (.step reachable trivial) stepped known restOrder
      rw [applied, reported, List.flatMap_cons, later, reported]
      cases call with
      | begin | markSent | markFailed => simp [EmailCall.reportsOn]
      | project providerMessageId status timestamp =>
          simp only [EmailCall.reportsOn]
          by_cases same : trim providerMessageId = message
          · subst same
            have now : delivery.createdAt ≤ timestamp := order _ List.mem_cons_self
            rw [project_succeeds member known marked status now, if_pos rfl]
          · simp [same]

/-- The class of a sent message is the join of the reports applied to it, and a
suppressed recipient stays suppressed. -/
theorem emailStatus_join (reachable : emailSystem.Reachable store) (member : delivery ∈ store.tables)
    (sent : delivery.status = .sent) :
    ∃ message, delivery.providerMessageId = some message ∧ ∀ calls,
      classOf (emailSystem.run store calls) delivery.id = some (joined (applied message store calls)) ∧
      (∀ others, (∀ status, status ∈ applied message store others ↔ status ∈ applied message store calls) →
        classOf (emailSystem.run store others) delivery.id =
          classOf (emailSystem.run store calls) delivery.id) ∧
      ((∀ call ∈ calls, delivery.createdAt ≤ call.timestamp) →
        applied message store calls = reported message calls) ∧
      ∀ later recipientHash,
        isEmailRecipientSuppressed (emailSystem.run store calls) recipientHash = true →
          isEmailRecipientSuppressed (emailSystem.run store (calls ++ later)) recipientHash = true := by
  have classed : delivery.status.statusClass = some .sent := by
    rw [sent]
    rfl
  have marked := marked_of_reachable reachable delivery member
  obtain ⟨message, known⟩ := Option.ne_none_iff_exists'.mp (marked.sent (by simp [classed]))
  have final : ∀ calls, classOf (emailSystem.run store calls) delivery.id =
      some (joined (applied message store calls)) := by
    intro calls
    obtain ⟨last, held, same, ends⟩ := @run_statusClass store delivery calls message .sent member known classed
    have found : getEmailDelivery (emailSystem.run store calls) delivery.id = some last :=
      (lookup_eq_some ((emailSystem.run store calls).consistent .primaryKey)).mpr ⟨held, same⟩
    rw [classOf, found, Option.bind_some, ends, max_eq_right (StatusClass.sent_le _)]
  refine ⟨message, known, fun calls => ⟨final calls, ?_, applied_eq_reported reachable member known, ?_⟩⟩
  · intro others same
    rw [final, final, joined_congr same]
  · intro later recipientHash suppressed
    rw [System.run_append]
    exact suppressed_run suppressed

/-! ## A message that bounces -/

namespace Bounce

def keyedHash : String := "0123456789abcdef0123456789abcdef0123456789abcdef0123456789abcdef"

def empty : EmailStore := ⟨[], fun constraint => by cases constraint <;> simp [emailSchema]⟩

def sending : List EmailCall :=
  [.begin { id := "delivery-1", provider := "resend", kind := .passwordReset, recipientHash := keyedHash } 100,
    .markSent "delivery-1" "email-1" 110]

def sentDelivery : EmailDeliveryRow where
  id := "delivery-1"
  provider := "resend"
  providerMessageId := some "email-1"
  kind := .passwordReset
  recipientHash := keyedHash
  status := .sent
  errorCode := none
  createdAt := 100
  updatedAt := 110

end Bounce

open Bounce in
/-- A bounce that overtakes the delivery report and comes twice. -/
theorem emailStatus_join_bounce :
    let store := emailSystem.run empty sending
    classOf (emailSystem.run store
        [.project "email-1" .bounced 120, .project "email-1" .delivered 130, .project "email-1" .bounced 140])
      "delivery-1" =
    classOf (emailSystem.run store [.project "email-1" .delivered 120, .project "email-1" .bounced 130])
      "delivery-1" := by
  obtain ⟨message, known, joins⟩ := @emailStatus_join (emailSystem.run empty sending) sentDelivery
    ((System.Reachable.initial rfl).run ⟨trivial, trivial, trivial⟩) (by decide +kernel) rfl
  cases known
  apply (joins _).2.1
  rw [(joins _).2.2.1 (by decide +kernel), (joins _).2.2.1 (by decide +kernel)]
  have first : reported "email-1" [.project "email-1" .bounced 120, .project "email-1" .delivered 130,
      .project "email-1" .bounced 140] = [.bounced, .delivered, .bounced] := by decide +kernel
  have second : reported "email-1" [.project "email-1" .delivered 120, .project "email-1" .bounced 130] =
      [.delivered, .bounced] := by decide +kernel
  intro status
  rw [first, second]
  cases status <;> decide

end NebulaCloud.Email
