import NebulaCloud.Data.Chunks
import NebulaCloud.Data.Runs
import NebulaCloud.Platform.TextDecoder
import Mathlib.Data.List.Infix

namespace NebulaCloud.Access

open NebulaCloud.Data NebulaCloud.Platform

/-! # The body of a runtime answer

The body is forwarded chunk by chunk.  The usage of the turn is reported before the chunk
with the terminal event is handed on, for the browser then stops reading. -/

inductive RuntimeRead
  | chunk (value : List UInt8)
  | done
  | failed
deriving DecidableEq, Repr

/-- What drives the forwarded stream: reads of the upstream body as they come back, and
the cancellation by the client before and after the upstream reader has answered it. -/
inductive BodyInput
  | pull (read : RuntimeRead)
  | cancel
  | cancelled
deriving DecidableEq, Repr

inductive BodyEffect
  | onComplete
  | cleanup
  | enqueue (value : List UInt8)
  | close
  | error
  | cancelReader
  | abortUpstream
deriving DecidableEq, Repr

structure RuntimeBody where
  /-- There is one if the completion is reported. -/
  decoder : Option TextDecoder
  completionTail : List Nat := []
  completionPromise : Bool := false
  finished : Bool := false
  /-- The stream is neither closed nor errored. -/
  readable : Bool := true
deriving DecidableEq, Repr

namespace RuntimeBody

def doneMarker : String := "data: [DONE]"

def tailUnits : Nat := 128

def complete (body : RuntimeBody) : RuntimeBody × List BodyEffect :=
  if body.decoder.isNone || body.completionPromise then (body, [])
  else ({ body with completionPromise := true }, [.onComplete])

def finish (body : RuntimeBody) : RuntimeBody × List BodyEffect :=
  if body.finished then (body, []) else ({ body with finished := true }, [.cleanup])

/-- A controller takes nothing once its stream is settled: `close` throws, and the `error`
that answers the exception does nothing. -/
def settle (body : RuntimeBody) (effect : BodyEffect) : RuntimeBody × List BodyEffect :=
  if body.readable then ({ body with readable := false }, [effect]) else (body, [])

def observe (body : RuntimeBody) (value : List UInt8) : RuntimeBody × List BodyEffect :=
  match body.decoder with
  | none => (body, [])
  | some decoder =>
      if body.completionPromise then (body, [])
      else
        let (decoder, text) := decoder.decode value
        let completionTail := (body.completionTail ++ textUnits text).rtake tailUnits
        let body := { body with decoder := some decoder, completionTail }
        if textUnits doneMarker.toList <:+: completionTail then body.complete else (body, [])

def pull (body : RuntimeBody) : RuntimeRead → RuntimeBody × List BodyEffect
  | .chunk value =>
      let (body, observed) := body.observe value
      if body.readable then (body, observed ++ [.enqueue value])
      else
        let (body, finished) := body.finish
        (body, observed ++ finished)
  | .done =>
      let (body, completed) := body.complete
      let (body, finished) := body.finish
      let (body, settled) := body.settle .close
      (body, completed ++ finished ++ settled)
  | .failed =>
      let (body, finished) := body.finish
      let (body, settled) := body.settle .error
      (body, finished ++ settled)

def step (body : RuntimeBody) : BodyInput → RuntimeBody × List BodyEffect
  | .pull read => body.pull read
  | .cancel => if body.readable then ({ body with readable := false }, [.cancelReader]) else (body, [])
  | .cancelled =>
      let (body, finished) := body.finish
      (body, .abortUpstream :: finished)

end RuntimeBody

open RuntimeBody

def forwardRuntimeBody : Transducer RuntimeBody BodyInput BodyEffect := ⟨RuntimeBody.step⟩

def forwardChunk (value : List UInt8) : BodyInput := .pull (.chunk value)

/-- A stream that ends, read to its end with the completion reported. -/
def forwardChunks (chunks : List (List UInt8)) : List BodyEffect :=
  (forwardRuntimeBody.run { decoder := some {} } (chunks.map forwardChunk ++ [.pull .done])).2

/-! ## What the bytes say -/

def doneBytes : List UInt8 := utf8Encode doneMarker.toList

def enqueued (effects : List BodyEffect) : List (List UInt8) :=
  effects.filterMap fun
    | .enqueue value => some value
    | _ => none

/-- The chunks in front of the one that completes the first terminal event. -/
def chunksBeforeDone (chunks : List (List UInt8)) : Nat := chunksBefore (doneBytes <:+: ·) [] chunks

/-- The completion is reported once, between the chunks in front of the terminal event and
the one that completes it. -/
structure CompletesAtMarker (chunks : List (List UInt8)) (effects : List BodyEffect) : Prop where
  forwarded : enqueued effects = chunks
  once : effects.count .onComplete ≤ 1
  atMarker : ∃ before after, effects = before ++ .onComplete :: after ∧
    enqueued before = chunks.take (chunksBeforeDone chunks)

/-- In the chunk that completes the first terminal event, some terminal event is followed
by no more than the tail has room for. -/
def MarkerNearEnd (chunks : List (List UInt8)) : Prop :=
  ∀ chunk ∈ chunks[chunksBeforeDone chunks]?, ∃ before after,
    (chunks.take (chunksBeforeDone chunks)).flatten ++ chunk = before ++ doneBytes ++ after ∧
      (textUnits (Utf8State.decode {} after).2).length ≤ tailUnits - doneMarker.length

/-! ## Any run -/

variable {body : RuntimeBody} {value : List UInt8} {effect : BodyEffect} {chunks : List (List UInt8)}
  {seen : List UInt8}

/-- How often the completion has been reported. -/
def RuntimeBody.reports (body : RuntimeBody) : Nat := if body.completionPromise then 1 else 0

theorem complete_reports (body : RuntimeBody) :
    body.reports + body.complete.2.count .onComplete = body.complete.1.reports := by
  rw [complete]
  split
  · rfl
  · rename_i unreported
    have none : body.completionPromise = false := by
      cases reported : body.completionPromise with
      | false => rfl
      | true => simp [reported] at unreported
    simp [reports, none]

theorem finish_reports (body : RuntimeBody) :
    body.finish.2.count .onComplete = 0 ∧ body.finish.1.reports = body.reports := by
  rw [finish]
  split <;> exact ⟨rfl, rfl⟩

theorem settle_reports (body : RuntimeBody) (other : effect ≠ .onComplete) :
    (body.settle effect).2.count .onComplete = 0 ∧ (body.settle effect).1.reports = body.reports := by
  rw [settle]
  split
  · exact ⟨List.count_eq_zero.mpr (by simpa using other.symm), rfl⟩
  · exact ⟨rfl, rfl⟩

theorem observe_reports (body : RuntimeBody) (value : List UInt8) :
    body.reports + (body.observe value).2.count .onComplete = (body.observe value).1.reports := by
  rw [observe]
  split
  · rfl
  rename_i decoder _
  split
  · rfl
  simp only
  split
  · exact complete_reports
      { body with
        decoder := some (decoder.decode value).1
        completionTail := (body.completionTail ++ textUnits (decoder.decode value).2).rtake tailUnits }
  · rfl

/-- Every report is one that had not been made. -/
theorem step_reports (body : RuntimeBody) (input : BodyInput) :
    body.reports + (body.step input).2.count .onComplete = (body.step input).1.reports := by
  cases input with
  | pull read =>
      cases read with
      | chunk value =>
          have observed := observe_reports body value
          simp only [step, pull]
          split
          · simpa using observed
          · obtain ⟨none, same⟩ := finish_reports (body.observe value).1
            simp only [List.count_append, none, same]
            omega
      | done =>
          have completed := complete_reports body
          obtain ⟨noneFinished, finished⟩ := finish_reports body.complete.1
          obtain ⟨noneSettled, settled⟩ :=
            settle_reports body.complete.1.finish.1 (show BodyEffect.close ≠ .onComplete by decide)
          simp only [step, pull, List.count_append, noneFinished, noneSettled, settled, finished]
          omega
      | failed =>
          obtain ⟨noneFinished, finished⟩ := finish_reports body
          obtain ⟨noneSettled, settled⟩ :=
            settle_reports body.finish.1 (show BodyEffect.error ≠ .onComplete by decide)
          simp only [step, pull, List.count_append, noneFinished, noneSettled, settled, finished]
          omega
  | cancel =>
      simp only [step]
      split <;> rfl
  | cancelled =>
      obtain ⟨none, same⟩ := finish_reports body
      simpa [step, none] using same.symm

theorem run_reports (body : RuntimeBody) (inputs : List BodyInput) :
    body.reports + (forwardRuntimeBody.run body inputs).2.count .onComplete =
      (forwardRuntimeBody.run body inputs).1.reports := by
  induction inputs generalizing body with
  | nil => rfl
  | cons input rest ih =>
      have now := step_reports body input
      have later := ih (body.step input).1
      rw [Transducer.run_cons, List.count_append]
      simp only [forwardRuntimeBody] at later ⊢
      omega

/-- Whatever the stream and the client do, the completion is reported at most once. -/
theorem run_reportsOnce (inputs : List BodyInput) :
    (forwardRuntimeBody.run body inputs).2.count .onComplete ≤ 1 := by
  have counted := run_reports body inputs
  have most : (forwardRuntimeBody.run body inputs).1.reports ≤ 1 := by
    rw [reports]
    split <;> omega
  omega

/-! ## A stream that ends -/

/-- The terminal event stands in the tail of what these bytes decode to. -/
def InTail (bytes : List UInt8) : Prop :=
  textUnits doneMarker.toList <:+: (textUnits (TextDecoder.decode {} bytes).2).rtake tailUnits

instance : DecidablePred InTail := fun _ => inferInstanceAs (Decidable (_ <:+: _))

/-- The state while these bytes have come without a report. -/
def searching (seen : List UInt8) : RuntimeBody where
  decoder := some (TextDecoder.decode {} seen).1
  completionTail := (textUnits (TextDecoder.decode {} seen).2).rtake tailUnits

theorem searching_step (seen value : List UInt8) :
    (searching seen).step (forwardChunk value) =
      if InTail (seen ++ value) then ({ searching (seen ++ value) with completionPromise := true }, [.onComplete, .enqueue value])
      else (searching (seen ++ value), [.enqueue value]) := by
  have cut := textDecoder_append {} seen value
  have observed : (searching seen).observe value =
      if InTail (seen ++ value) then (searching (seen ++ value)).complete else (searching (seen ++ value), []) := by
    simp only [observe, searching, InTail, cut, textUnits_append, rtake_rtake_append, Bool.false_eq_true, if_false]
  simp only [step, forwardChunk, pull, observed]
  split <;> rfl

theorem completed_run (chunks : List (List UInt8)) (reported : body.completionPromise = true) (readable : body.readable = true) :
    forwardRuntimeBody.run body (chunks.map forwardChunk) = (body, chunks.map .enqueue) := by
  have observed (value : List UInt8) : body.observe value = (body, []) := by
    rw [observe]
    split
    · rfl
    · rw [if_pos reported]
  induction chunks with
  | nil => rfl
  | cons chunk rest ih =>
      have stepped : body.step (forwardChunk chunk) = (body, [.enqueue chunk]) := by
        simp only [step, forwardChunk, pull, observed, readable, if_true, List.nil_append]
      simp only [List.map_cons, Transducer.run_cons, forwardRuntimeBody] at ih ⊢
      rw [stepped, ih, List.singleton_append]

/-- The trace of a stream: one report, in front of the chunk with which the terminal event
stands in the tail. -/
theorem searching_run (seen : List UInt8) (chunks : List (List UInt8)) :
    (forwardRuntimeBody.run (searching seen) (chunks.map forwardChunk ++ [.pull .done])).2 =
      (chunks.take (chunksBefore InTail seen chunks)).map .enqueue ++
        .onComplete :: (chunks.drop (chunksBefore InTail seen chunks)).map .enqueue ++ [.cleanup, .close] := by
  induction chunks generalizing seen with
  | nil => rfl
  | cons chunk rest ih =>
      have stepped := searching_step seen chunk
      have split := Transducer.run_cons forwardRuntimeBody (searching seen) (forwardChunk chunk)
        (rest.map forwardChunk ++ [.pull .done])
      rw [List.map_cons, List.cons_append, split, chunksBefore]
      by_cases here : InTail (seen ++ chunk)
      · rw [if_pos here] at stepped ⊢
        have later := @completed_run { searching (seen ++ chunk) with completionPromise := true } rest rfl rfl
        simp only [forwardRuntimeBody] at later ⊢
        rw [stepped, Transducer.run_append, later]
        rfl
      · rw [if_neg here] at stepped ⊢
        have later := ih (seen ++ chunk)
        simp only [forwardRuntimeBody] at later ⊢
        rw [stepped, later]
        rfl

theorem enqueued_append (left right : List BodyEffect) : enqueued (left ++ right) = enqueued left ++ enqueued right :=
  List.filterMap_append

theorem enqueued_map : enqueued (chunks.map .enqueue) = chunks := by
  induction chunks with
  | nil => rfl
  | cons chunk rest ih =>
      rw [enqueued] at ih
      rw [List.map_cons, enqueued, List.filterMap_cons, ih]

theorem forwardChunks_eq (chunks : List (List UInt8)) :
    forwardChunks chunks = (chunks.take (chunksBefore InTail [] chunks)).map .enqueue ++
      .onComplete :: (chunks.drop (chunksBefore InTail [] chunks)).map .enqueue ++ [.cleanup, .close] :=
  searching_run [] chunks

/-- ASCII in the bytes is ASCII in the text. -/
theorem doneBytes_eq : doneBytes = (textUnits doneMarker.toList).map UInt8.ofNat := by decide

theorem inTail_iff (bytes : List UInt8) :
    InTail bytes ↔ ∃ before after, bytes = before ++ doneBytes ++ after ∧
      (textUnits (Utf8State.decode {} after).2).length ≤ tailUnits - doneMarker.length := by
  have ascii : ∀ unit ∈ textUnits doneMarker.toList, unit < 0x80 := by decide
  have nonempty : textUnits doneMarker.toList ≠ [] := by decide
  have room : tailUnits = tailUnits - doneMarker.length + (textUnits doneMarker.toList).length := by decide
  have decoded (after : List Nat) := @occurs_decoded_iff _ after bytes ascii nonempty
  rw [InTail, room, infix_rtake_iff, doneBytes_eq, exists_comm]
  constructor
  · rintro ⟨after, before, text, short⟩
    obtain ⟨early, later, rfl, rfl⟩ := (decoded after).mp ⟨before, text⟩
    exact ⟨early, later, rfl, short⟩
  · rintro ⟨early, later, split, short⟩
    obtain ⟨before, text⟩ := (decoded _).mpr ⟨early, later, split, rfl⟩
    exact ⟨_, before, text, short⟩

/-- What is in the tail has been sent. -/
theorem inTail_sent (bytes : List UInt8) (tail : InTail bytes) : doneBytes <:+: bytes := by
  obtain ⟨before, after, rfl, -⟩ := (inTail_iff bytes).mp tail
  exact ⟨before, after, rfl⟩

theorem forwardChunks_enqueued (chunks : List (List UInt8)) : enqueued (forwardChunks chunks) = chunks := by
  have ends (effects : List BodyEffect) : enqueued (.onComplete :: effects) = enqueued effects := rfl
  have closed : enqueued [.cleanup, .close] = [] := rfl
  rw [forwardChunks_eq, enqueued_append, enqueued_append, ends, enqueued_map, enqueued_map, closed, List.append_nil,
    List.take_append_drop]

/-- There is one report in the trace, so this is the only way to split it there. -/
theorem reported_behind {before after : List BodyEffect}
    (trace : forwardChunks chunks = before ++ .onComplete :: after) :
    enqueued before = chunks.take (chunksBefore InTail [] chunks) := by
  have unreported (values : List (List UInt8)) :
      ∀ effect ∈ values.map BodyEffect.enqueue, decide (effect = .onComplete) = false := by
    intro effect member
    obtain ⟨value, -, rfl⟩ := List.mem_map.mp member
    rfl
  rw [forwardChunks_eq, List.append_assoc, List.cons_append] at trace
  rcases append_cons_inv _ trace.symm (decide_eq_true rfl) (unreported _) with ⟨rfl, -, -⟩ | ⟨middle, -, later⟩
  · exact enqueued_map
  · have again : BodyEffect.onComplete ∈
        (chunks.drop (chunksBefore InTail [] chunks)).map .enqueue ++ [.cleanup, .close] := by
      rw [← later]
      exact List.mem_append_right middle List.mem_cons_self
    rcases List.mem_append.mp again with enqueued | ended
    · simpa using unreported _ _ enqueued
    · simp at ended

/-- The report comes with the terminal event exactly if the tail still shows the event
when its chunk has been read. -/
theorem markerNearEnd_iff :
    MarkerNearEnd chunks ↔ chunksBefore InTail [] chunks = chunksBeforeDone chunks := by
  rw [chunksBeforeDone, chunksBefore_eq_iff inTail_sent]
  simp only [MarkerNearEnd, inTail_iff, List.nil_append, chunksBeforeDone]

/-- However the body is cut, its bytes are forwarded and the completion is reported once;
it is reported in front of the terminal event exactly if no chunk that completes the first
one buries it. -/
theorem completesAtMarker_iff (chunks : List (List UInt8)) :
    CompletesAtMarker chunks (forwardChunks chunks) ↔ MarkerNearEnd chunks := by
  rw [markerNearEnd_iff]
  constructor
  · rintro ⟨-, -, before, after, trace, front⟩
    have sameFront := (reported_behind trace).symm.trans front
    have lengths := congrArg List.length sameFront
    have seldom : chunksBefore InTail [] chunks ≤ chunks.length := chunksBefore_le
    have often : chunksBeforeDone chunks ≤ chunks.length := chunksBefore_le
    simp only [List.length_take] at lengths
    omega
  · intro same
    have trace := forwardChunks_eq chunks
    rw [same, List.append_assoc, List.cons_append] at trace
    exact ⟨forwardChunks_enqueued chunks, run_reportsOnce _, _, _, trace, enqueued_map⟩

/-- The report never comes too early. -/
theorem reported_late {before after : List BodyEffect}
    (trace : forwardChunks chunks = before ++ .onComplete :: after) :
    chunks.take (chunksBeforeDone chunks) <+: enqueued before := by
  rw [reported_behind trace]
  exact List.take_prefix_take_left (chunksBefore_mono inTail_sent)

/-- 117 spaces behind the terminal event, and more to come. -/
theorem terminalEvent_buried :
    ¬ CompletesAtMarker [doneBytes ++ List.replicate 117 32, [10]]
      (forwardChunks [doneBytes ++ List.replicate 117 32, [10]]) := by
  rintro ⟨-, -, before, after, trace, front⟩
  have sameFront := (reported_behind trace).symm.trans front
  revert sameFront
  decide +kernel

end NebulaCloud.Access
