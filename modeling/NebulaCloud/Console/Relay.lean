import NebulaCloud.Platform.Text
import NebulaCloud.Platform.Utf8

namespace NebulaCloud.Console

open NebulaCloud.Platform

/-! # Console relay

The bridge between the console of a worker and the socket of a browser.  What the worker
says before the browser is attached is kept and flushed, ahead of what it says later and of
its close. -/

def maximumPendingBytes : Nat := 1024 * 1024

/-- What a WebSocket delivers.  Binary data comes in the form the socket was asked for. -/
inductive Message
  | text (text : String)
  | arrayBuffer (bytes : List UInt8)
  | view (buffer : List UInt8) (byteOffset byteLength : Nat)
  | blob (bytes : List UInt8)
deriving DecidableEq, Repr

inductive ConsolePayload
  | text (text : String)
  | arrayBuffer (bytes : List UInt8)
  | uint8Array (bytes : List UInt8)
deriving DecidableEq, Repr

def payloadSize : ConsolePayload → Nat
  | .text text => (utf8Encode text.toList).length
  | .arrayBuffer bytes => bytes.length
  | .uint8Array bytes => bytes.length

/-- The data of an event that is no message is `none`. -/
def normalizePayload : Option Message → Option ConsolePayload
  | some (.text text) => some (.text text)
  | some (.arrayBuffer bytes) => some (.arrayBuffer bytes)
  | some (.view buffer byteOffset byteLength) =>
      some (.uint8Array ((buffer.drop byteOffset).take byteLength))
  | some (.blob bytes) => some (.arrayBuffer bytes)
  | none => none

/-- The code and the reason of a close. -/
structure Closing where
  code : Nat
  reason : String
deriving DecidableEq, Repr

/-- The close event of a connection.  The codes below 1000 are not used by the protocol. -/
structure CloseEvent where
  code : Nat
  reason : String
  used : 1000 ≤ code
deriving DecidableEq

inductive ReadyState
  | connecting
  | open
  | closing
  | closed
deriving DecidableEq, Repr

/-- The socket to the worker, with what was sent on it and how it was closed from here. -/
structure UpstreamSocket where
  readyState : ReadyState
  sent : List ConsolePayload
  closings : List Closing
deriving DecidableEq, Repr

def UpstreamSocket.close (socket : UpstreamSocket) (closing : Closing) : UpstreamSocket :=
  match socket.readyState with
  | .connecting | .open =>
      { socket with readyState := .closing, closings := socket.closings ++ [closing] }
  | .closing | .closed => socket

inductive BrowserCall
  | send (payload : ConsolePayload)
  | close (closing : Closing)
deriving DecidableEq, Repr

/-- The socket to the browser, as the calls made on it. -/
structure BrowserConsoleSocket where
  calls : List BrowserCall
deriving DecidableEq, Repr

def BrowserConsoleSocket.call (socket : BrowserConsoleSocket) (call : BrowserCall) : BrowserConsoleSocket :=
  ⟨socket.calls ++ [call]⟩

structure ConsoleBridgeData where
  upstream : UpstreamSocket
  browser : Option BrowserConsoleSocket
  pending : List ConsolePayload
  pendingBytes : Nat
  upstreamClosed : Option Closing
deriving DecidableEq, Repr

namespace ConsoleBridgeData

/-- The bridge that `ConsoleGateway.prepare` makes. -/
def prepared (upstream : UpstreamSocket) : ConsoleBridgeData := ⟨upstream, none, [], 0, none⟩

def callBrowser (bridge : ConsoleBridgeData) (call : BrowserCall) : ConsoleBridgeData :=
  { bridge with browser := bridge.browser.map (·.call call) }

/-- The listener of `message`, with its promise step. -/
def onMessage (bridge : ConsoleBridgeData) (data : Option Message) : ConsoleBridgeData :=
  match normalizePayload data with
  | none => bridge
  | some payload =>
      match bridge.browser with
      | some _ => bridge.callBrowser (.send payload)
      | none =>
          let pendingBytes := bridge.pendingBytes + payloadSize payload
          if maximumPendingBytes < pendingBytes then
            { bridge with
              pendingBytes
              pending := []
              upstream := bridge.upstream.close ⟨1013, "Console output backpressure"⟩ }
          else { bridge with pendingBytes, pending := bridge.pending ++ [payload] }

/-- `{ code: event.code || 1000, reason: event.reason.slice(0, 120) }`. -/
def closingOf (event : CloseEvent) : Closing :=
  ⟨if event.code = 0 then 1000 else event.code, slice event.reason 120⟩

/-- The listener of `close`. -/
def onClose (bridge : ConsoleBridgeData) (event : CloseEvent) : ConsoleBridgeData :=
  { bridge with
    upstream := { bridge.upstream with readyState := .closed }
    upstreamClosed := some (closingOf event) }.callBrowser (.close (closingOf event))

/-- The listener of `error`. -/
def onError (bridge : ConsoleBridgeData) : ConsoleBridgeData :=
  bridge.callBrowser (.close ⟨1011, "Console upstream error"⟩)

def attachConsoleBrowser (bridge : ConsoleBridgeData) (browser : BrowserConsoleSocket) : ConsoleBridgeData :=
  let flushed : ConsoleBridgeData :=
    { bridge with
      browser := some ⟨browser.calls ++ bridge.pending.map .send⟩
      pending := []
      pendingBytes := 0 }
  match bridge.upstreamClosed with
  | none => flushed
  | some closing => flushed.callBrowser (.close closing)

def forwardConsoleInput (bridge : ConsoleBridgeData) (payload : ConsolePayload) : ConsoleBridgeData :=
  if bridge.upstream.readyState ≠ .open then
    bridge.callBrowser (.close ⟨1011, "Console upstream unavailable"⟩)
  else
    let upstreamPayload : ConsolePayload :=
      match payload with
      | .uint8Array bytes => .arrayBuffer bytes
      | .text text => .text text
      | .arrayBuffer bytes => .arrayBuffer bytes
    { bridge with upstream := { bridge.upstream with sent := bridge.upstream.sent ++ [upstreamPayload] } }

def closeConsoleBridge (bridge : ConsoleBridgeData) (closing : Closing) : ConsoleBridgeData :=
  { bridge with
    browser := none
    upstream := bridge.upstream.close ⟨closing.code, slice closing.reason 120⟩ }

end ConsoleBridgeData

inductive RelayEvent
  | open
  | message (data : Option Message)
  | close (event : CloseEvent)
  | error
  | attach
  | input (payload : ConsolePayload)
  | disconnect
deriving DecidableEq

def ConsoleBridgeData.step (bridge : ConsoleBridgeData) : RelayEvent → ConsoleBridgeData
  | .open => { bridge with upstream := { bridge.upstream with readyState := .open } }
  | .message data => bridge.onMessage data
  | .close event => bridge.onClose event
  | .error => bridge.onError
  | .attach => bridge.attachConsoleBrowser ⟨[]⟩
  | .input payload => bridge.forwardConsoleInput payload
  | .disconnect => bridge.closeConsoleBridge ⟨1000, "Browser disconnected"⟩

def relay (bridge : ConsoleBridgeData) (events : List RelayEvent) : ConsoleBridgeData :=
  events.foldl ConsoleBridgeData.step bridge

/-! ## What the browser is to receive -/

inductive Content
  | text (text : String)
  | binary (bytes : List UInt8)
deriving DecidableEq, Repr

def Message.content : Message → Content
  | .text value => .text value
  | .arrayBuffer bytes => .binary bytes
  | .view buffer byteOffset byteLength => .binary ((buffer.drop byteOffset).take byteLength)
  | .blob bytes => .binary bytes

def Content.size : Content → Nat
  | .text value => (utf8Encode value.toList).length
  | .binary bytes => bytes.length

def ConsolePayload.content : ConsolePayload → Content
  | .text value => .text value
  | .arrayBuffer bytes => .binary bytes
  | .uint8Array bytes => .binary bytes

inductive Reception
  | content (content : Content)
  | closed (code : Nat)
deriving DecidableEq, Repr

def BrowserCall.reception : BrowserCall → Reception
  | .send payload => .content payload.content
  | .close closing => .closed closing.code

/-- What an event of the upstream socket conveys to the browser. -/
def RelayEvent.conveys : RelayEvent → List Reception
  | .message (some said) => [.content said.content]
  | .close event => [.closed event.code]
  | _ => []

/-- The bytes that an event adds to the stream. -/
def RelayEvent.bytes : RelayEvent → Nat
  | .message (some said) => said.content.size
  | _ => 0

/-- Messages of the upstream socket and then perhaps its close, with one attachment anywhere
among them. -/
structure Interleaving (events : List RelayEvent) (messages : List Message) (closed : Option CloseEvent) :
    Prop where
  upstream : events.filter (· ≠ .attach) =
    messages.map (fun message => .message (some message)) ++ closed.toList.map .close
  attached : events.count .attach = 1

/-- What comes before the attachment fits the buffer. -/
def FitsBuffer (events : List RelayEvent) : Prop :=
  ((events.takeWhile (· ≠ .attach)).map RelayEvent.bytes).sum ≤ maximumPendingBytes

instance (events : List RelayEvent) : Decidable (FitsBuffer events) := inferInstanceAs (Decidable (_ ≤ _))

variable {bridge : ConsoleBridgeData} {events before after : List RelayEvent}

/-! ## Before the attachment -/

@[simp] theorem relay_nil : relay bridge [] = bridge := rfl

@[simp] theorem relay_cons (event : RelayEvent) :
    relay bridge (event :: events) = relay (bridge.step event) events := rfl

theorem relay_append : relay bridge (before ++ after) = relay (relay bridge before) after :=
  List.foldl_append

theorem normalizePayload_some (message : Message) :
    ∃ payload, normalizePayload (some message) = some payload ∧ payload.content = message.content ∧
      payloadSize payload = message.content.size := by
  cases message <;> exact ⟨_, rfl, rfl, rfl⟩

theorem closingOf_code (event : CloseEvent) : (ConsoleBridgeData.closingOf event).code = event.code := by
  have used := event.used
  have nonzero : event.code ≠ 0 := by omega
  simp [ConsoleBridgeData.closingOf, nonzero]

/-- An event of the stream: a message or the close. -/
def RelayEvent.IsStream : RelayEvent → Prop
  | .message (some _) => True
  | .close _ => True
  | _ => False

def RelayEvent.IsClose : RelayEvent → Prop
  | .close _ => True
  | _ => False

/-- What a bridge without a browser holds for it. -/
def ConsoleBridgeData.owed (bridge : ConsoleBridgeData) : List Reception :=
  bridge.pending.map (fun payload => .content payload.content) ++
    bridge.upstreamClosed.toList.map (fun closing => .closed closing.code)

/-- A close ends the stream, so that what is owed before it is a list of messages and a
message can go behind it. -/
theorem waiting_relay (stream : ∀ event ∈ before, event.IsStream)
    (ends : before.Pairwise fun event _ => ¬ event.IsClose) (detached : bridge.browser = none)
    (streaming : bridge.upstreamClosed = none)
    (fits : bridge.pendingBytes + (before.map RelayEvent.bytes).sum ≤ maximumPendingBytes) :
    (relay bridge before).browser = none ∧
      (relay bridge before).owed = bridge.owed ++ before.flatMap RelayEvent.conveys := by
  induction before generalizing bridge with
  | nil => simp [detached]
  | cons event rest ih =>
      obtain ⟨first, endsRest⟩ := List.pairwise_cons.mp ends
      have streamRest : ∀ later ∈ rest, later.IsStream := by
        intro later member
        exact stream later (List.mem_cons_of_mem event member)
      rw [List.map_cons, List.sum_cons] at fits
      have here := stream event List.mem_cons_self
      match event, here with
      | .message (some message), _ =>
          obtain ⟨payload, normal, content, size⟩ := normalizePayload_some message
          have bytes : (RelayEvent.message (some message)).bytes = payloadSize payload := by
            rw [size]
            rfl
          rw [bytes] at fits
          have kept : ¬ maximumPendingBytes < bridge.pendingBytes + payloadSize payload := by omega
          have stepped : bridge.step (.message (some message)) =
              { bridge with
                pendingBytes := bridge.pendingBytes + payloadSize payload
                pending := bridge.pending ++ [payload] } := by
            simp [ConsoleBridgeData.step, ConsoleBridgeData.onMessage, normal, detached, kept]
          have fitsRest : (bridge.step (.message (some message))).pendingBytes +
              (rest.map RelayEvent.bytes).sum ≤ maximumPendingBytes := by
            simp only [stepped]
            omega
          have laterDetached : (bridge.step (.message (some message))).browser = none := by simp [stepped, detached]
          have laterStreaming : (bridge.step (.message (some message))).upstreamClosed = none := by
            simp [stepped, streaming]
          obtain ⟨stillDetached, owed⟩ := ih streamRest endsRest laterDetached laterStreaming fitsRest
          refine ⟨stillDetached, ?_⟩
          rw [relay_cons, owed, stepped]
          simp [ConsoleBridgeData.owed, streaming, RelayEvent.conveys, content]
      | .close closing, _ =>
          have last : rest = [] := by
            cases rest with
            | nil => rfl
            | cons later _ => exact absurd trivial (first later List.mem_cons_self)
          subst last
          simp [ConsoleBridgeData.step, ConsoleBridgeData.onClose, ConsoleBridgeData.callBrowser, detached,
            ConsoleBridgeData.owed, streaming, RelayEvent.conveys, closingOf_code]

/-! ## The attachment and what follows -/

/-- What the attached browser has received. -/
def ConsoleBridgeData.received (bridge : ConsoleBridgeData) : List Reception :=
  bridge.browser.elim [] fun browser => browser.calls.map BrowserCall.reception

theorem attached_received (bridge : ConsoleBridgeData) :
    (bridge.step .attach).browser.isSome ∧ (bridge.step .attach).received = bridge.owed := by
  cases closed : bridge.upstreamClosed <;>
    simp [ConsoleBridgeData.step, ConsoleBridgeData.attachConsoleBrowser, ConsoleBridgeData.callBrowser,
      ConsoleBridgeData.received, ConsoleBridgeData.owed, BrowserConsoleSocket.call, BrowserCall.reception, closed,
      Function.comp_def]

theorem callBrowser_received (attached : bridge.browser.isSome) (call : BrowserCall) :
    (bridge.callBrowser call).browser.isSome ∧
      (bridge.callBrowser call).received = bridge.received ++ [call.reception] := by
  obtain ⟨browser, found⟩ := Option.isSome_iff_exists.mp attached
  simp [ConsoleBridgeData.callBrowser, ConsoleBridgeData.received, found, BrowserConsoleSocket.call]

theorem attached_step {event : RelayEvent} (stream : event.IsStream) (attached : bridge.browser.isSome) :
    (bridge.step event).browser.isSome ∧ (bridge.step event).received = bridge.received ++ event.conveys := by
  match event, stream with
  | .message (some message), _ =>
      obtain ⟨payload, normal, content, _⟩ := normalizePayload_some message
      obtain ⟨browser, found⟩ := Option.isSome_iff_exists.mp attached
      have stepped : bridge.step (.message (some message)) = bridge.callBrowser (.send payload) := by
        simp [ConsoleBridgeData.step, ConsoleBridgeData.onMessage, normal, found]
      rw [stepped, RelayEvent.conveys, ← content]
      exact callBrowser_received attached (.send payload)
  | .close closing, _ =>
      obtain ⟨browser, found⟩ := Option.isSome_iff_exists.mp attached
      simp [ConsoleBridgeData.step, ConsoleBridgeData.onClose, ConsoleBridgeData.callBrowser,
        ConsoleBridgeData.received, found, BrowserConsoleSocket.call, BrowserCall.reception, RelayEvent.conveys,
        closingOf_code]

theorem attached_relay (stream : ∀ event ∈ after, event.IsStream) (attached : bridge.browser.isSome) :
    (relay bridge after).received = bridge.received ++ after.flatMap RelayEvent.conveys := by
  induction after generalizing bridge with
  | nil => simp
  | cons event rest ih =>
      obtain ⟨stillAttached, received⟩ := attached_step (stream event List.mem_cons_self) attached
      have later := ih (fun other member => stream other (List.mem_cons_of_mem event member)) stillAttached
      rw [relay_cons, later, received, List.flatMap_cons, List.append_assoc]

/-! ## Every interleaving -/

theorem stream_conveys (messages : List Message) (closed : Option CloseEvent) :
    (messages.map (fun message => RelayEvent.message (some message)) ++ closed.toList.map RelayEvent.close).flatMap
        RelayEvent.conveys =
      messages.map (fun message => .content message.content) ++
        closed.toList.map (fun event => .closed event.code) := by
  have each : messages.flatMap (fun message => RelayEvent.conveys (.message (some message))) =
      messages.map fun message => .content message.content := by
    induction messages with
    | nil => rfl
    | cons message rest ih =>
        rw [List.flatMap_cons, ih]
        rfl
  rw [List.flatMap_append, List.flatMap_map, each]
  cases closed <;> simp [RelayEvent.conveys]

theorem Interleaving.split {messages : List Message} {closed : Option CloseEvent}
    (interleaving : Interleaving events messages closed) :
    ∃ before after, events = before ++ .attach :: after ∧ events.takeWhile (· ≠ .attach) = before ∧
      before ++ after = messages.map (fun message => .message (some message)) ++ closed.toList.map .close := by
  have present : RelayEvent.attach ∈ events := List.count_pos_iff.mp (by rw [interleaving.attached]; omega)
  obtain ⟨before, after, rfl, absent⟩ := List.eq_append_cons_of_mem present
  have once := interleaving.attached
  rw [List.count_append, List.count_cons_self, List.count_eq_zero.mpr absent] at once
  have never : RelayEvent.attach ∉ after := List.count_eq_zero.mp (by omega)
  have beforeKept : ∀ event ∈ before, decide (event ≠ .attach) = true := by
    intro event member
    exact decide_eq_true fun same => absent (same ▸ member)
  have afterKept : ∀ event ∈ after, decide (event ≠ .attach) = true := by
    intro event member
    exact decide_eq_true fun same => never (same ▸ member)
  refine ⟨before, after, rfl, ?_, ?_⟩
  · rw [List.takeWhile_append_of_pos beforeKept]
    simp
  · have upstream := interleaving.upstream
    rw [List.filter_append, List.filter_cons_of_neg (by simp), List.filter_eq_self.mpr beforeKept,
      List.filter_eq_self.mpr afterKept] at upstream
    exact upstream

/-- Wherever the browser is attached, it receives the payloads of the worker in order, each once,
and then the close with its code. -/
theorem consoleRelay (upstream : UpstreamSocket) (events : List RelayEvent) (messages : List Message)
    (closed : Option CloseEvent) (interleaving : Interleaving events messages closed) (fits : FitsBuffer events) :
    (relay (.prepared upstream) events).received =
      messages.map (fun message => .content message.content) ++ closed.toList.map fun event => .closed event.code := by
  obtain ⟨before, after, rfl, taken, stream⟩ := interleaving.split
  have all : ∀ event ∈ before ++ after, event.IsStream := by
    rw [stream]
    intro event member
    simp only [List.mem_append, List.mem_map] at member
    rcases member with ⟨message, _, rfl⟩ | ⟨closing, _, rfl⟩ <;> trivial
  have ends : (before ++ after).Pairwise fun event _ => ¬ event.IsClose := by
    rw [stream, List.pairwise_append]
    refine ⟨List.pairwise_map.mpr (List.pairwise_of_forall fun _ _ => id), ?_, ?_⟩
    · cases closed <;> simp
    · simp [RelayEvent.IsClose]
  rw [FitsBuffer, taken] at fits
  obtain ⟨_, owed⟩ := waiting_relay (fun event member => all event (List.mem_append_left after member))
    (List.pairwise_append.mp ends).1 rfl rfl (show (ConsoleBridgeData.prepared upstream).pendingBytes +
      (before.map RelayEvent.bytes).sum ≤ maximumPendingBytes from by simpa [ConsoleBridgeData.prepared] using fits)
  obtain ⟨attached, received⟩ := attached_received (relay (.prepared upstream) before)
  have nothing : (ConsoleBridgeData.prepared upstream).owed = [] := rfl
  calc (relay (.prepared upstream) (before ++ .attach :: after)).received
      = (relay ((relay (.prepared upstream) before).step .attach) after).received := by
        rw [relay_append, relay_cons]
    _ = (before ++ after).flatMap RelayEvent.conveys := by
        rw [attached_relay (fun event member => all event (List.mem_append_right before member)) attached, received,
          owed, nothing, List.nil_append, List.flatMap_append]
    _ = _ := by rw [stream, stream_conveys]

section Sample

def openUpstream : UpstreamSocket := ⟨.open, [], []⟩

def shellExit : CloseEvent := ⟨1000, "shell exited", le_rfl⟩

/-- Output before and after the attachment. -/
theorem consoleRelay_shell :
    (relay (.prepared openUpstream)
        [.message (some (.text "$ ")), .attach, .message (some (.view [0, 108, 115, 10] 1 3)),
          .close shellExit]).received =
      [.content (.text "$ "), .content (.binary [108, 115, 10]), .closed 1000] :=
  consoleRelay openUpstream _ [.text "$ ", .view [0, 108, 115, 10] 1 3] (some shellExit)
    ⟨by decide, by decide⟩ (by decide)

end Sample

end NebulaCloud.Console
