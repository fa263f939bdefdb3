import NebulaCloud.Data.Delimiter

namespace NebulaCloud.Ingress

open NebulaCloud.Data

/-! # Tunnel handshake

The answer of a worker is buffered until its header block is complete.  The limit on the
buffer is checked before the block is looked for, and what comes with the end of the block
counts against it. -/

def latin1 (text : String) : List UInt8 := text.toList.map fun c => UInt8.ofNat c.toNat

/-- `bytes.toString('latin1')`. -/
def latin1Text (bytes : List UInt8) : String := String.ofList (bytes.map fun byte => Char.ofNat byte.toNat)

def maximumTunnelHeaderBytes : Nat := 8 * 1024

def lineEnd : List UInt8 := [13, 10]

def headerEnd : List UInt8 := [13, 10, 13, 10]

/-- `header.split('\r\n', 1)[0]`. -/
def statusLine (header : List UInt8) : List UInt8 :=
  match indexOf lineEnd header with
  | none => header
  | some index => header.take index

/-- `/^HTTP\/1\.1 200(?: |$)/`. -/
def isConnected (line : List UInt8) : Bool :=
  line.take 12 = latin1 "HTTP/1.1 200" && (line.drop 12).head?.all (· = 32)

/-- What the tunnel has received: the bytes given back to the socket and those that come
later. -/
inductive Handshake
  | pending (buffer : List UInt8)
  | failed (message : String)
  | established (received : List UInt8)
deriving DecidableEq

/-- Once the handshake is settled the listener is gone: a failed socket is destroyed, and
an established one hands its bytes to the tunnel. -/
def onData (handshake : Handshake) (chunk : List UInt8) : Handshake :=
  match handshake with
  | .failed message => .failed message
  | .established received => .established (received ++ chunk)
  | .pending buffer =>
      let buffer := buffer ++ chunk
      if maximumTunnelHeaderBytes < buffer.length then
        .failed "Worker TCP bridge response headers are too large"
      else
        match indexOf headerEnd buffer with
        | none => .pending buffer
        | some boundary =>
            let line := statusLine (buffer.take boundary)
            if isConnected line then .established (buffer.drop (boundary + 4))
            else .failed ("Worker TCP bridge rejected connection: " ++ latin1Text line)

def readTunnelHandshake (chunks : List (List UInt8)) : Handshake := chunks.foldl onData (.pending [])

/-! ## What the bytes say -/

/-- The first header block ends within the limit and has a status line of 200. -/
def Connects (bytes : List UInt8) (boundary : Nat) : Prop :=
  indexOf headerEnd bytes = some boundary ∧ boundary + 4 ≤ maximumTunnelHeaderBytes ∧
    isConnected (statusLine (bytes.take boundary)) = true

instance (bytes : List UInt8) (boundary : Nat) : Decidable (Connects bytes boundary) :=
  inferInstanceAs (Decidable (_ ∧ _ ∧ _))

/-- The handshake is established exactly when the bytes say so, and what the tunnel
receives is exactly what follows the header block. -/
def FollowsBytes (chunks : List (List UInt8)) : Prop :=
  ∀ received, readTunnelHandshake chunks = .established received ↔
    ∃ boundary, Connects chunks.flatten boundary ∧ received = chunks.flatten.drop (boundary + 4)

/-- Some first chunks, together with what is buffered, contain the header block and are
no longer than the limit. -/
def HeaderComesAlone (buffer : List UInt8) (chunks : List (List UInt8)) (boundary : Nat) : Prop :=
  ∃ count, boundary + 4 ≤ (buffer ++ (chunks.take count).flatten).length ∧
    (buffer ++ (chunks.take count).flatten).length ≤ maximumTunnelHeaderBytes

section Chunks

variable {buffer chunk received : List UInt8} {chunks : List (List UInt8)}

theorem foldl_failed (message : String) : chunks.foldl onData (.failed message) = .failed message := by
  induction chunks with
  | nil => rfl
  | cons chunk rest ih => exact ih

theorem foldl_established :
    chunks.foldl onData (.established received) = .established (received ++ chunks.flatten) := by
  induction chunks generalizing received with
  | nil => simp
  | cons chunk rest ih => simp [onData, ih]

/-- The header block is not in the buffer, so that the next chunk is needed. -/
theorem headerComesAlone_cons {boundary : Nat} (incomplete : indexOf headerEnd buffer = none)
    (found : indexOf headerEnd (buffer ++ (chunk :: chunks).flatten) = some boundary) :
    HeaderComesAlone buffer (chunk :: chunks) boundary ↔ HeaderComesAlone (buffer ++ chunk) chunks boundary := by
  constructor
  · rintro ⟨count, lower, upper⟩
    cases count with
    | zero =>
        have inside : boundary + headerEnd.length ≤ buffer.length := by simpa [headerEnd] using lower
        rw [indexOf_of_append found inside] at incomplete
        cases incomplete
    | succ count => exact ⟨count, by simpa using lower, by simpa using upper⟩
  · rintro ⟨count, lower, upper⟩
    exact ⟨count + 1, by simpa using lower, by simpa using upper⟩

theorem HeaderComesAlone.fits {boundary : Nat} (alone : HeaderComesAlone buffer chunks boundary) :
    buffer.length ≤ maximumTunnelHeaderBytes := by
  obtain ⟨count, _, upper⟩ := alone
  rw [List.length_append] at upper
  omega

/-- A chunk that completes the header block decides the handshake, and what comes behind
the block is handed on with the chunks that follow. -/
theorem established_complete {chunk : List UInt8} {rest : List (List UInt8)} {boundary : Nat}
    (incomplete : indexOf headerEnd buffer = none)
    (small : ¬ maximumTunnelHeaderBytes < (buffer ++ chunk).length)
    (complete : indexOf headerEnd (buffer ++ chunk) = some boundary) :
    (chunk :: rest).foldl onData (.pending buffer) = .established received ↔
      ∃ boundary, indexOf headerEnd (buffer ++ (chunk :: rest).flatten) = some boundary ∧
        isConnected (statusLine ((buffer ++ (chunk :: rest).flatten).take boundary)) = true ∧
        HeaderComesAlone buffer (chunk :: rest) boundary ∧
        received = (buffer ++ (chunk :: rest).flatten).drop (boundary + 4) := by
  have whole : buffer ++ (chunk :: rest).flatten = (buffer ++ chunk) ++ rest.flatten := by simp
  have bound : boundary + 4 ≤ (buffer ++ chunk).length := indexOf_bound complete
  have found : indexOf headerEnd (buffer ++ (chunk :: rest).flatten) = some boundary := by
    rw [whole]
    exact indexOf_append complete
  have header : (buffer ++ (chunk :: rest).flatten).take boundary = (buffer ++ chunk).take boundary := by
    rw [whole, List.take_append_of_le_length (by omega)]
  have remainder : (buffer ++ (chunk :: rest).flatten).drop (boundary + 4) =
      (buffer ++ chunk).drop (boundary + 4) ++ rest.flatten := by
    rw [whole, List.drop_append_of_le_length bound]
  have alone : HeaderComesAlone buffer (chunk :: rest) boundary :=
    (headerComesAlone_cons incomplete found).mpr ⟨0, by simpa using bound, by simpa using small⟩
  rw [List.foldl_cons, onData, if_neg small, complete, found]
  simp only
  by_cases connected : isConnected (statusLine ((buffer ++ chunk).take boundary)) = true
  · rw [if_pos connected, foldl_established, Handshake.established.injEq]
    constructor
    · rintro rfl
      exact ⟨boundary, rfl, by rw [header]; exact connected, alone, remainder.symm⟩
    · rintro ⟨other, same, _, _, rfl⟩
      cases same
      exact remainder.symm
  · rw [if_neg connected, foldl_failed]
    constructor
    · intro established
      cases established
    · rintro ⟨other, same, accepted, _, _⟩
      cases same
      rw [header] at accepted
      exact absurd accepted connected

/-- What the rest of the chunks makes of an incomplete header block. -/
theorem established_iff (incomplete : indexOf headerEnd buffer = none) :
    chunks.foldl onData (.pending buffer) = .established received ↔
      ∃ boundary, indexOf headerEnd (buffer ++ chunks.flatten) = some boundary ∧
        isConnected (statusLine ((buffer ++ chunks.flatten).take boundary)) = true ∧
        HeaderComesAlone buffer chunks boundary ∧ received = (buffer ++ chunks.flatten).drop (boundary + 4) := by
  induction chunks generalizing buffer with
  | nil => simp [incomplete]
  | cons chunk rest ih =>
      have whole : buffer ++ (chunk :: rest).flatten = (buffer ++ chunk) ++ rest.flatten := by simp
      by_cases large : maximumTunnelHeaderBytes < (buffer ++ chunk).length
      · rw [List.foldl_cons, onData, if_pos large, foldl_failed]
        constructor
        · intro established
          cases established
        · rintro ⟨boundary, found, _, alone, _⟩
          have fits := ((headerComesAlone_cons incomplete found).mp alone).fits
          omega
      · cases complete : indexOf headerEnd (buffer ++ chunk) with
        | some boundary => exact established_complete incomplete large complete
        | none =>
            rw [List.foldl_cons, onData, if_neg large, complete]
            simp only
            rw [ih complete]
            constructor
            · rintro ⟨boundary, found, connected, alone, rest⟩
              rw [← whole] at found connected rest
              exact ⟨boundary, found, connected, (headerComesAlone_cons incomplete found).mpr alone, rest⟩
            · rintro ⟨boundary, found, connected, alone, rest⟩
              have alone := (headerComesAlone_cons incomplete found).mp alone
              rw [whole] at found connected rest
              exact ⟨boundary, found, connected, alone, rest⟩

/-- For every stream and every split of it: the outcome is that of the bytes exactly when
a header block that connects comes without so much payload that the limit is passed. -/
theorem followsBytes_iff (chunks : List (List UInt8)) :
    FollowsBytes chunks ↔ ∀ boundary, Connects chunks.flatten boundary → HeaderComesAlone [] chunks boundary := by
  have established (received : List UInt8) :
      readTunnelHandshake chunks = .established received ↔
        ∃ boundary, indexOf headerEnd chunks.flatten = some boundary ∧
          isConnected (statusLine (chunks.flatten.take boundary)) = true ∧
          HeaderComesAlone [] chunks boundary ∧ received = chunks.flatten.drop (boundary + 4) :=
    @established_iff [] received chunks rfl
  constructor
  · intro follows boundary connects
    obtain ⟨other, found, _, alone, _⟩ := (established _).mp ((follows _).mpr ⟨boundary, connects, rfl⟩)
    rw [connects.1] at found
    cases found
    exact alone
  · intro alone received
    rw [established]
    constructor
    · rintro ⟨boundary, found, connected, ⟨count, lower, upper⟩, rest⟩
      exact ⟨boundary, ⟨found, Nat.le_trans lower upper, connected⟩, rest⟩
    · rintro ⟨boundary, connects, rest⟩
      exact ⟨boundary, connects.1, connects.2.2, alone boundary connects, rest⟩

end Chunks

section Sample

def connected : List UInt8 := latin1 "HTTP/1.1 200 OK\x0d\x0a\x0d\x0a"

def firstPayload : List UInt8 := List.replicate 8192 0

/-- One read of the header block and the first bytes of the service is too large, while
the same bytes in two reads establish the tunnel. -/
theorem payload_fails_handshake :
    readTunnelHandshake [connected ++ firstPayload] =
        .failed "Worker TCP bridge response headers are too large" ∧
      readTunnelHandshake [connected, firstPayload] = .established firstPayload ∧
      ¬ FollowsBytes [connected ++ firstPayload] := by
  have size : connected.length = 19 := by decide
  have large : readTunnelHandshake [connected ++ firstPayload] =
      .failed "Worker TCP bridge response headers are too large" := by
    have long : maximumTunnelHeaderBytes < (connected ++ firstPayload).length := by
      rw [List.length_append, size, firstPayload, List.length_replicate]
      decide
    simp only [readTunnelHandshake, List.foldl_cons, List.foldl_nil, onData, List.nil_append, if_pos long]
  have first : onData (.pending []) connected = .established [] := by decide
  have second : readTunnelHandshake [connected, firstPayload] = .established firstPayload := by
    rw [readTunnelHandshake, List.foldl_cons, first, foldl_established]
    simp
  refine ⟨large, second, ?_⟩
  intro follows
  have connects : Connects [connected ++ firstPayload].flatten 15 := by
    have block : indexOf headerEnd connected = some 15 := by decide
    have line : isConnected (statusLine (connected.take 15)) = true := by decide
    rw [List.flatten_singleton]
    refine ⟨indexOf_append block, by decide, ?_⟩
    rw [List.take_append_of_le_length (by omega)]
    exact line
  have established := (follows _).mpr ⟨15, connects, rfl⟩
  rw [large] at established
  cases established

end Sample

end NebulaCloud.Ingress
