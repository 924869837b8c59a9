/-
  The wire of the Bridge: frames over a stream of bytes (`src/t2_bridge_wire.py`).

  The peer's bytes come in pieces, cut wherever `recv` likes.  `plistlib` and `json` are parameters: what they make of
  a body is theirs.

  1. **Data** — `Socket`: what the peer will still send, and what was sent to it.
  2. **Reading** — `receiveExact` puts pieces together, `receiveFrame` and `receiveEnvelope` take frames apart.
  3. **A request** — `requestWithEvents`: service callbacks are acknowledged until the reply comes.
-/
import T2TouchId.Bridge.Lease
import T2TouchId.Pieces
import T2TouchId.Raising

namespace T2TouchId.Bridge.Wire

open T2TouchId.Python T2TouchId.User
open T2TouchId.Bytes (slice)

/-! ## Data -/

/-- A connection, until the peer closes its side.  How often `recv` was called tells which piece comes next. -/
structure Socket where
  stream : Bytes
  calls : Nat
  sent : List Bytes

/-- What is not in this file: `plistlib.dumps`, `plistlib.loads` and `json.loads`. -/
structure Codec where
  dumps : Object → Bytes
  loads : Bytes → Except Raised Object
  json : Bytes → Except Raised Object

/-- Code that reads and writes; what was done before an exception stays done. -/
abbrev OnSocket (α : Type) : Type := EStateM Raised Socket α

def magic : Nat := 0xB892
def protocolVersion : Nat := 1
def typeHelo : Nat := 1
def typeMessage : Nat := 2
def headerSize : Nat := 16
def maxFrameBody : Nat := 16 * 1024 * 1024

/-- `HEADER.pack(…) + body`. -/
def frame (frameType : Nat) (body : Bytes) : Bytes :=
  Bytes.le 2 magic ++ Bytes.le 2 protocolVersion ++ Bytes.le 4 frameType ++ Bytes.le 8 body.length ++ body

/-! ## Reading -/

/-- `sock.recv(length)`: at least a byte and at most `length` of them, as many as `cuts` says for this call; nothing
    behind the end of the stream. -/
def recv (cuts : Nat → Nat) (length : Nat) : OnSocket Bytes := fun sock =>
  let size := min length (max 1 (cuts sock.calls))
  .ok (sock.stream.take size) { sock with stream := sock.stream.drop size, calls := sock.calls + 1 }

/-- `EOFError`. -/
def closedAfter (received length : Nat) : Raised := .own s!"peer closed after {received}/{length} bytes"

/-- The loop of `receive_exact`, behind these bytes. -/
def receiveMore (cuts : Nat → Nat) (length : Nat) (chunks : Bytes) : OnSocket Bytes := fun sock =>
  if chunks.length < length then
    match recv cuts (length - chunks.length) sock with
    | .ok [] sock => .error (closedAfter chunks.length length) sock
    | .ok (byte :: chunk) sock => receiveMore cuts length (chunks ++ byte :: chunk) sock
    | .error error sock => .error error sock
  else .ok chunks sock
termination_by length - chunks.length
decreasing_by
  rw [List.length_append, List.length_cons]
  omega

/-- `receive_exact`. -/
def receiveExact (cuts : Nat → Nat) (length : Nat) : OnSocket Bytes := receiveMore cuts length []

def liftExcept {α : Type} : Except Raised α → OnSocket α
  | .ok a => pure a
  | .error error => throw error

/-- What is asked of a header. -/
def checkHeader (header : Bytes) : Except Raised Unit := do
  let magicFound := Bytes.leNat (slice header 0 2)
  let version := Bytes.leNat (slice header 2 2)
  let bodyLength := Bytes.leNat (slice header 8 8)
  raiseIf (magicFound ≠ magic) (.own ("invalid BridgeXPC magic 0x" ++ Bytes.hex (Bytes.be 2 magicFound)))
  raiseIf (version ≠ protocolVersion) (.own s!"unsupported BridgeXPC protocol version {version}")
  raiseIf (bodyLength > maxFrameBody) (.own s!"refusing implausible {bodyLength}-byte frame")

/-- `receive_frame`. -/
def receiveFrame (cuts : Nat → Nat) : OnSocket (Nat × Bytes) := do
  let header ← receiveExact cuts headerSize
  liftExcept (checkHeader header)
  let body ← receiveExact cuts (Bytes.leNat (slice header 8 8))
  return (Bytes.leNat (slice header 4 4), body)

/-- `describe`; what it makes of a frame of an unknown type is a dictionary, which nobody reads. -/
def describe (codec : Codec) (frameType : Nat) (body : Bytes) : Except Raised Object :=
  if frameType = typeHelo then codec.json body
  else if frameType = typeMessage then codec.loads body
  else .ok (.other fun _ => .ok true)

/-- A list of four objects. -/
structure Envelope where
  version : Object
  isReply : Object
  id : Object
  payload : Object

/-- The checks of `receive_envelope`. -/
def envelopeOf (frameType : Nat) (envelope : Object) : Except Raised Envelope := do
  raiseIf (frameType ≠ typeMessage) (.own s!"expected message frame, received type {frameType}")
  match envelope with
  | .list [version, isReply, id, payload] => .ok ⟨version, isReply, id, payload⟩
  | _ => .error (.own "malformed BiometricKit bridge envelope")

/-- `receive_envelope`. -/
def receiveEnvelope (codec : Codec) (cuts : Nat → Nat) : OnSocket Envelope := do
  let (frameType, body) ← receiveFrame cuts
  let envelope ← liftExcept (describe codec frameType body)
  liftExcept (envelopeOf frameType envelope)

/-! ## A request -/

/-- `send_message`; it succeeds. -/
def sendMessage (codec : Codec) (value : Object) : OnSocket Unit := fun sock =>
  .ok () { sock with sent := sock.sent ++ [frame typeMessage (codec.dumps value)] }

/-- What an envelope brings. -/
inductive Item
  | reply (payload : Object)
  | callback (id : PyStr) (payload : Object)

/-- `value != text`. -/
def Object.neStr (text : PyStr) : Object → Bool
  | .str value => value ≠ text
  | _ => true

/-- The checks of a round of `request_with_events`. -/
def itemOf (replyId : PyStr) (envelope : Envelope) : Except Raised Item := do
  let unsupported ← envelope.version.ne 1
  raiseIf (unsupported = true) (.own "unsupported BiometricKit envelope version")
  match envelope.isReply, envelope.id with
  | .bool true, id => do
    raiseIf (Object.neStr replyId id = true) (.own "reply envelope does not match request")
    return .reply envelope.payload
  | .bool false, .str id => .ok (.callback id envelope.payload)
  | _, _ => .error (.own "malformed BiometricKit service callback")

def acknowledgement (id : PyStr) : Object := .list [.int 1, .bool true, .str id, .list [.int 0]]

def requestOf (replyId : PyStr) (payload : Object) : Object := .list [.int 1, .bool false, .str replyId, payload]

/-- The reading half of a round. -/
def receiveItem (codec : Codec) (cuts : Nat → Nat) (replyId : PyStr) : OnSocket Item := do
  let envelope ← receiveEnvelope codec cuts
  liftExcept (itemOf replyId envelope)

theorem bind_ok {α β : Type} {p : OnSocket α} {f : α → OnSocket β} {b : β} {sock last : Socket}
    (h : (p >>= f) sock = .ok b last) : ∃ a next, p sock = .ok a next ∧ f a next = .ok b last := by
  change EStateM.bind p f sock = _ at h
  unfold EStateM.bind at h
  cases hp : p sock with
  | ok a next =>
    rw [hp] at h
    exact ⟨a, next, rfl, h⟩
  | error error next =>
    rw [hp] at h
    exact nomatch h

theorem bind_of_ok {α β : Type} {p : OnSocket α} {f : α → OnSocket β} {a : α} {sock next : Socket}
    (h : p sock = .ok a next) : (p >>= f) sock = f a next := by
  show EStateM.bind p f sock = _
  rw [EStateM.bind, h]

theorem liftExcept_ok {α : Type} {result : Except Raised α} {a : α} {sock next : Socket}
    (h : liftExcept result sock = .ok a next) : result = .ok a ∧ next = sock := by
  cases result with
  | ok value =>
    obtain ⟨rfl, rfl⟩ := EStateM.Result.ok.inj h
    exact ⟨rfl, rfl⟩
  | error error => exact nomatch h

/-- A piece is not empty, and not longer than what was asked for. -/
theorem recv_piece (cuts : Nat → Nat) {length : Nat} (h : 0 < length) (sock : Socket) :
    ∃ size, 0 < size ∧ size ≤ length ∧ recv cuts length sock =
      .ok (sock.stream.take size) ⟨sock.stream.drop size, sock.calls + 1, sock.sent⟩ := by
  refine ⟨min length (max 1 (cuts sock.calls)), ?_, ?_, rfl⟩
  · omega
  · omega

/-- **Pieces are put together**: it does not matter how the stream was cut. -/
theorem receiveMore_eq (cuts : Nat → Nat) (length : Nat) (chunks : Bytes) (sock : Socket) :
    ∃ calls, receiveMore cuts length chunks sock =
      if length ≤ chunks.length + sock.stream.length then
        .ok (chunks ++ sock.stream.take (length - chunks.length))
          ⟨sock.stream.drop (length - chunks.length), calls, sock.sent⟩
      else .error (closedAfter (chunks.length + sock.stream.length) length) ⟨[], calls, sock.sent⟩ := by
  -- by what is missing
  induction hmissing : length - chunks.length using Nat.strongRecOn generalizing chunks sock with
  | ind missing ih =>
    subst hmissing
    rw [receiveMore]
    by_cases hmore : chunks.length < length
    · rw [if_pos hmore]
      obtain ⟨size, hpos, hsize, hrecv⟩ := recv_piece cuts (Nat.sub_pos_of_lt hmore) sock
      have hlength : (sock.stream.take size).length = min size sock.stream.length := List.length_take
      rw [hrecv]
      cases hpiece : sock.stream.take size with
      | nil =>
        -- the end of the stream
        rw [hpiece, List.length_nil] at hlength
        have hempty : sock.stream = [] := by
          rw [← List.length_eq_zero_iff]
          omega
        refine ⟨sock.calls + 1, ?_⟩
        rw [hempty, List.length_nil, if_neg (by omega), List.drop_nil]
        rfl
      | cons byte chunk =>
        rw [hpiece, List.length_cons] at hlength
        have hgrown : (chunks ++ byte :: chunk).length = chunks.length + (chunk.length + 1) := by
          rw [List.length_append, List.length_cons]
        have hdrop : (sock.stream.drop size).length = sock.stream.length - size := List.length_drop
        obtain ⟨calls, hrest⟩ := ih (length - (chunks ++ byte :: chunk).length) (by omega) (chunks ++ byte :: chunk)
          ⟨sock.stream.drop size, sock.calls + 1, sock.sent⟩ rfl
        refine ⟨calls, hrest.trans ?_⟩
        dsimp only
        rw [hgrown, hdrop]
        by_cases hall : length ≤ chunks.length + sock.stream.length
        · have hwhole : length - chunks.length = size + (length - (chunks.length + (chunk.length + 1))) := by omega
          rw [if_pos (by omega), if_pos hall, hwhole, List.take_add, hpiece, List.drop_drop, List.append_assoc]
        · have hsame : chunks.length + (chunk.length + 1) + (sock.stream.length - size) =
              chunks.length + sock.stream.length := by omega
          rw [if_neg (by omega), if_neg hall, hsame]
    · refine ⟨sock.calls, ?_⟩
      rw [if_neg hmore, Nat.sub_eq_zero_of_le (by omega), if_pos (by omega), List.take_zero, List.append_nil,
        List.drop_zero]

theorem receiveExact_eq (cuts : Nat → Nat) (length : Nat) (sock : Socket) :
    ∃ calls, receiveExact cuts length sock =
      if length ≤ sock.stream.length then
        .ok (sock.stream.take length) ⟨sock.stream.drop length, calls, sock.sent⟩
      else .error (closedAfter sock.stream.length length) ⟨[], calls, sock.sent⟩ := by
  obtain ⟨calls, h⟩ := receiveMore_eq cuts length [] sock
  rw [List.length_nil, Nat.zero_add, Nat.sub_zero, List.nil_append] at h
  exact ⟨calls, h⟩

theorem receiveExact_ok {cuts : Nat → Nat} {length : Nat} {data : Bytes} {sock next : Socket}
    (h : receiveExact cuts length sock = .ok data next) :
    sock.stream = data ++ next.stream ∧ data.length = length ∧ next.sent = sock.sent := by
  obtain ⟨calls, hexact⟩ := receiveExact_eq cuts length sock
  rw [hexact] at h
  split at h
  · rename_i hlength
    obtain ⟨rfl, rfl⟩ := EStateM.Result.ok.inj h
    exact ⟨(List.take_append_drop length sock.stream).symm, List.length_take_of_le hlength, rfl⟩
  · exact nomatch h

theorem receiveExact_append (cuts : Nat → Nat) {sock : Socket} {data rest : Bytes}
    (h : sock.stream = data ++ rest) :
    ∃ calls, receiveExact cuts data.length sock = .ok data ⟨rest, calls, sock.sent⟩ := by
  obtain ⟨calls, hexact⟩ := receiveExact_eq cuts data.length sock
  rw [h, List.length_append, if_pos (Nat.le_add_right ..), List.take_left, List.drop_left] at hexact
  exact ⟨calls, hexact⟩

theorem checkHeader_ok {header : Bytes} :
    checkHeader header = .ok () ↔ Bytes.leNat (slice header 0 2) = magic ∧
      Bytes.leNat (slice header 2 2) = protocolVersion ∧ Bytes.leNat (slice header 8 8) ≤ maxFrameBody := by
  unfold checkHeader
  rw [raiseIf_ok, raiseIf_ok, raiseIf_ok_last, not_not, not_not, not_lt]

/-- A header that passes the checks is packed from its type and its length. -/
theorem header_packed {header : Bytes} (hlength : header.length = headerSize) (h : checkHeader header = .ok ()) :
    header = Bytes.le 2 magic ++ Bytes.le 2 protocolVersion ++ Bytes.le 4 (Bytes.leNat (slice header 4 4)) ++
      Bytes.le 8 (Bytes.leNat (slice header 8 8)) := by
  obtain ⟨hmagic, hversion, -⟩ := checkHeader_ok.mp h
  have hsize : header.length = 16 := hlength
  have hwhole : header = slice header 0 2 ++ slice header 2 2 ++ slice header 4 4 ++ slice header 8 8 := by
    rw [← Bytes.slice_add header 0 2 2, ← Bytes.slice_add header 0 4 4, ← Bytes.slice_add header 0 8 8, slice,
      List.drop_zero, List.take_of_length_le (by omega)]
  have hfour : slice header 4 4 = Bytes.le 4 (Bytes.leNat (slice header 4 4)) := Bytes.slice_eq_le (by omega) rfl
  have height : slice header 8 8 = Bytes.le 8 (Bytes.leNat (slice header 8 8)) := Bytes.slice_eq_le (by omega) rfl
  rw [← Bytes.slice_eq_le (by omega) hmagic, ← Bytes.slice_eq_le (by omega) hversion, ← hfour, ← height]
  exact hwhole

/-- What is received as a frame was one at the front of the stream. -/
theorem receiveFrame_ok {cuts : Nat → Nat} {frameType : Nat} {body : Bytes} {sock next : Socket}
    (h : receiveFrame cuts sock = .ok (frameType, body) next) :
    sock.stream = frame frameType body ++ next.stream ∧ body.length ≤ maxFrameBody ∧ next.sent = sock.sent := by
  obtain ⟨header, behind, hheader, h⟩ := bind_ok h
  obtain ⟨checked, between, hcheck, hread⟩ := bind_ok h
  obtain ⟨hchecked, rfl⟩ := liftExcept_ok hcheck
  obtain ⟨read, last, hbody, hread⟩ := bind_ok hread
  obtain ⟨hpair, rfl⟩ := EStateM.Result.ok.inj hread
  obtain ⟨rfl, rfl⟩ := Prod.mk.inj hpair
  obtain ⟨hfront, hsize, hsent⟩ := receiveExact_ok hheader
  obtain ⟨hrest, hlength, hsentBody⟩ := receiveExact_ok hbody
  refine ⟨?_, hlength ▸ (checkHeader_ok.mp hchecked).2.2, hsentBody.trans hsent⟩
  rw [hfront, hrest, frame, hlength, ← header_packed hsize hchecked, List.append_assoc]

theorem length_frame (frameType : Nat) (body : Bytes) : (frame frameType body).length = headerSize + body.length := by
  simp only [frame, List.length_append, Bytes.length_le]
  rfl

theorem envelopeOf_ok {frameType : Nat} {described : Object} {envelope : Envelope} :
    envelopeOf frameType described = .ok envelope ↔ frameType = typeMessage ∧
      described = .list [envelope.version, envelope.isReply, envelope.id, envelope.payload] := by
  unfold envelopeOf
  rw [raiseIf_ok, not_not]
  refine and_congr_right fun _ => ?_
  constructor
  · intro h
    split at h
    · rw [← Except.ok.inj h]
    · exact nomatch h
  · rintro rfl
    rfl

/-- An envelope came as a message at the front of the stream. -/
theorem receiveEnvelope_ok {codec : Codec} {cuts : Nat → Nat} {envelope : Envelope} {sock next : Socket}
    (h : receiveEnvelope codec cuts sock = .ok envelope next) :
    ∃ body, sock.stream = frame typeMessage body ++ next.stream ∧ body.length ≤ maxFrameBody ∧
      next.sent = sock.sent ∧
      codec.loads body = .ok (.list [envelope.version, envelope.isReply, envelope.id, envelope.payload]) := by
  obtain ⟨⟨frameType, body⟩, behind, hframe, h⟩ := bind_ok h
  obtain ⟨described, between, hdescribed, hchecked⟩ := bind_ok h
  obtain ⟨hdescribe, rfl⟩ := liftExcept_ok hdescribed
  obtain ⟨henvelope, rfl⟩ := liftExcept_ok hchecked
  obtain ⟨hstream, hsize, hsent⟩ := receiveFrame_ok hframe
  obtain ⟨rfl, rfl⟩ := envelopeOf_ok.mp henvelope
  refine ⟨body, hstream, hsize, hsent, ?_⟩
  rwa [describe, if_neg (by decide), if_pos rfl] at hdescribe

/-- Something is consumed in each round. -/
theorem receiveItem_shorter {codec : Codec} {cuts : Nat → Nat} {replyId : PyStr} {item : Item} {sock next : Socket}
    (h : receiveItem codec cuts replyId sock = .ok item next) : next.stream.length < sock.stream.length := by
  obtain ⟨envelope, behind, henvelope, h⟩ := bind_ok h
  obtain ⟨-, rfl⟩ := liftExcept_ok h
  obtain ⟨body, hstream, -⟩ := receiveEnvelope_ok henvelope
  have hheader : headerSize = 16 := rfl
  rw [hstream, List.length_append, length_frame]
  omega

/-- The loop of `request_with_events`, behind these events. -/
def awaitReply (codec : Codec) (cuts : Nat → Nat) (replyId : PyStr) (events : List Object) :
    OnSocket (Object × List Object) := fun sock =>
  match _hitem : receiveItem codec cuts replyId sock with
  | .error error next => .error error next
  | .ok (.reply payload) next => .ok (payload, events) next
  | .ok (.callback id payload) next =>
    match _hsent : sendMessage codec (acknowledgement id) next with
    | .error error last => .error error last
    | .ok _ last => awaitReply codec cuts replyId (events ++ [payload]) last
termination_by sock => sock.stream.length
decreasing_by
  have hshorter := receiveItem_shorter _hitem
  rw [← (EStateM.Result.ok.inj _hsent).2]
  exact hshorter

/-- `request_with_events`; `replyId` is `str(uuid.uuid4()).upper()`. -/
def requestWithEvents (codec : Codec) (cuts : Nat → Nat) (replyId : PyStr) (payload : Object) :
    OnSocket (Object × List Object) := do
  sendMessage codec (requestOf replyId payload)
  awaitReply codec cuts replyId []

end T2TouchId.Bridge.Wire
