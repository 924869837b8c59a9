/-
  The decoders of the local protocols, side by side.

  1. **Errors (`decoders_own`)** — a decoder returns or raises its own error, but where it hashes, or matches
     a pattern against, what may be a list or an object.
  2. **Round trips (`packets_lossless`)** — encoding and decoding undo each other, but for the real UID of a
     setuid caller.
-/
import T2TouchId.Packets.BrokerMessages
import T2TouchId.Packets.DeleteMessages

namespace T2TouchId.Packets

open T2TouchId.Python T2TouchId.Python.Json T2TouchId.Journal T2TouchId.User T2TouchId.User.Broker

/-! ## Errors -/

/-- **Each decoder raises its own error only**, if and only if the packet is none on which it goes astray. -/
theorem decoders_own {φ : Type} [JsonFloat φ] {data : Bytes} (hjson : LoadsJson φ data) :
    (Own (Broker.decodeRequest φ data) ↔ ¬ Broker.RequestStrays φ data) ∧
    (Own (Broker.decodeResponse φ data) ↔ ¬ Broker.DecodedResponseStrays φ data) ∧
    (Own (Worker.decodeStart φ data) ↔ ¬ Worker.DecodedStartStrays φ data) ∧
    (Own (Worker.decodeUpdate φ data) ↔ ¬ Worker.DecodedUpdateStrays φ data) ∧
    (Worker.OwnDelete (Worker.decodeRequest φ data) ↔ ¬ Worker.DecodedRequestStrays φ data) ∧
    (Worker.OwnDelete (Worker.decodeCompletion φ data) ↔ ¬ Worker.DecodedCompletionStrays φ data) :=
  ⟨Broker.own_decodeRequest hjson, Broker.own_decodeResponse hjson, Worker.own_decodeStart hjson,
    Worker.own_decodeUpdate hjson, Worker.own_decodeRequest hjson, Worker.own_decodeCompletion hjson⟩

/-- A request whose command is a list, and its packet. -/
def listRequest : Value Unit :=
  members [("command", .list []), ("operation", .str (py "verify")), ("schema_version", .int 1)]

def listPacket : Bytes :=
  asciiBytes (py "\x7b\"command\":[],\"operation\":\"verify\",\"schema_version\":1\x7d")

theorem decodePacket_listPacket : decodePacket Unit Broker.requestKind listPacket = .ok listRequest := by
  have hencode : encodePacket Broker.requestKind listRequest = .ok listPacket := by decide +kernel
  exact decodePacket_encodePacket hencode (by decide) rfl

/-- The decoder hashes the command. -/
theorem decoders_own_fails :
    LoadsJson Unit listPacket ∧ Broker.decodeRequest Unit listPacket = .error .typeError := by
  refine ⟨loadsJson_of_decodePacket decodePacket_listPacket, ?_⟩
  rw [Broker.decodeRequest, decodePacket_listPacket]
  rfl

/-- The rule, of this packet. -/
theorem decoders_own_listPacket :
    Broker.RequestStrays Unit listPacket ∧ ¬ Own (Broker.decodeRequest Unit listPacket) := by
  have hrule := (decoders_own (loadsJson_of_decodePacket decodePacket_listPacket)).1
  have hstrays : Broker.RequestStrays Unit listPacket :=
    ⟨listRequest, decodePacket_listPacket, ⟨by decide, by decide⟩, rfl⟩
  exact ⟨hstrays, fun hown => hrule.mp hown hstrays⟩

/-! ## Round trips -/

/-- **Encoding and decoding undo each other.**  A start request and a deletion come back as they were if
    and only if the caller has no real UID besides his own. -/
theorem packets_lossless {φ : Type} [JsonFloat φ] :
    (∀ (request : Broker.BrokerRequest φ) (data : Bytes), Broker.encodeRequest request = .ok data →
      Broker.decodeRequest φ data = .ok request) ∧
    (∀ (response : Broker.Response φ) (data : Bytes), Broker.encodeResponse response = .ok data →
      Broker.decodeResponse φ data = .ok response) ∧
    (∀ (request : Worker.StartRequest φ) (data : Bytes), Worker.encodeStart request = .ok data →
      (Worker.decodeStart φ data = .ok request ↔ request.caller.setuidRealUid = .none)) ∧
    (∀ (update : Worker.EnrollmentUpdate φ) (data : Bytes), Worker.encodeUpdate update = .ok data →
      Worker.decodeUpdate φ data = .ok update) ∧
    (∀ (request : Worker.StartRequest φ) (data : Bytes), Worker.encodeRequest request = .ok data →
      (Worker.decodeRequest φ data = .ok request ↔ request.caller.setuidRealUid = .none)) ∧
    (∀ (data : Bytes) (request : Broker.BrokerRequest φ), Broker.decodeRequest φ data = .ok request →
      Broker.encodeRequest request = .ok data) ∧
    (∀ (data : Bytes) (response : Broker.Response φ), Broker.decodeResponse φ data = .ok response →
      Broker.encodeResponse response = .ok data) ∧
    (∀ (data : Bytes) (request : Worker.StartRequest φ), Worker.decodeStart φ data = .ok request →
      Worker.encodeStart request = .ok data) ∧
    (∀ (data : Bytes) (update : Worker.EnrollmentUpdate φ), Worker.decodeUpdate φ data = .ok update →
      Worker.encodeUpdate update = .ok data) ∧
    (∀ (data : Bytes) (request : Worker.StartRequest φ), Worker.decodeRequest φ data = .ok request →
      Worker.encodeRequest request = .ok data) := by
  have hsent : ∀ request : Worker.StartRequest φ, request.sent = request ↔ request.caller.setuidRealUid = .none := by
    intro request
    constructor
    · intro h
      exact (congrArg (fun request => request.caller.setuidRealUid) h).symm
    · obtain ⟨finger, ⟨pid, uid, ticks, real⟩, account, session⟩ := request
      rintro rfl
      rfl
  refine ⟨?_, ?_, ?_, ?_, ?_, ?_, ?_, ?_, ?_, ?_⟩
  · exact fun _ _ h => Broker.decodeRequest_encodeRequest h
  · exact fun _ _ h => Broker.decodeResponse_encodeResponse h
  · intro request data h
    rw [Worker.decodeStart_encodeStart h, Except.ok.injEq]
    exact hsent request
  · exact fun _ _ h => Worker.decodeUpdate_encodeUpdate h
  · intro request data h
    rw [Worker.decodeRequest_encodeRequest h, Except.ok.injEq]
    exact hsent request
  · exact fun _ _ h => Broker.encodeRequest_decodeRequest h
  · exact fun _ _ h => Broker.encodeResponse_decodeResponse h
  · exact fun _ _ h => Worker.encodeStart_decodeStart h
  · exact fun _ _ h => Worker.encodeUpdate_decodeUpdate h
  · exact fun _ _ h => Worker.encodeRequest_decodeRequest h

/-- A request of a caller with this real UID. -/
def startBy (setuidRealUid : Value Unit) : Worker.StartRequest Unit where
  fingerName := .str (py "right-index-finger")
  caller := { pid := .int 4242, uid := .int 1000, startTimeTicks := .int 77, setuidRealUid }
  account :=
    { linuxUid := .int 1000
      generation := .str (List.replicate 64 0x61)
      source := .str (py "local-files-v2")
      protectedPasswordRecord := .bool true
      homeObjectBound := .bool true }
  session :=
    { binding := .str (py "pidfd-session")
      sessionId := .str (py "3")
      sessionType := .str (py "wayland")
      sessionClass := .str (py "user")
      seatAttached := .bool true
      sessionStartTimeUsec := .int 5
      activeLocalSession := .bool true }

/-- Its packet. -/
def startPacket : Bytes := ((encodePacket Worker.workerKind (startBy .none).public).toOption).getD []

theorem encodeStart_startBy (setuidRealUid : Value Unit) :
    Worker.encodeStart (startBy setuidRealUid) = .ok startPacket := by
  have hpacket : encodePacket Worker.workerKind (startBy .none).public = .ok startPacket := by decide +kernel
  have hvalid : Worker.validateRequest (startBy .none) = .ok () := by decide +kernel
  exact Worker.encodeStart_ok.mpr
    ⟨Worker.startValid_sent.mp (Worker.validateRequest_ok.mp hvalid), hpacket⟩

/-- The real UID of this caller is lost. -/
theorem packets_lossless_fails : Worker.encodeStart (startBy (.int 1000)) = .ok startPacket ∧
    Worker.decodeStart Unit startPacket ≠ .ok (startBy (.int 1000)) := by
  have hencode := encodeStart_startBy (.int 1000)
  refine ⟨hencode, ?_⟩
  rw [Worker.decodeStart_encodeStart hencode]
  intro h
  exact nomatch congrArg (fun request => request.caller.setuidRealUid) (Except.ok.inj h)

/-- A request of an ordinary caller comes back. -/
theorem packets_lossless_startBy : Worker.decodeStart Unit startPacket = .ok (startBy .none) :=
  (packets_lossless.2.2.1 (startBy .none) startPacket (encodeStart_startBy .none)).mpr rfl

end T2TouchId.Packets
