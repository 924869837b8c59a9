/-
  What the decoders and encoders of a deletion let through.

  A deletion is asked for with the packet of a start request under another message.  Its decoder writes the
  packet anew as a start request, has that decoded, and compares what the result is written as.

  1. **Errors** — `OwnDelete`, with the rules of `Own`.
  2. **The translation (`decodePacket_asStart`)** — the packet that is written anew is read as what it was
     written from, so that the fields of the request are those of the packet.
  3. **Results** — the round trips of a request; when a decoder raises something that is not its own.
-/
import T2TouchId.Packets.WorkerMessages

set_option linter.unusedSectionVars false

namespace T2TouchId.Packets.Worker

open T2TouchId.Python T2TouchId.Python.Json T2TouchId.Journal T2TouchId.User T2TouchId.User.Broker
open T2TouchId.Fprint (fingerNames)

/-! ## Errors -/

/-- A call that returns or raises the protocol's own error. -/
def OwnDelete {α : Type} (answer : Except DeletePacketError α) : Prop :=
  ∀ error, answer = .error error → error.IsOwn

section Own

variable {α β : Type}

theorem ownDelete_ok (a : α) : OwnDelete (.ok a : Except DeletePacketError α) := nofun

theorem asDelete_ok {message : String} {answer : Except PacketError α} {a : α} :
    asDelete message answer = .ok a ↔ answer = .ok a := mapError_ok

/-- The translation keeps what goes astray. -/
theorem ownDelete_asDelete {message : String} {answer : Except PacketError α} :
    OwnDelete (asDelete message answer) ↔ Own answer := by
  cases answer with
  | ok a => exact iff_of_true (ownDelete_ok a) (own_ok a)
  | error error =>
    cases error with
    | protocol text =>
      refine iff_of_true ?_ (own_protocol text)
      rintro _ ⟨⟩
      trivial
    | typeError => exact iff_of_false (fun h => h _ rfl) (fun h => h _ rfl)
    | valueError => exact iff_of_false (fun h => h _ rfl) (fun h => h _ rfl)

theorem ownDelete_raise {p : Prop} [Decidable p] {error : DeletePacketError} (herror : error.IsOwn)
    {f : Unit → Except DeletePacketError α} :
    OwnDelete (raiseIf p error >>= f) ↔ (¬ p → OwnDelete (f ())) := by
  unfold raiseIf
  by_cases hp : p
  · rw [if_pos hp]
    refine iff_of_true ?_ (fun hnot => absurd hp hnot)
    rintro _ ⟨⟩
    exact herror
  · rw [if_neg hp]
    exact ⟨fun h _ => h, fun h => h hp⟩

theorem ownDelete_refuse {p : Prop} [Decidable p] {message : String} {f : Unit → Except DeletePacketError α} :
    OwnDelete (raiseIf p (.protocol message) >>= f) ↔ (¬ p → OwnDelete (f ())) :=
  ownDelete_raise (show DeletePacketError.IsOwn (.protocol message) from trivial)

theorem ownDelete_bind {x : Except DeletePacketError α} {f : α → Except DeletePacketError β} :
    OwnDelete (x >>= f) ↔ OwnDelete x ∧ ∀ a, x = .ok a → OwnDelete (f a) := by
  cases x with
  | ok a =>
    refine ⟨fun h => ⟨ownDelete_ok a, ?_⟩, fun h => h.2 a rfl⟩
    rintro _ ⟨⟩
    exact h
  | error error =>
    refine ⟨fun h => ⟨?_, nofun⟩, fun h => ?_⟩
    · rintro _ ⟨⟩
      exact h _ rfl
    · rintro _ ⟨⟩
      exact h.1 _ rfl

end Own

section Messages

variable {φ : Type} [JsonFloat φ]

/-! ## The translation -/

/-- The packet under the message of a start request. -/
def asStart (value : Value φ) : Value φ := value.set "message" (.str (py "start"))

theorem startOf_asStart (value : Value φ) : startOf (asStart value) = startOf value := by
  have hget : ∀ name, name ≠ "message" → (asStart value).get name = value.get name :=
    fun name hne => Value.get_set_ne hne _ value
  simp only [startOf, hget "caller" (by decide), hget "account" (by decide), hget "session" (by decide),
    hget "finger_name" (by decide)]

theorem asStart_public (request : StartRequest φ) : asStart request.publicDelete = request.public := by
  simp only [asStart, StartRequest.publicDelete, StartRequest.public, StartRequest.publicAs, members, Value.set,
    List.map_cons, List.map_nil, Value.insertItem]
  -- the message stands behind three other names
  rw [if_neg (by decide), if_neg (by decide), if_neg (by decide), if_neg (by decide), if_neg (by decide),
    if_neg (by decide), if_pos trivial]

/-- **A packet that is written anew** is read as what it was written from. -/
theorem decodePacket_asStart {value : Value φ} {data packet : Bytes}
    (h : decodePacket φ workerKind data = .ok value) (hpacket : encodePacket workerKind (asStart value) = .ok packet) :
    decodePacket φ workerKind packet = .ok (asStart value) := by
  have hnative := isNative_of_decodePacket h
  have hdict := isDict_of_decodePacket h
  have hmessage : isNative (.str (py "start") : Value φ) = true := (by decide : noPairs (py "start") = true)
  cases value with
  | dict items =>
    exact decodePacket_encodePacket hpacket (isNative_insertItem hnative (by decide) hmessage) rfl
  | _ => exact nomatch hdict

/-! ## Requests -/

theorem encodeRequest_ok {request : StartRequest φ} {data : Bytes} : encodeRequest request = .ok data ↔
    StartValid request ∧ encodePacket workerKind request.publicDelete = .ok data := by
  rw [encodeRequest, asDelete_ok]
  constructor
  · intro h
    obtain ⟨⟨⟩, hvalid, hencode⟩ := bind_ok h
    exact ⟨validateRequest_ok.mp hvalid, hencode⟩
  · rintro ⟨hvalid, hencode⟩
    exact bind_eq_ok.mpr ⟨(), validateRequest_ok.mpr hvalid, hencode⟩

/-- The members of a request, in the order of the packet. -/
def StartRequest.membersAs (message : String) (request : StartRequest φ) : List (String × Value φ) :=
  [("account", publicAccount request.account), ("caller", request.caller.public),
   ("finger_name", request.fingerName), ("message", .str (py message)), ("schema_version", .int 1),
   ("session", publicSession request.session)]

/-- The message of a start request is the shorter one, so that it fits where a deletion fits. -/
theorem encodePacket_public {request : StartRequest φ} {data : Bytes}
    (h : encodePacket workerKind request.publicDelete = .ok data) :
    ∃ packet, encodePacket workerKind request.public = .ok packet := by
  obtain ⟨text, hfinite, hdumps, -, -, hhigh⟩ := encodePacket_ok.mp h
  have hmembers : ∀ item ∈ request.membersAs "delete-one", (dumps item.2).isSome = true := dumps_of_members hdumps
  have hstart : ∀ item ∈ request.membersAs "start", (dumps item.2).isSome = true := by
    simp only [StartRequest.membersAs, List.forall_mem_cons] at hmembers ⊢
    obtain ⟨haccount, hcaller, hfinger, -, hversion, hsession⟩ := hmembers
    exact ⟨haccount, hcaller, hfinger, rfl, hversion, hsession⟩
  obtain ⟨delete, hdelete, hlong⟩ := dumps_members_length (by simp [StartRequest.membersAs]) hmembers
  obtain ⟨start, hstart, hshort⟩ := dumps_members_length (by simp [StartRequest.membersAs]) hstart
  obtain rfl : delete = text := Option.some.inj (hdelete.symm.trans hdumps)
  have hname : memberLength ("message", (.str (py "start") : Value φ)) ≤
      memberLength ("message", (.str (py "delete-one") : Value φ)) := by
    show (dumpsStr (py "message")).length + (dumpsStr (py "start")).length + 2 ≤
      (dumpsStr (py "message")).length + (dumpsStr (py "delete-one")).length + 2
    decide
  simp only [StartRequest.membersAs, List.map_cons, List.map_nil, List.sum_cons, List.sum_nil] at hlong hshort
  refine ⟨_, encodePacket_ok.mpr ⟨start, ?_, hstart, rfl, ?_, ?_⟩⟩
  · exact hfinite
  · omega
  · omega

/-- **A request that was encoded** is decoded to what arrives of it. -/
theorem decodeRequest_encodeRequest {request : StartRequest φ} {data : Bytes}
    (h : encodeRequest request = .ok data) : decodeRequest φ data = .ok request.sent := by
  obtain ⟨hvalid, hencode⟩ := encodeRequest_ok.mp h
  obtain ⟨packet, hpacket⟩ := encodePacket_public hencode
  have hnative := isNative_start hvalid "delete-one" (by decide)
  have hget : ∀ name, request.publicDelete.get name = _ := fun name => get_members name _
  have hmessage : request.publicDelete.get "message" = .str (py "delete-one") := hget _
  have hstart : decodeStart φ packet = .ok request.sent :=
    decodeStart_encodeStart (encodeStart_ok.mpr ⟨hvalid, hpacket⟩)
  refine bind_eq_ok.mpr ⟨request.publicDelete,
    asDelete_ok.mpr (decodePacket_encodePacket hencode hnative rfl), ?_⟩
  rw [hmessage]
  refine raiseIf_ok.mpr ⟨not_not.mpr (isStr_iff.mpr rfl), ?_⟩
  have htranslated : encodePacket workerKind (asStart request.publicDelete) = .ok packet := by
    rw [asStart_public]
    exact hpacket
  refine bind_eq_ok.mpr ⟨request.sent, asDelete_ok.mpr (bind_eq_ok.mpr ⟨packet, htranslated, hstart⟩), ?_⟩
  refine raiseIf_ok.mpr ⟨not_not.mpr (hasKeys_members rfl), bind_eq_ok.mpr ⟨data, ?_, ?_⟩⟩
  · exact encodeRequest_ok.mpr ⟨startValid_sent.mpr hvalid, hencode⟩
  · exact raiseIf_ok.mpr ⟨not_not.mpr rfl, rfl⟩

/-- **A packet that was decoded** is encoded again. -/
theorem encodeRequest_decodeRequest {request : StartRequest φ} {data : Bytes}
    (h : decodeRequest φ data = .ok request) : encodeRequest request = .ok data := by
  obtain ⟨value, -, h⟩ := bind_ok h
  obtain ⟨-, h⟩ := raiseIf_ok.mp h
  obtain ⟨start, -, h⟩ := bind_ok h
  obtain ⟨-, h⟩ := raiseIf_ok.mp h
  obtain ⟨encoded, hencoded, h⟩ := bind_ok h
  obtain ⟨hsame, h⟩ := raiseIf_ok.mp h
  cases h
  exact hencoded.trans (congrArg Except.ok (not_not.mp hsame))

variable (φ) in
/-- The packet asks for a deletion, can be written anew, and the validator goes astray on its fields. -/
def DecodedRequestStrays (data : Bytes) : Prop :=
  ∃ value : Value φ, decodePacket φ workerKind data = .ok value ∧
    (value.get "message").isStr (py "delete-one") = true ∧
    (∃ packet, encodePacket workerKind (asStart value) = .ok packet) ∧
    startSchema (asStart value) = true ∧ StartStrays (startOf value)

theorem ownDelete_encodeRequest {request : StartRequest φ} (h : validateRequest request = .ok ()) :
    OwnDelete (encodeRequest request) := by
  rw [encodeRequest, h]
  exact ownDelete_asDelete.mpr own_encodePacket

/-- **The decoder of a request** raises its own error, but where the validator goes astray. -/
theorem own_decodeRequest {data : Bytes} (hjson : LoadsJson φ data) :
    OwnDelete (decodeRequest φ data) ↔ ¬ DecodedRequestStrays φ data := by
  rw [decodeRequest, ownDelete_bind, and_iff_right (ownDelete_asDelete.mpr (own_decodePacket hjson))]
  unfold DecodedRequestStrays
  rw [not_exists]
  refine forall_congr' fun value => ?_
  rw [not_and, asDelete_ok]
  refine forall_congr' fun hvalue => ?_
  rw [ownDelete_refuse, not_not, not_and]
  refine forall_congr' fun _ => ?_
  have hcall : Own (encodePacket workerKind (asStart value) >>= decodeStart φ) ↔
      ¬ ((∃ packet, encodePacket workerKind (asStart value) = .ok packet) ∧ startSchema (asStart value) = true ∧
        StartStrays (startOf value)) := by
    rw [own_bind, and_iff_right own_encodePacket, not_and, forall_exists_index]
    refine forall_congr' fun packet => forall_congr' fun hpacket => ?_
    have hread := decodePacket_asStart hvalue hpacket
    rw [own_decodeStart (loadsJson_of_decodePacket hread)]
    refine not_congr ⟨?_, fun h => ⟨asStart value, hread, h.1, ?_⟩⟩
    · rintro ⟨found, hfound, hschema, hstrays⟩
      obtain rfl : found = asStart value := Except.ok.inj (hfound.symm.trans hread)
      rw [startOf_asStart] at hstrays
      exact ⟨hschema, hstrays⟩
    · rw [startOf_asStart]
      exact h.2
  rw [← hcall, ← ownDelete_asDelete, ownDelete_bind]
  refine and_iff_left fun start hstart => ?_
  obtain ⟨packet, -, hstart⟩ := bind_ok (asDelete_ok.mp hstart)
  obtain ⟨-, -, -, hencode⟩ := decodeStart_ok hstart
  have hvalid := validateRequest_ok.mpr (encodeStart_ok.mp hencode).1
  refine ownDelete_refuse.mpr fun _ => ?_
  exact ownDelete_bind.mpr ⟨ownDelete_encodeRequest hvalid,
    fun encoded _ => ownDelete_refuse.mpr fun _ => ownDelete_ok _⟩

/-! ## Completions -/

variable (φ) in
/-- The packet is a completion whose finger has no hash. -/
def DecodedCompletionStrays (data : Bytes) : Prop :=
  data ≠ failurePacket ∧ ∃ value : Value φ, decodePacket φ workerKind data = .ok value ∧
    completionSchema value = true ∧ isHashable (value.get "finger_name") = false

theorem own_checkCompletion {completion : DeletionCompletion φ} :
    Own (checkCompletion completion) ↔ isHashable completion.fingerName = true := by
  rw [checkCompletion, own_stray_last (own_refuse.mpr fun _ => own_refuse.mpr fun _ => own_refuse_last), not_not]

/-- **The decoder of a completion** raises its own errors, but on a finger that has no hash. -/
theorem own_decodeCompletion {data : Bytes} (hjson : LoadsJson φ data) :
    OwnDelete (decodeCompletion φ data) ↔ ¬ DecodedCompletionStrays φ data := by
  rw [decodeCompletion, ownDelete_raise (show DeletePacketError.IsOwn (.failed _) from trivial)]
  unfold DecodedCompletionStrays
  rw [not_and]
  refine forall_congr' fun _ => ?_
  rw [ownDelete_bind, and_iff_right (ownDelete_asDelete.mpr (own_decodePacket hjson)), not_exists]
  refine forall_congr' fun value => ?_
  rw [not_and, not_and, asDelete_ok, Bool.not_eq_false]
  refine forall_congr' fun _ => ?_
  rw [ownDelete_refuse, not_not]
  refine forall_congr' fun _ => ?_
  rw [ownDelete_bind, ownDelete_asDelete, own_checkCompletion]
  refine and_iff_left fun _ _ => ownDelete_bind.mpr ⟨?_, ?_⟩
  · exact ownDelete_asDelete.mpr own_encodePacket
  · exact fun encoded _ => ownDelete_refuse.mpr fun _ => ownDelete_ok _

end Messages

end T2TouchId.Packets.Worker
