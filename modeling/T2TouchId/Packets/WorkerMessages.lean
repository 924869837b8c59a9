/-
  What the decoders and encoders of the fprint workers let through.

  1. **Requests** — `StartValid`: what a request that passes the validator is; `StartStrays`: the places where
     the validator raises something else, in the order of its tests.
  2. **The crux (`startOf_public`)** — a request is rebuilt from its public form, but for the real UID of a
     setuid caller, which the public form does not have.
  3. **Results** — for each message: what was encoded is decoded, what was decoded is encoded again, and
     when a decoder raises something that is not its own.
-/
import T2TouchId.Packets.Worker
import T2TouchId.User.Authority

set_option linter.unusedSectionVars false

namespace T2TouchId.Packets.Worker

open T2TouchId.Python T2TouchId.Python.Json T2TouchId.Journal T2TouchId.User T2TouchId.User.Broker
open T2TouchId.Fprint (fingerNames)

section Messages

variable {φ : Type} [JsonFloat φ]

/-! ## Requests -/

/-- What the tests of a request say. -/
structure StartValid (request : StartRequest φ) : Prop where
  account : accountInvalid request.account request.caller.uid = false
  process : processInvalid request.caller = false
  finger : fingerInvalid request = false
  binding : isOneOf sessionBindings request.session.binding = true
  sessionId : ∃ text, request.session.sessionId = .str text ∧ isSessionId text = true
  sessionType : isOneOf allowedSessionTypes request.session.sessionType = true
  session : sessionInvalid request.session = false

theorem fingerName_of_valid {request : StartRequest φ} (h : fingerInvalid request = false) :
    isOneOf fingerNames request.fingerName = true := by
  simp only [fingerInvalid, Bool.or_eq_false_iff, Bool.not_eq_false'] at h
  exact h.1.1.1.1

theorem sessionClass_of_valid {session : SessionEvidence φ} (h : sessionInvalid session = false) :
    isOneOf allowedSessionClasses session.sessionClass = true := by
  simp only [sessionInvalid, Bool.or_eq_false_iff, Bool.not_eq_false'] at h
  exact h.1.1.1.1

theorem validateRequest_ok {request : StartRequest φ} : validateRequest request = .ok () ↔ StartValid request := by
  unfold validateRequest
  dsimp only
  rw [raiseIf_ok, raiseIf_ok, raiseIf_ok, raiseIf_ok, raiseIf_ok, raiseIf_ok, raiseIf_ok, raiseIf_ok, raiseIf_ok,
    raiseIf_ok, raiseIf_ok, raiseIf_ok_last]
  constructor
  · rintro ⟨haccount, hprocess, -, hfinger, -, hbinding, hstring, hid, -, htype, -, hsession⟩
    obtain ⟨text, htext⟩ := isString_iff.mp (not_not.mp hstring)
    rw [htext] at hid
    exact ⟨eq_false_of_ne_true haccount, eq_false_of_ne_true hprocess, eq_false_of_ne_true hfinger,
      not_not.mp hbinding, ⟨text, htext, not_not.mp hid⟩, not_not.mp htype, eq_false_of_ne_true hsession⟩
  · intro h
    obtain ⟨text, htext, hid⟩ := h.sessionId
    refine ⟨Bool.eq_false_iff.mp h.account, Bool.eq_false_iff.mp h.process,
      not_not.mpr (isHashable_of_isOneOf (fingerName_of_valid h.finger)), Bool.eq_false_iff.mp h.finger,
      not_not.mpr (isHashable_of_isOneOf h.binding), not_not.mpr h.binding, ?_, ?_,
      not_not.mpr (isHashable_of_isOneOf h.sessionType), not_not.mpr h.sessionType,
      not_not.mpr (isHashable_of_isOneOf (sessionClass_of_valid h.session)), Bool.eq_false_iff.mp h.session⟩
    · rw [htext]
      exact not_not.mpr rfl
    · rw [htext]
      exact not_not.mpr hid

/-- The places where the validator goes astray, each behind the tests in front of it. -/
def StartStrays (request : StartRequest φ) : Prop :=
  ¬ accountInvalid request.account request.caller.uid ∧ ¬ processInvalid request.caller ∧
    (¬ isHashable request.fingerName ∨ ¬ fingerInvalid request ∧
      (¬ isHashable request.session.binding ∨ ¬ ¬ isOneOf sessionBindings request.session.binding ∧
        (¬ isString request.session.sessionId ∨ ¬ ¬ isSessionId (strOf request.session.sessionId) ∧
          (¬ isHashable request.session.sessionType ∨
            ¬ ¬ isOneOf allowedSessionTypes request.session.sessionType ∧
              ¬ isHashable request.session.sessionClass))))

/-- **The validator of a request** raises its own error, but in these places. -/
theorem own_validateRequest {request : StartRequest φ} :
    Own (validateRequest request) ↔ ¬ StartStrays request := by
  unfold validateRequest StartStrays
  refine own_refuse_iff (own_refuse_iff (own_stray_iff (own_refuse_iff (own_stray_iff (own_refuse_iff
    (own_stray_iff (own_refuse_iff (own_stray_iff (own_refuse_iff (own_stray_last ?_))))))))))
  exact own_refuse_last

/-! ### Writing them -/

theorem isNative_of_isIntIn {value : Value φ} {low high : Int} (h : isIntIn low high value = true) :
    isNative value = true := by
  cases value with
  | int n => rfl
  | _ => exact nomatch h

/-- What equals an integer can be written. -/
theorem isNative_of_same_int {value : Value φ} {n : Int} (h : differ value (.int n) = false) :
    isNative value = true := by
  have hsame : value.pyEq (.int n) = true := by simpa [differ] using h
  cases value with
  | int m => rfl
  | bool b => rfl
  | float x => rfl
  | _ => cases hsame

theorem isNative_sessionId {text : PyStr} (h : isSessionId text = true) :
    isNative (.str text : Value φ) = true := by
  refine Ascii.noPairs fun c hc => ?_
  obtain ⟨-, hall⟩ := Bool.and_eq_true_iff.mp h
  have hc := List.all_eq_true.mp hall c hc
  simp only [Bool.or_eq_true, decide_eq_true_iff, Bool.and_eq_true, isDigit] at hc
  rcases hc with ((((hc | hc) | hc) | hc) | hc) | hc
  · omega
  · omega
  · omega
  · rw [hc]
    decide
  · rw [hc]
    decide
  · rw [hc]
    decide

theorem isNative_start {request : StartRequest φ} (h : StartValid request) (message : String)
    (hmessage : noPairs (py message) = true) : isNative (request.publicAs message) = true := by
  have haccount := h.account
  have hprocess := h.process
  have hsession := h.session
  simp only [accountInvalid, processInvalid, sessionInvalid, Bool.or_eq_false_iff, Bool.not_eq_false'] at haccount hprocess hsession
  obtain ⟨⟨⟨⟨huid, hsource⟩, hpassword⟩, hhome⟩, hgeneration⟩ := haccount
  obtain ⟨⟨hpid, hcaller⟩, hticks⟩ := hprocess
  obtain ⟨⟨⟨⟨hclass, hseat⟩, hstart⟩, -⟩, hactive⟩ := hsession
  obtain ⟨text, hid, hplain⟩ := h.sessionId
  have hlinuxUid : isNative request.account.linuxUid = true := by
    cases huidValue : request.caller.uid with
    | int n =>
      rw [huidValue] at huid
      exact isNative_of_same_int huid
    | _ =>
      rw [huidValue] at hcaller
      exact nomatch hcaller
  have hdigest : isNative request.account.generation = true := by
    rw [Option.isNone_eq_false_iff] at hgeneration
    obtain ⟨digest, hdigest⟩ := Option.isSome_iff_exists.mp hgeneration
    obtain ⟨hvalue, hhex⟩ := policyDigest_ok.mp (ok_of_toOption hdigest)
    rw [hvalue]
    exact (ascii_digest hhex).noPairs
  have hlocal : noPairs (py "local-files-v2") = true := by decide
  refine isNative_members startKeys rfl (by decide) (by decide) ?_
  simp only [List.forall_mem_cons]
  refine ⟨isNative_members accountKeys rfl (by decide) (by decide) ?_,
    isNative_members callerKeys rfl (by decide) (by decide) ?_,
    isNative_of_isOneOf (fingerName_of_valid h.finger) (by decide), hmessage, rfl,
    isNative_members sessionKeys rfl (by decide) (by decide) ?_, nofun⟩
  · simp only [List.forall_mem_cons]
    rw [isTrue_iff.mp hpassword, isTrue_iff.mp hhome, isStr_iff.mp hsource]
    exact ⟨hdigest, rfl, hlinuxUid, rfl, hlocal, nofun⟩
  · simp only [List.forall_mem_cons]
    exact ⟨isNative_of_isIntIn hpid, isNative_of_isIntIn hticks, isNative_of_isIntIn hcaller, nofun⟩
  · obtain ⟨n, hn⟩ := isInt_iff.mp hstart
    simp only [List.forall_mem_cons]
    rw [isTrue_iff.mp hactive, hid, hn]
    exact ⟨rfl, isNative_of_isOneOf h.binding (by decide), isNative_of_isBool hseat,
      isNative_of_isOneOf hclass (by decide), isNative_sessionId hplain, rfl,
      isNative_of_isOneOf h.sessionType (by decide), nofun⟩

/-! ### Rebuilding them -/

/-- What arrives of a request: the real UID of a setuid caller is not sent. -/
def StartRequest.sent (request : StartRequest φ) : StartRequest φ :=
  { request with caller := { request.caller with setuidRealUid := .none } }

/-- **The rebuilding undoes the flattening**, but for the field that is not sent. -/
theorem startOf_publicAs (message : String) (request : StartRequest φ) :
    startOf (request.publicAs message) = request.sent := by
  have hget : ∀ name, (request.publicAs message).get name = _ := fun name => get_members name _
  have hcaller : ∀ name, request.caller.public.get name = _ := fun name => get_members name _
  have haccount : ∀ name, (publicAccount request.account).get name = _ := fun name => get_members name _
  have hsession : ∀ name, (publicSession request.session).get name = _ := fun name => get_members name _
  have hpid : (request.publicAs message).get "caller" = request.caller.public := hget _
  have huid : (request.publicAs message).get "account" = publicAccount request.account := hget _
  have hbinding : (request.publicAs message).get "session" = publicSession request.session := hget _
  simp only [startOf, hpid, huid, hbinding, hcaller, haccount, hsession, hget]
  rfl

theorem startValid_sent {request : StartRequest φ} : StartValid request.sent ↔ StartValid request :=
  ⟨fun h => ⟨h.account, h.process, h.finger, h.binding, h.sessionId, h.sessionType, h.session⟩,
    fun h => ⟨h.account, h.process, h.finger, h.binding, h.sessionId, h.sessionType, h.session⟩⟩

theorem startSchema_public {request : StartRequest φ} (h : StartValid request) :
    startSchema request.public = true := by
  have hget : ∀ name, request.public.get name = _ := fun name => get_members name _
  have hversion : request.public.get "schema_version" = .int 1 := hget _
  have hmessage : request.public.get "message" = .str (py "start") := hget _
  have hfinger : request.public.get "finger_name" = request.fingerName := hget _
  have hcaller : request.public.get "caller" = request.caller.public := hget _
  have haccount : request.public.get "account" = publicAccount request.account := hget _
  have hsession : request.public.get "session" = publicSession request.session := hget _
  obtain ⟨text, -, htext⟩ := isOneOf_iff.mp (fingerName_of_valid h.finger)
  simp only [startSchema, hversion, hmessage, hfinger, hcaller, haccount, hsession, Bool.and_eq_true]
  refine ⟨⟨⟨⟨⟨⟨hasKeys_members rfl, rfl⟩, isStr_iff.mpr rfl⟩, isString_iff.mpr ⟨_, htext⟩⟩, hasKeys_members rfl⟩,
    hasKeys_members rfl⟩, hasKeys_members rfl⟩

theorem encodeStart_ok {request : StartRequest φ} {data : Bytes} :
    encodeStart request = .ok data ↔ StartValid request ∧ encodePacket workerKind request.public = .ok data := by
  rw [encodeStart]
  constructor
  · intro h
    obtain ⟨⟨⟩, hvalid, hencode⟩ := bind_ok h
    exact ⟨validateRequest_ok.mp hvalid, hencode⟩
  · rintro ⟨hvalid, hencode⟩
    exact bind_eq_ok.mpr ⟨(), validateRequest_ok.mpr hvalid, hencode⟩

/-- **A request that was encoded** is decoded to what arrives of it. -/
theorem decodeStart_encodeStart {request : StartRequest φ} {data : Bytes} (h : encodeStart request = .ok data) :
    decodeStart φ data = .ok request.sent := by
  obtain ⟨hvalid, hencode⟩ := encodeStart_ok.mp h
  have hnative := isNative_start hvalid "start" (by decide)
  have hsent := startValid_sent.mpr hvalid
  refine bind_eq_ok.mpr ⟨request.public, decodePacket_encodePacket hencode hnative rfl, ?_⟩
  refine raiseIf_ok.mpr ⟨not_not.mpr (startSchema_public hvalid), ?_⟩
  rw [StartRequest.public, startOf_publicAs]
  refine bind_eq_ok.mpr ⟨(), validateRequest_ok.mpr hsent, ?_⟩
  refine bind_eq_ok.mpr ⟨data, encodeStart_ok.mpr ⟨hsent, hencode⟩, ?_⟩
  exact raiseIf_ok.mpr ⟨not_not.mpr rfl, rfl⟩

theorem decodeStart_ok {request : StartRequest φ} {data : Bytes} (h : decodeStart φ data = .ok request) :
    ∃ value, decodePacket φ workerKind data = .ok value ∧ request = startOf value ∧
      encodeStart request = .ok data := by
  obtain ⟨value, hvalue, h⟩ := bind_ok h
  obtain ⟨-, h⟩ := raiseIf_ok.mp h
  obtain ⟨⟨⟩, -, h⟩ := bind_ok h
  obtain ⟨encoded, hencoded, h⟩ := bind_ok h
  obtain ⟨hsame, h⟩ := raiseIf_ok.mp h
  cases h
  exact ⟨value, hvalue, rfl, hencoded.trans (congrArg Except.ok (not_not.mp hsame))⟩

/-- **A packet that was decoded** is encoded again. -/
theorem encodeStart_decodeStart {request : StartRequest φ} {data : Bytes}
    (h : decodeStart φ data = .ok request) : encodeStart request = .ok data := by
  obtain ⟨-, -, -, hencode⟩ := decodeStart_ok h
  exact hencode

variable (φ) in
/-- The packet is a request, and the validator goes astray on its fields. -/
def DecodedStartStrays (data : Bytes) : Prop :=
  ∃ value : Value φ, decodePacket φ workerKind data = .ok value ∧ startSchema value = true ∧
    StartStrays (startOf value)

theorem own_encodeStart {request : StartRequest φ} (h : validateRequest request = .ok ()) :
    Own (encodeStart request) := by
  rw [encodeStart, h]
  exact own_encodePacket

/-- **The decoder of a request** raises its own error, but where the validator goes astray. -/
theorem own_decodeStart {data : Bytes} (hjson : LoadsJson φ data) :
    Own (decodeStart φ data) ↔ ¬ DecodedStartStrays φ data := by
  rw [decodeStart, own_bind, and_iff_right (own_decodePacket hjson)]
  unfold DecodedStartStrays
  rw [not_exists]
  refine forall_congr' fun value => ?_
  rw [not_and, not_and]
  refine forall_congr' fun _ => ?_
  rw [own_refuse, not_not]
  refine forall_congr' fun _ => ?_
  rw [own_bind, own_validateRequest]
  refine and_iff_left fun _ hvalid => ?_
  exact own_bind.mpr ⟨own_encodeStart hvalid, fun encoded _ => own_refuse.mpr fun _ => own_ok _⟩

/-! ## Updates -/

/-- What is written of an update can be read. -/
theorem isNative_update {update : EnrollmentUpdate φ} (h : validateUpdate update = .ok ()) :
    isNative update.public = true := by
  rw [validateUpdate, raiseIf_ok, raiseIf_ok, raiseIf_ok_last] at h
  obtain ⟨-, hstatus, hfields⟩ := h
  obtain ⟨hdone, hfields⟩ := not_or.mp hfields
  obtain ⟨hpresent, hfields⟩ := not_or.mp hfields
  obtain ⟨hneeded, -⟩ := not_or.mp hfields
  have hnative : isNative update.status = true := by
    by_cases hnone : isNone update.status = true
    · rw [isNone_iff.mp hnone]
      rfl
    · exact isNative_of_isOneOf (not_not.mp fun hnot => hstatus ⟨hnone, hnot⟩) (by decide)
  refine isNative_members updateKeys rfl (by decide) (by decide) ?_
  simp only [List.forall_mem_cons]
  exact ⟨isNative_of_isBool (not_not.mp hdone), isNative_of_isBool (not_not.mp hneeded),
    isNative_of_isBool (not_not.mp hpresent), (by decide : noPairs (py "update") = true), rfl, hnative, nofun⟩

theorem encodeUpdate_ok {update : EnrollmentUpdate φ} {data : Bytes} : encodeUpdate update = .ok data ↔
    validateUpdate update = .ok () ∧ encodePacket workerKind update.public = .ok data := by
  rw [encodeUpdate]
  constructor
  · intro h
    obtain ⟨⟨⟩, hvalid, hencode⟩ := bind_ok h
    exact ⟨hvalid, hencode⟩
  · rintro ⟨hvalid, hencode⟩
    exact bind_eq_ok.mpr ⟨(), hvalid, hencode⟩

/-- **An update that was encoded** is decoded to itself. -/
theorem decodeUpdate_encodeUpdate {update : EnrollmentUpdate φ} {data : Bytes}
    (h : encodeUpdate update = .ok data) : decodeUpdate φ data = .ok update := by
  obtain ⟨hvalid, hencode⟩ := encodeUpdate_ok.mp h
  have hget : ∀ name, update.public.get name = _ := fun name => get_members name _
  have hstatus : update.public.get "status" = update.status := hget _
  have hdone : update.public.get "done" = update.done := hget _
  have hpresent : update.public.get "finger_present" = update.fingerPresent := hget _
  have hneeded : update.public.get "finger_needed" = update.fingerNeeded := hget _
  have hversion : update.public.get "schema_version" = .int 1 := hget _
  have hmessage : update.public.get "message" = .str (py "update") := hget _
  have hschema : updateSchema update.public = true := by
    simp only [updateSchema, hversion, hmessage, Bool.and_eq_true]
    exact ⟨⟨hasKeys_members rfl, rfl⟩, isStr_iff.mpr rfl⟩
  refine bind_eq_ok.mpr ⟨update.public, decodePacket_encodePacket hencode (isNative_update hvalid) rfl, ?_⟩
  rw [hstatus, hdone, hpresent, hneeded]
  refine raiseIf_ok.mpr ⟨not_not.mpr hschema, bind_eq_ok.mpr ⟨(), hvalid, ?_⟩⟩
  exact bind_eq_ok.mpr ⟨data, h, raiseIf_ok.mpr ⟨not_not.mpr rfl, rfl⟩⟩

/-- **A packet that was decoded** is encoded again. -/
theorem encodeUpdate_decodeUpdate {update : EnrollmentUpdate φ} {data : Bytes}
    (h : decodeUpdate φ data = .ok update) : encodeUpdate update = .ok data := by
  obtain ⟨value, -, h⟩ := bind_ok h
  obtain ⟨-, h⟩ := raiseIf_ok.mp h
  obtain ⟨⟨⟩, -, h⟩ := bind_ok h
  obtain ⟨encoded, hencoded, h⟩ := bind_ok h
  obtain ⟨hsame, h⟩ := raiseIf_ok.mp h
  cases h
  exact hencoded.trans (congrArg Except.ok (not_not.mp hsame))

variable (φ) in
/-- The packet is an update with a status that has no hash. -/
def DecodedUpdateStrays (data : Bytes) : Prop :=
  ∃ value : Value φ, decodePacket φ workerKind data = .ok value ∧ updateSchema value = true ∧
    isHashable (value.get "status") = false

theorem own_validateUpdate {update : EnrollmentUpdate φ} :
    Own (validateUpdate update) ↔ isHashable update.status = true := by
  rw [validateUpdate, own_stray_last (own_refuse.mpr fun _ => own_refuse_last)]
  constructor
  · intro h
    by_cases hnone : isNone update.status = true
    · rw [isNone_iff.mp hnone]
      rfl
    · exact not_not.mp fun hnot => h ⟨hnone, hnot⟩
  · rintro h ⟨-, hnot⟩
    exact hnot h

theorem own_encodeUpdate {update : EnrollmentUpdate φ} (h : validateUpdate update = .ok ()) :
    Own (encodeUpdate update) := by
  rw [encodeUpdate, h]
  exact own_encodePacket

/-- **The decoder of an update** raises its own error, but on a status that has no hash. -/
theorem own_decodeUpdate {data : Bytes} (hjson : LoadsJson φ data) :
    Own (decodeUpdate φ data) ↔ ¬ DecodedUpdateStrays φ data := by
  rw [decodeUpdate, own_bind, and_iff_right (own_decodePacket hjson)]
  unfold DecodedUpdateStrays
  rw [not_exists]
  refine forall_congr' fun value => ?_
  rw [not_and, not_and, Bool.not_eq_false]
  refine forall_congr' fun _ => ?_
  rw [own_refuse, not_not]
  refine forall_congr' fun _ => ?_
  rw [own_bind, own_validateUpdate]
  refine and_iff_left fun _ hvalid => ?_
  exact own_bind.mpr ⟨own_encodeUpdate hvalid, fun encoded _ => own_refuse.mpr fun _ => own_ok _⟩

end Messages

end T2TouchId.Packets.Worker
