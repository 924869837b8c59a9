/-
  The protocols of the fprint workers (`src/t2_fprint_worker_protocol.py` and
  `src/t2_fprint_delete_worker_protocol.py`).

  The facade starts a worker with one packet that names the caller, his account and his session; the worker
  answers with updates, or with the completion of a deletion.  A deletion has the same request under another
  name, and translates it.

  1. **Data** — the requests and the answers, whose fields are any values.
  2. **Program** — `validateRequest`, `encodeStart`, `decodeStart`, the updates, the requests and completions
     of a deletion.

  `value in {...}` hashes the value, and a regular expression matches nothing but texts; where nothing has
  said yet what the value is, both may raise `TypeError`.
-/
import T2TouchId.Fprint.MatchGate
import T2TouchId.Packets.Codec
import T2TouchId.User.Broker

namespace T2TouchId.Packets.Worker

open T2TouchId.Python T2TouchId.Python.Json T2TouchId.Journal T2TouchId.User T2TouchId.User.Broker
open T2TouchId.Fprint (fingerNames)

/-! ## Constants -/

/-- `MAX_PACKET_BYTES` and the texts of a worker packet. -/
def workerKind : PacketKind where
  maximum := 4096
  sizeInvalid := "worker packet size is invalid"
  repeatedName := "worker protocol object has a duplicate key"
  notStrict := "worker packet is not strict JSON"
  notObject := "worker packet is not an object"
  unencodable := "worker packet cannot be encoded"

def startKeys : List String := ["account", "caller", "finger_name", "message", "schema_version", "session"]
def callerKeys : List String := ["pid", "start_time_ticks", "uid"]
def accountKeys : List String :=
  ["generation", "home_object_bound", "linux_uid", "protected_password_record", "source"]
def sessionKeys : List String :=
  ["active_local_session", "binding", "seat_attached", "session_class", "session_id",
   "session_start_time_usec", "session_type"]
def updateKeys : List String :=
  ["done", "finger_needed", "finger_present", "message", "schema_version", "status"]
def completionKeys : List String :=
  ["deleted", "finger_name", "message", "mutation_performed", "post_reboot_pending", "reconciled",
   "schema_version"]

/-- `t2_polkit_grant.MAX_PID`. -/
def maxPid : Int := 2 ^ 31 - 1

/-- `ALLOWED_SESSION_TYPES`, `ALLOWED_SESSION_CLASSES` and the bindings. -/
def allowedSessionTypes : List String := ["wayland", "x11", "tty"]
def allowedSessionClasses : List String := ["user", "user-early", "user-light", "user-early-light"]
def sessionBindings : List String := ["pidfd-session", "uid-active-session"]

def allowedStatuses : List String :=
  ["enroll-stage-passed", "enroll-retry-scan", "enroll-swipe-too-short", "enroll-finger-not-centered",
   "enroll-remove-and-retry", "enroll-completed", "enroll-duplicate", "enroll-failed", "enroll-data-full",
   "enroll-disconnected", "enroll-unknown-error"]

def terminalStatuses : List String :=
  ["enroll-completed", "enroll-duplicate", "enroll-failed", "enroll-data-full", "enroll-disconnected",
   "enroll-unknown-error"]

/-- `FAILURE_PACKET`. -/
def failurePacket : Bytes := asciiBytes (py "\x7b\"message\":\"delete-failed\",\"schema_version\":1\x7d")

/-! ## Data -/

/-- `t2_polkit_grant.ProcessSubject`. -/
structure ProcessSubject (φ : Type) where
  pid : Value φ
  uid : Value φ
  startTimeTicks : Value φ
  setuidRealUid : Value φ := .none

/-- `StartRequest`, and `DeleteRequest`, which has the same fields. -/
structure StartRequest (φ : Type) where
  fingerName : Value φ
  caller : ProcessSubject φ
  account : AccountEvidence φ
  session : SessionEvidence φ

structure EnrollmentUpdate (φ : Type) where
  status : Value φ
  done : Value φ
  fingerPresent : Value φ
  fingerNeeded : Value φ

structure DeletionCompletion (φ : Type) where
  fingerName : Value φ
  deleted : Value φ
  reconciled : Value φ
  postRebootPending : Value φ
  mutationPerformed : Value φ

/-- What the protocol of the deletion raises. -/
inductive DeletePacketError
  /-- `FprintDeleteWorkerProtocolError`. -/
  | protocol (message : String)
  /-- `FprintDeleteWorkerFailed`, one of the former. -/
  | failed (message : String)
  /-- `TypeError`. -/
  | typeError
  /-- The `ValueError` of an integer with too many digits. -/
  | valueError
  deriving DecidableEq

/-- The error is the protocol's own. -/
def DeletePacketError.IsOwn : DeletePacketError → Prop
  | protocol _ | failed _ => True
  | _ => False

section Program

variable {φ : Type}

/-! ## The public form -/

def ProcessSubject.public (caller : ProcessSubject φ) : Value φ :=
  members [("pid", caller.pid), ("start_time_ticks", caller.startTimeTicks), ("uid", caller.uid)]

def publicAccount (account : AccountEvidence φ) : Value φ :=
  members
    [("generation", account.generation), ("home_object_bound", account.homeObjectBound),
     ("linux_uid", account.linuxUid), ("protected_password_record", account.protectedPasswordRecord),
     ("source", account.source)]

def publicSession (session : SessionEvidence φ) : Value φ :=
  members
    [("active_local_session", session.activeLocalSession), ("binding", session.binding),
     ("seat_attached", session.seatAttached), ("session_class", session.sessionClass),
     ("session_id", session.sessionId), ("session_start_time_usec", session.sessionStartTimeUsec),
     ("session_type", session.sessionType)]

/-- A request under its message. -/
def StartRequest.publicAs (message : String) (request : StartRequest φ) : Value φ :=
  members
    [("account", publicAccount request.account), ("caller", request.caller.public),
     ("finger_name", request.fingerName), ("message", .str (py message)), ("schema_version", .int 1),
     ("session", publicSession request.session)]

/-- `StartRequest.public`. -/
def StartRequest.public (request : StartRequest φ) : Value φ := request.publicAs "start"

/-- `DeleteRequest.public`. -/
def StartRequest.publicDelete (request : StartRequest φ) : Value φ := request.publicAs "delete-one"

/-- The object of an update. -/
def EnrollmentUpdate.public (update : EnrollmentUpdate φ) : Value φ :=
  members
    [("done", update.done), ("finger_needed", update.fingerNeeded), ("finger_present", update.fingerPresent),
     ("message", .str (py "update")), ("schema_version", .int 1), ("status", update.status)]

/-- The object of a completion. -/
def DeletionCompletion.public (completion : DeletionCompletion φ) : Value φ :=
  members
    [("deleted", completion.deleted), ("finger_name", completion.fingerName),
     ("message", .str (py "delete-completed")), ("mutation_performed", completion.mutationPerformed),
     ("post_reboot_pending", completion.postRebootPending), ("reconciled", completion.reconciled),
     ("schema_version", .int 1)]

variable [JsonFloat φ]

/-! ## Start requests -/

/-- `validate_account` of `t2_ipc_session`, but for its error. -/
def accountInvalid (account : AccountEvidence φ) (uid : Value φ) : Bool :=
  differ account.linuxUid uid || !account.source.isStr (py "local-files-v2")
    || !account.protectedPasswordRecord.isTrue || !account.homeObjectBound.isTrue
    || (policyDigest account.generation "caller account generation").toOption.isNone

/-- `SESSION_ID.fullmatch` of a text. -/
def isSessionId (text : PyStr) : Bool :=
  1 ≤ text.length && text.length ≤ 64
    && text.all fun c => isDigit c || (0x41 ≤ c.val && c.val ≤ 0x5A) || (0x61 ≤ c.val && c.val ≤ 0x7A)
      || c = 0x5F || c = 0x2E || c = 0x2D

/-- The three numbers of a process. -/
def processInvalid (caller : ProcessSubject φ) : Bool :=
  !isIntIn 1 maxPid caller.pid || !isIntIn 1 (2 ^ 32 - 2) caller.uid || !isIntIn 1 (2 ^ 64 - 1) caller.startTimeTicks

/-- The finger, and once more the account. -/
def fingerInvalid (request : StartRequest φ) : Bool :=
  !isOneOf fingerNames request.fingerName || differ request.account.linuxUid request.caller.uid
    || !request.account.source.isStr (py "local-files-v2")
    || !request.account.protectedPasswordRecord.isTrue || !request.account.homeObjectBound.isTrue

/-- The last tests of a session. -/
def sessionInvalid (session : SessionEvidence φ) : Bool :=
  !isOneOf allowedSessionClasses session.sessionClass || !isBool session.seatAttached
    || !isInt session.sessionStartTimeUsec || intOf session.sessionStartTimeUsec ≤ 0
    || !session.activeLocalSession.isTrue

/-- `_validate_request`. -/
def validateRequest (request : StartRequest φ) : Except PacketError Unit := do
  raiseIf (accountInvalid request.account request.caller.uid)
    (.protocol "worker caller/account evidence is invalid")
  let inconsistent := PacketError.protocol "worker start request evidence is inconsistent"
  raiseIf (processInvalid request.caller) inconsistent
  raiseIf (¬ isHashable request.fingerName) .typeError
  raiseIf (fingerInvalid request) inconsistent
  raiseIf (¬ isHashable request.session.binding) .typeError
  raiseIf (¬ isOneOf sessionBindings request.session.binding) inconsistent
  raiseIf (¬ isString request.session.sessionId) .typeError
  raiseIf (¬ isSessionId (strOf request.session.sessionId)) inconsistent
  raiseIf (¬ isHashable request.session.sessionType) .typeError
  raiseIf (¬ isOneOf allowedSessionTypes request.session.sessionType) inconsistent
  raiseIf (¬ isHashable request.session.sessionClass) .typeError
  raiseIf (sessionInvalid request.session) inconsistent

def encodeStart (request : StartRequest φ) : Except PacketError Bytes := do
  validateRequest request
  encodePacket workerKind request.public

/-- The request of a value. -/
def startOf (value : Value φ) : StartRequest φ :=
  let caller := value.get "caller"
  let account := value.get "account"
  let session := value.get "session"
  { fingerName := value.get "finger_name"
    caller :=
      { pid := caller.get "pid", uid := caller.get "uid", startTimeTicks := caller.get "start_time_ticks" }
    account :=
      { linuxUid := account.get "linux_uid"
        generation := account.get "generation"
        source := account.get "source"
        protectedPasswordRecord := account.get "protected_password_record"
        homeObjectBound := account.get "home_object_bound" }
    session :=
      { binding := session.get "binding"
        sessionId := session.get "session_id"
        sessionType := session.get "session_type"
        sessionClass := session.get "session_class"
        seatAttached := session.get "seat_attached"
        sessionStartTimeUsec := session.get "session_start_time_usec"
        activeLocalSession := session.get "active_local_session" } }

/-- The tests of `decode_start` before the fields. -/
def startSchema (value : Value φ) : Bool :=
  hasKeys startKeys value && isVersionOne (value.get "schema_version")
    && (value.get "message").isStr (py "start") && isString (value.get "finger_name")
    && hasKeys callerKeys (value.get "caller") && hasKeys accountKeys (value.get "account")
    && hasKeys sessionKeys (value.get "session")

variable (φ) in
def decodeStart (data : Bytes) : Except PacketError (StartRequest φ) := do
  let value ← decodePacket φ workerKind data
  raiseIf (¬ startSchema value) (.protocol "worker start request schema is invalid")
  let request := startOf value
  validateRequest request
  let encoded ← encodeStart request
  raiseIf (encoded ≠ data) (.protocol "worker start request is not canonical")
  return request

/-! ## Updates -/

/-- `_validate_update`. -/
def validateUpdate (update : EnrollmentUpdate φ) : Except PacketError Unit := do
  raiseIf (¬ isNone update.status ∧ ¬ isHashable update.status) .typeError
  raiseIf (¬ isNone update.status ∧ ¬ isOneOf allowedStatuses update.status)
    (.protocol "worker update status is invalid")
  raiseIf (¬ isBool update.done ∨ ¬ isBool update.fingerPresent ∨ ¬ isBool update.fingerNeeded
      ∨ (update.fingerPresent.isTrue ∧ update.fingerNeeded.isTrue)
      ∨ update.done.isTrue ≠ isOneOf terminalStatuses update.status
      ∨ (update.done.isTrue ∧ (update.fingerPresent.isTrue ∨ update.fingerNeeded.isTrue)))
    (.protocol "worker update state is inconsistent")

def encodeUpdate (update : EnrollmentUpdate φ) : Except PacketError Bytes := do
  validateUpdate update
  encodePacket workerKind update.public

/-- The tests of `decode_update` before the fields. -/
def updateSchema (value : Value φ) : Bool :=
  hasKeys updateKeys value && isVersionOne (value.get "schema_version")
    && (value.get "message").isStr (py "update")

variable (φ) in
def decodeUpdate (data : Bytes) : Except PacketError (EnrollmentUpdate φ) := do
  let value ← decodePacket φ workerKind data
  raiseIf (¬ updateSchema value) (.protocol "worker update schema is invalid")
  let update : EnrollmentUpdate φ :=
    { status := value.get "status"
      done := value.get "done"
      fingerPresent := value.get "finger_present"
      fingerNeeded := value.get "finger_needed" }
  validateUpdate update
  let encoded ← encodeUpdate update
  raiseIf (encoded ≠ data) (.protocol "worker update is not canonical")
  return update

/-! ## Deletions -/

/-- `except common.FprintWorkerProtocolError as error: raise ...`. -/
def asDelete {α : Type} (message : String) (answer : Except PacketError α) : Except DeletePacketError α :=
  answer.mapError fun
    | .protocol _ => .protocol message
    | .typeError => .typeError
    | .valueError => .valueError

def encodeRequest (request : StartRequest φ) : Except DeletePacketError Bytes :=
  asDelete "delete worker request is invalid" do
    validateRequest request
    encodePacket workerKind request.publicDelete

variable (φ) in
def decodeRequest (data : Bytes) : Except DeletePacketError (StartRequest φ) := do
  let value ← asDelete "delete worker request schema is invalid" (decodePacket φ workerKind data)
  raiseIf (¬ (value.get "message").isStr (py "delete-one")) (.protocol "delete worker request message is invalid")
  let translated := value.set "message" (.str (py "start"))
  let start ← asDelete "delete worker request schema is invalid"
    (encodePacket workerKind translated >>= decodeStart φ)
  raiseIf (¬ hasKeys startKeys value) (.protocol "delete worker request is not canonical")
  let encoded ← encodeRequest start
  raiseIf (encoded ≠ data) (.protocol "delete worker request is not canonical")
  return start

/-- `DeletionCompletion.__post_init__`. -/
def checkCompletion (completion : DeletionCompletion φ) : Except PacketError Unit := do
  raiseIf (¬ isHashable completion.fingerName) .typeError
  raiseIf (¬ isOneOf fingerNames completion.fingerName) (.protocol "deletion completion finger name is invalid")
  raiseIf (¬ isBool completion.deleted ∨ ¬ isBool completion.reconciled ∨ ¬ isBool completion.postRebootPending
      ∨ ¬ isBool completion.mutationPerformed)
    (.protocol "deletion completion flags must be Boolean")
  raiseIf (¬ (completion.deleted.isTrue ∧ completion.reconciled.isTrue ∧ completion.postRebootPending.isTrue
      ∧ completion.mutationPerformed.isTrue))
    (.protocol "deletion completion does not prove reconciled mutation")

def encodeCompletion (completion : DeletionCompletion φ) : Except DeletePacketError Bytes :=
  asDelete "delete worker completion cannot be encoded" (encodePacket workerKind completion.public)

/-- The tests of `decode_completion` before the fields. -/
def completionSchema (value : Value φ) : Bool :=
  hasKeys completionKeys value && isVersionOne (value.get "schema_version")
    && (value.get "message").isStr (py "delete-completed")

variable (φ) in
def decodeCompletion (data : Bytes) : Except DeletePacketError (DeletionCompletion φ) := do
  raiseIf (data = failurePacket) (.failed "delete worker reported failure")
  let value ← asDelete "delete worker completion is invalid" (decodePacket φ workerKind data)
  raiseIf (¬ completionSchema value) (.protocol "delete worker completion schema is invalid")
  let completion : DeletionCompletion φ :=
    { fingerName := value.get "finger_name"
      deleted := value.get "deleted"
      reconciled := value.get "reconciled"
      postRebootPending := value.get "post_reboot_pending"
      mutationPerformed := value.get "mutation_performed" }
  asDelete "delete worker completion is invalid" (checkCompletion completion)
  let encoded ← encodeCompletion completion
  raiseIf (encoded ≠ data) (.protocol "delete worker completion is not canonical")
  return completion

end Program

end T2TouchId.Packets.Worker
