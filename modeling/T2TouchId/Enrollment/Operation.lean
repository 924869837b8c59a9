/-
  The enrollment operation (`src/t2_enrollment_operation.py`).

  One call of `run` sends the start to the sensor, feeds its events to the event machine, continues or
  cancels, and returns at the terminal event.  Each command stands between two records of the journal;
  where anything fails behind the first of them, the operation records that its outcome is unknown.

  1. **Data** — `Command` with its answers; `EnrollmentOperation` carries what its constructor checks.
  2. **Program** — `append`, `outcomeUnknown`, `appendDuringActiveOperation` are the methods; `run` is the
     body of the method of this name, cut into one definition for each of its blocks.

  The loop asks for events until the limit of them is reached; a poll without an event does not count, so
  the loop has no bound, and one follows it for as many polls as one likes.
-/
import T2TouchId.Enrollment.Protocol
import T2TouchId.Journal.Client
import T2TouchId.Journal.Enrollment.Closing
import T2TouchId.Python.Uuid

set_option linter.unusedSectionVars false

namespace T2TouchId.Enrollment

open T2TouchId.Calls T2TouchId.Journal T2TouchId.Journal.Enrollment T2TouchId.Python T2TouchId.Python.Json

/-! ## Commands -/

/-- The calls of the transport and of the callbacks. -/
inductive Command
  | dispatchAllowed
  | start (payload : Bytes)
  | cancelRequested
  | cancel
  | nextEvent
  | onFeedback (transition : EnrollmentTransition)
  | continueEnrollment

/-- What `next_event` may return. -/
inductive RawEvent
  | nothing
  | bytes (data : Bytes)
  /-- Anything else. -/
  | other

/-- The answers: of the guard, whether it is `True`; of the transport, an object that should be a status;
    of `cancel_requested`, its truth; of `on_feedback`, whether it is `None`. -/
@[reducible] def CommandAnswer (φ : Type) : Command → Type
  | .dispatchAllowed => Answer Bool
  | .start _ | .cancel | .continueEnrollment => Answer (Value φ)
  | .cancelRequested => Answer Bool
  | .nextEvent => Answer RawEvent
  | .onFeedback _ => Answer Bool

/-- What `run` raises. -/
inductive OperationError (φ : Type)
  /-- `EnrollmentOperationError`. -/
  | operation (message : String)
  /-- `EnrollmentPreDispatchCancelled`, its subclass. -/
  | preDispatchCancelled (message : String)
  /-- `EnrollmentProtocolError`. -/
  | protocolError (message : String)
  /-- What `append_checked` raised, other than the error of its module. -/
  | storage (failure : Failure φ)
  /-- What a call raised. -/
  | call

section Operation

variable {φ : Type} [JsonFloat φ]

/-- Is it an `EnrollmentOperationError`? -/
def OperationError.isOperation : OperationError φ → Bool
  | .operation _ | .preDispatchCancelled _ => true
  | _ => false

/-- `EnrollmentOperationResult`, whose `reconciliation_required` is always `True`. -/
structure EnrollmentOperationResult where
  outcome : String
  transition : Option EnrollmentTransition

/-! ## The constructor -/

/-- `require_start_ready`. -/
def requireStartReady (history : EnrollmentHistory φ)
    (linuxBootUuid connectionGeneration mappingGeneration : String)
    (callerLinuxUid targetLinuxUid protocolVersion : Int) : Check φ Unit := do
  reject (history.phase ≠ .baseline) "journal is not at the E0 baseline"
  let baseline := history.baseline
  reject (differ (baseline.get "linux_boot_uuid") (.str (py linuxBootUuid)))
    "baseline belongs to another Linux boot"
  reject (differ (baseline.get "connection_generation") (.str (py connectionGeneration)))
    "baseline was not collected on the enrollment connection"
  reject (differ (baseline.get "mapping_generation") (.str (py mappingGeneration)))
    "protected mapping changed after baseline"
  reject (differ (baseline.get "caller_linux_uid") (.int callerLinuxUid)
      ∨ differ (baseline.get "target_linux_uid") (.int targetLinuxUid))
    "Linux caller or target differs from baseline"
  reject (differ (baseline.get "protocol_version") (.int protocolVersion) ∨ protocolVersion ∉ [1, 2])
    "biometric protocol differs from baseline"
  let capacity := baseline.get "capacity"
  reject (intOf (capacity.get "maximum") ≤ intOf (capacity.get "used"))
    "enrollment capacity is exhausted"

/-- An operation that its constructor let through. -/
structure EnrollmentOperation (φ : Type) [JsonFloat φ] where
  operationId : String
  connectionGeneration : String
  protocolVersion : Int
  history : EnrollmentHistory φ
  ready : ∃ linuxBootUuid mappingGeneration callerLinuxUid targetLinuxUid,
    requireStartReady history linuxBootUuid connectionGeneration mappingGeneration callerLinuxUid
      targetLinuxUid protocolVersion = .ok ()
  sameOperation : history.operationId = .str (py operationId)

namespace EnrollmentOperation

/-- A method of the operation; `self.history` is its variable. -/
abbrev Method (φ α : Type) : Type :=
  Client φ (EnrollmentHistory φ) (CommandAnswer φ) (EnrollmentHistory φ) (OperationError φ) α

/-- What a call returned; what it raised is raised. -/
def answered {α : Type} : Answer α → Method φ α
  | .raised => Op.raise .call
  | .returned a => pure a

/-- `_append`. -/
def append (milestone : String) (evidence : Value φ) : Method φ Unit := do
  match ← Client.append milestone evidence with
  | .ok history => Op.set history
  | .error failure =>
    Op.raise (if failure.isTyped then .operation ("durable enrollment milestone " ++ milestone ++ " failed")
      else .storage failure)

/-- `_transport_status`. -/
def transportStatus (value : Value φ) (operation : String) : Except (OperationError φ) Int :=
  if isIntIn (-(2 ^ 31)) (2 ^ 32 - 1) value then .ok (intOf value)
  else .error (.operation (operation ++ " transport returned an invalid status"))

variable (op : EnrollmentOperation φ)

/-- `self.apple_user_id`. -/
def appleUserId : Int := intOf (op.history.baseline.get "apple_uid")

/-- `self.transport.connection_generation` as evidence. -/
def generation : Value φ := .str (py op.connectionGeneration)

/-- `_outcome_unknown`; it raises in any case. -/
def outcomeUnknown {α : Type} (stage reason : String) : Method φ α := do
  (append "ENROLL_OUTCOME_UNKNOWN" (members
    [("connection_generation", op.generation), ("stage", .str (py stage)),
     ("reason", .str (py reason)), ("mutation_possible", .bool true)])).except fun error =>
      Op.raise (if error.isOperation then
        .operation "enrollment outcome is unknown and could not be journaled" else error)
  Op.raise (.operation "enrollment outcome is unknown; reconciliation is required")

/-- `_append_during_active_operation`. -/
def appendDuringActiveOperation (milestone : String) (evidence : Value φ) (stage : String) :
    Method φ Unit :=
  (append milestone evidence).except fun error =>
    if error.isOperation then op.outcomeUnknown stage "journal-error" else Op.raise error

/-- `try: … except BaseException as error: self._outcome_unknown(stage, reason, error)`. -/
def orUnknown {α : Type} (block : Method φ α) (stage reason : String) : Method φ α :=
  block.except fun _ => op.outcomeUnknown stage reason

/-! ## The start -/

/-- `EnrollmentStateMachine(…)`. -/
def startMachine : Except (OperationError φ) EnrollmentStateMachine :=
  if ¬ (0 ≤ op.appleUserId ∧ op.appleUserId ≤ 0xFFFFFFFF) then
    .error (.protocolError "expected user ID is outside uint32 range")
  else if h : op.connectionGeneration ≠ "" ∧ op.operationId ≠ "" then
    .ok (.start (UInt32.ofNat op.appleUserId.toNat) op.connectionGeneration op.operationId h)
  else .error (.protocolError "generation and operation IDs are required")

/-- `SensitiveEnrollmentRequest(…).buffer`. -/
def sensitiveEnrollmentRequest (acmExternalForm : Bytes) : Except (OperationError φ) Bytes :=
  if op.protocolVersion ∉ [1, 2] then
    .error (.protocolError "enrollment protocol must be version 1 or 2")
  else if ¬ (0 ≤ op.appleUserId ∧ op.appleUserId ≤ 0xFFFFFFFF) then
    .error (.protocolError "user ID is outside uint32 range")
  else if acmExternalForm.length ≠ 16 then
    .error (.protocolError "ACM external form must be exactly 16 bytes")
  else
    let size := if op.protocolVersion = 1 then 48 else 68
    .ok (Bytes.le 4 0 ++ Bytes.le 4 op.appleUserId.toNat ++ Bytes.le 4 0 ++ Bytes.le 4 16
      ++ acmExternalForm ++ List.replicate (size - 32) 0)

/-- The guard, whose exceptions and awaitables count as `False`. -/
def dispatchAllowed : Method φ Bool :=
  (Client.call .dispatchAllowed >>= answered).except fun _ => pure false

/-- Up to the accepted start; `some` is a result that ends the operation. -/
def start (acmExternalForm : Bytes) : Method φ (Option EnrollmentOperationResult) := do
  let allowed ← dispatchAllowed
  if ¬ allowed then
    append "ENROLL_ABORTED_BEFORE_START" (members
      [("connection_generation", op.generation), ("reason", .str (py "safety-guard-unavailable")),
       ("mutation_possible", .bool false)])
    Op.raise (.preDispatchCancelled "enrollment cancelled before start dispatch")
  let request ← Op.lift (op.sensitiveEnrollmentRequest acmExternalForm)
  append "ENROLL_START_INTENT" (members
    [("apple_uid", .int op.appleUserId), ("protocol_version", .int op.protocolVersion),
     ("connection_generation", op.generation), ("request_length", .int request.length),
     ("request_sha256", .str (py (sha256 request).hex))])
  let status ← op.orUnknown (do
    let value ← answered (← Client.call (.start request))
    Op.lift (transportStatus value "start")) "start" "transport-error"
  if status ≠ 0 then
    op.appendDuringActiveOperation "ENROLL_START_REJECTED" (members [("status", .int status)]) "start"
    return some ⟨"start-rejected", none⟩
  op.appendDuringActiveOperation "ENROLL_START_OBSERVED" (members [("status", .int 0)]) "start"
  return none

/-! ## One round of the loop -/

/-- The cancellation at the top of the loop. -/
def cancelIfRequested (machine : EnrollmentStateMachine) (cancelSent : Bool) :
    Method φ (EnrollmentStateMachine × Bool) := do
  let shouldCancel ← if cancelSent then pure false
    else op.orUnknown (Client.call .cancelRequested >>= answered) "active" "protocol-error"
  if ¬ shouldCancel then return (machine, cancelSent)
  op.appendDuringActiveOperation "ENROLL_CANCEL_INTENT" (members
    [("connection_generation", op.generation), ("reason", .str (py "caller-requested"))]) "cancel"
  let (result, machine) := machine.requestCancel
  let _ ← Op.lift (result.mapError .protocolError)
  let status ← op.orUnknown (do
    let value ← answered (← Client.call .cancel)
    Op.lift (transportStatus value "cancel")) "cancel" "transport-error"
  if status ≠ 0 then
    op.outcomeUnknown "cancel" "transport-error"
  op.appendDuringActiveOperation "ENROLL_CANCEL_DISPATCH_OBSERVED" (members [("status", .int 0)]) "cancel"
  return (machine, true)

/-- `parse_service_event` and `machine.accept`. -/
def acceptEvent (machine : EnrollmentStateMachine) (rawEvent : RawEvent) :
    Except (OperationError φ) (ServiceEvent × EnrollmentTransition × EnrollmentStateMachine) := do
  let event ← match rawEvent with
    | .bytes data => (parseServiceEvent data).mapError .protocolError
    | _ => .error (.protocolError "service event length is invalid")
  let (result, machine) := machine.accept sha256 event op.connectionGeneration op.operationId
  let transition ← result.mapError .protocolError
  return (event, transition, machine)

/-- The actions that the caller is not told of. -/
def silentActions : List EnrollmentAction :=
  [.ignoreTelemetry, .ignoreAuxiliary, .ignorePhase, .resultWitnessed, .identityObserved, .cancelled,
   .failed, .timedOut]

/-- The callback for a transition; it must return `None`. -/
def feedback (transition : EnrollmentTransition) : Method φ Unit :=
  if transition.action ∈ silentActions then pure ()
  else op.orUnknown (do
    let isNone : Bool ← answered (← Client.call (.onFeedback transition))
    if ¬ isNone then Op.raise (.operation "enrollment feedback callback must return None"))
    "active" "protocol-error"

/-- The continue that some transitions ask for. -/
def continueEnrollment (event : ServiceEvent) (data : Bytes) : Method φ Unit := do
  op.appendDuringActiveOperation "ENROLL_CONTINUE_INTENT" (members
    [("connection_generation", op.generation), ("event_sequence", .int event.sequence.toNat),
     ("event_ordinal", .int event.ordinal.toNat), ("event_sha256", .str (py (sha256 data).hex))])
    "continue"
  let status ← op.orUnknown (do
    let value ← answered (← Client.call .continueEnrollment)
    Op.lift (transportStatus value "continue")) "continue" "transport-error"
  -- the status is recorded and decides nothing
  op.appendDuringActiveOperation "ENROLL_CONTINUE_OBSERVED" (members
    [("event_sequence", .int event.sequence.toNat), ("status", .int status),
     ("return_status_authoritative", .bool false)]) "continue"

/-- `str(uuid.UUID(bytes=data))`. -/
def uuidText (data : Bytes) : PyStr := dashed (py data.hex)

/-- `terminal_status`, and the value of the action. -/
def terminalStatus : EnrollmentAction → Option (Int × String)
  | .cancelled => some (66, "cancelled")
  | .failed => some (67, "failed")
  | .timedOut => some (68, "timed-out")
  | _ => none

/-- What a transition without a continue leads to; `none` goes on with the loop. -/
def finish (event : ServiceEvent) (data : Bytes) (transition : EnrollmentTransition) :
    Method φ (Option EnrollmentOperationResult) :=
  match transition.action, transition.identity with
  | .identityObserved, some identity => do
    op.appendDuringActiveOperation "E2_TERMINAL_IDENTITY_OBSERVED" (members
      [("connection_generation", op.generation), ("event_sequence", .int event.sequence.toNat),
       ("envelope_type", .int event.envelopeType.toNat), ("event_version", .int event.version.toNat),
       ("user_id", .int identity.userId.toNat), ("identity_uuid", .str (uuidText identity.identityUuid))])
      "terminal"
    return some ⟨"identity-observed", some transition⟩
  -- `assert transition.identity is not None`
  | .identityObserved, none => Op.raise .call
  | .resultWitnessed, _ => do
    op.appendDuringActiveOperation "E2_TERMINAL_RESULT_WITNESSED" (members
      [("connection_generation", op.generation), ("event_sequence", .int event.sequence.toNat),
       ("envelope_type", .int event.envelopeType.toNat), ("event_version", .int event.version.toNat),
       ("payload_length", .int event.payload.length), ("event_sha256", .str (py (sha256 data).hex)),
       ("embedded_user_matches", .bool false)]) "terminal"
    return some ⟨"result-witnessed", some transition⟩
  | action, _ =>
    match terminalStatus action with
    | some (status, outcome) => do
      op.appendDuringActiveOperation "ENROLL_TERMINAL_FAILURE_OBSERVED" (members
        [("connection_generation", op.generation), ("event_sequence", .int event.sequence.toNat),
         ("envelope_type", .int event.envelopeType.toNat), ("status", .int status)]) "terminal"
      return some ⟨outcome, some transition⟩
    | none => pure none

/-! ## The loop -/

/-- The rest of a round, for an event that came. -/
def handleEvent (machine : EnrollmentStateMachine) (rawEvent : RawEvent) :
    Method φ (EnrollmentStateMachine × Option EnrollmentOperationResult) := do
  let (event, transition, machine) ←
    op.orUnknown (Op.lift (op.acceptEvent machine rawEvent)) "terminal" "protocol-error"
  let data := match rawEvent with
    | .bytes data => data
    | _ => []
  op.feedback transition
  if transition.continueRequired then
    op.continueEnrollment event data
    return (machine, none)
  return (machine, ← op.finish event data transition)

/-- The loop, for some polls. -/
def eventLoop (eventLimit : Nat) : Nat → EnrollmentStateMachine → Bool → Nat →
    Method φ EnrollmentOperationResult
  | 0, _, _, _ => Op.cut
  | polls + 1, machine, cancelSent, eventCount =>
    if eventCount < eventLimit then do
      let (machine, cancelSent) ← op.cancelIfRequested machine cancelSent
      let rawEvent ← op.orUnknown (Client.call .nextEvent >>= answered) "active" "connection-lost"
      match rawEvent with
      | .nothing => eventLoop eventLimit polls machine cancelSent eventCount
      | rawEvent => do
        let (machine, result) ← op.handleEvent machine rawEvent
        match result with
        | some result => return result
        | none => eventLoop eventLimit polls machine cancelSent (eventCount + 1)
    else op.outcomeUnknown "active" "protocol-error"

/-- The phases in which an exception of any other kind is recorded, too. -/
def activePhases : List EnrollmentPhase := [.active, .continueIntent, .cancelIntent, .cancelRequested]

/-- The handlers around the start and the loop. -/
def failedLocally (error : OperationError φ) : Method φ EnrollmentOperationResult := do
  if error.isOperation then Op.raise error
  if (← Op.get).phase ∈ activePhases then op.outcomeUnknown "active" "protocol-error"
  Op.raise (.operation "enrollment operation failed locally")

/-- `run`. -/
def run (acmExternalForm : Bytes) (eventLimit : Int) (polls : Nat) : Method φ EnrollmentOperationResult := do
  if ¬ (1 ≤ eventLimit ∧ eventLimit ≤ 1024) then
    Op.raise (.operation "event limit is outside policy")
  let machine ← Op.lift op.startMachine
  Op.except (do
    match ← op.start acmExternalForm with
    | some result => return result
    | none => op.eventLoop eventLimit.toNat polls machine false 0) op.failedLocally

end EnrollmentOperation

end Operation

end T2TouchId.Enrollment
