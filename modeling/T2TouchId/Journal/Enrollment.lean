/-
  The enrollment journal (`src/t2_enrollment_journal.py`).

  `validate_history` reads the records of one enrollment from the baseline on and keeps fifteen phases
  apart.  Every milestone names the phases it may come in, the fields of its evidence, and what they
  are compared with.

  1. **Data** — `EnrollmentPhase`, `Milestone` (the names, and everything that begins with
     `CATACOMB_`), and `State`: the local variables of `validate_history`.
  2. **Program** — one definition for each milestone, `step` for one record, `validateHistory` for the
     journal.
  3. **Results** — `validateHistory_ok`: an accepted journal is a run of the loop;
     `validateHistory_written`: and a written one that it accepts is accepted.

  `EnrollmentHistory` is the last state with the number of records and the head hash.
-/
import T2TouchId.Journal.History
import T2TouchId.Journal.Persistence
import T2TouchId.Journal.Written

namespace T2TouchId.Journal.Enrollment

open T2TouchId.Python T2TouchId.Python.Json

/-- `SERVICE_STATUS` and `SERVICE_ENROLLMENT_RESULT`. -/
def serviceStatus : Int := 0xE3FF8001
def serviceEnrollmentResult : Int := 0xE3FF8003

inductive EnrollmentPhase
  | baseline
  | abortedBeforeStart
  | startIntent
  | active
  | continueIntent
  | cancelIntent
  | cancelRequested
  | terminalWitness
  | terminalIdentity
  | terminalFailure
  | persisting
  | persistenceReady
  | reconciled
  | postRebootVerified
  | outcomeUnknown
  deriving DecidableEq

/-! ## Milestones -/

inductive Milestone
  | abortedBeforeStart
  | startIntent
  | startObserved
  | startRejected
  | continueIntent
  | continueObserved
  | cancelIntent
  | cancelDispatchObserved
  | terminalIdentityObserved
  | terminalResultWitnessed
  | witnessIdentityReadbackObserved
  | terminalFailureObserved
  | identityReadbackObserved
  | recoveryIdentityReadbackObserved
  | catacomb (name : PyStr)
  | reconciled
  | recoveryNoChangeReconciled
  | persistenceReadbackRecovered
  | postRebootVerified
  | outcomeUnknown
  deriving DecidableEq

/-- The milestones with a name of their own. -/
def milestones : List (String × Milestone) :=
  [("ENROLL_ABORTED_BEFORE_START", .abortedBeforeStart),
   ("ENROLL_START_INTENT", .startIntent),
   ("ENROLL_START_OBSERVED", .startObserved),
   ("ENROLL_START_REJECTED", .startRejected),
   ("ENROLL_CONTINUE_INTENT", .continueIntent),
   ("ENROLL_CONTINUE_OBSERVED", .continueObserved),
   ("ENROLL_CANCEL_INTENT", .cancelIntent),
   ("ENROLL_CANCEL_DISPATCH_OBSERVED", .cancelDispatchObserved),
   ("E2_TERMINAL_IDENTITY_OBSERVED", .terminalIdentityObserved),
   ("E2_TERMINAL_RESULT_WITNESSED", .terminalResultWitnessed),
   ("E2_WITNESS_IDENTITY_READBACK_OBSERVED", .witnessIdentityReadbackObserved),
   ("ENROLL_TERMINAL_FAILURE_OBSERVED", .terminalFailureObserved),
   ("E2_IDENTITY_READBACK_OBSERVED", .identityReadbackObserved),
   ("E2_RECOVERY_IDENTITY_READBACK_OBSERVED", .recoveryIdentityReadbackObserved),
   ("E3_RECONCILED", .reconciled),
   ("E3_RECOVERY_NO_CHANGE_RECONCILED", .recoveryNoChangeReconciled),
   ("E3_PERSISTENCE_READBACK_RECOVERED", .persistenceReadbackRecovered),
   ("E4_POST_REBOOT_VERIFIED", .postRebootVerified),
   ("ENROLL_OUTCOME_UNKNOWN", .outcomeUnknown)]

/-- The milestone of this name. -/
def milestoneNamed (name : PyStr) : Option Milestone :=
  match milestones.find? (fun m => py m.1 = name) with
  | some (_, m) => some m
  | none => if (py "CATACOMB_").isPrefixOf name then some (.catacomb name) else none

section History

variable {φ : Type}

/-- The milestone of a record, if it is one that the journal has. -/
def milestoneOf : Value φ → Option Milestone
  | .str name => milestoneNamed name
  | _ => none

/-! ## State -/

/-- The local variables of `validate_history`. -/
structure State (φ : Type) where
  operationId : Value φ
  baseline : Value φ
  phase : EnrollmentPhase := .baseline
  lastEvent : Option Int := none
  pendingEvent : Option Int := none
  terminalIdentityUuid : Value φ := .none
  terminalStatus : Value φ := .none
  persistence : Tracker φ
  reconciledSnapshotSha256 : Value φ := .none
  postRebootLinuxBootUuid : Value φ := .none
  outcomeUnknownStage : Value φ := .none
  persistenceConnectionGeneration : Value φ

variable [JsonFloat φ]

/-- `_same_generation`. -/
def sameGeneration (evidence baseline : Value φ) : Check φ Unit :=
  reject (differ (evidence.get "connection_generation") (baseline.get "connection_generation"))
    "enrollment connection generation changed"

namespace State

/-! ## Starting -/

/-- `ENROLL_ABORTED_BEFORE_START`. -/
def abortedBeforeStart (st : State φ) (evidence : Value φ) : Check φ (State φ) := do
  reject (st.phase ≠ .baseline) "pre-dispatch enrollment abort is out of order"
  exactFields evidence ["connection_generation", "reason", "mutation_possible"]
    "ENROLL_ABORTED_BEFORE_START"
  sameGeneration evidence st.baseline
  reject (¬ (evidence.get "reason").isStr (py "safety-guard-unavailable")
      ∨ ¬ isFalse (evidence.get "mutation_possible"))
    "pre-dispatch enrollment abort evidence is invalid"
  return { st with phase := .abortedBeforeStart }

/-- The length of a start request, by the protocol version. -/
def requestLength (protocolVersion : Value φ) : Int :=
  if protocolVersion.pyEq (.int 1) then 48 else 68

/-- `ENROLL_START_INTENT`. -/
def startIntent (st : State φ) (evidence : Value φ) : Check φ (State φ) := do
  reject (st.phase ≠ .baseline) "enrollment start intent is out of order"
  exactFields evidence
    ["apple_uid", "protocol_version", "connection_generation", "request_length", "request_sha256"]
    "ENROLL_START_INTENT"
  reject (differ (evidence.get "apple_uid") (st.baseline.get "apple_uid")
      ∨ differ (evidence.get "protocol_version") (st.baseline.get "protocol_version")
      ∨ differ (evidence.get "request_length")
          (.int (requestLength (st.baseline.get "protocol_version"))))
    "start intent disagrees with baseline"
  sameGeneration evidence st.baseline
  requireSha256 (evidence.get "request_sha256") "request_sha256"
  return { st with phase := .startIntent }

/-- `ENROLL_START_OBSERVED`. -/
def startObserved (st : State φ) (evidence : Value φ) : Check φ (State φ) := do
  reject (st.phase ≠ .startIntent) "enrollment start observation is out of order"
  exactFields evidence ["status"] "ENROLL_START_OBSERVED"
  let status ← statusValue (evidence.get "status") "start status"
  reject (status ≠ 0) "accepted enrollment start status is not zero"
  return { st with phase := .active }

/-- `ENROLL_START_REJECTED`. -/
def startRejected (st : State φ) (evidence : Value φ) : Check φ (State φ) := do
  reject (st.phase ≠ .startIntent) "enrollment start rejection is out of order"
  exactFields evidence ["status"] "ENROLL_START_REJECTED"
  let status ← statusValue (evidence.get "status") "start status"
  reject (status = 0) "rejected enrollment start has status zero"
  return { st with terminalStatus := evidence.get "status", phase := .terminalFailure }

/-! ## Events -/

/-- A new event comes after the last one. -/
def eventIncreases (st : State φ) (sequence : Int) : Prop := ∀ last, st.lastEvent = some last → last < sequence

instance (st : State φ) (sequence : Int) : Decidable (st.eventIncreases sequence) := by
  unfold eventIncreases
  cases st.lastEvent with
  | none => exact .isTrue nofun
  | some last =>
    exact decidable_of_iff (last < sequence) ⟨fun h _ hl => Option.some.inj hl ▸ h, fun h => h _ rfl⟩

/-- `ENROLL_CONTINUE_INTENT`. -/
def continueIntent (st : State φ) (evidence : Value φ) : Check φ (State φ) := do
  reject (st.phase ≠ .active) "enrollment continue intent is out of order"
  exactFields evidence ["connection_generation", "event_sequence", "event_ordinal", "event_sha256"]
    "ENROLL_CONTINUE_INTENT"
  sameGeneration evidence st.baseline
  let sequence ← uint (evidence.get "event_sequence") "event sequence" 0xFFFFFFFFFFFFFFFF
  let ordinal ← uint (evidence.get "event_ordinal") "event ordinal" 0xFFFFFFFFFFFFFFFF
  reject (ordinal ≠ 70 ∧ ¬ (100 ≤ ordinal ∧ ordinal ≤ 355))
    "continue intent does not follow a continue event"
  reject (¬ st.eventIncreases sequence) "continue event sequence is not increasing"
  requireSha256 (evidence.get "event_sha256") "event_sha256"
  return { st with pendingEvent := some sequence, phase := .continueIntent }

/-- `ENROLL_CONTINUE_OBSERVED`; a record from before the return value was understood has two fields. -/
def continueObserved (st : State φ) (evidence : Value φ) : Check φ (State φ) := do
  reject (st.phase ≠ .continueIntent) "enrollment continue observation is out of order"
  let legacy := hasKeys ["event_sequence", "status"] evidence
  if ¬ legacy then
    exactFields evidence ["event_sequence", "status", "return_status_authoritative"]
      "ENROLL_CONTINUE_OBSERVED"
  let sequence ← uint (evidence.get "event_sequence") "event sequence" 0xFFFFFFFFFFFFFFFF
  let status ← statusValue (evidence.get "status") "continue status"
  reject (st.pendingEvent ≠ some sequence) "continue observation disagrees with its intent"
  if legacy then reject (status ≠ 0) "legacy continue observation has nonzero status"
  else
    reject (¬ isFalse (evidence.get "return_status_authoritative"))
      "continue return status was incorrectly treated as authoritative"
  return { st with lastEvent := st.pendingEvent, pendingEvent := none, phase := .active }

/-! ## Cancelling -/

/-- `ENROLL_CANCEL_INTENT`. -/
def cancelIntent (st : State φ) (evidence : Value φ) : Check φ (State φ) := do
  reject (st.phase ≠ .active) "enrollment cancel intent is out of order"
  exactFields evidence ["connection_generation", "reason"] "ENROLL_CANCEL_INTENT"
  sameGeneration evidence st.baseline
  reject (¬ (evidence.get "reason").isStr (py "caller-requested"))
    "unsupported enrollment cancel reason"
  return { st with phase := .cancelIntent }

/-- `ENROLL_CANCEL_DISPATCH_OBSERVED`. -/
def cancelDispatchObserved (st : State φ) (evidence : Value φ) : Check φ (State φ) := do
  reject (st.phase ≠ .cancelIntent) "cancel dispatch observation is out of order"
  exactFields evidence ["status"] "ENROLL_CANCEL_DISPATCH_OBSERVED"
  let status ← statusValue (evidence.get "status") "cancel status"
  reject (status ≠ 0) "accepted cancel dispatch status is not zero"
  return { st with phase := .cancelRequested }

/-! ## Terminal results -/

/-- `E2_TERMINAL_IDENTITY_OBSERVED`. -/
def terminalIdentityObserved (st : State φ) (evidence : Value φ) : Check φ (State φ) := do
  reject (st.phase ≠ .active ∧ st.phase ≠ .cancelRequested) "terminal identity is out of order"
  exactFields evidence
    ["connection_generation", "event_sequence", "envelope_type", "event_version", "user_id",
     "identity_uuid"]
    "E2_TERMINAL_IDENTITY_OBSERVED"
  sameGeneration evidence st.baseline
  let sequence ← uint (evidence.get "event_sequence") "event sequence" 0xFFFFFFFFFFFFFFFF
  reject (¬ st.eventIncreases sequence) "terminal event sequence is not increasing"
  reject (differ (evidence.get "envelope_type") (.int serviceEnrollmentResult)
      ∨ (differ (evidence.get "event_version") (.int 1)
        ∧ differ (evidence.get "event_version") (.int 2))
      ∨ differ (evidence.get "user_id") (st.baseline.get "apple_uid"))
    "terminal identity framing is invalid"
  requireUuid (evidence.get "identity_uuid") "identity_uuid"
  return { st with
    terminalIdentityUuid := evidence.get "identity_uuid", lastEvent := some sequence,
    phase := .terminalIdentity }

/-- `E2_TERMINAL_RESULT_WITNESSED`. -/
def terminalResultWitnessed (st : State φ) (evidence : Value φ) : Check φ (State φ) := do
  reject (st.phase ≠ .active ∧ st.phase ≠ .cancelRequested) "terminal result witness is out of order"
  exactFields evidence
    ["connection_generation", "event_sequence", "envelope_type", "event_version", "payload_length",
     "event_sha256", "embedded_user_matches"]
    "E2_TERMINAL_RESULT_WITNESSED"
  sameGeneration evidence st.baseline
  let sequence ← uint (evidence.get "event_sequence") "event sequence" 0xFFFFFFFFFFFFFFFF
  reject (¬ st.eventIncreases sequence) "terminal event sequence is not increasing"
  let version ← uint (evidence.get "event_version") "event version" 2
  let payloadLength ← uint (evidence.get "payload_length") "payload length" (1024 * 1024)
  reject (differ (evidence.get "envelope_type") (.int serviceEnrollmentResult)
      ∨ (version ≠ 1 ∧ version ≠ 2)
      ∨ ¬ (if version = 1 then payloadLength = 20 else version = 2 ∧ 40 ≤ payloadLength)
      ∨ ¬ isFalse (evidence.get "embedded_user_matches"))
    "terminal result witness framing is invalid"
  requireSha256 (evidence.get "event_sha256") "event_sha256"
  return { st with lastEvent := some sequence, phase := .terminalWitness }

/-- The fields that both identity read-backs hold to be true. -/
def readbackFields : List String :=
  ["single_identity_added", "host_unchanged", "sep_catacomb_advanced", "per_user_global_equal"]

/-- Every field of a list is `True`. -/
def requireTrue (evidence : Value φ) (fields : List String) (message : String → String) :
    Check φ Unit :=
  fields.forM fun field => reject (¬ (evidence.get field).isTrue) (message field)

/-- `E2_WITNESS_IDENTITY_READBACK_OBSERVED`. -/
def witnessIdentityReadbackObserved (st : State φ) (evidence : Value φ) : Check φ (State φ) := do
  reject (st.phase ≠ .terminalWitness) "witness identity read-back is out of order"
  exactFields evidence
    (["connection_generation", "user_id", "identity_uuid", "source", "mapping_generation"]
      ++ readbackFields)
    "E2_WITNESS_IDENTITY_READBACK_OBSERVED"
  sameGeneration evidence st.baseline
  requireUuid (evidence.get "identity_uuid") "identity_uuid"
  requireSha256 (evidence.get "mapping_generation") "mapping_generation"
  reject (differ (evidence.get "user_id") (st.baseline.get "apple_uid")
      ∨ ¬ (evidence.get "source").isStr (py "stable-readback")
      ∨ differ (evidence.get "mapping_generation") (st.baseline.get "mapping_generation"))
    "witness identity read-back binding is invalid"
  requireTrue evidence readbackFields fun field =>
    "witness identity read-back field " ++ field ++ " is not true"
  return { st with terminalIdentityUuid := evidence.get "identity_uuid", phase := .terminalIdentity }

/-- `ENROLL_TERMINAL_FAILURE_OBSERVED`. -/
def terminalFailureObserved (st : State φ) (evidence : Value φ) : Check φ (State φ) := do
  reject (st.phase ≠ .active ∧ st.phase ≠ .cancelRequested) "terminal failure is out of order"
  exactFields evidence ["connection_generation", "event_sequence", "envelope_type", "status"]
    "ENROLL_TERMINAL_FAILURE_OBSERVED"
  sameGeneration evidence st.baseline
  let sequence ← uint (evidence.get "event_sequence") "event sequence" 0xFFFFFFFFFFFFFFFF
  reject (¬ st.eventIncreases sequence) "terminal event sequence is not increasing"
  reject (differ (evidence.get "envelope_type") (.int serviceStatus)
      ∨ (differ (evidence.get "status") (.int 66) ∧ differ (evidence.get "status") (.int 67)
        ∧ differ (evidence.get "status") (.int 68)))
    "terminal failure status is invalid"
  return { st with
    lastEvent := some sequence, terminalStatus := evidence.get "status", phase := .terminalFailure }

/-- `E2_IDENTITY_READBACK_OBSERVED`. -/
def identityReadbackObserved (st : State φ) (evidence : Value φ) : Check φ (State φ) := do
  reject (st.phase ≠ .terminalFailure) "post-failure identity read-back is out of order"
  exactFields evidence ["connection_generation", "user_id", "identity_uuid", "source"]
    "E2_IDENTITY_READBACK_OBSERVED"
  sameGeneration evidence st.baseline
  reject (differ (evidence.get "user_id") (st.baseline.get "apple_uid")
      ∨ ¬ (evidence.get "source").isStr (py "stable-readback"))
    "post-failure identity read-back is invalid"
  requireUuid (evidence.get "identity_uuid") "identity_uuid"
  return { st with terminalIdentityUuid := evidence.get "identity_uuid", phase := .terminalIdentity }

/-- `E2_RECOVERY_IDENTITY_READBACK_OBSERVED`. -/
def recoveryIdentityReadbackObserved (st : State φ) (evidence : Value φ) : Check φ (State φ) := do
  reject (st.phase ≠ .outcomeUnknown ∨ ¬ st.outcomeUnknownStage.isStr (py "terminal"))
    "terminal identity recovery is out of order"
  exactFields evidence
    (["connection_generation", "user_id", "identity_uuid", "source", "mapping_generation"]
      ++ readbackFields)
    "E2_RECOVERY_IDENTITY_READBACK_OBSERVED"
  requireUuid (evidence.get "connection_generation") "recovery connection generation"
  requireUuid (evidence.get "identity_uuid") "identity_uuid"
  requireSha256 (evidence.get "mapping_generation") "mapping_generation"
  reject ((evidence.get "connection_generation").pyEq (st.baseline.get "connection_generation")
      ∨ differ (evidence.get "user_id") (st.baseline.get "apple_uid")
      ∨ ¬ (evidence.get "source").isStr (py "stable-readback")
      ∨ differ (evidence.get "mapping_generation") (st.baseline.get "mapping_generation"))
    "terminal identity recovery binding is invalid"
  requireTrue evidence readbackFields fun field =>
    "terminal identity recovery field " ++ field ++ " is not true"
  let persistence ← st.persistence.useRecoveryGeneration (evidence.get "connection_generation")
  return { st with
    terminalIdentityUuid := evidence.get "identity_uuid",
    persistenceConnectionGeneration := evidence.get "connection_generation",
    persistence, phase := .terminalIdentity }

/-! ## Persistence -/

/-- `failure_biolockout_persistence`. -/
def failureBiolockoutPersistence (st : State φ) : Bool :=
  isNone st.terminalIdentityUuid && !isNone st.terminalStatus

/-- `early_confirm_recovery`. -/
def earlyConfirmRecovery (st : State φ) (name : PyStr) : Bool :=
  name = py "CATACOMB_EARLY_CONFIRM_RECOVERED" ∧ st.phase = .outcomeUnknown
    ∧ ¬ isNone st.terminalIdentityUuid

/-- The phase behind a persistence milestone. -/
def phaseBehind (earlyConfirmRecovery : Bool) : PersistencePhase → EnrollmentPhase
  | .complete => .persistenceReady
  | .outcomeUnknown => .outcomeUnknown
  | _ => if earlyConfirmRecovery then .terminalIdentity else .persisting

/-- A milestone whose name begins with `CATACOMB_`. -/
def catacomb (st : State φ) (name : PyStr) (evidence : Value φ) : Check φ (State φ) := do
  reject ((isNone st.terminalIdentityUuid ∧ ¬ st.failureBiolockoutPersistence)
      ∨ (¬ st.earlyConfirmRecovery name
        ∧ st.phase ∉ [EnrollmentPhase.terminalIdentity, .terminalFailure, .persisting]))
    "Catacomb persistence has no terminal identity or failure"
  let persistence ← st.persistence.consume name evidence st.failureBiolockoutPersistence
  return { st with
    persistence, phase := phaseBehind (st.earlyConfirmRecovery name) persistence.phase,
    persistenceConnectionGeneration :=
      if st.earlyConfirmRecovery name then evidence.get "connection_generation"
      else st.persistenceConnectionGeneration }

/-! ## Reconciliation -/

/-- The fields of the three reconciliations. -/
def reconciliationFields : List String :=
  ["connection_generation", "snapshot_sha256", "identity_uuid", "identity_present",
   "host_sep_identity_equal", "catacomb_reconciled", "bindings_preserved", "mapping_generation",
   "capacity_used", "capacity_maximum", "master_enrollment_count"]

/-- The fields of them that are held to be true. -/
def reconciledFields : List String :=
  ["host_sep_identity_equal", "catacomb_reconciled", "bindings_preserved"]

/-- The three numbers of a reconciliation: capacity used, its maximum, enrollments of the master. -/
def reconciledCounts (evidence : Value φ) : Check φ (Int × Int) := do
  let used ← uint (evidence.get "capacity_used") "capacity used" 0xFFFFFFFF
  let maximum ← uint (evidence.get "capacity_maximum") "capacity maximum" 0xFFFFFFFF
  let _ ← uint (evidence.get "master_enrollment_count") "master enrollment count" 0xFFFFFFFF
  return (used, maximum)

/-- `baseline["capacity"]["used"]` and `["maximum"]`. -/
def capacityUsed (st : State φ) : Int := intOf ((st.baseline.get "capacity").get "used")
def capacityMaximum (st : State φ) : Int := intOf ((st.baseline.get "capacity").get "maximum")

/-- The reconciliation states the enrolled identity, … -/
def statesIdentity (st : State φ) (evidence : Value φ) : Prop :=
  ¬ differ (evidence.get "identity_uuid") st.terminalIdentityUuid = true ∧
    (evidence.get "identity_present").isTrue = true

/-- … or that there is none. -/
def statesNoIdentity (evidence : Value φ) : Prop :=
  isNone (evidence.get "identity_uuid") = true ∧ isFalse (evidence.get "identity_present") = true

instance (st : State φ) (evidence : Value φ) : Decidable (st.statesIdentity evidence) :=
  inferInstanceAs (Decidable (_ ∧ _))

instance (evidence : Value φ) : Decidable (statesNoIdentity evidence) :=
  inferInstanceAs (Decidable (_ ∧ _))

/-- `E3_RECONCILED`. -/
def reconciled (st : State φ) (evidence : Value φ) : Check φ (State φ) := do
  reject (st.phase ≠ .persistenceReady ∧ st.phase ≠ .terminalFailure)
    "E3 reconciliation is out of order"
  exactFields evidence reconciliationFields "E3_RECONCILED"
  reject (differ (evidence.get "connection_generation") st.persistenceConnectionGeneration)
    "E3 used another persistence connection generation"
  requireSha256 (evidence.get "snapshot_sha256") "snapshot_sha256"
  requireSha256 (evidence.get "mapping_generation") "mapping_generation"
  reject (differ (evidence.get "mapping_generation") (st.baseline.get "mapping_generation"))
    "mapping changed before E3"
  requireTrue evidence reconciledFields fun field => "E3 field " ++ field ++ " is not true"
  let (used, maximum) ← reconciledCounts evidence
  reject (maximum < used ∨ maximum ≠ st.capacityMaximum) "E3 capacity is inconsistent"
  if st.phase = .persistenceReady ∧ ¬ isNone st.terminalIdentityUuid then
    requireUuid (evidence.get "identity_uuid") "identity_uuid"
    reject (¬ st.statesIdentity evidence ∨ used ≠ st.capacityUsed + 1)
      "E3 identity or capacity does not match E2"
  else
    reject (¬ statesNoIdentity evidence ∨ used ≠ st.capacityUsed)
      "failure reconciliation observed an unexpected identity"
  return { st with
    reconciledSnapshotSha256 := evidence.get "snapshot_sha256", phase := .reconciled }

/-- What the two recoveries of an unknown outcome have in common; the numbers they state. -/
def recoveryCounts (st : State φ) (evidence : Value φ) (milestone : String) : Check φ (Int × Int) := do
  reject (st.phase ≠ .outcomeUnknown) "outcome-unknown recovery reconciliation is out of order"
  exactFields evidence reconciliationFields milestone
  requireUuid (evidence.get "connection_generation") "recovery connection generation"
  reject ((evidence.get "connection_generation").pyEq (st.baseline.get "connection_generation"))
    "outcome-unknown recovery did not use a fresh Bridge generation"
  requireSha256 (evidence.get "snapshot_sha256") "snapshot_sha256"
  requireSha256 (evidence.get "mapping_generation") "mapping_generation"
  reject (differ (evidence.get "mapping_generation") (st.baseline.get "mapping_generation"))
    "mapping changed before recovery reconciliation"
  requireTrue evidence reconciledFields fun field =>
    "recovery reconciliation field " ++ field ++ " is not true"
  reconciledCounts evidence

/-- `E3_RECOVERY_NO_CHANGE_RECONCILED`. -/
def recoveryNoChangeReconciled (st : State φ) (evidence : Value φ) : Check φ (State φ) := do
  let (used, maximum) ← st.recoveryCounts evidence "E3_RECOVERY_NO_CHANGE_RECONCILED"
  reject (¬ statesNoIdentity evidence ∨ used ≠ st.capacityUsed ∨ maximum ≠ st.capacityMaximum)
    "outcome-unknown recovery observed a persistent identity delta"
  return { st with
    reconciledSnapshotSha256 := evidence.get "snapshot_sha256", phase := .reconciled }

/-- The identities there are after an enrollment; without a SEP Catacomb the one of the baseline is
    replaced. -/
def capacityAfter (st : State φ) : Int :=
  if isFalse ((st.baseline.get "sep_catacomb").get "present") then st.capacityUsed
  else st.capacityUsed + 1

/-- `E3_PERSISTENCE_READBACK_RECOVERED`. -/
def persistenceReadbackRecovered (st : State φ) (evidence : Value φ) : Check φ (State φ) := do
  let (used, maximum) ← st.recoveryCounts evidence "E3_PERSISTENCE_READBACK_RECOVERED"
  reject (st.persistence.phase ≠ .outcomeUnknown
      ∨ ¬ st.persistence.outcomeUnknownStage.isStr (py "readback")
      ∨ ¬ st.persistence.outcomeUnknownHostCommitPossible.isTrue
      ∨ isNone st.terminalIdentityUuid
      ∨ ¬ st.statesIdentity evidence
      ∨ used ≠ st.capacityAfter ∨ maximum ≠ st.capacityMaximum)
    "persistence readback recovery evidence is inconsistent"
  return { st with
    reconciledSnapshotSha256 := evidence.get "snapshot_sha256", phase := .reconciled }

/-! ## After the reboot -/

/-- `E4_POST_REBOOT_VERIFIED`. -/
def postRebootVerified (st : State φ) (evidence : Value φ) : Check φ (State φ) := do
  reject (st.phase ≠ .reconciled ∨ isNone st.terminalIdentityUuid) "E4 verification is out of order"
  exactFields evidence
    ["linux_boot_uuid", "connection_generation", "bridge_boot_uuid", "protocol_version",
     "mapping_generation", "account_uuid", "bag_uuid", "identity_uuid", "snapshot_sha256",
     "double_collection_equal", "host_sep_identity_equal", "bindings_preserved",
     "keybag_runtime_revalidated"]
    "E4_POST_REBOOT_VERIFIED"
  requireAll requireUuid evidence
    ["linux_boot_uuid", "connection_generation", "account_uuid", "bag_uuid", "identity_uuid"]
  if ¬ isNone (evidence.get "bridge_boot_uuid") then
    requireUuid (evidence.get "bridge_boot_uuid") "bridge_boot_uuid"
  requireSha256 (evidence.get "mapping_generation") "mapping_generation"
  requireSha256 (evidence.get "snapshot_sha256") "snapshot_sha256"
  reject ((evidence.get "linux_boot_uuid").pyEq (st.baseline.get "linux_boot_uuid")
      ∨ (evidence.get "connection_generation").pyEq (st.baseline.get "connection_generation"))
    "E4 did not cross a boot and connection boundary"
  reject (differ (evidence.get "protocol_version") (st.baseline.get "protocol_version")
      ∨ differ (evidence.get "mapping_generation") (st.baseline.get "mapping_generation")
      ∨ differ (evidence.get "account_uuid") (st.baseline.get "account_uuid")
      ∨ differ (evidence.get "bag_uuid") (st.baseline.get "bag_uuid")
      ∨ differ (evidence.get "identity_uuid") st.terminalIdentityUuid
      ∨ differ (evidence.get "snapshot_sha256") st.reconciledSnapshotSha256)
    "E4 state differs from reconciled E3"
  requireTrue evidence
    ["double_collection_equal", "host_sep_identity_equal", "bindings_preserved",
     "keybag_runtime_revalidated"]
    fun field => "E4 field " ++ field ++ " is not true"
  return { st with
    postRebootLinuxBootUuid := evidence.get "linux_boot_uuid", phase := .postRebootVerified }

/-! ## Unknown outcomes -/

/-- The phases an unknown outcome may be recorded in. -/
def mutating : List EnrollmentPhase :=
  [.startIntent, .active, .continueIntent, .cancelIntent, .cancelRequested, .terminalWitness,
   .persisting]

/-- A text of a list. -/
def isOneOf (value : Value φ) (texts : List String) : Bool := texts.any fun text => value.isStr (py text)

/-- `ENROLL_OUTCOME_UNKNOWN`. -/
def outcomeUnknown (st : State φ) (evidence : Value φ) : Check φ (State φ) := do
  reject (st.phase ∉ mutating) "outcome-unknown marker is out of order"
  exactFields evidence ["connection_generation", "stage", "reason", "mutation_possible"]
    "ENROLL_OUTCOME_UNKNOWN"
  sameGeneration evidence st.baseline
  let stages := if st.phase = .persisting then
      ["local-prepare-discarded", "local-commit-rolled-forward"]
    else ["start", "active", "continue", "cancel", "terminal"]
  let reasons := if st.phase = .persisting then ["process-interrupted"]
    else ["transport-error", "connection-lost", "journal-error", "protocol-error"]
  reject (¬ isOneOf (evidence.get "stage") stages ∨ ¬ isOneOf (evidence.get "reason") reasons
      ∨ ¬ (evidence.get "mutation_possible").isTrue)
    "outcome-unknown evidence is invalid"
  return { st with outcomeUnknownStage := evidence.get "stage", phase := .outcomeUnknown }

/-! ## One record -/

/-- What a milestone does. -/
def apply (st : State φ) (evidence : Value φ) : Milestone → Check φ (State φ)
  | .abortedBeforeStart => st.abortedBeforeStart evidence
  | .startIntent => st.startIntent evidence
  | .startObserved => st.startObserved evidence
  | .startRejected => st.startRejected evidence
  | .continueIntent => st.continueIntent evidence
  | .continueObserved => st.continueObserved evidence
  | .cancelIntent => st.cancelIntent evidence
  | .cancelDispatchObserved => st.cancelDispatchObserved evidence
  | .terminalIdentityObserved => st.terminalIdentityObserved evidence
  | .terminalResultWitnessed => st.terminalResultWitnessed evidence
  | .witnessIdentityReadbackObserved => st.witnessIdentityReadbackObserved evidence
  | .terminalFailureObserved => st.terminalFailureObserved evidence
  | .identityReadbackObserved => st.identityReadbackObserved evidence
  | .recoveryIdentityReadbackObserved => st.recoveryIdentityReadbackObserved evidence
  | .catacomb name => st.catacomb name evidence
  | .reconciled => st.reconciled evidence
  | .recoveryNoChangeReconciled => st.recoveryNoChangeReconciled evidence
  | .persistenceReadbackRecovered => st.persistenceReadbackRecovered evidence
  | .postRebootVerified => st.postRebootVerified evidence
  | .outcomeUnknown => st.outcomeUnknown evidence

/-- The body of the loop. -/
def step (st : State φ) (record : Value φ) : Check φ (State φ) := do
  reject (differ (record.get "operation_id") st.operationId)
    "operation ID changed inside enrollment journal"
  match milestoneOf (record.get "milestone") with
  | some milestone => st.apply (record.get "evidence") milestone
  | none => unsupportedMilestone "enrollment" (record.get "milestone")

end State

/-! ## The journal -/

/-- What comes before the loop: the state that the first record gives. -/
def start (lower : PyStr → PyStr) (first : Value φ) : Check φ (State φ) := do
  reject (¬ (first.get "milestone").isStr (py "BASELINE_RECONCILED"))
    "enrollment journal has no reconciled baseline"
  let initial := first.get "evidence"
  exactFields initial ["operation_kind", "baseline"] "baseline"
  reject (¬ (initial.get "operation_kind").isStr (py "enroll")) "journal is not an enrollment operation"
  let baseline := initial.get "baseline"
  validateBaseline lower baseline
  reject (¬ (baseline.get "password_fallback_verified").isTrue)
    "enrollment password fallback is not verified"
  requireUuid (first.get "operation_id") "operation_id"
  return {
    operationId := first.get "operation_id", baseline,
    persistence := .start baseline .enrollment,
    persistenceConnectionGeneration := baseline.get "connection_generation" }

/-- `EnrollmentHistory`. -/
structure EnrollmentHistory (φ : Type) extends State φ where
  recordCount : Nat
  headHash : Value φ

/-- The first record and the loop. -/
def run (lower : PyStr → PyStr) : List (Value φ) → Check φ (State φ) :=
  journalRun "enrollment journal is empty" (start lower) State.step

/-- `validate_history`. -/
def validateHistory (lower : PyStr → PyStr) (records : List (Value φ)) :
    Check φ (EnrollmentHistory φ) :=
  sealHistory (run lower records) records fun st recordCount headHash => { st with recordCount, headHash }

/-- An accepted journal is a run of the loop that ends with a hash. -/
theorem validateHistory_ok {lower : PyStr → PyStr} {records : List (Value φ)}
    {history : EnrollmentHistory φ} (h : validateHistory lower records = .ok history) :
    run lower records = .ok history.toState := by
  obtain ⟨st, hrun, -, rfl⟩ := sealHistory_ok.mp h
  exact hrun

/-- A written journal is accepted when the loop accepts it. -/
theorem validateHistory_written {lower : PyStr → PyStr} {operationId : PyStr}
    {entries : List (Entry φ)} (hentries : entries ≠ []) {st : State φ}
    (h : run lower (written operationId entries) = .ok st) :
    ∃ history, validateHistory lower (written operationId entries) = .ok history ∧
      history.toState = st :=
  ⟨_, sealHistory_ok.mpr ⟨st, h, lastHash_written operationId hentries, rfl⟩, rfl⟩

end History

/-! ## Sample entries -/

/-- A start that the sensor accepted. -/
def startEntries : List (Entry Unit) :=
  [⟨py "ENROLL_START_INTENT", object
      [("apple_uid", .int 501), ("connection_generation", sampleUuid "1001"),
       ("protocol_version", .int 2), ("request_length", .int 68),
       ("request_sha256", sampleSha "00cc")]⟩,
   ⟨py "ENROLL_START_OBSERVED", object [("status", .int 0)]⟩]

/-- A result whose user does not match. -/
def witnessEntry : Entry Unit :=
  ⟨py "E2_TERMINAL_RESULT_WITNESSED", object
    [("connection_generation", sampleUuid "1001"), ("embedded_user_matches", .bool false),
     ("envelope_type", .int serviceEnrollmentResult), ("event_sequence", .int 1),
     ("event_sha256", sampleSha "00ee"), ("event_version", .int 1), ("payload_length", .int 20)]⟩

end T2TouchId.Journal.Enrollment
