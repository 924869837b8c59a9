/-
  The journal of one identity deletion (`src/t2_identity_delete_journal.py`).

  The sensor deletes first; the host then writes the Catacomb of the survivors.  An interrupted
  deletion is recovered on a fresh connection: as unchanged, as committed, or forward, by a second
  persistence that starts from the deletion the sensor has already done.

  1. **Data** — `DeletePhase`, and `State`: the local variables of `validate_history`.
  2. **Program** — one definition for each milestone, `State.step`, `validateHistory`.

  The journal keeps the connection and the boot of its reconciliation, and the proof after the reboot
  is compared with these.
-/
import T2TouchId.Journal.History
import T2TouchId.Journal.Persistence

namespace T2TouchId.Journal.Delete

open T2TouchId.Python T2TouchId.Python.Json

/-- `IdentityDeletePhase`. -/
inductive DeletePhase
  | baseline
  | intent
  | dispatchIntent
  | commandObserved
  | sepDeleted
  | aborted
  | persisting
  | persistenceReady
  | reconciled
  | postRebootVerified
  | outcomeUnknown
  deriving DecidableEq

inductive Milestone
  | intent
  | dispatchIntent
  | commandObserved
  | sepAbsenceObserved
  | notPerformed
  | outcomeUnknown
  | recoveryIntent
  | recoverySepAbsenceObserved
  /-- `DELETE_RECOVERY_RECONCILED_COMMITTED` or `…_NO_CHANGE`. -/
  | recoveryReconciled (committed : Bool)
  | catacomb (name : PyStr)
  | reconciled
  | postRebootVerified
  deriving DecidableEq

def milestones : List (String × Milestone) :=
  [("DELETE_INTENT", .intent),
   ("DELETE_DISPATCH_INTENT", .dispatchIntent),
   ("DELETE_COMMAND_OBSERVED", .commandObserved),
   ("DELETE_SEP_ABSENCE_OBSERVED", .sepAbsenceObserved),
   ("DELETE_NOT_PERFORMED", .notPerformed),
   ("DELETE_OUTCOME_UNKNOWN", .outcomeUnknown),
   ("DELETE_RECOVERY_INTENT", .recoveryIntent),
   ("DELETE_RECOVERY_SEP_ABSENCE_OBSERVED", .recoverySepAbsenceObserved),
   ("DELETE_RECOVERY_RECONCILED_NO_CHANGE", .recoveryReconciled false),
   ("DELETE_RECOVERY_RECONCILED_COMMITTED", .recoveryReconciled true),
   ("DELETE_RECONCILED", .reconciled),
   ("DELETE_POST_REBOOT_VERIFIED", .postRebootVerified)]

/-- The milestone of this name. -/
def milestoneNamed (name : PyStr) : Option Milestone :=
  match milestones.find? (fun m => py m.1 = name) with
  | some (_, m) => some m
  | none => if (py "CATACOMB_").isPrefixOf name then some (.catacomb name) else none

section History

variable {φ : Type}

/-- The milestone of a record, if it is one that the journal has. -/
def milestoneOf : Value φ → Option Milestone
  | .str name => milestoneNamed name
  | _ => none

/-- The local variables of `validate_history`. -/
structure State (φ : Type) where
  operationId : Value φ
  baseline : Value φ
  phase : DeletePhase := .baseline
  targetIdentityUuid : Value φ := .none
  targetEntity : Value φ := .none
  targetNameSha256 : Value φ := .none
  requestSha256 : Value φ := .none
  survivorSnapshotSha256 : Value φ := .none
  commandStatus : Value φ := .none
  persistence : Tracker φ
  reconciledSnapshotSha256 : Value φ := .none
  reconciledConnectionGeneration : Value φ := .none
  reconciledLinuxBootUuid : Value φ := .none
  outcomeUnknownStage : Value φ := .none
  recoveryAction : Value φ := .none
  recoveryLinuxBootUuid : Value φ := .none
  persistenceConnectionGeneration : Value φ

variable [JsonFloat φ]

/-- `baseline["identity_records"]`. -/
def identities (baseline : Value φ) : List (Value φ) := itemsOf (baseline.get "identity_records")

/-- `len(baseline["identity_records"]) - 1`. -/
def survivorCount (baseline : Value φ) : Int := (identities baseline).length - 1

/-- The identities of the baseline with the UUID and the entity of some evidence. -/
def targetMatches (baseline evidence : Value φ) : List (Value φ) :=
  (identities baseline).filter fun identity =>
    (identity.get "uuid").pyEq (evidence.get "identity_uuid")
      && (identity.get "entity").pyEq (evidence.get "entity")

/-- Is some field of a list not `True`? -/
def anyNotTrue (evidence : Value φ) (fields : List String) : Bool :=
  fields.any fun field => !(evidence.get field).isTrue

namespace State

/-- `DELETE_INTENT`. -/
def intent (st : State φ) (evidence : Value φ) : Check φ (State φ) := do
  reject (st.phase ≠ .baseline) "delete intent is out of order"
  exactFields evidence
    ["connection_generation", "user_id", "identity_uuid", "entity", "target_name_sha256",
     "request_sha256", "request_length", "survivor_snapshot_sha256", "survivor_count",
     "mapping_generation"]
    "DELETE_INTENT"
  requireUuid (evidence.get "identity_uuid") "identity UUID"
  requireAll requireSha256 evidence
    ["target_name_sha256", "request_sha256", "survivor_snapshot_sha256", "mapping_generation"]
  reject ((identities st.baseline).length ≤ 1
      ∨ (targetMatches st.baseline evidence).length ≠ 1
      ∨ differ (evidence.get "connection_generation") (st.baseline.get "connection_generation")
      ∨ differ (evidence.get "user_id") (st.baseline.get "apple_uid")
      ∨ differ (evidence.get "request_length") (.int 20)
      ∨ differ (evidence.get "survivor_count") (.int (survivorCount st.baseline))
      ∨ differ (evidence.get "mapping_generation") (st.baseline.get "mapping_generation"))
    "delete intent binding is invalid"
  return { st with
    targetIdentityUuid := evidence.get "identity_uuid", targetEntity := evidence.get "entity",
    targetNameSha256 := evidence.get "target_name_sha256",
    requestSha256 := evidence.get "request_sha256",
    survivorSnapshotSha256 := evidence.get "survivor_snapshot_sha256", phase := .intent }

/-- `DELETE_DISPATCH_INTENT`. -/
def dispatchIntent (st : State φ) (evidence : Value φ) : Check φ (State φ) := do
  reject (st.phase ≠ .intent) "delete dispatch intent is out of order"
  exactFields evidence
    ["connection_generation", "identity_uuid", "request_sha256", "command", "protocol_version"]
    "DELETE_DISPATCH_INTENT"
  reject (differ (evidence.get "connection_generation") (st.baseline.get "connection_generation")
      ∨ differ (evidence.get "identity_uuid") st.targetIdentityUuid
      ∨ differ (evidence.get "request_sha256") st.requestSha256
      ∨ differ (evidence.get "command") (.int 0x0D)
      ∨ differ (evidence.get "protocol_version") (.int 0))
    "delete dispatch binding is invalid"
  return { st with phase := .dispatchIntent }

/-- `DELETE_COMMAND_OBSERVED`. -/
def commandObserved (st : State φ) (evidence : Value φ) : Check φ (State φ) := do
  reject (st.phase ≠ .dispatchIntent) "delete command result is out of order"
  exactFields evidence
    ["connection_generation", "identity_uuid", "status", "output_length", "service_event_count"]
    "DELETE_COMMAND_OBSERVED"
  reject (differ (evidence.get "connection_generation") (st.baseline.get "connection_generation")
      ∨ differ (evidence.get "identity_uuid") st.targetIdentityUuid
      ∨ ¬ isIntIn (-(2 ^ 31)) (2 ^ 32 - 1) (evidence.get "status")
      ∨ differ (evidence.get "output_length") (.int 0)
      ∨ differ (evidence.get "service_event_count") (.int 0))
    "delete command result is invalid"
  return { st with commandStatus := evidence.get "status", phase := .commandObserved }

/-- `DELETE_SEP_ABSENCE_OBSERVED`. -/
def sepAbsenceObserved (st : State φ) (evidence : Value φ) : Check φ (State φ) := do
  reject (st.phase ≠ .commandObserved) "SEP deletion evidence is out of order"
  exactFields evidence
    ["connection_generation", "identity_uuid", "survivor_snapshot_sha256", "survivor_count",
     "stable_double_read", "per_user_global_equal", "target_absent"]
    "DELETE_SEP_ABSENCE_OBSERVED"
  requireSha256 (evidence.get "survivor_snapshot_sha256") "survivor snapshot"
  reject (differ (evidence.get "connection_generation") (st.baseline.get "connection_generation")
      ∨ differ (evidence.get "identity_uuid") st.targetIdentityUuid
      ∨ differ (evidence.get "survivor_snapshot_sha256") st.survivorSnapshotSha256
      ∨ differ (evidence.get "survivor_count") (.int (survivorCount st.baseline))
      ∨ anyNotTrue evidence ["stable_double_read", "per_user_global_equal", "target_absent"])
    "SEP deletion evidence is invalid"
  return { st with phase := .sepDeleted }

/-- `DELETE_NOT_PERFORMED`. -/
def notPerformed (st : State φ) (evidence : Value φ) : Check φ (State φ) := do
  reject (st.phase ≠ .commandObserved) "delete abort evidence is out of order"
  exactFields evidence
    ["connection_generation", "identity_uuid", "command_failed", "target_present",
     "baseline_identity_set_equal", "sep_catacomb_unchanged", "stable_double_read"]
    "DELETE_NOT_PERFORMED"
  reject (st.commandStatus.pyEq (.int 0)
      ∨ differ (evidence.get "connection_generation") (st.baseline.get "connection_generation")
      ∨ differ (evidence.get "identity_uuid") st.targetIdentityUuid
      ∨ anyNotTrue evidence
          ["command_failed", "target_present", "baseline_identity_set_equal",
           "sep_catacomb_unchanged", "stable_double_read"])
    "delete abort evidence is invalid"
  return { st with phase := .aborted }

/-- `DELETE_OUTCOME_UNKNOWN`. -/
def outcomeUnknown (st : State φ) (evidence : Value φ) : Check φ (State φ) := do
  reject (st.phase ∉ [DeletePhase.dispatchIntent, .commandObserved, .sepDeleted, .persisting,
      .persistenceReady])
    "delete ambiguity is out of order"
  exactFields evidence ["connection_generation", "stage", "reason", "mutation_possible"]
    "DELETE_OUTCOME_UNKNOWN"
  reject (differ (evidence.get "connection_generation") st.persistenceConnectionGeneration)
    "delete ambiguity evidence is invalid"
  let stageKnown ← isIn (evidence.get "stage")
    ["dispatch", "readback", "persistence", "reconciliation"]
  reject (¬ stageKnown) "delete ambiguity evidence is invalid"
  let reasonKnown ← isIn (evidence.get "reason")
    ["transport-error", "protocol-error", "inventory-error", "host-store-error", "readback-error",
     "process-interrupted"]
  reject (¬ reasonKnown ∨ ¬ (evidence.get "mutation_possible").isTrue)
    "delete ambiguity evidence is invalid"
  return { st with outcomeUnknownStage := evidence.get "stage", phase := .outcomeUnknown }

/-! ## Recovery -/

/-- The persistence runs on a connection of its own, that of a forward recovery. -/
def onRecoveryConnection (st : State φ) : Bool :=
  differ st.persistenceConnectionGeneration (st.baseline.get "connection_generation")

/-- A recovery may start once from these phases, … -/
def firstRecovery (st : State φ) : Prop :=
  isNone st.recoveryAction = true ∧ st.phase ∈ [DeletePhase.intent, .dispatchIntent, .commandObserved,
    .sepDeleted, .persisting, .persistenceReady, .outcomeUnknown]

/-- … and again behind a forward recovery that was interrupted. -/
def forwardRetry (st : State φ) : Prop :=
  isNone st.recoveryAction = false ∧ st.phase = .outcomeUnknown ∧ st.onRecoveryConnection = true

instance (st : State φ) : Decidable st.firstRecovery := inferInstanceAs (Decidable (_ ∧ _))
instance (st : State φ) : Decidable st.forwardRetry := inferInstanceAs (Decidable (_ ∧ _ ∧ _))

/-- The actions of a recovery. -/
def recoveryActions : List String :=
  ["prepare-discarded", "commit-rolled-forward", "no-local-transaction"]

/-- `DELETE_RECOVERY_INTENT`. -/
def recoveryIntent (st : State φ) (evidence : Value φ) : Check φ (State φ) := do
  reject (¬ (st.firstRecovery ∨ st.forwardRetry)) "delete recovery intent is out of order"
  exactFields evidence
    ["action", "linux_boot_uuid", "mapping_generation", "host_commit_possible", "mutation_possible"]
    "DELETE_RECOVERY_INTENT"
  let known ← isIn (evidence.get "action") recoveryActions
  reject (¬ known) "delete recovery action is invalid"
  requireSha256 (evidence.get "mapping_generation") "mapping generation"
  requireUuid (evidence.get "linux_boot_uuid") "recovery Linux boot UUID"
  reject (differ (evidence.get "mapping_generation") (st.baseline.get "mapping_generation")
      ∨ ¬ (evidence.get "mutation_possible").isTrue
      ∨ differ (evidence.get "host_commit_possible")
          (.bool (¬ (evidence.get "action").isStr (py "prepare-discarded"))))
    "delete recovery binding is invalid"
  return { st with
    recoveryAction := evidence.get "action",
    recoveryLinuxBootUuid := evidence.get "linux_boot_uuid", phase := .outcomeUnknown }

/-- `set(staged) == {user_name}`. -/
def userStaged (st : State φ) : Bool :=
  st.persistence.staged ≠ []
    ∧ st.persistence.staged.all (·.1 = userComponentName (st.baseline.get "apple_uid"))

/-- The comparison with the local archive in a forward recovery. -/
def archiveDiffers (st : State φ) (archiveState : Value φ) : Bool :=
  archiveState.isStr (py "baseline") ∧ st.recoveryAction.isStr (py "commit-rolled-forward")
    ∨ archiveState.isStr (py "survivors")
      ∧ (st.recoveryAction.isStr (py "prepare-discarded")
          ∧ ¬ (st.onRecoveryConnection ∧ st.userStaged)
        ∨ ¬ st.userStaged)

/-- `DELETE_RECOVERY_SEP_ABSENCE_OBSERVED`. -/
def recoverySepAbsenceObserved (st : State φ) (evidence : Value φ) : Check φ (State φ) := do
  reject (st.phase ≠ .outcomeUnknown ∨ isNone st.recoveryAction ∨ isNone st.targetIdentityUuid)
    "delete forward recovery is out of order"
  exactFields evidence
    ["connection_generation", "identity_uuid", "survivor_snapshot_sha256", "survivor_count",
     "mapping_generation", "target_absent", "local_archive_state", "host_archive_state",
     "sep_user_needs_save", "sep_master_clean", "stable_double_read", "recovery_action"]
    "DELETE_RECOVERY_SEP_ABSENCE_OBSERVED"
  requireAll requireUuid evidence ["connection_generation", "identity_uuid"]
  requireAll requireSha256 evidence ["survivor_snapshot_sha256", "mapping_generation"]
  let archiveState := evidence.get "local_archive_state"
  reject ((evidence.get "connection_generation").pyEq (st.baseline.get "connection_generation")
      ∨ differ (evidence.get "identity_uuid") st.targetIdentityUuid
      ∨ differ (evidence.get "survivor_snapshot_sha256") st.survivorSnapshotSha256
      ∨ differ (evidence.get "survivor_count") (.int (survivorCount st.baseline))
      ∨ differ (evidence.get "mapping_generation") (st.baseline.get "mapping_generation")
      ∨ differ (evidence.get "recovery_action") st.recoveryAction)
    "delete forward recovery evidence is invalid"
  let archiveKnown ← isIn archiveState ["baseline", "survivors"]
  reject (¬ archiveKnown
      ∨ differ (evidence.get "host_archive_state") archiveState
      ∨ st.archiveDiffers archiveState
      ∨ anyNotTrue evidence
          ["target_absent", "sep_user_needs_save", "sep_master_clean", "stable_double_read"])
    "delete forward recovery evidence is invalid"
  let persistence ← (Tracker.start st.baseline .identityMetadata).useRecoveryGeneration
    (evidence.get "connection_generation")
  return { st with
    persistence, persistenceConnectionGeneration := evidence.get "connection_generation",
    outcomeUnknownStage := .none, phase := .sepDeleted }

/-- `DELETE_RECOVERY_RECONCILED_NO_CHANGE` and `DELETE_RECOVERY_RECONCILED_COMMITTED`. -/
def recoveryReconciled (st : State φ) (committed : Bool) (evidence : Value φ) : Check φ (State φ) := do
  reject (st.phase ≠ .outcomeUnknown ∨ isNone st.recoveryAction ∨ isNone st.targetIdentityUuid)
    "delete recovery reconciliation is out of order"
  exactFields evidence
    ["connection_generation", "identity_uuid", "snapshot_sha256", "mapping_generation",
     "identity_count", "target_absent", "local_live_equal", "host_reconciled", "sep_clean",
     "recovery_action"]
    (if committed then "DELETE_RECOVERY_RECONCILED_COMMITTED"
      else "DELETE_RECOVERY_RECONCILED_NO_CHANGE")
  requireAll requireUuid evidence ["connection_generation", "identity_uuid"]
  requireAll requireSha256 evidence ["snapshot_sha256", "mapping_generation"]
  reject ((evidence.get "connection_generation").pyEq (st.baseline.get "connection_generation")
      ∨ differ (evidence.get "identity_uuid") st.targetIdentityUuid
      ∨ differ (evidence.get "mapping_generation") (st.baseline.get "mapping_generation")
      ∨ differ (evidence.get "identity_count")
          (.int ((identities st.baseline).length - if committed then 1 else 0))
      ∨ ¬ (if committed then (evidence.get "target_absent").isTrue
          else isFalse (evidence.get "target_absent"))
      ∨ anyNotTrue evidence ["local_live_equal", "host_reconciled", "sep_clean"]
      ∨ differ (evidence.get "recovery_action") st.recoveryAction
      ∨ (committed ∧ ¬ st.userStaged))
    "delete recovery reconciliation is invalid"
  reject (¬ committed ∧ st.recoveryAction.isStr (py "commit-rolled-forward"))
    "rolled-forward delete cannot reconcile as unchanged"
  return { st with
    reconciledSnapshotSha256 := if committed then evidence.get "snapshot_sha256" else .none,
    reconciledConnectionGeneration :=
      if committed then evidence.get "connection_generation" else .none,
    reconciledLinuxBootUuid := if committed then st.recoveryLinuxBootUuid else .none,
    phase := if committed then .reconciled else .aborted }

/-! ## Persistence and its proofs -/

/-- A milestone whose name begins with `CATACOMB_`. -/
def catacomb (st : State φ) (name : PyStr) (evidence : Value φ) : Check φ (State φ) := do
  reject (st.phase ≠ .sepDeleted ∧ st.phase ≠ .persisting) "delete persistence is out of order"
  let persistence ← st.persistence.consume name evidence false
  match persistence.phase with
  | .complete => return { st with persistence, phase := .persistenceReady }
  | .outcomeUnknown =>
    return { st with
      persistence, phase := .outcomeUnknown,
      outcomeUnknownStage := persistence.outcomeUnknownStage }
  | _ => return { st with persistence, phase := .persisting }

/-- `DELETE_RECONCILED`. -/
def reconciled (st : State φ) (evidence : Value φ) : Check φ (State φ) := do
  reject (st.phase ≠ .persistenceReady) "delete reconciliation is out of order"
  exactFields evidence
    ["connection_generation", "identity_uuid", "survivor_snapshot_sha256", "snapshot_sha256",
     "mapping_generation", "identity_count", "target_absent", "local_live_equal",
     "host_reconciled", "sep_clean"]
    "DELETE_RECONCILED"
  requireUuid (evidence.get "identity_uuid") "identity UUID"
  requireAll requireSha256 evidence
    ["survivor_snapshot_sha256", "snapshot_sha256", "mapping_generation"]
  reject (differ (evidence.get "connection_generation") st.persistenceConnectionGeneration
      ∨ differ (evidence.get "identity_uuid") st.targetIdentityUuid
      ∨ differ (evidence.get "survivor_snapshot_sha256") st.survivorSnapshotSha256
      ∨ differ (evidence.get "mapping_generation") (st.baseline.get "mapping_generation")
      ∨ differ (evidence.get "identity_count") (.int (survivorCount st.baseline))
      ∨ anyNotTrue evidence ["target_absent", "local_live_equal", "host_reconciled", "sep_clean"])
    "delete reconciliation is invalid"
  return { st with
    reconciledSnapshotSha256 := evidence.get "snapshot_sha256",
    reconciledConnectionGeneration := evidence.get "connection_generation",
    reconciledLinuxBootUuid :=
      if isNone st.recoveryLinuxBootUuid then st.baseline.get "linux_boot_uuid"
      else st.recoveryLinuxBootUuid,
    phase := .reconciled }

/-- `DELETE_POST_REBOOT_VERIFIED`. -/
def postRebootVerified (st : State φ) (evidence : Value φ) : Check φ (State φ) := do
  reject (st.phase ≠ .reconciled) "delete post-reboot proof is out of order"
  exactFields evidence
    ["linux_boot_uuid", "connection_generation", "identity_uuid", "survivor_snapshot_sha256",
     "snapshot_sha256", "mapping_generation", "target_absent", "local_live_equal", "sep_clean"]
    "DELETE_POST_REBOOT_VERIFIED"
  requireAll requireUuid evidence ["linux_boot_uuid", "connection_generation", "identity_uuid"]
  requireAll requireSha256 evidence
    ["survivor_snapshot_sha256", "snapshot_sha256", "mapping_generation"]
  reject ((evidence.get "linux_boot_uuid").pyEq st.reconciledLinuxBootUuid
      ∨ (evidence.get "connection_generation").pyEq st.reconciledConnectionGeneration
      ∨ differ (evidence.get "identity_uuid") st.targetIdentityUuid
      ∨ differ (evidence.get "survivor_snapshot_sha256") st.survivorSnapshotSha256
      ∨ differ (evidence.get "snapshot_sha256") st.reconciledSnapshotSha256
      ∨ differ (evidence.get "mapping_generation") (st.baseline.get "mapping_generation")
      ∨ anyNotTrue evidence ["target_absent", "local_live_equal", "sep_clean"])
    "delete post-reboot proof is invalid"
  return { st with phase := .postRebootVerified }

/-! ## One record -/

/-- What a milestone does. -/
def apply (st : State φ) (evidence : Value φ) : Milestone → Check φ (State φ)
  | .intent => st.intent evidence
  | .dispatchIntent => st.dispatchIntent evidence
  | .commandObserved => st.commandObserved evidence
  | .sepAbsenceObserved => st.sepAbsenceObserved evidence
  | .notPerformed => st.notPerformed evidence
  | .outcomeUnknown => st.outcomeUnknown evidence
  | .recoveryIntent => st.recoveryIntent evidence
  | .recoverySepAbsenceObserved => st.recoverySepAbsenceObserved evidence
  | .recoveryReconciled committed => st.recoveryReconciled committed evidence
  | .catacomb name => st.catacomb name evidence
  | .reconciled => st.reconciled evidence
  | .postRebootVerified => st.postRebootVerified evidence

/-- The body of the loop. -/
def step (st : State φ) (record : Value φ) : Check φ (State φ) := do
  reject (differ (record.get "operation_id") st.operationId)
    "operation ID changed inside delete journal"
  match milestoneOf (record.get "milestone") with
  | some milestone => st.apply (record.get "evidence") milestone
  | none => unsupportedMilestone "delete" (record.get "milestone")

end State

/-- The state that the first record gives. -/
def start (lower : PyStr → PyStr) (first : Value φ) : Check φ (State φ) := do
  reject (¬ (first.get "milestone").isStr (py "BASELINE_RECONCILED")) "delete journal has no baseline"
  let initial := first.get "evidence"
  exactFields initial ["operation_kind", "baseline"] "baseline"
  reject (¬ (initial.get "operation_kind").isStr (py "delete-one"))
    "journal is not a single identity deletion"
  let baseline := initial.get "baseline"
  validateBaseline lower baseline
  requireUuid (first.get "operation_id") "operation ID"
  return {
    operationId := first.get "operation_id", baseline,
    persistence := .start baseline .identityMetadata,
    persistenceConnectionGeneration := baseline.get "connection_generation" }

/-- The first record and the loop. -/
def run (lower : PyStr → PyStr) : List (Value φ) → Check φ (State φ) :=
  journalRun "delete journal is empty" (start lower) State.step

/-- `IdentityDeleteHistory`. -/
structure History (φ : Type) extends State φ where
  recordCount : Nat
  headHash : Value φ

/-- `validate_history`. -/
def validateHistory (lower : PyStr → PyStr) (records : List (Value φ)) : Check φ (History φ) :=
  sealHistory (run lower records) records fun st recordCount headHash => { st with recordCount, headHash }

end History

end T2TouchId.Journal.Delete
