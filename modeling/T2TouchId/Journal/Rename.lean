/-
  The journal of one identity rename (`src/t2_identity_rename_journal.py`).

  A rename changes one label in the user Catacomb, so its persistence has a single component.  A
  transaction that was interrupted is taken up by a recovery, which states what it did with the local
  files and reconciles as committed or as unchanged.

  1. **Data** — `RenamePhase`, `RenameState`: the local variables of `validate_history`.
  2. **Program** — one definition for each milestone, `RenameState.step`, `validateRename`.
-/
import T2TouchId.Journal.History
import T2TouchId.Journal.Persistence

namespace T2TouchId.Journal.Rename

open T2TouchId.Python T2TouchId.Python.Json

inductive RenamePhase
  | baseline
  | intent
  | aborted
  | persisting
  | persistenceReady
  | reconciled
  | postRebootVerified
  | outcomeUnknown
  deriving DecidableEq

inductive Milestone
  | intent
  | abortedBeforePersistence
  | catacomb (name : PyStr)
  | reconciled
  | recoveryIntent
  /-- `RENAME_RECOVERY_RECONCILED_COMMITTED` or `…_NO_CHANGE`. -/
  | recoveryReconciled (committed : Bool)
  | postRebootVerified
  deriving DecidableEq

def milestones : List (String × Milestone) :=
  [("RENAME_INTENT", .intent),
   ("RENAME_ABORTED_BEFORE_PERSISTENCE", .abortedBeforePersistence),
   ("RENAME_RECONCILED", .reconciled),
   ("RENAME_RECOVERY_INTENT", .recoveryIntent),
   ("RENAME_RECOVERY_RECONCILED_NO_CHANGE", .recoveryReconciled false),
   ("RENAME_RECOVERY_RECONCILED_COMMITTED", .recoveryReconciled true),
   ("RENAME_POST_REBOOT_VERIFIED", .postRebootVerified)]

/-- The milestone of this name. -/
def milestoneNamed (name : PyStr) : Option Milestone :=
  match milestones.find? (fun m => py m.1 = name) with
  | some (_, m) => some m
  | none => if (py "CATACOMB_").isPrefixOf name then some (.catacomb name) else none

section History

variable {φ : Type}

/-- The milestone of a record, if it is one that the journal has. -/
def milestoneOf : Value φ → Option Milestone
  | .str name => milestoneNamed name
  | _ => none

/-- The local variables of `validate_history`. -/
structure State (φ : Type) where
  operationId : Value φ
  baseline : Value φ
  phase : RenamePhase := .baseline
  targetIdentityUuid : Value φ := .none
  targetEntity : Value φ := .none
  previousNameSha256 : Value φ := .none
  newNameSha256 : Value φ := .none
  persistence : Tracker φ
  reconciledSnapshotSha256 : Value φ := .none
  recoveryAction : Value φ := .none

variable [JsonFloat φ]

/-- The identities of the baseline with the UUID and the entity of some evidence. -/
def targetMatches (baseline evidence : Value φ) : List (Value φ) :=
  (itemsOf (baseline.get "identity_records")).filter fun identity =>
    (identity.get "uuid").pyEq (evidence.get "identity_uuid")
      && (identity.get "entity").pyEq (evidence.get "entity")

/-- `len(baseline["identity_records"])`. -/
def identityCount (baseline : Value φ) : Int := (itemsOf (baseline.get "identity_records")).length

namespace State

/-- `RENAME_INTENT`. -/
def intent (st : State φ) (evidence : Value φ) : Check φ (State φ) := do
  reject (st.phase ≠ .baseline) "rename intent is out of order"
  exactFields evidence
    ["connection_generation", "user_id", "identity_uuid", "entity", "previous_name_sha256",
     "new_name_sha256", "mapping_generation"]
    "RENAME_INTENT"
  requireUuid (evidence.get "identity_uuid") "identity UUID"
  requireSha256 (evidence.get "previous_name_sha256") "previous name SHA-256"
  requireSha256 (evidence.get "new_name_sha256") "new name SHA-256"
  requireSha256 (evidence.get "mapping_generation") "mapping generation"
  reject (differ (evidence.get "connection_generation") (st.baseline.get "connection_generation")
      ∨ differ (evidence.get "user_id") (st.baseline.get "apple_uid")
      ∨ differ (evidence.get "mapping_generation") (st.baseline.get "mapping_generation")
      ∨ ¬ isCount (evidence.get "entity")
      ∨ (evidence.get "previous_name_sha256").pyEq (evidence.get "new_name_sha256"))
    "rename intent binding is invalid"
  reject ((targetMatches st.baseline evidence).length ≠ 1) "rename target is not in the baseline"
  return { st with
    targetIdentityUuid := evidence.get "identity_uuid", targetEntity := evidence.get "entity",
    previousNameSha256 := evidence.get "previous_name_sha256",
    newNameSha256 := evidence.get "new_name_sha256", phase := .intent }

/-- `RENAME_ABORTED_BEFORE_PERSISTENCE`. -/
def abortedBeforePersistence (st : State φ) (evidence : Value φ) : Check φ (State φ) := do
  reject (st.phase ≠ .persisting ∨ st.persistence.phase ≠ .componentReady)
    "rename abort is out of order"
  exactFields evidence ["reason", "mutation_possible"] "RENAME_ABORTED_BEFORE_PERSISTENCE"
  reject (¬ (evidence.get "reason").isStr (py "host-store-unavailable")
      ∨ ¬ isFalse (evidence.get "mutation_possible"))
    "rename abort evidence is invalid"
  return { st with phase := .aborted }

/-- A milestone whose name begins with `CATACOMB_`. -/
def catacomb (st : State φ) (name : PyStr) (evidence : Value φ) : Check φ (State φ) := do
  reject (st.phase ≠ .intent ∧ st.phase ≠ .persisting) "rename persistence is out of order"
  let persistence ← st.persistence.consume name evidence false
  return { st with
    persistence,
    phase := match persistence.phase with
      | .complete => .persistenceReady
      | .outcomeUnknown => .outcomeUnknown
      | _ => .persisting }

/-- `RENAME_RECONCILED`. -/
def reconciled (st : State φ) (evidence : Value φ) : Check φ (State φ) := do
  reject (st.phase ≠ .persistenceReady) "rename reconciliation is out of order"
  exactFields evidence
    ["connection_generation", "identity_uuid", "new_name_sha256", "snapshot_sha256",
     "mapping_generation", "identity_count", "identity_set_unchanged", "label_updated",
     "local_live_equal"]
    "RENAME_RECONCILED"
  requireUuid (evidence.get "identity_uuid") "identity UUID"
  requireAll requireSha256 evidence ["new_name_sha256", "snapshot_sha256", "mapping_generation"]
  reject (differ (evidence.get "connection_generation") (st.baseline.get "connection_generation")
      ∨ differ (evidence.get "identity_uuid") st.targetIdentityUuid
      ∨ differ (evidence.get "new_name_sha256") st.newNameSha256
      ∨ differ (evidence.get "mapping_generation") (st.baseline.get "mapping_generation")
      ∨ differ (evidence.get "identity_count") (.int (identityCount st.baseline))
      ∨ ¬ (evidence.get "identity_set_unchanged").isTrue
      ∨ ¬ (evidence.get "label_updated").isTrue
      ∨ ¬ (evidence.get "local_live_equal").isTrue)
    "rename reconciliation is invalid"
  return { st with
    reconciledSnapshotSha256 := evidence.get "snapshot_sha256", phase := .reconciled }

/-- The actions of a recovery. -/
def recoveryActions : List String :=
  ["prepare-discarded", "commit-rolled-forward", "no-local-transaction"]

/-- `RENAME_RECOVERY_INTENT`. -/
def recoveryIntent (st : State φ) (evidence : Value φ) : Check φ (State φ) := do
  reject (st.phase ∉ [RenamePhase.intent, .persisting, .persistenceReady, .outcomeUnknown]
      ∨ ¬ isNone st.recoveryAction)
    "rename recovery intent is out of order"
  exactFields evidence ["action", "mapping_generation", "host_commit_possible", "mutation_possible"]
    "RENAME_RECOVERY_INTENT"
  let known ← isIn (evidence.get "action") recoveryActions
  reject (¬ known) "rename recovery action is invalid"
  requireSha256 (evidence.get "mapping_generation") "mapping generation"
  reject (differ (evidence.get "mapping_generation") (st.baseline.get "mapping_generation")
      ∨ ¬ (evidence.get "mutation_possible").isTrue
      ∨ differ (evidence.get "host_commit_possible")
          (.bool (¬ (evidence.get "action").isStr (py "prepare-discarded"))))
    "rename recovery binding is invalid"
  return { st with recoveryAction := evidence.get "action", phase := .outcomeUnknown }

/-- `RENAME_RECOVERY_RECONCILED_NO_CHANGE` and `RENAME_RECOVERY_RECONCILED_COMMITTED`. -/
def recoveryReconciled (st : State φ) (committed : Bool) (evidence : Value φ) : Check φ (State φ) := do
  reject (st.phase ≠ .outcomeUnknown ∨ isNone st.recoveryAction ∨ isNone st.targetIdentityUuid)
    "rename recovery reconciliation is out of order"
  exactFields evidence
    ["connection_generation", "identity_uuid", "name_sha256", "snapshot_sha256",
     "mapping_generation", "identity_count", "identity_set_unchanged", "local_live_equal",
     "sep_clean", "host_reconciled", "recovery_action"]
    (if committed then "RENAME_RECOVERY_RECONCILED_COMMITTED"
      else "RENAME_RECOVERY_RECONCILED_NO_CHANGE")
  requireAll requireUuid evidence ["connection_generation", "identity_uuid"]
  requireAll requireSha256 evidence ["name_sha256", "snapshot_sha256", "mapping_generation"]
  reject ((evidence.get "connection_generation").pyEq (st.baseline.get "connection_generation")
      ∨ differ (evidence.get "identity_uuid") st.targetIdentityUuid
      ∨ differ (evidence.get "name_sha256")
          (if committed then st.newNameSha256 else st.previousNameSha256)
      ∨ differ (evidence.get "mapping_generation") (st.baseline.get "mapping_generation")
      ∨ differ (evidence.get "identity_count") (.int (identityCount st.baseline))
      ∨ ¬ (evidence.get "identity_set_unchanged").isTrue
      ∨ ¬ (evidence.get "local_live_equal").isTrue
      ∨ ¬ (evidence.get "sep_clean").isTrue
      ∨ ¬ (evidence.get "host_reconciled").isTrue
      ∨ differ (evidence.get "recovery_action") st.recoveryAction)
    "rename recovery reconciliation is invalid"
  reject (¬ committed ∧ st.recoveryAction.isStr (py "commit-rolled-forward"))
    "rolled-forward rename cannot reconcile as unchanged"
  return { st with
    reconciledSnapshotSha256 := evidence.get "snapshot_sha256",
    phase := if committed then .reconciled else .aborted }

/-- `RENAME_POST_REBOOT_VERIFIED`. -/
def postRebootVerified (st : State φ) (evidence : Value φ) : Check φ (State φ) := do
  reject (st.phase ≠ .reconciled) "rename post-reboot proof is out of order"
  exactFields evidence
    ["linux_boot_uuid", "connection_generation", "identity_uuid", "new_name_sha256",
     "snapshot_sha256", "mapping_generation", "identity_set_unchanged", "label_preserved",
     "local_live_equal"]
    "RENAME_POST_REBOOT_VERIFIED"
  requireAll requireUuid evidence ["linux_boot_uuid", "connection_generation", "identity_uuid"]
  requireAll requireSha256 evidence ["new_name_sha256", "snapshot_sha256", "mapping_generation"]
  reject ((evidence.get "linux_boot_uuid").pyEq (st.baseline.get "linux_boot_uuid")
      ∨ (evidence.get "connection_generation").pyEq (st.baseline.get "connection_generation")
      ∨ differ (evidence.get "identity_uuid") st.targetIdentityUuid
      ∨ differ (evidence.get "new_name_sha256") st.newNameSha256
      ∨ differ (evidence.get "snapshot_sha256") st.reconciledSnapshotSha256
      ∨ differ (evidence.get "mapping_generation") (st.baseline.get "mapping_generation")
      ∨ ¬ (evidence.get "identity_set_unchanged").isTrue
      ∨ ¬ (evidence.get "label_preserved").isTrue
      ∨ ¬ (evidence.get "local_live_equal").isTrue)
    "rename post-reboot proof is invalid"
  return { st with phase := .postRebootVerified }

/-- What a milestone does. -/
def apply (st : State φ) (evidence : Value φ) : Milestone → Check φ (State φ)
  | .intent => st.intent evidence
  | .abortedBeforePersistence => st.abortedBeforePersistence evidence
  | .catacomb name => st.catacomb name evidence
  | .reconciled => st.reconciled evidence
  | .recoveryIntent => st.recoveryIntent evidence
  | .recoveryReconciled committed => st.recoveryReconciled committed evidence
  | .postRebootVerified => st.postRebootVerified evidence

/-- The body of the loop. -/
def step (st : State φ) (record : Value φ) : Check φ (State φ) := do
  reject (differ (record.get "operation_id") st.operationId)
    "operation ID changed inside rename journal"
  match milestoneOf (record.get "milestone") with
  | some milestone => st.apply (record.get "evidence") milestone
  | none => unsupportedMilestone "rename" (record.get "milestone")

end State

/-- The state that the first record gives. -/
def start (lower : PyStr → PyStr) (first : Value φ) : Check φ (State φ) := do
  reject (¬ (first.get "milestone").isStr (py "BASELINE_RECONCILED")) "rename journal has no baseline"
  let initial := first.get "evidence"
  exactFields initial ["operation_kind", "baseline"] "baseline"
  reject (¬ (initial.get "operation_kind").isStr (py "rename")) "journal is not an identity rename"
  let baseline := initial.get "baseline"
  validateBaseline lower baseline
  requireUuid (first.get "operation_id") "operation ID"
  return {
    operationId := first.get "operation_id", baseline,
    persistence := .start baseline .identityMetadata }

/-- The first record and the loop. -/
def run (lower : PyStr → PyStr) : List (Value φ) → Check φ (State φ) :=
  journalRun "rename journal is empty" (start lower) State.step

/-- `IdentityRenameHistory`. -/
structure History (φ : Type) extends State φ where
  recordCount : Nat
  headHash : Value φ

/-- `validate_history`. -/
def validateHistory (lower : PyStr → PyStr) (records : List (Value φ)) : Check φ (History φ) :=
  sealHistory (run lower records) records fun st recordCount headHash => { st with recordCount, headHash }

end History

end T2TouchId.Journal.Rename
