/-
  The journal of a deletion that happened elsewhere (`validate_history` of
  `src/t2_external_delete_reconcile.py`).

  The sensor has lost an identity that the local archive still has; the host writes the archive of the
  survivors and no command goes to the sensor.

  1. **Data** — `ExternalPhase`, and `State`: the local variables of `validate_history`.
  2. **Program** — the baseline, one definition for each milestone, `State.step`, `validateHistory`.
-/
import T2TouchId.Journal.History

namespace T2TouchId.Journal.ExternalDelete

open T2TouchId.Python T2TouchId.Python.Json

/-- `ExternalDeletePhase`. -/
inductive ExternalPhase
  | baseline
  | intent
  | hostCommitted
  | reconciled
  | aborted
  | outcomeUnknown
  deriving DecidableEq

inductive Milestone
  | intent
  | hostCommitted
  | reconciled
  | aborted
  | outcomeUnknown
  deriving DecidableEq

def milestones : List (String × Milestone) :=
  [("EXTERNAL_DELETE_INTENT", .intent),
   ("EXTERNAL_DELETE_HOST_COMMITTED", .hostCommitted),
   ("EXTERNAL_DELETE_RECONCILED", .reconciled),
   ("EXTERNAL_DELETE_ABORTED", .aborted),
   ("EXTERNAL_DELETE_OUTCOME_UNKNOWN", .outcomeUnknown)]

section History

variable {φ : Type}

def milestoneOf (value : Value φ) : Option Milestone :=
  (milestones.find? fun m => value.isStr (py m.1)).map Prod.snd

/-- The local variables of `validate_history`. -/
structure State (φ : Type) where
  operationId : Value φ
  baseline : Value φ
  phase : ExternalPhase := .baseline
  intent : Value φ := .none

variable [JsonFloat φ]

/-- `_exact` of this module. -/
def exact (value : Value φ) (keys : List String) (field : String) : Check φ Unit :=
  reject (¬ hasKeys keys value) (field ++ " evidence is invalid")

namespace State

/-- `EXTERNAL_DELETE_INTENT`. -/
def intentRecorded (st : State φ) (evidence : Value φ) : Check φ (State φ) := do
  reject (st.phase ≠ .baseline) "external-delete intent is out of order"
  exact evidence
    ["connection_generation", "staged_user_sha256", "survivor_snapshot_sha256", "identity_count",
     "sep_mutation_performed"]
    "intent"
  requireSha256 (evidence.get "staged_user_sha256") "staged user component"
  reject (differ (evidence.get "connection_generation") (st.baseline.get "connection_generation")
      ∨ differ (evidence.get "survivor_snapshot_sha256") (st.baseline.get "survivor_snapshot_sha256")
      ∨ differ (evidence.get "identity_count") (st.baseline.get "live_identity_count")
      ∨ ¬ isFalse (evidence.get "sep_mutation_performed"))
    "external-delete intent binding changed"
  return { st with intent := evidence, phase := .intent }

/-- `EXTERNAL_DELETE_HOST_COMMITTED`. -/
def hostCommitted (st : State φ) (evidence : Value φ) : Check φ (State φ) := do
  reject (st.phase ≠ .intent ∧ st.phase ≠ .outcomeUnknown) "external-delete commit is out of order"
  exact evidence ["staged_user_sha256", "recovery_action", "sep_mutation_performed"] "host commit"
  reject (isNone st.intent
      ∨ differ (evidence.get "staged_user_sha256") (st.intent.get "staged_user_sha256"))
    "external-delete commit binding changed"
  let known ← isIn (evidence.get "recovery_action") ["direct", "commit-rolled-forward"]
  reject (¬ known ∨ ¬ isFalse (evidence.get "sep_mutation_performed"))
    "external-delete commit binding changed"
  return { st with phase := .hostCommitted }

/-- `EXTERNAL_DELETE_RECONCILED`. -/
def reconciled (st : State φ) (evidence : Value φ) : Check φ (State φ) := do
  reject (st.phase ≠ .hostCommitted) "external-delete proof is out of order"
  exact evidence
    ["connection_generation", "staged_user_sha256", "identity_count", "local_live_equal",
     "target_absent", "other_components_unchanged", "sep_mutation_performed"]
    "reconciliation"
  requireUuid (evidence.get "connection_generation") "reconciled connection generation"
  reject (isNone st.intent
      ∨ differ (evidence.get "staged_user_sha256") (st.intent.get "staged_user_sha256")
      ∨ differ (evidence.get "identity_count") (st.baseline.get "live_identity_count")
      ∨ ¬ (evidence.get "local_live_equal").isTrue
      ∨ ¬ (evidence.get "target_absent").isTrue
      ∨ ¬ (evidence.get "other_components_unchanged").isTrue
      ∨ ¬ isFalse (evidence.get "sep_mutation_performed"))
    "external-delete proof is incomplete"
  return { st with phase := .reconciled }

/-- `EXTERNAL_DELETE_ABORTED`. -/
def aborted (st : State φ) (evidence : Value φ) : Check φ (State φ) := do
  reject (st.phase ∉ [ExternalPhase.baseline, .intent, .outcomeUnknown])
    "external-delete abort is out of order"
  exact evidence ["reason", "host_commit_possible", "sep_mutation_performed"] "abort"
  let known ← isIn (evidence.get "reason") ["before-host-stage", "prepare-discarded"]
  reject (¬ known ∨ ¬ isFalse (evidence.get "host_commit_possible")
      ∨ ¬ isFalse (evidence.get "sep_mutation_performed"))
    "external-delete abort is invalid"
  return { st with phase := .aborted }

/-- `EXTERNAL_DELETE_OUTCOME_UNKNOWN`. -/
def outcomeUnknown (st : State φ) (evidence : Value φ) : Check φ (State φ) := do
  reject (st.phase ≠ .intent ∧ st.phase ≠ .hostCommitted) "external-delete ambiguity is out of order"
  exact evidence ["stage", "host_commit_possible", "sep_mutation_performed"] "ambiguity"
  let known ← isIn (evidence.get "stage") ["host-stage", "host-commit", "readback"]
  reject (¬ known ∨ ¬ isBool (evidence.get "host_commit_possible")
      ∨ ¬ isFalse (evidence.get "sep_mutation_performed"))
    "external-delete ambiguity is invalid"
  return { st with phase := .outcomeUnknown }

/-- What a milestone does. -/
def apply (st : State φ) (evidence : Value φ) : Milestone → Check φ (State φ)
  | .intent => st.intentRecorded evidence
  | .hostCommitted => st.hostCommitted evidence
  | .reconciled => st.reconciled evidence
  | .aborted => st.aborted evidence
  | .outcomeUnknown => st.outcomeUnknown evidence

/-- The body of the loop. -/
def step (st : State φ) (record : Value φ) : Check φ (State φ) := do
  reject (differ (record.get "operation_id") st.operationId) "external-delete operation ID changed"
  match milestoneOf (record.get "milestone") with
  | some milestone => st.apply (record.get "evidence") milestone
  | none => fail (py "unknown external-delete milestone")

end State

/-! ## The journal -/

/-- The hashes of a baseline. -/
def baselineHashes : List String :=
  ["mapping_generation", "stale_name_sha256", "local_snapshot_sha256", "live_snapshot_sha256",
   "survivor_snapshot_sha256", "before_user_sha256", "other_components_snapshot_sha256",
   "backup_snapshot_sha256"]

/-- Its UUIDs. -/
def baselineUuids : List String :=
  ["linux_boot_uuid", "connection_generation", "stale_identity_uuid", "backup_reference"]

/-- The state that the first record gives. -/
def start (first : Value φ) : Check φ (State φ) := do
  reject (¬ (first.get "milestone").isStr (py "EXTERNAL_DELETE_BASELINE"))
    "external-delete journal has no baseline"
  requireUuid (first.get "operation_id") "operation ID"
  let baseline := first.get "evidence"
  exact baseline
    (["operation_kind", "apple_uid", "local_identity_count", "live_identity_count", "stale_entity",
      "sep_mutation_performed"] ++ baselineUuids ++ baselineHashes)
    "baseline"
  requireAll requireUuid baseline baselineUuids
  requireAll requireSha256 baseline baselineHashes
  reject (¬ (baseline.get "operation_kind").isStr (py "reconcile-external-delete")
      ∨ ¬ isInt (baseline.get "apple_uid")
      ∨ ¬ isInt (baseline.get "stale_entity")
      ∨ ¬ isInt (baseline.get "local_identity_count")
      ∨ ¬ isInt (baseline.get "live_identity_count")
      ∨ intOf (baseline.get "live_identity_count") < 1
      ∨ intOf (baseline.get "local_identity_count") ≠ intOf (baseline.get "live_identity_count") + 1
      ∨ ¬ isFalse (baseline.get "sep_mutation_performed"))
    "external-delete baseline binding is invalid"
  return { operationId := first.get "operation_id", baseline }

/-- The first record and the loop. -/
def run : List (Value φ) → Check φ (State φ) :=
  journalRun "external-delete journal has no baseline" start State.step

/-- `ExternalDeleteHistory`. -/
structure History (φ : Type) extends State φ where
  recordCount : Nat
  headHash : Value φ

/-- `validate_history`. -/
def validateHistory (records : List (Value φ)) : Check φ (History φ) :=
  takeHistory (run records) records fun st recordCount headHash => { st with recordCount, headHash }

end History

end T2TouchId.Journal.ExternalDelete
