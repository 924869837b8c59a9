/-
  The journal that writes an already dirty user Catacomb (`src/t2_catacomb_sync_journal.py`).

  Six phases, and one recovery at most, which starts a second intent on a fresh connection or states
  that the sensor is clean.

  1. **Data** — `SyncPhase`, and `State`: the local variables of `validate_history`.
  2. **Program** — one definition for each branch of the loop, `State.step`, `validateHistory`.

  A milestone in a phase that does not take it and a milestone the journal does not have are the same
  error.  Some fields are tested in the order of a set; here it is that of the list.
-/
import T2TouchId.Journal.History

namespace T2TouchId.Journal.CatacombSync

open T2TouchId.Python T2TouchId.Python.Json

/-- `CatacombSyncPhase`. -/
inductive SyncPhase
  | baseline
  | intent
  | hostCommitted
  | reconciled
  | aborted
  | outcomeUnknown
  deriving DecidableEq

inductive Milestone
  | intent
  | hostCommitted
  | reconciled
  | abortedBeforeDispatch
  | outcomeUnknown
  | recoveryIntent
  | recoveredClean
  deriving DecidableEq

def milestones : List (String × Milestone) :=
  [("CATACOMB_SYNC_INTENT", .intent),
   ("CATACOMB_SYNC_HOST_COMMITTED", .hostCommitted),
   ("CATACOMB_SYNC_RECONCILED", .reconciled),
   ("CATACOMB_SYNC_ABORTED_BEFORE_DISPATCH", .abortedBeforeDispatch),
   ("CATACOMB_SYNC_OUTCOME_UNKNOWN", .outcomeUnknown),
   ("CATACOMB_SYNC_RECOVERY_INTENT", .recoveryIntent),
   ("CATACOMB_SYNC_RECOVERED_CLEAN", .recoveredClean)]

section History

variable {φ : Type}

def milestoneOf (value : Value φ) : Option Milestone :=
  (milestones.find? fun m => value.isStr (py m.1)).map Prod.snd

/-- The local variables of `validate_history`. -/
structure State (φ : Type) where
  operationId : Value φ
  baseline : Value φ
  phase : SyncPhase := .baseline
  intent : Value φ := .none
  hostCommit : Value φ := .none
  recoveryAttempted : Bool := false
  /-- `index` of the next record. -/
  index : Nat := 1

variable [JsonFloat φ]

namespace State

/-- The last branch of the loop. -/
def outOfOrder (st : State φ) : String :=
  "Catacomb sync milestone is out of order at record " ++ toString st.index

def intentFields : List String :=
  ["mapping_generation", "descriptor_snapshot_sha256", "initial_component_snapshot_sha256",
   "initial_sep_catacomb_hash", "identity_snapshot_sha256"]

/-- `CATACOMB_SYNC_INTENT`. -/
def intentRecorded (st : State φ) (item : Value φ) : Check φ (State φ) := do
  reject (st.phase ≠ .baseline) st.outOfOrder
  reject (¬ hasKeys ("connection_generation" :: intentFields) item) "Catacomb sync intent is invalid"
  requireUuid (item.get "connection_generation") "connection generation"
  requireAll requireSha256 item intentFields
  reject (differ (item.get "connection_generation") (st.baseline.get "connection_generation")
      ∨ differ (item.get "mapping_generation") (st.baseline.get "mapping_generation"))
    "Catacomb sync intent binding changed"
  return { st with intent := item, phase := .intent }

/-- `CATACOMB_SYNC_HOST_COMMITTED`. -/
def hostCommitted (st : State φ) (item : Value φ) : Check φ (State φ) := do
  reject (st.phase ≠ .intent) st.outOfOrder
  reject (¬ hasKeys ["connection_generation", "final_component_snapshot_sha256",
      "secure_blob_snapshot_sha256"] item)
    "Catacomb sync host commit is invalid"
  requireUuid (item.get "connection_generation") "connection generation"
  requireSha256 (item.get "final_component_snapshot_sha256") "final component snapshot"
  requireSha256 (item.get "secure_blob_snapshot_sha256") "secure blob snapshot"
  reject (isNone st.intent
      ∨ differ (item.get "connection_generation") (st.intent.get "connection_generation"))
    "Catacomb sync host binding changed"
  return { st with hostCommit := item, phase := .hostCommitted }

/-- The hashes of a proof. -/
def proofHashes : List String :=
  ["final_component_snapshot_sha256", "final_sep_catacomb_hash", "identity_snapshot_sha256"]

/-- The fields of a proof. -/
def proofFields : List String :=
  "connection_generation" :: proofHashes ++ ["sep_clean", "local_live_equal"]

/-- A proof states what the host committed, and the identities of the intent. -/
def bindingChanged (st : State φ) (item : Value φ) : Bool :=
  differ (item.get "final_component_snapshot_sha256")
      (st.hostCommit.get "final_component_snapshot_sha256")
    || differ (item.get "identity_snapshot_sha256") (st.intent.get "identity_snapshot_sha256")

/-- `CATACOMB_SYNC_RECONCILED`. -/
def reconciled (st : State φ) (item : Value φ) : Check φ (State φ) := do
  reject (st.phase ≠ .hostCommitted) st.outOfOrder
  reject (¬ hasKeys proofFields item) "Catacomb sync proof is invalid"
  requireUuid (item.get "connection_generation") "connection generation"
  requireAll requireSha256 item proofHashes
  reject (¬ (item.get "sep_clean").isTrue ∨ ¬ (item.get "local_live_equal").isTrue)
    "Catacomb sync proof is incomplete"
  reject (isNone st.intent ∨ isNone st.hostCommit
      ∨ differ (item.get "connection_generation") (st.intent.get "connection_generation")
      ∨ st.bindingChanged item)
    "Catacomb sync proof binding changed"
  return { st with phase := .reconciled }

/-- `CATACOMB_SYNC_ABORTED_BEFORE_DISPATCH`. -/
def abortedBeforeDispatch (st : State φ) (item : Value φ) : Check φ (State φ) := do
  reject (st.phase ≠ .intent) st.outOfOrder
  reject (¬ hasKeys ["reason", "mutation_possible"] item
      ∨ ¬ isText (item.get "reason")
      ∨ ¬ isFalse (item.get "mutation_possible"))
    "Catacomb sync abort is invalid"
  return { st with phase := .aborted }

/-- `CATACOMB_SYNC_OUTCOME_UNKNOWN`. -/
def outcomeUnknown (st : State φ) (item : Value φ) : Check φ (State φ) := do
  reject (st.phase ≠ .intent ∧ st.phase ≠ .hostCommitted) st.outOfOrder
  reject (¬ hasKeys ["stage", "reason", "mutation_possible", "host_commit_possible"] item
      ∨ ¬ isText (item.get "stage")
      ∨ ¬ isText (item.get "reason")
      ∨ ¬ (item.get "mutation_possible").isTrue
      ∨ ¬ isBool (item.get "host_commit_possible"))
    "Catacomb sync ambiguity is invalid"
  return { st with phase := .outcomeUnknown }

/-! ## Recovery -/

/-- A recovery uses neither the connection of the baseline nor that of the intent. -/
def connectionReused (st : State φ) (item : Value φ) : Bool :=
  (item.get "connection_generation").pyEq (st.baseline.get "connection_generation")
    || (item.get "connection_generation").pyEq (st.intent.get "connection_generation")

/-- `CATACOMB_SYNC_RECOVERY_INTENT`. -/
def recoveryIntent (st : State φ) (item : Value φ) : Check φ (State φ) := do
  reject (st.phase ≠ .outcomeUnknown ∨ st.recoveryAttempted) st.outOfOrder
  let hashes := intentFields ++ ["prior_final_component_snapshot_sha256"]
  reject (¬ hasKeys ("connection_generation" :: hashes) item)
    "Catacomb sync recovery intent is invalid"
  requireUuid (item.get "connection_generation") "connection generation"
  requireAll requireSha256 item hashes
  reject (isNone st.intent ∨ isNone st.hostCommit
      ∨ st.connectionReused item
      ∨ differ (item.get "mapping_generation") (st.baseline.get "mapping_generation")
      ∨ differ (item.get "identity_snapshot_sha256") (st.intent.get "identity_snapshot_sha256")
      ∨ differ (item.get "initial_component_snapshot_sha256")
          (st.hostCommit.get "final_component_snapshot_sha256")
      ∨ differ (item.get "prior_final_component_snapshot_sha256")
          (st.hostCommit.get "final_component_snapshot_sha256"))
    "Catacomb sync recovery binding changed"
  return { st with
    intent := item, hostCommit := .none, recoveryAttempted := true, phase := .intent }

/-- `CATACOMB_SYNC_RECOVERED_CLEAN`. -/
def recoveredClean (st : State φ) (item : Value φ) : Check φ (State φ) := do
  reject (st.phase ≠ .outcomeUnknown ∨ st.recoveryAttempted) st.outOfOrder
  reject (¬ hasKeys proofFields item) "Catacomb sync clean recovery is invalid"
  requireUuid (item.get "connection_generation") "connection generation"
  requireAll requireSha256 item proofHashes
  reject (isNone st.intent ∨ isNone st.hostCommit
      ∨ st.connectionReused item
      ∨ st.bindingChanged item
      ∨ ¬ (item.get "sep_clean").isTrue
      ∨ ¬ (item.get "local_live_equal").isTrue)
    "Catacomb sync clean recovery binding changed"
  return { st with recoveryAttempted := true, phase := .reconciled }

/-! ## One record -/

/-- What a milestone does. -/
def apply (st : State φ) (item : Value φ) : Milestone → Check φ (State φ)
  | .intent => st.intentRecorded item
  | .hostCommitted => st.hostCommitted item
  | .reconciled => st.reconciled item
  | .abortedBeforeDispatch => st.abortedBeforeDispatch item
  | .outcomeUnknown => st.outcomeUnknown item
  | .recoveryIntent => st.recoveryIntent item
  | .recoveredClean => st.recoveredClean item

/-- The body of the loop. -/
def step (st : State φ) (record : Value φ) : Check φ (State φ) := do
  let item := record.get "evidence"
  reject (¬ item.isDict) "Catacomb sync evidence is invalid"
  match milestoneOf (record.get "milestone") with
  | some milestone => do
    let next ← st.apply item milestone
    return { next with index := st.index + 1 }
  | none => fail (py st.outOfOrder)

end State

/-- The state that the first record gives. -/
def start (lower : PyStr → PyStr) (first : Value φ) : Check φ (State φ) := do
  let evidence := first.get "evidence"
  reject (¬ (first.get "milestone").isStr (py "BASELINE_RECONCILED")
      ∨ ¬ hasKeys ["operation_kind", "baseline"] evidence
      ∨ ¬ (evidence.get "operation_kind").isStr (py "sync-user-catacomb"))
    "Catacomb sync baseline is invalid"
  rewrap "Catacomb sync baseline is invalid" (validateBaseline lower (evidence.get "baseline"))
  return { operationId := first.get "operation_id", baseline := evidence.get "baseline" }

/-- The first record and the loop. -/
def run (lower : PyStr → PyStr) : List (Value φ) → Check φ (State φ) :=
  journalRun "Catacomb sync journal is empty" (start lower) State.step

/-- `CatacombSyncHistory`. -/
structure History (φ : Type) extends State φ where
  recordCount : Nat
  headHash : Value φ

/-- `validate_history`. -/
def validateHistory (lower : PyStr → PyStr) (records : List (Value φ)) : Check φ (History φ) :=
  takeHistory (run lower records) records fun st recordCount headHash => { st with recordCount, headHash }

end History

end T2TouchId.Journal.CatacombSync
