/-
  The Catacomb persistence milestones inside a typed journal
  (`src/t2_enrollment_persistence_journal.py`).

  A plan names one or two batches of components.  Each component is prepared, captured, staged, and
  confirmed; the last of a batch commits the batch.  `PersistenceTracker` follows the milestones.

  1. **Data** — `PersistencePhase`, and `Tracker` with the fields of `PersistenceTracker`.
  2. **Program** — one definition for each milestone, and `consume`, which dispatches on its name.
-/
import T2TouchId.Journal.Evidence

namespace T2TouchId.Journal

open T2TouchId.Python T2TouchId.Python.Json

inductive PersistencePhase
  | notStarted
  | componentReady
  | prepareIntent
  | prepared
  | completeIntent
  | secureBlobCaptured
  | hostStaged
  | confirmIntent
  | batchCommitIntent
  | batchCommitted
  | finalConfirmIntent
  | attestationReady
  | complete
  | outcomeUnknown
  deriving DecidableEq

inductive PlanKind
  | enrollment
  | identityMetadata
  deriving DecidableEq

/-- A component of a plan: its name and the digest of its descriptor. -/
abbrev Component := PyStr × PyStr

/-- `PersistenceTracker`. -/
structure Tracker (φ : Type) where
  baseline : Value φ
  planKind : PlanKind
  connectionGeneration : Value φ
  phase : PersistencePhase := .notStarted
  batches : List (List Component) := []
  batchIndex : Option Nat := none
  componentIndex : Option Nat := none
  capturedBlobSha256 : Value φ := .none
  expectedBlobLength : Int := 0
  /-- Names and digests of the staged files. -/
  staged : List (PyStr × Value φ) := []
  reconciliationSnapshotSha256 : Value φ := .none
  sepHostGenerationEqual : Bool := false
  independentArchiveReadback : Bool := false
  outcomeUnknownStage : Value φ := .none
  outcomeUnknownHostCommitPossible : Value φ := .none

namespace Tracker

variable {φ : Type} [JsonFloat φ]

/-- `PersistenceTracker(baseline, plan_kind=...)`. -/
def start (baseline : Value φ) (planKind : PlanKind) : Tracker φ where
  baseline := baseline
  planKind := planKind
  connectionGeneration := baseline.get "connection_generation"

def lookup (name : PyStr) (staged : List (PyStr × Value φ)) : Option (Value φ) :=
  (staged.find? (·.1 = name)).map Prod.snd

/-- `_same_generation`. -/
def sameGeneration (t : Tracker φ) (evidence : Value φ) : Check φ Unit :=
  reject (differ (evidence.get "connection_generation") t.connectionGeneration)
    "Catacomb persistence connection generation changed"

/-- `use_recovery_generation`. -/
def useRecoveryGeneration (t : Tracker φ) (connectionGeneration : Value φ) : Check φ (Tracker φ) := do
  reject (t.phase ≠ .notStarted) "Catacomb persistence generation changed after planning"
  requireUuid connectionGeneration "recovery connection generation"
  reject (connectionGeneration.pyEq (t.baseline.get "connection_generation"))
    "Catacomb recovery did not use a fresh connection generation"
  return { t with connectionGeneration }

/-- `_current`. -/
def current (t : Tracker φ) : Check φ Component :=
  match t.batchIndex, t.componentIndex with
  | some i, some j =>
    match (t.batches.getD i [])[j]? with
    | some component => .ok component
    | none => .error .keyError
  | _, _ => fail (py "Catacomb persistence has no component")

/-- The number of components in the current batch. -/
def batchLength (t : Tracker φ) : Nat := (t.batches.getD (t.batchIndex.getD 0) []).length

/-- The comparison at the end of `_component_evidence`. -/
def targetsCurrent (t : Tracker φ) (evidence : Value φ) : Check φ Component := do
  let batchIndex ← uint (evidence.get "batch_index") "batch index" 0xFFFFFFFF
  let componentIndex ← uint (evidence.get "component_index") "component index" 0xFFFFFFFF
  let (name, descriptor) ← t.current
  reject (t.batchIndex.map Int.ofNat ≠ some batchIndex
      ∨ t.componentIndex.map Int.ofNat ≠ some componentIndex
      ∨ ¬ (evidence.get "name").isStr name
      ∨ ¬ (evidence.get "descriptor_sha256").isStr descriptor)
    "Catacomb persistence milestone targets another component"
  return (name, descriptor)

/-- `_component_evidence`. -/
def componentEvidence (t : Tracker φ) (value : Value φ) (milestone : String) (extra : List String) :
    Check φ Unit := do
  exactFields value
    (["connection_generation", "batch_index", "component_index", "name", "descriptor_sha256"] ++ extra)
    milestone
  t.sameGeneration value
  let _ ← t.targetsCurrent value

/-- The canonical list of a batch's staged files, which its snapshot is the hash of. -/
def stagedModel (t : Tracker φ) : Check φ (Value φ) := do
  let rows ← (t.batches.getD (t.batchIndex.getD 0) []).mapM fun (name, _) =>
    match lookup name t.staged with
    | some digest =>
      (.ok (.ofItems [("name", .str name), ("final_file_sha256", digest)]) : Check φ (Value φ))
    | none => .error .keyError
  return .list rows

/-- `journal.canonical` and `hashlib.sha256` of a value, inside a typed module. -/
def snapshotHash (value : Value φ) : Check φ PyStr :=
  match dumps value with
  | some text => .ok (py (sha256 (asciiBytes text)).hex)
  | none => fail (py "journal value is not canonical JSON")

/-- `_batch_evidence`. -/
def batchEvidence (t : Tracker φ) (value : Value φ) (milestone : String) : Check φ Unit := do
  exactFields value ["connection_generation", "batch_index", "staged_snapshot_sha256"] milestone
  t.sameGeneration value
  let batchIndex ← uint (value.get "batch_index") "batch index" 0xFFFFFFFF
  reject (t.batchIndex.map Int.ofNat ≠ some batchIndex) "Catacomb batch index changed"
  requireSha256 (value.get "staged_snapshot_sha256") "staged snapshot SHA-256"
  let expected ← snapshotHash (← t.stagedModel)
  reject (¬ (value.get "staged_snapshot_sha256").isStr expected)
    "staged Catacomb snapshot digest differs"

/-- `_status_zero`. -/
def statusZero (value : Value φ) (field : String) : Check φ Unit :=
  reject (¬ isIntIn 0 0 value) (field ++ " is not successful")

/-! ## The plan -/

/-- The names and digests seen so far, in a batch of the plan. -/
structure Seen where
  names : List PyStr := []
  descriptors : List PyStr := []

/-- One component of a planned batch. -/
def planComponent (t : Tracker φ) (batchIndex componentIndex : Nat) (seen : Seen)
    (component : Value φ) : Check φ (Component × Seen) := do
  exactFields component ["name", "descriptor_sha256"]
    ("CATACOMB_PERSISTENCE_PLAN batch " ++ toString batchIndex ++ " component "
      ++ toString componentIndex)
  let known ← isComponentName (t.baseline.get "apple_uid") (component.get "name")
  let name := strOf (component.get "name")
  reject (¬ known ∨ name ∈ seen.names) "Catacomb persistence component is invalid or duplicated"
  requireSha256 (component.get "descriptor_sha256") "component descriptor SHA-256"
  let descriptor := strOf (component.get "descriptor_sha256")
  reject (descriptor ∈ seen.descriptors) "Catacomb component descriptor digest is duplicated"
  return ((name, descriptor), ⟨name :: seen.names, descriptor :: seen.descriptors⟩)

def planBatch (t : Tracker φ) (batchIndex : Nat) :
    Nat → Seen → List (Value φ) → Check φ (List Component × Seen)
  | _, seen, [] => .ok ([], seen)
  | componentIndex, seen, component :: rest => do
    let (component, seen) ← t.planComponent batchIndex componentIndex seen component
    let (components, seen) ← t.planBatch batchIndex (componentIndex + 1) seen rest
    return (component :: components, seen)

def planBatches (t : Tracker φ) :
    Nat → Seen → List (Value φ) → Check φ (List (List Component) × Seen)
  | _, seen, [] => .ok ([], seen)
  | batchIndex, seen, batch :: rest => do
    reject (¬ isList batch ∨ itemsOf batch = []) "Catacomb persistence batch is empty"
    let (components, seen) ← t.planBatch batchIndex 0 seen (itemsOf batch)
    reject (components.any (fun c => c.1 = py "master.cat")
        ∧ (components.getLast?.map Prod.fst) ≠ some (py "master.cat"))
      "master Catacomb must be last in its batch"
    let (batches, seen) ← t.planBatches (batchIndex + 1) seen rest
    return (components :: batches, seen)

/-- The names of a batch of the plan. -/
def batchNames (batches : List (List Component)) (index : Nat) : List PyStr :=
  (batches.getD index []).map Prod.fst

/-- The tests of the whole plan, by its kind. -/
def checkPlan (t : Tracker φ) (allowBiolockoutOnly : Bool) (batches : List (List Component))
    (seen : Seen) : Check φ Unit := do
  let userName := userComponentName (t.baseline.get "apple_uid")
  if t.planKind = .identityMetadata then
    reject (allowBiolockoutOnly ∨ batches.length ≠ 1 ∨ batchNames batches 0 ≠ [userName])
      "identity metadata persistence must contain only its user Catacomb"
  else if allowBiolockoutOnly then
    reject (batches.length ≠ 1 ∨ batchNames batches 0 ≠ [py "biolockout.cat"])
      "failure persistence must contain only bio-lockout Catacomb"
  else
    reject (¬ (py "master.cat" ∈ seen.names ∧ userName ∈ seen.names))
      "enrollment persistence omits the user or master Catacomb"
  reject (t.planKind = .enrollment ∧ ¬ allowBiolockoutOnly
      ∧ batchNames batches 0 ≠ [userName, py "master.cat"])
    "primary enrollment batch must contain user then master Catacomb"
  reject (t.planKind = .enrollment ∧ ¬ allowBiolockoutOnly
      ∧ (batches.length ≠ 2 ∨ batchNames batches 1 ≠ [py "biolockout.cat"]))
    "secondary enrollment batch must contain only bio-lockout Catacomb"

/-- `_plan`. -/
def plan (t : Tracker φ) (allowBiolockoutOnly : Bool) (value : Value φ) : Check φ (Tracker φ) := do
  reject (t.phase ≠ .notStarted) "Catacomb persistence plan is out of order"
  exactFields value ["connection_generation", "batches"] "CATACOMB_PERSISTENCE_PLAN"
  t.sameGeneration value
  let batches := value.get "batches"
  reject (¬ isList batches ∨ (itemsOf batches).length < 1 ∨ 2 < (itemsOf batches).length)
    "Catacomb persistence batches are invalid"
  let (normalized, seen) ← t.planBatches 0 {} (itemsOf batches)
  t.checkPlan allowBiolockoutOnly normalized seen
  return { t with
    batches := normalized, batchIndex := some 0, componentIndex := some 0, phase := .componentReady }

/-! ## The milestones -/

/-- `CATACOMB_EARLY_CONFIRM_RECOVERED`. -/
def earlyConfirmRecovered (t : Tracker φ) (value : Value φ) : Check φ (Tracker φ) := do
  reject (t.phase ≠ .outcomeUnknown ∨ ¬ t.outcomeUnknownStage.isStr (py "early-confirm")
      ∨ ¬ isFalse t.outcomeUnknownHostCommitPossible)
    "early Catacomb confirm recovery is out of order"
  exactFields value
    ["connection_generation", "batch_index", "component_index", "name", "descriptor_sha256",
     "sep_component_clean", "staged_file_sha256"]
    "CATACOMB_EARLY_CONFIRM_RECOVERED"
  requireUuid (value.get "connection_generation") "recovery connection generation"
  reject ((value.get "connection_generation").pyEq t.connectionGeneration)
    "early confirm recovery reused the ambiguous connection"
  let batchIndex ← uint (value.get "batch_index") "batch index" 0xFFFFFFFF
  let componentIndex ← uint (value.get "component_index") "component index" 0xFFFFFFFF
  let (name, descriptor) ← t.current
  reject (t.batchIndex.map Int.ofNat ≠ some batchIndex
      ∨ t.componentIndex.map Int.ofNat ≠ some componentIndex
      ∨ ¬ (value.get "name").isStr name
      ∨ ¬ (value.get "descriptor_sha256").isStr descriptor
      ∨ ¬ (value.get "sep_component_clean").isTrue
      ∨ differ (value.get "staged_file_sha256") ((lookup name t.staged).getD .none))
    "early confirm recovery evidence differs from the journal"
  let next := t.componentIndex.getD 0 + 1
  reject (t.batchLength ≤ next) "early confirm recovery has no following component"
  return { t with
    connectionGeneration := value.get "connection_generation", componentIndex := some next,
    capturedBlobSha256 := .none, expectedBlobLength := 0, outcomeUnknownStage := .none,
    outcomeUnknownHostCommitPossible := .none, phase := .componentReady }

/-- `CATACOMB_PERSISTENCE_OUTCOME_UNKNOWN`. -/
def persistenceOutcomeUnknown (t : Tracker φ) (value : Value φ) : Check φ (Tracker φ) := do
  reject (t.phase ∈ [PersistencePhase.componentReady, .complete, .outcomeUnknown])
    "persistence outcome-unknown marker is out of order"
  t.componentEvidence value "CATACOMB_PERSISTENCE_OUTCOME_UNKNOWN"
    ["stage", "reason", "sep_mutation_possible", "host_commit_possible"]
  let stageKnown ← isIn (value.get "stage")
    ["prepare", "complete", "encode", "host-stage", "early-confirm", "host-commit", "final-confirm",
     "readback"]
  reject (¬ stageKnown) "persistence failure stage is invalid"
  let reasonKnown ← isIn (value.get "reason")
    ["transport-error", "journal-error", "codec-error", "host-store-error", "readback-error"]
  reject (¬ reasonKnown) "persistence failure reason is invalid"
  reject (¬ (value.get "sep_mutation_possible").isTrue ∨ ¬ isBool (value.get "host_commit_possible"))
    "persistence ambiguity flags are invalid"
  return { t with
    outcomeUnknownStage := value.get "stage",
    outcomeUnknownHostCommitPossible := value.get "host_commit_possible", phase := .outcomeUnknown }

/-- `CATACOMB_PREPARE_INTENT`. -/
def prepareIntent (t : Tracker φ) (value : Value φ) : Check φ (Tracker φ) := do
  reject (t.phase ≠ .componentReady) "Catacomb prepare intent is out of order"
  t.componentEvidence value "CATACOMB_PREPARE_INTENT" []
  return { t with phase := .prepareIntent }

/-- `CATACOMB_PREPARED`. -/
def prepared (t : Tracker φ) (value : Value φ) : Check φ (Tracker φ) := do
  reject (t.phase ≠ .prepareIntent) "Catacomb prepare observation is out of order"
  t.componentEvidence value "CATACOMB_PREPARED" ["status", "expected_blob_length"]
  statusZero (value.get "status") "Catacomb prepare status"
  let expectedBlobLength ←
    uint (value.get "expected_blob_length") "expected secure blob length" (1024 * 1024)
  reject (expectedBlobLength = 0) "expected secure blob is empty"
  return { t with expectedBlobLength, phase := .prepared }

/-- `CATACOMB_COMPLETE_INTENT`. -/
def completeIntent (t : Tracker φ) (value : Value φ) : Check φ (Tracker φ) := do
  reject (t.phase ≠ .prepared) "Catacomb complete intent is out of order"
  t.componentEvidence value "CATACOMB_COMPLETE_INTENT" []
  return { t with phase := .completeIntent }

/-- `CATACOMB_SECURE_BLOB_CAPTURED`. -/
def secureBlobCaptured (t : Tracker φ) (value : Value φ) : Check φ (Tracker φ) := do
  reject (t.phase ≠ .completeIntent) "secure blob observation is out of order"
  t.componentEvidence value "CATACOMB_SECURE_BLOB_CAPTURED"
    ["status", "blob_length", "secure_blob_sha256"]
  statusZero (value.get "status") "Catacomb complete status"
  let blobLength ← uint (value.get "blob_length") "secure blob length" (1024 * 1024)
  let (name, _) ← t.current
  reject (¬ (if name = py "biolockout.cat" then 16 ≤ blobLength ∧ blobLength ≤ t.expectedBlobLength
      else blobLength = t.expectedBlobLength))
    "secure blob length differs from prepare response"
  requireSha256 (value.get "secure_blob_sha256") "secure blob SHA-256"
  return { t with capturedBlobSha256 := value.get "secure_blob_sha256", phase := .secureBlobCaptured }

/-- `self._staged[name] = digest`. -/
def stage (name : PyStr) (digest : Value φ) (staged : List (PyStr × Value φ)) :
    List (PyStr × Value φ) :=
  (name, digest) :: staged.filter (·.1 ≠ name)

/-- `CATACOMB_HOST_STAGED`. -/
def hostStaged (t : Tracker φ) (value : Value φ) : Check φ (Tracker φ) := do
  reject (t.phase ≠ .secureBlobCaptured) "host staging observation is out of order"
  t.componentEvidence value "CATACOMB_HOST_STAGED" ["secure_blob_sha256", "final_file_sha256"]
  requireSha256 (value.get "secure_blob_sha256") "secure blob SHA-256"
  requireSha256 (value.get "final_file_sha256") "final file SHA-256"
  reject (differ (value.get "secure_blob_sha256") t.capturedBlobSha256)
    "staged host file uses another secure blob"
  let (name, _) ← t.current
  return { t with staged := stage name (value.get "final_file_sha256") t.staged, phase := .hostStaged }

/-- Is the current component the last of its batch? -/
def finalComponent (t : Tracker φ) : Bool := t.componentIndex.getD 0 + 1 = t.batchLength

/-- `CATACOMB_CONFIRM_INTENT`. -/
def confirmIntent (t : Tracker φ) (value : Value φ) : Check φ (Tracker φ) := do
  reject (t.phase ≠ .hostStaged ∨ t.finalComponent) "early Catacomb confirm intent is out of order"
  t.componentEvidence value "CATACOMB_CONFIRM_INTENT" []
  return { t with phase := .confirmIntent }

/-- `CATACOMB_CONFIRMED`. -/
def confirmed (t : Tracker φ) (value : Value φ) : Check φ (Tracker φ) := do
  reject (t.phase ≠ .confirmIntent) "early Catacomb confirm is out of order"
  t.componentEvidence value "CATACOMB_CONFIRMED" ["status"]
  statusZero (value.get "status") "Catacomb confirm status"
  return { t with
    componentIndex := some (t.componentIndex.getD 0 + 1), capturedBlobSha256 := .none,
    expectedBlobLength := 0, phase := .componentReady }

/-- `CATACOMB_HOST_BATCH_COMMIT_INTENT`. -/
def hostBatchCommitIntent (t : Tracker φ) (value : Value φ) : Check φ (Tracker φ) := do
  reject (t.phase ≠ .hostStaged ∨ ¬ t.finalComponent) "host batch commit intent is out of order"
  t.batchEvidence value "CATACOMB_HOST_BATCH_COMMIT_INTENT"
  return { t with phase := .batchCommitIntent }

/-- `CATACOMB_HOST_BATCH_COMMITTED`. -/
def hostBatchCommitted (t : Tracker φ) (value : Value φ) : Check φ (Tracker φ) := do
  reject (t.phase ≠ .batchCommitIntent) "host batch commit is out of order"
  t.batchEvidence value "CATACOMB_HOST_BATCH_COMMITTED"
  return { t with phase := .batchCommitted }

/-- `CATACOMB_FINAL_CONFIRM_INTENT`. -/
def finalConfirmIntent (t : Tracker φ) (value : Value φ) : Check φ (Tracker φ) := do
  reject (t.phase ≠ .batchCommitted) "final Catacomb confirm intent is out of order"
  t.componentEvidence value "CATACOMB_FINAL_CONFIRM_INTENT" []
  return { t with phase := .finalConfirmIntent }

/-- `CATACOMB_FINAL_CONFIRMED`. -/
def finalConfirmed (t : Tracker φ) (value : Value φ) : Check φ (Tracker φ) := do
  reject (t.phase ≠ .finalConfirmIntent) "final Catacomb confirm is out of order"
  t.componentEvidence value "CATACOMB_FINAL_CONFIRMED" ["status"]
  statusZero (value.get "status") "final Catacomb confirm status"
  let t := { t with capturedBlobSha256 := .none, expectedBlobLength := 0 }
  if t.batchIndex.getD 0 + 1 < t.batches.length then
    return { t with
      batchIndex := some (t.batchIndex.getD 0 + 1), componentIndex := some 0, staged := [],
      phase := .componentReady }
  else return { t with phase := .attestationReady }

/-- `CATACOMB_PERSISTENCE_ATTESTED`. -/
def persistenceAttested (t : Tracker φ) (value : Value φ) : Check φ (Tracker φ) := do
  reject (t.phase ≠ .attestationReady) "persistence attestation is out of order"
  exactFields value
    ["connection_generation", "batch_count", "reconciliation_snapshot_sha256",
     "sep_host_generation_equal", "independent_archive_readback"]
    "CATACOMB_PERSISTENCE_ATTESTED"
  t.sameGeneration value
  let batchCount ← uint (value.get "batch_count") "batch count" 0xFFFFFFFF
  reject (batchCount ≠ t.batches.length) "persistence batch count changed"
  requireSha256 (value.get "reconciliation_snapshot_sha256") "reconciliation snapshot SHA-256"
  reject (¬ (value.get "sep_host_generation_equal").isTrue
      ∨ ¬ (value.get "independent_archive_readback").isTrue)
    "persistence attestation is incomplete"
  return { t with
    reconciliationSnapshotSha256 := value.get "reconciliation_snapshot_sha256",
    sepHostGenerationEqual := true, independentArchiveReadback := true, phase := .complete }

/-- The milestones behind a plan, in the order in which `consume` tries them. -/
def handlers : List (String × (Tracker φ → Value φ → Check φ (Tracker φ))) :=
  [("CATACOMB_PERSISTENCE_OUTCOME_UNKNOWN", persistenceOutcomeUnknown),
   ("CATACOMB_PREPARE_INTENT", prepareIntent),
   ("CATACOMB_PREPARED", prepared),
   ("CATACOMB_COMPLETE_INTENT", completeIntent),
   ("CATACOMB_SECURE_BLOB_CAPTURED", secureBlobCaptured),
   ("CATACOMB_HOST_STAGED", hostStaged),
   ("CATACOMB_CONFIRM_INTENT", confirmIntent),
   ("CATACOMB_CONFIRMED", confirmed),
   ("CATACOMB_HOST_BATCH_COMMIT_INTENT", hostBatchCommitIntent),
   ("CATACOMB_HOST_BATCH_COMMITTED", hostBatchCommitted),
   ("CATACOMB_FINAL_CONFIRM_INTENT", finalConfirmIntent),
   ("CATACOMB_FINAL_CONFIRMED", finalConfirmed),
   ("CATACOMB_PERSISTENCE_ATTESTED", persistenceAttested)]

/-- `consume`, of a milestone whose name begins with `CATACOMB_`. -/
def consume (t : Tracker φ) (milestone : PyStr) (value : Value φ) (allowBiolockoutOnly : Bool) :
    Check φ (Tracker φ) :=
  if milestone = py "CATACOMB_EARLY_CONFIRM_RECOVERED" then t.earlyConfirmRecovered value
  else if milestone = py "CATACOMB_PERSISTENCE_PLAN" then t.plan allowBiolockoutOnly value
  else if t.phase = .notStarted then fail (py "Catacomb persistence has no immutable plan")
  else
    match handlers.find? (fun h => py h.1 = milestone) with
    | some (_, handler) => handler t value
    | none => .error (.unsupported "Catacomb persistence" (.str milestone))

end Tracker

end T2TouchId.Journal
