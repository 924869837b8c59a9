/-
  The persistence of an enrollment (`src/t2_enrollment_persistence_operation.py`).

  Behind a terminal identity, or behind a failure that has a bio-lockout to keep, the components of the plan
  go from the SEP to the host: each is prepared, completed, encoded, staged, and confirmed; the last one of a
  batch is confirmed behind the commit of the batch.  Each call stands behind a record of the journal that
  announces it; where a call fails, the journal is frozen.

  1. **Data** — `ComponentSpec`, `ReadbackAttestation`, and `OperationError`.
  2. **Program** — `validateComponents`, `freeze` and `run` are the functions of these names; the body of `run` is
     cut into one definition for each of its blocks.

  A call that raises an `Exception` is `raised`, and one that raises something else (`KeyboardInterrupt`) is
  `interrupted`: it passes every handler.  The wiping of the two buffers has no result and is left out.
-/
import T2TouchId.Catacomb.Protocol
import T2TouchId.Journal.Persistence.Client

set_option linter.unusedSectionVars false

namespace T2TouchId.Enrollment.Persistence

open T2TouchId.Calls T2TouchId.Journal T2TouchId.Journal.Enrollment T2TouchId.Journal.Persistence T2TouchId.Python
  T2TouchId.Python.Json
open T2TouchId.Catacomb.Protocol (CatacombComponent)

/-! ## Data -/

/-- `ComponentSpec`. -/
structure ComponentSpec where
  name : PyStr
  descriptor : Bytes

/-- `descriptor_sha256`. -/
def ComponentSpec.descriptorSha256 (component : ComponentSpec) : PyStr := py (sha256 component.descriptor).hex

/-- The component as the journal names it. -/
def ComponentSpec.planned (component : ComponentSpec) : Component := (component.name, component.descriptorSha256)

/-- `ReadbackAttestation`. -/
structure ReadbackAttestation (φ : Type) where
  reconciliationSnapshotSha256 : Value φ
  sepHostGenerationEqual : Value φ
  independentArchiveReadback : Value φ

/-- `PERSISTENCE_DESCRIPTOR` of `t2_biolockout_protocol`. -/
def persistenceDescriptor : Bytes :=
  [0x48, 0x52, 0x4C, 0x42] ++ Bytes.le 4 0x4A ++ Bytes.le 4 1 ++ List.replicate 12 0

/-- What `run` raises. -/
inductive OperationError (φ : Type)
  /-- `PersistenceOperationError`. -/
  | operation (message : String)
  /-- `CatacombProtocolError`. -/
  | protocolError (message : String)
  /-- What `append_checked` raised. -/
  | storage (failure : Failure φ)
  /-- The name of a component that is not staged. -/
  | keyError
  /-- What `mutation_journal.canonical` raised. -/
  | canonical
  /-- What a call raised. -/
  | call
  | interrupted

section Persistence

variable {φ : Type} [JsonFloat φ]

/-- A block of the operation; it has no variables that an exception leaves behind. -/
abbrev Method (φ α : Type) : Type :=
  Client φ (EnrollmentHistory φ) (Journal.Persistence.CommandAnswer φ (ReadbackAttestation φ)) Unit (OperationError φ) α

/-- What a call returned; what it raised is raised. -/
def answered {α : Type} : Reaction α → Method φ α
  | .raised => Op.raise .call
  | .interrupted => Op.raise .interrupted
  | .returned a => pure a

/-- `_append`. -/
def append (milestone : String) (evidence : Value φ) : Method φ (EnrollmentHistory φ) := do
  match ← Client.append milestone evidence with
  | .ok history => pure history
  | .error failure => Op.raise (.storage failure)

/-- `_reference`, in the components of which `final_reference` may be missing. -/
abbrev Reference (φ : Type) := List (String × Value φ)

/-- `_freeze`; it raises in any case.  Where there is no reference, the evidence cannot be built, and the exception
    of that is dropped like that of the append. -/
def freeze {α : Type} (reference : Option (Reference φ)) (stage reason : String) (hostCommitPossible : Bool) :
    Method φ α := do
  match reference with
  | some reference =>
    let _ ← Client.append "CATACOMB_PERSISTENCE_OUTCOME_UNKNOWN" (members (reference ++
      [("stage", .str (py stage)), ("reason", .str (py reason)), ("sep_mutation_possible", .bool true),
       ("host_commit_possible", .bool hostCommitPossible)]))
  | none => pure ()
  Op.raise (.operation ("Catacomb persistence stopped at " ++ stage ++ "; reconciliation is required"))

/-- `try: … except Exception as error: _freeze(…)`. -/
def orFreeze {α : Type} (block : Method φ α) (reference : Option (Reference φ)) (stage reason : String)
    (hostCommitPossible : Bool) : Method φ α :=
  block.except fun
    | .interrupted => Op.raise .interrupted
    | _ => freeze reference stage reason hostCommitPossible

/-! ## The plan -/

/-- `_validate_components`, of one component. -/
def validateComponent (appleUid : Value φ) (component : ComponentSpec) : Except (OperationError φ) Unit := do
  if component.descriptor.length ≠ 24 then
    throw (.operation "persistence component descriptor is invalid")
  if component.name = userComponentName appleUid ∨ component.name = py "master.cat" then
    let parsed ← (CatacombComponent.parse component.descriptor).mapError fun _ =>
      .operation "persistence component descriptor is invalid"
    let expected ← if component.name = userComponentName appleUid then
        (CatacombComponent.user (intOf appleUid)).mapError .protocolError
      else pure CatacombComponent.master
    if parsed ≠ expected then
      throw (.operation "persistence component descriptor is bound to another target")
  else if component.name = py "biolockout.cat" then
    if component.descriptor ≠ persistenceDescriptor then
      throw (.operation "bio-lockout persistence descriptor is invalid")
  else throw (.operation "persistence component name is invalid")

/-- Is it only the bio-lockout, behind a failure? -/
def failureBiolockout (history : EnrollmentHistory φ) (batches : List (List ComponentSpec)) : Bool :=
  history.phase = .terminalFailure &&
    match batches with
    | [[component]] => component.name = py "biolockout.cat"
    | _ => false

/-- `_validate_components`. -/
def validateComponents (history : EnrollmentHistory φ) (batches : List (List ComponentSpec)) :
    Except (OperationError φ) Unit := do
  if history.phase ≠ .terminalIdentity ∧ ¬ failureBiolockout history batches then
    throw (.operation "persistence requires an identity or a terminal bio-lockout sync")
  if batches = [] then
    throw (.operation "persistence has no component batches")
  batches.forM fun batch => do
    if batch = [] then
      throw (.operation "persistence has an empty batch")
    batch.forM (validateComponent (history.baseline.get "apple_uid"))

/-- `CATACOMB_PERSISTENCE_PLAN` for these batches. -/
def planEvidence (generation : Value φ) (batches : List (List ComponentSpec)) : Value φ :=
  members
    [("connection_generation", generation),
     ("batches", .list (batches.map fun batch => .list (batch.map fun component =>
       members [("name", .str component.name), ("descriptor_sha256", .str component.descriptorSha256)])))]

/-! ## One component -/

/-- Prepared: the length of the blob that the SEP announces. -/
def prepareComponent (reference : Reference φ) (component : ComponentSpec) : Method φ Int := do
  let _ ← append "CATACOMB_PREPARE_INTENT" (members reference)
  let (status, expectedBlobLength) ←
    orFreeze (Client.call (.prepare component.descriptor) >>= answered) reference "prepare" "transport-error" false
  if ¬ (isIntIn 0 0 status ∧ isIntIn 1 (1024 * 1024) expectedBlobLength) then
    freeze reference "prepare" "transport-error" false
  let _ ← orFreeze (append "CATACOMB_PREPARED" (members (reference ++
    [("status", status), ("expected_blob_length", expectedBlobLength)]))) reference "prepare" "journal-error" false
  return intOf expectedBlobLength

/-- The length of a blob, against the one that was announced. -/
def lengthFits (name : PyStr) (length expectedBlobLength : Int) : Bool :=
  if name = py "biolockout.cat" then length ≤ expectedBlobLength else length = expectedBlobLength

/-- Completed: the blob, and its digest. -/
def completeComponent (reference : Reference φ) (component : ComponentSpec) (expectedBlobLength : Int) :
    Method φ (Bytes × PyStr) := do
  let _ ← append "CATACOMB_COMPLETE_INTENT" (members reference)
  let (status, secureBlob) ←
    orFreeze (Client.call (.complete component.descriptor) >>= answered) reference "complete" "transport-error" false
  match secureBlob with
  | some secureBlob => do
    if ¬ (isIntIn 0 0 status ∧ secureBlob ≠ [] ∧ lengthFits component.name secureBlob.length expectedBlobLength) then
      freeze reference "complete" "transport-error" false
    let blobSha256 := py (sha256 secureBlob).hex
    let _ ← orFreeze (append "CATACOMB_SECURE_BLOB_CAPTURED" (members (reference ++
      [("status", status), ("blob_length", .int secureBlob.length), ("secure_blob_sha256", .str blobSha256)])))
      reference "complete" "journal-error" false
    return (secureBlob, blobSha256)
  | none => freeze reference "complete" "transport-error" false

/-- Encoded and staged: the digest of the file. -/
def stageComponent (reference : Reference φ) (component : ComponentSpec) (expectedNames : List PyStr)
    (secureBlob : Bytes) (blobSha256 : PyStr) : Method φ (Value φ) := do
  let encoded ←
    orFreeze (Client.call (.encode component.name secureBlob) >>= answered) reference "encode" "codec-error" false
  match encoded with
  | some encoded => do
    if encoded = [] then
      freeze reference "encode" "codec-error" false
    let finalFileSha256 ←
      orFreeze (Client.call (.stageComponent component.name encoded expectedNames) >>= answered)
        reference "host-stage" "host-store-error" false
    if ¬ finalFileSha256.isStr (py (sha256 encoded).hex) then
      freeze reference "host-stage" "host-store-error" false
    let _ ← orFreeze (append "CATACOMB_HOST_STAGED" (members (reference ++
      [("secure_blob_sha256", .str blobSha256), ("final_file_sha256", finalFileSha256)])))
      reference "host-stage" "journal-error" false
    return finalFileSha256
  | none => freeze reference "encode" "codec-error" false

/-- Confirmed, where more components of the batch follow. -/
def confirmEarly (reference : Reference φ) (component : ComponentSpec) : Method φ Unit := do
  let _ ← append "CATACOMB_CONFIRM_INTENT" (members reference)
  let status ←
    orFreeze (Client.call (.confirm component.descriptor) >>= answered) reference "early-confirm" "transport-error" false
  if ¬ isIntIn 0 0 status then
    freeze reference "early-confirm" "transport-error" false
  let _ ← orFreeze (append "CATACOMB_CONFIRMED" (members (reference ++ [("status", status)])))
    reference "early-confirm" "journal-error" false

/-! ## One batch -/

variable (history : EnrollmentHistory φ)

/-- `_reference`. -/
def referenceOf (b c : Nat) (component : ComponentSpec) : Reference φ :=
  Tracker.reference history.persistenceConnectionGeneration b c component.planned

/-- The components of a batch that are left, with the variables `staged` and `final_reference`. -/
def persistComponents (b : Nat) (batch : List ComponentSpec) :
    Nat → List ComponentSpec → Staged φ → Option (Reference φ) → Method φ (Staged φ × Option (Reference φ))
  | _, [], staged, finalReference => pure (staged, finalReference)
  | c, component :: rest, staged, _ => do
    let reference := referenceOf history b c component
    let expectedBlobLength ← prepareComponent reference component
    let (secureBlob, blobSha256) ← completeComponent reference component expectedBlobLength
    let finalFileSha256 ← stageComponent reference component (batch.map (·.name)) secureBlob blobSha256
    let staged := Tracker.stage component.name finalFileSha256 staged
    if c + 1 < batch.length then
      confirmEarly reference component
    persistComponents b batch (c + 1) rest staged (some reference)

/-- `staged[component.name]`, in a row for each component. -/
def stagedRows (staged : Staged φ) (batch : List ComponentSpec) : Except (OperationError φ) (List (PyStr × Value φ)) :=
  batch.mapM fun component =>
    match Tracker.lookup component.name staged with
    | some digest => .ok (component.name, digest)
    | none => .error .keyError

/-- `staged_snapshot_sha256`. -/
def stagedSnapshotSha256 (staged : Staged φ) (batch : List ComponentSpec) : Except (OperationError φ) PyStr := do
  let rows ← stagedRows staged batch
  match dumps (.list (rows.map Tracker.fileRow)) with
  | some text => .ok (py (sha256 (asciiBytes text)).hex)
  | none => .error .canonical

/-- A batch whose components are staged: committed on the host, and confirmed in the SEP. -/
def commitBatch (b : Nat) (batch : List ComponentSpec) (staged : Staged φ) (finalReference : Option (Reference φ)) :
    Method φ Unit := do
  let snapshot ← Op.lift (stagedSnapshotSha256 staged batch)
  let batchEvidence := members (Tracker.batchFields history.persistenceConnectionGeneration b (.str snapshot))
  let _ ← append "CATACOMB_HOST_BATCH_COMMIT_INTENT" batchEvidence
  orFreeze (Client.call (.crossCommitBoundary staged) >>= answered) finalReference "host-commit" "host-store-error" true
  let _ ← orFreeze (append "CATACOMB_HOST_BATCH_COMMITTED" batchEvidence)
    finalReference "host-commit" "journal-error" true
  let _ ← append "CATACOMB_FINAL_CONFIRM_INTENT" ((finalReference.map members).getD .none)
  let status ←
    orFreeze (do
      match batch.getLast? with
      | some component => Client.call (.confirm component.descriptor) >>= answered
      | none => Op.raise .call) finalReference "final-confirm" "transport-error" true
  if ¬ isIntIn 0 0 status then
    freeze finalReference "final-confirm" "transport-error" true
  let _ ← orFreeze (do
      match finalReference with
      | some reference => append "CATACOMB_FINAL_CONFIRMED" (members (reference ++ [("status", status)]))
      | none => Op.raise .call) finalReference "final-confirm" "journal-error" true

/-- Where a resumed run goes on: the component, and the staged files. -/
structure Resume (φ : Type) where
  component : Nat
  staged : Staged φ

/-- The batches that are left. -/
def persistBatches : Nat → List (List ComponentSpec) → Option (Resume φ) → Option (Reference φ) →
    Method φ (Option (Reference φ))
  | _, [], _, finalReference => pure finalReference
  | b, batch :: rest, resume, finalReference => do
    let (start, staged) ← match resume with
      | some resume => pure (resume.component, resume.staged)
      | none => do
        Client.call (.beginStage (batch.map (·.name))) >>= answered
        pure (0, [])
    let (staged, finalReference) ← persistComponents history b batch start (batch.drop start) staged finalReference
    commitBatch history b batch staged finalReference
    persistBatches (b + 1) rest none finalReference

/-! ## The operation -/

/-- `planned`. -/
def plannedBatches (batches : List (List ComponentSpec)) : List (List Component) :=
  batches.map (·.map (·.planned))

/-- The plan is appended, or found in the journal: the batch at which the run starts, and where in it. -/
def startBatches (batches : List (List ComponentSpec)) : Method φ (Nat × Option (Resume φ)) :=
  let tracker := history.persistence
  if tracker.phase = .notStarted then do
    let _ ← append "CATACOMB_PERSISTENCE_PLAN" (planEvidence history.persistenceConnectionGeneration batches)
    return (0, none)
  else if tracker.phase = .componentReady ∧ tracker.batches = plannedBatches batches then
    match tracker.batchIndex, tracker.componentIndex with
    | some startBatch, some startComponent =>
      if startComponent = 0 ∨ tracker.staged = [] then
        Op.raise (.operation "persistence resume has no confirmed staged component")
      else pure (startBatch, some ⟨startComponent, tracker.staged⟩)
    | _, _ => Op.raise (.operation "persistence journal is not startable")
  else Op.raise (.operation "persistence journal is not startable")

/-- The read-back behind the last batch, and its attestation. -/
def attest (batches : List (List ComponentSpec)) (finalReference : Option (Reference φ)) :
    Method φ (EnrollmentHistory φ) := do
  let attestation ←
    orFreeze (Client.call .readback >>= answered) finalReference "readback" "readback-error" true
  match attestation with
  | some attestation => do
    if ¬ (attestation.sepHostGenerationEqual.isTrue ∧ attestation.independentArchiveReadback.isTrue) then
      freeze finalReference "readback" "readback-error" true
    append "CATACOMB_PERSISTENCE_ATTESTED" (members
      [("connection_generation", history.persistenceConnectionGeneration), ("batch_count", .int batches.length),
       ("reconciliation_snapshot_sha256", attestation.reconciliationSnapshotSha256),
       ("sep_host_generation_equal", .bool true), ("independent_archive_readback", .bool true)])
  | none => freeze finalReference "readback" "readback-error" true

/-- `run`, of the history that `enrollment_journal.read(path)` returned. -/
def run (operationId : PyStr) (batches : List (List ComponentSpec)) : Method φ (EnrollmentHistory φ) := do
  if differ history.operationId (.str operationId) then
    Op.raise (.operation "operation ID differs from journal")
  Op.lift (validateComponents history batches)
  let (startBatch, resume) ← startBatches history batches
  let finalReference ← persistBatches history startBatch (batches.drop startBatch) resume none
  attest history batches finalReference

end Persistence

end T2TouchId.Enrollment.Persistence
