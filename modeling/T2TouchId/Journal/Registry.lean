/-
  The registry of the mutation journals (`src/t2_mutation_registry.py`).

  Every operation that changes the sensor or the Catacomb has a journal in one directory.  The registry
  reads them all, gives each to the state machine of its kind, and says which of them still block
  another operation.

  1. **Data** — `Directory`: the names with their files.  `MutationEntry`: what is said of a journal.
  2. **Program** — one `entry` for each kind, `scan`, `blocksNewMutation`.
  3. **Results** — `scanFile_ok`: a file that was scanned has records, and its entry is what their kind
     says of them.

  A file that is not one of the five kinds, or that its state machine does not accept, makes the whole
  scan raise.
-/
import T2TouchId.Journal.CatacombSync
import T2TouchId.Journal.Delete
import T2TouchId.Journal.Enrollment
import T2TouchId.Journal.ExternalDelete
import T2TouchId.Journal.Rename

namespace T2TouchId.Journal

open T2TouchId.Python T2TouchId.Python.Json

/-! ## Entries -/

/-- `ALLOWED_KINDS`, and that of the external deletion. -/
inductive MutationKind
  | enroll
  | rename
  | deleteOne
  | syncUserCatacomb
  | reconcileExternalDelete
  | deleteBatch
  | recovery
  deriving DecidableEq

/-- The phase of an entry, in the words of its own journal. -/
inductive EntryPhase
  | enrollment (phase : Enrollment.EnrollmentPhase)
  | rename (phase : Rename.RenamePhase)
  | delete (phase : Delete.DeletePhase)
  | catacombSync (phase : CatacombSync.SyncPhase)
  | externalDelete (phase : ExternalDelete.ExternalPhase)
  | unrouted
  deriving DecidableEq

/-- `MutationEntry`. -/
structure MutationEntry where
  kind : MutationKind
  phase : EntryPhase
  blocksNewMutation : Bool
  postRebootPending : Bool
  deriving DecidableEq

/-- What a scan raises: a `MutationRegistryError`, the error of the enrollment command, or what neither
    of them catches. -/
inductive ScanError (φ : Type)
  | registry (message : String)
  | command (message : PyStr)
  | history (error : HistoryError φ)
  | raised (error : Raised)

section Scan

variable {φ : Type} [JsonFloat φ]

abbrev Scan (φ : Type) := Except (ScanError φ)

/-- A state machine, and `except SomeJournalError as error: raise MutationRegistryError`. -/
def typed {H : Type} (message : String) (history : Check φ H) (entry : H → MutationEntry) :
    Scan φ MutationEntry :=
  match history with
  | .ok history => .ok (entry history)
  | .error (.journal _) | .error (.unsupported _ _) => .error (.registry message)
  | .error error => .error (.history error)

omit [JsonFloat φ] in
theorem typed_ok {H : Type} {message : String} {history : Check φ H} {entry : H → MutationEntry}
    {e : MutationEntry} (h : typed message history entry = .ok e) :
    ∃ found, history = .ok found ∧ e = entry found := by
  unfold typed at h
  split at h
  · exact ⟨_, rfl, (Except.ok.inj h).symm⟩
  all_goals exact nomatch h

/-- A reconciled enrollment with an identity waits for the reboot, … -/
def awaitsReboot (st : Enrollment.State φ) : Bool :=
  st.phase = .reconciled ∧ ¬ isNone st.terminalIdentityUuid

/-- … and one without is complete. -/
def isComplete (st : Enrollment.State φ) : Bool :=
  st.phase ∈ [Enrollment.EnrollmentPhase.baseline, .abortedBeforeStart, .postRebootVerified]
    ∨ (st.phase = .reconciled ∧ isNone st.terminalIdentityUuid)

/-- `_enrollment_entry`. -/
def enrollmentEntry (lower : PyStr → PyStr) (records : List (Value φ)) : Scan φ MutationEntry :=
  typed "enrollment journal is invalid" (Enrollment.validateHistory lower records) fun history =>
    ⟨.enroll, .enrollment history.phase, ¬ isComplete history.toState, awaitsReboot history.toState⟩

/-- `_rename_entry`. -/
def renameEntry (lower : PyStr → PyStr) (records : List (Value φ)) : Scan φ MutationEntry :=
  typed "rename journal is invalid" (Rename.validateHistory lower records) fun history =>
    ⟨.rename, .rename history.phase,
      history.phase ∉ [Rename.RenamePhase.aborted, .postRebootVerified], history.phase = .reconciled⟩

/-- `_delete_entry`. -/
def deleteEntry (lower : PyStr → PyStr) (records : List (Value φ)) : Scan φ MutationEntry :=
  typed "single-delete journal is invalid" (Delete.validateHistory lower records) fun history =>
    ⟨.deleteOne, .delete history.phase,
      history.phase ∉ [Delete.DeletePhase.baseline, .aborted, .postRebootVerified],
      history.phase = .reconciled⟩

/-- `_catacomb_sync_entry`. -/
def catacombSyncEntry (lower : PyStr → PyStr) (records : List (Value φ)) : Scan φ MutationEntry :=
  typed "Catacomb sync journal is invalid" (CatacombSync.validateHistory lower records) fun history =>
    ⟨.syncUserCatacomb, .catacombSync history.phase,
      history.phase ∉ [CatacombSync.SyncPhase.reconciled, .aborted], false⟩

/-- `_external_delete_entry`. -/
def externalDeleteEntry (records : List (Value φ)) : Scan φ MutationEntry :=
  typed "external-delete reconciliation journal is invalid" (ExternalDelete.validateHistory records)
    fun history =>
      ⟨.reconcileExternalDelete, .externalDelete history.phase,
        history.phase ∉ [ExternalDelete.ExternalPhase.baseline, .reconciled, .aborted], false⟩

/-! ## The directory -/

/-- A directory, if there is one, and what it lists. -/
structure Directory where
  info : Option DirectoryInfo
  entries : List (PyStr × FileInfo)

/-- `_private_directory`. -/
def privateDirectory (root : Directory) : Scan φ Unit :=
  match root.info with
  | none => .error (.raised .osError)
  | some info =>
    if ¬ info.isDirectory ∨ ¬ info.owned ∨ info.mode &&& 0o077 ≠ 0 then
      .error (.registry "mutation journal directory is unsafe")
    else .ok ()

def isLowerHexDigit (c : CodePoint) : Bool :=
  0x30 ≤ c.val ∧ c.val ≤ 0x39 ∨ 0x61 ≤ c.val ∧ c.val ≤ 0x66

/-- The pattern of a journal's name: a UUID in lower case and `.jsonl`. -/
def isJournalName (name : PyStr) : Bool :=
  name.length = 42 ∧ name.drop 36 = py ".jsonl" ∧
    (name.take 36).zipIdx.all fun (c, i) =>
      if i ∈ [8, 13, 18, 23] then c = 0x2D else isLowerHexDigit c

/-- `secure_regular_file`. -/
def FileInfo.isSecure (file : FileInfo) : Bool :=
  file.kind = .regular ∧ file.owned ∧ file.links = 1 ∧ file.mode &&& 0o077 = 0

/-- The order of `sorted` by the name: code points, and a prefix first. -/
def nameLe : PyStr → PyStr → Bool
  | [], _ => true
  | _ :: _, [] => false
  | a :: s, b :: t => a.val < b.val ∨ (a = b ∧ nameLe s t)

/-- `sorted(root.iterdir(), key=lambda value: value.name)`. -/
def Directory.sorted (root : Directory) : List (PyStr × FileInfo) :=
  root.entries.insertionSort fun a b => nameLe a.1 b.1

/-- `evidence.get("operation_kind")` of the first record. -/
def operationKind (records : List (Value φ)) : Value φ :=
  match records.head? with
  | some first => if (first.get "evidence").isDict then (first.get "evidence").get "operation_kind" else .none
  | none => .none

omit [JsonFloat φ] in
theorem operationKind_cons {first : Value φ} {rest : List (Value φ)}
    (h : (first.get "evidence").isDict = true) :
    operationKind (first :: rest) = (first.get "evidence").get "operation_kind" :=
  if_pos h

/-- The records of one file, given to the state machine of their kind. -/
def routeRecords (lower : PyStr → PyStr) (records : List (Value φ)) : Scan φ MutationEntry :=
  let kind := operationKind records
  if kind.isStr (py "enroll") then enrollmentEntry lower records
  else if kind.isStr (py "rename") then renameEntry lower records
  else if kind.isStr (py "delete-one") then deleteEntry lower records
  else if kind.isStr (py "sync-user-catacomb") then catacombSyncEntry lower records
  else if kind.isStr (py "reconcile-external-delete") then externalDeleteEntry records
  else if kind.isStr (py "delete-batch") then .ok ⟨.deleteBatch, .unrouted, true, false⟩
  else if kind.isStr (py "recovery") then .ok ⟨.recovery, .unrouted, true, false⟩
  -- the last comparison is with the elements of a set
  else if ¬ isHashable kind then .error (.history .typeError)
  else .error (.registry "mutation journal kind is unsupported")

/-- The body of the loop of `scan`. -/
def scanFile (lower : PyStr → PyStr) (name : PyStr) (file : FileInfo) : Scan φ MutationEntry :=
  if ¬ isJournalName name ∨ ¬ file.isSecure then .error (.registry "mutation journal entry is unsafe")
  else
    match read (φ := φ) ⟨none, some file⟩ with
    | .error (.journalError _) => .error (.registry "mutation journal is invalid")
    | .error error => .error (.raised error)
    | .ok [] => .error (.registry "mutation journal is empty")
    | .ok records => routeRecords lower records

/-- `scan`. -/
def scan (lower : PyStr → PyStr) (root : Directory) : Scan φ (List MutationEntry) := do
  privateDirectory root
  root.sorted.mapM fun (name, file) => scanFile lower name file

/-- The test of one entry in `blocks_new_mutation`. -/
def blocks (excludingKind : Option MutationKind) (entry : MutationEntry) : Bool :=
  entry.blocksNewMutation ∧ (excludingKind = none ∨ some entry.kind ≠ excludingKind)

/-- `blocks_new_mutation`. -/
def blocksNewMutation (lower : PyStr → PyStr) (root : Directory)
    (excludingKind : Option MutationKind) : Scan φ Bool := do
  return (← scan lower root).any (blocks excludingKind)

/-! ## What a scan says -/

/-- A file that was scanned has records, which the state machine of their kind accepts. -/
theorem scanFile_ok {lower : PyStr → PyStr} {name : PyStr} {file : FileInfo} {entry : MutationEntry}
    (h : scanFile (φ := φ) lower name file = .ok entry) :
    isJournalName name = true ∧ ∃ first rest,
      read (φ := φ) ⟨none, some file⟩ = .ok (first :: rest) ∧
      routeRecords lower (first :: rest) = .ok entry := by
  unfold scanFile at h
  split at h
  · exact nomatch h
  · rename_i hsafe
    have hname : isJournalName name = true := by simpa using (not_or.mp hsafe).1
    split at h
    · exact nomatch h
    · exact nomatch h
    · exact nomatch h
    · rename_i records hne hread
      cases records with
      | nil => exact absurd rfl hne
      | cons first rest => exact ⟨hname, first, rest, hread, h⟩

/-- An entry of the kind `enroll` comes from the enrollment journal. -/
theorem routeRecords_enroll {lower : PyStr → PyStr} {records : List (Value φ)} {entry : MutationEntry}
    (h : routeRecords lower records = .ok entry) :
    (operationKind records).isStr (py "enroll") = true ↔ entry.kind = .enroll := by
  unfold routeRecords at h
  by_cases henroll : (operationKind records).isStr (py "enroll") = true
  · refine ⟨fun _ => ?_, fun _ => henroll⟩
    simp only [henroll, if_true] at h
    obtain ⟨_, -, rfl⟩ := typed_ok h
    rfl
  · refine ⟨fun hk => absurd hk henroll, fun hk => ?_⟩
    simp only [henroll, Bool.false_eq_true, if_false] at h
    -- every other branch gives an entry of its own kind
    split at h
    · obtain ⟨_, -, rfl⟩ := typed_ok h; exact nomatch hk
    · split at h
      · obtain ⟨_, -, rfl⟩ := typed_ok h; exact nomatch hk
      · split at h
        · obtain ⟨_, -, rfl⟩ := typed_ok h; exact nomatch hk
        · split at h
          · obtain ⟨_, -, rfl⟩ := typed_ok h; exact nomatch hk
          · split at h
            · cases h; exact nomatch hk
            · split at h
              · cases h; exact nomatch hk
              · split at h <;> exact nomatch h

end Scan

end T2TouchId.Journal
