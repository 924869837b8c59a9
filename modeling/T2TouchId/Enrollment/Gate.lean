/-
  The gate before an enrollment (`require_no_unfinished_enrollment` of
  `src/t2-touchid-enroll-test.py`).

  Problem: a new enrollment must not start over one that is unresolved.  The command has its own list
  of unfinished phases and asks the registry about the other kinds only, so the two classifications
  of the enrollment phases have to agree.

  1. **Program** — `enrollmentJournals` reads the enrollments of the directory,
     `requireNoUnfinishedEnrollment` refuses.
  2. **The crux** (`blocking_past_gate`) — of the phases that are neither in the command's list nor
     complete for the registry there is one, the terminal witness.
  3. **Result** — `gate_covers_registry_iff`: behind the gate the registry blocks exactly when there is
     an enrollment in that phase.

  The command runs as root, so what the owner of a file must be is the same for both.
-/
import T2TouchId.Journal.Registry
import T2TouchId.Journal.Written

namespace T2TouchId.Enrollment

open T2TouchId.Python T2TouchId.Python.Json T2TouchId.Journal
open T2TouchId.Journal.Enrollment (EnrollmentPhase EnrollmentHistory startEntries witnessEntry)

/-- `UNFINISHED_PHASES`. -/
def unfinishedPhases : List EnrollmentPhase :=
  [.startIntent, .active, .continueIntent, .cancelIntent, .cancelRequested, .terminalIdentity,
   .terminalFailure, .persisting, .persistenceReady, .outcomeUnknown]

/-- `MUTATION_ROOT`. -/
def mutationRoot : PyStr := py "/var/lib/t2-touchid/mutations"

/-- The two names in the store that a pending local transaction leaves. -/
structure StoreRoot where
  prepare : Bool
  commit : Bool

section Gate

variable {φ : Type} [JsonFloat φ]

def commandError {α : Type} (message : String) : Scan φ α := .error (.command (py message))

/-- `if p: raise EnrollmentCommandError`. -/
def refuse (p : Prop) [Decidable p] (message : String) : Scan φ Unit :=
  if p then commandError message else .ok ()

/-- `_private_root_owned`, with what `stat` says. -/
def privateRootOwned (path : PyStr) (expected owned : Bool) (mode : Nat) : Scan φ Unit :=
  if ¬ expected ∨ ¬ owned ∨ mode &&& 0o077 ≠ 0 then
    .error (.command (path ++ py " is not private and root-owned"))
  else .ok ()

/-- The body of the loop of `enrollment_journals`; `none` is a journal of another kind. -/
def enrollmentJournal (lower : PyStr → PyStr) (name : PyStr) (file : FileInfo) :
    Scan φ (Option (PyStr × EnrollmentHistory φ)) := do
  refuse (¬ isJournalName name) "mutation journal directory contains an unexpected entry"
  privateRootOwned (mutationRoot ++ py "/" ++ name) (file.kind = .regular) file.owned file.mode
  match read (φ := φ) ⟨none, some file⟩ with
  | .error error => .error (.raised error)
  | .ok [] => commandError "mutation journal is empty"
  | .ok (first :: rest) =>
    if ¬ (first.get "evidence").isDict then commandError "mutation journal has no typed baseline"
    else if ¬ (operationKind (first :: rest)).isStr (py "enroll") then return none
    else
      match Journal.Enrollment.validateHistory lower (first :: rest) with
      | .error error => .error (.history error)
      | .ok history => return some (name, history)

/-- The directory itself. -/
def mutationRootOwned (root : Directory) : Scan φ Unit :=
  match root.info with
  | none => .error (.raised .osError)
  | some info => privateRootOwned mutationRoot info.isDirectory info.owned info.mode

/-- `enrollment_journals`. -/
def enrollmentJournals (lower : PyStr → PyStr) (root : Directory) :
    Scan φ (List (PyStr × EnrollmentHistory φ)) := do
  mutationRootOwned root
  let found ← root.sorted.mapM fun (name, file) => enrollmentJournal lower name file
  return found.filterMap id

/-- `require_no_unfinished_enrollment`. -/
def requireNoUnfinishedEnrollment (lower : PyStr → PyStr) (root : Directory) (store : StoreRoot) :
    Scan φ Unit := do
  let journals ← enrollmentJournals lower root
  let unfinished := journals.any fun journal => journal.2.phase ∈ unfinishedPhases
  let pendingPostReboot := journals.any fun journal => awaitsReboot journal.2.toState
  let localTransactionPending := store.prepare || store.commit
  let otherMutationPending ← blocksNewMutation (φ := φ) lower root (some .enroll)
  refuse (unfinished || pendingPostReboot || localTransactionPending || otherMutationPending)
    ("an earlier enrollment is unfinished, has a pending local transaction, "
      ++ "or awaits post-reboot verification")

/-! ## The two classifications -/

omit [JsonFloat φ] in
/-- **What the list leaves out.**  An enrollment that is neither unfinished nor waiting for the reboot
    is complete, or it has only a witness of its result. -/
theorem blocking_past_gate {st : Journal.Enrollment.State φ} (hlist : st.phase ∉ unfinishedPhases)
    (hreboot : awaitsReboot st = false) : isComplete st = false ↔ st.phase = .terminalWitness := by
  cases hphase : st.phase <;> simp_all [unfinishedPhases, awaitsReboot, isComplete]

/-! ## Reading the directory twice -/

/-- A journal in the directory that the registry gives to the enrollment state machine. -/
def IsEnrollment (lower : PyStr → PyStr) (file : FileInfo) (history : EnrollmentHistory φ) : Prop :=
  ∃ records, read (φ := φ) ⟨none, some file⟩ = .ok records ∧
    (operationKind records).isStr (py "enroll") = true ∧
    Journal.Enrollment.validateHistory lower records = .ok history

theorem enrollmentJournal_of {lower : PyStr → PyStr} {name : PyStr} {file : FileInfo}
    {history : EnrollmentHistory φ} {found : Option (PyStr × EnrollmentHistory φ)}
    (hfile : IsEnrollment lower file history) (h : enrollmentJournal lower name file = .ok found) :
    found = some (name, history) := by
  obtain ⟨records, hread, hkind, hhistory⟩ := hfile
  obtain ⟨-, -, h⟩ := bind_ok h
  obtain ⟨-, -, h⟩ := bind_ok h
  rw [hread] at h
  cases records with
  | nil => exact nomatch h
  | cons first rest =>
    simp only at h
    split at h
    · exact nomatch h
    · rw [hhistory] at h
      cases h
      rfl

theorem isEnrollment_of {lower : PyStr → PyStr} {name : PyStr} {file : FileInfo}
    {journal : PyStr × EnrollmentHistory φ} (h : enrollmentJournal lower name file = .ok (some journal)) :
    IsEnrollment lower file journal.2 := by
  obtain ⟨-, -, h⟩ := bind_ok h
  obtain ⟨-, -, h⟩ := bind_ok h
  split at h
  · exact nomatch h
  · exact nomatch h
  · rename_i first rest hread
    split at h
    · exact nomatch h
    · split at h
      · exact nomatch h
      · rename_i hkind
        split at h
        · exact nomatch h
        · rename_i history hhistory
          cases h
          exact ⟨first :: rest, hread, by simpa using hkind, hhistory⟩

omit [JsonFloat φ] in
theorem mem_sorted {root : Directory} {entry : PyStr × FileInfo} :
    entry ∈ root.sorted ↔ entry ∈ root.entries :=
  (List.perm_insertionSort _ root.entries).mem_iff

/-- The histories that `enrollment_journals` returns are those of the enrollments in the directory. -/
theorem enrollmentJournals_ok {lower : PyStr → PyStr} {root : Directory}
    {journals : List (PyStr × EnrollmentHistory φ)} (h : enrollmentJournals lower root = .ok journals)
    (history : EnrollmentHistory φ) :
    (∃ name, (name, history) ∈ journals) ↔
      ∃ entry ∈ root.entries, IsEnrollment lower entry.2 history := by
  have h : ∃ found, (root.sorted.mapM fun (name, file) => enrollmentJournal lower name file) = .ok found ∧
      journals = found.filterMap id := by
    obtain ⟨-, -, h⟩ := bind_ok h
    obtain ⟨found, hfound, h⟩ := bind_ok h
    exact ⟨found, hfound, (Except.ok.inj h).symm⟩
  obtain ⟨found, hfound, rfl⟩ := h
  constructor
  · rintro ⟨name, hmem⟩
    obtain ⟨journal, hjournal, hsome⟩ := List.mem_filterMap.mp hmem
    obtain ⟨entry, hentry, hof⟩ := mapM_ok_right hfound journal hjournal
    obtain rfl : journal = some (name, history) := hsome
    exact ⟨entry, mem_sorted.mp hentry, isEnrollment_of hof⟩
  · rintro ⟨entry, hentry, hfile⟩
    obtain ⟨journal, hjournal, hof⟩ := mapM_ok_left hfound entry (mem_sorted.mpr hentry)
    exact ⟨entry.1, List.mem_filterMap.mpr ⟨journal, hjournal, enrollmentJournal_of hfile hof⟩⟩

/-- What the gate has made sure of. -/
theorem requireNoUnfinishedEnrollment_ok {lower : PyStr → PyStr} {root : Directory} {store : StoreRoot}
    (h : requireNoUnfinishedEnrollment (φ := φ) lower root store = .ok ()) :
    (∀ entry ∈ root.entries, ∀ history : EnrollmentHistory φ, IsEnrollment lower entry.2 history →
      history.phase ∉ unfinishedPhases ∧ awaitsReboot history.toState = false) ∧
    blocksNewMutation (φ := φ) lower root (some .enroll) = .ok false := by
  obtain ⟨journals, hjournals, h⟩ := bind_ok h
  obtain ⟨other, hother, h⟩ := bind_ok h
  unfold refuse at h
  split at h
  · exact nomatch h
  · rename_i hpending
    simp only [Bool.or_eq_true, not_or, Bool.not_eq_true] at hpending
    obtain ⟨⟨⟨hunfinished, hreboot⟩, -⟩, rfl⟩ := hpending
    refine ⟨fun entry hentry history hfile => ?_, hother⟩
    obtain ⟨name, hmem⟩ := (enrollmentJournals_ok hjournals history).mpr ⟨entry, hentry, hfile⟩
    have hlist := List.any_eq_false.mp hunfinished _ hmem
    have hwaits := List.any_eq_false.mp hreboot _ hmem
    exact ⟨by simpa using hlist, by simpa using hwaits⟩

/-- What the registry says when only enrollments are asked about besides. -/
theorem blocksNewMutation_ok {lower : PyStr → PyStr} {root : Directory}
    (h : blocksNewMutation (φ := φ) lower root (some .enroll) = .ok false) :
    ∃ blocked, blocksNewMutation (φ := φ) lower root none = .ok blocked ∧
      (blocked = true ↔ ∃ entry ∈ root.entries, ∃ history : EnrollmentHistory φ,
        IsEnrollment lower entry.2 history ∧ isComplete history.toState = false) := by
  obtain ⟨found, hscan, h⟩ := bind_ok h
  have hothers : ∀ e ∈ found, blocks (some .enroll) e = false := by
    intro e he
    simpa using List.any_eq_false.mp (Except.ok.inj h) e he
  have hfiles : (root.sorted.mapM fun (name, file) => scanFile (φ := φ) lower name file) = .ok found := by
    obtain ⟨-, -, hscan⟩ := bind_ok hscan
    exact hscan
  refine ⟨found.any (blocks none), ?_, ?_⟩
  · show (scan (φ := φ) lower root).bind _ = _
    rw [hscan]
    rfl
  rw [List.any_eq_true]
  constructor
  · rintro ⟨e, he, hblocks⟩
    have hblocking : e.blocksNewMutation = true := by simpa [blocks] using hblocks
    have hkind : e.kind = .enroll := by
      by_contra hne
      have := hothers e he
      simp [blocks, hblocking, hne] at this
    obtain ⟨entry, hentry, hof⟩ := mapM_ok_right hfiles e he
    obtain ⟨-, first, rest, hread, hroute⟩ := scanFile_ok hof
    have hstr := (routeRecords_enroll hroute).mpr hkind
    unfold routeRecords at hroute
    simp only [hstr, if_true] at hroute
    obtain ⟨history, hhistory, rfl⟩ := typed_ok hroute
    refine ⟨entry, mem_sorted.mp hentry, history, ⟨first :: rest, hread, hstr, hhistory⟩, ?_⟩
    simpa using hblocking
  · rintro ⟨entry, hentry, history, ⟨records, hread, hstr, hhistory⟩, hcomplete⟩
    obtain ⟨e, he, hof⟩ := mapM_ok_left hfiles entry (mem_sorted.mpr hentry)
    obtain ⟨-, first, rest, hread', hroute⟩ := scanFile_ok hof
    obtain rfl : records = first :: rest := Except.ok.inj (hread.symm.trans hread')
    unfold routeRecords at hroute
    simp only [hstr, if_true, enrollmentEntry, hhistory, typed] at hroute
    cases hroute
    exact ⟨_, he, by simp [blocks, hcomplete]⟩

/-- **The gate and the registry.**  Where the command's gate returns, the registry does not block exactly
    when no enrollment in the directory has only a witness of its result. -/
theorem gate_covers_registry_iff {lower : PyStr → PyStr} {root : Directory} {store : StoreRoot}
    (h : requireNoUnfinishedEnrollment (φ := φ) lower root store = .ok ()) :
    blocksNewMutation (φ := φ) lower root none = .ok false ↔
      ∀ entry ∈ root.entries, ∀ history : EnrollmentHistory φ, IsEnrollment lower entry.2 history →
        history.phase ≠ .terminalWitness := by
  obtain ⟨hgate, hother⟩ := requireNoUnfinishedEnrollment_ok h
  obtain ⟨blocked, hblocked, hiff⟩ := blocksNewMutation_ok hother
  rw [hblocked]
  constructor
  · intro hfalse entry hentry history hfile hwitness
    obtain rfl : blocked = false := Except.ok.inj hfalse
    obtain ⟨hlist, hreboot⟩ := hgate entry hentry history hfile
    have hincomplete := (blocking_past_gate hlist hreboot).mpr hwitness
    exact nomatch hiff.mpr ⟨entry, hentry, history, hfile, hincomplete⟩
  · intro hphases
    cases blocked with
    | false => rfl
    | true =>
      obtain ⟨entry, hentry, history, hfile, hincomplete⟩ := hiff.mp rfl
      obtain ⟨hlist, hreboot⟩ := hgate entry hentry history hfile
      exact absurd ((blocking_past_gate hlist hreboot).mp hincomplete)
        (hphases entry hentry history hfile)

end Gate

/-! ## A witness without an identity -/

def sampleName : PyStr := sampleOperation ++ py ".jsonl"

theorem sampleName_journal : isJournalName sampleName = true := by decide +kernel

/-- A directory with one journal. -/
def sampleDirectory (records : List (Value Unit)) : Directory :=
  ⟨some ⟨true, true, 0o700⟩, [(sampleName, ⟨.regular, true, 1, 0o600, writtenContent records⟩)]⟩

section Sample

variable {first : Value Unit} {rest : List (Value Unit)} {history : EnrollmentHistory Unit}
  (hread : read (writtenPath (first :: rest)) = .ok (first :: rest))
  (hkind : (operationKind (first :: rest)).isStr (py "enroll") = true)
  (hhistory : Journal.Enrollment.validateHistory id (first :: rest) = .ok history)

include hread hkind hhistory

theorem sampleDirectory_journals (hdict : (first.get "evidence").isDict = true) :
    enrollmentJournals id (sampleDirectory (first :: rest)) = .ok [(sampleName, history)] := by
  have hname := sampleName_journal
  have hfile : read (φ := Unit) ⟨none, some ⟨.regular, true, 1, 0o600, writtenContent (first :: rest)⟩⟩ =
      .ok (first :: rest) := hread
  have hone : enrollmentJournal id sampleName
      ⟨.regular, true, 1, 0o600, writtenContent (first :: rest)⟩ = .ok (some (sampleName, history)) := by
    simp only [enrollmentJournal, refuse, hname, not_true_eq_false, if_false, hfile, hdict, hkind,
      hhistory]
    rfl
  show (List.mapM (fun f => enrollmentJournal id f.1 f.2) [(sampleName, _)] >>= fun found =>
    pure (found.filterMap id)) = _
  rw [List.mapM_cons, List.mapM_nil, hone]
  rfl

theorem sampleDirectory_scan : scan (φ := Unit) id (sampleDirectory (first :: rest)) = .ok
    [⟨.enroll, .enrollment history.phase, ¬ isComplete history.toState,
      awaitsReboot history.toState⟩] := by
  have hname := sampleName_journal
  have hfile : read (φ := Unit) ⟨none, some ⟨.regular, true, 1, 0o600, writtenContent (first :: rest)⟩⟩ =
      .ok (first :: rest) := hread
  have hone : scanFile (φ := Unit) id sampleName
      ⟨.regular, true, 1, 0o600, writtenContent (first :: rest)⟩ = .ok
        ⟨.enroll, .enrollment history.phase, ¬ isComplete history.toState,
          awaitsReboot history.toState⟩ := by
    have hsecure : FileInfo.isSecure ⟨.regular, true, 1, 0o600, writtenContent (first :: rest)⟩ = true := by
      simp [FileInfo.isSecure]
    simp only [scanFile, hname, hsecure, not_true_eq_false, or_self, if_false, hfile, routeRecords,
      hkind, if_true, enrollmentEntry, hhistory, typed]
  show List.mapM (fun f => scanFile (φ := Unit) id f.1 f.2) [(sampleName, _)] = _
  rw [List.mapM_cons, List.mapM_nil, hone]
  rfl

end Sample

/-- An enrollment of which nothing but the baseline and the entries behind it is known. -/
theorem read_enrollment {entries : List (Entry Unit)} {st : Journal.Enrollment.State Unit}
    (hwritable : ∀ entry ∈ baselineEntry "enroll" true :: entries, entry.Writable)
    (hsize : sizeBound sampleOperation (baselineEntry "enroll" true :: entries) ≤ maxJournalSize)
    (hlength : (baselineEntry "enroll" true :: entries).length ≤ maxJournalRecords)
    (hrun : Journal.Enrollment.run id (written sampleOperation (baselineEntry "enroll" true :: entries)) =
      .ok st) :
    ∃ first rest history, written sampleOperation (baselineEntry "enroll" true :: entries) =
        first :: rest ∧
      read (writtenPath (first :: rest)) = .ok (first :: rest) ∧
      (first.get "evidence").isDict = true ∧
      (operationKind (first :: rest)).isStr (py "enroll") = true ∧
      Journal.Enrollment.validateHistory id (first :: rest) = .ok history ∧
      history.toState = st := by
  obtain ⟨rest, hwritten⟩ := written_cons sampleOperation (baselineEntry "enroll" true) entries
  have hread := read_written (by decide) hwritable hlength hsize
  have hhash := lastHash_written sampleOperation (List.cons_ne_nil (baselineEntry "enroll" true) entries)
  have hevidence := evidence_written sampleOperation [] (baselineEntry "enroll" true)
  have hdict : (baselineEntry "enroll" true).evidence.isDict = true := rfl
  have hkind : ((baselineEntry "enroll" true).evidence.get "operation_kind").isStr (py "enroll") =
      true := by
    show ((members _).get "operation_kind").isStr _ = true
    rw [get_members]
    exact isStr_iff.mpr rfl
  rw [hwritten] at hread hhash hrun
  refine ⟨_, rest, ⟨st, _, _⟩, hwritten, hread, by rw [hevidence]; exact hdict, ?_,
    sealHistory_ok.mpr ⟨st, hrun, hhash, rfl⟩, rfl⟩
  rw [operationKind_cons (by rw [hevidence]; exact hdict), hevidence]
  exact hkind

/-- One enrollment past the gate; the registry blocks when it is not complete. -/
theorem gate_sample {entries : List (Entry Unit)} {st : Journal.Enrollment.State Unit}
    (hwritable : ∀ entry ∈ baselineEntry "enroll" true :: entries, entry.Writable)
    (hsize : sizeBound sampleOperation (baselineEntry "enroll" true :: entries) ≤ maxJournalSize)
    (hlength : (baselineEntry "enroll" true :: entries).length ≤ maxJournalRecords)
    (hrun : Journal.Enrollment.run id (written sampleOperation (baselineEntry "enroll" true :: entries)) =
      .ok st)
    (hlist : st.phase ∉ unfinishedPhases) (hreboot : awaitsReboot st = false) :
    requireNoUnfinishedEnrollment (φ := Unit) id (sampleDirectory (written sampleOperation
        (baselineEntry "enroll" true :: entries))) ⟨false, false⟩ = .ok () ∧
      blocksNewMutation (φ := Unit) id (sampleDirectory (written sampleOperation
        (baselineEntry "enroll" true :: entries))) none = .ok (!isComplete st) ∧
      ∀ entry ∈ (sampleDirectory (written sampleOperation
        (baselineEntry "enroll" true :: entries))).entries,
        ∀ history : EnrollmentHistory Unit, IsEnrollment id entry.2 history → history.toState = st := by
  obtain ⟨first, rest, history, hwritten, hread, hdict, hkind, hhistory, rfl⟩ :=
    read_enrollment hwritable hsize hlength hrun
  rw [hwritten]
  have hjournals := sampleDirectory_journals hread hkind hhistory hdict
  have hscan := sampleDirectory_scan hread hkind hhistory
  have hothers : blocksNewMutation (φ := Unit) id (sampleDirectory (first :: rest)) (some .enroll) =
      .ok false := by
    show (scan (φ := Unit) id _).bind _ = _
    rw [hscan]
    simp [Except.bind, pure, Except.pure, blocks]
  refine ⟨?_, ?_, ?_⟩
  · show (enrollmentJournals (φ := Unit) id _).bind _ = _
    rw [hjournals]
    show (blocksNewMutation (φ := Unit) id _ _).bind _ = _
    rw [hothers]
    exact if_neg (by simp [hlist, hreboot])
  · show (scan (φ := Unit) id _).bind _ = _
    rw [hscan]
    simp [Except.bind, pure, Except.pure, blocks]
  · rintro entry hentry history' ⟨records, hrecords, -, hhistory'⟩
    obtain rfl := List.mem_singleton.mp hentry
    obtain rfl : first :: rest = records := Except.ok.inj (hread.symm.trans hrecords)
    obtain rfl : history = history' := Except.ok.inj (hhistory.symm.trans hhistory')
    rfl

/-- The two journals of the samples fit their file, and end in these phases. -/
theorem sampleJournals_run :
    ((∀ entry ∈ [baselineEntry "enroll" true], entry.Writable) ∧
      sizeBound sampleOperation [baselineEntry "enroll" true] ≤ maxJournalSize ∧
      ((Journal.Enrollment.run id (written sampleOperation [baselineEntry "enroll" true])).map
        (·.phase)).toOption = some .baseline) ∧
    (∀ entry ∈ baselineEntry "enroll" true :: (startEntries ++ [witnessEntry]), entry.Writable) ∧
      sizeBound sampleOperation (baselineEntry "enroll" true :: (startEntries ++ [witnessEntry])) ≤
        maxJournalSize ∧
      ((Journal.Enrollment.run id (written sampleOperation
        (baselineEntry "enroll" true :: (startEntries ++ [witnessEntry])))).map
        (·.phase)).toOption = some .terminalWitness := by
  decide +kernel

/-- Behind the gate with an enrollment that has not begun, the registry does not block. -/
theorem gate_covers_registry_sample :
    requireNoUnfinishedEnrollment (φ := Unit) id (sampleDirectory (written sampleOperation
        [baselineEntry "enroll" true])) ⟨false, false⟩ = .ok () ∧
      blocksNewMutation (φ := Unit) id (sampleDirectory (written sampleOperation
        [baselineEntry "enroll" true])) none = .ok false := by
  obtain ⟨⟨hwritable, hsize, hphases⟩, -⟩ := sampleJournals_run
  obtain ⟨st, hrun, hphase⟩ := exists_of_map hphases
  obtain ⟨hgate, -, hall⟩ := gate_sample hwritable hsize (by decide) hrun (by rw [hphase]; decide)
    (by simp [awaitsReboot, hphase])
  refine ⟨hgate, (gate_covers_registry_iff hgate).mpr fun entry hentry history hfile => ?_⟩
  show history.toState.phase ≠ _
  rw [hall entry hentry history hfile, hphase]
  decide

/-- **Past the gate, blocked by the registry**: an enrollment that ended with a witness of its result. -/
theorem gate_misses_witness_sample :
    requireNoUnfinishedEnrollment (φ := Unit) id (sampleDirectory (written sampleOperation
        (baselineEntry "enroll" true :: startEntries ++ [witnessEntry]))) ⟨false, false⟩ = .ok () ∧
      blocksNewMutation (φ := Unit) id (sampleDirectory (written sampleOperation
        (baselineEntry "enroll" true :: startEntries ++ [witnessEntry]))) none = .ok true := by
  obtain ⟨-, hwritable, hsize, hphases⟩ := sampleJournals_run
  obtain ⟨st, hrun, hphase⟩ := exists_of_map hphases
  obtain ⟨hgate, hblocks, -⟩ := gate_sample hwritable hsize (by decide) hrun
    (by rw [hphase]; decide) (by simp [awaitsReboot, hphase])
  refine ⟨hgate, hblocks.trans ?_⟩
  simp [isComplete, hphase]

end T2TouchId.Enrollment
