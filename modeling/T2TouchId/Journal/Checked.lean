/-
  Is a typed append atomic (`append_checked` of the five typed journals)?

  Problem: a typed journal appends through its state machine.  When the machine does not take a
  milestone, the file should stay as it was: a journal is append-only, and a record that its machine does
  not accept makes it, and every scan of the registry, raise for ever.

  1. **Data** — `TypedJournal`: a `validate_history`, what `append_checked` takes of its result, and
     whether the candidate is tried before it is written.
  2. **Program** — `appendChecked`, and the five journals.
  3. **Specification** — `Atomic`: an error leaves the content, a result extends the history.
  4. **The crux** — everything that raises before the write leaves the content alone, and everything
     behind it is too late; so all depends on what the new line is read back as (`atomic_iff`).
  5. **Result** — `append_checked_atomic_iff`, for the five journals.
-/
import T2TouchId.Journal.Registry
import T2TouchId.Journal.Written

set_option linter.unusedSectionVars false

namespace T2TouchId.Journal

open T2TouchId.Python T2TouchId.Python.Json

section Checked

variable {φ : Type} [JsonFloat φ] {H : Type}

/-! ## Program -/

/-- What an `append_checked` raises: the error of its own module, or one of the mutation journal. -/
inductive Failure (φ : Type)
  | typed (error : HistoryError φ)
  | raised (error : Raised)

/-- A typed journal: its `validate_history`, and how it appends. -/
structure TypedJournal (φ H : Type) where
  validate : List (Value φ) → Check φ H
  operationId : H → Value φ
  recordCount : H → Nat
  headHash : H → Value φ
  /-- `validate_history([*records, candidate])` comes before the append. -/
  triesCandidate : Bool
  otherOperation : String
  /-- The messages that a `JournalError` of `read` and of `append` gets, if the module has its own. -/
  messages : Option (String × String)

/-- `except JournalError as error: raise ... from error`, where a module does it. -/
def wrapJournal {α : Type} (message : Option String) : Except Raised α → Except (Failure φ) α
  | .ok a => .ok a
  | .error (.journalError text) =>
    match message with
    | some message => .error (.typed (.journal (py message)))
    | none => .error (.raised (.journalError text))
  | .error error => .error (.raised error)

namespace TypedJournal

variable (J : TypedJournal φ H)

/-- `validate_history`, whose errors are those of the module. -/
def accept (records : List (Value φ)) : Except (Failure φ) H :=
  match J.validate records with
  | .ok history => .ok history
  | .error error => .error (.typed error)

/-- `read`, with the records. -/
def readHistory (path : JournalPath) : Except (Failure φ) (List (Value φ) × H) := do
  let records ← wrapJournal (J.messages.map Prod.fst) (read path)
  return (records, ← J.accept records)

/-- The candidate: a record with a hash that nothing has computed. -/
def candidate (operationId milestone : PyStr) (evidence : Value φ) : Value φ :=
  members
    [("operation_id", .str operationId), ("milestone", .str milestone), ("evidence", evidence),
     ("record_hash", .str (List.replicate 64 (codePoint '0')))]

/-- `append` under the guard of what was read. -/
def guarded (current : H) (operationId milestone : PyStr) (evidence : Value φ) : Append φ where
  operationId := operationId
  milestone := milestone
  evidence := evidence
  expectedRecordCount := .int (J.recordCount current)
  expectedPreviousHash := J.headHash current

/-- What is tested before the append. -/
def tests (records : List (Value φ)) (current : H) (operationId milestone : PyStr)
    (evidence : Value φ) : Except (Failure φ) Unit :=
  if differ (.str operationId) (J.operationId current) then
    .error (.typed (.journal (py J.otherOperation)))
  else if J.triesCandidate then do
    let _ ← J.accept (records ++ [candidate operationId milestone evidence])
  else .ok ()

/-- `append_checked`. -/
def appendChecked (lower : PyStr → PyStr) (path : JournalPath) (operationId milestone : PyStr)
    (evidence : Value φ) : Except (Failure φ) H × JournalPath :=
  match J.readHistory path with
  | .error error => (.error error, path)
  | .ok (records, current) =>
    match J.tests records current operationId milestone evidence with
    | .error error => (.error error, path)
    | .ok () =>
      match append lower path (J.guarded current operationId milestone evidence) with
      | (.error error, path) => (wrapJournal (J.messages.map Prod.snd) (.error error), path)
      | (.ok _, path) => ((J.readHistory path).map Prod.snd, path)

end TypedJournal

/-! ### The five journals -/

namespace Enrollment

def typedJournal (lower : PyStr → PyStr) : TypedJournal φ (EnrollmentHistory φ) where
  validate := validateHistory lower
  operationId history := history.operationId
  recordCount := EnrollmentHistory.recordCount
  headHash := EnrollmentHistory.headHash
  triesCandidate := true
  otherOperation := "operation ID does not match enrollment journal"
  messages := none

end Enrollment

namespace Rename

def typedJournal (lower : PyStr → PyStr) : TypedJournal φ (History φ) where
  validate := validateHistory lower
  operationId history := history.operationId
  recordCount := History.recordCount
  headHash := History.headHash
  triesCandidate := true
  otherOperation := "operation ID does not match rename journal"
  messages := none

end Rename

namespace Delete

def typedJournal (lower : PyStr → PyStr) : TypedJournal φ (History φ) where
  validate := validateHistory lower
  operationId history := history.operationId
  recordCount := History.recordCount
  headHash := History.headHash
  triesCandidate := true
  otherOperation := "operation ID does not match delete journal"
  messages := none

end Delete

namespace CatacombSync

def typedJournal (lower : PyStr → PyStr) : TypedJournal φ (History φ) where
  validate := validateHistory lower
  operationId history := history.operationId
  recordCount := History.recordCount
  headHash := History.headHash
  triesCandidate := false
  otherOperation := "Catacomb sync operation ID changed"
  messages := some ("Catacomb sync journal is invalid", "Catacomb sync append failed")

end CatacombSync

namespace ExternalDelete

def typedJournal : TypedJournal φ (History φ) where
  validate := validateHistory
  operationId history := history.operationId
  recordCount := History.recordCount
  headHash := History.headHash
  triesCandidate := false
  otherOperation := "external-delete operation ID changed"
  messages := none

end ExternalDelete

/-! ## Specification -/

namespace TypedJournal

variable (J : TypedJournal φ H) (lower : PyStr → PyStr)

/-- An error leaves the content of the file alone; a result is what `validate_history` says of the old
    records with one more. -/
def Atomic (path : JournalPath) (operationId milestone : PyStr) (evidence : Value φ) : Prop :=
  match J.appendChecked lower path operationId milestone evidence with
  | (.error _, after) => after.content = path.content
  | (.ok history, after) => ∃ records last, read path = .ok records ∧
      read after = .ok (records ++ [last]) ∧ J.validate (records ++ [last]) = .ok history

/-- The call comes to the write, and this is the line it writes. -/
def Writes (path : JournalPath) (records : List (Value φ)) (current : H)
    (operationId milestone : PyStr) (evidence : Value φ) (line : Bytes) : Prop :=
  J.tests records current operationId milestone evidence = .ok () ∧
    checkArguments lower (J.guarded current operationId milestone evidence) = .ok () ∧
    (path.openForAppend false).1.isOk = true ∧
    ∃ record, nextRecord (J.guarded current operationId milestone evidence) path.content =
      .ok (record, line)

/-- The file has room for one more line. -/
structure FileFits (path : JournalPath) (records : List (Value φ)) (line : Bytes) : Prop where
  terminated : Terminated path.content
  room : records.length + 1 ≤ maxJournalRecords
  size : path.content.length + line.length ≤ maxJournalSize

/-- The line may stand behind the others, and the state machine takes what it says. -/
structure Fits (path : JournalPath) (records : List (Value φ)) (line : Bytes) : Prop
    extends FileFits path records line where
  accepted : ∃ last, validateRecords (lines path.content ++ [line]) = .ok (records ++ [last]) ∧
    (J.validate (records ++ [last])).isOk = true

/-! ## Before and behind the write -/

theorem wrapJournal_ok {α : Type} {message : Option String} {x : Except Raised α} {a : α} :
    wrapJournal (φ := φ) message x = .ok a ↔ x = .ok a := by
  constructor
  · intro h
    cases x with
    | ok b =>
      cases h
      rfl
    | error e => cases e <;> cases message <;> exact nomatch h
  · rintro rfl
    rfl

theorem accept_ok {records : List (Value φ)} {history : H} :
    J.accept records = .ok history ↔ J.validate records = .ok history := by
  unfold accept
  cases J.validate records with
  | ok h =>
    constructor <;>
    · intro h
      cases h
      rfl
  | error e => exact ⟨nofun, nofun⟩

theorem readHistory_ok {path : JournalPath} {records : List (Value φ)} {history : H} :
    J.readHistory path = .ok (records, history) ↔
      read path = .ok records ∧ J.validate records = .ok history := by
  constructor
  · intro h
    obtain ⟨found, hfound, h⟩ := bind_ok h
    obtain ⟨current, hcurrent, h⟩ := bind_ok h
    cases h
    exact ⟨wrapJournal_ok.mp hfound, J.accept_ok.mp hcurrent⟩
  · rintro ⟨hread, hvalidate⟩
    have hwrap : wrapJournal (φ := φ) (J.messages.map Prod.fst) (read path) = .ok records :=
      wrapJournal_ok.mpr hread
    rw [readHistory, hwrap]
    show (J.accept records).bind _ = _
    rw [J.accept_ok.mpr hvalidate]
    rfl

end TypedJournal

/-- Opening a journal does not change its content. -/
theorem openForAppend_content (exclusive : Bool) (path : JournalPath) :
    (path.openForAppend exclusive).2.content = path.content := by
  unfold JournalPath.openForAppend
  cases hfile : path.file <;>
    (simp only []; repeat' split) <;> simp [JournalPath.content, hfile]

/-- **Before the write** an error leaves the content alone. -/
theorem append_error {lower : PyStr → PyStr} {path after : JournalPath} {args : Append φ} {e : Raised}
    (h : append lower path args = (.error e, after)) : after.content = path.content := by
  have hopened := openForAppend_content args.exclusive path
  unfold append at h
  split at h
  · exact (Prod.mk.inj h).2 ▸ rfl
  · split at h
    · rename_i opened hopen
      rw [hopen] at hopened
      exact (Prod.mk.inj h).2 ▸ hopened
    · rename_i file opened hopen
      rw [hopen] at hopened
      split at h
      · exact (Prod.mk.inj h).2 ▸ hopened
      · exact nomatch (Prod.mk.inj h).1

/-- **The write** puts the line behind the content. -/
theorem append_writes {lower : PyStr → PyStr} {path : JournalPath} {args : Append φ}
    {record : Value φ} {line : Bytes} (hargs : checkArguments lower args = .ok ())
    (hopen : (path.openForAppend args.exclusive).1.isOk = true)
    (hnext : nextRecord args path.content = .ok (record, line)) :
    ∃ after, append lower path args = (.ok record, after) ∧ after.content = path.content ++ line := by
  obtain ⟨file, opened, hopened⟩ : ∃ file opened, path.openForAppend args.exclusive = (.ok file, opened) := by
    rcases hcase : path.openForAppend args.exclusive with ⟨found, opened⟩
    rw [hcase] at hopen
    cases found with
    | ok file => exact ⟨file, opened, rfl⟩
    | error e => exact nomatch hopen
  obtain ⟨-, -, -, -, -, hcontent⟩ := openForAppend_ok hopened
  rw [← hcontent] at hnext
  have happend : append lower path args = (.ok record,
      { opened with file := some { file with content := file.content ++ line } }) := by
    simp only [append, hargs, hopened, hnext]
  exact ⟨_, happend, by simp [JournalPath.content, hcontent]⟩

/-- **Behind the write** the new line is read back behind the old ones, if it fits. -/
theorem read_behind_iff {lower : PyStr → PyStr} {path after : JournalPath} {args : Append φ}
    {record : Value φ} {line : Bytes} {records all : List (Value φ)}
    (hread : read path = .ok records) (happend : append lower path args = (.ok record, after))
    (hnext : nextRecord args path.content = .ok (record, line)) :
    (read after = .ok all ∧ all.length = records.length + 1) ↔
      Terminated path.content ∧ records.length + 1 ≤ maxJournalRecords ∧
      path.content.length + line.length ≤ maxJournalSize ∧
      validateRecords (lines path.content ++ [line]) = .ok all := by
  obtain ⟨-, file, line', hfile, hkind, howned, hlinks, hmode, hnext'⟩ := append_ok happend
  obtain rfl : line' = line := (Prod.mk.inj (Except.ok.inj (hnext'.symm.trans hnext))).2
  have hvalid := read_ok hread
  obtain ⟨-, text, htext, hline⟩ := payload_line hvalid hnext
  obtain ⟨_, -, -, hcount⟩ := validateRecords_ok hvalid
  rw [read_private hfile hkind howned hlinks hmode]
  show ((if (path.content ++ line').length ≤ maxJournalSize then readLines (path.content ++ line')
    else _) = _ ∧ _) ↔ _
  rw [List.length_append]
  by_cases hsize : path.content.length + line'.length ≤ maxJournalSize
  · rw [if_pos hsize, readLines]
    by_cases hterminated : Terminated path.content
    · have hlines : lines (path.content ++ line') = lines path.content ++ [line'] := by
        rw [lines_append hterminated, hline, lines_line htext]
      have hlength : (lines path.content ++ [line']).length = records.length + 1 := by
        rw [List.length_append, List.length_singleton, hcount]
      rw [hlines, hlength]
      by_cases hroom : records.length + 1 ≤ maxJournalRecords
      · rw [if_neg (by omega)]
        refine ⟨fun h => ⟨hterminated, hroom, hsize, h.1⟩, fun h => ⟨h.2.2.2, ?_⟩⟩
        obtain ⟨_, -, -, hall⟩ := validateRecords_ok h.2.2.2
        rw [hall, hlength]
      · rw [if_pos (by omega)]
        exact ⟨(fun h => by cases h.1), fun h => absurd h.2.1 hroom⟩
    · -- the new line is a part of the torn one, and there is one record too few
      refine ⟨fun h => ?_, fun h => absurd h.1 hterminated⟩
      obtain ⟨hall, hlength⟩ := h
      split at hall
      · cases hall
      · obtain ⟨_, -, -, hread⟩ := validateRecords_ok hall
        rw [hline, lines_append_partial hterminated htext, ← hcount, hlength] at hread
        omega
  · rw [if_neg hsize]
    exact ⟨(fun h => by cases h.1), fun h => absurd h.2.2.1 hsize⟩

namespace TypedJournal

variable (J : TypedJournal φ H) {lower : PyStr → PyStr} {path : JournalPath}
  {records : List (Value φ)} {current : H} {operationId milestone : PyStr} {evidence : Value φ}

/-- A call that does not come to the write raises, and leaves the content. -/
theorem appendChecked_refused (hread : J.readHistory path = .ok (records, current))
    (h : ∀ line, ¬ J.Writes lower path records current operationId milestone evidence line) :
    ∃ error after, J.appendChecked lower path operationId milestone evidence = (.error error, after) ∧
      after.content = path.content := by
  unfold appendChecked
  rw [hread]
  simp only []
  cases htests : J.tests records current operationId milestone evidence with
  | error error => exact ⟨error, path, rfl, rfl⟩
  | ok u =>
    rcases happend : append lower path (J.guarded current operationId milestone evidence) with
      ⟨found, after⟩
    cases found with
    | error e =>
      have hcontent := append_error happend
      simp only []
      cases e <;> cases J.messages <;> exact ⟨_, after, rfl, hcontent⟩
    | ok record =>
      obtain ⟨hargs, file, line, -, -, -, -, -, hnext⟩ := append_ok happend
      refine absurd ⟨htests, hargs, ?_, record, hnext⟩ (h line)
      unfold append at happend
      rw [hargs] at happend
      simp only [] at happend
      rcases hopen : path.openForAppend false with ⟨opened, after'⟩
      cases opened with
      | ok file => rfl
      | error e =>
        rw [show (J.guarded current operationId milestone evidence).exclusive = false from rfl, hopen]
          at happend
        exact nomatch happend

/-- A call that comes to the write returns what is read behind it. -/
theorem appendChecked_written (hread : J.readHistory path = .ok (records, current)) {line : Bytes}
    (hwrites : J.Writes lower path records current operationId milestone evidence line) :
    ∃ record after,
      append lower path (J.guarded current operationId milestone evidence) = (.ok record, after) ∧
      nextRecord (J.guarded current operationId milestone evidence) path.content =
        .ok (record, line) ∧
      after.content = path.content ++ line ∧
      J.appendChecked lower path operationId milestone evidence =
        ((J.readHistory after).map Prod.snd, after) := by
  obtain ⟨htests, hargs, hopen, record, hnext⟩ := hwrites
  obtain ⟨after, happend, hcontent⟩ := append_writes hargs hopen hnext
  exact ⟨record, after, happend, hnext, hcontent, by simp only [appendChecked, hread, htests, happend]⟩

/-- **Too late**: a line that the state machine does not take stays in the file. -/
theorem appendChecked_refuses (hread : read path = .ok records)
    (hcurrent : J.validate records = .ok current) {line : Bytes} {all : List (Value φ)}
    (hwrites : J.Writes lower path records current operationId milestone evidence line)
    (hfile : FileFits path records line)
    (hvalid : validateRecords (lines path.content ++ [line]) = .ok all)
    (hrefused : (J.validate all).isOk = false) :
    ∃ error after, J.appendChecked lower path operationId milestone evidence = (.error error, after) ∧
      after.content = path.content ++ line ∧ ∀ found, J.readHistory after ≠ .ok found := by
  obtain ⟨record, after, happend, hnext, hcontent, hresult⟩ :=
    J.appendChecked_written (J.readHistory_ok.mpr ⟨hread, hcurrent⟩) hwrites
  have hall := ((read_behind_iff hread happend hnext).mpr
    ⟨hfile.terminated, hfile.room, hfile.size, hvalid⟩).1
  have hnot : ∀ found, J.readHistory after ≠ .ok found := by
    rintro ⟨records', history⟩ hfound
    obtain ⟨hread', hvalidate⟩ := J.readHistory_ok.mp hfound
    obtain rfl : all = records' := Except.ok.inj (hall.symm.trans hread')
    rw [hvalidate] at hrefused
    exact nomatch hrefused
  cases hfound : J.readHistory after with
  | ok found => exact absurd hfound (hnot found)
  | error error => exact ⟨error, after, by rw [hresult, hfound]; rfl, hcontent, hnot⟩

/-- **When is the append atomic?**  The call does not come to the write, or the line fits. -/
theorem atomic_iff (hread : read path = .ok records) (hcurrent : J.validate records = .ok current) :
    J.Atomic lower path operationId milestone evidence ↔
      ∀ line, J.Writes lower path records current operationId milestone evidence line →
        J.Fits path records line := by
  have hhistory := J.readHistory_ok.mpr ⟨hread, hcurrent⟩
  by_cases hwrites : ∃ line, J.Writes lower path records current operationId milestone evidence line
  · obtain ⟨line, hwrites⟩ := hwrites
    obtain ⟨record, after, happend, hnext, hcontent, hresult⟩ :=
      J.appendChecked_written hhistory hwrites
    have hone : ∀ line', J.Writes lower path records current operationId milestone evidence line' →
        line' = line := by
      rintro line' ⟨-, -, -, record', hnext'⟩
      exact (Prod.mk.inj (Except.ok.inj (hnext'.symm.trans hnext))).2
    have hne : path.content ++ line ≠ path.content := by
      obtain ⟨-, text, -, rfl⟩ := payload_line (read_ok hread) hnext
      simp
    unfold Atomic
    rw [hresult]
    constructor
    · intro hatomic line' hline'
      obtain rfl := hone line' hline'
      cases hfound : J.readHistory after with
      | error e =>
        rw [hfound] at hatomic
        exact absurd (hcontent.symm.trans hatomic) hne
      | ok found =>
        rw [hfound] at hatomic
        obtain ⟨records', last, hread', hall, hvalidate⟩ := hatomic
        obtain rfl : records' = records := Except.ok.inj (hread'.symm.trans hread)
        obtain ⟨hterminated, hroom, hsize, hvalid⟩ :=
          (read_behind_iff hread happend hnext).mp ⟨hall, by simp⟩
        exact ⟨⟨hterminated, hroom, hsize⟩, last, hvalid, by rw [hvalidate]; rfl⟩
    · intro hfits
      obtain ⟨⟨hterminated, hroom, hsize⟩, last, hvalid, hok⟩ :=
        hfits line hwrites
      obtain ⟨history, hhistory'⟩ : ∃ history, J.validate (records ++ [last]) = .ok history := by
        cases hvalidate : J.validate (records ++ [last]) with
        | ok history => exact ⟨history, rfl⟩
        | error e =>
          rw [hvalidate] at hok
          exact nomatch hok
      have hall := ((read_behind_iff hread happend hnext).mpr ⟨hterminated, hroom, hsize, hvalid⟩).1
      rw [J.readHistory_ok.mpr ⟨hall, hhistory'⟩]
      exact ⟨records, last, hread, hall, hhistory'⟩
  · have hnone : ∀ line, ¬ J.Writes lower path records current operationId milestone evidence line :=
      fun line hline => hwrites ⟨line, hline⟩
    obtain ⟨error, after, hresult, hcontent⟩ := J.appendChecked_refused hhistory hnone
    unfold Atomic
    rw [hresult]
    exact ⟨fun _ line hline => absurd hline (hnone line), fun _ => hcontent⟩

end TypedJournal

/-! ## Tried before -/

namespace TypedJournal

/-- The state machine looks at three fields of a new record, and takes any digest as its hash. -/
def ReadsThree (J : TypedJournal φ H) : Prop :=
  ∀ (records : List (Value φ)) (record other : Value φ),
    (∀ field ∈ ["operation_id", "milestone", "evidence"], other.get field = record.get field) →
    isSha256 (other.get "record_hash") = true →
    (J.validate (records ++ [record])).isOk = true → (J.validate (records ++ [other])).isOk = true

theorem candidate_fields (operationId milestone : PyStr) (evidence : Value φ) :
    (candidate operationId milestone evidence).get "operation_id" = .str operationId ∧
      (candidate operationId milestone evidence).get "milestone" = .str milestone ∧
      (candidate operationId milestone evidence).get "evidence" = evidence := by
  simp [candidate, get_members, List.lookup_cons]

/-- **Where the candidate was tried** and the evidence is one that JSON gives back, only the file can
    be in the way. -/
theorem fits_of_tried {J : TypedJournal φ H} {lower : PyStr → PyStr} {path : JournalPath}
    {records : List (Value φ)} {current : H} {operationId milestone : PyStr} {evidence : Value φ}
    {line : Bytes} (hthree : J.ReadsThree) (htries : J.triesCandidate = true)
    (hread : read path = .ok records) (hnative : isNative evidence = true)
    (hwrites : J.Writes lower path records current operationId milestone evidence line) :
    J.Fits path records line ↔ TypedJournal.FileFits path records line := by
  refine ⟨fun h => h.toFileFits, ?_⟩
  rintro ⟨hterminated, hroom, hsize⟩
  obtain ⟨htests, hargs, -, record, hnext⟩ := hwrites
  have hvalid := read_ok hread
  have happended := (validateRecords_appended hargs hvalid hnext hterminated).mpr hnative
  obtain ⟨-, text, htext, hline⟩ := payload_line hvalid hnext
  rw [lines_append hterminated, hline, lines_line htext, ← hline] at happended
  refine ⟨⟨hterminated, hroom, hsize⟩, record, happended, ?_⟩
  -- the candidate and the record have the same three fields
  obtain ⟨records', hash, text', -, -, -, hhash, hrecord, -, -⟩ := nextRecord_ok hnext
  obtain ⟨bytes, -, hbytes⟩ := bind_ok hhash
  obtain rfl : py (sha256 bytes).hex = hash := Except.ok.inj hbytes
  obtain ⟨hoperation, hmilestone, hevidence⟩ := candidate_fields operationId milestone evidence
  refine hthree records (candidate operationId milestone evidence) record ?_ ?_ ?_
  · rw [hrecord, withHash_unsignedRecord]
    simp only [List.forall_mem_cons, hoperation, hmilestone, hevidence]
    exact ⟨rfl, rfl, rfl, nofun⟩
  · rw [hrecord, withHash_unsignedRecord]
    exact isSha256_hash bytes
  · rw [tests, if_pos htries] at htests
    split at htests
    · exact nomatch htests
    · obtain ⟨history, haccept, -⟩ := bind_ok htests
      rw [J.accept_ok.mp haccept]
      rfl

end TypedJournal

/-- A loop whose step looks at three fields, and that ends with a digest. -/
theorem isOk_sealHistory {S : Type} {empty : String} {start : Value φ → Check φ S}
    {step : S → Value φ → Check φ S} {history : S → Nat → Value φ → H} {records : List (Value φ)}
    {record other : Value φ} (hstart : start other = start record)
    (hstep : ∀ st, step st other = step st record) (hhash : isSha256 (other.get "record_hash") = true)
    (h : (sealHistory (journalRun empty start step (records ++ [record])) (records ++ [record])
      history).isOk = true) :
    (sealHistory (journalRun empty start step (records ++ [other])) (records ++ [other])
      history).isOk = true := by
  have hrun : journalRun empty start step (records ++ [other]) =
      journalRun empty start step (records ++ [record]) := by
    by_cases hrecords : records = []
    · subst hrecords
      rw [List.nil_append, List.nil_append, journalRun_singleton, journalRun_singleton, hstart]
    · rw [journalRun_concat hrecords, journalRun_concat hrecords]
      exact congrArg _ (funext fun st => hstep st)
  cases hfound : sealHistory (journalRun empty start step (records ++ [record])) (records ++ [record])
      history with
  | error e =>
    rw [hfound] at h
    exact nomatch h
  | ok found =>
    obtain ⟨st, hst, -, -⟩ := sealHistory_ok.mp hfound
    have hlast : isSha256 (lastHash (records ++ [other])) = true := by
      rw [lastHash, List.getLast?_concat]
      exact hhash
    rw [sealHistory_ok.mpr ⟨st, hrun.trans hst, hlast, rfl⟩]
    rfl

theorem Enrollment.readsThree (lower : PyStr → PyStr) :
    (Enrollment.typedJournal (φ := φ) lower).ReadsThree := by
  intro records record other hfields hhash
  simp only [List.forall_mem_cons] at hfields
  obtain ⟨hoperation, hmilestone, hevidence, -⟩ := hfields
  refine isOk_sealHistory ?_ (fun st => ?_) hhash
  · simp only [Enrollment.start, hoperation, hmilestone, hevidence]
  · simp only [Enrollment.State.step, hoperation, hmilestone, hevidence]

theorem Rename.readsThree (lower : PyStr → PyStr) :
    (Rename.typedJournal (φ := φ) lower).ReadsThree := by
  intro records record other hfields hhash
  simp only [List.forall_mem_cons] at hfields
  obtain ⟨hoperation, hmilestone, hevidence, -⟩ := hfields
  refine isOk_sealHistory ?_ (fun st => ?_) hhash
  · simp only [Rename.start, hoperation, hmilestone, hevidence]
  · simp only [Rename.State.step, hoperation, hmilestone, hevidence]

theorem Delete.readsThree (lower : PyStr → PyStr) :
    (Delete.typedJournal (φ := φ) lower).ReadsThree := by
  intro records record other hfields hhash
  simp only [List.forall_mem_cons] at hfields
  obtain ⟨hoperation, hmilestone, hevidence, -⟩ := hfields
  refine isOk_sealHistory ?_ (fun st => ?_) hhash
  · simp only [Delete.start, hoperation, hmilestone, hevidence]
  · simp only [Delete.State.step, hoperation, hmilestone, hevidence]

/-! ## The five journals -/

/-- **Every typed append is atomic exactly where its line fits**: a call comes to the write with a line
    that has a complete line before it, room, and a place in the state machine, or it does not come to
    the write.  The enrollment, the rename, and the delete have tried the candidate: there the place in
    the state machine is certain for evidence that JSON gives back. -/
theorem append_checked_atomic_iff (lower : PyStr → PyStr) (path : JournalPath)
    (records : List (Value φ)) (operationId milestone : PyStr) (evidence : Value φ)
    (hread : read path = .ok records) :
    (∀ current, Enrollment.validateHistory lower records = .ok current →
      ((Enrollment.typedJournal lower).Atomic lower path operationId milestone evidence ↔
        ∀ line, (Enrollment.typedJournal lower).Writes lower path records current operationId milestone
          evidence line → (Enrollment.typedJournal lower).Fits path records line)) ∧
    (∀ current, Rename.validateHistory lower records = .ok current →
      ((Rename.typedJournal lower).Atomic lower path operationId milestone evidence ↔
        ∀ line, (Rename.typedJournal lower).Writes lower path records current operationId milestone
          evidence line → (Rename.typedJournal lower).Fits path records line)) ∧
    (∀ current, Delete.validateHistory lower records = .ok current →
      ((Delete.typedJournal lower).Atomic lower path operationId milestone evidence ↔
        ∀ line, (Delete.typedJournal lower).Writes lower path records current operationId milestone
          evidence line → (Delete.typedJournal lower).Fits path records line)) ∧
    (∀ current, CatacombSync.validateHistory lower records = .ok current →
      ((CatacombSync.typedJournal lower).Atomic lower path operationId milestone evidence ↔
        ∀ line, (CatacombSync.typedJournal lower).Writes lower path records current operationId
          milestone evidence line → (CatacombSync.typedJournal lower).Fits path records line)) ∧
    (∀ current, ExternalDelete.validateHistory records = .ok current →
      (ExternalDelete.typedJournal.Atomic lower path operationId milestone evidence ↔
        ∀ line, ExternalDelete.typedJournal.Writes lower path records current operationId milestone
          evidence line → ExternalDelete.typedJournal.Fits path records line)) ∧
    (isNative evidence = true → ∀ line,
      (∀ current, (Enrollment.typedJournal lower).Writes lower path records current operationId
          milestone evidence line →
        ((Enrollment.typedJournal lower).Fits path records line ↔ TypedJournal.FileFits path records line)) ∧
      (∀ current, (Rename.typedJournal lower).Writes lower path records current operationId milestone
          evidence line →
        ((Rename.typedJournal lower).Fits path records line ↔ TypedJournal.FileFits path records line)) ∧
      (∀ current, (Delete.typedJournal lower).Writes lower path records current operationId milestone
          evidence line →
        ((Delete.typedJournal lower).Fits path records line ↔ TypedJournal.FileFits path records line))) := by
  refine ⟨fun current h => TypedJournal.atomic_iff _ hread h,
    fun current h => TypedJournal.atomic_iff _ hread h,
    fun current h => TypedJournal.atomic_iff _ hread h,
    fun current h => TypedJournal.atomic_iff _ hread h,
    fun current h => TypedJournal.atomic_iff _ hread h, fun hnative line => ⟨?_, ?_, ?_⟩⟩
  · exact fun current => TypedJournal.fits_of_tried (Enrollment.readsThree lower) rfl hread hnative
  · exact fun current => TypedJournal.fits_of_tried (Rename.readsThree lower) rfl hread hnative
  · exact fun current => TypedJournal.fits_of_tried (Delete.readsThree lower) rfl hread hnative

end Checked

/-! ## A proof that comes too early -/

/-- A journal of a Catacomb sync that has only its baseline. -/
def syncEntries : List (Entry Unit) := [baselineEntry "sync-user-catacomb" true]

/-- A proof that nothing has prepared. -/
def earlyProof : Entry Unit := ⟨py "CATACOMB_SYNC_RECONCILED", object []⟩

/-- Both have a text, and there is room for them. -/
theorem syncEntries_fit : (∀ entry ∈ syncEntries ++ [earlyProof], entry.Writable) ∧
    sizeBound sampleOperation syncEntries ≤ maxJournalSize ∧
    sizeBound sampleOperation (syncEntries ++ [earlyProof]) ≤ maxJournalSize := by
  decide +kernel

/-- The journal is accepted and read. -/
theorem syncEntries_accepted : ∃ history : CatacombSync.History Unit,
    read (writtenPath (written sampleOperation syncEntries)) =
      .ok (written sampleOperation syncEntries) ∧
    CatacombSync.validateHistory id (written sampleOperation syncEntries) = .ok history ∧
    history.operationId = .str sampleOperation ∧ history.recordCount = 1 ∧
    history.headHash = hashValue (headHash (written sampleOperation syncEntries)) := by
  obtain ⟨hwritable, hsize, -⟩ := syncEntries_fit
  have hread : read (writtenPath (written sampleOperation syncEntries)) =
      .ok (written sampleOperation syncEntries) :=
    read_written (by decide) (fun entry hentry => hwritable entry (List.mem_append_left _ hentry))
      (by decide) hsize
  obtain ⟨st, hrun, hoperation⟩ := exists_of_map (b := true)
    (show ((CatacombSync.run id (written sampleOperation syncEntries)).map fun st =>
      st.operationId.isStr sampleOperation).toOption = _ by decide +kernel)
  refine ⟨_, hread, takeHistory_ok.mpr
    ⟨st, _, hrun, lastHashItem_written sampleOperation ?_, rfl⟩, ?_, length_written _ _, rfl⟩
  · decide
  · exact isStr_iff.mp hoperation

/-- The state machine has no place for it. -/
theorem earlyProof_refused : (CatacombSync.validateHistory (φ := Unit) id
    (written sampleOperation (syncEntries ++ [earlyProof]))).isOk = false := by
  have hrun : (CatacombSync.run (φ := Unit) id
      (written sampleOperation (syncEntries ++ [earlyProof]))).isOk = false := by decide +kernel
  cases hfound : CatacombSync.validateHistory (φ := Unit) id
      (written sampleOperation (syncEntries ++ [earlyProof])) with
  | error e => rfl
  | ok found =>
    obtain ⟨st, _, hst, -⟩ := takeHistory_ok.mp hfound
    rw [hst] at hrun
    exact nomatch hrun

/-- The journal comes to the write, the line has room in the file, and is read back. -/
theorem earlyProof_written {history : CatacombSync.History Unit}
    (hoperation : history.operationId = .str sampleOperation) (hcount : history.recordCount = 1)
    (hhead : history.headHash = hashValue (headHash (written sampleOperation syncEntries))) :
    ∃ line, (CatacombSync.typedJournal id).Writes id
        (writtenPath (written sampleOperation syncEntries)) (written sampleOperation syncEntries)
        history sampleOperation earlyProof.milestone earlyProof.evidence line ∧
      TypedJournal.FileFits (writtenPath (written sampleOperation syncEntries))
        (written sampleOperation syncEntries) line ∧
      validateRecords (lines (writtenContent (written sampleOperation syncEntries)) ++ [line]) =
        .ok (written sampleOperation (syncEntries ++ [earlyProof])) ∧ line ≠ [] := by
  obtain ⟨hwritable, -, hsize⟩ := syncEntries_fit
  have hplain := sampleOperation_plain
  have hcount' : (Value.int history.recordCount : Value Unit) = .int syncEntries.length := by
    rw [hcount]
    rfl
  have hnext : nextRecord ((CatacombSync.typedJournal id).guarded history sampleOperation
      earlyProof.milestone earlyProof.evidence) (writtenContent (written sampleOperation syncEntries)) =
        .ok (writtenRecord sampleOperation (written sampleOperation syncEntries) earlyProof,
          lineOf (writtenRecord sampleOperation (written sampleOperation syncEntries) earlyProof)) :=
    nextRecord_written hplain (fun entry hentry => hwritable entry (List.mem_append_left _ hentry))
      (hwritable _ (List.mem_append_right _ List.mem_cons_self)) (by decide) ⟨rfl, rfl, rfl⟩ hcount' hhead
  refine ⟨_, ⟨?_, ?_, rfl, _, hnext⟩, ⟨writtenContent_terminated _, ?_, ?_⟩, ?_, ?_⟩
  · rw [TypedJournal.tests, if_neg (by
      show ¬ differ _ history.operationId = true
      rw [hoperation, differ_self_str]
      decide), if_neg (by decide)]
  · have hcheck : checkArguments (φ := Unit) id
        ⟨sampleOperation, earlyProof.milestone, earlyProof.evidence, false, .int 1, .none⟩ = .ok () := by
      rfl
    simpa [checkArguments, TypedJournal.guarded, CatacombSync.typedJournal, isNone, isCount, hcount]
      using hcheck
  · rw [length_written, maxJournalRecords, syncEntries, List.length_singleton]
    omega
  · have hlength := length_writtenContent sampleOperation _ hwritable (by decide)
    rw [writtenContent_concat, List.length_append] at hlength
    rw [show (writtenPath (written sampleOperation syncEntries)).content =
      writtenContent (written sampleOperation syncEntries) from rfl]
    exact Nat.le_trans hlength hsize
  · rw [← lines_written_concat]
    exact validateRecords_written hplain _ hwritable (by decide)
  · simp [lineOf]

/-- **A proof that comes too early** is refused behind the write: the call raises, the file has another
    line, and is not accepted any more. -/
theorem sync_append_breaks_sample : ∃ (path : JournalPath) (history : CatacombSync.History Unit)
    (error : Failure Unit) (after : JournalPath),
    (CatacombSync.typedJournal id).readHistory path =
      .ok (written sampleOperation syncEntries, history) ∧
    (CatacombSync.typedJournal (φ := Unit) id).appendChecked id path sampleOperation
      earlyProof.milestone earlyProof.evidence = (.error error, after) ∧
    after.content ≠ path.content ∧
    (∀ found, (CatacombSync.typedJournal (φ := Unit) id).readHistory after ≠ .ok found) ∧
    ¬ (CatacombSync.typedJournal id).Atomic id path sampleOperation earlyProof.milestone
      earlyProof.evidence := by
  obtain ⟨history, hread, hhistory, hoperation, hcount, hhead⟩ := syncEntries_accepted
  obtain ⟨line, hwrites, hfile, hvalid, hne⟩ := earlyProof_written hoperation hcount hhead
  obtain ⟨error, after, hresult, hcontent, hnot⟩ :=
    (CatacombSync.typedJournal id).appendChecked_refuses hread hhistory hwrites hfile hvalid
      earlyProof_refused
  have hchanged : after.content ≠ (writtenPath (written sampleOperation syncEntries)).content := by
    rw [hcontent]
    simpa using hne
  have hhistory' := (CatacombSync.typedJournal id).readHistory_ok.mpr ⟨hread, hhistory⟩
  refine ⟨_, history, error, after, hhistory', hresult, hchanged, hnot, ?_⟩
  rw [TypedJournal.Atomic, hresult]
  exact hchanged

/-- On the same journal the five characterizations hold: that of the Catacomb sync says that the line of
    the early proof does not fit. -/
theorem append_checked_atomic_sample : ∃ (path : JournalPath) (records : List (Value Unit))
    (history : CatacombSync.History Unit),
    read path = .ok records ∧ CatacombSync.validateHistory id records = .ok history ∧
    ((CatacombSync.typedJournal id).Atomic id path sampleOperation earlyProof.milestone
        earlyProof.evidence ↔
      ∀ line, (CatacombSync.typedJournal id).Writes id path records history sampleOperation
        earlyProof.milestone earlyProof.evidence line →
          (CatacombSync.typedJournal id).Fits path records line) := by
  obtain ⟨history, hread, hhistory, -⟩ := syncEntries_accepted
  obtain ⟨-, -, -, hsync, -⟩ := append_checked_atomic_iff id
    (writtenPath (written sampleOperation syncEntries)) _ sampleOperation earlyProof.milestone
    earlyProof.evidence hread
  exact ⟨_, _, history, hread, hhistory, hsync history hhistory⟩

end T2TouchId.Journal
