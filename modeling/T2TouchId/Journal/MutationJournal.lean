/-
  The append-only mutation journal (`src/t2_mutation_journal.py`).

  A journal is a private file of JSON lines.  Every record carries its sequence number, the hash of the
  record before it, and the hash of itself; `validate_records` checks the chain.  `append` opens the
  file, validates what is there under an exclusive lock and writes one more line; `read` validates the
  file under a shared lock, and is bounded: 8 MiB, 4096 lines.

  1. **Data** — `JournalPath` is the directory and the file as `stat` sees them, `Chain` the loop
     variables of `validate_records`, `Append` the arguments of `append`.
  2. **Program** — `validateRecords`, `append`, `read`.  A call that raises also leaves a path behind:
     `append` may have created the directory and an empty file.
  3. **Results** — `lines_append` (a line behind a complete one is a line of its own),
     `lines_append_partial` (behind a torn one it is not), `validateFrom_append` and
     `validateFrom_chain` (what the loop variables are behind a prefix).

  `str.lower` is a parameter: nothing depends on its table.  Writes and syncs are taken not to fail.
-/
import T2TouchId.Python.Json.RoundTrip
import T2TouchId.Python.Text

namespace T2TouchId.Journal

open T2TouchId.Python T2TouchId.Python.Json

/-! ## Exceptions -/

/-- What a journal function raises: a `JournalError` with its message, or another exception. -/
inductive Raised
  | journalError (message : PyStr)
  | keyError
  | osError

def journalError {α : Type} (message : String) : Except Raised α :=
  .error (.journalError (py message))

/-! ## Lines -/

def newline : UInt8 := 0x0A

/-- `stream.readlines()`: the line ends stay, and the last line may have none. -/
def lines : Bytes → List Bytes
  | [] => []
  | b :: rest =>
    if b = newline then [b] :: lines rest
    else
      match lines rest with
      | [] => [[b]]
      | line :: others => (b :: line) :: others

/-- The content ends with a newline, if it has any byte. -/
def Terminated (content : Bytes) : Prop := content = [] ∨ content.getLast? = some newline

instance (content : Bytes) : Decidable (Terminated content) := inferInstanceAs (Decidable (_ ∨ _))

theorem lines_cons_ne {b : UInt8} (h : b ≠ newline) (rest : Bytes) :
    lines (b :: rest) = match lines rest with
      | [] => [[b]]
      | line :: others => (b :: line) :: others :=
  if_neg h

theorem lines_ne_nil {content : Bytes} (h : content ≠ []) : lines content ≠ [] := by
  cases content with
  | nil => exact absurd rfl h
  | cons b rest =>
    by_cases hb : b = newline
    · rw [lines, if_pos hb]
      simp
    · rw [lines_cons_ne hb]
      cases lines rest <;> simp

/-- A text without a newline, and one behind it, are one line. -/
theorem lines_line {line : Bytes} (h : newline ∉ line) : lines (line ++ [newline]) = [line ++ [newline]] := by
  induction line with
  | nil => rfl
  | cons b line ih =>
    obtain ⟨hb, hline⟩ := not_or.mp (mt List.mem_cons.mpr h)
    rw [List.cons_append, lines_cons_ne (Ne.symm hb), ih hline]

/-- **Behind a complete line** another is a line of its own. -/
theorem lines_append {content : Bytes} (h : Terminated content) (more : Bytes) :
    lines (content ++ more) = lines content ++ lines more := by
  induction content with
  | nil => rfl
  | cons b rest ih =>
    by_cases hb : b = newline
    · have hrest : Terminated rest := by
        rcases h with h | h
        · exact nomatch h
        · cases rest with
          | nil => exact .inl rfl
          | cons c rest => exact .inr (by rwa [List.getLast?_cons_cons] at h)
      rw [List.cons_append, lines, if_pos hb, lines, if_pos hb, ih hrest]
      rfl
    · have hne : rest ≠ [] := by
        rintro rfl
        rcases h with h | h
        · exact nomatch h
        · exact hb (Option.some.inj h)
      have hrest : Terminated rest := by
        rcases h with h | h
        · exact nomatch h
        · obtain ⟨c, rest, rfl⟩ := List.exists_cons_of_ne_nil hne
          exact .inr (by rwa [List.getLast?_cons_cons] at h)
      rw [List.cons_append, lines_cons_ne hb, lines_cons_ne hb, ih hrest]
      obtain ⟨line, others, hlines⟩ := List.exists_cons_of_ne_nil (lines_ne_nil hne)
      rw [hlines]
      rfl

/-- **Behind a torn line** the next one is a part of it. -/
theorem lines_append_partial {content line : Bytes} (h : ¬ Terminated content)
    (hline : newline ∉ line) :
    (lines (content ++ (line ++ [newline]))).length = (lines content).length := by
  induction content with
  | nil => exact absurd (.inl rfl) h
  | cons b rest ih =>
    by_cases hb : b = newline
    · have hrest : ¬ Terminated rest := by
        rintro (rfl | hrest)
        · exact h (.inr (congrArg some hb))
        · cases rest with
          | nil => exact nomatch hrest
          | cons c rest => exact h (.inr (by rwa [List.getLast?_cons_cons]))
      rw [List.cons_append, lines, if_pos hb, lines, if_pos hb, List.length_cons, List.length_cons,
        ih hrest]
    · rw [List.cons_append, lines_cons_ne hb, lines_cons_ne hb]
      cases hrest : rest with
      | nil =>
        rw [List.nil_append, lines_line hline]
        rfl
      | cons c tail =>
        have htorn : ¬ Terminated rest := by
          rintro (hnil | hlast)
          · rw [hnil] at hrest; exact nomatch hrest
          · exact h (.inr (by rw [hrest, List.getLast?_cons_cons, ← hrest]; exact hlast))
        have hlen := ih htorn
        rw [← hrest]
        have hne : rest ≠ [] := by rw [hrest]; simp
        have hne' : rest ++ (line ++ [newline]) ≠ [] := by simp
        obtain ⟨l, ls, hlines⟩ := List.exists_cons_of_ne_nil (lines_ne_nil hne)
        obtain ⟨l', ls', hlines'⟩ := List.exists_cons_of_ne_nil (lines_ne_nil hne')
        rw [hlines, hlines'] at hlen ⊢
        exact hlen

/-! ## Canonical text and hashes -/

section Journal

variable {φ : Type} [JsonFloat φ]

/-- `canonical`. -/
def canonical (value : Value φ) : Except Raised Bytes :=
  match dumps value with
  | some text => .ok (asciiBytes text)
  | none => journalError "journal value is not canonical JSON"

/-- `record_hash`. -/
def recordHash (recordWithoutHash : Value φ) : Except Raised PyStr := do
  return py (sha256 (← canonical recordWithoutHash)).hex

/-! ## Arguments -/

/-- `FORBIDDEN_KEY_PARTS`. -/
def forbiddenKeyParts : List PyStr :=
  ["password", "passcode", "credential", "secret", "auth_token"].map py

/-- `SAFE_SECURITY_METADATA_SUFFIXES`. -/
def safeSecurityMetadataSuffixes : List PyStr :=
  ["_verified", "_digest", "_hash", "_present"].map py

/-- `part in text`. -/
def occursIn (part : PyStr) : PyStr → Bool
  | [] => part.isEmpty
  | c :: rest => part.isPrefixOf (c :: rest) || occursIn part rest

/-- `key.lower().replace("-", "_")`. -/
def normalizedKey (lower : PyStr → PyStr) (key : PyStr) : PyStr :=
  (lower key).map fun c => if c = 0x2D then 0x5F else c

mutual

/-- `reject_secrets`; it looks into dictionaries and lists, not into tuples. -/
def rejectSecrets (lower : PyStr → PyStr) : Value φ → PyStr → Except Raised Unit
  | .dict items, path => rejectMembers lower items path
  | .list items, path => rejectElements lower items path 0
  | .bytes _, path => .error (.journalError (path ++ py " contains raw bytes"))
  | _, _ => .ok ()

def rejectMembers (lower : PyStr → PyStr) : List (Key φ × Value φ) → PyStr → Except Raised Unit
  | [], _ => .ok ()
  | (.str key, child) :: items, path =>
    let normalized := normalizedKey lower key
    if forbiddenKeyParts.any (fun part => occursIn part normalized)
        ∧ ¬ safeSecurityMetadataSuffixes.any (fun suffix => suffix.isSuffixOf normalized) then
      .error (.journalError (path ++ py "." ++ key ++ py " may contain secret material"))
    else do
      rejectSecrets lower child (path ++ py "." ++ key)
      rejectMembers lower items path
  | _ :: _, path => .error (.journalError (path ++ py " contains a non-string key"))

def rejectElements (lower : PyStr → PyStr) : List (Value φ) → PyStr → Nat → Except Raised Unit
  | [], _, _ => .ok ()
  | child :: items, path, index => do
    rejectSecrets lower child (path ++ py "[" ++ decimal index ++ py "]")
    rejectElements lower items path (index + 1)

end

/-- The arguments of one `append`. -/
structure Append (φ : Type) where
  operationId : PyStr
  milestone : PyStr
  evidence : Value φ
  exclusive : Bool := false
  expectedRecordCount : Value φ := .none
  expectedPreviousHash : Value φ := .none

/-- `type(value) is int` and not negative. -/
def isCount : Value φ → Bool
  | .int n => 0 ≤ n
  | _ => false

def isNone : Value φ → Bool
  | .none => true
  | _ => false

/-- The tests before the file is opened. -/
def checkArguments (lower : PyStr → PyStr) (args : Append φ) : Except Raised Unit :=
  if isNone args.expectedRecordCount ∧ ¬ isNone args.expectedPreviousHash then
    journalError "guarded append hash requires an expected record count"
  else if ¬ isNone args.expectedRecordCount ∧ ¬ isCount args.expectedRecordCount then
    journalError "expected record count is invalid"
  else if ¬ uuidParses args.operationId then journalError "invalid operation UUID"
  else if ¬ (isAscii args.milestone ∧ isAlnum (args.milestone.filter (· ≠ 0x5F))) then
    journalError "invalid milestone name"
  else rejectSecrets lower args.evidence (py "entry")

/-! ## Validating the chain -/

/-- The loop variables of `validate_records`. -/
structure Chain (φ : Type) where
  sequence : Nat
  previousHash : Option PyStr
  operationId : Value φ

def Chain.start : Chain φ := ⟨0, none, .none⟩

/-- A hash or `None`. -/
def hashValue : Option PyStr → Value φ
  | some hash => .str hash
  | none => .none

/-- `value == value` of one object: containers do not look at their elements. -/
def equalsItself : Value φ → Bool
  | .float x => PyFloat.eq x x
  | _ => true

def sequenceError {α : Type} (message : String) (sequence : Nat) : Except Raised α :=
  .error (.journalError (py message ++ decimal sequence))

/-- `record.get("operation_id") == operation_id`, after the first operation ID was taken. -/
def Chain.sameOperation (chain : Chain φ) (operationId : Value φ) : Bool :=
  if isNone chain.operationId then equalsItself operationId
  else operationId.pyEq chain.operationId

/-- The variables for the next line. -/
def Chain.next (chain : Chain φ) (hash : PyStr) (operationId : Value φ) : Chain φ where
  sequence := chain.sequence + 1
  previousHash := some hash
  operationId := if isNone chain.operationId then operationId else chain.operationId

/-- The body of the loop. -/
def validateLine (chain : Chain φ) (line : Bytes) : Except Raised (Value φ × Chain φ) :=
  match loads line with
  | none => sequenceError "invalid journal JSON at sequence " chain.sequence
  | some (.dict items) =>
    let suppliedHash := Value.find (py "record_hash") items
    let record : Value φ := .dict (Value.eraseItem (py "record_hash") items)
    if ¬ (record.get "format_version").pyEq (.int 1) then
      sequenceError "unsupported journal format at sequence " chain.sequence
    else if ¬ (record.get "sequence").pyEq (.int chain.sequence) then
      sequenceError "non-contiguous journal sequence at " chain.sequence
    else if ¬ (record.get "previous_hash").pyEq (hashValue chain.previousHash) then
      sequenceError "broken journal hash chain at sequence " chain.sequence
    else
      match suppliedHash with
      | some (.str hash) => do
        if hash ≠ (← recordHash record) then
          sequenceError "invalid journal hash at sequence " chain.sequence
        else
          let operationId := record.get "operation_id"
          if ¬ chain.sameOperation operationId then
            sequenceError "operation ID changed at sequence " chain.sequence
          else
            .ok (.dict (Value.insertItem (py "record_hash") (.str hash)
                (Value.eraseItem (py "record_hash") items)),
              chain.next hash operationId)
      | _ => sequenceError "invalid journal hash at sequence " chain.sequence
  | some _ => .error (.journalError
      (py "journal record " ++ decimal chain.sequence ++ py " is not an object"))

/-- The loop, from any state of its variables. -/
def validateFrom (chain : Chain φ) : List Bytes → Except Raised (List (Value φ) × Chain φ)
  | [] => .ok ([], chain)
  | line :: rest => do
    let (record, chain) ← validateLine chain line
    let (records, chain) ← validateFrom chain rest
    return (record :: records, chain)

/-- `validate_records`. -/
def validateRecords (lines : List Bytes) : Except Raised (List (Value φ)) :=
  (validateFrom .start lines).map Prod.fst

/-! ## The file -/

inductive FileKind
  | regular
  | symlink
  | special
  deriving DecidableEq

/-- What `fstat` says, and the content. -/
structure FileInfo where
  kind : FileKind
  owned : Bool
  links : Nat
  mode : Nat
  content : Bytes

structure DirectoryInfo where
  isDirectory : Bool
  owned : Bool
  mode : Nat

/-- The directory of a journal and the journal itself. -/
structure JournalPath where
  parent : Option DirectoryInfo
  file : Option FileInfo

namespace JournalPath

def content (path : JournalPath) : Bytes := (path.file.map FileInfo.content).getD []

/-- Everything `append` does before it takes the lock. -/
def openForAppend (exclusive : Bool) (path : JournalPath) :
    Except Raised FileInfo × JournalPath :=
  -- `mkdir` with `exist_ok`
  let parent := path.parent.getD ⟨true, true, 0o700⟩
  let path := { path with parent := some parent }
  if ¬ parent.isDirectory then (.error .osError, path)
  else if ¬ parent.owned ∨ parent.mode &&& 0o077 ≠ 0 then
    (journalError "journal directory is not private and caller-owned", path)
  else if exclusive ∧ path.file.isSome then (.error .osError, path)
  else
    let file := path.file.getD ⟨.regular, true, 1, 0o600, []⟩
    if file.kind = .symlink then (.error .osError, path)
    else if file.kind ≠ .regular ∨ ¬ file.owned ∨ file.links ≠ 1 then
      (journalError "journal is not a private caller-owned regular file",
        { path with file := some file })
    else
      let file := { file with mode := 0o600 }
      (.ok file, { path with file := some file })

end JournalPath

/-! ## Appending -/

/-- The record without its hash. -/
def unsignedRecord (args : Append φ) (sequence : Nat) (previousHash : Option PyStr) : Value φ :=
  .ofItems [("format_version", .int 1), ("operation_id", .str args.operationId),
    ("sequence", .int sequence), ("previous_hash", hashValue previousHash),
    ("milestone", .str args.milestone), ("evidence", args.evidence)]

/-- `{**unsigned, "record_hash": ...}`. -/
def withHash (unsigned : Value φ) (hash : PyStr) : Value φ :=
  match unsigned with
  | .dict items => .dict (Value.insertItem (py "record_hash") (.str hash) items)
  | other => other

/-- `records[-1]["record_hash"]`, or `None`. -/
def headHash (records : List (Value φ)) : Option PyStr :=
  match records.getLast? with
  | some record =>
    match record.get "record_hash" with
    | .str hash => some hash
    | _ => none
  | none => none

/-- A journal with records belongs to the operation of the first. -/
def checkOperation (args : Append φ) : List (Value φ) → Except Raised Unit
  | [] => .ok ()
  | first :: _ =>
    match first.get? "operation_id" with
    | none => .error .keyError
    | some operationId =>
      if operationId.isStr args.operationId then .ok ()
      else journalError "journal belongs to another operation"

/-- What `append` does under the lock: the record, and the bytes it writes. -/
def nextRecord (args : Append φ) (content : Bytes) : Except Raised (Value φ × Bytes) := do
  let records ← validateRecords (lines content)
  if ¬ isNone args.expectedRecordCount
      ∧ ¬ (Value.int records.length).pyEq args.expectedRecordCount then
    journalError "journal changed before the guarded append"
  else if ¬ isNone args.expectedRecordCount
      ∧ ¬ (hashValue (headHash records)).pyEq args.expectedPreviousHash then
    journalError "journal head changed before the guarded append"
  else
    checkOperation args records
    let unsigned := unsignedRecord args records.length (headHash records)
    let record := withHash unsigned (← recordHash unsigned)
    return (record, (← canonical record) ++ [newline])

/-- `append`. -/
def append (lower : PyStr → PyStr) (path : JournalPath) (args : Append φ) :
    Except Raised (Value φ) × JournalPath :=
  match checkArguments lower args with
  | .error e => (.error e, path)
  | .ok () =>
    match path.openForAppend args.exclusive with
    | (.error e, path) => (.error e, path)
    | (.ok file, path) =>
      match nextRecord args file.content with
      | .error e => (.error e, path)
      | .ok (record, payload) =>
        (.ok record, { path with file := some { file with content := file.content ++ payload } })

/-! ## Reading -/

def maxJournalSize : Nat := 8 * 1024 * 1024
def maxJournalRecords : Nat := 4096

/-- What `fstat` must say before a journal is read. -/
def FileInfo.isSafe (file : FileInfo) : Bool :=
  file.kind = .regular ∧ file.owned ∧ file.links = 1 ∧ file.mode &&& 0o077 = 0
    ∧ file.content.length ≤ maxJournalSize

/-- What is read under the shared lock. -/
def readLines (content : Bytes) : Except Raised (List (Value φ)) :=
  if maxJournalRecords < (lines content).length then
    journalError "mutation journal has too many records"
  else validateRecords (lines content)

/-- `read`. -/
def read (path : JournalPath) : Except Raised (List (Value φ)) :=
  match path.file with
  | none => journalError "cannot safely open mutation journal"
  | some file =>
    if file.kind = .symlink then journalError "cannot safely open mutation journal"
    else if ¬ file.isSafe then
      journalError "mutation journal ownership, mode, or size is unsafe"
    else readLines file.content

/-! ## What the chain knows -/

theorem validateFrom_append (ls ls' : List Bytes) : ∀ chain : Chain φ,
    validateFrom chain (ls ++ ls') = (do
      let (records, chain) ← validateFrom chain ls
      let (records', chain) ← validateFrom chain ls'
      return (records ++ records', chain)) := by
  induction ls with
  | nil =>
    intro chain
    show validateFrom chain ls' = (validateFrom chain ls').bind fun r => .ok ([] ++ r.1, r.2)
    cases validateFrom chain ls' <;> rfl
  | cons line ls ih =>
    intro chain
    rw [List.cons_append, validateFrom, validateFrom]
    cases validateLine chain line with
    | error e => rfl
    | ok found =>
      show (validateFrom found.2 (ls ++ ls')).bind _ = _
      rw [ih]
      cases hls : validateFrom found.2 ls with
      | error e =>
        show _ = Except.bind (Except.bind (validateFrom found.2 ls) _) _
        rw [hls]
        rfl
      | ok first =>
        show _ = Except.bind (Except.bind (validateFrom found.2 ls) _) _
        rw [hls]
        show Except.bind (Except.bind (validateFrom first.2 ls') _) _ =
          Except.bind (validateFrom first.2 ls') _
        cases validateFrom first.2 ls' <;> rfl

theorem validateFrom_length (ls : List Bytes) : ∀ (chain chain' : Chain φ) (records : List (Value φ)),
    validateFrom chain ls = .ok (records, chain') → records.length = ls.length := by
  induction ls with
  | nil =>
    intro chain chain' records h
    cases h
    rfl
  | cons line ls ih =>
    intro chain chain' records h
    obtain ⟨⟨record, chain1⟩, -, h⟩ := bind_ok h
    obtain ⟨⟨rest, chain2⟩, hrest, h⟩ := bind_ok h
    cases h
    rw [List.length_cons, List.length_cons, ih chain1 _ rest hrest]

/-- A validated line: what it says, and the loop variables behind it. -/
theorem validateLine_ok {chain chain' : Chain φ} {line : Bytes} {record : Value φ}
    (h : validateLine chain line = .ok (record, chain')) :
    ∃ items hash, loads line = some (.dict items) ∧
      recordHash (Value.dict (Value.eraseItem (py "record_hash") items)) = .ok hash ∧
      record = .dict (Value.insertItem (py "record_hash") (.str hash)
        (Value.eraseItem (py "record_hash") items)) ∧
      chain' = chain.next hash
        ((Value.dict (Value.eraseItem (py "record_hash") items)).get "operation_id") := by
  unfold validateLine at h
  split at h
  · exact nomatch h
  · rename_i items hloads
    simp only at h
    split at h
    · exact nomatch h
    · split at h
      · exact nomatch h
      · split at h
        · exact nomatch h
        · split at h
          · rename_i hash _
            obtain ⟨expected, hexpected, h⟩ := bind_ok h
            split at h
            · exact nomatch h
            · rename_i hhash
              split at h
              · exact nomatch h
              · cases h
                exact ⟨items, hash, hloads, not_not.mp hhash ▸ hexpected, rfl, rfl⟩
          · exact nomatch h
  · exact nomatch h

/-- The loop variables behind these records. -/
structure Chain.Follows (chain : Chain φ) (records : List (Value φ)) : Prop where
  sequence : chain.sequence = records.length
  previousHash : chain.previousHash = headHash records
  /-- A hash that was accepted is one that was computed. -/
  hashed : ∀ hash, chain.previousHash = some hash → ∃ text, hash = py (sha256 text).hex
  /-- No operation is set before the first record, … -/
  operation_nil : records = [] → isNone chain.operationId = true
  /-- … and the one of the first record after it. -/
  operation_cons : ∀ first rest operationId, records = first :: rest →
    first.get? "operation_id" = some (.str operationId) → chain.operationId = .str operationId

omit [JsonFloat φ] in
theorem Chain.follows_start : Chain.start.Follows ([] : List (Value φ)) :=
  ⟨rfl, rfl, nofun, fun _ => rfl, nofun⟩

/-- **One line** keeps the loop variables in step with the records. -/
theorem Chain.Follows.line {chain chain' : Chain φ} {records : List (Value φ)} {line : Bytes}
    {record : Value φ} (h : chain.Follows records)
    (hline : validateLine chain line = .ok (record, chain')) :
    chain'.Follows (records ++ [record]) := by
  obtain ⟨items, hash, -, hhash, rfl, rfl⟩ := validateLine_ok hline
  refine ⟨?_, ?_, fun last hlast => ?_, fun hnil => ?_, fun first rest operationId hcons hfirst => ?_⟩
  · show chain.sequence + 1 = _
    rw [List.length_append, h.sequence]
    rfl
  · unfold headHash
    simp only [List.getLast?_concat, Value.get, Value.get?, Value.find_insertItem_self,
      Option.getD_some]
    rfl
  · obtain rfl : hash = last := Option.some.inj hlast
    obtain ⟨text, -, hhash⟩ := bind_ok hhash
    exact ⟨text, (Except.ok.inj hhash).symm⟩
  · exact absurd hnil (by simp)
  · cases records with
    | nil =>
      injection hcons with hfirst' _
      subst hfirst'
      have hget : Value.find (py "operation_id") (Value.eraseItem (py "record_hash") items) =
          some (.str operationId) := by
        rw [← hfirst]
        exact (Value.find_insertItem_ne (by decide) _ _).symm
      show (if isNone chain.operationId then _ else _) = _
      rw [if_pos (h.operation_nil rfl)]
      show (Value.find _ _).getD .none = _
      rw [hget]
      rfl
    | cons first' records =>
      injection hcons with hfirst' _
      have hset := h.operation_cons first' records operationId rfl (hfirst' ▸ hfirst)
      show (if isNone chain.operationId then _ else _) = _
      rw [hset]
      rfl

/-- **A run** of the loop. -/
theorem Chain.Follows.lines (ls : List Bytes) : ∀ {chain chain' : Chain φ}
    {records records' : List (Value φ)}, chain.Follows records →
    validateFrom chain ls = .ok (records', chain') → chain'.Follows (records ++ records') := by
  induction ls with
  | nil =>
    intro chain chain' records records' h hls
    cases hls
    rwa [List.append_nil]
  | cons line ls ih =>
    intro chain chain' records records' h hls
    obtain ⟨⟨record, chain1⟩, hline, hls⟩ := bind_ok hls
    obtain ⟨⟨rest, chain2⟩, hrest, hls⟩ := bind_ok hls
    cases hls
    have hfollows := ih (h.line hline) hrest
    rwa [List.append_assoc, List.singleton_append] at hfollows

end Journal

end T2TouchId.Journal
