/-
  A journal that appends alone have written.

  Problem: what `read` gives is a list of records that a file holds; a statement about a file needs one.
  Every list of milestones with evidence that JSON text can stand for is the content of a journal.

  1. **Program** — `written` are the records that appends leave one behind the other, each with the
     hash of the one before; `writtenContent` is the file.
  2. **Size** — `dumps_unsigned` counts the text of a record from the texts in it, so that a bound on
     the file (`sizeBound`) computes without a hash.
  3. **Result** — `read_written`: the file is read back as these records.
-/
import T2TouchId.Journal.Evidence
import T2TouchId.Journal.Readable

namespace T2TouchId.Journal

open T2TouchId.Python T2TouchId.Python.Json

section Written

variable {φ : Type} [JsonFloat φ]

/-! ## The text of a record -/

/-- A member of an object with the text of its value. -/
structure Member (φ : Type) where
  name : PyStr
  value : Value φ
  text : PyStr

def Member.item (m : Member φ) : Key φ × Value φ := (.str m.name, m.value)

/-- The characters it takes: the name, the colon, the value, and a comma or the closing brace. -/
def Member.length (m : Member φ) : Nat := (dumpsStr m.name).length + m.text.length + 2

theorem dumpsMembers_length (members : List (Member φ)) : members ≠ [] →
    (∀ m ∈ members, dumps m.value = some m.text) →
    ∃ text, dumpsMembers (members.map Member.item) = some text ∧
      text.length = (members.map Member.length).sum := by
  induction members with
  | nil => exact fun h => absurd rfl h
  | cons m members ih =>
    intro _ htexts
    obtain ⟨hm, hmembers⟩ := List.forall_mem_cons.mp htexts
    by_cases hrest : members = []
    · -- the last member has the brace behind it
      subst hrest
      refine ⟨dumpsStr m.name ++ colon :: m.text ++ [closeBrace], ?_, ?_⟩
      · show (dumps m.value).bind _ = _
        rw [hm]
        rfl
      · simp only [List.length_append, List.length_cons, List.length_nil, List.map_cons,
          List.map_nil, List.sum_cons, List.sum_nil, Member.length]
        omega
    · obtain ⟨text, htext, hlength⟩ := ih hrest hmembers
      have hmap : members.map Member.item ≠ [] := by simpa using hrest
      refine ⟨dumpsStr m.name ++ colon :: m.text ++ comma :: text, ?_, ?_⟩
      · rw [List.map_cons, Member.item, dumpsMembers_cons hmap, hm, htext]
        rfl
      · rw [List.map_cons, List.sum_cons, ← hlength]
        simp only [List.length_append, List.length_cons, Member.length]
        omega

/-- `previous_hash` in a text. -/
def previousText : Option PyStr → PyStr
  | some hash => dumpsStr hash
  | none => py "null"

theorem dumps_hashValue (previousHash : Option PyStr) :
    dumps (hashValue previousHash : Value φ) = some (previousText previousHash) := by
  cases previousHash <;> rfl

/-- The text of a record without its hash, … -/
theorem dumps_unsigned {args : Append φ} {sequence : Nat} {evidence digits : PyStr}
    (hevidence : dumps args.evidence = some evidence) (hsequence : dumpsInt sequence = some digits)
    (previousHash : Option PyStr) : ∃ text,
      dumps (unsignedRecord args sequence previousHash) = some text ∧
      text.length = evidence.length + (dumpsStr args.milestone).length +
        (dumpsStr args.operationId).length + (previousText previousHash).length + digits.length + 90 := by
  obtain ⟨text, htext, hlength⟩ := dumpsMembers_length (φ := φ)
    [⟨py "evidence", args.evidence, evidence⟩, ⟨py "format_version", .int 1, py "1"⟩,
      ⟨py "milestone", .str args.milestone, dumpsStr args.milestone⟩,
      ⟨py "operation_id", .str args.operationId, dumpsStr args.operationId⟩,
      ⟨py "previous_hash", hashValue previousHash, previousText previousHash⟩,
      ⟨py "sequence", .int sequence, digits⟩]
    (by simp) (by
      simp only [List.forall_mem_cons]
      exact ⟨hevidence, by rfl, rfl, rfl, dumps_hashValue _, hsequence, nofun⟩)
  refine ⟨openBrace :: text, ?_, ?_⟩
  · rw [unsignedRecord_eq, dumps]
    show (if keysCompare _ = true then (dumpsMembers _).bind _ else none) = _
    rw [if_pos (by rfl)]
    exact congrArg (Option.bind · _) htext
  · rw [List.length_cons, hlength]
    simp only [List.map_cons, List.map_nil, List.sum_cons, List.sum_nil, Member.length,
      show (dumpsStr (py "evidence")).length = 10 by decide,
      show (dumpsStr (py "format_version")).length = 16 by decide,
      show (dumpsStr (py "milestone")).length = 11 by decide,
      show (dumpsStr (py "operation_id")).length = 14 by decide,
      show (dumpsStr (py "previous_hash")).length = 15 by decide,
      show (dumpsStr (py "sequence")).length = 10 by decide,
      show (py "1").length = 1 by decide]
    omega

/-- … and with it. -/
theorem dumps_signed {args : Append φ} {sequence : Nat} {evidence digits : PyStr}
    (hevidence : dumps args.evidence = some evidence) (hsequence : dumpsInt sequence = some digits)
    (previousHash : Option PyStr) (hash : PyStr) :
    ∃ text, dumps (withHash (unsignedRecord args sequence previousHash) hash) = some text := by
  obtain ⟨text, htext, -⟩ := dumpsMembers_length (φ := φ)
    [⟨py "evidence", args.evidence, evidence⟩, ⟨py "format_version", .int 1, py "1"⟩,
      ⟨py "milestone", .str args.milestone, dumpsStr args.milestone⟩,
      ⟨py "operation_id", .str args.operationId, dumpsStr args.operationId⟩,
      ⟨py "previous_hash", hashValue previousHash, previousText previousHash⟩,
      ⟨py "record_hash", .str hash, dumpsStr hash⟩, ⟨py "sequence", .int sequence, digits⟩]
    (by simp) (by
      simp only [List.forall_mem_cons]
      exact ⟨hevidence, by rfl, rfl, rfl, dumps_hashValue _, rfl, hsequence, nofun⟩)
  refine ⟨openBrace :: text, ?_⟩
  rw [withHash_unsignedRecord, dumps]
  show (if keysCompare _ = true then (dumpsMembers _).bind _ else none) = _
  rw [if_pos (by rfl)]
  exact congrArg (Option.bind · _) htext

/-- A sequence number of a journal has four digits at most. -/
theorem dumpsInt_sequence {sequence : Nat} (h : sequence < maxJournalRecords) :
    ∃ digits, dumpsInt sequence = some digits ∧ digits.length ≤ 4 := by
  have hlength : (decimal sequence).length ≤ 4 := by
    unfold decimal
    split
    · decide
    · rename_i hzero
      rw [List.length_reverse, List.length_map, Nat.digits_length_le_iff (by decide)]
      exact Nat.lt_trans h (by decide)
  refine ⟨decimal sequence, ?_, hlength⟩
  unfold dumpsInt
  rw [if_neg (by show ¬ 4300 < (decimal sequence).length; omega), if_neg (by omega)]
  rfl

/-! ## The records -/

/-- What an append adds to an operation: a milestone and its evidence. -/
structure Entry (φ : Type) where
  milestone : PyStr
  evidence : Value φ

def Entry.args (entry : Entry φ) (operationId : PyStr) : Append φ where
  operationId := operationId
  milestone := entry.milestone
  evidence := entry.evidence

/-- JSON text can stand for an entry. -/
def Entry.Writable (entry : Entry φ) : Prop :=
  noPairs entry.milestone = true ∧ isNative entry.evidence = true ∧
    (dumps entry.evidence).isSome = true

instance (entry : Entry φ) : Decidable entry.Writable := inferInstanceAs (Decidable (_ ∧ _ ∧ _))

/-- The hash of a record that has a text. -/
def hashOf (unsigned : Value φ) : PyStr := py (sha256 (asciiBytes ((dumps unsigned).getD []))).hex

theorem recordHash_of {unsigned : Value φ} {text : PyStr} (h : dumps unsigned = some text) :
    recordHash unsigned = .ok (hashOf unsigned) := by
  rw [recordHash, canonical, hashOf, h]
  rfl

def unsignedEntry (operationId : PyStr) (records : List (Value φ)) (entry : Entry φ) : Value φ :=
  unsignedRecord (entry.args operationId) records.length (headHash records)

/-- The record of an entry behind others. -/
def writtenRecord (operationId : PyStr) (records : List (Value φ)) (entry : Entry φ) : Value φ :=
  withHash (unsignedEntry operationId records entry) (hashOf (unsignedEntry operationId records entry))

/-- The records of a list of entries. -/
def written (operationId : PyStr) (entries : List (Entry φ)) : List (Value φ) :=
  entries.foldl (fun records entry => records ++ [writtenRecord operationId records entry]) []

theorem written_concat (operationId : PyStr) (entries : List (Entry φ)) (entry : Entry φ) :
    written operationId (entries ++ [entry]) =
      written operationId entries ++ [writtenRecord operationId (written operationId entries) entry] := by
  simp only [written, List.foldl_append, List.foldl_cons, List.foldl_nil]

/-- The first record does not depend on what follows. -/
theorem written_cons (operationId : PyStr) (entry : Entry φ) (entries : List (Entry φ)) :
    ∃ rest, written operationId (entry :: entries) = writtenRecord operationId [] entry :: rest := by
  induction entries using List.reverseRecOn with
  | nil => exact ⟨[], rfl⟩
  | append_singleton entries last ih =>
    obtain ⟨rest, hrest⟩ := ih
    rw [← List.cons_append, written_concat, hrest]
    exact ⟨_, rfl⟩

theorem length_written (operationId : PyStr) (entries : List (Entry φ)) :
    (written operationId entries).length = entries.length := by
  induction entries using List.reverseRecOn with
  | nil => rfl
  | append_singleton entries entry ih =>
    rw [written_concat, List.length_append, List.length_append, ih]
    rfl

theorem headHash_written (operationId : PyStr) (entries : List (Entry φ)) :
    ∀ hash, headHash (written operationId entries) = some hash → ∃ text, hash = py (sha256 text).hex := by
  induction entries using List.reverseRecOn with
  | nil => exact nofun
  | append_singleton entries entry _ =>
    intro hash h
    rw [written_concat, headHash, List.getLast?_concat, writtenRecord, unsignedEntry,
      withHash_unsignedRecord] at h
    simp (disch := decide) only [Value.get, Value.get?, Value.find] at h
    exact ⟨_, (Option.some.inj h).symm⟩

theorem operationId_written (operationId : PyStr) (entries : List (Entry φ)) :
    ∀ record ∈ written operationId entries, record.get? "operation_id" = some (.str operationId) := by
  induction entries using List.reverseRecOn with
  | nil => exact nofun
  | append_singleton entries entry ih =>
    intro record hrecord
    rw [written_concat] at hrecord
    rcases List.mem_append.mp hrecord with hrecord | hrecord
    · exact ih record hrecord
    · rw [List.mem_singleton.mp hrecord, writtenRecord, unsignedEntry, withHash_unsignedRecord]
      rfl

theorem checkOperation_written {operationId : PyStr} (entries : List (Entry φ)) {args : Append φ}
    (h : args.operationId = operationId) :
    checkOperation args (written operationId entries) = .ok () := by
  unfold checkOperation
  split
  · rfl
  · rename_i first rest hwritten
    rw [operationId_written operationId entries first (by rw [hwritten]; exact List.mem_cons_self)]
    exact if_pos (isStr_iff.mpr (congrArg Value.str h.symm))

theorem evidence_written (operationId : PyStr) (records : List (Value φ)) (entry : Entry φ) :
    (writtenRecord operationId records entry).get "evidence" = entry.evidence := by
  rw [writtenRecord, unsignedEntry, withHash_unsignedRecord]
  rfl

theorem milestone_written (operationId : PyStr) (records : List (Value φ)) (entry : Entry φ) :
    (writtenRecord operationId records entry).get "milestone" = .str entry.milestone := by
  rw [writtenRecord, unsignedEntry, withHash_unsignedRecord]
  rfl

/-! ## The file -/

/-- The line of a record. -/
def lineOf (record : Value φ) : Bytes := asciiBytes ((dumps record).getD []) ++ [newline]

def writtenContent (records : List (Value φ)) : Bytes := records.flatMap lineOf

def writtenPath (records : List (Value φ)) : JournalPath :=
  ⟨some ⟨true, true, 0o700⟩, some ⟨.regular, true, 1, 0o600, writtenContent records⟩⟩

theorem writtenContent_terminated (records : List (Value φ)) : Terminated (writtenContent records) := by
  rcases List.eq_nil_or_concat' records with rfl | ⟨records, record, rfl⟩
  · exact .inl rfl
  · refine .inr ?_
    rw [writtenContent, List.flatMap_append, List.flatMap_singleton, lineOf, ← List.append_assoc,
      List.getLast?_concat]

/-- The line of a record has no newline but its last byte. -/
theorem lines_lineOf (record : Value φ) : lines (lineOf record) = [lineOf record] := by
  refine lines_line (newline_notMem_payload ?_)
  cases htext : dumps record with
  | none => exact nofun
  | some text => exact dumps_printable _ _ htext

theorem writtenContent_concat (operationId : PyStr) (entries : List (Entry φ)) (entry : Entry φ) :
    writtenContent (written operationId (entries ++ [entry])) =
      writtenContent (written operationId entries) ++
        lineOf (writtenRecord operationId (written operationId entries) entry) := by
  rw [written_concat, writtenContent, List.flatMap_append, List.flatMap_singleton, ← writtenContent]

theorem lines_written_concat (operationId : PyStr) (entries : List (Entry φ)) (entry : Entry φ) :
    lines (writtenContent (written operationId (entries ++ [entry]))) =
      lines (writtenContent (written operationId entries)) ++
        [lineOf (writtenRecord operationId (written operationId entries) entry)] := by
  rw [writtenContent_concat, lines_append (writtenContent_terminated _), lines_lineOf]

/-- **One more entry** is one more line that validates. -/
theorem validateLine_written {operationId : PyStr} {entry : Entry φ} {records : List (Value φ)}
    {chain : Chain φ} (hoperation : noPairs operationId = true) (hentry : entry.Writable)
    (hroom : records.length < maxJournalRecords) (hfollows : chain.Follows records)
    (hcheck : checkOperation (entry.args operationId) records = .ok ()) :
    ∃ chain', validateLine chain (lineOf (writtenRecord operationId records entry)) =
      .ok (writtenRecord operationId records entry, chain') := by
  obtain ⟨hmilestone, hnative, hsome⟩ := hentry
  obtain ⟨evidence, hevidence⟩ := Option.isSome_iff_exists.mp hsome
  obtain ⟨digits, hdigits, -⟩ := dumpsInt_sequence hroom
  have hevidence : dumps (entry.args operationId).evidence = some evidence := hevidence
  obtain ⟨short, hshort, -⟩ := dumps_unsigned hevidence hdigits (headHash records)
  obtain ⟨text, htext⟩ := dumps_signed hevidence hdigits (headHash records)
    (hashOf (unsignedEntry operationId records entry))
  have hprevious : ∀ t, headHash records = some t → noPairs t = true := by
    intro t ht
    obtain ⟨old, rfl⟩ := hfollows.hashed t (hfollows.previousHash.trans ht)
    exact noPairs_hash _
  have hsame : isNative (writtenRecord operationId records entry) =
      isNative (entry.args operationId).evidence :=
    isNative_record hmilestone hoperation hprevious (noPairs_hash _)
  have hrecord : isNative (writtenRecord operationId records entry) = true := hsame.trans hnative
  obtain ⟨chain', hline⟩ := validateLine_record [0x0A] (.inr rfl) hfollows hcheck
    (recordHash_of hshort) htext hrecord
  have hdumps : dumps (writtenRecord operationId records entry) = some text := htext
  refine ⟨chain', ?_⟩
  rw [lineOf, hdumps, Option.getD_some, asciiBytes_newline]
  exact hline

theorem validateFrom_snoc {start chain chain' : Chain φ} {ls : List Bytes} {line : Bytes}
    {records : List (Value φ)} {record : Value φ} (h : validateFrom start ls = .ok (records, chain))
    (hline : validateLine chain line = .ok (record, chain')) :
    validateFrom start (ls ++ [line]) = .ok (records ++ [record], chain') := by
  rw [validateFrom_append, h]
  show (validateFrom chain [line]).bind _ = _
  rw [validateFrom, hline]
  rfl

/-- **What appends alone have written** validates. -/
theorem validate_written {operationId : PyStr} (hoperation : noPairs operationId = true)
    (entries : List (Entry φ)) :
    (∀ entry ∈ entries, entry.Writable) → entries.length ≤ maxJournalRecords →
    ∃ chain : Chain φ, validateFrom .start (lines (writtenContent (written operationId entries))) =
      .ok (written operationId entries, chain) ∧ chain.Follows (written operationId entries) := by
  induction entries using List.reverseRecOn with
  | nil => exact fun _ _ => ⟨.start, rfl, Chain.follows_start⟩
  | append_singleton entries entry ih =>
    intro hwritable hlength
    rw [List.length_append, List.length_singleton] at hlength
    obtain ⟨chain, hfrom, hfollows⟩ :=
      ih (fun e he => hwritable e (List.mem_append_left _ he)) (by omega)
    have hcheck := checkOperation_written entries
      (show (entry.args operationId).operationId = operationId from rfl)
    have hroom : (written operationId entries).length < maxJournalRecords := by
      rw [length_written]
      omega
    obtain ⟨chain', hline⟩ := validateLine_written hoperation
      (hwritable entry (List.mem_append_right _ List.mem_cons_self)) hroom hfollows hcheck
    rw [lines_written_concat, written_concat]
    exact ⟨chain', validateFrom_snoc hfrom hline, hfollows.line hline⟩

theorem validateRecords_written {operationId : PyStr} (hoperation : noPairs operationId = true)
    (entries : List (Entry φ)) (hwritable : ∀ entry ∈ entries, entry.Writable)
    (hlength : entries.length ≤ maxJournalRecords) :
    validateRecords (lines (writtenContent (written operationId entries))) =
      .ok (written operationId entries) := by
  obtain ⟨chain, hfrom, -⟩ := validate_written hoperation entries hwritable hlength
  rw [validateRecords, hfrom]
  rfl

/-- **Behind a written journal** an append that knows its number of records and its head hash writes
    the line of the entry. -/
theorem nextRecord_written {operationId : PyStr} {entries : List (Entry φ)} {entry : Entry φ}
    {args : Append φ} (hoperation : noPairs operationId = true)
    (hwritable : ∀ entry ∈ entries, entry.Writable) (hentry : entry.Writable)
    (hlength : entries.length < maxJournalRecords)
    (hargs : args.operationId = operationId ∧ args.milestone = entry.milestone ∧
      args.evidence = entry.evidence)
    (hcount : args.expectedRecordCount = .int entries.length)
    (hhead : args.expectedPreviousHash = hashValue (headHash (written operationId entries))) :
    nextRecord args (writtenContent (written operationId entries)) =
      .ok (writtenRecord operationId (written operationId entries) entry,
        lineOf (writtenRecord operationId (written operationId entries) entry)) := by
  obtain ⟨-, -, hsome⟩ := hentry
  obtain ⟨evidence, hevidence⟩ := Option.isSome_iff_exists.mp hsome
  obtain ⟨digits, hdigits, -⟩ := dumpsInt_sequence
    (show (written operationId entries).length < maxJournalRecords by rw [length_written]; exact hlength)
  have hevidence : dumps (entry.args operationId).evidence = some evidence := hevidence
  obtain ⟨short, hshort, -⟩ := dumps_unsigned hevidence hdigits (headHash (written operationId entries))
  obtain ⟨text, htext⟩ := dumps_signed hevidence hdigits (headHash (written operationId entries))
    (hashOf (unsignedEntry operationId (written operationId entries) entry))
  have hvalid := validateRecords_written hoperation entries hwritable (by omega)
  have hunsigned : unsignedRecord args (written operationId entries).length
      (headHash (written operationId entries)) =
        unsignedEntry operationId (written operationId entries) entry := by
    rw [unsignedEntry, unsignedRecord, unsignedRecord, hargs.1, hargs.2.1, hargs.2.2]
    rfl
  have hself : ∀ hash : Option PyStr, (hashValue hash : Value φ).pyEq (hashValue hash) = true := by
    rintro (_ | hash) <;> simp [hashValue, Value.pyEq]
  have hguard : ¬ (¬ isNone args.expectedRecordCount = true ∧
      ¬ (Value.int (written operationId entries).length).pyEq args.expectedRecordCount = true) := by
    rw [hcount, length_written, pyEq_int_self]
    simp
  have hguard' : ¬ (¬ isNone args.expectedRecordCount = true ∧
      ¬ (hashValue (headHash (written operationId entries))).pyEq args.expectedPreviousHash = true) := by
    rw [hhead, hself]
    simp
  have hdumps : dumps (writtenRecord operationId (written operationId entries) entry) = some text := htext
  simp only [nextRecord, bind, Except.bind, hvalid, if_neg hguard, if_neg hguard',
    checkOperation_written entries hargs.1, hunsigned]
  have hhash : recordHash (unsignedEntry operationId (written operationId entries) entry) =
      .ok (hashOf (unsignedEntry operationId (written operationId entries) entry)) :=
    recordHash_of hshort
  have hcanonical : canonical (writtenRecord operationId (written operationId entries) entry) =
      .ok (asciiBytes text) := by
    rw [canonical, hdumps]
  rw [hhash]
  show (canonical (writtenRecord operationId (written operationId entries) entry)).bind _ = _
  rw [hcanonical, lineOf, hdumps]
  rfl
/-! ## The size -/

/-- No line of an entry is longer than this. -/
def lineBound (operationId : PyStr) (entry : Entry φ) : Nat :=
  ((dumps entry.evidence).getD []).length + (dumpsStr entry.milestone).length +
    (dumpsStr operationId).length + 66 + 4 + 90 + 82

def sizeBound (operationId : PyStr) (entries : List (Entry φ)) : Nat :=
  (entries.map (lineBound operationId)).sum

theorem length_lineOf (operationId : PyStr) {entry : Entry φ} {records : List (Value φ)}
    (hentry : entry.Writable) (hroom : records.length < maxJournalRecords)
    (hprevious : ∀ hash, headHash records = some hash → ∃ text, hash = py (sha256 text).hex) :
    (lineOf (writtenRecord operationId records entry)).length ≤ lineBound operationId entry := by
  obtain ⟨-, -, hsome⟩ := hentry
  obtain ⟨evidence, hevidence⟩ := Option.isSome_iff_exists.mp hsome
  obtain ⟨digits, hdigits, hfour⟩ := dumpsInt_sequence hroom
  have hargs : dumps (entry.args operationId).evidence = some evidence := hevidence
  obtain ⟨short, hshort, hlength⟩ := dumps_unsigned hargs hdigits (headHash records)
  obtain ⟨text, htext⟩ := dumps_signed hargs hdigits (headHash records) (hashOf (unsignedEntry operationId records entry))
  have htotal := length_record (length_dumpsStr_hash _) (recordHash_of hshort) htext
  have hhash : (previousText (headHash records)).length ≤ 66 := by
    cases hhead : headHash records with
    | none =>
      show (py "null").length ≤ 66
      decide
    | some hash =>
      obtain ⟨old, rfl⟩ := hprevious hash hhead
      exact Nat.le_of_eq (length_dumpsStr_hash old)
  have hline : (lineOf (writtenRecord operationId records entry)).length = text.length + 1 := by
    have hrecord : dumps (writtenRecord operationId records entry) = some text := htext
    rw [lineOf, hrecord, Option.getD_some, List.length_append, asciiBytes, List.length_map,
      List.length_singleton]
  rw [lineLength, hshort, Option.getD_some, hlength] at htotal
  have hmilestone : (entry.args operationId).milestone = entry.milestone := rfl
  have hoperation : (entry.args operationId).operationId = operationId := rfl
  rw [hmilestone, hoperation] at htotal
  rw [hline, htotal, lineBound, hevidence, Option.getD_some]
  omega

theorem length_writtenContent (operationId : PyStr) (entries : List (Entry φ)) :
    (∀ entry ∈ entries, entry.Writable) → entries.length ≤ maxJournalRecords →
    (writtenContent (written operationId entries)).length ≤ sizeBound operationId entries := by
  induction entries using List.reverseRecOn with
  | nil => exact fun _ _ => Nat.le_refl 0
  | append_singleton entries entry ih =>
    intro hwritable hlength
    rw [List.length_append, List.length_singleton] at hlength
    have hentries := ih (fun e he => hwritable e (List.mem_append_left _ he)) (by omega)
    have hroom : (written operationId entries).length < maxJournalRecords := by
      rw [length_written]
      omega
    have hline := length_lineOf operationId
      (hwritable entry (List.mem_append_right _ List.mem_cons_self)) hroom
      (headHash_written operationId entries)
    rw [written_concat, writtenContent, List.flatMap_append, List.flatMap_singleton, ← writtenContent,
      List.length_append, sizeBound, List.map_append, List.sum_append, ← sizeBound]
    simp only [List.map_cons, List.map_nil, List.sum_cons, List.sum_nil]
    omega

/-- **A written journal is read back.** -/
theorem read_written {operationId : PyStr} {entries : List (Entry φ)}
    (hoperation : noPairs operationId = true) (hwritable : ∀ entry ∈ entries, entry.Writable)
    (hlength : entries.length ≤ maxJournalRecords)
    (hsize : sizeBound operationId entries ≤ maxJournalSize) :
    read (writtenPath (written operationId entries)) = .ok (written operationId entries) := by
  have hrecords := validateRecords_written hoperation entries hwritable hlength
  obtain ⟨_, -, -, hcount⟩ := validateRecords_ok hrecords
  have hcontent := length_writtenContent operationId entries hwritable hlength
  rw [writtenPath, read_private rfl rfl rfl rfl rfl, if_pos (Nat.le_trans hcontent hsize), readLines,
    if_neg (by rw [← hcount, length_written]; omega)]
  exact hrecords

/-! ## The last hash -/

omit [JsonFloat φ] in
theorem fromHexParses_of {s : PyStr} (h : ∀ c ∈ s, isHexDigit c.val = true ∧ isIntSpace c.val = false)
    (heven : s.length % 2 = 0) : fromHexParses s = true := by
  induction s using fromHexParses.induct with
  | case1 => rfl
  | case2 c rest hspace =>
    exact absurd hspace (by simp [(h c List.mem_cons_self).2])
  | case3 c hspace d rest ih =>
    have hc := h c List.mem_cons_self
    have hd := h d (List.mem_cons_of_mem _ List.mem_cons_self)
    have hrest : rest.length % 2 = 0 := by
      simp only [List.length_cons] at heven
      omega
    rw [fromHexParses, if_neg hspace, hc.1, hd.1,
      ih (fun e he => h e (List.mem_cons_of_mem _ (List.mem_cons_of_mem _ he))) hrest]
    rfl
  | case4 c hspace => exact absurd heven (by simp)

omit [JsonFloat φ] in
/-- What `hexdigest` returns is a digest for `require_sha256`. -/
theorem isSha256_hash (bytes : Bytes) : isSha256 (.str (py (sha256 bytes).hex) : Value φ) = true := by
  have hdigits : ∀ n < 16, isHexDigit (codePoint (Nat.digitChar n)).val = true ∧
      isIntSpace (codePoint (Nat.digitChar n)).val = false := by decide
  have hparses : fromHexParses (py (sha256 bytes).hex) = true := by
    refine fromHexParses_of (fun c hc => ?_) (by rw [length_hash])
    obtain ⟨n, hn, rfl⟩ := hash_ascii _ c hc
    exact hdigits n hn
  rw [isSha256_str, hparses, length_hash]
  rfl

theorem lastHashItem_written (operationId : PyStr) {entries : List (Entry φ)} (h : entries ≠ []) :
    lastHashItem (written operationId entries) =
      .ok (hashValue (headHash (written operationId entries))) := by
  rcases List.eq_nil_or_concat' entries with rfl | ⟨entries, entry, rfl⟩
  · exact absurd rfl h
  · rw [written_concat, lastHashItem, headHash, List.getLast?_concat, writtenRecord, unsignedEntry,
      withHash_unsignedRecord]
    rfl

theorem lastHash_written (operationId : PyStr) {entries : List (Entry φ)} (h : entries ≠ []) :
    isSha256 (lastHash (written operationId entries)) = true := by
  rcases List.eq_nil_or_concat' entries with rfl | ⟨entries, entry, rfl⟩
  · exact absurd rfl h
  · rw [written_concat, lastHash, List.getLast?_concat, writtenRecord, unsignedEntry,
      withHash_unsignedRecord]
    simp (disch := decide) only [Value.get, Value.get?, Value.find]
    exact isSha256_hash _

end Written

/-- The operation of the samples. -/
def sampleOperation : PyStr := sampleArgs.operationId

theorem sampleOperation_plain : noPairs sampleOperation = true := by decide +kernel

/-- A first record of a journal of this kind. -/
def baselineEntry (kind : String) (sepCatacomb : Bool) : Entry Unit :=
  ⟨py "BASELINE_RECONCILED",
    object [("baseline", sampleBaseline sepCatacomb), ("operation_kind", .str (py kind))]⟩

end T2TouchId.Journal
