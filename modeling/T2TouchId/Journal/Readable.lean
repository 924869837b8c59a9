/-
  When is an appended record readable?

  Problem: `append` and `read` share `validate_records`, but not their other tests.  `append` takes any
  content that validates, whatever its length, and writes its line right behind the last byte; `read`
  refuses more than 8 MiB or 4096 lines.  And `read` returns what the text says, which is the appended
  record only if the record is one that text can stand for.

  1. **The record** — what `append` writes is one line (`newline_notMem_payload`) that validates behind
     the records it was appended to and gives the record back (`validateLine_record`) when the evidence
     is native; any record read from it is native (`validateLine_native`).
  2. **The size** — `lineLength` is the length of the line, from the record without its hash
     (`length_payload`).
  3. **Result** — `append_readable_iff`: after an `append` that returned, `read` gives the old records
     and the new one exactly when the old content ended with a newline, there is room for a line and
     for its bytes, and the evidence is native.
-/
import T2TouchId.Journal.MutationJournal

namespace T2TouchId.Journal

open T2TouchId.Python T2TouchId.Python.Json

/-! ## Hashes -/

theorem hash_ascii (bytes : Bytes) : ∀ c ∈ py bytes.hex, ∃ n < 16, c = codePoint (Nat.digitChar n) := by
  intro c hc
  obtain ⟨d, hd, rfl⟩ := List.mem_map.mp hc
  obtain ⟨n, hn, rfl⟩ := Bytes.mem_hex hd
  exact ⟨n, hn, rfl⟩

theorem noPairs_hash (bytes : Bytes) : noPairs (py bytes.hex) = true := by
  refine Ascii.noPairs fun c hc => ?_
  obtain ⟨n, hn, rfl⟩ := hash_ascii bytes c hc
  have hdigits : ∀ n < 16, (codePoint (Nat.digitChar n)).val < 0x80 := by decide
  exact hdigits n hn

theorem length_hash (bytes : Bytes) : (py (sha256 bytes).hex).length = 64 := by
  rw [py, List.length_map, Bytes.length_hex, length_sha256]

/-- A hash is written as it is. -/
theorem length_dumpsStr_hash (bytes : Bytes) : (dumpsStr (py (sha256 bytes).hex)).length = 66 := by
  have hplain : ∀ c ∈ py (sha256 bytes).hex, escapeChar c = [c] := by
    intro c hc
    obtain ⟨n, hn, rfl⟩ := hash_ascii _ c hc
    have hdigits : ∀ n < 16, escapeChar (codePoint (Nat.digitChar n)) =
        [codePoint (Nat.digitChar n)] := by decide
    exact hdigits n hn
  have hid : (py (sha256 bytes).hex).flatMap escapeChar = py (sha256 bytes).hex := by
    rw [List.flatMap_congr hplain, List.flatMap_singleton']
  rw [dumpsStr, hid, List.length_append, List.length_cons, length_hash]
  rfl

section Record

variable {φ : Type} [JsonFloat φ]

/-! ## The record as a dictionary -/

omit [JsonFloat φ] in
theorem unsignedRecord_eq (args : Append φ) (sequence : Nat) (previousHash : Option PyStr) :
    unsignedRecord args sequence previousHash =
      .dict [(.str (py "evidence"), args.evidence), (.str (py "format_version"), .int 1),
        (.str (py "milestone"), .str args.milestone),
        (.str (py "operation_id"), .str args.operationId),
        (.str (py "previous_hash"), hashValue previousHash),
        (.str (py "sequence"), .int sequence)] := by
  simp (disch := decide) only [unsignedRecord, Value.ofItems, List.foldl_cons, List.foldl_nil,
    Value.insertItem_nil, Value.insertItem_before, Value.insertItem_after]

omit [JsonFloat φ] in
theorem withHash_unsignedRecord (args : Append φ) (sequence : Nat) (previousHash : Option PyStr)
    (hash : PyStr) :
    withHash (unsignedRecord args sequence previousHash) hash =
      .dict [(.str (py "evidence"), args.evidence), (.str (py "format_version"), .int 1),
        (.str (py "milestone"), .str args.milestone),
        (.str (py "operation_id"), .str args.operationId),
        (.str (py "previous_hash"), hashValue previousHash),
        (.str (py "record_hash"), .str hash),
        (.str (py "sequence"), .int sequence)] := by
  simp (disch := decide) only [unsignedRecord_eq, withHash, Value.insertItem_before,
    Value.insertItem_after]

omit [JsonFloat φ] in
theorem isNative_hashValue {hash : Option PyStr} (h : ∀ t, hash = some t → noPairs t = true) :
    isNative (hashValue hash : Value φ) = true := by
  cases hash with
  | none => rfl
  | some t => exact h t rfl

omit [JsonFloat φ] in
/-- The record is native when its evidence and its strings are. -/
theorem isNative_record {args : Append φ} {sequence : Nat} {previousHash : Option PyStr}
    {hash : PyStr} (hmilestone : noPairs args.milestone = true)
    (hoperation : noPairs args.operationId = true)
    (hprevious : ∀ t, previousHash = some t → noPairs t = true) (hhash : noPairs hash = true) :
    isNative (withHash (unsignedRecord args sequence previousHash) hash) =
      isNative args.evidence := by
  have horder : inKeyOrder [(.str (py "evidence"), args.evidence),
      (.str (py "format_version"), .int 1), (.str (py "milestone"), .str args.milestone),
      (.str (py "operation_id"), .str args.operationId),
      (.str (py "previous_hash"), hashValue previousHash),
      (.str (py "record_hash"), .str hash), (.str (py "sequence"), .int sequence)] = true := by
    refine inKeyOrder_of_names [py "evidence", py "format_version", py "milestone",
      py "operation_id", py "previous_hash", py "record_hash", py "sequence"] rfl ?_
    decide
  have hkeys : ∀ name ∈ ["evidence", "format_version", "milestone", "operation_id",
      "previous_hash", "record_hash", "sequence"], noPairs (py name) = true := by
    decide
  rw [withHash_unsignedRecord, isNative, horder]
  simp only [haveNative, isNativeKey, hkeys _, List.mem_cons, true_or, or_true, isNative, hmilestone,
    hoperation, hhash, isNative_hashValue hprevious, Bool.true_and, Bool.and_true]

/-! ## The size of the line -/

/-- One more member in front of another adds its own text and a comma. -/
theorem length_dumpsMembers_insert {name : PyStr} {v : Value φ} {textV : PyStr}
    (before : List (Key φ × Value φ)) {after : List (Key φ × Value φ)} (hafter : after ≠ [])
    (hv : dumps v = some textV) : ∀ text text' : PyStr,
      dumpsMembers (before ++ after) = some text →
      dumpsMembers (before ++ (.str name, v) :: after) = some text' →
      text'.length = text.length + (dumpsStr name).length + textV.length + 2 := by
  induction before with
  | nil =>
    intro text text' h h'
    rw [List.nil_append] at h
    rw [List.nil_append, dumpsMembers_cons hafter, hv, h] at h'
    have h' : some (dumpsStr name ++ colon :: textV ++ comma :: text) = some text' := h'
    rw [← Option.some.inj h']
    simp only [List.length_append, List.length_cons]
    omega
  | cons item before ih =>
    obtain ⟨k, w⟩ := item
    intro text text' h h'
    rw [List.cons_append, dumpsMembers_cons (by simp [hafter])] at h
    rw [List.cons_append, dumpsMembers_cons (by simp)] at h'
    obtain ⟨key, hkey, h⟩ := Option.bind_eq_some_iff.mp h
    obtain ⟨textW, hw, h⟩ := Option.bind_eq_some_iff.mp h
    obtain ⟨rest, hrest, h⟩ := Option.bind_eq_some_iff.mp h
    obtain ⟨key', hkey', h'⟩ := Option.bind_eq_some_iff.mp h'
    obtain ⟨textW', hw', h'⟩ := Option.bind_eq_some_iff.mp h'
    obtain ⟨rest', hrest', h'⟩ := Option.bind_eq_some_iff.mp h'
    obtain rfl : key = key' := Option.some.inj (hkey.symm.trans hkey')
    obtain rfl : textW = textW' := Option.some.inj (hw.symm.trans hw')
    have hlen := ih rest rest' hrest hrest'
    cases h
    cases h'
    simp only [List.length_append, List.length_cons]
    omega

theorem dumps_dict {items : List (Key φ × Value φ)} {text : PyStr}
    (h : dumps (.dict items) = some text) :
    ∃ rest, dumpsMembers items = some rest ∧ text = openBrace :: rest := by
  unfold dumps at h
  split at h
  · obtain ⟨rest, hrest, h⟩ := Option.bind_eq_some_iff.mp h
    cases h
    exact ⟨rest, hrest, rfl⟩
  · cases h

/-- The length of the line of a record: its text without the hash, the hash with its name, the colon
    and the comma, and the newline. -/
def lineLength (unsigned : Value φ) : Nat := ((dumps unsigned).getD []).length + 82

theorem length_record {args : Append φ} {sequence : Nat} {previousHash : Option PyStr}
    {hash text : PyStr} (hlength : (dumpsStr hash).length = 66)
    (hhash : recordHash (unsignedRecord args sequence previousHash) = .ok hash)
    (htext : dumps (withHash (unsignedRecord args sequence previousHash) hash) = some text) :
    text.length + 1 = lineLength (unsignedRecord args sequence previousHash) := by
  obtain ⟨content, hcontent, -⟩ := bind_ok hhash
  unfold canonical at hcontent
  cases hunsigned : dumps (unsignedRecord args sequence previousHash) with
  | none => rw [hunsigned] at hcontent; exact nomatch hcontent
  | some short =>
    have hshort := hunsigned
    rw [withHash_unsignedRecord] at htext
    rw [unsignedRecord_eq] at hshort
    obtain ⟨rest, hrest, rfl⟩ := dumps_dict htext
    obtain ⟨shortRest, hmembers, rfl⟩ := dumps_dict hshort
    have hv : dumps (.str hash : Value φ) = some (dumpsStr hash) := rfl
    have hlast : [((.str (py "sequence") : Key φ), (.int sequence : Value φ))] ≠ [] := by simp
    have hlen : rest.length =
        shortRest.length + (dumpsStr (py "record_hash")).length + (dumpsStr hash).length + 2 :=
      length_dumpsMembers_insert
        [(.str (py "evidence"), args.evidence), (.str (py "format_version"), .int 1),
          (.str (py "milestone"), .str args.milestone),
          (.str (py "operation_id"), .str args.operationId),
          (.str (py "previous_hash"), hashValue previousHash)]
        hlast hv shortRest rest hmembers hrest
    rw [hlength, show (dumpsStr (py "record_hash")).length = 13 by decide] at hlen
    rw [lineLength, hunsigned]
    simp only [Option.getD_some, List.length_cons]
    omega

/-! ## The line -/

theorem asciiBytes_newline (text : PyStr) :
    asciiBytes text ++ [newline] = asciiBytes (text ++ [0x0A]) := by
  rw [asciiBytes, asciiBytes, List.map_append]
  rfl

/-- The text of a record has no newline of its own. -/
theorem newline_notMem_payload {text : PyStr} (h : Printable text) :
    newline ∉ asciiBytes text := by
  intro hmem
  obtain ⟨c, hc, hnewline⟩ := List.mem_map.mp hmem
  have hrange := h c hc
  have hval := congrArg UInt8.toNat hnewline
  rw [UInt8.toNat_ofNat_of_lt' (by show c.val < 256; omega)] at hval
  have hten : c.val = 0x0A := hval
  omega

omit [JsonFloat φ] in
theorem eraseItem_sublist (name : PyStr) (items : List (Key φ × Value φ)) :
    (Value.eraseItem name items).Sublist items := by
  induction items with
  | nil => exact List.Sublist.refl []
  | cons item items ih =>
    obtain ⟨k, v⟩ := item
    cases k with
    | str s =>
      rw [Value.eraseItem]
      split
      · exact List.sublist_cons_self _ _
      · exact ih.cons_cons _
    | _ => exact ih.cons_cons _

/-- **What is read back** from a written line is native. -/
theorem validateLine_native {chain chain' : Chain φ} {text : PyStr} {record : Value φ}
    (htext : Printable text)
    (h : validateLine chain (asciiBytes text ++ [newline]) = .ok (record, chain')) :
    isNative record = true := by
  obtain ⟨items, hash, hloads, hhash, rfl, -⟩ := validateLine_ok h
  obtain ⟨bytes, -, hbytes⟩ := bind_ok hhash
  obtain rfl : py (sha256 bytes).hex = hash := Except.ok.inj hbytes
  have hplain := plainAscii_of_printable htext
  rw [asciiBytes_newline, loads_asciiBytes hplain] at hloads
  have hnative := loadsText_native hloads (Ascii.whole fun c hc => (hplain c hc).2)
  obtain ⟨horder, hhave⟩ := Bool.and_eq_true_iff.mp hnative
  have hsub := eraseItem_sublist (py "record_hash") items
  have hrest : isNative (.dict (Value.eraseItem (py "record_hash") items)) = true :=
    Bool.and_eq_true_iff.mpr
      ⟨decide_eq_true ((of_decide_eq_true horder).sublist hsub),
        haveNative_iff.mpr fun e he => haveNative_iff.mp hhave e (hsub.mem he)⟩
  exact isNative_insertItem hrest (by decide) (noPairs_hash _)

/-- The operation of a checked journal is the one of the loop variables, or none is set yet. -/
theorem sameOperation_of_check {chain : Chain φ} {records : List (Value φ)} {args : Append φ}
    (hfollows : chain.Follows records) (hcheck : checkOperation args records = .ok ()) :
    chain.sameOperation (.str args.operationId) = true := by
  cases records with
  | nil =>
    rw [Chain.sameOperation, if_pos (hfollows.operation_nil rfl)]
    rfl
  | cons first rest =>
    simp only [checkOperation] at hcheck
    split at hcheck
    · cases hcheck
    · rename_i operationId hget
      split at hcheck
      · rename_i hstr
        rw [isStr_iff.mp hstr] at hget
        rw [Chain.sameOperation, hfollows.operation_cons first rest _ rfl hget]
        simp [isNone, Value.pyEq]
      · cases hcheck

/-- **The written line** validates behind the records, and gives the record back. -/
theorem validateLine_record {chain : Chain φ} {records : List (Value φ)} {args : Append φ}
    {hash text : PyStr} (space : PyStr) (hspace : space = [] ∨ space = [0x0A])
    (hfollows : chain.Follows records)
    (hcheck : checkOperation args records = .ok ())
    (hhash : recordHash (unsignedRecord args records.length (headHash records)) = .ok hash)
    (htext : dumps (withHash (unsignedRecord args records.length (headHash records)) hash) =
      some text)
    (hnative : isNative (withHash (unsignedRecord args records.length (headHash records)) hash) =
      true) :
    ∃ chain', validateLine chain (asciiBytes (text ++ space)) =
      .ok (withHash (unsignedRecord args records.length (headHash records)) hash, chain') := by
  have hplain := plainAscii_of_printable (dumps_printable _ _ htext)
  have hloads : loads (asciiBytes (text ++ space)) =
      some (withHash (unsignedRecord args records.length (headHash records)) hash) := by
    rcases hspace with rfl | rfl
    · rw [loads_asciiBytes fun c hc => hplain c (by simpa using .inl (by simpa using hc))]
      exact loadsText_dumps htext hnative trivial rfl
    · rw [loads_asciiBytes hplain]
      exact loadsText_dumps htext hnative (.inr (.inr (.inr rfl))) rfl
  have hsame := sameOperation_of_check hfollows hcheck
  have hprevious : ∀ h : Option PyStr, (hashValue h : Value φ).pyEq (hashValue h) = true := by
    rintro (_ | h) <;> simp [hashValue, Value.pyEq]
  rw [validateLine, hloads]
  rw [unsignedRecord_eq] at hhash
  refine ⟨chain.next hash (.str args.operationId), ?_⟩
  rw [withHash_unsignedRecord]
  simp (disch := decide) [Value.find, Value.eraseItem, Value.get, Value.get?, hfollows.sequence,
    hhash, hsame, hfollows.previousHash, hprevious, Value.pyEq, Value.insertItem_after,
    Value.insertItem_before]
  exact if_pos rfl

/-! ## One append -/

/-- What an `append` that returned did under the lock. -/
theorem nextRecord_ok {args : Append φ} {content payload : Bytes} {record : Value φ}
    (h : nextRecord args content = .ok (record, payload)) :
    ∃ records hash text, validateRecords (lines content) = .ok records ∧
      (isNone args.expectedRecordCount = true ∨
        (Value.int records.length).pyEq args.expectedRecordCount = true) ∧
      checkOperation args records = .ok () ∧
      recordHash (unsignedRecord args records.length (headHash records)) = .ok hash ∧
      record = withHash (unsignedRecord args records.length (headHash records)) hash ∧
      dumps record = some text ∧ payload = asciiBytes text ++ [newline] := by
  obtain ⟨records, hrecords, h⟩ := bind_ok h
  split at h
  · exact nomatch h
  · rename_i hcount
    split at h
    · exact nomatch h
    · obtain ⟨⟨⟩, hcheck, h⟩ := bind_ok h
      obtain ⟨hash, hhash, h⟩ := bind_ok h
      obtain ⟨bytes, hbytes, h⟩ := bind_ok h
      cases h
      unfold canonical at hbytes
      cases htext : dumps (withHash (unsignedRecord args records.length (headHash records)) hash) with
      | none => rw [htext] at hbytes; exact nomatch hbytes
      | some text =>
        rw [htext] at hbytes
        cases hbytes
        refine ⟨records, hash, text, hrecords, ?_, hcheck, hhash, rfl, rfl, rfl⟩
        by_cases hnone : isNone args.expectedRecordCount = true
        · exact .inl hnone
        · exact .inr (by simpa [hnone] using hcount)

omit [JsonFloat φ] in
theorem checkArguments_ok {lower : PyStr → PyStr} {args : Append φ}
    (h : checkArguments lower args = .ok ()) :
    noPairs args.operationId = true ∧ noPairs args.milestone = true := by
  unfold checkArguments at h
  split at h
  · exact nomatch h
  · split at h
    · exact nomatch h
    · split at h
      · exact nomatch h
      · rename_i huuid
        split at h
        · exact nomatch h
        · rename_i hmilestone
          constructor
          · refine noPairs_of_no_high fun c hc => decide_eq_false fun hhigh => ?_
            have hplain := uuidParses_plain (by simpa using huuid) c hc
            exact hplain ⟨hhigh.1, by omega⟩
          · have hascii : isAscii args.milestone = true := by
              by_contra hascii
              exact hmilestone fun h => hascii h.1
            exact Ascii.noPairs fun c hc => of_decide_eq_true (List.all_eq_true.mp hascii c hc)

/-- An opened journal is private, and has the content of the path. -/
theorem openForAppend_ok {exclusive : Bool} {path path' : JournalPath} {file : FileInfo}
    (h : path.openForAppend exclusive = (.ok file, path')) :
    path'.file = some file ∧ file.kind = .regular ∧ file.owned = true ∧ file.links = 1 ∧
      file.mode = 0o600 ∧ file.content = path.content := by
  unfold JournalPath.openForAppend at h
  simp only at h
  split at h
  · exact nomatch (Prod.mk.inj h).1
  · split at h
    · exact nomatch (Prod.mk.inj h).1
    · split at h
      · exact nomatch (Prod.mk.inj h).1
      · split at h
        · exact nomatch (Prod.mk.inj h).1
        · split at h
          · exact nomatch (Prod.mk.inj h).1
          · rename_i hsafe
            obtain ⟨hfile, rfl⟩ := Prod.mk.inj h
            obtain rfl := Except.ok.inj hfile
            simp only [not_or, not_not] at hsafe
            refine ⟨rfl, hsafe.1, hsafe.2.1, hsafe.2.2, rfl, ?_⟩
            unfold JournalPath.content
            cases path.file <;> rfl

/-- What an `append` that returned left behind. -/
theorem append_ok {lower : PyStr → PyStr} {path path' : JournalPath} {args : Append φ}
    {record : Value φ} (h : append lower path args = (.ok record, path')) :
    checkArguments lower args = .ok () ∧ ∃ (file : FileInfo) (payload : Bytes),
      path'.file = some { file with content := path.content ++ payload } ∧
      file.kind = .regular ∧ file.owned = true ∧ file.links = 1 ∧ file.mode = 0o600 ∧
      nextRecord args path.content = .ok (record, payload) := by
  unfold append at h
  split at h
  · exact nomatch (Prod.mk.inj h).1
  · rename_i hcheck
    split at h
    · exact nomatch (Prod.mk.inj h).1
    · rename_i file opened hopen
      obtain ⟨-, hkind, howned, hlinks, hmode, hcontent⟩ := openForAppend_ok hopen
      split at h
      · exact nomatch (Prod.mk.inj h).1
      · rename_i record' payload hnext
        obtain ⟨hrecord, rfl⟩ := Prod.mk.inj h
        obtain rfl := Except.ok.inj hrecord
        rw [hcontent] at hnext ⊢
        exact ⟨hcheck, file, payload, rfl, hkind, howned, hlinks, hmode, hnext⟩

/-! ## Reading back -/

theorem validateRecords_ok {ls : List Bytes} {records : List (Value φ)}
    (h : validateRecords ls = .ok records) :
    ∃ chain : Chain φ, validateFrom .start ls = .ok (records, chain) ∧ chain.Follows records ∧
      records.length = ls.length := by
  unfold validateRecords at h
  cases hfrom : validateFrom (Chain.start : Chain φ) ls with
  | error e => rw [hfrom] at h; exact nomatch h
  | ok found =>
    rw [hfrom] at h
    cases h
    exact ⟨found.2, rfl, Chain.follows_start.lines ls hfrom, validateFrom_length ls _ _ _ hfrom⟩

/-- One line behind the others validates with the loop variables that they leave. -/
theorem validateRecords_concat {ls : List Bytes} {line : Bytes} {records : List (Value φ)}
    {chain : Chain φ} (h : validateFrom .start ls = .ok (records, chain)) {all : List (Value φ)} :
    validateRecords (ls ++ [line]) = .ok all ↔
      ∃ record chain', validateLine chain line = .ok (record, chain') ∧ all = records ++ [record] := by
  unfold validateRecords
  rw [validateFrom_append, h]
  show Except.map Prod.fst ((validateFrom chain [line]).bind fun r => .ok (records ++ r.1, r.2)) =
    .ok all ↔ _
  rw [validateFrom]
  cases validateLine chain line with
  | error e => exact ⟨(fun h => by cases h), by rintro ⟨_, _, h, _⟩; cases h⟩
  | ok found =>
    constructor
    · intro hall
      cases hall
      exact ⟨found.1, found.2, rfl, rfl⟩
    · rintro ⟨record, chain', hfound, rfl⟩
      cases hfound
      rfl

/-- A private journal is read when it is not too large. -/
theorem read_private {path : JournalPath} {file : FileInfo} (hfile : path.file = some file)
    (hkind : file.kind = .regular) (howned : file.owned = true) (hlinks : file.links = 1)
    (hmode : file.mode = 0o600) :
    read (φ := φ) path =
      if file.content.length ≤ maxJournalSize then readLines file.content
      else journalError "mutation journal ownership, mode, or size is unsafe" := by
  have hsafe : file.isSafe = decide (file.content.length ≤ maxJournalSize) := by
    unfold FileInfo.isSafe
    rw [hkind, howned, hlinks, hmode]
    simp
  simp only [read, hfile, hkind, hsafe]
  by_cases hsize : file.content.length ≤ maxJournalSize
  · simp [hsize]
  · simp [hsize]

/-- The bytes of an `append` that returned: one line, as long as `lineLength` says, … -/
theorem payload_line {args : Append φ} {content payload : Bytes} {record : Value φ}
    {records : List (Value φ)} (hvalid : validateRecords (lines content) = .ok records)
    (hnext : nextRecord args content = .ok (record, payload)) :
    payload.length = lineLength (unsignedRecord args records.length (headHash records)) ∧
    ∃ line, newline ∉ line ∧ payload = line ++ [newline] := by
  obtain ⟨records', hash, text, hvalid', -, -, hhash, hrecord, htext, rfl⟩ := nextRecord_ok hnext
  obtain rfl : records = records' := Except.ok.inj (hvalid.symm.trans hvalid')
  obtain ⟨bytes, -, hbytes⟩ := bind_ok hhash
  obtain rfl : py (sha256 bytes).hex = hash := Except.ok.inj hbytes
  have hlength := length_record (length_dumpsStr_hash bytes) hhash (hrecord ▸ htext)
  refine ⟨?_, asciiBytes text, newline_notMem_payload (dumps_printable _ _ htext), rfl⟩
  rw [List.length_append, asciiBytes, List.length_map, ← hlength]
  rfl

/-- … which validates behind complete lines exactly when the evidence is native. -/
theorem validateRecords_appended {lower : PyStr → PyStr} {args : Append φ}
    {content payload : Bytes} {record : Value φ} {records : List (Value φ)}
    (hargs : checkArguments lower args = .ok ())
    (hvalid : validateRecords (lines content) = .ok records)
    (hnext : nextRecord args content = .ok (record, payload)) (hterminated : Terminated content) :
    validateRecords (lines (content ++ payload)) = .ok (records ++ [record]) ↔
      isNative args.evidence = true := by
  obtain ⟨records', hash, text, hvalid', -, hcheck, hhash, hrecord, htext, rfl⟩ :=
    nextRecord_ok hnext
  obtain rfl : records = records' := Except.ok.inj (hvalid.symm.trans hvalid')
  obtain ⟨chain, hfrom, hfollows, -⟩ := validateRecords_ok hvalid
  obtain ⟨bytes, -, hbytes⟩ := bind_ok hhash
  obtain rfl : py (sha256 bytes).hex = hash := Except.ok.inj hbytes
  have hprintable := dumps_printable _ _ htext
  -- the strings of the record are native, so all depends on the evidence
  obtain ⟨hoperation, hmilestone⟩ := checkArguments_ok hargs
  have hprevious : ∀ t, headHash records = some t → noPairs t = true := by
    intro t ht
    obtain ⟨old, rfl⟩ := hfollows.hashed t (hfollows.previousHash.trans ht)
    exact noPairs_hash _
  have hnative : isNative record = isNative args.evidence :=
    hrecord ▸ isNative_record hmilestone hoperation hprevious (noPairs_hash _)
  rw [lines_append hterminated, lines_line (newline_notMem_payload hprintable),
    validateRecords_concat hfrom, ← hnative]
  constructor
  · rintro ⟨read, chain', hline, hread⟩
    obtain rfl : record = read := by simpa using hread
    exact validateLine_native hprintable hline
  · intro hrecordNative
    rw [hrecord] at hrecordNative htext ⊢
    obtain ⟨chain', hline⟩ :=
      validateLine_record [0x0A] (.inr rfl) hfollows hcheck hhash htext hrecordNative
    rw [← asciiBytes_newline] at hline
    exact ⟨_, chain', hline, rfl⟩

/-- **Behind a torn line** the new one is a part of it, and there is one record too few. -/
theorem validateRecords_torn {args : Append φ} {content payload : Bytes} {record : Value φ}
    {records : List (Value φ)} (hvalid : validateRecords (lines content) = .ok records)
    (hnext : nextRecord args content = .ok (record, payload)) (htorn : ¬ Terminated content) :
    validateRecords (lines (content ++ payload)) ≠ .ok (records ++ [record]) := by
  obtain ⟨-, line, hline, rfl⟩ := payload_line hvalid hnext
  obtain ⟨_, -, -, hcount⟩ := validateRecords_ok hvalid
  intro h
  obtain ⟨_, -, -, hread⟩ := validateRecords_ok h
  rw [List.length_append, List.length_singleton, lines_append_partial htorn hline, ← hcount] at hread
  omega

theorem read_ok {path : JournalPath} {records : List (Value φ)} (h : read path = .ok records) :
    validateRecords (lines path.content) = .ok records := by
  unfold read at h
  split at h
  · exact nomatch h
  · rename_i file hfile
    split at h
    · exact nomatch h
    · split at h
      · exact nomatch h
      · unfold readLines at h
        split at h
        · exact nomatch h
        · rw [JournalPath.content, hfile]
          exact h

/-- **An appended record is readable** exactly when the old content ended with a newline, one more line
    is allowed, its bytes are allowed, and the evidence is a value that JSON text can stand for. -/
theorem append_readable_iff {lower : PyStr → PyStr} {path path' : JournalPath} {args : Append φ}
    {record : Value φ} {records : List (Value φ)}
    (hvalid : validateRecords (lines path.content) = .ok records)
    (happend : append lower path args = (.ok record, path')) :
    read path' = .ok (records ++ [record]) ↔
      Terminated path.content ∧ records.length + 1 ≤ maxJournalRecords ∧
      path.content.length + lineLength (unsignedRecord args records.length (headHash records)) ≤
        maxJournalSize ∧
      isNative args.evidence = true := by
  obtain ⟨hargs, file, payload, hfile, hkind, howned, hlinks, hmode, hnext⟩ := append_ok happend
  obtain ⟨hlength, line, hline, hpayload⟩ := payload_line hvalid hnext
  obtain ⟨_, -, -, hcount⟩ := validateRecords_ok hvalid
  rw [read_private hfile hkind howned hlinks hmode]
  show (if (path.content ++ payload).length ≤ maxJournalSize then readLines (path.content ++ payload)
    else _) = _ ↔ _
  rw [List.length_append, hlength]
  by_cases hsize : path.content.length +
      lineLength (unsignedRecord args records.length (headHash records)) ≤ maxJournalSize
  · rw [if_pos hsize]
    unfold readLines
    by_cases hterminated : Terminated path.content
    · have hlines : (lines (path.content ++ payload)).length = records.length + 1 := by
        rw [lines_append hterminated, hpayload, lines_line hline, List.length_append,
          List.length_singleton, hcount]
      rw [hlines]
      by_cases hroom : records.length + 1 ≤ maxJournalRecords
      · rw [if_neg (by omega), validateRecords_appended hargs hvalid hnext hterminated]
        exact ⟨fun h => ⟨hterminated, hroom, hsize, h⟩, fun h => h.2.2.2⟩
      · rw [if_pos (by omega)]
        exact ⟨nofun, fun h => absurd h.2.1 hroom⟩
    · refine ⟨fun h => ?_, fun h => absurd h.1 hterminated⟩
      split at h
      · exact nomatch h
      · exact absurd h (validateRecords_torn hvalid hnext hterminated)
  · rw [if_neg hsize]
    exact ⟨nofun, fun h => absurd h.2.2.1 hsize⟩

/-! ### Two appends of one operation -/

/-- What `append` leaves when nothing raises. -/
theorem append_returns {lower : PyStr → PyStr} {path opened : JournalPath} {file : FileInfo}
    {args : Append φ} {records : List (Value φ)} (hash text : PyStr)
    (hargs : checkArguments lower args = .ok ())
    (hopen : path.openForAppend args.exclusive = (.ok file, opened))
    (hvalid : validateRecords (lines file.content) = .ok records)
    (hguard : isNone args.expectedRecordCount = true ∨
      ((Value.int records.length).pyEq args.expectedRecordCount = true ∧
        (hashValue (headHash records)).pyEq args.expectedPreviousHash = true))
    (hcheck : checkOperation args records = .ok ())
    (hhash : recordHash (unsignedRecord args records.length (headHash records)) = .ok hash)
    (htext : dumps (withHash (unsignedRecord args records.length (headHash records)) hash) =
      some text) :
    append lower path args =
      (.ok (withHash (unsignedRecord args records.length (headHash records)) hash),
        { opened with file := some { file with
          content := file.content ++ (asciiBytes text ++ [newline]) } }) := by
  have hnext : nextRecord args file.content =
      .ok (withHash (unsignedRecord args records.length (headHash records)) hash,
        asciiBytes text ++ [newline]) := by
    have hcount : ¬ (¬ isNone args.expectedRecordCount = true ∧
        ¬ (Value.int records.length).pyEq args.expectedRecordCount = true) :=
      fun h => hguard.elim h.1 fun hguard => h.2 hguard.1
    have hhead : ¬ (¬ isNone args.expectedRecordCount = true ∧
        ¬ (hashValue (headHash records)).pyEq args.expectedPreviousHash = true) :=
      fun h => hguard.elim h.1 fun hguard => h.2 hguard.2
    simp only [nextRecord, bind, Except.bind, hvalid, if_neg hcount, if_neg hhead, hcheck, hhash,
      canonical, htext]
    rfl
  simp only [append, hargs, hopen, hnext]

end Record

/-- A first append to a path that does not exist. -/
def sampleArgs : Append Unit where
  operationId := py "00000000-0000-4000-8000-000000000000"
  milestone := py "BASELINE_RECONCILED"
  evidence := .dict []

theorem dumps_sample {sequence : Nat} (hsequence : sequence < 2) (previousHash : Option PyStr)
    (hash : PyStr) :
    (∃ text, dumps (unsignedRecord sampleArgs sequence previousHash) = some text) ∧
    ∃ text, dumps (withHash (unsignedRecord sampleArgs sequence previousHash) hash) =
      some text := by
  rw [withHash_unsignedRecord, unsignedRecord_eq]
  have hcases : sequence = 0 ∨ sequence = 1 := by omega
  rcases hcases with rfl | rfl <;> cases previousHash <;> exact ⟨⟨_, rfl⟩, ⟨_, rfl⟩⟩

/-- The hash of a sample record. -/
def sampleHash (sequence : Nat) (previousHash : Option PyStr) : PyStr :=
  py (sha256 (asciiBytes ((dumps (unsignedRecord sampleArgs sequence previousHash)).getD []))).hex

def sampleRecord (sequence : Nat) (previousHash : Option PyStr) : Value Unit :=
  withHash (unsignedRecord sampleArgs sequence previousHash) (sampleHash sequence previousHash)

theorem recordHash_sample {sequence : Nat} (hsequence : sequence < 2)
    (previousHash : Option PyStr) :
    recordHash (unsignedRecord sampleArgs sequence previousHash) =
      .ok (sampleHash sequence previousHash) := by
  obtain ⟨text, htext⟩ := (dumps_sample hsequence previousHash []).1
  rw [recordHash, canonical, sampleHash, htext]
  rfl

def freshPath : JournalPath := ⟨none, none⟩

theorem checkArguments_sample : checkArguments id sampleArgs = .ok () := by rfl

theorem append_fresh :
    ∃ path', append id freshPath sampleArgs = (.ok (sampleRecord 0 none), path') := by
  obtain ⟨text, htext⟩ := (dumps_sample (by decide : 0 < 2) none (sampleHash 0 none)).2
  have hopen : freshPath.openForAppend sampleArgs.exclusive =
      (.ok ⟨.regular, true, 1, 0o600, []⟩,
        ⟨some ⟨true, true, 0o700⟩, some ⟨.regular, true, 1, 0o600, []⟩⟩) := by rfl
  have hvalid : validateRecords (φ := Unit) (lines []) = .ok [] := by rfl
  have hcheck : checkOperation sampleArgs [] = .ok () := rfl
  have hhash := recordHash_sample (by decide : 0 < 2) none
  have happend := append_returns (sampleHash 0 none) text checkArguments_sample hopen hvalid
    (.inl rfl) hcheck hhash htext
  exact ⟨_, happend⟩

/-- On a new file the record is readable. -/
theorem append_readable_sample : ∃ path',
    append id freshPath sampleArgs = (.ok (sampleRecord 0 none), path') ∧
    read path' = .ok [sampleRecord 0 none] := by
  obtain ⟨path', happend⟩ := append_fresh
  refine ⟨path', happend, (append_readable_iff rfl happend).mpr ⟨.inl rfl, by decide, ?_, rfl⟩⟩
  decide +kernel

/-- The content of a journal whose only line lost its newline. -/
def tornContent : Bytes := asciiBytes ((dumps (sampleRecord 0 none)).getD [])

def tornPath : JournalPath :=
  ⟨some ⟨true, true, 0o700⟩, some ⟨.regular, true, 1, 0o600, tornContent⟩⟩

/-- Bytes without a newline are one line. -/
theorem lines_torn {line : Bytes} (hne : line ≠ []) (h : newline ∉ line) : lines line = [line] := by
  induction line with
  | nil => exact absurd rfl hne
  | cons b line ih =>
    obtain ⟨hb, hline⟩ := not_or.mp (mt List.mem_cons.mpr h)
    rw [lines_cons_ne (Ne.symm hb)]
    cases line with
    | nil => rfl
    | cons c line => rw [ih (by simp) hline]

theorem tornPath_content : ∃ text, dumps (sampleRecord 0 none) = some text ∧
    tornPath.content = asciiBytes text ∧ asciiBytes text ≠ [] ∧ newline ∉ asciiBytes text := by
  obtain ⟨text, htext⟩ := (dumps_sample (by decide : 0 < 2) none (sampleHash 0 none)).2
  refine ⟨text, htext, ?_, ?_, newline_notMem_payload (dumps_printable _ _ htext)⟩
  · show asciiBytes ((dumps (withHash _ _)).getD []) = _
    rw [htext]
    rfl
  · obtain ⟨c, rest, rfl, -⟩ := dumps_head htext
    exact List.cons_ne_nil _ _

theorem tornPath_valid :
    validateRecords (lines tornPath.content) = .ok [sampleRecord 0 none] := by
  obtain ⟨text, htext, hcontent, hne, hnewline⟩ := tornPath_content
  have hnative : isNative (sampleRecord 0 none) = isNative sampleArgs.evidence :=
    isNative_record (by decide) (by decide) (fun _ h => by cases h) (noPairs_hash _)
  have hcheck : checkOperation sampleArgs [] = .ok () := rfl
  obtain ⟨chain, hline⟩ := validateLine_record [] (.inl rfl) Chain.follows_start hcheck
    (recordHash_sample (by decide) none) htext hnative
  rw [List.append_nil] at hline
  rw [hcontent, lines_torn hne hnewline]
  have hempty : validateFrom (Chain.start : Chain Unit) [] = .ok ([], .start) := rfl
  exact (validateRecords_concat hempty).mpr ⟨_, chain, hline, rfl⟩

/-- The content of a journal whose last line lost its newline is not complete. -/
theorem tornPath_torn : ¬ Terminated tornPath.content := by
  obtain ⟨text, -, hcontent, hne, hnewline⟩ := tornPath_content
  rw [hcontent]
  rintro (hnil | hlast)
  · exact hne hnil
  · exact hnewline (List.mem_of_getLast? hlast)

/-- The second record of the sample. -/
def sampleSecond : Value Unit :=
  withHash (unsignedRecord sampleArgs 1 (headHash [sampleRecord 0 none]))
    (sampleHash 1 (headHash [sampleRecord 0 none]))

theorem headHash_sample : headHash [sampleRecord 0 none] = some (sampleHash 0 none) := by
  simp [headHash, sampleRecord, withHash_unsignedRecord, Value.get, Value.get?, Value.find]

/-- A torn journal takes it, with a guard that holds or with none. -/
theorem append_torn {count head : Value Unit}
    (hargs : checkArguments id { sampleArgs with
      expectedRecordCount := count, expectedPreviousHash := head } = .ok ())
    (hguard : isNone count = true ∨ ((Value.int 1).pyEq count = true ∧
      (hashValue (some (sampleHash 0 none))).pyEq head = true)) :
    ∃ path', append id tornPath { sampleArgs with
      expectedRecordCount := count, expectedPreviousHash := head } = (.ok sampleSecond, path') := by
  have hcheck : checkOperation { sampleArgs with
      expectedRecordCount := count, expectedPreviousHash := head } [sampleRecord 0 none] =
        .ok () := by
    simp [checkOperation, sampleRecord, withHash_unsignedRecord, Value.get?, Value.find,
      Value.isStr]
  have hhash := recordHash_sample (by decide : 1 < 2) (headHash [sampleRecord 0 none])
  obtain ⟨text, htext⟩ := (dumps_sample (by decide : 1 < 2) (headHash [sampleRecord 0 none])
    (sampleHash 1 (headHash [sampleRecord 0 none]))).2
  have hopen : tornPath.openForAppend sampleArgs.exclusive =
      (.ok ⟨.regular, true, 1, 0o600, tornContent⟩, tornPath) := by rfl
  rw [← headHash_sample] at hguard
  have happend := append_returns (sampleHash 1 (headHash [sampleRecord 0 none])) text
    hargs hopen tornPath_valid hguard hcheck hhash htext
  exact ⟨_, happend⟩

/-- **A torn journal** takes another record and is unreadable then. -/
theorem append_torn_sample : ∃ record path',
    validateRecords (lines tornPath.content) = .ok [sampleRecord 0 none] ∧
    append id tornPath sampleArgs = (.ok record, path') ∧
    read path' ≠ .ok ([sampleRecord 0 none] ++ [record]) := by
  obtain ⟨path', happend⟩ := append_torn checkArguments_sample (.inl rfl)
  refine ⟨_, path', tornPath_valid, happend, fun hread => ?_⟩
  obtain ⟨-, file, payload, hfile, -, -, -, -, hnext⟩ := append_ok happend
  have hvalid := read_ok hread
  have hcontent : path'.content = tornPath.content ++ payload := by
    rw [JournalPath.content, hfile]
    rfl
  rw [hcontent] at hvalid
  exact validateRecords_torn tornPath_valid hnext tornPath_torn hvalid

end T2TouchId.Journal
