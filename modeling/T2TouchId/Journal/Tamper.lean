/-
  The journal chain is tamper evident.

  Problem: two journals that both validate and end with the same hash should say the same.  A record
  carries the hash of the record before it, and its own hash covers that; so equality goes backwards
  from the head, as far as no two texts share a hash.

  1. **Specification** — `hashedText` is the text of a line that `validate_records` hashes,
     `NoCollision` says that no two of two journals share a digest, `SameEncoding` that two records have
     the same canonical text.
  2. **One line** (`validateLine_same`) — equal hashes of two lines give equal hashes before them, and
     the same record.  The crux is that the text determines the link: `previous_hash` is found in it
     (`find_sameItem`), and a hash or `null` is told from its text (`hashValue_of_dumps`).
  3. **A journal** (`validateFrom_same`) — by induction from the last line; the first record has no
     hash before it, so neither journal can be longer than the other.
-/
import T2TouchId.Journal.Readable
import T2TouchId.Python.Json.Unique

namespace T2TouchId.Journal

open T2TouchId.Python T2TouchId.Python.Json

section Tamper

variable {φ : Type} [JsonFloat φ]

/-! ## Specification -/

/-- The bytes that `validate_records` hashes for a line. -/
def hashedText (φ : Type) [JsonFloat φ] (line : Bytes) : Option Bytes :=
  match loads (φ := φ) line with
  | some (.dict items) => (dumps (.dict (Value.eraseItem (py "record_hash") items))).map asciiBytes
  | _ => none

/-- No two different texts of the two journals have the same SHA-256 digest. -/
def NoCollision (φ : Type) [JsonFloat φ] (ls ls' : List Bytes) : Prop :=
  ∀ line ∈ ls, ∀ line' ∈ ls', ∀ text text', hashedText φ line = some text →
    hashedText φ line' = some text' → sha256 text = sha256 text' → text = text'

/-- Two records with the same canonical text. -/
def SameEncoding (record record' : Value φ) : Prop :=
  ∃ text, canonical record = .ok text ∧ canonical record' = .ok text

/-! ## Texts of records -/

theorem asciiBytes_inj {s : PyStr} : ∀ {t : PyStr}, Printable s → Printable t →
    asciiBytes s = asciiBytes t → s = t := by
  induction s with
  | nil =>
    intro t _ _ h
    cases t with
    | nil => rfl
    | cons d t => exact nomatch h
  | cons c s ih =>
    intro t hs ht h
    cases t with
    | nil => exact nomatch h
    | cons d t =>
      obtain ⟨hc, hs⟩ := printable_cons.mp hs
      obtain ⟨hd, ht⟩ := printable_cons.mp ht
      obtain ⟨hcd, hrest⟩ := List.cons.inj h
      have hval := congrArg UInt8.toNat hcd
      rw [UInt8.toNat_ofNat_of_lt' (by show c.val < 256; omega),
        UInt8.toNat_ofNat_of_lt' (by show d.val < 256; omega)] at hval
      rw [ih hs ht hrest, Fin.ext hval]

/-- Setting the hash in a record that has a text leaves it one. -/
theorem dumps_insertItem (name hash : PyStr) {items : List (Key φ × Value φ)} {t : PyStr}
    (hkeys : StringKeys items) (h : dumpsMembers items = some t) :
    ∃ text, dumps (.dict (Value.insertItem name (.str hash) items)) = some text := by
  have hsome : (dumpsMembers (Value.insertItem name (.str hash) items)).isSome = true := by
    refine (dumpsMembers_isSome _).mpr fun e he => ?_
    rcases mem_insertItem he with rfl | he
    · exact ⟨rfl, rfl⟩
    · exact (dumpsMembers_isSome items).mp (by rw [h]; rfl) e he
  obtain ⟨text, htext⟩ := Option.isSome_iff_exists.mp hsome
  refine ⟨openBrace :: text, ?_⟩
  rw [dumps_dict_str (stringKeys_insertItem hkeys), htext]
  rfl

/-- A hash, or `null`, is told from its text. -/
theorem hashValue_of_dumps {v v' : Value φ} {hash hash' : Option PyStr}
    (hv : v.pyEq (hashValue hash) = true) (hv' : v'.pyEq (hashValue hash') = true)
    (hplain : ∀ t, hash = some t → noPairs t = true)
    (hplain' : ∀ t, hash' = some t → noPairs t = true) (h : dumps v = dumps v') :
    hash = hash' := by
  have hvalue : ∀ (v : Value φ) (hash : Option PyStr), v.pyEq (hashValue hash) = true →
      v = hashValue hash := by
    intro v hash hv
    cases hash <;> cases v <;> simp_all [hashValue, Value.pyEq]
  rw [hvalue v hash hv, hvalue v' hash' hv'] at h
  cases hash with
  | none =>
    cases hash' with
    | none => rfl
    | some t => exact absurd (congrArg (Option.map List.head?) h) (by simp [hashValue, dumps, dumpsStr]; decide)
  | some s =>
    cases hash' with
    | none => exact absurd (congrArg (Option.map List.head?) h) (by simp [hashValue, dumps, dumpsStr]; decide)
    | some t =>
      have htext : dumpsStr s ++ [] = dumpsStr t ++ [] :=
        congrArg (· ++ []) (Option.some.inj h)
      have hrejoin := (dumpsStr_append_inj htext).2.1
      rw [rejoin_of_noPairs s (hplain s rfl), rejoin_of_noPairs t (hplain' t rfl)] at hrejoin
      rw [hrejoin]

omit [JsonFloat φ] in
theorem Chain.Follows.plain {chain : Chain φ} {records : List (Value φ)}
    (h : chain.Follows records) : ∀ t, chain.previousHash = some t → noPairs t = true := by
  intro t ht
  obtain ⟨text, rfl⟩ := h.hashed t ht
  exact noPairs_hash _

omit [JsonFloat φ] in
theorem stringKeys_eraseItem (name : PyStr) {items : List (Key φ × Value φ)} (h : StringKeys items) :
    StringKeys (Value.eraseItem name items) :=
  fun e he => h e ((eraseItem_sublist name items).mem he)

/-! ## One line -/

/-- The link of a validated line. -/
theorem validateLine_previous {chain chain' : Chain φ} {line : Bytes} {record : Value φ}
    {items : List (Key φ × Value φ)} (hloads : loads line = some (.dict items))
    (h : validateLine chain line = .ok (record, chain')) :
    ((Value.dict (Value.eraseItem (py "record_hash") items)).get "previous_hash").pyEq
      (hashValue chain.previousHash) = true := by
  rw [validateLine, hloads] at h
  simp only at h
  split at h
  · cases h
  · split at h
    · cases h
    · split at h
      · cases h
      · rename_i hprevious
        simpa using hprevious

/-- **One line**: the same hash behind it, the same hash before it, and the same record. -/
theorem validateLine_same {chain chain' next next' : Chain φ} {line line' : Bytes}
    {records records' : List (Value φ)} {record record' : Value φ}
    (hfollows : chain.Follows records) (hfollows' : chain'.Follows records')
    (h : validateLine chain line = .ok (record, next))
    (h' : validateLine chain' line' = .ok (record', next'))
    (hcollision : ∀ text text', hashedText φ line = some text → hashedText φ line' = some text' →
      sha256 text = sha256 text' → text = text')
    (hhash : next.previousHash = next'.previousHash) :
    chain.previousHash = chain'.previousHash ∧ SameEncoding record record' := by
  obtain ⟨items, hash, hloads, hrecord, rfl, rfl⟩ := validateLine_ok h
  obtain ⟨items', hash', hloads', hrecord', rfl, rfl⟩ := validateLine_ok h'
  obtain rfl : hash = hash' := Option.some.inj hhash
  have hkeys := stringKeys_eraseItem (py "record_hash") (loads_keys hloads)
  have hkeys' := stringKeys_eraseItem (py "record_hash") (loads_keys hloads')
  -- the two hashed texts have the same digest, so they are one text
  have hdigest : ∀ (line : Bytes) (items : List (Key φ × Value φ)),
      loads line = some (.dict items) →
      recordHash (Value.dict (Value.eraseItem (py "record_hash") items)) = .ok hash →
      StringKeys (Value.eraseItem (py "record_hash") items) →
      ∃ text, dumpsMembers (Value.eraseItem (py "record_hash") items) = some text ∧
        Printable (openBrace :: text) ∧ hashedText φ line = some (asciiBytes (openBrace :: text)) ∧
        hash = py (sha256 (asciiBytes (openBrace :: text))).hex := by
    intro line items hloads hrecord hkeys
    obtain ⟨bytes, hbytes, hhex⟩ := bind_ok hrecord
    have hdict := dumps_dict_str hkeys
    unfold canonical at hbytes
    cases hmembers : dumpsMembers (Value.eraseItem (py "record_hash") items) with
    | none => rw [hdict, hmembers] at hbytes; exact nomatch hbytes
    | some text =>
      rw [hmembers, Option.map_some] at hdict
      rw [hdict] at hbytes
      cases hbytes
      refine ⟨text, rfl, dumps_printable _ _ hdict, ?_, (Except.ok.inj hhex).symm⟩
      rw [hashedText, hloads]
      show (dumps _).map asciiBytes = _
      rw [hdict]
      rfl
  obtain ⟨text, hmembers, hprintable, htext, hhex⟩ := hdigest line items hloads hrecord hkeys
  obtain ⟨text', hmembers', hprintable', htext', hhex'⟩ :=
    hdigest line' items' hloads' hrecord' hkeys'
  have hsame : asciiBytes (openBrace :: text) = asciiBytes (openBrace :: text') :=
    hcollision _ _ htext htext' (Bytes.hex_injective (py_injective (hhex.symm.trans hhex')))
  obtain rfl : text = text' := (List.cons.inj (asciiBytes_inj hprintable hprintable' hsame)).2
  have hitems := dumpsMembers_inj _ _ text hkeys hkeys' hmembers hmembers'
  constructor
  · -- the link is a part of the text
    have hfind := find_sameItem (py "previous_hash") (by decide) hitems
    have hprevious := validateLine_previous hloads h
    have hprevious' := validateLine_previous hloads' h'
    refine hashValue_of_dumps hprevious hprevious' hfollows.plain hfollows'.plain ?_
    show dumps ((Value.find _ _).getD .none) = dumps ((Value.find _ _).getD .none)
    cases hl : Value.find (py "previous_hash") (Value.eraseItem (py "record_hash") items) with
    | none =>
      rw [hl, Option.map_none] at hfind
      rw [Option.map_eq_none_iff.mp hfind.symm]
    | some v =>
      rw [hl, Option.map_some] at hfind
      obtain ⟨v', hv', htext⟩ := Option.map_eq_some_iff.mp hfind.symm
      rw [hv']
      exact htext.symm
  · obtain ⟨full, hfull⟩ := dumps_insertItem (py "record_hash") hash hkeys hmembers
    have hinsert := insertItem_sameItem (py "record_hash") (by decide) (.str hash) hitems
    have hfull' : dumps (.dict (Value.insertItem (py "record_hash") (.str hash)
        (Value.eraseItem (py "record_hash") items'))) = some full := by
      rw [dumps_dict_str (stringKeys_insertItem hkeys'), ← dumpsMembers_congr hinsert,
        ← dumps_dict_str (stringKeys_insertItem hkeys), hfull]
    refine ⟨asciiBytes full, ?_, ?_⟩
    · rw [canonical, hfull]
    · rw [canonical, hfull']

/-! ## Two journals -/

/-- The last line of a validated journal. -/
theorem validateFrom_concat {chain next : Chain φ} {ls : List Bytes} {line : Bytes}
    {records : List (Value φ)} (h : validateFrom chain (ls ++ [line]) = .ok (records, next)) :
    ∃ before last before', validateFrom chain ls = .ok (before, before') ∧
      validateLine before' line = .ok (last, next) ∧ records = before ++ [last] := by
  rw [validateFrom_append] at h
  obtain ⟨⟨before, before'⟩, hbefore, h⟩ := bind_ok h
  obtain ⟨⟨after, after'⟩, hafter, h⟩ := bind_ok h
  obtain ⟨⟨last, last'⟩, hlast, hafter⟩ := bind_ok hafter
  cases hafter
  cases h
  exact ⟨before, last, before', hbefore, hlast, rfl⟩

/-- **Two journals** with the same head hash, by induction from the last line. -/
theorem validateFrom_same (ls : List Bytes) : ∀ (ls' : List Bytes) (records records' : List (Value φ))
    (chain chain' : Chain φ), validateFrom .start ls = .ok (records, chain) →
    validateFrom .start ls' = .ok (records', chain') → NoCollision φ ls ls' →
    chain.previousHash = chain'.previousHash → List.Forall₂ SameEncoding records records' := by
  induction ls using List.reverseRecOn with
  | nil =>
    intro ls' records records' chain chain' h h' _ hhash
    cases h
    rcases List.eq_nil_or_concat' ls' with rfl | ⟨ls', line', rfl⟩
    · cases h'
      exact .nil
    · obtain ⟨_, _, _, -, hlast, -⟩ := validateFrom_concat h'
      obtain ⟨_, _, -, -, -, rfl⟩ := validateLine_ok hlast
      exact nomatch hhash
  | append_singleton ls line ih =>
    intro ls' records records' chain chain' h h' hcollision hhash
    obtain ⟨before, last, middle, hbefore, hlast, rfl⟩ := validateFrom_concat h
    rcases List.eq_nil_or_concat' ls' with rfl | ⟨ls', line', rfl⟩
    · cases h'
      obtain ⟨_, _, -, -, -, rfl⟩ := validateLine_ok hlast
      exact nomatch hhash
    · obtain ⟨before', last', middle', hbefore', hlast', rfl⟩ := validateFrom_concat h'
      have hfollows := Chain.follows_start.lines ls hbefore
      have hfollows' := Chain.follows_start.lines ls' hbefore'
      obtain ⟨hprevious, hrecord⟩ := validateLine_same hfollows hfollows' hlast hlast'
        (hcollision line (by simp) line' (by simp)) hhash
      have hrest := ih ls' before before' middle middle' hbefore hbefore'
        (fun l hl l' hl' => hcollision l (by simp [hl]) l' (by simp [hl'])) hprevious
      exact List.rel_append hrest (.cons hrecord .nil)

/-! ## The guard of an append -/

/-- A guarded append that returned found the head hash it was given. -/
theorem nextRecord_head {args : Append φ} {content payload : Bytes} {record : Value φ}
    {records : List (Value φ)} (hvalid : validateRecords (lines content) = .ok records)
    (hcount : isNone args.expectedRecordCount = false)
    (hnext : nextRecord args content = .ok (record, payload)) :
    (hashValue (headHash records)).pyEq args.expectedPreviousHash = true := by
  obtain ⟨records', hrecords, hnext⟩ := bind_ok hnext
  obtain rfl : records = records' := Except.ok.inj (hvalid.symm.trans hrecords)
  obtain ⟨-, hnext⟩ := guard_ok hnext
  obtain ⟨hhead, -⟩ := guard_ok hnext
  by_contra hne
  exact hhead ⟨by simp [hcount], hne⟩

/-- **Tamper evidence.**  Journals that validate and end with the same hash hold the same records, one
    by one, as far as no two of their texts share a digest; so an append guarded by the number and the
    head hash of the records its caller validated adds one line to just these records. -/
theorem tamper_evident {ls : List Bytes} {records : List (Value φ)}
    (h : validateRecords ls = .ok records) :
    (∀ (ls' : List Bytes) (records' : List (Value φ)), validateRecords ls' = .ok records' →
      NoCollision φ ls ls' → headHash records = headHash records' →
      List.Forall₂ SameEncoding records records') ∧
    ∀ (lower : PyStr → PyStr) (path path' : JournalPath) (args : Append φ) (record : Value φ),
      NoCollision φ ls (lines path.content) →
      args.expectedRecordCount = .int records.length →
      args.expectedPreviousHash = hashValue (headHash records) →
      append lower path args = (.ok record, path') →
      ∃ records' hash text, validateRecords (lines path.content) = .ok records' ∧
        List.Forall₂ SameEncoding records records' ∧
        record = withHash (unsignedRecord args records.length (headHash records)) hash ∧
        dumps record = some text ∧
        path'.content = path.content ++ (asciiBytes text ++ [newline]) := by
  obtain ⟨chain, hfrom, hfollows, -⟩ := validateRecords_ok h
  have hsame : ∀ (ls' : List Bytes) (records' : List (Value φ)), validateRecords ls' = .ok records' →
      NoCollision φ ls ls' → headHash records = headHash records' →
      List.Forall₂ SameEncoding records records' := by
    intro ls' records' h' hcollision hhead
    obtain ⟨chain', hfrom', hfollows', -⟩ := validateRecords_ok h'
    exact validateFrom_same ls ls' records records' chain chain' hfrom hfrom' hcollision
      (hfollows.previousHash.trans (hhead.trans hfollows'.previousHash.symm))
  refine ⟨hsame, fun lower path path' args record hcollision hcount hhead happend => ?_⟩
  obtain ⟨-, file, payload, hfile, -, -, -, -, hnext⟩ := append_ok happend
  obtain ⟨records', hash, text, hvalid', -, -, -, hrecord, htext, rfl⟩ := nextRecord_ok hnext
  have hguard := nextRecord_head hvalid' (by rw [hcount]; rfl) hnext
  rw [hhead] at hguard
  have heq : headHash records = headHash records' := by
    cases hleft : headHash records <;> cases hright : headHash records' <;>
      simp_all [hashValue, Value.pyEq]
  have hrecords := hsame _ records' hvalid' hcollision heq
  refine ⟨records', hash, text, hvalid', hrecords, ?_, htext, ?_⟩
  · rw [hrecord, heq, hrecords.length_eq]
  · rw [JournalPath.content, hfile]
    rfl

end Tamper

/-- The line of the sample record, as `append` writes it and as a torn append leaves it. -/
theorem loads_sample (space : PyStr) (hspace : space = [] ∨ space = [0x0A]) :
    ∃ text, tornPath.content = asciiBytes text ∧ newline ∉ asciiBytes text ∧
      loads (asciiBytes (text ++ space)) = some (sampleRecord 0 none) := by
  obtain ⟨text, htext, hcontent, -, hnewline⟩ := tornPath_content
  have hplain := plainAscii_of_printable (dumps_printable _ _ htext)
  have hrecord : isNative (sampleRecord 0 none) = isNative sampleArgs.evidence :=
    isNative_record (by decide) (by decide) (fun _ h => by cases h) (noPairs_hash _)
  have hnative : isNative (sampleRecord 0 none) = true := hrecord.trans rfl
  refine ⟨text, hcontent, hnewline, ?_⟩
  rcases hspace with rfl | rfl
  · rw [loads_asciiBytes fun c hc => hplain c (by simpa using .inl (by simpa using hc))]
    exact loadsText_dumps htext hnative trivial rfl
  · rw [loads_asciiBytes hplain]
    exact loadsText_dumps htext hnative (.inr (.inr (.inr rfl))) rfl

/-- The guard of the sample journal. -/
def guardedArgs : Append Unit :=
  { sampleArgs with
    expectedRecordCount := .int 1, expectedPreviousHash := hashValue (some (sampleHash 0 none)) }

/-- The sample journal with its newline and without hold the same record, and an append that is guarded
    by the first extends the second. -/
theorem tamper_evident_sample : ∃ ls, validateRecords ls = .ok [sampleRecord 0 none] ∧
    ls ≠ lines tornPath.content ∧
    List.Forall₂ SameEncoding [sampleRecord 0 none] [sampleRecord 0 none] ∧
    ∃ path' records', append id tornPath guardedArgs = (.ok sampleSecond, path') ∧
      validateRecords (lines tornPath.content) = .ok records' ∧
      List.Forall₂ SameEncoding [sampleRecord 0 none] records' := by
  obtain ⟨text, hcontent, hnewline, hfull⟩ := loads_sample [0x0A] (.inr rfl)
  obtain ⟨text', hcontent', -, htorn⟩ := loads_sample [] (.inl rfl)
  rw [List.append_nil, ← hcontent', hcontent] at htorn
  have hne : asciiBytes text ≠ [] := by
    intro hnil
    exact tornPath_torn (.inl (hcontent.trans hnil))
  have hlines : lines tornPath.content = [asciiBytes text] := by
    rw [hcontent, lines_torn hne hnewline]
  have hvalid := tornPath_valid
  rw [hlines] at hvalid
  -- both lines are read as the same record, so both are validated, and the same text is hashed
  have hline : validateLine (φ := Unit) .start (asciiBytes (text ++ [0x0A])) =
      validateLine .start (asciiBytes text) := by
    rw [validateLine, validateLine, hfull, htorn]
  have hfullValid : validateRecords [asciiBytes (text ++ [0x0A])] = .ok [sampleRecord 0 none] := by
    rw [← hvalid]
    simp only [validateRecords, validateFrom, hline]
  have hcollision : NoCollision Unit [asciiBytes (text ++ [0x0A])] (lines tornPath.content) := by
    rw [hlines]
    intro line hl line' hl' hashed hashed' h h' _
    rw [List.mem_singleton.mp hl, hashedText, hfull] at h
    rw [List.mem_singleton.mp hl', hashedText, htorn] at h'
    exact Option.some.inj (h.symm.trans h')
  obtain ⟨hsame, hguarded⟩ := tamper_evident hfullValid
  have hargs : checkArguments id guardedArgs = .ok () := by rfl
  have hguard : (hashValue (some (sampleHash 0 none))).pyEq guardedArgs.expectedPreviousHash = true := by
    simp [guardedArgs, hashValue, Value.pyEq]
  obtain ⟨path', happend⟩ := append_torn hargs (.inr ⟨rfl, hguard⟩)
  have hhead : guardedArgs.expectedPreviousHash = hashValue (headHash [sampleRecord 0 none]) := by
    rw [headHash_sample]
    rfl
  obtain ⟨records', _, _, hvalid', hrecords, -, -, -⟩ :=
    hguarded id tornPath path' guardedArgs sampleSecond hcollision rfl hhead happend
  refine ⟨[asciiBytes (text ++ [0x0A])], hfullValid, ?_,
    hsame _ _ tornPath_valid hcollision rfl, path', records', happend, hvalid', hrecords⟩
  rw [hlines]
  intro heq
  have hlength := congrArg List.length (List.cons.inj heq).1
  rw [asciiBytes, asciiBytes, List.length_map, List.length_map, List.length_append] at hlength
  simp at hlength

end T2TouchId.Journal
