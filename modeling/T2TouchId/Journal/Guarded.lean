/-
  Guarded appends of concurrent processes (`append_checked` and the lock of `t2_mutation_journal.append`).

  Problem: `append_checked` validates a journal without a lock, and then appends under one.  Between the
  two any number of other processes may append.  The append compares the number of records and the head
  hash with what was validated; no record should be lost, or stand behind a prefix that nothing validated.

  1. **Data** — `Progress`: how far a call is; `World`: the file, who holds the lock, and the appends in
     the order in which they took it.
  2. **Program** — `step`: one read, one lock, the writes of a line in pieces, one close.  A reader takes
     no lock, so it may see a beginning of the line that is being written.
  3. **Invariant** — `Sound`: the file and what is still to be written are the old file and the lines of
     the log; who has read something has read a prefix of that.
  4. **The crux** — a beginning of a line is no JSON value, unless only the newline is missing
     (`validateRecords_part`), so every reader sees a prefix of the records; a prefix with as many
     records as the file is the whole.
  5. **Result** — `guarded_appends_linear`, for the five journals, over every schedule.
-/
import T2TouchId.Journal.Checked
import T2TouchId.Python.Json.Cut

set_option linter.unusedSectionVars false

namespace T2TouchId.Journal

open T2TouchId.Python T2TouchId.Python.Json

section Guarded

variable {φ : Type} [JsonFloat φ] {H P : Type} [DecidableEq P]

/-! ## Data -/

/-- The arguments of an `append_checked`. -/
structure Call (φ : Type) where
  operationId : PyStr
  milestone : PyStr
  evidence : Value φ

/-- How far a call of `append_checked` is. -/
inductive Progress (φ H : Type)
  | called
  /-- It has read and validated these records. -/
  | checked (records : List (Value φ)) (current : H)
  /-- It holds the lock, and has this to write. -/
  | writing (record : Value φ) (rest : Bytes)
  /-- `append` has returned. -/
  | appended (record : Value φ)
  /-- It has read the journal again, and returned or raised. -/
  | answered (result : Except (Failure φ) H)
  /-- It raised before or in `append`. -/
  | raised (error : Failure φ)

/-- Has the append come past its tests? -/
def Progress.succeeded : Progress φ H → Bool
  | .called | .checked .. | .raised _ => false
  | .writing .. | .appended _ | .answered _ => true

/-- An append that came past its tests: whose it is, what it had validated, and what it writes. -/
structure Appended (P φ : Type) where
  caller : P
  seen : List (Value φ)
  record : Value φ
  line : Bytes

/-- The file, the holder of its lock, the calls, and the appends in the order of their locks. -/
structure World (P φ H : Type) where
  path : JournalPath
  holder : Option P
  progress : P → Progress φ H
  log : List (Appended P φ)

/-- What may happen to a call. -/
inductive Event (P : Type)
  | read (p : P)
  | lock (p : P)
  /-- One `os.write` that takes so many bytes. -/
  | write (p : P) (bytes : Nat)
  | close (p : P)
  | reread (p : P)

/-! ## Program -/

/-- The path with another content of its file. -/
def JournalPath.withContent (path : JournalPath) (content : Bytes) : JournalPath :=
  { path with file := path.file.map fun file => { file with content := content } }

namespace World

def set (w : World P φ H) (p : P) (progress : Progress φ H) : World P φ H :=
  { w with progress := Function.update w.progress p progress }

/-- What the holder of the lock has not yet written. -/
def rest (w : World P φ H) : Bytes :=
  match w.holder with
  | none => []
  | some p =>
    match w.progress p with
    | .writing _ rest => rest
    | _ => []

variable (J : TypedJournal φ H) (lower : PyStr → PyStr) (calls : P → Call φ)

/-- `read` and the tests before `append`. -/
def readStep (w : World P φ H) (p : P) : World P φ H :=
  match J.readHistory w.path with
  | .error error => w.set p (.raised error)
  | .ok (records, current) =>
    match J.tests records current (calls p).operationId (calls p).milestone (calls p).evidence with
    | .error error => w.set p (.raised error)
    | .ok () => w.set p (.checked records current)

/-- `append` up to its first `os.write`: its line is known, and nothing of it is written. -/
def lockStep (w : World P φ H) (p : P) (records : List (Value φ)) (current : H) : World P φ H :=
  let (result, path) := append lower w.path
    (J.guarded current (calls p).operationId (calls p).milestone (calls p).evidence)
  match wrapJournal (J.messages.map Prod.snd) result with
  | .error error => { w with path := path, progress := Function.update w.progress p (.raised error) }
  | .ok record =>
    let line := path.content.drop w.path.content.length
    { path := path.withContent w.path.content
      holder := some p
      progress := Function.update w.progress p (.writing record line)
      log := w.log ++ [⟨p, records, record, line⟩] }

/-- What an event does, where it may happen. -/
def step (w : World P φ H) : Event P → World P φ H
  | .read p =>
    match w.progress p with
    | .called => readStep J calls w p
    | _ => w
  | .lock p =>
    match w.holder, w.progress p with
    | none, .checked records current => lockStep J lower calls w p records current
    | _, _ => w
  | .write p bytes =>
    match w.progress p with
    | .writing record rest =>
      { w with
        path := w.path.withContent (w.path.content ++ rest.take bytes)
        progress := Function.update w.progress p (.writing record (rest.drop bytes)) }
    | _ => w
  | .close p =>
    match w.progress p with
    | .writing record [] =>
      { w with holder := none, progress := Function.update w.progress p (.appended record) }
    | _ => w
  | .reread p =>
    match w.progress p with
    | .appended _ => w.set p (.answered ((J.readHistory w.path).map Prod.snd))
    | _ => w

/-- A schedule. -/
def run (w : World P φ H) (events : List (Event P)) : World P φ H := events.foldl (step J lower calls) w

end World

/-- Nothing has happened yet. -/
def World.start (path : JournalPath) : World P φ H := ⟨path, none, fun _ => .called, []⟩

/-! ## Specification -/

/-- The record stands behind the records that its caller validated, and says what the call says. -/
structure Appended.Extends (J : TypedJournal φ H) (calls : P → Call φ) (records : List (Value φ))
    (entry : Appended P φ) : Prop where
  seen : entry.seen = records
  validated : ∃ current, J.validate records = .ok current ∧
    J.tests records current (calls entry.caller).operationId (calls entry.caller).milestone
      (calls entry.caller).evidence = .ok ()
  operationId : entry.record.get "operation_id" = .str (calls entry.caller).operationId
  milestone : entry.record.get "milestone" = .str (calls entry.caller).milestone
  evidence : entry.record.get "evidence" = (calls entry.caller).evidence

/-- Every append of the log extends the records before it. -/
def Extending (J : TypedJournal φ H) (calls : P → Call φ) : List (Value φ) → List (Appended P φ) → Prop
  | _, [] => True
  | records, entry :: log =>
    entry.Extends J calls records ∧ Extending J calls (records ++ [entry.record]) log

/-- **No lost and no duplicated append**: the file, with what is still to be written, is the old file
    and one line for each call whose append came past its tests, in the order of the locks; every other
    call has written nothing. -/
structure World.Linear (J : TypedJournal φ H) (calls : P → Call φ) (path : JournalPath)
    (records : List (Value φ)) (w : World P φ H) : Prop where
  bytes : w.path.content ++ w.rest = path.content ++ w.log.flatMap Appended.line
  journal : validateRecords (lines (w.path.content ++ w.rest)) =
    .ok (records ++ w.log.map Appended.record)
  extending : Extending J calls records w.log
  once : (w.log.map Appended.caller).Nodup
  succeeded : ∀ p, p ∈ w.log.map Appended.caller ↔ (w.progress p).succeeded = true

/-! ## A line that is being written -/

/-- **A beginning of a line** is no record, unless only the newline is missing. -/
theorem validateRecords_part_iff {lower : PyStr → PyStr} {args : Append φ} {content part rest : Bytes}
    {record : Value φ} {records seen : List (Value φ)} (hargs : checkArguments lower args = .ok ())
    (hvalid : validateRecords (lines content) = .ok records) (hterminated : Terminated content)
    (hnative : isNative args.evidence = true)
    (hnext : nextRecord args content = .ok (record, part ++ rest)) :
    validateRecords (lines (content ++ part)) = .ok seen ↔
      if part = [] then seen = records
      else rest.length ≤ 1 ∧ seen = records ++ [record] := by
  by_cases hpart : part = []
  · rw [if_pos hpart, hpart, List.append_nil, hvalid]
    exact ⟨fun h => (Except.ok.inj h).symm, fun h => h ▸ rfl⟩
  rw [if_neg hpart]
  by_cases hrest : rest = []
  · rw [hrest, List.append_nil] at hnext
    rw [(validateRecords_appended hargs hvalid hnext hterminated).mpr hnative, hrest]
    exact ⟨fun h => ⟨Nat.zero_le 1, (Except.ok.inj h).symm⟩, fun h => h.2 ▸ rfl⟩
  obtain ⟨records', hash, text, hvalid', -, hcheck, hhash, hrecord, htext, hpayload⟩ := nextRecord_ok hnext
  obtain rfl : records = records' := Except.ok.inj (hvalid.symm.trans hvalid')
  obtain ⟨behind, last, rfl⟩ := (List.eq_nil_or_concat' rest).resolve_left hrest
  rw [← List.append_assoc] at hpayload
  obtain ⟨htextBytes, -⟩ := List.append_inj' hpayload rfl
  have hprintable := dumps_printable _ _ htext
  have hnewline : newline ∉ part := fun hmem =>
    newline_notMem_payload hprintable (htextBytes ▸ List.mem_append_left _ hmem)
  obtain ⟨chain, hfrom, hfollows, -⟩ := validateRecords_ok hvalid
  rw [lines_append hterminated, lines_torn hpart hnewline, validateRecords_concat hfrom]
  -- the part in characters
  obtain ⟨first, second, rfl, rfl, rfl⟩ : ∃ first second, text = first ++ second ∧
      part = asciiBytes first ∧ behind = asciiBytes second := by
    refine ⟨text.take part.length, text.drop part.length, (List.take_append_drop _ _).symm, ?_, ?_⟩
    · rw [asciiBytes, List.map_take, ← asciiBytes, ← htextBytes, List.take_left]
    · rw [asciiBytes, List.map_drop, ← asciiBytes, ← htextBytes, List.drop_left]
  have hplain : PlainAscii first := fun c hc =>
    plainAscii_of_printable hprintable c (List.mem_append_left _ (List.mem_append_left _ hc))
  by_cases hsecond : second = []
  · -- only the newline is missing
    obtain ⟨hoperation, hmilestone⟩ := checkArguments_ok hargs
    obtain ⟨bytes, -, hbytes⟩ := bind_ok hhash
    obtain rfl : py (sha256 bytes).hex = hash := Except.ok.inj hbytes
    have hprevious : ∀ t, headHash records = some t → noPairs t = true := by
      intro t ht
      obtain ⟨old, rfl⟩ := hfollows.hashed t (hfollows.previousHash.trans ht)
      exact noPairs_hash _
    rw [hsecond, List.append_nil, hrecord] at htext
    obtain ⟨next, hwhole⟩ := validateLine_record [] (.inl rfl) hfollows hcheck hhash htext
      ((isNative_record hmilestone hoperation hprevious (noPairs_hash _)).trans hnative)
    rw [List.append_nil, ← hrecord] at hwhole
    rw [hwhole, hsecond]
    constructor
    · rintro ⟨found, chain', hline, rfl⟩
      rw [(Prod.mk.inj (Except.ok.inj hline)).1]
      exact ⟨Nat.le_refl 1, rfl⟩
    · rintro ⟨-, rfl⟩
      exact ⟨record, next, rfl, rfl⟩
  · -- the beginning of an object
    rw [hrecord, withHash_unsignedRecord] at htext
    have hnone : loads (φ := φ) (asciiBytes first) = none := by
      rw [loads_asciiBytes hplain]
      exact loadsText_cut htext rfl hsecond
    rw [validateLine, hnone]
    refine ⟨(by rintro ⟨_, _, hline, _⟩; cases hline), ?_⟩
    rintro ⟨hlength, -⟩
    have hpositive : 0 < (asciiBytes second).length := by
      rw [asciiBytes, List.length_map]
      exact List.length_pos_iff.mpr hsecond
    rw [List.length_append, List.length_singleton] at hlength
    omega

theorem validateRecords_part {lower : PyStr → PyStr} {args : Append φ} {content part rest : Bytes}
    {record : Value φ} {records seen : List (Value φ)} (hargs : checkArguments lower args = .ok ())
    (hvalid : validateRecords (lines content) = .ok records) (hterminated : Terminated content)
    (hnative : isNative args.evidence = true)
    (hnext : nextRecord args content = .ok (record, part ++ rest))
    (hseen : validateRecords (lines (content ++ part)) = .ok seen) :
    seen <+: records ++ [record] := by
  rw [validateRecords_part_iff hargs hvalid hterminated hnative hnext] at hseen
  split at hseen
  · rw [hseen]
    exact List.prefix_append _ _
  · rw [hseen.2]

/-! ## The number of records -/

/-- What `validate_history` counts are the records. -/
def TypedJournal.Counts (J : TypedJournal φ H) : Prop :=
  ∀ records history, J.validate records = .ok history → J.recordCount history = records.length

theorem counts_sealHistory {S : Type} {state : Check φ S} {records : List (Value φ)}
    {history : S → Nat → Value φ → H} {count : H → Nat} {found : H}
    (hcount : ∀ st n head, count (history st n head) = n)
    (h : sealHistory state records history = .ok found) : count found = records.length := by
  obtain ⟨st, -, -, rfl⟩ := sealHistory_ok.mp h
  exact hcount st _ _

theorem counts_takeHistory {S : Type} {state : Check φ S} {records : List (Value φ)}
    {history : S → Nat → Value φ → H} {count : H → Nat} {found : H}
    (hcount : ∀ st n head, count (history st n head) = n)
    (h : takeHistory state records history = .ok found) : count found = records.length := by
  obtain ⟨st, _, -, -, rfl⟩ := takeHistory_ok.mp h
  exact hcount st _ _

theorem Enrollment.counts (lower : PyStr → PyStr) :
    (Enrollment.typedJournal (φ := φ) lower).Counts :=
  fun _ _ h => counts_sealHistory (fun _ _ _ => rfl) h

theorem Rename.counts (lower : PyStr → PyStr) : (Rename.typedJournal (φ := φ) lower).Counts :=
  fun _ _ h => counts_sealHistory (fun _ _ _ => rfl) h

theorem Delete.counts (lower : PyStr → PyStr) : (Delete.typedJournal (φ := φ) lower).Counts :=
  fun _ _ h => counts_sealHistory (fun _ _ _ => rfl) h

theorem CatacombSync.counts (lower : PyStr → PyStr) :
    (CatacombSync.typedJournal (φ := φ) lower).Counts :=
  fun _ _ h => counts_takeHistory (fun _ _ _ => rfl) h

theorem ExternalDelete.counts : (ExternalDelete.typedJournal (φ := φ)).Counts :=
  fun _ _ h => counts_takeHistory (fun _ _ _ => rfl) h

/-! ## The invariant -/

theorem content_withContent (path : JournalPath) (h : path.file.isSome = true) (content : Bytes) :
    (path.withContent content).content = content ∧
      (path.withContent content).file.isSome = true := by
  obtain ⟨file, hfile⟩ := Option.isSome_iff_exists.mp h
  simp [JournalPath.withContent, JournalPath.content, hfile]

theorem extending_concat {J : TypedJournal φ H} {calls : P → Call φ} {entry : Appended P φ}
    (log : List (Appended P φ)) : ∀ records, Extending J calls records (log ++ [entry]) ↔
      Extending J calls records log ∧ entry.Extends J calls (records ++ log.map Appended.record) := by
  induction log with
  | nil =>
    intro records
    simp [Extending]
  | cons first log ih =>
    intro records
    rw [List.cons_append, Extending, Extending, ih, List.map_cons, List.append_assoc,
      List.singleton_append, and_assoc]

namespace World

variable (J : TypedJournal φ H) (lower : PyStr → PyStr) (calls : P → Call φ) (path : JournalPath)
  (records : List (Value φ))

/-- The holder of the lock has written a part of its line behind a complete file. -/
structure Holding (w : World P φ H) (p : P) (earlier : List (Appended P φ)) (entry : Appended P φ)
    (settled part rest : Bytes) : Prop where
  file : w.path.file.isSome = true
  log : w.log = earlier ++ [entry]
  progress : w.progress p = .writing entry.record rest
  content : w.path.content = settled ++ part
  terminated : Terminated settled
  valid : validateRecords (lines settled) = .ok (records ++ earlier.map Appended.record)
  line : ∃ args : Append φ, checkArguments lower args = .ok () ∧ isNative args.evidence = true ∧
    nextRecord args settled = .ok (entry.record, part ++ rest)
  others : ∀ q record rest, w.progress q = .writing record rest → q = p

/-- What holds between any two events. -/
structure Sound (w : World P φ H) : Prop extends w.Linear J calls path records where
  terminated : Terminated (w.path.content ++ w.rest)
  checked : ∀ p seen current, w.progress p = .checked seen current →
    seen <+: records ++ w.log.map Appended.record ∧ J.validate seen = .ok current ∧
    J.tests seen current (calls p).operationId (calls p).milestone (calls p).evidence = .ok ()
  free : w.holder = none → ∀ p record rest, w.progress p ≠ .writing record rest
  held : ∀ p, w.holder = some p → ∃ earlier entry settled part rest,
    w.Holding lower records p earlier entry settled part rest

variable {J lower calls path records} {w : World P φ H} {p : P}

theorem Holding.rest_eq {earlier : List (Appended P φ)} {entry : Appended P φ}
    {settled part rest : Bytes} (h : w.Holding lower records p earlier entry settled part rest)
    (hholder : w.holder = some p) : w.rest = rest := by
  rw [World.rest, hholder]
  simp only [h.progress]

/-- **The start** is sound. -/
theorem sound_start (hvalid : validateRecords (lines path.content) = .ok records)
    (hterminated : Terminated path.content) :
    (World.start path : World P φ H).Sound J lower calls path records where
  bytes := by simp [start, rest]
  journal := by simpa [start, rest] using hvalid
  extending := trivial
  once := List.nodup_nil
  succeeded p := by simp [start, Progress.succeeded]
  terminated := by simpa [start, rest] using hterminated
  checked _ _ _ h := nomatch h
  free _ _ _ _ h := nomatch h
  held _ h := nomatch h

/-- A reader sees a prefix of the records, also while a line is being written. -/
theorem Sound.reads (h : w.Sound J lower calls path records) {seen : List (Value φ)}
    (hread : read w.path = .ok seen) : seen <+: records ++ w.log.map Appended.record := by
  have hseen := read_ok hread
  cases hholder : w.holder with
  | none =>
    have hjournal := h.journal
    rw [rest, hholder, List.append_nil, hseen] at hjournal
    rw [Except.ok.inj hjournal]
  | some p =>
    obtain ⟨earlier, entry, settled, part, rest, hholding⟩ := h.held p hholder
    obtain ⟨args, hargs, hnative, hnext⟩ := hholding.line
    rw [hholding.content] at hseen
    have hfront := validateRecords_part hargs hholding.valid hholding.terminated hnative hnext hseen
    rw [hholding.log, List.map_append, ← List.append_assoc]
    exact hfront

/-- **A call that writes nothing** goes on. -/
theorem Sound.set (h : w.Sound J lower calls path records) {progress : Progress φ H}
    {after : JournalPath} (hcontent : after.content = w.path.content)
    (hheld : w.holder ≠ none → after = w.path)
    (hbefore : ∀ record rest, w.progress p ≠ .writing record rest)
    (hafter : ∀ record rest, progress ≠ .writing record rest)
    (hsucceeded : progress.succeeded = (w.progress p).succeeded)
    (hchecked : ∀ seen current, progress = .checked seen current →
      seen <+: records ++ w.log.map Appended.record ∧ J.validate seen = .ok current ∧
      J.tests seen current (calls p).operationId (calls p).milestone (calls p).evidence = .ok ()) :
    ({ w with path := after, progress := Function.update w.progress p progress } :
      World P φ H).Sound J lower calls path records := by
  have hother : ∀ {q}, q ≠ p → Function.update w.progress p progress q = w.progress q :=
    fun hq => Function.update_of_ne hq _ _
  have hself : Function.update w.progress p progress p = progress := Function.update_self ..
  have hrest : ({ w with path := after, progress := Function.update w.progress p progress } :
      World P φ H).rest = w.rest := by
    cases hholder : w.holder with
    | none => simp [rest, hholder]
    | some q =>
      obtain ⟨earlier, entry, settled, part, rest, hholding⟩ := h.held q hholder
      have hq : q ≠ p := by
        rintro rfl
        exact hbefore _ _ hholding.progress
      simp [World.rest, hholder, hother hq]
  refine ⟨⟨?_, ?_, h.extending, h.once, fun q => ?_⟩, ?_, fun q seen current hq => ?_,
    fun hholder q record rest hq => ?_, fun q hholder => ?_⟩
  · rw [hrest, hcontent]
    exact h.bytes
  · rw [hrest, hcontent]
    exact h.journal
  · by_cases hq : q = p
    · subst hq
      show _ ↔ (Function.update w.progress q progress q).succeeded = true
      rw [hself, hsucceeded]
      exact h.succeeded q
    · show _ ↔ (Function.update w.progress p progress q).succeeded = true
      rw [hother hq]
      exact h.succeeded q
  · rw [hrest, hcontent]
    exact h.terminated
  · by_cases hqp : q = p
    · subst hqp
      exact hchecked seen current (hself.symm.trans hq)
    · exact h.checked q seen current ((hother hqp).symm.trans hq)
  · by_cases hqp : q = p
    · subst hqp
      exact hafter record rest (hself.symm.trans hq)
    · exact h.free hholder q record rest ((hother hqp).symm.trans hq)
  · obtain ⟨earlier, entry, settled, part, rest, hholding⟩ := h.held q hholder
    obtain rfl : after = w.path := hheld fun hnone => nomatch hnone.symm.trans hholder
    have hqp : q ≠ p := by
      rintro rfl
      exact hbefore _ _ hholding.progress
    refine ⟨earlier, entry, settled, part, rest, hholding.file, hholding.log,
      (hother hqp).trans hholding.progress, hholding.content, hholding.terminated, hholding.valid,
      hholding.line, fun q' record rest' hq' => ?_⟩
    by_cases hq'p : q' = p
    · subst hq'p
      exact absurd (hself.symm.trans hq') (hafter record rest')
    · exact hholding.others q' record rest' ((hother hq'p).symm.trans hq')

/-! ## One step -/

theorem Sound.readStep (h : w.Sound J lower calls path records) (hcalled : w.progress p = .called) :
    (readStep J calls w p).Sound J lower calls path records := by
  have hbefore : ∀ record rest, w.progress p ≠ .writing record rest :=
    fun _ _ hwriting => nomatch hcalled.symm.trans hwriting
  have hraised : ∀ error, (w.set p (.raised error)).Sound J lower calls path records := fun error =>
    h.set rfl (fun _ => rfl) hbefore nofun (by rw [hcalled]; rfl) nofun
  rw [World.readStep]
  split
  · exact hraised _
  · rename_i seen current hread
    obtain ⟨hread, hvalidate⟩ := J.readHistory_ok.mp hread
    split
    · exact hraised _
    · rename_i htests
      refine h.set rfl (fun _ => rfl) hbefore nofun (by rw [hcalled]; rfl) ?_
      rintro _ _ heq
      cases heq
      exact ⟨h.reads hread, hvalidate, htests⟩

/-- The fields of the record that `append` returns. -/
theorem nextRecord_fields {args : Append φ} {content payload : Bytes} {record : Value φ}
    (h : nextRecord args content = .ok (record, payload)) :
    record.get "operation_id" = .str args.operationId ∧
      record.get "milestone" = .str args.milestone ∧ record.get "evidence" = args.evidence := by
  obtain ⟨_, _, _, -, -, -, -, rfl, -, -⟩ := nextRecord_ok h
  rw [withHash_unsignedRecord]
  exact ⟨rfl, rfl, rfl⟩

/-- A line that stands behind everything validated takes the lock. -/
theorem Sound.locked (h : w.Sound J lower calls path records) (hholder : w.holder = none)
    {args : Append φ} (hargs : checkArguments lower args = .ok ())
    (hnative : isNative args.evidence = true) {current : H}
    (hp : w.progress p = .checked (records ++ w.log.map Appended.record) current)
    {after : JournalPath} (hfile : after.file.isSome = true) (hcontent : after.content = w.path.content)
    {record : Value φ} {line : Bytes} (hnext : nextRecord args w.path.content = .ok (record, line))
    (hvalidated : ∃ current, J.validate (records ++ w.log.map Appended.record) = .ok current ∧
      J.tests (records ++ w.log.map Appended.record) current (calls p).operationId (calls p).milestone
        (calls p).evidence = .ok ())
    (htells : args.operationId = (calls p).operationId ∧ args.milestone = (calls p).milestone ∧
      args.evidence = (calls p).evidence) :
    ({ path := after
       holder := some p
       progress := Function.update w.progress p (.writing record line)
       log := w.log ++ [⟨p, records ++ w.log.map Appended.record, record, line⟩] } :
      World P φ H).Sound J lower calls path records := by
  have hrest : w.rest = [] := by rw [World.rest, hholder]
  have hbytes := h.bytes
  have hjournal := h.journal
  have hterminated := h.terminated
  rw [hrest, List.append_nil] at hbytes hjournal hterminated
  obtain ⟨hoperation, hmilestone, hevidence⟩ := nextRecord_fields hnext
  obtain ⟨-, text, -, htext⟩ := payload_line hjournal hnext
  have hother : ∀ {q}, q ≠ p → Function.update w.progress p (.writing record line) q = w.progress q :=
    fun hq => Function.update_of_ne hq _ _
  have hself : Function.update w.progress p (.writing record line) p = .writing record line :=
    Function.update_self ..
  have hnew : ¬ p ∈ w.log.map Appended.caller := by
    rw [h.succeeded p, hp]
    exact nofun
  have hafter : ({ path := after, holder := some p
                   progress := Function.update w.progress p (.writing record line)
                   log := w.log ++ [⟨p, records ++ w.log.map Appended.record, record, line⟩] } :
      World P φ H).rest = line := by
    simp [World.rest]
  refine ⟨⟨?_, ?_, ?_, ?_, fun q => ?_⟩, ?_, fun q seen now hq => ?_, nofun, fun q hq => ?_⟩
  · rw [hafter, hcontent, hbytes, List.flatMap_append, List.flatMap_singleton, List.append_assoc]
  · rw [hafter, hcontent, List.map_append, ← List.append_assoc]
    exact (validateRecords_appended hargs hjournal hnext hterminated).mpr hnative
  · exact (extending_concat w.log records).mpr ⟨h.extending, rfl, hvalidated,
      hoperation.trans (congrArg _ htells.1), hmilestone.trans (congrArg _ htells.2.1),
      hevidence.trans htells.2.2⟩
  · rw [List.map_append]
    exact List.nodup_append.mpr ⟨h.once, List.nodup_singleton _, fun a ha b hb => by
      obtain rfl : b = p := List.mem_singleton.mp hb
      rintro rfl
      exact hnew ha⟩
  · by_cases hq : q = p
    · subst hq
      simp [Progress.succeeded]
    · show _ ↔ (Function.update w.progress p (.writing record line) q).succeeded = true
      rw [hother hq, ← h.succeeded q]
      simp [hq]
  · rw [hafter, hcontent, htext, ← List.append_assoc]
    exact .inr (List.getLast?_concat ..)
  · have hqp : q ≠ p := by
      rintro rfl
      exact nomatch hself.symm.trans hq
    obtain ⟨hfront, hchecked⟩ := h.checked q seen now ((hother hqp).symm.trans hq)
    rw [List.map_append, ← List.append_assoc]
    exact ⟨hfront.trans (List.prefix_append _ _), hchecked⟩
  · obtain rfl : p = q := Option.some.inj hq
    refine ⟨w.log, _, w.path.content, [], line, hfile, rfl, hself, ?_, hterminated, hjournal,
      ⟨args, hargs, hnative, hnext⟩, fun q' record' rest' hq' => ?_⟩
    · rw [List.append_nil]
      exact hcontent
    · by_contra hne
      exact h.free hholder q' record' rest' ((hother hne).symm.trans hq')

/-- **The lock**: where the number of records is still the one that was validated, the validated prefix
    is the whole file. -/
theorem Sound.lockStep (hcounts : J.Counts) (hnative : ∀ p, isNative (calls p).evidence = true)
    (h : w.Sound J lower calls path records) (hholder : w.holder = none) {seen : List (Value φ)}
    {current : H} (hp : w.progress p = .checked seen current) :
    (lockStep J lower calls w p seen current).Sound J lower calls path records := by
  have hfree := h.free hholder
  obtain ⟨hfront, hvalidate, htests⟩ := h.checked p seen current hp
  have hrest : w.rest = [] := by rw [World.rest, hholder]
  have hjournal := h.journal
  have hterminated := h.terminated
  rw [hrest, List.append_nil] at hjournal hterminated
  rw [World.lockStep]
  rcases happend : append lower w.path
    (J.guarded current (calls p).operationId (calls p).milestone (calls p).evidence) with ⟨result, after⟩
  cases hwrap : wrapJournal (φ := φ) (J.messages.map Prod.snd) result with
  | error error =>
    simp only [hwrap]
    have hcontent : after.content = w.path.content := by
      cases result with
      | ok record => exact nomatch (TypedJournal.wrapJournal_ok.mpr rfl).symm.trans hwrap
      | error e => exact append_error happend
    exact h.set hcontent (fun hne => absurd hholder hne) (hfree p) nofun (by rw [hp]; rfl) nofun
  | ok record =>
    simp only [hwrap]
    obtain rfl := TypedJournal.wrapJournal_ok.mp hwrap
    obtain ⟨hargs, file, line, hfile, -, -, -, -, hnext⟩ := append_ok happend
    have hafter : after.content = w.path.content ++ line := by
      rw [JournalPath.content, hfile]
      rfl
    have hline : after.content.drop w.path.content.length = line := by rw [hafter, List.drop_left]
    obtain ⟨hcontent, hsome⟩ := content_withContent after (by rw [hfile]; rfl) w.path.content
    -- the guard: as many records as were validated
    obtain ⟨found, _, _, hfound, hcount, -⟩ := nextRecord_ok hnext
    obtain rfl : found = records ++ w.log.map Appended.record :=
      Except.ok.inj (hfound.symm.trans hjournal)
    have hlength : seen.length = (records ++ w.log.map Appended.record).length := by
      have hcount := hcount.resolve_left (by simp [TypedJournal.guarded, isNone])
      have hequal : ((records ++ w.log.map Appended.record).length : Int) = J.recordCount current := by
        simpa [TypedJournal.guarded, Value.pyEq] using hcount
      rw [hcounts seen current hvalidate] at hequal
      omega
    obtain rfl := hfront.eq_of_length hlength
    rw [hline]
    exact h.locked hholder hargs (hnative p) hp hsome hcontent hnext ⟨current, hvalidate, htests⟩
      ⟨rfl, rfl, rfl⟩

/-- **A write** moves bytes of the line into the file. -/
theorem Sound.writeStep (h : w.Sound J lower calls path records) {record : Value φ} {rest : Bytes}
    (hp : w.progress p = .writing record rest) (bytes : Nat) :
    ({ w with
       path := w.path.withContent (w.path.content ++ rest.take bytes)
       progress := Function.update w.progress p (.writing record (rest.drop bytes)) } :
      World P φ H).Sound J lower calls path records := by
  obtain ⟨q, hholder⟩ : ∃ q, w.holder = some q := by
    cases hholder : w.holder with
    | none => exact absurd hp (h.free hholder p record rest)
    | some q => exact ⟨q, rfl⟩
  obtain ⟨earlier, entry, settled, part, rest', hholding⟩ := h.held q hholder
  obtain rfl : p = q := hholding.others p record rest hp
  obtain ⟨rfl, rfl⟩ : record = entry.record ∧ rest = rest' := by
    have heq := hp.symm.trans hholding.progress
    simpa using heq
  have hrest := hholding.rest_eq hholder
  obtain ⟨hcontent, hfile⟩ := content_withContent w.path hholding.file (w.path.content ++ rest.take bytes)
  have hother : ∀ {q}, q ≠ p →
      Function.update w.progress p (.writing entry.record (rest.drop bytes)) q = w.progress q :=
    fun hq => Function.update_of_ne hq _ _
  have hself : Function.update w.progress p (.writing entry.record (rest.drop bytes)) p =
      .writing entry.record (rest.drop bytes) := Function.update_self ..
  have hafter : ({ w with
      path := w.path.withContent (w.path.content ++ rest.take bytes)
      progress := Function.update w.progress p (.writing entry.record (rest.drop bytes)) } :
        World P φ H).rest = rest.drop bytes := by
    simp [World.rest, hholder]
  -- what is in the file and what is not are one line, as before
  have hwhole : w.path.content ++ rest.take bytes ++ rest.drop bytes = w.path.content ++ w.rest := by
    rw [hrest, List.append_assoc, List.take_append_drop]
  refine ⟨⟨?_, ?_, h.extending, h.once, fun q => ?_⟩, ?_, fun q seen now hq => ?_,
    fun hnone => (nomatch hnone.symm.trans hholder), fun q hq => ?_⟩
  · rw [hafter, hcontent, hwhole]
    exact h.bytes
  · rw [hafter, hcontent, hwhole]
    exact h.journal
  · by_cases hq : q = p
    · subst hq
      show _ ↔ (Function.update w.progress q _ q).succeeded = true
      rw [hself, h.succeeded q, hp]
      rfl
    · show _ ↔ (Function.update w.progress p _ q).succeeded = true
      rw [hother hq]
      exact h.succeeded q
  · rw [hafter, hcontent, hwhole]
    exact h.terminated
  · have hqp : q ≠ p := by
      rintro rfl
      exact nomatch hself.symm.trans hq
    exact h.checked q seen now ((hother hqp).symm.trans hq)
  · obtain rfl : p = q := Option.some.inj (hholder.symm.trans hq)
    obtain ⟨args, hargs, hnative, hnext⟩ := hholding.line
    refine ⟨earlier, entry, settled, part ++ rest.take bytes, rest.drop bytes, hfile, hholding.log,
      hself, ?_, hholding.terminated, hholding.valid, ⟨args, hargs, hnative, ?_⟩,
      fun q' record' rest' hq' => ?_⟩
    · rw [hcontent, hholding.content, List.append_assoc]
    · rw [List.append_assoc, List.take_append_drop]
      exact hnext
    · by_contra hne
      exact hne (hholding.others q' record' rest' ((hother hne).symm.trans hq'))

/-- **The close** of a whole line. -/
theorem Sound.closeStep (h : w.Sound J lower calls path records) {record : Value φ}
    (hp : w.progress p = .writing record []) :
    ({ w with holder := none, progress := Function.update w.progress p (.appended record) } :
      World P φ H).Sound J lower calls path records := by
  obtain ⟨q, hholder⟩ : ∃ q, w.holder = some q := by
    cases hholder : w.holder with
    | none => exact absurd hp (h.free hholder p record [])
    | some q => exact ⟨q, rfl⟩
  obtain ⟨earlier, entry, settled, part, rest', hholding⟩ := h.held q hholder
  obtain rfl : p = q := hholding.others p record [] hp
  obtain rfl : rest' = [] := by
    have heq := hholding.progress.symm.trans hp
    exact (Progress.writing.inj heq).2
  have hrest := hholding.rest_eq hholder
  have hother : ∀ {q}, q ≠ p → Function.update w.progress p (.appended record) q = w.progress q :=
    fun hq => Function.update_of_ne hq _ _
  have hself : Function.update w.progress p (.appended record) p = .appended record :=
    Function.update_self ..
  have hbytes := h.bytes
  have hjournal := h.journal
  have hterminated := h.terminated
  rw [hrest] at hbytes hjournal hterminated
  refine ⟨⟨hbytes, hjournal, h.extending, h.once, fun q => ?_⟩, hterminated,
    fun q seen now hq => ?_, fun _ q record' rest' hq => ?_, nofun⟩
  · by_cases hq : q = p
    · subst hq
      show _ ↔ (Function.update w.progress q _ q).succeeded = true
      rw [hself, h.succeeded q, hp]
      rfl
    · show _ ↔ (Function.update w.progress p _ q).succeeded = true
      rw [hother hq]
      exact h.succeeded q
  · have hqp : q ≠ p := by
      rintro rfl
      exact nomatch hself.symm.trans hq
    exact h.checked q seen now ((hother hqp).symm.trans hq)
  · have hqp : q ≠ p := by
      rintro rfl
      exact nomatch hself.symm.trans hq
    exact hqp (hholding.others q record' rest' ((hother hqp).symm.trans hq))

/-- **The step lemma.** -/
theorem Sound.step (hcounts : J.Counts) (hnative : ∀ p, isNative (calls p).evidence = true)
    (h : w.Sound J lower calls path records) (event : Event P) :
    (step J lower calls w event).Sound J lower calls path records := by
  cases event with
  | read p =>
    rw [World.step]
    split
    · exact h.readStep ‹_›
    · exact h
  | lock p =>
    rw [World.step]
    split
    · exact h.lockStep hcounts hnative ‹_› ‹_›
    · exact h
  | write p bytes =>
    rw [World.step]
    split
    · exact h.writeStep ‹_› bytes
    · exact h
  | close p =>
    rw [World.step]
    split
    · exact h.closeStep ‹_›
    · exact h
  | reread p =>
    rw [World.step]
    split
    · rename_i record hp
      exact h.set rfl (fun _ => rfl) (fun _ _ hwriting => nomatch hp.symm.trans hwriting) nofun
        (by rw [hp]; rfl) nofun
    · exact h

/-- **The run lemma.** -/
theorem Sound.run (hcounts : J.Counts) (hnative : ∀ p, isNative (calls p).evidence = true)
    (events : List (Event P)) : ∀ {w : World P φ H}, w.Sound J lower calls path records →
      (run J lower calls w events).Sound J lower calls path records := by
  induction events with
  | nil => exact fun h => h
  | cons event events ih => exact fun h => ih (h.step hcounts hnative event)

end World

/-! ## The five journals -/

theorem TypedJournal.linear_run {J : TypedJournal φ H} (lower : PyStr → PyStr) (hcounts : J.Counts)
    {calls : P → Call φ} {path : JournalPath} {records : List (Value φ)}
    (hvalid : validateRecords (lines path.content) = .ok records) (hterminated : Terminated path.content)
    (hnative : ∀ p, isNative (calls p).evidence = true) (events : List (Event P)) :
    (World.run J lower calls (.start path) events).Linear J calls path records :=
  ((World.sound_start hvalid hterminated).run hcounts hnative events).toLinear

/-- **Guarded appends are linear**: over every schedule of any number of calls, where the journal ends
    with a newline and JSON gives the evidence of the calls back. -/
theorem guarded_appends_linear (lower : PyStr → PyStr) (calls : P → Call φ) (path : JournalPath)
    (records : List (Value φ)) (hvalid : validateRecords (lines path.content) = .ok records)
    (hterminated : Terminated path.content) (hnative : ∀ p, isNative (calls p).evidence = true)
    (events : List (Event P)) :
    (World.run (Enrollment.typedJournal lower) lower calls (.start path) events).Linear
      (Enrollment.typedJournal lower) calls path records ∧
    (World.run (Rename.typedJournal lower) lower calls (.start path) events).Linear
      (Rename.typedJournal lower) calls path records ∧
    (World.run (Delete.typedJournal lower) lower calls (.start path) events).Linear
      (Delete.typedJournal lower) calls path records ∧
    (World.run (CatacombSync.typedJournal lower) lower calls (.start path) events).Linear
      (CatacombSync.typedJournal lower) calls path records ∧
    (World.run ExternalDelete.typedJournal lower calls (.start path) events).Linear
      ExternalDelete.typedJournal calls path records :=
  ⟨TypedJournal.linear_run lower (Enrollment.counts lower) hvalid hterminated hnative events,
    TypedJournal.linear_run lower (Rename.counts lower) hvalid hterminated hnative events,
    TypedJournal.linear_run lower (Delete.counts lower) hvalid hterminated hnative events,
    TypedJournal.linear_run lower (CatacombSync.counts lower) hvalid hterminated hnative events,
    TypedJournal.linear_run lower ExternalDelete.counts hvalid hterminated hnative events⟩

/-! ### One call alone -/

/-- What `append_checked` has returned or raised. -/
def Progress.result : Progress φ H → Option (Except (Failure φ) H)
  | .answered result => some result
  | .raised error => some (.error error)
  | _ => none

theorem wrapJournal_error (message : Option String) (error : Raised) :
    ∃ failure : Failure φ, ∀ α : Type, wrapJournal (α := α) message (.error error) = .error failure := by
  cases error <;> cases message <;> exact ⟨_, fun _ => rfl⟩

/-- A call that nothing interrupts is `append_checked`. -/
theorem TypedJournal.run_alone (J : TypedJournal φ H) (lower : PyStr → PyStr) (calls : P → Call φ)
    (path : JournalPath) (p : P) : ∃ bytes : Nat,
    let w := World.run J lower calls (.start path)
      [.read p, .lock p, .write p bytes, .close p, .reread p]
    let result := J.appendChecked lower path (calls p).operationId (calls p).milestone (calls p).evidence
    (w.progress p).result = some result.1 ∧ w.path = result.2 := by
  cases hread : J.readHistory path with
  | error error =>
    refine ⟨0, ?_⟩
    simp [World.run, World.step, World.start, World.readStep, World.set, hread, Progress.result,
      TypedJournal.appendChecked]
  | ok found =>
    obtain ⟨records, current⟩ := found
    cases htests : J.tests records current (calls p).operationId (calls p).milestone (calls p).evidence with
    | error error =>
      refine ⟨0, ?_⟩
      simp [World.run, World.step, World.start, World.readStep, World.set, hread, htests,
        Progress.result, TypedJournal.appendChecked]
    | ok u =>
      rcases happend : append lower path (J.guarded current (calls p).operationId (calls p).milestone
        (calls p).evidence) with ⟨result, after⟩
      cases result with
      | error error =>
        obtain ⟨failure, hfailure⟩ := wrapJournal_error (φ := φ) (J.messages.map Prod.snd) error
        refine ⟨0, ?_⟩
        simp [World.run, World.step, World.start, World.readStep, World.lockStep, World.set, hread,
          htests, happend, hfailure, Progress.result, TypedJournal.appendChecked]
      | ok record =>
        have hwrap : wrapJournal (φ := φ) (J.messages.map Prod.snd) (.ok record) = .ok record :=
          TypedJournal.wrapJournal_ok.mpr rfl
        obtain ⟨-, file, line, hfile, -⟩ := append_ok happend
        have hcontent : after.content = path.content ++ line := by
          rw [JournalPath.content, hfile]
          rfl
        obtain ⟨hsettled, -⟩ := content_withContent after (by rw [hfile]; rfl) path.content
        -- the file with the old content and the line is the file that the append leaves
        have hback : (after.withContent path.content).withContent (path.content ++ line) = after := by
          obtain ⟨parent, found⟩ := after
          subst hfile
          rfl
        refine ⟨line.length, ?_⟩
        simp [World.run, World.step, World.start, World.readStep, World.lockStep, World.set, hread,
          htests, happend, hwrap, hcontent, hsettled, hback, Progress.result,
          TypedJournal.appendChecked]

/-! ## Behind a torn line -/

/-- **Without the last newline** the first call that comes to the write breaks the journal. -/
theorem TypedJournal.not_linear_of_torn {J : TypedJournal φ H} {lower : PyStr → PyStr}
    {calls : P → Call φ} {path : JournalPath} {records : List (Value φ)} {current : H} {p : P}
    {line : Bytes} (hread : J.readHistory path = .ok (records, current))
    (hwrites : J.Writes lower path records current (calls p).operationId (calls p).milestone
      (calls p).evidence line) (htorn : ¬ Terminated path.content) :
    ¬ (World.run J lower calls (.start path) [.read p, .lock p]).Linear J calls path records := by
  obtain ⟨htests, hargs, hopen, record, hnext⟩ := hwrites
  obtain ⟨after, happend, hcontent⟩ := append_writes hargs hopen hnext
  obtain ⟨-, file, line', hfile, -⟩ := append_ok happend
  have hwrap : wrapJournal (φ := φ) (J.messages.map Prod.snd) (.ok record) = .ok record :=
    TypedJournal.wrapJournal_ok.mpr rfl
  obtain ⟨hsettled, -⟩ := content_withContent after (by rw [hfile]; rfl) path.content
  obtain ⟨hvalid, -⟩ := J.readHistory_ok.mp hread
  intro h
  have hjournal := h.journal
  simp only [World.run, List.foldl_cons, List.foldl_nil, World.step, World.start, World.readStep,
    World.lockStep, World.set, World.rest, hread, htests, happend, hwrap, Function.update_self, hsettled,
    hcontent, List.drop_left, List.nil_append, List.map_cons, List.map_nil] at hjournal
  exact validateRecords_torn (read_ok hvalid) hnext htorn hjournal

end Guarded

/-- What `append` does under the lock depends on the records only. -/
theorem nextRecord_congr {φ : Type} [JsonFloat φ] {args : Append φ} {content content' : Bytes}
    (h : validateRecords (φ := φ) (lines content) = validateRecords (lines content')) :
    nextRecord args content = nextRecord args content' := by
  rw [nextRecord, h, ← nextRecord]

/-! ### A torn enrollment -/

def enrollBaseline : List (Entry Unit) := [baselineEntry "enroll" true]

/-- The start that follows it. -/
def startIntent : Entry Unit :=
  ⟨py "ENROLL_START_INTENT", object
    [("apple_uid", .int 501), ("connection_generation", sampleUuid "1001"),
     ("protocol_version", .int 2), ("request_length", .int 68),
     ("request_sha256", sampleSha "00cc")]⟩

/-- Every call announces the start. -/
def startCalls (_ : Bool) : Call Unit := ⟨sampleOperation, startIntent.milestone, startIntent.evidence⟩

/-- The first record of an enrollment, whose newline a crash has cut off. -/
def tornBaseline : JournalPath :=
  ⟨some ⟨true, true, 0o700⟩, some ⟨.regular, true, 1, 0o600,
    (writtenContent (written sampleOperation enrollBaseline)).dropLast⟩⟩

theorem enrollBaseline_fits : (∀ entry ∈ enrollBaseline, entry.Writable) ∧
    sizeBound sampleOperation enrollBaseline ≤ maxJournalSize := by
  decide +kernel

theorem enrollBaseline_writable : ∀ entry ∈ enrollBaseline, entry.Writable := enrollBaseline_fits.1

/-- The journal and the candidate of the start are run through. -/
theorem enrollBaseline_runs :
    ((Enrollment.run id (written sampleOperation enrollBaseline)).map fun st =>
      st.operationId.isStr sampleOperation).toOption = some true ∧
    ((Enrollment.run id (written sampleOperation enrollBaseline ++
      [TypedJournal.candidate sampleOperation startIntent.milestone startIntent.evidence])).map
        fun _ => ()).toOption = some () := by
  decide +kernel

/-- The journal is accepted, and so is the candidate of the start. -/
theorem enrollBaseline_accepted : ∃ history : Enrollment.EnrollmentHistory Unit,
    Enrollment.validateHistory id (written sampleOperation enrollBaseline) = .ok history ∧
    (Enrollment.typedJournal id).tests (written sampleOperation enrollBaseline) history sampleOperation
      startIntent.milestone startIntent.evidence = .ok () := by
  obtain ⟨st, hrun, hoperation⟩ := exists_of_map enrollBaseline_runs.1
  obtain ⟨history, hhistory, rfl⟩ := Enrollment.validateHistory_written (by simp [enrollBaseline]) hrun
  refine ⟨history, hhistory, ?_⟩
  obtain ⟨next, hnext, -⟩ := exists_of_map enrollBaseline_runs.2
  have hhash : isSha256 (lastHash (written sampleOperation enrollBaseline ++
      [TypedJournal.candidate sampleOperation startIntent.milestone startIntent.evidence])) = true := by
    rw [lastHash, List.getLast?_concat]
    show isSha256 ((members _).get "record_hash") = true
    rw [get_members]
    simp only [List.lookup_cons, String.reduceBEq, Option.getD_some]
    exact isSha256_zeros
  obtain ⟨found, hcandidate⟩ : ∃ found, Enrollment.validateHistory id
      (written sampleOperation enrollBaseline ++
        [TypedJournal.candidate sampleOperation startIntent.milestone startIntent.evidence]) = .ok found :=
    ⟨_, sealHistory_ok.mpr ⟨next, hnext, hhash, rfl⟩⟩
  have haccept := (Enrollment.typedJournal id).accept_ok.mpr hcandidate
  rw [TypedJournal.tests, if_neg (by
    show ¬ differ _ history.operationId = true
    rw [isStr_iff.mp hoperation, differ_self_str]
    decide), if_pos (show (Enrollment.typedJournal (φ := Unit) id).triesCandidate = true from rfl),
    haccept]
  rfl

/-- The append that wrote the first record. -/
def firstArgs : Append Unit :=
  { (baselineEntry "enroll" true).args sampleOperation with expectedRecordCount := .int 0 }

theorem firstArgs_next : checkArguments id firstArgs = .ok () ∧ nextRecord firstArgs [] =
    .ok (writtenRecord sampleOperation [] (baselineEntry "enroll" true),
      tornBaseline.content ++ [newline]) := by
  have hcontent : tornBaseline.content =
      asciiBytes ((dumps (writtenRecord sampleOperation [] (baselineEntry "enroll" true))).getD []) := by
    show (lineOf _ ++ []).dropLast = _
    rw [List.append_nil, lineOf, List.dropLast_concat]
  have hnone : ∀ entry ∈ ([] : List (Entry Unit)), entry.Writable := List.forall_mem_nil _
  refine ⟨rfl, ?_⟩
  rw [hcontent]
  exact nextRecord_written sampleOperation_plain hnone (enrollBaseline_writable _ List.mem_cons_self)
    (by decide) ⟨rfl, rfl, rfl⟩ rfl rfl

/-- What is left is one line without a newline. -/
theorem tornBaseline_line : tornBaseline.content ≠ [] ∧ newline ∉ tornBaseline.content := by
  obtain ⟨_, _, text, -, -, -, -, -, htext, hpayload⟩ := nextRecord_ok firstArgs_next.2
  obtain ⟨hcontent, -⟩ := List.append_inj' hpayload rfl
  rw [hcontent]
  refine ⟨?_, newline_notMem_payload (dumps_printable _ _ htext)⟩
  obtain ⟨c, rest, rfl, -⟩ := dumps_head htext
  exact List.cons_ne_nil _ _

/-- Without its newline it is read as with it. -/
theorem tornBaseline_read : read tornBaseline = .ok (written sampleOperation enrollBaseline) := by
  obtain ⟨hargs, hline⟩ := firstArgs_next
  have hnative : isNative firstArgs.evidence = true := rfl
  have hvalid : validateRecords (lines ([] ++ tornBaseline.content)) =
      .ok ([] ++ [writtenRecord sampleOperation [] (baselineEntry "enroll" true)]) := by
    rw [validateRecords_part_iff hargs rfl (.inl rfl) hnative hline, if_neg tornBaseline_line.1]
    exact ⟨Nat.le_refl 1, rfl⟩
  have hlength := length_writtenContent sampleOperation _ enrollBaseline_writable (by decide)
  have hsize : tornBaseline.content.length ≤ maxJournalSize := by
    have hbound := enrollBaseline_fits.2
    show (writtenContent (written sampleOperation enrollBaseline)).dropLast.length ≤ _
    rw [List.length_dropLast]
    omega
  have hfew : ¬ maxJournalRecords < (lines tornBaseline.content).length := by
    rw [lines_torn tornBaseline_line.1 tornBaseline_line.2]
    decide
  have hprivate : read (φ := Unit) tornBaseline =
      if tornBaseline.content.length ≤ maxJournalSize then readLines tornBaseline.content
      else journalError "mutation journal ownership, mode, or size is unsafe" :=
    read_private rfl rfl rfl rfl rfl
  rw [hprivate, if_pos hsize, readLines, if_neg hfew]
  exact hvalid

/-- **A torn journal** does not keep its records: the start of an enrollment comes past every test, and
    its line is glued to the torn one. -/
theorem guarded_append_torn_sample : ∃ (path : JournalPath) (records : List (Value Unit))
    (history : Enrollment.EnrollmentHistory Unit) (events : List (Event Bool)),
    (Enrollment.typedJournal id).readHistory path = .ok (records, history) ∧
    (∀ p, isNative (startCalls p).evidence = true) ∧
    ¬ (World.run (Enrollment.typedJournal id) id startCalls (.start path) events).Linear
      (Enrollment.typedJournal id) startCalls path records := by
  obtain ⟨history, hhistory, htests⟩ := enrollBaseline_accepted
  have hread := (Enrollment.typedJournal id).readHistory_ok.mpr ⟨tornBaseline_read, hhistory⟩
  refine ⟨tornBaseline, _, history, [.read true, .lock true], hread, fun _ => rfl, ?_⟩
  have htorn : ¬ Terminated tornBaseline.content := by
    rintro (hnil | hlast)
    · exact tornBaseline_line.1 hnil
    · exact tornBaseline_line.2 (List.mem_of_getLast? hlast)
  have hcount : history.recordCount = 1 := Enrollment.counts id _ history hhistory
  have hhead : history.headHash = hashValue (headHash (written sampleOperation enrollBaseline)) := by
    obtain ⟨st, -, -, rfl⟩ := sealHistory_ok.mp hhistory
    rfl
  have hwhole : validateRecords (φ := Unit) (lines tornBaseline.content) =
      validateRecords (lines (writtenContent (written sampleOperation enrollBaseline))) :=
    (read_ok tornBaseline_read).trans
      (validateRecords_written sampleOperation_plain _ enrollBaseline_writable (by decide)).symm
  have hnext := nextRecord_written sampleOperation_plain enrollBaseline_writable
    (show startIntent.Writable by decide +kernel) (by decide)
    (show ((Enrollment.typedJournal id).guarded history sampleOperation startIntent.milestone
      startIntent.evidence).operationId = sampleOperation ∧ _ from ⟨rfl, rfl, rfl⟩)
    (show Value.int (history.recordCount : Int) = .int 1 by rw [hcount]; rfl) hhead
  rw [← nextRecord_congr hwhole] at hnext
  have hargs : checkArguments id ((Enrollment.typedJournal id).guarded history sampleOperation
      startIntent.milestone startIntent.evidence) = .ok () := by
    have hcheck : checkArguments (φ := Unit) id
        ⟨sampleOperation, startIntent.milestone, startIntent.evidence, false, .int 1, .none⟩ = .ok () := by
      rfl
    simpa [checkArguments, TypedJournal.guarded, Enrollment.typedJournal, isNone, isCount, hcount]
      using hcheck
  exact TypedJournal.not_linear_of_torn (p := true) hread ⟨htests, hargs, rfl, _, hnext⟩ htorn

/-- Two starts at once: the linear run of a journal that is whole. -/
theorem guarded_appends_sample : (World.run (Enrollment.typedJournal id) id startCalls
      (.start (writtenPath (written sampleOperation enrollBaseline)))
      [.read true, .read false, .lock true, .write true 100, .lock false]).Linear
    (Enrollment.typedJournal id) startCalls (writtenPath (written sampleOperation enrollBaseline))
    (written sampleOperation enrollBaseline) := by
  have hvalid : validateRecords (φ := Unit)
      (lines (writtenPath (written sampleOperation enrollBaseline)).content) =
        .ok (written sampleOperation enrollBaseline) :=
    validateRecords_written sampleOperation_plain _ enrollBaseline_writable (by decide)
  have hterminated : Terminated (writtenPath (written sampleOperation enrollBaseline)).content :=
    writtenContent_terminated _
  have hnative : ∀ p, isNative (startCalls p).evidence = true := fun _ => rfl
  have hlinear := guarded_appends_linear id startCalls _ _ hvalid hterminated hnative
    [.read true, .read false, .lock true, .write true 100, .lock false]
  exact hlinear.1

end T2TouchId.Journal
