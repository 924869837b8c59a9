/-
  The order of a persistence (`PersistenceTracker.consume`).

  Problem: a persistence stages the components of its batches one by one, commits a batch when all of it
  is staged, and confirms it.  Ambiguities and the recovery of an early confirm may stand between.  A
  complete persistence should have staged everything once and committed what it staged.

  1. **Data** — `Consumed`: one call of `consume`; a log of them, and `consumeAll`, which reads it.
  2. **Specification** — `Orderly`: what stands before what, for every record of a log; `Completed`: what
     a complete persistence has recorded.
  3. **Invariant** — `Progress`: the batches before the current one are staged, committed, and confirmed;
     of the current one a part is staged, and the tracker's files are those.
  4. **The crux** — the recovery of an early confirm may pass a component that was never staged.  The
     rows of a batch are then a proper part of its components, and its digest cannot be computed
     (`rows_full`), so no such batch is committed.
  5. **Result** — `persistence_integrity`.
-/
import T2TouchId.Journal.Persistence.Steps
import T2TouchId.Trace

set_option linter.unusedSectionVars false

namespace T2TouchId.Journal.Persistence

open T2TouchId.Python T2TouchId.Python.Json

/-! ## Data -/

/-- One call of `consume`. -/
structure Consumed (φ : Type) where
  milestone : PyStr
  evidence : Value φ
  allowBiolockoutOnly : Bool

section Integrity

variable {φ : Type} [JsonFloat φ]

/-- One call after the other. -/
def consumeAll (t : Tracker φ) (log : List (Consumed φ)) : Check φ (Tracker φ) :=
  log.foldlM (fun t record => t.consume record.milestone record.evidence record.allowBiolockoutOnly) t

namespace Consumed

/-- A record of a milestone, in a batch. -/
def Of (record : Consumed φ) (milestone : String) (b : Nat) : Prop :=
  record.milestone = py milestone ∧ record.evidence.get "batch_index" = .int b

/-- A record of a milestone, at a component of a batch. -/
def At (record : Consumed φ) (milestone : String) (b c : Nat) : Prop :=
  record.Of milestone b ∧ record.evidence.get "component_index" = .int c

/-- The place of a record and the name it has there. -/
def row (record : Consumed φ) : Value φ × Value φ × Value φ :=
  (record.evidence.get "batch_index", record.evidence.get "component_index",
    record.evidence.get "name")

/-- The file that a staging record states. -/
def file (record : Consumed φ) : PyStr × Value φ :=
  (strOf (record.evidence.get "name"), record.evidence.get "final_file_sha256")

end Consumed

/-- The records of a milestone. -/
def recordsOf (milestone : String) (log : List (Consumed φ)) : List (Consumed φ) :=
  log.filter fun record => record.milestone = py milestone

/-- The batches that the records of a milestone name, in their order. -/
def batchesOf (milestone : String) (log : List (Consumed φ)) : List (Value φ) :=
  (recordsOf milestone log).map fun record => record.evidence.get "batch_index"

/-- The places of a batch, in the order of the plan. -/
def batchRows (b : Nat) (batch : List Component) : List (Value φ × Value φ × Value φ) :=
  batch.zipIdx.map fun (component, c) => (.int b, .int c, .str component.1)

/-- The places of a plan, in its order. -/
def planRows (batches : List (List Component)) : List (Value φ × Value φ × Value φ) :=
  batches.zipIdx.flatMap fun (batch, b) => batchRows b batch

/-- The first batches, by their numbers. -/
def firstBatches (count : Nat) : List (Value φ) := (List.range count).map fun b : Nat => .int b

/-! ## Specification -/

/-- **From a secure blob**: a staging record stands behind the prepare, the reply, the completion, and
    the capture of its component; it repeats the captured hash, and the captured length fits the reply. -/
def FromBlob (before : List (Consumed φ)) (record : Consumed φ) : Prop :=
  record.milestone = py "CATACOMB_HOST_STAGED" → ∃ earlier p q r s b c,
    before = earlier ++ [p, q, r, s] ∧ record.At "CATACOMB_HOST_STAGED" b c ∧
    p.At "CATACOMB_PREPARE_INTENT" b c ∧ q.At "CATACOMB_PREPARED" b c ∧
    r.At "CATACOMB_COMPLETE_INTENT" b c ∧ s.At "CATACOMB_SECURE_BLOB_CAPTURED" b c ∧
    record.evidence.get "secure_blob_sha256" = s.evidence.get "secure_blob_sha256" ∧
    ∃ length expected, s.evidence.get "blob_length" = .int length ∧
      q.evidence.get "expected_blob_length" = .int expected ∧
      Tracker.BlobFits (strOf (record.evidence.get "name")) length expected

/-- **The digest of a batch**: its commit intent and its commit carry the digest of the batch's files in
    the order of the plan, each as an earlier staging record states it. -/
def OfStagedFiles (batches : List (List Component)) (before : List (Consumed φ))
    (record : Consumed φ) : Prop :=
  ∀ milestone ∈ ["CATACOMB_HOST_BATCH_COMMIT_INTENT", "CATACOMB_HOST_BATCH_COMMITTED"],
    record.milestone = py milestone → ∃ b batch, record.Of milestone b ∧ batches[b]? = some batch ∧
      ∃ files : List (PyStr × Value φ), files.map Prod.fst = batch.map Prod.fst ∧
        (∀ file ∈ files, ∃ staging ∈ before, staging.Of "CATACOMB_HOST_STAGED" b ∧
          staging.evidence.get "name" = .str file.1 ∧
          staging.evidence.get "final_file_sha256" = file.2) ∧
        Tracker.BatchDigest (record.evidence.get "staged_snapshot_sha256") files

/-- **Confirmed behind the commit**: a final confirm stands behind the commit of its batch. -/
def BehindCommit (before : List (Consumed φ)) (record : Consumed φ) : Prop :=
  ∀ milestone ∈ ["CATACOMB_FINAL_CONFIRM_INTENT", "CATACOMB_FINAL_CONFIRMED"],
    record.milestone = py milestone → ∃ b, record.Of milestone b ∧
      ∃ commit ∈ before, commit.Of "CATACOMB_HOST_BATCH_COMMITTED" b

/-- **Batch by batch**: when a component is prepared, every earlier batch is committed and confirmed. -/
def BatchByBatch (before : List (Consumed φ)) (record : Consumed φ) : Prop :=
  ∀ milestone ∈ ["CATACOMB_PREPARE_INTENT", "CATACOMB_PREPARED"],
    record.milestone = py milestone → ∃ b, record.Of milestone b ∧ ∀ earlier < b,
      (∃ commit ∈ before, commit.Of "CATACOMB_HOST_BATCH_COMMITTED" earlier) ∧
      ∃ confirm ∈ before, confirm.Of "CATACOMB_FINAL_CONFIRMED" earlier

/-- What stands before what. -/
structure Orderly (batches : List (List Component)) (before : List (Consumed φ))
    (record : Consumed φ) : Prop where
  fromBlob : FromBlob before record
  ofStagedFiles : OfStagedFiles batches before record
  behindCommit : BehindCommit before record
  batchByBatch : BatchByBatch before record

/-- The tracker's files are the components of its batch that a record has staged, each once. -/
structure StagedNames (log : List (Consumed φ)) (t : Tracker φ) : Prop where
  once : (t.staged.map Prod.fst).Nodup
  staged : ∀ name, name ∈ t.staged.map Prod.fst ↔ ∃ b, t.batchIndex = some b ∧
    ∃ staging ∈ log, staging.Of "CATACOMB_HOST_STAGED" b ∧ staging.evidence.get "name" = .str name

/-- What a complete persistence has recorded: all of its plan staged once and in order, and every batch
    with one commit intent, one commit, and one final confirm, in order. -/
structure Completed (log : List (Consumed φ)) (t : Tracker φ) : Prop where
  planned : ∃ plan rest, log = plan :: rest ∧ plan.milestone = py "CATACOMB_PERSISTENCE_PLAN" ∧
    t.batches = Tracker.plannedBatches plan.evidence
  staged : (recordsOf "CATACOMB_HOST_STAGED" log).map Consumed.row = planRows t.batches
  intents : batchesOf "CATACOMB_HOST_BATCH_COMMIT_INTENT" log = firstBatches t.batches.length
  commits : batchesOf "CATACOMB_HOST_BATCH_COMMITTED" log = firstBatches t.batches.length
  confirms : batchesOf "CATACOMB_FINAL_CONFIRMED" log = firstBatches t.batches.length

/-! ## Lists of records -/

theorem recordsOf_concat {milestone : String} {log : List (Consumed φ)} {record : Consumed φ} :
    recordsOf milestone (log ++ [record]) =
      if record.milestone = py milestone then recordsOf milestone log ++ [record]
      else recordsOf milestone log := by
  unfold recordsOf
  by_cases h : record.milestone = py milestone <;> simp [h]

theorem recordsOf_other {milestone : String} {log : List (Consumed φ)} {record : Consumed φ}
    (h : record.milestone ≠ py milestone) :
    recordsOf milestone (log ++ [record]) = recordsOf milestone log := by
  rw [recordsOf_concat, if_neg h]

theorem batchesOf_concat {milestone : String} {log : List (Consumed φ)} {record : Consumed φ}
    {b : Nat} (h : record.Of milestone b) :
    batchesOf milestone (log ++ [record]) = batchesOf milestone log ++ [.int b] := by
  rw [batchesOf, recordsOf_concat, if_pos h.1, List.map_append, batchesOf, List.map_singleton, h.2]

theorem batchesOf_other {milestone : String} {log : List (Consumed φ)} {record : Consumed φ}
    (h : record.milestone ≠ py milestone) :
    batchesOf milestone (log ++ [record]) = batchesOf milestone log := by
  rw [batchesOf, recordsOf_other h, batchesOf]

theorem firstBatches_succ (count : Nat) :
    (firstBatches (count + 1) : List (Value φ)) = firstBatches count ++ [.int count] := by
  rw [firstBatches, List.range_succ, List.map_append]
  rfl

/-- A batch that is listed has a record. -/
theorem exists_of_batchesOf {milestone : String} {log : List (Consumed φ)} {count b : Nat}
    (h : batchesOf milestone log = firstBatches count) (hb : b < count) :
    ∃ record ∈ log, record.Of milestone b := by
  have hmem : (.int b : Value φ) ∈ batchesOf milestone log := by
    rw [h]
    exact List.mem_map.mpr ⟨b, List.mem_range.mpr hb, rfl⟩
  obtain ⟨record, hrecord, hbatch⟩ := List.mem_map.mp hmem
  obtain ⟨hlog, hname⟩ := List.mem_filter.mp hrecord
  exact ⟨record, hlog, of_decide_eq_true hname, hbatch⟩

theorem planRows_concat (batches : List (List Component)) (batch : List Component) :
    (planRows (batches ++ [batch]) : List (Value φ × Value φ × Value φ)) =
      planRows batches ++ batchRows batches.length batch := by
  rw [planRows, List.zipIdx_append, List.flatMap_append]
  simp [planRows]

theorem planRows_take {batches : List (List Component)} {batch : List Component} {b : Nat}
    (h : batches[b]? = some batch) :
    (planRows (batches.take (b + 1)) : List (Value φ × Value φ × Value φ)) =
      planRows (batches.take b) ++ batchRows b batch := by
  obtain ⟨hlength, rfl⟩ := List.getElem?_eq_some_iff.mp h
  rw [List.take_succ_eq_append_getElem hlength, planRows_concat, List.length_take_of_le hlength.le]

/-- A place of a plan is in one of its batches. -/
theorem batch_of_mem_planRows {batches : List (List Component)} {place : Value φ × Value φ × Value φ}
    (h : place ∈ planRows batches) : ∃ b < batches.length, place.1 = .int b := by
  obtain ⟨⟨batch, b⟩, hmem, hplace⟩ := List.mem_flatMap.mp h
  obtain ⟨entry, -, rfl⟩ := List.mem_map.mp hplace
  exact ⟨b, by simpa using List.mem_zipIdx hmem |>.2.1, rfl⟩

theorem length_batchRows (b : Nat) (batch : List Component) :
    (batchRows b batch : List (Value φ × Value φ × Value φ)).length = batch.length := by
  rw [batchRows, List.length_map, List.length_zipIdx]

theorem mem_batchRows {b : Nat} {batch : List Component} {place : Value φ × Value φ × Value φ}
    (h : place ∈ batchRows b batch) : ∃ (c : Nat) (component : Component), batch[c]? = some component ∧
      place = (.int b, .int c, .str component.1) := by
  obtain ⟨⟨component, c⟩, hmem, rfl⟩ := List.mem_map.mp h
  exact ⟨c, component, List.mem_zipIdx_iff_getElem?.mp hmem, rfl⟩

theorem getElem?_batchRows {b c : Nat} {batch : List Component} {component : Component}
    (h : batch[c]? = some component) :
    (batchRows b batch : List (Value φ × Value φ × Value φ))[c]? =
      some (.int b, .int c, .str component.1) := by
  simp [batchRows, List.getElem?_zipIdx, h]

theorem names_batchRows (b : Nat) (batch : List Component) :
    (batchRows b batch : List (Value φ × Value φ × Value φ)).map (fun place => strOf place.2.2) =
      batch.map Prod.fst := by
  rw [batchRows, List.map_map]
  conv_rhs => rw [← List.zipIdx_map_fst 0 batch, List.map_map]
  rfl

/-! ## The invariant -/

/-- The phases in which the current component is not staged yet. -/
def unstaged : List PersistencePhase :=
  [.componentReady, .prepareIntent, .prepared, .completeIntent, .secureBlobCaptured]

/-- The phases from the commit intent of a batch on. -/
def committing : List PersistencePhase :=
  [.batchCommitIntent, .batchCommitted, .finalConfirmIntent, .attestationReady, .complete]

/-- The phases behind the last batch. -/
def confirmed : List PersistencePhase := [.attestationReady, .complete]

/-- The milestones that a batch has once, with the phases behind them. -/
def milestonesOnce : List (String × List PersistencePhase) :=
  [("CATACOMB_HOST_BATCH_COMMIT_INTENT", committing),
   ("CATACOMB_HOST_BATCH_COMMITTED", .batchCommitted :: .finalConfirmIntent :: confirmed),
   ("CATACOMB_FINAL_CONFIRMED", confirmed)]

/-- Where a log has come to: the current component, and the staging records of the earlier batches and
    of the current one. -/
structure Position (φ : Type) where
  b : Nat
  c : Nat
  batch : List Component
  component : Component
  past : List (Consumed φ)
  current : List (Consumed φ)

/-- How many components of its batch a tracker may have staged. -/
def stagedTo (phase : PersistencePhase) (c : Nat) : Nat := if phase ∈ unstaged then c else c + 1

/-- The last records of a log: while a component is being captured, and behind an unknown outcome. -/
def Recent (log : List (Consumed φ)) (t : Tracker φ) (b c : Nat) (component : Component) : Prop :=
  match t.phase with
  | .prepareIntent => ∃ earlier p, log = earlier ++ [p] ∧ p.At "CATACOMB_PREPARE_INTENT" b c
  | .prepared => ∃ earlier p q, log = earlier ++ [p, q] ∧ p.At "CATACOMB_PREPARE_INTENT" b c ∧
      q.At "CATACOMB_PREPARED" b c ∧
      q.evidence.get "expected_blob_length" = .int t.expectedBlobLength
  | .completeIntent => ∃ earlier p q r, log = earlier ++ [p, q, r] ∧
      p.At "CATACOMB_PREPARE_INTENT" b c ∧ q.At "CATACOMB_PREPARED" b c ∧
      r.At "CATACOMB_COMPLETE_INTENT" b c ∧
      q.evidence.get "expected_blob_length" = .int t.expectedBlobLength
  | .secureBlobCaptured => ∃ earlier p q r s length expected, log = earlier ++ [p, q, r, s] ∧
      p.At "CATACOMB_PREPARE_INTENT" b c ∧ q.At "CATACOMB_PREPARED" b c ∧
      r.At "CATACOMB_COMPLETE_INTENT" b c ∧ s.At "CATACOMB_SECURE_BLOB_CAPTURED" b c ∧
      s.evidence.get "secure_blob_sha256" = t.capturedBlobSha256 ∧
      s.evidence.get "blob_length" = .int length ∧
      q.evidence.get "expected_blob_length" = .int expected ∧
      Tracker.BlobFits component.1 length expected
  | .outcomeUnknown => ∃ earlier ambiguity, log = earlier ++ [ambiguity] ∧
      ambiguity.At "CATACOMB_PERSISTENCE_OUTCOME_UNKNOWN" b c ∧
      ambiguity.evidence.get "stage" = t.outcomeUnknownStage ∧
      ambiguity.evidence.get "host_commit_possible" = t.outcomeUnknownHostCommitPossible
  | _ => True

/-- **The invariant**: the log has come to this position of the tracker's plan. -/
structure Progress (log : List (Consumed φ)) (t : Tracker φ) (p : Position φ) : Prop where
  place : t.At p.b p.c p.component
  batch : t.batches[p.b]? = some p.batch
  planned : ∃ plan rest, log = plan :: rest ∧ plan.milestone = py "CATACOMB_PERSISTENCE_PLAN" ∧
    Tracker.Planned plan.evidence t.batches
  started : t.phase ≠ .notStarted
  stagings : recordsOf "CATACOMB_HOST_STAGED" log = p.past ++ p.current
  past : p.past.map Consumed.row = planRows (t.batches.take p.b)
  current : (p.current.map Consumed.row).Sublist ((batchRows p.b p.batch).take (stagedTo t.phase p.c))
  files : t.staged = (p.current.map Consumed.file).reverse
  early : t.phase = .confirmIntent → p.c + 1 < p.batch.length
  full : t.phase ∈ committing →
    p.c + 1 = p.batch.length ∧ p.current.map Consumed.row = batchRows p.b p.batch
  /-- An unknown outcome forgets how far its batch is, but only a batch that has more components is
      ever left from there. -/
  passed : ∀ once ∈ milestonesOnce, t.phase ≠ .outcomeUnknown ∨ p.c + 1 < p.batch.length →
    batchesOf once.1 log = firstBatches (p.b + if t.phase ∈ once.2 then 1 else 0)
  last : t.phase ∈ confirmed → p.b + 1 = t.batches.length
  prepared : t.phase ≠ .componentReady → ∃ prepare ∈ log, prepare.At "CATACOMB_PREPARE_INTENT" p.b p.c
  recent : Recent log t p.b p.c p.component

namespace Progress

variable {log : List (Consumed φ)} {t : Tracker φ} {p : Position φ} (h : Progress log t p)

include h

theorem getD_batch : t.batches.getD p.b [] = p.batch := by
  rw [List.getD_eq_getElem?_getD, h.batch]
  rfl

theorem component : p.batch[p.c]? = some p.component := h.getD_batch ▸ h.place.planned

theorem inBatch : p.c < p.batch.length := (List.getElem?_eq_some_iff.mp h.component).1

theorem batchLength : t.batchLength = p.batch.length := by
  rw [Tracker.batchLength, h.place.batch]
  exact congrArg List.length h.getD_batch

theorem inPlan : p.b < t.batches.length := (List.getElem?_eq_some_iff.mp h.batch).1

theorem distinct : (p.batch.map Prod.fst).Nodup := by
  obtain ⟨plan, rest, -, -, hplanned⟩ := h.planned
  exact hplanned.distinct _ (List.mem_of_getElem? h.batch)

/-- What a record targets is where the log has come to. -/
theorem targets {evidence : Value φ} (htargets : t.Targets evidence) :
    Names evidence p.b p.c p.component := by
  obtain ⟨b, c, component, hat, hnames⟩ := htargets
  obtain rfl : b = p.b := Option.some.inj (hat.batch.symm.trans h.place.batch)
  obtain rfl : c = p.c := Option.some.inj (hat.index.symm.trans h.place.index)
  obtain rfl : component = p.component := Option.some.inj (hat.planned.symm.trans h.place.planned)
  exact hnames

/-! ### The staged files -/

theorem current_subset : ∀ staging ∈ p.current, ∃ (c : Nat) (component : Component),
    p.batch[c]? = some component ∧ staging.row = (.int p.b, .int c, .str component.1) := by
  intro staging hmem
  have hrow := h.current.subset (List.mem_map_of_mem hmem)
  exact mem_batchRows (List.mem_of_mem_take hrow)

theorem current_log : ∀ staging ∈ p.current, staging ∈ log ∧ staging.Of "CATACOMB_HOST_STAGED" p.b := by
  intro staging hmem
  have hrecord : staging ∈ recordsOf "CATACOMB_HOST_STAGED" log := by
    rw [h.stagings]
    exact List.mem_append_right _ hmem
  obtain ⟨hlog, hname⟩ := List.mem_filter.mp hrecord
  obtain ⟨c, component, -, hrow⟩ := h.current_subset staging hmem
  exact ⟨hlog, of_decide_eq_true hname, (Prod.mk.inj hrow).1⟩

/-- A staged file is stated by a staging record of the batch. -/
theorem exists_staging {file : PyStr × Value φ} (hfile : file ∈ t.staged) :
    ∃ staging ∈ log, staging.Of "CATACOMB_HOST_STAGED" p.b ∧
      staging.evidence.get "name" = .str file.1 ∧
      staging.evidence.get "final_file_sha256" = file.2 := by
  rw [h.files, List.mem_reverse] at hfile
  obtain ⟨staging, hmem, rfl⟩ := List.mem_map.mp hfile
  obtain ⟨hlog, hof⟩ := h.current_log staging hmem
  obtain ⟨c, component, -, hrow⟩ := h.current_subset staging hmem
  refine ⟨staging, hlog, hof, ?_, rfl⟩
  have hname : staging.evidence.get "name" = .str component.1 := (Prod.mk.inj (Prod.mk.inj hrow).2).2
  rw [Consumed.file, hname]
  rfl

/-- The names of the staged files are some of the batch's, in the order of the plan. -/
theorem names_sublist : (t.staged.map Prod.fst).reverse.Sublist (p.batch.map Prod.fst) := by
  have hnames := (h.current.trans (List.take_sublist _ _)).map fun place => strOf place.2.2
  rw [names_batchRows, List.map_map] at hnames
  rw [h.files, List.map_reverse, List.reverse_reverse, List.map_map]
  exact hnames

theorem stagedNames : StagedNames log t := by
  refine ⟨List.nodup_reverse.mp (h.names_sublist.nodup h.distinct), fun name => ?_⟩
  constructor
  · intro hname
    obtain ⟨file, hfile, rfl⟩ := List.mem_map.mp hname
    obtain ⟨staging, hlog, hof, hname, -⟩ := h.exists_staging hfile
    exact ⟨p.b, h.place.batch, staging, hlog, hof, hname⟩
  · rintro ⟨b, hb, staging, hlog, hof, hname⟩
    obtain rfl : p.b = b := Option.some.inj (h.place.batch.symm.trans hb)
    have hrecord : staging ∈ p.past ++ p.current := by
      rw [← h.stagings]
      exact List.mem_filter.mpr ⟨hlog, decide_eq_true hof.1⟩
    rcases List.mem_append.mp hrecord with hpast | hcurrent
    · -- an earlier batch has another number
      have hrow : staging.row ∈ planRows (t.batches.take p.b) := by
        rw [← h.past]
        exact List.mem_map_of_mem hpast
      obtain ⟨earlier, hlt, hrow⟩ := batch_of_mem_planRows hrow
      have hsame : (Value.int (earlier : Int) : Value φ) = .int p.b := hrow.symm.trans hof.2
      have hsame : (earlier : Int) = p.b := Value.int.inj hsame
      rw [List.length_take] at hlt
      omega
    · rw [h.files, List.map_reverse, List.mem_reverse, List.map_map]
      refine List.mem_map.mpr ⟨staging, hcurrent, ?_⟩
      show strOf (staging.evidence.get "name") = name
      rw [hname]
      rfl

/-- **The crux**: if every name of the batch has a staged file, all of it is staged. -/
theorem rows_full {files : List (PyStr × Value φ)} (hnames : files.map Prod.fst = p.batch.map Prod.fst)
    (hfiles : ∀ file ∈ files, Tracker.lookup file.1 t.staged = some file.2) :
    p.current.map Consumed.row = batchRows p.b p.batch := by
  have hsublist := h.current.trans (List.take_sublist _ _)
  refine hsublist.eq_of_length_le ?_
  rw [length_batchRows, List.length_map]
  -- as many names as components
  have hsubset : p.batch.map Prod.fst ⊆ t.staged.map Prod.fst := by
    intro name hname
    rw [← hnames] at hname
    obtain ⟨file, hfile, rfl⟩ := List.mem_map.mp hname
    obtain ⟨found, hfound, -⟩ := Option.map_eq_some_iff.mp (hfiles file hfile)
    have hsame := List.find?_some hfound
    rw [← of_decide_eq_true hsame]
    exact List.mem_map_of_mem (List.mem_of_find?_eq_some hfound)
  have hlength := (h.distinct.subperm hsubset).length_le
  rw [List.length_map, List.length_map, h.files, List.length_reverse, List.length_map] at hlength
  exact hlength

/-- What a batch record carries is the digest of staged files. -/
theorem ofStagedFiles {record : Consumed φ} (hcarries : t.CarriesBatch record.evidence) :
    record.evidence.get "batch_index" = .int p.b ∧
    p.current.map Consumed.row = batchRows p.b p.batch ∧ OfStagedFiles t.batches log record := by
  obtain ⟨b, files, hb, hbatch, hnames, hfiles, hdigest⟩ := hcarries
  obtain rfl : p.b = b := Option.some.inj (h.place.batch.symm.trans hb)
  rw [h.getD_batch] at hnames
  refine ⟨hbatch, h.rows_full hnames hfiles, fun milestone _ hmilestone => ?_⟩
  refine ⟨p.b, p.batch, ⟨hmilestone, hbatch⟩, h.batch, files, hnames, fun file hfile => ?_, hdigest⟩
  obtain ⟨found, hfound, hdigest⟩ := Option.map_eq_some_iff.mp (hfiles file hfile)
  have hsame := List.find?_some hfound
  obtain rfl : found = file := Prod.ext (of_decide_eq_true hsame) hdigest
  exact h.exists_staging (List.mem_of_find?_eq_some hfound)

end Progress

/-! ## One record -/

/-- The milestones that are counted. -/
def counted : List String := "CATACOMB_HOST_STAGED" :: milestonesOnce.map Prod.fst

theorem mem_counted {once : String × List PersistencePhase} (h : once ∈ milestonesOnce) :
    once.1 ∈ counted := List.mem_cons_of_mem _ (List.mem_map_of_mem h)

/-- Only the phase and what is being captured have changed. -/
structure SamePlace (t t' : Tracker φ) : Prop where
  batches : t'.batches = t.batches
  batchIndex : t'.batchIndex = t.batchIndex
  componentIndex : t'.componentIndex = t.componentIndex
  staged : t'.staged = t.staged

/-- A phase follows another inside a batch, without a count. -/
structure Inside (phase phase' : PersistencePhase) : Prop where
  unstaged : phase' ∈ unstaged → phase ∈ unstaged
  committing : phase' ∈ committing ↔ phase ∈ committing
  once : ∀ once ∈ milestonesOnce, phase' ∈ once.2 ↔ phase ∈ once.2
  known : phase ≠ .outcomeUnknown
  known' : phase' ≠ .outcomeUnknown
  started : phase' ≠ .notStarted

instance (phase phase' : PersistencePhase) : Decidable (Inside phase phase') :=
  decidable_of_iff
    ((phase' ∈ unstaged → phase ∈ unstaged) ∧ (phase' ∈ committing ↔ phase ∈ committing) ∧
      (∀ once ∈ milestonesOnce, phase' ∈ once.2 ↔ phase ∈ once.2) ∧ phase ≠ .outcomeUnknown ∧
      phase' ≠ .outcomeUnknown ∧ phase' ≠ .notStarted)
    ⟨fun ⟨h1, h2, h3, h4, h5, h6⟩ => ⟨h1, h2, h3, h4, h5, h6⟩,
      fun ⟨h1, h2, h3, h4, h5, h6⟩ => ⟨h1, h2, h3, h4, h5, h6⟩⟩

theorem confirmed_mem : ("CATACOMB_FINAL_CONFIRMED", confirmed) ∈ milestonesOnce := by
  simp [milestonesOnce]

theorem notMem_once {phase : PersistencePhase} (h : phase ∉ committing) :
    ∀ once ∈ milestonesOnce, phase ∉ once.2 := by
  revert h
  cases phase <;> decide

namespace Progress

variable {log : List (Consumed φ)} {t t' : Tracker φ} {p : Position φ} {record : Consumed φ}

theorem planned_concat (h : Progress log t p) (hbatches : t'.batches = t.batches) :
    ∃ plan rest, log ++ [record] = plan :: rest ∧
      plan.milestone = py "CATACOMB_PERSISTENCE_PLAN" ∧
      Tracker.Planned plan.evidence t'.batches := by
  obtain ⟨plan, rest, rfl, hname, hplanned⟩ := h.planned
  exact ⟨plan, rest ++ [record], rfl, hname, hbatches ▸ hplanned⟩

/-- A batch that is being committed has no further component. -/
theorem notCommitting (h : Progress log t p) (hmore : p.c + 1 < p.batch.length) :
    t.phase ∉ committing := by
  intro hmem
  have := (h.full hmem).1
  omega

theorem place_of (h : Progress log t p) (hsame : SamePlace t t') : t'.At p.b p.c p.component :=
  ⟨hsame.batchIndex.trans h.place.batch, hsame.componentIndex.trans h.place.index,
    hsame.batches ▸ h.place.planned⟩

theorem prepared_concat (h : Progress log t p)
    (hprepared : t.phase ≠ .componentReady ∨ record.At "CATACOMB_PREPARE_INTENT" p.b p.c) :
    ∃ prepare ∈ log ++ [record], prepare.At "CATACOMB_PREPARE_INTENT" p.b p.c := by
  rcases hprepared with hphase | hrecord
  · obtain ⟨prepare, hmem, hat⟩ := h.prepared hphase
    exact ⟨prepare, List.mem_append_left _ hmem, hat⟩
  · exact ⟨record, by simp, hrecord⟩

/-- **A record that is not counted** leaves the position as it is. -/
theorem inside (h : Progress log t p) (hname : ∀ milestone ∈ counted, record.milestone ≠ py milestone)
    (hsame : SamePlace t t') (hphase : Inside t.phase t'.phase)
    (hearly : t'.phase = .confirmIntent → p.c + 1 < p.batch.length)
    (hprepared : t.phase ≠ .componentReady ∨ record.At "CATACOMB_PREPARE_INTENT" p.b p.c)
    (hrecent : Recent (log ++ [record]) t' p.b p.c p.component) :
    Progress (log ++ [record]) t' p where
  place := h.place_of hsame
  batch := hsame.batches ▸ h.batch
  planned := h.planned_concat hsame.batches
  started := hphase.started
  stagings := by rw [recordsOf_other (hname _ List.mem_cons_self), h.stagings]
  past := by rw [hsame.batches, h.past]
  current := by
    refine h.current.trans ?_
    have hle : stagedTo t.phase p.c ≤ stagedTo t'.phase p.c := by
      unfold stagedTo
      have := hphase.unstaged
      split <;> split <;> first | omega | tauto
    exact List.take_sublist_take_left hle
  files := hsame.staged.trans h.files
  early := hearly
  full := fun hcommitting => h.full (hphase.committing.mp hcommitting)
  passed := by
    intro once honce _
    rw [batchesOf_other (hname _ (mem_counted honce)), h.passed once honce (.inl hphase.known)]
    simp only [hphase.once once honce]
  last := by
    intro hconfirmed
    rw [hsame.batches]
    exact h.last ((hphase.once _ confirmed_mem).mp hconfirmed)
  prepared := fun _ => h.prepared_concat hprepared
  recent := hrecent

/-- Behind an unknown outcome. -/
theorem unknown (h : Progress log t p) (hname : ∀ milestone ∈ counted, record.milestone ≠ py milestone)
    (hsame : SamePlace t t') (hbefore : t.phase ≠ .outcomeUnknown)
    (hprepared : t.phase ≠ .componentReady) (hphase : t'.phase = .outcomeUnknown)
    (hrecent : Recent (log ++ [record]) t' p.b p.c p.component) :
    Progress (log ++ [record]) t' p where
  place := h.place_of hsame
  batch := hsame.batches ▸ h.batch
  planned := h.planned_concat hsame.batches
  started := by simp [hphase]
  stagings := by rw [recordsOf_other (hname _ List.mem_cons_self), h.stagings]
  past := by rw [hsame.batches, h.past]
  current := by
    refine h.current.trans (List.take_sublist_take_left ?_)
    rw [hphase]
    unfold stagedTo
    split <;> simp [unstaged]
  files := hsame.staged.trans h.files
  early := by simp [hphase]
  full := by simp [hphase, committing]
  passed := by
    intro once honce hmore
    have hmore : p.c + 1 < p.batch.length := hmore.resolve_left (not_not.mpr hphase)
    have hnot' : t'.phase ∉ committing := by simp [hphase, committing]
    rw [batchesOf_other (hname _ (mem_counted honce)), h.passed once honce (.inl hbefore),
      if_neg (notMem_once (h.notCommitting hmore) once honce), if_neg (notMem_once hnot' once honce)]
  last := by simp [hphase, confirmed]
  prepared := fun _ => h.prepared_concat (.inl hprepared)
  recent := hrecent

/-- The next component of the batch. -/
theorem advance (h : Progress log t p) (hname : ∀ milestone ∈ counted, record.milestone ≠ py milestone)
    (hmore : p.c + 1 < p.batch.length) (hbatches : t'.batches = t.batches)
    (hbatch : t'.batchIndex = t.batchIndex) (hindex : t'.componentIndex = some (p.c + 1))
    (hstaged : t'.staged = t.staged) (hphase : t'.phase = .componentReady) :
    Progress (log ++ [record]) t'
      { p with c := p.c + 1, component := p.batch[p.c + 1] } where
  place := by
    refine ⟨hbatch.trans h.place.batch, hindex, ?_⟩
    rw [hbatches, h.getD_batch]
    exact List.getElem?_eq_getElem hmore
  batch := hbatches ▸ h.batch
  planned := h.planned_concat hbatches
  started := by simp [hphase]
  stagings := by rw [recordsOf_other (hname _ List.mem_cons_self), h.stagings]
  past := by rw [hbatches, h.past]
  current := by
    refine h.current.trans (List.take_sublist_take_left ?_)
    rw [hphase]
    unfold stagedTo
    split <;> simp [unstaged]
  files := hstaged.trans h.files
  early := by simp [hphase]
  full := by simp [hphase, committing]
  passed := by
    intro once honce _
    have hnot' : t'.phase ∉ committing := by simp [hphase, committing]
    rw [batchesOf_other (hname _ (mem_counted honce)), h.passed once honce (.inr hmore),
      if_neg (notMem_once (h.notCommitting hmore) once honce), if_neg (notMem_once hnot' once honce)]
  last := by simp [hphase, confirmed]
  prepared := by simp [hphase]
  recent := by
    rw [Recent, hphase]
    trivial

theorem distinct_component (h : Progress log t p) :
    p.component.1 ∉ (p.batch.take p.c).map Prod.fst := by
  intro hmem
  have hdistinct := h.distinct
  rw [← List.take_append_drop p.c p.batch, List.map_append] at hdistinct
  refine (List.nodup_append.mp hdistinct).2.2 _ hmem _ ?_ rfl
  refine List.mem_map_of_mem (List.mem_of_getElem? (i := 0) ?_)
  rw [List.getElem?_drop, Nat.add_zero, h.component]

/-- **Staged**: the current component is put behind those of its batch. -/
theorem stages (h : Progress log t p) (hrecord : record.At "CATACOMB_HOST_STAGED" p.b p.c)
    (hname : record.evidence.get "name" = .str p.component.1) (hphase : t.phase = .secureBlobCaptured)
    (ht' : t' = { t with
      staged := Tracker.stage p.component.1 (record.evidence.get "final_file_sha256") t.staged,
      phase := .hostStaged }) :
    Progress (log ++ [record]) t' { p with current := p.current ++ [record] } := by
  have hother : ∀ once ∈ milestonesOnce, record.milestone ≠ py once.1 := by
    rw [hrecord.1.1]
    simp [milestonesOnce]
  have hold : (p.current.map Consumed.row).Sublist ((batchRows p.b p.batch).take p.c) := by
    have hcurrent := h.current
    rw [hphase] at hcurrent
    exact hcurrent
  subst ht'
  constructor
  · exact h.place_of ⟨rfl, rfl, rfl, rfl⟩ |> fun hplace => ⟨hplace.batch, hplace.index, hplace.planned⟩
  · exact h.batch
  · exact h.planned_concat rfl
  · simp
  · rw [recordsOf_concat, if_pos hrecord.1.1, h.stagings, List.append_assoc]
  · exact h.past
  · -- the row of the current component is the next of its batch
    have hrow : record.row = (.int p.b, .int p.c, .str p.component.1) :=
      Prod.ext hrecord.1.2 (Prod.ext hrecord.2 hname)
    have hnext := getElem?_batchRows (φ := φ) (b := p.b) h.component
    rw [List.map_append, List.map_singleton, hrow]
    show List.Sublist _ ((batchRows p.b p.batch).take (p.c + 1))
    rw [List.take_add_one, hnext]
    exact hold.append (List.Sublist.refl _)
  · -- no file of that name was staged before
    have hfresh : p.component.1 ∉ t.staged.map Prod.fst := by
      intro hmem
      refine h.distinct_component ?_
      rw [h.files, List.map_reverse, List.mem_reverse, List.map_map] at hmem
      obtain ⟨staging, hstaging, hsame⟩ := List.mem_map.mp hmem
      have hrow := hold.subset (List.mem_map_of_mem hstaging)
      have hnames := List.mem_map_of_mem (f := fun place => strOf place.2.2) hrow
      rw [List.map_take, names_batchRows, ← List.map_take] at hnames
      rw [← hsame]
      exact hnames
    have hfilter : t.staged.filter (·.1 ≠ p.component.1) = t.staged := by
      refine List.filter_eq_self.mpr fun file hfile => ?_
      have hne : file.1 ≠ p.component.1 := fun hsame =>
        hfresh (hsame ▸ List.mem_map_of_mem hfile)
      simpa using hne
    show Tracker.stage p.component.1 _ t.staged = _
    rw [Tracker.stage, hfilter, h.files, List.map_append, List.reverse_append]
    show _ = record.file :: _
    rw [Consumed.file, hname]
    rfl
  · simp
  · simp [committing]
  · intro once honce _
    rw [batchesOf_other (hother once honce), h.passed once honce (.inl (by simp [hphase])), hphase]
    revert once
    simp [milestonesOnce, committing, confirmed]
  · simp [confirmed]
  · exact fun _ => h.prepared_concat (.inl (by simp [hphase]))
  · trivial

/-- The step of a count. -/
def Counts (milestone : String) (phase phase' : PersistencePhase) : Prop :=
  ∀ once ∈ milestonesOnce, if once.1 = milestone then phase ∉ once.2 ∧ phase' ∈ once.2
    else phase' ∈ once.2 ↔ phase ∈ once.2

instance (milestone : String) (phase phase' : PersistencePhase) :
    Decidable (Counts milestone phase phase') := inferInstanceAs (Decidable (∀ _ ∈ _, _))

/-- **Counted**: a batch that is staged as a whole has one more of its milestones. -/
theorem counts (h : Progress log t p) {milestone : String} (hrecord : record.Of milestone p.b)
    (hname : py milestone ≠ py "CATACOMB_HOST_STAGED") (hsame : SamePlace t t')
    (hknown : t.phase ≠ .outcomeUnknown) (hphase : t'.phase ∈ committing)
    (hcounts : Counts milestone t.phase t'.phase)
    (hready : t.phase ≠ .componentReady)
    (hfull : p.c + 1 = p.batch.length ∧ p.current.map Consumed.row = batchRows p.b p.batch)
    (hlast : t'.phase ∈ confirmed → p.b + 1 = t.batches.length) :
    Progress (log ++ [record]) t' p := by
  have hstaged : record.milestone ≠ py "CATACOMB_HOST_STAGED" := by
    rw [hrecord.1]
    exact hname
  constructor
  · exact h.place_of hsame
  · exact hsame.batches ▸ h.batch
  · exact h.planned_concat hsame.batches
  · intro hnot
    rw [hnot] at hphase
    exact absurd hphase (by decide)
  · rw [recordsOf_other hstaged, h.stagings]
  · rw [hsame.batches, h.past]
  · have hto : stagedTo t'.phase p.c = p.batch.length := by
      rw [← hfull.1, stagedTo, if_neg]
      revert hphase
      cases t'.phase <;> decide
    rw [hto, hfull.2, ← length_batchRows (φ := φ) p.b p.batch, List.take_length]
  · exact hsame.staged.trans h.files
  · intro hconfirm
    rw [hconfirm] at hphase
    exact absurd hphase (by decide)
  · exact fun _ => hfull
  · intro once honce _
    have hone := hcounts once honce
    have hold := h.passed once honce (.inl hknown)
    by_cases hmilestone : once.1 = milestone
    · rw [if_pos hmilestone] at hone
      rw [if_neg hone.1] at hold
      rw [if_pos hone.2, hmilestone, batchesOf_concat hrecord, ← hmilestone, hold, firstBatches_succ]
      rfl
    · rw [if_neg hmilestone] at hone
      have hne : record.milestone ≠ py once.1 := by
        rw [hrecord.1]
        exact fun hsame => hmilestone (py_inj.mp hsame).symm
      rw [batchesOf_other hne, hold]
      simp only [hone]
  · rw [hsame.batches]
    exact hlast
  · exact fun _ => h.prepared_concat (.inl hready)
  · revert hphase
    unfold Recent
    cases t'.phase <;> simp [committing]

/-- **The next batch**, behind a batch that is staged, committed, and confirmed. -/
theorem nextBatch (h : Progress log t p) (hrecord : record.Of "CATACOMB_FINAL_CONFIRMED" p.b)
    (hphase : t.phase = .finalConfirmIntent) (hmore : p.b + 1 < t.batches.length)
    (hbatches : t'.batches = t.batches) (hbatch : t'.batchIndex = some (p.b + 1))
    (hindex : t'.componentIndex = some 0) (hstaged : t'.staged = [])
    (hphase' : t'.phase = .componentReady) :
    ∃ component, Progress (log ++ [record]) t'
      ⟨p.b + 1, 0, t.batches[p.b + 1], component, p.past ++ p.current, []⟩ := by
  obtain ⟨plan, rest, hlog, hplan, hplanned⟩ := h.planned
  obtain ⟨component, others, hcons⟩ := List.exists_cons_of_ne_nil
    (hplanned.nonempty _ (List.getElem_mem hmore))
  obtain ⟨-, hfull⟩ := h.full (by simp [hphase, committing])
  refine ⟨component, ?_⟩
  constructor
  · refine ⟨hbatch, hindex, ?_⟩
    rw [hbatches, List.getD_eq_getElem?_getD, List.getElem?_eq_getElem hmore, Option.getD_some, hcons]
    rfl
  · rw [hbatches]
    exact List.getElem?_eq_getElem hmore
  · exact h.planned_concat hbatches
  · simp [hphase']
  · rw [recordsOf_other (by rw [hrecord.1]; simp), h.stagings, List.append_nil]
  · rw [hbatches, List.map_append, h.past, hfull, planRows_take h.batch]
  · exact List.nil_sublist _
  · exact hstaged
  · simp [hphase']
  · simp [hphase', committing]
  · intro once honce _
    have hnot' : t'.phase ∉ committing := by simp [hphase', committing]
    have hold := h.passed once honce (.inl (by simp [hphase]))
    rw [if_neg (notMem_once hnot' once honce), Nat.add_zero]
    rw [hphase] at hold
    by_cases hmilestone : once.1 = "CATACOMB_FINAL_CONFIRMED"
    · -- the confirmation itself
      have hnot : PersistencePhase.finalConfirmIntent ∉ once.2 := by
        revert once
        simp [milestonesOnce, committing, confirmed]
      rw [if_neg hnot, hmilestone] at hold
      rw [hmilestone, batchesOf_concat hrecord, hold, firstBatches_succ]
      rfl
    · have hmem : PersistencePhase.finalConfirmIntent ∈ once.2 := by
        revert once
        simp [milestonesOnce, committing, confirmed]
      rw [if_pos hmem] at hold
      have hne : record.milestone ≠ py once.1 := by
        rw [hrecord.1]
        exact fun hsame => hmilestone (py_inj.mp hsame).symm
      rw [batchesOf_other hne, hold]
  · simp [hphase', confirmed]
  · simp [hphase']
  · unfold Recent
    rw [hphase']
    trivial

/-! ### What a record needs -/

theorem orderly_of {batches : List (List Component)} {name : String}
    (hname : record.milestone = py name)
    (hblob : name = "CATACOMB_HOST_STAGED" → FromBlob log record)
    (hfiles : name ∈ ["CATACOMB_HOST_BATCH_COMMIT_INTENT", "CATACOMB_HOST_BATCH_COMMITTED"] →
      OfStagedFiles batches log record)
    (hcommit : name ∈ ["CATACOMB_FINAL_CONFIRM_INTENT", "CATACOMB_FINAL_CONFIRMED"] →
      BehindCommit log record)
    (hbatch : name ∈ ["CATACOMB_PREPARE_INTENT", "CATACOMB_PREPARED"] → BatchByBatch log record) :
    Orderly batches log record := by
  refine ⟨fun hsame => ?_, fun milestone hmem hsame => ?_, fun milestone hmem hsame => ?_,
    fun milestone hmem hsame => ?_⟩ <;> obtain rfl := py_inj.mp (hname.symm.trans hsame)
  · exact hblob rfl hsame
  · exact hfiles hmem _ hmem hsame
  · exact hcommit hmem _ hmem hsame
  · exact hbatch hmem _ hmem hsame

/-- A record of no such milestone. -/
theorem orderly_other {batches : List (List Component)} {name : String}
    (hname : record.milestone = py name)
    (hnot : name ∉ ["CATACOMB_HOST_STAGED", "CATACOMB_HOST_BATCH_COMMIT_INTENT",
      "CATACOMB_HOST_BATCH_COMMITTED", "CATACOMB_FINAL_CONFIRM_INTENT", "CATACOMB_FINAL_CONFIRMED",
      "CATACOMB_PREPARE_INTENT", "CATACOMB_PREPARED"]) :
    Orderly batches log record := by
  simp only [List.mem_cons, not_or] at hnot
  refine orderly_of hname ?_ ?_ ?_ ?_ <;> intro h <;> simp_all

theorem earlierBatches (h : Progress log t p) (hknown : t.phase ≠ .outcomeUnknown) :
    ∀ earlier < p.b, (∃ commit ∈ log, commit.Of "CATACOMB_HOST_BATCH_COMMITTED" earlier) ∧
      ∃ confirm ∈ log, confirm.Of "CATACOMB_FINAL_CONFIRMED" earlier := by
  intro earlier hlt
  have hcommits := h.passed ("CATACOMB_HOST_BATCH_COMMITTED", _) (by simp [milestonesOnce]; rfl)
    (.inl hknown)
  have hconfirms := h.passed _ confirmed_mem (.inl hknown)
  exact ⟨exists_of_batchesOf hcommits (by omega), exists_of_batchesOf hconfirms (by omega)⟩

theorem behindCommit (h : Progress log t p)
    (hphase : t.phase = .batchCommitted ∨ t.phase = .finalConfirmIntent)
    (hbatch : record.evidence.get "batch_index" = .int p.b) : BehindCommit log record := by
  intro milestone _ hmilestone
  refine ⟨p.b, ⟨hmilestone, hbatch⟩, ?_⟩
  have hknown : t.phase ≠ .outcomeUnknown := by rcases hphase with h | h <;> simp [h]
  have hcommits := h.passed ("CATACOMB_HOST_BATCH_COMMITTED", _) (by simp [milestonesOnce]; rfl)
    (.inl hknown)
  refine exists_of_batchesOf hcommits ?_
  rcases hphase with h | h <;> simp [h]

/-! ### The step -/

/-- What one more record keeps. -/
def Stepped (log : List (Consumed φ)) (t : Tracker φ) (record : Consumed φ) (t' : Tracker φ) : Prop :=
  Orderly t.batches log record ∧ t'.batches = t.batches ∧ ∃ p', Progress (log ++ [record]) t' p'

section Milestones

variable (h : Progress log t p)

include h

theorem at_of {milestone : String} (hname : record.milestone = py milestone)
    (hnames : Names record.evidence p.b p.c p.component) : record.At milestone p.b p.c :=
  ⟨⟨hname, hnames.batch⟩, hnames.index⟩

theorem prepareIntent_stepped (hname : record.milestone = py "CATACOMB_PREPARE_INTENT")
    (hstep : t.prepareIntent record.evidence = .ok t') : Stepped log t record t' := by
  obtain ⟨hphase, htargets, rfl⟩ := t.prepareIntent_ok _ t' hstep
  have hnames := h.targets htargets
  refine ⟨orderly_of hname (by simp) (by simp) (by simp) fun _ milestone _ hmilestone => ?_, rfl, p, ?_⟩
  · exact ⟨p.b, ⟨hmilestone, hnames.batch⟩, h.earlierBatches (by simp [hphase])⟩
  · refine h.inside (by simp [hname, counted, milestonesOnce]) ⟨rfl, rfl, rfl, rfl⟩ ?_ nofun (.inr (h.at_of hname hnames)) ?_
    · rw [hphase]
      show Inside .componentReady .prepareIntent
      decide
    · exact ⟨log, record, rfl, h.at_of hname hnames⟩

theorem prepared_stepped (hname : record.milestone = py "CATACOMB_PREPARED")
    (hstep : t.prepared record.evidence = .ok t') : Stepped log t record t' := by
  obtain ⟨hphase, htargets, expected, hexpected, rfl⟩ := t.prepared_ok _ t' hstep
  have hnames := h.targets htargets
  have hrecent := h.recent
  rw [Recent, hphase] at hrecent
  obtain ⟨earlier, r, rfl, hr⟩ := hrecent
  refine ⟨orderly_of hname (by simp) (by simp) (by simp) fun _ milestone _ hmilestone => ?_, rfl, p, ?_⟩
  · exact ⟨p.b, ⟨hmilestone, hnames.batch⟩, h.earlierBatches (by simp [hphase])⟩
  · refine h.inside (by simp [hname, counted, milestonesOnce]) ⟨rfl, rfl, rfl, rfl⟩ ?_ nofun (.inl (by simp [hphase])) ?_
    · rw [hphase]
      show Inside .prepareIntent .prepared
      decide
    · exact ⟨earlier, r, record, List.append_assoc .., hr, h.at_of hname hnames, hexpected⟩

theorem completeIntent_stepped (hname : record.milestone = py "CATACOMB_COMPLETE_INTENT")
    (hstep : t.completeIntent record.evidence = .ok t') : Stepped log t record t' := by
  obtain ⟨hphase, htargets, rfl⟩ := t.completeIntent_ok _ t' hstep
  have hrecent := h.recent
  rw [Recent, hphase] at hrecent
  obtain ⟨earlier, q, r, rfl, hq, hr, hexpected⟩ := hrecent
  refine ⟨orderly_other hname (by simp), rfl, p, ?_⟩
  refine h.inside (by simp [hname, counted, milestonesOnce]) ⟨rfl, rfl, rfl, rfl⟩ ?_ nofun (.inl (by simp [hphase])) ?_
  · rw [hphase]
    show Inside .prepared .completeIntent
    decide
  · exact ⟨earlier, q, r, record, List.append_assoc .., hq, hr, h.at_of hname (h.targets htargets),
      hexpected⟩

theorem secureBlobCaptured_stepped (hname : record.milestone = py "CATACOMB_SECURE_BLOB_CAPTURED")
    (hstep : t.secureBlobCaptured record.evidence = .ok t') : Stepped log t record t' := by
  obtain ⟨hphase, htargets, ⟨length, hlength, hfits⟩, rfl⟩ := t.secureBlobCaptured_ok _ t' hstep
  have hnames := h.targets htargets
  have hrecent := h.recent
  rw [Recent, hphase] at hrecent
  obtain ⟨earlier, q, r, s, rfl, hq, hr, hs, hexpected⟩ := hrecent
  rw [hnames.name] at hfits
  refine ⟨orderly_other hname (by simp), rfl, p, ?_⟩
  refine h.inside (by simp [hname, counted, milestonesOnce]) ⟨rfl, rfl, rfl, rfl⟩ ?_ nofun (.inl (by simp [hphase])) ?_
  · rw [hphase]
    show Inside .completeIntent .secureBlobCaptured
    decide
  · exact ⟨earlier, q, r, s, record, length, _, List.append_assoc .., hq, hr, hs,
      h.at_of hname hnames, rfl, hlength, hexpected, hfits⟩

theorem hostStaged_stepped (hname : record.milestone = py "CATACOMB_HOST_STAGED")
    (hstep : t.hostStaged record.evidence = .ok t') : Stepped log t record t' := by
  obtain ⟨hphase, hsecure, b, c, component, hat, hnames, ht'⟩ := t.hostStaged_ok _ t' hstep
  obtain rfl : p.component = component := by
    obtain rfl : p.b = b := Option.some.inj (h.place.batch.symm.trans hat.batch)
    obtain rfl : p.c = c := Option.some.inj (h.place.index.symm.trans hat.index)
    exact Option.some.inj (h.place.planned.symm.trans hat.planned)
  have hnames := h.targets ⟨b, c, _, hat, hnames⟩
  have hrecord := h.at_of hname hnames
  refine ⟨orderly_of hname (fun _ _ => ?_) (by simp) (by simp) (by simp), ht' ▸ rfl, _,
    h.stages hrecord hnames.name hphase ht'⟩
  have hrecent := h.recent
  rw [Recent, hphase] at hrecent
  obtain ⟨earlier, q, r, s, blob, length, expected, hlog, hq, hr, hs, hblob, hhash, hlength, hexpected,
    hfits⟩ := hrecent
  refine ⟨earlier, q, r, s, blob, p.b, p.c, hlog, hrecord, hq, hr, hs, hblob, hsecure.trans hhash.symm,
    length, expected, hlength, hexpected, ?_⟩
  rw [hnames.name]
  exact hfits

theorem confirmIntent_stepped (hname : record.milestone = py "CATACOMB_CONFIRM_INTENT")
    (hstep : t.confirmIntent record.evidence = .ok t') : Stepped log t record t' := by
  obtain ⟨hphase, hfinal, -, rfl⟩ := t.confirmIntent_ok _ t' hstep
  refine ⟨orderly_other hname (by simp), rfl, p, ?_⟩
  refine h.inside (by simp [hname, counted, milestonesOnce]) ⟨rfl, rfl, rfl, rfl⟩ ?_ (fun _ => ?_)
    (.inl (by simp [hphase])) ?_
  · rw [hphase]
    show Inside .hostStaged .confirmIntent
    decide
  · -- the component is not the last of its batch
    have hfinal := of_decide_eq_false hfinal
    rw [h.place.index, h.batchLength, Option.getD_some] at hfinal
    have := h.inBatch
    omega
  · trivial

theorem confirmed_stepped (hname : record.milestone = py "CATACOMB_CONFIRMED")
    (hstep : t.confirmed record.evidence = .ok t') : Stepped log t record t' := by
  obtain ⟨hphase, -, ht'⟩ := t.confirmed_ok _ t' hstep
  rw [h.place.index, Option.getD_some] at ht'
  subst ht'
  exact ⟨orderly_other hname (by simp), rfl, _,
    h.advance (by simp [hname, counted, milestonesOnce]) (h.early hphase) rfl rfl rfl rfl rfl⟩

theorem earlyConfirmRecovered_stepped
    (hname : record.milestone = py "CATACOMB_EARLY_CONFIRM_RECOVERED")
    (hstep : t.earlyConfirmRecovered record.evidence = .ok t') : Stepped log t record t' := by
  obtain ⟨hphase, -, -, -, b, c, component, hat, -, hmore, -, rfl⟩ :=
    t.earlyConfirmRecovered_ok _ t' hstep
  obtain rfl : p.c = c := Option.some.inj (h.place.index.symm.trans hat.index)
  rw [h.batchLength] at hmore
  exact ⟨orderly_other hname (by simp), rfl, _,
    h.advance (by simp [hname, counted, milestonesOnce]) hmore rfl rfl rfl rfl rfl⟩

theorem hostBatchCommitIntent_stepped
    (hname : record.milestone = py "CATACOMB_HOST_BATCH_COMMIT_INTENT")
    (hstep : t.hostBatchCommitIntent record.evidence = .ok t') : Stepped log t record t' := by
  obtain ⟨hphase, hfinal, hcarries, rfl⟩ := t.hostBatchCommitIntent_ok _ t' hstep
  obtain ⟨hbatch, hfull, hfiles⟩ := h.ofStagedFiles (hcarries (by rw [h.place.batch]; rfl))
  have hfinal := of_decide_eq_true hfinal
  rw [h.place.index, h.batchLength, Option.getD_some] at hfinal
  refine ⟨orderly_of hname (by simp) (fun _ => hfiles) (by simp) (by simp), rfl, p, ?_⟩
  refine h.counts ⟨hname, hbatch⟩ (by simp) ⟨rfl, rfl, rfl, rfl⟩ (by simp [hphase]) (by simp [committing])
    ?_ (by simp [hphase]) ⟨hfinal, hfull⟩ (by simp [confirmed])
  rw [hphase]
  show Counts "CATACOMB_HOST_BATCH_COMMIT_INTENT" .hostStaged .batchCommitIntent
  decide

theorem hostBatchCommitted_stepped (hname : record.milestone = py "CATACOMB_HOST_BATCH_COMMITTED")
    (hstep : t.hostBatchCommitted record.evidence = .ok t') : Stepped log t record t' := by
  obtain ⟨hphase, hcarries, rfl⟩ := t.hostBatchCommitted_ok _ t' hstep
  obtain ⟨hbatch, -, hfiles⟩ := h.ofStagedFiles (hcarries (by rw [h.place.batch]; rfl))
  refine ⟨orderly_of hname (by simp) (fun _ => hfiles) (by simp) (by simp), rfl, p, ?_⟩
  refine h.counts ⟨hname, hbatch⟩ (by simp) ⟨rfl, rfl, rfl, rfl⟩ (by simp [hphase]) (by simp [committing])
    ?_ (by simp [hphase]) (h.full (by simp [hphase, committing])) (by simp [confirmed])
  rw [hphase]
  show Counts "CATACOMB_HOST_BATCH_COMMITTED" .batchCommitIntent .batchCommitted
  decide

theorem finalConfirmIntent_stepped (hname : record.milestone = py "CATACOMB_FINAL_CONFIRM_INTENT")
    (hstep : t.finalConfirmIntent record.evidence = .ok t') : Stepped log t record t' := by
  obtain ⟨hphase, htargets, rfl⟩ := t.finalConfirmIntent_ok _ t' hstep
  have hcommit := h.behindCommit (.inl hphase) (h.targets htargets).batch
  refine ⟨orderly_of hname (by simp) (by simp) (fun _ => hcommit) (by simp), rfl, p, ?_⟩
  refine h.inside (by simp [hname, counted, milestonesOnce]) ⟨rfl, rfl, rfl, rfl⟩ ?_ nofun (.inl (by simp [hphase])) trivial
  rw [hphase]
  show Inside .batchCommitted .finalConfirmIntent
  decide

theorem finalConfirmed_stepped (hname : record.milestone = py "CATACOMB_FINAL_CONFIRMED")
    (hstep : t.finalConfirmed record.evidence = .ok t') : Stepped log t record t' := by
  obtain ⟨hphase, htargets, ht'⟩ := t.finalConfirmed_ok _ t' hstep
  have hbatch := (h.targets htargets).batch
  have hcommit := h.behindCommit (.inr hphase) hbatch
  have horderly : Orderly t.batches log record :=
    orderly_of hname (by simp) (by simp) (fun _ => hcommit) (by simp)
  have hb : t.batchIndex.getD 0 = p.b := by
    rw [h.place.batch]
    rfl
  rw [hb] at ht'
  by_cases hmore : p.b + 1 < t.batches.length
  · rw [if_pos hmore] at ht'
    have hbatches : t'.batches = t.batches := by rw [ht']
    obtain ⟨component, hnext⟩ := h.nextBatch ⟨hname, hbatch⟩ hphase hmore hbatches
      (by rw [ht']) (by rw [ht']) (by rw [ht']) (by rw [ht'])
    exact ⟨horderly, by rw [ht'], _, hnext⟩
  · rw [if_neg hmore] at ht'
    subst ht'
    refine ⟨horderly, rfl, p, ?_⟩
    refine h.counts ⟨hname, hbatch⟩ (by simp) ⟨rfl, rfl, rfl, rfl⟩ (by simp [hphase])
      (by simp [committing]) ?_ (by simp [hphase]) (h.full (by simp [hphase, committing])) (fun _ => ?_)
    · rw [hphase]
      show Counts "CATACOMB_FINAL_CONFIRMED" .finalConfirmIntent .attestationReady
      decide
    · have := h.inPlan
      omega

theorem persistenceAttested_stepped (hname : record.milestone = py "CATACOMB_PERSISTENCE_ATTESTED")
    (hstep : t.persistenceAttested record.evidence = .ok t') : Stepped log t record t' := by
  obtain ⟨hphase, rfl⟩ := t.persistenceAttested_ok _ t' hstep
  refine ⟨orderly_other hname (by simp), rfl, p, ?_⟩
  refine h.inside (by simp [hname, counted, milestonesOnce]) ⟨rfl, rfl, rfl, rfl⟩ ?_ nofun (.inl (by simp [hphase])) trivial
  rw [hphase]
  show Inside .attestationReady .complete
  decide

theorem persistenceOutcomeUnknown_stepped
    (hname : record.milestone = py "CATACOMB_PERSISTENCE_OUTCOME_UNKNOWN")
    (hstep : t.persistenceOutcomeUnknown record.evidence = .ok t') : Stepped log t record t' := by
  obtain ⟨hphase, htargets, -, -, rfl⟩ := t.persistenceOutcomeUnknown_ok _ t' hstep
  simp only [List.mem_cons, not_or] at hphase
  refine ⟨orderly_other hname (by simp), rfl, p, ?_⟩
  exact h.unknown (by simp [hname, counted, milestonesOnce]) ⟨rfl, rfl, rfl, rfl⟩ hphase.2.2.1 hphase.1
    rfl ⟨log, record, rfl, h.at_of hname (h.targets htargets), rfl, rfl⟩

/-- **One more record** keeps the invariant, and stands where it may. -/
theorem stepped (hstep : t.consume record.milestone record.evidence record.allowBiolockoutOnly =
    .ok t') : Stepped log t record t' := by
  rcases Tracker.consume_ok hstep with ⟨hname, hstep⟩ | ⟨-, hstep⟩ | ⟨handler, hmem, hname, -, hstep⟩
  · exact h.earlyConfirmRecovered_stepped hname hstep
  · exact absurd (t.plan_ok _ _ t' hstep).1 h.started
  · revert hname hstep
    revert handler
    simp only [Tracker.handlers, List.forall_mem_cons]
    exact ⟨h.persistenceOutcomeUnknown_stepped, h.prepareIntent_stepped, h.prepared_stepped,
      h.completeIntent_stepped, h.secureBlobCaptured_stepped, h.hostStaged_stepped,
      h.confirmIntent_stepped, h.confirmed_stepped, h.hostBatchCommitIntent_stepped,
      h.hostBatchCommitted_stepped, h.finalConfirmIntent_stepped, h.finalConfirmed_stepped,
      h.persistenceAttested_stepped, List.forall_mem_nil _⟩

end Milestones

/-- **The plan** is the first record. -/
theorem of_plan {t : Tracker φ} (hfresh : t.staged = [])
    (hname : record.milestone = py "CATACOMB_PERSISTENCE_PLAN") {allow : Bool}
    (hstep : t.plan allow record.evidence = .ok t') : ∃ p, Progress [record] t' p := by
  obtain ⟨-, batches, hplanned, hne, -, rfl⟩ := t.plan_ok _ _ t' hstep
  obtain ⟨batch, others, rfl⟩ := List.exists_cons_of_ne_nil hne
  obtain ⟨component, rest, rfl⟩ := List.exists_cons_of_ne_nil (hplanned.nonempty batch List.mem_cons_self)
  refine ⟨⟨0, 0, component :: rest, component, [], []⟩, ⟨rfl, rfl, rfl⟩, rfl, ?_, ?_, ?_, rfl, ?_, hfresh,
    ?_, ?_, ?_, ?_, ?_, trivial⟩
  · exact ⟨record, [], rfl, hname, hplanned⟩
  · simp
  · rw [recordsOf, List.filter_cons_of_neg (by simp [hname])]
    rfl
  · exact List.nil_sublist _
  · simp
  · simp [committing]
  · intro once honce _
    have hne : record.milestone ≠ py once.1 := by
      rw [hname]
      revert once
      simp [milestonesOnce]
    have hnot : PersistencePhase.componentReady ∉ once.2 := by
      revert once
      simp [milestonesOnce, committing, confirmed]
    rw [if_neg hnot]
    have hnone := @batchesOf_other _ _ _ [] _ hne
    rw [List.nil_append] at hnone
    rw [hnone]
    rfl
  · simp [confirmed]
  · simp

end Progress

/-! ## Runs -/

/-- **Every log that is consumed** has come to a position of its plan, and all of it is in order. -/
theorem consumeAll_progress {baseline : Value φ} {planKind : PlanKind} (log : List (Consumed φ)) :
    ∀ t, consumeAll (Tracker.start baseline planKind) log = .ok t →
      Every (Orderly t.batches) log ∧
      ((log = [] ∧ t = Tracker.start baseline planKind) ∨ ∃ p, Progress log t p) := by
  refine foldlM_induction (P := fun log (t : Tracker φ) => Every (Orderly t.batches) log ∧
    ((log = [] ∧ t = Tracker.start baseline planKind) ∨ ∃ p, Progress log t p))
    ⟨every_nil _, .inl ⟨rfl, rfl⟩⟩ (fun log t record t' _ ih hstep => ?_) log
  obtain ⟨hevery, ⟨rfl, rfl⟩ | ⟨p, hp⟩⟩ := ih
  · -- only a plan comes first
    rcases Tracker.consume_ok hstep with ⟨-, hstep⟩ | ⟨hname, hstep⟩ | ⟨handler, -, -, hstarted, -⟩
    · exact nomatch (Tracker.earlyConfirmRecovered_ok _ _ _ hstep).1
    · refine ⟨every_concat.mpr ⟨every_nil _, ?_⟩, .inr (Progress.of_plan rfl hname hstep)⟩
      exact Progress.orderly_other hname (by simp)
    · exact absurd rfl hstarted
  · obtain ⟨horderly, hbatches, hnext⟩ := hp.stepped hstep
    rw [hbatches]
    exact ⟨every_concat.mpr ⟨hevery, horderly⟩, .inr hnext⟩

theorem Progress.completed {log : List (Consumed φ)} {t : Tracker φ} {p : Position φ}
    (h : Progress log t p) (hphase : t.phase = .complete) : Completed log t := by
  obtain ⟨plan, rest, hlog, hname, hplanned⟩ := h.planned
  have hlast := h.last (by simp [hphase, confirmed])
  have hcount : ∀ once ∈ milestonesOnce,
      batchesOf once.1 log = firstBatches t.batches.length := by
    intro once honce
    have hmem : t.phase ∈ once.2 := by
      rw [hphase]
      revert once
      simp [milestonesOnce, committing, confirmed]
    rw [h.passed once honce (.inl (by simp [hphase])), if_pos hmem, hlast]
  refine ⟨⟨plan, rest, hlog, hname, hplanned.listed⟩, ?_, hcount (_, _) (by simp [milestonesOnce]; rfl),
    hcount (_, _) (by simp [milestonesOnce]; rfl), hcount _ confirmed_mem⟩
  obtain ⟨-, hfull⟩ := h.full (by simp [hphase, committing])
  rw [h.stagings, List.map_append, h.past, hfull, ← planRows_take h.batch, hlast, List.take_length]

/-- **Persistence integrity**: in every log that is consumed, each record stands behind what it needs
    and the tracker's files are those staged of the current batch; when the persistence is complete, all
    of its plan was staged once and in order, and every batch committed and confirmed once. -/
theorem persistence_integrity (baseline : Value φ) (planKind : PlanKind) (log : List (Consumed φ))
    (t : Tracker φ) (h : consumeAll (Tracker.start baseline planKind) log = .ok t) :
    Every (Orderly t.batches) log ∧ StagedNames log t ∧ (t.phase = .complete → Completed log t) := by
  obtain ⟨hevery, ⟨rfl, rfl⟩ | ⟨p, hp⟩⟩ := consumeAll_progress log t h
  · refine ⟨hevery, ⟨List.nodup_nil, fun name => ⟨nofun, ?_⟩⟩, nofun⟩
    rintro ⟨b, hb, -⟩
    exact nomatch hb
  · exact ⟨hevery, hp.stagedNames, hp.completed⟩

end Integrity

/-! ### A complete persistence -/

section Sample

/-- Evidence about the user Catacomb. -/
def sampleEvidence (extra : List (String × Value Unit)) : Value Unit :=
  object ([("batch_index", .int 0), ("component_index", .int 0),
    ("connection_generation", sampleUuid "1001"), ("descriptor_sha256", sampleSha "000d"),
    ("name", .str (py "user_000001f5.cat"))] ++ extra)

/-- Evidence about its batch. -/
def sampleBatch : Value Unit :=
  object [("batch_index", .int 0), ("connection_generation", sampleUuid "1001"),
    ("staged_snapshot_sha256", .str ((Tracker.snapshotHash
      (.list [Tracker.fileRow (py "user_000001f5.cat", sampleSha "000f")])).toOption.getD []))]

/-- The persistence of a rename. -/
def sampleLog : List (Consumed Unit) :=
  [⟨py "CATACOMB_PERSISTENCE_PLAN", object
      [("batches", .list [.list [object [("descriptor_sha256", sampleSha "000d"),
         ("name", .str (py "user_000001f5.cat"))]]]),
       ("connection_generation", sampleUuid "1001")], false⟩,
   ⟨py "CATACOMB_PREPARE_INTENT", sampleEvidence [], false⟩,
   ⟨py "CATACOMB_PREPARED",
     sampleEvidence [("expected_blob_length", .int 32), ("status", .int 0)], false⟩,
   ⟨py "CATACOMB_COMPLETE_INTENT", sampleEvidence [], false⟩,
   ⟨py "CATACOMB_SECURE_BLOB_CAPTURED", sampleEvidence
      [("blob_length", .int 32), ("secure_blob_sha256", sampleSha "000b"), ("status", .int 0)], false⟩,
   ⟨py "CATACOMB_HOST_STAGED", sampleEvidence
      [("final_file_sha256", sampleSha "000f"), ("secure_blob_sha256", sampleSha "000b")], false⟩,
   ⟨py "CATACOMB_HOST_BATCH_COMMIT_INTENT", sampleBatch, false⟩,
   ⟨py "CATACOMB_HOST_BATCH_COMMITTED", sampleBatch, false⟩,
   ⟨py "CATACOMB_FINAL_CONFIRM_INTENT", sampleEvidence [], false⟩,
   ⟨py "CATACOMB_FINAL_CONFIRMED", sampleEvidence [("status", .int 0)], false⟩,
   ⟨py "CATACOMB_PERSISTENCE_ATTESTED", object
      [("batch_count", .int 1), ("connection_generation", sampleUuid "1001"),
       ("independent_archive_readback", .bool true),
       ("reconciliation_snapshot_sha256", sampleSha "000e"),
       ("sep_host_generation_equal", .bool true)], false⟩]

/-- The log of a rename is one of a complete persistence. -/
theorem persistence_integrity_rename : ∃ t,
    consumeAll (Tracker.start (sampleBaseline true) .identityMetadata) sampleLog = .ok t ∧
      Every (Orderly t.batches) sampleLog ∧ StagedNames sampleLog t ∧ Completed sampleLog t := by
  obtain ⟨t, hrun, hphase⟩ := exists_of_map (b := PersistencePhase.complete)
    (show ((consumeAll (Tracker.start (sampleBaseline true) .identityMetadata) sampleLog).map
      Tracker.phase).toOption = _ by decide +kernel)
  obtain ⟨horderly, hstaged, hcomplete⟩ := persistence_integrity _ _ _ t hrun
  exact ⟨t, hrun, horderly, hstaged, hcomplete hphase⟩

end Sample

end T2TouchId.Journal.Persistence
