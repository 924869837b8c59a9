/-
  What cannot be undone, and how a journal unsays it.

  Problem: a deletion that the sensor has done, a host commit of a rename, a host commit of a foreign
  deletion are records of steps without a way back.  May such a journal still end in `ABORTED`, the
  phase of operations that changed nothing?

  1. **Program** — the three machines of `Journal/Delete`, `Journal/Rename`, `Journal/ExternalDelete`.
  2. **Results** — `oneWay` for each machine: behind its irreversible record only one milestone leads to
     `ABORTED`.  `aborted_iff_unsaid`: so the phase tells of it exactly where that milestone is absent.

  The crux is that an ambiguity, and the intent of a recovery, forget the phase they come from; what they
  lead to is open in all machines but for one action of a recovery.
-/
import T2TouchId.Journal.Delete.Steps
import T2TouchId.Journal.ExternalDelete.Steps
import T2TouchId.Journal.Persistence.Integrity
import T2TouchId.Journal.Reboot
import T2TouchId.Journal.Rename.Steps
import T2TouchId.Trace

set_option linter.unusedSectionVars false

namespace T2TouchId.Journal

open T2TouchId.Python T2TouchId.Python.Json

section Irreversible

variable {φ : Type} [JsonFloat φ]

/-- **A journal of a one-way machine** is closed exactly where one of its records takes it back. -/
theorem journalRun_closed_iff {S : Type} {empty : String} {start : Value φ → Check φ S}
    {step : S → Value φ → Check φ S} {inv : S → Prop} {tells takesBack : Value φ → Prop}
    {beyond closed : S → Prop} (h : OneWay step inv tells takesBack beyond closed)
    (hstart : ∀ first st, start first = .ok st → inv st ∧ ¬ tells first ∧ ¬ takesBack first)
    {records : List (Value φ)} {st : S} (hrun : journalRun empty start step records = .ok st)
    (htold : ∃ record ∈ records, tells record) :
    closed st ↔ ∃ record ∈ records, takesBack record := by
  cases records with
  | nil => exact absurd hrun (journalRun_nil st)
  | cons first rest =>
    obtain ⟨st0, hfirst, hrest⟩ := bind_ok hrun
    obtain ⟨hinv, htells, hback⟩ := hstart first st0 hfirst
    -- the baseline neither tells nor takes back
    have htold : ∃ record ∈ rest, tells record := by
      obtain ⟨record, hmem, hrecord⟩ := htold
      rcases List.mem_cons.mp hmem with rfl | hmem
      · exact absurd hrecord htells
      · exact ⟨record, hmem, hrecord⟩
    rw [h.closed_iff hinv rest st hrest htold]
    constructor
    · rintro ⟨record, hmem, hrecord⟩
      exact ⟨record, List.mem_cons_of_mem _ hmem, hrecord⟩
    · rintro ⟨record, hmem, hrecord⟩
      rcases List.mem_cons.mp hmem with rfl | hmem
      · exact absurd hrecord hback
      · exact ⟨record, hmem, hrecord⟩

/-! ## The deletion -/

namespace Delete

/-- The sensor has deleted. -/
def irreversible : List String :=
  ["DELETE_SEP_ABSENCE_OBSERVED", "DELETE_RECOVERY_SEP_ABSENCE_OBSERVED"]

/-- The record that closes a deletion as unchanged. -/
def unsaying : List String := ["DELETE_RECOVERY_RECONCILED_NO_CHANGE"]

/-- The phases behind the deletion. -/
def beyond : List DeletePhase :=
  [.sepDeleted, .outcomeUnknown, .persisting, .persistenceReady, .reconciled, .postRebootVerified]

/-- Only one milestone leads out of them. -/
theorem stays_beyond {milestone : Milestone} {before behind : DeletePhase} (hbeyond : before ∈ beyond)
    (hbefore : before ∈ phasesBefore milestone) (hbehind : behind ∈ phasesBehind milestone)
    (hnot : milestone ≠ .recoveryReconciled false) : behind ∈ beyond := by
  cases milestone with
  | recoveryReconciled committed =>
    cases committed with
    | false => exact absurd rfl hnot
    | true => rw [List.mem_singleton.mp hbehind]; decide
  | catacomb name =>
    have hsub : phasesBehind (.catacomb name) ⊆ beyond := by
      intro p hp
      simp only [phasesBehind, List.mem_cons, List.not_mem_nil, or_false] at hp
      rcases hp with rfl | rfl | rfl <;> decide
    exact hsub hbehind
  | intent | dispatchIntent | commandObserved | notPerformed =>
    rw [List.mem_singleton.mp hbefore] at hbeyond
    exact absurd hbeyond (by decide)
  | _ => rw [List.mem_singleton.mp hbehind]; decide

theorem milestone_unsaying {milestone : Milestone} {value : Value φ}
    (h : milestoneOf value = some milestone) :
    milestone = .recoveryReconciled false ↔ value = .str (py "DELETE_RECOVERY_RECONCILED_NO_CHANGE") := by
  constructor
  · rintro rfl
    rcases milestoneOf_ok h with ⟨name, hmem, hvalue⟩ | ⟨name, hne, -⟩
    · obtain rfl : name = "DELETE_RECOVERY_RECONCILED_NO_CHANGE" := by simpa [milestones] using hmem
      exact hvalue
    · exact nomatch hne
  · rintro rfl
    have hnamed : milestoneNamed (py "DELETE_RECOVERY_RECONCILED_NO_CHANGE") =
        some (.recoveryReconciled false) := milestoneNamed_of rfl
    exact Option.some.inj (h.symm.trans hnamed)

/-- **A deletion is one way.** -/
theorem oneWay : OneWay (State.step (φ := φ)) (fun _ => True) (Named irreversible) (Named unsaying)
    (fun st => st.phase ∈ beyond) (fun st => st.phase = .aborted) where
  inv_step := fun _ _ _ _ _ => trivial
  told := by
    rintro st record st' - hstep ⟨name, hname, hrecord⟩
    obtain ⟨milestone, hmilestone, happly⟩ := st.step_ok record st' hstep
    have hbehind := (st.apply_stepped _ milestone st' happly).behind
    rw [hrecord] at hmilestone
    have hsep : phasesBehind milestone = [.sepDeleted] := by
      rcases List.mem_cons.mp hname with rfl | hname
      · have hnamed : milestoneNamed (py "DELETE_SEP_ABSENCE_OBSERVED") =
            some .sepAbsenceObserved := milestoneNamed_of rfl
        rw [Option.some.inj (hmilestone.symm.trans hnamed)]
        rfl
      · obtain rfl := List.mem_singleton.mp hname
        have hnamed : milestoneNamed (py "DELETE_RECOVERY_SEP_ABSENCE_OBSERVED") =
            some .recoverySepAbsenceObserved := milestoneNamed_of rfl
        rw [Option.some.inj (hmilestone.symm.trans hnamed)]
        rfl
    rw [hsep] at hbehind
    rw [List.mem_singleton.mp hbehind]
    decide
  stays := by
    intro st record st' _ hbeyond hstep hnot
    obtain ⟨milestone, hmilestone, happly⟩ := st.step_ok record st' hstep
    refine stays_beyond hbeyond (st.apply_before _ milestone st' happly)
      (st.apply_stepped _ milestone st' happly).behind fun hclosing => hnot ?_
    exact named_of (List.mem_singleton.mpr rfl) ((milestone_unsaying hmilestone).mp hclosing)
  closes := by
    rintro st record st' hstep ⟨name, hname, hrecord⟩
    obtain ⟨milestone, hmilestone, happly⟩ := st.step_ok record st' hstep
    rw [List.mem_singleton.mp hname] at hrecord
    obtain rfl := (milestone_unsaying hmilestone).mpr hrecord
    exact List.mem_singleton.mp (st.apply_stepped _ _ st' happly).behind
  final := by
    intro st record st' hclosed hstep
    obtain ⟨milestone, -, happly⟩ := st.step_ok record st' hstep
    have hbefore := st.apply_before _ milestone st' happly
    rw [hclosed] at hbefore
    cases milestone <;> simp [phasesBefore] at hbefore
  apart := by
    intro st hbeyond hclosed
    rw [hclosed] at hbeyond
    exact absurd hbeyond (by decide)

theorem start_neither (lower : PyStr → PyStr) (first : Value φ) (st : State φ)
    (h : start lower first = .ok st) :
    True ∧ ¬ Named irreversible first ∧ ¬ Named unsaying first := by
  obtain ⟨hmilestone, -⟩ := start_ok lower first st h
  exact ⟨trivial, not_named (by decide) hmilestone, not_named (by decide) hmilestone⟩

end Delete

/-! ## The rename -/

namespace Rename

/-- The host has committed. -/
def irreversible : List String := ["CATACOMB_HOST_BATCH_COMMITTED"]

/-- The record that closes a rename as unchanged. -/
def unsaying : List String := ["RENAME_RECOVERY_RECONCILED_NO_CHANGE"]

/-- The states behind the commit: the single batch is not staged again. -/
def Beyond (st : State φ) : Prop :=
  st.phase ∈ [RenamePhase.persistenceReady, .reconciled, .postRebootVerified, .outcomeUnknown] ∨
    st.phase = .persisting ∧ st.persistence.phase ∈ Tracker.behindCommit ∧
      st.persistence.phase ≠ .outcomeUnknown

theorem beyond_of_committed {st : State φ} (hphase : st.phase = State.phaseBehind st.persistence.phase)
    (hcommitted : st.persistence.phase ∈ Tracker.behindCommit) : Beyond st := by
  rw [Beyond, hphase]
  revert hcommitted
  cases st.persistence.phase <;> decide

theorem milestone_unsaying {milestone : Milestone} {value : Value φ}
    (h : milestoneOf value = some milestone) :
    milestone = .recoveryReconciled false ↔ value = .str (py "RENAME_RECOVERY_RECONCILED_NO_CHANGE") := by
  constructor
  · rintro rfl
    rcases milestoneOf_ok h with ⟨name, hmem, hvalue⟩ | ⟨name, hne, -⟩
    · obtain rfl : name = "RENAME_RECOVERY_RECONCILED_NO_CHANGE" := by simpa [milestones] using hmem
      exact hvalue
    · exact nomatch hne
  · rintro rfl
    have hnamed : milestoneNamed (py "RENAME_RECOVERY_RECONCILED_NO_CHANGE") =
        some (.recoveryReconciled false) := milestoneNamed_of rfl
    exact Option.some.inj (h.symm.trans hnamed)

/-- A milestone keeps the single batch. -/
theorem apply_single (st : State φ) (evidence : Value φ) (milestone : Milestone)
    (hsingle : st.persistence.Single) :
    Returns (st.apply evidence milestone) fun st' => st'.persistence.Single := by
  intro st' h
  cases milestone with
  | intent =>
    obtain ⟨-, -, rfl⟩ := st.intent_ok evidence st' h
    exact hsingle
  | abortedBeforePersistence =>
    obtain ⟨-, -, rfl⟩ := st.abortedBeforePersistence_ok evidence st' h
    exact hsingle
  | catacomb name =>
    obtain ⟨-, persistence, hconsume, rfl⟩ := st.catacomb_ok evidence name st' h
    exact hsingle.consume hconsume
  | reconciled =>
    obtain ⟨-, -, rfl⟩ := st.reconciled_ok evidence st' h
    exact hsingle
  | recoveryIntent =>
    obtain ⟨-, -, -, rfl⟩ := st.recoveryIntent_ok evidence st' h
    exact hsingle
  | recoveryReconciled committed =>
    obtain ⟨-, -, -, rfl⟩ := st.recoveryReconciled_ok evidence committed st' h
    exact hsingle
  | postRebootVerified =>
    obtain ⟨-, -, -, -, rfl⟩ := st.postRebootVerified_ok evidence st' h
    exact hsingle

/-- Only one milestone leads out of the states behind the commit. -/
theorem stays_beyond {st st' : State φ} {evidence : Value φ} {milestone : Milestone}
    (hsingle : st.persistence.Single) (hbeyond : Beyond st)
    (happly : st.apply evidence milestone = .ok st') (hnot : milestone ≠ .recoveryReconciled false) :
    Beyond st' := by
  cases milestone with
  | catacomb name =>
    obtain ⟨hphase, persistence, hconsume, rfl⟩ := st.catacomb_ok evidence name st' happly
    rcases hbeyond with hlisted | ⟨-, hcommitted, hknown⟩
    · rcases hphase with hphase | hphase <;> simp [hphase] at hlisted
    · exact beyond_of_committed rfl (hsingle.committed hconsume hcommitted hknown)
  | abortedBeforePersistence =>
    -- an abort comes before the first component is prepared
    obtain ⟨hphase, hready, -⟩ := st.abortedBeforePersistence_ok evidence st' happly
    rcases hbeyond with hlisted | ⟨-, hcommitted, -⟩
    · simp [hphase] at hlisted
    · simp [hready, Tracker.behindCommit] at hcommitted
  | intent =>
    obtain ⟨hphase, -⟩ := st.intent_ok evidence st' happly
    rcases hbeyond with hlisted | ⟨hpersisting, -⟩
    · simp [hphase] at hlisted
    · cases hphase.symm.trans hpersisting
  | recoveryReconciled committed =>
    cases committed with
    | false => exact absurd rfl hnot
    | true =>
      have hbehind := (st.apply_stepped _ _ st' happly).behind
      exact .inl (by rw [List.mem_singleton.mp hbehind]; decide)
  | reconciled | recoveryIntent | postRebootVerified =>
    have hbehind := (st.apply_stepped _ _ st' happly).behind
    exact .inl (by rw [List.mem_singleton.mp hbehind]; decide)

/-- **A rename is one way.** -/
theorem oneWay : OneWay (State.step (φ := φ)) (fun st => st.persistence.Single) (Named irreversible)
    (Named unsaying) Beyond (fun st => st.phase = .aborted) where
  inv_step := by
    intro st record st' hsingle hstep
    obtain ⟨milestone, -, happly⟩ := st.step_ok record st' hstep
    exact apply_single st _ milestone hsingle st' happly
  told := by
    rintro st record st' - hstep ⟨name, hname, hrecord⟩
    obtain ⟨milestone, hmilestone, happly⟩ := st.step_ok record st' hstep
    rw [List.mem_singleton.mp hname] at hrecord
    rw [hrecord] at hmilestone
    have hnamed : milestoneNamed (py "CATACOMB_HOST_BATCH_COMMITTED") =
        some (.catacomb (py "CATACOMB_HOST_BATCH_COMMITTED")) := by
      rw [milestoneNamed_other rfl, isPrefixOf_py rfl]
      rfl
    obtain rfl := Option.some.inj (hmilestone.symm.trans hnamed)
    obtain ⟨-, persistence, hconsume, rfl⟩ := st.catacomb_ok _ _ st' happly
    have hhandler : ("CATACOMB_HOST_BATCH_COMMITTED", Tracker.hostBatchCommitted) ∈
        Tracker.handlers (φ := φ) := by simp [Tracker.handlers]
    have hcommitted := Tracker.consume_handler hhandler hconsume
    obtain ⟨-, -, rfl⟩ := st.persistence.hostBatchCommitted_ok _ persistence hcommitted
    exact beyond_of_committed rfl (by simp [Tracker.behindCommit])
  stays := by
    intro st record st' hsingle hbeyond hstep hnot
    obtain ⟨milestone, hmilestone, happly⟩ := st.step_ok record st' hstep
    refine stays_beyond hsingle hbeyond happly fun hclosing => hnot ?_
    exact named_of (List.mem_singleton.mpr rfl) ((milestone_unsaying hmilestone).mp hclosing)
  closes := by
    rintro st record st' hstep ⟨name, hname, hrecord⟩
    obtain ⟨milestone, hmilestone, happly⟩ := st.step_ok record st' hstep
    rw [List.mem_singleton.mp hname] at hrecord
    obtain rfl := (milestone_unsaying hmilestone).mpr hrecord
    exact List.mem_singleton.mp (st.apply_stepped _ _ st' happly).behind
  final := by
    intro st record st' hclosed hstep
    obtain ⟨milestone, -, happly⟩ := st.step_ok record st' hstep
    have hbefore := st.apply_before _ milestone st' happly
    rw [hclosed] at hbefore
    cases milestone <;> simp [phasesBefore] at hbefore
  apart := by
    intro st hbeyond hclosed
    rcases hbeyond with hlisted | ⟨hpersisting, -⟩
    · simp [hclosed] at hlisted
    · cases hclosed.symm.trans hpersisting

theorem start_neither (lower : PyStr → PyStr) (first : Value φ) (st : State φ)
    (h : start lower first = .ok st) :
    st.persistence.Single ∧ ¬ Named irreversible first ∧ ¬ Named unsaying first := by
  have hmilestone := start_milestone lower first st h
  obtain ⟨-, rfl⟩ := start_ok lower first st h
  exact ⟨Tracker.single_start _, not_named (by decide) hmilestone, not_named (by decide) hmilestone⟩

end Rename

/-! ## The foreign deletion -/

namespace ExternalDelete

/-- The host has committed. -/
def irreversible : List String := ["EXTERNAL_DELETE_HOST_COMMITTED"]

/-- The record that closes the reconciliation as unchanged. -/
def unsaying : List String := ["EXTERNAL_DELETE_ABORTED"]

/-- The phases behind the commit. -/
def beyond : List ExternalPhase := [.hostCommitted, .reconciled, .outcomeUnknown]

theorem milestone_of_named {name : String} {milestone : Milestone} {value : Value φ}
    (hmem : (name, milestone) ∈ milestones) (hvalue : value = .str (py name)) {found : Milestone}
    (h : milestoneOf value = some found) : found = milestone := by
  obtain ⟨other, hother, hsame⟩ := milestoneOf_ok h
  have hname := py_inj.mp (Value.str.inj (hsame.symm.trans hvalue))
  rw [hname] at hother
  have hnodup : (milestones.map Prod.fst).Nodup := by decide
  exact congrArg Prod.snd (List.inj_on_of_nodup_map hnodup hother hmem rfl)

theorem stays_beyond {milestone : Milestone} {before : ExternalPhase} (hbeyond : before ∈ beyond)
    (hbefore : before ∈ phasesBefore milestone) (hnot : milestone ≠ .aborted) :
    phaseBehind milestone ∈ beyond := by
  cases milestone with
  | aborted => exact absurd rfl hnot
  | intent =>
    rw [List.mem_singleton.mp hbefore] at hbeyond
    exact absurd hbeyond (by decide)
  | _ => show _ ∈ beyond; decide

/-- **The reconciliation of a foreign deletion is one way.** -/
theorem oneWay : OneWay (State.step (φ := φ)) (fun _ => True) (Named irreversible) (Named unsaying)
    (fun st => st.phase ∈ beyond) (fun st => st.phase = .aborted) where
  inv_step := fun _ _ _ _ _ => trivial
  told := by
    rintro st record st' - hstep ⟨name, hname, hrecord⟩
    obtain ⟨milestone, hmilestone, happly⟩ := st.step_ok record st' hstep
    rw [List.mem_singleton.mp hname] at hrecord
    have hmember : ("EXTERNAL_DELETE_HOST_COMMITTED", Milestone.hostCommitted) ∈ milestones := by decide
    obtain rfl := milestone_of_named hmember hrecord hmilestone
    rw [(st.apply_stepped _ _ st' happly).behind]
    decide
  stays := by
    intro st record st' _ hbeyond hstep hnot
    obtain ⟨milestone, hmilestone, happly⟩ := st.step_ok record st' hstep
    have hstepped := st.apply_stepped _ milestone st' happly
    rw [hstepped.behind]
    refine stays_beyond hbeyond hstepped.before fun hclosing => hnot ?_
    subst hclosing
    obtain ⟨name, hmem, hvalue⟩ := milestoneOf_ok hmilestone
    obtain rfl : name = "EXTERNAL_DELETE_ABORTED" := by simpa [milestones] using hmem
    exact named_of (List.mem_singleton.mpr rfl) hvalue
  closes := by
    rintro st record st' hstep ⟨name, hname, hrecord⟩
    obtain ⟨milestone, hmilestone, happly⟩ := st.step_ok record st' hstep
    rw [List.mem_singleton.mp hname] at hrecord
    have hmember : ("EXTERNAL_DELETE_ABORTED", Milestone.aborted) ∈ milestones := by decide
    obtain rfl := milestone_of_named hmember hrecord hmilestone
    exact (st.apply_stepped _ _ st' happly).behind
  final := by
    intro st record st' hclosed hstep
    obtain ⟨milestone, -, happly⟩ := st.step_ok record st' hstep
    have hbefore := (st.apply_stepped _ milestone st' happly).before
    rw [hclosed] at hbefore
    cases milestone <;> simp [phasesBefore] at hbefore
  apart := by
    intro st hbeyond hclosed
    rw [hclosed] at hbeyond
    exact absurd hbeyond (by decide)

theorem start_neither (first : Value φ) (st : State φ) (h : start first = .ok st) :
    True ∧ ¬ Named irreversible first ∧ ¬ Named unsaying first := by
  obtain ⟨hmilestone, -⟩ := start_ok first st h
  exact ⟨trivial, not_named (by decide) hmilestone, not_named (by decide) hmilestone⟩

end ExternalDelete

/-! ## The three journals -/

/-- **Behind an irreversible record** an accepted journal is aborted exactly where a later record closes
    it as unchanged. -/
theorem aborted_iff_unsaid (lower : PyStr → PyStr) :
    (∀ (records : List (Value φ)) history, Delete.validateHistory lower records = .ok history →
      (∃ record ∈ records, Named Delete.irreversible record) →
      (history.phase ≠ .aborted ↔ ¬ ∃ record ∈ records, Named Delete.unsaying record)) ∧
    (∀ (records : List (Value φ)) history, Rename.validateHistory lower records = .ok history →
      (∃ record ∈ records, Named Rename.irreversible record) →
      (history.phase ≠ .aborted ↔ ¬ ∃ record ∈ records, Named Rename.unsaying record)) ∧
    ∀ (records : List (Value φ)) history, ExternalDelete.validateHistory records = .ok history →
      (∃ record ∈ records, Named ExternalDelete.irreversible record) →
      (history.phase ≠ .aborted ↔ ¬ ∃ record ∈ records, Named ExternalDelete.unsaying record) := by
  refine ⟨fun records history h htold => not_congr ?_, fun records history h htold => not_congr ?_,
    fun records history h htold => not_congr ?_⟩
  · exact journalRun_closed_iff Delete.oneWay (Delete.start_neither lower) (Delete.validateHistory_ok h)
      htold
  · exact journalRun_closed_iff Rename.oneWay (Rename.start_neither lower) (Rename.validateHistory_ok h)
      htold
  · exact journalRun_closed_iff ExternalDelete.oneWay ExternalDelete.start_neither
      (ExternalDelete.validateHistory_ok h) htold

/-- A milestone that was written stands in the journal. -/
theorem named_written {names : List String} {name : String} (hname : name ∈ names)
    {operationId : PyStr} {entries : List (Entry φ)} (h : py name ∈ entries.map Entry.milestone) :
    ∃ record ∈ written operationId entries, Named names record := by
  induction entries using List.reverseRecOn with
  | nil => exact nomatch h
  | append_singleton entries entry ih =>
    rw [written_concat]
    rw [List.map_append, List.mem_append] at h
    rcases h with hearlier | hlast
    · obtain ⟨record, hmem, hrecord⟩ := ih hearlier
      exact ⟨record, List.mem_append_left _ hmem, hrecord⟩
    · refine ⟨_, List.mem_append_right _ (List.mem_singleton.mpr rfl), named_of hname ?_⟩
      rw [milestone_written, List.mem_singleton.mp hlast]

end Irreversible

/-! ## Journals with two ends -/

/-- A deletion that the sensor has done, … -/
def doneDeletion : List (Entry Unit) := recoveredDeletion.take 5

/-- … whose recovery finds nothing changed. -/
def unsaidDeletion : List (Entry Unit) :=
  doneDeletion ++
  [⟨py "DELETE_RECOVERY_INTENT", object
      [("action", .str (py "no-local-transaction")), ("host_commit_possible", .bool true),
       ("linux_boot_uuid", sampleUuid "0002"), ("mapping_generation", sampleSha "00aa"),
       ("mutation_possible", .bool true)]⟩,
   ⟨py "DELETE_RECOVERY_RECONCILED_NO_CHANGE", object
      [("connection_generation", sampleUuid "1002"), ("host_reconciled", .bool true),
       ("identity_count", .int 2), ("identity_uuid", sampleUuid "cccc"),
       ("local_live_equal", .bool true), ("mapping_generation", sampleSha "00aa"),
       ("recovery_action", .str (py "no-local-transaction")), ("sep_clean", .bool true),
       ("snapshot_sha256", sampleSha "00ff"), ("target_absent", .bool false)]⟩]

/-- A rename that the host has committed and that stopped, … -/
def doneRename : List (Entry Unit) :=
  interruptedRename.take 2 ++
    (Persistence.sampleLog.take 8).map (fun record => ⟨record.milestone, record.evidence⟩) ++
    interruptedRename.drop 2

/-- … whose recovery finds nothing changed. -/
def unsaidRename : List (Entry Unit) :=
  doneRename ++
  [⟨py "RENAME_RECOVERY_RECONCILED_NO_CHANGE", object
    [("connection_generation", sampleUuid "1002"), ("host_reconciled", .bool true),
     ("identity_count", .int 1), ("identity_set_unchanged", .bool true),
     ("identity_uuid", sampleUuid "cccc"), ("local_live_equal", .bool true),
     ("mapping_generation", sampleSha "00aa"), ("name_sha256", sampleSha "0001"),
     ("recovery_action", .str (py "no-local-transaction")), ("sep_clean", .bool true),
     ("snapshot_sha256", sampleSha "00ff")]⟩]

/-- A foreign deletion that the host has taken over, … -/
def doneForeign : List (Entry Unit) :=
  [⟨py "EXTERNAL_DELETE_BASELINE", object
      [("apple_uid", .int 501), ("backup_reference", sampleUuid "0b0b"),
       ("backup_snapshot_sha256", sampleSha "0001"), ("before_user_sha256", sampleSha "0002"),
       ("connection_generation", sampleUuid "1001"), ("linux_boot_uuid", sampleUuid "0001"),
       ("live_identity_count", .int 1), ("live_snapshot_sha256", sampleSha "0003"),
       ("local_identity_count", .int 2), ("local_snapshot_sha256", sampleSha "0004"),
       ("mapping_generation", sampleSha "00aa"),
       ("operation_kind", .str (py "reconcile-external-delete")),
       ("other_components_snapshot_sha256", sampleSha "0005"), ("sep_mutation_performed", .bool false),
       ("stale_entity", .int 1), ("stale_identity_uuid", sampleUuid "dddd"),
       ("stale_name_sha256", sampleSha "0006"), ("survivor_snapshot_sha256", sampleSha "0007")]⟩,
   ⟨py "EXTERNAL_DELETE_INTENT", object
      [("connection_generation", sampleUuid "1001"), ("identity_count", .int 1),
       ("sep_mutation_performed", .bool false), ("staged_user_sha256", sampleSha "0008"),
       ("survivor_snapshot_sha256", sampleSha "0007")]⟩,
   ⟨py "EXTERNAL_DELETE_HOST_COMMITTED", object
      [("recovery_action", .str (py "direct")), ("sep_mutation_performed", .bool false),
       ("staged_user_sha256", sampleSha "0008")]⟩]

/-- … and whose read-back failed. -/
def unsaidForeign : List (Entry Unit) :=
  doneForeign ++
  [⟨py "EXTERNAL_DELETE_OUTCOME_UNKNOWN", object
      [("host_commit_possible", .bool true), ("sep_mutation_performed", .bool false),
       ("stage", .str (py "readback"))]⟩,
   ⟨py "EXTERNAL_DELETE_ABORTED", object
      [("host_commit_possible", .bool false), ("reason", .str (py "prepare-discarded")),
       ("sep_mutation_performed", .bool false)]⟩]

/-! ### They end in `ABORTED` -/

/-- Where the three runs end, in one evaluation. -/
theorem unsaid_runs :
    ((Delete.run id (written sampleOperation unsaidDeletion)).map (·.phase)).toOption =
      some Delete.DeletePhase.aborted ∧
    ((Rename.run id (written sampleOperation unsaidRename)).map (·.phase)).toOption =
      some Rename.RenamePhase.aborted ∧
    ((ExternalDelete.run (written sampleOperation unsaidForeign)).map (·.phase)).toOption =
      some ExternalDelete.ExternalPhase.aborted := by
  decide +kernel

theorem unsaidDeletion_aborted : ∃ history,
    Delete.validateHistory id (written sampleOperation unsaidDeletion) = .ok history ∧
      history.phase = .aborted := by
  obtain ⟨st, hrun, hphase⟩ := exists_of_map unsaid_runs.1
  obtain ⟨history, hhistory, rfl⟩ := Delete.validateHistory_written (by simp [unsaidDeletion]) hrun
  exact ⟨history, hhistory, hphase⟩

theorem unsaidDeletion_done :
    ∃ record ∈ written sampleOperation unsaidDeletion, Named Delete.irreversible record :=
  named_written (show "DELETE_SEP_ABSENCE_OBSERVED" ∈ _ by decide)
    (by simp [unsaidDeletion, doneDeletion, recoveredDeletion])

theorem unsaidRename_aborted : ∃ history,
    Rename.validateHistory id (written sampleOperation unsaidRename) = .ok history ∧
      history.phase = .aborted := by
  obtain ⟨st, hrun, hphase⟩ := exists_of_map unsaid_runs.2.1
  obtain ⟨history, hhistory, rfl⟩ := Rename.validateHistory_written (by simp [unsaidRename]) hrun
  exact ⟨history, hhistory, hphase⟩

theorem unsaidRename_done :
    ∃ record ∈ written sampleOperation unsaidRename, Named Rename.irreversible record :=
  named_written (show "CATACOMB_HOST_BATCH_COMMITTED" ∈ _ by decide)
    (by simp [unsaidRename, doneRename, Persistence.sampleLog])

theorem unsaidForeign_aborted : ∃ history,
    ExternalDelete.validateHistory (written sampleOperation unsaidForeign) = .ok history ∧
      history.phase = .aborted := by
  obtain ⟨st, hrun, hphase⟩ := exists_of_map unsaid_runs.2.2
  exact ⟨_, ExternalDelete.validateHistory_written (by simp [unsaidForeign]) hrun, hphase⟩

theorem unsaidForeign_done :
    ∃ record ∈ written sampleOperation unsaidForeign, Named ExternalDelete.irreversible record :=
  named_written (show "EXTERNAL_DELETE_HOST_COMMITTED" ∈ _ by decide)
    (by simp [unsaidForeign, doneForeign])

/-- **Each of the three journals** is accepted as aborted behind its irreversible record. -/
theorem irreversible_unsaid :
    (∃ records, ∃ history : Delete.History Unit, Delete.validateHistory id records = .ok history ∧
      (∃ record ∈ records, Named Delete.irreversible record) ∧ history.phase = .aborted) ∧
    (∃ records, ∃ history : Rename.History Unit, Rename.validateHistory id records = .ok history ∧
      (∃ record ∈ records, Named Rename.irreversible record) ∧ history.phase = .aborted) ∧
    ∃ records, ∃ history : ExternalDelete.History Unit,
      ExternalDelete.validateHistory records = .ok history ∧
      (∃ record ∈ records, Named ExternalDelete.irreversible record) ∧ history.phase = .aborted := by
  obtain ⟨deletion, hdeletion, hdeleted⟩ := unsaidDeletion_aborted
  obtain ⟨rename, hrename, hrenamed⟩ := unsaidRename_aborted
  obtain ⟨foreign, hforeign, htaken⟩ := unsaidForeign_aborted
  exact ⟨⟨_, deletion, hdeletion, unsaidDeletion_done, hdeleted⟩,
    ⟨_, rename, hrename, unsaidRename_done, hrenamed⟩,
    ⟨_, foreign, hforeign, unsaidForeign_done, htaken⟩⟩

/-- What closes them as unchanged stands in each. -/
theorem aborted_iff_unsaid_sample :
    (∃ record ∈ written sampleOperation unsaidDeletion, Named Delete.unsaying record) ∧
    (∃ record ∈ written sampleOperation unsaidRename, Named Rename.unsaying record) ∧
    ∃ record ∈ written sampleOperation unsaidForeign, Named ExternalDelete.unsaying record := by
  obtain ⟨hdelete, hrename, hforeign⟩ := aborted_iff_unsaid (φ := Unit) id
  obtain ⟨deletion, hdeletion, hdeleted⟩ := unsaidDeletion_aborted
  obtain ⟨rename, hrenaming, hrenamed⟩ := unsaidRename_aborted
  obtain ⟨foreign, htaking, htaken⟩ := unsaidForeign_aborted
  refine ⟨?_, ?_, ?_⟩
  · by_contra hnone
    exact (hdelete _ deletion hdeletion unsaidDeletion_done).mpr hnone hdeleted
  · by_contra hnone
    exact (hrename _ rename hrenaming unsaidRename_done).mpr hnone hrenamed
  · by_contra hnone
    exact (hforeign _ foreign htaking unsaidForeign_done).mpr hnone htaken

end T2TouchId.Journal
