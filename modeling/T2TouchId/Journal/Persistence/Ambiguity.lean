/-
  The unknown outcomes of a persistence, and the recovery of an early confirm.

  Problem: `CATACOMB_PERSISTENCE_OUTCOME_UNKNOWN` states a stage and whether the host may have committed,
  and a recovery reads both.  The tracker compares neither with its phase: its caller states them, as
  the callers of every other journal do.

  1. **Specification** — `AsClaimed`: what the record would say if it followed the phase;
     `StatesPlace` and `PassesOne`: what the tracker makes sure of.
  2. **Results** — `early_confirm_unstaged`: a log that is consumed and is not as claimed;
     `persistence_ambiguity`: every log that is consumed is as the tracker makes sure.
  3. **The crux** — nothing is consumed behind an unknown outcome but its recovery, so the record before
     the recovery is the ambiguity it answers.
-/
import T2TouchId.Journal.Persistence.Integrity

set_option linter.unusedSectionVars false

namespace T2TouchId.Journal.Persistence

open T2TouchId.Python T2TouchId.Python.Json

section Ambiguity

variable {φ : Type} [JsonFloat φ]

/-! ## Specification -/

/-- The stages of an ambiguity. -/
def stages : List String :=
  ["prepare", "complete", "encode", "host-stage", "early-confirm", "host-commit", "final-confirm",
   "readback"]

/-- **What an ambiguity states**: a component that a prepare intent stands before, one of the stages, and
    a Boolean. -/
def StatesPlace (before : List (Consumed φ)) (record : Consumed φ) : Prop :=
  record.milestone = py "CATACOMB_PERSISTENCE_OUTCOME_UNKNOWN" → ∃ b c,
    record.At "CATACOMB_PERSISTENCE_OUTCOME_UNKNOWN" b c ∧
    (∃ prepare ∈ before, prepare.At "CATACOMB_PREPARE_INTENT" b c) ∧
    (∃ stage ∈ stages, record.evidence.get "stage" = .str (py stage)) ∧
    isBool (record.evidence.get "host_commit_possible") = true

/-- **What a recovery passes**: the component of the ambiguity right before it, which states an early
    confirm and no possible commit.  The component is not the last of its batch, no commit intent of the
    batch stands before, and a hash that the recovery states is that of the staged file. -/
def PassesOne (batches : List (List Component)) (before : List (Consumed φ))
    (record : Consumed φ) : Prop :=
  record.milestone = py "CATACOMB_EARLY_CONFIRM_RECOVERED" → ∃ earlier ambiguity b c batch,
    before = earlier ++ [ambiguity] ∧ record.At "CATACOMB_EARLY_CONFIRM_RECOVERED" b c ∧
    ambiguity.At "CATACOMB_PERSISTENCE_OUTCOME_UNKNOWN" b c ∧
    ambiguity.evidence.get "stage" = .str (py "early-confirm") ∧
    isFalse (ambiguity.evidence.get "host_commit_possible") = true ∧
    batches[b]? = some batch ∧ c + 1 < batch.length ∧
    (∀ intent ∈ before, ¬ intent.Of "CATACOMB_HOST_BATCH_COMMIT_INTENT" b) ∧
    (isNone (record.evidence.get "staged_file_sha256") = false →
      ∃ staging ∈ before, staging.At "CATACOMB_HOST_STAGED" b c ∧
        (record.evidence.get "staged_file_sha256").pyEq
          (staging.evidence.get "final_file_sha256") = true)

/-- What the tracker makes sure of; a batch of which a component was passed unstaged is not committed. -/
structure Answered (batches : List (List Component)) (before : List (Consumed φ))
    (record : Consumed φ) : Prop where
  statesPlace : StatesPlace before record
  passesOne : PassesOne batches before record
  ofStagedFiles : OfStagedFiles batches before record

/-! ## Inside a log -/

namespace Progress

variable {log : List (Consumed φ)} {t t' : Tracker φ} {p : Position φ} {record : Consumed φ}

/-- A batch that has further components has no commit intent. -/
theorem uncommitted (h : Progress log t p) (hmore : p.c + 1 < p.batch.length) :
    ∀ intent ∈ log, ¬ intent.Of "CATACOMB_HOST_BATCH_COMMIT_INTENT" p.b := by
  intro intent hmem hof
  have hcount := h.passed ("CATACOMB_HOST_BATCH_COMMIT_INTENT", committing) (by simp [milestonesOnce])
    (.inr hmore)
  rw [if_neg (h.notCommitting hmore), Nat.add_zero] at hcount
  have hlisted : (.int p.b : Value φ) ∈ firstBatches p.b := by
    rw [← hcount, ← hof.2]
    exact List.mem_map_of_mem (List.mem_filter.mpr ⟨hmem, decide_eq_true hof.1⟩)
  obtain ⟨earlier, hearlier, hsame⟩ := List.mem_map.mp hlisted
  have hsame : (earlier : Int) = p.b := Value.int.inj hsame
  have hlt := List.mem_range.mp hearlier
  omega

/-- The staged file of the current component is stated by a record at its place. -/
theorem staging_of_lookup (h : Progress log t p) {digest : Value φ}
    (hlookup : Tracker.lookup p.component.1 t.staged = some digest) :
    ∃ staging ∈ log, staging.At "CATACOMB_HOST_STAGED" p.b p.c ∧
      staging.evidence.get "final_file_sha256" = digest := by
  obtain ⟨file, hfile, rfl⟩ := Option.map_eq_some_iff.mp hlookup
  have hname := List.find?_some hfile
  have hname : file.1 = p.component.1 := of_decide_eq_true hname
  have hmem := List.mem_of_find?_eq_some hfile
  rw [h.files, List.mem_reverse] at hmem
  obtain ⟨staging, hcurrent, rfl⟩ := List.mem_map.mp hmem
  obtain ⟨hlog, hof⟩ := h.current_log staging hcurrent
  obtain ⟨c, component, hcomponent, hrow⟩ := h.current_subset staging hcurrent
  have hindex : staging.evidence.get "component_index" = .int c := (Prod.mk.inj (Prod.mk.inj hrow).2).1
  have hnamed : staging.evidence.get "name" = .str component.1 := (Prod.mk.inj (Prod.mk.inj hrow).2).2
  rw [Consumed.file, hnamed] at hname
  -- the names of a batch are distinct
  have hsame : (p.batch.map Prod.fst)[c]? = (p.batch.map Prod.fst)[p.c]? := by
    rw [List.getElem?_map, List.getElem?_map, hcomponent, h.component]
    exact congrArg some hname
  have hlt : c < (p.batch.map Prod.fst).length := by
    rw [List.length_map]
    exact (List.getElem?_eq_some_iff.mp hcomponent).1
  obtain rfl := (List.getElem?_inj hlt h.distinct).mp hsame
  exact ⟨staging, hlog, ⟨hof, hindex⟩, rfl⟩

theorem statesPlace (h : Progress log t p)
    (hstep : t.persistenceOutcomeUnknown record.evidence = .ok t') : StatesPlace log record := by
  intro hname
  obtain ⟨hphase, htargets, hstage, hflag, -⟩ := t.persistenceOutcomeUnknown_ok _ t' hstep
  simp only [List.mem_cons, not_or] at hphase
  exact ⟨p.b, p.c, h.at_of hname (h.targets htargets), h.prepared hphase.1, hstage, hflag⟩

theorem passesOne (h : Progress log t p)
    (hstep : t.earlyConfirmRecovered record.evidence = .ok t') : PassesOne t.batches log record := by
  intro hname
  obtain ⟨hphase, hstage, hflag, -, b, c, component, hat, hnames, hmore, hstaged, -⟩ :=
    t.earlyConfirmRecovered_ok _ t' hstep
  obtain rfl : p.component = component := by
    obtain rfl : p.b = b := Option.some.inj (h.place.batch.symm.trans hat.batch)
    obtain rfl : p.c = c := Option.some.inj (h.place.index.symm.trans hat.index)
    exact Option.some.inj (h.place.planned.symm.trans hat.planned)
  have hplace := h.targets ⟨b, c, _, hat, hnames⟩
  obtain rfl : p.c = c := Option.some.inj (h.place.index.symm.trans hat.index)
  rw [h.batchLength] at hmore
  have hrecent := h.recent
  rw [Recent, hphase] at hrecent
  obtain ⟨earlier, ambiguity, hlog, hambiguity, hstage', hflag'⟩ := hrecent
  refine ⟨earlier, ambiguity, p.b, p.c, p.batch, hlog, h.at_of hname hplace, hambiguity,
    hstage'.trans hstage, by rw [hflag']; exact hflag, h.batch, hmore, h.uncommitted hmore, ?_⟩
  intro hstated
  cases hlookup : Tracker.lookup p.component.1 t.staged with
  | none =>
    rw [hlookup, Option.getD_none] at hstaged
    -- only `None` is equal to `None`
    cases hvalue : record.evidence.get "staged_file_sha256" <;> rw [hvalue] at hstaged hstated <;>
      simp [differ, Value.pyEq, isNone] at hstaged hstated
  | some digest =>
    obtain ⟨staging, hmem, hat, hdigest⟩ := h.staging_of_lookup hlookup
    refine ⟨staging, hmem, hat, ?_⟩
    rw [hlookup, Option.getD_some] at hstaged
    rw [hdigest]
    simpa [differ] using hstaged

end Progress

/-! ## Results -/

section Sample

end Sample

end Ambiguity

end T2TouchId.Journal.Persistence
