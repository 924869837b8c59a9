/-
  Does the persistence ask for anything that its journal has not announced?

  Problem: between the SEP and the host nothing can be undone.  When a persistence stops, whoever reconciles knows
  only the journal.  So a call must stand behind the record that announces it, for the component that the record
  names; no record may be refused behind a call; and where a record may be lost, nothing more may be called.

  1. **Specification** — `Refusable`: what a journal may refuse; `Raises`: the journal behind each exception;
     `Completes`: the journal behind a result.
  2. **Invariant** — `Place`: the component that the program and the tracker are at; `Going`: the journal is known
     and has this tracker.
  3. **The crux** — one lemma for each block; the tracker behind it is the one that the next block needs.  A resumed
     run starts in the middle of a batch, with files that another run has staged.
  4. **Result** — `run_announced`: in every run, whatever is answered and whatever appends fail, each call is
     announced and no append is refused behind a call; and what is in the journal behind a result or an exception.
-/
import T2TouchId.Enrollment.Persistence
import T2TouchId.Journal.Enrollment.Closing
import T2TouchId.Journal.Enrollment.Persisting
import T2TouchId.Enrollment.Refinement
import T2TouchId.Python.Json.Unique

set_option linter.unusedSectionVars false

namespace T2TouchId.Enrollment.Persistence

open T2TouchId.Calls T2TouchId.Journal T2TouchId.Journal.Enrollment T2TouchId.Journal.Persistence T2TouchId.Python
  T2TouchId.Python.Json

section Order

variable {φ : Type} [JsonFloat φ]

/-! ## Specification -/

/-- What the journal may refuse: a plan, a bio-lockout too short for a blob, and an attestation without a digest. -/
inductive Refusable (t : Tracker φ) : String → Value φ → Prop
  | plan {evidence : Value φ} : t.phase = .notStarted → Refusable t "CATACOMB_PERSISTENCE_PLAN" evidence
  | short {evidence : Value φ} {length : Int} : evidence.get "blob_length" = .int length → length < 16 →
      Refusable t "CATACOMB_SECURE_BLOB_CAPTURED" evidence
  | snapshot {evidence : Value φ} : isSha256 (evidence.get "reconciliation_snapshot_sha256") = false →
      Refusable t "CATACOMB_PERSISTENCE_ATTESTED" evidence

/-- What is known of the journal: its records, if no append was lost. -/
abbrev Known (φ : Type) := Option (List (Value φ))

variable (lower : PyStr → PyStr) (operationId : PyStr)

/-- The contract of the operation: only the marker of an unknown outcome is tried behind a lost append. -/
def order : Contract (Query φ (Journal.Persistence.Command φ))
    (Reply φ (EnrollmentHistory φ) (Journal.Persistence.CommandAnswer φ (ReadbackAttestation φ))) (Known φ) :=
  Journal.Persistence.contract (typedJournal lower) (fun s => s.persistence) operationId Refusable
    ["CATACOMB_PERSISTENCE_OUTCOME_UNKNOWN"]

/-- The journal is known, and the persistence goes on with this tracker. -/
def Going (g : Known φ) (t : Tracker φ) : Prop := ∃ records, g = some records ∧ Holds lower operationId records t

/-- The journal is known, and it has this history. -/
def Reads (g : Known φ) (s : EnrollmentHistory φ) : Prop := ∃ records, g = some records ∧ validateHistory lower records = .ok s

/-- The message of `_freeze`. -/
def stopMessage (stage : String) : String :=
  "Catacomb persistence stopped at " ++ stage ++ "; reconciliation is required"

/-- **The journal behind an exception.** -/
inductive Raises (resumed : Prop) (initial : List (Value φ)) : OperationError φ → Known φ → Prop
  /-- A stopped persistence is frozen, or an append was lost. -/
  | lost {stage : String} : Raises resumed initial (.operation (stopMessage stage)) none
  | frozen {stage : String} {g : Known φ} {s : EnrollmentHistory φ} : Reads lower g s → s.phase = .outcomeUnknown →
      s.persistence.phase = .outcomeUnknown → Raises resumed initial (.operation (stopMessage stage)) g
  /-- Nothing was appended: the components or the plan are not accepted, or the journal is not startable. -/
  | untouched {e : OperationError φ} : Raises resumed initial e (some initial)
  | storage {failure : Failure φ} : Raises resumed initial (.storage failure) none
  | unattested {failure : Failure φ} {g : Known φ} {t : Tracker φ} : Going lower operationId g t →
      t.phase = .attestationReady → Raises resumed initial (.storage failure) g
  /-- The store did not begin a batch: nothing of it was prepared. -/
  | unstaged {g : Known φ} {t : Tracker φ} : Going lower operationId g t → t.phase = .componentReady →
      t.componentIndex = some 0 → Raises resumed initial .call g
  /-- A resumed run did not find a file among those it started with: nothing of its batch is committed. -/
  | missing {g : Known φ} {t : Tracker φ} : resumed → Going lower operationId g t → t.phase = .hostStaged →
      Raises resumed initial .keyError g
  | interrupted {g : Known φ} {t : Tracker φ} : Going lower operationId g t → Raises resumed initial .interrupted g

/-- **The journal behind a result**: it is complete, and the result is its history. -/
def Completes (s : EnrollmentHistory φ) (g : Known φ) : Prop :=
  Reads lower g s ∧ s.phase = .persistenceReady ∧ s.persistence.phase = .complete

/-! ## Appending and calling -/

section Rules

variable {lower operationId} {resumed : Prop} {initial : List (Value φ)} {g : Known φ} {t t' : Tracker φ}
  {milestone : String} {evidence : Value φ} {handler : Tracker φ → Value φ → Check φ (Tracker φ)}
  {err : OperationError φ → Unit → Known φ → Prop}

/-- **A milestone that the tracker takes.** -/
theorem append_meets (h : Going lower operationId g t) (hmem : (milestone, handler) ∈ Tracker.handlers)
    (hstep : handler t evidence = .ok t') {ok : EnrollmentHistory φ → Unit → Known φ → Prop}
    (hok : ∀ s g', Reads lower g' s → Journal.Enrollment.Behind s t' → (t'.phase ∉ settled → Going lower operationId g' t') →
      ok s () g')
    (hlost : ∀ failure, err (.storage failure) () none) :
    Op.Meets (order lower operationId) (append milestone evidence) () g ok err := by
  obtain ⟨records, rfl, hholds⟩ := h
  refine Op.Meets.bind (carrier.append_meets hholds hmem hstep (fun s records' hvalid hbehind hgoes => ?_)
    fun failure => ?_)
  · exact Op.Meets.pure (hok s _ ⟨records', rfl, hvalid⟩ hbehind fun hphase => ⟨records', rfl, hgoes hphase⟩)
  · exact Op.Meets.raise (hlost failure)

/-- A milestone behind which the persistence goes on. -/
theorem append_goes (h : Going lower operationId g t) (hmem : (milestone, handler) ∈ Tracker.handlers)
    (hstep : handler t evidence = .ok t') (hphase : t'.phase ∉ settled)
    {ok : EnrollmentHistory φ → Unit → Known φ → Prop} (hok : ∀ s g', Going lower operationId g' t' → ok s () g')
    (hlost : ∀ failure, err (.storage failure) () none) :
    Op.Meets (order lower operationId) (append milestone evidence) () g ok err :=
  append_meets h hmem hstep (fun s g' _ _ hgoes => hok s g' (hgoes hphase)) hlost

/-- A milestone that the journal refuses. -/
theorem append_refused (h : Going lower operationId g t) (hmem : (milestone, handler) ∈ Tracker.handlers)
    (hrefused : ∀ t', handler t evidence ≠ .ok t') (hrefusable : Refusable t milestone evidence)
    {ok : EnrollmentHistory φ → Unit → Known φ → Prop} (hfailed : ∀ failure, err (.storage failure) () g) :
    Op.Meets (order lower operationId) (append milestone evidence) () g ok err := by
  obtain ⟨records, rfl, hholds⟩ := h
  refine Op.Meets.bind (carrier.append_refused hholds hmem hrefused hrefusable fun failure => ?_)
  exact Op.Meets.raise (hfailed failure)

/-- **A call that the last record announces.** -/
theorem call_meets {α : Type} {command : Journal.Persistence.Command φ}
    (reaction : Journal.Persistence.CommandAnswer φ (ReadbackAttestation φ) command → Reaction α) (h : Going lower operationId g t)
    (hannounces : Announces t command) {ok : α → Unit → Known φ → Prop} (hok : ∀ a, ok a () g)
    (hraised : err .call () g) (hinterrupted : err .interrupted () g) :
    Op.Meets (order lower operationId) (Client.call command >>= fun answer => answered (reaction answer)) () g ok err := by
  obtain ⟨records, rfl, hholds⟩ := h
  refine Op.Meets.bind (carrier.call_meets hholds hannounces fun answer => ?_)
  cases reaction answer with
  | raised => exact Op.Meets.raise hraised
  | interrupted => exact Op.Meets.raise hinterrupted
  | returned a => exact Op.Meets.pure (hok a)

variable (lower operationId) in
/-- What a block may leave to its handler: the tracker that it started with, or an append that was lost. -/
def Handled (t : Tracker φ) (e : OperationError φ) (_ : Unit) (g : Known φ) : Prop :=
  Going lower operationId g t ∨ e ≠ .interrupted ∧ g = none

variable {generation : Value φ} {b c : Nat} {component : Component} {stage reason : String} {hostCommitPossible : Bool}

/-- The stages and reasons with which the operation stops. -/
def stopStages : List String :=
  ["prepare", "complete", "encode", "host-stage", "early-confirm", "host-commit", "final-confirm", "readback"]
def stopReasons : List String := ["transport-error", "journal-error", "codec-error", "host-store-error", "readback-error"]

/-- **A persistence that stops** is frozen, as long as its journal is known. -/
theorem freeze_meets {α : Type} (h : Going lower operationId g t) (hhere : t.Here generation b c component)
    (hphase : t.phase ∉ [PersistencePhase.componentReady, .complete, .outcomeUnknown]) (hstage : stage ∈ stopStages)
    (hreason : reason ∈ stopReasons) {ok : α → Unit → Known φ → Prop} :
    Op.Meets (order lower operationId) (freeze (some (Tracker.reference generation b c component)) stage reason
      hostCommitPossible) () g ok fun e _ => Raises lower operationId resumed initial e := by
  obtain ⟨records, rfl, hholds⟩ := h
  have hstep := @Tracker.persistenceOutcomeUnknown_accepts _ _ _ _ _ _ _ hhere hphase _ _ hstage hreason hostCommitPossible
  refine Op.Meets.bind (carrier.append_meets hholds (List.mem_of_getElem? (show Tracker.handlers[0]? = some _ from rfl))
    hstep (fun s records' hvalid hbehind _ => ?_) fun failure => ?_)
  · exact Op.Meets.raise (.frozen ⟨records', rfl, hvalid⟩ (by rw [hbehind.2]; rfl) (by rw [hbehind.1]))
  · exact Op.Meets.raise .lost

theorem freeze_lost {α : Type} {reference : Reference φ} {ok : α → Unit → Known φ → Prop} :
    Op.Meets (order lower operationId) (freeze (some reference) stage reason hostCommitPossible) () none ok
      fun e _ => Raises lower operationId resumed initial e :=
  Op.Meets.bind (append_lost List.mem_cons_self fun _ => Op.Meets.raise .lost)

/-- **A block under a handler that freezes.** -/
theorem orFreeze_meets {α : Type} {block : Method φ α} (hhere : t.Here generation b c component)
    (hphase : t.phase ∉ [PersistencePhase.componentReady, .complete, .outcomeUnknown]) (hstage : stage ∈ stopStages)
    (hreason : reason ∈ stopReasons) {ok : α → Unit → Known φ → Prop}
    (h : Op.Meets (order lower operationId) block () g ok (Handled lower operationId t)) :
    Op.Meets (order lower operationId) (orFreeze block (some (Tracker.reference generation b c component)) stage reason
      hostCommitPossible) () g ok fun e _ => Raises lower operationId resumed initial e := by
  refine Op.Meets.except (h.mono (fun _ _ _ => id) fun e _ g' hhandled => ?_)
  have hfreeze : e ≠ .interrupted → Op.Meets (order lower operationId) (freeze (some (Tracker.reference generation b c
      component)) stage reason hostCommitPossible) () g' ok fun e _ => Raises lower operationId resumed initial e := by
    intro _
    rcases hhandled with hgoing | ⟨-, rfl⟩
    · exact freeze_meets hgoing hhere hphase hstage hreason
    · exact freeze_lost
  cases e with
  | interrupted =>
    rcases hhandled with hgoing | ⟨hne, -⟩
    · exact Op.Meets.raise (.interrupted hgoing)
    · exact absurd rfl hne
  | _ => exact hfreeze (by simp)

end Rules

/-! ## One component -/

section Components

variable {lower operationId} {resumed : Prop} {initial : List (Value φ)} {g : Known φ} {t : Tracker φ}
  {history : EnrollmentHistory φ} {b c : Nat} {batch : List ComponentSpec} {component : ComponentSpec}

variable (history) in
/-- The program and the tracker are at the same component of the same batch. -/
structure Place (t : Tracker φ) (b c : Nat) (batch : List ComponentSpec) : Prop where
  sameConnection : t.connectionGeneration = history.persistenceConnectionGeneration
  batchIndex : t.batchIndex = some b
  componentIndex : t.componentIndex = some c
  planned : t.batches.getD b [] = batch.map (·.planned)
  uuid : isUuid history.persistenceConnectionGeneration = true
  early : b < 2
  short : batch.length ≤ 2

/-- The journal is at the component that the program names. -/
theorem Place.here (h : Place history t b c batch) (hcomponent : batch[c]? = some component) :
    t.Here history.persistenceConnectionGeneration b c component.planned := by
  have hearly := h.early
  have hshort := h.short
  obtain ⟨hindex, -⟩ := List.getElem?_eq_some_iff.mp hcomponent
  refine ⟨⟨h.batchIndex, h.componentIndex, ?_⟩, h.sameConnection, h.uuid, by omega, by omega⟩
  rw [h.planned, List.getElem?_map, hcomponent]
  rfl

/-- The tracker stays at its component, whatever it captures. -/
theorem Place.moves (h : Place history t b c batch) (phase : PersistencePhase) (captured : Value φ) (expected : Int)
    (staged : Staged φ) :
    Place history { t with phase, capturedBlobSha256 := captured, expectedBlobLength := expected, staged } b c batch :=
  ⟨h.sameConnection, h.batchIndex, h.componentIndex, h.planned, h.uuid, h.early, h.short⟩

/-- The names of the batch. -/
theorem Place.names (h : Place history t b c batch) : namesOf t b = batch.map (·.name) := by
  rw [namesOf, h.planned, List.map_map]
  rfl

/-- Is it the last component of its batch? -/
theorem Place.finalComponent (h : Place history t b c batch) : t.finalComponent = decide (c + 1 = batch.length) := by
  have hlength : t.batchLength = batch.length := by
    rw [Tracker.batchLength, h.batchIndex, Option.getD_some, h.planned, List.length_map]
  show decide (t.componentIndex.getD 0 + 1 = t.batchLength) = _
  rw [h.componentIndex, hlength]
  rfl

/-- The descriptor of the component is the one that the journal has the digest of. -/
theorem atDescriptor {generation : Value φ} (h : t.Here generation b c component.planned) :
    AtDescriptor t component.descriptor :=
  ⟨b, c, component.name, h.toAt⟩

theorem isIntIn_ok {low high : Int} {value : Value φ} (h : isIntIn low high value = true) :
    ∃ n, value = .int n ∧ low ≤ n ∧ n ≤ high := by
  cases value with
  | int n =>
    simp only [isIntIn, Bool.and_eq_true, decide_eq_true_eq] at h
    exact ⟨n, rfl, h⟩
  | _ => cases h

/-- A status that passes is zero. -/
theorem isIntIn_zero {value : Value φ} (h : isIntIn 0 0 value = true) : value = .int 0 := by
  obtain ⟨n, rfl, hlow, hhigh⟩ := isIntIn_ok h
  rw [show n = 0 by omega]

/-- **Prepared**: the length that the SEP announces is in the journal. -/
theorem prepareComponent_meets (h : Going lower operationId g t) (hplace : Place history t b c batch)
    (hcomponent : batch[c]? = some component) (hphase : t.phase = .componentReady) :
    Op.Meets (order lower operationId) (prepareComponent (referenceOf history b c component) component) () g
      (fun expected _ g' => 0 < expected ∧ expected ≤ 1024 * 1024 ∧
        Going lower operationId g' { t with expectedBlobLength := expected, phase := .prepared })
      fun e _ => Raises lower operationId resumed initial e := by
  have hhere := hplace.here hcomponent
  have hhere' := hhere.withPhase .prepareIntent t.capturedBlobSha256 t.expectedBlobLength t.staged
  refine Op.Meets.bind (append_goes h (List.mem_of_getElem? (show Tracker.handlers[1]? = some _ from rfl))
    (Tracker.prepareIntent_accepts hhere hphase) (by simp [settled]) (fun _ g1 h1 => ?_) fun _ => .storage)
  refine Op.Meets.bind (orFreeze_meets hhere' (by simp) (by simp [stopStages]) (by simp [stopReasons])
    (call_meets (fun answer => answer) h1 (.prepare rfl (atDescriptor hhere')) ?_ (.inl h1) (.inl h1)))
  rintro ⟨status, expectedBlobLength⟩
  dsimp only
  by_cases hanswer : isIntIn 0 0 status = true ∧ isIntIn 1 (1024 * 1024) expectedBlobLength = true
  · rw [if_neg (not_not.mpr hanswer)]
    obtain rfl := isIntIn_zero hanswer.1
    obtain ⟨expected, rfl, hlow, hhigh⟩ := isIntIn_ok hanswer.2
    refine Op.Meets.bind (orFreeze_meets hhere' (by simp) (by simp [stopStages]) (by simp [stopReasons])
      (append_goes h1 (List.mem_of_getElem? (show Tracker.handlers[2]? = some _ from rfl))
        (Tracker.prepared_accepts hhere' rfl (by omega) hhigh) (by simp [settled]) (fun _ g2 h2 => ?_)
        fun _ => .inr ⟨by simp, rfl⟩))
    exact Op.Meets.pure ⟨by show 0 < expected; omega, hhigh, h2⟩
  · rw [if_pos hanswer]
    exact Op.Meets.bind (freeze_meets h1 hhere' (by simp) (by simp [stopStages]) (by simp [stopReasons]))

/-- **Completed**: the digest of the blob is in the journal. -/
theorem completeComponent_meets (h : Going lower operationId g t) (hplace : Place history t b c batch)
    (hcomponent : batch[c]? = some component) (hphase : t.phase = .prepared) {expected : Int}
    (hexpected : t.expectedBlobLength = expected) (hhigh : expected ≤ 1024 * 1024) :
    Op.Meets (order lower operationId) (completeComponent (referenceOf history b c component) component expected) () g
      (fun captured _ g' => captured.2 = py (sha256 captured.1).hex ∧
        Going lower operationId g' { t with capturedBlobSha256 := .str captured.2, phase := .secureBlobCaptured })
      fun e _ => Raises lower operationId resumed initial e := by
  have hhere := hplace.here hcomponent
  have hhere' := hhere.withPhase .completeIntent t.capturedBlobSha256 t.expectedBlobLength t.staged
  refine Op.Meets.bind (append_goes h (List.mem_of_getElem? (show Tracker.handlers[3]? = some _ from rfl))
    (Tracker.completeIntent_accepts hhere hphase) (by simp [settled]) (fun _ g1 h1 => ?_) fun _ => .storage)
  have hfreeze : ∀ {α : Type} {ok : α → Unit → Known φ → Prop}, Op.Meets (order lower operationId)
      (freeze (some (referenceOf history b c component)) "complete" "transport-error" false) () g1 ok
      fun e _ => Raises lower operationId resumed initial e :=
    freeze_meets h1 hhere' (by simp) (by simp [stopStages]) (by simp [stopReasons])
  refine Op.Meets.bind (orFreeze_meets hhere' (by simp) (by simp [stopStages]) (by simp [stopReasons])
    (call_meets (fun answer => answer) h1 (.complete rfl (atDescriptor hhere')) ?_ (.inl h1) (.inl h1)))
  rintro ⟨status, secureBlob⟩
  cases secureBlob with
  | none => exact hfreeze
  | some secureBlob =>
    dsimp only
    by_cases hanswer : isIntIn 0 0 status = true ∧ secureBlob ≠ [] ∧
        lengthFits component.name secureBlob.length expected = true
    · rw [if_neg (not_not.mpr hanswer)]
      obtain rfl := isIntIn_zero hanswer.1
      have hfits := hanswer.2.2
      refine Op.Meets.bind (orFreeze_meets hhere' (by simp) (by simp [stopStages]) (by simp [stopReasons]) ?_)
      have hlength : (secureBlob.length : Int) ≤ expected := by
        unfold lengthFits at hfits
        split at hfits
        · exact of_decide_eq_true hfits
        · exact (of_decide_eq_true hfits).le
      by_cases hblob : Tracker.BlobFits component.name secureBlob.length t.expectedBlobLength
      · refine append_goes h1 (List.mem_of_getElem? (show Tracker.handlers[4]? = some _ from rfl))
          (Tracker.secureBlobCaptured_accepts hhere' rfl (by omega) (by omega) (isSha256_hash _) hblob)
          (by simp [settled]) (fun _ g2 h2 => ?_) fun _ => .inr ⟨by simp, rfl⟩
        exact Op.Meets.pure ⟨rfl, h2⟩
      · -- the bio-lockout is shorter than a blob can be
        have hshort : (secureBlob.length : Int) < 16 := by
          unfold Tracker.BlobFits at hblob
          unfold lengthFits at hfits
          by_cases hname : component.name = py "biolockout.cat"
          · rw [if_pos hname] at hblob
            omega
          · rw [if_neg hname] at hblob hfits
            have heq := of_decide_eq_true hfits
            omega
        have hget : (members (referenceOf history b c component ++ [("status", .int 0),
            ("blob_length", .int secureBlob.length), ("secure_blob_sha256", .str (py (sha256 secureBlob).hex))])).get
            "blob_length" = .int secureBlob.length :=
          Tracker.Here.get_extra (by simp [Tracker.reference]) rfl
        refine append_refused h1 (List.mem_of_getElem? (show Tracker.handlers[4]? = some _ from rfl))
          (fun t' hstep => ?_) (.short hget hshort) fun _ => .inl h1
        obtain ⟨-, -, ⟨length, hlength, hfound⟩, -⟩ := Tracker.secureBlobCaptured_ok _ _ t' hstep
        rw [hget] at hlength
        rw [referenceOf, Tracker.names_reference.name, ← Value.int.inj hlength] at hfound
        exact hblob hfound
    · rw [if_pos hanswer]
      exact Op.Meets.bind hfreeze

/-- **Staged**: the digest of the file is in the journal. -/
theorem stageComponent_meets (h : Going lower operationId g t) (hplace : Place history t b c batch)
    (hcomponent : batch[c]? = some component) (hphase : t.phase = .secureBlobCaptured) {secureBlob : Bytes}
    (hcaptured : t.capturedBlobSha256 = .str (py (sha256 secureBlob).hex)) :
    Op.Meets (order lower operationId) (stageComponent (referenceOf history b c component) component (batch.map (·.name))
        secureBlob (py (sha256 secureBlob).hex)) () g
      (fun digest _ g' => isSha256 digest = true ∧
        Going lower operationId g' { t with staged := Tracker.stage component.name digest t.staged, phase := .hostStaged })
      fun e _ => Raises lower operationId resumed initial e := by
  have hhere := hplace.here hcomponent
  have hfreezes : t.phase ∉ [PersistencePhase.componentReady, .complete, .outcomeUnknown] := by simp [hphase]
  have hencode : Announces t (.encode component.name secureBlob) := .encode hphase hhere.toAt hcaptured
  have hstage : ∀ encoded, Announces t (.stageComponent component.name encoded (batch.map (·.name))) := by
    intro encoded
    rw [← hplace.names]
    exact .stageComponent hphase hhere.toAt
  refine Op.Meets.bind (orFreeze_meets hhere hfreezes (by simp [stopStages]) (by simp [stopReasons])
    (call_meets (fun answer => answer) h hencode ?_ (.inl h) (.inl h)))
  intro encoded
  cases encoded with
  | none => exact freeze_meets h hhere hfreezes (by simp [stopStages]) (by simp [stopReasons])
  | some encoded =>
    dsimp only
    by_cases hencoded : encoded = []
    · rw [if_pos hencoded]
      exact Op.Meets.bind (freeze_meets h hhere hfreezes (by simp [stopStages]) (by simp [stopReasons]))
    rw [if_neg hencoded]
    refine Op.Meets.bind (orFreeze_meets hhere hfreezes (by simp [stopStages]) (by simp [stopReasons])
      (call_meets (fun answer => answer) h (hstage encoded) ?_ (.inl h) (.inl h)))
    intro digest
    by_cases hdigest : digest.isStr (py (sha256 encoded).hex) = true
    · rw [if_neg (not_not.mpr hdigest)]
      obtain rfl := isStr_iff.mp hdigest
      refine Op.Meets.bind (orFreeze_meets hhere hfreezes (by simp [stopStages]) (by simp [stopReasons])
        (append_goes h (List.mem_of_getElem? (show Tracker.handlers[5]? = some _ from rfl))
          (Tracker.hostStaged_accepts hhere hphase (isSha256_hash _) (isSha256_hash _) hcaptured) (by simp [settled])
          (fun _ g1 h1 => ?_) fun _ => .inr ⟨by simp, rfl⟩))
      exact Op.Meets.pure ⟨isSha256_hash _, h1⟩
    · rw [if_pos hdigest]
      exact Op.Meets.bind (freeze_meets h hhere hfreezes (by simp [stopStages]) (by simp [stopReasons]))

/-- **Confirmed** within a batch: the tracker is at the next component. -/
theorem confirmEarly_meets (h : Going lower operationId g t) (hplace : Place history t b c batch)
    (hcomponent : batch[c]? = some component) (hphase : t.phase = .hostStaged) (hmore : c + 1 < batch.length) :
    Op.Meets (order lower operationId) (confirmEarly (referenceOf history b c component) component) () g
      (fun _ _ g' => Going lower operationId g'
        { t with
          componentIndex := some (c + 1), capturedBlobSha256 := .none, expectedBlobLength := 0,
          phase := .componentReady })
      fun e _ => Raises lower operationId resumed initial e := by
  have hhere := hplace.here hcomponent
  have hhere' := hhere.withPhase .confirmIntent t.capturedBlobSha256 t.expectedBlobLength t.staged
  have hfinal : t.finalComponent = false := by
    rw [hplace.finalComponent]
    exact decide_eq_false (by omega)
  refine Op.Meets.bind (append_goes h (List.mem_of_getElem? (show Tracker.handlers[6]? = some _ from rfl))
    (Tracker.confirmIntent_accepts hhere hphase hfinal) (by simp [settled]) (fun _ g1 h1 => ?_) fun _ => .storage)
  refine Op.Meets.bind (orFreeze_meets hhere' (by simp) (by simp [stopStages]) (by simp [stopReasons])
    (call_meets (fun answer => answer) h1 (.confirm (.inl rfl) (atDescriptor hhere')) ?_ (.inl h1) (.inl h1)))
  intro status
  dsimp only
  by_cases hstatus : isIntIn 0 0 status = true
  · rw [if_neg (not_not.mpr hstatus)]
    obtain rfl := isIntIn_zero hstatus
    refine Op.Meets.bind (orFreeze_meets hhere' (by simp) (by simp [stopStages]) (by simp [stopReasons])
      (append_goes h1 (List.mem_of_getElem? (show Tracker.handlers[7]? = some _ from rfl))
        (Tracker.confirmed_accepts hhere' rfl) (by simp [settled]) (fun _ g2 h2 => ?_) fun _ => .inr ⟨by simp, rfl⟩))
    exact Op.Meets.pure h2
  · rw [if_pos hstatus]
    exact Op.Meets.bind (freeze_meets h1 hhere' (by simp) (by simp [stopStages]) (by simp [stopReasons]))

/-! ### The components of a batch -/

variable (resumed history) in
/-- The files that are staged, of the first components of the batch at least. -/
structure Staging (t : Tracker φ) (b c : Nat) (batch : List ComponentSpec) (count : Nat) (staged : Staged φ) : Prop
    extends Place history t b c batch where
  same : t.staged = staged
  digests : ∀ file ∈ staged, isSha256 file.2 = true
  covers : resumed ∨ ∀ component ∈ batch.take count, component.name ∈ staged.map Prod.fst

theorem mem_stage {name other : PyStr} {digest : Value φ} {staged : Staged φ} :
    other ∈ (Tracker.stage name digest staged).map Prod.fst ↔ other = name ∨ other ∈ staged.map Prod.fst := by
  simp only [Tracker.stage, List.map_cons, List.mem_cons, List.mem_map, List.mem_filter]
  constructor
  · rintro (rfl | ⟨file, ⟨hfile, -⟩, rfl⟩)
    · exact .inl rfl
    · exact .inr ⟨file, hfile, rfl⟩
  · rintro (rfl | ⟨file, hfile, rfl⟩)
    · exact .inl rfl
    · by_cases hname : file.1 = name
      · exact .inl hname
      · exact .inr ⟨file, ⟨hfile, decide_eq_true hname⟩, rfl⟩

/-- One more file, whatever was captured for it. -/
theorem Staging.stage {staged : Staged φ} {digest : Value φ} (h : Staging resumed history t b c batch c staged)
    (hcomponent : batch[c]? = some component) (hdigest : isSha256 digest = true) (phase : PersistencePhase)
    (captured : Value φ) (expected : Int) :
    Staging resumed history
      { t with
        capturedBlobSha256 := captured, expectedBlobLength := expected, phase,
        staged := Tracker.stage component.name digest t.staged }
      b c batch (c + 1) (Tracker.stage component.name digest staged) := by
  refine ⟨h.toPlace.moves phase captured expected _, ?_, ?_, ?_⟩
  · show Tracker.stage component.name digest t.staged = _
    rw [h.same]
  · refine List.forall_mem_cons.mpr ⟨hdigest, fun file hfile => h.digests file (List.mem_of_mem_filter hfile)⟩
  · rcases h.covers with hresumed | hcovers
    · exact .inl hresumed
    · refine .inr fun other hother => mem_stage.mpr ?_
      rw [List.take_add_one, hcomponent] at hother
      rcases List.mem_append.mp hother with hother | hother
      · exact .inr (hcovers other hother)
      · rw [List.mem_singleton.mp hother]
        exact .inl rfl

/-- **The components that are left**, by induction on them: each is prepared, completed, and staged, and all but the
    last one confirmed. -/
theorem persistComponents_meets : ∀ (rest : List ComponentSpec) (c : Nat) (staged : Staged φ)
    (finalReference : Option (Reference φ)) (g : Known φ) (t : Tracker φ), batch.drop c = rest → rest ≠ [] →
    Going lower operationId g t → t.phase = .componentReady → Staging resumed history t b c batch c staged →
    Op.Meets (order lower operationId) (persistComponents history b batch c rest staged finalReference) () g
      (fun found _ g' => ∃ t' last, batch[batch.length - 1]? = some last ∧ Going lower operationId g' t' ∧
        t'.phase = .hostStaged ∧ t'.batches = t.batches ∧
        Staging resumed history t' b (batch.length - 1) batch batch.length found.1 ∧
        found.2 = some (referenceOf history b (batch.length - 1) last))
      fun e _ => Raises lower operationId resumed initial e := by
  intro rest
  induction rest with
  | nil => exact fun _ _ _ _ _ _ hne => absurd rfl hne
  | cons component rest ih =>
    intro c staged finalReference g t hrest _ h hphase hstaging
    have hcomponent : batch[c]? = some component := by
      rw [← List.head?_drop, hrest]
      rfl
    have hrest : batch.drop (c + 1) = rest := by
      rw [← List.tail_drop, hrest]
      rfl
    have hplace := hstaging.toPlace
    rw [persistComponents]
    refine Op.Meets.seq (prepareComponent_meets h hplace hcomponent hphase) ?_
    rintro expected - g1 ⟨hlow, hhigh, h1⟩
    have hprepared := hplace.moves .prepared t.capturedBlobSha256 expected t.staged
    refine Op.Meets.seq (completeComponent_meets h1 hprepared hcomponent rfl rfl hhigh) ?_
    rintro ⟨secureBlob, blobSha256⟩ - g2 ⟨hblob, h2⟩
    dsimp only at hblob h2 ⊢
    subst hblob
    have hcaptured := hplace.moves .secureBlobCaptured (.str (py (sha256 secureBlob).hex)) expected t.staged
    refine Op.Meets.seq (stageComponent_meets h2 hcaptured hcomponent rfl rfl) ?_
    rintro digest - g3 ⟨hdigest, h3⟩
    have hstaged := hstaging.stage hcomponent hdigest .hostStaged (.str (py (sha256 secureBlob).hex)) expected
    by_cases hmore : c + 1 < batch.length
    · -- it is confirmed, and the next one begins
      rw [if_pos hmore]
      refine Op.Meets.seq (confirmEarly_meets h3 hstaged.toPlace hcomponent rfl hmore) ?_
      rintro - - g4 h4
      have hleft : rest ≠ [] := by
        rw [← hrest]
        intro hnone
        have := List.drop_eq_nil_iff.mp hnone
        omega
      refine (ih (c + 1) _ _ g4 _ hrest hleft h4 rfl ⟨⟨hplace.sameConnection, hplace.batchIndex, rfl, hplace.planned,
        hplace.uuid, hplace.early, hplace.short⟩, hstaged.same, hstaged.digests, hstaged.covers⟩).mono ?_
        fun _ _ _ => id
      rintro found - g5 ⟨t', last, hlast, h5, hphase', hbatches, hfound⟩
      exact ⟨t', last, hlast, h5, hphase', hbatches, hfound⟩
    · -- it is the last one
      rw [if_neg hmore]
      obtain ⟨hindex, -⟩ := List.getElem?_eq_some_iff.mp hcomponent
      obtain rfl : c = batch.length - 1 := by omega
      obtain rfl : rest = [] := by
        rw [← hrest]
        exact List.drop_eq_nil_iff.mpr (by omega)
      rw [show batch.length - 1 + 1 = batch.length by omega] at hstaged
      exact Op.Meets.pure ⟨_, component, hcomponent, h3, rfl, rfl, hstaged, rfl⟩

/-! ### The files of a batch -/

theorem missing_of_lookup {name : PyStr} {staged : Staged φ} (h : Tracker.lookup name staged = none) :
    name ∉ staged.map Prod.fst := by
  intro hmem
  obtain ⟨file, hfile, rfl⟩ := List.mem_map.mp hmem
  rw [Tracker.lookup, Option.map_eq_none_iff] at h
  exact absurd (decide_eq_true rfl) (List.find?_eq_none.mp h file hfile)

theorem digest_of_lookup {name : PyStr} {staged : Staged φ} {digest : Value φ}
    (hdigests : ∀ file ∈ staged, isSha256 file.2 = true) (h : Tracker.lookup name staged = some digest) :
    isSha256 digest = true := by
  rw [Tracker.lookup, Option.map_eq_some_iff] at h
  obtain ⟨file, hfile, rfl⟩ := h
  exact hdigests file (List.mem_of_find?_eq_some hfile)

/-- The rows of a batch: a digest for each component, or one of them is not staged. -/
theorem stagedRows_cases (staged : Staged φ) (batch : List ComponentSpec) :
    (∃ files, stagedRows staged batch = .ok files ∧ files.map Prod.fst = batch.map (·.name) ∧
      ∀ file ∈ files, Tracker.lookup file.1 staged = some file.2) ∨
    stagedRows staged batch = .error .keyError ∧ ∃ component ∈ batch, component.name ∉ staged.map Prod.fst := by
  induction batch with
  | nil => exact .inl ⟨[], rfl, rfl, List.forall_mem_nil _⟩
  | cons component batch ih =>
    cases hlookup : Tracker.lookup component.name staged with
    | none =>
      refine .inr ⟨?_, component, List.mem_cons_self, missing_of_lookup hlookup⟩
      simp only [stagedRows, List.mapM_cons, hlookup]
      rfl
    | some digest =>
      rcases ih with ⟨files, hok, hnames, hfiles⟩ | ⟨herror, other, hother, hmissing⟩
      · refine .inl ⟨(component.name, digest) :: files, ?_, ?_, List.forall_mem_cons.mpr ⟨hlookup, hfiles⟩⟩
        · unfold stagedRows at hok ⊢
          rw [List.mapM_cons, hlookup, hok]
          rfl
        · rw [List.map_cons, List.map_cons, hnames]
      · refine .inr ⟨?_, other, List.mem_cons_of_mem _ hother, hmissing⟩
        unfold stagedRows at herror ⊢
        rw [List.mapM_cons, hlookup, herror]
        rfl

/-- Files with digests have a canonical text. -/
theorem dumps_fileRows {files : List (PyStr × Value φ)} (h : ∀ file ∈ files, isSha256 file.2 = true) :
    ∃ text, dumps (.list (files.map Tracker.fileRow)) = some text := by
  have hrow : ∀ row ∈ files.map Tracker.fileRow, (dumps row).isSome = true := by
    intro row hrow
    obtain ⟨file, hfile, rfl⟩ := List.mem_map.mp hrow
    have hdigest := h file hfile
    cases hvalue : file.2 with
    | str digest =>
      have hkeys : StringKeys (Value.insertItem (py "final_file_sha256") (.str digest)
          (Value.insertItem (py "name") (.str file.1) ([] : List (Key φ × Value φ)))) :=
        stringKeys_insertItem (stringKeys_insertItem (List.forall_mem_nil _))
      have hdict : Tracker.fileRow file = .dict (Value.insertItem (py "final_file_sha256") (.str digest)
          (Value.insertItem (py "name") (.str file.1) ([] : List (Key φ × Value φ)))) := by
        simp only [Tracker.fileRow, hvalue, Value.ofItems, List.foldl_cons, List.foldl_nil]
      rw [hdict, dumps_dict_str hkeys, Option.isSome_map, dumpsMembers_isSome]
      intro item hitem
      rcases mem_insertItem hitem with rfl | hitem
      · exact ⟨rfl, rfl⟩
      · rcases mem_insertItem hitem with rfl | hitem
        · exact ⟨rfl, rfl⟩
        · exact absurd hitem List.not_mem_nil
    | _ =>
      rw [hvalue] at hdigest
      cases hdigest
  obtain ⟨text, htext⟩ := Option.isSome_iff_exists.mp ((dumpsElements_isSome _).mpr hrow)
  refine ⟨openBracket :: text, ?_⟩
  rw [dumps, htext]
  rfl

/-- **The snapshot of a batch** is what the tracker computes, or a component is not staged. -/
theorem stagedSnapshot_cases {staged : Staged φ} (hdigests : ∀ file ∈ staged, isSha256 file.2 = true)
    (batch : List ComponentSpec) :
    (∃ (files : Staged φ) (snapshot : PyStr), stagedSnapshotSha256 staged batch = .ok snapshot ∧
      files.map Prod.fst = batch.map (·.name) ∧ (∀ file ∈ files, Tracker.lookup file.1 staged = some file.2) ∧
      Tracker.snapshotHash (.list (files.map Tracker.fileRow)) = .ok snapshot ∧
      isSha256 (.str snapshot : Value φ) = true) ∨
    stagedSnapshotSha256 staged batch = .error .keyError ∧
      ∃ component ∈ batch, component.name ∉ staged.map Prod.fst := by
  rcases stagedRows_cases staged batch with ⟨files, hok, hnames, hfiles⟩ | ⟨herror, hmissing⟩
  · obtain ⟨text, htext⟩ := dumps_fileRows fun file hfile => digest_of_lookup hdigests (hfiles file hfile)
    refine .inl ⟨files, py (sha256 (asciiBytes text)).hex, ?_, hnames, hfiles, ?_, isSha256_hash _⟩
    · simp only [stagedSnapshotSha256, hok, bind, Except.bind, htext]
    · simp only [Tracker.snapshotHash, htext]
  · refine .inr ⟨?_, hmissing⟩
    simp only [stagedSnapshotSha256, herror, bind, Except.bind]

/-! ## Batches -/

/-- An attestation that the tracker takes has a digest. -/
theorem attested_digest (t : Tracker φ) (value : Value φ) : Returns (t.persistenceAttested value) fun _ =>
    isSha256 (value.get "reconciliation_snapshot_sha256") = true := by
  refine .skip fun _ => .skip fun _ => .skip fun _ => .skip fun _ => .skip fun _ => .seq fun hdigest => .const ?_
  exact requireSha256_eq_ok.mp hdigest

/-- The tracker behind the last component of a batch. -/
def behindBatch (t : Tracker φ) (b : Nat) : Tracker φ :=
  if b + 1 < t.batches.length then
    { t with
      capturedBlobSha256 := .none, expectedBlobLength := 0, batchIndex := some (b + 1), componentIndex := some 0,
      staged := [], phase := .componentReady }
  else { t with capturedBlobSha256 := .none, expectedBlobLength := 0, phase := .attestationReady }

/-- **Committed**: the tracker is at the next batch, or the attestation is left. -/
theorem commitBatch_meets (h : Going lower operationId g t) {last : ComponentSpec} {staged : Staged φ}
    (hlast : batch[batch.length - 1]? = some last) (hphase : t.phase = .hostStaged)
    (hstaging : Staging resumed history t b (batch.length - 1) batch batch.length staged) :
    Op.Meets (order lower operationId) (commitBatch history b batch staged
        (some (referenceOf history b (batch.length - 1) last))) () g
      (fun _ _ g' => Going lower operationId g' (behindBatch t b))
      fun e _ => Raises lower operationId resumed initial e := by
  have hhere := hstaging.toPlace.here hlast
  have hcommit := hhere.withPhase .batchCommitIntent t.capturedBlobSha256 t.expectedBlobLength t.staged
  have hcommitted := hhere.withPhase .batchCommitted t.capturedBlobSha256 t.expectedBlobLength t.staged
  have hconfirm := hhere.withPhase .finalConfirmIntent t.capturedBlobSha256 t.expectedBlobLength t.staged
  have hfinal : t.finalComponent = true := by
    obtain ⟨hindex, -⟩ := List.getElem?_eq_some_iff.mp hlast
    rw [hstaging.toPlace.finalComponent]
    exact decide_eq_true (by omega)
  have hgetLast : batch.getLast? = some last := List.getLast?_eq_getElem?.trans hlast
  rw [commitBatch]
  simp only [hgetLast, Option.map_some, Option.getD_some]
  refine Op.Meets.bind (Op.Meets.lift (fun snapshot hsnapshot => ?_) fun e he => ?_)
  · rcases stagedSnapshot_cases hstaging.digests batch with ⟨files, found, hok, hnames, hfiles, hhash, hsha⟩ | ⟨herror, -⟩
    · obtain rfl : found = snapshot := Except.ok.inj (hok.symm.trans hsnapshot)
      have hrows : files.map Prod.fst = (t.batches.getD b []).map Prod.fst := hnames.trans hstaging.toPlace.names.symm
      have hstaged : ∀ file ∈ files, Tracker.lookup file.1 t.staged = some file.2 := by
        rw [hstaging.same]
        exact hfiles
      have hcross : Announces { t with phase := .batchCommitIntent } (.crossCommitBoundary staged) := by
        rw [← hstaging.same]
        exact .crossCommitBoundary rfl
      refine Op.Meets.bind (append_goes h (List.mem_of_getElem? (show Tracker.handlers[8]? = some _ from rfl))
        (Tracker.hostBatchCommitIntent_accepts hphase hfinal
          (Tracker.batchEvidence_accepts hhere hrows hstaged hhash hsha)) (by simp [settled]) (fun _ g1 h1 => ?_)
        fun _ => .storage)
      refine Op.Meets.bind (orFreeze_meets hcommit (by simp) (by simp [stopStages]) (by simp [stopReasons])
        (call_meets (fun answer => answer) h1 hcross ?_ (.inl h1) (.inl h1)))
      intro _
      refine Op.Meets.bind (orFreeze_meets hcommit (by simp) (by simp [stopStages]) (by simp [stopReasons])
        (append_goes h1 (List.mem_of_getElem? (show Tracker.handlers[9]? = some _ from rfl))
          (Tracker.hostBatchCommitted_accepts rfl (Tracker.batchEvidence_accepts hcommit hrows hstaged hhash hsha))
          (by simp [settled]) (fun _ g2 h2 => ?_) fun _ => .inr ⟨by simp, rfl⟩))
      refine Op.Meets.bind (append_goes h2 (List.mem_of_getElem? (show Tracker.handlers[10]? = some _ from rfl))
        (Tracker.finalConfirmIntent_accepts hcommitted rfl) (by simp [settled]) (fun _ g3 h3 => ?_) fun _ => .storage)
      refine Op.Meets.bind (orFreeze_meets hconfirm (by simp) (by simp [stopStages]) (by simp [stopReasons])
        (call_meets (fun answer => answer) h3 (.confirm (.inr rfl) (atDescriptor hconfirm)) ?_ (.inl h3) (.inl h3)))
      intro status
      by_cases hstatus : isIntIn 0 0 status = true
      · rw [if_neg (not_not.mpr hstatus)]
        obtain rfl := isIntIn_zero hstatus
        refine Op.Meets.bind (orFreeze_meets hconfirm (by simp) (by simp [stopStages]) (by simp [stopReasons])
          (append_goes h3 (List.mem_of_getElem? (show Tracker.handlers[11]? = some _ from rfl))
            (Tracker.finalConfirmed_accepts hconfirm rfl) (by split <;> simp [settled]) (fun _ g4 h4 => ?_)
            fun _ => .inr ⟨by simp, rfl⟩))
        exact Op.Meets.pure h4
      · rw [if_pos hstatus]
        exact Op.Meets.bind (freeze_meets h3 hconfirm (by simp) (by simp [stopStages]) (by simp [stopReasons]))
    · rw [hsnapshot] at herror
      cases herror
  · -- a file that another run has staged is missing
    rcases stagedSnapshot_cases hstaging.digests batch with ⟨files, found, hok, -⟩ | ⟨herror, component, hcomponent, hmissing⟩
    · rw [he] at hok
      cases hok
    · obtain rfl : e = .keyError := Except.error.inj (he.symm.trans herror)
      refine .missing ?_ h hphase
      rcases hstaging.covers with hresumed | hcovers
      · exact hresumed
      · rw [List.take_length] at hcovers
        exact absurd (hcovers component hcomponent) hmissing

/-- The plan is one that the journal takes. -/
structure Fits (batches : List (List ComponentSpec)) : Prop where
  few : batches.length ≤ 2
  short : ∀ batch ∈ batches, batch ≠ [] ∧ batch.length ≤ 2

/-- The components of a batch of the plan. -/
theorem getD_planned {batches : List (List ComponentSpec)} (h : t.batches = plannedBatches batches)
    (hbatch : batches[b]? = some batch) : t.batches.getD b [] = batch.map (·.planned) := by
  rw [h, plannedBatches, List.getD_eq_getElem?_getD, List.getElem?_map, hbatch]
  rfl

variable (history resumed) in
/-- The tracker is in the plan, at a batch from which the program goes on. -/
structure Begins (batches : List (List ComponentSpec)) (t : Tracker φ) (b : Nat) (batch : List ComponentSpec)
    (resume : Option (Resume φ)) : Prop where
  phase : t.phase = .componentReady
  batches : t.batches = plannedBatches batches
  start : ∃ c staged, c < batch.length ∧ Staging resumed history t b c batch c staged ∧
    (resume = none ∧ c = 0 ∧ staged = [] ∨ resume = some ⟨c, staged⟩)

variable (lower operationId history) in
/-- Every batch is committed, and the last component is at hand. -/
def Attestable (batches : List (List ComponentSpec)) (finalReference : Option (Reference φ)) (g : Known φ) : Prop :=
  ∃ t b c component, Going lower operationId g t ∧ t.phase = .attestationReady ∧ t.batches = plannedBatches batches ∧
    t.Here history.persistenceConnectionGeneration b c component ∧
    finalReference = some (Tracker.reference history.persistenceConnectionGeneration b c component)

/-- **One batch**, from where it begins: what follows it stands behind its last component. -/
theorem batch_meets {batches rest : List (List ComponentSpec)} {resume : Option (Resume φ)}
    {finalReference : Option (Reference φ)} {ok : Option (Reference φ) → Unit → Known φ → Prop}
    (h : Going lower operationId g t) (hbegins : Begins resumed history batches t b batch resume)
    (hnext : ∀ g' t' last, Going lower operationId g' (behindBatch t' b) → t'.batches = plannedBatches batches →
      t'.Here history.persistenceConnectionGeneration b (batch.length - 1) last →
      Op.Meets (order lower operationId) (persistBatches history (b + 1) rest none
        (some (Tracker.reference history.persistenceConnectionGeneration b (batch.length - 1) last))) () g' ok
        fun e _ => Raises lower operationId resumed initial e) :
    Op.Meets (order lower operationId) (persistBatches history b (batch :: rest) resume finalReference) () g ok
      fun e _ => Raises lower operationId resumed initial e := by
  obtain ⟨c, staged, hc, hstaging, hresume⟩ := hbegins.start
  have hleft : batch.drop c ≠ [] := by
    intro hnone
    have hlength := List.drop_eq_nil_iff.mp hnone
    omega
  have hbody : ∀ g1, Going lower operationId g1 t → Op.Meets (order lower operationId)
      (persistComponents history b batch c (batch.drop c) staged finalReference >>= fun found =>
        commitBatch history b batch found.1 found.2 >>= fun _ => persistBatches history (b + 1) rest none found.2)
      () g1 ok fun e _ => Raises lower operationId resumed initial e := by
    intro g1 h1
    refine Op.Meets.seq (persistComponents_meets _ c staged finalReference g1 t rfl hleft h1 hbegins.phase hstaging) ?_
    rintro ⟨found, final⟩ - g2 ⟨t', last, hlast, h2, hphase, hbatches, hfound, hfinal⟩
    dsimp only at hfound hfinal ⊢
    subst hfinal
    refine Op.Meets.seq (commitBatch_meets h2 hlast hphase hfound) ?_
    rintro - - g3 h3
    exact hnext g3 t' last.planned h3 (hbatches.trans hbegins.batches) (hfound.toPlace.here hlast)
  rcases hresume with ⟨rfl, rfl, rfl⟩ | rfl
  · -- the store begins the batch
    have hcomponent : batch[0]? = some batch[0] := List.getElem?_eq_getElem hc
    have hannounces : Announces t (.beginStage (batch.map (·.name))) := by
      rw [← hstaging.toPlace.names]
      exact .beginStage hbegins.phase (hstaging.toPlace.here hcomponent).toAt
    refine Op.Meets.bind (call_meets (fun answer => answer) h hannounces (fun _ => ?_)
      (.unstaged h hbegins.phase hstaging.componentIndex) (.interrupted h))
    exact hbody g h
  · exact hbody g h

/-- **The batches that are left**, by induction on them. -/
theorem persistBatches_meets {batches : List (List ComponentSpec)} (hfits : Fits batches) :
    ∀ (rest : List (List ComponentSpec)) (batch : List ComponentSpec) (b : Nat) (resume : Option (Resume φ))
      (finalReference : Option (Reference φ)) (g : Known φ) (t : Tracker φ), batches.drop b = batch :: rest →
    Going lower operationId g t → Begins resumed history batches t b batch resume →
    Op.Meets (order lower operationId) (persistBatches history b (batch :: rest) resume finalReference) () g
      (fun found _ g' => Attestable lower operationId history batches found g')
      fun e _ => Raises lower operationId resumed initial e := by
  intro rest
  induction rest with
  | nil =>
    intro batch b resume finalReference g t hdrop h hbegins
    refine batch_meets h hbegins fun g' t' last h' hbatches hhere => ?_
    have hend : ¬ b + 1 < t'.batches.length := by
      have hlength := congrArg List.length hdrop
      rw [List.length_drop, List.length_singleton] at hlength
      rw [hbatches, plannedBatches, List.length_map]
      omega
    rw [behindBatch, if_neg hend] at h'
    exact Op.Meets.pure ⟨_, b, _, last, h', rfl, hbatches, hhere.withPhase .attestationReady .none 0 t'.staged, rfl⟩
  | cons next rest ih =>
    intro batch b resume finalReference g t hdrop h hbegins
    refine batch_meets h hbegins fun g' t' last h' hbatches hhere => ?_
    have hdrop' : batches.drop (b + 1) = next :: rest := by
      rw [← List.tail_drop, hdrop]
      rfl
    have hnext : batches[b + 1]? = some next := by
      rw [← List.head?_drop, hdrop']
      rfl
    obtain ⟨hindex, hget⟩ := List.getElem?_eq_some_iff.mp hnext
    have hmem : next ∈ batches := hget ▸ List.getElem_mem hindex
    have hfew := hfits.few
    rw [behindBatch, if_pos (by rw [hbatches, plannedBatches, List.length_map]; exact hindex)] at h'
    obtain ⟨hne, hshort⟩ := hfits.short next hmem
    refine ih next (b + 1) none _ g' _ hdrop' h' ⟨rfl, hbatches, 0, [], List.length_pos_iff.mpr hne, ⟨?_, rfl,
      List.forall_mem_nil _, .inr (List.forall_mem_nil _)⟩, .inl ⟨rfl, rfl, rfl⟩⟩
    exact ⟨hhere.sameConnection, rfl, rfl, getD_planned hbatches hnext, hhere.uuid, by omega, hshort⟩

/-- **The attestation** completes the journal, or the journal refuses it. -/
theorem attest_meets {batches : List (List ComponentSpec)} {finalReference : Option (Reference φ)} (hfits : Fits batches)
    (h : Attestable lower operationId history batches finalReference g) :
    Op.Meets (order lower operationId) (attest history batches finalReference) () g
      (fun s _ g' => Completes lower s g') fun e _ => Raises lower operationId resumed initial e := by
  obtain ⟨t, b, c, component, h, hphase, hbatches, hhere, rfl⟩ := h
  have hfreezes : t.phase ∉ [PersistencePhase.componentReady, .complete, .outcomeUnknown] := by simp [hphase]
  have hcount : t.batches.length = batches.length := by
    rw [hbatches, plannedBatches, List.length_map]
  have hfew := hfits.few
  refine Op.Meets.bind (orFreeze_meets hhere hfreezes (by simp [stopStages]) (by simp [stopReasons])
    (call_meets (fun answer => answer) h (.readback hphase) ?_ (.inl h) (.inl h)))
  intro attestation
  cases attestation with
  | none => exact freeze_meets h hhere hfreezes (by simp [stopStages]) (by simp [stopReasons])
  | some attestation =>
    dsimp only
    by_cases hequal : attestation.sepHostGenerationEqual.isTrue = true ∧
        attestation.independentArchiveReadback.isTrue = true
    · rw [if_neg (not_not.mpr hequal), ← hcount]
      by_cases hsnapshot : isSha256 attestation.reconciliationSnapshotSha256 = true
      · exact append_meets h (List.mem_of_getElem? (show Tracker.handlers[12]? = some _ from rfl))
          (Tracker.persistenceAttested_accepts hphase hhere.sameConnection hhere.uuid (by omega) hsnapshot)
          (fun s g' hreads hbehind _ => ⟨hreads, by rw [hbehind.2]; rfl, by rw [hbehind.1]⟩) fun _ => .storage
      · have hget : (members [("connection_generation", history.persistenceConnectionGeneration),
            ("batch_count", .int t.batches.length),
            ("reconciliation_snapshot_sha256", attestation.reconciliationSnapshotSha256),
            ("sep_host_generation_equal", .bool true), ("independent_archive_readback", .bool true)]).get
            "reconciliation_snapshot_sha256" = attestation.reconciliationSnapshotSha256 := by
          simp only [get_members, List.lookup_cons, String.reduceBEq, Option.getD_some]
        refine append_refused h (List.mem_of_getElem? (show Tracker.handlers[12]? = some _ from rfl))
          (fun t' hstep => hsnapshot ?_) (.snapshot (hget.symm ▸ eq_false_of_ne_true hsnapshot)) fun _ => .unattested h hphase
        rw [← hget]
        exact attested_digest t _ t' hstep
    · rw [if_pos hequal]
      exact Op.Meets.bind (freeze_meets h hhere hfreezes (by simp [stopStages]) (by simp [stopReasons]))

/-! ## The start -/

/-- A plan that the journal has taken. -/
theorem fits_of {batches : List (List ComponentSpec)} (h : t.batches = plannedBatches batches)
    (hfew : t.batches.length ≤ 2) (hshort : ∀ batch ∈ t.batches, batch.length ≤ 2)
    (hnonempty : ∀ batch ∈ t.batches, batch ≠ []) : Fits batches := by
  refine ⟨?_, fun batch hbatch => ?_⟩
  · rwa [h, plannedBatches, List.length_map] at hfew
  · have hmem : batch.map (·.planned) ∈ t.batches := by
      rw [h]
      exact List.mem_map_of_mem hbatch
    have hlength := hshort _ hmem
    rw [List.length_map] at hlength
    refine ⟨fun hnone => hnonempty _ hmem ?_, hlength⟩
    rw [hnone]
    rfl

/-- The plan is read back as it was written. -/
theorem plannedBatches_evidence (generation : Value φ) (batches : List (List ComponentSpec)) :
    Tracker.plannedBatches (planEvidence generation batches) = plannedBatches batches := by
  have hget : (planEvidence generation batches).get "batches" = .list (batches.map fun batch =>
      .list (batch.map fun component =>
        members [("name", .str component.name), ("descriptor_sha256", .str component.descriptorSha256)])) := by
    simp only [planEvidence, get_members, List.lookup_cons, String.reduceBEq, Option.getD_some]
  rw [Tracker.plannedBatches, hget, itemsOf, List.map_map]
  refine List.map_congr_left fun batch _ => ?_
  rw [Function.comp_apply, itemsOf, List.map_map]
  refine List.map_congr_left fun component _ => ?_
  simp only [Function.comp_apply, get_members, List.lookup_cons, String.reduceBEq, Option.getD_some]
  rfl

/-- **The plan** is appended, refused, or lost. -/
theorem plan_meets {records : List (Value φ)} (h : validateHistory lower records = .ok history)
    (hoperation : history.operationId = .str operationId) (hfresh : history.persistence.phase = .notStarted)
    {evidence : Value φ} {ok : EnrollmentHistory φ → Unit → Known φ → Prop} {err : OperationError φ → Unit → Known φ → Prop}
    (hok : ∀ s g t, history.persistence.plan history.toState.failureBiolockoutPersistence evidence = .ok t →
      Going lower operationId g t → ok s () g)
    (hrefused : ∀ failure, err (.storage failure) () (some records)) (hlost : ∀ failure, err (.storage failure) () none) :
    Op.Meets (order lower operationId) (append "CATACOMB_PERSISTENCE_PLAN" evidence) () (some records) ok err := by
  refine Op.Meets.bind (Client.append_meets ⟨history, h, .inr (.plan hfresh)⟩ fun reply hreply => ?_)
  rcases plan_takes h hoperation evidence with ⟨after, records', t, hfaultless, hplan, hholds⟩ | ⟨refusal, hfaultless⟩
  · cases reply with
    | ok found =>
      have hnext : (order lower operationId).next (some records) (.append "CATACOMB_PERSISTENCE_PLAN" evidence)
          (.ok found) = some records' := by
        show some ((typedJournal lower).faultless operationId records "CATACOMB_PERSISTENCE_PLAN" evidence).2 = some records'
        rw [hfaultless]
      rw [hnext]
      exact Op.Meets.pure (hok found _ t hplan ⟨records', rfl, hholds⟩)
    | error failure =>
      have hnext : (order lower operationId).next (some records) (.append "CATACOMB_PERSISTENCE_PLAN" evidence)
          (.error failure) = none := by
        simp only [order, Journal.Persistence.contract, hfaultless]
      rw [hnext]
      exact Op.Meets.raise (hlost failure)
  · cases reply with
    | ok found =>
      have hfound := hreply found rfl
      rw [hfaultless] at hfound
      cases hfound
    | error failure =>
      have hnext : (order lower operationId).next (some records) (.append "CATACOMB_PERSISTENCE_PLAN" evidence)
          (.error failure) = some records := by
        simp only [order, Journal.Persistence.contract, hfaultless]
      rw [hnext]
      exact Op.Meets.raise (hrefused failure)

/-- Components that are accepted belong to an identity, or are a single one. -/
theorem validateComponents_ready {batches : List (List ComponentSpec)} (h : validateComponents history batches = .ok ()) :
    history.phase = .terminalIdentity ∨ ∃ component, batches = [[component]] := by
  by_cases hready : history.phase ≠ .terminalIdentity ∧ ¬ failureBiolockout history batches = true
  · rw [validateComponents, if_pos hready] at h
    cases h
  by_cases hphase : history.phase = .terminalIdentity
  · exact .inl hphase
  · have hfailure : failureBiolockout history batches = true := not_not.mp fun hnot => hready ⟨hphase, hnot⟩
    unfold failureBiolockout at hfailure
    obtain ⟨-, hsingle⟩ := Bool.and_eq_true_iff.mp hfailure
    split at hsingle
    · exact .inr ⟨_, rfl⟩
    · cases hsingle

variable (lower operationId history resumed) in
/-- The run goes on with a batch of the plan. -/
def Starts (batches : List (List ComponentSpec)) (start : Nat × Option (Resume φ)) (g : Known φ) : Prop :=
  ∃ t batch rest, batches.drop start.1 = batch :: rest ∧ Fits batches ∧ Going lower operationId g t ∧
    Begins resumed history batches t start.1 batch start.2

/-- **The start**: the plan is taken, or the tracker is within it. -/
theorem startBatches_meets {records : List (Value φ)} {batches : List (List ComponentSpec)}
    (h : validateHistory lower records = .ok history) (hoperation : history.operationId = .str operationId)
    (hready : history.phase = .terminalIdentity ∨ ∃ component, batches = [[component]])
    (hresumed : history.persistence.phase ≠ .notStarted → resumed) :
    Op.Meets (order lower operationId) (startBatches history batches) () (some records)
      (fun start _ g => Starts lower operationId resumed history batches start g)
      fun e _ => Raises lower operationId resumed records e := by
  have hsynced := run_synced _ _ (validateHistory_ok h)
  have huuid := (run_connection _ _ (validateHistory_ok h)).2
  have hbounded := hsynced.bounded
  rw [startBatches]
  by_cases hfresh : history.persistence.phase = .notStarted
  · rw [if_pos hfresh]
    refine Op.Meets.bind (plan_meets h hoperation hfresh (fun _ g t hplan hgoing => ?_) (fun _ => .untouched) fun _ => .storage)
    obtain ⟨hfew, hshort⟩ := Tracker.plan_bounded _ _ _ t hplan
    obtain ⟨-, found, hplanned, hne, -, rfl⟩ := Tracker.plan_ok _ _ _ t hplan
    obtain rfl : found = plannedBatches batches := hplanned.listed.trans (plannedBatches_evidence _ _)
    have hfits : Fits batches := fits_of rfl hfew hshort hplanned.nonempty
    obtain ⟨batch, rest, rfl⟩ : ∃ batch rest, batches = batch :: rest :=
      List.exists_cons_of_ne_nil fun hnone => hne (by rw [hnone]; rfl)
    obtain ⟨hbatch, hlength⟩ := hfits.short batch List.mem_cons_self
    refine Op.Meets.pure ⟨_, batch, rest, rfl, hfits, hgoing, rfl, rfl, 0, [], List.length_pos_iff.mpr hbatch, ⟨?_,
      hbounded.fresh hfresh, List.forall_mem_nil _, .inr (List.forall_mem_nil _)⟩, .inl ⟨rfl, rfl, rfl⟩⟩
    exact ⟨hsynced.generation, rfl, rfl, rfl, huuid, by omega, hlength⟩
  rw [if_neg hfresh]
  by_cases hwithin : history.persistence.phase = .componentReady ∧ history.persistence.batches = plannedBatches batches
  swap
  · rw [if_neg hwithin]
    exact Op.Meets.raise .untouched
  rw [if_pos hwithin]
  obtain ⟨log, p, hp⟩ := hbounded.progress hfresh
  obtain ⟨_, _, _, _, hplanned⟩ := hp.planned
  have hfits : Fits batches := fits_of hwithin.2 hbounded.few hbounded.short hplanned.nonempty
  have hfew := hfits.few
  simp only [hp.place.batch, hp.place.index]
  by_cases hstaged : p.c = 0 ∨ history.persistence.staged = []
  · rw [if_pos hstaged]
    exact Op.Meets.raise .untouched
  rw [if_neg hstaged]
  obtain ⟨batch, hbatch, hcomponents⟩ : ∃ batch, batches[p.b]? = some batch ∧ batch.map (·.planned) = p.batch := by
    have hbatch := hp.batch
    rw [hwithin.2, plannedBatches, List.getElem?_map, Option.map_eq_some_iff] at hbatch
    exact hbatch
  obtain ⟨hindex, hget⟩ := List.getElem?_eq_some_iff.mp hbatch
  have hc : p.c < batch.length := by
    have hinBatch := hp.inBatch
    rwa [← hcomponents, List.length_map] at hinBatch
  have hdrop : batches.drop p.b = batch :: batches.drop (p.b + 1) := by
    rw [List.drop_eq_getElem_cons hindex, hget]
  -- a single component has nothing that is confirmed
  have hidentity : history.phase = .terminalIdentity := by
    rcases hready with hidentity | ⟨component, rfl⟩
    · exact hidentity
    · obtain rfl := List.mem_singleton.mp (hget ▸ List.getElem_mem hindex : batch ∈ [[component]])
      rw [List.length_singleton] at hc
      exact absurd (.inl (by omega)) hstaged
  have hgoing : Going lower operationId (some records) history.persistence :=
    ⟨records, rfl, history, h, hoperation, rfl, hfresh, .inl hidentity, .inl (hsynced.identity hidentity)⟩
  have hplace : Place history history.persistence p.b p.c batch := ⟨hsynced.generation, hp.place.batch, hp.place.index,
    getD_planned hwithin.2 hbatch, huuid, by omega, (hfits.short batch (hget ▸ List.getElem_mem hindex)).2⟩
  have hstaging : Staging resumed history history.persistence p.b p.c batch p.c history.persistence.staged :=
    ⟨hplace, rfl, hbounded.digests, .inl (hresumed hfresh)⟩
  exact Op.Meets.pure ⟨history.persistence, batch, _, hdrop, hfits, hgoing, hwithin.1, hwithin.2, p.c, _, hc, hstaging,
    .inr rfl⟩

/-! ## Runs -/

/-- **The operation** keeps to its contract. -/
theorem run_meets {records : List (Value φ)} (h : validateHistory lower records = .ok history)
    (batches : List (List ComponentSpec)) :
    Op.Meets (order lower operationId) (run history operationId batches) () (some records)
      (fun s _ g => Completes lower s g)
      fun e _ => Raises lower operationId (history.persistence.phase ≠ .notStarted) records e := by
  rw [run]
  by_cases hdiffer : differ history.operationId (.str operationId) = true
  · rw [if_pos hdiffer]
    exact Op.Meets.bind (Op.Meets.raise .untouched)
  rw [if_neg hdiffer]
  obtain ⟨text, htext⟩ := str_of_uuid (run_connection _ _ (validateHistory_ok h)).1
  have hoperation : history.operationId = .str operationId :=
    (eq_of_not_differ_str htext (eq_false_of_ne_true hdiffer)).symm
  refine Op.Meets.bind (Op.Meets.lift (fun _ hvalid => ?_) fun _ _ => .untouched)
  refine Op.Meets.seq (startBatches_meets h hoperation (validateComponents_ready hvalid) id) ?_
  rintro ⟨startBatch, resume⟩ - g ⟨t, batch, rest, hdrop, hfits, hgoing, hbegins⟩
  dsimp only at hdrop hbegins ⊢
  rw [hdrop]
  refine Op.Meets.seq (persistBatches_meets hfits rest batch startBatch resume none g t hdrop hgoing hbegins) ?_
  exact fun _ _ _ hattestable => attest_meets hfits hattestable

end Components

end Order

/-! ## A sample -/

end T2TouchId.Enrollment.Persistence
