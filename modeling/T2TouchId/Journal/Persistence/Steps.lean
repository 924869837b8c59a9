/-
  What each milestone of the persistence does.

  One lemma for each: the phase it comes in, the place its record names, what else it compares, and the
  tracker behind it.  All that is proved of sequences of these milestones goes through them.

  1. **Places** — `At`: the component the tracker is at; `Names`: the place a record names.
  2. **The plan** — `plan_ok`: the batches are those of the record, and no name is there twice.
  3. **Milestones** — `prepareIntent_ok`, …: `Returns` with the guard and the new tracker.
  4. **The dispatch** — `consume_ok`: a consumed milestone is one of these, by its name.
-/
import T2TouchId.Journal.Persistence
import T2TouchId.Journal.Readable

set_option linter.unusedSectionVars false

namespace T2TouchId.Journal

open T2TouchId.Python T2TouchId.Python.Json

section Steps

variable {φ : Type} [JsonFloat φ]

/-! ## Places -/

/-- The tracker is at a component of its plan. -/
structure Tracker.At (t : Tracker φ) (b c : Nat) (component : Component) : Prop where
  batch : t.batchIndex = some b
  index : t.componentIndex = some c
  planned : (t.batches.getD b [])[c]? = some component

/-- A record names a component. -/
structure Names (evidence : Value φ) (b c : Nat) (component : Component) : Prop where
  batch : evidence.get "batch_index" = .int b
  index : evidence.get "component_index" = .int c
  name : evidence.get "name" = .str component.1
  descriptor : evidence.get "descriptor_sha256" = .str component.2

/-- A record names the component that the tracker is at. -/
def Tracker.Targets (t : Tracker φ) (evidence : Value φ) : Prop :=
  ∃ b c component, t.At b c component ∧ Names evidence b c component

namespace Tracker

variable (t : Tracker φ) (value : Value φ)

theorem current_ok : Returns t.current fun component => ∃ b c, t.At b c component := by
  intro component h
  unfold current at h
  split at h
  · rename_i b c hb hc
    split at h
    · rename_i found hfound
      cases h
      exact ⟨b, c, hb, hc, hfound⟩
    · exact nomatch h
  · exact nomatch h

/-- Two places that a record and the tracker agree on. -/
theorem eq_of_map_ofNat {index : Option Nat} {n : Int} {i : Nat} (hindex : index = some i)
    (h : ¬ index.map Int.ofNat ≠ some n) : n = i := by
  rw [hindex] at h
  exact (Option.some.inj (not_not.mp h)).symm

theorem targetsCurrent_ok : Returns (t.targetsCurrent value) fun component =>
    ∃ b c, t.At b c component ∧ Names value b c component := by
  refine .bind fun batchIndex hbatch => .bind fun componentIndex hindex => ?_
  refine .bind fun component hcurrent => .guard fun hsame => .pure ?_
  obtain ⟨b, c, hat⟩ := t.current_ok component hcurrent
  simp only [not_or, not_not] at hsame
  obtain ⟨hb, hc, hname, hdescriptor⟩ := hsame
  have hb : batchIndex = b := eq_of_map_ofNat hat.batch (not_not.mpr hb)
  have hc : componentIndex = c := eq_of_map_ofNat hat.index (not_not.mpr hc)
  refine ⟨b, c, hat, ?_, ?_, isStr_iff.mp hname, isStr_iff.mp hdescriptor⟩
  · rw [(uint_ok hbatch).1, hb]
  · rw [(uint_ok hindex).1, hc]

theorem componentEvidence_ok (milestone : String) (extra : List String) :
    Returns (t.componentEvidence value milestone extra) fun _ => t.Targets value := by
  refine .skip fun _ => .skip fun _ => .bind fun component htargets => .pure ?_
  obtain ⟨b, c, hat, hnames⟩ := t.targetsCurrent_ok value component htargets
  exact ⟨b, c, component, hat, hnames⟩

/-! ## The staged files of a batch -/

/-- A staged file, as the snapshot of its batch lists it. -/
def fileRow (file : PyStr × Value φ) : Value φ :=
  .ofItems [("name", .str file.1), ("final_file_sha256", file.2)]

/-- The digest of the staged files of a batch. -/
def BatchDigest (digest : Value φ) (files : List (PyStr × Value φ)) : Prop :=
  ∃ text, snapshotHash (.list (files.map fileRow)) = .ok text ∧ digest = .str text

/-- A record carries the digest of the batch that the tracker is at. -/
def CarriesBatch (evidence : Value φ) : Prop :=
  ∃ b files, t.batchIndex = some b ∧ evidence.get "batch_index" = .int b ∧
    files.map Prod.fst = (t.batches.getD b []).map Prod.fst ∧
    (∀ file ∈ files, lookup file.1 t.staged = some file.2) ∧
    BatchDigest (evidence.get "staged_snapshot_sha256") files

theorem stagedRows_ok (staged : List (PyStr × Value φ)) (batch : List Component) : ∀ rows,
    batch.mapM (fun component : Component =>
      match lookup component.1 staged with
      | some digest => (.ok (.ofItems [("name", .str component.1), ("final_file_sha256", digest)]) :
          Check φ (Value φ))
      | none => .error .keyError) = .ok rows →
    ∃ files : List (PyStr × Value φ), rows = files.map fileRow ∧
      files.map Prod.fst = batch.map Prod.fst ∧
      ∀ file ∈ files, lookup file.1 staged = some file.2 := by
  induction batch with
  | nil =>
    intro rows h
    cases h
    exact ⟨[], rfl, rfl, nofun⟩
  | cons component batch ih =>
    intro rows h
    rw [List.mapM_cons] at h
    obtain ⟨row, hrow, h⟩ := bind_ok h
    obtain ⟨rest, hrest, h⟩ := bind_ok h
    cases h
    obtain ⟨files, rfl, hnames, hfiles⟩ := ih rest hrest
    split at hrow
    · rename_i digest hdigest
      cases hrow
      refine ⟨(component.1, digest) :: files, rfl, ?_, List.forall_mem_cons.mpr ⟨hdigest, hfiles⟩⟩
      rw [List.map_cons, List.map_cons, hnames]
    · exact nomatch hrow

theorem batchEvidence_ok (milestone : String) :
    Returns (t.batchEvidence value milestone) fun _ => t.batchIndex.isSome → t.CarriesBatch value := by
  refine .skip fun _ => .skip fun _ => .bind fun batchIndex hbatch => .guard fun hsame => ?_
  refine .skip fun _ => .bind fun model hmodel => .bind fun expected hexpected => ?_
  intro _ h hsome
  have hdigest : ¬ (¬ (value.get "staged_snapshot_sha256").isStr expected = true) := reject_eq_ok.mp h
  obtain ⟨rows, hrows, hmodel⟩ := bind_ok hmodel
  cases hmodel
  obtain ⟨b, hb⟩ := Option.isSome_iff_exists.mp hsome
  obtain ⟨files, rfl, hnames, hfiles⟩ := stagedRows_ok _ _ rows hrows
  refine ⟨b, files, hb, ?_, ?_, hfiles, expected, hexpected, isStr_iff.mp (not_not.mp hdigest)⟩
  · rw [(uint_ok hbatch).1, eq_of_map_ofNat hb hsame]
  · rw [hnames, hb]
    rfl

/-! ## The plan -/

/-- The components that a record of the plan lists. -/
def plannedBatches (value : Value φ) : List (List Component) :=
  (itemsOf (value.get "batches")).map fun batch =>
    (itemsOf batch).map fun component =>
      (strOf (component.get "name"), strOf (component.get "descriptor_sha256"))

theorem planBatch_ok (batchIndex : Nat) (items : List (Value φ)) : ∀ componentIndex seen,
    Returns (t.planBatch batchIndex componentIndex seen items) fun found =>
      found.1 = items.map (fun component =>
        (strOf (component.get "name"), strOf (component.get "descriptor_sha256"))) ∧
      (∀ name ∈ found.1.map Prod.fst, name ∉ seen.names) ∧ (found.1.map Prod.fst).Nodup := by
  induction items with
  | nil => exact fun _ _ => .pure ⟨rfl, nofun, List.nodup_nil⟩
  | cons item items ih =>
    intro componentIndex seen
    refine .bind fun first hfirst => .bind fun rest hrest => .pure ?_
    have hcomponent : Returns (t.planComponent batchIndex componentIndex seen item) fun found =>
        found.1 = (strOf (item.get "name"), strOf (item.get "descriptor_sha256")) ∧
        strOf (item.get "name") ∉ seen.names ∧
        found.2.names = strOf (item.get "name") :: seen.names := by
      refine .skip fun _ => .skip fun _ => .guard fun hnew => .skip fun _ => .skip fun _ => .pure ?_
      exact ⟨rfl, (not_or.mp hnew).2, rfl⟩
    obtain ⟨hfound, hnew, hseen⟩ := hcomponent first hfirst
    obtain ⟨hitems, hfresh, hnodup⟩ := ih _ _ rest hrest
    rw [hseen] at hfresh
    refine ⟨by rw [hitems, hfound]; rfl, ?_, ?_⟩
    · rw [List.map_cons, hfound]
      exact List.forall_mem_cons.mpr ⟨hnew, fun name hname hold =>
        hfresh name hname (List.mem_cons_of_mem _ hold)⟩
    · rw [List.map_cons, hfound]
      exact List.nodup_cons.mpr ⟨fun hmem => hfresh _ hmem List.mem_cons_self, hnodup⟩

/-- The batches of a plan: those of its record, none of them empty or with a name twice. -/
structure Planned (value : Value φ) (batches : List (List Component)) : Prop where
  listed : batches = plannedBatches value
  nonempty : ∀ batch ∈ batches, batch ≠ []
  distinct : ∀ batch ∈ batches, (batch.map Prod.fst).Nodup

theorem planBatches_ok (items : List (Value φ)) : ∀ batchIndex seen,
    Returns (t.planBatches batchIndex seen items) fun found =>
      found.1 = items.map (fun batch => (itemsOf batch).map fun component =>
        (strOf (component.get "name"), strOf (component.get "descriptor_sha256"))) ∧
      (∀ batch ∈ found.1, batch ≠ []) ∧ ∀ batch ∈ found.1, (batch.map Prod.fst).Nodup := by
  induction items with
  | nil => exact fun _ _ => .pure ⟨rfl, nofun, nofun⟩
  | cons item items ih =>
    intro batchIndex seen
    refine .guard fun hlist => .bind fun first hfirst => .skip fun _ => .bind fun rest hrest => .pure ?_
    obtain ⟨hfound, -, hnodup⟩ := t.planBatch_ok batchIndex _ _ _ first hfirst
    obtain ⟨hitems, hne, hdistinct⟩ := ih _ _ rest hrest
    refine ⟨by rw [hfound, hitems]; rfl, ?_, List.forall_mem_cons.mpr ⟨hnodup, hdistinct⟩⟩
    refine List.forall_mem_cons.mpr ⟨fun hnil => ?_, hne⟩
    rw [hfound, List.map_eq_nil_iff] at hnil
    exact (not_or.mp hlist).2 hnil

theorem plan_ok (allow : Bool) : Returns (t.plan allow value) fun t' =>
    t.phase = .notStarted ∧ ∃ batches, Planned value batches ∧ batches ≠ [] ∧
      (t.planKind = .identityMetadata → batches.length = 1) ∧
      t' = { t with
        batches := batches, batchIndex := some 0, componentIndex := some 0,
        phase := .componentReady } := by
  refine .guard fun hphase => .skip fun _ => .skip fun _ => .guard fun hsize => ?_
  refine .bind fun found hfound => .seq fun hcheck => .pure ?_
  obtain ⟨hlisted, hne, hnodup⟩ := t.planBatches_ok _ _ _ found hfound
  refine ⟨not_not.mp hphase, found.1, ⟨hlisted, hne, hnodup⟩, ?_, fun hkind => ?_, rfl⟩
  · intro hnil
    rw [hnil] at hlisted
    have hempty := congrArg List.length hlisted
    rw [List.length_map, List.length_nil] at hempty
    exact hsize (.inr (.inl (by omega)))
  · have hone : Returns (t.checkPlan allow found.1 found.2) fun _ => found.1.length = 1 := by
      unfold checkPlan
      dsimp only
      rw [if_pos hkind]
      refine .guard fun hkinds => .const ?_
      exact not_not.mp (not_or.mp (not_or.mp hkinds).2).1
    exact hone () hcheck

/-! ## The milestones -/

theorem earlyConfirmRecovered_ok : Returns (t.earlyConfirmRecovered value) fun t' =>
    t.phase = .outcomeUnknown ∧ t.outcomeUnknownStage = .str (py "early-confirm") ∧
      isFalse t.outcomeUnknownHostCommitPossible = true ∧
      isUuid (value.get "connection_generation") = true ∧
      ∃ b c component, t.At b c component ∧ Names value b c component ∧ c + 1 < t.batchLength ∧
        differ (value.get "staged_file_sha256") ((lookup component.1 t.staged).getD .none) = false ∧
        t' = { t with
          connectionGeneration := value.get "connection_generation", componentIndex := some (c + 1),
          capturedBlobSha256 := .none, expectedBlobLength := 0, outcomeUnknownStage := .none,
          outcomeUnknownHostCommitPossible := .none, phase := .componentReady } := by
  refine .guard fun hphase => .skip fun _ => .seq fun huuid => .skip fun _ => ?_
  refine .bind fun batchIndex hbatch => .bind fun componentIndex hindex => ?_
  refine .bind fun component hcurrent => .guard fun hsame => .guard fun hnext => .pure ?_
  obtain ⟨b, c, hat⟩ := t.current_ok component hcurrent
  simp only [not_or, not_not] at hphase hsame
  obtain ⟨hb, hc, hname, hdescriptor, -, hstaged⟩ := hsame
  have hb : batchIndex = b := eq_of_map_ofNat hat.batch (not_not.mpr hb)
  have hc : componentIndex = c := eq_of_map_ofNat hat.index (not_not.mpr hc)
  refine ⟨hphase.1, isStr_iff.mp hphase.2.1, hphase.2.2, requireUuid_eq_ok.mp huuid, b, c, component,
    hat, ⟨?_, ?_, isStr_iff.mp hname, isStr_iff.mp hdescriptor⟩, ?_, eq_false_of_ne_true hstaged, ?_⟩
  · rw [(uint_ok hbatch).1, hb]
  · rw [(uint_ok hindex).1, hc]
  · rw [hat.index] at hnext
    exact not_le.mp hnext
  · rw [hat.index]
    rfl

theorem persistenceOutcomeUnknown_ok : Returns (t.persistenceOutcomeUnknown value) fun t' =>
    t.phase ∉ [PersistencePhase.componentReady, .complete, .outcomeUnknown] ∧ t.Targets value ∧
      (∃ stage ∈ ["prepare", "complete", "encode", "host-stage", "early-confirm", "host-commit",
          "final-confirm", "readback"], value.get "stage" = .str (py stage)) ∧
      isBool (value.get "host_commit_possible") = true ∧
      t' = { t with
        outcomeUnknownStage := value.get "stage",
        outcomeUnknownHostCommitPossible := value.get "host_commit_possible",
        phase := .outcomeUnknown } := by
  refine .guard fun hphase => .bind fun _ htargets => .bind fun known hknown => .guard fun hin => ?_
  refine .skip fun _ => .skip fun _ => .guard fun hflags => .pure ?_
  rw [not_not.mp hin] at hknown
  exact ⟨hphase, t.componentEvidence_ok value _ _ _ htargets, isIn_ok hknown,
    not_not.mp (not_or.mp hflags).2, rfl⟩

theorem prepareIntent_ok : Returns (t.prepareIntent value) fun t' =>
    t.phase = .componentReady ∧ t.Targets value ∧ t' = { t with phase := .prepareIntent } := by
  refine .guard fun hphase => .bind fun _ htargets => .pure ?_
  exact ⟨not_not.mp hphase, t.componentEvidence_ok value _ _ _ htargets, rfl⟩

theorem prepared_ok : Returns (t.prepared value) fun t' =>
    t.phase = .prepareIntent ∧ t.Targets value ∧ ∃ expected,
      value.get "expected_blob_length" = .int expected ∧
      t' = { t with expectedBlobLength := expected, phase := .prepared } := by
  refine .guard fun hphase => .bind fun _ htargets => .skip fun _ => ?_
  refine .bind fun expected hexpected => .skip fun _ => .pure ?_
  exact ⟨not_not.mp hphase, t.componentEvidence_ok value _ _ _ htargets, expected,
    (uint_ok hexpected).1, rfl⟩

theorem completeIntent_ok : Returns (t.completeIntent value) fun t' =>
    t.phase = .prepared ∧ t.Targets value ∧ t' = { t with phase := .completeIntent } := by
  refine .guard fun hphase => .bind fun _ htargets => .pure ?_
  exact ⟨not_not.mp hphase, t.componentEvidence_ok value _ _ _ htargets, rfl⟩

/-- The length of a blob fits the length that the prepare reply announced. -/
def BlobFits (name : PyStr) (length expected : Int) : Prop :=
  if name = py "biolockout.cat" then 16 ≤ length ∧ length ≤ expected else length = expected

theorem secureBlobCaptured_ok : Returns (t.secureBlobCaptured value) fun t' =>
    t.phase = .completeIntent ∧ t.Targets value ∧
      (∃ length, value.get "blob_length" = .int length ∧
        BlobFits (strOf (value.get "name")) length t.expectedBlobLength) ∧
      t' = { t with
        capturedBlobSha256 := value.get "secure_blob_sha256", phase := .secureBlobCaptured } := by
  refine .guard fun hphase => .bind fun _ htargets => .skip fun _ => .bind fun length hlength => ?_
  refine .bind fun component hcurrent => .guard fun hfits => .skip fun _ => .pure ?_
  have htargets := t.componentEvidence_ok value _ _ _ htargets
  refine ⟨not_not.mp hphase, htargets, ⟨length, (uint_ok hlength).1, ?_⟩, rfl⟩
  obtain ⟨b, c, found, hat, hnames⟩ := htargets
  obtain ⟨b', c', hat'⟩ := t.current_ok component hcurrent
  obtain rfl : b = b' := Option.some.inj (hat.batch.symm.trans hat'.batch)
  obtain rfl : c = c' := Option.some.inj (hat.index.symm.trans hat'.index)
  obtain rfl : found = component := Option.some.inj (hat.planned.symm.trans hat'.planned)
  rw [hnames.name]
  exact not_not.mp hfits

theorem hostStaged_ok : Returns (t.hostStaged value) fun t' =>
    t.phase = .secureBlobCaptured ∧ value.get "secure_blob_sha256" = t.capturedBlobSha256 ∧
      ∃ b c component, t.At b c component ∧ Names value b c component ∧
        t' = { t with
          staged := stage component.1 (value.get "final_file_sha256") t.staged,
          phase := .hostStaged } := by
  refine .guard fun hphase => .bind fun _ htargets => .seq fun hsecure => .skip fun _ => ?_
  refine .guard fun hsame => .bind fun component hcurrent => .pure ?_
  obtain ⟨b, c, found, hat, hnames⟩ := t.componentEvidence_ok value _ _ _ htargets
  obtain ⟨b', c', hat'⟩ := t.current_ok component hcurrent
  obtain rfl : b = b' := Option.some.inj (hat.batch.symm.trans hat'.batch)
  obtain rfl : c = c' := Option.some.inj (hat.index.symm.trans hat'.index)
  obtain rfl : found = component := Option.some.inj (hat.planned.symm.trans hat'.planned)
  refine ⟨not_not.mp hphase, ?_, b, c, found, hat, hnames, rfl⟩
  have hsecure := requireSha256_eq_ok.mp hsecure
  cases hvalue : value.get "secure_blob_sha256" with
  | str text =>
    rw [← hvalue]
    exact (eq_of_not_differ_str hvalue (eq_false_of_ne_true hsame)).symm.trans rfl
  | _ =>
    rw [hvalue] at hsecure
    exact nomatch hsecure

theorem confirmIntent_ok : Returns (t.confirmIntent value) fun t' =>
    t.phase = .hostStaged ∧ t.finalComponent = false ∧ t.Targets value ∧
      t' = { t with phase := .confirmIntent } := by
  refine .guard fun hphase => .bind fun _ htargets => .pure ?_
  simp only [not_or, not_not, Bool.not_eq_true] at hphase
  exact ⟨hphase.1, hphase.2, t.componentEvidence_ok value _ _ _ htargets, rfl⟩

theorem confirmed_ok : Returns (t.confirmed value) fun t' =>
    t.phase = .confirmIntent ∧ t.Targets value ∧
      t' = { t with
        componentIndex := some (t.componentIndex.getD 0 + 1), capturedBlobSha256 := .none,
        expectedBlobLength := 0, phase := .componentReady } := by
  refine .guard fun hphase => .bind fun _ htargets => .skip fun _ => .pure ?_
  exact ⟨not_not.mp hphase, t.componentEvidence_ok value _ _ _ htargets, rfl⟩

theorem hostBatchCommitIntent_ok : Returns (t.hostBatchCommitIntent value) fun t' =>
    t.phase = .hostStaged ∧ t.finalComponent = true ∧
      (t.batchIndex.isSome → t.CarriesBatch value) ∧ t' = { t with phase := .batchCommitIntent } := by
  refine .guard fun hphase => .bind fun _ hbatch => .pure ?_
  simp only [not_or, not_not] at hphase
  exact ⟨hphase.1, hphase.2, t.batchEvidence_ok value _ _ hbatch, rfl⟩

theorem hostBatchCommitted_ok : Returns (t.hostBatchCommitted value) fun t' =>
    t.phase = .batchCommitIntent ∧ (t.batchIndex.isSome → t.CarriesBatch value) ∧
      t' = { t with phase := .batchCommitted } := by
  refine .guard fun hphase => .bind fun _ hbatch => .pure ?_
  exact ⟨not_not.mp hphase, t.batchEvidence_ok value _ _ hbatch, rfl⟩

theorem finalConfirmIntent_ok : Returns (t.finalConfirmIntent value) fun t' =>
    t.phase = .batchCommitted ∧ t.Targets value ∧ t' = { t with phase := .finalConfirmIntent } := by
  refine .guard fun hphase => .bind fun _ htargets => .pure ?_
  exact ⟨not_not.mp hphase, t.componentEvidence_ok value _ _ _ htargets, rfl⟩

theorem finalConfirmed_ok : Returns (t.finalConfirmed value) fun t' =>
    t.phase = .finalConfirmIntent ∧ t.Targets value ∧
      t' = if t.batchIndex.getD 0 + 1 < t.batches.length then
        { t with
          capturedBlobSha256 := .none, expectedBlobLength := 0,
          batchIndex := some (t.batchIndex.getD 0 + 1), componentIndex := some 0, staged := [],
          phase := .componentReady }
      else
        { t with capturedBlobSha256 := .none, expectedBlobLength := 0, phase := .attestationReady } := by
  refine .guard fun hphase => .bind fun _ htargets => .skip fun _ => ?_
  have htargets := t.componentEvidence_ok value _ _ _ htargets
  refine .ite (fun hmore => ?_) (fun hmore => ?_)
  · exact .pure ⟨not_not.mp hphase, htargets, (if_pos hmore).symm⟩
  · exact .pure ⟨not_not.mp hphase, htargets, (if_neg hmore).symm⟩

theorem persistenceAttested_ok : Returns (t.persistenceAttested value) fun t' =>
    t.phase = .attestationReady ∧
      t' = { t with
        reconciliationSnapshotSha256 := value.get "reconciliation_snapshot_sha256",
        sepHostGenerationEqual := true, independentArchiveReadback := true, phase := .complete } := by
  refine .guard fun hphase => ?_
  repeat refine .skip fun _ => ?_
  exact .pure ⟨not_not.mp hphase, rfl⟩

/-! ## The dispatch -/

/-- **A consumed milestone** is one of those above, by its name. -/
theorem consume_ok {t t' : Tracker φ} {name : PyStr} {value : Value φ} {allow : Bool}
    (h : t.consume name value allow = .ok t') :
    (name = py "CATACOMB_EARLY_CONFIRM_RECOVERED" ∧ t.earlyConfirmRecovered value = .ok t') ∨
    (name = py "CATACOMB_PERSISTENCE_PLAN" ∧ t.plan allow value = .ok t') ∨
    ∃ handler ∈ handlers, name = py handler.1 ∧ t.phase ≠ .notStarted ∧
      handler.2 t value = .ok t' := by
  unfold consume at h
  by_cases hearly : name = py "CATACOMB_EARLY_CONFIRM_RECOVERED"
  · rw [if_pos hearly] at h
    exact .inl ⟨hearly, h⟩
  rw [if_neg hearly] at h
  by_cases hplan : name = py "CATACOMB_PERSISTENCE_PLAN"
  · rw [if_pos hplan] at h
    exact .inr (.inl ⟨hplan, h⟩)
  rw [if_neg hplan] at h
  by_cases hstarted : t.phase = .notStarted
  · rw [if_pos hstarted] at h
    exact nomatch h
  rw [if_neg hstarted] at h
  split at h
  · rename_i found handler hfind
    have hmem := List.mem_of_find?_eq_some hfind
    have hname := List.find?_some hfind
    exact .inr (.inr ⟨_, hmem, (of_decide_eq_true hname).symm, hstarted, h⟩)
  · exact nomatch h

/-! ## The phases -/

/-- The phases that follow a phase. -/
def phasesAfter : PersistencePhase → List PersistencePhase
  | .notStarted => [.componentReady]
  | .componentReady => [.prepareIntent]
  | .prepareIntent => [.prepared, .outcomeUnknown]
  | .prepared => [.completeIntent, .outcomeUnknown]
  | .completeIntent => [.secureBlobCaptured, .outcomeUnknown]
  | .secureBlobCaptured => [.hostStaged, .outcomeUnknown]
  | .hostStaged => [.confirmIntent, .batchCommitIntent, .outcomeUnknown]
  | .confirmIntent => [.componentReady, .outcomeUnknown]
  | .batchCommitIntent => [.batchCommitted, .outcomeUnknown]
  | .batchCommitted => [.finalConfirmIntent, .outcomeUnknown]
  | .finalConfirmIntent => [.componentReady, .attestationReady, .outcomeUnknown]
  | .attestationReady => [.complete, .outcomeUnknown]
  | .complete => []
  | .outcomeUnknown => [.componentReady]

/-- What a milestone behind the plan has in common with every other. -/
structure Moved (t t' : Tracker φ) : Prop where
  phase : t'.phase ∈ phasesAfter t.phase
  baseline : t'.baseline = t.baseline
  planKind : t'.planKind = t.planKind
  batches : t'.batches = t.batches
  /-- Only a final confirm leads to another batch, if there is one. -/
  batch : t'.batchIndex = t.batchIndex ∧
      (t.phase = .finalConfirmIntent → t'.phase ≠ .componentReady) ∨
    t.phase = .finalConfirmIntent ∧ t.batchIndex.getD 0 + 1 < t.batches.length

theorem moved_of_eq {t t' : Tracker φ} (hphase : t'.phase ∈ phasesAfter t.phase)
    (hbaseline : t'.baseline = t.baseline) (hkind : t'.planKind = t.planKind)
    (hbatches : t'.batches = t.batches) (hbatch : t'.batchIndex = t.batchIndex)
    (hfinal : t.phase ≠ .finalConfirmIntent ∨ t'.phase ≠ .componentReady) : Moved t t' :=
  ⟨hphase, hbaseline, hkind, hbatches, .inl ⟨hbatch, fun h => hfinal.resolve_left (not_not.mpr h)⟩⟩

theorem handlers_moved (t t' : Tracker φ) (value : Value φ) (hstarted : t.phase ≠ .notStarted) :
    ∀ handler ∈ handlers, handler.2 t value = .ok t' → Moved t t' := by
  simp only [handlers, List.forall_mem_cons]
  refine ⟨?_, ?_, ?_, ?_, ?_, ?_, ?_, ?_, ?_, ?_, ?_, ?_, ?_, nofun⟩ <;> intro h
  · -- an unknown outcome, from every phase that it may come in
    obtain ⟨hphase, -, -, -, rfl⟩ := t.persistenceOutcomeUnknown_ok _ t' h
    refine moved_of_eq ?_ rfl rfl rfl rfl (.inr nofun)
    revert hphase hstarted
    cases t.phase <;> simp [phasesAfter]
  · obtain ⟨hphase, -, rfl⟩ := t.prepareIntent_ok _ t' h
    exact moved_of_eq (by simp [hphase, phasesAfter]) rfl rfl rfl rfl (by simp)
  · obtain ⟨hphase, -, _, -, rfl⟩ := t.prepared_ok _ t' h
    exact moved_of_eq (by simp [hphase, phasesAfter]) rfl rfl rfl rfl (by simp)
  · obtain ⟨hphase, -, rfl⟩ := t.completeIntent_ok _ t' h
    exact moved_of_eq (by simp [hphase, phasesAfter]) rfl rfl rfl rfl (by simp)
  · obtain ⟨hphase, -, -, rfl⟩ := t.secureBlobCaptured_ok _ t' h
    exact moved_of_eq (by simp [hphase, phasesAfter]) rfl rfl rfl rfl (by simp)
  · obtain ⟨hphase, -, _, _, _, -, -, rfl⟩ := t.hostStaged_ok _ t' h
    exact moved_of_eq (by simp [hphase, phasesAfter]) rfl rfl rfl rfl (by simp)
  · obtain ⟨hphase, -, -, rfl⟩ := t.confirmIntent_ok _ t' h
    exact moved_of_eq (by simp [hphase, phasesAfter]) rfl rfl rfl rfl (by simp)
  · obtain ⟨hphase, -, rfl⟩ := t.confirmed_ok _ t' h
    exact moved_of_eq (by simp [hphase, phasesAfter]) rfl rfl rfl rfl (by simp [hphase])
  · obtain ⟨hphase, -, -, rfl⟩ := t.hostBatchCommitIntent_ok _ t' h
    exact moved_of_eq (by simp [hphase, phasesAfter]) rfl rfl rfl rfl (by simp)
  · obtain ⟨hphase, -, rfl⟩ := t.hostBatchCommitted_ok _ t' h
    exact moved_of_eq (by simp [hphase, phasesAfter]) rfl rfl rfl rfl (by simp)
  · obtain ⟨hphase, -, rfl⟩ := t.finalConfirmIntent_ok _ t' h
    exact moved_of_eq (by simp [hphase, phasesAfter]) rfl rfl rfl rfl (by simp)
  · -- the last batch, or the next
    obtain ⟨hphase, -, ht'⟩ := t.finalConfirmed_ok _ t' h
    by_cases hmore : t.batchIndex.getD 0 + 1 < t.batches.length
    · rw [if_pos hmore] at ht'
      subst ht'
      exact ⟨by simp [hphase, phasesAfter], rfl, rfl, rfl, .inr ⟨hphase, hmore⟩⟩
    · rw [if_neg hmore] at ht'
      subst ht'
      exact moved_of_eq (by simp [hphase, phasesAfter]) rfl rfl rfl rfl (by simp)
  · obtain ⟨hphase, rfl⟩ := t.persistenceAttested_ok _ t' h
    exact moved_of_eq (by simp [hphase, phasesAfter]) rfl rfl rfl rfl (by simp)

/-- **Behind the plan** every milestone moves the phase on, in the same plan. -/
theorem consume_moved {t t' : Tracker φ} {name : PyStr} {value : Value φ} {allow : Bool}
    (h : t.consume name value allow = .ok t') (hstarted : t.phase ≠ .notStarted) : Moved t t' := by
  rcases consume_ok h with ⟨-, h⟩ | ⟨-, h⟩ | ⟨handler, hmem, -, -, h⟩
  · obtain ⟨hphase, -, -, -, _, _, _, -, -, -, -, rfl⟩ := t.earlyConfirmRecovered_ok _ t' h
    exact moved_of_eq (by simp [hphase, phasesAfter]) rfl rfl rfl rfl (by simp [hphase])
  · exact absurd (t.plan_ok _ _ t' h).1 hstarted
  · exact handlers_moved t t' value hstarted handler hmem h

/-- The plan of a single batch, that of the identity metadata. -/
structure Single (t : Tracker φ) : Prop where
  kind : t.planKind = .identityMetadata
  batch : t.phase ≠ .notStarted → t.batches.length = 1 ∧ t.batchIndex = some 0

theorem single_start (baseline : Value φ) : Single (start baseline .identityMetadata) :=
  ⟨rfl, fun h => absurd rfl h⟩

/-- A single batch stays a single batch. -/
theorem Single.consume {t t' : Tracker φ} {name : PyStr} {value : Value φ} {allow : Bool}
    (hsingle : t.Single) (h : t.consume name value allow = .ok t') : t'.Single := by
  by_cases hstarted : t.phase = .notStarted
  · rcases consume_ok h with ⟨-, h⟩ | ⟨-, h⟩ | ⟨handler, -, -, hphase, -⟩
    · exact nomatch hstarted.symm.trans (t.earlyConfirmRecovered_ok _ t' h).1
    · obtain ⟨-, batches, -, -, hone, rfl⟩ := t.plan_ok _ _ t' h
      exact ⟨hsingle.kind, fun _ => ⟨hone hsingle.kind, rfl⟩⟩
    · exact absurd hstarted hphase
  · have hmoved := consume_moved h hstarted
    obtain ⟨hlength, hbatch⟩ := hsingle.batch hstarted
    refine ⟨hmoved.planKind.trans hsingle.kind, fun _ => ⟨by rw [hmoved.batches, hlength], ?_⟩⟩
    rcases hmoved.batch with ⟨hsame, -⟩ | ⟨-, hmore⟩
    · rw [hsame, hbatch]
    · rw [hbatch, hlength, Option.getD_some] at hmore
      omega

/-- The phases behind the commit of a single batch. -/
def behindCommit : List PersistencePhase :=
  [.batchCommitted, .finalConfirmIntent, .attestationReady, .complete, .outcomeUnknown]

/-- A single batch that is committed is not prepared again. -/
theorem Single.committed {t t' : Tracker φ} {name : PyStr} {value : Value φ} {allow : Bool}
    (hsingle : t.Single) (h : t.consume name value allow = .ok t')
    (hphase : t.phase ∈ behindCommit) (hknown : t.phase ≠ .outcomeUnknown) :
    t'.phase ∈ behindCommit := by
  have hstarted : t.phase ≠ .notStarted := by
    intro hnot
    rw [hnot] at hphase
    exact absurd hphase (by decide)
  have hmoved := consume_moved h hstarted
  obtain ⟨hlength, hbatch⟩ := hsingle.batch hstarted
  have hfinal : t.phase = .finalConfirmIntent → t'.phase ≠ .componentReady := by
    rcases hmoved.batch with ⟨-, hfinal⟩ | ⟨-, hmore⟩
    · exact hfinal
    · rw [hbatch, hlength, Option.getD_some] at hmore
      omega
  have hafter := hmoved.phase
  revert hphase hknown hfinal hafter
  cases t.phase <;> cases t'.phase <;> simp [behindCommit, phasesAfter]

/-! ## Names -/

theorem names_handlers : ((handlers (φ := φ)).map Prod.fst).Nodup := by
  simp [handlers]

/-- A milestone that is consumed went to the handler of its name. -/
theorem consume_handler {t t' : Tracker φ} {value : Value φ} {allow : Bool}
    {handler : String × (Tracker φ → Value φ → Check φ (Tracker φ))} (hmem : handler ∈ handlers)
    (h : t.consume (py handler.1) value allow = .ok t') : handler.2 t value = .ok t' := by
  rcases consume_ok h with ⟨hname, -⟩ | ⟨hname, -⟩ | ⟨found, hfound, hname, -, hstep⟩
  · revert hmem
    rw [← Prod.mk.eta (p := handler), py_inj.mp hname]
    simp [handlers]
  · revert hmem
    rw [← Prod.mk.eta (p := handler), py_inj.mp hname]
    simp [handlers]
  · obtain rfl := List.inj_on_of_nodup_map names_handlers hmem hfound (py_inj.mp hname)
    exact hstep

end Tracker

end Steps

end T2TouchId.Journal
