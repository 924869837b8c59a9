/-
  What the persistence milestones take from the programs that persist.

  `Steps` reads from a consumed record what it says; here it is the other way round: the evidence that a
  program writes is consumed in the phase where it writes it, and this is the tracker behind it.

  1. **References** — `Tracker.reference`: the fields that name a component; `Here`: the tracker is at that
     component, on that connection.
  2. **Milestones** — `prepareIntent_accepts`, …: one lemma for each milestone behind the plan.
  3. **The dispatch** — `consume_accepts`: what a handler takes, `consume` takes.
-/
import T2TouchId.Journal.Enrollment.Accepts

set_option linter.unusedSectionVars false

namespace T2TouchId.Journal.Tracker

open T2TouchId.Python T2TouchId.Python.Json T2TouchId.Journal.Enrollment

section Accepts

variable {φ : Type} [JsonFloat φ]

/-! ## References -/

/-- The fields of a record that name a component. -/
def reference (generation : Value φ) (b c : Nat) (component : Component) : List (String × Value φ) :=
  [("connection_generation", generation), ("batch_index", .int b), ("component_index", .int c),
   ("name", .str component.1), ("descriptor_sha256", .str component.2)]

/-- The fields of a record that names a batch. -/
def batchFields (generation : Value φ) (b : Nat) (snapshot : Value φ) : List (String × Value φ) :=
  [("connection_generation", generation), ("batch_index", .int b), ("staged_snapshot_sha256", snapshot)]

/-- The tracker is at this component of its plan, on this connection. -/
structure Here (t : Tracker φ) (generation : Value φ) (b c : Nat) (component : Component) : Prop
    extends t.At b c component where
  sameConnection : t.connectionGeneration = generation
  uuid : isUuid generation = true
  batchBound : b ≤ 0xFFFFFFFF
  indexBound : c ≤ 0xFFFFFFFF

variable {t : Tracker φ} {generation : Value φ} {b c : Nat} {component : Component}

/-- Evidence with a reference names its component. -/
theorem names_reference {extra : List (String × Value φ)} :
    Names (members (reference generation b c component ++ extra)) b c component := by
  refine ⟨?_, ?_, ?_, ?_⟩ <;>
  simp only [reference, List.cons_append, List.nil_append, get_members, List.lookup_cons, String.reduceBEq,
    Option.getD_some]

namespace Here

/-- Another phase, and what is being captured. -/
theorem withPhase (h : t.Here generation b c component) (phase : PersistencePhase) (captured : Value φ)
    (expected : Int) (staged : List (PyStr × Value φ)) :
    Tracker.Here { t with phase, capturedBlobSha256 := captured, expectedBlobLength := expected, staged }
      generation b c component :=
  ⟨⟨h.batch, h.index, h.planned⟩, h.sameConnection, h.uuid, h.batchBound, h.indexBound⟩

theorem current (h : t.Here generation b c component) : t.current = .ok component := by
  rw [Tracker.current, h.batch, h.index]
  simp only [h.planned]

theorem sameGeneration (h : t.Here generation b c component) {evidence : Value φ}
    (hevidence : evidence.get "connection_generation" = generation) :
    t.sameGeneration evidence = .ok () := by
  have hsame : differ (evidence.get "connection_generation") t.connectionGeneration = false := by
    rw [hevidence, h.sameConnection]
    exact differ_self_uuid h.uuid
  exact reject_neg (by simp [hsame])

theorem targetsCurrent (h : t.Here generation b c component) {evidence : Value φ}
    (hnames : Names evidence b c component) : t.targetsCurrent evidence = .ok component := by
  refine (passes (a := (b : Int)) ?_).trans ((passes (a := (c : Int)) ?_).trans ((passes h.current).trans
    ((passTest ?_).trans rfl)))
  · have hbound := h.batchBound
    rw [hnames.batch]
    exact uint_of (by omega) (by omega)
  · have hbound := h.indexBound
    rw [hnames.index]
    exact uint_of (by omega) (by omega)
  · simp [h.batch, h.index, hnames.name, hnames.descriptor, Value.isStr]

/-- The evidence of a component. -/
theorem componentEvidence (h : t.Here generation b c component) {milestone : String}
    {extra : List (String × Value φ)} {keys : List String} (hkeys : extra.map Prod.fst = keys) :
    t.componentEvidence (members (reference generation b c component ++ extra)) milestone keys = .ok () := by
  have hgeneration : (members (reference generation b c component ++ extra)).get "connection_generation" =
      generation := by
    simp only [reference, List.cons_append, get_members, List.lookup_cons, String.reduceBEq, Option.getD_some]
  refine (passes (reject_neg (not_not.mpr (hasKeys_members ?_)))).trans ((passes (h.sameGeneration hgeneration)).trans
    ((passes (h.targetsCurrent names_reference)).trans rfl))
  rw [List.map_append, hkeys]
  rfl

/-- The evidence of a component without further fields. -/
theorem componentEvidence_nil (h : t.Here generation b c component) {milestone : String} :
    t.componentEvidence (members (reference generation b c component)) milestone [] = .ok () := by
  have hfields : t.componentEvidence (members (reference generation b c component ++ [])) milestone [] = .ok () :=
    h.componentEvidence rfl
  rwa [List.append_nil] at hfields

/-- A further field is read as it was written. -/
theorem get_extra {name : String} {value : Value φ} {extra : List (String × Value φ)}
    (hname : name ∉ (reference generation b c component).map Prod.fst) (hextra : extra.lookup name = some value) :
    (members (reference generation b c component ++ extra)).get name = value := by
  rw [get_members, List.lookup_append, List.lookup_eq_none_iff.mpr, Option.none_or, hextra]
  · rfl
  · intro item hitem
    refine bne_iff_ne.mpr fun hsame => hname ?_
    rw [hsame]
    exact List.mem_map_of_mem hitem

end Here

theorem statusZero_of {field : String} : statusZero (.int 0 : Value φ) field = .ok () := reject_neg (by simp [isIntIn])

/-! ## Milestones -/

theorem prepareIntent_accepts (h : t.Here generation b c component) (hphase : t.phase = .componentReady) :
    t.prepareIntent (members (reference generation b c component)) = .ok { t with phase := .prepareIntent } :=
  (passTest (not_not.mpr hphase)).trans ((passes h.componentEvidence_nil).trans rfl)

theorem prepared_accepts (h : t.Here generation b c component) (hphase : t.phase = .prepareIntent) {expected : Int}
    (hlow : 0 < expected) (hhigh : expected ≤ 1024 * 1024) :
    t.prepared (members (reference generation b c component ++
        [("status", .int 0), ("expected_blob_length", .int expected)])) =
      .ok { t with expectedBlobLength := expected, phase := .prepared } := by
  refine (passTest (not_not.mpr hphase)).trans ((passes (h.componentEvidence rfl)).trans ?_)
  rw [Here.get_extra (by simp [reference]) rfl, Here.get_extra (by simp [reference]) rfl]
  refine (passes statusZero_of).trans ((passes (uint_of hlow.le hhigh)).trans ((passTest ?_).trans rfl))
  omega

theorem completeIntent_accepts (h : t.Here generation b c component) (hphase : t.phase = .prepared) :
    t.completeIntent (members (reference generation b c component)) = .ok { t with phase := .completeIntent } :=
  (passTest (not_not.mpr hphase)).trans ((passes h.componentEvidence_nil).trans rfl)

theorem secureBlobCaptured_accepts (h : t.Here generation b c component) (hphase : t.phase = .completeIntent)
    {length : Int} (hlow : 0 ≤ length) (hhigh : length ≤ 1024 * 1024) {hash : Value φ} (hhash : isSha256 hash = true)
    (hfits : BlobFits component.1 length t.expectedBlobLength) :
    t.secureBlobCaptured (members (reference generation b c component ++
        [("status", .int 0), ("blob_length", .int length), ("secure_blob_sha256", hash)])) =
      .ok { t with capturedBlobSha256 := hash, phase := .secureBlobCaptured } := by
  refine (passTest (not_not.mpr hphase)).trans ((passes (h.componentEvidence rfl)).trans ?_)
  rw [Here.get_extra (by simp [reference]) rfl, Here.get_extra (by simp [reference]) rfl,
    Here.get_extra (by simp [reference]) rfl]
  refine (passes statusZero_of).trans ((passes (uint_of hlow hhigh)).trans ((passes h.current).trans ?_))
  refine (passTest ?_).trans ((passes (requireSha256_eq_ok.mpr hhash)).trans rfl)
  exact not_not.mpr hfits

theorem hostStaged_accepts (h : t.Here generation b c component) (hphase : t.phase = .secureBlobCaptured)
    {hash digest : Value φ} (hhash : isSha256 hash = true) (hdigest : isSha256 digest = true)
    (hcaptured : t.capturedBlobSha256 = hash) :
    t.hostStaged (members (reference generation b c component ++
        [("secure_blob_sha256", hash), ("final_file_sha256", digest)])) =
      .ok { t with staged := stage component.1 digest t.staged, phase := .hostStaged } := by
  refine (passTest (not_not.mpr hphase)).trans ((passes (h.componentEvidence rfl)).trans ?_)
  rw [Here.get_extra (by simp [reference]) rfl, Here.get_extra (by simp [reference]) rfl]
  refine (passes (requireSha256_eq_ok.mpr hhash)).trans ((passes (requireSha256_eq_ok.mpr hdigest)).trans ?_)
  refine (passTest ?_).trans ((passes h.current).trans rfl)
  rw [hcaptured, differ_self_sha256 hhash]
  exact Bool.false_ne_true

theorem confirmIntent_accepts (h : t.Here generation b c component) (hphase : t.phase = .hostStaged)
    (hmore : t.finalComponent = false) :
    t.confirmIntent (members (reference generation b c component)) = .ok { t with phase := .confirmIntent } := by
  refine (passTest ?_).trans ((passes h.componentEvidence_nil).trans rfl)
  simp [hphase, hmore]

theorem confirmed_accepts (h : t.Here generation b c component) (hphase : t.phase = .confirmIntent) :
    t.confirmed (members (reference generation b c component ++ [("status", .int 0)])) =
      .ok { t with
        componentIndex := some (c + 1), capturedBlobSha256 := .none, expectedBlobLength := 0,
        phase := .componentReady } := by
  refine (passTest (not_not.mpr hphase)).trans ((passes (h.componentEvidence rfl)).trans ?_)
  rw [Here.get_extra (by simp [reference]) rfl]
  refine (passes statusZero_of).trans ?_
  rw [h.index]
  rfl

theorem finalConfirmIntent_accepts (h : t.Here generation b c component) (hphase : t.phase = .batchCommitted) :
    t.finalConfirmIntent (members (reference generation b c component)) =
      .ok { t with phase := .finalConfirmIntent } :=
  (passTest (not_not.mpr hphase)).trans ((passes h.componentEvidence_nil).trans rfl)

/-- Behind the last component of a batch: the next batch, or the attestation. -/
theorem finalConfirmed_accepts (h : t.Here generation b c component) (hphase : t.phase = .finalConfirmIntent) :
    t.finalConfirmed (members (reference generation b c component ++ [("status", .int 0)])) =
      .ok (if b + 1 < t.batches.length then
          { t with
            capturedBlobSha256 := .none, expectedBlobLength := 0, batchIndex := some (b + 1),
            componentIndex := some 0, staged := [], phase := .componentReady }
        else { t with capturedBlobSha256 := .none, expectedBlobLength := 0, phase := .attestationReady }) := by
  refine (passTest (not_not.mpr hphase)).trans ((passes (h.componentEvidence rfl)).trans ?_)
  rw [Here.get_extra (by simp [reference]) rfl]
  refine (passes statusZero_of).trans ?_
  simp only [h.batch, Option.getD_some]
  by_cases hmore : b + 1 < t.batches.length
  · rw [if_pos hmore, if_pos hmore]
    rfl
  · rw [if_neg hmore, if_neg hmore]
    rfl

theorem persistenceOutcomeUnknown_accepts (h : t.Here generation b c component)
    (hphase : t.phase ∉ [PersistencePhase.componentReady, .complete, .outcomeUnknown]) {stage reason : String}
    (hstage : stage ∈ ["prepare", "complete", "encode", "host-stage", "early-confirm", "host-commit",
      "final-confirm", "readback"])
    (hreason : reason ∈ ["transport-error", "journal-error", "codec-error", "host-store-error", "readback-error"])
    {hostCommitPossible : Bool} :
    t.persistenceOutcomeUnknown (members (reference generation b c component ++
        [("stage", .str (py stage)), ("reason", .str (py reason)), ("sep_mutation_possible", .bool true),
         ("host_commit_possible", .bool hostCommitPossible)])) =
      .ok { t with
        outcomeUnknownStage := .str (py stage), outcomeUnknownHostCommitPossible := .bool hostCommitPossible,
        phase := .outcomeUnknown } := by
  have hin : ∀ {text : String} {texts : List String}, text ∈ texts →
      isIn (.str (py text) : Value φ) texts = .ok true := by
    intro text texts htext
    have hany : texts.any (fun other => (Value.str (py text) : Value φ).isStr (py other)) = true :=
      List.any_eq_true.mpr ⟨text, htext, by simp [Value.isStr]⟩
    rw [isIn, if_pos (show isHashable (.str (py text) : Value φ) = true from rfl), hany]
  refine (passTest hphase).trans ((passes (h.componentEvidence rfl)).trans ?_)
  rw [Here.get_extra (by simp [reference]) rfl, Here.get_extra (by simp [reference]) rfl,
    Here.get_extra (by simp [reference]) rfl, Here.get_extra (by simp [reference]) rfl]
  refine (passes (hin hstage)).trans ((passTest (by simp)).trans ((passes (hin hreason)).trans ?_))
  exact (passTest (by simp)).trans ((passTest (by simp [Value.isTrue, isBool])).trans rfl)

/-! ### Batches -/

/-- The staged files are there for every component of the batch. -/
theorem stagedModel_of {files : List (PyStr × Value φ)} (hbatch : t.batchIndex = some b)
    (hnames : files.map Prod.fst = (t.batches.getD b []).map Prod.fst)
    (hfiles : ∀ file ∈ files, lookup file.1 t.staged = some file.2) :
    t.stagedModel = .ok (.list (files.map fileRow)) := by
  suffices hrows : ∀ f : Component → Check φ (Value φ),
      (∀ component digest, lookup component.1 t.staged = some digest → f component = .ok (fileRow (component.1, digest))) →
      ∀ (batch : List Component) (files : List (PyStr × Value φ)), files.map Prod.fst = batch.map Prod.fst →
      (∀ file ∈ files, lookup file.1 t.staged = some file.2) → batch.mapM f = .ok (files.map fileRow) by
    rw [stagedModel, hbatch]
    refine (passes (hrows _ (fun component digest hlookup => ?_) _ files hnames hfiles)).trans rfl
    simp only [hlookup]
    rfl
  intro f hf batch
  induction batch with
  | nil =>
    intro files hnames _
    rw [List.map_nil, List.map_eq_nil_iff] at hnames
    subst hnames
    rfl
  | cons component batch ih =>
    intro files hnames hfiles
    cases files with
    | nil => simp at hnames
    | cons file files =>
      obtain ⟨hname, hnames⟩ := List.cons_eq_cons.mp hnames
      obtain ⟨hfile, hfiles⟩ := List.forall_mem_cons.mp hfiles
      rw [hname] at hfile
      rw [List.mapM_cons, hf component file.2 hfile]
      refine (passes rfl).trans ((passes (ih files hnames hfiles)).trans ?_)
      rw [List.map_cons, ← hname]
      rfl

/-- The evidence of a batch: the digest of its staged files. -/
theorem batchEvidence_accepts (h : t.Here generation b c component) {files : List (PyStr × Value φ)}
    (hnames : files.map Prod.fst = (t.batches.getD b []).map Prod.fst)
    (hfiles : ∀ file ∈ files, lookup file.1 t.staged = some file.2) {snapshot : PyStr}
    (hsnapshot : snapshotHash (.list (files.map fileRow)) = .ok snapshot)
    (hsha : isSha256 (.str snapshot : Value φ) = true) {milestone : String} :
    t.batchEvidence (members (batchFields generation b (.str snapshot))) milestone = .ok () := by
  have hgeneration : (members (batchFields generation b (.str snapshot))).get "connection_generation" =
      generation := by
    simp only [batchFields, get_members, List.lookup_cons, String.reduceBEq, Option.getD_some]
  have hindex : (members (batchFields generation b (.str snapshot))).get "batch_index" = .int b := by
    simp only [batchFields, get_members, List.lookup_cons, String.reduceBEq, Option.getD_some]
  have hvalue : (members (batchFields generation b (.str snapshot))).get "staged_snapshot_sha256" =
      .str snapshot := by
    simp only [batchFields, get_members, List.lookup_cons, String.reduceBEq, Option.getD_some]
  have hbound := h.batchBound
  refine (passes (reject_neg (not_not.mpr (hasKeys_members rfl)))).trans
    ((passes (h.sameGeneration hgeneration)).trans ?_)
  rw [hindex, hvalue]
  refine (passes (uint_of (n := (b : Int)) (by omega) (by omega))).trans ((passTest (by simp [h.batch])).trans ?_)
  refine (passes (requireSha256_eq_ok.mpr hsha)).trans ((passes (stagedModel_of h.batch hnames hfiles)).trans ?_)
  exact (passes hsnapshot).trans (reject_neg (by simp [Value.isStr]))

theorem hostBatchCommitIntent_accepts (hphase : t.phase = .hostStaged) (hfinal : t.finalComponent = true)
    {evidence : Value φ} (hevidence : t.batchEvidence evidence "CATACOMB_HOST_BATCH_COMMIT_INTENT" = .ok ()) :
    t.hostBatchCommitIntent evidence = .ok { t with phase := .batchCommitIntent } := by
  refine (passTest ?_).trans ((passes hevidence).trans rfl)
  simp [hphase, hfinal]

theorem hostBatchCommitted_accepts (hphase : t.phase = .batchCommitIntent) {evidence : Value φ}
    (hevidence : t.batchEvidence evidence "CATACOMB_HOST_BATCH_COMMITTED" = .ok ()) :
    t.hostBatchCommitted evidence = .ok { t with phase := .batchCommitted } :=
  (passTest (not_not.mpr hphase)).trans ((passes hevidence).trans rfl)

theorem persistenceAttested_accepts (hphase : t.phase = .attestationReady) (hgeneration : t.connectionGeneration = generation)
    (huuid : isUuid generation = true) (hcount : t.batches.length ≤ 0xFFFFFFFF) {snapshot : Value φ}
    (hsnapshot : isSha256 snapshot = true) :
    t.persistenceAttested (members
        [("connection_generation", generation), ("batch_count", .int t.batches.length),
         ("reconciliation_snapshot_sha256", snapshot), ("sep_host_generation_equal", .bool true),
         ("independent_archive_readback", .bool true)]) =
      .ok { t with
        reconciliationSnapshotSha256 := snapshot, sepHostGenerationEqual := true,
        independentArchiveReadback := true, phase := .complete } := by
  refine (passTest (not_not.mpr hphase)).trans
    ((passes (reject_neg (not_not.mpr (hasKeys_members rfl)))).trans ?_)
  simp only [sameGeneration, get_members, List.lookup_cons, String.reduceBEq, Option.getD_some]
  rw [hgeneration, differ_self_uuid huuid]
  refine (passes (reject_neg Bool.false_ne_true)).trans ((passes (uint_of (by omega) (by omega))).trans ?_)
  refine (passTest (by simp)).trans ((passes (requireSha256_eq_ok.mpr hsnapshot)).trans ?_)
  exact (passTest (by simp [Value.isTrue])).trans rfl

/-! ## The dispatch -/

theorem ne_of_handler {handler : String × (Tracker φ → Value φ → Check φ (Tracker φ))} (hmem : handler ∈ handlers) :
    handler.1 ≠ "CATACOMB_EARLY_CONFIRM_RECOVERED" ∧ handler.1 ≠ "CATACOMB_PERSISTENCE_PLAN" := by
  revert handler
  simp [handlers]

/-- **What a handler takes**, `consume` takes under its name. -/
theorem consume_accepts {handler : String × (Tracker φ → Value φ → Check φ (Tracker φ))} (hmem : handler ∈ handlers)
    (hstarted : t.phase ≠ .notStarted) (evidence : Value φ) (allowBiolockoutOnly : Bool) :
    t.consume (py handler.1) evidence allowBiolockoutOnly = handler.2 t evidence := by
  obtain ⟨hearly, hplan⟩ := ne_of_handler hmem
  rw [consume, if_neg (py_inj.not.mpr hearly), if_neg (py_inj.not.mpr hplan), if_neg hstarted]
  cases hfind : (handlers (φ := φ)).find? (fun h => py h.1 = py handler.1) with
  | none => exact absurd (decide_eq_true rfl) (List.find?_eq_none.mp hfind handler hmem)
  | some found =>
    have hname := List.find?_some hfind
    obtain rfl := List.inj_on_of_nodup_map names_handlers (List.mem_of_find?_eq_some hfind) hmem
      (py_inj.mp (of_decide_eq_true hname))
    rfl

end Accepts

end T2TouchId.Journal.Tracker
