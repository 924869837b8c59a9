/-
  The classifier of an interrupted renaming (`src/t2_identity_rename_recovery.py`).

  Problem: a renaming was interrupted, and nobody knows whether the new label has been stored.  The archive, the host
  and the SEP are read again; the classifier says which of two outcomes it was, or refuses.  What it says becomes the
  record that closes the journal, which the journal tests once more.

  1. **Program** — `classify`, in the order of the source, and `reconciledRecord`: the milestone and the evidence that
     `append_reconciled` hands to `append_checked`.
  2. **Specification** — `Unchanged` and `Committed`: what the snapshots are in each outcome.
  3. **The crux (`classify_ok`)** — the classifier returns the one outcome that holds, where the other does not.
  4. **Result** — `classify_exclusive`: and the journal accepts the record of it.
-/
import T2TouchId.Catacomb.EditLaws
import T2TouchId.Identities.Recovery
import T2TouchId.Journal.Rename.Closing

set_option linter.unusedSectionVars false

namespace T2TouchId.Identities.RenameRecovery

open T2TouchId.Python T2TouchId.Python.Json T2TouchId.Journal T2TouchId.User T2TouchId.Identities
open T2TouchId.Catacomb.Codec (Identity UserCatacomb)
open T2TouchId.Journal.Rename (State History Milestone run validateHistory validateHistory_concat validateHistory_ok
  identityCount milestoneOf milestoneNamed milestoneNamed_of Recoverable run_recoverable run_baseline)

section Program

variable {φ ψ : Type} [JsonFloat φ]

/-! ## Program -/

/-- `IdentityRenameRecovery`; the outcome is `"committed"` or `"no-change"`. -/
structure IdentityRenameRecovery (φ : Type) where
  committed : Bool
  connectionGeneration : Value φ
  nameSha256 : PyStr
  snapshotSha256 : PyStr
  identityCount : Value φ

/-- The tests of the journal, and of the bindings. -/
def checkBindings (st : State φ) (localCatacomb : UserCatacomb ψ) (live mapping : Value φ) : Check φ Unit := do
  reject (st.phase ≠ .outcomeUnknown ∨ isNone st.recoveryAction ∨ isNone st.targetIdentityUuid
      ∨ isNone st.previousNameSha256 ∨ isNone st.newNameSha256)
    "rename journal is not recoverable"
  let generation := live.get "connection_generation"
  reject (generation.pyEq (st.baseline.get "connection_generation")
      ∨ differ mapping (st.baseline.get "mapping_generation")
      ∨ differ (.int localCatacomb.expectedUserId) (st.baseline.get "apple_uid"))
    "rename recovery binding did not advance"
  reject (¬ isUuid generation) "rename recovery inventory does not reconcile"

/-- The summary of inventories that agree. -/
def reconcile (localCatacomb : UserCatacomb ψ) (live : Value φ) : Check φ (Value φ) :=
  match summarize localCatacomb live with
  | .ok summary => .ok summary
  | .error _ => fail (py "rename recovery inventory does not reconcile")

/-- The target, among the identities of the archive. -/
def targets (st : State φ) (localCatacomb : UserCatacomb ψ) : List (Identity ψ) :=
  localCatacomb.identities.filter fun identity =>
    (Value.str identity.uuid).pyEq st.targetIdentityUuid && (Value.int identity.entity).pyEq st.targetEntity

/-- The set of identities has not changed; the name that the target has. -/
def targetName (st : State φ) (localCatacomb : UserCatacomb ψ) (host : Value φ) : Check φ PyStr := do
  let hostPairs ← hostTriples host
  reject (¬ sameSet (recordTriples (st.baseline.get "identity_records")) (localTriples localCatacomb.identities)
      ∨ ¬ sameSet (localTriples localCatacomb.identities) hostPairs)
    "rename changed the identity set"
  match targets st localCatacomb with
  | [target] => return target.name
  | _ => fail (py "rename target is no longer unique")

/-- The states of the Catacomb: none needs to be saved. -/
def checkClean (catacomb appleUid : Value φ) : Check φ Unit :=
  reject ((userStates catacomb appleUid).length ≠ 1 ∨ (masterStates catacomb).length ≠ 1
      ∨ ¬ isFalse (needsSave (userStates catacomb appleUid)) ∨ ¬ isFalse (needsSave (masterStates catacomb)))
    "SEP Catacomb is not clean"

/-- `unchanged`. -/
def isUnchanged (st : State φ) (nameHash : PyStr) (before after : List (Value φ)) (catacomb : Value φ) : Bool :=
  (Value.str nameHash).pyEq st.previousNameSha256 && hashesKept before after
    && (catacomb.get "hash").pyEq ((st.baseline.get "sep_catacomb").get "hash")
    && !st.recoveryAction.isStr (py "commit-rolled-forward")

/-- `committed`. -/
def isCommitted (st : State φ) (nameHash : PyStr) (before after : List (Value φ)) : Check φ Bool := do
  let userName := userComponentName (st.baseline.get "apple_uid")
  if (Value.str nameHash).pyEq st.newNameSha256 && onlyStaged userName st.persistence.staged then
    let written ← stagedWritten userName st.persistence.staged after
    return written && othersKept userName before after && !st.recoveryAction.isStr (py "prepare-discarded")
  else return false

/-- `snapshot`. -/
def snapshotModel (st : State φ) (localCatacomb : UserCatacomb ψ) (host live mapping : Value φ)
    (after : List (Value φ)) : Value φ :=
  members
    [("account_uuid", host.get "account_uuid"), ("bag_uuid", host.get "bag_uuid"),
     ("connection_generation", live.get "connection_generation"), ("host_components", .list (sortedComponents after)),
     ("labels", .list (labels localCatacomb.identities)), ("mapping_generation", mapping),
     ("recovery_action", st.recoveryAction), ("sep_catacomb_hash", (live.get "catacomb").get "hash"),
     ("sep_catacomb_uuid", (live.get "catacomb").get "uuid")]

def classify (st : State φ) (localCatacomb : UserCatacomb ψ) (host live mapping : Value φ) :
    Check φ (IdentityRenameRecovery φ) := do
  checkBindings st localCatacomb live mapping
  let summary ← reconcile localCatacomb live
  let name ← targetName st localCatacomb host
  reject (differ (host.get "account_uuid") (st.baseline.get "account_uuid")
      ∨ differ (host.get "bag_uuid") (st.baseline.get "bag_uuid")
      ∨ differ (host.get "master_enrollment_count") (st.baseline.get "master_enrollment_count"))
    "rename changed account, keybag, or enrollment count"
  let (before, after) ← comparedComponents "rename changed the component set" "rename changed component metadata"
    st.baseline host
  let catacomb ← boundCatacomb live st.baseline
  checkClean catacomb (st.baseline.get "apple_uid")
  let unchanged := isUnchanged st (nameSha256 name) before after catacomb
  let committed ← isCommitted st (nameSha256 name) before after
  reject (unchanged = committed) "fresh state is neither uniquely unchanged nor committed"
  let snapshotSha256 ← Tracker.snapshotHash (snapshotModel st localCatacomb host live mapping after)
  return {
    committed
    connectionGeneration := live.get "connection_generation"
    nameSha256 := nameSha256 name
    snapshotSha256
    identityCount := summary.get "identity_count" }

/-- The milestone of an outcome. -/
def reconciledMilestone (recovery : IdentityRenameRecovery φ) : String :=
  if recovery.committed then "RENAME_RECOVERY_RECONCILED_COMMITTED" else "RENAME_RECOVERY_RECONCILED_NO_CHANGE"

/-- The evidence that `append_reconciled` hands to `append_checked`. -/
def reconciledEvidence (st : State φ) (recovery : IdentityRenameRecovery φ) (mapping : Value φ) : Value φ :=
  members
    [("connection_generation", recovery.connectionGeneration), ("host_reconciled", .bool true),
     ("identity_count", recovery.identityCount), ("identity_set_unchanged", .bool true),
     ("identity_uuid", st.targetIdentityUuid), ("local_live_equal", .bool true), ("mapping_generation", mapping),
     ("name_sha256", .str recovery.nameSha256), ("recovery_action", st.recoveryAction), ("sep_clean", .bool true),
     ("snapshot_sha256", .str recovery.snapshotSha256)]

end Program

section Results

variable {φ ψ : Type} [JsonFloat φ] {st : State φ} {localCatacomb : UserCatacomb ψ} {host live mapping : Value φ}
  {target : Identity ψ}

/-! ## Specification -/

/-- What is found in either outcome: the archive, the host and the SEP have the identities of the baseline, on another
    connection. -/
structure Observed (st : State φ) (localCatacomb : UserCatacomb ψ) (host live mapping : Value φ)
    (target : Identity ψ) : Prop where
  phase : st.phase = .outcomeUnknown
  action : isNone st.recoveryAction = false
  named : isNone st.targetIdentityUuid = false
  fresh : (live.get "connection_generation").pyEq (st.baseline.get "connection_generation") = false
  generation : isUuid (live.get "connection_generation") = true
  mapping : differ mapping (st.baseline.get "mapping_generation") = false
  reconciled : Reconciled localCatacomb live
  identities : sameSet (recordTriples (st.baseline.get "identity_records")) (localTriples localCatacomb.identities) = true
  known : sameSet (localTriples localCatacomb.identities) (recordTriples (host.get "identity_records")) = true
  target : targets st localCatacomb = [target]
  components : SameComponents (itemsOf (st.baseline.get "host_components")) (itemsOf (host.get "host_components"))

/-- Nothing has changed: the components, the Catacomb of the SEP and the name are those of the baseline. -/
structure Unchanged (st : State φ) (host live : Value φ) (target : Identity ψ) : Prop where
  name : st.previousNameSha256 = .str (nameSha256 target.name)
  components : hashesKept (itemsOf (st.baseline.get "host_components")) (itemsOf (host.get "host_components")) = true
  sep : ((live.get "catacomb").get "hash").pyEq ((st.baseline.get "sep_catacomb").get "hash") = true
  action : st.recoveryAction ≠ .str (py "commit-rolled-forward")

/-- The new label is stored: the user component, and no other, is the one that was staged. -/
structure Committed (st : State φ) (host : Value φ) (target : Identity ψ) : Prop where
  name : st.newNameSha256 = .str (nameSha256 target.name)
  staged : onlyStaged (userComponentName (st.baseline.get "apple_uid")) st.persistence.staged = true
  written : Written (userComponentName (st.baseline.get "apple_uid")) st.persistence.staged
    (itemsOf (host.get "host_components"))
  others : othersKept (userComponentName (st.baseline.get "apple_uid")) (itemsOf (st.baseline.get "host_components"))
    (itemsOf (host.get "host_components")) = true
  action : st.recoveryAction ≠ .str (py "prepare-discarded")

/-! ## The classifier -/

theorem isStr_eq_false {value : Value φ} {text : PyStr} : (!value.isStr text) = true ↔ value ≠ .str text := by
  rw [Bool.not_eq_true', ← Bool.not_eq_true, isStr_iff]

theorem isUnchanged_iff : isUnchanged st (nameSha256 target.name) (itemsOf (st.baseline.get "host_components"))
    (itemsOf (host.get "host_components")) (live.get "catacomb") = true ↔ Unchanged st host live target := by
  rw [isUnchanged, Bool.and_eq_true_iff, Bool.and_eq_true_iff, Bool.and_eq_true_iff, str_pyEq_iff, isStr_eq_false]
  constructor
  · rintro ⟨⟨⟨hname, hcomponents⟩, hsep⟩, haction⟩
    exact ⟨hname, hcomponents, hsep, haction⟩
  · rintro ⟨hname, hcomponents, hsep, haction⟩
    exact ⟨⟨⟨hname, hcomponents⟩, hsep⟩, haction⟩

theorem isCommitted_ok : Returns (isCommitted st (nameSha256 target.name) (itemsOf (st.baseline.get "host_components"))
    (itemsOf (host.get "host_components"))) fun committed => (committed = true ↔ Committed st host target) := by
  unfold isCommitted
  refine .ite (fun hstaged => .bind fun written hwritten => .pure ?_) fun hstaged => .pure ?_
  · obtain ⟨hname, hstaged⟩ := Bool.and_eq_true_iff.mp hstaged
    have hiff := stagedWritten_ok written hwritten
    rw [Bool.and_eq_true_iff, Bool.and_eq_true_iff, isStr_eq_false]
    constructor
    · rintro ⟨⟨hwritten, hothers⟩, haction⟩
      exact ⟨str_pyEq_iff.mp hname, hstaged, hiff.mp hwritten, hothers, haction⟩
    · intro h
      exact ⟨⟨hiff.mpr h.written, h.others⟩, h.action⟩
  · refine iff_of_false Bool.false_ne_true fun h => hstaged ?_
    exact Bool.and_eq_true_iff.mpr ⟨str_pyEq_iff.mpr h.name, h.staged⟩

/-- What the classifier returns. -/
structure Classified (st : State φ) (localCatacomb : UserCatacomb ψ) (host live : Value φ) (target : Identity ψ)
    (recovery : IdentityRenameRecovery φ) : Prop where
  committed : recovery.committed = true → Committed st host target ∧ ¬ Unchanged st host live target
  unchanged : recovery.committed = false → Unchanged st host live target ∧ ¬ Committed st host target
  generation : recovery.connectionGeneration = live.get "connection_generation"
  name : recovery.nameSha256 = nameSha256 target.name
  snapshot : isSha256 (.str recovery.snapshotSha256 : Value φ) = true
  count : recovery.identityCount = .int localCatacomb.identities.length

theorem targetName_ok : Returns (targetName st localCatacomb host) fun name =>
    sameSet (recordTriples (st.baseline.get "identity_records")) (localTriples localCatacomb.identities) = true ∧
    sameSet (localTriples localCatacomb.identities) (recordTriples (host.get "identity_records")) = true ∧
    ∃ target, targets st localCatacomb = [target] ∧ name = target.name := by
  refine .bind fun hostPairs hhost => .guard fun hsame => ?_
  obtain rfl := hostTriples_ok hostPairs hhost
  obtain ⟨hbaseline, hhost⟩ := not_or.mp hsame
  cases htargets : targets st localCatacomb with
  | nil => exact .fail
  | cons target rest =>
    cases rest with
    | nil => exact .pure ⟨not_not.mp hbaseline, not_not.mp hhost, target, rfl, rfl⟩
    | cons other rest => exact .fail

theorem reconcile_ok : Returns (reconcile localCatacomb live) fun summary =>
    Reconciled localCatacomb live ∧ summary = summaryOf localCatacomb := by
  intro summary h
  unfold reconcile at h
  split at h
  · rename_i found hfound
    obtain rfl := Except.ok.inj h
    exact summarize_ok.mp hfound
  · exact nomatch h

/-- **The classifier** returns the outcome that holds, where the other does not. -/
theorem classify_ok : Returns (classify st localCatacomb host live mapping) fun recovery =>
    ∃ target, Observed st localCatacomb host live mapping target ∧
      Classified st localCatacomb host live target recovery := by
  refine .seq fun hbindings => .bind fun summary hsummary => .bind fun name hname => .skip fun _ => ?_
  refine .bind fun components hcomponents => .bind fun catacomb hcatacomb => .skip fun _ => ?_
  obtain ⟨rfl, hcomponents⟩ := comparedComponents_ok components hcomponents
  obtain rfl := boundCatacomb_ok catacomb hcatacomb
  obtain ⟨hidentities, hhost, target, htarget, rfl⟩ := targetName_ok name hname
  refine .bind fun committed hcommitted => .guard fun hdiffer => .bind fun snapshot hsnapshot => .pure ?_
  obtain ⟨hreconciled, rfl⟩ := reconcile_ok summary hsummary
  have hiff := isCommitted_ok committed hcommitted
  have hunchanged : isUnchanged st (nameSha256 target.name) (itemsOf (st.baseline.get "host_components"))
    (itemsOf (host.get "host_components")) (live.get "catacomb") = true ↔ Unchanged st host live target :=
    isUnchanged_iff
  obtain ⟨hjournal, hbindings⟩ := reject_ok hbindings
  obtain ⟨hbinding, hgeneration⟩ := reject_ok hbindings
  simp only [not_or, not_not, Bool.not_eq_true] at hjournal hbinding
  obtain ⟨hphase, haction, hnamed, -, -⟩ := hjournal
  obtain ⟨hfresh, hmapping, -⟩ := hbinding
  refine ⟨target, ⟨hphase, haction, hnamed, hfresh, not_not.mp (reject_eq_ok.mp hgeneration), hmapping, hreconciled,
    hidentities, hhost, htarget, hcomponents⟩, ?_⟩
  exact {
    committed := by
      rintro rfl
      exact ⟨hiff.mp rfl, fun h => hdiffer (hunchanged.mpr h)⟩
    unchanged := by
      rintro rfl
      refine ⟨hunchanged.mp ?_, fun h => Bool.false_ne_true (hiff.mpr h)⟩
      exact eq_true_of_ne_false hdiffer
    generation := rfl
    name := rfl
    snapshot := isSha256_snapshotHash snapshot hsnapshot
    count := by
      show (summaryOf localCatacomb : Value φ).get "identity_count" = _
      rw [show (summaryOf localCatacomb : Value φ).get "identity_count" =
        .int (byEntity localCatacomb.identities).length from get_members _ _, byEntity,
        (List.perm_insertionSort _ _).length_eq] }

/-! ## The record -/

theorem milestoneOf_reconciled (recovery : IdentityRenameRecovery φ) :
    milestoneOf (.str (py (reconciledMilestone recovery)) : Value φ) =
      some (.recoveryReconciled recovery.committed) := by
  unfold reconciledMilestone
  cases recovery.committed with
  | true =>
    rw [if_pos rfl]
    show milestoneNamed (py "RENAME_RECOVERY_RECONCILED_COMMITTED") = _
    exact milestoneNamed_of rfl
  | false =>
    rw [if_neg Bool.false_ne_true]
    show milestoneNamed (py "RENAME_RECOVERY_RECONCILED_NO_CHANGE") = _
    exact milestoneNamed_of rfl

/-- **The journal accepts** the evidence of a recovery that was classified. -/
theorem reconciledEvidence_accepted {lower : PyStr → PyStr} {recovery : IdentityRenameRecovery φ}
    (hbaseline : validateBaseline lower st.baseline = .ok ()) (hrecoverable : Recoverable st)
    (hvalid : Catacomb.Validated localCatacomb) (hobserved : Observed st localCatacomb host live mapping target)
    (hclassified : Classified st localCatacomb host live target recovery) :
    ∃ st', st.recoveryReconciled recovery.committed (reconciledEvidence st recovery mapping) = .ok st' := by
  have hget : ∀ name, (reconciledEvidence st recovery mapping).get name = _ := fun name => get_members name _
  have hgeneration : (reconciledEvidence st recovery mapping).get "connection_generation" =
    live.get "connection_generation" := (hget _).trans hclassified.generation
  have hidentity : (reconciledEvidence st recovery mapping).get "identity_uuid" = st.targetIdentityUuid := hget _
  have hname : (reconciledEvidence st recovery mapping).get "name_sha256" = .str (nameSha256 target.name) :=
    (hget _).trans (congrArg Value.str hclassified.name)
  have hsnapshot : (reconciledEvidence st recovery mapping).get "snapshot_sha256" = .str recovery.snapshotSha256 :=
    hget _
  have hmapping : (reconciledEvidence st recovery mapping).get "mapping_generation" = mapping := hget _
  have hcount : (reconciledEvidence st recovery mapping).get "identity_count" =
    .int localCatacomb.identities.length := (hget _).trans hclassified.count
  have haction : (reconciledEvidence st recovery mapping).get "recovery_action" = st.recoveryAction := hget _
  obtain ⟨-, hmappingSha⟩ := validateBaseline_bindings hbaseline
  obtain ⟨text, htext⟩ := str_of_sha256 hmappingSha
  have hmappingSame : mapping = st.baseline.get "mapping_generation" :=
    not_differ_str htext (Bool.eq_false_iff.mp hobserved.mapping)
  obtain ⟨action, -, hactionText⟩ := hrecoverable.action hobserved.action
  have htargetUuid := hrecoverable.target hobserved.named
  have hrows := baselineRows_of hbaseline
  have hlength := length_of_sameSet hrows.rows hrows.distinct hvalid.uuids hobserved.identities
  refine ⟨_, State.recoveryReconciled_accepts hobserved.phase hobserved.action hobserved.named ?_ ?_ ?_ ?_ ?_ ?_
    ?_⟩
  · -- the names of the evidence stand in another order than in the test
    refine hasKeys_of_same ?_ ?_ (hasKeys_members rfl)
    · simp [Journal.Rename.recoveryFields]
    · simp [Journal.Rename.recoveryFields]
  · simp only [List.forall_mem_cons]
    rw [hgeneration, hidentity]
    exact ⟨hobserved.generation, htargetUuid, List.forall_mem_nil _⟩
  · simp only [List.forall_mem_cons]
    rw [hname, hsnapshot, hmapping, hmappingSame]
    exact ⟨isSha256_hash _, hclassified.snapshot, hmappingSha, List.forall_mem_nil _⟩
  · rw [hgeneration]
    exact hobserved.fresh
  · simp only [State.afterRecovery, List.forall_mem_cons]
    rw [hidentity, hname, hmapping, hcount, haction, hactionText, hlength]
    refine ⟨differ_self_uuid htargetUuid, ?_, hobserved.mapping, ?_, differ_self_str _, List.forall_mem_nil _⟩
    · -- the outcome says which name it is
      cases hcommitted : recovery.committed with
      | true =>
        rw [if_pos rfl, (hclassified.committed hcommitted).1.name]
        exact differ_self_str _
      | false =>
        rw [if_neg Bool.false_ne_true, (hclassified.unchanged hcommitted).1.name]
        exact differ_self_str _
    · show (!Value.pyEq (.int _) (.int _)) = false
      rw [identityCount, pyEq_int_self]
      rfl
  · simp only [List.forall_mem_cons]
    exact ⟨congrArg Value.isTrue (hget _), congrArg Value.isTrue (hget _), congrArg Value.isTrue (hget _),
      congrArg Value.isTrue (hget _), List.forall_mem_nil _⟩
  · intro hcommitted
    exact Bool.eq_false_iff.mpr fun h => (hclassified.unchanged hcommitted).1.action (isStr_iff.mp h)

/-- **The recovery of a renaming** has one outcome, and the journal accepts the record of it. -/
theorem classify_exclusive {lower : PyStr → PyStr} {ρ : Type} [PlistFloat ψ] {node : ρ → Node ψ ρ}
    {loads : Bytes → Option ρ} {room : Nat} {data : Bytes} {expectedUserId : Int}
    {records : List (Value φ)} {history : History φ} {recovery : IdentityRenameRecovery φ}
    (hhistory : validateHistory lower records = .ok history)
    (hdecode : Catacomb.Codec.decodeUserCatacomb node loads room data expectedUserId = .ok localCatacomb)
    (h : classify history.toState localCatacomb host live mapping = .ok recovery) :
    ∃ target, Observed history.toState localCatacomb host live mapping target ∧
      (recovery.committed = false →
        Unchanged history.toState host live target ∧ ¬ Committed history.toState host target) ∧
      (recovery.committed = true →
        Committed history.toState host target ∧ ¬ Unchanged history.toState host live target) ∧
      ∀ record, record.get "operation_id" = history.operationId →
        record.get "milestone" = .str (py (reconciledMilestone recovery)) →
        record.get "evidence" = reconciledEvidence history.toState recovery mapping →
        isSha256 (record.get "record_hash") = true →
        ∃ after, validateHistory lower (records ++ [record]) = .ok after := by
  have hrun := validateHistory_ok hhistory
  obtain ⟨target, hobserved, hclassified⟩ := classify_ok recovery h
  refine ⟨target, hobserved, hclassified.unchanged, hclassified.committed, ?_⟩
  intro record hoperation hmilestone hevidence hhash
  obtain ⟨st', haccepted⟩ := reconciledEvidence_accepted (run_baseline records _ hrun) (run_recoverable records _ hrun)
    (Catacomb.validated_of_decode hdecode) hobserved hclassified
  have happly : history.toState.apply (record.get "evidence") (.recoveryReconciled recovery.committed) = .ok st' := by
    rw [hevidence]
    exact haccepted
  have hnamed : milestoneOf (record.get "milestone") = some (.recoveryReconciled recovery.committed) := by
    rw [hmilestone]
    exact milestoneOf_reconciled recovery
  obtain ⟨after, hafter, -⟩ := validateHistory_concat hrun hoperation hnamed happly hhash
  exact ⟨after, hafter⟩

end Results

/-! ### A renaming that was not done -/

section Sample

open T2TouchId.Catacomb (thumbFile fingerLoads)

/-- A component of the host. -/
def sampleComponent (name digits : String) : Value Unit :=
  object [("gid", .int 0), ("mode", .int 384), ("name", .str (py name)), ("sha256", sampleSha digits), ("uid", .int 0)]

def sampleComponents : Value Unit :=
  .list [sampleComponent "master.cat" "000a", sampleComponent "user_000001f5.cat" "000b"]

/-- The identity of the archive. -/
def sampleRecords : Value Unit :=
  .list [object [("entity", .int 1), ("user_id", .int 501), ("uuid", .str (uuidStr 3))]]

def renameBaseline : Value Unit :=
  ((sampleBaseline true).set "host_components" sampleComponents).set "identity_records" sampleRecords

/-- A renaming to `"index"` that stopped behind its intent, and that is recovered. -/
def stoppedRename : List (Entry Unit) :=
  [⟨py "BASELINE_RECONCILED", object [("baseline", renameBaseline), ("operation_kind", .str (py "rename"))]⟩,
   ⟨py "RENAME_INTENT", object
      [("connection_generation", sampleUuid "1001"), ("entity", .int 1), ("identity_uuid", .str (uuidStr 3)),
       ("mapping_generation", sampleSha "00aa"), ("new_name_sha256", .str (nameSha256 (py "index"))),
       ("previous_name_sha256", .str (nameSha256 (py "thumb"))), ("user_id", .int 501)]⟩,
   ⟨py "RENAME_RECOVERY_INTENT", object
      [("action", .str (py "no-local-transaction")), ("host_commit_possible", .bool true),
       ("mapping_generation", sampleSha "00aa"), ("mutation_possible", .bool true)]⟩]

/-- The host, as it was. -/
def renameHost : Value Unit :=
  object
    [("account_uuid", sampleUuid "aaaa"), ("bag_uuid", sampleUuid "bbbb"), ("host_components", sampleComponents),
     ("identity_records", sampleRecords), ("master_enrollment_count", .int 1)]

/-- The SEP, on another connection. -/
def renameLive : Value Unit :=
  object
    [("apple_uid", .int 501), ("biometric_protocol_version", .int 2),
     ("catacomb", object
       [("hash", sampleSha "00dd"), ("present", .bool true),
        ("user_states", .list
          [object [("kind", .str (py "user")), ("needs_save", .bool false), ("user_id", .int 501)],
           object [("kind", .str (py "master")), ("needs_save", .bool false)]]),
        ("uuid", sampleUuid "dddd")]),
     ("connection_generation", sampleUuid "1002"), ("double_collection_equal", .bool true),
     ("global_identity_records", .list [object
       [("group_type", .int 0), ("group_uuid", .str nilUuid), ("identity_uuid", .str (uuidStr 3)),
        ("user_id", .int 501)]]),
     ("per_user_identity_records", .list [object [("identity_uuid", .str (uuidStr 3)), ("user_id", .int 501)]])]

/-- What the classifier makes of them. -/
def renameSample : Option (IdentityRenameRecovery Unit) :=
  (validateHistory id (written sampleOperation stoppedRename)).toOption.bind fun history =>
    (Catacomb.Codec.decodeUserCatacomb Plist.node fingerLoads 100 thumbFile 501).toOption.bind fun localCatacomb =>
      (classify history.toState localCatacomb renameHost renameLive (sampleSha "00aa")).toOption

theorem renameSample_committed : renameSample.map (·.committed) = some false := by
  -- the run is evaluated: the head hash of a written journal is a digest without computing it
  obtain ⟨st, hrun, hclassified⟩ := exists_of_map (b := some false)
    (show ((run id (written sampleOperation stoppedRename)).map fun st =>
      (Catacomb.Codec.decodeUserCatacomb Plist.node fingerLoads 100 thumbFile 501).toOption.bind fun localCatacomb =>
        (classify st localCatacomb renameHost renameLive (sampleSha "00aa")).toOption.map (·.committed)).toOption = _ by
      decide +kernel)
  obtain ⟨history, hhistory, rfl⟩ := Journal.Rename.validateHistory_written (by simp [stoppedRename]) hrun
  rw [renameSample, hhistory, ← hclassified]
  simp only [Except.toOption, Option.bind_some, Option.map_bind]
  rfl

theorem classify_exclusive_sample : ∃ (history : History Unit) (localCatacomb : UserCatacomb Int)
    (recovery : IdentityRenameRecovery Unit) (target : Identity Int),
    validateHistory id (written sampleOperation stoppedRename) = .ok history ∧
    Catacomb.Codec.decodeUserCatacomb Plist.node fingerLoads 100 thumbFile 501 = .ok localCatacomb ∧
    classify history.toState localCatacomb renameHost renameLive (sampleSha "00aa") = .ok recovery ∧
    Unchanged history.toState renameHost renameLive target ∧ ¬ Committed history.toState renameHost target := by
  have hsample := renameSample_committed
  obtain ⟨recovery, hrecovery, houtcome⟩ := Option.map_eq_some_iff.mp hsample
  obtain ⟨history, hhistory, hrecovery⟩ := Option.bind_eq_some_iff.mp hrecovery
  obtain ⟨localCatacomb, hlocal, hrecovery⟩ := Option.bind_eq_some_iff.mp hrecovery
  obtain ⟨target, -, hunchanged, -, -⟩ :=
    classify_exclusive (ok_of_toOption hhistory) (ok_of_toOption hlocal) (ok_of_toOption hrecovery)
  obtain ⟨hdone, hnot⟩ := hunchanged houtcome
  exact ⟨history, localCatacomb, recovery, target, ok_of_toOption hhistory, ok_of_toOption hlocal,
    ok_of_toOption hrecovery, hdone, hnot⟩

end Sample

end T2TouchId.Identities.RenameRecovery
