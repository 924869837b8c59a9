/-
  What a reconciled rename has, and what it accepts.

  1. **Reconciled** — `reconciled_last`: the last record of a reconciled rename is one of two, and states
     the target, its name, a snapshot, and a connection.
  2. **Acceptance** — `postRebootVerified_accepts`, `recoveryReconciled_accepts`, and `validateHistory_concat` for a
     whole journal.
-/
import T2TouchId.Journal.Rename.Steps

set_option linter.unusedSectionVars false

namespace T2TouchId.Journal.Rename

open T2TouchId.Python T2TouchId.Python.Json

section Closing

variable {φ : Type} [JsonFloat φ]

/-- **Every accepted journal** has an operation with a UUID. -/
theorem run_operation {lower : PyStr → PyStr} (records : List (Value φ)) : ∀ st,
    run lower records = .ok st → isUuid st.operationId = true := by
  refine journalRun_induction (P := fun _ (st : State φ) => isUuid st.operationId = true)
    (fun first => ?_) (fun _ st record st' _ ih hstep => ?_) records
  · show Returns (start lower first) _
    refine .skip fun _ => .skip fun _ => .skip fun _ => .skip fun _ => .seq fun hoperation => ?_
    exact .pure (requireUuid_eq_ok.mp hoperation)
  · obtain ⟨milestone, -, happly⟩ := st.step_ok record st' hstep
    rw [(st.apply_stepped _ milestone st' happly).operationId]
    exact ih

/-! ## Reconciled -/

/-- The milestones that close a rename. -/
def closes : Milestone → Bool
  | .reconciled | .recoveryReconciled true => true
  | _ => false

theorem closes_of_behind {milestone : Milestone}
    (h : RenamePhase.reconciled ∈ phasesBehind milestone) : closes milestone = true := by
  cases milestone with
  | reconciled => rfl
  | recoveryReconciled committed =>
    cases committed with
    | true => rfl
    | false => exact absurd h (by simp [phasesBehind])
  | _ => exact absurd h (by simp [phasesBehind])

/-- What the closing record leaves in the journal. -/
structure Closed (st : State φ) (evidence : Value φ) : Prop where
  connection : isUuid (evidence.get "connection_generation") = true
  target : isUuid st.targetIdentityUuid = true
  newName : isSha256 st.newNameSha256 = true
  snapshot : isSha256 st.reconciledSnapshotSha256 = true

theorem sha256_of_not_differ {v w : Value φ} (hv : isSha256 v = true) (h : differ v w = false) :
    isSha256 w = true := by
  cases v with
  | str s => exact (eq_of_not_differ_str rfl h) ▸ hv
  | _ => exact nomatch hv

namespace State

variable (st : State φ) (evidence : Value φ)

/-- **A closing milestone** names the target with its new name, and states a snapshot. -/
theorem apply_closes {milestone : Milestone} (hcloses : closes milestone = true)
    (hconnection : isUuid (st.baseline.get "connection_generation") = true) :
    Returns (st.apply evidence milestone) fun st' => Closed st' evidence := by
  cases milestone with
  | reconciled =>
    refine .skip fun _ => .skip fun _ => .seq fun huuid => .seq fun hhashes => .guard fun hbinding => ?_
    have huuid := requireUuid_eq_ok.mp huuid
    have hhash := fun field hfield => requireSha256_eq_ok.mp (requireAll_ok hhashes field hfield)
    simp only [not_or, Bool.not_eq_true] at hbinding
    obtain ⟨hgeneration, htarget, hname, -⟩ := hbinding
    obtain ⟨s, hs⟩ := str_of_uuid huuid
    obtain ⟨g, hg⟩ := str_of_uuid hconnection
    refine .pure ⟨?_, ?_, sha256_of_not_differ (hhash "new_name_sha256" (by simp)) hname, ?_⟩
    · have hsame : evidence.get "connection_generation" = st.baseline.get "connection_generation" :=
        (not_differ_str hg (by rw [hgeneration]; decide) : _)
      rw [hsame]
      exact hconnection
    · exact (eq_of_not_differ_str hs htarget) ▸ huuid
    · exact hhash "snapshot_sha256" (by simp)
  | recoveryReconciled committed =>
    obtain rfl : committed = true := by
      cases committed with
      | true => rfl
      | false => exact nomatch hcloses
    refine .skip fun _ => .skip fun _ => .seq fun huuids => .seq fun hhashes => ?_
    refine .guard fun hbinding => .skip fun _ => ?_
    have huuid := fun field hfield => requireUuid_eq_ok.mp (requireAll_ok huuids field hfield)
    have hhash := fun field hfield => requireSha256_eq_ok.mp (requireAll_ok hhashes field hfield)
    simp only [not_or, Bool.not_eq_true] at hbinding
    obtain ⟨-, htarget, hname, -⟩ := hbinding
    obtain ⟨s, hs⟩ := str_of_uuid (huuid "identity_uuid" (by simp))
    refine .pure ⟨huuid "connection_generation" (by simp), ?_, ?_, hhash "snapshot_sha256" (by simp)⟩
    · exact (eq_of_not_differ_str hs htarget) ▸ huuid "identity_uuid" (by simp)
    · exact sha256_of_not_differ (hhash "name_sha256" (by simp)) hname
  | _ => exact nomatch hcloses

end State

/-- **The last record of a reconciled rename** closes it. -/
theorem reconciled_last {lower : PyStr → PyStr} {earlier : List (Value φ)} {reconciling : Value φ}
    {st : State φ} (h : run lower (earlier ++ [reconciling]) = .ok st) (hphase : st.phase = .reconciled) :
    (∃ milestone, milestoneOf (reconciling.get "milestone") = some milestone ∧
      closes milestone = true) ∧ Closed st (reconciling.get "evidence") := by
  rcases journalRun_last h with ⟨-, hstart⟩ | ⟨st0, hrun, hstep⟩
  · obtain ⟨-, rfl⟩ := start_ok lower reconciling st hstart
    exact nomatch hphase
  · obtain ⟨milestone, hmilestone, happly⟩ := st0.step_ok reconciling st hstep
    have hbehind := (st0.apply_stepped _ milestone st happly).behind
    rw [hphase] at hbehind
    have hcloses := closes_of_behind hbehind
    have hconnection := validateBaseline_uuids (run_baseline earlier st0 hrun)
      "connection_generation" (by simp)
    exact ⟨⟨milestone, hmilestone, hcloses⟩, st0.apply_closes _ hcloses hconnection st happly⟩

/-! ## Acceptance -/

/-- The fields of a proof after the reboot, … -/
def postRebootFields : List String :=
  ["linux_boot_uuid", "connection_generation", "identity_uuid", "new_name_sha256",
   "snapshot_sha256", "mapping_generation", "identity_set_unchanged", "label_preserved",
   "local_live_equal"]

/-- … and what they are compared with. -/
def State.afterReboot (st : State φ) : List (String × Value φ) :=
  [("identity_uuid", st.targetIdentityUuid), ("new_name_sha256", st.newNameSha256),
   ("snapshot_sha256", st.reconciledSnapshotSha256),
   ("mapping_generation", st.baseline.get "mapping_generation")]

/-- **A proof after the reboot** is accepted when it states what the journal has, on another boot and
    another connection than the baseline. -/
theorem State.postRebootVerified_accepts {st : State φ} {evidence : Value φ}
    (hphase : st.phase = .reconciled) (hkeys : hasKeys postRebootFields evidence = true)
    (huuids : ∀ field ∈ ["linux_boot_uuid", "connection_generation", "identity_uuid"],
      isUuid (evidence.get field) = true)
    (hhashes : ∀ field ∈ ["new_name_sha256", "snapshot_sha256", "mapping_generation"],
      isSha256 (evidence.get field) = true)
    (hcrossed : ∀ field ∈ ["linux_boot_uuid", "connection_generation"],
      (evidence.get field).pyEq (st.baseline.get field) = false)
    (hsame : ∀ item ∈ st.afterReboot, differ (evidence.get item.1) item.2 = false)
    (htrue : ∀ field ∈ ["identity_set_unchanged", "label_preserved", "local_live_equal"],
      (evidence.get field).isTrue = true) :
    st.postRebootVerified evidence = .ok { st with phase := .postRebootVerified } := by
  refine (passTest (not_not.mpr hphase)).trans ?_
  refine (passes (reject_neg (not_not.mpr hkeys))).trans ?_
  refine (passes (requireAll_of fun field hfield => requireUuid_eq_ok.mpr (huuids field hfield))).trans ?_
  refine (passes (requireAll_of fun field hfield =>
    requireSha256_eq_ok.mpr (hhashes field hfield))).trans ?_
  refine (passTest ?_).trans rfl
  simp only [State.afterReboot, List.forall_mem_cons] at hsame hcrossed htrue
  obtain ⟨hidentity, hname, hsnapshot, hmapping, -⟩ := hsame
  obtain ⟨hset, hlabel, hlive, -⟩ := htrue
  simp [hidentity, hname, hsnapshot, hmapping, hset, hlabel, hlive, hcrossed.1, hcrossed.2.1]

/-- The fields of the reconciliation of a recovery. -/
def recoveryFields : List String :=
  ["connection_generation", "identity_uuid", "name_sha256", "snapshot_sha256",
   "mapping_generation", "identity_count", "identity_set_unchanged", "local_live_equal",
   "sep_clean", "host_reconciled", "recovery_action"]

/-- … and what they are compared with. -/
def State.afterRecovery (st : State φ) (committed : Bool) : List (String × Value φ) :=
  [("identity_uuid", st.targetIdentityUuid),
   ("name_sha256", if committed then st.newNameSha256 else st.previousNameSha256),
   ("mapping_generation", st.baseline.get "mapping_generation"),
   ("identity_count", .int (identityCount st.baseline)), ("recovery_action", st.recoveryAction)]

/-- **The reconciliation of a recovery** is accepted when it states what the journal has, on another connection than
    the baseline; one that rolled the commit forward reconciles as committed. -/
theorem State.recoveryReconciled_accepts {st : State φ} {committed : Bool} {evidence : Value φ}
    (hphase : st.phase = .outcomeUnknown) (haction : isNone st.recoveryAction = false)
    (htarget : isNone st.targetIdentityUuid = false) (hkeys : hasKeys recoveryFields evidence = true)
    (huuids : ∀ field ∈ ["connection_generation", "identity_uuid"], isUuid (evidence.get field) = true)
    (hhashes : ∀ field ∈ ["name_sha256", "snapshot_sha256", "mapping_generation"],
      isSha256 (evidence.get field) = true)
    (hfresh : (evidence.get "connection_generation").pyEq (st.baseline.get "connection_generation") = false)
    (hsame : ∀ item ∈ st.afterRecovery committed, differ (evidence.get item.1) item.2 = false)
    (htrue : ∀ field ∈ ["identity_set_unchanged", "local_live_equal", "sep_clean", "host_reconciled"],
      (evidence.get field).isTrue = true)
    (hforward : committed = false → st.recoveryAction.isStr (py "commit-rolled-forward") = false) :
    st.recoveryReconciled committed evidence = .ok { st with
      reconciledSnapshotSha256 := evidence.get "snapshot_sha256",
      phase := if committed then .reconciled else .aborted } := by
  refine (passTest (by simp [hphase, haction, htarget])).trans ?_
  refine (passes (reject_neg (not_not.mpr hkeys))).trans ?_
  refine (passes (requireAll_of fun field hfield => requireUuid_eq_ok.mpr (huuids field hfield))).trans ?_
  refine (passes (requireAll_of fun field hfield =>
    requireSha256_eq_ok.mpr (hhashes field hfield))).trans ?_
  refine (passTest ?_).trans ((passTest ?_).trans rfl)
  · simp only [State.afterRecovery, List.forall_mem_cons] at hsame htrue
    obtain ⟨hidentity, hname, hmapping, hcount, hrecovery, -⟩ := hsame
    obtain ⟨hset, hlive, hclean, hhost, -⟩ := htrue
    simp [hfresh, hidentity, hname, hmapping, hcount, hrecovery, hset, hlive, hclean, hhost]
  · rintro ⟨hcommitted, hrolled⟩
    exact absurd ((hforward (eq_false_of_ne_true hcommitted)).symm.trans hrolled) Bool.noConfusion

/-! ### The target and the recovery -/

/-- The target of a renaming, and the action of its recovery, once there are any. -/
structure Recoverable (st : State φ) : Prop where
  target : isNone st.targetIdentityUuid = false → isUuid st.targetIdentityUuid = true
  action : isNone st.recoveryAction = false → ∃ action ∈ State.recoveryActions, st.recoveryAction = .str (py action)

/-- **One milestone** leaves them named. -/
theorem State.apply_recoverable (st : State φ) (evidence : Value φ) (milestone : Milestone) (h : Recoverable st) :
    Returns (st.apply evidence milestone) Recoverable := by
  intro st' happly
  cases milestone with
  | intent =>
    obtain ⟨-, huuid, rfl⟩ := st.intent_ok evidence st' happly
    exact ⟨fun _ => huuid, h.action⟩
  | abortedBeforePersistence =>
    obtain ⟨-, -, rfl⟩ := st.abortedBeforePersistence_ok evidence st' happly
    exact ⟨h.target, h.action⟩
  | catacomb name =>
    obtain ⟨-, persistence, -, rfl⟩ := st.catacomb_ok evidence name st' happly
    exact ⟨h.target, h.action⟩
  | reconciled =>
    obtain ⟨-, -, rfl⟩ := st.reconciled_ok evidence st' happly
    exact ⟨h.target, h.action⟩
  | recoveryIntent =>
    obtain ⟨-, -, haction, rfl⟩ := st.recoveryIntent_ok evidence st' happly
    exact ⟨h.target, fun _ => haction⟩
  | recoveryReconciled committed =>
    obtain ⟨-, -, -, rfl⟩ := st.recoveryReconciled_ok evidence committed st' happly
    exact ⟨h.target, h.action⟩
  | postRebootVerified =>
    obtain ⟨-, -, -, -, rfl⟩ := st.postRebootVerified_ok evidence st' happly
    exact ⟨h.target, h.action⟩

theorem run_recoverable {lower : PyStr → PyStr} (records : List (Value φ)) : ∀ st,
    run lower records = .ok st → Recoverable st := by
  refine journalRun_induction (P := fun _ (st : State φ) => Recoverable st)
    (fun first st hstart => ?_) (fun _ st record st' _ ih hstep => ?_) records
  · obtain ⟨-, rfl⟩ := start_ok lower first st hstart
    exact ⟨nofun, nofun⟩
  · obtain ⟨milestone, -, happly⟩ := st.step_ok record st' hstep
    exact st.apply_recoverable _ milestone ih st' happly

/-- **One more record** that the operation accepts. -/
theorem validateHistory_concat {lower : PyStr → PyStr} {records : List (Value φ)} {record : Value φ}
    {st st' : State φ} {milestone : Milestone} (h : run lower records = .ok st)
    (hoperation : record.get "operation_id" = st.operationId)
    (hmilestone : milestoneOf (record.get "milestone") = some milestone)
    (happly : st.apply (record.get "evidence") milestone = .ok st')
    (hhash : isSha256 (record.get "record_hash") = true) :
    ∃ after, validateHistory lower (records ++ [record]) = .ok after ∧ after.toState = st' := by
  have hrecords : records ≠ [] := by
    rintro rfl
    exact journalRun_nil st h
  have hsame : differ (record.get "operation_id") st.operationId = false := by
    rw [hoperation]
    exact differ_self_uuid (run_operation records st h)
  have hstep : st.step record = .ok st' := by
    refine (passTest (by simp [hsame])).trans ?_
    rw [hmilestone]
    exact happly
  refine ⟨_, sealHistory_ok.mpr ⟨st', ?_, ?_, rfl⟩, rfl⟩
  · rw [run, journalRun_concat hrecords]
    exact (passes h).trans hstep
  · rw [lastHash, List.getLast?_concat]
    exact hhash

end Closing

end T2TouchId.Journal.Rename
