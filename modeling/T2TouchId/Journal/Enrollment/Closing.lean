/-
  What a reconciled enrollment has, and what it accepts.

  Problem: the reconciling record and the proof after the reboot are built by callers that look at the
  journal before they append.  What they build has to be accepted, so here the tests of the closing
  milestones are read the other way round: from what the evidence states to the new state.

  1. **Invariant** — `run_connection`: the persistence runs on a connection with a UUID.
  2. **Reconciled** — `reconciled_last`: the last record of a reconciled enrollment is one of three, and
     states a snapshot and a connection.
  3. **Acceptance** — `postRebootVerified_accepts`, and `validateHistory_concat` for a whole journal.
-/
import T2TouchId.Journal.Enrollment.Steps
import T2TouchId.Journal.Persistence.Steps
import T2TouchId.Journal.Written

set_option linter.unusedSectionVars false

namespace T2TouchId.Journal

open T2TouchId.Python T2TouchId.Python.Json

namespace Tracker

variable {φ : Type} [JsonFloat φ] (t : Tracker φ)

theorem useRecoveryGeneration_ok (generation : Value φ) :
    Returns (t.useRecoveryGeneration generation) fun _ => isUuid generation = true := by
  refine .skip fun _ => .seq fun huuid => .const ?_
  exact requireUuid_eq_ok.mp huuid

end Tracker

namespace Enrollment

section Closing

variable {φ : Type} [JsonFloat φ]

/-! ## The connection of the persistence -/

namespace State

variable (st : State φ) (evidence : Value φ)

/-- **One milestone** leaves the connection alone or takes another one. -/
theorem apply_connection (milestone : Milestone)
    (h : isUuid st.persistenceConnectionGeneration = true) :
    Returns (st.apply evidence milestone) fun st' =>
      isUuid st'.persistenceConnectionGeneration = true := by
  cases milestone with
  | recoveryIdentityReadbackObserved =>
    intro st' happly
    obtain ⟨-, -, -, persistence, hpersistence, rfl⟩ :=
      st.recoveryIdentityReadbackObserved_ok evidence st' happly
    exact Tracker.useRecoveryGeneration_ok _ _ _ hpersistence
  | catacomb name =>
    intro st' happly
    obtain ⟨-, -, persistence, hconsume, rfl⟩ := st.catacomb_ok evidence name st' happly
    show isUuid (if st.earlyConfirmRecovery name then _ else _) = true
    by_cases hearly : st.earlyConfirmRecovery name = true
    · rw [if_pos hearly]
      have hname : name = py "CATACOMB_EARLY_CONFIRM_RECOVERED" := (of_decide_eq_true hearly).1
      rw [Tracker.consume, if_pos hname] at hconsume
      exact (Tracker.earlyConfirmRecovered_ok _ _ _ hconsume).2.2.2.1
    · rw [if_neg hearly]
      exact h
  | abortedBeforeStart | startIntent | startObserved | startRejected | continueIntent
  | continueObserved | cancelIntent | cancelDispatchObserved | terminalIdentityObserved
  | terminalResultWitnessed | witnessIdentityReadbackObserved | terminalFailureObserved
  | identityReadbackObserved | reconciled | recoveryNoChangeReconciled
  | persistenceReadbackRecovered | postRebootVerified | outcomeUnknown =>
    -- the other milestones do not assign it
    dsimp only [apply]
    repeat first
      | exact .pure h
      | refine .skip fun _ => ?_
      | refine .ite (fun _ => ?_) (fun _ => ?_)
      | dsimp only

end State

/-- **Every accepted journal** has an operation and a connection with a UUID. -/
theorem run_connection {lower : PyStr → PyStr} (records : List (Value φ)) : ∀ st,
    run lower records = .ok st →
      isUuid st.operationId = true ∧ isUuid st.persistenceConnectionGeneration = true := by
  refine journalRun_induction (P := fun _ (st : State φ) =>
    isUuid st.operationId = true ∧ isUuid st.persistenceConnectionGeneration = true)
    (fun first => ?_) (fun _ st record st' _ ih hstep => ?_) records
  · show Returns (start lower first) _
    refine .skip fun _ => .skip fun _ => .skip fun _ => .seq fun hbaseline => .skip fun _ => ?_
    refine .seq fun hoperation => .pure ⟨requireUuid_eq_ok.mp hoperation, ?_⟩
    exact validateBaseline_uuids hbaseline "connection_generation" (by simp)
  · obtain ⟨milestone, -, happly⟩ := st.step_ok record st' hstep
    rw [(st.apply_stepped _ milestone st' happly).operationId]
    exact ⟨ih.1, st.apply_connection _ milestone ih.2 st' happly⟩

/-! ## Reconciled -/

/-- The milestones that close an enrollment. -/
def closes : Milestone → Bool
  | .reconciled | .recoveryNoChangeReconciled | .persistenceReadbackRecovered => true
  | _ => false

theorem closes_of_behind {milestone : Milestone}
    (h : EnrollmentPhase.reconciled ∈ phasesBehind milestone) : closes milestone = true := by
  cases milestone with
  | reconciled | recoveryNoChangeReconciled | persistenceReadbackRecovered => rfl
  | _ => exact absurd h (by simp [phasesBehind])

namespace State

variable (st : State φ) (evidence : Value φ)

/-- What the two recoveries state. -/
theorem recoveryCounts_stated (milestone : String) :
    Returns (st.recoveryCounts evidence milestone) fun _ =>
      isUuid (evidence.get "connection_generation") = true ∧
        isSha256 (evidence.get "snapshot_sha256") = true := by
  refine .skip fun _ => .skip fun _ => .seq fun huuid => .skip fun _ => .seq fun hsnapshot => ?_
  exact .const ⟨requireUuid_eq_ok.mp huuid, requireSha256_eq_ok.mp hsnapshot⟩

/-- **A closing milestone** states a connection and a snapshot, and the journal keeps the snapshot. -/
theorem apply_closes {milestone : Milestone} (hcloses : closes milestone = true)
    (h : isUuid st.persistenceConnectionGeneration = true) :
    Returns (st.apply evidence milestone) fun st' =>
      isUuid (evidence.get "connection_generation") = true ∧
        st'.reconciledSnapshotSha256 = evidence.get "snapshot_sha256" ∧
        isSha256 (evidence.get "snapshot_sha256") = true := by
  intro st' happly
  cases milestone with
  | reconciled =>
    obtain ⟨-, hconnection, -, rfl⟩ := st.reconciled_ok evidence st' happly
    obtain ⟨s, hs⟩ := str_of_uuid h
    have hsame : evidence.get "connection_generation" = st.persistenceConnectionGeneration :=
      not_differ_str hs (by rw [hconnection]; decide) ▸ rfl
    have hsnapshot : Returns (st.reconciled evidence) fun _ =>
        isSha256 (evidence.get "snapshot_sha256") = true := by
      refine .skip fun _ => .skip fun _ => .skip fun _ => .seq fun hsnapshot => ?_
      exact .const (requireSha256_eq_ok.mp hsnapshot)
    exact ⟨hsame ▸ h, rfl, hsnapshot _ happly⟩
  | recoveryNoChangeReconciled =>
    obtain ⟨-, -, -, rfl⟩ := st.recoveryNoChangeReconciled_ok evidence st' happly
    obtain ⟨counts, hcounts, -⟩ := bind_ok happly
    obtain ⟨huuid, hsnapshot⟩ := st.recoveryCounts_stated evidence _ _ hcounts
    exact ⟨huuid, rfl, hsnapshot⟩
  | persistenceReadbackRecovered =>
    obtain ⟨-, -, -, -, rfl⟩ := st.persistenceReadbackRecovered_ok evidence st' happly
    obtain ⟨counts, hcounts, -⟩ := bind_ok happly
    obtain ⟨huuid, hsnapshot⟩ := st.recoveryCounts_stated evidence _ _ hcounts
    exact ⟨huuid, rfl, hsnapshot⟩
  | _ => exact nomatch hcloses

end State

/-- **The last record of a reconciled enrollment** closes it. -/
theorem reconciled_last {lower : PyStr → PyStr} {earlier : List (Value φ)} {reconciling : Value φ}
    {st : State φ} (h : run lower (earlier ++ [reconciling]) = .ok st) (hphase : st.phase = .reconciled) :
    (∃ milestone, milestoneOf (reconciling.get "milestone") = some milestone ∧
      closes milestone = true) ∧
    isUuid ((reconciling.get "evidence").get "connection_generation") = true ∧
    st.reconciledSnapshotSha256 = (reconciling.get "evidence").get "snapshot_sha256" ∧
    isSha256 ((reconciling.get "evidence").get "snapshot_sha256") = true := by
  rcases journalRun_last h with ⟨-, hstart⟩ | ⟨st0, hrun, hstep⟩
  · obtain ⟨-, -, rfl⟩ := start_ok lower reconciling st hstart
    exact nomatch hphase
  · obtain ⟨milestone, hmilestone, happly⟩ := st0.step_ok reconciling st hstep
    have hbehind := (st0.apply_stepped _ milestone st happly).behind
    rw [hphase] at hbehind
    have hcloses := closes_of_behind hbehind
    exact ⟨⟨milestone, hmilestone, hcloses⟩,
      st0.apply_closes _ hcloses (run_connection earlier st0 hrun).2 st happly⟩

/-! ## Acceptance -/

theorem requireTrue_of {evidence : Value φ} {fields : List String} {message : String → String}
    (h : ∀ field ∈ fields, (evidence.get field).isTrue = true) :
    State.requireTrue evidence fields message = .ok () := by
  induction fields with
  | nil => rfl
  | cons field fields ih =>
    obtain ⟨hfield, hrest⟩ := List.forall_mem_cons.mp h
    exact (passTest (not_not.mpr hfield)).trans (ih hrest)

/-- The fields of a proof after the reboot, … -/
def postRebootFields : List String :=
  ["linux_boot_uuid", "connection_generation", "bridge_boot_uuid", "protocol_version",
   "mapping_generation", "account_uuid", "bag_uuid", "identity_uuid", "snapshot_sha256",
   "double_collection_equal", "host_sep_identity_equal", "bindings_preserved",
   "keybag_runtime_revalidated"]

/-- … and what they are compared with. -/
def State.afterReboot (st : State φ) : List (String × Value φ) :=
  [("protocol_version", st.baseline.get "protocol_version"),
   ("mapping_generation", st.baseline.get "mapping_generation"),
   ("account_uuid", st.baseline.get "account_uuid"), ("bag_uuid", st.baseline.get "bag_uuid"),
   ("identity_uuid", st.terminalIdentityUuid), ("snapshot_sha256", st.reconciledSnapshotSha256)]

/-- **A proof after the reboot** is accepted when it states what the journal has, on another boot and
    another connection than the baseline. -/
theorem State.postRebootVerified_accepts {st : State φ} {evidence : Value φ}
    (hphase : st.phase = .reconciled) (hidentity : isNone st.terminalIdentityUuid = false)
    (hkeys : hasKeys postRebootFields evidence = true)
    (huuids : ∀ field ∈ ["linux_boot_uuid", "connection_generation", "account_uuid", "bag_uuid",
      "identity_uuid"], isUuid (evidence.get field) = true)
    (hbridge : isNone (evidence.get "bridge_boot_uuid") = false →
      isUuid (evidence.get "bridge_boot_uuid") = true)
    (hhashes : ∀ field ∈ ["mapping_generation", "snapshot_sha256"], isSha256 (evidence.get field) = true)
    (hcrossed : ∀ field ∈ ["linux_boot_uuid", "connection_generation"],
      (evidence.get field).pyEq (st.baseline.get field) = false)
    (hsame : ∀ item ∈ st.afterReboot, differ (evidence.get item.1) item.2 = false)
    (htrue : ∀ field ∈ ["double_collection_equal", "host_sep_identity_equal", "bindings_preserved",
      "keybag_runtime_revalidated"], (evidence.get field).isTrue = true) :
    st.postRebootVerified evidence = .ok { st with
      postRebootLinuxBootUuid := evidence.get "linux_boot_uuid", phase := .postRebootVerified } := by
  refine (passTest (by simp [hphase, hidentity])).trans ?_
  refine (passes (reject_neg (not_not.mpr hkeys))).trans ?_
  refine (passes (requireAll_of fun field hfield => requireUuid_eq_ok.mpr (huuids field hfield))).trans ?_
  refine (passesIf fun hsome => requireUuid_eq_ok.mpr (hbridge (eq_false_of_ne_true hsome))).trans ?_
  refine (passes (requireSha256_eq_ok.mpr (hhashes _ (by simp)))).trans ?_
  refine (passes (requireSha256_eq_ok.mpr (hhashes _ (by simp)))).trans ?_
  refine (passTest ?_).trans ?_
  · simp only [List.forall_mem_cons] at hcrossed
    simp [hcrossed.1, hcrossed.2.1]
  refine (passTest ?_).trans ?_
  · simp only [State.afterReboot, List.forall_mem_cons] at hsame
    obtain ⟨hprotocol, hmapping, haccount, hbag, hidentity, hsnapshot, -⟩ := hsame
    simp [hprotocol, hmapping, haccount, hbag, hidentity, hsnapshot]
  exact (passes (requireTrue_of htrue)).trans rfl

/-- **One more record** that the operation accepts. -/
theorem validateHistory_concat {lower : PyStr → PyStr} {records : List (Value φ)} {record : Value φ}
    {st st' : State φ} {milestone : Milestone} (h : run lower records = .ok st)
    (hoperation : record.get "operation_id" = st.operationId)
    (hmilestone : milestoneOf (record.get "milestone") = some milestone)
    (happly : st.apply (record.get "evidence") milestone = .ok st')
    (hhash : isSha256 (record.get "record_hash") = true) :
    ∃ after, validateHistory lower (records ++ [record]) = .ok after ∧ after.toState = st' := by
  have hrecords : records ≠ [] := by
    rintro rfl
    exact journalRun_nil st h
  have hsame : differ (record.get "operation_id") st.operationId = false := by
    rw [hoperation]
    exact differ_self_uuid (run_connection records st h).1
  have hstep : st.step record = .ok st' := by
    refine (passTest (by simp [hsame])).trans ?_
    rw [hmilestone]
    exact happly
  refine ⟨_, sealHistory_ok.mpr ⟨st', ?_, ?_, rfl⟩, rfl⟩
  · rw [run, journalRun_concat hrecords]
    exact (passes h).trans hstep
  · rw [lastHash, List.getLast?_concat]
    exact hhash

end Closing

end Enrollment

end T2TouchId.Journal
