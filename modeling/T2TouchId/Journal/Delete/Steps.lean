/-
  What each milestone of the delete journal does.

  1. **Milestones** — `intent_ok`, …: `Returns` with the guard, what was compared, and the new state.
  2. **The phases** — `apply_stepped`: a milestone follows the transitions and keeps the baseline.
  3. **The start** — `start_ok`: what the baseline gives.
-/
import T2TouchId.Journal.Delete
import T2TouchId.Journal.Written

set_option linter.unusedSectionVars false

namespace T2TouchId.Journal.Delete

open T2TouchId.Python T2TouchId.Python.Json

section Steps

variable {φ : Type} [JsonFloat φ]

namespace State

variable (st : State φ) (evidence : Value φ)

/-! ## The deletion -/

theorem intent_ok : Returns (st.intent evidence) fun st' =>
    st.phase = .baseline ∧ isUuid (evidence.get "identity_uuid") = true ∧
      st' = { st with
        targetIdentityUuid := evidence.get "identity_uuid", targetEntity := evidence.get "entity",
        targetNameSha256 := evidence.get "target_name_sha256",
        requestSha256 := evidence.get "request_sha256",
        survivorSnapshotSha256 := evidence.get "survivor_snapshot_sha256", phase := .intent } := by
  refine .guard fun hphase => .skip fun _ => .bind fun _ huuid => ?_
  repeat refine .skip fun _ => ?_
  exact .pure ⟨not_not.mp hphase, requireUuid_eq_ok.mp huuid, rfl⟩

theorem dispatchIntent_ok : Returns (st.dispatchIntent evidence) fun st' =>
    st.phase = .intent ∧ st' = { st with phase := .dispatchIntent } := by
  refine .guard fun hphase => ?_
  repeat refine .skip fun _ => ?_
  exact .pure ⟨not_not.mp hphase, rfl⟩

theorem commandObserved_ok : Returns (st.commandObserved evidence) fun st' =>
    st.phase = .dispatchIntent ∧
      st' = { st with commandStatus := evidence.get "status", phase := .commandObserved } := by
  refine .guard fun hphase => ?_
  repeat refine .skip fun _ => ?_
  exact .pure ⟨not_not.mp hphase, rfl⟩

theorem sepAbsenceObserved_ok : Returns (st.sepAbsenceObserved evidence) fun st' =>
    st.phase = .commandObserved ∧ st' = { st with phase := .sepDeleted } := by
  refine .guard fun hphase => ?_
  repeat refine .skip fun _ => ?_
  exact .pure ⟨not_not.mp hphase, rfl⟩

theorem notPerformed_ok : Returns (st.notPerformed evidence) fun st' =>
    st.phase = .commandObserved ∧ st' = { st with phase := .aborted } := by
  refine .guard fun hphase => ?_
  repeat refine .skip fun _ => ?_
  exact .pure ⟨not_not.mp hphase, rfl⟩

theorem outcomeUnknown_ok : Returns (st.outcomeUnknown evidence) fun st' =>
    st.phase ∈ [DeletePhase.dispatchIntent, .commandObserved, .sepDeleted, .persisting,
        .persistenceReady] ∧
      st' = { st with
        outcomeUnknownStage := evidence.get "stage", phase := .outcomeUnknown } := by
  refine .guard fun hphase => ?_
  repeat refine .skip fun _ => ?_
  exact .pure ⟨not_not.mp hphase, rfl⟩

/-! ## Recovery -/

theorem recoveryIntent_ok : Returns (st.recoveryIntent evidence) fun st' =>
    (st.firstRecovery ∨ st.forwardRetry) ∧
      (∃ action ∈ recoveryActions, evidence.get "action" = .str (py action)) ∧
      isUuid (evidence.get "linux_boot_uuid") = true ∧
      st' = { st with
        recoveryAction := evidence.get "action",
        recoveryLinuxBootUuid := evidence.get "linux_boot_uuid", phase := .outcomeUnknown } := by
  refine .guard fun hphase => .skip fun _ => .bind fun known hknown => .guard fun hin => ?_
  refine .skip fun _ => .bind fun _ hboot => .skip fun _ => ?_
  rw [not_not.mp hin] at hknown
  exact .pure ⟨not_not.mp hphase, isIn_ok hknown, requireUuid_eq_ok.mp hboot, rfl⟩

theorem recoverySepAbsenceObserved_ok : Returns (st.recoverySepAbsenceObserved evidence) fun st' =>
    st.phase = .outcomeUnknown ∧ isNone st.recoveryAction = false ∧
      isUuid (evidence.get "connection_generation") = true ∧ ∃ persistence,
        (Tracker.start st.baseline .identityMetadata).useRecoveryGeneration
          (evidence.get "connection_generation") = .ok persistence ∧
        st' = { st with
          persistence, persistenceConnectionGeneration := evidence.get "connection_generation",
          outcomeUnknownStage := .none, phase := .sepDeleted } := by
  refine .guard fun hphase => .skip fun _ => .bind fun _ huuids => .skip fun _ => .skip fun _ => ?_
  refine .skip fun _ => .skip fun _ => .bind fun persistence hpersistence => .pure ?_
  have huuid := requireUuid_eq_ok.mp (requireAll_ok huuids "connection_generation" (by simp))
  simp only [not_or, not_not, Bool.not_eq_true] at hphase
  exact ⟨hphase.1, hphase.2.1, huuid, persistence, hpersistence, rfl⟩

theorem recoveryReconciled_ok (committed : Bool) :
    Returns (st.recoveryReconciled committed evidence) fun st' =>
      st.phase = .outcomeUnknown ∧ isNone st.recoveryAction = false ∧
      isUuid (evidence.get "connection_generation") = true ∧
      st' = { st with
        reconciledSnapshotSha256 := if committed then evidence.get "snapshot_sha256" else .none,
        reconciledConnectionGeneration :=
          if committed then evidence.get "connection_generation" else .none,
        reconciledLinuxBootUuid := if committed then st.recoveryLinuxBootUuid else .none,
        phase := if committed then .reconciled else .aborted } := by
  refine .guard fun hphase => .skip fun _ => .bind fun _ huuids => .skip fun _ => .skip fun _ => ?_
  refine .skip fun _ => .pure ?_
  have huuid := requireUuid_eq_ok.mp (requireAll_ok huuids "connection_generation" (by simp))
  simp only [not_or, not_not, Bool.not_eq_true] at hphase
  exact ⟨hphase.1, hphase.2.1, huuid, rfl⟩

/-! ## Persistence and its proofs -/

theorem catacomb_ok (name : PyStr) : Returns (st.catacomb name evidence) fun st' =>
    (st.phase = .sepDeleted ∨ st.phase = .persisting) ∧ ∃ persistence stage,
      st.persistence.consume name evidence false = .ok persistence ∧
      st'.phase ∈ [DeletePhase.persistenceReady, .outcomeUnknown, .persisting] ∧
      st' = { st with persistence, outcomeUnknownStage := stage, phase := st'.phase } := by
  refine .guard fun hphase => .bind fun persistence hconsume => ?_
  have hphase : st.phase = .sepDeleted ∨ st.phase = .persisting := by
    by_contra hne
    exact hphase (not_or.mp hne)
  intro st' h
  split at h <;> cases h <;> exact ⟨hphase, persistence, _, hconsume, by simp, rfl⟩

theorem reconciled_ok : Returns (st.reconciled evidence) fun st' =>
    st.phase = .persistenceReady ∧
      differ (evidence.get "connection_generation") st.persistenceConnectionGeneration = false ∧
      st' = { st with
        reconciledSnapshotSha256 := evidence.get "snapshot_sha256",
        reconciledConnectionGeneration := evidence.get "connection_generation",
        reconciledLinuxBootUuid :=
          if isNone st.recoveryLinuxBootUuid then st.baseline.get "linux_boot_uuid"
          else st.recoveryLinuxBootUuid,
        phase := .reconciled } := by
  refine .guard fun hphase => .skip fun _ => .skip fun _ => .skip fun _ => .guard fun hbinding => ?_
  exact .pure ⟨not_not.mp hphase, eq_false_of_ne_true (not_or.mp hbinding).1, rfl⟩

theorem postRebootVerified_ok : Returns (st.postRebootVerified evidence) fun st' =>
    st.phase = .reconciled ∧
      (evidence.get "linux_boot_uuid").pyEq st.reconciledLinuxBootUuid = false ∧
      (evidence.get "connection_generation").pyEq st.reconciledConnectionGeneration = false ∧
      st' = { st with phase := .postRebootVerified } := by
  refine .guard fun hphase => .skip fun _ => .skip fun _ => .skip fun _ => ?_
  refine .guard fun hbinding => .pure ?_
  simp only [not_or, Bool.not_eq_true] at hbinding
  exact ⟨not_not.mp hphase, hbinding.1, hbinding.2.1, rfl⟩

/-! ## The phases -/

end State

/-- The phases that a milestone leads to. -/
def phasesBehind : Milestone → List DeletePhase
  | .intent => [.intent]
  | .dispatchIntent => [.dispatchIntent]
  | .commandObserved => [.commandObserved]
  | .sepAbsenceObserved | .recoverySepAbsenceObserved => [.sepDeleted]
  | .notPerformed => [.aborted]
  | .outcomeUnknown | .recoveryIntent => [.outcomeUnknown]
  | .recoveryReconciled committed => if committed then [.reconciled] else [.aborted]
  | .catacomb _ => [.persistenceReady, .outcomeUnknown, .persisting]
  | .reconciled => [.reconciled]
  | .postRebootVerified => [.postRebootVerified]

/-- The phases that it may come in. -/
def phasesBefore : Milestone → List DeletePhase
  | .intent => [.baseline]
  | .dispatchIntent => [.intent]
  | .commandObserved => [.dispatchIntent]
  | .sepAbsenceObserved | .notPerformed => [.commandObserved]
  | .outcomeUnknown => [.dispatchIntent, .commandObserved, .sepDeleted, .persisting, .persistenceReady]
  | .recoveryIntent => [.intent, .dispatchIntent, .commandObserved, .sepDeleted, .persisting,
      .persistenceReady, .outcomeUnknown]
  | .recoverySepAbsenceObserved | .recoveryReconciled _ => [.outcomeUnknown]
  | .catacomb _ => [.sepDeleted, .persisting]
  | .reconciled => [.persistenceReady]
  | .postRebootVerified => [.reconciled]

/-- What every milestone has in common. -/
structure Stepped (milestone : Milestone) (st st' : State φ) : Prop where
  behind : st'.phase ∈ phasesBehind milestone
  operationId : st'.operationId = st.operationId
  baseline : st'.baseline = st.baseline
  /-- Only the intent of a recovery sets its action and its boot. -/
  recovery : milestone ≠ .recoveryIntent → st'.recoveryAction = st.recoveryAction ∧
    st'.recoveryLinuxBootUuid = st.recoveryLinuxBootUuid

namespace State

variable (st : State φ) (evidence : Value φ)

/-- **One milestone** follows the transitions. -/
theorem apply_stepped (milestone : Milestone) : Returns (st.apply evidence milestone) fun st' =>
    Stepped milestone st st' := by
  intro st' h
  cases milestone with
  | intent =>
    obtain ⟨-, -, rfl⟩ := st.intent_ok evidence st' h
    exact ⟨List.mem_singleton.mpr rfl, rfl, rfl, fun _ => ⟨rfl, rfl⟩⟩
  | dispatchIntent =>
    obtain ⟨-, rfl⟩ := st.dispatchIntent_ok evidence st' h
    exact ⟨List.mem_singleton.mpr rfl, rfl, rfl, fun _ => ⟨rfl, rfl⟩⟩
  | commandObserved =>
    obtain ⟨-, rfl⟩ := st.commandObserved_ok evidence st' h
    exact ⟨List.mem_singleton.mpr rfl, rfl, rfl, fun _ => ⟨rfl, rfl⟩⟩
  | sepAbsenceObserved =>
    obtain ⟨-, rfl⟩ := st.sepAbsenceObserved_ok evidence st' h
    exact ⟨List.mem_singleton.mpr rfl, rfl, rfl, fun _ => ⟨rfl, rfl⟩⟩
  | notPerformed =>
    obtain ⟨-, rfl⟩ := st.notPerformed_ok evidence st' h
    exact ⟨List.mem_singleton.mpr rfl, rfl, rfl, fun _ => ⟨rfl, rfl⟩⟩
  | outcomeUnknown =>
    obtain ⟨-, rfl⟩ := st.outcomeUnknown_ok evidence st' h
    exact ⟨List.mem_singleton.mpr rfl, rfl, rfl, fun _ => ⟨rfl, rfl⟩⟩
  | recoveryIntent =>
    obtain ⟨-, -, -, rfl⟩ := st.recoveryIntent_ok evidence st' h
    exact ⟨List.mem_singleton.mpr rfl, rfl, rfl, fun hne => absurd rfl hne⟩
  | recoverySepAbsenceObserved =>
    obtain ⟨-, -, -, _, -, rfl⟩ := st.recoverySepAbsenceObserved_ok evidence st' h
    exact ⟨List.mem_singleton.mpr rfl, rfl, rfl, fun _ => ⟨rfl, rfl⟩⟩
  | recoveryReconciled committed =>
    obtain ⟨-, -, -, rfl⟩ := st.recoveryReconciled_ok evidence committed st' h
    refine ⟨?_, rfl, rfl, fun _ => ⟨rfl, rfl⟩⟩
    cases committed <;> exact List.mem_singleton.mpr rfl
  | catacomb name =>
    obtain ⟨-, _, _, -, hphase, hst⟩ := st.catacomb_ok evidence name st' h
    rw [hst]
    exact ⟨hphase, rfl, rfl, fun _ => ⟨rfl, rfl⟩⟩
  | reconciled =>
    obtain ⟨-, -, rfl⟩ := st.reconciled_ok evidence st' h
    exact ⟨List.mem_singleton.mpr rfl, rfl, rfl, fun _ => ⟨rfl, rfl⟩⟩
  | postRebootVerified =>
    obtain ⟨-, -, -, rfl⟩ := st.postRebootVerified_ok evidence st' h
    exact ⟨List.mem_singleton.mpr rfl, rfl, rfl, fun _ => ⟨rfl, rfl⟩⟩

/-- **One milestone** comes in its phases. -/
theorem apply_before (milestone : Milestone) : Returns (st.apply evidence milestone) fun _ =>
    st.phase ∈ phasesBefore milestone := by
  intro st' h
  cases milestone with
  | intent => exact List.mem_singleton.mpr (st.intent_ok evidence st' h).1
  | dispatchIntent => exact List.mem_singleton.mpr (st.dispatchIntent_ok evidence st' h).1
  | commandObserved => exact List.mem_singleton.mpr (st.commandObserved_ok evidence st' h).1
  | sepAbsenceObserved => exact List.mem_singleton.mpr (st.sepAbsenceObserved_ok evidence st' h).1
  | notPerformed => exact List.mem_singleton.mpr (st.notPerformed_ok evidence st' h).1
  | outcomeUnknown => exact (st.outcomeUnknown_ok evidence st' h).1
  | recoveryIntent =>
    obtain ⟨⟨-, hfirst⟩ | ⟨-, hretry, -⟩, -⟩ := st.recoveryIntent_ok evidence st' h
    · exact hfirst
    · rw [hretry]
      simp [phasesBefore]
  | recoverySepAbsenceObserved =>
    exact List.mem_singleton.mpr (st.recoverySepAbsenceObserved_ok evidence st' h).1
  | recoveryReconciled committed =>
    exact List.mem_singleton.mpr (st.recoveryReconciled_ok evidence committed st' h).1
  | catacomb name =>
    obtain ⟨hphase, -⟩ := st.catacomb_ok evidence name st' h
    rcases hphase with hphase | hphase <;> simp [hphase, phasesBefore]
  | reconciled => exact List.mem_singleton.mpr (st.reconciled_ok evidence st' h).1
  | postRebootVerified => exact List.mem_singleton.mpr (st.postRebootVerified_ok evidence st' h).1

/-- **One record** is one milestone of the operation. -/
theorem step_ok (record : Value φ) : Returns (st.step record) fun st' =>
    ∃ milestone, milestoneOf (record.get "milestone") = some milestone ∧
      st.apply (record.get "evidence") milestone = .ok st' := by
  refine .guard fun _ => ?_
  intro st' h
  split at h
  · rename_i milestone hmilestone
    exact ⟨milestone, hmilestone, h⟩
  · exact nomatch h

end State

/-- A name of its own, … -/
theorem milestoneNamed_of {name : String} {milestone : Milestone}
    (h : milestones.find? (fun m => m.1 = name) = some (name, milestone)) :
    milestoneNamed (py name) = some milestone := by
  have hfind : milestones.find? (fun m => py m.1 = py name) = some (name, milestone) := by
    simpa only [py_injective.eq_iff] using h
  rw [milestoneNamed, hfind]

/-- … and a name that no milestone has. -/
theorem milestoneNamed_other {name : String} (h : milestones.find? (fun m => m.1 = name) = none) :
    milestoneNamed (py name) =
      if (py "CATACOMB_").isPrefixOf (py name) then some (.catacomb (py name)) else none := by
  have hfind : milestones.find? (fun m => py m.1 = py name) = none := by
    simpa only [py_injective.eq_iff] using h
  rw [milestoneNamed, hfind]

/-- The first record is no milestone. -/
theorem milestoneNamed_baseline : milestoneNamed (py "BASELINE_RECONCILED") = none := by
  rw [milestoneNamed_other rfl, not_isPrefixOf_py (by decide)]
  rfl

/-- The name of a milestone. -/
theorem milestoneOf_ok {value : Value φ} {milestone : Milestone}
    (h : milestoneOf value = some milestone) :
    (∃ name, (name, milestone) ∈ milestones ∧ value = .str (py name)) ∨
      ∃ name, milestone = .catacomb name ∧ value = .str name := by
  cases value with
  | str name =>
    have h : milestoneNamed name = some milestone := h
    rw [milestoneNamed] at h
    split at h
    · rename_i found m hfind
      obtain rfl := Option.some.inj h
      exact .inl ⟨found, List.mem_of_find?_eq_some hfind,
        by simpa [eq_comm] using List.find?_some hfind⟩
    · split at h
      · exact .inr ⟨name, (Option.some.inj h).symm, rfl⟩
      · exact nomatch h
  | _ => exact nomatch h

/-! ## The start -/

theorem start_ok (lower : PyStr → PyStr) (first : Value φ) : Returns (start lower first) fun st =>
    first.get "milestone" = .str (py "BASELINE_RECONCILED") ∧
      validateBaseline lower ((first.get "evidence").get "baseline") = .ok () ∧ st =
        { operationId := first.get "operation_id",
          baseline := (first.get "evidence").get "baseline",
          persistence := .start ((first.get "evidence").get "baseline") .identityMetadata,
          persistenceConnectionGeneration :=
            ((first.get "evidence").get "baseline").get "connection_generation" } := by
  refine .guard fun hmilestone => ?_
  have hstr := not_not.mp hmilestone
  have hmilestone := isStr_iff.mp hstr
  refine .skip fun _ => .skip fun _ => .seq fun hbaseline => .skip fun _ => .pure ?_
  exact ⟨hmilestone, hbaseline, rfl⟩

/-- An accepted journal is a run of the loop that ends with a hash. -/
theorem validateHistory_ok {lower : PyStr → PyStr} {records : List (Value φ)} {history : History φ}
    (h : validateHistory lower records = .ok history) : run lower records = .ok history.toState := by
  obtain ⟨st, hrun, -, rfl⟩ := sealHistory_ok.mp h
  exact hrun

/-- A written journal is accepted when the loop accepts it. -/
theorem validateHistory_written {lower : PyStr → PyStr} {operationId : PyStr}
    {entries : List (Entry φ)} (hentries : entries ≠ []) {st : State φ}
    (h : run lower (written operationId entries) = .ok st) :
    ∃ history, validateHistory lower (written operationId entries) = .ok history ∧
      history.toState = st :=
  ⟨_, sealHistory_ok.mpr ⟨st, h, lastHash_written operationId hentries, rfl⟩, rfl⟩

/-- The baseline of a history is that of its first record, and was validated. -/
theorem run_baseline {lower : PyStr → PyStr} (records : List (Value φ)) : ∀ st,
    run lower records = .ok st → validateBaseline lower st.baseline = .ok () := by
  refine journalRun_induction (P := fun _ (st : State φ) =>
    validateBaseline lower st.baseline = .ok ())
    (fun first st hstart => ?_) (fun _ st record st' _ ih hstep => ?_) records
  · obtain ⟨-, hbaseline, rfl⟩ := start_ok lower first st hstart
    exact hbaseline
  · obtain ⟨milestone, -, happly⟩ := st.step_ok record st' hstep
    rw [(st.apply_stepped _ milestone st' happly).baseline]
    exact ih

end Steps

end T2TouchId.Journal.Delete
