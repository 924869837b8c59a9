/-
  What each milestone of the enrollment journal does.

  One lemma for each: the phases it may come in, what it has compared, and the state behind it.  All
  that is proved of histories goes through these; no other module looks into the milestones.

  1. **Milestones** — `startIntent_ok`, …: `Returns` with the guard and the new state.
  2. **The phases** — `phasesBefore` and `phasesBehind` are the transitions, `apply_stepped` says that a
     milestone follows them, and what it leaves alone.
  3. **The start** — `start_ok`: what the baseline gives.
-/
import T2TouchId.Journal.Enrollment

set_option linter.unusedSectionVars false

namespace T2TouchId.Journal.Enrollment

open T2TouchId.Python T2TouchId.Python.Json

section Steps

variable {φ : Type} [JsonFloat φ]

namespace State

variable (st : State φ) (evidence : Value φ)

/-! ## Starting -/

theorem abortedBeforeStart_ok : Returns (st.abortedBeforeStart evidence) fun st' =>
    st.phase = .baseline ∧ st' = { st with phase := .abortedBeforeStart } := by
  refine .guard fun hphase => ?_
  repeat refine .skip fun _ => ?_
  exact .pure ⟨not_not.mp hphase, rfl⟩

theorem startIntent_ok : Returns (st.startIntent evidence) fun st' =>
    st.phase = .baseline ∧ st' = { st with phase := .startIntent } := by
  refine .guard fun hphase => ?_
  repeat refine .skip fun _ => ?_
  exact .pure ⟨not_not.mp hphase, rfl⟩

theorem startObserved_ok : Returns (st.startObserved evidence) fun st' =>
    st.phase = .startIntent ∧ st' = { st with phase := .active } := by
  refine .guard fun hphase => ?_
  repeat refine .skip fun _ => ?_
  exact .pure ⟨not_not.mp hphase, rfl⟩

theorem startRejected_ok : Returns (st.startRejected evidence) fun st' =>
    st.phase = .startIntent ∧ isNone (evidence.get "status") = false ∧
      st' = { st with terminalStatus := evidence.get "status", phase := .terminalFailure } := by
  refine .guard fun hphase => ?_
  refine .skip fun _ => ?_
  refine .bind fun status hstatus => ?_
  refine .skip fun _ => .pure ⟨not_not.mp hphase, ?_, rfl⟩
  obtain ⟨hrange, -⟩ := reject_ok hstatus
  revert hrange
  cases evidence.get "status" <;> simp [isIntIn, isNone]

/-! ## Events -/

theorem continueIntent_ok : Returns (st.continueIntent evidence) fun st' =>
    st.phase = .active ∧ ∃ sequence,
      st' = { st with pendingEvent := some sequence, phase := .continueIntent } := by
  refine .guard fun hphase => ?_
  repeat refine .skip fun _ => ?_
  exact .pure ⟨not_not.mp hphase, _, rfl⟩

theorem continueObserved_ok : Returns (st.continueObserved evidence) fun st' =>
    st.phase = .continueIntent ∧
      st' = { st with lastEvent := st.pendingEvent, pendingEvent := none, phase := .active } := by
  refine .guard fun hphase => ?_
  dsimp only
  -- the old evidence has two fields and the new three; the rest is the same
  refine .ite (fun _ => .skip fun _ => ?_) (fun _ => ?_) <;>
  · refine .skip fun _ => .skip fun _ => .skip fun _ => ?_
    refine .ite (fun _ => .skip fun _ => ?_) (fun _ => .skip fun _ => ?_) <;>
    exact .pure ⟨not_not.mp hphase, rfl⟩

/-! ## Cancelling -/

theorem cancelIntent_ok : Returns (st.cancelIntent evidence) fun st' =>
    st.phase = .active ∧ st' = { st with phase := .cancelIntent } := by
  refine .guard fun hphase => ?_
  repeat refine .skip fun _ => ?_
  exact .pure ⟨not_not.mp hphase, rfl⟩

theorem cancelDispatchObserved_ok : Returns (st.cancelDispatchObserved evidence) fun st' =>
    st.phase = .cancelIntent ∧ st' = { st with phase := .cancelRequested } := by
  refine .guard fun hphase => ?_
  repeat refine .skip fun _ => ?_
  exact .pure ⟨not_not.mp hphase, rfl⟩

/-! ## Terminal results -/

/-- The phases in which the sensor may report a result. -/
def AwaitsResult : Prop := st.phase = .active ∨ st.phase = .cancelRequested

theorem awaitsResult_of (h : ¬ (st.phase ≠ .active ∧ st.phase ≠ .cancelRequested)) :
    st.AwaitsResult := by
  by_contra hne
  exact h (not_or.mp hne)

theorem terminalIdentityObserved_ok : Returns (st.terminalIdentityObserved evidence) fun st' =>
    st.AwaitsResult ∧ isUuid (evidence.get "identity_uuid") = true ∧ ∃ sequence,
      st' = { st with
        terminalIdentityUuid := evidence.get "identity_uuid", lastEvent := some sequence,
        phase := .terminalIdentity } := by
  refine .guard fun hphase => ?_
  refine .skip fun _ => .skip fun _ => .skip fun _ => .skip fun _ => .skip fun _ => ?_
  refine .bind fun _ huuid => .pure ⟨st.awaitsResult_of hphase, ?_, _, rfl⟩
  exact requireUuid_eq_ok.mp huuid

theorem terminalResultWitnessed_ok : Returns (st.terminalResultWitnessed evidence) fun st' =>
    st.AwaitsResult ∧ ∃ sequence,
      st' = { st with lastEvent := some sequence, phase := .terminalWitness } := by
  refine .guard fun hphase => ?_
  repeat refine .skip fun _ => ?_
  exact .pure ⟨st.awaitsResult_of hphase, _, rfl⟩

theorem witnessIdentityReadbackObserved_ok :
    Returns (st.witnessIdentityReadbackObserved evidence) fun st' =>
      st.phase = .terminalWitness ∧ isUuid (evidence.get "identity_uuid") = true ∧
        st' = { st with
          terminalIdentityUuid := evidence.get "identity_uuid", phase := .terminalIdentity } := by
  refine .guard fun hphase => .skip fun _ => .skip fun _ => .bind fun _ huuid => ?_
  repeat refine .skip fun _ => ?_
  exact .pure ⟨not_not.mp hphase, requireUuid_eq_ok.mp huuid, rfl⟩

theorem terminalFailureObserved_ok : Returns (st.terminalFailureObserved evidence) fun st' =>
    st.AwaitsResult ∧ isNone (evidence.get "status") = false ∧ ∃ sequence,
      st' = { st with
        lastEvent := some sequence, terminalStatus := evidence.get "status",
        phase := .terminalFailure } := by
  refine .guard fun hphase => .skip fun _ => .skip fun _ => .skip fun _ => .skip fun _ => ?_
  refine .guard fun hstatus => .pure ⟨st.awaitsResult_of hphase, ?_, _, rfl⟩
  -- a status that equals 66, 67, or 68 is a number
  cases hvalue : evidence.get "status" <;> simp_all [isNone, differ, Value.pyEq]

theorem identityReadbackObserved_ok : Returns (st.identityReadbackObserved evidence) fun st' =>
    st.phase = .terminalFailure ∧ isUuid (evidence.get "identity_uuid") = true ∧
      st' = { st with
        terminalIdentityUuid := evidence.get "identity_uuid", phase := .terminalIdentity } := by
  refine .guard fun hphase => .skip fun _ => .skip fun _ => .skip fun _ => .bind fun _ huuid => ?_
  exact .pure ⟨not_not.mp hphase, requireUuid_eq_ok.mp huuid, rfl⟩

theorem recoveryIdentityReadbackObserved_ok :
    Returns (st.recoveryIdentityReadbackObserved evidence) fun st' =>
      st.phase = .outcomeUnknown ∧ isUuid (evidence.get "identity_uuid") = true ∧
        (evidence.get "connection_generation").pyEq (st.baseline.get "connection_generation") = false ∧
        ∃ persistence,
          st.persistence.useRecoveryGeneration (evidence.get "connection_generation") =
            .ok persistence ∧
          st' = { st with
            terminalIdentityUuid := evidence.get "identity_uuid",
            persistenceConnectionGeneration := evidence.get "connection_generation",
            persistence, phase := .terminalIdentity } := by
  refine .guard fun hphase => .skip fun _ => .skip fun _ => .bind fun _ huuid => .skip fun _ => ?_
  refine .guard fun hbinding => .skip fun _ => .bind fun persistence hpersistence => ?_
  rw [not_or, not_not] at hphase
  exact .pure ⟨hphase.1, requireUuid_eq_ok.mp huuid,
    eq_false_of_ne_true (not_or.mp hbinding).1, persistence, hpersistence, rfl⟩

/-! ## Persistence -/

/-- The phases in which an identity, or the failure that there is instead, is persisted. -/
def AwaitsPersistence : Prop :=
  st.phase = .terminalIdentity ∨ st.phase = .terminalFailure ∨ st.phase = .persisting

theorem catacomb_ok (name : PyStr) : Returns (st.catacomb name evidence) fun st' =>
    (isNone st.terminalIdentityUuid = false ∨ isNone st.terminalStatus = false) ∧
    (st.earlyConfirmRecovery name = true ∨ st.AwaitsPersistence) ∧
    ∃ persistence,
      st.persistence.consume name evidence st.failureBiolockoutPersistence = .ok persistence ∧
      st' = { st with
        persistence, phase := phaseBehind (st.earlyConfirmRecovery name) persistence.phase,
        persistenceConnectionGeneration :=
          if st.earlyConfirmRecovery name then evidence.get "connection_generation"
          else st.persistenceConnectionGeneration } := by
  refine .guard fun hguard => .bind fun persistence hconsume => ?_
  refine .pure ⟨?_, ?_, persistence, hconsume, rfl⟩
  · by_contra hne
    simp only [not_or, Bool.not_eq_false] at hne
    exact hguard (.inl ⟨hne.1, by simp [failureBiolockoutPersistence, hne.2]⟩)
  · by_contra hne
    obtain ⟨hearly, hphase⟩ := not_or.mp hne
    exact hguard (.inr ⟨hearly, by simpa [AwaitsPersistence] using hphase⟩)

/-! ## Reconciliation -/

/-- What a reconciliation states of the identity. -/
def Agrees (present : Bool) : Prop :=
  if present then
    (evidence.get "identity_present").isTrue = true ∧
      differ (evidence.get "identity_uuid") st.terminalIdentityUuid = false
  else isNone (evidence.get "identity_uuid") = true ∧ isFalse (evidence.get "identity_present") = true

theorem reconciled_ok : Returns (st.reconciled evidence) fun st' =>
    (st.phase = .persistenceReady ∨ st.phase = .terminalFailure) ∧
    differ (evidence.get "connection_generation") st.persistenceConnectionGeneration = false ∧
    Agrees st evidence (st.phase = .persistenceReady ∧ ¬ isNone st.terminalIdentityUuid) ∧
    st' = { st with
      reconciledSnapshotSha256 := evidence.get "snapshot_sha256", phase := .reconciled } := by
  refine .guard fun hphase => .skip fun _ => .guard fun hgeneration => ?_
  refine .skip fun _ => .skip fun _ => .skip fun _ => .skip fun _ => .skip fun _ => ?_
  refine .skip fun _ => ?_
  have hphase : st.phase = .persistenceReady ∨ st.phase = .terminalFailure := by
    by_contra hne
    exact hphase (not_or.mp hne)
  refine .ite (fun hpresent => ?_) (fun hpresent => ?_)
  · refine .skip fun _ => .guard fun hstates => .pure ⟨hphase, by simpa using hgeneration, ?_, rfl⟩
    obtain ⟨hdiffer, htrue⟩ := not_not.mp (not_or.mp hstates).1
    rw [Agrees, if_pos (by simpa using hpresent)]
    exact ⟨htrue, by simpa using hdiffer⟩
  · refine .guard fun hstates => .pure ⟨hphase, by simpa using hgeneration, ?_, rfl⟩
    rw [Agrees, if_neg (by simpa using hpresent)]
    exact not_not.mp (not_or.mp hstates).1

theorem recoveryCounts_ok (milestone : String) : Returns (st.recoveryCounts evidence milestone) fun _ =>
    st.phase = .outcomeUnknown ∧ isUuid (evidence.get "connection_generation") = true ∧
      (evidence.get "connection_generation").pyEq (st.baseline.get "connection_generation") =
        false := by
  refine .guard fun hphase => .skip fun _ => .bind fun _ huuid => .guard fun hfresh => ?_
  repeat refine .skip fun _ => ?_
  exact .pure ⟨not_not.mp hphase, requireUuid_eq_ok.mp huuid, eq_false_of_ne_true hfresh⟩

theorem recoveryNoChangeReconciled_ok : Returns (st.recoveryNoChangeReconciled evidence) fun st' =>
    st.phase = .outcomeUnknown ∧
    (evidence.get "connection_generation").pyEq (st.baseline.get "connection_generation") = false ∧
    Agrees st evidence false ∧
    st' = { st with
      reconciledSnapshotSha256 := evidence.get "snapshot_sha256", phase := .reconciled } := by
  refine .bind fun counts hcounts => .guard fun hstates => ?_
  obtain ⟨hphase, -, hfresh⟩ := st.recoveryCounts_ok evidence _ _ hcounts
  refine .pure ⟨hphase, hfresh, ?_, rfl⟩
  exact not_not.mp (not_or.mp hstates).1

theorem persistenceReadbackRecovered_ok :
    Returns (st.persistenceReadbackRecovered evidence) fun st' =>
      st.phase = .outcomeUnknown ∧ isNone st.terminalIdentityUuid = false ∧
      (evidence.get "connection_generation").pyEq (st.baseline.get "connection_generation") = false ∧
      Agrees st evidence true ∧
      st' = { st with
        reconciledSnapshotSha256 := evidence.get "snapshot_sha256", phase := .reconciled } := by
  refine .bind fun counts hcounts => .guard fun hstates => ?_
  obtain ⟨hphase, -, hfresh⟩ := st.recoveryCounts_ok evidence _ _ hcounts
  simp only [not_or, not_not, Bool.not_eq_true] at hstates
  obtain ⟨-, -, -, hidentity, ⟨hdiffer, htrue⟩, -⟩ := hstates
  exact .pure ⟨hphase, hidentity, hfresh, ⟨htrue, by simpa using hdiffer⟩, rfl⟩

/-! ## After the reboot -/

theorem postRebootVerified_ok : Returns (st.postRebootVerified evidence) fun st' =>
    st.phase = .reconciled ∧ isNone st.terminalIdentityUuid = false ∧
    (evidence.get "linux_boot_uuid").pyEq (st.baseline.get "linux_boot_uuid") = false ∧
    (evidence.get "connection_generation").pyEq (st.baseline.get "connection_generation") = false ∧
    isUuid (evidence.get "linux_boot_uuid") = true ∧
    isUuid (evidence.get "connection_generation") = true ∧
    st' = { st with
      postRebootLinuxBootUuid := evidence.get "linux_boot_uuid", phase := .postRebootVerified } := by
  refine .guard fun hphase => .skip fun _ => .bind fun _ huuids => ?_
  rw [not_or, not_not, Bool.not_eq_true] at hphase
  have hboot := requireUuid_eq_ok.mp (requireAll_ok huuids "linux_boot_uuid" (by simp))
  have hconnection := requireUuid_eq_ok.mp (requireAll_ok huuids "connection_generation" (by simp))
  dsimp only
  refine .ite (fun _ => .skip fun _ => ?_) (fun _ => ?_) <;>
  · refine .skip fun _ => .skip fun _ => .guard fun hcrossed => .skip fun _ => .skip fun _ => ?_
    simp only [not_or, Bool.not_eq_true] at hcrossed
    exact .pure ⟨hphase.1, hphase.2, hcrossed.1, hcrossed.2, hboot, hconnection, rfl⟩

/-! ## Unknown outcomes -/

theorem outcomeUnknown_ok : Returns (st.outcomeUnknown evidence) fun st' =>
    st.phase ∈ mutating ∧
      st' = { st with
        outcomeUnknownStage := evidence.get "stage", phase := .outcomeUnknown } := by
  refine .guard fun hphase => ?_
  repeat refine .skip fun _ => ?_
  exact .pure ⟨not_not.mp hphase, rfl⟩

/-! ## The phases -/

end State

/-- The milestones that set `terminal_identity_uuid`. -/
def namesIdentity : Milestone → Bool
  | .terminalIdentityObserved | .witnessIdentityReadbackObserved | .identityReadbackObserved
  | .recoveryIdentityReadbackObserved => true
  | _ => false

/-- The phases that a milestone may come in. -/
def phasesBefore : Milestone → List EnrollmentPhase
  | .abortedBeforeStart | .startIntent => [.baseline]
  | .startObserved | .startRejected => [.startIntent]
  | .continueIntent | .cancelIntent => [.active]
  | .continueObserved => [.continueIntent]
  | .cancelDispatchObserved => [.cancelIntent]
  | .terminalIdentityObserved | .terminalResultWitnessed | .terminalFailureObserved =>
    [.active, .cancelRequested]
  | .witnessIdentityReadbackObserved => [.terminalWitness]
  | .identityReadbackObserved => [.terminalFailure]
  | .recoveryIdentityReadbackObserved => [.outcomeUnknown]
  | .catacomb _ => [.terminalIdentity, .terminalFailure, .persisting, .outcomeUnknown]
  | .reconciled => [.persistenceReady, .terminalFailure]
  | .recoveryNoChangeReconciled | .persistenceReadbackRecovered => [.outcomeUnknown]
  | .postRebootVerified => [.reconciled]
  | .outcomeUnknown => State.mutating

/-- The phases that it leads to. -/
def phasesBehind : Milestone → List EnrollmentPhase
  | .abortedBeforeStart => [.abortedBeforeStart]
  | .startIntent => [.startIntent]
  | .startObserved | .continueObserved => [.active]
  | .startRejected | .terminalFailureObserved => [.terminalFailure]
  | .continueIntent => [.continueIntent]
  | .cancelIntent => [.cancelIntent]
  | .cancelDispatchObserved => [.cancelRequested]
  | .terminalResultWitnessed => [.terminalWitness]
  | .terminalIdentityObserved | .witnessIdentityReadbackObserved | .identityReadbackObserved
  | .recoveryIdentityReadbackObserved => [.terminalIdentity]
  | .catacomb _ => [.persistenceReady, .outcomeUnknown, .terminalIdentity, .persisting]
  | .reconciled | .recoveryNoChangeReconciled | .persistenceReadbackRecovered => [.reconciled]
  | .postRebootVerified => [.postRebootVerified]
  | .outcomeUnknown => [.outcomeUnknown]

/-- What every milestone has in common. -/
structure Stepped (milestone : Milestone) (st st' : State φ) : Prop where
  before : st.phase ∈ phasesBefore milestone
  behind : st'.phase ∈ phasesBehind milestone
  operationId : st'.operationId = st.operationId
  baseline : st'.baseline = st.baseline
  named : namesIdentity milestone = true → isUuid st'.terminalIdentityUuid = true
  unnamed : namesIdentity milestone = false → st'.terminalIdentityUuid = st.terminalIdentityUuid

namespace State

variable (st : State φ) (evidence : Value φ)

theorem phaseBehind_mem (early : Bool) (phase : PersistencePhase) (name : PyStr) :
    phaseBehind early phase ∈ phasesBehind (.catacomb name) := by
  cases phase <;> cases early <;> simp [phaseBehind, phasesBehind]

/-- **One milestone** follows the transitions. -/
theorem apply_stepped (milestone : Milestone) : Returns (st.apply evidence milestone) fun st' =>
    Stepped milestone st st' := by
  have hawaits : st.AwaitsResult → st.phase ∈ [EnrollmentPhase.active, .cancelRequested] := by
    rintro (hphase | hphase) <;> simp [hphase]
  intro st' h
  cases milestone with
  | abortedBeforeStart =>
    obtain ⟨hphase, rfl⟩ := st.abortedBeforeStart_ok evidence st' h
    exact ⟨List.mem_singleton.mpr hphase, by simp [phasesBehind], rfl, rfl, nofun, fun _ => rfl⟩
  | startIntent =>
    obtain ⟨hphase, rfl⟩ := st.startIntent_ok evidence st' h
    exact ⟨List.mem_singleton.mpr hphase, by simp [phasesBehind], rfl, rfl, nofun, fun _ => rfl⟩
  | startObserved =>
    obtain ⟨hphase, rfl⟩ := st.startObserved_ok evidence st' h
    exact ⟨List.mem_singleton.mpr hphase, by simp [phasesBehind], rfl, rfl, nofun, fun _ => rfl⟩
  | startRejected =>
    obtain ⟨hphase, -, rfl⟩ := st.startRejected_ok evidence st' h
    exact ⟨List.mem_singleton.mpr hphase, by simp [phasesBehind], rfl, rfl, nofun, fun _ => rfl⟩
  | continueIntent =>
    obtain ⟨hphase, _, rfl⟩ := st.continueIntent_ok evidence st' h
    exact ⟨List.mem_singleton.mpr hphase, by simp [phasesBehind], rfl, rfl, nofun, fun _ => rfl⟩
  | continueObserved =>
    obtain ⟨hphase, rfl⟩ := st.continueObserved_ok evidence st' h
    exact ⟨List.mem_singleton.mpr hphase, by simp [phasesBehind], rfl, rfl, nofun, fun _ => rfl⟩
  | cancelIntent =>
    obtain ⟨hphase, rfl⟩ := st.cancelIntent_ok evidence st' h
    exact ⟨List.mem_singleton.mpr hphase, by simp [phasesBehind], rfl, rfl, nofun, fun _ => rfl⟩
  | cancelDispatchObserved =>
    obtain ⟨hphase, rfl⟩ := st.cancelDispatchObserved_ok evidence st' h
    exact ⟨List.mem_singleton.mpr hphase, by simp [phasesBehind], rfl, rfl, nofun, fun _ => rfl⟩
  | terminalIdentityObserved =>
    obtain ⟨hphase, huuid, _, rfl⟩ := st.terminalIdentityObserved_ok evidence st' h
    exact ⟨hawaits hphase, by simp [phasesBehind], rfl, rfl, fun _ => huuid, nofun⟩
  | terminalResultWitnessed =>
    obtain ⟨hphase, _, rfl⟩ := st.terminalResultWitnessed_ok evidence st' h
    exact ⟨hawaits hphase, by simp [phasesBehind], rfl, rfl, nofun, fun _ => rfl⟩
  | witnessIdentityReadbackObserved =>
    obtain ⟨hphase, huuid, rfl⟩ := st.witnessIdentityReadbackObserved_ok evidence st' h
    exact ⟨List.mem_singleton.mpr hphase, by simp [phasesBehind], rfl, rfl, fun _ => huuid, nofun⟩
  | terminalFailureObserved =>
    obtain ⟨hphase, -, _, rfl⟩ := st.terminalFailureObserved_ok evidence st' h
    exact ⟨hawaits hphase, by simp [phasesBehind], rfl, rfl, nofun, fun _ => rfl⟩
  | identityReadbackObserved =>
    obtain ⟨hphase, huuid, rfl⟩ := st.identityReadbackObserved_ok evidence st' h
    exact ⟨List.mem_singleton.mpr hphase, by simp [phasesBehind], rfl, rfl, fun _ => huuid, nofun⟩
  | recoveryIdentityReadbackObserved =>
    obtain ⟨hphase, huuid, -, _, -, rfl⟩ := st.recoveryIdentityReadbackObserved_ok evidence st' h
    exact ⟨List.mem_singleton.mpr hphase, by simp [phasesBehind], rfl, rfl, fun _ => huuid, nofun⟩
  | catacomb name =>
    obtain ⟨-, hphase, persistence, -, rfl⟩ := st.catacomb_ok evidence name st' h
    refine ⟨?_, phaseBehind_mem _ _ _, rfl, rfl, nofun, fun _ => rfl⟩
    rcases hphase with hearly | hphase | hphase | hphase
    · have hunknown : st.phase = .outcomeUnknown := by
        simp only [earlyConfirmRecovery, decide_eq_true_eq] at hearly
        exact hearly.2.1
      simp [hunknown, phasesBefore]
    all_goals simp [hphase, phasesBefore]
  | reconciled =>
    obtain ⟨hphase, -, -, rfl⟩ := st.reconciled_ok evidence st' h
    refine ⟨?_, by simp [phasesBehind], rfl, rfl, nofun, fun _ => rfl⟩
    rcases hphase with hphase | hphase <;> simp [hphase, phasesBefore]
  | recoveryNoChangeReconciled =>
    obtain ⟨hphase, -, -, rfl⟩ := st.recoveryNoChangeReconciled_ok evidence st' h
    exact ⟨List.mem_singleton.mpr hphase, by simp [phasesBehind], rfl, rfl, nofun, fun _ => rfl⟩
  | persistenceReadbackRecovered =>
    obtain ⟨hphase, -, -, -, rfl⟩ := st.persistenceReadbackRecovered_ok evidence st' h
    exact ⟨List.mem_singleton.mpr hphase, by simp [phasesBehind], rfl, rfl, nofun, fun _ => rfl⟩
  | postRebootVerified =>
    obtain ⟨hphase, -, -, -, -, -, rfl⟩ := st.postRebootVerified_ok evidence st' h
    exact ⟨List.mem_singleton.mpr hphase, by simp [phasesBehind], rfl, rfl, nofun, fun _ => rfl⟩
  | outcomeUnknown =>
    obtain ⟨hphase, rfl⟩ := st.outcomeUnknown_ok evidence st' h
    exact ⟨hphase, by simp [phasesBehind], rfl, rfl, nofun, fun _ => rfl⟩

/-- **One record** is one milestone of the operation. -/
theorem step_ok (record : Value φ) : Returns (st.step record) fun st' =>
    ∃ milestone, milestoneOf (record.get "milestone") = some milestone ∧
      st.apply (record.get "evidence") milestone = .ok st' := by
  refine .guard fun _ => ?_
  intro st' h
  split at h
  · rename_i milestone hmilestone
    exact ⟨milestone, hmilestone, h⟩
  · exact nomatch h

end State

/-- A name of its own, … -/
theorem milestoneNamed_of {name : String} {milestone : Milestone}
    (h : milestones.find? (fun m => m.1 = name) = some (name, milestone)) :
    milestoneNamed (py name) = some milestone := by
  have hfind : milestones.find? (fun m => py m.1 = py name) = some (name, milestone) := by
    simpa only [py_injective.eq_iff] using h
  rw [milestoneNamed, hfind]

/-- … and a name that no milestone has. -/
theorem milestoneNamed_other {name : String} (h : milestones.find? (fun m => m.1 = name) = none) :
    milestoneNamed (py name) =
      if (py "CATACOMB_").isPrefixOf (py name) then some (.catacomb (py name)) else none := by
  have hfind : milestones.find? (fun m => py m.1 = py name) = none := by
    simpa only [py_injective.eq_iff] using h
  rw [milestoneNamed, hfind]

/-- The first record is no milestone. -/
theorem milestoneNamed_baseline : milestoneNamed (py "BASELINE_RECONCILED") = none := by
  rw [milestoneNamed_other rfl, not_isPrefixOf_py (by decide)]
  rfl

/-! ## The start -/

theorem start_ok (lower : PyStr → PyStr) (first : Value φ) : Returns (start lower first) fun st =>
    first.get "milestone" = .str (py "BASELINE_RECONCILED") ∧
      validateBaseline lower ((first.get "evidence").get "baseline") = .ok () ∧ st =
        { operationId := first.get "operation_id",
          baseline := (first.get "evidence").get "baseline",
          persistence := .start ((first.get "evidence").get "baseline") .enrollment,
          persistenceConnectionGeneration :=
            ((first.get "evidence").get "baseline").get "connection_generation" } := by
  refine .guard fun hmilestone => ?_
  have hstr := not_not.mp hmilestone
  have hmilestone := isStr_iff.mp hstr
  refine .skip fun _ => .skip fun _ => .seq fun hbaseline => .skip fun _ => .skip fun _ => .pure ?_
  exact ⟨hmilestone, hbaseline, rfl⟩

/-- The baseline of a history is that of its first record, and was validated. -/
theorem run_baseline {lower : PyStr → PyStr} (records : List (Value φ)) : ∀ st,
    run lower records = .ok st → validateBaseline lower st.baseline = .ok () := by
  refine journalRun_induction (P := fun _ (st : State φ) =>
    validateBaseline lower st.baseline = .ok ())
    (fun first st hstart => ?_) (fun _ st record st' _ ih hstep => ?_) records
  · obtain ⟨-, hbaseline, rfl⟩ := start_ok lower first st hstart
    exact hbaseline
  · obtain ⟨milestone, -, happly⟩ := st.step_ok record st' hstep
    rw [(st.apply_stepped _ milestone st' happly).baseline]
    exact ih

end Steps

end T2TouchId.Journal.Enrollment
