/-
  What each milestone of the rename journal does.

  1. **Milestones** — `intent_ok`, …: `Returns` with the guard, what was compared, and the new state.
  2. **The phases** — `apply_stepped`: a milestone follows the transitions and keeps the baseline.
  3. **The start** — `start_ok`: what the baseline gives.
-/
import T2TouchId.Journal.Rename
import T2TouchId.Journal.Written

set_option linter.unusedSectionVars false

namespace T2TouchId.Journal.Rename

open T2TouchId.Python T2TouchId.Python.Json

section Steps

variable {φ : Type} [JsonFloat φ]

namespace State

variable (st : State φ) (evidence : Value φ)

theorem intent_ok : Returns (st.intent evidence) fun st' =>
    st.phase = .baseline ∧ isUuid (evidence.get "identity_uuid") = true ∧
      st' = { st with
        targetIdentityUuid := evidence.get "identity_uuid", targetEntity := evidence.get "entity",
        previousNameSha256 := evidence.get "previous_name_sha256",
        newNameSha256 := evidence.get "new_name_sha256", phase := .intent } := by
  refine .guard fun hphase => .skip fun _ => .bind fun _ huuid => ?_
  repeat refine .skip fun _ => ?_
  exact .pure ⟨not_not.mp hphase, requireUuid_eq_ok.mp huuid, rfl⟩

theorem abortedBeforePersistence_ok : Returns (st.abortedBeforePersistence evidence) fun st' =>
    st.phase = .persisting ∧ st.persistence.phase = .componentReady ∧
      st' = { st with phase := .aborted } := by
  refine .guard fun hphase => ?_
  repeat refine .skip fun _ => ?_
  simp only [not_or, not_not] at hphase
  exact .pure ⟨hphase.1, hphase.2, rfl⟩

/-- The phase behind a persistence milestone. -/
def phaseBehind : PersistencePhase → RenamePhase
  | .complete => .persistenceReady
  | .outcomeUnknown => .outcomeUnknown
  | _ => .persisting

theorem catacomb_ok (name : PyStr) : Returns (st.catacomb name evidence) fun st' =>
    (st.phase = .intent ∨ st.phase = .persisting) ∧ ∃ persistence,
      st.persistence.consume name evidence false = .ok persistence ∧
      st' = { st with persistence, phase := phaseBehind persistence.phase } := by
  refine .guard fun hphase => .bind fun persistence hconsume => .pure ⟨?_, persistence, hconsume, ?_⟩
  · by_contra hne
    exact hphase (not_or.mp hne)
  · cases persistence.phase <;> rfl

theorem reconciled_ok : Returns (st.reconciled evidence) fun st' =>
    st.phase = .persistenceReady ∧
    differ (evidence.get "connection_generation") (st.baseline.get "connection_generation") = false ∧
    st' = { st with
      reconciledSnapshotSha256 := evidence.get "snapshot_sha256", phase := .reconciled } := by
  refine .guard fun hphase => .skip fun _ => .skip fun _ => .skip fun _ => .guard fun hbinding => ?_
  exact .pure ⟨not_not.mp hphase, eq_false_of_ne_true (not_or.mp hbinding).1, rfl⟩

theorem recoveryIntent_ok : Returns (st.recoveryIntent evidence) fun st' =>
    st.phase ∈ [RenamePhase.intent, .persisting, .persistenceReady, .outcomeUnknown] ∧
      isNone st.recoveryAction = true ∧
      (∃ action ∈ recoveryActions, evidence.get "action" = .str (py action)) ∧
      st' = { st with recoveryAction := evidence.get "action", phase := .outcomeUnknown } := by
  refine .guard fun hphase => .skip fun _ => .bind fun known hknown => .guard fun hin => ?_
  refine .skip fun _ => .skip fun _ => ?_
  simp only [not_or, not_not] at hphase hin
  rw [hin] at hknown
  exact .pure ⟨hphase.1, hphase.2, isIn_ok hknown, rfl⟩

theorem recoveryReconciled_ok (committed : Bool) :
    Returns (st.recoveryReconciled committed evidence) fun st' =>
      st.phase = .outcomeUnknown ∧
      (evidence.get "connection_generation").pyEq (st.baseline.get "connection_generation") = false ∧
      isUuid (evidence.get "connection_generation") = true ∧
      st' = { st with
        reconciledSnapshotSha256 := evidence.get "snapshot_sha256",
        phase := if committed then .reconciled else .aborted } := by
  refine .guard fun hphase => .skip fun _ => .bind fun _ huuids => .skip fun _ => ?_
  refine .guard fun hbinding => .skip fun _ => .pure ?_
  have huuid := requireUuid_eq_ok.mp (requireAll_ok huuids "connection_generation" (by simp))
  exact ⟨not_not.mp (not_or.mp hphase).1, eq_false_of_ne_true (not_or.mp hbinding).1, huuid, rfl⟩

theorem postRebootVerified_ok : Returns (st.postRebootVerified evidence) fun st' =>
    st.phase = .reconciled ∧
    (evidence.get "linux_boot_uuid").pyEq (st.baseline.get "linux_boot_uuid") = false ∧
    (evidence.get "connection_generation").pyEq (st.baseline.get "connection_generation") = false ∧
    isUuid (evidence.get "connection_generation") = true ∧
    st' = { st with phase := .postRebootVerified } := by
  refine .guard fun hphase => .skip fun _ => .bind fun _ huuids => .skip fun _ => ?_
  refine .guard fun hbinding => .pure ?_
  have huuid := requireUuid_eq_ok.mp (requireAll_ok huuids "connection_generation" (by simp))
  simp only [not_or, Bool.not_eq_true] at hbinding
  exact ⟨not_not.mp hphase, hbinding.1, hbinding.2.1, huuid, rfl⟩

/-! ## The phases -/

end State

/-- The phases that a milestone leads to. -/
def phasesBehind : Milestone → List RenamePhase
  | .intent => [.intent]
  | .abortedBeforePersistence => [.aborted]
  | .catacomb _ => [.persistenceReady, .outcomeUnknown, .persisting]
  | .reconciled => [.reconciled]
  | .recoveryIntent => [.outcomeUnknown]
  | .recoveryReconciled committed => if committed then [.reconciled] else [.aborted]
  | .postRebootVerified => [.postRebootVerified]

/-- The phases that it may come in. -/
def phasesBefore : Milestone → List RenamePhase
  | .intent => [.baseline]
  | .abortedBeforePersistence => [.persisting]
  | .catacomb _ => [.intent, .persisting]
  | .reconciled => [.persistenceReady]
  | .recoveryIntent => [.intent, .persisting, .persistenceReady, .outcomeUnknown]
  | .recoveryReconciled _ => [.outcomeUnknown]
  | .postRebootVerified => [.reconciled]

/-- What every milestone has in common. -/
structure Stepped (milestone : Milestone) (st st' : State φ) : Prop where
  behind : st'.phase ∈ phasesBehind milestone
  operationId : st'.operationId = st.operationId
  baseline : st'.baseline = st.baseline

namespace State

variable (st : State φ) (evidence : Value φ)

/-- **One milestone** follows the transitions. -/
theorem apply_stepped (milestone : Milestone) : Returns (st.apply evidence milestone) fun st' =>
    Stepped milestone st st' := by
  intro st' h
  cases milestone with
  | intent =>
    obtain ⟨-, -, rfl⟩ := st.intent_ok evidence st' h
    exact ⟨List.mem_singleton.mpr rfl, rfl, rfl⟩
  | abortedBeforePersistence =>
    obtain ⟨-, -, rfl⟩ := st.abortedBeforePersistence_ok evidence st' h
    exact ⟨List.mem_singleton.mpr rfl, rfl, rfl⟩
  | catacomb name =>
    obtain ⟨-, persistence, -, rfl⟩ := st.catacomb_ok evidence name st' h
    refine ⟨?_, rfl, rfl⟩
    show phaseBehind persistence.phase ∈ _
    cases persistence.phase <;> simp [phaseBehind, phasesBehind]
  | reconciled =>
    obtain ⟨-, -, rfl⟩ := st.reconciled_ok evidence st' h
    exact ⟨List.mem_singleton.mpr rfl, rfl, rfl⟩
  | recoveryIntent =>
    obtain ⟨-, -, -, rfl⟩ := st.recoveryIntent_ok evidence st' h
    exact ⟨List.mem_singleton.mpr rfl, rfl, rfl⟩
  | recoveryReconciled committed =>
    obtain ⟨-, -, -, rfl⟩ := st.recoveryReconciled_ok evidence committed st' h
    refine ⟨?_, rfl, rfl⟩
    cases committed <;> exact List.mem_singleton.mpr rfl
  | postRebootVerified =>
    obtain ⟨-, -, -, -, rfl⟩ := st.postRebootVerified_ok evidence st' h
    exact ⟨List.mem_singleton.mpr rfl, rfl, rfl⟩

/-- **One milestone** comes in its phases. -/
theorem apply_before (milestone : Milestone) : Returns (st.apply evidence milestone) fun _ =>
    st.phase ∈ phasesBefore milestone := by
  intro st' h
  cases milestone with
  | intent => exact List.mem_singleton.mpr (st.intent_ok evidence st' h).1
  | abortedBeforePersistence =>
    exact List.mem_singleton.mpr (st.abortedBeforePersistence_ok evidence st' h).1
  | catacomb name =>
    obtain ⟨hphase, -⟩ := st.catacomb_ok evidence name st' h
    rcases hphase with hphase | hphase <;> simp [hphase, phasesBefore]
  | reconciled => exact List.mem_singleton.mpr (st.reconciled_ok evidence st' h).1
  | recoveryIntent => exact (st.recoveryIntent_ok evidence st' h).1
  | recoveryReconciled committed =>
    exact List.mem_singleton.mpr (st.recoveryReconciled_ok evidence committed st' h).1
  | postRebootVerified => exact List.mem_singleton.mpr (st.postRebootVerified_ok evidence st' h).1

/-- **One record** is one milestone of the operation. -/
theorem step_ok (record : Value φ) : Returns (st.step record) fun st' =>
    ∃ milestone, milestoneOf (record.get "milestone") = some milestone ∧
      st.apply (record.get "evidence") milestone = .ok st' := by
  refine .guard fun _ => ?_
  intro st' h
  split at h
  · rename_i milestone hmilestone
    exact ⟨milestone, hmilestone, h⟩
  · exact nomatch h

end State

/-- A name of its own, … -/
theorem milestoneNamed_of {name : String} {milestone : Milestone}
    (h : milestones.find? (fun m => m.1 = name) = some (name, milestone)) :
    milestoneNamed (py name) = some milestone := by
  have hfind : milestones.find? (fun m => py m.1 = py name) = some (name, milestone) := by
    simpa only [py_injective.eq_iff] using h
  rw [milestoneNamed, hfind]

/-- … and a name that no milestone has. -/
theorem milestoneNamed_other {name : String} (h : milestones.find? (fun m => m.1 = name) = none) :
    milestoneNamed (py name) =
      if (py "CATACOMB_").isPrefixOf (py name) then some (.catacomb (py name)) else none := by
  have hfind : milestones.find? (fun m => py m.1 = py name) = none := by
    simpa only [py_injective.eq_iff] using h
  rw [milestoneNamed, hfind]

/-- The name of a milestone. -/
theorem milestoneOf_ok {value : Value φ} {milestone : Milestone}
    (h : milestoneOf value = some milestone) :
    (∃ name, (name, milestone) ∈ milestones ∧ value = .str (py name)) ∨
      ∃ name, milestone = .catacomb name ∧ value = .str name := by
  cases value with
  | str name =>
    have h : milestoneNamed name = some milestone := h
    rw [milestoneNamed] at h
    split at h
    · rename_i found m hfind
      obtain rfl := Option.some.inj h
      exact .inl ⟨found, List.mem_of_find?_eq_some hfind,
        by simpa [eq_comm] using List.find?_some hfind⟩
    · split at h
      · exact .inr ⟨name, (Option.some.inj h).symm, rfl⟩
      · exact nomatch h
  | _ => exact nomatch h

/-! ## The start -/

/-- The first record is the baseline. -/
theorem start_milestone (lower : PyStr → PyStr) (first : Value φ) : Returns (start lower first) fun _ =>
    first.get "milestone" = .str (py "BASELINE_RECONCILED") := by
  refine .guard fun hmilestone => ?_
  have hstr := not_not.mp hmilestone
  repeat refine .skip fun _ => ?_
  exact .pure (isStr_iff.mp hstr)

theorem start_ok (lower : PyStr → PyStr) (first : Value φ) : Returns (start lower first) fun st =>
    validateBaseline lower ((first.get "evidence").get "baseline") = .ok () ∧ st =
      { operationId := first.get "operation_id",
        baseline := (first.get "evidence").get "baseline",
        persistence := .start ((first.get "evidence").get "baseline") .identityMetadata } := by
  refine .skip fun _ => .skip fun _ => .skip fun _ => .seq fun hbaseline => .skip fun _ => .pure ?_
  exact ⟨hbaseline, rfl⟩

/-- An accepted journal is a run of the loop that ends with a hash. -/
theorem validateHistory_ok {lower : PyStr → PyStr} {records : List (Value φ)} {history : History φ}
    (h : validateHistory lower records = .ok history) : run lower records = .ok history.toState := by
  obtain ⟨st, hrun, -, rfl⟩ := sealHistory_ok.mp h
  exact hrun

/-- A written journal is accepted when the loop accepts it. -/
theorem validateHistory_written {lower : PyStr → PyStr} {operationId : PyStr}
    {entries : List (Entry φ)} (hentries : entries ≠ []) {st : State φ}
    (h : run lower (written operationId entries) = .ok st) :
    ∃ history, validateHistory lower (written operationId entries) = .ok history ∧
      history.toState = st :=
  ⟨_, sealHistory_ok.mpr ⟨st, h, lastHash_written operationId hentries, rfl⟩, rfl⟩

/-- The baseline of a history is that of its first record, and was validated. -/
theorem run_baseline {lower : PyStr → PyStr} (records : List (Value φ)) : ∀ st,
    run lower records = .ok st → validateBaseline lower st.baseline = .ok () := by
  refine journalRun_induction (P := fun _ (st : State φ) =>
    validateBaseline lower st.baseline = .ok ())
    (fun first st hstart => ?_) (fun _ st record st' _ ih hstep => ?_) records
  · obtain ⟨hbaseline, rfl⟩ := start_ok lower first st hstart
    exact hbaseline
  · obtain ⟨milestone, -, happly⟩ := st.step_ok record st' hstep
    rw [(st.apply_stepped _ milestone st' happly).baseline]
    exact ih

end Steps

end T2TouchId.Journal.Rename
