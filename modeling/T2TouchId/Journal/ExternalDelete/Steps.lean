/-
  What each milestone of the external-delete journal does.

  1. **Milestones** — `intentRecorded_ok`, …: `Returns` with the guard and the new state.
  2. **The phases** — `apply_stepped`: a milestone follows the transitions and keeps the baseline.
-/
import T2TouchId.Journal.ExternalDelete
import T2TouchId.Journal.Written

set_option linter.unusedSectionVars false

namespace T2TouchId.Journal.ExternalDelete

open T2TouchId.Python T2TouchId.Python.Json

section Steps

variable {φ : Type} [JsonFloat φ]

namespace State

variable (st : State φ) (evidence : Value φ)

theorem intentRecorded_ok : Returns (st.intentRecorded evidence) fun st' =>
    st.phase = .baseline ∧ isSha256 (evidence.get "staged_user_sha256") = true ∧
      st' = { st with intent := evidence, phase := .intent } := by
  refine .guard fun hphase => .skip fun _ => .seq fun hstaged => .skip fun _ => .pure ?_
  exact ⟨not_not.mp hphase, requireSha256_eq_ok.mp hstaged, rfl⟩

theorem hostCommitted_ok : Returns (st.hostCommitted evidence) fun st' =>
    (st.phase = .intent ∨ st.phase = .outcomeUnknown) ∧ isNone st.intent = false ∧
      st' = { st with phase := .hostCommitted } := by
  refine .guard fun hphase => .skip fun _ => .guard fun hbinding => .skip fun _ => .skip fun _ => ?_
  refine .pure ⟨?_, eq_false_of_ne_true (not_or.mp hbinding).1, rfl⟩
  by_contra hne
  exact hphase (not_or.mp hne)

theorem reconciled_ok : Returns (st.reconciled evidence) fun st' =>
    st.phase = .hostCommitted ∧ st' = { st with phase := .reconciled } := by
  refine .guard fun hphase => ?_
  repeat refine .skip fun _ => ?_
  exact .pure ⟨not_not.mp hphase, rfl⟩

theorem aborted_ok : Returns (st.aborted evidence) fun st' =>
    st.phase ∈ [ExternalPhase.baseline, .intent, .outcomeUnknown] ∧
      st' = { st with phase := .aborted } := by
  refine .guard fun hphase => ?_
  repeat refine .skip fun _ => ?_
  exact .pure ⟨not_not.mp hphase, rfl⟩

theorem outcomeUnknown_ok : Returns (st.outcomeUnknown evidence) fun st' =>
    (st.phase = .intent ∨ st.phase = .hostCommitted) ∧
      st' = { st with phase := .outcomeUnknown } := by
  refine .guard fun hphase => ?_
  repeat refine .skip fun _ => ?_
  refine .pure ⟨?_, rfl⟩
  by_contra hne
  exact hphase (not_or.mp hne)

end State

/-! ## The phases -/

/-- The phases that a milestone may come in. -/
def phasesBefore : Milestone → List ExternalPhase
  | .intent => [.baseline]
  | .hostCommitted => [.intent, .outcomeUnknown]
  | .reconciled => [.hostCommitted]
  | .aborted => [.baseline, .intent, .outcomeUnknown]
  | .outcomeUnknown => [.intent, .hostCommitted]

/-- The phase that it leads to. -/
def phaseBehind : Milestone → ExternalPhase
  | .intent => .intent
  | .hostCommitted => .hostCommitted
  | .reconciled => .reconciled
  | .aborted => .aborted
  | .outcomeUnknown => .outcomeUnknown

/-- What every milestone has in common. -/
structure Stepped (milestone : Milestone) (st st' : State φ) : Prop where
  before : st.phase ∈ phasesBefore milestone
  behind : st'.phase = phaseBehind milestone
  operationId : st'.operationId = st.operationId
  baseline : st'.baseline = st.baseline

namespace State

variable (st : State φ) (evidence : Value φ)

/-- **One milestone** follows the transitions. -/
theorem apply_stepped (milestone : Milestone) : Returns (st.apply evidence milestone) fun st' =>
    Stepped milestone st st' := by
  intro st' h
  cases milestone with
  | intent =>
    obtain ⟨hphase, -, rfl⟩ := st.intentRecorded_ok evidence st' h
    exact ⟨List.mem_singleton.mpr hphase, rfl, rfl, rfl⟩
  | hostCommitted =>
    obtain ⟨hphase, -, rfl⟩ := st.hostCommitted_ok evidence st' h
    exact ⟨by rcases hphase with hphase | hphase <;> simp [hphase, phasesBefore], rfl, rfl, rfl⟩
  | reconciled =>
    obtain ⟨hphase, rfl⟩ := st.reconciled_ok evidence st' h
    exact ⟨List.mem_singleton.mpr hphase, rfl, rfl, rfl⟩
  | aborted =>
    obtain ⟨hphase, rfl⟩ := st.aborted_ok evidence st' h
    exact ⟨hphase, rfl, rfl, rfl⟩
  | outcomeUnknown =>
    obtain ⟨hphase, rfl⟩ := st.outcomeUnknown_ok evidence st' h
    exact ⟨by rcases hphase with hphase | hphase <;> simp [hphase, phasesBefore], rfl, rfl, rfl⟩

/-- **One record** is one milestone of the operation. -/
theorem step_ok (record : Value φ) : Returns (st.step record) fun st' =>
    ∃ milestone, milestoneOf (record.get "milestone") = some milestone ∧
      st.apply (record.get "evidence") milestone = .ok st' := by
  refine .guard fun _ => ?_
  intro st' h
  split at h
  · rename_i milestone hmilestone
    exact ⟨milestone, hmilestone, h⟩
  · exact nomatch h

end State

/-- The name of a milestone. -/
theorem milestoneOf_ok {value : Value φ} {milestone : Milestone}
    (h : milestoneOf value = some milestone) :
    ∃ name, (name, milestone) ∈ milestones ∧ value = .str (py name) := by
  obtain ⟨⟨name, m⟩, hfind, rfl⟩ := Option.map_eq_some_iff.mp h
  have hname := List.find?_some hfind
  exact ⟨name, List.mem_of_find?_eq_some hfind, isStr_iff.mp hname⟩

/-- The first record is the baseline. -/
theorem start_ok (first : Value φ) : Returns (start first) fun st =>
    first.get "milestone" = .str (py "EXTERNAL_DELETE_BASELINE") ∧
      isUuid (first.get "operation_id") = true ∧
      st = { operationId := first.get "operation_id", baseline := first.get "evidence" } := by
  refine .guard fun hmilestone => ?_
  have hstr := not_not.mp hmilestone
  refine .seq fun hoperation => ?_
  repeat refine .skip fun _ => ?_
  exact .pure ⟨isStr_iff.mp hstr, requireUuid_eq_ok.mp hoperation, rfl⟩

/-- An accepted journal is a run of the loop. -/
theorem validateHistory_ok {records : List (Value φ)} {history : History φ}
    (h : validateHistory records = .ok history) : run records = .ok history.toState := by
  obtain ⟨st, _, hrun, -, rfl⟩ := takeHistory_ok.mp h
  exact hrun

/-- A written journal is accepted when the loop accepts it. -/
theorem validateHistory_written {operationId : PyStr} {entries : List (Entry φ)}
    (hentries : entries ≠ []) {st : State φ} (h : run (written operationId entries) = .ok st) :
    validateHistory (written operationId entries) = .ok { st with
      recordCount := (written operationId entries).length,
      headHash := hashValue (headHash (written operationId entries)) } :=
  takeHistory_ok.mpr ⟨st, _, h, lastHashItem_written operationId hentries, rfl⟩

end Steps

end T2TouchId.Journal.ExternalDelete
