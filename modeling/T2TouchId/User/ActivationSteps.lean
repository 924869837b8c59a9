/-
  What each milestone of the activation journal does, and what the journal takes.

  1. **Milestones** — `loadIntent_ok`, …: `Returns` with the guard and the new state.
  2. **The crux** — `Bound`: in every accepted journal the baseline has passed its tests, and an activation
     whose outcome is unknown was stopped at a stage of the phase that it was stopped in.
  3. **Appending** — `append_accepted`: a milestone that the history takes, the journal takes.
-/
import T2TouchId.Journal.Client
import T2TouchId.User.ActivationJournal

set_option linter.unusedSectionVars false

namespace T2TouchId.User.Activation

open T2TouchId.Python T2TouchId.Python.Json T2TouchId.Journal

section Steps

variable {φ : Type} [JsonFloat φ]

namespace State

variable (st : State φ) (evidence : Value φ)

/-! ## Milestones -/

theorem loadIntent_ok : Returns (st.loadIntent evidence) fun st' =>
    st.phase = .baseline ∧ st.aliasPreexisting = false ∧ st' = { st with phase := .loadIntent } := by
  refine .guard fun hphase => .skip fun _ => .skip fun _ => .pure ?_
  obtain ⟨hbaseline, habsent⟩ := not_or.mp hphase
  exact ⟨not_not.mp hbaseline, eq_false_of_ne_true habsent, rfl⟩

theorem handleObserved_ok : Returns (st.handleObserved evidence) fun st' =>
    st.phase = .loadIntent ∧
      ∃ handle, st' = { st with temporaryHandle := some handle, phase := .handleObserved } := by
  refine .guard fun hphase => .skip fun _ => .skip fun handle => .skip fun _ => .pure ?_
  exact ⟨not_not.mp hphase, handle, rfl⟩

theorem bindIntent_ok : Returns (st.bindIntent evidence) fun st' =>
    st.phase = .handleObserved ∧ st' = { st with phase := .bindIntent } := by
  refine .guard fun hphase => .skip fun _ => .skip fun _ => .pure ?_
  exact ⟨not_not.mp hphase, rfl⟩

theorem aliasObserved_ok : Returns (st.aliasObserved evidence) fun st' =>
    st.phase = .bindIntent ∧ st' = { st with phase := .aliasObserved } := by
  refine .guard fun hphase => .skip fun _ => .skip fun _ => .skip fun _ => .pure ?_
  exact ⟨not_not.mp hphase, rfl⟩

theorem unlockIntent_ok : Returns (st.unlockIntent evidence) fun st' =>
    (st.phase = .baseline ∨ st.phase = .aliasObserved) ∧ st' = { st with phase := .unlockIntent } := by
  refine .guard fun hphase => .skip fun _ => .skip fun _ => .skip fun _ => .pure ⟨?_, rfl⟩
  by_contra hneither
  exact hphase (not_or.mp hneither)

theorem readyObserved_ok : Returns (st.readyObserved evidence) fun st' =>
    (st.phase = .aliasObserved ∨ st.phase = .unlockIntent) ∧ st' = { st with phase := .ready } := by
  refine .guard fun hphase => .skip fun _ => .skip fun _ => .skip fun _ => .pure ⟨?_, rfl⟩
  by_contra hneither
  exact hphase (not_or.mp hneither)

theorem terminal_ok (milestone : String) (phase : UserActivationPhase) :
    Returns (st.terminal milestone phase evidence) fun st' =>
      (∃ names name, stages st.phase = some names ∧ name ∈ names ∧
        evidence.get "stage" = .str (py name)) ∧
      st' = { st with
        terminalStage := some (evidence.get "stage"), terminalReason := some (evidence.get "reason"),
        terminalFromPhase := some st.phase, phase } := by
  unfold terminal
  cases hstages : stages st.phase with
  | none => exact .fail
  | some names =>
    refine .skip fun _ => .skip fun _ => .bind fun known hknown => .guard fun hvalid => .pure ⟨?_, rfl⟩
    rw [not_not.mp (not_or.mp hvalid).1] at hknown
    obtain ⟨name, hname, hstage⟩ := isIn_ok hknown
    exact ⟨names, name, rfl, hname, hstage⟩

/-- The phases of a recovery. -/
def recoveryPhases : List UserActivationPhase :=
  [.recoveredReady, .recoveredNotReady, .recoveryBlocked, .quarantined]

theorem resolve_ok : Returns (resolve evidence) fun phase => phase ∈ recoveryPhases := by
  refine .ite (fun _ => .skip fun _ => .pure (by simp [recoveryPhases])) fun _ => ?_
  refine .ite (fun _ => .skip fun _ => .skip fun _ => .pure (by simp [recoveryPhases])) fun _ => ?_
  refine .ite (fun _ => .skip fun _ => .pure (by simp [recoveryPhases])) fun _ => ?_
  exact .ite (fun _ => .skip fun _ => .pure (by simp [recoveryPhases])) fun _ => .fail

theorem recoveryObserved_ok : Returns (st.recoveryObserved evidence) fun st' =>
    st.phase = .outcomeUnknown ∧ ∃ phase ∈ recoveryPhases, st' = { st with phase } := by
  refine .guard fun hphase => .skip fun _ => .skip fun _ => .skip fun _ => .bind fun phase hresolve => ?_
  exact .pure ⟨not_not.mp hphase, phase, resolve_ok evidence phase hresolve, rfl⟩

/-- What the machine remembers of a stop: one of the stages of the phase. -/
def StoppedAt : Prop := ∃ phase names name, st.terminalFromPhase = some phase ∧
  stages phase = some names ∧ name ∈ names ∧ st.terminalStage = some (.str (py name))

/-- A milestone keeps the operation and the baseline, and only a stop leads to an unknown outcome. -/
theorem apply_kept (milestone : Milestone) : Returns (st.apply evidence milestone) fun st' =>
    st'.operationId = st.operationId ∧ st'.baseline = st.baseline ∧
      (st'.phase = .outcomeUnknown → st'.StoppedAt) := by
  have hterminal : ∀ name phase, Returns (st.terminal name phase evidence) fun st' =>
      st'.operationId = st.operationId ∧ st'.baseline = st.baseline ∧
        (st'.phase = .outcomeUnknown → st'.StoppedAt) := by
    intro name phase st' h
    obtain ⟨⟨names, stage, hnames, hstage, hitem⟩, rfl⟩ := st.terminal_ok evidence name phase st' h
    exact ⟨rfl, rfl, fun _ => ⟨_, names, stage, rfl, hnames, hstage, congrArg some hitem⟩⟩
  intro st' h
  cases milestone with
  | loadIntent =>
    obtain ⟨-, -, rfl⟩ := st.loadIntent_ok evidence st' h
    exact ⟨rfl, rfl, nofun⟩
  | handleObserved =>
    obtain ⟨-, handle, rfl⟩ := st.handleObserved_ok evidence st' h
    exact ⟨rfl, rfl, nofun⟩
  | bindIntent =>
    obtain ⟨-, rfl⟩ := st.bindIntent_ok evidence st' h
    exact ⟨rfl, rfl, nofun⟩
  | aliasObserved =>
    obtain ⟨-, rfl⟩ := st.aliasObserved_ok evidence st' h
    exact ⟨rfl, rfl, nofun⟩
  | unlockIntent =>
    obtain ⟨-, rfl⟩ := st.unlockIntent_ok evidence st' h
    exact ⟨rfl, rfl, nofun⟩
  | ready =>
    obtain ⟨-, rfl⟩ := st.readyObserved_ok evidence st' h
    exact ⟨rfl, rfl, nofun⟩
  | stopped => exact hterminal _ _ st' h
  | outcomeUnknown => exact hterminal _ _ st' h
  | recoveryObserved =>
    obtain ⟨-, phase, hphase, rfl⟩ := st.recoveryObserved_ok evidence st' h
    refine ⟨rfl, rfl, fun hunknown => ?_⟩
    rw [show phase = .outcomeUnknown from hunknown] at hphase
    exact absurd hphase (by decide)

/-- What holds of every accepted journal. -/
structure Bound : Prop where
  baseline : validateBaseline st.baseline = .ok ()
  operation : isUuid st.operationId = true
  stopped : st.phase = .outcomeUnknown → st.StoppedAt

end State

/-! ## Every journal -/

theorem start_ok (first : Value φ) : Returns (start first) fun st =>
    validateBaseline st.baseline = .ok () ∧ isUuid st.operationId = true ∧ st.phase = .baseline := by
  refine .skip fun _ => .skip fun _ => .skip fun _ => .seq fun hbaseline => .seq fun huuid => .pure ?_
  exact ⟨hbaseline, requireUuid_eq_ok.mp huuid, rfl⟩

theorem step_ok {st : State φ} {record : Value φ} : Returns (st.step record) fun st' =>
    ∃ milestone, milestoneOf (record.get "milestone") = some milestone ∧
      st.apply (record.get "evidence") milestone = .ok st' := by
  refine .skip fun _ => ?_
  cases hmilestone : milestoneOf (record.get "milestone") with
  | some milestone =>
    intro st' h
    exact ⟨milestone, rfl, h⟩
  | none =>
    intro st' h
    simp only at h
    split at h
    · exact nomatch h
    · exact nomatch h

theorem run_bound {records : List (Value φ)} {st : State φ} (h : run records = .ok st) : st.Bound := by
  refine journalRun_induction (P := fun _ st => st.Bound) ?start ?step records st h
  case start =>
    intro first st hstart
    obtain ⟨hbaseline, hoperation, hphase⟩ := start_ok first st hstart
    refine ⟨hbaseline, hoperation, fun hunknown => ?_⟩
    exact nomatch hphase.symm.trans hunknown
  case step =>
    intro records st record st' _ hbound hstep
    obtain ⟨milestone, -, happly⟩ := step_ok st' hstep
    obtain ⟨hoperation, hbaseline, hstopped⟩ := st.apply_kept _ milestone st' happly
    exact ⟨hbaseline ▸ hbound.baseline, hoperation ▸ hbound.operation, hstopped⟩

theorem validateHistory_ok {records : List (Value φ)} {history : UserActivationHistory φ} :
    validateHistory records = .ok history ↔ ∃ st, run records = .ok st ∧
      history = { st with recordCount := records.length, headHash := headHashOf records } := by
  constructor
  · intro h
    obtain ⟨st, hrun, h⟩ := bind_ok h
    exact ⟨st, hrun, (Except.ok.inj h).symm⟩
  · rintro ⟨st, hrun, rfl⟩
    exact (passes hrun).trans rfl

theorem run_of_validateHistory {records : List (Value φ)} {history : UserActivationHistory φ}
    (h : validateHistory records = .ok history) : run records = .ok history.toState := by
  obtain ⟨st, hrun, rfl⟩ := validateHistory_ok.mp h
  exact hrun

theorem milestoneOf_named {name : String} {milestone : Milestone}
    (h : milestones.find? (fun m => m.1 = name) = some (name, milestone)) :
    milestoneOf (.str (py name) : Value φ) = some milestone := by
  rw [milestoneOf, find?_milestone h]
  rfl

/-- **One more record** that the machine takes. -/
theorem validateHistory_concat {records : List (Value φ)} {record : Value φ} {st st' : State φ}
    {milestone : Milestone} (h : run records = .ok st)
    (hoperation : record.get "operation_id" = st.operationId)
    (hmilestone : milestoneOf (record.get "milestone") = some milestone)
    (happly : st.apply (record.get "evidence") milestone = .ok st') :
    ∃ after, validateHistory (records ++ [record]) = .ok after ∧ after.toState = st' := by
  have hrecords : records ≠ [] := by
    rintro rfl
    exact journalRun_nil st h
  have hsame : differ (record.get "operation_id") st.operationId = false := by
    rw [hoperation]
    exact differ_self_uuid (run_bound h).operation
  have hstep : st.step record = .ok st' := by
    refine (passTest (by simp [hsame])).trans ?_
    rw [hmilestone]
    exact happly
  refine ⟨_, validateHistory_ok.mpr ⟨st', ?_, rfl⟩, rfl⟩
  rw [run, journalRun_concat hrecords]
  exact (passes h).trans hstep

/-- **A milestone that the history takes**, the journal takes. -/
theorem append_accepted {records : List (Value φ)} {history : UserActivationHistory φ}
    (h : validateHistory records = .ok history) {operationId : PyStr}
    (hoperation : history.operationId = .str operationId) {milestone : String} {evidence : Value φ}
    {m : Milestone} {st' : State φ}
    (hnamed : milestones.find? (fun m => m.1 = milestone) = some (milestone, m))
    (happly : history.toState.apply evidence m = .ok st') :
    ∃ after, typedJournal.faultless operationId records milestone evidence =
        (.ok after, records ++ [writtenRecord operationId records ⟨py milestone, evidence⟩]) ∧
      validateHistory (records ++ [writtenRecord operationId records ⟨py milestone, evidence⟩]) =
        .ok after ∧
      after.toState = st' := by
  have hrun := run_of_validateHistory h
  have hm : milestoneOf (.str (py milestone) : Value φ) = some m := milestoneOf_named hnamed
  obtain ⟨hid, hmilestone, hevidence, -⟩ :=
    TypedJournal.writtenRecord_fields operationId records ⟨py milestone, evidence⟩
  obtain ⟨hid', hmilestone', hevidence'⟩ :=
    TypedJournal.candidate_fields operationId (py milestone) evidence
  obtain ⟨tried, htried, -⟩ := validateHistory_concat hrun (hid'.trans hoperation.symm)
    ((congrArg milestoneOf hmilestone').trans hm) (by rw [hevidence']; exact happly)
  obtain ⟨after, hafter, hst⟩ := validateHistory_concat hrun (hid.trans hoperation.symm)
    ((congrArg milestoneOf hmilestone).trans hm) (by rw [hevidence]; exact happly)
  have htests : typedJournal.tests records history operationId (py milestone) evidence = .ok () := by
    have hsame : ¬ differ (.str operationId) history.operationId = true := by
      rw [hoperation, differ_self_str]
      exact Bool.false_ne_true
    have haccept : typedJournal.accept
        (records ++ [TypedJournal.candidate operationId (py milestone) evidence]) = .ok tried :=
      typedJournal.accept_ok.mpr htried
    refine (if_neg hsame).trans ((if_pos rfl).trans ?_)
    rw [haccept]
    rfl
  exact ⟨after, typedJournal.faultless_accepted h htests hafter, hafter, hst⟩

end Steps

end T2TouchId.User.Activation
