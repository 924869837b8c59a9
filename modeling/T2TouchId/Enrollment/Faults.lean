/-
  Is every fault of the journal behind the start frozen?

  Problem: an append may fail with the error of the enrollment journal, with that of the mutation journal
  below it, or with an error of the operating system, and its record may be in the file or not.  Where
  `run` raises behind the intent of the start, the last thing it has done should be the attempt to record
  that the outcome is unknown.

  1. **Specification** — `Frozen`: the last exchange is this attempt, and if it returned, so the journal ends.
  2. **The slip** — `_append` turns only the error of its own module into one that
     `_append_during_active_operation` freezes; the handler around all of it freezes only behind an
     observed start.  `Loses`: an answer to the start whose append fails with another error, or an intent
     that fails and is there.
  3. **Programs** — `Kept`: nothing is lost so far; each method is judged over the log.
  4. **Results** — `frozen_iff_kept`: frozen exactly where nothing is lost; `silent_run`: every operation has
     a run that loses it.
-/
import T2TouchId.Enrollment.Refinement

set_option linter.unusedSectionVars false

namespace T2TouchId.Enrollment

open T2TouchId.Calls T2TouchId.Journal T2TouchId.Journal.Enrollment T2TouchId.Python T2TouchId.Python.Json

namespace EnrollmentOperation

/-- A call with its answer, or an append with what came of it. -/
abbrev Step (φ : Type) : Type :=
  Exchange (Query φ Command) (Reply φ (EnrollmentHistory φ) (CommandAnswer φ))

section Faults

variable {φ : Type} [JsonFloat φ]

/-! ## Specification -/

/-- An append of this milestone was asked for. -/
def Asked (log : List (Step φ)) (milestone : String) : Prop :=
  ∃ evidence reply, ⟨.append milestone evidence, reply⟩ ∈ log

/-- The last thing done is the attempt to record an unknown outcome. -/
def Attempted (log : List (Step φ)) : Prop :=
  ∃ before evidence reply, log = before ++ [⟨.append "ENROLL_OUTCOME_UNKNOWN" evidence, reply⟩]

/-- … and if it returned, the journal ends so. -/
def Frozen (lower : PyStr → PyStr) (log : List (Step φ)) (all : List (Value φ)) : Prop :=
  ∃ before evidence reply, log = before ++ [⟨.append "ENROLL_OUTCOME_UNKNOWN" evidence, reply⟩] ∧
    ∀ history, reply = .ok history →
      validateHistory lower all = .ok history ∧ history.phase = .outcomeUnknown

/-- The answers that an attempt does not follow. -/
inductive Loses : Step φ → Prop
  /-- The intent of the start, whatever it fails with. -/
  | intent {evidence : Value φ} {failure : Failure φ} :
      Loses ⟨.append "ENROLL_START_INTENT" evidence, .error failure⟩
  /-- What came of the start, if it fails with another error than that of the enrollment journal. -/
  | answer {milestone : String} {evidence : Value φ} {failure : Failure φ}
      (start : milestone ∈ ["ENROLL_START_OBSERVED", "ENROLL_START_REJECTED"])
      (untyped : failure.isTyped = false) : Loses ⟨.append milestone evidence, .error failure⟩

/-- No answer of the log is lost. -/
def Kept (log : List (Step φ)) : Prop := ∀ step ∈ log, ¬ Loses step

/-- Appends may fail in any way; one that returns has a phase behind its milestone.  The state is the log. -/
def faulty (φ : Type) [JsonFloat φ] :
    Contract (Query φ Command) (Reply φ (EnrollmentHistory φ) (CommandAnswer φ)) (List (Step φ)) where
  allows _ _ := True
  replies _
    | .append milestone _, reply => ∀ history, reply = .ok history → ∀ m,
      milestoneNamed (py milestone) = some m → history.phase ∈ phasesBehind m
    | .call _, _ => True
  next log q r := log ++ [⟨q, r⟩]

/-! ## Logs -/

variable {log : List (Step φ)}

theorem kept_nil : Kept ([] : List (Step φ)) := fun _ h => absurd h List.not_mem_nil

theorem not_asked_nil (milestone : String) : ¬ Asked ([] : List (Step φ)) milestone := fun ⟨_, _, h⟩ =>
  absurd h List.not_mem_nil

theorem kept_concat {step : Step φ} (h : Kept log) (hstep : ¬ Loses step) : Kept (log ++ [step]) := by
  intro other hother
  rcases List.mem_append.mp hother with hother | hother
  · exact h other hother
  · exact List.mem_singleton.mp hother ▸ hstep

theorem not_kept_concat {step : Step φ} (h : Loses step) : ¬ Kept (log ++ [step]) := fun hkept =>
  hkept step (List.mem_append_right log (List.mem_singleton_self step)) h

theorem not_loses_call {command : Command} {answer : CommandAnswer φ command} :
    ¬ Loses (⟨.call command, answer⟩ : Step φ) := nofun

theorem not_loses_ok {milestone : String} {evidence : Value φ} {history : EnrollmentHistory φ} :
    ¬ Loses (⟨.append milestone evidence, .ok history⟩ : Step φ) := nofun

/-- Other milestones are not lost. -/
theorem not_loses_other {milestone : String} {evidence : Value φ}
    {reply : Except (Failure φ) (EnrollmentHistory φ)}
    (h : milestone ∉ ["ENROLL_START_INTENT", "ENROLL_START_OBSERVED", "ENROLL_START_REJECTED"]) :
    ¬ Loses (⟨.append milestone evidence, reply⟩ : Step φ) := by
  intro hloses
  cases hloses with
  | intent => exact h (by simp)
  | answer start _ => exact h (List.mem_cons_of_mem _ start)

/-- An error of the enrollment journal is not lost behind the intent. -/
theorem not_loses_typed {milestone : String} {evidence : Value φ} {failure : Failure φ}
    (h : milestone ≠ "ENROLL_START_INTENT") (htyped : failure.isTyped = true) :
    ¬ Loses (⟨.append milestone evidence, .error failure⟩ : Step φ) := by
  intro hloses
  cases hloses with
  | intent => exact h rfl
  | answer _ untyped => exact absurd htyped (by simp [untyped])

theorem not_asked_concat {step : Step φ} {milestone : String} (h : ¬ Asked log milestone)
    (hstep : ∀ evidence, step.asked ≠ .append milestone evidence) : ¬ Asked (log ++ [step]) milestone := by
  rintro ⟨evidence, reply, hmem⟩
  rcases List.mem_append.mp hmem with hmem | hmem
  · exact h ⟨evidence, reply, hmem⟩
  · exact hstep evidence (congrArg Exchange.asked (List.mem_singleton.mp hmem)).symm

/-- The last exchange was another one. -/
theorem not_attempted_concat {step : Step φ}
    (h : ∀ evidence, step.asked ≠ .append "ENROLL_OUTCOME_UNKNOWN" evidence) :
    ¬ Attempted (log ++ [step]) := by
  rintro ⟨before, evidence, reply, hlog⟩
  obtain ⟨-, hlast⟩ := List.append_inj' hlog rfl
  exact h evidence (congrArg Exchange.asked (List.cons_eq_cons.mp hlast).1)

/-! ## Methods -/

variable {op : EnrollmentOperation φ} {s : EnrollmentHistory φ} {α : Type}

/-- An append that may fail. -/
theorem append_faulty {milestone : String} {evidence : Value φ}
    {ok : Unit → EnrollmentHistory φ → List (Step φ) → Prop}
    {err : OperationError φ → EnrollmentHistory φ → List (Step φ) → Prop}
    (hok : ∀ history, (∀ m, milestoneNamed (py milestone) = some m → history.phase ∈ phasesBehind m) →
      ok () history (log ++ [⟨.append milestone evidence, .ok history⟩]))
    (herr : ∀ failure error, error.isOperation = failure.isTyped →
      err error s (log ++ [⟨.append milestone evidence, .error failure⟩])) :
    Op.Meets (faulty φ) (append milestone evidence) s log ok err := by
  refine Op.Meets.bind (Client.append_meets trivial fun reply hreply => ?_)
  cases reply with
  | ok history => exact Op.Meets.set (hok history (hreply history rfl))
  | error failure =>
    refine Op.Meets.raise (herr failure _ ?_)
    by_cases htyped : failure.isTyped = true
    · rw [if_pos htyped, htyped]
      rfl
    · rw [if_neg htyped, eq_false_of_ne_true htyped]
      rfl

/-- A call that may raise. -/
theorem answered_faulty {command : Command} {answer : CommandAnswer φ command → Answer α}
    {ok : α → EnrollmentHistory φ → List (Step φ) → Prop}
    {err : OperationError φ → EnrollmentHistory φ → List (Step φ) → Prop}
    (hok : ∀ a reply, ok a s (log ++ [⟨.call command, reply⟩]))
    (herr : ∀ error reply, err error s (log ++ [⟨.call command, reply⟩])) :
    Op.Meets (faulty φ) (Client.call command >>= fun a => answered (answer a) : Method φ α) s log ok err := by
  refine Op.Meets.bind (Client.call_meets trivial fun a _ => ?_)
  cases answer a with
  | raised => exact Op.Meets.raise (herr _ _)
  | returned a' => exact Op.Meets.pure (hok a' _)

/-- A call that should return a status. -/
theorem status_faulty {command : Command} {answer : CommandAnswer φ command → Answer (Value φ)}
    {operation : String} {ok : Int → EnrollmentHistory φ → List (Step φ) → Prop}
    {err : OperationError φ → EnrollmentHistory φ → List (Step φ) → Prop}
    (hok : ∀ status reply, ok status s (log ++ [⟨.call command, reply⟩]))
    (herr : ∀ error reply, err error s (log ++ [⟨.call command, reply⟩])) :
    Op.Meets (faulty φ) (do
      let value ← answered (answer (← Client.call command))
      Op.lift (transportStatus value operation) : Method φ Int) s log ok err := by
  refine Op.Meets.bind (Client.call_meets trivial fun a _ => Op.Meets.bind ?_)
  cases answer a with
  | raised => exact Op.Meets.raise (herr _ _)
  | returned value => exact Op.Meets.pure (Op.Meets.lift (fun _ _ => hok _ _) fun _ _ => herr _ _)

/-- **An unknown outcome** is attempted, whatever comes of it. -/
theorem outcomeUnknown_faulty (hkept : Kept log) (stage reason : String)
    {ok : α → EnrollmentHistory φ → List (Step φ) → Prop} :
    Op.Meets (faulty φ) (op.outcomeUnknown stage reason : Method φ α) s log ok
      fun _ _ log => Kept log ∧ Attempted log := by
  have hattempted : ∀ evidence reply,
      Kept (log ++ [⟨.append "ENROLL_OUTCOME_UNKNOWN" evidence, reply⟩]) ∧
        Attempted (log ++ [(⟨.append "ENROLL_OUTCOME_UNKNOWN" evidence, reply⟩ : Step φ)]) :=
    fun evidence reply => ⟨kept_concat hkept (not_loses_other (by simp)), log, evidence, reply, rfl⟩
  refine Op.Meets.bind (Op.Meets.except (append_faulty (fun history _ => ?_) fun failure error _ => ?_))
  · exact Op.Meets.raise (hattempted _ _)
  · exact Op.Meets.raise (hattempted _ _)

/-- A block under the guard of an unknown outcome. -/
theorem orUnknown_faulty {block : Method φ α} {stage reason : String}
    {ok : α → EnrollmentHistory φ → List (Step φ) → Prop}
    {err : OperationError φ → EnrollmentHistory φ → List (Step φ) → Prop}
    (h : Op.Meets (faulty φ) block s log ok fun _ _ log => Kept log)
    (herr : ∀ error s log, Kept log → Attempted log → err error s log) :
    Op.Meets (faulty φ) (op.orUnknown block stage reason) s log ok err :=
  Op.Meets.except (h.mono (fun _ _ _ => id) fun _ _ _ hkept =>
    (outcomeUnknown_faulty hkept stage reason).mono (fun _ _ _ => id) fun _ _ _ hboth =>
      herr _ _ _ hboth.1 hboth.2)

/-! ## The start -/

/-- An exception that the last handler passes on. -/
def Passes (error : OperationError φ) (s : EnrollmentHistory φ) : Prop :=
  error.isOperation = true ∨ s.phase ∉ activePhases

/-- How the start ends with an exception. -/
def StartErr (error : OperationError φ) (s : EnrollmentHistory φ) (log : List (Step φ)) : Prop :=
  Kept log ∧ Attempted log ∨
    Passes error s ∧ (¬ Asked log "ENROLL_START_INTENT" ∨ ¬ Kept log ∧ ¬ Attempted log)

/-- The records of what came of the start. -/
theorem answer_faulty {milestone : String} {evidence : Value φ}
    (hmilestone : milestone ∈ ["ENROLL_START_OBSERVED", "ENROLL_START_REJECTED"]) (hkept : Kept log)
    (hphase : s.phase ∉ activePhases) {ok : Unit → EnrollmentHistory φ → List (Step φ) → Prop}
    (hok : ∀ history, (∀ m, milestoneNamed (py milestone) = some m → history.phase ∈ phasesBehind m) →
      ok () history (log ++ [⟨.append milestone evidence, .ok history⟩])) :
    Op.Meets (faulty φ) (op.appendDuringActiveOperation milestone evidence "start") s log ok StartErr := by
  have hintent : milestone ≠ "ENROLL_START_INTENT" := by
    rintro rfl
    exact absurd hmilestone (by decide)
  have hunknown : milestone ≠ "ENROLL_OUTCOME_UNKNOWN" := by
    rintro rfl
    exact absurd hmilestone (by decide)
  refine Op.Meets.except (append_faulty hok fun failure error herror => ?_)
  by_cases htyped : failure.isTyped = true
  · rw [if_pos (herror.trans htyped)]
    refine (outcomeUnknown_faulty (kept_concat hkept (not_loses_typed hintent htyped)) _ _).mono
      (fun _ _ _ => id) fun _ _ _ hboth => .inl hboth
  · -- the slip: no one freezes an error of another kind
    rw [if_neg (fun hoperation => htyped (herror.symm.trans hoperation))]
    refine Op.Meets.raise (.inr ⟨.inr hphase, .inr ⟨?_, ?_⟩⟩)
    · exact not_kept_concat (.answer hmilestone (eq_false_of_ne_true htyped))
    · refine not_attempted_concat fun other hother => hunknown ?_
      exact (Query.append.inj hother).1

/-- The phase of a history behind an append that returned. -/
theorem phase_behind {milestone : String} {m : Milestone} {phase : EnrollmentPhase}
    (hnamed : milestones.find? (fun m => m.1 = milestone) = some (milestone, m))
    (hphases : phasesBehind m = [phase]) {history : EnrollmentHistory φ}
    (h : ∀ m, milestoneNamed (py milestone) = some m → history.phase ∈ phasesBehind m) :
    history.phase = phase := by
  have hmem := h m (milestoneNamed_of hnamed)
  rw [hphases] at hmem
  exact List.mem_singleton.mp hmem

/-- **The start**: it ends in a phase whose exceptions are frozen, or with an exception of its own. -/
theorem start_faulty (hphase : s.phase = .baseline) (acmExternalForm : Bytes) :
    Op.Meets (faulty φ) (op.start acmExternalForm) s []
      (fun result s log => result = none → s.phase = .active ∧ Kept log) StartErr := by
  have hinactive : ∀ phase, phase = .baseline ∨ phase = .startIntent → phase ∉ activePhases := by
    rintro phase (rfl | rfl) <;> decide
  have hguard : Op.Meets (faulty φ) dispatchAllowed s [] (fun _ s log => s.phase = .baseline ∧ Kept log ∧
      ¬ Asked log "ENROLL_START_INTENT") StartErr := by
    have hcalled : ∀ reply, Kept [(⟨.call .dispatchAllowed, reply⟩ : Step φ)] ∧
        ¬ Asked [(⟨.call .dispatchAllowed, reply⟩ : Step φ)] "ENROLL_START_INTENT" := fun reply =>
      ⟨kept_concat kept_nil not_loses_call, not_asked_concat (not_asked_nil _) fun _ => by simp⟩
    refine Op.Meets.except (answered_faulty (fun _ reply => ⟨hphase, hcalled reply⟩) fun _ reply => ?_)
    exact Op.Meets.pure ⟨hphase, hcalled reply⟩
  refine Op.Meets.seq hguard ?_
  clear hphase
  rintro allowed s log ⟨hphase, hkept, hasked⟩
  cases allowed with
  | false =>
    refine Op.Meets.bind (append_faulty (fun _ _ => ?_) fun _ _ _ => ?_)
    · exact Op.Meets.bind (Op.Meets.raise (.inr ⟨.inl rfl, .inl (not_asked_concat hasked (by simp))⟩))
    · exact .inr ⟨.inr (hinactive _ (.inl hphase)), .inl (not_asked_concat hasked (by simp))⟩
  | true =>
    refine Op.Meets.bind (Op.Meets.lift (fun request _ => ?_) fun _ _ =>
      .inr ⟨.inr (hinactive _ (.inl hphase)), .inl hasked⟩)
    refine Op.Meets.bind (append_faulty (fun s1 hphase1 => ?_) fun failure error herror => ?_)
    · have hphase1 : s1.phase = .startIntent := phase_behind rfl rfl hphase1
      have hstarted : ∀ log, Kept log → Op.Meets (faulty φ) (op.orUnknown (do
          let value ← answered (← Client.call (.start request))
          Op.lift (transportStatus value "start")) "start" "transport-error") s1 log
          (fun _ s log => s.phase = .startIntent ∧ Kept log) StartErr := by
        intro log hkept
        refine orUnknown_faulty (status_faulty (fun _ _ => ⟨hphase1, ?_⟩) fun _ _ => ?_)
          fun _ _ _ hkept hattempted => .inl ⟨hkept, hattempted⟩
        all_goals exact kept_concat hkept not_loses_call
      refine Op.Meets.seq (hstarted _ (kept_concat hkept not_loses_ok)) ?_
      rintro status s2 log ⟨hphase2, hkept⟩
      by_cases hstatus : status = 0
      · subst hstatus
        refine Op.Meets.bind (answer_faulty (by simp) hkept (hinactive _ (.inr hphase2)) fun s3 hphase3 => ?_)
        exact Op.Meets.pure fun _ => ⟨phase_behind rfl rfl hphase3, kept_concat hkept not_loses_ok⟩
      · rw [if_pos hstatus]
        refine Op.Meets.bind (answer_faulty (by simp) hkept (hinactive _ (.inr hphase2)) fun s3 _ => ?_)
        exact Op.Meets.pure nofun
    · refine .inr ⟨.inr (hinactive _ (.inl hphase)), .inr ⟨not_kept_concat .intent, ?_⟩⟩
      exact not_attempted_concat (by simp)

/-! ## The loop -/

/-- Between two rounds. -/
def Active (s : EnrollmentHistory φ) (log : List (Step φ)) : Prop := s.phase ∈ activePhases ∧ Kept log

/-- How a round ends with an exception: attempted, or left to the last handler. -/
def LoopErr (error : OperationError φ) (s : EnrollmentHistory φ) (log : List (Step φ)) : Prop :=
  Kept log ∧ (Attempted log ∨ error.isOperation = false ∧ s.phase ∈ activePhases)

theorem Active.call {command : Command} {answer : CommandAnswer φ command} (h : Active s log) :
    Active s (log ++ [⟨.call command, answer⟩]) := ⟨h.1, kept_concat h.2 not_loses_call⟩

/-- An append of the loop. -/
theorem appendDuring_faulty {milestone stage : String} {evidence : Value φ}
    (hmilestone : milestone ∉ ["ENROLL_START_INTENT", "ENROLL_START_OBSERVED", "ENROLL_START_REJECTED"])
    (h : Active s log) {ok : Unit → EnrollmentHistory φ → List (Step φ) → Prop}
    (hok : ∀ history log, (∀ m, milestoneNamed (py milestone) = some m → history.phase ∈ phasesBehind m) →
      Kept log → ok () history log) :
    Op.Meets (faulty φ) (op.appendDuringActiveOperation milestone evidence stage) s log ok LoopErr := by
  refine Op.Meets.except (append_faulty (fun history hphase => ?_) fun failure error herror => ?_)
  · exact hok history _ hphase (kept_concat h.2 not_loses_ok)
  · have hother : ¬ Loses (⟨.append milestone evidence, .error failure⟩ : Step φ) :=
      not_loses_other hmilestone
    have hkept := kept_concat h.2 hother
    by_cases htyped : failure.isTyped = true
    · rw [if_pos (herror.trans htyped)]
      exact (outcomeUnknown_faulty hkept _ _).mono (fun _ _ _ => id) fun _ _ _ hboth =>
        ⟨hboth.1, .inl hboth.2⟩
    · have herror : error.isOperation = false := herror.trans (eq_false_of_ne_true htyped)
      rw [if_neg (by simp [herror])]
      exact Op.Meets.raise ⟨hkept, .inr ⟨herror, h.1⟩⟩

/-- A guarded block of the loop that makes one call at most. -/
theorem guarded_faulty {block : Method φ α} {stage reason : String}
    {ok : α → EnrollmentHistory φ → List (Step φ) → Prop}
    (h : Op.Meets (faulty φ) block s log ok fun _ _ log => Kept log) :
    Op.Meets (faulty φ) (op.orUnknown block stage reason) s log ok LoopErr :=
  orUnknown_faulty h fun _ _ _ hkept hattempted => ⟨hkept, .inl hattempted⟩

variable {machine : EnrollmentStateMachine} {cancelSent : Bool}

theorem cancelIfRequested_faulty (h : Active s log) :
    Op.Meets (faulty φ) (op.cancelIfRequested machine cancelSent) s log (fun _ => Active) LoopErr := by
  cases cancelSent with
  | true => exact Op.Meets.bind (Op.Meets.pure (Op.Meets.pure h))
  | false =>
    refine Op.Meets.seq (guarded_faulty (answered_faulty (fun _ _ => h.call) fun _ _ => h.call.2))
      fun shouldCancel s log h => ?_
    cases shouldCancel with
    | false => exact Op.Meets.pure h
    | true =>
      refine Op.Meets.bind (appendDuring_faulty (by simp) h fun s1 log1 hphase1 hkept1 => ?_)
      have hphase1 : s1.phase = .cancelIntent := phase_behind rfl rfl hphase1
      have hactive1 : Active s1 log1 := ⟨by simp [hphase1, activePhases], hkept1⟩
      rcases machine.requestCancel with ⟨result, next⟩
      refine Op.Meets.bind (Op.Meets.lift (fun _ _ => ?_) fun error herror => ⟨hkept1, .inr ⟨?_, hactive1.1⟩⟩)
      · refine Op.Meets.seq (guarded_faulty (status_faulty (fun _ _ => hactive1.call) fun _ _ => hactive1.call.2))
          fun status s2 log2 hactive2 => ?_
        by_cases hstatus : status = 0
        · subst hstatus
          refine Op.Meets.bind (appendDuring_faulty (by simp) hactive2 fun s3 log3 hphase3 hkept3 => ?_)
          have hphase3 : s3.phase = .cancelRequested := phase_behind rfl rfl hphase3
          exact Op.Meets.pure ⟨by simp [hphase3, activePhases], hkept3⟩
        · rw [if_pos hstatus]
          exact Op.Meets.bind ((outcomeUnknown_faulty hactive2.2 _ _).mono (fun _ _ _ => id)
            fun _ _ _ hboth => ⟨hboth.1, .inl hboth.2⟩)
      · cases result with
        | ok u => exact nomatch herror
        | error message =>
          cases herror
          rfl

theorem feedback_faulty (h : Active s log) (transition : EnrollmentTransition) :
    Op.Meets (faulty φ) (op.feedback transition) s log (fun _ => Active) LoopErr := by
  unfold feedback
  by_cases hsilent : transition.action ∈ silentActions
  · rw [if_pos hsilent]
    exact Op.Meets.pure h
  · rw [if_neg hsilent]
    refine guarded_faulty (Op.Meets.bind (Client.call_meets trivial fun answer _ => Op.Meets.bind ?_))
    cases answer with
    | raised => exact Op.Meets.raise h.call.2
    | returned isNone =>
      cases isNone with
      | true => exact Op.Meets.pure (Op.Meets.pure h.call)
      | false => exact Op.Meets.pure (Op.Meets.raise h.call.2)

theorem continueEnrollment_faulty (h : Active s log) (event : ServiceEvent) (data : Bytes) :
    Op.Meets (faulty φ) (op.continueEnrollment event data) s log (fun _ => Active) LoopErr := by
  refine Op.Meets.bind (appendDuring_faulty (by simp) h fun s1 log1 hphase1 hkept1 => ?_)
  have hphase1 : s1.phase = .continueIntent := phase_behind rfl rfl hphase1
  have hactive1 : Active s1 log1 := ⟨by simp [hphase1, activePhases], hkept1⟩
  refine Op.Meets.seq (guarded_faulty (status_faulty (fun _ _ => hactive1.call) fun _ _ => hactive1.call.2))
    fun status s2 log2 hactive2 => ?_
  refine appendDuring_faulty (by simp) hactive2 fun s3 log3 hphase3 hkept3 => ?_
  have hphase3 : s3.phase = .active := phase_behind rfl rfl hphase3
  exact ⟨by simp [hphase3, activePhases], hkept3⟩

/-- The last step of a round: an append and a result, or nothing. -/
theorem finish_faulty (h : Active s log) (event : ServiceEvent) (data : Bytes)
    (transition : EnrollmentTransition) :
    Op.Meets (faulty φ) (op.finish event data transition) s log
      (fun result s log => result = none → Active s log) LoopErr := by
  have hterminal : ∀ (milestone : String) (evidence : Value φ) (outcome : EnrollmentOperationResult),
      milestone ∉ ["ENROLL_START_INTENT", "ENROLL_START_OBSERVED", "ENROLL_START_REJECTED"] →
      Op.Meets (faulty φ) (do
        op.appendDuringActiveOperation milestone evidence "terminal"
        return some outcome) s log (fun result s log => result = none → Active s log) LoopErr := by
    intro milestone evidence outcome hmilestone
    exact Op.Meets.bind (appendDuring_faulty hmilestone h fun _ _ _ _ => Op.Meets.pure nofun)
  unfold finish
  split
  · exact hterminal _ _ _ (by simp)
  · exact Op.Meets.raise ⟨h.2, .inr ⟨rfl, h.1⟩⟩
  · exact hterminal _ _ _ (by simp)
  · split
    · exact hterminal _ _ _ (by simp)
    · exact Op.Meets.pure fun _ => h

theorem handleEvent_faulty (h : Active s log) (rawEvent : RawEvent) :
    Op.Meets (faulty φ) (op.handleEvent machine rawEvent) s log
      (fun next s log => next.2 = none → Active s log) LoopErr := by
  refine Op.Meets.seq (guarded_faulty (Op.Meets.lift (fun _ _ => h) fun _ _ => h.2)) ?_
  rintro ⟨event, transition, machine'⟩ s log h
  refine Op.Meets.seq (feedback_faulty h transition) fun _ s log h => ?_
  by_cases hcontinue : transition.continueRequired = true
  · show Op.Meets _ (if transition.continueRequired = true then _ else _) _ _ _ _
    rw [if_pos hcontinue]
    refine Op.Meets.seq (continueEnrollment_faulty h event _) fun _ s log h => ?_
    exact Op.Meets.pure fun _ => h
  · show Op.Meets _ (if transition.continueRequired = true then _ else _) _ _ _ _
    rw [if_neg hcontinue]
    refine Op.Meets.seq (finish_faulty h event _ transition) fun _ s log h => ?_
    exact Op.Meets.pure h

/-- **The loop**, by induction on the polls. -/
theorem eventLoop_faulty (eventLimit : Nat) : ∀ (polls : Nat) (machine : EnrollmentStateMachine)
    (cancelSent : Bool) (eventCount : Nat) (s : EnrollmentHistory φ) (log : List (Step φ)), Active s log →
    Op.Meets (faulty φ) (op.eventLoop eventLimit polls machine cancelSent eventCount) s log
      (fun _ _ _ => True) LoopErr := by
  intro polls
  induction polls with
  | zero => exact fun _ _ _ _ _ _ => Op.Meets.cut
  | succ polls ih =>
    intro machine cancelSent eventCount s log h
    rw [eventLoop]
    by_cases hcount : eventCount < eventLimit
    · rw [if_pos hcount]
      refine Op.Meets.seq (cancelIfRequested_faulty h) ?_
      rintro ⟨machine, cancelSent⟩ s log h
      refine Op.Meets.seq (guarded_faulty (answered_faulty (fun _ _ => h.call) fun _ _ => h.call.2))
        fun rawEvent s log h => ?_
      cases rawEvent with
      | nothing => exact ih machine cancelSent eventCount s log h
      | _ =>
        refine Op.Meets.seq (handleEvent_faulty h _) ?_
        rintro ⟨machine, result⟩ s log hnext
        cases result with
        | some result => exact Op.Meets.pure trivial
        | none => exact ih machine cancelSent (eventCount + 1) s log (hnext rfl)
    · rw [if_neg hcount]
      exact (outcomeUnknown_faulty h.2 _ _).mono (fun _ _ _ => id) fun _ _ _ hboth =>
        ⟨hboth.1, .inl hboth.2⟩

/-! ## The run -/

/-- Behind the intent of the start, an exception is attempted exactly where nothing is lost. -/
def RunErr (log : List (Step φ)) : Prop := Asked log "ENROLL_START_INTENT" → (Attempted log ↔ Kept log)

theorem failedLocally_faulty {error : OperationError φ} (h : StartErr error s log ∨ LoopErr error s log)
    {ok : EnrollmentOperationResult → EnrollmentHistory φ → List (Step φ) → Prop} :
    Op.Meets (faulty φ) (op.failedLocally error) s log ok fun _ _ => RunErr := by
  have hboth : ∀ log : List (Step φ), Kept log ∧ Attempted log → RunErr log := fun _ h _ => iff_of_true h.2 h.1
  have hpasses : Passes error s → RunErr log := by
    intro hpassed
    rcases h with (hdone | ⟨-, hasked | hlost⟩) | ⟨hkept, hattempted | ⟨hother, hactive⟩⟩
    · exact hboth log hdone
    · exact fun hintended => absurd hintended hasked
    · exact fun _ => iff_of_false hlost.2 hlost.1
    · exact hboth log ⟨hkept, hattempted⟩
    · rcases hpassed with hoperation | hinactive
      · exact absurd hoperation (by simp [hother])
      · exact absurd hactive hinactive
  unfold failedLocally
  by_cases hoperation : error.isOperation = true
  · rw [if_pos hoperation]
    exact Op.Meets.bind (Op.Meets.raise (hpasses (.inl hoperation)))
  · rw [if_neg hoperation]
    refine Op.Meets.bind (Op.Meets.get ?_)
    by_cases hactive : s.phase ∈ activePhases
    · rw [if_pos hactive]
      have hkept : Kept log := by
        rcases h with (hdone | ⟨hpassed, -⟩) | hloop
        · exact hdone.1
        · exact absurd hpassed (not_or.mpr ⟨hoperation, not_not.mpr hactive⟩)
        · exact hloop.1
      have hunknown : Op.Meets (faulty φ) (op.outcomeUnknown "active" "protocol-error" : Method φ Unit) s log
          (fun _ _ _ => False) (fun _ _ log => Kept log ∧ Attempted log) := outcomeUnknown_faulty hkept _ _
      exact Op.Meets.bind (hunknown.mono (fun _ _ _ => False.elim) fun _ _ log hdone => hboth log hdone)
    · rw [if_neg hactive]
      exact Op.Meets.raise (hpasses (.inr hactive))

/-- **The operation** where every append may fail. -/
theorem run_faulty (hphase : s.phase = .baseline) (acmExternalForm : Bytes) (eventLimit : Int) (polls : Nat) :
    Op.Meets (faulty φ) (op.run acmExternalForm eventLimit polls) s [] (fun _ _ _ => True)
      fun _ _ => RunErr := by
  have hnothing : RunErr ([] : List (Step φ)) := fun hintended => absurd hintended (not_asked_nil _)
  unfold run
  by_cases hlimit : 1 ≤ eventLimit ∧ eventLimit ≤ 1024
  · rw [if_neg (not_not.mpr hlimit)]
    refine Op.Meets.bind (Op.Meets.lift (fun machine _ => ?_) fun _ _ => hnothing)
    have hstart : Op.Meets (faulty φ) (op.start acmExternalForm) s [] _
        (fun error s log => StartErr error s log ∨ LoopErr error s log) :=
      (start_faulty hphase acmExternalForm).mono (fun _ _ _ => id) fun _ _ _ h => .inl h
    refine Op.Meets.except ((Op.Meets.seq hstart fun result s log hstarted => ?_).mono
      (fun _ _ _ => id) fun _ _ _ herr => failedLocally_faulty herr)
    cases result with
    | some result => exact Op.Meets.pure trivial
    | none =>
      obtain ⟨hactive, hkept⟩ := hstarted rfl
      exact (eventLoop_faulty _ polls machine false 0 s log ⟨by simp [hactive, activePhases], hkept⟩).mono
        (fun _ _ _ => id) fun _ _ _ => .inr
  · rw [if_pos hlimit]
    exact Op.Meets.bind (Op.Meets.raise hnothing)

/-! ## The journal behind the log -/

variable {lower : PyStr → PyStr} {operationId : PyStr} {records all : List (Value φ)}

/-- What an accepted journal's last milestone leaves. -/
theorem accepted_behind {record : Value φ} {history : EnrollmentHistory φ} {m : Milestone}
    (h : validateHistory lower (records ++ [record]) = .ok history)
    (hm : milestoneOf (record.get "milestone") = some m) : history.phase ∈ phasesBehind m := by
  rcases journalRun_last (validateHistory_ok h) with ⟨-, hstart⟩ | ⟨st, -, hstep⟩
  · obtain ⟨hmilestone, -, -⟩ := start_ok lower record _ hstart
    have hnone : milestoneOf (.str (py "BASELINE_RECONCILED") : Value φ) = none := by
      exact milestoneNamed_baseline
    rw [hmilestone, hnone] at hm
    exact nomatch hm
  · obtain ⟨m', hm', happly⟩ := st.step_ok record _ hstep
    obtain rfl : m' = m := Option.some.inj (hm'.symm.trans hm)
    exact (st.apply_stepped _ m' _ happly).behind

theorem stored_obeyed (h : (Journal.Enrollment.typedJournal lower).Stored operationId records log all) :
    ∀ before, (faulty φ).Obeyed before log := by
  induction h with
  | nil records => exact fun _ => trivial
  | returned accepted rest ih =>
    refine fun before => ⟨fun history hhistory m hm => ?_, ih _⟩
    cases hhistory
    exact accepted_behind accepted ((congrArg milestoneOf (milestone_written _ _ _)).trans hm)
  | written rest ih | refused rest ih => exact fun before => ⟨fun _ hhistory _ _ => (nomatch hhistory), ih _⟩
  | called rest ih => exact fun before => ⟨trivial, ih _⟩

theorem after_faulty (log : List (Step φ)) : ∀ before, (faulty φ).after before log = before ++ log := by
  induction log with
  | nil => exact fun before => (List.append_nil before).symm
  | cons step log ih => exact fun before => (ih (before ++ [step])).trans (by simp)

/-- An intent that is in the journal was asked for. -/
theorem asked_of_intended (h : (Journal.Enrollment.typedJournal lower).Stored operationId records log all)
    (hintended : StartIntended all) : StartIntended records ∨ Asked log "ENROLL_START_INTENT" := by
  have hcons : ∀ (step : Step φ) (log : List (Step φ)), Asked log "ENROLL_START_INTENT" →
      Asked (step :: log) "ENROLL_START_INTENT" := fun step log ⟨evidence, reply, hmem⟩ =>
    ⟨evidence, reply, List.mem_cons_of_mem step hmem⟩
  have hwritten : ∀ (records : List (Value φ)) (milestone : String) (evidence : Value φ) (reply) log,
      StartIntended (records ++ [writtenRecord operationId records ⟨py milestone, evidence⟩]) →
      StartIntended records ∨ Asked (⟨.append milestone evidence, reply⟩ :: log) "ENROLL_START_INTENT" := by
    rintro records milestone evidence reply log ⟨record, hrecord, hintent⟩
    rcases List.mem_append.mp hrecord with hrecord | hrecord
    · exact .inl ⟨record, hrecord, hintent⟩
    · rw [List.mem_singleton.mp hrecord, milestone_written] at hintent
      obtain rfl := py_injective (Value.str.inj hintent)
      exact .inr ⟨evidence, reply, List.mem_cons_self⟩
  induction h with
  | nil records => exact .inl hintended
  | returned accepted rest ih | written rest ih =>
    rcases ih hintended with hbefore | hasked
    · exact hwritten _ _ _ _ _ hbefore
    · exact .inr (hcons _ _ hasked)
  | refused rest ih | called rest ih => exact (ih hintended).imp_right (hcons _ _)

/-- What the last append returned is the history of the journal. -/
theorem stored_returned {milestone : String} {evidence : Value φ} {history : EnrollmentHistory φ}
    (h : (Journal.Enrollment.typedJournal lower).Stored operationId records log all) :
    ∀ before, log = before ++ [(⟨.append milestone evidence, .ok history⟩ : Step φ)] →
      ∃ earlier, all = earlier ++ [writtenRecord operationId earlier ⟨py milestone, evidence⟩] ∧
        validateHistory lower all = .ok history := by
  induction h with
  | nil records => exact fun before hlog => absurd hlog (by simp)
  | returned accepted rest ih =>
    intro before hlog
    cases before with
    | nil =>
      obtain ⟨hstep, rfl⟩ := List.cons_eq_cons.mp hlog
      cases hstep
      cases rest with
      | nil => exact ⟨_, rfl, accepted⟩
    | cons step before => exact ih before (List.cons_eq_cons.mp hlog).2
  | written rest ih | refused rest ih | called rest ih =>
    intro before hlog
    cases before with
    | nil => exact nomatch (List.cons_eq_cons.mp hlog).1
    | cons step before => exact ih before (List.cons_eq_cons.mp hlog).2

/-- An attempt freezes the journal, if it returns. -/
theorem frozen_of_attempted (h : (Journal.Enrollment.typedJournal lower).Stored operationId records log all)
    (hattempted : Attempted log) : Frozen lower log all := by
  obtain ⟨before, evidence, reply, hlog⟩ := hattempted
  refine ⟨before, evidence, reply, hlog, fun history hreply => ?_⟩
  subst hreply
  obtain ⟨earlier, rfl, haccepted⟩ := stored_returned h before hlog
  have hm : milestoneNamed (py "ENROLL_OUTCOME_UNKNOWN") = some .outcomeUnknown := milestoneNamed_of rfl
  have hbehind := accepted_behind haccepted ((congrArg milestoneOf (milestone_written _ _ _)).trans hm)
  exact ⟨haccepted, List.mem_singleton.mp hbehind⟩

/-! ## Losing the answer -/

/-- The intent, a start that the sensor accepts, and an error of the operating system where this should be
    recorded. -/
def silentLog (op : EnrollmentOperation φ) (request : Bytes) (started : EnrollmentHistory φ) :
    List (Step φ) :=
  [⟨.call .dispatchAllowed, .returned true⟩,
   ⟨.append "ENROLL_START_INTENT" (members
      [("apple_uid", .int op.appleUserId), ("protocol_version", .int op.protocolVersion),
       ("connection_generation", op.generation), ("request_length", .int request.length),
       ("request_sha256", .str (py (sha256 request).hex))]), .ok started⟩,
   ⟨.call (.start request), .returned (.int 0)⟩,
   ⟨.append "ENROLL_START_OBSERVED" (members [("status", .int 0)]), .error (.raised .osError)⟩]

theorem silentLog_lost (request : Bytes) (started : EnrollmentHistory φ) :
    ¬ Kept (silentLog op request started) := fun hkept =>
  hkept _ (List.mem_of_getLast? rfl) (.answer (by simp) rfl)

/-- **Every operation** may lose the answer: `run` raises, and the journal stays at the intent. -/
theorem silent_run (op : EnrollmentOperation φ) (h : validateHistory lower records = .ok op.history)
    {machine : EnrollmentStateMachine} (hmachine : op.startMachine = .ok machine)
    {acmExternalForm request : Bytes} (hrequest : op.sensitiveEnrollmentRequest acmExternalForm = .ok request)
    (polls : Nat) : ∃ started all,
    (op.run acmExternalForm 512 polls op.history).Runs (silentLog op request started)
      (.done (.raised (.operation "enrollment operation failed locally"), started)) ∧
    (Journal.Enrollment.typedJournal lower).Stored (py op.operationId) records (silentLog op request started)
      all ∧
    StartIntended all ∧ validateHistory lower all = .ok started ∧ started.phase = .startIntent := by
  have hbound := op.bound h
  have hcurrent : op.Current lower op.history records := ⟨h, op.sameOperation, rfl⟩
  have hnamed : milestones.find? (fun m => m.1 = "ENROLL_START_INTENT") =
    some ("ENROLL_START_INTENT", .startIntent) := rfl
  obtain ⟨started, -, hstarted, hst⟩ := append_accepted hcurrent hnamed
    (State.startIntent_accepts hbound.phase hbound.user (by rw [hbound.version]; exact differ_int.mpr rfl)
      (sensitiveEnrollmentRequest_length hrequest hbound) hbound.generation (isSha256_hash request))
  have hphase : started.phase = .startIntent := congrArg State.phase hst
  have hguard : (dispatchAllowed op.history).Runs [⟨.call .dispatchAllowed, .returned true⟩]
      (.done (.returned true, op.history) : Proc (Query φ Command) _ _) := .ask (.here _)
  have hstart : (op.start acmExternalForm op.history).Runs (silentLog op request started)
      (.done (.raised (.storage (.raised .osError)), started)) := by
    unfold start
    rw [hrequest]
    exact (hguard.bind _).trans (.ask (.ask (.ask (.here _))))
  have hinactive : ¬ started.phase ∈ activePhases := by
    rw [hphase]
    decide
  have hfailed : op.failedLocally (.storage (.raised .osError)) started =
      .done (.raised (.operation "enrollment operation failed locally"), started) := by
    show (if started.phase ∈ activePhases then (op.outcomeUnknown "active" "protocol-error" >>= fun _ =>
      (Op.raise (.operation "enrollment operation failed locally") : Method φ _)) else
      Op.raise (.operation "enrollment operation failed locally")) started = _
    rw [if_neg hinactive]
    rfl
  refine ⟨started, _, ?_, .called (.returned hstarted.journal (.called (.refused (.nil _)))), ?_⟩
  · have hlimit : ¬ ¬ ((1 : Int) ≤ 512 ∧ (512 : Int) ≤ 1024) := by decide
    unfold run
    rw [if_neg hlimit, hmachine]
    rw [← hfailed]
    exact (hstart.bind _).bind _
  · exact ⟨⟨_, List.mem_append_right _ List.mem_cons_self, milestone_written _ _ _⟩, hstarted.journal, hphase⟩

/-- **Frozen, or lost**: where `run` raises behind an intent that is in the journal, the last thing it has
    done is the attempt to record an unknown outcome, unless the intent itself or the answer to the start
    was lost. -/
theorem frozen_iff_kept (op : EnrollmentOperation φ)
    (h : validateHistory lower records = .ok op.history) (acmExternalForm : Bytes) (eventLimit : Int)
    (polls : Nat) {error : OperationError φ}
    (hrun : (op.run acmExternalForm eventLimit polls op.history).Runs log (.done (.raised error, s)))
    (hstored : (Journal.Enrollment.typedJournal lower).Stored (py op.operationId) records log all)
    (hintended : StartIntended all) : Frozen lower log all ↔ Kept log := by
  have hbound := op.bound h
  have hasked : Asked log "ENROLL_START_INTENT" :=
    (asked_of_intended hstored hintended).resolve_left (baseline_only h hbound.phase).2
  have hmeets := Proc.Meets.runs hrun (run_faulty hbound.phase acmExternalForm eventLimit polls)
    (stored_obeyed hstored [])
  have hdone : RunErr log := by
    have hdone : RunErr ((faulty φ).after [] log) := hmeets
    rwa [after_faulty, List.nil_append] at hdone
  refine Iff.trans ⟨fun ⟨before, evidence, reply, hlog, _⟩ => ⟨before, evidence, reply, hlog⟩,
    frozen_of_attempted hstored⟩ (hdone hasked)

end Faults

end EnrollmentOperation

/-! ## A sample -/

open EnrollmentOperation in
/-- A run of the sample that raises behind its intent, with the answer of the sensor lost. -/
theorem unstarted_silent : ∃ request started all,
    (unstartedEnrollment.run (List.replicate 16 0) 512 1 unstartedHistory).Runs
      (silentLog unstartedEnrollment request started)
      (.done (.raised (.operation "enrollment operation failed locally"), started)) ∧
    (Journal.Enrollment.typedJournal id).Stored (py unstartedEnrollment.operationId) unstartedRecords
      (silentLog unstartedEnrollment request started) all ∧
    StartIntended all ∧ validateHistory id all = .ok started ∧ started.phase = .startIntent := by
  have hmachine : unstartedEnrollment.startMachine = .ok _ :=
    (if_neg (not_not.mpr (by decide))).trans (dif_pos (by decide))
  have hrequest : unstartedEnrollment.sensitiveEnrollmentRequest (List.replicate 16 0) = .ok _ :=
    (if_neg (by decide)).trans ((if_neg (by decide)).trans (if_neg (by decide)))
  exact ⟨_, silent_run unstartedEnrollment unstartedHistory_accepted hmachine hrequest 1⟩

open EnrollmentOperation in
/-- **The start was sent and accepted**, `run` raises, and no attempt was made to record that the outcome
    is unknown. -/
theorem answer_lost : ∃ log error s all,
    (unstartedEnrollment.run (List.replicate 16 0) 512 1 unstartedHistory).Runs log
      (.done (.raised error, s)) ∧
    (Journal.Enrollment.typedJournal id).Stored (py unstartedEnrollment.operationId) unstartedRecords log
      all ∧
    StartIntended all ∧ ¬ Asked log "ENROLL_OUTCOME_UNKNOWN" ∧
    ∃ history, validateHistory id all = .ok history ∧ history.phase = .startIntent := by
  obtain ⟨request, started, all, hrun, hstored, hintended, haccepted, hphase⟩ := unstarted_silent
  refine ⟨_, _, _, all, hrun, hstored, hintended, ?_, started, haccepted, hphase⟩
  rintro ⟨evidence, reply, hmem⟩
  simp [silentLog] at hmem

open EnrollmentOperation in
/-- The same run: it is not frozen, because it is not kept. -/
theorem frozen_iff_kept_sample : ∃ log all, (Frozen id log all ↔ Kept log) ∧
    StartIntended (φ := Unit) all ∧ ¬ Kept log := by
  obtain ⟨request, started, all, hrun, hstored, hintended, -⟩ := unstarted_silent
  exact ⟨_, all, frozen_iff_kept unstartedEnrollment unstartedHistory_accepted _ _ _ hrun hstored hintended,
    hintended, silentLog_lost request started⟩

end T2TouchId.Enrollment
