/-
  Does the enrollment operation write what its journal accepts?

  Problem: the operation and the journal are two machines.  The operation appends a milestone at each of
  its steps, and `append_checked` raises where `validate_history` does not take it.  Whatever the sensor
  sends and whatever fails on the way, no append should be refused, and the journal should end where the
  operation says it does.

  1. **Specification** — the contract of the faultless journal; `Matches`: the phase of each outcome.
  2. **Simulation** — `Current`: the operation knows the history of the records; `Following`: between two
     rounds the event machine and the journal are in the same phase, and no recorded event is later than
     the last one of the machine.
  3. **The crux** — `handleEvent_meets`: what the event machine makes of an event (`accept_ok`) is what the
     journal takes (`continueIntent_accepts`, `terminalIdentityObserved_accepts`, …).
  4. **Result** — `run_refines`, for every run.
-/
import T2TouchId.Enrollment.Operation
import T2TouchId.Journal.Enrollment.Accepts

set_option linter.unusedSectionVars false

namespace T2TouchId.Enrollment

open T2TouchId.Calls T2TouchId.Journal T2TouchId.Journal.Enrollment T2TouchId.Python T2TouchId.Python.Json

section Refinement

variable {φ : Type} [JsonFloat φ]

/-! ## Specification -/

/-- The phase that the journal has for an outcome. -/
inductive EnrollmentOperationResult.Matches : EnrollmentOperationResult → State φ → Prop
  /-- The identity of the transition. -/
  | identityObserved {transition : EnrollmentTransition} {identity : EnrollmentIdentity} {st : State φ} :
      transition.identity = some identity → st.phase = .terminalIdentity →
      st.terminalIdentityUuid = .str (EnrollmentOperation.uuidText identity.identityUuid) →
      Matches ⟨"identity-observed", some transition⟩ st
  | resultWitnessed {transition : EnrollmentTransition} {st : State φ} : st.phase = .terminalWitness →
      Matches ⟨"result-witnessed", some transition⟩ st
  | failed {outcome : String} {transition : Option EnrollmentTransition} {st : State φ} :
      outcome ∈ ["start-rejected", "cancelled", "failed", "timed-out"] → st.phase = .terminalFailure →
      Matches ⟨outcome, transition⟩ st

/-- The intent of the start is in the journal. -/
def StartIntended (records : List (Value φ)) : Prop :=
  ∃ record ∈ records, record.get "milestone" = .str (py "ENROLL_START_INTENT")

namespace EnrollmentOperation

variable (op : EnrollmentOperation φ) (lower : PyStr → PyStr)

/-- The journal of the operation, without faults. -/
def contract : Contract (Query φ Command) (Reply φ (EnrollmentHistory φ) (CommandAnswer φ))
    (List (Value φ)) :=
  (Journal.Enrollment.typedJournal lower).contract (CommandAnswer φ) (py op.operationId)

/-! ## What the constructor has checked -/

/-- What the baseline says of this operation. -/
structure Bound : Prop where
  phase : op.history.phase = .baseline
  generation : op.history.baseline.get "connection_generation" = .str (py op.connectionGeneration)
  version : op.history.baseline.get "protocol_version" = .int op.protocolVersion
  known : op.protocolVersion = 1 ∨ op.protocolVersion = 2
  user : op.history.baseline.get "apple_uid" = .int op.appleUserId

theorem bound {lower : PyStr → PyStr} {records : List (Value φ)}
    (h : validateHistory lower records = .ok op.history) : op.Bound := by
  have hbaseline := run_baseline records _ (validateHistory_ok h)
  obtain ⟨hversion, -⟩ := validateBaseline_bindings hbaseline
  obtain ⟨linuxBootUuid, mappingGeneration, callerLinuxUid, targetLinuxUid, hready⟩ := op.ready
  obtain ⟨hphase, hready⟩ := reject_ok hready
  obtain ⟨-, hready⟩ := reject_ok hready
  obtain ⟨hgeneration, hready⟩ := reject_ok hready
  obtain ⟨-, hready⟩ := reject_ok hready
  obtain ⟨-, hready⟩ := reject_ok hready
  obtain ⟨hprotocol, -⟩ := reject_ok hready
  obtain ⟨hdiffer, hknown⟩ := not_or.mp hprotocol
  refine ⟨not_not.mp hphase, not_differ_str rfl hgeneration, ?_, ?_, ?_⟩
  · revert hversion hdiffer
    cases op.history.baseline.get "protocol_version" <;> simp [isCount, differ, Value.pyEq]
  · simpa [or_iff_not_imp_left] using hknown
  · have hcount := validateBaseline_appleUid hbaseline
    revert hcount
    rw [appleUserId]
    cases op.history.baseline.get "apple_uid" <;> simp [isCount, intOf]

/-! ## Appending -/

/-- The operation knows the history of the records, and it is its own. -/
structure Current (s : EnrollmentHistory φ) (records : List (Value φ)) : Prop where
  journal : validateHistory lower records = .ok s
  operation : s.operationId = .str (py op.operationId)
  baseline : s.baseline = op.history.baseline

variable {op lower} {s : EnrollmentHistory φ} {records : List (Value φ)}

/-- **A milestone that the history takes**, the journal takes, and the operation knows the new history. -/
theorem append_accepted (hcurrent : op.Current lower s records) {milestone : String} {evidence : Value φ}
    {m : Milestone} {st' : State φ}
    (hnamed : milestones.find? (fun m => m.1 = milestone) = some (milestone, m))
    (happly : s.toState.apply evidence m = .ok st') :
    ∃ s', (Journal.Enrollment.typedJournal lower).faultless (py op.operationId) records milestone evidence =
        (.ok s', records ++ [writtenRecord (py op.operationId) records ⟨py milestone, evidence⟩]) ∧
      op.Current lower s' (records ++ [writtenRecord (py op.operationId) records ⟨py milestone, evidence⟩]) ∧
      s'.toState = st' := by
  obtain ⟨hjournal, hoperation, hbaseline⟩ := hcurrent
  have hrun := validateHistory_ok hjournal
  have hstepped := s.apply_stepped evidence m st' happly
  obtain ⟨hid, hmilestone, hevidence, hhash⟩ :=
    TypedJournal.writtenRecord_fields (py op.operationId) records ⟨py milestone, evidence⟩
  obtain ⟨hid', hmilestone', hevidence'⟩ :=
    TypedJournal.candidate_fields (py op.operationId) (py milestone) evidence
  have hm : milestoneOf (.str (py milestone) : Value φ) = some m := milestoneNamed_of hnamed
  obtain ⟨tried, htried, -⟩ := validateHistory_concat hrun (hid'.trans hoperation.symm)
    ((congrArg milestoneOf hmilestone').trans hm) (by rw [hevidence']; exact happly)
    (TypedJournal.candidate_hash _ _ _)
  obtain ⟨after, hafter, hst⟩ := validateHistory_concat hrun (hid.trans hoperation.symm)
    ((congrArg milestoneOf hmilestone).trans hm) (by rw [hevidence]; exact happly) hhash
  have htests : (Journal.Enrollment.typedJournal lower).tests records s (py op.operationId)
      (py milestone) evidence = .ok () := by
    have hsame : ¬ differ (.str (py op.operationId)) s.operationId = true := by
      rw [hoperation, differ_self_str]
      exact Bool.false_ne_true
    have haccept : (Journal.Enrollment.typedJournal lower).accept
        (records ++ [TypedJournal.candidate (py op.operationId) (py milestone) evidence]) = .ok tried :=
      (Journal.Enrollment.typedJournal lower).accept_ok.mpr htried
    refine (if_neg hsame).trans ((if_pos rfl).trans ?_)
    rw [haccept]
    rfl
  refine ⟨after, (Journal.Enrollment.typedJournal lower).faultless_accepted hjournal htests hafter,
    ⟨hafter, ?_, ?_⟩, hst⟩
  · rw [hst, hstepped.operationId, hoperation]
  · rw [hst, hstepped.baseline, hbaseline]

/-- An append that the journal accepts. -/
theorem append_meets (hcurrent : op.Current lower s records) {milestone : String}
    {evidence : Value φ} {m : Milestone} {st' : State φ}
    (hnamed : milestones.find? (fun m => m.1 = milestone) = some (milestone, m))
    (happly : s.toState.apply evidence m = .ok st') {ok : Unit → EnrollmentHistory φ → List (Value φ) → Prop}
    {err : OperationError φ → EnrollmentHistory φ → List (Value φ) → Prop}
    (h : ∀ s' record, op.Current lower s' (records ++ [record]) → s'.toState = st' →
      record.get "milestone" = .str (py milestone) → ok () s' (records ++ [record])) :
    Op.Meets (op.contract lower) (append milestone evidence) s records ok err := by
  obtain ⟨after, hfaultless, hcurrent', hst⟩ := append_accepted hcurrent hnamed happly
  refine Op.Meets.bind (Client.append_meets ⟨after, congrArg Prod.fst hfaultless⟩ fun reply hreply => ?_)
  have hnext : (op.contract lower).next records (.append milestone evidence) reply =
      records ++ [writtenRecord (py op.operationId) records ⟨py milestone, evidence⟩] :=
    congrArg Prod.snd hfaultless
  obtain rfl : reply = .ok after := hreply.trans (congrArg Prod.fst hfaultless)
  rw [hnext]
  exact Op.Meets.set (h after _ hcurrent' hst (milestone_written _ _ _))

theorem appendDuring_meets (hcurrent : op.Current lower s records) {milestone stage : String}
    {evidence : Value φ} {m : Milestone} {st' : State φ}
    (hnamed : milestones.find? (fun m => m.1 = milestone) = some (milestone, m))
    (happly : s.toState.apply evidence m = .ok st') {ok : Unit → EnrollmentHistory φ → List (Value φ) → Prop}
    {err : OperationError φ → EnrollmentHistory φ → List (Value φ) → Prop}
    (h : ∀ s' records', op.Current lower s' records' → s'.toState = st' → ok () s' records') :
    Op.Meets (op.contract lower) (op.appendDuringActiveOperation milestone evidence stage) s records ok err :=
  Op.Meets.except (append_meets hcurrent hnamed happly fun s' _ hcurrent' hst _ => h s' _ hcurrent' hst)

/-- A call: it leaves the journal alone, and may return or raise anything. -/
theorem answered_meets {α : Type} {command : Command} {answer : CommandAnswer φ command → Answer α}
    {ok : α → EnrollmentHistory φ → List (Value φ) → Prop}
    {err : OperationError φ → EnrollmentHistory φ → List (Value φ) → Prop}
    (hok : ∀ a, ok a s records) (herr : err .call s records) :
    Op.Meets (op.contract lower) (Client.call command >>= fun a => answered (answer a) : Method φ α) s records
      ok err := by
  refine Op.Meets.bind (Client.call_meets trivial fun a _ => ?_)
  cases answer a with
  | raised => exact Op.Meets.raise herr
  | returned a => exact Op.Meets.pure (hok a)

/-! ## Unknown outcomes -/

/-- The phases between the start and a terminal event. -/
def livePhases : List EnrollmentPhase := [.startIntent, .active, .continueIntent, .cancelIntent, .cancelRequested]

variable (op lower) in
/-- An error behind an unknown outcome. -/
def Stops (error : OperationError φ) (s : EnrollmentHistory φ) (records : List (Value φ)) : Prop :=
  op.Current lower s records ∧ error.isOperation = true ∧ s.phase = .outcomeUnknown

/-- The stages and reasons that the operation records. -/
def stages : List String := ["start", "active", "continue", "cancel", "terminal"]
def reasons : List String := ["transport-error", "connection-lost", "journal-error", "protocol-error"]

/-- The generation that the operation writes is that of the journal. -/
theorem Current.generation (hbound : op.Bound) (hcurrent : op.Current lower s records) :
    s.baseline.get "connection_generation" = .str (py op.connectionGeneration) := by
  rw [hcurrent.baseline]
  exact hbound.generation

theorem outcomeUnknown_meets {α : Type} (hbound : op.Bound) (hcurrent : op.Current lower s records)
    (hphase : s.phase ∈ livePhases) {stage reason : String} (hstage : stage ∈ stages)
    (hreason : reason ∈ reasons) {ok : α → EnrollmentHistory φ → List (Value φ) → Prop} :
    Op.Meets (op.contract lower) (op.outcomeUnknown stage reason : Method φ α) s records ok
      (op.Stops lower) := by
  have hmutating : s.phase ∈ State.mutating ∧ s.phase ≠ .persisting := by
    simp only [livePhases, List.mem_cons, List.not_mem_nil, or_false] at hphase
    rcases hphase with hphase | hphase | hphase | hphase | hphase <;> simp [hphase, State.mutating]
  have happly := State.outcomeUnknown_accepts hmutating.1 hmutating.2
    (hcurrent.generation hbound) hstage hreason
  refine Op.Meets.bind (Op.Meets.except ?_)
  refine append_meets hcurrent (m := .outcomeUnknown) rfl happly fun s' record hcurrent' hst _ => ?_
  exact Op.Meets.raise ⟨hcurrent', rfl, congrArg State.phase hst⟩

/-- A block that stands under the guard of an unknown outcome. -/
theorem orUnknown_meets {α : Type} (hbound : op.Bound) {block : Method φ α} {stage reason : String}
    (hstage : stage ∈ stages) (hreason : reason ∈ reasons)
    {ok : α → EnrollmentHistory φ → List (Value φ) → Prop}
    (h : Op.Meets (op.contract lower) block s records ok fun _ s records =>
      op.Current lower s records ∧ s.phase ∈ livePhases) :
    Op.Meets (op.contract lower) (op.orUnknown block stage reason) s records ok (op.Stops lower) :=
  Op.Meets.except (h.mono (fun _ _ _ => id) fun _ _ _ hlive =>
    outcomeUnknown_meets hbound hlive.1 hlive.2 hstage hreason)

/-- A call whose answer should be a status. -/
theorem status_meets {command : Command} {answer : CommandAnswer φ command → Answer (Value φ)}
    {operation : String} {ok : Int → EnrollmentHistory φ → List (Value φ) → Prop}
    {err : OperationError φ → EnrollmentHistory φ → List (Value φ) → Prop}
    (hok : ∀ status, isIntIn (-(2 ^ 31)) (2 ^ 32 - 1) (.int status : Value φ) = true → ok status s records)
    (herr : ∀ e, err e s records) :
    Op.Meets (op.contract lower) (do
      let value ← answered (answer (← Client.call command))
      Op.lift (transportStatus value operation) : Method φ Int) s records ok err := by
  refine Op.Meets.bind (Client.call_meets trivial fun a _ => Op.Meets.bind ?_)
  cases answer a with
  | raised => exact Op.Meets.raise (herr _)
  | returned value =>
    refine Op.Meets.pure (Op.Meets.lift (fun status hstatus => hok status ?_) fun e _ => herr e)
    unfold transportStatus at hstatus
    split at hstatus
    · rename_i hrange
      cases value with
      | int n =>
        cases hstatus
        exact hrange
      | _ => exact absurd hrange (by simp [isIntIn])
    · cases hstatus

/-! ## The start -/

/-- A journal at the baseline has only its first record. -/
theorem baseline_only (h : validateHistory lower records = .ok s) (hphase : s.phase = .baseline) :
    s.lastEvent = none ∧ ¬ StartIntended records := by
  have hrun := validateHistory_ok h
  obtain ⟨earlier, last, rfl⟩ : ∃ earlier last, records = earlier ++ [last] := by
    rcases List.eq_nil_or_concat' records with rfl | ⟨earlier, last, rfl⟩
    · exact absurd hrun (journalRun_nil _)
    · exact ⟨earlier, last, rfl⟩
  rcases journalRun_last hrun with ⟨rfl, hstart⟩ | ⟨st0, -, hstep⟩
  · obtain ⟨hmilestone, -, hst⟩ := start_ok lower last _ hstart
    refine ⟨congrArg State.lastEvent hst, ?_⟩
    rintro ⟨record, hrecord, hintent⟩
    obtain rfl := List.mem_singleton.mp hrecord
    rw [hmilestone] at hintent
    exact absurd (py_injective (Value.str.inj hintent)) (by decide)
  · obtain ⟨milestone, -, happly⟩ := st0.step_ok last _ hstep
    have hbehind := (st0.apply_stepped _ milestone _ happly).behind
    rw [hphase] at hbehind
    cases milestone <;> simp [phasesBehind] at hbehind

/-- The request is as long as the journal expects. -/
theorem sensitiveEnrollmentRequest_length {acmExternalForm request : Bytes}
    (h : op.sensitiveEnrollmentRequest acmExternalForm = .ok request) (hbound : op.Bound) :
    (request.length : Int) = State.requestLength (op.history.baseline.get "protocol_version") := by
  unfold sensitiveEnrollmentRequest at h
  split at h
  · exact nomatch h
  · split at h
    · exact nomatch h
    · split at h
      · exact nomatch h
      · rename_i hlength
        cases h
        rw [hbound.version]
        rcases hbound.known with hversion | hversion <;>
          simp [State.requestLength, hversion, Bytes.length_le, Value.pyEq, not_not.mp hlength]

variable (op lower) in
/-- An error of the operation: the outcome is unknown, or the start was never intended. -/
def Fails (error : OperationError φ) (s : EnrollmentHistory φ) (records : List (Value φ)) : Prop :=
  op.Current lower s records ∧
    (error.isOperation = true ∧ s.phase = .outcomeUnknown ∨ ¬ StartIntended records)

theorem Stops.fails {error : OperationError φ} (h : op.Stops lower error s records) :
    op.Fails lower error s records := ⟨h.1, .inl h.2⟩

/-- One more record, of another milestone. -/
theorem not_startIntended_concat {record : Value φ} {milestone : String} (h : ¬ StartIntended records)
    (hmilestone : record.get "milestone" = .str (py milestone)) (hne : milestone ≠ "ENROLL_START_INTENT") :
    ¬ StartIntended (records ++ [record]) := by
  rintro ⟨found, hfound, hintent⟩
  rcases List.mem_append.mp hfound with hfound | hfound
  · exact h ⟨found, hfound, hintent⟩
  · obtain rfl := List.mem_singleton.mp hfound
    rw [hmilestone] at hintent
    exact hne (py_injective (Value.str.inj hintent))

/-- The guard leaves the journal alone. -/
theorem dispatchAllowed_meets {ok : Bool → EnrollmentHistory φ → List (Value φ) → Prop}
    {err : OperationError φ → EnrollmentHistory φ → List (Value φ) → Prop}
    (h : ∀ allowed, ok allowed s records) :
    Op.Meets (op.contract lower) dispatchAllowed s records ok err :=
  Op.Meets.except (answered_meets h (Op.Meets.pure (h false)))

/-- **The start**: it is intended before it is sent, and what came of it is in the journal. -/
theorem start_meets (hbound : op.Bound) (hcurrent : op.Current lower s records)
    (hphase : s.phase = .baseline) (acmExternalForm : Bytes) :
    Op.Meets (op.contract lower) (op.start acmExternalForm) s records
      (fun result s records => op.Current lower s records ∧
        match result with
        | some result => result.Matches s.toState
        | none => s.phase = .active ∧ s.lastEvent = none)
      (op.Fails lower) := by
  obtain ⟨hlast, hunintended⟩ := baseline_only hcurrent.journal hphase
  refine Op.Meets.bind (dispatchAllowed_meets fun allowed => ?_)
  cases allowed with
  | false =>
    refine Op.Meets.bind ?_
    refine append_meets hcurrent (m := .abortedBeforeStart) rfl
      (State.abortedBeforeStart_accepts hphase (hcurrent.generation hbound)) fun s' record hcurrent' _ hrecord => ?_
    refine Op.Meets.bind (Op.Meets.raise ⟨hcurrent', .inr ?_⟩)
    exact not_startIntended_concat hunintended hrecord (by decide)
  | true =>
    refine Op.Meets.bind (Op.Meets.lift (fun request hrequest => ?_) fun e _ => ⟨hcurrent, .inr hunintended⟩)
    have hlength := sensitiveEnrollmentRequest_length hrequest hbound
    rw [← hcurrent.baseline] at hlength
    have hversion : differ (.int op.protocolVersion) (s.baseline.get "protocol_version") = false := by
      rw [hcurrent.baseline, hbound.version]
      exact differ_int.mpr rfl
    have huser : s.baseline.get "apple_uid" = .int op.appleUserId := by
      rw [hcurrent.baseline]
      exact hbound.user
    refine Op.Meets.bind (append_meets hcurrent (m := .startIntent) rfl
      (State.startIntent_accepts hphase huser hversion hlength (hcurrent.generation hbound)
        (isSha256_hash request)) fun s1 _ hcurrent1 hst1 _ => ?_)
    have hphase1 : s1.phase = .startIntent := congrArg State.phase hst1
    have hlast1 : s1.lastEvent = none := (congrArg State.lastEvent hst1).trans hlast
    have hlive : s1.phase ∈ livePhases := by simp [hphase1, livePhases]
    refine Op.Meets.seq (M := fun status s records => (op.Current lower s records ∧
      s.phase = .startIntent ∧ s.lastEvent = none) ∧
        isIntIn (-(2 ^ 31)) (2 ^ 32 - 1) (.int status : Value φ) = true) ?_ ?_
    · refine (orUnknown_meets hbound (by simp [stages]) (by simp [reasons])
        (status_meets (fun status hstatus => ⟨⟨hcurrent1, hphase1, hlast1⟩, hstatus⟩)
          fun _ => ⟨hcurrent1, hlive⟩)).mono (fun _ _ _ => id) fun _ _ _ => Stops.fails
    rintro status s1 records1 ⟨⟨hcurrent1, hphase1, hlast1⟩, hrange⟩
    by_cases hstatus : status = 0
    · subst hstatus
      refine Op.Meets.bind (appendDuring_meets hcurrent1 (m := .startObserved) rfl
        (State.startObserved_accepts hphase1) fun s2 _ hcurrent2 hst2 => Op.Meets.pure ⟨hcurrent2, ?_⟩)
      exact ⟨congrArg State.phase hst2, (congrArg State.lastEvent hst2).trans hlast1⟩
    · rw [if_pos hstatus]
      refine Op.Meets.bind (appendDuring_meets hcurrent1 (m := .startRejected) rfl
        (State.startRejected_accepts hphase1 hstatus hrange) fun s2 _ hcurrent2 hst2 =>
          Op.Meets.pure ⟨hcurrent2, ?_⟩)
      exact .failed (by simp) (congrArg State.phase hst2)

/-! ## One round -/

variable (op lower) in
/-- **Between two rounds** the event machine and the journal stand at the same place. -/
structure Following (machine : EnrollmentStateMachine) (cancelSent : Bool) (s : EnrollmentHistory φ)
    (records : List (Value φ)) : Prop extends op.Current lower s records where
  phase : s.phase = if cancelSent then .cancelRequested else .active
  state : machine.state = if cancelSent then .cancelRequested else .active
  sequence : ∀ last, s.lastEvent = some last →
    ∃ sequence, machine.lastSequence = some sequence ∧ last ≤ sequence.toNat
  user : (machine.expectedUserId.toNat : Int) = op.appleUserId

variable {machine : EnrollmentStateMachine} {cancelSent : Bool}

theorem Following.live (h : op.Following lower machine cancelSent s records) : s.phase ∈ livePhases := by
  rw [h.phase]
  cases cancelSent <;> simp [livePhases]

theorem Following.awaits (h : op.Following lower machine cancelSent s records) :
    s.toState.AwaitsResult := by
  have hphase := h.phase
  cases cancelSent
  · exact .inl hphase
  · exact .inr hphase

/-- **Cancelling** moves both. -/
theorem cancelIfRequested_meets (hbound : op.Bound) (h : op.Following lower machine cancelSent s records) :
    Op.Meets (op.contract lower) (op.cancelIfRequested machine cancelSent) s records
      (fun next => op.Following lower next.1 next.2) (op.Stops lower) := by
  cases cancelSent with
  | true => exact Op.Meets.bind (Op.Meets.pure (Op.Meets.pure h))
  | false =>
    have hphase : s.phase = .active := h.phase
    refine Op.Meets.seq (M := fun _ => op.Following lower machine false) ?_ ?_
    · exact orUnknown_meets hbound (by simp [stages]) (by simp [reasons])
        (answered_meets (fun _ => h) ⟨h.toCurrent, h.live⟩)
    clear h hphase
    intro shouldCancel s records h
    cases shouldCancel with
    | false => exact Op.Meets.pure h
    | true =>
      have hcancel : machine.requestCancel = (.ok (), { machine with state := .cancelRequested }) :=
        if_neg (not_not.mpr h.state)
      refine Op.Meets.bind (appendDuring_meets h.toCurrent (m := .cancelIntent) rfl
        (State.cancelIntent_accepts h.phase (h.generation hbound)) fun s1 records1 hcurrent1 hst1 => ?_)
      rw [hcancel]
      refine Op.Meets.bind (Op.Meets.pure ?_)
      have hphase1 : s1.phase = .cancelIntent := congrArg State.phase hst1
      have hlast1 : s1.lastEvent = s.lastEvent := by rw [hst1]
      have hlive1 : s1.phase ∈ livePhases := by simp [hphase1, livePhases]
      refine Op.Meets.seq (M := fun _ s2 records2 => op.Current lower s2 records2 ∧ s2.toState = s1.toState) ?_ ?_
      · exact orUnknown_meets hbound (by simp [stages]) (by simp [reasons])
          (status_meets (fun _ _ => ⟨hcurrent1, rfl⟩) fun _ => ⟨hcurrent1, hlive1⟩)
      rintro status s2 records2 ⟨hcurrent2, hst2⟩
      have hphase2 : s2.phase = .cancelIntent := (congrArg State.phase hst2).trans hphase1
      by_cases hstatus : status = 0
      · subst hstatus
        refine Op.Meets.bind (appendDuring_meets hcurrent2 (m := .cancelDispatchObserved) rfl
          (State.cancelDispatchObserved_accepts hphase2) fun s3 records3 hcurrent3 hst3 => Op.Meets.pure ?_)
        refine ⟨hcurrent3, congrArg State.phase hst3, rfl, fun last hlast => h.sequence last ?_, h.user⟩
        rw [hst3] at hlast
        rw [← hlast1, ← hst2]
        exact hlast
      · rw [if_pos hstatus]
        exact Op.Meets.bind (outcomeUnknown_meets hbound hcurrent2 (by simp [hphase2, livePhases])
          (by simp [stages]) (by simp [reasons]))

/-- An event that was accepted went through the machine. -/
theorem acceptEvent_ok {rawEvent : RawEvent} {event : ServiceEvent} {transition : EnrollmentTransition}
    {machine' : EnrollmentStateMachine}
    (h : op.acceptEvent machine rawEvent = .ok (event, transition, machine')) :
    machine.accept sha256 event op.connectionGeneration op.operationId = (.ok transition, machine') := by
  cases rawEvent with
  | bytes data =>
    dsimp only [acceptEvent] at h
    cases hparse : parseServiceEvent data with
    | error e =>
      rw [hparse] at h
      exact nomatch h
    | ok parsed =>
      rcases haccept : machine.accept sha256 parsed op.connectionGeneration op.operationId with
        ⟨result, after⟩
      simp only [hparse, Except.mapError, bind, Except.bind, haccept] at h
      cases result with
      | error e => exact nomatch h
      | ok t =>
        cases h
        exact haccept
  | _ => exact nomatch h

/-- The callback leaves the journal alone. -/
theorem feedback_meets (hbound : op.Bound) (hcurrent : op.Current lower s records)
    (hlive : s.phase ∈ livePhases) (transition : EnrollmentTransition) :
    Op.Meets (op.contract lower) (op.feedback transition) s records
      (fun _ s' records' => s' = s ∧ records' = records) (op.Stops lower) := by
  unfold feedback
  by_cases hsilent : transition.action ∈ silentActions
  · rw [if_pos hsilent]
    exact Op.Meets.pure ⟨rfl, rfl⟩
  · rw [if_neg hsilent]
    refine orUnknown_meets hbound (by simp [stages]) (by simp [reasons]) ?_
    refine Op.Meets.bind (Client.call_meets trivial fun answer _ => Op.Meets.bind ?_)
    cases answer with
    | raised => exact Op.Meets.raise ⟨hcurrent, hlive⟩
    | returned isNone =>
      cases isNone with
      | true => exact Op.Meets.pure (Op.Meets.pure ⟨rfl, rfl⟩)
      | false => exact Op.Meets.pure (Op.Meets.raise ⟨hcurrent, hlive⟩)

theorem sequence_bounds (sequence : UInt64) :
    0 ≤ (sequence.toNat : Int) ∧ (sequence.toNat : Int) ≤ 0xFFFFFFFFFFFFFFFF := by
  have hlt := sequence.toNat_lt
  omega

/-- **A continue** is in the journal before it is sent, whatever its status. -/
theorem continueEnrollment_meets (hbound : op.Bound) (hcurrent : op.Current lower s records)
    (hphase : s.phase = .active) {event : ServiceEvent} (data : Bytes)
    (hordinal : event.ordinal.toNat = 70 ∨ 100 ≤ event.ordinal.toNat ∧ event.ordinal.toNat ≤ 355)
    (hincreases : s.eventIncreases event.sequence.toNat) :
    Op.Meets (op.contract lower) (op.continueEnrollment event data) s records
      (fun _ s records => op.Current lower s records ∧ s.phase = .active ∧
        s.lastEvent = some (event.sequence.toNat : Int))
      (op.Stops lower) := by
  have hsequence := sequence_bounds event.sequence
  refine Op.Meets.bind (appendDuring_meets hcurrent (m := .continueIntent) rfl
    (State.continueIntent_accepts hphase (hcurrent.generation hbound) hsequence (by omega) hincreases
      (isSha256_hash data)) fun s1 records1 hcurrent1 hst1 => ?_)
  have hphase1 : s1.phase = .continueIntent := congrArg State.phase hst1
  have hpending1 : s1.pendingEvent = some (event.sequence.toNat : Int) := by rw [hst1]
  refine Op.Meets.seq (M := fun status s2 records2 => (s2 = s1 ∧ records2 = records1) ∧
    isIntIn (-(2 ^ 31)) (2 ^ 32 - 1) (.int status : Value φ) = true) ?_ ?_
  · exact orUnknown_meets hbound (by simp [stages]) (by simp [reasons])
      (status_meets (fun _ hstatus => ⟨⟨rfl, rfl⟩, hstatus⟩)
        fun _ => ⟨hcurrent1, by simp [hphase1, livePhases]⟩)
  rintro status _ _ ⟨⟨rfl, rfl⟩, hstatus⟩
  refine appendDuring_meets hcurrent1 (m := .continueObserved) rfl
    (State.continueObserved_accepts hphase1 hsequence hpending1 hstatus) fun s2 records2 hcurrent2 hst2 => ?_
  exact ⟨hcurrent2, congrArg State.phase hst2, by rw [hst2]⟩

/-- The digits of sixteen bytes are a UUID for the journal. -/
theorem isUuid_uuidText {data : Bytes} (h : data.length = 16) : isUuid (.str (uuidText data) : Value φ) = true := by
  have hdigits : ∀ n < 16, isHexDigit (codePoint (Nat.digitChar n)).val = true := by decide
  refine isUuid_dashed (fun c hc => ?_) ?_
  · obtain ⟨char, hchar, rfl⟩ := List.mem_map.mp hc
    obtain ⟨n, hn, rfl⟩ := Bytes.mem_hex hchar
    exact hdigits n hn
  · rw [py, List.length_map, Bytes.length_hex, h]

/-- What a round leaves: the operation goes on with the machine, or has ended with a result. -/
def Rounds (op : EnrollmentOperation φ) (lower : PyStr → PyStr) (machine : EnrollmentStateMachine)
    (cancelSent : Bool) (result : Option EnrollmentOperationResult) (s : EnrollmentHistory φ)
    (records : List (Value φ)) : Prop :=
  match result with
  | some result => op.Current lower s records ∧ result.Matches s.toState
  | none => op.Following lower machine cancelSent s records

/-- An event that was accepted comes after all that the journal has. -/
theorem Following.increases {event : ServiceEvent} (h : op.Following lower machine cancelSent s records)
    (hlater : ∀ last, machine.lastSequence = some last → last < event.sequence) :
    s.eventIncreases event.sequence.toNat := by
  intro last hlast
  obtain ⟨sequence, hsequence, hle⟩ := h.sequence last hlast
  have hlt := UInt64.lt_iff_toNat_lt.mp (hlater sequence hsequence)
  omega

/-- The three failures differ by their status and their outcome. -/
theorem finish_failure (op : EnrollmentOperation φ) (event : ServiceEvent) (data : Bytes) {transition : EnrollmentTransition}
    (h : transition.action ∈ [EnrollmentAction.cancelled, .failed, .timedOut]) :
    ∃ status outcome, (status = 66 ∨ status = 67 ∨ status = 68) ∧
      outcome ∈ ["start-rejected", "cancelled", "failed", "timed-out"] ∧
      op.finish event data transition = (do
        op.appendDuringActiveOperation "ENROLL_TERMINAL_FAILURE_OBSERVED" (members
          [("connection_generation", op.generation), ("event_sequence", .int event.sequence.toNat),
           ("envelope_type", .int event.envelopeType.toNat), ("status", .int status)]) "terminal"
        return some ⟨outcome, some transition⟩) := by
  simp only [List.mem_cons, List.not_mem_nil, or_false] at h
  rcases h with h | h | h
  · exact ⟨66, "cancelled", by simp, by simp, by rw [finish, h]; rfl⟩
  · exact ⟨67, "failed", by simp, by simp, by rw [finish, h]; rfl⟩
  · exact ⟨68, "timed-out", by simp, by simp, by rw [finish, h]; rfl⟩

/-- **The end of a round** without a continue. -/
theorem finish_meets (hbound : op.Bound) (h : op.Following lower machine cancelSent s records)
    {event : ServiceEvent} {transition : EnrollmentTransition} {machine' : EnrollmentStateMachine}
    (haccept : machine.accept sha256 event op.connectionGeneration op.operationId =
      (.ok transition, machine')) (data : Bytes) (hsilent : transition.continueRequired = false) :
    Op.Meets (op.contract lower) (op.finish event data transition) s records
      (op.Rounds lower machine' cancelSent) (op.Stops lower) := by
  obtain ⟨-, hlater, hlast', huser', hstate', hplaced⟩ := EnrollmentStateMachine.accept_ok haccept
  have hsequence := sequence_bounds event.sequence
  have hincreases := h.increases hlater
  have hgeneration := h.generation hbound
  cases hplaced with
  | goesOn state silent nonterminal =>
    have hfinish : op.finish event data transition = pure none := by
      revert nonterminal
      rw [finish]
      cases transition.action <;> intro nonterminal <;> first | rfl | exact absurd nonterminal (by simp)
    rw [hfinish]
    refine Op.Meets.pure ⟨h.toCurrent, h.phase, (hstate'.trans state).trans h.state, fun last hlast => ?_, ?_⟩
    · obtain ⟨sequence, hknown, hle⟩ := h.sequence last hlast
      have hlt := UInt64.lt_iff_toNat_lt.mp (hlater sequence hknown)
      exact ⟨event.sequence, hlast', by omega⟩
    · rw [huser']
      exact h.user
  | continues active state required ordinal => exact absurd required (by simp [hsilent])
  | failure silent action envelope =>
    obtain ⟨status, outcome, hstatus, houtcome, hfinish⟩ := finish_failure op event data action
    rw [hfinish, envelope]
    refine Op.Meets.bind (appendDuring_meets h.toCurrent (m := .terminalFailureObserved) rfl
      (State.terminalFailureObserved_accepts h.awaits hgeneration hsequence hincreases hstatus)
      fun s1 _ hcurrent1 hst1 => Op.Meets.pure ⟨hcurrent1, ?_⟩)
    exact .failed houtcome (congrArg State.phase hst1)
  | witness silent action envelope framing =>
    have hframing : (event.version.toNat : Int) = 1 ∧ (event.payload.length : Int) = 20 ∨
        (event.version.toNat : Int) = 2 ∧ 40 ≤ (event.payload.length : Int) ∧
          (event.payload.length : Int) ≤ 1024 * 1024 := by
      have hbounded := event.payload_bounded
      unfold maxEventPayload at hbounded
      rcases framing with ⟨hversion, hlength⟩ | ⟨hversion, hlength⟩
      · exact .inl ⟨by rw [hversion]; rfl, by omega⟩
      · exact .inr ⟨by rw [hversion]; rfl, by omega, by omega⟩
    rw [finish, action, envelope]
    refine Op.Meets.bind (appendDuring_meets h.toCurrent (m := .terminalResultWitnessed) rfl
      (State.terminalResultWitnessed_accepts h.awaits hgeneration hsequence hincreases hframing
        (isSha256_hash data))
      fun s1 _ hcurrent1 hst1 => Op.Meets.pure ⟨hcurrent1, ?_⟩)
    exact .resultWitnessed (congrArg State.phase hst1)
  | identity silent action envelope version user =>
    obtain ⟨identity, hidentity, hsame⟩ := user
    have hversion : (event.version.toNat : Int) = 1 ∨ (event.version.toNat : Int) = 2 := by
      rcases version with hversion | hversion
      · exact .inl (by rw [hversion]; rfl)
      · exact .inr (by rw [hversion]; rfl)
    have huid : s.baseline.get "apple_uid" = .int identity.userId.toNat := by
      rw [h.toCurrent.baseline, hbound.user, hsame, h.user]
    rw [finish, action, hidentity, envelope]
    refine Op.Meets.bind (appendDuring_meets h.toCurrent (m := .terminalIdentityObserved) rfl
      (State.terminalIdentityObserved_accepts h.awaits hgeneration hsequence hincreases hversion huid
        (isUuid_uuidText identity.uuid_length))
      fun s1 _ hcurrent1 hst1 => Op.Meets.pure ⟨hcurrent1, ?_⟩)
    exact .identityObserved hidentity (congrArg State.phase hst1) (by rw [hst1])

/-- **The end of a round** with a continue. -/
theorem continued_meets (hbound : op.Bound) (h : op.Following lower machine cancelSent s records)
    {event : ServiceEvent} {transition : EnrollmentTransition} {machine' : EnrollmentStateMachine}
    (haccept : machine.accept sha256 event op.connectionGeneration op.operationId =
      (.ok transition, machine')) (data : Bytes) (hcontinue : transition.continueRequired = true) :
    Op.Meets (op.contract lower) (op.continueEnrollment event data) s records
      (fun _ => op.Following lower machine' cancelSent) (op.Stops lower) := by
  obtain ⟨-, hlater, hlast', huser', hstate', hplaced⟩ := EnrollmentStateMachine.accept_ok haccept
  cases hplaced with
  | continues active state required ordinal =>
    have hactive : cancelSent = false := by
      have hstate := h.state.symm.trans active
      cases cancelSent
      · rfl
      · exact nomatch hstate
    subst hactive
    refine (continueEnrollment_meets hbound h.toCurrent h.phase data ordinal (h.increases hlater)).mono
      (fun _ s1 records1 hcontinued => ?_) fun _ _ _ => id
    obtain ⟨hcurrent1, hphase1, hlast1⟩ := hcontinued
    refine ⟨hcurrent1, hphase1, hstate'.trans state, fun last hlast => ⟨_, hlast', ?_⟩, ?_⟩
    · rw [hlast1] at hlast
      exact Int.le_of_eq (Option.some.inj hlast).symm
    · rw [huser']
      exact h.user
  | goesOn _ silent _ | failure silent _ _ | witness silent _ _ _ | identity silent _ _ _ _ =>
    exact absurd hcontinue (by simp [silent])

/-- **A round**, for an event that came. -/
theorem handleEvent_meets (hbound : op.Bound) (h : op.Following lower machine cancelSent s records)
    (rawEvent : RawEvent) :
    Op.Meets (op.contract lower) (op.handleEvent machine rawEvent) s records
      (fun next => op.Rounds lower next.1 cancelSent next.2) (op.Stops lower) := by
  refine Op.Meets.seq (M := fun next s' records' => (s' = s ∧ records' = records) ∧
    machine.accept sha256 next.1 op.connectionGeneration op.operationId = (.ok next.2.1, next.2.2)) ?_ ?_
  · refine orUnknown_meets hbound (by simp [stages]) (by simp [reasons]) ?_
    exact Op.Meets.lift (fun next hnext => ⟨⟨rfl, rfl⟩, acceptEvent_ok hnext⟩)
      fun _ _ => ⟨h.toCurrent, h.live⟩
  rintro ⟨event, transition, machine'⟩ _ _ ⟨⟨rfl, rfl⟩, haccept⟩
  refine Op.Meets.seq (feedback_meets hbound h.toCurrent h.live transition) ?_
  rintro _ _ _ ⟨rfl, rfl⟩
  have haccept : machine.accept sha256 event op.connectionGeneration op.operationId =
    (.ok transition, machine') := haccept
  by_cases hcontinue : transition.continueRequired = true
  · show Op.Meets _ (if transition.continueRequired = true then _ else _) _ _ _ _
    rw [if_pos hcontinue]
    refine Op.Meets.seq (continued_meets hbound h haccept _ hcontinue) fun _ s records hnext => ?_
    exact Op.Meets.pure hnext
  · show Op.Meets _ (if transition.continueRequired = true then _ else _) _ _ _ _
    rw [if_neg hcontinue]
    refine Op.Meets.seq (finish_meets hbound h haccept _ (eq_false_of_ne_true hcontinue))
      fun result s records hnext => ?_
    exact Op.Meets.pure hnext

/-! ## The loop -/

/-- **The loop**, by induction on the polls: each round leaves the machine and the journal together. -/
theorem eventLoop_meets (hbound : op.Bound) (eventLimit : Nat) : ∀ (polls : Nat)
    (machine : EnrollmentStateMachine) (cancelSent : Bool) (eventCount : Nat) (s : EnrollmentHistory φ)
    (records : List (Value φ)), op.Following lower machine cancelSent s records →
    Op.Meets (op.contract lower) (op.eventLoop eventLimit polls machine cancelSent eventCount) s records
      (fun result s records => op.Current lower s records ∧ result.Matches s.toState) (op.Stops lower) := by
  intro polls
  induction polls with
  | zero => exact fun _ _ _ _ _ _ => Op.Meets.cut
  | succ polls ih =>
    intro machine cancelSent eventCount s records h
    rw [eventLoop]
    by_cases hcount : eventCount < eventLimit
    · rw [if_pos hcount]
      refine Op.Meets.seq (cancelIfRequested_meets hbound h) ?_
      rintro ⟨machine, cancelSent⟩ s records h
      refine Op.Meets.seq (M := fun _ => op.Following lower machine cancelSent)
        (orUnknown_meets hbound (by simp [stages]) (by simp [reasons])
          (answered_meets (fun _ => h) ⟨h.toCurrent, h.live⟩)) ?_
      rintro rawEvent s records h
      cases rawEvent with
      | nothing => exact ih machine cancelSent eventCount s records h
      | _ =>
        refine Op.Meets.seq (handleEvent_meets hbound h _) ?_
        rintro ⟨machine, result⟩ s records hround
        cases result with
        | some result => exact Op.Meets.pure hround
        | none => exact ih machine cancelSent (eventCount + 1) s records hround
    · rw [if_neg hcount]
      exact outcomeUnknown_meets hbound h.toCurrent h.live (by simp [stages]) (by simp [reasons])

/-! ## The run -/

/-- The event machine of an operation starts where the journal does. -/
theorem startMachine_ok (h : op.startMachine = .ok machine) :
    machine.state = .active ∧ (machine.expectedUserId.toNat : Int) = op.appleUserId := by
  unfold startMachine at h
  split at h
  · exact nomatch h
  · rename_i hrange
    split at h
    · cases h
      refine ⟨rfl, ?_⟩
      show ((UInt32.ofNat op.appleUserId.toNat).toNat : Int) = _
      rw [UInt32.toNat_ofNat_of_lt' (by simp only [UInt32.size]; omega)]
      omega
    · exact nomatch h

variable (op lower) in
/-- An error of `run`: behind the intent of the start, the outcome is unknown. -/
def Raises (s : EnrollmentHistory φ) (records : List (Value φ)) : Prop :=
  op.Current lower s records ∧ (StartIntended records → s.phase = .outcomeUnknown)

/-- What the last handler makes of an error. -/
theorem failedLocally_meets (hbound : op.Bound) {error : OperationError φ} (h : op.Fails lower error s records)
    {ok : EnrollmentOperationResult → EnrollmentHistory φ → List (Value φ) → Prop} :
    Op.Meets (op.contract lower) (op.failedLocally error) s records ok fun _ => op.Raises lower := by
  obtain ⟨hcurrent, hfails⟩ := h
  have hraises : op.Raises lower s records := by
    rcases hfails with ⟨-, hunknown⟩ | hunintended
    · exact ⟨hcurrent, fun _ => hunknown⟩
    · exact ⟨hcurrent, fun hintended => absurd hintended hunintended⟩
  unfold failedLocally
  by_cases hoperation : error.isOperation = true
  · rw [if_pos hoperation]
    exact Op.Meets.bind (Op.Meets.raise hraises)
  · rw [if_neg hoperation]
    refine Op.Meets.bind (Op.Meets.get ?_)
    by_cases hactive : s.phase ∈ activePhases
    · rw [if_pos hactive]
      have hlive : s.phase ∈ livePhases := List.mem_cons_of_mem _ hactive
      have hunknown : Op.Meets (op.contract lower) (op.outcomeUnknown "active" "protocol-error" : Method φ Unit)
          s records (fun _ _ _ => False) (op.Stops lower) :=
        outcomeUnknown_meets hbound hcurrent hlive (by simp [stages]) (by simp [reasons])
      refine Op.Meets.bind (hunknown.mono (fun _ _ _ => False.elim) fun _ _ _ hstops => ?_)
      exact ⟨hstops.1, fun _ => hstops.2.2⟩
    · rw [if_neg hactive]
      exact Op.Meets.raise hraises

/-- **The operation** under the faultless journal. -/
theorem run_meets (h : validateHistory lower records = .ok op.history) (acmExternalForm : Bytes)
    (eventLimit : Int) (polls : Nat) :
    Op.Meets (op.contract lower) (op.run acmExternalForm eventLimit polls) op.history records
      (fun result s records => op.Current lower s records ∧ result.Matches s.toState)
      fun _ => op.Raises lower := by
  have hbound := op.bound h
  have hcurrent : op.Current lower op.history records := ⟨h, op.sameOperation, rfl⟩
  have hbaseline := baseline_only h hbound.phase
  have hraises : op.Raises lower op.history records :=
    ⟨hcurrent, fun hintended => absurd hintended hbaseline.2⟩
  unfold run
  by_cases hlimit : 1 ≤ eventLimit ∧ eventLimit ≤ 1024
  · rw [if_neg (not_not.mpr hlimit)]
    refine Op.Meets.bind (Op.Meets.lift (fun machine hmachine => ?_) fun _ _ => hraises)
    obtain ⟨hstate, huser⟩ := startMachine_ok hmachine
    have hstart := start_meets hbound hcurrent hbound.phase acmExternalForm
    refine Op.Meets.except ((Op.Meets.seq hstart fun result s records hstarted => ?_).mono
      (fun _ _ _ => id) fun _ _ _ hfails => failedLocally_meets hbound hfails)
    obtain ⟨hcurrent, hstarted⟩ := hstarted
    cases result with
    | some result => exact Op.Meets.pure ⟨hcurrent, hstarted⟩
    | none =>
      have hfollowing : op.Following lower machine false s records :=
        ⟨hcurrent, hstarted.1, hstate, fun last hlast => absurd hlast (by simp [hstarted.2]), huser⟩
      exact (eventLoop_meets hbound _ polls machine false 0 s records hfollowing).mono
        (fun _ _ _ => id) fun _ _ _ => Stops.fails
  · rw [if_pos hlimit]
    exact Op.Meets.bind (Op.Meets.raise hraises)

variable (op lower) in
/-- **The operation refines its journal**: whatever is answered to the calls, in every run no append is
    refused, a result is the phase of the journal, and an error behind the intent of the start leaves the
    outcome unknown. -/
theorem run_refines (h : validateHistory lower records = .ok op.history) (acmExternalForm : Bytes)
    (eventLimit : Int) (polls : Nat)
    {log : List (Exchange (Query φ Command) (Reply φ (EnrollmentHistory φ) (CommandAnswer φ)))}
    {rest : Proc (Query φ Command) (Reply φ (EnrollmentHistory φ) (CommandAnswer φ))
      (Outcome (OperationError φ) EnrollmentOperationResult × EnrollmentHistory φ)}
    (hrun : (op.run acmExternalForm eventLimit polls op.history).Runs log rest)
    (hobeyed : (op.contract lower).Obeyed records log) :
    (∀ before exchange later, log = before ++ exchange :: later →
      (op.contract lower).allows ((op.contract lower).after records before) exchange.asked) ∧
    (∀ result s, rest = .done (.returned result, s) →
      validateHistory lower ((op.contract lower).after records log) = .ok s ∧ result.Matches s.toState) ∧
    (∀ error s, rest = .done (.raised error, s) →
      StartIntended ((op.contract lower).after records log) →
      validateHistory lower ((op.contract lower).after records log) = .ok s ∧ s.phase = .outcomeUnknown) := by
  have hmeets := run_meets h acmExternalForm eventLimit polls
  refine ⟨Proc.Meets.asks hrun hmeets hobeyed, fun result s hrest => ?_, fun error s hrest hintended => ?_⟩
  · subst hrest
    obtain ⟨hcurrent, hmatches⟩ := Proc.Meets.runs hrun hmeets hobeyed
    exact ⟨hcurrent.journal, hmatches⟩
  · subst hrest
    obtain ⟨hcurrent, hunknown⟩ := Proc.Meets.runs hrun hmeets hobeyed
    exact ⟨hcurrent.journal, hunknown hintended⟩

end EnrollmentOperation

end Refinement

/-! ## A sample -/

/-- The journal of an enrollment that has not begun. -/
def unstartedRecords : List (Value Unit) := written sampleOperation [baselineEntry "enroll" true]

def unstartedHistory : EnrollmentHistory Unit where
  operationId := .str sampleOperation
  baseline := sampleBaseline true
  persistence := .start (sampleBaseline true) .enrollment
  persistenceConnectionGeneration := (sampleBaseline true).get "connection_generation"
  recordCount := 1
  headHash := lastHash unstartedRecords

theorem unstartedHistory_accepted : validateHistory id unstartedRecords = .ok unstartedHistory := by
  let first := writtenRecord sampleOperation [] (baselineEntry "enroll" true)
  have hfirst : start id first = .ok unstartedHistory.toState := by
    have hid := (TypedJournal.writtenRecord_fields sampleOperation [] (baselineEntry "enroll" true)).1
    have hok : (start id first).isOk = true := by decide +kernel
    cases hstart : start id first with
    | error e =>
      rw [hstart] at hok
      exact nomatch hok
    | ok st =>
      obtain ⟨-, -, rfl⟩ := start_ok id first st hstart
      rw [hid, evidence_written]
      rfl
  refine sealHistory_ok.mpr ⟨_, (journalRun_singleton first).trans hfirst, ?_, rfl⟩
  exact lastHash_written sampleOperation (by simp)

/-- An operation on this journal. -/
def unstartedEnrollment : EnrollmentOperation Unit where
  operationId := "00000000-0000-4000-8000-000000000000"
  connectionGeneration := "10010000-0000-4000-8000-000000000000"
  protocolVersion := 2
  history := unstartedHistory
  ready := ⟨"00010000-0000-4000-8000-000000000000", "00aa" ++ String.ofList (List.replicate 60 '0'), 1000, 1000,
    ok_of_isOk (by decide +kernel)⟩
  sameOperation := rfl

/-- What an operation appends when the guard is not there any more. -/
def guardEvidence (op : EnrollmentOperation Unit) : Value Unit := members
  [("connection_generation", op.generation), ("reason", .str (py "safety-guard-unavailable")),
   ("mutation_possible", .bool false)]

/-- It asks the guard, and appends that. -/
def guardLog (op : EnrollmentOperation Unit) (reply : Except (Failure Unit) (EnrollmentHistory Unit)) :
    List (Exchange (Query Unit Command) (Reply Unit (EnrollmentHistory Unit) (CommandAnswer Unit))) :=
  [⟨.call .dispatchAllowed, .returned false⟩,
   ⟨.append "ENROLL_ABORTED_BEFORE_START" (guardEvidence op), reply⟩]

theorem guardLog_runs (op : EnrollmentOperation Unit) {machine : EnrollmentStateMachine}
    (hmachine : op.startMachine = .ok machine)
    (reply : Except (Failure Unit) (EnrollmentHistory Unit)) : ∃ rest,
    (op.run [] 512 1 op.history).Runs (guardLog op reply) rest := by
  have hlimit : ¬ ¬ ((1 : Int) ≤ 512 ∧ (512 : Int) ≤ 1024) := by decide
  have hguard : (EnrollmentOperation.dispatchAllowed op.history).Runs
      [⟨.call .dispatchAllowed, .returned false⟩] (.done (.returned false, op.history)) := .ask (.here _)
  have hstart : ∃ rest, (op.start [] op.history).Runs (guardLog op reply) rest :=
    ⟨_, (hguard.bind _).trans (.ask (.here _))⟩
  obtain ⟨rest, hstart⟩ := hstart
  unfold EnrollmentOperation.run
  rw [if_neg hlimit, hmachine]
  exact ⟨_, (hstart.bind _).bind _⟩

theorem guardLog_obeyed (op : EnrollmentOperation Unit) (lower : PyStr → PyStr) (records : List (Value Unit)) :
    (op.contract lower).Obeyed records (guardLog op ((Journal.Enrollment.typedJournal lower).faultless
      (py op.operationId) records "ENROLL_ABORTED_BEFORE_START" (guardEvidence op)).1) :=
  ⟨trivial, rfl, trivial⟩

/-- The run up to this append is accepted. -/
theorem run_refines_sample : (unstartedEnrollment.contract id).allows unstartedRecords
    (.append "ENROLL_ABORTED_BEFORE_START" (guardEvidence unstartedEnrollment)) := by
  have hmachine : unstartedEnrollment.startMachine = .ok _ :=
    (if_neg (not_not.mpr (by decide))).trans (dif_pos (by decide))
  obtain ⟨rest, hrun⟩ := guardLog_runs unstartedEnrollment hmachine _
  have hrefines := unstartedEnrollment.run_refines id unstartedHistory_accepted [] 512 1 hrun
    (guardLog_obeyed unstartedEnrollment id unstartedRecords)
  exact hrefines.1 [⟨.call .dispatchAllowed, .returned false⟩] _ [] rfl

end T2TouchId.Enrollment
