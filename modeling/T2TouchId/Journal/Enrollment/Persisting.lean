/-
  The enrollment journal as the journal of a persistence.

  Problem: the operation that persists an enrollment looks at the history once, and goes on with what it saw.  What
  it appends has to be taken by a journal that has come to its state in any way, behind recoveries too.

  1. **Invariant** — `Tracker.Bounded`: few components, and a digest for every staged file; `State.Synced`: the
     tracker runs on the connection of the journal.  `run_synced`: every accepted journal has both.
  2. **Appends** — `TypedJournal.faultless_takes`, `faultless_refuses`: a journal is asked by what the record says.
  3. **Result** — `carrier`: behind the terminal record, the journal takes what its tracker takes; `plan_takes`: and
     of the plan, what the tracker makes of it.
-/
import T2TouchId.Journal.Enrollment.Identity
import T2TouchId.Journal.Persistence.Client
import T2TouchId.Journal.Persistence.Integrity

set_option linter.unusedSectionVars false

namespace T2TouchId.Journal

open T2TouchId.Calls T2TouchId.Python T2TouchId.Python.Json

section Persisting

variable {φ : Type} [JsonFloat φ] {H : Type}

/-! ## Trackers -/

namespace Tracker

/-- A tracker of few components, whose files have digests. -/
structure Bounded (t : Tracker φ) : Prop where
  fresh : t.phase = .notStarted → t.staged = []
  few : t.batches.length ≤ 2
  short : ∀ batch ∈ t.batches, batch.length ≤ 2
  digests : ∀ file ∈ t.staged, isSha256 file.2 = true
  progress : t.phase ≠ .notStarted → ∃ log p, Persistence.Progress log t p

theorem bounded_start (baseline : Value φ) (planKind : PlanKind) : (start baseline planKind).Bounded :=
  ⟨fun _ => rfl, Nat.zero_le 2, List.forall_mem_nil _, List.forall_mem_nil _, fun h => absurd rfl h⟩

/-- The batch of that place has as many components as names. -/
theorem length_of_batchNames {batches : List (List Component)} {index : Nat} {names : List PyStr}
    (h : batchNames batches index = names) : (batches.getD index []).length = names.length := by
  rw [← h, batchNames, List.length_map]

/-- The tests of a plan leave two batches of two components at most. -/
theorem checkPlan_ok (t : Tracker φ) (allow : Bool) (batches : List (List Component)) (seen : Seen) :
    Returns (t.checkPlan allow batches seen) fun _ =>
      batches.length ≤ 2 ∧ ∀ batch ∈ batches, batch.length ≤ 2 := by
  have hsingle : ∀ name, batches.length = 1 → batchNames batches 0 = [name] →
      batches.length ≤ 2 ∧ ∀ batch ∈ batches, batch.length ≤ 2 := by
    intro name hlength hnames
    obtain ⟨batch, rfl⟩ := List.length_eq_one_iff.mp hlength
    have hone : batch.length = 1 := length_of_batchNames hnames
    refine ⟨by rw [hlength]; omega, fun other hother => ?_⟩
    rw [List.mem_singleton.mp hother, hone]
    omega
  unfold checkPlan
  dsimp only
  refine .ite (fun hkind => ?_) fun hkind => .ite (fun hallow => ?_) fun hallow => ?_
  · refine .guard fun htest => .const ?_
    simp only [not_or, not_not] at htest
    exact hsingle _ htest.2.1 htest.2.2
  · refine .guard fun htest => .const ?_
    simp only [not_or, not_not] at htest
    exact hsingle _ htest.1 htest.2
  · -- an enrollment: the user with the master, and the bio-lockout
    refine .skip fun _ => .guard fun hprimary => ?_
    intro _ h
    have hsecondary := reject_eq_ok.mp h
    have henrollment : t.planKind = .enrollment := by
      cases hplan : t.planKind with
      | enrollment => rfl
      | identityMetadata => exact absurd hplan hkind
    simp only [henrollment, hallow, not_not, not_or, true_and, not_false_eq_true, Bool.false_eq_true] at hprimary hsecondary
    obtain ⟨hlength, hnames⟩ := hsecondary
    obtain ⟨first, second, rfl⟩ := List.length_eq_two.mp hlength
    have hfirst : first.length = 2 := length_of_batchNames hprimary
    have hsecond : second.length = 1 := length_of_batchNames hnames
    refine ⟨by rw [hlength], fun batch hbatch => ?_⟩
    rcases List.mem_pair.mp hbatch with rfl | rfl
    · rw [hfirst]
    · omega

theorem plan_bounded (t : Tracker φ) (allow : Bool) (value : Value φ) : Returns (t.plan allow value) fun t' =>
    t'.batches.length ≤ 2 ∧ ∀ batch ∈ t'.batches, batch.length ≤ 2 := by
  refine .skip fun _ => .skip fun _ => .skip fun _ => .skip fun _ => ?_
  refine .bind fun found _ => .seq fun hcheck => .pure ?_
  exact t.checkPlan_ok allow found.1 found.2 () hcheck

/-- What a milestone behind the plan keeps: the digests, and but for one of them the connection. -/
structure Keeps (t t' : Tracker φ) : Prop where
  generation : t'.connectionGeneration = t.connectionGeneration
  digests : (∀ file ∈ t.staged, isSha256 file.2 = true) → ∀ file ∈ t'.staged, isSha256 file.2 = true

theorem hostStaged_keeps (t t' : Tracker φ) (value : Value φ) (h : t.hostStaged value = .ok t') : Keeps t t' := by
  have hdigest : Returns (t.hostStaged value) fun _ => isSha256 (value.get "final_file_sha256") = true := by
    refine .skip fun _ => .skip fun _ => .skip fun _ => .seq fun hdigest => .const ?_
    exact requireSha256_eq_ok.mp hdigest
  obtain ⟨-, -, _, _, _, -, -, ht'⟩ := t.hostStaged_ok value t' h
  subst ht'
  refine ⟨rfl, fun hdigests => List.forall_mem_cons.mpr ⟨hdigest _ h, fun file hfile => ?_⟩⟩
  exact hdigests file (List.mem_of_mem_filter hfile)

theorem handlers_keeps (t t' : Tracker φ) (value : Value φ) :
    ∀ handler ∈ handlers, handler.2 t value = .ok t' → Keeps t t' := by
  simp only [handlers, List.forall_mem_cons]
  refine ⟨?_, ?_, ?_, ?_, ?_, ?_, ?_, ?_, ?_, ?_, ?_, ?_, ?_, List.forall_mem_nil _⟩ <;> intro h
  · obtain ⟨-, -, -, -, rfl⟩ := t.persistenceOutcomeUnknown_ok _ t' h
    exact ⟨rfl, id⟩
  · obtain ⟨-, -, rfl⟩ := t.prepareIntent_ok _ t' h
    exact ⟨rfl, id⟩
  · obtain ⟨-, -, _, -, rfl⟩ := t.prepared_ok _ t' h
    exact ⟨rfl, id⟩
  · obtain ⟨-, -, rfl⟩ := t.completeIntent_ok _ t' h
    exact ⟨rfl, id⟩
  · obtain ⟨-, -, -, rfl⟩ := t.secureBlobCaptured_ok _ t' h
    exact ⟨rfl, id⟩
  · exact hostStaged_keeps t t' value h
  · obtain ⟨-, -, -, rfl⟩ := t.confirmIntent_ok _ t' h
    exact ⟨rfl, id⟩
  · obtain ⟨-, -, rfl⟩ := t.confirmed_ok _ t' h
    exact ⟨rfl, id⟩
  · obtain ⟨-, -, -, rfl⟩ := t.hostBatchCommitIntent_ok _ t' h
    exact ⟨rfl, id⟩
  · obtain ⟨-, -, rfl⟩ := t.hostBatchCommitted_ok _ t' h
    exact ⟨rfl, id⟩
  · obtain ⟨-, -, rfl⟩ := t.finalConfirmIntent_ok _ t' h
    exact ⟨rfl, id⟩
  · -- the next batch has no files yet
    obtain ⟨-, -, ht'⟩ := t.finalConfirmed_ok _ t' h
    by_cases hmore : t.batchIndex.getD 0 + 1 < t.batches.length
    · rw [if_pos hmore] at ht'
      subst ht'
      exact ⟨rfl, fun _ => List.forall_mem_nil _⟩
    · rw [if_neg hmore] at ht'
      subst ht'
      exact ⟨rfl, id⟩
  · obtain ⟨-, rfl⟩ := t.persistenceAttested_ok _ t' h
    exact ⟨rfl, id⟩

/-- **One milestone**: the tracker stays bounded, on its connection or on the one that a recovery states. -/
theorem Bounded.consume {t t' : Tracker φ} {name : PyStr} {value : Value φ} {allow : Bool} (h : t.Bounded)
    (hconsume : t.consume name value allow = .ok t') :
    t'.Bounded ∧ t'.connectionGeneration =
      if name = py "CATACOMB_EARLY_CONFIRM_RECOVERED" then value.get "connection_generation"
      else t.connectionGeneration := by
  by_cases hstarted : t.phase = .notStarted
  · rcases consume_ok hconsume with ⟨-, hstep⟩ | ⟨hname, hstep⟩ | ⟨handler, -, -, hphase, -⟩
    · obtain ⟨hunknown, -⟩ := t.earlyConfirmRecovered_ok _ t' hstep
      rw [hstarted] at hunknown
      cases hunknown
    · have hprogress : ∃ p, Persistence.Progress [⟨name, value, allow⟩] t' p :=
        Persistence.Progress.of_plan (h.fresh hstarted) hname hstep
      obtain ⟨hfew, hshort⟩ := t.plan_bounded _ _ t' hstep
      obtain ⟨-, batches, -, -, -, rfl⟩ := t.plan_ok _ _ t' hstep
      refine ⟨⟨fun hphase => absurd hphase (by simp), hfew, hshort, h.digests, fun _ => ⟨_, hprogress⟩⟩, ?_⟩
      rw [if_neg (by rw [hname, py_inj]; decide)]
    · exact absurd hstarted hphase
  · have hmoved := consume_moved hconsume hstarted
    obtain ⟨log, p, hp⟩ := h.progress hstarted
    have hstepped : Persistence.Progress.Stepped log t ⟨name, value, allow⟩ t' := hp.stepped hconsume
    have hnext := hstepped.2.2
    have hnotFresh : t'.phase ≠ .notStarted := by
      intro hphase
      have hafter := hmoved.phase
      rw [hphase] at hafter
      revert hafter
      cases t.phase <;> simp [phasesAfter]
    have hbounded : (∀ file ∈ t'.staged, isSha256 file.2 = true) → t'.Bounded := fun hdigests =>
      ⟨fun hphase => absurd hphase hnotFresh, by rw [hmoved.batches]; exact h.few,
        by rw [hmoved.batches]; exact h.short, hdigests, fun _ => ⟨_, hnext⟩⟩
    rcases consume_ok hconsume with ⟨hname, hstep⟩ | ⟨-, hstep⟩ | ⟨handler, hmem, hname, -, hstep⟩
    · obtain ⟨-, -, -, -, _, _, _, -, -, -, -, rfl⟩ := t.earlyConfirmRecovered_ok _ t' hstep
      exact ⟨hbounded h.digests, (if_pos hname).symm⟩
    · exact absurd (t.plan_ok _ _ t' hstep).1 hstarted
    · have hkeeps := handlers_keeps t t' value handler hmem hstep
      refine ⟨hbounded (hkeeps.digests h.digests), ?_⟩
      rw [hkeeps.generation, if_neg]
      rw [hname, py_inj]
      exact (ne_of_handler hmem).1

theorem useRecoveryGeneration_eq (t : Tracker φ) (generation : Value φ) :
    Returns (t.useRecoveryGeneration generation) fun t' =>
      t.phase = .notStarted ∧ t' = { t with connectionGeneration := generation } := by
  refine .guard fun hphase => .skip fun _ => .skip fun _ => .pure ?_
  exact ⟨not_not.mp hphase, rfl⟩

end Tracker

/-! ## Appends -/

namespace TypedJournal

variable (J : TypedJournal φ H)

/-- What a record says. -/
structure Says (record : Value φ) (operationId : PyStr) (milestone : String) (evidence : Value φ) : Prop where
  operation : record.get "operation_id" = .str operationId
  milestone : record.get "milestone" = .str (py milestone)
  evidence : record.get "evidence" = evidence
  hash : isSha256 (record.get "record_hash") = true

variable {J} {operationId : PyStr} {records : List (Value φ)} {current : H} {milestone : String} {evidence : Value φ}

theorem says_written : Says (writtenRecord operationId records ⟨py milestone, evidence⟩) operationId milestone
    evidence := by
  obtain ⟨hid, hmilestone, hevidence, hhash⟩ := writtenRecord_fields operationId records ⟨py milestone, evidence⟩
  exact ⟨hid, hmilestone, hevidence, hhash⟩

theorem says_candidate : Says (candidate operationId (py milestone) evidence) operationId milestone evidence := by
  obtain ⟨hid, hmilestone, hevidence⟩ := candidate_fields operationId (py milestone) evidence
  exact ⟨hid, hmilestone, hevidence, candidate_hash _ _ _⟩

/-- **What is taken of every record that says it** is appended. -/
theorem faultless_takes (hcurrent : J.validate records = .ok current)
    (hoperation : J.operationId current = .str operationId) {P : H → Prop}
    (htakes : ∀ record, Says record operationId milestone evidence →
      ∃ after, J.validate (records ++ [record]) = .ok after ∧ P after) :
    ∃ after records', J.faultless operationId records milestone evidence = (.ok after, records') ∧
      J.validate records' = .ok after ∧ P after := by
  obtain ⟨after, hafter, hp⟩ := htakes _ says_written
  obtain ⟨tried, htried, -⟩ := htakes _ says_candidate
  refine ⟨after, _, J.faultless_accepted hcurrent ?_ hafter, hafter, hp⟩
  have hsame : ¬ differ (.str operationId) (J.operationId current) = true := by
    rw [hoperation, differ_self_str]
    exact Bool.false_ne_true
  refine (if_neg hsame).trans ?_
  by_cases htries : J.triesCandidate = true
  · rw [if_pos htries, J.accept_ok.mpr htried]
    rfl
  · rw [if_neg htries]

/-- What is refused of every record that says it is not written. -/
theorem faultless_refuses (hcurrent : J.validate records = .ok current) (htries : J.triesCandidate = true)
    (hrefuses : ∀ record, Says record operationId milestone evidence →
      ∀ after, J.validate (records ++ [record]) ≠ .ok after) :
    ∃ failure, J.faultless operationId records milestone evidence = (.error failure, records) := by
  have htests : ∃ failure, J.tests records current operationId (py milestone) evidence = .error failure := by
    unfold tests
    by_cases hsame : differ (.str operationId) (J.operationId current) = true
    · rw [if_pos hsame]
      exact ⟨_, rfl⟩
    · rw [if_neg hsame, if_pos htries]
      cases haccept : J.accept (records ++ [candidate operationId (py milestone) evidence]) with
      | ok after => exact absurd (J.accept_ok.mp haccept) (hrefuses _ says_candidate after)
      | error failure => exact ⟨failure, rfl⟩
  obtain ⟨failure, htests⟩ := htests
  refine ⟨failure, ?_⟩
  rw [faultless, J.accept_ok.mpr hcurrent]
  simp only [htests]

end TypedJournal

/-! ## The enrollment -/

namespace Enrollment

/-- The phases that an unknown outcome of the persistence leaves. -/
def behindUnknown : List EnrollmentPhase := [.outcomeUnknown, .reconciled, .postRebootVerified]

/-- The tracker of this state runs on its connection, and the phases agree. -/
structure State.Synced (st : State φ) : Prop where
  generation : st.persistence.connectionGeneration = st.persistenceConnectionGeneration
  bounded : st.persistence.Bounded
  identity : st.phase = .terminalIdentity → isNone st.terminalIdentityUuid = false
  unknown : st.persistence.phase = .outcomeUnknown → st.phase ∈ behindUnknown

/-- The milestones that assign the tracker. -/
def assignsTracker : Milestone → Bool
  | .catacomb _ | .recoveryIdentityReadbackObserved => true
  | _ => false

namespace State

variable (st : State φ) (evidence : Value φ)

/-- The other milestones leave the tracker and the connection alone. -/
theorem apply_tracker (milestone : Milestone) (h : assignsTracker milestone = false) :
    Returns (st.apply evidence milestone) fun st' => st'.persistence = st.persistence ∧
      st'.persistenceConnectionGeneration = st.persistenceConnectionGeneration := by
  cases milestone with
  | catacomb | recoveryIdentityReadbackObserved => cases h
  | _ =>
    dsimp only [apply]
    repeat first
      | exact .pure ⟨rfl, rfl⟩
      | refine .skip fun _ => ?_
      | refine .ite (fun _ => ?_) (fun _ => ?_)
      | dsimp only

/-- No other milestone comes behind an unknown outcome and leads back. -/
theorem behindUnknown_kept {milestone : Milestone} {phase phase' : EnrollmentPhase}
    (hassigns : assignsTracker milestone = false) (hphase : phase ∈ behindUnknown)
    (hbefore : phase ∈ phasesBefore milestone) (hbehind : phase' ∈ phasesBehind milestone) :
    phase' ∈ behindUnknown := by
  simp only [behindUnknown, List.mem_cons, List.not_mem_nil, or_false] at hphase
  cases milestone with
  | catacomb | recoveryIdentityReadbackObserved => cases hassigns
  | recoveryNoChangeReconciled | persistenceReadbackRecovered | postRebootVerified =>
    rw [List.mem_singleton.mp hbehind]
    decide
  | _ =>
    rcases hphase with rfl | rfl | rfl <;> simp [phasesBefore, State.mutating] at hbefore

/-- A phase that waits for an identity has one. -/
theorem apply_identity {st' : State φ} {milestone : Milestone} (h : Stepped milestone st st')
    (hassigns : assignsTracker milestone = false) (hphase : st'.phase = .terminalIdentity) :
    isNone st'.terminalIdentityUuid = false := by
  have hbehind := h.behind
  rw [hphase] at hbehind
  refine isNone_uuid (h.named ?_)
  cases milestone with
  | terminalIdentityObserved | witnessIdentityReadbackObserved | identityReadbackObserved => rfl
  | catacomb | recoveryIdentityReadbackObserved => cases hassigns
  | _ => simp [phasesBehind] at hbehind

/-- **One milestone** keeps the tracker with the journal. -/
theorem apply_synced (milestone : Milestone) (h : st.Synced) : Returns (st.apply evidence milestone) Synced := by
  intro st' happly
  have hstepped := st.apply_stepped evidence milestone st' happly
  by_cases hassigns : assignsTracker milestone = false
  · obtain ⟨hpersistence, hgeneration⟩ := st.apply_tracker evidence milestone hassigns st' happly
    refine ⟨by rw [hpersistence, hgeneration, h.generation], by rw [hpersistence]; exact h.bounded,
      apply_identity st hstepped hassigns, fun hunknown => ?_⟩
    rw [hpersistence] at hunknown
    exact behindUnknown_kept hassigns (h.unknown hunknown) hstepped.before hstepped.behind
  cases milestone with
  | recoveryIdentityReadbackObserved =>
    obtain ⟨-, huuid, -, persistence, hpersistence, rfl⟩ :=
      st.recoveryIdentityReadbackObserved_ok evidence st' happly
    obtain ⟨hfresh, rfl⟩ := Tracker.useRecoveryGeneration_eq _ _ _ hpersistence
    have hbounded := h.bounded
    refine ⟨rfl, ⟨hbounded.fresh, hbounded.few, hbounded.short, hbounded.digests, fun hphase =>
      absurd hfresh hphase⟩, fun _ => isNone_uuid huuid, fun hunknown => ?_⟩
    exact absurd (hfresh.symm.trans hunknown) (by decide)
  | catacomb name =>
    obtain ⟨-, hphase, persistence, hconsume, rfl⟩ := st.catacomb_ok evidence name st' happly
    obtain ⟨hbounded, hgeneration⟩ := h.bounded.consume hconsume
    have hearly : name = py "CATACOMB_EARLY_CONFIRM_RECOVERED" → st.earlyConfirmRecovery name = true := by
      intro hname
      rcases hphase with hearly | hawaits
      · exact hearly
      · -- its tracker is behind an unknown outcome, and the phase is not
        rw [Tracker.consume, if_pos hname] at hconsume
        have hphase := h.unknown (Tracker.earlyConfirmRecovered_ok _ _ _ hconsume).1
        rcases hawaits with hawaits | hawaits | hawaits <;> rw [hawaits] at hphase <;>
          exact absurd hphase (by decide)
    refine ⟨?_, hbounded, fun hidentity => ?_, fun hunknown => ?_⟩
    · show persistence.connectionGeneration = if st.earlyConfirmRecovery name then _ else _
      rw [hgeneration, h.generation]
      by_cases hname : name = py "CATACOMB_EARLY_CONFIRM_RECOVERED"
      · rw [if_pos hname, if_pos (hearly hname)]
      · rw [if_neg hname, if_neg fun hearly => hname (of_decide_eq_true hearly).1]
    · -- only the recovery of an early confirm leads back to a terminal identity
      have hrecovery : st.earlyConfirmRecovery name = true := by
        by_contra hnot
        have hbehind : phaseBehind (st.earlyConfirmRecovery name) persistence.phase = .terminalIdentity := hidentity
        rw [eq_false_of_ne_true hnot] at hbehind
        cases hpersistence : persistence.phase <;> rw [hpersistence] at hbehind <;> cases hbehind
      exact eq_false_of_ne_true (of_decide_eq_true hrecovery).2.2
    · show phaseBehind (st.earlyConfirmRecovery name) persistence.phase ∈ behindUnknown
      rw [show persistence.phase = .outcomeUnknown from hunknown]
      exact List.mem_cons_self
  | _ => exact absurd rfl hassigns

end State

/-- **Every accepted journal** has its tracker on its connection. -/
theorem run_synced {lower : PyStr → PyStr} (records : List (Value φ)) : ∀ st,
    run lower records = .ok st → st.Synced := by
  refine journalRun_induction (P := fun _ (st : State φ) => st.Synced) (fun first st hstart => ?_)
    (fun _ st record st' _ ih hstep => ?_) records
  · obtain ⟨-, -, rfl⟩ := start_ok lower first st hstart
    refine ⟨rfl, Tracker.bounded_start _ _, fun hphase => ?_, fun hphase => ?_⟩ <;> cases hphase
  · obtain ⟨milestone, -, happly⟩ := st.step_ok record st' hstep
    exact st.apply_synced _ milestone ih st' happly

/-! ## The journal of a persistence -/

/-- A name that begins so has no milestone of its own. -/
theorem milestoneNamed_catacomb {name : PyStr} (h : (py "CATACOMB_").isPrefixOf name = true) :
    milestoneNamed name = some (.catacomb name) := by
  have hother : milestones.find? (fun m => py m.1 = name) = none := by
    refine List.find?_eq_none.mpr fun m hm hname => ?_
    rw [← of_decide_eq_true hname] at h
    revert h
    simp only [milestones, List.mem_cons, List.not_mem_nil, or_false] at hm
    rcases hm with rfl | rfl | rfl | rfl | rfl | rfl | rfl | rfl | rfl | rfl | rfl | rfl | rfl | rfl | rfl | rfl |
      rfl | rfl | rfl <;>
    · rw [not_isPrefixOf_py (by decide)]
      exact Bool.false_ne_true
  rw [milestoneNamed, hother]
  exact if_pos h

/-- The milestones of the persistence. -/
theorem prefixed_handler {milestone : String} {handler : Tracker φ → Value φ → Check φ (Tracker φ)}
    (hmem : (milestone, handler) ∈ Tracker.handlers) : (py "CATACOMB_").isPrefixOf (py milestone) = true := by
  have hname : milestone ∈ Tracker.handlers.map Prod.fst := List.mem_map_of_mem hmem
  simp only [Tracker.handlers, List.map_cons, List.map_nil, List.mem_cons, List.not_mem_nil, or_false] at hname
  rcases hname with rfl | rfl | rfl | rfl | rfl | rfl | rfl | rfl | rfl | rfl | rfl | rfl | rfl <;>
    exact isPrefixOf_py rfl

variable (lower : PyStr → PyStr) (operationId : PyStr)

/-- The records are accepted, they are those of this operation, and its persistence may go on. -/
structure HoldsWith (records : List (Value φ)) (t : Tracker φ) (s : EnrollmentHistory φ) : Prop where
  valid : validateHistory lower records = .ok s
  operation : s.operationId = .str operationId
  tracker : s.persistence = t
  started : t.phase ≠ .notStarted
  awaits : s.AwaitsPersistence
  guard : isNone s.terminalIdentityUuid = false ∨ isNone s.terminalStatus = false

def Holds (records : List (Value φ)) (t : Tracker φ) : Prop := ∃ s, HoldsWith lower operationId records t s

/-- The history behind a milestone of the persistence. -/
def Behind (s : EnrollmentHistory φ) (t : Tracker φ) : Prop :=
  s.persistence = t ∧ s.phase = State.phaseBehind false t.phase

variable {lower operationId} {records : List (Value φ)} {s : EnrollmentHistory φ} {t t' : Tracker φ}
  {milestone : String} {evidence : Value φ}

/-- **A record of the persistence** is taken when the state takes its evidence. -/
theorem validate_iff (h : validateHistory lower records = .ok s) (hoperation : s.operationId = .str operationId)
    (hname : (py "CATACOMB_").isPrefixOf (py milestone) = true) {record : Value φ}
    (htext : TypedJournal.Says record operationId milestone evidence) (st' : State φ) :
    s.toState.catacomb (py milestone) evidence = .ok st' ↔
      ∃ after, validateHistory lower (records ++ [record]) = .ok after ∧ after.toState = st' := by
  have hrun := validateHistory_ok h
  have hm : milestoneOf (record.get "milestone") = some (.catacomb (py milestone)) := by
    rw [htext.milestone]
    exact milestoneNamed_catacomb hname
  constructor
  · intro happly
    refine validateHistory_concat hrun (htext.operation.trans hoperation.symm) hm ?_ htext.hash
    rw [htext.evidence]
    exact happly
  · rintro ⟨after, hafter, rfl⟩
    rcases journalRun_last (validateHistory_ok hafter) with ⟨rfl, -⟩ | ⟨st0, hrun0, hstep⟩
    · exact absurd hrun (journalRun_nil _)
    · obtain rfl : s.toState = st0 := Except.ok.inj (hrun.symm.trans hrun0)
      obtain ⟨found, hfound, happly⟩ := s.toState.step_ok record _ hstep
      obtain rfl := Option.some.inj (hm.symm.trans hfound)
      rw [htext.evidence] at happly
      exact happly

/-- What the tracker takes, the state takes. -/
theorem catacomb_accepts (hawaits : s.AwaitsPersistence)
    (hguard : isNone s.terminalIdentityUuid = false ∨ isNone s.terminalStatus = false)
    (hname : milestone ≠ "CATACOMB_EARLY_CONFIRM_RECOVERED") (hconsume : s.persistence.consume (py milestone) evidence
      s.toState.failureBiolockoutPersistence = .ok t') :
    s.toState.catacomb (py milestone) evidence =
      .ok { s.toState with persistence := t', phase := State.phaseBehind false t'.phase } := by
  have hearly : s.toState.earlyConfirmRecovery (py milestone) = false :=
    decide_eq_false fun hearly => hname (py_inj.mp hearly.1)
  refine (passTest ?_).trans ((passes hconsume).trans ?_)
  · rintro (⟨hnone, hfailure⟩ | ⟨-, hphase⟩)
    · rcases hguard with hguard | hguard
      · rw [hguard] at hnone
        cases hnone
      · exact hfailure (by rw [State.failureBiolockoutPersistence, hnone, hguard]; rfl)
    · rcases hawaits with hawaits | hawaits | hawaits <;> rw [hawaits] at hphase <;>
        exact hphase (by decide)
  · rw [hearly]
    rfl

/-- A phase behind which the persistence goes on. -/
theorem awaits_behind {phase : PersistencePhase} (h : phase ∉ Persistence.settled) :
    State.phaseBehind false phase = .persisting := by
  cases phase with
  | complete | outcomeUnknown => exact absurd (by decide) h
  | _ => rfl

theorem started_moved (h : Tracker.Moved t t') : t'.phase ≠ .notStarted := by
  intro hphase
  have hafter := h.phase
  rw [hphase] at hafter
  revert hafter
  cases t.phase <;> simp [Tracker.phasesAfter]

/-- **The enrollment journal** takes what its tracker takes. -/
theorem carrier : Persistence.Carrier (typedJournal lower) (fun s : EnrollmentHistory φ => s.persistence) operationId
    (Holds lower operationId) Behind where
  reads h := by
    obtain ⟨s, hs⟩ := h
    exact ⟨s, hs.valid, hs.tracker⟩
  takes h hmem hstep := by
    obtain ⟨s, hs⟩ := h
    obtain rfl := hs.tracker
    have hconsume := (Tracker.consume_accepts hmem hs.started _ s.toState.failureBiolockoutPersistence).trans hstep
    have happly := catacomb_accepts hs.awaits hs.guard (Tracker.ne_of_handler hmem).1 hconsume
    have hmoved := Tracker.handlers_moved _ _ _ hs.started _ hmem hstep
    obtain ⟨after, records', hfaultless, hvalid, hafter⟩ := TypedJournal.faultless_takes (J := typedJournal lower)
      hs.valid hs.operation fun record htext => (validate_iff hs.valid hs.operation (prefixed_handler hmem) htext _).mp happly
    refine ⟨after, records', hfaultless, hvalid, ⟨by rw [hafter], by rw [hafter]⟩, fun hphase => ⟨after, hvalid, ?_, ?_,
      started_moved hmoved, ?_, ?_⟩⟩ <;> rw [hafter]
    · exact hs.operation
    · exact .inr (.inr (awaits_behind hphase))
    · exact hs.guard
  refuses h hmem hrefused := by
    obtain ⟨s, hs⟩ := h
    obtain rfl := hs.tracker
    refine TypedJournal.faultless_refuses (J := typedJournal lower) hs.valid rfl fun record htext after hafter => ?_
    have happly := (validate_iff hs.valid hs.operation (prefixed_handler hmem) htext _).mpr ⟨after, hafter, rfl⟩
    obtain ⟨-, -, t', hconsume, -⟩ := s.toState.catacomb_ok _ _ _ happly
    rw [Tracker.consume_accepts hmem hs.started] at hconsume
    exact hrefused t' hconsume

/-- **The plan** is appended as the tracker takes it, or it is refused and nothing is written. -/
theorem plan_takes (h : validateHistory lower records = .ok s) (hoperation : s.operationId = .str operationId)
    (evidence : Value φ) :
    (∃ after records' t', (typedJournal lower).faultless operationId records "CATACOMB_PERSISTENCE_PLAN" evidence =
        (.ok after, records') ∧ s.persistence.plan s.toState.failureBiolockoutPersistence evidence = .ok t' ∧
      Holds lower operationId records' t') ∨
    ∃ failure, (typedJournal lower).faultless operationId records "CATACOMB_PERSISTENCE_PLAN" evidence =
      (.error failure, records) := by
  have hprefix : (py "CATACOMB_").isPrefixOf (py "CATACOMB_PERSISTENCE_PLAN") = true := isPrefixOf_py rfl
  cases happly : s.toState.catacomb (py "CATACOMB_PERSISTENCE_PLAN") evidence with
  | error e =>
    refine .inr (TypedJournal.faultless_refuses (J := typedJournal lower) h rfl fun record htext after hafter => ?_)
    have hok := (validate_iff h hoperation hprefix htext _).mpr ⟨after, hafter, rfl⟩
    rw [happly] at hok
    cases hok
  | ok st' =>
    obtain ⟨hguard, -, t', hconsume, hst'⟩ := s.toState.catacomb_ok _ _ _ happly
    have hnotEarly : py "CATACOMB_PERSISTENCE_PLAN" ≠ py "CATACOMB_EARLY_CONFIRM_RECOVERED" := by simp
    have hearly : s.toState.earlyConfirmRecovery (py "CATACOMB_PERSISTENCE_PLAN") = false :=
      decide_eq_false fun hearly => hnotEarly hearly.1
    rw [hearly] at hst'
    have hplan : s.persistence.plan s.toState.failureBiolockoutPersistence evidence = .ok t' := by
      rw [Tracker.consume, if_neg hnotEarly, if_pos rfl] at hconsume
      exact hconsume
    obtain ⟨after, records', hfaultless, hvalid, hafter⟩ := TypedJournal.faultless_takes (J := typedJournal lower) h
      hoperation fun record htext => (validate_iff h hoperation hprefix htext _).mp happly
    have hready : t'.phase = .componentReady := by
      obtain ⟨-, batches, -, -, -, rfl⟩ := Tracker.plan_ok _ _ _ t' hplan
      rfl
    refine .inl ⟨after, records', t', hfaultless, hplan, after, hvalid, ?_, ?_, by rw [hready]; decide, ?_, ?_⟩ <;>
      rw [hafter, hst']
    · exact hoperation
    · refine .inr (.inr (awaits_behind ?_))
      rw [hready]
      decide
    · exact hguard

end Enrollment

end Persisting

end T2TouchId.Journal
