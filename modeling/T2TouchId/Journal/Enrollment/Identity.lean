/-
  When does a reconciled enrollment agree with itself about the identity?

  Problem: four milestones set `terminal_identity_uuid`, and three others close the history; each of
  these compares its own evidence with it or does not.  `_enrollment_entry` of the registry goes by
  `terminal_identity_uuid`, so what it says of a reconciled enrollment should be what the reconciling
  record says.

  1. **Invariant** — `IdentityKnown`: there is a terminal identity exactly when one of the four
     milestones is among the records, and in the phases before a result there is none.
  2. **The crux** — `E3_RECONCILED` is compared with it in both branches and
     `E3_PERSISTENCE_READBACK_RECOVERED` demands it, but `E3_RECOVERY_NO_CHANGE_RECONCILED` states that
     there is no identity whatever came before.
  3. **Result** — `reconciled_agrees_iff`: the history and the registry agree with the reconciling
     record unless it is the last of these behind an identity.
-/
import T2TouchId.Journal.Enrollment.Steps
import T2TouchId.Journal.Registry

set_option linter.unusedSectionVars false

namespace T2TouchId.Journal.Enrollment

open T2TouchId.Python T2TouchId.Python.Json

/-! ## Identities -/

/-- The phases in which no result has been reported, or a failure. -/
def beforeIdentity : EnrollmentPhase → Bool
  | .terminalIdentity | .persisting | .persistenceReady | .reconciled | .postRebootVerified
  | .outcomeUnknown => false
  | _ => true

/-- No milestone goes back to them. -/
theorem beforeIdentity_of_behind (milestone : Milestone) : ∀ phase ∈ phasesBefore milestone,
    ∀ phase' ∈ phasesBehind milestone, beforeIdentity phase' = true → beforeIdentity phase = true := by
  cases milestone <;> (simp only [phasesBefore, phasesBehind]; decide)

/-- The four milestones of an identity lead behind them. -/
theorem afterIdentity_of_names (milestone : Milestone) : namesIdentity milestone = true →
    ∀ phase ∈ phasesBehind milestone, beforeIdentity phase = false := by
  cases milestone <;> (simp only [namesIdentity, phasesBehind]; decide)

section Identity

variable {φ : Type} [JsonFloat φ]

/-- A record that names an identity. -/
def IsIdentityRecord (record : Value φ) : Prop :=
  ∃ milestone, milestoneOf (record.get "milestone") = some milestone ∧ namesIdentity milestone = true

/-- What is known of the identity behind some records. -/
structure IdentityKnown (records : List (Value φ)) (st : State φ) : Prop where
  none_before : beforeIdentity st.phase = true → isNone st.terminalIdentityUuid = true
  some_iff : isNone st.terminalIdentityUuid = false ↔ ∃ record ∈ records, IsIdentityRecord record
  is_uuid : isNone st.terminalIdentityUuid = false → isUuid st.terminalIdentityUuid = true

/-- **One record** keeps what is known. -/
theorem IdentityKnown.step {records : List (Value φ)} {st st' : State φ} {record : Value φ}
    (h : IdentityKnown records st) (hstep : st.step record = .ok st') :
    IdentityKnown (records ++ [record]) st' := by
  obtain ⟨milestone, hmilestone, happly⟩ := st.step_ok record st' hstep
  have hmem : (∃ r ∈ records ++ [record], IsIdentityRecord r) ↔
      (∃ r ∈ records, IsIdentityRecord r) ∨ IsIdentityRecord record := by
    simp [or_and_right, exists_or]
  have hstepped := st.apply_stepped _ milestone st' happly
  by_cases hid : namesIdentity milestone = true
  · have huuid := hstepped.named hid
    refine ⟨fun hbefore => ?_, ?_, fun _ => huuid⟩
    · have hafter := afterIdentity_of_names milestone hid _ hstepped.behind
      exact absurd hbefore (by rw [hafter]; decide)
    · rw [hmem]
      exact ⟨fun _ => .inr ⟨milestone, hmilestone, hid⟩, fun _ => isNone_uuid huuid⟩
  · have hrecord : ¬ IsIdentityRecord record := by
      rintro ⟨other, hof, hother⟩
      obtain rfl : milestone = other := Option.some.inj (hmilestone.symm.trans hof)
      exact hid hother
    have hsame := hstepped.unnamed (eq_false_of_ne_true hid)
    refine ⟨fun hbefore => ?_, ?_, ?_⟩
    · rw [hsame]
      exact h.none_before (beforeIdentity_of_behind milestone _ hstepped.before _ hstepped.behind hbefore)
    · rw [hmem, hsame, h.some_iff]
      exact ⟨.inl, fun hor => hor.resolve_right hrecord⟩
    · rw [hsame]
      exact h.is_uuid

/-- **Every accepted journal** knows its identity. -/
theorem identityKnown {lower : PyStr → PyStr} (records : List (Value φ)) :
    ∀ st, run lower records = .ok st → IdentityKnown records st := by
  refine journalRun_induction (fun first st hstart => ?_) (fun _ _ _ _ _ h hstep => h.step hstep) records
  obtain ⟨hmilestone, -, rfl⟩ := start_ok lower first st hstart
  refine ⟨fun _ => rfl, ⟨nofun, ?_⟩, nofun⟩
  rintro ⟨record, hrecord, milestone, hof, -⟩
  obtain rfl := List.mem_singleton.mp hrecord
  have hbaseline := milestoneNamed_baseline
  rw [hmilestone, milestoneOf, hbaseline] at hof
  exact nomatch hof

/-! ## The reconciling record -/

/-- The reconciling record states that the identity is there. -/
def statesPresent (record : Value φ) : Bool :=
  (((record.get "evidence").get "identity_present")).isTrue

/-- The history has an identity exactly when the record states one, and it is the same. -/
def AgreesWith (st : State φ) (record : Value φ) : Prop :=
  (isNone st.terminalIdentityUuid = false ↔ statesPresent record = true) ∧
    (isNone st.terminalIdentityUuid = false →
      (record.get "evidence").get "identity_uuid" = st.terminalIdentityUuid)

/-- The registry waits for a reboot exactly when the record states an identity, and does not block
    without one. -/
def RegistryAgreesWith (lower : PyStr → PyStr) (records : List (Value φ)) (record : Value φ) : Prop :=
  ∃ entry, enrollmentEntry lower records = .ok entry ∧
    (entry.postRebootPending = true ↔ statesPresent record = true) ∧
    (statesPresent record = false → entry.blocksNewMutation = false)

/-- What the registry says of a reconciled enrollment goes by its identity. -/
theorem enrollmentEntry_reconciled {lower : PyStr → PyStr} {records : List (Value φ)}
    {history : EnrollmentHistory φ} (h : validateHistory lower records = .ok history)
    (hphase : history.phase = .reconciled) :
    ∃ entry, enrollmentEntry lower records = .ok entry ∧
      entry.postRebootPending = !isNone history.terminalIdentityUuid ∧
      entry.blocksNewMutation = !isNone history.terminalIdentityUuid := by
  refine ⟨⟨.enroll, .enrollment history.phase, ¬ isComplete history.toState,
    awaitsReboot history.toState⟩, ?_, ?_, ?_⟩
  · rw [enrollmentEntry, h]
    rfl
  · simp [awaitsReboot, hphase]
  · simp [isComplete, hphase]

theorem not_true_of_isFalse {v : Value φ} (h : isFalse v = true) : v.isTrue = false := by
  cases v with
  | bool b => cases b <;> simp_all [isFalse, Value.isTrue]
  | _ => cases h

/-- The milestones that close an enrollment. -/
theorem reconciles_of_behind {milestone : Milestone} (h : EnrollmentPhase.reconciled ∈ phasesBehind milestone) :
    milestone = .reconciled ∨ milestone = .recoveryNoChangeReconciled ∨
      milestone = .persistenceReadbackRecovered := by
  cases milestone <;> simp [phasesBehind] at h ⊢

/-- **The three reconciliations.**  The record agrees with the identity there is, or it is the one that
    does not look. -/
theorem apply_reconciled {records : List (Value φ)} {st st' : State φ} {record : Value φ}
    {milestone : Milestone} (hknown : IdentityKnown records st)
    (h : st.apply (record.get "evidence") milestone = .ok st') (hphase : st'.phase = .reconciled) :
    (milestone = .recoveryNoChangeReconciled ∧ statesPresent record = false) ∨
    (milestone ≠ .recoveryNoChangeReconciled ∧ AgreesWith st' record) := by
  have hagrees : ∀ present : Bool, State.Agrees st (record.get "evidence") present →
      isNone st.terminalIdentityUuid = !present → AgreesWith st record := by
    intro present hstates hnone
    cases present with
    | true =>
      obtain ⟨s, hs⟩ := str_of_uuid (hknown.is_uuid hnone)
      obtain ⟨htrue, hsame⟩ := hstates
      exact ⟨⟨fun _ => htrue, fun _ => hnone⟩, fun _ => not_differ_str hs (by simp [hsame])⟩
    | false =>
      have hfalse : statesPresent record = false := not_true_of_isFalse hstates.2
      exact ⟨⟨fun hsome => absurd hsome (by simp [hnone]),
          fun htrue => absurd htrue (by simp [hfalse])⟩,
        fun hsome => absurd hsome (by simp [hnone])⟩
  have hbehind := (st.apply_stepped _ milestone st' h).behind
  rw [hphase] at hbehind
  rcases reconciles_of_behind hbehind with rfl | rfl | rfl
  · obtain ⟨hbefore, -, hstates, rfl⟩ := st.reconciled_ok _ st' h
    refine .inr ⟨nofun, hagrees _ hstates ?_⟩
    rcases hbefore with hready | hfailure
    · simp [hready]
    · -- a failure has no identity, and neither does its reconciliation
      have hnone := hknown.none_before (by rw [hfailure]; rfl)
      simp [hnone]
  · obtain ⟨-, -, hstates, rfl⟩ := st.recoveryNoChangeReconciled_ok _ st' h
    exact .inl ⟨rfl, not_true_of_isFalse hstates.2⟩
  · obtain ⟨-, hsome, -, hstates, rfl⟩ := st.persistenceReadbackRecovered_ok _ st' h
    exact .inr ⟨nofun, hagrees true hstates (by simp [hsome])⟩

/-- **A reconciled enrollment agrees with its reconciling record**, and so does what the registry says of
    it, unless that record is `E3_RECOVERY_NO_CHANGE_RECONCILED` and an earlier one names an identity. -/
theorem reconciled_agrees_iff {lower : PyStr → PyStr} {earlier : List (Value φ)} {last : Value φ}
    {history : EnrollmentHistory φ} (h : validateHistory lower (earlier ++ [last]) = .ok history)
    (hphase : history.phase = .reconciled) :
    AgreesWith history.toState last ∧ RegistryAgreesWith lower (earlier ++ [last]) last ↔
      ¬ (milestoneOf (last.get "milestone") = some .recoveryNoChangeReconciled ∧
        ∃ record ∈ earlier, IsIdentityRecord record) := by
  -- the baseline alone is in its own phase
  have hlast : ∃ st, run lower earlier = .ok st ∧ st.step last = .ok history.toState := by
    rcases journalRun_last (validateHistory_ok h) with ⟨-, hstart⟩ | hlast
    · obtain ⟨-, -, hst⟩ := start_ok lower last _ hstart
      have hbaseline := congrArg State.phase hst
      exact nomatch hphase.symm.trans hbaseline
    · exact hlast
  obtain ⟨st, hst, hstep⟩ := hlast
  have hknown := identityKnown earlier st hst
  have hafter := hknown.step hstep
  obtain ⟨milestone, hmilestone, happly⟩ := st.step_ok last _ hstep
  obtain ⟨entry, hentry, hreboot, hblocks⟩ := enrollmentEntry_reconciled h hphase
  have hregistry : AgreesWith history.toState last → RegistryAgreesWith lower (earlier ++ [last]) last := by
    rintro ⟨hiff, -⟩
    refine ⟨entry, hentry, ?_, fun hfalse => ?_⟩
    · rw [hreboot, ← hiff]
      simp
    · rw [hblocks]
      by_contra hne
      have hsome : isNone history.terminalIdentityUuid = false := by simpa using hne
      exact absurd (hiff.mp hsome) (by simp [hfalse])
  rcases apply_reconciled hknown happly hphase with ⟨rfl, hfalse⟩ | ⟨hother, hagrees⟩
  · -- the record states that there is no identity
    have hsame : history.terminalIdentityUuid = st.terminalIdentityUuid :=
      (st.apply_stepped _ _ _ happly).unnamed rfl
    constructor
    · rintro ⟨⟨hiff, -⟩, -⟩ ⟨-, hidentity⟩
      have hsome : isNone history.terminalIdentityUuid = false := by
        rw [hsame]
        exact hknown.some_iff.mpr hidentity
      exact absurd (hiff.mp hsome) (by simp [hfalse])
    · intro hnone
      have hidentity : ¬ isNone history.terminalIdentityUuid = false := by
        rw [hsame, hknown.some_iff]
        exact fun hidentity => hnone ⟨hmilestone, hidentity⟩
      have hagrees : AgreesWith history.toState last :=
        ⟨⟨fun hsome => absurd hsome hidentity, fun htrue => absurd htrue (by simp [hfalse])⟩,
          fun hsome => absurd hsome hidentity⟩
      exact ⟨hagrees, hregistry hagrees⟩
  · refine ⟨fun _ hno => hother ?_, fun _ => ⟨hagrees, hregistry hagrees⟩⟩
    exact Option.some.inj (hmilestone.symm.trans hno.1)

end Identity

/-! ## An identity that is not found again -/

/-- A result with the identity. -/
def identityEntry : Entry Unit :=
  ⟨py "E2_TERMINAL_IDENTITY_OBSERVED", object
    [("connection_generation", sampleUuid "1001"), ("envelope_type", .int serviceEnrollmentResult),
     ("event_sequence", .int 1), ("event_version", .int 1), ("identity_uuid", sampleUuid "eeee"),
     ("user_id", .int 501)]⟩

/-- The name of the user's Catacomb. -/
def sampleUserName : Value Unit := .str (py "user_000001f5.cat")

/-- A persistence that ends with an unknown outcome at some stage. -/
def unknownEntries (stage : String) : List (Entry Unit) :=
  [⟨py "CATACOMB_PERSISTENCE_PLAN", object
      [("batches", .list
        [.list [object [("descriptor_sha256", sampleSha "0001"), ("name", sampleUserName)],
            object [("descriptor_sha256", sampleSha "0002"), ("name", .str (py "master.cat"))]],
          .list [object [("descriptor_sha256", sampleSha "0003"),
            ("name", .str (py "biolockout.cat"))]]]),
       ("connection_generation", sampleUuid "1001")]⟩,
   ⟨py "CATACOMB_PREPARE_INTENT", object
      [("batch_index", .int 0), ("component_index", .int 0),
       ("connection_generation", sampleUuid "1001"), ("descriptor_sha256", sampleSha "0001"),
       ("name", sampleUserName)]⟩,
   ⟨py "CATACOMB_PERSISTENCE_OUTCOME_UNKNOWN", object
      [("batch_index", .int 0), ("component_index", .int 0),
       ("connection_generation", sampleUuid "1001"), ("descriptor_sha256", sampleSha "0001"),
       ("host_commit_possible", .bool true), ("name", sampleUserName),
       ("reason", .str (py "readback-error")), ("sep_mutation_possible", .bool true),
       ("stage", .str (py stage))]⟩]

/-- A reconciliation on a connection, of an identity or of none. -/
def reconciliationEntry (milestone connection : String) (identity : Option (Value Unit)) (used : Int) :
    Entry Unit :=
  ⟨py milestone, object
    [("bindings_preserved", .bool true), ("capacity_maximum", .int 3), ("capacity_used", .int used),
     ("catacomb_reconciled", .bool true), ("connection_generation", sampleUuid connection),
     ("host_sep_identity_equal", .bool true), ("identity_present", .bool identity.isSome),
     ("identity_uuid", identity.getD .none), ("mapping_generation", sampleSha "00aa"),
     ("master_enrollment_count", .int 1), ("snapshot_sha256", sampleSha "00ff")]⟩

/-- An enrollment with an identity whose persistence has an unknown outcome. -/
def unknownIdentityEntries : List (Entry Unit) :=
  baselineEntry "enroll" true :: startEntries ++ [identityEntry] ++ unknownEntries "readback"

/-- Where its two reconciliations leave it. One evaluation runs both, and their common records once. -/
theorem reconciled_runs :
    ((run id (written sampleOperation (unknownIdentityEntries ++
      [reconciliationEntry "E3_PERSISTENCE_READBACK_RECOVERED" "1002" (some (sampleUuid "eeee"))
        2]))).map fun st => (st.phase, isNone st.terminalIdentityUuid,
          differ (sampleUuid "1002") (st.baseline.get "connection_generation"))).toOption =
      some (EnrollmentPhase.reconciled, false, true) ∧
    ((run id (written sampleOperation (unknownIdentityEntries ++
      [reconciliationEntry "E3_RECOVERY_NO_CHANGE_RECONCILED" "1002" none 1]))).map
        fun st => (st.phase, isNone st.terminalIdentityUuid)).toOption =
      some (EnrollmentPhase.reconciled, false) := by
  decide +kernel

/-- It is reconciled with the identity: history, registry, and record agree. -/
theorem reconciled_agrees_sample : ∃ earlier last, ∃ history : EnrollmentHistory Unit,
    validateHistory id (earlier ++ [last]) = .ok history ∧ history.phase = .reconciled ∧
      AgreesWith history.toState last ∧ RegistryAgreesWith id (earlier ++ [last]) last := by
  obtain ⟨st, hrun, hst⟩ := exists_of_map reconciled_runs.1
  obtain ⟨hphase, -⟩ := Prod.mk.inj hst
  obtain ⟨history, hhistory, rfl⟩ := validateHistory_written (by simp) hrun
  rw [written_concat] at hhistory
  obtain ⟨hagrees, hregistry⟩ := (reconciled_agrees_iff hhistory hphase).mpr (by
    rintro ⟨hno, -⟩
    have hmilestone : milestoneNamed (py "E3_PERSISTENCE_READBACK_RECOVERED") =
        some .persistenceReadbackRecovered := milestoneNamed_of rfl
    rw [milestone_written] at hno
    exact nomatch hmilestone.symm.trans hno)
  exact ⟨_, _, history, hhistory, hphase, hagrees, hregistry⟩

/-- **Reconciled without the identity it had**: the registry waits for a reboot that would have to show
    it, and blocks. -/
theorem reconciled_disagrees_sample : ∃ earlier last, ∃ history : EnrollmentHistory Unit,
    validateHistory id (earlier ++ [last]) = .ok history ∧ history.phase = .reconciled ∧
      ¬ AgreesWith history.toState last ∧ statesPresent last = false ∧
      ∃ entry, enrollmentEntry id (earlier ++ [last]) = .ok entry ∧
        entry.postRebootPending = true ∧ entry.blocksNewMutation = true := by
  obtain ⟨st, hrun, hst⟩ := exists_of_map reconciled_runs.2
  obtain ⟨hphase, hsome⟩ := Prod.mk.inj hst
  obtain ⟨history, hhistory, rfl⟩ := validateHistory_written (by simp) hrun
  rw [written_concat] at hhistory
  obtain ⟨entry, hentry, hreboot, hblocks⟩ := enrollmentEntry_reconciled hhistory hphase
  have hfalse : statesPresent (writtenRecord sampleOperation
      (written sampleOperation unknownIdentityEntries)
      (reconciliationEntry "E3_RECOVERY_NO_CHANGE_RECONCILED" "1002" none 1)) = false := by
    rw [statesPresent, evidence_written]
    decide +kernel
  refine ⟨_, _, history, hhistory, hphase, ?_, hfalse, entry, hentry, ?_, ?_⟩
  · rintro ⟨hiff, -⟩
    exact absurd (hiff.mp hsome) (by rw [hfalse]; decide)
  · rw [hreboot, hsome]
    rfl
  · rw [hblocks, hsome]
    rfl

end T2TouchId.Journal.Enrollment
