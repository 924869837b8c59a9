/-
  Does the proof after the reboot come from another connection?

  Problem: an operation is complete when it was found unchanged after a reboot.  The record that says so
  should be from another connection and another boot than the record that reconciled the operation.
  The reconciling record is the last before it, and either the direct one or that of a recovery.

  1. **Specification** — `Crosses`: another connection generation, and another boot than the journal
     records for the reconciliation.
  2. **The crux** — the enrollment and the rename compare with the baseline (`crosses_of_direct`), so a
     recovery's own connection may be used again (`reuse_accepted`); the delete compares with what it
     kept of its reconciliation.
  3. **Result** — `post_reboot_crosses_iff`: a deletion always crosses; an enrollment and a rename do
     exactly where they were reconciled on the connection of the baseline.
-/
import T2TouchId.Journal.Delete.Steps
import T2TouchId.Journal.Enrollment.Accepts
import T2TouchId.Journal.Enrollment.Identity
import T2TouchId.Journal.Rename.Closing

set_option linter.unusedSectionVars false

namespace T2TouchId.Journal

open T2TouchId.Python T2TouchId.Python.Json

section Reboot

variable {φ : Type} [JsonFloat φ]

/-- The connection generation and the boot that a record states. -/
def generationOf (record : Value φ) : Value φ := (record.get "evidence").get "connection_generation"
def bootOf (record : Value φ) : Value φ := (record.get "evidence").get "linux_boot_uuid"

/-- The last record is from another connection than the reconciling one, and from another boot, if the
    journal records one for it. -/
def Crosses (reconciling last : Value φ) (boot : Option (Value φ)) : Prop :=
  differ (generationOf last) (generationOf reconciling) = true ∧
    ∀ uuid, boot = some uuid → differ (bootOf last) uuid = true

/-! ## Compared with the baseline -/

/-- The reconciling record is from a connection of its own: a recovery has written it. -/
def FromRecovery (baseline reconciling : Value φ) : Prop :=
  differ (generationOf reconciling) (baseline.get "connection_generation") = true

/-- On the connection of the baseline, the boot of the reconciliation is that of the baseline; of a
    recovery on another connection, these journals do not record it. -/
def baselineBoot (baseline reconciling : Value φ) : Option (Value φ) :=
  if (generationOf reconciling).pyEq (baseline.get "connection_generation") then
    some (baseline.get "linux_boot_uuid")
  else none

/-- **On the connection of the baseline** a comparison with the baseline is enough. -/
theorem crosses_of_direct {baseline reconciling last : Value φ}
    (huuid : isUuid (baseline.get "connection_generation") = true)
    (hboot : (bootOf last).pyEq (baseline.get "linux_boot_uuid") = false)
    (hgeneration : (generationOf last).pyEq (baseline.get "connection_generation") = false)
    (hdirect : ¬ FromRecovery baseline reconciling) :
    Crosses reconciling last (baselineBoot baseline reconciling) := by
  have hsame : generationOf reconciling = baseline.get "connection_generation" := by
    obtain ⟨s, hs⟩ := str_of_uuid huuid
    exact not_differ_str hs hdirect
  refine ⟨by simp [differ, hsame, hgeneration], fun uuid hrecorded => ?_⟩
  have hpyEq : (generationOf reconciling).pyEq (baseline.get "connection_generation") = true := by
    simpa [FromRecovery, differ] using hdirect
  rw [baselineBoot, if_pos hpyEq] at hrecorded
  rw [← Option.some.inj hrecorded]
  simp [differ, hboot]

/-- The connection of the reconciliation used again. -/
theorem not_crosses_of_reuse {reconciling last : Value φ} {boot : Option (Value φ)}
    (huuid : isUuid (generationOf reconciling) = true)
    (hreuse : generationOf last = generationOf reconciling) : ¬ Crosses reconciling last boot := by
  rintro ⟨hcrosses, -⟩
  rw [hreuse, differ_self_uuid huuid] at hcrosses
  exact absurd hcrosses (by decide)

/-- The UUID of a hexadecimal digit. -/
def digitUuid (digit : CodePoint) : PyStr := dashed (List.replicate 31 0x30 ++ [digit])

theorem isUuid_digitUuid {digit : CodePoint} (h : isHexDigit digit.val = true) :
    isUuid (.str (digitUuid digit) : Value φ) = true := by
  refine Enrollment.isUuid_dashed (fun c hc => ?_) (by simp)
  rcases List.mem_append.mp hc with hzero | hdigit
  · rw [List.eq_of_mem_replicate hzero]
    decide
  · rw [List.mem_singleton.mp hdigit]
    exact h

theorem digitUuid_injective {a b : CodePoint} (h : digitUuid a = digitUuid b) : a = b := by
  have hlast := congrArg List.getLast? h
  simpa [digitUuid, dashed] using hlast

/-- Two values are not three UUIDs. -/
theorem exists_other_uuid (first second : Value φ) :
    ∃ other : Value φ, isUuid other = true ∧ other.pyEq first = false ∧ other.pyEq second = false := by
  by_contra hnone
  have hequal : ∀ digit : CodePoint, isHexDigit digit.val = true →
      first = .str (digitUuid digit) ∨ second = .str (digitUuid digit) := by
    intro digit hdigit
    by_contra hneither
    obtain ⟨hfirst, hsecond⟩ := not_or.mp hneither
    have hother : ∀ v : Value φ, v ≠ .str (digitUuid digit) →
        (Value.str (digitUuid digit)).pyEq v = false := fun v hv =>
      eq_false_of_ne_true fun h => hv (eq_of_not_differ_str rfl (by simp [differ, h]))
    exact hnone ⟨_, isUuid_digitUuid hdigit, hother first hfirst, hother second hsecond⟩
  have hdistinct : ∀ {v : Value φ} {a b : CodePoint}, v = .str (digitUuid a) → v = .str (digitUuid b) →
      a = b := fun ha hb => digitUuid_injective (Value.str.inj (ha.symm.trans hb))
  -- of three digits two belong to the same value
  rcases hequal 0x31 (by decide) with h1 | h1 <;> rcases hequal 0x32 (by decide) with h2 | h2 <;>
    rcases hequal 0x33 (by decide) with h3 | h3
  · exact absurd (hdistinct h1 h2) (by decide)
  · exact absurd (hdistinct h1 h2) (by decide)
  · exact absurd (hdistinct h1 h3) (by decide)
  · exact absurd (hdistinct h2 h3) (by decide)
  · exact absurd (hdistinct h2 h3) (by decide)
  · exact absurd (hdistinct h1 h3) (by decide)
  · exact absurd (hdistinct h1 h2) (by decide)
  · exact absurd (hdistinct h1 h2) (by decide)

/-- There is always another boot. -/
theorem exists_other_boot (boot : Value φ) :
    ∃ other : Value φ, isUuid other = true ∧ other.pyEq boot = false := by
  obtain ⟨other, huuid, hother, -⟩ := exists_other_uuid boot boot
  exact ⟨other, huuid, hother⟩

/-- A record of an operation. -/
def recordOf (operationId : Value φ) (milestone : String) (evidence : Value φ) : Value φ :=
  members
    [("operation_id", operationId), ("milestone", .str (py milestone)), ("evidence", evidence),
     ("record_hash", .str (List.replicate 64 (codePoint '0')))]

theorem recordOf_fields (operationId : Value φ) (milestone : String) (evidence : Value φ) :
    (recordOf operationId milestone evidence).get "operation_id" = operationId ∧
      (recordOf operationId milestone evidence).get "milestone" = .str (py milestone) ∧
      (recordOf operationId milestone evidence).get "evidence" = evidence ∧
      isSha256 ((recordOf operationId milestone evidence).get "record_hash") = true := by
  simp only [recordOf, get_members, List.lookup_cons]
  exact ⟨rfl, rfl, rfl, isSha256_zeros⟩

/-! ## The enrollment -/

namespace Enrollment

/-- The journal was reconciled by its last record. -/
def ReconciledBy (lower : PyStr → PyStr) (earlier : List (Value φ)) (reconciling : Value φ)
    (st : State φ) : Prop :=
  run lower (earlier ++ [reconciling]) = .ok st ∧ st.phase = .reconciled

/-- **A verified enrollment** was reconciled by the record before its last. -/
theorem verified_last {lower : PyStr → PyStr} {records : List (Value φ)} {history : EnrollmentHistory φ}
    (h : validateHistory lower records = .ok history) (hphase : history.phase = .postRebootVerified) :
    ∃ earlier reconciling last st, records = earlier ++ [reconciling, last] ∧
      ReconciledBy lower earlier reconciling st := by
  have hstart : ∀ (first : Value φ) (st : State φ),
      start lower first = .ok st → st.phase = .baseline := by
    intro first st hst
    obtain ⟨-, -, rfl⟩ := start_ok lower first st hst
    rfl
  have hbefore : ∀ (st1 : State φ) (record : Value φ), st1.step record = .ok history.toState →
      st1.phase = .reconciled := by
    intro st1 record hstep
    obtain ⟨milestone, -, happly⟩ := st1.step_ok record _ hstep
    have hbehind := (st1.apply_stepped _ milestone _ happly).behind
    rw [hphase] at hbehind
    cases milestone with
    | postRebootVerified => exact (st1.postRebootVerified_ok _ _ happly).1
    | _ => exact absurd hbehind (by simp [phasesBehind])
  obtain ⟨earlier, reconciling, last, st0, st1, hrecords, hrun, hreconciling, hstep⟩ :=
    journalRun_last_two (validateHistory_ok h)
      (fun first hst => by cases (hstart first _ hst).symm.trans hphase)
      (fun st1 record hstep first hst =>
        by cases (hstart first _ hst).symm.trans (hbefore st1 record hstep))
  refine ⟨earlier, reconciling, last, st1, hrecords, ?_, hbefore st1 last hstep⟩
  have hearlier : earlier ≠ [] := by
    rintro rfl
    exact journalRun_nil st0 hrun
  rw [run, journalRun_concat hearlier]
  exact (passes hrun).trans hreconciling

/-- The proof after the reboot that a reconciled enrollment accepts from a boot and a connection. -/
def postRebootEvidence (st : State φ) (boot generation : Value φ) : Value φ :=
  members
    [("linux_boot_uuid", boot), ("connection_generation", generation), ("bridge_boot_uuid", .none),
     ("protocol_version", st.baseline.get "protocol_version"),
     ("mapping_generation", st.baseline.get "mapping_generation"),
     ("account_uuid", st.baseline.get "account_uuid"), ("bag_uuid", st.baseline.get "bag_uuid"),
     ("identity_uuid", st.terminalIdentityUuid), ("snapshot_sha256", st.reconciledSnapshotSha256),
     ("double_collection_equal", .bool true), ("host_sep_identity_equal", .bool true),
     ("bindings_preserved", .bool true), ("keybag_runtime_revalidated", .bool true)]

/-- **A recovery's connection is used again**: the journal accepts the proof. -/
theorem reuse_accepted {lower : PyStr → PyStr} {earlier : List (Value φ)} {reconciling : Value φ}
    {st : State φ} (hreconciled : ReconciledBy lower earlier reconciling st)
    (hidentity : isUuid st.terminalIdentityUuid = true)
    (hrecovery : FromRecovery st.baseline reconciling) :
    ∃ last after, validateHistory lower (earlier ++ [reconciling, last]) = .ok after ∧
      after.phase = .postRebootVerified ∧ generationOf last = generationOf reconciling := by
  obtain ⟨h, hphase⟩ := hreconciled
  obtain ⟨-, hgeneration, hkept, hsnapshot⟩ := reconciled_last h hphase
  have hbaseline := run_baseline _ _ h
  obtain ⟨hprotocol, hmapping⟩ := validateBaseline_bindings hbaseline
  have hbindings := validateBaseline_uuids hbaseline
  obtain ⟨boot, hboot, hother⟩ := exists_other_boot (st.baseline.get "linux_boot_uuid")
  have hother' : (generationOf reconciling).pyEq (st.baseline.get "connection_generation") = false := by
    simpa [FromRecovery, differ] using hrecovery
  have haccount := hbindings "account_uuid" (by simp)
  have hbag := hbindings "bag_uuid" (by simp)
  have haccepts : st.postRebootVerified (postRebootEvidence st boot (generationOf reconciling)) =
      .ok { st with postRebootLinuxBootUuid := boot, phase := .postRebootVerified } := by
    refine (State.postRebootVerified_accepts hphase (isNone_uuid hidentity) (hasKeys_members rfl)
      ?_ ?_ ?_ ?_ ?_ ?_).trans ?_
    all_goals
      simp only [State.afterReboot, get_members, List.lookup_cons,
        List.forall_mem_cons]
    · exact ⟨hboot, hgeneration, hbindings "account_uuid" (by simp), hbindings "bag_uuid" (by simp),
        hidentity, List.forall_mem_nil _⟩
    · exact fun h => by cases h
    · exact ⟨hmapping, hkept ▸ hsnapshot, List.forall_mem_nil _⟩
    · exact ⟨hother, hother', List.forall_mem_nil _⟩
    · exact ⟨differ_self_count hprotocol, differ_self_sha256 hmapping,
        differ_self_uuid (hbindings "account_uuid" (by simp)),
        differ_self_uuid (hbindings "bag_uuid" (by simp)), differ_self_uuid hidentity,
        differ_self_sha256 (hkept ▸ hsnapshot), List.forall_mem_nil _⟩
    · exact ⟨rfl, rfl, rfl, rfl, List.forall_mem_nil _⟩
    · rfl
  have hrecord := recordOf_fields st.operationId "E4_POST_REBOOT_VERIFIED"
    (postRebootEvidence st boot (generationOf reconciling))
  obtain ⟨hoperation, hmilestone, hevidence, hhash⟩ := hrecord
  have hnamed : milestoneNamed (py "E4_POST_REBOOT_VERIFIED") = some .postRebootVerified :=
    milestoneNamed_of rfl
  obtain ⟨after, hafter, hst⟩ := validateHistory_concat h hoperation
    ((congrArg milestoneOf hmilestone).trans hnamed) (by rw [hevidence]; exact haccepts) hhash
  refine ⟨_, after, by simpa using hafter, congrArg State.phase hst, ?_⟩
  rw [generationOf, hevidence]
  simp [postRebootEvidence, get_members, List.lookup_cons]

/-- **An enrollment** crosses the connection whatever follows, unless a recovery reconciled it with an
    identity. -/
theorem crosses_iff {lower : PyStr → PyStr} {earlier : List (Value φ)} {reconciling : Value φ}
    {st : State φ} (hreconciled : ReconciledBy lower earlier reconciling st) :
    (∀ last after, validateHistory lower (earlier ++ [reconciling, last]) = .ok after →
      after.phase = .postRebootVerified →
      Crosses reconciling last (baselineBoot st.baseline reconciling)) ↔
    (isNone st.terminalIdentityUuid = true ∨ ¬ FromRecovery st.baseline reconciling) := by
  obtain ⟨h, hphase⟩ := hreconciled
  constructor
  · intro hcrosses
    by_contra hneither
    obtain ⟨hidentity, hrecovery⟩ := not_or.mp hneither
    have huuid := (identityKnown _ _ h).is_uuid (eq_false_of_ne_true hidentity)
    obtain ⟨last, after, hafter, hverified, hreuse⟩ :=
      reuse_accepted ⟨h, hphase⟩ huuid (not_not.mp hrecovery)
    exact not_crosses_of_reuse (reconciled_last h hphase).2.1 hreuse
      (hcrosses last after hafter hverified)
  · intro hneither last after hafter hverified
    have hrun := validateHistory_ok hafter
    rw [show earlier ++ [reconciling, last] = (earlier ++ [reconciling]) ++ [last] by simp, run,
      journalRun_concat (by simp)] at hrun
    obtain ⟨st', hst', hstep⟩ := bind_ok hrun
    obtain rfl : st' = st := Except.ok.inj (hst'.symm.trans h)
    obtain ⟨milestone, -, happly⟩ := st'.step_ok last _ hstep
    have hbehind := (st'.apply_stepped _ milestone _ happly).behind
    rw [hverified] at hbehind
    obtain rfl : milestone = .postRebootVerified := by
      cases milestone <;> simp [phasesBehind] at hbehind ⊢
    obtain ⟨-, hidentity, hboot, hgeneration, -, -, -⟩ := st'.postRebootVerified_ok _ _ happly
    have hdirect := hneither.resolve_left (by rw [hidentity]; decide)
    have huuid := validateBaseline_uuids (run_baseline _ _ h) "connection_generation" (by simp)
    exact crosses_of_direct huuid hboot hgeneration hdirect

end Enrollment

/-! ## The rename -/

namespace Rename

/-- The journal was reconciled by its last record. -/
def ReconciledBy (lower : PyStr → PyStr) (earlier : List (Value φ)) (reconciling : Value φ)
    (st : State φ) : Prop :=
  run lower (earlier ++ [reconciling]) = .ok st ∧ st.phase = .reconciled

/-- **A verified rename** was reconciled by the record before its last. -/
theorem verified_last {lower : PyStr → PyStr} {records : List (Value φ)} {history : History φ}
    (h : validateHistory lower records = .ok history) (hphase : history.phase = .postRebootVerified) :
    ∃ earlier reconciling last st, records = earlier ++ [reconciling, last] ∧
      ReconciledBy lower earlier reconciling st := by
  have hstart : ∀ (first : Value φ) (st : State φ),
      start lower first = .ok st → st.phase = .baseline := by
    intro first st hst
    obtain ⟨-, rfl⟩ := start_ok lower first st hst
    rfl
  have hbefore : ∀ (st1 : State φ) (record : Value φ), st1.step record = .ok history.toState →
      st1.phase = .reconciled := by
    intro st1 record hstep
    obtain ⟨milestone, -, happly⟩ := st1.step_ok record _ hstep
    have hbehind := (st1.apply_stepped _ milestone _ happly).behind
    rw [hphase] at hbehind
    cases milestone with
    | postRebootVerified => exact (st1.postRebootVerified_ok _ _ happly).1
    | recoveryReconciled committed => cases committed <;> exact absurd hbehind (by simp [phasesBehind])
    | _ => exact absurd hbehind (by simp [phasesBehind])
  obtain ⟨earlier, reconciling, last, st0, st1, hrecords, hrun, hreconciling, hstep⟩ :=
    journalRun_last_two (validateHistory_ok h)
      (fun first hst => by cases (hstart first _ hst).symm.trans hphase)
      (fun st1 record hstep first hst =>
        by cases (hstart first _ hst).symm.trans (hbefore st1 record hstep))
  refine ⟨earlier, reconciling, last, st1, hrecords, ?_, hbefore st1 last hstep⟩
  have hearlier : earlier ≠ [] := by
    rintro rfl
    exact journalRun_nil st0 hrun
  rw [run, journalRun_concat hearlier]
  exact (passes hrun).trans hreconciling

/-- The proof after the reboot that a reconciled rename accepts from a boot and a connection. -/
def postRebootEvidence (st : State φ) (boot generation : Value φ) : Value φ :=
  members
    [("linux_boot_uuid", boot), ("connection_generation", generation),
     ("identity_uuid", st.targetIdentityUuid), ("new_name_sha256", st.newNameSha256),
     ("snapshot_sha256", st.reconciledSnapshotSha256),
     ("mapping_generation", st.baseline.get "mapping_generation"),
     ("identity_set_unchanged", .bool true), ("label_preserved", .bool true),
     ("local_live_equal", .bool true)]

/-- **A recovery's connection is used again**: the journal accepts the proof. -/
theorem reuse_accepted {lower : PyStr → PyStr} {earlier : List (Value φ)} {reconciling : Value φ}
    {st : State φ} (hreconciled : ReconciledBy lower earlier reconciling st)
    (hrecovery : FromRecovery st.baseline reconciling) :
    ∃ last after, validateHistory lower (earlier ++ [reconciling, last]) = .ok after ∧
      after.phase = .postRebootVerified ∧ generationOf last = generationOf reconciling := by
  obtain ⟨h, hphase⟩ := hreconciled
  obtain ⟨-, hgeneration, htarget, hname, hsnapshot⟩ := reconciled_last h hphase
  have hmapping := (validateBaseline_bindings (run_baseline _ _ h)).2
  obtain ⟨boot, hboot, hother⟩ := exists_other_boot (st.baseline.get "linux_boot_uuid")
  have hother' : (generationOf reconciling).pyEq (st.baseline.get "connection_generation") = false := by
    simpa [FromRecovery, differ] using hrecovery
  have haccepts : st.postRebootVerified (postRebootEvidence st boot (generationOf reconciling)) =
      .ok { st with phase := .postRebootVerified } := by
    refine State.postRebootVerified_accepts hphase (hasKeys_members rfl) ?_ ?_ ?_ ?_ ?_
    all_goals
      simp only [postRebootEvidence, State.afterReboot, get_members, List.lookup_cons,
        List.forall_mem_cons]
    · exact ⟨hboot, hgeneration, htarget, List.forall_mem_nil _⟩
    · exact ⟨hname, hsnapshot, hmapping, List.forall_mem_nil _⟩
    · exact ⟨hother, hother', List.forall_mem_nil _⟩
    · exact ⟨differ_self_uuid htarget, differ_self_sha256 hname, differ_self_sha256 hsnapshot,
        differ_self_sha256 hmapping, List.forall_mem_nil _⟩
    · exact ⟨rfl, rfl, rfl, List.forall_mem_nil _⟩
  have hrecord := recordOf_fields st.operationId "RENAME_POST_REBOOT_VERIFIED"
    (postRebootEvidence st boot (generationOf reconciling))
  obtain ⟨hoperation, hmilestone, hevidence, hhash⟩ := hrecord
  have hnamed : milestoneNamed (py "RENAME_POST_REBOOT_VERIFIED") = some .postRebootVerified :=
    milestoneNamed_of rfl
  obtain ⟨after, hafter, hst⟩ := validateHistory_concat h hoperation
    ((congrArg milestoneOf hmilestone).trans hnamed) (by rw [hevidence]; exact haccepts) hhash
  refine ⟨_, after, by simpa using hafter, congrArg State.phase hst, ?_⟩
  rw [generationOf, hevidence]
  simp [postRebootEvidence, get_members, List.lookup_cons]

/-- **A rename** crosses the connection whatever follows, unless a recovery reconciled it. -/
theorem crosses_iff {lower : PyStr → PyStr} {earlier : List (Value φ)} {reconciling : Value φ}
    {st : State φ} (hreconciled : ReconciledBy lower earlier reconciling st) :
    (∀ last after, validateHistory lower (earlier ++ [reconciling, last]) = .ok after →
      after.phase = .postRebootVerified →
      Crosses reconciling last (baselineBoot st.baseline reconciling)) ↔
    ¬ FromRecovery st.baseline reconciling := by
  obtain ⟨h, hphase⟩ := hreconciled
  constructor
  · intro hcrosses hrecovery
    obtain ⟨last, after, hafter, hverified, hreuse⟩ := reuse_accepted ⟨h, hphase⟩ hrecovery
    exact not_crosses_of_reuse (reconciled_last h hphase).2.connection hreuse
      (hcrosses last after hafter hverified)
  · intro hdirect last after hafter hverified
    have hrun := validateHistory_ok hafter
    rw [show earlier ++ [reconciling, last] = (earlier ++ [reconciling]) ++ [last] by simp, run,
      journalRun_concat (by simp)] at hrun
    obtain ⟨st', hst', hstep⟩ := bind_ok hrun
    obtain rfl : st' = st := Except.ok.inj (hst'.symm.trans h)
    obtain ⟨milestone, -, happly⟩ := st'.step_ok last _ hstep
    have hbehind := (st'.apply_stepped _ milestone _ happly).behind
    rw [hverified] at hbehind
    obtain rfl : milestone = .postRebootVerified := by
      cases milestone with
      | recoveryReconciled committed => cases committed <;> simp [phasesBehind] at hbehind
      | postRebootVerified => rfl
      | _ => simp [phasesBehind] at hbehind
    obtain ⟨-, hboot, hgeneration, -, -⟩ := st'.postRebootVerified_ok _ _ happly
    have huuid := validateBaseline_uuids (run_baseline _ _ h) "connection_generation" (by simp)
    exact crosses_of_direct huuid hboot hgeneration hdirect

end Rename

/-! ## The deletion -/

namespace Delete

/-- The last intent of a recovery among some records. -/
def lastIntent (records : List (Value φ)) : Option (Value φ) :=
  records.reverse.find? fun record => milestoneOf (record.get "milestone") = some .recoveryIntent

/-- The boot that a deletion is reconciled in: that of its last recovery, or of its baseline. -/
def recordedBoot (baseline : Value φ) (records : List (Value φ)) : Value φ :=
  ((lastIntent records).map bootOf).getD (baseline.get "linux_boot_uuid")

/-- What the journal keeps of its recoveries. -/
def BootKept (records : List (Value φ)) (st : State φ) : Prop :=
  match lastIntent records with
  | some intent => st.recoveryLinuxBootUuid = bootOf intent ∧ isUuid (bootOf intent) = true
  | none => isNone st.recoveryAction = true ∧ st.recoveryLinuxBootUuid = .none

theorem lastIntent_concat (records : List (Value φ)) (record : Value φ) :
    lastIntent (records ++ [record]) =
      if milestoneOf (record.get "milestone") = some .recoveryIntent then some record
      else lastIntent records := by
  rw [lastIntent, List.reverse_append, List.reverse_singleton, List.singleton_append, List.find?_cons]
  by_cases hintent : milestoneOf (record.get "milestone") = some .recoveryIntent
  · simp [hintent]
  · simp [hintent, lastIntent]

/-- **Every accepted journal** keeps the boot of its last recovery. -/
theorem run_bootKept {lower : PyStr → PyStr} (records : List (Value φ)) : ∀ st,
    run lower records = .ok st → BootKept records st := by
  refine journalRun_induction (P := fun records (st : State φ) => BootKept records st)
    (fun first st hstart => ?_) (fun records st record st' _ ih hstep => ?_) records
  · obtain ⟨hmilestone, -, rfl⟩ := start_ok lower first st hstart
    have hnot := milestoneNamed_baseline
    have hnone : lastIntent [first] = none := by
      rw [← List.nil_append [first], lastIntent_concat, hmilestone, if_neg]
      · rfl
      · exact fun h => nomatch hnot.symm.trans h
    rw [BootKept, hnone]
    exact ⟨rfl, rfl⟩
  · obtain ⟨milestone, hmilestone, happly⟩ := st.step_ok record st' hstep
    rw [BootKept, lastIntent_concat, hmilestone]
    by_cases hintent : milestone = .recoveryIntent
    · subst hintent
      obtain ⟨-, -, huuid, rfl⟩ := st.recoveryIntent_ok _ st' happly
      rw [if_pos rfl]
      exact ⟨rfl, huuid⟩
    · obtain ⟨haction, hboot⟩ := (st.apply_stepped _ milestone st' happly).recovery hintent
      rw [if_neg (fun h => hintent (Option.some.inj h)), haction, hboot]
      exact ih

/-- A reconciliation keeps its own connection and the boot that the journal records for it. -/
theorem reconciled_keeps {lower : PyStr → PyStr} {earlier : List (Value φ)} {reconciling : Value φ}
    {st0 st : State φ} (hrun : run lower earlier = .ok st0) (hstep : st0.step reconciling = .ok st)
    (hphase : st.phase = .reconciled) :
    st.reconciledConnectionGeneration = generationOf reconciling ∧
      st.reconciledLinuxBootUuid = recordedBoot st.baseline earlier := by
  have hkept := run_bootKept earlier st0 hrun
  rw [BootKept] at hkept
  obtain ⟨milestone, -, happly⟩ := st0.step_ok reconciling st hstep
  have hstepped := st0.apply_stepped _ milestone st happly
  have hbehind := hstepped.behind
  rw [hphase] at hbehind
  rw [hstepped.baseline, recordedBoot]
  cases milestone with
  | reconciled =>
    obtain ⟨-, -, rfl⟩ := st0.reconciled_ok _ st happly
    refine ⟨rfl, ?_⟩
    cases hlast : lastIntent earlier with
    | some intent =>
      rw [hlast] at hkept
      obtain ⟨hboot, huuid⟩ := hkept
      show (if isNone st0.recoveryLinuxBootUuid = true then _ else _) = _
      rw [hboot, if_neg (by rw [isNone_uuid huuid]; decide)]
      rfl
    | none =>
      rw [hlast] at hkept
      show (if isNone st0.recoveryLinuxBootUuid = true then _ else _) = _
      rw [hkept.2]
      rfl
  | recoveryReconciled committed =>
    cases committed with
    | false => exact absurd hbehind (by simp [phasesBehind])
    | true =>
      obtain ⟨-, haction, -, rfl⟩ := st0.recoveryReconciled_ok _ true st happly
      refine ⟨rfl, ?_⟩
      cases hlast : lastIntent earlier with
      | some intent =>
        rw [hlast] at hkept
        exact hkept.1
      | none =>
        rw [hlast] at hkept
        exact absurd hkept.1 (by rw [haction]; decide)
  | _ => exact absurd hbehind (by simp [phasesBehind])

/-- **A deletion** always crosses the connection and the boot of its reconciliation. -/
theorem crosses {lower : PyStr → PyStr} {records : List (Value φ)} {history : History φ}
    (h : validateHistory lower records = .ok history) (hphase : history.phase = .postRebootVerified) :
    ∃ earlier reconciling last, records = earlier ++ [reconciling, last] ∧
      Crosses reconciling last (some (recordedBoot history.baseline earlier)) := by
  have hstart : ∀ (first : Value φ) (st : State φ),
      start lower first = .ok st → st.phase = .baseline := by
    intro first st hst
    obtain ⟨-, -, rfl⟩ := start_ok lower first st hst
    rfl
  have hlast : ∀ (st1 : State φ) (record : Value φ), st1.step record = .ok history.toState →
      st1.postRebootVerified (record.get "evidence") = .ok history.toState := by
    intro st1 record hstep
    obtain ⟨milestone, -, happly⟩ := st1.step_ok record _ hstep
    have hbehind := (st1.apply_stepped _ milestone _ happly).behind
    rw [hphase] at hbehind
    cases milestone with
    | postRebootVerified => exact happly
    | recoveryReconciled committed => cases committed <;> exact absurd hbehind (by simp [phasesBehind])
    | _ => exact absurd hbehind (by simp [phasesBehind])
  obtain ⟨earlier, reconciling, last, st0, st1, hrecords, hrun, hreconciling, hstep⟩ :=
    journalRun_last_two (validateHistory_ok h)
      (fun first hst => nomatch (hstart first _ hst).symm.trans hphase)
      (fun st1 record hstep first hst => by
        obtain ⟨hbefore, -⟩ := st1.postRebootVerified_ok _ _ (hlast st1 record hstep)
        exact nomatch (hstart first _ hst).symm.trans hbefore)
  obtain ⟨hbefore, hboot, hgeneration, hstate⟩ := st1.postRebootVerified_ok _ _ (hlast st1 last hstep)
  have hbaseline : history.baseline = st1.baseline := by
    show history.toState.baseline = _
    rw [hstate]
  obtain ⟨hconnection, hrecorded⟩ := reconciled_keeps hrun hreconciling hbefore
  refine ⟨earlier, reconciling, last, hrecords, ?_, fun uuid huuid => ?_⟩
  · rw [← hconnection]
    simp [differ, generationOf, hgeneration]
  · rw [← Option.some.inj huuid, hbaseline, ← hrecorded]
    simp [differ, bootOf, hboot]

end Delete

/-! ## The three journals -/

/-- **What the proof after the reboot is worth**: every verified enrollment or rename is a reconciled
    journal with one more record, and that record crosses the connection whatever it is exactly where no
    recovery reconciled the operation; a deletion always crosses. -/
theorem post_reboot_crosses_iff (lower : PyStr → PyStr) :
    ((∀ (records : List (Value φ)) history, Enrollment.validateHistory lower records = .ok history →
        history.phase = .postRebootVerified → ∃ earlier reconciling last st,
          records = earlier ++ [reconciling, last] ∧
          Enrollment.ReconciledBy lower earlier reconciling st) ∧
      ∀ (earlier : List (Value φ)) reconciling st, Enrollment.ReconciledBy lower earlier reconciling st →
        ((∀ last after,
          Enrollment.validateHistory lower (earlier ++ [reconciling, last]) = .ok after →
          after.phase = .postRebootVerified →
          Crosses reconciling last (baselineBoot st.baseline reconciling)) ↔
        (isNone st.terminalIdentityUuid = true ∨ ¬ FromRecovery st.baseline reconciling))) ∧
    ((∀ (records : List (Value φ)) history, Rename.validateHistory lower records = .ok history →
        history.phase = .postRebootVerified → ∃ earlier reconciling last st,
          records = earlier ++ [reconciling, last] ∧
          Rename.ReconciledBy lower earlier reconciling st) ∧
      ∀ (earlier : List (Value φ)) reconciling st, Rename.ReconciledBy lower earlier reconciling st →
        ((∀ last after,
          Rename.validateHistory lower (earlier ++ [reconciling, last]) = .ok after →
          after.phase = .postRebootVerified →
          Crosses reconciling last (baselineBoot st.baseline reconciling)) ↔
        ¬ FromRecovery st.baseline reconciling)) ∧
    ∀ (records : List (Value φ)) history, Delete.validateHistory lower records = .ok history →
      history.phase = .postRebootVerified → ∃ earlier reconciling last,
        records = earlier ++ [reconciling, last] ∧
        Crosses reconciling last (some (Delete.recordedBoot history.baseline earlier)) := by
  refine ⟨⟨fun _ _ => Enrollment.verified_last, fun _ _ _ => Enrollment.crosses_iff⟩,
    ⟨fun _ _ => Rename.verified_last, fun _ _ _ => Rename.crosses_iff⟩, fun _ _ => Delete.crosses⟩

end Reboot

/-! ## Recovered operations -/

/-- A proof after a reboot from a connection. -/
def postRebootEntry (milestone connection : String) (others : List (String × Value Unit)) : Entry Unit :=
  ⟨py milestone, object
    ([("connection_generation", sampleUuid connection), ("linux_boot_uuid", sampleUuid "0003"),
      ("mapping_generation", sampleSha "00aa"), ("snapshot_sha256", sampleSha "00ff")] ++ others)⟩

/-- An enrollment whose persistence was found complete on another connection. -/
def recoveredEnrollment : List (Entry Unit) :=
  Enrollment.unknownIdentityEntries ++
    [Enrollment.reconciliationEntry "E3_PERSISTENCE_READBACK_RECOVERED" "1002"
      (some (sampleUuid "eeee")) 2]

/-- Its proof, from the connection of the recovery. -/
def reusingEntry : Entry Unit :=
  postRebootEntry "E4_POST_REBOOT_VERIFIED" "1002"
    [("account_uuid", sampleUuid "aaaa"), ("bag_uuid", sampleUuid "bbbb"),
     ("bindings_preserved", .bool true), ("bridge_boot_uuid", .none),
     ("double_collection_equal", .bool true), ("host_sep_identity_equal", .bool true),
     ("identity_uuid", sampleUuid "eeee"), ("keybag_runtime_revalidated", .bool true),
     ("protocol_version", .int 2)]

/-- A rename that stopped, … -/
def interruptedRename : List (Entry Unit) :=
  [baselineEntry "rename" true,
   ⟨py "RENAME_INTENT", object
      [("connection_generation", sampleUuid "1001"), ("entity", .int 0),
       ("identity_uuid", sampleUuid "cccc"), ("mapping_generation", sampleSha "00aa"),
       ("new_name_sha256", sampleSha "0002"), ("previous_name_sha256", sampleSha "0001"),
       ("user_id", .int 501)]⟩,
   ⟨py "RENAME_RECOVERY_INTENT", object
      [("action", .str (py "no-local-transaction")), ("host_commit_possible", .bool true),
       ("mapping_generation", sampleSha "00aa"), ("mutation_possible", .bool true)]⟩]

/-- … and that a recovery found committed. -/
def committedRename : Entry Unit :=
  ⟨py "RENAME_RECOVERY_RECONCILED_COMMITTED", object
    [("connection_generation", sampleUuid "1002"), ("host_reconciled", .bool true),
     ("identity_count", .int 1), ("identity_set_unchanged", .bool true),
     ("identity_uuid", sampleUuid "cccc"), ("local_live_equal", .bool true),
     ("mapping_generation", sampleSha "00aa"), ("name_sha256", sampleSha "0002"),
     ("recovery_action", .str (py "no-local-transaction")), ("sep_clean", .bool true),
     ("snapshot_sha256", sampleSha "00ff")]⟩

/-- A baseline with two identities. -/
def pairBaseline : Value Unit :=
  ((sampleBaseline true).set "capacity" (object [("maximum", .int 3), ("used", .int 2)])).set
    "identity_records" (.list
      [object [("entity", .int 0), ("user_id", .int 501), ("uuid", sampleUuid "cccc")],
       object [("entity", .int 1), ("user_id", .int 501), ("uuid", sampleUuid "dddd")]])

/-- A milestone of the persistence of the survivors. -/
def survivorEntry (milestone : String) (others : List (String × Value Unit)) : Entry Unit :=
  ⟨py milestone, object
    ([("batch_index", .int 0), ("component_index", .int 0),
      ("connection_generation", sampleUuid "1001"), ("descriptor_sha256", sampleSha "0001"),
      ("name", Enrollment.sampleUserName)] ++ others)⟩

/-- A deletion that stopped behind the staging, was found committed, and was verified. -/
def recoveredDeletion : List (Entry Unit) :=
  [⟨py "BASELINE_RECONCILED", object
      [("baseline", pairBaseline), ("operation_kind", .str (py "delete-one"))]⟩,
   ⟨py "DELETE_INTENT", object
      [("connection_generation", sampleUuid "1001"), ("entity", .int 0),
       ("identity_uuid", sampleUuid "cccc"), ("mapping_generation", sampleSha "00aa"),
       ("request_length", .int 20), ("request_sha256", sampleSha "0004"),
       ("survivor_count", .int 1), ("survivor_snapshot_sha256", sampleSha "0005"),
       ("target_name_sha256", sampleSha "0006"), ("user_id", .int 501)]⟩,
   ⟨py "DELETE_DISPATCH_INTENT", object
      [("command", .int 13), ("connection_generation", sampleUuid "1001"),
       ("identity_uuid", sampleUuid "cccc"), ("protocol_version", .int 0),
       ("request_sha256", sampleSha "0004")]⟩,
   ⟨py "DELETE_COMMAND_OBSERVED", object
      [("connection_generation", sampleUuid "1001"), ("identity_uuid", sampleUuid "cccc"),
       ("output_length", .int 0), ("service_event_count", .int 0), ("status", .int 0)]⟩,
   ⟨py "DELETE_SEP_ABSENCE_OBSERVED", object
      [("connection_generation", sampleUuid "1001"), ("identity_uuid", sampleUuid "cccc"),
       ("per_user_global_equal", .bool true), ("stable_double_read", .bool true),
       ("survivor_count", .int 1), ("survivor_snapshot_sha256", sampleSha "0005"),
       ("target_absent", .bool true)]⟩,
   ⟨py "CATACOMB_PERSISTENCE_PLAN", object
      [("batches", .list [.list [object
          [("descriptor_sha256", sampleSha "0001"), ("name", Enrollment.sampleUserName)]]]),
       ("connection_generation", sampleUuid "1001")]⟩,
   survivorEntry "CATACOMB_PREPARE_INTENT" [],
   survivorEntry "CATACOMB_PREPARED" [("expected_blob_length", .int 64), ("status", .int 0)],
   survivorEntry "CATACOMB_COMPLETE_INTENT" [],
   survivorEntry "CATACOMB_SECURE_BLOB_CAPTURED"
     [("blob_length", .int 64), ("secure_blob_sha256", sampleSha "0007"), ("status", .int 0)],
   survivorEntry "CATACOMB_HOST_STAGED"
     [("final_file_sha256", sampleSha "0008"), ("secure_blob_sha256", sampleSha "0007")],
   ⟨py "DELETE_RECOVERY_INTENT", object
      [("action", .str (py "commit-rolled-forward")), ("host_commit_possible", .bool true),
       ("linux_boot_uuid", sampleUuid "0002"), ("mapping_generation", sampleSha "00aa"),
       ("mutation_possible", .bool true)]⟩,
   ⟨py "DELETE_RECOVERY_RECONCILED_COMMITTED", object
      [("connection_generation", sampleUuid "1002"), ("host_reconciled", .bool true),
       ("identity_count", .int 1), ("identity_uuid", sampleUuid "cccc"),
       ("local_live_equal", .bool true), ("mapping_generation", sampleSha "00aa"),
       ("recovery_action", .str (py "commit-rolled-forward")), ("sep_clean", .bool true),
       ("snapshot_sha256", sampleSha "00ff"), ("target_absent", .bool true)]⟩,
   postRebootEntry "DELETE_POST_REBOOT_VERIFIED" "1003"
     [("identity_uuid", sampleUuid "cccc"), ("local_live_equal", .bool true),
      ("sep_clean", .bool true), ("survivor_snapshot_sha256", sampleSha "0005"),
      ("target_absent", .bool true)]]

/-- Where their runs end. One evaluation runs them all, and reads the names of the milestones once. -/
theorem recovered_runs :
    ((Enrollment.run id (written sampleOperation (recoveredEnrollment ++ [reusingEntry]))).map
      (·.phase)).toOption = some Enrollment.EnrollmentPhase.postRebootVerified ∧
    isUuid (sampleUuid "1002" : Value Unit) = true ∧
    ((Rename.run id (written sampleOperation (interruptedRename ++ [committedRename]))).map fun st =>
      (st.phase, differ (sampleUuid "1002") (st.baseline.get "connection_generation"))).toOption =
      some (Rename.RenamePhase.reconciled, true) ∧
    ((Delete.run id (written sampleOperation recoveredDeletion)).map (·.phase)).toOption =
      some Delete.DeletePhase.postRebootVerified := by
  decide +kernel

/-- **An enrollment is verified on the connection that reconciled it.** -/
theorem post_reboot_reuses_sample : ∃ earlier reconciling last,
    ∃ history : Enrollment.EnrollmentHistory Unit,
      Enrollment.validateHistory id (earlier ++ [reconciling, last]) = .ok history ∧
      history.phase = .postRebootVerified ∧
      reconciling.get "milestone" = .str (py "E3_PERSISTENCE_READBACK_RECOVERED") ∧
      generationOf last = generationOf reconciling ∧
      ∀ boot, ¬ Crosses reconciling last boot := by
  obtain ⟨hreused, huuid, -⟩ := recovered_runs
  obtain ⟨st, hrun, hphase⟩ := exists_of_map hreused
  obtain ⟨history, hhistory, rfl⟩ := Enrollment.validateHistory_written (by simp) hrun
  rw [written_concat, recoveredEnrollment, written_concat, List.append_assoc] at hhistory
  have hsame : (reusingEntry.evidence).get "connection_generation" =
      (Enrollment.reconciliationEntry "E3_PERSISTENCE_READBACK_RECOVERED" "1002"
        (some (sampleUuid "eeee")) 2).evidence.get "connection_generation" := by
    rfl
  refine ⟨_, _, _, history, hhistory, hphase, milestone_written _ _ _, ?_, fun boot => ?_⟩
  · rw [generationOf, generationOf, evidence_written, evidence_written]
    exact hsame
  · refine not_crosses_of_reuse ?_ ?_
    · rw [generationOf, evidence_written]
      exact huuid
    · rw [generationOf, generationOf, evidence_written, evidence_written]
      exact hsame

/-- The two recoveries leave their connection open to the proof, the deletion does not. -/
theorem post_reboot_crosses_sample :
    (∃ earlier reconciling, ∃ st : Enrollment.State Unit,
      Enrollment.ReconciledBy id earlier reconciling st ∧ ¬ ∀ last after,
        Enrollment.validateHistory id (earlier ++ [reconciling, last]) = .ok after →
        after.phase = .postRebootVerified →
        Crosses reconciling last (baselineBoot st.baseline reconciling)) ∧
    (∃ earlier reconciling, ∃ st : Rename.State Unit,
      Rename.ReconciledBy id earlier reconciling st ∧ ¬ ∀ last after,
        Rename.validateHistory id (earlier ++ [reconciling, last]) = .ok after →
        after.phase = .postRebootVerified →
        Crosses reconciling last (baselineBoot st.baseline reconciling)) ∧
    ∃ records, ∃ history : Delete.History Unit, Delete.validateHistory id records = .ok history ∧
      ∃ earlier reconciling last, records = earlier ++ [reconciling, last] ∧
        Crosses reconciling last (some (Delete.recordedBoot history.baseline earlier)) := by
  obtain ⟨⟨-, henrollment⟩, ⟨-, hrename⟩, hdelete⟩ := post_reboot_crosses_iff (φ := Unit) id
  obtain ⟨-, -, hrenamed, hdeleted⟩ := recovered_runs
  refine ⟨?_, ?_, ?_⟩
  · obtain ⟨st, hrun, hst⟩ := exists_of_map Enrollment.reconciled_runs.1
    obtain ⟨hphase, hst⟩ := Prod.mk.inj hst
    obtain ⟨hidentity, hother⟩ := Prod.mk.inj hst
    rw [written_concat] at hrun
    refine ⟨_, _, st, ⟨hrun, hphase⟩, fun hcrosses => ?_⟩
    rcases (henrollment _ _ st ⟨hrun, hphase⟩).mp hcrosses with hnone | hdirect
    · exact nomatch hidentity.symm.trans hnone
    · refine hdirect ?_
      rw [FromRecovery, generationOf, evidence_written]
      exact hother
  · obtain ⟨st, hrun, hst⟩ := exists_of_map hrenamed
    obtain ⟨hphase, hother⟩ := Prod.mk.inj hst
    rw [written_concat] at hrun
    refine ⟨_, _, st, ⟨hrun, hphase⟩, fun hcrosses => ?_⟩
    refine (hrename _ _ st ⟨hrun, hphase⟩).mp hcrosses ?_
    rw [FromRecovery, generationOf, evidence_written]
    exact hother
  · obtain ⟨st, hrun, hphase⟩ := exists_of_map hdeleted
    obtain ⟨history, hhistory, rfl⟩ := Delete.validateHistory_written (by simp [recoveredDeletion]) hrun
    exact ⟨_, history, hhistory, hdelete _ history hhistory hphase⟩

end T2TouchId.Journal
