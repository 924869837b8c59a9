/-
  What the enrollment journal takes from the operation.

  `Steps` reads from an accepted record what it says; here it is the other way round: the evidence that
  the operation writes is accepted in the phases where it writes it, and this is the state behind it.
  The fields stand in the order of the operation; `hasKeys` does not care.

  1. **Values** — `uint_of`, `statusValue_of`: a bounded number passes; `isUuid_dashed`: so does the text
     of a UUID.
  2. **Milestones** — `startIntent_accepts`, …: one lemma for each of the twelve.
-/
import T2TouchId.Journal.Enrollment.Closing
import T2TouchId.Python.Uuid

set_option linter.unusedSectionVars false

namespace T2TouchId.Journal.Enrollment

open T2TouchId.Python T2TouchId.Python.Json

section Accepts

variable {φ : Type} [JsonFloat φ]

/-! ## Numbers and UUIDs -/

theorem uint_of {field : String} {n maximum : Int} (hlow : 0 ≤ n) (hhigh : n ≤ maximum) :
    (uint (.int n : Value φ) field maximum) = .ok n := by
  refine (passTest ?_).trans rfl
  simp [isIntIn, hlow, hhigh]

theorem statusValue_of {value : Value φ} {field : String}
    (h : isIntIn (-(2 ^ 31)) (2 ^ 32 - 1) value = true) : statusValue value field = .ok (intOf value) :=
  (passTest (not_not.mpr h)).trans rfl

/-- The Apple UID of an accepted baseline is a number. -/
theorem validateBaseline_appleUid {lower : PyStr → PyStr} {baseline : Value φ}
    (h : validateBaseline lower baseline = .ok ()) : isCount (baseline.get "apple_uid") = true := by
  have hreturns : Returns (validateBaseline lower baseline) fun _ =>
      isCount (baseline.get "apple_uid") = true := by
    refine .skip fun _ => .skip fun _ => .seq fun hcounts => ?_
    have hcount := requireAll_ok hcounts "apple_uid" (by simp)
    rw [requireNonnegativeInt, reject_eq_ok, not_not] at hcount
    exact .const hcount
  exact hreturns () h

/-- A part of a UUID without a place for a dash. -/
theorem isHexDigit_zipIdx {part : PyStr} {start : Nat} (h : ∀ c ∈ part, isHexDigit c.val = true)
    (hplaces : ∀ i ∈ [8, 13, 18, 23], i < start ∨ start + part.length ≤ i) :
    (part.zipIdx start).all (fun (c, i) =>
      if i ∈ [8, 13, 18, 23] then decide (c = 0x2D) else isHexDigit c.val) = true := by
  refine List.all_eq_true.mpr fun (c, i) hc => ?_
  obtain ⟨hlow, hhigh, hget⟩ := List.mem_zipIdx hc
  have hplace : i ∉ [8, 13, 18, 23] := fun hi => by
    rcases hplaces i hi with hlt | hge <;> omega
  show (if i ∈ [8, 13, 18, 23] then decide (c = 0x2D) else isHexDigit c.val) = true
  rw [if_neg hplace]
  exact h c (hget ▸ List.getElem_mem _)

/-- What `str` of a UUID is, the journal takes for a UUID. -/
theorem isUuid_dashed {digits : PyStr} (h : ∀ c ∈ digits, isHexDigit c.val = true)
    (hlength : digits.length = 32) : isUuid (.str (dashed digits) : Value φ) = true := by
  have htake : ∀ n, ∀ c ∈ (digits.drop n).take 4, isHexDigit c.val = true := fun n c hc =>
    h c (List.mem_of_mem_drop (List.mem_of_mem_take hc))
  have hfirst : ∀ c ∈ digits.take 8, isHexDigit c.val = true := fun c hc => h c (List.mem_of_mem_take hc)
  have hlast : ∀ c ∈ digits.drop 20, isHexDigit c.val = true := fun c hc => h c (List.mem_of_mem_drop hc)
  have hcanonical : isCanonicalUuid (dashed digits) = true := by
    refine Bool.and_eq_true_iff.mpr ⟨by simp [dashed, hlength], ?_⟩
    simp only [dashed, List.zipIdx_append, List.all_append, Bool.and_eq_true, List.length_append,
      List.length_take, List.length_drop, List.length_singleton, hlength]
    refine ⟨⟨⟨⟨⟨⟨⟨⟨?_, rfl⟩, ?_⟩, rfl⟩, ?_⟩, rfl⟩, ?_⟩, rfl⟩, ?_⟩
    · exact isHexDigit_zipIdx hfirst (by simp [hlength])
    · exact isHexDigit_zipIdx (htake 8) (by simp [hlength])
    · exact isHexDigit_zipIdx (htake 12) (by simp [hlength])
    · exact isHexDigit_zipIdx (htake 16) (by simp [hlength])
    · exact isHexDigit_zipIdx hlast (by simp [hlength])
  rw [isUuid_str, uuidParses_dashed h hlength, hcanonical]
  rfl

namespace State

variable {st : State φ} {generation : PyStr}

/-! ## Starting -/

theorem abortedBeforeStart_accepts (hphase : st.phase = .baseline)
    (hgeneration : st.baseline.get "connection_generation" = .str generation) :
    st.abortedBeforeStart (members
      [("connection_generation", .str generation), ("reason", .str (py "safety-guard-unavailable")),
       ("mutation_possible", .bool false)]) = .ok { st with phase := .abortedBeforeStart } := by
  refine (passTest (not_not.mpr hphase)).trans ?_
  refine (passes (reject_neg (not_not.mpr (hasKeys_members rfl)))).trans ?_
  simp only [sameGeneration, get_members, List.lookup_cons, String.reduceBEq, Option.getD_some]
  simp [hgeneration, differ_self_str, Value.isStr, isFalse,
    pure, Except.pure, bind, Except.bind]

theorem startIntent_accepts (hphase : st.phase = .baseline) {uid version length : Int} {hash : Value φ}
    (huid : st.baseline.get "apple_uid" = .int uid)
    (hversion : differ (.int version) (st.baseline.get "protocol_version") = false)
    (hlength : length = requestLength (st.baseline.get "protocol_version"))
    (hgeneration : st.baseline.get "connection_generation" = .str generation)
    (hhash : isSha256 hash = true) :
    st.startIntent (members
      [("apple_uid", .int uid), ("protocol_version", .int version),
       ("connection_generation", .str generation), ("request_length", .int length),
       ("request_sha256", hash)]) = .ok { st with phase := .startIntent } := by
  refine (passTest (not_not.mpr hphase)).trans ?_
  refine (passes (reject_neg (not_not.mpr (hasKeys_members rfl)))).trans ?_
  simp only [sameGeneration, get_members, List.lookup_cons, String.reduceBEq, Option.getD_some]
  simp [huid, differ_int.mpr, hversion, hlength,
    hgeneration, differ_self_str, requireSha256_eq_ok.mpr hhash, pure, Except.pure, bind, Except.bind]

theorem startObserved_accepts (hphase : st.phase = .startIntent) :
    st.startObserved (members [("status", .int 0)]) = .ok { st with phase := .active } := by
  refine (passTest (not_not.mpr hphase)).trans ?_
  refine (passes (reject_neg (not_not.mpr (hasKeys_members rfl)))).trans ?_
  simp only [get_members, List.lookup_cons, String.reduceBEq, Option.getD_some]
  exact (passes (statusValue_of rfl)).trans rfl

theorem startRejected_accepts (hphase : st.phase = .startIntent) {status : Int} (hstatus : status ≠ 0)
    (hrange : isIntIn (-(2 ^ 31)) (2 ^ 32 - 1) (.int status : Value φ) = true) :
    st.startRejected (members [("status", .int status)]) =
      .ok { st with terminalStatus := .int status, phase := .terminalFailure } := by
  refine (passTest (not_not.mpr hphase)).trans ?_
  refine (passes (reject_neg (not_not.mpr (hasKeys_members rfl)))).trans ?_
  simp only [get_members, List.lookup_cons, String.reduceBEq, Option.getD_some]
  exact (passes (statusValue_of hrange)).trans ((passTest hstatus).trans rfl)

/-! ## Events -/

theorem continueIntent_accepts (hphase : st.phase = .active) {sequence ordinal : Int} {hash : Value φ}
    (hgeneration : st.baseline.get "connection_generation" = .str generation)
    (hsequence : 0 ≤ sequence ∧ sequence ≤ 0xFFFFFFFFFFFFFFFF)
    (hordinal : ordinal = 70 ∨ 100 ≤ ordinal ∧ ordinal ≤ 355)
    (hincreases : st.eventIncreases sequence) (hhash : isSha256 hash = true) :
    st.continueIntent (members
      [("connection_generation", .str generation), ("event_sequence", .int sequence),
       ("event_ordinal", .int ordinal), ("event_sha256", hash)]) =
      .ok { st with pendingEvent := some sequence, phase := .continueIntent } := by
  refine (passTest (not_not.mpr hphase)).trans ?_
  refine (passes (reject_neg (not_not.mpr (hasKeys_members rfl)))).trans ?_
  simp only [sameGeneration, get_members, List.lookup_cons, String.reduceBEq, Option.getD_some]
  refine (passTest (by simp [hgeneration, differ_self_str])).trans ?_
  refine (passes (uint_of hsequence.1 hsequence.2)).trans ?_
  refine (passes (uint_of (by omega) (by omega))).trans ?_
  refine (passTest (by omega)).trans ((passTest (not_not.mpr hincreases)).trans ?_)
  exact (passes (requireSha256_eq_ok.mpr hhash)).trans rfl

theorem continueObserved_accepts (hphase : st.phase = .continueIntent) {sequence status : Int}
    (hsequence : 0 ≤ sequence ∧ sequence ≤ 0xFFFFFFFFFFFFFFFF) (hpending : st.pendingEvent = some sequence)
    (hrange : isIntIn (-(2 ^ 31)) (2 ^ 32 - 1) (.int status : Value φ) = true) :
    st.continueObserved (members
      [("event_sequence", .int sequence), ("status", .int status),
       ("return_status_authoritative", .bool false)]) =
      .ok { st with lastEvent := some sequence, pendingEvent := none, phase := .active } := by
  have hlegacy : ¬ hasKeys ["event_sequence", "status"] (members (φ := φ)
      [("event_sequence", .int sequence), ("status", .int status),
       ("return_status_authoritative", .bool false)]) = true := by
    have hother : ∀ name ∈ ["event_sequence", "status"], py name ≠ py "return_status_authoritative" := by
      simp
    simp only [List.forall_mem_cons] at hother
    simp [members, hasKeys, hother]
  refine (passTest (not_not.mpr hphase)).trans ?_
  dsimp only
  rw [if_pos hlegacy]
  refine (passes (reject_neg (not_not.mpr (hasKeys_members rfl)))).trans ?_
  simp only [get_members, List.lookup_cons, String.reduceBEq, Option.getD_some]
  refine (passes (uint_of hsequence.1 hsequence.2)).trans ?_
  refine (passes (statusValue_of hrange)).trans ?_
  refine (passTest (not_not.mpr hpending)).trans ?_
  rw [if_neg hlegacy]
  refine (passTest ?_).trans ?_
  · simp [isFalse]
  · rw [hpending]
    rfl

/-! ## Cancelling -/

theorem cancelIntent_accepts (hphase : st.phase = .active)
    (hgeneration : st.baseline.get "connection_generation" = .str generation) :
    st.cancelIntent (members
      [("connection_generation", .str generation), ("reason", .str (py "caller-requested"))]) =
      .ok { st with phase := .cancelIntent } := by
  refine (passTest (not_not.mpr hphase)).trans ?_
  refine (passes (reject_neg (not_not.mpr (hasKeys_members rfl)))).trans ?_
  simp only [sameGeneration, get_members, List.lookup_cons, String.reduceBEq, Option.getD_some]
  simp [hgeneration, differ_self_str, Value.isStr,
    pure, Except.pure, bind, Except.bind]

theorem cancelDispatchObserved_accepts (hphase : st.phase = .cancelIntent) :
    st.cancelDispatchObserved (members [("status", .int 0)]) =
      .ok { st with phase := .cancelRequested } := by
  refine (passTest (not_not.mpr hphase)).trans ?_
  refine (passes (reject_neg (not_not.mpr (hasKeys_members rfl)))).trans ?_
  simp only [get_members, List.lookup_cons, String.reduceBEq, Option.getD_some]
  exact (passes (statusValue_of rfl)).trans rfl

/-! ## Terminal results -/

theorem terminalIdentityObserved_accepts (hphase : st.AwaitsResult) {sequence version uid : Int}
    {uuid : Value φ} (hgeneration : st.baseline.get "connection_generation" = .str generation)
    (hsequence : 0 ≤ sequence ∧ sequence ≤ 0xFFFFFFFFFFFFFFFF) (hincreases : st.eventIncreases sequence)
    (hversion : version = 1 ∨ version = 2) (huid : st.baseline.get "apple_uid" = .int uid)
    (huuid : isUuid uuid = true) :
    st.terminalIdentityObserved (members
      [("connection_generation", .str generation), ("event_sequence", .int sequence),
       ("envelope_type", .int serviceEnrollmentResult), ("event_version", .int version),
       ("user_id", .int uid), ("identity_uuid", uuid)]) =
      .ok { st with
        terminalIdentityUuid := uuid, lastEvent := some sequence, phase := .terminalIdentity } := by
  refine (passTest (by rcases hphase with h | h <;> simp [h])).trans ?_
  refine (passes (reject_neg (not_not.mpr (hasKeys_members rfl)))).trans ?_
  simp only [sameGeneration, get_members, List.lookup_cons, String.reduceBEq, Option.getD_some]
  refine (passTest (by simp [hgeneration, differ_self_str])).trans ?_
  refine (passes (uint_of hsequence.1 hsequence.2)).trans ?_
  refine (passTest (not_not.mpr hincreases)).trans ((passTest ?_).trans ?_)
  · rcases hversion with rfl | rfl <;> simp [huid, differ_int.mpr]
  · exact (passes (requireUuid_eq_ok.mpr huuid)).trans rfl

theorem terminalResultWitnessed_accepts (hphase : st.AwaitsResult) {sequence version length : Int}
    {hash : Value φ} (hgeneration : st.baseline.get "connection_generation" = .str generation)
    (hsequence : 0 ≤ sequence ∧ sequence ≤ 0xFFFFFFFFFFFFFFFF) (hincreases : st.eventIncreases sequence)
    (hlength : version = 1 ∧ length = 20 ∨ version = 2 ∧ 40 ≤ length ∧ length ≤ 1024 * 1024)
    (hhash : isSha256 hash = true) :
    st.terminalResultWitnessed (members
      [("connection_generation", .str generation), ("event_sequence", .int sequence),
       ("envelope_type", .int serviceEnrollmentResult), ("event_version", .int version),
       ("payload_length", .int length), ("event_sha256", hash),
       ("embedded_user_matches", .bool false)]) =
      .ok { st with lastEvent := some sequence, phase := .terminalWitness } := by
  refine (passTest (by rcases hphase with h | h <;> simp [h])).trans ?_
  refine (passes (reject_neg (not_not.mpr (hasKeys_members rfl)))).trans ?_
  simp only [sameGeneration, get_members, List.lookup_cons, String.reduceBEq, Option.getD_some]
  refine (passTest (by simp [hgeneration, differ_self_str])).trans ?_
  refine (passes (uint_of hsequence.1 hsequence.2)).trans ?_
  refine (passTest (not_not.mpr hincreases)).trans ?_
  refine (passes (uint_of (by omega) (by omega))).trans ?_
  refine (passes (uint_of (by omega) (by omega))).trans ?_
  refine (passTest ?_).trans ?_
  · rcases hlength with ⟨rfl, rfl⟩ | ⟨rfl, hlength, -⟩ <;>
      simp [isFalse, differ_int.mpr]
    exact hlength
  · exact (passes (requireSha256_eq_ok.mpr hhash)).trans rfl

theorem terminalFailureObserved_accepts (hphase : st.AwaitsResult) {sequence status : Int}
    (hgeneration : st.baseline.get "connection_generation" = .str generation)
    (hsequence : 0 ≤ sequence ∧ sequence ≤ 0xFFFFFFFFFFFFFFFF) (hincreases : st.eventIncreases sequence)
    (hstatus : status = 66 ∨ status = 67 ∨ status = 68) :
    st.terminalFailureObserved (members
      [("connection_generation", .str generation), ("event_sequence", .int sequence),
       ("envelope_type", .int serviceStatus), ("status", .int status)]) =
      .ok { st with
        terminalStatus := .int status, lastEvent := some sequence, phase := .terminalFailure } := by
  refine (passTest (by rcases hphase with h | h <;> simp [h])).trans ?_
  refine (passes (reject_neg (not_not.mpr (hasKeys_members rfl)))).trans ?_
  simp only [sameGeneration, get_members, List.lookup_cons, String.reduceBEq, Option.getD_some]
  refine (passTest (by simp [hgeneration, differ_self_str])).trans ?_
  refine (passes (uint_of hsequence.1 hsequence.2)).trans ?_
  refine (passTest (not_not.mpr hincreases)).trans ((passTest ?_).trans rfl)
  rcases hstatus with rfl | rfl | rfl <;> simp [differ_int.mpr]

/-! ## Unknown outcomes -/

/-- An outcome that the operation does not know. -/
theorem outcomeUnknown_accepts (hphase : st.phase ∈ mutating) (hpersisting : st.phase ≠ .persisting)
    {stage reason : String}
    (hgeneration : st.baseline.get "connection_generation" = .str generation)
    (hstage : stage ∈ ["start", "active", "continue", "cancel", "terminal"])
    (hreason : reason ∈ ["transport-error", "connection-lost", "journal-error", "protocol-error"]) :
    st.outcomeUnknown (members
      [("connection_generation", .str generation), ("stage", .str (py stage)),
       ("reason", .str (py reason)), ("mutation_possible", .bool true)]) =
      .ok { st with outcomeUnknownStage := .str (py stage), phase := .outcomeUnknown } := by
  refine (passTest (not_not.mpr hphase)).trans ?_
  refine (passes (reject_neg (not_not.mpr (hasKeys_members rfl)))).trans ?_
  simp only [sameGeneration, get_members, List.lookup_cons, String.reduceBEq, Option.getD_some]
  rw [if_neg hpersisting, if_neg hpersisting]
  refine (passTest (by simp [hgeneration, differ_self_str])).trans ((passTest ?_).trans rfl)
  have hstage : isOneOf (.str (py stage) : Value φ)
      ["start", "active", "continue", "cancel", "terminal"] = true :=
    List.any_eq_true.mpr ⟨stage, hstage, by simp [Value.isStr]⟩
  have hreason : isOneOf (.str (py reason) : Value φ)
      ["transport-error", "connection-lost", "journal-error", "protocol-error"] = true :=
    List.any_eq_true.mpr ⟨reason, hreason, by simp [Value.isStr]⟩
  simp [hstage, hreason, Value.isTrue]

end State

end Accepts

end T2TouchId.Journal.Enrollment
