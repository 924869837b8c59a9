/-
  From the probe's result to a verdict (`verdict_from_result` and `resolved_any_finger_from_result` of
  `src/t2-fprintd.py`).

  Problem: a verdict is read off an object that mixes the status of the start command with an
  unbounded list of callback summaries.  A match may be reported only when the command was accepted,
  and then only for what a match-result callback reported.

  1. **Program** — both functions, over any value.
  2. **Specification** — `Sound`: a `verify-match` or a named finger has an accepted start and a
     reported match behind it, and a named finger is the one the gate resolves the reported event to.
  3. **Result** — the first match-result summary decides both functions (`verdict_match_iff`,
     `resolved_any_first`) and the rejection flag is looked at only when there is none, so `Sound`
     holds of a printed result exactly when the start was accepted or no match is reported first
     (`probe_sound_iff`).
-/
import T2TouchId.Fprint.Probe

namespace T2TouchId.Fprint

open T2TouchId.Python

section Verdict

variable {φ : Type} [PyFloat φ]

/-! ## The two functions -/

/-- `x.get(name) is not True`, for each of these names. -/
def allTrue (value : Value φ) (names : List String) : Bool :=
  names.all fun name => (value.get name).isTrue

/-- The Boolean fields of the post-attestation, the same for both functions. -/
def postNames : List String :=
  ["identity_state_unchanged", "local_components_unchanged", "per_user_inventory_unchanged",
   "global_inventory_unchanged", "identifiers_redacted"]

/-- The attestation test for a named match. -/
def targetedAttested (result : Value φ) (targetFinger : PyStr) : Bool :=
  let gate := result.get "targeted_match_gate"
  let post := result.get "targeted_match_post_attestation"
  targetFinger != py "any" && gate.isDict && (gate.get "finger_name").isStr targetFinger
    && allTrue gate ["single_identity_selected", "same_connection_inventory_stable",
        "local_live_reconciled", "identifiers_redacted"]
    && post.isDict && allTrue post postNames

/-- A summary that is not a match result is skipped. -/
def isMatchResult (event : Value φ) : Bool :=
  event.isDict && (event.get "event_kind").isStr (py "match_result")

def verdictMatch : String := "verify-match"
def verdictNoMatch : String := "verify-no-match"

/-- The body of the event loop for a match result. -/
def reportsMatch (targetFinger : Option PyStr) (event : Value φ) : Bool :=
  (event.get "matched").isTrue && (event.get "matches_enrolled_identity").isTrue
    && (targetFinger.isNone || (event.get "matches_selected_identity").isTrue)

def verdictFromResult (result : Value φ) (targetFinger : Option PyStr) : Except String String :=
  if ¬ result.isDict then .error "malformed T2 probe result"
  else if targetFinger.any fun finger => ¬ targetedAttested result finger then
    .error "named T2 match attestation is incomplete"
  else
    match (result.get? "match_events").getD (.list []) with
    | .list events =>
      match events.find? isMatchResult with
      | some event =>
        .ok (if reportsMatch targetFinger event then verdictMatch else verdictNoMatch)
      | none =>
        if (result.get "match_rejected").isTrue then .error "the T2 rejected match startup"
        else .ok verdictNoMatch
    | _ => .error "malformed T2 match event list"

/-- The gate and attestation test for a resolved `any` match. -/
def resolvedAnyAttested (result : Value φ) : Bool :=
  let gate := result.get "resolved_any_match_gate"
  let post := result.get "resolved_any_match_post_attestation"
  gate.isDict
    && (match gate.get "identity_count" with
        | .int n => 1 ≤ n ∧ n ≤ fingerNames.length
        | _ => false)
    && allTrue gate ["complete_named_inventory", "all_identities_selected",
        "same_connection_inventory_stable", "local_live_reconciled", "identifiers_redacted"]
    && post.isDict && allTrue post postNames

/-- The finger that a match result names. -/
def namedFinger (event : Value φ) : Except String (Option PyStr) :=
  if ¬ (event.get "matched").isTrue then .ok none
  else
    match event.get "matched_finger_name" with
    | .str name =>
      if (event.get "matches_enrolled_identity").isTrue
          ∧ (event.get "matched_finger_name_present").isTrue ∧ name ∈ fingerNameSet then
        .ok (some name)
      else .error "resolved-any T2 match result is incomplete"
    | _ => .error "resolved-any T2 match result is incomplete"

def resolvedAnyFingerFromResult (result : Value φ) : Except String (Option PyStr) :=
  if ¬ result.isDict then .error "malformed T2 probe result"
  else if ¬ resolvedAnyAttested result then
    .error "resolved-any T2 match attestation is incomplete"
  else
    match result.get "match_events" with
    | .list events =>
      match events.find? isMatchResult with
      | some event => namedFinger event
      | none =>
        if (result.get "match_rejected").isTrue then .error "the T2 rejected match startup"
        else .ok none
    | _ => .error "malformed T2 match event list"

/-! ## The first match result -/

omit [PyFloat φ] in
theorem isMatchResult_iff {event : Value φ} :
    isMatchResult event = true ↔ event.get? "event_kind" = some (.str (py "match_result")) := by
  unfold isMatchResult Value.get
  rw [Bool.and_eq_true]
  constructor
  · rintro ⟨-, hkind⟩
    cases hget : event.get? "event_kind" with
    | none => rw [hget] at hkind; exact nomatch hkind
    | some kind =>
      rw [hget] at hkind
      cases kind with
      | str s => rw [of_decide_eq_true hkind]
      | _ => exact nomatch hkind
  · intro hget
    rw [hget]
    refine ⟨?_, by simp [Value.isStr]⟩
    cases event with
    | dict _ => rfl
    | _ => exact nomatch hget

/-- The event data of the match results among the callbacks, in order. -/
def matchResults (setup : Setup) (stopOnMatchResult : Bool) (x : Exchange φ) : List Bytes :=
  (matchEvents setup stopOnMatchResult x).filterMap matchResultData

omit [PyFloat φ] in
/-- **The loops stop at the first match result**: the summary they look at is the one of the first
    callback that carries a match result, and there is none when no callback does. -/
theorem find_isMatchResult {setup : Setup} (events : List (Payload φ)) :
    ∀ summaries : List (Value φ), events.mapM (summarizeEvent setup) = .ok summaries →
      (∃ p d v, (events.filterMap matchResultData).head? = some d ∧ matchResultData p = some d ∧
        summarizeEvent setup p = .ok v ∧ summaries.find? isMatchResult = some v) ∨
      (events.filterMap matchResultData = [] ∧ summaries.find? isMatchResult = none) := by
  induction events with
  | nil =>
    intro summaries h
    cases h
    exact .inr ⟨rfl, rfl⟩
  | cons p events ih =>
    intro summaries h
    rw [List.mapM_cons] at h
    obtain ⟨v, hv, h⟩ := bind_ok h
    obtain ⟨rest, hrest, h⟩ := bind_ok h
    cases h
    cases hd : matchResultData p with
    | some d =>
      have hv' : isMatchResult v = true :=
        isMatchResult_iff.mpr ((summary_event_kind hv).mpr (by rw [hd]; rfl))
      exact .inl ⟨p, d, v, by rw [List.filterMap_cons_some hd]; rfl, hd, hv,
        List.find?_cons_of_pos hv'⟩
    | none =>
      have hv' : ¬ isMatchResult v = true := by
        rw [isMatchResult_iff, summary_event_kind hv, hd]
        decide
      rw [List.filterMap_cons_none hd, List.find?_cons_of_neg hv']
      exact ih rest hrest

omit [PyFloat φ] in
/-- What the loop of a verdict asks of a match result. -/
theorem reportsMatch_iff {setup : Setup} {p : Payload φ} {d : Bytes} {v : Value φ}
    (hd : matchResultData p = some d) (hv : summarizeEvent setup p = .ok v)
    (target : Option PyStr) :
    reportsMatch target v = true ↔ Reports setup d ∧
      (target.isNone || (v.get "matches_selected_identity").isTrue) = true := by
  rw [reportsMatch, Bool.and_eq_true, Bool.and_eq_true, summary_matched hd hv (by decide),
    summary_matched hd hv (by decide), and_self]

omit [PyFloat φ] in
/-- The finger that a match result names is the one the gate resolves it to. -/
theorem namedFinger_ok {setup : Setup} {p : Payload φ} {d : Bytes} {v : Value φ} {name : PyStr}
    (hd : matchResultData p = some d) (hv : summarizeEvent setup p = .ok v)
    (h : namedFinger v = .ok (some name)) :
    Reports setup d ∧ ∃ all, setup.gate = .resolvedAny all ∧
      resolveAllMatchEvent all d = .ok (some name) := by
  unfold namedFinger at h
  by_cases hmatched : (v.get "matched").isTrue = true
  · rw [if_neg (by simpa using hmatched)] at h
    split at h
    · rename_i found hfound
      split at h
      · cases h
        exact ⟨(summary_matched hd hv (by decide)).mp hmatched, summary_finger_name hd hv hfound⟩
      · exact nomatch h
    · exact nomatch h
  · rw [if_pos hmatched] at h
    exact nomatch h

/-! ## Soundness -/

/-- The start command was accepted: no rejection mark and no error. -/
structure Accepted (result : Value φ) : Prop where
  unmarked : (result.get "match_rejected").isTrue = false
  noError : result.get? "error" = none

/-- Both functions report only what an accepted match saw. -/
structure Sound (setup : Setup) (results : List Bytes) (result : Value φ) : Prop where
  /-- A `verify-match` has an accepted start and a match result that reports an enrolled finger, the
      selected one when a finger was named. -/
  verdict : ∀ target, verdictFromResult result target = .ok verdictMatch →
    Accepted result ∧ ∃ d ∈ results, Reports setup d ∧ (target.isSome → SelectedIn setup d)
  /-- A named finger satisfies the verify-match condition and is the one the gate resolves. -/
  finger : ∀ name, resolvedAnyFingerFromResult result = .ok (some name) →
    verdictFromResult result none = .ok verdictMatch ∧ Accepted result ∧
    ∃ all, setup.gate = .resolvedAny all ∧
      ∃ d ∈ results, Reports setup d ∧ resolveAllMatchEvent all d = .ok (some name)

/-- The first match result reports an enrolled finger. -/
def FirstReports (setup : Setup) (results : List Bytes) : Prop :=
  ∃ d, results.head? = some d ∧ Reports setup d

theorem verdictFromResult_match {setup : Setup} {stop : Bool} {prior : Prior φ} {x : Exchange φ}
    {result : Value φ} (h : probeResult setup stop prior x = .ok result) {target : Option PyStr}
    (hverdict : verdictFromResult result target = .ok verdictMatch) :
    ∃ (p : Payload φ) (d : Bytes) (v : Value φ),
      (matchResults setup stop x).head? = some d ∧ matchResultData p = some d ∧
        summarizeEvent setup p = .ok v ∧ reportsMatch target v = true := by
  obtain ⟨hdict, -, -, summaries, hsummaries, hevents⟩ := probeResult_ok h
  unfold verdictFromResult at hverdict
  rw [if_neg (by simpa using hdict)] at hverdict
  split at hverdict
  · exact nomatch hverdict
  · rw [hevents] at hverdict
    obtain ⟨p, d, v, hhead, hd, hv, hfind⟩ | ⟨-, hfind⟩ := find_isMatchResult _ summaries hsummaries
    · simp only [Option.getD_some, hfind] at hverdict
      refine ⟨p, d, v, hhead, hd, hv, ?_⟩
      by_contra hreports
      rw [if_neg hreports] at hverdict
      exact absurd (Except.ok.inj hverdict) (by decide)
    · -- without a match result the verdict is an error or `verify-no-match`
      simp only [Option.getD_some, hfind] at hverdict
      split at hverdict
      · exact nomatch hverdict
      · exact absurd (Except.ok.inj hverdict) (by decide)

/-- **The verdict without a named finger** is decided by the first match result alone. -/
theorem verdict_match_iff {setup : Setup} {stop : Bool} {prior : Prior φ} {x : Exchange φ}
    {result : Value φ} (h : probeResult setup stop prior x = .ok result) :
    verdictFromResult result none = .ok verdictMatch ↔
      FirstReports setup (matchResults setup stop x) := by
  constructor
  · intro hverdict
    obtain ⟨p, d, v, hhead, hd, hv, hreports⟩ := verdictFromResult_match h hverdict
    exact ⟨d, hhead, ((reportsMatch_iff hd hv none).mp hreports).1⟩
  · rintro ⟨d, hhead, hreports⟩
    obtain ⟨hdict, -, -, summaries, hsummaries, hevents⟩ := probeResult_ok h
    obtain ⟨p, d', v, hhead', hd, hv, hfind⟩ | ⟨hnil, -⟩ :=
      find_isMatchResult _ summaries hsummaries
    · obtain rfl : d = d' := Option.some.inj (hhead.symm.trans hhead')
      have hmatch : reportsMatch none v = true :=
        (reportsMatch_iff hd hv none).mpr ⟨hreports, rfl⟩
      unfold verdictFromResult
      rw [if_neg (by simpa using hdict), if_neg (by simp), hevents]
      simp only [Option.getD_some, hfind, if_pos hmatch]
    · rw [matchResults, hnil] at hhead
      exact nomatch hhead

/-- **A named finger** is named by the first match result. -/
theorem resolved_any_first {setup : Setup} {stop : Bool} {prior : Prior φ} {x : Exchange φ}
    {result : Value φ} (h : probeResult setup stop prior x = .ok result) {name : PyStr}
    (hfinger : resolvedAnyFingerFromResult result = .ok (some name)) :
    ∃ (p : Payload φ) (d : Bytes) (v : Value φ),
      (matchResults setup stop x).head? = some d ∧ matchResultData p = some d ∧
        summarizeEvent setup p = .ok v ∧ namedFinger v = .ok (some name) := by
  obtain ⟨hdict, -, -, summaries, hsummaries, hevents⟩ := probeResult_ok h
  unfold resolvedAnyFingerFromResult at hfinger
  rw [if_neg (by simpa using hdict)] at hfinger
  split at hfinger
  · exact nomatch hfinger
  · unfold Value.get at hfinger
    rw [hevents] at hfinger
    obtain ⟨p, d, v, hhead, hd, hv, hfind⟩ | ⟨-, hfind⟩ := find_isMatchResult _ summaries hsummaries
    · simp only [Option.getD_some, hfind] at hfinger
      exact ⟨p, d, v, hhead, hd, hv, hfinger⟩
    · simp only [Option.getD_some, hfind] at hfinger
      split at hfinger
      · exact nomatch hfinger
      · exact nomatch Except.ok.inj hfinger

/-- Once the start was accepted, both functions report only what the match saw. -/
theorem sound_of_accepted {setup : Setup} {stop : Bool} {prior : Prior φ} {x : Exchange φ}
    {result : Value φ} (h : probeResult setup stop prior x = .ok result)
    (haccepted : Accepted result) : Sound setup (matchResults setup stop x) result := by
  refine ⟨fun target hverdict => ⟨haccepted, ?_⟩, fun name hfinger => ?_⟩
  · obtain ⟨p, d, v, hhead, hd, hv, hreports⟩ := verdictFromResult_match h hverdict
    obtain ⟨hreports, hselected⟩ := (reportsMatch_iff hd hv target).mp hreports
    refine ⟨d, List.mem_of_head? hhead, hreports, fun hsome => summary_selected hd hv ?_⟩
    cases target with
    | none => exact nomatch hsome
    | some finger => exact hselected
  · obtain ⟨p, d, v, hhead, hd, hv, hnamed⟩ := resolved_any_first h hfinger
    obtain ⟨hreports, all, hgate, hresolve⟩ := namedFinger_ok hd hv hnamed
    exact ⟨(verdict_match_iff h).mpr ⟨d, hhead, hreports⟩, haccepted, all, hgate, d,
      List.mem_of_head? hhead, hreports, hresolve⟩

/-- **Soundness of a printed result**: it holds exactly when the start command was accepted, or when
    the first match result does not report an enrolled finger.  A rejected start is looked at only
    after the callbacks. -/
theorem probe_sound_iff {setup : Setup} {stop : Bool} {prior : Prior φ} {x : Exchange φ}
    {result : Value φ} (h : probeResult setup stop prior x = .ok result) :
    Sound setup (matchResults setup stop x) result ↔
      matchStarted x.startReply = true ∨ ¬ FirstReports setup (matchResults setup stop x) := by
  obtain ⟨-, hnoError, hmark, -⟩ := probeResult_ok h
  constructor
  · intro hsound
    by_contra hcontra
    obtain ⟨hrejected, hfirst⟩ := not_or.mp hcontra
    have haccepted := (hsound.verdict none ((verdict_match_iff h).mpr (not_not.mp hfirst))).1
    rw [haccepted.unmarked] at hmark
    exact hrejected (by simpa using hmark.symm)
  · rintro (hstarted | hquiet)
    · exact sound_of_accepted h ⟨by rw [hmark, hstarted]; rfl, hnoError⟩
    · -- nothing is reported, so neither function says anything that would need a start
      refine ⟨fun target hverdict => absurd ?_ hquiet, fun name hfinger => absurd ?_ hquiet⟩
      · obtain ⟨p, d, v, hhead, hd, hv, hreports⟩ := verdictFromResult_match h hverdict
        exact ⟨d, hhead, ((reportsMatch_iff hd hv target).mp hreports).1⟩
      · obtain ⟨p, d, v, hhead, hd, hv, hnamed⟩ := resolved_any_first h hfinger
        exact ⟨d, hhead, (namedFinger_ok hd hv hnamed).1⟩

end Verdict

/-! ### A rejected start -/

/-- One enrolled identity of user 501. -/
def sampleRecord : Bytes := [0xF5, 1, 0, 0] ++ (List.range 16).map UInt8.ofNat

def sampleSetup : Setup := ⟨[sampleRecord], 501, .unreconciled⟩

/-- The 24-byte record header of a match result. -/
def sampleHeader : Bytes := List.replicate 8 0 ++ [0x02, 0x80, 0xFF, 0xE3] ++ List.replicate 12 0

/-- Event data that carries the enrolled UUID. -/
def sampleMatch : Bytes := recordUuid sampleRecord ++ List.replicate 0xC60 0

/-- The match result arrives before the start command is answered. -/
def sampleExchange (status : Int) : Exchange Empty where
  startReply := .list [.int status]
  startEvents := [.serviceStatus (.int 0) (some (sampleHeader ++ sampleMatch))]
  waiting := []
  cancelReply := .list [.int 0]
  cancelEvents := []
  postUserReply := .none
  postUserEvents := []
  postGlobalReply := .none
  postGlobalEvents := []
  componentsAfter := .ok []

def samplePrior : Prior Empty := ⟨[], by simp⟩

theorem firstReports_sample (status : Int) :
    FirstReports sampleSetup (matchResults sampleSetup true (sampleExchange status)) := by
  have hdata : matchResultData (φ := Empty)
      (.serviceStatus (.int 0) (some (sampleHeader ++ sampleMatch))) = some sampleMatch :=
    matchResultData_append (by decide) (by decide)
  refine ⟨sampleMatch, ?_, ?_, by rfl⟩
  · unfold matchResults matchEvents
    rw [List.append_assoc, sampleExchange, List.singleton_append, List.filterMap_cons_some hdata]
    rfl
  · rw [sampleMatch, List.length_append, List.length_replicate]
    decide

/-- A printed result of a rejected start reads as `verify-match`. -/
theorem rejected_sample : ∃ result,
    probeResult sampleSetup true samplePrior (sampleExchange 1) = .ok result ∧
    verdictFromResult result none = .ok verdictMatch ∧
    (result.get "match_rejected").isTrue = true ∧
    ¬ Sound sampleSetup (matchResults sampleSetup true (sampleExchange 1)) result := by
  obtain ⟨result, hresult⟩ :=
    probeResult_unreconciled sampleSetup rfl (by decide) true samplePrior
      (sampleExchange 1)
  have hmark : (result.get "match_rejected").isTrue = true := (probeResult_ok hresult).2.2.1
  have hverdict := (verdict_match_iff hresult).mpr (firstReports_sample 1)
  refine ⟨result, hresult, hverdict, hmark, fun hsound => ?_⟩
  rw [(hsound.verdict none hverdict).1.unmarked] at hmark
  exact nomatch hmark

/-- The same exchange with an accepted start is sound. -/
theorem probe_sound_sample : ∃ result,
    probeResult sampleSetup true samplePrior (sampleExchange 0) = .ok result ∧
    Sound sampleSetup (matchResults sampleSetup true (sampleExchange 0)) result := by
  obtain ⟨result, hresult⟩ :=
    probeResult_unreconciled sampleSetup rfl (by decide) true samplePrior
      (sampleExchange 0)
  exact ⟨result, hresult, (probe_sound_iff hresult).mpr (.inl rfl)⟩

end T2TouchId.Fprint
