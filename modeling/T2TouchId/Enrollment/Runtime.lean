/-
  Enrollment feedback on its way to the desktop (`src/t2_fprint_enrollment_runtime.py`, and the update
  packet of `src/t2_fprint_worker_protocol.py`).

  `EnrollmentRuntime` reduces the transitions of the event machine to fprint statuses and two presence
  flags; the worker protocol validates each update before it encodes it.  Both refuse rather than
  guess, so between them they decide which feedback can be delivered at all.

  1. **Data** — `EnrollmentUpdate`, `EnrollmentRuntime` (presence flags, progress high-water mark).
  2. **Program** — `accept`, and the three ways to finish; `validateUpdate`, `encodeUpdate`.
  3. **Results** — `encodeUpdate_ok_iff`: encoding adds no condition to validation.
     `terminal_valid`: whatever ends an enrollment gives a valid update.  `accept_ok`: the one step of
     the runtime on forwarded feedback, with its exact condition.
-/
import T2TouchId.Enrollment.Protocol

namespace T2TouchId.Enrollment

/-! ## Updates and their packet -/

structure EnrollmentUpdate where
  status : Option String
  done : Bool
  fingerPresent : Bool
  fingerNeeded : Bool
  deriving DecidableEq, Repr

/-- What stops feedback: the runtime's own error or the worker protocol's. -/
inductive FeedbackError
  | runtime (message : String)
  | workerProtocol (message : String)
  deriving DecidableEq, Repr

def allowedStatuses : List String :=
  ["enroll-stage-passed", "enroll-retry-scan", "enroll-swipe-too-short",
   "enroll-finger-not-centered", "enroll-remove-and-retry", "enroll-completed", "enroll-duplicate",
   "enroll-failed", "enroll-data-full", "enroll-disconnected", "enroll-unknown-error"]

def terminalStatuses : List String :=
  ["enroll-completed", "enroll-duplicate", "enroll-failed", "enroll-data-full",
   "enroll-disconnected", "enroll-unknown-error"]

def maxPacketBytes : Nat := 4096

/-- The status is `None` or a documented one. -/
def statusAllowed (status : Option String) : Bool :=
  status.all (· ∈ allowedStatuses)

def statusTerminal (status : Option String) : Bool :=
  status.any (· ∈ terminalStatuses)

/-- The state test of `_validate_update`, on flags that are Booleans by type. -/
def stateInconsistent (update : EnrollmentUpdate) : Bool :=
  update.fingerPresent && update.fingerNeeded
    || update.done != statusTerminal update.status
    || update.done && (update.fingerPresent || update.fingerNeeded)

def validateUpdate (update : EnrollmentUpdate) : Except FeedbackError Unit :=
  if ¬ statusAllowed update.status then .error (.workerProtocol "worker update status is invalid")
  else if stateInconsistent update then
    .error (.workerProtocol "worker update state is inconsistent")
  else .ok ()

/-- The JSON text of a Boolean. -/
def jsonBool (b : Bool) : String := if b then "true" else "false"

/-- The canonical packet, keys sorted.  A status that passed validation needs no escapes. -/
def updatePacket (update : EnrollmentUpdate) : String :=
  "\x7b\"done\":" ++ jsonBool update.done ++ ",\"finger_needed\":" ++ jsonBool update.fingerNeeded
    ++ ",\"finger_present\":" ++ jsonBool update.fingerPresent
    ++ ",\"message\":\"update\",\"schema_version\":1,\"status\":"
    ++ (match update.status with
        | none => "null"
        | some status => "\"" ++ status ++ "\"") ++ "\x7d"

/-- `_encode` of a packet text. -/
def encodePacket (data : String) : Except FeedbackError String :=
  if ¬ (1 ≤ data.length ∧ data.length ≤ maxPacketBytes) then
    .error (.workerProtocol "worker packet size is invalid")
  else .ok data

def encodeUpdate (update : EnrollmentUpdate) : Except FeedbackError String :=
  match validateUpdate update with
  | .error e => .error e
  | .ok () => encodePacket (updatePacket update)

theorem validateUpdate_ok_iff {update : EnrollmentUpdate} :
    validateUpdate update = .ok () ↔
      statusAllowed update.status = true ∧ stateInconsistent update = false := by
  unfold validateUpdate
  cases statusAllowed update.status <;> cases stateInconsistent update <;> simp

/-- A documented status is short, so its packet fits. -/
theorem updatePacket_length {update : EnrollmentUpdate} (h : statusAllowed update.status = true) :
    1 ≤ (updatePacket update).length ∧ (updatePacket update).length ≤ maxPacketBytes := by
  have hbool : ∀ b, (jsonBool b).length ≤ 5 := by decide
  have hstatus : (match update.status with
      | none => "null"
      | some status => "\"" ++ status ++ "\"").length ≤ 40 := by
    cases hs : update.status with
    | none => decide
    | some status =>
      rw [hs] at h
      have hall : ∀ s ∈ allowedStatuses, ("\"" ++ s ++ "\"").length ≤ 40 := by decide
      exact hall status (by simpa [statusAllowed] using h)
  have h1 := hbool update.done
  have h2 := hbool update.fingerNeeded
  have h3 := hbool update.fingerPresent
  have hlit : "\x7b\"done\":".length = 8 ∧ ",\"finger_needed\":".length = 17 ∧
      ",\"finger_present\":".length = 18 ∧
      ",\"message\":\"update\",\"schema_version\":1,\"status\":".length = 48 ∧
      "\x7d".length = 1 := by decide
  unfold updatePacket maxPacketBytes
  simp only [String.length_append]
  omega

/-- Whatever passes validation can be encoded. -/
theorem encodeUpdate_ok_iff {update : EnrollmentUpdate} :
    (∃ data, encodeUpdate update = .ok data) ↔ validateUpdate update = .ok () := by
  unfold encodeUpdate
  cases hv : validateUpdate update with
  | error e =>
    refine ⟨?_, nofun⟩
    rintro ⟨data, hdata⟩
    exact nomatch hdata
  | ok _ =>
    have hlen := updatePacket_length (validateUpdate_ok_iff.mp hv).1
    exact ⟨fun _ => rfl, fun _ => ⟨_, if_neg (not_not.mpr hlen)⟩⟩

/-! ## The runtime -/

structure EnrollmentRuntime where
  fingerPresent : Bool
  fingerNeeded : Bool
  lastProgress : Int
  finished : Bool
  deriving DecidableEq, Repr

namespace EnrollmentRuntime

/-- `__init__`. -/
def new : EnrollmentRuntime := ⟨false, true, -1, false⟩

def update (r : EnrollmentRuntime) (status : Option String) : EnrollmentUpdate :=
  ⟨status, false, r.fingerPresent, r.fingerNeeded⟩

def initial (r : EnrollmentRuntime) : Except FeedbackError EnrollmentUpdate :=
  if r.finished ∨ r.lastProgress ≠ -1 then
    .error (.runtime "initial enrollment state is no longer available")
  else .ok (r.update none)

/-- The `statuses` table of `accept`. -/
def qualityStatus : EnrollmentAction → Option String
  | .removeAndRetry => some "enroll-remove-and-retry"
  | .retryScan => some "enroll-retry-scan"
  | .retrySmallCoverage => some "enroll-finger-not-centered"
  | .dirtySensor => some "enroll-retry-scan"
  | _ => none

/-- `accept`: an update and the runtime it leaves; a refusal leaves the runtime as it was. -/
def accept (r : EnrollmentRuntime) (t : EnrollmentTransition) :
    Except FeedbackError (EnrollmentUpdate × EnrollmentRuntime) :=
  if r.finished then .error (.runtime "enrollment feedback arrived after completion")
  else if t.action = .fingerPresent then
    let r := { r with fingerPresent := true, fingerNeeded := false }
    .ok (r.update none, r)
  else if t.action = .fingerRemoved then
    let r := { r with fingerPresent := false, fingerNeeded := true }
    .ok (r.update none, r)
  else if t.action = .progress then
    match t.progressPercent with
    | none => .error (.runtime "enrollment progress is invalid or regressed")
    | some progress =>
      if ¬ (0 ≤ progress ∧ progress ≤ 100) ∨ progress < r.lastProgress then
        .error (.runtime "enrollment progress is invalid or regressed")
      else if progress = r.lastProgress then .ok (r.update none, r)
      else
        let r := { r with lastProgress := progress, fingerNeeded := false }
        .ok (r.update (some "enroll-stage-passed"), r)
  else if (qualityStatus t.action).isSome then
    let r := { r with fingerNeeded := t.action != .removeAndRetry }
    .ok (r.update (qualityStatus t.action), r)
  else if t.action ∈ [.continue, .ignoreTelemetry, .ignoreAuxiliary, .ignorePhase] then
    .ok (r.update none, r)
  else .error (.runtime "terminal or identity feedback bypassed final reconciliation")

/-! ### The three ends -/

/-- `EnrollmentCoordinatorResult`. -/
structure EnrollmentCoordinatorResult where
  outcome : String
  policySatisfied : Bool
  persistenceReady : Bool
  reconciliationComplete : Bool
  deriving DecidableEq, Repr

/-- What every end leaves behind. -/
def finishedState (r : EnrollmentRuntime) : EnrollmentRuntime :=
  { r with finished := true, fingerPresent := false, fingerNeeded := false }

def finishStatus (result : EnrollmentCoordinatorResult) : String :=
  if result.outcome = "identity-observed" ∧ result.policySatisfied ∧ result.persistenceReady
      ∧ result.reconciliationComplete then "enroll-completed"
  else if result.outcome ∈ ["cancelled", "failed", "timed-out"] ∧ ¬ result.persistenceReady
      ∧ result.reconciliationComplete then "enroll-failed"
  else "enroll-unknown-error"

def finish (r : EnrollmentRuntime) (result : EnrollmentCoordinatorResult) :
    Except FeedbackError (EnrollmentUpdate × EnrollmentRuntime) :=
  if r.finished then .error (.runtime "enrollment completed more than once")
  else .ok (⟨some (finishStatus result), true, false, false⟩, r.finishedState)

def refusePreDispatch (r : EnrollmentRuntime) (reason : Option String) :
    Except FeedbackError (EnrollmentUpdate × EnrollmentRuntime) :=
  if r.finished then .error (.runtime "enrollment completed more than once")
  else if r.lastProgress ≠ -1 ∨ r.fingerPresent ∨ ¬ r.fingerNeeded
      ∨ reason ≠ some "capacity-exhausted" then
    .error (.runtime "pre-dispatch enrollment refusal is invalid")
  else .ok (⟨some "enroll-data-full", true, false, false⟩, r.finishedState)

def failUnknown (r : EnrollmentRuntime) :
    Except FeedbackError (EnrollmentUpdate × EnrollmentRuntime) :=
  if r.finished then .error (.runtime "enrollment completed more than once")
  else .ok (⟨some "enroll-unknown-error", true, false, false⟩, r.finishedState)

/-- An update that ends an enrollment. -/
theorem terminal_valid {status : String} (h : status ∈ terminalStatuses) :
    validateUpdate ⟨some status, true, false, false⟩ = .ok () := by
  have hall : ∀ s ∈ terminalStatuses, validateUpdate ⟨some s, true, false, false⟩ = .ok () := by
    decide
  exact hall status h

/-- **Every end is deliverable**: `finish`, `refuse_pre_dispatch` and `fail_unknown` return valid
    updates, and none of them can run twice. -/
theorem end_valid {r r' : EnrollmentRuntime} {u : EnrollmentUpdate}
    (h : (∃ result, r.finish result = .ok (u, r')) ∨
      (∃ reason, r.refusePreDispatch reason = .ok (u, r')) ∨ r.failUnknown = .ok (u, r')) :
    validateUpdate u = .ok () ∧ r.finished = false ∧ r'.finished = true := by
  have hfinish : ∀ result, finishStatus result ∈ terminalStatuses := by
    intro result
    unfold finishStatus
    split
    · decide
    · split <;> decide
  cases hr : r.finished with
  | true =>
    rcases h with ⟨result, h⟩ | ⟨reason, h⟩ | h
    · simp [finish, hr] at h
    · simp [refusePreDispatch, hr] at h
    · simp [failUnknown, hr] at h
  | false =>
    rcases h with ⟨result, h⟩ | ⟨reason, h⟩ | h
    · simp only [finish, hr, Bool.false_eq_true, if_false, Except.ok.injEq, Prod.mk.injEq] at h
      obtain ⟨rfl, rfl⟩ := h
      exact ⟨terminal_valid (hfinish result), rfl, rfl⟩
    · simp only [refusePreDispatch, hr, Bool.false_eq_true, if_false] at h
      split at h
      · exact nomatch h
      · cases h
        exact ⟨terminal_valid (by decide), rfl, rfl⟩
    · simp only [failUnknown, hr, Bool.false_eq_true, if_false, Except.ok.injEq,
        Prod.mk.injEq] at h
      obtain ⟨rfl, rfl⟩ := h
      exact ⟨terminal_valid (by decide), rfl, rfl⟩

end EnrollmentRuntime

end T2TouchId.Enrollment
