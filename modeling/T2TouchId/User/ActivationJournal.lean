/-
  The journal of one activation of a mapped user (`src/t2_user_activation_journal.py`).

  An activation loads a keybag, binds it to the alias of the user, and unlocks it; where the alias is there
  already, it only unlocks.  It is stopped with a reason, or its outcome is unknown, and then one recovery
  says what was observed.

  1. **Data** — `UserActivationPhase`, and `State`: the local variables of `validate_history`.
  2. **Program** — one definition for each branch of the loop, `State.step`, `validateHistory`; the baseline
     that `create` writes.
-/
import T2TouchId.Journal.Checked
import T2TouchId.User.Readiness

set_option linter.unusedSectionVars false

namespace T2TouchId.User.Activation

open T2TouchId.Python T2TouchId.Python.Json T2TouchId.Journal

/-- `UserActivationPhase`. -/
inductive UserActivationPhase
  | baseline
  | loadIntent
  | handleObserved
  | bindIntent
  | aliasObserved
  | unlockIntent
  | ready
  | stopped
  | outcomeUnknown
  | recoveredReady
  | recoveredNotReady
  | recoveryBlocked
  | quarantined
  deriving DecidableEq

inductive Milestone
  | loadIntent
  | handleObserved
  | bindIntent
  | aliasObserved
  | unlockIntent
  | ready
  | stopped
  | outcomeUnknown
  | recoveryObserved
  deriving DecidableEq

def milestones : List (String × Milestone) :=
  [("USER_KEYBAG_LOAD_INTENT", .loadIntent),
   ("USER_KEYBAG_HANDLE_OBSERVED", .handleObserved),
   ("USER_ALIAS_BIND_INTENT", .bindIntent),
   ("USER_ALIAS_OBSERVED", .aliasObserved),
   ("USER_ALIAS_UNLOCK_INTENT", .unlockIntent),
   ("USER_ACTIVATION_READY", .ready),
   ("USER_ACTIVATION_STOPPED", .stopped),
   ("USER_ACTIVATION_OUTCOME_UNKNOWN", .outcomeUnknown),
   ("USER_ACTIVATION_RECOVERY_OBSERVED", .recoveryObserved)]

section History

variable {φ : Type}

def milestoneOf (value : Value φ) : Option Milestone :=
  (milestones.find? fun m => value.isStr (py m.1)).map Prod.snd

/-- The local variables of `validate_history`. -/
structure State (φ : Type) where
  operationId : Value φ
  baseline : Value φ
  phase : UserActivationPhase := .baseline
  temporaryHandle : Option Int := none
  terminalStage : Option (Value φ) := none
  terminalReason : Option (Value φ) := none
  terminalFromPhase : Option UserActivationPhase := none

variable [JsonFloat φ]

/-! ## The tests of the fields -/

/-- `_uint`. -/
def boundedUint (value : Value φ) (field : String) (minimum : Int) : Check φ Int := do
  reject (¬ isIntIn minimum 0xFFFFFFFF value) (field ++ " is not a bounded integer")
  return intOf value

/-- `_status`. -/
def boundedStatus (value : Value φ) (field : String) : Check φ Unit :=
  if isNone value then .ok ()
  else reject (¬ isIntIn (-(2 ^ 31)) (2 ^ 32 - 1) value) (field ++ " is not a bounded status")

/-- What the command reported stands beside what was observed; one that raised has no status. -/
def raisedWithStatus (evidence : Value φ) : Bool :=
  !isBool (evidence.get "command_raised")
    || ((evidence.get "command_raised").isTrue && !isNone (evidence.get "command_status"))

/-! ## The baseline -/

def baselineFields : List String :=
  ["account_uuid", "alias_preexisting", "apple_uid", "bag_uuid", "capability", "initial_state",
   "keybag_sha256", "linux_boot_uuid", "mapping_generation", "runtime_generation", "special_alias",
   "target_linux_uid"]

/-- The states that an activation starts from. -/
def actionableStates : List String := ["alias-absent", "device-locked", "before-first-unlock"]

/-- `_validate_baseline`. -/
def validateBaseline (baseline : Value φ) : Check φ Unit := do
  exactFields baseline baselineFields "activation baseline"
  requireAll requireSha256 baseline ["mapping_generation", "keybag_sha256"]
  requireAll requireUuid baseline ["linux_boot_uuid", "runtime_generation", "account_uuid", "bag_uuid"]
  let _ ← boundedUint (baseline.get "target_linux_uid") "target Linux UID" 1
  let appleUid ← boundedUint (baseline.get "apple_uid") "Apple UID" 10
  reject (differ (baseline.get "special_alias") (.int (-appleUid)))
    "special alias is not derived from Apple UID"
  let supported ← isIn (baseline.get "capability") capabilityNames
  reject (¬ supported) "activation capability is unsupported"
  let actionable ← isIn (baseline.get "initial_state") actionableStates
  reject (¬ actionable) "activation baseline is not actionable"
  reject (¬ isBool (baseline.get "alias_preexisting")
      ∨ (baseline.get "alias_preexisting").isTrue =
        (baseline.get "initial_state").isStr (py "alias-absent"))
    "activation alias provenance is inconsistent"

namespace State

/-! ## The branches of the loop -/

/-- The evidence is of the runtime generation of the baseline. -/
def generationChanged (st : State φ) (evidence : Value φ) : Bool :=
  differ (evidence.get "runtime_generation") (st.baseline.get "runtime_generation")

/-- The alias was there before the activation. -/
def aliasPreexisting (st : State φ) : Bool := (st.baseline.get "alias_preexisting").isTrue

/-- `USER_KEYBAG_LOAD_INTENT`. -/
def loadIntent (st : State φ) (evidence : Value φ) : Check φ (State φ) := do
  reject (st.phase ≠ .baseline ∨ st.aliasPreexisting) "keybag load intent is out of order"
  exactFields evidence ["keybag_sha256", "mutation_possible", "runtime_generation"]
    "USER_KEYBAG_LOAD_INTENT"
  reject (st.generationChanged evidence
      ∨ differ (evidence.get "keybag_sha256") (st.baseline.get "keybag_sha256")
      ∨ ¬ (evidence.get "mutation_possible").isTrue)
    "keybag load intent is not bound"
  return { st with phase := .loadIntent }

/-- `USER_KEYBAG_HANDLE_OBSERVED`. -/
def handleObserved (st : State φ) (evidence : Value φ) : Check φ (State φ) := do
  reject (st.phase ≠ .loadIntent) "keybag handle observation is out of order"
  exactFields evidence ["bag_uuid_matches", "handle", "runtime_generation"]
    "USER_KEYBAG_HANDLE_OBSERVED"
  let handle ← boundedUint (evidence.get "handle") "temporary handle" 1
  reject (st.generationChanged evidence ∨ ¬ (evidence.get "bag_uuid_matches").isTrue)
    "loaded handle did not reconcile"
  return { st with temporaryHandle := some handle, phase := .handleObserved }

/-- `temporary_handle`. -/
def handleValue (st : State φ) : Value φ :=
  match st.temporaryHandle with
  | some handle => .int handle
  | none => .none

/-- `USER_ALIAS_BIND_INTENT`. -/
def bindIntent (st : State φ) (evidence : Value φ) : Check φ (State φ) := do
  reject (st.phase ≠ .handleObserved) "alias bind intent is out of order"
  exactFields evidence ["handle", "mutation_possible", "runtime_generation", "special_alias"]
    "USER_ALIAS_BIND_INTENT"
  reject (st.generationChanged evidence
      ∨ differ (evidence.get "handle") st.handleValue
      ∨ differ (evidence.get "special_alias") (st.baseline.get "special_alias")
      ∨ ¬ (evidence.get "mutation_possible").isTrue)
    "alias bind intent is not bound"
  return { st with phase := .bindIntent }

/-- The alias is that of the baseline, and the sensor holds the bag and the account of the mapping. -/
def aliasUnreconciled (st : State φ) (evidence : Value φ) : Bool :=
  st.generationChanged evidence
    || differ (evidence.get "special_alias") (st.baseline.get "special_alias")
    || !(evidence.get "bag_uuid_matches").isTrue
    || !(evidence.get "account_uuid_matches").isTrue

/-- `USER_ALIAS_OBSERVED`. -/
def aliasObserved (st : State φ) (evidence : Value φ) : Check φ (State φ) := do
  reject (st.phase ≠ .bindIntent) "alias observation is out of order"
  exactFields evidence
    ["account_uuid_matches", "bag_uuid_matches", "command_raised", "command_status",
     "runtime_generation", "special_alias"]
    "USER_ALIAS_OBSERVED"
  boundedStatus (evidence.get "command_status") "alias command status"
  reject (st.aliasUnreconciled evidence ∨ raisedWithStatus evidence)
    "alias observation did not reconcile"
  return { st with phase := .aliasObserved }

/-- `USER_ALIAS_UNLOCK_INTENT`. -/
def unlockIntent (st : State φ) (evidence : Value φ) : Check φ (State φ) := do
  reject (st.phase ≠ .baseline ∧ st.phase ≠ .aliasObserved) "alias unlock intent is out of order"
  reject (st.phase = .baseline ∧ ¬ st.aliasPreexisting) "absent alias cannot be unlocked"
  exactFields evidence ["mutation_possible", "runtime_generation", "special_alias"]
    "USER_ALIAS_UNLOCK_INTENT"
  reject (st.generationChanged evidence
      ∨ differ (evidence.get "special_alias") (st.baseline.get "special_alias")
      ∨ ¬ (evidence.get "mutation_possible").isTrue)
    "alias unlock intent is not bound"
  return { st with phase := .unlockIntent }

/-- `"bind-readback"` or `"unlock-readback"`. -/
def readySource (st : State φ) : String :=
  if st.phase = .aliasObserved then "bind-readback" else "unlock-readback"

/-- `USER_ACTIVATION_READY`. -/
def readyObserved (st : State φ) (evidence : Value φ) : Check φ (State φ) := do
  reject (st.phase ≠ .aliasObserved ∧ st.phase ≠ .unlockIntent) "ready observation is out of order"
  exactFields evidence
    ["account_uuid_matches", "bag_uuid_matches", "command_raised", "command_status",
     "readiness_state", "runtime_generation", "source", "special_alias"]
    "USER_ACTIVATION_READY"
  boundedStatus (evidence.get "command_status") "unlock command status"
  reject (st.aliasUnreconciled evidence
      ∨ ¬ (evidence.get "readiness_state").isStr (py "ready")
      ∨ ¬ (evidence.get "source").isStr (py st.readySource)
      ∨ raisedWithStatus evidence)
    "ready observation is invalid"
  return { st with phase := .ready }

/-- The stages at which an activation may stop in a phase. -/
def stages : UserActivationPhase → Option (List String)
  | .loadIntent => some ["load", "handle"]
  | .handleObserved => some ["handle", "bind"]
  | .bindIntent => some ["bind", "readback"]
  | .aliasObserved => some ["bind", "unlock", "readback"]
  | .unlockIntent => some ["unlock", "readback"]
  | _ => none

/-- `USER_ACTIVATION_STOPPED` and `USER_ACTIVATION_OUTCOME_UNKNOWN`. -/
def terminal (st : State φ) (milestone : String) (phase : UserActivationPhase) (evidence : Value φ) :
    Check φ (State φ) :=
  match stages st.phase with
  | none => fail (py "activation stop is out of order")
  | some stages => do
    exactFields evidence ["mutation_possible", "reason", "runtime_generation", "stage"] milestone
    reject (st.generationChanged evidence) "activation stop evidence is invalid"
    let known ← isIn (evidence.get "stage") stages
    reject (¬ known ∨ ¬ isText (evidence.get "reason") ∨ ¬ (evidence.get "mutation_possible").isTrue)
      "activation stop evidence is invalid"
    return { st with
      terminalStage := some (evidence.get "stage"), terminalReason := some (evidence.get "reason"),
      terminalFromPhase := some st.phase, phase }

/-! ## Recovery -/

/-- The alias is there, with the bag and the account of the mapping. -/
def aliasMatches (evidence : Value φ) : Bool :=
  (evidence.get "alias_present").isTrue && (evidence.get "bag_uuid_matches").isTrue
    && (evidence.get "account_uuid_matches").isTrue

/-- The alias is not there. -/
def aliasGone (evidence : Value φ) : Bool :=
  isFalse (evidence.get "alias_present") && isFalse (evidence.get "bag_uuid_matches")
    && isFalse (evidence.get "account_uuid_matches")

/-- The phase that a resolution leads to. -/
def resolve (evidence : Value φ) : Check φ UserActivationPhase :=
  let resolution := evidence.get "resolution"
  let state := evidence.get "readiness_state"
  if resolution.isStr (py "ready") then do
    reject (¬ state.isStr (py "ready") ∨ ¬ aliasMatches evidence ∨ ¬ (evidence.get "match_ready").isTrue)
      "ready recovery is invalid"
    return .recoveredReady
  else if resolution.isStr (py "not-ready") then do
    let locked ← isIn state ["device-locked", "before-first-unlock", "keybag-lockout"]
    reject (¬ locked ∨ ¬ aliasMatches evidence ∨ ¬ isFalse (evidence.get "match_ready"))
      "not-ready recovery is invalid"
    return .recoveredNotReady
  else if resolution.isStr (py "blocked") then do
    reject (¬ state.isStr (py "alias-absent") ∨ ¬ aliasGone evidence
        ∨ ¬ isFalse (evidence.get "match_ready"))
      "blocked recovery is invalid"
    return .recoveryBlocked
  else if resolution.isStr (py "quarantine") then do
    reject (¬ isText state ∨ (evidence.get "match_ready").isTrue) "quarantine recovery is invalid"
    return .quarantined
  else fail (py "activation recovery resolution is unknown")

/-- `USER_ACTIVATION_RECOVERY_OBSERVED`. -/
def recoveryObserved (st : State φ) (evidence : Value φ) : Check φ (State φ) := do
  reject (st.phase ≠ .outcomeUnknown) "activation recovery is out of order"
  exactFields evidence
    ["account_uuid_matches", "alias_present", "bag_uuid_matches", "match_ready", "mutation_performed",
     "readiness_state", "resolution", "runtime_generation"]
    "USER_ACTIVATION_RECOVERY_OBSERVED"
  requireUuid (evidence.get "runtime_generation") "recovery runtime generation"
  reject (¬ st.generationChanged evidence
      ∨ ¬ isBool (evidence.get "alias_present")
      ∨ ¬ isBool (evidence.get "bag_uuid_matches")
      ∨ ¬ isBool (evidence.get "account_uuid_matches")
      ∨ ¬ isBool (evidence.get "match_ready")
      ∨ ¬ isFalse (evidence.get "mutation_performed"))
    "activation recovery evidence is invalid"
  let phase ← resolve evidence
  return { st with phase }

/-! ## One record -/

/-- What a milestone does. -/
def apply (st : State φ) (evidence : Value φ) : Milestone → Check φ (State φ)
  | .loadIntent => st.loadIntent evidence
  | .handleObserved => st.handleObserved evidence
  | .bindIntent => st.bindIntent evidence
  | .aliasObserved => st.aliasObserved evidence
  | .unlockIntent => st.unlockIntent evidence
  | .ready => st.readyObserved evidence
  | .stopped => st.terminal "USER_ACTIVATION_STOPPED" .stopped evidence
  | .outcomeUnknown => st.terminal "USER_ACTIVATION_OUTCOME_UNKNOWN" .outcomeUnknown evidence
  | .recoveryObserved => st.recoveryObserved evidence

/-- The body of the loop. -/
def step (st : State φ) (record : Value φ) : Check φ (State φ) := do
  reject (differ (record.get "operation_id") st.operationId)
    "operation ID changed in activation journal"
  match milestoneOf (record.get "milestone") with
  | some milestone => st.apply (record.get "evidence") milestone
  | none =>
    -- on the way the milestone was compared with the elements of a set
    if isHashable (record.get "milestone") then fail (py "unknown activation journal milestone")
    else .error .typeError

end State

/-- The state that the first record gives. -/
def start (first : Value φ) : Check φ (State φ) := do
  reject (¬ (first.get "milestone").isStr (py "USER_ACTIVATION_BASELINE"))
    "activation journal has no baseline"
  let initial := first.get "evidence"
  exactFields initial ["baseline", "operation_kind"] "baseline"
  reject (¬ (initial.get "operation_kind").isStr (py "user-activation"))
    "journal is not a user activation"
  validateBaseline (initial.get "baseline")
  requireUuid (first.get "operation_id") "operation ID"
  return { operationId := first.get "operation_id", baseline := initial.get "baseline" }

/-- The first record and the loop. -/
def run : List (Value φ) → Check φ (State φ) := journalRun "activation journal is empty" start State.step

/-- `UserActivationHistory`. -/
structure UserActivationHistory (φ : Type) extends State φ where
  recordCount : Nat
  headHash : Value φ

/-- `records[-1].get("record_hash", "")`. -/
def headHashOf (records : List (Value φ)) : Value φ :=
  ((records.getLast?.bind (·.get? "record_hash"))).getD (.str [])

/-- `validate_history`. -/
def validateHistory (records : List (Value φ)) : Check φ (UserActivationHistory φ) := do
  let st ← run records
  return { st with recordCount := records.length, headHash := headHashOf records }

/-- How the journal appends. -/
def typedJournal : TypedJournal φ (UserActivationHistory φ) where
  validate := validateHistory
  operationId history := history.operationId
  recordCount := UserActivationHistory.recordCount
  headHash := UserActivationHistory.headHash
  triesCandidate := true
  otherOperation := "operation ID does not match activation journal"
  messages := none

end History

end T2TouchId.User.Activation
