/-
  The activation of a mapped user (`src/t2_user_activation_operation.py`).

  One call of `run` loads the keybag of the user, binds it to the alias and unlocks it; where the alias is
  there already, it only unlocks.  Each command stands behind an intent in the journal and before an
  observation of the alias; where anything fails behind the first intent, the operation journals that it was
  stopped or that its outcome is unknown, and raises.

  1. **Data** — `Command` with its answers; `Password`, the variable that outlives every exception; the
     arguments of `run` as the record `UserActivation`.
  2. **Program** — `terminal`, `appendAfterMutation`, `commandAndReadback` are the functions of these names;
     `run` is cut into one definition for each of its blocks.

  An awaitable that a command returns is raised on, so it counts as an exception.
-/
import T2TouchId.User.ActivationSteps
import T2TouchId.User.Policy

set_option linter.unusedSectionVars false

namespace T2TouchId.User.Activation

open T2TouchId.Calls T2TouchId.Python T2TouchId.Python.Json T2TouchId.Journal

section Operation

variable {φ : Type} [JsonFloat φ]

/-! ## Commands -/

/-- The calls of the clock, of the transport, and of the journal that does not exist yet. -/
inductive Command (φ : Type)
  | clock
  | observeAlias (specialAlias : Int)
  | loadKeybag (keybagPath : PyStr)
  | bagUuid (handle : Int)
  | bindAlias (handle specialAlias : Int)
  | unlockAlias (specialAlias : Int) (password : Bytes)
  /-- The exclusive append of the first record, and the read behind it. -/
  | createJournal (operationId : PyStr) (evidence : Value φ)

@[reducible] def CommandAnswer : Command φ → Type
  | .clock | .loadKeybag _ | .bagUuid _ | .bindAlias _ _ | .unlockAlias _ _ => Answer (Value φ)
  | .observeAlias _ => Observation φ
  | .createJournal _ _ => Except (Failure φ) (UserActivationHistory φ)

/-- The argument `password`. -/
inductive Password
  | none
  | bytearray (bytes : Bytes)
  /-- Anything else. -/
  | other

/-- `password[:] = b"\x00" * len(password)`, of a `bytearray`. -/
def Password.wipe : Password → Password
  | .bytearray bytes => .bytearray (List.replicate bytes.length 0)
  | password => password

/-- What `run` raises. -/
inductive OperationError (φ : Type)
  /-- `UserActivationOperationError`. -/
  | operation (message : String)
  /-- What the journal raised, and is not turned into another error. -/
  | storage (failure : Failure φ)
  /-- The `TypeError` of a decision whose operation cannot be hashed. -/
  | typeError
  /-- What a call raised. -/
  | call

/-- `UserActivationOperationResult`, whose `reconciliation_required` is always `False`. -/
structure UserActivationOperationResult where
  outcome : String
  mutationPerformed : Bool
  deriving DecidableEq

/-- The arguments of `run`, without the password. -/
structure UserActivation (φ : Type) where
  set : UserMappingSet
  selected : UserMapping
  capability : PyStr
  persistent : PersistentEvidence φ
  /-- `transport.runtime_generation`. -/
  runtimeGeneration : Value φ
  authorization : UserPolicyDecision φ
  linuxBootUuid : Value φ

/-- A block of `run`; the password is its variable. -/
abbrev Method (φ : Type) [JsonFloat φ] (α : Type) : Type :=
  Client φ (UserActivationHistory φ) (CommandAnswer (φ := φ)) Password (OperationError φ) α

/-- A call, and its answer. -/
def call (command : Command φ) : Method φ (CommandAnswer command) := Client.call command

/-- What a call returned; what it raised is raised. -/
def answered {α : Type} : Answer α → Method φ α
  | .raised => Op.raise .call
  | .returned a => pure a

/-- `_append`. -/
def append (milestone : String) (evidence : Value φ) : Method φ Unit := do
  match ← Client.append milestone evidence with
  | .ok _ => pure ()
  | .error failure => Op.raise (.storage failure)

/-- `_status`. -/
def statusOf (value : Value φ) (label : String) : Except (OperationError φ) Int :=
  if isIntIn (-(2 ^ 31)) (2 ^ 32 - 1) value then .ok (intOf value)
  else .error (.operation (label ++ " returned an invalid status"))

namespace UserActivation

variable (op : UserActivation φ)

/-- `selected.special_bag_alias`. -/
def specialAlias : Int := op.selected.specialBagAlias

/-! ## Stopping -/

/-- `_terminal`; what the journal raises is dropped, and it raises in any case. -/
def terminal {α : Type} (stage reason : String) (unknown : Bool) : Method φ α := do
  let _ ← Client.append
    (if unknown then "USER_ACTIVATION_OUTCOME_UNKNOWN" else "USER_ACTIVATION_STOPPED") (members
      [("mutation_possible", .bool true), ("reason", .str (py reason)),
       ("runtime_generation", op.runtimeGeneration), ("stage", .str (py stage))])
  Op.raise (.operation ("user activation stopped at " ++ stage ++ "; "
    ++ if unknown then "reconciliation is required" else "operation stopped"))

/-- `if …: _terminal(…)`. -/
def terminalIf (p : Prop) [Decidable p] (stage reason : String) (unknown : Bool) : Method φ Unit :=
  if p then op.terminal stage reason unknown else pure ()

/-- `_append_after_mutation`. -/
def appendAfterMutation (milestone : String) (evidence : Value φ) (stage : String) : Method φ Unit :=
  (append milestone evidence).except fun _ => op.terminal stage "journal-error" true

/-- `try: … except BaseException as error: _terminal(…, unknown=True, cause=error)`. -/
def orUnknown {α : Type} (block : Method φ α) (stage reason : String) : Method φ α :=
  block.except fun _ => op.terminal stage reason true

/-! ## Observing -/

/-- `_observe`. -/
def observe : Method φ (AliasEvidence φ) := do
  match ← call (.observeAlias op.specialAlias) with
  | .returned aliased => pure aliased
  | .awaitable => Op.raise (.operation "alias observation must be synchronous")
  | .other => Op.raise (.operation "alias observation returned the wrong type")
  | .raised => Op.raise .call

/-- `t2_user_readiness.assess`, whose exceptions are all caught. -/
def assessed (observed : AliasEvidence φ) : Method φ ReadinessDecision :=
  match assess op.selected op.capability op.persistent observed with
  | .ok decision => pure decision
  | .error error => Op.raise (.operation error.message)

/-- What a command reported, and what was observed behind it. -/
structure Readback (φ : Type) where
  status : Option Int
  raised : Bool
  observed : AliasEvidence φ

/-- `_command_and_readback`. -/
def commandAndReadback (command : Method φ (Answer (Value φ))) : Method φ (Readback φ) := do
  let status ← Op.except (do
    let value ← answered (← command)
    let status ← Op.lift (statusOf value "activation command")
    return some status) fun _ => pure none
  let observed ← op.observe
  return { status, raised := status.isNone, observed }

/-- `status` as evidence. -/
def statusValue : Option Int → Value φ
  | some status => .int status
  | none => .none

/-- The evidence of `USER_ACTIVATION_READY`. -/
def readyEvidence (source : String) (readback : Readback φ) : Value φ := members
  [("account_uuid_matches", .bool true), ("bag_uuid_matches", .bool true),
   ("command_raised", .bool readback.raised), ("command_status", statusValue readback.status),
   ("readiness_state", .str (py "ready")), ("runtime_generation", op.runtimeGeneration),
   ("source", .str (py source)), ("special_alias", .int op.specialAlias)]

/-! ## The journal -/

/-- The baseline of `create`. -/
def baseline (initialState : ReadinessState) (aliasPreexisting : Value φ) : Value φ := members
  [("account_uuid", .str op.selected.accountUuid), ("alias_preexisting", aliasPreexisting),
   ("apple_uid", .int op.selected.appleUid), ("bag_uuid", .str op.selected.bagUuid),
   ("capability", .str op.capability), ("initial_state", .str (py initialState.text)),
   ("keybag_sha256", .str op.selected.keybagSha256), ("linux_boot_uuid", op.linuxBootUuid),
   ("mapping_generation", .str op.set.generation), ("runtime_generation", op.runtimeGeneration),
   ("special_alias", .int op.specialAlias), ("target_linux_uid", .int op.selected.linuxUid)]

/-- The evidence of `USER_ACTIVATION_BASELINE`. -/
def baselineEvidence (baseline : Value φ) : Value φ :=
  members [("baseline", baseline), ("operation_kind", .str (py "user-activation"))]

/-- `except UserActivationJournalError`, around `create`. -/
def createFailure (failure : Failure φ) : OperationError φ :=
  if failure.isTyped then .operation "activation preflight is not safely actionable" else .storage failure

/-- The tests of `create`, before it writes. -/
def createTests (operationId : Value φ) (decision : ReadinessDecision) (baseline : Value φ) :
    Except (OperationError φ) Unit := do
  raiseIf (decision.state ∉ activatableStates ∨ op.selected ∉ op.set.mappings ∨ op.set.generation = [])
    (.operation "activation preflight is not safely actionable")
  (do validateBaseline baseline
      requireUuid operationId "operation ID").mapError fun error => createFailure (.typed error)

/-- `create`, with the handler around it. -/
def create (operationId : Value φ) (before : AliasEvidence φ) : Method φ Unit := do
  let decision ← op.assessed before
  let baseline := op.baseline decision.state before.present
  Op.lift (op.createTests operationId decision baseline)
  match ← call (.createJournal (strOf operationId) (baselineEvidence baseline)) with
  | .ok _ => pure ()
  | .error failure => Op.raise (createFailure failure)

/-! ## Loading and binding -/

/-- A handle of `load_keybag`. -/
def handleOf (value : Value φ) : Except (OperationError φ) Int :=
  if isIntIn 1 0xFFFFFFFF value then .ok (intOf value)
  else .error (.operation "keybag load returned an invalid handle")

/-- From the intent to load up to the intent to bind. -/
def load : Method φ Int := do
  append "USER_KEYBAG_LOAD_INTENT" (members
    [("keybag_sha256", .str op.selected.keybagSha256), ("mutation_possible", .bool true),
     ("runtime_generation", op.runtimeGeneration)])
  let handle ← op.orUnknown (do
    let value ← answered (← call (.loadKeybag op.selected.keybagPath))
    Op.lift (handleOf value)) "load" "handle-unavailable"
  let observedBagUuid ← op.orUnknown (do answered (← call (.bagUuid handle)))
    "handle" "bag-observation-failed"
  op.terminalIf (differ observedBagUuid (.str op.selected.bagUuid) = true)
    "handle" "bag-binding-mismatch" false
  op.appendAfterMutation "USER_KEYBAG_HANDLE_OBSERVED" (members
    [("bag_uuid_matches", .bool true), ("handle", .int handle),
     ("runtime_generation", op.runtimeGeneration)]) "handle"
  op.appendAfterMutation "USER_ALIAS_BIND_INTENT" (members
    [("handle", .int handle), ("mutation_possible", .bool true),
     ("runtime_generation", op.runtimeGeneration), ("special_alias", .int op.specialAlias)]) "bind"
  return handle

/-- The states that a bind is stopped with. -/
def unboundStates : List ReadinessState :=
  [.aliasAbsent, .aliasBindingMismatch, .persistentBindingMismatch, .unknownLockState, .catacombCorrupted]

/-- The bind, and what is observed behind it; `some` is a result that ends the operation. -/
def bind (handle : Int) : Method φ (Option UserActivationOperationResult) := do
  let readback ← op.orUnknown
    (op.commandAndReadback (call (.bindAlias handle op.specialAlias)))
    "readback" "alias-observation-failed"
  let decision ← op.orUnknown (op.assessed readback.observed) "readback" "alias-evidence-invalid"
  op.terminalIf (decision.state ∈ unboundStates)
    "bind" decision.state.text (decision.state = .aliasAbsent)
  op.appendAfterMutation "USER_ALIAS_OBSERVED" (members
    [("account_uuid_matches", .bool true), ("bag_uuid_matches", .bool true),
     ("command_raised", .bool readback.raised), ("command_status", statusValue readback.status),
     ("runtime_generation", op.runtimeGeneration), ("special_alias", .int op.specialAlias)]) "readback"
  if decision.state = .ready then do
    op.appendAfterMutation "USER_ACTIVATION_READY" (op.readyEvidence "bind-readback" readback) "readback"
    return some ⟨"ready", true⟩
  else do
    op.terminalIf (decision.state ∉ [ReadinessState.deviceLocked, .beforeFirstUnlock])
      "bind" decision.state.text false
    return none

/-! ## Unlocking -/

/-- The evidence of `USER_ALIAS_UNLOCK_INTENT`. -/
def unlockIntentEvidence : Value φ := members
  [("mutation_possible", .bool true), ("runtime_generation", op.runtimeGeneration),
   ("special_alias", .int op.specialAlias)]

/-- The unlock, behind its intent. -/
def unlock (password : Bytes) : Method φ UserActivationOperationResult := do
  let readback ← op.orUnknown
    (op.commandAndReadback (call (.unlockAlias op.specialAlias password)))
    "readback" "unlock-observation-failed"
  let final ← op.orUnknown (op.assessed readback.observed) "readback" "unlock-evidence-invalid"
  op.terminalIf (final.state ≠ .ready)
    "unlock" final.state.text (final.state ∈ [ReadinessState.aliasAbsent, .unknownLockState])
  op.appendAfterMutation "USER_ACTIVATION_READY" (op.readyEvidence "unlock-readback" readback) "readback"
  return ⟨"ready", true⟩

/-! ## The run -/

/-- Behind the creation of the journal. -/
def activate (initialState : ReadinessState) (password : Bytes) : Method φ UserActivationOperationResult := do
  if initialState = .aliasAbsent then
    let handle ← op.load
    match ← op.bind handle with
    | some result => return result
    | none => do
      op.appendAfterMutation "USER_ALIAS_UNLOCK_INTENT" op.unlockIntentEvidence "unlock"
      op.unlock password
  else do
    append "USER_ALIAS_UNLOCK_INTENT" op.unlockIntentEvidence
    op.unlock password

/-- `authorization.state == "activation-authorized"`. -/
def activationAuthorized : Bool := op.authorization.state = .activationAuthorized

/-- The use of the decision, with its handler. -/
def authorize (authorityTime : Value φ) : Except (OperationError φ) (Value φ) :=
  match requireBoundAuthority op.authorization op.set op.selected op.capability op.linuxBootUuid
      op.runtimeGeneration authorityTime op.activationAuthorized with
  | .ok operationId => .ok operationId
  | .error (.policy _) => .error (.operation "activation lacks exact caller and policy authority")
  | .error .typeError => .error .typeError

/-- The size of a password. -/
def validSize : Password → Bool
  | .bytearray bytes => 1 ≤ bytes.length && bytes.length ≤ 1024
  | _ => true

/-- The first observation of the target. -/
def preflight : Method φ (AliasEvidence φ × ReadinessDecision) :=
  Op.except (do
    let before ← op.observe
    let decision ← op.assessed before
    return (before, decision)) fun _ =>
      Op.raise (.operation "activation preflight could not establish target readiness")

/-- The password that may be wiped. -/
def wipeable : Method φ Bytes := do
  match ← Op.get with
  | .bytearray password => return password
  | _ => Op.raise (.operation "activation requires a nonempty password in wipeable storage")

/-- Up to the first record of the journal: the readiness of the target and the password, or the result
    where the target is ready. -/
def prepare : Method φ (ReadinessState × Bytes ⊕ UserActivationOperationResult) := do
  Op.lift (raiseIf (¬ isString op.runtimeGeneration) (.operation "runtime generation is invalid"))
  let authorityTime ← Op.except (do answered (← Client.call .clock)) fun _ =>
    Op.raise (.operation "authorization consumption time is unavailable")
  let operationId ← Op.lift (op.authorize authorityTime)
  Op.lift (raiseIf (¬ validSize (← Op.get))
    (.operation "activation password storage has an invalid size"))
  let (before, decision) ← op.preflight
  if decision.state = .ready then return .inr ⟨"already-ready", false⟩
  else do
    Op.lift (raiseIf (¬ op.activationAuthorized)
      (.operation "target became not-ready without separate activation authority"))
    let password ← wipeable
    op.create operationId before
    return .inl (decision.state, password)

/-- The body that ends with the password wiped. -/
def body : Method φ UserActivationOperationResult := do
  match ← op.prepare with
  | .inr result => return result
  | .inl (initialState, password) => op.activate initialState password

/-- `run`. -/
def run : Method φ UserActivationOperationResult := do
  match ← Op.get with
  | .other => Op.raise (.operation "activation password must use wipeable storage")
  | _ => op.body.ensuring Password.wipe

end UserActivation

end Operation

end T2TouchId.User.Activation
